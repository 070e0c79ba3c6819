import PackageMetadata.OrderedMap.Lemmas

/-!
# Ordered maps: steps in a row

A map is often built step by step from a list, where each step gives one key its value or
takes the value away.  However long the list is, under a key stands what the last step of
that key has left there.

**Results**

* `get?_foldl`: the last step of a key decides.
* `get?_ofList_eq_some_iff`: the last entry of a key stays.
* `get?_override`: the second map decides on common keys.
* `ofList_append`: what comes later in a list overrides what comes earlier.
* `ofList_eq_of_perm`: the order of distinct keys does not matter.
* `ofList_toList`: a map is rebuilt from its entries.
* `get?_filterMap`: a map whose values are changed or dropped one by one.
* `mergeSort_eq_keys`: keys that are collected in any order and then sorted.
-/

namespace PackageMetadata
namespace OrderedMap

universe u v w

section Find

variable {κ : Type u} {α : Type v} [Ord κ]

@[simp] theorem get?_emptyCollection (key : κ) :
    (∅ : OrderedMap κ α).get? key = none :=
  rfl

theorem find_append
    (key : κ)
    (left right : List (κ × α)) :
    find key (left ++ right) = (find key left).or (find key right) := by
  induction left with
  | nil =>
      simp [find]
  | cons entry left ih =>
      by_cases h : compare key entry.1 = .eq
      · simp [find, h]
      · simp [find, h, ih]

/-- Among distinct keys the order does not matter. -/
theorem find_eq_of_perm
    [Std.LawfulEqOrd κ]
    {left right : List (κ × α)}
    (h : left.Perm right)
    (hnodup : (left.map Prod.fst).Nodup)
    (key : κ) :
    find key left = find key right := by
  refine Option.ext fun value => ?_
  have hright : (right.map Prod.fst).Nodup := (h.map Prod.fst).nodup_iff.mp hnodup
  rw [← mem_iff_find hnodup, ← mem_iff_find hright, h.mem_iff]

theorem find_eq_none_iff
    [Std.TransOrd κ]
    [Std.LawfulEqOrd κ]
    {key : κ}
    {entries : List (κ × α)} :
    find key entries = none ↔ ∀ e ∈ entries, e.1 ≠ key := by
  induction entries with
  | nil =>
      simp [find]
  | cons entry rest ih =>
      by_cases h : compare key entry.1 = .eq
      · obtain rfl := Std.LawfulEqCmp.compare_eq_iff_eq.mp h
        simp [find]
      · have hne : entry.1 ≠ key := fun heq => h (heq ▸ Std.ReflCmp.compare_self)
        simp [find, h, hne, ih]

theorem find_singleton_eq_some_iff
    [Std.LawfulEqOrd κ]
    {key : κ}
    {value : α}
    {entry : κ × α} :
    find key [entry] = some value ↔ entry = (key, value) := by
  obtain ⟨other, held⟩ := entry
  by_cases h : key = other
  · subst h
    simp [find, Std.ReflCmp.compare_self]
  · have hne : compare key other ≠ .eq := fun heq => h (Std.LawfulEqCmp.compare_eq_iff_eq.mp heq)
    simp [find, hne, Ne.symm h]

end Find

section Steps

variable {κ : Type u} {α : Type v} {β : Type w}
variable [Ord κ] [Std.LawfulEqOrd κ] [DecidableEq κ]

/-- Of the steps that a list makes, the last one with a key decides what stands under that
key.  A key without a step keeps its value. -/
theorem get?_foldl
    {f : OrderedMap κ α → κ × β → OrderedMap κ α}
    {g : β → Option α}
    (hstep : ∀ m entry key,
      (f m entry).get? key = if key = entry.1 then g entry.2 else m.get? key)
    (m : OrderedMap κ α)
    (entries : List (κ × β))
    (key : κ) :
    (entries.foldl f m).get? key =
      (find key entries.reverse).elim (m.get? key) g := by
  induction entries generalizing m with
  | nil =>
      rfl
  | cons entry rest ih =>
      rw [List.foldl_cons, ih, List.reverse_cons, find_append, hstep]
      cases find key rest.reverse with
      | some value =>
          rfl
      | none =>
          by_cases h : key = entry.1
          · subst h
            simp [find]
          · have hne : compare key entry.1 ≠ .eq := fun heq =>
              h (Std.LawfulEqCmp.compare_eq_iff_eq.mp heq)
            simp [find, h, hne]

/-- Steps of distinct keys: what the list says about a key is what its one step says. -/
theorem get?_foldl_toList
    {f : OrderedMap κ α → κ × β → OrderedMap κ α}
    {g : β → Option α}
    (hstep : ∀ m entry key,
      (f m entry).get? key = if key = entry.1 then g entry.2 else m.get? key)
    (m : OrderedMap κ α)
    (steps : OrderedMap κ β)
    (key : κ) :
    (steps.toList.foldl f m).get? key =
      (steps.get? key).elim (m.get? key) g := by
  rw [get?_foldl hstep, ← find_eq_of_perm (List.reverse_perm _).symm steps.nodup_keys]
  rfl

variable [Std.TransOrd κ]

theorem get?_insertAll
    (m : OrderedMap κ α)
    (entries : List (κ × α))
    (key : κ) :
    (m.insertAll entries).get? key = (find key entries.reverse).or (m.get? key) := by
  rw [insertAll, get?_foldl (g := some) fun m entry key => get?_insert m entry.1 key entry.2]
  cases find key entries.reverse <;> rfl

theorem get?_override
    (m other : OrderedMap κ α)
    (key : κ) :
    (m.override other).get? key = (other.get? key).or (m.get? key) := by
  rw [override, get?_insertAll, ← find_eq_of_perm (List.reverse_perm _).symm other.nodup_keys]
  rfl

theorem get?_ofList
    (entries : List (κ × α))
    (key : κ) :
    (ofList entries).get? key = find key entries.reverse := by
  rw [ofList, get?_insertAll, get?_empty, Option.or_none]

/-- What comes later in a list overrides what comes earlier. -/
theorem ofList_append
    (front back : List (κ × α)) :
    ofList (front ++ back) = (ofList front).override (ofList back) := by
  refine ext_get? fun key => ?_
  rw [get?_override, get?_ofList, get?_ofList, get?_ofList, List.reverse_append, find_append]

/-- The order in which distinct keys are listed does not matter. -/
theorem ofList_eq_of_perm
    {left right : List (κ × α)}
    (h : left.Perm right)
    (hnodup : (left.map Prod.fst).Nodup) :
    ofList left = ofList right := by
  refine ext_get? fun key => ?_
  have hreverse : left.reverse.Perm right.reverse :=
    ((List.reverse_perm left).trans h).trans (List.reverse_perm right).symm
  have hkeys : (left.reverse.map Prod.fst).Nodup :=
    ((List.reverse_perm left).map Prod.fst).nodup_iff.mpr hnodup
  rw [get?_ofList, get?_ofList, find_eq_of_perm hreverse hkeys]

/-- A map has no entry that is not in the list that it was made of. -/
theorem mem_of_mem_ofList
    {entries : List (κ × α)}
    {entry : κ × α}
    (h : entry ∈ (ofList entries).toList) :
    entry ∈ entries := by
  have hget := mem_toList_iff.mp h
  rw [get?_ofList] at hget
  obtain ⟨other, hmem, hkey, hvalue⟩ := mem_of_find hget
  have heq : entry = other :=
    Prod.ext (Std.LawfulEqCmp.compare_eq_iff_eq.mp hkey) hvalue.symm
  rw [heq]
  exact List.mem_reverse.mp hmem

/-- Every key of a list is in the map that is made of it. -/
theorem mem_keys_ofList
    {entries : List (κ × α)}
    {entry : κ × α}
    (h : entry ∈ entries) :
    entry.1 ∈ (ofList entries).keys := by
  rw [mem_keys_iff, get?_ofList, Option.isSome_iff_ne_none]
  intro hnone
  exact find_eq_none_iff.mp hnone entry (List.mem_reverse.mpr h) rfl

/-- Under a key stands the value of the last entry that a list has of it. -/
theorem get?_ofList_eq_some_iff
    {entries : List (κ × α)}
    {key : κ}
    {value : α} :
    (ofList entries).get? key = some value ↔
      ∃ i, entries[i]? = some (key, value) ∧
        ∀ (later : Nat) (entry : κ × α), i < later → entries[later]? = some entry → entry.1 ≠ key := by
  rw [get?_ofList]
  induction entries with
  | nil =>
      simp [find]
  | cons entry rest ih =>
      rw [List.reverse_cons, find_append, Option.or_eq_some_iff, ih, find_eq_none_iff,
        find_singleton_eq_some_iff]
      constructor
      · rintro (⟨i, hi, hbehind⟩ | ⟨hnone, rfl⟩)
        · refine ⟨i + 1, hi, fun later other hlater hother => ?_⟩
          obtain ⟨later, rfl⟩ := Nat.exists_eq_succ_of_ne_zero (Nat.ne_zero_of_lt hlater)
          exact hbehind later other (by omega) hother
        · refine ⟨0, rfl, fun later other hlater hother => ?_⟩
          obtain ⟨later, rfl⟩ := Nat.exists_eq_succ_of_ne_zero (Nat.ne_zero_of_lt hlater)
          exact hnone other (List.mem_reverse.mpr (List.mem_of_getElem? hother))
      · rintro ⟨i, hi, hbehind⟩
        cases i with
        | zero =>
            refine .inr ⟨fun other hother => ?_, Option.some.inj hi⟩
            obtain ⟨later, hlater⟩ := List.getElem?_of_mem (List.mem_reverse.mp hother)
            exact hbehind (later + 1) other (by omega) hlater
        | succ i =>
            exact .inl ⟨i, hi, fun later other hlater =>
              hbehind (later + 1) other (by omega)⟩

theorem ofList_toList (m : OrderedMap κ α) :
    ofList m.toList = m := by
  refine ext_get? fun key => ?_
  have h := get?_override empty m key
  rw [get?_empty, Option.or_none] at h
  exact h

theorem ofList_reverse_toList (m : OrderedMap κ α) :
    ofList m.toList.reverse = m := by
  rw [← ofList_eq_of_perm (List.reverse_perm _).symm m.nodup_keys, ofList_toList]

end Steps

section PartialMap

variable {κ : Type u} {α : Type v} {β : Type w} [Ord κ]

/-- Changes the values one by one and leaves out those that come to nothing. -/
def filterMap
    (m : OrderedMap κ α)
    (f : κ → α → Option β) :
    OrderedMap κ β :=
  ⟨m.toList.filterMap fun entry => (f entry.1 entry.2).map fun value => (entry.1, value), by
    refine m.ordered.filterMap _ ?_
    rintro ⟨k, x⟩ ⟨l, y⟩ hlt a ha b hb
    simp only [Option.map_eq_some_iff] at ha hb
    obtain ⟨_, -, rfl⟩ := ha
    obtain ⟨_, -, rfl⟩ := hb
    exact hlt⟩

theorem get?_filterMap
    [Std.TransOrd κ]
    [Std.LawfulEqOrd κ]
    (m : OrderedMap κ α)
    (f : κ → α → Option β)
    (key : κ) :
    (m.filterMap f).get? key = (m.get? key).bind (f key) := by
  refine Option.ext fun value => ?_
  rw [← mem_toList_iff, Option.bind_eq_some_iff]
  simp only [filterMap, List.mem_filterMap, Option.map_eq_some_iff]
  constructor
  · rintro ⟨⟨k, x⟩, hmem, y, hy, heq⟩
    obtain ⟨rfl, rfl⟩ := Prod.mk.inj heq
    exact ⟨x, mem_toList_iff.mp hmem, hy⟩
  · rintro ⟨x, hx, hvalue⟩
    exact ⟨(key, x), mem_toList_iff.mpr hx, value, hvalue, rfl⟩

end PartialMap

section Keys

variable {κ : Type u} {α : Type v} [Ord κ]

theorem length_keys (m : OrderedMap κ α) :
    m.keys.length = m.size :=
  List.length_map _

theorem isEmpty_iff_keys {m : OrderedMap κ α} :
    m.isEmpty = true ↔ m.keys = [] := by
  rw [isEmpty, List.isEmpty_iff, keys, List.map_eq_nil_iff]

/-- Whoever collects the keys of a map in any order, each of them once, and sorts them has the keys
as they are listed. -/
theorem mergeSort_eq_keys
    [Std.TransOrd κ]
    [Std.LawfulEqOrd κ]
    {m : OrderedMap κ α}
    {collected : List κ}
    (hnodup : collected.Nodup)
    (hmem : ∀ key, key ∈ collected ↔ (m.get? key).isSome = true) :
    (collected.mergeSort fun a b => (compare a b).isLE) = m.keys := by
  have hperm : (collected.mergeSort fun a b => (compare a b).isLE).Perm m.keys := by
    refine (List.mergeSort_perm _ _).trans ?_
    refine (List.perm_ext_iff_of_nodup hnodup m.nodup_keys).mpr fun key => ?_
    rw [hmem, mem_keys_iff]
  have htotal (a b : κ) : ((compare a b).isLE || (compare b a).isLE) = true := by
    have hswap : compare b a = (compare a b).swap := Std.OrientedCmp.eq_swap
    rw [hswap]
    cases compare a b <;> rfl
  have hsorted : (collected.mergeSort fun a b => (compare a b).isLE).Pairwise
      fun a b => (compare a b).isLE = true :=
    List.pairwise_mergeSort (fun _ _ _ => Std.TransCmp.isLE_trans) htotal collected
  have hkeys : m.keys.Pairwise fun a b => (compare a b).isLE = true :=
    m.keys_ascend.imp fun hlt => by rw [hlt]; rfl
  refine hperm.eq_of_pairwise (fun a b _ _ hab hba => ?_) hsorted hkeys
  exact Std.LawfulEqCmp.compare_eq_iff_eq.mp (Std.OrientedCmp.isLE_antisymm hab hba)

end Keys

end OrderedMap
end PackageMetadata
