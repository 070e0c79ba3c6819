import PackageMetadata.OrderedMap.Basic

/-!
# Ordered maps: what the operations do

Every operation is described by what it does to `get?`, and `get?` alone decides which map
it is.

**Results**

* `ext_get?`: maps with the same values under all keys are equal.
* `mem_toList_iff`: the entries are the keys with their values.
* `keys_ascend`, `nodup_keys`: the keys as a list.
* `get?_insert`, `get?_erase`, `get?_filter`, `get?_map`: one equation for each operation.
-/

namespace PackageMetadata
namespace OrderedMap

universe u v w

section Find

variable {κ : Type u} {α : Type v} [Ord κ]

/-- A key that differs from all keys of a list has no value there. -/
theorem find_eq_none
    {key : κ}
    {entries : List (κ × α)}
    (h : ∀ e ∈ entries, compare key e.1 ≠ .eq) :
    find key entries = none := by
  induction entries with
  | nil => rfl
  | cons entry rest ih =>
      simp only [find, h entry List.mem_cons_self, if_false]
      exact ih fun e he => h e (List.mem_cons_of_mem _ he)

/-- A value that is found stands in an entry of an equal key. -/
theorem mem_of_find
    {key : κ}
    {value : α}
    {entries : List (κ × α)}
    (h : find key entries = some value) :
    ∃ e ∈ entries, compare key e.1 = .eq ∧ e.2 = value := by
  induction entries with
  | nil => cases h
  | cons entry rest ih =>
      simp only [find] at h
      split at h
      · rename_i heq
        exact ⟨entry, List.mem_cons_self, heq, by simpa using h⟩
      · obtain ⟨e, he, hkey, hvalue⟩ := ih h
        exact ⟨e, List.mem_cons_of_mem _ he, hkey, hvalue⟩

/-- A placed entry is found under its key and hides nothing else. -/
theorem find_place
    [Std.TransOrd κ]
    [Std.LawfulEqOrd κ]
    {key other : κ}
    {value : α}
    {entries : List (κ × α)} :
    find other (place key value entries) =
      if compare other key = .eq then some value else find other entries := by
  induction entries with
  | nil => simp [place, find]
  | cons entry rest ih =>
      simp only [place]
      split
      · simp [find]
      · rename_i heq
        obtain rfl := Std.LawfulEqCmp.compare_eq_iff_eq.mp heq
        by_cases h : compare other entry.1 = .eq <;> simp [find, h]
      · rename_i hgt
        by_cases h : compare other entry.1 = .eq
        · obtain rfl := Std.LawfulEqCmp.compare_eq_iff_eq.mp h
          have hne : compare entry.1 key ≠ .eq := by
            intro heq
            obtain rfl := Std.LawfulEqCmp.compare_eq_iff_eq.mp heq
            rw [heq] at hgt
            cases hgt
          simp [find, hne]
        · simp [find, h, ih]

/-- Among distinct keys a key is found exactly where it stands. -/
theorem mem_iff_find
    [Std.LawfulEqOrd κ]
    {key : κ}
    {value : α}
    {entries : List (κ × α)}
    (hnodup : (entries.map Prod.fst).Nodup) :
    (key, value) ∈ entries ↔ find key entries = some value := by
  induction entries with
  | nil => simp [find]
  | cons entry rest ih =>
      obtain ⟨hentry, hrest⟩ := List.nodup_cons.mp hnodup
      by_cases h : compare key entry.1 = .eq
      · obtain rfl := Std.LawfulEqCmp.compare_eq_iff_eq.mp h
        have hnot : (entry.1, value) ∉ rest := fun hmem =>
          hentry (List.mem_map.mpr ⟨_, hmem, rfl⟩)
        simp only [find, h, if_true, List.mem_cons, hnot, or_false, Option.some.injEq]
        constructor
        · intro heq
          exact (congrArg Prod.snd heq).symm
        · intro heq
          exact Prod.ext rfl heq.symm
      · have hne : (key, value) ≠ entry := by
          rintro rfl
          exact h Std.ReflCmp.compare_self
        simp [find, h, hne, ih hrest]

/-- Ascending lists in which the same values are found are equal. -/
theorem eq_of_find_eq
    [Std.TransOrd κ]
    [Std.LawfulEqOrd κ]
    {left right : List (κ × α)}
    (hleft : left.Pairwise fun a b => compare a.1 b.1 = .lt)
    (hright : right.Pairwise fun a b => compare a.1 b.1 = .lt)
    (h : ∀ key, find key left = find key right) :
    left = right := by
  induction left generalizing right with
  | nil =>
      cases right with
      | nil => rfl
      | cons e rest =>
          have := h e.1
          simp [find] at this
  | cons d left ih =>
      cases right with
      | nil =>
          have := h d.1
          simp [find] at this
      | cons e right =>
          obtain ⟨hd, hleft'⟩ := List.pairwise_cons.mp hleft
          obtain ⟨he, hright'⟩ := List.pairwise_cons.mp hright
          have hbelow : ∀ {a : κ × α} {rest : List (κ × α)} {key : κ},
              (∀ b ∈ rest, compare a.1 b.1 = .lt) → compare key a.1 = .lt →
                find key rest = none := by
            intro a rest key hrest hkey
            refine find_eq_none fun b hb heq => ?_
            have := Std.TransCmp.lt_trans hkey (hrest b hb)
            rw [heq] at this
            cases this
          have htail : ∀ {a : κ × α} {rest : List (κ × α)},
              (∀ b ∈ rest, compare a.1 b.1 = .lt) → find a.1 rest = none := by
            intro a rest hrest
            refine find_eq_none fun b hb heq => ?_
            have := hrest b hb
            rw [heq] at this
            cases this
          cases hcmp : compare d.1 e.1 with
          | lt =>
              have hfound := h d.1
              simp [find, hcmp, hbelow he hcmp] at hfound
          | gt =>
              have hcmp' := Std.OrientedCmp.gt_iff_lt.mp hcmp
              have hfound := h e.1
              simp [find, hcmp', hbelow hd hcmp'] at hfound
          | eq =>
              have hkey := Std.LawfulEqCmp.compare_eq_iff_eq.mp hcmp
              have hvalue := h d.1
              simp only [find, hcmp, Std.ReflCmp.compare_self, if_true,
                Option.some.injEq] at hvalue
              have hde : d = e := Prod.ext hkey hvalue
              subst hde
              congr 1
              refine ih hleft' hright' fun key => ?_
              by_cases hk : compare key d.1 = .eq
              · obtain rfl := Std.LawfulEqCmp.compare_eq_iff_eq.mp hk
                rw [htail hd, htail he]
              · simpa [find, hk] using h key

end Find

section Views

variable {κ : Type u} {α : Type v} {β : Type w} [Ord κ]

@[simp] theorem get?_empty (key : κ) :
    (empty : OrderedMap κ α).get? key = none :=
  rfl

@[simp] theorem toList_empty :
    (empty : OrderedMap κ α).toList = [] :=
  rfl

@[simp] theorem contains_eq_isSome
    (m : OrderedMap κ α)
    (key : κ) :
    m.contains key = (m.get? key).isSome :=
  rfl

/-- Changing values changes them under their keys. -/
theorem get?_map
    (m : OrderedMap κ α)
    (f : α → β)
    (key : κ) :
    (m.map f).get? key = (m.get? key).map f := by
  cases m with
  | mk entries hordered =>
      simp only [get?, map]
      clear hordered
      induction entries with
      | nil => rfl
      | cons entry rest ih =>
          by_cases h : compare key entry.1 = .eq <;> simp [find, h, ih]

theorem keys_ascend (m : OrderedMap κ α) :
    m.keys.Pairwise fun a b => compare a b = .lt :=
  List.pairwise_map.mpr m.ordered

/-- No key of a map is listed twice. -/
theorem nodup_keys
    [Std.ReflOrd κ]
    (m : OrderedMap κ α) :
    m.keys.Nodup := by
  refine m.keys_ascend.imp fun {a b} hlt hsame => ?_
  have hself : compare b b = .eq := Std.ReflCmp.compare_self
  rw [hsame, hself] at hlt
  cases hlt

variable [Std.LawfulEqOrd κ]

/-- The entries are the keys with their values. -/
theorem mem_toList_iff
    {m : OrderedMap κ α}
    {key : κ}
    {value : α} :
    (key, value) ∈ m.toList ↔ m.get? key = some value :=
  mem_iff_find m.nodup_keys

/-- The keys are those that have a value. -/
theorem mem_keys_iff
    {m : OrderedMap κ α}
    {key : κ} :
    key ∈ m.keys ↔ (m.get? key).isSome = true := by
  simp only [keys, List.mem_map, Option.isSome_iff_exists]
  constructor
  · rintro ⟨e, he, rfl⟩
    exact ⟨e.2, mem_toList_iff.mp he⟩
  · rintro ⟨value, hvalue⟩
    exact ⟨(key, value), mem_toList_iff.mpr hvalue, rfl⟩

/-- A key is left by a filter if its value passes the test. -/
theorem get?_filter
    (m : OrderedMap κ α)
    (p : κ → α → Bool)
    (key : κ) :
    (m.filter p).get? key = (m.get? key).filter (p key) := by
  apply Option.ext
  intro value
  rw [← mem_toList_iff, Option.filter_eq_some_iff, ← mem_toList_iff]
  simp [filter]

/-- An erased key has no value and all others keep theirs. -/
theorem get?_erase
    [DecidableEq κ]
    (m : OrderedMap κ α)
    (key other : κ) :
    (m.erase key).get? other = if other = key then none else m.get? other := by
  rw [erase, get?_filter]
  by_cases h : other = key
  · subst h
    cases m.get? other <;> simp [Option.filter, Std.ReflCmp.compare_self]
  · have hne : compare key other ≠ .eq := fun heq =>
      h (Std.LawfulEqCmp.compare_eq_iff_eq.mp heq).symm
    cases m.get? other <;> simp [Option.filter, h, hne]

variable [Std.TransOrd κ]

/-- The values under the keys make the map. -/
theorem ext_get?
    {m n : OrderedMap κ α}
    (h : ∀ key, m.get? key = n.get? key) :
    m = n := by
  cases m with
  | mk left hleft =>
      cases n with
      | mk right hright =>
          obtain rfl : left = right := eq_of_find_eq hleft hright h
          rfl

/-- An inserted key has its new value and all others keep theirs. -/
theorem get?_insert
    [DecidableEq κ]
    (m : OrderedMap κ α)
    (key other : κ)
    (value : α) :
    (m.insert key value).get? other = if other = key then some value else m.get? other := by
  simp only [get?, insert, find_place, Std.LawfulEqCmp.compare_eq_iff_eq]

end Views

end OrderedMap
end PackageMetadata
