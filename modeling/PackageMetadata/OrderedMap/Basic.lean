/-!
# Ordered maps

A finite map is kept as the list of its entries, strictly ascending by key.  The order is
part of the type, so two maps with the same entries are equal, and the order in which a
map is listed is the order of its keys.  Keys are compared by `compare`, which the
operations expect to be a lawful linear order.
-/

namespace PackageMetadata

universe u v w

/-- A finite map as the list of its entries in the order of their keys. -/
structure OrderedMap
    (κ : Type u)
    (α : Type v)
    [Ord κ] where
  /-- The entries, smallest key first. -/
  toList : List (κ × α)
  /-- Every key is smaller than all keys behind it. -/
  ordered : toList.Pairwise fun a b => compare a.1 b.1 = .lt
deriving DecidableEq

namespace OrderedMap

section Entries

variable {κ : Type u} {α : Type v} [Ord κ]

/-- Puts an entry into its place in an ascending list, in place of one with the same key. -/
def place
    (key : κ)
    (value : α) :
    List (κ × α) → List (κ × α)
  | [] => [(key, value)]
  | entry :: rest =>
      match compare key entry.1 with
      | .lt => (key, value) :: entry :: rest
      | .eq => (key, value) :: rest
      | .gt => entry :: place key value rest

/-- The value of the first entry with the given key. -/
def find
    (key : κ) :
    List (κ × α) → Option α
  | [] => none
  | entry :: rest =>
      if compare key entry.1 = .eq then
        some entry.2
      else
        find key rest

/-- A placed entry adds nothing but itself. -/
theorem mem_of_mem_place
    {key : κ}
    {value : α}
    {entries : List (κ × α)}
    {e : κ × α}
    (h : e ∈ place key value entries) :
    e = (key, value) ∨ e ∈ entries := by
  induction entries with
  | nil => simpa [place] using h
  | cons entry rest ih =>
      simp only [place] at h
      split at h
      · simpa using h
      · rcases List.mem_cons.mp h with h | h
        · exact Or.inl h
        · exact Or.inr (List.mem_cons_of_mem _ h)
      · rcases List.mem_cons.mp h with h | h
        · exact Or.inr (h ▸ List.mem_cons_self)
        · exact (ih h).imp id (List.mem_cons_of_mem _)

/-- Placing an entry keeps the list ascending. -/
theorem ordered_place
    [Std.TransOrd κ]
    {key : κ}
    {value : α}
    {entries : List (κ × α)}
    (h : entries.Pairwise fun a b => compare a.1 b.1 = .lt) :
    (place key value entries).Pairwise fun a b => compare a.1 b.1 = .lt := by
  induction entries with
  | nil => simp [place]
  | cons entry rest ih =>
      obtain ⟨hentry, hrest⟩ := List.pairwise_cons.mp h
      simp only [place]
      split
      · rename_i hlt
        refine List.pairwise_cons.mpr ⟨?_, h⟩
        intro e he
        rcases List.mem_cons.mp he with rfl | he
        · exact hlt
        · exact Std.TransCmp.lt_trans hlt (hentry e he)
      · rename_i heq
        refine List.pairwise_cons.mpr ⟨?_, hrest⟩
        intro e he
        exact Std.TransCmp.lt_of_eq_of_lt heq (hentry e he)
      · rename_i hgt
        refine List.pairwise_cons.mpr ⟨?_, ih hrest⟩
        intro e he
        rcases mem_of_mem_place he with rfl | he
        · exact Std.OrientedCmp.gt_iff_lt.mp hgt
        · exact hentry e he

end Entries

section Operations

variable {κ : Type u} {α : Type v} {β : Type w} [Ord κ]

/-- The map without entries. -/
def empty : OrderedMap κ α :=
  ⟨[], List.Pairwise.nil⟩

instance : Inhabited (OrderedMap κ α) :=
  ⟨empty⟩

instance : EmptyCollection (OrderedMap κ α) :=
  ⟨empty⟩

/-- The value of a key. -/
def get?
    (m : OrderedMap κ α)
    (key : κ) :
    Option α :=
  find key m.toList

/-- Whether a key has a value. -/
def contains
    (m : OrderedMap κ α)
    (key : κ) :
    Bool :=
  (m.get? key).isSome

/-- The keys in ascending order. -/
def keys (m : OrderedMap κ α) : List κ :=
  m.toList.map Prod.fst

/-- The number of keys. -/
def size (m : OrderedMap κ α) : Nat :=
  m.toList.length

/-- Whether there is no key. -/
def isEmpty (m : OrderedMap κ α) : Bool :=
  m.toList.isEmpty

/-- Gives a key a value, in place of any earlier one. -/
def insert
    [Std.TransOrd κ]
    (m : OrderedMap κ α)
    (key : κ)
    (value : α) :
    OrderedMap κ α :=
  ⟨place key value m.toList, ordered_place m.ordered⟩

/-- Keeps the entries that satisfy a test. -/
def filter
    (m : OrderedMap κ α)
    (p : κ → α → Bool) :
    OrderedMap κ α :=
  ⟨m.toList.filter fun entry => p entry.1 entry.2, m.ordered.filter _⟩

/-- Takes a key out. -/
def erase
    (m : OrderedMap κ α)
    (key : κ) :
    OrderedMap κ α :=
  m.filter fun other _ => compare key other != .eq

/-- Changes every value and no key. -/
def map
    (m : OrderedMap κ α)
    (f : α → β) :
    OrderedMap κ β :=
  ⟨m.toList.map fun entry => (entry.1, f entry.2),
    List.pairwise_map.mpr m.ordered⟩

/-- Adds entries one after the other, so that the last one of a key stays. -/
def insertAll
    [Std.TransOrd κ]
    (m : OrderedMap κ α)
    (entries : List (κ × α)) :
    OrderedMap κ α :=
  entries.foldl (fun m entry => m.insert entry.1 entry.2) m

/-- The map of a list of entries.  The last entry of a key stays. -/
def ofList
    [Std.TransOrd κ]
    (entries : List (κ × α)) :
    OrderedMap κ α :=
  empty.insertAll entries

/-- The entries of both maps, where the second one decides on common keys. -/
def override
    [Std.TransOrd κ]
    (m other : OrderedMap κ α) :
    OrderedMap κ α :=
  m.insertAll other.toList

end Operations

end OrderedMap
end PackageMetadata
