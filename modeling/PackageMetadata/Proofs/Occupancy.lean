import Mathlib.Data.List.Nodup
import Mathlib.Data.Set.Card
import PackageMetadata.Proofs.Bucket

/-!
# What a tracker is like after every run

A tracker looks its entries up by key, counts its keys and says whether it is empty, and it never
asks whether there is an entry under a key that it has.  It need not: a key goes with its last
entry.  Under a key there are only entries of this key, no two packages have one main slot of
it, and so no package is held twice.  All this is independent of what packages count as the same
one, and a request that fails breaks none of it.

**Definitions**

* `packages`, `packagesOf`: the packages that are held, all of them and those under a key.
* `WellFormed`: what holds of a tracker at every point of a run.

**Results**

* `wellFormed_of_shows`: a tracker that shows a roster is well-formed.
* `wellFormed_after`: every run from the start leaves a well-formed tracker.
-/

namespace PackageMetadata
namespace Tracker

variable {P R : Type}

section Definitions

/-- All packages that are held, key by key. -/
def packages (tracker : Tracker P R) : List P :=
  tracker.buckets.toList.flatMap fun bucket => bucket.2.filterMap Entry.occupant?

/-- The packages that are held under a key. -/
def packagesOf
    (tracker : Tracker P R)
    (key : String) :
    List P :=
  (tracker.entries key).filterMap Entry.occupant?

/-- What holds of a tracker at every point of a run. -/
structure WellFormed
    [Slotted P]
    [Restriction R P]
    (tracker : Tracker P R) :
    Prop where
  /-- There is no key without entries. -/
  kept : ∀ key, tracker.buckets.get? key ≠ some []
  /-- What stands under a key has that key. -/
  keyed : ∀ key, ∀ entry ∈ tracker.entries key, entry.key = key
  /-- Each main slot of a key is held once at most. -/
  slots : ∀ key, ((tracker.packagesOf key).map fun package => (Slotted.slot package).main).Nodup
  /-- No package is held twice. -/
  packages : tracker.packages.Nodup
  /-- A key is there exactly if there are entries under it. -/
  containsKey : ∀ key, tracker.containsKey key = true ↔ tracker.entries key ≠ []
  /-- The keys that have entries are counted. -/
  size : {key | tracker.entries key ≠ []}.encard = tracker.size
  /-- A tracker is empty exactly if no key has entries. -/
  isEmpty : tracker.isEmpty = true ↔ ∀ key, tracker.entries key = []

end Definitions

section Keys

variable {tracker : Tracker P R}

/-- If no key is without entries, then the keys are those that have entries. -/
theorem mem_keys_iff
    (hkept : ∀ key, tracker.buckets.get? key ≠ some [])
    {key : String} :
    key ∈ tracker.buckets.keys ↔ tracker.entries key ≠ [] := by
  rw [OrderedMap.mem_keys_iff, entries]
  cases hbucket : tracker.buckets.get? key with
  | none =>
      simp
  | some bucket =>
      have hfull : bucket ≠ [] := by
        rintro rfl
        exact hkept key hbucket
      simp [hfull]

theorem encard_keys
    (hkept : ∀ key, tracker.buckets.get? key ≠ some []) :
    {key | tracker.entries key ≠ []}.encard = tracker.size := by
  have hkeys : {key | tracker.entries key ≠ []} = (tracker.buckets.keys.toFinset : Set String) := by
    ext key
    simp [← mem_keys_iff hkept]
  rw [hkeys, Set.encard_coe_eq_coe_finsetCard,
    List.toFinset_card_of_nodup tracker.buckets.nodup_keys, OrderedMap.length_keys, size]

theorem isEmpty_iff
    (hkept : ∀ key, tracker.buckets.get? key ≠ some []) :
    tracker.isEmpty = true ↔ ∀ key, tracker.entries key = [] := by
  rw [isEmpty, OrderedMap.isEmpty_iff_keys, List.eq_nil_iff_forall_not_mem]
  simp only [mem_keys_iff hkept, not_not]

end Keys

section Packages

variable [Slotted P] [Restriction R P] {tracker : Tracker P R}

omit [Restriction R P] in
/-- Packages of one key that exclude each other have different main slots. -/
theorem nodup_slots
    {entries : List (Entry P R)}
    {key : String}
    (h : Exclusive entries)
    (hkey : ∀ package ∈ entries.filterMap Entry.occupant?, Slotted.key package = key) :
    ((entries.filterMap Entry.occupant?).map fun package => (Slotted.slot package).main).Nodup := by
  have hpairwise := pairwise_occupants h
  refine List.pairwise_map.mpr (hpairwise.imp_of_mem fun {a b} ha hb hab => ?_)
  have hdiffer := hab ((hkey a ha).trans (hkey b hb).symm)
  exact beq_eq_false_iff_ne.mp hdiffer

omit [Restriction R P] in
/-- A package is found under its own key only, and there it has its slot for itself. -/
theorem nodup_packages
    (hkeyed : ∀ key, ∀ package ∈ tracker.packagesOf key, Slotted.key package = key)
    (hslots : ∀ key,
      ((tracker.packagesOf key).map fun package => (Slotted.slot package).main).Nodup) :
    tracker.packages.Nodup := by
  have hbucket : ∀ bucket ∈ tracker.buckets.toList,
      bucket.2.filterMap Entry.occupant? = tracker.packagesOf bucket.1 := by
    intro bucket hmem
    rw [packagesOf, entries, OrderedMap.mem_toList_iff.mp hmem, Option.getD_some]
  refine List.nodup_flatMap.mpr ⟨fun bucket hmem => ?_, ?_⟩
  · rw [hbucket bucket hmem]
    exact (hslots bucket.1).of_map
  · -- A package has one key, so it is in one bucket only.
    have hkeys : tracker.buckets.toList.Pairwise fun a b => a.1 ≠ b.1 :=
      List.pairwise_map.mp tracker.buckets.nodup_keys
    refine hkeys.imp_of_mem fun {a b} ha hb hab => ?_
    rw [Function.onFun, hbucket a ha, hbucket b hb]
    intro package hpackage hother
    exact hab ((hkeyed a.1 package hpackage).symm.trans (hkeyed b.1 package hother))

variable {roster : Roster P R}

/-- A tracker that shows a roster is well-formed. -/
theorem wellFormed_of_shows (h : tracker.Shows roster) : tracker.WellFormed := by
  have hkept : ∀ key, tracker.buckets.get? key ≠ some [] := by
    intro key
    rw [h.buckets]
    split
    · exact nofun
    · rename_i hfull
      exact fun hnil => hfull (Option.some.inj hnil)
  have hkeyed : ∀ key, ∀ package ∈ tracker.packagesOf key, Slotted.key package = key :=
    fun key package hpackage =>
      key_of_mem_entries h (Entry.mem_filterMap_occupant?.mp hpackage)
  have hslots : ∀ key,
      ((tracker.packagesOf key).map fun package => (Slotted.slot package).main).Nodup := by
    intro key
    refine nodup_slots ?_ (hkeyed key)
    rw [entries_eq h]
    exact exclusive_filter h.exclusive _
  exact {
    kept := hkept
    keyed := fun _ _ hentry => key_of_mem_entries h hentry
    slots := hslots
    packages := nodup_packages hkeyed hslots
    containsKey := fun _ => OrderedMap.mem_keys_iff.symm.trans (mem_keys_iff hkept)
    size := encard_keys hkept
    isEmpty := isEmpty_iff hkept
  }

variable [DecidableEq P] [DecidableEq R]

/-- Every run from the start leaves a well-formed tracker, with requests that failed among the
others. -/
theorem wellFormed_after (requests : List (Request P R)) :
    ((empty : Tracker P R).after requests).WellFormed :=
  wellFormed_of_shows (after_shows requests)

end Packages

end Tracker
end PackageMetadata
