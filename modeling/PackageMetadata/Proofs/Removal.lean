import PackageMetadata.OrderedMap.Lemmas
import PackageMetadata.Slots.Tracker

/-!
# Taking an entry out of a tracker

An entry is looked for under its own key only.  If it is there then it goes with all its copies,
and nothing else happens to the tracker: the other entries of the key stay in their order, and the
key stays as long as there are any.  If it is not there then the tracker stays as it is.  This is
so for every tracker, whether or not a run leads to it.

**Definitions**

* `Reduced`: a tracker that lacks one entry of another one.

**Results**

* `remove_of_mem`, `remove_of_not_mem`: the two things that can happen.
* `result_remove_eq_ok_iff`: which of them it is.
-/

namespace PackageMetadata
namespace Tracker

variable {P R : Type} [Slotted P] [Restriction R P] [DecidableEq P] [DecidableEq R]

/-- A tracker that is what another one leaves if an entry is taken out. -/
structure Reduced
    (tracker : Tracker P R)
    (entry : Entry P R)
    (after : Tracker P R) :
    Prop where
  /-- The other entries of the key stay in their order, and the key goes if there are none. -/
  own :
    let left := (tracker.entries entry.key).filter fun other => other != entry
    after.buckets.get? entry.key = if left = [] then none else some left
  /-- Under any other key nothing changes. -/
  elsewhere : ∀ key, key ≠ entry.key → after.buckets.get? key = tracker.buckets.get? key

section Removing

variable {tracker : Tracker P R} {entry : Entry P R}

omit [DecidableEq P] [DecidableEq R] [Slotted P] [Restriction R P] in
theorem get?_of_mem_entries
    {key : String}
    (h : entry ∈ tracker.entries key) :
    tracker.buckets.get? key = some (tracker.entries key) := by
  rw [entries] at h ⊢
  cases hbucket : tracker.buckets.get? key with
  | none =>
      rw [hbucket] at h
      cases h
  | some bucket =>
      rfl

/-- An entry that is there is taken out. -/
theorem remove_of_mem (h : entry ∈ tracker.entries entry.key) :
    ∃ after, tracker.remove entry = .done () after ∧ tracker.Reduced entry after := by
  have hshorter :
      ((tracker.entries entry.key).filter fun other => other != entry).length ≠
        (tracker.entries entry.key).length := by
    rw [Ne, List.length_filter_eq_length_iff]
    intro hall
    have hself := hall entry h
    simp at hself
  rw [remove, get?_of_mem_entries h]
  simp only [if_neg hshorter]
  cases hleft : (tracker.entries entry.key).filter fun other => other != entry with
  | nil =>
      refine ⟨⟨tracker.buckets.erase entry.key⟩, rfl, ?_, fun key hkey => ?_⟩
      · simp only [hleft, OrderedMap.get?_erase, if_true]
      · rw [OrderedMap.get?_erase, if_neg hkey]
  | cons other rest =>
      refine ⟨⟨tracker.buckets.insert entry.key (other :: rest)⟩, rfl, ?_, fun key hkey => ?_⟩
      · simp only [hleft, OrderedMap.get?_insert, if_true]
        rw [if_neg (List.cons_ne_nil other rest)]
      · rw [OrderedMap.get?_insert, if_neg hkey]

/-- An entry that is not there is not found, and nothing happens. -/
theorem remove_of_not_mem (h : entry ∉ tracker.entries entry.key) :
    tracker.remove entry =
      .failed
        (if tracker.containsKey entry.key then .notSlotted entry.key else .noSlots entry.key)
        tracker := by
  rw [entries] at h
  rw [remove, containsKey, OrderedMap.contains_eq_isSome]
  cases hbucket : tracker.buckets.get? entry.key with
  | none =>
      rfl
  | some bucket =>
      rw [hbucket] at h
      have hsame : (bucket.filter fun other => other != entry).length = bucket.length := by
        rw [List.length_filter_eq_length_iff]
        intro other hother
        rw [bne_iff_ne]
        rintro rfl
        exact h hother
      simp [hsame]

theorem result_remove_eq_ok_iff :
    (tracker.remove entry).result = .ok () ↔ entry ∈ tracker.entries entry.key := by
  by_cases h : entry ∈ tracker.entries entry.key
  · obtain ⟨after, hremove, -⟩ := remove_of_mem h
    rw [hremove]
    exact iff_of_true rfl h
  · rw [remove_of_not_mem h]
    exact iff_of_false nofun h

end Removing

end Tracker
end PackageMetadata
