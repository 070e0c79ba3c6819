import PackageMetadata.OrderedMap.Lemmas
import PackageMetadata.Outcome
import PackageMetadata.Slots.Entry

/-!
# Tracking slot conflicts

While a plan is made, a tracker holds the packages that have a slot and the blockers that
stand, key by key and in the order in which they came.  A package is turned away, together
with everything it conflicts with, if a blocker under its key forbids it or if another
package has its slot.  A blocker is always taken in and is told which packages it forbids.

Whatever comes to a key finds a list of entries there, which is made if there is none.  It
does not stay empty: nothing is in the way of a package that finds nothing.

**Results**

* `fill_eq`, `limit_eq`: the operations without the list that is made for a key.
-/

namespace PackageMetadata

/-- The entries of each key, earliest first. -/
structure Tracker (P R : Type) where
  buckets : OrderedMap String (List (Entry P R)) := ∅

namespace Tracker

variable {P R : Type}

/-- The tracker that holds nothing. -/
def empty : Tracker P R :=
  {}

/-- The entries under a key, earliest first. -/
def entries
    (tracker : Tracker P R)
    (key : String) :
    List (Entry P R) :=
  (tracker.buckets.get? key).getD []

/-- Whether there are entries under a key. -/
def containsKey
    (tracker : Tracker P R)
    (key : String) :
    Bool :=
  tracker.buckets.contains key

/-- The number of keys that have entries. -/
def size (tracker : Tracker P R) : Nat :=
  tracker.buckets.size

/-- Whether nothing is held. -/
def isEmpty (tracker : Tracker P R) : Bool :=
  tracker.buckets.isEmpty

/-- Makes an empty list of entries for a key that has none. -/
def withBucket
    (tracker : Tracker P R)
    (key : String) :
    Tracker P R :=
  if tracker.containsKey key then tracker else ⟨tracker.buckets.insert key []⟩

/-- Adds an entry behind the others of a key. -/
def append
    (tracker : Tracker P R)
    (key : String)
    (entry : Entry P R) :
    Tracker P R :=
  ⟨tracker.buckets.insert key (tracker.entries key ++ [entry])⟩

variable [Slotted P] [Restriction R P]

section Conflicts

/-- Whether two packages take the same main slot. -/
def sharesSlot (a b : P) : Bool :=
  (Slotted.slot a).main == (Slotted.slot b).main

/-- Whether some blocker among the entries forbids a package. -/
def forbids
    (bucket : List (Entry P R))
    (package : P) :
    Bool :=
  (bucket.filterMap Entry.blocker?).any fun restriction =>
    Restriction.blocks restriction package

/-- What a candidate meets among the entries of its key. -/
inductive Encounter (P R : Type) where
  /-- A package that counts as the candidate has the slot already. -/
  | present (occupant : P)
  /-- The entries that stand in the way, if any, in their order. -/
  | conflicts (entries : List (Entry P R))

/-- Goes through entries until a package turns up that counts as the candidate. -/
def encounter
    (candidate : P) :
    List (Entry P R) → Encounter P R
  | [] => .conflicts []
  | .blocker restriction :: rest =>
      match encounter candidate rest with
      | .present occupant => .present occupant
      | .conflicts found =>
          if Restriction.blocks restriction candidate then
            .conflicts (.blocker restriction :: found)
          else
            .conflicts found
  | .occupant package :: rest =>
      if sharesSlot package candidate then
        if Slotted.agrees package candidate then
          .present package
        else
          match encounter candidate rest with
          | .present occupant => .present occupant
          | .conflicts found => .conflicts (.occupant package :: found)
      else
        encounter candidate rest

end Conflicts

section Operations

/-- Gives a package its slot if nothing stands in the way, and answers what does.  A package
that is there already is left alone.  It is a failure if a blocker forbids it all the
same. -/
def fill
    (tracker : Tracker P R)
    (candidate : P) :
    Outcome (Tracker P R) (List (Entry P R)) :=
  let key := Slotted.key candidate
  let opened := tracker.withBucket key
  let bucket := opened.entries key
  match encounter candidate bucket with
  | .present occupant =>
      if forbids bucket occupant then
        .failed (.brokenTracker key) opened
      else
        .done [] opened
  | .conflicts [] => .done [] (opened.append key (.occupant candidate))
  | .conflicts found => .done found opened

/-- Takes a blocker in and answers the packages that it forbids. -/
def limit
    (tracker : Tracker P R)
    (restriction : R) :
    List P × Tracker P R :=
  let key := Restriction.key (P := P) restriction
  let opened := tracker.withBucket key
  let forbidden :=
    ((opened.entries key).filterMap Entry.occupant?).filter fun package =>
      Restriction.blocks restriction package
  (forbidden, opened.append key (.blocker restriction))

/-- Fills a slot or takes a blocker in. -/
def add
    (tracker : Tracker P R) :
    Entry P R → Outcome (Tracker P R) (List (Entry P R))
  | .occupant package => tracker.fill package
  | .blocker restriction =>
      let answer := tracker.limit restriction
      .done (answer.1.map .occupant) answer.2

/-- Takes all copies of an entry out.  A key without entries goes with the last one. -/
def remove
    [DecidableEq P]
    [DecidableEq R]
    (tracker : Tracker P R)
    (entry : Entry P R) :
    Outcome (Tracker P R) Unit :=
  let key := entry.key
  match tracker.buckets.get? key with
  | none => .failed (.noSlots key) tracker
  | some bucket =>
      let left := bucket.filter fun other => other != entry
      if left.length = bucket.length then
        .failed (.notSlotted key) tracker
      else if left.isEmpty then
        .done () ⟨tracker.buckets.erase key⟩
      else
        .done () ⟨tracker.buckets.insert key left⟩

end Operations

section Buckets

omit [Slotted P] [Restriction R P]

variable (tracker : Tracker P R) (key : String)

theorem entries_withBucket :
    (tracker.withBucket key).entries key = tracker.entries key := by
  rw [withBucket]
  split
  · rfl
  · rename_i hnone
    rw [containsKey, OrderedMap.contains_eq_isSome, Bool.not_eq_true, Option.isSome_eq_false_iff,
      Option.isNone_iff_eq_none] at hnone
    rw [entries, entries, hnone, OrderedMap.get?_insert, if_pos rfl]
    rfl

/-- An entry is added to the list that was made for it. -/
theorem append_withBucket (entry : Entry P R) :
    (tracker.withBucket key).append key entry = tracker.append key entry := by
  rw [append, entries_withBucket, append, Tracker.mk.injEq]
  refine OrderedMap.ext_get? fun other => ?_
  rw [withBucket]
  split
  · rfl
  · simp only [OrderedMap.get?_insert]
    split <;> rfl

/-- No list is made for a key that has entries. -/
theorem withBucket_eq_self
    {tracker : Tracker P R}
    {key : String}
    (h : tracker.entries key ≠ []) :
    tracker.withBucket key = tracker := by
  rw [withBucket, if_pos]
  rw [containsKey, OrderedMap.contains_eq_isSome, Option.isSome_iff_ne_none]
  intro hnone
  rw [entries, hnone] at h
  exact h rfl

end Buckets

section Results

variable (tracker : Tracker P R)

/-- No empty list stays behind when a slot is filled: a package that finds none of its key takes
its slot. -/
theorem fill_eq (candidate : P) :
    tracker.fill candidate =
      match encounter candidate (tracker.entries (Slotted.key candidate)) with
      | .present occupant =>
          if forbids (tracker.entries (Slotted.key candidate)) occupant then
            .failed (.brokenTracker (Slotted.key candidate)) tracker
          else
            .done [] tracker
      | .conflicts [] => .done [] (tracker.append (Slotted.key candidate) (.occupant candidate))
      | .conflicts found => .done found tracker := by
  simp only [fill, entries_withBucket, append_withBucket]
  by_cases hbucket : tracker.entries (Slotted.key candidate) = []
  · rw [hbucket, encounter]
  · rw [withBucket_eq_self hbucket]

omit [Slotted P] in
theorem limit_eq (restriction : R) :
    tracker.limit restriction =
      (((tracker.entries (Restriction.key (P := P) restriction)).filterMap Entry.occupant?).filter
          (Restriction.blocks restriction),
        tracker.append (Restriction.key (P := P) restriction) (.blocker restriction)) := by
  rw [limit, entries_withBucket, append_withBucket]

end Results

end Tracker
end PackageMetadata
