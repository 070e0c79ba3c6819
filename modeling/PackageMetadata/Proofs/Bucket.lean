import PackageMetadata.Proofs.Roster

/-!
# What a request does to the entries of one key

Seen from one key, a request does little.  It may add a package that nothing under the key
opposes, it may add a blocker, or it may take an entry out with all its copies.  Otherwise it
leaves the entries alone: it is about another key, or its package is turned away or is there
already.  Whatever is to hold of the entries of a key in every run has to be checked for these
four cases only.

**Results**

* `bucketStep_serve`: one request is one of the four steps.
* `mem_entries_after`: an entry stays as long as it is not asked to be taken out.
* `result_fill_eq_error_iff`: when it is a failure to put a package forward.
-/

namespace PackageMetadata

namespace Entry

variable {P R : Type} {entries : List (Entry P R)}

theorem mem_filterMap_occupant? {package : P} :
    package ∈ entries.filterMap occupant? ↔ .occupant package ∈ entries := by
  rw [List.mem_filterMap]
  constructor
  · rintro ⟨entry, hentry, hpackage⟩
    cases entry with
    | occupant held =>
        cases hpackage
        exact hentry
    | blocker restriction =>
        cases hpackage
  · intro hentry
    exact ⟨_, hentry, rfl⟩

theorem mem_filterMap_blocker? {restriction : R} :
    restriction ∈ entries.filterMap blocker? ↔ .blocker restriction ∈ entries := by
  rw [List.mem_filterMap]
  constructor
  · rintro ⟨entry, hentry, hrestriction⟩
    cases entry with
    | occupant package =>
        cases hrestriction
    | blocker held =>
        cases hrestriction
        exact hentry
  · intro hentry
    exact ⟨_, hentry, rfl⟩

end Entry

namespace Tracker

variable {P R : Type}

namespace Request

/-- The package that a request puts forward for its slot. -/
def candidate? : Request P R → Option P
  | .fill candidate => some candidate
  | .add (.occupant candidate) => some candidate
  | _ => none

/-- The blocker that a request registers. -/
def registered? : Request P R → Option R
  | .limit restriction => some restriction
  | .add (.blocker restriction) => some restriction
  | _ => none

/-- Only a removal neither puts a package forward nor registers a blocker. -/
theorem ne_remove_of_candidate
    {request : Request P R}
    {candidate : P}
    (h : request.candidate? = some candidate)
    (entry : Entry P R) :
    request ≠ .remove entry := by
  rintro rfl
  cases h

theorem ne_remove_of_registered
    {request : Request P R}
    {restriction : R}
    (h : request.registered? = some restriction)
    (entry : Entry P R) :
    request ≠ .remove entry := by
  rintro rfl
  cases h

end Request

/-- How a request can leave the entries of one key. -/
inductive BucketStep
    [Slotted P]
    [Restriction R P]
    [DecidableEq P]
    [DecidableEq R]
    (request : Request P R)
    (bucket : List (Entry P R)) :
    List (Entry P R) → Prop
  /-- Nothing happens under this key. -/
  | same
      (hkeeps : ∀ entry, request ≠ .remove entry) :
      BucketStep request bucket bucket
  /-- A package that nothing opposes takes its slot. -/
  | occupied
      (candidate : P)
      (hrequest : request.candidate? = some candidate)
      (hfree : ∀ entry ∈ bucket, opposes candidate entry = false) :
      BucketStep request bucket (bucket ++ [.occupant candidate])
  /-- A blocker is registered. -/
  | guarded
      (restriction : R)
      (hrequest : request.registered? = some restriction) :
      BucketStep request bucket (bucket ++ [.blocker restriction])
  /-- An entry is taken out, if it is there. -/
  | cleared
      (entry : Entry P R)
      (hrequest : request = .remove entry) :
      BucketStep request bucket (bucket.filter fun other => other != entry)

variable [Slotted P] [Restriction R P] {tracker : Tracker P R} {roster : Roster P R}

section Operations

omit [Slotted P] [Restriction R P] in
/-- The buckets under the keys make the tracker. -/
theorem ext_get?
    {a b : Tracker P R}
    (h : ∀ key, a.buckets.get? key = b.buckets.get? key) :
    a = b := by
  cases a
  cases b
  exact congrArg Tracker.mk (OrderedMap.ext_get? h)

omit [Slotted P] [Restriction R P] in
theorem get?_append
    (tracker : Tracker P R)
    (key other : String)
    (entry : Entry P R) :
    (tracker.append key entry).buckets.get? other =
      if other = key then some (tracker.entries key ++ [entry])
      else tracker.buckets.get? other :=
  OrderedMap.get?_insert tracker.buckets key other _

omit [Slotted P] [Restriction R P] in
theorem entries_append
    (tracker : Tracker P R)
    (key other : String)
    (entry : Entry P R) :
    (tracker.append key entry).entries other =
      if other = key then tracker.entries other ++ [entry] else tracker.entries other := by
  rw [entries, get?_append]
  by_cases hkey : other = key
  · simp [hkey]
  · simp only [if_neg hkey]
    rfl

/-- A package is added only if nothing under its key opposes it. -/
theorem state_fill
    (tracker : Tracker P R)
    (candidate : P) :
    (tracker.fill candidate).state = tracker ∨
      (tracker.fill candidate).state =
          tracker.append (Slotted.key candidate) (.occupant candidate) ∧
        ∀ entry ∈ tracker.entries (Slotted.key candidate), opposes candidate entry = false := by
  rw [fill_eq, encounter_eq]
  cases ((tracker.entries (Slotted.key candidate)).filterMap Entry.occupant?).find?
      (standsFor candidate) with
  | some occupant =>
      left
      dsimp only
      split <;> rfl
  | none =>
      cases hopposed : (tracker.entries (Slotted.key candidate)).filter (opposes candidate) with
      | nil =>
          refine .inr ⟨rfl, fun entry hentry => ?_⟩
          exact Bool.eq_false_iff.mpr (List.filter_eq_nil_iff.mp hopposed entry hentry)
      | cons entry rest =>
          exact .inl rfl

/-- Some package stands for a candidate and is forbidden all the same. -/
theorem any_forbids_iff
    {bucket : List (Entry P R)}
    {candidate : P} :
    ((bucket.filterMap Entry.occupant?).filter (standsFor candidate)).any (forbids bucket) = true ↔
      ∃ restriction package,
        .blocker restriction ∈ bucket ∧ .occupant package ∈ bucket ∧
          Restriction.blocks restriction package = true ∧ standsFor candidate package = true := by
  simp only [List.any_eq_true, List.mem_filter, forbids, Entry.mem_filterMap_occupant?,
    Entry.mem_filterMap_blocker?]
  constructor
  · rintro ⟨package, ⟨hpackage, hstands⟩, restriction, hrestriction, hblocks⟩
    exact ⟨restriction, package, hrestriction, hpackage, hblocks, hstands⟩
  · rintro ⟨restriction, package, hrestriction, hpackage, hblocks, hstands⟩
    exact ⟨package, ⟨hpackage, hstands⟩, restriction, hrestriction, hblocks⟩

/-- It is a failure to put a package forward exactly if a package stands for it that a blocker of
its key forbids. -/
theorem result_fill_eq_error_iff
    (h : tracker.Shows roster)
    {candidate : P}
    {failure : Failure} :
    (tracker.fill candidate).result = .error failure ↔
      failure = .brokenTracker (Slotted.key candidate) ∧
        ∃ restriction package,
          .blocker restriction ∈ tracker.entries (Slotted.key candidate) ∧
          .occupant package ∈ tracker.entries (Slotted.key candidate) ∧
          Restriction.blocks restriction package = true ∧ standsFor candidate package = true := by
  rw [(fill_related h candidate).result, entries_eq h, ← any_forbids_iff, Roster.fill_eq]
  dsimp only
  cases (((roster.entries (Slotted.key candidate)).filterMap Entry.occupant?).filter
      (standsFor candidate)).any (forbids (roster.entries (Slotted.key candidate))) with
  | true =>
      simp only [if_true, Outcome.result_failed, Except.error.injEq, and_true]
      exact eq_comm
  | false =>
      simp only [Bool.false_eq_true, if_false, and_false, iff_false]
      split
      · intro hfailed
        cases hfailed
      · split <;> intro hfailed <;> cases hfailed

end Operations

variable [DecidableEq P] [DecidableEq R]

section Steps

theorem serve_of_candidate
    {request : Request P R}
    {candidate : P}
    (h : request.candidate? = some candidate)
    (tracker : Tracker P R) :
    tracker.serve request = tracker.fill candidate := by
  rcases request with _ | _ | (_ | _) | _ <;> cases h <;> rfl

/-- A blocker is answered the packages of its key that it forbids. -/
theorem serve_of_registered
    {request : Request P R}
    {restriction : R}
    (h : request.registered? = some restriction)
    (tracker : Tracker P R) :
    let key := Restriction.key (P := P) restriction
    let forbidden := ((tracker.entries key).filterMap Entry.occupant?).filter
      (Restriction.blocks restriction)
    tracker.serve request =
      .done (forbidden.map .occupant) (tracker.append key (.blocker restriction)) := by
  have hadd : tracker.serve request = tracker.add (.blocker restriction) := by
    rcases request with _ | _ | (_ | _) | _ <;> cases h <;> rfl
  rw [hadd, add, limit_eq]

theorem bucketStep_of_candidate
    {request : Request P R}
    {candidate : P}
    (h : request.candidate? = some candidate)
    (tracker : Tracker P R)
    (key : String) :
    BucketStep request (tracker.entries key) ((tracker.serve request).state.entries key) := by
  rw [serve_of_candidate h]
  obtain hstate | ⟨hstate, hfree⟩ := state_fill tracker candidate
  · rw [hstate]
    exact .same (Request.ne_remove_of_candidate h)
  · rw [hstate, entries_append]
    split
    · rename_i hkey
      subst hkey
      exact .occupied candidate h hfree
    · exact .same (Request.ne_remove_of_candidate h)

theorem bucketStep_of_registered
    {request : Request P R}
    {restriction : R}
    (h : request.registered? = some restriction)
    (tracker : Tracker P R)
    (key : String) :
    BucketStep request (tracker.entries key) ((tracker.serve request).state.entries key) := by
  rw [serve_of_registered h, Outcome.state_done, entries_append]
  split
  · exact .guarded restriction h
  · exact .same (Request.ne_remove_of_registered h)

/-- An entry that is taken out is missed under every key under which it was. -/
theorem entries_remove
    (h : tracker.Shows roster)
    (entry : Entry P R)
    (key : String) :
    (tracker.serve (.remove entry)).state.entries key =
      (tracker.entries key).filter fun other => other != entry := by
  have hafter : (tracker.serve (.remove entry)).state.entries key =
      (roster.remove entry).state.entries key := entries_eq (remove_related h entry).state key
  rw [hafter, entries_eq h, Roster.remove]
  split
  · simp only [Outcome.state_done, Roster.entries, List.filter_filter, Bool.and_comm]
  · rename_i hnot
    have hall : (roster.entries key).filter (fun other => other != entry) = roster.entries key := by
      refine List.filter_eq_self.mpr fun other hother => bne_iff_ne.mpr ?_
      rintro rfl
      exact hnot (List.mem_filter.mp hother).1
    rw [hall]
    split <;> rfl

/-- Seen from one key, a request is one of four steps. -/
theorem bucketStep_serve
    (h : tracker.Shows roster)
    (request : Request P R)
    (key : String) :
    BucketStep request (tracker.entries key) ((tracker.serve request).state.entries key) := by
  cases request with
  | fill candidate =>
      exact bucketStep_of_candidate rfl tracker key
  | limit restriction =>
      exact bucketStep_of_registered rfl tracker key
  | add entry =>
      cases entry with
      | occupant candidate =>
          exact bucketStep_of_candidate rfl tracker key
      | blocker restriction =>
          exact bucketStep_of_registered rfl tracker key
  | remove entry =>
      rw [entries_remove h]
      exact .cleared entry rfl

end Steps

section Runs

/-- Whatever every step keeps is so after every run. -/
theorem entries_after_induction
    {Q : List (Entry P R) → Prop}
    (h : tracker.Shows roster)
    (key : String)
    (requests : List (Request P R))
    (hstart : Q (tracker.entries key))
    (hstep : ∀ request ∈ requests, ∀ bucket after,
      BucketStep request bucket after → Q bucket → Q after) :
    Q ((tracker.after requests).entries key) := by
  induction requests generalizing tracker roster with
  | nil =>
      exact hstart
  | cons request rest ih =>
      obtain ⟨hfirst, hrest⟩ := List.forall_mem_cons.mp hstep
      have hserved := hfirst _ _ (bucketStep_serve h request key) hstart
      exact ih (serve_related h request).state hserved hrest

/-- An entry stays as long as it is not asked to be taken out. -/
theorem mem_entries_after
    (h : tracker.Shows roster)
    {key : String}
    {entry : Entry P R}
    {requests : List (Request P R)}
    (hentry : entry ∈ tracker.entries key)
    (hkept : .remove entry ∉ requests) :
    entry ∈ (tracker.after requests).entries key := by
  refine entries_after_induction h key requests hentry ?_
  intro request hrequest bucket after hstep hmem
  cases hstep with
  | same _ =>
      exact hmem
  | occupied candidate _ _ =>
      exact List.mem_append_left _ hmem
  | guarded restriction _ =>
      exact List.mem_append_left _ hmem
  | cleared other hremove =>
      refine List.mem_filter.mpr ⟨hmem, bne_iff_ne.mpr ?_⟩
      rintro rfl
      exact hkept (hremove ▸ hrequest)

theorem after_append
    (tracker : Tracker P R)
    (first second : List (Request P R)) :
    tracker.after (first ++ second) = (tracker.after first).after second :=
  List.foldl_append

/-- After every run from the start a roster is shown. -/
theorem after_shows (requests : List (Request P R)) :
    ((empty : Tracker P R).after requests).Shows (Roster.after {} requests) :=
  (answers_related shows_empty requests).2

omit [DecidableEq P] [DecidableEq R] in
/-- What stands under a key has that key. -/
theorem key_of_mem_entries
    (h : tracker.Shows roster)
    {key : String}
    {entry : Entry P R}
    (hentry : entry ∈ tracker.entries key) :
    entry.key = key := by
  rw [entries_eq h] at hentry
  exact Roster.key_of_mem_entries roster key entry hentry

end Runs

end Tracker
end PackageMetadata
