import Mathlib.Data.List.Nodup
import PackageMetadata.Proofs.Admission

/-!
# Clearing the way for a candidate

A candidate that is turned away is answered the entries that oppose it.  These are exactly the
entries that have to go.  If some of them are taken out then the others are answered the next time,
in the same order, and nothing else turns up: no package that counts as the candidate was there
before, so none can come to light.  The candidate is taken in as soon as all of them are gone, and
not before.

An answer may hold a blocker several times, once for each time it was registered.  It is taken out
with all its copies, so it has to be asked for only once.

**Definitions**

* `Unmatched`: no package has the slot of a candidate and counts as it.
* `removals`: the requests that take some entries out.

**Results**

* `fill_of_unmatched`: what an unmatched candidate is answered.
* `unmatched_of_rejected`: a candidate that is turned away is unmatched.
* `answers_removals`, `entries_after_removals`: some entries are taken out one after the other.
* `conflicts_after_removals`: the candidate is put forward again.
-/

namespace PackageMetadata
namespace Tracker

variable {P R : Type}

section Definitions

/-- No package under the key of a candidate has its slot and counts as the candidate. -/
def Unmatched
    [Slotted P]
    (tracker : Tracker P R)
    (candidate : P) :
    Prop :=
  ∀ package, .occupant package ∈ tracker.entries (Slotted.key candidate) →
    standsFor candidate package = false

/-- The requests that take some entries out, each of them once. -/
def removals (entries : List (Entry P R)) : List (Request P R) :=
  entries.map .remove

end Definitions

theorem append_ne_self
    (tracker : Tracker P R)
    (key : String)
    (entry : Entry P R) :
    tracker.append key entry ≠ tracker := by
  intro h
  have hentries := congrArg (fun tracker => tracker.entries key) h
  simp [entries_append] at hentries

variable [Slotted P] [Restriction R P] {tracker : Tracker P R} {candidate : P}

section Rejecting

/-- A candidate that no package stands for is answered the entries that oppose it, and is taken in
if there are none. -/
theorem fill_of_unmatched (h : tracker.Unmatched candidate) :
    let opposed := (tracker.entries (Slotted.key candidate)).filter (opposes candidate)
    tracker.fill candidate =
      ⟨.ok opposed,
        if opposed.isEmpty then
          tracker.append (Slotted.key candidate) (.occupant candidate)
        else
          tracker⟩ := by
  have hnone : ((tracker.entries (Slotted.key candidate)).filterMap Entry.occupant?).find?
      (standsFor candidate) = none := by
    refine List.find?_eq_none.mpr fun package hpackage => ?_
    rw [h package (Entry.mem_filterMap_occupant?.mp hpackage)]
    exact Bool.false_ne_true
  rw [fill_eq, encounter_eq, hnone]
  cases (tracker.entries (Slotted.key candidate)).filter (opposes candidate) with
  | nil =>
      rfl
  | cons entry rest =>
      rfl

/-- A candidate is turned away only if no package stands for it.  It is answered what opposes it,
and the tracker stays as it is. -/
theorem unmatched_of_rejected
    {conflicts : List (Entry P R)}
    (hanswer : (tracker.fill candidate).result = .ok conflicts)
    (hconflicts : conflicts ≠ []) :
    tracker.Unmatched candidate ∧
      conflicts = (tracker.entries (Slotted.key candidate)).filter (opposes candidate) ∧
      (tracker.fill candidate).state = tracker := by
  cases hmet : ((tracker.entries (Slotted.key candidate)).filterMap Entry.occupant?).find?
      (standsFor candidate) with
  | some occupant =>
      -- Where a package stands for the candidate the answer is a failure or names no entry.
      rw [fill_eq, encounter_eq, hmet] at hanswer
      dsimp only at hanswer
      split at hanswer
      · cases hanswer
      · exact absurd (Except.ok.inj hanswer).symm hconflicts
  | none =>
      have hunmatched : tracker.Unmatched candidate := by
        intro package hheld
        have hnot := List.find?_eq_none.mp hmet package (Entry.mem_filterMap_occupant?.mpr hheld)
        exact Bool.eq_false_iff.mpr hnot
      rw [fill_of_unmatched hunmatched] at hanswer ⊢
      obtain rfl := Except.ok.inj hanswer
      exact ⟨hunmatched, rfl, if_neg (by rwa [List.isEmpty_iff])⟩

end Rejecting

section Removing

variable [DecidableEq P] [DecidableEq R] {roster : Roster P R} {removed : List (Entry P R)}

/-- An entry can be taken out if it is there. -/
theorem result_remove
    {entry : Entry P R}
    (hentry : entry ∈ tracker.entries entry.key) :
    (tracker.serve (.remove entry)).result = .ok [] := by
  obtain ⟨after, hremove, -⟩ := remove_of_mem hentry
  rw [serve, hremove]
  rfl

/-- Of what was there all is left that was not asked for. -/
theorem entries_after_removals
    (h : tracker.Shows roster)
    (removed : List (Entry P R))
    (key : String) :
    (tracker.after (removals removed)).entries key =
      (tracker.entries key).filter fun entry => entry ∉ removed := by
  induction removed generalizing tracker roster with
  | nil =>
      exact (List.filter_eq_self.mpr (by simp)).symm
  | cons entry rest ih =>
      have hstep := ih (serve_related h (.remove entry)).state
      rw [entries_remove h, List.filter_filter] at hstep
      refine hstep.trans (List.filter_congr fun other _ => ?_)
      by_cases hsame : other = entry
      · simp [hsame]
      · simp [hsame]

/-- Entries that are there, and of which none is asked for twice, can be taken out one after the
other. -/
theorem answers_removals
    (h : tracker.Shows roster)
    (hdistinct : removed.Nodup)
    (hthere : ∀ entry ∈ removed, entry ∈ tracker.entries entry.key) :
    tracker.answers (removals removed) = removed.map fun _ => .ok [] := by
  induction removed generalizing tracker roster with
  | nil =>
      rfl
  | cons entry rest ih =>
      obtain ⟨hnew, hrest⟩ := List.nodup_cons.mp hdistinct
      obtain ⟨hfirst, hothers⟩ := List.forall_mem_cons.mp hthere
      have hleft : ∀ other ∈ rest,
          other ∈ (tracker.serve (.remove entry)).state.entries other.key := by
        intro other hother
        rw [entries_remove h, List.mem_filter]
        refine ⟨hothers other hother, bne_iff_ne.mpr ?_⟩
        rintro rfl
        exact hnew hother
      have hlater := ih (serve_related h (.remove entry)).state hrest hleft
      rw [removals, List.map_cons, answers, result_remove hfirst, List.map_cons]
      exact congrArg (.ok [] :: ·) hlater

/-- A candidate stays unmatched when entries are taken out. -/
theorem unmatched_after_removals
    (h : tracker.Shows roster)
    (hunmatched : tracker.Unmatched candidate)
    (removed : List (Entry P R)) :
    (tracker.after (removals removed)).Unmatched candidate := by
  intro package hheld
  rw [entries_after_removals h] at hheld
  exact hunmatched package (List.mem_filter.mp hheld).1

/-- After any run, a candidate that is turned away with some entries is put forward again when some
of these have been taken out.  None of them is missed, and the candidate is answered the others, in
the same order as before.  So it is taken in if none is left, and only then; otherwise the tracker
stays as it is. -/
theorem conflicts_after_removals
    (requests : List (Request P R))
    (candidate : P)
    {conflicts : List (Entry P R)}
    (hanswer : (fill (empty.after requests : Tracker P R) candidate).result = .ok conflicts)
    (hconflicts : conflicts ≠ [])
    {removed : List (Entry P R)}
    (hdistinct : removed.Nodup)
    (hremoved : removed ⊆ conflicts) :
    let tracker : Tracker P R := empty.after requests
    let cleared := tracker.after (removals removed)
    let again := cleared.fill candidate
    (tracker.fill candidate).state = tracker ∧
      tracker.answers (removals removed) = (removed.map fun _ => .ok []) ∧
      again.result = .ok (conflicts.filter fun entry => entry ∉ removed) ∧
      (again.result = .ok [] ↔ conflicts ⊆ removed) ∧
      (again.state = cleared.append (Slotted.key candidate) (.occupant candidate) ↔
        conflicts ⊆ removed) ∧
      (again.state = cleared ↔ ¬ conflicts ⊆ removed) := by
  intro tracker cleared again
  have hshows := after_shows requests
  obtain ⟨hunmatched, hopposed, hstate⟩ := unmatched_of_rejected hanswer hconflicts
  have hthere : ∀ entry ∈ removed, entry ∈ tracker.entries entry.key := by
    intro entry hentry
    have hmem := hremoved hentry
    rw [hopposed] at hmem
    have hbucket := (List.mem_filter.mp hmem).1
    rwa [key_of_mem_entries hshows hbucket]
  have hleft : (cleared.entries (Slotted.key candidate)).filter (opposes candidate) =
      conflicts.filter fun entry => entry ∉ removed := by
    rw [entries_after_removals hshows, hopposed, List.filter_filter, List.filter_filter]
    exact List.filter_congr fun entry _ => Bool.and_comm _ _
  have hagain : again =
      ⟨.ok (conflicts.filter fun entry => entry ∉ removed),
        if (conflicts.filter fun entry => entry ∉ removed).isEmpty then
          cleared.append (Slotted.key candidate) (.occupant candidate)
        else
          cleared⟩ := by
    rw [← hleft]
    exact fill_of_unmatched (unmatched_after_removals hshows hunmatched removed)
  have hnone : (conflicts.filter fun entry => entry ∉ removed) = [] ↔ conflicts ⊆ removed := by
    simp [List.filter_eq_nil_iff, List.subset_def]
  have hgrows := append_ne_self cleared (Slotted.key candidate) (.occupant candidate)
  rw [hagain, ← hnone]
  refine ⟨hstate, answers_removals hshows hdistinct hthere, rfl, ?_⟩
  cases conflicts.filter fun entry => entry ∉ removed with
  | nil =>
      exact ⟨iff_of_true rfl rfl, iff_of_true rfl rfl, iff_of_false hgrows (absurd rfl)⟩
  | cons entry rest =>
      exact ⟨iff_of_false nofun nofun, iff_of_false hgrows.symm nofun, iff_of_true rfl nofun⟩

/-- A release has its slot taken and is forbidden by a range that was registered twice.  Once the
range is taken out, with both of its copies, only the other release is answered. -/
theorem conflicts_after_removals_registered_twice :
    let held : Release := ⟨"dev-libs/k", ⟨"1", none⟩, 1, "old"⟩
    let candidate : Release := ⟨"dev-libs/k", ⟨"1", none⟩, 2, "new"⟩
    let range : VersionRange := ⟨"dev-libs/k", 2, 3⟩
    let requests : List (Request Release VersionRange) := [.limit range, .fill held, .limit range]
    let conflicts : List (Entry Release VersionRange) :=
      [.blocker range, .occupant held, .blocker range]
    let tracker : Tracker Release VersionRange := empty.after requests
    let again := (tracker.after (removals [.blocker range])).fill candidate
    (tracker.fill candidate).result = .ok conflicts ∧ conflicts ≠ [] ∧
      [(.blocker range : Entry Release VersionRange)].Nodup ∧ [.blocker range] ⊆ conflicts ∧
      again.result = .ok [.occupant held] ∧ again.result ≠ .ok [] := by
  intro held candidate range requests conflicts tracker again
  have hanswer : (tracker.fill candidate).result = .ok conflicts := by decide
  have hconflicts : conflicts ≠ [] := nofun
  have hdistinct : [(.blocker range : Entry Release VersionRange)].Nodup := List.nodup_singleton _
  have hremoved : [.blocker range] ⊆ conflicts := by simp [conflicts]
  obtain ⟨-, -, hleft, hnone, -⟩ :=
    conflicts_after_removals requests candidate hanswer hconflicts hdistinct hremoved
  refine ⟨hanswer, hconflicts, hdistinct, hremoved, hleft, fun haccepted => ?_⟩
  have hall : .occupant held ∈ [(.blocker range : Entry Release VersionRange)] :=
    hnone.mp haccepted (by simp [conflicts])
  simp at hall

end Removing

end Tracker
end PackageMetadata
