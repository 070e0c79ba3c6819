import PackageMetadata.Proofs.Clearing
import PackageMetadata.Proofs.Occupancy

/-!
# Taking back what was added

Whoever looks for a plan adds entries to a tracker and takes them out again.  An entry that was not
there is added at the end of its key, so taking it out leaves the other entries of the key in their
places.  If there are none then the key goes, and it was not there before.  So the tracker is the
one from before the entry was added.

What counts is that the very entry was not there.  It does not matter whether another package that
counts as the same one is there, nor which blockers are.  Entries that are added one after the other
can be taken out in any order.

**Definitions**

* `Request.inserts?`: the entry that a request asks to be added.
* `Grows`: entries are all of them added, and none of them was there.

**Results**

* `state_serve_of_inserts`: what a request to add an entry does.
* `remove_append`: an entry is added and taken out again.
* `removal_undoes_insertion`: after every run, and what taking an entry out does to any tracker.
* `backtracks`: many entries are added, and taken out in any order.
-/

namespace PackageMetadata
namespace Tracker

variable {P R : Type}

/-- The entry that a request asks to be added. -/
def Request.inserts? : Request P R → Option (Entry P R)
  | .fill candidate => some (.occupant candidate)
  | .limit restriction => some (.blocker restriction)
  | .add entry => some entry
  | .remove _ => none

section Kept

variable {tracker a b : Tracker P R}

/-- A key that goes with its last entry tells its bucket by its entries. -/
theorem get?_of_kept
    {key : String}
    (hkept : tracker.buckets.get? key ≠ some []) :
    tracker.buckets.get? key =
      if tracker.entries key = [] then none else some (tracker.entries key) := by
  rw [entries]
  cases hbucket : tracker.buckets.get? key with
  | none =>
      rfl
  | some bucket =>
      rw [hbucket] at hkept
      have hfull : bucket ≠ [] := fun hnil => hkept (congrArg some hnil)
      exact (if_neg hfull).symm

/-- So the entries of all keys tell the tracker. -/
theorem ext_entries
    (ha : ∀ key, a.buckets.get? key ≠ some [])
    (hb : ∀ key, b.buckets.get? key ≠ some [])
    (h : ∀ key, a.entries key = b.entries key) :
    a = b := by
  refine ext_get? fun key => ?_
  rw [get?_of_kept (ha key), get?_of_kept (hb key), h]

end Kept

variable [Slotted P] [Restriction R P] [DecidableEq P] [DecidableEq R]
variable {tracker : Tracker P R} {roster : Roster P R} {entry : Entry P R}

section Inserting

/-- An entry is added at the end of its key, or nothing happens. -/
theorem state_serve_of_inserts
    {request : Request P R}
    (hinserts : request.inserts? = some entry)
    (tracker : Tracker P R) :
    (tracker.serve request).state = tracker ∨
      (tracker.serve request).state = tracker.append entry.key entry := by
  cases entry with
  | occupant candidate =>
      have hcandidate : request.candidate? = some candidate := by
        rcases request with _ | _ | (_ | _) | _ <;> cases hinserts <;> rfl
      rw [serve_of_candidate hcandidate]
      exact (state_fill tracker candidate).imp_right And.left
  | blocker restriction =>
      have hregistered : request.registered? = some restriction := by
        rcases request with _ | _ | (_ | _) | _ <;> cases hinserts <;> rfl
      rw [serve_of_registered hregistered]
      exact .inr rfl

/-- If the entry was not there and is there afterwards then it was added. -/
theorem state_serve_of_inserted
    {request : Request P R}
    (hinserts : request.inserts? = some entry)
    (hnew : entry ∉ tracker.entries entry.key)
    (hadded : entry ∈ (tracker.serve request).state.entries entry.key) :
    (tracker.serve request).state = tracker.append entry.key entry := by
  refine (state_serve_of_inserts hinserts tracker).resolve_left fun hsame => ?_
  rw [hsame] at hadded
  exact hnew hadded

omit [Slotted P] [Restriction R P] in
theorem filter_ne_concat
    {bucket : List (Entry P R)}
    (hnew : entry ∉ bucket) :
    ((bucket ++ [entry]).filter fun other => other != entry) = bucket := by
  have hothers : (bucket.filter fun other => other != entry) = bucket := by
    refine List.filter_eq_self.mpr fun other hother => bne_iff_ne.mpr ?_
    rintro rfl
    exact hnew hother
  rw [List.filter_append, hothers, List.filter_singleton, bne_self_eq_false]
  exact List.append_nil bucket

/-- An entry that was not there is added and taken out again. -/
theorem remove_append
    (hkept : tracker.buckets.get? entry.key ≠ some [])
    (hnew : entry ∉ tracker.entries entry.key) :
    (tracker.append entry.key entry).remove entry = .done () tracker := by
  have hthere : entry ∈ (tracker.append entry.key entry).entries entry.key := by
    simp [entries_append]
  obtain ⟨after, hremove, hreduced⟩ := remove_of_mem hthere
  have hafter : after = tracker := by
    refine ext_get? fun key => ?_
    by_cases hkey : key = entry.key
    · have hown := hreduced.own
      rw [entries_append, if_pos rfl, filter_ne_concat hnew] at hown
      rw [hkey, get?_of_kept hkept]
      exact hown
    · rw [hreduced.elsewhere key hkey, get?_append, if_neg hkey]
  rw [hremove, hafter]

end Inserting

section Undoing

/-- After every run, an entry that is not there is asked to be added.  If it is added then it can be
taken out, and the tracker is the one from before; otherwise there is nothing to be taken back.

Of any tracker, whether or not a run leads to it, an entry can be taken out exactly if it is there.
It then goes with all its copies, the other entries of its key stay in their order, and no other key
is touched.  If it cannot be taken out then the tracker stays as it is. -/
theorem removal_undoes_insertion :
    (∀ (requests : List (Request P R)) (request : Request P R) (entry : Entry P R),
      let tracker : Tracker P R := empty.after requests
      let served := (tracker.serve request).state
      request.inserts? = some entry → entry ∉ tracker.entries entry.key →
        (entry ∈ served.entries entry.key → served.remove entry = .done () tracker) ∧
        (entry ∉ served.entries entry.key → served = tracker)) ∧
    ∀ (tracker : Tracker P R) (entry : Entry P R),
      let removed := tracker.remove entry
      (removed.result = .ok () ↔ entry ∈ tracker.entries entry.key) ∧
      (removed.result = .ok () → tracker.Reduced entry removed.state) ∧
      ∀ failure, removed.result = .error failure → removed.state = tracker := by
  refine ⟨fun requests request entry => ?_, fun tracker entry => ?_⟩
  · intro tracker served hinserts hnew
    have hkept := (wellFormed_after requests).kept
    constructor
    · intro hadded
      have hserved : served = tracker.append entry.key entry :=
        state_serve_of_inserted hinserts hnew hadded
      rw [hserved]
      exact remove_append (hkept entry.key) hnew
    · intro hmissing
      refine (state_serve_of_inserts hinserts tracker).resolve_right fun happended => ?_
      have hserved : served = tracker.append entry.key entry := happended
      rw [hserved] at hmissing
      simp [entries_append] at hmissing
  · intro removed
    refine ⟨result_remove_eq_ok_iff, fun hok => ?_, fun failure hfailed => ?_⟩
    · obtain ⟨after, hremove, hreduced⟩ := remove_of_mem (result_remove_eq_ok_iff.mp hok)
      have hstate : removed.state = after := congrArg Outcome.state hremove
      rw [hstate]
      exact hreduced
    · have hmissing : entry ∉ tracker.entries entry.key := by
        intro hthere
        rw [result_remove_eq_ok_iff.mpr hthere] at hfailed
        cases hfailed
      exact congrArg Outcome.state (remove_of_not_mem hmissing)

/-- A release is taken in next to one that counts as the same and a range, and is taken back.  So
is a range under a key that was not there. -/
theorem removal_undoes_insertion_same_tag :
    let held : Release := ⟨"dev-libs/k", ⟨"1", none⟩, 1, "k"⟩
    let again : Release := ⟨"dev-libs/k", ⟨"2", none⟩, 1, "k"⟩
    let elsewhere : VersionRange := ⟨"dev-libs/m", 1, 1⟩
    let requests : List (Request Release VersionRange) :=
      [.fill held, .limit ⟨"dev-libs/k", 5, 6⟩]
    let tracker : Tracker Release VersionRange := empty.after requests
    let filled := (tracker.serve (.fill again)).state
    let limited := (tracker.serve (.limit elsewhere)).state
    .occupant again ∉ tracker.entries "dev-libs/k" ∧
      .occupant again ∈ filled.entries "dev-libs/k" ∧
      filled.remove (.occupant again) = .done () tracker ∧
      tracker.containsKey "dev-libs/m" = false ∧ limited.containsKey "dev-libs/m" = true ∧
      limited.remove (.blocker elsewhere) = .done () tracker := by
  intro held again elsewhere requests tracker filled limited
  have hnew : .occupant again ∉ tracker.entries "dev-libs/k" := by decide
  have hfilled : .occupant again ∈ filled.entries "dev-libs/k" := by decide
  have hfirst : .blocker elsewhere ∉ tracker.entries "dev-libs/m" := by decide
  have hlimited : .blocker elsewhere ∈ limited.entries "dev-libs/m" := by decide
  have hundone := removal_undoes_insertion.1 requests (.fill again) (.occupant again) rfl hnew
  have hgone :=
    removal_undoes_insertion.1 requests (.limit elsewhere) (.blocker elsewhere) rfl hfirst
  exact ⟨hnew, hfilled, hundone.1 hfilled, by decide, by decide, hgone.1 hlimited⟩

end Undoing

section Backtracking

/-- Entries are added one after the other, and each of them is new where it is added. -/
def Grows (tracker : Tracker P R) : List (Entry P R) → Prop
  | [] => True
  | entry :: rest =>
      let grown := (tracker.serve (.add entry)).state
      entry ∉ tracker.entries entry.key ∧ entry ∈ grown.entries entry.key ∧ grown.Grows rest

variable {entries removed : List (Entry P R)}

/-- Added entries stand behind those that were there, in the order in which they came. -/
theorem entries_after_adds
    (hgrows : tracker.Grows entries)
    (key : String) :
    (tracker.after (entries.map .add)).entries key =
      tracker.entries key ++ entries.filter fun entry => entry.key == key := by
  induction entries generalizing tracker with
  | nil =>
      exact (List.append_nil _).symm
  | cons entry rest ih =>
      obtain ⟨hnew, hadded, hrest⟩ := hgrows
      have hgrown := state_serve_of_inserted rfl hnew hadded
      refine (ih hrest).trans ?_
      rw [hgrown, entries_append]
      by_cases hkey : key = entry.key
      · simp [hkey]
      · simp [hkey, Ne.symm hkey]

/-- No entry is added twice, and none was there at the start. -/
theorem fresh_of_grows (hgrows : tracker.Grows entries) :
    entries.Nodup ∧ ∀ entry ∈ entries, entry ∉ tracker.entries entry.key := by
  induction entries generalizing tracker with
  | nil =>
      exact ⟨List.nodup_nil, nofun⟩
  | cons entry rest ih =>
      obtain ⟨hnew, hadded, hrest⟩ := hgrows
      have hgrown := state_serve_of_inserted rfl hnew hadded
      obtain ⟨hdistinct, hfresh⟩ := ih hrest
      refine ⟨List.nodup_cons.mpr ⟨fun hagain => hfresh entry hagain hadded, hdistinct⟩, ?_⟩
      refine List.forall_mem_cons.mpr ⟨hnew, fun other hother hthere => hfresh other hother ?_⟩
      rw [hgrown, entries_append]
      split
      · exact List.mem_append_left _ hthere
      · exact hthere

/-- Entries are added and all of them taken out again, in any order.  None of them is missed, and
the tracker is the one from before. -/
theorem backtracks
    (h : tracker.Shows roster)
    (hgrows : tracker.Grows entries)
    (hperm : removed.Perm entries) :
    let grown := tracker.after (entries.map .add)
    grown.answers (removals removed) = (removed.map fun _ => .ok []) ∧
      grown.after (removals removed) = tracker := by
  intro grown
  obtain ⟨hdistinct, hfresh⟩ := fresh_of_grows hgrows
  have hshown := (answers_related h (entries.map .add)).2
  have hcleared := (answers_related hshown (removals removed)).2
  constructor
  · refine answers_removals hshown (hperm.nodup_iff.mpr hdistinct) fun entry hentry => ?_
    rw [entries_after_adds hgrows]
    refine List.mem_append_right _ (List.mem_filter.mpr ⟨hperm.mem_iff.mp hentry, ?_⟩)
    exact beq_self_eq_true entry.key
  · refine ext_entries (wellFormed_of_shows hcleared).kept (wellFormed_of_shows h).kept ?_
    intro key
    -- Whatever was there before is not asked for, and all that was added is.
    have hold : ∀ entry ∈ tracker.entries key, entry ∉ removed := by
      intro entry hthere hentry
      refine hfresh entry (hperm.mem_iff.mp hentry) ?_
      rwa [key_of_mem_entries h hthere]
    rw [entries_after_removals hshown, entries_after_adds hgrows, List.filter_append,
      List.filter_eq_self.mpr (by simpa using hold), List.filter_eq_nil_iff.mpr, List.append_nil]
    intro entry hentry
    simp [hperm.mem_iff.mpr (List.mem_filter.mp hentry).1]

end Backtracking

end Tracker
end PackageMetadata
