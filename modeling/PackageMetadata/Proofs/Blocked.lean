import Mathlib.Data.List.Induction
import PackageMetadata.Proofs.Bucket
import PackageMetadata.Slots.Package
import PackageMetadata.Slots.Release

/-!
# Packages that a blocker forbids although they have their slot

A blocker that is registered turns packages away from then on, but a package that it forbids and
that has its slot already stays there.  The registration answers such packages, and it is up to
the caller to take them out.  If that is not done then the next attempt to put such a package
forward fails.

There is no other way to this failure.  Under a key no package stands behind a blocker that
forbids it.  So a package that is forbidden had its slot when the blocker was registered, it was
answered then, and neither of them was taken out since.

**Definitions**

* `Guarded`: no package stands behind a blocker that forbids it.
* `Registration`: a place in a run where a blocker is registered.
* `Clashes`: a blocker and a package that it forbids stand under one key.
* `Warned`: a registration has answered a package, and neither was taken out since.
* `Heeded`: what a registration answers is taken out before the next package is put forward.

**Results**

* `guarded_after`: every run keeps the entries of a key guarded.
* `exists_registration`: every copy of a blocker goes back to a registration of its own.
* `forbidden_reported`: what a blocker forbids was answered, and if that is heeded nothing fails.
* `fill_fails_iff_warned`: clashes and failures are exactly those that were warned of.
-/

namespace PackageMetadata
namespace Tracker

variable {P R : Type} [Slotted P] [Restriction R P]

section Definitions

/-- An entry that may stand in front of another one: a blocker admits the packages behind it. -/
def Admits : Entry P R → Entry P R → Prop
  | .blocker restriction, .occupant package => Restriction.blocks restriction package = false
  | _, _ => True

/-- Entries of which no blocker forbids a package behind it. -/
def Guarded (entries : List (Entry P R)) : Prop :=
  entries.Pairwise Admits

/-- A blocker and a package that it forbids stand under one key. -/
def Clashes
    (tracker : Tracker P R)
    (restriction : R)
    (package : P) :
    Prop :=
  ∃ key,
    .blocker restriction ∈ tracker.entries key ∧ .occupant package ∈ tracker.entries key ∧
      Restriction.blocks restriction package = true

omit [Slotted P] [Restriction R P] in
/-- A place in a run where a blocker is registered. -/
structure Registration
    (requests : List (Request P R))
    (restriction : R) where
  before : List (Request P R)
  request : Request P R
  later : List (Request P R)
  run : requests = before ++ request :: later
  registers : request.registered? = some restriction

variable [DecidableEq P] [DecidableEq R]

namespace Registration

variable {requests : List (Request P R)} {restriction : R}

/-- The tracker in which the blocker is registered. -/
def tracker (registration : Registration requests restriction) : Tracker P R :=
  empty.after registration.before

/-- What is answered to whoever registers the blocker. -/
def answer
    (registration : Registration requests restriction) :
    Except Failure (List (Entry P R)) :=
  (registration.tracker.serve registration.request).result

omit [Slotted P] [Restriction R P] in
/-- Whether no later request asks for an entry to be taken out. -/
def keeps
    (registration : Registration requests restriction)
    (entry : Entry P R) :
    Bool :=
  !registration.later.contains (.remove entry)

end Registration

/-- A registration of the blocker has answered the package, and neither was taken out since. -/
def Warned
    (requests : List (Request P R))
    (restriction : R)
    (package : P) :
    Prop :=
  ∃ registration : Registration requests restriction,
    (∃ found, registration.answer = .ok found ∧ .occupant package ∈ found) ∧
      registration.keeps (.occupant package) ∧ registration.keeps (.blocker restriction)

/-- Whenever a package is put forward, all packages that earlier registrations have answered were
asked to be taken out in between. -/
def Heeded (requests : List (Request P R)) : Prop :=
  ∀ before request later,
    requests = before ++ request :: later → request.candidate?.isSome →
      ∀ (restriction : R) (registration : Registration before restriction) found,
        registration.answer = .ok found →
          ∀ entry ∈ found, .remove entry ∈ registration.later

end Definitions

variable [DecidableEq P] [DecidableEq R] {tracker : Tracker P R} {roster : Roster P R}

section Order

/-- One step keeps entries guarded: a package is added only if no blocker forbids it. -/
theorem guarded_step
    {request : Request P R}
    {bucket after : List (Entry P R)}
    (hstep : BucketStep request bucket after)
    (h : Guarded bucket) :
    Guarded after := by
  cases hstep with
  | same _ =>
      exact h
  | occupied candidate _ hfree =>
      refine List.pairwise_append.mpr ⟨h, List.pairwise_singleton _ _, fun a ha b hb => ?_⟩
      obtain rfl := List.mem_singleton.mp hb
      cases a with
      | occupant package =>
          trivial
      | blocker restriction =>
          exact hfree (.blocker restriction) ha
  | guarded restriction _ =>
      refine List.pairwise_append.mpr ⟨h, List.pairwise_singleton _ _, fun a _ b hb => ?_⟩
      obtain rfl := List.mem_singleton.mp hb
      cases a <;> trivial
  | cleared entry _ =>
      exact List.Pairwise.filter _ h

/-- Every run keeps the entries of a key guarded. -/
theorem guarded_after
    (requests : List (Request P R))
    (key : String) :
    Guarded ((empty.after requests : Tracker P R).entries key) :=
  entries_after_induction shows_empty key requests List.Pairwise.nil
    fun _ _ _ _ hstep h => guarded_step hstep h

end Order

section Origins

variable {requests : List (Request P R)} {restriction : R}

namespace Registration

omit [Slotted P] [Restriction R P] in
theorem keeps_iff
    (registration : Registration requests restriction)
    {entry : Entry P R} :
    registration.keeps entry = true ↔ .remove entry ∉ registration.later := by
  simp [keeps]

omit [Slotted P] [Restriction R P] [DecidableEq P] [DecidableEq R] in
/-- The same registration in a run that goes on with one more request. -/
def extend
    (registration : Registration requests restriction)
    (request : Request P R) :
    Registration (requests ++ [request]) restriction where
  before := registration.before
  request := registration.request
  later := registration.later ++ [request]
  run := by simpa using congrArg (· ++ [request]) registration.run
  registers := registration.registers

omit [Slotted P] [Restriction R P] in
theorem keeps_extend
    (registration : Registration requests restriction)
    (request : Request P R)
    (entry : Entry P R) :
    (registration.extend request).keeps entry =
      (registration.keeps entry && request != .remove entry) := by
  rw [Bool.eq_iff_iff, keeps_iff, Bool.and_eq_true, keeps_iff, bne_iff_ne]
  simp [extend, eq_comm]

omit [Slotted P] [Restriction R P] in
/-- A request that takes nothing out does not change what is kept. -/
theorem keeps_extend_of_ne_remove
    (registration : Registration requests restriction)
    {request : Request P R}
    (hkeeps : ∀ entry, request ≠ .remove entry) :
    (registration.extend request).keeps = registration.keeps := by
  funext entry
  rw [keeps_extend, bne_iff_ne.mpr (hkeeps entry), Bool.and_true]

/-- The last request of a run as a registration. -/
def last
    {request : Request P R}
    (registers : request.registered? = some restriction) :
    Registration (requests ++ [request]) restriction where
  before := requests
  request := request
  later := []
  run := rfl
  registers := registers

/-- A registration explains a copy of its blocker: what stands in front of the copy stood under
the key before the registration and was not taken out later, nor was the blocker. -/
def Explains
    (registration : Registration requests restriction)
    (key : String)
    (front : List (Entry P R)) :
    Prop :=
  front = (registration.tracker.entries key).filter registration.keeps ∧
    registration.keeps (.blocker restriction) = true

theorem explains_extend
    {registration : Registration requests restriction}
    {key : String}
    {front : List (Entry P R)}
    (h : registration.Explains key front)
    {request : Request P R}
    (hkeeps : ∀ entry, request ≠ .remove entry) :
    (registration.extend request).Explains key front := by
  rw [Explains, keeps_extend_of_ne_remove registration hkeeps]
  exact h

/-- If an entry is taken out, then it is missed in front of the copy as well. -/
theorem explains_extend_remove
    {registration : Registration requests restriction}
    {key : String}
    {front : List (Entry P R)}
    (h : registration.Explains key front)
    {entry : Entry P R}
    (hother : .blocker restriction ≠ entry) :
    (registration.extend (.remove entry)).Explains key
      (front.filter fun other => other != entry) := by
  have hkeeps (other : Entry P R) : (registration.extend (.remove entry)).keeps other =
      (other != entry && registration.keeps other) := by
    have hsame : ((.remove entry : Request P R) != .remove other) = (other != entry) := by
      rw [Bool.eq_iff_iff, bne_iff_ne, bne_iff_ne, Ne, Ne, Request.remove.injEq, eq_comm]
    rw [keeps_extend, hsame, Bool.and_comm]
  refine ⟨?_, ?_⟩
  · rw [h.1, List.filter_filter]
    exact List.filter_congr fun other _ => (hkeeps other).symm
  · rw [hkeeps, h.2, Bool.and_true]
    exact bne_iff_ne.mpr hother

end Registration

omit [Slotted P] [Restriction R P] [DecidableEq P] [DecidableEq R] in
/-- Where an element stands in a list that was lengthened at its end. -/
theorem split_concat
    {α : Type}
    {bucket front back : List α}
    {a b : α}
    (h : bucket ++ [b] = front ++ a :: back) :
    (bucket = front ∧ b = a) ∨ ∃ rest, bucket = front ++ a :: rest := by
  rcases List.eq_nil_or_concat back with rfl | ⟨rest, c, rfl⟩
  · obtain ⟨hbucket, hb⟩ := List.append_inj' h rfl
    exact .inl ⟨hbucket, List.singleton_inj.mp hb⟩
  · rw [List.concat_eq_append, ← List.cons_append, ← List.append_assoc] at h
    exact .inr ⟨rest, (List.append_inj' h rfl).1⟩

/-- Every copy of a blocker that stands under a key goes back to a registration of its own. -/
theorem exists_registration
    (requests : List (Request P R))
    (key : String)
    {front back : List (Entry P R)}
    (hbucket : (empty.after requests : Tracker P R).entries key =
      front ++ .blocker restriction :: back) :
    ∃ registration : Registration requests restriction, registration.Explains key front := by
  induction requests using List.reverseRecOn generalizing front back with
  | nil =>
      exact absurd hbucket (by simp [after, empty, entries])
  | append_singleton requests request ih =>
      have hstep := bucketStep_serve (after_shows requests) request key
      have hafter : (empty.after (requests ++ [request]) : Tracker P R) =
          ((empty.after requests).serve request).state := after_append _ _ _
      rw [← hafter, hbucket] at hstep
      generalize hnow : front ++ .blocker restriction :: back = bucket at hstep
      cases hstep with
      | same hkeeps =>
          obtain ⟨registration, h⟩ := ih hnow.symm
          exact ⟨registration.extend request, Registration.explains_extend h hkeeps⟩
      | occupied candidate hrequest _ =>
          obtain ⟨_, hcase⟩ | ⟨rest, hrest⟩ := split_concat hnow.symm
          · cases hcase
          · obtain ⟨registration, h⟩ := ih hrest
            exact ⟨registration.extend request,
              Registration.explains_extend h (Request.ne_remove_of_candidate hrequest)⟩
      | guarded other hrequest =>
          obtain ⟨hfront, hcase⟩ | ⟨rest, hrest⟩ := split_concat hnow.symm
          · -- The copy is the one that this request has registered.
            cases hcase
            refine ⟨Registration.last hrequest, ?_, rfl⟩
            rw [← hfront]
            exact (List.filter_eq_self.mpr fun _ _ => rfl).symm
          · obtain ⟨registration, h⟩ := ih hrest
            exact ⟨registration.extend request,
              Registration.explains_extend h (Request.ne_remove_of_registered hrequest)⟩
      | cleared entry hrequest =>
          subst hrequest
          obtain ⟨left, right, hold, hleft, hright⟩ := List.filter_eq_append_iff.mp hnow.symm
          obtain ⟨gone, rest, hsplit, hgone, hkept, -⟩ := List.filter_eq_cons_iff.mp hright
          have hfront : front = (left ++ gone).filter fun other => other != entry := by
            rw [List.filter_append, hleft, List.filter_eq_nil_iff.mpr hgone, List.append_nil]
          rw [hsplit, ← List.append_assoc] at hold
          obtain ⟨registration, h⟩ := ih hold
          rw [hfront]
          exact ⟨registration.extend (.remove entry),
            Registration.explains_extend_remove h (bne_iff_ne.mp hkept)⟩

end Origins

section Answers

variable {requests : List (Request P R)} {restriction : R} {package : P}

/-- A registration answers the packages of the blocker's key that the blocker forbids. -/
theorem mem_answer_iff (registration : Registration requests restriction) :
    (∃ found, registration.answer = .ok found ∧ .occupant package ∈ found) ↔
      .occupant package ∈ registration.tracker.entries (Restriction.key (P := P) restriction) ∧
        Restriction.blocks restriction package = true := by
  have hanswer := congrArg Outcome.result
    (serve_of_registered registration.registers registration.tracker)
  rw [Registration.answer, hanswer, Outcome.result_done]
  constructor
  · rintro ⟨found, hfound, hmem⟩
    cases hfound
    obtain ⟨held, hheld, hsame⟩ := List.mem_map.mp hmem
    cases hsame
    obtain ⟨hthere, hblocks⟩ := List.mem_filter.mp hheld
    exact ⟨Entry.mem_filterMap_occupant?.mp hthere, hblocks⟩
  · rintro ⟨hthere, hblocks⟩
    have hheld := List.mem_filter.mpr ⟨Entry.mem_filterMap_occupant?.mpr hthere, hblocks⟩
    exact ⟨_, rfl, List.mem_map_of_mem hheld⟩

/-- The state in which the run goes on after a registration. -/
theorem after_eq (registration : Registration requests restriction) :
    (empty.after requests : Tracker P R) =
      (registration.tracker.serve registration.request).state.after registration.later := by
  conv_lhs => rw [registration.run, after_append]
  rfl

omit [Slotted P] [DecidableEq P] [DecidableEq R] in
/-- A package that a blocker under its key forbids stands in front of the blocker. -/
theorem mem_front_of_blocks
    {front back : List (Entry P R)}
    (h : Guarded (front ++ .blocker restriction :: back))
    (hpackage : .occupant package ∈ front ++ .blocker restriction :: back)
    (hblocks : Restriction.blocks restriction package = true) :
    .occupant package ∈ front := by
  rcases List.mem_append.mp hpackage with hfront | hback
  · exact hfront
  · rcases List.mem_cons.mp hback with hsame | hback
    · cases hsame
    · obtain ⟨-, hguarded, -⟩ := List.pairwise_append.mp h
      have hadmits : Restriction.blocks restriction package = false :=
        (List.pairwise_cons.mp hguarded).1 _ hback
      rw [hblocks] at hadmits
      cases hadmits

/-- So it was there when this copy of the blocker was registered, it was answered then, and it was
not taken out since. -/
theorem reported_of_explains
    {registration : Registration requests restriction}
    {key : String}
    {front : List (Entry P R)}
    (hkey : Restriction.key (P := P) restriction = key)
    (hexplains : registration.Explains key front)
    (hpackage : .occupant package ∈ front)
    (hblocks : Restriction.blocks restriction package = true) :
    .occupant package ∈ registration.tracker.entries key ∧
      (∃ found, registration.answer = .ok found ∧ .occupant package ∈ found) ∧
      registration.keeps (.occupant package) = true := by
  rw [hexplains.1] at hpackage
  obtain ⟨hthere, hkept⟩ := List.mem_filter.mp hpackage
  refine ⟨hthere, (mem_answer_iff registration).mpr ⟨?_, hblocks⟩, hkept⟩
  rw [hkey]
  exact hthere

/-- A blocker has the key under which it stands. -/
theorem key_of_blocker_mem
    {key : String}
    (h : .blocker restriction ∈ (empty.after requests : Tracker P R).entries key) :
    Restriction.key (P := P) restriction = key :=
  key_of_mem_entries (after_shows requests) h

theorem warned_of_clashes
    (h : (empty.after requests : Tracker P R).Clashes restriction package) :
    Warned requests restriction package := by
  obtain ⟨key, hrestriction, hpackage, hblocks⟩ := h
  have hkey := key_of_blocker_mem hrestriction
  have hguarded := guarded_after requests key
  obtain ⟨front, back, hbucket⟩ := List.append_of_mem hrestriction
  rw [hbucket] at hpackage hguarded
  obtain ⟨registration, hexplains⟩ := exists_registration requests key hbucket
  have hfront := mem_front_of_blocks hguarded hpackage hblocks
  obtain ⟨-, hanswer, hkept⟩ := reported_of_explains hkey hexplains hfront hblocks
  exact ⟨registration, hanswer, hkept, hexplains.2⟩

theorem clashes_of_warned
    (h : Warned requests restriction package) :
    (empty.after requests : Tracker P R).Clashes restriction package := by
  obtain ⟨registration, hanswer, hpackage, hrestriction⟩ := h
  obtain ⟨hthere, hblocks⟩ := (mem_answer_iff registration).mp hanswer
  have hserved := congrArg Outcome.state
    (serve_of_registered registration.registers registration.tracker)
  rw [Outcome.state_done] at hserved
  have hshows := (serve_related (after_shows registration.before) registration.request).state
  have hentries : (registration.tracker.serve registration.request).state.entries
      (Restriction.key (P := P) restriction) =
        registration.tracker.entries (Restriction.key (P := P) restriction) ++
          [.blocker restriction] := by
    rw [hserved, entries_append, if_pos rfl]
  rw [after_eq registration]
  refine ⟨Restriction.key (P := P) restriction,
    mem_entries_after hshows ?_ (registration.keeps_iff.mp hrestriction),
    mem_entries_after hshows ?_ (registration.keeps_iff.mp hpackage), hblocks⟩
  · exact hentries ▸ List.mem_append_right _ (List.mem_singleton.mpr rfl)
  · exact hentries ▸ List.mem_append_left _ hthere

/-- What is heeded does not clash. -/
theorem not_clashes_of_heeded
    {before later : List (Request P R)}
    {request : Request P R}
    (hheeded : Heeded requests)
    (hrun : requests = before ++ request :: later)
    (hcandidate : request.candidate?.isSome = true)
    (restriction : R)
    (package : P) :
    ¬ (empty.after before : Tracker P R).Clashes restriction package := by
  intro hclashes
  obtain ⟨registration, ⟨found, hanswer, hfound⟩, hkept, -⟩ := warned_of_clashes hclashes
  exact registration.keeps_iff.mp hkept
    (hheeded before request later hrun hcandidate restriction registration found hanswer _ hfound)

end Answers

section Main

/-- No blocker forbids a package behind it.  So each copy of a blocker goes back to a registration
that has answered all packages under its key that the blocker forbids; they were there already,
and they and the blocker were not taken out since.  If all that is answered is heeded then no
blocker forbids a package of its key when the next package is put forward, and putting it forward
does not fail. -/
theorem forbidden_reported (requests : List (Request P R)) :
    (∀ key, Guarded ((empty.after requests : Tracker P R).entries key)) ∧
    (∀ key front (restriction : R) back,
      (empty.after requests : Tracker P R).entries key = front ++ .blocker restriction :: back →
      ∃ registration : Registration requests restriction,
        registration.Explains key front ∧
        ∀ package, .occupant package ∈ (empty.after requests : Tracker P R).entries key →
          Restriction.blocks restriction package = true →
          .occupant package ∈ registration.tracker.entries key ∧
          (∃ found, registration.answer = .ok found ∧ .occupant package ∈ found) ∧
          registration.keeps (.occupant package) = true) ∧
    (Heeded requests →
      ∀ before request later,
        requests = before ++ request :: later → request.candidate?.isSome = true →
        (∀ restriction package,
          ¬ (empty.after before : Tracker P R).Clashes restriction package) ∧
        ∃ found, ((empty.after before : Tracker P R).serve request).result = .ok found) := by
  refine ⟨guarded_after requests, fun key front restriction back hbucket => ?_,
    fun hheeded before request later hrun hcandidate => ?_⟩
  · have hmem : .blocker restriction ∈ (empty.after requests : Tracker P R).entries key := by
      rw [hbucket]
      simp
    have hkey := key_of_blocker_mem hmem
    have hguarded := guarded_after requests key
    obtain ⟨registration, hexplains⟩ := exists_registration requests key hbucket
    refine ⟨registration, hexplains, fun package hpackage hblocks => ?_⟩
    rw [hbucket] at hpackage hguarded
    have hfront := mem_front_of_blocks hguarded hpackage hblocks
    exact reported_of_explains hkey hexplains hfront hblocks
  · have hnone := not_clashes_of_heeded hheeded hrun hcandidate
    refine ⟨hnone, ?_⟩
    obtain ⟨candidate, hcandidate⟩ := Option.isSome_iff_exists.mp hcandidate
    rw [serve_of_candidate hcandidate]
    cases hresult : ((empty.after before : Tracker P R).fill candidate).result with
    | ok found =>
        exact ⟨found, rfl⟩
    | error failure =>
        obtain ⟨-, restriction, package, hrestriction, hpackage, hblocks, -⟩ :=
          (result_fill_eq_error_iff (after_shows before)).mp hresult
        exact absurd ⟨_, hrestriction, hpackage, hblocks⟩ (hnone restriction package)

/-- A package is taken out after it was answered, and another one is put forward then.  Without
that it is answered and stays. -/
theorem forbidden_reported_taken_out :
    let package : Release := ⟨"dev-libs/k", ⟨"1", none⟩, 1, "old"⟩
    let other : Release := ⟨"dev-libs/k", ⟨"1", none⟩, 2, "new"⟩
    let range : VersionRange := ⟨"dev-libs/k", 0, 1⟩
    let run : List (Request Release VersionRange) :=
      [.fill package, .limit range, .remove (.occupant package), .fill other]
    let unheeded : List (Request Release VersionRange) := [.fill package, .add (.blocker range)]
    (Heeded run ∧
      ∃ found, ((empty.after (run.take 3)).serve (.fill other)).result = .ok found) ∧
    ∃ registration : Registration unheeded range, ∃ found,
      registration.answer = .ok found ∧ .occupant package ∈ found := by
  intro package other range run unheeded
  have hanswered : ((empty.after [.fill package]).serve (.limit range)).result =
      .ok [.occupant package] := by
    decide
  have hheeded : Heeded run := by
    rintro before request later hrun hcandidate restriction ⟨start, registered, rest, rfl, hreg⟩
      found hanswer entry hentry
    rw [List.append_assoc, List.cons_append] at hrun
    -- The blocker is registered by the second request, and the fourth one puts a package forward.
    rcases start with _ | ⟨_, _ | ⟨_, _ | ⟨_, _ | ⟨_, start⟩⟩⟩⟩
    · obtain ⟨rfl, -⟩ := List.cons.inj hrun
      cases hreg
    · obtain ⟨rfl, hsecond⟩ := List.cons.inj hrun
      obtain ⟨rfl, hthird⟩ := List.cons.inj hsecond
      rcases rest with _ | ⟨_, rest⟩
      · obtain ⟨rfl, -⟩ := List.cons.inj hthird
        cases hcandidate
      · obtain ⟨rfl, -⟩ := List.cons.inj hthird
        obtain rfl := Except.ok.inj (hanswered.symm.trans hanswer)
        obtain rfl := List.mem_singleton.mp hentry
        exact List.mem_cons_self
    · have hthird := (List.cons.inj (List.cons.inj hrun).2).2
      obtain ⟨rfl, -⟩ := List.cons.inj hthird
      cases hreg
    · have hfourth := (List.cons.inj (List.cons.inj (List.cons.inj hrun).2).2).2
      obtain ⟨rfl, -⟩ := List.cons.inj hfourth
      cases hreg
    · have hlength := congrArg List.length hrun
      simp [run] at hlength
  refine ⟨⟨hheeded, ?_⟩, ?_⟩
  · exact ((forbidden_reported run).2.2 hheeded (run.take 3) (.fill other) [] rfl rfl).2
  · obtain ⟨registration, -, hreported⟩ :=
      (forbidden_reported unheeded).2.1 "dev-libs/k" [.occupant package] range [] (by decide)
    obtain ⟨-, ⟨found, hanswer, hfound⟩, -⟩ := hreported package (by decide) rfl
    exact ⟨registration, found, hanswer, hfound⟩

/-- A blocker forbids a package of its key exactly if it was warned of the package.  And a package
cannot be put forward exactly if one stands for it that a blocker was warned of. -/
theorem fill_fails_iff_warned (requests : List (Request P R)) :
    (∀ restriction package,
      (empty.after requests : Tracker P R).Clashes restriction package ↔
        Warned requests restriction package) ∧
    ∀ candidate failure,
      ((empty.after requests : Tracker P R).fill candidate).result = .error failure ↔
        failure = .brokenTracker (Slotted.key candidate) ∧
          ∃ (restriction : R) (package : P),
            Warned requests restriction package ∧
              Slotted.key package = Slotted.key candidate ∧ standsFor candidate package = true := by
  have hclashes (restriction : R) (package : P) :
      (empty.after requests : Tracker P R).Clashes restriction package ↔
        Warned requests restriction package := ⟨warned_of_clashes, clashes_of_warned⟩
  refine ⟨hclashes, fun candidate failure => ?_⟩
  rw [result_fill_eq_error_iff (after_shows requests)]
  refine and_congr_right fun _ => exists_congr fun restriction => exists_congr fun package => ?_
  constructor
  · rintro ⟨hrestriction, hpackage, hblocks, hstands⟩
    exact ⟨warned_of_clashes ⟨_, hrestriction, hpackage, hblocks⟩,
      key_of_mem_entries (after_shows requests) hpackage, hstands⟩
  · rintro ⟨hwarned, hkey, hstands⟩
    obtain ⟨key, hrestriction, hpackage, hblocks⟩ := clashes_of_warned hwarned
    obtain rfl : Slotted.key package = key := key_of_mem_entries (after_shows requests) hpackage
    rw [← hkey]
    exact ⟨hrestriction, hpackage, hblocks, hstands⟩

/-- A package that is put forward a second time, although it was answered when a blocker was
registered, is not left alone. -/
theorem fill_fails_after_registration :
    let package : Package := ⟨⟨"dev-libs", "k", "1", rfl, rfl, rfl⟩, ⟨"1", none⟩⟩
    let blocker : Blocker := { key := "dev-libs/k" }
    let tracker : Tracker Package Blocker := empty.after [.fill package, .limit blocker]
    tracker.Clashes blocker package ∧
      (tracker.fill package).result = .error (.brokenTracker "dev-libs/k") :=
  ⟨⟨"dev-libs/k", by decide, by decide, rfl⟩, rfl⟩

end Main

end Tracker
end PackageMetadata
