import PackageMetadata.Proofs.Bucket
import PackageMetadata.Slots.Package
import PackageMetadata.Slots.Release

/-!
# When a candidate is accepted

A candidate is accepted in two ways.  If no entry of its key opposes it, blockers among them, then
it is taken in.  If a package that counts as the candidate has its slot already and is forbidden
by no blocker, then that package is confirmed, and the tracker stays as it is.

In the second case the blockers are asked about the package that is there and not about the
candidate.  So a candidate may be accepted that a blocker of its key forbids, but it does not come
to stand beside it.  Where blockers cannot tell packages apart that count as the same one, no
forbidden candidate is accepted at all.

**Definitions**

* `Unopposed`: no entry of its key opposes a candidate.
* `Confirmed`: a package that counts as a candidate has its slot, and no blocker forbids it.

**Results**

* `fill_of_unopposed`, `fill_of_confirmed`: what happens in the two cases.
* `result_fill_eq_ok_nil_iff`: there are no others.
* `not_forbids_of_accepted`: when no accepted candidate is forbidden.
* `accepted_iff_unopposed_or_confirmed`: all of this after every run.
* `not_forbids_of_accepted_package`: packages that count as the same one only if they are equal.
-/

namespace PackageMetadata
namespace Tracker

variable {P R : Type} [Slotted P] [Restriction R P]

section Definitions

/-- No entry of its key stands in the way of a candidate. -/
def Unopposed
    (tracker : Tracker P R)
    (candidate : P) :
    Prop :=
  ∀ entry ∈ tracker.entries (Slotted.key candidate), opposes candidate entry = false

/-- A package has the slot of a candidate already and counts as the candidate, and no blocker of
its key forbids it. -/
def Confirmed
    (tracker : Tracker P R)
    (candidate : P) :
    Prop :=
  ∃ occupant,
    .occupant occupant ∈ tracker.entries (Slotted.key candidate) ∧
      standsFor candidate occupant = true ∧
      forbids (tracker.entries (Slotted.key candidate)) occupant = false

end Definitions

variable {tracker : Tracker P R} {roster : Roster P R} {candidate : P}

section Blockers

omit [Slotted P] in
theorem forbids_eq_false_iff
    {bucket : List (Entry P R)}
    {package : P} :
    forbids bucket package = false ↔
      ∀ restriction, .blocker restriction ∈ bucket →
        Restriction.blocks restriction package = false := by
  simp only [forbids, List.any_eq_false, Entry.mem_filterMap_blocker?, Bool.not_eq_true]

/-- A candidate that nothing opposes is not forbidden. -/
theorem not_forbids_of_unopposed (h : tracker.Unopposed candidate) :
    forbids (tracker.entries (Slotted.key candidate)) candidate = false :=
  forbids_eq_false_iff.mpr fun restriction hblocker => h (.blocker restriction) hblocker

/-- A candidate is not forbidden if the blockers do not tell it from the package that is confirmed
in its place. -/
theorem not_forbids_of_confirmed
    (h : tracker.Confirmed candidate)
    (halike : ∀ (package : P) (restriction : R), Slotted.agrees package candidate = true →
      Restriction.blocks restriction package = Restriction.blocks restriction candidate) :
    forbids (tracker.entries (Slotted.key candidate)) candidate = false := by
  obtain ⟨occupant, -, hstands, hallowed⟩ := h
  have hagrees : Slotted.agrees occupant candidate = true := (Bool.and_eq_true_iff.mp hstands).2
  refine forbids_eq_false_iff.mpr fun restriction hblocker => ?_
  rw [← halike occupant restriction hagrees]
  exact forbids_eq_false_iff.mp hallowed restriction hblocker

end Blockers

section Accepting

/-- There is one package at most that counts as a candidate and has its slot. -/
theorem eq_of_standsFor
    (h : tracker.Shows roster)
    {a b : P}
    (ha : .occupant a ∈ tracker.entries (Slotted.key candidate))
    (hb : .occupant b ∈ tracker.entries (Slotted.key candidate))
    (hsa : standsFor candidate a = true)
    (hsb : standsFor candidate b = true) :
    a = b := by
  have hexclusive : Exclusive (tracker.entries (Slotted.key candidate)) := by
    rw [entries_eq h]
    exact exclusive_filter h.exclusive _
  have hmem : ∀ {package : P}, .occupant package ∈ tracker.entries (Slotted.key candidate) →
      standsFor candidate package = true →
        package ∈ ((tracker.entries (Slotted.key candidate)).filterMap Entry.occupant?).filter
          (standsFor candidate) :=
    fun hheld hstands => List.mem_filter.mpr ⟨Entry.mem_filterMap_occupant?.mpr hheld, hstands⟩
  rcases standing_eq hexclusive (fun _ => key_of_mem_entries h) candidate with
    hnone | ⟨occupant, hone⟩
  · have hnever := hmem ha hsa
    rw [hnone] at hnever
    cases hnever
  · have hfirst := hmem ha hsa
    have hsecond := hmem hb hsb
    rw [hone, List.mem_singleton] at hfirst hsecond
    rw [hfirst, hsecond]

/-- A candidate that nothing opposes is taken in. -/
theorem fill_of_unopposed (h : tracker.Unopposed candidate) :
    tracker.fill candidate =
      .done [] (tracker.append (Slotted.key candidate) (.occupant candidate)) := by
  have hnone : ((tracker.entries (Slotted.key candidate)).filterMap Entry.occupant?).find?
      (standsFor candidate) = none := by
    refine List.find?_eq_none.mpr fun package hpackage hstands => ?_
    have hfree : sharesSlot package candidate = false :=
      h (.occupant package) (Entry.mem_filterMap_occupant?.mp hpackage)
    rw [standsFor, hfree] at hstands
    cases hstands
  have hfound : (tracker.entries (Slotted.key candidate)).filter (opposes candidate) = [] :=
    List.filter_eq_nil_iff.mpr fun entry hentry => Bool.eq_false_iff.mp (h entry hentry)
  rw [fill_eq, encounter_eq, hnone, hfound]

/-- A candidate in whose place a package is confirmed changes nothing. -/
theorem fill_of_confirmed
    (h : tracker.Shows roster)
    (hconfirmed : tracker.Confirmed candidate) :
    tracker.fill candidate = .done [] tracker := by
  obtain ⟨occupant, hheld, hstands, hallowed⟩ := hconfirmed
  rw [fill_eq, encounter_eq]
  cases hmet : ((tracker.entries (Slotted.key candidate)).filterMap Entry.occupant?).find?
      (standsFor candidate) with
  | none =>
      exact absurd hstands
        (List.find?_eq_none.mp hmet occupant (Entry.mem_filterMap_occupant?.mpr hheld))
  | some first =>
      -- The search ends at a package that stands for the candidate, and there is only one.
      have hthere := Entry.mem_filterMap_occupant?.mp (List.mem_of_find?_eq_some hmet)
      obtain rfl := eq_of_standsFor h hthere hheld (List.find?_some hmet) hstands
      simp [hallowed]

/-- A candidate is accepted in these two ways only. -/
theorem result_fill_eq_ok_nil_iff (h : tracker.Shows roster) :
    (tracker.fill candidate).result = .ok [] ↔
      tracker.Unopposed candidate ∨ tracker.Confirmed candidate := by
  constructor
  · intro haccepted
    rw [fill_eq, encounter_eq] at haccepted
    cases hmet : ((tracker.entries (Slotted.key candidate)).filterMap Entry.occupant?).find?
        (standsFor candidate) with
    | none =>
        left
        cases hfound : (tracker.entries (Slotted.key candidate)).filter (opposes candidate) with
        | nil =>
            exact fun entry hentry =>
              Bool.eq_false_iff.mpr (List.filter_eq_nil_iff.mp hfound entry hentry)
        | cons entry rest =>
            rw [hmet, hfound] at haccepted
            cases haccepted
    | some occupant =>
        right
        refine ⟨occupant, Entry.mem_filterMap_occupant?.mp (List.mem_of_find?_eq_some hmet),
          List.find?_some hmet, ?_⟩
        cases hforbids : forbids (tracker.entries (Slotted.key candidate)) occupant with
        | false =>
            rfl
        | true =>
            simp only [hmet, hforbids] at haccepted
            cases haccepted
  · rintro (hunopposed | hconfirmed)
    · rw [fill_of_unopposed hunopposed]
      rfl
    · rw [fill_of_confirmed h hconfirmed]
      rfl

/-- No accepted candidate is forbidden if blockers treat packages alike that count as it. -/
theorem not_forbids_of_accepted
    (h : tracker.Shows roster)
    (halike : ∀ (package : P) (restriction : R), Slotted.agrees package candidate = true →
      Restriction.blocks restriction package = Restriction.blocks restriction candidate)
    (haccepted : (tracker.fill candidate).result = .ok []) :
    forbids (tracker.entries (Slotted.key candidate)) candidate = false := by
  rcases (result_fill_eq_ok_nil_iff h).mp haccepted with hunopposed | hconfirmed
  · exact not_forbids_of_unopposed hunopposed
  · exact not_forbids_of_confirmed hconfirmed halike

variable [DecidableEq P] [DecidableEq R]

/-- After every run a candidate is accepted exactly if nothing opposes it or a package is confirmed
in its place.  In the first case no blocker of its key forbids it and it is taken in, in the
second one the tracker does not change.  If blockers treat packages alike that count as the
candidate, then no blocker of its key forbids it in either case. -/
theorem accepted_iff_unopposed_or_confirmed
    (requests : List (Request P R))
    (candidate : P) :
    let tracker : Tracker P R := empty.after requests
    let key := Slotted.key candidate
    let answer := tracker.fill candidate
    (answer.result = .ok [] ↔ tracker.Unopposed candidate ∨ tracker.Confirmed candidate) ∧
      (tracker.Unopposed candidate →
        forbids (tracker.entries key) candidate = false ∧
          answer.state = tracker.append key (.occupant candidate)) ∧
      (tracker.Confirmed candidate → answer.state = tracker) ∧
      ((∀ (package : P) (restriction : R), Slotted.agrees package candidate = true →
          Restriction.blocks restriction package = Restriction.blocks restriction candidate) →
        answer.result = .ok [] → forbids (tracker.entries key) candidate = false) := by
  intro tracker key answer
  have hshows := after_shows requests
  refine ⟨result_fill_eq_ok_nil_iff hshows, fun hunopposed => ⟨?_, ?_⟩, fun hconfirmed => ?_,
    fun halike haccepted => ?_⟩
  · exact not_forbids_of_unopposed hunopposed
  · exact congrArg Outcome.state (fill_of_unopposed hunopposed)
  · exact congrArg Outcome.state (fill_of_confirmed hshows hconfirmed)
  · exact not_forbids_of_accepted hshows halike haccepted

/-- Two releases have one tag, and a range that was registered in front of both contains only the
later one.  The later release is accepted all the same, since the earlier one is confirmed in its
place. -/
theorem forbidden_release_accepted :
    let range : VersionRange := ⟨"dev-libs/k", 2, 3⟩
    let first : Release := ⟨"dev-libs/k", ⟨"1", none⟩, 1, "k"⟩
    let second : Release := ⟨"dev-libs/k", ⟨"1", none⟩, 2, "k"⟩
    let tracker : Tracker Release VersionRange := empty.after [.limit range, .fill first]
    (Equivalence fun a b : Release => Slotted.agrees a b = true) ∧
      .blocker range ∈ tracker.entries (Slotted.key second) ∧
      Restriction.blocks range second = true ∧
      tracker.fill second = .done [] tracker := by
  refine ⟨⟨fun a => beq_self_eq_true a.tag, fun h => ?_, fun h k => ?_⟩, by decide, rfl, rfl⟩
  · exact beq_iff_eq.mpr (beq_iff_eq.mp h).symm
  · exact beq_iff_eq.mpr ((beq_iff_eq.mp h).trans (beq_iff_eq.mp k))

omit [Slotted P] [Restriction R P] [DecidableEq P] [DecidableEq R] in
/-- Packages with a coordinate count as the same one only if they are equal.  So none of them is
accepted that a blocker of its key forbids. -/
theorem not_forbids_of_accepted_package
    (requests : List (Request Package Blocker))
    (candidate : Package)
    (haccepted : (fill (empty.after requests) candidate).result = .ok []) :
    forbids (entries (empty.after requests) candidate.key) candidate = false := by
  refine not_forbids_of_accepted (after_shows requests) (fun package restriction hagrees => ?_)
    haccepted
  rw [beq_iff_eq.mp hagrees]

end Accepting

end Tracker
end PackageMetadata
