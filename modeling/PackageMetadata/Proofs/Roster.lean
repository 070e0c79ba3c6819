import PackageMetadata.Proofs.Encounter
import PackageMetadata.Proofs.OrderedMap
import PackageMetadata.Proofs.Outcome
import PackageMetadata.Proofs.Removal
import PackageMetadata.Slots.Request

/-!
# What a tracker shows: one list

A *roster* is a single list of all packages and blockers in the order in which they came.  It
has no keys to look up and nothing to tidy up, and its rules are said in terms of the whole
list.  A tracker answers every run of requests as a roster does, and what it holds under a key
are the entries of the roster that have this key.

**Rules**

* A candidate that counts as a package in the same slot changes nothing.  It is a failure if
  a blocker of its key forbids such a package.
* Any other candidate is answered the entries of its key that hinder it, and is taken in if
  there are none.
* A blocker is answered the packages of its key that it forbids, and is always taken in.
* Taking an entry out takes all its copies out, and fails if there are none.

**Results**

* `fill_eq`: the rule for candidates in the words of a tracker.
* `serve_related`: one request, simulated by the roster.
* `answers_eq_roster`: a whole run.
-/

namespace PackageMetadata

/-- All entries, earliest first. -/
structure Roster (P R : Type) where
  held : List (Entry P R) := []

namespace Roster

open Tracker (Request standsFor opposes forbids)

variable {P R : Type} [Slotted P] [Restriction R P]

section Rules

omit [Restriction R P] in
/-- A package counts as a candidate if it is in the same main slot and agrees with it. -/
def CountsAs (package candidate : P) : Prop :=
  (Slotted.slot package).main = (Slotted.slot candidate).main ∧
    Slotted.agrees package candidate = true

/-- An entry hinders a candidate if it is a package in the same main slot or a blocker that
forbids the candidate. -/
def Hinders (candidate : P) : Entry P R → Prop
  | .occupant package => (Slotted.slot package).main = (Slotted.slot candidate).main
  | .blocker restriction => Restriction.blocks restriction candidate = true

instance (package candidate : P) : Decidable (CountsAs package candidate) :=
  inferInstanceAs (Decidable (_ ∧ _))

instance (candidate : P) : DecidablePred (Hinders (R := R) candidate)
  | .occupant _ => inferInstanceAs (Decidable (_ = _))
  | .blocker _ => inferInstanceAs (Decidable (_ = _))

end Rules

section Requests

/-- The entries that have a key. -/
def entries
    (roster : Roster P R)
    (key : String) :
    List (Entry P R) :=
  roster.held.filter fun entry => entry.key == key

/-- The packages that have a key. -/
def packages
    (roster : Roster P R)
    (key : String) :
    List P :=
  (roster.entries key).filterMap Entry.occupant?

/-- The blockers that have a key. -/
def blockers
    (roster : Roster P R)
    (key : String) :
    List R :=
  (roster.entries key).filterMap Entry.blocker?

omit [Slotted P] [Restriction R P] in
def append
    (roster : Roster P R)
    (entry : Entry P R) :
    Roster P R :=
  ⟨roster.held ++ [entry]⟩

/-- Takes a candidate in if nothing hinders it. -/
def fill
    (roster : Roster P R)
    (candidate : P) :
    Outcome (Roster P R) (List (Entry P R)) :=
  let key := Slotted.key candidate
  let standing := (roster.packages key).filter fun package => CountsAs package candidate
  let hindering := (roster.entries key).filter fun entry => Hinders candidate entry
  if ∃ package ∈ standing, ∃ restriction ∈ roster.blockers key,
      Restriction.blocks restriction package = true then
    .failed (.brokenTracker key) roster
  else if !standing.isEmpty then
    .done [] roster
  else if hindering.isEmpty then
    .done [] (roster.append (.occupant candidate))
  else
    .done hindering roster

/-- Takes a blocker in and answers the packages that it forbids. -/
def limit
    (roster : Roster P R)
    (restriction : R) :
    Outcome (Roster P R) (List (Entry P R)) :=
  let packages := roster.packages (Restriction.key (P := P) restriction)
  let forbidden := packages.filter (Restriction.blocks restriction)
  .done (forbidden.map .occupant) (roster.append (.blocker restriction))

variable [DecidableEq P] [DecidableEq R]

/-- Takes all copies of an entry out. -/
def remove
    (roster : Roster P R)
    (entry : Entry P R) :
    Outcome (Roster P R) (List (Entry P R)) :=
  if entry ∈ roster.held then
    .done [] ⟨roster.held.filter fun other => other != entry⟩
  else if (roster.entries entry.key).isEmpty then
    .failed (.noSlots entry.key) roster
  else
    .failed (.notSlotted entry.key) roster

def serve
    (roster : Roster P R) :
    Request P R → Outcome (Roster P R) (List (Entry P R))
  | .fill candidate => roster.fill candidate
  | .limit restriction => roster.limit restriction
  | .add (.occupant candidate) => roster.fill candidate
  | .add (.blocker restriction) => roster.limit restriction
  | .remove entry => roster.remove entry

def after
    (roster : Roster P R)
    (requests : List (Request P R)) :
    Roster P R :=
  requests.foldl (fun roster request => (roster.serve request).state) roster

def answers
    (roster : Roster P R) :
    List (Request P R) → List (Except Failure (List (Entry P R)))
  | [] => []
  | request :: rest =>
      let served := roster.serve request
      served.result :: served.state.answers rest

end Requests

section Agreement

omit [Restriction R P] in
theorem decide_countsAs (package candidate : P) :
    decide (CountsAs package candidate) = standsFor candidate package := by
  rw [Bool.eq_iff_iff, decide_eq_true_iff, standsFor, Tracker.sharesSlot, Bool.and_eq_true,
    beq_iff_eq]
  rfl

theorem decide_hinders
    (candidate : P)
    (entry : Entry P R) :
    decide (Hinders candidate entry) = opposes candidate entry := by
  rw [Bool.eq_iff_iff, decide_eq_true_iff]
  cases entry with
  | occupant package =>
      exact beq_iff_eq.symm
  | blocker restriction =>
      exact Iff.rfl

/-- The rule for candidates as a tracker says it. -/
theorem fill_eq
    (roster : Roster P R)
    (candidate : P) :
    roster.fill candidate =
      let key := Slotted.key candidate
      let around := roster.entries key
      let standing := (around.filterMap Entry.occupant?).filter (standsFor candidate)
      let opposed := around.filter (opposes candidate)
      if standing.any (forbids around) then
        .failed (.brokenTracker key) roster
      else if !standing.isEmpty then
        .done [] roster
      else if opposed.isEmpty then
        .done [] (roster.append (.occupant candidate))
      else
        .done opposed roster := by
  have hcond (around : List (Entry P R)) (standing : List P) :
      (∃ package ∈ standing, ∃ restriction ∈ around.filterMap Entry.blocker?,
        Restriction.blocks restriction package = true) ↔ standing.any (forbids around) = true := by
    simp only [forbids, List.any_eq_true]
  simp only [fill, packages, blockers, decide_countsAs, decide_hinders, hcond]

end Agreement

section Lists

variable (roster : Roster P R) (key : String)

theorem entries_append (entry : Entry P R) :
    (roster.append entry).entries key =
      if key = entry.key then roster.entries key ++ [entry] else roster.entries key := by
  by_cases h : key = entry.key
  · subst h
    simp [entries, append]
  · simp [entries, append, h, Ne.symm h]

theorem key_of_mem_entries :
    ∀ entry ∈ roster.entries key, entry.key = key := by
  intro entry hentry
  have hkey := (List.mem_filter.mp hentry).2
  exact beq_iff_eq.mp hkey

variable [DecidableEq P] [DecidableEq R]

/-- Taking an entry out is noticed under its own key only. -/
theorem entries_filter_ne (entry : Entry P R) :
    (Roster.mk (roster.held.filter fun other => other != entry)).entries key =
      if key = entry.key then
        (roster.entries key).filter fun other => other != entry
      else
        roster.entries key := by
  have hcomm : (Roster.mk (roster.held.filter fun other => other != entry)).entries key =
      (roster.entries key).filter fun other => other != entry := by
    simp only [entries, List.filter_filter, Bool.and_comm]
  rw [hcomm]
  by_cases h : key = entry.key
  · rw [if_pos h]
  · rw [if_neg h, List.filter_eq_self]
    intro other hother
    have hkey := key_of_mem_entries roster key other hother
    rw [bne_iff_ne]
    rintro rfl
    exact h hkey.symm

end Lists

end Roster

namespace Tracker

open Outcome (Related)

variable {P R : Type} [Slotted P] [Restriction R P]

/-- A tracker shows a roster: under each key it has the entries of the roster, and no key
without entries.  No two packages of the roster have one slot. -/
structure Shows
    (tracker : Tracker P R)
    (roster : Roster P R) :
    Prop where
  buckets : ∀ key, tracker.buckets.get? key =
    if roster.entries key = [] then none else some (roster.entries key)
  exclusive : Exclusive roster.held

variable {tracker : Tracker P R} {roster : Roster P R}

theorem entries_eq
    (h : tracker.Shows roster)
    (key : String) :
    tracker.entries key = roster.entries key := by
  rw [entries, h.buckets]
  by_cases hempty : roster.entries key = [] <;> simp [hempty]

/-- An entry is added to the tracker under its own key and to the roster at its end. -/
theorem shows_append
    (h : tracker.Shows roster)
    {entry : Entry P R}
    (hexclusive : Exclusive (roster.append entry).held) :
    (tracker.append entry.key entry).Shows (roster.append entry) := by
  refine ⟨fun key => ?_, hexclusive⟩
  rw [append, OrderedMap.get?_insert, Roster.entries_append, entries_eq h]
  by_cases hkey : key = entry.key
  · simp [hkey]
  · simp only [if_neg hkey]
    exact h.buckets key

theorem fill_related
    (h : tracker.Shows roster)
    (candidate : P) :
    Related Shows (tracker.fill candidate) (roster.fill candidate) := by
  have hkeys := Roster.key_of_mem_entries roster (Slotted.key candidate)
  have hexclusive : Exclusive (roster.entries (Slotted.key candidate)) :=
    exclusive_filter h.exclusive _
  rw [fill_eq, entries_eq h, encounter_eq, ← List.head?_filter, Roster.fill_eq]
  dsimp only
  -- The tracker asks about the first package that counts as the candidate, the roster about
  -- all of them; since slots are exclusive there is at most one.
  rcases standing_eq hexclusive hkeys candidate with hnone | ⟨occupant, hsome⟩
  · rw [hnone]
    cases hopposed : (roster.entries (Slotted.key candidate)).filter (opposes candidate) with
    | nil =>
        refine ⟨rfl, shows_append h (exclusive_concat_occupant h.exclusive ?_)⟩
        intro entry hentry hkey
        have hmem : entry ∈ roster.entries (Slotted.key candidate) :=
          List.mem_filter.mpr ⟨hentry, beq_iff_eq.mpr hkey⟩
        have hnot := List.filter_eq_nil_iff.mp hopposed entry hmem
        exact Bool.eq_false_iff.mpr hnot
    | cons entry rest =>
        exact ⟨rfl, h⟩
  · rw [hsome]
    cases hforbids : forbids (roster.entries (Slotted.key candidate)) occupant with
    | true =>
        simp only [List.head?_cons, hforbids, List.any_cons, Bool.true_or, if_true]
        exact ⟨rfl, h⟩
    | false =>
        simp only [List.head?_cons, hforbids, List.any_cons, List.any_nil, Bool.or_false]
        exact ⟨rfl, h⟩

theorem limit_related
    (h : tracker.Shows roster)
    (restriction : R) :
    Related Shows (tracker.add (.blocker restriction)) (roster.limit restriction) := by
  rw [add, limit_eq, entries_eq h]
  exact ⟨rfl, shows_append h (exclusive_concat_blocker h.exclusive restriction)⟩

variable [DecidableEq P] [DecidableEq R]

/-- What is left if an entry is taken out shows what is left of the roster. -/
theorem shows_reduced
    (h : tracker.Shows roster)
    {entry : Entry P R}
    {after : Tracker P R}
    (hreduced : tracker.Reduced entry after) :
    after.Shows ⟨roster.held.filter fun other => other != entry⟩ := by
  refine ⟨fun key => ?_, exclusive_filter h.exclusive _⟩
  rw [Roster.entries_filter_ne]
  by_cases hkey : key = entry.key
  · have hown := hreduced.own
    rw [entries_eq h] at hown
    rw [if_pos hkey, hkey]
    exact hown
  · rw [if_neg hkey, hreduced.elsewhere key hkey]
    exact h.buckets key

/-- An entry is taken out of the roster if it is taken out of the tracker, and fails alike. -/
theorem remove_related
    (h : tracker.Shows roster)
    (entry : Entry P R) :
    Related Shows ((tracker.remove entry).map fun _ => []) (roster.remove entry) := by
  have hmem : entry ∈ roster.held ↔ entry ∈ tracker.entries entry.key := by
    simp [entries_eq h, Roster.entries]
  rw [Roster.remove]
  by_cases hheld : entry ∈ roster.held
  · obtain ⟨after, hremove, hreduced⟩ := remove_of_mem (hmem.mp hheld)
    rw [hremove, if_pos hheld]
    exact ⟨rfl, shows_reduced h hreduced⟩
  · have hnot : entry ∉ tracker.entries entry.key := fun hthere => hheld (hmem.mpr hthere)
    rw [remove_of_not_mem hnot, if_neg hheld, containsKey, OrderedMap.contains_eq_isSome,
      h.buckets]
    by_cases hempty : roster.entries entry.key = []
    · simp only [hempty, List.isEmpty_nil, if_true]
      exact ⟨rfl, h⟩
    · simp only [if_neg hempty, List.isEmpty_eq_false_iff.mpr hempty]
      exact ⟨rfl, h⟩

/-- Every request is answered as by the roster, and the roster is still shown afterwards. -/
theorem serve_related
    (h : tracker.Shows roster)
    (request : Request P R) :
    Related Shows (tracker.serve request) (roster.serve request) := by
  cases request with
  | fill candidate =>
      exact fill_related h candidate
  | limit restriction =>
      exact limit_related h restriction
  | add entry =>
      cases entry with
      | occupant candidate =>
          exact fill_related h candidate
      | blocker restriction =>
          exact limit_related h restriction
  | remove entry =>
      exact remove_related h entry

theorem answers_related
    (h : tracker.Shows roster)
    (requests : List (Request P R)) :
    tracker.answers requests = roster.answers requests ∧
      (tracker.after requests).Shows (roster.after requests) := by
  induction requests generalizing tracker roster with
  | nil =>
      exact ⟨rfl, h⟩
  | cons request rest ih =>
      obtain ⟨hresult, hstate⟩ := serve_related h request
      obtain ⟨hanswers, hafter⟩ := ih hstate
      refine ⟨?_, hafter⟩
      rw [answers, Roster.answers, hresult, hanswers]

omit [DecidableEq P] [DecidableEq R] in
theorem shows_empty :
    (empty : Tracker P R).Shows {} :=
  ⟨fun _ => rfl, List.Pairwise.nil⟩

/-- A tracker answers every run of requests as a single list does, and holds under each key what
the list holds under it, in the same order. -/
theorem answers_eq_roster
    (requests : List (Request P R)) :
    (empty : Tracker P R).answers requests = Roster.answers {} requests ∧
      ∀ key, ((empty : Tracker P R).after requests).entries key =
        (Roster.after {} requests).entries key := by
  obtain ⟨hanswers, hafter⟩ := answers_related shows_empty requests
  exact ⟨hanswers, entries_eq hafter⟩

end Tracker
end PackageMetadata
