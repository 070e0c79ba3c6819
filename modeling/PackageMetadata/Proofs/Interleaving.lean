import Mathlib.Data.Set.Basic
import PackageMetadata.Proofs.Bucket
import PackageMetadata.Slots.Release

/-!
# Plans that share no key

A tracker keeps what it holds key by key, and every request is about one key.  It is answered from
what is held under this key alone, and it changes nothing under the others, whether it succeeds or
fails.  So the requests of two plans that have no key in common can be made in any order as long
as each plan keeps its own: every request is answered as if the other plan did not exist, and the
tracker is the same in the end.

Nothing is assumed about the tracker at the start, nor about blockers: one that forbids packages of
any key still meets those of its own key only.

**Definitions**

* `Turn`, `Interleaved`: a list that is made of two others, and in which turns.
* `Request.key`: the key that a request is about.
* `Confined`: an operation reads and changes what is held under one key only.
* `AgreeOn`: two trackers hold the same under some keys.

**Results**

* `confined_serve`: a request is confined to its key.
* `answers_agreeOn`, `after_agreeOn`: a plan sees and changes its own keys only.
* `interleaved_agreeOn`: two plans, each with keys of its own, that are made in turns.
* `interleaved_answers`: the answers of both plans and the tracker after them.
-/

namespace PackageMetadata

universe u

section Turns

/-- From which of two lists an element is taken. -/
inductive Turn where
  | first
  | second
deriving DecidableEq

/-- A list that takes the elements of two others in turns, each list in its own order, until
nothing is left of either. -/
inductive Interleaved
    {α : Type u} :
    List Turn → List α → List α → List α → Prop
  | done :
      Interleaved [] [] [] []
  | first
      {turns : List Turn}
      {first second merged : List α}
      (element : α)
      (rest : Interleaved turns first second merged) :
      Interleaved (.first :: turns) (element :: first) second (element :: merged)
  | second
      {turns : List Turn}
      {first second merged : List α}
      (element : α)
      (rest : Interleaved turns first second merged) :
      Interleaved (.second :: turns) first (element :: second) (element :: merged)

end Turns

namespace Tracker

open Outcome (Related related_map)

variable {P R : Type} [Slotted P] [Restriction R P]

section Definitions

/-- The key that a request is about. -/
def Request.key : Request P R → String
  | .fill candidate => Slotted.key candidate
  | .limit restriction => Restriction.key (P := P) restriction
  | .add entry => entry.key
  | .remove entry => entry.key

omit [Slotted P] [Restriction R P] in
/-- Two trackers hold the same entries under some keys. -/
def AgreeOn
    (keys : Set String)
    (a b : Tracker P R) :
    Prop :=
  ∀ key ∈ keys, a.buckets.get? key = b.buckets.get? key

omit [Slotted P] [Restriction R P] in
/-- An operation that is about one key. -/
structure Confined
    {α : Type u}
    (key : String)
    (operation : Tracker P R → Outcome (Tracker P R) α) :
    Prop where
  /-- Trackers that hold the same under the key give the same answer, and hold the same under it
  afterwards. -/
  alike : ∀ a b, a.buckets.get? key = b.buckets.get? key →
    Related (fun s t => s.buckets.get? key = t.buckets.get? key) (operation a) (operation b)
  /-- Under any other key nothing changes. -/
  elsewhere : ∀ tracker other, other ≠ key →
    (operation tracker).state.buckets.get? other = tracker.buckets.get? other

end Definitions

section Operations

omit [Slotted P] [Restriction R P] in
theorem entries_congr
    {key : String}
    {a b : Tracker P R}
    (h : a.buckets.get? key = b.buckets.get? key) :
    a.entries key = b.entries key := by
  rw [entries, entries, h]

omit [Slotted P] [Restriction R P] in
theorem get?_append_congr
    {key : String}
    {a b : Tracker P R}
    (h : a.buckets.get? key = b.buckets.get? key)
    (entry : Entry P R) :
    (a.append key entry).buckets.get? key = (b.append key entry).buckets.get? key := by
  rw [get?_append, get?_append, if_pos rfl, if_pos rfl, entries_congr h]

theorem confined_fill (candidate : P) :
    Confined (Slotted.key candidate) fun tracker : Tracker P R => tracker.fill candidate where
  alike a b h := by
    rw [fill_eq, fill_eq, entries_congr h]
    cases encounter candidate (b.entries (Slotted.key candidate)) with
    | present occupant =>
        dsimp only
        split
        · exact ⟨rfl, h⟩
        · exact ⟨rfl, h⟩
    | conflicts found =>
        cases found with
        | nil =>
            exact ⟨rfl, get?_append_congr h (.occupant candidate)⟩
        | cons entry rest =>
            exact ⟨rfl, h⟩
  elsewhere tracker other hother := by
    obtain hsame | ⟨hadded, -⟩ := state_fill tracker candidate
    · rw [hsame]
    · rw [hadded, get?_append, if_neg hother]

theorem confined_limit (restriction : R) :
    Confined (Restriction.key (P := P) restriction)
      fun tracker : Tracker P R => tracker.add (.blocker restriction) where
  alike a b h := by
    rw [add, add, limit_eq, limit_eq, entries_congr h]
    exact ⟨rfl, get?_append_congr h (.blocker restriction)⟩
  elsewhere tracker other hother := by
    rw [add, limit_eq, Outcome.state_done, get?_append, if_neg hother]

variable [DecidableEq P] [DecidableEq R]

theorem confined_remove (entry : Entry P R) :
    Confined entry.key fun tracker : Tracker P R => tracker.remove entry where
  alike a b h := by
    by_cases hthere : entry ∈ b.entries entry.key
    · obtain ⟨after, hremove, hreduced⟩ := remove_of_mem hthere
      rw [← entries_congr h] at hthere
      obtain ⟨after', hremove', hreduced'⟩ := remove_of_mem hthere
      have hown := hreduced'.own
      rw [entries_congr h] at hown
      rw [hremove, hremove']
      exact ⟨rfl, hown.trans hreduced.own.symm⟩
    · rw [remove_of_not_mem hthere]
      rw [← entries_congr h] at hthere
      rw [remove_of_not_mem hthere, containsKey, containsKey, OrderedMap.contains_eq_isSome,
        OrderedMap.contains_eq_isSome, h]
      exact ⟨rfl, h⟩
  elsewhere tracker other hother := by
    by_cases hthere : entry ∈ tracker.entries entry.key
    · obtain ⟨after, hremove, hreduced⟩ := remove_of_mem hthere
      rw [hremove]
      exact hreduced.elsewhere other hother
    · rw [remove_of_not_mem hthere]
      rfl

/-- A request reads and changes what is held under its key only, also if it fails. -/
theorem confined_serve (request : Request P R) :
    Confined request.key fun tracker : Tracker P R => tracker.serve request := by
  cases request with
  | fill candidate =>
      exact confined_fill candidate
  | limit restriction =>
      exact confined_limit restriction
  | add entry =>
      cases entry with
      | occupant candidate =>
          exact confined_fill candidate
      | blocker restriction =>
          exact confined_limit restriction
  | remove entry =>
      have h := confined_remove entry
      exact ⟨fun a b hab => related_map (h.alike a b hab) _, h.elsewhere⟩

end Operations

section Keys

variable {keys : Set String} {a b tracker : Tracker P R} {request : Request P R}

omit [Slotted P] [Restriction R P] in
theorem agreeOn_self : AgreeOn keys tracker tracker :=
  fun _ _ => rfl

omit [Slotted P] [Restriction R P] in
theorem agreeOn_of_common
    {c : Tracker P R}
    (ha : AgreeOn keys a c)
    (hb : AgreeOn keys b c) :
    AgreeOn keys a b :=
  fun key hkey => (ha key hkey).trans (hb key hkey).symm

omit [Slotted P] [Restriction R P] in
/-- Trackers that agree on some keys and on all others are equal. -/
theorem eq_of_agreeOn
    (h : AgreeOn keys a b)
    (hothers : AgreeOn keysᶜ a b) :
    a = b := by
  refine ext_get? fun key => ?_
  by_cases hkey : key ∈ keys
  · exact h key hkey
  · exact hothers key hkey

variable [DecidableEq P] [DecidableEq R]

/-- Trackers that agree on some keys answer requests about these keys alike. -/
theorem serve_agreeOn
    (h : AgreeOn keys a b)
    (hkey : request.key ∈ keys) :
    Related (AgreeOn keys) (a.serve request) (b.serve request) := by
  have hconfined := confined_serve request
  obtain ⟨hresult, hsame⟩ := hconfined.alike a b (h request.key hkey)
  refine ⟨hresult, fun key hmem => ?_⟩
  by_cases hown : key = request.key
  · rw [hown]
    exact hsame
  · rw [hconfined.elsewhere a key hown, hconfined.elsewhere b key hown]
    exact h key hmem

/-- Requests about other keys do not matter. -/
theorem agreeOn_serve
    (h : AgreeOn keys a b)
    (hkey : request.key ∉ keys) :
    AgreeOn keys (a.serve request).state b := by
  intro key hmem
  have hother : key ≠ request.key := by
    rintro rfl
    exact hkey hmem
  rw [(confined_serve request).elsewhere a key hother]
  exact h key hmem

end Keys

section Plans

variable [DecidableEq P] [DecidableEq R]
variable {keys : Set String} {a b : Tracker P R}

/-- Trackers that agree on the keys of a plan answer the plan alike. -/
theorem answers_agreeOn
    (h : AgreeOn keys a b)
    {requests : List (Request P R)}
    (hkeys : ∀ request ∈ requests, request.key ∈ keys) :
    a.answers requests = b.answers requests ∧
      AgreeOn keys (a.after requests) (b.after requests) := by
  induction requests generalizing a b with
  | nil =>
      exact ⟨rfl, h⟩
  | cons request rest ih =>
      obtain ⟨hkey, hrest⟩ := List.forall_mem_cons.mp hkeys
      obtain ⟨hresult, hstate⟩ := serve_agreeOn h hkey
      obtain ⟨hanswers, hafter⟩ := ih hstate hrest
      refine ⟨?_, hafter⟩
      rw [answers, answers, hresult, hanswers]

/-- A plan changes nothing under keys that it does not have. -/
theorem after_agreeOn
    (h : AgreeOn keys a b)
    {requests : List (Request P R)}
    (hkeys : ∀ request ∈ requests, request.key ∉ keys) :
    AgreeOn keys (a.after requests) b := by
  induction requests generalizing a with
  | nil =>
      exact h
  | cons request rest ih =>
      obtain ⟨hkey, hrest⟩ := List.forall_mem_cons.mp hkeys
      exact ih (agreeOn_serve h hkey) hrest

variable {turns : List Turn} {first second merged : List (Request P R)}

/-- Two plans that are made in turns, the first one about some keys and the second one about
others.  Each is answered as on a tracker of its own that agrees on its keys at the start, and
agrees with it on these keys in the end. -/
theorem interleaved_agreeOn
    (hmerged : Interleaved turns first second merged)
    (hfirst : ∀ request ∈ first, request.key ∈ keys)
    (hsecond : ∀ request ∈ second, request.key ∈ keysᶜ)
    {tracker : Tracker P R}
    (ha : AgreeOn keys tracker a)
    (hb : AgreeOn keysᶜ tracker b) :
    Interleaved turns (a.answers first) (b.answers second) (tracker.answers merged) ∧
      AgreeOn keys (tracker.after merged) (a.after first) ∧
      AgreeOn keysᶜ (tracker.after merged) (b.after second) := by
  induction hmerged generalizing tracker a b with
  | done =>
      exact ⟨.done, ha, hb⟩
  | first request rest ih =>
      obtain ⟨hkey, hrest⟩ := List.forall_mem_cons.mp hfirst
      obtain ⟨hresult, hstate⟩ := serve_agreeOn ha hkey
      have hothers : AgreeOn keysᶜ (tracker.serve request).state b :=
        agreeOn_serve hb fun hnot => hnot hkey
      obtain ⟨hanswers, hafter⟩ := ih hrest hsecond hstate hothers
      refine ⟨?_, hafter⟩
      rw [answers, answers, hresult]
      exact .first _ hanswers
  | second request rest ih =>
      obtain ⟨hkey, hrest⟩ := List.forall_mem_cons.mp hsecond
      obtain ⟨hresult, hstate⟩ := serve_agreeOn hb hkey
      have hothers : AgreeOn keys (tracker.serve request).state a := agreeOn_serve ha hkey
      obtain ⟨hanswers, hafter⟩ := ih hfirst hrest hothers hstate
      refine ⟨?_, hafter⟩
      rw [answers, answers, hresult]
      exact .second _ hanswers

/-- Two plans that have no key in common, made in any turns.  Each request is answered as it is if
the second plan is made after the first one, and this is how it is answered if the other plan is
not made at all.  The tracker in the end is the one that the first plan leaves if it is followed
by the second one, or the other way round. -/
theorem interleaved_answers
    (tracker : Tracker P R)
    (hdisjoint : ∀ a ∈ first, ∀ b ∈ second, a.key ≠ b.key)
    (hmerged : Interleaved turns first second merged) :
    Interleaved turns (tracker.answers first) ((tracker.after first).answers second)
        (tracker.answers merged) ∧
      (tracker.after first).answers second = tracker.answers second ∧
      (tracker.after second).answers first = tracker.answers first ∧
      tracker.after merged = (tracker.after first).after second ∧
      tracker.after merged = (tracker.after second).after first := by
  let keys : Set String := {key | ∃ request ∈ first, request.key = key}
  have hfirst : ∀ request ∈ first, request.key ∈ keys :=
    fun request hrequest => ⟨request, hrequest, rfl⟩
  have hapart : ∀ request ∈ first, request.key ∉ keysᶜ :=
    fun request hrequest hnot => hnot (hfirst request hrequest)
  have hsecond : ∀ request ∈ second, request.key ∈ keysᶜ := by
    rintro b hb ⟨a, ha, hkey⟩
    exact hdisjoint a ha b hb hkey
  have hself : AgreeOn keys tracker tracker := agreeOn_self
  obtain ⟨hmixed, hkeys, hothers⟩ :=
    interleaved_agreeOn hmerged hfirst hsecond hself agreeOn_self
  -- Either plan leaves the keys of the other one as they were, so the other one is answered
  -- behind it as at the start.
  obtain ⟨hanswers, hsame⟩ := answers_agreeOn (after_agreeOn agreeOn_self hapart) hsecond
  obtain ⟨hanswers', hsame'⟩ := answers_agreeOn (after_agreeOn agreeOn_self hsecond) hfirst
  have hkept : AgreeOn keys ((tracker.after first).after second) (tracker.after first) :=
    after_agreeOn agreeOn_self hsecond
  have hkept' : AgreeOn keysᶜ ((tracker.after second).after first) (tracker.after second) :=
    after_agreeOn agreeOn_self hapart
  refine ⟨?_, hanswers, hanswers', ?_, ?_⟩
  · rw [hanswers]
    exact hmixed
  · exact eq_of_agreeOn (agreeOn_of_common hkeys hkept) (agreeOn_of_common hothers hsame)
  · exact eq_of_agreeOn (agreeOn_of_common hkeys hsame') (agreeOn_of_common hothers hkept')

/-- A range that forbids every version is registered under one key and makes the tracker fail
there.  The release of another key is first missed and then stored, taken out and stored again, as
if the range did not exist. -/
theorem interleaved_answers_broken :
    let range : VersionRange := ⟨"dev-libs/a", 0, 9⟩
    let held : Release := ⟨"dev-libs/a", ⟨"1", none⟩, 1, "a"⟩
    let free : Release := ⟨"dev-libs/b", ⟨"1", none⟩, 1, "b"⟩
    let first : List (Request Release VersionRange) := [.fill held, .limit range, .fill held]
    let second : List (Request Release VersionRange) :=
      [.remove (.occupant free), .fill free, .remove (.occupant free)]
    let turns : List Turn := [.second, .first, .first, .second, .first, .second]
    let merged : List (Request Release VersionRange) :=
      [.remove (.occupant free), .fill held, .limit range, .fill free, .fill held,
        .remove (.occupant free)]
    let tracker : Tracker Release VersionRange := empty
    (∀ a ∈ first, ∀ b ∈ second, a.key ≠ b.key) ∧
      Interleaved turns first second merged ∧
      Interleaved turns
        [.ok [], .ok [.occupant held], .error (.brokenTracker "dev-libs/a")]
        [.error (.noSlots "dev-libs/b"), .ok [], .ok []]
        (tracker.answers merged) ∧
      tracker.after merged = (tracker.after second).after first := by
  intro range held free first second turns merged tracker
  have hdisjoint : ∀ a ∈ first, ∀ b ∈ second, a.key ≠ b.key := by decide
  have hmerged : Interleaved turns first second merged :=
    .second _ (.first _ (.first _ (.second _ (.first _ (.second _ .done)))))
  obtain ⟨hanswers, -, -, -, hafter⟩ := interleaved_answers tracker hdisjoint hmerged
  have hfirst : tracker.answers first =
      [.ok [], .ok [.occupant held], .error (.brokenTracker "dev-libs/a")] := by
    decide
  have hsecond : (tracker.after first).answers second =
      [.error (.noSlots "dev-libs/b"), .ok [], .ok []] := by
    decide
  rw [hfirst, hsecond] at hanswers
  exact ⟨hdisjoint, hmerged, hanswers, hafter⟩

end Plans

end Tracker
end PackageMetadata
