import Mathlib.Data.List.DropRight
import PackageMetadata.Proofs.Lockstep
import PackageMetadata.Store.Request

/-!
# Journals

A journaled store notes every request that is made to it and whether the request succeeded.
Nothing else about it differs from the store it is built on, so the journal of a session
tells what a cache has asked of its store without changing what the cache does.

A journal falls into two parts.  All up to the last successful commit is *durable*, what
comes later is *waiting*.  The *lag* is the number of changes among the waiting requests.

**Results**

* `changes_eq_append`: durable changes come first and waiting ones follow.
* `lag_concat`: what one more request does to the lag.
* `journaled_lockstep`: a cache does not notice that its store keeps a journal.
* `journal_append`: what a session notes is put behind what was noted before.
-/

namespace PackageMetadata
namespace Store

universe u v

/-- A change that a store took: the new record of a coordinate, or its deletion. -/
abbrev Change := Coordinate × Option Record

/-- The change that a request asks for, if any. -/
def Request.change? : Request → Option Change
  | .write coordinate record => some (coordinate, some record)
  | .delete coordinate => some (coordinate, none)
  | _ => none

/-- A request that was made to a store, and whether it succeeded. -/
structure Attempt where
  request : Request
  succeeded : Bool
deriving DecidableEq

namespace Attempt

/-- The change that was made, if any. -/
def change? (attempt : Attempt) : Option Change :=
  if attempt.succeeded then attempt.request.change? else none

/-- Whether changes were made durable. -/
def isCommit (attempt : Attempt) : Bool :=
  attempt.succeeded && attempt.request == .commit

end Attempt

/-- The requests to a store, earliest first. -/
abbrev Journal := List Attempt

namespace Journal

/-- The changes that the store took. -/
def changes (journal : Journal) : List Change :=
  journal.filterMap Attempt.change?

/-- The requests up to the last commit. -/
def durable (journal : Journal) : Journal :=
  journal.rdropWhile fun attempt => !attempt.isCommit

/-- The requests since the last commit. -/
def waiting (journal : Journal) : Journal :=
  journal.rtakeWhile fun attempt => !attempt.isCommit

/-- The number of changes since the last commit. -/
def lag (journal : Journal) : Nat :=
  journal.waiting.changes.length

theorem changes_append (left right : Journal) :
    changes (left ++ right) = changes left ++ changes right :=
  List.filterMap_append

theorem changes_eq_append (journal : Journal) :
    journal.changes = journal.durable.changes ++ journal.waiting.changes := by
  rw [← changes_append, durable, waiting, List.rdropWhile_append_rtakeWhile]

/-- A commit makes all durable; whatever else is asked makes nothing durable. -/
theorem durable_concat
    (journal : Journal)
    (attempt : Attempt) :
    durable (journal ++ [attempt]) =
      if attempt.isCommit then journal ++ [attempt] else journal.durable := by
  cases h : attempt.isCommit <;> simp [durable, h]

/-- A commit ends the lag, and a change adds to it. -/
theorem lag_concat
    (journal : Journal)
    (attempt : Attempt) :
    lag (journal ++ [attempt]) =
      if attempt.isCommit then 0 else journal.lag + attempt.change?.toList.length := by
  cases h : attempt.isCommit with
  | true =>
      simp [lag, waiting, h, changes]
  | false =>
      cases hchange : attempt.change? <;>
        simp [lag, waiting, h, changes, hchange, List.filterMap_append]

theorem changes_concat
    (journal : Journal)
    (attempt : Attempt) :
    changes (journal ++ [attempt]) = journal.changes ++ attempt.change?.toList := by
  rw [changes_append]
  cases h : attempt.change? <;> simp [changes, h]

end Journal

/-- A store with its journal. -/
structure Journaled (σ : Type u) where
  store : σ
  journal : Journal := []

namespace Journaled

variable {σ : Type u} {α : Type v}

/-- Lets the store serve a request and notes how it ended. -/
def note
    (request : Request)
    (operation : σ → Outcome σ α)
    (journaled : Journaled σ) :
    Outcome (Journaled σ) α :=
  let outcome := operation journaled.store
  ⟨outcome.result, ⟨outcome.state, journaled.journal ++ [⟨request, outcome.result.isOk⟩]⟩⟩

instance [Store σ] : Store (Journaled σ) where
  fetch coordinate := note (.fetch coordinate) (Store.fetch coordinate)
  write coordinate record := note (.write coordinate record) (Store.write coordinate record)
  delete coordinate := note (.delete coordinate) (Store.delete coordinate)
  keys := note .keys Store.keys
  contains coordinate := note (.contains coordinate) (Store.contains coordinate)
  commit := note .commit Store.commit
  capabilities journaled := Store.capabilities journaled.store

variable (request : Request) (operation : σ → Outcome σ α) (s : Journaled σ)

variable {request operation s} in
/-- How a request went tells what the store did and what was noted. -/
theorem note_eq
    {result : Except Failure α}
    {t : Journaled σ}
    (h : s.note request operation = ⟨result, t⟩) :
    operation s.store = ⟨result, t.store⟩ ∧ t.journal = s.journal ++ [⟨request, result.isOk⟩] := by
  have hresult : (operation s.store).result = result := congrArg Outcome.result h
  have hstate : (s.note request operation).state = t := congrArg Outcome.state h
  rw [← hstate, ← hresult]
  exact ⟨rfl, rfl⟩

variable {operation s} in
theorem note_of_eq
    {result : Except Failure α}
    {store : σ}
    (h : operation s.store = ⟨result, store⟩) :
    s.note request operation = ⟨result, ⟨store, s.journal ++ [⟨request, result.isOk⟩]⟩⟩ := by
  rw [note, h]

/-- What a request does to the lag: nothing if it fails. -/
theorem lag_note :
    (s.note request operation).state.journal.lag =
      if (operation s.store).result.isOk then
        if request = .commit then 0 else s.journal.lag + request.change?.toList.length
      else
        s.journal.lag := by
  rw [note, Journal.lag_concat]
  cases (operation s.store).result.isOk <;> by_cases h : request = .commit <;>
    simp [Attempt.isCommit, Attempt.change?, h]

theorem lag_note_le :
    (s.note request operation).state.journal.lag ≤
      s.journal.lag +
        if (operation s.store).result.isOk then request.change?.toList.length else 0 := by
  rw [lag_note]
  split
  · split <;> omega
  · omega

theorem changes_note :
    (s.note request operation).state.journal.changes =
      s.journal.changes ++
        if (operation s.store).result.isOk then request.change?.toList else [] := by
  rw [note, Journal.changes_concat]
  cases (operation s.store).result.isOk <;> simp [Attempt.change?]

/-- A request that asks for no change makes none. -/
theorem changes_note_of_quiet
    {request : Request}
    (hquiet : request.change? = none) :
    (s.note request operation).state.journal.changes = s.journal.changes := by
  rw [changes_note, hquiet, Option.toList_none, ite_self, List.append_nil]

/-- What a request does to the durable changes: only a commit adds to them. -/
theorem durable_note :
    (s.note request operation).state.journal.durable.changes =
      if (operation s.store).result.isOk ∧ request = .commit then
        s.journal.changes
      else
        s.journal.durable.changes := by
  rw [note, Journal.durable_concat]
  cases (operation s.store).result.isOk <;> by_cases h : request = .commit <;>
    simp [Attempt.isCommit, h, Journal.changes_concat, Attempt.change?, Request.change?]

/-- Reading and committing makes no changes. -/
theorem changes_keepsReading
    [Store σ]
    (changes : List Change) :
    Store.KeepsReading fun s : Journaled σ => s.journal.changes = changes where
  fetch coordinate s h :=
    (changes_note_of_quiet (Store.fetch coordinate) s rfl).trans h
  keys s h :=
    (changes_note_of_quiet Store.keys s rfl).trans h
  contains coordinate s h :=
    (changes_note_of_quiet (Store.contains coordinate) s rfl).trans h
  commit s h :=
    (changes_note_of_quiet Store.commit s rfl).trans h

/-- A journaled store answers as the store itself. -/
theorem lockstep [Store σ] :
    Store.Lockstep (fun _ => True) fun (s : Journaled σ) (t : σ) => s.store = t where
  fetch := by
    rintro coordinate s _ rfl
    exact ⟨rfl, rfl⟩
  write := by
    rintro coordinate record s _ - rfl
    exact ⟨rfl, rfl⟩
  delete := by
    rintro coordinate s _ rfl
    exact ⟨rfl, rfl⟩
  keys := by
    rintro s _ rfl
    exact ⟨rfl, rfl⟩
  contains := by
    rintro coordinate s _ rfl
    exact ⟨rfl, rfl⟩
  commit := by
    rintro s _ rfl
    exact ⟨rfl, rfl⟩

section Behind

variable (base : Journal)

/-- Two journaled stores of which one has a first part in front of the journal of the other. -/
def Behind (s t : Journaled σ) : Prop :=
  s.store = t.store ∧ s.journal = base ++ t.journal

variable {base} {s t : Journaled σ}

theorem note_behind
    (request : Request)
    (operation : σ → Outcome σ α)
    (h : Behind base s t) :
    Outcome.Related (Behind base) (s.note request operation) (t.note request operation) := by
  obtain ⟨hstore, hjournal⟩ := h
  rw [note, note, hstore, hjournal]
  exact ⟨rfl, rfl, List.append_assoc ..⟩

/-- What is in front of a journal changes nothing. -/
theorem lockstep_behind [Store σ] :
    Store.Lockstep (fun _ => True) (Behind (σ := σ) base) where
  fetch coordinate _ _ h := note_behind (.fetch coordinate) (Store.fetch coordinate) h
  write coordinate record _ _ _ h :=
    note_behind (.write coordinate record) (Store.write coordinate record) h
  delete coordinate _ _ h := note_behind (.delete coordinate) (Store.delete coordinate) h
  keys _ _ h := note_behind .keys Store.keys h
  contains coordinate _ _ h := note_behind (.contains coordinate) (Store.contains coordinate) h
  commit _ _ h := note_behind .commit Store.commit h

end Behind

end Journaled

end Store

namespace Cache

universe w

variable {σ : Type w} [Store σ]

omit [Store σ] in
/-- A cache whose store starts a journal. -/
def journaled (cache : Cache σ) : Cache (Store.Journaled σ) :=
  { schema := cache.schema
    readOnly := cache.readOnly
    traits := cache.traits
    syncRate := cache.syncRate
    pending := cache.pending
    store := { store := cache.store } }

/-- What is asked of the store of a cache in a session. -/
def journal
    (cache : Cache σ)
    (session : List Request) :
    Store.Journal :=
  (cache.journaled.after session).store.journal

omit [Store σ] in
/-- A cache does not notice that its store keeps a journal. -/
theorem journaled_lockstep (cache : Cache σ) :
    cache.journaled.Lockstep (fun _ => True) (fun s t => s.store = t) cache :=
  { schema := rfl
    readOnly := rfl
    traits := rfl
    syncRate := rfl
    pending := rfl
    store := rfl
    admits := fun _ _ => trivial }

theorem after_journaled
    (cache : Cache σ)
    (session : List Request) :
    (cache.journaled.after session).Lockstep (fun _ => True) (fun s t => s.store = t)
      (cache.after session) :=
  after_lockstep Store.Journaled.lockstep (journaled_lockstep cache) session

theorem journal_concat
    (cache : Cache σ)
    (session : List Request)
    (request : Request) :
    cache.journal (session ++ [request]) =
      ((cache.journaled.after session).serve request).state.store.journal := by
  rw [journal, after, List.foldl_concat]
  rfl

theorem after_append
    (cache : Cache σ)
    (first second : List Request) :
    cache.after (first ++ second) = (cache.after first).after second :=
  List.foldl_append

/-- What is asked of the store in a session does not depend on how the cache came to its state. -/
theorem journal_append
    (cache : Cache σ)
    (first second : List Request) :
    cache.journal (first ++ second) =
      cache.journal first ++ (cache.after first).journal second := by
  have hfirst := after_journaled cache first
  have hbehind : (cache.journaled.after first).Lockstep (fun _ => True)
      (Store.Journaled.Behind (cache.journal first)) (cache.after first).journaled :=
    { schema := hfirst.schema
      readOnly := hfirst.readOnly
      traits := hfirst.traits
      syncRate := hfirst.syncRate
      pending := hfirst.pending
      store := ⟨hfirst.store, (List.append_nil _).symm⟩
      admits := fun _ _ => trivial }
  rw [journal, after_append]
  exact (after_lockstep Store.Journaled.lockstep_behind hbehind second).store.2

end Cache
end PackageMetadata
