import PackageMetadata.Proofs.Accepted
import PackageMetadata.Proofs.Backlog
import PackageMetadata.Proofs.Overlay

/-!
# What is durable

A store in memory makes changes durable when it commits.  At any time its committed records
are those that the first changes have made, namely all changes that it took before its last
commit: no change is made durable twice, none is lost, and none overtakes an earlier one.  A
cache over such a store keeps the number of the other changes within its sync rate.

**Results**

* `faithful_keeps`: every operation of a store in memory keeps its records faithful to its
  journal.
* `take_durable`: the durable changes are the first accepted ones.
* `waiting_get`, `waiting_set`, `waiting_delete`, `waiting_commit`: how many others there are.
* `committed_eq_replay`: what is durable after a session, and how far it lags behind.
-/

namespace PackageMetadata

universe u v

open Store (Journal Change)
open Store.Journaled (changes_note changes_note_of_quiet durable_note)

namespace MemoryStore

/-- What a change makes of records: a record stands under its coordinate, in place of any other
one, and what is taken out does not. -/
def replayChange
    (records : OrderedMap Coordinate Record)
    (change : Change) :
    OrderedMap Coordinate Record :=
  match change.2 with
  | some record => records.insert change.1 record
  | none => records.erase change.1

/-- The records that changes make of other records, one after the other. -/
def replayOver
    (records : OrderedMap Coordinate Record)
    (changes : List Change) :
    OrderedMap Coordinate Record :=
  changes.foldl replayChange records

/-- The records that changes make of none. -/
def replay (changes : List Change) : OrderedMap Coordinate Record :=
  replayOver ∅ changes

/-- A store makes one change as a replay does. -/
theorem applyChange_eq
    (records : OrderedMap Coordinate Record)
    (coordinate : Coordinate)
    (change : Option Record) :
    applyChange records coordinate change = replayChange records (coordinate, change) := by
  cases change <;> rfl

theorem replayOver_concat
    (records : OrderedMap Coordinate Record)
    (changes : List Change)
    (change : Change) :
    replayOver records (changes ++ [change]) = replayChange (replayOver records changes) change :=
  List.foldl_concat ..

end MemoryStore

namespace Store.Journaled

open MemoryStore (replay)

/-- The records of a store in memory are what its journal says: reading sees all changes, and
committed are those before the last commit.  A store that commits by itself has no others. -/
structure Faithful (s : Journaled MemoryStore) : Prop where
  direct : s.store.Direct
  overlay : s.store.overlay = replay s.journal.changes
  committed : s.store.traits.autocommits = false →
    s.store.committed = replay s.journal.durable.changes

variable {s : Journaled MemoryStore}

/-- A request that leaves the store as it is, and neither commits nor makes a change, keeps the
records faithful. -/
theorem faithful_note_of_quiet
    {α : Type v}
    {request : Request}
    {operation : MemoryStore → Outcome MemoryStore α}
    (h : s.Faithful)
    (hstate : (operation s.store).state = s.store)
    (hquiet : (operation s.store).result.isOk = false ∨
      request.change? = none ∧ request ≠ .commit) :
    (s.note request operation).state.Faithful := by
  have hstore : (s.note request operation).state.store = s.store := hstate
  have hchanges : (s.note request operation).state.journal.changes = s.journal.changes := by
    rcases hquiet with hfailed | ⟨hnone, -⟩
    · simp [changes_note, hfailed]
    · exact changes_note_of_quiet operation s hnone
  have hdurable :
      (s.note request operation).state.journal.durable.changes = s.journal.durable.changes := by
    rcases hquiet with hfailed | ⟨-, hcommit⟩
    · simp [durable_note, hfailed]
    · simp [durable_note, hcommit]
  constructor
  · rw [hstore]
    exact h.direct
  · rw [hstore, hchanges]
    exact h.overlay
  · rw [hstore, hdurable]
    exact h.committed

/-- A change that is put to the store keeps the records faithful, whether or not the store takes
it. -/
theorem faithful_note_of_accept
    {request : Request}
    {operation : MemoryStore → Outcome MemoryStore Unit}
    {coordinate : Coordinate}
    {change : Option Record}
    (h : s.Faithful)
    (hchange : request.change? = some (coordinate, change))
    (haccept : operation s.store = s.store.accept coordinate change) :
    (s.note request operation).state.Faithful := by
  cases hreadOnly : s.store.traits.readOnly with
  | true =>
      have hrefused : operation s.store = .failed .readOnly s.store := by
        rw [haccept, MemoryStore.accept, if_pos hreadOnly]
      exact faithful_note_of_quiet h (by rw [hrefused]; rfl) (.inl (by rw [hrefused]; rfl))
  | false =>
      have hresult := MemoryStore.result_accept coordinate change hreadOnly
      have hcommit : request ≠ .commit := by
        rintro rfl
        cases hchange
      have hchanges := changes_note request operation s
      have hdurable := durable_note request operation s
      rw [haccept, hresult, hchange] at hchanges
      rw [if_neg fun hboth => hcommit hboth.2] at hdurable
      have hstore : (s.note request operation).state.store =
          (s.store.accept coordinate change).state := congrArg Outcome.state haccept
      constructor
      · rw [hstore]
        exact MemoryStore.direct_accept coordinate change h.direct
      · rw [hstore, hchanges, MemoryStore.overlay_accept coordinate change hreadOnly h.direct,
          h.overlay, MemoryStore.applyChange_eq]
        exact (MemoryStore.replayOver_concat ∅ _ (coordinate, change)).symm
      · intro hbatching
        rw [hstore, MemoryStore.traits_accept] at hbatching
        rw [hstore, hdurable, MemoryStore.committed_accept coordinate change hreadOnly, hbatching]
        exact h.committed hbatching

theorem faithful_commit (h : s.Faithful) :
    (Store.commit s).state.Faithful := by
  have hchanges : (Store.commit s).state.journal.changes = s.journal.changes :=
    changes_note_of_quiet Store.commit s rfl
  have hdurable : (Store.commit s).state.journal.durable.changes = s.journal.changes :=
    (durable_note .commit Store.commit s).trans (if_pos ⟨rfl, rfl⟩)
  have hstore : (Store.commit s).state.store = s.store.commit := rfl
  constructor
  · exact MemoryStore.direct_commit
  · rw [hstore, hchanges, MemoryStore.overlay_commit]
    exact h.overlay
  · intro _
    rw [hstore, hdurable, MemoryStore.committed_commit]
    exact h.overlay

theorem faithful_keeps :
    Store.Keeps (fun _ => True) Faithful where
  fetch coordinate s h :=
    faithful_note_of_quiet h (MemoryStore.state_fetch s.store coordinate) (.inr ⟨rfl, nofun⟩)
  write coordinate record s _ h :=
    faithful_note_of_accept h rfl rfl
  delete coordinate s h := by
    cases hfound : s.store.overlay.contains coordinate with
    | true =>
        have haccept : Store.delete coordinate s.store = s.store.accept coordinate none := by
          rw [MemoryStore.delete_eq, if_pos hfound]
        exact faithful_note_of_accept h rfl haccept
    | false =>
        have hmissing :
            Store.delete coordinate s.store = .failed (.noEntry coordinate) s.store := by
          rw [MemoryStore.delete_eq, hfound]
          rfl
        exact faithful_note_of_quiet h (by rw [hmissing]; rfl) (.inl (by rw [hmissing]; rfl))
  keys s h :=
    faithful_note_of_quiet h rfl (.inr ⟨rfl, nofun⟩)
  contains coordinate s h :=
    faithful_note_of_quiet h rfl (.inr ⟨rfl, nofun⟩)
  commit s h :=
    faithful_commit h

end Store.Journaled

namespace Cache

section Sessions

variable {σ : Type u} [Store σ]

/-- The number of changes that a session has made durable: those that the store took before its
last commit. -/
def durable
    (cache : Cache σ)
    (session : List Request) :
    Nat :=
  (cache.journal session).durable.changes.length

/-- The number of accepted changes of a session that are not durable yet. -/
def waiting
    (cache : Cache σ)
    (session : List Request) :
    Nat :=
  (cache.accepted session).length - cache.durable session

variable (hcommits : ∀ store : σ, (Store.commit store).result = .ok ())
variable (cache : Cache σ) (session : List Request)
include hcommits

theorem take_durable :
    (cache.accepted session).take (cache.durable session) =
      (cache.journal session).durable.changes := by
  rw [← changes_journal hcommits, Journal.changes_eq_append]
  exact List.take_left

theorem waiting_eq_lag :
    cache.waiting session = (cache.journal session).lag := by
  rw [waiting, ← changes_journal hcommits, Journal.changes_eq_append, List.length_append, durable,
    Nat.add_sub_cancel_left]
  rfl

end Sessions

section Bound

variable {σ : Type u} [Store σ]
variable (hcommits : ∀ store : σ, (Store.commit store).result = .ok ())
variable {cache : Cache σ} (hbatching : cache.traits.autocommits = false)
variable (session : List Request)

include hcommits hbatching

/-- Getting a record, found or not, leaves no more changes waiting than the sync rate allows. -/
theorem waiting_get (coordinate : Coordinate) :
    cache.waiting (session ++ [.get coordinate]) ≤
      ((cache.after session).serve (.get coordinate)).state.syncRate := by
  have hsettle := result_settle (fun store => hcommits store.store) (cache.journaled.after session)
  rw [waiting_eq_lag hcommits]
  exact lag_le_of_prompt session
    (prompt_get (counted_journal session hbatching) coordinate hsettle)

theorem waiting_set
    {coordinate : Coordinate}
    {record : Record}
    (hok : ((cache.after session).serve (.set coordinate record)).result.isOk) :
    cache.waiting (session ++ [.set coordinate record]) ≤
      ((cache.after session).serve (.set coordinate record)).state.syncRate := by
  rw [waiting_eq_lag hcommits]
  exact lag_set session hbatching hok

theorem waiting_delete
    {coordinate : Coordinate}
    (hok : ((cache.after session).serve (.delete coordinate)).result.isOk) :
    cache.waiting (session ++ [.delete coordinate]) ≤
      ((cache.after session).serve (.delete coordinate)).state.syncRate := by
  rw [waiting_eq_lag hcommits]
  exact lag_delete session hbatching hok

theorem waiting_commit :
    cache.waiting (session ++ [.commit]) = 0 := by
  have hcounted := counted_journal session hbatching
  have hresult := result_commit (fun store => hcommits store.store) (cache.journaled.after session)
  rw [waiting_eq_lag hcommits, journal_concat]
  exact lag_commit hcounted.batching hresult

theorem waiting_sync_zero :
    cache.waiting (session ++ [.sync 0]) = 0 := by
  have hcounted := counted_journal session hbatching
  have hresult := result_commit (fun store => hcommits store.store)
    { cache.journaled.after session with syncRate := 0 }
  rw [waiting_eq_lag hcommits, journal_concat]
  exact lag_commit hcounted.batching hresult

end Bound

section Memory

/-- A cache over a fresh store in memory. -/
def inMemory
    (settings : List MemoryStore.Setting)
    (config : Config) :
    Cache MemoryStore :=
  ofStore (MemoryStore.ofSettings settings) config

open MemoryStore (replay)

variable (settings : List MemoryStore.Setting) (config : Config) (session : List Request)

/-- The store of a fresh cache has the traits that it was given. -/
theorem traits_inMemory :
    (inMemory settings config).traits =
      { autocommits := settings.contains .autocommitting
        cleanses := settings.contains .cleansing
        encodesEclasses := !settings.contains .rawEclasses
        readOnly := settings.contains .readOnly } :=
  congrArg MemoryStore.traits (MemoryStore.ofSettings_eq settings)

theorem faithful_after :
    ((inMemory settings config).journaled.after session).store.Faithful := by
  refine after_keeps Store.Journaled.faithful_keeps (fun _ _ => trivial) ?_ session
  rw [inMemory, MemoryStore.ofSettings_eq]
  exact ⟨fun _ => rfl, rfl, fun _ => rfl⟩

theorem autocommits_after :
    ((inMemory settings config).after session).store.traits.autocommits =
      settings.contains .autocommitting := by
  have hstart : (inMemory settings config).store.traits = (inMemory settings config).traits := rfl
  rw [after_keeps (MemoryStore.traits_keeps _) (fun _ _ => trivial) hstart session,
    traits_inMemory]

/-- A store that commits by itself has all accepted changes among its committed records, and
nothing staged. -/
theorem committed_of_autocommitting
    (hauto : settings.contains .autocommitting = true) :
    ((inMemory settings config).after session).store.committed =
        replay ((inMemory settings config).accepted session) ∧
      ((inMemory settings config).after session).store.staged = ∅ := by
  have hstore := (after_journaled (inMemory settings config) session).store
  obtain ⟨hdirect, hoverlay, -⟩ := faithful_after settings config session
  rw [hstore] at hdirect hoverlay
  have hstaged := hdirect ((autocommits_after settings config session).trans hauto)
  refine ⟨?_, hstaged⟩
  rw [← MemoryStore.overlay_eq_committed hstaged, ← changes_journal fun _ => rfl]
  exact hoverlay

/-- A store that collects changes has committed the first accepted ones. -/
theorem committed_of_batching
    (hbatching : settings.contains .autocommitting = false) :
    ((inMemory settings config).after session).store.committed =
      replay (((inMemory settings config).accepted session).take
        ((inMemory settings config).durable session)) := by
  have hstore := (after_journaled (inMemory settings config) session).store
  obtain ⟨-, -, hcommitted⟩ := faithful_after settings config session
  rw [hstore] at hcommitted
  rw [take_durable fun _ => rfl]
  exact hcommitted ((autocommits_after settings config session).trans hbatching)

/-- The durable records of a fresh store in memory under a cache, and how far they are behind.

If the store commits by itself then all accepted changes are durable.  If it collects changes
then its committed records are those that the changes have made which it took before its last
commit, and these are the first accepted ones.  The others are no more than the sync rate allows
after a record was got, stored or taken out, and there are none after a commit. -/
theorem committed_eq_replay
    (settings : List MemoryStore.Setting)
    (config : Config) :
    if settings.contains .autocommitting then
      ∀ session,
        ((inMemory settings config).after session).store.committed =
          replay ((inMemory settings config).accepted session) ∧
        ((inMemory settings config).after session).store.staged = ∅
    else
      ∀ session,
        ((inMemory settings config).after session).store.committed =
          replay (((inMemory settings config).accepted session).take
            ((inMemory settings config).durable session)) ∧
        ∀ request,
          let served := ((inMemory settings config).after session).serve request
          let waiting := (inMemory settings config).waiting (session ++ [request])
          ((∃ coordinate record, request = .set coordinate record) → served.result.isOk →
            waiting ≤ served.state.syncRate) ∧
          ((∃ coordinate, request = .delete coordinate) → served.result.isOk →
            waiting ≤ served.state.syncRate) ∧
          ((∃ coordinate, request = .get coordinate) → waiting ≤ served.state.syncRate) ∧
          (request = .sync 0 ∨ request = .commit → waiting = 0) := by
  have hcommits (store : MemoryStore) : (Store.commit store).result = .ok () := rfl
  have htraits : (inMemory settings config).traits.autocommits =
      settings.contains .autocommitting := autocommits_after settings config []
  split
  · rename_i hauto
    exact fun session => committed_of_autocommitting settings config session hauto
  · rename_i hnot
    have hbatching : settings.contains .autocommitting = false := Bool.eq_false_iff.mpr hnot
    rw [hbatching] at htraits
    refine fun session =>
      ⟨committed_of_batching settings config session hbatching, fun request => ⟨?_, ?_, ?_, ?_⟩⟩
    · rintro ⟨coordinate, record, rfl⟩ hok
      exact waiting_set hcommits htraits session hok
    · rintro ⟨coordinate, rfl⟩ hok
      exact waiting_delete hcommits htraits session hok
    · rintro ⟨coordinate, rfl⟩
      exact waiting_get hcommits htraits session coordinate
    · rintro (rfl | rfl)
      · exact waiting_sync_zero hcommits htraits session
      · exact waiting_commit hcommits htraits session

/-- With a sync rate of one every second change is followed by a commit.  A deletion that fails
counts as a change here. -/
example :
    let coordinate : Coordinate := ⟨"dev-libs", "a", "1", rfl, rfl, rfl⟩
    let cache := inMemory [] { syncRate := 1 }
    let session : List Request :=
      [.set coordinate ∅, .delete coordinate, .delete coordinate, .set coordinate ∅]
    (cache.accepted session).length = 3 ∧ cache.durable session = 3 ∧
      cache.durable (session.take 3) = 2 ∧ cache.durable (session.take 1) = 0 := by
  decide

end Memory
end Cache
end PackageMetadata
