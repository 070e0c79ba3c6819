import PackageMetadata.Proofs.Overlay
import PackageMetadata.Store.Plain

/-!
# Stores in memory: one map in every run

A store in memory can be used without a cache.  Its records are then changed step by step, and
in between it may be set up anew.  As long as it is not told to commit by itself while changes
are staged, staged and committed records work as one map at any time: every operation does to
that map what its name says, and the three ways to look a coordinate up agree.

**Results**

* `contains_eq_search`, `contains_eq_isOk_fetch`: the ways to look a coordinate up agree.
* `one_map_of_direct`: a store that has nothing staged, if it commits by itself, works as a map.
* `direct_step`, `direct_after`: an orderly run leaves such a store behind.
* `one_map_after`: what every operation does after any orderly run.
-/

namespace PackageMetadata

universe u

/-- Looks for a coordinate among the keys of a store. -/
def Store.search
    {σ : Type u}
    [Store σ]
    (coordinate : Coordinate)
    (store : σ) :
    Outcome σ Bool :=
  (Store.keys store).andThen fun found store => .done (found.contains coordinate) store

/-- Stores that do not say how a coordinate is found look for it among their keys. -/
example (coordinate : Coordinate) (store : PlainStore) :
    Store.contains coordinate store = Store.search coordinate store :=
  rfl

namespace MemoryStore

section Runs

/-- What can be done to a store in memory. -/
inductive Step where
  | write (coordinate : Coordinate) (record : Record)
  | delete (coordinate : Coordinate)
  | commit
  | setUp (setting : Setting)
deriving DecidableEq

/-- Takes one step. -/
def step
    (store : MemoryStore) :
    Step → Outcome MemoryStore Unit
  | .write coordinate record => Store.write coordinate record store
  | .delete coordinate => Store.delete coordinate store
  | .commit => Store.commit store
  | .setUp setting => .done () (store.setUp setting)

/-- The store after some steps, failed ones among them. -/
def after
    (store : MemoryStore)
    (steps : List Step) :
    MemoryStore :=
  steps.foldl (fun store step => (store.step step).state) store

/-- Nothing is staged whenever the store is told to commit by itself. -/
def Orderly
    (store : MemoryStore) :
    List Step → Prop
  | [] => True
  | step :: rest =>
      (step = .setUp .autocommitting → store.staged = ∅) ∧ (store.step step).state.Orderly rest

end Runs

section Operations

/-- The records that staged and committed changes make together: under every coordinate stands
what is staged for it, a deletion being no record, or else what is committed. -/
def Shows
    (store : MemoryStore)
    (records : OrderedMap Coordinate Record) :
    Prop :=
  ∀ coordinate, records.get? coordinate =
    match store.staged.get? coordinate with
    | some change => change
    | none => store.committed.get? coordinate

/-- A store that works as a map with the given records. -/
structure OneMap
    (store : MemoryStore)
    (records : OrderedMap Coordinate Record) :
    Prop where
  shows : store.Shows records
  write : ∀ coordinate record,
    if store.traits.readOnly then
      Store.write coordinate record store = .failed .readOnly store
    else
      ∃ after, Store.write coordinate record store = .done () after ∧
        after.Shows (records.insert coordinate record)
  /-- What is not there is not found, even if no change would be taken. -/
  delete : ∀ coordinate,
    if records.contains coordinate = false then
      Store.delete coordinate store = .failed (.noEntry coordinate) store
    else if store.traits.readOnly then
      Store.delete coordinate store = .failed .readOnly store
    else
      ∃ after, Store.delete coordinate store = .done () after ∧
        after.Shows (records.erase coordinate)
  commit : ∃ after, Store.commit store = .done () after ∧
    after.Shows records ∧ after.committed = records ∧ after.staged = ∅
  setUp : ∀ setting, (store.setUp setting).Shows records
  fetch : ∀ coordinate, Store.fetch coordinate store =
    match records.get? coordinate with
    | some record => .done record store
    | none => .failed (.noEntry coordinate) store
  keys : ∃ keys, Store.keys store = .done keys store ∧
    keys.Pairwise (fun a b => compare a b = .lt) ∧
    ∀ coordinate, coordinate ∈ keys ↔ records.contains coordinate = true
  contains_listed : ∀ coordinate,
    Store.contains coordinate store = Store.search coordinate store
  contains_fetched : ∀ coordinate,
    Store.contains coordinate store =
      .done (Store.fetch coordinate store).result.isOk store

theorem shows_overlay (store : MemoryStore) :
    store.Shows store.overlay :=
  store.get?_overlay

variable {store : MemoryStore} (coordinate : Coordinate)

/-- A change is refused, or it is made in what the store shows. -/
theorem accept_cases
    (hdirect : store.Direct)
    (change : Option Record) :
    if store.traits.readOnly then
      store.accept coordinate change = .failed .readOnly store
    else
      ∃ after, store.accept coordinate change = .done () after ∧
        after.Shows (applyChange store.overlay coordinate change) := by
  split
  · rename_i hreadOnly
    rw [accept, if_pos hreadOnly]
  · rename_i hnot
    have hwritable : store.traits.readOnly = false := Bool.eq_false_iff.mpr hnot
    refine ⟨(store.accept coordinate change).state, ?_, ?_⟩
    · exact congrArg (fun result => Outcome.mk result (store.accept coordinate change).state)
        (result_accept coordinate change hwritable)
    · rw [← overlay_accept coordinate change hwritable hdirect]
      exact shows_overlay _

/-- A coordinate is found exactly if it is listed. -/
theorem contains_eq_search (store : MemoryStore) :
    Store.contains coordinate store = Store.search coordinate store := by
  have hkeys : store.overlay.keys.contains coordinate = store.overlay.contains coordinate := by
    rw [Bool.eq_iff_iff, List.contains_iff_mem, OrderedMap.mem_keys_iff]
    rfl
  rw [contains_eq, ← hkeys, Store.search, keys_eq]
  rfl

/-- A coordinate is found exactly if it has a record. -/
theorem contains_eq_isOk_fetch (store : MemoryStore) :
    Store.contains coordinate store =
      .done (Store.fetch coordinate store).result.isOk store := by
  rw [contains_eq, fetch_eq, OrderedMap.contains_eq_isSome]
  cases store.overlay.get? coordinate <;> rfl

/-- A store works as one map unless it commits by itself while changes are staged. -/
theorem one_map_of_direct (hdirect : store.Direct) :
    store.OneMap store.overlay where
  shows := shows_overlay store
  write coordinate record := accept_cases coordinate hdirect (some record)
  delete coordinate := by
    rw [delete_eq]
    cases hfound : store.overlay.contains coordinate with
    | false =>
        rfl
    | true =>
        exact accept_cases coordinate hdirect none
  commit := by
    refine ⟨store.commit, rfl, ?_, committed_commit store, rfl⟩
    rw [← overlay_commit]
    exact shows_overlay store.commit
  setUp setting := by
    cases setting <;> exact shows_overlay store
  fetch coordinate := fetch_eq store coordinate
  keys := by
    refine ⟨store.overlay.keys, keys_eq store, store.overlay.keys_ascend, fun coordinate => ?_⟩
    rw [OrderedMap.mem_keys_iff]
    rfl
  contains_listed coordinate := contains_eq_search coordinate store
  contains_fetched coordinate := contains_eq_isOk_fetch coordinate store

end Operations

section Orderly

theorem direct_step
    {store : MemoryStore}
    {step : Step}
    (hdirect : store.Direct)
    (hstaged : step = .setUp .autocommitting → store.staged = ∅) :
    (store.step step).state.Direct := by
  cases step with
  | write coordinate record =>
      exact direct_accept coordinate (some record) hdirect
  | delete coordinate =>
      rw [MemoryStore.step, delete_eq]
      split
      · exact direct_accept coordinate none hdirect
      · exact hdirect
  | commit =>
      exact direct_commit
  | setUp setting =>
      cases setting with
      | autocommitting =>
          exact fun _ => hstaged rfl
      | readOnly =>
          exact hdirect
      | cleansing =>
          exact hdirect
      | rawEclasses =>
          exact hdirect

theorem direct_after
    {store : MemoryStore}
    {steps : List Step}
    (hdirect : store.Direct)
    (horderly : store.Orderly steps) :
    (store.after steps).Direct := by
  induction steps generalizing store with
  | nil =>
      exact hdirect
  | cons step rest ih =>
      obtain ⟨hstaged, hrest⟩ := horderly
      exact ih (direct_step hdirect hstaged) hrest

/-- After every orderly run that begins with an empty store there is one map, which is all that
is seen of the store and which every operation works on. -/
theorem one_map_after
    (steps : List Step)
    (horderly : empty.Orderly steps) :
    (empty.after steps).OneMap (empty.after steps).overlay :=
  one_map_of_direct (direct_after (fun _ => rfl) horderly)

/-- A record that is committed, taken out, stored again and taken out by a store which commits
by itself from there on. -/
theorem one_map_after_recommitted :
    let coordinate : Coordinate := ⟨"dev-libs", "a", "1", rfl, rfl, rfl⟩
    let steps : List Step :=
      [.write coordinate ∅, .commit, .delete coordinate, .write coordinate ∅, .commit,
        .setUp .autocommitting, .delete coordinate, .setUp .readOnly]
    empty.Orderly steps ∧ (empty.after steps).OneMap ∅ :=
  have horderly := ⟨nofun, nofun, nofun, nofun, nofun, fun _ => rfl, nofun, nofun, trivial⟩
  ⟨horderly, one_map_after _ horderly⟩

end Orderly

end MemoryStore
end PackageMetadata
