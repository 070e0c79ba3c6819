import PackageMetadata.Proofs.Lockstep
import PackageMetadata.Proofs.OrderedMap
import PackageMetadata.Store.Memory

/-!
# Stores in memory: one map seen through two

A store in memory keeps committed records and, over them, staged changes.  Whoever reads it
sees a single map, its `overlay`.  This module says what the operations of the store do to
that map: an accepted change is made in it, a commit leaves it alone and makes it durable.

**Results**

* `get?_overlay`, `listed_eq_keys`: the overlay holds what reading sees, and its keys are listed.
* `committed_commit`, `overlay_commit`: a commit makes the overlay durable.
* `overlay_accept`: an accepted change is made in the overlay.
* `fetch_eq`, `contains_eq`, `keys_eq`, `delete_eq`: the operations in terms of the overlay.
* `traits_keeps`: the operations leave the traits of a store alone.
-/

namespace PackageMetadata
namespace MemoryStore

section Reading

theorem get?_applyChange
    (records : OrderedMap Coordinate Record)
    (coordinate other : Coordinate)
    (change : Option Record) :
    (applyChange records coordinate change).get? other =
      if other = coordinate then change else records.get? other := by
  cases change with
  | none =>
      exact OrderedMap.get?_erase records coordinate other
  | some record =>
      exact OrderedMap.get?_insert records coordinate other record

theorem get?_overlay
    (store : MemoryStore)
    (coordinate : Coordinate) :
    store.overlay.get? coordinate = store.visible? coordinate := by
  have h : store.overlay =
      (store.committed.filter fun coordinate _ => !store.staged.contains coordinate).override
        (store.staged.filterMap fun _ change => change) :=
    rfl
  rw [h, OrderedMap.get?_override, OrderedMap.get?_filterMap, OrderedMap.get?_filter, visible?]
  cases hstaged : store.staged.get? coordinate with
  | none =>
      cases store.committed.get? coordinate <;> simp [hstaged, Option.filter]
  | some change =>
      cases change <;> cases store.committed.get? coordinate <;>
        simp [hstaged, Option.filter]

theorem overlay_eq_committed
    {store : MemoryStore}
    (hstaged : store.staged = ∅) :
    store.overlay = store.committed := by
  refine OrderedMap.ext_get? fun coordinate => ?_
  rw [get?_overlay, visible?, hstaged]
  rfl

/-- What is listed are the keys of the overlay: committed keys and staged keys are joined without
one of them being there twice. -/
theorem listed_eq_keys (store : MemoryStore) :
    store.listed = store.overlay.keys := by
  refine OrderedMap.mergeSort_eq_keys ?_ fun coordinate => ?_
  · refine List.nodup_append.mpr ⟨store.committed.nodup_keys.filter _, ?_, ?_⟩
    · exact List.Nodup.sublist (List.filter_sublist.map Prod.fst) store.staged.nodup_keys
    · intro coordinate huntouched other hstored heq
      obtain ⟨⟨_, change⟩, hentry, rfl⟩ := List.mem_map.mp hstored
      have hstaged := OrderedMap.mem_toList_iff.mp (List.mem_filter.mp hentry).1
      have hnot := (List.mem_filter.mp huntouched).2
      rw [heq, OrderedMap.contains_eq_isSome, hstaged] at hnot
      cases hnot
  · have hstored : coordinate ∈ (store.staged.toList.filter fun entry => entry.2.isSome).map
        Prod.fst ↔ ∃ change, store.staged.get? coordinate = some change ∧ change.isSome = true := by
      simp [OrderedMap.mem_toList_iff]
    rw [List.mem_append, List.mem_filter, OrderedMap.mem_keys_iff, hstored, get?_overlay, visible?,
      OrderedMap.contains_eq_isSome]
    cases store.staged.get? coordinate <;> simp

end Reading

section Committing

theorem committed_commit (store : MemoryStore) :
    store.commit.committed = store.overlay := by
  refine OrderedMap.ext_get? fun coordinate => ?_
  rw [get?_overlay, visible?, commit,
    OrderedMap.get?_foldl_toList (g := id) fun records entry other =>
      get?_applyChange records entry.1 other entry.2]
  cases store.staged.get? coordinate <;> rfl

theorem overlay_commit (store : MemoryStore) :
    store.commit.overlay = store.overlay := by
  have hstaged : store.commit.staged = ∅ := rfl
  rw [overlay_eq_committed hstaged, committed_commit]

end Committing

section Changing

/-- A store that commits by itself has nothing staged. -/
def Direct (store : MemoryStore) : Prop :=
  store.traits.autocommits = true → store.staged = ∅

variable (store : MemoryStore) (coordinate : Coordinate) (change : Option Record)

@[simp] theorem traits_accept :
    (store.accept coordinate change).state.traits = store.traits := by
  unfold accept
  split
  · rfl
  · split <;> rfl

@[simp] theorem traits_commit :
    store.commit.traits = store.traits :=
  rfl

variable {store}

theorem result_accept (hwritable : store.traits.readOnly = false) :
    (store.accept coordinate change).result = .ok () := by
  cases h : store.traits.autocommits <;> simp [accept, hwritable, h]

theorem direct_accept (hdirect : store.Direct) :
    (store.accept coordinate change).state.Direct := by
  intro hauto
  rw [traits_accept] at hauto
  have hstaged := hdirect hauto
  cases h : store.traits.readOnly <;> simp [accept, hauto, h, hstaged]

theorem direct_commit : store.commit.Direct :=
  fun _ => rfl

/-- Only a store that commits by itself changes its committed records on the spot. -/
theorem committed_accept (hwritable : store.traits.readOnly = false) :
    (store.accept coordinate change).state.committed =
      if store.traits.autocommits then
        applyChange store.committed coordinate change
      else
        store.committed := by
  cases h : store.traits.autocommits <;> simp [accept, hwritable, h]

/-- An accepted change is made in what reading sees, wherever the store has put it. -/
theorem overlay_accept
    (hwritable : store.traits.readOnly = false)
    (hdirect : store.Direct) :
    (store.accept coordinate change).state.overlay =
      applyChange store.overlay coordinate change := by
  refine OrderedMap.ext_get? fun other => ?_
  rw [get?_applyChange, get?_overlay, get?_overlay]
  cases hauto : store.traits.autocommits with
  | true =>
      have hstaged := hdirect hauto
      simp [accept, hwritable, hauto, visible?, hstaged, get?_applyChange]
  | false =>
      by_cases h : other = coordinate <;>
        simp [accept, hwritable, hauto, visible?, OrderedMap.get?_insert, h]

end Changing

section Fresh

/-- An empty store that is set up in the given ways. -/
def ofSettings (settings : List Setting) : MemoryStore :=
  settings.foldl setUp empty

/-- Setting a store up adds to its traits and changes nothing else. -/
theorem foldl_setUp
    (settings : List Setting)
    (store : MemoryStore) :
    settings.foldl setUp store =
      { store with
        traits :=
          { store.traits with
            autocommits := store.traits.autocommits || settings.contains .autocommitting
            cleanses := store.traits.cleanses || settings.contains .cleansing
            encodesEclasses :=
              store.traits.encodesEclasses && !settings.contains .rawEclasses
            readOnly := store.traits.readOnly || settings.contains .readOnly } } := by
  induction settings generalizing store with
  | nil =>
      simp
  | cons setting rest ih =>
      rw [List.foldl_cons, ih]
      cases setting <;> simp [setUp, autocommitting, readOnly, cleansing, rawEclasses]

/-- A fresh store has the traits that it was given, and nothing else is in it. -/
theorem ofSettings_eq (settings : List Setting) :
    ofSettings settings =
      { traits :=
          { autocommits := settings.contains .autocommitting
            cleanses := settings.contains .cleansing
            encodesEclasses := !settings.contains .rawEclasses
            readOnly := settings.contains .readOnly } } := by
  rw [ofSettings, foldl_setUp]
  simp [empty]

end Fresh

section Operations

variable (store : MemoryStore) (coordinate : Coordinate)

theorem fetch_eq :
    Store.fetch coordinate store =
      match store.overlay.get? coordinate with
      | some record => .done record store
      | none => .failed (.noEntry coordinate) store := by
  rw [get?_overlay]
  rfl

/-- Reading a record leaves the store as it is, found or not. -/
@[simp] theorem state_fetch :
    (Store.fetch coordinate store).state = store := by
  rw [fetch_eq]
  split <;> rfl

theorem contains_eq :
    Store.contains coordinate store = .done (store.overlay.contains coordinate) store := by
  rw [OrderedMap.contains_eq_isSome, get?_overlay]
  rfl

theorem keys_eq :
    Store.keys store = .done store.overlay.keys store := by
  rw [← listed_eq_keys]
  rfl

/-- Only a record of the overlay can be taken out. -/
theorem delete_eq :
    Store.delete coordinate store =
      if store.overlay.contains coordinate then
        store.accept coordinate none
      else
        .failed (.noEntry coordinate) store := by
  rw [OrderedMap.contains_eq_isSome, get?_overlay]
  rfl

/-- No operation changes the traits of a store. -/
theorem traits_keeps (traits : Capabilities) :
    Store.Keeps (fun _ => True) fun store : MemoryStore => store.traits = traits where
  fetch coordinate store h := by
    rw [state_fetch]
    exact h
  write coordinate record store _ h :=
    (traits_accept store coordinate (some record)).trans h
  delete coordinate store h := by
    rw [delete_eq]
    split
    · exact (traits_accept store coordinate none).trans h
    · exact h
  keys _ h := h
  contains _ _ h := h
  commit _ h := h

end Operations

end MemoryStore
end PackageMetadata
