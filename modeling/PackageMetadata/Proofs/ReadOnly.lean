import PackageMetadata.Proofs.Backlog
import PackageMetadata.Proofs.Overlay

/-!
# Caches that are read only

A cache is read only if its configuration says so, or its store when the cache is built.  Such a
cache refuses every change before it looks at it.  So it never counts one, there is no backlog to
be committed, and nothing it reads asks the store for a commit.

Whoever wants a commit can still ask for one.  Over a store in memory this makes staged changes
durable, but it does not change what is read.  So a reader of a read-only cache gets the same
answers all the time.

**Definitions**

* `Request.observes`: a request asks for what is stored.
* `Sealed`: a read-only cache that has counted no change.
* `Presents`: a sealed cache over a store in memory in which certain records are read.
* `Unchanged`: two states are as they were.
* `Uncommitted`: a journal goes on without a commit.

**Results**

* `sealed_serve`, `serve_of_sealed`: a cache stays sealed, and refuses all changes.
* `uncommitted_serve`: nothing that is read asks for a commit.
* `presents_serve`: the records that are read stay the same.
* `observe_related`: answers depend on these records alone.
* `unaltered_of_readOnly`: all sessions.
-/

namespace PackageMetadata

universe u v

open Outcome (Related related_andThen related_map)

namespace Store.Journal

/-- A journal that goes on behind a first part without a commit. -/
def Uncommitted (base journal : Journal) : Prop :=
  ∃ calls, journal = base ++ calls ∧ ∀ call ∈ calls, call.request ≠ .commit

variable {base journal : Journal}

theorem uncommitted_self : base.Uncommitted base :=
  ⟨[], (List.append_nil base).symm, nofun⟩

theorem uncommitted_concat
    {attempt : Attempt}
    (h : base.Uncommitted journal)
    (hother : attempt.request ≠ .commit) :
    base.Uncommitted (journal ++ [attempt]) := by
  obtain ⟨calls, rfl, hcalls⟩ := h
  refine ⟨calls ++ [attempt], List.append_assoc .., fun call hcall => ?_⟩
  rcases List.mem_append.mp hcall with hearlier | hlast
  · exact hcalls call hearlier
  · rw [List.mem_singleton.mp hlast]
    exact hother

end Store.Journal

namespace Cache

open Store (Journal)
open Store.Journal (uncommitted_self uncommitted_concat)

variable {σ : Type u} {α : Type v} [Store σ]

section Definitions

/-- Whether a request asks for what is stored. -/
def Request.observes : Request → Bool
  | .get _ => true
  | .contains _ => true
  | .keys => true
  | .items => true
  | _ => false

omit [Store σ] in
/-- A read-only cache that has counted no change. -/
structure Sealed (cache : Cache σ) : Prop where
  readOnly : cache.readOnly = true
  pending : cache.pending = 0

/-- A sealed cache over a store in memory, with the records that are read there. -/
structure Presents
    (cache : Cache MemoryStore)
    (traits : Capabilities)
    (records : OrderedMap Coordinate Record) :
    Prop extends Sealed cache where
  traits : cache.traits = traits
  overlay : cache.store.overlay = records

omit [Store σ] in
/-- Two states are as they were. -/
abbrev Unchanged (a b s t : σ) : Prop :=
  s = a ∧ t = b

end Definitions

section Sealing

variable {cache : Cache σ}

theorem sealed_ofStore
    {store : σ}
    {config : Config}
    (h : config.readOnly = true ∨ (Store.capabilities store).readOnly = true) :
    (ofStore store config).Sealed :=
  ⟨Bool.or_eq_true_iff.mpr h, rfl⟩

omit [Store σ] in
theorem sealed_onStore
    (h : cache.Sealed)
    (operation : σ → Outcome σ α) :
    (cache.onStore operation).state.Sealed :=
  ⟨h.readOnly, h.pending⟩

theorem sealed_get
    (h : cache.Sealed)
    (coordinate : Coordinate) :
    (cache.get coordinate).state.Sealed := by
  have hfetch := sealed_onStore h (Store.fetch coordinate)
  rw [get, settle_of_no_pending h.pending, Outcome.andThen_done]
  exact Outcome.state_andThen (fun _ _ => hfetch) fun _ _ => hfetch

theorem sealed_commit (h : cache.Sealed) :
    cache.commit.state.Sealed := by
  rw [commit]
  split
  · exact h
  · exact sealed_onStore h Store.commit

theorem sealed_sync
    (h : cache.Sealed)
    (rate : Nat) :
    (cache.sync rate).state.Sealed := by
  have hrate : Sealed { cache with syncRate := rate } := ⟨h.readOnly, h.pending⟩
  rw [sync]
  split
  · exact sealed_commit hrate
  · exact hrate

/-- Every change is refused at once, whatever it is. -/
theorem serve_of_sealed
    (h : cache.Sealed)
    {request : Request}
    (hchanges : request.reads = false) :
    cache.serve request = .failed .readOnly cache := by
  cases request with
  | set coordinate record =>
      rw [serve, set, if_pos h.readOnly]
      rfl
  | delete coordinate =>
      rw [serve, delete, if_pos h.readOnly]
      rfl
  | _ =>
      cases hchanges

/-- No request unseals a cache. -/
theorem sealed_serve
    (h : cache.Sealed)
    (request : Request) :
    (cache.serve request).state.Sealed := by
  cases request with
  | get coordinate =>
      exact sealed_get h coordinate
  | set coordinate record =>
      rw [serve_of_sealed h rfl]
      exact h
  | delete coordinate =>
      rw [serve_of_sealed h rfl]
      exact h
  | contains coordinate =>
      exact sealed_onStore h (Store.contains coordinate)
  | keys =>
      exact sealed_onStore h Store.keys
  | items =>
      exact items_of_get (fun _ coordinate h => sealed_get h coordinate)
        (sealed_onStore h Store.keys)
  | sync rate =>
      exact sealed_sync h rate
  | commit =>
      exact sealed_commit h

theorem sealed_after
    (h : cache.Sealed)
    (session : List Request) :
    (cache.after session).Sealed :=
  after_of_serve (P := Sealed) (fun _ request h => sealed_serve h request) h session

end Sealing

section Commits

variable {base : Journal} {cache : Cache (Store.Journaled σ)}

omit [Store σ] in
theorem uncommitted_note
    {request : Store.Request}
    (operation : σ → Outcome σ α)
    (h : base.Uncommitted cache.store.journal)
    (hother : request ≠ .commit) :
    base.Uncommitted
      (cache.onStore (Store.Journaled.note request operation)).state.store.journal :=
  uncommitted_concat h hother

theorem uncommitted_get
    (hsealed : cache.Sealed)
    (h : base.Uncommitted cache.store.journal)
    (coordinate : Coordinate) :
    base.Uncommitted (cache.get coordinate).state.store.journal := by
  have hfetch : base.Uncommitted (cache.onStore (Store.fetch coordinate)).state.store.journal :=
    uncommitted_note (Store.fetch coordinate) h (by simp)
  rw [get, settle_of_no_pending hsealed.pending, Outcome.andThen_done]
  exact Outcome.state_andThen (P := fun cache : Cache (Store.Journaled σ) =>
    base.Uncommitted cache.store.journal) (fun _ _ => hfetch) fun _ _ => hfetch

/-- There is no backlog that reading would have to commit. -/
theorem uncommitted_serve
    (hsealed : cache.Sealed)
    {request : Request}
    (hobserves : request.observes = true) :
    cache.store.journal.Uncommitted (cache.serve request).state.store.journal := by
  cases request with
  | get coordinate =>
      exact uncommitted_get hsealed uncommitted_self coordinate
  | contains coordinate =>
      exact uncommitted_note (Store.contains coordinate) uncommitted_self (by simp)
  | keys =>
      exact uncommitted_note Store.keys uncommitted_self (by simp)
  | items =>
      -- That the cache is sealed has to be kept along the way, for each record that is read.
      have hkeys : cache.keys.state.Sealed ∧
          cache.store.journal.Uncommitted cache.keys.state.store.journal :=
        ⟨sealed_onStore hsealed Store.keys, uncommitted_note Store.keys uncommitted_self (by simp)⟩
      exact (items_of_get
        (P := fun after => after.Sealed ∧
          cache.store.journal.Uncommitted after.store.journal)
        (fun _ coordinate h => ⟨sealed_get h.1 coordinate, uncommitted_get h.1 h.2 coordinate⟩)
        hkeys).2
  | _ =>
      cases hobserves

end Commits

section Observing

/-- An operation that treats two stores alike and changes neither does so on caches. -/
theorem onStore_unchanged
    {a b : Cache MemoryStore}
    {operation : MemoryStore → Outcome MemoryStore α}
    (h : Related (Unchanged a.store b.store) (operation a.store) (operation b.store)) :
    Related (Unchanged a b) (a.onStore operation) (b.onStore operation) := by
  obtain ⟨hresult, ha, hb⟩ := h
  refine ⟨hresult, ?_, ?_⟩
  · rw [onStore, Outcome.state_mapState, ha]
  · rw [onStore, Outcome.state_mapState, hb]

variable {traits : Capabilities} {records : OrderedMap Coordinate Record}
variable {a b : Cache MemoryStore}
variable (ha : a.Presents traits records) (hb : b.Presents traits records)
include ha hb

theorem fetch_unchanged (coordinate : Coordinate) :
    Related (Unchanged a b)
      (a.onStore (Store.fetch coordinate)) (b.onStore (Store.fetch coordinate)) := by
  refine onStore_unchanged ?_
  rw [MemoryStore.fetch_eq, MemoryStore.fetch_eq, ha.overlay, hb.overlay]
  split
  · exact ⟨rfl, rfl, rfl⟩
  · exact ⟨rfl, rfl, rfl⟩

theorem keys_unchanged :
    Related (Unchanged a b) a.keys b.keys := by
  refine onStore_unchanged ?_
  rw [MemoryStore.keys_eq, MemoryStore.keys_eq, ha.overlay, hb.overlay]
  exact ⟨rfl, rfl, rfl⟩

theorem contains_unchanged (coordinate : Coordinate) :
    Related (Unchanged a b) (a.contains coordinate) (b.contains coordinate) := by
  refine onStore_unchanged ?_
  rw [MemoryStore.contains_eq, MemoryStore.contains_eq, ha.overlay, hb.overlay]
  exact ⟨rfl, rfl, rfl⟩

theorem get_unchanged (coordinate : Coordinate) :
    Related (Unchanged a b) (a.get coordinate) (b.get coordinate) := by
  rw [get, get, settle_of_no_pending ha.pending, settle_of_no_pending hb.pending,
    Outcome.andThen_done, Outcome.andThen_done]
  refine related_andThen (fetch_unchanged ha hb coordinate) fun record hstate => ⟨?_, hstate⟩
  rw [hstate.1, hstate.2, present, present, ha.traits, hb.traits]

theorem getAll_unchanged (coordinates : List Coordinate) :
    Related (Unchanged a b) (a.getAll coordinates) (b.getAll coordinates) := by
  induction coordinates with
  | nil =>
      exact ⟨rfl, rfl, rfl⟩
  | cons coordinate rest ih =>
      refine related_andThen (get_unchanged ha hb coordinate) fun record hstate => ?_
      rw [hstate.1, hstate.2]
      exact related_andThen ih fun _ hrest => ⟨rfl, hrest⟩

/-- Two sealed caches in which the same records are read give the same answers, and answering
changes neither. -/
theorem observe_related
    {request : Request}
    (hobserves : request.observes = true) :
    Related (Unchanged a b) (a.serve request) (b.serve request) := by
  cases request with
  | get coordinate =>
      exact related_map (get_unchanged ha hb coordinate) _
  | contains coordinate =>
      exact related_map (contains_unchanged ha hb coordinate) _
  | keys =>
      exact related_map (keys_unchanged ha hb) _
  | items =>
      refine related_map (related_andThen (keys_unchanged ha hb) fun coordinates hstate => ?_) _
      rw [hstate.1, hstate.2]
      exact getAll_unchanged ha hb coordinates
  | _ =>
      cases hobserves

end Observing

section Presenting

variable {traits : Capabilities} {records : OrderedMap Coordinate Record}
variable {cache : Cache MemoryStore}

theorem presents_commit (h : cache.Presents traits records) :
    cache.commit.state.Presents traits records := by
  rw [commit]
  split
  · exact h
  · exact { h with overlay := (MemoryStore.overlay_commit cache.store).trans h.overlay }

theorem presents_sync
    (h : cache.Presents traits records)
    (rate : Nat) :
    (cache.sync rate).state.Presents traits records := by
  have hrate : Presents { cache with syncRate := rate } traits records :=
    ⟨⟨h.readOnly, h.pending⟩, h.traits, h.overlay⟩
  rw [sync]
  split
  · exact presents_commit hrate
  · exact hrate

/-- No request changes the records that are read, though it may make them durable. -/
theorem presents_serve
    (h : cache.Presents traits records)
    (request : Request) :
    (cache.serve request).state.Presents traits records := by
  cases hobserves : request.observes with
  | true =>
      -- Whoever only looks leaves the whole cache as it is.
      rw [(observe_related h h hobserves).state.1]
      exact h
  | false =>
      cases request with
      | set coordinate record =>
          rw [serve_of_sealed h.toSealed rfl]
          exact h
      | delete coordinate =>
          rw [serve_of_sealed h.toSealed rfl]
          exact h
      | sync rate =>
          exact presents_sync h rate
      | commit =>
          exact presents_commit h
      | _ =>
          cases hobserves

theorem presents_after
    (h : cache.Presents traits records)
    (session : List Request) :
    (cache.after session).Presents traits records :=
  after_of_serve (P := fun cache => cache.Presents traits records)
    (fun _ request h => presents_serve h request) h session

end Presenting

section Sessions

/-- A read-only cache in any session.  Over every store it counts no change, it refuses all
changes without asking the store for anything, and reading asks for no commit.  Over every store
in memory, whatever is committed and staged there, a reader gets the answers of the start. -/
theorem unaltered_of_readOnly :
    (∀ (σ : Type u) [Store σ] (store : σ) (config : Config),
      config.readOnly = true ∨ (Store.capabilities store).readOnly = true →
        let cache := ofStore store config
        ∀ session,
          (cache.after session).pending = 0 ∧
          (∀ request : Request, request.reads = false →
            (cache.after session).serve request = .failed .readOnly (cache.after session) ∧
            cache.journal (session ++ [request]) = cache.journal session) ∧
          ∀ request : Request, request.observes = true →
            (cache.journal session).Uncommitted (cache.journal (session ++ [request]))) ∧
      ∀ (store : MemoryStore) (config : Config),
        config.readOnly = true ∨ store.traits.readOnly = true →
          let cache := ofStore store config
          ∀ session request, request.observes = true →
            ((cache.after session).serve request).result = (cache.serve request).result := by
  constructor
  · intro σ _ store config hreadOnly cache session
    have hsealed : (cache.after session).Sealed := sealed_after (sealed_ofStore hreadOnly) session
    have hstart : cache.journaled.Sealed := ⟨(sealed_ofStore hreadOnly).readOnly, rfl⟩
    have hjournaled : (cache.journaled.after session).Sealed := sealed_after hstart session
    refine ⟨hsealed.pending, fun request hchanges => ⟨serve_of_sealed hsealed hchanges, ?_⟩,
      fun request hobserves => ?_⟩
    · rw [journal_concat, serve_of_sealed hjournaled hchanges]
      rfl
    · rw [journal_concat]
      exact uncommitted_serve hjournaled hobserves
  · intro store config hreadOnly cache session request hobserves
    have hstart : cache.Presents store.traits store.overlay :=
      ⟨sealed_ofStore hreadOnly, rfl, rfl⟩
    exact (observe_related (presents_after hstart session) hstart hobserves).result

/-- The record of a store is taken out, and the deletion is staged when a read-only cache is made.
A commit through the cache makes it durable, but its reader has not seen the record before
either. -/
theorem unaltered_of_readOnly_staged :
    let coordinate : Coordinate := ⟨"dev-libs", "a", "1", rfl, rfl, rfl⟩
    let store : MemoryStore :=
      { committed := OrderedMap.empty.insert coordinate ∅
        staged := OrderedMap.empty.insert coordinate none }
    let config : Config := { readOnly := true }
    let cache := ofStore store config
    let later := cache.after [.set coordinate ∅, .sync 0]
    config.readOnly = true ∧
      later.store.committed.contains coordinate = false ∧
      later.pending = 0 ∧
      (later.serve (.contains coordinate)).result = (cache.serve (.contains coordinate)).result := by
  intro coordinate store config cache later
  obtain ⟨hstores, hmemory⟩ := unaltered_of_readOnly.{0}
  refine ⟨rfl, by decide, ?_, ?_⟩
  · exact (hstores MemoryStore store config (.inl rfl) [.set coordinate ∅, .sync 0]).1
  · exact hmemory store config (.inl rfl) [.set coordinate ∅, .sync 0] (.contains coordinate) rfl

end Sessions

end Cache
end PackageMetadata
