import PackageMetadata.Proofs.Pending
import PackageMetadata.Store.Memory
import PackageMetadata.Store.Rehearsed

/-!
# Changes that fail

A change of a cache is made in two steps: the store takes it, and if too many changes are pending
then the store is told to commit.  Either step can fail.  If the first one does, then nothing has
happened.  If the second one does, then the change is in the store though its failure was answered,
and the count of pending changes stays above the sync rate.  So the commit is tried again before
the next record is fetched, and no record is fetched until it succeeds.

**Definitions**

* `FailsCleanly`: changes and commits of a store have no effect on its contents if they fail.
* `Stuck`: a store takes a change and fails to commit it.
* `Spared`: a request failed and nothing has happened.
* `Unsettled`: a request failed at the commit, when the store had taken its change.
* `Retries`: a request tries the commit again before a record is fetched.

**Results**

* `failsCleanly`: stores in memory and rehearsed stores fail cleanly.
* `settle_eq_error`, `set_eq_error`, `delete_eq_error`: the ways in which a change fails.
* `get_of_commit_failed`, `get_of_commit_done`: reading when too many changes are pending.
* `spared_of_refused`, `unsettled_of_stuck`: the same ways as a journal tells them.
* `failed_change_cases`: what a failed change leaves behind, and what comes next.
-/

namespace PackageMetadata

universe u v w

namespace Store

variable {σ : Type u} {γ : Type w} [Store σ]

/-- A store whose contents are as they were after a change or a commit that failed. -/
structure FailsCleanly (contents : σ → γ) : Prop where
  write : ∀ coordinate record store failure after,
    Store.write coordinate record store = .failed failure after → contents after = contents store
  delete : ∀ coordinate store failure after,
    Store.delete coordinate store = .failed failure after → contents after = contents store
  commit : ∀ store failure after,
    Store.commit store = .failed failure after → contents after = contents store

end Store

namespace MemoryStore

theorem eq_of_accept_failed
    {store after : MemoryStore}
    {coordinate : Coordinate}
    {change : Option Record}
    {failure : Failure}
    (h : store.accept coordinate change = .failed failure after) :
    after = store := by
  rw [accept] at h
  split at h
  · exact (congrArg Outcome.state h).symm
  · split at h <;> cases h

/-- A store in memory that fails is as it was. -/
theorem failsCleanly : Store.FailsCleanly fun store : MemoryStore => store where
  write := fun _ _ _ _ _ h => eq_of_accept_failed h
  delete := by
    intro coordinate store failure after h
    dsimp only [Store.delete] at h
    split at h
    · exact eq_of_accept_failed h
    · exact (congrArg Outcome.state h).symm
  commit := by
    intro store failure after h
    have hdone : Except.ok () = Except.error failure := congrArg Outcome.result h
    cases hdone

end MemoryStore

namespace RehearsedStore

theorem records_enter
    (store : RehearsedStore)
    (call : StoreCall) :
    (store.enter call).state.records = store.records := by
  rw [enter]
  split <;> rfl

/-- What is logged first and fails keeps the records, if what comes after the log does. -/
theorem records_of_failed
    {store after : RehearsedStore}
    {call : StoreCall}
    {next : Unit → RehearsedStore → Outcome RehearsedStore Unit}
    {failure : Failure}
    (h : (store.enter call).andThen next = .failed failure after)
    (hnext : ∀ state, (next () state).result = .error failure →
      (next () state).state.records = state.records) :
    after.records = store.records := by
  have hafter : ((store.enter call).andThen next).state = after := congrArg Outcome.state h
  obtain ⟨-, hstate⟩ | ⟨⟨⟩, -, hfailed, hstate⟩ :=
    Outcome.result_andThen_eq_error (congrArg Outcome.result h)
  · rw [← hafter, hstate, records_enter]
  · rw [← hafter, hstate, hnext _ hfailed, records_enter]

/-- A rehearsed store that fails keeps its records. -/
theorem failsCleanly : Store.FailsCleanly RehearsedStore.records where
  write := fun _ _ _ _ _ h => records_of_failed h nofun
  delete := by
    intro coordinate store failure after h
    refine records_of_failed h fun state hfailed => ?_
    split at hfailed
    · cases hfailed
    · rename_i habsent
      rw [if_neg habsent]
      rfl
  commit := by
    intro store failure after h
    rw [← records_enter store ⟨.commit, none⟩]
    exact congrArg (fun outcome => outcome.state.records) h.symm

end RehearsedStore

namespace Cache

open Store (Journaled FailsCleanly)

variable {σ : Type u} {γ : Type w} [Store σ]

section Definitions

/-- A store takes a change and fails to commit it, and too many changes are pending. -/
def Stuck
    (operation : σ → Outcome σ Unit)
    (store : σ)
    (failure : Failure)
    (after : Cache σ) :
    Prop :=
  ∃ changed, operation store = .done () changed ∧
    Store.commit changed = .failed failure after.store ∧ after.syncRate < after.pending

/-- A request that failed and did nothing: whatever it asked of the store failed, and the contents
of the store are as they were. -/
structure Spared
    (contents : σ → γ)
    (cache : Cache σ)
    (request : Request) :
    Prop where
  calls : ∀ call ∈ cache.journal [request], call.succeeded = false
  contents : contents (cache.serve request).state.store = contents cache.store

/-- A request that failed because the store took its change and could not commit it: the failure is
the one of the commit, the store holds the change, and too many changes are pending. -/
structure Unsettled
    (contents : σ → γ)
    (cache : Cache σ)
    (request : Request)
    (change : Store.Request)
    (failure : Failure) :
    Prop where
  calls : cache.journal [request] = [⟨change, true⟩, ⟨.commit, false⟩]
  taken : ∃ changed, Store.serve cache.store change = .done .done changed ∧
    (Store.commit changed).result = .error failure ∧
    contents (cache.serve request).state.store = contents changed
  overdue : (cache.serve request).state.syncRate < (cache.serve request).state.pending

/-- The store is told to commit before the record of a coordinate is fetched.  If it fails, then
its failure is the answer and nothing is fetched; otherwise no change is pending any more and the
record is fetched as it is without a backlog. -/
structure Retries
    (cache : Cache σ)
    (coordinate : Coordinate) :
    Prop where
  failed : ∀ failure store, Store.commit cache.store = .failed failure store →
    cache.serve (.get coordinate) = .failed failure { cache with store := store } ∧
      cache.journal [.get coordinate] = [⟨.commit, false⟩]
  settled : ∀ store, Store.commit cache.store = .done () store →
    let settled := { cache with store := store, pending := 0 }
    cache.serve (.get coordinate) = settled.serve (.get coordinate) ∧
      (cache.serve (.get coordinate)).state.pending = 0 ∧
      cache.journal [.get coordinate] =
        [⟨.commit, true⟩, ⟨.fetch coordinate, (Store.fetch coordinate store).result.isOk⟩]

end Definitions

section Failing

variable {cache : Cache σ} {failure : Failure}

/-- The check of the backlog fails if the backlog is too long and the store cannot commit. -/
theorem settle_eq_error (h : cache.settle.result = .error failure) :
    let after := cache.settle.state
    Store.commit cache.store = .failed failure after.store ∧ after.syncRate < after.pending := by
  cases hauto : cache.traits.autocommits with
  | true =>
      rw [settle, commit, hauto] at h
      split at h <;> cases h
  | false =>
      obtain ⟨-, hsettle⟩ | ⟨-, _, -, hsettle⟩ | ⟨hdue, other, store, hcommit, hsettle⟩ :=
        settle_cases hauto
      · rw [hsettle] at h
        cases h
      · rw [hsettle] at h
        cases h
      · rw [hsettle] at h ⊢
        obtain rfl : other = failure := Except.error.inj h
        exact ⟨hcommit, hdue⟩

/-- Something is asked of the store and the backlog is checked: the one or the other fails. -/
theorem onStore_settle_eq_error
    {operation : σ → Outcome σ Unit}
    (h : ((cache.onStore operation).andThen fun _ cache => cache.settle).result =
      .error failure) :
    let after := ((cache.onStore operation).andThen fun _ cache => cache.settle).state
    (operation cache.store = .failed failure after.store ∧ after.pending = cache.pending) ∨
    Stuck operation cache.store failure after := by
  obtain ⟨hfailed, hstate⟩ | ⟨⟨⟩, hdone, hsettle, hstate⟩ := Outcome.result_andThen_eq_error h
  · rw [hstate]
    exact .inl ⟨Outcome.eq_of_result hfailed, rfl⟩
  · rw [hstate]
    exact .inr ⟨_, Outcome.eq_of_result hdone, settle_eq_error hsettle⟩

/-- The same if the change is counted only after the store has taken it. -/
theorem onStore_settleChange_eq_error
    {operation : σ → Outcome σ Unit}
    (h : ((cache.onStore operation).andThen fun _ cache => cache.settleChange).result =
      .error failure) :
    let after := ((cache.onStore operation).andThen fun _ cache => cache.settleChange).state
    (operation cache.store = .failed failure after.store ∧ after.pending = cache.pending) ∨
    Stuck operation cache.store failure after := by
  obtain ⟨hfailed, hstate⟩ | ⟨⟨⟩, hdone, hsettle, hstate⟩ := Outcome.result_andThen_eq_error h
  · rw [hstate]
    exact .inl ⟨Outcome.eq_of_result hfailed, rfl⟩
  · right
    cases hauto : cache.traits.autocommits with
    | true =>
        -- A store that commits by itself is not told to.
        have hquiet : (cache.onStore operation).state.settleChange =
            .done () (cache.onStore operation).state := if_pos hauto
        rw [hquiet] at hsettle
        cases hsettle
    | false =>
        rw [settleChange_onStore hauto] at hsettle hstate
        rw [hstate]
        obtain ⟨hcommit, hdue⟩ := settle_eq_error hsettle
        have hstore : (cache.countChange.onStore operation).state.store =
            (operation cache.store).state :=
          congrArg (fun store => (operation store).state) (store_countChange cache)
        rw [hstore] at hcommit
        exact ⟨_, Outcome.eq_of_result hdone, hcommit, hdue⟩

/-- A record is not stored: it is not one of the schema, or the store refuses it, or the store
takes it and cannot commit. -/
theorem set_eq_error
    (hwritable : cache.readOnly = false)
    {coordinate : Coordinate}
    {record : Record}
    (h : (cache.set coordinate record).result = .error failure) :
    let after := (cache.set coordinate record).state
    let write := Store.write coordinate (cache.prepare record)
    (cache.schema.validate record = .error failure ∧ after = cache) ∨
    (write cache.store = .failed failure after.store ∧ after.pending = cache.pending) ∨
    Stuck write cache.store failure after := by
  rw [set, hwritable] at h ⊢
  cases hvalid : cache.schema.validate record with
  | error other =>
      rw [hvalid] at h
      obtain rfl : other = failure := Except.error.inj h
      exact .inl ⟨rfl, rfl⟩
  | ok _ =>
      rw [hvalid] at h
      exact .inr (onStore_settleChange_eq_error h)

/-- A record is not taken out: the store refuses, or it takes the change and cannot commit. -/
theorem delete_eq_error
    (hwritable : cache.readOnly = false)
    {coordinate : Coordinate}
    (h : (cache.delete coordinate).result = .error failure) :
    let after := (cache.delete coordinate).state
    let delete := Store.delete coordinate
    delete cache.store = .failed failure after.store ∨
    Stuck delete cache.store failure after := by
  rw [delete, hwritable] at h ⊢
  have hcases := onStore_settle_eq_error h
  rw [store_countChange] at hcases
  exact hcases.imp_left And.left

section Overdue

variable {store : σ}
variable (hbatching : cache.traits.autocommits = false) (hdue : cache.syncRate < cache.pending)
variable (coordinate : Coordinate)
include hbatching hdue

/-- If too many changes are pending, then reading tells the store to commit.  If that fails, so
does the reading. -/
theorem get_of_commit_failed (hcommit : Store.commit cache.store = .failed failure store) :
    cache.get coordinate = .failed failure { cache with store := store } := by
  have hsettle : cache.settle = .failed failure { cache with store := store } := by
    rw [settle, if_pos hdue, commit, hbatching, onStore, hcommit]
    rfl
  rw [get, hsettle]
  rfl

/-- If it succeeds, then the reading goes on as if no change had been pending. -/
theorem get_of_commit_done (hcommit : Store.commit cache.store = .done () store) :
    cache.get coordinate = { cache with store := store, pending := 0 }.get coordinate := by
  have hsettle : cache.settle = .done () { cache with store := store, pending := 0 } := by
    rw [settle, if_pos hdue, commit, hbatching, onStore, hcommit]
    rfl
  rw [get, get, hsettle, settle_of_no_pending rfl]

end Overdue

/-- If no change is pending, then reading does nothing but fetch the record. -/
theorem state_get_of_no_pending
    (h : cache.pending = 0)
    (coordinate : Coordinate) :
    (cache.get coordinate).state = (cache.onStore (Store.fetch coordinate)).state := by
  rw [get, settle_of_no_pending h, Outcome.andThen_done]
  exact Outcome.state_andThen (P := (· = (cache.onStore (Store.fetch coordinate)).state))
    (fun _ _ => rfl) fun _ _ => rfl

end Failing

section Journals

variable {contents : σ → γ} {cache : Cache σ} {request : Request} {change : Store.Request}
variable {operation : σ → Outcome σ Unit} {failure : Failure}

/-- Whether or not the store of a cache keeps a journal, a request leaves it in the same state. -/
theorem serve_journaled
    (cache : Cache σ)
    (request : Request) :
    Outcome.Related (Lockstep (fun _ => True) fun s t => s.store = t)
      (cache.journaled.serve request) (cache.serve request) :=
  serve_lockstep Store.Journaled.lockstep (journaled_lockstep cache) request

/-- A request was not served because the store refused its change. -/
theorem spared_of_refused
    (hcontents : ∀ store failure after,
      operation store = .failed failure after → contents after = contents store)
    (h : Journaled.note change operation cache.journaled.store =
      .failed failure (cache.journaled.serve request).state.store) :
    cache.Spared contents request ∧ (operation cache.store).result = .error failure := by
  obtain ⟨hrefused, hnoted⟩ := Journaled.note_eq h
  rw [(serve_journaled cache request).state.store] at hrefused
  refine ⟨⟨fun call hcall => ?_, hcontents _ _ _ hrefused⟩, congrArg Outcome.result hrefused⟩
  have hjournal : cache.journal [request] = [⟨change, false⟩] := hnoted
  rw [hjournal] at hcall
  rw [List.mem_singleton.mp hcall]

/-- A request was not served because the store could not commit its change. -/
theorem unsettled_of_stuck
    (hclean : FailsCleanly contents)
    (hchange : ∀ store : σ, Store.serve store change = (operation store).map fun _ => .done)
    (h : Stuck (Journaled.note change operation) cache.journaled.store failure
      (cache.journaled.serve request).state) :
    cache.Unsettled contents request change failure := by
  have hserve := serve_journaled cache request
  obtain ⟨changed, hnoted, hcommit, hdue⟩ := h
  obtain ⟨htaken, hfirst⟩ := Journaled.note_eq hnoted
  obtain ⟨hcommit, hsecond⟩ := Journaled.note_eq hcommit
  rw [hserve.state.store] at hcommit
  rw [hserve.state.syncRate, hserve.state.pending] at hdue
  refine
    { calls := ?_
      taken := ⟨changed.store, ?_, ?_, ?_⟩
      overdue := hdue }
  · rw [hfirst] at hsecond
    exact hsecond
  · rw [hchange]
    exact congrArg (Outcome.map · fun _ => Store.Answer.done) htaken
  · rw [hcommit]
  · exact hclean.commit _ _ _ hcommit

end Journals

section Sessions

variable {contents : σ → γ} {cache : Cache σ} {failure : Failure}

/-- A record that is not stored was not asked of the store at all, or refused by it, or taken and
not committed. -/
theorem set_cases
    (hclean : FailsCleanly contents)
    (hwritable : cache.readOnly = false)
    {coordinate : Coordinate}
    {record : Record}
    (h : (cache.serve (.set coordinate record)).result = .error failure) :
    (cache.Spared contents (.set coordinate record) ∧
      (cache.serve (.set coordinate record)).state.pending = cache.pending ∧
      (cache.schema.validate record = .error failure ∨
        (Store.write coordinate (cache.prepare record) cache.store).result = .error failure)) ∨
    cache.Unsettled contents (.set coordinate record)
      (.write coordinate (cache.prepare record)) failure := by
  have hserve := serve_journaled cache (.set coordinate record)
  have hwritable : cache.journaled.readOnly = false := hwritable
  have hset := Outcome.result_eq_error_of_map (hserve.result.trans h)
  obtain ⟨hinvalid, hstate⟩ | ⟨hrefused, hpending⟩ | hstuck := set_eq_error hwritable hset
  · left
    have hjournal : cache.journal [.set coordinate record] = [] :=
      congrArg (fun after => after.store.journal) hstate
    have hstore : (cache.serve (.set coordinate record)).state.store = cache.store :=
      hserve.state.store.symm.trans (congrArg (fun after => after.store.store) hstate)
    have hpending : (cache.serve (.set coordinate record)).state.pending = cache.pending :=
      hserve.state.pending.symm.trans (congrArg (fun after => after.pending) hstate)
    refine ⟨⟨?_, congrArg contents hstore⟩, hpending, .inl hinvalid⟩
    rw [hjournal]
    exact nofun
  · left
    have hspared : cache.Spared contents (.set coordinate record) ∧ _ :=
      spared_of_refused (hclean.write coordinate (cache.prepare record)) hrefused
    exact ⟨hspared.1, hserve.state.pending.symm.trans hpending, .inr hspared.2⟩
  · right
    exact unsettled_of_stuck hclean (fun _ => rfl) hstuck

/-- A record that is not taken out was refused by the store, or taken and not committed. -/
theorem delete_cases
    (hclean : FailsCleanly contents)
    (hwritable : cache.readOnly = false)
    {coordinate : Coordinate}
    (h : (cache.serve (.delete coordinate)).result = .error failure) :
    (cache.Spared contents (.delete coordinate) ∧
      (Store.delete coordinate cache.store).result = .error failure) ∨
    cache.Unsettled contents (.delete coordinate) (.delete coordinate) failure := by
  have hserve := serve_journaled cache (.delete coordinate)
  have hwritable : cache.journaled.readOnly = false := hwritable
  have hdelete := Outcome.result_eq_error_of_map (hserve.result.trans h)
  obtain hrefused | hstuck := delete_eq_error hwritable hdelete
  · left
    exact spared_of_refused (hclean.delete coordinate) hrefused
  · right
    exact unsettled_of_stuck hclean (fun _ => rfl) hstuck

/-- The commit is tried again before the next record is fetched. -/
theorem retries_of_overdue
    (hbatching : cache.traits.autocommits = false)
    (hdue : cache.syncRate < cache.pending)
    (coordinate : Coordinate) :
    cache.Retries coordinate := by
  have hbatching' : cache.journaled.traits.autocommits = false := hbatching
  have hdue' : cache.journaled.syncRate < cache.journaled.pending := hdue
  refine ⟨fun failure store hcommit => ?_, fun store hcommit => ?_⟩
  · have hget := get_of_commit_failed hbatching hdue coordinate hcommit
    have hjournal := get_of_commit_failed hbatching' hdue' coordinate
      (Journaled.note_of_eq .commit hcommit)
    exact ⟨congrArg (Outcome.map · Answer.record) hget,
      congrArg (fun outcome => outcome.state.store.journal) hjournal⟩
  · have hget := get_of_commit_done hbatching hdue coordinate hcommit
    have hjournal := get_of_commit_done hbatching' hdue' coordinate
      (Journaled.note_of_eq .commit hcommit)
    have hstate := (congrArg Outcome.state hget).trans (state_get_of_no_pending rfl coordinate)
    have hnoted := (congrArg Outcome.state hjournal).trans
      (state_get_of_no_pending rfl coordinate)
    exact ⟨congrArg (Outcome.map · Answer.record) hget,
      congrArg (fun after => after.pending) hstate,
      congrArg (fun after => after.store.journal) hnoted⟩

/-- Over a store that commits by itself no change is ever pending. -/
theorem pending_of_autocommits
    {store : σ}
    {config : Config}
    {session : List Request}
    (hauto : (ofStore store config).traits.autocommits = true) :
    ((ofStore store config).after session).pending = 0 := by
  have hstart : (ofStore store config).journaled.Immediate := ⟨hauto, rfl, nofun⟩
  rw [← (after_journaled _ session).pending]
  exact (immediate_after hstart session).pending

variable (contents) in
/-- What a failed change of a writable cache leaves behind, after any session over any store whose
failures have no effect on its contents.

Either nothing has happened, or the store holds the change, its commit has failed with the failure
that is answered, and too many changes are pending.  A record that is refused is not even counted.
As long as too many changes are pending the commit is tried again before a record is fetched. -/
theorem failed_change_cases
    (store : σ)
    (config : Config)
    (hclean : FailsCleanly contents)
    (hwritable : (ofStore store config).readOnly = false)
    (session : List Request) :
    let now := (ofStore store config).after session
    (∀ coordinate record failure,
      (now.serve (.set coordinate record)).result = .error failure →
        (now.Spared contents (.set coordinate record) ∧
          (now.serve (.set coordinate record)).state.pending = now.pending ∧
          (now.schema.validate record = .error failure ∨
            (Store.write coordinate (now.prepare record) now.store).result = .error failure)) ∨
        now.Unsettled contents (.set coordinate record)
          (.write coordinate (now.prepare record)) failure) ∧
    (∀ coordinate failure,
      (now.serve (.delete coordinate)).result = .error failure →
        (now.Spared contents (.delete coordinate) ∧
          (Store.delete coordinate now.store).result = .error failure) ∨
        now.Unsettled contents (.delete coordinate) (.delete coordinate) failure) ∧
    (now.syncRate < now.pending → ∀ coordinate, now.Retries coordinate) := by
  intro now
  have hpolicy := samePolicy_after (ofStore store config) session
  have hnow : now.readOnly = false := hpolicy.readOnly.trans hwritable
  refine ⟨fun _ _ _ h => set_cases hclean hnow h, fun _ _ h => delete_cases hclean hnow h,
    fun hdue => retries_of_overdue ?_ hdue⟩
  -- A store that commits by itself leaves no change pending, so there is nothing to retry.
  rw [hpolicy.traits]
  cases hauto : (ofStore store config).traits.autocommits with
  | false => rfl
  | true =>
      rw [pending_of_autocommits hauto] at hdue
      exact absurd hdue (Nat.not_lt_zero _)

/-- A store is told to fail at its next two commits.  A cache over it that has stored a record
holds the record and has a change pending too many.  So does it if another record is stored, and
the next reading fails at the commit. -/
theorem failed_change_cases_armed :
    let first : Coordinate := ⟨"dev-libs", "a", "1", rfl, rfl, rfl⟩
    let second : Coordinate := ⟨"dev-libs", "b", "1", rfl, rfl, rfl⟩
    let store := RehearsedStore.arm {} .commit 2
    let cache := ofStore store { syncRate := 0 }
    let now := cache.after [.set first ∅]
    let failure := Failure.injected "raw_commit"
    cache.readOnly = false ∧
      (now.serve (.set second ∅)).result = .error failure ∧
      now.Unsettled RehearsedStore.records (.set second ∅) (.write second ∅) failure ∧
      now.syncRate < now.pending ∧ now.Retries first ∧
      (now.serve (.get first)).result = .error failure := by
  intro first second store cache now failure
  have hwritable : cache.readOnly = false := rfl
  have hdue : now.syncRate < now.pending := by decide
  have hfailed : (now.serve (.set second ∅)).result = .error failure := rfl
  obtain ⟨hset, -, hretries⟩ := failed_change_cases RehearsedStore.records store { syncRate := 0 }
    RehearsedStore.failsCleanly hwritable [.set first ∅]
  have hunsettled :
      now.Unsettled RehearsedStore.records (.set second ∅) (.write second ∅) failure :=
    (hset second ∅ failure hfailed).resolve_left fun hspared =>
      Bool.noConfusion (hspared.1.calls ⟨.write second ∅, true⟩ (by decide))
  exact ⟨hwritable, hfailed, hunsettled, hdue, hretries hdue first, rfl⟩

end Sessions

end Cache
end PackageMetadata
