import PackageMetadata.Proofs.Durability
import PackageMetadata.Proofs.ReadOnly

/-!
# Changes that are committed in batches

A cache over a store in memory lets changes wait until there is one more of them than the sync rate
says, and then it commits them all.  As long as nobody asks for a commit, sets another rate or has a
deletion fail, nothing else counts: reading does nothing at all, whether or not a record is found,
and neither does a record that is refused.  So the accepted changes alone tell where the batches
end.

The store may hold records and staged changes from before.  These become durable together with the
first batch.

**Definitions**

* `Undisturbed`: a session without commits, without other rates and without deletions that fail.
* `MemoryStore.stage`: one more change waits in a store.
* `take`: a cache takes one more change, and commits it if it makes a batch full.
* `Batching`: a cache that lets changes wait, no more of them than the sync rate says.
* `Batched`: a cache that has taken some changes since it was built.

**Results**

* `state_of_observes`: reading does nothing.
* `state_serve`: a request does no more than the change that it makes.
* `after_eq_foldl_take`: so does a session.
* `batched_stage`, `batched_commit`: one more change, with and without room in the batch.
* `batched_foldl_take`: any number of changes.
* `commits_eq_div`: how often the store commits in a session, and what is not durable then.
-/

namespace PackageMetadata

open Store (Change)

namespace MemoryStore

section Staging

/-- The store with one more change that waits for a commit. -/
def stage
    (store : MemoryStore)
    (change : Change) :
    MemoryStore :=
  { store with
    staged := store.staged.insert change.1 change.2
    writes := store.writes + 1 }

variable {store : MemoryStore} (change : Change)

theorem accept_of_batching
    (hwritable : store.traits.readOnly = false)
    (hbatching : store.traits.autocommits = false) :
    store.accept change.1 change.2 = .done () (store.stage change) := by
  rw [accept, hwritable, hbatching]
  rfl

theorem overlay_stage :
    (store.stage change).overlay = applyChange store.overlay change.1 change.2 := by
  refine OrderedMap.ext_get? fun other => ?_
  rw [get?_applyChange, get?_overlay, get?_overlay, visible?, stage, OrderedMap.get?_insert]
  by_cases hother : other = change.1
  · simp [hother]
  · simp [hother, visible?]

end Staging

end MemoryStore

namespace Cache

open MemoryStore (applyChange_eq overlay_stage replayOver replayOver_concat)

section Definitions

/-- A request that leaves the batches as the changes make them, given what it was answered. -/
def Request.undisturbing
    (request : Request)
    (result : Except Failure Answer) :
    Bool :=
  match request with
  | .sync _ | .commit => false
  | .delete _ => result.isOk
  | _ => true

/-- Nobody asks for a commit or sets another rate in a session, and no deletion fails. -/
def Undisturbed
    (cache : Cache MemoryStore)
    (session : List Request) :
    Prop :=
  ∀ turn ∈ session.zip (cache.answers session), turn.1.undisturbing turn.2 = true

instance (cache : Cache MemoryStore) : DecidablePred cache.Undisturbed :=
  fun session => inferInstanceAs
    (Decidable (∀ turn ∈ session.zip (cache.answers session), turn.1.undisturbing turn.2 = true))

/-- The cache after one more change.  If there are now more of them than the sync rate says then
the batch is full and is committed. -/
def take
    (cache : Cache MemoryStore)
    (change : Change) :
    Cache MemoryStore :=
  let store := cache.store.stage change
  if cache.pending < cache.syncRate then
    { cache with store := store, pending := cache.pending + 1 }
  else
    { cache with store := store.commit, pending := 0 }

/-- A cache that lets changes wait, no more of them than the sync rate says. -/
structure Batching (cache : Cache MemoryStore) : Prop where
  policy : cache.traits.autocommits = false
  store : cache.store.traits.autocommits = false
  writable : cache.readOnly = false → cache.store.traits.readOnly = false
  pending : cache.pending ≤ cache.syncRate

end Definitions

section Requests

variable {cache : Cache MemoryStore}

theorem batching_ofStore
    {store : MemoryStore}
    (config : Config)
    (h : store.traits.autocommits = false) :
    (ofStore store config).Batching where
  policy := h
  store := h
  writable hwritable := (Bool.or_eq_false_iff.mp hwritable).2
  pending := Nat.zero_le _

theorem batching_take
    (h : cache.Batching)
    (change : Change) :
    (cache.take change).Batching := by
  rw [take]
  split
  · rename_i hroom
    exact ⟨h.policy, h.store, h.writable, hroom⟩
  · exact ⟨h.policy, h.store, h.writable, Nat.zero_le _⟩

/-- A change that the store stages is counted, and committed if it makes the batch full. -/
theorem settle_of_staged
    (h : cache.Batching)
    {change : Change}
    {operation : MemoryStore → Outcome MemoryStore Unit}
    (hstaged : operation cache.store = .done () (cache.store.stage change)) :
    (cache.countChange.onStore operation).state.settle = .done () (cache.take change) := by
  have hcounted : (cache.countChange.onStore operation).state =
      { cache with store := cache.store.stage change, pending := cache.pending + 1 } := by
    rw [countChange, h.policy, onStore, if_neg Bool.false_ne_true, hstaged]
    rfl
  rw [hcounted, take]
  by_cases hroom : cache.pending < cache.syncRate
  · rw [if_pos hroom]
    exact settle_of_le hroom
  · rw [if_neg hroom, settle, if_pos (Nat.lt_succ_of_le (Nat.le_of_not_lt hroom)), commit, h.policy]
    rfl

theorem state_get
    (h : cache.Batching)
    (coordinate : Coordinate) :
    (cache.get coordinate).state = cache := by
  have hfetch : (cache.onStore (Store.fetch coordinate)).state = cache := by
    rw [onStore, Outcome.state_mapState, MemoryStore.state_fetch]
  rw [get, settle_of_le h.pending, Outcome.andThen_done]
  exact Outcome.state_andThen (P := fun after => after = cache)
    (fun _ _ => hfetch) fun _ _ => hfetch

/-- Reading does nothing, found or not: there is no batch that is overdue. -/
theorem state_of_observes
    (h : cache.Batching)
    {request : Request}
    (hobserves : request.observes = true) :
    (cache.serve request).state = cache := by
  cases request with
  | get coordinate =>
      exact state_get h coordinate
  | contains coordinate =>
      rfl
  | keys =>
      rfl
  | items =>
      refine items_of_get (P := fun after => after = cache) ?_ rfl
      rintro _ coordinate rfl
      exact state_get h coordinate
  | _ =>
      cases hobserves

/-- A record is refused before the store is asked, or it is taken. -/
theorem set_of_batching
    (h : cache.Batching)
    (coordinate : Coordinate)
    (record : Record) :
    cache.set coordinate record = .done () (cache.take (coordinate, some (cache.prepare record))) ∨
    ∃ failure, cache.set coordinate record = .failed failure cache := by
  rw [set]
  cases hreadOnly : cache.readOnly with
  | true =>
      exact .inr ⟨.readOnly, rfl⟩
  | false =>
      cases hvalid : cache.schema.validate record with
      | error failure =>
          exact .inr ⟨failure, rfl⟩
      | ok _ =>
          have hwrite : Store.write coordinate (cache.prepare record) cache.store =
              .done () (cache.store.stage (coordinate, some (cache.prepare record))) :=
            MemoryStore.accept_of_batching (_, _) (h.writable hreadOnly) h.store
          have hok : (cache.onStore (Store.write coordinate (cache.prepare record))).result =
              .ok () := congrArg Outcome.result hwrite
          left
          rw [← settle_of_staged h hwrite, ← settleChange_onStore h.policy]
          exact Outcome.andThen_of_ok hok _

/-- A deletion that does not fail is taken. -/
theorem delete_of_batching
    (h : cache.Batching)
    {coordinate : Coordinate}
    (hok : (cache.delete coordinate).result.isOk = true) :
    cache.delete coordinate = .done () (cache.take (coordinate, none)) := by
  rw [delete] at hok ⊢
  cases hreadOnly : cache.readOnly with
  | true =>
      rw [hreadOnly] at hok
      cases hok
  | false =>
      rw [hreadOnly] at hok
      cases hfound : cache.store.overlay.contains coordinate with
      | true =>
          have hdelete : Store.delete coordinate cache.store =
              .done () (cache.store.stage (coordinate, none)) := by
            rw [MemoryStore.delete_eq, hfound]
            exact MemoryStore.accept_of_batching (_, _) (h.writable hreadOnly) h.store
          have htaken : (cache.countChange.onStore (Store.delete coordinate)).result = .ok () := by
            rw [onStore, store_countChange, hdelete]
            rfl
          rw [← settle_of_staged h hdelete]
          exact Outcome.andThen_of_ok htaken _
      | false =>
          have hdelete : Store.delete coordinate cache.store =
              .failed (.noEntry coordinate) cache.store := by
            rw [MemoryStore.delete_eq, hfound]
            rfl
          rw [onStore, store_countChange, hdelete] at hok
          cases hok

/-- A request that leaves the batches alone does no more than the change that it makes. -/
theorem state_serve
    (h : cache.Batching)
    {request : Request}
    (hundisturbing : request.undisturbing (cache.serve request).result = true) :
    (cache.serve request).state = (cache.accepts request).toList.foldl take cache := by
  cases hobserves : request.observes with
  | true =>
      have hnone : cache.change? request = none := by
        cases request <;> first | rfl | cases hobserves
      rw [state_of_observes h hobserves, accepts, hnone, ite_self]
      rfl
  | false =>
      cases request with
      | set coordinate record =>
          rw [accepts, serve]
          obtain hset | ⟨failure, hset⟩ := set_of_batching h coordinate record
          · rw [hset]
            rfl
          · rw [hset]
            rfl
      | delete coordinate =>
          have hok : (cache.delete coordinate).result.isOk = true := by
            rw [← Outcome.isOk_map (cache.delete coordinate) fun _ => Answer.done]
            exact hundisturbing
          rw [accepts, serve, delete_of_batching h hok]
          rfl
      | sync _ | commit =>
          cases hundisturbing
      | _ =>
          cases hobserves

end Requests

section Sessions

variable {cache : Cache MemoryStore}

/-- A session does no more than the changes that it makes. -/
theorem after_eq_foldl_take
    (h : cache.Batching)
    {session : List Request}
    (hundisturbed : cache.Undisturbed session) :
    cache.after session = (cache.accepted session).foldl take cache ∧
      (cache.after session).Batching := by
  induction session generalizing cache with
  | nil =>
      exact ⟨rfl, h⟩
  | cons request rest ih =>
      obtain ⟨hrequest, hrest⟩ := List.forall_mem_cons.mp hundisturbed
      have hserve := state_serve h hrequest
      have hbatching : (cache.serve request).state.Batching := by
        rw [hserve]
        cases cache.accepts request with
        | none =>
            exact h
        | some change =>
            exact batching_take h change
      obtain ⟨hafter, hlast⟩ := ih hbatching hrest
      refine ⟨?_, hlast⟩
      rw [accepted, List.foldl_append, ← hserve]
      exact hafter

end Sessions

section Batches

/-- A cache that has taken changes and made some batches full since it was built.  A batch has one
change more than the sync rate says.  What the store held before is durable as it was until the
first batch is full, and then as it was read. -/
structure Batched
    (start : Cache MemoryStore)
    (changes : List Change)
    (batches : Nat)
    (cache : Cache MemoryStore) :
    Prop where
  syncRate : cache.syncRate = start.syncRate
  pending : cache.pending ≤ start.syncRate
  length : changes.length = (start.syncRate + 1) * batches + cache.pending
  commits : cache.store.commits = start.store.commits + batches
  /-- The changes of the full batches are durable. -/
  committed : cache.store.committed =
    if batches = 0 then
      start.store.committed
    else
      replayOver start.store.overlay (changes.rdrop cache.pending)
  /-- The others are staged. -/
  staged : cache.store.staged =
    (if batches = 0 then start.store.staged else ∅).insertAll (changes.rtake cache.pending)
  /-- All of them are read. -/
  overlay : cache.store.overlay = replayOver start.store.overlay changes

variable {start cache : Cache MemoryStore} {changes : List Change} {batches : Nat}

theorem batched_self (h : start.pending = 0) : start.Batched [] 0 start where
  syncRate := rfl
  pending := h.le.trans (Nat.zero_le _)
  length := h.symm.trans (Nat.zero_add _).symm
  commits := rfl
  committed := rfl
  staged := by
    rw [h]
    rfl
  overlay := rfl

theorem overlay_stage_of_batched
    (h : start.Batched changes batches cache)
    (change : Change) :
    (cache.store.stage change).overlay =
      replayOver start.store.overlay (changes ++ [change]) := by
  rw [overlay_stage, applyChange_eq, h.overlay, replayOver_concat]

/-- One more change waits with the others as long as there is room in their batch. -/
theorem batched_stage
    (h : start.Batched changes batches cache)
    (hroom : cache.pending < start.syncRate)
    (change : Change) :
    start.Batched (changes ++ [change]) batches
      { cache with store := cache.store.stage change, pending := cache.pending + 1 } where
  syncRate := h.syncRate
  pending := hroom
  length := by
    rw [List.length_append, h.length]
    exact Nat.add_assoc ..
  commits := h.commits
  committed := by
    rw [List.rdrop_concat_succ]
    exact h.committed
  staged := by
    rw [List.rtake_concat_succ, OrderedMap.insertAll, List.foldl_concat]
    exact congrArg (OrderedMap.insert · change.1 change.2) h.staged
  overlay := overlay_stage_of_batched h change

/-- A change that makes the batch full is committed with the others. -/
theorem batched_commit
    (h : start.Batched changes batches cache)
    (hfull : cache.pending = start.syncRate)
    (change : Change) :
    start.Batched (changes ++ [change]) (batches + 1)
      { cache with store := (cache.store.stage change).commit, pending := 0 } where
  syncRate := h.syncRate
  pending := Nat.zero_le _
  length := by
    rw [List.length_append, h.length, hfull, Nat.mul_succ, Nat.add_assoc]
    rfl
  commits := congrArg (· + 1) h.commits
  committed := by
    rw [MemoryStore.committed_commit, overlay_stage_of_batched h, List.rdrop_zero]
    rfl
  staged := by
    rw [List.rtake_zero]
    rfl
  overlay := (MemoryStore.overlay_commit _).trans (overlay_stage_of_batched h change)

theorem batched_take
    (h : start.Batched changes batches cache)
    (change : Change) :
    ∃ batches, start.Batched (changes ++ [change]) batches (cache.take change) := by
  rw [take, h.syncRate]
  by_cases hroom : cache.pending < start.syncRate
  · rw [if_pos hroom, ← h.syncRate]
    exact ⟨batches, batched_stage h hroom change⟩
  · have hfull : cache.pending = start.syncRate :=
      Nat.le_antisymm h.pending (Nat.le_of_not_lt hroom)
    rw [if_neg hroom, ← h.syncRate]
    exact ⟨batches + 1, batched_commit h hfull change⟩

theorem batched_foldl_take
    (h : start.pending = 0)
    (changes : List Change) :
    ∃ batches, start.Batched changes batches (changes.foldl take start) := by
  -- A change meets what the earlier ones have left, so the last one is taken off.
  induction changes using List.reverseRecOn with
  | nil =>
      exact ⟨0, batched_self h⟩
  | append_singleton changes change ih =>
      obtain ⟨batches, hbatched⟩ := ih
      rw [List.foldl_concat]
      exact batched_take hbatched change

end Batches

section Counting

/-- How often a store in memory commits under a fresh cache that it leaves to collect changes, and
which changes are not durable.

After `n` accepted changes there was a commit for every full batch, that is for each `rate + 1` of
them.  The last `n % (rate + 1)` changes, and no others, are staged; the ones before them are in the
committed records.  Reading does nothing at all. -/
theorem commits_eq_div
    {store : MemoryStore}
    (hbatching : store.traits.autocommits = false)
    (config : Config)
    {session : List Request}
    (hundisturbed : (ofStore store config).Undisturbed session) :
    let cache := ofStore store config
    let accepted := cache.accepted session
    let batches := accepted.length / (config.syncRate + 1)
    let late := accepted.length % (config.syncRate + 1)
    let after := cache.after session
    after.store.commits = store.commits + batches ∧
      after.store.committed =
        (if batches = 0 then
          store.committed
        else
          replayOver store.overlay (accepted.rdrop late)) ∧
      after.store.staged =
        (if batches = 0 then store.staged else ∅).insertAll (accepted.rtake late) ∧
      ∀ request, request.observes = true → (after.serve request).state = after := by
  intro cache accepted batches late after
  obtain ⟨hafter, hlast⟩ := after_eq_foldl_take (batching_ofStore config hbatching) hundisturbed
  have hfresh : cache.pending = 0 := rfl
  obtain ⟨count, hbatched⟩ := batched_foldl_take hfresh accepted
  rw [← hafter] at hbatched
  -- No more changes wait than the sync rate says, so their number is the remainder.
  obtain ⟨hcount, hlate⟩ : batches = count ∧ late = after.pending :=
    (Nat.div_mod_unique (Nat.succ_pos _)).mpr
      ⟨(Nat.add_comm _ _).trans hbatched.length.symm, Nat.lt_succ_of_le hbatched.pending⟩
  rw [hcount, hlate]
  exact ⟨hbatched.commits, hbatched.committed, hbatched.staged,
    fun request hobserves => state_of_observes hlast hobserves⟩

/-- Two changes wait for a third one, which is the deletion of a record that was durable.  A record
that is not found and one that is refused do not count. -/
theorem commits_eq_div_third_change :
    let first : Coordinate := ⟨"dev-libs", "a", "1", rfl, rfl, rfl⟩
    let second : Coordinate := ⟨"dev-libs", "b", "1", rfl, rfl, rfl⟩
    let foreign : Record := OrderedMap.ofList [("color", .text "blue")]
    let held : MemoryStore := { committed := OrderedMap.ofList [(first, ∅)], commits := 5 }
    let config : Config := { syncRate := 2 }
    let session : List Request :=
      [.set second ∅, .set second foreign, .delete second, .get second, .delete first,
        .set second ∅]
    let cache := ofStore held config
    held.traits.autocommits = false ∧ cache.Undisturbed session ∧
      (cache.accepted session).length = 4 ∧ (cache.after session).store.commits = 6 ∧
      (cache.after session).store.committed = ∅ ∧
      (cache.after session).store.staged = OrderedMap.ofList [(second, some ∅)] ∧
      ((cache.after session).serve .items).state = cache.after session := by
  intro first second foreign held config session cache
  have hbatching : held.traits.autocommits = false := rfl
  have hundisturbed : cache.Undisturbed session := by decide
  have haccepted : cache.accepted session =
      [(second, some ∅), (second, none), (first, none), (second, some ∅)] := by decide
  obtain ⟨hcommits, hcommitted, hstaged, hreads⟩ := commits_eq_div hbatching config hundisturbed
  rw [haccepted] at hcommits hcommitted hstaged
  refine ⟨hbatching, hundisturbed, congrArg List.length haccepted, ?_, ?_, ?_, hreads .items rfl⟩
  · rw [hcommits]
    decide
  · rw [hcommitted]
    decide
  · rw [hstaged]
    decide

end Counting

end Cache
end PackageMetadata
