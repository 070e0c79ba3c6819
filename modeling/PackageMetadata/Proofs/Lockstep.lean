import PackageMetadata.Cache.Request
import PackageMetadata.Proofs.Outcome

/-!
# Caches in lockstep

A cache knows its store only through the operations of the store.  So if two stores answer
alike, and stay related by doing so, then caches with the same policy over these stores
answer alike, too, and their stores stay related.  Only the records that the caches can hand
over have to be considered.

**Results**

* `serve_lockstep_of_reads`, `serve_lockstep`: one request.
* `after_lockstep`: a whole session.
* `serve_keeps_of_reads`, `after_keeps`: what the operations of a store keep is kept by requests
  and sessions.
* `items_of_get`, `after_of_serve`: what every request keeps is kept by all records in a row
  and by every session.
* `samePolicy_serve`: no request changes what a cache was built with.
-/

namespace PackageMetadata

universe u v w

open Outcome (Related related_andThen related_map)

section Stores

variable {σ : Type u} {τ : Type v} [Store σ] [Store τ]

/-- Two kinds of stores whose operations answer alike and lead from related states to related
states, apart from those that make changes. -/
structure Store.Reading (R : σ → τ → Prop) : Prop where
  fetch : ∀ coordinate s t, R s t →
    Related R (Store.fetch coordinate s) (Store.fetch coordinate t)
  keys : ∀ s t, R s t → Related R (Store.keys s) (Store.keys t)
  contains : ∀ coordinate s t, R s t →
    Related R (Store.contains coordinate s) (Store.contains coordinate t)
  commit : ∀ s t, R s t → Related R (Store.commit s) (Store.commit t)

/-- The same for all operations, as long as the records that are written are `admissible`. -/
structure Store.Lockstep
    (admissible : Record → Prop)
    (R : σ → τ → Prop) :
    Prop extends Store.Reading R where
  write : ∀ coordinate record s t, admissible record → R s t →
    Related R (Store.write coordinate record s) (Store.write coordinate record t)
  delete : ∀ coordinate s t, R s t →
    Related R (Store.delete coordinate s) (Store.delete coordinate t)

/-- A property of stores that every operation keeps, apart from those that make changes. -/
structure Store.KeepsReading (P : σ → Prop) : Prop where
  fetch : ∀ coordinate s, P s → P (Store.fetch coordinate s).state
  keys : ∀ s, P s → P (Store.keys s).state
  contains : ∀ coordinate s, P s → P (Store.contains coordinate s).state
  commit : ∀ s, P s → P (Store.commit s).state

/-- A property of stores that every operation keeps, as long as the records that are written
are `admissible`. -/
structure Store.Keeps
    (admissible : Record → Prop)
    (P : σ → Prop) :
    Prop extends Store.KeepsReading P where
  write : ∀ coordinate record s, admissible record → P s →
    P (Store.write coordinate record s).state
  delete : ∀ coordinate s, P s → P (Store.delete coordinate s).state

variable {admissible : Record → Prop} {P : σ → Prop}

/-- A store that keeps a property runs in lockstep with itself. -/
theorem Store.KeepsReading.reading (h : Store.KeepsReading P) :
    Store.Reading fun s t => s = t ∧ P s where
  fetch := by
    rintro coordinate s _ ⟨rfl, hs⟩
    exact ⟨rfl, rfl, h.fetch coordinate s hs⟩
  keys := by
    rintro s _ ⟨rfl, hs⟩
    exact ⟨rfl, rfl, h.keys s hs⟩
  contains := by
    rintro coordinate s _ ⟨rfl, hs⟩
    exact ⟨rfl, rfl, h.contains coordinate s hs⟩
  commit := by
    rintro s _ ⟨rfl, hs⟩
    exact ⟨rfl, rfl, h.commit s hs⟩

theorem Store.Keeps.lockstep (h : Store.Keeps admissible P) :
    Store.Lockstep admissible fun s t => s = t ∧ P s where
  toReading := h.reading
  write := by
    rintro coordinate record s _ hrecord ⟨rfl, hs⟩
    exact ⟨rfl, rfl, h.write coordinate record s hrecord hs⟩
  delete := by
    rintro coordinate s _ ⟨rfl, hs⟩
    exact ⟨rfl, rfl, h.delete coordinate s hs⟩

end Stores

namespace Cache

variable {σ : Type u} {τ : Type v} {α : Type w} [Store σ] [Store τ]
variable {admissible : Record → Prop} {R : σ → τ → Prop}

omit [Store σ] [Store τ] in
/-- Two caches with the same policy and the same backlog over related stores, which hand over
admissible records only. -/
structure Lockstep
    (admissible : Record → Prop)
    (R : σ → τ → Prop)
    (a : Cache σ)
    (b : Cache τ) :
    Prop where
  schema : a.schema = b.schema
  readOnly : a.readOnly = b.readOnly
  traits : a.traits = b.traits
  syncRate : a.syncRate = b.syncRate
  pending : a.pending = b.pending
  store : R a.store b.store
  admits : ∀ record, a.schema.validate record = .ok () → admissible (a.prepare record)

variable {a : Cache σ} {b : Cache τ}

section Reading

/-- Whether a request asks for no change of the records. -/
def Request.reads : Request → Bool
  | .set _ _ => false
  | .delete _ => false
  | _ => true

omit [Store σ] [Store τ] in
theorem onStore_lockstep
    {f : σ → Outcome σ α}
    {g : τ → Outcome τ α}
    (h : a.Lockstep admissible R b)
    (hfg : Related R (f a.store) (g b.store)) :
    Related (Lockstep admissible R) (a.onStore f) (b.onStore g) :=
  ⟨hfg.result, { h with store := hfg.state }⟩

variable (hreading : Store.Reading R) (h : a.Lockstep admissible R b)
include hreading h

theorem commit_lockstep :
    Related (Lockstep admissible R) a.commit b.commit := by
  rw [commit, commit, h.traits]
  split
  · exact ⟨rfl, h⟩
  · exact onStore_lockstep h (hreading.commit _ _ h.store)

theorem settle_lockstep :
    Related (Lockstep admissible R) a.settle b.settle := by
  rw [settle, settle, h.syncRate, h.pending]
  split
  · exact related_andThen (commit_lockstep hreading h) fun _ hstate =>
      ⟨rfl, { hstate with pending := rfl }⟩
  · exact ⟨rfl, h⟩

theorem get_lockstep (coordinate : Coordinate) :
    Related (Lockstep admissible R) (a.get coordinate) (b.get coordinate) := by
  refine related_andThen (settle_lockstep hreading h) fun _ hsettled => ?_
  refine related_andThen
    (onStore_lockstep hsettled (hreading.fetch coordinate _ _ hsettled.store))
    fun record hfetched => ⟨?_, hfetched⟩
  simp only [present, hfetched.traits]

theorem getAll_lockstep (coordinates : List Coordinate) :
    Related (Lockstep admissible R) (a.getAll coordinates) (b.getAll coordinates) := by
  induction coordinates generalizing a b with
  | nil =>
      exact ⟨rfl, h⟩
  | cons coordinate rest ih =>
      exact related_andThen (get_lockstep hreading h coordinate) fun _ hstate =>
        related_andThen (ih hstate) fun _ hstate => ⟨rfl, hstate⟩

theorem items_lockstep :
    Related (Lockstep admissible R) a.items b.items :=
  related_andThen (onStore_lockstep h (hreading.keys _ _ h.store)) fun coordinates hstate =>
    getAll_lockstep hreading hstate coordinates

theorem sync_lockstep (rate : Nat) :
    Related (Lockstep admissible R) (a.sync rate) (b.sync rate) := by
  have hrate :
      Lockstep admissible R { a with syncRate := rate } { b with syncRate := rate } :=
    { h with syncRate := rfl }
  rw [sync, sync]
  split
  · exact commit_lockstep hreading hrate
  · exact ⟨rfl, hrate⟩

omit [Store σ] [Store τ] hreading in
theorem countChange_lockstep :
    Lockstep admissible R a.countChange b.countChange := by
  have hauto : a.traits.autocommits = b.traits.autocommits :=
    congrArg Capabilities.autocommits h.traits
  rw [countChange, countChange, hauto]
  split
  · exact h
  · exact { h with pending := congrArg (· + 1) h.pending }

theorem settleChange_lockstep :
    Related (Lockstep admissible R) a.settleChange b.settleChange := by
  rw [settleChange, settleChange, h.traits]
  split
  · exact ⟨rfl, h⟩
  · exact settle_lockstep hreading (countChange_lockstep h)

/-- A request that asks for no change is answered alike, and the caches stay in lockstep. -/
theorem serve_lockstep_of_reads
    {request : Request}
    (hreads : request.reads = true) :
    Related (Lockstep admissible R) (a.serve request) (b.serve request) := by
  cases request with
  | get coordinate =>
      exact related_map (get_lockstep hreading h coordinate) _
  | set coordinate record =>
      cases hreads
  | delete coordinate =>
      cases hreads
  | contains coordinate =>
      exact related_map (onStore_lockstep h (hreading.contains coordinate _ _ h.store)) _
  | keys =>
      exact related_map (onStore_lockstep h (hreading.keys _ _ h.store)) _
  | items =>
      exact related_map (items_lockstep hreading h) _
  | sync rate =>
      exact related_map (sync_lockstep hreading h rate) _
  | commit =>
      exact related_map (commit_lockstep hreading h) _

end Reading

section Changing

variable (hstores : Store.Lockstep admissible R) (h : a.Lockstep admissible R b)
include hstores h

theorem set_lockstep
    (coordinate : Coordinate)
    (record : Record) :
    Related (Lockstep admissible R) (a.set coordinate record) (b.set coordinate record) := by
  have hprepare : b.prepare record = a.prepare record := by
    rw [prepare, prepare, h.traits]
  rw [set, set, ← h.readOnly, ← h.schema, hprepare]
  split
  · exact ⟨rfl, h⟩
  · cases hvalid : a.schema.validate record with
    | error failure =>
        exact ⟨rfl, h⟩
    | ok _ =>
        have hwrite :=
          hstores.write coordinate _ _ _ (h.admits record hvalid) h.store
        exact related_andThen (onStore_lockstep h hwrite) fun _ hstate =>
          settleChange_lockstep hstores.toReading hstate

theorem delete_lockstep (coordinate : Coordinate) :
    Related (Lockstep admissible R) (a.delete coordinate) (b.delete coordinate) := by
  have hcounted := countChange_lockstep h
  rw [delete, delete, h.readOnly]
  split
  · exact ⟨rfl, h⟩
  · exact related_andThen
      (onStore_lockstep hcounted (hstores.delete coordinate _ _ hcounted.store))
      fun _ hstate => settle_lockstep hstores.toReading hstate

/-- A request is answered alike, and the caches stay in lockstep. -/
theorem serve_lockstep (request : Request) :
    Related (Lockstep admissible R) (a.serve request) (b.serve request) := by
  cases request with
  | set coordinate record =>
      exact related_map (set_lockstep hstores h coordinate record) _
  | delete coordinate =>
      exact related_map (delete_lockstep hstores h coordinate) _
  | _ =>
      exact serve_lockstep_of_reads hstores.toReading h rfl

theorem after_lockstep (session : List Request) :
    Lockstep admissible R (a.after session) (b.after session) := by
  induction session generalizing a b with
  | nil =>
      exact h
  | cons request rest ih =>
      exact ih (serve_lockstep hstores h request).state

end Changing

section Keeping

variable {P : σ → Prop} {cache : Cache σ}

omit [Store σ] in
/-- A cache runs in lockstep with itself, whatever its store keeps. -/
theorem lockstep_self
    (hadmits : ∀ record,
      cache.schema.validate record = .ok () → admissible (cache.prepare record))
    (hstart : P cache.store) :
    cache.Lockstep admissible (fun s t => s = t ∧ P s) cache :=
  { schema := rfl
    readOnly := rfl
    traits := rfl
    syncRate := rfl
    pending := rfl
    store := ⟨rfl, hstart⟩
    admits := hadmits }

section Reading

omit [Store σ] in
/-- The same if it does not matter which records are handed over. -/
theorem lockstep_any (hstart : P cache.store) :
    cache.Lockstep (fun _ => True) (fun s t => s = t ∧ P s) cache :=
  lockstep_self (fun _ _ => trivial) hstart

variable (hreading : Store.KeepsReading P) (hstart : P cache.store)
include hreading hstart

theorem settle_keeps : P cache.settle.state.store :=
  (settle_lockstep hreading.reading (lockstep_any hstart)).state.store.2

theorem settleChange_keeps : P cache.settleChange.state.store :=
  (settleChange_lockstep hreading.reading (lockstep_any hstart)).state.store.2

theorem get_keeps (coordinate : Coordinate) : P (cache.get coordinate).state.store :=
  (get_lockstep hreading.reading (lockstep_any hstart) coordinate).state.store.2

/-- What reading and committing keep is kept by a request that asks for no change. -/
theorem serve_keeps_of_reads
    {request : Request}
    (hreads : request.reads = true) :
    P (cache.serve request).state.store :=
  (serve_lockstep_of_reads hreading.reading (lockstep_any hstart) hreads).state.store.2

end Reading

/-- What every operation of a store keeps is kept by every session. -/
theorem after_keeps
    (hkeeps : Store.Keeps admissible P)
    (hadmits : ∀ record,
      cache.schema.validate record = .ok () → admissible (cache.prepare record))
    (hstart : P cache.store)
    (session : List Request) :
    P (cache.after session).store :=
  (after_lockstep hkeeps.lockstep (lockstep_self hadmits hstart) session).store.2

end Keeping

section Serving

variable {P : Cache σ → Prop} {cache : Cache σ}

theorem getAll_of_get
    (hget : ∀ cache coordinate, P cache → P (cache.get coordinate).state)
    (h : P cache)
    (coordinates : List Coordinate) :
    P (cache.getAll coordinates).state := by
  induction coordinates generalizing cache with
  | nil =>
      exact h
  | cons coordinate rest ih =>
      have hfirst := hget cache coordinate h
      exact Outcome.state_andThen (fun _ _ => hfirst) fun _ _ =>
        Outcome.state_andThen (fun _ _ => ih hfirst) fun _ _ => ih hfirst

/-- What getting one record keeps is kept by getting all of them. -/
theorem items_of_get
    (hget : ∀ cache coordinate, P cache → P (cache.get coordinate).state)
    (hkeys : P cache.keys.state) :
    P cache.items.state :=
  Outcome.state_andThen (fun _ _ => hkeys) fun coordinates _ =>
    getAll_of_get hget hkeys coordinates

theorem after_of_serve
    (hserve : ∀ cache request, P cache → P (cache.serve request).state)
    (h : P cache)
    (session : List Request) :
    P (cache.after session) := by
  induction session generalizing cache with
  | nil =>
      exact h
  | cons request rest ih =>
      exact ih (hserve cache request h)

end Serving

section Policy

omit [Store σ] in
/-- Two caches that were built with the same policy. -/
structure SamePolicy (a b : Cache σ) : Prop where
  schema : b.schema = a.schema
  readOnly : b.readOnly = a.readOnly
  traits : b.traits = a.traits

variable {base cache : Cache σ}

omit [Store σ] in
theorem samePolicy_self : base.SamePolicy base :=
  ⟨rfl, rfl, rfl⟩

omit [Store σ] in
theorem samePolicy_onStore
    (h : base.SamePolicy cache)
    (operation : σ → Outcome σ α) :
    base.SamePolicy (cache.onStore operation).state :=
  ⟨h.schema, h.readOnly, h.traits⟩

theorem samePolicy_commit (h : base.SamePolicy cache) :
    base.SamePolicy cache.commit.state := by
  rw [commit]
  split
  · exact h
  · exact samePolicy_onStore h Store.commit

theorem samePolicy_settle (h : base.SamePolicy cache) :
    base.SamePolicy cache.settle.state := by
  have hcommit := samePolicy_commit h
  rw [settle]
  split
  · exact Outcome.state_andThen (fun _ _ => hcommit) fun _ _ =>
      ⟨hcommit.schema, hcommit.readOnly, hcommit.traits⟩
  · exact h

omit [Store σ] in
/-- A change is counted without the store. -/
theorem store_countChange (cache : Cache σ) :
    cache.countChange.store = cache.store := by
  rw [countChange]
  split <;> rfl

omit [Store σ] in
theorem samePolicy_countChange (h : base.SamePolicy cache) :
    base.SamePolicy cache.countChange := by
  rw [countChange]
  split
  · exact h
  · exact ⟨h.schema, h.readOnly, h.traits⟩

theorem samePolicy_get
    (h : base.SamePolicy cache)
    (coordinate : Coordinate) :
    base.SamePolicy (cache.get coordinate).state := by
  refine Outcome.state_andThen (fun _ _ => samePolicy_settle h) fun _ _ => ?_
  have hfetch := samePolicy_onStore (samePolicy_settle h) (Store.fetch coordinate)
  exact Outcome.state_andThen (fun _ _ => hfetch) fun _ _ => hfetch

theorem samePolicy_set
    (h : base.SamePolicy cache)
    (coordinate : Coordinate)
    (record : Record) :
    base.SamePolicy (cache.set coordinate record).state := by
  have hwrite := samePolicy_onStore h (Store.write coordinate (cache.prepare record))
  rw [set]
  split
  · exact h
  · split
    · exact h
    · refine Outcome.state_andThen (fun _ _ => hwrite) fun _ _ => ?_
      rw [settleChange]
      split
      · exact hwrite
      · exact samePolicy_settle (samePolicy_countChange hwrite)

theorem samePolicy_delete
    (h : base.SamePolicy cache)
    (coordinate : Coordinate) :
    base.SamePolicy (cache.delete coordinate).state := by
  have hdelete := samePolicy_onStore (samePolicy_countChange h) (Store.delete coordinate)
  rw [delete]
  split
  · exact h
  · exact Outcome.state_andThen (fun _ _ => hdelete) fun _ _ => samePolicy_settle hdelete

theorem samePolicy_sync
    (h : base.SamePolicy cache)
    (rate : Nat) :
    base.SamePolicy (cache.sync rate).state := by
  have hrate : base.SamePolicy { cache with syncRate := rate } := ⟨h.schema, h.readOnly, h.traits⟩
  rw [sync]
  split
  · exact samePolicy_commit hrate
  · exact hrate

/-- No request changes the policy. -/
theorem samePolicy_serve
    (h : base.SamePolicy cache)
    (request : Request) :
    base.SamePolicy (cache.serve request).state := by
  cases request with
  | get coordinate =>
      exact samePolicy_get h coordinate
  | set coordinate record =>
      exact samePolicy_set h coordinate record
  | delete coordinate =>
      exact samePolicy_delete h coordinate
  | contains coordinate =>
      exact samePolicy_onStore h (Store.contains coordinate)
  | keys =>
      exact samePolicy_onStore h Store.keys
  | items =>
      exact items_of_get (fun _ coordinate h => samePolicy_get h coordinate)
        (samePolicy_onStore h Store.keys)
  | sync rate =>
      exact samePolicy_sync h rate
  | commit =>
      exact samePolicy_commit h

theorem samePolicy_after
    (base : Cache σ)
    (session : List Request) :
    base.SamePolicy (base.after session) :=
  after_of_serve (P := base.SamePolicy) (fun _ request h => samePolicy_serve h request)
    samePolicy_self session

end Policy

end Cache
end PackageMetadata
