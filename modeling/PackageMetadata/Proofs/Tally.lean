import PackageMetadata.Proofs.Backlog
import PackageMetadata.Store.Memory

/-!
# What a cache counts before it commits on its own

A cache commits on its own when it reads or changes records and too many changes are pending.  Its
count of pending changes takes in every record that the store took, and every deletion that was
put to the store, whether or not the store found something to delete.  The count begins anew with
each commit of the cache's own; a commit that is asked for by name leaves it as it is.

So there may be fewer changes waiting than the sync rate allows when a cache commits on its own.
There are more of them if, since its last such commit, no deletion was refused and no commit was
asked for by name.

**Definitions**

* `Request.settles`: a request may commit the backlog.
* `Call`, `Trace`, `trace`: what is asked of the store of a cache, each time with the reason.
* `sinceFlush`: what was asked for since the cache last committed on its own.
* `tally`: the changes among it that the store took, and the deletions that it refused.
* `Steady`: there are no such deletions, and no commits that were asked for by name.
* `OverdueCommits`: no commit of a trace came before the tally was above a rate.

**Results**

* `trace_append`, `attempts_trace`: traces are journals with reasons.
* `tally_concat`: what one more call does to the tally.
* `tallied_serve`, `pending_eq_tally`: the count of pending changes is the tally.
* `lag_eq_tally`: in steady times the tally is the number of waiting changes.
* `flushes_beyond_tally`: when a cache commits on its own.
-/

namespace PackageMetadata

universe u v

namespace Cache

open Store (Journal Journaled)

variable {σ : Type u} {α : Type v} [Store σ]

section Definitions

/-- Whether a request may commit the backlog of a cache, though it does not ask for a commit. -/
def Request.settles : Request → Bool
  | .get _ => true
  | .set _ _ => true
  | .delete _ => true
  | .items => true
  | _ => false

/-- A request to the store of a cache, with the request to the cache that led to it. -/
structure Call where
  cause : Request
  attempt : Store.Attempt
deriving DecidableEq

namespace Call

/-- Whether a cache has committed on its own. -/
def isFlush (call : Call) : Bool :=
  call.cause.settles && call.attempt.isCommit

/-- Whether a store has refused a deletion. -/
def isRefusal (call : Call) : Bool :=
  match call.attempt.request with
  | .delete _ => !call.attempt.succeeded
  | _ => false

/-- What a call adds to the tally. -/
def weight (call : Call) : Nat :=
  call.attempt.change?.toList.length + if call.isRefusal then 1 else 0

section Weight

variable {cause : Request} {succeeded : Bool}

theorem isFlush_eq_false
    {request : Store.Request}
    (hcommit : request ≠ .commit) :
    isFlush ⟨cause, request, succeeded⟩ = false := by
  simp [isFlush, Store.Attempt.isCommit, hcommit]

theorem isFlush_commit :
    isFlush ⟨cause, .commit, succeeded⟩ = (cause.settles && succeeded) := by
  simp [isFlush, Store.Attempt.isCommit]

/-- A record counts if the store takes it. -/
theorem weight_write
    (coordinate : Coordinate)
    (record : Record) :
    weight ⟨cause, .write coordinate record, succeeded⟩ = if succeeded then 1 else 0 := by
  cases succeeded <;> rfl

/-- A deletion counts in any case. -/
theorem weight_delete (coordinate : Coordinate) :
    weight ⟨cause, .delete coordinate, succeeded⟩ = 1 := by
  cases succeeded <;> rfl

/-- Whatever else is asked of a store does not count. -/
theorem weight_of_quiet
    {request : Store.Request}
    (hquiet : request.change? = none) :
    weight ⟨cause, request, succeeded⟩ = 0 := by
  cases succeeded <;> cases request <;> first | rfl | cases hquiet

end Weight

end Call

/-- The requests to the store of a cache with their causes, earliest first. -/
abbrev Trace := List Call

namespace Trace

/-- The requests without their causes. -/
def attempts (trace : Trace) : Journal :=
  trace.map Call.attempt

/-- The calls since the cache last committed on its own. -/
def sinceFlush (trace : Trace) : Trace :=
  trace.rtakeWhile fun call => !call.isFlush

/-- The changes that the store took and the deletions that it refused since the cache last
committed on its own. -/
def tally (trace : Trace) : Nat :=
  trace.sinceFlush.attempts.changes.length + trace.sinceFlush.countP Call.isRefusal

/-- Since the cache last committed on its own no deletion was refused, and no commit was asked for
by name. -/
def Steady (trace : Trace) : Prop :=
  ∀ call ∈ trace.sinceFlush, call.isRefusal = false ∧ call.attempt.isCommit = false

instance : DecidablePred Steady :=
  fun trace => inferInstanceAs
    (Decidable (∀ call ∈ trace.sinceFlush, call.isRefusal = false ∧ call.attempt.isCommit = false))

/-- A trace in which the cache has tried to commit on its own only while the tally was above a
rate, as far as the trace goes on behind a first part. -/
def OverdueCommits
    (trace : Trace)
    (rate : Nat)
    (base : Trace) :
    Prop :=
  ∀ (earlier : Trace) (cause : Request) (succeeded : Bool), cause.settles = true →
    base <+: earlier → earlier ++ [⟨cause, .commit, succeeded⟩] <+: trace → rate < earlier.tally

end Trace

/-- What is asked of the store of a cache in a session, and by which of its requests. -/
def trace
    (cache : Cache σ) :
    List Request → Trace
  | [] => []
  | request :: rest =>
      (cache.journal [request]).map (Call.mk request) ++ (cache.serve request).state.trace rest

end Definitions

section Traces

variable (cache : Cache σ)

theorem trace_append (first second : List Request) :
    cache.trace (first ++ second) = cache.trace first ++ (cache.after first).trace second := by
  induction first generalizing cache with
  | nil =>
      rfl
  | cons request rest ih =>
      rw [List.cons_append, trace, ih, trace, List.append_assoc]
      rfl

theorem trace_singleton (request : Request) :
    cache.trace [request] = (cache.journal [request]).map (Call.mk request) :=
  List.append_nil _

/-- Without the causes a trace is the journal of the session. -/
theorem attempts_trace (session : List Request) :
    (cache.trace session).attempts = cache.journal session := by
  induction session generalizing cache with
  | nil =>
      rfl
  | cons request rest ih =>
      have hrest := ih (cache.serve request).state
      have hjournal : cache.journal (request :: rest) =
          cache.journal [request] ++ (cache.serve request).state.journal rest :=
        journal_append cache [request] rest
      rw [hjournal, ← hrest, trace, Trace.attempts, Trace.attempts, List.map_append, List.map_map]
      exact congrArg (· ++ _) (List.map_id _)

end Traces

namespace Trace

variable {base trace : Trace} {call : Call} {rate : Nat}

section Tally

theorem sinceFlush_concat
    (trace : Trace)
    (call : Call) :
    sinceFlush (trace ++ [call]) = if call.isFlush then [] else trace.sinceFlush ++ [call] := by
  cases h : call.isFlush <;> simp [sinceFlush, h]

/-- A commit of the cache's own ends the tally, and every other call adds its weight. -/
theorem tally_concat
    (trace : Trace)
    (call : Call) :
    tally (trace ++ [call]) = if call.isFlush then 0 else trace.tally + call.weight := by
  rw [tally, sinceFlush_concat]
  cases h : call.isFlush with
  | true =>
      rfl
  | false =>
      have hchanges : (trace.sinceFlush ++ [call]).attempts.changes =
          trace.sinceFlush.attempts.changes ++ call.attempt.change?.toList := by
        rw [attempts, List.map_append, List.map_singleton, Journal.changes_concat]
        rfl
      simp only [Bool.false_eq_true, if_false]
      rw [hchanges, List.length_append, List.countP_append, List.countP_singleton, tally,
        Call.weight]
      omega

/-- In steady times nothing but waiting changes is counted. -/
theorem lag_eq_tally
    (trace : Trace)
    (hsteady : trace.Steady) :
    trace.attempts.lag = trace.tally := by
  induction trace using List.reverseRecOn with
  | nil =>
      rfl
  | append_singleton trace call ih =>
      rw [Steady, sinceFlush_concat] at hsteady
      rw [attempts, List.map_append, List.map_singleton, Journal.lag_concat, tally_concat]
      cases hflush : call.isFlush with
      | true =>
          have hcommit : call.attempt.isCommit = true := (Bool.and_eq_true_iff.mp hflush).2
          rw [if_pos hcommit, if_pos rfl]
      | false =>
          simp only [hflush, Bool.false_eq_true, if_false] at hsteady
          obtain ⟨hrefusal, hcommit⟩ := hsteady call (by simp)
          have hearlier : Steady trace :=
            fun other hother => hsteady other (List.mem_append_left _ hother)
          rw [hcommit, Call.weight, hrefusal]
          exact congrArg (· + call.attempt.change?.toList.length) (ih hearlier)

end Tally

section Overdue

theorem overdueCommits_self :
    base.OverdueCommits rate base := by
  intro earlier cause succeeded _ hbase hcommit
  have hlonger := hcommit.length_le
  have hshorter := hbase.length_le
  rw [List.length_append, List.length_singleton] at hlonger
  omega

/-- The cache may try to commit on its own only if the tally is above the rate by then. -/
theorem overdueCommits_concat
    (h : trace.OverdueCommits rate base)
    (htally : call.cause.settles = true → call.attempt.request = .commit → rate < trace.tally) :
    (trace ++ [call]).OverdueCommits rate base := by
  intro earlier cause succeeded hsettles hbase hcommit
  rcases List.prefix_concat_iff.mp hcommit with heq | hcommit
  · obtain ⟨rfl, hlast⟩ := List.append_inj' heq rfl
    obtain rfl := List.singleton_inj.mp hlast
    exact htally hsettles rfl
  · exact h earlier cause succeeded hsettles hbase hcommit

end Overdue

end Trace

section Counting

variable {base : Trace} {rate : Nat} {cause : Request} {cache : Cache (Journaled σ)}

omit [Store σ] in
/-- A first trace together with what was asked of the store since, all of it for one reason. -/
def told
    (base : Trace)
    (cause : Request)
    (cache : Cache (Journaled σ)) :
    Trace :=
  base ++ cache.store.journal.map (Call.mk cause)

/-- A cache over a store that collects changes, whose count of pending changes is the tally, and
which has tried to commit on its own only when the tally was above a rate.  This is its sync rate
as long as the cause may commit the backlog. -/
structure Tallied
    (base : Trace)
    (rate : Nat)
    (cause : Request)
    (cache : Cache (Journaled σ)) :
    Prop where
  batching : cache.traits.autocommits = false
  syncRate : cause.settles = true → cache.syncRate = rate
  pending : cache.pending = (cache.told base cause).tally
  overdue : (cache.told base cause).OverdueCommits rate base

section Requests

variable (request : Store.Request) (operation : σ → Outcome σ α)

omit [Store σ] in
theorem told_note :
    (cache.onStore (Journaled.note request operation)).state.told base cause =
      cache.told base cause ++ [⟨cause, request, (operation cache.store.store).result.isOk⟩] := by
  have hjournal : (cache.onStore (Journaled.note request operation)).state.store.journal =
      cache.store.journal ++ [⟨request, (operation cache.store.store).result.isOk⟩] := rfl
  rw [told, told, hjournal, List.map_append, List.append_assoc]
  rfl

end Requests

theorem told_commit
    {after : Cache (Journaled σ)}
    {result : Except Failure Unit}
    (hcommit : Store.commit cache.store = ⟨result, after.store⟩) :
    after.told base cause = cache.told base cause ++ [⟨cause, .commit, result.isOk⟩] := by
  obtain ⟨-, hjournal⟩ := Journaled.note_eq hcommit
  rw [told, told, hjournal, List.map_append, List.append_assoc]
  rfl

omit [Store σ] in
/-- The count stays the tally if it goes with each call: a commit of the cache's own clears it, and
every other call adds its weight. -/
theorem tallied_call
    {after : Cache (Journaled σ)}
    {attempt : Store.Attempt}
    (h : cache.Tallied base rate cause)
    (htold : after.told base cause = cache.told base cause ++ [⟨cause, attempt⟩])
    (htraits : after.traits = cache.traits)
    (hrate : after.syncRate = cache.syncRate)
    (hpending : after.pending =
      if Call.isFlush ⟨cause, attempt⟩ then 0 else cache.pending + Call.weight ⟨cause, attempt⟩)
    (hdue : cause.settles = true → attempt.request = .commit → cache.syncRate < cache.pending) :
    after.Tallied base rate cause := by
  constructor
  · rw [htraits]
    exact h.batching
  · rw [hrate]
    exact h.syncRate
  · rw [hpending, htold, Trace.tally_concat, h.pending]
  · rw [htold]
    refine Trace.overdueCommits_concat h.overdue fun hsettles hcommit => ?_
    rw [← h.pending, ← h.syncRate hsettles]
    exact hdue hsettles hcommit

section Asking

variable {request : Store.Request} (operation : σ → Outcome σ α)

omit [Store σ] in
/-- What asks for neither a change nor a commit is not counted. -/
theorem tallied_quiet
    (h : cache.Tallied base rate cause)
    (hquiet : request.change? = none)
    (hcommit : request ≠ .commit) :
    (cache.onStore (Journaled.note request operation)).state.Tallied base rate cause := by
  refine tallied_call h (told_note request operation) rfl rfl ?_ fun _ h => absurd h hcommit
  rw [Call.isFlush_eq_false hcommit, Call.weight_of_quiet hquiet]
  rfl

omit [Store σ] in
/-- A record that the store takes, and every deletion, is counted. -/
theorem tallied_change
    (h : cache.Tallied base rate cause)
    (hcommit : request ≠ .commit)
    (hweight : Call.weight ⟨cause, request, (operation cache.store.store).result.isOk⟩ = 1) :
    (cache.countChange.onStore (Journaled.note request operation)).state.Tallied
      base rate cause := by
  have hcounted : cache.countChange = { cache with pending := cache.pending + 1 } := by
    rw [countChange, h.batching]
    rfl
  rw [hcounted]
  refine tallied_call h (told_note request operation) rfl rfl ?_ fun _ h => absurd h hcommit
  rw [Call.isFlush_eq_false hcommit, hweight]
  rfl

/-- A commit that is asked for by name is not counted, and does not clear the count. -/
theorem tallied_commit
    (h : cache.Tallied base rate cause)
    (hcause : cause.settles = false) :
    cache.commit.state.Tallied base rate cause := by
  rw [commit, h.batching]
  refine tallied_call h (told_note .commit Store.commit) rfl rfl ?_ fun hsettles _ => ?_
  · rw [Call.isFlush_commit, hcause, Call.weight_of_quiet rfl]
    rfl
  · rw [hcause] at hsettles
    cases hsettles

/-- A commit of the cache's own is made only if the count is above the sync rate, and clears the
count. -/
theorem tallied_settle
    (h : cache.Tallied base rate cause)
    (hcause : cause.settles = true) :
    cache.settle.state.Tallied base rate cause := by
  obtain ⟨-, hsettle⟩ | ⟨hdue, _, hcommit, hsettle⟩ | ⟨hdue, _, _, hcommit, hsettle⟩ :=
    settle_cases h.batching
  · rw [hsettle]
    exact h
  · rw [hsettle]
    refine tallied_call h (told_commit hcommit) rfl rfl ?_ fun _ _ => hdue
    rw [Call.isFlush_commit, hcause]
    rfl
  · rw [hsettle]
    refine tallied_call h (told_commit hcommit) rfl rfl ?_ fun _ _ => hdue
    rw [Call.isFlush_commit, Call.weight_of_quiet rfl, hcause]
    rfl

end Asking

section Serving

theorem tallied_get
    (h : cache.Tallied base rate cause)
    (hcause : cause.settles = true)
    (coordinate : Coordinate) :
    (cache.get coordinate).state.Tallied base rate cause := by
  have hsettle := tallied_settle h hcause
  refine Outcome.state_andThen (fun _ _ => hsettle) fun _ _ => ?_
  have hfetch : (cache.settle.state.onStore (Store.fetch coordinate)).state.Tallied
      base rate cause :=
    tallied_quiet (Store.fetch coordinate) hsettle rfl nofun
  exact Outcome.state_andThen (fun _ _ => hfetch) fun _ _ => hfetch

theorem tallied_set
    (h : cache.Tallied base rate cause)
    (hcause : cause.settles = true)
    (coordinate : Coordinate)
    (record : Record) :
    (cache.set coordinate record).state.Tallied base rate cause := by
  have hother : Store.Request.write coordinate (cache.prepare record) ≠ .commit := by simp
  rw [set]
  split
  · exact h
  · split
    · exact h
    · -- A record that the store refuses has no weight, and is not counted either.
      refine Outcome.state_andThen (fun failure hfailed => ?_) fun _ hwritten => ?_
      · have hresult : (Store.write coordinate (cache.prepare record) cache.store.store).result =
            .error failure := hfailed
        refine tallied_call h (told_note _ _) rfl rfl ?_ fun _ hcommit => absurd hcommit hother
        rw [hresult, Call.weight_write, Call.isFlush_eq_false hother]
        rfl
      · have hresult : (Store.write coordinate (cache.prepare record) cache.store.store).result =
            .ok () := hwritten
        rw [settleChange_onStore h.batching]
        refine tallied_settle (tallied_change _ h hother ?_) hcause
        rw [Call.weight_write, hresult]
        rfl

theorem tallied_delete
    (h : cache.Tallied base rate cause)
    (hcause : cause.settles = true)
    (coordinate : Coordinate) :
    (cache.delete coordinate).state.Tallied base rate cause := by
  have hdelete : (cache.countChange.onStore (Store.delete coordinate)).state.Tallied
      base rate cause :=
    tallied_change (Store.delete coordinate) h nofun (Call.weight_delete coordinate)
  rw [delete]
  split
  · exact h
  · exact Outcome.state_andThen (fun _ _ => hdelete) fun _ _ => tallied_settle hdelete hcause

theorem tallied_items
    (h : cache.Tallied base rate cause)
    (hcause : cause.settles = true) :
    cache.items.state.Tallied base rate cause :=
  items_of_get (fun _ coordinate h => tallied_get h hcause coordinate)
    (tallied_quiet Store.keys h rfl nofun)

omit [Store σ] in
/-- A cache whose store has just begun its journal. -/
theorem tallied_fresh
    (hbatching : cache.traits.autocommits = false)
    (hrate : cause.settles = true → cache.syncRate = rate)
    (hpending : cache.pending = base.tally)
    (hfresh : cache.store.journal = []) :
    cache.Tallied base rate cause := by
  have htold : cache.told base cause = base := by
    rw [told, hfresh]
    exact List.append_nil base
  constructor
  · exact hbatching
  · exact hrate
  · rw [htold]
    exact hpending
  · rw [htold]
    exact Trace.overdueCommits_self

/-- Whatever is asked of a cache, its count of pending changes stays the tally, and it commits on
its own only when the tally is above the sync rate. -/
theorem tallied_serve
    (hbatching : cache.traits.autocommits = false)
    (hpending : cache.pending = base.tally)
    (hfresh : cache.store.journal = [])
    (request : Request) :
    (cache.serve request).state.Tallied base cache.syncRate request := by
  have h : cache.Tallied base cache.syncRate request :=
    tallied_fresh hbatching (fun _ => rfl) hpending hfresh
  cases request with
  | get coordinate =>
      exact tallied_get h rfl coordinate
  | set coordinate record =>
      exact tallied_set h rfl coordinate record
  | delete coordinate =>
      exact tallied_delete h rfl coordinate
  | contains coordinate =>
      exact tallied_quiet (Store.contains coordinate) h rfl nofun
  | keys =>
      exact tallied_quiet Store.keys h rfl nofun
  | items =>
      exact tallied_items h rfl
  | sync rate =>
      have hrate : Tallied base cache.syncRate (.sync rate) { cache with syncRate := rate } :=
        tallied_fresh hbatching nofun hpending hfresh
      rw [serve, Outcome.state_map, sync]
      split
      · exact tallied_commit hrate rfl
      · exact hrate
  | commit =>
      exact tallied_commit h rfl

end Serving

end Counting

section Sessions

variable {cache : Cache σ}

/-- What the trace of a session is after one more request. -/
theorem trace_concat
    (cache : Cache σ)
    (session : List Request)
    (request : Request) :
    cache.trace (session ++ [request]) =
      ((cache.after session).journaled.serve request).state.told
        (cache.trace session) request := by
  rw [trace_append, trace_singleton]
  rfl

/-- One more request of a session. -/
theorem tallied_session
    (hbatching : cache.traits.autocommits = false)
    (session : List Request)
    (hpending : (cache.after session).pending = (cache.trace session).tally)
    (request : Request) :
    ((cache.after session).journaled.serve request).state.Tallied (cache.trace session)
      (cache.after session).syncRate request := by
  have hserved : (cache.after session).traits.autocommits = false := by
    rw [← (after_journaled cache session).traits]
    exact (counted_journal session hbatching).batching
  have hfresh : (cache.after session).journaled.store.journal = [] := rfl
  exact tallied_serve hserved hpending hfresh request

/-- The count of pending changes is the tally at any time. -/
theorem pending_eq_tally
    (hbatching : cache.traits.autocommits = false)
    (hpending : cache.pending = 0)
    (session : List Request) :
    (cache.after session).pending = (cache.trace session).tally := by
  induction session using List.reverseRecOn with
  | nil =>
      exact hpending
  | append_singleton session request ih =>
      have htallied := tallied_session hbatching session ih request
      have hserve := serve_lockstep Store.Journaled.lockstep
        (journaled_lockstep (cache.after session)) request
      rw [trace_concat, ← htallied.pending, hserve.state.pending, after_append]
      rfl

/-- When a cache over a store that collects changes commits on its own, as part of any request of
any session: since it has last done so, the changes that the store took and the deletions that it
refused are together more than the sync rate allows.  If there was no such deletion since then, and
no commit that was asked for by name, then more changes are waiting than the sync rate allows. -/
theorem flushes_beyond_tally
    (store : σ)
    (config : Config)
    (hbatching : (Store.capabilities store).autocommits = false)
    (session : List Request)
    (request : Request)
    (hsettles : request.settles = true) :
    let cache := ofStore store config
    let rate := (cache.after session).syncRate
    ∀ (earlier : Trace) (succeeded : Bool), cache.trace session <+: earlier →
      earlier ++ [⟨request, .commit, succeeded⟩] <+: cache.trace (session ++ [request]) →
        rate < earlier.tally ∧ (earlier.Steady → rate < earlier.attempts.lag) := by
  intro cache rate earlier succeeded hbase hcommit
  have hpending : (cache.after session).pending = (cache.trace session).tally :=
    pending_eq_tally hbatching rfl session
  have htallied := tallied_session hbatching session hpending request
  rw [trace_concat] at hcommit
  have hdue := htallied.overdue earlier request succeeded hsettles hbase hcommit
  refine ⟨hdue, fun hsteady => ?_⟩
  rw [Trace.lag_eq_tally earlier hsteady]
  exact hdue

/-- With a sync rate of one the second record is followed by a commit, by which time two records
are waiting. -/
theorem flushes_beyond_tally_second :
    let coordinate : Coordinate := ⟨"dev-libs", "a", "1", rfl, rfl, rfl⟩
    let cache := ofStore MemoryStore.empty { syncRate := 1 }
    let request : Request := .set coordinate ∅
    let earlier : Trace := cache.trace [request] ++ [⟨request, .write coordinate ∅, true⟩]
    (Store.capabilities MemoryStore.empty).autocommits = false ∧
      request.settles = true ∧
      cache.trace [request] <+: earlier ∧
      earlier ++ [⟨request, .commit, true⟩] <+: cache.trace [request, request] ∧
      earlier.Steady ∧
      1 < earlier.tally ∧ 1 < earlier.attempts.lag := by
  intro coordinate cache request earlier
  have hbatching : (Store.capabilities MemoryStore.empty).autocommits = false := rfl
  have hbase : cache.trace [request] <+: earlier := List.prefix_append _ _
  have hcommit : earlier ++ [⟨request, .commit, true⟩] <+: cache.trace [request, request] := by
    decide
  have hsteady : earlier.Steady := by decide
  obtain ⟨htally, hlag⟩ := flushes_beyond_tally MemoryStore.empty { syncRate := 1 } hbatching
    [request] request rfl earlier true hbase hcommit
  exact ⟨hbatching, rfl, hbase, hcommit, hsteady, htally, hlag hsteady⟩

/-- Nothing is found that a deletion could take out.  The next reading commits all the same, though
no change is waiting and the sync rate is zero. -/
theorem flush_without_change :
    let coordinate : Coordinate := ⟨"dev-libs", "a", "1", rfl, rfl, rfl⟩
    let cache := ofStore MemoryStore.empty {}
    let session : List Request := [.delete coordinate]
    (cache.after session).syncRate = 0 ∧
      (cache.journal session).lag = 0 ∧
      cache.trace (session ++ [.get coordinate]) = cache.trace session ++
        [⟨.get coordinate, .commit, true⟩, ⟨.get coordinate, .fetch coordinate, false⟩] := by
  decide

/-- A commit that is asked for by name is not noticed by the count either: here a record is
followed by a commit though the sync rate is one and no other change is waiting. -/
example :
    let coordinate : Coordinate := ⟨"dev-libs", "a", "1", rfl, rfl, rfl⟩
    let cache := ofStore MemoryStore.empty { syncRate := 1 }
    let session : List Request := [.set coordinate ∅, .commit]
    (cache.journal session).lag = 0 ∧
      cache.journal (session ++ [.set coordinate ∅]) =
        cache.journal session ++ [⟨.write coordinate ∅, true⟩, ⟨.commit, true⟩] := by
  decide

end Sessions

end Cache
end PackageMetadata
