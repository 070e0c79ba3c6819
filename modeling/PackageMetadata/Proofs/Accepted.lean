import PackageMetadata.Proofs.Journal

/-!
# Accepted changes

The user of a cache sees which of its changes were accepted: those that were answered with
success.  A store sees which changes it took.  As long as commits do not fail these are the
same changes in the same order, since nothing else that a cache asks of its store is a change,
however often it commits in between.

**Results**

* `changes_serve`: the store takes the change that a request makes, if it makes one.
* `changes_after`, `changes_journal`: the changes that the store took in a session are the
  accepted ones.
-/

namespace PackageMetadata
namespace Cache

universe u v

open Store (Change)
open Store.Journaled (changes_note changes_keepsReading)

variable {σ : Type u} {τ : Type v} [Store σ] [Store τ]

section Definitions

omit [Store σ] in
/-- The change that a request asks for, if any, in the form in which the store gets it. -/
def change?
    (cache : Cache σ) :
    Request → Option Change
  | .set coordinate record => some (coordinate, some (cache.prepare record))
  | .delete coordinate => some (coordinate, none)
  | _ => none

/-- The change that a request makes: none if it fails. -/
def accepts
    (cache : Cache σ)
    (request : Request) :
    Option Change :=
  if (cache.serve request).result.isOk then cache.change? request else none

/-- The changes of a session that were answered with success, earliest first. -/
def accepted
    (cache : Cache σ) :
    List Request → List Change
  | [] => []
  | request :: rest =>
      (cache.accepts request).toList ++ (cache.serve request).state.accepted rest

end Definitions

section Lockstep

variable {admissible : Record → Prop} {R : σ → τ → Prop} {a : Cache σ} {b : Cache τ}

theorem accepted_lockstep
    (hstores : Store.Lockstep admissible R)
    (h : a.Lockstep admissible R b)
    (session : List Request) :
    a.accepted session = b.accepted session := by
  induction session generalizing a b with
  | nil =>
      rfl
  | cons request rest ih =>
      have hserve := serve_lockstep hstores h request
      have hchange : a.change? request = b.change? request := by
        cases request <;> simp only [change?, prepare, h.traits]
      rw [accepted, accepted, accepts, accepts, hserve.result, hchange, ih hserve.state]

end Lockstep

section Quiet

omit [Store σ] in
/-- The store took no change from one state of a cache to another. -/
def Quiet (before after : Cache (Store.Journaled σ)) : Prop :=
  after.store.journal.changes = before.store.journal.changes

variable (cache : Cache (Store.Journaled σ))

theorem quiet_settle :
    cache.Quiet cache.settle.state :=
  settle_keeps (changes_keepsReading _) rfl

theorem quiet_settleChange :
    cache.Quiet cache.settleChange.state :=
  settleChange_keeps (changes_keepsReading _) rfl

/-- No change is taken by a request that asks for none. -/
theorem quiet_serve
    {request : Request}
    (hreads : request.reads = true) :
    cache.Quiet (cache.serve request).state :=
  serve_keeps_of_reads (changes_keepsReading _) rfl hreads

end Quiet

section Changing

variable (hcommits : ∀ store : σ, (Store.commit store).result = .ok ())
include hcommits

theorem result_commit (cache : Cache σ) :
    cache.commit.result = .ok () := by
  rw [commit]
  split
  · rfl
  · exact hcommits cache.store

theorem result_settle (cache : Cache σ) :
    cache.settle.result = .ok () := by
  rw [settle]
  split
  · rw [Outcome.andThen_of_ok (result_commit hcommits cache)]
    rfl
  · rfl

theorem result_settleChange (cache : Cache σ) :
    cache.settleChange.result = .ok () := by
  rw [settleChange]
  split
  · rfl
  · exact result_settle hcommits cache.countChange

omit hcommits [Store σ] in
/-- What follows a change and neither fails nor makes a change itself does not matter. -/
theorem changes_andThen
    {asked : Outcome (Cache (Store.Journaled σ)) Unit}
    {next : Cache (Store.Journaled σ) → Outcome (Cache (Store.Journaled σ)) Unit}
    {changes : List Change}
    {change : Change}
    (hasked : asked.state.store.journal.changes =
      changes ++ if asked.result.isOk then [change] else [])
    (hquiet : ∀ cache, Quiet cache (next cache).state)
    (hresult : ∀ cache, (next cache).result = .ok ()) :
    let served := asked.andThen fun _ cache => next cache
    served.state.store.journal.changes =
      changes ++ if served.result.isOk then [change] else [] := by
  rcases asked with ⟨result, cache⟩
  cases result with
  | error failure =>
      exact hasked
  | ok _ =>
      show (next cache).state.store.journal.changes =
        changes ++ if (next cache).result.isOk then [change] else []
      rw [hquiet cache, hresult cache]
      exact hasked

variable (cache : Cache (Store.Journaled σ))

theorem changes_set
    (coordinate : Coordinate)
    (record : Record) :
    (cache.set coordinate record).state.store.journal.changes =
      cache.store.journal.changes ++
        if (cache.set coordinate record).result.isOk then
          [(coordinate, some (cache.prepare record))]
        else
          [] := by
  have hsettled (after : Cache (Store.Journaled σ)) : after.settleChange.result = .ok () :=
    result_settleChange (fun store => hcommits store.store) after
  rw [set]
  split
  · exact (List.append_nil _).symm
  · split
    · exact (List.append_nil _).symm
    · exact changes_andThen (changes_note _ _ cache.store) quiet_settleChange hsettled

theorem changes_delete (coordinate : Coordinate) :
    (cache.delete coordinate).state.store.journal.changes =
      cache.store.journal.changes ++
        if (cache.delete coordinate).result.isOk then [(coordinate, none)] else [] := by
  have hsettled (after : Cache (Store.Journaled σ)) : after.settle.result = .ok () :=
    result_settle (fun store => hcommits store.store) after
  rw [delete]
  split
  · exact (List.append_nil _).symm
  · rw [← store_countChange cache]
    exact changes_andThen (changes_note _ _ cache.countChange.store) quiet_settle hsettled

/-- The store takes the change that a request makes, if it makes one. -/
theorem changes_serve (request : Request) :
    (cache.serve request).state.store.journal.changes =
      cache.store.journal.changes ++ (cache.accepts request).toList := by
  cases hreads : request.reads with
  | true =>
      have hnone : cache.change? request = none := by
        cases request <;> first | rfl | cases hreads
      rw [accepts, hnone, ite_self, Option.toList_none, List.append_nil]
      exact quiet_serve cache hreads
  | false =>
      cases request with
      | set coordinate record =>
          have hset := changes_set hcommits cache coordinate record
          rw [accepts, change?, serve, Outcome.isOk_map, Outcome.state_map, hset]
          split <;> rfl
      | delete coordinate =>
          have hdelete := changes_delete hcommits cache coordinate
          rw [accepts, change?, serve, Outcome.isOk_map, Outcome.state_map, hdelete]
          split <;> rfl
      | _ =>
          cases hreads

theorem changes_after (session : List Request) :
    (cache.after session).store.journal.changes =
      cache.store.journal.changes ++ cache.accepted session := by
  induction session generalizing cache with
  | nil =>
      exact (List.append_nil _).symm
  | cons request rest ih =>
      rw [accepted, ← List.append_assoc, ← changes_serve hcommits]
      exact ih (cache.serve request).state

/-- The journal of a session has the accepted changes, whatever else it has. -/
theorem changes_journal
    (cache : Cache σ)
    (session : List Request) :
    (cache.journal session).changes = cache.accepted session := by
  have haccepted := accepted_lockstep Store.Journaled.lockstep (journaled_lockstep cache) session
  rw [journal, changes_after hcommits, haccepted]
  rfl

end Changing
end Cache
end PackageMetadata
