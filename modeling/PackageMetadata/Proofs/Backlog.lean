import PackageMetadata.Proofs.Journal

/-!
# The backlog of a cache

A cache counts changes as pending and commits when there are too many of them.  Whatever its
store does, and whatever fails, the count is never below the number of changes that really
wait for a commit.  So a request that ends by checking the count against the sync rate leaves
no more waiting changes than the sync rate allows.

**Results**

* `settle_cases`: what a check of the backlog can do.
* `counted_serve`, `counted_after`: no request makes the count too small.
* `prompt_get`, `prompt_set`, `prompt_delete`: a request that has checked the backlog leaves
  a lag within the sync rate.
* `lag_commit`: a commit leaves none.
* `lag_set`, `lag_delete`: the lag of a session that ends with a successful change.
-/

namespace PackageMetadata
namespace Cache

universe u v

open Store (Journal)
open Store.Journaled (lag_note lag_note_le)

variable {σ : Type u} {α : Type v} [Store σ]

/-- A cache over a store that collects changes, whose count of pending changes covers all
that are waiting. -/
structure Counted (cache : Cache (Store.Journaled σ)) : Prop where
  batching : cache.traits.autocommits = false
  lag_le : cache.store.journal.lag ≤ cache.pending

omit [Store σ] in
/-- A cache that has no more changes waiting than its sync rate allows. -/
def Prompt (cache : Cache (Store.Journaled σ)) : Prop :=
  cache.store.journal.lag ≤ cache.syncRate

variable {cache : Cache (Store.Journaled σ)}

section Requests

variable (request : Store.Request) (operation : σ → Outcome σ α)

omit [Store σ] in
/-- A request to the store that fails, or asks for no change, leaves the count as good as it
was. -/
theorem counted_note
    (h : cache.Counted)
    (hquiet : request.change? = none ∨ (operation cache.store.store).result.isOk = false) :
    (cache.onStore (Store.Journaled.note request operation)).state.Counted := by
  have hlag := lag_note_le request operation cache.store
  have hnone :
      (if (operation cache.store.store).result.isOk then
        request.change?.toList.length else 0) = 0 := by
    rcases hquiet with hchange | hfailed
    · simp [hchange]
    · simp [hfailed]
  rw [hnone] at hlag
  exact ⟨h.batching, hlag.trans h.lag_le⟩

omit [Store σ] in
/-- One more change is covered if it is counted. -/
theorem counted_change (h : cache.Counted) :
    (cache.countChange.onStore (Store.Journaled.note request operation)).state.Counted := by
  have hlag := lag_note_le request operation cache.store
  have hone : request.change?.toList.length ≤ 1 := Option.length_toList_le
  have hle := h.lag_le
  rw [countChange, h.batching]
  refine ⟨h.batching, ?_⟩
  show (cache.store.note request operation).state.journal.lag ≤ cache.pending + 1
  split at hlag <;> omega

end Requests

section Committing

/-- A backlog that the sync rate allows is left alone. -/
theorem settle_of_le
    {cache : Cache σ}
    (h : cache.pending ≤ cache.syncRate) :
    cache.settle = .done () cache :=
  if_neg (Nat.not_lt_of_le h)

/-- If no change is pending, then the backlog is never too long, not even at a sync rate of
zero. -/
theorem settle_of_no_pending
    {cache : Cache σ}
    (h : cache.pending = 0) :
    cache.settle = .done () cache :=
  settle_of_le (h.le.trans (Nat.zero_le _))

/-- A check of the backlog finds it short enough, or commits it, or fails to commit it.  Only
a commit that succeeds clears the count. -/
theorem settle_cases
    {cache : Cache σ}
    (hbatching : cache.traits.autocommits = false) :
    (cache.pending ≤ cache.syncRate ∧ cache.settle = .done () cache) ∨
    (cache.syncRate < cache.pending ∧ ∃ store,
      Store.commit cache.store = .done () store ∧
      cache.settle = .done () { cache with store := store, pending := 0 }) ∨
    (cache.syncRate < cache.pending ∧ ∃ failure store,
      Store.commit cache.store = .failed failure store ∧
      cache.settle = .failed failure { cache with store := store }) := by
  rw [settle, commit, hbatching, onStore]
  by_cases h : cache.syncRate < cache.pending
  · right
    rcases Store.commit cache.store with ⟨result, store⟩
    cases result with
    | ok _ =>
        left
        exact ⟨h, store, rfl, if_pos h⟩
    | error failure =>
        right
        exact ⟨h, failure, store, rfl, if_pos h⟩
  · left
    exact ⟨Nat.le_of_not_lt h, if_neg h⟩

theorem lag_of_commit_done
    {s t : Store.Journaled σ}
    (h : Store.commit s = .done () t) :
    t.journal.lag = 0 := by
  have hresult : (Store.commit s.store).result = .ok () := congrArg Outcome.result h
  have hlag := lag_note .commit Store.commit s
  rw [hresult] at hlag
  have hstate : (Store.commit s).state = t := congrArg Outcome.state h
  rw [← hstate]
  exact hlag

theorem counted_commit (h : cache.Counted) :
    cache.commit.state.Counted := by
  rw [commit, h.batching]
  exact counted_note .commit Store.commit h (.inl rfl)

theorem counted_settle (h : cache.Counted) :
    cache.settle.state.Counted := by
  obtain ⟨-, hsettle⟩ | ⟨-, store, hcommit, hsettle⟩ | ⟨-, failure, store, hcommit, hsettle⟩ :=
    settle_cases h.batching
  · rw [hsettle]
    exact h
  · rw [hsettle]
    exact ⟨h.batching, (lag_of_commit_done hcommit).le⟩
  · have hstate : store = (Store.commit cache.store).state := by rw [hcommit]; rfl
    rw [hsettle, hstate]
    exact counted_note .commit Store.commit h (.inl rfl)

/-- After a successful check of the backlog no more changes are waiting than the sync rate
allows. -/
theorem prompt_settle
    (h : cache.Counted)
    (hok : cache.settle.result = .ok ()) :
    cache.settle.state.Prompt := by
  obtain ⟨hle, hsettle⟩ | ⟨-, store, hcommit, hsettle⟩ | ⟨-, failure, store, -, hsettle⟩ :=
    settle_cases h.batching
  · rw [hsettle]
    exact h.lag_le.trans hle
  · have hlag := lag_of_commit_done hcommit
    rw [hsettle]
    exact hlag.le.trans (Nat.zero_le _)
  · rw [hsettle] at hok
    cases hok

theorem lag_commit
    (hbatching : cache.traits.autocommits = false)
    (hok : cache.commit.result = .ok ()) :
    cache.commit.state.store.journal.lag = 0 := by
  rw [commit, hbatching] at hok ⊢
  have hresult : (Store.commit cache.store).result = .ok () := hok
  exact lag_of_commit_done (Outcome.eq_of_result hresult)

end Committing

section Reading

theorem counted_get
    (h : cache.Counted)
    (coordinate : Coordinate) :
    (cache.get coordinate).state.Counted := by
  refine Outcome.state_andThen (fun _ _ => counted_settle h) fun _ _ => ?_
  have hfetch := counted_note (.fetch coordinate) (Store.fetch coordinate)
    (counted_settle h) (.inl rfl)
  exact Outcome.state_andThen (fun _ _ => hfetch) fun _ _ => hfetch

theorem counted_items (h : cache.Counted) :
    cache.items.state.Counted :=
  items_of_get (fun _ coordinate h => counted_get h coordinate)
    (counted_note .keys Store.keys h (.inl rfl))

omit [Store σ] in
/-- A request to the store that asks for no change adds nothing to the lag. -/
theorem prompt_note
    {request : Store.Request}
    (operation : σ → Outcome σ α)
    (h : cache.Prompt)
    (hquiet : request.change? = none) :
    (cache.onStore (Store.Journaled.note request operation)).state.Prompt := by
  have hlag := lag_note_le request operation cache.store
  rw [hquiet, Option.toList_none, List.length_nil, ite_self] at hlag
  exact hlag.trans h

/-- After a record was fetched, or not found, no more changes are waiting than the sync rate
allows. -/
theorem prompt_get
    (h : cache.Counted)
    (coordinate : Coordinate)
    (hok : cache.settle.result = .ok ()) :
    (cache.get coordinate).state.Prompt := by
  have hsettle := prompt_settle h hok
  refine Outcome.state_andThen (fun _ _ => hsettle) fun _ _ => ?_
  have hfetch : (cache.settle.state.onStore (Store.fetch coordinate)).state.Prompt :=
    prompt_note (Store.fetch coordinate) hsettle rfl
  exact Outcome.state_andThen (fun _ _ => hfetch) fun _ _ => hfetch

end Reading

section Changing

/-- The check that follows a change is the same whether the change was counted before or after
the store was asked. -/
theorem settleChange_onStore
    {cache : Cache σ}
    (hbatching : cache.traits.autocommits = false)
    (operation : σ → Outcome σ α) :
    (cache.onStore operation).state.settleChange =
      (cache.countChange.onStore operation).state.settle := by
  have hafter : (cache.onStore operation).state.traits.autocommits = false := hbatching
  rw [settleChange, hafter, countChange, countChange, hafter, hbatching]
  rfl

theorem counted_set
    (h : cache.Counted)
    (coordinate : Coordinate)
    (record : Record) :
    (cache.set coordinate record).state.Counted := by
  rw [set]
  split
  · exact h
  · split
    · exact h
    · -- A record that the store refuses is not counted, so nothing may be waiting for it.
      refine Outcome.state_andThen (fun failure hfailed => ?_) fun _ _ => ?_
      · have hresult : (Store.write coordinate (cache.prepare record) cache.store.store).result =
            .error failure := hfailed
        exact counted_note _ _ h (.inr (by rw [hresult]; rfl))
      · rw [settleChange_onStore h.batching]
        exact counted_settle (counted_change _ _ h)

theorem prompt_set
    (h : cache.Counted)
    {coordinate : Coordinate}
    {record : Record}
    (hok : (cache.set coordinate record).result = .ok ()) :
    (cache.set coordinate record).state.Prompt := by
  rw [set] at hok ⊢
  split at hok
  · cases hok
  · split at hok
    · cases hok
    · rename_i hwritable _ _
      rw [if_neg hwritable]
      obtain ⟨_, -, hsettled, hstate⟩ := Outcome.result_andThen_eq_ok hok
      rw [settleChange_onStore h.batching] at hsettled hstate
      rw [hstate]
      exact prompt_settle (counted_change _ _ h) hsettled

theorem counted_delete
    (h : cache.Counted)
    (coordinate : Coordinate) :
    (cache.delete coordinate).state.Counted := by
  have hchange := counted_change (.delete coordinate) (Store.delete coordinate) h
  rw [delete]
  split
  · exact h
  · exact Outcome.state_andThen (fun _ _ => hchange) fun _ _ => counted_settle hchange

theorem prompt_delete
    (h : cache.Counted)
    {coordinate : Coordinate}
    (hok : (cache.delete coordinate).result = .ok ()) :
    (cache.delete coordinate).state.Prompt := by
  have hchange := counted_change (.delete coordinate) (Store.delete coordinate) h
  rw [delete] at hok ⊢
  split at hok
  · cases hok
  · rename_i hwritable
    rw [if_neg hwritable]
    obtain ⟨_, -, hsettled, hstate⟩ := Outcome.result_andThen_eq_ok hok
    rw [hstate]
    exact prompt_settle hchange hsettled

theorem counted_sync
    (h : cache.Counted)
    (rate : Nat) :
    (cache.sync rate).state.Counted := by
  have hrate : Counted { cache with syncRate := rate } := ⟨h.batching, h.lag_le⟩
  rw [sync]
  split
  · exact counted_commit hrate
  · exact hrate

end Changing

/-- No request makes the count too small. -/
theorem counted_serve
    (h : cache.Counted)
    (request : Request) :
    (cache.serve request).state.Counted := by
  cases request with
  | get coordinate =>
      exact counted_get h coordinate
  | set coordinate record =>
      exact counted_set h coordinate record
  | delete coordinate =>
      exact counted_delete h coordinate
  | contains coordinate =>
      exact counted_note (.contains coordinate) (Store.contains coordinate) h (.inl rfl)
  | keys =>
      exact counted_note .keys Store.keys h (.inl rfl)
  | items =>
      exact counted_items h
  | sync rate =>
      exact counted_sync h rate
  | commit =>
      exact counted_commit h

theorem counted_after
    (h : cache.Counted)
    (session : List Request) :
    (cache.after session).Counted :=
  after_of_serve (P := Counted) (fun _ request h => counted_serve h request) h session

section Sessions

variable {cache : Cache σ} (session : List Request)

/-- The policy of a cache is the same whether or not its store keeps a journal, and so is the
sync rate that bounds the lag. -/
theorem lag_le_of_prompt
    {request : Request}
    (h : ((cache.journaled.after session).serve request).state.Prompt) :
    (cache.journal (session ++ [request])).lag ≤
      ((cache.after session).serve request).state.syncRate := by
  have hserve := serve_lockstep Store.Journaled.lockstep (after_journaled cache session) request
  rw [journal_concat, ← hserve.state.syncRate]
  exact h

variable (hbatching : cache.traits.autocommits = false)
include hbatching

theorem counted_journal :
    (cache.journaled.after session).Counted :=
  counted_after ⟨hbatching, Nat.zero_le _⟩ session

theorem lag_set
    {coordinate : Coordinate}
    {record : Record}
    (hok : ((cache.after session).serve (.set coordinate record)).result.isOk) :
    (cache.journal (session ++ [.set coordinate record])).lag ≤
      ((cache.after session).serve (.set coordinate record)).state.syncRate := by
  have hserve := serve_lockstep Store.Journaled.lockstep (after_journaled cache session)
    (.set coordinate record)
  rw [← hserve.result, serve, Outcome.isOk_map] at hok
  exact lag_le_of_prompt session
    (prompt_set (counted_journal session hbatching) (Outcome.eq_ok_of_isOk hok))

theorem lag_delete
    {coordinate : Coordinate}
    (hok : ((cache.after session).serve (.delete coordinate)).result.isOk) :
    (cache.journal (session ++ [.delete coordinate])).lag ≤
      ((cache.after session).serve (.delete coordinate)).state.syncRate := by
  have hserve := serve_lockstep Store.Journaled.lockstep (after_journaled cache session)
    (.delete coordinate)
  rw [← hserve.result, serve, Outcome.isOk_map] at hok
  exact lag_le_of_prompt session
    (prompt_delete (counted_journal session hbatching) (Outcome.eq_ok_of_isOk hok))

end Sessions

end Cache
end PackageMetadata
