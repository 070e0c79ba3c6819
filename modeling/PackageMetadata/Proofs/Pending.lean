import PackageMetadata.Proofs.Backlog
import PackageMetadata.Store.Rehearsed

/-!
# The count of pending changes over any store

Nothing is known here about the store of a cache: each of its operations may fail at any time
and leave it in any state.  Still the count of pending changes covers all changes that wait for
a commit, and no record is fetched while more of them wait than the sync rate allows.  Over a
store that commits by itself nothing is counted and nothing is committed.

**Results**

* `paced_serve`: when a request fetches records.
* `immediate_serve`, `immediate_after`: nothing is counted over a store that commits by itself.
* `lag_le_pending`: both kinds of stores, in every session.
-/

namespace PackageMetadata

universe u v

namespace Store.Journal

section Fetching

/-- A journal in which records were fetched only while the lag was within a rate, as far as it
goes on behind a first part. -/
def FetchesWithin
    (journal : Journal)
    (rate : Nat)
    (base : Journal) :
    Prop :=
  ∀ (earlier : Journal) (coordinate : Coordinate) (succeeded : Bool), base <+: earlier →
    earlier ++ [⟨.fetch coordinate, succeeded⟩] <+: journal → earlier.lag ≤ rate

variable {base journal : Journal} {rate : Nat}

theorem fetchesWithin_self :
    base.FetchesWithin rate base := by
  intro earlier coordinate succeeded hbase hfetch
  have hlonger := hfetch.length_le
  have hshorter := hbase.length_le
  rw [List.length_append, List.length_singleton] at hlonger
  omega

/-- What is added to a journal may be a fetch only if the lag is within the rate by then. -/
theorem fetchesWithin_concat
    {attempt : Attempt}
    (h : journal.FetchesWithin rate base)
    (hlag : ∀ coordinate, attempt.request = .fetch coordinate → journal.lag ≤ rate) :
    (journal ++ [attempt]).FetchesWithin rate base := by
  intro earlier coordinate succeeded hbase hfetch
  rcases List.prefix_concat_iff.mp hfetch with heq | hfetch
  · obtain ⟨rfl, hlast⟩ := List.append_inj' heq rfl
    refine hlag coordinate ?_
    rw [← List.singleton_inj.mp hlast]
  · exact h earlier coordinate succeeded hbase hfetch

end Fetching

end Store.Journal

namespace Cache

open Store (Journal)
open Store.Journal (fetchesWithin_self fetchesWithin_concat)

variable {σ : Type u} {α : Type v} [Store σ] {cache : Cache (Store.Journaled σ)}

section Pace

omit [Store σ] in
/-- A cache that has fetched records, since a given journal, only while no more changes were
waiting than its sync rate allows. -/
def Paced
    (base : Journal)
    (cache : Cache (Store.Journaled σ)) :
    Prop :=
  cache.store.journal.FetchesWithin cache.syncRate base

variable {base : Journal}

omit [Store σ] in
theorem paced_self :
    cache.Paced cache.store.journal :=
  fetchesWithin_self

omit [Store σ] in
theorem paced_note
    {request : Store.Request}
    (operation : σ → Outcome σ α)
    (h : cache.Paced base)
    (hother : ∀ coordinate, request ≠ .fetch coordinate) :
    (cache.onStore (Store.Journaled.note request operation)).state.Paced base :=
  fetchesWithin_concat h fun coordinate hfetch => absurd hfetch (hother coordinate)

theorem paced_fetch
    (h : cache.Paced base)
    (hprompt : cache.Prompt)
    (coordinate : Coordinate) :
    (cache.onStore (Store.fetch coordinate)).state.Paced base :=
  fetchesWithin_concat h fun _ _ => hprompt

theorem paced_commit (h : cache.Paced base) :
    cache.commit.state.Paced base := by
  rw [commit]
  split
  · exact h
  · exact paced_note Store.commit h (by simp)

theorem paced_settle (h : cache.Paced base) :
    cache.settle.state.Paced base := by
  have hcommit := paced_commit h
  rw [settle]
  split
  · exact Outcome.state_andThen (fun _ _ => hcommit) fun _ _ => hcommit
  · exact h

omit [Store σ] in
theorem paced_countChange (h : cache.Paced base) :
    cache.countChange.Paced base := by
  rw [countChange]
  split
  · exact h
  · exact h

/-- A record is fetched only after the check of the backlog has succeeded. -/
theorem paced_get
    (hcounted : cache.Counted)
    (h : cache.Paced base)
    (coordinate : Coordinate) :
    (cache.get coordinate).state.Paced base := by
  refine Outcome.state_andThen (fun _ _ => paced_settle h) fun _ hsettled => ?_
  have hfetch := paced_fetch (paced_settle h) (prompt_settle hcounted hsettled) coordinate
  exact Outcome.state_andThen (fun _ _ => hfetch) fun _ _ => hfetch

theorem paced_items
    (hcounted : cache.Counted)
    (h : cache.Paced base) :
    cache.items.state.Paced base := by
  have hkeys : cache.keys.state.Counted ∧ cache.keys.state.Paced base :=
    ⟨counted_note .keys Store.keys hcounted (.inl rfl), paced_note Store.keys h (by simp)⟩
  -- The count has to be kept along the way, since each record is fetched on its account.
  have hitems : cache.items.state.Counted ∧ cache.items.state.Paced base :=
    items_of_get (P := fun cache => cache.Counted ∧ cache.Paced base)
      (fun _ coordinate h => ⟨counted_get h.1 coordinate, paced_get h.1 h.2 coordinate⟩) hkeys
  exact hitems.2

theorem paced_set
    (h : cache.Paced base)
    (coordinate : Coordinate)
    (record : Record) :
    (cache.set coordinate record).state.Paced base := by
  rw [set]
  split
  · exact h
  · split
    · exact h
    · have hwrite : (cache.onStore
          (Store.write coordinate (cache.prepare record))).state.Paced base :=
        paced_note (Store.write coordinate (cache.prepare record)) h (by simp)
      refine Outcome.state_andThen (fun _ _ => hwrite) fun _ _ => ?_
      rw [settleChange]
      split
      · exact hwrite
      · exact paced_settle (paced_countChange hwrite)

theorem paced_delete
    (h : cache.Paced base)
    (coordinate : Coordinate) :
    (cache.delete coordinate).state.Paced base := by
  rw [delete]
  split
  · exact h
  · have hdelete : (cache.countChange.onStore (Store.delete coordinate)).state.Paced base :=
      paced_note (Store.delete coordinate) (paced_countChange h) (by simp)
    exact Outcome.state_andThen (fun _ _ => hdelete) fun _ _ => paced_settle hdelete

theorem paced_sync (rate : Nat) :
    (cache.sync rate).state.Paced cache.store.journal := by
  have hrate : Paced cache.store.journal { cache with syncRate := rate } := fetchesWithin_self
  rw [sync]
  split
  · exact paced_commit hrate
  · exact hrate

/-- Whatever a request fetches it fetches while no more changes are waiting than the sync rate
allows. -/
theorem paced_serve
    (hcounted : cache.Counted)
    (request : Request) :
    (cache.serve request).state.Paced cache.store.journal := by
  cases request with
  | get coordinate =>
      exact paced_get hcounted paced_self coordinate
  | set coordinate record =>
      exact paced_set paced_self coordinate record
  | delete coordinate =>
      exact paced_delete paced_self coordinate
  | contains coordinate =>
      exact paced_note (Store.contains coordinate) paced_self (by simp)
  | keys =>
      exact paced_note Store.keys paced_self (by simp)
  | items =>
      exact paced_items hcounted paced_self
  | sync rate =>
      exact paced_sync rate
  | commit =>
      exact paced_commit paced_self

end Pace

section Immediate

/-- A cache over a store that commits by itself, which has counted no change and asked for no
commit. -/
structure Immediate (cache : Cache (Store.Journaled σ)) : Prop where
  autocommits : cache.traits.autocommits = true
  pending : cache.pending = 0
  commits : ∀ attempt ∈ cache.store.journal, attempt.request ≠ .commit

theorem commit_of_immediate (h : cache.Immediate) :
    cache.commit = .done () cache :=
  if_pos h.autocommits

omit [Store σ] in
theorem countChange_of_immediate (h : cache.Immediate) :
    cache.countChange = cache :=
  if_pos h.autocommits

omit [Store σ] in
theorem immediate_note
    {request : Store.Request}
    (operation : σ → Outcome σ α)
    (h : cache.Immediate)
    (hother : request ≠ .commit) :
    (cache.onStore (Store.Journaled.note request operation)).state.Immediate := by
  refine ⟨h.autocommits, h.pending, fun attempt hattempt => ?_⟩
  rcases List.mem_append.mp hattempt with hearlier | hlast
  · exact h.commits attempt hearlier
  · rw [List.mem_singleton.mp hlast]
    exact hother

theorem immediate_get
    (h : cache.Immediate)
    (coordinate : Coordinate) :
    (cache.get coordinate).state.Immediate := by
  have hfetch : (cache.onStore (Store.fetch coordinate)).state.Immediate :=
    immediate_note (Store.fetch coordinate) h (by simp)
  rw [get, settle_of_no_pending h.pending, Outcome.andThen_done]
  exact Outcome.state_andThen (fun _ _ => hfetch) fun _ _ => hfetch

theorem immediate_set
    (h : cache.Immediate)
    (coordinate : Coordinate)
    (record : Record) :
    (cache.set coordinate record).state.Immediate := by
  rw [set]
  split
  · exact h
  · split
    · exact h
    · have hwrite : (cache.onStore
          (Store.write coordinate (cache.prepare record))).state.Immediate :=
        immediate_note (Store.write coordinate (cache.prepare record)) h (by simp)
      refine Outcome.state_andThen (fun _ _ => hwrite) fun _ _ => ?_
      rw [settleChange, if_pos hwrite.autocommits]
      exact hwrite

theorem immediate_delete
    (h : cache.Immediate)
    (coordinate : Coordinate) :
    (cache.delete coordinate).state.Immediate := by
  have hdelete : (cache.onStore (Store.delete coordinate)).state.Immediate :=
    immediate_note (Store.delete coordinate) h (by simp)
  rw [delete, countChange_of_immediate h]
  split
  · exact h
  · refine Outcome.state_andThen (fun _ _ => hdelete) fun _ _ => ?_
    rw [settle_of_no_pending hdelete.pending]
    exact hdelete

theorem immediate_commit (h : cache.Immediate) :
    cache.commit.state.Immediate := by
  rw [commit_of_immediate h]
  exact h

theorem immediate_sync
    (h : cache.Immediate)
    (rate : Nat) :
    (cache.sync rate).state.Immediate := by
  have hrate : Immediate { cache with syncRate := rate } := ⟨h.autocommits, h.pending, h.commits⟩
  rw [sync]
  split
  · exact immediate_commit hrate
  · exact hrate

/-- No request is counted, and none commits. -/
theorem immediate_serve
    (h : cache.Immediate)
    (request : Request) :
    (cache.serve request).state.Immediate := by
  cases request with
  | get coordinate =>
      exact immediate_get h coordinate
  | set coordinate record =>
      exact immediate_set h coordinate record
  | delete coordinate =>
      exact immediate_delete h coordinate
  | contains coordinate =>
      exact immediate_note (Store.contains coordinate) h (by simp)
  | keys =>
      exact immediate_note Store.keys h (by simp)
  | items =>
      exact items_of_get (fun _ coordinate h => immediate_get h coordinate)
        (immediate_note Store.keys h (by simp))
  | sync rate =>
      exact immediate_sync h rate
  | commit =>
      exact immediate_commit h

theorem immediate_after
    (h : cache.Immediate)
    (session : List Request) :
    (cache.after session).Immediate :=
  after_of_serve (P := Immediate) (fun _ request h => immediate_serve h request) h session

end Immediate

section Sessions

variable {cache : Cache σ} (session : List Request)

theorem fetchesWithin_journal
    (hbatching : cache.traits.autocommits = false)
    (request : Request) :
    (cache.journal (session ++ [request])).FetchesWithin
      ((cache.after session).serve request).state.syncRate (cache.journal session) := by
  have hserve := serve_lockstep Store.Journaled.lockstep (after_journaled cache session) request
  have hpaced := paced_serve (counted_journal session hbatching) request
  rw [journal_concat, ← hserve.state.syncRate]
  exact hpaced

/-- The count of pending changes of a cache over any store, in any session.

If the store commits by itself then no change is counted and no commit is asked for.  If it
collects changes then the count covers all changes that the store took since its last
successful commit.  There are no more of them than the sync rate allows after a record was
stored or taken out with success, and whenever a record is fetched. -/
theorem lag_le_pending
    (store : σ)
    (config : Config) :
    let cache := ofStore store config
    if (Store.capabilities store).autocommits then
      ∀ session,
        (cache.after session).pending = 0 ∧
        ∀ attempt ∈ cache.journal session, attempt.request ≠ .commit
    else
      ∀ session,
        (cache.journal session).lag ≤ (cache.after session).pending ∧
        ∀ request,
          let served := (cache.after session).serve request
          let journal := cache.journal (session ++ [request])
          ((∃ coordinate record, request = .set coordinate record) → served.result.isOk →
            journal.lag ≤ served.state.syncRate) ∧
          ((∃ coordinate, request = .delete coordinate) → served.result.isOk →
            journal.lag ≤ served.state.syncRate) ∧
          journal.FetchesWithin served.state.syncRate (cache.journal session) := by
  intro cache
  split
  · rename_i hauto
    have hstart : cache.journaled.Immediate := ⟨hauto, rfl, nofun⟩
    intro session
    have himmediate := immediate_after hstart session
    refine ⟨?_, himmediate.commits⟩
    rw [← (after_journaled cache session).pending]
    exact himmediate.pending
  · rename_i hnot
    have hbatching : cache.traits.autocommits = false := Bool.eq_false_iff.mpr hnot
    refine fun session => ⟨?_, fun request => ⟨?_, ?_, fetchesWithin_journal session hbatching _⟩⟩
    · rw [← (after_journaled cache session).pending]
      exact (counted_journal session hbatching).lag_le
    · rintro ⟨coordinate, record, rfl⟩ hok
      exact lag_set session hbatching hok
    · rintro ⟨coordinate, rfl⟩ hok
      exact lag_delete session hbatching hok

/-- A commit that fails leaves the count as it is, so the next check of the backlog tries
again. -/
example :
    let coordinate : Coordinate := ⟨"dev-libs", "a", "1", rfl, rfl, rfl⟩
    let store := RehearsedStore.arm {} .commit 1
    let cache := ofStore store { syncRate := 0 }
    let failed := cache.after [.set coordinate ∅]
    (cache.journal [.set coordinate ∅]).lag = 1 ∧ failed.pending = 1 ∧
      (failed.serve (.get coordinate)).state.pending = 0 := by
  decide

end Sessions

end Cache
end PackageMetadata
