import PackageMetadata.Proofs.ReadOnly

/-!
# Commits through caches that are read only

A read-only cache refuses every change, but it passes a commit on that is asked for by name.  Over
a store in memory this is the only way in which such a cache changes its store: what is staged when
the cache is built becomes durable with the first commit, later ones find nothing more to do, and
each of them is counted.  As long as nobody asks for a commit the store stays as it is.

**Definitions**

* `committedTimes`: a store in memory after some commits.
* `Request.commits`: a request asks for a commit by name.
* `commitsAsked`: how many commits a session passes on to the store.

**Results**

* `committedTimes_commit`: commits add up.
* `store_serve_of_sealed`: what one request does to the store of a sealed cache.
* `store_after_of_sealed`: what a session does to it.
* `durable_iff_no_commit`: when the store of a read-only cache stays as it is, and what becomes of
  it otherwise.
-/

namespace PackageMetadata

universe u

namespace MemoryStore

/-- A store after some commits: if there was one, then all that is read is committed. -/
def committedTimes
    (store : MemoryStore)
    (times : Nat) :
    MemoryStore :=
  { store with
    committed := if times = 0 then store.committed else store.overlay
    staged := if times = 0 then store.staged else ∅
    commits := store.commits + times }

variable (store : MemoryStore) (times : Nat)

theorem committedTimes_commit :
    store.commit.committedTimes times = store.committedTimes (times + 1) := by
  have hcommits : store.commits + 1 + times = store.commits + (times + 1) := by omega
  have hcommitted :
      (if times = 0 then store.commit.committed else store.commit.overlay) = store.overlay := by
    rw [committed_commit, overlay_commit, ite_self]
  have hstaged : (if times = 0 then store.commit.staged else ∅) = ∅ := ite_self _
  rw [committedTimes, committedTimes, hcommitted, hstaged, if_neg times.succ_ne_zero,
    if_neg times.succ_ne_zero, ← hcommits]
  rfl

/-- The count of commits tells how many there were. -/
theorem committedTimes_eq_self_iff :
    store.committedTimes times = store ↔ times = 0 := by
  constructor
  · intro h
    have hcommits : store.commits + times = store.commits := congrArg MemoryStore.commits h
    omega
  · rintro rfl
    rfl

/-- The records stay in their places if there was no commit, or nothing to be committed. -/
theorem kept_committedTimes_iff :
    (store.committedTimes times).committed = store.committed ∧
        (store.committedTimes times).staged = store.staged ↔
      times = 0 ∨ store.staged = ∅ := by
  by_cases htimes : times = 0
  · simp [committedTimes, htimes]
  · simp only [committedTimes, htimes, if_false, false_or]
    constructor
    · rintro ⟨-, hstaged⟩
      exact hstaged.symm
    · intro hstaged
      exact ⟨overlay_eq_committed hstaged, hstaged.symm⟩

end MemoryStore

namespace Cache

section Definitions

/-- Whether a request asks for a commit by name. -/
def Request.commits : Request → Bool
  | .sync rate => rate == 0
  | .commit => true
  | _ => false

/-- The number of commits that a session passes on to the store: those that are asked for by name,
and none if the store commits by itself. -/
def commitsAsked
    {σ : Type u}
    (cache : Cache σ)
    (session : List Request) :
    Nat :=
  if cache.traits.autocommits then 0 else session.countP Request.commits

end Definitions

variable {cache : Cache MemoryStore}

section Serving

/-- A sealed cache leaves its store alone unless it is asked for a commit. -/
theorem store_serve_of_not_commits
    (h : cache.Sealed)
    {request : Request}
    (hcommits : request.commits = false) :
    (cache.serve request).state.store = cache.store := by
  have hpresents : cache.Presents cache.traits cache.store.overlay := ⟨h, rfl, rfl⟩
  cases hobserves : request.observes with
  | true =>
      rw [(observe_related hpresents hpresents hobserves).state.1]
  | false =>
      cases request with
      | set coordinate record =>
          rw [serve_of_sealed h rfl]
          rfl
      | delete coordinate =>
          rw [serve_of_sealed h rfl]
          rfl
      | sync rate =>
          have hrate : rate ≠ 0 := beq_eq_false_iff_ne.mp hcommits
          rw [serve, sync, if_neg hrate]
          rfl
      | commit =>
          cases hcommits
      | _ =>
          cases hobserves

theorem store_commit (cache : Cache MemoryStore) :
    cache.commit.state.store =
      if cache.traits.autocommits then cache.store else cache.store.commit := by
  rw [commit]
  split
  · rfl
  · rfl

/-- A commit that is asked for by name reaches the store of every cache, unless the store commits
by itself. -/
theorem store_serve_of_commits
    (cache : Cache MemoryStore)
    {request : Request}
    (hcommits : request.commits = true) :
    (cache.serve request).state.store =
      if cache.traits.autocommits then cache.store else cache.store.commit := by
  cases request with
  | sync rate =>
      obtain rfl : rate = 0 := beq_iff_eq.mp hcommits
      exact store_commit { cache with syncRate := 0 }
  | commit =>
      exact store_commit cache
  | _ =>
      cases hcommits

end Serving

section Sessions

/-- The commits of a session add up, and nothing else happens to the store. -/
theorem store_after_of_sealed
    (h : cache.Sealed)
    (session : List Request) :
    (cache.after session).store = cache.store.committedTimes (cache.commitsAsked session) := by
  induction session generalizing cache with
  | nil =>
      rw [commitsAsked, List.countP_nil, ite_self]
      rfl
  | cons request rest ih =>
      have hpresents : cache.Presents cache.traits cache.store.overlay := ⟨h, rfl, rfl⟩
      have htraits := (presents_serve hpresents request).traits
      have hrest := ih (sealed_serve h request)
      refine hrest.trans ?_
      rw [commitsAsked, commitsAsked, htraits]
      cases hcommits : request.commits with
      | false =>
          rw [store_serve_of_not_commits h hcommits, List.countP_cons_of_neg (by simp [hcommits])]
      | true =>
          rw [store_serve_of_commits cache hcommits, List.countP_cons_of_pos hcommits]
          split
          · rfl
          · exact MemoryStore.committedTimes_commit _ _

/-- The store in memory of a read-only cache, in any session.  It stays as it is exactly if no
commit is asked for by name.  Otherwise all that was staged becomes durable and each commit is
counted, so its records stay in their places only if none was staged.  No change is ever
accepted. -/
theorem durable_iff_no_commit
    (store : MemoryStore)
    (config : Config)
    (hreadOnly : config.readOnly = true ∨ store.traits.readOnly = true)
    (session : List Request) :
    let cache := ofStore store config
    let after := (cache.after session).store
    let asked := cache.commitsAsked session
    (after = store ↔ asked = 0) ∧
      (after.committed = store.committed ∧ after.staged = store.staged ↔
        asked = 0 ∨ store.staged = ∅) ∧
      (asked ≠ 0 → after.committed = store.overlay ∧ after.staged = ∅) ∧
      after.writes = store.writes ∧
      after.commits = store.commits + asked := by
  intro cache after asked
  have hafter : after = store.committedTimes asked :=
    store_after_of_sealed (sealed_ofStore hreadOnly) session
  rw [hafter]
  refine ⟨MemoryStore.committedTimes_eq_self_iff store asked,
    MemoryStore.kept_committedTimes_iff store asked, fun hasked => ?_, rfl, rfl⟩
  exact ⟨if_neg hasked, if_neg hasked⟩

/-- A record is staged when a store is told to take no more changes.  A cache that is built then
refuses to take the record out, lets it be read, and commits it. -/
theorem durable_iff_no_commit_staged :
    let coordinate : Coordinate := ⟨"dev-libs", "a", "1", rfl, rfl, rfl⟩
    let store := (MemoryStore.empty.accept coordinate (some ∅)).state.readOnly
    let cache := ofStore store {}
    store.traits.readOnly = true ∧
      (cache.after [.delete coordinate, .get coordinate]).store = store ∧
      (cache.after [.sync 0, .commit]).store.commits = 2 := by
  intro coordinate store cache
  have hreadOnly : store.traits.readOnly = true := rfl
  obtain ⟨hkept, -⟩ :=
    durable_iff_no_commit store {} (.inr hreadOnly) [.delete coordinate, .get coordinate]
  obtain ⟨-, -, -, -, hcounted⟩ :=
    durable_iff_no_commit store {} (.inr hreadOnly) [.sync 0, .commit]
  exact ⟨hreadOnly, hkept.mpr rfl, hcounted⟩

/-- A record that is staged when a store is told to take no more changes becomes durable through a
read-only cache. -/
theorem sealed_store_changed :
    let coordinate : Coordinate := ⟨"dev-libs", "a", "1", rfl, rfl, rfl⟩
    let store := (MemoryStore.empty.accept coordinate (some ∅)).state.readOnly
    let cache := ofStore store {}
    let after := (cache.after [.commit]).store
    cache.readOnly = true ∧
      store.committed.contains coordinate = false ∧ after.committed.contains coordinate = true ∧
      store.staged.contains coordinate = true ∧ after.staged.contains coordinate = false ∧
      store.commits = 0 ∧ after.commits = 1 := by
  decide

end Sessions

end Cache
end PackageMetadata
