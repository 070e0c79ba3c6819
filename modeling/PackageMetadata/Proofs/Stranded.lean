import Mathlib.Data.List.Induction
import PackageMetadata.Proofs.Journal
import PackageMetadata.Proofs.OverlayRuns

/-!
# Stores in memory: how long a change lasts

A store in memory may be told at any time that it commits by itself from there on.  Its changes go
to the committed records then, but whoever reads it still prefers what is staged.  So a change that
was staged by that time is *stranded*: it hides every later change of its coordinate, and the next
commit puts it in the place of the later one.

Nothing else can happen to a change that was accepted.  Unless a different one is stranded, it is
read until the next change of its coordinate is accepted, and no commit brings an earlier one back.

**Definitions**

* `makes`: the change that a step makes in a store.
* `Spares`: no step makes a change of a coordinate.
* `Stranded`: a change was staged when the store was told to commit by itself, and still is.
* `Lasts`: a change is read, and stays committed, as long as its coordinate is spared.

**Results**

* `stepped_step`: the ways in which a step can leave a store.
* `visible?_after`, `get?_committed_after`: what is read and committed while a coordinate is spared.
* `visible?_accept`: what is read after a change.
* `stranded?_after`: which changes of a run are stranded.
* `not_stranded_of_orderly`: an orderly run strands none.
* `lasts_iff_not_stranded`: which changes last, and what becomes of the others.
-/

namespace PackageMetadata
namespace MemoryStore

open Store (Change)

section Definitions

/-- The change that a step asks for, if any. -/
def Step.change? : Step → Option Change
  | .write coordinate record => some (coordinate, some record)
  | .delete coordinate => some (coordinate, none)
  | _ => none

/-- The change that a step makes in a store: none if the store refuses it. -/
def makes
    (store : MemoryStore)
    (step : Step) :
    Option Change :=
  if (store.step step).result.isOk then step.change? else none

/-- No step makes a change of a coordinate. -/
def Spares
    (store : MemoryStore)
    (coordinate : Coordinate) :
    List Step → Prop
  | [] => True
  | step :: rest =>
      (∀ change, store.makes step ≠ some (coordinate, change)) ∧
        (store.step step).state.Spares coordinate rest

/-- The change that waits for a commit in a store which commits by itself. -/
def stranded?
    (store : MemoryStore)
    (coordinate : Coordinate) :
    Option (Option Record) :=
  if store.traits.autocommits then store.staged.get? coordinate else none

/-- A change was staged when the store was told to commit by itself, and there was no commit
since. -/
def Stranded
    (steps : List Step)
    (coordinate : Coordinate)
    (change : Option Record) :
    Prop :=
  ∃ before later,
    steps = before ++ .setUp .autocommitting :: later ∧
      (empty.after before).staged.get? coordinate = some change ∧ .commit ∉ later

/-- What is answered to a reader of a coordinate that has the given record, if any. -/
def reading
    (store : MemoryStore)
    (coordinate : Coordinate)
    (held : Option Record) :
    Outcome MemoryStore Record :=
  match held with
  | some record => .done record store
  | none => .failed (.noEntry coordinate) store

/-- A change of a coordinate lasts: until the next one is made it is what reading answers, and
once it is committed it stays committed, whatever is committed later. -/
structure Lasts
    (store : MemoryStore)
    (coordinate : Coordinate)
    (change : Option Record) :
    Prop where
  fetch : ∀ later, store.Spares coordinate later →
    Store.fetch coordinate (store.after later) = (store.after later).reading coordinate change
  committed : ∀ later, store.Spares coordinate later →
    store.traits.autocommits = true ∨ .commit ∈ later →
      (store.after later).committed.get? coordinate = change

/-- How a step can leave a store. -/
inductive Stepped (store : MemoryStore) : Step → MemoryStore → Prop
  /-- A change is refused. -/
  | refused
      (step : Step)
      (hasked : step.change?.isSome = true)
      (hmakes : store.makes step = none) :
      Stepped store step store
  /-- A change is made. -/
  | changed
      (step : Step)
      (coordinate : Coordinate)
      (change : Option Record)
      (hwritable : store.traits.readOnly = false)
      (hmakes : store.makes step = some (coordinate, change)) :
      Stepped store step (store.accept coordinate change).state
  /-- What is staged is committed. -/
  | committed :
      Stepped store .commit store.commit
  /-- The store is set up anew. -/
  | setUp
      (setting : Setting) :
      Stepped store (.setUp setting) (store.setUp setting)

end Definitions

variable {store : MemoryStore} {coordinate : Coordinate} {change : Option Record}

section Steps

/-- A change that is put to a store is refused or made. -/
theorem stepped_accept
    {step : Step}
    (haccept : store.step step = store.accept coordinate change)
    (hchange : step.change? = some (coordinate, change)) :
    Stepped store step (store.step step).state := by
  cases hreadOnly : store.traits.readOnly with
  | true =>
      have hrefused : store.accept coordinate change = .failed .readOnly store := if_pos hreadOnly
      have hmakes : store.makes step = none := by
        rw [makes, haccept, hrefused]
        rfl
      rw [haccept, hrefused]
      exact .refused step (by rw [hchange]; rfl) hmakes
  | false =>
      have hmakes : store.makes step = some (coordinate, change) := by
        rw [makes, haccept, result_accept coordinate change hreadOnly]
        exact hchange
      rw [haccept]
      exact .changed step coordinate change hreadOnly hmakes

theorem stepped_step
    (store : MemoryStore)
    (step : Step) :
    Stepped store step (store.step step).state := by
  cases step with
  | write coordinate record =>
      exact stepped_accept rfl rfl
  | delete coordinate =>
      cases hfound : store.overlay.contains coordinate with
      | true =>
          have haccept : store.step (.delete coordinate) = store.accept coordinate none := by
            rw [step, delete_eq, if_pos hfound]
          exact stepped_accept haccept rfl
      | false =>
          have hmissing : store.step (.delete coordinate) =
              .failed (.noEntry coordinate) store := by
            rw [step, delete_eq, hfound]
            rfl
          have hmakes : store.makes (.delete coordinate) = none := by
            rw [makes, hmissing]
            rfl
          rw [hmissing]
          exact .refused _ rfl hmakes
  | commit =>
      exact .committed
  | setUp setting =>
      exact .setUp setting

end Steps

section Changing

/-- A change is read at once, unless an earlier one is stranded. -/
theorem visible?_accept
    (hwritable : store.traits.readOnly = false)
    (other : Coordinate) :
    (store.accept coordinate change).state.visible? other =
      if other = coordinate then (store.stranded? coordinate).getD change
      else store.visible? other := by
  cases hauto : store.traits.autocommits with
  | true =>
      by_cases h : other = coordinate
      · subst h
        cases hstaged : store.staged.get? other <;>
          simp [accept, hwritable, hauto, visible?, stranded?, hstaged, get?_applyChange]
      · simp [accept, hwritable, hauto, visible?, get?_applyChange, h]
  | false =>
      by_cases h : other = coordinate <;>
        simp [accept, hwritable, hauto, visible?, stranded?, OrderedMap.get?_insert, h]

theorem get?_committed_accept
    (hwritable : store.traits.readOnly = false)
    (other : Coordinate) :
    (store.accept coordinate change).state.committed.get? other =
      if store.traits.autocommits = true ∧ other = coordinate then change
      else store.committed.get? other := by
  rw [committed_accept coordinate change hwritable]
  cases store.traits.autocommits <;> simp [get?_applyChange]

/-- A store that commits by itself stages nothing. -/
theorem staged_accept_of_autocommits
    (hauto : store.traits.autocommits = true) :
    (store.accept coordinate change).state.staged = store.staged := by
  cases hreadOnly : store.traits.readOnly <;> simp [accept, hauto, hreadOnly]

end Changing

section Sparing

/-- A change of another coordinate, or none, leaves what is read under a coordinate. -/
theorem visible?_step
    {step : Step}
    (hspares : ∀ change, store.makes step ≠ some (coordinate, change)) :
    (store.step step).state.visible? coordinate = store.visible? coordinate := by
  have hstep := stepped_step store step
  generalize (store.step step).state = after at hstep ⊢
  cases hstep with
  | refused _ _ _ =>
      rfl
  | changed _ other change hwritable hmakes =>
      rw [visible?_accept hwritable, if_neg]
      rintro rfl
      exact hspares change hmakes
  | committed =>
      rw [← get?_overlay, overlay_commit, get?_overlay]
  | setUp setting =>
      cases setting <;> rfl

/-- Only a commit changes what is committed under it, and commits what is read. -/
theorem get?_committed_step
    {step : Step}
    (hspares : ∀ change, store.makes step ≠ some (coordinate, change)) :
    (store.step step).state.committed.get? coordinate =
      if step = .commit then store.visible? coordinate else store.committed.get? coordinate := by
  have hstep := stepped_step store step
  generalize (store.step step).state = after at hstep ⊢
  cases hstep with
  | refused _ hasked _ =>
      have hcommit : step ≠ .commit := by
        rintro rfl
        cases hasked
      rw [if_neg hcommit]
  | changed _ other change hwritable hmakes =>
      have hcommit : step ≠ .commit := by
        rintro rfl
        cases hmakes
      rw [get?_committed_accept hwritable, if_neg, if_neg hcommit]
      rintro ⟨-, rfl⟩
      exact hspares change hmakes
  | committed =>
      rw [if_pos rfl, committed_commit, get?_overlay]
  | setUp setting =>
      cases setting <;> rfl

theorem visible?_after
    {later : List Step}
    (hspares : store.Spares coordinate later) :
    (store.after later).visible? coordinate = store.visible? coordinate := by
  induction later generalizing store with
  | nil =>
      rfl
  | cons step rest ih =>
      obtain ⟨hfirst, hrest⟩ := hspares
      exact (ih hrest).trans (visible?_step hfirst)

theorem get?_committed_after
    {later : List Step}
    (hspares : store.Spares coordinate later) :
    (store.after later).committed.get? coordinate =
      if .commit ∈ later then store.visible? coordinate
      else store.committed.get? coordinate := by
  induction later generalizing store with
  | nil =>
      rfl
  | cons step rest ih =>
      obtain ⟨hfirst, hrest⟩ := hspares
      have hnow := ih hrest
      rw [visible?_step hfirst, get?_committed_step hfirst] at hnow
      refine hnow.trans ?_
      by_cases hcommit : step = .commit
      · simp [hcommit]
      · simp [hcommit, Ne.symm hcommit]

end Sparing

section Stranding

theorem after_append
    (store : MemoryStore)
    (first second : List Step) :
    store.after (first ++ second) = (store.after first).after second :=
  List.foldl_append

theorem staged_of_stranded?
    {held : Option Record}
    (h : store.stranded? coordinate = some held) :
    store.traits.autocommits = true ∧ store.staged.get? coordinate = some held := by
  rw [stranded?] at h
  split at h
  · rename_i hauto
    exact ⟨hauto, h⟩
  · cases h

/-- A commit ends it that a change is stranded, and only being told to commit by itself makes a
store strand what it has staged. -/
theorem stranded?_step
    (step : Step) :
    (store.step step).state.stranded? coordinate =
      if step = .commit then none
      else if step = .setUp .autocommitting then store.staged.get? coordinate
      else store.stranded? coordinate := by
  have hstep := stepped_step store step
  generalize (store.step step).state = after at hstep ⊢
  cases hstep with
  | refused _ hasked _ =>
      have hcommit : step ≠ .commit := by
        rintro rfl
        cases hasked
      have hsetUp : step ≠ .setUp .autocommitting := by
        rintro rfl
        cases hasked
      rw [if_neg hcommit, if_neg hsetUp]
  | changed _ other change _ hmakes =>
      have hcommit : step ≠ .commit := by
        rintro rfl
        cases hmakes
      have hsetUp : step ≠ .setUp .autocommitting := by
        rintro rfl
        cases hmakes
      rw [if_neg hcommit, if_neg hsetUp, stranded?, stranded?, traits_accept]
      split
      · rename_i hauto
        rw [staged_accept_of_autocommits hauto]
      · rfl
  | committed =>
      exact ite_self _
  | setUp setting =>
      cases setting <;> rfl

/-- What one more step does to a change that is stranded. -/
theorem stranded_concat_iff
    {steps : List Step}
    {step : Step}
    {held : Option Record} :
    Stranded (steps ++ [step]) coordinate held ↔
      step ≠ .commit ∧
        (step = .setUp .autocommitting ∧
            (empty.after steps).staged.get? coordinate = some held ∨
          Stranded steps coordinate held) := by
  constructor
  · rintro ⟨before, later, hsteps, hstaged, hcommit⟩
    -- The last step strands the change itself, or it comes behind the step that did.
    rcases List.eq_nil_or_concat later with rfl | ⟨rest, last, rfl⟩
    · obtain ⟨rfl, hlast⟩ := List.append_inj' hsteps rfl
      obtain rfl := List.singleton_inj.mp hlast
      exact ⟨nofun, .inl ⟨rfl, hstaged⟩⟩
    · rw [List.concat_eq_append, ← List.cons_append, ← List.append_assoc] at hsteps
      obtain ⟨hrest, hlast⟩ := List.append_inj' hsteps rfl
      obtain rfl := List.singleton_inj.mp hlast
      rw [List.concat_eq_append, List.mem_append, not_or] at hcommit
      exact ⟨fun h => hcommit.2 (by simp [h]), .inr ⟨before, rest, hrest, hstaged, hcommit.1⟩⟩
  · rintro ⟨hstep, ⟨rfl, hstaged⟩ | ⟨before, later, rfl, hstaged, hcommit⟩⟩
    · exact ⟨steps, [], rfl, hstaged, nofun⟩
    · refine ⟨before, later ++ [step], by simp, hstaged, ?_⟩
      simp [hcommit, Ne.symm hstep]

/-- In every run a store that commits by itself has staged exactly what is stranded. -/
theorem stranded?_after
    {steps : List Step}
    {held : Option Record} :
    (empty.after steps).stranded? coordinate = some held ↔ Stranded steps coordinate held := by
  induction steps using List.reverseRecOn with
  | nil =>
      constructor
      · intro h
        cases h
      · rintro ⟨before, later, hsteps, -⟩
        simp at hsteps
  | append_singleton steps step ih =>
      have hafter : empty.after (steps ++ [step]) = ((empty.after steps).step step).state :=
        after_append empty steps [step]
      rw [hafter, stranded?_step, stranded_concat_iff, ← ih]
      by_cases hcommit : step = .commit
      · simp [hcommit]
      · by_cases hsetUp : step = .setUp .autocommitting
        · subst hsetUp
          rw [if_neg hcommit, if_pos rfl]
          constructor
          · exact fun hstaged => ⟨nofun, .inl ⟨rfl, hstaged⟩⟩
          · rintro ⟨-, ⟨-, hstaged⟩ | hstranded⟩
            · exact hstaged
            · exact (staged_of_stranded? hstranded).2
        · simp [hcommit, hsetUp]

/-- Nothing is stranded if nothing is staged whenever the store is told to commit by itself. -/
theorem not_stranded_of_orderly
    {steps : List Step}
    {held : Option Record}
    (horderly : empty.Orderly steps) :
    ¬ Stranded steps coordinate held := by
  intro h
  obtain ⟨hauto, hstaged⟩ := staged_of_stranded? (stranded?_after.mpr h)
  rw [direct_after (fun _ => rfl) horderly hauto] at hstaged
  cases hstaged

end Stranding

section Lasting

variable {held : Option Record}

theorem fetch_eq_reading
    (store : MemoryStore)
    (coordinate : Coordinate) :
    Store.fetch coordinate store = store.reading coordinate (store.visible? coordinate) :=
  rfl

/-- Different records are read differently. -/
theorem reading_inj
    (h : store.reading coordinate held = store.reading coordinate change) :
    held = change := by
  cases held with
  | none =>
      cases change with
      | none =>
          rfl
      | some record =>
          cases congrArg Outcome.result h
  | some record =>
      cases change with
      | none =>
          cases congrArg Outcome.result h
      | some other =>
          cases congrArg Outcome.result h
          rfl

/-- A change that is read at once lasts. -/
theorem lasts_iff
    (hcommitted : store.traits.autocommits = true → store.committed.get? coordinate = change) :
    store.Lasts coordinate change ↔ store.visible? coordinate = change := by
  constructor
  · intro h
    exact reading_inj (h.fetch [] trivial)
  · intro h
    refine ⟨fun later hspares => ?_, fun later hspares hdurable => ?_⟩
    · rw [fetch_eq_reading, visible?_after hspares, h]
    · rw [get?_committed_after hspares]
      split
      · exact h
      · rename_i hnot
        exact hcommitted (hdurable.resolve_right hnot)

theorem step_of_makes
    {step : Step}
    (hmade : store.makes step = some (coordinate, change)) :
    store.traits.readOnly = false ∧
      (store.step step).state = (store.accept coordinate change).state := by
  have hstep := stepped_step store step
  generalize (store.step step).state = after at hstep ⊢
  cases hstep with
  | refused _ _ hmakes =>
      cases hmakes.symm.trans hmade
  | changed _ _ _ hwritable hmakes =>
      cases hmakes.symm.trans hmade
      exact ⟨hwritable, rfl⟩
  | committed =>
      cases hmade
  | setUp setting =>
      cases hmade

/-- A change that a store has accepted lasts exactly if no other change of its coordinate is
stranded.  If one is, then that one is read, and a commit puts it in the place of the later
change. -/
theorem lasts_iff_not_stranded
    (before : List Step)
    (step : Step)
    (hmade : (empty.after before).makes step = some (coordinate, change)) :
    let store := empty.after (before ++ [step])
    (store.Lasts coordinate change ↔ ∀ held, Stranded before coordinate held → held = change) ∧
      ∀ held, Stranded before coordinate held →
        ∀ later, store.Spares coordinate later →
          let after := store.after later
          Store.fetch coordinate after = after.reading coordinate held ∧
            after.committed.get? coordinate = if .commit ∈ later then held else change := by
  intro store
  obtain ⟨hwritable, hstate⟩ := step_of_makes hmade
  have hstore : store = ((empty.after before).accept coordinate change).state :=
    (after_append empty before [step]).trans hstate
  have hvisible : store.visible? coordinate =
      ((empty.after before).stranded? coordinate).getD change := by
    rw [hstore, visible?_accept hwritable, if_pos rfl]
  have hcommitted : (empty.after before).traits.autocommits = true →
      store.committed.get? coordinate = change := by
    intro hauto
    rw [hstore, get?_committed_accept hwritable, if_pos ⟨hauto, rfl⟩]
  have htraits : store.traits = (empty.after before).traits := by
    rw [hstore, traits_accept]
  constructor
  · rw [lasts_iff (by rwa [htraits]), hvisible]
    simp only [← stranded?_after]
    cases (empty.after before).stranded? coordinate <;> simp
  · intro held hheld later hspares after
    have hstranded := stranded?_after.mpr hheld
    have hread : store.visible? coordinate = held := by
      rw [hvisible, hstranded, Option.getD_some]
    constructor
    · rw [fetch_eq_reading, visible?_after hspares, hread]
    · rw [get?_committed_after hspares, hread, hcommitted (staged_of_stranded? hstranded).1]

/-- The change of another coordinate is stranded. -/
theorem lasts_iff_not_stranded_elsewhere :
    let coordinate : Coordinate := ⟨"dev-libs", "a", "1", rfl, rfl, rfl⟩
    let other : Coordinate := ⟨"dev-libs", "b", "1", rfl, rfl, rfl⟩
    let record : Record := OrderedMap.ofList [("SLOT", .text "1")]
    let before : List Step :=
      [.write coordinate ∅, .commit, .write other ∅, .setUp .autocommitting]
    (empty.after before).makes (.write coordinate record) = some (coordinate, some record) ∧
      Stranded before other (some ∅) ∧
      (empty.after (before ++ [.write coordinate record])).Lasts coordinate (some record) := by
  intro coordinate other record before
  have hmade : (empty.after before).makes (.write coordinate record) =
      some (coordinate, some record) := rfl
  have hnone : (empty.after before).stranded? coordinate = none := by
    decide
  refine ⟨hmade, ⟨before.take 3, [], rfl, by decide, nofun⟩, ?_⟩
  refine (lasts_iff_not_stranded before _ hmade).1.mpr fun held hheld => ?_
  cases hnone.symm.trans (stranded?_after.mpr hheld)

/-- A record is staged, and the store is told to commit by itself before another record takes its
place.  The first one is still read, and the next commit brings it back for good. -/
theorem stranded_record_returns :
    let coordinate : Coordinate := ⟨"dev-libs", "a", "1", rfl, rfl, rfl⟩
    let first : Record := OrderedMap.ofList [("SLOT", .text "0")]
    let second : Record := OrderedMap.ofList [("SLOT", .text "1")]
    let before := empty.after [.write coordinate first, .setUp .autocommitting]
    let after := (before.step (.write coordinate second)).state
    before.makes (.write coordinate second) = some (coordinate, some second) ∧
      Store.fetch coordinate after = .done first after ∧
      after.committed.get? coordinate = some second ∧
      after.commit.committed.get? coordinate = some first :=
  ⟨rfl, rfl, rfl, rfl⟩

end Lasting

end MemoryStore
end PackageMetadata
