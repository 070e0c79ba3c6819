import PackageMetadata.Proofs.Durability
import PackageMetadata.Proofs.EclassEncoding
import PackageMetadata.Proofs.Record

/-!
# What a cache hands over to its store

Nobody but the cache writes to its store.  So what stands in a store in memory, committed or staged,
was handed over by the cache, in the form in which the cache prepares records, and it goes back to a
record that was set.

**Definitions**

* `Journal.writes`: the records that a store was handed.
* `handsOver?`: the record that a cache hands over for a request.
* `Holds`: all records of a store in memory have a property, committed or staged.

**Results**

* `exists_given_of_get?`, `exists_filled_of_get?`: values carry data on the way to the store if and
  only if they did before.
* `writes_serve`: what one request hands over.
* `writes_journal`, `mem_writes_iff`: what a session hands over.
* `holds_keepsReading`, `handed_keeps`: no record turns up in a store by itself.
* `holds_handed`: what a store in memory has was handed over.
-/

namespace PackageMetadata

universe u v

namespace Value

/-- A value carries data exactly if its stored text does. -/
theorem isEmpty_text_display (value : Value) :
    (text value.display).isEmpty = value.isEmpty := by
  cases value with
  | text content =>
      rfl
  | eclasses content =>
      exact Eclasses.isEmpty_encode content

end Value

namespace Cache

section Values

variable {σ : Type u} {cache : Cache σ} {given : Record} {key : String} {value : Value}

/-- What stands in a record that is handed over was there before, and carries data if and only if
it did. -/
theorem exists_given_of_get? (h : (cache.prepare given).get? key = some value) :
    ∃ original, given.get? key = some original ∧ value.isEmpty = original.isEmpty ∧
      (cache.traits.cleanses = true → original.isEmpty = false) := by
  rw [get?_prepare, Option.bind_eq_some_iff] at h
  obtain ⟨original, horiginal, hkept⟩ := h
  refine ⟨original, horiginal, ?_⟩
  split at hkept
  · cases hkept
  · rename_i hleft
    have hfilled : cache.traits.cleanses = true → original.isEmpty = false := by
      intro hcleanses
      simpa [hcleanses] using hleft
    split at hkept
    · obtain rfl := Option.some.inj hkept
      exact ⟨original.isEmpty_text_display, hfilled⟩
    · obtain rfl := Option.some.inj hkept
      exact ⟨rfl, hfilled⟩

/-- A value that carries data is handed over, and still carries data then. -/
theorem exists_filled_of_get?
    (hvalue : given.get? key = some value)
    (hfilled : value.isEmpty = false) :
    ∃ handed, (cache.prepare given).get? key = some handed ∧ handed.isEmpty = false := by
  rw [get?_prepare, hvalue, Option.bind_some, hfilled, Bool.and_false, if_neg Bool.false_ne_true]
  split
  · exact ⟨_, rfl, value.isEmpty_text_display.trans hfilled⟩
  · exact ⟨value, rfl, hfilled⟩

end Values

end Cache

namespace Store

section Writes

/-- The record that a request hands over with its coordinate, if there is one. -/
def Request.record? : Request → Option (Coordinate × Record)
  | .write coordinate record => some (coordinate, record)
  | _ => none

/-- The records that a store was handed, taken or not, earliest first. -/
def Journal.writes (journal : Journal) : List (Coordinate × Record) :=
  journal.filterMap fun attempt => attempt.request.record?

namespace Journaled

variable {σ : Type u} {α : Type v}

theorem writes_note
    (request : Request)
    (operation : σ → Outcome σ α)
    (s : Journaled σ) :
    (s.note request operation).state.journal.writes =
      s.journal.writes ++ request.record?.toList := by
  rw [note, Journal.writes, List.filterMap_append]
  cases h : request.record? <;> simp [Journal.writes, h]

theorem writes_note_of_none
    {request : Request}
    (hnone : request.record? = none)
    (operation : σ → Outcome σ α)
    (s : Journaled σ) :
    (s.note request operation).state.journal.writes = s.journal.writes := by
  rw [writes_note, hnone, Option.toList_none, List.append_nil]

/-- Reading and committing hands nothing over. -/
theorem writes_keepsReading
    [Store σ]
    (writes : List (Coordinate × Record)) :
    Store.KeepsReading fun s : Journaled σ => s.journal.writes = writes where
  fetch coordinate s h := (writes_note_of_none rfl (Store.fetch coordinate) s).trans h
  keys s h := (writes_note_of_none rfl Store.keys s).trans h
  contains coordinate s h := (writes_note_of_none rfl (Store.contains coordinate) s).trans h
  commit s h := (writes_note_of_none rfl Store.commit s).trans h

end Journaled

end Writes

end Store

namespace Cache

open Store.Journaled (writes_note writes_note_of_none writes_keepsReading)

variable {σ : Type u} [Store σ]

section Handing

omit [Store σ] in
/-- The record that a cache hands over to its store for a request, if it does, with its coordinate.
Nothing is handed over by a read-only cache, nor from a record that the schema does not admit. -/
def handsOver?
    (cache : Cache σ) :
    Request → Option (Coordinate × Record)
  | .set coordinate record =>
      if cache.readOnly = false ∧ cache.schema.validate record = .ok () then
        some (coordinate, cache.prepare record)
      else
        none
  | _ => none

omit [Store σ] in
theorem handsOver?_of_reads
    (cache : Cache σ)
    {request : Request}
    (hreads : request.reads = true) :
    cache.handsOver? request = none := by
  cases request with
  | set coordinate record =>
      cases hreads
  | _ =>
      rfl

omit [Store σ] in
/-- What is handed over depends on nothing but the policy. -/
theorem handsOver?_of_samePolicy
    {base cache : Cache σ}
    (h : base.SamePolicy cache) :
    cache.handsOver? = base.handsOver? := by
  funext request
  cases request with
  | set coordinate record =>
      simp only [handsOver?, prepare, h.schema, h.readOnly, h.traits]
  | _ =>
      rfl

variable (cache : Cache (Store.Journaled σ))

theorem writes_set
    (coordinate : Coordinate)
    (record : Record) :
    (cache.set coordinate record).state.store.journal.writes =
      cache.store.journal.writes ++ (cache.handsOver? (.set coordinate record)).toList := by
  rw [set, handsOver?]
  cases hreadOnly : cache.readOnly with
  | true =>
      simp
  | false =>
      cases hvalid : cache.schema.validate record with
      | error failure =>
          simp
      | ok _ =>
          have hwritten := writes_note (.write coordinate (cache.prepare record))
            (Store.write coordinate (cache.prepare record)) cache.store
          simp only [Bool.false_eq_true, if_false, and_self, if_true]
          exact Outcome.state_andThen
            (P := fun after : Cache (Store.Journaled σ) => after.store.journal.writes =
              cache.store.journal.writes ++ [(coordinate, cache.prepare record)])
            (fun _ _ => hwritten) fun _ _ =>
              settleChange_keeps (writes_keepsReading _) hwritten

theorem writes_delete (coordinate : Coordinate) :
    (cache.delete coordinate).state.store.journal.writes = cache.store.journal.writes := by
  rw [delete]
  split
  · rfl
  · have hdeleted :
        (cache.countChange.onStore (Store.delete coordinate)).state.store.journal.writes =
          cache.store.journal.writes := by
      rw [← store_countChange cache]
      exact writes_note_of_none rfl (Store.delete coordinate)
        cache.countChange.store
    exact Outcome.state_andThen
      (P := fun after : Cache (Store.Journaled σ) =>
        after.store.journal.writes = cache.store.journal.writes)
      (fun _ _ => hdeleted) fun _ _ =>
        settle_keeps (writes_keepsReading _) hdeleted

/-- One request hands over at most one record. -/
theorem writes_serve (request : Request) :
    (cache.serve request).state.store.journal.writes =
      cache.store.journal.writes ++ (cache.handsOver? request).toList := by
  cases hreads : request.reads with
  | true =>
      rw [handsOver?_of_reads cache hreads, Option.toList_none, List.append_nil]
      exact serve_keeps_of_reads (writes_keepsReading _) rfl hreads
  | false =>
      cases request with
      | set coordinate record =>
          exact writes_set cache coordinate record
      | delete coordinate =>
          exact (writes_delete cache coordinate).trans (List.append_nil _).symm
      | _ =>
          cases hreads

theorem writes_after (session : List Request) :
    (cache.after session).store.journal.writes =
      cache.store.journal.writes ++ session.filterMap cache.handsOver? := by
  induction session generalizing cache with
  | nil =>
      exact (List.append_nil _).symm
  | cons request rest ih =>
      have hpolicy : (cache.serve request).state.handsOver? = cache.handsOver? :=
        handsOver?_of_samePolicy (samePolicy_serve samePolicy_self request)
      have hrest := ih (cache.serve request).state
      rw [writes_serve, hpolicy, List.append_assoc] at hrest
      refine hrest.trans (congrArg (cache.store.journal.writes ++ ·) ?_)
      rw [List.filterMap_cons]
      cases cache.handsOver? request <;> rfl

end Handing

section Sessions

variable (cache : Cache σ) (session : List Request)

/-- What a session hands over can be told from its requests, whatever the store does. -/
theorem writes_journal :
    (cache.journal session).writes = session.filterMap cache.handsOver? := by
  have hsame : cache.journaled.handsOver? = cache.handsOver? := by
    funext request
    cases request <;> rfl
  rw [journal, writes_after, hsame]
  rfl

/-- Each record that is handed over comes from one that was set, and that the schema admits. -/
theorem mem_writes_iff
    {coordinate : Coordinate}
    {record : Record} :
    (coordinate, record) ∈ (cache.journal session).writes ↔
      cache.readOnly = false ∧
        ∃ given, .set coordinate given ∈ session ∧ cache.schema.validate given = .ok () ∧
          record = cache.prepare given := by
  rw [writes_journal, List.mem_filterMap]
  constructor
  · rintro ⟨request, hrequest, hhanded⟩
    cases request with
    | set other given =>
        rw [handsOver?] at hhanded
        split at hhanded
        · rename_i hadmitted
          obtain ⟨rfl, rfl⟩ := Prod.mk.inj (Option.some.inj hhanded)
          exact ⟨hadmitted.1, given, hrequest, hadmitted.2, rfl⟩
        · cases hhanded
    | _ =>
        cases hhanded
  · rintro ⟨hwritable, given, hrequest, hvalid, rfl⟩
    exact ⟨.set coordinate given, hrequest, if_pos ⟨hwritable, hvalid⟩⟩

end Sessions

end Cache

namespace MemoryStore

section Holding

/-- All records of a store have a property, with their coordinates, be they committed or staged. -/
structure Holds
    (Q : Coordinate → Record → Prop)
    (store : MemoryStore) :
    Prop where
  committed : ∀ coordinate record, store.committed.get? coordinate = some record →
    Q coordinate record
  staged : ∀ coordinate record, store.staged.get? coordinate = some (some record) →
    Q coordinate record

variable {Q : Coordinate → Record → Prop} {store : MemoryStore}

theorem holds_ofSettings (settings : List Setting) :
    (ofSettings settings).Holds Q := by
  rw [ofSettings_eq]
  exact ⟨nofun, nofun⟩

theorem Holds.imp
    {Q' : Coordinate → Record → Prop}
    (h : store.Holds Q)
    (himp : ∀ coordinate record, Q coordinate record → Q' coordinate record) :
    store.Holds Q' :=
  ⟨fun coordinate record hrecord => himp _ _ (h.committed coordinate record hrecord),
    fun coordinate record hrecord => himp _ _ (h.staged coordinate record hrecord)⟩

/-- What reading sees is committed or staged. -/
theorem Holds.overlay
    (h : store.Holds Q)
    {coordinate : Coordinate}
    {record : Record}
    (hrecord : store.overlay.get? coordinate = some record) :
    Q coordinate record := by
  rw [get?_overlay, visible?] at hrecord
  split at hrecord
  · rename_i change hstaged
    exact h.staged coordinate record (hstaged.trans (congrArg some hrecord))
  · exact h.committed coordinate record hrecord

theorem Holds.fetch
    (h : store.Holds Q)
    {coordinate : Coordinate}
    {record : Record}
    (hfetch : (Store.fetch coordinate store).result = .ok record) :
    Q coordinate record := by
  rw [fetch_eq] at hfetch
  split at hfetch
  · rename_i found hfound
    obtain rfl : found = record := Except.ok.inj hfetch
    exact h.overlay hfound
  · cases hfetch

theorem Holds.commit (h : store.Holds Q) :
    store.commit.Holds Q := by
  refine ⟨fun coordinate record hrecord => ?_, nofun⟩
  rw [committed_commit] at hrecord
  exact h.overlay hrecord

/-- A change brings in no record but its own. -/
theorem Holds.accept
    (h : store.Holds Q)
    (coordinate : Coordinate)
    {change : Option Record}
    (hchange : ∀ record, change = some record → Q coordinate record) :
    (store.accept coordinate change).state.Holds Q := by
  rw [MemoryStore.accept]
  split
  · exact h
  · split
    · refine ⟨fun other record hrecord => ?_, h.staged⟩
      rw [Outcome.state_done, get?_applyChange] at hrecord
      split at hrecord
      · rename_i hsame
        rw [hsame]
        exact hchange record hrecord
      · exact h.committed other record hrecord
    · refine ⟨h.committed, fun other record hrecord => ?_⟩
      rw [Outcome.state_done, OrderedMap.get?_insert] at hrecord
      split at hrecord
      · rename_i hsame
        rw [hsame]
        exact hchange record (Option.some.inj hrecord)
      · exact h.staged other record hrecord

theorem holds_keepsReading (Q : Coordinate → Record → Prop) :
    Store.KeepsReading (Holds Q) where
  fetch coordinate store h := by
    rw [state_fetch]
    exact h
  keys _ h := h
  contains _ _ h := h
  commit _ h := h.commit

end Holding

end MemoryStore

namespace Store.Journaled

/-- Every record of a store in memory was handed over under its coordinate. -/
def Handed (s : Journaled MemoryStore) : Prop :=
  s.store.Holds fun coordinate record => (coordinate, record) ∈ s.journal.writes

variable {s : Journaled MemoryStore}

/-- A request that brings in no record leaves only such as were handed over. -/
theorem handed_note
    {α : Type v}
    (request : Request)
    {operation : MemoryStore → Outcome MemoryStore α}
    (h : (operation s.store).state.Holds fun coordinate record =>
      (coordinate, record) ∈ s.journal.writes) :
    (s.note request operation).state.Handed := by
  rw [Handed, writes_note]
  exact h.imp fun _ _ hmem => List.mem_append_left _ hmem

theorem handed_write
    (h : s.Handed)
    (coordinate : Coordinate)
    (record : Record) :
    (Store.write coordinate record s).state.Handed := by
  have hwrites : (Store.write coordinate record s).state.journal.writes =
      s.journal.writes ++ [(coordinate, record)] :=
    writes_note (.write coordinate record) (Store.write coordinate record) s
  rw [Handed, hwrites]
  have hearlier := h.imp fun _ _ hmem => List.mem_append_left [(coordinate, record)] hmem
  refine hearlier.accept coordinate fun other hother => ?_
  obtain rfl := Option.some.inj hother
  exact List.mem_append_right _ (List.mem_singleton_self _)

theorem handed_delete
    (h : s.Handed)
    (coordinate : Coordinate) :
    (Store.delete coordinate s).state.Handed := by
  refine handed_note (.delete coordinate) ?_
  rw [MemoryStore.delete_eq]
  split
  · exact h.accept coordinate nofun
  · exact h

theorem handed_keeps :
    Store.Keeps (fun _ => True) Handed where
  fetch coordinate s h :=
    handed_note (.fetch coordinate)
      ((MemoryStore.holds_keepsReading _).fetch coordinate s.store h)
  keys _ h := handed_note .keys h
  contains coordinate _ h := handed_note (.contains coordinate) h
  commit _ h := handed_note .commit h.commit
  write coordinate record _ _ h := handed_write h coordinate record
  delete coordinate _ h := handed_delete h coordinate

end Store.Journaled

namespace Cache

/-- What a store in memory has after a session, committed or staged, was handed over by the
cache. -/
theorem holds_handed
    (settings : List MemoryStore.Setting)
    (config : Config)
    (session : List Request) :
    ((inMemory settings config).after session).store.Holds fun coordinate record =>
      (coordinate, record) ∈ ((inMemory settings config).journal session).writes := by
  have hstart : (inMemory settings config).journaled.store.Handed :=
    MemoryStore.holds_ofSettings settings
  rw [← (after_journaled (inMemory settings config) session).store]
  exact after_keeps Store.Journaled.handed_keeps (fun _ _ => trivial) hstart session

end Cache
end PackageMetadata
