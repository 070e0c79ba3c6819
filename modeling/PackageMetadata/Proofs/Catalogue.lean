import PackageMetadata.Cache.Request
import PackageMetadata.Proofs.Outcome
import PackageMetadata.Proofs.Overlay
import PackageMetadata.Proofs.Record

/-!
# What a cache shows: a plain map

A *catalogue* is a map from coordinates to records together with the rules by which records
go in and come out.  It has no backlog, no sync rate and no staged changes.  A cache over a
fresh store in memory answers every session as a catalogue does, whatever its sync rate is
and whether or not its store commits by itself: when changes become durable cannot be told
from the answers.

**Rules**

* A record with a key outside of the schema is refused.
* In a *filed* record empty values are missing, if they are to be left out, and decoded
  eclasses are replaced by their text, if they are to be kept as text.
* In a *shown* record the text of eclasses is decoded, if eclasses are kept as text.

**Results**

* `prepare_eq_filed`: a cache hands records to its store in their filed form.
* `serve_related`: one request, simulated by the catalogue.
* `answers_eq_catalogue`: a whole session.
-/

namespace PackageMetadata

/-- A map from coordinates to records with its rules. -/
structure Catalogue where
  schema : Schema
  /-- Empty values are left out. -/
  cleanses : Bool
  /-- Eclasses are kept as text. -/
  encodesEclasses : Bool
  records : OrderedMap Coordinate Record := ∅

namespace Catalogue

open Cache (Request Answer)

section Rules

/-- What is kept of a value under a key. -/
def filedValue
    (catalogue : Catalogue)
    (key : String)
    (value : Value) :
    Option Value :=
  if catalogue.cleanses && value.isEmpty then
    none
  else if catalogue.encodesEclasses && key == Record.eclassesKey then
    some (.text value.display)
  else
    some value

/-- A record as it is kept. -/
def filed
    (catalogue : Catalogue)
    (record : Record) :
    Record :=
  record.filterMap catalogue.filedValue

/-- A kept record as it is shown. -/
def shown
    (catalogue : Catalogue)
    (coordinate : Coordinate)
    (record : Record) :
    Except Failure Record :=
  match catalogue.encodesEclasses, record.text? Record.eclassesKey with
  | true, some raw =>
      (Eclasses.decode coordinate raw).map fun eclasses =>
        record.insert Record.eclassesKey (.eclasses eclasses)
  | _, _ => .ok record

/-- Some kept entries as they are shown, up to the first that cannot be. -/
def shownEntries
    (catalogue : Catalogue) :
    List (Coordinate × Record) → Except Failure (List (Coordinate × Record))
  | [] => .ok []
  | (coordinate, record) :: rest => do
      let record ← catalogue.shown coordinate record
      let items ← catalogue.shownEntries rest
      return (coordinate, record) :: items

end Rules

section Requests

def set
    (catalogue : Catalogue)
    (coordinate : Coordinate)
    (record : Record) :
    Outcome Catalogue Unit :=
  match record.keys.find? fun key => !catalogue.schema.contains key with
  | some key => .failed (.unknownKey key) catalogue
  | none =>
      .done ()
        { catalogue with
          records := catalogue.records.insert coordinate (catalogue.filed record) }

def delete
    (catalogue : Catalogue)
    (coordinate : Coordinate) :
    Outcome Catalogue Unit :=
  if catalogue.records.contains coordinate then
    .done () { catalogue with records := catalogue.records.erase coordinate }
  else
    .failed (.noEntry coordinate) catalogue

def get
    (catalogue : Catalogue)
    (coordinate : Coordinate) :
    Outcome Catalogue Record :=
  match catalogue.records.get? coordinate with
  | none => .failed (.noEntry coordinate) catalogue
  | some record => ⟨catalogue.shown coordinate record, catalogue⟩

/-- Shows all records in the order of their coordinates. -/
def items (catalogue : Catalogue) : Outcome Catalogue (List (Coordinate × Record)) :=
  ⟨catalogue.shownEntries catalogue.records.toList, catalogue⟩

/-- Serves one request.  The sync rate and commits mean nothing to a map. -/
def serve
    (catalogue : Catalogue) :
    Request → Outcome Catalogue Answer
  | .get coordinate => (catalogue.get coordinate).map .record
  | .set coordinate record => (catalogue.set coordinate record).map fun _ => .done
  | .delete coordinate => (catalogue.delete coordinate).map fun _ => .done
  | .contains coordinate => .done (.found (catalogue.records.contains coordinate)) catalogue
  | .keys => .done (.coordinates catalogue.records.keys) catalogue
  | .items => catalogue.items.map .items
  | .sync _ => .done .done catalogue
  | .commit => .done .done catalogue

def answers
    (catalogue : Catalogue) :
    List Request → List (Except Failure Answer)
  | [] => []
  | request :: rest =>
      let served := catalogue.serve request
      served.result :: served.state.answers rest

end Requests

end Catalogue

namespace Cache

open Outcome (Related related_andThen related_map)

section Simulation

/-- A cache over a store in memory shows what a catalogue shows: it has the same rules, it
takes changes, and what reading sees in its store are the records of the catalogue. -/
structure Mirrors
    (cache : Cache MemoryStore)
    (catalogue : Catalogue) :
    Prop where
  schema : cache.schema = catalogue.schema
  cleanses : cache.traits.cleanses = catalogue.cleanses
  encodes : cache.traits.encodesEclasses = catalogue.encodesEclasses
  writable : cache.readOnly = false
  storeWritable : cache.store.traits.readOnly = false
  direct : cache.store.Direct
  overlay : cache.store.overlay = catalogue.records

variable {cache : Cache MemoryStore} {catalogue : Catalogue}

theorem prepare_eq_filed
    (h : cache.Mirrors catalogue)
    (record : Record) :
    cache.prepare record = catalogue.filed record := by
  refine OrderedMap.ext_get? fun key => ?_
  rw [Catalogue.filed, OrderedMap.get?_filterMap, get?_prepare, h.cleanses, h.encodes]
  rfl

theorem present_eq_shown
    (h : cache.Mirrors catalogue)
    (coordinate : Coordinate)
    (record : Record) :
    cache.present coordinate record = catalogue.shown coordinate record := by
  rw [present, Catalogue.shown, h.encodes, Record.decodeEclasses_eq]
  cases catalogue.encodesEclasses with
  | false =>
      rfl
  | true =>
      cases record.text? Record.eclassesKey <;> rfl

/-- A commit of the store changes nothing that is shown. -/
theorem commit_related (h : cache.Mirrors catalogue) :
    Related Mirrors cache.commit (.done () catalogue) := by
  rw [commit]
  split
  · exact ⟨rfl, h⟩
  · refine ⟨rfl, { h with direct := MemoryStore.direct_commit, overlay := ?_ }⟩
    exact (MemoryStore.overlay_commit cache.store).trans h.overlay

/-- Nor does anything that happens to the backlog. -/
theorem settle_related (h : cache.Mirrors catalogue) :
    Related Mirrors cache.settle (.done () catalogue) := by
  rw [settle]
  split
  · refine related_andThen (n := .done () catalogue) (g := fun _ catalogue => .done () catalogue)
      (commit_related h) fun _ hcommit => ?_
    exact ⟨rfl, { hcommit with }⟩
  · exact ⟨rfl, h⟩

theorem fetch_related
    (h : cache.Mirrors catalogue)
    (coordinate : Coordinate) :
    Related Mirrors
      ((cache.onStore (Store.fetch coordinate)).andThen fun record cache =>
        ⟨cache.present coordinate record, cache⟩)
      (catalogue.get coordinate) := by
  rw [onStore, MemoryStore.fetch_eq, h.overlay, Catalogue.get]
  cases catalogue.records.get? coordinate with
  | none =>
      exact ⟨rfl, h⟩
  | some record =>
      exact ⟨present_eq_shown h coordinate record, h⟩

theorem get_related
    (h : cache.Mirrors catalogue)
    (coordinate : Coordinate) :
    Related Mirrors (cache.get coordinate) (catalogue.get coordinate) :=
  related_andThen (n := .done () catalogue) (g := fun _ catalogue => catalogue.get coordinate)
    (settle_related h) fun _ hsettled => fetch_related hsettled coordinate

/-- Entries of the catalogue are shown one after the other, although the backlog may be
cleared between any two of them. -/
theorem getAll_related
    (h : cache.Mirrors catalogue)
    {entries : List (Coordinate × Record)}
    (hentries : ∀ entry ∈ entries, catalogue.records.get? entry.1 = some entry.2) :
    Related Mirrors
      (cache.getAll (entries.map Prod.fst))
      ⟨catalogue.shownEntries entries, catalogue⟩ := by
  induction entries generalizing cache with
  | nil =>
      exact ⟨rfl, h⟩
  | cons entry rest ih =>
      obtain ⟨coordinate, record⟩ := entry
      have hget := get_related h coordinate
      rw [Catalogue.get, hentries (coordinate, record) List.mem_cons_self] at hget
      have hrest : ∀ e ∈ rest, catalogue.records.get? e.1 = some e.2 := fun e he =>
        hentries e (List.mem_cons_of_mem _ he)
      -- The catalogue shows its entries in the two steps in which the cache gets them.
      have hsteps :
          (⟨catalogue.shownEntries ((coordinate, record) :: rest), catalogue⟩ :
            Outcome Catalogue (List (Coordinate × Record))) =
            Outcome.andThen ⟨catalogue.shown coordinate record, catalogue⟩
              fun record catalogue' =>
                Outcome.andThen ⟨catalogue.shownEntries rest, catalogue'⟩
                  fun items catalogue' => .done ((coordinate, record) :: items) catalogue' := by
        rw [Catalogue.shownEntries]
        cases catalogue.shown coordinate record with
        | error failure =>
            rfl
        | ok record =>
            cases catalogue.shownEntries rest <;> rfl
      rw [hsteps]
      exact related_andThen hget fun record hstate =>
        related_andThen (ih hstate hrest) fun items hstate => ⟨rfl, hstate⟩

theorem keys_of_mirrors (h : cache.Mirrors catalogue) :
    cache.keys = .done catalogue.records.keys cache := by
  rw [← h.overlay, keys, onStore, MemoryStore.keys_eq]
  rfl

theorem items_related (h : cache.Mirrors catalogue) :
    Related Mirrors cache.items catalogue.items := by
  rw [items, keys_of_mirrors h]
  exact getAll_related h fun entry hentry => OrderedMap.mem_toList_iff.mp hentry

theorem mirrors_countChange (h : cache.Mirrors catalogue) :
    cache.countChange.Mirrors catalogue := by
  rw [countChange]
  split
  · exact h
  · exact { h with }

/-- A change that the store accepts is made in the catalogue. -/
theorem accept_related
    (h : cache.Mirrors catalogue)
    (coordinate : Coordinate)
    (change : Option Record) :
    Related Mirrors
      (cache.onStore fun store => store.accept coordinate change)
      (.done ()
        { catalogue with
          records := MemoryStore.applyChange catalogue.records coordinate change }) := by
  have hwritable :
      (cache.store.accept coordinate change).state.traits.readOnly = false := by
    rw [MemoryStore.traits_accept]
    exact h.storeWritable
  refine ⟨MemoryStore.result_accept coordinate change h.storeWritable,
    { h with storeWritable := hwritable, direct := ?_, overlay := ?_ }⟩
  · exact MemoryStore.direct_accept coordinate change h.direct
  · rw [← h.overlay]
    exact MemoryStore.overlay_accept coordinate change h.storeWritable h.direct

theorem settleChange_related (h : cache.Mirrors catalogue) :
    Related Mirrors cache.settleChange (.done () catalogue) := by
  rw [settleChange]
  split
  · exact ⟨rfl, h⟩
  · exact settle_related (mirrors_countChange h)

theorem set_related
    (h : cache.Mirrors catalogue)
    (coordinate : Coordinate)
    (record : Record) :
    Related Mirrors (cache.set coordinate record) (catalogue.set coordinate record) := by
  rw [set, h.writable, Catalogue.set, Schema.validate, h.schema]
  cases record.keys.find? fun key => !catalogue.schema.contains key with
  | some key =>
      exact ⟨rfl, h⟩
  | none =>
      rw [← prepare_eq_filed h record]
      exact related_andThen (g := fun _ catalogue => .done () catalogue)
        (accept_related h coordinate (some (cache.prepare record)))
        fun _ hstate => settleChange_related hstate

theorem delete_related
    (h : cache.Mirrors catalogue)
    (coordinate : Coordinate) :
    Related Mirrors (cache.delete coordinate) (catalogue.delete coordinate) := by
  have hcounted := mirrors_countChange h
  rw [delete, h.writable, Catalogue.delete, onStore, MemoryStore.delete_eq, hcounted.overlay]
  cases catalogue.records.contains coordinate with
  | false =>
      exact ⟨rfl, hcounted⟩
  | true =>
      exact related_andThen (g := fun _ catalogue => .done () catalogue)
        (accept_related hcounted coordinate none)
        fun _ hstate => settle_related hstate

theorem sync_related
    (h : cache.Mirrors catalogue)
    (rate : Nat) :
    Related Mirrors (cache.sync rate) (.done () catalogue) := by
  have hrate : Mirrors { cache with syncRate := rate } catalogue := { h with }
  rw [sync]
  split
  · exact commit_related hrate
  · exact ⟨rfl, hrate⟩

/-- Every request is answered as by the catalogue, and the catalogue is still shown
afterwards. -/
theorem serve_related
    (h : cache.Mirrors catalogue)
    (request : Request) :
    Related Mirrors (cache.serve request) (catalogue.serve request) := by
  cases request with
  | get coordinate =>
      exact related_map (get_related h coordinate) _
  | set coordinate record =>
      exact related_map (set_related h coordinate record) _
  | delete coordinate =>
      exact related_map (delete_related h coordinate) _
  | contains coordinate =>
      rw [serve, contains, onStore, MemoryStore.contains_eq, h.overlay]
      exact ⟨rfl, h⟩
  | keys =>
      rw [serve, keys_of_mirrors h]
      exact ⟨rfl, h⟩
  | items =>
      exact related_map (items_related h) _
  | sync rate =>
      exact related_map (sync_related h rate) _
  | commit =>
      exact related_map (commit_related h) _

theorem answers_eq_of_mirrors
    (h : cache.Mirrors catalogue)
    (session : List Request) :
    cache.answers session = catalogue.answers session := by
  induction session generalizing cache catalogue with
  | nil =>
      rfl
  | cons request rest ih =>
      have hserve := serve_related h request
      rw [answers, Catalogue.answers, hserve.result, ih hserve.state]

/-- A cache that takes changes shows an empty catalogue as long as its store is fresh. -/
theorem mirrors_ofStore
    {settings : List MemoryStore.Setting}
    {config : Config}
    (hwritable : (ofStore (MemoryStore.ofSettings settings) config).readOnly = false) :
    (ofStore (MemoryStore.ofSettings settings) config).Mirrors
      { schema := config.schema
        cleanses := settings.contains .cleansing
        encodesEclasses := !settings.contains .rawEclasses } := by
  have hreadOnly := hwritable
  simp only [ofStore, Bool.or_eq_false_iff] at hreadOnly
  rw [MemoryStore.ofSettings_eq] at hwritable hreadOnly ⊢
  exact
    { schema := rfl
      cleanses := rfl
      encodes := rfl
      writable := hwritable
      storeWritable := hreadOnly.2
      direct := fun _ => rfl
      overlay := rfl }

end Simulation

/-- A cache over a fresh store in memory answers every session as a plain map does.  The map
knows the schema and whether values are cleansed and eclasses encoded, but neither the sync
rate nor whether the store commits by itself. -/
theorem answers_eq_catalogue
    (settings : List MemoryStore.Setting)
    (config : Config)
    (hwritable : (ofStore (MemoryStore.ofSettings settings) config).readOnly = false)
    (session : List Request) :
    (ofStore (MemoryStore.ofSettings settings) config).answers session =
      Catalogue.answers
        { schema := config.schema
          cleanses := settings.contains .cleansing
          encodesEclasses := !settings.contains .rawEclasses }
        session :=
  answers_eq_of_mirrors (mirrors_ofStore hwritable) session

/-- A record is stored, taken out and stored again while the sync rate changes. -/
theorem answers_eq_catalogue_stored_again :
    let coordinate : Coordinate := ⟨"dev-libs", "a", "1", rfl, rfl, rfl⟩
    let eclasses : Eclasses := OrderedMap.ofList [("eutils", ⟨"/e", -5⟩)]
    let record : Record :=
      OrderedMap.ofList [("SLOT", .text ""), ("_eclasses_", .eclasses eclasses)]
    let config : Config := { syncRate := 1, keys := some ["SLOT", "_eclasses_"] }
    (ofStore (MemoryStore.ofSettings [.cleansing]) config).readOnly = false ∧
      (ofStore (MemoryStore.ofSettings [.cleansing]) config).answers
          [.set coordinate record, .delete coordinate, .delete coordinate, .sync 0,
            .set coordinate record, .sync 7, .keys, .get coordinate] =
        [.ok .done, .ok .done, .error (.noEntry coordinate), .ok .done, .ok .done, .ok .done,
          .ok (.coordinates [coordinate]),
          .ok (.record (OrderedMap.ofList [("_eclasses_", .eclasses eclasses)]))] :=
  ⟨rfl, (answers_eq_catalogue [.cleansing] _ rfl _).trans rfl⟩

end Cache
end PackageMetadata
