import PackageMetadata.Config.Basic
import PackageMetadata.Store.Basic

/-!
# Caches

A cache puts policy between its user and a store.  It refuses changes if it is read only,
admits only keys of its schema, turns eclasses into text on the way to the store and back,
and collects changes: each one is counted as pending, and as soon as there are more of them
than the sync rate allows, the store is told to commit.  Reading one record commits an
overdue backlog first.

What the store says about itself is asked once, when the cache is built.
-/

namespace PackageMetadata

universe u v

/-- A store under a policy. -/
structure Cache (σ : Type u) where
  schema : Schema
  readOnly : Bool
  /-- What the store said about itself when the cache was built. -/
  traits : Capabilities
  /-- How many changes may be pending. -/
  syncRate : Nat
  /-- The changes since the backlog was last cleared. -/
  pending : Nat := 0
  store : σ

namespace Cache

variable {σ : Type u} {α : Type v} [Store σ]

/-- The cache that a configuration makes of a store. -/
def ofStore
    (store : σ)
    (config : Config) :
    Cache σ :=
  { schema := config.schema
    readOnly := config.readOnly || (Store.capabilities store).readOnly
    traits := Store.capabilities store
    syncRate := config.syncRate
    store := store }

omit [Store σ] in
/-- Lets an operation run on the store. -/
def onStore
    (cache : Cache σ)
    (operation : σ → Outcome σ α) :
    Outcome (Cache σ) α :=
  (operation cache.store).mapState fun store => { cache with store := store }

section Committing

/-- Makes pending changes durable.  A store that commits by itself is not asked to. -/
def commit (cache : Cache σ) : Outcome (Cache σ) Unit :=
  if cache.traits.autocommits then
    .done () cache
  else
    cache.onStore Store.commit

/-- Commits if more changes are pending than the sync rate allows.  Only a commit that
succeeds clears the count. -/
def settle (cache : Cache σ) : Outcome (Cache σ) Unit :=
  if cache.syncRate < cache.pending then
    cache.commit.andThen fun _ cache => .done () { cache with pending := 0 }
  else
    .done () cache

/-- Changes the sync rate.  A rate of zero commits at once. -/
def sync
    (cache : Cache σ)
    (rate : Nat) :
    Outcome (Cache σ) Unit :=
  let cache := { cache with syncRate := rate }
  if rate = 0 then cache.commit else .done () cache

omit [Store σ] in
/-- Counts one more pending change, unless the store commits by itself. -/
def countChange (cache : Cache σ) : Cache σ :=
  if cache.traits.autocommits then
    cache
  else
    { cache with pending := cache.pending + 1 }

end Committing

section Reading

omit [Store σ] in
/-- A stored record as the user of the cache sees it. -/
def present
    (cache : Cache σ)
    (coordinate : Coordinate)
    (record : Record) :
    Except Failure Record :=
  if cache.traits.encodesEclasses then
    record.decodeEclasses coordinate
  else
    .ok record

/-- The record of a coordinate. -/
def get
    (cache : Cache σ)
    (coordinate : Coordinate) :
    Outcome (Cache σ) Record :=
  cache.settle.andThen fun _ cache =>
    (cache.onStore (Store.fetch coordinate)).andThen fun record cache =>
      ⟨cache.present coordinate record, cache⟩

/-- The record of a coordinate as the store has it. -/
def stored
    (cache : Cache σ)
    (coordinate : Coordinate) :
    Outcome (Cache σ) Record :=
  cache.onStore (Store.fetch coordinate)

/-- Whether a coordinate has a record. -/
def contains
    (cache : Cache σ)
    (coordinate : Coordinate) :
    Outcome (Cache σ) Bool :=
  cache.onStore (Store.contains coordinate)

/-- The coordinates that have a record. -/
def keys (cache : Cache σ) : Outcome (Cache σ) (List Coordinate) :=
  cache.onStore Store.keys

/-- The records of some coordinates, up to the first failure. -/
def getAll
    (cache : Cache σ) :
    List Coordinate → Outcome (Cache σ) (List (Coordinate × Record))
  | [] => .done [] cache
  | coordinate :: rest =>
      (cache.get coordinate).andThen fun record cache =>
        (cache.getAll rest).andThen fun items cache =>
          .done ((coordinate, record) :: items) cache

/-- All coordinates with their records. -/
def items (cache : Cache σ) : Outcome (Cache σ) (List (Coordinate × Record)) :=
  cache.keys.andThen fun coordinates cache => cache.getAll coordinates

end Reading

section Changing

omit [Store σ] in
/-- A record as it goes to the store: cleansed first and encoded then, if the store wants
it. -/
def prepare
    (cache : Cache σ)
    (record : Record) :
    Record :=
  let cleansed := if cache.traits.cleanses then record.withoutEmpty else record
  if cache.traits.encodesEclasses then cleansed.encodeEclasses else cleansed

/-- Commits if a change has made the backlog too long.  A store that commits by itself has
no backlog. -/
def settleChange (cache : Cache σ) : Outcome (Cache σ) Unit :=
  if cache.traits.autocommits then
    .done () cache
  else
    cache.countChange.settle

/-- Stores a record.  A change that the store accepts is counted. -/
def set
    (cache : Cache σ)
    (coordinate : Coordinate)
    (record : Record) :
    Outcome (Cache σ) Unit :=
  if cache.readOnly then
    .failed .readOnly cache
  else
    match cache.schema.validate record with
    | .error failure => .failed failure cache
    | .ok () =>
        (cache.onStore (Store.write coordinate (cache.prepare record))).andThen
          fun _ cache => cache.settleChange

/-- Takes the record of a coordinate out.  The change is counted before the store is asked,
so it counts even if the store refuses. -/
def delete
    (cache : Cache σ)
    (coordinate : Coordinate) :
    Outcome (Cache σ) Unit :=
  if cache.readOnly then
    .failed .readOnly cache
  else
    (cache.countChange.onStore (Store.delete coordinate)).andThen fun _ cache => cache.settle

end Changing

end Cache
end PackageMetadata
