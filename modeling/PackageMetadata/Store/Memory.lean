import PackageMetadata.Store.Basic

/-!
# Stores in memory

A store in memory keeps a map of committed records and, over it, a map of staged changes.
A staged change is a record or a deletion.  Reading sees the staged changes; a commit
applies them.  A store that commits by itself changes the committed records directly.
-/

namespace PackageMetadata

/-- Committed records and the changes that wait over them. -/
structure MemoryStore where
  committed : OrderedMap Coordinate Record := ∅
  /-- The changes since the last commit; a deletion has no record. -/
  staged : OrderedMap Coordinate (Option Record) := ∅
  traits : Capabilities := {}
  /-- The number of changes that were accepted. -/
  writes : Nat := 0
  /-- The number of commits. -/
  commits : Nat := 0
deriving DecidableEq

namespace MemoryStore

/-- An empty store that collects changes. -/
def empty : MemoryStore :=
  {}

section Building

/-- From now on changes are durable at once. -/
def autocommitting (store : MemoryStore) : MemoryStore :=
  { store with traits := { store.traits with autocommits := true } }

/-- From now on no change is taken. -/
def readOnly (store : MemoryStore) : MemoryStore :=
  { store with traits := { store.traits with readOnly := true } }

/-- From now on empty values are to be left out. -/
def cleansing (store : MemoryStore) : MemoryStore :=
  { store with traits := { store.traits with cleanses := true } }

/-- From now on eclasses are to be handed over as they are. -/
def rawEclasses (store : MemoryStore) : MemoryStore :=
  { store with traits := { store.traits with encodesEclasses := false } }

/-- The ways to set a store up. -/
inductive Setting where
  | autocommitting
  | readOnly
  | cleansing
  | rawEclasses
deriving DecidableEq

/-- Sets a store up; its contents stay. -/
def setUp
    (store : MemoryStore) :
    Setting → MemoryStore
  | .autocommitting => store.autocommitting
  | .readOnly => store.readOnly
  | .cleansing => store.cleansing
  | .rawEclasses => store.rawEclasses

end Building

section Operations

/-- Gives a coordinate a record, or takes its record out. -/
def applyChange
    (records : OrderedMap Coordinate Record)
    (coordinate : Coordinate)
    (change : Option Record) :
    OrderedMap Coordinate Record :=
  match change with
  | some record => records.insert coordinate record
  | none => records.erase coordinate

/-- The record of a coordinate as reading sees it. -/
def visible?
    (store : MemoryStore)
    (coordinate : Coordinate) :
    Option Record :=
  match store.staged.get? coordinate with
  | some change => change
  | none => store.committed.get? coordinate

/-- The committed records that no change is staged for, together with the staged ones. -/
def overlay (store : MemoryStore) : OrderedMap Coordinate Record :=
  let untouched :=
    store.committed.filter fun coordinate _ => !store.staged.contains coordinate
  untouched.insertAll <|
    store.staged.toList.filterMap fun entry => entry.2.map fun record => (entry.1, record)

/-- The coordinates that have a record as reading sees it: the committed ones that no change is
staged for and those that a record is staged for, in their order. -/
def listed (store : MemoryStore) : List Coordinate :=
  let untouched := store.committed.keys.filter fun coordinate => !store.staged.contains coordinate
  let stored := (store.staged.toList.filter fun entry => entry.2.isSome).map Prod.fst
  (untouched ++ stored).mergeSort fun a b => (compare a b).isLE

/-- Accepts a change, unless the store takes none. -/
def accept
    (store : MemoryStore)
    (coordinate : Coordinate)
    (change : Option Record) :
    Outcome MemoryStore Unit :=
  if store.traits.readOnly then
    .failed .readOnly store
  else if store.traits.autocommits then
    .done ()
      { store with
        committed := applyChange store.committed coordinate change
        writes := store.writes + 1 }
  else
    .done ()
      { store with
        staged := store.staged.insert coordinate change
        writes := store.writes + 1 }

/-- Applies the staged changes to the committed records. -/
def commit (store : MemoryStore) : MemoryStore :=
  { store with
    committed :=
      store.staged.toList.foldl (fun records entry => applyChange records entry.1 entry.2)
        store.committed
    staged := ∅
    commits := store.commits + 1 }

instance : Store MemoryStore where
  fetch coordinate store :=
    match store.visible? coordinate with
    | some record => .done record store
    | none => .failed (.noEntry coordinate) store
  write coordinate record store :=
    store.accept coordinate (some record)
  delete coordinate store :=
    if (store.visible? coordinate).isSome then
      store.accept coordinate none
    else
      .failed (.noEntry coordinate) store
  keys store := .done store.listed store
  contains coordinate store := .done (store.visible? coordinate).isSome store
  commit store := .done () store.commit
  capabilities store := store.traits

end Operations

end MemoryStore
end PackageMetadata
