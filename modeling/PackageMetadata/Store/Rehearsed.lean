import PackageMetadata.Store.Basic

/-!
# Rehearsed stores

A rehearsed store keeps a log of the operations that were called, and fails as often as it
was told to.  It shows what a cache asks of its store and what the cache makes of failures.
A call that fails on demand has no effect but its line in the log.
-/

namespace PackageMetadata

/-- The operations that can be told to fail. -/
inductive StoreOperation where
  | fetch
  | write
  | delete
  | keys
  | commit
deriving DecidableEq

namespace StoreOperation

/-- The name of an operation in logs and messages. -/
def name : StoreOperation → String
  | .fetch => "raw_get"
  | .write => "raw_set"
  | .delete => "raw_delete"
  | .keys => "raw_keys"
  | .commit => "raw_commit"

/-- The operation of a name. -/
def ofName? (name : String) : Option StoreOperation :=
  [fetch, write, delete, keys, commit].find? fun operation => operation.name == name

end StoreOperation

/-- A call of an operation, with the coordinate that it is about. -/
structure StoreCall where
  operation : StoreOperation
  coordinate : Option Coordinate := none
deriving DecidableEq

namespace StoreCall

/-- The line of a call in the log. -/
def display (call : StoreCall) : String :=
  match call.coordinate with
  | none => call.operation.name
  | some coordinate => call.operation.name ++ " " ++ coordinate.display

end StoreCall

/-- A map as a store that logs its calls and fails on demand. -/
structure RehearsedStore where
  records : OrderedMap Coordinate Record := ∅
  traits : Capabilities := {}
  /-- How often each operation is still to fail. -/
  armed : StoreOperation → Nat := fun _ => 0
  /-- The calls so far, latest first. -/
  calls : List StoreCall := []

namespace RehearsedStore

/-- Tells an operation how often it is to fail from now on. -/
def arm
    (store : RehearsedStore)
    (operation : StoreOperation)
    (times : Nat) :
    RehearsedStore :=
  { store with
    armed := fun other => if other = operation then times else store.armed other }

/-- The log, earliest call first. -/
def log (store : RehearsedStore) : List String :=
  store.calls.reverse.map StoreCall.display

/-- Forgets the log. -/
def clearLog (store : RehearsedStore) : RehearsedStore :=
  { store with calls := [] }

/-- Logs a call and fails if the operation is told to. -/
def enter
    (store : RehearsedStore)
    (call : StoreCall) :
    Outcome RehearsedStore Unit :=
  let store := { store with calls := call :: store.calls }
  match store.armed call.operation with
  | 0 => .done () store
  | times + 1 =>
      .failed (.injected call.operation.name) (store.arm call.operation times)

instance : Store RehearsedStore where
  fetch coordinate store :=
    (store.enter ⟨.fetch, coordinate⟩).andThen fun _ store =>
      match store.records.get? coordinate with
      | some record => .done record store
      | none => .failed (.noEntry coordinate) store
  write coordinate record store :=
    (store.enter ⟨.write, coordinate⟩).andThen fun _ store =>
      .done () { store with records := store.records.insert coordinate record }
  delete coordinate store :=
    (store.enter ⟨.delete, coordinate⟩).andThen fun _ store =>
      if store.records.contains coordinate then
        .done () { store with records := store.records.erase coordinate }
      else
        .failed (.noEntry coordinate) store
  keys store :=
    (store.enter ⟨.keys, none⟩).andThen fun _ store =>
      .done store.records.keys.reverse store
  commit store := store.enter ⟨.commit, none⟩
  capabilities store := store.traits

end RehearsedStore
end PackageMetadata
