import PackageMetadata.Cache.Basic
import PackageMetadata.Coordinate.Parser
import PackageMetadata.Record.Lines
import PackageMetadata.Slots.Package
import PackageMetadata.Slots.Tracker
import PackageMetadata.Store.Memory

/-!
# Regenerating a cache and planning with it

Entries in their stored text are put into a store in memory.  Through a first cache they
are read and decoded, and through a second one, with the configuration to be tried, they
are stored again.  What is then in the second cache is slotted package by package, and at
last blockers are put up against the plan.
-/

namespace PackageMetadata

/-- What came of a regeneration. -/
structure Regeneration where
  /-- The records that were read, each with the number of commits after it was stored. -/
  decoded : List (Coordinate × Record × Nat)
  commits : Nat
  writes : Nat
  staged : Nat
  /-- The packages in order, each with the number of entries it conflicts with. -/
  slotted : List (Package × Nat)
  /-- The packages that each blocker forbids. -/
  blocked : List (List Coordinate)
  /-- The number of keys under which something is held. -/
  keys : Nat

namespace Regeneration

/-- The plans that are made here: the elements of a list are told apart by position. -/
abbrev Plan := Tracker (Numbered Package) (Numbered Blocker)

/-- Puts entries into a store, each one given as the texts of its coordinate and record. -/
def load
    (store : MemoryStore) :
    List (String × String) → Except Failure MemoryStore
  | [] => .ok store
  | (coordinate, text) :: rest => do
      let record ← Record.parse text
      let coordinate ← Coordinate.parse coordinate
      let written := Store.write coordinate record store
      written.result
      load written.state rest

/-- Stores records in a cache and notes after each of them how often was committed. -/
def store
    (cache : Cache MemoryStore) :
    List (Coordinate × Record) →
      Except Failure (List (Coordinate × Record × Nat) × Cache MemoryStore)
  | [] => .ok ([], cache)
  | (coordinate, record) :: rest => do
      let written := cache.set coordinate record
      written.result
      let (notes, cache) ← store written.state rest
      return ((coordinate, record, written.state.store.commits) :: notes, cache)

/-- Gives packages their slots and notes how many entries each of them conflicts with. -/
def slot
    (plan : Plan) :
    List (Numbered Package) → Except Failure (List (Package × Nat) × Plan)
  | [] => .ok ([], plan)
  | package :: rest => do
      let filled := plan.fill package
      let conflicts ← filled.result
      let (notes, plan) ← slot filled.state rest
      return ((package.value, conflicts.length) :: notes, plan)

/-- Puts blockers up and notes which packages each of them forbids. -/
def block
    (plan : Plan) :
    List (Numbered Blocker) → List (List Coordinate) × Plan
  | [] => ([], plan)
  | blocker :: rest =>
      let (forbidden, plan) := plan.limit blocker
      let (notes, plan) := block plan rest
      (forbidden.map (fun package => package.value.coordinate) :: notes, plan)

/-- Regenerates the entries of a store under a configuration and plans with the result. -/
def run
    (source : MemoryStore)
    (config : Config)
    (blockers : List Blocker) :
    Except Failure Regeneration := do
  let items ← (Cache.ofStore source {}).items.result
  let (decoded, cache) ← store (Cache.ofStore MemoryStore.empty config) items
  let synced := cache.sync 0
  synced.result
  let regenerated := synced.state.items
  let packages ← (← regenerated.result).mapM fun item => Package.ofRecord item.1 item.2
  let (slotted, plan) ← slot Tracker.empty (Numbered.ofList packages)
  let (blocked, plan) := block plan (Numbered.ofList blockers)
  let final := regenerated.state.store
  return {
    decoded := decoded
    commits := final.commits
    writes := final.writes
    staged := final.staged.size
    slotted := slotted
    blocked := blocked
    keys := plan.size }

end Regeneration
end PackageMetadata
