import PackageMetadata.Record.Basic
import PackageMetadata.Slots.Entry

/-!
# Packages and blockers

A package is a coordinate in a slot.  A blocker forbids the packages of a key, all of them
or those in one main slot.
-/

namespace PackageMetadata

/-- A version of a package that is to be installed into a slot. -/
structure Package where
  coordinate : Coordinate
  slot : Slot
deriving DecidableEq

namespace Package

/-- The package with its category. -/
def key (package : Package) : String :=
  package.coordinate.key

/-- The package whose slot is named in its record. -/
def ofRecord
    (coordinate : Coordinate)
    (record : Record) :
    Except Failure Package :=
  match record.slot? with
  | some slot => .ok ⟨coordinate, slot⟩
  | none => .error (.missingSlot coordinate)

/-- A package has the coordinate that it was made with and the slot of its record. -/
theorem ofRecord_eq_ok_iff
    {coordinate : Coordinate}
    {record : Record}
    {package : Package} :
    ofRecord coordinate record = .ok package ↔
      package.coordinate = coordinate ∧ record.slot? = some package.slot := by
  obtain ⟨own, slot⟩ := package
  rw [ofRecord]
  cases record.slot? with
  | none =>
      simp
  | some named =>
      simp [eq_comm]

/-- A record without a slot is all that can be wrong. -/
theorem ofRecord_eq_error_iff
    {coordinate : Coordinate}
    {record : Record}
    {failure : Failure} :
    ofRecord coordinate record = .error failure ↔
      record.slot? = none ∧ failure = .missingSlot coordinate := by
  rw [ofRecord]
  cases record.slot? with
  | none =>
      simp [eq_comm]
  | some named =>
      simp

instance : Slotted Package where
  key := key
  slot := slot
  agrees a b := a == b

end Package

/-- Forbids the packages of a key, in one slot if one is given. -/
structure Blocker where
  key : String
  slot : Option Slot := none
deriving DecidableEq

namespace Blocker

/-- Whether a blocker forbids a package.  Sub-slots do not matter. -/
def blocks
    (blocker : Blocker)
    (package : Package) :
    Bool :=
  package.key == blocker.key &&
    blocker.slot.all fun slot => slot.main == package.slot.main

instance : Restriction Blocker Package where
  key := key
  blocks := blocks

end Blocker

end PackageMetadata
