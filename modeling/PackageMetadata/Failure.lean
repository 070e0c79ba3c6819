import PackageMetadata.Coordinate.Basic
import PackageMetadata.Text.Integer
import PackageMetadata.Text.Quoted

/-!
# Failures

Whatever can go wrong is one of the causes listed here.  A cause carries what it is about;
its wording is made by `Failure.message` alone.
-/

namespace PackageMetadata

/-- Why the stored text of inherited eclasses cannot be decoded. -/
inductive Corruption where
  /-- The number of tokens fits no layout. -/
  | tokenCount (count : Nat)
  /-- The last entry ends before its modification time. -/
  | missingTime (raw : String)
  /-- A token in the place of a modification time is no integer of 64 bits. -/
  | badTime (token raw : String) (fault : Text.IntegerFault)
deriving DecidableEq

namespace Corruption

/-- The wording of a corruption. -/
def message : Corruption → String
  | .tokenCount count =>
      "invalid token length " ++ toString count ++ " (must be mod 3 or mod 2)"
  | .missingTime raw =>
      "malformed modification time in " ++ Text.quote raw ++ ": missing value"
  | .badTime token raw _ =>
      "malformed modification time " ++ Text.quote token ++ " in " ++ Text.quote raw

/-- The fault of the integer at the bottom of a corruption, if there is one. -/
def source? : Corruption → Option Text.IntegerFault
  | .badTime _ _ fault => some fault
  | _ => none

end Corruption

/-- Why a file cannot be read. -/
inductive FileFault where
  | missing
  | notUtf8
deriving DecidableEq

namespace FileFault

/-- The wording of a file fault. -/
def message : FileFault → String
  | .missing => "No such file or directory (os error 2)"
  | .notUtf8 => "stream did not contain valid UTF-8"

end FileFault

/-- The causes for which an operation fails. -/
inductive Failure where
  /-- A change was asked of a cache or store that takes none. -/
  | readOnly
  /-- The stored eclasses of a coordinate cannot be decoded. -/
  | corrupt (coordinate : Coordinate) (cause : Corruption)
  /-- The store has no such operation. -/
  | notImplemented (operation : String)
  /-- A record has a key outside of the schema. -/
  | unknownKey (key : String)
  /-- A failure that was armed for a store operation. -/
  | injected (operation : String)
  /-- The store has nothing under a coordinate. -/
  | noEntry (coordinate : Coordinate)
  /-- No slot is held under a key. -/
  | noSlots (key : String)
  /-- The entry to be removed holds no slot under its key. -/
  | notSlotted (key : String)
  /-- A text is no coordinate. -/
  | badCoordinate (text : String)
  /-- A line of a record has nothing in front of its equals sign. -/
  | emptyKey (line : String)
  /-- A record does not say which slot its package takes. -/
  | missingSlot (coordinate : Coordinate)
  /-- A configuration cannot be understood. -/
  | badConfig (origin : String)
  /-- A configuration file cannot be read. -/
  | unreadable (path : String) (fault : FileFault)
  /-- A sync rate has no written form. -/
  | unwritableRate (rate : Nat)
  /-- A package holds its slot although a blocker forbids it. -/
  | brokenTracker (key : String)
deriving DecidableEq

namespace Failure

/-- The wording of a failure. -/
def message : Failure → String
  | .readOnly => "cache is read-only"
  | .corrupt coordinate cause =>
      "cache corruption for " ++ coordinate.display ++ ": " ++ cause.message
  | .notImplemented operation => operation ++ " is not implemented by this backend"
  | .unknownKey key => "invalid argument: unknown metadata key: " ++ key
  | .injected operation => "invalid argument: injected " ++ operation ++ " failure"
  | .noEntry coordinate => "not found: " ++ coordinate.display
  | .noSlots key => "not found: no slots held for " ++ key
  | .notSlotted key => "not found: entry for " ++ key ++ " isn't slotted"
  | .badCoordinate text => "invalid CPV: " ++ text
  | .emptyKey line => "invalid cache entry: empty key in " ++ Text.quote line
  | .missingSlot coordinate =>
      "invalid cache entry: missing SLOT for " ++ coordinate.display
  | .badConfig origin => "invalid configuration at " ++ origin
  | .unreadable path fault =>
      "I/O error reading config from " ++ path ++ ": " ++ fault.message
  | .unwritableRate rate => "sync rate " ++ toString rate ++ " is out of range"
  | .brokenTracker key =>
      "slot tracker corrupted: occupant of " ++ key ++ " matched by a standing blocker"

end Failure
end PackageMetadata
