import PackageMetadata.Record.Basic

/-!
# Records as lines of text

A record is written as one line `KEY=VALUE` for each key in ascending order, each with a
line feed behind it.  Lines are read in any order.  A line without an equals sign is
skipped, blanks around a key are ignored, carriage returns at the end of a line do not
belong to its value, and of two lines with the same key the last one counts.
-/

namespace PackageMetadata
namespace Record

/-- A line without the carriage returns at its end. -/
def withoutReturns (line : List Char) : List Char :=
  Text.dropEndWhile (· == '\r') line

/-- The key and the value on a line, if it has any. -/
def readLine (line : List Char) : Except Failure (Option (String × Value)) :=
  match Text.cut '=' (withoutReturns line) with
  | none => .ok none
  | some (before, value) =>
      match Text.trim before with
      | [] => .error (.emptyKey (String.ofList (withoutReturns line)))
      | key => .ok (some (String.ofList key, .text (String.ofList value)))

/-- Reads lines one after the other into a record. -/
def readLines
    (record : Record) :
    List (List Char) → Except Failure Record
  | [] => .ok record
  | line :: rest => do
      match ← readLine line with
      | none => readLines record rest
      | some (key, value) => readLines (record.insert key value) rest

/-- Reads a record. -/
def parse (text : String) : Except Failure Record :=
  readLines ∅ (text.toList.splitOn '\n')

/-- One line of a written record with its line feed. -/
def lineText (entry : String × Value) : String :=
  entry.1 ++ "=" ++ entry.2.display ++ "\n"

/-- Writes a record.  Decoded eclasses are written in their stored text. -/
def serialize (record : Record) : String :=
  String.join (record.toList.map lineText)

section Examples

example :
    (parse "SLOT = 0/1.2\r\n\nEAPI=8\nnote\n").map serialize =
      .ok "EAPI=8\nSLOT= 0/1.2\n" :=
  rfl

example : parse "A=1\n =2\r" = .error (.emptyKey " =2") :=
  rfl

end Examples

end Record
end PackageMetadata
