import PackageMetadata.Eclass.Encoding
import PackageMetadata.Slot

/-!
# Metadata records

A record holds the metadata of one version of a package under keys such as `SLOT`.  A key
that a record does not have is absent rather than empty.
-/

namespace PackageMetadata

/-- One value of a record: plain text or, in memory only, decoded eclasses. -/
inductive Value where
  | text (content : String)
  | eclasses (content : Eclasses)
deriving DecidableEq

namespace Value

/-- Whether a value carries no data. -/
def isEmpty : Value → Bool
  | .text content => content.isEmpty
  | .eclasses content => content.isEmpty

/-- The text of a text value. -/
def text? : Value → Option String
  | .text content => some content
  | .eclasses _ => none

/-- The text of a value as it is stored. -/
def display : Value → String
  | .text content => content
  | .eclasses content => content.encode

/-- Puts text behind a text value.  To eclasses it adds an eclass of that name of which
nothing else is known. -/
def append
    (value : Value)
    (addition : String) :
    Value :=
  match value with
  | .text content => .text (content ++ addition)
  | .eclasses content => .eclasses (content.insert addition ⟨"", 0⟩)

end Value

/-- The metadata of one version of a package by keys. -/
abbrev Record := OrderedMap String Value

namespace Record

/-- The key of the inherited eclasses. -/
def eclassesKey : String :=
  "_eclasses_"

/-- The key of the slot. -/
def slotKey : String :=
  "SLOT"

/-- The text under a key, if there is a value and it is text. -/
def text?
    (record : Record)
    (key : String) :
    Option String :=
  (record.get? key).bind Value.text?

/-- The eclasses, if they are there in decoded form. -/
def eclasses? (record : Record) : Option Eclasses :=
  match record.get? eclassesKey with
  | some (.eclasses eclasses) => some eclasses
  | _ => none

/-- The slot, if the record names one. -/
def slot? (record : Record) : Option Slot :=
  (record.text? slotKey).bind Slot.ofText?

/-- Leaves out every key whose value is empty. -/
def withoutEmpty (record : Record) : Record :=
  record.filter fun _ value => !value.isEmpty

/-- Puts the eclasses under their key, if they are there in decoded form, into the text in
which they are stored. -/
def encodeEclasses (record : Record) : Record :=
  match record.get? eclassesKey with
  | some (.eclasses eclasses) => record.insert eclassesKey (.text eclasses.encode)
  | _ => record

/-- Decodes the eclasses under their key, if they are there as text. -/
def decodeEclasses
    (coordinate : Coordinate)
    (record : Record) :
    Except Failure Record :=
  match record.get? eclassesKey with
  | some (.text raw) =>
      (Eclasses.decode coordinate raw).map fun eclasses =>
        record.insert eclassesKey (.eclasses eclasses)
  | _ => .ok record

end Record
end PackageMetadata
