import PackageMetadata.Config.Basic
import PackageMetadata.Toml.Document
import PackageMetadata.Toml.Written

/-!
# Configurations in TOML

A configuration is written as a TOML document with the keys `readonly`, `sync_rate` and
`keys`.  When it is read each of them may be missing, and other keys mean nothing.
-/

namespace PackageMetadata
namespace Config

section Reading

/-- A truth value. -/
def ofBoolean? : Toml.Node → Option Bool
  | .boolean value => some value
  | _ => none

/-- A number that is not negative. -/
def ofInteger? : Toml.Node → Option Nat
  | .integer value => if 0 ≤ value then some value.toNat else none
  | _ => none

/-- A string. -/
def ofString? : Toml.Node → Option String
  | .string content => some content
  | _ => none

/-- An array of strings. -/
def ofStrings? : Toml.Node → Option (List String)
  | .array items => items.mapM ofString?
  | _ => none

/-- The setting of a name: its default if the name is missing, and none at all if what
stands there is of the wrong kind. -/
def setting?
    {α : Type}
    (entries : Toml.Entries)
    (name : String)
    (default : α)
    (read : Toml.Node → Option α) :
    Option α :=
  match entries.get? name with
  | none => some default
  | some node => read node

/-- The configuration in a table. -/
def ofEntries? (entries : Toml.Entries) : Option Config := do
  let readOnly ← setting? entries "readonly" false ofBoolean?
  let syncRate ← setting? entries "sync_rate" 0 ofInteger?
  let keys ← setting? entries "keys" none fun node => some <$> ofStrings? node
  return ⟨readOnly, syncRate, keys⟩

/-- Reads a configuration.  The origin tells where the text comes from. -/
def parse
    (origin : String)
    (text : String) :
    Except Failure Config :=
  match (Toml.read? text).bind ofEntries? with
  | some config => .ok config
  | none => .error (.badConfig origin)

/-- Reads a configuration that stands in the program itself. -/
def ofToml (text : String) : Except Failure Config :=
  parse "<inline>" text

/-- Reads the configuration in a file, given its bytes if there is such a file. -/
def ofFile
    (path : String)
    (contents : Option ByteArray) :
    Except Failure Config :=
  match contents with
  | none => .error (.unreadable path .missing)
  | some bytes =>
      match String.fromUTF8? bytes with
      | none => .error (.unreadable path .notUtf8)
      | some text => parse path text

end Reading

section Writing

/-- The largest sync rate that can be written, since integers have 64 bits with a sign. -/
def greatestRate : Nat :=
  Nat.pow 2 63 - 1

/-- The line of the chosen keys, if there are any. -/
def keysLine : Option (List String) → String
  | none => ""
  | some keys => "keys = [" ++ ", ".intercalate (keys.map Toml.writeString) ++ "]\n"

/-- Writes a configuration. -/
def toToml (config : Config) : Except Failure String :=
  if greatestRate < config.syncRate then
    .error (.unwritableRate config.syncRate)
  else
    .ok
      ("readonly = " ++ (if config.readOnly then "true" else "false") ++ "\n"
        ++ "sync_rate = " ++ toString config.syncRate ++ "\n"
        ++ keysLine config.keys)

end Writing

end Config
end PackageMetadata
