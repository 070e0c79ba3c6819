import PackageMetadata.Toml.Number

/-!
# Statements of a TOML document

A document is a list of lines.  A line gives a key a value, or it is a header that says to
which table the lines behind it belong, or it has no contents.
-/

namespace PackageMetadata
namespace Toml

/-- A key with its value: the tables on the way, the name and the node. -/
structure Pair where
  path : List String
  name : String
  node : Node

/-- What a line says. -/
inductive Statement where
  | pair (pair : Pair)
  /-- The header of a table, or of one more table of an array of them. -/
  | header (repeated : Bool) (path : List String) (name : String)

namespace Entries

/-- Adds a pair to a table.  Its path may make new tables and enter such as were not
declared; what it ends in has to have been made by dotted keys. -/
def addPair?
    (node : Node)
    (name : String) :
    List String → Entries → Option Entries
  | [], entries => entries.add? name node
  | step :: path, entries =>
      match entries.get? step with
      | none => do
          let inner ← addPair? node name path []
          return entries.put step (.table .dotted inner)
      | some (.table form inner) =>
          if form = .declared ∨ (path = [] ∧ form ≠ .dotted) then
            none
          else do
            let inner ← addPair? node name path inner
            return entries.put step (.table form inner)
      | some (.tables items) =>
          match path, items.getLast? with
          | _ :: _, some last => do
              let inner ← addPair? node name path last
              return entries.put step (.tables (items.dropLast ++ [inner]))
          | _, _ => none
      | some _ => none

/-- Adds pairs to a table one after the other. -/
def addPairs?
    (entries : Entries)
    (pairs : List Pair) :
    Option Entries :=
  pairs.foldlM (fun entries pair => entries.addPair? pair.node pair.name pair.path) entries

/-- Changes the table that the path of a header leads to.  Tables that are not there yet are
implied, and an array of tables is entered at its last one. -/
def changeAt?
    (change : Entries → Option Entries) :
    List String → Entries → Option Entries
  | [], entries => change entries
  | step :: path, entries =>
      match entries.get? step with
      | none => do
          let inner ← changeAt? change path []
          return entries.put step (.table .implied inner)
      | some (.table form inner) => do
          let inner ← changeAt? change path inner
          return entries.put step (.table form inner)
      | some (.tables items) =>
          match items.getLast? with
          | none => none
          | some last => do
              let inner ← changeAt? change path last
              return entries.put step (.tables (items.dropLast ++ [inner]))
      | some _ => none

/-- Declares a table with the pairs below its header.  It may have been implied before. -/
def declare?
    (entries : Entries)
    (name : String)
    (pairs : List Pair) :
    Option Entries := do
  let earlier ←
    match entries.get? name with
    | none => some []
    | some (.table .implied inner) => some inner
    | some _ => none
  let inner ← Entries.addPairs? earlier pairs
  return entries.put name (.table .declared inner)

/-- Adds one more table to an array of them. -/
def extend?
    (entries : Entries)
    (name : String)
    (pairs : List Pair) :
    Option Entries := do
  let earlier ←
    match entries.get? name with
    | none => some []
    | some (.tables items) => some items
    | some _ => none
  let inner ← Entries.addPairs? [] pairs
  return entries.put name (.tables (earlier ++ [inner]))

end Entries

namespace Statement

/-- The pairs in front of the first header. -/
def leadingPairs : List Statement → List Pair
  | .pair first :: rest => first :: leadingPairs rest
  | _ => []

/-- Builds the tables below the headers.  Pairs are built with the header above them. -/
def buildSections? : List Statement → Entries → Option Entries
  | [], entries => some entries
  | .pair _ :: rest, entries => buildSections? rest entries
  | .header repeated path name :: rest, entries => do
      let pairs := leadingPairs rest
      let change : Entries → Option Entries := fun inner =>
        if repeated then inner.extend? name pairs else inner.declare? name pairs
      buildSections? rest (← entries.changeAt? change path)

/-- Builds the table of a whole document. -/
def build? (statements : List Statement) : Option Entries := do
  buildSections? statements (← Entries.addPairs? [] (leadingPairs statements))

end Statement

end Toml
end PackageMetadata
