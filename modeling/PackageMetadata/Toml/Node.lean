/-!
# Contents of a TOML document

A document is a table of named nodes.  For tables it matters how they came about, because
a table may be written down only once: by a header of its own, by a longer header that
passes through it, or by a dotted key.
-/

namespace PackageMetadata
namespace Toml

/-- How a table came about. -/
inductive Form where
  /-- By a header of its own. -/
  | declared
  /-- By a header of a table inside of it. -/
  | implied
  /-- By a dotted key. -/
  | dotted
deriving DecidableEq

/-- A value or table of a document. -/
inductive Node where
  | string (content : String)
  | integer (value : Int)
  /-- A float, as it was written. -/
  | float (content : String)
  | boolean (value : Bool)
  /-- A date, a time or both, as it was written. -/
  | moment (content : String)
  | array (items : List Node)
  /-- A table that is written as a value and complete as such. -/
  | inlined (entries : List (String × Node))
  | table (form : Form) (entries : List (String × Node))
  /-- The tables that share a double header, in order. -/
  | tables (items : List (List (String × Node)))

/-- The named nodes of a table in the order in which they were written. -/
abbrev Entries := List (String × Node)

namespace Entries

/-- The node of a name. -/
def get?
    (entries : Entries)
    (name : String) :
    Option Node :=
  List.lookup name entries

/-- Gives a name a node, in place of an earlier one. -/
def put
    (entries : Entries)
    (name : String)
    (node : Node) :
    Entries :=
  if (entries.get? name).isSome then
    entries.map fun entry => if entry.1 = name then (name, node) else entry
  else
    entries ++ [(name, node)]

/-- Adds a node under a new name. -/
def add?
    (entries : Entries)
    (name : String)
    (node : Node) :
    Option Entries :=
  if (entries.get? name).isSome then none else some (entries.put name node)

end Entries

end Toml
end PackageMetadata
