import PackageMetadata.Toml.Statement

/-!
# Reading TOML documents

A document is read line by line into statements, from which its table is built.  A mark of
the byte order in front of it is left out.
-/

namespace PackageMetadata
namespace Toml

section Values

/-- A value that does not nest. -/
def scalar : Reader Node :=
  Node.string <$> string
    <|> (do Reader.exactly ['t', 'r', 'u', 'e']; return .boolean true)
    <|> (do Reader.exactly ['f', 'a', 'l', 's', 'e']; return .boolean false)
    <|> moment
    <|> float
    <|> integer

/-- Values between brackets, where lines may end anywhere and a comma may be left over. -/
def array (item : Reader Node) : Reader Node := do
  let _ ← Reader.char '['
  let items ← Reader.commaSeparated do
    gaps
    let node ← item
    gaps
    return node
  if !items.isEmpty then
    let _ ← Reader.option (Reader.char ',')
  gaps
  let _ ← Reader.char ']'
  return .array items

/-- A key with its value. -/
def pair (value : Reader Node) : Reader Pair := do
  let (path, name) ← dottedKey
  let _ ← Reader.char '='
  spaces
  return ⟨path, name, ← value⟩

/-- Pairs between braces, all on one line. -/
def inlined (value : Reader Node) : Reader Node := do
  let _ ← Reader.char '\x7b'
  spaces
  let pairs ← Reader.commaSeparated do
    let pair ← pair value
    spaces
    return pair
  spaces
  let _ ← Reader.char '\x7d'
  match Entries.addPairs? [] pairs with
  | some entries => return .inlined entries
  | none => failure

/-- A value with at most the given number of brackets and braces around its innermost
parts. -/
def value : Nat → Reader Node
  | 0 => scalar
  | depth + 1 => scalar <|> array (value depth) <|> inlined (value depth)

end Values

section Lines

/-- A header in single or double brackets. -/
def header : Reader Statement :=
  (do
    Reader.exactly ['[', '[']
    let (path, name) ← dottedKey
    Reader.exactly [']', ']']
    return .header true path name)
  <|> (do
    Reader.exactly ['[']
    let (path, name) ← dottedKey
    Reader.exactly [']']
    return .header false path name)

/-- A line with its end, and what it says. -/
def line : Reader (Option Statement) := do
  spaces
  let statement ←
    Reader.option (header <|> Statement.pair <$> pair (value (nestingLimit - 1)))
  lineEnd
  return statement

/-- All statements of a document. -/
def statements : Reader (List Statement) := do
  let _ ← Reader.option (Reader.char '\ufeff')
  let lines ← Reader.many line
  Reader.atEnd
  return lines.filterMap id

/-- Reads a document into its table. -/
def read? (text : String) : Option Entries := do
  let (statements, _) ← statements.run text.toList
  Statement.build? statements

end Lines

end Toml
end PackageMetadata
