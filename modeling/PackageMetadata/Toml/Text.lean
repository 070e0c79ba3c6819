import PackageMetadata.Toml.Blank

/-!
# Strings and keys of TOML

A string is *basic*, between double quotes and with escapes, or *literal*, between single
quotes and without.  Three quotes instead of one make either kind span lines.  Its first
line end is left out if it comes right after the quotes, and one or two quotes may stand
inside of it anywhere.
-/

namespace PackageMetadata
namespace Toml

section Escapes

/-- The value of a hexadecimal digit. -/
def hexValue? (c : Char) : Option Nat :=
  if c.isDigit then some (c.toNat - '0'.toNat)
  else if 'a' ≤ c && c ≤ 'f' then some (c.toNat - 'a'.toNat + 10)
  else if 'A' ≤ c && c ≤ 'F' then some (c.toNat - 'A'.toNat + 10)
  else none

/-- A number of the given count of hexadecimal digits. -/
def hexNumber : Nat → Nat → Reader Nat
  | 0, value => pure value
  | count + 1, value => do
      let digit ← Reader.accept (Reader.satisfy fun _ => true) hexValue?
      hexNumber count (value * 16 + digit)

/-- The character of a code point, unless it is a surrogate or out of range. -/
def ofCodePoint? (code : Nat) : Option Char :=
  if code.isValidChar then some (Char.ofNat code) else none

/-- An escaped character. -/
def escaped : Reader Char := do
  let _ ← Reader.char '\\'
  match ← Reader.satisfy fun _ => true with
  | 'b' => return '\x08'
  | 't' => return '\t'
  | 'n' => return '\n'
  | 'f' => return '\x0c'
  | 'r' => return '\r'
  | '"' => return '"'
  | '\\' => return '\\'
  | 'u' => Reader.accept (hexNumber 4 0) ofCodePoint?
  | 'U' => Reader.accept (hexNumber 8 0) ofCodePoint?
  | _ => failure

/-- A backslash at the end of a line, which joins the line with the next text behind it. -/
def joinedLine : Reader Unit := do
  let _ ← Reader.char '\\'
  spaces
  newline
  let _ ← Reader.many (newline <|> (do let _ ← Reader.satisfy isSpace))

end Escapes

section Quotes

/-- A character of a basic string that stands for itself. -/
def basicPlain : Reader Char :=
  Reader.satisfy fun c => isVisible c && c != '"' && c != '\\'

/-- A character of a literal string. -/
def literalPlain : Reader Char :=
  Reader.satisfy fun c => isVisible c && c != '\''

/-- The number of quotes ahead. -/
def quotesAhead (quote : Char) : Reader Nat := do
  let input ← Reader.remaining
  return (input.takeWhile (· == quote)).length

/-- The given number of quotes. -/
def takeQuotes
    (quote : Char)
    (count : Nat) :
    Reader (List Char) := do
  Reader.exactly (List.replicate count quote)
  return List.replicate count quote

/-- One or two quotes inside of a string over lines. -/
def innerQuotes (quote : Char) : Reader (List Char) := do
  let count ← quotesAhead quote
  if count = 1 ∨ count = 2 then takeQuotes quote count else failure

/-- The three quotes that close a string over lines, and up to two that belong to it. -/
def closingQuotes (quote : Char) : Reader (List Char) := do
  let count ← quotesAhead quote
  let inner ← takeQuotes quote (min (count - 3) 2)
  let _ ← takeQuotes quote 3
  return inner

/-- A string over lines, made of pieces. -/
def overLines
    (quote : Char)
    (piece : Reader (List Char)) :
    Reader String := do
  let _ ← takeQuotes quote 3
  let _ ← Reader.option newline
  let pieces ← Reader.many piece
  let inner ← closingQuotes quote
  return String.ofList (pieces.flatten ++ inner)

end Quotes

section Strings

/-- A basic string on one line. -/
def basicString : Reader String := do
  let _ ← Reader.char '"'
  let content ← Reader.many (basicPlain <|> escaped)
  let _ ← Reader.char '"'
  return String.ofList content

/-- A literal string on one line. -/
def literalString : Reader String := do
  let _ ← Reader.char '\''
  let content ← Reader.many literalPlain
  let _ ← Reader.char '\''
  return String.ofList content

/-- A basic string over lines. -/
def basicLines : Reader String :=
  overLines '"' <|
    List.singleton <$> basicPlain
      <|> (do joinedLine; return [])
      <|> List.singleton <$> escaped
      <|> (do newline; return ['\n'])
      <|> innerQuotes '"'

/-- A literal string over lines. -/
def literalLines : Reader String :=
  overLines '\'' <|
    List.singleton <$> literalPlain
      <|> (do newline; return ['\n'])
      <|> innerQuotes '\''

/-- A string of any kind. -/
def string : Reader String :=
  basicLines <|> basicString <|> literalLines <|> literalString

end Strings

section Keys

/-- The characters of a key without quotes. -/
def isKeyChar (c : Char) : Bool :=
  c.isAlphanum || c == '-' || c == '_'

/-- A key without quotes. -/
def bareKey : Reader String := do
  let first ← Reader.satisfy isKeyChar
  let rest ← Reader.span isKeyChar
  return String.ofList (first :: rest)

/-- One part of a key, with the blanks around it. -/
def keyPart : Reader String := do
  spaces
  let name ← basicString <|> literalString <|> bareKey
  spaces
  return name

/-- How deep values and keys may nest: fewer levels than this. -/
def nestingLimit : Nat :=
  80

/-- A key as the parts between its dots: those on the way and the last one. -/
def dottedKey : Reader (List String × String) := do
  let first ← keyPart
  let others ← Reader.many (Reader.char '.' *> keyPart)
  let parts := first :: others
  if nestingLimit ≤ parts.length then
    failure
  else
    return (parts.dropLast, parts.getLastD first)

end Keys

end Toml
end PackageMetadata
