import PackageMetadata.Eclass.Basic
import PackageMetadata.Failure

/-!
# The stored text of inherited eclasses

Eclasses are stored as one line of tokens between tabs.  An entry is written as its name,
its path and its modification time, smallest name first.  There is no escaping.

Two layouts are read.  The *full* layout is the one that is written; the *brief* one leaves
out the paths.  The number of tokens decides between them: a multiple of three is full.
Any other even number is brief if its second token is all digits, else it is an incomplete
full text.  A number that is neither even nor a multiple of three is no layout.
-/

namespace PackageMetadata
namespace Eclasses

section Writing

/-- The tokens of one entry. -/
def entryTokens (entry : String × Eclass) : List (List Char) :=
  [entry.1.toList, entry.2.path.toList, Text.Integer.write entry.2.mtime]

/-- The tokens of all entries, smallest name first. -/
def tokens (eclasses : Eclasses) : List (List Char) :=
  eclasses.toList.flatMap entryTokens

/-- The stored text of eclasses. -/
def encode (eclasses : Eclasses) : String :=
  String.ofList (['\t'].intercalate eclasses.tokens)

end Writing

section Reading

/-- The two arrangements of tokens that are read. -/
inductive Layout where
  /-- Name, path and modification time. -/
  | full
  /-- Name and modification time. -/
  | brief
deriving DecidableEq

/-- Whether a token is one or more digits. -/
def isDigits (token : List Char) : Bool :=
  !token.isEmpty && token.all Char.isDigit

/-- The layout in which tokens are to be read. -/
def layout? (tokens : List (List Char)) : Option Layout :=
  if tokens.length % 3 = 0 then
    some .full
  else if tokens.length % 2 = 0 then
    some (if (tokens[1]?.any isDigits) then .brief else .full)
  else
    none

/-- Reads the modification time in a token of a stored text. -/
def readTime
    (raw : String)
    (token : List Char) :
    Except Corruption Int64 :=
  (Text.Integer.read token).mapError fun fault => .badTime (String.ofList token) raw fault

/-- Reads entries in the full layout. -/
def readFull
    (raw : String) :
    List (List Char) → Except Corruption (List (String × Eclass))
  | [] => .ok []
  | name :: path :: time :: rest => do
      let mtime ← readTime raw time
      let entries ← readFull raw rest
      return (String.ofList name, ⟨String.ofList path, mtime⟩) :: entries
  | _ => .error (.missingTime raw)

/-- Reads entries in the brief layout.  Their paths are empty. -/
def readBrief
    (raw : String) :
    List (List Char) → Except Corruption (List (String × Eclass))
  | name :: time :: rest => do
      let mtime ← readTime raw time
      let entries ← readBrief raw rest
      return (String.ofList name, ⟨"", mtime⟩) :: entries
  | _ => .ok []

/-- Reads tokens in the layout that their number and the second one of them select. -/
def readTokens
    (raw : String)
    (tokens : List (List Char)) :
    Except Corruption (List (String × Eclass)) :=
  match layout? tokens with
  | some .full => readFull raw tokens
  | some .brief => readBrief raw tokens
  | none => .error (.tokenCount tokens.length)

/-- Reads a stored text.  Blanks around it are ignored, and of two entries with the same
name the last one stays. -/
def read (raw : String) : Except Corruption Eclasses :=
  match Text.trim raw.toList with
  | [] => .ok ∅
  | text => (readTokens raw (text.splitOn '\t')).map OrderedMap.ofList

/-- Reads the text that is stored under a coordinate. -/
def decode
    (coordinate : Coordinate)
    (raw : String) :
    Except Failure Eclasses :=
  (read raw).mapError (.corrupt coordinate)

end Reading

section Examples

example :
    read "libtool\t1234\teutils\t5678" =
      .ok (OrderedMap.ofList [("eutils", ⟨"", 5678⟩), ("libtool", ⟨"", 1234⟩)]) :=
  rfl

example :
    (read " eutils\t/repo/eclass\t-5 \n").map encode = .ok "eutils\t/repo/eclass\t-5" :=
  rfl

example : read "a\tb" = .error (.missingTime "a\tb") :=
  rfl

end Examples

end Eclasses
end PackageMetadata
