/-!
# Writing TOML strings

A string is written in the plainest of the ways that can hold it: between double quotes
if it needs no escape, between single quotes if it has none of them, over lines in
double quotes, over lines in single quotes, and else with escapes.
-/

namespace PackageMetadata
namespace Toml

section Features

/-- The length of the longest run of a character. -/
def longestRun (c : Char) (s : List Char) : Nat :=
  (s.foldl
    (fun (longest, current) d =>
      if d = c then (max longest (current + 1), current + 1) else (longest, 0))
    ((0, 0) : Nat × Nat)).1

/-- Whether a character is a control of ASCII that has to be escaped in any string. -/
def needsCode (c : Char) : Bool :=
  (c.toNat < 0x20 || c.toNat == 0x7f) && c != '\t' && c != '\n'

end Features

section Escapes

/-- A code in upper case hexadecimal, four digits at least. -/
def fourDigits (code : Nat) : List Char :=
  let digits := (Nat.toDigits 16 code).map Char.toUpper
  List.replicate (4 - digits.length) '0' ++ digits

/-- A character of a basic string, quotes and line feeds apart. -/
def escapeChar (c : Char) : List Char :=
  match c with
  | '\x08' => ['\\', 'b']
  | '\t' => ['\\', 't']
  | '\n' => ['\\', 'n']
  | '\x0c' => ['\\', 'f']
  | '\r' => ['\\', 'r']
  | '\\' => ['\\', '\\']
  | c =>
      if needsCode c then
        ['\\', 'u'] ++ fourDigits c.toNat
      else
        [c]

/-- The contents of a basic string.  `allowed` double quotes may follow each other; the next
one is escaped and starts a new run.  Line feeds stand as they are in a string over lines. -/
def escapeBasic
    (overLines : Bool)
    (allowed : Nat) :
    Nat → List Char → List Char
  | _, [] => []
  | run, c :: rest =>
      if c = '"' then
        if run < allowed then
          '"' :: escapeBasic overLines allowed (run + 1) rest
        else
          '\\' :: '"' :: escapeBasic overLines allowed 0 rest
      else if c = '\n' ∧ overLines then
        '\n' :: escapeBasic overLines allowed 0 rest
      else
        escapeChar c ++ escapeBasic overLines allowed 0 rest

end Escapes

section Strings

/-- The contents of a string over lines start on a line of their own if they have a line
feed. -/
def opening
    (quote : Char)
    (s : List Char) :
    List Char :=
  List.replicate 3 quote ++ if s.contains '\n' then ['\n'] else []

/-- A basic string on one line. -/
def writeBasic (s : List Char) : List Char :=
  '"' :: (escapeBasic false 0 0 s ++ ['"'])

/-- A basic string over lines. -/
def writeBasicLines (s : List Char) : List Char :=
  opening '"' s ++ escapeBasic true 2 0 s ++ List.replicate 3 '"'

/-- A string as TOML writes it. -/
def writeChars (s : List Char) : List Char :=
  let coded := s.any needsCode
  let lines := s.contains '\n'
  let escaped := s.contains '\\'
  let double := longestRun '"' s
  let single := longestRun '\'' s
  if !coded && !escaped && double == 0 && !lines then
    writeBasic s
  else if !coded && single == 0 && !lines then
    '\'' :: (s ++ ['\''])
  else if !coded && !escaped && double ≤ 2 then
    writeBasicLines s
  else if !coded && single ≤ 2 then
    opening '\'' s ++ s ++ List.replicate 3 '\''
  else if lines then
    writeBasicLines s
  else
    writeBasic s

/-- A string as TOML writes it. -/
def writeString (s : String) : String :=
  String.ofList (writeChars s.toList)

end Strings

end Toml
end PackageMetadata
