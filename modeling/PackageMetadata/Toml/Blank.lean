import PackageMetadata.Text.Reader

/-!
# Blanks, comments and line ends of TOML

Only the space and the tab are blanks inside of a line.  A line ends with a line feed, with
a carriage return and a line feed, or with the document.  A comment runs to the end of its
line and has no controls but tabs.
-/

namespace PackageMetadata
namespace Toml

/-- The blanks inside of a line. -/
def isSpace (c : Char) : Bool :=
  c == ' ' || c == '\t'

/-- The characters that may stand in a text as they are: the tab, and all that are no
controls of ASCII. -/
def isVisible (c : Char) : Bool :=
  c == '\t' || (0x20 ≤ c.toNat && c.toNat != 0x7f)

/-- Blanks inside of a line, if there are any. -/
def spaces : Reader Unit := do
  let _ ← Reader.span isSpace

/-- A line feed, with or without a carriage return before it. -/
def newline : Reader Unit :=
  Reader.exactly ['\n'] <|> Reader.exactly ['\r', '\n']

/-- A comment, up to the end of its line. -/
def comment : Reader Unit := do
  let _ ← Reader.char '#'
  let _ ← Reader.span isVisible

/-- What may stand behind the contents of a line, with the end of the line. -/
def lineEnd : Reader Unit := do
  spaces
  let _ ← Reader.option comment
  newline <|> Reader.atEnd

/-- Blanks, line ends and comments, if there are any. -/
def gaps : Reader Unit := do
  let _ ← Reader.many do
    spaces
    let _ ← Reader.option comment
    newline
  spaces

end Toml
end PackageMetadata
