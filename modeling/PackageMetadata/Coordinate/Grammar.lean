import PackageMetadata.Text.Reader

/-!
# The parts of a coordinate

A coordinate has the text `category/package-version`.  This module says which texts may
stand for its three parts.  All of them are ASCII.

* A category has letters, digits and `+ _ . -` and starts with neither `-` nor `.`.
* A package has letters, digits and `+ _ -` and neither starts nor ends with `-`.
* A version is a *release*, which is numbers between dots with an optional lower case
  letter behind them, then any number of *suffixes* `_alpha`, `_beta`, `_pre`, `_rc` and
  `_p`, each with optional digits, then an optional *revision* `-r` with digits.
-/

namespace PackageMetadata
namespace Coordinate

/-- The characters of a category. -/
def isCategoryChar (c : Char) : Bool :=
  c.isAlphanum || c == '+' || c == '_' || c == '.' || c == '-'

/-- The characters of a package. -/
def isPackageChar (c : Char) : Bool :=
  c.isAlphanum || c == '+' || c == '_' || c == '-'

/-- Whether a text may be a category. -/
def isCategory (s : List Char) : Bool :=
  !s.isEmpty && s.all isCategoryChar && s.head? != some '-' && s.head? != some '.'

/-- Whether a text may be a package. -/
def isPackage (s : List Char) : Bool :=
  !s.isEmpty && s.all isPackageChar && s.head? != some '-' && s.getLast? != some '-'

/-- Reads one or more digits. -/
def readNumber : Reader Unit := do
  let _ ← Reader.satisfy Char.isDigit
  let _ ← Reader.span Char.isDigit
  return ()

/-- Reads a number with a dot in front of it. -/
def readFurtherNumber : Reader Unit := do
  let _ ← Reader.char '.'
  readNumber

/-- The names of the suffixes of a version, in the order in which they are tried. -/
def suffixNames : List (List Char) :=
  [['a', 'l', 'p', 'h', 'a'], ['b', 'e', 't', 'a'], ['p', 'r', 'e'], ['r', 'c'], ['p']]

/-- Reads a suffix, which may have digits behind its name. -/
def readSuffix : Reader Unit := do
  let _ ← Reader.char '_'
  Reader.firstOf suffixNames
  let _ ← Reader.span Char.isDigit
  return ()

/-- Reads a revision. -/
def readRevision : Reader Unit := do
  Reader.exactly ['-', 'r']
  readNumber

/-- Reads a version from left to right.  What was read once is not given back. -/
def readVersion : Reader Unit := do
  readNumber
  let _ ← Reader.many readFurtherNumber
  let _ ← Reader.option (Reader.satisfy Char.isLower)
  let _ ← Reader.many readSuffix
  let _ ← Reader.option readRevision
  return ()

/-- Whether a text is a complete version. -/
def isVersion (s : List Char) : Bool :=
  ((readVersion <* Reader.atEnd) s).isSome

section Examples

example : isVersion "1.0.3b_pre2_p-r2".toList = true := by decide
example : isVersion "100dpi".toList = false := by decide
example : isVersion "1._p".toList = false := by decide
example : isPackage "font-adobe-100dpi".toList = true := by decide
example : isCategory ".hidden".toList = false := by decide

end Examples

end Coordinate
end PackageMetadata
