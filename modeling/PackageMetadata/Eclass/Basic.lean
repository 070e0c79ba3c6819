import PackageMetadata.OrderedMap.Basic
import PackageMetadata.Text.Integer

/-!
# Inherited eclasses

A package remembers which eclasses it has inherited, where each of them was read from and
when it was last modified.
-/

namespace PackageMetadata

/-- Where an eclass was read from and when it was last modified.  The path is empty if it
is not known. -/
structure Eclass where
  path : String
  mtime : Int64
deriving DecidableEq

/-- Inherited eclasses by their names. -/
abbrev Eclasses := OrderedMap String Eclass

end PackageMetadata
