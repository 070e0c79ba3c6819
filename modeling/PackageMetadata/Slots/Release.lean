import PackageMetadata.Slots.Entry

/-!
# Releases and version ranges

A release is a package that counts as the same as another one if their tags are equal,
whatever their versions are.  A version range forbids releases by their versions alone and
does not look at their keys.
-/

namespace PackageMetadata

/-- A numbered version that is known by its tag. -/
structure Release where
  key : String
  slot : Slot
  version : Int
  tag : String
deriving DecidableEq

namespace Release

/-- The text of a release. -/
def display (release : Release) : String :=
  release.tag ++ "@" ++ toString release.version

instance : Slotted Release where
  key := key
  slot := slot
  agrees a b := a.tag == b.tag

end Release

/-- Forbids the versions between two bounds. -/
structure VersionRange where
  key : String
  min : Int
  max : Int
deriving DecidableEq

namespace VersionRange

/-- The text of a version range. -/
def display (range : VersionRange) : String :=
  toString range.min ++ ".." ++ toString range.max

instance : Restriction VersionRange Release where
  key := key
  blocks range release := range.min ≤ release.version && release.version ≤ range.max

end VersionRange

end PackageMetadata
