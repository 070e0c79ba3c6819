import PackageMetadata.Failure

/-!
# Reading coordinates

The category ends at the first slash.  What follows is tried at each dash from left to
right: the package stands in front of the first dash behind which there is a complete
version, so dashes and digits in the name of a package do no harm.
-/

namespace PackageMetadata
namespace Coordinate

/-- The coordinate with the given parts, if they are valid. -/
def ofParts?
    (category package version : List Char) :
    Option Coordinate :=
  if h : isCategory category = true ∧ isPackage package = true ∧ isVersion version = true then
    some
      { category := String.ofList category
        package := String.ofList package
        version := String.ofList version
        category_valid := by simpa using h.1
        package_valid := by simpa using h.2.1
        version_valid := by simpa using h.2.2 }
  else
    none

/-- The coordinate that a text names. -/
def parse? (text : String) : Option Coordinate :=
  match Text.cut '/' text.toList with
  | none => none
  | some (category, rest) =>
      (Text.cuts '-' rest).findSome? fun parts => ofParts? category parts.1 parts.2

/-- Reads a coordinate. -/
def parse (text : String) : Except Failure Coordinate :=
  match parse? text with
  | some coordinate => .ok coordinate
  | none => .error (.badCoordinate text)

section Examples

example :
    (parse? "media-fonts/font-adobe-100dpi-1.0.3-r2").map
        (fun c => (c.key, c.version)) =
      some ("media-fonts/font-adobe-100dpi", "1.0.3-r2") := by
  decide

example : parse? "dev-lang/perl" = none := by
  decide

end Examples

end Coordinate
end PackageMetadata
