import PackageMetadata.Coordinate.Grammar
import PackageMetadata.Text.Cut

/-!
# Coordinates

A coordinate names one version of one package in one category.  It keys the store of
metadata, and without its version it keys the slots.  Its parts are valid by its type.
Coordinates are compared part by part as plain text, so `1.10` comes before `1.9`.
-/

namespace PackageMetadata

/-- One version of one package in one category. -/
structure Coordinate where
  category : String
  package : String
  version : String
  category_valid : Coordinate.isCategory category.toList = true
  package_valid : Coordinate.isPackage package.toList = true
  version_valid : Coordinate.isVersion version.toList = true
deriving DecidableEq

namespace Coordinate

/-- The package with its category, common to all of its versions. -/
def key (c : Coordinate) : String :=
  c.category ++ "/" ++ c.package

/-- The text of a coordinate. -/
def display (c : Coordinate) : String :=
  c.key ++ "-" ++ c.version

instance : ToString Coordinate :=
  ⟨display⟩

/-- Coordinates are ordered by category, then by package, then by version. -/
instance : Ord Coordinate where
  compare :=
    compareLex (compareOn category) (compareLex (compareOn package) (compareOn version))

section Keys

theorem slash_not_mem_category (c : Coordinate) :
    '/' ∉ c.category.toList := by
  intro hmem
  have hvalid := c.category_valid
  simp only [isCategory, Bool.and_eq_true, List.all_eq_true] at hvalid
  exact absurd (hvalid.1.1.2 '/' hmem) (by decide)

/-- A key tells the category and the name of a package, since the category has no slash. -/
theorem key_eq_iff {c d : Coordinate} :
    c.key = d.key ↔ c.category = d.category ∧ c.package = d.package := by
  constructor
  · intro h
    have hcut : ∀ e : Coordinate,
        Text.cut '/' e.key.toList = some (e.category.toList, e.package.toList) := fun e =>
      Text.cut_eq_some_iff.mpr ⟨by simp [key], slash_not_mem_category e⟩
    have hparts := hcut c
    rw [h, hcut d, Option.some.injEq, Prod.mk.injEq, String.toList_inj, String.toList_inj]
      at hparts
    exact ⟨hparts.1.symm, hparts.2.symm⟩
  · rintro ⟨hcategory, hpackage⟩
    rw [key, key, hcategory, hpackage]

end Keys

section Order

/-- Coordinates with the same three parts are equal. -/
theorem ext_parts
    {c d : Coordinate}
    (hcategory : c.category = d.category)
    (hpackage : c.package = d.package)
    (hversion : c.version = d.version) :
    c = d := by
  cases c
  cases d
  cases hcategory
  cases hpackage
  cases hversion
  rfl

instance : Std.TransOrd Coordinate :=
  inferInstanceAs (Std.TransCmp
    (compareLex (compareOn category) (compareLex (compareOn package) (compareOn version))))

instance : Std.LawfulEqOrd Coordinate where
  eq_of_compare {c d} h := by
    have h' :
        compareLex (compareOn category) (compareLex (compareOn package) (compareOn version))
          c d = .eq := h
    simp only [compareLex_eq_eq, compareOn, Std.LawfulEqCmp.compare_eq_iff_eq] at h'
    exact ext_parts h'.1 h'.2.1 h'.2.2

end Order

/-- The coordinates in their order, each with its position in the list; equal coordinates
stay in the order of the list. -/
def arrange (coordinates : List Coordinate) : List (Coordinate × Nat) :=
  coordinates.zipIdx.mergeSort fun a b => (compare a.1 b.1).isLE

end Coordinate
end PackageMetadata
