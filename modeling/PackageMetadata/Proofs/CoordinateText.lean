import PackageMetadata.Proofs.Bucket
import PackageMetadata.Proofs.CoordinateGrammar
import PackageMetadata.Slots.Package

/-!
# Coordinates and their text

The text of a coordinate puts a slash and a dash between its parts, and a package may have dashes
of its own.  Still the text tells the parts: a category has no slash, and behind only one dash of
what follows there is a complete version.  So reading a text and showing a coordinate undo each
other.

A key is the text without its version.  The entries of a tracker stand under their keys, so the
packages under one key are those of one name in one category, in all of their versions.

**Results**

* `spelled_parts_iff`: the parts of a coordinate spell its text and no other one.
* `parse_eq_ok_iff_display`, `display_inj`: what is read, and what is shown.
* `key_of_held`: where a tracker keeps a package.
* `parse_display_inverse`: texts, coordinates and keys, with what a tracker keeps together.
-/

namespace PackageMetadata
namespace Coordinate

section Display

/-- The parts of a coordinate are valid, so they spell its text and no other one. -/
theorem spelled_parts_iff
    {text : String}
    {c : Coordinate} :
    Spelled text c.parts ↔ c.display = text := by
  constructor
  · intro h
    exact h.text_eq.symm
  · rintro rfl
    exact
      { text_eq := rfl
        category := isCategory_iff.mp c.category_valid
        package := isPackage_iff.mp c.package_valid
        version := isVersion_iff.mp c.version_valid }

/-- A text is read as the coordinate that is shown as this text. -/
theorem parse_eq_ok_iff_display
    {text : String}
    {c : Coordinate} :
    parse text = .ok c ↔ c.display = text :=
  parse_eq_ok_iff.trans spelled_parts_iff

theorem display_inj {c d : Coordinate} :
    c.display = d.display ↔ c = d := by
  constructor
  · intro h
    have hread := parse_eq_ok_iff_display.mpr h
    rw [parse_eq_ok_iff_display.mpr rfl] at hread
    exact (Except.ok.inj hread).symm
  · rintro rfl
    rfl

end Display

section Keeping

open Tracker (Request)

variable {R : Type} [Restriction R Package] [DecidableEq R]

/-- After every run a package is held under its own key only. -/
theorem key_of_held
    {requests : List (Request Package R)}
    {key : String}
    {package : Package}
    (hheld : .occupant package ∈ ((Tracker.empty : Tracker Package R).after requests).entries key) :
    package.coordinate.key = key :=
  Tracker.key_of_mem_entries (Tracker.after_shows requests) hheld

/-- Exactly the text of a coordinate is read as this coordinate, so coordinates with one text are
equal.  Those with one key have the same category and package, and may differ in their versions
only.

After every run of a tracker two packages are held under one key exactly if they have the same name
in the same category. -/
theorem parse_display_inverse :
    (∀ text c, parse text = .ok c ↔ c.display = text) ∧
    (∀ c d : Coordinate, c.display = d.display ↔ c = d) ∧
    (∀ c d : Coordinate, c.key = d.key ↔ c.category = d.category ∧ c.package = d.package) ∧
    ∀ (R : Type) [Restriction R Package] [DecidableEq R] (requests : List (Request Package R)),
      let tracker : Tracker Package R := Tracker.empty.after requests
      ∀ key a, .occupant a ∈ tracker.entries key → ∀ other b, .occupant b ∈ tracker.entries other →
        (key = other ↔
          a.coordinate.category = b.coordinate.category ∧
            a.coordinate.package = b.coordinate.package) := by
  refine ⟨fun _ _ => parse_eq_ok_iff_display, fun _ _ => display_inj, fun _ _ => key_eq_iff, ?_⟩
  intro R _ _ requests tracker key a ha other b hb
  rw [← key_of_held ha, ← key_of_held hb]
  exact key_eq_iff

/-- Two versions of a package are held under one key.  A package whose name goes on like a version
is held under another one. -/
theorem parse_display_inverse_dashes :
    let older : Package := ⟨⟨"dev-libs", "foo", "2-r1", rfl, rfl, rfl⟩, ⟨"0", none⟩⟩
    let newer : Package := ⟨⟨"dev-libs", "foo", "3", rfl, rfl, rfl⟩, ⟨"1", none⟩⟩
    let other : Package := ⟨⟨"dev-libs", "foo-2", "3", rfl, rfl, rfl⟩, ⟨"0", none⟩⟩
    let tracker : Tracker Package Blocker :=
      Tracker.empty.after [.fill older, .fill newer, .fill other]
    parse "dev-libs/foo-2-r1" = .ok older.coordinate ∧
      parse "dev-libs/foo-2-3" = .ok other.coordinate ∧
      .occupant older ∈ tracker.entries "dev-libs/foo" ∧
      .occupant newer ∈ tracker.entries "dev-libs/foo" ∧
      .occupant other ∈ tracker.entries "dev-libs/foo-2" ∧
      older.coordinate.package = newer.coordinate.package ∧
      ¬ (other.coordinate.category = newer.coordinate.category ∧
        other.coordinate.package = newer.coordinate.package) := by
  intro older newer other tracker
  obtain ⟨hparse, -, -, htracker⟩ := parse_display_inverse
  have holder : .occupant older ∈ tracker.entries "dev-libs/foo" := by decide
  have hnewer : .occupant newer ∈ tracker.entries "dev-libs/foo" := by decide
  have hother : .occupant other ∈ tracker.entries "dev-libs/foo-2" := by decide
  have hsame := htracker Blocker _ _ _ holder _ _ hnewer
  have hdiffer := htracker Blocker _ _ _ hother _ _ hnewer
  exact ⟨(hparse _ _).mpr (by decide), (hparse _ _).mpr (by decide), holder, hnewer, hother,
    (hsame.mp rfl).2, fun h => absurd (hdiffer.mpr h) (by decide)⟩

end Keeping

end Coordinate
end PackageMetadata
