import PackageMetadata.OrderedMap.Lemmas
import PackageMetadata.Proofs.Trimming
import PackageMetadata.Slots.Package

/-!
# Slots and their text

A record names a slot by its text.  The reader takes the blanks off the ends of the text and looks
for one slash only, so the text of a slot tells the slot unless its main part has a slash, the text
begins or ends with a blank, or there is no text at all.  A slot is *legible* if nothing of this is
so.  An empty sub-slot is told from none by its slash.

A package is made of a record in the slot that is named there.  So it is made again of its own
record exactly if its slot is legible.

**Results**

* `ofText?_eq_none_iff`: which texts name no slot.
* `slot?_of_text`: the slot of a record is what its text names.
* `ofText?_display_iff_legible`: which slots are told by their text.
* `ofRecord_display_iff_legible`: records, slots and packages.
-/

namespace PackageMetadata

namespace Slot

/-- A slot that is read back from its text. -/
structure Legible (slot : Slot) : Prop where
  main_no_slash : '/' ∉ slot.main.toList
  display_ne_empty : slot.display ≠ ""
  display_trimmed : Text.trim slot.display.toList = slot.display.toList

/-- Only blank texts name no slot. -/
theorem ofText?_eq_none_iff {text : String} :
    ofText? text = none ↔ ∀ c ∈ text.toList, Text.isBlank c = true := by
  rw [ofText?, ← Text.trim_eq_nil_iff]
  cases Text.trim text.toList with
  | nil =>
      exact iff_of_true rfl rfl
  | cons c rest =>
      cases hcut : Text.cut '/' (c :: rest) <;> simp [hcut]

/-- The text of a slot names this slot exactly if the slot is legible. -/
theorem ofText?_display_iff_legible {slot : Slot} :
    ofText? slot.display = some slot ↔ slot.Legible := by
  rw [ofText?_eq_some_iff]
  constructor
  · rintro ⟨hslash, hne, htrim⟩
    exact
      { main_no_slash := hslash
        display_ne_empty := hne
        display_trimmed := htrim.symm }
  · intro h
    exact ⟨h.main_no_slash, h.display_ne_empty, h.display_trimmed.symm⟩

end Slot

theorem Record.slot?_of_text
    {record : Record}
    {text : String}
    (htext : record.get? slotKey = some (.text text)) :
    record.slot? = Slot.ofText? text := by
  rw [slot?, text?, htext]
  rfl

namespace Package

open Record (slotKey)

/-- A text under the key of the slot names no slot exactly if it is blank throughout.  Otherwise it
names the one slot whose main part has no slash and whose text it is when the blanks around it are
taken off.

So the text of a slot names this slot exactly if the slot is legible.

A package is made of a record exactly if the record names a slot, and then this is its slot.  Hence
it is made again of a record with the text of its slot exactly if the slot is legible. -/
theorem ofRecord_display_iff_legible :
    (∀ (record : Record) (text : String), record.get? slotKey = some (.text text) →
      (record.slot? = none ↔ ∀ c ∈ text.toList, Text.isBlank c = true) ∧
      ∀ slot, record.slot? = some slot ↔
        '/' ∉ slot.main.toList ∧ slot.display ≠ "" ∧
          slot.display.toList = Text.trim text.toList) ∧
    (∀ (record : Record) (slot : Slot), record.get? slotKey = some (.text slot.display) →
      (record.slot? = some slot ↔ slot.Legible)) ∧
    (∀ (coordinate : Coordinate) (record : Record),
      (∀ package, ofRecord coordinate record = .ok package ↔
        package.coordinate = coordinate ∧ record.slot? = some package.slot) ∧
      ∀ failure, ofRecord coordinate record = .error failure ↔
        record.slot? = none ∧ failure = .missingSlot coordinate) ∧
    ∀ (record : Record) (package : Package),
      record.get? slotKey = some (.text package.slot.display) →
        (ofRecord package.coordinate record = .ok package ↔ package.slot.Legible) := by
  refine ⟨fun record text htext => ?_, fun record slot htext => ?_, fun coordinate record => ?_,
    fun record package htext => ?_⟩
  · rw [Record.slot?_of_text htext]
    exact ⟨Slot.ofText?_eq_none_iff, fun _ => Slot.ofText?_eq_some_iff⟩
  · rw [Record.slot?_of_text htext]
    exact Slot.ofText?_display_iff_legible
  · exact ⟨fun _ => ofRecord_eq_ok_iff, fun _ => ofRecord_eq_error_iff⟩
  · rw [ofRecord_eq_ok_iff, Record.slot?_of_text htext, Slot.ofText?_display_iff_legible]
    exact and_iff_right rfl

/-- An empty sub-slot and a slash in a sub-slot are kept, a slash in the main part is not. -/
theorem ofRecord_display_iff_legible_slashes :
    let holding (text : String) : Record :=
      (OrderedMap.ofList [("EAPI", .text "8")]).insert slotKey (.text text)
    let coordinate : Coordinate := ⟨"dev-libs", "foo", "3.1-r1", rfl, rfl, rfl⟩
    (holding "\t0/ \u3000").slot? = some ⟨"0", some ""⟩ ∧
      (holding " \u00a0").slot? = none ∧
      ofRecord coordinate (holding "3/3.1/x") = .ok ⟨coordinate, ⟨"3", some "3.1/x"⟩⟩ ∧
      ofRecord coordinate (holding "3/3.1/x") ≠ .ok ⟨coordinate, ⟨"3/3.1", some "x"⟩⟩ := by
  intro holding coordinate
  have htext (text : String) : (holding text).get? slotKey = some (.text text) :=
    (OrderedMap.get?_insert _ _ _ _).trans (if_pos rfl)
  obtain ⟨hnamed, -, -, hagain⟩ := ofRecord_display_iff_legible
  have hempty := (hnamed _ _ (htext "\t0/ \u3000")).2 ⟨"0", some ""⟩
  have hblank := (hnamed _ _ (htext " \u00a0")).1
  have hkept := hagain (holding "3/3.1/x") ⟨coordinate, ⟨"3", some "3.1/x"⟩⟩ (htext _)
  have hlost := hagain (holding "3/3.1/x") ⟨coordinate, ⟨"3/3.1", some "x"⟩⟩ (htext _)
  have hnothing := Text.trim_eq_nil_iff.mp (by decide : Text.trim " \u00a0".toList = [])
  refine ⟨hempty.mpr (by decide), hblank.mpr hnothing, hkept.mpr ⟨?_, ?_, ?_⟩, fun h => ?_⟩
  · decide
  · decide
  · decide
  · exact absurd (hlost.mp h).main_no_slash (by decide)

end Package
end PackageMetadata
