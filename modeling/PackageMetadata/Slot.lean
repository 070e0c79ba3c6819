import PackageMetadata.Text.Cut
import PackageMetadata.Text.Blank

/-!
# Slots

Versions of one package that take different slots can be installed side by side.  A slot
may name a sub-slot behind a slash, which never decides whether two packages collide.

**Results**

* `ofText?_eq_some_iff`: which slot a text names.
* `toList_main_of_ofText?`: what its main part is.
-/

namespace PackageMetadata

/-- The slot that a package takes. -/
structure Slot where
  main : String
  subslot : Option String := none
deriving DecidableEq

namespace Slot

/-- The text of a slot.  An empty sub-slot still shows its slash. -/
def display (slot : Slot) : String :=
  match slot.subslot with
  | none => slot.main
  | some subslot => slot.main ++ "/" ++ subslot

/-- Reads a slot.  Blanks around the text are ignored and the first slash starts the
sub-slot. -/
def ofText? (text : String) : Option Slot :=
  match Text.trim text.toList with
  | [] => none
  | trimmed =>
      match Text.cut '/' trimmed with
      | none => some ⟨String.ofList trimmed, none⟩
      | some (main, subslot) =>
          some ⟨String.ofList main, some (String.ofList subslot)⟩

section Reading

variable {text : String} {slot : Slot}

/-- The first slash of a slot's text is the one in front of the sub-slot, unless the main part has
slashes of its own. -/
theorem cut_display (h : '/' ∉ slot.main.toList) :
    Text.cut '/' slot.display.toList =
      slot.subslot.map fun subslot => (slot.main.toList, subslot.toList) := by
  cases hsubslot : slot.subslot with
  | none =>
      rw [display, hsubslot]
      exact Text.cut_eq_none_iff.mpr h
  | some subslot =>
      refine Text.cut_eq_some_iff.mpr ⟨?_, h⟩
      rw [display, hsubslot]
      simp

/-- A text names the slot whose text it is but for blanks around it. -/
theorem ofText?_eq_some_iff :
    ofText? text = some slot ↔
      '/' ∉ slot.main.toList ∧ slot.display ≠ "" ∧
        slot.display.toList = Text.trim text.toList := by
  rw [ofText?]
  constructor
  · intro h
    split at h
    · cases h
    · rename_i hne
      have hparts : '/' ∉ slot.main.toList ∧ slot.display.toList = Text.trim text.toList := by
        cases hcut : Text.cut '/' (Text.trim text.toList) with
        | none =>
            rw [hcut] at h
            obtain rfl := Option.some.inj h
            simpa [display] using Text.cut_eq_none_iff.mp hcut
        | some parts =>
            obtain ⟨htext, hslash⟩ := Text.cut_eq_some_iff.mp hcut
            rw [hcut] at h
            obtain rfl := Option.some.inj h
            simp [display, htext, hslash]
      refine ⟨hparts.1, fun hempty => hne ?_, hparts.2⟩
      rw [← hparts.2, hempty]
      rfl
  · rintro ⟨hslash, hne, htext⟩
    rw [← htext]
    split
    · rename_i hnil
      exact absurd (String.toList_inj.mp hnil) hne
    · rw [cut_display hslash]
      obtain ⟨main, subslot⟩ := slot
      cases subslot <;> simp [display]

/-- The main part of a slot is what stands in front of the first slash. -/
theorem toList_main_of_ofText? (h : ofText? text = some slot) :
    slot.main.toList = (Text.trim text.toList).takeWhile (· != '/') := by
  obtain ⟨hslash, -, hdisplay⟩ := ofText?_eq_some_iff.mp h
  rw [← hdisplay, ← Text.getD_cut, cut_display hslash, display]
  cases slot.subslot <;> rfl

end Reading

section Examples

example : ofText? " 0/1.2 " = some ⟨"0", some "1.2"⟩ := by decide
example : ofText? " " = none := by decide

end Examples

end Slot
end PackageMetadata
