import Mathlib.Data.List.DropRight
import PackageMetadata.Text.Blank

/-!
# Trimmed texts

What is left of a text without the blanks at its ends, and of a text whose last characters are
taken off as long as they are of some kind.

**Results**

* `trim_eq_nil_iff`: a text vanishes under trimming exactly if it is blank throughout.
* `trim_concat`: a text whose end is not blank is trimmed at its beginning only.
* `trim_trim`, `getLast?_dropEndWhile`: what is trimmed stays trimmed.
-/

namespace PackageMetadata
namespace Text

section Ends

theorem dropEndWhile_eq_rdropWhile
    (p : Char → Bool)
    (s : List Char) :
    dropEndWhile p s = s.rdropWhile p :=
  rfl

theorem getLast?_dropEndWhile
    {p : Char → Bool}
    {s : List Char}
    {c : Char}
    (h : (dropEndWhile p s).getLast? = some c) :
    p c = false := by
  rw [dropEndWhile_eq_rdropWhile] at h
  have hne : s.rdropWhile p ≠ [] := by
    intro hnil
    rw [hnil] at h
    cases h
  rw [List.getLast?_eq_some_getLast hne, Option.some.injEq] at h
  rw [← h]
  exact Bool.eq_false_iff.mpr (List.rdropWhile_last_not p s hne)

theorem dropEndWhile_eq_self
    {p : Char → Bool}
    {s : List Char}
    (h : ∀ c ∈ s.getLast?, p c = false) :
    dropEndWhile p s = s := by
  refine List.rdropWhile_eq_self_iff.mpr fun hne => ?_
  rw [h (s.getLast hne) (List.getLast?_eq_some_getLast hne)]
  exact Bool.false_ne_true

end Ends

section Trimming

theorem trim_eq_nil_iff {s : List Char} :
    trim s = [] ↔ ∀ c ∈ s, isBlank c = true := by
  rw [trim, dropEndWhile_eq_rdropWhile, List.rdropWhile_eq_nil_iff, ← List.dropWhile_eq_nil_iff,
    List.dropWhile_idempotent, List.dropWhile_eq_nil_iff]

/-- A character at the end that is not blank keeps the end from being trimmed. -/
theorem trim_concat
    {c : Char}
    (s : List Char)
    (hc : isBlank c = false) :
    trim (s ++ [c]) = (s ++ [c]).dropWhile isBlank := by
  have hkept : (s ++ [c]).dropWhile isBlank = s.dropWhile isBlank ++ [c] := by
    rw [List.dropWhile_append]
    by_cases hblank : s.dropWhile isBlank = [] <;> simp [hblank, hc]
  rw [trim, hkept, dropEndWhile_eq_rdropWhile]
  exact List.rdropWhile_concat_neg isBlank _ c (Bool.eq_false_iff.mp hc)

theorem mem_of_mem_trim
    {s : List Char}
    {c : Char}
    (h : c ∈ trim s) :
    c ∈ s :=
  (List.dropWhile_sublist isBlank).subset ((List.rdropWhile_prefix isBlank _).subset h)

/-- What is left by trimming neither begins nor ends with a blank. -/
theorem trim_trim (s : List Char) :
    trim (trim s) = trim s := by
  have hfront : (trim s).dropWhile isBlank = trim s := by
    refine List.dropWhile_eq_self_iff.mpr fun hlength => ?_
    have hinitial : trim s <+: s.dropWhile isBlank := List.rdropWhile_prefix isBlank _
    have hkept : 0 < (s.dropWhile isBlank).length := hlength.trans_le hinitial.length_le
    rw [hinitial.getElem hlength]
    exact List.dropWhile_get_zero_not isBlank s hkept
  rw [trim, hfront, trim]
  exact List.rdropWhile_idempotent isBlank _

end Trimming

end Text
end PackageMetadata
