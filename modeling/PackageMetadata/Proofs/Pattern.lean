import Mathlib.Computability.RegularExpressions

/-!
# Patterns of texts

A pattern is a regular expression over characters.  It says which texts have a form, and
nothing about how such a text is read.

**Results**

* `mem_letters_of_matches`: a text that matches has only characters that its pattern names.
* `mem_firsts_of_matches`: with which characters it may begin.
-/

namespace PackageMetadata
namespace Text

open scoped Computability

/-- A regular expression over characters. -/
abbrev Pattern := RegularExpression Char

namespace Pattern

section Building

/-- The characters from the first one to the last. -/
def range (first last : Char) : List Char :=
  (List.range' first.toNat (last.toNat + 1 - first.toNat)).map Char.ofNat

/-- Any one of some characters. -/
def oneOf (chars : List Char) : Pattern :=
  (chars.map .char).sum

/-- Exactly the given text. -/
def word (text : List Char) : Pattern :=
  (text.map .char).prod

/-- Any one of some texts. -/
def anyOf (texts : List (List Char)) : Pattern :=
  (texts.map word).sum

/-- One or more times the same pattern. -/
def many (pattern : Pattern) : Pattern :=
  pattern * pattern.star

/-- A pattern or nothing. -/
def optional (pattern : Pattern) : Pattern :=
  1 + pattern

/-- The characters that a pattern names. -/
def letters : Pattern → List Char
  | .zero => []
  | .epsilon => []
  | .char c => [c]
  | .plus left right => letters left ++ letters right
  | .comp left right => letters left ++ letters right
  | .star pattern => letters pattern

/-- One item and then any number of others, each behind a separator. -/
def separated
    (sep : Char)
    (first other : Pattern) :
    Pattern :=
  first * (.char sep * other).star

/-- The characters with which a text may begin that matches. -/
def firsts : Pattern → List Char
  | .zero => []
  | .epsilon => []
  | .char c => [c]
  | .plus left right => firsts left ++ firsts right
  | .comp left right => if left.matchEpsilon then firsts left ++ firsts right else firsts left
  | .star pattern => firsts pattern

end Building

section Matching

/-- A range of characters before the surrogates is the interval between its ends. -/
theorem mem_range_iff
    {first last c : Char}
    (hlast : last.toNat < 0xd800) :
    c ∈ range first last ↔ first ≤ c ∧ c ≤ last := by
  have hle (a b : Char) : a ≤ b ↔ a.toNat ≤ b.toNat := by
    rw [Char.le_def, UInt32.le_iff_toNat_le]
    rfl
  simp only [range, List.mem_map, List.mem_range'_1, hle]
  constructor
  · rintro ⟨code, ⟨hfirst, hcode⟩, rfl⟩
    have hvalid : code.isValidChar := Or.inl (by omega)
    have hsame : (Char.ofNat code).toNat = code := by
      rw [Char.ofNat, dif_pos hvalid]
      rfl
    omega
  · rintro ⟨hfirst, hlast⟩
    exact ⟨c.toNat, by omega, Char.ofNat_toNat c⟩

theorem matches_char_iff
    {c : Char}
    {s : List Char} :
    s ∈ (RegularExpression.char c).matches' ↔ s = [c] :=
  Iff.rfl

theorem matches_char_mul_iff
    {c : Char}
    {pattern : Pattern}
    {s : List Char} :
    s ∈ (.char c * pattern).matches' ↔ ∃ rest ∈ pattern.matches', s = c :: rest := by
  rw [RegularExpression.matches'_mul, Language.mem_mul]
  constructor
  · rintro ⟨front, hfront, rest, hrest, rfl⟩
    rw [matches_char_iff] at hfront
    exact ⟨rest, hrest, by rw [hfront, List.singleton_append]⟩
  · rintro ⟨rest, hrest, rfl⟩
    exact ⟨[c], rfl, rest, hrest, rfl⟩

@[simp] theorem matches_oneOf_iff
    {chars s : List Char} :
    s ∈ (oneOf chars).matches' ↔ ∃ c ∈ chars, s = [c] := by
  induction chars with
  | nil =>
      simp [oneOf]
  | cons c chars ih =>
      have hcons : oneOf (c :: chars) = .char c + oneOf chars := rfl
      rw [hcons, RegularExpression.matches'_add, Language.mem_add, ih, matches_char_iff]
      simp

@[simp] theorem matches_word_iff
    {text s : List Char} :
    s ∈ (word text).matches' ↔ s = text := by
  induction text generalizing s with
  | nil =>
      simp [word]
  | cons c text ih =>
      have hcons : word (c :: text) = .char c * word text := rfl
      rw [hcons, matches_char_mul_iff]
      simp only [ih, exists_eq_left]

@[simp] theorem matches_anyOf_iff
    {texts : List (List Char)}
    {s : List Char} :
    s ∈ (anyOf texts).matches' ↔ s ∈ texts := by
  induction texts with
  | nil =>
      simp [anyOf]
  | cons text texts ih =>
      have hcons : anyOf (text :: texts) = word text + anyOf texts := rfl
      rw [hcons, RegularExpression.matches'_add, Language.mem_add, ih, matches_word_iff,
        List.mem_cons]

@[simp] theorem matches_optional_iff
    {pattern : Pattern}
    {s : List Char} :
    s ∈ pattern.optional.matches' ↔ s = [] ∨ s ∈ pattern.matches' := by
  rw [optional, RegularExpression.matches'_add, Language.mem_add,
    RegularExpression.matches'_epsilon, Language.mem_one]

theorem matches_star_oneOf_iff
    {chars s : List Char} :
    s ∈ (oneOf chars).star.matches' ↔ ∀ c ∈ s, c ∈ chars := by
  rw [RegularExpression.matches'_star, Language.mem_kstar]
  constructor
  · rintro ⟨texts, rfl, htexts⟩ c hc
    obtain ⟨text, htext, hmem⟩ := List.mem_flatten.mp hc
    obtain ⟨d, hd, rfl⟩ := matches_oneOf_iff.mp (htexts text htext)
    rw [List.mem_singleton.mp hmem]
    exact hd
  · intro h
    refine ⟨s.map fun c => [c], ?_, fun text htext => ?_⟩
    · rw [← List.flatMap_def, List.flatMap_singleton']
    · obtain ⟨c, hc, rfl⟩ := List.mem_map.mp htext
      exact matches_oneOf_iff.mpr ⟨c, h c hc, rfl⟩

@[simp] theorem matches_many_oneOf_iff
    {chars s : List Char} :
    s ∈ (many (oneOf chars)).matches' ↔ s ≠ [] ∧ ∀ c ∈ s, c ∈ chars := by
  rw [many, RegularExpression.matches'_mul, Language.mem_mul]
  constructor
  · rintro ⟨front, hfront, rest, hrest, rfl⟩
    obtain ⟨c, hc, rfl⟩ := matches_oneOf_iff.mp hfront
    refine ⟨by simp, List.forall_mem_cons.mpr ⟨hc, ?_⟩⟩
    exact matches_star_oneOf_iff.mp hrest
  · rintro ⟨hne, h⟩
    obtain ⟨c, rest, rfl⟩ := List.exists_cons_of_ne_nil hne
    obtain ⟨hc, hrest⟩ := List.forall_mem_cons.mp h
    exact ⟨[c], matches_oneOf_iff.mpr ⟨c, hc, rfl⟩, rest, matches_star_oneOf_iff.mpr hrest, rfl⟩

/-- A text that matches has only characters that its pattern names. -/
theorem mem_letters_of_matches
    {pattern : Pattern}
    {s : List Char}
    {c : Char}
    (hmatch : s ∈ pattern.matches')
    (hc : c ∈ s) :
    c ∈ pattern.letters := by
  induction pattern generalizing s with
  | zero =>
      exact absurd hmatch (Language.notMem_zero s)
  | epsilon =>
      obtain rfl : s = [] := hmatch
      cases hc
  | char d =>
      obtain rfl : s = [d] := hmatch
      exact hc
  | plus left right ihleft ihright =>
      rcases hmatch with hleft | hright
      · exact List.mem_append_left _ (ihleft hleft hc)
      · exact List.mem_append_right _ (ihright hright hc)
  | comp left right ihleft ihright =>
      obtain ⟨front, hfront, rest, hrest, rfl⟩ := Language.mem_mul.mp hmatch
      rcases List.mem_append.mp hc with hc | hc
      · exact List.mem_append_left _ (ihleft hfront hc)
      · exact List.mem_append_right _ (ihright hrest hc)
  | star pattern ih =>
      obtain ⟨texts, rfl, htexts⟩ := Language.mem_kstar.mp hmatch
      obtain ⟨text, htext, hmem⟩ := List.mem_flatten.mp hc
      exact ih (htexts text htext) hmem

theorem nil_matches_iff {pattern : Pattern} :
    [] ∈ pattern.matches' ↔ pattern.matchEpsilon = true :=
  (RegularExpression.rmatch_iff_matches' pattern []).symm

theorem ne_nil_of_matches
    {pattern : Pattern}
    {s : List Char}
    (hnonempty : pattern.matchEpsilon = false)
    (hmatch : s ∈ pattern.matches') :
    s ≠ [] := by
  rintro rfl
  rw [nil_matches_iff, hnonempty] at hmatch
  cases hmatch

/-- A text that matches begins with one of the first characters of its pattern, if it is not
empty. -/
theorem mem_firsts_of_matches
    {pattern : Pattern}
    {c : Char}
    {rest : List Char}
    (hmatch : c :: rest ∈ pattern.matches') :
    c ∈ pattern.firsts := by
  induction pattern generalizing c rest with
  | zero =>
      exact absurd hmatch (Language.notMem_zero _)
  | epsilon =>
      cases hmatch
  | char d =>
      cases hmatch
      exact List.mem_singleton_self _
  | plus left right ihleft ihright =>
      rcases hmatch with hleft | hright
      · exact List.mem_append_left _ (ihleft hleft)
      · exact List.mem_append_right _ (ihright hright)
  | comp left right ihleft ihright =>
      obtain ⟨front, hfront, back, hback, heq⟩ := Language.mem_mul.mp hmatch
      rw [firsts]
      cases front with
      | nil =>
          rw [List.nil_append] at heq
          subst heq
          rw [if_pos (nil_matches_iff.mp hfront)]
          exact List.mem_append_right _ (ihright hback)
      | cons d front =>
          obtain ⟨rfl, rfl⟩ := List.cons.inj heq
          split
          · exact List.mem_append_left _ (ihleft hfront)
          · exact ihleft hfront
  | star pattern ih =>
      obtain ⟨texts, heq, htexts⟩ := Language.mem_kstar_iff_exists_nonempty.mp hmatch
      cases texts with
      | nil =>
          cases heq
      | cons text texts =>
          obtain ⟨⟨htext, hne⟩, -⟩ := List.forall_mem_cons.mp htexts
          obtain ⟨d, tail, rfl⟩ := List.exists_cons_of_ne_nil hne
          obtain ⟨rfl, -⟩ := List.cons.inj heq
          exact ih htext

end Matching

end Pattern
end Text
end PackageMetadata
