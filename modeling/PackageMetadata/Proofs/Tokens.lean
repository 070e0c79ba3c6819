import PackageMetadata.Proofs.Trimming

/-!
# Tokens around a blank separator

A text is written as tokens with a separator between any two of them and read by trimming
and splitting it.  If the separator is blank itself then trimming may remove whole tokens
with it.  This module says what is left of the tokens.

**Results**

* `dropWhile_intercalate`: which tokens are left behind the blank beginning of a text.
* `splitOn_trim_intercalate`: which tokens are read of a text whose end is not blank.
-/

namespace PackageMetadata
namespace Text

/-- What trimming leaves of tokens at their beginning: blank tokens are removed, up to one
that is not, and of this one the blank beginning. -/
def trimFront : List (List Char) → List (List Char)
  | [] => []
  | token :: rest =>
      match token.dropWhile isBlank with
      | [] => trimFront rest
      | c :: kept => (c :: kept) :: rest

section Trimming

theorem trimFront_cons_of_blank
    {token : List Char}
    {rest : List (List Char)}
    (h : token.dropWhile isBlank = []) :
    trimFront (token :: rest) = trimFront rest := by
  rw [trimFront, h]

theorem trimFront_cons_of_not_blank
    {token : List Char}
    {rest : List (List Char)}
    (h : token.dropWhile isBlank ≠ []) :
    trimFront (token :: rest) = token.dropWhile isBlank :: rest := by
  rw [trimFront]
  split
  · contradiction
  · rename_i heq
    rw [heq]

/-- Tokens whose first character is not blank are left alone. -/
theorem trimFront_eq_self
    {token : List Char}
    {rest : List (List Char)}
    (htoken : token ≠ [])
    (hvisible : ∀ c ∈ token.head?, isBlank c = false) :
    trimFront (token :: rest) = token :: rest := by
  cases token with
  | nil =>
      contradiction
  | cons c kept =>
      have hc : isBlank c = false := hvisible c rfl
      simp [trimFront, hc]

/-- What is left of tokens is made of their characters. -/
theorem not_mem_of_mem_trimFront
    {c : Char}
    {tokens : List (List Char)}
    (h : ∀ token ∈ tokens, c ∉ token) :
    ∀ token ∈ trimFront tokens, c ∉ token := by
  induction tokens with
  | nil =>
      exact h
  | cons token rest ih =>
      obtain ⟨htoken, hrest⟩ := List.forall_mem_cons.mp h
      by_cases hblank : token.dropWhile isBlank = []
      · rw [trimFront_cons_of_blank hblank]
        exact ih hrest
      · rw [trimFront_cons_of_not_blank hblank]
        refine List.forall_mem_cons.mpr ⟨fun hc => ?_, hrest⟩
        exact htoken ((List.dropWhile_sublist isBlank).subset hc)

variable {sep : Char} (hsep : isBlank sep = true)
include hsep

/-- Behind the blank beginning of a text there is what trimming leaves of its tokens. -/
theorem dropWhile_intercalate (tokens : List (List Char)) :
    ([sep].intercalate tokens).dropWhile isBlank = [sep].intercalate (trimFront tokens) := by
  induction tokens with
  | nil =>
      simp [trimFront]
  | cons token rest ih =>
      cases rest with
      | nil =>
          by_cases hblank : token.dropWhile isBlank = []
          · simp [hblank, trimFront]
          · simp [trimFront_cons_of_not_blank hblank]
      | cons next rest =>
          rw [List.intercalate_cons_cons, List.append_assoc, List.dropWhile_append]
          by_cases hblank : token.dropWhile isBlank = []
          · rw [trimFront_cons_of_blank hblank, hblank]
            simpa [hsep] using ih
          · rw [trimFront_cons_of_not_blank hblank, List.intercalate_cons_cons]
            simp [hblank]

end Trimming

section Ends

/-- The last token is the end of a text. -/
theorem exists_intercalate_concat
    (sep : List Char)
    (front : List (List Char))
    (last : List Char) :
    ∃ s, sep.intercalate (front ++ [last]) = s ++ last := by
  induction front with
  | nil =>
      exact ⟨[], by simp⟩
  | cons token rest ih =>
      obtain ⟨s, hs⟩ := ih
      refine ⟨token ++ sep ++ s, ?_⟩
      rw [List.cons_append, List.intercalate_cons_of_ne_nil (by simp), hs]
      simp

end Ends

section Splitting

variable {sep : Char}

/-- No token of a split text contains the separator. -/
theorem not_mem_of_mem_splitOn
    {s token : List Char}
    (h : token ∈ s.splitOn sep) :
    sep ∉ token := by
  induction s generalizing token with
  | nil =>
      simp_all
  | cons c s ih =>
      rw [List.splitOn_cons_eq_if_modifyHead] at h
      split at h
      · rcases List.mem_cons.mp h with rfl | hmem
        · simp
        · exact ih hmem
      · rename_i hne
        cases htokens : s.splitOn sep with
        | nil =>
            exact absurd htokens (List.splitOn_ne_nil sep s)
        | cons first rest =>
            rw [htokens] at h ih
            rcases List.mem_cons.mp h with rfl | hmem
            · have hfirst := ih List.mem_cons_self
              rintro hsep
              rcases List.mem_cons.mp hsep with rfl | hsep
              · simp at hne
              · exact hfirst hsep
            · exact ih (List.mem_cons_of_mem first hmem)

/-- A text whose last token has no blanks is trimmed at its beginning only, and split into the
tokens that are left there. -/
theorem splitOn_trim_intercalate
    {front : List (List Char)}
    {last : List Char}
    (hsep : isBlank sep = true)
    (hfree : ∀ token ∈ front ++ [last], sep ∉ token)
    (hlast : last ≠ [])
    (hvisible : ∀ c ∈ last, isBlank c = false) :
    trim ([sep].intercalate (front ++ [last])) ≠ [] ∧
      (trim ([sep].intercalate (front ++ [last]))).splitOn sep = trimFront (front ++ [last]) := by
  obtain ⟨init, c, hconcat⟩ := (List.eq_nil_or_concat last).resolve_left hlast
  rw [List.concat_eq_append] at hconcat
  subst hconcat
  have hc : isBlank c = false := hvisible c (by simp)
  obtain ⟨s, hs⟩ := exists_intercalate_concat [sep] front (init ++ [c])
  have htrim : trim ([sep].intercalate (front ++ [init ++ [c]])) =
      [sep].intercalate (trimFront (front ++ [init ++ [c]])) := by
    rw [← dropWhile_intercalate hsep, hs, ← List.append_assoc, trim_concat _ hc]
  have hne : trim ([sep].intercalate (front ++ [init ++ [c]])) ≠ [] := by
    intro hnil
    have hblank := trim_eq_nil_iff.mp hnil c (by simp [hs])
    rw [hc] at hblank
    cases hblank
  have hkept : trimFront (front ++ [init ++ [c]]) ≠ [] := by
    intro hnil
    rw [htrim, hnil] at hne
    exact hne rfl
  refine ⟨hne, ?_⟩
  rw [htrim]
  exact List.splitOn_intercalate sep (not_mem_of_mem_trimFront hfree) hkept

end Splitting

end Text
end PackageMetadata
