/-!
# Cutting a text at a separator

Three ways to take a text apart at one character: at its first occurrence (`cut`), at each
single occurrence in turn (`cuts`), and at all of them together (core's `List.splitOn`).

**Results**

* `cut_eq_some_iff`, `getD_cut`: the first part is the longest one that is free of the separator.
* `mem_cuts_iff`: the cuts are exactly the ways to write the text around the separator.
-/

namespace PackageMetadata
namespace Text

/-- The parts before and after the first separator, if there is one. -/
def cut (sep : Char) : List Char → Option (List Char × List Char)
  | [] => none
  | c :: s =>
      if c = sep then
        some ([], s)
      else
        (cut sep s).map fun parts => (c :: parts.1, parts.2)

/-- The parts before and after each separator, leftmost separator first. -/
def cuts (sep : Char) : List Char → List (List Char × List Char)
  | [] => []
  | c :: s =>
      let later := (cuts sep s).map fun parts => (c :: parts.1, parts.2)
      if c = sep then ([], s) :: later else later

section Cutting

/-- Without a separator there is nothing to cut. -/
theorem cut_eq_none_iff
    {sep : Char}
    {s : List Char} :
    cut sep s = none ↔ sep ∉ s := by
  induction s with
  | nil => simp [cut]
  | cons c s ih =>
      by_cases h : c = sep
      · simp [cut, h]
      · simp [cut, h, ih, Ne.symm h]

/-- A text is cut where its first separator stands. -/
theorem cut_eq_some_iff
    {sep : Char}
    {s before after : List Char} :
    cut sep s = some (before, after) ↔
      s = before ++ sep :: after ∧ sep ∉ before := by
  induction s generalizing before with
  | nil => simp [cut]
  | cons c s ih =>
      by_cases h : c = sep
      · subst h
        cases before with
        | nil => simp [cut]
        | cons b before =>
            simp only [cut, if_true, Option.some.injEq, Prod.mk.injEq, List.cons_append,
              List.cons.injEq, List.mem_cons, not_or]
            constructor
            · rintro ⟨h, -⟩
              cases h
            · rintro ⟨⟨rfl, -⟩, hne, -⟩
              exact absurd rfl hne
      · cases before with
        | nil => simp [cut, h]
        | cons b before =>
            simp only [cut, h, if_false, Option.map_eq_some_iff, Prod.mk.injEq,
              List.cons.injEq, List.cons_append, List.mem_cons, not_or]
            constructor
            · rintro ⟨⟨x, y⟩, hxy, ⟨rfl, rfl⟩, rfl⟩
              obtain ⟨rfl, hx⟩ := ih.mp hxy
              exact ⟨⟨rfl, rfl⟩, Ne.symm h, hx⟩
            · rintro ⟨⟨rfl, rfl⟩, -, hb⟩
              exact ⟨(before, after), ih.mpr ⟨rfl, hb⟩, ⟨rfl, rfl⟩, rfl⟩

/-- What stands in front of the first separator, which is all if there is none. -/
theorem getD_cut
    (sep : Char)
    (s : List Char) :
    ((cut sep s).map Prod.fst).getD s = s.takeWhile (· != sep) := by
  induction s with
  | nil => rfl
  | cons c s ih =>
      by_cases h : c = sep
      · simp [cut, h]
      · rw [cut, if_neg h, List.takeWhile_cons, if_pos (bne_iff_ne.mpr h), ← ih]
        cases cut sep s <;> rfl

/-- The cuts of a text are the ways to write it around one separator. -/
theorem mem_cuts_iff
    {sep : Char}
    {s before after : List Char} :
    (before, after) ∈ cuts sep s ↔ s = before ++ sep :: after := by
  induction s generalizing before with
  | nil => simp [cuts]
  | cons c s ih =>
      have hmap :
          (before, after) ∈ ((cuts sep s).map fun parts => (c :: parts.1, parts.2)) ↔
            ∃ tail, before = c :: tail ∧ s = tail ++ sep :: after := by
        simp only [List.mem_map, Prod.mk.injEq]
        constructor
        · rintro ⟨⟨x, y⟩, hxy, rfl, rfl⟩
          exact ⟨x, rfl, ih.mp hxy⟩
        · rintro ⟨tail, rfl, hs⟩
          exact ⟨(tail, after), ih.mpr hs, rfl, rfl⟩
      cases before with
      | nil =>
          by_cases h : c = sep
          · simp [cuts, h, eq_comm]
          · simp [cuts, h]
      | cons b before =>
          by_cases h : c = sep
          · simp only [cuts, h, if_true, List.mem_cons]
            rw [h] at hmap
            rw [hmap]
            grind
          · simp only [cuts, h, if_false]
            rw [hmap]
            grind

end Cutting

end Text
end PackageMetadata
