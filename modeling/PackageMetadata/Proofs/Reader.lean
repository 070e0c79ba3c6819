import Mathlib.Data.List.Lattice
import Mathlib.Data.List.TakeWhile
import PackageMetadata.Proofs.Pattern
import PackageMetadata.Text.Reader

/-!
# What readers take

A reader that goes from left to right never gives back what it has taken.  Still it reads a
pattern if no text of the pattern can be followed by a character with which the reader would have
gone on.  Those characters are named along with the pattern, so that readers can be put together:
what comes next in a text must not begin with one of them.

**Results**

* `takes_bind`, `takes_option`, `takes_many`: readers one after the other, an optional one, and one
  that is repeated.
* `takes_firstOf`: of some texts the first one that is there.
* `isSome_iff_matches`: a reader of a whole text accepts its pattern.
-/

namespace PackageMetadata
namespace Reader

open Text (Pattern)
open Text.Pattern

variable {α β : Type} {reader : Reader α} {next : Reader β}
variable {pattern other : Pattern} {onward further : List Char}

section Running

theorem bind_apply
    (reader : Reader α)
    (next : α → Reader β)
    (s : List Char) :
    (reader >>= next) s = (reader s).bind fun taken => next taken.1 taken.2 :=
  rfl

theorem seqLeft_atEnd_apply
    (reader : Reader α)
    (s : List Char) :
    (reader <* atEnd) s =
      (reader s).bind fun taken => (atEnd taken.2).bind fun ended => some (taken.1, ended.2) :=
  rfl

end Running

section Taking

/-- A text that does not begin with any of some characters. -/
def Avoids (chars s : List Char) : Prop :=
  ∀ c ∈ s.head?, c ∉ chars

instance (left right : List Char) : Decidable (left.Disjoint right) :=
  decidable_of_iff (left ∩ right = []) List.inter_eq_nil_iff_disjoint

/-- A reader takes texts of a pattern and nothing else.  It takes such a text off the front of
another text if none of some characters follows, with which it might go on. -/
structure Takes
    (reader : Reader α)
    (pattern : Pattern)
    (onward : List Char) :
    Prop where
  sound : ∀ {s x rest}, reader s = some (x, rest) →
    ∃ front ∈ pattern.matches', s = front ++ rest
  complete : ∀ {front rest}, front ∈ pattern.matches' → Avoids onward rest →
    ∃ x, reader (front ++ rest) = some (x, rest)

theorem avoids_append
    {left right s : List Char} :
    Avoids (left ++ right) s ↔ Avoids left s ∧ Avoids right s := by
  simp only [Avoids, List.mem_append, not_or]
  exact ⟨fun h => ⟨fun c hc => (h c hc).1, fun c hc => (h c hc).2⟩,
    fun h c hc => ⟨h.1 c hc, h.2 c hc⟩⟩

/-- What follows is avoided if no text of the pattern begins with it. -/
theorem avoids_of_matches
    {front rest : List Char}
    (hfollow : pattern.firsts.Disjoint onward)
    (hfront : front ∈ pattern.matches')
    (hrest : Avoids onward rest) :
    Avoids onward (front ++ rest) := by
  cases front with
  | nil =>
      exact hrest
  | cons d front =>
      intro c hc
      obtain rfl := Option.mem_some_iff.mp hc
      exact hfollow (mem_firsts_of_matches hfront)

/-- A reader fails where no text of its pattern may begin. -/
theorem eq_none_of_avoids
    {s : List Char}
    (h : Takes reader pattern onward)
    (hnonempty : pattern.matchEpsilon = false)
    (havoids : Avoids pattern.firsts s) :
    reader s = none := by
  cases hread : reader s with
  | none =>
      rfl
  | some taken =>
      obtain ⟨front, hfront, rfl⟩ := h.sound hread
      have hne := ne_nil_of_matches hnonempty hfront
      obtain ⟨c, front, rfl⟩ := List.exists_cons_of_ne_nil hne
      exact absurd (mem_firsts_of_matches hfront) (havoids c rfl)

theorem takes_mono
    (h : Takes reader pattern onward)
    (hsubset : onward ⊆ further) :
    Takes reader pattern further where
  sound := h.sound
  complete hfront havoids := h.complete hfront fun c hc hmem => havoids c hc (hsubset hmem)

theorem takes_congr
    (h : Takes reader pattern onward)
    (heq : pattern.matches' = other.matches') :
    Takes reader other onward where
  sound hread := heq ▸ h.sound hread
  complete hfront havoids := h.complete (heq ▸ hfront) havoids

end Taking

section Texts

theorem takes_satisfy
    {p : Char → Bool}
    {chars : List Char}
    (h : ∀ c, c ∈ chars ↔ p c = true) :
    Takes (satisfy p) (oneOf chars) [] where
  sound {s x rest} hread := by
    cases s with
    | nil =>
        cases hread
    | cons c s =>
        cases hc : p c with
        | false =>
            simp [satisfy, hc] at hread
        | true =>
            simp only [satisfy, hc, if_true, Option.some.injEq, Prod.mk.injEq] at hread
            exact ⟨[c], matches_oneOf_iff.mpr ⟨c, (h c).mpr hc, rfl⟩, by rw [← hread.2]; rfl⟩
  complete {front rest} hfront _ := by
    obtain ⟨c, hc, rfl⟩ := matches_oneOf_iff.mp hfront
    exact ⟨c, by simp [satisfy, (h c).mp hc]⟩

theorem takes_char (c : Char) :
    Takes (char c) (.char c) [] := by
  have h : Takes (char c) (oneOf [c]) [] := takes_satisfy (by simp)
  exact takes_congr h (by simp [oneOf])

theorem exactly_eq_some_iff
    {text s rest : List Char}
    {x : Unit} :
    exactly text s = some (x, rest) ↔ s = text ++ rest := by
  simp only [exactly, List.isPrefixOf_iff_prefix]
  constructor
  · intro hread
    split at hread
    · rename_i hpre
      obtain ⟨tail, rfl⟩ := hpre
      rw [List.drop_left] at hread
      cases hread
      rfl
    · cases hread
  · rintro rfl
    rw [if_pos (List.prefix_append text rest), List.drop_left]

theorem takes_exactly (text : List Char) :
    Takes (exactly text) (word text) [] where
  sound hread := ⟨text, matches_word_iff.mpr rfl, exactly_eq_some_iff.mp hread⟩
  complete hfront _ := by
    obtain rfl := matches_word_iff.mp hfront
    exact ⟨(), exactly_eq_some_iff.mpr rfl⟩

theorem firstOf_eq_some_iff
    {texts : List (List Char)}
    {s rest : List Char}
    {x : Unit} :
    firstOf texts s = some (x, rest) ↔
      ∃ text, texts.find? (·.isPrefixOf s) = some text ∧ s = text ++ rest := by
  rw [firstOf, Option.map_eq_some_iff]
  refine exists_congr fun text => and_congr_right fun hfound => ?_
  have hthere := List.find?_some (p := fun text : List Char => text.isPrefixOf s) hfound
  obtain ⟨tail, rfl⟩ := List.isPrefixOf_iff_prefix.mp hthere
  rw [List.drop_left, List.append_cancel_left_eq, Prod.mk.injEq]
  exact ⟨fun h => h.2, fun h => ⟨rfl, h⟩⟩

/-- Of some texts the first one is taken that is there.  So none of them may stand behind a text
that may begin as it does. -/
theorem takes_firstOf
    {texts : List (List Char)}
    (hlater : ∀ rest, Avoids onward rest →
      texts.Pairwise fun earlier later => ¬ earlier <+: later ++ rest) :
    Takes (firstOf texts) (anyOf texts) onward where
  sound hread := by
    obtain ⟨text, hfound, heq⟩ := firstOf_eq_some_iff.mp hread
    exact ⟨text, matches_anyOf_iff.mpr (List.mem_of_find?_eq_some hfound), heq⟩
  complete {front rest} hfront havoids := by
    obtain ⟨before, after, rfl⟩ := List.append_of_mem (matches_anyOf_iff.mp hfront)
    have hbefore := (List.pairwise_append.mp (hlater rest havoids)).2.2
    have hthere : front.isPrefixOf (front ++ rest) = true :=
      List.isPrefixOf_iff_prefix.mpr (List.prefix_append front rest)
    have hfound : (before ++ front :: after).find? (·.isPrefixOf (front ++ rest)) = some front := by
      refine List.find?_eq_some_iff_append.mpr ⟨hthere, before, after, rfl, fun text htext => ?_⟩
      rw [Bool.not_eq_true', ← Bool.not_eq_true, List.isPrefixOf_iff_prefix]
      exact hbefore text htext front List.mem_cons_self
    exact ⟨(), firstOf_eq_some_iff.mpr ⟨front, hfound, rfl⟩⟩

theorem takes_span
    {p : Char → Bool}
    {chars : List Char}
    (h : ∀ c, c ∈ chars ↔ p c = true) :
    Takes (span p) (oneOf chars).star chars where
  sound {s x rest} hread := by
    cases hread
    refine ⟨s.takeWhile p, ?_, List.takeWhile_append_dropWhile.symm⟩
    exact matches_star_oneOf_iff.mpr fun c hc => (h c).mpr (List.mem_takeWhile_imp hc)
  complete {front rest} hfront havoids := by
    have hall : ∀ c ∈ front, p c = true := fun c hc =>
      (h c).mp (matches_star_oneOf_iff.mp hfront c hc)
    have hstop : rest.dropWhile p = rest := by
      cases rest with
      | nil =>
          rfl
      | cons c rest =>
          have hc : ¬ p c = true := fun hc => havoids c rfl ((h c).mpr hc)
          rw [List.dropWhile_cons, if_neg hc]
    refine ⟨(front ++ rest).takeWhile p, ?_⟩
    rw [span, List.dropWhile_append_of_pos hall, hstop]

end Texts

section Combining

/-- One reader behind another. -/
theorem takes_bind
    (h : Takes reader pattern onward)
    (hnext : Takes next other further)
    (hfollow : other.firsts.Disjoint onward) :
    Takes (reader >>= fun _ => next) (pattern * other) (onward ++ further) where
  sound {s x rest} hread := by
    rw [bind_apply, Option.bind_eq_some_iff] at hread
    obtain ⟨taken, htaken, hrest⟩ := hread
    obtain ⟨front, hfront, rfl⟩ := h.sound htaken
    obtain ⟨back, hback, heq⟩ := hnext.sound hrest
    refine ⟨front ++ back, Language.mem_mul.mpr ⟨front, hfront, back, hback, rfl⟩, ?_⟩
    rw [heq, List.append_assoc]
  complete {s rest} hmatch havoids := by
    obtain ⟨front, hfront, back, hback, rfl⟩ := Language.mem_mul.mp hmatch
    obtain ⟨honward, hfurther⟩ := avoids_append.mp havoids
    obtain ⟨x, hx⟩ := h.complete hfront (avoids_of_matches hfollow hback honward)
    obtain ⟨y, hy⟩ := hnext.complete hback hfurther
    refine ⟨y, ?_⟩
    rw [List.append_assoc, bind_apply, hx]
    exact hy

theorem takes_bind_pure
    (h : Takes reader pattern onward)
    (y : β) :
    Takes (reader >>= fun _ => pure y) pattern onward where
  sound {s x rest} hread := by
    rw [bind_apply, Option.bind_eq_some_iff] at hread
    obtain ⟨taken, htaken, hrest⟩ := hread
    cases hrest
    exact h.sound htaken
  complete hfront havoids := by
    obtain ⟨x, hx⟩ := h.complete hfront havoids
    refine ⟨y, ?_⟩
    rw [bind_apply, hx]
    rfl

/-- A reader that may take nothing. -/
theorem takes_option
    (h : Takes reader pattern onward)
    (hnonempty : pattern.matchEpsilon = false) :
    Takes (option reader) pattern.optional (pattern.firsts ++ onward) where
  sound {s x rest} hread := by
    rw [option] at hread
    cases htaken : reader s with
    | none =>
        rw [htaken] at hread
        cases hread
        exact ⟨[], matches_optional_iff.mpr (.inl rfl), rfl⟩
    | some taken =>
        rw [htaken] at hread
        cases hread
        obtain ⟨front, hfront, heq⟩ := h.sound htaken
        exact ⟨front, matches_optional_iff.mpr (.inr hfront), heq⟩
  complete {front rest} hfront havoids := by
    obtain ⟨hfirsts, honward⟩ := avoids_append.mp havoids
    rw [option]
    rcases matches_optional_iff.mp hfront with rfl | hfront
    · rw [List.nil_append, eq_none_of_avoids h hnonempty hfirsts]
      exact ⟨none, rfl⟩
    · obtain ⟨x, hx⟩ := h.complete hfront honward
      rw [hx]
      exact ⟨some x, rfl⟩

theorem sound_atMost
    (h : Takes reader pattern onward)
    (times : Nat)
    (s : List Char) :
    ∃ front ∈ pattern.star.matches', s = front ++ (atMost reader times s).2 := by
  have hnil : [] ∈ pattern.star.matches' := Language.nil_mem_kstar _
  induction times generalizing s with
  | zero =>
      exact ⟨[], hnil, rfl⟩
  | succ times ih =>
      rw [atMost]
      cases htaken : reader s with
      | none =>
          exact ⟨[], hnil, rfl⟩
      | some taken =>
          obtain ⟨front, hfront, rfl⟩ := h.sound htaken
          obtain ⟨back, hback, heq⟩ := ih taken.2
          have hstep : pattern.matches' * pattern.star.matches' ≤ pattern.star.matches' :=
            mul_kstar_le_kstar
          have hmatch := hstep (Language.append_mem_mul hfront hback)
          exact ⟨front ++ back, hmatch, by rw [List.append_assoc, ← heq]⟩

/-- There is room for as many texts as there are characters, since none of them is empty. -/
theorem complete_atMost
    (h : Takes reader pattern onward)
    (hnonempty : pattern.matchEpsilon = false)
    (hfollow : pattern.firsts.Disjoint onward)
    {times : Nat}
    {texts : List (List Char)}
    {rest : List Char}
    (htexts : ∀ text ∈ texts, text ∈ pattern.matches')
    (hfirsts : Avoids pattern.firsts rest)
    (honward : Avoids onward rest)
    (hroom : texts.flatten.length ≤ times) :
    (atMost reader times (texts.flatten ++ rest)).2 = rest := by
  induction times generalizing texts with
  | zero =>
      have hnil := List.eq_nil_of_length_eq_zero (Nat.le_zero.mp hroom)
      rw [hnil]
      rfl
  | succ times ih =>
      rw [atMost]
      cases texts with
      | nil =>
          rw [List.flatten_nil, List.nil_append, eq_none_of_avoids h hnonempty hfirsts]
      | cons text texts =>
          -- The text is taken with the others behind it, none of which begins as it goes on.
          obtain ⟨htext, htexts⟩ := List.forall_mem_cons.mp htexts
          have hlength := List.length_pos_of_ne_nil (ne_nil_of_matches hnonempty htext)
          have hstar : texts.flatten ∈ pattern.star.matches' :=
            Language.mem_kstar.mpr ⟨texts, rfl, htexts⟩
          have hagain : (firsts pattern.star).Disjoint onward := hfollow
          rw [List.flatten_cons, List.length_append] at hroom
          obtain ⟨x, hx⟩ := h.complete htext (avoids_of_matches hagain hstar honward)
          rw [List.flatten_cons, List.append_assoc, hx]
          exact ih htexts (by omega)

/-- A reader that is repeated until it fails. -/
theorem takes_many
    (h : Takes reader pattern onward)
    (hnonempty : pattern.matchEpsilon = false)
    (hfollow : pattern.firsts.Disjoint onward) :
    Takes (many reader) pattern.star (pattern.firsts ++ onward) where
  sound {s x rest} hread := by
    have hsound := sound_atMost h s.length s
    rw [Option.some.inj hread] at hsound
    exact hsound
  complete {front rest} hfront havoids := by
    obtain ⟨texts, rfl, htexts⟩ := Language.mem_kstar.mp hfront
    obtain ⟨hfirsts, honward⟩ := avoids_append.mp havoids
    have hroom : texts.flatten.length ≤ (texts.flatten ++ rest).length := by
      rw [List.length_append]
      exact Nat.le_add_right _ _
    have hend := complete_atMost h hnonempty hfollow htexts hfirsts honward hroom
    exact ⟨_, congrArg some (Prod.ext rfl hend)⟩

end Combining

section Ending

/-- If nothing may follow then a reader accepts the texts of its pattern and no others. -/
theorem isSome_iff_matches
    (h : Takes reader pattern onward)
    {s : List Char} :
    ((reader <* atEnd) s).isSome = true ↔ s ∈ pattern.matches' := by
  rw [seqLeft_atEnd_apply]
  constructor
  · intro hsome
    cases hread : reader s with
    | none =>
        rw [hread] at hsome
        cases hsome
    | some taken =>
        obtain ⟨front, hfront, rfl⟩ := h.sound hread
        obtain ⟨x, rest⟩ := taken
        cases rest with
        | nil =>
            rw [List.append_nil]
            exact hfront
        | cons c rest =>
            rw [hread] at hsome
            cases hsome
  · intro hmatch
    have hend : Avoids onward [] := nofun
    obtain ⟨x, hx⟩ := h.complete hmatch hend
    rw [List.append_nil] at hx
    rw [hx]
    rfl

end Ending

end Reader
end PackageMetadata
