import PackageMetadata.Slots.Tracker

/-!
# What a candidate meets

A candidate is compared with the entries of its key one after the other, and the search ends
early at a package that counts as the candidate.  Here it is said without the search: either
there is such a package, and then the first one is met, or the candidate meets exactly those
entries that oppose it.

**Results**

* `encounter_eq`: what is met, in terms of all entries.
* `exclusive_filter`, `exclusive_concat`: when no two packages have one slot.
* `standing_eq`: then there is at most one package that counts as the candidate.
-/

namespace PackageMetadata
namespace Tracker

variable {P R : Type} [Slotted P] [Restriction R P]

section Meeting

/-- Whether a package has the slot of a candidate and counts as the candidate. -/
def standsFor (candidate package : P) : Bool :=
  sharesSlot package candidate && Slotted.agrees package candidate

/-- Whether an entry stands in the way of a candidate: a blocker that forbids it, or a package
that has its slot. -/
def opposes (candidate : P) : Entry P R → Bool
  | .occupant package => sharesSlot package candidate
  | .blocker restriction => Restriction.blocks restriction candidate

/-- A candidate meets the first package that counts as it, or else all entries that oppose
it. -/
theorem encounter_eq
    (candidate : P)
    (bucket : List (Entry P R)) :
    encounter candidate bucket =
      match (bucket.filterMap Entry.occupant?).find? (standsFor candidate) with
      | some occupant => .present occupant
      | none => .conflicts (bucket.filter (opposes candidate)) := by
  induction bucket with
  | nil =>
      rfl
  | cons entry rest ih =>
      cases entry with
      | blocker restriction =>
          rw [encounter, ih]
          simp only [List.filterMap_cons, Entry.occupant?]
          cases (rest.filterMap Entry.occupant?).find? (standsFor candidate) with
          | some occupant =>
              rfl
          | none =>
              cases h : Restriction.blocks restriction candidate <;>
                simp [opposes, h]
      | occupant package =>
          rw [encounter, ih]
          cases hslot : sharesSlot package candidate with
          | false =>
              simp [Entry.occupant?, standsFor, opposes, hslot]
          | true =>
              cases hagrees : Slotted.agrees package candidate with
              | true =>
                  simp [Entry.occupant?, standsFor, hslot, hagrees]
              | false =>
                  simp only [List.filterMap_cons, Entry.occupant?, List.find?_cons, standsFor,
                    hslot, hagrees]
                  cases (rest.filterMap Entry.occupant?).find? (standsFor candidate) with
                  | some occupant =>
                      rfl
                  | none =>
                      simp [opposes, hslot]

end Meeting

section Exclusion

/-- Two entries that may stand side by side: packages of one key have different slots. -/
def Compatible : Entry P R → Entry P R → Prop
  | .occupant a, .occupant b => Slotted.key a = Slotted.key b → sharesSlot a b = false
  | _, _ => True

/-- Entries of which no two packages have the same slot under the same key. -/
def Exclusive (entries : List (Entry P R)) : Prop :=
  entries.Pairwise Compatible

variable {entries : List (Entry P R)}

omit [Restriction R P] in
theorem exclusive_filter
    (h : Exclusive entries)
    (p : Entry P R → Bool) :
    Exclusive (entries.filter p) :=
  List.Pairwise.filter p h

omit [Restriction R P] in
theorem exclusive_concat_blocker
    (h : Exclusive entries)
    (restriction : R) :
    Exclusive (entries ++ [.blocker restriction]) := by
  refine List.pairwise_append.mpr ⟨h, List.pairwise_singleton _ _, ?_⟩
  intro a _ b hb
  obtain rfl := List.mem_singleton.mp hb
  cases a <;> trivial

/-- A package that nothing opposes keeps slots exclusive. -/
theorem exclusive_concat_occupant
    {candidate : P}
    (h : Exclusive entries)
    (hfree : ∀ entry ∈ entries, entry.key = Slotted.key candidate →
      opposes candidate entry = false) :
    Exclusive (entries ++ [.occupant candidate]) := by
  refine List.pairwise_append.mpr ⟨h, List.pairwise_singleton _ _, ?_⟩
  intro a ha b hb
  obtain rfl := List.mem_singleton.mp hb
  cases a with
  | blocker restriction =>
      trivial
  | occupant package =>
      intro hkey
      exact hfree (.occupant package) ha hkey

omit [Restriction R P] in
/-- The packages among exclusive entries exclude each other. -/
theorem pairwise_occupants (h : Exclusive entries) :
    (entries.filterMap Entry.occupant?).Pairwise
      fun a b => Slotted.key a = Slotted.key b → sharesSlot a b = false := by
  refine List.Pairwise.filterMap _ ?_ h
  rintro (a | a) (b | b) hab p hp q hq <;> cases hp <;> cases hq
  exact hab

/-- Of the packages of one key at most one counts as a candidate and has its slot. -/
theorem standing_eq
    {key : String}
    (h : Exclusive entries)
    (hkey : ∀ entry ∈ entries, entry.key = key)
    (candidate : P) :
    (entries.filterMap Entry.occupant?).filter (standsFor candidate) = [] ∨
      ∃ occupant,
        (entries.filterMap Entry.occupant?).filter (standsFor candidate) = [occupant] := by
  have hpairwise := (pairwise_occupants h).filter (standsFor candidate)
  have hmem : ∀ package ∈ (entries.filterMap Entry.occupant?).filter (standsFor candidate),
      Slotted.key package = key ∧ sharesSlot package candidate = true := by
    intro package hpackage
    obtain ⟨hheld, hstands⟩ := List.mem_filter.mp hpackage
    obtain ⟨entry, hentry, hoccupant⟩ := List.mem_filterMap.mp hheld
    cases entry with
    | blocker restriction =>
        cases hoccupant
    | occupant held =>
        cases hoccupant
        have hshares := (Bool.and_eq_true_iff.mp hstands).1
        exact ⟨hkey _ hentry, hshares⟩
  generalize (entries.filterMap Entry.occupant?).filter (standsFor candidate) = standing
    at hpairwise hmem
  rcases standing with _ | ⟨a, _ | ⟨b, rest⟩⟩
  · exact .inl rfl
  · exact .inr ⟨a, rfl⟩
  · obtain ⟨hka, hsa⟩ := hmem a (by simp)
    obtain ⟨hkb, hsb⟩ := hmem b (by simp)
    have hdiffer := (List.pairwise_cons.mp hpairwise).1 b (by simp) (hka.trans hkb.symm)
    simp only [sharesSlot, beq_iff_eq, beq_eq_false_iff_ne] at hsa hsb hdiffer
    exact absurd (hsa.trans hsb.symm) hdiffer

end Exclusion

end Tracker
end PackageMetadata
