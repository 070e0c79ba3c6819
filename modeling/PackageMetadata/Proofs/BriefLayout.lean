import PackageMetadata.Proofs.EclassDecoding

/-!
# Texts in the brief layout

An older form of the stored text leaves out the paths.  Nothing in it says so: it shares its tokens
with the full layout, and it is for the reader to find out.  A text of the older form is read as
what it says if the reader takes it for one, which is so if its number of pairs is not divisible by
three and its first time has no sign.  Otherwise the reader takes it for a text with paths.  Then
the name of the second pair stands where the first time should be, so that the mistake is found
out as long as names are no integers.  If there is no second pair then a time is missing.

**Definitions**

* `briefTokens`, `encodeBrief`: the older form.
* `Misaligned`: what is wrong with it if it is taken for a text with paths.

**Results**

* `chosen_brief_iff`: when a text of the older form is taken for one.
* `read_encodeBrief`: what is read then are its pairs.
* `misaligned_of_full`: what is wrong otherwise.
* `decode_encodeBrief_iff`: a text of the older form is read as what it says or not at all.
-/

namespace PackageMetadata
namespace Eclasses

section Writing

/-- The tokens of a name with its modification time. -/
def briefTokens (pair : String × Int64) : List (List Char) :=
  [pair.1.toList, Text.Integer.write pair.2]

/-- The text of names with their modification times, without paths. -/
def encodeBrief (pairs : List (String × Int64)) : String :=
  String.ofList (['\t'].intercalate (pairs.flatMap briefTokens))

/-- The entry that a pair stands for.  Its path is not known. -/
def briefEntry (pair : String × Int64) : String × Eclass :=
  (pair.1, ⟨"", pair.2⟩)

/-- What is found wrong if the layout is taken for the full one: the name of the second pair is
read as a time, or there is no second pair. -/
inductive Misaligned
    (raw : String) :
    List (String × Int64) → Corruption → Prop
  | badTime
      {second : String × Int64}
      {rest : List (String × Int64)}
      {fault : Text.IntegerFault}
      (first : String × Int64)
      (hfault : Text.Integer.read second.1.toList = .error fault) :
      Misaligned raw (first :: second :: rest) (.badTime second.1 raw fault)
  | missingTime
      (first : String × Int64) :
      Misaligned raw [first] (.missingTime raw)

end Writing

section Tokens

variable {raw : String} {first : String × Int64} {rest pairs : List (String × Int64)}

theorem length_briefTokens (pairs : List (String × Int64)) :
    (pairs.flatMap briefTokens).length = 2 * pairs.length := by
  induction pairs with
  | nil =>
      rfl
  | cons pair rest ih =>
      rw [List.flatMap_cons, List.length_append, ih, List.length_cons, briefTokens]
      exact (Nat.add_comm _ _).trans (Nat.mul_succ 2 rest.length).symm

theorem free_briefTokens
    (hfree : ∀ pair ∈ pairs, '\t' ∉ pair.1.toList) :
    ∀ token ∈ pairs.flatMap briefTokens, '\t' ∉ token := by
  intro token htoken
  obtain ⟨pair, hpair, hmem⟩ := List.mem_flatMap.mp htoken
  rcases (by simpa [briefTokens] using hmem :
    token = pair.1.toList ∨ token = Text.Integer.write pair.2) with rfl | rfl
  · exact hfree pair hpair
  · exact tab_not_mem_write pair.2

/-- If the first name begins visibly then all tokens are read. -/
theorem read_briefTokens
    (hfree : ∀ pair ∈ first :: rest, '\t' ∉ pair.1.toList)
    (hvisible : ∃ c ∈ first.1.toList.head?, Text.isBlank c = false) :
    read (encodeBrief (first :: rest)) =
      (readTokens (encodeBrief (first :: rest)) ((first :: rest).flatMap briefTokens)).map
        OrderedMap.ofList := by
  obtain ⟨front, last, hpairs⟩ :=
    (List.eq_nil_or_concat (first :: rest)).resolve_left (List.cons_ne_nil first rest)
  have htokens : (first :: rest).flatMap briefTokens =
      (front.flatMap briefTokens ++ [last.1.toList]) ++ [Text.Integer.write last.2] := by
    rw [hpairs, List.concat_eq_append]
    simp [briefTokens]
  have hraw : (encodeBrief (first :: rest)).toList =
      ['\t'].intercalate ((first :: rest).flatMap briefTokens) := String.toList_ofList
  have hkept : Text.trimFront ((first :: rest).flatMap briefTokens) =
      (first :: rest).flatMap briefTokens := by
    obtain ⟨c, hc, hblank⟩ := hvisible
    refine Text.trimFront_eq_self (fun hnil => ?_) fun d hd => ?_
    · rw [hnil] at hc
      cases hc
    · rw [Option.mem_unique hd hc]
      exact hblank
  have htokensFree := free_briefTokens hfree
  rw [htokens] at hraw htokensFree hkept ⊢
  rw [read_intercalate hraw htokensFree, hkept]

end Tokens

section Choice

variable {raw : String} {first : String × Int64} {rest : List (String × Int64)}

/-- The number of pairs and the sign of the first time decide about the layout. -/
theorem chosen_brief_iff :
    Layout.brief.Chosen ((first :: rest).flatMap briefTokens) ↔
      ¬ 3 ∣ (first :: rest).length ∧ 0 ≤ first.2.toInt := by
  have hsecond : SecondIsDigits ((first :: rest).flatMap briefTokens) ↔ 0 ≤ first.2.toInt := by
    rw [← Text.Integer.isDigit_write_iff]
    simp [SecondIsDigits, briefTokens, Text.Integer.write_ne_nil]
  rw [Layout.Chosen, hsecond, length_briefTokens]
  omega

theorem chosen_full_of_not_brief
    (h : ¬ Layout.brief.Chosen ((first :: rest).flatMap briefTokens)) :
    Layout.full.Chosen ((first :: rest).flatMap briefTokens) := by
  have htwo : 2 ∣ ((first :: rest).flatMap briefTokens).length := by
    rw [length_briefTokens]
    exact Nat.dvd_mul_right 2 _
  by_cases hthree : 3 ∣ ((first :: rest).flatMap briefTokens).length
  · exact .inl hthree
  · exact .inr ⟨htwo, fun hdigits => h ⟨hthree, htwo, hdigits⟩⟩

/-- In the brief layout the pairs are read as they were written. -/
theorem readBrief_briefTokens
    (raw : String)
    (pairs : List (String × Int64)) :
    readBrief raw (pairs.flatMap briefTokens) = .ok (pairs.map briefEntry) := by
  induction pairs with
  | nil =>
      rfl
  | cons pair rest ih =>
      have htime : readTime raw (Text.Integer.write pair.2) = .ok pair.2 := readTime_write raw pair.2
      refine readBrief_cons_eq_ok.mpr ⟨pair.2, rest.map briefEntry, htime, ih, ?_⟩
      rw [String.ofList_toList]
      rfl

/-- In the full layout they are not read, as long as the name of the second pair is no integer. -/
theorem misaligned_of_full
    (raw : String)
    (first : String × Int64)
    (hnames : ∀ pair ∈ rest, ∀ value, ¬ Text.Integer.Literal pair.1.toList value) :
    ∃ cause, Misaligned raw (first :: rest) cause ∧
      readFull raw ((first :: rest).flatMap briefTokens) = .error cause := by
  cases rest with
  | nil =>
      exact ⟨.missingTime raw, .missingTime first, rfl⟩
  | cons second later =>
      cases hread : Text.Integer.read second.1.toList with
      | ok value =>
          have hliteral := Text.Integer.read_eq_ok_iff.mp hread
          exact absurd hliteral (hnames second List.mem_cons_self value)
      | error fault =>
          refine ⟨.badTime second.1 raw fault, .badTime first hread, ?_⟩
          have htime : readTime raw second.1.toList = .error (.badTime second.1 raw fault) :=
            Result.mapError_eq_error_iff.mpr ⟨fault, hread, by rw [String.ofList_toList]⟩
          -- The first time is read as a path, and the second name as the time behind it.
          show readFull raw (first.1.toList :: Text.Integer.write first.2 :: second.1.toList ::
            Text.Integer.write second.2 :: later.flatMap briefTokens) = _
          rw [readFull, htime]
          rfl

end Choice

section Main

variable {first : String × Int64} {rest : List (String × Int64)}

/-- The text of one or more names with their times is read as what it says exactly if the number
of pairs is not divisible by three and the first time is not negative; of pairs with the same name
the last one stays.  In all other cases it is rejected, for the name of the second pair if there is
one.

Names have no tabs, the first one begins with a character that is not blank, and no other one is an
integer. -/
theorem decode_encodeBrief_iff
    (coordinate : Coordinate)
    (hfree : ∀ pair ∈ first :: rest, '\t' ∉ pair.1.toList)
    (hvisible : ∃ c ∈ first.1.toList.head?, Text.isBlank c = false)
    (hnames : ∀ pair ∈ rest, ∀ value, ¬ Text.Integer.Literal pair.1.toList value) :
    let pairs := first :: rest
    let raw := encodeBrief pairs
    let said := OrderedMap.ofList (pairs.map briefEntry)
    (decode coordinate raw = .ok said ↔ ¬ 3 ∣ pairs.length ∧ 0 ≤ first.2.toInt) ∧
    (3 ∣ pairs.length ∨ first.2.toInt < 0 →
      ∃ cause, Misaligned raw pairs cause ∧
        decode coordinate raw = .error (.corrupt coordinate cause)) := by
  intro pairs raw said
  have hread := read_briefTokens hfree hvisible
  rw [← chosen_brief_iff]
  by_cases hbrief : Layout.brief.Chosen (pairs.flatMap briefTokens)
  · have hdecode : decode coordinate raw = .ok said := by
      rw [decode_eq_ok_iff, hread, readTokens_of_chosen raw hbrief, Layout.read,
        readBrief_briefTokens]
      rfl
    obtain ⟨hthree, htime⟩ := chosen_brief_iff.mp hbrief
    refine ⟨iff_of_true hdecode hbrief, fun hother => ?_⟩
    exact absurd hother (not_or.mpr ⟨hthree, Int.not_lt.mpr htime⟩)
  · obtain ⟨cause, hcause, hfull⟩ := misaligned_of_full raw first hnames
    have hdecode : decode coordinate raw = .error (.corrupt coordinate cause) := by
      rw [decode, hread, readTokens_of_chosen raw (chosen_full_of_not_brief hbrief), Layout.read,
        hfull]
      rfl
    refine ⟨iff_of_false (fun hok => ?_) hbrief, fun _ => ⟨cause, hcause, hdecode⟩⟩
    cases hdecode.symm.trans hok

/-- Four pairs are read, of which two have one name.  If there are three of them then the second
name is taken for a time. -/
theorem decode_encodeBrief_iff_three :
    let coordinate : Coordinate := ⟨"dev-libs", "a", "1", rfl, rfl, rfl⟩
    let rest : List (String × Int64) := [("eutils", -5), ("libtool", 7)]
    let three := ("libtool", 1) :: rest
    let four := ("2.5", 2) :: three
    decode coordinate (encodeBrief four) =
        .ok (OrderedMap.ofList [("2.5", ⟨"", 2⟩), ("eutils", ⟨"", -5⟩), ("libtool", ⟨"", 7⟩)]) ∧
      decode coordinate (encodeBrief three) =
        .error (.corrupt coordinate (.badTime "eutils" (encodeBrief three) .invalidDigit)) := by
  intro coordinate rest three four
  have hread : ∀ pair ∈ three, (Text.Integer.read pair.1.toList).isOk = false := by decide
  have hnames : ∀ pair ∈ three, ∀ value, ¬ Text.Integer.Literal pair.1.toList value := by
    intro pair hpair value hliteral
    have hfault := hread pair hpair
    rw [Text.Integer.read_eq_ok_iff.mpr hliteral] at hfault
    cases hfault
  have hlater : ∀ pair ∈ rest, ∀ value, ¬ Text.Integer.Literal pair.1.toList value :=
    fun pair hpair => hnames pair (List.mem_cons_of_mem _ hpair)
  have hfree : ∀ pair ∈ four, '\t' ∉ pair.1.toList := by decide
  have hfree' : ∀ pair ∈ three, '\t' ∉ pair.1.toList :=
    fun pair hpair => hfree pair (List.mem_cons_of_mem _ hpair)
  have hfour := decode_encodeBrief_iff coordinate hfree ⟨'2', rfl, rfl⟩ hnames
  have hthree := decode_encodeBrief_iff coordinate hfree' ⟨'l', rfl, rfl⟩ hlater
  refine ⟨(hfour.1.mpr (by decide)).trans rfl, ?_⟩
  obtain ⟨cause, hcause, hdecode⟩ := hthree.2 (.inl (by decide))
  have hmisaligned : Misaligned (encodeBrief three)
      [("libtool", 1), ("eutils", -5), ("libtool", 7)] cause := hcause
  cases hmisaligned with
  | badTime _ hfault =>
      have heutils : Text.Integer.read "eutils".toList = .error .invalidDigit := rfl
      cases heutils.symm.trans hfault
      exact hdecode

end Main

end Eclasses
end PackageMetadata
