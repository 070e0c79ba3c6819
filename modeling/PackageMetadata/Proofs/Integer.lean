import PackageMetadata.Proofs.Result
import PackageMetadata.Text.Blank
import PackageMetadata.Text.Integer

/-!
# Integers of 64 bits survive their text

Digits are read from left to right onto a value that only grows.  So the limit, which is
checked at every digit, is kept throughout if it is kept at the end.  Every integer of 64
bits, both extremes included, is read back from its decimal text.

**Results**

* `readDigits_eq_ok`: digits are read as the number that they are the digits of.
* `read_write`: an integer is read back from its text.
* `not_isBlank_of_mem_write`: no blank is written.
* `isDigit_write_iff`: a sign is written of negative integers only.
* `read_eq_ok_iff`: exactly the literals are read, each as its value.
-/

namespace PackageMetadata
namespace Text
namespace Integer

section Digits

theorem le_ofDigitChars
    (digits : List Char)
    (value : Nat) :
    value ≤ Nat.ofDigitChars 10 digits value := by
  induction digits generalizing value with
  | nil =>
      simp
  | cons c rest ih =>
      rw [Nat.ofDigitChars_cons]
      have hle := ih (10 * value + (c.toNat - '0'.toNat))
      omega

/-- Digits are read as the number that they are the digits of, if that is within the limit. -/
theorem readDigits_eq_ok
    {limit value : Nat}
    {digits : List Char}
    (excess : IntegerFault)
    (hdigits : ∀ c ∈ digits, c.isDigit = true)
    (hlimit : Nat.ofDigitChars 10 digits value ≤ limit) :
    readDigits limit excess value digits = .ok (Nat.ofDigitChars 10 digits value) := by
  induction digits generalizing value with
  | nil =>
      simp [readDigits]
  | cons c rest ih =>
      have hvalue : 10 * value + (c.toNat - '0'.toNat) = value * 10 + digitValue c := by
        rw [digitValue]
        omega
      rw [Nat.ofDigitChars_cons, hvalue] at hlimit ⊢
      have hle : value * 10 + digitValue c ≤ limit :=
        Nat.le_trans (le_ofDigitChars rest _) hlimit
      have hrest : ∀ d ∈ rest, d.isDigit = true := fun d hd =>
        hdigits d (List.mem_cons_of_mem c hd)
      rw [readDigits, if_pos (hdigits c List.mem_cons_self), if_pos hle]
      exact ih hrest hlimit

/-- A number within the limit is read back from its digits. -/
theorem readMagnitude_toDigits
    {limit n : Nat}
    (excess : IntegerFault)
    (hlimit : n ≤ limit) :
    readMagnitude limit excess (Nat.toDigits 10 n) = .ok n := by
  have hdigits : ∀ c ∈ Nat.toDigits 10 n, c.isDigit = true := fun c hc =>
    Nat.isDigit_of_mem_toDigits (by omega) (by omega) hc
  have hvalue : Nat.ofDigitChars 10 (Nat.toDigits 10 n) 0 = n := Nat.ofDigitChars_ten_toDigits
  have hread :
      readDigits limit excess 0 (Nat.toDigits 10 n) =
        .ok (Nat.ofDigitChars 10 (Nat.toDigits 10 n) 0) :=
    readDigits_eq_ok excess hdigits (by omega)
  rw [hvalue] at hread
  cases h : Nat.toDigits 10 n with
  | nil =>
      exact absurd h Nat.toDigits_ne_nil
  | cons c rest =>
      rw [h] at hread
      exact hread

end Digits

section Writing

/-- Without a sign all characters are digits of a number that is not negative. -/
theorem read_of_not_sign
    {c : Char}
    {rest : List Char}
    (hminus : c ≠ '-')
    (hplus : c ≠ '+') :
    read (c :: rest) =
      (readMagnitude (magnitudeLimit - 1) .tooLarge (c :: rest)).map fun n => Int64.ofInt n := by
  unfold read
  split
  · rename_i h
    cases h
  · rename_i digits h
    exact absurd (List.cons.inj h).1 hminus
  · rename_i digits h
    exact absurd (List.cons.inj h).1 hplus
  · rfl

/-- A digit is no sign. -/
theorem read_of_isDigit
    {c : Char}
    {rest : List Char}
    (hc : c.isDigit = true) :
    read (c :: rest) =
      (readMagnitude (magnitudeLimit - 1) .tooLarge (c :: rest)).map fun n => Int64.ofInt n := by
  have hminus : c ≠ '-' := fun h => absurd (h ▸ hc) (by decide)
  have hplus : c ≠ '+' := fun h => absurd (h ▸ hc) (by decide)
  exact read_of_not_sign hminus hplus

/-- An integer is read back from its text. -/
theorem read_write (value : Int64) :
    read (write value) = .ok value := by
  have hlt := value.toInt_lt
  have hle := value.le_toInt
  have hofInt := Int64.ofInt_toInt value
  rw [write]
  cases hvalue : value.toInt with
  | ofNat n =>
      rw [hvalue] at hlt hofInt
      rw [Int.ofNat_eq_natCast] at hlt
      have hlimit : n ≤ magnitudeLimit - 1 := by
        show n ≤ 2 ^ 63 - 1
        omega
      have hread := readMagnitude_toDigits .tooLarge hlimit
      show read (Nat.toDigits 10 n) = .ok value
      cases hdigits : Nat.toDigits 10 n with
      | nil =>
          exact absurd hdigits Nat.toDigits_ne_nil
      | cons c rest =>
          have hmem : c ∈ Nat.toDigits 10 n := by simp [hdigits]
          have hc : c.isDigit = true := Nat.isDigit_of_mem_toDigits (by omega) (by omega) hmem
          rw [hdigits] at hread
          rw [read_of_isDigit hc, hread]
          exact congrArg Except.ok hofInt
  | negSucc n =>
      rw [hvalue] at hle hofInt
      have hlimit : n + 1 ≤ magnitudeLimit := by
        show n + 1 ≤ 2 ^ 63
        omega
      have hread := readMagnitude_toDigits .tooSmall hlimit
      show read ('-' :: Nat.toDigits 10 (n + 1)) = .ok value
      rw [read, hread]
      exact congrArg Except.ok hofInt

theorem write_ne_nil (value : Int64) :
    write value ≠ [] := by
  rw [write]
  split
  · exact Nat.toDigits_ne_nil
  · simp

theorem not_isBlank_of_isDigit
    {c : Char}
    (hc : c.isDigit = true) :
    isBlank c = false := by
  have hrange : 48 ≤ c.toNat ∧ c.toNat ≤ 57 := by
    simpa [Char.isDigit, UInt32.le_iff_toNat_le] using hc
  simp [isBlank, inRanges, blankRanges]
  omega

/-- No blank is written. -/
theorem not_isBlank_of_mem_write
    {value : Int64}
    {c : Char}
    (hc : c ∈ write value) :
    isBlank c = false := by
  have hdigits (n : Nat) (hmem : c ∈ Nat.toDigits 10 n) : isBlank c = false :=
    not_isBlank_of_isDigit (Nat.isDigit_of_mem_toDigits (by omega) (by omega) hmem)
  rw [write] at hc
  split at hc
  · exact hdigits _ hc
  · rcases List.mem_cons.mp hc with rfl | hmem
    · decide
    · exact hdigits _ hmem

/-- Only digits are written exactly of an integer that is not negative. -/
theorem isDigit_write_iff {value : Int64} :
    (∀ c ∈ write value, c.isDigit = true) ↔ 0 ≤ value.toInt := by
  rw [write]
  cases hvalue : value.toInt with
  | ofNat n =>
      refine iff_of_true (fun c hc => ?_) (Int.natCast_nonneg n)
      exact Nat.isDigit_of_mem_toDigits (by omega) (by omega) hc
  | negSucc n =>
      refine iff_of_false (fun hdigits => ?_) (by omega)
      have hminus := hdigits '-' List.mem_cons_self
      cases hminus

end Writing

section Literals

/-- A literal of an integer of 64 bits: one optional sign and one or more digits, of a value that
is in range. -/
def Literal (token : List Char) (value : Int64) : Prop :=
  ∃ sign digits,
    token = sign ++ digits ∧ (sign = [] ∨ sign = ['+'] ∨ sign = ['-']) ∧
      digits ≠ [] ∧ (∀ c ∈ digits, c.isDigit = true) ∧
      value.toInt =
        if sign = ['-'] then -(Nat.ofDigitChars 10 digits 0 : Int)
        else Nat.ofDigitChars 10 digits 0

/-- Only digits are read, and only as a number within the limit. -/
theorem digits_of_readDigits
    {limit value n : Nat}
    {excess : IntegerFault}
    {digits : List Char}
    (hread : readDigits limit excess value digits = .ok n) :
    (∀ c ∈ digits, c.isDigit = true) ∧ Nat.ofDigitChars 10 digits value = n := by
  induction digits generalizing value with
  | nil =>
      cases hread
      simp
  | cons c rest ih =>
      rw [readDigits] at hread
      split at hread
      · rename_i hc
        split at hread
        · obtain ⟨hrest, hn⟩ := ih hread
          refine ⟨List.forall_mem_cons.mpr ⟨hc, hrest⟩, ?_⟩
          rw [Nat.ofDigitChars_cons, Nat.mul_comm]
          exact hn
        · cases hread
      · cases hread

/-- A magnitude is one or more digits of a number within the limit. -/
theorem readMagnitude_eq_ok_iff
    {limit n : Nat}
    {excess : IntegerFault}
    {digits : List Char} :
    readMagnitude limit excess digits = .ok n ↔
      digits ≠ [] ∧ (∀ c ∈ digits, c.isDigit = true) ∧ Nat.ofDigitChars 10 digits 0 = n ∧
        n ≤ limit := by
  cases digits with
  | nil =>
      simp [readMagnitude]
  | cons c rest =>
      rw [readMagnitude]
      constructor
      · intro hread
        obtain ⟨hdigits, hn⟩ := digits_of_readDigits hread
        exact ⟨List.cons_ne_nil c rest, hdigits, hn, readDigits_le (Nat.zero_le limit) hread⟩
      · rintro ⟨-, hdigits, rfl, hlimit⟩
        exact readDigits_eq_ok excess hdigits hlimit
      · exact List.cons_ne_nil c rest

/-- What a magnitude is read as, if it is read at all. -/
theorem map_readMagnitude_eq_ok_iff
    {limit : Nat}
    {excess : IntegerFault}
    {digits : List Char}
    {value : Int64}
    {f : Int → Int64}
    {g : Nat → Int}
    (hf : ∀ n : Nat, n ≤ limit → (f n).toInt = g n)
    (hlimit : ∀ n : Nat, value.toInt = g n → n ≤ limit) :
    Except.map f (readMagnitude limit excess digits) = .ok value ↔
      digits ≠ [] ∧ (∀ c ∈ digits, c.isDigit = true) ∧
        value.toInt = g (Nat.ofDigitChars 10 digits 0) := by
  -- The text has natural numbers for its magnitudes, the function takes integers.
  have hcast : Except.map f (readMagnitude limit excess digits) =
      (readMagnitude limit excess digits).map fun n : Nat => f n := by
    cases readMagnitude limit excess digits <;> rfl
  rw [hcast, Result.map_eq_ok_iff]
  constructor
  · rintro ⟨n, hmagnitude, rfl⟩
    obtain ⟨hne, hdigits, rfl, hn⟩ := readMagnitude_eq_ok_iff.mp hmagnitude
    exact ⟨hne, hdigits, hf _ hn⟩
  · rintro ⟨hne, hdigits, hvalue⟩
    have hn := hlimit _ hvalue
    exact ⟨_, readMagnitude_eq_ok_iff.mpr ⟨hne, hdigits, rfl, hn⟩,
      Int64.toInt_inj.mp ((hf _ hn).trans hvalue.symm)⟩

theorem read_minus_eq_ok_iff
    {digits : List Char}
    {value : Int64} :
    read ('-' :: digits) = .ok value ↔
      digits ≠ [] ∧ (∀ c ∈ digits, c.isDigit = true) ∧
        value.toInt = -(Nat.ofDigitChars 10 digits 0 : Int) := by
  have hrange : (magnitudeLimit : Int) = 2 ^ 63 := rfl
  rw [read]
  refine map_readMagnitude_eq_ok_iff (g := fun n => -(n : Int)) (fun n hn => ?_) fun n hvalue => ?_
  · exact Int64.toInt_ofInt_of_le (by omega) (by omega)
  · have hle := value.le_toInt
    omega

/-- Without a minus sign the largest magnitude is one less. -/
theorem map_readMagnitude_nonneg
    {digits : List Char}
    {value : Int64} :
    (readMagnitude (magnitudeLimit - 1) .tooLarge digits).map (fun n => Int64.ofInt n) = .ok value ↔
      digits ≠ [] ∧ (∀ c ∈ digits, c.isDigit = true) ∧
        value.toInt = Nat.ofDigitChars 10 digits 0 := by
  have hrange : ((magnitudeLimit - 1 : Nat) : Int) = 2 ^ 63 - 1 := rfl
  refine map_readMagnitude_eq_ok_iff (g := fun n => (n : Int)) (fun n hn => ?_) fun n hvalue => ?_
  · exact Int64.toInt_ofInt_of_le (by omega) (by omega)
  · have hlt := value.toInt_lt
    omega

/-- Exactly the literals are read, each as its value. -/
theorem read_eq_ok_iff
    {token : List Char}
    {value : Int64} :
    read token = .ok value ↔ Literal token value := by
  constructor
  · intro hread
    rcases token with _ | ⟨c, rest⟩
    · cases hread
    · by_cases hminus : c = '-'
      · subst hminus
        obtain ⟨hne, hdigits, hvalue⟩ := read_minus_eq_ok_iff.mp hread
        exact ⟨['-'], rest, rfl, by simp, hne, hdigits, hvalue⟩
      · by_cases hplus : c = '+'
        · subst hplus
          obtain ⟨hne, hdigits, hvalue⟩ := map_readMagnitude_nonneg.mp hread
          exact ⟨['+'], rest, rfl, by simp, hne, hdigits, hvalue⟩
        · rw [read_of_not_sign hminus hplus] at hread
          obtain ⟨hne, hdigits, hvalue⟩ := map_readMagnitude_nonneg.mp hread
          exact ⟨[], c :: rest, rfl, by simp, hne, hdigits, hvalue⟩
  · rintro ⟨sign, digits, rfl, rfl | rfl | rfl, hne, hdigits, hvalue⟩
    · obtain ⟨c, rest, rfl⟩ := List.exists_cons_of_ne_nil hne
      rw [List.nil_append, read_of_isDigit (hdigits c List.mem_cons_self)]
      exact map_readMagnitude_nonneg.mpr ⟨hne, hdigits, hvalue⟩
    · exact map_readMagnitude_nonneg.mpr ⟨hne, hdigits, hvalue⟩
    · exact read_minus_eq_ok_iff.mpr ⟨hne, hdigits, hvalue⟩

end Literals

end Integer
end Text
end PackageMetadata
