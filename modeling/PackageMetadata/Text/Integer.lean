/-!
# Signed integers of 64 bits as text

An integer is written in decimal with a minus sign if it is negative.  It is read with one
optional sign of either kind and any number of leading zeros.  Digits are taken from left
to right and the first character that is no digit, or that takes the value out of range,
names the fault.

**Results**

* `readDigits_le`: what is read stays within the limit.
-/

namespace PackageMetadata
namespace Text

/-- Why a text is not an integer of 64 bits. -/
inductive IntegerFault where
  | empty
  | invalidDigit
  | tooLarge
  | tooSmall
deriving DecidableEq, Repr

namespace IntegerFault

/-- The wording of a fault. -/
def message : IntegerFault → String
  | .empty => "cannot parse integer from empty string"
  | .invalidDigit => "invalid digit found in string"
  | .tooLarge => "number too large to fit in target type"
  | .tooSmall => "number too small to fit in target type"

end IntegerFault

namespace Integer

/-- The value of a decimal digit. -/
def digitValue (c : Char) : Nat :=
  c.toNat - '0'.toNat

/-- Reads digits onto a value.  A value above the limit is the fault `excess`. -/
def readDigits
    (limit : Nat)
    (excess : IntegerFault) :
    Nat → List Char → Except IntegerFault Nat
  | value, [] => .ok value
  | value, c :: rest =>
      if c.isDigit then
        if value * 10 + digitValue c ≤ limit then
          readDigits limit excess (value * 10 + digitValue c) rest
        else
          .error excess
      else
        .error .invalidDigit

/-- Reads the digits behind the sign; a sign alone is an invalid digit. -/
def readMagnitude
    (limit : Nat)
    (excess : IntegerFault) :
    List Char → Except IntegerFault Nat
  | [] => .error .invalidDigit
  | digits => readDigits limit excess 0 digits

/-- The largest magnitude below zero; above zero it is one less. -/
def magnitudeLimit : Nat :=
  Nat.pow 2 63

/-- Reads a signed integer of 64 bits. -/
def read : List Char → Except IntegerFault Int64
  | [] => .error .empty
  | '-' :: digits =>
      (readMagnitude magnitudeLimit .tooSmall digits).map fun n => Int64.ofInt (-(n : Int))
  | '+' :: digits =>
      (readMagnitude (magnitudeLimit - 1) .tooLarge digits).map fun n => Int64.ofInt n
  | digits =>
      (readMagnitude (magnitudeLimit - 1) .tooLarge digits).map fun n => Int64.ofInt n

/-- Writes an integer in decimal. -/
def write (value : Int64) : List Char :=
  match value.toInt with
  | .ofNat n => Nat.toDigits 10 n
  | .negSucc n => '-' :: Nat.toDigits 10 (n + 1)

section Reading

/-- What is read stays within the limit. -/
theorem readDigits_le
    {limit value n : Nat}
    {excess : IntegerFault}
    {digits : List Char}
    (hvalue : value ≤ limit)
    (h : readDigits limit excess value digits = .ok n) :
    n ≤ limit := by
  induction digits generalizing value with
  | nil =>
      simp only [readDigits, Except.ok.injEq] at h
      exact h ▸ hvalue
  | cons c rest ih =>
      simp only [readDigits] at h
      split at h
      · split at h
        · rename_i hle
          exact ih hle h
        · cases h
      · cases h

end Reading

end Integer

end Text
end PackageMetadata
