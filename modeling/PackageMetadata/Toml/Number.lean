import PackageMetadata.Toml.Node
import PackageMetadata.Toml.Text

/-!
# Numbers, dates and times of TOML

Integers have 64 bits with a sign.  Single underscores may separate digits.  A float above
zero must not be too large for double precision; one below zero may.  Dates and times are
checked against the calendar and kept as they were written.
-/

namespace PackageMetadata
namespace Toml

section Digits

/-- Digits of some kind with single underscores between, without the underscores. -/
def digitGroup (p : Char → Bool) : Reader (List Char) := do
  let first ← Reader.satisfy p
  let others ← Reader.many (Reader.option (Reader.char '_') *> Reader.satisfy p)
  return first :: others

/-- A sign, if there is one. -/
def sign : Reader (Option Char) :=
  Reader.option (Reader.char '+' <|> Reader.char '-')

/-- Decimal digits without a leading zero. -/
def wholeDigits : Reader (List Char) :=
  Reader.accept (digitGroup Char.isDigit) fun digits =>
    if digits.head? = some '0' ∧ digits.length ≠ 1 then none else some digits

/-- The value of digits in a base. -/
def valueOf
    (base : Nat)
    (digits : List Char) :
    Nat :=
  digits.foldl (fun value c => value * base + (hexValue? c).getD 0) 0

end Digits

section Integers

/-- An integer, if it has 64 bits. -/
def integerOf? (value : Int) : Option Node :=
  if -(Nat.pow 2 63 : Int) ≤ value ∧ value < Nat.pow 2 63 then some (.integer value) else none

/-- An integer in decimal. -/
def decimalInteger : Reader Node := do
  let sign ← sign
  let digits ← wholeDigits
  let value : Int := valueOf 10 digits
  match integerOf? (if sign = some '-' then -value else value) with
  | some node => return node
  | none => failure

/-- An integer in another base, which is announced by a mark. -/
def markedInteger
    (mark : Char)
    (base : Nat)
    (p : Char → Bool) :
    Reader Node := do
  Reader.exactly ['0', mark]
  Reader.accept (digitGroup p) fun digits => integerOf? (valueOf base digits)

/-- An integer in any base. -/
def integer : Reader Node :=
  markedInteger 'x' 16 (fun c => (hexValue? c).isSome)
    <|> markedInteger 'o' 8 (fun c => '0' ≤ c && c ≤ '7')
    <|> markedInteger 'b' 2 (fun c => c == '0' || c == '1')
    <|> decimalInteger

end Integers

section Floats

/-- The smallest number that rounds to infinity in double precision. -/
def doubleLimit : Nat :=
  Nat.pow 2 1024 - Nat.pow 2 970

/-- Whether `value` times a power of ten is too large for double precision. -/
def exceedsDouble
    (value : Nat)
    (exponent : Int) :
    Bool :=
  if value = 0 then
    false
  else
    match exponent with
    | .ofNat n => 400 ≤ n || doubleLimit ≤ value * Nat.pow 10 n
    | .negSucc n =>
        n < (Nat.toDigits 10 value).length && doubleLimit * Nat.pow 10 (n + 1) ≤ value

/-- The exponent of a float. -/
def exponentPart : Reader Int := do
  let _ ← Reader.char 'e' <|> Reader.char 'E'
  let sign ← sign
  let digits ← digitGroup Char.isDigit
  let value : Int := valueOf 10 digits
  return if sign = some '-' then -value else value

/-- The digits behind the point of a float. -/
def fractionPart : Reader (List Char) :=
  Reader.char '.' *> digitGroup Char.isDigit

/-- A float in digits: a fraction, an exponent or both behind its whole part. -/
def finiteFloat : Reader Node := do
  let sign ← sign
  let whole ← wholeDigits
  let fraction ← Reader.option fractionPart
  let exponent ← Reader.option exponentPart
  if fraction.isNone ∧ exponent.isNone then
    failure
  let digits := whole ++ fraction.getD []
  let power := exponent.getD 0 - (fraction.getD []).length
  if sign ≠ some '-' ∧ exceedsDouble (valueOf 10 digits) power then
    failure
  return .float (String.ofList (sign.toList ++ digits) ++ "e" ++ toString power)

/-- Infinity or no number at all. -/
def specialFloat : Reader Node := do
  let sign ← sign
  let name ←
    (do Reader.exactly ['i', 'n', 'f']; return "inf")
      <|> (do Reader.exactly ['n', 'a', 'n']; return "nan")
  return .float (String.ofList sign.toList ++ name)

/-- A float. -/
def float : Reader Node :=
  finiteFloat <|> specialFloat

end Floats

section Moments

/-- A number of the given count of digits that lies within bounds. -/
def digitsWithin
    (count low high : Nat) :
    Reader Nat := fun input =>
  let digits := input.take count
  let value := valueOf 10 digits
  if digits.length = count ∧ digits.all Char.isDigit ∧ low ≤ value ∧ value ≤ high then
    some (value, input.drop count)
  else
    none

/-- The number of days of a month. -/
def daysIn (year month : Nat) : Nat :=
  if month = 2 then
    if year % 4 = 0 ∧ (year % 100 ≠ 0 ∨ year % 400 = 0) then 29 else 28
  else if month = 4 ∨ month = 6 ∨ month = 9 ∨ month = 11 then
    30
  else
    31

/-- A date of the calendar. -/
def date : Reader Unit := do
  let year ← digitsWithin 4 0 9999
  let _ ← Reader.char '-'
  let month ← digitsWithin 2 1 12
  let _ ← Reader.char '-'
  let _ ← digitsWithin 2 1 (daysIn year month)

/-- A time of day, where a leap second is allowed at any time. -/
def timeOfDay : Reader Unit := do
  let _ ← digitsWithin 2 0 23
  let _ ← Reader.char ':'
  let _ ← digitsWithin 2 0 59
  let _ ← Reader.char ':'
  let _ ← digitsWithin 2 0 60
  let _ ← Reader.option do
    let _ ← Reader.char '.'
    let _ ← Reader.satisfy Char.isDigit
    Reader.span Char.isDigit

/-- The distance of a time from universal time. -/
def offset : Reader Unit := do
  let mark ← Reader.satisfy fun c => c == 'Z' || c == 'z' || c == '+' || c == '-'
  if mark = '+' ∨ mark = '-' then
    let _ ← digitsWithin 2 0 23
    let _ ← Reader.char ':'
    let _ ← digitsWithin 2 0 59

/-- A date with an optional time and offset, or a time alone. -/
def momentParts : Reader Unit :=
  (do
    date
    let _ ← Reader.option do
      let _ ← Reader.satisfy fun c => c == 'T' || c == 't' || c == ' '
      timeOfDay
      Reader.option offset)
    <|> timeOfDay

/-- A date, a time or both. -/
def moment : Reader Node := do
  let before ← Reader.remaining
  momentParts
  let after ← Reader.remaining
  return .moment (String.ofList (before.take (before.length - after.length)))

end Moments

end Toml
end PackageMetadata
