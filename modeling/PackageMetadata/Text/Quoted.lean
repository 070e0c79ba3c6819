import PackageMetadata.Text.Blank
import PackageMetadata.Text.DefaultIgnorable
import PackageMetadata.Text.GraphemeExtend
import PackageMetadata.Text.Unprintable

/-!
# Quoted text

Messages show the text that they are about in double quotes.  The quote and the backslash
are escaped, as is every character that would not show by itself, be it unprintable,
ignorable or a mark on the character before it: four controls by a letter or a digit, all
others by their code point in lower case hexadecimal.
-/

namespace PackageMetadata
namespace Text

/-- Whether a character does not show by itself. -/
def isHidden (c : Char) : Bool :=
  inRanges unprintableRanges c.toNat || inRanges ignorableRanges c.toNat ||
    inRanges extendingRanges c.toNat

/-- One character as it stands between the quotes. -/
def escape (c : Char) : List Char :=
  match c with
  | '\x00' => ['\\', '0']
  | '\t' => ['\\', 't']
  | '\n' => ['\\', 'n']
  | '\r' => ['\\', 'r']
  | '"' => ['\\', '"']
  | '\\' => ['\\', '\\']
  | c =>
      if isHidden c then
        ['\\', 'u', '{'] ++ Nat.toDigits 16 c.toNat ++ ['}']
      else
        [c]

/-- A text in double quotes with its hidden characters escaped. -/
def quote (s : String) : String :=
  String.ofList ('"' :: (s.toList.flatMap escape ++ ['"']))

section Tables

/-- Whether ranges are apart from each other and ascending. -/
def rangesAscend (ranges : List (Nat × Nat)) : Bool :=
  (ranges.zip ranges.tail).all fun pair => pair.1.1 ≤ pair.1.2 && pair.1.2 + 1 < pair.2.1

/-- The tables are in order and none has two ranges that touch. -/
example :
    rangesAscend unprintableRanges = true ∧ rangesAscend ignorableRanges = true ∧
      rangesAscend extendingRanges = true := by
  decide +kernel

/-- Printable text is shown as it is. -/
example : quote "dev-libs/foo é" = "\"dev-libs/foo é\"" := by
  decide +kernel

/-- A tab is shown by its letter and a combining mark by its code point. -/
example : quote "a\te\u0301" = "\"a\\te\\u\x7b301\x7d\"" := by
  decide +kernel

/-- The Hangul fillers are hidden and the letters beside them are not. -/
example :
    [0x115e, 0x115f, 0x1160, 0x1161, 0x3163, 0x3164, 0x3165, 0xff9f, 0xffa0, 0xffa1].filter
      (fun code => isHidden (Char.ofNat code)) = [0x115f, 0x1160, 0x3164, 0xffa0] := by
  decide +kernel

/-- Voicing marks are hidden as combining marks and shown as halfwidth letters. -/
example :
    isHidden '\u3099' = true ∧ isHidden '\u309a' = true ∧
      isHidden '\uff9e' = false ∧ isHidden '\uff9f' = false := by
  decide +kernel

end Tables

end Text
end PackageMetadata
