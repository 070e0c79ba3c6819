import Mathlib.Data.Set.Subsingleton
import PackageMetadata.Coordinate.Parser
import PackageMetadata.Proofs.Reader
import PackageMetadata.Proofs.Result

/-!
# The grammar of coordinates

The form of a coordinate as patterns: a category, a slash, a package, a dash and a version.
The patterns do not say where in a text the package ends.  They need not: behind no two dashes
of a text there is a complete version, since the only dash inside of a version has a letter
behind it and no version begins with a letter.  So whether the first such dash is looked for
or the last one makes no difference.

**Results**

* `takes_version`: a version is read from left to right.
* `isCategory_iff`, `isPackage_iff`, `isVersion_iff`: the tests of the parts are the patterns.
* `version_behind_one_dash`: at most one dash is followed by a version.
* `parse?_eq_some_iff`: what is read has the form of a coordinate, and the other way round.
* `parse_accepts_spelled`: all of it, with the failure and with both places to look for.
-/

namespace PackageMetadata
namespace Coordinate

open Reader (Takes isSome_iff_matches takes_bind takes_bind_pure takes_char takes_congr
  takes_exactly takes_firstOf takes_many takes_mono takes_option takes_satisfy takes_span)
open Text (Pattern)
open Text.Pattern

namespace Form

/-- The digits of ASCII. -/
def digits : List Char :=
  range '0' '9'

/-- The letters and digits of ASCII. -/
def alphanumerics : List Char :=
  range 'A' 'Z' ++ range 'a' 'z' ++ digits

/-- One or more digits. -/
def number : Pattern :=
  many (oneOf digits)

/-- Numbers with dots between them. -/
def numbers : Pattern :=
  separated '.' number number

/-- Numbers with dots between them and an optional letter. -/
def release : Pattern :=
  numbers * optional (oneOf (range 'a' 'z'))

/-- The name of a suffix and optional digits. -/
def suffix : Pattern :=
  anyOf (["alpha", "beta", "pre", "rc", "p"].map String.toList) * (oneOf digits).star

/-- A release and any number of suffixes, each behind a low line. -/
def unrevised : Pattern :=
  separated '_' release suffix

/-- The number of a revision with its letter. -/
def revision : Pattern :=
  .char 'r' * number

/-- A version with an optional revision behind a dash. -/
def version : Pattern :=
  unrevised * optional (.char '-' * revision)

/-- A text of a category. -/
structure Category (s : List Char) : Prop where
  matches_chars : s ∈ (many (oneOf (alphanumerics ++ ['+', '_', '.', '-']))).matches'
  no_dash_first : s.head? ≠ some '-'
  no_dot_first : s.head? ≠ some '.'

/-- A text of a package. -/
structure Package (s : List Char) : Prop where
  matches_chars : s ∈ (many (oneOf (alphanumerics ++ ['+', '_', '-']))).matches'
  no_dash_first : s.head? ≠ some '-'
  no_dash_last : s.getLast? ≠ some '-'

end Form

section Characters

@[simp] theorem mem_digits_iff {c : Char} :
    c ∈ Form.digits ↔ c.isDigit = true := by
  have hdigit : c.isDigit = (decide ('0' ≤ c) && decide (c ≤ '9')) := rfl
  simp [Form.digits, mem_range_iff, hdigit]

@[simp] theorem mem_lower_iff {c : Char} :
    c ∈ range 'a' 'z' ↔ c.isLower = true := by
  have hlower : c.isLower = (decide ('a' ≤ c) && decide (c ≤ 'z')) := rfl
  simp [mem_range_iff, hlower]

@[simp] theorem mem_upper_iff {c : Char} :
    c ∈ range 'A' 'Z' ↔ c.isUpper = true := by
  have hupper : c.isUpper = decide ('A' ≤ c ∧ c ≤ 'Z') := rfl
  simp [mem_range_iff, hupper]

@[simp] theorem mem_alphanumerics_iff {c : Char} :
    c ∈ Form.alphanumerics ↔ c.isAlphanum = true := by
  have halphanum : c.isAlphanum = ((c.isUpper || c.isLower) || c.isDigit) := rfl
  simp [Form.alphanumerics, halphanum, or_assoc]

end Characters

section Parts

theorem isCategory_iff {s : List Char} :
    isCategory s = true ↔ Form.Category s := by
  have hchars : s ∈ (many (oneOf (Form.alphanumerics ++ ['+', '_', '.', '-']))).matches' ↔
      s ≠ [] ∧ ∀ c ∈ s, isCategoryChar c = true := by
    simp [isCategoryChar, or_assoc]
  constructor
  · intro h
    simp only [isCategory, Bool.and_eq_true, Bool.not_eq_true', List.isEmpty_eq_false_iff,
      List.all_eq_true, bne_iff_ne] at h
    exact ⟨hchars.mpr h.1.1, h.1.2, h.2⟩
  · rintro ⟨hmatch, hdash, hdot⟩
    obtain ⟨hne, hall⟩ := hchars.mp hmatch
    simpa [isCategory, hne, hdash, hdot] using hall

theorem isPackage_iff {s : List Char} :
    isPackage s = true ↔ Form.Package s := by
  have hchars : s ∈ (many (oneOf (Form.alphanumerics ++ ['+', '_', '-']))).matches' ↔
      s ≠ [] ∧ ∀ c ∈ s, isPackageChar c = true := by
    simp [isPackageChar, or_assoc]
  constructor
  · intro h
    simp only [isPackage, Bool.and_eq_true, Bool.not_eq_true', List.isEmpty_eq_false_iff,
      List.all_eq_true, bne_iff_ne] at h
    exact ⟨hchars.mpr h.1.1, h.1.2, h.2⟩
  · rintro ⟨hmatch, hfirst, hlast⟩
    obtain ⟨hne, hall⟩ := hchars.mp hmatch
    simpa [isPackage, hne, hfirst, hlast] using hall

end Parts

section Versions

theorem takes_number :
    Takes readNumber Form.number Form.digits :=
  takes_bind (takes_satisfy fun _ => mem_digits_iff)
    (takes_bind_pure (takes_span fun _ => mem_digits_iff) ()) (List.disjoint_nil_right _)

theorem takes_furtherNumber :
    Takes readFurtherNumber (.char '.' * Form.number) Form.digits :=
  takes_bind (takes_char '.') takes_number (List.disjoint_nil_right _)

/-- The longer one of two names that begin alike is tried first. -/
theorem takes_suffixName :
    Takes (Reader.firstOf suffixNames) (anyOf suffixNames) ['r'] := by
  refine takes_firstOf fun rest hrest => ?_
  have hpre : ¬ ['r', 'e'] <+: rest := by
    rintro ⟨tail, rfl⟩
    exact hrest 'r' rfl (by simp)
  simp [suffixNames, hpre]

theorem takes_suffix :
    Takes readSuffix (.char '_' * Form.suffix) ('r' :: Form.digits) :=
  takes_bind (takes_char '_')
    (takes_bind takes_suffixName
      (takes_bind_pure (takes_span fun _ => mem_digits_iff) ()) (by decide))
    (List.disjoint_nil_right _)

theorem takes_revision :
    Takes readRevision (.char '-' * Form.revision) Form.digits := by
  have h := takes_bind (takes_exactly ['-', 'r']) takes_number (List.disjoint_nil_right _)
  refine takes_congr h ?_
  simp [word, Form.revision, mul_assoc]

/-- No part of a version goes on with a character with which a later part begins, so nothing that
was taken ever has to be given back. -/
theorem takes_version :
    Takes readVersion Form.version Form.version.letters := by
  have hletter : Takes (Reader.satisfy Char.isLower) (oneOf (range 'a' 'z')) [] :=
    takes_satisfy fun _ => mem_lower_iff
  have hrevision := takes_bind_pure (takes_option takes_revision rfl) ()
  have hsuffixes := takes_bind (takes_many takes_suffix rfl (by decide)) hrevision (by decide)
  have hletters := takes_bind (takes_option hletter rfl) hsuffixes (by decide)
  have hnumbers := takes_bind (takes_many takes_furtherNumber rfl (by decide)) hletters (by decide)
  have h := takes_bind takes_number hnumbers (by decide)
  refine takes_mono (takes_congr h ?_) (by decide)
  simp [Form.version, Form.unrevised, Form.release, Form.numbers, separated, mul_assoc]

theorem isVersion_iff {s : List Char} :
    isVersion s = true ↔ s ∈ Form.version.matches' :=
  isSome_iff_matches takes_version

theorem no_dash_of_unrevised
    {s : List Char}
    (h : s ∈ Form.unrevised.matches') :
    '-' ∉ s := by
  have hletters : '-' ∉ Form.unrevised.letters := by decide
  exact fun hdash => hletters (mem_letters_of_matches h hdash)

theorem no_dash_of_revision
    {s : List Char}
    (h : s ∈ Form.revision.matches') :
    '-' ∉ s := by
  have hletters : '-' ∉ Form.revision.letters := by decide
  exact fun hdash => hletters (mem_letters_of_matches h hdash)

theorem matches_version_iff {s : List Char} :
    s ∈ Form.version.matches' ↔
      s ∈ Form.unrevised.matches' ∨
        ∃ front ∈ Form.unrevised.matches', ∃ revision ∈ Form.revision.matches',
          s = front ++ '-' :: revision := by
  rw [Form.version, RegularExpression.matches'_mul, Language.mem_mul]
  simp only [matches_optional_iff, matches_char_mul_iff]
  constructor
  · rintro ⟨front, hfront, rest, rfl | ⟨revision, hrevision, rfl⟩, rfl⟩
    · rw [List.append_nil]
      exact Or.inl hfront
    · exact Or.inr ⟨front, hfront, revision, hrevision, rfl⟩
  · rintro (h | ⟨front, hfront, revision, hrevision, rfl⟩)
    · exact ⟨s, h, [], Or.inl rfl, List.append_nil s⟩
    · exact ⟨front, hfront, _, Or.inr ⟨revision, hrevision, rfl⟩, rfl⟩

end Versions

section Dashes

/-- Behind a dash inside of a version stands its revision. -/
theorem revision_of_version
    {before after : List Char}
    (h : before ++ '-' :: after ∈ Form.version.matches') :
    after ∈ Form.revision.matches' := by
  rcases matches_version_iff.mp h with hfront | ⟨front, hfront, revision, hrevision, heq⟩
  · exact absurd (by simp) (no_dash_of_unrevised hfront)
  · obtain ⟨-, -, rfl⟩ :=
      (List.append_cons_inj_of_notMem (no_dash_of_unrevised hfront)
        (no_dash_of_revision hrevision)).mp heq.symm
    exact hrevision

/-- A version begins with a digit and a revision with a letter. -/
theorem not_version_of_revision
    {s : List Char}
    (h : s ∈ Form.revision.matches') :
    s ∉ Form.version.matches' := by
  have hletter : 'r' ∉ firsts Form.version := by decide
  intro hversion
  obtain ⟨rest, -, rfl⟩ := matches_char_mul_iff.mp h
  exact hletter (mem_firsts_of_matches hversion)

/-- Of two dashes with a version behind them neither is in front of the other. -/
theorem version_behind_one_dash (text : List Char) :
    {parts : List Char × List Char |
      text = parts.1 ++ '-' :: parts.2 ∧ parts.2 ∈ Form.version.matches'}.Subsingleton := by
  have hfirst {before after before' after' mid : List Char}
      (hversion : after ∈ Form.version.matches')
      (hversion' : after' ∈ Form.version.matches')
      (hbefore : before' = before ++ mid)
      (hafter : '-' :: after = mid ++ '-' :: after') :
      before = before' ∧ after = after' := by
    cases mid with
    | nil =>
        rw [List.append_nil] at hbefore
        exact ⟨hbefore.symm, List.tail_eq_of_cons_eq hafter⟩
    | cons c mid =>
        obtain ⟨rfl, rfl⟩ := List.cons.inj hafter
        exact absurd hversion' (not_version_of_revision (revision_of_version hversion))
  rintro ⟨before, after⟩ ⟨heq, hversion⟩ ⟨before', after'⟩ ⟨heq', hversion'⟩
  -- Either of the two dashes may be the one in front; what stands between them is `mid`.
  rcases List.append_eq_append_iff.mp (heq.symm.trans heq') with
    ⟨mid, hbefore, hafter⟩ | ⟨mid, hbefore, hafter⟩
  · obtain ⟨rfl, rfl⟩ := hfirst hversion hversion' hbefore hafter
    rfl
  · obtain ⟨rfl, rfl⟩ := hfirst hversion' hversion hbefore hafter
    rfl

/-- The parts of a text around the first dash that a version follows. -/
def firstVersion? (text : List Char) : Option (List Char × List Char) :=
  (Text.cuts '-' text).find? fun parts => isVersion parts.2

/-- The parts of a text around the last dash that a version follows. -/
def lastVersion? (text : List Char) : Option (List Char × List Char) :=
  (Text.cuts '-' text).reverse.find? fun parts => isVersion parts.2

/-- A search finds the one element that passes the test, from whichever end it begins. -/
theorem find?_eq_some_iff_of_unique
    {α : Type*}
    {l : List α}
    {p : α → Bool}
    {a : α}
    (hunique : {a | a ∈ l ∧ p a = true}.Subsingleton) :
    l.find? p = some a ↔ a ∈ l ∧ p a = true := by
  constructor
  · intro h
    exact ⟨List.mem_of_find?_eq_some h, List.find?_some h⟩
  · intro h
    obtain ⟨b, hb⟩ := Option.isSome_iff_exists.mp (List.find?_isSome.mpr ⟨a, h⟩)
    rw [hb, hunique ⟨List.mem_of_find?_eq_some hb, List.find?_some hb⟩ h]

/-- If only elements that pass the test have a result then the element that passes it has the
first one. -/
theorem findSome?_eq_bind_find?
    {α β : Type*}
    {l : List α}
    {p : α → Bool}
    {f : α → Option β}
    (hunique : {a | a ∈ l ∧ p a = true}.Subsingleton)
    (hpass : ∀ a, (f a).isSome = true → p a = true) :
    l.findSome? f = (l.find? p).bind f := by
  refine Option.ext fun b => ?_
  rw [Option.bind_eq_some_iff]
  constructor
  · intro h
    obtain ⟨a, ha, hb⟩ := List.exists_of_findSome?_eq_some h
    have hp : p a = true := hpass a (by rw [hb, Option.isSome_some])
    exact ⟨a, (find?_eq_some_iff_of_unique hunique).mpr ⟨ha, hp⟩, hb⟩
  · rintro ⟨a, hfound, hb⟩
    have ha := (find?_eq_some_iff_of_unique hunique).mp hfound
    -- The first result may come from another element, but that one passes the test, too.
    have hsome : (l.findSome? f).isSome = true :=
      List.findSome?_isSome_iff.mpr ⟨a, ha.1, by rw [hb, Option.isSome_some]⟩
    obtain ⟨b', hb'⟩ := Option.isSome_iff_exists.mp hsome
    obtain ⟨a', ha', hfa'⟩ := List.exists_of_findSome?_eq_some hb'
    obtain rfl := hunique ha ⟨ha', hpass a' (by rw [hfa', Option.isSome_some])⟩
    rw [hb', ← hfa', hb]

theorem cuts_unique (text : List Char) :
    {parts | parts ∈ Text.cuts '-' text ∧ isVersion parts.2 = true}.Subsingleton := by
  refine (version_behind_one_dash text).anti fun parts hparts => ?_
  exact ⟨Text.mem_cuts_iff.mp hparts.1, isVersion_iff.mp hparts.2⟩

theorem firstVersion?_eq_some_iff
    {text before after : List Char} :
    firstVersion? text = some (before, after) ↔
      text = before ++ '-' :: after ∧ isVersion after = true := by
  rw [firstVersion?, find?_eq_some_iff_of_unique (cuts_unique text), Text.mem_cuts_iff]

theorem firstVersion?_eq_lastVersion? (text : List Char) :
    firstVersion? text = lastVersion? text := by
  have hunique := cuts_unique text
  refine Option.ext fun parts => ?_
  rw [firstVersion?, lastVersion?, find?_eq_some_iff_of_unique hunique,
    find?_eq_some_iff_of_unique (by simpa only [List.mem_reverse] using hunique),
    List.mem_reverse]

end Dashes

section Reading

/-- The parts of a coordinate as texts. -/
structure Parts where
  category : String
  package : String
  version : String

/-- The parts of a coordinate. -/
def parts (c : Coordinate) : Parts :=
  ⟨c.category, c.package, c.version⟩

/-- A text that is a category, a slash, a package, a dash and a version. -/
structure Spelled
    (text : String)
    (parts : Parts) :
    Prop where
  text_eq : text = parts.category ++ "/" ++ parts.package ++ "-" ++ parts.version
  category : Form.Category parts.category.toList
  package : Form.Package parts.package.toList
  version : parts.version.toList ∈ Form.version.matches'

/-- Reads a coordinate by a rule that tells around which dash behind the slash to cut. -/
def readAt?
    (place : List Char → Option (List Char × List Char))
    (text : String) :
    Option Coordinate :=
  (Text.cut '/' text.toList).bind fun (category, rest) =>
    (place rest).bind fun (package, version) => ofParts? category package version

theorem ofParts?_eq_some_iff
    {category package version : List Char}
    {c : Coordinate} :
    ofParts? category package version = some c ↔
      c.category.toList = category ∧ c.package.toList = package ∧ c.version.toList = version := by
  rw [ofParts?]
  constructor
  · split
    · rintro ⟨rfl⟩
      simp
    · rintro ⟨⟩
  · rintro ⟨rfl, rfl, rfl⟩
    rw [dif_pos ⟨c.category_valid, c.package_valid, c.version_valid⟩, Option.some.injEq]
    exact ext_parts (by simp) (by simp) (by simp)

theorem isVersion_of_ofParts?
    {category package version : List Char}
    (h : (ofParts? category package version).isSome = true) :
    isVersion version = true := by
  obtain ⟨c, hc⟩ := Option.isSome_iff_exists.mp h
  obtain ⟨-, -, rfl⟩ := ofParts?_eq_some_iff.mp hc
  exact c.version_valid

/-- Trying the dashes from left to right is to look for the first one with a version behind
it.  If the package before that dash is not valid then no other dash helps. -/
theorem parse?_eq_readAt? (text : String) :
    parse? text = readAt? firstVersion? text := by
  rw [parse?, readAt?]
  cases Text.cut '/' text.toList with
  | none =>
      rfl
  | some parts =>
      obtain ⟨category, rest⟩ := parts
      exact findSome?_eq_bind_find? (cuts_unique rest) fun _ => isVersion_of_ofParts?

theorem parse?_eq_some_iff
    {text : String}
    {c : Coordinate} :
    parse? text = some c ↔ Spelled text c.parts := by
  have hletters : '/' ∉ (many (oneOf (Form.alphanumerics ++ ['+', '_', '.', '-']))).letters := by
    decide
  simp only [parse?_eq_readAt?, readAt?, Option.bind_eq_some_iff, Prod.exists,
    Text.cut_eq_some_iff, firstVersion?_eq_some_iff, ofParts?_eq_some_iff]
  constructor
  · rintro ⟨category, rest, ⟨htext, -⟩, package, version, ⟨rfl, -⟩, rfl, rfl, rfl⟩
    refine
      { text_eq := String.toList_inj.mp ?_
        category := isCategory_iff.mp c.category_valid
        package := isPackage_iff.mp c.package_valid
        version := isVersion_iff.mp c.version_valid }
    rw [htext]
    simp [parts]
  · rintro ⟨htext, hcategory, -, -⟩
    refine ⟨c.category.toList, c.package.toList ++ '-' :: c.version.toList, ⟨?_, ?_⟩,
      c.package.toList, c.version.toList, ⟨rfl, c.version_valid⟩, rfl, rfl, rfl⟩
    · rw [htext]
      simp [parts]
    · exact fun hslash => hletters (mem_letters_of_matches hcategory.matches_chars hslash)

/-- The parts of a form make a coordinate. -/
theorem exists_parts_of_spelled
    {text : String}
    {p : Parts}
    (h : Spelled text p) :
    ∃ c : Coordinate, c.parts = p :=
  ⟨{ category := p.category
     package := p.package
     version := p.version
     category_valid := isCategory_iff.mpr h.category
     package_valid := isPackage_iff.mpr h.package
     version_valid := isVersion_iff.mpr h.version }, rfl⟩

theorem parse_eq_ok_iff
    {text : String}
    {c : Coordinate} :
    parse text = .ok c ↔ Spelled text c.parts := by
  rw [← parse?_eq_some_iff, parse]
  cases parse? text <;> simp

theorem map_parse_eq_ok_iff
    {text : String}
    {p : Parts} :
    (parse text).map parts = .ok p ↔ Spelled text p := by
  rw [Result.map_eq_ok_iff]
  constructor
  · rintro ⟨c, hc, rfl⟩
    exact parse_eq_ok_iff.mp hc
  · intro h
    obtain ⟨c, rfl⟩ := exists_parts_of_spelled h
    exact ⟨c, parse_eq_ok_iff.mpr h, rfl⟩

theorem parse_eq_error_iff
    {text : String}
    {failure : Failure} :
    parse text = .error failure ↔ failure = .badCoordinate text ∧ ∀ p, ¬ Spelled text p := by
  constructor
  · intro h
    have hnone : ∀ p, ¬ Spelled text p := by
      intro p hp
      have hok := map_parse_eq_ok_iff.mpr hp
      rw [h] at hok
      cases hok
    rw [parse] at h
    split at h
    · cases h
    · exact ⟨(Except.error.inj h).symm, hnone⟩
  · rintro ⟨rfl, hnone⟩
    cases hread : parse? text with
    | none =>
        rw [parse, hread]
    | some c =>
        exact absurd (parse?_eq_some_iff.mp hread) (hnone c.parts)

/-- Reading accepts exactly the texts that are spelled as a category, a package and a version.
A text is spelled so in one way at most, and that is what is read; all other texts are refused.

The package ends at the one dash that has a version behind it, so looking for the first such
dash and looking for the last one is the same. -/
theorem parse_accepts_spelled :
    (∀ text p, (parse text).map parts = .ok p ↔ Spelled text p) ∧
    (∀ text, {p | Spelled text p}.Subsingleton) ∧
    (∀ text failure, parse text = .error failure ↔
      failure = .badCoordinate text ∧ ∀ p, ¬ Spelled text p) ∧
    (∀ rest : List Char,
      {cut : List Char × List Char |
        rest = cut.1 ++ '-' :: cut.2 ∧ cut.2 ∈ Form.version.matches'}.Subsingleton) ∧
    (∀ rest, firstVersion? rest = lastVersion? rest) ∧
    (∀ text, parse? text = readAt? firstVersion? text) ∧
    (∀ text, parse? text = readAt? lastVersion? text) := by
  refine ⟨fun _ _ => map_parse_eq_ok_iff, fun text p hp q hq => ?_,
    fun _ _ => parse_eq_error_iff, version_behind_one_dash, firstVersion?_eq_lastVersion?,
    parse?_eq_readAt?, fun text => ?_⟩
  · have hread := map_parse_eq_ok_iff.mpr hp
    rw [map_parse_eq_ok_iff.mpr hq] at hread
    exact (Except.ok.inj hread).symm
  · have hplaces : firstVersion? = lastVersion? := funext firstVersion?_eq_lastVersion?
    rw [← hplaces]
    exact parse?_eq_readAt? text

/-- Neither a package that looks like a version nor the dash of a revision is cut at. -/
example :
    (parse? "dev-libs/libfoo-2-bar-3.1").map (fun c => (c.package, c.version)) =
        some ("libfoo-2-bar", "3.1") ∧
      lastVersion? "libfoo-2-bar-3.1-r2".toList =
        some ("libfoo-2-bar".toList, "3.1-r2".toList) := by
  decide

end Reading

end Coordinate
end PackageMetadata
