import Mathlib.Data.List.Nodup
import PackageMetadata.Proofs.Admission
import PackageMetadata.Regeneration

/-!
# Plans that are made in one pass

A plan is made of a list of packages by putting them forward one after the other.  Packages
*compete* if they have one key and one main slot.  The first one of those that compete gets the
slot and is never replaced.  Any later one is answered that first one, unless the two count as the
same package.

For packages that are made of records this can be told from the records: packages compete if they
agree in category and name, and the texts of their slots agree in front of the first slash.

**Definitions**

* `competes`: two packages have one key and one main slot.
* `holder?`: the first package of a list that competes with a candidate.
* `holders`: the packages of a list that are their own holders.
* `rivals`: what a candidate is answered in the end.
* `Planned`: a tracker holds the holders of a list.
* `sameClass`: the same as `competes` for the records of packages.
* `MadeOf`: packages are made of records one by one.
* `firsts`: the packages whose records come first in their class.

**Results**

* `fill_planned`: one more package.
* `fills_planned`: all packages of a list.
* `competes_eq_sameClass`: competition in terms of records.
* `greedy_plan_eq`: plans of packages that are made of records.
-/

namespace PackageMetadata

/-- The text of a record's slot in front of the first slash, without the blanks around the
whole. -/
def Record.mainSlot (record : Record) : List Char :=
  (Text.trim ((record.text? slotKey).getD "").toList).takeWhile (· != '/')

/-- What a package takes from its record. -/
theorem Package.eq_of_ofRecord
    {coordinate : Coordinate}
    {record : Record}
    {package : Package}
    (h : ofRecord coordinate record = .ok package) :
    package.coordinate = coordinate ∧ package.slot.main.toList = record.mainSlot := by
  obtain ⟨hcoordinate, hslot⟩ := ofRecord_eq_ok_iff.mp h
  obtain ⟨text, htext, hread⟩ := Option.bind_eq_some_iff.mp hslot
  rw [Record.mainSlot, htext, Option.getD_some]
  exact ⟨hcoordinate, Slot.toList_main_of_ofText? hread⟩

/-- The elements of a numbered list are those of the list, each with its own position. -/
theorem Numbered.getElem?_ofList
    {α : Type}
    (values : List α)
    (i : Nat) :
    (ofList values)[i]? = (values[i]?).map fun value => ⟨i, value⟩ := by
  rw [ofList, List.getElem?_map, List.getElem?_zipIdx, Option.map_map, Nat.zero_add]
  rfl

theorem Numbered.getElem_ofList
    {α : Type}
    {values : List α}
    {i : Nat}
    (h : i < values.length) :
    ∃ hbound : i < (ofList values).length, (ofList values)[i] = ⟨i, values[i]⟩ := by
  refine List.getElem?_eq_some_iff.mp ?_
  rw [getElem?_ofList, List.getElem?_eq_getElem h]
  rfl

theorem Numbered.nodup_ofList
    {α : Type}
    (values : List α) :
    (ofList values).Nodup := by
  refine List.Nodup.of_map Numbered.position ?_
  have hpositions : (ofList values).map Numbered.position = List.range' 0 values.length := by
    rw [ofList, List.map_map, ← List.zipIdx_map_snd]
    rfl
  rw [hpositions]
  exact List.nodup_range'

namespace Tracker

variable {P R : Type} [Slotted P] [Restriction R P]

section Definitions

/-- Whether a package has the key and the main slot of a candidate. -/
def competes (candidate package : P) : Bool :=
  Slotted.key package == Slotted.key candidate && sharesSlot package candidate

/-- The first package that competes with a candidate. -/
def holder?
    (packages : List P)
    (candidate : P) :
    Option P :=
  packages.find? (competes candidate)

/-- The packages with which no earlier one competes. -/
def holders
    [DecidableEq P]
    (packages : List P) :
    List P :=
  packages.filter fun package => holder? packages package = some package

omit [Restriction R P] in
/-- The first package that competes with a candidate, as the answer to it.  It is left out if it is
the candidate or counts as the candidate. -/
def rivals
    [DecidableEq P]
    (packages : List P)
    (candidate : P) :
    List (Entry P R) :=
  ((holder? packages candidate).toList.filter fun holder =>
    holder != candidate && !Slotted.agrees holder candidate).map .occupant

end Definitions

section Competition

variable {candidate package : P} {packages rest : List P}

theorem competes_self (candidate : P) :
    competes candidate candidate = true := by
  simp [competes, sharesSlot]

/-- Packages that compete have the same competitors. -/
theorem competes_congr (h : competes candidate package = true) :
    competes package = competes candidate := by
  obtain ⟨hkey, hslot⟩ := Bool.and_eq_true_iff.mp h
  have hkey : Slotted.key package = Slotted.key candidate := beq_iff_eq.mp hkey
  have hslot : (Slotted.slot package).main = (Slotted.slot candidate).main := beq_iff_eq.mp hslot
  funext other
  rw [competes, competes, sharesSlot, sharesSlot, hkey, hslot]

/-- A list has a holder for each of its own packages, whatever comes behind it. -/
theorem holder?_append_of_mem (h : candidate ∈ packages) :
    holder? (packages ++ rest) candidate = holder? packages candidate := by
  rw [holder?, holder?, List.find?_append, Option.or_of_isSome]
  exact List.find?_isSome.mpr ⟨candidate, h, competes_self candidate⟩

theorem holder?_concat_self :
    holder? (packages ++ [candidate]) candidate =
      (holder? packages candidate).or (some candidate) := by
  rw [holder?, holder?, List.find?_append, List.find?_singleton, if_pos (competes_self candidate)]

variable [DecidableEq P]

/-- A new package is its own holder if no package is there that competes with it. -/
theorem holders_concat (hnew : candidate ∉ packages) :
    holders (packages ++ [candidate]) =
      holders packages ++ if (holder? packages candidate).isNone then [candidate] else [] := by
  have hfront : packages.filter (fun package =>
      holder? (packages ++ [candidate]) package = some package) = holders packages :=
    List.filter_congr fun package hpackage => by rw [holder?_append_of_mem hpackage]
  rw [holders, List.filter_append, hfront, List.filter_cons, List.filter_nil,
    holder?_concat_self]
  cases hholder : holder? packages candidate with
  | none =>
      simp
  | some holder =>
      have hne : holder ≠ candidate := by
        rintro rfl
        exact hnew (List.mem_of_find?_eq_some hholder)
      simp [hne]

/-- Of the holders only the first competitor of a candidate competes with it. -/
theorem filter_competes_holders
    (hnodup : packages.Nodup)
    (candidate : P) :
    (holders packages).filter (competes candidate) = (holder? packages candidate).toList := by
  -- Competitors have one holder, so only that one of them can be its own.
  have hsame : (holders packages).filter (competes candidate) =
      packages.filter fun package => holder? packages candidate = some package := by
    rw [holders, List.filter_filter]
    refine List.filter_congr fun package _ => ?_
    cases hcompetes : competes candidate package with
    | true =>
        rw [holder?, competes_congr hcompetes, Bool.true_and]
        rfl
    | false =>
        rw [Bool.false_and, eq_comm, decide_eq_false_iff_not]
        intro hholder
        rw [List.find?_some hholder] at hcompetes
        cases hcompetes
  rw [hsame]
  cases hholder : holder? packages candidate with
  | none =>
      simp
  | some holder =>
      have hmem : holder ∈ packages := List.mem_of_find?_eq_some hholder
      have hone : packages.filter (fun package => package == holder) = [holder] := by
        rw [List.filter_beq, List.count_eq_one_of_mem hnodup hmem, List.replicate_one]
      rw [Option.toList_some, ← hone]
      refine List.filter_congr fun package _ => ?_
      rw [Bool.eq_iff_iff, decide_eq_true_iff, beq_iff_eq, Option.some.injEq, eq_comm]

end Competition

section Plans

variable {tracker : Tracker P R} {packages : List P} {candidate : P} [DecidableEq P]

/-- A tracker holds the holders of a list, in the order of the list, and nothing else. -/
def Planned
    (tracker : Tracker P R)
    (packages : List P) :
    Prop :=
  ∀ key, tracker.entries key =
    ((holders packages).filter fun package => Slotted.key package == key).map .occupant

variable (h : tracker.Planned packages)
include h

omit [Restriction R P] in
/-- Only the holder of a candidate can stand for it. -/
theorem find?_standsFor
    (hnodup : packages.Nodup)
    (candidate : P) :
    ((tracker.entries (Slotted.key candidate)).filterMap Entry.occupant?).find?
        (standsFor candidate) =
      (holder? packages candidate).toList.find? (Slotted.agrees · candidate) := by
  have hoccupants : Entry.occupant? ∘ Entry.occupant (P := P) (R := R) = some := rfl
  rw [h, ← filter_competes_holders hnodup, List.filterMap_map, hoccupants, List.filterMap_some,
    List.find?_filter, List.find?_filter]
  refine congrArg (fun p => (holders packages).find? p) (funext fun package => ?_)
  simp only [standsFor, competes, Bool.and_eq_true, and_assoc]

/-- Only the holder of a candidate can oppose it. -/
theorem filter_opposes
    (hnodup : packages.Nodup)
    (candidate : P) :
    (tracker.entries (Slotted.key candidate)).filter (opposes candidate) =
      (holder? packages candidate).toList.map .occupant := by
  rw [h, ← filter_competes_holders hnodup, List.filter_map, List.filter_filter]
  refine congrArg (List.map Entry.occupant) (List.filter_congr fun package _ => ?_)
  exact Bool.and_comm ..

/-- No blocker forbids anything. -/
theorem forbids_planned
    (key : String)
    (package : P) :
    forbids (tracker.entries key) package = false := by
  rw [h, forbids, List.filterMap_map]
  simp [Function.comp_def, Entry.blocker?]

/-- One more package is answered its holder, unless the two count as the same one, and is taken in
if it has none. -/
theorem fill_planned
    (hnodup : packages.Nodup)
    (hnew : candidate ∉ packages) :
    (tracker.fill candidate).result = .ok (rivals (packages ++ [candidate]) candidate) ∧
      (tracker.fill candidate).state.Planned (packages ++ [candidate]) := by
  rw [fill_eq, encounter_eq, find?_standsFor h hnodup, filter_opposes h hnodup, rivals,
    holder?_concat_self]
  cases hholder : holder? packages candidate with
  | none =>
      refine ⟨by simp, fun key => ?_⟩
      have hafter := entries_append tracker (Slotted.key candidate) key (.occupant candidate)
      rw [holders_concat hnew, hholder, Option.isNone_none, if_pos rfl, List.filter_append,
        List.map_append, ← h key]
      refine hafter.trans ?_
      by_cases hkey : key = Slotted.key candidate
      · simp [hkey]
      · simp [hkey, Ne.symm hkey]
  | some holder =>
      have hsame : holders (packages ++ [candidate]) = holders packages := by
        rw [holders_concat hnew, hholder]
        exact List.append_nil _
      have hplanned : tracker.Planned (packages ++ [candidate]) := by
        rw [Planned, hsame]
        exact h
      have hne : holder ≠ candidate := by
        rintro rfl
        exact hnew (List.mem_of_find?_eq_some hholder)
      cases hagrees : Slotted.agrees holder candidate with
      | true =>
          simp [hagrees, forbids_planned h, hplanned]
      | false =>
          simp [hagrees, hne, hplanned]

end Plans

section Runs

variable {tracker : Tracker P R} {packages rest : List P} {candidate : P} [DecidableEq P]

omit [Restriction R P] in
/-- A package is answered the same whatever comes behind it. -/
theorem rivals_append_of_mem (h : candidate ∈ packages) :
    (rivals (packages ++ rest) candidate : List (Entry P R)) = rivals packages candidate := by
  rw [rivals, rivals, holder?_append_of_mem h]

variable [DecidableEq R]

/-- All packages of a list are put forward in order. -/
theorem fills_planned
    (h : tracker.Planned packages)
    (hnodup : (packages ++ rest).Nodup) :
    tracker.answers (rest.map .fill) =
        rest.map (fun candidate => .ok (rivals (packages ++ rest) candidate)) ∧
      (tracker.after (rest.map .fill)).Planned (packages ++ rest) := by
  induction rest generalizing tracker packages with
  | nil =>
      rw [List.append_nil]
      exact ⟨rfl, h⟩
  | cons candidate rest ih =>
      -- The answer to the first one is settled once it is behind the packages before it.
      obtain ⟨hpackages, -, hdisjoint⟩ := List.nodup_append.mp hnodup
      have hnew : candidate ∉ packages := fun hmem => hdisjoint _ hmem _ (List.mem_cons_self ..) rfl
      obtain ⟨hresult, hplanned⟩ := fill_planned h hpackages hnew
      rw [List.append_cons] at hnodup ⊢
      obtain ⟨hanswers, hafter⟩ := ih hplanned hnodup
      refine ⟨?_, hafter⟩
      have hlast : candidate ∈ packages ++ [candidate] := by simp
      rw [List.map_cons, List.map_cons, answers, rivals_append_of_mem hlast, ← hresult]
      exact congrArg _ hanswers

omit [Restriction R P] [DecidableEq R] in
theorem planned_empty :
    (empty : Tracker P R).Planned [] :=
  fun _ => rfl

end Runs

section Records

/-- Whether two records belong to one package and name one main slot. -/
def sameClass (a b : Coordinate × Record) : Bool :=
  b.1.category == a.1.category && b.1.package == a.1.package && b.2.mainSlot == a.2.mainSlot

/-- The packages whose records are the first ones of their class, with their positions. -/
def firsts
    (entries : List (Coordinate × Record))
    (packages : List Package) :
    List (Numbered Package) :=
  (Numbered.ofList packages).filter fun package =>
    (entries[package.position]?).any fun entry =>
      entries.findIdx (sameClass entry) == package.position

/-- Packages that are made of records, one of each. -/
def MadeOf
    (entries : List (Coordinate × Record))
    (packages : List Package) :
    Prop :=
  List.Forall₂ (fun entry package => Package.ofRecord entry.1 entry.2 = .ok package)
    entries packages

theorem sameClass_self (entry : Coordinate × Record) :
    sameClass entry entry = true := by
  simp [sameClass]

/-- Packages compete if their records are of one class. -/
theorem competes_eq_sameClass
    {a b : Coordinate × Record}
    {p q : Package}
    (ha : Package.ofRecord a.1 a.2 = .ok p)
    (hb : Package.ofRecord b.1 b.2 = .ok q) :
    competes p q = sameClass a b := by
  obtain ⟨hcoordinateP, hmainP⟩ := Package.eq_of_ofRecord ha
  obtain ⟨hcoordinateQ, hmainQ⟩ := Package.eq_of_ofRecord hb
  have hkey : q.key = p.key ↔ b.1.category = a.1.category ∧ b.1.package = a.1.package := by
    rw [Package.key, Package.key, hcoordinateP, hcoordinateQ]
    exact Coordinate.key_eq_iff
  have hmain : q.slot.main = p.slot.main ↔ b.2.mainSlot = a.2.mainSlot := by
    rw [← hmainP, ← hmainQ, String.toList_inj]
  rw [Bool.eq_iff_iff, competes, sameClass, Bool.and_eq_true, Bool.and_eq_true, Bool.and_eq_true,
    sharesSlot, beq_iff_eq, beq_iff_eq, beq_iff_eq, beq_iff_eq, beq_iff_eq]
  exact and_congr hkey hmain

variable {entries : List (Coordinate × Record)} {packages : List Package}

/-- If all entries of a list make packages, then these are made of them one by one. -/
theorem madeOf_of_mapM
    (h : entries.mapM (fun entry => Package.ofRecord entry.1 entry.2) = .ok packages) :
    MadeOf entries packages := by
  induction entries generalizing packages with
  | nil =>
      obtain rfl : [] = packages := Except.ok.inj h
      exact List.Forall₂.nil
  | cons entry rest ih =>
      rw [List.mapM_cons] at h
      cases hfirst : Package.ofRecord entry.1 entry.2 with
      | error failure =>
          rw [hfirst] at h
          cases h
      | ok package =>
          cases hrest : rest.mapM (fun entry => Package.ofRecord entry.1 entry.2) with
          | error failure =>
              rw [hfirst, hrest] at h
              cases h
          | ok others =>
              rw [hfirst, hrest] at h
              obtain rfl : package :: others = packages := Except.ok.inj h
              exact List.Forall₂.cons hfirst (ih hrest)

section Positions

variable {i : Nat} {entry : Coordinate × Record} {package : Package}
variable (hmade : MadeOf entries packages)
variable (hentry : entries[i]? = some entry) (hpackage : packages[i]? = some package)
include hmade hentry hpackage

theorem ofRecord_of_getElem? :
    Package.ofRecord entry.1 entry.2 = .ok package := by
  obtain ⟨hi, rfl⟩ := List.getElem?_eq_some_iff.mp hentry
  obtain ⟨hi', rfl⟩ := List.getElem?_eq_some_iff.mp hpackage
  exact List.Forall₂.get hmade hi hi'

theorem competes_numbered
    {j : Nat}
    {other : Coordinate × Record}
    {found : Package}
    (hother : entries[j]? = some other)
    (hfound : packages[j]? = some found) :
    competes (⟨i, package⟩ : Numbered Package) ⟨j, found⟩ = sameClass entry other :=
  competes_eq_sameClass (ofRecord_of_getElem? hmade hentry hpackage)
    (ofRecord_of_getElem? hmade hother hfound)

/-- The holder of a package is the one whose record is the first of its class. -/
theorem holder?_ofList :
    let first := entries.findIdx (sameClass entry)
    ∃ holder, packages[first]? = some holder ∧
      holder? (Numbered.ofList packages) ⟨i, package⟩ = some ⟨first, holder⟩ := by
  intro first
  have hfirst : first < entries.length := List.findIdx_lt_length_of_exists
    ⟨entry, List.mem_of_getElem? hentry, sameClass_self entry⟩
  have hfirst' : first < packages.length := List.Forall₂.length_eq hmade ▸ hfirst
  obtain ⟨hbound, hvalue⟩ := Numbered.getElem_ofList hfirst'
  refine ⟨packages[first], List.getElem?_eq_getElem hfirst',
    List.find?_eq_some_iff_getElem.mpr ⟨?_, first, hbound, hvalue, fun j hj => ?_⟩⟩
  · rw [competes_numbered hmade hentry hpackage (List.getElem?_eq_getElem hfirst)
      (List.getElem?_eq_getElem hfirst')]
    exact List.findIdx_getElem
  · have hbefore : j < entries.length := Nat.lt_trans hj hfirst
    have hbefore' : j < packages.length := Nat.lt_trans hj hfirst'
    obtain ⟨_, hvalue⟩ := Numbered.getElem_ofList hbefore'
    rw [hvalue, competes_numbered hmade hentry hpackage (List.getElem?_eq_getElem hbefore)
      (List.getElem?_eq_getElem hbefore'), List.not_of_lt_findIdx hj]
    rfl

/-- A package whose record is not the first of its class is answered the one whose record is,
unless the two are equal. -/
theorem rivals_ofList :
    let first := entries.findIdx (sameClass entry)
    ∃ holder, packages[first]? = some holder ∧
      (rivals (Numbered.ofList packages) ⟨i, package⟩ :
          List (Entry (Numbered Package) (Numbered Blocker))) =
        if first = i ∨ holder = package then [] else [.occupant ⟨first, holder⟩] := by
  intro first
  obtain ⟨holder, hfound, hholder⟩ := holder?_ofList hmade hentry hpackage
  refine ⟨holder, hfound, ?_⟩
  have hagrees : Slotted.agrees (⟨first, holder⟩ : Numbered Package) ⟨i, package⟩ =
      (holder == package) := rfl
  rw [rivals, hholder, Option.toList_some, List.filter_cons, List.filter_nil, hagrees]
  by_cases hequal : holder = package
  · simp [hequal]
  · have hlater : first ≠ i := by
      rintro rfl
      exact hequal (Option.some.inj (hfound.symm.trans hpackage))
    simp [hequal, hlater, first]

/-- A package is its own holder if its record is the first of its class. -/
theorem holder?_eq_self_iff :
    holder? (Numbered.ofList packages) ⟨i, package⟩ = some ⟨i, package⟩ ↔
      entries.findIdx (sameClass entry) = i := by
  obtain ⟨holder, hfound, hholder⟩ := holder?_ofList hmade hentry hpackage
  rw [hholder, Option.some.injEq, Numbered.mk.injEq]
  constructor
  · exact And.left
  · intro hfirst
    rw [hfirst, hpackage] at hfound
    exact ⟨hfirst, (Option.some.inj hfound).symm⟩

end Positions

/-- The holders of a list are the packages whose records are the first ones of their class. -/
theorem holders_ofList (hmade : MadeOf entries packages) :
    holders (Numbered.ofList packages) = firsts entries packages := by
  refine List.filter_congr fun package hpackage => ?_
  obtain ⟨i, hi⟩ := List.mem_iff_getElem?.mp hpackage
  rw [Numbered.getElem?_ofList, Option.map_eq_some_iff] at hi
  obtain ⟨value, hvalue, rfl⟩ := hi
  obtain ⟨hi', -⟩ := List.getElem?_eq_some_iff.mp hvalue
  have hbound : i < entries.length := List.Forall₂.length_eq hmade ▸ hi'
  have hentry := List.getElem?_eq_getElem hbound
  rw [hentry, Option.any_some, Bool.eq_iff_iff, decide_eq_true_iff, beq_iff_eq]
  exact holder?_eq_self_iff hmade hentry hvalue

/-- A plan of packages that are made of records, one after the other.

A package is accepted if its record is the first of its class, or if it is equal to the package
whose record is.  Otherwise it is answered that package and nothing else.  In the end the plan holds
the packages whose records are the first ones of their class, in the order of the list. -/
theorem greedy_plan_eq
    (h : entries.mapM (fun entry => Package.ofRecord entry.1 entry.2) = .ok packages) :
    let requests : List (Request (Numbered Package) (Numbered Blocker)) :=
      (Numbered.ofList packages).map .fill
    let answers := empty.answers requests
    let plan : Regeneration.Plan := empty.after requests
    (∀ (i : Nat) entry package, entries[i]? = some entry → packages[i]? = some package →
      let first := entries.findIdx (sameClass entry)
      ∃ holder, packages[first]? = some holder ∧
        answers[i]? = some (.ok
          (if first = i ∨ holder = package then [] else [.occupant ⟨first, holder⟩]))) ∧
    ∀ key, plan.entries key =
      ((firsts entries packages).filter fun package => package.value.key == key).map
        .occupant := by
  intro requests answers plan
  have hmade := madeOf_of_mapM h
  obtain ⟨hanswers, hplanned⟩ : answers = _ ∧ plan.Planned (Numbered.ofList packages) :=
    fills_planned planned_empty (Numbered.nodup_ofList packages)
  refine ⟨fun i entry package hentry hpackage => ?_, fun key => ?_⟩
  · obtain ⟨holder, hfound, hrivals⟩ := rivals_ofList hmade hentry hpackage
    refine ⟨holder, hfound, ?_⟩
    rw [hanswers, List.getElem?_map, Numbered.getElem?_ofList, hpackage, List.nil_append,
      ← hrivals]
    rfl
  · rw [← holders_ofList hmade]
    exact hplanned key

/-- Of two versions in one main slot the first one is taken, even if the second one names a
sub-slot. -/
theorem greedy_plan_eq_subslot :
    let earlier : Coordinate := ⟨"dev-libs", "a", "1", rfl, rfl, rfl⟩
    let later : Coordinate := ⟨"dev-libs", "a", "2", rfl, rfl, rfl⟩
    let slotted (text : String) : Record := OrderedMap.insert ∅ Record.slotKey (.text text)
    let entries := [(earlier, slotted "0"), (later, slotted " 0/2 ")]
    let packages : List Package := [⟨earlier, ⟨"0", none⟩⟩, ⟨later, ⟨"0", some "2"⟩⟩]
    let requests : List (Request (Numbered Package) (Numbered Blocker)) :=
      (Numbered.ofList packages).map .fill
    let occupant := Entry.occupant ⟨0, ⟨earlier, ⟨"0", none⟩⟩⟩
    entries.mapM (fun entry => Package.ofRecord entry.1 entry.2) = .ok packages ∧
      (empty.answers requests)[1]? = some (.ok [occupant]) ∧
      Tracker.entries (empty.after requests) "dev-libs/a" = [occupant] := by
  intro earlier later slotted entries packages requests occupant
  have hmade : entries.mapM (fun entry => Package.ofRecord entry.1 entry.2) = .ok packages := by
    decide
  obtain ⟨hanswers, hheld⟩ := greedy_plan_eq hmade
  obtain ⟨holder, hfound, hanswer⟩ := hanswers 1 _ _ rfl rfl
  have hfirst : entries.findIdx (sameClass (later, slotted " 0/2 ")) = 0 := by decide
  rw [hfirst] at hfound hanswer
  obtain rfl := Option.some.inj hfound
  refine ⟨hmade, hanswer, ?_⟩
  rw [hheld]
  decide

end Records

end Tracker
end PackageMetadata
