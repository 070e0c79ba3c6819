import PackageMetadata.Proofs.Catalogue
import PackageMetadata.Proofs.EclassDecoding

/-!
# Which records survive being copied into another store

A record that one cache shows holds its eclasses in decoded form.  Setting it in another cache
writes them anew, smallest name first, and getting it there reads them again.  Nothing is
escaped and the text is trimmed.  So eclasses whose least name is empty or begins blank are lost
or altered, although they could be read where that name stood between others.

With an empty name there is one exception.  It takes two entries without paths and with one
time, where the other name is that time.  Then the text loses two tokens, and what is left is
the brief layout of the same entries in another order.

**Results**

* `read_encode_iff`: exactly which eclasses are read back from their text.
* `shown_filed_eq_ok_iff`: when a record is shown as it was before it was filed.
* `copied_iff_rereadable`: exactly which records survive being copied.
-/

namespace PackageMetadata
namespace Eclasses

section Rereading

/-- There is no tab in a name or a path. -/
def TabFree (eclasses : Eclasses) : Prop :=
  ∀ entry ∈ eclasses.toList, '\t' ∉ entry.1.toList ∧ '\t' ∉ entry.2.path.toList

/-- The least name, if there is one, begins with a character that is not blank. -/
def BeginsVisibly (eclasses : Eclasses) : Prop :=
  ∀ name ∈ eclasses.keys, (∀ other ∈ eclasses.keys, name ≤ other) →
    ∃ c ∈ name.toList.head?, Text.isBlank c = false

/-- There are two entries without paths and with one time.  One has no name and the other is
named for the time. -/
def Twins (eclasses : Eclasses) : Prop :=
  ∃ time : Int64, 0 ≤ time.toInt ∧
    eclasses.toList =
      [("", ⟨"", time⟩), (String.ofList (Text.Integer.write time), ⟨"", time⟩)]

/-- What eclasses without tabs have to be like to be read back from their text. -/
def Rereadable (eclasses : Eclasses) : Prop :=
  eclasses.BeginsVisibly ∨ eclasses.Twins

variable {eclasses : Eclasses} {raw : String}
variable {entry : String × Eclass} {rest entries : List (String × Eclass)}

/-- If the least name and its path vanish then two entries are read, whose names are the time of
the first one and nothing. -/
theorem entries_of_two_gone
    (hentries : eclasses.toList = entry :: rest)
    (hgone : entry.1.toList.dropWhile Text.isBlank = [])
    (hpath : entry.2.path.toList.dropWhile Text.isBlank = [])
    (hread : readTokens raw (Text.trimFront eclasses.tokens) = .ok entries)
    (hsurvives : OrderedMap.ofList entries = eclasses) :
    ∃ next time, rest = [next] ∧ (∀ c ∈ next.1.toList, c.isDigit = true) ∧
      entries =
        [(String.ofList (Text.Integer.write entry.2.mtime), ⟨"", time⟩),
          ("", ⟨"", next.2.mtime⟩)] := by
  obtain ⟨next, later, rfl, hpaths, hleft, hbrief⟩ :=
    readBrief_of_two_gone hentries hgone hpath hread hsurvives
  rw [hleft] at hbrief hread
  obtain ⟨time, behind, -, hbehind, rfl⟩ := readBrief_cons_eq_ok.mp hbrief
  obtain ⟨mtime, last, hmtime, hlast, rfl⟩ := readBrief_cons_eq_ok.mp hbehind
  rw [readTime_write] at hmtime
  obtain rfl : next.2.mtime = mtime := Except.ok.inj hmtime
  cases later with
  | cons third later =>
      -- The path of a third entry is empty, too, and stands where the layout has a time.
      have hempty : third.2.path = "" := hpaths third (by simp [hentries])
      obtain ⟨_, _, htime, -⟩ := readBrief_cons_eq_ok.mp hlast
      rw [hempty] at htime
      cases htime
  | nil =>
      cases hlast
      refine ⟨next, time, rfl, ?_, by simp⟩
      obtain ⟨layout, hchosen, hwidth, -⟩ := lists_of_readTokens hread
      cases layout with
      | full =>
          exact absurd hwidth (by simp [Layout.width])
      | brief =>
          obtain ⟨token, htoken, -, hdigits⟩ := hchosen.2.2
          cases htoken
          exact hdigits

/-- If the least name is empty then eclasses are read back only if they are twins. -/
theorem twins_of_survives
    (hentries : eclasses.toList = entry :: rest)
    (hname : entry.1 = "")
    (hread : readTokens raw (Text.trimFront eclasses.tokens) = .ok entries)
    (hsurvives : OrderedMap.ofList entries = eclasses) :
    eclasses.Twins := by
  have hgone : entry.1.toList.dropWhile Text.isBlank = [] := by
    simp [hname]
  have hpath : entry.2.path.toList.dropWhile Text.isBlank = [] := by
    cases hkept : entry.2.path.toList.dropWhile Text.isBlank with
    | nil =>
        rfl
    | cons c path =>
        exact absurd hsurvives
          (not_survives_of_one_gone hentries hgone (by simp [hkept]) hread)
  obtain ⟨next, time, rfl, hdigits, rfl⟩ :=
    entries_of_two_gone hentries hgone hpath hread hsurvives
  have hmem : ∀ e ∈ eclasses.toList,
      e = (String.ofList (Text.Integer.write entry.2.mtime), ⟨"", time⟩) ∨
        e = ("", ⟨"", next.2.mtime⟩) := fun e he => by
    rw [← hsurvives] at he
    simpa using OrderedMap.mem_of_mem_ofList he
  have hfirst : entry = ("", ⟨"", next.2.mtime⟩) := by
    refine (hmem entry (by simp [hentries])).resolve_left fun heq => ?_
    have hnil := congrArg (fun e => e.1.toList) heq
    rw [hname] at hnil
    exact Text.Integer.write_ne_nil entry.2.mtime (by simpa using hnil.symm)
  have hsecond : next = (String.ofList (Text.Integer.write entry.2.mtime), ⟨"", time⟩) := by
    refine (hmem next (by simp [hentries])).resolve_right fun heq => ?_
    have hlt := lt_of_mem_rest hentries List.mem_cons_self
    rw [hname, heq] at hlt
    exact String.lt_irrefl "" hlt
  have htime : next.2.mtime = time := congrArg (fun e => e.2.mtime) hsecond
  rw [htime] at hfirst
  rw [hfirst] at hsecond
  rw [hsecond] at hdigits
  refine ⟨time, Text.Integer.isDigit_write_iff.mp (by simpa using hdigits), ?_⟩
  rw [hentries, hfirst, hsecond]

/-- Twins are read back, in the brief layout. -/
theorem readTokens_of_twins
    {time : Int64}
    (raw : String)
    (htime : 0 ≤ time.toInt)
    (hentries : eclasses.toList =
      [("", ⟨"", time⟩), (String.ofList (Text.Integer.write time), ⟨"", time⟩)]) :
    (readTokens raw (Text.trimFront eclasses.tokens)).map OrderedMap.ofList = .ok eclasses := by
  have hwrite := readTime_write raw time
  have hleft : Text.trimFront eclasses.tokens =
      [Text.Integer.write time, Text.Integer.write time, [], Text.Integer.write time] := by
    rw [tokens_eq_cons hentries, Text.trimFront_cons_of_blank rfl,
      Text.trimFront_cons_of_blank rfl,
      Text.trimFront_eq_self (Text.Integer.write_ne_nil time) fun c hc =>
        Text.Integer.not_isBlank_of_mem_write (List.mem_of_mem_head? hc)]
    simp [entryTokens]
  have hchosen : Layout.brief.Chosen (Text.trimFront eclasses.tokens) := by
    rw [hleft]
    exact ⟨by simp, by simp, _, rfl, Text.Integer.write_ne_nil time,
      Text.Integer.isDigit_write_iff.mpr htime⟩
  have hread : readTokens raw (Text.trimFront eclasses.tokens) =
      .ok [(String.ofList (Text.Integer.write time), ⟨"", time⟩), ("", ⟨"", time⟩)] := by
    rw [readTokens_of_chosen raw hchosen, hleft]
    exact readBrief_cons_eq_ok.mpr ⟨time, _, hwrite,
      readBrief_cons_eq_ok.mpr ⟨time, [], hwrite, rfl, rfl⟩, rfl⟩
  have hreverse := OrderedMap.ofList_reverse_toList eclasses
  rw [hentries] at hreverse
  rw [hread]
  exact congrArg Except.ok hreverse

theorem ne_empty_of_le
    {name other : String}
    (hle : name ≤ other)
    (hname : name ≠ "") :
    other ≠ "" := by
  rintro rfl
  have hempty : "" ≤ name := fun hlt => by
    rw [String.lt_iff] at hlt
    simp at hlt
  exact hname (String.le_antisymm hle hempty)

theorem exists_head_of_ne_empty
    {name : String}
    (hname : name ≠ "") :
    ∃ c, c ∈ name.toList.head? := by
  cases hchars : name.toList with
  | nil =>
      exact absurd (String.toList_eq_nil_iff.mp hchars) hname
  | cons c chars =>
      exact ⟨c, rfl⟩

/-- Exactly the eclasses without tabs that are rereadable are read back from their text. -/
theorem read_encode_iff :
    read eclasses.encode = .ok eclasses ↔ eclasses.TabFree ∧ eclasses.Rereadable := by
  cases hentries : eclasses.toList with
  | nil =>
      obtain rfl : eclasses = ∅ := by
        rw [← OrderedMap.ofList_toList eclasses, hentries]
        rfl
      have hfree : TabFree ∅ := fun entry hentry => by cases hentry
      have hvisible : BeginsVisibly ∅ := fun name hname => by cases hname
      exact ⟨fun _ => ⟨hfree, .inl hvisible⟩, fun _ => rfl⟩
  | cons entry rest =>
      have hne : eclasses.toList ≠ [] := by simp [hentries]
      have hleast (name : String) := @least_iff eclasses entry rest hentries name
      obtain ⟨hmem, hle⟩ := (hleast entry.1).mpr rfl
      constructor
      · intro hread
        have hfree := free_of_read hread
        refine ⟨hfree, ?_⟩
        rw [read_encode hne hfree] at hread
        obtain ⟨entries, hresult, hsurvives⟩ := Result.map_eq_ok_iff.mp hread
        by_cases hname : entry.1 = ""
        · exact .inr (twins_of_survives hentries hname hresult hsurvives)
        · refine .inl fun name hkey hbelow => ?_
          obtain rfl := (hleast name).mp ⟨hkey, hbelow⟩
          obtain ⟨c, hc⟩ := exists_head_of_ne_empty hname
          have hnames : ∀ other ∈ eclasses.keys, other ≠ "" := fun other hother =>
            ne_empty_of_le (hle other hother) hname
          exact ⟨c, hc, not_isBlank_of_survives hentries hnames hresult hsurvives c hc⟩
      · rintro ⟨hfree, hrereadable⟩
        rw [read_encode hne hfree]
        rcases hrereadable with hvisible | ⟨time, htime, htwins⟩
        · obtain ⟨c, hc, hblank⟩ := hvisible entry.1 hmem hle
          have hname : entry.1 ≠ "" := fun hempty => by
            rw [hempty] at hc
            cases hc
          rw [readTokens_trimFront hentries eclasses.encode hname fun d hd => by
            rwa [Option.some.inj (hd.symm.trans hc)]]
          exact congrArg Except.ok (OrderedMap.ofList_toList eclasses)
        · exact readTokens_of_twins eclasses.encode htime htwins

/-- Twins are read back although a name is empty. -/
example :
    let twins : Eclasses := OrderedMap.ofList [("", ⟨"", 5⟩), ("5", ⟨"", 5⟩)]
    read twins.encode = .ok twins :=
  rfl

/-- Names that begin blank or are empty can be read behind other names.  When they are written
first they are altered or lost. -/
theorem names_not_reread :
    let coordinate : Coordinate := ⟨"dev-libs", "a", "1", rfl, rfl, rfl⟩
    let blank : Eclasses := OrderedMap.ofList [("b", ⟨"/e", 1⟩), (" a", ⟨"/e", 2⟩)]
    let renamed : Eclasses := OrderedMap.ofList [("b", ⟨"/e", 1⟩), ("a", ⟨"/e", 2⟩)]
    let unnamed : Eclasses := OrderedMap.ofList [("x", ⟨"/e", 1⟩), ("", ⟨"/e", 2⟩)]
    (decode coordinate "b\t/e\t1\t a\t/e\t2" = .ok blank ∧
      decode coordinate blank.encode = .ok renamed ∧ renamed ≠ blank) ∧
    decode coordinate "x\t/e\t1\t\t/e\t2" = .ok unnamed ∧
      decode coordinate unnamed.encode = .error (.corrupt coordinate (.tokenCount 5)) :=
  ⟨⟨rfl, rfl, by decide⟩, rfl, rfl⟩

end Rereading

end Eclasses

namespace Catalogue

variable {catalogue : Catalogue} {record : Record}

theorem set_of_validate
    {coordinate : Coordinate}
    (hvalid : catalogue.schema.validate record = .ok ()) :
    catalogue.set coordinate record =
      .done ()
        { catalogue with
          records := catalogue.records.insert coordinate (catalogue.filed record) } := by
  rw [Schema.validate] at hvalid
  rw [set]
  cases hkey : record.keys.find? fun key => !catalogue.schema.contains key with
  | none =>
      rfl
  | some key =>
      rw [hkey] at hvalid
      cases hvalid

/-- A record that is filed without being cleansed changes only under the key of its eclasses. -/
theorem get?_filed
    (hcleanses : catalogue.cleanses = false)
    (key : String) :
    (catalogue.filed record).get? key =
      (record.get? key).map fun value =>
        if catalogue.encodesEclasses && key == Record.eclassesKey then .text value.display
        else value := by
  rw [filed, OrderedMap.get?_filterMap]
  cases record.get? key with
  | none =>
      rfl
  | some value =>
      simp only [Option.bind_some, filedValue, hcleanses, Bool.false_and, Bool.false_eq_true,
        if_false, Option.map_some]
      split <;> rfl

/-- A record without decoded eclasses, or one whose eclasses stay decoded, is not changed. -/
theorem filed_eq_self
    (hcleanses : catalogue.cleanses = false)
    (hplain : catalogue.encodesEclasses = false ∨ record.get? Record.eclassesKey = none) :
    catalogue.filed record = record := by
  refine OrderedMap.ext_get? fun key => ?_
  rw [get?_filed hcleanses]
  rcases hplain with hraw | hnone
  · simp [hraw]
  · by_cases hkey : key = Record.eclassesKey
    · rw [hkey, hnone]
      rfl
    · simp [hkey]

/-- Decoded eclasses that are filed as text are shown again exactly if they are read back. -/
theorem shown_filed_of_eclasses
    {coordinate : Coordinate}
    {eclasses : Eclasses}
    (hcleanses : catalogue.cleanses = false)
    (hencodes : catalogue.encodesEclasses = true)
    (hvalue : record.get? Record.eclassesKey = some (.eclasses eclasses)) :
    catalogue.shown coordinate (catalogue.filed record) = .ok record ↔
      Eclasses.read eclasses.encode = .ok eclasses := by
  have hraw : (catalogue.filed record).text? Record.eclassesKey = some eclasses.encode := by
    rw [Record.text?, get?_filed hcleanses, hvalue, hencodes]
    rfl
  have hrestored :
      (catalogue.filed record).insert Record.eclassesKey (.eclasses eclasses) = record := by
    refine OrderedMap.ext_get? fun key => ?_
    rw [OrderedMap.get?_insert, get?_filed hcleanses]
    by_cases hkey : key = Record.eclassesKey
    · rw [if_pos hkey, hkey, hvalue]
    · simp [hkey]
  have hshown : catalogue.shown coordinate (catalogue.filed record) =
      (Eclasses.decode coordinate eclasses.encode).map fun eclasses =>
        (catalogue.filed record).insert Record.eclassesKey (.eclasses eclasses) := by
    rw [shown, hencodes, hraw]
  rw [hshown, ← @Eclasses.decode_eq_ok_iff _ coordinate, Result.map_eq_ok_iff]
  constructor
  · rintro ⟨found, hfound, hsame⟩
    have hget := congrArg (OrderedMap.get? · Record.eclassesKey) hsame
    rw [OrderedMap.get?_insert, if_pos rfl, hvalue] at hget
    rwa [Value.eclasses.inj (Option.some.inj hget)] at hfound
  · intro hfound
    exact ⟨eclasses, hfound, hrestored⟩

/-- A record that has no eclasses as text is shown as it was filed exactly if its eclasses stay
decoded or are read back from their text. -/
theorem shown_filed_eq_ok_iff
    (coordinate : Coordinate)
    (hcleanses : catalogue.cleanses = false)
    (htext : record.text? Record.eclassesKey = none) :
    catalogue.shown coordinate (catalogue.filed record) = .ok record ↔
      catalogue.encodesEclasses = false ∨
        ∀ eclasses, record.eclasses? = some eclasses →
          Eclasses.read eclasses.encode = .ok eclasses := by
  cases hencodes : catalogue.encodesEclasses with
  | false =>
      rw [filed_eq_self hcleanses (.inl hencodes), shown, hencodes]
      exact ⟨fun _ => .inl rfl, fun _ => rfl⟩
  | true =>
      cases hvalue : record.get? Record.eclassesKey with
      | none =>
          have hnone : record.eclasses? = none := by
            rw [Record.eclasses?, hvalue]
          rw [filed_eq_self hcleanses (.inr hvalue), shown, hencodes, htext, hnone]
          refine ⟨fun _ => .inr fun eclasses hheld => ?_, fun _ => rfl⟩
          cases hheld
      | some value =>
          cases value with
          | text raw =>
              rw [Record.text?, hvalue] at htext
              cases htext
          | eclasses eclasses =>
              have hheld : record.eclasses? = some eclasses := by
                rw [Record.eclasses?, hvalue]
              rw [shown_filed_of_eclasses hcleanses hencodes hvalue]
              constructor
              · intro hshown
                refine .inr fun found hfound => ?_
                obtain rfl := Option.some.inj (hheld.symm.trans hfound)
                exact hshown
              · rintro (hfalse | hread)
                · cases hfalse
                · exact hread eclasses hheld

end Catalogue

namespace Cache

universe u

section Copying

variable {σ : Type u} [Store σ] {cache : Cache σ} {coordinate : Coordinate} {record : Record}

theorem text?_of_decodeEclasses
    {kept : Record}
    (hdecode : kept.decodeEclasses coordinate = .ok record) :
    record.text? Record.eclassesKey = none := by
  rw [Record.decodeEclasses_eq] at hdecode
  cases htext : kept.text? Record.eclassesKey with
  | none =>
      rw [htext] at hdecode
      rwa [← Except.ok.inj hdecode]
  | some raw =>
      rw [htext] at hdecode
      obtain ⟨eclasses, -, rfl⟩ := Result.map_eq_ok_iff.mp hdecode
      rw [Record.text?, OrderedMap.get?_insert, if_pos rfl]
      rfl

/-- A cache that keeps eclasses as text never shows them as text. -/
theorem text?_of_get
    (hencodes : cache.traits.encodesEclasses = true)
    (hget : (cache.get coordinate).result = .ok record) :
    record.text? Record.eclassesKey = none := by
  obtain ⟨_, -, hfetch, -⟩ := Outcome.result_andThen_eq_ok hget
  obtain ⟨kept, -, hpresent, -⟩ := Outcome.result_andThen_eq_ok hfetch
  have htraits : (cache.settle.state.onStore (Store.fetch coordinate)).state.traits =
      cache.traits := (samePolicy_settle samePolicy_self).traits
  rw [present, htraits, if_pos hencodes] at hpresent
  exact text?_of_decodeEclasses hpresent

/-- A record that was set is shown as it was filed. -/
theorem get_set
    {copy : Cache MemoryStore}
    {catalogue : Catalogue}
    (h : copy.Mirrors catalogue)
    (hvalid : catalogue.schema.validate record = .ok ()) :
    (copy.set coordinate record).result = .ok () ∧
      ((copy.set coordinate record).state.get coordinate).result =
        catalogue.shown coordinate (catalogue.filed record) := by
  have hset := set_related h coordinate record
  rw [Catalogue.set_of_validate hvalid] at hset
  have hget := (get_related hset.state coordinate).result
  rw [Outcome.state_done, Catalogue.get, OrderedMap.get?_insert, if_pos rfl] at hget
  exact ⟨hset.result, hget⟩

/-- Eclasses that were decoded are read back from their text exactly if they are rereadable.  So a
record that a cache shows, and that keeps its eclasses as text, can be set in a cache over a fresh
store that admits it, and is shown there as it was exactly if its eclasses stay decoded there or
are free of tabs and rereadable. -/
theorem copied_iff_rereadable
    {σ : Type u}
    [Store σ]
    (coordinate : Coordinate) :
    (∀ raw eclasses, Eclasses.decode coordinate raw = .ok eclasses →
      eclasses.TabFree ∧
        (Eclasses.decode coordinate eclasses.encode = .ok eclasses ↔ eclasses.Rereadable)) ∧
    ∀ (first : Cache σ) (record : Record) (settings : List MemoryStore.Setting) (config : Config),
      first.traits.encodesEclasses = true →
      (first.get coordinate).result = .ok record →
      settings.contains .cleansing = false →
      (ofStore (MemoryStore.ofSettings settings) config).readOnly = false →
      config.schema.validate record = .ok () →
      let copied := (ofStore (MemoryStore.ofSettings settings) config).set coordinate record
      copied.result = .ok () ∧
        ((copied.state.get coordinate).result = .ok record ↔
          settings.contains .rawEclasses = true ∨
            ∀ eclasses, record.eclasses? = some eclasses →
              eclasses.TabFree ∧ eclasses.Rereadable) := by
  refine ⟨fun raw eclasses hdecode => ?_, ?_⟩
  · have hfree : eclasses.TabFree := Eclasses.free_of_read (Eclasses.decode_eq_ok_iff.mp hdecode)
    rw [Eclasses.decode_eq_ok_iff, Eclasses.read_encode_iff]
    exact ⟨hfree, fun h => h.2, fun h => ⟨hfree, h⟩⟩
  · intro first record settings config hencodes hget hcleansing hwritable hvalid copied
    obtain ⟨hset, hshown⟩ := get_set (mirrors_ofStore hwritable) hvalid
    refine ⟨hset, ?_⟩
    rw [hshown, Catalogue.shown_filed_eq_ok_iff coordinate hcleansing (text?_of_get hencodes hget)]
    simp only [Eclasses.read_encode_iff, Bool.not_eq_false']

/-- The text in the brief layout is written in the full one, in the other order. -/
theorem copied_iff_rereadable_brief :
    let coordinate : Coordinate := ⟨"dev-libs", "a", "1", rfl, rfl, rfl⟩
    let eclasses : Eclasses := OrderedMap.ofList [("eutils", ⟨"", -5⟩), ("libtool", ⟨"", 1234⟩)]
    let kept : Record :=
      OrderedMap.ofList [("SLOT", .text ""), ("_eclasses_", .text "libtool\t1234\teutils\t-5")]
    let record : Record := OrderedMap.ofList [("SLOT", .text ""), ("_eclasses_", .eclasses eclasses)]
    let first : Cache MemoryStore :=
      ofStore { committed := OrderedMap.ofList [(coordinate, kept)] } {}
    let copied := (ofStore (MemoryStore.ofSettings [.autocommitting]) {}).set coordinate record
    (first.get coordinate).result = .ok record ∧ copied.result = .ok () ∧
      (copied.state.get coordinate).result = .ok record := by
  intro coordinate eclasses kept record first copied
  have hget : (first.get coordinate).result = .ok record := by
    simp only [coordinate, eclasses, kept, record, first]
    rfl
  have hvalid : Schema.standard.validate record = .ok () := by
    simp only [eclasses, record]
    rfl
  obtain ⟨hset, hshown⟩ := (copied_iff_rereadable coordinate).2 first record [.autocommitting] {}
    rfl hget rfl rfl hvalid
  refine ⟨hget, hset, hshown.mpr (.inr fun found hfound => ?_)⟩
  have hheld : record.eclasses? = some eclasses := by
    simp only [eclasses, record]
    rfl
  obtain rfl := Option.some.inj (hheld.symm.trans hfound)
  refine ⟨?_, .inl fun name hname _ => ?_⟩
  · rw [Eclasses.TabFree]
    decide
  · have hkeys : eclasses.keys = ["eutils", "libtool"] := rfl
    rw [hkeys, List.mem_cons, List.mem_singleton] at hname
    rcases hname with rfl | rfl
    · exact ⟨'e', rfl, by decide⟩
    · exact ⟨'l', rfl, by decide⟩

end Copying

end Cache
end PackageMetadata
