import PackageMetadata.Proofs.OrderedMap
import PackageMetadata.Proofs.Result
import PackageMetadata.Proofs.Tokens
import PackageMetadata.Record.Lines

/-!
# Records survive their lines

Writer and reader of a record do not agree on what a line is.  The writer puts keys and values
down as they are.  The reader ends a line at each line feed, takes all carriage returns off its
end, ends the key at the first equals sign and trims it.  An entry is *legible* if none of this
touches it.

A record whose entries are legible is read back from its lines, with its eclasses in their
stored text.  No other record is, for all that a reader ever makes of a text is legible.

**Results**

* `readLine_line`: a legible entry is read back from its line.
* `legible_of_readLine`: whatever is read from a line is legible.
* `parse_serialize_iff_legible`: which records are read back, and that texts which can be read
  are written the same way ever after.
-/

namespace PackageMetadata

namespace Record

section Legible

/-- A record with its decoded eclasses replaced by their text. -/
def flat (record : Record) : Record :=
  record.map fun value => .text value.display

/-- An entry that a reader of lines leaves as it is. -/
structure Legible (entry : String × Value) : Prop where
  key_ne_empty : entry.1 ≠ ""
  key_trimmed : Text.trim entry.1.toList = entry.1.toList
  key_no_equals : '=' ∉ entry.1.toList
  key_one_line : '\n' ∉ entry.1.toList
  value_one_line : '\n' ∉ entry.2.display.toList
  value_no_return : entry.2.display.toList.getLast? ≠ some '\r'

/-- The entry of a key with the text of its value. -/
def flatEntry (entry : String × Value) : String × Value :=
  (entry.1, .text entry.2.display)

theorem legible_flatEntry_iff
    {entry : String × Value} :
    Legible (flatEntry entry) ↔ Legible entry :=
  ⟨fun h => { h with }, fun h => { h with }⟩

theorem toList_flat (record : Record) :
    record.flat.toList = record.toList.map flatEntry :=
  rfl

end Legible

section Lines

/-- The line on which an entry is written, without its line feed. -/
def line (entry : String × Value) : List Char :=
  entry.1.toList ++ '=' :: entry.2.display.toList

/-- Behind the last line feed there is an empty line. -/
theorem toList_serialize (record : Record) :
    record.serialize.toList = ['\n'].intercalate (record.toList.map line ++ [[]]) := by
  rw [serialize, String.toList_join]
  induction record.toList with
  | nil =>
      rfl
  | cons entry rest ih =>
      rw [List.map_cons, List.flatMap_cons, ih, List.map_cons, List.cons_append,
        List.intercalate_cons_of_ne_nil (by simp)]
      simp [lineText, line]

variable {entry : String × Value}

theorem withoutReturns_line (h : Legible entry) :
    withoutReturns (line entry) = line entry := by
  refine Text.dropEndWhile_eq_self fun c hc => ?_
  -- The last character is that of the value, or the equals sign if the value is empty.
  rw [Option.mem_def, line, List.getLast?_append, List.getLast?_cons, Option.some_or,
    Option.some.injEq] at hc
  have hreturn := h.value_no_return
  cases hlast : entry.2.display.toList.getLast? with
  | none =>
      rw [hlast] at hc
      rw [← hc]
      rfl
  | some d =>
      rw [hlast] at hc hreturn
      obtain rfl : d = c := hc
      simpa using hreturn

/-- An entry is read from a line that has an equals sign and more than blanks in front of it. -/
theorem readLine_eq_some_iff
    {text : List Char} :
    readLine text = .ok (some entry) ↔
      ∃ before value, Text.cut '=' (withoutReturns text) = some (before, value) ∧
        Text.trim before ≠ [] ∧
        entry = (String.ofList (Text.trim before), .text (String.ofList value)) := by
  rw [readLine]
  cases Text.cut '=' (withoutReturns text) with
  | none =>
      simp
  | some parts =>
      obtain ⟨before, value⟩ := parts
      cases hkey : Text.trim before with
      | nil =>
          simp [hkey]
      | cons c rest =>
          simp only [hkey, Except.ok.injEq, Option.some.injEq, Prod.mk.injEq]
          constructor
          · rintro rfl
            exact ⟨before, value, ⟨rfl, rfl⟩, by simp [hkey], by rw [hkey]⟩
          · rintro ⟨_, _, ⟨rfl, rfl⟩, -, rfl⟩
            rw [hkey]

/-- A legible entry is read back from its line. -/
theorem readLine_line (h : Legible entry) :
    readLine (line entry) = .ok (some (flatEntry entry)) := by
  have hcut : Text.cut '=' (line entry) = some (entry.1.toList, entry.2.display.toList) :=
    Text.cut_eq_some_iff.mpr ⟨rfl, h.key_no_equals⟩
  have hkey : entry.1.toList ≠ [] := fun hnil => h.key_ne_empty (String.toList_inj.mp hnil)
  refine readLine_eq_some_iff.mpr ⟨entry.1.toList, entry.2.display.toList, ?_, ?_, ?_⟩
  · rw [withoutReturns_line h, hcut]
  · rw [h.key_trimmed]
    exact hkey
  · rw [h.key_trimmed, String.ofList_toList, String.ofList_toList]
    rfl

theorem no_newline_line (h : Legible entry) :
    '\n' ∉ line entry := by
  simp [line, h.key_one_line, h.value_one_line]

/-- The entry that is read from a line is legible, and its value is text. -/
theorem legible_of_readLine
    {text : List Char}
    (hline : '\n' ∉ text)
    (hread : readLine text = .ok (some entry)) :
    Legible entry ∧ ∃ content, entry.2 = .text content := by
  obtain ⟨before, value, hcut, hkey, rfl⟩ := readLine_eq_some_iff.mp hread
  obtain ⟨hkept, hequals⟩ := Text.cut_eq_some_iff.mp hcut
  have hone : '\n' ∉ before ++ '=' :: value := by
    rw [← hkept]
    exact fun hmem => hline ((List.rdropWhile_prefix _ text).subset hmem)
  simp only [List.mem_append, List.mem_cons, not_or] at hone
  refine
    ⟨{ key_ne_empty := fun hempty => hkey ?_
       key_trimmed := ?_
       key_no_equals := fun hmem => hequals (Text.mem_of_mem_trim ?_)
       key_one_line := fun hmem => hone.1 (Text.mem_of_mem_trim ?_)
       value_one_line := ?_
       value_no_return := fun hreturn => ?_ }, String.ofList value, rfl⟩
  · simpa using congrArg String.toList hempty
  · simp [Text.trim_trim]
  · simpa using hmem
  · simpa using hmem
  · simpa [Value.display] using hone.2.2
  · -- The value ends where the line ends, and there the returns were taken off.
    have hlast : (withoutReturns text).getLast? = some '\r' := by
      rw [hkept, List.getLast?_append, List.getLast?_cons]
      have hvalue : value.getLast? = some '\r' := by simpa [Value.display] using hreturn
      rw [hvalue]
      rfl
    simpa using Text.getLast?_dropEndWhile hlast

end Lines

section Reading

theorem readLines_map_line
    {entries : List (String × Value)}
    (h : ∀ entry ∈ entries, Legible entry)
    (record : Record) :
    readLines record (entries.map line ++ [[]]) =
      .ok (record.insertAll (entries.map flatEntry)) := by
  induction entries generalizing record with
  | nil =>
      rfl
  | cons entry rest ih =>
      obtain ⟨hentry, hrest⟩ := List.forall_mem_cons.mp h
      rw [List.map_cons, List.cons_append, readLines, readLine_line hentry]
      exact ih hrest (record.insert entry.1 (.text entry.2.display))

theorem parse_serialize_of_legible
    {record : Record}
    (h : ∀ entry ∈ record.toList, Legible entry) :
    parse record.serialize = .ok record.flat := by
  have hlines : (['\n'].intercalate (record.toList.map line ++ [[]])).splitOn '\n' =
      record.toList.map line ++ [[]] := by
    refine List.splitOn_intercalate '\n' (fun text htext => ?_) (by simp)
    rcases List.mem_append.mp htext with htext | htext
    · obtain ⟨entry, hentry, rfl⟩ := List.mem_map.mp htext
      exact no_newline_line (h entry hentry)
    · rw [List.mem_singleton.mp htext]
      exact List.not_mem_nil
  rw [parse, toList_serialize, hlines, readLines_map_line h]
  exact congrArg Except.ok (OrderedMap.ofList_toList record.flat)

/-- Lines only add entries that are legible. -/
theorem legible_of_readLines
    {lines : List (List Char)}
    {before after : Record}
    (hlines : ∀ text ∈ lines, '\n' ∉ text)
    (hread : readLines before lines = .ok after)
    (h : ∀ entry ∈ before.toList, Legible entry ∧ ∃ content, entry.2 = .text content) :
    ∀ entry ∈ after.toList, Legible entry ∧ ∃ content, entry.2 = .text content := by
  induction lines generalizing before with
  | nil =>
      rw [← Except.ok.inj hread]
      exact h
  | cons text rest ih =>
      obtain ⟨htext, hrest⟩ := List.forall_mem_cons.mp hlines
      rw [readLines] at hread
      cases hline : readLine text with
      | error failure =>
          rw [hline] at hread
          cases hread
      | ok entry? =>
          rw [hline] at hread
          cases entry? with
          | none =>
              exact ih hrest hread h
          | some entry =>
              refine ih hrest hread fun e he => ?_
              rcases OrderedMap.mem_of_mem_place he with rfl | he
              · exact legible_of_readLine htext hline
              · exact h e he

theorem legible_of_parse
    {text : String}
    {record : Record}
    (hread : parse text = .ok record) :
    ∀ entry ∈ record.toList, Legible entry ∧ ∃ content, entry.2 = .text content :=
  legible_of_readLines (fun _ => Text.not_mem_of_mem_splitOn) hread
    fun _ hentry => absurd hentry List.not_mem_nil

/-- A record whose values are all text is its own flat form. -/
theorem flat_eq_self
    {record : Record}
    (h : ∀ entry ∈ record.toList, ∃ content, entry.2 = .text content) :
    record.flat = record := by
  refine OrderedMap.ext_get? fun key => ?_
  rw [flat, OrderedMap.get?_map]
  cases hvalue : record.get? key with
  | none =>
      rfl
  | some value =>
      obtain ⟨content, rfl⟩ := h (key, value) (OrderedMap.mem_toList_iff.mpr hvalue)
      rfl

/-- What was read of a text is read again from its lines. -/
theorem parse_serialize_of_parse
    {text : String}
    {record : Record}
    (hread : parse text = .ok record) :
    parse record.serialize = .ok record := by
  have hlegible := legible_of_parse hread
  rw [parse_serialize_of_legible fun entry hentry => (hlegible entry hentry).1,
    flat_eq_self fun entry hentry => (hlegible entry hentry).2]

theorem legible_of_parse_serialize
    {record : Record}
    (hread : parse record.serialize = .ok record.flat) :
    ∀ entry ∈ record.toList, Legible entry := by
  intro entry hentry
  refine legible_flatEntry_iff.mp (legible_of_parse hread (flatEntry entry) ?_).1
  rw [toList_flat]
  exact List.mem_map_of_mem hentry

/-- A record is read back from its lines, with its eclasses in their text, exactly if all of its
entries are legible.

What is read of a text has legible entries only, and its values are text, so it is read back as
it is.  To read a text and write it down again is therefore the same as to do so twice. -/
theorem parse_serialize_iff_legible :
    (∀ record : Record,
      parse record.serialize = .ok record.flat ↔ ∀ entry ∈ record.toList, Legible entry) ∧
    (∀ text record, parse text = .ok record →
      (∀ entry ∈ record.toList, Legible entry ∧ ∃ content, entry.2 = .text content) ∧
      parse record.serialize = .ok record) ∧
    (∀ text,
      ((parse text).map serialize).bind (fun written => (parse written).map serialize) =
        (parse text).map serialize) := by
  refine ⟨fun record => ⟨legible_of_parse_serialize, parse_serialize_of_legible⟩,
    fun text record hread => ⟨legible_of_parse hread, parse_serialize_of_parse hread⟩,
    fun text => ?_⟩
  cases hread : parse text with
  | error failure =>
      rfl
  | ok record =>
      show (parse record.serialize).map serialize = .ok record.serialize
      rw [parse_serialize_of_parse hread]
      rfl

/-- Blanks around a key, a second equals sign, carriage returns and a key that comes twice. -/
theorem parse_serialize_iff_legible_sample :
    let record : Record :=
      OrderedMap.ofList [("EAPI", .text "8"), ("SLOT", .text "0/1.2"), ("URI", .text "?a=b ")]
    parse "\tSLOT =0/1.2\r\r\nnote\n\nEAPI=7\nURI=?a=b \nEAPI=8" = .ok record ∧
      parse record.serialize = .ok record :=
  ⟨rfl, (parse_serialize_iff_legible.2.1
    "\tSLOT =0/1.2\r\r\nnote\n\nEAPI=7\nURI=?a=b \nEAPI=8" _ rfl).2⟩

/-- A key with an equals sign in it comes back as a shorter key with a longer value. -/
example :
    let record : Record := OrderedMap.ofList [("A=B", .text "C")]
    (parse record.serialize).map OrderedMap.toList = .ok [("A", .text "B=C")] :=
  rfl

end Reading

end Record
end PackageMetadata
