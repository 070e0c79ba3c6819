import Mathlib.Data.List.Nodup
import PackageMetadata.Proofs.RecordLines

/-!
# Records line by line

What a text says about a record stands on its lines with an equals sign.  Each of them says one
thing, whatever the lines around it are, and the reader keeps what is said last about a key.  So
the text of two texts with a line feed between them says what the two say, where the second one is
right if they disagree.  Carriage returns at the end of a line say nothing, and neither does the
order of lines with different keys.

**Definitions**

* `lines`, `entryLines`: the lines of a text, and those with an equals sign.
* `lineKey`: the key on such a line.
* `readEntries`: what lines say, one after the other.

**Results**

* `parse_eq_ofList`: the lines with an equals sign are all that matters.
* `entryLines_append`, `entryLines_withReturns`: at a line feed a text falls into its lines.
* `readEntries_perm`, `keys_readEntries`: lines in another order say the same.
* `parse_merges_lines`: two texts in one, other ends of lines, and lines in another order.
-/

namespace PackageMetadata
namespace Record

section Lines

/-- The parts of a text between its line feeds. -/
def lines (text : String) : List (List Char) :=
  text.toList.splitOn '\n'

/-- The text with the given lines. -/
def unlines (lines : List (List Char)) : String :=
  String.ofList (['\n'].intercalate lines)

/-- The lines of a text that have an equals sign, without the carriage returns at their ends. -/
def entryLines (text : String) : List (List Char) :=
  ((lines text).map withoutReturns).filter fun line => '=' ∈ line

/-- What stands in front of the first equals sign of a line, without the blanks around it. -/
def lineKey (line : List Char) : List Char :=
  Text.trim (line.takeWhile (· != '='))

/-- The text with a carriage return in front of each line feed. -/
def withReturns (text : String) : String :=
  String.ofList (text.toList.flatMap fun c => if c = '\n' then ['\r', '\n'] else [c])

/-- The entries on lines in their order, or the first failure. -/
def readEntries : List (List Char) → Except Failure (List (String × Value))
  | [] => .ok []
  | line :: rest => do
      let found ← readLine line
      let later ← readEntries rest
      return found.toList ++ later

end Lines

section Entries

variable {line : List Char} {rest : List (List Char)}

theorem withoutReturns_withoutReturns (line : List Char) :
    withoutReturns (withoutReturns line) = withoutReturns line :=
  List.rdropWhile_idempotent _ line

theorem readLine_withoutReturns (line : List Char) :
    readLine (withoutReturns line) = readLine line := by
  rw [readLine, readLine, withoutReturns_withoutReturns]

theorem readLine_eq_none_iff :
    readLine line = .ok none ↔ '=' ∉ withoutReturns line := by
  rw [readLine, ← Text.cut_eq_none_iff]
  cases Text.cut '=' (withoutReturns line) with
  | none =>
      simp
  | some parts =>
      cases hkey : Text.trim parts.1 <;> simp [hkey]

/-- The key of an entry is that of its line. -/
theorem lineKey_of_readLine
    {entry : String × Value}
    (hread : readLine line = .ok (some entry)) :
    entry.1.toList = lineKey (withoutReturns line) := by
  obtain ⟨before, value, hcut, -, rfl⟩ := readLine_eq_some_iff.mp hread
  have hbefore := Text.getD_cut '=' (withoutReturns line)
  rw [hcut] at hbefore
  rw [lineKey, ← hbefore]
  exact String.toList_ofList

theorem readEntries_cons_eq_ok
    {entries : List (String × Value)} :
    readEntries (line :: rest) = .ok entries ↔
      ∃ found later, readLine line = .ok found ∧ readEntries rest = .ok later ∧
        entries = found.toList ++ later := by
  rw [readEntries]
  constructor
  · intro hread
    cases hline : readLine line with
    | error failure =>
        rw [hline] at hread
        cases hread
    | ok found =>
        cases hrest : readEntries rest with
        | error failure =>
            rw [hline, hrest] at hread
            cases hread
        | ok later =>
            rw [hline, hrest] at hread
            exact ⟨found, later, rfl, rfl, (Except.ok.inj hread).symm⟩
  · rintro ⟨found, later, hline, hrest, rfl⟩
    rw [hline, hrest]
    rfl

theorem readEntries_append (front back : List (List Char)) :
    readEntries (front ++ back) = do
      let first ← readEntries front
      let second ← readEntries back
      return first ++ second := by
  induction front with
  | nil =>
      rw [List.nil_append, readEntries]
      cases readEntries back <;> rfl
  | cons line rest ih =>
      rw [List.cons_append, readEntries, readEntries, ih]
      cases readLine line with
      | error failure =>
          rfl
      | ok found =>
          cases readEntries rest with
          | error failure =>
              rfl
          | ok later =>
              cases readEntries back with
              | error failure =>
                  rfl
              | ok second =>
                  exact congrArg Except.ok (List.append_assoc found.toList later second).symm

/-- A reader of lines adds their entries one after the other. -/
theorem readLines_eq
    (record : Record)
    (lines : List (List Char)) :
    readLines record lines = (readEntries lines).map record.insertAll := by
  induction lines generalizing record with
  | nil =>
      rfl
  | cons line rest ih =>
      rw [readLines, readEntries]
      cases readLine line with
      | error failure =>
          rfl
      | ok found =>
          cases found with
          | none =>
              show readLines record rest = _
              rw [ih]
              cases readEntries rest <;> rfl
          | some entry =>
              show readLines (record.insert entry.1 entry.2) rest = _
              rw [ih]
              cases readEntries rest <;> rfl

/-- Lines without an equals sign have no entries. -/
theorem readEntries_filter (lines : List (List Char)) :
    readEntries ((lines.map withoutReturns).filter fun line => '=' ∈ line) =
      readEntries lines := by
  induction lines with
  | nil =>
      rfl
  | cons line rest ih =>
      rw [List.map_cons, List.filter_cons]
      by_cases h : '=' ∈ withoutReturns line
      · rw [if_pos (decide_eq_true h), readEntries, readLine_withoutReturns, ih, readEntries]
      · rw [if_neg (by simpa using h), ih, readEntries, readLine_eq_none_iff.mpr h]
        cases readEntries rest <;> rfl

/-- A record is made of the lines with an equals sign. -/
theorem parse_eq_ofList (text : String) :
    parse text = (readEntries (entryLines text)).map OrderedMap.ofList := by
  rw [entryLines, readEntries_filter]
  exact readLines_eq ∅ (lines text)

end Entries

section Ends

theorem lines_append (first second : String) :
    lines (first ++ "\n" ++ second) = lines first ++ lines second := by
  rw [lines, String.toList_append, String.toList_append, List.append_assoc]
  exact List.splitOn_append_cons_self first.toList second.toList

/-- A line feed between two texts ends the last line of the first one. -/
theorem entryLines_append (first second : String) :
    entryLines (first ++ "\n" ++ second) = entryLines first ++ entryLines second := by
  rw [entryLines, lines_append, List.map_append, List.filter_append]
  rfl

theorem unlines_lines (text : String) :
    unlines (lines text) = text := by
  rw [unlines, lines, List.intercalate_splitOn, String.ofList_toList]

theorem lines_unlines
    {pieces : List (List Char)}
    (hne : pieces ≠ [])
    (hfree : ∀ piece ∈ pieces, '\n' ∉ piece) :
    lines (unlines pieces) = pieces := by
  rw [lines, unlines, String.toList_ofList]
  exact List.splitOn_intercalate '\n' hfree hne

theorem lines_eq_singleton
    {text : String}
    (hfree : '\n' ∉ text.toList) :
    lines text = [text.toList] :=
  List.splitOn_eq_singleton hfree

theorem unlines_cons_cons
    (line next : List Char)
    (rest : List (List Char)) :
    unlines (line :: next :: rest) = String.ofList line ++ "\n" ++ unlines (next :: rest) := by
  rw [unlines, List.intercalate_cons_cons, String.ofList_append, String.ofList_append]
  rfl

theorem withReturns_append (first second : String) :
    withReturns (first ++ second) = withReturns first ++ withReturns second := by
  rw [withReturns, String.toList_append, List.flatMap_append, String.ofList_append]
  rfl

/-- Nothing changes within a line. -/
theorem withReturns_line
    {line : List Char}
    (hfree : '\n' ∉ line) :
    withReturns (String.ofList line) = String.ofList line := by
  rw [withReturns, String.toList_ofList]
  congr 1
  induction line with
  | nil =>
      rfl
  | cons c rest ih =>
      obtain ⟨hc, hrest⟩ := not_or.mp (mt List.mem_cons.mpr hfree)
      rw [List.flatMap_cons, if_neg (Ne.symm hc), ih hrest]
      rfl

/-- Each line but the last one gets a carriage return at its end, which the reader takes off. -/
theorem map_lines_withReturns
    {pieces : List (List Char)}
    (hne : pieces ≠ [])
    (hfree : ∀ line ∈ pieces, '\n' ∉ line) :
    (lines (withReturns (unlines pieces))).map withoutReturns = pieces.map withoutReturns := by
  induction pieces with
  | nil =>
      contradiction
  | cons line rest ih =>
      obtain ⟨hline, hrest⟩ := List.forall_mem_cons.mp hfree
      cases rest with
      | nil =>
          have hself : unlines [line] = String.ofList line := by
            rw [unlines, List.intercalate_singleton]
          rw [hself, withReturns_line hline, ← hself, lines_unlines hne hfree]
      | cons next rest =>
          have hfeed : withReturns "\n" = String.ofList ['\r'] ++ "\n" := by decide
          have hseam : withReturns (unlines (line :: next :: rest)) =
              String.ofList (line ++ ['\r']) ++ "\n" ++ withReturns (unlines (next :: rest)) := by
            rw [unlines_cons_cons, withReturns_append, withReturns_append, withReturns_line hline,
              hfeed, String.ofList_append, ← String.append_assoc]
          -- A return in front of a line feed belongs to the line that ends there.
          have hfirst : lines (String.ofList (line ++ ['\r'])) = [line ++ ['\r']] := by
            rw [lines_eq_singleton] <;> simp [hline]
          have hreturn : withoutReturns (line ++ ['\r']) = withoutReturns line :=
            List.rdropWhile_concat_pos _ line '\r' rfl
          rw [hseam, lines_append, hfirst, List.map_append, ih (List.cons_ne_nil next rest) hrest,
            List.map_cons, hreturn]
          rfl

theorem entryLines_withReturns (text : String) :
    entryLines (withReturns text) = entryLines text := by
  have hlines := map_lines_withReturns (List.splitOn_ne_nil '\n' text.toList)
    fun _ => Text.not_mem_of_mem_splitOn
  rw [← lines, unlines_lines] at hlines
  rw [entryLines, hlines, entryLines]

end Ends

section Order

variable {text other : String} {pieces permuted : List (List Char)}
variable {entries : List (String × Value)} {record : Record}

/-- Lines in another order have the same entries in another order. -/
theorem readEntries_perm
    (h : pieces.Perm permuted)
    (hread : readEntries pieces = .ok entries) :
    ∃ reordered, readEntries permuted = .ok reordered ∧ entries.Perm reordered := by
  induction h generalizing entries with
  | nil =>
      exact ⟨entries, hread, .refl entries⟩
  | cons line _ ih =>
      obtain ⟨found, later, hline, hrest, rfl⟩ := readEntries_cons_eq_ok.mp hread
      obtain ⟨reordered, hpermuted, hperm⟩ := ih hrest
      exact ⟨found.toList ++ reordered,
        readEntries_cons_eq_ok.mpr ⟨found, reordered, hline, hpermuted, rfl⟩,
        hperm.append_left found.toList⟩
  | swap second first rest =>
      obtain ⟨found, later, hfirst, hlater, rfl⟩ := readEntries_cons_eq_ok.mp hread
      obtain ⟨next, behind, hsecond, hrest, rfl⟩ := readEntries_cons_eq_ok.mp hlater
      have hswapped : readEntries (first :: rest) = .ok (found.toList ++ behind) :=
        readEntries_cons_eq_ok.mpr ⟨found, behind, hfirst, hrest, rfl⟩
      refine ⟨next.toList ++ (found.toList ++ behind),
        readEntries_cons_eq_ok.mpr ⟨next, _, hsecond, hswapped, rfl⟩, ?_⟩
      rw [← List.append_assoc, ← List.append_assoc]
      exact List.perm_append_comm.append_right behind
  | trans _ _ ih ih' =>
      obtain ⟨between, hbetween, hfront⟩ := ih hread
      obtain ⟨reordered, hpermuted, hback⟩ := ih' hbetween
      exact ⟨reordered, hpermuted, hfront.trans hback⟩

/-- Each line with an equals sign has one entry, under the key of the line. -/
theorem keys_readEntries
    (hequals : ∀ line ∈ pieces, '=' ∈ line ∧ withoutReturns line = line)
    (hread : readEntries pieces = .ok entries) :
    entries.map (fun entry => entry.1.toList) = pieces.map lineKey := by
  induction pieces generalizing entries with
  | nil =>
      obtain rfl := Except.ok.inj hread
      rfl
  | cons line rest ih =>
      obtain ⟨⟨hline, hself⟩, hrest⟩ := List.forall_mem_cons.mp hequals
      obtain ⟨found, later, hentry, hlater, rfl⟩ := readEntries_cons_eq_ok.mp hread
      cases found with
      | none =>
          rw [← hself] at hline
          exact absurd hline (readLine_eq_none_iff.mp hentry)
      | some entry =>
          have hkey := lineKey_of_readLine hentry
          rw [hself] at hkey
          rw [Option.toList_some, List.singleton_append, List.map_cons, hkey, ih hrest hlater,
            List.map_cons]

theorem equals_of_mem_entryLines
    {line : List Char}
    (h : line ∈ entryLines text) :
    '=' ∈ line ∧ withoutReturns line = line := by
  obtain ⟨hmem, hequals⟩ := List.mem_filter.mp h
  obtain ⟨piece, -, rfl⟩ := List.mem_map.mp hmem
  exact ⟨of_decide_eq_true hequals, withoutReturns_withoutReturns piece⟩

/-- If no key comes twice then the order of the lines does not matter. -/
theorem parse_of_perm_entryLines
    (hread : parse text = .ok record)
    (hkeys : ((entryLines text).map lineKey).Nodup)
    (hperm : (entryLines other).Perm (entryLines text)) :
    parse other = .ok record := by
  rw [parse_eq_ofList] at hread
  obtain ⟨entries, hentries, rfl⟩ := Result.map_eq_ok_iff.mp hread
  obtain ⟨reordered, hreordered, hsame⟩ := readEntries_perm hperm.symm hentries
  -- Lines and entries have the same keys, so the entries have distinct ones, too.
  have hnodup : (entries.map Prod.fst).Nodup := by
    rw [← keys_readEntries (fun _ => equals_of_mem_entryLines) hentries] at hkeys
    refine List.Nodup.of_map String.toList ?_
    rw [List.map_map]
    exact hkeys
  rw [parse_eq_ofList, hreordered, OrderedMap.ofList_eq_of_perm hsame hnodup]
  rfl

theorem perm_entryLines_unlines
    (hperm : permuted.Perm (lines text)) :
    (entryLines (unlines permuted)).Perm (entryLines text) := by
  have hne : permuted ≠ [] := by
    rintro rfl
    exact List.splitOn_ne_nil '\n' text.toList hperm.nil_eq.symm
  have hfree : ∀ line ∈ permuted, '\n' ∉ line :=
    fun line hline => Text.not_mem_of_mem_splitOn (hperm.mem_iff.mp hline)
  rw [entryLines, lines_unlines hne hfree]
  exact (hperm.map withoutReturns).filter _

/-- Two texts with a line feed between them make the record of the first one, overridden by that of
the second one.  If one of the texts is rejected then so is the whole, for the fault that comes
first.

Carriage returns in front of line feeds change nothing.

If a text makes a record, and no two of its lines with an equals sign have the same key, then its
lines make the same record in every order, and so does every text that has these lines with an
equals sign. -/
theorem parse_merges_lines :
    (∀ first second : String,
      parse (first ++ "\n" ++ second) = do
        let before ← parse first
        let after ← parse second
        return before.override after) ∧
    (∀ text, parse (withReturns text) = parse text) ∧
    (∀ text record, parse text = .ok record → ((entryLines text).map lineKey).Nodup →
      (∀ permuted, permuted.Perm (lines text) → parse (unlines permuted) = .ok record) ∧
      ∀ other, (entryLines other).Perm (entryLines text) → parse other = .ok record) := by
  refine ⟨fun first second => ?_, fun text => ?_, fun text record hread hkeys =>
    ⟨fun permuted hperm => ?_, fun other hperm => ?_⟩⟩
  · rw [parse_eq_ofList, parse_eq_ofList, parse_eq_ofList, entryLines_append, readEntries_append]
    cases readEntries (entryLines first) with
    | error failure =>
        rfl
    | ok before =>
        cases readEntries (entryLines second) with
        | error failure =>
            rfl
        | ok after =>
            exact congrArg Except.ok (OrderedMap.ofList_append before after)
  · rw [parse_eq_ofList, entryLines_withReturns, ← parse_eq_ofList]
  · exact parse_of_perm_entryLines hread hkeys (perm_entryLines_unlines hperm)
  · exact parse_of_perm_entryLines hread hkeys hperm

/-- Carriage returns, a blank line, blanks around a key and a line without an equals sign, before
and after the lines changed their places. -/
theorem parse_merges_lines_reordered :
    let text := "SLOT=0\r\n\nEAPI =8\nnote\n"
    let permuted := ["note".toList, "EAPI =8".toList, [], "SLOT=0\r".toList, []]
    let record : Record := OrderedMap.ofList [("SLOT", .text "0"), ("EAPI", .text "8")]
    parse text = .ok record ∧ ((entryLines text).map lineKey).Nodup ∧
      permuted.Perm (lines text) ∧ parse (unlines permuted) = .ok record ∧
      (entryLines "EAPI =8\nSLOT=0").Perm (entryLines text) ∧
      parse "EAPI =8\nSLOT=0" = .ok record := by
  intro text permuted record
  have hread : parse text = .ok record := by decide
  have hkeys : ((entryLines text).map lineKey).Nodup := by decide
  have hperm : permuted.Perm (lines text) := by decide
  have hentries : (entryLines "EAPI =8\nSLOT=0").Perm (entryLines text) := by decide
  obtain ⟨hreorder, hsame⟩ := parse_merges_lines.2.2 text record hread hkeys
  exact ⟨hread, hkeys, hperm, hreorder permuted hperm, hentries, hsame _ hentries⟩

/-- Of two lines with one key the last one counts, so here the order matters. -/
example : parse "A=1\nA=2" ≠ parse "A=2\nA=1" := by decide

end Order

end Record
end PackageMetadata
