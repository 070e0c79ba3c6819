import PackageMetadata.Proofs.EclassEncoding

/-!
# Which texts are eclasses

A stored text is cut into tokens, and the tokens into chunks of three or of two, one for each
entry.  Both layouts are read in the same way: chunk by chunk from the left, up to the first
chunk whose time is no literal.  So a text is accepted exactly if its layout leaves no token
over and all its times are literals.  A text that is cut off in the middle of an entry is
rejected for that only if all its complete chunks are good.

**Results**

* `layout?_eq_some_iff`: which layout is chosen.
* `entries_of_read`: what is read are the entries of the chunks.
* `defect_of_read`: what is not read has one of two defects.
* `decode_accepts_iff`: a text is read exactly if it lists eclasses, and each failure has its
  one cause.
-/

namespace PackageMetadata
namespace Eclasses

section Chunks

/-- The tokens of one entry. -/
structure Chunk where
  name : List Char
  path : List Char
  time : List Char

namespace Chunk

/-- The modification time is a literal. -/
def Timed (chunk : Chunk) : Prop :=
  ∃ time, Text.Integer.Literal chunk.time time

/-- The tokens are those of an entry. -/
def IsEntry
    (chunk : Chunk)
    (entry : String × Eclass) : Prop :=
  chunk.name = entry.1.toList ∧ chunk.path = entry.2.path.toList ∧
    Text.Integer.Literal chunk.time entry.2.mtime

end Chunk

namespace Layout

/-- How many tokens an entry has. -/
def width : Layout → Nat
  | .full => 3
  | .brief => 2

/-- The tokens of an entry, if none of them is missing.  A path that is left out is empty. -/
def chunk?
    (layout : Layout)
    (tokens : List (List Char))
    (i : Nat) :
    Option Chunk :=
  match layout with
  | .full => do return ⟨← tokens[3 * i]?, ← tokens[3 * i + 1]?, ← tokens[3 * i + 2]?⟩
  | .brief => do return ⟨← tokens[2 * i]?, [], ← tokens[2 * i + 1]?⟩

/-- Reads tokens in a given layout. -/
def read
    (layout : Layout)
    (raw : String)
    (tokens : List (List Char)) :
    Except Corruption (List (String × Eclass)) :=
  match layout with
  | .full => readFull raw tokens
  | .brief => readBrief raw tokens

end Layout

variable {layout : Layout} {tokens : List (List Char)} {chunk : Chunk}

/-- Behind a chunk the next one is the first. -/
theorem chunk?_drop (i : Nat) :
    layout.chunk? (tokens.drop layout.width) i = layout.chunk? tokens (i + 1) := by
  cases layout with
  | full =>
      have hindex : 3 * (i + 1) = 3 + 3 * i := by omega
      simp only [Layout.chunk?, Layout.width, List.getElem?_drop, hindex, Nat.add_assoc]
  | brief =>
      have hindex : 2 * (i + 1) = 2 + 2 * i := by omega
      simp only [Layout.chunk?, Layout.width, List.getElem?_drop, hindex, Nat.add_assoc]

/-- A chunk is missing exactly if its last token is. -/
theorem chunk?_eq_none_iff {i : Nat} :
    layout.chunk? tokens i = none ↔ tokens.length < layout.width * (i + 1) := by
  cases layout with
  | full =>
      rw [Layout.width]
      constructor
      · intro hnone
        refine Nat.lt_of_not_le fun hle => ?_
        have hname : tokens[3 * i]? = some tokens[3 * i] := List.getElem?_eq_getElem (by omega)
        have hpath : tokens[3 * i + 1]? = some tokens[3 * i + 1] :=
          List.getElem?_eq_getElem (by omega)
        have htime : tokens[3 * i + 2]? = some tokens[3 * i + 2] :=
          List.getElem?_eq_getElem (by omega)
        simp [Layout.chunk?, hname, hpath, htime] at hnone
      · intro hlt
        have htime : tokens[3 * i + 2]? = none := List.getElem?_eq_none (by omega)
        simp [Layout.chunk?, htime]
  | brief =>
      rw [Layout.width]
      constructor
      · intro hnone
        refine Nat.lt_of_not_le fun hle => ?_
        have hname : tokens[2 * i]? = some tokens[2 * i] := List.getElem?_eq_getElem (by omega)
        have htime : tokens[2 * i + 1]? = some tokens[2 * i + 1] :=
          List.getElem?_eq_getElem (by omega)
        simp [Layout.chunk?, hname, htime] at hnone
      · intro hlt
        have htime : tokens[2 * i + 1]? = none := List.getElem?_eq_none (by omega)
        simp [Layout.chunk?, htime]

/-- The first chunk is read before all others. -/
theorem read_of_chunk
    (raw : String)
    (hchunk : layout.chunk? tokens 0 = some chunk) :
    layout.read raw tokens = do
      let mtime ← readTime raw chunk.time
      let entries ← layout.read raw (tokens.drop layout.width)
      return (String.ofList chunk.name, ⟨String.ofList chunk.path, mtime⟩) :: entries := by
  cases layout with
  | full =>
      rcases tokens with _ | ⟨name, _ | ⟨path, _ | ⟨time, rest⟩⟩⟩
      · cases hchunk
      · cases hchunk
      · cases hchunk
      · cases hchunk
        rfl
  | brief =>
      rcases tokens with _ | ⟨name, _ | ⟨time, rest⟩⟩
      · cases hchunk
      · cases hchunk
      · cases hchunk
        rfl

/-- Where no chunk is complete nothing is read, or a time is missing. -/
theorem read_of_no_chunk
    (raw : String)
    (hbrief : layout = .brief → 2 ∣ tokens.length)
    (hchunk : layout.chunk? tokens 0 = none) :
    layout.read raw tokens =
      if layout.width ∣ tokens.length then .ok [] else .error (.missingTime raw) := by
  cases layout with
  | full =>
      rcases tokens with _ | ⟨name, _ | ⟨path, _ | ⟨time, rest⟩⟩⟩
      · rfl
      · rfl
      · rfl
      · cases hchunk
  | brief =>
      rcases tokens with _ | ⟨name, _ | ⟨time, rest⟩⟩
      · rfl
      · exact absurd (hbrief rfl) (by simp)
      · cases hchunk

end Chunks

section Reading

/-- Why tokens in a layout are not read. -/
inductive Layout.Defect
    (layout : Layout)
    (raw : String)
    (tokens : List (List Char)) :
    Corruption → Prop
  /-- The first time that is no literal. -/
  | badTime
      {i : Nat}
      {chunk : Chunk}
      {fault : Text.IntegerFault}
      (hchunk : layout.chunk? tokens i = some chunk)
      (hfault : Text.Integer.read chunk.time = .error fault)
      (hearlier : ∀ j earlier, j < i → layout.chunk? tokens j = some earlier → earlier.Timed) :
      Defect layout raw tokens (.badTime (String.ofList chunk.time) raw fault)
  /-- All times are literals, but the last entry is cut off. -/
  | missingTime
      (hcut : ¬ layout.width ∣ tokens.length)
      (htimed : ∀ i chunk, layout.chunk? tokens i = some chunk → chunk.Timed) :
      Defect layout raw tokens (.missingTime raw)

variable {layout : Layout} {raw : String} {tokens : List (List Char)}

theorem readTime_eq_ok_iff
    {token : List Char}
    {mtime : Int64} :
    readTime raw token = .ok mtime ↔ Text.Integer.Literal token mtime := by
  rw [readTime, Result.mapError_eq_ok_iff, Text.Integer.read_eq_ok_iff]

theorem badTime_of_readTime
    {token : List Char}
    {cause : Corruption}
    (hread : readTime raw token = .error cause) :
    ∃ fault, Text.Integer.read token = .error fault ∧
      cause = .badTime (String.ofList token) raw fault := by
  obtain ⟨fault, hfault, rfl⟩ := Result.mapError_eq_error_iff.mp hread
  exact ⟨fault, hfault, rfl⟩

/-- What holds of tokens without a complete chunk, and of all others if it holds of what is
behind their first chunk, holds of all tokens. -/
theorem chunk_induction
    {motive : List (List Char) → Prop}
    (layout : Layout)
    (last : ∀ tokens, layout.chunk? tokens 0 = none → motive tokens)
    (more : ∀ tokens chunk, layout.chunk? tokens 0 = some chunk →
      layout.width ≤ tokens.length → motive (tokens.drop layout.width) → motive tokens)
    (tokens : List (List Char)) :
    motive tokens := by
  induction hlength : tokens.length using Nat.strongRecOn generalizing tokens with
  | ind n ih =>
      subst hlength
      cases hchunk : layout.chunk? tokens 0 with
      | none =>
          exact last tokens hchunk
      | some chunk =>
          have hwidth : layout.width ≤ tokens.length := by
            refine Nat.le_of_not_lt fun hlt => ?_
            rw [← Nat.mul_one layout.width] at hlt
            rw [chunk?_eq_none_iff.mpr hlt] at hchunk
            cases hchunk
          have hpos : 0 < layout.width := by
            cases layout <;> simp [Layout.width]
          refine more tokens chunk hchunk hwidth (ih _ ?_ _ rfl)
          rw [List.length_drop]
          omega

theorem chunk?_eq_none_of_first
    (hchunk : layout.chunk? tokens 0 = none)
    (i : Nat) :
    layout.chunk? tokens i = none := by
  have hlt := chunk?_eq_none_iff.mp hchunk
  refine chunk?_eq_none_iff.mpr (Nat.lt_of_lt_of_le hlt (Nat.mul_le_mul_left _ ?_))
  omega

theorem dvd_drop_iff
    {width : Nat}
    (hwidth : width ≤ tokens.length) :
    width ∣ (tokens.drop width).length ↔ width ∣ tokens.length := by
  rw [List.length_drop]
  exact Nat.dvd_sub_iff_left hwidth (Nat.dvd_refl width)

theorem two_dvd_drop
    (hbrief : layout = .brief → 2 ∣ tokens.length) :
    layout = .brief → 2 ∣ (tokens.drop layout.width).length := by
  rintro rfl
  have htwo := hbrief rfl
  rw [List.length_drop, Layout.width]
  omega

/-- A defect behind the first chunk is one of the whole, if the time of that chunk is a literal. -/
theorem Layout.Defect.of_drop
    {chunk : Chunk}
    {cause : Corruption}
    (hwidth : layout.width ≤ tokens.length)
    (hchunk : layout.chunk? tokens 0 = some chunk)
    (htimed : chunk.Timed)
    (hdefect : layout.Defect raw (tokens.drop layout.width) cause) :
    layout.Defect raw tokens cause := by
  cases hdefect with
  | badTime hbad hfault hearlier =>
      rw [chunk?_drop] at hbad
      refine .badTime hbad hfault fun j earlier hj hsome => ?_
      cases j with
      | zero =>
          rw [hchunk] at hsome
          cases hsome
          exact htimed
      | succ j =>
          rw [← chunk?_drop] at hsome
          exact hearlier j earlier (by omega) hsome
  | missingTime hcut hall =>
      refine .missingTime (fun hdvd => hcut ((dvd_drop_iff hwidth).mpr hdvd)) fun i later hsome => ?_
      cases i with
      | zero =>
          rw [hchunk] at hsome
          cases hsome
          exact htimed
      | succ i =>
          rw [← chunk?_drop] at hsome
          exact hall i later hsome

/-- What is read are the entries of the chunks, and no token is left over. -/
theorem entries_of_read
    {entries : List (String × Eclass)}
    (hbrief : layout = .brief → 2 ∣ tokens.length)
    (hread : layout.read raw tokens = .ok entries) :
    layout.width ∣ tokens.length ∧
      ∀ i, Option.Rel Chunk.IsEntry (layout.chunk? tokens i) entries[i]? := by
  induction tokens using chunk_induction layout generalizing entries with
  | last tokens hchunk =>
      rw [read_of_no_chunk raw hbrief hchunk] at hread
      split at hread
      · rename_i hwidth
        cases hread
        refine ⟨hwidth, fun i => ?_⟩
        rw [chunk?_eq_none_of_first hchunk, List.getElem?_nil]
        exact .none
      · cases hread
  | more tokens chunk hchunk hwidth ih =>
      rw [read_of_chunk raw hchunk] at hread
      cases htime : readTime raw chunk.time with
      | error cause =>
          rw [htime] at hread
          cases hread
      | ok mtime =>
          cases hlater : layout.read raw (tokens.drop layout.width) with
          | error cause =>
              rw [htime, hlater] at hread
              cases hread
          | ok later =>
              rw [htime, hlater] at hread
              cases hread
              obtain ⟨hdvd, hentries⟩ := ih (two_dvd_drop hbrief) hlater
              refine ⟨(dvd_drop_iff hwidth).mp hdvd, fun i => ?_⟩
              cases i with
              | zero =>
                  rw [hchunk]
                  exact .some ⟨by simp, by simp, readTime_eq_ok_iff.mp htime⟩
              | succ i =>
                  rw [← chunk?_drop]
                  exact hentries i

/-- What is not read has one of two defects. -/
theorem defect_of_read
    {cause : Corruption}
    (hbrief : layout = .brief → 2 ∣ tokens.length)
    (hread : layout.read raw tokens = .error cause) :
    layout.Defect raw tokens cause := by
  induction tokens using chunk_induction layout with
  | last tokens hchunk =>
      rw [read_of_no_chunk raw hbrief hchunk] at hread
      split at hread
      · cases hread
      · rename_i hcut
        cases hread
        refine .missingTime hcut fun i chunk hsome => ?_
        rw [chunk?_eq_none_of_first hchunk] at hsome
        cases hsome
  | more tokens chunk hchunk hwidth ih =>
      rw [read_of_chunk raw hchunk] at hread
      cases htime : readTime raw chunk.time with
      | error fault =>
          rw [htime] at hread
          cases hread
          obtain ⟨fault, hfault, rfl⟩ := badTime_of_readTime htime
          exact .badTime hchunk hfault fun j earlier hj => absurd hj (Nat.not_lt_zero j)
      | ok mtime =>
          have htimed : chunk.Timed := ⟨mtime, readTime_eq_ok_iff.mp htime⟩
          cases hlater : layout.read raw (tokens.drop layout.width) with
          | ok later =>
              rw [htime, hlater] at hread
              cases hread
          | error found =>
              rw [htime, hlater] at hread
              cases hread
              exact Layout.Defect.of_drop hwidth hchunk htimed (ih (two_dvd_drop hbrief) hlater)

end Reading

section Choice

/-- The second token is one or more digits. -/
def SecondIsDigits (tokens : List (List Char)) : Prop :=
  ∃ token ∈ tokens[1]?, token ≠ [] ∧ ∀ c ∈ token, c.isDigit = true

namespace Layout

/-- A layout is the one to be read.  Three is tried before two.  Where only two divides the number
of tokens the second token decides: it is a time of the brief layout if it is all digits, so a
sign in front of them rules that layout out. -/
def Chosen
    (layout : Layout)
    (tokens : List (List Char)) : Prop :=
  match layout with
  | .full => 3 ∣ tokens.length ∨ 2 ∣ tokens.length ∧ ¬ SecondIsDigits tokens
  | .brief => ¬ 3 ∣ tokens.length ∧ 2 ∣ tokens.length ∧ SecondIsDigits tokens

/-- The entries of the map are those of the chunks, where the last one of a name stays. -/
def Lists
    (layout : Layout)
    (tokens : List (List Char))
    (eclasses : Eclasses) : Prop :=
  ∀ name eclass, eclasses.get? name = some eclass ↔
    ∃ i chunk, layout.chunk? tokens i = some chunk ∧ chunk.IsEntry (name, eclass) ∧
      ∀ later other, i < later → layout.chunk? tokens later = some other →
        other.name ≠ name.toList

end Layout

/-- Why tokens are not read. -/
inductive Rejected
    (raw : String)
    (tokens : List (List Char)) :
    Corruption → Prop
  /-- Their number fits no layout. -/
  | count
      (hthree : ¬ 3 ∣ tokens.length)
      (htwo : ¬ 2 ∣ tokens.length) :
      Rejected raw tokens (.tokenCount tokens.length)
  /-- They have a defect in the layout that is chosen. -/
  | defect
      {layout : Layout}
      {cause : Corruption}
      (hchosen : layout.Chosen tokens)
      (hdefect : layout.Defect raw tokens cause) :
      Rejected raw tokens cause

variable {layout : Layout} {raw : String} {tokens : List (List Char)}

theorem any_isDigits_iff :
    tokens[1]?.any isDigits = true ↔ SecondIsDigits tokens := by
  rw [SecondIsDigits]
  cases tokens[1]? with
  | none =>
      simp
  | some token =>
      simp [isDigits]

theorem layout?_eq_some_iff :
    layout? tokens = some layout ↔ layout.Chosen tokens := by
  rw [layout?]
  by_cases hthree : tokens.length % 3 = 0
  · have hdvd : 3 ∣ tokens.length := Nat.dvd_of_mod_eq_zero hthree
    rw [if_pos hthree]
    cases layout <;> simp [Layout.Chosen, hdvd]
  · have hdvd : ¬ 3 ∣ tokens.length := fun h => hthree (Nat.mod_eq_zero_of_dvd h)
    rw [if_neg hthree]
    by_cases htwo : tokens.length % 2 = 0
    · have hdvd' : 2 ∣ tokens.length := Nat.dvd_of_mod_eq_zero htwo
      rw [if_pos htwo]
      by_cases hdigits : SecondIsDigits tokens
      · rw [if_pos (any_isDigits_iff.mpr hdigits)]
        cases layout <;> simp [Layout.Chosen, hdvd, hdvd', hdigits]
      · rw [if_neg fun h => hdigits (any_isDigits_iff.mp h)]
        cases layout <;> simp [Layout.Chosen, hdvd, hdvd', hdigits]
    · have hdvd' : ¬ 2 ∣ tokens.length := fun h => htwo (Nat.mod_eq_zero_of_dvd h)
      rw [if_neg htwo]
      cases layout <;> simp [Layout.Chosen, hdvd, hdvd']

theorem count_of_layout?_eq_none (h : layout? tokens = none) :
    ¬ 3 ∣ tokens.length ∧ ¬ 2 ∣ tokens.length := by
  rw [layout?] at h
  by_cases hthree : tokens.length % 3 = 0
  · rw [if_pos hthree] at h
    cases h
  · rw [if_neg hthree] at h
    by_cases htwo : tokens.length % 2 = 0
    · rw [if_pos htwo] at h
      cases h
    · exact ⟨fun hdvd => hthree (Nat.mod_eq_zero_of_dvd hdvd),
        fun hdvd => htwo (Nat.mod_eq_zero_of_dvd hdvd)⟩

theorem not_chosen_of_count
    (hthree : ¬ 3 ∣ tokens.length)
    (htwo : ¬ 2 ∣ tokens.length) :
    ¬ layout.Chosen tokens := by
  cases layout with
  | full =>
      rintro (hdvd | ⟨hdvd, -⟩)
      · exact hthree hdvd
      · exact htwo hdvd
  | brief =>
      rintro ⟨-, hdvd, -⟩
      exact htwo hdvd

theorem eq_of_chosen
    {other : Layout}
    (hlayout : layout.Chosen tokens)
    (hother : other.Chosen tokens) :
    layout = other :=
  Option.some.inj ((layout?_eq_some_iff.mpr hlayout).symm.trans (layout?_eq_some_iff.mpr hother))

theorem readTokens_of_chosen
    (raw : String)
    (hchosen : layout.Chosen tokens) :
    readTokens raw tokens = layout.read raw tokens := by
  rw [readTokens, layout?_eq_some_iff.mpr hchosen]
  cases layout <;> rfl

theorem two_dvd_of_chosen (hchosen : layout.Chosen tokens) :
    layout = .brief → 2 ∣ tokens.length := by
  rintro rfl
  exact hchosen.2.1

end Choice

section Main

variable {layout : Layout} {raw : String} {tokens : List (List Char)}

/-- A literal has no fault. -/
theorem not_timed_of_fault
    {chunk : Chunk}
    {fault : Text.IntegerFault}
    (hfault : Text.Integer.read chunk.time = .error fault) :
    ¬ chunk.Timed := by
  rintro ⟨time, htime⟩
  rw [Text.Integer.read_eq_ok_iff.mpr htime] at hfault
  cases hfault

theorem exists_entry
    {chunk : Chunk}
    {read? : Option Chunk}
    {held? : Option (String × Eclass)}
    (hrel : Option.Rel Chunk.IsEntry read? held?)
    (hchunk : read? = some chunk) :
    ∃ entry, held? = some entry ∧ chunk.IsEntry entry := by
  subst hchunk
  cases hrel with
  | some h =>
      exact ⟨_, rfl, h⟩

theorem exists_chunk
    {entry : String × Eclass}
    {read? : Option Chunk}
    {held? : Option (String × Eclass)}
    (hrel : Option.Rel Chunk.IsEntry read? held?)
    (hentry : held? = some entry) :
    ∃ chunk, read? = some chunk ∧ chunk.IsEntry entry := by
  subst hentry
  cases hrel with
  | some h =>
      exact ⟨_, rfl, h⟩

/-- The chunks say what is listed. -/
theorem eq_of_lists
    {eclasses others : Eclasses}
    (heclasses : layout.Lists tokens eclasses)
    (hothers : layout.Lists tokens others) :
    eclasses = others :=
  OrderedMap.ext_get? fun name => Option.ext fun eclass =>
    (heclasses name eclass).trans (hothers name eclass).symm

/-- A token is a literal of one integer only, so a chunk is one entry only. -/
theorem eq_of_isEntry
    {chunk : Chunk}
    {entry other : String × Eclass}
    (hentry : chunk.IsEntry entry)
    (hother : chunk.IsEntry other) :
    entry = other := by
  obtain ⟨hname, hpath, htime⟩ := hentry
  obtain ⟨hname', hpath', htime'⟩ := hother
  rw [← Text.Integer.read_eq_ok_iff] at htime htime'
  have hmtime : entry.2.mtime = other.2.mtime := Except.ok.inj (htime.symm.trans htime')
  have hsame : entry.2.path = other.2.path := String.toList_inj.mp (hpath.symm.trans hpath')
  obtain ⟨name, path, mtime⟩ := entry
  obtain ⟨name', path', mtime'⟩ := other
  obtain rfl : name = name' := String.toList_inj.mp (hname.symm.trans hname')
  obtain rfl : path = path' := hsame
  obtain rfl : mtime = mtime' := hmtime
  rfl

/-- If the chunks are the entries one by one then they list the map of these entries. -/
theorem lists_ofList
    {entries : List (String × Eclass)}
    (hentries : ∀ i, Option.Rel Chunk.IsEntry (layout.chunk? tokens i) entries[i]?) :
    layout.Lists tokens (OrderedMap.ofList entries) := by
  intro name eclass
  rw [OrderedMap.get?_ofList_eq_some_iff]
  constructor
  · rintro ⟨i, hi, hlater⟩
    obtain ⟨chunk, hchunk, hentry⟩ := exists_chunk (hentries i) hi
    refine ⟨i, chunk, hchunk, hentry, fun later other hlt hother hname => ?_⟩
    obtain ⟨entry, hsome, hisEntry⟩ := exists_entry (hentries later) hother
    exact hlater later entry hlt hsome (String.toList_inj.mp (hisEntry.1.symm.trans hname))
  · rintro ⟨i, chunk, hchunk, hentry, hlater⟩
    obtain ⟨entry, hi, hisEntry⟩ := exists_entry (hentries i) hchunk
    obtain rfl := eq_of_isEntry hentry hisEntry
    refine ⟨i, hi, fun later other hlt hother hname => ?_⟩
    obtain ⟨next, hnext, hisNext⟩ := exists_chunk (hentries later) hother
    exact hlater later next hlt hnext (hisNext.1.trans (congrArg String.toList hname))

/-- What is read is listed in the chosen layout, and all times are literals. -/
theorem lists_of_readTokens
    {entries : List (String × Eclass)}
    (hread : readTokens raw tokens = .ok entries) :
    ∃ layout : Layout, layout.Chosen tokens ∧ layout.width ∣ tokens.length ∧
      (∀ i chunk, layout.chunk? tokens i = some chunk → chunk.Timed) ∧
      layout.Lists tokens (OrderedMap.ofList entries) := by
  cases hlayout : layout? tokens with
  | none =>
      rw [readTokens, hlayout] at hread
      cases hread
  | some layout =>
      have hchosen := layout?_eq_some_iff.mp hlayout
      rw [readTokens_of_chosen raw hchosen] at hread
      obtain ⟨hwidth, hentries⟩ := entries_of_read (two_dvd_of_chosen hchosen) hread
      refine ⟨layout, hchosen, hwidth, fun i chunk hchunk => ?_, lists_ofList hentries⟩
      obtain ⟨entry, -, hentry⟩ := exists_entry (hentries i) hchunk
      exact ⟨entry.2.mtime, hentry.2.2⟩

theorem rejected_of_readTokens
    {cause : Corruption}
    (hread : readTokens raw tokens = .error cause) :
    Rejected raw tokens cause := by
  cases hlayout : layout? tokens with
  | none =>
      rw [readTokens, hlayout] at hread
      cases hread
      obtain ⟨hthree, htwo⟩ := count_of_layout?_eq_none hlayout
      exact .count hthree htwo
  | some layout =>
      have hchosen := layout?_eq_some_iff.mp hlayout
      rw [readTokens_of_chosen raw hchosen] at hread
      exact .defect hchosen (defect_of_read (two_dvd_of_chosen hchosen) hread)

/-- Tokens have a defect in a layout only if they leave a token over or not all of their times are
literals. -/
theorem Layout.Defect.not_sound
    {cause : Corruption}
    (hdefect : layout.Defect raw tokens cause)
    (hwidth : layout.width ∣ tokens.length) :
    ¬ ∀ i chunk, layout.chunk? tokens i = some chunk → chunk.Timed := by
  intro htimed
  cases hdefect with
  | badTime hchunk hfault hearlier =>
      exact not_timed_of_fault hfault (htimed _ _ hchunk)
  | missingTime hcut hall =>
      exact hcut hwidth

/-- There is only one defect, since of two bad times only one is the first. -/
theorem Layout.Defect.unique
    {cause other : Corruption}
    (hcause : layout.Defect raw tokens cause)
    (hother : layout.Defect raw tokens other) :
    cause = other := by
  cases hcause with
  | @badTime i chunk fault hchunk hfault hearlier =>
      cases hother with
      | @badTime j chunk' fault' hchunk' hfault' hearlier' =>
          obtain hlt | rfl | hlt := Nat.lt_trichotomy i j
          · exact absurd (hearlier' i chunk hlt hchunk) (not_timed_of_fault hfault)
          · obtain rfl := Option.some.inj (hchunk.symm.trans hchunk')
            obtain rfl := Except.error.inj (hfault.symm.trans hfault')
            rfl
          · exact absurd (hearlier j chunk' hlt hchunk') (not_timed_of_fault hfault')
      | missingTime hcut htimed =>
          exact absurd (htimed _ _ hchunk) (not_timed_of_fault hfault)
  | missingTime hcut htimed =>
      cases hother with
      | badTime hchunk hfault hearlier =>
          exact absurd (htimed _ _ hchunk) (not_timed_of_fault hfault)
      | missingTime hcut' htimed' =>
          rfl

theorem Rejected.unique
    {cause other : Corruption}
    (hcause : Rejected raw tokens cause)
    (hother : Rejected raw tokens other) :
    cause = other := by
  cases hcause with
  | count hthree htwo =>
      cases hother with
      | count hthree' htwo' =>
          rfl
      | defect hchosen hdefect =>
          exact absurd hchosen (not_chosen_of_count hthree htwo)
  | defect hchosen hdefect =>
      cases hother with
      | count hthree htwo =>
          exact absurd hchosen (not_chosen_of_count hthree htwo)
      | defect hchosen' hdefect' =>
          obtain rfl := eq_of_chosen hchosen hchosen'
          exact hdefect.unique hdefect'

/-- Tokens whose layout leaves none over and whose times are literals are not rejected. -/
theorem Rejected.not_sound
    {cause : Corruption}
    (hcause : Rejected raw tokens cause)
    (hchosen : layout.Chosen tokens)
    (hwidth : layout.width ∣ tokens.length) :
    ¬ ∀ i chunk, layout.chunk? tokens i = some chunk → chunk.Timed := by
  cases hcause with
  | count hthree htwo =>
      exact absurd hchosen (not_chosen_of_count hthree htwo)
  | defect hchosen' hdefect =>
      obtain rfl := eq_of_chosen hchosen hchosen'
      exact hdefect.not_sound hwidth

/-- The number of tokens is reported exactly if it fits no layout. -/
theorem Rejected.eq_tokenCount_iff
    {cause : Corruption}
    (hcause : Rejected raw tokens cause) :
    cause = .tokenCount tokens.length ↔ ¬ 3 ∣ tokens.length ∧ ¬ 2 ∣ tokens.length := by
  constructor
  · rintro rfl
    cases hcause with
    | count hthree htwo =>
        exact ⟨hthree, htwo⟩
    | defect hchosen hdefect =>
        cases hdefect
  · rintro ⟨hthree, htwo⟩
    exact hcause.unique (.count hthree htwo)

/-- No fault of an integer is behind it exactly if all times are literals. -/
theorem Rejected.source?_eq_none_iff
    {cause : Corruption}
    (hcause : Rejected raw tokens cause) :
    cause.source? = none ↔
      ∀ (layout : Layout) i chunk, layout.Chosen tokens → layout.chunk? tokens i = some chunk →
        chunk.Timed := by
  cases hcause with
  | count hthree htwo =>
      refine ⟨fun _ layout i chunk hchosen => ?_, fun _ => rfl⟩
      exact absurd hchosen (not_chosen_of_count hthree htwo)
  | defect hchosen hdefect =>
      cases hdefect with
      | badTime hchunk hfault hearlier =>
          constructor
          · intro hnone
            cases hnone
          · intro htimed
            exact absurd (htimed _ _ _ hchosen hchunk) (not_timed_of_fault hfault)
      | missingTime hcut htimed =>
          refine ⟨fun _ other i chunk hother hchunk => ?_, fun _ => rfl⟩
          obtain rfl := eq_of_chosen hchosen hother
          exact htimed i chunk hchunk

theorem readTokens_eq_error_iff {cause : Corruption} :
    readTokens raw tokens = .error cause ↔ Rejected raw tokens cause := by
  refine ⟨rejected_of_readTokens, fun hcause => ?_⟩
  cases hresult : readTokens raw tokens with
  | ok entries =>
      obtain ⟨layout, hchosen, hwidth, htimed, -⟩ := lists_of_readTokens hresult
      exact absurd htimed (hcause.not_sound hchosen hwidth)
  | error other =>
      rw [hcause.unique (rejected_of_readTokens hresult)]

theorem map_readTokens_eq_ok_iff {eclasses : Eclasses} :
    (readTokens raw tokens).map OrderedMap.ofList = .ok eclasses ↔
      ∃ layout : Layout, layout.Chosen tokens ∧ layout.width ∣ tokens.length ∧
        (∀ i chunk, layout.chunk? tokens i = some chunk → chunk.Timed) ∧
        layout.Lists tokens eclasses := by
  rw [Result.map_eq_ok_iff]
  constructor
  · rintro ⟨entries, hread, rfl⟩
    exact lists_of_readTokens hread
  · rintro ⟨layout, hchosen, hwidth, htimed, hlists⟩
    cases hresult : readTokens raw tokens with
    | ok entries =>
        obtain ⟨other, hother, -, -, hlists'⟩ := lists_of_readTokens hresult
        obtain rfl := eq_of_chosen hchosen hother
        exact ⟨entries, rfl, eq_of_lists hlists' hlists⟩
    | error cause =>
        exact absurd htimed ((rejected_of_readTokens hresult).not_sound hchosen hwidth)

/-- A text that does not vanish under trimming fails for what is wrong with its tokens. -/
theorem decode_eq_error_iff
    {coordinate : Coordinate}
    {failure : Failure}
    (h : Text.trim raw.toList ≠ []) :
    decode coordinate raw = .error failure ↔
      ∃ cause, failure = .corrupt coordinate cause ∧
        readTokens raw ((Text.trim raw.toList).splitOn '\t') = .error cause := by
  rw [decode, Result.mapError_eq_error_iff, read_eq_of_ne_nil h]
  refine exists_congr fun cause => ?_
  rw [Result.map_eq_error_iff, and_comm, eq_comm]

/-- A text of blanks lists no eclasses.  Any other one is read exactly if its layout leaves no
token over and all times are literals, and then its chunks are listed.  If it is not read then
the failure names the coordinate and the one thing that is wrong with the tokens.  That is their
number exactly if it fits no layout, and it goes back to the fault of an integer exactly if there
is a time that is no literal. -/
theorem decode_accepts_iff
    (coordinate : Coordinate)
    (raw : String) :
    let text := Text.trim raw.toList
    let tokens := text.splitOn '\t'
    (∀ eclasses, decode coordinate raw = .ok eclasses ↔
      (text = [] ∧ eclasses = ∅) ∨
      (text ≠ [] ∧ ∃ layout : Layout,
        layout.Chosen tokens ∧ layout.width ∣ tokens.length ∧
        (∀ i chunk, layout.chunk? tokens i = some chunk → chunk.Timed) ∧
        layout.Lists tokens eclasses)) ∧
    (∀ failure, decode coordinate raw = .error failure ↔
      text ≠ [] ∧ ∃ cause, failure = .corrupt coordinate cause ∧ Rejected raw tokens cause) ∧
    ∀ cause, Rejected raw tokens cause →
      (cause = .tokenCount tokens.length ↔ ¬ 3 ∣ tokens.length ∧ ¬ 2 ∣ tokens.length) ∧
      (cause.source? = none ↔
        ∀ (layout : Layout) i chunk, layout.Chosen tokens →
          layout.chunk? tokens i = some chunk → chunk.Timed) := by
  intro text tokens
  have hreports : ∀ cause, Rejected raw tokens cause →
      (cause = .tokenCount tokens.length ↔ ¬ 3 ∣ tokens.length ∧ ¬ 2 ∣ tokens.length) ∧
      (cause.source? = none ↔
        ∀ (layout : Layout) i chunk, layout.Chosen tokens →
          layout.chunk? tokens i = some chunk → chunk.Timed) := fun _ hcause =>
    ⟨hcause.eq_tokenCount_iff, hcause.source?_eq_none_iff⟩
  by_cases htext : Text.trim raw.toList = []
  · have hread : decode coordinate raw = .ok ∅ := by
      rw [decode_eq_ok_iff, read, htext]
    rw [hread]
    refine ⟨fun eclasses => ⟨?_, ?_⟩, fun failure => ⟨?_, ?_⟩, hreports⟩
    · intro h
      exact .inl ⟨htext, (Except.ok.inj h).symm⟩
    · rintro (⟨-, rfl⟩ | ⟨hne, -⟩)
      · rfl
      · exact absurd htext hne
    · intro h
      cases h
    · rintro ⟨hne, -⟩
      exact absurd htext hne
  · refine ⟨fun eclasses => ?_, fun failure => ?_, hreports⟩
    · rw [decode_eq_ok_iff, read_eq_of_ne_nil htext, map_readTokens_eq_ok_iff]
      exact ⟨fun h => .inr ⟨htext, h⟩, fun h => (h.resolve_left fun hnil => htext hnil.1).2⟩
    · rw [decode_eq_error_iff htext]
      simp only [readTokens_eq_error_iff]
      exact ⟨fun h => ⟨htext, h⟩, fun h => h.2⟩

/-- A bad time is found before it is found that the next entry has none. -/
theorem decode_accepts_iff_cut_off :
    let coordinate : Coordinate := ⟨"dev-libs", "a", "1", rfl, rfl, rfl⟩
    let raw := "a\t/e\t1x\tb"
    let tokens := (Text.trim raw.toList).splitOn '\t'
    decode coordinate raw =
        .error (.corrupt coordinate (.badTime "1x" raw .invalidDigit)) ∧
      Rejected raw tokens (.badTime "1x" raw .invalidDigit) ∧
      ¬ Rejected raw tokens (.missingTime raw) ∧ ¬ 3 ∣ tokens.length ∧ 2 ∣ tokens.length := by
  intro coordinate raw tokens
  have hread : decode coordinate "a\t/e\t1x\tb" =
      .error (.corrupt coordinate (.badTime "1x" "a\t/e\t1x\tb" .invalidDigit)) := rfl
  have hrejects := (decode_accepts_iff coordinate raw).2.1
  refine ⟨hread, ?_, fun hmissing => ?_, by decide, by decide⟩
  · obtain ⟨-, cause, hfailure, hcause⟩ := (hrejects _).mp hread
    cases hfailure
    exact hcause
  · have hfailure := (hrejects _).mpr ⟨by decide, _, rfl, hmissing⟩
    cases hread.symm.trans hfailure

end Main

end Eclasses
end PackageMetadata
