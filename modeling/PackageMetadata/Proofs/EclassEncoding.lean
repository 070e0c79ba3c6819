import PackageMetadata.Eclass.Encoding
import PackageMetadata.Proofs.Integer
import PackageMetadata.Proofs.OrderedMap
import PackageMetadata.Proofs.Tokens

/-!
# Which eclasses survive being stored

Eclasses are written without escaping, and what is written is trimmed, split at tabs and read
in one of two layouts.  So a tab in a name or a path moves all later tokens, and a name that
begins blank and is written first loses its beginning, or vanishes together with its tab.

The layout is chosen by the number of tokens.  Eclasses whose tokens are all left have a
number that is divisible by three, and are read as they were written.  If one or two blank
tokens vanish then the number is not divisible by three, and the rest can be read in the brief
layout at best, which knows no paths.  Then all paths were empty, and one of them is now read
as a name.

**Results**

* `readFull_tokens`: the full layout reads what was written.
* `mem_of_readTokens`: all that is read consists of tokens.
* `free_of_read`: eclasses that survive contain no tab.
* `decode_encode_iff`: eclasses survive exactly if they contain no tab and their least name
  does not begin blank.
-/

namespace PackageMetadata
namespace Eclasses

section Writing

theorem length_tokens (entries : List (String × Eclass)) :
    (entries.flatMap entryTokens).length = 3 * entries.length := by
  induction entries with
  | nil =>
      rfl
  | cons entry rest ih =>
      rw [List.flatMap_cons, List.length_append, ih, List.length_cons, entryTokens]
      simp
      omega

/-- Only no eclasses have an empty text: each entry brings two tabs with it. -/
@[simp] theorem isEmpty_encode (eclasses : Eclasses) :
    eclasses.encode.isEmpty = eclasses.isEmpty := by
  rw [Bool.eq_iff_iff, String.isEmpty_iff, encode, String.ofList_eq_empty_iff, OrderedMap.isEmpty,
    tokens]
  cases eclasses.toList with
  | nil =>
      simp
  | cons entry rest =>
      simp [entryTokens]

/-- A modification time is read as it was written. -/
theorem readTime_write
    (raw : String)
    (time : Int64) :
    readTime raw (Text.Integer.write time) = .ok time := by
  rw [readTime, Text.Integer.read_write]
  rfl

/-- The full layout reads what was written. -/
theorem readFull_tokens
    (raw : String)
    (entries : List (String × Eclass)) :
    readFull raw (entries.flatMap entryTokens) = .ok entries := by
  induction entries with
  | nil =>
      rfl
  | cons entry rest ih =>
      show readFull raw (entry.1.toList :: entry.2.path.toList ::
        Text.Integer.write entry.2.mtime :: rest.flatMap entryTokens) = _
      rw [readFull, readTime_write, ih]
      simp [bind, Except.bind, pure, Except.pure]

/-- The number of tokens that were written selects the full layout. -/
theorem readTokens_tokens
    (raw : String)
    (entries : List (String × Eclass)) :
    readTokens raw (entries.flatMap entryTokens) = .ok entries := by
  have hthree : (entries.flatMap entryTokens).length % 3 = 0 := by
    rw [length_tokens]
    omega
  rw [readTokens, layout?, if_pos hthree]
  exact readFull_tokens raw entries

theorem tab_not_mem_write (time : Int64) : '\t' ∉ Text.Integer.write time := by
  intro htab
  have hblank := Text.Integer.not_isBlank_of_mem_write htab
  exact absurd hblank (by decide)

/-- Tokens contain a tab only if a name or a path does. -/
theorem free_tokens
    {entries : List (String × Eclass)}
    (hfree : ∀ entry ∈ entries, '\t' ∉ entry.1.toList ∧ '\t' ∉ entry.2.path.toList) :
    ∀ token ∈ entries.flatMap entryTokens, '\t' ∉ token := by
  intro token htoken
  obtain ⟨entry, hentry, hmem⟩ := List.mem_flatMap.mp htoken
  obtain ⟨hname, hpath⟩ := hfree entry hentry
  rcases (by simpa [entryTokens] using hmem :
    token = entry.1.toList ∨ token = entry.2.path.toList ∨
      token = Text.Integer.write entry.2.mtime) with rfl | rfl | rfl
  · exact hname
  · exact hpath
  · exact tab_not_mem_write entry.2.mtime

end Writing

section Reading

variable {raw : String} {name path time : List Char} {rest tokens : List (List Char)}
variable {entries : List (String × Eclass)}

theorem readFull_cons_eq_ok :
    readFull raw (name :: path :: time :: rest) = .ok entries ↔
      ∃ mtime later, readTime raw time = .ok mtime ∧ readFull raw rest = .ok later ∧
        entries = (String.ofList name, ⟨String.ofList path, mtime⟩) :: later := by
  rw [readFull]
  cases readTime raw time with
  | error corruption =>
      simp [bind, Except.bind]
  | ok mtime =>
      cases readFull raw rest with
      | error corruption =>
          simp [bind, Except.bind]
      | ok later =>
          simp [bind, Except.bind, pure, Except.pure, eq_comm]

theorem readBrief_cons_eq_ok :
    readBrief raw (name :: time :: rest) = .ok entries ↔
      ∃ mtime later, readTime raw time = .ok mtime ∧ readBrief raw rest = .ok later ∧
        entries = (String.ofList name, ⟨"", mtime⟩) :: later := by
  rw [readBrief]
  cases readTime raw time with
  | error corruption =>
      simp [bind, Except.bind]
  | ok mtime =>
      cases readBrief raw rest with
      | error corruption =>
          simp [bind, Except.bind]
      | ok later =>
          simp [bind, Except.bind, pure, Except.pure, eq_comm]

/-- The full layout has three tokens for each entry, and the names and paths are among them. -/
theorem mem_of_readFull (h : readFull raw tokens = .ok entries) :
    tokens.length % 3 = 0 ∧
      ∀ entry ∈ entries, entry.1.toList ∈ tokens ∧ entry.2.path.toList ∈ tokens := by
  fun_induction readFull raw tokens generalizing entries with
  | case1 =>
      cases h
      simp
  | case2 name path time rest ih =>
      rw [← readFull, readFull_cons_eq_ok] at h
      obtain ⟨mtime, later, -, hlater, rfl⟩ := h
      obtain ⟨hlength, hmem⟩ := ih hlater
      refine ⟨by simp only [List.length_cons]; omega, ?_⟩
      intro entry hentry
      rcases List.mem_cons.mp hentry with rfl | hentry
      · simp
      · obtain ⟨hname, hpath⟩ := hmem entry hentry
        simp [hname, hpath]
  | case3 =>
      cases h

/-- In the brief layout the names are among the tokens, and all paths are empty. -/
theorem mem_of_readBrief (h : readBrief raw tokens = .ok entries) :
    ∀ entry ∈ entries, entry.1.toList ∈ tokens ∧ entry.2.path = "" := by
  fun_induction readBrief raw tokens generalizing entries with
  | case1 name time rest ih =>
      rw [← readBrief, readBrief_cons_eq_ok] at h
      obtain ⟨mtime, later, -, hlater, rfl⟩ := h
      intro entry hentry
      rcases List.mem_cons.mp hentry with rfl | hentry
      · simp
      · obtain ⟨hname, hpath⟩ := ih hlater entry hentry
        simp [hname, hpath]
  | case2 =>
      cases h
      simp

/-- What is read is read in the full layout if the number of tokens is divisible by three, and
else, if it is even, in the brief one. -/
theorem readTokens_cases (h : readTokens raw tokens = .ok entries) :
    (tokens.length % 3 = 0 ∧ readFull raw tokens = .ok entries) ∨
      (tokens.length % 3 ≠ 0 ∧ tokens.length % 2 = 0 ∧ readBrief raw tokens = .ok entries) := by
  rw [readTokens, layout?] at h
  by_cases hthree : tokens.length % 3 = 0
  · rw [if_pos hthree] at h
    exact .inl ⟨hthree, h⟩
  · rw [if_neg hthree] at h
    by_cases htwo : tokens.length % 2 = 0
    · rw [if_pos htwo] at h
      cases hdigits : tokens[1]?.any isDigits with
      | true =>
          rw [hdigits] at h
          exact .inr ⟨hthree, htwo, h⟩
      | false =>
          rw [hdigits] at h
          exact absurd (mem_of_readFull h).1 hthree
    · rw [if_neg htwo] at h
      cases h

/-- The names and paths that are read are among the tokens, unless they are empty. -/
theorem mem_of_readTokens (h : readTokens raw tokens = .ok entries) :
    ∀ entry ∈ entries,
      entry.1.toList ∈ tokens ∧ (entry.2.path = "" ∨ entry.2.path.toList ∈ tokens) := by
  intro entry hentry
  obtain ⟨-, hread⟩ | ⟨-, -, hread⟩ := readTokens_cases h
  · obtain ⟨hname, hpath⟩ := (mem_of_readFull hread).2 entry hentry
    exact ⟨hname, .inr hpath⟩
  · obtain ⟨hname, hpath⟩ := mem_of_readBrief hread entry hentry
    exact ⟨hname, .inl hpath⟩

/-- A text that does not vanish under trimming is read token by token. -/
theorem read_eq_of_ne_nil (h : Text.trim raw.toList ≠ []) :
    read raw =
      (readTokens raw ((Text.trim raw.toList).splitOn '\t')).map OrderedMap.ofList := by
  rw [read]
  split
  · contradiction
  · rfl

/-- Without tabs in them, tokens that end with a time are read as trimming leaves them. -/
theorem read_intercalate
    {front : List (List Char)}
    {last : Int64}
    (hraw : raw.toList = ['\t'].intercalate (front ++ [Text.Integer.write last]))
    (hfree : ∀ token ∈ front ++ [Text.Integer.write last], '\t' ∉ token) :
    read raw =
      (readTokens raw (Text.trimFront (front ++ [Text.Integer.write last]))).map
        OrderedMap.ofList := by
  obtain ⟨htrim, hsplit⟩ := Text.splitOn_trim_intercalate (by decide) hfree
    (Text.Integer.write_ne_nil last) fun c => Text.Integer.not_isBlank_of_mem_write
  rw [← hraw] at htrim hsplit
  rw [read_eq_of_ne_nil htrim, hsplit]

/-- Eclasses that are read contain no tab. -/
theorem free_of_read
    {eclasses : Eclasses}
    (h : read raw = .ok eclasses) :
    ∀ entry ∈ eclasses.toList, '\t' ∉ entry.1.toList ∧ '\t' ∉ entry.2.path.toList := by
  by_cases hblank : Text.trim raw.toList = []
  · rw [read, hblank] at h
    cases h
    intro entry hentry
    cases hentry
  · rw [read_eq_of_ne_nil hblank] at h
    obtain ⟨entries, hread, rfl⟩ := Result.map_eq_ok_iff.mp h
    intro entry hentry
    have hmem := OrderedMap.mem_of_mem_ofList hentry
    obtain ⟨hname, hpath⟩ := mem_of_readTokens hread entry hmem
    refine ⟨Text.not_mem_of_mem_splitOn hname, ?_⟩
    rcases hpath with hempty | hpath
    · simp [hempty]
    · exact Text.not_mem_of_mem_splitOn hpath

/-- A coordinate matters only to the wording of failures. -/
theorem decode_eq_ok_iff
    {coordinate : Coordinate}
    {eclasses : Eclasses} :
    decode coordinate raw = .ok eclasses ↔ read raw = .ok eclasses :=
  Result.mapError_eq_ok_iff

end Reading

section RoundTrip

variable {eclasses : Eclasses}

/-- Without tabs the tokens that are read are those that trimming has left. -/
theorem read_encode
    (hne : eclasses.toList ≠ [])
    (hfree : ∀ entry ∈ eclasses.toList,
      '\t' ∉ entry.1.toList ∧ '\t' ∉ entry.2.path.toList) :
    read eclasses.encode =
      (readTokens eclasses.encode (Text.trimFront eclasses.tokens)).map OrderedMap.ofList := by
  obtain ⟨front, last, hentries⟩ := (List.eq_nil_or_concat eclasses.toList).resolve_left hne
  have htokens : eclasses.tokens =
      (front.flatMap entryTokens ++ [last.1.toList, last.2.path.toList]) ++
        [Text.Integer.write last.2.mtime] := by
    rw [tokens, hentries, List.concat_eq_append]
    simp [entryTokens]
  have hraw : eclasses.encode.toList = ['\t'].intercalate eclasses.tokens :=
    String.toList_ofList
  have htokensFree := free_tokens hfree
  rw [← tokens] at htokensFree
  rw [htokens] at hraw htokensFree ⊢
  exact read_intercalate hraw htokensFree

variable {raw : String} {entry : String × Eclass} {rest entries : List (String × Eclass)}

/-- If the number of tokens that are left is not divisible by three then all paths were
empty. -/
theorem readBrief_of_survives
    {tokens : List (List Char)}
    (hthree : tokens.length % 3 ≠ 0)
    (hread : readTokens raw tokens = .ok entries)
    (hsurvives : OrderedMap.ofList entries = eclasses) :
    tokens.length % 2 = 0 ∧ readBrief raw tokens = .ok entries ∧
      ∀ entry ∈ eclasses.toList, entry.2.path = "" := by
  obtain ⟨hlength, -⟩ | ⟨-, htwo, hbrief⟩ := readTokens_cases hread
  · exact absurd hlength hthree
  · refine ⟨htwo, hbrief, fun entry hentry => ?_⟩
    rw [← hsurvives] at hentry
    exact (mem_of_readBrief hbrief entry (OrderedMap.mem_of_mem_ofList hentry)).2

variable (hentries : eclasses.toList = entry :: rest)
include hentries

theorem tokens_eq_cons :
    eclasses.tokens =
      entry.1.toList :: entry.2.path.toList :: Text.Integer.write entry.2.mtime ::
        rest.flatMap entryTokens := by
  rw [tokens, hentries]
  rfl

/-- The least name stands first. -/
theorem lt_of_mem_rest
    {other : String × Eclass}
    (hother : other ∈ rest) :
    entry.1 < other.1 := by
  have hordered := eclasses.ordered
  rw [hentries] at hordered
  exact compareOfLessAndEq_eq_lt.mp ((List.pairwise_cons.mp hordered).1 other hother)

theorem least_iff {name : String} :
    (name ∈ eclasses.keys ∧ ∀ other ∈ eclasses.keys, name ≤ other) ↔ name = entry.1 := by
  have hkeys : eclasses.keys = entry.1 :: rest.map Prod.fst := by
    rw [OrderedMap.keys, hentries]
    rfl
  have hle : ∀ other ∈ eclasses.keys, entry.1 ≤ other := by
    intro other hother
    rw [hkeys] at hother
    rcases List.mem_cons.mp hother with rfl | hrest
    · exact String.le_refl entry.1
    · obtain ⟨e, he, rfl⟩ := List.mem_map.mp hrest
      exact Std.le_of_lt (lt_of_mem_rest hentries he)
  have hmem : entry.1 ∈ eclasses.keys := by
    rw [hkeys]
    exact List.mem_cons_self
  constructor
  · rintro ⟨hname, hleast⟩
    exact String.le_antisymm (hleast entry.1 hmem) (hle name hname)
  · rintro rfl
    exact ⟨hmem, hle⟩

/-- If blanks vanish from the least name then it is not read. -/
theorem not_survives_of_renamed
    {c : Char}
    {name : List Char}
    (hname : entry.1.toList = c :: name)
    (hc : Text.isBlank c = true)
    (hkept : entry.1.toList.dropWhile Text.isBlank ≠ [])
    (hread : readTokens raw (Text.trimFront eclasses.tokens) = .ok entries) :
    OrderedMap.ofList entries ≠ eclasses := by
  intro hsurvives
  have hrenamed : Text.trimFront eclasses.tokens =
      ((String.ofList (entry.1.toList.dropWhile Text.isBlank), entry.2) :: rest).flatMap
        entryTokens := by
    rw [tokens_eq_cons hentries, Text.trimFront_cons_of_not_blank hkept]
    simp [entryTokens]
  rw [hrenamed, readTokens_tokens] at hread
  cases hread
  have hmem : entry ∈ eclasses.toList := by simp [hentries]
  rw [← hsurvives] at hmem
  rcases List.mem_cons.mp (OrderedMap.mem_of_mem_ofList hmem) with heq | hrest
  · have hsame : entry.1.toList = entry.1.toList.dropWhile Text.isBlank := by
      have h := congrArg (fun entry => entry.1.toList) heq
      simpa using h
    have hle : (name.dropWhile Text.isBlank).length ≤ name.length :=
      (List.dropWhile_sublist Text.isBlank).length_le
    have hlength := congrArg List.length hsame
    rw [hname, List.dropWhile_cons_of_pos hc, List.length_cons] at hlength
    omega
  · exact String.lt_irrefl entry.1 (lt_of_mem_rest hentries hrest)

/-- If the least name vanishes then nothing is read, or its path is read in its place. -/
theorem not_survives_of_one_gone
    (hblank : entry.1.toList.dropWhile Text.isBlank = [])
    (hkept : entry.2.path.toList.dropWhile Text.isBlank ≠ [])
    (hread : readTokens raw (Text.trimFront eclasses.tokens) = .ok entries) :
    OrderedMap.ofList entries ≠ eclasses := by
  intro hsurvives
  have hleft : Text.trimFront eclasses.tokens =
      entry.2.path.toList.dropWhile Text.isBlank :: Text.Integer.write entry.2.mtime ::
        rest.flatMap entryTokens := by
    rw [tokens_eq_cons hentries, Text.trimFront_cons_of_blank hblank,
      Text.trimFront_cons_of_not_blank hkept]
  have hthree : (Text.trimFront eclasses.tokens).length % 3 ≠ 0 := by
    rw [hleft, List.length_cons, List.length_cons, length_tokens]
    omega
  obtain ⟨-, -, hpaths⟩ := readBrief_of_survives hthree hread hsurvives
  have hpath := hpaths entry (by simp [hentries])
  rw [hpath] at hkept
  exact hkept rfl

/-- If its path vanishes, too, then only the brief layout is left to be read, and the next path,
which is empty, stands where that layout has a name. -/
theorem readBrief_of_two_gone
    (hblank : entry.1.toList.dropWhile Text.isBlank = [])
    (hpath : entry.2.path.toList.dropWhile Text.isBlank = [])
    (hread : readTokens raw (Text.trimFront eclasses.tokens) = .ok entries)
    (hsurvives : OrderedMap.ofList entries = eclasses) :
    ∃ next later, rest = next :: later ∧
      (∀ entry ∈ eclasses.toList, entry.2.path = "") ∧
      Text.trimFront eclasses.tokens =
        Text.Integer.write entry.2.mtime :: next.1.toList :: [] ::
          Text.Integer.write next.2.mtime :: later.flatMap entryTokens ∧
      readBrief raw (Text.trimFront eclasses.tokens) = .ok entries := by
  have hleft : Text.trimFront eclasses.tokens =
      Text.Integer.write entry.2.mtime :: rest.flatMap entryTokens := by
    rw [tokens_eq_cons hentries, Text.trimFront_cons_of_blank hblank,
      Text.trimFront_cons_of_blank hpath]
    exact Text.trimFront_eq_self (Text.Integer.write_ne_nil _) fun c hc =>
      Text.Integer.not_isBlank_of_mem_write (List.mem_of_mem_head? hc)
  have hlength : (Text.trimFront eclasses.tokens).length = 3 * rest.length + 1 := by
    rw [hleft, List.length_cons, length_tokens]
  obtain ⟨htwo, hbrief, hpaths⟩ :=
    readBrief_of_survives (by omega) hread hsurvives
  cases rest with
  | nil =>
      rw [hlength] at htwo
      cases htwo
  | cons next later =>
      have hnext : next.2.path = "" := hpaths next (by simp [hentries])
      have htokens : (next :: later).flatMap entryTokens =
          next.1.toList :: next.2.path.toList :: Text.Integer.write next.2.mtime ::
            later.flatMap entryTokens := rfl
      rw [htokens, hnext] at hleft
      exact ⟨next, later, rfl, hpaths, hleft, hbrief⟩

/-- So nothing is read, or a name that is empty. -/
theorem not_survives_of_two_gone
    (hnames : ∀ name ∈ eclasses.keys, name ≠ "")
    (hblank : entry.1.toList.dropWhile Text.isBlank = [])
    (hpath : entry.2.path.toList.dropWhile Text.isBlank = [])
    (hread : readTokens raw (Text.trimFront eclasses.tokens) = .ok entries) :
    OrderedMap.ofList entries ≠ eclasses := by
  intro hsurvives
  obtain ⟨next, later, -, -, hleft, hbrief⟩ :=
    readBrief_of_two_gone hentries hblank hpath hread hsurvives
  rw [hleft, readBrief_cons_eq_ok] at hbrief
  obtain ⟨_, behind, -, hbehind, hfirst⟩ := hbrief
  obtain ⟨mtime, _, -, -, hsecond⟩ := readBrief_cons_eq_ok.mp hbehind
  have hmem : ("", (⟨"", mtime⟩ : Eclass)) ∈ entries := by
    simp [hfirst, hsecond]
  have hempty : "" ∈ eclasses.keys := by
    rw [← hsurvives]
    exact OrderedMap.mem_keys_ofList hmem
  exact hnames "" hempty rfl

/-- So eclasses survive only if their least name does not begin blank. -/
theorem not_isBlank_of_survives
    (hnames : ∀ name ∈ eclasses.keys, name ≠ "")
    (hread : readTokens raw (Text.trimFront eclasses.tokens) = .ok entries)
    (hsurvives : OrderedMap.ofList entries = eclasses) :
    ∀ c ∈ entry.1.toList.head?, Text.isBlank c = false := by
  intro c hc
  obtain ⟨name, hname⟩ := List.head?_eq_some_iff.mp hc
  cases hblank : Text.isBlank c with
  | false =>
      rfl
  | true =>
      exfalso
      by_cases hgone : entry.1.toList.dropWhile Text.isBlank = []
      · by_cases hpath : entry.2.path.toList.dropWhile Text.isBlank = []
        · exact not_survives_of_two_gone hentries hnames hgone hpath hread hsurvives
        · exact not_survives_of_one_gone hentries hgone hpath hread hsurvives
      · exact not_survives_of_renamed hentries hname hblank hgone hread hsurvives

/-- And they do survive then. -/
theorem readTokens_trimFront
    (raw : String)
    (hname : entry.1 ≠ "")
    (hvisible : ∀ c ∈ entry.1.toList.head?, Text.isBlank c = false) :
    readTokens raw (Text.trimFront eclasses.tokens) = .ok eclasses.toList := by
  have hkept : Text.trimFront eclasses.tokens = eclasses.tokens := by
    rw [tokens_eq_cons hentries]
    refine Text.trimFront_eq_self (fun hnil => ?_) hvisible
    exact hname (String.toList_eq_nil_iff.mp hnil)
  rw [hkept]
  exact readTokens_tokens raw eclasses.toList

end RoundTrip

section Main

/-- Eclasses with names are read back from their text exactly if there is no tab in them and
the least of their names does not begin blank. -/
theorem decode_encode_iff
    (coordinate : Coordinate)
    (eclasses : Eclasses)
    (hnames : ∀ name ∈ eclasses.keys, name ≠ "") :
    decode coordinate eclasses.encode = .ok eclasses ↔
      (∀ entry ∈ eclasses.toList, '\t' ∉ entry.1.toList ∧ '\t' ∉ entry.2.path.toList) ∧
      ∀ name ∈ eclasses.keys, (∀ other ∈ eclasses.keys, name ≤ other) →
        ∀ c ∈ name.toList.head?, Text.isBlank c = false := by
  rw [decode_eq_ok_iff]
  cases hentries : eclasses.toList with
  | nil =>
      obtain rfl : eclasses = ∅ := by
        rw [← OrderedMap.ofList_toList eclasses, hentries]
        rfl
      refine ⟨fun _ => ⟨by simp, fun name hname => ?_⟩, fun _ => rfl⟩
      cases hname
  | cons entry rest =>
      have hne : eclasses.toList ≠ [] := by simp [hentries]
      have hleast (name : String) := @least_iff eclasses entry rest hentries name
      rw [← hentries]
      constructor
      · intro hread
        have hfree := free_of_read hread
        refine ⟨hfree, fun name hname hle => ?_⟩
        obtain rfl := (hleast name).mp ⟨hname, hle⟩
        rw [read_encode hne hfree] at hread
        cases hentries' : readTokens eclasses.encode (Text.trimFront eclasses.tokens) with
        | error corruption =>
            rw [hentries'] at hread
            cases hread
        | ok entries =>
            rw [hentries'] at hread
            exact not_isBlank_of_survives hentries hnames hentries' (Except.ok.inj hread)
      · rintro ⟨hfree, hvisible⟩
        obtain ⟨hmem, hle⟩ := (hleast entry.1).mpr rfl
        have htokens := readTokens_trimFront hentries eclasses.encode (hnames entry.1 hmem)
          (hvisible entry.1 hmem hle)
        rw [read_encode hne hfree, htokens]
        exact congrArg Except.ok (OrderedMap.ofList_toList eclasses)

/-- Both extreme times survive, and so does a blank within a name or at its end, but not one at
the beginning of the least name. -/
theorem decode_encode_iff_extremes :
    let coordinate : Coordinate := ⟨"dev-libs", "a", "1", rfl, rfl, rfl⟩
    let kept : Eclasses :=
      OrderedMap.ofList [("b", ⟨"/e f", -9223372036854775808⟩), ("a ", ⟨"", 9223372036854775807⟩)]
    let spoilt : Eclasses := OrderedMap.ofList [("b", ⟨"/e", 1⟩), (" a", ⟨"/e", -1⟩)]
    (∀ name ∈ kept.keys, name ≠ "") ∧ decode coordinate kept.encode = .ok kept ∧
      (∀ name ∈ spoilt.keys, name ≠ "") ∧ decode coordinate spoilt.encode ≠ .ok spoilt := by
  intro coordinate kept spoilt
  have hkept : ∀ name ∈ kept.keys, name ≠ "" := by decide
  have hspoilt : ∀ name ∈ spoilt.keys, name ≠ "" := by decide
  refine ⟨hkept, (decode_encode_iff coordinate kept hkept).mpr ⟨by decide, ?_⟩, hspoilt, ?_⟩
  · intro name hname _ c hc
    have hkeys : kept.keys = ["a ", "b"] := rfl
    rw [hkeys, List.mem_cons, List.mem_singleton] at hname
    rcases hname with rfl | rfl
    · obtain rfl : 'a' = c := Option.some.inj hc
      decide
    · obtain rfl : 'b' = c := Option.some.inj hc
      decide
  · intro hread
    have hvisible := ((decode_encode_iff coordinate spoilt hspoilt).mp hread).2 " a"
      (by decide) (by decide) ' ' rfl
    exact absurd hvisible (by decide)

end Main

end Eclasses
end PackageMetadata
