import TanDialog.Property.Lines
import TanDialog.Proofs.Property.Projection
import TanDialog.Proofs.Text.Blank

/-!
# Property files

What a line says can be told without trimming it. A blank line and a comment say nothing; of any
other line with a `=` the sides of the first one, trimmed, are a path and its value
(`lineContent_trim_of_separator`). A file is refused at its first line that is neither blank nor a
comment and has no `=` (`readLines_eq_error_iff`).

A property set that has a form as lines (`IsWritable`) can be written in many ways: its entries in
any order, each in a line of its own with white space around path and value, and blank lines and
comments anywhere (`Row`). Reading gives it back from each of them (`property_files`).
-/

namespace TanDialog.PropertySet

variable {line : List Char}

/-! ### What a line says -/

/-- A line of white space, possibly none. -/
def IsBlankLine (line : List Char) : Prop := ∀ c ∈ line, Text.isBlank c = true

instance (line : List Char) : Decidable (IsBlankLine line) :=
  decidable_of_iff (line.all Text.isBlank = true) List.all_eq_true

/-- A line that starts with `#`, with or without white space in front of it. -/
def IsComment (line : List Char) : Prop :=
  ∃ padding text, line = padding ++ '#' :: text ∧ IsBlankLine padding

/-- A line that is neither blank nor a comment and has no `=`. -/
def IsInvalid (line : List Char) : Prop := ¬ IsBlankLine line ∧ ¬ IsComment line ∧ '=' ∉ line

theorem exists_first_of_not_isBlankLine (h : ¬ IsBlankLine line) :
    ∃ padding c text, line = padding ++ c :: text ∧ IsBlankLine padding ∧
      Text.trim line = c :: Text.trimEnd text := by
  have hne : line.dropWhile Text.isBlank ≠ [] := mt List.dropWhile_eq_nil_iff.mp h
  obtain ⟨c, text, hrest⟩ := List.exists_cons_of_ne_nil hne
  have hc : Text.isBlank c = false := by
    have hnot := List.dropWhile_get_zero_not Text.isBlank line (by simp [hrest])
    simpa [hrest] using hnot
  have hpadding : IsBlankLine (line.takeWhile Text.isBlank) :=
    fun b hb => List.mem_takeWhile_imp hb
  have hline : line = line.takeWhile Text.isBlank ++ c :: text := by
    rw [← hrest, List.takeWhile_append_dropWhile]
  refine ⟨_, c, text, hline, hpadding, ?_⟩
  rw [hline, Text.trim_append_cons hc, List.dropWhile_eq_nil_iff.mpr hpadding]
  rfl

theorem isComment_iff : IsComment line ↔ (Text.trim line).head? = some '#' := by
  constructor
  · rintro ⟨padding, text, rfl, hpadding⟩
    have hhash : Text.isBlank '#' = false := by decide
    rw [Text.trim_append_cons hhash, List.dropWhile_eq_nil_iff.mpr hpadding]
    rfl
  · intro hhead
    have hblank : ¬ IsBlankLine line := by
      intro hblank
      rw [Text.trim_eq_nil_iff.mpr hblank] at hhead
      cases hhead
    obtain ⟨padding, c, text, hline, hpadding, htrim⟩ := exists_first_of_not_isBlankLine hblank
    rw [htrim] at hhead
    cases hhead
    exact ⟨padding, text, hline, hpadding⟩

theorem lineContent_trim_of_nothing (h : IsBlankLine line ∨ IsComment line) :
    lineContent (Text.trim line) = .nothing := by
  rw [lineContent, if_pos]
  rcases h with hblank | hcomment
  · rw [Text.trim_eq_nil_iff.mpr hblank]
    rfl
  · rw [isComment_iff.mp hcomment]
    simp

/-- A line that is not passed over is told by what is in it. -/
theorem lineContent_trim_of_something (hblank : ¬ IsBlankLine line) (hcomment : ¬ IsComment line) :
    lineContent (Text.trim line) =
      if (Text.trim line).contains '=' then
        .property (String.ofList (Text.trim ((Text.trim line).takeWhile (· ≠ '='))))
          (String.ofList (Text.trim (((Text.trim line).dropWhile (· ≠ '=')).drop 1)))
      else .invalid := by
  have hne : Text.trim line ≠ [] := mt Text.trim_eq_nil_iff.mp hblank
  have hhead : (Text.trim line).head? ≠ some '#' := mt isComment_iff.mpr hcomment
  rw [lineContent, if_neg]
  simpa using ⟨hne, hhead⟩

/-- The first `=` of a line separates a path from its value. -/
theorem lineContent_trim_of_separator {left right : List Char} (hleft : '=' ∉ left)
    (hcomment : ¬ IsComment (left ++ '=' :: right)) :
    lineContent (Text.trim (left ++ '=' :: right)) =
      .property (String.ofList (Text.trim left)) (String.ofList (Text.trim right)) := by
  have hequals : Text.isBlank '=' = false := by decide
  have hblank : ¬ IsBlankLine (left ++ '=' :: right) := by
    intro hblank
    have := hblank '=' (by simp)
    rw [hequals] at this
    cases this
  have hpath : ∀ c ∈ left.dropWhile Text.isBlank, decide (c ≠ '=') = true := by
    intro c hc
    have hmem : c ∈ left := (List.dropWhile_sublist _).mem hc
    exact decide_eq_true fun heq => hleft (heq ▸ hmem)
  rw [lineContent_trim_of_something hblank hcomment, Text.trim_append_cons hequals,
    if_pos (by simp), List.takeWhile_append_of_pos hpath, List.dropWhile_append_of_pos hpath,
    List.takeWhile_cons_of_neg (by simp), List.dropWhile_cons_of_neg (by simp), List.append_nil,
    List.drop_one, List.tail_cons, Text.trim_dropWhile_isBlank, Text.trim_trimEnd]

theorem lineContent_trim_eq_invalid_iff :
    lineContent (Text.trim line) = .invalid ↔ IsInvalid line := by
  by_cases hpassed : IsBlankLine line ∨ IsComment line
  · rw [lineContent_trim_of_nothing hpassed]
    refine iff_of_false nofun fun hinvalid => ?_
    exact hpassed.elim hinvalid.1 hinvalid.2.1
  · obtain ⟨hblank, hcomment⟩ := not_or.mp hpassed
    by_cases hequals : '=' ∈ line
    · obtain ⟨left, right, rfl, hleft⟩ := List.eq_append_cons_of_mem hequals
      rw [lineContent_trim_of_separator hleft hcomment]
      exact iff_of_false nofun fun hinvalid => hinvalid.2.2 hequals
    · have htrim : '=' ∉ Text.trim line := mt Text.mem_of_mem_trim hequals
      rw [lineContent_trim_of_something hblank hcomment, if_neg (by simpa using htrim)]
      exact iff_of_true rfl ⟨hblank, hcomment, hequals⟩

/-! ### What a file says -/

/-- What a line puts into the property set. -/
def lineProperty? (line : List Char) : Option (String × String) :=
  match lineContent (Text.trim line) with
  | .property path value => some (path, value)
  | _ => none

theorem lineProperty?_of_nothing (h : IsBlankLine line ∨ IsComment line) :
    lineProperty? line = none := by
  rw [lineProperty?, lineContent_trim_of_nothing h]

theorem lineProperty?_of_separator {left right : List Char} (hleft : '=' ∉ left)
    (hcomment : ¬ IsComment (left ++ '=' :: right)) :
    lineProperty? (left ++ '=' :: right) =
      some (String.ofList (Text.trim left), String.ofList (Text.trim right)) := by
  rw [lineProperty?, lineContent_trim_of_separator hleft hcomment]

variable {n : Nat} {s : PropertySet} {lines : List (List Char)}

theorem readLinesFrom_cons_of_not_isInvalid (h : ¬ IsInvalid line) :
    readLinesFrom n s (line :: lines) =
      readLinesFrom (n + 1) (s.insertAll (lineProperty? line).toList) lines := by
  rw [readLinesFrom, lineProperty?]
  split
  case h_1 hcontent => simp [hcontent]
  case h_2 hcontent => simp [hcontent]
  case h_3 hcontent => exact absurd (lineContent_trim_eq_invalid_iff.mp hcontent) h

theorem readLinesFrom_cons_of_isInvalid (h : IsInvalid line) :
    readLinesFrom n s (line :: lines) = .error ⟨n, String.ofList (Text.trim line)⟩ := by
  simp only [readLinesFrom, lineContent_trim_eq_invalid_iff.mpr h]

theorem readLinesFrom_ok (h : ∀ line ∈ lines, ¬ IsInvalid line) :
    readLinesFrom n s lines = .ok (s.insertAll (lines.filterMap lineProperty?)) := by
  induction lines generalizing n s with
  | nil => rfl
  | cons line lines ih =>
    rw [List.forall_mem_cons] at h
    rw [readLinesFrom_cons_of_not_isInvalid h.1, ih h.2, ← Dictionary.insertAll_append]
    cases hentry : lineProperty? line <;> simp [hentry]

/-- The first invalid line is refused, whatever comes behind it. -/
theorem readLinesFrom_eq_error_iff {e : InvalidLine} :
    readLinesFrom n s lines = .error e ↔
      ∃ before line after, lines = before ++ line :: after ∧ (∀ l ∈ before, ¬ IsInvalid l) ∧
        IsInvalid line ∧ e = ⟨n + before.length, String.ofList (Text.trim line)⟩ := by
  induction lines generalizing n s with
  | nil =>
    refine iff_of_false nofun ?_
    rintro ⟨before, line, after, hlines, -⟩
    exact List.append_ne_nil_of_right_ne_nil before (List.cons_ne_nil line after) hlines.symm
  | cons line lines ih =>
    by_cases hline : IsInvalid line
    · rw [readLinesFrom_cons_of_isInvalid hline]
      constructor
      · intro h
        cases h
        exact ⟨[], line, lines, rfl, by simp, hline, rfl⟩
      · rintro ⟨before, first, after, hlines, hbefore, -, rfl⟩
        cases before with
        | nil =>
          obtain ⟨rfl, -⟩ := List.cons.inj hlines
          rfl
        | cons b before =>
          obtain ⟨rfl, -⟩ := List.cons.inj hlines
          exact absurd hline (hbefore line List.mem_cons_self)
    · rw [readLinesFrom_cons_of_not_isInvalid hline, ih]
      constructor
      · rintro ⟨before, first, after, rfl, hbefore, hfirst, rfl⟩
        refine ⟨line :: before, first, after, rfl, List.forall_mem_cons.mpr ⟨hline, hbefore⟩,
          hfirst, ?_⟩
        rw [List.length_cons, Nat.add_right_comm, Nat.add_assoc]
      · rintro ⟨before, first, after, hlines, hbefore, hfirst, rfl⟩
        cases before with
        | nil =>
          obtain ⟨rfl, -⟩ := List.cons.inj hlines
          exact absurd hfirst hline
        | cons b before =>
          obtain ⟨rfl, rfl⟩ := List.cons.inj hlines
          refine ⟨before, first, after, rfl, (List.forall_mem_cons.mp hbefore).2, hfirst, ?_⟩
          rw [List.length_cons, Nat.add_right_comm, Nat.add_assoc]

/-- A file is refused at its first invalid line, which is named with its number from one on. -/
theorem readLines_eq_error_iff {text : String} {e : InvalidLine} :
    readLines text = .error e ↔
      ∃ before line after, text.toList.splitOn '\n' = before ++ line :: after ∧
        (∀ l ∈ before, ¬ IsInvalid l) ∧ IsInvalid line ∧
        e = ⟨1 + before.length, String.ofList (Text.trim line)⟩ :=
  readLinesFrom_eq_error_iff

example : readLines "a = 1\n#b\n c \nd" = .error ⟨3, "c"⟩ := by decide

theorem exists_readLinesFrom_eq_error (h : ∃ line ∈ lines, IsInvalid line) :
    ∃ e, readLinesFrom n s lines = .error e := by
  induction lines generalizing n s with
  | nil => simp at h
  | cons line lines ih =>
    by_cases hline : IsInvalid line
    · exact ⟨_, readLinesFrom_cons_of_isInvalid hline⟩
    · rw [readLinesFrom_cons_of_not_isInvalid hline]
      obtain ⟨l, hmem, hl⟩ := h
      rcases List.mem_cons.mp hmem with rfl | hmem
      · exact absurd hl hline
      · exact ih ⟨l, hmem, hl⟩

theorem exists_readLines_eq_error_iff {text : String} :
    (∃ e, readLines text = .error e) ↔ ∃ line ∈ text.toList.splitOn '\n', IsInvalid line := by
  constructor
  · rintro ⟨e, he⟩
    obtain ⟨before, line, after, hlines, -, hline, -⟩ := readLines_eq_error_iff.mp he
    exact ⟨line, by simp [hlines], hline⟩
  · exact exists_readLinesFrom_eq_error

/-! ### Writing a property set -/

/-- White space within a line. -/
structure Padding where
  chars : List Char
  isBlankLine : IsBlankLine chars
  oneLine : '\n' ∉ chars

/-- A text with white space around it. -/
structure Padded where
  before : Padding
  text : String
  behind : Padding

def Padded.chars (p : Padded) : List Char := p.before.chars ++ p.text.toList ++ p.behind.chars

/-- A line of a property file. -/
inductive Row
  | blank (padding : Padding)
  | comment (padding : Padding) (text : List Char) (oneLine : '\n' ∉ text)
  | property (path value : Padded)

namespace Row

def chars : Row → List Char
  | blank padding => padding.chars
  | comment padding text _ => padding.chars ++ '#' :: text
  | property path value => path.chars ++ '=' :: value.chars

/-- The entry that the line is there for. -/
def written? : Row → Option (String × String)
  | property path value => some (path.text, value.text)
  | _ => none

end Row

/-- The text of a file with the given lines. A line feed at the end makes a blank line of its
own. -/
def fileText (rows : List Row) : String := String.ofList (['\n'].intercalate (rows.map Row.chars))

/-- A text that keeps its ends when it is trimmed, and stays within its line. -/
structure IsTight (text : String) : Prop where
  head : ∀ c ∈ text.toList.head?, Text.isBlank c = false
  last : ∀ c ∈ text.toList.getLast?, Text.isBlank c = false
  oneLine : '\n' ∉ text.toList

/-- A path and a value that can be told from a line. -/
structure IsWritableEntry (path value : String) : Prop where
  path_tight : IsTight path
  value_tight : IsTight value
  equals_notMem : '=' ∉ path.toList
  head_ne : path.toList.head? ≠ some '#'

theorem isTight_iff {text : String} :
    IsTight text ↔ text.toList.head?.all (!Text.isBlank ·) = true ∧
      text.toList.getLast?.all (!Text.isBlank ·) = true ∧ '\n' ∉ text.toList := by
  simp only [Option.all_eq_true, Bool.not_eq_true']
  exact ⟨fun h => ⟨h.head, h.last, h.oneLine⟩, fun ⟨head, last, oneLine⟩ => ⟨head, last, oneLine⟩⟩

instance (text : String) : Decidable (IsTight text) := decidable_of_iff _ isTight_iff.symm

instance (path value : String) : Decidable (IsWritableEntry path value) :=
  decidable_of_iff (IsTight path ∧ IsTight value ∧ '=' ∉ path.toList ∧ path.toList.head? ≠ some '#')
    ⟨fun ⟨hpath, hvalue, hequals, hhead⟩ => ⟨hpath, hvalue, hequals, hhead⟩,
      fun h => ⟨h.path_tight, h.value_tight, h.equals_notMem, h.head_ne⟩⟩

/-- The property set has a form as lines. -/
def IsWritable (s : PropertySet) : Prop := ∀ e ∈ s.entries, IsWritableEntry e.1 e.2
deriving Decidable

theorem Padded.trim_chars {p : Padded} (h : IsTight p.text) :
    Text.trim p.chars = p.text.toList := by
  rw [Padded.chars, Text.trim_append_isBlank _ p.behind.isBlankLine,
    Text.trim_append_of_isBlank p.before.isBlankLine, Text.trim_eq_self h.head h.last]

theorem Padding.notMem {c : Char} (hc : Text.isBlank c = false) (p : Padding) : c ∉ p.chars := by
  intro hmem
  rw [p.isBlankLine c hmem] at hc
  cases hc

theorem Padded.notMem {c : Char} {p : Padded} (hc : Text.isBlank c = false)
    (h : c ∉ p.text.toList) : c ∉ p.chars := by
  simp [Padded.chars, h, p.before.notMem hc, p.behind.notMem hc]

theorem Padded.oneLine {p : Padded} (h : IsTight p.text) : '\n' ∉ p.chars := by
  simp [Padded.chars, h.oneLine, p.before.oneLine, p.behind.oneLine]

namespace Row

variable {row : Row}

theorem lineFeed_notMem (h : ∀ e ∈ row.written?, IsWritableEntry e.1 e.2) : '\n' ∉ row.chars := by
  cases row with
  | blank padding => exact padding.oneLine
  | comment padding text oneLine => simp [chars, padding.oneLine, oneLine]
  | property path value =>
    have hentry := h _ rfl
    simp [chars, Padded.oneLine hentry.path_tight, Padded.oneLine hentry.value_tight]

/-- The first character of such a line is that of the path, or the `=` behind an empty one. -/
theorem not_isComment_property {path value : Padded} (h : IsWritableEntry path.text value.text) :
    ¬ IsComment (property path value).chars := by
  rw [isComment_iff, chars, Padded.chars, List.append_assoc, List.append_assoc,
    Text.trim_append_of_isBlank path.before.isBlankLine]
  cases htext : path.text.toList with
  | nil =>
    have hequals : Text.isBlank '=' = false := by decide
    rw [List.nil_append, Text.trim_append_of_isBlank path.behind.isBlankLine,
      ← List.nil_append ('=' :: _), Text.trim_append_cons hequals]
    simp
  | cons c text =>
    have hhead : path.text.toList.head? = some c := by rw [htext]; rfl
    have hc : c ≠ '#' := fun heq => h.head_ne (heq ▸ hhead)
    rw [List.cons_append, ← List.nil_append (c :: _),
      Text.trim_append_cons (h.path_tight.head c hhead)]
    simpa using hc

theorem not_isInvalid (row : Row) : ¬ IsInvalid row.chars := by
  rintro ⟨hblank, hcomment, hequals⟩
  cases row with
  | blank padding => exact hblank padding.isBlankLine
  | comment padding text _ => exact hcomment ⟨padding.chars, text, rfl, padding.isBlankLine⟩
  | property path value => exact hequals (by simp [chars])

/-- A line says the entry that it is there for. -/
theorem lineProperty?_chars (h : ∀ e ∈ row.written?, IsWritableEntry e.1 e.2) :
    lineProperty? row.chars = row.written? := by
  cases row with
  | blank padding => exact lineProperty?_of_nothing (.inl padding.isBlankLine)
  | comment padding text _ =>
    exact lineProperty?_of_nothing (.inr ⟨padding.chars, text, rfl, padding.isBlankLine⟩)
  | property path value =>
    have hentry := h _ rfl
    have hleft : '=' ∉ path.chars := Padded.notMem (by decide) hentry.equals_notMem
    rw [chars, lineProperty?_of_separator hleft (not_isComment_property hentry),
      Padded.trim_chars hentry.path_tight, Padded.trim_chars hentry.value_tight,
      String.ofList_toList, String.ofList_toList]
    rfl

end Row

/-- A file reads as its rows, of which the last one for each path counts. -/
theorem readLines_fileText {rows : List Row}
    (h : ∀ e ∈ rows.filterMap Row.written?, IsWritableEntry e.1 e.2) :
    readLines (fileText rows) = .ok (Dictionary.ofList (rows.filterMap Row.written?)) := by
  rcases eq_or_ne rows [] with rfl | hne
  · rfl
  have hrow : ∀ row ∈ rows, ∀ e ∈ row.written?, IsWritableEntry e.1 e.2 :=
    fun row hrow e he => h e (List.mem_filterMap.mpr ⟨row, hrow, he⟩)
  have hlines : (fileText rows).toList.splitOn '\n' = rows.map Row.chars := by
    rw [fileText, String.toList_ofList]
    refine List.splitOn_intercalate '\n' (fun line hline => ?_) (by simpa using hne)
    obtain ⟨row, hmem, rfl⟩ := List.mem_map.mp hline
    exact Row.lineFeed_notMem (hrow row hmem)
  have hentries : (rows.map Row.chars).filterMap lineProperty? = rows.filterMap Row.written? := by
    rw [List.filterMap_map]
    exact List.filterMap_congr fun row hmem => Row.lineProperty?_chars (hrow row hmem)
  rw [readLines, hlines, readLinesFrom_ok, hentries]
  · rfl
  · intro line hline
    obtain ⟨row, -, rfl⟩ := List.mem_map.mp hline
    exact row.not_isInvalid

/-- **Property files.** Take a property set in which no path and no value has white space at an end
or a line feed in it, and no path has a `=` in it or starts with `#`. Written with one line for each
entry, in any order, with white space around path and value, and with blank lines and comments
anywhere, it is read back as it is. A text is refused if and only if it has a line that is neither
blank nor a comment and has no `=`. -/
theorem property_files :
    (∀ (s : PropertySet) (rows : List Row), s.IsWritable →
      (rows.filterMap Row.written?).Perm s.entries → readLines (fileText rows) = .ok s) ∧
    ∀ text : String, (∃ e, readLines text = .error e) ↔
      ∃ line ∈ text.toList.splitOn '\n', ¬ IsBlankLine line ∧ ¬ IsComment line ∧ '=' ∉ line := by
  refine ⟨fun s rows hs hrows => ?_, fun text => exists_readLines_eq_error_iff⟩
  rw [readLines_fileText fun e he => hs e (hrows.mem_iff.mp he), Dictionary.ofList_eq_of_perm hrows]

/-- An empty path, a value with further `=` and `#` in it and an empty value, written in another
order than that of the paths and with line ends of two kinds. -/
theorem property_files_sample :
    let bare : Padding := ⟨[], by decide, by decide⟩
    let tab : Padding := ⟨[' ', '\t'], by decide, by decide⟩
    let lineEnd : Padding := ⟨['\r'], by decide, by decide⟩
    let s : PropertySet := .ofList [("", "#1"), ("Params.can1step", ""), ("a b", "x=y = #z")]
    let rows : List Row :=
      [.comment tab "a=1".toList (by decide),
        .property ⟨tab, "a b", bare⟩ ⟨tab, "x=y = #z", lineEnd⟩,
        .blank lineEnd,
        .property ⟨bare, "Params.can1step", tab⟩ ⟨bare, "", bare⟩,
        .property ⟨bare, "", tab⟩ ⟨bare, "#1", bare⟩,
        .blank bare]
    fileText rows = " \t#a=1\n \ta b= \tx=y = #z\r\n\r\nParams.can1step \t=\n \t=#1\n" ∧
      s.IsWritable ∧ (rows.filterMap Row.written?).Perm s.entries ∧
      readLines (fileText rows) = .ok s :=
  ⟨by decide, by decide, by decide, property_files.1 _ _ (by decide) (by decide)⟩

end TanDialog.PropertySet
