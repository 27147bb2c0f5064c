import Spreadsheet.CommandLine
import Spreadsheet.Proofs.Range.Text
import Spreadsheet.Proofs.Sheet.Entering
import Spreadsheet.Proofs.Text.Blank
import Spreadsheet.Proofs.Text.Cut

/-! What a sheet file and the assignments after it make of a sheet: their contents are entered one
after the other, and the first line of the file that names no cell is told with its number. -/

namespace Spreadsheet.CommandLine

open Text (firstVisible? isBlank)

variable {sheet : Sheet} {path name : String}

section Lines

/-- An entry of a sheet file: a name, a space or a tab, and a content. The name ends at the first
space or tab of the line, and blanks that the line ends with belong to neither part. -/
structure Entry where
  name : List Char
  separator : Char
  content : List Char
  separates : separator = ' ' ∨ separator = '\t'
  unseparated : ∀ char ∈ name, char ≠ ' ' ∧ char ≠ '\t'
  oneLine : '\n' ∉ name ++ separator :: content
  starts : ∀ first ∈ content.head?, isBlank first = false
  ends : ∀ last ∈ (name ++ content).getLast?, isBlank last = false
  /-- The line is neither blank nor a comment. -/
  visible : ∃ first, firstVisible? (name ++ separator :: content) = some first ∧ first ≠ '#'

/-- The line that an entry stands on. -/
def Entry.text (entry : Entry) : List Char :=
  entry.name ++ entry.separator :: entry.content

/-- The name of an entry and the content that is entered under it. -/
def Entry.call (entry : Entry) : String × String :=
  (String.ofList entry.name, String.ofList entry.content)

/-- A line of a sheet file. -/
inductive FileLine where
  | blank (text : List Char) (oneLine : '\n' ∉ text) (invisible : firstVisible? text = none)
  | comment (text : List Char) (oneLine : '\n' ∉ text) (marked : firstVisible? text = some '#')
  | entry (parts : Entry)

namespace FileLine

/-- The characters of a line. -/
def text : FileLine → List Char
  | .blank text _ _ | .comment text _ _ => text
  | .entry parts => parts.text

/-- The name and the content of a line that has them. -/
def call? : FileLine → Option (String × String)
  | .blank _ _ _ | .comment _ _ _ => none
  | .entry parts => some parts.call

/-- No line feed stands on a line. -/
theorem not_mem_text : ∀ line : FileLine, '\n' ∉ line.text
  | .blank _ oneLine _ => oneLine
  | .comment _ oneLine _ => oneLine
  | .entry parts => parts.oneLine

end FileLine

/-- What stands between two lines. -/
inductive LineBreak where
  | lineFeed
  | carriageReturn

/-- What a line break has in front of the line feed. -/
def LineBreak.blanks : LineBreak → List Char
  | .lineFeed => []
  | .carriageReturn => ['\r']

/-- The text of a sheet file: its lines, each but the last with the break behind it. -/
def joined : List (FileLine × LineBreak) → List Char
  | [] => []
  | [(line, _)] => line.text
  | (line, ending) :: next :: rest => line.text ++ ending.blanks ++ '\n' :: joined (next :: rest)

/-- The names and the contents of a sheet file's entries. -/
def entered (file : List (FileLine × LineBreak)) : List (String × String) :=
  file.filterMap fun line => line.1.call?

/-- A line has at most one thing to enter, before those after it. -/
theorem entered_cons (line : FileLine) (ending : LineBreak)
    (rest : List (FileLine × LineBreak)) :
    entered ((line, ending) :: rest) = line.call?.toList ++ entered rest := by
  unfold entered
  cases call : line.call? with
  | none => exact List.filterMap_cons_none call
  | some given => exact List.filterMap_cons_some call

end Lines

section Reading

variable {line blanks : List Char}

/-- A line without anything visible and a comment are skipped. -/
theorem SheetLine.read_of_idle (idle : firstVisible? line = none ∨ firstVisible? line = some '#') :
    SheetLine.read line = .skipped := by
  -- What is looked at is the first character after the blanks, be it cut at the end or not.
  have first := Text.head?_trimStart (Text.trimEnd line)
  rw [Text.firstVisible?_trimEnd] at first
  unfold SheetLine.read
  dsimp only
  cases start : Text.trimStart (Text.trimEnd line) with
  | nil => rfl
  | cons char rest =>
    rw [start, List.head?_cons] at first
    rw [← first] at idle
    obtain rfl : char = '#' := by simpa using idle
    rfl

/-- Any other line is cut in two at its first space or tab. -/
theorem SheetLine.read_of_visible {first : Char} (visible : firstVisible? line = some first)
    (plain : first ≠ '#') : SheetLine.read line =
      match Text.cutAt? (fun char => char == ' ' || char == '\t') (Text.trimEnd line) with
      | some (name, content) =>
        .entry (String.ofList name) (String.ofList (Text.trimStart content))
      | none => .entry (String.ofList (Text.trimEnd line)) "" := by
  have start := Text.head?_trimStart (Text.trimEnd line)
  rw [Text.firstVisible?_trimEnd, visible] at start
  obtain ⟨rest, whole⟩ := List.head?_eq_some_iff.mp start
  unfold SheetLine.read
  simp only [whole]
  -- The line goes on with its first visible character, which is no hash.
  split
  · contradiction
  · simp_all
  · rfl

/-- A line of an entry ends with its content, and with its name if that is empty. -/
theorem Entry.trimEnd_text (entry : Entry) :
    Text.trimEnd entry.text = if entry.content = [] then entry.name else entry.text := by
  have ends := entry.ends
  -- The separator is a blank, so it goes with an empty content and stays before any other.
  split
  · -- The separator is cut off with the blanks.
    rename_i empty
    rw [empty, List.append_nil] at ends
    have separator : ∀ char ∈ [entry.separator], isBlank char = true := by
      rw [List.forall_mem_singleton]
      rcases entry.separates with tell | tell <;> rw [tell] <;> rfl
    rw [text, empty, Text.trimEnd_append separator, Text.trimEnd_eq_self ends]
  · -- The name has no say in how the line ends.
    rename_i nonempty
    rw [List.getLast?_append_of_ne_nil _ nonempty] at ends
    apply Text.trimEnd_eq_self
    rwa [text, List.getLast?_append_cons, List.getLast?_cons_of_ne_nil nonempty]

/-- An entry is read as its name and its content, whatever blanks come behind it. -/
theorem SheetLine.read_entry (entry : Entry) (blank : ∀ char ∈ blanks, isBlank char = true) :
    SheetLine.read (entry.text ++ blanks) = .entry entry.call.1 entry.call.2 := by
  obtain ⟨first, visible, plain⟩ := entry.visible
  have seen := (Text.firstVisible?_append blank entry.text).trans visible
  have unstopped : ∀ char ∈ entry.name, (char == ' ' || char == '\t') = false := by
    intro char member
    simpa using entry.unseparated char member
  rw [read_of_visible seen plain, Text.trimEnd_append blank, entry.trimEnd_text]
  -- The name has no separator in it, so the line is cut behind the name or not at all.
  by_cases empty : entry.content = []
  · rw [if_pos empty, Text.cutAt?_eq_none unstopped, Entry.call, empty]
  · have stop : (entry.separator == ' ' || entry.separator == '\t') = true := by
      simpa using entry.separates
    have kept : Text.trimStart entry.content = entry.content :=
      Text.dropWhile_isBlank entry.starts
    rw [if_neg empty, Entry.text, Text.cutAt?_append unstopped stop]
    exact congrArg (fun content => SheetLine.entry _ (String.ofList content)) kept

/-- A line is read as what it has to enter, whatever blanks come behind it. -/
theorem SheetLine.read_line (line : FileLine) (blank : ∀ char ∈ blanks, isBlank char = true) :
    SheetLine.read (line.text ++ blanks) =
      line.call?.elim .skipped fun call => .entry call.1 call.2 := by
  cases line with
  | blank text _ invisible =>
    exact read_of_idle (.inl ((Text.firstVisible?_append blank text).trans invisible))
  | comment text _ marked =>
    exact read_of_idle (.inr ((Text.firstVisible?_append blank text).trans marked))
  | entry parts => exact read_entry parts blank

end Reading

section Loading

variable {file before : List (FileLine × LineBreak)}

/-- The failure of a line of a file, whose name is refused. -/
def misnamed (path : String) (number : Nat) (name : String) (fault : SheetFault) : Failure :=
  ⟨path ++ ":" ++ number.repr ++ ": invalid cell '" ++ name ++ "'", [fault.message]⟩

/-- A line break ends a line with blanks only. -/
theorem LineBreak.isBlank_blanks : ∀ ending : LineBreak,
    ∀ char ∈ ending.blanks, isBlank char = true
  | .lineFeed, _, member => nomatch member
  | .carriageReturn, _, member => by
    rw [List.mem_singleton.mp member]
    rfl

/-- Enters what a line has to enter, and goes on with the sheet after that. -/
def enterLine (path : String) (number : Nat) (later : Sheet → Except Failure Sheet)
    (sheet : Sheet) : Option (String × String) → Except Failure Sheet
  | none => later sheet
  | some call =>
    match sheet.setNamed call.1 call.2 with
    | .ok changed => later changed
    | .error fault => .error (misnamed path number call.1 fault)

/-- A line is entered before those after it, whatever blanks it ends with. -/
theorem loadLines_line {blanks : List Char} (blank : ∀ char ∈ blanks, isBlank char = true)
    (path : String) (number : Nat) (line : FileLine) (rest : List (List Char)) (sheet : Sheet) :
    loadLines path number ((line.text ++ blanks) :: rest) sheet =
      enterLine path number (loadLines path (number + 1) rest) sheet line.call? := by
  rw [loadLines, SheetLine.read_line line blank]
  cases line.call? with
  | none => rfl
  | some call => rfl

/-- The first line of a file is entered before the others. -/
theorem loadLines_cons (path : String) (number : Nat) (line : FileLine) (ending : LineBreak)
    (rest : List (FileLine × LineBreak)) (sheet : Sheet) :
    loadLines path number (Text.lines (joined ((line, ending) :: rest))) sheet =
      enterLine path number (loadLines path (number + 1) (Text.lines (joined rest))) sheet
        line.call? := by
  cases rest with
  | nil =>
    -- No text is one line with nothing on it, which is skipped.
    have nothing : ∀ char ∈ ([] : List Char), isBlank char = true := by simp
    have last := loadLines_line nothing path number line [] sheet
    rwa [List.append_nil, ← Text.lines_eq_singleton line.not_mem_text] at last
  | cons next rest =>
    -- The line goes up to the line feed of its break.
    have whole : '\n' ∉ line.text ++ ending.blanks := by
      rw [List.mem_append]
      rintro (member | member)
      · exact line.not_mem_text member
      · cases ending <;> simp [LineBreak.blanks] at member
    rw [joined, Text.lines_append whole]
    exact loadLines_line ending.isBlank_blanks path number line _ sheet

/-- The lines after those whose names are all those of cells are entered into the sheet that these
make, and counted from their number on. -/
theorem loadLines_append {reached : Sheet}
    (succeeds : Sheet.setAll (entered before) sheet = .ok reached) (path : String) (number : Nat)
    (rest : List (FileLine × LineBreak)) :
    loadLines path number (Text.lines (joined (before ++ rest))) sheet =
      loadLines path (number + before.length) (Text.lines (joined rest)) reached := by
  -- The induction is on the lines before, the first of which makes the sheet for the others.
  induction before generalizing sheet number with
  | nil =>
    obtain rfl : sheet = reached := Except.ok.inj succeeds
    rfl
  | cons first before ih =>
    obtain ⟨line, ending⟩ := first
    rw [List.cons_append, loadLines_cons, List.length_cons, Nat.add_comm before.length,
      ← Nat.add_assoc]
    rw [entered_cons] at succeeds
    cases call : line.call? with
    | none =>
      rw [call] at succeeds
      exact ih succeeds (number + 1)
    | some given =>
      rw [call, Option.toList_some, List.singleton_append, Sheet.setAll_cons] at succeeds
      obtain ⟨changed, done, later⟩ := exists_ok_of_bind succeeds
      rw [enterLine, done]
      exact ih later (number + 1)

/-- A file whose names are all those of cells makes the sheet that its entries make in turn. -/
theorem loadLines_joined {filled : Sheet}
    (succeeds : Sheet.setAll (entered file) sheet = .ok filled) (path : String) (number : Nat) :
    loadLines path number (Text.lines (joined file)) sheet = .ok filled := by
  have whole := loadLines_append succeeds path number []
  rwa [List.append_nil] at whole

/-- Where some entry of a file names no cell there is a first one, behind entries that do. -/
theorem exists_first_unnamed (unnamed : ∃ call ∈ entered file, ¬ sheet.HasNamed call.1) :
    ∃ before entry ending after, file = before ++ (FileLine.entry entry, ending) :: after ∧
      (∀ call ∈ entered before, sheet.HasNamed call.1) ∧ ¬ sheet.HasNamed entry.call.1 := by
  -- The file is gone through until a line has a name that is none.
  induction file with
  | nil => exact absurd unnamed (by simp [entered])
  | cons first rest ih =>
    obtain ⟨line, ending⟩ := first
    by_cases here : ∀ call ∈ line.call?.toList, sheet.HasNamed call.1
    · -- The first one is behind this line, which is entered before it.
      obtain ⟨call, member, fails⟩ := unnamed
      rw [entered_cons, List.mem_append] at member
      have later := member.resolve_left fun first => fails (here call first)
      obtain ⟨before, entry, place, after, whole, named, first⟩ := ih ⟨call, later, fails⟩
      refine ⟨(line, ending) :: before, entry, place, after, congrArg _ whole, ?_, first⟩
      rw [entered_cons]
      exact List.forall_mem_append.mpr ⟨here, named⟩
    · -- Only an entry can have a name that is none.
      cases line with
      | blank => exact absurd here (by simp [FileLine.call?])
      | comment => exact absurd here (by simp [FileLine.call?])
      | entry parts =>
        have first : ¬ sheet.HasNamed parts.call.1 := by simpa [FileLine.call?] using here
        exact ⟨[], parts, ending, rest, rfl, by simp [entered], first⟩

end Loading

section Assigning

/-- The text that enters a content under a name. -/
def assignmentText (call : String × String) : String :=
  call.1 ++ "=" ++ call.2

/-- An assignment to an address enters all that stands behind its first equals sign. -/
theorem assign_of_parse {address : Address} (parsed : Address.parse name = .ok address)
    (content : String) (sheet : Sheet) : assign sheet (assignmentText (name, content)) =
      (sheet.setNamed name content).mapError
        fun fault => ⟨"Invalid cell '" ++ name ++ "'", [fault.message]⟩ := by
  -- An address has no equals sign and no blank in it.
  have spelled := Address.isUpper_or_isDigit_of_parse parsed
  have unstopped : ∀ char ∈ name.toList, (char == '=') = false := by
    intro char member
    rw [beq_eq_false_iff_ne]
    rintro rfl
    exact (spelled _ member).elim nofun nofun
  have visible : ∀ char ∈ name.toList, isBlank char = false := fun char member =>
    (spelled char member).elim Text.not_isBlank_of_isUpper Text.not_isBlank_of_isDigit
  have text : (assignmentText (name, content)).toList = name.toList ++ '=' :: content.toList := by
    simp [assignmentText]
  unfold assign
  rw [text, Text.cutAt?_append unstopped rfl]
  simp only [Text.trim_of_visible visible, String.ofList_toList]
  cases sheet.setNamed name content with
  | ok changed => rfl
  | error fault => rfl

/-- Assignments to cells enter their contents in turn. -/
theorem assignAll_map {calls : List (String × String)} {filled : Sheet}
    (succeeds : Sheet.setAll calls sheet = .ok filled) :
    assignAll (calls.map assignmentText) sheet = .ok filled := by
  -- Each assignment makes the sheet that the others start from.
  induction calls generalizing sheet with
  | nil =>
    obtain rfl : sheet = filled := Except.ok.inj succeeds
    rfl
  | cons call rest ih =>
    rw [Sheet.setAll_cons] at succeeds
    obtain ⟨changed, done, later⟩ := exists_ok_of_bind succeeds
    obtain ⟨address, named, _⟩ := exists_ok_of_bind done
    have entered := assign_of_parse (eq_ok_of_mapError named) call.2 sheet
    rw [done] at entered
    rw [List.map_cons, assignAll, List.foldlM_cons, entered]
    exact ih later

end Assigning

/-- A sheet file and the assignments after it enter their contents in turn, blank lines and comments
counting for nothing. Where all names are those of cells the sheet is the one that these calls make,
so that each cell holds what was entered into it last. Where an entry of the file names no cell, the
first one that does not is told, with its number among all lines. -/
theorem loadFile_joined {read : String → Except String String}
    {file : List (FileLine × LineBreak)} (found : read path = .ok (String.ofList (joined file)))
    (assignments : List (String × String)) (sheet : Sheet) :
    let calls := entered file ++ assignments
    ((∀ call ∈ calls, sheet.HasNamed call.1) →
      ∃ filled, sheet.setAll calls = .ok filled ∧
        loadFile read sheet path >>= assignAll (assignments.map assignmentText) = .ok filled ∧
        ∀ address, (filled.cellAt? address).map Cell.content = (sheet.cellAt? address).map
          fun cell => (Sheet.lastEntered? calls address).getD cell.content) ∧
      ((∃ call ∈ entered file, ¬ sheet.HasNamed call.1) →
        ∃ before entry ending after reached fault,
          file = before ++ (FileLine.entry entry, ending) :: after ∧
          (∀ call ∈ entered before, sheet.HasNamed call.1) ∧ ¬ sheet.HasNamed entry.call.1 ∧
          sheet.setAll (entered before) = .ok reached ∧
          reached.setNamed entry.call.1 entry.call.2 = .error fault ∧
          loadFile read sheet path = .error ⟨path ++ ":" ++ (before.length + 1).repr ++
            ": invalid cell '" ++ entry.call.1 ++ "'", [fault.message]⟩) := by
  intro calls
  have loaded : loadFile read sheet path = loadLines path 1 (Text.lines (joined file)) sheet := by
    rw [loadFile, found]
    exact congrArg (fun text => loadLines path 1 (Text.lines text) sheet) String.toList_ofList
  constructor
  · intro named
    obtain ⟨filled, succeeds, _⟩ := Sheet.exists_setAll named
    refine ⟨filled, succeeds, ?_, Sheet.content_setAll succeeds⟩
    rw [Sheet.setAll_append] at succeeds
    obtain ⟨reached, lines, later⟩ := exists_ok_of_bind succeeds
    rw [loaded, loadLines_joined lines]
    exact assignAll_map later
  · intro unnamed
    obtain ⟨before, entry, ending, after, whole, named, first⟩ := exists_first_unnamed unnamed
    obtain ⟨reached, succeeds, size⟩ := Sheet.exists_setAll named
    -- What the entries before it make has the same grid, so the name is refused there as well.
    obtain ⟨fault, refused⟩ := Sheet.exists_fault_setNamed
      (fun there => first ((Sheet.hasNamed_congr size).mp there)) entry.call.2
    refine ⟨before, entry, ending, after, reached, fault, whole, named, first, succeeds, refused,
      ?_⟩
    rw [loaded, whole, loadLines_append succeeds, loadLines_cons, FileLine.call?, enterLine,
      refused, Nat.add_comm 1]
    rfl

/-- A comment, a blank line and three entries, the last of them for the cell of the first. -/
def mixedFile : List (FileLine × LineBreak) :=
  [(.comment "  # A1 x".toList (by decide) (by decide), .carriageReturn),
    (.blank [] (by decide) rfl, .carriageReturn),
    (.entry ⟨['A', '1'], ' ', "x = #1".toList, .inl rfl, by simp, by decide,
      by rintro _ ⟨⟩; rfl, by rintro _ ⟨⟩; rfl, 'A', by decide, by decide⟩, .lineFeed),
    (.entry ⟨['B', '2'], '\t', [], .inr rfl, by simp, by decide,
      by rintro _ ⟨⟩, by rintro _ ⟨⟩; rfl, 'B', by decide, by decide⟩, .carriageReturn),
    (.entry ⟨['A', '1'], '\t', "a\t# b".toList, .inr rfl, by simp, by decide,
      by rintro _ ⟨⟩; rfl, by rintro _ ⟨⟩; rfl, 'A', by decide, by decide⟩, .lineFeed)]

/-- The file and behind it an assignment with two equals signs, which is the last one for its cell;
in a grid of one row the fourth line is refused. -/
theorem loadFile_mixedFile :
    let text := "  # A1 x\r\n\r\nA1 x = #1\nB2\t\r\nA1\ta\t# b"
    let read : String → Except String String := fun _ => .ok text
    text = String.ofList (joined mixedFile) ∧
      (∃ filled, loadFile read (Sheet.ofSize 2 2) "cells" >>= assignAll ["A1==B1"] = .ok filled ∧
        filled.source? ⟨1, 1⟩ = some "B1") ∧
      ∃ failure, loadFile read (Sheet.ofSize 1 2) "cells" = .error failure ∧
        failure.context = "cells:4: invalid cell 'B2'" := by
  intro text read
  have spelled : read "cells" = .ok (String.ofList (joined mixedFile)) := by decide
  have calls : entered mixedFile = [("A1", "x = #1"), ("B2", ""), ("A1", "a\t# b")] := by decide
  have first : (Sheet.ofSize 2 2).HasNamed "A1" := ⟨⟨1, 1⟩, by decide, by decide⟩
  have second : (Sheet.ofSize 2 2).HasNamed "B2" := ⟨⟨2, 2⟩, by decide, by decide⟩
  refine ⟨by decide, ?_, ?_⟩
  · obtain ⟨filled, _, loaded, contents⟩ :=
      (loadFile_joined spelled [("A1", "=B1")] (Sheet.ofSize 2 2)).1
        (by simp [calls, first, second])
    refine ⟨filled, loaded, ?_⟩
    have last : (filled.cellAt? ⟨1, 1⟩).map Cell.content = some "=B1" :=
      (contents ⟨1, 1⟩).trans (by decide)
    obtain ⟨cell, found, held⟩ := Option.map_eq_some_iff.mp last
    rw [Sheet.source?, found, Option.bind_some, Cell.source?, held]
    decide
  · have outside : ¬ (Sheet.ofSize 1 2).HasNamed "B2" := by
      rintro ⟨address, parsed, inside⟩
      have place : Address.parse "B2" = .ok ⟨2, 2⟩ := by decide
      obtain rfl := Except.ok.inj (place.symm.trans parsed)
      exact absurd inside (by decide)
    obtain ⟨before, entry, _, _, _, _, whole, named, bad, _, _, failed⟩ :=
      (loadFile_joined spelled [] (Sheet.ofSize 1 2)).2 ⟨("B2", ""), by simp [calls], outside⟩
    refine ⟨_, failed, ?_⟩
    have inside : (Sheet.ofSize 1 2).HasNamed "A1" := ⟨⟨1, 1⟩, by decide, by decide⟩
    -- The lines before the fourth are no entries or name a cell, and any later one comes after it.
    rcases before with _ | ⟨_, _ | ⟨_, _ | ⟨_, _ | ⟨_, before⟩⟩⟩⟩
    · cases whole
    · cases whole
    · cases whole
      exact absurd inside bad
    · cases whole
      rfl
    · injection whole with _ whole
      injection whole with _ whole
      injection whole with _ whole
      injection whole with fourth _
      subst fourth
      exact absurd (named ("B2", "") (by simp [entered, FileLine.call?, Entry.call])) outside

/-- A name may end in a blank that is no separator. Without a content behind it the blank is cut off
the line together with the separator, and so what is left may name a cell, though the name did
not. -/
theorem loadFile_blankBehindName :
    let name := "A1\u00a0"
    let read : String → Except String String := fun _ => .ok (name ++ " ")
    ¬ (Sheet.ofSize 1 1).HasNamed name ∧
      ∃ filled, loadFile read (Sheet.ofSize 1 1) "cells" = .ok filled := by
  refine ⟨?_, ?_⟩
  · rintro ⟨address, parsed, _⟩
    have bad : Address.parse "A1\u00a0" = .error (.badRow "A1\u00a0") := by decide
    exact nomatch bad.symm.trans parsed
  · exact ⟨_, rfl⟩

end Spreadsheet.CommandLine
