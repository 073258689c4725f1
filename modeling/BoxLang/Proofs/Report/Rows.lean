import Mathlib.Data.List.DropRight
import BoxLang.Proofs.Report.Places

/-!
# The rows of a snippet

What the rows of a snippet say without their paint: the place that the span starts at, the line
of the source text, with its characters but not its white space as they are, and the message.
Below a line that holds the whole span, the first mark is below the character that the span
starts with, as many columns to the right as what is shown before it takes.  A span that ends
after the last line it reaches has no message.
-/

namespace BoxLang.Report

/-- Lines of text, each with its end. -/
def unlines (lines : List (List Char)) : List Char :=
  lines.flatMap fun line => line ++ ['\n']

/-- The text of a row without its paint. -/
def Row.text (row : Row) : List Char :=
  row.flatMap Piece.text

/-- The characters that are not white space. -/
def inked (chars : List Char) : List Char :=
  chars.filter fun char => !CharSet.whiteSpace.contains char

def blanks (count : Nat) : List Char :=
  List.replicate count ' '

def locationLine (indent line column : Nat) : List Char :=
  blanks indent ++ '╭' :: '─' :: '[' :: (" <unknown>:".toList ++
    (Nat.toDigits 10 line ++ ':' :: (Nat.toDigits 10 column ++ [' ', ']'])))

def marginLine (indent : Nat) : List Char :=
  blanks indent ++ ['│']

def sourceLine (padding line : Nat) (arrow shown : List Char) : List Char :=
  blanks padding ++ (Nat.toDigits 10 line ++ ' ' :: '│' :: ' ' :: (arrow ++ shown))

def markLine (indent : Nat) (marks : List Char) : List Char :=
  blanks indent ++ '│' :: ' ' :: marks

def labelLine (indent : Nat) (lead message : List Char) : List Char :=
  markLine indent (lead ++ ' ' :: message)

/-- What is shown of a character at a position of its line. -/
def shownAt (char : Char) (position : Nat) : List Char :=
  if char = '\t' then blanks (SourceLine.tabWidth position)
  else if CharSet.whiteSpace.contains char then [' '] else [char]

/-- What is shown of the first characters of a line, with blanks for the white space at its end
and for all that could follow it. -/
def shownFront (chars : List Char) (count : Nat) : List Char :=
  ((chars.rdropWhile CharSet.whiteSpace.contains ++ blanks count).zipIdx.take count).flatMap
    fun entry => shownAt entry.1 entry.2

/-- The columns that a text takes. -/
def width : List Char → Nat
  | [] => 0
  | char :: rest => columns char + width rest

/-- Below a line that is shown, the first mark is below the character at a column, and the label
does not start further to the left. -/
structure MarkedAt (shown chars : List Char) (column : Nat) (marks lead : List Char) : Prop where
  isShown : shownFront chars column <+: shown ++ blanks column
  unmarked : blanks (width (shownFront chars (column - 1))) <+: marks
  /-- There is nothing below a character that takes no column. -/
  marked : width (shownFront chars (column - 1)) < width (shownFront chars column) →
    ∃ mark ∈ ['┬', '─', '│'], marks[width (shownFront chars (column - 1))]? = some mark
  unlabelled : blanks (width (shownFront chars (column - 1))) <+: lead

/-- The start of a span is marked below the line that is shown, or by an arrow in front of it if
the span goes on in another line. -/
inductive Marked (indent : Nat) (shown chars : List Char) (column : Nat) :
    List Char → List (List Char) → List Char → Prop
  | below {marks lead : List Char} : MarkedAt shown chars column marks lead →
      Marked indent shown chars column [] [markLine indent marks] lead
  | inFront {above : List (List Char)} {lead : List Char} :
      Marked indent shown chars column ['╭', '─', '▶', ' '] above lead

section Rows

@[simp] theorem text_append (first second : Row) :
    Row.text (first ++ second) = Row.text first ++ Row.text second :=
  List.flatMap_append

@[simp] theorem text_cons (piece : Piece) (row : Row) :
    Row.text (piece :: row) = piece.text ++ Row.text row :=
  List.flatMap_cons

@[simp] theorem text_nil : Row.text [] = [] := rfl

@[simp] theorem text_plain (chars : List Char) : (Piece.plain chars).text = chars := rfl

@[simp] theorem text_painted (colour : Colour) (chars : List Char) :
    (Piece.painted colour chars).text = chars := rfl

@[simp] theorem text_spaces (count : Nat) : (Piece.spaces count).text = blanks count := rfl

@[simp] theorem text_border (char : Char) : (Piece.border char).text = [char] := rfl

@[simp] theorem text_label (char : Char) : (Piece.label char).text = [char] := rfl

@[simp] theorem text_labels (chars : List Char) : Row.text (Piece.labels chars) = chars := by
  rw [Row.text, Piece.labels, List.flatMap_map]
  exact List.flatMap_singleton' chars

theorem text_replicate (count : Nat) (colour : Option Colour) (char : Char) :
    Row.text (List.replicate count ⟨colour, [char]⟩) = List.replicate count char := by
  induction count with
  | zero => rfl
  | succ count inductionHypothesis =>
      rw [List.replicate_succ, text_cons, inductionHypothesis, List.replicate_succ]
      rfl

theorem toList_write (rows : List Row) :
    (write false rows).toList = unlines (rows.map Row.text) := by
  rw [write, String.toList_ofList, unlines, List.flatMap_map]
  rfl

theorem mem_unlines {char : Char} (different : char ≠ '\n') {lines : List (List Char)} :
    char ∈ unlines lines ↔ ∃ line ∈ lines, char ∈ line := by
  simp [unlines, List.mem_flatMap, different]

theorem blanks_add (first second : Nat) : blanks first ++ blanks second = blanks (first + second) :=
  List.replicate_append_replicate

end Rows

section Snippets

variable {snippet : Snippet}

theorem text_margin (snippet : Snippet) :
    Row.text snippet.margin = blanks (snippet.numberWidth + 2) ++ ['│', ' '] := by
  rw [show snippet.numberWidth + 2 = 1 + (snippet.numberWidth + 1) by omega, ← blanks_add]
  simp [Snippet.margin, Snippet.marginOf, blanks]

theorem text_top (snippet : Snippet) :
    snippet.top.map Row.text =
      [locationLine (snippet.numberWidth + 2) (snippet.first.index + 1)
        (snippet.span.start - snippet.first.start + 1), marginLine (snippet.numberWidth + 2)] := by
  -- The digits of numbers that are not known must not be computed.
  unfold Snippet.top Snippet.location locationLine marginLine
  generalize Nat.toDigits 10 (snippet.first.index + 1) = line
  generalize Nat.toDigits 10 (snippet.span.start - snippet.first.start + 1) = column
  generalize snippet.numberWidth + 2 = width
  simp

theorem exists_text_numberedMargin (snippet : Snippet) (line : SourceLine)
    (arrow shown : List Char) :
    ∃ padding, Row.text (snippet.numberedMargin line) ++ (arrow ++ shown) =
      sourceLine padding (line.index + 1) arrow shown := by
  refine ⟨snippet.numberWidth - (Nat.toDigits 10 (line.index + 1)).length + 1, ?_⟩
  rw [sourceLine, Nat.add_comm, ← blanks_add]
  simp [Snippet.numberedMargin, blanks]

theorem text_shownChar (snippet : Snippet) (line : SourceLine) (char : Char) (position : Nat) :
    Row.text (snippet.shownChar line char position) = shownAt char position := by
  unfold Snippet.shownChar shownAt
  dsimp only
  split
  · exact text_replicate ..
  · split <;> rfl

theorem inked_blanks (count : Nat) : inked (blanks count) = [] := by
  simp only [inked, blanks, List.filter_replicate]
  rfl

theorem inked_shownChar (snippet : Snippet) (line : SourceLine) (char : Char) (position : Nat) :
    inked (Row.text (snippet.shownChar line char position)) = inked [char] := by
  rw [text_shownChar, shownAt]
  split
  case isTrue tab =>
    rw [tab, inked_blanks]
    rfl
  case isFalse =>
    split
    case isTrue white => simp [inked, white]; decide
    case isFalse => rfl

theorem text_shownLine (snippet : Snippet) (line : SourceLine) :
    Row.text (snippet.shownLine line) =
      line.visible.zipIdx.flatMap fun entry =>
        Row.text (snippet.shownChar line entry.1 entry.2) :=
  List.flatMap_assoc

theorem inked_append (first second : List Char) :
    inked (first ++ second) = inked first ++ inked second :=
  List.filter_append ..

/-- Nothing but white space at the end of a line is left out. -/
theorem inked_visible (line : SourceLine) : inked line.visible = inked line.chars := by
  let dropped := (line.chars.reverse.takeWhile CharSet.whiteSpace.contains).reverse
  have parts : line.chars = line.visible ++ dropped := by
    rw [SourceLine.visible, ← List.reverse_append, List.takeWhile_append_dropWhile,
      List.reverse_reverse]
  have white : inked dropped = [] := by
    refine List.filter_eq_nil_iff.mpr ?_
    intro char member
    have contained := List.all_eq_true.mp List.all_takeWhile char (List.mem_reverse.mp member)
    simp [contained]
  rw [parts, inked_append, white, List.append_nil]

theorem inked_shownLine (snippet : Snippet) (line : SourceLine) :
    inked (Row.text (snippet.shownLine line)) = inked line.chars := by
  have single : ∀ chars, inked chars = chars.flatMap fun char => inked [char] := by
    intro chars
    rw [← List.flatMap_singleton' chars, inked, List.filter_flatMap, List.flatMap_singleton']
    rfl
  calc inked (Row.text (snippet.shownLine line))
      = line.visible.zipIdx.flatMap fun entry =>
          inked (Row.text (snippet.shownChar line entry.1 entry.2)) := by
        rw [text_shownLine, inked, List.filter_flatMap]
        rfl
    _ = line.visible.zipIdx.flatMap fun entry => inked [entry.1] := by
        simp only [inked_shownChar]
    _ = (line.visible.zipIdx.map Prod.fst).flatMap fun char => inked [char] := by
        rw [List.flatMap_map]
    _ = inked line.visible := by
        rw [List.zipIdx_map_fst, ← single]
    _ = inked line.chars := inked_visible line

theorem newline_not_mem_shownLine (snippet : Snippet) (line : SourceLine) :
    '\n' ∉ Row.text (snippet.shownLine line) := by
  rw [text_shownLine, List.mem_flatMap]
  rintro ⟨entry, -, member⟩
  rw [text_shownChar, shownAt] at member
  split at member
  case isTrue => exact absurd (List.eq_of_mem_replicate member) (by decide)
  case isFalse =>
    split at member
    case isTrue => exact absurd (List.mem_singleton.mp member) (by decide)
    case isFalse notWhite =>
      rw [← List.mem_singleton.mp member] at notWhite
      exact notWhite (by decide)

theorem mem_cell {char first further : Char} {colour colour' : Option Colour} {width : Nat}
    (member : char ∈ Row.text (Snippet.cell ⟨colour, [first]⟩ ⟨colour', [further]⟩ width)) :
    char = first ∨ char = further := by
  cases width with
  | zero => cases member
  | succ width =>
      rw [Snippet.cell, text_cons, text_replicate] at member
      exact (List.mem_cons.mp member).imp_right List.eq_of_mem_replicate

theorem mem_cells {char : Char} {draw : Nat → Nat → Row}
    (member : char ∈ Row.text (snippet.cells draw)) :
    ∃ width position, char ∈ Row.text (draw width position) := by
  obtain ⟨piece, memberPiece, shown⟩ := List.mem_flatMap.mp member
  obtain ⟨⟨width, position⟩, -, memberCell⟩ := List.mem_flatMap.mp memberPiece
  exact ⟨width, position, List.mem_flatMap.mpr ⟨piece, memberCell, shown⟩⟩

theorem mem_lead {char : Char} (member : char ∈ Row.text snippet.lead) :
    char = ' ' ∨ char = '─' ∨ char = '╰' := by
  obtain ⟨width, position, member⟩ := mem_cells member
  unfold Snippet.leadCell at member
  split at member
  · exact Or.inl (or_self_iff.mp (mem_cell member))
  · split at member
    · exact Or.inr (mem_cell member).symm
    · exact Or.inr (Or.inl (or_self_iff.mp (mem_cell member)))

end Snippets

section Widths

theorem width_append (first second : List Char) :
    width (first ++ second) = width first + width second := by
  induction first with
  | nil => exact (Nat.zero_add _).symm
  | cons char rest inductionHypothesis =>
      rw [List.cons_append, width, width, inductionHypothesis, Nat.add_assoc]

theorem width_blanks (count : Nat) : width (blanks count) = count := by
  have one : columns ' ' = 1 := by decide +kernel
  induction count with
  | zero => rfl
  | succ count inductionHypothesis =>
      change columns ' ' + width (blanks count) = count + 1
      rw [one, inductionHypothesis, Nat.add_comm]

theorem width_shownAt (char : Char) (position : Nat) :
    width (shownAt char position) = SourceLine.charWidth char position := by
  unfold shownAt SourceLine.charWidth
  split
  · exact width_blanks _
  · split
    · exact width_blanks 1
    · rfl

/-- Blanks are shown as they are. -/
theorem shownAt_of_mem_blanks {entry : Char × Nat} {count start : Nat}
    (member : entry ∈ (blanks count).zipIdx start) : shownAt entry.1 entry.2 = [entry.1] := by
  rw [List.eq_of_mem_replicate (List.fst_mem_of_mem_zipIdx member)]
  rfl

theorem widths_eq (line : SourceLine) (count : Nat) :
    line.widths count =
      ((line.visible ++ blanks count).zipIdx.take count).map fun entry =>
        width (shownAt entry.1 entry.2) := by
  have padding : ((blanks count).zipIdx (0 + line.visible.length)).map (fun entry =>
      width (shownAt entry.1 entry.2)) = List.replicate count 1 := by
    refine List.eq_replicate_iff.mpr ⟨by simp [blanks], ?_⟩
    intro columns member
    obtain ⟨entry, memberEntry, rfl⟩ := List.mem_map.mp member
    rw [shownAt_of_mem_blanks memberEntry,
      List.eq_of_mem_replicate (List.fst_mem_of_mem_zipIdx memberEntry)]
    exact width_blanks 1
  rw [List.map_take, List.zipIdx_append, List.map_append, padding, SourceLine.widths]
  simp only [width_shownAt]

/-- Blanks for parts of a text take as many columns as the text. -/
theorem flatMap_blanks_width {α : Type} (entries : List α) (text : α → List Char) :
    (entries.map fun entry => width (text entry)).flatMap blanks =
      blanks (width (entries.flatMap text)) := by
  induction entries with
  | nil => rfl
  | cons entry rest inductionHypothesis =>
      rw [List.map_cons, List.flatMap_cons, inductionHypothesis, blanks_add, List.flatMap_cons,
        width_append]

theorem flatMap_blanks_widths (line : SourceLine) (count : Nat) :
    (line.widths count).flatMap blanks = blanks (width (shownFront line.chars count)) := by
  rw [widths_eq, flatMap_blanks_width]
  rfl

/-- A line shows its first characters in front of all others. -/
theorem shownFront_isPrefix (snippet : Snippet) (line : SourceLine) (count : Nat) :
    shownFront line.chars count <+: Row.text (snippet.shownLine line) ++ blanks count := by
  have padding : ((blanks count).zipIdx (0 + line.visible.length)).flatMap (fun entry =>
      shownAt entry.1 entry.2) = blanks count := by
    rw [List.flatMap_congr fun entry => shownAt_of_mem_blanks, ← List.map_eq_flatMap,
      List.zipIdx_map_fst]
  have whole : Row.text (snippet.shownLine line) ++ blanks count =
      (line.visible ++ blanks count).zipIdx.flatMap fun entry => shownAt entry.1 entry.2 := by
    rw [List.zipIdx_append, List.flatMap_append, padding, text_shownLine]
    simp only [text_shownChar]
  obtain ⟨rest, split⟩ := List.take_prefix count (line.visible ++ blanks count).zipIdx
  rw [whole, ← split, List.flatMap_append]
  exact List.prefix_append _ _

theorem length_widths (line : SourceLine) (count : Nat) : (line.widths count).length = count := by
  simp [SourceLine.widths]

theorem take_widths (line : SourceLine) {count total : Nat} (le : count ≤ total) :
    (line.widths total).take count = line.widths count := by
  rw [SourceLine.widths, SourceLine.widths, List.take_take, Nat.min_eq_left le, List.take_append,
    List.take_append, List.take_replicate, List.take_replicate]
  congr 2
  omega

theorem width_shownFront_succ (line : SourceLine) {position count : Nat}
    (widths_succ : line.widths (position + 1) = line.widths position ++ [count]) :
    width (shownFront line.chars (position + 1)) =
      width (shownFront line.chars position) + count := by
  have blanks_eq := flatMap_blanks_widths line (position + 1)
  rw [widths_succ, List.flatMap_append, flatMap_blanks_widths, List.flatMap_singleton,
    blanks_add] at blanks_eq
  simpa [blanks] using (congrArg List.length blanks_eq).symm

/-- The widths of a line, at one of its positions. -/
theorem exists_widths_split (line : SourceLine) {position total : Nat} (lt : position < total) :
    ∃ count after, line.widths total = line.widths position ++ count :: after ∧
      width (shownFront line.chars (position + 1)) =
        width (shownFront line.chars position) + count := by
  have within : position < (line.widths total).length := by rwa [length_widths]
  refine ⟨(line.widths total).get ⟨position, within⟩, (line.widths total).drop (position + 1),
    ?_, width_shownFront_succ line ?_⟩
  · rw [← take_widths line (Nat.le_of_lt lt), List.get_eq_getElem, ← List.drop_eq_getElem_cons,
      List.take_append_drop]
  · rw [← take_widths line lt, ← take_widths line (Nat.le_of_lt lt), List.get_eq_getElem,
      List.take_append_getElem]

end Widths

section Marks

variable {snippet : Snippet}

theorem text_blankCell (width : Nat) :
    Row.text (Snippet.cell (.spaces 1) (.spaces 1) width) = blanks width := by
  cases width with
  | zero => rfl
  | succ width =>
      rw [Snippet.cell, text_cons]
      exact congrArg (' ' :: ·) (text_replicate width none ' ')

/-- A row of cells that are blank up to a position starts with a blank for each column up to
there. -/
theorem exists_text_cells {draw : Nat → Nat → Row} {before after : List Nat} {width : Nat}
    (split : snippet.labelWidths = before ++ width :: after)
    (blank : ∀ width position, position < before.length →
      draw width position = Snippet.cell (.spaces 1) (.spaces 1) width) :
    ∃ rest, Row.text (snippet.cells draw) =
      before.flatMap blanks ++ (Row.text (draw width before.length) ++ rest) := by
  have front : Row.text (before.zipIdx.flatMap fun entry => draw entry.1 entry.2) =
      before.flatMap blanks := by
    calc Row.text (before.zipIdx.flatMap fun entry => draw entry.1 entry.2)
        = before.zipIdx.flatMap fun entry => Row.text (draw entry.1 entry.2) :=
          List.flatMap_assoc
      _ = before.zipIdx.flatMap fun entry => blanks entry.1 := by
          apply List.flatMap_congr
          intro entry member
          rw [blank _ _ (List.snd_lt_of_mem_zipIdx member), text_blankCell]
      _ = (before.zipIdx.map Prod.fst).flatMap blanks := by
          rw [List.flatMap_map]
      _ = before.flatMap blanks := by
          rw [List.zipIdx_map_fst]
  refine ⟨Row.text ((after.zipIdx (before.length + 1)).flatMap fun entry =>
    draw entry.1 entry.2), ?_⟩
  rw [Snippet.cells, split, List.zipIdx_append, List.flatMap_append, text_append, front,
    List.zipIdx_cons, List.flatMap_cons, text_append, Nat.zero_add]

theorem underlineCell_of_lt {position : Nat}
    (before : position < snippet.span.start - snippet.first.start) (width : Nat) :
    snippet.underlineCell width position = Snippet.cell (.spaces 1) (.spaces 1) width := by
  have notPointer : position ≠ snippet.pointer := by
    unfold Snippet.pointer
    omega
  have outside : ¬snippet.span.start ≤ snippet.first.start + position := by omega
  simp [Snippet.underlineCell, Snippet.marks, notPointer, outside]

/-- The start of a span has a mark below it, also if the span is empty. -/
theorem exists_underlineCell_start (started : snippet.first.start ≤ snippet.span.start) :
    ∃ mark ∈ ['┬', '─', '│'], ∃ extra, ∀ width,
      snippet.underlineCell width (snippet.span.start - snippet.first.start) =
        Snippet.cell (.label mark) extra width := by
  unfold Snippet.underlineCell
  rw [Nat.add_sub_cancel' started]
  cases pointed : decide (snippet.span.start - snippet.first.start = snippet.pointer) with
  | true =>
      cases snippet.marks snippet.span.start with
      | true => exact ⟨'┬', by decide, .label '─', fun _ => rfl⟩
      | false => exact ⟨'│', by decide, .label ' ', fun _ => rfl⟩
  | false =>
      -- The label of an empty span points to its start.
      have nonempty : snippet.span.start < snippet.span.stop := by
        have apart := of_decide_eq_false pointed
        unfold Snippet.pointer at apart
        omega
      have marked : snippet.marks snippet.span.start = true := by
        simp [Snippet.marks, nonempty]
      rw [marked]
      exact ⟨'─', by decide, .label '─', fun _ => rfl⟩

theorem leadCell_of_lt {position : Nat}
    (before : position < snippet.span.start - snippet.first.start) (width : Nat) :
    snippet.leadCell width position = Snippet.cell (.spaces 1) (.spaces 1) width := by
  have beforePointer : position < snippet.pointer := by
    unfold Snippet.pointer
    omega
  rw [Snippet.leadCell, if_pos beforePointer]

theorem Marked.arrow_eq {indent column : Nat} {shown chars arrow lead : List Char}
    {above : List (List Char)} (marked : Marked indent shown chars column arrow above lead) :
    arrow = [] ∨ arrow = ['╭', '─', '▶', ' '] := by
  cases marked with
  | below => exact Or.inl rfl
  | inFront => exact Or.inr rfl

/-- The marks below a line and the label below them start where the span starts. -/
theorem markedAt_of_started (started : snippet.first.start ≤ snippet.span.start)
    (ordered : snippet.span.start ≤ snippet.span.stop) :
    MarkedAt (Row.text (snippet.shownLine snippet.first)) snippet.first.chars
      (snippet.span.start - snippet.first.start + 1) (Row.text snippet.underline)
      (Row.text snippet.lead) := by
  obtain ⟨mark, isMark, extra, atStart⟩ := exists_underlineCell_start started
  have underlineBlank := @underlineCell_of_lt snippet
  have leadBlank := @leadCell_of_lt snippet
  generalize start_eq : snippet.span.start - snippet.first.start = start at *
  have within : start < snippet.span.stop + 2 - snippet.first.start := by omega
  obtain ⟨count, after, split, width_eq⟩ := exists_widths_split snippet.first within
  have length_eq := length_widths snippet.first start
  have front_eq := flatMap_blanks_widths snippet.first start
  obtain ⟨rest, underline_eq⟩ := @exists_text_cells snippet snippet.underlineCell _ _ _ split
    fun width position before => underlineBlank (length_eq ▸ before) width
  obtain ⟨rest', lead_eq⟩ := @exists_text_cells snippet snippet.leadCell _ _ _ split
    fun width position before => leadBlank (length_eq ▸ before) width
  rw [front_eq, length_eq, atStart] at underline_eq
  rw [front_eq] at lead_eq
  refine ⟨shownFront_isPrefix snippet snippet.first _, ?_, ?_, ?_⟩
  · rw [Nat.add_sub_cancel, Snippet.underline, underline_eq]
    exact List.prefix_append _ _
  · rw [Nat.add_sub_cancel, width_eq]
    intro positive
    obtain ⟨further, rfl⟩ := Nat.exists_eq_add_of_lt (Nat.pos_of_lt_add_right positive)
    refine ⟨mark, isMark, ?_⟩
    rw [Snippet.underline, underline_eq, List.getElem?_append_right (by simp [blanks])]
    simp [blanks, Snippet.cell]
  · rw [Nat.add_sub_cancel, Snippet.lead, lead_eq]
    exact List.prefix_append _ _

end Marks

section Bodies

variable {snippet : Snippet}

/-- A span that ends with a line is shown with that line, its mark and the message. -/
theorem exists_text_body (fits : snippet.overruns = false)
    (started : snippet.first.start ≤ snippet.span.start)
    (ordered : snippet.span.start ≤ snippet.span.stop) (message : List Char) :
    ∃ padding arrow above lead,
      (snippet.body message).map Row.text =
        sourceLine padding (snippet.first.index + 1) arrow
          (Row.text (snippet.shownLine snippet.first)) ::
        (above ++ [labelLine (snippet.numberWidth + 2) lead message]) ∧
      Marked (snippet.numberWidth + 2) (Row.text (snippet.shownLine snippet.first))
        snippet.first.chars (snippet.span.start - snippet.first.start + 1) arrow above lead ∧
      ∀ char ∈ lead, char = ' ' ∨ char = '─' ∨ char = '╰' := by
  unfold Snippet.body
  split
  case isTrue =>
    obtain ⟨padding, row_eq⟩ := exists_text_numberedMargin snippet snippet.first []
      (Row.text (snippet.shownLine snippet.first))
    refine ⟨padding, [], [markLine (snippet.numberWidth + 2) (Row.text snippet.underline)],
      Row.text snippet.lead, ?_, .below (markedAt_of_started started ordered),
      fun char => mem_lead⟩
    rw [Snippet.oneLine, fits, ← row_eq]
    simp [labelLine, markLine, text_margin]
  case isFalse =>
    obtain ⟨padding, row_eq⟩ := exists_text_numberedMargin snippet snippet.first
      ['╭', '─', '▶', ' '] (Row.text (snippet.shownLine snippet.first))
    let reach := (snippet.last.widths (snippet.last.chars.length + 2)).foldl (· + ·) 0
    let skipped :=
      if snippet.last.index - snippet.first.index > 1 then [snippet.skippedRow] else []
    let closing := (snippet.closingRows message).take 2
    refine ⟨padding, ['╭', '─', '▶', ' '], (skipped ++ closing).map Row.text,
      '╰' :: List.replicate (reach + 3) '─', ?_, .inFront, ?_⟩
    · rw [Snippet.severalLines, fits, ← row_eq]
      simp [labelLine, markLine, text_margin, Snippet.openingRow, Snippet.closingRows, skipped,
        closing, reach]
    · intro char member
      rcases List.mem_cons.mp member with rfl | dash
      · exact Or.inr (Or.inr rfl)
      · exact Or.inr (Or.inl (List.eq_of_mem_replicate dash))

/-- Of a span that ends after a line there is at most its first line. -/
theorem text_body_of_overruns (overruns : snippet.overruns = true) (message : List Char) :
    (snippet.body message).map Row.text = [Row.text snippet.margin] ∨
      ∃ padding, (snippet.body message).map Row.text =
        [sourceLine padding (snippet.first.index + 1) ['╭', '─', '▶', ' ']
          (Row.text (snippet.shownLine snippet.first)), Row.text snippet.skippedRow] := by
  unfold Snippet.body
  split
  case isTrue =>
    rw [Snippet.oneLine, if_pos overruns]
    exact Or.inl rfl
  case isFalse =>
    obtain ⟨padding, row_eq⟩ := exists_text_numberedMargin snippet snippet.first
      ['╭', '─', '▶', ' '] (Row.text (snippet.shownLine snippet.first))
    rw [Snippet.severalLines, if_pos overruns]
    refine Or.inr ⟨padding, ?_⟩
    rw [← row_eq]
    simp [Snippet.openingRow]

end Bodies

section Spans

variable {text : List Char} {span : Span}

theorem exists_ofSpan? (ordered : span.start ≤ span.stop) (within : span.stop ≤ text.length) :
    ∃ snippet, Snippet.ofSpan? text span = some snippet := by
  unfold Snippet.ofSpan?
  dsimp only
  rw [if_neg]
  · exact ⟨_, rfl⟩
  · split <;> omega

/-- A snippet starts in the line that the start of its span is in, and overruns if the span goes
past the end of the text. -/
theorem holds_of_ofSpan? (nonempty : text ≠ []) (ordered : span.start ≤ span.stop)
    {snippet : Snippet} (found : Snippet.ofSpan? text span = some snippet) :
    snippet.span = span ∧ SourceLine.Holds text span.start snippet.first ∧
      (snippet.overruns = true ↔ text.length < span.stop) := by
  unfold Snippet.ofSpan? at found
  dsimp only at found
  generalize ending_eq : (if span.start < span.stop then span.stop - 1 else span.start) = ending
    at found
  have reached : span.stop ≤ ending + 1 := by
    rw [← ending_eq]
    split <;> omega
  split at found
  case isTrue => cases found
  case isFalse within =>
    cases found
    obtain ⟨start_le, ending_le⟩ := not_or.mp within
    refine ⟨rfl, SourceLine.holds_holding nonempty (Nat.le_of_not_lt start_le), ?_⟩
    have holds := SourceLine.holds_holding nonempty (Nat.le_of_not_lt ending_le)
    rw [Snippet.overruns, decide_eq_true_iff]
    dsimp only
    constructor
    · intro exceeds
      rcases holds.lt_or_eq with inside | last
      · omega
      · exact last ▸ exceeds
    · intro past
      exact Nat.lt_of_le_of_lt holds.stop_le past

end Spans

end BoxLang.Report
