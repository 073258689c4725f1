import BoxLang.Proofs.Report.Rows
import BoxLang.Report.Basic

/-!
# What reports are made of

A report shows parts of the source text, the message, the advice and the code of a diagnostic.
All else is layout: digits, blanks, lines and a few words.  So a character that is not used for
layout is in a report only if it is in one of these texts.
-/

namespace BoxLang

/-- None of the texts of a diagnostic has a given character. -/
structure Diagnostic.Lacks (char : Char) (diagnostic : Diagnostic) : Prop where
  message : char ∉ diagnostic.message.toList
  help : ∀ help, diagnostic.help = some help → char ∉ help.toList
  code : ∀ code, diagnostic.code = some code → char ∉ code.toList

namespace Report

/-- The lines and marks that snippets are laid out with. -/
def frame : List Char :=
  [' ', ':', '[', ']', '╭', '─', '│', '┆', '┬', '╰', '▶', '├', '╯']

/-- The words that snippets are laid out with. -/
def words : List String :=
  [" <unknown>:", "Help"]

/-- A character that snippets are not laid out with. -/
structure IsForeign (char : Char) : Prop where
  not_digit : char.isDigit = false
  not_frame : char ∉ frame
  not_word : ∀ word ∈ words, char ∉ word.toList

/-- The rows of the advice of a diagnostic. -/
def helpRows (snippet : Snippet) (diagnostic : Diagnostic) : List Row :=
  match diagnostic.help with
  | none => []
  | some help => snippet.help help.toList

section Characters

variable {char : Char}

theorem IsForeign.ne (foreign : IsForeign char) {other : Char} (member : other ∈ frame) :
    char ≠ other := by
  rintro rfl
  exact foreign.not_frame member

theorem isForeign_newline : IsForeign '\n' :=
  ⟨by decide, by decide, by decide⟩

theorem not_mem_blanks (different : char ≠ ' ') (count : Nat) : char ∉ blanks count :=
  fun member => different (List.eq_of_mem_replicate member)

theorem not_mem_digits (notDigit : char.isDigit = false) (number : Nat) :
    char ∉ Nat.toDigits 10 number := by
  intro member
  have digit := Nat.isDigit_of_mem_toDigits (by decide) (by decide) member
  rw [notDigit] at digit
  cases digit

theorem IsForeign.not_mem_blanks (foreign : IsForeign char) (count : Nat) : char ∉ blanks count :=
  Report.not_mem_blanks (foreign.ne (by decide)) count

theorem not_mem_locationLine (foreign : IsForeign char) (indent line column : Nat) :
    char ∉ locationLine indent line column := by
  have notName := foreign.not_word " <unknown>:" List.mem_cons_self
  rw [locationLine]
  simp only [List.mem_append, List.mem_cons, not_or]
  exact ⟨foreign.not_mem_blanks _, foreign.ne (by decide), foreign.ne (by decide),
    foreign.ne (by decide), notName, not_mem_digits foreign.not_digit _, foreign.ne (by decide),
    not_mem_digits foreign.not_digit _, foreign.ne (by decide), foreign.ne (by decide),
    List.not_mem_nil⟩

theorem not_mem_marginLine (foreign : IsForeign char) (indent : Nat) :
    char ∉ marginLine indent := by
  rw [marginLine, List.mem_append, List.mem_singleton, not_or]
  exact ⟨foreign.not_mem_blanks _, foreign.ne (by decide)⟩

theorem not_mem_sourceLine (foreign : IsForeign char) (padding line : Nat)
    {arrow shown : List Char} (absentArrow : char ∉ arrow) (absent : char ∉ shown) :
    char ∉ sourceLine padding line arrow shown := by
  rw [sourceLine]
  simp only [List.mem_append, List.mem_cons, not_or]
  exact ⟨foreign.not_mem_blanks _, not_mem_digits foreign.not_digit _, foreign.ne (by decide),
    foreign.ne (by decide), foreign.ne (by decide), absentArrow, absent⟩

theorem not_mem_text_append {first second : Row} (absent : char ∉ Row.text first)
    (absent' : char ∉ Row.text second) : char ∉ Row.text (first ++ second) := by
  rw [text_append, List.mem_append, not_or]
  exact ⟨absent, absent'⟩

end Characters

section Frames

variable {snippet : Snippet} {char : Char}

theorem not_mem_marginOf (foreign : IsForeign char) {bar : Char} (member : bar ∈ frame) :
    char ∉ Row.text (snippet.marginOf bar) := by
  have notSpace : char ≠ ' ' := foreign.ne (by decide)
  have notBar : char ≠ bar := foreign.ne member
  simp [Snippet.marginOf, blanks, notSpace, notBar]

theorem not_mem_margin (foreign : IsForeign char) : char ∉ Row.text snippet.margin :=
  not_mem_marginOf foreign (by decide)

theorem not_mem_skippedRow (foreign : IsForeign char) : char ∉ Row.text snippet.skippedRow := by
  have notBar : char ≠ '┆' := foreign.ne (by decide)
  refine not_mem_text_append (not_mem_marginOf foreign (by decide)) ?_
  simp [foreign.not_mem_blanks, notBar]

theorem not_mem_bottom (foreign : IsForeign char) : char ∉ Row.text snippet.bottom := by
  have notDash : char ≠ '─' := foreign.ne (by decide)
  have notCorner : char ≠ '╯' := foreign.ne (by decide)
  simp [Snippet.bottom, notDash, notCorner]

theorem not_mem_helpIndent (foreign : IsForeign char) : char ∉ Row.text snippet.helpIndent := by
  have notBar : char ≠ '│' := foreign.ne (by decide)
  unfold Snippet.helpIndent
  split
  · simp
  · split <;> simp [foreign.not_mem_blanks, notBar]

theorem not_mem_top (foreign : IsForeign char) : ∀ row ∈ snippet.top, char ∉ Row.text row := by
  intro row member
  have shown := List.mem_map_of_mem (f := Row.text) member
  rw [text_top] at shown
  rcases List.mem_cons.mp shown with location | margin
  · rw [location]
    exact not_mem_locationLine foreign _ _ _
  · rw [List.mem_singleton.mp margin]
    exact not_mem_marginLine foreign _

theorem not_mem_advice (foreign : IsForeign char) {text : List Char}
    (absent : ∀ line ∈ textLines text, char ∉ line) :
    ∀ row ∈ snippet.help text, char ∉ Row.text row := by
  have start : char ∉ Row.text (snippet.margin ++ snippet.helpIndent) :=
    not_mem_text_append (not_mem_margin foreign) (not_mem_helpIndent foreign)
  have notSpace : char ≠ ' ' := foreign.ne (by decide)
  have notColon : char ≠ ':' := foreign.ne (by decide)
  intro row member
  simp only [Snippet.help] at member
  generalize textLines text = lines at member absent
  cases lines with
  | nil =>
      rw [List.mem_singleton.mp member]
      exact start
  | cons line rest =>
      obtain ⟨absentLine, absentRest⟩ := List.forall_mem_cons.mp absent
      simp only [List.mem_cons, List.mem_map] at member
      rcases member with rfl | rfl | ⟨other, memberOther, rfl⟩
      · exact start
      · refine not_mem_text_append start ?_
        have notWord := foreign.not_word "Help" (List.mem_cons_of_mem _ List.mem_cons_self)
        simpa [notColon, notSpace, absentLine] using notWord
      · refine not_mem_text_append start ?_
        simp [foreign.not_mem_blanks, absentRest other memberOther]

theorem not_mem_helpRows (foreign : IsForeign char) {diagnostic : Diagnostic}
    (absent : ∀ help, diagnostic.help = some help → ∀ line ∈ textLines help.toList, char ∉ line) :
    ∀ row ∈ helpRows snippet diagnostic, char ∉ Row.text row := by
  unfold helpRows
  split
  case h_1 => exact List.forall_mem_nil _
  case h_2 help advised => exact not_mem_advice foreign (absent help advised)

end Frames

section Lines

theorem SourceLine.holding_mem (offset : Nat) (line : SourceLine) (rest : List SourceLine) :
    line.holding offset rest ∈ line :: rest := by
  induction rest generalizing line with
  | nil => exact List.mem_cons_self
  | cons later rest inductionHypothesis =>
      rw [holding]
      split
      · exact List.mem_cons_of_mem _ (inductionHypothesis later)
      · exact List.mem_cons_self

theorem SourceLine.chars_mem_of_mem_numbered {line : SourceLine} {index start : Nat}
    {lines : List (List Char)} (member : line ∈ numbered index start lines) :
    line.chars ∈ lines := by
  induction lines generalizing index start with
  | nil => cases member
  | cons chars rest inductionHypothesis =>
      rcases List.mem_cons.mp member with rfl | member
      · exact List.mem_cons_self
      · exact List.mem_cons_of_mem _ (inductionHypothesis member)

/-- The line that is found for an offset is a part of the text. -/
theorem SourceLine.holding_subset (text : List Char) (offset : Nat) :
    ((ofText text).1.holding offset (ofText text).2).chars ⊆ text := by
  have found := holding_mem offset (ofText text).1 (ofText text).2
  generalize (ofText text).1.holding offset (ofText text).2 = line at found
  rw [ofText] at found
  cases lines_eq : splitKeepingEnds text with
  | nil =>
      rw [lines_eq] at found
      cases List.mem_singleton.mp found
      exact List.nil_subset text
  | cons first rest =>
      rw [lines_eq] at found
      have member : line.chars ∈ splitKeepingEnds text := by
        rw [lines_eq]
        rcases List.mem_cons.mp found with rfl | later
        · exact List.mem_cons_self
        · exact List.mem_cons_of_mem _ (chars_mem_of_mem_numbered later)
      intro char shown
      rw [← flatten_splitKeepingEnds text]
      exact List.mem_flatten.mpr ⟨line.chars, member, shown⟩

theorem subset_of_ofSpan? {text : List Char} {span : Span} {snippet : Snippet}
    (found : Snippet.ofSpan? text span = some snippet) :
    snippet.first.chars ⊆ text ∧ snippet.last.chars ⊆ text := by
  unfold Snippet.ofSpan? at found
  dsimp only at found
  generalize (if span.start < span.stop then span.stop - 1 else span.start) = ending at found
  split at found
  · cases found
  · cases found
    exact ⟨SourceLine.holding_subset text _, SourceLine.holding_subset text _⟩

/-- The lines of a text hold nothing else. -/
theorem flatten_textLines_sublist (text : List Char) : (textLines text).flatten.Sublist text := by
  unfold textLines
  induction text with
  | nil => exact List.Sublist.refl []
  | cons char rest inductionHypothesis =>
      rw [splitLines]
      split
      · exact inductionHypothesis.cons char
      · split
        · exact inductionHypothesis.cons char
        · rw [flatten_consLine]
          exact inductionHypothesis.cons_cons char

theorem not_mem_of_mem_textLines {text : List Char} {char : Char} (absent : char ∉ text) :
    ∀ line ∈ textLines text, char ∉ line := by
  intro line member shown
  have held : char ∈ (textLines text).flatten := List.mem_flatten.mpr ⟨line, member, shown⟩
  exact absent ((flatten_textLines_sublist text).subset held)

end Lines

section Snippets

variable {snippet : Snippet} {char : Char}

theorem not_mem_shownLine (foreign : IsForeign char) {line : SourceLine}
    (absent : char ∉ line.chars) : char ∉ Row.text (snippet.shownLine line) := by
  have notSpace : char ≠ ' ' := foreign.ne (by decide)
  rw [text_shownLine, List.mem_flatMap]
  rintro ⟨⟨shown, position⟩, memberShown, member⟩
  have visible : shown ∈ line.visible := List.fst_mem_of_mem_zipIdx memberShown
  rw [text_shownChar, shownAt] at member
  split at member
  · exact foreign.not_mem_blanks _ member
  · split at member
    · exact notSpace (List.mem_singleton.mp member)
    · rw [List.mem_singleton.mp member] at absent
      have kept := List.mem_reverse.mp visible
      exact absent (List.mem_reverse.mp ((List.dropWhile_sublist _).subset kept))

theorem not_mem_numbered (foreign : IsForeign char) {line : SourceLine} {arrow : List Char}
    (absentArrow : char ∉ arrow) (absent : char ∉ line.chars) :
    char ∉ Row.text
      (snippet.numberedMargin line ++ Piece.labels arrow ++ snippet.shownLine line) := by
  obtain ⟨padding, row_eq⟩ := exists_text_numberedMargin snippet line arrow
    (Row.text (snippet.shownLine line))
  rw [text_append, text_append, text_labels, List.append_assoc, row_eq]
  exact not_mem_sourceLine foreign padding _ absentArrow (not_mem_shownLine foreign absent)

theorem not_mem_cell (foreign : IsForeign char) {first further : Char} (member : first ∈ frame)
    (member' : further ∈ frame) (colour colour' : Option Colour) (width : Nat) :
    char ∉ Row.text (Snippet.cell ⟨colour, [first]⟩ ⟨colour', [further]⟩ width) := by
  intro shown
  rcases mem_cell shown with rfl | rfl
  · exact foreign.not_frame member
  · exact foreign.not_frame member'

theorem not_mem_underline (foreign : IsForeign char) : char ∉ Row.text snippet.underline := by
  intro member
  obtain ⟨width, position, shown⟩ := mem_cells member
  unfold Snippet.underlineCell at shown
  split at shown
  · exact not_mem_cell foreign (by decide) (by decide) _ _ width shown
  · exact not_mem_cell foreign (by decide) (by decide) _ _ width shown
  · exact not_mem_cell foreign (by decide) (by decide) _ _ width shown
  · exact not_mem_cell foreign (by decide) (by decide) _ _ width shown

theorem not_mem_lead (foreign : IsForeign char) : char ∉ Row.text snippet.lead := by
  intro member
  rcases mem_lead member with rfl | rfl | rfl <;> exact foreign.not_frame (by decide)

variable {message : List Char}

theorem not_mem_oneLine (foreign : IsForeign char) (absentMessage : char ∉ message)
    (absentFirst : char ∉ snippet.first.chars) :
    ∀ row ∈ snippet.oneLine message, char ∉ Row.text row := by
  have margin : char ∉ Row.text snippet.margin := not_mem_margin foreign
  have notSpace : char ≠ ' ' := foreign.ne (by decide)
  have shown : char ∉ Row.text (snippet.numberedMargin snippet.first ++
      snippet.shownLine snippet.first) := by
    have numbered : char ∉ Row.text (snippet.numberedMargin snippet.first ++ Piece.labels [] ++
        snippet.shownLine snippet.first) :=
      not_mem_numbered foreign List.not_mem_nil absentFirst
    simpa [Piece.labels] using numbered
  unfold Snippet.oneLine
  split
  · exact List.forall_mem_singleton.mpr margin
  · simp only [List.forall_mem_cons]
    refine ⟨shown, not_mem_text_append margin (not_mem_underline foreign), ?_,
      List.forall_mem_nil _⟩
    refine not_mem_text_append (not_mem_text_append margin (not_mem_lead foreign)) ?_
    simp [notSpace, absentMessage]

theorem not_mem_severalLines (foreign : IsForeign char) (absentMessage : char ∉ message)
    (absentFirst : char ∉ snippet.first.chars) (absentLast : char ∉ snippet.last.chars) :
    ∀ row ∈ snippet.severalLines message, char ∉ Row.text row := by
  have margin : char ∉ Row.text snippet.margin := not_mem_margin foreign
  have notSpace : char ≠ ' ' := foreign.ne (by decide)
  have notDash : char ≠ '─' := foreign.ne (by decide)
  have notBar : char ≠ '│' := foreign.ne (by decide)
  have notCorner : char ≠ '╰' := foreign.ne (by decide)
  have arrow {corner : Char} (member : corner ∈ frame) : char ∉ [corner, '─', '▶', ' '] := by
    have notTip : char ≠ '▶' := foreign.ne (by decide)
    simp [foreign.ne member, notDash, notTip, notSpace]
  have opening : char ∉ Row.text snippet.openingRow :=
    not_mem_numbered foreign (arrow (by decide)) absentFirst
  have skipped : char ∉ Row.text snippet.skippedRow := not_mem_skippedRow foreign
  have closing : ∀ row ∈ snippet.closingRows message, char ∉ Row.text row := by
    simp only [Snippet.closingRows, List.forall_mem_cons]
    refine ⟨not_mem_numbered foreign (arrow (by decide)) absentLast, ?_, ?_,
      List.forall_mem_nil _⟩
    · refine not_mem_text_append margin ?_
      simp [notBar, foreign.not_mem_blanks]
    · refine not_mem_text_append (not_mem_text_append margin ?_) ?_
      · simp [notCorner, notDash]
      · simp [notSpace, absentMessage]
  unfold Snippet.severalLines
  split
  · simp only [List.forall_mem_cons]
    exact ⟨opening, skipped, List.forall_mem_nil _⟩
  · intro row member
    rcases List.mem_append.mp member with above | below
    · rcases List.mem_cons.mp above with rfl | middle
      · exact opening
      · split at middle
        · rw [List.mem_singleton.mp middle]
          exact skipped
        · cases middle
    · exact closing row below

theorem not_mem_body (foreign : IsForeign char) (absentMessage : char ∉ message)
    (absentFirst : char ∉ snippet.first.chars) (absentLast : char ∉ snippet.last.chars) :
    ∀ row ∈ snippet.body message, char ∉ Row.text row := by
  unfold Snippet.body
  split
  · exact not_mem_oneLine foreign absentMessage absentFirst
  · exact not_mem_severalLines foreign absentMessage absentFirst absentLast

end Snippets

section Diagnostics

variable {text : List Char} {diagnostic : Diagnostic} {snippet : Snippet} {char : Char}

theorem report_eq (found : Snippet.ofSpan? text diagnostic.span = some snippet) :
    diagnostic.report text = diagnostic.header ::
      (snippet.top ++ snippet.body diagnostic.message.toList ++ helpRows snippet diagnostic ++
        [snippet.bottom]) := by
  cases advised : diagnostic.help with
  | none => simp [Diagnostic.report, helpRows, found, advised]
  | some help => simp [Diagnostic.report, helpRows, found, advised]

theorem not_mem_header (foreign : IsForeign char) (lacks : diagnostic.Lacks char)
    (absentTitle : char ∉ diagnostic.title.toList) : char ∉ Row.text diagnostic.header := by
  have notSpace : char ≠ ' ' := foreign.ne (by decide)
  have notColon : char ≠ ':' := foreign.ne (by decide)
  have notOpening : char ≠ '[' := foreign.ne (by decide)
  have notClosing : char ≠ ']' := foreign.ne (by decide)
  have absentCode : char ∉ diagnostic.bracketedCode := by
    unfold Diagnostic.bracketedCode
    split
    case h_1 => exact List.not_mem_nil
    case h_2 code carried =>
      simp [notOpening, notClosing, notSpace, lacks.code code carried]
  simp [Diagnostic.header, absentCode, absentTitle, notColon, notSpace, lacks.message]

/-- A character that is not used for layout is in a report only if it is in the source text or
in a text of the diagnostic. -/
theorem not_mem_report (foreign : IsForeign char) (lacks : diagnostic.Lacks char)
    (absentTitle : char ∉ diagnostic.title.toList) (absent : char ∉ text) :
    ∀ row ∈ diagnostic.report text, char ∉ Row.text row := by
  have header := not_mem_header foreign lacks absentTitle
  cases found : Snippet.ofSpan? text diagnostic.span with
  | none =>
      unfold Diagnostic.report
      rw [found]
      exact List.forall_mem_singleton.mpr header
  | some snippet =>
      obtain ⟨firstShown, lastShown⟩ := subset_of_ofSpan? found
      have body : ∀ row ∈ snippet.body diagnostic.message.toList, char ∉ Row.text row :=
        not_mem_body foreign lacks.message (fun member => absent (firstShown member))
          fun member => absent (lastShown member)
      have help : ∀ row ∈ helpRows snippet diagnostic, char ∉ Row.text row :=
        not_mem_helpRows foreign fun help advised =>
          not_mem_of_mem_textLines (lacks.help help advised)
      rw [report_eq found]
      simp only [List.forall_mem_cons, List.forall_mem_append]
      exact ⟨header, ⟨⟨not_mem_top foreign, body⟩, help⟩, not_mem_bottom foreign,
        List.forall_mem_nil _⟩

end Diagnostics

end Report

end BoxLang
