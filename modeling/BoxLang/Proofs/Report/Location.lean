import BoxLang.Proofs.Engine.Bounds
import BoxLang.Proofs.Reader.Boundaries
import BoxLang.Proofs.Report.Layout

/-!
# Where reports point to

The report of a fault names the place of a character and shows the line it is in, with a mark
and the message below it.  Spans count bytes and reports count characters, so this is the character
that the fault is about exactly if each character before it is a single byte, and it is shown
exactly if the span, taken as one of characters, is within the text.
-/

namespace BoxLang.Report

/-- The parts of a report that shows a line of the source text with a message below it. -/
structure Parts where
  indent : Nat
  padding : Nat
  arrow : List Char
  shown : List Char
  above : List (List Char)
  lead : List Char
  below : List (List Char)

/-- The report of a diagnostic that names a place: its header is followed by the location, the
margin and the line of the source text, perhaps with an arrow, and below that stands the
message. -/
def Parts.text (parts : Parts) (diagnostic : Diagnostic) (line column : Nat) : List Char :=
  unlines (diagnostic.header.text :: locationLine parts.indent line column ::
    marginLine parts.indent :: sourceLine parts.padding line parts.arrow parts.shown ::
    (parts.above ++ labelLine parts.indent parts.lead diagnostic.message.toList :: parts.below))

/-- The line that is shown has the given characters, up to white space. -/
structure Parts.Shows (parts : Parts) (chars : List Char) : Prop where
  arrow_eq : parts.arrow = [] ∨ parts.arrow = ['╭', '─', '▶', ' ']
  newline_not_mem : '\n' ∉ parts.shown
  inked_eq : inked parts.shown = inked chars
  lead_drawn : ∀ char ∈ parts.lead, char = ' ' ∨ char = '─' ∨ char = '╰'

/-- A text is the report of a diagnostic that names a place and shows the line it is in. -/
def Locates (rendering : List Char) (diagnostic : Diagnostic) (line column : Nat)
    (chars : List Char) : Prop :=
  ∃ parts : Parts, rendering = parts.text diagnostic line column ∧ parts.Shows chars

/-- A text is the report of a diagnostic that points to a place: it also marks the place.  The
first mark in the row below the line is below the character at the column, unless an arrow marks
the line because the span goes on in another one. -/
def PointsAt (rendering : List Char) (diagnostic : Diagnostic) (line column : Nat)
    (chars : List Char) : Prop :=
  ∃ parts : Parts, rendering = parts.text diagnostic line column ∧ parts.Shows chars ∧
    Marked parts.indent parts.shown chars column parts.arrow parts.above parts.lead

theorem PointsAt.locates {rendering : List Char} {diagnostic : Diagnostic} {line column : Nat}
    {chars : List Char} (pointsAt : PointsAt rendering diagnostic line column chars) :
    Locates rendering diagnostic line column chars := by
  obtain ⟨parts, text_eq, shows, -⟩ := pointsAt
  exact ⟨parts, text_eq, shows⟩

section Lines

/-- What is in front of the first of some symbol is determined. -/
theorem append_cons_inj {α : Type} {symbol : α} {first second rest rest' : List α}
    (absent : symbol ∉ first) (absent' : symbol ∉ second)
    (equal : first ++ symbol :: rest = second ++ symbol :: rest') :
    first = second ∧ rest = rest' := by
  induction first generalizing second with
  | nil =>
      cases second with
      | nil => exact ⟨rfl, (List.cons.inj equal).2⟩
      | cons head tail => exact absurd (List.cons.inj equal).1 (List.ne_of_not_mem_cons absent')
  | cons head tail inductionHypothesis =>
      cases second with
      | nil => exact absurd (List.cons.inj equal).1.symm (List.ne_of_not_mem_cons absent)
      | cons head' tail' =>
          obtain ⟨rfl, equalTails⟩ := List.cons.inj equal
          obtain ⟨rfl, equalRests⟩ := inductionHypothesis (List.not_mem_of_not_mem_cons absent)
            (List.not_mem_of_not_mem_cons absent') equalTails
          exact ⟨rfl, equalRests⟩

theorem unlines_cons (line : List Char) (rest : List (List Char)) :
    unlines (line :: rest) = line ++ '\n' :: unlines rest := by
  simp [unlines]

/-- The first line of a text is determined. -/
theorem unlines_cons_inj {line line' : List Char} {rest rest' : List (List Char)}
    (absent : '\n' ∉ line) (absent' : '\n' ∉ line')
    (equal : unlines (line :: rest) = unlines (line' :: rest')) :
    line = line' ∧ unlines rest = unlines rest' := by
  rw [unlines_cons, unlines_cons] at equal
  exact append_cons_inj absent absent' equal

theorem toDigits_inj {first second : Nat} (equal : Nat.toDigits 10 first = Nat.toDigits 10 second) :
    first = second := by
  have same := congrArg (Nat.ofDigitChars 10 · 0) equal
  simpa only [Nat.ofDigitChars_ten_toDigits] using same

theorem Parts.Shows.newline_not_mem_sourceLine {parts : Parts} {chars : List Char}
    (shows : parts.Shows chars) (line : Nat) :
    '\n' ∉ sourceLine parts.padding line parts.arrow parts.shown := by
  have absentArrow : '\n' ∉ parts.arrow := by
    rcases shows.arrow_eq with arrow_eq | arrow_eq
    · rw [arrow_eq]
      exact List.not_mem_nil
    · rw [arrow_eq]
      decide
  exact not_mem_sourceLine isForeign_newline _ _ absentArrow shows.newline_not_mem

/-- A line of the source text has a number in front. -/
theorem sourceLine_ne_margin (padding line : Nat) (arrow shown : List Char) (width : Nat) :
    sourceLine padding line arrow shown ≠ blanks width ++ ['│', ' '] := by
  intro equal
  obtain ⟨digit, member⟩ := List.exists_mem_of_ne_nil _ (Nat.toDigits_ne_nil (n := line) (b := 10))
  have isDigit := Nat.isDigit_of_mem_toDigits (by decide) (by decide) member
  have shown : digit ∈ sourceLine padding line arrow shown :=
    List.mem_append_right _ (List.mem_append_left _ member)
  rw [equal, List.mem_append] at shown
  rcases shown with blank | bar
  · rw [List.eq_of_mem_replicate blank] at isDigit
    cases isDigit
  · simp only [List.mem_cons, List.not_mem_nil, or_false] at bar
    rcases bar with rfl | rfl <;> cases isDigit

theorem locationLine_inj {indent indent' line line' column column' : Nat}
    (equal : locationLine indent line column = locationLine indent' line' column') :
    line = line' ∧ column = column' := by
  obtain ⟨-, equal⟩ := append_cons_inj (not_mem_blanks (by decide) _)
    (not_mem_blanks (by decide) _) equal
  have afterName := List.append_cancel_left (List.cons.inj (List.cons.inj equal).2).2
  obtain ⟨sameLine, afterLine⟩ := append_cons_inj (not_mem_digits (by decide) _)
    (not_mem_digits (by decide) _) afterName
  exact ⟨toDigits_inj sameLine, toDigits_inj (List.append_cancel_right afterLine)⟩

end Lines

/-- A letter tells the message of a diagnostic from its advice. -/
structure Distinguishes (letter : Char) (diagnostic : Diagnostic) : Prop where
  mem_message : letter ∈ diagnostic.message.toList
  isUpper : letter.isUpper = true
  ne_help : letter ≠ 'H'
  not_mem_help : ∀ help, diagnostic.help = some help →
    ∀ line ∈ textLines help.toList, letter ∉ line

section Letters

variable {snippet : Snippet} {letter : Char}

theorem ne_of_isUpper (upper : letter.isUpper = true) {char : Char}
    (lower : char.isUpper = false) : letter ≠ char := by
  rintro rfl
  rw [upper] at lower
  cases lower

theorem Distinguishes.isForeign {diagnostic : Diagnostic}
    (distinguishes : Distinguishes letter diagnostic) : IsForeign letter := by
  have upper := distinguishes.isUpper
  have lowerFrame : frame.all (fun char => !char.isUpper) = true := by decide
  have lowerWords : words.all (fun word =>
      word.toList.all fun char => !char.isUpper || char == 'H') = true := by decide
  refine ⟨?_, ?_, ?_⟩
  · have bounds : letter.val ≥ 65 ∧ letter.val ≤ 90 := of_decide_eq_true upper
    simp only [Char.isDigit, Bool.and_eq_false_iff, decide_eq_false_iff_not]
    exact Or.inr fun digit => absurd (UInt32.le_trans bounds.1 digit) (by decide)
  · intro member
    simpa [upper] using List.all_eq_true.mp lowerFrame letter member
  · intro word named member
    simpa [upper, distinguishes.ne_help] using
      List.all_eq_true.mp (List.all_eq_true.mp lowerWords word named) letter member

/-- The letter is in no row below the lines of a span. -/
theorem not_mem_below {diagnostic : Diagnostic}
    (distinguishes : Distinguishes letter diagnostic) :
    letter ∉ unlines (Row.text snippet.skippedRow ::
      ((helpRows snippet diagnostic).map Row.text ++ [snippet.bottom.text])) := by
  have foreign := distinguishes.isForeign
  rw [mem_unlines (ne_of_isUpper distinguishes.isUpper rfl)]
  rintro ⟨line, memberLine, member⟩
  rcases List.mem_cons.mp memberLine with rfl | memberLine
  · exact not_mem_skippedRow foreign member
  · rcases List.mem_append.mp memberLine with memberHelp | memberBottom
    · obtain ⟨row, memberRow, rfl⟩ := List.mem_map.mp memberHelp
      exact not_mem_helpRows foreign distinguishes.not_mem_help row memberRow member
    · rw [List.mem_singleton.mp memberBottom] at member
      exact not_mem_bottom foreign member

theorem mem_labelled {diagnostic : Diagnostic} (distinguishes : Distinguishes letter diagnostic)
    {above below : List (List Char)} {indent : Nat} {lead : List Char} :
    letter ∈ unlines (above ++ labelLine indent lead diagnostic.message.toList :: below) := by
  rw [mem_unlines (ne_of_isUpper distinguishes.isUpper rfl)]
  refine ⟨_, List.mem_append_right _ List.mem_cons_self, ?_⟩
  simp [labelLine, markLine, distinguishes.mem_message]

end Letters

section Pointing

variable {text : List Char} {diagnostic : Diagnostic} {snippet : Snippet}

theorem texts_of_report (found : Snippet.ofSpan? text diagnostic.span = some snippet) :
    unlines ((diagnostic.report text).map Row.text) =
      unlines (diagnostic.header.text ::
        locationLine (snippet.numberWidth + 2) (snippet.first.index + 1)
          (snippet.span.start - snippet.first.start + 1) ::
        marginLine (snippet.numberWidth + 2) ::
        ((snippet.body diagnostic.message.toList).map Row.text ++
          ((helpRows snippet diagnostic).map Row.text ++ [snippet.bottom.text]))) := by
  rw [report_eq found]
  simp only [List.map_cons, List.map_append, text_top, List.map_nil, List.cons_append,
    List.nil_append, List.append_assoc]

/-- A report points to the place where its snippet starts if the span is within the text. -/
theorem pointsAt_of_fits (found : Snippet.ofSpan? text diagnostic.span = some snippet)
    (fits : snippet.overruns = false) (started : snippet.first.start ≤ snippet.span.start)
    (ordered : snippet.span.start ≤ snippet.span.stop) :
    PointsAt (unlines ((diagnostic.report text).map Row.text)) diagnostic
      (snippet.first.index + 1) (snippet.span.start - snippet.first.start + 1)
      snippet.first.chars := by
  obtain ⟨padding, arrow, above, lead, body_eq, marked, leads⟩ :=
    exists_text_body fits started ordered diagnostic.message.toList
  refine ⟨⟨snippet.numberWidth + 2, padding, arrow, Row.text (snippet.shownLine snippet.first),
    above, lead, (helpRows snippet diagnostic).map Row.text ++ [snippet.bottom.text]⟩, ?_,
    ⟨marked.arrow_eq, newline_not_mem_shownLine _ _, inked_shownLine _ _, leads⟩, marked⟩
  rw [texts_of_report found, body_eq, Parts.text]
  simp only [List.cons_append, List.append_assoc, List.nil_append]

/-- A report names no other place, and shows none if the span is not within the text. -/
theorem eq_of_locates {letter : Char} (distinguishes : Distinguishes letter diagnostic)
    (found : Snippet.ofSpan? text diagnostic.span = some snippet) {line column : Nat}
    {chars : List Char}
    (locates : Locates (unlines ((diagnostic.report text).map Row.text)) diagnostic line column
      chars) :
    line = snippet.first.index + 1 ∧ column = snippet.span.start - snippet.first.start + 1 ∧
      snippet.overruns = false := by
  obtain ⟨parts, text_eq, shows⟩ := locates
  rw [texts_of_report found, Parts.text, unlines_cons diagnostic.header.text,
    unlines_cons diagnostic.header.text] at text_eq
  have afterHeader := (List.cons.inj (List.append_cancel_left text_eq)).2
  obtain ⟨location_eq, afterLocation⟩ := unlines_cons_inj
    (not_mem_locationLine isForeign_newline _ _ _) (not_mem_locationLine isForeign_newline _ _ _)
    afterHeader
  obtain ⟨-, afterMargin⟩ := unlines_cons_inj (not_mem_marginLine isForeign_newline _)
    (not_mem_marginLine isForeign_newline _) afterLocation
  obtain ⟨line_eq, column_eq⟩ := locationLine_inj location_eq
  refine ⟨line_eq.symm, column_eq.symm, ?_⟩
  cases exceeds : snippet.overruns with
  | false => rfl
  | true =>
      exfalso
      have absentSource := shows.newline_not_mem_sourceLine line
      rcases text_body_of_overruns exceeds diagnostic.message.toList with
        body_eq | ⟨padding', body_eq⟩
      · rw [body_eq, text_margin] at afterMargin
        have absentMargin : '\n' ∉ blanks (snippet.numberWidth + 2) ++ ['│', ' '] := by
          rw [List.mem_append, not_or]
          exact ⟨not_mem_blanks (by decide) _, by decide⟩
        obtain ⟨margin_eq, -⟩ := unlines_cons_inj absentMargin absentSource afterMargin
        exact sourceLine_ne_margin _ _ _ _ _ margin_eq.symm
      · rw [body_eq] at afterMargin
        obtain ⟨-, afterSource⟩ := unlines_cons_inj (not_mem_sourceLine isForeign_newline _ _
          (by decide) (newline_not_mem_shownLine _ _)) absentSource afterMargin
        exact not_mem_below distinguishes (afterSource ▸ mem_labelled distinguishes)

theorem not_locates_of_none (none : Snippet.ofSpan? text diagnostic.span = none)
    (line column : Nat) (chars : List Char) :
    ¬Locates (unlines ((diagnostic.report text).map Row.text)) diagnostic line column chars := by
  rintro ⟨parts, text_eq, -⟩
  unfold Diagnostic.report Parts.text at text_eq
  rw [none, List.map_cons, unlines_cons diagnostic.header.text,
    unlines_cons diagnostic.header.text] at text_eq
  have afterHeader := (List.cons.inj (List.append_cancel_left text_eq)).2
  rw [unlines_cons] at afterHeader
  exact absurd afterHeader.symm (List.append_ne_nil_of_right_ne_nil _ (List.cons_ne_nil _ _))

theorem utf8Len_eq_length_iff {chars : List Char} :
    String.utf8Len chars = chars.length ↔ ∀ char ∈ chars, char.utf8Size = 1 := by
  induction chars with
  | nil => simp
  | cons char rest inductionHypothesis =>
      have atLeast := length_le_utf8Len rest
      have positive := char.utf8Size_pos
      rw [String.utf8Len_cons, List.length_cons, List.forall_mem_cons, ← inductionHypothesis]
      omega

variable {before covered : List Char} {letter : Char}

/-- A report that names the start of its span counts the bytes before it rightly, and shows the
whole span. -/
theorem oneByte_of_locates (covers : diagnostic.span.Covers text before covered)
    (nonempty : text ≠ []) (distinguishes : Distinguishes letter diagnostic) {line column : Nat}
    {chars : List Char} (stands : StandsAt text before.length line column chars)
    (locates : Locates (unlines ((diagnostic.report text).map Row.text)) diagnostic line column
      chars) :
    (∀ char ∈ before, char.utf8Size = 1) ∧ diagnostic.span.stop ≤ text.length := by
  cases found : Snippet.ofSpan? text diagnostic.span with
  | none => exact absurd locates (not_locates_of_none found line column chars)
  | some snippet =>
      obtain ⟨span_eq, holds, overruns_iff⟩ := holds_of_ofSpan? nonempty covers.ordered found
      obtain ⟨rfl, rfl, fits⟩ := eq_of_locates distinguishes found locates
      rw [span_eq] at stands
      have index_eq := stands.index_eq holds.standsAt
      rw [covers.start_eq] at index_eq
      refine ⟨utf8Len_eq_length_iff.mp index_eq.symm, Nat.le_of_not_lt ?_⟩
      rw [← overruns_iff, fits]
      exact Bool.false_ne_true

/-- A report points to the start of its span exactly if every character before it is one byte and
the span, counted in characters, is within the text. If not, it does not even name this place and
show its line. -/
theorem exists_pointsAt_iff (covers : diagnostic.span.Covers text before covered)
    (nonempty : text ≠ []) (distinguishes : Distinguishes letter diagnostic) :
    ∃ line column chars, StandsAt text before.length line column chars ∧
      (PointsAt (unlines ((diagnostic.report text).map Row.text)) diagnostic line column chars ↔
        (∀ char ∈ before, char.utf8Size = 1) ∧ diagnostic.span.stop ≤ text.length) ∧
      (Locates (unlines ((diagnostic.report text).map Row.text)) diagnostic line column chars →
        PointsAt (unlines ((diagnostic.report text).map Row.text)) diagnostic line column
          chars) := by
  by_cases right : (∀ char ∈ before, char.utf8Size = 1) ∧ diagnostic.span.stop ≤ text.length
  · obtain ⟨oneByte, within⟩ := right
    obtain ⟨snippet, found⟩ := exists_ofSpan? covers.ordered within
    obtain ⟨span_eq, holds, overruns_iff⟩ := holds_of_ofSpan? nonempty covers.ordered found
    have fits : snippet.overruns = false :=
      Bool.eq_false_iff.mpr fun exceeds => Nat.not_lt_of_le within (overruns_iff.mp exceeds)
    have stands := holds.standsAt
    rw [covers.start_eq, utf8Len_eq_length_iff.mpr oneByte] at stands
    have pointsAt := pointsAt_of_fits found fits (span_eq ▸ holds.started)
      (span_eq ▸ covers.ordered)
    rw [span_eq, covers.start_eq, utf8Len_eq_length_iff.mpr oneByte] at pointsAt
    exact ⟨_, _, _, stands, iff_of_true pointsAt ⟨oneByte, within⟩, fun _ => pointsAt⟩
  · have within : before.length ≤ text.length :=
      ((List.prefix_append before covered).trans covers.isPrefix).length_le
    have stands := (SourceLine.holds_holding nonempty within).standsAt
    have notLocated := fun locates =>
      right (oneByte_of_locates covers nonempty distinguishes stands locates)
    exact ⟨_, _, _, stands, iff_of_false (fun pointsAt => notLocated pointsAt.locates) right,
      fun locates => absurd locates notLocated⟩

theorem toList_render (diagnostic : Diagnostic) (source : String) :
    (Error.render false (.compilation [diagnostic] source)).toList =
      unlines ((diagnostic.report source.toList).map Row.text) := by
  rw [Error.render, toList_write, Error.report, List.flatMap_cons, List.flatMap_nil,
    List.append_nil]

end Pointing

section Faults

/-- The letters that the messages of faults start with. -/
def initials : List Char :=
  ['E', 'N', 'T', 'U']

theorem exists_initial {kind : FaultKind} (grounded : kind.IsGrounded) :
    ∃ letter ∈ initials, letter ∈ kind.message.toList := by
  have ofStart {letter : Char} {first : String} (second : String)
      (member : letter ∈ first.toList) : letter ∈ (first ++ second).toList := by
    rw [String.toList_append]
    exact List.mem_append_left _ member
  cases kind with
  | unexpectedChar expected found =>
      exact ⟨'E', by decide, ofStart _ (ofStart _ (ofStart _ (ofStart _ (by decide))))⟩
  | unexpectedEnd expected => exact ⟨'E', by decide, ofStart _ (ofStart _ (by decide))⟩
  | unterminatedString => exact ⟨'E', by decide, by decide⟩
  | invalidNumber reason =>
      have flawed : Numeral.flaws.all (fun flaw => initials.any flaw.toList.contains) = true := by
        decide +kernel
      obtain ⟨letter, initial, contained⟩ :=
        List.any_eq_true.mp (List.all_eq_true.mp flawed reason grounded)
      exact ⟨letter, initial, List.contains_iff_mem.mp contained⟩
  | numberOutOfRange text => exact ⟨'N', by decide, ofStart _ (ofStart _ (by decide))⟩
  | unclosedBox found =>
      cases found with
      | none => exact ⟨'E', by decide, by decide⟩
      | some char => exact ⟨'E', by decide, ofStart _ (by decide)⟩
  | trailingInput found => exact ⟨'E', by decide, ofStart _ (ofStart _ (by decide))⟩
  | maxDepthExceeded depth maxDepth => exact ⟨'E', by decide, ofStart _ (ofStart _ (by decide))⟩

theorem not_mem_help {kind : FaultKind} {help : String} (advised : kind.help? = some help)
    {letter : Char} (initial : letter ∈ initials) :
    ∀ line ∈ textLines help.toList, letter ∉ line := by
  have absent : initials.all (fun letter =>
      (textLines help.toList).all fun line => !line.contains letter) = true := by
    cases kind with
    | unexpectedChar => cases advised
    | unexpectedEnd => cases advised
    | unterminatedString => cases advised; decide +kernel
    | invalidNumber => cases advised; decide +kernel
    | numberOutOfRange => cases advised; decide +kernel
    | unclosedBox => cases advised; decide +kernel
    | trailingInput => cases advised; decide +kernel
    | maxDepthExceeded => cases advised; decide +kernel
  have absentLetter := List.all_eq_true.mp absent letter initial
  simpa using absentLetter

/-- The messages of faults can be told from their advice. -/
theorem exists_distinguishes {error : ParseError} (grounded : error.kind.IsGrounded) :
    ∃ letter, Distinguishes letter error.diagnostic := by
  obtain ⟨letter, initial, member⟩ := exists_initial grounded
  have upper : initials.all (fun letter => letter.isUpper && letter != 'H') = true := by decide
  obtain ⟨isUpper, ne_help⟩ := (Bool.and_eq_true _ _).mp (List.all_eq_true.mp upper letter initial)
  exact ⟨letter, member, isUpper, ne_of_beq_false (Bool.not_eq_true' _ ▸ ne_help),
    fun _ advised => not_mem_help advised initial⟩

end Faults

/-- The report of a text that is not a program points to the character that the fault starts
with, or to the end of the text, exactly if each character before it is a single byte and the
span of the fault, in bytes, is no longer than the text is in characters.  If it does not point
to this place, it does not even name it and show its line. -/
theorem render_pointsAt_iff {engine : Engine} {source : String} {error : Error}
    (failed : engine.compile source = .error error) :
    ∃ diagnostic before after line column chars,
      error = .compilation [diagnostic] source ∧
      source.toList = before ++ after ∧ String.utf8Len before = diagnostic.span.start ∧
      StandsAt source.toList before.length line column chars ∧
      (PointsAt (error.render false).toList diagnostic line column chars ↔
        (∀ char ∈ before, char.utf8Size = 1) ∧
          diagnostic.span.stop ≤ source.toList.length) ∧
      (Locates (error.render false).toList diagnostic line column chars →
        PointsAt (error.render false).toList diagnostic line column chars) := by
  cases parsed : parseWithin engine.maxDepth source with
  | ok expr =>
      obtain ⟨program, compiled, -⟩ := Engine.compile_of_parsed parsed
      cases failed.symm.trans compiled
  | error fault =>
      cases failed.symm.trans (Engine.compile_of_failed parsed)
      obtain ⟨refused, source_eq⟩ := parseWithin_error_iff_read.mp parsed
      obtain ⟨⟨before, covered, covers⟩, grounded⟩ := Reader.covers_of_read refused
      obtain ⟨letter, distinguishes⟩ := exists_distinguishes grounded
      have nonempty : source.toList ≠ [] := by
        intro empty
        rw [empty] at refused
        cases refused
      obtain ⟨after, split⟩ := (List.prefix_append before covered).trans covers.isPrefix
      have covers : fault.diagnostic.span.Covers source.toList before covered := covers
      obtain ⟨line, column, chars, stands, points⟩ :=
        exists_pointsAt_iff covers nonempty distinguishes
      refine ⟨fault.diagnostic, before, after, line, column, chars, ?_, split.symm,
        covers.start_eq.symm, stands, ?_⟩
      · rw [Error.ofParseError, source_eq]
      · rw [Error.ofParseError, source_eq, toList_render]
        exact points

/-- Where all characters are single bytes, the report of a fault in the second line points to
it. -/
theorem render_pointsAt_iff_second_line :
    ∃ error, Engine.standard.compile "a =\n ;" = .error error ∧
      ∃ diagnostic before after line column chars,
        error = .compilation [diagnostic] "a =\n ;" ∧ diagnostic.span = ⟨5, 6⟩ ∧
        "a =\n ;".toList = before ++ after ∧
        String.utf8Len before = diagnostic.span.start ∧
        StandsAt "a =\n ;".toList before.length line column chars ∧
        PointsAt (error.render false).toList diagnostic line column chars := by
  let fault : ParseError :=
    ⟨⟨.unexpectedChar Reader.Context.expectedValue ';', ⟨5, 6⟩⟩, "a =\n ;"⟩
  have failed : Engine.standard.compile "a =\n ;" = .error (.ofParseError fault) := rfl
  obtain ⟨diagnostic, before, after, line, column, chars, error_eq, split, start_eq, stands,
    pointsAt_iff, -⟩ := render_pointsAt_iff failed
  cases error_eq
  have oneByte : ∀ char ∈ "a =\n ;".toList, char.utf8Size = 1 :=
    utf8Len_eq_length_iff.mp (by decide)
  rw [split, List.forall_mem_append] at oneByte
  exact ⟨_, failed, fault.diagnostic, before, after, line, column, chars, rfl, rfl, split,
    start_eq, stands, pointsAt_iff.mpr ⟨oneByte.1, by decide⟩⟩

/-- A letter with an accent is two bytes, so the report of a fault after it does not name the
right place, let alone point to it. -/
theorem not_pointsAt_after_accent :
    ∃ error diagnostic, Engine.standard.compile "'é' x" = .error error ∧
      error = .compilation [diagnostic] "'é' x" ∧
      "'é' x".toList = ['\'', 'é', '\'', ' '] ++ ['x'] ∧
      String.utf8Len ['\'', 'é', '\'', ' '] = diagnostic.span.start ∧
      StandsAt "'é' x".toList 4 1 5 "'é' x".toList ∧
      ¬Locates (error.render false).toList diagnostic 1 5 "'é' x".toList ∧
      ¬PointsAt (error.render false).toList diagnostic 1 5 "'é' x".toList := by
  let fault : ParseError := ⟨⟨.trailingInput 'x', ⟨5, 6⟩⟩, "'é' x"⟩
  have covers : fault.diagnostic.span.Covers "'é' x".toList ['\'', 'é', '\'', ' '] ['x'] :=
    ⟨List.prefix_refl _, by decide, by decide⟩
  have grounded : fault.kind.IsGrounded := trivial
  obtain ⟨letter, distinguishes⟩ := exists_distinguishes grounded
  have stands : StandsAt "'é' x".toList 4 1 5 "'é' x".toList :=
    ⟨[], [], by decide, rfl, rfl, by decide, Or.inl (by decide)⟩
  have notLocated : ¬Locates (Error.render false (.compilation [fault.diagnostic] "'é' x")).toList
      fault.diagnostic 1 5 "'é' x".toList := by
    intro locates
    rw [toList_render] at locates
    have nonempty : "'é' x".toList ≠ [] := by decide
    have oneByte := (oneByte_of_locates covers nonempty distinguishes stands locates).1
    exact absurd (oneByte 'é' (by decide)) (by decide)
  exact ⟨_, fault.diagnostic, rfl, rfl, by decide, covers.start_eq.symm, stands, notLocated,
    fun pointsAt => notLocated pointsAt.locates⟩

end BoxLang.Report
