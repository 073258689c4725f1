import BoxLang.Proofs.Report.Layout

/-!
# Colours

Paint is added to a report when it is written out, by control sequences around the painted
pieces.  Deleting these sequences from a coloured report leaves the report without colours,
provided that none of the texts it shows has the character that sequences start with.
-/

namespace BoxLang

/-- None of the texts of an error has a given character. -/
def Error.Lacks (char : Char) : Error → Prop
  | .compilation diagnostics source =>
      char ∉ source.toList ∧ ∀ diagnostic ∈ diagnostics, diagnostic.Lacks char
  | .runtime text | .resourceExceeded text | .unsupported text => char ∉ text.toList

namespace Report

/-- The character that control sequences start with. -/
def escape : Char := '\x1b'

/-- A text without its control sequences, which are an escape, a bracket and all that follows
up to the next `m`. -/
def withoutControls : List Char → List Char
  | [] => []
  | char :: rest =>
      if char = escape ∧ rest.head? = some '[' then
        match _ : rest.dropWhile (· ≠ 'm') with
        | [] => char :: withoutControls rest
        | _ :: after => withoutControls after
      else char :: withoutControls rest
termination_by text => text.length
decreasing_by
  · exact Nat.lt_succ_self rest.length
  · have shorter := (List.dropWhile_sublist (· ≠ 'm') (l := rest)).length_le
    rw [‹rest.dropWhile _ = _ :: after›, List.length_cons] at shorter
    exact Nat.lt_succ_of_lt shorter
  · exact Nat.lt_succ_self rest.length

section Deletion

variable {chars rest : List Char}

theorem withoutControls_append (absent : escape ∉ chars) :
    withoutControls (chars ++ rest) = chars ++ withoutControls rest := by
  induction chars with
  | nil => rfl
  | cons char chars inductionHypothesis =>
      obtain ⟨different, absentRest⟩ := not_or.mp (mt List.mem_cons.mpr absent)
      rw [List.cons_append, withoutControls, if_neg fun both => different both.1.symm,
        inductionHypothesis absentRest, List.cons_append]

theorem withoutControls_control {parameters : List Char} (absent : 'm' ∉ parameters) :
    withoutControls (Piece.control parameters ++ rest) = withoutControls rest := by
  have skipped : ('[' :: (parameters ++ 'm' :: rest)).dropWhile (· ≠ 'm') = 'm' :: rest := by
    have before : ∀ char ∈ '[' :: parameters, decide (char ≠ 'm') = true := by
      intro char member
      apply decide_eq_true
      rintro rfl
      rcases List.mem_cons.mp member with bracket | member
      · exact absurd bracket (by decide)
      · exact absent member
    rw [← List.cons_append, List.dropWhile_append_of_pos before]
    rfl
  have spelled : Piece.control parameters ++ rest =
      escape :: '[' :: (parameters ++ 'm' :: rest) := by
    simp [Piece.control, escape]
  rw [spelled, withoutControls, if_pos ⟨rfl, rfl⟩]
  split
  case h_1 ended => cases skipped.symm.trans ended
  case h_2 after found =>
    cases skipped.symm.trans found
    rfl

/-- The parameters of a colour are digits and semicolons. -/
theorem not_mem_parameters (colour : Colour) : 'm' ∉ colour.parameters := by
  cases colour with
  | red => decide
  | yellow => decide
  | palette index =>
      rw [Colour.parameters, List.mem_append, not_or]
      exact ⟨by decide, not_mem_digits (by decide) index⟩

theorem withoutControls_piece {piece : Piece} (absent : escape ∉ piece.text) :
    withoutControls (piece.chars true ++ rest) = piece.chars false ++ withoutControls rest := by
  obtain ⟨colour, text⟩ := piece
  cases colour with
  | none => exact withoutControls_append absent
  | some colour =>
      have painted : Piece.chars true ⟨some colour, text⟩ ++ rest =
          Piece.control colour.parameters ++ (text ++ (Piece.control ['0'] ++ rest)) := by
        simp [Piece.chars]
      rw [painted, withoutControls_control (not_mem_parameters colour),
        withoutControls_append absent, withoutControls_control (by decide)]
      rfl

/-- A text that is made of parts is freed from control sequences part by part. -/
theorem withoutControls_flatMap {α : Type} {painted plain : α → List Char} {items : List α}
    (parts : ∀ item ∈ items, ∀ rest,
      withoutControls (painted item ++ rest) = plain item ++ withoutControls rest) :
    withoutControls (items.flatMap painted ++ rest) =
      items.flatMap plain ++ withoutControls rest := by
  induction items with
  | nil => rfl
  | cons item items inductionHypothesis =>
      obtain ⟨first, others⟩ := List.forall_mem_cons.mp parts
      rw [List.flatMap_cons, List.append_assoc, first, inductionHypothesis others,
        List.flatMap_cons, List.append_assoc]

theorem withoutControls_row {row : Row} (absent : escape ∉ Row.text row) :
    withoutControls (Row.chars true row ++ rest) =
      Row.chars false row ++ withoutControls rest := by
  have pieces : ∀ piece ∈ row, ∀ rest, withoutControls (piece.chars true ++ rest) =
      piece.chars false ++ withoutControls rest := by
    intro piece member rest
    refine withoutControls_piece fun shown => absent ?_
    exact List.mem_flatMap.mpr ⟨piece, member, shown⟩
  have ending : withoutControls (['\n'] ++ rest) = ['\n'] ++ withoutControls rest :=
    withoutControls_append (by decide)
  rw [Row.chars, List.append_assoc, withoutControls_flatMap pieces, ending, Row.chars,
    List.append_assoc]

/-- Rows without an escape are the same with and without paint, but for control sequences. -/
theorem withoutControls_write {rows : List Row} (absent : ∀ row ∈ rows, escape ∉ Row.text row) :
    withoutControls (write true rows).toList = (write false rows).toList := by
  have freed : withoutControls (rows.flatMap (Row.chars true) ++ []) =
      rows.flatMap (Row.chars false) ++ withoutControls [] :=
    withoutControls_flatMap fun row member _ => withoutControls_row (absent row member)
  rw [withoutControls, List.append_nil, List.append_nil] at freed
  rw [write, write, String.toList_ofList, String.toList_ofList, freed]

end Deletion

section Errors

variable {error : Error}

theorem isForeign_escape : IsForeign escape :=
  ⟨by decide, by decide, by decide⟩

theorem escape_not_mem_title (diagnostic : Diagnostic) : escape ∉ diagnostic.title.toList := by
  unfold Diagnostic.title
  split <;> decide

theorem escape_not_mem_report (lacks : error.Lacks escape) :
    ∀ row ∈ error.report, escape ∉ Row.text row := by
  have line {first text : String} (absent : escape ∉ first.toList)
      (absent' : escape ∉ text.toList) :
      ∀ row ∈ [[Piece.plain (first ++ text).toList]], escape ∉ Row.text row := by
    refine List.forall_mem_singleton.mpr ?_
    simp [String.toList_append, absent, absent']
  cases error with
  | compilation diagnostics source =>
      obtain ⟨absent, lacks⟩ := lacks
      intro row member
      obtain ⟨diagnostic, memberDiagnostic, memberRow⟩ := List.mem_flatMap.mp member
      exact not_mem_report isForeign_escape (lacks diagnostic memberDiagnostic)
        (escape_not_mem_title diagnostic) absent row memberRow
  | runtime text => exact line (by decide) lacks
  | resourceExceeded text => exact line (by decide) lacks
  | unsupported text => exact line (by decide) lacks

end Errors

/-- If no text of an error has an escape, deleting the control sequences from its coloured report
leaves the report without colours, and that has no escape. An error has both reports or none. -/
theorem withoutControls_render {error : Error} (lacks : error.Lacks escape) :
    withoutControls (error.render true).toList = (error.render false).toList ∧
    escape ∉ (error.render false).toList ∧
    (error.render? true).map (fun text => String.ofList (withoutControls text.toList)) =
      error.render? false := by
  have absent := escape_not_mem_report lacks
  have freed : withoutControls (error.render true).toList = (error.render false).toList :=
    withoutControls_write absent
  refine ⟨freed, ?_, ?_⟩
  · rw [Error.render, toList_write, mem_unlines (by decide)]
    rintro ⟨line, memberLine, member⟩
    obtain ⟨row, memberRow, rfl⟩ := List.mem_map.mp memberLine
    exact absent row memberRow member
  · unfold Error.render?
    split
    · rw [Option.map_some, freed, String.ofList_toList]
    · rfl

/-- Three diagnostics: one over two lines with advice on two lines, one that goes past the end
of the text, and one without a width. -/
theorem withoutControls_render_several :
    ∃ error : Error, error.Lacks escape ∧ error.hasOrderedSpans = true ∧
      (error.render true).toList.head? = some escape ∧ '▶' ∈ (error.render false).toList ∧
      withoutControls (error.render true).toList = (error.render false).toList ∧
      (error.render? true).map (fun text => String.ofList (withoutControls text.toList)) =
        error.render? false := by
  let first : Diagnostic := ⟨.error, "Expected value", ⟨2, 6⟩, some "Give it\na value", some "P1"⟩
  let second : Diagnostic := ⟨.warning, "Too long", ⟨4, 40⟩, none, some "W"⟩
  let third : Diagnostic := ⟨.info, "Here", ⟨1, 1⟩, none, none⟩
  let error : Error := .compilation [first, second, third] "a =\n\tb\n"
  have lacks : error.Lacks escape := by
    refine ⟨by decide, ?_⟩
    simp only [List.forall_mem_cons]
    refine ⟨⟨by decide, ?_, ?_⟩, ⟨by decide, nofun, ?_⟩, ⟨by decide, nofun, nofun⟩, nofun⟩
    · rintro _ ⟨⟩
      decide
    · rintro _ ⟨⟩
      decide
    · rintro _ ⟨⟩
      decide
  obtain ⟨freed, -, both⟩ := withoutControls_render lacks
  refine ⟨error, lacks, rfl, ?_, ?_, freed, both⟩
  · rw [Error.render, write, String.toList_ofList]
    decide +kernel
  · rw [Error.render, write, String.toList_ofList]
    decide +kernel

end Report

end BoxLang
