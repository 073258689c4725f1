import BoxLang.Report.Snippet

/-!
# Places in a text

A character of a text, or its end, is in one of its lines, at a column of that line.  Looking
for the last line that starts at or before an offset finds this line.
-/

namespace BoxLang.Report

/-- The character that has `index` others before it, or the end of the text, is in the line
`chars` at a column; lines and columns are counted from one. The end of a text is in its last
line. -/
def StandsAt (text : List Char) (index line column : Nat) (chars : List Char) : Prop :=
  ∃ earlier later, splitKeepingEnds text = earlier ++ chars :: later ∧
    line = earlier.length + 1 ∧ index + 1 = earlier.flatten.length + column ∧ 0 < column ∧
    (column ≤ chars.length ∨ later = [] ∧ column = chars.length + 1)

/-- No two characters of a text are at the same place. -/
theorem StandsAt.index_eq {text chars chars' : List Char} {index index' line column : Nat}
    (stands : StandsAt text index line column chars)
    (stands' : StandsAt text index' line column chars') : index = index' := by
  obtain ⟨earlier, later, lines_eq, line_eq, index_eq, -, -⟩ := stands
  obtain ⟨earlier', later', lines_eq', line_eq', index_eq', -, -⟩ := stands'
  have length_eq : earlier.length = earlier'.length := by omega
  have earlier_eq := List.append_inj_left (lines_eq.symm.trans lines_eq') length_eq
  subst earlier_eq
  omega

theorem flatten_consLine (char : Char) (lines : List (List Char)) :
    (consLine char lines).flatten = char :: lines.flatten := by
  cases lines with
  | nil => rfl
  | cons line rest => rfl

/-- Splitting a text into lines loses nothing. -/
theorem flatten_splitKeepingEnds (text : List Char) : (splitKeepingEnds text).flatten = text := by
  induction text with
  | nil => rfl
  | cons char rest inductionHypothesis =>
      rw [splitKeepingEnds]
      split
      · rw [List.flatten_cons, inductionHypothesis]
        rfl
      · rw [flatten_consLine, inductionHypothesis]

namespace SourceLine

/-- A line is the one of a text that an offset is in. -/
def Holds (text : List Char) (offset : Nat) (line : SourceLine) : Prop :=
  ∃ earlier later, splitKeepingEnds text = earlier ++ line.chars :: later ∧
    line.index = earlier.length ∧ line.start = earlier.flatten.length ∧ line.start ≤ offset ∧
    (offset < line.stop ∨ later = [] ∧ offset = line.stop)

section Holds

variable {text : List Char} {offset : Nat} {line : SourceLine}

theorem Holds.standsAt (holds : Holds text offset line) :
    StandsAt text offset (line.index + 1) (offset - line.start + 1) line.chars := by
  obtain ⟨earlier, later, lines_eq, index_eq, start_eq, started, within⟩ := holds
  refine ⟨earlier, later, lines_eq, by omega, by omega, by omega, ?_⟩
  rw [stop] at within
  rcases within with inside | ⟨last, ending⟩
  · exact Or.inl (by omega)
  · exact Or.inr ⟨last, by omega⟩

theorem Holds.started (holds : Holds text offset line) : line.start ≤ offset := by
  obtain ⟨earlier, later, -, -, -, started, -⟩ := holds
  exact started

theorem Holds.stop_le (holds : Holds text offset line) : line.stop ≤ text.length := by
  obtain ⟨earlier, later, lines_eq, -, start_eq, -, -⟩ := holds
  have length_eq := congrArg (fun lines => lines.flatten.length) lines_eq
  simp only [flatten_splitKeepingEnds, List.flatten_append, List.flatten_cons,
    List.length_append] at length_eq
  rw [stop]
  omega

theorem Holds.lt_or_eq (holds : Holds text offset line) :
    offset < line.stop ∨ line.stop = text.length := by
  obtain ⟨earlier, later, lines_eq, -, start_eq, -, within⟩ := holds
  rcases within with inside | ⟨rfl, -⟩
  · exact Or.inl inside
  · have length_eq := congrArg (fun lines => lines.flatten.length) lines_eq
    simp only [flatten_splitKeepingEnds, List.flatten_append, List.flatten_cons,
      List.flatten_nil, List.length_append, List.length_nil] at length_eq
    rw [stop]
    omega

end Holds

/-- The last line that starts at or before an offset, among a line and those after it. -/
theorem exists_holding {offset : Nat} (line : SourceLine) (rest : List (List Char))
    (started : line.start ≤ offset) (within : offset ≤ line.stop + rest.flatten.length) :
    ∃ earlier chars later, line.chars :: rest = earlier ++ chars :: later ∧
      line.holding offset (numbered (line.index + 1) line.stop rest) =
        ⟨line.index + earlier.length, line.start + earlier.flatten.length, chars⟩ ∧
      line.start + earlier.flatten.length ≤ offset ∧
      (offset < line.start + earlier.flatten.length + chars.length ∨
        later = [] ∧ offset = line.start + earlier.flatten.length + chars.length) := by
  induction rest generalizing line with
  | nil =>
      refine ⟨[], line.chars, [], rfl, rfl, started, ?_⟩
      have last : offset ≤ line.start + line.chars.length := within
      exact (Nat.lt_or_eq_of_le last).imp_right fun equal => ⟨rfl, equal⟩
  | cons next rest inductionHypothesis =>
      rw [numbered, holding]
      split
      case isTrue startedNext =>
        obtain ⟨earlier, chars, later, lines_eq, holding_eq, started', within'⟩ :=
          inductionHypothesis ⟨line.index + 1, line.stop, next⟩ startedNext (by
            rw [List.flatten_cons, List.length_append] at within
            show offset ≤ line.stop + next.length + rest.flatten.length
            omega)
        have start_eq : line.stop + earlier.flatten.length =
            line.start + (line.chars :: earlier).flatten.length := by
          rw [List.flatten_cons, List.length_append, stop, Nat.add_assoc]
        have index_eq : line.index + 1 + earlier.length =
            line.index + (line.chars :: earlier).length := by
          rw [List.length_cons]
          omega
        simp only [start_eq, index_eq] at holding_eq started' within'
        exact ⟨line.chars :: earlier, chars, later, congrArg (line.chars :: ·) lines_eq, holding_eq,
          started', within'⟩
      case isFalse notStarted =>
        exact ⟨[], line.chars, next :: rest, rfl, rfl, started,
          Or.inl (Nat.lt_of_not_le notStarted)⟩

/-- In a text that is not empty, the line that is found for an offset is the one it is in. -/
theorem holds_holding {text : List Char} (nonempty : text ≠ []) {offset : Nat}
    (within : offset ≤ text.length) :
    Holds text offset ((ofText text).1.holding offset (ofText text).2) := by
  have flatten_eq := flatten_splitKeepingEnds text
  rw [ofText]
  cases lines_eq : splitKeepingEnds text with
  | nil =>
      rw [lines_eq] at flatten_eq
      exact absurd flatten_eq.symm nonempty
  | cons first rest =>
      have length_eq := congrArg List.length flatten_eq
      rw [lines_eq, List.flatten_cons, List.length_append] at length_eq
      have withinLines : offset ≤ 0 + first.length + rest.flatten.length := by omega
      obtain ⟨earlier, chars, later, split, holding_eq, started, within'⟩ :=
        exists_holding ⟨0, 0, first⟩ rest (Nat.zero_le offset) withinLines
      simp only [Nat.zero_add, stop] at holding_eq started within'
      simp only [holding_eq]
      exact ⟨earlier, later, lines_eq.trans split, rfl, rfl, started, within'⟩

end SourceLine

end BoxLang.Report
