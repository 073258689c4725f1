import BoxLang.Expr.Nesting
import BoxLang.Reader.Grammar

/-!
# Reading numerals

What has been read of a number is a sign or nothing, and then a start of an
unsigned number.  A numeral goes on with exactly the characters that make another
start, and it may end exactly where the start is a whole number.  The value that is
computed from the characters is then the one that the places of the digits give.
-/

namespace BoxLang.Reader

/-- What may stand before the digits of a number. -/
inductive IsLead : List Char → Prop
  | none : IsLead []
  | sign {sign : Char} : Numeral.isSign sign = true → IsLead [sign]

/-- What may have been read of an unsigned number. -/
inductive IsStart : List Char → Prop
  | nothing : IsStart []
  | whole {text : List Char} : IsUnsigned text → IsStart text
  | separator {text : List Char} : IsUnsigned text → IsStart (text ++ ['_'])
  | point {text : List Char} : IsDigits text → IsStart (text ++ ['.'])

/-- A start of an unsigned number may go on with a character. -/
inductive Continues : List Char → Char → Prop
  | digit {text : List Char} {char : Char} : char.isDigit = true → Continues text char
  | separator {text : List Char} : IsUnsigned text → Continues text '_'
  | point {text : List Char} : IsDigits text → Continues text '.'

theorem isNumeral_iff {text : List Char} :
    IsNumeral text ↔ ∃ lead body, text = lead ++ body ∧ IsLead lead ∧ IsUnsigned body := by
  constructor
  · rintro (unsigned | ⟨sign, unsigned⟩)
    · exact ⟨[], _, rfl, .none, unsigned⟩
    · exact ⟨[_], _, rfl, .sign sign, unsigned⟩
  · rintro ⟨lead, body, rfl, none | sign, unsigned⟩
    · exact .unsigned unsigned
    · exact .signed sign unsigned

section Digits

variable {text init : List Char} {char last : Char}

theorem isDigit_of_isSign (sign : Numeral.isSign char = true) : char.isDigit = false := by
  simp only [Numeral.isSign, Bool.or_eq_true, beq_iff_eq] at sign
  rcases sign with rfl | rfl <;> rfl

theorem IsDigits.exists_snoc (digits : IsDigits text) :
    ∃ init last, text = init ++ [last] ∧ last.isDigit = true ∧ IsStart init ∧
      ∀ whole, IsDigits whole → IsStart (whole ++ '.' :: init) := by
  cases digits with
  | @digit char last => exact ⟨[], char, rfl, last, .nothing, fun whole => .point⟩
  | @snoc text char digits last =>
      refine ⟨text, char, rfl, last, .whole (.whole digits), ?_⟩
      intro whole wholeDigits
      exact .whole (.fraction wholeDigits digits)
  | @separated text char digits last =>
      refine ⟨text ++ ['_'], char, by simp, last, .separator (.whole digits), ?_⟩
      intro whole wholeDigits
      rw [← List.cons_append, ← List.append_assoc]
      exact .separator (.fraction wholeDigits digits)

/-- The last character of an unsigned number is a digit after a start of it. -/
theorem IsUnsigned.exists_snoc (unsigned : IsUnsigned text) :
    ∃ init last, text = init ++ [last] ∧ last.isDigit = true ∧ IsStart init := by
  cases unsigned with
  | whole digits =>
      obtain ⟨init, last, rfl, digit, start, -⟩ := digits.exists_snoc
      exact ⟨init, last, rfl, digit, start⟩
  | @fraction whole _ wholeDigits digits =>
      obtain ⟨init, last, rfl, digit, -, start⟩ := digits.exists_snoc
      exact ⟨whole ++ '.' :: init, last, by simp, digit, start whole wholeDigits⟩

theorem IsDigits.isDigit_or_separator (digits : IsDigits text) :
    ∀ char ∈ text, char.isDigit = true ∨ char = '_' := by
  induction digits with
  | digit last => simp [last]
  | snoc _ last inductionHypothesis =>
      rw [List.forall_mem_append]
      exact ⟨inductionHypothesis, by simp [last]⟩
  | separated _ last inductionHypothesis =>
      rw [List.forall_mem_append]
      exact ⟨inductionHypothesis, by simp [last]⟩

theorem IsDigits.point_not_mem (digits : IsDigits text) : '.' ∉ text := by
  intro member
  exact absurd (digits.isDigit_or_separator '.' member) (by decide)

theorem isDigits_iff : IsDigits text ↔ IsUnsigned text ∧ '.' ∉ text := by
  constructor
  · intro digits
    exact ⟨.whole digits, digits.point_not_mem⟩
  · rintro ⟨digits | ⟨_, _⟩, pointless⟩
    · exact digits
    · simp at pointless

theorem IsUnsigned.snoc (unsigned : IsUnsigned text) (digit : char.isDigit = true) :
    IsUnsigned (text ++ [char]) := by
  cases unsigned with
  | whole digits => exact .whole (.snoc digits digit)
  | fraction whole digits =>
      rw [List.append_assoc, List.cons_append]
      exact .fraction whole (.snoc digits digit)

theorem IsUnsigned.separated (unsigned : IsUnsigned text) (digit : char.isDigit = true) :
    IsUnsigned (text ++ ['_', char]) := by
  cases unsigned with
  | whole digits => exact .whole (.separated digits digit)
  | fraction whole digits =>
      rw [List.append_assoc, List.cons_append]
      exact .fraction whole (.separated digits digit)

theorem IsStart.snoc (start : IsStart text) (continues : Continues text char) :
    IsStart (text ++ [char]) := by
  cases continues with
  | separator unsigned => exact .separator unsigned
  | point digits => exact .point digits
  | digit digit =>
      cases start with
      | nothing => exact .whole (.whole (.digit digit))
      | whole unsigned => exact .whole (unsigned.snoc digit)
      | separator unsigned =>
          rw [List.append_assoc]
          exact .whole (unsigned.separated digit)
      | point digits =>
          rw [List.append_assoc]
          exact .whole (.fraction digits (.digit digit))

theorem IsStart.exists_snoc (start : IsStart text) (nonempty : text ≠ []) :
    ∃ init last, text = init ++ [last] ∧ IsStart init ∧ Continues init last := by
  cases start with
  | nothing => exact absurd rfl nonempty
  | whole unsigned =>
      obtain ⟨init, last, rfl, digit, start⟩ := unsigned.exists_snoc
      exact ⟨init, last, rfl, start, .digit digit⟩
  | separator unsigned => exact ⟨_, '_', rfl, .whole unsigned, .separator unsigned⟩
  | point digits => exact ⟨_, '.', rfl, .whole (.whole digits), .point digits⟩

theorem IsUnsigned.isDigit_last (unsigned : IsUnsigned (init ++ [last])) :
    last.isDigit = true := by
  obtain ⟨init', last', same, digit, -⟩ := unsigned.exists_snoc
  have equal : init = init' ∧ last = last' := by simpa using same
  rw [equal.2]
  exact digit

end Digits

section Flags

variable {lead body : List Char}

theorem IsUnsigned.ne_nil (unsigned : IsUnsigned body) : body ≠ [] := by
  obtain ⟨init, last, rfl, -⟩ := unsigned.exists_snoc
  simp

theorem IsStart.lacksDigits_iff (isStart : IsStart body) (isLead : IsLead lead) (start : Nat) :
    (Numeral.mk start (lead ++ body).reverse).lacksDigits = true ↔ body = [] := by
  have signs : lead.all Numeral.isSign = true := by
    cases isLead with
    | none => rfl
    | sign sign => simp [sign]
  simp only [Numeral.lacksDigits, List.all_reverse, List.all_append, signs, Bool.true_and]
  constructor
  · intro all
    apply Decidable.byContradiction
    intro nonempty
    obtain ⟨init, last, rfl, -, continues⟩ := isStart.exists_snoc nonempty
    have sign : Numeral.isSign last = true := by simp_all
    cases continues with
    | digit digit => simp [isDigit_of_isSign sign] at digit
    | separator => exact absurd sign (by decide)
    | point => exact absurd sign (by decide)
  · rintro rfl
    rfl

theorem IsStart.endsInDigit_iff (isStart : IsStart body) (isLead : IsLead lead) (start : Nat) :
    (Numeral.mk start (lead ++ body).reverse).endsInDigit = true ↔ IsUnsigned body := by
  cases isStart with
  | nothing =>
      have empty : ¬IsUnsigned [] := fun unsigned => unsigned.ne_nil rfl
      cases isLead with
      | none => simp [Numeral.endsInDigit, empty]
      | sign sign => simp [Numeral.endsInDigit, empty, isDigit_of_isSign sign]
  | whole unsigned =>
      obtain ⟨init, last, rfl, digit, -⟩ := unsigned.exists_snoc
      simp [Numeral.endsInDigit, digit, unsigned]
  | separator _ =>
      refine ⟨fun ends => ?_, fun unsigned => ?_⟩
      · simp [Numeral.endsInDigit] at ends
      · exact absurd unsigned.isDigit_last (by decide)
  | point _ =>
      refine ⟨fun ends => ?_, fun unsigned => ?_⟩
      · simp [Numeral.endsInDigit] at ends
      · exact absurd unsigned.isDigit_last (by decide)

theorem IsLead.point_not_mem (isLead : IsLead lead) : '.' ∉ lead := by
  cases isLead with
  | none => simp
  | sign sign =>
      intro member
      cases List.mem_singleton.mp member
      exact absurd sign (by decide)

theorem IsLead.hasPoint_iff (isLead : IsLead lead) (body : List Char) (start : Nat) :
    (Numeral.mk start (lead ++ body).reverse).hasPoint = true ↔ '.' ∈ body := by
  simp [Numeral.hasPoint, isLead.point_not_mem]

end Flags

/-- A numeral goes on with exactly the characters that the grammar allows. -/
theorem IsStart.next_iff {lead body : List Char} {start : Nat} {char : Char} {numeral : Numeral}
    (isStart : IsStart body) (isLead : IsLead lead) :
    (Numeral.mk start (lead ++ body).reverse).next char = .longer numeral ↔
      Continues body char ∧ numeral = ⟨start, (lead ++ (body ++ [char])).reverse⟩ := by
  have lacks := isStart.lacksDigits_iff isLead start
  have ends := isStart.endsInDigit_iff isLead start
  have hasPoint := isLead.hasPoint_iff body start
  have pushed : (Numeral.mk start (lead ++ body).reverse).push char =
      ⟨start, (lead ++ (body ++ [char])).reverse⟩ := by simp [Numeral.push]
  rw [← pushed]
  generalize Numeral.mk start (lead ++ body).reverse = begun at lacks ends hasPoint pushed
  constructor
  · intro longer
    unfold Numeral.next at longer
    split at longer
    case isTrue digit =>
      cases longer
      exact ⟨.digit digit, rfl⟩
    case isFalse =>
      split at longer
      case isTrue => cases longer
      case isFalse =>
        split at longer
        case isTrue isPoint =>
          subst isPoint
          split at longer
          case isTrue => cases longer
          case isFalse pointless =>
            split at longer
            case isTrue ended =>
              cases longer
              have digits : IsDigits body :=
                isDigits_iff.mpr ⟨ends.mp ended, fun member => pointless (hasPoint.mpr member)⟩
              exact ⟨.point digits, rfl⟩
            case isFalse => cases longer
        case isFalse =>
          split at longer
          case isTrue isSeparator =>
            subst isSeparator
            split at longer
            case isTrue ended =>
              cases longer
              exact ⟨.separator (ends.mp ended), rfl⟩
            case isFalse => cases longer
          case isFalse => cases longer
  · rintro ⟨continues, rfl⟩
    cases continues with
    | digit digit => simp [Numeral.next, digit]
    | separator unsigned =>
        have some : begun.lacksDigits = false := by
          simp [← Bool.not_eq_true, lacks, unsigned.ne_nil]
        simp [Numeral.next, some, ends.mpr unsigned]
    | point digits =>
        obtain ⟨unsigned, pointless⟩ := isDigits_iff.mp digits
        have some : begun.lacksDigits = false := by
          simp [← Bool.not_eq_true, lacks, unsigned.ne_nil]
        have none : begun.hasPoint = false := by simp [← Bool.not_eq_true, hasPoint, pointless]
        simp [Numeral.next, some, none, ends.mpr unsigned]

/-- A numeral may end exactly where it is a whole number. -/
theorem IsStart.endingFlaw?_eq_none_iff {lead body : List Char} (isStart : IsStart body)
    (isLead : IsLead lead) (start : Nat) :
    (Numeral.mk start (lead ++ body).reverse).endingFlaw? = none ↔ IsUnsigned body := by
  have lacks := isStart.lacksDigits_iff isLead start
  have newest {init : List Char} {last : Char} (split : body = init ++ [last]) :
      (Numeral.mk start (lead ++ body).reverse).chars.head? = some last := by simp [split]
  generalize Numeral.mk start (lead ++ body).reverse = begun at lacks newest
  unfold Numeral.endingFlaw?
  cases isStart with
  | nothing =>
      have empty : ¬IsUnsigned [] := fun unsigned => unsigned.ne_nil rfl
      simp [lacks, empty]
  | whole unsigned =>
      obtain ⟨init, last, split, digit, -⟩ := unsigned.exists_snoc
      have notSeparator : last ≠ '_' := by
        rintro rfl
        exact absurd digit (by decide)
      have notPoint : last ≠ '.' := by
        rintro rfl
        exact absurd digit (by decide)
      simp [lacks, unsigned.ne_nil, newest split, notSeparator, notPoint, unsigned]
  | separator _ =>
      refine ⟨fun flawless => ?_, fun unsigned => ?_⟩
      · simp [lacks, newest rfl] at flawless
      · exact absurd unsigned.isDigit_last (by decide)
  | point _ =>
      refine ⟨fun flawless => ?_, fun unsigned => ?_⟩
      · simp [lacks, newest rfl] at flawless
      · exact absurd unsigned.isDigit_last (by decide)

section Values

variable {text : List Char} {literal : Expr}

theorem foldl_digits (text : List Char) (value : Nat) :
    (text.filter Char.isDigit).foldl (fun value char => 10 * value + (char.toNat - 48)) value =
      value * Nat.pow 10 (digitCount text) + decimalValue text := by
  induction text generalizing value with
  | nil => simp [digitCount, decimalValue]
  | cons char text inductionHypothesis =>
      cases digit : char.isDigit with
      | false =>
          have count : digitCount (char :: text) = digitCount text := by simp [digitCount, digit]
          simpa [decimalValue, digit, count] using inductionHypothesis value
      | true =>
          have count : digitCount (char :: text) = digitCount text + 1 := by
            simp [digitCount, digit]
          have power : Nat.pow 10 (digitCount text + 1) = Nat.pow 10 (digitCount text) * 10 := rfl
          rw [List.filter_cons_of_pos digit, List.foldl_cons, inductionHypothesis, count, power,
            decimalValue, if_pos digit, Nat.add_mul, Nat.add_assoc, Nat.mul_comm 10 value,
            Nat.mul_assoc, Nat.mul_comm 10]
          rfl

theorem digitsValue_eq (text : List Char) : Numeral.digitsValue text = decimalValue text := by
  rw [Numeral.digitsValue, foldl_digits, Nat.zero_mul, Nat.zero_add]

theorem IsUnsigned.minus_not_mem (unsigned : IsUnsigned text) : '-' ∉ text := by
  have none : ∀ {digits : List Char}, IsDigits digits → '-' ∉ digits := by
    intro digits isDigits member
    exact absurd (isDigits.isDigit_or_separator '-' member) (by decide)
  cases unsigned with
  | whole digits => exact none digits
  | fraction whole fraction => simp [none whole, none fraction]

theorem IsNumeral.isNegative_eq (numeral : IsNumeral text) (start : Nat) :
    (Numeral.mk start text.reverse).isNegative = decide (text.head? = some '-') := by
  cases numeral with
  | unsigned unsigned =>
      have absent := unsigned.minus_not_mem
      have first : text.head? ≠ some '-' := by
        intro head
        exact absent (List.mem_of_mem_head? head)
      simp [Numeral.isNegative, absent, first]
  | signed _ unsigned =>
      have absent := unsigned.minus_not_mem
      simp [Numeral.isNegative, absent, eq_comm]

theorem IsNumeral.integer_eq (numeral : IsNumeral text) (start : Nat) :
    (Numeral.mk start text.reverse).integer = integerValue text := by
  simp only [Numeral.integer, numeral.isNegative_eq, List.reverse_reverse, digitsValue_eq,
    integerValue, decide_eq_true_eq]

theorem IsNumeral.exists_split (numeral : IsNumeral text) (point : '.' ∈ text) :
    ∃ before after, text = before ++ '.' :: after ∧ '.' ∉ before ∧ '.' ∉ after := by
  obtain ⟨lead, body, rfl, isLead, unsigned⟩ := isNumeral_iff.mp numeral
  cases unsigned with
  | whole digits =>
      rcases List.mem_append.mp point with member | member
      · exact absurd member isLead.point_not_mem
      · exact absurd member digits.point_not_mem
  | @fraction whole fraction wholeDigits digits =>
      refine ⟨lead ++ whole, fraction, (List.append_assoc ..).symm, ?_, digits.point_not_mem⟩
      simp [isLead.point_not_mem, wholeDigits.point_not_mem]

theorem IsNumeral.real_eq (numeral : IsNumeral text) (point : '.' ∈ text) (start : Nat) :
    (Numeral.mk start text.reverse).real = realValue text := by
  obtain ⟨before, after, split, notBefore, notAfter⟩ := numeral.exists_split point
  have length : (Numeral.mk start text.reverse).fractionLength =
      digitCount (text.dropWhile (· ≠ '.')) := by
    have kept : ∀ char ∈ after.reverse, decide (char ≠ '.') = true := by
      rintro char member
      apply decide_eq_true
      rintro rfl
      exact notAfter (List.mem_reverse.mp member)
    have dropped : ∀ char ∈ before, decide (char ≠ '.') = true := by
      rintro char member
      apply decide_eq_true
      rintro rfl
      exact notBefore member
    rw [Numeral.fractionLength, split, List.reverse_append, List.reverse_cons, List.append_assoc,
      List.takeWhile_append_of_pos kept, List.dropWhile_append_of_pos dropped]
    simp [digitCount, List.countP_eq_length_filter]
  simp only [Numeral.real, numeral.isNegative_eq, List.reverse_reverse, digitsValue_eq, length,
    realValue]

theorem IsNumeral.literal?_eq_some_iff (numeral : IsNumeral text) (start : Nat) :
    (Numeral.mk start text.reverse).literal? = some literal ↔ DerivesNumber text literal := by
  have hasPoint : (Numeral.mk start text.reverse).hasPoint = true ↔ '.' ∈ text := by
    simp [Numeral.hasPoint]
  unfold Numeral.literal?
  by_cases point : '.' ∈ text
  · rw [if_pos (hasPoint.mpr point), numeral.real_eq point]
    constructor
    · intro denotes
      split at denotes
      case isTrue finite =>
        cases denotes
        exact .real numeral point finite
      case isFalse => cases denotes
    · intro derives
      cases derives with
      | integer _ pointless => exact absurd point pointless
      | real _ _ finite => rw [if_pos finite]
  · rw [if_neg fun flag => point (hasPoint.mp flag), numeral.integer_eq]
    constructor
    · intro denotes
      split at denotes
      case isTrue bounded =>
        cases denotes
        exact .integer numeral point bounded.1 bounded.2
      case isFalse => cases denotes
    · intro derives
      cases derives with
      | integer _ _ lower upper => rw [if_pos ⟨lower, upper⟩]
      | real _ point' => exact absurd point' point

theorem DerivesNumber.isNumeral (derives : DerivesNumber text literal) : IsNumeral text := by
  cases derives with
  | integer numeral => exact numeral
  | real numeral => exact numeral

theorem DerivesNumber.nesting_eq (derives : DerivesNumber text literal) :
    literal.nesting = 0 := by
  cases derives with
  | integer => rfl
  | real => rfl

theorem IsStart.derivesNumber {lead body : List Char} {start : Nat} (isStart : IsStart body)
    (isLead : IsLead lead)
    (closed : (Numeral.mk start (lead ++ body).reverse).close = .ok literal) :
    DerivesNumber (lead ++ body) literal := by
  unfold Numeral.close at closed
  split at closed
  case h_1 => cases closed
  case h_2 flawless =>
    have unsigned := (isStart.endingFlaw?_eq_none_iff isLead start).mp flawless
    have numeral := isNumeral_iff.mpr ⟨lead, body, rfl, isLead, unsigned⟩
    split at closed
    case h_1 denotes =>
      cases closed
      exact (numeral.literal?_eq_some_iff start).mp denotes
    case h_2 => cases closed

theorem DerivesNumber.close_eq (derives : DerivesNumber text literal) (start : Nat) :
    (Numeral.mk start text.reverse).close = .ok literal := by
  have denotes := (derives.isNumeral.literal?_eq_some_iff start).mpr derives
  obtain ⟨lead, body, rfl, isLead, unsigned⟩ := isNumeral_iff.mp derives.isNumeral
  have flawless := ((IsStart.whole unsigned).endingFlaw?_eq_none_iff isLead start).mpr unsigned
  simp only [Numeral.close, flawless, denotes]

end Values

end BoxLang.Reader
