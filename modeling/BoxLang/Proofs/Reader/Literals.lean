import Mathlib.Data.List.Induction
import Mathlib.Data.List.TakeWhile
import BoxLang.Heap.Show
import BoxLang.Proofs.Heap.References
import BoxLang.Proofs.Reader.Moves
import BoxLang.Proofs.Reader.Positions
import BoxLang.Proofs.Reader.Shapes

/-!
# Number literals

A number goes as far as digits, points and separators go, whether they are in their places or
not.  It is read as a whole exactly if it is a numeral of the grammar that its type can hold, and
then it stands for what it says.
-/

namespace BoxLang

namespace Reader

/-- The characters that a number may go on with, in their places or not. -/
def continuesNumeral (char : Char) : Bool :=
  char.isDigit || char == '.' || char == '_'

/-- Reads a numeral that has begun as far as it goes.  What comes after it is left unread. -/
def scan (numeral : Numeral) : List Char → Except Fault (Expr × List Char)
  | [] => numeral.close.map fun literal => (literal, [])
  | char :: unread =>
      match numeral.next char with
      | .longer numeral => scan numeral unread
      | .malformed reason => .error ⟨.invalidNumber reason, numeral.span⟩
      | .ended => numeral.close.map fun literal => (literal, char :: unread)

section Characters

variable {numeral numeral' : Numeral} {char : Char}

theorem continuesNumeral_of_longer (longer : numeral.next char = .longer numeral') :
    continuesNumeral char = true := by
  unfold Numeral.next at longer
  grind [continuesNumeral]

theorem next_eq_ended_iff :
    numeral.next char = .ended ↔ continuesNumeral char = false ∧ numeral.lacksDigits = false := by
  unfold Numeral.next continuesNumeral
  grind

theorem continuesNumeral_of_isSign (sign : Numeral.isSign char = true) :
    continuesNumeral char = false := by
  rcases (Bool.or_eq_true _ _).mp sign with minus | plus
  · rw [eq_of_beq minus]
    rfl
  · rw [eq_of_beq plus]
    rfl

theorem IsDigits.continuesNumeral {text : List Char} (digits : IsDigits text) :
    ∀ char ∈ text, continuesNumeral char = true := by
  intro char member
  rcases digits.isDigit_or_separator char member with digit | rfl
  · simp [Reader.continuesNumeral, digit]
  · rfl

theorem IsUnsigned.continuesNumeral {text : List Char} (unsigned : IsUnsigned text) :
    ∀ char ∈ text, continuesNumeral char = true := by
  cases unsigned with
  | whole digits => exact digits.continuesNumeral
  | fraction whole fraction =>
      rw [List.forall_mem_append, List.forall_mem_cons]
      exact ⟨whole.continuesNumeral, rfl, fraction.continuesNumeral⟩

theorem IsStart.continuesNumeral {text : List Char} (start : IsStart text) :
    ∀ char ∈ text, continuesNumeral char = true := by
  cases start with
  | nothing => exact List.forall_mem_nil _
  | whole unsigned => exact unsigned.continuesNumeral
  | separator unsigned =>
      rw [List.forall_mem_append, List.forall_mem_singleton]
      exact ⟨unsigned.continuesNumeral, rfl⟩
  | point digits =>
      rw [List.forall_mem_append, List.forall_mem_singleton]
      exact ⟨digits.continuesNumeral, rfl⟩

end Characters

section Prefixes

variable {lead body more : List Char} {char : Char}

theorem IsStart.of_append (start : IsStart (body ++ more)) : IsStart body := by
  induction more using List.reverseRecOn with
  | nil => rwa [List.append_nil] at start
  | append_singleton more last inductionHypothesis =>
      rw [← List.append_assoc] at start
      obtain ⟨init, last', same, initStart, -⟩ := start.exists_snoc (by simp)
      obtain ⟨rfl, -⟩ := List.append_inj' same rfl
      exact inductionHypothesis initStart

/-- Every character of an unsigned number continues what comes before it. -/
theorem IsUnsigned.continues (unsigned : IsUnsigned (body ++ char :: more)) :
    Continues body char := by
  rw [List.append_cons] at unsigned
  have start := (IsStart.whole unsigned).of_append
  obtain ⟨init, last, same, -, continues⟩ := start.exists_snoc (by simp)
  obtain ⟨rfl, rfl⟩ : body = init ∧ char = last := by simpa using same
  exact continues

theorem IsLead.isNumeral_iff (isLead : IsLead lead)
    (inside : ∀ char ∈ body, continuesNumeral char = true) :
    IsNumeral (lead ++ body) ↔ IsUnsigned body := by
  constructor
  · intro numeral
    cases isLead with
    | none =>
        cases numeral with
        | unsigned unsigned => exact unsigned
        | signed sign =>
            have continues := inside _ List.mem_cons_self
            rw [continuesNumeral_of_isSign sign] at continues
            cases continues
    | sign sign =>
        cases numeral with
        | unsigned unsigned =>
            have continues := unsigned.continuesNumeral _ List.mem_cons_self
            rw [continuesNumeral_of_isSign sign] at continues
            cases continues
        | signed _ unsigned => exact unsigned
  · intro unsigned
    exact Reader.isNumeral_iff.mpr ⟨lead, body, rfl, isLead, unsigned⟩

end Prefixes

/-- What may come of a number that starts at an offset. -/
inductive Scanned (start : Nat) (written rest : List Char) :
    Except Fault (Expr × List Char) → Prop
  | number {literal : Expr} :
      DerivesNumber written literal → Scanned start written rest (.ok (literal, rest))
  | outOfRange :
      IsNumeral written → (∀ literal, ¬DerivesNumber written literal) →
      Scanned start written rest
        (.error ⟨.numberOutOfRange (String.ofList written), ⟨start, start + written.length⟩⟩)
  | malformed {reason : String} {span : Span} :
      ¬IsNumeral written → Scanned start written rest (.error ⟨.invalidNumber reason, span⟩)

section Scanning

variable {start : Nat} {lead body : List Char}

theorem scanned_close (isLead : IsLead lead) (isStart : IsStart body) (rest : List Char) :
    Scanned start (lead ++ body) rest
      ((Numeral.mk start (lead ++ body).reverse).close.map fun literal => (literal, rest)) := by
  have numeral_iff := isLead.isNumeral_iff isStart.continuesNumeral
  have flawless_iff := isStart.endingFlaw?_eq_none_iff isLead start
  unfold Numeral.close
  split
  case h_1 reason flawed =>
    apply Scanned.malformed
    rw [numeral_iff, ← flawless_iff, flawed]
    exact nofun
  case h_2 flawless =>
    have numeral := numeral_iff.mpr (flawless_iff.mp flawless)
    split
    case h_1 literal denoted =>
      exact .number ((numeral.literal?_eq_some_iff start).mp denoted)
    case h_2 undenoted =>
      have outOfRange : ∀ literal, ¬DerivesNumber (lead ++ body) literal := by
        intro literal derives
        rw [(numeral.literal?_eq_some_iff start).mpr derives] at undenoted
        cases undenoted
      have scanned := @Scanned.outOfRange start _ rest numeral outOfRange
      simpa [Except.map, Numeral.text, Numeral.span, Nat.add_comm body.length] using scanned

/-- A numeral that has begun well is read as far as it goes. -/
theorem scanned_scan (isLead : IsLead lead) (isStart : IsStart body) (unread : List Char) :
    Scanned start (lead ++ (body ++ unread.takeWhile continuesNumeral))
      (unread.dropWhile continuesNumeral)
      (scan (Numeral.mk start (lead ++ body).reverse) unread) := by
  induction unread generalizing body with
  | nil =>
      rw [List.takeWhile_nil, List.append_nil]
      exact scanned_close isLead isStart []
  | cons char unread inductionHypothesis =>
      rw [scan]
      split
      case h_1 numeral' longer =>
        have continues := continuesNumeral_of_longer longer
        obtain ⟨continued, rfl⟩ := (isStart.next_iff isLead).mp longer
        have scanned := inductionHypothesis (isStart.snoc continued)
        rw [List.append_assoc, List.singleton_append] at scanned
        rwa [List.takeWhile_cons_of_pos continues, List.dropWhile_cons_of_pos continues]
      case h_2 reason malformed =>
        apply Scanned.malformed
        by_cases continues : continuesNumeral char = true
        · have inside : ∀ other ∈ body ++ char :: unread.takeWhile continuesNumeral,
              continuesNumeral other = true := by
            rw [List.forall_mem_append, List.forall_mem_cons]
            exact ⟨isStart.continuesNumeral, continues, fun _ => List.mem_takeWhile_imp⟩
          rw [List.takeWhile_cons_of_pos continues, isLead.isNumeral_iff inside]
          intro unsigned
          have longer : (Numeral.mk start (lead ++ body).reverse).next char = .longer _ :=
            (isStart.next_iff isLead).mpr ⟨unsigned.continues, rfl⟩
          rw [malformed] at longer
          cases longer
        · rw [List.takeWhile_cons_of_neg continues, List.append_nil,
            isLead.isNumeral_iff isStart.continuesNumeral]
          intro unsigned
          have digits := (isStart.lacksDigits_iff isLead start).not.mpr unsigned.ne_nil
          have ended := next_eq_ended_iff.mpr
            ⟨Bool.eq_false_iff.mpr continues, Bool.eq_false_iff.mpr digits⟩
          rw [malformed] at ended
          cases ended
      case h_3 ended =>
        have continues := Bool.eq_false_iff.mp (next_eq_ended_iff.mp ended).1
        rw [List.takeWhile_cons_of_neg continues, List.dropWhile_cons_of_neg continues,
          List.append_nil]
        exact scanned_close isLead isStart (char :: unread)

theorem scanned_begin {char : Char}
    (begins : char.isDigit = true ∨ Numeral.isSign char = true) (start : Nat)
    (unread : List Char) :
    Scanned start (char :: unread.takeWhile continuesNumeral)
      (unread.dropWhile continuesNumeral) (scan (.begin start char) unread) := by
  rcases begins with digit | sign
  · exact scanned_scan .none (.whole (.whole (.digit digit))) unread
  · exact scanned_scan (.sign sign) .nothing unread

end Scanning

section Readers

variable {maxDepth offset : Nat} {context : Context}

/-- The reader goes on after a numeral where the numeral ends. -/
theorem readOn_numeral (numeral : Numeral) (unread : List Char) :
    State.readOn maxDepth ⟨offset, context, .numeral numeral⟩ unread =
      scan numeral unread >>= fun (literal, rest) =>
        State.readOn maxDepth
          ⟨offset + String.utf8Len (unread.takeWhile continuesNumeral), context.add literal,
            .complete⟩ rest := by
  induction unread generalizing offset numeral with
  | nil =>
      show State.finish maxDepth ⟨offset, context, .numeral numeral⟩ = _
      cases closed : numeral.close with
      | error fault =>
          simp only [State.finish, scan, closed]
          rfl
      | ok literal =>
          simp only [State.finish, scan, closed]
          rfl
  | cons char unread inductionHypothesis =>
      rw [State.readOn_cons, State.next, scan]
      simp only [State.move, State.inNumeral]
      cases moved : numeral.next char with
      | longer numeral' =>
          have continues := continuesNumeral_of_longer moved
          rw [List.takeWhile_cons_of_pos continues, String.utf8Len_cons,
            Nat.add_comm (String.utf8Len _), ← Nat.add_assoc]
          exact inductionHypothesis numeral'
      | malformed reason => rfl
      | ended =>
          have continues := Bool.eq_false_iff.mp (next_eq_ended_iff.mp moved).1
          rw [List.takeWhile_cons_of_neg continues]
          cases numeral.close with
          | error fault => rfl
          | ok literal =>
              exact (State.readOn_cons maxDepth ⟨offset, context.add literal, .complete⟩ char
                unread).symm

theorem readOn_number {char : Char}
    (begins : char.isDigit = true ∨ Numeral.isSign char = true) (unread : List Char) :
    State.readOn maxDepth ⟨offset, context, .ready⟩ (char :: unread) =
      scan (.begin offset char) unread >>= fun (literal, rest) =>
        State.readOn maxDepth
          ⟨offset + String.utf8Len (char :: unread.takeWhile continuesNumeral),
            context.add literal, .complete⟩ rest := by
  rw [State.readOn_cons, State.next, move_numeral begins, String.utf8Len_cons,
    Nat.add_comm (String.utf8Len _), ← Nat.add_assoc]
  exact readOn_numeral (.begin offset char) unread

end Readers

/-- The text of a number without the separators between its digits. -/
def withoutSeparators (written : List Char) : List Char :=
  written.filter (· ≠ '_')

/-- The type of a number can hold what it says: 64 bits for an integer, a finite real. -/
def InRange (written : List Char) : Prop :=
  if '.' ∈ written then (realValue (withoutSeparators written)).isFinite = true
  else -9223372036854775808 ≤ integerValue (withoutSeparators written) ∧
    integerValue (withoutSeparators written) ≤ 9223372036854775807

/-- A literal is what a number says, a real if it has a point. -/
inductive Denotes (written : List Char) : Expr → Prop
  | integer {value : Int64} :
      '.' ∉ written → value.toInt = integerValue (withoutSeparators written) →
      Denotes written (.integer value)
  | real : '.' ∈ written → Denotes written (.real (realValue (withoutSeparators written)))

section Separators

theorem withoutSeparators_cons_of_ne {char : Char} (differs : char ≠ '_') (text : List Char) :
    withoutSeparators (char :: text) = char :: withoutSeparators text := by
  simp [withoutSeparators, differs]

theorem withoutSeparators_cons (text : List Char) :
    withoutSeparators ('_' :: text) = withoutSeparators text := by
  simp [withoutSeparators]

@[simp]
theorem digitCount_withoutSeparators (text : List Char) :
    digitCount (withoutSeparators text) = digitCount text := by
  rw [digitCount, withoutSeparators, List.countP_filter, digitCount]
  apply List.countP_congr
  intro char _
  by_cases separator : char = '_'
  · simp [separator]
  · simp [separator]

@[simp]
theorem decimalValue_withoutSeparators (text : List Char) :
    decimalValue (withoutSeparators text) = decimalValue text := by
  induction text with
  | nil => rfl
  | cons char text inductionHypothesis =>
      by_cases separator : char = '_'
      · rw [separator, withoutSeparators_cons, inductionHypothesis]
        rfl
      · rw [withoutSeparators_cons_of_ne separator]
        simp [decimalValue, inductionHypothesis]

theorem dropWhile_withoutSeparators (text : List Char) :
    (withoutSeparators text).dropWhile (· ≠ '.') =
      withoutSeparators (text.dropWhile (· ≠ '.')) := by
  induction text with
  | nil => rfl
  | cons char text inductionHypothesis =>
      by_cases separator : char = '_'
      · rw [separator, withoutSeparators_cons, inductionHypothesis]
        rfl
      · rw [withoutSeparators_cons_of_ne separator]
        by_cases point : char = '.'
        · simp [point, withoutSeparators_cons_of_ne]
        · simpa [point] using inductionHypothesis

variable {char : Char} {text : List Char}

theorem integerValue_withoutSeparators (differs : char ≠ '_') :
    integerValue (withoutSeparators (char :: text)) = integerValue (char :: text) := by
  rw [integerValue, decimalValue_withoutSeparators, withoutSeparators_cons_of_ne differs]
  rfl

theorem realValue_withoutSeparators (differs : char ≠ '_') :
    realValue (withoutSeparators (char :: text)) = realValue (char :: text) := by
  rw [realValue, decimalValue_withoutSeparators, dropWhile_withoutSeparators,
    digitCount_withoutSeparators, withoutSeparators_cons_of_ne differs]
  rfl

end Separators

section Ranges

variable {char : Char} {text : List Char} {literal : Expr}

theorem InRange.exists_denotes (inRange : InRange text) : ∃ literal, Denotes text literal := by
  by_cases point : '.' ∈ text
  · exact ⟨_, .real point⟩
  · rw [InRange, if_neg point] at inRange
    refine ⟨.integer (.ofInt (integerValue (withoutSeparators text))), .integer point ?_⟩
    apply Int64.toInt_ofInt_of_le
    · exact inRange.1
    · exact Int.lt_add_one_of_le inRange.2

theorem derivesNumber_iff (differs : char ≠ '_') :
    DerivesNumber (char :: text) literal ↔
      IsNumeral (char :: text) ∧ InRange (char :: text) ∧ Denotes (char :: text) literal := by
  constructor
  · intro derives
    cases derives with
    | integer numeral pointless low high =>
        rw [InRange, if_neg pointless, integerValue_withoutSeparators differs]
        refine ⟨numeral, ⟨low, high⟩, .integer pointless ?_⟩
        rw [integerValue_withoutSeparators differs]
        exact Int64.toInt_ofInt_of_le low (Int.lt_add_one_of_le high)
    | real numeral point finite =>
        rw [← realValue_withoutSeparators differs] at finite ⊢
        rw [InRange, if_pos point]
        exact ⟨numeral, finite, .real point⟩
  · rintro ⟨numeral, inRange, denotes⟩
    cases denotes with
    | @integer value pointless denotes =>
        rw [integerValue_withoutSeparators differs] at denotes
        have derives := DerivesNumber.integer numeral pointless
        rw [← denotes, Int64.ofInt_toInt] at derives
        exact derives value.minValue_le_toInt value.toInt_le
    | real point =>
        rw [InRange, if_pos point] at inRange
        rw [realValue_withoutSeparators differs] at inRange ⊢
        exact .real numeral point inRange

theorem exists_derivesNumber_iff (differs : char ≠ '_') :
    (∃ literal, DerivesNumber (char :: text) literal) ↔
      IsNumeral (char :: text) ∧ InRange (char :: text) := by
  constructor
  · rintro ⟨literal, derives⟩
    obtain ⟨numeral, inRange, -⟩ := (derivesNumber_iff differs).mp derives
    exact ⟨numeral, inRange⟩
  · rintro ⟨numeral, inRange⟩
    obtain ⟨literal, denotes⟩ := inRange.exists_denotes
    exact ⟨literal, (derivesNumber_iff differs).mpr ⟨numeral, inRange, denotes⟩⟩

end Ranges

namespace Scanned

variable {start : Nat} {written rest : List Char} {result : Except Fault (Expr × List Char)}

theorem exists_ok_iff (scanned : Scanned start written rest result) :
    (∃ accepted, result = .ok accepted) ↔ ∃ literal, DerivesNumber written literal := by
  cases scanned with
  | number derives => exact ⟨fun _ => ⟨_, derives⟩, fun _ => ⟨_, rfl⟩⟩
  | outOfRange _ underivable => simp [underivable]
  | malformed notNumeral =>
      refine ⟨nofun, ?_⟩
      rintro ⟨literal, derives⟩
      exact absurd derives.isNumeral notNumeral

theorem of_ok {literal : Expr} {unread : List Char}
    (scanned : Scanned start written rest (.ok (literal, unread))) :
    unread = rest ∧ DerivesNumber written literal := by
  cases scanned with
  | number derives => exact ⟨rfl, derives⟩

theorem exists_invalidNumber (scanned : Scanned start written rest result)
    (notNumeral : ¬IsNumeral written) :
    ∃ reason span, result = .error ⟨.invalidNumber reason, span⟩ := by
  cases scanned with
  | number derives => exact absurd derives.isNumeral notNumeral
  | outOfRange numeral => exact absurd numeral notNumeral
  | malformed => exact ⟨_, _, rfl⟩

theorem eq_outOfRange (scanned : Scanned start written rest result)
    (numeral : IsNumeral written) (underivable : ¬∃ literal, DerivesNumber written literal) :
    result =
      .error ⟨.numberOutOfRange (String.ofList written), ⟨start, start + written.length⟩⟩ := by
  cases scanned with
  | number derives => exact absurd ⟨_, derives⟩ underivable
  | outOfRange => rfl
  | malformed notNumeral => exact absurd numeral notNumeral

end Scanned

/-- The text of an integer that a program prints is read as that integer. -/
theorem parseWithin_display_integer (maxDepth : Nat) (heap : Heap) (value : Int64) :
    parseWithin maxDepth
        ((heap.newValue (.integer value)).1.display (heap.newValue (.integer value)).2) =
      .ok (.integer value) := by
  have shown : (heap.newValue (.integer value)).1.display (heap.newValue (.integer value)).2 =
      toString value.toInt := by
    simp only [Heap.display, Heap.displayWithin, Heap.displayRule, Heap.newValue,
      Heap.newOfKind, Heap.newFromParts, Heap.payload?, Heap.cell_alloc_new,
      Heap.displayPayload]
  have derives : DerivesProgram (toString value.toInt).toList (.integer value) := by
    refine ⟨[.integer value], ?_, rfl⟩
    simpa using DerivesStatements.single .nil (.number (derivesNumber_toString value)) .nil
  rw [shown]
  exact parseWithin_ok_iff_read.mpr (derives.read_eq (Nat.zero_le maxDepth))

/-- Number literals mean what they say.  The reader takes a number as far as it goes, accepts it
exactly if it is a numeral in range, and names in its fault which of the two it is not. -/
theorem scan_exact {maxDepth offset : Nat} {context : Context} {char : Char}
    {text written rest : List Char} (begins : char.isDigit = true ∨ Numeral.isSign char = true)
    (written_eq : written = char :: text.takeWhile continuesNumeral)
    (rest_eq : rest = text.dropWhile continuesNumeral) :
    (State.readOn maxDepth ⟨offset, context, .ready⟩ (char :: text) =
      scan (.begin offset char) text >>= fun (literal, unread) =>
        State.readOn maxDepth ⟨offset + String.utf8Len written, context.add literal, .complete⟩
          unread) ∧
    ((∃ accepted, scan (.begin offset char) text = .ok accepted) ↔
      IsNumeral written ∧ InRange written) ∧
    (∀ literal unread, scan (.begin offset char) text = .ok (literal, unread) →
      unread = rest ∧ Denotes written literal) ∧
    (¬IsNumeral written →
      ∃ reason span, scan (.begin offset char) text = .error ⟨.invalidNumber reason, span⟩) ∧
    (IsNumeral written → ¬InRange written →
      scan (.begin offset char) text =
        .error ⟨.numberOutOfRange (String.ofList written), ⟨offset, offset + written.length⟩⟩) ∧
    ∀ (heap : Heap) (value : Int64),
      parseWithin maxDepth
          ((heap.newValue (.integer value)).1.display (heap.newValue (.integer value)).2) =
        .ok (.integer value) := by
  subst written_eq rest_eq
  have scanned := scanned_begin begins offset text
  have differs : char ≠ '_' := by
    rintro rfl
    exact absurd begins (by decide)
  have derivable := @exists_derivesNumber_iff char (text.takeWhile continuesNumeral) differs
  refine ⟨readOn_number begins text, scanned.exists_ok_iff.trans derivable, ?_,
    scanned.exists_invalidNumber, ?_, parseWithin_display_integer maxDepth⟩
  · intro literal unread accepted
    rw [accepted] at scanned
    obtain ⟨ended, derives⟩ := scanned.of_ok
    exact ⟨ended, ((derivesNumber_iff differs).mp derives).2.2⟩
  · intro numeral outOfRange
    apply scanned.eq_outOfRange numeral
    intro derives
    exact outOfRange (derivable.mp derives).2

/-- The least integer, written with separators before the end of a statement. -/
theorem scan_exact_least_integer :
    scan (.begin 0 '-') "9_223_372_036_854_775_808;".toList =
        .ok (.integer Int64.minValue, [';']) ∧
      IsNumeral "-9_223_372_036_854_775_808".toList ∧
      Denotes "-9_223_372_036_854_775_808".toList (.integer Int64.minValue) := by
  have exactly := @scan_exact 0 0 (.program []) '-' "9_223_372_036_854_775_808;".toList
    "-9_223_372_036_854_775_808".toList [';'] (.inr rfl) (by decide) (by decide)
  obtain ⟨-, accepted_iff, denoted, -⟩ := exactly
  have accepted : scan (.begin 0 '-') "9_223_372_036_854_775_808;".toList =
      .ok (.integer Int64.minValue, [';']) := by
    rfl
  exact ⟨accepted, (accepted_iff.mp ⟨_, accepted⟩).1, (denoted _ _ accepted).2⟩

end Reader

end BoxLang
