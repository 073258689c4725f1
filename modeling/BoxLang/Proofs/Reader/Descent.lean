import BoxLang.Proofs.Reader.Tokens

/-!
# Constructs of the descent

Each function of the descent takes from the text what the reader takes, if the functions that it
calls do.  They call each other with fewer bytes left, so all of them do.
-/

namespace BoxLang.Descent

open Reader

/-- The reader finds the same fault in the text, in contexts of a kind. -/
def FaultsIn (Within : Context → Prop) (input : Input) (start : Cursor) (unread : List Char)
    (fault : Fault) : Prop :=
  ∀ context, Within context → context.depth = input.enclosing.length →
    reading input start context .ready unread = .error fault

/-- An expression is read, or none starts at the cursor, which then stays where it is. -/
def ReadsOptional (input : Input) (start : Cursor) (unread : List Char) :
    Option Expr → Cursor → List Char → Prop
  | some expr, cursor, rest => ReadsExpr input start unread expr cursor rest
  | none, cursor, rest =>
      cursor = start ∧ rest = unread ∧ ∀ char ∈ unread.head?, startsExpr char = false

/-- The reader takes the same statements from the text, up to a character that ends them. -/
structure ReadsStatements (input : Input) (start : Cursor) (unread : List Char)
    (statements : List Expr) (cursor : Cursor) (rest : List Char) : Prop where
  ended : ∀ char ∈ rest.head?, isSpace char = false ∧ char ≠ ';'
  reading_eq : ∀ context, context.IsBlock → context.depth = input.enclosing.length →
    reading input start context .ready unread =
      reading input cursor (statements.foldl Context.add context) .complete rest

section Yielding

variable (input : Input) (start : Cursor) (unread : List Char)

def YieldsOptional : Result (Option Expr) → Prop :=
  Yields input start (ReadsOptional input start unread) (Faults input start unread)

/-- The value of an assignment is read.  Spaces before it have been passed over. -/
def YieldsValue : Result Expr → Prop :=
  Yields input start (ReadsExpr input start unread) fun fault =>
    (∀ char ∈ unread.head?, isSpace char = false) →
      FaultsIn (¬·.IsBlock) input start unread fault

/-- Statements are read and put on top of those that are done. -/
def YieldsStatements (done : List Expr) : Result (List Expr) → Prop :=
  Yields input start
    (fun done' cursor rest => ∃ statements, done' = statements.reverse ++ done ∧
      ReadsStatements input start unread statements cursor rest)
    (FaultsIn Context.IsBlock input start unread)

def YieldsSequence : Result Expr → Prop :=
  Yields input start
    (fun expr cursor rest => ∃ statements, expr = .ofStatements statements ∧
      ReadsStatements input start unread statements cursor rest)
    (FaultsIn Context.IsBlock input start unread)

end Yielding

section Steps

variable {α : Type} {input : Input} {start cursor : Cursor} {char : Char}
  {unread rest : List Char}

theorem At.left_lt (standing : At input cursor rest) (later : start.index < cursor.index) :
    input.left cursor < input.left start := by
  have length_eq := standing.length_bytes
  simp only [Input.left]
  omega

theorem At.isOpening (standing : At input cursor (char :: unread))
    (opens : char = '{' ∨ char = '=') : IsOpening input.text cursor.index := by
  obtain ⟨before, text_eq, index_eq⟩ := standing.split
  exact ⟨before, char, unread, text_eq, index_eq, opens⟩

theorem At.outside (standing : At input cursor unread) :
    ∀ outer ∈ input.enclosing, outer < cursor.index :=
  (List.pairwise_cons.mp standing.nested).1

theorem onward_eq {parser : (cursor : Cursor) → input.left cursor < input.left start → Result α}
    (fewer : input.left cursor < input.left start) :
    onward input start parser cursor = parser cursor fewer :=
  dif_pos fewer

theorem optional_reading_eq {found : Option Expr}
    (reads : ReadsOptional input start unread found cursor rest)
    (notSpace : ∀ char ∈ unread.head?, isSpace char = false) (context : Context)
    (depth_eq : context.depth = input.enclosing.length) :
    reading input start context .ready unread =
      reading input cursor (found.toList.foldl Context.add context) .complete rest := by
  cases found with
  | some expr => exact ReadsExpr.reading_eq reads context depth_eq
  | none =>
      obtain ⟨rfl, rfl, quiet⟩ := reads
      apply readOn_ready_eq_complete
      intro char head
      exact ⟨notSpace char head, quiet char head⟩

theorem yieldsOptional_of_expr {result : Result Expr}
    (yields : YieldsExpr input start unread result) :
    YieldsOptional input start unread (andThen result fun expr => pure (some expr)) := by
  apply yields.andThen rfl
  · intro fault faults
    exact faults
  · intro expr cursor rest _ ended reads
    exact .ofOk ended reads

/-- The first byte tells which kind of expression comes, if any does. -/
theorem expression_step (standing : At input start unread)
    (ofBox : ∀ rest, unread = '{' :: rest → YieldsExpr input start unread (box input start))
    (ofName : ∀ char rest, unread = char :: rest → startsName char = true →
      YieldsExpr input start unread (named input start)) :
    YieldsOptional input start unread (expression input start) := by
  rw [expression]
  cases unread with
  | nil =>
      rw [standing.next?_nil]
      exact .ofOk standing ⟨rfl, rfl, nofun⟩
  | cons char unread =>
      have doubleQuote : lead char = '"' ↔ char = '"' := lead_eq_iff (by decide)
      have singleQuote : lead char = '\'' ↔ char = '\'' := lead_eq_iff (by decide)
      have brace : lead char = '{' ↔ char = '{' := lead_eq_iff (by decide)
      -- All characters that are looked for are ASCII, so the first byte tells them.
      simp only [standing.next?_cons, doubleQuote, singleQuote, brace, isAscii_isDigit.lead,
        isAscii_isSign.lead, isAscii_startsName.lead]
      split
      case isTrue isQuote => exact yieldsOptional_of_expr (string_yields isQuote standing)
      case isFalse notQuote =>
        split
        case isTrue begins =>
          exact yieldsOptional_of_expr
            (number_yields ((Bool.or_eq_true _ _).mp begins) standing)
        case isFalse notNumber =>
          split
          case isTrue isBrace =>
            subst isBrace
            exact yieldsOptional_of_expr (ofBox unread rfl)
          case isFalse notBrace =>
            split
            case isTrue starts => exact yieldsOptional_of_expr (ofName char unread rfl starts)
            case isFalse notName =>
              have quiet : startsExpr char = false := by
                simp only [not_or] at notQuote
                simp only [Bool.not_eq_true, Bool.or_eq_false_iff] at notNumber notName
                simp [startsExpr, notQuote, notNumber, notBrace, notName]
              refine .ofOk standing ⟨rfl, rfl, ?_⟩
              rintro found ⟨rfl⟩
              exact quiet

theorem value_step (ofExpression : YieldsOptional input start unread (expression input start)) :
    YieldsValue input start unread (value input start) := by
  rw [value]
  apply ofExpression.andThen rfl
  · intro fault faults _ context _
    exact faults context
  · intro found cursor rest _ ended reads
    cases found with
    | some expr => exact .ofOk ended reads
    | none =>
        have reading_eq := optional_reading_eq reads
        obtain ⟨rfl, rfl, -⟩ := reads
        have faulty : (∀ char ∈ rest.head?, isSpace char = false) →
            FaultsIn (¬·.IsBlock) input cursor rest
              ⟨missingValue rest.head?, .ofHead cursor.index rest⟩ := by
          intro quiet context notBlock depth_eq
          cases context with
          | program => exact absurd trivial notBlock
          | box => exact absurd trivial notBlock
          | assignment name outer =>
              rw [reading_eq quiet _ depth_eq]
              exact readOn_assignment quiet
        simp only [bind_apply, ended.charHere_eq, andThen_ok]
        cases rest with
        | nil =>
            simp only [List.head?_nil, ended.failHere_eq]
            exact .ofFault ended faulty
        | cons found rest =>
            simp only [List.head?_cons, ended.failHere_eq]
            exact .ofFault ended faulty

/-- After a statement, or none, come those after `;`. -/
theorem separator_step {done : List Expr} {found : Option Expr} {rest : List Char}
    (standing : At input cursor rest) (later : start.index ≤ cursor.index)
    (read_eq : ∀ context, context.IsBlock → context.depth = input.enclosing.length →
      reading input start context .ready unread =
        reading input cursor (found.toList.foldl Context.add context) .complete rest)
    (ofStatements : ∀ done cursor rest, input.left cursor < input.left start →
      At input cursor rest →
      YieldsStatements input cursor rest done (statements input done cursor)) :
    Yields input cursor
      (fun done' cursor' rest' => ∃ statements, done' = statements.reverse ++ done ∧
        ReadsStatements input start unread statements cursor' rest')
      (FaultsIn Context.IsBlock input start unread)
      ((do
        skipSpace input
        if ← eat input ';' then
          onward input start fun cursor _ => statements input (found.toList ++ done) cursor
        else return found.toList ++ done : Parser (List Expr)) cursor) := by
  have skipped := standing.skipped
  generalize rest.dropWhile isSpace = remaining at skipped
  have found_eq : found.toList.reverse = found.toList := by
    cases found with
    | some expr => rfl
    | none => rfl
  simp only [bind_apply, skipSpace_apply, andThen_ok,
    skipped.standing.eat_eq (show ';'.toNat < 128 by decide)]
  refine Yields.after ?_ skipped.after
  split
  case isTrue semicolon =>
    obtain ⟨remaining, rfl⟩ := List.head?_eq_some_iff.mp semicolon
    have separated := skipped.standing.advance_char (by decide)
    have fewer := separated.left_lt (Nat.lt_succ_of_le (Nat.le_trans later skipped.index_le))
    simp only [andThen_ok, if_true, onward_eq fewer]
    -- What comes after `;` is read in the context that this statement has been added to.
    refine ((ofStatements _ _ _ fewer separated).mono ?_ ?_).after (.advance _ input 1)
    · intro fault faults context isBlock depth_eq
      obtain ⟨isBlock', depth_eq'⟩ := isBlock.addAll found.toList
      rw [read_eq context isBlock depth_eq, skipped.reading_eq _ .complete trivial, reading,
        readOn_semicolon isBlock']
      exact faults _ isBlock' (depth_eq'.trans depth_eq)
    · rintro done' cursor' rest' - ⟨statements, rfl, reads⟩
      refine ⟨found.toList ++ statements, ?_, reads.ended, ?_⟩
      · rw [List.reverse_append, found_eq, List.append_assoc]
      · intro context isBlock depth_eq
        obtain ⟨isBlock', depth_eq'⟩ := isBlock.addAll found.toList
        rw [read_eq context isBlock depth_eq, skipped.reading_eq _ .complete trivial, reading,
          readOn_semicolon isBlock', List.foldl_append]
        exact reads.reading_eq _ isBlock' (depth_eq'.trans depth_eq)
  case isFalse noSemicolon =>
    simp only [andThen_ok, Bool.false_eq_true, if_false, pure_apply]
    refine .ofOk skipped.standing ⟨found.toList, ?_, ?_, ?_⟩
    · rw [found_eq]
    · intro char head
      refine ⟨skipped.quiet char head, ?_⟩
      rintro rfl
      exact noSemicolon head
    · intro context isBlock depth_eq
      rw [read_eq context isBlock depth_eq, skipped.reading_eq _ .complete trivial]

/-- One statement, or none, and then the ones after `;`. -/
theorem statements_step {done : List Expr} (standing : At input start unread)
    (ofExpression : ∀ rest, At input (skip input isSpace start) rest →
      YieldsOptional input (skip input isSpace start) rest
        (expression input (skip input isSpace start)))
    (ofStatements : ∀ done cursor rest, input.left cursor < input.left start →
      At input cursor rest →
      YieldsStatements input cursor rest done (statements input done cursor)) :
    YieldsStatements input start unread done (statements input done start) := by
  have skipped := standing.skipped
  generalize unread.dropWhile isSpace = remaining at skipped
  rw [statements]
  refine Yields.after ?_ skipped.after
  cases remaining with
  | nil =>
      rw [skipped.standing.next?_nil]
      refine .ofOk skipped.standing ⟨[], rfl, nofun, ?_⟩
      intro context _ _
      rw [skipped.reading_eq _ .ready trivial]
      exact readOn_ready_eq_complete nofun
  | cons char remaining =>
      rw [skipped.standing.next?_cons]
      apply (ofExpression _ skipped.standing).andThen rfl
      · intro fault faults context _ depth_eq
        rw [skipped.reading_eq _ .ready trivial]
        exact faults context depth_eq
      · intro found cursor rest after read reads
        have later := Nat.le_trans skipped.index_le (after.index_le read.isSound)
        have read_eq := optional_reading_eq reads skipped.quiet
        apply separator_step read later
        · intro context _ depth_eq
          rw [skipped.reading_eq _ .ready trivial, read_eq context depth_eq]
        · exact ofStatements

/-- Opening a box or an assignment counts it, unless it is too deep. -/
theorem enterNested_yields {inner : Context → Context} (opens : char = '{' ∨ char = '=')
    (deeper : ∀ context, (inner context).depth = context.depth + 1)
    (standing : At input start (char :: unread)) :
    Yields (input.inside start.index) (start.advance input 1)
      (fun _ cursor rest => start.index < cursor.index ∧
        ∀ context, context.depth = input.enclosing.length →
          enter input.maxDepth (start.index + 1) (inner context) unread =
            reading (input.inside start.index) cursor (inner context) .ready rest)
      (fun fault => ∀ context, context.depth = input.enclosing.length →
        enter input.maxDepth (start.index + 1) (inner context) unread = .error fault)
      (enterNested (input.inside start.index) (start.advance input 1)) := by
  have ascii : char.toNat < 128 := by rcases opens with rfl | rfl <;> decide
  have advanced := standing.advance_char ascii
  have entered := advanced.enter (standing.isOpening opens) (Nat.lt_succ_self _) standing.outside
  have after := Cursor.After.goTo (start.advance input 1) (input.inside start.index)
    (start.advance input 1).index ((start.advance input 1).depth + 1)
  have depth_eq := advanced.depth_eq
  rw [enterNested_apply]
  split
  case isTrue fits =>
    refine (Yields.ofOk entered ⟨Nat.lt_succ_self _, ?_⟩).after after
    intro context level
    rw [enter_eq, deeper, level, ← depth_eq]
    exact if_pos fits
  case isFalse tooDeep =>
    rw [entered.failHere_eq]
    refine (Yields.ofFault entered ?_).after after
    intro context level
    rw [enter_eq, deeper, level, ← depth_eq]
    exact if_neg tooDeep

/-- The value of an assignment that has been opened. -/
theorem assigned_step {opening : Nat} {name : String} {rest : List Char}
    (entered : At (input.inside opening) cursor rest) (advances : start.index < cursor.index)
    (entered_eq : ∀ context, context.depth = input.enclosing.length →
      reading input start context .ready unread =
        reading (input.inside opening) cursor (.assignment name context) .ready rest)
    (ofValue : ∀ cursor rest, input.left cursor < input.left start →
      At (input.inside opening) cursor rest →
      YieldsValue (input.inside opening) cursor rest (value (input.inside opening) cursor)) :
    Yields input cursor (ReadsExpr input start unread) (Faults input start unread)
      ((do
        skipSpace (input.inside opening)
        let value ← onward input start fun cursor _ => value (input.inside opening) cursor
        exitNested input
        return .assign name value : Parser Expr) cursor) := by
  have skipped := entered.skipped
  have advances' := Nat.lt_of_lt_of_le advances skipped.index_le
  have fewer : input.left (skip (input.inside opening) isSpace cursor) < input.left start :=
    skipped.standing.left_lt advances'
  simp only [bind_apply, skipSpace_apply, andThen_ok, onward_eq fewer]
  refine Yields.after ?_ skipped.after
  apply (ofValue _ _ fewer skipped.standing).andThen (Input.text_inside input opening)
  · intro fault faults context depth_eq
    rw [entered_eq context depth_eq, skipped.reading_eq _ .ready trivial]
    exact faults skipped.quiet _ id (congrArg (· + 1) depth_eq)
  · intro value cursor' rest' _ ended reads
    simp only [bind_apply, ended.exitNested_eq, andThen_ok, pure_apply]
    refine (Yields.ofOk ended.exit ⟨?_, ?_⟩).after (.goTo cursor' input _ _)
    · exact Nat.lt_trans advances' reads.advances
    · -- For the reader the assignment is closed as soon as its value is.
      intro context depth_eq
      rw [entered_eq context depth_eq, skipped.reading_eq _ .ready trivial]
      exact reads.reading_eq _ (congrArg (· + 1) depth_eq)

/-- A name, or an assignment whose value is read. -/
theorem named_step (starts : startsName char = true) (standing : At input start (char :: unread))
    (ofValue : ∀ opening cursor rest, input.left cursor < input.left start →
      At (input.inside opening) cursor rest →
      YieldsValue (input.inside opening) cursor rest (value (input.inside opening) cursor)) :
    YieldsExpr input start (char :: unread) (named input start) := by
  rw [named]
  apply (name_yields starts standing).andThen rfl
  · intro fault impossible
    exact impossible.elim
  · rintro name cursor rest after named ⟨advances, named_eq⟩
    have skipped := named.skipped
    generalize rest.dropWhile isSpace = remaining at skipped
    simp only [bind_apply, skipSpace_apply, get_apply, andThen_ok,
      skipped.standing.eat_eq (show '='.toNat < 128 by decide)]
    refine Yields.after ?_ skipped.after
    have advances' := Nat.lt_of_lt_of_le advances skipped.index_le
    generalize skip input isSpace cursor = cursor' at skipped advances'
    by_cases equals : remaining.head? = some '='
    · obtain ⟨remaining, rfl⟩ := List.head?_eq_some_iff.mp equals
      simp only [equals, if_true, andThen_ok, bind_apply]
      refine Yields.after ?_ (.advance cursor' input 1)
      have entering := @enterNested_yields input cursor' '=' remaining (.assignment name)
        (.inr rfl) (fun _ => rfl) skipped.standing
      apply entering.andThen (Input.text_inside input cursor'.index)
      · intro fault faults context depth_eq
        rw [named_eq, skipped.reading_eq _ (.named name) trivial, reading, readOn_equals]
        exact faults context depth_eq
      · rintro - inner rest - entered ⟨deeper, entered_eq⟩
        apply assigned_step entered (Nat.lt_trans advances' deeper)
        · intro context depth_eq
          rw [named_eq, skipped.reading_eq _ (.named name) trivial, reading, readOn_equals]
          exact entered_eq context depth_eq
        · exact ofValue cursor'.index
    · simp only [equals, if_false, andThen_ok, Bool.false_eq_true, pure_apply]
      refine .ofOk skipped.standing ⟨advances', ?_⟩
      intro context _
      rw [named_eq, skipped.reading_eq _ (.named name) trivial]
      apply readOn_named_eq_complete
      intro char head
      refine ⟨skipped.quiet char head, ?_⟩
      rintro rfl
      exact equals head

/-- The end of a box that has been opened. -/
theorem closing_step {opening : Nat} {statements : List Expr} {rest : List Char}
    (standing : At (input.inside opening) cursor rest) (advances : start.index < cursor.index)
    (ended : ∀ char ∈ rest.head?, isSpace char = false ∧ char ≠ ';')
    (read_eq : ∀ context, context.depth = input.enclosing.length →
      reading input start context .ready unread =
        reading (input.inside opening) cursor (.box opening statements.reverse context) .complete
          rest) :
    Yields input cursor (ReadsExpr input start unread) (Faults input start unread)
      ((do
        if ← eat (input.inside opening) '}' then
          exitNested input
          return .box (.ofStatements statements)
        else
          let found ← charHere (input.inside opening)
          let span ← spanHere (input.inside opening)
          if found.isNone then
            fail (.unclosedBox found) (Span.combine ⟨opening, opening + 1⟩ span)
          else fail (.unclosedBox found) span : Parser Expr) cursor) := by
  simp only [bind_apply, standing.eat_eq (show '}'.toNat < 128 by decide)]
  by_cases closed : rest.head? = some '}'
  · obtain ⟨rest, rfl⟩ := List.head?_eq_some_iff.mp closed
    have passed := standing.advance_char (by decide)
    simp only [closed, if_true, andThen_ok, bind_apply, passed.exitNested_eq, pure_apply]
    have after := Cursor.After.advance cursor (input.inside opening) 1
    refine (Yields.ofOk passed.exit ⟨?_, ?_⟩).after (after.trans (.goTo _ input _ _))
    · exact Nat.lt_succ_of_lt advances
    · intro context depth_eq
      rw [read_eq context depth_eq, reading, readOn_closeBox, List.reverse_reverse]
      rfl
  · have faulty : Faults input start unread ⟨.unclosedBox rest.head?,
        if rest.head?.isNone then .combine ⟨opening, opening + 1⟩ (.ofHead cursor.index rest)
        else .ofHead cursor.index rest⟩ := by
      intro context depth_eq
      rw [read_eq context depth_eq]
      exact readOn_unclosed ended closed
    simp only [closed, if_false, andThen_ok, Bool.false_eq_true, bind_apply, standing.charHere_eq,
      standing.spanHere_eq]
    split
    case isTrue atEnd =>
      rw [if_pos atEnd] at faulty
      exact ⟨.refl cursor, standing.isSound, faulty⟩
    case isFalse inside =>
      rw [if_neg inside] at faulty
      exact ⟨.refl cursor, standing.isSound, faulty⟩

theorem box_step (standing : At input start ('{' :: unread))
    (ofSequence : ∀ cursor rest, input.left cursor < input.left start →
      At (input.inside start.index) cursor rest →
      YieldsSequence (input.inside start.index) cursor rest
        (sequence (input.inside start.index) cursor)) :
    YieldsExpr input start ('{' :: unread) (box input start) := by
  rw [box]
  simp only [advance_apply, andThen_ok, bind_apply]
  refine Yields.after ?_ (.advance start input 1)
  have entering := @enterNested_yields input start '{' unread (.box start.index []) (.inl rfl)
    (fun _ => rfl) standing
  apply entering.andThen (Input.text_inside input start.index)
  · intro fault faults context depth_eq
    rw [reading, readOn_openBox]
    exact faults context depth_eq
  · rintro - cursor rest - entered ⟨deeper, entered_eq⟩
    have fewer : input.left cursor < input.left start := entered.left_lt deeper
    simp only [bind_apply, onward_eq fewer]
    apply (ofSequence _ _ fewer entered).andThen (Input.text_inside input start.index)
    · intro fault faults context depth_eq
      rw [reading, readOn_openBox, entered_eq context depth_eq]
      exact faults _ trivial (congrArg (· + 1) depth_eq)
    · rintro expr cursor' rest' after ended ⟨statements, rfl, reads⟩
      have advances := Nat.lt_of_lt_of_le deeper (after.index_le ended.isSound)
      apply closing_step ended advances reads.ended
      intro context depth_eq
      have block_eq := @foldl_add (.box start.index · context) (fun _ _ => rfl) statements []
      rw [List.append_nil] at block_eq
      rw [reading, readOn_openBox, entered_eq context depth_eq, ← block_eq]
      exact reads.reading_eq _ trivial (congrArg (· + 1) depth_eq)

end Steps

-- The induction is that of the functions: on the number of bytes left, and for the same number on
-- which of them calls which.
mutual

theorem statements_yields {input : Input} {start : Cursor} {unread : List Char}
    (done : List Expr) (standing : At input start unread) :
    YieldsStatements input start unread done (statements input done start) := by
  have fewer := left_skip_le input isSpace start
  apply statements_step standing
  · intro rest skipped
    exact expression_yields skipped
  · intro done cursor rest fewer separated
    exact statements_yields done separated
termination_by (input.left start, 3)
decreasing_by
  · simp only [Prod.lex_def]
    omega
  · exact .left _ _ fewer

theorem sequence_yields {input : Input} {start : Cursor} {unread : List Char}
    (standing : At input start unread) :
    YieldsSequence input start unread (sequence input start) := by
  rw [sequence]
  apply (statements_yields [] standing).andThen rfl
  · intro fault faults
    exact faults
  · rintro done cursor rest - ended ⟨statements, rfl, reads⟩
    refine .ofOk ended ⟨statements, ?_, reads⟩
    rw [List.append_nil, List.reverse_reverse]
termination_by (input.left start, 4)
decreasing_by exact .right _ (by decide)

theorem expression_yields {input : Input} {start : Cursor} {unread : List Char}
    (standing : At input start unread) :
    YieldsOptional input start unread (expression input start) := by
  apply expression_step standing
  · rintro rest rfl
    exact box_yields standing
  · rintro char rest rfl starts
    exact named_yields starts standing
termination_by (input.left start, 2)
decreasing_by all_goals exact .right _ (by decide)

theorem value_yields {input : Input} {start : Cursor} {unread : List Char}
    (standing : At input start unread) :
    YieldsValue input start unread (value input start) :=
  value_step (expression_yields standing)
termination_by (input.left start, 3)
decreasing_by exact .right _ (by decide)

theorem named_yields {input : Input} {start : Cursor} {char : Char} {unread : List Char}
    (starts : startsName char = true) (standing : At input start (char :: unread)) :
    YieldsExpr input start (char :: unread) (named input start) := by
  apply named_step starts standing
  intro opening cursor rest fewer entered
  exact value_yields entered
termination_by (input.left start, 1)
decreasing_by exact .left _ _ fewer

theorem box_yields {input : Input} {start : Cursor} {unread : List Char}
    (standing : At input start ('{' :: unread)) :
    YieldsExpr input start ('{' :: unread) (box input start) := by
  apply box_step standing
  intro cursor rest fewer entered
  exact sequence_yields entered
termination_by (input.left start, 1)
decreasing_by exact .left _ _ fewer

end

end BoxLang.Descent
