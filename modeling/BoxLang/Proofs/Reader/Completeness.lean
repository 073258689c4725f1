import BoxLang.Proofs.Reader.Soundness

/-!
# Every program is read

The reader does not know that a name or a number has ended before the character
after it, so it may be in several states after one expression.  They are the same
to spaces, to punctuation and to the end of the text, which is all that may follow
an expression in a program.  Since reading has one result, a program text stands for
one tree.
-/

namespace BoxLang.Reader

/-- Reading a text in a state leads to another state. -/
def Leads (maxDepth : Nat) (state : State) (text : List Char) (Reached : State → Prop) : Prop :=
  ∃ state', text.foldlM (State.next maxDepth) state = .ok state' ∧ Reached state'

namespace Leads

variable {maxDepth : Nat} {state : State} {Reached Reached' : State → Prop}

theorem nil (reached : Reached state) : Leads maxDepth state [] Reached :=
  ⟨state, rfl, reached⟩

theorem cons {char : Char} {text : List Char} {context : Context} {mode : Mode}
    (moved : state.move maxDepth char = .ok (context, mode))
    (leads : Leads maxDepth ⟨state.offset + char.utf8Size, context, mode⟩ text Reached) :
    Leads maxDepth state (char :: text) Reached := by
  obtain ⟨state', read, reached⟩ := leads
  refine ⟨state', ?_, reached⟩
  rw [List.foldlM_cons, State.next, moved]
  exact read

theorem append {first second : List Char} (leads : Leads maxDepth state first Reached)
    (next : ∀ state', Reached state' → Leads maxDepth state' second Reached') :
    Leads maxDepth state (first ++ second) Reached' := by
  obtain ⟨middle, readFirst, reached⟩ := leads
  obtain ⟨last, readSecond, reached'⟩ := next middle reached
  refine ⟨last, ?_, reached'⟩
  rw [List.foldlM_append, readFirst]
  exact readSecond

theorem snoc {char : Char} {text : List Char} (leads : Leads maxDepth state text Reached)
    (next : ∀ state', Reached state' → ∃ context mode,
      state'.move maxDepth char = .ok (context, mode) ∧
        Reached' ⟨state'.offset + char.utf8Size, context, mode⟩) :
    Leads maxDepth state (text ++ [char]) Reached' := by
  apply leads.append
  intro state' reached
  obtain ⟨context, mode, moved, reached'⟩ := next state' reached
  exact .cons moved (.nil reached')

end Leads

/-- The characters that may follow an expression. -/
inductive IsBreak : Char → Prop
  | space {char : Char} : isSpace char = true → IsBreak char
  | semicolon : IsBreak ';'
  | brace : IsBreak '}'

/-- A character neither starts nor continues an expression. -/
structure IsInert (char : Char) : Prop where
  notDouble : char ≠ '"'
  notSingle : char ≠ '\''
  notDigit : char.isDigit = false
  notSign : Numeral.isSign char = false
  notBrace : char ≠ '{'
  notStart : startsName char = false
  notName : continuesName char = false
  notEqual : char ≠ '='
  notPoint : char ≠ '.'
  notSeparator : char ≠ '_'

theorem IsBreak.isInert {char : Char} (isBreak : IsBreak char) : IsInert char := by
  cases isBreak with
  | space space =>
      simp only [isSpace, Bool.or_eq_true, beq_iff_eq] at space
      rcases space with ((((rfl | rfl) | rfl) | rfl) | rfl) | rfl
      all_goals constructor <;> decide
  | semicolon => constructor <;> decide
  | brace => constructor <;> decide

theorem isSpace_eq_false {char : Char} (active : ¬IsInert char) : isSpace char = false := by
  apply Bool.eq_false_iff.mpr
  intro space
  exact active (IsBreak.space space).isInert

theorem IsInert.next_eq_ended {char : Char} {numeral : Numeral} {literal : Expr}
    (inert : IsInert char) (closed : numeral.close = .ok literal) :
    numeral.next char = .ended := by
  have some : numeral.lacksDigits = false := by
    cases lacks : numeral.lacksDigits with
    | false => rfl
    | true => simp [Numeral.close, Numeral.endingFlaw?, lacks] at closed
  simp [Numeral.next, inert.notDigit, some, inert.notPoint, inert.notSeparator]

/-- A state in which a text may end, or go on with a break, as if the expression read
last were already in its place. -/
inductive Rests (context : Context) : State → Prop
  | ready {offset : Nat} : Rests context ⟨offset, context, .ready⟩
  | complete {offset : Nat} : Rests context ⟨offset, context, .complete⟩
  | numeral {offset : Nat} {outer : Context} {numeral : Numeral} {literal : Expr} :
      numeral.close = .ok literal → outer.add literal = context →
      Rests context ⟨offset, outer, .numeral numeral⟩
  | name {offset : Nat} {outer : Context} {chars : List Char} :
      outer.add (.get (String.ofList chars.reverse)) = context →
      Rests context ⟨offset, outer, .name chars⟩
  | named {offset : Nat} {outer : Context} {name : String} :
      outer.add (.get name) = context → Rests context ⟨offset, outer, .named name⟩

namespace Rests

variable {maxDepth : Nat} {context : Context} {state : State} {char : Char}

theorem space (rests : Rests context state) (space : isSpace char = true) :
    ∃ outer mode, state.move maxDepth char = .ok (outer, mode) ∧
      ∀ offset, Rests context ⟨offset, outer, mode⟩ := by
  have inert := (IsBreak.space space).isInert
  cases rests with
  | ready => exact ⟨context, .ready, by simp [State.move, State.atStart, space], fun _ => .ready⟩
  | complete =>
      exact ⟨context, .complete, by simp [State.move, State.afterExpression, space],
        fun _ => .complete⟩
  | numeral closed added =>
      refine ⟨context, .complete, ?_, fun _ => .complete⟩
      simp only [State.move, State.inNumeral, inert.next_eq_ended closed, closed]
      simp [bind, Except.bind, State.afterExpression, space, added]
  | @name offset outer chars added =>
      refine ⟨outer, .named (String.ofList chars.reverse), ?_, fun _ => .named added⟩
      simp [State.move, inert.notName, State.afterName, space]
  | @named offset outer name added =>
      refine ⟨outer, .named name, ?_, fun _ => .named added⟩
      simp [State.move, State.afterName, space]

theorem punctuation (rests : Rests context state) (mark : char = ';' ∨ char = '}') :
    state.move maxDepth char = State.punctuation state.offset context char := by
  have isBreak : IsBreak char := by
    rcases mark with rfl | rfl
    · exact .semicolon
    · exact .brace
  have notSpace : isSpace char = false := by rcases mark with rfl | rfl <;> rfl
  have inert := isBreak.isInert
  cases rests with
  | ready =>
      simp [State.move, State.atStart, notSpace, inert.notDouble, inert.notSingle, inert.notDigit,
        inert.notSign, inert.notBrace, inert.notStart]
  | complete => simp [State.move, State.afterExpression, notSpace]
  | numeral closed added =>
      simp only [State.move, State.inNumeral, inert.next_eq_ended closed, closed]
      simp [bind, Except.bind, State.afterExpression, notSpace, added]
  | name added =>
      simp [State.move, inert.notName, State.afterName, notSpace, inert.notEqual, added]
  | named added => simp [State.move, State.afterName, notSpace, inert.notEqual, added]

theorem finish (rests : Rests context state) :
    state.finish maxDepth = State.finishContext state.offset context := by
  cases rests with
  | ready => rfl
  | complete => rfl
  | numeral closed added =>
      simp only [State.finish, closed]
      simp [bind, Except.bind, added]
  | name added => simp only [State.finish, added]
  | named added => simp only [State.finish, added]

theorem spacing (rests : Rests context state) {text : List Char} (isSpacing : IsSpacing text) :
    Leads maxDepth state text (Rests context) := by
  induction text generalizing state with
  | nil => exact .nil rests
  | cons char text inductionHypothesis =>
      obtain ⟨outer, mode, moved, rests⟩ := rests.space (isSpacing char (List.mem_cons_self ..))
      exact .cons moved (inductionHypothesis (rests _) fun char member =>
        isSpacing char (List.mem_cons_of_mem _ member))

end Rests

section Tokens

variable {maxDepth offset : Nat} {context : Context}

/-- A mode that takes in every character of a text, newest first. -/
theorem leads_collecting {collecting : List Char → Mode} {text : List Char}
    (moves : ∀ char ∈ text, ∀ offset done,
      State.move maxDepth ⟨offset, context, collecting done⟩ char =
        .ok (context, collecting (char :: done)))
    (done : List Char) :
    Leads maxDepth ⟨offset, context, collecting done⟩ text
      fun state => ∃ offset', state = ⟨offset', context, collecting (text.reverse ++ done)⟩ := by
  induction text generalizing offset done with
  | nil => exact .nil ⟨offset, rfl⟩
  | cons char text inductionHypothesis =>
      refine .cons (moves char (List.mem_cons_self ..) offset done) ?_
      rw [List.reverse_cons, List.append_assoc]
      apply inductionHypothesis
      intro char member
      exact moves char (List.mem_cons_of_mem _ member)

theorem leads_spacing {text : List Char} (isSpacing : IsSpacing text) :
    Leads maxDepth ⟨offset, context, .ready⟩ text
      fun state => ∃ offset', state = ⟨offset', context, .ready⟩ := by
  have stays : ∀ char ∈ text, ∀ offset, List Char →
      State.move maxDepth ⟨offset, context, .ready⟩ char = .ok (context, .ready) := by
    intro char member offset _
    simp [State.move, State.atStart, isSpacing char member]
  exact leads_collecting stays []

theorem leads_string {quote : Char} {content : List Char} (isQuote : quote = '"' ∨ quote = '\'')
    (apart : quote ∉ content) :
    Leads maxDepth ⟨offset, context, .ready⟩ (quote :: content ++ [quote])
      (Rests (context.add (.text (Utf8.encode content)))) := by
  have notSpace : isSpace quote = false := by rcases isQuote with rfl | rfl <;> rfl
  have opened : State.move maxDepth ⟨offset, context, .ready⟩ quote =
      .ok (context, .string offset quote []) := by
    simp [State.move, State.atStart, notSpace, isQuote]
  have inside : ∀ char ∈ content, ∀ offset' done,
      State.move maxDepth ⟨offset', context, .string offset quote done⟩ char =
        .ok (context, .string offset quote (char :: done)) := by
    intro char member offset' done
    have differs : char ≠ quote := by
      rintro rfl
      exact apart member
    simp [State.move, differs]
  refine .cons opened ((leads_collecting inside []).snoc ?_)
  rintro state ⟨offset', rfl⟩
  exact ⟨_, .complete, by simp [State.move], .complete⟩

theorem move_numeral {char : Char} (begins : char.isDigit = true ∨ Numeral.isSign char = true) :
    State.move maxDepth ⟨offset, context, .ready⟩ char =
      .ok (context, .numeral (.begin offset char)) := by
  have notSpace : isSpace char = false := by
    apply isSpace_eq_false
    intro inert
    simp [inert.notDigit, inert.notSign] at begins
  have notQuote : ¬(char = '"' ∨ char = '\'') := by
    rintro (rfl | rfl)
    · exact absurd begins (by decide)
    · exact absurd begins (by decide)
  simp [State.move, State.atStart, notSpace, notQuote, begins]

theorem leads_start (lead body : List Char) (isLead : IsLead lead) (isStart : IsStart body)
    (nonempty : lead ++ body ≠ []) :
    Leads maxDepth ⟨offset, context, .ready⟩ (lead ++ body) fun state =>
      ∃ offset', state = ⟨offset', context, .numeral ⟨offset, (lead ++ body).reverse⟩⟩ := by
  by_cases begun : body = []
  · subst begun
    cases isLead with
    | none => simp at nonempty
    | @sign sign isSign => exact .cons (move_numeral (.inr isSign)) (.nil ⟨_, rfl⟩)
  · obtain ⟨init, last, rfl, initStart, continues⟩ := isStart.exists_snoc begun
    by_cases empty : lead ++ init = []
    · obtain ⟨rfl, rfl⟩ := List.append_eq_nil_iff.mp empty
      have digit : last.isDigit = true := by
        cases continues with
        | digit digit => exact digit
        | separator unsigned => exact absurd rfl unsigned.ne_nil
        | point digits => exact absurd rfl (IsUnsigned.whole digits).ne_nil
      exact .cons (move_numeral (.inl digit)) (.nil ⟨_, rfl⟩)
    · rw [← List.append_assoc]
      apply (leads_start lead init isLead initStart empty).snoc
      rintro state ⟨offset', rfl⟩
      have longer : (Numeral.mk offset (lead ++ init).reverse).next last =
          .longer ⟨offset, (lead ++ (init ++ [last])).reverse⟩ :=
        (initStart.next_iff isLead).mpr ⟨continues, rfl⟩
      refine ⟨context, _, ?_, offset' + last.utf8Size, rfl⟩
      simp only [State.move, State.inNumeral, longer, List.append_assoc]
termination_by body.length

theorem isDigit_of_startsName {char : Char} (starts : startsName char = true) :
    char.isDigit = false := by
  cases digit : char.isDigit with
  | false => rfl
  | true =>
      obtain ⟨-, most⟩ := Char.isDigit_iff_toNat.mp digit
      rcases (Bool.or_eq_true _ _).mp starts with letter | underscore
      · -- Every letter comes after every digit.
        rcases (Bool.or_eq_true _ _).mp letter with upper | lower
        · have least : 'A'.val ≤ char.val := (of_decide_eq_true upper).1
          exact absurd (Nat.le_trans (UInt32.le_iff_toNat_le.mp least) most) (by decide)
        · have least : 'a'.val ≤ char.val := of_decide_eq_true ((Bool.and_eq_true _ _).mp lower).1
          exact absurd (Nat.le_trans (UInt32.le_iff_toNat_le.mp least) most) (by decide)
      · rw [eq_of_beq underscore] at digit
        exact absurd digit (by decide)

theorem move_startsName {char : Char} (starts : startsName char = true) :
    State.move maxDepth ⟨offset, context, .ready⟩ char = .ok (context, .name [char]) := by
  have notSpace : isSpace char = false := by
    apply isSpace_eq_false
    intro inert
    simp [inert.notStart] at starts
  have apart : char ≠ '"' ∧ char ≠ '\'' ∧ char ≠ '-' ∧ char ≠ '+' ∧ char ≠ '{' := by
    refine ⟨?_, ?_, ?_, ?_, ?_⟩
    all_goals
      rintro rfl
      exact absurd starts (by decide)
  simp [State.move, State.atStart, notSpace, apart, Numeral.isSign, isDigit_of_startsName starts,
    starts]

theorem leads_name {name : List Char} (isName : IsName name) :
    Leads maxDepth ⟨offset, context, .ready⟩ name
      fun state => ∃ offset', state = ⟨offset', context, .name name.reverse⟩ := by
  obtain ⟨first, rest, rfl, starts, continues⟩ := isName
  have inside : ∀ char ∈ rest, ∀ offset' done,
      State.move maxDepth ⟨offset', context, .name done⟩ char =
        .ok (context, .name (char :: done)) := by
    intro char member offset' done
    simp [State.move, continues char member]
  rw [List.reverse_cons]
  exact .cons (move_startsName starts) (leads_collecting inside [first])

theorem nest_eq (fits : context.depth ≤ maxDepth) :
    State.nest maxDepth context = (context, .ready) := by
  simp [State.nest, fits]

/-- A name, and an assignment to it up to its value. -/
theorem leads_target {name before after : List Char} (isName : IsName name)
    (spaceBefore : IsSpacing before) (spaceAfter : IsSpacing after)
    (fits : context.depth < maxDepth) :
    Leads maxDepth ⟨offset, context, .ready⟩ (name ++ before ++ '=' :: after) fun state =>
      ∃ offset', state = ⟨offset', .assignment (String.ofList name) context, .ready⟩ := by
  have named : Leads maxDepth ⟨offset, context, .ready⟩ (name ++ before) fun state =>
      (∃ offset', state = ⟨offset', context, .name name.reverse⟩) ∨
        ∃ offset', state = ⟨offset', context, .named (String.ofList name)⟩ := by
    apply (leads_name isName).append
    rintro state ⟨offset, rfl⟩
    cases before with
    | nil => exact .nil (.inl ⟨offset, rfl⟩)
    | cons char before =>
        have space : isSpace char = true := spaceBefore char (List.mem_cons_self ..)
        have notName := (IsBreak.space space).isInert.notName
        have ended : State.move maxDepth ⟨offset, context, .name name.reverse⟩ char =
            .ok (context, .named (String.ofList name)) := by
          simp [State.move, notName, State.afterName, space]
        have stays : ∀ char ∈ before, ∀ offset, List Char →
            State.move maxDepth ⟨offset, context, .named (String.ofList name)⟩ char =
              .ok (context, .named (String.ofList name)) := by
          intro char member offset _
          simp [State.move, State.afterName, spaceBefore char (List.mem_cons_of_mem _ member)]
        obtain ⟨state, read, reached⟩ := leads_collecting stays []
        exact .cons ended ⟨state, read, .inr reached⟩
  apply named.append
  intro state reached
  have moved : state.move maxDepth '=' =
      .ok (.assignment (String.ofList name) context, .ready) := by
    have notName : continuesName '=' = false := by decide
    have notSpace : isSpace '=' = false := by decide
    have deeper : (Context.assignment (String.ofList name) context).depth ≤ maxDepth := fits
    have nested := nest_eq deeper
    rcases reached with ⟨offset', rfl⟩ | ⟨offset', rfl⟩
    · simp [State.move, notName, State.afterName, notSpace, nested]
    · simp [State.move, State.afterName, notSpace, nested]
  exact .cons moved (leads_spacing spaceAfter)

end Tokens

/-- A context whose expressions are statements. -/
def Context.IsBlock : Context → Prop
  | .program _ | .box _ _ _ => True
  | .assignment _ _ => False

namespace Context.IsBlock

variable {context : Context}

theorem semicolon (isBlock : context.IsBlock) (offset : Nat) :
    State.punctuation offset context ';' = .ok (context, .ready) := by
  cases context with
  | program => rfl
  | box => rfl
  | assignment => cases isBlock

theorem add (isBlock : context.IsBlock) (expr : Expr) :
    (context.add expr).IsBlock ∧ (context.add expr).depth = context.depth := by
  cases context with
  | program => exact ⟨trivial, rfl⟩
  | box => exact ⟨trivial, rfl⟩
  | assignment => cases isBlock

theorem addAll (isBlock : context.IsBlock) (statements : List Expr) :
    (statements.foldl Context.add context).IsBlock ∧
      (statements.foldl Context.add context).depth = context.depth := by
  induction statements generalizing context with
  | nil => exact ⟨isBlock, rfl⟩
  | cons statement statements inductionHypothesis =>
      obtain ⟨isBlock', depth⟩ := isBlock.add statement
      rw [List.foldl_cons, ← depth]
      exact inductionHypothesis isBlock'

end Context.IsBlock

theorem foldl_add {block : List Expr → Context}
    (adds : ∀ done expr, (block done).add expr = block (expr :: done))
    (statements done : List Expr) :
    statements.foldl Context.add (block done) = block (statements.reverse ++ done) := by
  induction statements generalizing done with
  | nil => rfl
  | cons statement statements inductionHypothesis =>
      rw [List.foldl_cons, adds, inductionHypothesis, List.reverse_cons, List.append_assoc]
      rfl

section Derivations

variable {maxDepth : Nat}

theorem leads_number {text : List Char} {literal : Expr} (derives : DerivesNumber text literal)
    (offset : Nat) (context : Context) :
    Leads maxDepth ⟨offset, context, .ready⟩ text (Rests (context.add literal)) := by
  have closed := derives.close_eq offset
  obtain ⟨lead, body, rfl, isLead, unsigned⟩ := isNumeral_iff.mp derives.isNumeral
  have nonempty : lead ++ body ≠ [] := by simp [unsigned.ne_nil]
  obtain ⟨state, read, offset', rfl⟩ := leads_start lead body isLead (.whole unsigned) nonempty
  exact ⟨_, read, .numeral closed rfl⟩

mutual

/-- Reading the text of an expression adds the expression. -/
theorem DerivesExpr.leads {text : List Char} {expr : Expr} (derives : DerivesExpr text expr)
    (offset : Nat) (context : Context) (fits : context.depth + expr.nesting ≤ maxDepth) :
    Leads maxDepth ⟨offset, context, .ready⟩ text (Rests (context.add expr)) :=
  match derives with
  | .string isQuote apart => leads_string isQuote apart
  | .number number => leads_number number offset context
  | .get isName => by
      obtain ⟨state, read, offset', rfl⟩ := leads_name isName
      exact ⟨_, read, .name (by rw [List.reverse_reverse])⟩
  | .assign isName spaceBefore spaceAfter value => by
      have deeper : context.depth < maxDepth := by
        rw [Expr.nesting] at fits
        omega
      apply (leads_target isName spaceBefore spaceAfter deeper).append
      rintro state ⟨offset', rfl⟩
      apply value.leads
      rw [Expr.nesting] at fits
      rw [Context.depth]
      omega
  | @DerivesExpr.box text statements body => by
      rw [Expr.nesting] at fits
      have opened : State.move maxDepth ⟨offset, context, .ready⟩ '{' =
          .ok (.box offset [] context, .ready) := by
        have deeper : (Context.box offset [] context).depth ≤ maxDepth := by
          rw [Context.depth]
          omega
        exact congrArg Except.ok (nest_eq deeper)
      have inside := Expr.nesting_ofStatements_le_iff.mp
        (Nat.le_refl (Expr.ofStatements statements).nesting)
      refine .cons opened ((body.leads _ (.box offset [] context) trivial ?_).snoc ?_)
      · intro statement member
        have inner := inside statement member
        rw [Context.depth]
        omega
      · intro state rests
        have added : statements.foldl Context.add (.box offset [] context) =
            .box offset (statements.reverse ++ []) context :=
          @foldl_add (.box offset · context) (fun _ _ => rfl) statements []
        rw [added, List.append_nil] at rests
        refine ⟨context.add (.box (.ofStatements statements)), .complete, ?_, .complete⟩
        rw [rests.punctuation (.inr rfl), State.punctuation, List.reverse_reverse]

theorem DerivesStatements.leads {text : List Char} {statements : List Expr}
    (derives : DerivesStatements text statements) (offset : Nat) (context : Context)
    (isBlock : context.IsBlock)
    (fits : ∀ statement ∈ statements, context.depth + statement.nesting ≤ maxDepth) :
    Leads maxDepth ⟨offset, context, .ready⟩ text (Rests (statements.foldl Context.add context)) :=
  match derives with
  | .missing isSpacing => by
      obtain ⟨state, read, offset', rfl⟩ := leads_spacing isSpacing
      exact ⟨_, read, .ready⟩
  | @DerivesStatements.single _ _ _ expr spaceBefore derivesExpr spaceAfter => by
      rw [List.append_assoc]
      apply (leads_spacing spaceBefore).append
      rintro state ⟨offset', rfl⟩
      apply (derivesExpr.leads _ _ (fits expr (List.mem_singleton_self expr))).append
      intro state rests
      exact rests.spacing spaceAfter
  | @DerivesStatements.separated _ _ first _ derivesFirst derivesSecond => by
      obtain ⟨isBlock', depth⟩ := isBlock.addAll first
      have readFirst := derivesFirst.leads offset context isBlock fun statement member =>
        fits statement (List.mem_append_left _ member)
      apply readFirst.append
      intro state rests
      refine .cons ((rests.punctuation (.inl rfl)).trans (isBlock'.semicolon _)) ?_
      rw [List.foldl_append]
      apply derivesSecond.leads _ _ isBlock'
      intro statement member
      rw [depth]
      exact fits statement (List.mem_append_right _ member)

end

/-- Every program that does not nest too deeply is read. -/
theorem DerivesProgram.read_eq {text : List Char} {expr : Expr}
    (derives : DerivesProgram text expr) (fits : expr.nesting ≤ maxDepth) :
    read maxDepth text = .ok expr := by
  obtain ⟨statements, derives, rfl⟩ := derives
  have inside := Expr.nesting_ofStatements_le_iff.mp fits
  obtain ⟨state, run, rests⟩ := derives.leads 0 (.program []) trivial fun statement member => by
    rw [Context.depth, Nat.zero_add]
    exact inside statement member
  rw [foldl_add fun _ _ => rfl] at rests
  rw [read, State.initial, run]
  show state.finish maxDepth = .ok (Expr.ofStatements statements)
  rw [rests.finish]
  simp [State.finishContext]

end Derivations

theorem read_eq_ok_iff {maxDepth : Nat} {text : List Char} {expr : Expr} :
    read maxDepth text = .ok expr ↔ DerivesProgram text expr ∧ expr.nesting ≤ maxDepth := by
  constructor
  · exact derivesProgram_of_read
  · rintro ⟨derives, fits⟩
    exact derives.read_eq fits

/-- A text stands for at most one program, because reading has one result. -/
theorem DerivesProgram.unique {text : List Char} {expr expr' : Expr}
    (derives : DerivesProgram text expr) (derives' : DerivesProgram text expr') :
    expr = expr' := by
  have read := derives.read_eq (Nat.le_max_left expr.nesting expr'.nesting)
  have read' := derives'.read_eq (Nat.le_max_right expr.nesting expr'.nesting)
  rw [read] at read'
  exact Except.ok.inj read'

end BoxLang.Reader

namespace BoxLang

open Reader

/-- A text is parsed exactly if it is a program within the nesting limit, and then into
the only tree that it stands for. -/
theorem parseWithin_eq_ok_iff (maxDepth : Nat) (source : String) :
    (∀ expr, parseWithin maxDepth source = .ok expr ↔
      DerivesProgram source.toList expr ∧ expr.nesting ≤ maxDepth) ∧
    ∀ expr expr', DerivesProgram source.toList expr → DerivesProgram source.toList expr' →
      expr = expr' := by
  constructor
  · intro expr
    rw [← read_eq_ok_iff, parseWithin]
    cases read maxDepth source.toList with
    | error fault => simp
    | ok expr' => simp
  · intro expr expr' derives derives'
    exact derives.unique derives'

end BoxLang
