import Mathlib.Data.List.Induction
import BoxLang.Proofs.Reader.Numerals

/-!
# Only programs are read

The text read so far splits along the open boxes and assignments: each of them has
a part that the grammar already explains, and the last part belongs to the mode.
-/

namespace BoxLang.Reader

/-- Any text of statements may follow. -/
def Opens (text : List Char) (statements : List Expr) : Prop :=
  ∀ rest more, DerivesStatements rest more →
    DerivesStatements (text ++ rest) (statements ++ more)

section Statements

variable {text : List Char} {statements : List Expr} {char : Char}

theorem IsSpacing.nil : IsSpacing [] :=
  fun _ member => nomatch member

theorem IsSpacing.cons (isSpacing : IsSpacing text) (space : isSpace char = true) :
    IsSpacing (char :: text) :=
  List.forall_mem_cons.mpr ⟨space, isSpacing⟩

theorem IsSpacing.snoc (isSpacing : IsSpacing text) (space : isSpace char = true) :
    IsSpacing (text ++ [char]) :=
  List.forall_mem_append.mpr ⟨isSpacing, List.forall_mem_singleton.mpr space⟩

theorem IsName.snoc (isName : IsName text) (continues : continuesName char = true) :
    IsName (text ++ [char]) := by
  obtain ⟨first, rest, rfl, starts, restContinues⟩ := isName
  refine ⟨first, rest ++ [char], rfl, starts, ?_⟩
  exact List.forall_mem_append.mpr ⟨restContinues, List.forall_mem_singleton.mpr continues⟩

theorem DerivesStatements.space_cons {text : List Char} {statements : List Expr}
    (derives : DerivesStatements text statements) (space : isSpace char = true) :
    DerivesStatements (char :: text) statements :=
  match derives with
  | .missing isSpacing => .missing (isSpacing.cons space)
  | .single before expr after => .single (before.cons space) expr after
  | .separated first second => .separated (first.space_cons space) second

theorem DerivesStatements.space_snoc {text : List Char} {statements : List Expr}
    (derives : DerivesStatements text statements) (space : isSpace char = true) :
    DerivesStatements (text ++ [char]) statements :=
  match derives with
  | .missing isSpacing => .missing (isSpacing.snoc space)
  | .single before expr after => by
      rw [List.append_assoc]
      exact .single before expr (after.snoc space)
  | .separated first second => by
      rw [List.append_assoc]
      exact .separated first (second.space_snoc space)

theorem Opens.nil : Opens [] [] :=
  fun _ _ derives => derives

theorem Opens.derives (opens : Opens text statements) : DerivesStatements text statements := by
  have derives := opens [] [] (.missing .nil)
  rwa [List.append_nil, List.append_nil] at derives

theorem Opens.space (opens : Opens text statements) (space : isSpace char = true) :
    Opens (text ++ [char]) statements := by
  intro rest more derives
  rw [List.append_assoc]
  exact opens (char :: rest) more (derives.space_cons space)

theorem Opens.add {chars : List Char} {expr : Expr} (opens : Opens text statements)
    (derives : DerivesExpr chars expr) :
    DerivesStatements (text ++ chars) (statements ++ [expr]) := by
  have single := DerivesStatements.single .nil derives .nil
  rw [List.nil_append, List.append_nil] at single
  exact opens chars [expr] single

theorem DerivesStatements.opens (derives : DerivesStatements text statements) :
    Opens (text ++ [';']) statements := by
  intro rest more derivesRest
  rw [List.append_assoc]
  exact .separated derives derivesRest

end Statements

namespace Context

/-- What has been read where an expression may start. -/
inductive Awaits : Context → List Char → Prop
  | program {text : List Char} {statements : List Expr} :
      Opens text statements.reverse → Awaits (.program statements) text
  | box {opening : Nat} {before body : List Char} {statements : List Expr} {outer : Context} :
      outer.Awaits before → Opens body statements.reverse →
      Awaits (.box opening statements outer) (before ++ '{' :: body)
  | assignment {before name space space' : List Char} {outer : Context} :
      outer.Awaits before → IsName name → IsSpacing space → IsSpacing space' →
      Awaits (.assignment (String.ofList name) outer)
        (before ++ (name ++ space ++ '=' :: space'))

/-- What has been read where an expression has ended. -/
inductive Closes : Context → List Char → Prop
  | program {text : List Char} {statements : List Expr} :
      DerivesStatements text statements.reverse → Closes (.program statements) text
  | box {opening : Nat} {before body : List Char} {statements : List Expr} {outer : Context} :
      outer.Awaits before → DerivesStatements body statements.reverse →
      Closes (.box opening statements outer) (before ++ '{' :: body)

section Texts

variable {context : Context} {text : List Char} {char : Char}

theorem Awaits.space (awaits : context.Awaits text) (space : isSpace char = true) :
    context.Awaits (text ++ [char]) := by
  cases awaits with
  | program opens => exact .program (opens.space space)
  | box outer opens =>
      rw [List.append_assoc]
      exact .box outer (opens.space space)
  | assignment outer isName before after =>
      rw [List.append_assoc, List.append_assoc]
      exact .assignment outer isName before (after.snoc space)

/-- An expression that starts where one may start ends where one may end. -/
theorem Awaits.add {chars : List Char} {expr : Expr} (awaits : context.Awaits text)
    (derives : DerivesExpr chars expr) : (context.add expr).Closes (text ++ chars) := by
  induction awaits generalizing chars expr with
  | program opens =>
      have added := opens.add derives
      rw [← List.reverse_cons] at added
      exact .program added
  | box outer opens _ =>
      have added := opens.add derives
      rw [← List.reverse_cons] at added
      rw [List.append_assoc]
      exact .box outer added
  | assignment outer isName before after inductionHypothesis =>
      rw [List.append_assoc]
      exact inductionHypothesis (.assign isName before after derives)

theorem Closes.space (closes : context.Closes text) (space : isSpace char = true) :
    context.Closes (text ++ [char]) := by
  cases closes with
  | program derives => exact .program (derives.space_snoc space)
  | box outer derives =>
      rw [List.append_assoc]
      exact .box outer (derives.space_snoc space)

theorem Closes.spacing {space : List Char} (closes : context.Closes text)
    (isSpacing : IsSpacing space) : context.Closes (text ++ space) := by
  induction space generalizing text with
  | nil => rwa [List.append_nil]
  | cons char space inductionHypothesis =>
      obtain ⟨isSpace, isSpacing⟩ := List.forall_mem_cons.mp isSpacing
      rw [List.append_cons]
      exact inductionHypothesis (closes.space isSpace) isSpacing

theorem Closes.semicolon (closes : context.Closes text) : context.Awaits (text ++ [';']) := by
  cases closes with
  | program derives => exact .program derives.opens
  | box outer derives =>
      rw [List.append_assoc]
      exact .box outer derives.opens

theorem Closes.brace {opening : Nat} {statements : List Expr} {outer : Context}
    (closes : (Context.box opening statements outer).Closes text) :
    (outer.add (.box (.ofStatements statements.reverse))).Closes (text ++ ['}']) := by
  cases closes with
  | box awaits derives =>
      rw [List.append_assoc]
      exact awaits.add (.box derives)

end Texts

/-- Every statement, and every open box and assignment, is within the nesting limit. -/
def Fits (maxDepth : Nat) : Context → Prop
  | .program statements => ∀ statement ∈ statements, statement.nesting ≤ maxDepth
  | .box _ statements outer =>
      outer.Fits maxDepth ∧ outer.depth < maxDepth ∧
        ∀ statement ∈ statements, outer.depth + 1 + statement.nesting ≤ maxDepth
  | .assignment _ outer => outer.Fits maxDepth ∧ outer.depth < maxDepth

section Depths

variable {maxDepth : Nat} {context : Context}

theorem Fits.depth_le (fits : context.Fits maxDepth) : context.depth ≤ maxDepth := by
  cases context with
  | program => exact Nat.zero_le maxDepth
  | box => exact fits.2.1
  | assignment => exact fits.2

theorem Fits.add {expr : Expr} (fits : context.Fits maxDepth)
    (bounded : context.depth + expr.nesting ≤ maxDepth) : (context.add expr).Fits maxDepth := by
  induction context generalizing expr with
  | program statements =>
      rw [depth, Nat.zero_add] at bounded
      exact List.forall_mem_cons.mpr ⟨bounded, fits⟩
  | box opening statements outer _ =>
      obtain ⟨outerFits, deeper, inside⟩ := fits
      exact ⟨outerFits, deeper, List.forall_mem_cons.mpr ⟨bounded, inside⟩⟩
  | assignment name outer inductionHypothesis =>
      apply inductionHypothesis fits.1
      rw [depth] at bounded
      rw [Expr.nesting]
      omega

theorem Fits.add_flat {expr : Expr} (fits : context.Fits maxDepth) (flat : expr.nesting = 0) :
    (context.add expr).Fits maxDepth := by
  apply fits.add
  rw [flat]
  exact fits.depth_le

theorem Fits.brace {opening : Nat} {statements : List Expr} {outer : Context}
    (fits : (Context.box opening statements outer).Fits maxDepth) :
    (outer.add (.box (.ofStatements statements.reverse))).Fits maxDepth := by
  obtain ⟨outerFits, deeper, inside⟩ := fits
  apply outerFits.add
  have bounded :
      (Expr.ofStatements statements.reverse).nesting ≤ maxDepth - (outer.depth + 1) := by
    apply Expr.nesting_ofStatements_le_iff.mpr
    intro statement member
    have inner := inside statement (List.mem_reverse.mp member)
    omega
  rw [Expr.nesting]
  omega

end Depths

end Context

/-- What has been read in a context and a mode, as the grammar sees it. -/
inductive Reads (maxDepth : Nat) : Context → Mode → List Char → Prop
  | ready {context : Context} {text : List Char} :
      context.Fits maxDepth → context.Awaits text → Reads maxDepth context .ready text
  | complete {context : Context} {text : List Char} :
      context.Fits maxDepth → context.Closes text → Reads maxDepth context .complete text
  | string {context : Context} {before content : List Char} {opening : Nat} {quote : Char} :
      context.Fits maxDepth → context.Awaits before →
      quote = '"' ∨ quote = '\'' → quote ∉ content →
      Reads maxDepth context (.string opening quote content) (before ++ quote :: content.reverse)
  | numeral {context : Context} {before lead body : List Char} {start : Nat} :
      context.Fits maxDepth → context.Awaits before → IsLead lead → IsStart body →
      Reads maxDepth context (.numeral ⟨start, (lead ++ body).reverse⟩) (before ++ (lead ++ body))
  | name {context : Context} {before chars : List Char} :
      context.Fits maxDepth → context.Awaits before → IsName chars.reverse →
      Reads maxDepth context (.name chars) (before ++ chars.reverse)
  | named {context : Context} {before name space : List Char} :
      context.Fits maxDepth → context.Awaits before → IsName name → IsSpacing space →
      Reads maxDepth context (.named (String.ofList name)) (before ++ (name ++ space))
  | tooDeep {context : Context} {text : List Char} : Reads maxDepth context .tooDeep text

theorem bind_eq_ok {α β ε : Type} {action : Except ε α} {next : α → Except ε β} {result : β} :
    action >>= next = .ok result ↔ ∃ value, action = .ok value ∧ next value = .ok result := by
  cases action with
  | error => simp [bind, Except.bind]
  | ok value => simp [bind, Except.bind]

/-- What holds before anything is read, and is kept by each character that is read next, holds
of every text that can be read and the state it leads to. -/
theorem State.ran_of_invariant {maxDepth : Nat} {Holds : List Char → State → Prop}
    (initial : Holds [] .initial)
    (kept : ∀ text char state state', text.foldlM (State.next maxDepth) .initial = .ok state →
      Holds text state → state.next maxDepth char = .ok state' → Holds (text ++ [char]) state')
    {text : List Char} {state : State}
    (ran : text.foldlM (State.next maxDepth) .initial = .ok state) : Holds text state := by
  induction text using List.reverseRecOn generalizing state with
  | nil =>
      cases ran
      exact initial
  | append_singleton text char inductionHypothesis =>
      rw [List.foldlM_append] at ran
      obtain ⟨earlier, ranEarlier, ran⟩ := bind_eq_ok.mp ran
      obtain ⟨later, stepped, ended⟩ := bind_eq_ok.mp ran
      cases ended
      exact kept text char earlier state ranEarlier (inductionHypothesis ranEarlier) stepped

namespace Reads

variable {maxDepth offset : Nat} {context context' : Context} {mode mode' : Mode}
  {text : List Char} {char : Char}

theorem nest (inner : Context) (awaits : inner.Awaits text)
    (fits : inner.depth ≤ maxDepth → inner.Fits maxDepth) :
    Reads maxDepth (State.nest maxDepth inner).1 (State.nest maxDepth inner).2 text := by
  unfold State.nest
  split
  case isTrue shallow => exact .ready (fits shallow) awaits
  case isFalse => exact .tooDeep

theorem punctuation (fits : context.Fits maxDepth) (closes : context.Closes text)
    (moved : State.punctuation offset context char = .ok (context', mode')) :
    Reads maxDepth context' mode' (text ++ [char]) := by
  unfold State.punctuation at moved
  split at moved
  case h_1 =>
    cases moved
    exact .ready fits closes.semicolon
  case h_2 =>
    cases moved
    exact .ready fits closes.semicolon
  case h_3 =>
    cases moved
    exact .complete fits.brace closes.brace
  case h_4 => cases moved

theorem afterExpression (fits : context.Fits maxDepth) (closes : context.Closes text)
    (moved : State.afterExpression offset context char = .ok (context', mode')) :
    Reads maxDepth context' mode' (text ++ [char]) := by
  unfold State.afterExpression at moved
  split at moved
  case isTrue space =>
    cases moved
    exact .complete fits (closes.space space)
  case isFalse => exact punctuation fits closes moved

theorem atStart (fits : context.Fits maxDepth) (awaits : context.Awaits text)
    (moved : State.atStart maxDepth offset context char = .ok (context', mode')) :
    Reads maxDepth context' mode' (text ++ [char]) := by
  unfold State.atStart at moved
  split at moved
  case isTrue space =>
    cases moved
    exact .ready fits (awaits.space space)
  case isFalse =>
    split at moved
    case isTrue isQuote =>
      cases moved
      exact .string fits awaits isQuote List.not_mem_nil
    case isFalse =>
      split at moved
      case isTrue begins =>
        cases moved
        rcases Bool.or_eq_true .. ▸ begins with digit | sign
        · exact .numeral fits awaits .none (.whole (.whole (.digit digit)))
        · exact .numeral fits awaits (.sign sign) .nothing
      case isFalse =>
        split at moved
        case isTrue isBrace =>
          subst isBrace
          cases moved
          refine nest (.box offset [] context) (.box awaits .nil) ?_
          intro shallow
          exact ⟨fits, shallow, fun _ member => nomatch member⟩
        case isFalse =>
          split at moved
          case isTrue starts =>
            cases moved
            exact .name fits awaits ⟨char, [], rfl, starts, fun _ member => nomatch member⟩
          case isFalse =>
            cases awaits with
            | program opens => exact punctuation fits (.program opens.derives) moved
            | box outer opens => exact punctuation fits (.box outer opens.derives) moved
            | assignment => simp [State.punctuation] at moved

theorem afterName {before name space : List Char} (fits : context.Fits maxDepth)
    (awaits : context.Awaits before) (isName : IsName name) (isSpacing : IsSpacing space)
    (moved : State.afterName maxDepth offset context (String.ofList name) char =
      .ok (context', mode')) :
    Reads maxDepth context' mode' (before ++ (name ++ space) ++ [char]) := by
  unfold State.afterName at moved
  split at moved
  case isTrue isSpace =>
    cases moved
    rw [List.append_assoc, List.append_assoc]
    exact .named fits awaits isName (isSpacing.snoc isSpace)
  case isFalse =>
    split at moved
    case isTrue isEqual =>
      subst isEqual
      cases moved
      rw [List.append_assoc]
      refine nest (.assignment (String.ofList name) context) ?_ ?_
      · exact .assignment awaits isName isSpacing .nil
      · intro shallow
        exact ⟨fits, shallow⟩
    case isFalse =>
      have closes := (awaits.add (.get isName)).spacing isSpacing
      rw [List.append_assoc] at closes
      exact punctuation (fits.add_flat rfl) closes moved

theorem inNumeral {before lead body : List Char} {start : Nat} (fits : context.Fits maxDepth)
    (awaits : context.Awaits before) (isLead : IsLead lead) (isStart : IsStart body)
    (moved : State.inNumeral offset context ⟨start, (lead ++ body).reverse⟩ char =
      .ok (context', mode')) :
    Reads maxDepth context' mode' (before ++ (lead ++ body) ++ [char]) := by
  unfold State.inNumeral at moved
  split at moved
  case h_1 numeral longer =>
    obtain ⟨continues, rfl⟩ := (isStart.next_iff isLead).mp longer
    cases moved
    rw [List.append_assoc, List.append_assoc]
    exact .numeral fits awaits isLead (isStart.snoc continues)
  case h_2 => cases moved
  case h_3 =>
    obtain ⟨literal, closed, moved⟩ := bind_eq_ok.mp moved
    have derives := isStart.derivesNumber isLead closed
    exact afterExpression (fits.add_flat derives.nesting_eq) (awaits.add (.number derives)) moved

/-- One character more. -/
theorem move (reads : Reads maxDepth context mode text)
    (moved : State.move maxDepth ⟨offset, context, mode⟩ char = .ok (context', mode')) :
    Reads maxDepth context' mode' (text ++ [char]) := by
  cases reads with
  | ready fits awaits => exact atStart fits awaits moved
  | complete fits closes => exact afterExpression fits closes moved
  | @string before content opening quote fits awaits isQuote apart =>
      simp only [State.move] at moved
      split at moved
      case isTrue ended =>
        subst ended
        cases moved
        have apart' : char ∉ content.reverse := by rwa [List.mem_reverse]
        have closes := awaits.add (.string isQuote apart')
        rw [List.append_assoc]
        exact .complete (fits.add_flat rfl) closes
      case isFalse differs =>
        cases moved
        have apart' : quote ∉ char :: content := by
          simp [apart, Ne.symm differs]
        rw [List.append_assoc, List.cons_append, ← List.reverse_cons]
        exact .string fits awaits isQuote apart'
  | numeral fits awaits isLead isStart => exact inNumeral fits awaits isLead isStart moved
  | @name before chars fits awaits isName =>
      simp only [State.move] at moved
      split at moved
      case isTrue continues =>
        cases moved
        rw [List.append_assoc, ← List.reverse_cons]
        refine .name fits awaits ?_
        rw [List.reverse_cons]
        exact isName.snoc continues
      case isFalse =>
        have reads := afterName fits awaits isName .nil moved
        rwa [List.append_nil] at reads
  | named fits awaits isName isSpacing => exact afterName fits awaits isName isSpacing moved
  | tooDeep => cases moved

theorem next {state state' : State} (reads : Reads maxDepth state.context state.mode text)
    (stepped : state.next maxDepth char = .ok state') :
    Reads maxDepth state'.context state'.mode (text ++ [char]) := by
  obtain ⟨⟨context, mode⟩, moved, stepped⟩ := bind_eq_ok.mp stepped
  cases stepped
  exact reads.move moved

theorem finishContext {expr : Expr} (length : Nat) (fits : context.Fits maxDepth)
    (closes : context.Closes text) (finished : State.finishContext length context = .ok expr) :
    DerivesProgram text expr ∧ expr.nesting ≤ maxDepth := by
  cases closes with
  | program derives =>
      cases finished
      refine ⟨⟨_, derives, rfl⟩, Expr.nesting_ofStatements_le_iff.mpr ?_⟩
      intro statement member
      exact fits statement (List.mem_reverse.mp member)
  | box => cases finished

theorem finish {expr : Expr} (reads : Reads maxDepth context mode text)
    (finished : State.finish maxDepth ⟨offset, context, mode⟩ = .ok expr) :
    DerivesProgram text expr ∧ expr.nesting ≤ maxDepth := by
  cases reads with
  | ready fits awaits =>
      cases awaits with
      | program opens => exact finishContext offset fits (.program opens.derives) finished
      | box => cases finished
      | assignment => cases finished
  | complete fits closes => exact finishContext offset fits closes finished
  | string => cases finished
  | numeral fits awaits isLead isStart =>
      obtain ⟨literal, closed, finished⟩ := bind_eq_ok.mp finished
      have derives := isStart.derivesNumber isLead closed
      have closes := awaits.add (.number derives)
      exact finishContext offset (fits.add_flat derives.nesting_eq) closes finished
  | name fits awaits isName =>
      exact finishContext offset (fits.add_flat rfl) (awaits.add (.get isName)) finished
  | named fits awaits isName isSpacing =>
      have closes := (awaits.add (.get isName)).spacing isSpacing
      rw [List.append_assoc] at closes
      exact finishContext offset (fits.add_flat rfl) closes finished
  | tooDeep => cases finished

end Reads

/-- What is read is a program that does not nest too deeply. -/
theorem derivesProgram_of_read {maxDepth : Nat} {text : List Char} {expr : Expr}
    (read : read maxDepth text = .ok expr) :
    DerivesProgram text expr ∧ expr.nesting ≤ maxDepth := by
  obtain ⟨state, ran, finished⟩ := bind_eq_ok.mp read
  have start : Reads maxDepth (.program []) .ready [] :=
    .ready (fun _ member => nomatch member) (.program .nil)
  have reads := @State.ran_of_invariant maxDepth
    (fun text state => Reads maxDepth state.context state.mode text) start
    (fun _ _ _ _ _ => Reads.next) text state ran
  exact reads.finish finished

end BoxLang.Reader

namespace BoxLang

theorem derivesProgram_of_parsed {maxDepth : Nat} {source : String} {expr : Expr}
    (parsed : parseWithin maxDepth source = .ok expr) :
    Reader.DerivesProgram source.toList expr ∧ expr.nesting ≤ maxDepth :=
  Reader.derivesProgram_of_read (parseWithin_ok_iff_read.mp parsed)

end BoxLang
