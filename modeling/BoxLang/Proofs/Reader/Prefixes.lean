import BoxLang.Proofs.Reader.Positions

/-!
# Faults at the first bad character

A text is refused at the first character that no program could have there.  What follows
that character does not change the fault, and what comes before it is the beginning of
some program: a missing value can be written, and the open boxes can be closed.
-/

namespace BoxLang

namespace Reader

namespace Context

/-- The number of boxes that are still to be closed. -/
def openBoxes : Context → Nat
  | .program _ => 0
  | .box _ _ outer => outer.openBoxes + 1
  | .assignment _ outer => outer.openBoxes

@[simp]
theorem openBoxes_add (context : Context) (expr : Expr) :
    (context.add expr).openBoxes = context.openBoxes := by
  induction context generalizing expr with
  | program => rfl
  | box => rfl
  | assignment name outer inductionHypothesis => exact inductionHypothesis (.assign name expr)

theorem eq_program_of_misplaced {context : Context} {char found : Char}
    (trailing : context.misplaced char = .trailingInput found) :
    ∃ statements, context = .program statements := by
  cases context with
  | program statements => exact ⟨statements, rfl⟩
  | box => cases trailing
  | assignment => cases trailing

end Context

/-- Some text leads to the end of a program. -/
def Completes (maxDepth : Nat) (state : State) : Prop :=
  ∃ rest statements, Leads maxDepth state rest (Rests (.program statements))

section Completions

variable {maxDepth : Nat} {context : Context} {state : State}

/-- The open boxes of a block can be closed one after another. -/
theorem Rests.completes (rests : Rests context state) (isBlock : context.IsBlock) :
    Completes maxDepth state := by
  -- A closed box may end assignments around it, so it is the boxes that are counted.
  generalize boxes : context.openBoxes = count
  induction count generalizing context state with
  | zero =>
      cases context with
      | program statements => exact ⟨[], statements, .nil rests⟩
      | box => cases boxes
      | assignment => cases isBlock
  | succ count inductionHypothesis =>
      cases context with
      | program => cases boxes
      | assignment => cases isBlock
      | box opening statements outer =>
          have moved := @Rests.punctuation maxDepth _ state '}' rests (.inr rfl)
          have remaining : (outer.add (.box (.ofStatements statements.reverse))).openBoxes =
              count := by
            rw [Context.openBoxes_add]
            exact Nat.succ.inj boxes
          obtain ⟨rest, statements', leads⟩ :=
            inductionHypothesis .complete (Context.isBlock_add ..) remaining
          exact ⟨'}' :: rest, statements', .cons moved leads⟩

theorem Completes.of_leads {text : List Char} (leads : Leads maxDepth state text (Rests context))
    (isBlock : context.IsBlock) : Completes maxDepth state := by
  obtain ⟨state', ran, rests⟩ := leads
  obtain ⟨rest, statements, leads⟩ := rests.completes isBlock
  refine ⟨text ++ rest, statements, ?_⟩
  apply Leads.append ⟨state', ran, rfl⟩
  rintro _ rfl
  exact leads

/-- Where an expression may start, an empty string is one. -/
theorem completes_ready (offset : Nat) (context : Context) :
    Completes maxDepth ⟨offset, context, .ready⟩ :=
  .of_leads (leads_string (.inl rfl) List.not_mem_nil) (context.isBlock_add _)

theorem completes_string (offset opening : Nat) (context : Context) (quote : Char)
    (content : List Char) :
    Completes maxDepth ⟨offset, context, .string opening quote content⟩ := by
  have moved : State.move maxDepth ⟨offset, context, .string opening quote content⟩ quote =
      .ok (context.add (.text (Utf8.encode content.reverse)), .complete) :=
    if_pos rfl
  exact .of_leads (.cons moved (.nil .complete)) (Context.isBlock_add ..)

/-- Where a text may go on with a break, it may go on to the end of a program. -/
theorem completes_of_rests (rests : Rests context state)
    (agrees : state.mode.Agrees state.offset state.context) : Completes maxDepth state := by
  cases rests with
  | ready => exact completes_ready _ context
  | complete => exact Rests.complete.completes agrees
  | numeral closed added => exact (Rests.numeral closed rfl).completes (Context.isBlock_add ..)
  | name added => exact (Rests.name rfl).completes (Context.isBlock_add ..)
  | named added => exact (Rests.named rfl).completes (Context.isBlock_add ..)

end Completions

/-- What the cause of a fault says about a state that is not the end of a program. -/
def Lacks (maxDepth : Nat) (state : State) (fault : Fault) : Prop :=
  match fault.kind.cause with
  | .character => False
  | .ending => Completes maxDepth state
  | .numeral => fault.span.stop = state.offset
  | .nesting => fault.span = .point state.offset

section Endings

variable {maxDepth offset : Nat} {context : Context} {state : State} {text : List Char}
  {fault : Fault}

theorem cause_of_finishContext (failed : State.finishContext offset context = .error fault) :
    fault.kind.cause = .ending := by
  cases context with
  | program => cases failed
  | box =>
      cases failed
      rfl
  | assignment =>
      cases failed
      rfl

theorem Rests.lacks (rests : Rests context state)
    (agrees : state.mode.Agrees state.offset state.context)
    (failed : state.finish maxDepth = .error fault) : Lacks maxDepth state fault := by
  rw [rests.finish] at failed
  rw [Lacks, cause_of_finishContext failed]
  exact completes_of_rests rests agrees

theorem Placed.lacks (placed : Placed text state) (failed : state.finish maxDepth = .error fault) :
    Lacks maxDepth state fault := by
  have agrees := placed.agrees
  obtain ⟨offset, context, mode⟩ := state
  cases mode with
  | ready => exact Rests.ready.lacks agrees failed
  | complete => exact Rests.complete.lacks agrees failed
  | string opening quote content =>
      cases failed
      exact completes_string ..
  | numeral numeral =>
      cases closed : numeral.close with
      | error flaw =>
          simp only [State.finish, closed] at failed
          cases failed
          obtain ⟨cause, spanned⟩ := cause_of_close closed
          rw [Lacks, cause, spanned]
          exact agrees
      | ok literal => exact (Rests.numeral closed rfl).lacks agrees failed
  | name chars => exact (Rests.name rfl).lacks agrees failed
  | named name => exact (Rests.named rfl).lacks agrees failed
  | tooDeep =>
      cases failed
      exact rfl

end Endings

section Texts

variable {maxDepth : Nat} {text : List Char}

theorem Leads.read_eq {statements : List Expr}
    (leads : Leads maxDepth .initial text (Rests (.program statements))) :
    read maxDepth text = .ok (.ofStatements statements.reverse) := by
  obtain ⟨state, ran, rests⟩ := leads
  rw [read, ran]
  exact rests.finish

theorem Leads.exists_read (leads : Leads maxDepth .initial text (Completes maxDepth)) :
    ∃ rest expr, read maxDepth (text ++ rest) = .ok expr := by
  obtain ⟨state, ran, rest, statements, completed⟩ := leads
  refine ⟨rest, .ofStatements statements.reverse, Leads.read_eq ?_⟩
  apply Leads.append ⟨state, ran, rfl⟩
  rintro _ rfl
  exact completed

end Texts

section Causes

variable {maxDepth : Nat} {fault : Fault} {text : List Char}

/-- Reading fails at a character or at the end of the text. -/
theorem stops_or_lacks (failed : read maxDepth text = .error fault) :
    (∃ before char after state,
      text = before ++ char :: after ∧ Stops maxDepth fault before char state) ∨
    ∃ state, text.foldlM (State.next maxDepth) .initial = .ok state ∧
      Placed text state ∧ Lacks maxDepth state fault := by
  rcases bind_eq_error.mp failed with stopped | ⟨state, ran, lacking⟩
  · exact Or.inl (exists_stops stopped)
  · have placed : Placed text state := .ofRun ran
    exact Or.inr ⟨state, ran, placed, placed.lacks lacking⟩

/-- A misplaced character is refused where a break could stand. -/
theorem exists_stops_of_character (failed : read maxDepth text = .error fault)
    (character : fault.kind.cause = .character) :
    ∃ before char after state context, text = before ++ char :: after ∧
      Stops maxDepth fault before char state ∧ Rests context state ∧
      fault = State.faultAt (String.utf8Len before) char (context.misplaced char) := by
  rcases stops_or_lacks failed with ⟨before, char, after, state, split, stops⟩ | ⟨_, _, _, lacks⟩
  · have refuses := stops.refuses
    rw [Refuses, character, stops.placed.offset_eq] at refuses
    obtain ⟨context, rests, same⟩ := refuses
    exact ⟨before, char, after, state, context, split, stops, rests, same⟩
  · rw [Lacks, character] at lacks
    exact lacks.elim

theorem exists_stops_of_nesting (failed : read maxDepth text = .error fault)
    (nesting : fault.kind.cause = .nesting) (nonempty : fault.span.start < fault.span.stop) :
    ∃ before char after state, text = before ++ char :: after ∧
      Stops maxDepth fault before char state ∧
      fault.span = .ofChar (String.utf8Len before) char := by
  rcases stops_or_lacks failed with ⟨before, char, after, state, split, stops⟩ | ⟨_, _, _, lacks⟩
  · have refuses := stops.refuses
    rw [Refuses, nesting, stops.placed.offset_eq] at refuses
    exact ⟨before, char, after, state, split, stops, refuses⟩
  · rw [Lacks, nesting] at lacks
    rw [lacks] at nonempty
    exact absurd nonempty (Nat.lt_irrefl _)

theorem exists_stops_of_numeral (failed : read maxDepth text = .error fault)
    (numeral : fault.kind.cause = .numeral) (inside : fault.span.stop < String.utf8Len text) :
    ∃ before char after state, text = before ++ char :: after ∧
      Stops maxDepth fault before char state ∧ fault.span.stop = String.utf8Len before := by
  rcases stops_or_lacks failed with
    ⟨before, char, after, state, split, stops⟩ | ⟨state, _, placed, lacks⟩
  · have refuses := stops.refuses
    rw [Refuses, numeral, stops.placed.offset_eq] at refuses
    exact ⟨before, char, after, state, split, stops, refuses⟩
  · rw [Lacks, numeral, placed.offset_eq] at lacks
    rw [lacks] at inside
    exact absurd inside (Nat.lt_irrefl _)

theorem leads_of_ending (failed : read maxDepth text = .error fault)
    (ending : fault.kind.cause = .ending) : Leads maxDepth .initial text (Completes maxDepth) := by
  rcases stops_or_lacks failed with ⟨_, _, _, _, _, stops⟩ | ⟨state, ran, _, lacks⟩
  · have refuses := stops.refuses
    rw [Refuses, ending] at refuses
    exact refuses.elim
  · rw [Lacks, ending] at lacks
    exact ⟨state, ran, lacks⟩

end Causes

end Reader

open Reader

/-- A text holds `before` up to a byte offset. -/
def IsBefore (offset : Nat) (source before : String) : Prop :=
  before.utf8ByteSize = offset ∧ ∃ after, before ++ after = source

/-- Every text that begins this way has one and the same fault. -/
def IsDoomed (maxDepth : Nat) (fault : Fault) (before : String) : Prop :=
  ∀ rest, parseWithin maxDepth (before ++ rest) = .error ⟨fault, before ++ rest⟩

/-- Some text that begins this way is a program. -/
def IsViable (maxDepth : Nat) (before : String) : Prop :=
  ∃ rest expr, parseWithin maxDepth (before ++ rest) = .ok expr

section Sources

variable {maxDepth : Nat} {fault : Fault} {source : String} {before after : List Char} {char : Char}
  {state : State}

theorem isBefore_ofList (split : source.toList = before ++ after) :
    IsBefore (String.utf8Len before) source (.ofList before) := by
  refine ⟨String.utf8ByteSize_ofList before, .ofList after, ?_⟩
  rw [← String.ofList_append, ← split, String.ofList_toList]

theorem isBefore_push (split : source.toList = before ++ char :: after) :
    IsBefore (String.utf8Len before + char.utf8Size) source ((String.ofList before).push char) := by
  rw [List.append_cons] at split
  have pushed : (String.ofList before).push char = .ofList (before ++ [char]) := by
    rw [← String.toList_inj, String.toList_push, String.toList_ofList, String.toList_ofList]
  have size : String.utf8Len before + char.utf8Size = String.utf8Len (before ++ [char]) := by
    rw [String.utf8Len_append, String.utf8Len_cons, String.utf8Len_nil, Nat.zero_add]
  rw [pushed, size]
  exact isBefore_ofList split

theorem isDoomed_push (stops : Stops maxDepth fault before char state) :
    IsDoomed maxDepth fault ((String.ofList before).push char) := by
  intro rest
  apply parseWithin_error_iff_read.mpr
  refine ⟨?_, rfl⟩
  rw [String.toList_append, String.toList_push, String.toList_ofList, ← List.append_cons]
  exact stops.read_eq rest.toList

theorem isViable_of_leads (leads : Leads maxDepth .initial source.toList (Completes maxDepth)) :
    IsViable maxDepth source := by
  obtain ⟨rest, expr, completed⟩ := leads.exists_read
  refine ⟨.ofList rest, expr, parseWithin_ok_iff_read.mpr ?_⟩
  rwa [String.toList_append, String.toList_ofList]

theorem exists_isDoomed (split : source.toList = before ++ char :: after)
    (stops : Stops maxDepth fault before char state)
    (spanned : fault.span = .ofChar (String.utf8Len before) char) :
    ∃ doomed, IsBefore fault.span.stop source doomed ∧ IsDoomed maxDepth fault doomed := by
  rw [spanned]
  exact ⟨_, isBefore_push split, isDoomed_push stops⟩

/-- What comes before a misplaced character can be completed, and is complete if the
character stands outside every box. -/
theorem exists_isViable (failed : read maxDepth source.toList = .error fault)
    (character : fault.kind.cause = .character) :
    ∃ viable, IsBefore fault.span.start source viable ∧ IsViable maxDepth viable ∧
      ∀ found, fault.kind = .trailingInput found →
        ∃ expr, parseWithin maxDepth viable = .ok expr := by
  obtain ⟨before, char, after, state, context, split, stops, rests, rfl⟩ :=
    exists_stops_of_character failed character
  refine ⟨.ofList before, isBefore_ofList split, isViable_of_leads ?_, ?_⟩
  · rw [String.toList_ofList]
    exact ⟨state, stops.ran, completes_of_rests rests stops.placed.agrees⟩
  · intro found trailing
    obtain ⟨statements, rfl⟩ := Context.eq_program_of_misplaced trailing
    refine ⟨.ofStatements statements.reverse, parseWithin_ok_iff_read.mpr ?_⟩
    rw [String.toList_ofList]
    exact Leads.read_eq ⟨state, stops.ran, rests⟩

end Sources

/-- A fault is raised at the first bad character.  Whatever follows the character makes no
difference to the fault, and what comes before a misplaced character is the beginning of a
program, as is all of a text that ends too early. -/
theorem parseWithin_error_at_first_bad_char {maxDepth : Nat} {source : String}
    {error : ParseError} (failed : parseWithin maxDepth source = .error error) :
    (error.kind.cause = .character ∨
        error.kind.cause = .nesting ∧ error.span.start < error.span.stop →
      ∃ before, IsBefore error.span.stop source before ∧
        IsDoomed maxDepth error.toFault before) ∧
    (error.kind.cause = .numeral → error.span.stop < source.utf8ByteSize →
      ∃ before char, IsBefore error.span.stop source before ∧
        IsBefore (error.span.stop + char.utf8Size) source (before.push char) ∧
        IsDoomed maxDepth error.toFault (before.push char)) ∧
    (error.kind.cause = .character →
      ∃ before, IsBefore error.span.start source before ∧ IsViable maxDepth before ∧
        ∀ found, error.kind = .trailingInput found →
          ∃ expr, parseWithin maxDepth before = .ok expr) ∧
    (error.kind.cause = .ending → IsViable maxDepth source) := by
  obtain ⟨failed, -⟩ := parseWithin_error_iff_read.mp failed
  refine ⟨?_, ?_, exists_isViable failed, ?_⟩
  · rintro (character | ⟨nesting, nonempty⟩)
    · obtain ⟨before, char, after, state, context, split, stops, -, same⟩ :=
        exists_stops_of_character failed character
      exact exists_isDoomed split stops (congrArg Fault.span same)
    · obtain ⟨before, char, after, state, split, stops, spanned⟩ :=
        exists_stops_of_nesting failed nesting nonempty
      exact exists_isDoomed split stops spanned
  · intro numeral inside
    rw [← String.utf8Len_toList] at inside
    obtain ⟨before, char, after, state, split, stops, stop_eq⟩ :=
      exists_stops_of_numeral failed numeral inside
    rw [stop_eq]
    exact ⟨.ofList before, char, isBefore_ofList split, isBefore_push split, isDoomed_push stops⟩
  · intro ending
    exact isViable_of_leads (leads_of_ending failed ending)

theorem parseWithin_error_at_first_bad_char_three_texts :
    (parseWithin 1 "\x7b'é' $ 1" = .error ⟨⟨.unclosedBox (some '$'), ⟨6, 7⟩⟩, "\x7b'é' $ 1"⟩ ∧
      (∃ before, IsBefore 7 "\x7b'é' $ 1" before ∧
        IsDoomed 1 ⟨.unclosedBox (some '$'), ⟨6, 7⟩⟩ before) ∧
      ∃ before, IsBefore 6 "\x7b'é' $ 1" before ∧ IsViable 1 before) ∧
    (parseWithin 1 "1_ x" = .error ⟨⟨.invalidNumber "Trailing `_` in number", ⟨0, 2⟩⟩, "1_ x"⟩ ∧
      ∃ before char, IsBefore 2 "1_ x" before ∧
        IsBefore (2 + char.utf8Size) "1_ x" (before.push char) ∧
        IsDoomed 1 ⟨.invalidNumber "Trailing `_` in number", ⟨0, 2⟩⟩ (before.push char)) ∧
    (parseWithin 2 "a = \x7b'" = .error ⟨⟨.unterminatedString, ⟨5, 6⟩⟩, "a = \x7b'"⟩ ∧
      IsViable 2 "a = \x7b'") := by
  refine ⟨?_, ?_, ?_⟩
  · have failed : parseWithin 1 "\x7b'é' $ 1" =
        .error ⟨⟨.unclosedBox (some '$'), ⟨6, 7⟩⟩, "\x7b'é' $ 1"⟩ := rfl
    obtain ⟨doomed, -, viable, -⟩ := parseWithin_error_at_first_bad_char failed
    obtain ⟨before, isBefore, isViable, -⟩ := viable rfl
    exact ⟨failed, doomed (.inl rfl), before, isBefore, isViable⟩
  · have failed : parseWithin 1 "1_ x" =
        .error ⟨⟨.invalidNumber "Trailing `_` in number", ⟨0, 2⟩⟩, "1_ x"⟩ := rfl
    obtain ⟨-, doomed, -, -⟩ := parseWithin_error_at_first_bad_char failed
    exact ⟨failed, doomed rfl (by decide)⟩
  · have failed : parseWithin 2 "a = \x7b'" =
        .error ⟨⟨.unterminatedString, ⟨5, 6⟩⟩, "a = \x7b'"⟩ := rfl
    obtain ⟨-, -, -, viable⟩ := parseWithin_error_at_first_bad_char failed
    exact ⟨failed, viable rfl⟩

end BoxLang
