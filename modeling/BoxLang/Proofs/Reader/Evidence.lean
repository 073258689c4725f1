import BoxLang.Proofs.Reader.Boundaries
import BoxLang.Proofs.Reader.Moves

/-!
# What faults say about a text

A state remembers where boxes, strings and numerals have started, and the text shows them there:
a brace, a quote that has not come up again, a digit or a sign.  A fault only speaks of what is
remembered or of the character that is read, so what it says of the characters it covers is true.
-/

namespace BoxLang

open Reader in
/-- What a fault says of the characters that it covers and of those that come after them. -/
def FaultKind.Describes (covered after : List Char) : FaultKind → Prop
  | .unexpectedChar _ found | .trailingInput found | .unclosedBox (some found) =>
      covered = [found] ∧ isSpace found = false
  | .unexpectedEnd _ => covered = [] ∧ after = []
  | .unterminatedString =>
      (∃ quote content, covered = quote :: content ∧ (quote = '"' ∨ quote = '\'') ∧
        quote ∉ content) ∧ after = []
  | .invalidNumber _ =>
      ∃ first rest, covered = first :: rest ∧
        (first.isDigit = true ∨ Numeral.isSign first = true)
  | .numberOutOfRange written => covered = written.toList ∧ covered ≠ []
  | .unclosedBox none => (∃ body, covered = '{' :: body) ∧ after = []
  | .maxDepthExceeded _ _ => (∃ char, covered = [char]) ∨ covered = [] ∧ after = []

/-- A fault covers whole characters of a text, and what it says of them is true. -/
def Fault.IsFaithful (fault : Fault) (text : List Char) : Prop :=
  ∃ before covered after, text = before ++ covered ++ after ∧
    fault.span = ⟨String.utf8Len before, String.utf8Len (before ++ covered)⟩ ∧
    fault.kind.Describes covered after

namespace Fault.IsFaithful

variable {fault : Fault} {text : List Char}

theorem start_le_stop (faithful : fault.IsFaithful text) : fault.span.start ≤ fault.span.stop := by
  obtain ⟨before, covered, after, -, spanned, -⟩ := faithful
  simp [spanned]

theorem stop_le (faithful : fault.IsFaithful text) :
    fault.span.stop ≤ String.utf8Len text := by
  obtain ⟨before, covered, after, rfl, spanned, -⟩ := faithful
  simp [spanned]

/-- Only a fault at the end of the text covers nothing. -/
theorem of_empty (faithful : fault.IsFaithful text) (empty : fault.span.start = fault.span.stop) :
    fault.span = .point (String.utf8Len text) ∧
      ((∃ expected, fault.kind = .unexpectedEnd expected) ∨
        ∃ depth limit, fault.kind = .maxDepthExceeded depth limit) := by
  obtain ⟨before, covered, after, rfl, spanned, describes⟩ := faithful
  obtain rfl : covered = [] := by simpa [spanned] using empty
  obtain ⟨kind, span⟩ := fault
  cases spanned
  cases kind with
  | unexpectedEnd expected =>
      obtain ⟨-, rfl⟩ := describes
      exact ⟨by simp [Span.point], .inl ⟨expected, rfl⟩⟩
  | maxDepthExceeded depth limit =>
      obtain ⟨char, covered⟩ | ⟨-, rfl⟩ := describes
      · cases covered
      · exact ⟨by simp [Span.point], .inr ⟨depth, limit, rfl⟩⟩
  | unexpectedChar => cases describes.1
  | trailingInput => cases describes.1
  | unterminatedString =>
      obtain ⟨⟨quote, content, covered, -⟩, -⟩ := describes
      cases covered
  | invalidNumber =>
      obtain ⟨first, rest, covered, -⟩ := describes
      cases covered
  | numberOutOfRange => exact absurd rfl describes.2
  | unclosedBox found =>
      cases found with
      | none =>
          obtain ⟨⟨body, covered⟩, -⟩ := describes
          cases covered
      | some found => cases describes.1

end Fault.IsFaithful

namespace Reader

/-- A part of a text has been read since a byte offset. -/
def ReadSince (text : List Char) (offset : Nat) (part : List Char) : Prop :=
  ∃ before, text = before ++ part ∧ String.utf8Len before = offset

section Parts

variable {text part covered after : List Char} {offset : Nat} {char : Char} {fault : Fault}

theorem ReadSince.snoc (since : ReadSince text offset part) (char : Char) :
    ReadSince (text ++ [char]) offset (part ++ [char]) := by
  obtain ⟨before, rfl, start_eq⟩ := since
  exact ⟨before, List.append_assoc .., start_eq⟩

theorem readSince_char (start_eq : offset = String.utf8Len text) (char : Char) :
    ReadSince (text ++ [char]) offset [char] :=
  ⟨text, rfl, start_eq.symm⟩

theorem ReadSince.isFaithful (since : ReadSince text offset covered)
    (spanned : fault.span = ⟨offset, String.utf8Len text⟩)
    (describes : fault.kind.Describes covered after) : fault.IsFaithful (text ++ after) := by
  obtain ⟨before, rfl, rfl⟩ := since
  exact ⟨before, covered, after, rfl, spanned, describes⟩

theorem isFaithful_faultAt {kind : FaultKind} (start_eq : offset = String.utf8Len text)
    (describes : kind.Describes [char] after) :
    (State.faultAt offset char kind).IsFaithful (text ++ char :: after) := by
  have spanned : (State.faultAt offset char kind).span =
      ⟨offset, String.utf8Len (text ++ [char])⟩ := by
    simp [State.faultAt, Span.ofChar, start_eq]
  rw [List.append_cons]
  exact (readSince_char start_eq char).isFaithful spanned describes

end Parts

/-- The text shows a brace wherever a box has been opened. -/
def Context.Recalls (text : List Char) (context : Context) : Prop :=
  ∀ opening ∈ context.openings, ∃ body, ReadSince text opening ('{' :: body)

/-- The text shows the string or the numeral that is being read. -/
def Mode.Recalls (text : List Char) : Mode → Prop
  | .string opening quote content =>
      (quote = '"' ∨ quote = '\'') ∧ quote ∉ content ∧
        ReadSince text opening (quote :: content.reverse)
  | .numeral written =>
      (∃ first rest, written.chars.reverse = first :: rest ∧
        (first.isDigit = true ∨ Numeral.isSign first = true)) ∧
      ReadSince text written.start written.chars.reverse
  | _ => True

/-- A state remembers what the text shows. -/
structure Recalls (text : List Char) (state : State) : Prop where
  context : state.context.Recalls text
  mode : state.mode.Recalls text

/-- What may come of a character after a text. -/
def Evidences (text : List Char) (char : Char) : Except Fault (Context × Mode) → Prop
  | .ok (context, mode) =>
      context.Recalls (text ++ [char]) ∧ mode.Recalls (text ++ [char])
  | .error fault => ∀ after, fault.IsFaithful (text ++ char :: after)

section Contexts

variable {text : List Char} {context : Context} {state : State}

theorem Context.Recalls.snoc (recalls : context.Recalls text) (char : Char) :
    context.Recalls (text ++ [char]) := by
  intro opening member
  obtain ⟨body, since⟩ := recalls opening member
  exact ⟨body ++ [char], since.snoc char⟩

theorem Context.Recalls.add (recalls : context.Recalls text) (expr : Expr) :
    (context.add expr).Recalls text := by
  rwa [Recalls, openings_add]

theorem Rests.recalls (rests : Rests context state) (recalls : state.context.Recalls text) :
    context.Recalls text := by
  cases rests with
  | ready => exact recalls
  | complete => exact recalls
  | numeral _ added => exact added ▸ recalls.add _
  | name added => exact added ▸ recalls.add _
  | named added => exact added ▸ recalls.add _

theorem recalls_nest {maxDepth : Nat} (recalls : context.Recalls text) :
    (State.nest maxDepth context).1.Recalls text ∧
      (State.nest maxDepth context).2.Recalls text := by
  unfold State.nest
  split
  case isTrue => exact ⟨recalls, trivial⟩
  case isFalse => exact ⟨recalls, trivial⟩

theorem describes_misplaced {char : Char} (context : Context) (notSpace : isSpace char = false)
    (after : List Char) : (context.misplaced char).Describes [char] after := by
  cases context with
  | program => exact ⟨rfl, notSpace⟩
  | box => exact ⟨rfl, notSpace⟩
  | assignment => exact ⟨rfl, notSpace⟩

end Contexts

section Numerals

variable {text : List Char} {numeral : Numeral} {kind : FaultKind} {fault : Fault}

theorem isFaithful_numeral (recalls : (Mode.numeral numeral).Recalls text)
    (ends : numeral.span.stop = String.utf8Len text) {after : List Char}
    (describes : kind.Describes numeral.chars.reverse after) :
    (Fault.mk kind numeral.span).IsFaithful (text ++ after) := by
  apply recalls.2.isFaithful _ describes
  rw [← ends]
  rfl

theorem isFaithful_of_close (recalls : (Mode.numeral numeral).Recalls text)
    (ends : numeral.span.stop = String.utf8Len text)
    (unclosed : numeral.close = .error fault) (after : List Char) :
    fault.IsFaithful (text ++ after) := by
  unfold Numeral.close at unclosed
  split at unclosed
  case h_1 =>
    cases unclosed
    exact isFaithful_numeral recalls ends recalls.1
  case h_2 =>
    split at unclosed
    case h_1 => cases unclosed
    case h_2 =>
      cases unclosed
      apply isFaithful_numeral recalls ends
      obtain ⟨⟨first, rest, written, -⟩, -⟩ := recalls
      exact ⟨by simp [Numeral.text], by simp [written]⟩

theorem recalls_of_longer {char : Char} {numeral' : Numeral}
    (recalls : (Mode.numeral numeral).Recalls text)
    (longer : numeral.next char = .longer numeral') :
    (Mode.numeral numeral').Recalls (text ++ [char]) := by
  obtain ⟨rfl, -⟩ := eq_push_of_longer longer
  obtain ⟨⟨first, rest, written, begins⟩, since⟩ := recalls
  have pushed : (numeral.push char).chars.reverse = numeral.chars.reverse ++ [char] :=
    List.reverse_cons
  rw [Mode.Recalls, pushed, written]
  refine ⟨⟨first, rest ++ [char], rfl, begins⟩, ?_⟩
  rw [← written]
  exact since.snoc char

end Numerals

section Steps

variable {maxDepth : Nat} {text : List Char} {state : State} {char : Char} {fault : Fault}

theorem Moves.evidences {result : Except Fault (Context × Mode)}
    (moves : Moves maxDepth state char result) (placed : Placed text state)
    (recalls : Recalls text state) : Evidences text char result := by
  have start_eq := placed.offset_eq
  have agrees := placed.agrees
  obtain ⟨recallsContext, recallsMode⟩ := recalls
  cases moves with
  | blank => exact ⟨recallsContext.snoc char, trivial⟩
  | openString isQuote =>
      exact ⟨recallsContext.snoc char, isQuote, List.not_mem_nil, readSince_char start_eq char⟩
  | beginNumeral begins =>
      exact ⟨recallsContext.snoc char, ⟨char, [], rfl, begins⟩, readSince_char start_eq char⟩
  | openBox =>
      apply recalls_nest
      intro opening member
      rcases List.mem_cons.mp member with rfl | member
      · exact ⟨[], readSince_char start_eq '{'⟩
      · exact recallsContext.snoc '{' opening member
  | beginName => exact ⟨recallsContext.snoc char, trivial⟩
  | @inString _ _ _ quote _ content differs =>
      obtain ⟨isQuote, apart, since⟩ := recallsMode
      refine ⟨recallsContext.snoc char, isQuote, ?_, ?_⟩
      · simp [apart, Ne.symm differs]
      · rw [List.reverse_cons]
        exact since.snoc char
  | closeString => exact ⟨(recallsContext.snoc _).add _, trivial⟩
  | inNumeral longer => exact ⟨recallsContext.snoc char, recalls_of_longer recallsMode longer⟩
  | endNumeral => exact ⟨(recallsContext.snoc char).add _, trivial⟩
  | malformed =>
      intro after
      exact isFaithful_numeral recallsMode (agrees.trans start_eq) recallsMode.1
  | unfinished unclosed =>
      intro after
      exact isFaithful_of_close recallsMode (agrees.trans start_eq) unclosed _
  | inName => exact ⟨recallsContext.snoc char, trivial⟩
  | endName => exact ⟨recallsContext.snoc char, trivial⟩
  | assign => exact recalls_nest (recallsContext.snoc '=')
  | settled => exact ⟨recallsContext.snoc char, trivial⟩
  | semicolon rests => exact ⟨(rests.recalls recallsContext).snoc ';', trivial⟩
  | closeBox rests =>
      have recallsBox := (rests.recalls recallsContext).snoc '}'
      refine ⟨Context.Recalls.add ?_ _, trivial⟩
      intro opening member
      exact recallsBox opening (List.mem_cons_of_mem _ member)
  | misplaced _ notSpace =>
      intro after
      exact isFaithful_faultAt start_eq (describes_misplaced _ notSpace after)
  | tooDeep =>
      intro after
      exact isFaithful_faultAt start_eq (.inl ⟨char, rfl⟩)

theorem Recalls.next {state' : State} (recalls : Recalls text state) (placed : Placed text state)
    (stepped : state.next maxDepth char = .ok state') : Recalls (text ++ [char]) state' := by
  obtain ⟨⟨context, mode⟩, moved, stepped⟩ := bind_eq_ok.mp stepped
  cases stepped
  have evidences := (@Moves.ofMove maxDepth state char).evidences placed recalls
  rw [moved] at evidences
  exact ⟨evidences.1, evidences.2⟩

theorem Recalls.ofRun (ran : text.foldlM (State.next maxDepth) .initial = .ok state) :
    Recalls text state := by
  have start : Recalls [] .initial := ⟨fun _ member => absurd member List.not_mem_nil, trivial⟩
  refine State.ran_of_invariant start ?_ ran
  intro text char state state' ran recalls stepped
  exact recalls.next (.ofRun ran) stepped

end Steps

section Endings

variable {maxDepth offset : Nat} {text : List Char} {context : Context} {state : State}
  {fault : Fault}

theorem isFaithful_point {kind : FaultKind} (end_eq : offset = String.utf8Len text)
    (describes : kind.Describes [] []) : (Fault.mk kind (.point offset)).IsFaithful text :=
  ⟨text, [], [], by simp, by simp [Span.point, end_eq], describes⟩

theorem isFaithful_of_finishContext (end_eq : offset = String.utf8Len text)
    (recalls : context.Recalls text)
    (failed : State.finishContext offset context = .error fault) : fault.IsFaithful text := by
  cases context with
  | program => cases failed
  | box opening =>
      cases failed
      obtain ⟨body, since⟩ := recalls opening List.mem_cons_self
      rw [← List.append_nil text]
      exact since.isFaithful (end_eq ▸ rfl) ⟨⟨body, rfl⟩, rfl⟩
  | assignment =>
      cases failed
      exact isFaithful_point end_eq ⟨rfl, rfl⟩

theorem isFaithful_of_finish (placed : Placed text state) (recalls : Recalls text state)
    (failed : state.finish maxDepth = .error fault) : fault.IsFaithful text := by
  have end_eq := placed.offset_eq
  have agrees := placed.agrees
  obtain ⟨recallsContext, recallsMode⟩ := recalls
  obtain ⟨offset, context, mode⟩ := state
  cases mode with
  | ready => exact isFaithful_of_finishContext end_eq recallsContext failed
  | complete => exact isFaithful_of_finishContext end_eq recallsContext failed
  | string opening quote content =>
      cases failed
      obtain ⟨isQuote, apart, since⟩ := recallsMode
      rw [← List.append_nil text]
      refine since.isFaithful (end_eq ▸ rfl) ⟨⟨quote, content.reverse, rfl, isQuote, ?_⟩, rfl⟩
      rwa [List.mem_reverse]
  | numeral numeral =>
      rcases bind_eq_error.mp failed with unclosed | ⟨literal, -, failed⟩
      · rw [← List.append_nil text]
        exact isFaithful_of_close recallsMode (agrees.trans end_eq) unclosed []
      · exact isFaithful_of_finishContext end_eq (recallsContext.add literal) failed
  | name chars => exact isFaithful_of_finishContext end_eq (recallsContext.add _) failed
  | named name => exact isFaithful_of_finishContext end_eq (recallsContext.add _) failed
  | tooDeep =>
      cases failed
      exact isFaithful_point end_eq (.inr ⟨rfl, rfl⟩)

end Endings

/-- The fault of a text is true to it. -/
theorem isFaithful_of_read {maxDepth : Nat} {text : List Char} {fault : Fault}
    (failed : read maxDepth text = .error fault) : fault.IsFaithful text := by
  rcases bind_eq_error.mp failed with stopped | ⟨state, ran, failed⟩
  · obtain ⟨before, char, after, state, split, stops⟩ := exists_stops stopped
    have evidences := (@Moves.ofMove maxDepth state char).evidences stops.placed
      (.ofRun stops.ran)
    rw [stops.failed] at evidences
    rw [split]
    exact evidences after
  · exact isFaithful_of_finish (.ofRun ran) (.ofRun ran) failed

end Reader

end BoxLang
