import BoxLang.Proofs.Expr.Agreement
import BoxLang.Proofs.Reader.Descent

/-!
# Safety of the cursor

From every sound cursor, every function of the descent goes through sound places only, forward
only, and with no check failing.  It leaves as much open as it finds.  So a whole text is read by
descent as the reader reads it, and a cursor is never off a character boundary on the way.
-/

namespace BoxLang.Descent

open Reader

section Programs

variable {input : Input} {start cursor : Cursor} {unread rest : List Char}

/-- A program ends where only spaces are left. -/
theorem endOfInput_yields (standing : At input cursor rest) (statements : List Expr) :
    Yields input cursor
      (fun _ _ _ => reading input cursor (.program statements) .complete rest =
        .ok (.ofStatements statements.reverse))
      (fun fault => (rest.dropWhile isSpace).head? ≠ some ';' →
        reading input cursor (.program statements) .complete rest = .error fault)
      (endOfInput input cursor) := by
  have skipped := standing.skipped
  rw [skipped.reading_eq _ .complete trivial]
  generalize rest.dropWhile isSpace = remaining at skipped
  simp only [endOfInput, bind_apply, skipSpace_apply, andThen_ok, skipped.standing.charHere_eq]
  refine Yields.after ?_ skipped.after
  cases remaining with
  | nil => exact .ofOk skipped.standing rfl
  | cons char remaining =>
      simp only [List.head?_cons, skipped.standing.failHere_eq]
      refine .ofFault skipped.standing ?_
      intro notSemicolon
      apply readOn_trailing (skipped.quiet char rfl)
      rintro rfl
      exact notSemicolon rfl

theorem program_yields (outermost : input.enclosing = []) (standing : At input start unread) :
    Yields input start
      (fun expr _ _ => reading input start (.program []) .ready unread = .ok expr)
      (fun fault => reading input start (.program []) .ready unread = .error fault)
      (program input start) := by
  have depth_eq : (Context.program []).depth = input.enclosing.length := by
    rw [outermost]
    rfl
  apply (sequence_yields standing).andThen rfl
  · intro fault faults
    exact faults _ trivial depth_eq
  · rintro expr cursor rest - ended ⟨statements, rfl, reads⟩
    have block_eq := @foldl_add .program (fun _ _ => rfl) statements []
    rw [List.append_nil] at block_eq
    have reading_eq := reads.reading_eq (.program []) trivial depth_eq
    rw [block_eq] at reading_eq
    have notSemicolon : (rest.dropWhile isSpace).head? ≠ some ';' := by
      cases rest with
      | nil => exact nofun
      | cons char rest =>
          obtain ⟨notSpace, differs⟩ := reads.ended char rfl
          simp [notSpace, differs]
    rw [reading_eq, bind_apply]
    apply (endOfInput_yields ended statements.reverse).andThen rfl
    · intro fault faults
      exact faults notSemicolon
    · intro _ cursor' rest' _ finished finished_eq
      rw [List.reverse_reverse] at finished_eq
      exact .ofOk finished finished_eq

end Programs

section Calls

/-- A call of a function of the descent, where the next byte lets it be called.  Opening and
closing are apart, since they change the count. -/
inductive Call (input : Input) (cursor : Cursor) : {α : Type} → Result α → Prop
  | skipSpace : Call input cursor (skipSpace input cursor)
  | eat {char : Char} : char.toNat < 128 → Call input cursor (eat input char cursor)
  | charHere : Call input cursor (charHere input cursor)
  | spanHere : Call input cursor (spanHere input cursor)
  | endOfInput : Call input cursor (endOfInput input cursor)
  | statements (done : List Expr) : Call input cursor (statements input done cursor)
  | sequence : Call input cursor (sequence input cursor)
  | expression : Call input cursor (expression input cursor)
  | value : Call input cursor (value input cursor)
  | string {char : Char} :
      input.next? cursor = some char → char = '"' ∨ char = '\'' →
      Call input cursor (string input cursor)
  | number {char : Char} :
      input.next? cursor = some char → char.isDigit = true ∨ Numeral.isSign char = true →
      Call input cursor (number input cursor)
  | name {char : Char} :
      input.next? cursor = some char → startsName char = true →
      Call input cursor (name input cursor)
  | named {char : Char} :
      input.next? cursor = some char → startsName char = true →
      Call input cursor (named input cursor)
  | box : input.next? cursor = some '{' → Call input cursor (box input cursor)

/-- What a call does to a cursor: no check fails, the cursor has been at sound places only and is
not before where it was, and when the call returns, all that it has opened is closed. -/
def Keeps {α : Type} (input : Input) (start : Cursor) : Result α → Prop
  | .ok _ cursor =>
      cursor.IsSound input.text ∧ start.After cursor ∧ start.index ≤ cursor.index ∧
        cursor.depth = start.depth ∧ cursor.here.enclosing = start.here.enclosing
  | .error (.fault _) cursor =>
      cursor.IsSound input.text ∧ start.After cursor ∧ start.index ≤ cursor.index
  | .error (.failed _) _ => False

variable {α : Type} {input : Input} {start cursor : Cursor} {unread : List Char} {char : Char}
  {Reads : α → Cursor → List Char → Prop} {Faulty : Fault → Prop} {result : Result α}

theorem At.keeps {value : α} {rest : List Char} (standing : At input start unread)
    (ended : At input cursor rest) (after : start.After cursor) :
    Keeps input start (.ok value cursor) := by
  refine ⟨ended.isSound, after, after.index_le ended.isSound, ?_, ?_⟩
  · rw [ended.depth_eq, standing.depth_eq]
  · rw [ended.enclosing_eq, standing.enclosing_eq]

theorem Yields.keeps (yields : Yields input start Reads Faulty result)
    (standing : At input start unread) : Keeps input start result := by
  cases result with
  | ok value cursor =>
      obtain ⟨after, rest, ended, -⟩ := yields
      exact standing.keeps ended after
  | error stop cursor =>
      cases stop with
      | fault fault => exact ⟨yields.2.1, yields.1, yields.1.index_le yields.2.1⟩
      | failed check => exact yields.elim

theorem At.exists_cons (standing : At input cursor unread)
    (seen : input.next? cursor = some char) (ascii : char.toNat < 128) :
    ∃ rest, unread = char :: rest := by
  cases unread with
  | nil => simp [standing.next?_nil] at seen
  | cons first unread =>
      have lead_eq := Option.some.inj (standing.next?_cons.symm.trans seen)
      obtain rfl := (lead_eq_iff ascii).mp lead_eq
      exact ⟨unread, rfl⟩

/-- Every call keeps a sound cursor sound. -/
theorem Call.keeps (call : Call input cursor result) (standing : At input cursor unread) :
    Keeps input cursor result := by
  cases call with
  | skipSpace => exact standing.keeps (standing.skip isAscii_isSpace) (.skip input isSpace cursor)
  | eat ascii =>
      rw [standing.eat_eq ascii]
      split
      case isTrue head =>
        obtain ⟨rest, rfl⟩ := List.head?_eq_some_iff.mp head
        exact standing.keeps (standing.advance_char ascii) (.advance cursor input 1)
      case isFalse => exact standing.keeps standing (.refl cursor)
  | charHere =>
      rw [standing.charHere_eq]
      exact standing.keeps standing (.refl cursor)
  | spanHere =>
      rw [standing.spanHere_eq]
      exact standing.keeps standing (.refl cursor)
  | endOfInput => exact (endOfInput_yields standing []).keeps standing
  | statements done => exact (statements_yields done standing).keeps standing
  | sequence => exact (sequence_yields standing).keeps standing
  | expression => exact (expression_yields standing).keeps standing
  | value => exact (value_yields standing).keeps standing
  | @string char seen isQuote =>
      have ascii : char.toNat < 128 := by rcases isQuote with rfl | rfl <;> decide
      obtain ⟨rest, rfl⟩ := standing.exists_cons seen ascii
      exact (string_yields isQuote standing).keeps standing
  | number seen begins =>
      have ascii := begins.elim (isAscii_isDigit _) (isAscii_isSign _)
      obtain ⟨rest, rfl⟩ := standing.exists_cons seen ascii
      exact (number_yields begins standing).keeps standing
  | name seen starts =>
      obtain ⟨rest, rfl⟩ := standing.exists_cons seen (isAscii_startsName _ starts)
      exact (name_yields starts standing).keeps standing
  | named seen starts =>
      obtain ⟨rest, rfl⟩ := standing.exists_cons seen (isAscii_startsName _ starts)
      exact (named_yields starts standing).keeps standing
  | box seen =>
      obtain ⟨rest, rfl⟩ := standing.exists_cons seen (by decide)
      exact (box_yields standing).keeps standing

end Calls

section Expressions

variable {input : Input} {cursor cursor' : Cursor} {unread : List Char}

theorem eq_of_expression_none (standing : At input cursor unread)
    (read : expression input cursor = .ok none cursor') : cursor' = cursor := by
  have yields := expression_yields standing
  rw [read] at yields
  obtain ⟨-, rest, -, same, -⟩ := yields
  exact same

theorem index_lt_of_expression_some {expr : Expr} (standing : At input cursor unread)
    (read : expression input cursor = .ok (some expr) cursor') :
    cursor.index < cursor'.index := by
  have yields := expression_yields standing
  rw [read] at yields
  obtain ⟨-, rest, -, reads⟩ := yields
  exact ReadsExpr.advances reads

end Expressions

section Counting

variable {input : Input} {cursor cursor' : Cursor}

/-- Opening stays where it is and counts one more. -/
theorem depth_of_enterNested (entered : enterNested input cursor = .ok () cursor') :
    cursor'.index = cursor.index ∧ cursor'.depth = cursor.depth + 1 := by
  rw [enterNested_apply] at entered
  split at entered
  case isTrue =>
    cases entered
    exact ⟨rfl, rfl⟩
  case isFalse =>
    simp only [failHere, bind_apply] at entered
    cases found : spanHere input (cursor.goTo input cursor.index (cursor.depth + 1)) with
    | ok span cursor =>
        rw [found] at entered
        cases entered
    | error stop cursor =>
        rw [found] at entered
        cases entered

theorem depth_of_exitNested (exited : exitNested input cursor = .ok () cursor') :
    cursor'.index = cursor.index ∧ cursor'.depth + 1 = cursor.depth := by
  unfold exitNested at exited
  split at exited
  case h_1 => cases exited
  case h_2 depth depth_eq =>
    cases exited
    exact ⟨rfl, depth_eq.symm⟩

end Counting

section Runs

variable {source : String} {maxDepth : Nat}

theorem Place.IsSound.isValid {place : Place} (isSound : place.IsSound source.toList) :
    (String.Pos.Raw.mk place.index).IsValid source := by
  obtain ⟨before, unread, text_eq, index_eq⟩ := isSound.boundary
  rw [String.Pos.Raw.isValid_iff_exists_append]
  refine ⟨String.ofList before, String.ofList unread, ?_, ?_⟩
  · rw [← String.ofList_append, ← text_eq, String.ofList_toList]
  · rw [← index_eq, ← String.utf8ByteSize_ofList]
    rfl

theorem Place.IsSound.index_le {place : Place} (isSound : place.IsSound source.toList) :
    place.index ≤ source.utf8ByteSize := by
  obtain ⟨before, unread, text_eq, index_eq⟩ := isSound.boundary
  rw [← String.utf8Len_toList, text_eq, String.utf8Len_append, index_eq]
  exact Nat.le_add_right _ _

/-- What a function is called with at a cursor. -/
def inputAt (maxDepth : Nat) (source : String) (cursor : Cursor) : Input :=
  ⟨source.toList, maxDepth, cursor.here.enclosing⟩

theorem Cursor.IsSound.exists_at {cursor : Cursor} (isSound : cursor.IsSound source.toList)
    (maxDepth : Nat) : ∃ unread, At (inputAt maxDepth source cursor) cursor unread := by
  obtain ⟨before, unread, text_eq, index_eq⟩ :=
    (isSound.places cursor.here List.mem_cons_self).boundary
  exact ⟨unread, isSound, rfl, before, text_eq, index_eq⟩

theorem run_yields (maxDepth : Nat) (source : String) :
    Yields ⟨source.toList, maxDepth, []⟩ .start
      (fun expr _ _ => parseWithin maxDepth source = .ok expr)
      (fun fault => parseWithin maxDepth source = .error ⟨fault, source⟩)
      (run maxDepth source) := by
  have standing : At ⟨source.toList, maxDepth, []⟩ .start source.toList :=
    ⟨.start source.toList, rfl, [], rfl, rfl⟩
  have read_eq : Reader.read maxDepth source.toList =
      reading ⟨source.toList, maxDepth, []⟩ .start (.program []) .ready source.toList := rfl
  apply (program_yields rfl standing).mono
  · intro fault faulty
    rw [parseWithin, read_eq, faulty]
  · intro expr cursor rest _ reads
    rw [parseWithin, read_eq, reads]

theorem exists_run_eq (maxDepth : Nat) (source : String) :
    ∃ last : Cursor, last.IsSound source.toList ∧
      run maxDepth source =
        match parseWithin maxDepth source with
        | .ok expr => .ok expr last
        | .error error => .error (.fault error.toFault) last := by
  have yields := run_yields maxDepth source
  cases result : run maxDepth source with
  | ok expr last =>
      rw [result] at yields
      obtain ⟨-, unread, ended, parsed⟩ := yields
      exact ⟨last, ended.isSound, by rw [parsed]⟩
  | error stop last =>
      rw [result] at yields
      cases stop with
      | fault fault =>
          obtain ⟨-, isSound, refused⟩ := yields
          exact ⟨last, isSound, by rw [refused]⟩
      | failed check => exact yields.elim

/-- The cursor is always safe and always advances.  Reading a text by descent ends as reading it
does, without a check failing: everywhere on the way the cursor is between characters, counts what
is open and does not go back.  A call from any sound cursor of the text keeps it so and leaves the
count as it was; an expression that is not there moves nothing, one that is there moves on, and
only opening and closing change the count.  The strings of a tree are text. -/
theorem run_safe (maxDepth : Nat) (source : String) :
    (∃ last : Cursor,
      run maxDepth source =
        (match parseWithin maxDepth source with
        | .ok expr => .ok expr last
        | .error error => .error (.fault error.toFault) last) ∧
      (∀ place ∈ last.places,
        place.index ≤ source.utf8ByteSize ∧
        (String.Pos.Raw.mk place.index).IsValid source ∧
        place.depth = place.enclosing.length ∧
        (place.index :: place.enclosing).Pairwise (· > ·) ∧
        ∀ opening ∈ place.enclosing, IsOpening source.toList opening) ∧
      last.places.Pairwise fun later earlier => earlier.index ≤ later.index) ∧
    (∀ cursor : Cursor, cursor.IsSound source.toList →
      (∀ (α : Type) (result : Result α), Call (inputAt maxDepth source cursor) cursor result →
        Keeps (inputAt maxDepth source cursor) cursor result) ∧
      (∀ cursor', expression (inputAt maxDepth source cursor) cursor = .ok none cursor' →
        cursor' = cursor) ∧
      (∀ expr cursor', expression (inputAt maxDepth source cursor) cursor =
          .ok (some expr) cursor' →
        cursor.index < cursor'.index) ∧
      (∀ input cursor', enterNested input cursor = .ok () cursor' →
        cursor'.index = cursor.index ∧ cursor'.depth = cursor.depth + 1) ∧
      ∀ input cursor', exitNested input cursor = .ok () cursor' →
        cursor'.index = cursor.index ∧ cursor'.depth + 1 = cursor.depth) ∧
    ∀ expr, parseWithin maxDepth source = .ok expr →
      ∀ bytes, Expr.IsPart (.text bytes) expr → bytes.toByteArray.IsValidUTF8 := by
  refine ⟨?_, ?_, ?_⟩
  · obtain ⟨last, isSound, run_eq⟩ := exists_run_eq maxDepth source
    refine ⟨last, run_eq, ?_, isSound.ordered⟩
    intro place member
    have placed := isSound.places place member
    exact ⟨placed.index_le, placed.isValid, placed.counted, placed.nested, placed.opened⟩
  · intro cursor isSound
    obtain ⟨unread, standing⟩ := isSound.exists_at maxDepth
    refine ⟨?_, ?_, ?_, ?_, ?_⟩
    · intro α result call
      exact call.keeps standing
    · intro cursor' read
      exact eq_of_expression_none standing read
    · intro expr cursor' read
      exact index_lt_of_expression_some standing read
    · intro input cursor' entered
      exact depth_of_enterNested entered
    · intro input cursor' exited
      exact depth_of_exitNested exited
  · intro expr parsed bytes isPart
    obtain ⟨derives, -⟩ := derivesProgram_of_parsed parsed
    exact derives.isSequence.isValidUTF8 isPart

/-- The cursor passes the two bytes of a character together, while an assignment is open. -/
example : run 1 "x='é'" =
    .ok (.assign "x" (.text [195, 169]))
      ⟨⟨6, 0, []⟩, [⟨6, 1, [1]⟩, ⟨3, 1, [1]⟩, ⟨2, 1, [1]⟩, ⟨2, 0, []⟩, ⟨1, 0, []⟩, ⟨0, 0, []⟩]⟩ := by
  cbv

end Runs

end BoxLang.Descent
