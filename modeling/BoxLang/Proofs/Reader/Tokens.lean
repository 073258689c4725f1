import BoxLang.Proofs.Reader.Cursors
import BoxLang.Proofs.Reader.Literals

/-!
# Tokens of the descent

Strings, numbers and names are taken from the bytes of the text as the reader takes them from its
characters: from a sound cursor to a sound cursor with no check failing, or with the fault that
the reader finds.
-/

namespace BoxLang.Descent

open Reader

section Yielding

variable {α β : Type} {input input' : Input} {start cursor : Cursor} {unread : List Char}
  {Reads : α → Cursor → List Char → Prop} {Reads' : β → Cursor → List Char → Prop}
  {Faulty Faulty' : Fault → Prop} {result : Result α}

/-- What may come of reading: it ends at a sound cursor with what the text says, or in a fault of
the text.  No check fails. -/
def Yields (input : Input) (start : Cursor) (Reads : α → Cursor → List Char → Prop)
    (Faulty : Fault → Prop) : Result α → Prop
  | .ok value cursor =>
      start.After cursor ∧ ∃ unread, At input cursor unread ∧ Reads value cursor unread
  | .error (.fault fault) cursor => start.After cursor ∧ cursor.IsSound input.text ∧ Faulty fault
  | .error (.failed _) _ => False

theorem Yields.ofOk {value : α} (standing : At input cursor unread)
    (reads : Reads value cursor unread) : Yields input cursor Reads Faulty (.ok value cursor) :=
  ⟨.refl cursor, unread, standing, reads⟩

theorem Yields.ofFault {fault : Fault} (standing : At input cursor unread)
    (faulty : Faulty fault) :
    Yields input cursor Reads Faulty (.error (.fault fault) cursor) :=
  ⟨.refl cursor, standing.isSound, faulty⟩

/-- What is yielded is the same if it is looked at from an earlier cursor. -/
theorem Yields.after (yields : Yields input cursor Reads Faulty result)
    (after : start.After cursor) : Yields input start Reads Faulty result := by
  cases result with
  | ok value cursor => exact ⟨after.trans yields.1, yields.2⟩
  | error stop cursor =>
      cases stop with
      | fault fault => exact ⟨after.trans yields.1, yields.2⟩
      | failed check => exact yields.elim

theorem Yields.mono {Reads' : α → Cursor → List Char → Prop}
    (yields : Yields input start Reads Faulty result)
    (onFault : ∀ fault, Faulty fault → Faulty' fault)
    (onRead : ∀ value cursor unread, At input cursor unread → Reads value cursor unread →
      Reads' value cursor unread) :
    Yields input start Reads' Faulty' result := by
  cases result with
  | ok value cursor =>
      obtain ⟨after, unread, standing, reads⟩ := yields
      exact ⟨after, unread, standing, onRead value cursor unread standing reads⟩
  | error stop cursor =>
      cases stop with
      | fault fault => exact ⟨yields.1, yields.2.1, onFault fault yields.2.2⟩
      | failed check => exact yields.elim

theorem Yields.andThen {next : α → Parser β} (yields : Yields input start Reads Faulty result)
    (same : input.text = input'.text) (onFault : ∀ fault, Faulty fault → Faulty' fault)
    (onRead : ∀ value cursor unread, start.After cursor → At input cursor unread →
      Reads value cursor unread → Yields input' cursor Reads' Faulty' (next value cursor)) :
    Yields input' start Reads' Faulty' (andThen result next) := by
  cases result with
  | ok value cursor =>
      obtain ⟨after, unread, standing, reads⟩ := yields
      exact (onRead value cursor unread after standing reads).after after
  | error stop cursor =>
      cases stop with
      | fault fault => exact ⟨yields.1, same ▸ yields.2.1, onFault fault yields.2.2⟩
      | failed check => exact yields.elim

/-- What the reader makes of the text from a cursor on. -/
def reading (input : Input) (cursor : Cursor) (context : Context) (mode : Mode)
    (unread : List Char) : Except Fault Expr :=
  State.readOn input.maxDepth ⟨cursor.index, context, mode⟩ unread

/-- The reader takes the same expression from the text. -/
structure ReadsExpr (input : Input) (start : Cursor) (unread : List Char) (expr : Expr)
    (cursor : Cursor) (unread' : List Char) : Prop where
  advances : start.index < cursor.index
  reading_eq : ∀ context, context.depth = input.enclosing.length →
    reading input start context .ready unread =
      reading input cursor (context.add expr) .complete unread'

/-- The reader finds the same fault in the text. -/
def Faults (input : Input) (start : Cursor) (unread : List Char) (fault : Fault) : Prop :=
  ∀ context, context.depth = input.enclosing.length →
    reading input start context .ready unread = .error fault

def YieldsExpr (input : Input) (start : Cursor) (unread : List Char) : Result Expr → Prop :=
  Yields input start (ReadsExpr input start unread) (Faults input start unread)

end Yielding

namespace At

variable {input : Input} {cursor cursor' : Cursor} {before part unread : List Char} {char : Char}

/-- How far apart two cursors are. -/
theorem index_eq (standing : At input cursor (part ++ unread))
    (standing' : At input cursor' unread) :
    cursor'.index = cursor.index + String.utf8Len part := by
  have index_add := standing.index_add
  have index_add' := standing'.index_add
  rw [String.utf8Len_append] at index_add
  omega

/-- A test of ASCII characters sees the next character. -/
theorem any_next? {accepts : Char → Bool} (standing : At input cursor unread)
    (isAscii : IsAscii accepts) :
    (input.next? cursor).any accepts = unread.head?.any accepts := by
  cases unread with
  | nil => rw [standing.next?_nil, List.head?_nil]
  | cons char unread =>
      rw [standing.next?_cons, List.head?_cons]
      exact isAscii.lead char

theorem previous?_eq (standing : At input cursor unread)
    (text_eq : input.text = before ++ char :: unread) (ascii : char.toNat < 128) :
    input.previous? cursor = some char := by
  have index_eq : cursor.index = (Utf8.encode before).length + 1 := by
    have index_add := standing.index_add
    rw [text_eq, String.utf8Len_append, String.utf8Len_cons, utf8Size_of_ascii ascii] at index_add
    rw [Utf8.length_encode]
    omega
  have bytes_eq : input.bytes =
      Utf8.encode before ++ char.toUInt8 :: Utf8.encode unread := by
    rw [Input.bytes, text_eq, Utf8.encode_append]
    simp [Utf8.encode, utf8EncodeChar_of_ascii ascii]
  simp [Input.previous?, index_eq, bytes_eq, ofUInt8_toUInt8 ascii]

theorem bytesBetween_eq (standing : At input cursor (part ++ unread)) (cursor' : Cursor) :
    bytesBetween input cursor.index (cursor.index + String.utf8Len part) cursor' =
      .ok (Utf8.encode part) cursor' := by
  have inside : cursor.index + String.utf8Len part ≤ input.bytes.length := by
    rw [standing.length_bytes, String.utf8Len_append]
    omega
  have content : (input.bytes.drop cursor.index).take (String.utf8Len part) =
      Utf8.encode part := by
    rw [standing.drop_bytes, Utf8.encode_append, ← Utf8.length_encode, List.take_left']
    rfl
  simp [bytesBetween, inside, content]

theorem bytesBetween_end (standing : At input cursor unread) (cursor' : Cursor) :
    bytesBetween input cursor.index input.bytes.length cursor' =
      .ok (Utf8.encode unread) cursor' := by
  rw [standing.length_bytes]
  exact (@At.bytesBetween_eq input cursor unread [] (by rwa [List.append_nil])) cursor'

end At

section Spaces

variable {input : Input} {cursor cursor' : Cursor} {unread rest : List Char}

/-- A cursor has passed over spaces, which make no difference to the reader. -/
structure Skipped (input : Input) (cursor : Cursor) (unread : List Char) (cursor' : Cursor)
    (rest : List Char) : Prop where
  standing : At input cursor' rest
  after : cursor.After cursor'
  quiet : ∀ char ∈ rest.head?, isSpace char = false
  reading_eq : ∀ context mode, mode.SkipsSpace →
    reading input cursor context mode unread = reading input cursor' context mode rest

theorem At.skipped (standing : At input cursor unread) :
    Skipped input cursor unread (Descent.skip input isSpace cursor)
      (unread.dropWhile isSpace) := by
  have ended := standing.skip isAscii_isSpace
  have split := @List.takeWhile_append_dropWhile _ isSpace unread
  have index_eq := At.index_eq (split.symm ▸ standing) ended
  refine ⟨ended, .skip input isSpace cursor, refuses_head?_dropWhile isSpace unread, ?_⟩
  intro context mode skips
  rw [reading, reading, index_eq]
  exact readOn_spaces skips cursor.index unread

theorem Skipped.index_le (skipped : Skipped input cursor unread cursor' rest) :
    cursor.index ≤ cursor'.index :=
  skipped.after.index_le skipped.standing.isSound

end Spaces

section Strings

variable {input : Input} {start : Cursor} {quote : Char} {content rest unread : List Char}

theorem findIdx?_encode (ascii : quote.toNat < 128) (apart : quote ∉ content) :
    (Utf8.encode content).findIdx? (· == quote.toUInt8) = none := by
  rw [List.findIdx?_eq_none_iff]
  intro byte member
  apply beq_eq_false_iff_ne.mpr
  rintro rfl
  exact apart ((toUInt8_mem_encode_iff ascii).mp member)

theorem findIdx?_encode_append (ascii : quote.toNat < 128) (apart : quote ∉ content) :
    (Utf8.encode (content ++ quote :: rest)).findIdx? (· == quote.toUInt8) =
      some (String.utf8Len content) := by
  have encoded : Utf8.encode (quote :: rest) = quote.toUInt8 :: Utf8.encode rest := by
    rw [Utf8.encode, List.flatMap_cons, utf8EncodeChar_of_ascii ascii]
    rfl
  rw [Utf8.encode_append, List.findIdx?_append, findIdx?_encode ascii apart, encoded,
    List.findIdx?_cons, beq_self_eq_true, Utf8.length_encode]
  simp

theorem string_closed (ascii : quote.toNat < 128) (apart : quote ∉ content)
    (standing : At input start (quote :: (content ++ quote :: rest))) :
    string input start =
      .ok (.text (Utf8.encode content))
        ((start.advance input 1).advance input (String.utf8Len content + 1)) := by
  have opened := standing.advance_char ascii
  have unread_eq := opened.bytesBetween_end (start.advance input 1)
  have content_eq := opened.bytesBetween_eq (start.advance input 1)
  simp only [Cursor.index_advance] at unread_eq content_eq
  simp only [string, bind_apply, get_apply, andThen_ok, standing.byteHere_eq ascii, advance_apply,
    unread_eq, findIdx?_encode_append ascii apart, content_eq, pure_apply]

theorem string_unclosed (ascii : quote.toNat < 128) (apart : quote ∉ content)
    (standing : At input start (quote :: content)) :
    string input start =
      .error (.fault ⟨.unterminatedString, ⟨start.index, input.bytes.length⟩⟩)
        ((start.advance input 1).advance input (String.utf8Len content)) := by
  have opened := standing.advance_char ascii
  have unread_eq := opened.bytesBetween_end (start.advance input 1)
  simp only [Cursor.index_advance] at unread_eq
  simp only [string, bind_apply, get_apply, andThen_ok, standing.byteHere_eq ascii, advance_apply,
    unread_eq, findIdx?_encode ascii apart, Utf8.length_encode, fail_apply]

/-- A string is read up to its closing quote, however many bytes its characters have. -/
theorem string_yields (isQuote : quote = '"' ∨ quote = '\'')
    (standing : At input start (quote :: unread)) :
    YieldsExpr input start (quote :: unread) (string input start) := by
  have ascii : quote.toNat < 128 := by rcases isQuote with rfl | rfl <;> decide
  have opened := standing.advance_char ascii
  have after : start.After (start.advance input 1) := .advance start input 1
  by_cases closes : quote ∈ unread
  · obtain ⟨content, rest, rfl, apart⟩ := List.eq_append_cons_of_mem closes
    rw [string_closed ascii apart standing]
    have length_eq : String.utf8Len (content ++ [quote]) = String.utf8Len content + 1 := by
      simp [String.utf8Len_append, utf8Size_of_ascii ascii]
    have closed : At input
        ((start.advance input 1).advance input (String.utf8Len content + 1)) rest := by
      rw [← length_eq]
      exact At.advance (by simpa using opened)
    refine (Yields.ofOk closed ⟨?_, ?_⟩).after (after.trans (.advance _ input _))
    · simp only [Cursor.index_advance]
      omega
    · intro context _
      rw [reading, readOn_string isQuote apart]
      simp only [reading, Cursor.index_advance, String.utf8Len_cons, utf8Size_of_ascii ascii]
      congr 2
      omega
  · rw [string_unclosed ascii closes standing]
    have ended : At input ((start.advance input 1).advance input (String.utf8Len unread)) [] :=
      At.advance (by simpa using opened)
    refine (Yields.ofFault ended ?_).after (after.trans (.advance _ input _))
    intro context _
    rw [reading, readOn_openString isQuote closes, ← standing.length_bytes]

end Strings

section Numbers

variable {α : Type} {input : Input} {start cursor : Cursor} {numeral : Numeral} {char : Char}
  {unread : List Char}

theorem isAscii_continuesNumeral : IsAscii continuesNumeral := by
  intro char continues
  simp only [continuesNumeral, Bool.or_eq_true, beq_iff_eq] at continues
  rcases continues with (digit | rfl) | rfl
  · exact isAscii_isDigit char digit
  · decide
  · decide

theorem utf8Len_of_ascii {text : List Char} (ascii : ∀ char ∈ text, char.toNat < 128) :
    String.utf8Len text = text.length := by
  induction text with
  | nil => rfl
  | cons char text inductionHypothesis =>
      obtain ⟨first, ascii⟩ := List.forall_mem_cons.mp ascii
      rw [String.utf8Len_cons, utf8Size_of_ascii first, inductionHypothesis ascii,
        List.length_cons]

theorem hasPoint_eq_false {written : List Char}
    (apart : ∀ char ∈ written, char.isDigit = true ∨ Numeral.isSign char = true)
    (opening : Nat) : (Numeral.mk opening written).hasPoint = false := by
  apply Bool.eq_false_iff.mpr
  intro point
  exact absurd (apart '.' (List.contains_iff_mem.mp point)) (by decide)

theorem hasPoint_push (differs : char ≠ '.') : (numeral.push char).hasPoint = numeral.hasPoint := by
  simp [Numeral.hasPoint, Numeral.push, differs.symm]

theorem hasPoint_push_point : (numeral.push '.').hasPoint = true := by
  simp [Numeral.hasPoint, Numeral.push]

/-- A numeral with a digit in it has been read up to the cursor. -/
structure Writes (input : Input) (numeral : Numeral) (cursor : Cursor) (unread : List Char) :
    Prop where
  standing : At input cursor unread
  written : ∃ before, input.text = before ++ numeral.chars.reverse ++ unread ∧
    String.utf8Len before = numeral.start
  ascii : ∀ char ∈ numeral.chars, char.toNat < 128
  digits : numeral.lacksDigits = false

namespace Writes

theorem ofText {written : List Char} (begun : At input start (written.reverse ++ unread))
    (standing : At input cursor unread) (ascii : ∀ char ∈ written, char.toNat < 128)
    (digits : (Numeral.mk start.index written).lacksDigits = false) :
    Writes input ⟨start.index, written⟩ cursor unread := by
  obtain ⟨before, text_eq, index_eq⟩ := begun.split
  refine ⟨standing, ⟨before, ?_, index_eq⟩, ascii, digits⟩
  rw [text_eq, List.append_assoc]

theorem chars_ne_nil (writes : Writes input numeral cursor unread) : numeral.chars ≠ [] := by
  intro empty
  have digits := writes.digits
  rw [Numeral.lacksDigits, empty] at digits
  cases digits

theorem span_eq (writes : Writes input numeral cursor unread) :
    numeral.span = ⟨numeral.start, cursor.index⟩ := by
  obtain ⟨before, text_eq, start_eq⟩ := writes.written
  have length_eq : String.utf8Len numeral.chars.reverse = numeral.chars.length := by
    rw [utf8Len_of_ascii, List.length_reverse]
    intro char member
    exact writes.ascii char (List.mem_reverse.mp member)
  have index_add := writes.standing.index_add
  rw [text_eq, String.utf8Len_append, String.utf8Len_append, start_eq, length_eq] at index_add
  rw [Numeral.span]
  congr 1
  omega

theorem start_lt (writes : Writes input numeral cursor unread) : numeral.start < cursor.index := by
  have positive := List.length_pos_of_ne_nil writes.chars_ne_nil
  have stop_eq := congrArg Span.stop writes.span_eq
  simp only [Numeral.span] at stop_eq
  omega

/-- The byte before the cursor is the character that the numeral ends in. -/
theorem exists_last (writes : Writes input numeral cursor unread) :
    ∃ last, input.previous? cursor = some last ∧ numeral.chars.head? = some last := by
  obtain ⟨before, text_eq, -⟩ := writes.written
  obtain ⟨last, chars, chars_eq⟩ := List.exists_cons_of_ne_nil writes.chars_ne_nil
  refine ⟨last, ?_, by rw [chars_eq, List.head?_cons]⟩
  apply @At.previous?_eq input cursor (before ++ chars.reverse) unread last writes.standing
  · simp [text_eq, chars_eq]
  · exact writes.ascii last (by simp [chars_eq])

theorem push (writes : Writes input numeral cursor (char :: unread)) (ascii : char.toNat < 128) :
    Writes input (numeral.push char) (cursor.advance input 1) unread := by
  obtain ⟨before, text_eq, start_eq⟩ := writes.written
  refine ⟨writes.standing.advance_char ascii, ⟨before, ?_, start_eq⟩, ?_, ?_⟩
  · simp [text_eq, Numeral.push]
  · exact List.forall_mem_cons.mpr ⟨ascii, writes.ascii⟩
  · have digits := writes.digits
    simp only [Numeral.lacksDigits] at digits
    simp [Numeral.lacksDigits, Numeral.push, digits]

theorem invalid_eq (writes : Writes input numeral cursor unread) (reason : String) :
    (invalid numeral.start reason : Parser α) cursor =
      .error (.fault ⟨.invalidNumber reason, numeral.span⟩) cursor := by
  have longest : max cursor.index (numeral.start + 1) = cursor.index :=
    Nat.max_eq_left writes.start_lt
  simp [invalid, longest, writes.span_eq]

theorem digits_nil (writes : Writes input numeral cursor []) (opening : Nat) (seenPoint : Bool) :
    Descent.digits input opening seenPoint cursor = .ok () cursor := by
  unfold Descent.digits
  split
  case h_1 => rfl
  case h_2 seen => simp [writes.standing.next?_nil] at seen

/-- One more character makes the same difference to the descent as to a numeral. -/
theorem digits_cons (writes : Writes input numeral cursor (char :: unread)) :
    Descent.digits input numeral.start numeral.hasPoint cursor =
      match numeral.next char with
      | .longer numeral' =>
          Descent.digits input numeral.start numeral'.hasPoint (cursor.advance input 1)
      | .malformed reason => .error (.fault ⟨.invalidNumber reason, numeral.span⟩) cursor
      | .ended => .ok () cursor := by
  obtain ⟨last, previous_eq, last_eq⟩ := writes.exists_last
  have endsInDigit_eq : numeral.endsInDigit = last.isDigit := by
    simp [Numeral.endsInDigit, last_eq]
  rw [Descent.digits]
  split
  case h_1 seen => simp [writes.standing.next?_cons] at seen
  case h_2 found seen =>
    obtain rfl := Option.some.inj (writes.standing.next?_cons.symm.trans seen)
    have point : lead char = '.' ↔ char = '.' := lead_eq_iff (by decide)
    have separator : lead char = '_' ↔ char = '_' := lead_eq_iff (by decide)
    simp only [previous_eq, isAscii_isDigit.lead, point, separator, Numeral.next, writes.digits,
      endsInDigit_eq, writes.invalid_eq]
    by_cases isDigit : char.isDigit = true
    · have notPoint : char ≠ '.' := by
        rintro rfl
        exact absurd isDigit (by decide)
      simp [isDigit, hasPoint_push notPoint]
    · by_cases isPoint : char = '.'
      · subst isPoint
        cases numeral.hasPoint with
        | true => simp
        | false =>
            cases last.isDigit with
            | true => simp [hasPoint_push_point]
            | false => simp
      · by_cases isSeparator : char = '_'
        · subst isSeparator
          cases last.isDigit with
          | true => simp [hasPoint_push isPoint]
          | false => simp
        · simp [isDigit, isPoint, isSeparator]

theorem literal_eq (writes : Writes input numeral cursor unread) :
    literal input numeral.start cursor =
      match numeral.close with
      | .ok expr => .ok expr cursor
      | .error fault => .error (.fault fault) cursor := by
  obtain ⟨last, previous_eq, last_eq⟩ := writes.exists_last
  obtain ⟨before, text_eq, start_eq⟩ := writes.written
  have written_eq := writes.standing.textSince_eq text_eq
  rw [start_eq] at written_eq
  simp only [literal, previous, bind_apply, get_apply, andThen_ok, previous_eq, ensure_some,
    Numeral.close, Numeral.endingFlaw?, writes.digits, last_eq]
  by_cases separator : last = '_'
  · simp [separator, writes.invalid_eq]
  · by_cases point : last = '.'
    · simp [point, writes.invalid_eq]
    · simp only [separator, point, Option.some.injEq, if_false, bind_apply, written_eq, andThen_ok]
      have same : Numeral.mk numeral.start numeral.chars.reverse.reverse = numeral := by
        rw [List.reverse_reverse]
      rw [same]
      cases numeral.literal? with
      | some expr => rfl
      | none => simp [Numeral.text, writes.span_eq]

theorem literal_yields (writes : Writes input numeral cursor unread) :
    Yields input cursor
      (fun expr _ rest => (numeral.close.map fun expr => (expr, unread)) = .ok (expr, rest))
      (fun fault => (numeral.close.map fun expr => (expr, unread)) = .error fault)
      (literal input numeral.start cursor) := by
  rw [writes.literal_eq]
  cases numeral.close with
  | ok expr => exact .ofOk writes.standing rfl
  | error fault => exact .ofFault writes.standing rfl

/-- The descent goes as far as the numeral goes, and takes the same number from it. -/
theorem digits_yields (writes : Writes input numeral cursor unread) :
    Yields input cursor
      (fun expr _ rest => scan numeral unread = .ok (expr, rest))
      (fun fault => scan numeral unread = .error fault)
      (andThen (Descent.digits input numeral.start numeral.hasPoint cursor)
        fun _ => literal input numeral.start) := by
  induction unread generalizing numeral cursor with
  | nil =>
      rw [writes.digits_nil]
      exact writes.literal_yields
  | cons char unread inductionHypothesis =>
      rw [writes.digits_cons]
      cases moved : numeral.next char with
      | longer numeral' =>
          have ascii := isAscii_continuesNumeral char (continuesNumeral_of_longer moved)
          obtain ⟨rfl, -⟩ := eq_push_of_longer moved
          simp only [scan, moved]
          exact (inductionHypothesis (writes.push ascii)).after (.advance cursor input 1)
      | malformed reason =>
          simp only [scan, moved]
          exact .ofFault writes.standing rfl
      | ended =>
          simp only [scan, moved]
          exact writes.literal_yields

end Writes

theorem isSign_of_isDigit (digit : char.isDigit = true) : Numeral.isSign char = false := by
  apply Bool.eq_false_iff.mpr
  intro sign
  rw [isDigit_of_isSign sign] at digit
  cases digit

theorem sign_eq (standing : At input cursor unread) :
    sign input cursor =
      .ok () (if unread.head?.any Numeral.isSign then cursor.advance input 1 else cursor) := by
  simp only [sign, bind_apply, peek_apply, andThen_ok, standing.any_next? isAscii_isSign]
  split
  case isTrue => rfl
  case isFalse => rfl

theorem firstDigit_eq (standing : At input cursor unread) (opening : Nat) :
    firstDigit input opening cursor =
      if unread.head?.any Char.isDigit then .ok () (cursor.advance input 1)
      else
        .error (.fault ⟨.invalidNumber Numeral.noDigit,
          ⟨opening, max cursor.index (opening + 1)⟩⟩) cursor := by
  simp only [firstDigit, bind_apply, peek_apply, andThen_ok, standing.any_next? isAscii_isDigit]
  split
  case isTrue => rfl
  case isFalse => rfl

theorem scan_of_sign (isSign : Numeral.isSign char = true) (opening : Nat)
    (missing : unread.head?.any Char.isDigit = false) :
    scan (.begin opening char) unread =
      .error ⟨.invalidNumber Numeral.noDigit, ⟨opening, opening + 1⟩⟩ := by
  have lacks : (Numeral.begin opening char).lacksDigits = true := by
    simp [Numeral.lacksDigits, Numeral.begin, isSign]
  cases unread with
  | nil =>
      simp only [scan, Numeral.close, Numeral.endingFlaw?, lacks, if_true]
      rfl
  | cons next unread =>
      simp only [List.head?_cons, Option.any_some] at missing
      simp only [scan, Numeral.next, lacks, missing, if_true]
      rfl

/-- From its first character on, a number is read as a numeral is scanned. -/
theorem number_scans (begins : char.isDigit = true ∨ Numeral.isSign char = true)
    (standing : At input start (char :: unread)) :
    Yields input start
      (fun expr _ rest => scan (.begin start.index char) unread = .ok (expr, rest))
      (fun fault => scan (.begin start.index char) unread = .error fault)
      (number input start) := by
  have after : start.After (start.advance input 1) := .advance start input 1
  simp only [number, bind_apply, get_apply, andThen_ok, sign_eq standing, List.head?_cons,
    Option.any_some]
  rcases begins with digit | isSign
  · have ascii := isAscii_isDigit char digit
    have notSign := isSign_of_isDigit digit
    have writes : Writes input (.begin start.index char) (start.advance input 1) unread := by
      apply Writes.ofText standing (standing.advance_char ascii)
      · exact List.forall_mem_singleton.mpr ascii
      · simp [Numeral.lacksDigits, notSign]
    have pointless : (Numeral.begin start.index char).hasPoint = false :=
      hasPoint_eq_false (by simp [digit]) start.index
    simp only [notSign, Bool.false_eq_true, if_false, firstDigit_eq standing,
      List.head?_cons, Option.any_some, digit, if_true, andThen_ok, afterFirstDigit]
    rw [← pointless]
    exact writes.digits_yields.after after
  · have ascii := isAscii_isSign char isSign
    have advanced := standing.advance_char ascii
    simp only [isSign, if_true, firstDigit_eq advanced]
    cases found : unread.head?.any Char.isDigit with
    | false =>
        rw [scan_of_sign isSign start.index found]
        refine (Yields.ofFault advanced ?_).after after
        rw [Cursor.index_advance, Nat.max_self]
    | true =>
        cases unread with
        | nil => cases found
        | cons first unread =>
            have firstDigit : first.isDigit = true := found
            have firstAscii := isAscii_isDigit first firstDigit
            have writes : Writes input ⟨start.index, [first, char]⟩
                ((start.advance input 1).advance input 1) unread := by
              apply Writes.ofText standing (advanced.advance_char firstAscii)
              · simp [firstAscii, ascii]
              · simp [Numeral.lacksDigits, isSign_of_isDigit firstDigit]
            have pointless : (Numeral.mk start.index [first, char]).hasPoint = false :=
              hasPoint_eq_false (by simp [firstDigit, isSign]) start.index
            simp only [if_true, andThen_ok, afterFirstDigit, scan, Numeral.next, firstDigit]
            rw [← pointless]
            exact (writes.digits_yields.after (.advance _ input _)).after after

/-- A number is read as far as it goes. -/
theorem number_yields (begins : char.isDigit = true ∨ Numeral.isSign char = true)
    (standing : At input start (char :: unread)) :
    YieldsExpr input start (char :: unread) (number input start) := by
  apply (number_scans begins standing).mono
  · intro fault failed context _
    rw [reading, readOn_number begins, failed]
    rfl
  · intro expr cursor rest ended accepted
    have scanned := scanned_begin begins start.index unread
    rw [accepted] at scanned
    obtain ⟨rfl, -⟩ := scanned.of_ok
    have index_eq := @At.index_eq input start cursor (char :: unread.takeWhile continuesNumeral)
      _ (by simpa using standing) ended
    refine ⟨?_, ?_⟩
    · have positive := char.utf8Size_pos
      rw [index_eq, String.utf8Len_cons]
      omega
    · intro context _
      rw [reading, readOn_number begins, accepted, reading, index_eq]
      rfl

end Numbers

section Names

variable {input : Input} {start : Cursor} {char : Char} {unread : List Char}

/-- A name goes as far as letters, digits and underscores go. -/
theorem name_yields (starts : startsName char = true)
    (standing : At input start (char :: unread)) :
    Yields input start
      (fun name cursor rest => start.index < cursor.index ∧ ∀ context,
        reading input start context .ready (char :: unread) =
          reading input cursor context (.named name) rest)
      (fun _ => False) (name input start) := by
  have ascii := isAscii_startsName char starts
  have ended := (standing.advance_char ascii).skip isAscii_continuesName
  obtain ⟨before, text_eq, start_eq⟩ := standing.split
  have split : char :: unread =
      char :: unread.takeWhile continuesName ++ unread.dropWhile continuesName := by simp
  have written_eq := ended.textSince_eq
    (text_eq.trans ((congrArg (before ++ ·) split).trans (List.append_assoc _ _ _).symm))
  rw [start_eq] at written_eq
  have index_eq := At.index_eq (split ▸ standing) ended
  simp only [name, bind_apply, get_apply, andThen_ok, advance_apply, modify_apply, written_eq,
    pure_apply]
  have after : start.After (skip input continuesName (start.advance input 1)) :=
    (Cursor.After.advance start input 1).trans (.skip input continuesName _)
  refine (Yields.ofOk ended ⟨?_, ?_⟩).after after
  · have positive := char.utf8Size_pos
    rw [index_eq, String.utf8Len_cons]
    omega
  · intro context
    rw [reading, readOn_name starts, reading, index_eq]

end Names

end BoxLang.Descent
