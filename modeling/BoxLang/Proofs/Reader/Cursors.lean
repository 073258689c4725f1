import Mathlib.Data.String.Basic
import BoxLang.Reader.Descent
import BoxLang.Proofs.Reader.Continuing
import BoxLang.Proofs.Reader.Shapes

/-!
# Where cursors are

A cursor of the descent stands between two characters of the text, and the count that it keeps is
the number of boxes and assignments around it.  The bytes that the descent tests are ASCII, so
that it can tell what the next character is from the next byte and never stops inside a character.
-/

namespace BoxLang

namespace Utf8

variable {before part after : List Char}

theorem encode_append : encode (before ++ after) = encode before ++ encode after :=
  List.flatMap_append

theorem length_encode (text : List Char) : (encode text).length = String.utf8Len text := by
  induction text with
  | nil => rfl
  | cons char text inductionHypothesis =>
      rw [encode, List.flatMap_cons, List.length_append, String.length_utf8EncodeChar,
        String.utf8Len_cons, Nat.add_comm, ← inductionHypothesis]
      rfl

/-- The length of a text that is not empty, as the functions on it see it. -/
theorem exists_length_cons (char : Char) (text : List Char) :
    ∃ length, String.utf8Len (char :: text) = length + 1 ∧ char.utf8Size ≤ length + 1 ∧
      length + 1 - char.utf8Size = String.utf8Len text := by
  have positive := char.utf8Size_pos
  refine ⟨String.utf8Len text + char.utf8Size - 1, ?_, ?_, ?_⟩
  · rw [String.utf8Len_cons]
    omega
  · omega
  · omega

theorem drop?_append (before after : List Char) :
    drop? (before ++ after) (String.utf8Len before) = some after := by
  induction before with
  | nil => simp [drop?]
  | cons char before inductionHypothesis =>
      obtain ⟨length, length_eq, fits, left_eq⟩ := exists_length_cons char before
      rw [length_eq, List.cons_append, drop?, if_pos fits, left_eq, inductionHypothesis]

theorem take?_append (part after : List Char) :
    take? (part ++ after) (String.utf8Len part) = some part := by
  induction part with
  | nil => simp [take?]
  | cons char part inductionHypothesis =>
      obtain ⟨length, length_eq, fits, left_eq⟩ := exists_length_cons char part
      rw [length_eq, List.cons_append, take?, if_pos fits, left_eq, inductionHypothesis]
      rfl

theorem slice?_append (before part after : List Char) :
    slice? (before ++ part ++ after) (String.utf8Len before)
      (String.utf8Len before + String.utf8Len part) = some part := by
  rw [slice?, if_pos (Nat.le_add_right _ _), List.append_assoc, drop?_append,
    Nat.add_sub_cancel_left]
  exact take?_append part after

end Utf8

theorem Span.charAfter?_append (base : Nat) (before after : List Char) :
    charAfter? base (before ++ after) (String.utf8Len before) =
      some (ofHead (base + String.utf8Len before) after) := by
  induction before generalizing base with
  | nil =>
      cases after with
      | nil => rfl
      | cons char after => rfl
  | cons char before inductionHypothesis =>
      obtain ⟨length, length_eq, fits, left_eq⟩ := Utf8.exists_length_cons char before
      rw [length_eq, List.cons_append, charAfter?, if_pos fits, left_eq, inductionHypothesis]
      congr 2
      omega

theorem Span.charAt?_append (before after : List Char) :
    charAt? (before ++ after) (String.utf8Len before) =
      some (ofHead (String.utf8Len before) after) := by
  rw [charAt?, charAfter?_append, Nat.zero_add]

namespace Descent

open Reader

section Bytes

/-- The first byte of a character, read as a character of its own. -/
def lead (char : Char) : Char :=
  ((String.utf8EncodeChar char).head?.map Char.ofUInt8).getD char

theorem toNat_ofUInt8 (byte : UInt8) : (Char.ofUInt8 byte).toNat = byte.toNat :=
  UInt8.toNat_toUInt32 byte

theorem utf8EncodeChar_of_ascii {char : Char} (ascii : char.toNat < 128) :
    String.utf8EncodeChar char = [char.toUInt8] := by
  have below : char.toNat ≤ 127 := by omega
  simp only [String.utf8EncodeChar, Char.toNat_val, if_pos below]
  rfl

theorem ofUInt8_toUInt8 {char : Char} (ascii : char.toNat < 128) :
    Char.ofUInt8 char.toUInt8 = char := by
  rw [← Char.toNat_inj, toNat_ofUInt8, Char.toUInt8, UInt32.toNat_toUInt8]
  exact Nat.mod_eq_of_lt (Nat.lt_trans ascii (by decide))

theorem lead_of_ascii {char : Char} (ascii : char.toNat < 128) : lead char = char := by
  rw [lead, utf8EncodeChar_of_ascii ascii]
  exact ofUInt8_toUInt8 ascii

theorem head?_utf8EncodeChar (char : Char) :
    (String.utf8EncodeChar char).head?.map Char.ofUInt8 = some (lead char) := by
  cases encoded : String.utf8EncodeChar char with
  | nil =>
      have length := String.length_utf8EncodeChar char
      have positive := char.utf8Size_pos
      rw [encoded, List.length_nil] at length
      omega
  | cons byte bytes => simp [lead, encoded]

theorem le_lead {char : Char} (beyond : 128 ≤ char.toNat) : 128 ≤ (lead char).toNat := by
  have found := head?_utf8EncodeChar char
  obtain ⟨byte, first, lead_eq⟩ := Option.map_eq_some_iff.mp found
  rw [← lead_eq, toNat_ofUInt8]
  exact le_toNat_of_mem_utf8EncodeChar beyond (List.mem_of_head? first)

/-- Only ASCII characters pass a test. -/
def IsAscii (accepts : Char → Bool) : Prop :=
  ∀ char, accepts char = true → char.toNat < 128

/-- A test of ASCII characters can be made on the first byte. -/
theorem IsAscii.lead {accepts : Char → Bool} (isAscii : IsAscii accepts) (char : Char) :
    accepts (lead char) = accepts char := by
  by_cases ascii : char.toNat < 128
  · rw [lead_of_ascii ascii]
  · have beyond := Nat.le_of_not_lt ascii
    have fails : ∀ char : Char, 128 ≤ char.toNat → accepts char = false := by
      intro char beyond
      apply Bool.eq_false_iff.mpr
      intro accepted
      exact absurd (isAscii char accepted) (Nat.not_lt.mpr beyond)
    rw [fails _ beyond, fails _ (le_lead beyond)]

theorem lead_eq_iff {char other : Char} (ascii : other.toNat < 128) :
    lead char = other ↔ char = other := by
  have isAscii : IsAscii (· == other) := by
    intro char same
    rwa [eq_of_beq same]
  simpa using isAscii.lead char

theorem isAscii_isSpace : IsAscii isSpace := by
  intro char space
  simp only [isSpace, Bool.or_eq_true, beq_iff_eq] at space
  rcases space with ((((rfl | rfl) | rfl) | rfl) | rfl) | rfl
  all_goals decide

theorem isAscii_isDigit : IsAscii Char.isDigit := by
  intro char digit
  obtain ⟨-, most⟩ := Char.isDigit_iff_toNat.mp digit
  exact Nat.lt_of_le_of_lt most (by decide)

theorem isAscii_isSign : IsAscii Numeral.isSign := by
  intro char sign
  rcases (Bool.or_eq_true _ _).mp sign with minus | plus
  · rw [eq_of_beq minus]
    decide
  · rw [eq_of_beq plus]
    decide

theorem isAscii_isAlpha : IsAscii Char.isAlpha := by
  intro char letter
  rcases (Bool.or_eq_true _ _).mp letter with upper | lower
  · have most : char.val ≤ 'Z'.val := (of_decide_eq_true upper).2
    exact Nat.lt_of_le_of_lt (UInt32.le_iff_toNat_le.mp most) (by decide)
  · have most : char.val ≤ 'z'.val := of_decide_eq_true ((Bool.and_eq_true _ _).mp lower).2
    exact Nat.lt_of_le_of_lt (UInt32.le_iff_toNat_le.mp most) (by decide)

theorem isAscii_startsName : IsAscii startsName := by
  intro char starts
  rcases (Bool.or_eq_true _ _).mp starts with letter | underscore
  · exact isAscii_isAlpha char letter
  · rw [eq_of_beq underscore]
    decide

theorem isAscii_continuesName : IsAscii continuesName := by
  intro char continues
  rcases (Bool.or_eq_true _ _).mp continues with alphanumeric | underscore
  · rcases (Bool.or_eq_true _ _).mp alphanumeric with letter | digit
    · exact isAscii_isAlpha char letter
    · exact isAscii_isDigit char digit
  · rw [eq_of_beq underscore]
    decide

theorem utf8Size_of_ascii {char : Char} (ascii : char.toNat < 128) : char.utf8Size = 1 := by
  rw [← String.length_utf8EncodeChar, utf8EncodeChar_of_ascii ascii]
  rfl

end Bytes

@[simp]
theorem Cursor.index_advance (cursor : Cursor) (input : Input) (count : Nat) :
    (cursor.advance input count).index = cursor.index + count := rfl

theorem Input.text_inside (input : Input) (opening : Nat) :
    (input.inside opening).text = input.text := rfl

/-- A box or an assignment is opened at an offset. -/
def IsOpening (text : List Char) (offset : Nat) : Prop :=
  ∃ before char after, text = before ++ char :: after ∧ String.utf8Len before = offset ∧
    (char = '{' ∨ char = '=')

/-- A place lies between two characters of a text, after all that is open there, and the count is
the number of what is open. -/
structure Place.IsSound (text : List Char) (place : Place) : Prop where
  boundary : ∃ before unread, text = before ++ unread ∧ String.utf8Len before = place.index
  counted : place.depth = place.enclosing.length
  nested : (place.index :: place.enclosing).Pairwise (· > ·)
  opened : ∀ opening ∈ place.enclosing, IsOpening text opening

/-- A cursor has been at sound places only, and has never gone back. -/
structure Cursor.IsSound (text : List Char) (cursor : Cursor) : Prop where
  places : ∀ place ∈ cursor.places, place.IsSound text
  ordered : cursor.places.Pairwise fun later earlier => earlier.index ≤ later.index

theorem Cursor.IsSound.start (text : List Char) : Cursor.start.IsSound text := by
  refine ⟨List.forall_mem_singleton.mpr ?_, List.pairwise_singleton _ _⟩
  exact ⟨⟨[], text, rfl, rfl⟩, rfl, List.pairwise_singleton _ _, List.forall_mem_nil _⟩

theorem Cursor.IsSound.goTo {input : Input} {cursor : Cursor} {index depth : Nat}
    (isSound : cursor.IsSound input.text)
    (next : Place.IsSound input.text ⟨index, depth, input.enclosing⟩)
    (later : cursor.index ≤ index) : (cursor.goTo input index depth).IsSound input.text := by
  refine ⟨List.forall_mem_cons.mpr ⟨next, isSound.places⟩, List.pairwise_cons.mpr ⟨?_, ?_⟩⟩
  · -- Every place so far is at or before the present one.
    intro place member
    rcases List.mem_cons.mp member with rfl | member
    · exact later
    · exact Nat.le_trans (List.rel_of_pairwise_cons isSound.ordered member) later
  · exact isSound.ordered

/-- A cursor has come from another one: it has been at all the places of the other. -/
def Cursor.After (start cursor : Cursor) : Prop :=
  start.places <:+ cursor.places

namespace Cursor.After

variable {input : Input} {start middle cursor : Cursor}

theorem refl (cursor : Cursor) : cursor.After cursor :=
  List.suffix_refl cursor.places

theorem trans (first : start.After middle) (second : middle.After cursor) : start.After cursor :=
  List.IsSuffix.trans first second

theorem goTo (cursor : Cursor) (input : Input) (index depth : Nat) :
    cursor.After (cursor.goTo input index depth) :=
  List.suffix_cons _ cursor.places

theorem advance (cursor : Cursor) (input : Input) (count : Nat) :
    cursor.After (cursor.advance input count) :=
  goTo cursor input _ _

theorem skip (input : Input) (accepts : Char → Bool) (cursor : Cursor) :
    cursor.After (skip input accepts cursor) := by
  fun_induction Descent.skip input accepts cursor with
  | case1 cursor char seen accepted inductionHypothesis =>
      exact (advance cursor input 1).trans inductionHypothesis
  | case2 cursor => exact refl cursor
  | case3 cursor => exact refl cursor

/-- A cursor that has only been at sound places is not before where it comes from. -/
theorem index_le {text : List Char} (after : start.After cursor) (isSound : cursor.IsSound text) :
    start.index ≤ cursor.index := by
  rcases List.mem_cons.mp (after.mem List.mem_cons_self) with same | earlier
  · rw [Cursor.index, same]
    exact Nat.le_refl _
  · exact List.rel_of_pairwise_cons isSound.ordered earlier

end Cursor.After

/-- A sound cursor of an input stands before some unread text. -/
structure At (input : Input) (cursor : Cursor) (unread : List Char) : Prop where
  isSound : cursor.IsSound input.text
  enclosing_eq : cursor.here.enclosing = input.enclosing
  split : ∃ before, input.text = before ++ unread ∧ String.utf8Len before = cursor.index

namespace At

variable {input : Input} {cursor : Cursor} {unread part : List Char} {char : Char}

theorem here (standing : At input cursor unread) : cursor.here.IsSound input.text :=
  standing.isSound.places cursor.here List.mem_cons_self

theorem depth_eq (standing : At input cursor unread) :
    cursor.depth = input.enclosing.length := by
  rw [← standing.enclosing_eq]
  exact standing.here.counted

theorem index_add (standing : At input cursor unread) :
    cursor.index + String.utf8Len unread = String.utf8Len input.text := by
  obtain ⟨before, text_eq, index_eq⟩ := standing.split
  rw [text_eq, String.utf8Len_append, index_eq]

theorem nested (standing : At input cursor unread) :
    (cursor.index :: input.enclosing).Pairwise (· > ·) := by
  rw [← standing.enclosing_eq]
  exact standing.here.nested

theorem opened (standing : At input cursor unread) :
    ∀ opening ∈ input.enclosing, IsOpening input.text opening := by
  rw [← standing.enclosing_eq]
  exact standing.here.opened

theorem advance (standing : At input cursor (part ++ unread)) :
    At input (cursor.advance input (String.utf8Len part)) unread := by
  obtain ⟨before, text_eq, index_eq⟩ := standing.split
  have split : input.text = before ++ part ++ unread := by rw [text_eq, List.append_assoc]
  have index_eq' : String.utf8Len (before ++ part) = cursor.index + String.utf8Len part := by
    rw [String.utf8Len_append, index_eq]
  refine ⟨?_, rfl, before ++ part, split, index_eq'⟩
  refine standing.isSound.goTo ⟨?_, standing.depth_eq, ?_, standing.opened⟩ (Nat.le_add_right _ _)
  · exact ⟨before ++ part, unread, split, index_eq'⟩
  · obtain ⟨below, pairwise⟩ := List.pairwise_cons.mp standing.nested
    refine List.pairwise_cons.mpr ⟨?_, pairwise⟩
    intro opening member
    exact Nat.lt_of_lt_of_le (below opening member) (Nat.le_add_right _ _)

theorem advance_char (standing : At input cursor (char :: unread)) (ascii : char.toNat < 128) :
    At input (cursor.advance input 1) unread := by
  have length_eq : String.utf8Len [char] = 1 := by
    rw [String.utf8Len_cons, utf8Size_of_ascii ascii]
    rfl
  rw [← length_eq]
  exact advance standing

/-- Going into a box or an assignment that the cursor has just passed the opening of. -/
theorem enter {opening : Nat} (standing : At input cursor unread)
    (opens : IsOpening input.text opening) (inside : opening < cursor.index)
    (outside : ∀ outer ∈ input.enclosing, outer < opening) :
    At (input.inside opening)
      (cursor.goTo (input.inside opening) cursor.index (cursor.depth + 1)) unread := by
  obtain ⟨below, pairwise⟩ := List.pairwise_cons.mp standing.nested
  refine ⟨?_, rfl, standing.split⟩
  refine @Cursor.IsSound.goTo (input.inside opening) cursor cursor.index (cursor.depth + 1)
    standing.isSound ⟨standing.here.boundary, ?_, ?_, ?_⟩ (Nat.le_refl _)
  · exact congrArg (· + 1) standing.depth_eq
  · refine List.pairwise_cons.mpr ⟨?_, List.pairwise_cons.mpr ⟨outside, pairwise⟩⟩
    exact List.forall_mem_cons.mpr ⟨inside, below⟩
  · exact List.forall_mem_cons.mpr ⟨opens, standing.opened⟩

/-- Coming out of a box or an assignment. -/
theorem exit {opening : Nat} (standing : At (input.inside opening) cursor unread) :
    At input (cursor.goTo input cursor.index input.enclosing.length) unread := by
  obtain ⟨below, pairwise⟩ := List.pairwise_cons.mp standing.nested
  refine ⟨?_, rfl, standing.split⟩
  refine @Cursor.IsSound.goTo input cursor cursor.index input.enclosing.length
    standing.isSound ⟨standing.here.boundary, rfl, ?_, ?_⟩ (Nat.le_refl _)
  · exact List.pairwise_cons.mpr
      ⟨(List.forall_mem_cons.mp below).2, (List.pairwise_cons.mp pairwise).2⟩
  · exact (List.forall_mem_cons.mp standing.opened).2

section Bytes

theorem bytes_eq (standing : At input cursor unread) :
    ∃ before, input.bytes = before ++ Utf8.encode unread ∧ before.length = cursor.index := by
  obtain ⟨before, text_eq, index_eq⟩ := standing.split
  refine ⟨Utf8.encode before, ?_, ?_⟩
  · rw [Input.bytes, text_eq, Utf8.encode_append]
  · rw [Utf8.length_encode, index_eq]

theorem length_bytes (standing : At input cursor unread) :
    input.bytes.length = cursor.index + String.utf8Len unread := by
  rw [standing.index_add]
  exact Utf8.length_encode input.text

theorem drop_bytes (standing : At input cursor unread) :
    input.bytes.drop cursor.index = Utf8.encode unread := by
  obtain ⟨before, bytes_eq, length_eq⟩ := standing.bytes_eq
  rw [bytes_eq, List.drop_left' length_eq]

theorem getElem?_bytes (standing : At input cursor unread) :
    input.bytes[cursor.index]? = (Utf8.encode unread).head? := by
  rw [← standing.drop_bytes, List.head?_drop]

@[simp]
theorem next?_nil (standing : At input cursor []) : input.next? cursor = none := by
  rw [Input.next?, standing.getElem?_bytes]
  rfl

@[simp]
theorem next?_cons (standing : At input cursor (char :: unread)) :
    input.next? cursor = some (lead char) := by
  have nonempty : String.utf8EncodeChar char ≠ [] := by
    have positive := char.utf8Size_pos
    rw [← String.length_utf8EncodeChar] at positive
    exact List.ne_nil_of_length_pos positive
  rw [Input.next?, standing.getElem?_bytes, Utf8.encode, List.flatMap_cons,
    List.head?_append_of_ne_nil _ nonempty]
  exact head?_utf8EncodeChar char

end Bytes

end At

section Running

variable {α β : Type} {cursor : Cursor}

@[simp]
theorem andThen_ok (value : α) (next : α → Parser β) :
    andThen (.ok value cursor) next = next value cursor := rfl

@[simp]
theorem bind_apply (parser : Parser α) (next : α → Parser β) :
    (parser >>= next) cursor = andThen (parser cursor) next := by
  show EStateM.bind parser next cursor = andThen (parser cursor) next
  unfold EStateM.bind
  cases parser cursor with
  | ok value cursor => rfl
  | error stop cursor => rfl

@[simp]
theorem pure_apply (value : α) : (pure value : Parser α) cursor = .ok value cursor := rfl

@[simp]
theorem get_apply : (get : Parser Cursor) cursor = .ok cursor cursor := rfl

@[simp]
theorem modify_apply (change : Cursor → Cursor) :
    (modify change : Parser Unit) cursor = .ok () (change cursor) := rfl

@[simp]
theorem ensure_some (check : Check) (value : α) :
    ensure check (some value) cursor = .ok value cursor := rfl

@[simp]
theorem fail_apply (kind : FaultKind) (span : Span) :
    (fail kind span : Parser α) cursor = .error (.fault ⟨kind, span⟩) cursor := rfl

variable {input : Input}

@[simp]
theorem peek_apply : peek input cursor = .ok (input.next? cursor) cursor := rfl

@[simp]
theorem advance_apply (count : Nat) :
    advance input count cursor = .ok () (cursor.advance input count) := rfl

@[simp]
theorem skipSpace_apply : skipSpace input cursor = .ok () (skip input isSpace cursor) := rfl

theorem enterNested_apply :
    enterNested input cursor =
      if cursor.depth + 1 ≤ input.maxDepth then
        .ok () (cursor.goTo input cursor.index (cursor.depth + 1))
      else
        failHere input (.maxDepthExceeded (cursor.depth + 1) input.maxDepth)
          (cursor.goTo input cursor.index (cursor.depth + 1)) := rfl

end Running

namespace At

variable {α : Type} {input : Input} {cursor : Cursor} {unread before part : List Char}
  {char : Char}

theorem skip {accepts : Char → Bool} (isAscii : IsAscii accepts)
    (standing : At input cursor unread) :
    At input (skip input accepts cursor) (unread.dropWhile accepts) := by
  induction unread generalizing cursor with
  | nil =>
      unfold Descent.skip
      split
      case h_1 seen => simp [standing.next?_nil] at seen
      case h_2 => exact standing
  | cons char unread inductionHypothesis =>
      unfold Descent.skip
      split
      case h_2 seen => simp [standing.next?_cons] at seen
      case h_1 seen =>
        obtain rfl := Option.some.inj (standing.next?_cons.symm.trans seen)
        rw [isAscii.lead]
        split
        case isTrue accepted =>
          rw [List.dropWhile_cons_of_pos accepted]
          exact inductionHypothesis (standing.advance_char (isAscii char accepted))
        case isFalse refused =>
          rw [List.dropWhile_cons_of_neg refused]
          exact standing

theorem eat_eq (standing : At input cursor unread) (ascii : char.toNat < 128) :
    eat input char cursor =
      if unread.head? = some char then .ok true (cursor.advance input 1)
      else .ok false cursor := by
  cases unread with
  | nil => simp [eat, standing.next?_nil]
  | cons first unread => simp [eat, standing.next?_cons, lead_eq_iff ascii]

theorem byteHere_eq (standing : At input cursor (char :: unread)) (ascii : char.toNat < 128) :
    byteHere input cursor = .ok char.toUInt8 cursor := by
  have byte : (Utf8.encode (char :: unread)).head? = some char.toUInt8 := by
    rw [Utf8.encode, List.flatMap_cons, utf8EncodeChar_of_ascii ascii]
    rfl
  simp [byteHere, standing.getElem?_bytes, byte]

theorem charHere_eq (standing : At input cursor unread) :
    charHere input cursor = .ok unread.head? cursor := by
  obtain ⟨before, text_eq, index_eq⟩ := standing.split
  simp only [charHere, bind_apply, get_apply, andThen_ok, text_eq, ← index_eq,
    Utf8.drop?_append, ensure_some, pure_apply]

theorem spanHere_eq (standing : At input cursor unread) :
    spanHere input cursor = .ok (.ofHead cursor.index unread) cursor := by
  obtain ⟨before, text_eq, index_eq⟩ := standing.split
  have length_eq := standing.length_bytes
  cases unread with
  | nil => simp [spanHere, length_eq, Span.ofHead]
  | cons char unread =>
      have positive := char.utf8Size_pos
      have inside : String.utf8Len before < input.bytes.length := by
        rw [length_eq, index_eq, String.utf8Len_cons]
        omega
      simp [spanHere, inside, text_eq, ← index_eq, Span.charAt?_append]

theorem failHere_eq (standing : At input cursor unread) (kind : FaultKind) :
    (failHere input kind : Parser α) cursor =
      .error (.fault ⟨kind, .ofHead cursor.index unread⟩) cursor := by
  simp [failHere, standing.spanHere_eq]

theorem textSince_eq (standing : At input cursor unread)
    (text_eq : input.text = before ++ part ++ unread) :
    textSince input (String.utf8Len before) cursor = .ok part cursor := by
  have index_add := standing.index_add
  have index_eq : cursor.index = String.utf8Len before + String.utf8Len part := by
    rw [text_eq, String.utf8Len_append, String.utf8Len_append] at index_add
    omega
  simp [textSince, index_eq, text_eq, - List.append_assoc, Utf8.slice?_append]

theorem exitNested_eq {opening : Nat} (standing : At (input.inside opening) cursor unread) :
    exitNested input cursor =
      .ok () (cursor.goTo input cursor.index input.enclosing.length) := by
  have depth_eq : cursor.depth = input.enclosing.length + 1 := standing.depth_eq
  simp [exitNested, depth_eq]

end At

end Descent

end BoxLang
