import BoxLang.Proofs.Reader.Completeness

/-!
# The trees that programs stand for

A program is a sequence of items: literals, names, assignments of items, and boxes of sequences.
Every tree of this shape is the tree of some text, in which each literal is written in one of its
forms and a semicolon follows each item, so that these trees and no others are read.
-/

namespace BoxLang.Expr

open Reader

mutual

/-- A tree that can be a statement of a program or the value of an assignment. -/
inductive IsItem : Expr → Prop
  | text {bytes : List UInt8} :
      bytes.toByteArray.IsValidUTF8 → '"'.toUInt8 ∉ bytes ∨ '\''.toUInt8 ∉ bytes →
      IsItem (.text bytes)
  | integer (value : Int64) : IsItem (.integer value)
  | real {numeral : List Char} :
      IsNumeral numeral → '.' ∈ numeral → (realValue numeral).isFinite = true →
      IsItem (.real (realValue numeral))
  | get {name : String} : IsName name.toList → IsItem (.get name)
  | assign {name : String} {value : Expr} :
      IsName name.toList → IsItem value → IsItem (.assign name value)
  | box {body : Expr} : IsSequence body → IsItem (.box body)

/-- A tree that can be a whole program or the body of a box. -/
inductive IsSequence : Expr → Prop
  | single {item : Expr} : IsItem item → IsSequence item
  | several {items : List Expr} :
      items.length ≠ 1 → (∀ item ∈ items, IsItem item) → IsSequence (.sequence items)

end

theorem ofStatements_eq_sequence {items : List Expr} (many : items.length ≠ 1) :
    ofStatements items = .sequence items := by
  match items, many with
  | [], _ => rfl
  | [_], many => exact absurd rfl many
  | _ :: _ :: _, _ => rfl

theorem IsSequence.ofStatements {statements : List Expr}
    (areItems : ∀ statement ∈ statements, statement.IsItem) :
    (Expr.ofStatements statements).IsSequence := by
  by_cases many : statements.length = 1
  · obtain ⟨statement, rfl⟩ := List.length_eq_one_iff.mp many
    exact .single (areItems statement (List.mem_singleton_self statement))
  · rw [ofStatements_eq_sequence many]
    exact .several many areItems

end BoxLang.Expr

namespace BoxLang.Reader

section Strings

/-- No byte of the encoding of a character beyond ASCII is an ASCII character. -/
theorem le_toNat_of_mem_utf8EncodeChar {char : Char} {byte : UInt8} (beyond : 128 ≤ char.toNat)
    (member : byte ∈ String.utf8EncodeChar char) : 128 ≤ byte.toNat := by
  have above : ¬char.toNat ≤ 127 := by omega
  simp only [String.utf8EncodeChar, Char.toNat_val, if_neg above] at member
  split at member
  · simp only [List.mem_cons, List.not_mem_nil, or_false, ← UInt8.toNat_inj,
      UInt8.toNat_ofNat'] at member
    omega
  · split at member
    · simp only [List.mem_cons, List.not_mem_nil, or_false, ← UInt8.toNat_inj,
        UInt8.toNat_ofNat'] at member
      omega
    · simp only [List.mem_cons, List.not_mem_nil, or_false, ← UInt8.toNat_inj,
        UInt8.toNat_ofNat'] at member
      omega

theorem toUInt8_mem_utf8EncodeChar_iff {char other : Char} (ascii : char.toNat < 128) :
    char.toUInt8 ∈ String.utf8EncodeChar other ↔ char = other := by
  have byte : char.toUInt8.toNat = char.toNat := by
    rw [Char.toUInt8, UInt32.toNat_toUInt8]
    exact Nat.mod_eq_of_lt (Nat.lt_trans ascii (by decide))
  rw [← Char.toNat_inj]
  by_cases beyond : 128 ≤ other.toNat
  · constructor
    · intro member
      have large := le_toNat_of_mem_utf8EncodeChar beyond member
      omega
    · omega
  · have below : other.toNat ≤ 127 := by omega
    simp only [String.utf8EncodeChar, Char.toNat_val, if_pos below, List.mem_singleton,
      ← UInt8.toNat_inj, byte, UInt8.toNat_ofNat']
    omega

theorem toUInt8_mem_encode_iff {char : Char} {content : List Char} (ascii : char.toNat < 128) :
    char.toUInt8 ∈ Utf8.encode content ↔ char ∈ content := by
  simp only [Utf8.encode, List.mem_flatMap, toUInt8_mem_utf8EncodeChar_iff ascii,
    exists_eq_right']

theorem isValidUTF8_encode (content : List Char) :
    (Utf8.encode content).toByteArray.IsValidUTF8 :=
  .intro content rfl

theorem exists_encode_eq {bytes : List UInt8} (valid : bytes.toByteArray.IsValidUTF8) :
    ∃ content, Utf8.encode content = bytes := by
  obtain ⟨content, encoded⟩ := valid
  exact ⟨content, (List.toByteArray_inj.mp encoded).symm⟩

/-- Bytes stand between quotes exactly if they encode a text without one of the two quotes. -/
theorem exists_string_iff {bytes : List UInt8} :
    (∃ quote content, (quote = '"' ∨ quote = '\'') ∧ quote ∉ content ∧
      Utf8.encode content = bytes) ↔
      bytes.toByteArray.IsValidUTF8 ∧ ('"'.toUInt8 ∉ bytes ∨ '\''.toUInt8 ∉ bytes) := by
  have double {content : List Char} : '"'.toUInt8 ∈ Utf8.encode content ↔ '"' ∈ content :=
    toUInt8_mem_encode_iff (by decide)
  have single {content : List Char} : '\''.toUInt8 ∈ Utf8.encode content ↔ '\'' ∈ content :=
    toUInt8_mem_encode_iff (by decide)
  constructor
  · rintro ⟨quote, content, isQuote, apart, rfl⟩
    rw [double, single]
    refine ⟨isValidUTF8_encode content, ?_⟩
    rcases isQuote with rfl | rfl
    · exact .inl apart
    · exact .inr apart
  · rintro ⟨valid, apart⟩
    obtain ⟨content, rfl⟩ := exists_encode_eq valid
    rw [double, single] at apart
    rcases apart with apart | apart
    · exact ⟨'"', content, .inl rfl, apart, rfl⟩
    · exact ⟨'\'', content, .inr rfl, apart, rfl⟩

end Strings

section Integers

theorem IsDigits.append {text digits : List Char} (isDigits : IsDigits text)
    (areDigits : ∀ char ∈ digits, char.isDigit = true) : IsDigits (text ++ digits) := by
  induction digits generalizing text with
  | nil => rwa [List.append_nil]
  | cons char digits inductionHypothesis =>
      rw [List.forall_mem_cons] at areDigits
      rw [List.append_cons]
      exact inductionHypothesis (isDigits.snoc areDigits.1) areDigits.2

theorem isDigits_toDigits (value : Nat) : IsDigits (Nat.toDigits 10 value) := by
  have areDigits : ∀ char ∈ Nat.toDigits 10 value, char.isDigit = true := fun char member =>
    Nat.isDigit_of_mem_toDigits (by decide) (by decide) member
  obtain ⟨first, rest, split⟩ := List.exists_cons_of_ne_nil (Nat.toDigits_ne_nil : _ ≠ [])
  rw [split, List.forall_mem_cons] at areDigits
  rw [split]
  exact (IsDigits.digit areDigits.1).append areDigits.2

theorem decimalValue_toDigits (value : Nat) : decimalValue (Nat.toDigits 10 value) = value := by
  have digits : (Nat.toDigits 10 value).filter Char.isDigit = Nat.toDigits 10 value :=
    List.filter_eq_self.mpr fun char member =>
      Nat.isDigit_of_mem_toDigits (by decide) (by decide) member
  rw [← digitsValue_eq, Numeral.digitsValue, digits]
  exact Nat.ofDigitChars_ten_toDigits

/-- Every integer is written by its decimal digits, after a minus if it is negative. -/
theorem integerValue_toString (value : Int) :
    IsNumeral (toString value).toList ∧ '.' ∉ (toString value).toList ∧
      integerValue (toString value).toList = value := by
  cases value with
  | ofNat value =>
      have written : (toString (Int.ofNat value)).toList = Nat.toDigits 10 value :=
        Nat.toList_repr
      have digits := isDigits_toDigits value
      rw [written]
      refine ⟨.unsigned (.whole digits), digits.point_not_mem, ?_⟩
      have unsigned : (Nat.toDigits 10 value).head? ≠ some '-' := by
        intro head
        exact (IsUnsigned.whole digits).minus_not_mem (List.mem_of_head? head)
      rw [integerValue, if_neg unsigned, decimalValue_toDigits, Int.ofNat_eq_natCast]
  | negSucc value =>
      have written : (toString (Int.negSucc value)).toList = '-' :: Nat.toDigits 10 (value + 1) := by
        show ("-" ++ Nat.repr (value + 1)).toList = _
        rw [String.toList_append, Nat.toList_repr]
        rfl
      have digits := isDigits_toDigits (value + 1)
      rw [written]
      refine ⟨.signed rfl (.whole digits), ?_, ?_⟩
      · simp [digits.point_not_mem]
      · have skipped : decimalValue ('-' :: Nat.toDigits 10 (value + 1)) = value + 1 :=
          decimalValue_toDigits (value + 1)
        rw [integerValue, List.head?_cons, if_pos rfl, skipped]
        rfl

theorem derivesNumber_toString (value : Int64) :
    DerivesNumber (toString value.toInt).toList (.integer value) := by
  obtain ⟨numeral, pointless, denotes⟩ := integerValue_toString value.toInt
  have derives := DerivesNumber.integer numeral pointless
  rw [denotes, Int64.ofInt_toInt] at derives
  exact derives value.minValue_le_toInt value.toInt_le

end Integers

theorem DerivesNumber.isItem {text : List Char} {literal : Expr}
    (derives : DerivesNumber text literal) : literal.IsItem := by
  cases derives with
  | integer => exact .integer _
  | real numeral point finite => exact .real numeral point finite

mutual

theorem DerivesExpr.isItem {text : List Char} {expr : Expr} (derives : DerivesExpr text expr) :
    expr.IsItem :=
  match derives with
  | .string isQuote apart => by
      obtain ⟨valid, lacks⟩ := exists_string_iff.mp ⟨_, _, isQuote, apart, rfl⟩
      exact .text valid lacks
  | .number number => number.isItem
  | .get isName => .get (by rwa [String.toList_ofList])
  | .assign isName _ _ value => .assign (by rwa [String.toList_ofList]) value.isItem
  | .box body => .box (.ofStatements body.areItems)

theorem DerivesStatements.areItems {text : List Char} {statements : List Expr}
    (derives : DerivesStatements text statements) : ∀ statement ∈ statements, statement.IsItem :=
  match derives with
  | .missing _ => List.forall_mem_nil _
  | .single _ expr _ => List.forall_mem_singleton.mpr expr.isItem
  | .separated first second => List.forall_mem_append.mpr ⟨first.areItems, second.areItems⟩

end

theorem exists_derivesStatements {statements : List Expr}
    (written : ∀ statement ∈ statements, ∃ text, DerivesExpr text statement) :
    ∃ text, DerivesStatements text statements := by
  induction statements with
  | nil => exact ⟨[], .missing .nil⟩
  | cons statement statements inductionHypothesis =>
      rw [List.forall_mem_cons] at written
      obtain ⟨⟨text, derives⟩, written⟩ := written
      obtain ⟨rest, derivesRest⟩ := inductionHypothesis written
      exact ⟨_, .separated (.single .nil derives .nil) derivesRest⟩

mutual

theorem exists_derivesExpr {expr : Expr} (isItem : expr.IsItem) : ∃ text, DerivesExpr text expr :=
  match isItem with
  | .text valid lacks => by
      obtain ⟨quote, content, isQuote, apart, rfl⟩ := exists_string_iff.mpr ⟨valid, lacks⟩
      exact ⟨_, .string isQuote apart⟩
  | .integer value => ⟨_, .number (derivesNumber_toString value)⟩
  | .real numeral point finite => ⟨_, .number (.real numeral point finite)⟩
  | @Expr.IsItem.get name isName => by
      rw [← name.ofList_toList]
      exact ⟨name.toList, .get isName⟩
  | @Expr.IsItem.assign name value isName isItem => by
      obtain ⟨text, derives⟩ := exists_derivesExpr isItem
      rw [← name.ofList_toList]
      exact ⟨_, .assign isName .nil .nil derives⟩
  | .box isSequence => by
      obtain ⟨text, statements, derives, rfl⟩ := exists_derivesProgram isSequence
      exact ⟨_, .box derives⟩

theorem exists_derivesProgram {expr : Expr} (isSequence : expr.IsSequence) :
    ∃ text, DerivesProgram text expr :=
  match isSequence with
  | .single isItem => by
      obtain ⟨text, derives⟩ := exists_derivesExpr isItem
      exact ⟨_, _, .single .nil derives .nil, rfl⟩
  | .several many areItems => by
      obtain ⟨text, derives⟩ := exists_derivesStatements fun item member =>
        exists_derivesExpr (areItems item member)
      exact ⟨text, _, derives, (Expr.ofStatements_eq_sequence many).symm⟩

end

theorem DerivesProgram.isSequence {text : List Char} {expr : Expr}
    (derives : DerivesProgram text expr) : expr.IsSequence := by
  obtain ⟨statements, derives, rfl⟩ := derives
  exact .ofStatements derives.areItems

end BoxLang.Reader

namespace BoxLang

open Reader

/-- The trees that some text is parsed into are the sequences within the nesting limit. -/
theorem exists_parseWithin_iff (maxDepth : Nat) (expr : Expr) :
    (∃ source, parseWithin maxDepth source = .ok expr) ↔
      expr.IsSequence ∧ expr.nesting ≤ maxDepth := by
  constructor
  · rintro ⟨source, parsed⟩
    obtain ⟨derives, fits⟩ := derivesProgram_of_parsed parsed
    exact ⟨derives.isSequence, fits⟩
  · rintro ⟨isSequence, fits⟩
    obtain ⟨text, derives⟩ := exists_derivesProgram isSequence
    refine ⟨String.ofList text, parseWithin_ok_iff_read.mpr ?_⟩
    rw [String.toList_ofList]
    exact derives.read_eq fits

end BoxLang
