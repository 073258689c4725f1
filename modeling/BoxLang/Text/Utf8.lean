/-!
# UTF-8

Encoding of characters as bytes, and decoding of arbitrary bytes by a machine
that reads one byte at a time.  Decoding never fails: each longest start of a
character that cannot be completed is replaced by U+FFFD.
-/

namespace BoxLang.Utf8

def encode (chars : List Char) : List UInt8 :=
  chars.flatMap String.utf8EncodeChar

/-- A character begun but not complete: the bits read so far, how many bytes are
missing, and the bounds on the next of them. -/
structure Pending where
  bits : Nat
  missing : Nat
  low : UInt8
  high : UInt8

def replacement : Char :=
  '\uFFFD'

/-- A byte where a character starts: the characters it settles, and what it begins. -/
def lead (byte : UInt8) : List Char × Option Pending :=
  if byte < 0x80 then ([Char.ofNat byte.toNat], none)
  else if byte < 0xC2 then ([replacement], none)
  else if byte < 0xE0 then ([], some ⟨byte.toNat - 0xC0, 1, 0x80, 0xBF⟩)
  else if byte < 0xF0 then
    let low := if byte = 0xE0 then 0xA0 else 0x80
    let high := if byte = 0xED then 0x9F else 0xBF
    ([], some ⟨byte.toNat - 0xE0, 2, low, high⟩)
  else if byte < 0xF5 then
    let low := if byte = 0xF0 then 0x90 else 0x80
    let high := if byte = 0xF4 then 0x8F else 0xBF
    ([], some ⟨byte.toNat - 0xF0, 3, low, high⟩)
  else ([replacement], none)

/-- One byte of the decoder. A byte that cannot continue a pending character
ends it and is read again as the start of another. -/
def next : Option Pending → UInt8 → List Char × Option Pending
  | none, byte => lead byte
  | some pending, byte =>
      if pending.low ≤ byte ∧ byte ≤ pending.high then
        let bits := pending.bits * 64 + (byte.toNat - 0x80)
        if pending.missing ≤ 1 then ([Char.ofNat bits], none)
        else ([], some ⟨bits, pending.missing - 1, 0x80, 0xBF⟩)
      else
        let (chars, pending) := lead byte
        (replacement :: chars, pending)

/-- The characters of the remaining bytes, newest first, on top of `decoded`. -/
def decodeOnto (decoded : List Char) : Option Pending → List UInt8 → List Char
  | none, [] => decoded
  | some _, [] => replacement :: decoded
  | pending, byte :: rest =>
      let (chars, pending) := next pending byte
      decodeOnto (chars.reverse ++ decoded) pending rest

def decode (bytes : List UInt8) : List Char :=
  (decodeOnto [] none bytes).reverse

end BoxLang.Utf8
