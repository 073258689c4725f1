import BoxLang.Text.Printable

/-!
# Quoted text

Text between double quotes.  A quote, a backslash and a few control characters
have short escapes; the other characters that are not printable are written by
their code point in hexadecimal.
-/

namespace BoxLang

namespace Quoted

/-- The written form of one character. -/
def escape (char : Char) : List Char :=
  if char = '\x00' then ['\\', '0']
  else if char = '\t' then ['\\', 't']
  else if char = '\r' then ['\\', 'r']
  else if char = '\n' then ['\\', 'n']
  else if char = '"' then ['\\', '"']
  else if char = '\\' then ['\\', '\\']
  else if isPrintable char then [char]
  else ['\\', 'u', '{'] ++ Nat.toDigits 16 char.toNat ++ ['}']

end Quoted

/-- A text between double quotes. -/
def quoted (text : List Char) : String :=
  String.ofList ('"' :: text.flatMap Quoted.escape ++ ['"'])

end BoxLang
