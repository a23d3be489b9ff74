/-
# Characters written as bytes

Characters that may not stand in a part of an address are written as the bytes of their UTF-8 form,
each as a percent sign and two digits in base 16. Controls and characters outside ASCII are always
written so; each part of an address has its own set of further ones.
-/

import AzureProvisioning.Text.Basic

namespace AzureProvisioning
namespace Url

/-- A digit in base 16, with capital letters. -/
def hexDigit (n : Nat) : Char :=
  (Nat.digitChar n).toUpper

/-- A byte as it is written in an address. -/
def percentByte (b : UInt8) : List Char :=
  ['%', hexDigit (b.toNat / 16), hexDigit (b.toNat % 16)]

/-- The text with the characters of a set, controls and all outside ASCII written as bytes. -/
def percentEncode (set : Char → Bool) (s : List Char) : List Char :=
  s.flatMap fun c =>
    if c.toNat < 0x20 || 0x7f ≤ c.toNat || set c then
      (String.utf8EncodeChar c).flatMap percentByte
    else [c]

/-- The bytes that a text stands for: those written in it, and the UTF-8 form of all else. -/
def percentDecode : List Char → List UInt8
  | '%' :: a :: b :: r =>
    match Text.natural? 16 [a, b] with
    | some n => UInt8.ofNat n :: percentDecode r
    | none => '%'.toUInt8 :: percentDecode (a :: b :: r)
  | c :: r => String.utf8EncodeChar c ++ percentDecode r
  | [] => []

theorem percentDecode_byte {a b : Char} {n : Nat} (h : Text.natural? 16 [a, b] = some n)
    (r : List Char) : percentDecode ('%' :: a :: b :: r) = UInt8.ofNat n :: percentDecode r := by
  rw [percentDecode, h]

theorem percentDecode_noByte {a b : Char} (h : Text.natural? 16 [a, b] = none) (r : List Char) :
    percentDecode ('%' :: a :: b :: r) = '%'.toUInt8 :: percentDecode (a :: b :: r) := by
  rw [percentDecode, h]

theorem percentDecode_cons {c : Char} {r : List Char}
    (h : ∀ a b r', c = '%' → r = a :: b :: r' → False) :
    percentDecode (c :: r) = String.utf8EncodeChar c ++ percentDecode r := by
  rw [percentDecode]
  exact h

/-- The text that a text with written bytes stands for; none when the bytes are no UTF-8 form. -/
def percentDecoded? (s : List Char) : Option String :=
  String.fromUTF8? (ByteArray.mk (percentDecode s).toArray)

/-- Further characters that are written as bytes in a path. -/
def pathSet (c : Char) : Bool :=
  c == ' ' || c == '"' || c == '#' || c == '<' || c == '>' || c == '?' || c == '`' ||
    c == '\x7b' || c == '\x7d'

/-- Further characters that are written as bytes in credentials. -/
def credentialSet (c : Char) : Bool :=
  pathSet c || c == '/' || c == ':' || c == ';' || c == '=' || c == '@' || c == '[' || c == '\\' ||
    c == ']' || c == '^' || c == '|'

/-- Further characters that are written as bytes in a query. -/
def querySet (c : Char) : Bool :=
  c == ' ' || c == '"' || c == '#' || c == '<' || c == '>'

/-- Further characters that are written as bytes in a fragment. -/
def fragmentSet (c : Char) : Bool :=
  c == ' ' || c == '"' || c == '<' || c == '>' || c == '`'

example : percentEncode pathSet ['é', ' ', 'a'] = "%C3%A9%20a".toList := by decide

end Url
end AzureProvisioning
