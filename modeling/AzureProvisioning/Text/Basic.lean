/-
# Characters and texts

What the formats of this library are made of: classes of characters, digits, letter case and blanks.

A class of characters is given by ranges of code points. Keywords, selectors and names of the management
service are compared without regard to the case of the letters `A` to `Z`, and all other characters have
to agree exactly. Blanks are the white space of Unicode (property `White_Space`). Numbers have digits to
a base of up to 16, in letters of either case.
-/

namespace AzureProvisioning
namespace Text

/-- Ranges of code points, first and last included. -/
abbrev Ranges := List (Nat × Nat)

/-- Whether the character lies in one of the ranges. -/
def Ranges.holds (ranges : Ranges) (c : Char) : Bool :=
  ranges.any fun r => r.1 ≤ c.toNat && c.toNat ≤ r.2

/-- Code points with the property `White_Space`. -/
def blanks : Ranges :=
  [(0x9, 0xD), (0x20, 0x20), (0x85, 0x85), (0xA0, 0xA0), (0x1680, 0x1680), (0x2000, 0x200A),
   (0x2028, 0x2029), (0x202F, 0x202F), (0x205F, 0x205F), (0x3000, 0x3000)]

/-- Whether the character is white space. -/
def isBlank (c : Char) : Bool :=
  blanks.holds c

/-- The text without white space at its two ends. -/
def trimBlanks (s : String) : String :=
  String.ofList ((s.toList.dropWhile isBlank).reverse.dropWhile isBlank).reverse

/-- The value of a digit in base 16. -/
def digit? (c : Char) : Option Nat :=
  if c.isDigit then some (c.toNat - '0'.toNat)
  else if 'a' ≤ c && c ≤ 'f' then some (c.toNat - 'a'.toNat + 10)
  else if 'A' ≤ c && c ≤ 'F' then some (c.toNat - 'A'.toNat + 10)
  else none

/-- The number that continues another one by a digit; none for a digit that the base does not have. -/
def appendDigit? (base n : Nat) (c : Char) : Option Nat :=
  ((digit? c).filter (· < base)).map (n * base + ·)

/-- The number of a row of digits; the empty row is zero. -/
def natural? (base : Nat) (s : List Char) : Option Nat :=
  s.foldlM (appendDigit? base) 0

example : natural? 16 ['f', 'F'] = some 255 := by decide

example : natural? 8 ['0', '9'] = none := by decide

/-- A text with the letters `A` to `Z` made small. -/
def foldCase (s : String) : List Char :=
  s.toList.map Char.toLower

/-- Equality up to the case of the letters `A` to `Z`. -/
def sameFolded (a b : String) : Bool :=
  foldCase a == foldCase b

theorem sameFolded_iff {a b : String} : sameFolded a b = true ↔ foldCase a = foldCase b := by
  simp [sameFolded]

theorem sameFolded_refl (a : String) : sameFolded a a = true := by
  simp [sameFolded]

end Text
end AzureProvisioning
