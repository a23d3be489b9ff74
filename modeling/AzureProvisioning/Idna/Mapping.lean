/-
# Mapping of domain names

Before a domain name is read, its characters are mapped: letters to small ones, variants of a character
to the character, and some characters to nothing. What a name has in place of a whole text is composed
(`Text.composed`), so that a name has one form.
-/

import AzureProvisioning.Idna.Mapping.Table
import AzureProvisioning.Text.Composed
import AzureProvisioning.Text.Lowercase

namespace AzureProvisioning
namespace Idna

open Text

/-- What the tables have in place of a code point. -/
def tabled? (n : Nat) : Option (List Nat) :=
  match lookupRange? shifted n with
  | some (place, first :: _) => some [first + place]
  | _ => ((lookupPlace? exchanged n).map fun m => [m]).or ((lookupRange? spelledOut n).map (·.2))

/-- Whether the character is a capital letter of Cherokee; these are kept, and the small ones are
mapped to them. -/
def isCherokeeCapital (c : Char) : Bool :=
  0x13A0 ≤ c.toNat && c.toNat ≤ 0x13F5

/-- What a domain name has in place of a character. -/
def mapChar (c : Char) : List Char :=
  if c.toNat < 0x80 then [c.toLower]
  else if leftOutRanges.holds c then []
  else
    match tabled? c.toNat with
    | some ns => ns.map Char.ofNat
    | none => if isCherokeeCapital c then [c] else lowerChar c

/-- The form of a text in a domain name. -/
def mapped (s : List Char) : List Char :=
  composed (s.flatMap mapChar)

end Idna
end AzureProvisioning
