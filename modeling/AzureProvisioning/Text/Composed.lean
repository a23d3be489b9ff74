/-
# Composed texts

A letter with marks may be written as one character or as several ones, and marks of different classes
in any order. `composed` gives the normal form with as few characters as the tables allow
(Normalization Form C): every character is taken apart, the marks are put in the order of their classes,
and what has a character of its own is joined again.

The syllables of Hangul are computed from their place: 19 leads, 21 vowels, and 27 tails or none.
-/

import AzureProvisioning.Text.Composed.Table

namespace AzureProvisioning
namespace Text

/-- The class that orders a mark; zero for all other characters. -/
def markClass (c : Char) : Nat :=
  if c.toNat < 0x300 then 0
  else
    match lookupRange? markClasses c.toNat with
    | some (_, [k]) => k
    | _ => 0

/-- The first syllable of Hangul. -/
def firstSyllable : Nat := 0xAC00

/-- The number of syllables of Hangul. -/
def syllables : Nat := 19 * 21 * 28

/-- The parts of a syllable of Hangul by its place. -/
def syllableParts (place : Nat) : List Char :=
  let start := [Char.ofNat (0x1100 + place / (21 * 28)), Char.ofNat (0x1161 + place / 28 % 21)]
  if place % 28 = 0 then start else start ++ [Char.ofNat (0x11A7 + place % 28)]

/-- The parts of a character. -/
def parts (c : Char) : List Char :=
  if c.toNat < 0xC0 then [c]
  else if firstSyllable ≤ c.toNat && c.toNat < firstSyllable + syllables then
    syllableParts (c.toNat - firstSyllable)
  else
    let n := (lookupPlace? replaced c.toNat).getD c.toNat
    (((lookup? composites n).or (lookup? apart n)).getD [n]).map Char.ofNat

/-- Puts a character before a text whose marks are in order: a mark goes behind those of lower
classes. -/
def putMark (c : Char) : List Char → List Char
  | [] => [c]
  | d :: r =>
    if 0 < markClass d && markClass d < markClass c then d :: putMark c r else c :: d :: r

/-- The text with its marks in the order of their classes. -/
def ordered (s : List Char) : List Char :=
  s.foldr putMark []

/-- The syllable of Hangul that a character begins and another one continues. -/
def joinedSyllable? (a b : Char) : Option Char :=
  let lead := a.toNat - 0x1100
  let vowel := b.toNat - 0x1161
  let place := a.toNat - firstSyllable
  let tail := b.toNat - 0x11A7
  if 0x1100 ≤ a.toNat && lead < 19 && 0x1161 ≤ b.toNat && vowel < 21 then
    some (Char.ofNat (firstSyllable + (lead * 21 + vowel) * 28))
  else if firstSyllable ≤ a.toNat && place < syllables && place % 28 = 0 &&
      0x11A8 ≤ b.toNat && tail < 28 then
    some (Char.ofNat (a.toNat + tail))
  else none

/-- The character that has the parts of two characters. -/
def joined? (a b : Char) : Option Char :=
  if b.toNat < 0x300 then none
  else
    (joinedSyllable? a b).or <|
      let sought := (parts a).map Char.toNat ++ [b.toNat]
      composites.findSome? fun
        | n :: row => if row = sought then some (Char.ofNat n) else none
        | [] => none

/-- Joins what follows a character to it as far as possible. Marks that cannot be joined stay behind
it, the nearest to the end first; a mark is out of reach behind one of its class or a higher one. -/
def joinAfter (base : Char) (marks : List Char) : List Char → List Char
  | [] => base :: marks.reverse
  | c :: r =>
    let isNear := marks.head?.all fun m => markClass m < markClass c
    match if isNear then joined? base c else none with
    | some d => joinAfter d marks r
    | none =>
      if markClass c = 0 then base :: marks.reverse ++ joinAfter c [] r
      else joinAfter base (c :: marks) r

/-- Joins the parts of a text whose marks are in order. -/
def joinParts : List Char → List Char
  | [] => []
  | c :: r => if markClass c = 0 then joinAfter c [] r else c :: joinParts r

/-- The composed form of a text. -/
def composed (s : List Char) : List Char :=
  joinParts (ordered (s.flatMap parts))

example : joinedSyllable? '\ud558' '\u11ab' = some '\ud55c' := by decide

end Text
end AzureProvisioning
