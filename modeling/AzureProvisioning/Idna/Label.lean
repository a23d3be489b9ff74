/-
# Labels of domain names

A label holds ASCII and the characters of the table (`isAllowed`); it does not begin with a mark, and
joiners stand only where they have an effect. In a name with letters that are written from right to
left, the letters of every label have to be of one direction (`hasOneDirection`):

| direction of the first letter | of all characters | of the last one before marks |
| --- | --- | --- |
| right to left | any but left to right, one kind of numbers | right to left, or of a number |
| left to right | left to right, European numbers, signs, marks | left to right, or of a European number |
-/

import AzureProvisioning.Idna.Label.Table
import AzureProvisioning.Text.Composed

namespace AzureProvisioning
namespace Idna

/-- The direction in which a character is written. -/
inductive Direction
  | left
  | right
  | arabicNumber
  | europeanNumber
  | sign
  | mark
  deriving DecidableEq, Inhabited, Repr

/-- Marks of syllables that are written like letters. -/
def isLetterMark (c : Char) : Bool :=
  c.toNat = 0xCBF || c.toNat = 0xCC6 || c.toNat = 0x11A07 || c.toNat = 0x11A08 || c.toNat = 0x11C3F

/-- The direction of a character that a label may hold. -/
def direction (c : Char) : Direction :=
  if c.toNat < 0x80 then
    if c.isDigit then .europeanNumber else if c.isAlpha then .left else .sign
  else if rightRanges.holds c then .right
  else if arabicNumberRanges.holds c then .arabicNumber
  else if europeanNumberRanges.holds c then .europeanNumber
  else if neutralRanges.holds c then .sign
  else if isLetterMark c then .left
  else if nonspacingRanges.holds c || c.toNat = 0x1171E then .mark
  else .left

/-- Whether the character makes a name follow the rule of directions. -/
def isRightward (c : Char) : Bool :=
  direction c = .right || direction c = .arabicNumber

/-- Whether the directions of a label go together. -/
def hasOneDirection (label : List Char) : Bool :=
  let all := label.map direction
  let final := all.reverse.find? (· ≠ .mark)
  match all with
  | [] => true
  | .right :: _ =>
    !all.contains .left && final != some .sign &&
      !(all.contains .europeanNumber && all.contains .arabicNumber)
  | .left :: _ =>
    !all.contains .right && !all.contains .arabicNumber && final != some .sign
  | _ => false

/-- Whether the character is a mark. -/
def isMark (c : Char) : Bool :=
  0x80 ≤ c.toNat && (nonspacingRanges.holds c || spacingRanges.holds c)

/-- Whether the character is passed over when letters join. -/
def isPassedOver (c : Char) : Bool :=
  0x80 ≤ c.toNat && (nonspacingRanges.holds c || c.toNat = 0x1E94B)

/-- The class of marks that take the vowel from a letter. -/
def vowelKiller : Nat := 9

/-- Whether the joiners of a label have an effect: after the mark that takes the vowel from a letter, or
for the one that parts letters (200C), between two letters that would join. The characters before are
given with the nearest first. -/
def joinersFit (before : List Char) : List Char → Bool
  | [] => true
  | c :: r =>
    let follows := before.head?.any fun m => Text.markClass m = vowelKiller
    let parts :=
      (before.dropWhile isPassedOver).head?.any joinsNextRanges.holds &&
        (r.dropWhile isPassedOver).head?.any joinsPreviousRanges.holds
    (if c.toNat = 0x200C then follows || parts else if c.toNat = 0x200D then follows else true) &&
      joinersFit (c :: before) r

/-- Whether a label holds allowed characters only, each where it may stand. -/
def isAllowed (label : List Char) : Bool :=
  label.all (fun c => c.toNat < 0x80 || allowedRanges.holds c) && !label.head?.any isMark &&
    joinersFit [] label

end Idna
end AzureProvisioning
