/-
# Small letters

`lowerChar` is the full small form of a character on its own: one character, except that a capital I
with a dot above becomes a small i followed by a combining dot. `lowercase` is the small form of a
text: as `lowerChar`, except that a capital sigma at the end of a word becomes a final sigma.
-/

import AzureProvisioning.Text.Lowercase.Table

namespace AzureProvisioning
namespace Text

/-- The small form of a character on its own. -/
def lowerChar (c : Char) : List Char :=
  if c.toNat < 128 then [c.toLower]
  else if c.toNat = 0x130 then ['i', Char.ofNat 0x307]
  else
    match lowerRuns.find? (·.holds c.toNat) with
    | some run => [Char.ofNat (run.move c.toNat)]
    | none => [c]

/-- Whether the first character that is not case-ignorable is cased. -/
def startsCased (s : List Char) : Bool :=
  match s.dropWhile caseIgnorableRanges.holds with
  | c :: _ => c.isAlpha || casedRanges.holds c
  | [] => false

/-- The small form of a text that follows the given characters, the nearest first. -/
def lowerAfter (before : List Char) : List Char → List Char
  | [] => []
  | c :: rest =>
    (if c = 'Σ' then [if startsCased before && !startsCased rest then 'ς' else 'σ']
      else lowerChar c) ++ lowerAfter (c :: before) rest

/-- The small form of a text. -/
def lowercase (s : String) : String :=
  String.ofList (lowerAfter [] s.toList)

example : lowercase "ΟΔΟΣ ΣΑ" = "οδος σα" := by decide +kernel

end Text
end AzureProvisioning
