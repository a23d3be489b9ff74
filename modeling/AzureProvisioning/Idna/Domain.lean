/-
# Domain names

The form of a domain name in ASCII. The name is mapped and its labels are looked at one by one. A label
with other characters is written in Punycode after `xn--`; a label that begins so stands for the text
that it is the Punycode of, and that text has to be one that a label may be.
-/

import AzureProvisioning.Idna.Label
import AzureProvisioning.Idna.Mapping
import AzureProvisioning.Idna.Punycode
import AzureProvisioning.Text.Split

namespace AzureProvisioning
namespace Idna

/-- What a label in Punycode begins with. -/
def marker : List Char := ['x', 'n', '-', '-']

/-- Whether all characters are of ASCII. -/
def isAscii (s : List Char) : Bool :=
  s.all (·.toNat < 0x80)

/-- The length of the longest Punycode that is read. -/
def maxRead : Nat := 2000

/-- The length of the longest text that is written in Punycode. -/
def maxWritten : Nat := 1000

/-- The text that a mapped label stands for. -/
def labelText? (label : List Char) : Option (List Char) :=
  if marker.isPrefixOf label then do
    let coded := label.drop marker.length
    if !isAscii coded || maxRead < coded.length then none
    else
      let s ← Punycode.decode? coded
      if isAscii s || mapped s ≠ s then none else return s
  else some label

/-- The form of a label in ASCII. -/
def labelAscii? (s : List Char) : Option (List Char) :=
  if isAscii s then some s
  else if maxWritten < s.length then none
  else some (marker ++ Punycode.encode s)

/-- The form of a domain name in ASCII; none when the name breaks a rule of labels. -/
def toAscii? (s : List Char) : Option (List Char) := do
  let labels ← (Text.split '.' (mapped s)).mapM labelText?
  let isMixed := labels.any (·.any isRightward)
  if !labels.all isAllowed || (isMixed && !labels.all hasOneDirection) then none
  else return Text.join '.' (← labels.mapM labelAscii?)

example : toAscii? "B.de".toList = some "b.de".toList := by decide +kernel

end Idna
end AzureProvisioning
