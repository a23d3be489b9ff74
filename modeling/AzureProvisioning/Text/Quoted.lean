/-
# Quoted texts

The form in which log entries and descriptions show a text: between quotation marks, with a backslash
in front of quotation marks and backslashes, short names for tabulator, line breaks and the null
character, and other characters that are not shown by their number in base 16.
-/

import AzureProvisioning.Text.Quoted.Table
import AzureProvisioning.Text.Split

namespace AzureProvisioning
namespace Text

/-- A number in base 16 with small digits. -/
def hex (n : Nat) : List Char :=
  Nat.toDigits 16 n

/-- A character as it stands in a quoted text. -/
def quotedChar (c : Char) : List Char :=
  if c.toNat = 0 then ['\\', '0']
  else if c = '\t' then ['\\', 't']
  else if c = '\r' then ['\\', 'r']
  else if c = '\n' then ['\\', 'n']
  else if c = '"' then ['\\', '"']
  else if c = '\\' then ['\\', '\\']
  else if hiddenRanges.holds c then ['\\', 'u', '\x7b'] ++ hex c.toNat ++ ['\x7d']
  else [c]

/-- A text between quotation marks. -/
def quoted (s : String) : String :=
  String.ofList ('"' :: (s.toList.flatMap quotedChar ++ ['"']))

/-- A list of quoted texts between brackets. -/
def quotedList (items : List String) : String :=
  "[" ++ listed ", " (items.map quoted) ++ "]"

example : quoted "a\"b\\" = "\"a\\\"b\\\\\"" := by decide +kernel

end Text
end AzureProvisioning
