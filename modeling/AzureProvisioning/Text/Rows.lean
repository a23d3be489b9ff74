/-
# Tables of code points

A large table is kept as lines of text: rows with semicolons between them, and in a row numbers in base
16 with blanks between them. A row begins with a code point, or with the first and the last one of a
range; what follows is what the table says of them.
-/

import AzureProvisioning.Text.Basic
import AzureProvisioning.Text.Split

namespace AzureProvisioning
namespace Text

/-- The rows of a table. -/
def rows (lines : List String) : List (List Nat) :=
  lines.flatMap fun line =>
    (split ';' line.toList).map fun row => (split ' ' row).filterMap (natural? 16)

/-- What follows a code point at the start of a row. -/
def lookup? (table : List (List Nat)) (n : Nat) : Option (List Nat) :=
  table.findSome? fun
    | first :: rest => if first = n then some rest else none
    | [] => none

/-- What follows the range that a code point lies in, and how far into the range it lies. -/
def lookupRange? (table : List (List Nat)) (n : Nat) : Option (Nat × List Nat) :=
  table.findSome? fun
    | first :: last :: rest => if first ≤ n && n ≤ last then some (n - first, rest) else none
    | _ => none

/-- What a row has for a code point, where the numbers after the first code point of a range stand for
the code points of the range in order. -/
def lookupPlace? (table : List (List Nat)) (n : Nat) : Option Nat :=
  table.findSome? fun
    | first :: rest => if first ≤ n then rest[n - first]? else none
    | [] => none

example : rows ["41 61;C0 41 300"] = [[0x41, 0x61], [0xC0, 0x41, 0x300]] := by decide +kernel

end Text
end AzureProvisioning
