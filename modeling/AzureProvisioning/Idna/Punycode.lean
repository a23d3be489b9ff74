/-
# Punycode

A form of texts in letters, digits and hyphens. The characters of ASCII come first, with a hyphen after
them if there are any. Then each other character follows, the lower ones first, as the number of steps
from the one before, where a step goes to the next place in the text and from the end of the text to the
next code point.

The numbers are in base 36 with the lowest digit first. How many digits a number has is known from
thresholds: the digit that is below its threshold is the last one. The thresholds rise with the digits
and fall with a bias, which follows the size of the numbers before.
-/

namespace AzureProvisioning
namespace Punycode

/-- The digit of a value. -/
def digitChar (d : Nat) : Char :=
  if d < 26 then Char.ofNat ('a'.toNat + d) else Char.ofNat ('0'.toNat + (d - 26))

/-- The value of a digit. -/
def digitValue? (c : Char) : Option Nat :=
  if 'a' ≤ c && c ≤ 'z' then some (c.toNat - 'a'.toNat)
  else if 'A' ≤ c && c ≤ 'Z' then some (c.toNat - 'A'.toNat)
  else if c.isDigit then some (c.toNat - '0'.toNat + 26)
  else none

/-- The threshold of the digit at a place, which counts from 36 on in steps of 36. -/
def threshold (place bias : Nat) : Nat :=
  min 26 (max 1 (place - bias))

theorem threshold_pos (place bias : Nat) : 0 < threshold place bias := by
  unfold threshold
  omega

/-- How often the number has to be divided by 35 to be at most 455, and what is left of it. -/
def scaled (n : Nat) : Nat × Nat :=
  if 455 < n then ((scaled (n / 35)).1 + 1, (scaled (n / 35)).2) else (0, n)
termination_by n
decreasing_by all_goals omega

/-- The bias after a number, from the count of characters that are placed with it. -/
def adapted (n count : Nat) (isFirst : Bool) : Nat :=
  let n := if isFirst then n / 700 else n / 2
  let (times, rest) := scaled (n + n / count)
  36 * times + 36 * rest / (rest + 38)

/-- The digits of a number from a place on. -/
def digits (bias place n : Nat) : List Char :=
  let t := threshold place bias
  if n < t then [digitChar n]
  else digitChar (t + (n - t) % (36 - t)) :: digits bias (place + 36) ((n - t) / (36 - t))
termination_by n
decreasing_by
  have := threshold_pos place bias
  exact Nat.lt_of_le_of_lt (Nat.div_le_self _ _) (by omega)

/-- A text that is being written. -/
structure Writing where
  written : List Char
  /-- Steps since the last character that was placed. -/
  steps : Nat
  bias : Nat
  /-- How many characters are placed. -/
  count : Nat

/-- Passes one character of the text while the characters of a code point are placed. -/
def Writing.pass (basic point : Nat) (w : Writing) (c : Char) : Writing :=
  if c.toNat < point then { w with steps := w.steps + 1 }
  else if c.toNat = point then
    { written := w.written ++ digits w.bias 36 w.steps
      steps := 0
      bias := adapted w.steps (w.count + 1) (w.count = basic)
      count := w.count + 1 }
  else w

/-- Places the characters of the code points from one on. -/
def Writing.place (s : List Char) (basic : Nat) (w : Writing) (first : Nat) : List Nat → Writing
  | [] => w
  | point :: rest =>
    let w := { w with steps := w.steps + (point - first) * (w.count + 1) }
    let w := s.foldl (Writing.pass basic point) w
    Writing.place s basic { w with steps := w.steps + 1 } (point + 1) rest

/-- The code points outside ASCII that a text holds, the lowest first. -/
def pointsOutside (s : List Char) : List Nat :=
  (((s.map Char.toNat).filter (0x80 ≤ ·)).eraseDups).mergeSort

/-- The Punycode of a text. -/
def encode (s : List Char) : List Char :=
  let basic := s.filter (·.toNat < 0x80)
  let start : Writing := ⟨[], 0, 72, basic.length⟩
  let w := Writing.place s basic.length start 0x80 (pointsOutside s)
  basic ++ (if basic.isEmpty then [] else ['-']) ++ w.written

/-- A text that is being read. -/
structure Reading where
  text : List Char
  /-- The code point that was placed last. -/
  point : Nat := 0x80
  /-- The place of the next character, if it is of the same code point. -/
  next : Nat := 0
  bias : Nat := 72
  /-- Place and weight of the next digit, and what the digits before it amount to. -/
  place : Nat := 36
  weight : Nat := 1
  number : Nat := 0

/-- Places the next character. -/
def Reading.insert? (r : Reading) (number : Nat) : Option Reading :=
  let count := r.text.length + 1
  let point := r.point + (r.next + number) / count
  let i := (r.next + number) % count
  if point.isValidChar then
    some {
      text := r.text.insertIdx i (Char.ofNat point)
      point
      next := i + 1
      bias := adapted number count (r.next = 0) }
  else none

/-- Reads a digit. -/
def Reading.step? (r : Reading) (c : Char) : Option Reading := do
  let d ← digitValue? c
  let t := threshold r.place r.bias
  let number := r.number + d * r.weight
  if d < t then r.insert? number
  else return { r with place := r.place + 36, weight := r.weight * (36 - t), number }

/-- The text that a Punycode stands for. -/
def decode? (s : List Char) : Option (List Char) := do
  let coded := (s.reverse.takeWhile (· ≠ '-')).reverse
  let basic := s.take (s.length - coded.length)
  let start : Reading := { text := basic.dropLast }
  let r ← (if basic = ['-'] then s else coded).foldlM Reading.step? start
  if r.place = 36 then return r.text else none

example : encode ['b', 'ü', 'c', 'h', 'e', 'r'] = "bcher-kva".toList := by decide +kernel

example : decode? "bcher-kva".toList = some ['b', 'ü', 'c', 'h', 'e', 'r'] := by decide +kernel

end Punycode
end AzureProvisioning
