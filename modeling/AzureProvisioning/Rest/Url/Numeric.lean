/-
# Numeric hosts

A host may be an address of the network itself: one of four bytes, written as up to four numbers with
dots between them, or one of eight groups of sixteen bits, written in base 16 with colons between them.

The numbers of the first kind may be octal after a zero and in base 16 after `0x`, and the last one
fills the bytes that are left. In the second kind two colons stand for a row of zero groups, and the
last two groups may be written as four decimal numbers.
-/

import AzureProvisioning.Text.Basic
import AzureProvisioning.Text.Split

namespace AzureProvisioning
namespace Url
namespace Numeric

/-- A number of an address of four bytes. -/
def hostNumber? : List Char → Option Nat
  | [] => none
  | ['0'] => some 0
  | '0' :: c :: r =>
    if c = 'x' || c = 'X' then Text.natural? 16 r else Text.natural? 8 (c :: r)
  | s => Text.natural? 10 s

/-- The labels of a host; a dot at the end begins no label. -/
def labels (s : List Char) : List (List Char) :=
  let parts := Text.split '.' s
  if parts.getLast? = some [] then parts.dropLast else parts

/-- Whether the last label is a number, so that the host has to be an address of four bytes. -/
def endsInNumber (s : List Char) : Bool :=
  (labels s).getLast?.any fun label =>
    (!label.isEmpty && label.all Char.isDigit) || (hostNumber? label).isSome

/-- The value of numbers that fill some bytes: each but the last one fills one byte. -/
def fillBytes? : Nat → List Nat → Option Nat
  | _, [] => none
  | bytes, [n] => if n < 256 ^ bytes then some n else none
  | 0, _ :: _ :: _ => none
  | bytes + 1, n :: m :: rest =>
    if n < 256 && 0 < bytes then (fillBytes? bytes (m :: rest)).map (n * 256 ^ bytes + ·) else none

/-- The address of four bytes. -/
def address4? (s : List Char) : Option UInt32 := do
  let numbers ← (labels s).mapM hostNumber?
  return UInt32.ofNat (← fillBytes? 4 numbers)

/-- The written form of an address of four bytes. -/
def address4Text (value : UInt32) : String :=
  Text.listed "." (([24, 16, 8, 0] : List UInt32).map fun shift => toString ((value >>> shift) % 256))

/-- A decimal byte without leading zeros. -/
def byte? (s : List Char) : Option Nat :=
  if s.isEmpty || (s.head? = some '0' && s.length != 1) then none
  else (Text.natural? 10 s).filter (· < 256)

/-- The groups of one part between colons: one of up to four digits, or two of four decimal numbers if
the part is the last one. -/
def groups? (s : List Char) (isLast : Bool) : Option (List UInt16) :=
  if isLast && s.contains '.' then
    match (Text.split '.' s).mapM byte? with
    | some [a, b, c, d] => some [UInt16.ofNat (a * 256 + b), UInt16.ofNat (c * 256 + d)]
    | _ => none
  else if s.isEmpty || 4 < s.length then none
  else (Text.natural? 16 s).map fun n => [UInt16.ofNat n]

/-- The groups of parts in a row. -/
def allGroups? (isEnd : Bool) : List (List Char) → Option (List UInt16)
  | [] => some []
  | [part] => groups? part isEnd
  | part :: rest => do return (← groups? part false) ++ (← allGroups? isEnd rest)

/-- The groups on one side of two colons, where there may be none. -/
def side? (isEnd : Bool) (s : List Char) : Option (List UInt16) :=
  if s.isEmpty then some [] else allGroups? isEnd (Text.split ':' s)

/-- What stands on the two sides of the first two colons in a row. -/
def cutGap? : List Char → Option (List Char × List Char)
  | ':' :: ':' :: r => some ([], r)
  | c :: r => (cutGap? r).map fun (before, after) => (c :: before, after)
  | [] => none

/-- The address of eight groups. -/
def address6? (s : List Char) : Option (List UInt16) :=
  match cutGap? s with
  | some (before, after) => do
    let left ← side? false before
    let right ← side? true after
    if 7 < left.length + right.length then none
    else return left ++ List.replicate (8 - left.length - right.length) 0 ++ right
  | none => (allGroups? true (Text.split ':' s)).filter fun groups => groups.length = 8

/-- The number of zero groups at the start. -/
def zeroRow (groups : List UInt16) : Nat :=
  (groups.takeWhile (· = 0)).length

/-- Where the first of the longest rows of zero groups begins. -/
def longestZeroRow (groups : List UInt16) : Nat :=
  (List.range groups.length).foldl
    (fun best i => if zeroRow (groups.drop best) < zeroRow (groups.drop i) then i else best) 0

/-- Groups in base 16 with colons between them. -/
def groupsText (groups : List UInt16) : String :=
  Text.listed ":" (groups.map fun g => String.ofList (Nat.toDigits 16 g.toNat))

/-- The written form of an address of groups: two colons stand for the longest row of zero groups, if
it has two or more. -/
def address6Text (groups : List UInt16) : String :=
  let start := longestZeroRow groups
  let row := zeroRow (groups.drop start)
  if row < 2 then groupsText groups
  else groupsText (groups.take start) ++ "::" ++ groupsText (groups.drop (start + row))

example : address4? "0x7f.1".toList = some 0x7f000001 := by decide +kernel

example : address6? "1:0::FFFF:1.2.0.4".toList = some [1, 0, 0, 0, 0, 0xffff, 0x102, 4] := by
  decide +kernel

example : longestZeroRow [1, 0, 0, 2, 0, 0, 0, 4] = 4 := by decide

end Numeric
end Url
end AzureProvisioning
