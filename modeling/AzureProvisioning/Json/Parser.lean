/-
# Reading JSON

`Json.parse?` reads one value from a text; blanks around it are allowed, any other text after it is
not. The grammar is the strict one: no leading zeros, no bare decimal point, no trailing comma, no
control character in a text.
-/

import AzureProvisioning.Json.Basic
import AzureProvisioning.Text.Basic

namespace AzureProvisioning
namespace Json
namespace Parser

/-- Blank, tabulator and line breaks. -/
def isBlank (c : Char) : Bool :=
  c == ' ' || c == '\t' || c == '\n' || c == '\r'

/-- The text after its blanks. -/
def skip (s : List Char) : List Char :=
  s.dropWhile isBlank

/-- The character that a letter after a backslash stands for. -/
def escape? : Char → Option Char
  | '"' => some '"'
  | '\\' => some '\\'
  | '/' => some '/'
  | 'b' => some '\x08'
  | 'f' => some '\x0c'
  | 'n' => some '\n'
  | 'r' => some '\r'
  | 't' => some '\t'
  | _ => none

/-- The code points of a text up to its closing quotation mark, and what follows. Halves of surrogate
pairs are still apart. -/
def points? : List Char → Option (List Nat × List Char)
  | '"' :: r => some ([], r)
  | '\\' :: 'u' :: a :: b :: c :: d :: r => do
    let n ← Text.natural? 16 [a, b, c, d]
    let (ns, r) ← points? r
    return (n :: ns, r)
  | '\\' :: c :: r => do
    let e ← escape? c
    let (ns, r) ← points? r
    return (e.toNat :: ns, r)
  | c :: r =>
    if c = '\\' || c.toNat < 0x20 then none
    else do
      let (ns, r) ← points? r
      return (c.toNat :: ns, r)
  | [] => none

/-- The characters of code points, halves of surrogate pairs joined; none when a half is alone. -/
def characters? : List Nat → Option (List Char)
  | [] => some []
  | [n] => if 0xD800 ≤ n && n ≤ 0xDFFF then none else some [Char.ofNat n]
  | n :: m :: ns =>
    if 0xD800 ≤ n && n ≤ 0xDBFF && 0xDC00 ≤ m && m ≤ 0xDFFF then
      (characters? ns).map (Char.ofNat (0x10000 + (n - 0xD800) * 0x400 + (m - 0xDC00)) :: ·)
    else if 0xD800 ≤ n && n ≤ 0xDFFF then none
    else (characters? (m :: ns)).map (Char.ofNat n :: ·)

/-- A text after its opening quotation mark; its value is none when half of a surrogate pair is
alone. -/
def text? (s : List Char) : Option (Option String × List Char) := do
  let (ns, r) ← points? s
  return ((characters? ns).map String.ofList, r)

/-- One digit or more, and what follows. -/
def digits? (s : List Char) : Option (List Char × List Char) :=
  let ds := s.takeWhile Char.isDigit
  if ds.isEmpty then none else some (ds, s.dropWhile Char.isDigit)

/-- What follows a fraction, if there is one, and whether there is. -/
def fraction? : List Char → Option (Bool × List Char)
  | '.' :: s => (digits? s).map fun (_, r) => (true, r)
  | s => some (false, s)

/-- What follows an exponent, if there is one, and whether there is. -/
def exponent? : List Char → Option (Bool × List Char)
  | c :: s =>
    if c = 'e' || c = 'E' then
      match s with
      | '+' :: s => (digits? s).map fun (_, r) => (true, r)
      | '-' :: s => (digits? s).map fun (_, r) => (true, r)
      | s => (digits? s).map fun (_, r) => (true, r)
    else some (false, c :: s)
  | [] => some (false, [])

/-- A number and what follows. -/
def number? (s : List Char) : Option (Json × List Char) := do
  let (negative, s) := match s with
    | '-' :: s => (true, s)
    | s => (false, s)
  let (ds, r) ← digits? s
  if ds.head? = some '0' && ds.length != 1 then none
  else
    let (isFraction, r) ← fraction? r
    let (isExponent, r) ← exponent? r
    let n ← Text.natural? 10 ds
    if isFraction || isExponent || (negative && n = 0) then return (unreadable, r)
    else return (int (if negative then -(n : Int) else n), r)

/-- The object of members; unreadable when one of the keys is. -/
def objectOf (members : List (Option String × Json)) : Json :=
  match members.mapM fun m => m.1.map (·, m.2) with
  | some members => object members
  | none => unreadable

mutual

/-- A value and what follows it; `fuel` bounds the steps. -/
def value? (fuel : Nat) (s : List Char) : Option (Json × List Char) :=
  match fuel with
  | 0 => none
  | fuel + 1 =>
    match skip s with
    | 'n' :: 'u' :: 'l' :: 'l' :: r => some (null, r)
    | 't' :: 'r' :: 'u' :: 'e' :: r => some (bool true, r)
    | 'f' :: 'a' :: 'l' :: 's' :: 'e' :: r => some (bool false, r)
    | '"' :: r => (text? r).map fun (t, r) => ((t.map string).getD unreadable, r)
    | '[' :: r =>
      match skip r with
      | ']' :: r => some (array [], r)
      | r => (items? fuel r).map fun (vs, r) => (array vs, r)
    | '\x7b' :: r =>
      match skip r with
      | '\x7d' :: r => some (object [], r)
      | r => (members? fuel r).map fun (ms, r) => (objectOf ms, r)
    | s => number? s

/-- The items of an array, at least one, up to its end. -/
def items? (fuel : Nat) (s : List Char) : Option (List Json × List Char) :=
  match fuel with
  | 0 => none
  | fuel + 1 =>
    match value? fuel s with
    | none => none
    | some (v, r) =>
      match skip r with
      | ',' :: r => (items? fuel r).map fun (vs, r) => (v :: vs, r)
      | ']' :: r => some ([v], r)
      | _ => none

/-- The members of an object, at least one, up to its end. -/
def members? (fuel : Nat) (s : List Char) : Option (List (Option String × Json) × List Char) :=
  match fuel with
  | 0 => none
  | fuel + 1 =>
    match skip s with
    | '"' :: r =>
      match text? r with
      | none => none
      | some (key, r) =>
        match skip r with
        | ':' :: r =>
          match value? fuel r with
          | none => none
          | some (v, r) =>
            match skip r with
            | ',' :: r => (members? fuel r).map fun (ms, r) => ((key, v) :: ms, r)
            | '\x7d' :: r => some ([(key, v)], r)
            | _ => none
        | _ => none
    | _ => none

end

end Parser

/-- Reads a value. Each step of the reader takes a character at least every second time. -/
def parse? (s : String) : Option Json :=
  match Parser.value? (2 * s.length + 2) s.toList with
  | some (v, r) => if (Parser.skip r).isEmpty then some v else none
  | none => none

end Json
end AzureProvisioning
