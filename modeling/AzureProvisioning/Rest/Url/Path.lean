/-
# Paths of addresses

The segments of a path are the parts between its slashes. A segment of one dot stands for nothing and
one of two dots takes away the segment before it; either leaves an empty segment when it is the last
one. A dot may be written as a byte. The letter of a drive is never taken away.
-/

import AzureProvisioning.Rest.Url.Percent
import AzureProvisioning.Rest.Url.Scheme
import AzureProvisioning.Text.Split

namespace AzureProvisioning
namespace Url

/-- The text of a segment with the written forms of the dot replaced by it. -/
def plainDots : List Char → List Char
  | '%' :: '2' :: c :: r =>
    if c = 'e' || c = 'E' then '.' :: plainDots r else '%' :: '2' :: plainDots (c :: r)
  | c :: r => c :: plainDots r
  | [] => []

/-- Whether the segment names a drive: a letter, and a colon or a bar. -/
def isDrive : List Char → Bool
  | [letter, mark] => letter.isAlpha && (mark == ':' || mark == '|')
  | _ => false

/-- The segments without the nearest one, unless that names a drive. -/
def dropSegment (done : List (List Char)) : List (List Char) :=
  if done.head?.any isDrive then done else done.tail

/-- Takes the next segment of a path onto those before it, the nearest first. -/
def pushSegment (done : List (List Char)) (segment : List Char) (isLast : Bool) :
    List (List Char) :=
  if plainDots segment = ['.', '.'] then
    if isLast then [] :: dropSegment done else dropSegment done
  else if plainDots segment = ['.'] then
    if isLast then [] :: done else done
  else percentEncode pathSet segment :: done

/-- The segments of a path with dot segments resolved, the last one first. -/
def resolve (done : List (List Char)) : List (List Char) → List (List Char)
  | [] => done
  | [segment] => pushSegment done segment true
  | segment :: rest => resolve (pushSegment done segment false) rest

/-- The segments of a path; one slash at its start separates nothing. -/
def segments (form : Form) (s : List Char) : List (List Char) :=
  let slashed := s.map fun c => if form.isSlash c then '/' else c
  let rest := if slashed.head? = some '/' then slashed.tail else slashed
  (resolve [] (Text.split '/' rest)).reverse

/-- The segments of a path of a file: a drive at the start has a colon, and there is no empty segment
before any other one. -/
def fileSegments (s : List Char) : List (List Char) :=
  match segments .file s with
  | first :: rest =>
    if isDrive first then (first.take 1 ++ [':']) :: rest
    else
      match (first :: rest).dropWhile List.isEmpty with
      | [] => [[]]
      | kept => kept
  | [] => [[]]

/-- Whether the path of a file begins with a drive. -/
def startsWithDrive (s : List Char) : Bool :=
  (segments .file s).head?.any isDrive

example : segments (.network 80) "/a/../b/./%2E%2e".toList = [[]] := by decide

example : segments .other "/C:/..".toList = ["C:".toList, []] := by decide

example : fileSegments "/c|/d".toList = ["c:".toList, "d".toList] := by decide

end Url
end AzureProvisioning
