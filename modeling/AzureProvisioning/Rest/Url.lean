/-
# Addresses

The absolute addresses that requests are sent to, in the normal form that they have on the way:
controls and blanks at the ends and line breaks anywhere are dropped, scheme and host are in small
letters, segments of one or two dots are resolved, and characters that may not stand in an address are
written as bytes.

`Url.parse?` reads an address; `none` means that it is not absolute or that its host is malformed.
Requests are sent to hosts of the schemes `http` and `https` alone (`Url.isSendable`), and without the
credentials that the address names (`Url.withoutCredentials`).
-/

import AzureProvisioning.Rest.Url.Authority
import AzureProvisioning.Rest.Url.Path

namespace AzureProvisioning

/-- The path of an address. -/
inductive Url.Path
  /-- The parts between its slashes. -/
  | segments (parts : List String)
  /-- A path that does not begin with a slash, as it is written. -/
  | text (s : String)
  deriving DecidableEq, Inhabited, Repr

/-- An absolute address in normal form. -/
structure Url where
  scheme : String
  /-- What follows two slashes, if the scheme is followed by two. -/
  authority : Option Url.Authority
  path : Url.Path
  query : Option String
  fragment : Option String
  deriving DecidableEq, Inhabited, Repr

namespace Url

/-- The path with the given segments. -/
def Path.ofParts (parts : List (List Char)) : Path :=
  .segments (parts.map String.ofList)

/-- The written form of a path. -/
def Path.toText : Path → String
  | segments [] => ""
  | segments parts => "/" ++ Text.listed "/" parts
  | text s => s

/-- Whether the character is a control or a blank. -/
def isEdge (c : Char) : Bool :=
  c.toNat ≤ 0x20

/-- The text without controls and blanks at its ends and without tabulators and line breaks. -/
def cleaned (s : List Char) : List Char :=
  ((s.dropWhile isEdge).reverse.dropWhile isEdge).reverse.filter fun c =>
    c != '\t' && c != '\n' && c != '\r'

/-- Authority and path of an address that always has a host. -/
def networkPlace? (form : Form) (s : List Char) : Option (Authority × Path) := do
  let (place, path) := cut form.isSlash (s.dropWhile form.isSlash)
  let (authority, _) ← Authority.parse? form place
  return (authority, .ofParts (Url.segments form path))

/-- Host and path of an address of a file. What looks like a drive after two slashes is no host, a path
that begins with a drive needs no host, and the host of the machine itself is left out. -/
def filePlace? (s : List Char) : Option (Authority × Path) := do
  let (host, path) ← match s with
    | a :: b :: r =>
      if Form.file.isSlash a && Form.file.isSlash b then
        let (place, path) := cut Form.file.isSlash r
        if isDrive place then some (Host.empty, r)
        else if place.isEmpty then some (Host.empty, path)
        else (Host.ofNetwork? place).map fun host => (host, path)
      else some (Host.empty, s)
    | _ => some (Host.empty, s)
  let isLeftOut := startsWithDrive path || host = .name "localhost"
  return ({ host := if isLeftOut then .empty else host }, .ofParts (fileSegments path))

/-- Authority and path of an address of any other scheme. -/
def otherPlace? (s : List Char) : Option (Option Authority × Path) :=
  match s with
  | '/' :: '/' :: r => do
    let (place, path) := cut (· == '/') r
    let (authority, left) ← Authority.parse? .other place
    let path := left ++ path
    return (some authority, .ofParts (if path.isEmpty then [] else Url.segments .other path))
  | '/' :: _ => some (none, .ofParts (Url.segments .other s))
  | _ => some (none, .text (String.ofList (percentEncode (fun _ => false) s)))

/-- Authority and path of an address. -/
def place? (form : Form) (s : List Char) : Option (Option Authority × Path) :=
  match form with
  | .network _ => (networkPlace? form s).map fun (authority, path) => (some authority, path)
  | .file => (filePlace? s).map fun (authority, path) => (some authority, path)
  | .other => otherPlace? s

/-- The characters that are written as bytes in a query; the apostrophe is one of them except where the
scheme has no rule of its own. -/
def Form.querySet (form : Form) (c : Char) : Bool :=
  Url.querySet c || (c == '\'' && form != .other)

/-- The text after the mark that it begins with, with the characters of a set written as bytes. -/
def marked? (set : Char → Bool) (s : List Char) : Option String :=
  if s.isEmpty then none else some (String.ofList (percentEncode set s.tail))

/-- Reads an absolute address. -/
def parse? (s : String) : Option Url := do
  let (scheme, rest) ← scheme? (cleaned s.toList)
  let form := Form.ofScheme scheme
  let (place, rest) := cut (fun c => c == '?' || c == '#') rest
  let (query, fragment) := cut (· == '#') rest
  let (authority, path) ← place? form place
  return {
    scheme
    authority
    path
    query := marked? form.querySet query
    fragment := marked? fragmentSet fragment }

/-- Whether the address names a host. -/
def hasHost (u : Url) : Bool :=
  u.authority.any fun a => !a.host.isEmpty

/-- The address without credentials, if they can be read. -/
def withoutCredentials (u : Url) : Url :=
  { u with authority := u.authority.map fun a =>
      if a.hasReadableCredentials then a.withoutCredentials else a }

/-- Path and query, as a request names them. -/
def target (u : Url) : String :=
  u.path.toText ++ (match u.query with
    | some q => "?" ++ q
    | none => "")

/-- What stands between the scheme and the path. A path without host that begins with two slashes is
set off, because what follows two slashes is a host. -/
def lead (u : Url) : String :=
  match u.authority, u.path with
  | some a, _ => "//" ++ a.text
  | none, .segments ("" :: _ :: _) => "/."
  | none, _ => ""

/-- The written form of an address. -/
def text (u : Url) : String :=
  u.scheme ++ ":" ++ u.lead ++ u.target ++ (match u.fragment with
    | some f => "#" ++ f
    | none => "")

/-- The length that the written form of the address of a request may have. -/
def maxLength : Nat := 65534

/-- Whether requests can be sent to the address. -/
def isSendable (u : Url) : Bool :=
  (u.scheme = "http" || u.scheme = "https") && u.authority.all (·.host.isSendable) &&
    u.text.utf8ByteSize ≤ maxLength

example : (parse? "HTTP://u:p@Host:80/a/../b c?q='x").map text = some "http://u:p@host/b%20c?q=%27x" := by
  decide +kernel

example : (parse? "file://h/c|/d").map text = some "file:///c:/d" := by decide +kernel

example : (parse? "a:/.//b").map text = some "a:/.//b" := by decide +kernel

example : parse? "/subscriptions" = none := by decide +kernel

end Url
end AzureProvisioning
