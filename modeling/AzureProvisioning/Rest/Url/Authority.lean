/-
# Authorities of addresses

What stands between the two slashes and the path: perhaps the credentials of a user before the last
at sign, the host, and perhaps a number after a colon. The usual number of a scheme is left out.
-/

import AzureProvisioning.Rest.Url.Host
import AzureProvisioning.Rest.Url.Scheme

namespace AzureProvisioning
namespace Url

/-- Credentials, host and number of an address. -/
structure Authority where
  /-- User and password as they are written in the address. -/
  user : String := ""
  password : Option String := none
  host : Host
  number : Option Nat := none
  deriving DecidableEq, Inhabited, Repr

namespace Authority

/-- Whether the authority has credentials. -/
def hasCredentials (a : Authority) : Bool :=
  !a.user.isEmpty || a.password.isSome

/-- The written form of an authority. -/
def text (a : Authority) : String :=
  a.user ++ (match a.password with
    | some p => ":" ++ p
    | none => "") ++
  (if a.hasCredentials then "@" else "") ++ a.host.text ++ (match a.number with
    | some n => ":" ++ toString n
    | none => "")

/-- What stands before the last at sign, if there is one, and what follows it. -/
def cutCredentials (s : List Char) : Option (List Char) × List Char :=
  let (place, rest) := cut (· == '@') s.reverse
  (if rest.isEmpty then none else some rest.tail.reverse, place.reverse)

/-- User and password: a colon stands between them, and an empty password is none. -/
def credentials (s : List Char) : String × Option String :=
  let (user, rest) := cut (· == ':') s
  let encode := fun t => String.ofList (percentEncode credentialSet t)
  (encode user, if rest.length ≤ 1 then none else some (encode rest.tail))

/-- The host at the start of a text and what follows it: a colon ends it, but not in brackets. -/
def cutHost (inBrackets : Bool) : List Char → List Char × List Char
  | [] => ([], [])
  | c :: r =>
    if c = ':' && !inBrackets then ([], c :: r)
    else
      let (host, rest) := cutHost (c = '[' || (inBrackets && c != ']')) r
      (c :: host, rest)

/-- The number after a host, if there is one, and what follows it, from a backslash on. -/
def number? (form : Form) : List Char → Option (Option Nat × List Char)
  | ':' :: r => do
    let (digits, rest) := cut (· == '\\') r
    let n ← Text.natural? 10 digits
    if 65535 < n then none
    else if digits.isEmpty || form = .network n then return (none, rest)
    else return (some n, rest)
  | s => some (none, s)

/-- The host of the form. -/
def host? : Form → List Char → Option Host
  | .other, s => Host.ofOther? s
  | _, s => Host.ofNetwork? s

/-- Reads an authority. A number or credentials belong to a host. -/
def parse? (form : Form) (s : List Char) : Option (Authority × List Char) := do
  let (info, place) := cutCredentials s
  let (user, password) := credentials (info.getD [])
  let (host, rest) := cutHost false place
  let host ← host? form host
  let (number, left) ← number? form rest
  let authority : Authority := { user, password, host, number }
  if host.isEmpty && (authority.hasCredentials || !rest.isEmpty || (info.isSome && s.length = 1)) then
    none
  else return (authority, left)

/-- The authority without credentials. -/
def withoutCredentials (a : Authority) : Authority :=
  { a with user := "", password := none }

/-- Whether the credentials can be read: the user is written in UTF-8, and one of user and password is
there. -/
def hasReadableCredentials (a : Authority) : Bool :=
  match percentDecoded? a.user.toList with
  | some user => !user.isEmpty || (a.password.bind fun p => percentDecoded? p.toList).isSome
  | none => false

end Authority
end Url
end AzureProvisioning
