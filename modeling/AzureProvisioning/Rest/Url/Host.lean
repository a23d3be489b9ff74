/-
# Hosts of addresses

The host of a network address is a domain name in its form in ASCII, or numeric: a name whose last label
is a number has to be an address of four bytes, and brackets stand around an address of eight groups.
Schemes without a rule of their own keep a host as it is written, if it is not in brackets.
-/

import AzureProvisioning.Idna.Domain
import AzureProvisioning.Rest.Url.Numeric
import AzureProvisioning.Rest.Url.Percent

namespace AzureProvisioning
namespace Url

/-- The host of an address; the empty name stands for no host. -/
inductive Host
  | name (text : String)
  | address4 (value : UInt32)
  | address6 (groups : List UInt16)
  deriving DecidableEq, Inhabited, Repr

namespace Host

/-- No host. -/
def empty : Host := name ""

/-- Whether there is no host. -/
def isEmpty (host : Host) : Bool :=
  host = empty

/-- The written form of a host. -/
def text : Host → String
  | name text => text
  | address4 value => Numeric.address4Text value
  | address6 groups => "[" ++ Numeric.address6Text groups ++ "]"

/-- The host between brackets. -/
def ofBrackets? (s : List Char) : Option Host :=
  if s.getLast? = some ']' then (Numeric.address6? s.tail.dropLast).map address6 else none

/-- Whether the character may stand in the name of a network host. -/
def isNameChar (c : Char) : Bool :=
  0x21 ≤ c.toNat && c.toNat < 0x7f &&
    !(c == '#' || c == '%' || c == '/' || c == ':' || c == '<' || c == '>' || c == '?' || c == '@' ||
      c == '[' || c == '\\' || c == ']' || c == '^' || c == '|')

/-- Whether the character may stand in a host that is kept as it is written. -/
def isKeptChar (c : Char) : Bool :=
  !(c == '\x00' || c == '\t' || c == '\n' || c == '\r' || c == ' ' || c == '#' || c == '/' ||
    c == ':' || c == '<' || c == '>' || c == '?' || c == '@' || c == '[' || c == '\\' || c == ']' ||
    c == '^' || c == '|')

/-- Whether the name may stand in the head of a request. -/
def isSendable (host : Host) : Bool :=
  host.text.toList.all fun c => !(c == '"' || c == '`' || c == '\x7b' || c == '\x7d')

/-- The host of a network address. -/
def ofNetwork? (s : List Char) : Option Host := do
  if s.head? = some '[' then ofBrackets? s
  else
    let name ← Idna.toAscii? (← percentDecoded? s).toList
    if name.isEmpty || !name.all isNameChar then none
    else if Numeric.endsInNumber name then (Numeric.address4? name).map address4
    else return .name (String.ofList name)

/-- The host of an address whose scheme has no rule of its own. -/
def ofOther? (s : List Char) : Option Host :=
  if s.head? = some '[' then ofBrackets? s
  else if s.all isKeptChar then some (.name (String.ofList (percentEncode (fun _ => false) s)))
  else none

end Host
end Url
end AzureProvisioning
