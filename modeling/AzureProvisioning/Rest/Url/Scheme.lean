/-
# Schemes of addresses

An address begins with the name of its scheme and a colon. The scheme decides how the rest is read.

| scheme | form | usual number after the host |
| --- | --- | ---: |
| `http`, `ws` | network | 80 |
| `https`, `wss` | network | 443 |
| `ftp` | network | 21 |
| `file` | file | |
| any other | other | |
-/

namespace AzureProvisioning
namespace Url

/-- How the addresses of a scheme are read. -/
inductive Form
  /-- Always with a host; any row of slashes stands before it. -/
  | network (usualNumber : Nat)
  /-- With a host or without one; the path may begin with the letter of a drive. -/
  | file
  /-- With a host after two slashes only. -/
  | other
  deriving DecidableEq, Inhabited, Repr

/-- How the addresses of the scheme are read. -/
def Form.ofScheme (scheme : String) : Form :=
  if scheme = "http" || scheme = "ws" then .network 80
  else if scheme = "https" || scheme = "wss" then .network 443
  else if scheme = "ftp" then .network 21
  else if scheme = "file" then .file
  else .other

/-- Whether the character separates the segments of a path: a backslash counts as a slash in the
schemes of the table. -/
def Form.isSlash (form : Form) (c : Char) : Bool :=
  c == '/' || (c == '\\' && form != .other)

/-- What stands before the first character of a kind, and that character with what follows. -/
def cut (p : Char → Bool) (s : List Char) : List Char × List Char :=
  (s.takeWhile fun c => !p c, s.dropWhile fun c => !p c)

/-- The scheme of an address in small letters, and what follows the colon. -/
def scheme? (s : List Char) : Option (String × List Char) :=
  let (scheme, rest) := cut (· == ':') s
  if rest.isEmpty || !(scheme.head?.any Char.isAlpha) ||
      !scheme.all (fun c => c.isAlphanum || c == '+' || c == '-' || c == '.') then none
  else some (String.ofList (scheme.map Char.toLower), rest.tail)

end Url
end AzureProvisioning
