/-
# Exchanges

Requests to the resource manager and the responses to them. An exchange is a program of requests;
whoever answers may also close the connection without a response.

A request stands for what is handed to the HTTP library, and the response for what the library hands
back. The library follows redirects on its own, so there may be several messages on the wire between the
two; the response is the one at the end of the redirects.
-/

import AzureProvisioning.Json.Basic
import AzureProvisioning.Program
import AzureProvisioning.Rest.Url
import AzureProvisioning.Text.Basic

namespace AzureProvisioning

/-- What a request asks for. -/
inductive Method
  | get
  | put
  | patch
  | post
  | delete
  deriving DecidableEq, Inhabited, Repr

/-- The name of a method on the way. -/
def Method.name : Method → String
  | get => "GET"
  | put => "PUT"
  | patch => "PATCH"
  | post => "POST"
  | delete => "DELETE"

/-- A request, as the HTTP library is given it. -/
structure Request where
  method : Method
  url : Url
  token : String
  body : Option Json
  deriving Inhabited, Repr

/-- The credentials that a request carries. -/
def Request.authorization (r : Request) : String :=
  "Bearer " ++ r.token

/-- A response, as the HTTP library gives it back: the one after all redirects. -/
structure Response where
  status : Nat
  headers : List (String × String) := []
  body : String := ""
  deriving DecidableEq, Inhabited, Repr

/-- Whether a header value is readable: visible ASCII characters, blanks and tabulators. -/
def Response.isReadable (value : String) : Bool :=
  value.toList.all fun c => c == '\t' || (0x20 ≤ c.toNat && c.toNat < 0x7f)

/-- The first header of this name, in any letter case, if it is readable. -/
def Response.header? (r : Response) (name : String) : Option String :=
  ((r.headers.find? fun h => Text.sameFolded h.1 name).map (·.2)).filter Response.isReadable

/-- A program of requests; none stands for a connection closed without a response. -/
abbrev Exchange (α : Type) : Type :=
  Program Request (fun _ => Option Response) α

end AzureProvisioning
