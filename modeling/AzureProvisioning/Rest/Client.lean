/-
# The client of the resource manager

The calls of the management service as exchanges with the resource manager. A request that succeeds
may announce a long-running operation, by the address of its status (`Azure-AsyncOperation`) or, with
status 202, by an address that answers 202 until the operation ends (`Location`); the client asks there
up to `maxPolls` times. A list comes in pages, each with the address of the next one.

Each request is one use of the HTTP library: a redirect is followed below the client, which sees the
response after it only.

Nothing but the answers bounds the number of pages, so the client has a budget of pages: a list that
goes on beyond it is cut off as `unfinished`. Any other result is the same with every larger budget.
-/

import AzureProvisioning.Json.Parser
import AzureProvisioning.Management
import AzureProvisioning.Rest.Exchange
import AzureProvisioning.Rest.Status
import AzureProvisioning.Settings
import AzureProvisioning.Text.Basic
import AzureProvisioning.Wire.Envelope

namespace AzureProvisioning

/-- A client of the resource manager. -/
structure Client where
  endpoint : String
  subscription : String
  token : String
  /-- How many pages of a list are asked for. -/
  pageBudget : Nat
  deriving DecidableEq, Inhabited, Repr

namespace Client

/-- The client with the given settings. -/
def ofSettings (settings : Settings) (pageBudget : Nat) : Client :=
  ⟨settings.endpoint, settings.subscription, settings.token, pageBudget⟩

/-- How often a client asks for the state of a long-running operation. -/
def maxPolls : Nat := 120

/-- The version of the account interface. -/
def accountVersion : String := "2021-04-15"

/-- The version of the group interface. -/
def groupVersion : String := "2021-04-01"

/-- The path of the subscription. -/
def subscriptionPath (client : Client) : String :=
  "/subscriptions/" ++ client.subscription

/-- The path of a group. -/
def groupPath (client : Client) (group : String) : String :=
  client.subscriptionPath ++ "/resourceGroups/" ++ group

/-- The path of an account. -/
def accountPath (client : Client) (group name : String) : String :=
  client.groupPath group ++ "/providers/Microsoft.DocumentDB/databaseAccounts/" ++ name

/-- The address of a path. -/
def address (client : Client) (path version : String) : String :=
  client.endpoint ++ path ++ "?api-version=" ++ version

/-- A request that could not be made or got no response. -/
def requestFailure (text : String) : Failure :=
  (Failure.fault ("Request to Resource Manager failed: " ++ text)).withCause text

/-- A response whose body is not what was asked for. -/
def decodeFailure : Failure :=
  (Failure.fault "Failed to decode response: error decoding response body").withCause
    "error decoding response body"

/-- What the body of an error says. -/
def errorDetail (body : String) : String :=
  match (Json.parse? body).bind ErrorDetail.ofBody? with
  | some e => e.text
  | none => Text.trimBlanks body

/-- The failure that a response without success reports. -/
def statusFailure (status : Nat) (body : String) : Failure :=
  let detail := errorDetail body
  let text := "Resource Manager returned " ++ Status.text status ++
    if detail.isEmpty then "" else ": " ++ detail
  if status = 404 then .notFound text else .fault text

/-- Whether the token may stand in a header: no controls other than tabulators. -/
def hasSendableToken (client : Client) : Bool :=
  client.token.toList.all fun c => c == '\t' || (0x20 ≤ c.toNat && c.toNat != 0x7f)

/-- What is said of an address that no request can be made for. -/
def refusal (url : Url) : String :=
  "builder error for url (" ++ url.text ++ ")"

/-- The request to an address, or what is said of one that cannot be made. The faults are looked for in
this order: the address is not absolute, it has no host, the token cannot stand in a header, requests
cannot be sent there. -/
def request (client : Client) (method : Method) (address : String) (body : Option Json) :
    Except String Request := do
  let some url := Url.parse? address | throw "builder error"
  if !url.hasHost then throw (refusal url)
  let url := url.withoutCredentials
  if !client.hasSendableToken then throw "builder error"
  if !url.isSendable then throw (refusal url)
  return { method, url, token := client.token, body }

/-- The response to a request; anything but success is a failure. -/
def send (client : Client) (method : Method) (address : String) (body : Option Json) :
    Exchange Response :=
  match client.request method address body with
  | .error text => .fail (requestFailure text)
  | .ok request => .ask request fun
    | none =>
      .fail (requestFailure ("error sending request for url (" ++ request.url.text ++ ")"))
    | some response =>
      if Status.isSuccess response.status then .done response
      else .fail (statusFailure response.status response.body)

/-- The value in the body of a response. -/
def decode {α : Type} (read : Json → Option α) (response : Response) : Exchange α :=
  match (Json.parse? response.body).bind read with
  | some a => .done a
  | none => .fail decodeFailure

/-- Sends a read request. -/
def sendGet (client : Client) (address : String) : Exchange Response := do
  Program.note .debug ("GET " ++ address)
  client.send .get address none

/-- The value at an address. -/
def get {α : Type} (client : Client) (read : Json → Option α) (address : String) :
    Exchange α := do
  decode read (← client.sendGet address)

/-- The value at an address; none when there is nothing. -/
def getOptional {α : Type} (client : Client) (read : Json → Option α) (address : String) :
    Exchange (Option α) := do
  match ← (client.sendGet address).attempt with
  | .ok response => return some (← decode read response)
  | .error e => if e.isNotFound then return none else .fail e

/-- The items of the page at an address and of the pages after it, up to `budget` pages. -/
def pages {α : Type} (client : Client) (read : Json → Option α) :
    Nat → String → Exchange (List α)
  | 0, _ => .unfinished
  | budget + 1, address => do
    let page ← client.get (Page.ofJson? read) address
    match page.nextLink.filter (!·.isEmpty) with
    | none => return page.items
    | some next => return page.items ++ (← pages client read budget next)

/-- The items of a list. -/
def list {α : Type} (client : Client) (read : Json → Option α) (address : String) :
    Exchange (List α) :=
  client.pages read client.pageBudget address

/-- Asks for the status of an operation until it ends. -/
def awaitStatus (client : Client) (address : String) : Nat → Exchange Unit
  | 0 => .fail (.fault "Operation timed out")
  | polls + 1 => do
    let status ← client.get OperationStatus.ofJson? address
    if status.status = "Succeeded" then return
    else if status.status = "Failed" then
      .fail (.fault ("Operation failed: " ++
        ((status.error.map ErrorDetail.text).getD "Unknown error")))
    else if status.status = "Canceled" then .fail (.fault "Operation was cancelled")
    else awaitStatus client address polls

/-- Asks at an address until it no longer answers 202. -/
def awaitLocation (client : Client) (address : String) : Nat → Exchange Unit
  | 0 => .fail (.fault "Operation timed out")
  | polls + 1 => do
    let response ← client.sendGet address
    if response.status != 202 then return else awaitLocation client address polls

/-- Waits for the long-running operation that a response announces, if it announces one. -/
def await (client : Client) (response : Response) : Exchange Unit :=
  match response.header? "Azure-AsyncOperation", response.header? "Location" with
  | some address, _ => client.awaitStatus address maxPolls
  | none, some address =>
    if response.status = 202 then client.awaitLocation address maxPolls else return
  | none, none => return

/-- Sends a request that changes something, and waits for its operation to end. -/
def mutate (client : Client) (method : Method) (address : String) (body : Option Json) :
    Exchange Unit := do
  Program.note .debug (method.name ++ " " ++ address)
  client.await (← client.send method address body)

/-- The address of an account. -/
def accountAddress (client : Client) (group name : String) : String :=
  client.address (client.accountPath group name) accountVersion

/-- The address of a group. -/
def groupAddress (client : Client) (name : String) : String :=
  client.address (client.groupPath name) groupVersion

/-- The end of the path of a list of accounts. -/
def accountsPath : String := "/providers/Microsoft.DocumentDB/databaseAccounts"

/-- The exchange of a call. -/
def perform (client : Client) : (c : Call) → Exchange c.Reply
  | .getAccount group name =>
    client.getOptional DatabaseAccount.ofJson? (client.accountAddress group name)
  | .listAccounts =>
    client.list DatabaseAccount.ofJson?
      (client.address (client.subscriptionPath ++ accountsPath) accountVersion)
  | .listAccountsIn group => do
    let listed ← (client.list DatabaseAccount.ofJson?
      (client.address (client.groupPath group ++ accountsPath) accountVersion)).attempt
    match listed with
    | .ok items => return items
    | .error e => if e.isNotFound then return [] else .fail e
  | .putAccount group name account => do
    client.mutate .put (client.accountAddress group name) (some account.toJson)
    client.get DatabaseAccount.ofJson? (client.accountAddress group name)
  | .patchAccount group name update => do
    client.mutate .patch (client.accountAddress group name) (some update.toJson)
    client.get DatabaseAccount.ofJson? (client.accountAddress group name)
  | .changePriorities group name policies =>
    client.mutate .post
      (client.address (client.accountPath group name ++ "/failoverPriorityChange") accountVersion)
      (some (FailoverPolicy.listToJson policies))
  | .deleteAccount group name => client.mutate .delete (client.accountAddress group name) none
  | .getGroup name => client.getOptional ResourceGroup.ofJson? (client.groupAddress name)
  | .listGroups =>
    client.list ResourceGroup.ofJson?
      (client.address (client.subscriptionPath ++ "/resourcegroups") groupVersion)
  | .putGroup name group => do
    client.mutate .put (client.groupAddress name) (some group.toJson)
    client.get ResourceGroup.ofJson? (client.groupAddress name)
  | .setGroupTags name tags => do
    client.mutate .patch (client.groupAddress name)
      (some (.object [("tags", Json.ofStringMap tags)]))
    client.get ResourceGroup.ofJson? (client.groupAddress name)
  | .deleteGroup name => client.mutate .delete (client.groupAddress name) none

/-- The answer to a call, as an exchange. -/
def answer (client : Client) (c : Call) : Exchange c.Answer :=
  (client.perform c).attempt

/-- An operation as an exchange with the resource manager. -/
def exchange {α : Type} (client : Client) (operation : Operation α) : Exchange α :=
  operation.answerBy client.answer

end Client
end AzureProvisioning
