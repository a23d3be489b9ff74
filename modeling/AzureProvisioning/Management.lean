/-
# The management service

The calls that operations make on the management service, and what each call answers. An operation is
a program of such calls: it says what is called with which arguments, whoever answers.

| objects | read | written |
| --- | --- | --- |
| accounts | `getAccount`, `listAccounts`, `listAccountsIn` | `putAccount`, `patchAccount`, `changePriorities`, `deleteAccount` |
| groups | `getGroup`, `listGroups` | `putGroup`, `setGroupTags`, `deleteGroup` |

What works on a record that its caller holds is a `Revision`: it says what becomes of the record on every
path, those that end with a failure too.
-/

import AzureProvisioning.ArmId
import AzureProvisioning.Program
import AzureProvisioning.Text.Quoted
import AzureProvisioning.Wire.Account
import AzureProvisioning.Wire.Group

namespace AzureProvisioning

/-- A call of the management service. -/
inductive Call
  | getAccount (group name : String)
  | listAccounts
  | listAccountsIn (group : String)
  /-- Writes the whole account. -/
  | putAccount (group name : String) (account : DatabaseAccount)
  /-- Writes the properties that are set. -/
  | patchAccount (group name : String) (update : AccountUpdate)
  /-- Gives every region of the account a priority. -/
  | changePriorities (group name : String) (policies : List FailoverPolicy)
  | deleteAccount (group name : String)
  | getGroup (name : String)
  | listGroups
  /-- Writes the whole group. -/
  | putGroup (name : String) (group : ResourceGroup)
  /-- Replaces the tags of the group. -/
  | setGroupTags (name : String) (tags : Dictionary String String)
  | deleteGroup (name : String)
  deriving DecidableEq, Inhabited, Repr

namespace Call

/-- What a call answers when it succeeds. -/
abbrev Reply : Call → Type
  | getAccount .. => Option DatabaseAccount
  | listAccounts => List DatabaseAccount
  | listAccountsIn .. => List DatabaseAccount
  | putAccount .. => DatabaseAccount
  | patchAccount .. => DatabaseAccount
  | changePriorities .. => Unit
  | deleteAccount .. => Unit
  | getGroup .. => Option ResourceGroup
  | listGroups => List ResourceGroup
  | putGroup .. => ResourceGroup
  | setGroupTags .. => ResourceGroup
  | deleteGroup .. => Unit

/-- What a call answers. -/
abbrev Answer (c : Call) : Type :=
  Except Failure c.Reply

/-- Whether the call may change an object. -/
def isMutating : Call → Bool
  | getAccount .. | listAccounts | listAccountsIn .. | getGroup .. | listGroups => false
  | _ => true

end Call

/-- A program of calls. -/
abbrev Operation (α : Type) : Type :=
  Program Call Call.Answer α

/-- The operation of one call. -/
def Operation.request (c : Call) : Operation c.Reply :=
  .ask c Program.ofExcept

/-- An operation on a record that its caller holds. Wherever it ends, it leaves a record, beside what it
returns or the failure that it ends with. -/
def Revision (ρ β : Type) : Type :=
  ρ → Operation (Except Failure β × ρ)

namespace Revision

variable {ρ β γ : Type}

/-- Returns the value and leaves the record as it is. -/
def pure (value : β) : Revision ρ β := fun record => .done (.ok value, record)

/-- What follows a revision that has ended: a failure is the end, and the record stays what it is by then.
-/
def next (f : β → Revision ρ γ) : Except Failure β × ρ → Operation (Except Failure γ × ρ)
  | (.ok value, record) => f value record
  | (.error e, record) => .done (.error e, record)

/-- Goes on with what the first revision returns. -/
def bind (m : Revision ρ β) (f : β → Revision ρ γ) : Revision ρ γ := fun record =>
  (m record).bind (next f)

instance : Monad (Revision ρ) where
  pure := pure
  bind := bind

/-- A step that does not touch the record. -/
def step (p : Operation β) : Revision ρ β := fun record => do
  return (← p.attempt, record)

/-- The record as it is. -/
def record : Revision ρ ρ := fun record => .done (.ok record, record)

/-- Puts another record in place of the one that is held. -/
def replace (after : ρ) : Revision ρ Unit := fun _ => .done (.ok (), after)

/-- The record that the revision leaves; its failure is one of the operation. -/
def left (m : Revision ρ Unit) (before : ρ) : Operation ρ := do
  let (result, after) ← m before
  Program.ofExcept (result.map fun () => after)

/-- The record that the revision leaves when it returns true, and none when it returns false. -/
def found (m : Revision ρ Bool) (before : ρ) : Operation (Option ρ) := do
  let (result, after) ← m before
  Program.ofExcept (result.map fun isFound => if isFound then some after else none)

end Revision

/-- Where operations take place. -/
structure Context where
  /-- The subscription of every call. -/
  subscription : String
  /-- The region of new objects. -/
  region : String
  deriving DecidableEq, Inhabited, Repr

namespace Context

/-- Whether calls reach what the id names. -/
def owns (context : Context) (id : ArmId) : Bool :=
  Text.sameFolded id.subscription context.subscription

/-- How a context is shown. -/
def shown (context : Context) : String :=
  "ProviderContext \x7b subscription_id: " ++ Text.quoted context.subscription ++
    ", region: " ++ Text.quoted context.region ++ ", .. \x7d"

end Context
end AzureProvisioning
