/-
# Operations of the provider

Reading, creating, updating and deleting a declared resource. Attributes are checked and decoded before
anything is called, and every failure names the resource of the request. What a changing operation
reports is read again from the provider.
-/

import AzureProvisioning.Plan
import AzureProvisioning.Provider.Registry

namespace AzureProvisioning
namespace Provider

/-- The resource that an identifier names; another identifier is a fault. -/
def addressed (α : Type) [Managed α] (identifier : String) : Operation α :=
  match Managed.ofIdentifier? identifier with
  | some a => return a
  | none => .fail (.fault ("Invalid identifier: " ++ identifier))

/-- The state of a resource, read from the provider. -/
def refreshed {α : Type} [Managed α] (context : Context) (id : ResourceId) (a : α) :
    Operation State := do
  match ← Managed.refresh context a with
  | some a => return .present id (Managed.identifier? a) (Managed.toAttributes a)
  | none => return .absent id

/-- The state of what an identifier names. -/
def readAs (α : Type) [Managed α] (context : Context) (id : ResourceId)
    (identifier : Option String) : Operation State := do
  match identifier with
  | none => return .absent id
  | some identifier => refreshed context id (← addressed α identifier)

/-- Creates a declared resource. -/
def createAs (α : Type) [Managed α] (context : Context) (resource : Resource) :
    Operation State := do
  Program.ofCheck ((Managed.schema α).check resource.attributes)
  let declared : α ← Program.ofCheck (Managed.ofAttributes resource.attributes)
  let created ← Managed.create context declared
  match Managed.identifier? created with
  | some identifier => refreshed context resource.id (← addressed α identifier)
  | none => .fail (.fault "Provider did not return an identifier")

/-- What an update finds out before it calls anything. -/
structure Preparation (α : Type) where
  desired : α
  /-- The resource as it is known from the state. -/
  last : α
  /-- The attributes in which the two differ, sorted. -/
  changed : List String

/-- Checks and decodes what an update starts from. Both records are compared in the form that the type
gives them, so the spelling of selectors and regions does not count. -/
def prepare (α : Type) [Managed α] (identifier : String) (current : State) (declared : Resource) :
    Except ConfigurationError (Preparation α) := do
  let schema := Managed.schema α
  schema.check declared.attributes
  let desired : α ← Managed.ofAttributes declared.attributes
  let last : α ← Managed.ofAttributes (current.attributes.insert "id" (.string identifier))
  let changed ← Plan.changed schema (Managed.toAttributes desired) (Managed.toAttributes last)
  return { desired, last, changed }

/-- Brings a resource from its last known state to the declared one. -/
def updateAs (α : Type) [Managed α] (context : Context) (id : ResourceId) (identifier : String)
    (current : State) (declared : Resource) : Operation State := do
  let prepared ← Program.ofCheck (prepare α identifier current declared)
  if !prepared.changed.isEmpty then
    Managed.update context prepared.desired prepared.last prepared.changed
  refreshed context id (← addressed α identifier)

/-- Deletes what an identifier names. -/
def deleteAs (α : Type) [Managed α] (context : Context) (identifier : String) :
    Operation Unit := do
  Managed.delete context (← addressed α identifier)

/-- The operation for the type of a resource id, with the id in its failures. -/
def dispatch {β : Type} (id : ResourceId) (operation : ManagedType → Operation β) :
    Operation β :=
  Program.mapFailure (·.forResource id)
    (match ManagedType.ofName? id.type with
      | some type => operation type
      | none => .fail (.fault ("Unknown resource type: " ++ id.type)))

/-- Reads a resource. -/
def read (context : Context) (id : ResourceId) (identifier : Option String) : Operation State :=
  dispatch id fun t => readAs t.Record context id identifier

/-- Creates a resource. -/
def create (context : Context) (resource : Resource) : Operation State :=
  dispatch resource.id fun t => createAs t.Record context resource

/-- Updates a resource. -/
def update (context : Context) (id : ResourceId) (identifier : String) (current : State)
    (declared : Resource) : Operation State :=
  dispatch id fun t => updateAs t.Record context id identifier current declared

/-- Deletes a resource. -/
def delete (context : Context) (id : ResourceId) (identifier : String) : Operation Unit :=
  dispatch id fun t => deleteAs t.Record context identifier

end Provider
end AzureProvisioning
