/-
# Managed types

A type of resources that the provider manages: its schema, the conversion from and to attributes, what
an identifier of the provider names, and the lifecycle as programs of calls. A refresh and a creation work
on a record, and say what becomes of it on every path.
-/

import AzureProvisioning.Account.Lifecycle
import AzureProvisioning.Group.Lifecycle

namespace AzureProvisioning

/-- A type of managed resources. -/
class Managed (α : Type) where
  schema : Schema
  ofAttributes : Attributes → Except ConfigurationError α
  toAttributes : α → Attributes
  /-- The resource that an identifier of the provider names. -/
  ofIdentifier? : String → Option α
  /-- What the provider calls the resource. -/
  identifier? : α → Option String
  /-- Takes over the resource as the provider has it; whether the provider has it. -/
  refreshing : Context → Revision α Bool
  /-- Creates the object, and takes over the fields that the provider assigned. -/
  creating : Context → Revision α Unit
  /-- Brings the second resource to the first one. -/
  update : Context → α → α → List String → Operation Unit
  delete : Context → α → Operation Unit

namespace Managed

variable {α : Type} [Managed α]

/-- The resource as the provider has it; none when it has no such object. -/
def refresh (context : Context) (a : α) : Operation (Option α) :=
  (refreshing context).found a

/-- Creates the object; the result has the fields that the provider assigned. -/
def create (context : Context) (a : α) : Operation α :=
  (creating context).left a

end Managed

instance : Managed Account where
  schema := Account.schema
  ofAttributes := Account.ofAttributes
  toAttributes := Account.toAttributes
  ofIdentifier? := Account.ofIdentifier?
  identifier? := Account.id
  refreshing := Account.refreshing
  creating := Account.creating
  update := Account.update
  delete := Account.delete

instance : Managed Group where
  schema := Group.schema
  ofAttributes := Group.ofAttributes
  toAttributes := Group.toAttributes
  ofIdentifier? := Group.ofIdentifier?
  identifier? := Group.id
  refreshing := Group.refreshing
  creating := Group.creating
  update := Group.update
  delete := Group.delete

end AzureProvisioning
