/-
# Registered types

The resource types of the provider, by name.
-/

import AzureProvisioning.Provider.Managed

namespace AzureProvisioning
namespace Provider

/-- The name of the provider. -/
def name : String := "azure"

/-- A registered resource type. -/
inductive ManagedType
  | account
  | group
  deriving DecidableEq, Inhabited, Repr

namespace ManagedType

/-- All registered types, in order. -/
def all : List ManagedType := [account, group]

/-- The name of a type in resource ids. -/
def name : ManagedType → String
  | account => Account.resourceType
  | group => Group.resourceType

/-- The records of a type. -/
abbrev Record : ManagedType → Type
  | account => Account
  | group => Group

instance (t : ManagedType) : Managed t.Record :=
  match t with
  | account => inferInstanceAs (Managed Account)
  | group => inferInstanceAs (Managed Group)

/-- The schema of a type. -/
def schema (t : ManagedType) : Schema :=
  Managed.schema t.Record

/-- The type of this name. -/
def ofName? (s : String) : Option ManagedType :=
  all.find? fun t => t.name = s

end ManagedType
end Provider
end AzureProvisioning
