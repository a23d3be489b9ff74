/-
# Resources and states

A resource is what a declaration asks for; a state is what the provider reports of it.
-/

import AzureProvisioning.Value

namespace AzureProvisioning

/-- A resource of a declaration: its type and the name that the declaration gives it. -/
structure ResourceId where
  type : String
  name : String
  deriving DecidableEq, Inhabited, Repr

/-- The written form of a resource id. -/
def ResourceId.text (id : ResourceId) : String :=
  id.type ++ "." ++ id.name

/-- A declared resource. -/
structure Resource where
  id : ResourceId
  attributes : Attributes
  deriving Inhabited, Repr

/-- A resource as the provider reports it. -/
structure State where
  id : ResourceId
  /-- What the provider calls the object. -/
  identifier : Option String
  attributes : Attributes
  /-- Whether there is an object at all. -/
  found : Bool
  deriving Inhabited, Repr

namespace State

/-- The state of a resource that the provider does not have. -/
def absent (id : ResourceId) : State :=
  ⟨id, none, [], false⟩

/-- The state of an object that the provider has. -/
def present (id : ResourceId) (identifier : Option String) (attributes : Attributes) : State :=
  ⟨id, identifier, attributes, true⟩

end State
end AzureProvisioning
