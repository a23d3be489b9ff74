/-
# Resource groups

A resource group as a declaration or the service describes it.
-/

import AzureProvisioning.Attributes.Reading
import AzureProvisioning.Group.Name
import AzureProvisioning.Management
import AzureProvisioning.Region.Basic
import AzureProvisioning.Schema.Basic

namespace AzureProvisioning

/-- A resource group. -/
structure Group where
  name : String := ""
  /-- The region of the context when there is none. -/
  location : Option String := none
  tags : Dictionary String String := []
  /-- Assigned by the service, like the field after it. -/
  id : Option String := none
  provisioningState : Option String := none
  deriving DecidableEq, Inhabited, Repr

namespace Group

/-- The type of declared groups. -/
def resourceType : String := "resource_group"

/-- What a group is called in texts. -/
def displayName (g : Group) : String :=
  "resource group '" ++ g.name ++ "'"

/-- The attributes of a declared group. -/
def schema : Schema :=
  .ofList resourceType (some "An Azure resource group") [
    { name := "name", type := GroupName.type, required := true, mutability := .immutable },
    { name := "location", type := .string, mutability := .immutable },
    { name := "tags", type := .stringMap },
    { name := "id", type := .string, mutability := .output },
    { name := "provisioning_state", type := .string, mutability := .output,
      providerName := some "properties.provisioningState" }]

/-- The group that attributes describe. -/
def ofAttributes (attributes : Attributes) : Except ConfigurationError Group := do
  return {
    name := ← attributes.requiredString "name"
    location := (← attributes.optionalString "location").map Region.normalize
    tags := ← attributes.stringMap "tags"
    id := ← attributes.optionalString "id"
    provisioningState := ← attributes.optionalString "provisioning_state" }

/-- The attributes of a group that can be declared, set or not. -/
def declaredFields (g : Group) : List (String × Option Value) :=
  [ ("name", some (.string g.name)),
    ("location", g.location.map .string),
    ("tags", some (.ofStringMap g.tags))]

/-- The attributes of a group that the service assigns, set or not. -/
def assignedFields (g : Group) : List (String × Option Value) :=
  [ ("id", g.id.map .string),
    ("provisioning_state", g.provisioningState.map .string)]

/-- The attributes of a group, set or not. -/
def fields (g : Group) : List (String × Option Value) :=
  g.declaredFields ++ g.assignedFields

/-- The attributes of a group. -/
def toAttributes (g : Group) : Attributes :=
  .ofSet g.fields

/-- The group that an identifier names. -/
def ofIdentifier? (identifier : String) : Option Group :=
  match ArmId.parse? identifier with
  | some id =>
    if id.member?.isNone then some { name := id.group, id := some identifier } else none
  | none => none

/-- The state in a record of the service. -/
def stateOf? (record : ResourceGroup) : Option String :=
  record.properties.bind (·.provisioningState)

/-- The group with every field taken over from the service's record; a name that the record does not
tell stays. -/
def hydrate (g : Group) (record : ResourceGroup) : Group where
  name := record.name.getD g.name
  location := some (Region.normalize record.location)
  tags := record.tags
  id := record.id
  provisioningState := stateOf? record

/-- The group of a record of the service. -/
def ofRecord (record : ResourceGroup) : Group :=
  hydrate {} record

/-- The id of the group, if it has one that names a group. -/
def armId? (g : Group) : Option ArmId :=
  (g.id.bind ArmId.parse?).filter (·.member?.isNone)

/-- Name of the object that the group addresses: that of its id, if it has one. None when the id is in
another subscription, or when the name is empty. -/
def key? (context : Context) (g : Group) : Option String :=
  match g.armId? with
  | some id => if context.owns id && !id.group.isEmpty then some id.group else none
  | none => if g.name.isEmpty then none else some g.name

/-- What the log says of addressing a group: an id in another subscription. -/
def keyNotes (context : Context) (g : Group) : List LogEntry :=
  match g.armId? with
  | some id =>
    if context.owns id then []
    else
      [⟨.warn, g.displayName ++ " is in subscription " ++ id.subscription ++ ", not " ++
        context.subscription⟩]
  | none => []

end Group
end AzureProvisioning
