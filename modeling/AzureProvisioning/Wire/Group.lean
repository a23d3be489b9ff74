/-
# Records of resource groups

What the management service keeps of a resource group, with its JSON form.
-/

import AzureProvisioning.Json.Record

namespace AzureProvisioning

/-- The properties of a group. -/
structure GroupProperties where
  provisioningState : Option String := none
  deriving DecidableEq, Inhabited, Repr

/-- A resource group. -/
structure ResourceGroup where
  id : Option String := none
  name : Option String := none
  location : String := ""
  tags : Dictionary String String := []
  properties : Option GroupProperties := none
  deriving DecidableEq, Inhabited, Repr

namespace GroupProperties

def toJson (p : GroupProperties) : Json :=
  .ofMembers [("provisioningState", p.provisioningState.map .string)]

def ofJson? (j : Json) : Option GroupProperties :=
  match j.fields? ["provisioningState"] with
  | some [state] => do return { provisioningState := ← Json.optional? Json.string? state }
  | _ => none

end GroupProperties

namespace ResourceGroup

def toJson (g : ResourceGroup) : Json :=
  .ofMembers [
    ("id", g.id.map .string),
    ("name", g.name.map .string),
    ("location", some (.string g.location)),
    ("tags", some (.ofStringMap g.tags)),
    ("properties", g.properties.map GroupProperties.toJson)]

def ofJson? (j : Json) : Option ResourceGroup :=
  match j.fields? ["id", "name", "location", "tags", "properties"] with
  | some [id, name, location, tags, properties] => do
    return {
      id := ← Json.optional? Json.string? id
      name := ← Json.optional? Json.string? name
      location := ← Json.defaulted? "" Json.string? location
      tags := ← Json.defaulted? [] Json.stringMap? tags
      properties := ← Json.optional? GroupProperties.ofJson? properties }
  | _ => none

end ResourceGroup
end AzureProvisioning
