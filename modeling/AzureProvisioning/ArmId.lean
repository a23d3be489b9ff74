/-
# Resource manager ids

The path that names a resource group, or a resource in it:

| names | path |
| --- | --- |
| a group | `/subscriptions/{subscription}/resourceGroups/{group}` |
| a resource | the path of its group, then `/providers/{namespace}/{type}/{name}` |

Letter case does not count in the fixed segments, and neither do slashes at the two ends.
-/

import AzureProvisioning.Text.Basic
import AzureProvisioning.Text.Split

namespace AzureProvisioning

/-- A resource of a group: `namespace/type` and name. -/
structure ArmId.Member where
  type : String
  name : String
  deriving DecidableEq, Inhabited, Repr

/-- What a resource manager id names. -/
structure ArmId where
  subscription : String
  group : String
  /-- None for the id of the group itself. -/
  member? : Option ArmId.Member
  deriving DecidableEq, Inhabited, Repr

namespace ArmId

/-- The segments of a path, without the slashes at its two ends. -/
def segments (s : String) : List String :=
  (Text.split '/' (Text.trimBoth '/' s.toList)).map String.ofList

/-- The id that the segments of a path spell. -/
def ofSegments? : List String → Option ArmId
  | [subscriptions, subscription, groups, group] =>
    if Text.sameFolded subscriptions "subscriptions" && Text.sameFolded groups "resourcegroups" &&
        !subscription.isEmpty && !group.isEmpty then
      some ⟨subscription, group, none⟩
    else none
  | [subscriptions, subscription, groups, group, providers, provider, type, name] =>
    if Text.sameFolded subscriptions "subscriptions" && Text.sameFolded groups "resourcegroups" &&
        Text.sameFolded providers "providers" && !name.isEmpty then
      some ⟨subscription, group, some ⟨provider ++ "/" ++ type, name⟩⟩
    else none
  | _ => none

/-- Reads an id. -/
def parse? (s : String) : Option ArmId :=
  ofSegments? (segments s)

/-- The path of a group. -/
def groupText (subscription group : String) : String :=
  "/subscriptions/" ++ subscription ++ "/resourceGroups/" ++ group

/-- The written form of an id. -/
def text (id : ArmId) : String :=
  match id.member? with
  | none => groupText id.subscription id.group
  | some r => groupText id.subscription id.group ++ "/providers/" ++ r.type ++ "/" ++ r.name

/-- The name of what the id names: of the resource, else of the group. -/
def name (id : ArmId) : String :=
  match id.member? with
  | some r => r.name
  | none => id.group

/-- Whether the id names a resource of the given type. -/
def isType (id : ArmId) (type : String) : Bool :=
  match id.member? with
  | some r => Text.sameFolded r.type type
  | none => false

example : parse? "/subscriptions/s/resourcegroups/rg/" = some ⟨"s", "rg", none⟩ := by decide

example : parse? "/subscriptions/s" = none := by decide

end ArmId
end AzureProvisioning
