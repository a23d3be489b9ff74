/-
# Finding resource groups

Groups by name or id. An id that names no group of the subscription, or one of another name, matches
nothing. Without filters every group of the subscription is found.
-/

import AzureProvisioning.Filters
import AzureProvisioning.Group.Lifecycle

namespace AzureProvisioning
namespace Group

/-- The keys that a query for groups may filter by. -/
def filterKeys : List String := ["name", "id"]

/-- Every group of the subscription. -/
def findAll : Operation (List Group) := do
  return (← Operation.request .listGroups).map ofRecord

/-- The group of this name. -/
def findNamed (name : String) : Operation (List Group) := do
  return (← Operation.request (.getGroup name)).toList.map ofRecord

/-- The groups that all filters admit. -/
def find (context : Context) (filters : Filters) : Operation (List Group) := do
  Program.ofCheck (filters.checkKeys filterKeys)
  match filters.get? "id", filters.get? "name" with
  | some text, _ =>
    match ArmId.parse? text with
    | some id =>
      if id.member?.isNone && context.owns id && filters.admits "name" id.group then
        findNamed id.group
      else return []
    | none => return []
  | none, some name => findNamed name
  | none, none => findAll

end Group
end AzureProvisioning
