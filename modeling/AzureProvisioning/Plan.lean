/-
# Plans

What has to be done to bring a resource from its reported state to its declared one: create it, update
some of its attributes, or nothing. A difference in an attribute that can only be set at creation is a
defect of the declaration.

Omitted attributes are filled in before the comparison, so an omitted collection equals an empty one.
Attributes that the provider assigns, and those whose name starts with an underscore, are not compared.
-/

import AzureProvisioning.Resource
import AzureProvisioning.Schema.Basic

namespace AzureProvisioning

/-- What has to be done for a resource. -/
inductive Plan
  | create (declared : Resource)
  | update (id : ResourceId) (current : State) (declared : Resource) (changed : List String)
  | noChange (id : ResourceId)
  deriving Inhabited, Repr

namespace Plan

/-- Whether anything has to be done. -/
def isChange : Plan → Bool
  | noChange _ => false
  | _ => true

/-- Whether an attribute takes part in the comparison. -/
def compares (schema : Schema) (name : String) : Bool :=
  name.toList.head? != some '_' && schema.mutability? name != some .output

/-- Whether the current attributes hold this value under this name. -/
def agrees (current : Attributes) (name : String) (value : Value) : Bool :=
  match current.get? name with
  | some v => Value.same v value
  | none => false

/-- The compared attributes that differ from the current ones, in the order of the declaration; the
first of them that can only be set at creation is a defect. -/
def differing (schema : Schema) (current : Attributes) :
    Attributes → Except ConfigurationError (List String)
  | [] => .ok []
  | (name, value) :: rest =>
    if !compares schema name || agrees current name value then differing schema current rest
    else if schema.mutability? name = some .immutable then .error (.immutable name)
    else (differing schema current rest).map (name :: ·)

/-- The attributes that an update has to write, sorted by name. -/
def changed (schema : Schema) (desired current : Attributes) :
    Except ConfigurationError (List String) :=
  (differing schema current (schema.withDefaults desired)).map List.mergeSort

/-- The plan for a declared resource in a reported state. -/
def make (schema : Schema) (desired : Resource) (current : State) :
    Except ConfigurationError Plan :=
  if current.found then
    (changed schema desired.attributes current.attributes).map fun names =>
      if names.isEmpty then noChange desired.id else update desired.id current desired names
  else .ok (create desired)

end Plan
end AzureProvisioning
