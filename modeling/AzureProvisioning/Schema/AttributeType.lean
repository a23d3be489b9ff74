/-
# Attribute types

The types that a schema gives to attributes, and the check of a value against a type. The check stops
at the first failing part: of a list the item with the least index, of a map the first entry in the
order of the entries.
-/

import AzureProvisioning.Schema.Defect
import AzureProvisioning.Text.Basic
import AzureProvisioning.Value

namespace AzureProvisioning

/-- The type of an attribute. -/
inductive AttributeType
  | string
  | int
  | bool
  /-- One of the given texts, in any letter case; `Kind.Sql` selects `Sql`. -/
  | enum (variants : List String)
  /-- A type with a name and a test of its own, on top of another type. -/
  | custom (name : String) (base : AttributeType) (test : Value → Except String Unit)
  | list (item : AttributeType)
  | map (item : AttributeType)

namespace AttributeType

/-- A list of texts. -/
def strings : AttributeType := list string

/-- A map from texts to texts. -/
def stringMap : AttributeType := map string

/-- The name of a type, as error texts and descriptions give it. -/
def name : AttributeType → String
  | string => "String"
  | int => "Int"
  | bool => "Bool"
  | enum variants => "Enum(" ++ Text.listed " | " variants ++ ")"
  | custom name _ _ => name
  | list item => "List<" ++ item.name ++ ">"
  | map item => "Map<" ++ item.name ++ ">"

/-- Whether the text selects one of the variants. -/
def selects (variants : List String) (s : String) : Bool :=
  variants.any fun v => Text.sameFolded v (Text.lastPart s)

/-- Checks the items of a list one after the other; an error carries the index, counted from
`index`. -/
def checkItems (check : Value → Except TypeError Unit) (index : Nat) :
    List Value → Except TypeError Unit
  | [] => .ok ()
  | v :: vs =>
    match check v with
    | .ok () => checkItems check (index + 1) vs
    | .error e => .error (.ofItem index e)

/-- Checks the values of a map one after the other; an error carries the key. -/
def checkEntries (check : Value → Except TypeError Unit) :
    List (String × Value) → Except TypeError Unit
  | [] => .ok ()
  | (k, v) :: entries =>
    match check v with
    | .ok () => checkEntries check entries
    | .error e => .error (.ofEntry k e)

/-- Checks that a value conforms to a type. -/
def check : AttributeType → Value → Except TypeError Unit
  | string, .string _ => .ok ()
  | int, .int _ => .ok ()
  | bool, .bool _ => .ok ()
  | enum variants, .string s =>
    if selects variants s then .ok () else .error (.unknownVariant s variants)
  | custom _ base test, v =>
    match base.check v with
    | .error e => .error e
    | .ok () =>
      match test v with
      | .ok () => .ok ()
      | .error detail => .error (.refused detail)
  | list item, .list items => checkItems item.check 0 items
  | map item, .map entries => checkEntries item.check entries
  | t, v => .error (.mismatch t.name v.typeName)

/-- What an omitted collection stands for; other types have no such value. -/
def emptyValue? : AttributeType → Option Value
  | list _ => some (.list [])
  | map _ => some (.map [])
  | custom _ base _ => base.emptyValue?
  | _ => none

end AttributeType
end AzureProvisioning
