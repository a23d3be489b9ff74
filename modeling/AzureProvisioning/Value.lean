/-
# Attribute values

What a declaration gives to an attribute, and what the provider reports for it: text, a whole number
of 64 bits, a truth value, a list, or a map from text to values.

The entries of a map are kept in the order in which they are visited. `Value.same` is equality of
values: it compares lists item by item and maps by look-up, so the order of a map's entries does not
count.
-/

import AzureProvisioning.Dictionary

namespace AzureProvisioning

/-- A value of an attribute. -/
inductive Value
  | string (s : String)
  | int (i : Int64)
  | bool (b : Bool)
  | list (items : List Value)
  | map (entries : List (String × Value))
  deriving Inhabited, Repr

/-- Values by attribute name. -/
abbrev Attributes := Dictionary String Value

namespace Value

/-- Name of the value's shape, as error texts give it. -/
def typeName : Value → String
  | string _ => "String"
  | int _ => "Int"
  | bool _ => "Bool"
  | list _ => "List"
  | map _ => "Map"

/-- The text of a text value. -/
def asString? : Value → Option String
  | string s => some s
  | _ => none

/-- The number of a number value. -/
def asInt? : Value → Option Int64
  | int i => some i
  | _ => none

/-- The truth value of a truth value. -/
def asBool? : Value → Option Bool
  | bool b => some b
  | _ => none

/-- A list of texts. -/
def ofStrings (items : List String) : Value :=
  list (items.map string)

/-- A map from texts to texts. -/
def ofStringMap (entries : Dictionary String String) : Value :=
  map (entries.map fun e => (e.1, string e.2))

mutual

/-- Equality of values; the order of a map's entries does not count. -/
def same : Value → Value → Bool
  | string a, string b => a == b
  | int a, int b => a == b
  | bool a, bool b => a == b
  | list a, list b => sameItems a b
  | map a, map b => a.length == b.length && sameEntries a b
  | _, _ => false

/-- Equality of lists of values, item by item. -/
def sameItems : List Value → List Value → Bool
  | [], [] => true
  | a :: as, b :: bs => same a b && sameItems as bs
  | _, _ => false

/-- Whether each entry has an equal one under its key in the other map. -/
def sameEntries : List (String × Value) → List (String × Value) → Bool
  | [], _ => true
  | (k, a) :: as, bs =>
    (match Dictionary.get? bs k with
      | some b => same a b
      | none => false) && sameEntries as bs

end

end Value
end AzureProvisioning
