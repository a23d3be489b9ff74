/-
# Reading and writing attributes

Typed access to a set of attributes. A text that is empty counts as absent, an absent collection as
empty, and a value of another shape is a defect of its field.
-/

import AzureProvisioning.Schema.Defect
import AzureProvisioning.Value

namespace AzureProvisioning
namespace Attributes

/-- The defect of a field whose value has another shape. -/
def wrongShape (field expected : String) (got : Value) : ConfigurationError :=
  .invalid field ("expected " ++ expected ++ ", got " ++ got.typeName)

/-- A text that may be absent; the empty text counts as absent. -/
def optionalString (attributes : Attributes) (field : String) :
    Except ConfigurationError (Option String) :=
  match attributes.get? field with
  | none => .ok none
  | some (.string s) => .ok (if s.isEmpty then none else some s)
  | some other => .error (wrongShape field "String" other)

/-- A text that has to be there and not empty. -/
def requiredString (attributes : Attributes) (field : String) :
    Except ConfigurationError String :=
  match attributes.optionalString field with
  | .ok (some s) => .ok s
  | .ok none => .error (.missing field [])
  | .error e => .error e

/-- A number that may be absent. -/
def optionalInt (attributes : Attributes) (field : String) :
    Except ConfigurationError (Option Int64) :=
  match attributes.get? field with
  | none => .ok none
  | some (.int i) => .ok (some i)
  | some other => .error (wrongShape field "Int" other)

/-- A truth value that may be absent. -/
def optionalBool (attributes : Attributes) (field : String) :
    Except ConfigurationError (Option Bool) :=
  match attributes.get? field with
  | none => .ok none
  | some (.bool b) => .ok (some b)
  | some other => .error (wrongShape field "Bool" other)

/-- The texts of a list of values. -/
def stringsOf (field : String) : List Value → Except ConfigurationError (List String)
  | [] => .ok []
  | .string s :: items => (stringsOf field items).map (s :: ·)
  | other :: _ => .error (wrongShape field "List<String>" other)

/-- A list of texts, empty when absent. -/
def stringList (attributes : Attributes) (field : String) :
    Except ConfigurationError (List String) :=
  match attributes.get? field with
  | none => .ok []
  | some (.list items) => stringsOf field items
  | some other => .error (wrongShape field "List<String>" other)

/-- The texts of the entries of a map. -/
def stringEntriesOf (field : String) :
    List (String × Value) → Except ConfigurationError (Dictionary String String)
  | [] => .ok []
  | (k, .string s) :: entries => (stringEntriesOf field entries).map ((k, s) :: ·)
  | (_, other) :: _ => .error (wrongShape field "Map<String>" other)

/-- A map from texts to texts, empty when absent. -/
def stringMap (attributes : Attributes) (field : String) :
    Except ConfigurationError (Dictionary String String) :=
  match attributes.get? field with
  | none => .ok []
  | some (.map entries) => stringEntriesOf field entries
  | some other => .error (wrongShape field "Map<String>" other)

/-- Writes a text when there is one. -/
def putString (attributes : Attributes) (field : String) (value : Option String) : Attributes :=
  match value with
  | some s => attributes.insert field (.string s)
  | none => attributes

/-- Writes a number when there is one. -/
def putInt (attributes : Attributes) (field : String) (value : Option Int64) : Attributes :=
  match value with
  | some i => attributes.insert field (.int i)
  | none => attributes

/-- The attributes that are set, in order. -/
def ofSet (entries : List (String × Option Value)) : Attributes :=
  entries.filterMap fun e => e.2.map (e.1, ·)

theorem stringsOf_map_string (field : String) (items : List String) :
    stringsOf field (items.map Value.string) = .ok items := by
  induction items with
  | nil => rfl
  | cons s items ih => simp [stringsOf, ih, Except.map]

theorem stringEntriesOf_map_string (field : String) (entries : Dictionary String String) :
    stringEntriesOf field (entries.map fun e => (e.1, Value.string e.2)) = .ok entries := by
  induction entries with
  | nil => rfl
  | cons e entries ih => simp [stringEntriesOf, ih, Except.map]

end Attributes
end AzureProvisioning
