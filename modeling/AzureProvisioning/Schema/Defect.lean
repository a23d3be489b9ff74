/-
# Defects of a declaration

`TypeError` says how a value fails to conform to a type, with the path to the failing part.
`ConfigurationError` says which field of a declaration is defective and how; it is found before the
provider is called. Each has one function that words it.
-/

import AzureProvisioning.Text.Split

namespace AzureProvisioning

/-- How a value, or a set of attributes, fails its type. -/
inductive TypeError
  /-- The value has another shape than the type asks for. -/
  | mismatch (expected got : String)
  /-- The text selects none of the variants. -/
  | unknownVariant (value : String) (expected : List String)
  /-- The type's own test refuses the value. -/
  | refused (detail : String)
  /-- A required attribute is absent. -/
  | missing (name : String)
  /-- An attribute that only the provider assigns is declared. -/
  | readOnly (name : String)
  /-- An item of a list fails. -/
  | ofItem (index : Nat) (inner : TypeError)
  /-- A value of a map fails. -/
  | ofEntry (key : String) (inner : TypeError)
  /-- The value of an attribute fails. -/
  | ofAttribute (name : String) (inner : TypeError)
  deriving DecidableEq, Inhabited, Repr

/-- The text of a type error. -/
def TypeError.message : TypeError → String
  | mismatch expected got => "Type mismatch: expected " ++ expected ++ ", got " ++ got
  | unknownVariant value expected =>
    "Invalid enum variant '" ++ value ++ "', expected one of: " ++ Text.listed ", " expected
  | refused detail => "Validation failed: " ++ detail
  | missing name => "Required attribute '" ++ name ++ "' is missing"
  | readOnly name => "Attribute '" ++ name ++ "' is assigned by the provider and cannot be set"
  | ofItem index inner => "List item at index " ++ toString index ++ ": " ++ inner.message
  | ofEntry key inner => "Map value for key '" ++ key ++ "': " ++ inner.message
  | ofAttribute name inner => "Attribute '" ++ name ++ "': " ++ inner.message

/-- A defect of a declaration, found before the provider is called. -/
inductive ConfigurationError
  /-- The field has to be set. -/
  | missing (field : String) (expected : List String)
  /-- The field's value is none of the legal ones. -/
  | invalidValue (field value : String) (expected : List String)
  /-- The field can only be set at creation, and differs. -/
  | immutable (field : String)
  /-- The field is assigned by the provider. -/
  | readOnly (field : String)
  /-- The field is defective in another way. -/
  | invalid (field detail : String)
  deriving DecidableEq, Inhabited, Repr

namespace ConfigurationError

/-- The legal values, when there are any to name. -/
def describeExpected (expected : List String) : String :=
  if expected.isEmpty then "" else ", expected one of: " ++ Text.listed ", " expected

/-- The text of a configuration error. -/
def message : ConfigurationError → String
  | missing field expected => "'" ++ field ++ "' is required" ++ describeExpected expected
  | invalidValue field value expected =>
    "Invalid value '" ++ value ++ "' for '" ++ field ++ "'" ++ describeExpected expected
  | immutable field => "'" ++ field ++ "' cannot be changed after creation"
  | readOnly field => "'" ++ field ++ "' is assigned by the provider and cannot be set"
  | invalid field detail => "Invalid '" ++ field ++ "': " ++ detail

/-- The defective field. -/
def field : ConfigurationError → String
  | missing field _ => field
  | invalidValue field _ _ => field
  | immutable field => field
  | readOnly field => field
  | invalid field _ => field

/-- The legal values of the field; none when the defect is not a choice among some. -/
def expected : ConfigurationError → List String
  | missing _ expected => expected
  | invalidValue _ _ expected => expected
  | _ => []

/-- The type error found for a field, as a defect of that field. An error about a named attribute is
a defect of the attribute. -/
def ofTypeError (field : String) : TypeError → ConfigurationError
  | .unknownVariant value expected => .invalidValue field value expected
  | .missing name => .missing name []
  | .readOnly name => .readOnly name
  | .ofAttribute name inner => ofTypeError name inner
  | other => .invalid field other.message

end ConfigurationError
end AzureProvisioning
