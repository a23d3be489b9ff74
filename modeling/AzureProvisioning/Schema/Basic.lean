/-
# Resource schemas

A schema lists the attributes of a resource type: the type of each, whether it is required, its
default, and when it may be written. `Schema.defects` gives every defect of a declaration, sorted by
text, and `Schema.check` the first of them. `Schema.withDefaults` fills in what a declaration omits.
-/

import AzureProvisioning.Schema.AttributeType

namespace AzureProvisioning

/-- When an attribute may be written. -/
inductive Mutability
  /-- At creation only. -/
  | immutable
  /-- At creation and later. -/
  | updatable
  /-- Never: the provider assigns it. -/
  | output
  deriving DecidableEq, Inhabited, Repr

/-- An attribute of a resource type. -/
structure AttributeSchema where
  name : String
  type : AttributeType
  required : Bool := false
  mutability : Mutability := .updatable
  default? : Option Value := none
  description : Option String := none
  /-- Name of the property on the provider's side. -/
  providerName : Option String := none

/-- What the attribute stands for when it is omitted: its default, or an empty collection. -/
def AttributeSchema.implied? (a : AttributeSchema) : Option Value :=
  if a.mutability = .output then none else a.default?.or a.type.emptyValue?

/-- The attributes of a resource type, by name, in the order in which they are visited. -/
structure Schema where
  resourceType : String
  description : Option String := none
  attributes : Dictionary String AttributeSchema := []

namespace Schema

/-- Adds an attribute; one of the same name is replaced. -/
def addAttribute (schema : Schema) (a : AttributeSchema) : Schema :=
  { schema with attributes := schema.attributes.insert a.name a }

/-- The schema of a list of attributes; of several with one name the last counts. -/
def ofList (resourceType : String) (description : Option String)
    (attributes : List AttributeSchema) : Schema :=
  attributes.foldl addAttribute ⟨resourceType, description, []⟩

/-- When the named attribute may be written; none for a name outside the schema. -/
def mutability? (schema : Schema) (name : String) : Option Mutability :=
  (schema.attributes.get? name).map (·.mutability)

/-- The attributes that may be written after creation, sorted by name. -/
def updatable (schema : Schema) : List String :=
  ((schema.attributes.filter fun e => e.2.mutability = .updatable).map (·.2.name)).mergeSort

/-- Required attributes without default that the declaration omits. -/
def missingDefects (schema : Schema) (attributes : Attributes) : List TypeError :=
  schema.attributes.filterMap fun e =>
    if e.2.required && !attributes.contains e.1 && e.2.default?.isNone then some (.missing e.1)
    else none

/-- The defect of one declared attribute; a name outside the schema has none. -/
def attributeDefect? (schema : Schema) (name : String) (value : Value) : Option TypeError :=
  match schema.attributes.get? name with
  | none => none
  | some a =>
    if a.mutability = .output then some (.readOnly name)
    else
      match a.type.check value with
      | .ok () => none
      | .error e => some (.ofAttribute name e)

/-- Every defect of a declaration, sorted by text. -/
def defects (schema : Schema) (attributes : Attributes) : List TypeError :=
  (schema.missingDefects attributes ++
    attributes.filterMap fun e => schema.attributeDefect? e.1 e.2).mergeSort
    fun a b => a.message ≤ b.message

/-- Accepts a declaration without defect; else gives the first defect. -/
def check (schema : Schema) (attributes : Attributes) : Except ConfigurationError Unit :=
  match schema.defects attributes with
  | [] => .ok ()
  | first :: _ => .error (.ofTypeError schema.resourceType first)

/-- The declaration with omitted attributes filled in, as far as they stand for something. -/
def withDefaults (schema : Schema) (attributes : Attributes) : Attributes :=
  attributes ++ schema.attributes.filterMap fun e =>
    if attributes.contains e.1 then none else e.2.implied?.map (e.1, ·)

end Schema
end AzureProvisioning
