/-
# Failures of provider operations

An operation fails because the declaration is defective, because the provider does not have the
addressed object, or through any other fault.
-/

import AzureProvisioning.Resource
import AzureProvisioning.Schema.Defect

namespace AzureProvisioning

/-- What went wrong in an operation. -/
inductive FailureKind
  | configuration (defect : ConfigurationError)
  | notFound
  | fault
  deriving DecidableEq, Inhabited, Repr

/-- A failed operation. -/
structure Failure where
  /-- The text without the resource. -/
  detail : String
  kind : FailureKind := .fault
  /-- The resource of the request. -/
  resource : Option ResourceId := none
  /-- The text of the error beneath. -/
  cause : Option String := none
  deriving DecidableEq, Inhabited, Repr

namespace Failure

/-- A fault with the given text. -/
def fault (detail : String) : Failure := { detail }

/-- The addressed object does not exist. -/
def notFound (detail : String) : Failure := { detail, kind := .notFound }

/-- A defect of the declaration. -/
def ofConfiguration (defect : ConfigurationError) : Failure :=
  { detail := defect.message, kind := .configuration defect }

/-- The failure with the resource of the request. -/
def forResource (failure : Failure) (id : ResourceId) : Failure :=
  { failure with resource := some id }

/-- The failure with the text of the error beneath. -/
def withCause (failure : Failure) (cause : String) : Failure :=
  { failure with cause := some cause }

/-- Whether the addressed object does not exist. -/
def isNotFound (failure : Failure) : Bool :=
  failure.kind = .notFound

/-- The defect of the declaration, if that is what failed. -/
def defect? (failure : Failure) : Option ConfigurationError :=
  match failure.kind with
  | .configuration defect => some defect
  | _ => none

/-- The text of a failure, with the resource in front when it is known. -/
def message (failure : Failure) : String :=
  match failure.resource with
  | some id => "[" ++ id.type ++ "." ++ id.name ++ "] " ++ failure.detail
  | none => failure.detail

end Failure
end AzureProvisioning
