/-
# Envelopes

The records around the objects of the management service: a page of a list, the body of an error, and
the status of a long-running operation.
-/

import AzureProvisioning.Json.Record

namespace AzureProvisioning

/-- A page of a list, with the address of the next one. -/
structure Page (α : Type) where
  items : List α
  nextLink : Option String
  deriving DecidableEq, Inhabited, Repr

/-- What the service says of an error. -/
structure ErrorDetail where
  code : String
  message : String
  deriving DecidableEq, Inhabited, Repr

/-- The status of a long-running operation. -/
structure OperationStatus where
  status : String
  error : Option ErrorDetail
  deriving DecidableEq, Inhabited, Repr

/-- Reads a page whose items are read by `read`. -/
def Page.ofJson? {α : Type} (read : Json → Option α) (j : Json) : Option (Page α) :=
  match j.fields? ["value", "nextLink"] with
  | some [items, nextLink] => do
    return {
      items := ← Json.defaulted? [] (Json.arrayOf? read) items
      nextLink := ← Json.optional? Json.string? nextLink }
  | _ => none

namespace ErrorDetail

def ofJson? (j : Json) : Option ErrorDetail :=
  match j.fields? ["code", "message"] with
  | some [code, message] => do
    return {
      code := ← Json.defaulted? "" Json.string? code
      message := ← Json.defaulted? "" Json.string? message }
  | _ => none

/-- Reads the body of an error. -/
def ofBody? (j : Json) : Option ErrorDetail :=
  match j.fields? ["error"] with
  | some [detail] => Json.required? ofJson? detail
  | _ => none

/-- Code and message. -/
def text (e : ErrorDetail) : String :=
  e.code ++ ": " ++ e.message

end ErrorDetail

namespace OperationStatus

def ofJson? (j : Json) : Option OperationStatus :=
  match j.fields? ["status", "error"] with
  | some [status, error] => do
    return {
      status := ← Json.required? Json.string? status
      error := ← Json.optional? ErrorDetail.ofJson? error }
  | _ => none

end OperationStatus
end AzureProvisioning
