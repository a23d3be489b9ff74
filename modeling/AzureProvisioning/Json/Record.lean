/-
# Records in JSON

A record is written as an object of its fields. It is read from an object, in which members that the
record does not know are skipped and a field stands once at most, or from an array of the fields in
their order, in which fields at the end may be left out. `Json.fields?` gives the fields of either, and
the readers after it take one field each: they say what an absent field stands for.
-/

import AzureProvisioning.Dictionary
import AzureProvisioning.Json.Basic

namespace AzureProvisioning
namespace Json

/-- The fields of a record, in the order of their names; none for a value that is no such record. -/
def fields? (names : List String) : Json → Option (List (Option Json))
  | object members =>
    if ((members.map Prod.fst).filter fun n => names.contains n).Nodup then
      some (names.map fun n => members.lookup n)
    else none
  | array items =>
    if items.length ≤ names.length then
      some (items.map some ++ List.replicate (names.length - items.length) none)
    else none
  | _ => none

/-- A text. -/
def string? : Json → Option String
  | string s => some s
  | _ => none

/-- A truth value. -/
def bool? : Json → Option Bool
  | bool b => some b
  | _ => none

/-- A number of 64 bits. -/
def int64? : Json → Option Int64
  | int n => if Int64.minValue.toInt ≤ n ∧ n ≤ Int64.maxValue.toInt then some (Int64.ofInt n) else none
  | _ => none

/-- A number of 32 bits. -/
def int32? : Json → Option Int32
  | int n => if Int32.minValue.toInt ≤ n ∧ n ≤ Int32.maxValue.toInt then some (Int32.ofInt n) else none
  | _ => none

/-- The items of an array, each read in the same way. -/
def arrayOf? {α : Type} (read : Json → Option α) : Json → Option (List α)
  | array items => items.mapM read
  | _ => none

/-- A map from texts to texts; of several values for a key the last counts. -/
def stringMap? : Json → Option (Dictionary String String)
  | object members =>
    (members.mapM fun (m : String × Json) => m.2.string?.map (m.1, ·)).map Dictionary.ofEntries
  | _ => none

/-- A field that has to be there. -/
def required? {α : Type} (read : Json → Option α) : Option Json → Option α
  | some v => read v
  | none => none

/-- A field that stands for a default when it is absent. -/
def defaulted? {α : Type} (default : α) (read : Json → Option α) : Option Json → Option α
  | some v => read v
  | none => some default

/-- A field that may be absent or null. -/
def optional? {α : Type} (read : Json → Option α) : Option Json → Option (Option α)
  | some null => some none
  | some v => (read v).map some
  | none => some none

end Json
end AzureProvisioning
