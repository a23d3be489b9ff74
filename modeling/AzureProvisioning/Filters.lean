/-
# Filters of a query

A query narrows what it lists by keys and values. A key has one value: the last one given to it, in
the place of the first.
-/

import AzureProvisioning.Dictionary
import AzureProvisioning.Schema.Defect
import AzureProvisioning.Text.Basic

namespace AzureProvisioning

/-- Values by filter key, in the order in which the keys were added. -/
abbrev Filters := Dictionary String String

namespace Filters

/-- Refuses the first key that is none of the allowed ones. -/
def checkKeys (filters : Filters) (allowed : List String) : Except ConfigurationError Unit :=
  match filters.find? fun e => !allowed.contains e.1 with
  | some e => .error (.invalidValue "filter" e.1 allowed)
  | none => .ok ()

/-- Whether the text equals the value of this key, if it has one, up to letter case. -/
def admits (filters : Filters) (key text : String) : Bool :=
  match filters.get? key with
  | some value => Text.sameFolded text value
  | none => true

end Filters
end AzureProvisioning
