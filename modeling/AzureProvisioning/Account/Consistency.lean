/-
# Consistency levels

The consistency level of an account, and the policy it asks for. Bounded staleness needs two bounds,
in operations and in seconds, each within its range; the other levels have none.
-/

import AzureProvisioning.Schema.Defect
import AzureProvisioning.Text.Basic
import AzureProvisioning.Wire.Account

namespace AzureProvisioning

/-- How consistent the reads of an account are. -/
inductive ConsistencyLevel
  | boundedStaleness
  | eventual
  | session
  | strong
  deriving DecidableEq, Inhabited, Repr

namespace ConsistencyLevel

/-- All levels, in the order in which error texts name them. -/
def all : List ConsistencyLevel := [boundedStaleness, eventual, session, strong]

/-- The name of a level. -/
def name : ConsistencyLevel → String
  | boundedStaleness => "BoundedStaleness"
  | eventual => "Eventual"
  | session => "Session"
  | strong => "Strong"

/-- The names of all levels. -/
def names : List String := all.map name

/-- The level of this name, in any letter case. -/
def ofName? (s : String) : Option ConsistencyLevel :=
  all.find? fun l => Text.sameFolded l.name s

/-- The level that a text selects, in any letter case and after its last dot. -/
def parse (s : String) : Except ConfigurationError ConsistencyLevel :=
  match ofName? (Text.lastPart s) with
  | some l => .ok l
  | none => .error (.invalidValue "consistency_level" s names)

/-- The range of the bound in operations. -/
def stalenessRange : Int × Int := (1, 2147483647)

/-- The range of the bound in seconds. -/
def intervalRange : Int × Int := (5, 86400)

/-- Refuses a value outside its range. -/
def checkRange (field : String) (value : Int64) (range : Int × Int) :
    Except ConfigurationError Unit :=
  if range.1 ≤ value.toInt ∧ value.toInt ≤ range.2 then .ok ()
  else
    .error (.invalid field (toString value.toInt ++ " is out of range " ++ toString range.1 ++
      "..=" ++ toString range.2))

/-- A bound that has to be set. -/
def requireBound (field : String) : Option Int64 → Except ConfigurationError Int64
  | some n => .ok n
  | none => .error (.missing field [])

/-- The policy of a level with the declared bounds. -/
def policy (level : ConsistencyLevel) (maxStalenessPrefix maxInterval : Option Int64) :
    Except ConfigurationError ConsistencyPolicy :=
  match level with
  | boundedStaleness => do
    let staleness ← requireBound "max_staleness_prefix" maxStalenessPrefix
    let interval ← requireBound "max_interval" maxInterval
    checkRange "max_staleness_prefix" staleness stalenessRange
    checkRange "max_interval" interval intervalRange
    return { level := level.name, maxStalenessPrefix := some staleness, maxInterval := some interval }
  | _ => return { level := level.name }

end ConsistencyLevel
end AzureProvisioning
