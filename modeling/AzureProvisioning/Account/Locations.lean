/-
# Locations of an account

The regions of an account with their priorities: priority 0 takes writes, the others follow in
ascending order. `prioritized` writes a list of regions as locations and `splitLocations` reads
locations back as the write region and the read regions.
-/

import AzureProvisioning.Region.Basic
import AzureProvisioning.Wire.Account

namespace AzureProvisioning
namespace Account

/-- Locations whose priorities follow the order of the regions, from 0. -/
def prioritized (regions : List String) : List Location :=
  regions.zipIdx.map fun (region, i) => { name := region, priority := Int32.ofNat i }

/-- The same order as failover priorities. -/
def failoverOrder (regions : List String) : List FailoverPolicy :=
  regions.zipIdx.map fun (region, i) => { location := region, priority := Int32.ofNat i }

/-- Takes the next location in ascending priority: the first one with priority 0 is the write region,
any other one a read region unless it is there already. -/
def placeLocation (placed : Option String × List String) (location : Location) :
    Option String × List String :=
  let region := Region.normalize location.name
  if location.priority = 0 ∧ placed.1 = none then (some region, placed.2)
  else if placed.1 ≠ some region ∧ region ∉ placed.2 then (placed.1, placed.2 ++ [region])
  else placed

/-- The write region and the read regions in ascending priority. -/
def splitLocations (locations : List Location) : Option String × List String :=
  (locations.mergeSort fun a b => a.priority ≤ b.priority).foldl placeLocation (none, [])

end Account
end AzureProvisioning
