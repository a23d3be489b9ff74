/-
# Differences between region lists

The regions to add to an account and to remove from it, so that its read regions become the declared
ones. Every region that is to be active has to be on the account before priorities change, so the write
region is listed as an addition unless it is a declared read region. It is never removed.
-/

import AzureProvisioning.Region.Basic

namespace AzureProvisioning
namespace Region

/-- Regions to add and to remove. -/
structure Delta where
  /-- In the order of the declaration, the write region last. -/
  toAdd : List String
  /-- In the order of the account. -/
  toRemove : List String
  deriving DecidableEq, Inhabited, Repr

/-- The difference between the declared regions and the account's read regions. -/
def delta (desiredRead currentRead : List String) (desiredWrite : String) : Delta where
  toAdd :=
    withoutRepeats (desiredRead.filter fun r => !currentRead.contains r) ++
      if desiredRead.contains desiredWrite then [] else [desiredWrite]
  toRemove :=
    withoutRepeats (currentRead.filter fun r => !desiredRead.contains r && r != desiredWrite)

end Region
end AzureProvisioning
