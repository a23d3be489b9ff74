/-
# Database accounts

An account as a declaration or the service describes it: the fields, their schema, reading them from
attributes and writing them back, taking them over from the service's record, and the checks that have
to pass before the service is called.
-/

import AzureProvisioning.Account.Consistency
import AzureProvisioning.Account.Kind
import AzureProvisioning.Account.Locations
import AzureProvisioning.Account.Name
import AzureProvisioning.Attributes.Reading
import AzureProvisioning.Management
import AzureProvisioning.Schema.Basic

namespace AzureProvisioning

/-- A database account. -/
structure Account where
  name : String := ""
  group : String := ""
  kind : Option AccountKind := none
  consistencyLevel : Option ConsistencyLevel := none
  /-- In seconds; for bounded staleness. -/
  maxInterval : Option Int64 := none
  /-- In operations; for bounded staleness. -/
  maxStalenessPrefix : Option Int64 := none
  ipRangeFilter : List String := []
  /-- Ids of subnets. -/
  networkRules : List String := []
  writeRegion : Option String := none
  /-- In failover order. -/
  readRegions : List String := []
  automaticFailover : Bool := false
  tags : Dictionary String String := []
  /-- Assigned by the service, like the two fields after it. -/
  id : Option String := none
  documentEndpoint : Option String := none
  provisioningState : Option String := none
  deriving DecidableEq, Inhabited, Repr

namespace Account

/-- The type of declared accounts. -/
def resourceType : String := "cosmosdb.database_account"

/-- The type of accounts in resource manager ids. -/
def armType : String := "Microsoft.DocumentDB/databaseAccounts"

/-- What an account is called in texts. -/
def displayName (a : Account) : String :=
  "Cosmos DB account '" ++ a.name ++ "' (resource group '" ++ a.group ++ "')"

/-- The attributes of a declared account. -/
def schema : Schema :=
  .ofList resourceType (some "An Azure Cosmos DB database account") [
    { name := "name", type := AccountName.type, required := true, mutability := .immutable,
      providerName := some "name" },
    { name := "resource_group", type := .string, required := true, mutability := .immutable },
    { name := "kind", type := .enum AccountKind.names, mutability := .immutable,
      description := some "Data model of the account", providerName := some "kind" },
    { name := "consistency_level", type := .enum ConsistencyLevel.names,
      providerName := some "consistencyPolicy.defaultConsistencyLevel" },
    { name := "max_interval", type := .int,
      description := some "Maximum lag in seconds (bounded staleness)",
      providerName := some "consistencyPolicy.maxIntervalInSeconds" },
    { name := "max_staleness_prefix", type := .int,
      description := some "Maximum lag in operations (bounded staleness)",
      providerName := some "consistencyPolicy.maxStalenessPrefix" },
    { name := "ip_range_filter", type := .strings, providerName := some "ipRules" },
    { name := "virtual_network_rules", type := .strings,
      description := some "Subnet ids allowed to reach the account",
      providerName := some "virtualNetworkRules" },
    { name := "write_region", type := .string, required := true,
      providerName := some "locations" },
    { name := "read_regions", type := .strings,
      description := some "Read regions in failover order", providerName := some "locations" },
    { name := "enable_automatic_failover", type := .bool, default? := some (.bool false),
      providerName := some "enableAutomaticFailover" },
    { name := "tags", type := .stringMap },
    { name := "id", type := .string, mutability := .output },
    { name := "document_endpoint", type := .string, mutability := .output,
      providerName := some "documentEndpoint" },
    { name := "provisioning_state", type := .string, mutability := .output,
      providerName := some "provisioningState" }]

/-- Reads a selector that may be absent. -/
def selected {α : Type} (parse : String → Except ConfigurationError α) :
    Option String → Except ConfigurationError (Option α)
  | none => .ok none
  | some s => (parse s).map some

/-- The account that attributes describe. Selectors are read first, then the fields in order. -/
def ofAttributes (attributes : Attributes) : Except ConfigurationError Account := do
  let kind ← selected AccountKind.parse (← attributes.optionalString "kind")
  let consistencyLevel ←
    selected ConsistencyLevel.parse (← attributes.optionalString "consistency_level")
  return {
    kind
    consistencyLevel
    name := ← attributes.requiredString "name"
    group := ← attributes.requiredString "resource_group"
    maxInterval := ← attributes.optionalInt "max_interval"
    maxStalenessPrefix := ← attributes.optionalInt "max_staleness_prefix"
    ipRangeFilter := ← attributes.stringList "ip_range_filter"
    networkRules := ← attributes.stringList "virtual_network_rules"
    writeRegion := (← attributes.optionalString "write_region").map Region.normalize
    readRegions := Region.distinctNames (← attributes.stringList "read_regions")
    automaticFailover := (← attributes.optionalBool "enable_automatic_failover").getD false
    tags := ← attributes.stringMap "tags"
    id := ← attributes.optionalString "id"
    documentEndpoint := ← attributes.optionalString "document_endpoint"
    provisioningState := ← attributes.optionalString "provisioning_state" }

/-- The attributes of an account that can be declared, set or not. The bounds are left out unless the
level has them. -/
def declaredFields (a : Account) : List (String × Option Value) :=
  let bounded := a.consistencyLevel = some .boundedStaleness
  [ ("name", some (.string a.name)),
    ("resource_group", some (.string a.group)),
    ("kind", a.kind.map fun k => .string k.name),
    ("consistency_level", a.consistencyLevel.map fun l => .string l.name),
    ("max_interval", if bounded then a.maxInterval.map .int else none),
    ("max_staleness_prefix", if bounded then a.maxStalenessPrefix.map .int else none),
    ("ip_range_filter", some (.ofStrings a.ipRangeFilter)),
    ("virtual_network_rules", some (.ofStrings a.networkRules)),
    ("write_region", a.writeRegion.map .string),
    ("read_regions", some (.ofStrings a.readRegions)),
    ("enable_automatic_failover", some (.bool a.automaticFailover)),
    ("tags", some (.ofStringMap a.tags))]

/-- The attributes of an account that the service assigns, set or not. -/
def assignedFields (a : Account) : List (String × Option Value) :=
  [ ("id", a.id.map .string),
    ("document_endpoint", a.documentEndpoint.map .string),
    ("provisioning_state", a.provisioningState.map .string)]

/-- The attributes of an account, set or not. -/
def fields (a : Account) : List (String × Option Value) :=
  a.declaredFields ++ a.assignedFields

/-- The attributes of an account. -/
def toAttributes (a : Account) : Attributes :=
  .ofSet a.fields

/-- The account that an identifier names. -/
def ofIdentifier? (identifier : String) : Option Account :=
  match ArmId.parse? identifier with
  | some id =>
    if id.isType armType then some { name := id.name, group := id.group, id := some identifier }
    else none
  | none => none

/-- The level of a policy, if it is one of those known here. -/
def levelOf? (policy : Option ConsistencyPolicy) : Option ConsistencyLevel :=
  policy.bind fun p => ConsistencyLevel.ofName? p.level

/-- The policy, if its bounds count. -/
def boundedPolicy? (policy : Option ConsistencyPolicy) : Option ConsistencyPolicy :=
  policy.filter fun _ => levelOf? policy = some .boundedStaleness

/-- The account with every field taken over from the service's record. Where the record does not tell
the group or the name, they stay. -/
def hydrate (a : Account) (record : DatabaseAccount) : Account :=
  let properties := record.properties
  let bounded := boundedPolicy? properties.consistencyPolicy
  let (writeRegion, readRegions) := splitLocations properties.locations
  { name := record.name.getD a.name
    group := ((record.id.bind ArmId.parse?).map (·.group)).getD a.group
    kind := AccountKind.ofAccount? record
    consistencyLevel := levelOf? properties.consistencyPolicy
    maxInterval := bounded.bind (·.maxInterval)
    maxStalenessPrefix := bounded.bind (·.maxStalenessPrefix)
    ipRangeFilter := properties.ipRules
    networkRules := properties.networkRules.map (·.subnet)
    writeRegion
    readRegions
    automaticFailover := properties.automaticFailover
    tags := record.tags
    id := record.id
    documentEndpoint := properties.documentEndpoint
    provisioningState := properties.provisioningState }

/-- What the log says of taking a record over: a level that is not known here. -/
def hydrateNotes (a : Account) (record : DatabaseAccount) : List LogEntry :=
  match record.properties.consistencyPolicy with
  | some p =>
    if (ConsistencyLevel.ofName? p.level).isSome then []
    else
      [⟨.warn, "Unsupported consistency level '" ++ p.level ++ "' on account " ++
        record.name.getD a.name⟩]
  | none => []

/-- The account of a record of the service. -/
def ofRecord (record : DatabaseAccount) : Account :=
  hydrate {} record

/-- The id of the account, if it has one that names an account. -/
def armId? (a : Account) : Option ArmId :=
  (a.id.bind ArmId.parse?).filter (·.isType armType)

/-- Group and name, unless one of them is empty. -/
def nonEmptyKey (group name : String) : Option (String × String) :=
  if group.isEmpty || name.isEmpty then none else some (group, name)

/-- Group and name of the object that the account addresses: those of its id, if it has one. None when
the id is in another subscription, or when group or name is empty. -/
def key? (context : Context) (a : Account) : Option (String × String) :=
  match a.armId? with
  | some id => if context.owns id then nonEmptyKey id.group id.name else none
  | none => nonEmptyKey a.group a.name

/-- What the log says of addressing an account: an id in another subscription. -/
def keyNotes (context : Context) (a : Account) : List LogEntry :=
  match a.armId? with
  | some id =>
    if context.owns id then []
    else
      [⟨.warn, a.displayName ++ " is in subscription " ++ id.subscription ++ ", not " ++
        context.subscription⟩]
  | none => []

/-- Refuses the account unless its name, its group, its level with the bounds and its regions are in
order; gives the policy and the write region. -/
def validate (a : Account) : Except ConfigurationError (ConsistencyPolicy × String) := do
  match AccountName.check (.string a.name) with
  | .ok () => pure ()
  | .error detail => .error (.invalid "name" detail)
  if a.group.isEmpty then .error (.missing "resource_group" [])
  let level ←
    match a.consistencyLevel with
    | some level => pure level
    | none => .error (.missing "consistency_level" ConsistencyLevel.names)
  let policy ← level.policy a.maxStalenessPrefix a.maxInterval
  let write ←
    match a.writeRegion with
    | some write => pure write
    | none => .error (.missing "write_region" [])
  if a.readRegions.contains write then
    .error (.invalid "read_regions" ("'" ++ write ++ "' is already the write region"))
  return (policy, write)

/-- The network rules that the service is asked for. -/
def wireNetworkRules (a : Account) : List NetworkRule :=
  a.networkRules.map fun subnet => { subnet }

/-- The record that creates the account, with the given policy, regions and data model. -/
def toRecord (a : Account) (context : Context) (kind : AccountKind) (policy : ConsistencyPolicy)
    (regions : List String) : DatabaseAccount :=
  kind.apply {
    location := context.region
    tags := a.tags
    properties := {
      offerType := some "Standard"
      consistencyPolicy := some policy
      locations := prioritized regions
      ipRules := a.ipRangeFilter
      networkFilterEnabled := !a.networkRules.isEmpty
      networkRules := a.wireNetworkRules
      automaticFailover := a.automaticFailover } }

/-- The update that writes the account's properties other than its regions. -/
def propertyUpdate (a : Account) (policy : ConsistencyPolicy) : AccountUpdate where
  tags := some a.tags
  properties := {
    consistencyPolicy := some policy
    ipRules := some a.ipRangeFilter
    networkFilterEnabled := some !a.networkRules.isEmpty
    networkRules := some a.wireNetworkRules
    automaticFailover := some a.automaticFailover }

/-- The update that writes a list of regions. -/
def regionUpdate (regions : List String) : AccountUpdate where
  properties := { locations := some (prioritized regions) }

end Account
end AzureProvisioning
