/-
# Records of database accounts

What the management service keeps of a database account, as far as it is read or written here, with
the JSON form of each record.
-/

import AzureProvisioning.Json.Record

namespace AzureProvisioning

/-- How consistent the reads of an account are. -/
structure ConsistencyPolicy where
  level : String
  maxStalenessPrefix : Option Int64 := none
  maxInterval : Option Int64 := none
  deriving DecidableEq, Inhabited, Repr

/-- A region of an account. -/
structure Location where
  name : String
  priority : Int32
  zoneRedundant : Bool := false
  deriving DecidableEq, Inhabited, Repr

/-- A subnet that may reach an account. -/
structure NetworkRule where
  subnet : String
  ignoreMissingEndpoint : Bool := false
  deriving DecidableEq, Inhabited, Repr

/-- The properties of an account. -/
structure AccountProperties where
  provisioningState : Option String := none
  documentEndpoint : Option String := none
  offerType : Option String := none
  consistencyPolicy : Option ConsistencyPolicy := none
  locations : List Location := []
  capabilities : List String := []
  ipRules : List String := []
  networkFilterEnabled : Bool := false
  networkRules : List NetworkRule := []
  automaticFailover : Bool := false
  deriving DecidableEq, Inhabited, Repr

/-- A database account. -/
structure DatabaseAccount where
  id : Option String := none
  name : Option String := none
  location : String := ""
  kind : Option String := none
  tags : Dictionary String String := []
  properties : AccountProperties := {}
  deriving DecidableEq, Inhabited, Repr

/-- The properties that an update writes; the others stay as they are. -/
structure AccountUpdateProperties where
  consistencyPolicy : Option ConsistencyPolicy := none
  locations : Option (List Location) := none
  ipRules : Option (List String) := none
  networkFilterEnabled : Option Bool := none
  networkRules : Option (List NetworkRule) := none
  automaticFailover : Option Bool := none
  deriving DecidableEq, Inhabited, Repr

/-- An update of an account. -/
structure AccountUpdate where
  tags : Option (Dictionary String String) := none
  properties : AccountUpdateProperties := {}
  deriving DecidableEq, Inhabited, Repr

/-- The priority that a region gets. -/
structure FailoverPolicy where
  location : String
  priority : Int32
  deriving DecidableEq, Inhabited, Repr

namespace ConsistencyPolicy

def toJson (p : ConsistencyPolicy) : Json :=
  .ofMembers [
    ("defaultConsistencyLevel", some (.string p.level)),
    ("maxStalenessPrefix", p.maxStalenessPrefix.map fun n => .int n.toInt),
    ("maxIntervalInSeconds", p.maxInterval.map fun n => .int n.toInt)]

def ofJson? (j : Json) : Option ConsistencyPolicy :=
  match j.fields? ["defaultConsistencyLevel", "maxStalenessPrefix", "maxIntervalInSeconds"] with
  | some [level, staleness, interval] => do
    return {
      level := ← Json.required? Json.string? level
      maxStalenessPrefix := ← Json.optional? Json.int64? staleness
      maxInterval := ← Json.optional? Json.int64? interval }
  | _ => none

end ConsistencyPolicy

namespace Location

def toJson (l : Location) : Json :=
  .object [
    ("locationName", .string l.name),
    ("failoverPriority", .int l.priority.toInt),
    ("isZoneRedundant", .bool l.zoneRedundant)]

def ofJson? (j : Json) : Option Location :=
  match j.fields? ["locationName", "failoverPriority", "isZoneRedundant"] with
  | some [name, priority, redundant] => do
    return {
      name := ← Json.required? Json.string? name
      priority := ← Json.required? Json.int32? priority
      zoneRedundant := ← Json.defaulted? false Json.bool? redundant }
  | _ => none

end Location

namespace NetworkRule

def toJson (r : NetworkRule) : Json :=
  .object [
    ("id", .string r.subnet),
    ("ignoreMissingVNetServiceEndpoint", .bool r.ignoreMissingEndpoint)]

def ofJson? (j : Json) : Option NetworkRule :=
  match j.fields? ["id", "ignoreMissingVNetServiceEndpoint"] with
  | some [subnet, ignoreMissing] => do
    return {
      subnet := ← Json.required? Json.string? subnet
      ignoreMissingEndpoint := ← Json.defaulted? false Json.bool? ignoreMissing }
  | _ => none

end NetworkRule

/-- The JSON form of a record with one text field. -/
def Json.ofSingle (field s : String) : Json :=
  .object [(field, .string s)]

/-- Reads a record with one text field. -/
def Json.single? (field : String) (j : Json) : Option String :=
  match j.fields? [field] with
  | some [s] => Json.required? Json.string? s
  | _ => none

namespace AccountProperties

def toJson (p : AccountProperties) : Json :=
  .ofMembers [
    ("provisioningState", p.provisioningState.map .string),
    ("documentEndpoint", p.documentEndpoint.map .string),
    ("databaseAccountOfferType", p.offerType.map .string),
    ("consistencyPolicy", p.consistencyPolicy.map ConsistencyPolicy.toJson),
    ("locations", some (.array (p.locations.map Location.toJson))),
    ("capabilities", some (.array (p.capabilities.map (Json.ofSingle "name")))),
    ("ipRules", some (.array (p.ipRules.map (Json.ofSingle "ipAddressOrRange")))),
    ("isVirtualNetworkFilterEnabled", some (.bool p.networkFilterEnabled)),
    ("virtualNetworkRules", some (.array (p.networkRules.map NetworkRule.toJson))),
    ("enableAutomaticFailover", some (.bool p.automaticFailover))]

def ofJson? (j : Json) : Option AccountProperties :=
  match j.fields? ["provisioningState", "documentEndpoint", "databaseAccountOfferType",
      "consistencyPolicy", "locations", "capabilities", "ipRules",
      "isVirtualNetworkFilterEnabled", "virtualNetworkRules", "enableAutomaticFailover"] with
  | some [state, endpoint, offer, policy, locations, capabilities, ipRules, filterEnabled,
      networkRules, failover] => do
    return {
      provisioningState := ← Json.optional? Json.string? state
      documentEndpoint := ← Json.optional? Json.string? endpoint
      offerType := ← Json.optional? Json.string? offer
      consistencyPolicy := ← Json.optional? ConsistencyPolicy.ofJson? policy
      locations := ← Json.defaulted? [] (Json.arrayOf? Location.ofJson?) locations
      capabilities := ← Json.defaulted? [] (Json.arrayOf? (Json.single? "name")) capabilities
      ipRules := ← Json.defaulted? [] (Json.arrayOf? (Json.single? "ipAddressOrRange")) ipRules
      networkFilterEnabled := ← Json.defaulted? false Json.bool? filterEnabled
      networkRules := ← Json.defaulted? [] (Json.arrayOf? NetworkRule.ofJson?) networkRules
      automaticFailover := ← Json.defaulted? false Json.bool? failover }
  | _ => none

end AccountProperties

namespace DatabaseAccount

def toJson (a : DatabaseAccount) : Json :=
  .ofMembers [
    ("id", a.id.map .string),
    ("name", a.name.map .string),
    ("location", some (.string a.location)),
    ("kind", a.kind.map .string),
    ("tags", some (.ofStringMap a.tags)),
    ("properties", some a.properties.toJson)]

def ofJson? (j : Json) : Option DatabaseAccount :=
  match j.fields? ["id", "name", "location", "kind", "tags", "properties"] with
  | some [id, name, location, kind, tags, properties] => do
    return {
      id := ← Json.optional? Json.string? id
      name := ← Json.optional? Json.string? name
      location := ← Json.defaulted? "" Json.string? location
      kind := ← Json.optional? Json.string? kind
      tags := ← Json.defaulted? [] Json.stringMap? tags
      properties := ← Json.defaulted? {} AccountProperties.ofJson? properties }
  | _ => none

end DatabaseAccount

namespace AccountUpdateProperties

def toJson (p : AccountUpdateProperties) : Json :=
  .ofMembers [
    ("consistencyPolicy", p.consistencyPolicy.map ConsistencyPolicy.toJson),
    ("locations", p.locations.map fun ls => .array (ls.map Location.toJson)),
    ("ipRules", p.ipRules.map fun rs => .array (rs.map (Json.ofSingle "ipAddressOrRange"))),
    ("isVirtualNetworkFilterEnabled", p.networkFilterEnabled.map .bool),
    ("virtualNetworkRules", p.networkRules.map fun rs => .array (rs.map NetworkRule.toJson)),
    ("enableAutomaticFailover", p.automaticFailover.map .bool)]

def ofJson? (j : Json) : Option AccountUpdateProperties :=
  match j.fields? ["consistencyPolicy", "locations", "ipRules", "isVirtualNetworkFilterEnabled",
      "virtualNetworkRules", "enableAutomaticFailover"] with
  | some [policy, locations, ipRules, filterEnabled, networkRules, failover] => do
    return {
      consistencyPolicy := ← Json.optional? ConsistencyPolicy.ofJson? policy
      locations := ← Json.optional? (Json.arrayOf? Location.ofJson?) locations
      ipRules := ← Json.optional? (Json.arrayOf? (Json.single? "ipAddressOrRange")) ipRules
      networkFilterEnabled := ← Json.optional? Json.bool? filterEnabled
      networkRules := ← Json.optional? (Json.arrayOf? NetworkRule.ofJson?) networkRules
      automaticFailover := ← Json.optional? Json.bool? failover }
  | _ => none

end AccountUpdateProperties

namespace AccountUpdate

def toJson (u : AccountUpdate) : Json :=
  .ofMembers [("tags", u.tags.map Json.ofStringMap), ("properties", some u.properties.toJson)]

def ofJson? (j : Json) : Option AccountUpdate :=
  match j.fields? ["tags", "properties"] with
  | some [tags, properties] => do
    return {
      tags := ← Json.optional? Json.stringMap? tags
      properties := ← Json.defaulted? {} AccountUpdateProperties.ofJson? properties }
  | _ => none

end AccountUpdate

namespace FailoverPolicy

def toJson (p : FailoverPolicy) : Json :=
  .object [("locationName", .string p.location), ("failoverPriority", .int p.priority.toInt)]

def ofJson? (j : Json) : Option FailoverPolicy :=
  match j.fields? ["locationName", "failoverPriority"] with
  | some [name, priority] => do
    return {
      location := ← Json.required? Json.string? name
      priority := ← Json.required? Json.int32? priority }
  | _ => none

/-- The body of a request that changes priorities. -/
def listToJson (policies : List FailoverPolicy) : Json :=
  .object [("failoverPolicies", .array (policies.map toJson))]

end FailoverPolicy
end AzureProvisioning
