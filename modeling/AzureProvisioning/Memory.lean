/-
# The service in memory

A management service that keeps its objects in a store. Keys do not depend on letter case, every call
is recorded, and a planned failure hits the next call of its operation. Two rules of the service are
enforced: an update of the locations keeps the write region, and a change of priorities names every
region of the account once.
-/

import AzureProvisioning.Management
import AzureProvisioning.Text.Lowercase

namespace AzureProvisioning

/-- The objects of the service, the calls so far and the planned failures. -/
structure Memory where
  /-- By group and name in small letters; with the group as it was given. -/
  accounts : Dictionary (String × String) (String × DatabaseAccount) := []
  /-- By name in small letters. -/
  groups : Dictionary String ResourceGroup := []
  calls : List String := []
  /-- Operations whose next call fails. -/
  failing : List String := []
  deriving DecidableEq, Inhabited, Repr

namespace Memory

/-- The subscription in the ids of the service. -/
def subscription : String := "sub"

/-- The key of an account. -/
def accountKey (group name : String) : String × String :=
  (Text.lowercase group, Text.lowercase name)

/-- The key of a group. -/
def groupKey (name : String) : String :=
  Text.lowercase name

/-- The id of a group. -/
def groupId (name : String) : String :=
  ArmId.groupText subscription name

/-- The id of an account. -/
def accountId (group name : String) : String :=
  groupId group ++ "/providers/Microsoft.DocumentDB/databaseAccounts/" ++ name

/-- The account under a key. -/
def account? (m : Memory) (group name : String) : Option DatabaseAccount :=
  (m.accounts.get? (accountKey group name)).map (·.2)

/-- The group under a key. -/
def group? (m : Memory) (name : String) : Option ResourceGroup :=
  m.groups.get? (groupKey name)

/-- Stores an account. -/
def setAccount (m : Memory) (group name : String) (account : DatabaseAccount) : Memory :=
  { m with accounts := m.accounts.insert (accountKey group name) (group, account) }

/-- Stores a group. -/
def setGroup (m : Memory) (name : String) (group : ResourceGroup) : Memory :=
  { m with groups := m.groups.insert (groupKey name) group }

/-- Stores an account that was there before; one without an id gets it. -/
def seedAccount (m : Memory) (group : String) (account : DatabaseAccount) : Memory :=
  let name := account.name.getD ""
  m.setAccount group name { account with id := some (account.id.getD (accountId group name)) }

/-- Plans a failure of the next call of an operation. -/
def failNext (m : Memory) (operation : String) : Memory :=
  { m with failing := m.failing ++ [operation] }

/-- The name of a call's operation. -/
def operationName : Call → String
  | .getAccount .. => "get_database_account"
  | .listAccounts => "list_database_accounts"
  | .listAccountsIn .. => "list_database_accounts_by_resource_group"
  | .putAccount .. => "create_or_update_database_account"
  | .patchAccount .. => "update_database_account"
  | .changePriorities .. => "failover_priority_change"
  | .deleteAccount .. => "delete_database_account"
  | .getGroup .. => "get_resource_group"
  | .listGroups => "list_resource_groups"
  | .putGroup .. => "create_or_update_resource_group"
  | .setGroupTags .. => "update_resource_group_tags"
  | .deleteGroup .. => "delete_resource_group"

/-- What the record of a call says of its arguments. -/
def callDetail : Call → String
  | .getAccount group name => group ++ "/" ++ name
  | .listAccounts => ""
  | .listAccountsIn group => group
  | .putAccount group name _ => group ++ "/" ++ name
  | .patchAccount group name update =>
    match update.properties.locations with
    | some locations =>
      group ++ "/" ++ name ++ " locations=" ++ Text.listed "," (locations.map (·.name))
    | none => group ++ "/" ++ name ++ " properties"
  | .changePriorities group name policies =>
    group ++ "/" ++ name ++ " " ++ Text.listed "," (policies.map (·.location))
  | .deleteAccount group name => group ++ "/" ++ name
  | .getGroup name => name
  | .listGroups => ""
  | .putGroup name _ => name
  | .setGroupTags name _ => name
  | .deleteGroup name => name

/-- The name of the region with priority 0. -/
def writeRegion? (locations : List Location) : Option String :=
  (locations.find? fun l => l.priority = 0).map (·.name)

/-- The account with the properties of an update written. -/
def patched (account : DatabaseAccount) (update : AccountUpdate) : DatabaseAccount :=
  let old := account.properties
  let new := update.properties
  { account with
    tags := update.tags.getD account.tags
    properties := { old with
      consistencyPolicy := new.consistencyPolicy.or old.consistencyPolicy
      locations := new.locations.getD old.locations
      ipRules := new.ipRules.getD old.ipRules
      networkFilterEnabled := new.networkFilterEnabled.getD old.networkFilterEnabled
      networkRules := new.networkRules.getD old.networkRules
      automaticFailover := new.automaticFailover.getD old.automaticFailover } }

/-- Whether an update of the locations leaves the write region in place. -/
def keepsWriteRegion (account : DatabaseAccount) (update : AccountUpdate) : Bool :=
  match update.properties.locations with
  | some locations => writeRegion? locations = writeRegion? account.properties.locations
  | none => true

/-- Whether the names are those of the account's regions, each once. -/
def namesEveryRegion (account : DatabaseAccount) (names : List String) : Bool :=
  let regions := account.properties.locations.map (·.name)
  decide names.Nodup && names.all regions.contains && regions.all names.contains

/-- The account with its locations in the order of the policies. -/
def reordered (account : DatabaseAccount) (policies : List FailoverPolicy) : DatabaseAccount :=
  { account with
    properties.locations :=
      policies.map fun p => { name := p.location, priority := p.priority } }

/-- The account is not there. -/
def noAccount (name : String) : Failure :=
  .notFound ("Account " ++ name ++ " not found")

/-- The group is not there. -/
def noGroup (name : String) : Failure :=
  .notFound ("Resource group " ++ name ++ " not found")

/-- The account as the service stores what it is asked to create. -/
def createdAccount (group name : String) (account : DatabaseAccount) : DatabaseAccount :=
  { account with
    id := some (accountId group name)
    name := some name
    properties := { account.properties with
      provisioningState := some "Succeeded"
      documentEndpoint := some ("https://" ++ name ++ ".documents.azure.com:443/") } }

/-- The group as the service stores what it is asked to create. -/
def createdGroup (name : String) (group : ResourceGroup) : ResourceGroup :=
  { group with
    id := some (groupId name)
    name := some name
    properties := some { provisioningState := some "Succeeded" } }

/-- What a call does when no failure is planned for it. -/
def perform : (c : Call) → Memory → c.Answer × Memory
  | .getAccount group name, m => (.ok (m.account? group name), m)
  | .listAccounts, m => (.ok (m.accounts.map (·.2.2)), m)
  | .listAccountsIn group, m =>
    (.ok ((m.accounts.filter fun e => Text.sameFolded e.2.1 group).map (·.2.2)), m)
  | .putAccount group name account, m =>
    let stored := createdAccount group name account
    (.ok stored, m.setAccount group name stored)
  | .patchAccount group name update, m =>
    match m.accounts.get? (accountKey group name) with
    | none => (.error (noAccount name), m)
    | some (given, account) =>
      if keepsWriteRegion account update then
        let stored := patched account update
        (.ok stored,
          { m with accounts := m.accounts.insert (accountKey group name) (given, stored) })
      else
        (.error (.fault "The write region can only be changed by a failover priority change"), m)
  | .changePriorities group name policies, m =>
    match m.accounts.get? (accountKey group name) with
    | none => (.error (noAccount name), m)
    | some (given, account) =>
      let names := policies.map (·.location)
      if namesEveryRegion account names then
        (.ok (),
          { m with
            accounts := m.accounts.insert (accountKey group name)
              (given, reordered account policies) })
      else
        (.error (.fault ("Failover policies " ++ Text.quotedList names ++
          " must name every region of the account exactly once")), m)
  | .deleteAccount group name, m =>
    match m.accounts.get? (accountKey group name) with
    | none => (.error (noAccount name), m)
    | some _ => (.ok (), { m with accounts := m.accounts.erase (accountKey group name) })
  | .getGroup name, m => (.ok (m.group? name), m)
  | .listGroups, m => (.ok (m.groups.map (·.2)), m)
  | .putGroup name group, m =>
    let stored := createdGroup name group
    (.ok stored, m.setGroup name stored)
  | .setGroupTags name tags, m =>
    match m.group? name with
    | none => (.error (noGroup name), m)
    | some group =>
      let stored := { group with tags }
      (.ok stored, m.setGroup name stored)
  | .deleteGroup name, m =>
    match m.group? name with
    | none => (.error (noGroup name), m)
    | some _ => (.ok (), { m with groups := m.groups.erase (groupKey name) })

/-- Answers a call: records it, and fails if a failure is planned for it. -/
def answer (c : Call) (m : Memory) : c.Answer × Memory :=
  let operation := operationName c
  let m := { m with calls := m.calls ++ [operation ++ " " ++ callDetail c] }
  if m.failing.contains operation then
    (.error (.fault (operation ++ " failed (injected)")),
      { m with failing := m.failing.erase operation })
  else perform c m

/-- Runs an operation on the service. -/
def run {α : Type} (operation : Operation α) (m : Memory) : Ran Call Memory α :=
  operation.run answer m

end Memory
end AzureProvisioning
