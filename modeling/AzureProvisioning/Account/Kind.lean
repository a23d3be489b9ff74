/-
# Data models of accounts

A declaration selects the data model of an account by name; the service knows it by the kind of the
account and one capability:

| data model | kind | capability |
| --- | --- | --- |
| `AzureTable` | `GlobalDocumentDB` | `EnableTable` |
| `Cassandra` | `GlobalDocumentDB` | `EnableCassandra` |
| `Gremlin` | `GlobalDocumentDB` | `EnableGremlin` |
| `MongoDB` | `MongoDB` | |
| `Sql` | `GlobalDocumentDB` | |
-/

import AzureProvisioning.Schema.Defect
import AzureProvisioning.Text.Basic
import AzureProvisioning.Wire.Account

namespace AzureProvisioning

/-- The data model of an account. -/
inductive AccountKind
  | azureTable
  | cassandra
  | gremlin
  | mongoDB
  | sql
  deriving DecidableEq, Inhabited, Repr

namespace AccountKind

/-- All data models, in the order in which error texts name them. -/
def all : List AccountKind := [azureTable, cassandra, gremlin, mongoDB, sql]

/-- The name of a data model in declarations. -/
def name : AccountKind → String
  | azureTable => "AzureTable"
  | cassandra => "Cassandra"
  | gremlin => "Gremlin"
  | mongoDB => "MongoDB"
  | sql => "Sql"

/-- The names of all data models. -/
def names : List String := all.map name

/-- The data model that a text selects, in any letter case and after its last dot. -/
def parse (s : String) : Except ConfigurationError AccountKind :=
  match all.find? fun k => Text.sameFolded k.name (Text.lastPart s) with
  | some k => .ok k
  | none => .error (.invalidValue "kind" s names)

/-- The kind that the service has for a data model. -/
def wireKind : AccountKind → String
  | mongoDB => "MongoDB"
  | _ => "GlobalDocumentDB"

/-- The capability that marks a data model. -/
def capability? : AccountKind → Option String
  | azureTable => some "EnableTable"
  | cassandra => some "EnableCassandra"
  | gremlin => some "EnableGremlin"
  | mongoDB => none
  | sql => none

/-- The account with the data model set. -/
def apply (kind : AccountKind) (account : DatabaseAccount) : DatabaseAccount :=
  { account with
    kind := some kind.wireKind
    properties.capabilities := account.properties.capabilities ++ kind.capability?.toList }

/-- Whether the account has the capability, in any letter case. -/
def hasCapability (account : DatabaseAccount) (capability : String) : Bool :=
  account.properties.capabilities.any fun c => Text.sameFolded c capability

/-- The data model of an account, if it is one of these. -/
def ofAccount? (account : DatabaseAccount) : Option AccountKind :=
  match account.kind with
  | none => none
  | some kind =>
    if Text.sameFolded kind "MongoDB" then some mongoDB
    else if Text.sameFolded kind "GlobalDocumentDB" then
      if hasCapability account "EnableCassandra" then some cassandra
      else if hasCapability account "EnableGremlin" then some gremlin
      else if hasCapability account "EnableTable" then some azureTable
      else some sql
    else none

end AccountKind
end AzureProvisioning
