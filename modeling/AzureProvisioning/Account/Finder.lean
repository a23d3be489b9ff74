/-
# Finding accounts

Accounts by id, group or name. An id that names no account of the subscription matches nothing. Without
filters every account of the subscription is found.
-/

import AzureProvisioning.Account.Lifecycle
import AzureProvisioning.Filters

namespace AzureProvisioning
namespace Account

/-- The keys that a query for accounts may filter by. -/
def filterKeys : List String := ["id", "resource_group", "name"]

/-- The accounts of records, in order. -/
def takeOverAll : List DatabaseAccount → Operation (List Account)
  | [] => return []
  | record :: records => do
    let a ← takeOver {} record
    return a :: (← takeOverAll records)

/-- Every account of the subscription. -/
def findAll : Operation (List Account) := do
  takeOverAll (← Operation.request .listAccounts)

/-- The records that the filters by id and group leave. -/
def candidates (context : Context) (filters : Filters) : Operation (List DatabaseAccount) :=
  match filters.get? "id", filters.get? "resource_group" with
  | some text, _ =>
    match ArmId.parse? text with
    | some id =>
      if id.isType armType && context.owns id then do
        return (← Operation.request (.getAccount id.group id.name)).toList
      else return []
    | none => return []
  | none, some group => Operation.request (.listAccountsIn group)
  | none, none => Operation.request .listAccounts

/-- How a query's filters are shown. -/
def shownFilters (filters : Filters) : String :=
  "Filters \x7b entries: [" ++
    Text.listed ", " (filters.map fun e =>
      "(" ++ Text.quoted e.1 ++ ", " ++ Text.quoted e.2 ++ ")") ++ "] \x7d"

/-- The accounts that all filters admit. -/
def find (context : Context) (filters : Filters) : Operation (List Account) := do
  Program.ofCheck (filters.checkKeys filterKeys)
  if filters.isEmpty then findAll
  else
    let records ← candidates context filters
    Program.note .debug
      ("Found " ++ toString records.length ++ " account(s) for filters " ++ shownFilters filters)
    let accounts ← takeOverAll records
    return accounts.filter fun a =>
      filters.admits "name" a.name && filters.admits "resource_group" a.group

end Account
end AzureProvisioning
