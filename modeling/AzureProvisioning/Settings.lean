/-
# Provider settings

The subscription, the region, the access token and the endpoint of the resource manager come from the
attributes of the provider block, else from the environment. The token comes from the environment
alone, and it is not shown.
-/

import AzureProvisioning.Region.Basic
import AzureProvisioning.Text.Quoted
import AzureProvisioning.Value

namespace AzureProvisioning

/-- What a provider needs to talk to the resource manager. -/
structure Settings where
  subscription : String
  /-- In programmatic form. -/
  region : String
  token : String
  /-- Base address of the resource manager. -/
  endpoint : String
  deriving DecidableEq, Inhabited, Repr

/-- Why there are no settings. -/
inductive SettingsError
  | missing (name : String)
  | invalid (key detail : String)
  deriving DecidableEq, Inhabited, Repr

/-- The text of a settings error. -/
def SettingsError.message : SettingsError → String
  | missing name => "Missing required setting: " ++ name
  | invalid key detail => "Invalid setting '" ++ key ++ "': " ++ detail

namespace Settings

/-- The public resource manager. -/
def defaultEndpoint : String := "https://management.azure.com"

/-- The region of new objects when none is set. -/
def defaultRegion : String := "eastus"

/-- A variable of the environment; the empty text counts as unset. -/
def ofEnvironment? (environment : Dictionary String String) (name : String) : Option String :=
  (environment.get? name).filter (!·.isEmpty)

/-- A setting of the provider block, else of the environment. -/
def setting (environment : Dictionary String String) (attributes : Attributes)
    (key name : String) : Except SettingsError (Option String) :=
  match attributes.get? key with
  | some (.string s) => .ok (some s)
  | some _ => .error (.invalid key "expected a string")
  | none => .ok (ofEnvironment? environment name)

/-- A setting that has to be there. -/
def required (name : String) : Option String → Except SettingsError String
  | some s => .ok s
  | none => .error (.missing name)

/-- The settings of a provider block in an environment. -/
def load (environment : Dictionary String String) (attributes : Attributes) :
    Except SettingsError Settings := do
  let subscription ← setting environment attributes "subscription_id" "AZURE_SUBSCRIPTION_ID"
  let subscription ← required "AZURE_SUBSCRIPTION_ID" subscription
  let region ← setting environment attributes "region" "AZURE_REGION"
  let endpoint ← setting environment attributes "endpoint" "AZURE_RESOURCE_MANAGER_ENDPOINT"
  let token ← required "AZURE_ACCESS_TOKEN" (ofEnvironment? environment "AZURE_ACCESS_TOKEN")
  return {
    subscription
    region := (region.map Region.normalize).getD defaultRegion
    token
    endpoint :=
      (endpoint.map fun e => String.ofList (Text.trimEnd '/' e.toList)).getD defaultEndpoint }

/-- How the settings are shown: without the token. -/
def shown (settings : Settings) : String :=
  "AzureConfig \x7b subscription_id: " ++ Text.quoted settings.subscription ++
    ", region: " ++ Text.quoted settings.region ++
    ", access_token: " ++ Text.quoted "<redacted>" ++
    ", endpoint: " ++ Text.quoted settings.endpoint ++ " \x7d"

end Settings
end AzureProvisioning
