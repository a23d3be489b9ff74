/-
# Settings that are loaded

A setting is what the provider block says, else what the environment says (`Counts`). An empty variable
of the environment counts as unset, so it makes no difference whether it is there
(`load_eq_of_environment`). The block is taken at its word: its texts count when they are empty, and so
does a text of which nothing is left in the form that is kept, a region of separators or an endpoint of
slashes, wherever it comes from.

Settings that are loaded therefore have a token, a region in programmatic form and no slash at the end
of the endpoint, but the subscription, the region and the endpoint can be empty, and `load_blank_iff`
says when they are.
-/

import AzureProvisioning.Proofs.Attributes
import AzureProvisioning.Proofs.Region
import AzureProvisioning.Settings

namespace AzureProvisioning

namespace Text

theorem trimEnd_eq_nil_iff {c : Char} {s : List Char} : trimEnd c s = [] ↔ ∀ d ∈ s, d = c := by
  rw [trimEnd, List.reverse_eq_nil_iff, List.dropWhile_eq_nil_iff]
  simp

theorem getLast?_trimEnd (c : Char) (s : List Char) : (trimEnd c s).getLast? ≠ some c := by
  rw [trimEnd, List.getLast?_reverse]
  intro h
  have hkept := List.head?_dropWhile_not (· = c) s.reverse
  rw [h] at hkept
  simp at hkept

end Text

namespace Settings

variable {environment other : Dictionary String String} {attributes : Attributes} {settings : Settings}
  {key name text : String} {found : Option String}

/-- The text counts as the setting: the block has it, or the block does not have the setting and the
environment has it, not empty. -/
def Counts (environment : Dictionary String String) (attributes : Attributes) (key name text : String) :
    Prop :=
  attributes.get? key = some (.string text) ∨
    attributes.get? key = none ∧ environment.get? name = some text ∧ text ≠ ""

theorem ofEnvironment?_eq_some_iff :
    ofEnvironment? environment name = some text ↔ environment.get? name = some text ∧ text ≠ "" := by
  simp [ofEnvironment?, Option.filter_eq_some_iff]

/-- What is found as a setting is what counts as the setting. -/
theorem setting_eq_some_iff :
    setting environment attributes key name = .ok (some text) ↔
      Counts environment attributes key name text := by
  unfold setting Counts
  cases attributes.get? key with
  | none => simp [ofEnvironment?_eq_some_iff]
  | some value => cases value <;> simp

theorem counts_of_required
    (h : (setting environment attributes key name >>= required name) = .ok text) :
    Counts environment attributes key name text := by
  obtain ⟨found, hfound, hrequired⟩ := bind_eq_ok.1 h
  cases found with
  | none => cases hrequired
  | some s =>
    obtain rfl : s = text := Except.ok.inj hrequired
    exact setting_eq_some_iff.1 hfound

/-- A setting with a default is empty when nothing is left of a text that counts. -/
theorem getD_eq_empty_iff {keep : String → String} {default : String} (hdefault : default ≠ "")
    (hfound : setting environment attributes key name = .ok found) :
    (found.map keep).getD default = "" ↔
      ∃ text, Counts environment attributes key name text ∧ keep text = "" := by
  simp only [← setting_eq_some_iff, hfound, Except.ok.injEq]
  cases found with
  | none => simpa using hdefault
  | some text => simp

/-- Where the settings that are loaded come from. -/
structure Loaded (environment : Dictionary String String) (attributes : Attributes)
    (settings : Settings) : Prop where
  subscription : Counts environment attributes "subscription_id" "AZURE_SUBSCRIPTION_ID"
    settings.subscription
  region : ∃ found, setting environment attributes "region" "AZURE_REGION" = .ok found ∧
    settings.region = (found.map Region.normalize).getD defaultRegion
  endpoint : ∃ found,
    setting environment attributes "endpoint" "AZURE_RESOURCE_MANAGER_ENDPOINT" = .ok found ∧
    settings.endpoint =
      (found.map fun e => String.ofList (Text.trimEnd '/' e.toList)).getD defaultEndpoint
  token : environment.get? "AZURE_ACCESS_TOKEN" = some settings.token ∧ settings.token ≠ ""

theorem loaded_of_load (h : load environment attributes = .ok settings) :
    Loaded environment attributes settings := by
  simp only [load, bind_eq_ok] at h
  obtain ⟨found, hfound, subscription, hsubscription, region, hregion, endpoint, hendpoint, token,
    htoken, hsettings⟩ := h
  obtain rfl := Except.ok.inj hsettings
  refine ⟨counts_of_required (bind_eq_ok.2 ⟨found, hfound, hsubscription⟩), ⟨region, hregion, rfl⟩,
    ⟨endpoint, hendpoint, rfl⟩, ofEnvironment?_eq_some_iff.1 ?_⟩
  cases hvariable : ofEnvironment? environment "AZURE_ACCESS_TOKEN" with
  | none =>
    rw [hvariable] at htoken
    cases htoken
  | some s =>
    rw [hvariable] at htoken
    exact congrArg some (Except.ok.inj htoken)

/-- Empty variables of the environment make no difference. -/
theorem load_eq_of_environment
    (h : ∀ name text, text ≠ "" → (other.get? name = some text ↔ environment.get? name = some text)) :
    load other attributes = load environment attributes := by
  have hvariable : ofEnvironment? other = ofEnvironment? environment := by
    funext name
    refine Option.ext fun text => ?_
    rw [ofEnvironment?_eq_some_iff, ofEnvironment?_eq_some_iff]
    exact and_congr_left fun hne => h name text hne
  unfold load setting
  rw [hvariable]

/-- **What settings can lack.** Empty variables of the environment make no difference. Settings that are
loaded have a token, a region in programmatic form and no slash at the end of the endpoint. The
subscription is empty when the block has an empty text for it, whatever the environment has; the region
when nothing is left of the text that counts, and the endpoint when the text that counts has nothing but
slashes. -/
theorem load_blank_iff (environment : Dictionary String String) (attributes : Attributes) :
    (∀ other : Dictionary String String,
      (∀ name text, text ≠ "" → (other.get? name = some text ↔ environment.get? name = some text)) →
        load other attributes = load environment attributes) ∧
    ∀ settings, load environment attributes = .ok settings →
      settings.token ≠ "" ∧
      Region.normalize settings.region = settings.region ∧
      settings.endpoint.toList.getLast? ≠ some '/' ∧
      (settings.subscription = "" ↔ attributes.get? "subscription_id" = some (.string "")) ∧
      (settings.region = "" ↔ ∃ text,
        Counts environment attributes "region" "AZURE_REGION" text ∧ Region.normalize text = "") ∧
      (settings.endpoint = "" ↔ ∃ text,
        Counts environment attributes "endpoint" "AZURE_RESOURCE_MANAGER_ENDPOINT" text ∧
          ∀ c ∈ text.toList, c = '/') := by
  refine ⟨fun other h => load_eq_of_environment h, fun settings h => ?_⟩
  obtain ⟨hsubscription, ⟨region, hregion, hkept⟩, ⟨endpoint, hendpoint, htrimmed⟩, -, htoken⟩ :=
    loaded_of_load h
  refine ⟨htoken, ?_, ?_, ⟨fun hempty => ?_, fun hblock => ?_⟩, ?_, ?_⟩
  · rw [hkept]
    cases region with
    | none => decide
    | some text => exact Region.normalize_normalize text
  · rw [htrimmed]
    cases endpoint with
    | none => decide
    | some text => simpa using Text.getLast?_trimEnd '/' text.toList
  · rw [hempty] at hsubscription
    obtain hblock | ⟨-, -, hne⟩ := hsubscription
    · exact hblock
    · exact absurd rfl hne
  · obtain htext | ⟨hnone, -⟩ := hsubscription
    · exact Value.string.inj (Option.some.inj (htext.symm.trans hblock))
    · exact nomatch hnone.symm.trans hblock
  · rw [hkept]
    exact getD_eq_empty_iff (by decide) hregion
  · rw [htrimmed, getD_eq_empty_iff (by decide) hendpoint]
    simp [Text.trimEnd_eq_nil_iff]

/-- The block has an empty subscription, which the environment has, a region of one separator and an
endpoint of one slash: the settings are loaded, and none of the three is there. -/
theorem load_blank_iff_block :
    let environment : Dictionary String String :=
      [("AZURE_SUBSCRIPTION_ID", "sub"), ("AZURE_ACCESS_TOKEN", "token"), ("AZURE_REGION", "")]
    let attributes : Attributes :=
      [("subscription_id", .string ""), ("region", .string "-"), ("endpoint", .string "/")]
    let settings : Settings := { subscription := "", region := "", token := "token", endpoint := "" }
    load environment attributes = .ok settings ∧
      load (environment.erase "AZURE_REGION") attributes = .ok settings ∧
      settings.token ≠ "" ∧ settings.subscription = "" ∧ settings.region = "" ∧
      settings.endpoint = "" := by
  intro environment attributes settings
  have hload : load environment attributes = .ok settings := by decide +kernel
  obtain ⟨henvironment, hloaded⟩ := load_blank_iff environment attributes
  obtain ⟨htoken, -, -, hsubscription, hregion, hendpoint⟩ := hloaded settings hload
  refine ⟨hload, (henvironment _ fun name text hne => ?_).trans hload, htoken, hsubscription.2 rfl,
    hregion.2 ⟨"-", .inl rfl, by decide⟩, hendpoint.2 ⟨"/", .inl rfl, by simp⟩⟩
  rw [Dictionary.get?_erase]
  by_cases hname : "AZURE_REGION" = name
  · subst hname
    simpa [environment, Dictionary.get?_cons] using hne.symm
  · rw [if_neg hname]

end Settings
end AzureProvisioning
