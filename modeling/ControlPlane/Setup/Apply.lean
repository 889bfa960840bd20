/-
ControlPlane/Setup/Apply.lean

Applying a client profile to an instance (`applyProfile`).

The function runs in the order of the source: parse, read the status, list the
variables, resolve the provider's secret (minting a key and writing it to its
variable when it is absent), map the channels to their fields, wait out the
redeploy the write has triggered, run the setup and read the status again.

`resolveProviderSecret` mints before the channels are looked at; what comes before
the mint and what comes after it are therefore definitions of their own
(`providerSecret`, `channelFields`).
-/
import ControlPlane.Setup.Profile
import ControlPlane.Setup.Clients
import ControlPlane.Railway.Services

namespace Setup

open Js Railway Interaction

/-! ### Channels -/

/-- The members of the payload a channel's secrets go to. -/
inductive ChannelPayloadField where
  | telegramToken
  | discordToken
  | slackBotToken
  | slackAppToken
deriving DecidableEq

/-- The names of these members. -/
def ChannelPayloadField.text : ChannelPayloadField → String
  | .telegramToken => "telegramToken"
  | .discordToken => "discordToken"
  | .slackBotToken => "slackBotToken"
  | .slackAppToken => "slackAppToken"

/-- How many secrets a channel of each type has. -/
def CHANNEL_SECRET_COUNTS : List (String × ℕ) := [("telegram", 1), ("discord", 1), ("slack", 2)]

/-- A member, and the secret it carries. -/
structure ChannelFieldMapping where
  field : ChannelPayloadField
  secretName : String

/-- The rejection of a profile the payload has no place for. -/
def unsupportedProfile (message : String) : Failure := ⟨.unsupportedProfile, message⟩

/-- The fields a channel of a supported type fills. -/
def fieldsOfChannel (channel : ChannelAttachment) : Except Failure (List ChannelFieldMapping) :=
  if channel.type = "slack" then
    match channel.requiredSecretNames[0]?, channel.requiredSecretNames[1]? with
    | some botToken, some appToken =>
      .ok [⟨.slackBotToken, botToken⟩, ⟨.slackAppToken, appToken⟩]
    | _, _ =>
      .error (unsupportedProfile "'slack' channel attachment has malformed requiredSecretNames.")
  else match channel.requiredSecretNames[0]? with
    | some secretName =>
      .ok [⟨if channel.type = "telegram" then .telegramToken else .discordToken, secretName⟩]
    | none => .error (unsupportedProfile
        ("'" ++ channel.type ++ "' channel attachment has no requiredSecretNames."))

/-- The fields of the channels after those whose types were seen. -/
def mapChannelsFrom (seenTypes : List String) :
    List ChannelAttachment → Except Failure (List ChannelFieldMapping)
  | [] => .ok []
  | channel :: rest =>
    match CHANNEL_SECRET_COUNTS.lookup channel.type with
    | none => .error (unsupportedProfile ("Unsupported channel type '" ++ channel.type ++
        "'; /setup/api/run only accepts telegram, discord, and slack."))
    | some expectedCount =>
      if channel.type ∈ seenTypes then
        .error (unsupportedProfile ("Profile has more than one '" ++ channel.type ++
          "' channel attachment; /setup/api/run has only one field per channel type."))
      else if channel.requiredSecretNames.length ≠ expectedCount then
        .error (unsupportedProfile ("'" ++ channel.type ++
          "' channel attachment must declare exactly " ++ toString expectedCount ++
          " requiredSecretNames; found " ++ toString channel.requiredSecretNames.length ++ "."))
      else do
        let mappings ← fieldsOfChannel channel
        let others ← mapChannelsFrom (channel.type :: seenTypes) rest
        .ok (mappings ++ others)

/-- The members the channels of a profile fill. -/
def mapChannelsToPayloadFields (channels : List ChannelAttachment) :
    Except Failure (List ChannelFieldMapping) :=
  mapChannelsFrom [] channels

/-- The rejection of a profile for a secret that is not there. -/
def missingSecret (name service : String) : Failure :=
  ⟨.missingSecret, "Required secret '" ++ name ++ "' not found in Railway variables for service '" ++
    service ++ "'."⟩

/-- `existingVars[name]`, which has to be there. -/
def requiredSecret (existingVars : Json) (service name : String) : Except Failure Value := do
  let value ← readMember existingVars name
  if value.isUndefined then .error (missingSecret name service) else .ok value

/-- The fields with the secrets they carry. -/
def fillFields (existingVars : Json) (service : String) :
    List ChannelFieldMapping → Except Failure (List (String × Value))
  | [] => .ok []
  | mapping :: rest => do
    let value ← requiredSecret existingVars service mapping.secretName
    let others ← fillFields existingVars service rest
    .ok ((mapping.field.text, value) :: others)

/-- What the channels put into the payload. -/
def channelFields (existingVars : Json) (service : String) (channels : List ChannelAttachment) :
    Except Failure (List (String × Value)) := do
  let mappings ← mapChannelsToPayloadFields channels
  fillFields existingVars service mappings

/-! ### The model provider -/

/-- At most one model provider is supported. -/
def soleProvider (profile : ClientProfile) : Except Failure (Option ModelProviderAttachment) :=
  match profile.modelProviders with
  | [] => .ok none
  | [provider] => .ok (some provider)
  | providers => .error (unsupportedProfile ("Profile has " ++ toString providers.length ++
      " modelProviders attachments; this applier supports at most one per /setup/api/run call."))

/-- What is known of the provider's secret before anything is done about it. -/
inductive ProviderSecret where
  | stored (value : Value)
  | toMint (secretName : String) (keyProvisioning : KeyProvisioning)

/-- Whether the provider's secret is stored or to be minted. -/
def providerSecret (provider : ModelProviderAttachment) (existingVars : Json) (service : String) :
    Except Failure ProviderSecret :=
  match provider.requiredSecretNames.head? with
  | none => .error (unsupportedProfile "Model provider attachment has no requiredSecretNames.")
  | some secretName => do
    let existing ← readMember existingVars secretName
    if !existing.isUndefined then .ok (.stored existing)
    else match provider.keyProvisioning with
      | none => .error (missingSecret secretName service)
      | some keyProvisioning => .ok (.toMint secretName keyProvisioning)

/-- The provider's secret, and what it took. -/
structure SecretResolution where
  value : Value
  triggeredRedeploy : Bool
  mintedKeyHash : Option String

/-- Mint a key and write it to its variable. -/
def mintSecret (secretName : String) (keyProvisioning : KeyProvisioning) (requiresRedeploy : Bool)
    (service managementKey : String) : Tool SecretResolution := do
  let minted ← mintOpenRouterKey
    ⟨secretName, keyProvisioning.spendLimitUsd, keyProvisioning.limitReset⟩ managementKey
  writeRailwayVariable ⟨secretName, minted.key, service, some (!requiresRedeploy)⟩
  pure ⟨.json (.str minted.key), requiresRedeploy, some minted.hash⟩

/-- The provider's secret, minted if it has to be. -/
def resolveProviderSecret (provider : ModelProviderAttachment) (existingVars : Json)
    (service managementKey : String) : Tool SecretResolution := do
  let secret ← Prog.ofExcept (providerSecret provider existingVars service)
  match secret with
  | .stored value => pure ⟨value, false, none⟩
  | .toMint secretName keyProvisioning =>
    mintSecret secretName keyProvisioning provider.customProviderApiKeyEnv.isSome service
      managementKey

/-- What the provider puts into the payload. -/
def providerFields (provider : ModelProviderAttachment) (authSecret : Value) :
    List (String × Value) :=
  [("authChoice", .json (.str provider.authChoice)), ("flow", .json (.str provider.flow.text)),
    ("authSecret", authSecret)] ++
  match provider.customProviderApiKeyEnv with
  | some env => [("customProviderApiKeyEnv", .json (.str env))]
  | none => []

/-- What the provider contributes, and what it took. -/
structure ProviderResolution where
  fields : List (String × Value)
  triggeredRedeploy : Bool
  mintedKeyHash : Option String

/-- The provider's part of the payload. -/
def resolveProvider (provider : Option ModelProviderAttachment) (existingVars : Json)
    (service managementKey : String) : Tool ProviderResolution :=
  match provider with
  | none => pure ⟨[], false, none⟩
  | some provider => do
    let resolution ← resolveProviderSecret provider existingVars service managementKey
    pure ⟨providerFields provider resolution.value, resolution.triggeredRedeploy,
      resolution.mintedKeyHash⟩

/-! ### Health -/

/-- The error for an instance that does not become healthy in time. -/
def unhealthy (instanceBaseUrl : String) (timeoutSeconds lastStatus : ℕ) : Failure :=
  ⟨.unhealthy, "Instance healthcheck at '" ++ (healthRequest instanceBaseUrl).url ++
    "' did not become healthy within " ++ toString timeoutSeconds ++ "s (last status: " ++
    toString lastStatus ++ ") before calling /setup/api/run."⟩

/-- The rounds of the health poll; `fuel` bounds their number. -/
def healthRounds (instanceBaseUrl : String) (pollSeconds timeoutSeconds : ℕ) (deadline : ℤ) :
    ℕ → Tool Unit
  | 0 => .diverge
  | fuel + 1 => do
    let response ← getHealth instanceBaseUrl
    if response.ok then pure ()
    else do
      let time ← now
      -- the deadline is looked at before the sleep, so at least one round is made
      if deadline ≤ time then .throw (unhealthy instanceBaseUrl timeoutSeconds response.status)
      else do
        sleep (pollSeconds * 1000)
        healthRounds instanceBaseUrl pollSeconds timeoutSeconds deadline fuel

/-- Poll the health check until it answers with success. -/
def waitForHealthy (fuel : ℕ) (instanceBaseUrl : String) (pollSeconds timeoutSeconds : Option ℕ) :
    Tool Unit := do
  let timeoutSeconds := timeoutSeconds.getD 60
  let time ← now
  healthRounds instanceBaseUrl (pollSeconds.getD 2) timeoutSeconds (time + timeoutSeconds * 1000) fuel

/-! ### The applier -/

/-- The instance a profile is applied to. -/
structure ApplyOptions where
  service : String
  instanceBaseUrl : String
  healthcheckPollSeconds : Option ℕ
  healthcheckTimeoutSeconds : Option ℕ

/-- The clients an application works with. -/
structure ApplyProfileDependencies where
  setupApiClient : SetupApiClient
  openRouterManagementKey : String

/-- Whether the profile was applied or had been. -/
inductive ApplyOutcome where
  | alreadyConfigured
  | applied
deriving DecidableEq

/-- What an application returns. -/
structure ApplyResult where
  outcome : ApplyOutcome
  mintedKeyHash : Option String

/-- The error for an instance that says it is not configured afterwards. -/
def stillNotConfigured : Failure :=
  ⟨.notConfigured, "POST /setup/api/run completed but GET /setup/api/status still does not " ++
    "report configured."⟩

/-- Wait when a redeploy was triggered. -/
def settleRedeploy (fuel : ℕ) (options : ApplyOptions) (redeployTriggered : Bool) : Tool Unit :=
  if redeployTriggered then
    waitForHealthy fuel options.instanceBaseUrl options.healthcheckPollSeconds
      options.healthcheckTimeoutSeconds
  else pure ()

/-- Send the payload and see that the instance is configured. -/
def runSetup (client : SetupApiClient) (payload : Json) (mintedKeyHash : Option String) :
    Tool ApplyResult := do
  let _ ← client.run payload
  let postRunStatus ← client.getStatus
  if isConfigured postRunStatus then pure ⟨.applied, mintedKeyHash⟩ else .throw stillNotConfigured

/-- What follows the provider's secret. -/
def applyChannels (fuel : ℕ) (profile : ClientProfile) (existingVars : Json) (options : ApplyOptions)
    (client : SetupApiClient) (provider : ProviderResolution) : Tool ApplyResult := do
  let fields ← Prog.ofExcept (channelFields existingVars options.service profile.channels)
  settleRedeploy fuel options provider.triggeredRedeploy
  runSetup client (objectOf (provider.fields ++ fields)) provider.mintedKeyHash

/-- What follows the listing of the variables. -/
def applyAttachments (fuel : ℕ) (profile : ClientProfile) (existingVars : Json)
    (options : ApplyOptions) (dependencies : ApplyProfileDependencies) : Tool ApplyResult := do
  let provider ← Prog.ofExcept (soleProvider profile)
  -- this mints and writes, and only then are the channels looked at
  let resolution ← resolveProvider provider existingVars options.service
    dependencies.openRouterManagementKey
  applyChannels fuel profile existingVars options dependencies.setupApiClient resolution

/-- Apply a profile to an instance that is not configured yet. -/
def applyProfile [Zod] (rt : Runtime) (fuel : ℕ) (candidateProfile : Json) (options : ApplyOptions)
    (dependencies : ApplyProfileDependencies) : Tool ApplyResult := do
  let profile ← Prog.ofExcept (parseClientProfile candidateProfile)
  let status ← dependencies.setupApiClient.getStatus
  -- a configured instance is left alone, whatever the profile asks for
  if isConfigured status then pure ⟨.alreadyConfigured, none⟩
  else do
    let existingVars ← listRailwayVariables rt options.service
    applyAttachments fuel profile existingVars options dependencies

end Setup
