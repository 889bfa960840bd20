/-
ControlPlane/Setup/Regression.lean

The recurring check of an instance that is configured (`runRegressionCheck`): mint
a key, write it, look at the instance, delete the key again.

The checks cannot end the function: what they throw is caught, and so is what the
deletion throws.  `attempt` is a `try` whose error is kept as a value.
-/
import ControlPlane.Setup.Apply

namespace Setup

open Js Railway Interaction

/-- `try { ... } catch (caught) { ... }`, with the error as a value. -/
def attempt {α : Type} (p : Tool α) : Tool (Except Failure α) :=
  Prog.tryCatch (p >>= fun a => pure (.ok a)) fun e => pure (.error e)

/-- The client that is checked. -/
structure RegressionCheckOptions where
  service : String
  instanceBaseUrl : String
  profile : Json
  setupUsername : String
  setupPassword : String

/-- What a check returns. -/
structure RegressionCheckResult where
  passed : Bool
  statusConfigured : Option Bool
  healthzStatus : Option ℕ
  error : Option String
  mintedKeyHash : String
  keyDeleted : Bool

/-- What a profile says about the key to check with. -/
structure RegressionTarget where
  secretName : String
  keyProvisioning : KeyProvisioning

/-- The profile has to declare exactly one provider, with a secret to mint. -/
def regressionTarget (profile : ClientProfile) : Except Failure RegressionTarget :=
  match profile.modelProviders with
  | [provider] =>
    match provider.requiredSecretNames.head? with
    | none => .error (unsupportedProfile "Model provider attachment has no requiredSecretNames.")
    | some secretName =>
      match provider.keyProvisioning with
      | none => .error (unsupportedProfile ("Model provider attachment has no keyProvisioning " ++
          "intent; regression-check only supports the managed-tier mint/delete cycle."))
      | some keyProvisioning => .ok ⟨secretName, keyProvisioning⟩
  | providers => .error (unsupportedProfile ("Profile must declare exactly one modelProviders " ++
      "attachment for a regression check; found " ++ toString providers.length ++ "."))

/-- What the checks have found. -/
structure Verification where
  statusConfigured : Option Bool
  healthzStatus : Option ℕ
  error : Option String

/-- Whether the instance has passed. -/
def Verification.passed (v : Verification) : Bool :=
  v.statusConfigured == some true && v.healthzStatus == some 200

/-- The text about an instance that has not passed. -/
def checksFailed (statusConfigured : Bool) (healthzStatus : ℕ) : String :=
  "regression check failed: statusConfigured=" ++ (Json.bool statusConfigured).display ++
    ", healthzStatus=" ++ toString healthzStatus

/-- What the two answers come to. -/
def checked (statusConfigured : Bool) (healthzStatus : ℕ) : Verification where
  statusConfigured := some statusConfigured
  healthzStatus := some healthzStatus
  error := if statusConfigured && healthzStatus == 200 then none
    else some (checksFailed statusConfigured healthzStatus)

/-- Write the key and look at the instance; what was found before an error stays. -/
def verifyKey (options : RegressionCheckOptions) (secretName key : String) :
    Tool Verification := do
  let client := createSetupApiClient options.instanceBaseUrl
    (some ⟨options.setupUsername, options.setupPassword⟩)
  let status ← attempt do
    writeRailwayVariable ⟨secretName, key, options.service, some true⟩
    client.getStatus
  match status with
  | .error e => pure ⟨none, none, some e.message⟩
  | .ok status => do
    let health ← attempt (getHealth options.instanceBaseUrl)
    match health with
    | .error e => pure ⟨some (isConfigured status), none, some e.message⟩
    | .ok response => pure (checked (isConfigured status) response.status)

/-- The result, in which a deletion that failed is an error of its own. -/
def regressionResult (v : Verification) (mintedKeyHash : String) (deleted : Except Failure Unit) :
    RegressionCheckResult :=
  match deleted with
  | .ok () =>
    ⟨v.passed, v.statusConfigured, v.healthzStatus, v.error, mintedKeyHash, true⟩
  | .error e =>
    let error := match v.error with
      | some error => error ++ "; additionally, key deletion failed: " ++ e.message
      | none => "key deletion failed: " ++ e.message
    ⟨false, v.statusConfigured, v.healthzStatus, some error, mintedKeyHash, false⟩

/-- The check behind the mint. -/
def checkMinted (options : RegressionCheckOptions) (managementKey secretName : String)
    (minted : MintedOpenRouterKey) : Tool RegressionCheckResult := do
  let v ← verifyKey options secretName minted.key
  -- the `finally`: the deletion is tried whatever the checks have found
  let deleted ← attempt (deleteOpenRouterKey minted.hash managementKey)
  pure (regressionResult v minted.hash deleted)

/-- Check a client with a key that is minted for it and deleted afterwards. -/
def runRegressionCheck [Zod] (options : RegressionCheckOptions) (managementKey : String) :
    Tool RegressionCheckResult := do
  let target ← Prog.ofExcept (parseClientProfile options.profile >>= regressionTarget)
  let minted ← mintOpenRouterKey ⟨target.secretName, target.keyProvisioning.spendLimitUsd,
    target.keyProvisioning.limitReset⟩ managementKey
  checkMinted options managementKey target.secretName minted

end Setup
