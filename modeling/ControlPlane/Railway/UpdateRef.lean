/-
ControlPlane/Railway/UpdateRef.lean

Changing a variable of a live client service: a ref update
(`updateClientRefVariable`) and a token rotation (`rotateGatewayToken`).

Both end in the same pipeline, `writeAndConfirm`: write the variable without
deploying, redeploy, wait for a deployment other than the one seen before, wait
for an authenticated 200, and read the variable back.  They differ in what they
check first and in their texts; a `LiveWrite` carries both the target and the
texts.

* `planUpdate` is the comparison a ref update makes before anything is changed;
* `RefVerificationError`s are the failures of kind `refVerification`: the
  instance answers, but the value is not confirmed.

`writeAndConfirm_cases` is the one fact about the pipeline the results below it
use: what a run has seen when it returns, and which of the two errors it throws
otherwise.
-/
import ControlPlane.Railway.Services

namespace Railway

open Js Interaction

/-- What stands for a variable that is expected not to be set. -/
def EXPECTED_REF_UNSET : String := "<unset>"

/-! ### Readiness of a client instance -/

/-- What the instance is waited for with. -/
structure ReadyParams where
  service : String
  setupUsername : Option String
  pollSeconds : ℕ
  timeoutMinutes : ℕ

/-- The user name, or the default. -/
def ReadyParams.username (params : ReadyParams) : String :=
  params.setupUsername.getD DEFAULT_SETUP_USERNAME

/-- The error for an instance that does not answer. -/
def notAnswering (context username : String) : Failure :=
  ⟨.notAnswering, context ++ ", but the instance is not answering authenticated requests, so it " ++
    "cannot be confirmed to be running it. Two different causes look identical here, and they need " ++
    "different fixes. If this client uses a non-default setup username, the check may be " ++
    "authenticating as '" ++ username ++ "' and getting a 401 -- re-run with the correct setup " ++
    "username (--setup-username / -SetupUsername) before anything else, because redeploying will " ++
    "not fix a credential mismatch and costs another restart. If the credentials are known good, " ++
    "the likely cause is a previous attempt that wrote the ref and failed before its redeploy " ++
    "completed: re-run with the force-redeploy option (--force-redeploy, -ForceRedeploy, or " ++
    "forceRedeploy: true), passing the already-written ref as the expected current ref."⟩

/-- The URL of the setup API's status. -/
def setupStatusUrl (domain : Value) : String :=
  "https://" ++ domain.display ++ "/setup/api/status"

/-- Wait until the instance answers authenticated requests. -/
def assertInstanceReady (rt : Runtime) (fuel : ℕ) (params : ReadyParams)
    (contextForFailure : Option String) : Tool Unit := do
  let setupPassword ← readRailwayVariable rt "SETUP_PASSWORD" params.service
  if setupPassword.truthy = false then
    .throw ⟨.noSetupPassword, "the service has no SETUP_PASSWORD to authenticate with"⟩
  else do
    let listed ← listDomains rt params.service
    let domain ← Prog.ofExcept (readMember listed "domains" >>= pickDomain)
    match domain with
    | none => .throw ⟨.noDomain, "the service has no domain"⟩
    | some domain =>
      (waitForSetupReady fuel (setupStatusUrl (domain.get "domain"))
        ⟨params.username, setupPassword⟩ params.pollSeconds params.timeoutMinutes).tryCatch
        fun cause =>
          -- only the path that writes nothing has a context to explain the failure with
          match contextForFailure with
          | none => .throw cause
          | some context => .throw (notAnswering context params.username)

/-! ### Write, redeploy, confirm -/

/-- A variable of a service to be changed, and what is said when that goes
wrong. -/
structure LiveWrite where
  name : String
  next : String
  ready : ReadyParams
  /-- the write was rejected -/
  uncertain : String → String
  /-- the variable could not be read back -/
  readBackFailed : String → String
  /-- the variable reads back as something else, which the text may not be able to hold -/
  readBackDiffers : Value → Except String String
  /-- anything else after the write -/
  unconfirmed : String → String

/-- The command that redeploys a service. -/
def redeployArgs (service : String) : List String :=
  ["redeploy", "--service", service, "--yes", "--json"]

/-- The id of the current deployment in a listing. -/
def deploymentIdIn (rt : Runtime) (service : String) (reply : Except String String) :
    Except Failure Value :=
  printed rt reply >>= fun services =>
    findTemplateService services service >>= fun found =>
      .ok (found.elim .undefined fun listed => deploymentMember listed "id")

/-- The id of the deployment a service has now. -/
def currentDeploymentId (rt : Runtime) (service : String) : Tool Value := do
  let services ← listServices rt
  let found ← Prog.ofExcept (findTemplateService services service)
  pure (found.elim .undefined fun listed => deploymentMember listed "id")

/-- Everything after a write that was accepted. -/
def confirmWrite (rt : Runtime) (fuel : ℕ) (w : LiveWrite) (priorDeploymentId : Value) :
    Tool Unit := do
  let _ ← run (redeployArgs w.ready.service) none
  let _ ← pollServiceUntilSuccess rt fuel w.ready.service w.ready.pollSeconds
    w.ready.timeoutMinutes priorDeploymentId
  assertInstanceReady rt fuel w.ready none
  -- the instance has answered by now: what fails from here on is about the ref alone
  let applied ← (readRailwayVariable rt w.name w.ready.service).tryCatch fun cause =>
    .throw ⟨.refVerification, w.readBackFailed cause.message⟩
  if applied.isString w.next then pure ()
  else match w.readBackDiffers applied with
    | .ok message => .throw ⟨.refVerification, message⟩
    -- the text is not finished, and what is thrown is the exception of the language
    | .error message => .throw (thrown message)

/-- Write the variable, redeploy and see that the change has come through. -/
def writeAndConfirm (rt : Runtime) (fuel : ℕ) (w : LiveWrite) (priorDeploymentId : Value) :
    Tool Unit := do
  -- a command that fails may have written all the same
  (writeRailwayVariable ⟨w.name, w.next, w.ready.service, some true⟩).tryCatch fun cause =>
    .throw ⟨.writeUncertain, w.uncertain cause.message⟩
  -- the verification error is let through, every other one says that the change is live
  (confirmWrite rt fuel w priorDeploymentId).tryCatch fun cause =>
    if cause.kind = .refVerification then .throw cause
    else .throw ⟨.unconfirmed, w.unconfirmed cause.message⟩

/-! ### Updating a ref -/

/-- The variables a ref is kept in. -/
inductive RefVariable where
  | templateRef
  | gitRef
deriving DecidableEq

/-- The names of these variables. -/
def RefVariable.name : RefVariable → String
  | .templateRef => "OPENCLAW_TEMPLATE_REF"
  | .gitRef => "OPENCLAW_GIT_REF"

/-- What an update of a ref is asked to do. -/
structure UpdateRefParams where
  service : String
  variableName : RefVariable
  nextRef : String
  expectedCurrentRef : String
  setupUsername : Option String
  forceRedeploy : Option Bool
  pollSeconds : ℕ
  timeoutMinutes : ℕ

/-- What of it the wait needs. -/
def UpdateRefParams.ready (params : UpdateRefParams) : ReadyParams :=
  ⟨params.service, params.setupUsername, params.pollSeconds, params.timeoutMinutes⟩

/-- Whether to redeploy even if the ref is there already. -/
def UpdateRefParams.force (params : UpdateRefParams) : Bool := params.forceRedeploy.getD false

/-- A change that is not made. -/
def refusal (message : String) : Failure := ⟨.refused, message⟩

/-- `NAME on 'service'`, as the texts name the variable. -/
def UpdateRefParams.target (params : UpdateRefParams) : String :=
  params.variableName.name ++ " on '" ++ params.service ++ "'"

/-- The refusal when there is no ref to replace. -/
def refuseUnset (params : UpdateRefParams) : Failure :=
  refusal ("Refusing to update " ++ params.target ++ ": expected it to currently be '" ++
    params.expectedCurrentRef ++ "', but the variable is not set at all. If that is expected -- " ++
    "provisioning does not set OPENCLAW_GIT_REF, so a client has none until its first " ++
    "application-version bump; OPENCLAW_TEMPLATE_REF *is* set at provisioning, so an unset one " ++
    "means an externally managed or repaired service -- pass '" ++ EXPECTED_REF_UNSET ++
    "' as the expected current ref.")

/-- A refusal that quotes a value; a value without a text throws instead. -/
def refusalQuoting (value : Value) (message : String → String) : Failure :=
  match value.interpolate with
  | .ok text => refusal (message text)
  | .error message => thrown message

/-- The refusal when a ref is there and none was expected. -/
def refuseSet (params : UpdateRefParams) (current : Value) : Failure :=
  refusalQuoting current fun text =>
    "Refusing to update " ++ params.target ++ ": caller expected it to be unset, but it is '" ++
      text ++ "'. Re-read the current value and retry if the update is still intended."

/-- The refusal when the ref is there already. -/
def refuseUpToDate (params : UpdateRefParams) (current : Value) : Failure :=
  refusalQuoting current fun text =>
    "Refusing to treat " ++ params.target ++ " as already up to date: it reads as '" ++ text ++
      "', but the caller expected '" ++ params.expectedCurrentRef ++ "'. If a previous attempt " ++
      "wrote this ref and then failed, retry with the written ref as the expected value (and " ++
      "forceRedeploy to redeploy it)."

/-- The refusal when another ref is there than was expected. -/
def refuseStale (params : UpdateRefParams) (current : Value) : Failure :=
  refusalQuoting current fun text =>
    "Refusing to update " ++ params.target ++ ": expected it to currently be '" ++
      params.expectedCurrentRef ++ "', but it is '" ++ text ++ "'. Something else changed it. " ++
      "Re-read the current value and retry if the update is still intended."

/-- The refusal when the service has no deployment. -/
def refuseNoDeployment (action : String) : Failure :=
  refusal ("Refusing to " ++ action ++ ": its current deployment id could not be read, so a redeploy " ++
    "could not be distinguished from the deployment already running. Nothing has been changed. " ++
    "Confirm the service exists and has a deployment, then retry.")

/-- What is to be done about the ref that is there. -/
inductive UpdatePlan where
  | refuse (e : Failure)
  | alreadyCurrent
  | write

/-- What the value read first allows. -/
def planUpdate (params : UpdateRefParams) (current : Value) : UpdatePlan :=
  -- an unset variable fits the sentinel only, and the sentinel only an unset variable
  if current.isUndefined && params.expectedCurrentRef != EXPECTED_REF_UNSET then
    .refuse (refuseUnset params)
  else if !current.isUndefined && params.expectedCurrentRef == EXPECTED_REF_UNSET then
    .refuse (refuseSet params current)
  else if current.isString params.nextRef && !params.force then
    -- already in place, but not what the caller says it has seen
    if params.expectedCurrentRef != params.nextRef then .refuse (refuseUpToDate params current)
    else .alreadyCurrent
  else if !current.isUndefined && !current.isString params.expectedCurrentRef then
    .refuse (refuseStale params current)
  else .write

/-- The update as a write that is confirmed. -/
def UpdateRefParams.liveWrite (params : UpdateRefParams) : LiveWrite where
  name := params.variableName.name
  next := params.nextRef
  ready := params.ready
  uncertain cause := "Writing " ++ params.variableName.name ++ "='" ++ params.nextRef ++ "' to '" ++
    params.service ++ "' failed, and it is not certain whether the value was applied before the " ++
    "failure: " ++ cause ++ ". Re-read the live value before retrying."
  readBackFailed cause := params.target ++ " was updated to '" ++ params.nextRef ++
    "' and the instance is answering authenticated requests, but reading the variable back to " ++
    "confirm it failed: " ++ cause ++ ". The instance is healthy; the ref was not confirmed. " ++
    "Re-read the live value to check."
  readBackDiffers applied := (applied.coalesce (.json (.str "unset"))).interpolate.map fun text =>
    params.target ++ " reads back as '" ++ text ++ "', not the requested '" ++ params.nextRef ++
    "', even though the instance is answering authenticated requests. The write was accepted but " ++
    "did not take effect, or something else changed it. The instance is healthy; it is the ref that " ++
    "is wrong. Re-read the live value and decide before retrying."
  unconfirmed cause := params.target ++ " WAS updated to '" ++ params.nextRef ++
    "', but the instance is not confirmed healthy afterwards: " ++ cause ++
    ". The change is live and unverified -- check the instance before retrying."

/-- What an update returns. -/
structure UpdateRefResult where
  changed : Bool
  newDeploymentReady : Bool

/-- The update both commands share. -/
def updateClientRefVariable (rt : Runtime) (fuel : ℕ) (params : UpdateRefParams) :
    Tool UpdateRefResult := do
  let current ← readRailwayVariable rt params.variableName.name params.service
  match planUpdate params current with
  | .refuse e => .throw e
  | .alreadyCurrent => do
    assertInstanceReady rt fuel params.ready
      (some (params.variableName.name ++ " already reads as '" ++ params.nextRef ++ "'"))
    pure ⟨false, false⟩
  | .write => do
    -- without it the poll could not tell the new deployment from the old one
    let priorDeploymentId ← currentDeploymentId rt params.service
    if priorDeploymentId.isUndefined then
      .throw (refuseNoDeployment ("update " ++ params.target))
    else do
      writeAndConfirm rt fuel params.liveWrite priorDeploymentId
      pure ⟨true, true⟩

/-- The options of the two commands. -/
structure UpdateRefOptions where
  service : String
  ref : String
  expectedCurrentRef : String
  forceRedeploy : Option Bool
  setupUsername : Option String
  pollSeconds : Option ℕ
  timeoutMinutes : Option ℕ

/-- The parameters the two exported updates pass on. -/
def UpdateRefOptions.params (options : UpdateRefOptions) (variableName : RefVariable) :
    UpdateRefParams where
  service := options.service
  variableName := variableName
  nextRef := options.ref
  expectedCurrentRef := options.expectedCurrentRef
  setupUsername := options.setupUsername
  forceRedeploy := options.forceRedeploy
  pollSeconds := options.pollSeconds.getD 15
  timeoutMinutes := options.timeoutMinutes.getD 25

/-- Update the ref of the template. -/
def updateClientTemplateRef (rt : Runtime) (fuel : ℕ) (options : UpdateRefOptions) :
    Tool UpdateRefResult :=
  updateClientRefVariable rt fuel (options.params .templateRef)

/-- Update the ref of OpenClaw. -/
def updateClientOpenClawRef (rt : Runtime) (fuel : ℕ) (options : UpdateRefOptions) :
    Tool UpdateRefResult :=
  updateClientRefVariable rt fuel (options.params .gitRef)

/-! ### Rotating the gateway token -/

/-- The variable with the gateway's token. -/
def GATEWAY_TOKEN : String := "OPENCLAW_GATEWAY_TOKEN"

/-- `createSecret(bytes, prefix)`. -/
def createSecret (bytes : ℕ) (secretPrefix : String) : Tool String := do
  let text ← Prog.perform (I := Platform) (.randomBytes bytes)
  pure (secretPrefix ++ text)

/-- The options of a rotation. -/
structure RotateGatewayTokenOptions where
  service : String
  setupUsername : Option String
  pollSeconds : Option ℕ
  timeoutMinutes : Option ℕ

/-- What of them the wait needs. -/
def RotateGatewayTokenOptions.ready (options : RotateGatewayTokenOptions) : ReadyParams :=
  ⟨options.service, options.setupUsername, options.pollSeconds.getD 15,
    options.timeoutMinutes.getD 25⟩

/-- The rotation as a write that is confirmed; no text of it quotes a token. -/
def RotateGatewayTokenOptions.liveWrite (options : RotateGatewayTokenOptions) (next : String) :
    LiveWrite where
  name := GATEWAY_TOKEN
  next := next
  ready := options.ready
  uncertain cause := "Writing a new OPENCLAW_GATEWAY_TOKEN to '" ++ options.service ++
    "' failed, and it is not certain whether the value was applied before the failure: " ++ cause ++
    ". Re-read (do not print) the live value before retrying."
  readBackFailed cause := "OPENCLAW_GATEWAY_TOKEN on '" ++ options.service ++
    "' was rotated and the instance is answering authenticated requests, but reading the variable " ++
    "back to confirm it failed: " ++ cause ++ ". The instance is healthy; the rotation was not " ++
    "confirmed. Re-read the live value to check."
  readBackDiffers _ := .ok ("OPENCLAW_GATEWAY_TOKEN on '" ++ options.service ++
    "' does not read back as the value just written, even though the instance is answering " ++
    "authenticated requests. The write was accepted but did not take effect, or something else " ++
    "changed it since. The instance is healthy; the rotation is unconfirmed.")
  unconfirmed cause := "OPENCLAW_GATEWAY_TOKEN on '" ++ options.service ++
    "' WAS rotated, but the instance is not confirmed healthy afterwards: " ++ cause ++
    ". The change is live and unverified -- check the instance before retrying."

/-- What a rotation returns. -/
structure RotateGatewayTokenResult where
  serviceName : String
  newDeploymentReady : Bool

/-- Replace the gateway's token by one that is drawn. -/
def rotateGatewayToken (rt : Runtime) (fuel : ℕ) (options : RotateGatewayTokenOptions) :
    Tool RotateGatewayTokenResult := do
  let current ← readRailwayVariable rt GATEWAY_TOKEN options.service
  if current.isUndefined then
    .throw (refusal ("Refusing to rotate OPENCLAW_GATEWAY_TOKEN on '" ++ options.service ++
      "': it has no OPENCLAW_GATEWAY_TOKEN variable set at all. There is nothing to rotate; " ++
      "provision the service first."))
  else do
    let priorDeploymentId ← currentDeploymentId rt options.service
    if priorDeploymentId.isUndefined then
      .throw (refuseNoDeployment ("rotate OPENCLAW_GATEWAY_TOKEN on '" ++ options.service ++ "'"))
    else do
      -- the token is drawn when nothing can refuse the write any more
      let next ← createSecret 32 ""
      writeAndConfirm rt fuel (options.liveWrite next) priorDeploymentId
      pure ⟨options.service, true⟩

end Railway
