/-
ControlPlane/Railway/Provision.lean

Provisioning a client instance (`provisionClientInstance`): create or link the
project, create the service or reuse the one that is there, and bring it to the
point where it answers.

The function is cut at the points the source comments on:

* `linkProject` and the first listing decide between the two paths;
* `bootstrapService` uploads, finds the service the upload created, writes the
  variables and redeploys;
* `storedCredentials` reads back what a reused service accepts;
* `finishProvision` routes the domain, waits for the instance and hands over.
-/
import ControlPlane.Railway.Instance
import ControlPlane.Railway.UpdateRef

namespace Railway

open Js Interaction

/-! ### Options -/

/-- The options of provisioning as they are given. -/
structure ProvisionClientOptions where
  clientName : String
  projectId : Option String
  workspace : Option String
  targetPort : Option ℕ
  templateRef : Option String
  setupUsername : Option String
  setupPassword : Option String
  gatewayToken : Option String
  pollSeconds : Option ℕ
  timeoutMinutes : Option ℕ
  forceNew : Option Bool
  envLocalPath : Option String
  handoffPath : Option String
  writeLocalFiles : Option Bool

/-- The options with their defaults filled in. -/
structure ResolvedProvisionOptions where
  clientName : String
  projectId : Option String
  workspace : Option String
  targetPort : ℕ
  templateRef : String
  setupUsername : String
  setupPassword : String
  gatewayToken : String
  pollSeconds : ℕ
  timeoutMinutes : ℕ
  forceNew : Bool
  envLocalPath : String
  handoffPath : String
  writeLocalFiles : Bool

/-- A text option counts as absent when it is empty. -/
def nonEmpty (option : Option String) : Option String := option.filter (· ≠ "")

/-- The option, or a secret generated for it. -/
def secretOr (option : Option String) (bytes : ℕ) (secretPrefix : String) : Tool String :=
  match option with
  | some secret => pure secret
  | none => createSecret bytes secretPrefix

/-- The pinned commit of the template lock is the default ref. -/
def resolveTemplateRef (option : Option String) : Tool String :=
  match option with
  | some templateRef => pure templateRef
  | none => Prog.ask (I := Platform) .readTemplateLock settled

/-- Fill in the defaults; secrets that are not given are drawn. -/
def resolveProvisionOptions (options : ProvisionClientOptions) :
    Tool ResolvedProvisionOptions := do
  let templateRef ← resolveTemplateRef options.templateRef
  let setupPassword ← secretOr options.setupPassword 24 "oc-"
  let gatewayToken ← secretOr options.gatewayToken 32 ""
  pure
    { clientName := options.clientName
      projectId := nonEmpty options.projectId
      workspace := nonEmpty options.workspace
      targetPort := options.targetPort.getD 8080
      templateRef := templateRef
      setupUsername := options.setupUsername.getD DEFAULT_SETUP_USERNAME
      setupPassword := setupPassword
      gatewayToken := gatewayToken
      pollSeconds := options.pollSeconds.getD 15
      timeoutMinutes := options.timeoutMinutes.getD 25
      forceNew := options.forceNew.getD false
      envLocalPath := options.envLocalPath.getD ".env.local"
      handoffPath := options.handoffPath.getD "openclaw-railway-client-handoff.local.md"
      writeLocalFiles := options.writeLocalFiles.getD true }

/-! ### The project and its service -/

/-- The command that links a project. -/
def linkArgs (projectId : String) : List String := ["link", "--project", projectId, "--json"]

/-- The command that creates a project. -/
def initArgs (clientName : String) (workspace : Option String) : List String :=
  ["init", "--name", clientName, "--json"] ++
    match workspace with
    | some workspace => ["--workspace", workspace]
    | none => []

/-- Link the project that is named, or create one. -/
def linkProject (options : ResolvedProvisionOptions) : Tool String :=
  match options.projectId with
  | some projectId => run (linkArgs projectId) none
  | none => run (initArgs options.clientName options.workspace) none

/-- `candidates.map((s) => s.name).join(", ")`. -/
def namesOf : List Json → Except Failure (List String)
  | [] => .ok []
  | candidate :: rest => do
    let name ← readMember candidate "name"
    let names ← namesOf rest
    .ok ((name.coalesce (.json (.str ""))).display :: names)

/-- The only candidate; more than one is refused. -/
def selectSoleService (candidates : List Json) (clientName context : String) :
    Except Failure (Option Json) :=
  if candidates.length ≤ 1 then .ok candidates.head?
  else do
    let names ← namesOf candidates
    .error ⟨.ambiguousServices, "Expected at most one service among " ++ context ++
      " for client '" ++ clientName ++ "', found " ++ toString candidates.length ++ ": " ++
      ", ".intercalate names ++ ". This provisioner assumes one client == one project == one " ++
      "service; resolve the extra service(s) manually before retrying."⟩

/-- `n > 1`. -/
def exceedsOne : Numeric → Bool
  | .nan => false
  | .infinite negative => !negative
  | .finite q => 1 < q

/-- `v > 1`, or the message of the exception.  A boolean never is; anything else is
compared as the number that its text writes. -/
def moreThanOne (v : Value) : Except String Bool :=
  match v with
  | .undefined => .ok false
  | .json .null => .ok false
  | .json (.bool _) => .ok false
  | v => v.interpolate.map fun text => exceedsOne (numberOf text)

/-- `candidates.length` of what is no array: a string has one, an object may have a member. -/
def lengthMember : Json → Value
  | .str s => .json (.num (.ofNat (length s)))
  | candidates => candidates.get "length"

/-- `candidates[0]` of what is no array and not longer than one: a string of one unit is its
own first. -/
def firstMember : Json → Value
  | .str s => if length s = 0 then .undefined else .json (.str s)
  | candidates => candidates.get "0"

/-- What a listing that is no array counts as: the value at `0`, unless its `length` exceeds
one, as it has no `map` then. -/
def countedMember (candidates : Json) : Except Failure (List Json) :=
  match moreThanOne (lengthMember candidates) with
  | .error message => .error (thrown message)
  | .ok true => .error (thrown "candidates.map is not a function")
  | .ok false =>
    match firstMember candidates with
    | .json first => .ok [first]
    | _ => .ok []

/-- The services of a listing as they are counted. -/
def countedServices (services : Json) : Except Failure (List Json) :=
  match services with
  | .null => .error (cannotRead "null" "length")
  | .arr items => .ok items
  | services => countedMember services

/-- `existing`, when there is one and it may be reused. -/
def reusable (existing : Option Json) (forceNew : Bool) : Option Json :=
  if forceNew then none else existing.filter Json.truthy

/-- The refusal to reuse a service whose deployment has not succeeded. -/
def serviceExists (service : Json) : Failure :=
  let name := (service.get "name").display
  let status := (deploymentMember service "status").coalesce (.json (.str "unknown"))
  ⟨.serviceExists, "Service '" ++ name ++ "' already exists in this project with status '" ++
    status.display ++ "'. Inspect logs with: railway logs --service " ++ name ++ " --lines 200"⟩

/-- A service is reused only when its latest deployment succeeded. -/
def checkReusable (service : Json) : Except Failure Json :=
  if (deploymentMember service "status").isString "SUCCESS" then .ok service
  else .error (serviceExists service)

/-! ### Bootstrap -/

/-- The command that uploads the template. -/
def upArgs : List String := ["up", "--detach", "--json"]

/-- The command that adds the volume. -/
def volumeArgs : List String := ["volume", "add", "--mount-path", "/data"]

/-- The ids of the listed services. -/
def serviceIds : List Json → Except Failure (List Value)
  | [] => .ok []
  | service :: rest => do
    let id ← readMember service "id"
    let ids ← serviceIds rest
    .ok (id :: ids)

/-- The listed services whose id was not there before. -/
def createdAmong (beforeIds : List Value) : List Json → Except Failure (List Json)
  | [] => .ok []
  | service :: rest => do
    let id ← readMember service "id"
    let created ← createdAmong beforeIds rest
    .ok (if beforeIds.any fun before => before.strictEquals id then created else service :: created)

/-- The error when the upload has created no service. -/
def noNewService (clientName : String) : Failure :=
  ⟨.serviceNotFound, "No new Railway service was found after 'railway up' for client '" ++
    clientName ++ "'."⟩

/-- The name of the service `up` has created, by comparing the listings. -/
def createdService (clientName : String) (beforeIds : List Value) (servicesAfter : Json) :
    Except Failure String := do
  let after ← elements (.json servicesAfter) "servicesAfter" "filter"
  let candidates ← createdAmong beforeIds after
  let created ← selectSoleService candidates clientName "services created by 'railway up'"
  match created.filter Json.truthy with
  | none => .error (noNewService clientName)
  | some created => argument (created.get "name")

/-- The variables a new service is given. -/
def variableEntries (options : ResolvedProvisionOptions) : List (String × String) :=
  [("OPENCLAW_TEMPLATE_REF", options.templateRef),
   ("PORT", toString options.targetPort),
   ("OPENCLAW_STATE_DIR", "/data/.openclaw"),
   ("OPENCLAW_WORKSPACE_DIR", "/data/workspace"),
   ("SETUP_PASSWORD", options.setupPassword),
   ("OPENCLAW_GATEWAY_TOKEN", options.gatewayToken)]

/-- Write the variables one after the other, none of them deploying. -/
def writeVariables (service : String) : List (String × String) → Tool Unit
  | [] => pure ()
  | (name, value) :: rest => do
    writeRailwayVariable ⟨name, value, service, some true⟩
    writeVariables service rest

/-- Attach the volume, write the variables and build. -/
def deployCreated (rt : Runtime) (fuel : ℕ) (options : ResolvedProvisionOptions) (name : String) :
    Tool Json := do
  let _ ← run ["service", name] none
  let _ ← run volumeArgs none
  writeVariables name (variableEntries options)
  let _ ← run (redeployArgs name) none
  -- no id is superseded, although the deployment of `up` may still be listed
  pollServiceUntilSuccess rt fuel name options.pollSeconds options.timeoutMinutes .undefined

/-- Upload, find the new service, give it its volume and variables, and deploy it. -/
def bootstrapService (rt : Runtime) (fuel : ℕ) (options : ResolvedProvisionOptions)
    (servicesBefore : Json) : Tool Json := do
  let _ ← run upArgs none
  let beforeIds ← Prog.ofExcept
    (elements (.json servicesBefore) "servicesBefore" "map" >>= serviceIds)
  let servicesAfter ← listServices rt
  let name ← Prog.ofExcept (createdService options.clientName beforeIds servicesAfter)
  deployCreated rt fuel options name

/-! ### Credentials -/

/-- The secrets a run hands over. -/
structure Credentials where
  setupPassword : Value
  gatewayToken : Value

/-- The error for a secret the reused service does not have. -/
def missingCredential (kind : FailureKind) (service variableName : String) : Failure :=
  ⟨kind, "Service '" ++ service ++ "' exists but has no " ++ variableName ++ " variable set. " ++
    "Re-run with --force-new to reprovision, or set " ++ variableName ++
    " manually before retrying."⟩

/-- A variable a provisioned service has. -/
def storedCredential (rt : Runtime) (kind : FailureKind) (variableName service : String) :
    Tool Value := do
  let stored ← readRailwayVariable rt variableName service
  if stored.truthy then pure stored else .throw (missingCredential kind service variableName)

/-- The secrets the reused service has. -/
def storedCredentials (rt : Runtime) (service : String) : Tool Credentials := do
  let setupPassword ← storedCredential rt .noSetupPassword "SETUP_PASSWORD" service
  let gatewayToken ← storedCredential rt .noGatewayToken "OPENCLAW_GATEWAY_TOKEN" service
  pure ⟨setupPassword, gatewayToken⟩

/-! ### The handover -/

/-- What is known of an instance once it answers. -/
structure Instance where
  service : Json
  domain : String
  auth : SetupAuth
  allowedOrigins : PatchAllowedOriginsResult
  deviceApproval : ApproveOwnDeviceResult

/-- The URL of the instance. -/
def Instance.baseUrl (i : Instance) : String := "https://" ++ i.domain

/-- The URL of its setup page. -/
def Instance.setupUrl (i : Instance) : String := i.baseUrl ++ "/setup"

/-- The URL of its control UI. -/
def Instance.openclawUrl (i : Instance) : String := i.baseUrl ++ "/openclaw"

/-- The URL of its health check. -/
def Instance.healthUrl (i : Instance) : String := i.baseUrl ++ "/setup/healthz"

/-- What provisioning returns. -/
structure ProvisionClientResult extends Instance where
  projectId : Option String
  templateRef : String
  gatewayToken : Value
  reusedExistingService : Bool
  wroteEnvLocal : Bool
  wroteHandoff : Bool

/-- The URL of the service in the dashboard. -/
def ProvisionClientResult.dashboardUrl (r : ProvisionClientResult) : String :=
  r.openclawUrl ++ "#token=" ++ r.gatewayToken.display

/-- The id of the service as a text. -/
def ProvisionClientResult.serviceId (r : ProvisionClientResult) : String :=
  (r.service.get "id").display

/-- The name of the service as a text. -/
def ProvisionClientResult.serviceName (r : ProvisionClientResult) : String :=
  (r.service.get "name").display

/-- Route the domain, wait until the instance accepts the credentials, allow its
origin and approve the installer's pairing. -/
def bringUp (rt : Runtime) (fuel : ℕ) (service : Json) (targetPort pollSeconds timeoutMinutes : ℕ)
    (auth : SetupAuth) : Tool Instance := do
  let name ← Prog.ofExcept (argument (service.get "name"))
  let routed ← ensureDomainPort rt name targetPort
  let domain ← Prog.ofExcept (readValueMember routed "domain")
  let baseUrl := "https://" ++ domain.display
  waitForSetupReady fuel (baseUrl ++ "/setup/api/status") auth pollSeconds timeoutMinutes
  let allowedOrigins ← patchAllowedOrigins rt baseUrl auth domain.display
  let deviceApproval ← approveOwnDevicePairing baseUrl auth
  pure ⟨service, domain.display, auth, allowedOrigins, deviceApproval⟩

/-- The variables written to the local file. -/
def provisionEnv (r : ProvisionClientResult) : List (String × String) :=
  [("OPENCLAW_CLIENT_SETUP_URL", r.setupUrl),
   ("OPENCLAW_CLIENT_OPENCLAW_URL", r.openclawUrl),
   ("OPENCLAW_CLIENT_HEALTH_URL", r.healthUrl),
   ("OPENCLAW_CLIENT_SERVICE_ID", r.serviceId),
   ("OPENCLAW_CLIENT_SERVICE_NAME", r.serviceName),
   ("OPENCLAW_CLIENT_TEMPLATE_REF", r.templateRef),
   ("OPENCLAW_CLIENT_SETUP_USERNAME", r.auth.username),
   ("OPENCLAW_CLIENT_SETUP_PASSWORD", r.auth.password.display),
   ("OPENCLAW_CLIENT_GATEWAY_TOKEN", r.gatewayToken.display),
   ("OPENCLAW_CLIENT_DASHBOARD_URL", r.dashboardUrl)]

/-- The line of the handoff about the project, if it is known. -/
def projectLine (projectId : Option String) : List String :=
  match projectId with
  | some projectId => ["- Project ID: " ++ projectId]
  | none => []

/-- The text of the handoff file. -/
def buildProvisionHandoff (r : ProvisionClientResult) : String :=
  "\n".intercalate <|
    ["# OpenClaw Client Provisioning Handoff",
     "",
     "This file is local-only and should not be committed.",
     "",
     "## URLs",
     "",
     "- Setup: " ++ r.setupUrl,
     "- OpenClaw UI: " ++ r.openclawUrl,
     "- Healthcheck: " ++ r.healthUrl,
     "",
     "## Client Handoff Link",
     "",
     "Hand the client this single link. It fully authenticates the dashboard's",
     "gateway connection on first open -- no manual token entry, no separate",
     "\"Connect\" step. (Confirmed live: OpenClaw's Control UI reads a `#token=`",
     "URL fragment on load and auto-connects.) Not independently confirmed yet",
     "whether a genuinely new browser/device still hits a one-time pairing",
     "approval on top of this -- see `openclaw devices approve <requestId>` in",
     "the wrapper's own pairing-required panel if so.",
     "",
     "- " ++ r.dashboardUrl,
     "",
     "## Railway",
     "",
     "- Service: " ++ r.serviceName,
     "- Service ID: " ++ r.serviceId] ++
    projectLine r.projectId ++
    ["- Template ref: " ++ r.templateRef,
     "- Domain: " ++ r.domain,
     "",
     "## Setup Auth",
     "",
     "- Username: " ++ r.auth.username,
     "- Password: " ++ r.auth.password.display,
     "",
     "## Post-Deploy Automation",
     "",
     "- Patched allowedOrigins: " ++ describePatchAllowedOriginsStatus r.allowedOrigins.status,
     "- Approved device pairing request: " ++ describeDeviceApprovalStatus r.deviceApproval,
     "",
     "## Updating the wrapper version later",
     "",
     "Run the update-ref path with this service name, the new ref, and the ref it",
     "is replacing — it only touches this one service, never any other client or",
     "control-plane's main.",
     "",
     "The expected-current-ref argument is required: the update reads the live",
     "value first and refuses if it is not what you said, so a client cannot be",
     "redeployed by someone working from a stale assumption. Read the service's",
     "current OPENCLAW_TEMPLATE_REF before bumping it rather than assuming the ref",
     "recorded here -- on a rerun that reused an existing service, the live value",
     "can differ from this document's, and a stale expectation is refused by",
     "design.",
     "",
     "The application ref (OPENCLAW_GIT_REF) is a separate pin and is not set as a",
     "service variable at provisioning time — it exists only as a build-time",
     "default until its first bump. For that first bump only, pass '<unset>' as",
     "the expected current ref. See deploy/openclaw-railway/README.md for both",
     "commands and for the recovery path if an update fails after writing.",
     "",
     "## Next Steps",
     "",
     "1. Open the setup URL.",
     "2. Use any username or the username above with the setup password.",
     "3. Complete model provider and channel configuration in the setup wizard.",
     "4. Store client-owned secrets in their password manager and rotate",
     "   temporary handoff values after onboarding.",
     ""]

/-- Write the local files, unless told not to, and return. -/
def handOver (options : ResolvedProvisionOptions) (result : ProvisionClientResult) :
    Tool ProvisionClientResult :=
  if options.writeLocalFiles then do
    writeMergedEnv options.envLocalPath (provisionEnv result)
    writeLocalText options.handoffPath (buildProvisionHandoff result)
    pure { result with wroteEnvLocal := true, wroteHandoff := true }
  else pure result

/-- Everything after the service is there. -/
def finishProvision (rt : Runtime) (fuel : ℕ) (options : ResolvedProvisionOptions) (service : Json)
    (credentials : Credentials) (reusedExistingService : Bool) : Tool ProvisionClientResult := do
  let i ← bringUp rt fuel service options.targetPort options.pollSeconds options.timeoutMinutes
    ⟨options.setupUsername, credentials.setupPassword⟩
  handOver options
    { toInstance := i
      projectId := options.projectId
      templateRef := options.templateRef
      gatewayToken := credentials.gatewayToken
      reusedExistingService := reusedExistingService
      wroteEnvLocal := false
      wroteHandoff := false }

/-- The reuse path: the service is left as it is and its credentials are read. -/
def reuseService (rt : Runtime) (fuel : ℕ) (options : ResolvedProvisionOptions) (existing : Json) :
    Tool ProvisionClientResult := do
  let service ← Prog.ofExcept (checkReusable existing)
  let name ← Prog.ofExcept (argument (service.get "name"))
  let credentials ← storedCredentials rt name
  -- the port is the one of the options: the service's own PORT is not read
  finishProvision rt fuel options service credentials true

/-- The bootstrap path. -/
def createService (rt : Runtime) (fuel : ℕ) (options : ResolvedProvisionOptions)
    (servicesBefore : Json) : Tool ProvisionClientResult := do
  let service ← bootstrapService rt fuel options servicesBefore
  finishProvision rt fuel options service
    ⟨.json (.str options.setupPassword), .json (.str options.gatewayToken)⟩ false

/-- The existing service to reuse in what was listed, if any. -/
def existingService (options : ResolvedProvisionOptions) (servicesBefore : Json) :
    Except Failure (Option Json) := do
  let counted ← countedServices servicesBefore
  let existing ← selectSoleService counted options.clientName "linked project"
  .ok (reusable existing options.forceNew)

/-- Provisioning with its options resolved. -/
def provisionResolved (rt : Runtime) (fuel : ℕ) (options : ResolvedProvisionOptions) :
    Tool ProvisionClientResult := do
  let _ ← linkProject options
  let servicesBefore ← listServices rt
  let existing ← Prog.ofExcept (existingService options servicesBefore)
  match existing with
  | some existing => reuseService rt fuel options existing
  | none => createService rt fuel options servicesBefore

/-- Provision a client's instance, or reuse the one that is there. -/
def provisionClientInstance (rt : Runtime) (fuel : ℕ) (options : ProvisionClientOptions) :
    Tool ProvisionClientResult := do
  let resolved ← resolveProvisionOptions options
  provisionResolved rt fuel resolved

end Railway
