/-
ControlPlane/Railway/Install.lean

Installing from the marketplace template (`installOpenClawOnRailway`), and running
the installer again.

A run that returns has had its readiness probe answered with 200 for the password
it returns (`installOpenClawOnRailway_returned`).  A rerun without a password draws
one, which an instance that is already there does not accept: it deploys nothing,
and it never returns (`install_rerun_noDeploy`, `install_rerun_not_idempotent`).
-/
import ControlPlane.Railway.Rollover

namespace Railway

open Js Interaction

/-! ### The installer -/

/-- The options of the installer as they are given. -/
structure InstallerOptions where
  template : Option String
  service : Option String
  targetPort : Option ℕ
  pollSeconds : Option ℕ
  timeoutMinutes : Option ℕ
  forceNew : Option Bool
  setupUsername : Option String
  setupPassword : Option String
  gatewayToken : Option String
  envLocalPath : Option String
  handoffPath : Option String
  writeLocalFiles : Option Bool

/-- The options with their defaults filled in. -/
structure RequiredOptions where
  template : String
  service : String
  targetPort : ℕ
  pollSeconds : ℕ
  timeoutMinutes : ℕ
  forceNew : Bool
  setupUsername : String
  setupPassword : String
  gatewayToken : String
  envLocalPath : String
  handoffPath : String
  writeLocalFiles : Bool

/-- Fill in the defaults; secrets that are not given are drawn. -/
def resolveOptions (options : InstallerOptions) : Tool RequiredOptions := do
  let setupPassword ← secretOr options.setupPassword 24 "oc-"
  let gatewayToken ← secretOr options.gatewayToken 32 ""
  pure
    { template := options.template.getD "clawdbot-railway-template"
      service := options.service.getD "clawdbot-railway-template"
      targetPort := options.targetPort.getD 8080
      pollSeconds := options.pollSeconds.getD 15
      timeoutMinutes := options.timeoutMinutes.getD 25
      forceNew := options.forceNew.getD false
      setupUsername := options.setupUsername.getD DEFAULT_SETUP_USERNAME
      setupPassword := setupPassword
      gatewayToken := gatewayToken
      envLocalPath := options.envLocalPath.getD ".env.local"
      handoffPath := options.handoffPath.getD "openclaw-railway-handoff.local.md"
      writeLocalFiles := options.writeLocalFiles.getD true }

/-- What the installer returns. -/
structure InstallResult extends Instance where
  reusedExistingService : Bool
  wroteEnvLocal : Bool
  wroteHandoff : Bool

/-- The id of the service as a text. -/
def InstallResult.serviceId (r : InstallResult) : String := (r.service.get "id").display

/-- The name of the service as a text. -/
def InstallResult.serviceName (r : InstallResult) : String := (r.service.get "name").display

/-- The id of the deployment that was found, when there is one. -/
def InstallResult.deploymentId (r : InstallResult) : Option String :=
  let id := deploymentMember r.service "id"
  if id.truthy then some id.display else none

/-- The refusal to install over a service that is there. -/
def alreadyExists (serviceName : String) (service : Json) : Failure :=
  let status := (deploymentMember service "status").coalesce (.json (.str "unknown"))
  ⟨.serviceExists, "Service '" ++ serviceName ++ "' already exists with status '" ++
    status.display ++ "'. Inspect logs with: railway logs --service " ++ serviceName ++
    " --lines 200"⟩

/-- The error when the deployed service is not listed. -/
def notFoundAfterDeployment (serviceName : String) : Failure :=
  ⟨.serviceNotFound, "Service '" ++ serviceName ++ "' was not found after deployment."⟩

/-- Both secrets are arguments of the command. -/
def deployArgs (options : RequiredOptions) : List String :=
  ["deploy", "-t", options.template, "-v", "SETUP_PASSWORD=" ++ options.setupPassword,
    "-v", "OPENCLAW_GATEWAY_TOKEN=" ++ options.gatewayToken]

/-- The variables written to the local file. -/
def installEnv (r : InstallResult) : List (String × String) :=
  [("OPENCLAW_RAILWAY_SETUP_URL", r.setupUrl),
   ("OPENCLAW_RAILWAY_OPENCLAW_URL", r.openclawUrl),
   ("OPENCLAW_RAILWAY_HEALTH_URL", r.healthUrl),
   ("OPENCLAW_RAILWAY_SERVICE_ID", r.serviceId),
   ("OPENCLAW_RAILWAY_SERVICE_NAME", r.serviceName),
   ("OPENCLAW_RAILWAY_SETUP_USERNAME", r.auth.username),
   ("OPENCLAW_RAILWAY_SETUP_PASSWORD", r.auth.password.display)]

/-- The text of the handoff file. -/
def buildHandoff (r : InstallResult) : String :=
  "\n".intercalate
    ["# OpenClaw Railway Handoff",
     "",
     "This file is local-only and should not be committed.",
     "",
     "## URLs",
     "",
     "- Setup: " ++ r.setupUrl,
     "- OpenClaw UI: " ++ r.openclawUrl,
     "- Healthcheck: " ++ r.healthUrl,
     "",
     "## Railway",
     "",
     "- Service: " ++ r.serviceName,
     "- Service ID: " ++ r.serviceId,
     "- Deployment ID: " ++ r.deploymentId.getD "unknown",
     "- Domain: " ++ r.domain,
     "",
     "## Setup Auth",
     "",
     "- Username: " ++ r.auth.username,
     "- Password: " ++ r.auth.password.display,
     "",
     "## Post-Deploy Automation",
     "",
     "- Patched allowedOrigins: " ++ describePatchAllowedOriginsStatus r.allowedOrigins.status,
     "- Approved device pairing request: " ++ describeDeviceApprovalStatus r.deviceApproval,
     "",
     "## Next Steps",
     "",
     "1. Open the setup URL.",
     "2. Use any username or the username above with the setup password.",
     "3. Complete model provider and channel configuration in the setup wizard.",
     "4. Attach client-specific tools, connectors, and workflows only after the shell install is healthy.",
     "5. Store client-owned secrets in their password manager and rotate temporary handoff values " ++
       "after onboarding.",
     ""]

/-- The service that is there, or the one a deploy brings up. -/
def serviceToInstall (rt : Runtime) (fuel : ℕ) (options : RequiredOptions)
    (existing : Option Json) : Tool (Json × Bool) :=
  match existing with
  | some existing =>
    if (deploymentMember existing "status").isString "SUCCESS" then pure (existing, true)
    else .throw (alreadyExists options.service existing)
  | none => do
    let _ ← run (deployArgs options) none
    let service ← pollServiceUntilSuccess rt fuel options.service options.pollSeconds
      options.timeoutMinutes .undefined
    pure (service, false)

/-- Write the local files, unless told not to, and return. -/
def handOverInstall (options : RequiredOptions) (result : InstallResult) : Tool InstallResult :=
  if options.writeLocalFiles then do
    writeMergedEnv options.envLocalPath (installEnv result)
    writeLocalText options.handoffPath (buildHandoff result)
    pure { result with wroteEnvLocal := true, wroteHandoff := true }
  else pure result

/-- Everything after the service is there. -/
def finishInstall (rt : Runtime) (fuel : ℕ) (options : RequiredOptions) (service : Json)
    (reusedExistingService : Bool) : Tool InstallResult :=
  if service.truthy then do
    -- the password is the resolved one, also for a service that is reused
    let i ← bringUp rt fuel service options.targetPort options.pollSeconds options.timeoutMinutes
      ⟨options.setupUsername, .json (.str options.setupPassword)⟩
    handOverInstall options
      { toInstance := i
        reusedExistingService := reusedExistingService
        wroteEnvLocal := false
        wroteHandoff := false }
  else .throw (notFoundAfterDeployment options.service)

/-- The installer with its options resolved. -/
def installResolved (rt : Runtime) (fuel : ℕ) (options : RequiredOptions) :
    Tool InstallResult := do
  let servicesBefore ← listServices rt
  let existing ← Prog.ofExcept (findTemplateService servicesBefore options.service)
  let (service, reused) ← serviceToInstall rt fuel options (reusable existing options.forceNew)
  finishInstall rt fuel options service reused

/-- The installer. -/
def installOpenClawOnRailway (rt : Runtime) (fuel : ℕ) (options : InstallerOptions) :
    Tool InstallResult := do
  let resolved ← resolveOptions options
  installResolved rt fuel resolved

/-! ### What a run that returns has seen -/

section Returned

variable {rt : Runtime} {fuel : ℕ} {t : Trace}

/-- A secret that is not given is drawn. -/
theorem secretOr_drawn {bytes : ℕ} {secretPrefix secret : String}
    (h : (secretOr none bytes secretPrefix).Exec t (.returned secret)) :
    ∃ drawn, ⟨.randomBytes bytes, drawn⟩ ∈ t ∧ secret = secretPrefix ++ drawn := by
  obtain ⟨drawn, t', rfl, ht', ho⟩ := Prog.exec_perform_bind.mp h
  cases ho
  exact ⟨drawn, by simp, rfl⟩

/-- A password that is not given is drawn. -/
theorem resolveOptions_drawn {options : InstallerOptions} {resolved : RequiredOptions}
    (hnone : options.setupPassword = none)
    (h : (resolveOptions options).Exec t (.returned resolved)) :
    ∃ drawn, ⟨.randomBytes 24, drawn⟩ ∈ t ∧ resolved.setupPassword = "oc-" ++ drawn := by
  obtain ⟨password, t₁, t₂, rfl, hpassword, hrest⟩ := Prog.exec_bind_returned.mp h
  rw [hnone] at hpassword
  obtain ⟨drawn, hmem, rfl⟩ := secretOr_drawn hpassword
  obtain ⟨token, t₃, t₄, rfl, -, hrest⟩ := Prog.exec_bind_returned.mp hrest
  cases hrest.2
  exact ⟨drawn, by simp [hmem], rfl⟩

theorem resolveOptions_service {options : InstallerOptions} {resolved : RequiredOptions}
    (h : (resolveOptions options).Exec t (.returned resolved)) :
    resolved.service = options.service.getD "clawdbot-railway-template" ∧
      resolved.forceNew = options.forceNew.getD false := by
  obtain ⟨password, t₁, t₂, -, -, hrest⟩ := Prog.exec_bind_returned.mp h
  obtain ⟨token, t₃, t₄, -, -, hrest⟩ := Prog.exec_bind_returned.mp hrest
  cases hrest.2
  exact ⟨rfl, rfl⟩

/-- The wait has returned because the instance answered with this password. -/
theorem waitForSetupReady_answered {url : String} {auth : SetupAuth}
    {pollSeconds timeoutMinutes : ℕ}
    (h : (waitForSetupReady fuel url auth pollSeconds timeoutMinutes).Exec t (.returned ())) :
    ⟨.checkSetupStatus url auth, .ok 200⟩ ∈ t := by
  rcases waitForSetupReady_exec h with ⟨t', rfl, -, -⟩ | ⟨-, ⟨e, -, ho⟩ | ho⟩
  · simp
  · cases ho
  · cases ho

/-- The instance has accepted the credentials. -/
theorem bringUp_answered {service : Json} {targetPort pollSeconds timeoutMinutes : ℕ}
    {auth : SetupAuth} {i : Instance}
    (h : (bringUp rt fuel service targetPort pollSeconds timeoutMinutes auth).Exec t
      (.returned i)) :
    i.auth = auth ∧ ∃ url, ⟨.checkSetupStatus url auth, .ok 200⟩ ∈ t := by
  obtain ⟨name, _, t₁, rfl, -, h⟩ := Prog.exec_bind_returned.mp h
  obtain ⟨routed, _, t₂, rfl, -, h⟩ := Prog.exec_bind_returned.mp h
  obtain ⟨domain, _, t₃, rfl, -, h⟩ := Prog.exec_bind_returned.mp h
  obtain ⟨⟨⟩, _, t₄, rfl, hready, h⟩ := Prog.exec_bind_returned.mp h
  obtain ⟨allowedOrigins, _, t₅, rfl, -, h⟩ := Prog.exec_bind_returned.mp h
  obtain ⟨deviceApproval, _, t₆, rfl, -, h⟩ := Prog.exec_bind_returned.mp h
  cases h.2
  refine ⟨rfl, "https://" ++ domain.display ++ "/setup/api/status", ?_⟩
  have hprobe := waitForSetupReady_answered hready
  simp [hprobe]

/-- The password that is reported is one the instance has answered to. -/
theorem finishInstall_answered {options : RequiredOptions} {service : Json} {reused : Bool}
    {result : InstallResult}
    (h : (finishInstall rt fuel options service reused).Exec t (.returned result)) :
    result.auth = ⟨options.setupUsername, .json (.str options.setupPassword)⟩ ∧
      ∃ url, ⟨.checkSetupStatus url result.auth, .ok 200⟩ ∈ t := by
  unfold finishInstall at h
  split at h
  · obtain ⟨i, t₁, t₂, rfl, hup, h⟩ := Prog.exec_bind_returned.mp h
    obtain ⟨hauth, url, hprobe⟩ := bringUp_answered hup
    have hsame : result.auth = i.auth := by
      unfold handOverInstall at h
      split at h
      · obtain ⟨_, _, t₃, -, -, h⟩ := Prog.exec_bind_returned.mp h
        obtain ⟨_, _, t₄, -, -, h⟩ := Prog.exec_bind_returned.mp h
        cases h.2
        rfl
      · cases h.2
        rfl
    rw [hsame, hauth]
    exact ⟨rfl, url, by simp [hprobe]⟩
  · cases h.2

/-- **A run that returns** has had its credentials accepted; without a password
among its options they are freshly drawn. -/
theorem installOpenClawOnRailway_returned {options : InstallerOptions} {result : InstallResult}
    (hnone : options.setupPassword = none)
    (h : (installOpenClawOnRailway rt fuel options).Exec t (.returned result)) :
    ∃ drawn url, ⟨.randomBytes 24, drawn⟩ ∈ t ∧
      result.auth.password = .json (.str ("oc-" ++ drawn)) ∧
      ⟨.checkSetupStatus url result.auth, .ok 200⟩ ∈ t := by
  obtain ⟨resolved, t₁, t₂, rfl, hresolve, h⟩ := Prog.exec_bind_returned.mp h
  obtain ⟨drawn, hmem, hpassword⟩ := resolveOptions_drawn hnone hresolve
  obtain ⟨servicesBefore, _, t₃, rfl, -, h⟩ := Prog.exec_bind_returned.mp h
  obtain ⟨existing, _, t₄, rfl, -, h⟩ := Prog.exec_bind_returned.mp h
  obtain ⟨⟨service, reused⟩, _, t₅, rfl, -, h⟩ := Prog.exec_bind_returned.mp h
  obtain ⟨hauth, url, hprobe⟩ := finishInstall_answered h
  refine ⟨drawn, url, by simp [hmem], ?_, by simp [hprobe]⟩
  rw [hauth, hpassword]

end Returned

/-! ### Running it again -/

/-- The options of a rerun: no password is given, and a service may be reused. -/
structure RerunOptions (options : InstallerOptions) : Prop where
  noPassword : options.setupPassword = none
  noForceNew : options.forceNew.getD false = false

/-- The replies of `t` come from a platform a run has left with `password`: the
service is listed as deployed, its setup API accepts that password and no other,
and a secret that is drawn is a new one. -/
structure LeftInstalled (rt : Runtime) (options : InstallerOptions) (password : String)
    (t : Trace) : Prop where
  listed : ∀ text, ⟨.run serviceListArgs none, .ok text⟩ ∈ t →
    ∃ id, Shows rt (options.service.getD "clawdbot-railway-template") (.ok text) "SUCCESS" id
  accepts : ∀ url auth status, ⟨.checkSetupStatus url auth, .ok status⟩ ∈ t →
    (status = 200 ↔ auth.password = .json (.str password))
  fresh : ∀ bytes drawn, ⟨.randomBytes bytes, drawn⟩ ∈ t → "oc-" ++ drawn ≠ password

/-- The calls that deploy nothing. -/
def NoDeploy (c : Call) : Prop := ∀ args stdin, c ≠ .run ("deploy" :: args) stdin

/-- What a rerun is to do: deploy nothing, return, and hand over the password the
service accepts. -/
structure RerunIdempotent (options : InstallerOptions) (password : String) (t : Trace)
    (o : Outcome Failure InstallResult) : Prop where
  noDeploy : ∀ e ∈ t, NoDeploy e.call
  returns : ∃ result, o = .returned result ∧ result.auth.password = .json (.str password) ∧
    (options.writeLocalFiles.getD true = true →
      (∃ existing, ⟨.writeText (options.envLocalPath.getD ".env.local")
        (mergeEnv existing (installEnv result)), .ok ()⟩ ∈ t) ∧
      ⟨.writeText (options.handoffPath.getD "openclaw-railway-handoff.local.md")
        (buildHandoff result), .ok ()⟩ ∈ t)

section Rerun

variable {rt : Runtime} {fuel : ℕ} {options : InstallerOptions} {password : String} {t : Trace}
  {o : Outcome Failure InstallResult}

theorem NoCommand.noDeploy {c : Call} (h : NoCommand c) : NoDeploy c :=
  fun args => h ("deploy" :: args)

theorem IsFinishCall.noDeploy {n : String} {T : ℕ} {c : Call} (h : IsFinishCall n T c) :
    NoDeploy c := by
  rintro args stdin rfl
  rcases h with ⟨-, h | h | ⟨domain, h⟩⟩
  · simp [domainListArgs] at h
  · simp [domainCreateArgs] at h
  · simp [domainUpdateArgs] at h

theorem resolveOptions_noCommand : (resolveOptions options).Only NoCommand := by
  apply (secretOr_only.mono fun _ hc => hc.noCommand).bind
  intro setupPassword
  apply (secretOr_only.mono fun _ hc => hc.noCommand).bind
  intro gatewayToken
  exact Prog.only_pure

theorem handOverInstall_noCommand {resolved : RequiredOptions} {result : InstallResult} :
    (handOverInstall resolved result).Only NoCommand := by
  unfold handOverInstall
  split
  · apply writeMergedEnv_noCommand.bind
    intro _
    apply writeLocalText_noCommand.bind
    intro _
    exact Prog.only_pure
  · exact Prog.only_pure

/-- The end of an installation deploys nothing. -/
theorem finishInstall_noDeploy {resolved : RequiredOptions} {service : Json} {n : String}
    {reused : Bool} (hn : service.get "name" = .json (.str n)) :
    (finishInstall rt fuel resolved service reused).Only NoDeploy := by
  unfold finishInstall
  split
  · apply ((bringUp_only hn).mono fun _ hc => hc.noDeploy).bind
    intro i
    exact handOverInstall_noCommand.mono fun _ hc => hc.noDeploy
  · exact Prog.only_throw

/-- A service that is listed as deployed is reused. -/
theorem installResolved_noDeploy {resolved : RequiredOptions} (hforce : resolved.forceNew = false)
    (hlisted : ∀ text, ⟨.run serviceListArgs none, .ok text⟩ ∈ t →
      ∃ id, Shows rt resolved.service (.ok text) "SUCCESS" id)
    (h : (installResolved rt fuel resolved).Exec t o) : ∀ e ∈ t, NoDeploy e.call := by
  have hlist : NoDeploy (.run serviceListArgs none) := fun args stdin => by simp [serviceListArgs]
  rw [installResolved, listServices_eq] at h
  rcases Prog.exec_ask_bind.mp h with
    ⟨reply, t', services, rfl, hr, hrest⟩ | ⟨reply, e, rfl, -, -⟩
  · intro e he
    rcases List.mem_cons.mp he with rfl | hmem
    · exact hlist
    · cases reply with
      | error message => cases hr
      | ok text =>
          obtain ⟨id, services', listed, hp, hfound, hstatus, -⟩ := hlisted text (by simp)
          rw [hr] at hp
          cases hp
          have hname := findTemplateService_some hfound
          -- what has a name is an object, so it is taken for the existing service
          have htruthy : listed.truthy = true := by
            cases listed <;> first | rfl | cases hname
          have hreusable : reusable (some listed) resolved.forceNew = some listed := by
            rw [hforce, reusable, if_neg (by simp), Option.filter_some, if_pos htruthy]
          rw [hfound] at hrest
          change (serviceToInstall rt fuel resolved (reusable (some listed) resolved.forceNew) >>=
            _).Exec t' o at hrest
          rw [hreusable, serviceToInstall, if_pos (isString_iff.mpr hstatus)] at hrest
          exact (finishInstall_noDeploy hname).exec hrest e hmem
  · intro e' he
    rw [List.mem_singleton.mp he]
    exact hlist

/-- A rerun deploys nothing. -/
theorem install_rerun_noDeploy (hoptions : RerunOptions options)
    (h : (installOpenClawOnRailway rt fuel options).Exec t o)
    (hleft : LeftInstalled rt options password t) : ∀ e ∈ t, NoDeploy e.call := by
  have hresolve : ∀ {t' o'}, (resolveOptions options).Exec t' o' → ∀ e ∈ t', NoDeploy e.call :=
    fun hx e he => (resolveOptions_noCommand.exec hx e he).noDeploy
  rcases Prog.exec_bind.mp h with ⟨resolved, t₁, t₂, rfl, h₁, h₂⟩ | ⟨e, h₁, -⟩ | ⟨h₁, -⟩
  · obtain ⟨hservice, hforce⟩ := resolveOptions_service h₁
    rw [hoptions.noForceNew] at hforce
    intro e he
    rcases List.mem_append.mp he with he | he
    · exact hresolve h₁ e he
    · refine installResolved_noDeploy hforce ?_ h₂ e he
      intro text hmem
      rw [hservice]
      exact hleft.listed text (List.mem_append_right _ hmem)
  · exact hresolve h₁
  · exact hresolve h₁

/-- **Running the installer again.**  The password a rerun draws is not the one the
service accepts, so a rerun never returns, whatever the options and however the
platform answers otherwise. -/
theorem install_rerun_not_idempotent (hoptions : RerunOptions options)
    (h : (installOpenClawOnRailway rt fuel options).Exec t o)
    (hleft : LeftInstalled rt options password t) : ¬ RerunIdempotent options password t o := by
  rintro ⟨-, result, rfl, -, -⟩
  obtain ⟨drawn, url, hdrawn, hpassword, hprobe⟩ :=
    installOpenClawOnRailway_returned hoptions.noPassword h
  have haccepted := (hleft.accepts url result.auth 200 hprobe).mp rfl
  rw [hpassword] at haccepted
  have hsame : "oc-" ++ drawn = password := by
    injection haccepted with hjson
    injection hjson
  exact hleft.fresh 24 drawn hdrawn hsame

end Rerun

/-! ### Two runs with the same options -/

/-- A listing with the installed service, and what it parses to. -/
def installedServices : String × Json :=
  ("[\x7b\"id\":\"s1\",\"name\":\"clawdbot-railway-template\",\"latestDeployment\":" ++
      "\x7b\"id\":\"d1\",\"status\":\"SUCCESS\"\x7d\x7d]",
    .arr [.obj [("id", .str "s1"), ("name", .str "clawdbot-railway-template"),
      ("latestDeployment", .obj [("id", .str "d1"), ("status", .str "SUCCESS")])]])

/-- A listing with its domain, and what it parses to. -/
def installedDomains : String × Json :=
  ("\x7b\"domains\":[\x7b\"domain\":\"shell.example\",\"type\":\"service\"," ++
      "\"targetPort\":8080\x7d]\x7d",
    .obj [("domains", .arr [.obj [("domain", .str "shell.example"), ("type", .str "service"),
      ("targetPort", .num (.ofNat 8080))]])])

/-- A runtime that parses these listings. -/
def installRuntime : Runtime where
  jsonParse text :=
    match [("[]", Json.arr []), installedServices, installedDomains].lookup text with
    | some document => .ok document
    | none => .error "Unexpected token"
  compileRegExp _ := none
  utf8Decode _ := ""
  hmacSha256Hex _ _ := ""

/-- What the platform has been made to do so far. -/
structure InstallPlatform where
  deployed : Bool
  draws : ℕ
  clock : ℤ

/-- An instance that accepts the password of the first deploy. -/
def installEnvironment (s : InstallPlatform) : (c : Call) → c.Reply × InstallPlatform
  | .run args _ =>
    if args = serviceListArgs then (.ok (if s.deployed then installedServices.1 else "[]"), s)
    else if args = domainListArgs "clawdbot-railway-template" then (.ok installedDomains.1, s)
    else (.ok "", { s with deployed := true })
  | .now => (s.clock, s)
  | .sleep ms => ((), { s with clock := s.clock + ms })
  | .randomBytes _ =>
    (["first", "token", "second"].getD s.draws "other", { s with draws := s.draws + 1 })
  | .checkSetupStatus _ auth =>
    (.ok (if auth.password.isString "oc-first" then 200 else 401), s)
  | .getConfigRaw _ _ => (.ok ⟨true, ""⟩, s)
  | .getPendingDevices _ _ => (.ok ⟨true, []⟩, s)
  | .makeDirectory _ => (.ok (), s)
  | .writeText _ _ => (.ok (), s)
  | c => (offline c, s)

/-- Options for a first installation. -/
def installOptions : InstallerOptions where
  template := none
  service := none
  targetPort := none
  pollSeconds := some 60
  timeoutMinutes := some 1
  forceNew := none
  setupUsername := none
  setupPassword := none
  gatewayToken := none
  envLocalPath := none
  handoffPath := none
  writeLocalFiles := none

/-- The installation on a platform in this state. -/
def installFrom (s : InstallPlatform) : Trace × Outcome Failure InstallResult :=
  (installOpenClawOnRailway installRuntime 1 installOptions).play installEnvironment s

/-- On an empty platform. -/
def firstInstall : Trace × Outcome Failure InstallResult := installFrom ⟨false, 0, 0⟩

/-- On the platform as the first run leaves it. -/
def secondInstall : Trace × Outcome Failure InstallResult := installFrom ⟨true, 2, 60000⟩

theorem installFrom_exec (s : InstallPlatform) :
    (installOpenClawOnRailway installRuntime 1 installOptions).Exec (installFrom s).1
      (installFrom s).2 :=
  Prog.play_exec (I := Platform) installEnvironment
    (installOpenClawOnRailway installRuntime 1 installOptions) s

set_option maxRecDepth 2000 in
/-- The first installation returns, with the password it has drawn. -/
theorem firstInstall_returned :
    ∃ result, firstInstall.2 = .returned result ∧ result.auth.password = .json (.str "oc-first") :=
  ⟨_, rfl, rfl⟩

/-- The rerun probes with its own password until its time is up. -/
def rejectedProbe : Event Platform :=
  ⟨.checkSetupStatus "https://shell.example/setup/api/status"
    ⟨"openclaw-admin", .json (.str "oc-second")⟩, .ok 401⟩

set_option maxRecDepth 2000 in
/-- The second one finds the service and draws another. -/
theorem secondInstall_trace :
    secondInstall.1 = [⟨.randomBytes 24, "second"⟩, ⟨.randomBytes 32, "other"⟩,
      ⟨.run serviceListArgs none, .ok installedServices.1⟩,
      ⟨.run (domainListArgs "clawdbot-railway-template") none, .ok installedDomains.1⟩,
      ⟨.now, (60000 : ℤ)⟩, rejectedProbe, ⟨.sleep 60000, ()⟩, ⟨.now, (120000 : ℤ)⟩] := rfl

set_option maxRecDepth 2000 in
/-- The instance does not answer to that one. -/
theorem secondInstall_threw : ∃ e, secondInstall.2 = .threw e := ⟨_, rfl⟩

set_option maxRecDepth 2000 in
theorem installedServices_shows :
    Shows installRuntime "clawdbot-railway-template" (.ok installedServices.1) "SUCCESS"
      (.json (.str "d1")) :=
  ⟨installedServices.2, _, rfl, rfl, rfl, rfl⟩

/-- The first one has left it installed. -/
theorem secondInstall_left :
    LeftInstalled installRuntime installOptions "oc-first" secondInstall.1 := by
  rw [secondInstall_trace]
  constructor
  · intro text hmem
    have htext : text = installedServices.1 := by
      simpa [rejectedProbe, serviceListArgs, domainListArgs] using hmem
    rw [htext]
    exact ⟨_, installedServices_shows⟩
  · intro url auth status hmem
    have hprobe : (⟨.checkSetupStatus url auth, .ok status⟩ : Event Platform) = rejectedProbe := by
      simpa using hmem
    cases hprobe
    simp
  · intro bytes drawn hmem
    cases hmem with
    | head => decide
    | tail _ hmem =>
        cases hmem with
        | head => decide
        | tail _ hmem =>
            change (⟨.randomBytes bytes, drawn⟩ : Event Platform) ∈ (_ : Trace) at hmem
            simp [rejectedProbe] at hmem

/-- **Two runs.**  The first returns and hands over the password `oc-first`; the
rerun, on the platform the first has left, throws. -/
theorem secondInstall_rejected :
    (installOpenClawOnRailway installRuntime 1 installOptions).Exec firstInstall.1 firstInstall.2 ∧
      (∃ result, firstInstall.2 = .returned result ∧
        result.auth.password = .json (.str "oc-first")) ∧
      (installOpenClawOnRailway installRuntime 1 installOptions).Exec secondInstall.1
        secondInstall.2 ∧
      LeftInstalled installRuntime installOptions "oc-first" secondInstall.1 ∧
      ¬ RerunIdempotent installOptions "oc-first" secondInstall.1 secondInstall.2 := by
  refine ⟨installFrom_exec _, firstInstall_returned, installFrom_exec _, secondInstall_left, ?_⟩
  rintro ⟨-, result, hreturned, -, -⟩
  obtain ⟨e, hthrew⟩ := secondInstall_threw
  rw [hthrew] at hreturned
  cases hreturned

/-- The same rerun, as any other. -/
theorem secondInstall_not_idempotent :
    ¬ RerunIdempotent installOptions "oc-first" secondInstall.1 secondInstall.2 :=
  install_rerun_not_idempotent ⟨rfl, rfl⟩ (installFrom_exec _) secondInstall_left

end Railway
