/-
ControlPlane/Railway/Account.lean

What a provisioning run that returns has done, and how it agrees with its result.

The mutations of a run are the link, the bootstrap of a new service if one was
created, the routing of the domain, and then what the result itself reports: the
origin it says it has allowed, the request it says it has approved, the files it says
it has written (`provisionClientInstance_account`).  A run that reuses a service
writes no variable of it and deploys nothing; the credentials a run hands over for a
new service are the ones it has written to its variables.
-/
import ControlPlane.Interaction.Footprint
import ControlPlane.Railway.Routing

namespace Railway

open Js Interaction

/-- The calls that are counted as mutations. -/
def Call.mutates (c : Call) : Bool := !c.isRead

/-- A tool that returns has left these mutations. -/
abbrev LeavesCalls {α : Type} (p : Tool α) (R : α → List Call → Prop) : Prop :=
  p.Leaves Call.mutates R

/-! ### The parts of an account -/

/-- The call that links or creates the project. -/
def linkCall (options : ResolvedProvisionOptions) : Call :=
  match options.projectId with
  | some projectId => .run (linkArgs projectId) none
  | none => .run (initArgs options.clientName options.workspace) none

/-- The write of one variable. -/
def setCall (service : String) (entry : String × String) : Call :=
  .run (variableSetArgs entry.1 service true) (some entry.2)

/-- What creating a service takes. -/
def bootstrapCalls (options : ResolvedProvisionOptions) (name : String) : List Call :=
  [.run upArgs none, .run ["service", name] none, .run volumeArgs none] ++
    (variableEntries options).map (setCall name) ++ [.run (redeployArgs name) none]

/-- The ways a domain comes to be routed to the port: it is already, it is moved, or one
is generated, which may have to be moved too. -/
inductive Routing (name : String) (targetPort : ℕ) : List Call → Prop
  | kept : Routing name targetPort []
  | moved (domain : String) :
      Routing name targetPort [.run (domainUpdateArgs domain name targetPort) none]
  | generated : Routing name targetPort [.run (domainCreateArgs name targetPort) none]
  | generatedAndMoved (domain : String) :
      Routing name targetPort [.run (domainCreateArgs name targetPort) none,
        .run (domainUpdateArgs domain name targetPort) none]

/-- The write of a configuration the result reports. -/
def originCalls (baseUrl : String) (auth : SetupAuth) (content : String)
    (result : PatchAllowedOriginsResult) : List Call :=
  if result.patched then [.postConfigRaw baseUrl auth content] else []

/-- The approval the result reports. -/
def pairingCalls (baseUrl : String) (auth : SetupAuth) : ApproveOwnDeviceResult → List Call
  | .approved requestId => [.approveDevice baseUrl auth requestId]
  | .noPending => []
  | .notReady => []

/-- The files the result reports; `existing` is the text the entries were merged into. -/
def fileCalls (options : ResolvedProvisionOptions) (existing : String)
    (r : ProvisionClientResult) : List Call :=
  if r.wroteEnvLocal then
    [.makeDirectory options.envLocalPath,
      .writeText options.envLocalPath (mergeEnv existing (provisionEnv r)),
      .makeDirectory options.handoffPath,
      .writeText options.handoffPath (buildProvisionHandoff r)]
  else []

/-! ### Parts that only read -/

section Parts

variable {rt : Runtime} {fuel : ℕ} {baseUrl domain : String} {auth : SetupAuth} {name : String}
  {targetPort : ℕ}

/-- What only reads changes nothing. -/
theorem ReadOnly.leavesNothing {α : Type} {p : Tool α} (hp : ReadOnly p) :
    p.Only fun c : Call => c.mutates = false :=
  hp.mono fun c hc => by simp [Call.mutates, show c.isRead = true from hc]

theorem listServices_readOnly : ReadOnly (listServices rt) := by
  rw [listServices_eq]
  exact ask_readOnly rfl

theorem listDomains_readOnly : ReadOnly (listDomains rt name) := by
  rw [listDomains_eq]
  exact ask_readOnly rfl

/-- Drawing a secret is no change either. -/
theorem resolveProvisionOptions_readOnly {options : ProvisionClientOptions} :
    ReadOnly (resolveProvisionOptions options) := by
  have hsecret : ∀ option bytes secretPrefix, ReadOnly (secretOr option bytes secretPrefix) := by
    intro option bytes secretPrefix
    cases option with
    | some secret => exact Prog.only_pure
    | none => exact Prog.Only.bind (Prog.only_perform.mpr rfl) fun _ => Prog.only_pure
  have href : ReadOnly (resolveTemplateRef options.templateRef) := by
    cases options.templateRef with
    | some templateRef => exact Prog.only_pure
    | none => exact ask_readOnly rfl
  apply href.bind
  intro templateRef
  apply (hsecret _ _ _).bind
  intro setupPassword
  apply (hsecret _ _ _).bind
  intro gatewayToken
  exact Prog.only_pure

theorem storedCredentials_readOnly : ReadOnly (storedCredentials rt name) := by
  have hstored : ∀ kind variableName, ReadOnly (storedCredential rt kind variableName name) := by
    intro kind variableName
    apply (readRailwayVariable_readOnly rt variableName name).bind
    intro stored
    split
    · exact Prog.only_pure
    · exact Prog.only_throw
  apply (hstored _ _).bind
  intro setupPassword
  apply (hstored _ _).bind
  intro gatewayToken
  exact Prog.only_pure

/-! ### Parts that write -/

/-- A command that changes something stands before what the rest leaves. -/
theorem run_leaves_bind {α : Type} {args : List String} {stdin : Option String}
    {f : String → Tool α} {R : α → List Call → Prop} (h : isListing args = false)
    (hf : ∀ out, LeavesCalls (f out) fun a calls => R a (.run args stdin :: calls)) :
    LeavesCalls (run args stdin >>= f) R := by
  have hmutates : (Call.run args stdin).mutates = true := by
    simp [Call.mutates, Call.isRead, h]
  exact Prog.leaves_ask_bind hmutates hf

/-- The origins are written once, if they are written. -/
theorem patchAllowedOrigins_leaves :
    LeavesCalls (patchAllowedOrigins rt baseUrl auth domain) fun result calls =>
      ∃ content, calls = originCalls baseUrl auth content result := by
  refine (ask_readOnly rfl).leavesNothing.leaves_bind fun getResult => ?_
  split
  · exact Prog.leaves_throw
  · apply Prog.leaves_ofExcept_bind
    rintro (_ | _ | config) -
    · exact Prog.leaves_pure ⟨"", rfl⟩
    · exact Prog.leaves_pure ⟨"", rfl⟩
    · refine Prog.leaves_ask_bind rfl fun posted => ?_
      split
      · exact Prog.leaves_throw
      · refine (ask_readOnly rfl).leavesNothing.leaves_bind fun verifyResult => ?_
        apply Prog.leaves_ofExcept
        intro result hresult
        refine ⟨stringifyIndented 0 config, ?_⟩
        -- the only result after a write is the one of a verified write
        have hpatched : result.patched = true := by
          unfold verifyOrigins at hresult
          split at hresult
          · cases hresult
          · split at hresult
            · cases hresult
            · split at hresult
              · cases hresult
                rfl
              · cases hresult
        rw [originCalls, if_pos hpatched]

/-- The one request that is approved is the one that is reported. -/
theorem approveOwnDevicePairing_leaves :
    LeavesCalls (approveOwnDevicePairing baseUrl auth) fun result calls =>
      calls = pairingCalls baseUrl auth result := by
  refine (ask_readOnly rfl).leavesNothing.leaves_bind fun pending => ?_
  split
  · exact Prog.leaves_pure rfl
  · apply Prog.leaves_ofExcept_bind
    rintro (_ | requestId) -
    · exact Prog.leaves_pure rfl
    · refine Prog.leaves_ask_bind rfl fun approved => ?_
      split
      · exact Prog.leaves_pure rfl
      · exact Prog.leaves_throw

theorem routeDomain_leaves (listed : Json) :
    LeavesCalls (routeDomain rt name targetPort listed) fun _ calls =>
      calls = [] ∨ ∃ domain, calls = [.run (domainUpdateArgs domain name targetPort) none] := by
  unfold routeDomain
  split
  · exact Prog.leaves_pure (.inl rfl)
  · apply Prog.leaves_ofExcept_bind
    intro domain _
    refine run_leaves_bind rfl fun stdout => ?_
    apply Prog.leaves_ofExcept_bind
    intro updated _
    apply Prog.leaves_ofExcept
    intro routed _
    exact .inr ⟨domain, rfl⟩

/-- One domain is routed, or one is created, or nothing is done. -/
theorem ensureDomainPort_leaves :
    LeavesCalls (ensureDomainPort rt name targetPort) fun _ => Routing name targetPort := by
  refine listDomains_readOnly.leavesNothing.leaves_bind fun parsed => ?_
  apply Prog.leaves_ofExcept_bind
  rintro (_ | listed) -
  · -- none is listed: one is generated, looked up and routed like any other
    have hgenerated : LeavesCalls (generateDomain rt name targetPort) fun _ calls =>
        calls = [.run (domainCreateArgs name targetPort) none] := by
      refine run_leaves_bind rfl fun _ => ?_
      refine listDomains_readOnly.leavesNothing.leaves_bind fun parsed => ?_
      apply Prog.leaves_ofExcept_bind
      rintro (_ | listed) -
      · exact Prog.leaves_throw
      · exact Prog.leaves_pure rfl
    refine Prog.Leaves.bind hgenerated ?_
    rintro listed calls rfl
    refine (routeDomain_leaves listed).mono ?_
    rintro routed calls (rfl | ⟨domain, rfl⟩)
    · exact .generated
    · exact .generatedAndMoved domain
  · refine (routeDomain_leaves listed).mono ?_
    rintro routed calls (rfl | ⟨domain, rfl⟩)
    · exact .kept
    · exact .moved domain

/-- Each entry is written once, in order. -/
theorem writeVariables_leaves (entries : List (String × String)) :
    LeavesCalls (writeVariables name entries) fun _ calls => calls = entries.map (setCall name) := by
  induction entries with
  | nil => exact Prog.leaves_pure rfl
  | cons entry entries ih =>
      show LeavesCalls (writeRailwayVariable ⟨entry.1, entry.2, name, some true⟩ >>= fun _ =>
        writeVariables name entries) _
      rw [writeRailwayVariable_eq]
      refine Prog.leaves_ask_bind rfl fun _ => ih.mono ?_
      rintro _ calls rfl
      rfl

/-- With the upload before it, this is all that creates a service. -/
theorem deployCreated_leaves {options : ResolvedProvisionOptions} :
    LeavesCalls (deployCreated rt fuel options name) fun _ calls =>
      .run upArgs none :: calls = bootstrapCalls options name := by
  have hservice : isListing ["service", name] = false := by
    unfold isListing
    split <;> simp_all
  refine run_leaves_bind hservice fun _ => run_leaves_bind rfl fun _ => ?_
  refine Prog.Leaves.bind (writeVariables_leaves _) ?_
  rintro _ calls rfl
  refine run_leaves_bind rfl fun _ => ?_
  refine (pollServiceUntilSuccess_readOnly _ _).leavesNothing.leaves.mono ?_
  rintro service calls rfl
  simp [bootstrapCalls]

theorem writeLocalText_leaves {path contents : String} :
    LeavesCalls (writeLocalText path contents) fun _ calls =>
      calls = [.makeDirectory path, .writeText path contents] := by
  refine Prog.leaves_ask_bind rfl fun _ => ?_
  exact Prog.leaves_ask rfl fun _ _ _ => rfl

/-- The files are written unless they were not asked for, and the result says so. -/
theorem handOver_leaves {options : ResolvedProvisionOptions} {result : ProvisionClientResult}
    (hresult : result.wroteEnvLocal = false) :
    LeavesCalls (handOver options result) fun r calls =>
      r.toInstance = result.toInstance ∧ r.projectId = result.projectId ∧
        r.templateRef = result.templateRef ∧ r.gatewayToken = result.gatewayToken ∧
        r.reusedExistingService = result.reusedExistingService ∧
        ∃ existing, calls = fileCalls options existing r := by
  unfold handOver
  split
  · have hread : ReadOnly ((Prog.ask (I := Platform) (.readText options.envLocalPath)
        settled).tryCatch fun _ => (pure "" : Tool String)) :=
      Prog.Only.tryCatch (ask_readOnly rfl) fun _ => Prog.only_pure
    have henv : LeavesCalls (writeMergedEnv options.envLocalPath (provisionEnv result))
        fun _ calls => ∃ existing, calls = [.makeDirectory options.envLocalPath,
          .writeText options.envLocalPath (mergeEnv existing (provisionEnv result))] := by
      refine hread.leavesNothing.leaves_bind fun existing => ?_
      exact writeLocalText_leaves.mono fun _ calls h => ⟨existing, h⟩
    refine henv.bind ?_
    rintro _ calls ⟨existing, rfl⟩
    refine Prog.Leaves.bind writeLocalText_leaves ?_
    rintro _ calls rfl
    exact Prog.leaves_pure ⟨rfl, rfl, rfl, rfl, rfl, existing, rfl⟩
  · refine Prog.leaves_pure ⟨rfl, rfl, rfl, rfl, rfl, "", ?_⟩
    rw [fileCalls, hresult]
    rfl

end Parts

/-! ### The account of a run -/

/-- What the options of a run are resolved to; a secret that is not given is drawn. -/
structure Settles (options : ProvisionClientOptions) (resolved : ResolvedProvisionOptions) :
    Prop where
  clientName : resolved.clientName = options.clientName
  projectId : resolved.projectId = nonEmpty options.projectId
  workspace : resolved.workspace = nonEmpty options.workspace
  targetPort : resolved.targetPort = options.targetPort.getD 8080
  templateRef : ∀ templateRef ∈ options.templateRef, resolved.templateRef = templateRef
  setupUsername : resolved.setupUsername = options.setupUsername.getD DEFAULT_SETUP_USERNAME
  setupPassword : ∀ setupPassword ∈ options.setupPassword, resolved.setupPassword = setupPassword
  gatewayToken : ∀ gatewayToken ∈ options.gatewayToken, resolved.gatewayToken = gatewayToken

/-- The result is of these options; the credentials it hands over for a service it has
created are the ones written to its variables. -/
structure ReportsOn (resolved : ResolvedProvisionOptions) (name : String)
    (r : ProvisionClientResult) : Prop where
  service : r.service.get "name" = .json (.str name)
  projectId : r.projectId = resolved.projectId
  templateRef : r.templateRef = resolved.templateRef
  setupUsername : r.auth.username = resolved.setupUsername
  setupPassword : r.reusedExistingService = false →
    r.auth.password = .json (.str resolved.setupPassword)
  gatewayToken : r.reusedExistingService = false →
    r.gatewayToken = .json (.str resolved.gatewayToken)

/-- What a run that returns `r` has done from the routing of the domain on. -/
def FinishAccount (resolved : ResolvedProvisionOptions) (name : String)
    (r : ProvisionClientResult) (calls : List Call) : Prop :=
  ∃ routing content existing, Routing name resolved.targetPort routing ∧
    calls = routing ++ originCalls r.baseUrl r.auth content r.allowedOrigins ++
      pairingCalls r.baseUrl r.auth r.deviceApproval ++ fileCalls resolved existing r

/-- What a run that returns `r` has done: it has linked the project, created the service
unless it was reused, and finished. -/
def ProvisionAccount (options : ProvisionClientOptions) (r : ProvisionClientResult)
    (calls : List Call) : Prop :=
  ∃ resolved name finish, Settles options resolved ∧ ReportsOn resolved name r ∧
    FinishAccount resolved name r finish ∧
    calls = linkCall resolved ::
      (if r.reusedExistingService then [] else bootstrapCalls resolved name) ++ finish

section Account

variable {rt : Runtime} {fuel : ℕ} {options : ProvisionClientOptions}
  {resolved : ResolvedProvisionOptions} {name : String}

/-- A secret that is given is the one that is used. -/
theorem secretOr_returned {option : Option String} {bytes : ℕ} {secretPrefix secret : String}
    {t : Trace} (h : (secretOr option bytes secretPrefix).Exec t (.returned secret)) :
    ∀ given ∈ option, secret = given := by
  rintro given ⟨⟩
  exact Outcome.returned.inj h.2

/-- The options are settled without any change. -/
theorem resolveProvisionOptions_settles :
    LeavesCalls (resolveProvisionOptions options) fun resolved calls =>
      Settles options resolved ∧ calls = [] := by
  intro t resolved hx
  refine ⟨?_, resolveProvisionOptions_readOnly.mutations_eq_nil hx⟩
  obtain ⟨templateRef, _, t₁, -, href, hx⟩ := Prog.exec_bind_returned.mp hx
  obtain ⟨setupPassword, _, t₂, -, hpassword, hx⟩ := Prog.exec_bind_returned.mp hx
  obtain ⟨gatewayToken, _, t₃, -, htoken, hx⟩ := Prog.exec_bind_returned.mp hx
  cases hx.2
  refine ⟨rfl, rfl, rfl, rfl, ?_, rfl, secretOr_returned hpassword, secretOr_returned htoken⟩
  intro given hgiven
  rw [Option.mem_def.mp hgiven] at href
  exact Outcome.returned.inj href.2

/-- The project is linked or created, by one command. -/
theorem linkProject_leaves :
    LeavesCalls (linkProject resolved) fun _ calls => calls = [linkCall resolved] := by
  unfold linkProject linkCall
  cases resolved.projectId with
  | some projectId => exact Prog.leaves_ask rfl fun _ _ _ => rfl
  | none =>
      refine Prog.leaves_ask ?_ fun _ _ _ => rfl
      cases resolved.workspace <;> rfl

/-- The domain, the origins and the pairing of one service, in this order. -/
theorem bringUp_leaves {service : Json} {targetPort pollSeconds timeoutMinutes : ℕ}
    {auth : SetupAuth} (hname : service.get "name" = .json (.str name)) :
    LeavesCalls (bringUp rt fuel service targetPort pollSeconds timeoutMinutes auth)
      fun i calls => i.service = service ∧ i.auth = auth ∧
        ∃ routing content, Routing name targetPort routing ∧
          calls = routing ++ originCalls i.baseUrl auth content i.allowedOrigins ++
            pairingCalls i.baseUrl auth i.deviceApproval := by
  rw [bringUp, hname]
  refine ensureDomainPort_leaves.bind fun routed routing hrouting => ?_
  apply Prog.leaves_ofExcept_bind
  intro domain _
  refine waitForSetupReady_readOnly.leavesNothing.leaves_bind fun _ => ?_
  refine patchAllowedOrigins_leaves.bind ?_
  rintro allowedOrigins calls ⟨content, rfl⟩
  refine Prog.Leaves.bind approveOwnDevicePairing_leaves ?_
  rintro deviceApproval calls rfl
  refine Prog.leaves_pure ⟨rfl, rfl, routing, content, hrouting, ?_⟩
  simp [Instance.baseUrl]

/-- What a run does once the service is there, and what it reports. -/
theorem finishProvision_leaves {service : Json} {credentials : Credentials} {reused : Bool}
    (hname : service.get "name" = .json (.str name))
    (hcredentials : reused = false → credentials =
      ⟨.json (.str resolved.setupPassword), .json (.str resolved.gatewayToken)⟩) :
    LeavesCalls (finishProvision rt fuel resolved service credentials reused) fun r calls =>
      r.reusedExistingService = reused ∧ ReportsOn resolved name r ∧
        FinishAccount resolved name r calls := by
  refine (bringUp_leaves hname).bind ?_
  rintro ⟨_, domain, _, allowedOrigins, deviceApproval⟩ calls
    ⟨rfl, rfl, routing, content, hrouting, rfl⟩
  refine (handOver_leaves rfl).mono ?_
  rintro r files ⟨hi, hproject, href, htoken, hreused, existing, rfl⟩
  have hauth : r.auth = ⟨resolved.setupUsername, credentials.setupPassword⟩ := congrArg _ hi
  refine ⟨hreused, ⟨?_, hproject, href, ?_, ?_, ?_⟩, routing, content, existing, hrouting, ?_⟩
  · rw [hi]
    exact hname
  · rw [hauth]
  · intro hnew
    rw [hauth, hcredentials (hreused.symm.trans hnew)]
  · intro hnew
    rw [htoken, hcredentials (hreused.symm.trans hnew)]
  · rw [hi]

/-- A reused service is only finished. -/
theorem reuseService_leaves {existing : Json} :
    LeavesCalls (reuseService rt fuel resolved existing) fun r calls =>
      r.reusedExistingService = true ∧ ∃ name, ReportsOn resolved name r ∧
        FinishAccount resolved name r calls := by
  apply Prog.leaves_ofExcept_bind
  intro service _
  apply Prog.leaves_ofExcept_bind
  intro name hname
  refine storedCredentials_readOnly.leavesNothing.leaves_bind fun credentials => ?_
  have hfinish : LeavesCalls (finishProvision rt fuel resolved service credentials true)
      fun r calls => r.reusedExistingService = true ∧ ReportsOn resolved name r ∧
        FinishAccount resolved name r calls :=
    finishProvision_leaves (argument_eq_ok.mp hname) fun h => (Bool.noConfusion h)
  exact hfinish.mono fun r calls ⟨hreused, hreports, haccount⟩ =>
    ⟨hreused, name, hreports, haccount⟩

/-- A new service is created first and then finished. -/
theorem createService_leaves {servicesBefore : Json} :
    LeavesCalls (createService rt fuel resolved servicesBefore) fun r calls =>
      r.reusedExistingService = false ∧ ∃ name finish, ReportsOn resolved name r ∧
        FinishAccount resolved name r finish ∧
        calls = bootstrapCalls resolved name ++ finish := by
  have hbootstrap : LeavesCalls (bootstrapService rt fuel resolved servicesBefore)
      fun service calls => ∃ name, service.get "name" = .json (.str name) ∧
        calls = bootstrapCalls resolved name := by
    refine run_leaves_bind rfl fun _ => ?_
    apply Prog.leaves_ofExcept_bind
    intro beforeIds _
    refine listServices_readOnly.leavesNothing.leaves_bind fun servicesAfter => ?_
    apply Prog.leaves_ofExcept_bind
    intro name _ t service hx
    exact ⟨name, deployCreated_name hx, deployCreated_leaves t service hx⟩
  refine hbootstrap.bind ?_
  rintro service calls ⟨name, hname, rfl⟩
  refine (finishProvision_leaves hname fun _ => rfl).mono ?_
  rintro r finish ⟨hcreated, hreports, haccount⟩
  exact ⟨hcreated, name, finish, hreports, haccount, rfl⟩

/-- The account of provisioning, as a footprint. -/
theorem provisionClientInstance_leaves :
    LeavesCalls (provisionClientInstance rt fuel options) (ProvisionAccount options) := by
  refine resolveProvisionOptions_settles.bind ?_
  rintro resolved calls ⟨hsettles, rfl⟩
  refine Prog.Leaves.bind linkProject_leaves ?_
  rintro _ calls rfl
  refine listServices_readOnly.leavesNothing.leaves_bind fun servicesBefore => ?_
  apply Prog.leaves_ofExcept_bind
  rintro (_ | existing) -
  · refine createService_leaves.mono ?_
    rintro r calls ⟨hcreated, name, finish, hreports, haccount, rfl⟩
    refine ⟨resolved, name, finish, hsettles, hreports, haccount, ?_⟩
    rw [hcreated]
    rfl
  · refine reuseService_leaves.mono ?_
    rintro r calls ⟨hreused, name, hreports, haccount⟩
    refine ⟨resolved, name, calls, hsettles, hreports, haccount, ?_⟩
    rw [hreused]
    rfl

/-- **The account of a provisioning run.**  Whatever a run is answered, when it returns
its mutations are the link of the project, the bootstrap of the service if it has
created one, the routing of the domain, and the write, the approval and the files that
its result reports, each once and in this order. -/
theorem provisionClientInstance_account {t : Trace} {r : ProvisionClientResult}
    (h : (provisionClientInstance rt fuel options).Exec t (.returned r)) :
    ProvisionAccount options r (mutations t) :=
  provisionClientInstance_leaves t r h

end Account

/-! ### A rerun of a provisioned client -/

/-- The instance answers, has no baseline configuration yet and one device waiting. -/
def rerunInstance (s : RerunPlatform) : (c : Call) → c.Reply × RerunPlatform
  | .checkSetupStatus _ _ => (.ok 200, s)
  | .getConfigRaw _ _ => (.ok ⟨true, ""⟩, s)
  | .getPendingDevices _ _ => (.ok ⟨true, ["req_1"]⟩, s)
  | .approveDevice _ _ _ => (.ok true, s)
  | c => rerunEnvironment s c

/-- A rerun over a service that is there. -/
def provisionedRun : Trace × Outcome Failure ProvisionClientResult :=
  (provisionClientInstance rerunRuntime 1 (rerunOptions (some "p1") (some 3000))).play rerunInstance
    ⟨true, true⟩

/-- What that rerun returns. -/
def provisionedResult : ProvisionClientResult where
  service := .obj [("id", .str "s1"), ("name", .str "client"),
    ("latestDeployment", .obj [("id", .str "d1"), ("status", .str "SUCCESS")])]
  domain := "client.example"
  auth := ⟨"openclaw-admin", .json (.str "hunter2")⟩
  allowedOrigins := ⟨false, .refusedMissingBaseline⟩
  deviceApproval := .approved "req_1"
  projectId := some "p1"
  templateRef := "v1"
  gatewayToken := .json (.str "token")
  reusedExistingService := true
  wroteEnvLocal := false
  wroteHandoff := false

theorem provisionedRun_exec :
    (provisionClientInstance rerunRuntime 1 (rerunOptions (some "p1") (some 3000))).Exec
      provisionedRun.1 provisionedRun.2 :=
  Prog.play_exec (I := Platform) rerunInstance
    (provisionClientInstance rerunRuntime 1 (rerunOptions (some "p1") (some 3000))) ⟨true, true⟩

set_option maxRecDepth 4000 in
theorem provisionedRun_returned : provisionedRun.2 = .returned provisionedResult := rfl

set_option maxRecDepth 4000 in
theorem provisionedRun_mutations :
    mutations provisionedRun.1 = [.run (linkArgs "p1") none,
      .approveDevice "https://client.example" ⟨"openclaw-admin", .json (.str "hunter2")⟩
        "req_1"] := rfl

/-- The service is reused as it is: a link and the approval the result reports. -/
theorem provisionedRun_accounted :
    provisionedResult.reusedExistingService = true ∧
      ProvisionAccount (rerunOptions (some "p1") (some 3000)) provisionedResult
        [.run (linkArgs "p1") none, .approveDevice "https://client.example"
          ⟨"openclaw-admin", .json (.str "hunter2")⟩ "req_1"] := by
  refine ⟨rfl, ?_⟩
  rw [← provisionedRun_mutations]
  exact provisionClientInstance_account (provisionedRun_returned ▸ provisionedRun_exec)

end Railway
