/-
ControlPlane/Railway/Failures.lean

The places a provisioning run can fail at (`provisionClientInstance_fails`): every
error it throws is one of the platform, or one of the kinds listed here.  None of them
is about a client profile.
-/
import ControlPlane.Railway.Routing

namespace Railway

open Js Interaction

/-- The places a provisioning run can fail at. -/
def provisionFailureKinds : List FailureKind :=
  [.platform, .ambiguousServices, .serviceExists, .serviceNotFound, .terminalState, .deployTimeout,
    .noSetupPassword, .noGatewayToken, .noDomain, .setupNotReady, .configRaw, .devicePairing]

/-- The error is of a kind that provisioning throws. -/
def IsProvisionFailure (e : Failure) : Prop := e.kind ∈ provisionFailureKinds

/-- The tool fails at these places only. -/
abbrev Fallible {α : Type} (p : Tool α) : Prop := p.Throws IsProvisionFailure

variable {rt : Runtime} {fuel : ℕ} {α : Type} {name : String} {targetPort : ℕ}

/-! ### Single calls and pure readings -/

/-- A plain failure is one of provisioning. -/
theorem Plain.provisionFailure {x : Except Failure α} (hx : Plain x) :
    ∀ e, x = .error e → IsProvisionFailure e := by
  intro e he
  rw [IsProvisionFailure, hx e he]
  exact .head _

theorem ofExcept_fails {x : Except Failure α} (hx : ∀ e, x = .error e → IsProvisionFailure e) :
    Fallible (Prog.ofExcept x : Tool α) :=
  Prog.throws_ofExcept hx

/-- A call fails as its reply says, which is plainly. -/
theorem ask_fails {c : Call} {g : c.Reply → Except Failure α} (hg : ∀ r, Plain (g r)) :
    Fallible (Prog.ask (I := Platform) c g) :=
  Prog.throws_ask fun r => (hg r).provisionFailure

theorem run_fails {args : List String} {stdin : Option String} : Fallible (run args stdin) :=
  ask_fails fun _ => plain_settled

theorem listServices_fails : Fallible (listServices rt) := by
  rw [listServices_eq]
  exact ask_fails (plain_printed rt)

theorem listDomains_fails : Fallible (listDomains rt name) := by
  rw [listDomains_eq]
  exact ask_fails (plain_printed rt)

theorem plain_namesOf (candidates : List Json) : Plain (namesOf candidates) := by
  induction candidates with
  | nil => exact plain_ok
  | cons candidate candidates ih =>
      exact (plain_readMember candidate "name").bind fun name => ih.bind fun names => plain_ok

theorem plain_serviceIds (services : List Json) : Plain (serviceIds services) := by
  induction services with
  | nil => exact plain_ok
  | cons service services ih =>
      exact (plain_readMember service "id").bind fun id => ih.bind fun ids => plain_ok

theorem plain_createdAmong (beforeIds : List Value) (services : List Json) :
    Plain (createdAmong beforeIds services) := by
  induction services with
  | nil => exact plain_ok
  | cons service services ih =>
      exact (plain_readMember service "id").bind fun id => ih.bind fun created => plain_ok

/-! ### Choosing a service -/

/-- The failures of a selection are plain, or about an ambiguity. -/
theorem selectSoleService_fails {candidates : List Json} {clientName context : String} :
    Fallible (Prog.ofExcept (selectSoleService candidates clientName context) :
      Tool (Option Json)) := by
  apply ofExcept_fails
  intro e he
  unfold selectSoleService at he
  split at he
  · cases he
  · cases hnames : namesOf candidates with
    | error e' =>
        rw [hnames] at he
        cases he
        exact (plain_namesOf candidates).provisionFailure e hnames
    | ok names =>
        rw [hnames] at he
        cases he
        simp [IsProvisionFailure, provisionFailureKinds]

/-- A reading in steps fails where one of them does. -/
theorem ofExcept_bind_fails {β : Type} {x : Except Failure α} {f : α → Except Failure β}
    (hx : Fallible (Prog.ofExcept x : Tool α)) (hf : ∀ a, Fallible (Prog.ofExcept (f a) : Tool β)) :
    Fallible (Prog.ofExcept (x >>= f) : Tool β) := by
  cases x with
  | ok a => exact hf a
  | error e => exact hx

theorem plain_fails {x : Except Failure α} (hx : Plain x) : Fallible (Prog.ofExcept x : Tool α) :=
  ofExcept_fails hx.provisionFailure

/-- So are those of the search for a service that is there. -/
theorem existingService_fails {options : ResolvedProvisionOptions} {services : Json} :
    Fallible (Prog.ofExcept (existingService options services) : Tool (Option Json)) := by
  have hmember : Plain (countedMember services) := by
    unfold countedMember
    split
    · exact plain_thrown
    · exact plain_thrown
    · split
      · exact plain_ok
      · exact plain_ok
  have hcounted : Plain (countedServices services) := by
    unfold countedServices
    split
    · exact plain_thrown
    · exact plain_ok
    · exact hmember
  apply ofExcept_bind_fails (plain_fails hcounted)
  intro counted
  apply ofExcept_bind_fails selectSoleService_fails
  intro existing
  trivial

/-- A service that cannot be reused is a failure of its own kind. -/
theorem checkReusable_fails {service : Json} :
    Fallible (Prog.ofExcept (checkReusable service) : Tool Json) := by
  unfold checkReusable
  split
  · trivial
  · show IsProvisionFailure (serviceExists service)
    simp [IsProvisionFailure, serviceExists, provisionFailureKinds]

/-- So are those of the search for the service that was created. -/
theorem createdService_fails {clientName : String} {beforeIds : List Value} {services : Json} :
    Fallible (Prog.ofExcept (createdService clientName beforeIds services) : Tool String) := by
  apply ofExcept_bind_fails (plain_fails (plain_elements _ _ _))
  intro after
  apply ofExcept_bind_fails (plain_fails (plain_createdAmong _ _))
  intro candidates
  apply ofExcept_bind_fails selectSoleService_fails
  intro created
  split
  · show IsProvisionFailure (noNewService clientName)
    simp [IsProvisionFailure, noNewService, provisionFailureKinds]
  · exact plain_fails (plain_argument _)

/-! ### Waiting -/

/-- The wait for a deployment times out or sees it end. -/
theorem pollServiceUntilSuccess_fails {pollSeconds timeoutMinutes : ℕ} {supersedes : Value} :
    Fallible (pollServiceUntilSuccess rt fuel name pollSeconds timeoutMinutes supersedes) := by
  intro time
  show Fallible (pollRounds rt name pollSeconds supersedes _ fuel)
  induction fuel with
  | zero => trivial
  | succ fuel ih =>
      intro _
      show Fallible (listServices rt >>= fun services =>
        (Prog.ofExcept (sightingOf name supersedes services) : Tool Sighting) >>= _)
      rw [← bind_assoc, listServices_sighting]
      have hsighted : Fallible (Prog.ask (I := Platform) (.run serviceListArgs none)
          (sighted rt name supersedes)) := ask_fails plain_sighted
      apply hsighted.bind
      rintro (service | status | _)
      · trivial
      · show IsProvisionFailure (terminalState name status)
        simp [IsProvisionFailure, terminalState, provisionFailureKinds]
      · intro time'
        show Fallible (if _ then _ else _)
        split
        · exact ih
        · show IsProvisionFailure (deployTimeout name)
          simp [IsProvisionFailure, deployTimeout, provisionFailureKinds]

/-- The wait for the instance times out. -/
theorem waitForSetupReady_fails {url : String} {auth : SetupAuth} {pollSeconds timeoutMinutes : ℕ} :
    Fallible (waitForSetupReady fuel url auth pollSeconds timeoutMinutes) := by
  intro time
  show Fallible (readyRounds url auth pollSeconds timeoutMinutes _ fuel)
  induction fuel with
  | zero => trivial
  | succ fuel ih =>
      apply Prog.Throws.bind (ask_fails fun _ => plain_settled)
      intro lastStatus
      split
      · trivial
      · intro _ time'
        show Fallible (if _ then _ else _)
        split
        · exact ih
        · show IsProvisionFailure (setupNotReady url timeoutMinutes lastStatus)
          simp [IsProvisionFailure, setupNotReady, provisionFailureKinds]

/-! ### The instance -/

theorem routeDomain_fails (listed : Json) : Fallible (routeDomain rt name targetPort listed) := by
  unfold routeDomain
  split
  · trivial
  · apply (plain_fails (plain_argument _)).bind
    intro domain
    apply run_fails.bind
    intro stdout
    apply (plain_fails plain_settled).bind
    intro updated
    exact plain_fails (plain_readMember updated "domain")

theorem ensureDomainPort_fails : Fallible (ensureDomainPort rt name targetPort) := by
  have hpick : ∀ parsed, Fallible (Prog.ofExcept (readMember parsed "domains" >>= pickDomain) :
      Tool (Option Json)) := fun parsed =>
    plain_fails ((plain_readMember parsed "domains").bind plain_pickDomain)
  apply listDomains_fails.bind
  intro parsed
  apply (hpick parsed).bind
  rintro (_ | listed)
  · apply Prog.Throws.bind ?_ routeDomain_fails
    apply run_fails.bind
    intro _
    apply listDomains_fails.bind
    intro parsed
    apply (hpick parsed).bind
    rintro (_ | listed)
    · show IsProvisionFailure (domainNotListed name)
      simp [IsProvisionFailure, domainNotListed, provisionFailureKinds]
    · trivial
  · exact routeDomain_fails listed

theorem configFailure_fails (message : String) : IsProvisionFailure (configFailure message) := by
  simp [IsProvisionFailure, configFailure, provisionFailureKinds]

theorem pairingFailure_fails (message : String) : IsProvisionFailure (pairingFailure message) := by
  simp [IsProvisionFailure, pairingFailure, provisionFailureKinds]

theorem verifyOrigins_fails {verifyResult : ConfigRaw} {origin : String} :
    Fallible (Prog.ofExcept (verifyOrigins rt verifyResult origin) :
      Tool PatchAllowedOriginsResult) := by
  unfold verifyOrigins
  split
  · exact configFailure_fails _
  · split
    · exact configFailure_fails _
    · split
      · trivial
      · exact configFailure_fails _

/-- The patch of the origins fails with its own kind. -/
theorem patchAllowedOrigins_fails {baseUrl domain : String} {auth : SetupAuth} :
    Fallible (patchAllowedOrigins rt baseUrl auth domain) := by
  apply Prog.Throws.bind (ask_fails fun _ => plain_settled)
  intro getResult
  split
  · exact configFailure_fails _
  · apply (plain_fails ((plain_parseConfig _).bind fun config => plain_planOrigins config _)).bind
    rintro (_ | _ | config)
    · trivial
    · trivial
    · apply Prog.Throws.bind (ask_fails fun _ => plain_settled)
      intro posted
      split
      · exact configFailure_fails _
      · apply Prog.Throws.bind (ask_fails fun _ => plain_settled)
        intro verifyResult
        exact verifyOrigins_fails

theorem ownRequest_fails {requestIds : List String} :
    Fallible (Prog.ofExcept (ownRequest requestIds) : Tool (Option String)) := by
  unfold ownRequest
  split
  · trivial
  · split
    · exact pairingFailure_fails _
    · trivial
  · exact pairingFailure_fails _

/-- The pairing fails with its own kind. -/
theorem approveOwnDevicePairing_fails {baseUrl : String} {auth : SetupAuth} :
    Fallible (approveOwnDevicePairing baseUrl auth) := by
  apply Prog.Throws.bind (ask_fails fun _ => plain_settled)
  intro pending
  split
  · trivial
  · apply ownRequest_fails.bind
    rintro (_ | requestId)
    · trivial
    · apply Prog.Throws.bind (ask_fails fun _ => plain_settled)
      intro approved
      split
      · trivial
      · exact pairingFailure_fails _

/-! ### The whole run -/

theorem handOver_fails {options : ResolvedProvisionOptions} {result : ProvisionClientResult} :
    Fallible (handOver options result) := by
  have hwrite : ∀ path contents, Fallible (writeLocalText path contents) := by
    intro path contents
    apply Prog.Throws.bind (ask_fails fun _ => plain_settled)
    intro _
    exact ask_fails fun _ => plain_settled
  unfold handOver
  split
  · have hread : Fallible ((Prog.ask (I := Platform) (.readText options.envLocalPath)
        settled).tryCatch fun _ => (pure "" : Tool String)) :=
      Prog.throws_tryCatch fun _ => trivial
    have henv : Fallible (writeMergedEnv options.envLocalPath (provisionEnv result)) :=
      hread.bind fun existing => hwrite _ _
    apply henv.bind
    intro _
    apply (hwrite _ _).bind
    intro _
    trivial
  · trivial

/-- What follows once the service is there fails as its parts do. -/
theorem finishProvision_fails {options : ResolvedProvisionOptions} {service : Json}
    {credentials : Credentials} {reused : Bool} :
    Fallible (finishProvision rt fuel options service credentials reused) := by
  apply Prog.Throws.bind ?_ fun _ => handOver_fails
  apply (plain_fails (plain_argument _)).bind
  intro name
  apply ensureDomainPort_fails.bind
  intro routed
  apply (plain_fails (plain_readValueMember _ _)).bind
  intro domain
  apply waitForSetupReady_fails.bind
  intro _
  apply patchAllowedOrigins_fails.bind
  intro allowedOrigins
  apply approveOwnDevicePairing_fails.bind
  intro deviceApproval
  trivial

/-- Reusing a service fails as its parts do. -/
theorem reuseService_fails {options : ResolvedProvisionOptions} {existing : Json} :
    Fallible (reuseService rt fuel options existing) := by
  have hstored : ∀ kind variableName service, kind ∈ provisionFailureKinds →
      Fallible (storedCredential rt kind variableName service) := by
    intro kind variableName service hkind
    unfold storedCredential
    rw [readRailwayVariable_eq]
    have hread : Fallible (Prog.ask (I := Platform) (.run (variableListArgs service) none)
        (variableIn rt variableName)) := ask_fails (plain_variableIn rt variableName)
    apply hread.bind
    intro stored
    split
    · trivial
    · exact hkind
  apply checkReusable_fails.bind
  intro service
  apply (plain_fails (plain_argument _)).bind
  intro name
  apply Prog.Throws.bind ?_ fun _ => finishProvision_fails
  apply (hstored _ _ _ (by simp [provisionFailureKinds])).bind
  intro setupPassword
  apply (hstored _ _ _ (by simp [provisionFailureKinds])).bind
  intro gatewayToken
  trivial

/-- Creating a service fails as its parts do. -/
theorem createService_fails {options : ResolvedProvisionOptions} {servicesBefore : Json} :
    Fallible (createService rt fuel options servicesBefore) := by
  have hwrites : ∀ service entries, Fallible (writeVariables service entries) := by
    intro service entries
    induction entries with
    | nil => trivial
    | cons entry entries ih =>
        have hwrite : Fallible (writeRailwayVariable ⟨entry.1, entry.2, service, some true⟩) :=
          run_fails.bind fun _ => trivial
        exact hwrite.bind fun _ => ih
  apply Prog.Throws.bind ?_ fun _ => finishProvision_fails
  apply run_fails.bind
  intro _
  apply (plain_fails ((plain_elements _ _ _).bind plain_serviceIds)).bind
  intro beforeIds
  apply listServices_fails.bind
  intro servicesAfter
  apply createdService_fails.bind
  intro name
  apply run_fails.bind
  intro _
  apply run_fails.bind
  intro _
  apply (hwrites _ _).bind
  intro _
  apply run_fails.bind
  intro _
  exact pollServiceUntilSuccess_fails

/-- **Where a provisioning run can fail.** -/
theorem provisionClientInstance_fails {options : ProvisionClientOptions} :
    Fallible (provisionClientInstance rt fuel options) := by
  have hsecret : ∀ option bytes secretPrefix, Fallible (secretOr option bytes secretPrefix) := by
    intro option bytes secretPrefix
    cases option with
    | some secret => trivial
    | none => exact fun _ => trivial
  have href : Fallible (resolveTemplateRef options.templateRef) := by
    cases options.templateRef with
    | some templateRef => trivial
    | none => exact ask_fails fun _ => plain_settled
  have hresolve : Fallible (resolveProvisionOptions options) :=
    href.bind fun _ => (hsecret _ _ _).bind fun _ => (hsecret _ _ _).bind fun _ => trivial
  have hlink : ∀ resolved, Fallible (linkProject resolved) := by
    intro resolved
    unfold linkProject
    split
    · exact run_fails
    · exact run_fails
  apply hresolve.bind
  intro resolved
  apply (hlink resolved).bind
  intro _
  apply listServices_fails.bind
  intro servicesBefore
  apply existingService_fails.bind
  rintro (_ | existing)
  · exact createService_fails
  · exact reuseService_fails

end Railway
