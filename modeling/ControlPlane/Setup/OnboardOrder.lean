/-
ControlPlane/Setup/OnboardOrder.lean

In which order a bootstrap acts, and on what.

`OnboardCall` says of each call made after the provisioning what has to be in the past
of the run for it.  A key is minted and the setup request sent once at most, and only
after the instance has said that it is not configured; a variable is only given a key
minted in this run; a configuration is only written as planned from the one read, and a
pairing only approved that was the only one pending.  Every call is about the provisioned
instance, with its credentials, or about OpenRouter.
-/
import ControlPlane.Setup.Onboarding
import ControlPlane.Interaction.Once

namespace Setup

open Js Railway Interaction

/-! ### What a call needs -/

/-- The instance has answered that it is not configured. -/
def ReportedUnconfigured (client : SetupApiClient) (past : Trace) : Prop :=
  ∃ reply status, ⟨.fetch (getRequest client "/setup/api/status"), reply⟩ ∈ past ∧
    settledJson "GET" "/setup/api/status" reply = .ok status ∧ isConfigured status = false

/-- The call mints a key. -/
def IsMint (managementKey : String) (c : Call) : Prop :=
  ∃ request, c = .fetch (mintRequest request managementKey)

/-- The call sends the setup request. -/
def IsSetup (client : SetupApiClient) (c : Call) : Prop :=
  ∃ payload, c = setupCall client payload

/-- The calls of a bootstrap after the provisioning, and what each needs to be in the
past of the run. -/
inductive OnboardCall (rt : Runtime) (managementKey : String) (provision : ProvisionClientResult)
    (past : Trace) : Call → Prop
  | now : OnboardCall rt managementKey provision past .now
  | sleep (ms : ℕ) : OnboardCall rt managementKey provision past (.sleep ms)
  | listVariables : OnboardCall rt managementKey provision past
      (.run (variableListArgs provision.serviceName) none)
  | status : OnboardCall rt managementKey provision past
      (.fetch (getRequest (setupClientOf provision) "/setup/api/status"))
  | health : OnboardCall rt managementKey provision past
      (.fetch (healthRequest provision.baseUrl))
  | mint (request : MintKeyRequest)
      (hunconfigured : ReportedUnconfigured (setupClientOf provision) past)
      (hfirst : ∀ e ∈ past, ¬ IsMint managementKey e.call) :
      OnboardCall rt managementKey provision past (.fetch (mintRequest request managementKey))
  | write (request : MintKeyRequest) (key : MintedOpenRouterKey)
      (reply : Except String Response) (skipDeploys : Bool)
      (hminted : ⟨.fetch (mintRequest request managementKey), reply⟩ ∈ past)
      (hkey : mintedKey reply = .ok key) :
      OnboardCall rt managementKey provision past
        (.run (variableSetArgs request.name provision.serviceName skipDeploys) (some key.key))
  | setup (payload : Json) (hunconfigured : ReportedUnconfigured (setupClientOf provision) past)
      (hfirst : ∀ e ∈ past, ¬ IsSetup (setupClientOf provision) e.call) :
      OnboardCall rt managementKey provision past (setupCall (setupClientOf provision) payload)
  | readConfig : OnboardCall rt managementKey provision past
      (.getConfigRaw provision.baseUrl provision.auth)
  | writeConfig (raw : String) (config : Json)
      (hread : ⟨.getConfigRaw provision.baseUrl provision.auth, .ok ⟨true, raw⟩⟩ ∈ past)
      (hplan : (parseConfig rt raw >>= fun config =>
        planOrigins config ("https://" ++ provision.domain)) = .ok (.post config)) :
      OnboardCall rt managementKey provision past
        (.postConfigRaw provision.baseUrl provision.auth (stringifyIndented 0 config))
  | pending : OnboardCall rt managementKey provision past
      (.getPendingDevices provision.baseUrl provision.auth)
  | approve (requestId : String)
      (hsole : ⟨.getPendingDevices provision.baseUrl provision.auth, .ok ⟨true, [requestId]⟩⟩ ∈ past) :
      OnboardCall rt managementKey provision past
        (.approveDevice provision.baseUrl provision.auth requestId)

/-- Nothing was minted or set up yet. -/
def Untouched (managementKey : String) (provision : ProvisionClientResult) (past : Trace) : Prop :=
  ∀ e ∈ past, ¬ IsMint managementKey e.call ∧ ¬ IsSetup (setupClientOf provision) e.call

/-! ### The parts -/

section Parts

variable {rt : Runtime} {fuel : ℕ} {managementKey : String} {provision : ProvisionClientResult}
  {past : Trace} {candidateProfile : Json}

/-- A mint is no setup request. -/
theorem isMint_not_isSetup {client : SetupApiClient} {request : MintKeyRequest} :
    ¬ IsSetup client (.fetch (mintRequest request managementKey)) := by
  rintro ⟨payload, heq⟩
  have hsetup : Elsewhere (setupCall client payload) := elsewhere_run payload
  rw [← heq] at hsetup
  exact hsetup.1 ⟨rfl, rfl⟩

theorem not_isMint_get {request : FetchRequest} (h : request.method = "GET") :
    ¬ IsMint managementKey (.fetch request) := by
  rintro ⟨minted, heq⟩
  exact (elsewhere_get h).1 (Call.fetch.inj heq ▸ ⟨rfl, rfl⟩)

theorem not_isSetup_get {client : SetupApiClient} {request : FetchRequest}
    (h : request.method = "GET") : ¬ IsSetup client (.fetch request) := by
  rintro ⟨payload, heq⟩
  have hpost : request.method = "POST" := by rw [Call.fetch.inj heq]; rfl
  exact absurd (h.symm.trans hpost) (by decide)

theorem not_isMint_run {args : List String} {stdin : Option String} :
    ¬ IsMint managementKey (.run args stdin) := by
  rintro ⟨request, ⟨⟩⟩

theorem not_isSetup_run {client : SetupApiClient} {args : List String} {stdin : Option String} :
    ¬ IsSetup client (.run args stdin) := by
  rintro ⟨payload, ⟨⟩⟩

/-- Two parts of a run that leave the instance untouched. -/
theorem Untouched.append {t : Trace} (h : Untouched managementKey provision past)
    (ht : Untouched managementKey provision t) :
    Untouched managementKey provision (past ++ t) := by
  intro e he
  rcases List.mem_append.mp he with he | he
  · exact h e he
  · exact ht e he

theorem Untouched.listed {reply : Except String String} {service : String} :
    Untouched managementKey provision [⟨.run (variableListArgs service) none, reply⟩] := by
  intro e he
  rw [List.mem_singleton.mp he]
  exact ⟨not_isMint_run, not_isSetup_run⟩

/-- What was reported stays reported. -/
theorem ReportedUnconfigured.append {client : SetupApiClient} (t : Trace)
    (h : ReportedUnconfigured client past) : ReportedUnconfigured client (past ++ t) := by
  obtain ⟨reply, status, hmem, hsettled, hconfigured⟩ := h
  exact ⟨reply, status, List.mem_append_left t hmem, hsettled, hconfigured⟩

theorem listRailwayVariables_always :
    (listRailwayVariables rt provision.serviceName).Always
      (OnboardCall rt managementKey provision) past := by
  rw [listRailwayVariables_eq]
  exact Prog.always_ask .listVariables

/-- The dry run makes calls that are allowed any time. -/
theorem dryRunApplyProfile_always [Zod] :
    (dryRunApplyProfile rt candidateProfile ⟨provision.serviceName⟩).Always
      (OnboardCall rt managementKey provision) past := by
  apply Prog.always_ofExcept_bind
  intro profile _
  apply listRailwayVariables_always.bind
  intro vars t _
  apply Prog.always_ofExcept_bind
  intro requiredSecrets _
  apply Prog.always_ofExcept_bind
  intro payloadPreview _
  trivial

/-- It leaves the instance untouched. -/
theorem dryRunApplyProfile_untouched [Zod] {result : DryRunResult} {t : Trace}
    (h : (dryRunApplyProfile rt candidateProfile ⟨provision.serviceName⟩).Exec t
      (.returned result)) : Untouched managementKey provision t := by
  have hlist : (dryRunApplyProfile rt candidateProfile ⟨provision.serviceName⟩).Only
      fun c : Call => ∃ args stdin, c = .run args stdin := by
    apply Prog.only_ofExcept.bind
    intro profile
    rw [listRailwayVariables_eq]
    apply Prog.Only.bind (Prog.only_ask ⟨_, _, rfl⟩)
    intro vars
    apply Prog.only_ofExcept.bind
    intro requiredSecrets
    apply Prog.only_ofExcept.bind
    intro payloadPreview
    exact Prog.only_pure
  intro e he
  obtain ⟨args, stdin, hcall⟩ := hlist.exec h e he
  rw [hcall]
  exact ⟨not_isMint_run, not_isSetup_run⟩

theorem settleRedeploy_always {redeployTriggered : Bool} :
    (settleRedeploy fuel (applyOptionsOf provision) redeployTriggered).Always
      (OnboardCall rt managementKey provision) past := by
  have hany : (settleRedeploy fuel (applyOptionsOf provision) redeployTriggered).Only
      fun c => ∀ past, OnboardCall rt managementKey provision past c :=
    settleRedeploy_only (fun _ => .health) (fun _ => .now) fun ms _ => .sleep ms
  exact hany.always fun past c hc => hc past

/-- The wait for a redeploy makes no setup request. -/
theorem settleRedeploy_noSetup {redeployTriggered : Bool} {t : Trace}
    (h : (settleRedeploy fuel (applyOptionsOf provision) redeployTriggered).Exec t
      (.returned ())) : ∀ e ∈ t, ¬ IsSetup (setupClientOf provision) e.call := by
  have honly : (settleRedeploy fuel (applyOptionsOf provision) redeployTriggered).Only
      fun c => ¬ IsSetup (setupClientOf provision) c := by
    apply settleRedeploy_only
    · exact not_isSetup_get rfl
    · rintro ⟨payload, ⟨⟩⟩
    · rintro ms ⟨payload, ⟨⟩⟩
  exact honly.exec h

/-- Past the provider: wait, and send the setup request, the first of the run. -/
theorem applyChannels_always {profile : ClientProfile} {existingVars : Json}
    {resolution : ProviderResolution}
    (hunconfigured : ReportedUnconfigured (setupClientOf provision) past)
    (hfirst : ∀ e ∈ past, ¬ IsSetup (setupClientOf provision) e.call) :
    (applyChannels fuel profile existingVars (applyOptionsOf provision) (setupClientOf provision)
      resolution).Always (OnboardCall rt managementKey provision) past := by
  apply Prog.always_ofExcept_bind
  intro fields _
  apply settleRedeploy_always.bind
  intro _ t hsettled
  have hstill : ∀ e ∈ past ++ t, ¬ IsSetup (setupClientOf provision) e.call := by
    intro e he
    rcases List.mem_append.mp he with he | he
    · exact hfirst e he
    · exact settleRedeploy_noSetup hsettled e he
  refine Prog.always_ask_bind (.setup _ (hunconfigured.append t) hstill) fun reply body _ => ?_
  refine Prog.always_ask_bind .status fun reply' status _ => ?_
  split
  · trivial
  · trivial

/-- The mint is the first of the run, and what is written is what it has minted. -/
theorem mintSecret_always {secretName : String} {keyProvisioning : KeyProvisioning}
    {requiresRedeploy : Bool} (hunconfigured : ReportedUnconfigured (setupClientOf provision) past)
    (huntouched : Untouched managementKey provision past) :
    (mintSecret secretName keyProvisioning requiresRedeploy provision.serviceName
      managementKey).Always (OnboardCall rt managementKey provision) past := by
  refine Prog.always_ask_bind (.mint _ hunconfigured fun e he => (huntouched e he).1) ?_
  intro reply key hkey
  rw [writeRailwayVariable_eq]
  have hminted : (⟨.fetch (mintRequest ⟨secretName, keyProvisioning.spendLimitUsd,
      keyProvisioning.limitReset⟩ managementKey), reply⟩ : Event Platform) ∈
      past ++ [⟨.fetch (mintRequest ⟨secretName, keyProvisioning.spendLimitUsd,
        keyProvisioning.limitReset⟩ managementKey), reply⟩] := by simp
  refine Prog.always_ask_bind (.write _ key reply _ hminted hkey) fun _ _ _ => ?_
  trivial

/-- The calls of the mint, none of which sends the setup request. -/
theorem mintSecret_noSetup {secretName : String} {keyProvisioning : KeyProvisioning}
    {requiresRedeploy : Bool} {resolution : SecretResolution} {t : Trace}
    (h : (mintSecret secretName keyProvisioning requiresRedeploy provision.serviceName
      managementKey).Exec t (.returned resolution)) :
    ∀ e ∈ t, ¬ IsSetup (setupClientOf provision) e.call := by
  have honly : (mintSecret secretName keyProvisioning requiresRedeploy provision.serviceName
      managementKey).Only fun c => ¬ IsSetup (setupClientOf provision) c := by
    apply Prog.Only.bind (Prog.only_ask isMint_not_isSetup)
    intro key
    rw [writeRailwayVariable_eq]
    apply Prog.Only.bind (Prog.only_ask not_isSetup_run)
    intro _
    exact Prog.only_pure
  exact honly.exec h

/-- The attachments are applied by calls with their licences. -/
theorem applyAttachments_always {profile : ClientProfile} {existingVars : Json}
    (hunconfigured : ReportedUnconfigured (setupClientOf provision) past)
    (huntouched : Untouched managementKey provision past) :
    (applyAttachments fuel profile existingVars (applyOptionsOf provision)
      ⟨setupClientOf provision, managementKey⟩).Always
      (OnboardCall rt managementKey provision) past := by
  apply Prog.always_ofExcept_bind
  rintro (_ | provider) _
  · exact applyChannels_always hunconfigured fun e he => (huntouched e he).2
  · simp only [resolveProvider, resolveProviderSecret, bind_assoc]
    apply Prog.always_ofExcept_bind
    rintro (value | ⟨secretName, keyProvisioning⟩) _
    · exact applyChannels_always hunconfigured fun e he => (huntouched e he).2
    · apply (mintSecret_always hunconfigured huntouched).bind
      intro resolution t hminted
      apply applyChannels_always (hunconfigured.append t)
      intro e he
      rcases List.mem_append.mp he with he | he
      · exact (huntouched e he).2
      · exact mintSecret_noSetup hminted e he

/-- So is the profile. -/
theorem applyProfile_always [Zod] (huntouched : Untouched managementKey provision past) :
    (applyProfile rt fuel candidateProfile (applyOptionsOf provision)
      ⟨setupClientOf provision, managementKey⟩).Always
      (OnboardCall rt managementKey provision) past := by
  apply Prog.always_ofExcept_bind
  intro profile _
  refine Prog.always_ask_bind .status fun reply status hstatus => ?_
  split_ifs with hconfigured
  · trivial
  · rw [listRailwayVariables_eq]
    refine Prog.always_ask_bind .listVariables fun listed existingVars _ => ?_
    have hunconfigured : ReportedUnconfigured (setupClientOf provision)
        (past ++ [⟨.fetch (getRequest (setupClientOf provision) "/setup/api/status"), reply⟩]) :=
      ⟨reply, status, by simp, hstatus, Bool.eq_false_iff.mpr hconfigured⟩
    have hprobed : Untouched managementKey provision
        [⟨.fetch (getRequest (setupClientOf provision) "/setup/api/status"), reply⟩] := by
      intro e he
      rw [List.mem_singleton.mp he]
      exact ⟨not_isMint_get rfl, not_isSetup_get rfl⟩
    exact applyAttachments_always (hunconfigured.append _)
      ((huntouched.append hprobed).append .listed)

theorem patchAllowedOrigins_always :
    (patchAllowedOrigins rt provision.baseUrl provision.auth provision.domain).Always
      (OnboardCall rt managementKey provision) past := by
  refine Prog.always_ask_bind .readConfig fun reply getResult hread => ?_
  split_ifs with hok
  · trivial
  · apply Prog.always_ofExcept_bind
    rintro (_ | _ | config) hplan
    · trivial
    · trivial
    · have hmem : (⟨.getConfigRaw provision.baseUrl provision.auth,
          .ok ⟨true, getResult.content⟩⟩ : Event Platform) ∈
          past ++ [⟨.getConfigRaw provision.baseUrl provision.auth, reply⟩] := by
        have htrue : getResult = ⟨true, getResult.content⟩ := by
          cases getResult with
          | mk ok content => simpa using hok
        rw [settled_eq_ok.mp hread, ← htrue]
        simp
      refine Prog.always_ask_bind (.writeConfig _ config hmem hplan) fun _ posted _ => ?_
      split
      · trivial
      · exact Prog.always_ask_bind .readConfig fun _ _ _ => Prog.always_ofExcept

/-- A request of one's own is the only one. -/
theorem ownRequest_eq_some {requestIds : List String} {requestId : String}
    (h : ownRequest requestIds = .ok (some requestId)) : requestIds = [requestId] := by
  unfold ownRequest at h
  split at h
  · cases h
  · split at h
    · cases h
    · cases h
      rfl
  · cases h

theorem approveOwnDevicePairing_always :
    (approveOwnDevicePairing provision.baseUrl provision.auth).Always
      (OnboardCall rt managementKey provision) past := by
  refine Prog.always_ask_bind .pending fun reply pending hpending => ?_
  split_ifs with hok
  · trivial
  · apply Prog.always_ofExcept_bind
    rintro (_ | requestId) hown
    · trivial
    · have hmem : (⟨.getPendingDevices provision.baseUrl provision.auth,
          .ok ⟨true, [requestId]⟩⟩ : Event Platform) ∈
          past ++ [⟨.getPendingDevices provision.baseUrl provision.auth, reply⟩] := by
        have htrue : pending = ⟨true, [requestId]⟩ := by
          rw [← ownRequest_eq_some hown]
          cases pending with
          | mk ok requestIds => simpa using hok
        rw [settled_eq_ok.mp hpending, htrue]
        simp
      refine Prog.always_ask_bind (.approve requestId hmem) fun _ approved _ => ?_
      split
      · trivial
      · trivial

end Parts

/-! ### The whole cycle -/

section Cycle

variable {rt : Runtime} {fuel : ℕ} {managementKey : String} {provision : ProvisionClientResult}
  {profile : Json}

/-- So is the whole onboarding. -/
theorem onboard_always [Zod] : (onboard rt fuel profile managementKey provision).Always
    (OnboardCall rt managementKey provision) [] := by
  apply dryRunApplyProfile_always.bind
  intro dryRun t hdry
  apply (applyProfile_always (dryRunApplyProfile_untouched hdry)).bind
  intro apply t' _
  apply patchAllowedOrigins_always.bind
  intro allowedOrigins t'' _
  apply approveOwnDevicePairing_always.bind
  intro deviceApproval t''' _
  trivial

/-- **A bootstrap acts in order.**  At every moment of every run, whatever it is
answered, it is still provisioning, or the provisioning has returned and each call since
then is about the provisioned instance or about OpenRouter and has in its past, since the
provisioning, what `OnboardCall` asks for. -/
theorem bootstrapOnboardingCycle_in_order [Zod] {options : BootstrapOnboardingCycleOptions}
    {t : Trace} {q : Tool BootstrapOnboardingCycleResult}
    (h : (bootstrapOnboardingCycle rt fuel options managementKey).After t q) :
    (∃ q', (provisionClientInstance rt fuel options.provision).After t q') ∨
      ∃ provision t₁ t₂, t = t₁ ++ t₂ ∧
        (provisionClientInstance rt fuel options.provision).Exec t₁ (.returned provision) ∧
        ∀ before e after, t₂ = before ++ e :: after →
          OnboardCall rt managementKey provision before e.call := by
  rcases Prog.after_bind h with hprovisioning | ⟨provision, t₁, t₂, rfl, hprovision, honboard⟩
  · exact .inl hprovisioning
  · exact .inr ⟨provision, t₁, t₂, rfl, hprovision, onboard_always.after honboard⟩

/-- The cycle of a configured client, in which nothing is minted or set up. -/
theorem bareCycle_in_order :
    (∃ q', (provisionClientInstance rerunRuntime 1 (cycleOptions bareProfile).provision).After
        (cycleRun bareProfile).1 q') ∨
      ∃ provision t₁ t₂, (cycleRun bareProfile).1 = t₁ ++ t₂ ∧
        (provisionClientInstance rerunRuntime 1 (cycleOptions bareProfile).provision).Exec t₁
          (.returned provision) ∧
        ∀ before e after, t₂ = before ++ e :: after →
          OnboardCall rerunRuntime "sk-or-management" provision before e.call := by
  obtain ⟨q, hq⟩ := Prog.Exec.after (cycleRun_exec bareProfile)
  exact bootstrapOnboardingCycle_in_order hq

end Cycle

end Setup
