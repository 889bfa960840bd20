/-
ControlPlane/Setup/Onboarding.lean

Bringing up a client once (`bootstrapOnboardingCycle`): provision an instance, dry
run the profile against its variables, apply the profile, and allow the origin and
approve the pairing again now that a baseline configuration is there.

`bootstrapOnboardingCycle_account` is the account of a run that returns: what it
reports is what it has done.  `bootstrapOnboardingCycle_rejects_cleanly` is what the dry
run in front of the application is good for.  Applied alone, a profile whose channels do
not fit may be rejected after a key was minted for it; behind the dry run the only
rejection that can follow a mint is a channel's secret that is not there.
-/
import ControlPlane.Setup.DryRun
import ControlPlane.Railway.Account
import ControlPlane.Railway.Failures

namespace Setup

open Js Railway Interaction

/-! ### The cycle -/

/-- The client that is brought up. -/
structure BootstrapOnboardingCycleOptions where
  clientName : String
  profile : Json
  workspace : Option String
  projectId : Option String

/-- What each part of a cycle has returned. -/
structure BootstrapOnboardingCycleResult where
  provision : ProvisionClientResult
  dryRun : DryRunResult
  apply : ApplyResult
  allowedOrigins : PatchAllowedOriginsResult
  deviceApproval : ApproveOwnDeviceResult

/-- The options provisioning is called with; all others are left to their defaults. -/
def BootstrapOnboardingCycleOptions.provision (options : BootstrapOnboardingCycleOptions) :
    ProvisionClientOptions where
  clientName := options.clientName
  projectId := options.projectId
  workspace := options.workspace
  targetPort := none
  templateRef := none
  setupUsername := none
  setupPassword := none
  gatewayToken := none
  pollSeconds := none
  timeoutMinutes := none
  forceNew := none
  envLocalPath := none
  handoffPath := none
  writeLocalFiles := none

/-- The instance a provisioning run has returned, for the setup API. -/
def setupClientOf (provision : ProvisionClientResult) : SetupApiClient :=
  createSetupApiClient provision.baseUrl
    (some ⟨provision.auth.username, provision.auth.password.display⟩)

/-- The provisioned instance, to apply a profile to. -/
def applyOptionsOf (provision : ProvisionClientResult) : ApplyOptions where
  service := provision.serviceName
  instanceBaseUrl := provision.baseUrl
  healthcheckPollSeconds := none
  healthcheckTimeoutSeconds := none

/-- What follows the provisioning. -/
def onboard [Zod] (rt : Runtime) (fuel : ℕ) (profile : Json) (managementKey : String)
    (provision : ProvisionClientResult) : Tool BootstrapOnboardingCycleResult := do
  let dryRun ← dryRunApplyProfile rt profile ⟨provision.serviceName⟩
  let apply ← applyProfile rt fuel profile (applyOptionsOf provision)
    ⟨setupClientOf provision, managementKey⟩
  -- the first attempts were made by the provisioning, before there was a baseline
  let allowedOrigins ←
    patchAllowedOrigins rt provision.baseUrl provision.auth provision.domain
  let deviceApproval ← approveOwnDevicePairing provision.baseUrl provision.auth
  pure ⟨provision, dryRun, apply, allowedOrigins, deviceApproval⟩

/-- Provision an instance and apply the profile to it. -/
def bootstrapOnboardingCycle [Zod] (rt : Runtime) (fuel : ℕ)
    (options : BootstrapOnboardingCycleOptions) (managementKey : String) :
    Tool BootstrapOnboardingCycleResult := do
  let provision ← provisionClientInstance rt fuel options.provision
  onboard rt fuel options.profile managementKey provision

/-! ### What an application does -/

/-- The calls of a trace that are not reads, with their replies. -/
abbrev changes (t : Trace) : Trace := Prog.marked Call.mutates t

/-- A tool that returns has made these changes. -/
abbrev LeavesChanges {α : Type} (p : Tool α) (R : α → Trace → Prop) : Prop :=
  p.LeavesEvents Call.mutates R

/-- The setup request of an application. -/
def setupCall (client : SetupApiClient) (payload : Json) : Call :=
  .fetch (postRequest client "/setup/api/run" payload)

/-- A key is minted under a name and with limits, and written to the variable of that
name: the key written is the one the mint was answered with. -/
inductive MintAndWrite (secretName : String) (keyProvisioning : KeyProvisioning)
    (skipDeploys : Bool) (service managementKey : String) (key : MintedOpenRouterKey) :
    Trace → Prop
  | intro (reply : Except String Response) (output : String) (hkey : mintedKey reply = .ok key) :
      MintAndWrite secretName keyProvisioning skipDeploys service managementKey key
        [⟨.fetch (mintRequest ⟨secretName, keyProvisioning.spendLimitUsd,
            keyProvisioning.limitReset⟩ managementKey), reply⟩,
          ⟨.run (variableSetArgs secretName service skipDeploys) (some key.key), .ok output⟩]

/-- The key of a profile: the only provider's, under its first secret's name and with the
limits the provider asks for. -/
def ProviderKey (profile : ClientProfile) (service managementKey : String)
    (key : MintedOpenRouterKey) (es : Trace) : Prop :=
  ∃ provider secretName keyProvisioning, profile.modelProviders = [provider] ∧
    provider.requiredSecretNames.head? = some secretName ∧
    provider.keyProvisioning = some keyProvisioning ∧
    MintAndWrite secretName keyProvisioning (!provider.customProviderApiKeyEnv.isSome) service
      managementKey key es

/-- What an application that returns has done: nothing to a configured instance, else the
setup request, after the mint and the write of the provider's key if it returns a hash,
which is then that key's. -/
inductive ApplyAccount (profile : ClientProfile) (options : ApplyOptions)
    (dependencies : ApplyProfileDependencies) : ApplyResult → Trace → Prop
  | alreadyConfigured : ApplyAccount profile options dependencies ⟨.alreadyConfigured, none⟩ []
  | applied (payload : Json) (reply : Except String Response) :
      ApplyAccount profile options dependencies ⟨.applied, none⟩
        [⟨setupCall dependencies.setupApiClient payload, reply⟩]
  | minted (payload : Json) (reply : Except String Response) (key : MintedOpenRouterKey)
      (written : Trace) (hkey : ProviderKey profile options.service
        dependencies.openRouterManagementKey key written) :
      ApplyAccount profile options dependencies ⟨.applied, some key.hash⟩
        (written ++ [⟨setupCall dependencies.setupApiClient payload, reply⟩])

section Changes

variable {α : Type} {p : Tool α} {t : Trace} {o : Outcome Failure α} {e : Event Platform}

/-- What only reads changes nothing. -/
theorem changes_eq_nil (hp : ReadOnly p) (h : p.Exec t o) : changes t = [] :=
  Prog.marked_eq_nil (hp.leavesNothing.exec h)

theorem changes_cons_of_isRead (h : e.call.isRead = true) : changes (e :: t) = changes t := by
  simp [Prog.marked, Call.mutates, h]

end Changes

section Apply

variable {rt : Runtime} {fuel : ℕ} {candidateProfile : Json} {options : ApplyOptions}
  {dependencies : ApplyProfileDependencies} {service : String}

theorem listRailwayVariables_readOnly : ReadOnly (listRailwayVariables rt service) := by
  rw [listRailwayVariables_eq]
  exact ask_readOnly rfl

theorem getStatus_readOnly {client : SetupApiClient} : ReadOnly client.getStatus :=
  ask_readOnly rfl

theorem settleRedeploy_readOnly {redeployTriggered : Bool} :
    ReadOnly (settleRedeploy fuel options redeployTriggered) :=
  settleRedeploy_only rfl rfl fun _ => rfl

theorem dryRunApplyProfile_readOnly [Zod] {dryRunOptions : DryRunOptions} :
    ReadOnly (dryRunApplyProfile rt candidateProfile dryRunOptions) := by
  apply Prog.only_ofExcept.bind
  intro profile
  apply listRailwayVariables_readOnly.bind
  intro vars
  apply Prog.only_ofExcept.bind
  intro requiredSecrets
  apply Prog.only_ofExcept.bind
  intro payloadPreview
  exact Prog.only_pure

/-- Whatever the secret was, the setup request follows. -/
theorem applyChannels_leaves {profile : ClientProfile} {existingVars : Json}
    {provider : ProviderResolution} :
    LeavesChanges (applyChannels fuel profile existingVars options dependencies.setupApiClient
      provider) fun r es => r = ⟨.applied, provider.mintedKeyHash⟩ ∧
        ∃ payload, ∃ reply : Except String Response,
          es = [⟨setupCall dependencies.setupApiClient payload, reply⟩] := by
  apply Prog.leavesEvents_ofExcept_bind
  intro fields _
  refine settleRedeploy_readOnly.leavesNothing.leavesEvents_bind fun _ => ?_
  refine Prog.leavesEvents_ask_bind rfl fun reply _ _ => ?_
  refine getStatus_readOnly.leavesNothing.leavesEvents_bind fun status => ?_
  split
  · exact Prog.leavesEvents_pure ⟨rfl, _, reply, rfl⟩
  · exact Prog.leavesEvents_throw

/-- The key that is minted is the one that is written, and its hash is returned. -/
theorem mintSecret_leaves {secretName managementKey : String} {keyProvisioning : KeyProvisioning}
    {requiresRedeploy : Bool} :
    LeavesChanges (mintSecret secretName keyProvisioning requiresRedeploy service managementKey)
      fun resolution es => ∃ key, resolution.mintedKeyHash = some key.hash ∧
        MintAndWrite secretName keyProvisioning (!requiresRedeploy) service managementKey key
          es := by
  refine Prog.leavesEvents_ask_bind rfl fun reply key hkey => ?_
  rw [writeRailwayVariable_eq]
  refine Prog.leavesEvents_ask_bind rfl fun written _ hwritten => ?_
  cases written with
  | error message => cases hwritten
  | ok output => exact Prog.leavesEvents_pure ⟨key, rfl, .intro reply output hkey⟩

/-- What is to be minted is the provider's, as the provider asks for it. -/
theorem providerSecret_toMint {provider : ModelProviderAttachment} {existingVars : Json}
    {secretName : String} {keyProvisioning : KeyProvisioning}
    (h : providerSecret provider existingVars service = .ok (.toMint secretName keyProvisioning)) :
    provider.requiredSecretNames.head? = some secretName ∧
      provider.keyProvisioning = some keyProvisioning := by
  unfold providerSecret at h
  split at h
  · cases h
  · next name hname =>
      cases hread : readMember existingVars name with
      | error e =>
          rw [hread] at h
          cases h
      | ok value =>
          rw [hread] at h
          change (if _ then _ else _) = _ at h
          split at h
          · cases h
          · split at h
            · cases h
            · next asked hasked =>
                cases h
                exact ⟨hname, hasked⟩

/-- What applying the attachments changes, when it returns. -/
theorem applyAttachments_leaves {profile : ClientProfile} {existingVars : Json} :
    LeavesChanges (applyAttachments fuel profile existingVars options dependencies)
      (ApplyAccount profile options dependencies) := by
  apply Prog.leavesEvents_ofExcept_bind
  rintro (_ | provider) hsole
  · refine applyChannels_leaves.mono ?_
    rintro r es ⟨rfl, payload, reply, rfl⟩
    exact .applied payload reply
  · simp only [resolveProvider, resolveProviderSecret, bind_assoc]
    apply Prog.leavesEvents_ofExcept_bind
    rintro (value | ⟨secretName, keyProvisioning⟩) hsecret
    · refine applyChannels_leaves.mono ?_
      rintro r es ⟨rfl, payload, reply, rfl⟩
      exact .applied payload reply
    · obtain ⟨hname, hprovisioning⟩ := providerSecret_toMint hsecret
      refine mintSecret_leaves.bind ?_
      rintro resolution written ⟨key, hhash, hminted⟩
      refine applyChannels_leaves.mono ?_
      rintro r es ⟨rfl, payload, reply, rfl⟩
      rw [hhash]
      exact .minted payload reply key written
        ⟨provider, secretName, keyProvisioning, soleProvider_some hsole, hname, hprovisioning,
          hminted⟩

/-- The same of the profile. -/
theorem applyProfile_leaves [Zod] :
    LeavesChanges (applyProfile rt fuel candidateProfile options dependencies) fun r es =>
      ∃ profile, parseClientProfile candidateProfile = .ok profile ∧
        ApplyAccount profile options dependencies r es := by
  apply Prog.leavesEvents_ofExcept_bind
  intro profile hprofile
  refine getStatus_readOnly.leavesNothing.leavesEvents_bind fun status => ?_
  split
  · exact Prog.leavesEvents_pure ⟨profile, hprofile, .alreadyConfigured⟩
  · refine listRailwayVariables_readOnly.leavesNothing.leavesEvents_bind fun existingVars => ?_
    exact applyAttachments_leaves.mono fun r es haccount => ⟨profile, hprofile, haccount⟩

end Apply

/-! ### The account of a cycle -/

/-- What a cycle that returns has done after the provisioning. -/
def OnboardAccount [Zod] (candidateProfile : Json) (managementKey : String)
    (r : BootstrapOnboardingCycleResult) (es : Trace) : Prop :=
  ∃ profile applied rest content, parseClientProfile candidateProfile = .ok profile ∧
    ApplyAccount profile (applyOptionsOf r.provision) ⟨setupClientOf r.provision, managementKey⟩
      r.apply applied ∧
    es = applied ++ rest ∧
    rest.map Event.call =
      originCalls r.provision.baseUrl r.provision.auth content r.allowedOrigins ++
        pairingCalls r.provision.baseUrl r.provision.auth r.deviceApproval

section Cycle

variable {rt : Runtime} {fuel : ℕ} {options : BootstrapOnboardingCycleOptions}
  {managementKey : String} {profile : Json} {provision : ProvisionClientResult} {t : Trace}

/-- The same of the onboarding. -/
theorem onboard_leaves [Zod] :
    LeavesChanges (onboard rt fuel profile managementKey provision) fun r es =>
      r.provision = provision ∧ OnboardAccount profile managementKey r es := by
  refine dryRunApplyProfile_readOnly.leavesNothing.leavesEvents_bind fun dryRun => ?_
  refine applyProfile_leaves.bind ?_
  rintro apply applied ⟨parsed, hparsed, happlied⟩
  refine Prog.LeavesEvents.bind (Prog.leaves_iff_events.mp patchAllowedOrigins_leaves) ?_
  rintro allowedOrigins patched ⟨content, hpatched⟩
  refine Prog.LeavesEvents.bind (Prog.leaves_iff_events.mp approveOwnDevicePairing_leaves) ?_
  intro deviceApproval approved happroved
  refine Prog.leavesEvents_pure
    ⟨rfl, parsed, applied, patched ++ approved, content, hparsed, happlied, by simp, ?_⟩
  rw [List.map_append, hpatched, happroved]

/-- **The account of a bootstrap.**  Whatever a run is answered, when it returns its
changes are those of the provisioning, as its result accounts for them, and then those
the rest of the result reports: nothing for a configured instance, else the setup request
and before it the mint and the write of the provider's key, if a hash is returned, which
is that of the key the mint was answered with; the origin that was allowed; the pairing
that was approved. -/
theorem bootstrapOnboardingCycle_account [Zod] {r : BootstrapOnboardingCycleResult}
    (h : (bootstrapOnboardingCycle rt fuel options managementKey).Exec t (.returned r)) :
    ∃ provisioned onboarded, changes t = provisioned ++ onboarded ∧
      ProvisionAccount options.provision r.provision (provisioned.map Event.call) ∧
      OnboardAccount options.profile managementKey r onboarded := by
  have hleaves : LeavesChanges (bootstrapOnboardingCycle rt fuel options managementKey)
      fun r es => ∃ provisioned onboarded, es = provisioned ++ onboarded ∧
        ProvisionAccount options.provision r.provision (provisioned.map Event.call) ∧
        OnboardAccount options.profile managementKey r onboarded := by
    refine Prog.LeavesEvents.bind (Prog.leaves_iff_events.mp provisionClientInstance_leaves)
      fun provision provisioned hprovisioned => ?_
    refine onboard_leaves.mono ?_
    rintro r onboarded ⟨rfl, honboarded⟩
    exact ⟨provisioned, onboarded, rfl, hprovisioned, honboarded⟩
  exact hleaves t r h

end Cycle

/-! ### Rejections behind the dry run -/

section Rejections

variable {rt : Runtime} {fuel : ℕ} {candidateProfile existingVars : Json} {options : ApplyOptions}
  {dependencies : ApplyProfileDependencies} {profile : ClientProfile} {service : String}
  {t : Trace} {e : Failure}

/-- A failure to provision is no rejection of the profile. -/
theorem acceptsProfile_of_provisionFailure (h : IsProvisionFailure e) : AcceptsProfile e := by
  rintro (hkind | hkind | hkind)
  · simp [IsProvisionFailure, provisionFailureKinds, hkind] at h
  · simp [IsProvisionFailure, provisionFailureKinds, hkind] at h
  · simp [IsProvisionFailure, provisionFailureKinds, hkind] at h

/-- A dry run returns for profiles whose channels fit the payload only. -/
theorem dryRunApplyProfile_maps [Zod] {dryRunOptions : DryRunOptions} {result : DryRunResult}
    (h : (dryRunApplyProfile rt candidateProfile dryRunOptions).Exec t (.returned result)) :
    ∃ profile mappings, parseClientProfile candidateProfile = .ok profile ∧
      mapChannelsToPayloadFields profile.channels = .ok mappings := by
  rcases Prog.exec_ofExcept_bind.mp h with ⟨profile, hprofile, h⟩ | ⟨e, -, -, ho⟩
  · obtain ⟨vars, _, t₁, -, -, h⟩ := Prog.exec_bind_returned.mp h
    obtain ⟨requiredSecrets, _, t₂, -, -, h⟩ := Prog.exec_bind_returned.mp h
    rcases Prog.exec_ofExcept_bind.mp h with ⟨preview, hpreview, -⟩ | ⟨e, -, -, ho⟩
    · refine ⟨profile, ?_⟩
      unfold buildRedactedPayloadPreview at hpreview
      cases hmappings : mapChannelsToPayloadFields profile.channels with
      | ok mappings => exact ⟨mappings, hprofile, rfl⟩
      | error e =>
          rw [hmappings] at hpreview
          cases hpreview
    · cases ho
  · cases ho

/-- A secret that has to be there is missing, or the variables are no record. -/
theorem requiredSecret_fails {name : String}
    (h : requiredSecret existingVars service name = .error e) :
    existingVars.get name = .undefined ∧ e = missingSecret name service ∨ e.kind = .platform := by
  cases hread : readMember existingVars name with
  | error e' =>
      rw [requiredSecret, hread] at h
      cases h
      exact .inr (plain_readMember existingVars name e hread)
  | ok value =>
      rw [requiredSecret, hread] at h
      change (if value.isUndefined = true then Except.error _ else Except.ok _) = _ at h
      split at h
      · next hundefined =>
          cases h
          obtain ⟨-, rfl⟩ := readMember_ok_iff.mp hread
          exact .inl ⟨isUndefined_iff.mp hundefined, rfl⟩
      · cases h

/-- Filling the fields fails at a secret of theirs that is not there, or at variables that
are no record. -/
theorem fillFields_fails {mappings : List ChannelFieldMapping}
    (h : fillFields existingVars service mappings = .error e) :
    (∃ mapping ∈ mappings, existingVars.get mapping.secretName = .undefined ∧
      e = missingSecret mapping.secretName service) ∨ e.kind = .platform := by
  induction mappings with
  | nil => cases h
  | cons mapping mappings ih =>
      rw [fillFields] at h
      cases hvalue : requiredSecret existingVars service mapping.secretName with
      | error e' =>
          rw [hvalue] at h
          cases h
          exact (requiredSecret_fails hvalue).imp_left fun hmissing => ⟨mapping, .head _, hmissing⟩
      | ok value =>
          cases hothers : fillFields existingVars service mappings with
          | error e' =>
              rw [hvalue, hothers] at h
              cases h
              refine (ih hothers).imp_left ?_
              rintro ⟨other, hmem, hmissing⟩
              exact ⟨other, .tail _ hmem, hmissing⟩
          | ok others =>
              rw [hvalue, hothers] at h
              cases h

/-- The variables of the service were listed, and these they were. -/
def Listed (rt : Runtime) (service : String) (existingVars : Json) (t : Trace) : Prop :=
  ∃ reply, ⟨.run (variableListArgs service) none, reply⟩ ∈ t ∧ printed rt reply = .ok existingVars

theorem Listed.append (h : Listed rt service existingVars t) (t₁ : Trace) :
    Listed rt service existingVars (t₁ ++ t) := by
  obtain ⟨reply, hmem, hprinted⟩ := h
  exact ⟨reply, List.mem_append_right t₁ hmem, hprinted⟩

/-- Past the provider only the channels can reject the profile, and before anything is
called. -/
theorem applyChannels_fails {resolution : ProviderResolution}
    (h : (applyChannels fuel profile existingVars options dependencies.setupApiClient
      resolution).Exec t (.threw e)) (he : RejectsProfile e) :
    t = [] ∧ channelFields existingVars options.service profile.channels = .error e := by
  rcases Prog.exec_ofExcept_bind.mp h with ⟨fields, -, hrest⟩ | ⟨e', hfields, rfl, ho⟩
  · have hlater : AcceptsProfile e :=
      (Prog.Throws.bind settleRedeploy_throws fun _ => runSetup_throws).exec hrest
    exact absurd he hlater
  · cases ho
    exact ⟨rfl, hfields⟩

/-- The provider's key was minted and written, and then the channels were rejected. -/
def MintedFirst (profile : ClientProfile) (existingVars : Json) (service managementKey : String)
    (e : Failure) (es : Trace) : Prop :=
  channelFields existingVars service profile.channels = .error e ∧
    ∃ key, ProviderKey profile service managementKey key es

/-- A rejection comes before any change, or after a mint. -/
theorem applyAttachments_fails
    (h : (applyAttachments fuel profile existingVars options dependencies).Exec t (.threw e))
    (he : RejectsProfile e) :
    changes t = [] ∨ MintedFirst profile existingVars options.service
      dependencies.openRouterManagementKey e (changes t) := by
  rcases Prog.exec_ofExcept_bind.mp h with ⟨sole, hsole, hrest⟩ | ⟨e', -, rfl, -⟩
  · cases sole with
    | none =>
        obtain ⟨rfl, -⟩ := applyChannels_fails hrest he
        exact .inl rfl
    | some provider =>
        simp only [resolveProvider, resolveProviderSecret, bind_assoc] at hrest
        rcases Prog.exec_ofExcept_bind.mp hrest with ⟨secret, hsecret, hrest⟩ | ⟨e', -, rfl, -⟩
        · cases secret with
          | stored value =>
              obtain ⟨rfl, -⟩ := applyChannels_fails hrest he
              exact .inl rfl
          | toMint secretName keyProvisioning =>
              obtain ⟨hname, hprovisioning⟩ := providerSecret_toMint hsecret
              rcases Prog.exec_bind.mp hrest with ⟨resolution, t₁, t₂, rfl, hminted, hchannels⟩ |
                ⟨e', hthrew, ho⟩ | ⟨-, ho⟩
              · obtain ⟨rfl, hfields⟩ := applyChannels_fails hchannels he
                obtain ⟨key, -, hwritten⟩ := mintSecret_leaves t₁ resolution hminted
                rw [List.append_nil]
                exact .inr ⟨hfields, key, provider, secretName, keyProvisioning,
                  soleProvider_some hsole, hname, hprovisioning, hwritten⟩
              · cases ho
                exact absurd he (mintSecret_throws.exec hthrew)
              · cases ho
        · exact .inl rfl
  · exact .inl rfl

/-- A rejection by `applyProfile` leaves nothing, or a minted and written key, and then it
is the channels that were rejected, on the variables that were listed. -/
theorem applyProfile_fails [Zod]
    (h : (applyProfile rt fuel candidateProfile options dependencies).Exec t (.threw e))
    (he : RejectsProfile e) :
    changes t = [] ∨ ∃ profile existingVars, parseClientProfile candidateProfile = .ok profile ∧
      Listed rt options.service existingVars t ∧
      MintedFirst profile existingVars options.service dependencies.openRouterManagementKey e
        (changes t) := by
  rcases Prog.exec_ofExcept_bind.mp h with ⟨profile, hprofile, hstatus⟩ | ⟨e', -, rfl, -⟩
  · rcases Prog.exec_ask_bind.mp hstatus with ⟨reply, t', status, rfl, -, hrest⟩ |
      ⟨reply, e', rfl, -, -⟩
    · rw [changes_cons_of_isRead rfl]
      split_ifs at hrest
      · exact .inl (by rw [hrest.1]; rfl)
      · rw [listRailwayVariables_eq] at hrest
        rcases Prog.exec_ask_bind.mp hrest with ⟨listed, t'', existingVars, rfl, hlisted, hattach⟩ |
          ⟨listed, e', rfl, -, -⟩
        · rw [changes_cons_of_isRead rfl]
          refine (applyAttachments_fails hattach he).imp_right fun hminted => ?_
          exact ⟨profile, existingVars, hprofile, ⟨listed, .tail _ (.head _), hlisted⟩, hminted⟩
        · exact .inl rfl
    · rw [changes_cons_of_isRead rfl]
      exact .inl rfl
  · exact .inl rfl

/-- The error is a channel's secret, which is not among the variables. -/
def MissesChannelSecret (profile : ClientProfile) (existingVars : Json) (service : String)
    (e : Failure) : Prop :=
  ∃ channel ∈ profile.channels, ∃ name ∈ channel.requiredSecretNames,
    existingVars.get name = .undefined ∧ e = missingSecret name service

/-- After a dry run the channels can only be rejected for a secret of theirs. -/
theorem channelFields_missing {mappings : List ChannelFieldMapping}
    (hmappings : mapChannelsToPayloadFields profile.channels = .ok mappings)
    (h : channelFields existingVars service profile.channels = .error e) (he : RejectsProfile e) :
    MissesChannelSecret profile existingVars service e := by
  rw [channelFields, hmappings] at h
  rcases fillFields_fails h with ⟨mapping, hmem, hundefined, rfl⟩ | hkind
  · have hname : mapping.secretName ∈ profile.channels.flatMap
        ChannelAttachment.requiredSecretNames := by
      rw [← mapChannelsFrom_names hmappings]
      exact List.mem_map_of_mem hmem
    obtain ⟨channel, hchannel, hname⟩ := List.mem_flatMap.mp hname
    exact ⟨channel, hchannel, _, hname, hundefined, rfl⟩
  · simp [RejectsProfile, hkind] at he

/-- A run in which a channel's secret was found missing after the provider's key had been
minted and written, and nothing else changed. -/
def MintedThenMissed [Zod] (rt : Runtime) (candidateProfile : Json) (service managementKey : String)
    (e : Failure) (t : Trace) : Prop :=
  ∃ profile existingVars, parseClientProfile candidateProfile = .ok profile ∧
    Listed rt service existingVars t ∧ MissesChannelSecret profile existingVars service e ∧
    ∃ key, ProviderKey profile service managementKey key (changes t)

/-- Everything after the provisioning, for a run that rejects the profile. -/
theorem onboard_rejects [Zod] {managementKey : String} {provision : ProvisionClientResult}
    (h : (onboard rt fuel candidateProfile managementKey provision).Exec t (.threw e))
    (he : RejectsProfile e) :
    changes t = [] ∨
      MintedThenMissed rt candidateProfile provision.serviceName managementKey e t := by
  rcases Prog.exec_bind.mp h with ⟨dryRun, t₁, t₂, rfl, hdry, hrest⟩ | ⟨e', hdry, -⟩ | ⟨-, ho⟩
  · have hchanges : changes (t₁ ++ t₂) = changes t₂ := by
      have hdryRun : changes t₁ = [] := changes_eq_nil dryRunApplyProfile_readOnly hdry
      calc changes (t₁ ++ t₂) = changes t₁ ++ changes t₂ := Prog.marked_append
        _ = changes t₂ := by rw [hdryRun, List.nil_append]
    rw [MintedThenMissed, hchanges]
    rcases Prog.exec_bind.mp hrest with ⟨apply, t₃, t₄, -, -, hlater⟩ | ⟨e', happly, ho⟩ | ⟨-, ho⟩
    · -- the instance is configured by now, and no error of what is left is about the profile
      refine absurd he (acceptsProfile_of_provisionFailure (Prog.Throws.exec ?_ hlater))
      apply patchAllowedOrigins_fails.bind
      intro allowedOrigins
      apply approveOwnDevicePairing_fails.bind
      intro deviceApproval
      trivial
    · cases ho
      refine (applyProfile_fails happly he).imp_right ?_
      rintro ⟨profile, vars, hprofile, hlisted, hfields, key, hkey⟩
      obtain ⟨profile', mappings, hprofile', hmappings⟩ := dryRunApplyProfile_maps hdry
      obtain rfl : profile = profile' := Except.ok.inj (hprofile.symm.trans hprofile')
      exact ⟨profile, vars, hprofile, hlisted.append t₁, channelFields_missing hmappings hfields he,
        key, hkey⟩
    · cases ho
  · exact .inl (changes_eq_nil dryRunApplyProfile_readOnly hdry)
  · cases ho

/-- **Behind the dry run a rejection is clean, but for a missing secret.**  Whatever a run
of the cycle is answered, when it throws because of the profile the provisioning has
returned and nothing was changed after it; or the error is a channel's secret that is not
among the variables, and exactly the provider's key was minted and written. -/
theorem bootstrapOnboardingCycle_rejects_cleanly [Zod] {managementKey : String}
    {options : BootstrapOnboardingCycleOptions}
    (h : (bootstrapOnboardingCycle rt fuel options managementKey).Exec t (.threw e))
    (he : RejectsProfile e) :
    ∃ provision t₁ t₂, t = t₁ ++ t₂ ∧
      (provisionClientInstance rt fuel options.provision).Exec t₁ (.returned provision) ∧
      (changes t₂ = [] ∨
        MintedThenMissed rt options.profile provision.serviceName managementKey e t₂) := by
  rcases Prog.exec_bind.mp h with ⟨provision, t₁, t₂, rfl, hprovision, hrest⟩ |
    ⟨e', hprovision, ho⟩ | ⟨-, ho⟩
  · exact ⟨provision, t₁, t₂, rfl, hprovision, onboard_rejects hrest he⟩
  · cases ho
    exact absurd he (acceptsProfile_of_provisionFailure
      (provisionClientInstance_fails.exec hprovision))
  · cases ho

end Rejections

/-! ### Two cycles on a client that is there -/

/-- The local files can be written, and the instance says that it is configured. -/
def onboardEnvironment (s : RerunPlatform) : (c : Call) → c.Reply × RerunPlatform
  | .readTemplateLock => (.ok "v1", s)
  | .makeDirectory _ => (.ok (), s)
  | .writeText _ _ => (.ok (), s)
  | .fetch _ => (.ok ⟨200, .ok (.obj [("configured", .bool true)])⟩, s)
  | c => rerunInstance s c

/-- A cycle of a client whose project is there. -/
def cycleOptions (profile : Json) : BootstrapOnboardingCycleOptions where
  clientName := "client"
  profile := profile
  workspace := none
  projectId := some "p1"

/-- The cycle of a client that is configured. -/
def cycleRun (profile : Json) : Trace × Outcome Failure BootstrapOnboardingCycleResult :=
  (bootstrapOnboardingCycle rerunRuntime 1 (cycleOptions profile) "sk-or-management").play
    onboardEnvironment ⟨true, true⟩

theorem cycleRun_exec (profile : Json) :
    (bootstrapOnboardingCycle rerunRuntime 1 (cycleOptions profile) "sk-or-management").Exec
      (cycleRun profile).1 (cycleRun profile).2 :=
  Prog.play_exec (I := Platform) onboardEnvironment
    (bootstrapOnboardingCycle rerunRuntime 1 (cycleOptions profile) "sk-or-management") ⟨true, true⟩

/-- A profile without attachments. -/
def bareProfile : Json := .obj [("attachments", .obj [])]

/-- An instance that is configured once the setup request was sent. -/
def freshInstance (s : RerunPlatform × Bool) : (c : Call) → c.Reply × (RerunPlatform × Bool)
  | .fetch request =>
    if request.method = "POST" then
      if request.url = OPENROUTER_KEYS_URL then (.ok mintResponse, s)
      else (.ok unconfiguredResponse, (s.1, true))
    else (.ok ⟨200, .ok (.obj [("configured", .bool s.2)])⟩, s)
  | c => ((onboardEnvironment s.1 c).1, ((onboardEnvironment s.1 c).2, s.2))

/-- The cycle of a client that is there but not configured. -/
def freshRun : Trace × Outcome Failure BootstrapOnboardingCycleResult :=
  (bootstrapOnboardingCycle rerunRuntime 1 (cycleOptions (mintingProfile 1)) "sk-or-management").play
    freshInstance (⟨true, true⟩, false)

theorem freshRun_exec :
    (bootstrapOnboardingCycle rerunRuntime 1 (cycleOptions (mintingProfile 1))
      "sk-or-management").Exec freshRun.1 freshRun.2 :=
  Prog.play_exec (I := Platform) freshInstance
    (bootstrapOnboardingCycle rerunRuntime 1 (cycleOptions (mintingProfile 1)) "sk-or-management")
    (⟨true, true⟩, false)

set_option maxRecDepth 8000 in
/-- The cycle returns with the key it has minted and the request it has approved. -/
theorem freshRun_returned : ∃ r, freshRun.2 = .returned r ∧ r.apply = ⟨.applied, some "hash"⟩ ∧
    r.deviceApproval = .approved "req_1" :=
  ⟨_, rfl, rfl, rfl⟩

/-- The cycle of a client that is there but not configured: the key is minted, written and
its hash returned. -/
theorem freshCycle_accounted : ∃ r provisioned onboarded, freshRun.2 = .returned r ∧
    r.apply = ⟨.applied, some "hash"⟩ ∧ r.deviceApproval = .approved "req_1" ∧
      changes freshRun.1 = provisioned ++ onboarded ∧
      ProvisionAccount (cycleOptions (mintingProfile 1)).provision r.provision
        (provisioned.map Event.call) ∧
      OnboardAccount (mintingProfile 1) "sk-or-management" r onboarded := by
  obtain ⟨r, hreturned, happlied, happroved⟩ := freshRun_returned
  obtain ⟨provisioned, onboarded, haccount⟩ :=
    bootstrapOnboardingCycle_account (hreturned ▸ freshRun_exec)
  exact ⟨r, provisioned, onboarded, hreturned, happlied, happroved, haccount⟩

set_option maxRecDepth 8000 in
theorem whatsappCycle_threw : (cycleRun (whatsappProfile [mintedProvider])).2 =
    .threw (unsupportedProfile ("Unsupported channel type 'whatsapp'; " ++
      "/setup/api/run only accepts telegram, discord, and slack.")) := rfl

/-- The profile that is rejected after a mint when it is applied alone. -/
theorem whatsappCycle_rejected : ∃ provision t₁ t₂,
    (cycleRun (whatsappProfile [mintedProvider])).1 = t₁ ++ t₂ ∧
      (provisionClientInstance rerunRuntime 1
        (cycleOptions (whatsappProfile [mintedProvider])).provision).Exec t₁
        (.returned provision) ∧ changes t₂ = [] := by
  obtain ⟨provision, t₁, t₂, ht, hprovision, hclean | ⟨_, _, -, -, ⟨_, -, _, -, -, hmissing⟩, -⟩⟩ :=
    bootstrapOnboardingCycle_rejects_cleanly (whatsappCycle_threw ▸ cycleRun_exec _)
      (.inr (.inl rfl))
  · exact ⟨provision, t₁, t₂, ht, hprovision, hclean⟩
  · cases congrArg Failure.kind hmissing

end Setup
