/-
ControlPlane/Railway/Rollover.lean

Which deployment a fresh provisioning waits for.

After its `redeploy` command the bootstrap path polls without a superseded id, so
the first listing that shows the service in a decisive status ends the poll,
whichever deployment has that status.  `provisionClientInstance_trusts_new_iff`
says what that amounts to: the run goes on, or gives up, because of the new
deployment exactly when no listing shows an older one in a decisive status.

The pieces of `provisionClientInstance` are bounded first: the calls each can make
(`_only`), and that none but the poll throws the terminal-state error (`_throws`).
-/
import ControlPlane.Railway.Provision
import ControlPlane.Railway.LiveUpdate

namespace Railway

open Js Interaction

variable {rt : Runtime} {fuel : ℕ} {t : Trace}

/-! ### What follows the poll -/

/-- The calls made on a service `n` that is there, with the port `T`. -/
def IsFinishCall (n : String) (T : ℕ) : Call → Prop
  | .run args stdin => stdin = none ∧ (args = domainListArgs n ∨ args = domainCreateArgs n T ∨
      ∃ domain, args = domainUpdateArgs domain n T)
  | _ => True

/-- The commands about the domains of `n`. -/
def IsDomainCall (n : String) (T : ℕ) (c : Call) : Prop :=
  ∃ args, c = .run args none ∧ (args = domainListArgs n ∨ args = domainCreateArgs n T ∨
    ∃ domain, args = domainUpdateArgs domain n T)

section Finish

variable {n : String} {T : ℕ}

/-- The domain commands are among the calls at the end of a run. -/
theorem IsDomainCall.isFinishCall {c : Call} (h : IsDomainCall n T c) : IsFinishCall n T c := by
  obtain ⟨args, rfl, hargs⟩ := h
  exact ⟨rfl, hargs⟩

theorem routeDomain_only (domain : Json) :
    (routeDomain rt n T domain).Only (IsDomainCall n T) := by
  unfold routeDomain
  split
  · exact Prog.only_pure
  · apply Prog.only_ofExcept.bind
    intro name
    apply (run_only ⟨_, rfl, .inr (.inr ⟨name, rfl⟩)⟩).bind
    intro stdout
    apply Prog.only_ofExcept.bind
    intro updated
    exact Prog.only_ofExcept

theorem listDomains_only : (listDomains rt n).Only (IsDomainCall n T) := by
  rw [listDomains_eq]
  exact Prog.only_ask ⟨_, rfl, .inl rfl⟩

theorem generateDomain_only : (generateDomain rt n T).Only (IsDomainCall n T) := by
  apply (run_only ⟨_, rfl, .inr (.inl rfl)⟩).bind
  intro _
  apply listDomains_only.bind
  intro parsed
  apply Prog.only_ofExcept.bind
  rintro (_ | domain)
  · exact Prog.only_throw
  · exact Prog.only_pure

/-- The routing runs domain commands only. -/
theorem ensureDomainPort_only : (ensureDomainPort rt n T).Only (IsDomainCall n T) := by
  apply listDomains_only.bind
  intro parsed
  apply Prog.only_ofExcept.bind
  rintro (_ | domain)
  · apply generateDomain_only.bind
    intro domain
    exact routeDomain_only domain
  · exact routeDomain_only domain

theorem patchAllowedOrigins_noCommand {baseUrl domain : String} {auth : SetupAuth} :
    (patchAllowedOrigins rt baseUrl auth domain).Only NoCommand := by
  apply (ask_noCommand (by simp)).bind
  intro getResult
  split
  · exact Prog.only_throw
  · apply Prog.only_ofExcept.bind
    rintro (_ | _ | config)
    · exact Prog.only_pure
    · exact Prog.only_pure
    · apply (ask_noCommand (by simp)).bind
      intro posted
      split
      · exact Prog.only_throw
      · apply (ask_noCommand (by simp)).bind
        intro verifyResult
        exact Prog.only_ofExcept

theorem approveOwnDevicePairing_noCommand {baseUrl : String} {auth : SetupAuth} :
    (approveOwnDevicePairing baseUrl auth).Only NoCommand := by
  apply (ask_noCommand (by simp)).bind
  intro pending
  split
  · exact Prog.only_pure
  · apply Prog.only_ofExcept.bind
    rintro (_ | requestId)
    · exact Prog.only_pure
    · apply (ask_noCommand (by simp)).bind
      intro approved
      split
      · exact Prog.only_pure
      · exact Prog.only_throw

theorem writeLocalText_noCommand {path contents : String} :
    (writeLocalText path contents).Only NoCommand := by
  apply (ask_noCommand (by simp)).bind
  intro _
  exact ask_noCommand (by simp)

theorem writeMergedEnv_noCommand {path : String} {entries : List (String × String)} :
    (writeMergedEnv path entries).Only NoCommand := by
  apply ((ask_noCommand (by simp)).tryCatch fun _ => Prog.only_pure).bind
  intro existing
  exact writeLocalText_noCommand

theorem handOver_noCommand {options : ResolvedProvisionOptions} {result : ProvisionClientResult} :
    (handOver options result).Only NoCommand := by
  unfold handOver
  split
  · apply writeMergedEnv_noCommand.bind
    intro _
    apply writeLocalText_noCommand.bind
    intro _
    exact Prog.only_pure
  · exact Prog.only_pure

/-- What is no command may stand at the end of a run. -/
theorem NoCommand.isFinishCall {c : Call} (h : NoCommand c) : IsFinishCall n T c := by
  cases c with
  | run args stdin => exact absurd rfl (h args stdin)
  | now | sleep | randomBytes | checkSetupStatus | getConfigRaw | postConfigRaw
  | getPendingDevices | approveDevice | readTemplateLock | readText | makeDirectory | writeText
  | fetch => trivial

/-- An instance is brought up by such calls only. -/
theorem bringUp_only {service : Json} {pollSeconds timeoutMinutes : ℕ} {auth : SetupAuth}
    (hn : service.get "name" = .json (.str n)) :
    (bringUp rt fuel service T pollSeconds timeoutMinutes auth).Only (IsFinishCall n T) := by
  rw [bringUp, hn]
  apply (ensureDomainPort_only.mono fun _ hc => hc.isFinishCall).bind
  intro routed
  apply Prog.only_ofExcept.bind
  intro domain
  apply (waitForSetupReady_only.mono fun _ hc => hc.noCommand.isFinishCall).bind
  intro _
  apply (patchAllowedOrigins_noCommand.mono fun _ hc => hc.isFinishCall).bind
  intro allowedOrigins
  apply (approveOwnDevicePairing_noCommand.mono fun _ hc => hc.isFinishCall).bind
  intro deviceApproval
  exact Prog.only_pure

/-- So is all that follows once the service is there. -/
theorem finishProvision_only {options : ResolvedProvisionOptions} {service : Json}
    {credentials : Credentials} {reused : Bool} (hn : service.get "name" = .json (.str n)) :
    (finishProvision rt fuel options service credentials reused).Only
      (IsFinishCall n options.targetPort) := by
  apply (bringUp_only hn).bind
  intro i
  exact handOver_noCommand.mono fun _ hc => hc.isFinishCall

end Finish

/-! ### Errors that are not about a deployment -/

/-- An error that is not about the state a deployment ended in. -/
def NotTerminal (e : Failure) : Prop := e.kind ≠ .terminalState

section Errors

variable {α : Type} {n : String} {T : ℕ}

/-- A plain failure is about no terminal state. -/
theorem Plain.notTerminal {x : Except Failure α} (hx : Plain x) :
    ∀ e, x = .error e → NotTerminal e := by
  intro e he
  rw [NotTerminal, hx e he]
  simp

theorem throws_plain {x : Except Failure α} (hx : Plain x) :
    (Prog.ofExcept x : Tool α).Throws NotTerminal :=
  Prog.throws_ofExcept hx.notTerminal

theorem throws_settled {c : Call} {g : c.Reply → Except Failure α} (hg : ∀ r, Plain (g r)) :
    (Prog.ask (I := Platform) c g).Throws NotTerminal :=
  Prog.throws_ask fun r => (hg r).notTerminal

theorem run_throws {args : List String} {stdin : Option String} :
    (run args stdin).Throws NotTerminal :=
  throws_settled fun _ => plain_settled

theorem plain_argument (v : Value) : Plain (argument v) := by
  unfold argument
  split
  · exact plain_ok
  · exact plain_thrown

theorem argument_eq_ok {v : Value} {s : String} : argument v = .ok s ↔ v = .json (.str s) := by
  rw [← asString_eq_some]
  unfold argument
  cases v.asString <;> simp

theorem plain_readValueMember (v : Value) (name : String) : Plain (readValueMember v name) := by
  cases v with
  | undefined => exact plain_thrown
  | json j => exact plain_readMember j name
  | inherited member => exact plain_ok

theorem routeDomain_throws (domain : Json) : (routeDomain rt n T domain).Throws NotTerminal := by
  unfold routeDomain
  split
  · trivial
  · apply (throws_plain (plain_argument _)).bind
    intro name
    apply run_throws.bind
    intro stdout
    apply (throws_plain plain_settled).bind
    intro updated
    exact throws_plain (plain_readMember updated "domain")

theorem listDomains_throws : (listDomains rt n).Throws NotTerminal := by
  rw [listDomains_eq]
  exact throws_settled (plain_printed rt)

theorem ensureDomainPort_throws : (ensureDomainPort rt n T).Throws NotTerminal := by
  have hpick : ∀ parsed, (Prog.ofExcept (readMember parsed "domains" >>= pickDomain) :
      Tool (Option Json)).Throws NotTerminal := fun parsed =>
    throws_plain ((plain_readMember parsed "domains").bind plain_pickDomain)
  apply listDomains_throws.bind
  intro parsed
  apply (hpick parsed).bind
  rintro (_ | domain)
  · apply Prog.Throws.bind ?_ routeDomain_throws
    apply run_throws.bind
    intro _
    apply listDomains_throws.bind
    intro parsed
    apply (hpick parsed).bind
    rintro (_ | domain)
    · show NotTerminal (domainNotListed n)
      simp [NotTerminal, domainNotListed]
    · trivial
  · exact routeDomain_throws domain

/-- The wait for the instance says nothing about a deployment. -/
theorem waitForSetupReady_throws {url : String} {auth : SetupAuth}
    {pollSeconds timeoutMinutes : ℕ} :
    (waitForSetupReady fuel url auth pollSeconds timeoutMinutes).Throws NotTerminal := by
  intro time
  show (readyRounds url auth pollSeconds timeoutMinutes _ fuel).Throws NotTerminal
  induction fuel with
  | zero => trivial
  | succ fuel ih =>
      apply Prog.Throws.bind (throws_settled fun _ => plain_settled)
      intro lastStatus
      split
      · trivial
      · intro _ time'
        show Prog.Throws NotTerminal (if _ then _ else _)
        split
        · exact ih
        · show NotTerminal (setupNotReady url timeoutMinutes lastStatus)
          simp [NotTerminal, setupNotReady]

theorem plain_parseConfig (content : String) : Plain (parseConfig rt content) := by
  unfold parseConfig
  split
  · exact plain_ok
  · exact plain_settled

theorem plain_planOrigins (config : Json) (origin : String) : Plain (planOrigins config origin) := by
  cases config with
  | null => exact plain_thrown
  | arr items => exact plain_ok
  | obj fields =>
      show Plain (if _ then _ else if _ then _ else _)
      split_ifs <;> exact plain_ok
  | bool | num | str => exact plain_thrown

theorem verifyOrigins_throws {verifyResult : ConfigRaw} {origin : String} :
    (Prog.ofExcept (verifyOrigins rt verifyResult origin) :
      Tool PatchAllowedOriginsResult).Throws NotTerminal := by
  apply Prog.throws_ofExcept
  intro e he
  have hkind : e.kind = .configRaw := by
    unfold verifyOrigins at he
    split at he
    · cases he
      rfl
    · split at he
      · cases he
        rfl
      · split at he
        · cases he
        · cases he
          rfl
  simp [NotTerminal, hkind]

/-- Nor does the patch of the origins. -/
theorem patchAllowedOrigins_throws {baseUrl domain : String} {auth : SetupAuth} :
    (patchAllowedOrigins rt baseUrl auth domain).Throws NotTerminal := by
  have hconfig : ∀ message, NotTerminal (configFailure message) := by
    simp [NotTerminal, configFailure]
  apply Prog.Throws.bind (throws_settled fun _ => plain_settled)
  intro getResult
  split
  · exact hconfig _
  · apply (throws_plain ((plain_parseConfig _).bind fun config => plain_planOrigins config _)).bind
    rintro (_ | _ | config)
    · trivial
    · trivial
    · apply Prog.Throws.bind (throws_settled fun _ => plain_settled)
      intro posted
      split
      · exact hconfig _
      · apply Prog.Throws.bind (throws_settled fun _ => plain_settled)
        intro verifyResult
        exact verifyOrigins_throws

/-- Nor does the pairing. -/
theorem approveOwnDevicePairing_throws {baseUrl : String} {auth : SetupAuth} :
    (approveOwnDevicePairing baseUrl auth).Throws NotTerminal := by
  have hpairing : ∀ message, NotTerminal (pairingFailure message) := by
    simp [NotTerminal, pairingFailure]
  have hown : ∀ requestIds e, ownRequest requestIds = .error e → NotTerminal e := by
    intro requestIds e he
    unfold ownRequest at he
    split at he
    · cases he
    · split at he
      · cases he
        exact hpairing _
      · cases he
    · cases he
      exact hpairing _
  apply Prog.Throws.bind (throws_settled fun _ => plain_settled)
  intro pending
  split
  · trivial
  · apply (Prog.throws_ofExcept (hown pending.requestIds)).bind
    rintro (_ | requestId)
    · trivial
    · apply Prog.Throws.bind (throws_settled fun _ => plain_settled)
      intro approved
      split
      · trivial
      · exact hpairing _

theorem writeLocalText_throws {path contents : String} :
    (writeLocalText path contents).Throws NotTerminal := by
  apply Prog.Throws.bind (throws_settled fun _ => plain_settled)
  intro _
  exact throws_settled fun _ => plain_settled

theorem writeMergedEnv_throws {path : String} {entries : List (String × String)} :
    (writeMergedEnv path entries).Throws NotTerminal := by
  have hread : ((Prog.ask (I := Platform) (.readText path) settled).tryCatch fun _ =>
      (pure "" : Tool String)).Throws NotTerminal :=
    Prog.throws_tryCatch fun _ => trivial
  apply hread.bind
  intro existing
  exact writeLocalText_throws

/-- Nor do the files. -/
theorem handOver_throws {options : ResolvedProvisionOptions} {result : ProvisionClientResult} :
    (handOver options result).Throws NotTerminal := by
  unfold handOver
  split
  · apply writeMergedEnv_throws.bind
    intro _
    apply writeLocalText_throws.bind
    intro _
    trivial
  · trivial

/-- Past the poll no error is about the state of a deployment. -/
theorem finishProvision_throws {options : ResolvedProvisionOptions} {service : Json}
    {credentials : Credentials} {reused : Bool} :
    (finishProvision rt fuel options service credentials reused).Throws NotTerminal := by
  apply Prog.Throws.bind ?_ fun _ => handOver_throws
  apply (throws_plain (plain_argument _)).bind
  intro name
  apply ensureDomainPort_throws.bind
  intro routed
  apply (throws_plain (plain_readValueMember _ _)).bind
  intro domain
  apply waitForSetupReady_throws.bind
  intro _
  apply patchAllowedOrigins_throws.bind
  intro allowedOrigins
  apply approveOwnDevicePairing_throws.bind
  intro deviceApproval
  trivial

end Errors

/-! ### Up to the redeploy -/

/-- The calls that ask for no redeploy. -/
def NoRedeploy (c : Call) : Prop := ∀ n, c ≠ redeployCall n

section Bootstrap

variable {n : String}

/-- What is no command redeploys nothing. -/
theorem NoCommand.noRedeploy {c : Call} (h : NoCommand c) : NoRedeploy c :=
  fun n => h (redeployArgs n) none

/-- Nor do the calls at the end of a run. -/
theorem IsFinishCall.noRedeploy {T : ℕ} {c : Call} (h : IsFinishCall n T c) : NoRedeploy c := by
  rintro m rfl
  rcases h with ⟨-, h | h | ⟨domain, h⟩⟩
  · simp [redeployArgs, domainListArgs] at h
  · simp [redeployArgs, domainCreateArgs] at h
  · simp [redeployArgs, domainUpdateArgs] at h

/-- Nor do the polls. -/
theorem IsPollCall.noRedeploy {c : Call} (h : IsPollCall c) : NoRedeploy c := by
  rintro m rfl
  rcases h with h | ⟨ms, h⟩ | h
  · cases h
  · cases h
  · simp [redeployCall, redeployArgs, serviceListArgs] at h

/-- A command of another name is no redeploy. -/
theorem noRedeploy_run {word : String} {args : List String} {stdin : Option String}
    (h : word ≠ "redeploy") : NoRedeploy (.run (word :: args) stdin) := by
  rintro m heq
  simp only [redeployCall, redeployArgs, Call.run.injEq, List.cons.injEq] at heq
  exact h heq.1.1

theorem readRailwayVariable_noRedeploy {name : String} :
    (readRailwayVariable rt name n).Only NoRedeploy := by
  rw [readRailwayVariable_eq]
  exact Prog.only_ask (noRedeploy_run (by decide))

theorem listServices_noRedeploy : (listServices rt).Only NoRedeploy := by
  rw [listServices_eq]
  exact Prog.only_ask (noRedeploy_run (by decide))

/-- The calls that fill in the options. -/
def IsPreparingCall (c : Call) : Prop := c = .readTemplateLock ∨ ∃ bytes, c = .randomBytes bytes

/-- What prepares the options is no command. -/
theorem IsPreparingCall.noCommand {c : Call} (h : IsPreparingCall c) : NoCommand c := by
  rintro args stdin rfl
  rcases h with h | ⟨bytes, h⟩ <;> cases h

theorem secretOr_only {option : Option String} {bytes : ℕ} {secretPrefix : String} :
    (secretOr option bytes secretPrefix).Only IsPreparingCall := by
  cases option with
  | some secret => exact Prog.only_pure
  | none =>
      have hbytes : IsPreparingCall (.randomBytes bytes) := .inr ⟨bytes, rfl⟩
      apply Prog.Only.bind (Prog.only_perform.mpr hbytes)
      intro text
      exact Prog.only_pure

/-- The options are resolved by such calls only. -/
theorem resolveProvisionOptions_only {options : ProvisionClientOptions} :
    (resolveProvisionOptions options).Only IsPreparingCall := by
  have href : (resolveTemplateRef options.templateRef).Only IsPreparingCall := by
    cases options.templateRef with
    | some templateRef => exact Prog.only_pure
    | none => exact Prog.only_ask (.inl rfl)
  apply href.bind
  intro templateRef
  apply secretOr_only.bind
  intro setupPassword
  apply secretOr_only.bind
  intro gatewayToken
  exact Prog.only_pure

theorem linkProject_noRedeploy {options : ResolvedProvisionOptions} :
    (linkProject options).Only NoRedeploy := by
  unfold linkProject
  split
  · exact run_only (noRedeploy_run (by decide))
  · exact run_only (noRedeploy_run (by decide))

theorem writeVariables_noRedeploy {entries : List (String × String)} :
    (writeVariables n entries).Only NoRedeploy := by
  induction entries with
  | nil => exact Prog.only_pure
  | cons entry rest ih =>
      rw [writeVariables, writeRailwayVariable_eq]
      apply Prog.Only.bind (Prog.only_ask (noRedeploy_run (by decide)))
      intro _
      exact ih

theorem storedCredential_noRedeploy {kind : FailureKind} {name : String} :
    (storedCredential rt kind name n).Only NoRedeploy := by
  apply readRailwayVariable_noRedeploy.bind
  intro stored
  split
  · exact Prog.only_pure
  · exact Prog.only_throw

/-- The reuse path redeploys nothing. -/
theorem reuseService_noRedeploy {options : ResolvedProvisionOptions} {existing : Json} :
    (reuseService rt fuel options existing).Only NoRedeploy := by
  apply Prog.only_ofExcept.bind
  intro service
  cases hname : argument (service.get "name") with
  | error e => exact Prog.only_throw
  | ok name =>
      have hget : service.get "name" = .json (.str name) := argument_eq_ok.mp hname
      apply Prog.only_ofExcept.bind
      intro _
      apply Prog.Only.bind
      · apply storedCredential_noRedeploy.bind
        intro setupPassword
        apply storedCredential_noRedeploy.bind
        intro gatewayToken
        exact Prog.only_pure
      · intro credentials
        exact (finishProvision_only hget).mono fun _ hc => hc.noRedeploy

/-- The handover after a bootstrap. -/
def handOverCreated (rt : Runtime) (fuel : ℕ) (options : ResolvedProvisionOptions)
    (service : Json) : Tool ProvisionClientResult :=
  finishProvision rt fuel options service
    ⟨.json (.str options.setupPassword), .json (.str options.gatewayToken)⟩ false

/-- The wait for the redeploy and what follows it. -/
def awaitRedeploy (rt : Runtime) (fuel : ℕ) (options : ResolvedProvisionOptions) (n : String) :
    Tool ProvisionClientResult :=
  pollServiceUntilSuccess rt fuel n options.pollSeconds options.timeoutMinutes .undefined >>=
    handOverCreated rt fuel options

/-- What is found is there, under the name that was asked for. -/
theorem findMember_some {items : List Json} {name s : String} {found : Json}
    (h : findMember items name s = .ok (some found)) :
    found ∈ items ∧ found.get name = .json (.str s) := by
  induction items with
  | nil => cases h
  | cons item rest ih =>
      cases hread : readMember item name with
      | error e =>
          rw [findMember, hread] at h
          cases h
      | ok value =>
          rw [findMember, hread] at h
          change (if value.isString s then _ else findMember rest name s) = _ at h
          split at h
          · rename_i hs
            cases h
            obtain ⟨-, rfl⟩ := readMember_ok_iff.mp hread
            exact ⟨List.mem_cons_self, isString_iff.mp hs⟩
          · obtain ⟨hmem, hget⟩ := ih h
            exact ⟨List.mem_cons_of_mem item hmem, hget⟩

/-- The service that is found has the name that was looked for. -/
theorem findTemplateService_some {services listed : Json}
    (h : findTemplateService services n = .ok (some listed)) :
    listed.get "name" = .json (.str n) := by
  cases he : elements (.json services) "services" "find" with
  | error e =>
      rw [findTemplateService, he] at h
      cases h
  | ok items =>
      rw [findTemplateService, he] at h
      exact (findMember_some h).2

/-- A listing shows the service `n` with a latest deployment of this status and
id. -/
def Shows (rt : Runtime) (n : String) (reply : Except String String) (status : String)
    (id : Value) : Prop :=
  ∃ services listed, printed rt reply = .ok services ∧
    findTemplateService services n = .ok (some listed) ∧
    deploymentMember listed "status" = .json (.str status) ∧ deploymentMember listed "id" = id

/-- A listing shows one status and one deployment. -/
theorem Shows.unique {reply : Except String String} {status status' : String} {id id' : Value}
    (h : Shows rt n reply status id) (h' : Shows rt n reply status' id') :
    status' = status ∧ id' = id := by
  obtain ⟨services, listed, hp, hf, hs, rfl⟩ := h
  obtain ⟨services', listed', hp', hf', hs', rfl⟩ := h'
  rw [hp] at hp'
  cases hp'
  rw [hf] at hf'
  cases hf'
  rw [hs] at hs'
  cases hs'
  exact ⟨rfl, rfl⟩

/-- What the unguarded poll sees in a listing. -/
theorem sighted_of_shows {reply : Except String String} {status : String} {id : Value}
    (h : Shows rt n reply status id) :
    ∃ listed, listed.get "name" = .json (.str n) ∧
      sighted rt n .undefined reply = .ok (judge .undefined listed) ∧
      (status = "SUCCESS" → judge .undefined listed = .deployed listed) ∧
      (status ∈ terminalFailureStatuses → judge .undefined listed = .failed status) := by
  obtain ⟨services, listed, hp, hf, hs, -⟩ := h
  refine ⟨listed, findTemplateService_some hf, ?_, ?_, ?_⟩
  · rw [sighted, hp]
    show sightingOf n .undefined services = _
    rw [sightingOf, hf]
    rfl
  · rintro rfl
    exact judge_deployed_iff.mpr ⟨rfl, hs, rfl⟩
  · intro hterminal
    exact judge_failed_iff.mpr ⟨hterminal, hs, rfl⟩

/-- What was sighted is what the listing shows. -/
theorem shows_of_sighted {reply : Except String String} {sighting : Sighting}
    (h : sighted rt n .undefined reply = .ok sighting) :
    (∀ found, sighting = .deployed found → found.get "name" = .json (.str n) ∧
      ∃ id, Shows rt n reply "SUCCESS" id) ∧
    (∀ status, sighting = .failed status → status ∈ terminalFailureStatuses ∧
      ∃ id, Shows rt n reply status id) := by
  constructor
  · rintro found rfl
    obtain ⟨services, listed, hp, hf, hj⟩ := judge_of_sighted h (by simp)
    obtain ⟨rfl, hs, -⟩ := judge_deployed_iff.mp hj
    exact ⟨findTemplateService_some hf, _, services, found, hp, hf, hs, rfl⟩
  · rintro status rfl
    obtain ⟨services, listed, hp, hf, hj⟩ := judge_of_sighted h (by simp)
    obtain ⟨hterminal, hs, -⟩ := judge_failed_iff.mp hj
    exact ⟨hterminal, _, services, listed, hp, hf, hs, rfl⟩

/-- What the poll returns has the name it looked for. -/
theorem pollServiceUntilSuccess_name {pollSeconds timeoutMinutes : ℕ} {service : Json}
    (h : (pollServiceUntilSuccess rt fuel n pollSeconds timeoutMinutes .undefined).Exec t
      (.returned service)) : service.get "name" = .json (.str n) := by
  rcases pollServiceUntilSuccess_exec h with ⟨-, ho | ho⟩ |
    ⟨polled, listing, -, -, ⟨found, hs, ho⟩ | ⟨status, -, ho⟩ | ⟨e', -, ho⟩⟩
  · cases ho
  · cases ho
  · cases ho
    exact ((shows_of_sighted hs).1 service rfl).1
  · cases ho
  · cases ho

/-- The wait for a redeploy does not redeploy. -/
theorem awaitRedeploy_noRedeploy {options : ResolvedProvisionOptions} :
    ∀ t o, (awaitRedeploy rt fuel options n).Exec t o → ∀ e ∈ t, NoRedeploy e.call := by
  intro t o h e he
  rcases Prog.exec_bind.mp h with ⟨service, tp, tf, rfl, hp, hf⟩ | ⟨e', hp, -⟩ | ⟨hp, -⟩
  · rcases List.mem_append.mp he with he | he
    · exact ((pollServiceUntilSuccess_only _ _).exec hp e he).noRedeploy
    · have hname := pollServiceUntilSuccess_name hp
      exact ((finishProvision_only hname).exec hf e he).noRedeploy
  · exact ((pollServiceUntilSuccess_only _ _).exec hp e he).noRedeploy
  · exact ((pollServiceUntilSuccess_only _ _).exec hp e he).noRedeploy

/-- After the redeploy the run is one of `awaitRedeploy`. -/
theorem deployCreated_after_redeploy {options : ResolvedProvisionOptions} {name out : String}
    {t₁ t₂ : Trace} {o : Outcome Failure ProvisionClientResult}
    (h : (deployCreated rt fuel options name >>= handOverCreated rt fuel options).Exec
      (t₁ ++ ⟨redeployCall n, .ok out⟩ :: t₂) o) :
    (awaitRedeploy rt fuel options n).Exec t₂ o := by
  have hev : ¬ NoRedeploy (redeployCall n) := fun h => h n rfl
  -- nothing before the redeploy is one, so the trace is cut at that call
  simp only [deployCreated, bind_assoc] at h
  obtain ⟨_, -, t₃, -, -, h⟩ := (run_only (noRedeploy_run (by decide))).skip hev h
  obtain ⟨_, -, t₄, -, -, h⟩ := (run_only (noRedeploy_run (by decide))).skip hev h
  obtain ⟨_, -, t₅, -, -, h⟩ := writeVariables_noRedeploy.skip hev h
  rcases Prog.exec_ask_bind.mp h with ⟨reply, t', _, heq, -, hrest⟩ | ⟨reply, e, heq, hr, -⟩
  · cases t₅ with
    | nil =>
        -- the redeploy of the trace is the one made here
        obtain ⟨hhead, rfl⟩ := List.cons.inj heq
        have hname : n = name := by
          have hargs := (Call.run.inj (congrArg Event.call hhead)).1
          simpa [redeployArgs] using hargs
        rw [hname]
        exact hrest
    | cons e t₅ =>
        obtain ⟨-, rfl⟩ := List.cons.inj heq
        exact absurd (awaitRedeploy_noRedeploy _ _ hrest ⟨redeployCall n, .ok out⟩ (by simp)) hev
  · cases t₅ with
    | nil =>
        -- it was accepted, so the run goes on
        obtain ⟨hhead, -⟩ := List.cons.inj heq
        cases hhead
        cases hr
    | cons e t₅ =>
        have hlen := congrArg List.length heq
        simp at hlen

/-- What a run does after its redeploy: it waits, and finishes. -/
theorem createService_after_redeploy {options : ResolvedProvisionOptions} {servicesBefore : Json}
    {out : String} {t₁ t₂ : Trace} {o : Outcome Failure ProvisionClientResult}
    (h : (createService rt fuel options servicesBefore).Exec
      (t₁ ++ ⟨redeployCall n, .ok out⟩ :: t₂) o) :
    (awaitRedeploy rt fuel options n).Exec t₂ o := by
  have hev : ¬ NoRedeploy (redeployCall n) := fun h => h n rfl
  simp only [createService, bootstrapService, bind_assoc] at h
  obtain ⟨_, -, t₃, -, -, h⟩ := (run_only (noRedeploy_run (by decide))).skip hev h
  obtain ⟨_, -, t₄, -, -, h⟩ := Prog.only_ofExcept.skip hev h
  obtain ⟨_, -, t₅, -, -, h⟩ := listServices_noRedeploy.skip hev h
  obtain ⟨_, -, t₆, -, -, h⟩ := Prog.only_ofExcept.skip hev h
  exact deployCreated_after_redeploy h

/-- **Only the bootstrap path redeploys**, and what follows is the wait. -/
theorem provisionClientInstance_after_redeploy {options : ProvisionClientOptions}
    {out : String} {t₁ t₂ : Trace} {o : Outcome Failure ProvisionClientResult}
    (h : (provisionClientInstance rt fuel options).Exec
      (t₁ ++ ⟨redeployCall n, .ok out⟩ :: t₂) o) :
    ∃ resolved, (awaitRedeploy rt fuel resolved n).Exec t₂ o := by
  have hev : ¬ NoRedeploy (redeployCall n) := fun h => h n rfl
  have hresolve : (resolveProvisionOptions options).Only NoRedeploy :=
    resolveProvisionOptions_only.mono fun _ hc => hc.noCommand.noRedeploy
  obtain ⟨resolved, -, t₃, -, -, h⟩ := hresolve.skip hev h
  obtain ⟨_, -, t₄, -, -, h⟩ := linkProject_noRedeploy.skip hev h
  obtain ⟨servicesBefore, -, t₅, -, -, h⟩ := listServices_noRedeploy.skip hev h
  obtain ⟨existing, -, t₆, -, -, h⟩ := Prog.only_ofExcept.skip hev h
  cases existing with
  | some existing => exact absurd (reuseService_noRedeploy.exec h ⟨redeployCall n, .ok out⟩ (by simp)) hev
  | none => exact ⟨resolved, createService_after_redeploy h⟩

/-! ### Which deployment decides -/

/-- In `t` a listing shows the service succeeded on a deployment for which `isNew`
holds, and only calls of the poll come before it. -/
def SucceedsOnNew (rt : Runtime) (n : String) (isNew : Value → Prop) (t : Trace) : Prop :=
  ∃ polled reply rest id, t = polled ++ ⟨.run serviceListArgs none, reply⟩ :: rest ∧
    (∀ e ∈ polled, IsPollCall e.call) ∧ Shows rt n reply "SUCCESS" id ∧ isNew id

/-- In `t` a listing shows the service in `status` on a deployment for which
`isNew` holds. -/
def FailsOnNew (rt : Runtime) (n : String) (isNew : Value → Prop) (t : Trace)
    (status : String) : Prop :=
  ∃ reply id, ⟨.run serviceListArgs none, reply⟩ ∈ t ∧ Shows rt n reply status id ∧ isNew id

/-- Every listing in `t` that shows the service in a decisive status shows a
deployment for which `isNew` holds. -/
def OnlyNewDecides (rt : Runtime) (n : String) (isNew : Value → Prop) (t : Trace) : Prop :=
  ∀ reply status id, ⟨.run serviceListArgs none, reply⟩ ∈ t → Shows rt n reply status id →
    (status = "SUCCESS" ∨ status ∈ terminalFailureStatuses) → isNew id

/-- An undecided listing shows nothing decisive. -/
theorem not_undecided_of_shows {reply : Except String String} {status : String} {id : Value}
    (h : Shows rt n reply status id)
    (hdecisive : status = "SUCCESS" ∨ status ∈ terminalFailureStatuses) :
    sighted rt n .undefined reply ≠ .ok .undecided := by
  obtain ⟨listed, -, hs, hsuccess, hterminal⟩ := sighted_of_shows h
  intro hu
  rw [hu] at hs
  have hj : judge .undefined listed = .undecided := (Except.ok.inj hs).symm
  rcases hdecisive with hstatus | hstatus
  · rw [hsuccess hstatus] at hj
    cases hj
  · rw [hterminal hstatus] at hj
    cases hj

/-- The first thing done with a service that is there is to list its domains. -/
theorem finishProvision_head {options : ResolvedProvisionOptions} {service : Json}
    {credentials : Credentials} {reused : Bool} {o : Outcome Failure ProvisionClientResult}
    (hn : service.get "name" = .json (.str n))
    (h : (finishProvision rt fuel options service credentials reused).Exec t o) :
    ∃ reply t', t = ⟨.run (domainListArgs n) none, reply⟩ :: t' := by
  simp only [finishProvision, bringUp, hn, ensureDomainPort, listDomains_eq, bind_assoc] at h
  rcases Prog.exec_ask_bind.mp h with ⟨reply, t', _, rfl, -, -⟩ | ⟨reply, e, rfl, -, -⟩
  · exact ⟨reply, t', rfl⟩
  · exact ⟨reply, [], rfl⟩

/-- The end of a run does not list the services. -/
theorem IsFinishCall.ne_serviceList {T : ℕ} {c : Call} (h : IsFinishCall n T c) :
    c ≠ .run serviceListArgs none := by
  rintro rfl
  rcases h with ⟨-, h | h | ⟨domain, h⟩⟩
  · simp [serviceListArgs, domainListArgs] at h
  · simp [serviceListArgs, domainCreateArgs] at h
  · simp [serviceListArgs, domainUpdateArgs] at h

theorem NotTerminal.ne_terminalState {e : Failure} (h : NotTerminal e) (status : String) :
    e ≠ terminalState n status := by
  rintro rfl
  exact h rfl

/-- How `awaitRedeploy` runs: the poll gives up undecided, or its last listing is
the only decisive one and says how the run goes on. -/
theorem awaitRedeploy_cases {options : ResolvedProvisionOptions}
    {o : Outcome Failure ProvisionClientResult}
    (h : (awaitRedeploy rt fuel options n).Exec t o) :
    ((∀ e ∈ t, IsPollCall e.call) ∧ Undecided rt n .undefined t ∧
      ∀ status, o ≠ .threw (terminalState n status)) ∨
    ∃ polled reply rest, t = polled ++ ⟨.run serviceListArgs none, reply⟩ :: rest ∧
      (∀ e ∈ polled, IsPollCall e.call) ∧ Undecided rt n .undefined polled ∧
      ((∃ id, Shows rt n reply "SUCCESS" id ∧ (∃ e ∈ rest, ¬ IsPollCall e.call) ∧
          (∀ e ∈ rest, e.call ≠ .run serviceListArgs none) ∧
          ∀ status, o ≠ .threw (terminalState n status)) ∨
        (∃ status id, Shows rt n reply status id ∧ status ∈ terminalFailureStatuses ∧ rest = [] ∧
          o = .threw (terminalState n status)) ∨
        (∃ e, sighted rt n .undefined reply = .error e ∧ rest = [] ∧ o = .threw e)) := by
  rcases Prog.exec_bind.mp h with ⟨service, tp, rest, rfl, hp, hf⟩ | ⟨e, hp, rfl⟩ | ⟨hp, rfl⟩
  · have hcalls := (pollServiceUntilSuccess_only _ _).exec hp
    rcases pollServiceUntilSuccess_exec hp with ⟨-, ho | ho⟩ |
      ⟨polled, reply, rfl, hu, ⟨found, hs, ho⟩ | ⟨status, -, ho⟩ | ⟨e, -, ho⟩⟩
    · cases ho
    · cases ho
    · cases ho
      -- a success: the run goes on with the service of that listing
      obtain ⟨hname, id, hshows⟩ := (shows_of_sighted hs).1 service rfl
      right
      refine ⟨polled, reply, rest, by simp, fun e he => hcalls e (by simp [he]), hu,
        .inl ⟨id, hshows, ?_, ?_, ?_⟩⟩
      · obtain ⟨listed, t', rfl⟩ := finishProvision_head hname hf
        refine ⟨⟨.run (domainListArgs n) none, listed⟩, by simp, ?_⟩
        rintro (h | ⟨ms, h⟩ | h)
        · cases h
        · cases h
        · simp [domainListArgs, serviceListArgs] at h
      · intro e he
        exact ((finishProvision_only hname).exec hf e he).ne_serviceList
      · rintro status rfl
        exact (finishProvision_throws.exec hf).ne_terminalState status rfl
    · cases ho
    · cases ho
  · have hcalls := (pollServiceUntilSuccess_only _ _).exec hp
    rcases pollServiceUntilSuccess_exec hp with ⟨hu, ho | ho⟩ |
      ⟨polled, reply, rfl, hu, ⟨found, -, ho⟩ | ⟨status, hs, ho⟩ | ⟨e', hs, ho⟩⟩
    · cases ho
      refine .inl ⟨hcalls, hu, ?_⟩
      intro status h
      cases h
    · cases ho
    · cases ho
    -- a terminal status: the run ends with it
    · cases ho
      obtain ⟨hterminal, id, hshows⟩ := (shows_of_sighted hs).2 status rfl
      exact .inr ⟨polled, reply, [], rfl, fun e he => hcalls e (by simp [he]), hu,
        .inr (.inl ⟨status, id, hshows, hterminal, rfl, rfl⟩)⟩
    · cases ho
      exact .inr ⟨polled, reply, [], rfl, fun e he => hcalls e (by simp [he]), hu,
        .inr (.inr ⟨e, hs, rfl, rfl⟩)⟩
  -- the fuel is used up
  · have hcalls := (pollServiceUntilSuccess_only _ _).exec hp
    rcases pollServiceUntilSuccess_exec hp with ⟨hu, -⟩ |
      ⟨polled, reply, rfl, hu, ⟨found, -, ho⟩ | ⟨status, -, ho⟩ | ⟨e', -, ho⟩⟩
    · exact .inl ⟨hcalls, hu, fun _ h => (nomatch h)⟩
    · cases ho
    · cases ho
    · cases ho

/-- The listing the poll stops at is the only one in its run that can show a
decisive status. -/
theorem decisive_last {polled rest : Trace} {reply reply' : Except String String}
    {status : String} {id : Value} (hu : Undecided rt n .undefined polled)
    (hrest : ∀ e ∈ rest, e.call ≠ .run serviceListArgs none)
    (hmem : ⟨.run serviceListArgs none, reply'⟩ ∈
      polled ++ (⟨.run serviceListArgs none, reply⟩ :: rest : Trace))
    (hshows : Shows rt n reply' status id)
    (hdecisive : status = "SUCCESS" ∨ status ∈ terminalFailureStatuses) : reply' = reply := by
  rcases List.mem_append.mp hmem with hmem | hmem
  · exact absurd (hu reply' hmem) (not_undecided_of_shows hshows hdecisive)
  · rcases List.mem_cons.mp hmem with heq | hmem
    · cases heq
      rfl
    · exact absurd rfl (hrest _ hmem)

/-- The message tells the status. -/
theorem terminalState_inj {status status' : String}
    (h : terminalState n status = terminalState n status') : status = status' := by
  have hmessage := congrArg Failure.message h
  simpa [terminalState] using hmessage

/-- **Fresh provisioning and its own redeploy.**  After the redeploy, the run goes
past the poll only on a success of a new deployment and gives up only on a failure
of a new one, exactly when no listing shows another deployment in a decisive
status. -/
theorem provisionClientInstance_trusts_new_iff {options : ProvisionClientOptions}
    {out : String} {t₁ t₂ : Trace} {o : Outcome Failure ProvisionClientResult}
    (isNew : Value → Prop)
    (h : (provisionClientInstance rt fuel options).Exec
      (t₁ ++ ⟨redeployCall n, .ok out⟩ :: t₂) o) :
    (((∃ e ∈ t₂, ¬ IsPollCall e.call) → SucceedsOnNew rt n isNew t₂) ∧
      ∀ status, o = .threw (terminalState n status) → FailsOnNew rt n isNew t₂ status) ↔
    OnlyNewDecides rt n isNew t₂ := by
  obtain ⟨resolved, hawait⟩ := provisionClientInstance_after_redeploy h
  rcases awaitRedeploy_cases hawait with ⟨hcalls, hu, hnot⟩ |
    ⟨polled, reply, rest, rfl, hcalls, hu, hends⟩
  -- nothing decisive was listed: both sides hold
  · have hnone : OnlyNewDecides rt n isNew t₂ := by
      intro reply status id hmem hshows hdecisive
      exact absurd (hu reply hmem) (not_undecided_of_shows hshows hdecisive)
    refine ⟨fun _ => hnone, fun _ => ⟨?_, ?_⟩⟩
    · rintro ⟨e, he, hcall⟩
      exact absurd (hcalls e he) hcall
    · intro status ho
      exact absurd ho (hnot status)
  · have hpolls : rest = [] →
        ¬ ∃ e ∈ polled ++ (⟨.run serviceListArgs none, reply⟩ :: rest : Trace), ¬ IsPollCall e.call := by
      rintro rfl ⟨e, he, hcall⟩
      rcases List.mem_append.mp he with he | he
      · exact hcall (hcalls e he)
      · rw [List.mem_singleton.mp he] at hcall
        exact hcall (.inr (.inr rfl))
    rcases hends with ⟨id, hshows, ⟨e, he, hcall⟩, hrest, hnot⟩ |
      ⟨status, id, hshows, hterminal, rfl, rfl⟩ | ⟨e, hs, rfl, rfl⟩
    -- a success was listed, and the run went on
    · constructor
      · rintro ⟨hgoes, -⟩ reply' status' id' hmem hshows' hdecisive
        obtain ⟨_, newReply, _, newId, heq, -, hsuccess, hnew⟩ := hgoes ⟨e, by simp [he], hcall⟩
        have hlast : newReply = reply :=
          decisive_last hu hrest (by rw [heq]; simp) hsuccess (.inl rfl)
        rw [hlast] at hsuccess
        rw [decisive_last hu hrest hmem hshows' hdecisive] at hshows'
        rw [(hsuccess.unique hshows').2]
        exact hnew
      · intro honly
        refine ⟨fun _ => ⟨polled, reply, rest, id, rfl, hcalls, hshows, ?_⟩, ?_⟩
        · exact honly reply "SUCCESS" id (by simp) hshows (.inl rfl)
        · intro status ho
          exact absurd ho (hnot status)
    -- a failure was listed, and the run gave up
    · constructor
      · rintro ⟨-, hfails⟩ reply' status' id' hmem hshows' hdecisive
        obtain ⟨newReply, newId, hmem', hfailed, hnew⟩ := hfails status rfl
        rw [decisive_last hu (by simp) hmem' hfailed (.inr hterminal)] at hfailed
        rw [decisive_last hu (by simp) hmem hshows' hdecisive] at hshows'
        rw [(hfailed.unique hshows').2]
        exact hnew
      · intro honly
        refine ⟨fun hgoes => absurd hgoes (hpolls rfl), ?_⟩
        intro status' ho
        rw [← terminalState_inj (Outcome.threw.inj ho)]
        exact ⟨reply, id, by simp, hshows, honly reply status id (by simp) hshows (.inr hterminal)⟩
    -- the listing could not be read: nothing decisive was listed
    · have hnone : OnlyNewDecides rt n isNew
          (polled ++ [⟨.run serviceListArgs none, reply⟩]) := by
        intro reply' status id hmem hshows hdecisive
        rw [decisive_last hu (by simp) hmem hshows hdecisive] at hshows
        obtain ⟨listed, -, hok, -⟩ := sighted_of_shows hshows
        rw [hs] at hok
        cases hok
      refine ⟨fun _ => hnone, fun _ => ⟨fun hgoes => absurd hgoes (hpolls rfl), ?_⟩⟩
      intro status ho
      have hplain := plain_sighted reply e hs
      rw [Outcome.threw.inj ho] at hplain
      cases hplain

end Bootstrap

/-! ### A platform that rolls over late -/

/-- A listing with one service, whose deployment `d1` has succeeded. -/
def deployedServices : String × Json :=
  ("[\x7b\"id\":\"s1\",\"name\":\"client\",\"latestDeployment\":" ++
      "\x7b\"id\":\"d1\",\"status\":\"SUCCESS\"\x7d\x7d]",
    .arr [.obj [("id", .str "s1"), ("name", .str "client"),
      ("latestDeployment", .obj [("id", .str "d1"), ("status", .str "SUCCESS")])]])

/-- A runtime that parses the listing. -/
def laggingRuntime : Runtime where
  jsonParse text :=
    match [("[]", Json.arr []), deployedServices].lookup text with
    | some document => .ok document
    | none => .error "Unexpected token"
  compileRegExp _ := none
  utf8Decode _ := ""
  hmacSha256Hex _ _ := ""

/-- Once uploaded, the service is listed with the deployment of the upload, after
the redeploy as before it. -/
def laggingEnvironment (uploaded : Bool) : (c : Call) → c.Reply × Bool
  | .run args _ =>
    if args = upArgs then (.ok "", true)
    else if args = serviceListArgs then
      (.ok (if uploaded then deployedServices.1 else "[]"), uploaded)
    else if args = domainListArgs "client" then (.error "unreachable", uploaded)
    else (.ok "", uploaded)
  | c => (offline c, uploaded)

/-- Options for a client that is new. -/
def laggingOptions : ProvisionClientOptions where
  clientName := "client"
  projectId := none
  workspace := none
  targetPort := none
  templateRef := some "v1"
  setupUsername := none
  setupPassword := some "hunter2"
  gatewayToken := some "token"
  pollSeconds := none
  timeoutMinutes := none
  forceNew := none
  envLocalPath := none
  handoffPath := none
  writeLocalFiles := none

/-- The run on a platform that is slow to list. -/
def laggingRun : Trace × Outcome Failure ProvisionClientResult :=
  (provisionClientInstance laggingRuntime 1 laggingOptions).play laggingEnvironment false

/-- The calls up to the redeploy, and those after it. -/
def laggingRunBefore : Trace := laggingRun.1.take 12

/-- What the run does after the upload. -/
def laggingRunAfter : Trace := laggingRun.1.drop 13

theorem laggingRun_exec :
    (provisionClientInstance laggingRuntime 1 laggingOptions).Exec
      (laggingRunBefore ++ ⟨redeployCall "client", .ok ""⟩ :: laggingRunAfter) laggingRun.2 :=
  Prog.play_exec (I := Platform) laggingEnvironment
    (provisionClientInstance laggingRuntime 1 laggingOptions) false

theorem deployedServices_shows :
    Shows laggingRuntime "client" (.ok deployedServices.1) "SUCCESS" (.json (.str "d1")) :=
  ⟨deployedServices.2, _, rfl, rfl, rfl, rfl⟩

/-- **A run that trusts the upload.**  The deployment `d1` is listed before the
redeploy; the run goes on to the domains on its success and on no other. -/
theorem laggingRun_trusts_upload :
    (provisionClientInstance laggingRuntime 1 laggingOptions).Exec
        (laggingRunBefore ++ ⟨redeployCall "client", .ok ""⟩ :: laggingRunAfter) laggingRun.2 ∧
      (∃ reply, ⟨.run serviceListArgs none, reply⟩ ∈ laggingRunBefore ∧
        Shows laggingRuntime "client" reply "SUCCESS" (.json (.str "d1"))) ∧
      (∃ e ∈ laggingRunAfter, ¬ IsPollCall e.call) ∧
      ¬ SucceedsOnNew laggingRuntime "client" (fun id => id ≠ .json (.str "d1"))
        laggingRunAfter := by
  refine ⟨laggingRun_exec, ⟨.ok deployedServices.1, ?_, deployedServices_shows⟩, ?_, ?_⟩
  · show _ ∈ laggingRun.1.take 12
    exact .tail _ (.tail _ (.tail _ (.head _)))
  · refine ⟨⟨.run (domainListArgs "client") none, .error "unreachable"⟩, ?_, ?_⟩
    · exact .tail _ (.tail _ (.tail _ (.head _)))
    · rintro (h | ⟨ms, h⟩ | h)
      · cases h
      · cases h
      · simp [domainListArgs, serviceListArgs] at h
  · rintro ⟨polled, reply, rest, id, heq, -, hshows, hnew⟩
    have hafter : laggingRunAfter = [⟨.now, (0 : ℤ)⟩, ⟨.sleep 15000, ()⟩,
        ⟨.run serviceListArgs none, .ok deployedServices.1⟩,
        ⟨.run (domainListArgs "client") none, .error "unreachable"⟩] := rfl
    have hmem : ⟨.run serviceListArgs none, reply⟩ ∈ laggingRunAfter := by
      rw [heq]
      simp
    have hreply : reply = .ok deployedServices.1 := by
      rw [hafter] at hmem
      simpa [serviceListArgs, domainListArgs] using hmem
    rw [hreply] at hshows
    exact hnew (deployedServices_shows.unique hshows).2

/-- That run, and what it trusts. -/
theorem laggingRun_decided :
    ¬ OnlyNewDecides laggingRuntime "client" (fun id => id ≠ .json (.str "d1"))
        laggingRunAfter ∧
      ((((∃ e ∈ laggingRunAfter, ¬ IsPollCall e.call) →
            SucceedsOnNew laggingRuntime "client" (fun id => id ≠ .json (.str "d1"))
              laggingRunAfter) ∧
          ∀ status, laggingRun.2 = .threw (terminalState "client" status) →
            FailsOnNew laggingRuntime "client" (fun id => id ≠ .json (.str "d1"))
              laggingRunAfter status) ↔
        OnlyNewDecides laggingRuntime "client" (fun id => id ≠ .json (.str "d1"))
          laggingRunAfter) := by
  refine ⟨?_, provisionClientInstance_trusts_new_iff _ laggingRun_exec⟩
  intro honly
  exact honly (.ok deployedServices.1) "SUCCESS" (.json (.str "d1"))
    (.tail _ (.tail _ (.head _))) deployedServices_shows (.inl rfl) rfl

end Railway
