/-
ControlPlane/Secrecy/Installer.lean

The tools of the installer in two worlds that differ in their secrets: provisioning a
client, updating a ref, rotating the gateway token.

Every piece is put beside itself, with a secret on each side (`_twin`).  A piece that
makes quiet calls only is one program in both worlds and needs no rule of its own
(`quiet_twin`).  What is read of a variable is what the two stores hold; of a secret
the programs ask only whether it is there, and whether it is empty.
-/
import ControlPlane.Railway.Rollover
import ControlPlane.Secrecy.Answers

namespace Secrecy

open Js Interaction Railway Setup

/-- Two tools that make calls which show the same, in worlds that differ in secrets. -/
abbrev Twin (rt : Runtime) {α α' : Type} (Q : Stores → α → α' → Prop) (p : Tool α) (p' : Tool α')
    (s : Stores) : Prop :=
  Prog.Lockstep (secrets rt) Q p p' s

/-- Nothing is stored, and the same is returned. -/
abbrev Equal (s : Stores) {α : Type} : Stores → α → α → Prop := fun s' a a' => s' = s ∧ a = a'

/-- Nothing is said of what is stored and returned. -/
abbrev Anything {α α' : Type} : Stores → α → α' → Prop := fun _ _ _ => True

variable {rt : Runtime} {fuel : ℕ} {s : Stores}

/-! ### Calls -/

section Calls

variable {α : Type}

/-- **Quiet programs** are the same in both worlds. -/
theorem quiet_twin {p : Tool α} (hp : p.Only Quiet) : Twin rt (Equal s) p p s := by
  apply hp.lockstep
  · exact fun c _ => sameView_refl c
  · intro s c r r' s' hc h
    obtain ⟨hs, hr⟩ := Answers.quiet h hc
    exact ⟨hs, eq_of_heq hr⟩

/-- A quiet call with a secret on each side. -/
theorem quiet_ask_twin {c c' : Call} {g : c.Reply → Except Failure α}
    {g' : c'.Reply → Except Failure α} (hview : SameView c c') (hc : Quiet c)
    (hg : ∀ r r', HEq r r' → g r = g' r') :
    Twin rt (Equal s) (Prog.ask (I := Platform) c g) (Prog.ask (I := Platform) c' g') s := by
  apply Prog.lockstep_ask hview
  intro r r' s' h
  obtain ⟨rfl, hr⟩ := Answers.quiet h hc
  rw [hg r r' hr]
  exact Prog.bothOr_refl (fun a => ⟨rfl, rfl⟩) (g' r')

theorem settled_heq {r r' : Except String α} (h : HEq r r') : settled r = settled r' := by
  rw [eq_of_heq h]

theorem pure_twin {a : α} : Twin rt (Equal s) (pure a : Tool α) (pure a) s :=
  Prog.lockstep_pure ⟨rfl, rfl⟩

theorem ofExcept_twin {x : Except Failure α} :
    Twin rt (Equal s) (Prog.ofExcept x : Tool α) (Prog.ofExcept x) s :=
  Prog.lockstep_ofExcept (Prog.bothOr_refl (fun _ => ⟨rfl, rfl⟩) x)

end Calls

/-- A command about anything but variables is quiet. -/
theorem quiet_command {command : String} {args : List String} {stdin : Option String}
    (h : command ≠ "variable") : Quiet (.run (command :: args) stdin) := by
  intro hhead
  exact h (Option.some.inj hhead)

theorem quiet_run {command : String} {args : List String} {stdin : Option String}
    (h : command ≠ "variable") : (run (command :: args) stdin).Only Quiet :=
  run_only (quiet_command h)

theorem quiet_now : now.Only Quiet := Prog.only_perform.mpr trivial

theorem quiet_sleep (ms : ℕ) : (sleep ms).Only Quiet := Prog.only_perform.mpr trivial

theorem quiet_domain {n : String} {T : ℕ} {c : Call} (h : IsDomainCall n T c) : Quiet c := by
  obtain ⟨args, rfl, rfl | rfl | ⟨domain, rfl⟩⟩ := h <;> exact quiet_command (by decide)

theorem quiet_poll {c : Call} (h : IsPollCall c) : Quiet c := by
  rcases h with rfl | ⟨ms, rfl⟩ | rfl
  · trivial
  · trivial
  · exact quiet_command (by decide)

/-! ### Variables -/

/-- What is read of a name stored as `v`. -/
def stored (name : String) (v : Option String) : Value :=
  match v with
  | some text => .json (.str text)
  | none => if name ∈ objectPrototype then .inherited name else .undefined

/-- A member of a listing is the variable that is stored. -/
theorem Shows.readMember {vars : String → Option String} {j : Json} (h : Shows vars j)
    (name : String) : Railway.readMember j name = .ok (stored name (vars name)) := by
  obtain ⟨fields, rfl, hfields⟩ := h
  show Except.ok (Json.get (.obj fields) name) = _
  have hlookup : (Json.obj fields).fields.lookup name = (vars name).map .str := hfields name
  rw [Json.get, hlookup]
  cases vars name <;> rfl

/-- A variable is read as each world has it. -/
theorem readRailwayVariable_twin (name service : String) :
    Twin rt (fun s' v v' => s' = s ∧ v = stored name (s.1 service name) ∧
        v' = stored name (s.2 service name))
      (readRailwayVariable rt name service) (readRailwayVariable rt name service) s := by
  rw [readRailwayVariable_eq]
  apply Prog.lockstep_ask SameView.run
  intro r r' s' h
  obtain ⟨rfl, ⟨j, j', hj, hj', hshow, hshow'⟩ | ⟨e, he, he'⟩⟩ := Answers.listing h
  · refine .inl ⟨_, _, ?_, ?_, rfl, rfl, rfl⟩
    · rw [variableIn, hj]
      exact hshow.readMember name
    · rw [variableIn, hj']
      exact hshow'.readMember name
  · refine .inr ⟨e, e, ?_, ?_⟩
    · rw [variableIn, he]
      rfl
    · rw [variableIn, he']
      rfl

/-- A variable is written in each world with its value. -/
theorem writeRailwayVariable_twin (name service value value' : String) (skipDeploys : Bool) :
    Twin rt (fun s' _ _ => s' = s.set service name value value')
      (writeRailwayVariable ⟨name, value, service, some skipDeploys⟩)
      (writeRailwayVariable ⟨name, value', service, some skipDeploys⟩) s := by
  rw [writeRailwayVariable_eq, writeRailwayVariable_eq]
  apply Prog.lockstep_ask SameView.run
  intro r r' s' h
  obtain ⟨rfl, rfl | ⟨rfl, message, rfl⟩⟩ := Answers.write h
  · apply Prog.bothOr_refl
    exact fun _ => rfl
  · exact .inr ⟨_, _, rfl, rfl⟩

section Stored

variable {name : String} {v v' : Option String}

/-- Of two secrets one is falsy when the other is. -/
theorem stored_truthy_eq (h : AlikeStored name v v') :
    (stored name v).truthy = (stored name v').truthy := by
  cases h with
  | unset => rfl
  | @set text text' h =>
      show (text != "") = (text' != "")
      rw [bne, bne, Bool.eq_iff_iff]
      simp [h.empty]

/-- Whether it is stored is the same in both worlds. -/
theorem stored_isUndefined_eq (h : AlikeStored name v v') :
    (stored name v).isUndefined = (stored name v').isUndefined := by
  cases h <;> rfl

/-- What is no secret is the same. -/
theorem stored_eq (h : AlikeStored name v v') (hname : name ∈ publicNames) :
    stored name v = stored name v' := by
  cases h with
  | unset => rfl
  | set h => rw [h.same hname]

end Stored

/-! ### An instance and its credentials -/

section Instance

variable {username : String} {password password' : Value}

theorem readyRounds_twin {url : String} {pollSeconds timeoutMinutes : ℕ} {deadline : ℤ} :
    Twin rt (Equal s) (readyRounds url ⟨username, password⟩ pollSeconds timeoutMinutes deadline fuel)
      (readyRounds url ⟨username, password'⟩ pollSeconds timeoutMinutes deadline fuel) s := by
  induction fuel with
  | zero => exact Prog.lockstep_diverge
  | succ fuel ih =>
      apply Prog.Lockstep.bind (quiet_ask_twin SameView.checkSetupStatus trivial fun _ _ => settled_heq)
      rintro s' lastStatus _ ⟨rfl, rfl⟩
      by_cases hready : lastStatus = 200
      · rw [if_pos hready, if_pos hready]
        exact pure_twin
      · rw [if_neg hready, if_neg hready]
        apply Prog.Lockstep.bind (quiet_twin (quiet_sleep _))
        rintro s' _ _ ⟨rfl, rfl⟩
        apply Prog.Lockstep.bind (quiet_twin quiet_now)
        rintro s' time _ ⟨rfl, rfl⟩
        by_cases htime : time < deadline
        · rw [if_pos htime, if_pos htime]
          exact ih
        · rw [if_neg htime, if_neg htime]
          exact Prog.lockstep_throw

/-- The wait goes alike under two passwords. -/
theorem waitForSetupReady_twin {url : String} {pollSeconds timeoutMinutes : ℕ} :
    Twin rt (Equal s) (waitForSetupReady fuel url ⟨username, password⟩ pollSeconds timeoutMinutes)
      (waitForSetupReady fuel url ⟨username, password'⟩ pollSeconds timeoutMinutes) s := by
  apply Prog.Lockstep.bind (quiet_twin quiet_now)
  rintro s' time _ ⟨rfl, rfl⟩
  exact readyRounds_twin

theorem getConfigRaw_twin {baseUrl : String} :
    Twin rt (Equal s) (getConfigRaw baseUrl ⟨username, password⟩)
      (getConfigRaw baseUrl ⟨username, password'⟩) s := by
  exact quiet_ask_twin SameView.getConfigRaw trivial fun _ _ => settled_heq

/-- So does the patch of the origins. -/
theorem patchAllowedOrigins_twin {baseUrl domain : String} :
    Twin rt (Equal s) (patchAllowedOrigins rt baseUrl ⟨username, password⟩ domain)
      (patchAllowedOrigins rt baseUrl ⟨username, password'⟩ domain) s := by
  apply Prog.Lockstep.bind getConfigRaw_twin
  rintro s' getResult _ ⟨rfl, rfl⟩
  cases getResult.ok with
  | false => exact Prog.lockstep_throw
  | true =>
      apply Prog.Lockstep.bind ofExcept_twin
      rintro s' plan _ ⟨rfl, rfl⟩
      cases plan with
      | alreadyPresent => exact pure_twin
      | refuse => exact pure_twin
      | post config =>
          apply Prog.Lockstep.bind (quiet_ask_twin SameView.postConfigRaw trivial fun _ _ => settled_heq)
          rintro s' posted _ ⟨rfl, rfl⟩
          cases posted with
          | false => exact Prog.lockstep_throw
          | true =>
              apply Prog.Lockstep.bind getConfigRaw_twin
              rintro s' verifyResult _ ⟨rfl, rfl⟩
              exact ofExcept_twin

/-- So does the pairing. -/
theorem approveOwnDevicePairing_twin {baseUrl : String} :
    Twin rt (Equal s) (approveOwnDevicePairing baseUrl ⟨username, password⟩)
      (approveOwnDevicePairing baseUrl ⟨username, password'⟩) s := by
  apply Prog.Lockstep.bind (quiet_ask_twin SameView.getPendingDevices trivial fun _ _ => settled_heq)
  rintro s' pending _ ⟨rfl, rfl⟩
  cases pending.ok with
  | false => exact pure_twin
  | true =>
      apply Prog.Lockstep.bind ofExcept_twin
      rintro s' requestId _ ⟨rfl, rfl⟩
      cases requestId with
      | none => exact pure_twin
      | some requestId =>
          apply Prog.Lockstep.bind (quiet_ask_twin SameView.approveDevice trivial fun _ _ => settled_heq)
          rintro s' approved _ ⟨rfl, rfl⟩
          cases approved with
          | false => exact Prog.lockstep_throw
          | true => exact pure_twin

end Instance

theorem listDomains_quiet {service : String} : (listDomains rt service).Only Quiet := by
  have h : (listDomains rt service).Only (IsDomainCall service 0) := listDomains_only
  exact h.mono fun _ hc => quiet_domain hc

/-- The readiness check is the same, whatever the setup password is. -/
theorem assertInstanceReady_twin (hs : AlikeStores s) (params : ReadyParams)
    (context : Option String) :
    Twin rt (Equal s) (assertInstanceReady rt fuel params context)
      (assertInstanceReady rt fuel params context) s := by
  apply Prog.Lockstep.bind (readRailwayVariable_twin _ _)
  rintro s' setupPassword setupPassword' ⟨rfl, hpassword, hpassword'⟩
  have htruthy : setupPassword.truthy = setupPassword'.truthy := by
    rw [hpassword, hpassword']
    exact stored_truthy_eq (hs _ _)
  rw [htruthy]
  by_cases hset : setupPassword'.truthy = false
  · rw [if_pos hset, if_pos hset]
    exact Prog.lockstep_throw
  · rw [if_neg hset, if_neg hset]
    apply Prog.Lockstep.bind (quiet_twin listDomains_quiet)
    rintro s' listed _ ⟨rfl, rfl⟩
    apply Prog.Lockstep.bind ofExcept_twin
    rintro s' domain _ ⟨rfl, rfl⟩
    cases domain with
    | none => exact Prog.lockstep_throw
    | some domain =>
        apply waitForSetupReady_twin.tryCatch
        intro s' e e'
        cases context <;> exact Prog.lockstep_throw

/-! ### Changing a variable of a live service -/

theorem listServices_quiet : (listServices rt).Only Quiet := by
  rw [listServices_eq]
  exact Prog.only_ask (quiet_command (by decide))

theorem currentDeploymentId_quiet {service : String} :
    (currentDeploymentId rt service).Only Quiet := by
  apply listServices_quiet.bind
  intro services
  apply Prog.only_ofExcept.bind
  intro found
  exact Prog.only_pure

theorem redeploy_quiet {service : String} : (run (redeployArgs service) none).Only Quiet :=
  quiet_run (by decide)

/-- The write of a live variable: of the two targets only the value and the texts may
differ. -/
structure SameTarget (w w' : LiveWrite) : Prop where
  name : w.name = w'.name
  ready : w.ready = w'.ready

section LiveWrite

variable {w w' : LiveWrite} {priorDeploymentId : Value}

/-- After the write each world reads back what it wrote. -/
theorem confirmWrite_twin (hw : SameTarget w w') (hs : AlikeStores s)
    (hnext : s.1 w.ready.service w.name = some w.next)
    (hnext' : s.2 w.ready.service w.name = some w'.next) :
    Twin rt Anything (confirmWrite rt fuel w priorDeploymentId)
      (confirmWrite rt fuel w' priorDeploymentId) s := by
  rw [confirmWrite, confirmWrite, ← hw.name, ← hw.ready]
  apply Prog.Lockstep.bind (quiet_twin redeploy_quiet)
  rintro s' _ _ ⟨rfl, rfl⟩
  apply Prog.Lockstep.bind
    (quiet_twin ((pollServiceUntilSuccess_only _ _).mono fun _ hc => quiet_poll hc))
  rintro s' _ _ ⟨rfl, rfl⟩
  apply Prog.Lockstep.bind (assertInstanceReady_twin hs _ _)
  rintro s' _ _ ⟨rfl, rfl⟩
  apply Prog.Lockstep.bind ((readRailwayVariable_twin _ _).tryCatch fun _ _ _ =>
    Prog.lockstep_throw)
  rintro s' applied applied' ⟨rfl, happlied, happlied'⟩
  have hread : applied.isString w.next = true := by
    rw [happlied, hnext]
    exact isString_iff.mpr rfl
  have hread' : applied'.isString w'.next = true := by
    rw [happlied', hnext']
    exact isString_iff.mpr rfl
  rw [if_pos hread, if_pos hread']
  trivial

theorem Store.set_self {vars : Store} {service name value : String} :
    vars.set service name value service name = some value :=
  if_pos ⟨rfl, rfl⟩

/-- A secret is written and confirmed in lockstep. -/
theorem writeAndConfirm_twin (hw : SameTarget w w') (hs : AlikeStores s)
    (hvalues : AlikeTexts w.name w.next w'.next) :
    Twin rt Anything (writeAndConfirm rt fuel w priorDeploymentId)
      (writeAndConfirm rt fuel w' priorDeploymentId) s := by
  rw [writeAndConfirm, writeAndConfirm, ← hw.name, ← hw.ready]
  apply Prog.Lockstep.bind ((writeRailwayVariable_twin _ _ _ _ _).tryCatch fun _ _ _ =>
    Prog.lockstep_throw)
  rintro s' _ _ rfl
  apply (confirmWrite_twin hw (hs.set hvalues) Store.set_self Store.set_self).tryCatch
  intro s' e e'
  split <;> split <;> exact Prog.lockstep_throw

end LiveWrite

/-- The reference is updated in lockstep. -/
theorem updateClientRefVariable_twin (hs : AlikeStores s) (params : UpdateRefParams) :
    Twin rt Anything (updateClientRefVariable rt fuel params)
      (updateClientRefVariable rt fuel params) s := by
  have hpublic : params.variableName.name ∈ publicNames := by
    cases params.variableName <;> decide
  apply Prog.Lockstep.bind (readRailwayVariable_twin _ _)
  rintro s' current current' ⟨rfl, rfl, rfl⟩
  -- the ref is no secret, so both worlds plan the same
  rw [stored_eq (hs _ _) hpublic]
  cases planUpdate params _ with
  | refuse e => exact Prog.lockstep_throw
  | alreadyCurrent =>
      apply Prog.Lockstep.bind (assertInstanceReady_twin hs _ _)
      rintro s' _ _ ⟨rfl, rfl⟩
      trivial
  | write =>
      apply Prog.Lockstep.bind (quiet_twin currentDeploymentId_quiet)
      rintro s' priorDeploymentId _ ⟨rfl, rfl⟩
      by_cases hprior : priorDeploymentId.isUndefined = true
      · rw [if_pos hprior]
        exact Prog.lockstep_throw
      · rw [if_neg hprior]
        apply Prog.Lockstep.bind (writeAndConfirm_twin ⟨rfl, rfl⟩ hs ⟨Iff.rfl, fun _ => rfl⟩)
        intro s' _ _ _
        trivial

/-- A secret is drawn in each world. -/
theorem createSecret_twin (bytes : ℕ) (secretPrefix : String) :
    Twin rt (fun s' secret secret' => s' = s ∧ (secret = "" ↔ secret' = ""))
      (createSecret bytes secretPrefix) (createSecret bytes secretPrefix) s := by
  have hdraw : Twin rt (fun s' (text text' : String) => s' = s ∧ (text = "" ↔ text' = ""))
      (Prog.perform (I := Platform) (.randomBytes bytes))
      (Prog.perform (I := Platform) (.randomBytes bytes)) s :=
    Prog.lockstep_perform SameView.randomBytes fun _ _ _ h => h.random
  apply hdraw.bind
  rintro s' text text' ⟨rfl, htext⟩
  exact ⟨rfl, by rw [String.append_eq_empty_iff, String.append_eq_empty_iff, htext]⟩

/-- The token is rotated in lockstep. -/
theorem rotateGatewayToken_twin (hs : AlikeStores s) (options : RotateGatewayTokenOptions) :
    Twin rt Anything (rotateGatewayToken rt fuel options)
      (rotateGatewayToken rt fuel options) s := by
  apply Prog.Lockstep.bind (readRailwayVariable_twin _ _)
  rintro s' current current' ⟨rfl, rfl, rfl⟩
  rw [stored_isUndefined_eq (hs _ _)]
  by_cases hset : (stored GATEWAY_TOKEN (s'.2 options.service GATEWAY_TOKEN)).isUndefined = true
  · rw [if_pos hset]
    exact Prog.lockstep_throw
  · rw [if_neg hset]
    apply Prog.Lockstep.bind (quiet_twin currentDeploymentId_quiet)
    rintro s' priorDeploymentId _ ⟨rfl, rfl⟩
    by_cases hprior : priorDeploymentId.isUndefined = true
    · rw [if_pos hprior]
      exact Prog.lockstep_throw
    · rw [if_neg hprior]
      apply (createSecret_twin 32 "").bind
      rintro s' next next' ⟨rfl, hnext⟩
      have hvalues : AlikeTexts GATEWAY_TOKEN next next' := by
        refine ⟨hnext, fun hpublic => absurd hpublic ?_⟩
        decide
      have htarget : SameTarget (options.liveWrite next) (options.liveWrite next') := ⟨rfl, rfl⟩
      apply (writeAndConfirm_twin htarget hs hvalues).bind
      intro s' _ _ _
      trivial

/-! ### Provisioning -/

theorem writeVariables_twin {service : String} {entries entries' : List (String × String)}
    (h : List.Forall₂ (fun e e' => e.1 = e'.1) entries entries') :
    Twin rt Anything (writeVariables service entries) (writeVariables service entries') s := by
  induction h generalizing s with
  | nil => trivial
  | @cons entry entry' entries entries' hname _ ih =>
      obtain ⟨name, value⟩ := entry
      obtain ⟨_, value'⟩ := entry'
      obtain rfl : name = _ := hname
      apply Prog.Lockstep.bind (writeRailwayVariable_twin _ _ _ _ _)
      intro s' _ _ _
      exact ih

/-- Options that agree but for the two secrets. -/
def SameOptions (options options' : ResolvedProvisionOptions) : Prop :=
  ∃ setupPassword gatewayToken,
    options' = { options with setupPassword := setupPassword, gatewayToken := gatewayToken }

section Provision

variable {options options' : ResolvedProvisionOptions}

/-- A service is deployed in lockstep. -/
theorem deployCreated_twin (ho : SameOptions options options') (name : String) :
    Twin rt (fun _ service service' => service = service') (deployCreated rt fuel options name)
      (deployCreated rt fuel options' name) s := by
  obtain ⟨setupPassword, gatewayToken, rfl⟩ := ho
  apply Prog.Lockstep.bind (quiet_twin (quiet_run (by decide)))
  rintro s' _ _ ⟨rfl, rfl⟩
  apply Prog.Lockstep.bind (quiet_twin (quiet_run (by decide)))
  rintro s' _ _ ⟨rfl, rfl⟩
  apply (writeVariables_twin _).bind
  · intro s' _ _ _
    apply Prog.Lockstep.bind (quiet_twin redeploy_quiet)
    rintro s' _ _ ⟨rfl, rfl⟩
    apply (quiet_twin ((pollServiceUntilSuccess_only _ _).mono fun _ hc => quiet_poll hc)).mono
    exact fun s' service service' h => h.2
  · exact .cons rfl (.cons rfl (.cons rfl (.cons rfl (.cons rfl (.cons rfl .nil)))))

theorem bootstrapService_twin (ho : SameOptions options options') (servicesBefore : Json) :
    Twin rt (fun _ service service' => service = service')
      (bootstrapService rt fuel options servicesBefore)
      (bootstrapService rt fuel options' servicesBefore) s := by
  have hname : options'.clientName = options.clientName := by
    obtain ⟨setupPassword, gatewayToken, rfl⟩ := ho
    rfl
  rw [bootstrapService, bootstrapService, hname]
  apply Prog.Lockstep.bind (quiet_twin (quiet_run (by decide)))
  rintro s' _ _ ⟨rfl, rfl⟩
  apply Prog.Lockstep.bind ofExcept_twin
  rintro s' beforeIds _ ⟨rfl, rfl⟩
  apply Prog.Lockstep.bind (quiet_twin listServices_quiet)
  rintro s' servicesAfter _ ⟨rfl, rfl⟩
  apply Prog.Lockstep.bind ofExcept_twin
  rintro s' name _ ⟨rfl, rfl⟩
  exact deployCreated_twin ho name

theorem storedCredential_twin (hs : AlikeStores s) (kind : FailureKind)
    (variableName service : String) :
    Twin rt (fun s' _ _ => s' = s) (storedCredential rt kind variableName service)
      (storedCredential rt kind variableName service) s := by
  apply Prog.Lockstep.bind (readRailwayVariable_twin _ _)
  rintro s' value value' ⟨rfl, hvalue, hvalue'⟩
  have htruthy : value.truthy = value'.truthy := by
    rw [hvalue, hvalue']
    exact stored_truthy_eq (hs _ _)
  rw [htruthy]
  cases value'.truthy with
  | false => exact Prog.lockstep_throw
  | true => exact Prog.lockstep_pure rfl

/-- The credentials are there in both worlds, or in none. -/
theorem storedCredentials_twin (hs : AlikeStores s) (service : String) :
    Twin rt Anything (storedCredentials rt service) (storedCredentials rt service) s := by
  apply (storedCredential_twin hs _ _ _).bind
  rintro s' setupPassword setupPassword' rfl
  apply (storedCredential_twin hs _ _ _).bind
  rintro s' gatewayToken gatewayToken' rfl
  trivial

theorem ensureDomainPort_quiet {service : String} {port : ℕ} :
    (ensureDomainPort rt service port).Only Quiet :=
  ensureDomainPort_only.mono fun _ hc => quiet_domain hc

/-- An instance is brought up in lockstep under two passwords. -/
theorem bringUp_twin {service : Json} {targetPort pollSeconds timeoutMinutes : ℕ}
    {username : String} {password password' : Value} :
    Twin rt Anything
      (bringUp rt fuel service targetPort pollSeconds timeoutMinutes ⟨username, password⟩)
      (bringUp rt fuel service targetPort pollSeconds timeoutMinutes ⟨username, password'⟩) s := by
  apply Prog.Lockstep.bind ofExcept_twin
  rintro s' name _ ⟨rfl, rfl⟩
  apply Prog.Lockstep.bind (quiet_twin ensureDomainPort_quiet)
  rintro s' routed _ ⟨rfl, rfl⟩
  apply Prog.Lockstep.bind ofExcept_twin
  rintro s' domain _ ⟨rfl, rfl⟩
  apply Prog.Lockstep.bind waitForSetupReady_twin
  rintro s' _ _ ⟨rfl, rfl⟩
  apply Prog.Lockstep.bind patchAllowedOrigins_twin
  rintro s' allowedOrigins _ ⟨rfl, rfl⟩
  apply Prog.Lockstep.bind approveOwnDevicePairing_twin
  rintro s' deviceApproval _ ⟨rfl, rfl⟩
  trivial

theorem writeLocalText_twin {path contents contents' : String} :
    Twin rt (Equal s) (writeLocalText path contents) (writeLocalText path contents') s := by
  apply Prog.Lockstep.bind (quiet_ask_twin SameView.makeDirectory trivial fun _ _ => settled_heq)
  rintro s' _ _ ⟨rfl, rfl⟩
  exact quiet_ask_twin SameView.writeText trivial fun _ _ => settled_heq

/-- The local files hold the secrets; the calls do not show what is written. -/
theorem writeMergedEnv_twin {path : String} {entries entries' : List (String × String)} :
    Twin rt Anything (writeMergedEnv path entries) (writeMergedEnv path entries') s := by
  have hquiet : (Prog.ask (I := Platform) (.readText path) settled).Only Quiet :=
    Prog.only_ask trivial
  have hread : Twin rt Anything (Prog.ask (I := Platform) (.readText path) settled)
      (Prog.ask (I := Platform) (.readText path) settled) s :=
    (quiet_twin hquiet).mono fun _ _ _ _ => trivial
  apply (hread.tryCatch fun _ _ _ => Prog.lockstep_pure trivial).bind
  intro s' existing existing' _
  apply writeLocalText_twin.mono
  exact fun _ _ _ _ => trivial

/-- The files are written in lockstep. -/
theorem handOver_twin (ho : SameOptions options options') (result result' : ProvisionClientResult) :
    Twin rt Anything (handOver options result) (handOver options' result') s := by
  obtain ⟨setupPassword, gatewayToken, rfl⟩ := ho
  rw [handOver, handOver]
  cases options.writeLocalFiles with
  | false => trivial
  | true =>
      apply writeMergedEnv_twin.bind
      intro s' _ _ _
      apply writeLocalText_twin.bind
      intro s' _ _ _
      trivial

/-- What follows once the service is there goes in lockstep. -/
theorem finishProvision_twin (ho : SameOptions options options') {service : Json}
    {credentials credentials' : Credentials} {reused : Bool} :
    Twin rt Anything (finishProvision rt fuel options service credentials reused)
      (finishProvision rt fuel options' service credentials' reused) s := by
  have hsame : options'.targetPort = options.targetPort ∧
      options'.pollSeconds = options.pollSeconds ∧
      options'.timeoutMinutes = options.timeoutMinutes ∧
      options'.setupUsername = options.setupUsername := by
    obtain ⟨setupPassword, gatewayToken, rfl⟩ := ho
    exact ⟨rfl, rfl, rfl, rfl⟩
  rw [finishProvision, finishProvision, hsame.1, hsame.2.1, hsame.2.2.1, hsame.2.2.2]
  apply bringUp_twin.bind
  intro s' i i' _
  exact handOver_twin ho _ _

/-- So does provisioning with its options resolved. -/
theorem provisionResolved_twin (hs : AlikeStores s) (ho : SameOptions options options') :
    Twin rt Anything (provisionResolved rt fuel options) (provisionResolved rt fuel options') s := by
  have hlink : linkProject options' = linkProject options := by
    obtain ⟨setupPassword, gatewayToken, rfl⟩ := ho
    rfl
  have hexisting : existingService options' = existingService options := by
    obtain ⟨setupPassword, gatewayToken, rfl⟩ := ho
    rfl
  have hquiet : (linkProject options).Only Quiet := by
    unfold linkProject
    split <;> exact quiet_run (by decide)
  rw [provisionResolved, provisionResolved, hlink, hexisting]
  apply (quiet_twin hquiet).bind
  rintro s' _ _ ⟨rfl, rfl⟩
  apply Prog.Lockstep.bind (quiet_twin listServices_quiet)
  rintro s' servicesBefore _ ⟨rfl, rfl⟩
  apply Prog.Lockstep.bind ofExcept_twin
  rintro s' existing _ ⟨rfl, rfl⟩
  cases existing with
  | some existing =>
      apply Prog.Lockstep.bind ofExcept_twin
      rintro s' service _ ⟨rfl, rfl⟩
      apply Prog.Lockstep.bind ofExcept_twin
      rintro s' name _ ⟨rfl, rfl⟩
      apply (storedCredentials_twin hs name).bind
      intro s' credentials credentials' _
      exact finishProvision_twin ho
  | none =>
      apply (bootstrapService_twin ho servicesBefore).bind
      rintro s' service _ rfl
      exact finishProvision_twin ho

theorem secretOr_twin (option : Option String) (bytes : ℕ) (secretPrefix : String) :
    Twin rt (fun s' _ _ => s' = s) (secretOr option bytes secretPrefix)
      (secretOr option bytes secretPrefix) s := by
  cases option with
  | some secret => exact Prog.lockstep_pure rfl
  | none => exact (createSecret_twin bytes secretPrefix).mono fun _ _ _ h => h.1

/-- Secrets that are drawn differ; the other options are the same. -/
theorem resolveProvisionOptions_twin (options : ProvisionClientOptions) :
    Twin rt (fun s' resolved resolved' => s' = s ∧ SameOptions resolved resolved')
      (resolveProvisionOptions options) (resolveProvisionOptions options) s := by
  have hquiet : (resolveTemplateRef options.templateRef).Only Quiet := by
    cases options.templateRef with
    | some templateRef => exact Prog.only_pure
    | none => exact Prog.only_ask trivial
  apply (quiet_twin hquiet).bind
  rintro s' templateRef _ ⟨rfl, rfl⟩
  apply (secretOr_twin _ _ _).bind
  rintro s' setupPassword setupPassword' rfl
  apply (secretOr_twin _ _ _).bind
  rintro s' gatewayToken gatewayToken' rfl
  exact Prog.lockstep_pure ⟨rfl, setupPassword', gatewayToken', rfl⟩

/-- Provisioning goes in lockstep. -/
theorem provisionClientInstance_twin (hs : AlikeStores s) (options : ProvisionClientOptions) :
    Twin rt Anything (provisionClientInstance rt fuel options)
      (provisionClientInstance rt fuel options) s := by
  apply (resolveProvisionOptions_twin options).bind
  rintro s' resolved resolved' ⟨rfl, ho⟩
  exact provisionResolved_twin hs ho

end Provision

end Secrecy
