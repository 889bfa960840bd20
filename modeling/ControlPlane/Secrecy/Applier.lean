/-
ControlPlane/Secrecy/Applier.lean

The applier and the regression check in two worlds that differ in their secrets, and
the statement about all six tools.

The applier looks up the profile's secrets in one listing.  It asks whether a secret is
there; the value goes into the payload, and the body of a request is not shown.  Of a
key that is minted the hash is no secret, and the deletion names it.
-/
import ControlPlane.Secrecy.Installer

namespace Secrecy

open Js Interaction Railway Setup

variable {rt : Runtime} {fuel : ℕ} {s : Stores}

/-! ### A listing of the variables -/

/-- The variables of a service, as each world has them. -/
theorem listRailwayVariables_twin (service : String) :
    Twin rt (fun s' j j' => s' = s ∧ Shows (s.1 service) j ∧ Shows (s.2 service) j')
      (listRailwayVariables rt service) (listRailwayVariables rt service) s := by
  rw [listRailwayVariables_eq]
  apply Prog.lockstep_ask SameView.run
  intro r r' s' h
  obtain ⟨rfl, ⟨j, j', hj, hj', hshow, hshow'⟩ | ⟨e, he, he'⟩⟩ := Answers.listing h
  · exact .inl ⟨j, j', hj, hj', rfl, hshow, hshow'⟩
  · exact .inr ⟨e, e, he, he'⟩

/-- Two listings show the same names. -/
def SameNames (vars vars' : Json) : Prop :=
  ∀ name, ∃ v v', readMember vars name = .ok v ∧ readMember vars' name = .ok v' ∧
    v.isUndefined = v'.isUndefined

/-- The names of the variables are the same in both worlds. -/
theorem sameNames {service : String} (hs : AlikeStores s) {vars vars' : Json}
    (h : Shows (s.1 service) vars) (h' : Shows (s.2 service) vars') : SameNames vars vars' := by
  intro name
  exact ⟨_, _, h.readMember name, h'.readMember name, stored_isUndefined_eq (hs service name)⟩

/-! ### Minting -/

/-- Two bodies that differ in the key have the same members otherwise. -/
theorem lookup_key (before after : List (String × Json)) (key key' name : String) :
    (before ++ ("key", .str key) :: after).lookup name =
        (before ++ ("key", .str key') :: after).lookup name ∨
      name = "key" ∧ (before ++ ("key", .str key) :: after).lookup name = some (.str key) ∧
        (before ++ ("key", .str key') :: after).lookup name = some (.str key') := by
  induction before with
  | nil =>
      by_cases hname : name = "key"
      · subst hname
        exact .inr ⟨rfl, rfl, rfl⟩
      · left
        rw [List.nil_append, List.nil_append, List.lookup_cons, List.lookup_cons,
          beq_false_of_ne hname]
  | cons field before ih =>
      obtain ⟨member, v⟩ := field
      rw [List.cons_append, List.cons_append, List.lookup_cons, List.lookup_cons]
      cases name == member
      · exact ih
      · exact .inl rfl

/-- Two secrets are keys, or neither is. -/
theorem filledText_isSome_eq {key key' : String} (h : key = "" ↔ key' = "") :
    (filledText (.json (.str key))).isSome = (filledText (.json (.str key'))).isSome := by
  have hfilled : ∀ text, (filledText (.json (.str text))).isSome = !decide (text = "") := by
    intro text
    by_cases htext : text = "" <;> simp [filledText, Value.asString, htext]
  rw [hfilled, hfilled, decide_eq_decide.mpr h]

/-- The hash of the key does not depend on the key. -/
theorem keyIn_bothOr {before after : List (String × Json)} {key key' : String}
    (h : key = "" ↔ key' = "") :
    Prog.BothOr (fun minted minted' => minted.hash = minted'.hash)
      (keyIn (.obj (before ++ ("key", .str key) :: after)))
      (keyIn (.obj (before ++ ("key", .str key') :: after))) := by
  have hget : ∀ fields name, readMember (.obj fields) name = .ok ((Json.obj fields).get name) :=
    fun _ _ => rfl
  have hdata : (Json.obj (before ++ ("key", .str key) :: after)).get "data" =
      (Json.obj (before ++ ("key", .str key') :: after)).get "data" := by
    rcases lookup_key before after key key' "data" with hsame | ⟨hname, -⟩
    · rw [Json.get, Json.get, Json.fields, Json.fields, hsame]
    · exact absurd hname (by decide)
  have hkey : (filledText ((Json.obj (before ++ ("key", .str key) :: after)).get "key")).isSome =
      (filledText ((Json.obj (before ++ ("key", .str key') :: after)).get "key")).isSome := by
    rcases lookup_key before after key key' "key" with hsame | ⟨-, hleft, hright⟩
    · rw [Json.get, Json.get, Json.fields, Json.fields, hsame]
    · rw [Json.get, Json.get, Json.fields, Json.fields, hleft, hright]
      exact filledText_isSome_eq h
  have hread : Prog.BothOr (fun v v' => (filledText v).isSome = (filledText v').isSome)
      (readMember (.obj (before ++ ("key", .str key) :: after)) "key")
      (readMember (.obj (before ++ ("key", .str key') :: after)) "key") :=
    .inl ⟨_, _, hget _ _, hget _ _, hkey⟩
  have hreadData : Prog.BothOr (fun v v' => v = v')
      (readMember (.obj (before ++ ("key", .str key) :: after)) "data")
      (readMember (.obj (before ++ ("key", .str key') :: after)) "data") :=
    .inl ⟨_, _, hget _ _, hget _ _, hdata⟩
  apply hread.bind
  intro v v' hfilled
  cases hv : filledText v with
  | none =>
      cases hv' : filledText v' with
      | none => exact .inr ⟨_, _, rfl, rfl⟩
      | some text' =>
          rw [hv, hv'] at hfilled
          cases hfilled
  | some text =>
      cases hv' : filledText v' with
      | none =>
          rw [hv, hv'] at hfilled
          cases hfilled
      | some text' =>
          apply hreadData.bind
          rintro data _ rfl
          cases filledText (data.chain "hash") with
          | none => exact .inr ⟨_, _, rfl, rfl⟩
          | some hash => exact .inl ⟨_, _, rfl, rfl, rfl⟩

/-- The two keys have one hash, or there is none in either world. -/
theorem mintedKey_bothOr {r r' : Response} (h : DifferInKey r r') :
    Prog.BothOr (fun minted minted' => minted.hash = minted'.hash) (mintedKey (.ok r))
      (mintedKey (.ok r')) := by
  obtain ⟨status, json⟩ := r
  obtain ⟨status', json'⟩ := r'
  obtain ⟨hstatus, before, after, key, key', hjson, hjson', hkey⟩ := h
  obtain rfl : status = status' := hstatus
  obtain rfl : json = _ := hjson
  obtain rfl : json' = _ := hjson'
  show Prog.BothOr _ (if Response.ok _ then _ else _) (if Response.ok _ then _ else _)
  by_cases hok : 200 ≤ status ∧ status < 300
  · have htrue : ∀ json, (⟨status, json⟩ : Response).ok = true := by
      intro json
      simp [Response.ok, hok.1, hok.2]
    rw [htrue, htrue]
    exact keyIn_bothOr hkey
  · have hfalse : ∀ json, (⟨status, json⟩ : Response).ok = false := by
      intro json
      simpa [Response.ok] using hok
    rw [hfalse, hfalse]
    exact .inr ⟨_, _, rfl, rfl⟩

theorem mintOpenRouterKey_twin (request : MintKeyRequest) (managementKey : String) :
    Twin rt (fun s' minted minted' => s' = s ∧ minted.hash = minted'.hash)
      (mintOpenRouterKey request managementKey) (mintOpenRouterKey request managementKey) s := by
  apply Prog.lockstep_ask SameView.fetch
  intro r r' s' h
  obtain ⟨rfl, rfl | ⟨x, x', rfl, rfl, hkey⟩⟩ := Answers.mint h
  · apply Prog.bothOr_refl
    exact fun _ => ⟨rfl, rfl⟩
  · obtain ⟨a, a', ha, ha', hhash⟩ | herror := mintedKey_bothOr hkey
    · exact .inl ⟨a, a', ha, ha', rfl, hhash⟩
    · exact .inr herror

/-! ### The applier -/

theorem quiet_get {request : FetchRequest} (h : request.method = "GET") : Quiet (.fetch request) := by
  rintro ⟨hpost, -⟩
  exact absurd (h.symm.trans hpost) (by decide)

theorem getStatus_quiet {client : SetupApiClient} : client.getStatus.Only Quiet :=
  Prog.only_ask (quiet_get rfl)

section Apply

variable {vars vars' : Json} {service : String}

/-- What is known of the provider's secret: whether it is there. -/
inductive SameSecret : ProviderSecret → ProviderSecret → Prop
  | stored {v v' : Value} : SameSecret (.stored v) (.stored v')
  | toMint {secretName : String} {keyProvisioning : KeyProvisioning} :
      SameSecret (.toMint secretName keyProvisioning) (.toMint secretName keyProvisioning)

/-- The provider's secret is there in both worlds, or in none. -/
theorem providerSecret_bothOr (h : SameNames vars vars') (provider : ModelProviderAttachment) :
    Prog.BothOr SameSecret (providerSecret provider vars service)
      (providerSecret provider vars' service) := by
  rw [providerSecret, providerSecret]
  cases provider.requiredSecretNames.head? with
  | none => exact .inr ⟨_, _, rfl, rfl⟩
  | some secretName =>
      obtain ⟨v, v', hv, hv', hset⟩ := h secretName
      have hread : Prog.BothOr (fun v v' => v.isUndefined = v'.isUndefined)
          (readMember vars secretName) (readMember vars' secretName) := .inl ⟨v, v', hv, hv', hset⟩
      apply hread.bind
      intro existing existing' hexisting
      rw [hexisting]
      cases existing'.isUndefined with
      | false => exact .inl ⟨_, _, rfl, rfl, .stored⟩
      | true =>
          cases provider.keyProvisioning with
          | none => exact .inr ⟨_, _, rfl, rfl⟩
          | some keyProvisioning => exact .inl ⟨_, _, rfl, rfl, .toMint⟩

/-- What follows the provider may ask whether a redeploy was triggered, and no more. -/
def SameResolution (resolution resolution' : ProviderResolution) : Prop :=
  resolution.triggeredRedeploy = resolution'.triggeredRedeploy

theorem resolveProviderSecret_twin (h : SameNames vars vars') (provider : ModelProviderAttachment)
    (managementKey : String) :
    Twin rt (fun _ resolution resolution' =>
        resolution.triggeredRedeploy = resolution'.triggeredRedeploy)
      (resolveProviderSecret provider vars service managementKey)
      (resolveProviderSecret provider vars' service managementKey) s := by
  have hsecret : Twin rt (fun s' secret secret' => s' = s ∧ SameSecret secret secret')
      (Prog.ofExcept (providerSecret provider vars service))
      (Prog.ofExcept (providerSecret provider vars' service)) s := by
    apply Prog.lockstep_ofExcept
    obtain ⟨secret, secret', hs, hs', hsame⟩ | herror := providerSecret_bothOr h provider
    · exact .inl ⟨secret, secret', hs, hs', rfl, hsame⟩
    · exact .inr herror
  apply hsecret.bind
  rintro s' secret secret' ⟨rfl, hsame⟩
  cases hsame with
  | stored => exact Prog.lockstep_pure rfl
  | toMint =>
      apply (mintOpenRouterKey_twin _ _).bind
      rintro s' minted minted' ⟨rfl, -⟩
      apply (writeRailwayVariable_twin _ _ _ _ _).bind
      intro s' _ _ _
      exact Prog.lockstep_pure rfl

/-- Both worlds resolve the provider, and redeploy alike. -/
theorem resolveProvider_twin (h : SameNames vars vars') (provider : Option ModelProviderAttachment)
    (managementKey : String) :
    Twin rt (fun _ => SameResolution) (resolveProvider provider vars service managementKey)
      (resolveProvider provider vars' service managementKey) s := by
  cases provider with
  | none => exact Prog.lockstep_pure rfl
  | some provider =>
      apply (resolveProviderSecret_twin h provider managementKey).bind
      intro s' resolution resolution' hsame
      exact Prog.lockstep_pure hsame

theorem fillFields_bothOr (h : SameNames vars vars') (mappings : List ChannelFieldMapping) :
    Prog.BothOr (fun _ _ => True) (fillFields vars service mappings)
      (fillFields vars' service mappings) := by
  induction mappings with
  | nil => exact .inl ⟨_, _, rfl, rfl, trivial⟩
  | cons mapping rest ih =>
      have hsecret : Prog.BothOr (fun _ _ => True) (requiredSecret vars service mapping.secretName)
          (requiredSecret vars' service mapping.secretName) := by
        obtain ⟨v, v', hv, hv', hset⟩ := h mapping.secretName
        have hread : Prog.BothOr (fun v v' => v.isUndefined = v'.isUndefined)
            (readMember vars mapping.secretName) (readMember vars' mapping.secretName) :=
          .inl ⟨v, v', hv, hv', hset⟩
        apply hread.bind
        intro value value' hvalue
        rw [hvalue]
        cases value'.isUndefined with
        | true => exact .inr ⟨_, _, rfl, rfl⟩
        | false => exact .inl ⟨_, _, rfl, rfl, trivial⟩
      apply hsecret.bind
      intro value value' _
      apply ih.bind
      intro others others' _
      exact .inl ⟨_, _, rfl, rfl, trivial⟩

/-- The secrets of the channels are there in both worlds, or in none. -/
theorem channelFields_bothOr (h : SameNames vars vars') (channels : List ChannelAttachment) :
    Prog.BothOr (fun _ _ => True) (channelFields vars service channels)
      (channelFields vars' service channels) := by
  apply Prog.BothOr.bind (Prog.bothOr_refl (fun _ => rfl) (mapChannelsToPayloadFields channels))
  rintro mappings _ rfl
  exact fillFields_bothOr h mappings

/-- The wait for a redeploy reads no secret. -/
theorem settleRedeploy_quiet {options : ApplyOptions} {redeployTriggered : Bool} :
    (settleRedeploy fuel options redeployTriggered).Only Quiet :=
  settleRedeploy_only (quiet_get rfl) trivial fun _ => trivial

/-- The payloads differ in the secrets; the call does not show them. -/
theorem runSetup_twin {client : SetupApiClient} {payload payload' : Json}
    {mintedKeyHash mintedKeyHash' : Option String} :
    Twin rt Anything (runSetup client payload mintedKeyHash)
      (runSetup client payload' mintedKeyHash') s := by
  have hview : SameView (.fetch (postRequest client "/setup/api/run" payload))
      (.fetch (postRequest client "/setup/api/run" payload')) := .fetch
  apply Prog.Lockstep.bind (quiet_ask_twin hview (elsewhere_run payload).1 fun r r' h => by
    rw [eq_of_heq h])
  rintro s' _ _ ⟨rfl, rfl⟩
  apply Prog.Lockstep.bind (quiet_twin getStatus_quiet)
  rintro s' status _ ⟨rfl, rfl⟩
  cases isConfigured status with
  | true => trivial
  | false => exact Prog.lockstep_throw

/-- The attachments are applied in lockstep. -/
theorem applyAttachments_twin (h : SameNames vars vars') (profile : ClientProfile)
    (options : ApplyOptions) (dependencies : ApplyProfileDependencies) :
    Twin rt Anything (applyAttachments fuel profile vars options dependencies)
      (applyAttachments fuel profile vars' options dependencies) s := by
  apply Prog.Lockstep.bind ofExcept_twin
  rintro s' provider _ ⟨rfl, rfl⟩
  apply (resolveProvider_twin h provider _).bind
  intro s' resolution resolution' hsame
  have hchannels : Twin rt Anything
      (Prog.ofExcept (channelFields vars options.service profile.channels))
      (Prog.ofExcept (channelFields vars' options.service profile.channels)) s' :=
    Prog.lockstep_ofExcept (channelFields_bothOr h profile.channels)
  apply hchannels.bind
  intro s' fields fields' _
  rw [show resolution.triggeredRedeploy = resolution'.triggeredRedeploy from hsame]
  apply (quiet_twin settleRedeploy_quiet).bind
  rintro s' _ _ ⟨rfl, rfl⟩
  exact runSetup_twin

/-- So is the profile. -/
theorem applyProfile_twin [Zod] (hs : AlikeStores s) (candidateProfile : Json)
    (options : ApplyOptions) (dependencies : ApplyProfileDependencies) :
    Twin rt Anything (applyProfile rt fuel candidateProfile options dependencies)
      (applyProfile rt fuel candidateProfile options dependencies) s := by
  apply Prog.Lockstep.bind ofExcept_twin
  rintro s' profile _ ⟨rfl, rfl⟩
  apply Prog.Lockstep.bind (quiet_twin getStatus_quiet)
  rintro s' status _ ⟨rfl, rfl⟩
  cases isConfigured status with
  | true => trivial
  | false =>
      apply (listRailwayVariables_twin options.service).bind
      rintro s' vars vars' ⟨rfl, hshow, hshow'⟩
      exact applyAttachments_twin (sameNames hs hshow hshow') profile options dependencies

end Apply

/-! ### The regression check -/

theorem attempt_twin {α α' : Type} {p : Tool α} {p' : Tool α'} {Q : Stores → α → α' → Prop}
    (h : Twin rt Q p p' s) :
    Twin rt (fun _ x x' => Prog.BothOr (fun a a' => ∃ s', Q s' a a') x x') (attempt p) (attempt p')
      s := by
  apply Prog.Lockstep.tryCatch
  · apply h.bind
    intro s' a a' ha
    exact Prog.lockstep_pure (.inl ⟨a, a', rfl, rfl, s', ha⟩)
  · intro s' e e'
    exact Prog.lockstep_pure (.inr ⟨e, e', rfl, rfl⟩)

/-- So is the check of a key. -/
theorem verifyKey_twin (options : RegressionCheckOptions) (secretName key key' : String) :
    Twin rt Anything (verifyKey options secretName key) (verifyKey options secretName key') s := by
  have hstatus : Twin rt (fun _ status status' => status = status')
      (do
        writeRailwayVariable ⟨secretName, key, options.service, some true⟩
        (createSetupApiClient options.instanceBaseUrl
          (some ⟨options.setupUsername, options.setupPassword⟩)).getStatus)
      (do
        writeRailwayVariable ⟨secretName, key', options.service, some true⟩
        (createSetupApiClient options.instanceBaseUrl
          (some ⟨options.setupUsername, options.setupPassword⟩)).getStatus) s := by
    apply (writeRailwayVariable_twin _ _ _ _ _).bind
    intro s' _ _ _
    exact (quiet_twin getStatus_quiet).mono fun _ _ _ h => h.2
  apply (attempt_twin hstatus).bind
  rintro s' status status' (⟨a, a', rfl, rfl, s'', rfl⟩ | ⟨e, e', rfl, rfl⟩)
  · have hhealth : (getHealth options.instanceBaseUrl).Only Quiet := Prog.only_ask (quiet_get rfl)
    apply (attempt_twin (quiet_twin hhealth)).bind
    rintro s' health health' (⟨r, r', rfl, rfl, s'', -⟩ | ⟨e, e', rfl, rfl⟩) <;> trivial
  · trivial

/-- So is the whole check. -/
theorem runRegressionCheck_twin [Zod] (options : RegressionCheckOptions) (managementKey : String) :
    Twin rt Anything (runRegressionCheck options managementKey)
      (runRegressionCheck options managementKey) s := by
  apply Prog.Lockstep.bind ofExcept_twin
  rintro s' target _ ⟨rfl, rfl⟩
  apply (mintOpenRouterKey_twin _ _).bind
  rintro s' minted minted' ⟨rfl, hhash⟩
  apply (verifyKey_twin options target.secretName minted.key minted'.key).bind
  intro s' v v' _
  have hquiet : (deleteOpenRouterKey minted.hash managementKey).Only Quiet := by
    apply Prog.only_ask
    rintro ⟨hpost, -⟩
    exact absurd hpost (by decide : "DELETE" ≠ "POST")
  rw [← hhash]
  apply (attempt_twin (quiet_twin hquiet)).bind
  intro s' deleted deleted' _
  trivial

/-! ### The six tools -/

/-- The argument vectors of the commands, in order. -/
def argumentVectors (t : Trace) : List (List String) :=
  t.filterMap fun e =>
    match e.call with
    | .run args _ => some args
    | _ => none

/-- Calls that look the same have the same command lines. -/
theorem argumentVectors_eq {t t' : Trace}
    (h : List.Forall₂ (fun e e' => SameView e.call e'.call) t t') :
    argumentVectors t = argumentVectors t' := by
  induction h with
  | nil => rfl
  | @cons e e' t t' hview _ ih =>
      obtain ⟨c, r⟩ := e
      obtain ⟨c', r'⟩ := e'
      have hview : SameView c c' := hview
      cases hview with
      | run => exact congrArg (_ :: ·) ih
      | now | sleep | randomBytes | checkSetupStatus | getConfigRaw | postConfigRaw
      | getPendingDevices | approveDevice | readTemplateLock | readText | makeDirectory | writeText
      | fetch => exact ih

/-- Two runs of the tool in worlds that differ in their secrets run the same commands. -/
def SameCommands {α : Type} (rt : Runtime) (s : Stores) (p : Tool α) : Prop :=
  ∀ (t t' : Trace) (o o' : Outcome Failure α), p.Exec t o → p.Exec t' o' →
    Agree (secrets rt) s t t' → argumentVectors t = argumentVectors t'

/-- What goes in lockstep runs the same commands. -/
theorem Twin.sameCommands {α : Type} {p : Tool α} (h : Twin rt Anything p p s) :
    SameCommands rt s p := by
  intro t t' o o' hp hp' ha
  exact argumentVectors_eq (Prog.Lockstep.exec h hp hp' ha)

/-- **Secrets never reach a command line.**  Whatever the stored and the generated secrets
are, and wherever a run fails, the commands of the six tools are the same. -/
theorem secrets_reach_no_command [Zod] (rt : Runtime) (fuel : ℕ) (s : Stores) (hs : AlikeStores s) :
    (∀ options, SameCommands rt s (provisionClientInstance rt fuel options)) ∧
      (∀ options, SameCommands rt s (updateClientTemplateRef rt fuel options)) ∧
      (∀ options, SameCommands rt s (updateClientOpenClawRef rt fuel options)) ∧
      (∀ options, SameCommands rt s (rotateGatewayToken rt fuel options)) ∧
      (∀ candidateProfile options dependencies,
        SameCommands rt s (applyProfile rt fuel candidateProfile options dependencies)) ∧
      ∀ options managementKey, SameCommands rt s (runRegressionCheck options managementKey) := by
  refine ⟨?_, ?_, ?_, ?_, ?_, ?_⟩
  · exact fun options => (provisionClientInstance_twin hs options).sameCommands
  · exact fun options => (updateClientRefVariable_twin hs _).sameCommands
  · exact fun options => (updateClientRefVariable_twin hs _).sameCommands
  · exact fun options => (rotateGatewayToken_twin hs options).sameCommands
  · exact fun candidateProfile options dependencies =>
      (applyProfile_twin hs candidateProfile options dependencies).sameCommands
  · exact fun options managementKey => (runRegressionCheck_twin options managementKey).sameCommands

/-- A service with a token, in two worlds. -/
def tokenStores : Stores :=
  (fun _ name => if name = GATEWAY_TOKEN then some "first" else none,
    fun _ name => if name = GATEWAY_TOKEN then some "second" else none)

theorem tokenStores_alike : AlikeStores tokenStores := by
  intro service name
  show AlikeStored name (if _ then _ else _) (if _ then _ else _)
  by_cases hname : name = GATEWAY_TOKEN
  · rw [if_pos hname, if_pos hname]
    refine .set ⟨by decide, fun hpublic => ?_⟩
    rw [hname] at hpublic
    exact absurd hpublic (by decide)
  · rw [if_neg hname, if_neg hname]
    exact .unset

/-- The listing of a service with that token. -/
def tokenText (token : String) : String :=
  "\x7b\"OPENCLAW_GATEWAY_TOKEN\":\"" ++ token ++ "\"\x7d"

/-- A runtime that parses the listings of both worlds. -/
def tokenRuntime : Runtime where
  jsonParse text :=
    match [(tokenText "first", Json.obj [(GATEWAY_TOKEN, .str "first")]),
      (tokenText "second", .obj [(GATEWAY_TOKEN, .str "second")]),
      deployedServices].lookup text with
    | some document => .ok document
    | none => .error "Unexpected token"
  compileRegExp _ := none
  utf8Decode _ := ""
  hmacSha256Hex _ _ := ""

/-- A platform that takes the new token, and refuses to redeploy. -/
def rotating (token next : String) (s : Unit) : (c : Call) → c.Reply × Unit
  | .run args _ =>
    (if args = variableListArgs "client" then .ok (tokenText token)
      else if args = serviceListArgs then .ok deployedServices.1
      else if args = redeployArgs "client" then .error "offline" else .ok "", s)
  | .randomBytes _ => (next, s)
  | c => (offline c, s)

/-- The rotation in a world with this token. -/
def rotationRun (token next : String) : Trace × Outcome Failure RotateGatewayTokenResult :=
  (rotateGatewayToken tokenRuntime 1 ⟨"client", none, none, none⟩).play (rotating token next) ()

/-- The rotation reads the token, draws the next one and writes it. -/
def rotationTrace (token next : String) : Trace :=
  [⟨.run (variableListArgs "client") none, .ok (tokenText token)⟩,
    ⟨.run serviceListArgs none, .ok deployedServices.1⟩, ⟨.randomBytes 32, next⟩,
    ⟨.run (variableSetArgs GATEWAY_TOKEN "client" true) (some next), .ok ""⟩,
    ⟨.run (redeployArgs "client") none, .error "offline"⟩]

set_option maxRecDepth 8000 in
theorem rotationRun_first : (rotationRun "first" "9f86d081").1 = rotationTrace "first" "9f86d081" :=
  rfl

set_option maxRecDepth 8000 in
theorem rotationRun_second :
    (rotationRun "second" "60303ae2").1 = rotationTrace "second" "60303ae2" := rfl

theorem token_shows (token : String) :
    Shows (fun name => if name = GATEWAY_TOKEN then some token else none)
      (.obj [(GATEWAY_TOKEN, .str token)]) := by
  refine ⟨_, rfl, fun name => ?_⟩
  show _ = (if name = GATEWAY_TOKEN then some token else none).map Json.str
  rw [List.lookup_cons, List.lookup_nil]
  by_cases hname : name = GATEWAY_TOKEN
  · rw [if_pos hname, hname]
    rfl
  · rw [if_neg hname, beq_false_of_ne hname]
    rfl

set_option maxRecDepth 8000 in
theorem rotationTrace_agree : Agree (secrets tokenRuntime) tokenStores
    (rotationTrace "first" "9f86d081") (rotationTrace "second" "60303ae2") := by
  intro _
  refine ⟨tokenStores, .listed rfl rfl rfl (token_shows "first") (token_shows "second"), ?_⟩
  intro _
  refine ⟨tokenStores, .same .run rfl HEq.rfl, ?_⟩
  intro _
  refine ⟨tokenStores, .drawn (by decide), ?_⟩
  intro _
  refine ⟨_, .stored rfl, ?_⟩
  intro _
  exact ⟨_, .same .run rfl HEq.rfl, trivial⟩

/-- Two rotations of different tokens to different tokens run the same commands, five calls
each. -/
theorem rotations_reach_no_command :
    (rotationRun "first" "9f86d081").1 = rotationTrace "first" "9f86d081" ∧
      (rotationRun "second" "60303ae2").1 = rotationTrace "second" "60303ae2" ∧
      argumentVectors (rotationTrace "first" "9f86d081") =
        argumentVectors (rotationTrace "second" "60303ae2") := by
  refine ⟨rotationRun_first, rotationRun_second, ?_⟩
  have hfirst := Prog.play_exec (I := Platform) (rotating "first" "9f86d081")
    (rotateGatewayToken tokenRuntime 1 ⟨"client", none, none, none⟩) ()
  have hsecond := Prog.play_exec (I := Platform) (rotating "second" "60303ae2")
    (rotateGatewayToken tokenRuntime 1 ⟨"client", none, none, none⟩) ()
  exact (secrets_reach_no_command tokenRuntime 1 tokenStores tokenStores_alike).2.2.2.1
    ⟨"client", none, none, none⟩ _ _ _ _ (rotationRun_first ▸ hfirst)
    (rotationRun_second ▸ hsecond) rotationTrace_agree

end Secrecy
