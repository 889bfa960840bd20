/-
ControlPlane/Setup/Takeover.lean

Which deployment is set up when `applyProfile` has started one itself.

A write without `--skip-deploys` starts a deployment.  Until it takes over, at some
moment of its own, the instance it replaces serves, and answers a health check with
200 (`RolloutStep`).  The applier is to send `/setup/api/run` to the new one.

Its poll ends at the first health check that is answered well, and the request is
the next call (`health_then_setupRun`); a health check is also the last call before
a request that has to wait (`health_before_setupRun`).  So the request is late
enough exactly when no health check is answered by the instance that is being
replaced with that instance still serving at the next call
(`applyProfile_waits_iff`).
-/
import ControlPlane.Setup.Orphans

namespace Setup

open Js Railway Interaction

/-! ### The rollout -/

/-- Whether a deployment has been started that has not taken over. -/
inductive Rollout where
  | settled
  | replacing
deriving DecidableEq

/-- What happens: the new deployment takes over, or a call is made. -/
inductive Moment where
  | takesOver
  | call (e : Event Platform)

/-- The call that was made at a moment. -/
def Moment.event : Moment → Option (Event Platform)
  | .takesOver => none
  | .call e => some e

/-- The calls among the moments. -/
def calls (moments : List Moment) : Trace := moments.filterMap Moment.event

/-- A write that starts a deployment. -/
def Redeploys (service : String) (c : Call) : Prop :=
  ∃ name value, c = .run (variableSetArgs name service false) (some value)

/-- The call is the health check. -/
def IsHealthCheck (instanceBaseUrl : String) (c : Call) : Prop :=
  c = .fetch (healthRequest instanceBaseUrl)

/-- The request that configures the instance. -/
def IsSetupRun (client : SetupApiClient) (c : Call) : Prop :=
  ∃ payload, c = .fetch (postRequest client "/setup/api/run" payload)

/-- A write starts a deployment whatever it is answered with: when it is answered with
an error, no further call is made.  The instance that is being replaced answers a
health check with 200. -/
inductive RolloutStep (service instanceBaseUrl : String) : Rollout → Moment → Rollout → Prop
  | takesOver : RolloutStep service instanceBaseUrl .replacing .takesOver .settled
  | started {s : Rollout} {e : Event Platform} (hwrite : Redeploys service e.call) :
      RolloutStep service instanceBaseUrl s (.call e) .replacing
  | stale {json : Except String Json} :
      RolloutStep service instanceBaseUrl .replacing
        (.call ⟨.fetch (healthRequest instanceBaseUrl), .ok ⟨200, json⟩⟩) .replacing
  | checked {reply : Except String Response} :
      RolloutStep service instanceBaseUrl .settled
        (.call ⟨.fetch (healthRequest instanceBaseUrl), reply⟩) .settled
  | other {s : Rollout} {e : Event Platform} (hwrite : ¬ Redeploys service e.call)
      (hhealth : ¬ IsHealthCheck instanceBaseUrl e.call) :
      RolloutStep service instanceBaseUrl s (.call e) s

/-- The service during a redeployment, as a transition system. -/
def rollout (service instanceBaseUrl : String) : Lts Rollout Moment where
  step := RolloutStep service instanceBaseUrl

section Rollout

variable {service instanceBaseUrl : String} {s s' s'' : Rollout} {moments : List Moment}
  {e : Event Platform}

/-- A write that redeploys is no health check. -/
theorem Redeploys.not_health {c : Call} (h : Redeploys service c) :
    ¬ IsHealthCheck instanceBaseUrl c := by
  rintro rfl
  obtain ⟨name, value, hcall⟩ := h
  cases hcall

/-- The rollout goes on in one way only. -/
theorem rollout_step_unique {l : Moment} (h : RolloutStep service instanceBaseUrl s l s')
    (h' : RolloutStep service instanceBaseUrl s l s'') : s' = s'' := by
  cases h with
  | takesOver =>
      cases h'
      rfl
  | started hwrite =>
      cases h' with
      | started => rfl
      | stale => rfl
      | checked => exact absurd rfl hwrite.not_health
      | other hno => exact absurd hwrite hno
  | stale =>
      cases h' with
      | started => rfl
      | stale => rfl
      | other _ hno => exact absurd rfl hno
  | checked =>
      cases h' with
      | started hwrite => exact absurd rfl hwrite.not_health
      | checked => rfl
      | other _ hno => exact absurd rfl hno
  | other hwrite hhealth =>
      cases h' with
      | started hyes => exact absurd hyes hwrite
      | stale => exact absurd rfl hhealth
      | checked => exact absurd rfl hhealth
      | other => rfl

/-- What has happened says which instance serves. -/
theorem rollout_unique (h : (rollout service instanceBaseUrl).Run s moments s')
    (h' : (rollout service instanceBaseUrl).Run s moments s'') : s' = s'' := by
  induction moments generalizing s with
  | nil => exact (Lts.run_nil.mp h).trans (Lts.run_nil.mp h').symm
  | cons l moments ih =>
      obtain ⟨m, hstep, hrest⟩ := Lts.run_cons.mp h
      obtain ⟨m', hstep', hrest'⟩ := Lts.run_cons.mp h'
      rw [rollout_step_unique hstep' hstep] at hrest'
      exact ih hrest hrest'

/-- Nothing but a write starts a deployment. -/
theorem rollout_settled (h : (rollout service instanceBaseUrl).Run .settled moments s')
    (hquiet : ∀ w ∈ calls moments, ¬ Redeploys service w.call) : s' = .settled := by
  apply h.invariant_of (I := (· = .settled))
    (G := fun l => ∀ w, l = .call w → ¬ Redeploys service w.call) rfl
  · rintro l hl w rfl
    exact hquiet w (List.mem_filterMap.mpr ⟨_, hl, rfl⟩)
  · rintro s l s' hl rfl hstep
    cases hstep with
    | started hwrite => exact absurd hwrite (hl _ rfl)
    | checked => rfl
    | other => rfl

/-- Without a call, a rollout that is not over has been under way all along. -/
theorem rollout_quiet (h : (rollout service instanceBaseUrl).Run s moments .replacing)
    (hquiet : calls moments = []) : moments = [] ∧ s = .replacing := by
  cases moments with
  | nil => exact ⟨rfl, (Lts.run_nil.mp h).symm⟩
  | cons l moments =>
      cases l with
      | call e => cases hquiet
      | takesOver =>
          obtain ⟨m, hstep, hrest⟩ := Lts.run_cons.mp h
          cases hstep
          -- a second takeover would need a second deployment
          cases moments with
          | nil => cases hrest
          | cons l moments =>
              cases l with
              | call e => cases hquiet
              | takesOver =>
                  obtain ⟨m, hstep, -⟩ := Lts.run_cons.mp hrest
                  cases hstep

/-- A health check that leaves a rollout under way was made during it. -/
theorem rollout_health (h : RolloutStep service instanceBaseUrl s (.call e) .replacing)
    (he : IsHealthCheck instanceBaseUrl e.call) : s = .replacing := by
  cases h with
  | started hwrite => exact absurd he hwrite.not_health
  | stale => rfl
  | other _ hno => exact absurd he hno

/-- During a rollout a health check is answered with 200. -/
theorem rollout_stale (h : RolloutStep service instanceBaseUrl .replacing (.call e) s')
    (he : IsHealthCheck instanceBaseUrl e.call) :
    ∃ json, e = ⟨.fetch (healthRequest instanceBaseUrl), .ok ⟨200, json⟩⟩ := by
  cases h with
  | started hwrite => exact absurd he hwrite.not_health
  | stale => exact ⟨_, rfl⟩
  | other _ hno => exact absurd he hno

end Rollout

/-! ### The poll -/

section Poll

variable {fuel : ℕ} {instanceBaseUrl : String} {pollSeconds timeoutSeconds : ℕ} {deadline : ℤ}
  {t t₁ t₂ : Trace} {o : Outcome Failure Unit}

/-- A round of the poll: the last one, or one that is answered badly and slept on. -/
theorem healthRounds_cases
    (h : (healthRounds instanceBaseUrl pollSeconds timeoutSeconds deadline (fuel + 1)).Exec t o) :
    (∃ reply, t = [⟨.fetch (healthRequest instanceBaseUrl), reply⟩]) ∨
    (∃ response time e, response.ok = false ∧ o = .threw e ∧
      t = [⟨.fetch (healthRequest instanceBaseUrl), .ok response⟩, ⟨.now, time⟩]) ∨
    ∃ response time rest, response.ok = false ∧
      t = ⟨.fetch (healthRequest instanceBaseUrl), .ok response⟩ :: ⟨.now, time⟩ ::
        ⟨.sleep (pollSeconds * 1000), ()⟩ :: rest ∧
      (healthRounds instanceBaseUrl pollSeconds timeoutSeconds deadline fuel).Exec rest o := by
  rcases Prog.exec_ask_bind.mp h with ⟨reply, ta, response, rfl, hsettled, hround⟩ |
    ⟨reply, e, rfl, -, -⟩
  · obtain rfl := settled_eq_ok.mp hsettled
    split at hround
    · obtain ⟨rfl, -⟩ := hround
      exact .inl ⟨.ok response, rfl⟩
    · next hbad =>
      have hok : response.ok = false := by simpa using hbad
      obtain ⟨time, tb, rfl, hafter⟩ := Prog.exec_perform_bind.mp hround
      split at hafter
      · obtain ⟨rfl, rfl⟩ := hafter
        exact .inr (.inl ⟨response, time, _, hok, rfl, rfl⟩)
      · obtain ⟨-, rest, rfl, hnext⟩ := Prog.exec_perform_bind.mp hafter
        exact .inr (.inr ⟨response, time, rest, hok, rfl, hnext⟩)
  · exact .inl ⟨reply, rfl⟩

/-- The poll ends with a health check. -/
theorem healthRounds_returned
    (h : (healthRounds instanceBaseUrl pollSeconds timeoutSeconds deadline fuel).Exec t
      (.returned ())) : ∃ t₀ c, t = t₀ ++ [c] ∧ IsHealthCheck instanceBaseUrl c.call := by
  induction fuel generalizing t with
  | zero => cases h.2
  | succ fuel ih =>
      rcases healthRounds_cases h with ⟨reply, rfl⟩ | ⟨response, time, e, -, ho, -⟩ |
        ⟨response, time, rest, -, rfl, hnext⟩
      · exact ⟨[], _, rfl, rfl⟩
      · cases ho
      · obtain ⟨t₀, c, rfl, hc⟩ := ih hnext
        exact ⟨_ :: _ :: _ :: t₀, c, rfl, hc⟩

/-- A health check that is answered well is the last call of the poll. -/
theorem healthRounds_ok {response : Response} (hok : response.ok = true)
    (h : (healthRounds instanceBaseUrl pollSeconds timeoutSeconds deadline fuel).Exec
      (t₁ ++ ⟨.fetch (healthRequest instanceBaseUrl), .ok response⟩ :: t₂) o) : t₂ = [] := by
  induction fuel generalizing t₁ with
  | zero => exact absurd h.1 (by simp)
  | succ fuel ih =>
      -- a check that is answered badly is another one, and the later rounds have theirs
      have hother : ∀ {bad : Response}, bad.ok = false → ∀ {l : Trace},
          t₁ ++ ⟨.fetch (healthRequest instanceBaseUrl), .ok response⟩ :: t₂ =
            ⟨.fetch (healthRequest instanceBaseUrl), .ok bad⟩ :: l →
          ∃ t₀, l = t₀ ++ ⟨.fetch (healthRequest instanceBaseUrl), .ok response⟩ :: t₂ := by
        intro bad hbad l heq
        cases t₁ with
        | nil =>
            obtain ⟨hevent, -⟩ := List.cons.inj heq
            cases hevent
            rw [hok] at hbad
            cases hbad
        | cons c t₁ => exact ⟨t₁, (List.cons.inj heq).2.symm⟩
      have hskip : ∀ {e : Event Platform} {l t₀ : Trace},
          (∀ r, e ≠ ⟨.fetch (healthRequest instanceBaseUrl), r⟩) →
          e :: l = t₀ ++ ⟨.fetch (healthRequest instanceBaseUrl), .ok response⟩ :: t₂ →
          ∃ t₀, l = t₀ ++ ⟨.fetch (healthRequest instanceBaseUrl), .ok response⟩ :: t₂ := by
        intro e l t₀ hne heq
        cases t₀ with
        | nil => exact absurd (List.cons.inj heq).1 (hne _)
        | cons c t₀ => exact ⟨t₀, (List.cons.inj heq).2⟩
      rcases healthRounds_cases h with ⟨reply, heq⟩ | ⟨bad, time, e, hbad, -, heq⟩ |
        ⟨bad, time, rest, hbad, heq, hnext⟩
      · rcases List.append_eq_singleton_iff.mp heq with ⟨-, heq⟩ | ⟨-, heq⟩
        · exact (List.cons.inj heq).2
        · cases heq
      · obtain ⟨ta, heq⟩ := hother hbad heq
        obtain ⟨tb, heq⟩ := hskip (fun r he => (by cases he)) heq
        exact absurd heq (by simp)
      · obtain ⟨ta, heq⟩ := hother hbad heq
        obtain ⟨tb, heq⟩ := hskip (fun r he => (by cases he)) heq
        obtain ⟨tc, rfl⟩ := hskip (fun r he => (by cases he)) heq
        exact ih hnext

/-- Waiting ends with a health check. -/
theorem waitForHealthy_returned {pollSeconds timeoutSeconds : Option ℕ}
    (h : (waitForHealthy fuel instanceBaseUrl pollSeconds timeoutSeconds).Exec t (.returned ())) :
    ∃ t₀ c, t = t₀ ++ [c] ∧ IsHealthCheck instanceBaseUrl c.call := by
  obtain ⟨time, rest, rfl, hrounds⟩ := Prog.exec_perform_bind.mp h
  obtain ⟨t₀, c, rfl, hc⟩ := healthRounds_returned hrounds
  exact ⟨_ :: t₀, c, rfl, hc⟩

/-- A health check that is answered well ends the wait. -/
theorem waitForHealthy_ok {pollSeconds timeoutSeconds : Option ℕ} {response : Response}
    (hok : response.ok = true)
    (h : (waitForHealthy fuel instanceBaseUrl pollSeconds timeoutSeconds).Exec
      (t₁ ++ ⟨.fetch (healthRequest instanceBaseUrl), .ok response⟩ :: t₂) o) : t₂ = [] := by
  obtain ⟨time, rest, heq, hrounds⟩ := Prog.exec_perform_bind.mp h
  cases t₁ with
  | nil => cases (List.cons.inj heq).1
  | cons c t₁ =>
      obtain ⟨-, rfl⟩ := List.cons.inj heq
      exact healthRounds_ok hok hrounds

end Poll

/-! ### The calls of the applier -/

/-- A call before the wait: neither a health check nor the request. -/
def Prepares (client : SetupApiClient) (instanceBaseUrl : String) (c : Call) : Prop :=
  ¬ IsHealthCheck instanceBaseUrl c ∧ ¬ IsSetupRun client c

section Calls

variable {fuel : ℕ} {client : SetupApiClient} {service instanceBaseUrl managementKey : String}
  {options : ApplyOptions} {t t₁ t₂ : Trace}

/-- The last characters of two texts. -/
theorem append_ne_of_getLast {a b x y : String} {c d : Char} (hx : x.toList.getLast? = some c)
    (hy : y.toList.getLast? = some d) (hne : c ≠ d) : a ++ x ≠ b ++ y := by
  intro h
  have hlast := congrArg (fun url : String => url.toList.getLast?) h
  simp only [String.toList_append, List.getLast?_append, hx, hy, Option.some_or] at hlast
  exact hne (Option.some.inj hlast)

theorem setupRun_not_get {request : FetchRequest} (h : request.method = "GET") :
    ¬ IsSetupRun client (.fetch request) := by
  rintro ⟨payload, hcall⟩
  have hmethod : request.method = "POST" := congrArg FetchRequest.method (Call.fetch.inj hcall)
  rw [h] at hmethod
  exact absurd hmethod (by decide)

theorem getStatus_prepares : client.getStatus.Only (Prepares client instanceBaseUrl) := by
  apply Prog.only_ask
  refine ⟨?_, setupRun_not_get rfl⟩
  intro hcall
  have hurl := congrArg FetchRequest.url (Call.fetch.inj hcall)
  exact append_ne_of_getLast (c := 's') (d := 'z') (by decide) (by decide) (by decide) hurl

theorem prepares_run {args : List String} {stdin : Option String} :
    Prepares client instanceBaseUrl (.run args stdin) := by
  refine ⟨?_, ?_⟩
  · intro hcall
    cases hcall
  · rintro ⟨payload, hcall⟩
    cases hcall

theorem mintOpenRouterKey_prepares {request : MintKeyRequest} :
    (mintOpenRouterKey request managementKey).Only (Prepares client instanceBaseUrl) := by
  apply Prog.only_ask
  constructor
  · intro hcall
    have hmethod : "POST" = "GET" := congrArg FetchRequest.method (Call.fetch.inj hcall)
    exact absurd hmethod (by decide)
  · rintro ⟨payload, hcall⟩
    have hurl := congrArg FetchRequest.url (Call.fetch.inj hcall)
    exact append_ne_of_getLast (a := "") (x := OPENROUTER_KEYS_URL) (c := 's') (d := 'n')
      (by decide) (by decide) (by decide) hurl

/-- Resolving the provider prepares, and no more. -/
theorem resolveProvider_prepares {provider : Option ModelProviderAttachment} {existingVars : Json} :
    (resolveProvider provider existingVars service managementKey).Only
      (Prepares client instanceBaseUrl) := by
  cases provider with
  | none => trivial
  | some provider =>
      refine Prog.Only.bind (Prog.Only.bind Prog.only_ofExcept ?_) fun _ => trivial
      intro secret
      cases secret with
      | stored value => trivial
      | toMint secretName keyProvisioning =>
          apply Prog.Only.bind mintOpenRouterKey_prepares
          intro minted
          rw [writeRailwayVariable_eq]
          exact Prog.Only.bind (Prog.only_ask prepares_run) fun _ => trivial

/-- A key that is minted and stored: the two calls, and what is reported. -/
theorem mintSecret_returned {secretName : String} {keyProvisioning : KeyProvisioning}
    {requiresRedeploy : Bool} {resolution : SecretResolution}
    (h : (mintSecret secretName keyProvisioning requiresRedeploy service managementKey).Exec t
      (.returned resolution)) :
    ∃ request reply minted reply', Mints request ∧ mintedKey reply = .ok minted ∧
      t = [⟨.fetch request, reply⟩,
        ⟨.run (variableSetArgs secretName service (!requiresRedeploy)) (some minted.key), reply'⟩] ∧
      resolution = ⟨.json (.str minted.key), requiresRedeploy, some minted.hash⟩ := by
  rcases Prog.exec_ask_bind.mp h with ⟨reply, ta, minted, rfl, hminted, hwrite⟩ | ⟨r, e, -, -, ho⟩
  · rw [writeRailwayVariable_eq] at hwrite
    rcases Prog.exec_ask_bind.mp hwrite with ⟨reply', tb, _, rfl, -, rfl, ho⟩ | ⟨r, e, -, -, ho⟩
    · obtain rfl := Outcome.returned.inj ho
      exact ⟨_, reply, minted, reply', ⟨rfl, rfl⟩, hminted, rfl, rfl⟩
    · cases ho
  · cases ho

/-- A write starts a deployment exactly when it is not told to skip it. -/
theorem redeploys_write_iff {name value : String} {skipDeploys : Bool} :
    Redeploys service (.run (variableSetArgs name service skipDeploys) (some value)) ↔
      skipDeploys = false := by
  cases skipDeploys with
  | false => exact iff_of_true ⟨name, value, rfl⟩ rfl
  | true =>
      refine iff_of_false ?_ Bool.noConfusion
      rintro ⟨name', value', hcall⟩
      have hargs := congrArg List.length (Call.run.inj hcall).1
      exact absurd hargs (by simp [variableSetArgs])

/-- How a provider was resolved: there was none, its secret is stored, or a key was
minted and written. -/
theorem resolveProvider_cases {provider : Option ModelProviderAttachment} {existingVars : Json}
    {resolution : ProviderResolution}
    (h : (resolveProvider provider existingVars service managementKey).Exec t
      (.returned resolution)) :
    (provider = none ∧ t = [] ∧ resolution = ⟨[], false, none⟩) ∨
    (∃ attachment value, provider = some attachment ∧ t = [] ∧
      providerSecret attachment existingVars service = .ok (.stored value) ∧
      resolution = ⟨providerFields attachment value, false, none⟩) ∨
    ∃ attachment secretName keyProvisioning request reply minted reply',
      provider = some attachment ∧ Mints request ∧ mintedKey reply = .ok minted ∧
      providerSecret attachment existingVars service = .ok (.toMint secretName keyProvisioning) ∧
      t = [⟨.fetch request, reply⟩,
        ⟨.run (variableSetArgs secretName service (!attachment.customProviderApiKeyEnv.isSome))
          (some minted.key), reply'⟩] ∧
      resolution = ⟨providerFields attachment (.json (.str minted.key)),
        attachment.customProviderApiKeyEnv.isSome, some minted.hash⟩ := by
  cases provider with
  | none =>
      obtain ⟨rfl, ho⟩ := h
      exact .inl ⟨rfl, rfl, Outcome.returned.inj ho⟩
  | some attachment =>
      obtain ⟨secretResolution, ta, tb, rfl, hsecret, rfl, ho⟩ := Prog.exec_bind_returned.mp h
      obtain rfl := Outcome.returned.inj ho
      rw [List.append_nil]
      rcases Prog.exec_ofExcept_bind.mp hsecret with ⟨secret, hprovider, hresolve⟩ | ⟨e, -, -, ho⟩
      · cases secret with
        | stored value =>
            obtain ⟨rfl, ho⟩ := hresolve
            obtain rfl := Outcome.returned.inj ho
            exact .inr (.inl ⟨attachment, value, rfl, rfl, hprovider, rfl⟩)
        | toMint secretName keyProvisioning =>
            obtain ⟨request, reply, minted, reply', hmints, hminted, rfl, rfl⟩ :=
              mintSecret_returned hresolve
            exact .inr (.inr ⟨attachment, secretName, keyProvisioning, request, reply, minted,
              reply', rfl, hmints, hminted, hprovider, rfl, rfl⟩)
      · cases ho

/-- A redeploy is reported exactly when a write has started one. -/
theorem resolveProvider_redeploys {provider : Option ModelProviderAttachment} {existingVars : Json}
    {resolution : ProviderResolution}
    (h : (resolveProvider provider existingVars service managementKey).Exec t
      (.returned resolution)) :
    resolution.triggeredRedeploy = true ↔ ∃ w ∈ t, Redeploys service w.call := by
  rcases resolveProvider_cases h with ⟨-, rfl, rfl⟩ | ⟨attachment, value, -, rfl, -, rfl⟩ |
    ⟨attachment, secretName, keyProvisioning, request, reply, minted, reply', -, -, -, -, rfl, rfl⟩
  · exact iff_of_false Bool.false_ne_true (by simp)
  · exact iff_of_false Bool.false_ne_true (by simp)
  · have hmint : ¬ Redeploys service (.fetch request) := by
      rintro ⟨name, value, hcall⟩
      cases hcall
    rw [List.exists_mem_cons_iff, or_iff_right hmint, List.exists_mem_cons_iff,
      or_iff_left (by simp), redeploys_write_iff, Bool.not_eq_false']

/-- What precedes a health check or the request: an instance that is not configured, a
listing, and the provider. -/
theorem applyProfile_reaches [Zod] {rt : Runtime} {candidateProfile : Json}
    {dependencies : ApplyProfileDependencies} {e : Event Platform}
    {o : Outcome Failure ApplyResult}
    (he : ¬ Prepares dependencies.setupApiClient options.instanceBaseUrl e.call)
    (h : (applyProfile rt fuel candidateProfile options dependencies).Exec (t₁ ++ e :: t₂) o) :
    ∃ profile statusReply status listReply existingVars provider resolution ta tb,
      parseClientProfile candidateProfile = .ok profile ∧
      settledJson "GET" "/setup/api/status" statusReply = .ok status ∧
      isConfigured status = false ∧ printed rt listReply = .ok existingVars ∧
      soleProvider profile = .ok provider ∧
      t₁ = ⟨.fetch (getRequest dependencies.setupApiClient "/setup/api/status"), statusReply⟩ ::
        ⟨.run (variableListArgs options.service) none, listReply⟩ :: (ta ++ tb) ∧
      (resolveProvider provider existingVars options.service
        dependencies.openRouterManagementKey).Exec ta (.returned resolution) ∧
      (applyChannels fuel profile existingVars options dependencies.setupApiClient resolution).Exec
        (tb ++ e :: t₂) o := by
  rcases Prog.exec_ofExcept_bind.mp h with ⟨profile, hprofile, hstatus⟩ | ⟨-, -, hnil, -⟩
  · obtain ⟨status, ta, tb, rfl, hget, hrest⟩ := getStatus_prepares.skip he hstatus
    split at hrest
    · exact absurd hrest.1 (by simp)
    · next hunconfigured =>
      rw [listRailwayVariables_eq] at hrest
      have hlist : (Prog.ask (I := Platform) (.run (variableListArgs options.service) none)
          (printed rt)).Only (Prepares dependencies.setupApiClient options.instanceBaseUrl) :=
        Prog.only_ask prepares_run
      obtain ⟨existingVars, tc, td, rfl, hasked, hattach⟩ := hlist.skip he hrest
      obtain ⟨statusReply, rfl, ⟨_, hsettled, ho⟩ | ⟨_, -, ho⟩⟩ := Prog.exec_ask.mp hget
      · obtain rfl := Outcome.returned.inj ho
        obtain ⟨listReply, rfl, ⟨_, hprinted, ho⟩ | ⟨_, -, ho⟩⟩ := Prog.exec_ask.mp hasked
        · obtain rfl := Outcome.returned.inj ho
          rcases Prog.exec_ofExcept_bind.mp hattach with ⟨provider, hsole, hprovider⟩ |
            ⟨-, -, hnil, -⟩
          · obtain ⟨resolution, te, tf, rfl, hresolve, hchannels⟩ :=
              resolveProvider_prepares.skip he hprovider
            exact ⟨profile, statusReply, status, listReply, existingVars, provider, resolution,
              te, tf, hprofile, hsettled, by simpa using hunconfigured, hprinted, hsole, rfl,
              hresolve, hchannels⟩
          · exact absurd hnil (by simp)
        · cases ho
      · cases ho
  · exact absurd hnil (by simp)

/-- Only the provider can have started a deployment. -/
theorem redeploys_in_provider {client : SetupApiClient} {statusReply : Except String Response}
    {listReply : Except String String} {ta tb : Trace} {w : Event Platform}
    (hquiet : ∀ c ∈ tb, Elsewhere c.call)
    (hw : w ∈ (⟨.fetch (getRequest client "/setup/api/status"), statusReply⟩ ::
      ⟨.run (variableListArgs service) none, listReply⟩ :: (ta ++ tb) : Trace))
    (hredeploys : Redeploys service w.call) : w ∈ ta := by
  obtain ⟨name, value, hcall⟩ := hredeploys
  rcases List.mem_cons.mp hw with rfl | hw
  · cases hcall
  · rcases List.mem_cons.mp hw with rfl | hw
    · cases (Call.run.inj hcall).2
    · rcases List.mem_append.mp hw with hw | hw
      · exact hw
      · have helsewhere := hquiet w hw
        rw [hcall] at helsewhere
        exact helsewhere.elim

/-- The request is the first call of its part, and the only one of its kind. -/
theorem runSetup_first {payload : Json} {mintedKeyHash : Option String} {e : Event Platform}
    {o : Outcome Failure ApplyResult} (he : IsSetupRun client e.call)
    (h : (runSetup client payload mintedKeyHash).Exec (t₁ ++ e :: t₂) o) : t₁ = [] := by
  have hstatus : ∀ (l : Trace), (client.getStatus >>= fun postRunStatus =>
      if isConfigured postRunStatus then pure ⟨.applied, mintedKeyHash⟩
      else .throw stillNotConfigured : Tool ApplyResult).Exec (l ++ e :: t₂) o → False := by
    intro l hexec
    have honly : (client.getStatus >>= fun postRunStatus =>
        if isConfigured postRunStatus then pure ⟨.applied, mintedKeyHash⟩
        else .throw stillNotConfigured : Tool ApplyResult).Only fun c => ¬ IsSetupRun client c := by
      apply Prog.Only.bind (Prog.only_ask (setupRun_not_get rfl))
      intro status
      split
      · trivial
      · trivial
    exact honly.exec hexec e (by simp) he
  cases t₁ with
  | nil => rfl
  | cons c t₁ =>
      rcases Prog.exec_ask_bind.mp h with ⟨reply, ta, -, heq, -, hrest⟩ | ⟨reply, e', heq, -, -⟩
      · obtain ⟨-, rfl⟩ := List.cons.inj heq
        exact (hstatus t₁ hrest).elim
      · exact absurd (List.cons.inj heq).2 (by simp)

/-- What a request was preceded by since the provider was resolved, and what it sends. -/
theorem applyChannels_request {profile : ClientProfile} {existingVars : Json}
    {resolution : ProviderResolution} {e : Event Platform} {o : Outcome Failure ApplyResult}
    (he : IsSetupRun client e.call)
    (h : (applyChannels fuel profile existingVars options client resolution).Exec
      (t₁ ++ e :: t₂) o) :
    ∃ fields, channelFields existingVars options.service profile.channels = .ok fields ∧
      (settleRedeploy fuel options resolution.triggeredRedeploy).Exec t₁ (.returned ()) ∧
      e.call = .fetch (postRequest client "/setup/api/run"
        (objectOf (resolution.fields ++ fields))) := by
  rcases Prog.exec_ofExcept_bind.mp h with ⟨fields, hfields, hsettle⟩ | ⟨-, -, hnil, -⟩
  · have hwait : (settleRedeploy fuel options resolution.triggeredRedeploy).Only
        fun c => ¬ IsSetupRun client c :=
      settleRedeploy_only (setupRun_not_get rfl) (fun ⟨_, hcall⟩ => by cases hcall)
        fun _ ⟨_, hcall⟩ => by cases hcall
    obtain ⟨_, ta, tb, rfl, hwaited, hrun⟩ := hwait.skip (not_not.mpr he) hsettle
    obtain rfl := runSetup_first he hrun
    rw [List.append_nil]
    refine ⟨fields, hfields, hwaited, ?_⟩
    rcases Prog.exec_ask_bind.mp hrun with ⟨reply, tc, -, heq, -⟩ | ⟨reply, e', heq, -⟩
    · rw [(List.cons.inj heq).1]
    · rw [(List.cons.inj heq).1]
  · exact absurd hnil (by simp)

/-- **The request waits for a health check**: after a redeploy the last call before it
is one. -/
theorem health_before_setupRun [Zod] {rt : Runtime} {candidateProfile : Json}
    {dependencies : ApplyProfileDependencies} {e : Event Platform}
    {o : Outcome Failure ApplyResult}
    (h : (applyProfile rt fuel candidateProfile options dependencies).Exec (t₁ ++ e :: t₂) o)
    (he : IsSetupRun dependencies.setupApiClient e.call)
    (hw : ∃ w ∈ t₁, Redeploys options.service w.call) :
    ∃ t₀ c, t₁ = t₀ ++ [c] ∧ IsHealthCheck options.instanceBaseUrl c.call := by
  obtain ⟨profile, statusReply, status, listReply, existingVars, provider, resolution, ta, tb, -, -,
    -, -, -, rfl, hresolve, hchannels⟩ := applyProfile_reaches (fun hp => hp.2 he) h
  have hta : ∃ w ∈ ta, Redeploys options.service w.call := by
    obtain ⟨w, hmem, hredeploys⟩ := hw
    have hquiet : ∀ c ∈ tb, Elsewhere c.call := fun c hc =>
      applyChannels_elsewhere.exec hchannels c (List.mem_append_left _ hc)
    exact ⟨w, redeploys_in_provider hquiet hmem hredeploys, hredeploys⟩
  obtain ⟨fields, -, hwaited, -⟩ := applyChannels_request he hchannels
  rw [(resolveProvider_redeploys hresolve).mpr hta] at hwaited
  obtain ⟨t₀, c, rfl, hc⟩ := waitForHealthy_returned hwaited
  rw [← List.append_assoc]
  exact ⟨_ :: _ :: (ta ++ t₀), c, rfl, hc⟩

/-- Only a redeploy is waited for, and a health check that is answered well ends the wait. -/
theorem settleRedeploy_ok {redeployTriggered : Bool} {response : Response}
    {o : Outcome Failure Unit} (hok : response.ok = true)
    (h : (settleRedeploy fuel options redeployTriggered).Exec
      (t₁ ++ ⟨.fetch (healthRequest options.instanceBaseUrl), .ok response⟩ :: t₂) o) :
    redeployTriggered = true ∧ t₂ = [] := by
  cases redeployTriggered with
  | false => exact absurd h.1 (by simp)
  | true => exact ⟨rfl, waitForHealthy_ok hok h⟩

theorem runSetup_not_health {payload : Json} {mintedKeyHash : Option String} :
    (runSetup client payload mintedKeyHash).Only fun c => ¬ IsHealthCheck instanceBaseUrl c := by
  have hrun : ¬ IsHealthCheck instanceBaseUrl
      (.fetch (postRequest client "/setup/api/run" payload)) := by
    intro hcall
    have hmethod : "POST" = "GET" := congrArg FetchRequest.method (Call.fetch.inj hcall)
    exact absurd hmethod (by decide)
  apply Prog.Only.bind (Prog.only_ask hrun)
  intro _
  apply Prog.Only.bind (getStatus_prepares.mono fun _ hp => hp.1)
  intro status
  split
  · trivial
  · trivial

/-- **A health check that is answered well is followed by the request**, and a
redeploy precedes it. -/
theorem health_then_setupRun [Zod] {rt : Runtime} {candidateProfile : Json}
    {dependencies : ApplyProfileDependencies} {e : Event Platform} {response : Response}
    {o : Outcome Failure ApplyResult} (hok : response.ok = true)
    (h : (applyProfile rt fuel candidateProfile options dependencies).Exec
      (t₁ ++ ⟨.fetch (healthRequest options.instanceBaseUrl), .ok response⟩ :: e :: t₂) o) :
    IsSetupRun dependencies.setupApiClient e.call ∧
      ∃ w ∈ t₁, Redeploys options.service w.call := by
  have hcheck : ¬ Prepares dependencies.setupApiClient options.instanceBaseUrl
      (.fetch (healthRequest options.instanceBaseUrl)) := fun hp => hp.1 rfl
  obtain ⟨profile, statusReply, status, listReply, existingVars, provider, resolution, ta, tb, -, -,
    -, -, -, rfl, hresolve, hchannels⟩ := applyProfile_reaches hcheck h
  rcases Prog.exec_ofExcept_bind.mp hchannels with ⟨fields, -, hsettle⟩ | ⟨-, -, hnil, -⟩
  · rcases Prog.exec_bind.mp hsettle with ⟨_, tc, td, heq, hwaited, hrun⟩ | ⟨e', hthrew, -⟩ |
      ⟨hdiverged, -⟩
    · have hlate : ∀ l, td ≠ l ++ ⟨.fetch (healthRequest options.instanceBaseUrl),
          .ok response⟩ :: e :: t₂ := by
        rintro l rfl
        exact runSetup_not_health.exec hrun _ (List.mem_append_right _ (.head _)) rfl
      -- the check is one of the wait, and the last of it
      rcases List.append_eq_append_iff.mp heq with ⟨l, rfl, hrest⟩ | ⟨l, -, hrest⟩
      · cases l with
        | nil => exact absurd hrest.symm (hlate [])
        | cons c l =>
            obtain ⟨rfl, hafter⟩ := List.cons.inj hrest
            obtain ⟨hredeploy, rfl⟩ := settleRedeploy_ok hok hwaited
            obtain rfl : td = e :: t₂ := hafter.symm
            obtain ⟨w, hw, hredeploys⟩ := (resolveProvider_redeploys hresolve).mp hredeploy
            refine ⟨?_, w, .tail _ (.tail _ (List.mem_append_left _ hw)), hredeploys⟩
            rcases Prog.exec_ask_bind.mp hrun with ⟨reply, te, -, heq, -⟩ | ⟨reply, e', heq, -⟩
            · rw [(List.cons.inj heq).1]
              exact ⟨_, rfl⟩
            · rw [(List.cons.inj heq).1]
              exact ⟨_, rfl⟩
      · exact absurd hrest (hlate l)
    · cases (settleRedeploy_ok hok hthrew).2
    · cases (settleRedeploy_ok hok hdiverged).2
  · exact absurd hnil (by simp)

end Calls

/-! ### The request and the takeover -/

/-- After a redeploy the request is only sent once the new deployment has taken over. -/
def WaitsForTakeover (client : SetupApiClient) (options : ApplyOptions) (s : Rollout)
    (moments : List Moment) : Prop :=
  ∀ before e after m, moments = before ++ .call e :: after → IsSetupRun client e.call →
    (∃ w ∈ calls before, Redeploys options.service w.call) →
    (rollout options.service options.instanceBaseUrl).Run s before m → m = .settled

/-- A health check falls into the rollout, and the next call still does. -/
def AnsweredByOld (options : ApplyOptions) (s : Rollout) (moments : List Moment) : Prop :=
  ∃ before e e' after, moments = before ++ .call e :: .call e' :: after ∧
    IsHealthCheck options.instanceBaseUrl e.call ∧
    (rollout options.service options.instanceBaseUrl).Run s before .replacing

section Waits

variable {rt : Runtime} {fuel : ℕ} {candidateProfile : Json} {options : ApplyOptions}
  {dependencies : ApplyProfileDependencies} {moments : List Moment} {s s' : Rollout}
  {o : Outcome Failure ApplyResult}

theorem calls_append (before after : List Moment) :
    calls (before ++ after) = calls before ++ calls after :=
  List.filterMap_append

theorem calls_cons_call (e : Event Platform) (after : List Moment) :
    calls (.call e :: after) = e :: calls after := rfl

/-- The last call before a moment. -/
theorem calls_eq_concat {t : Trace} {c : Event Platform} (h : calls moments = t ++ [c]) :
    ∃ before after, moments = before ++ .call c :: after ∧ calls after = [] := by
  obtain ⟨before, rest, rfl, -, hrest⟩ := List.filterMap_eq_append_iff.mp h
  obtain ⟨quiet, l, after, rfl, -, hl, hafter⟩ := List.filterMap_eq_cons_iff.mp hrest
  cases l with
  | takesOver => cases hl
  | call e =>
      cases hl
      exact ⟨before ++ quiet, after, by simp, hafter⟩

/-- **When the applier waits out its redeploy.**  In every run, whenever the rollout
is over, the request reaches the new deployment exactly when no health check is
answered by the old one with the old one still serving at the next call. -/
theorem applyProfile_waits_iff [Zod]
    (h : (applyProfile rt fuel candidateProfile options dependencies).Exec (calls moments) o)
    (hr : (rollout options.service options.instanceBaseUrl).Run s moments s') :
    WaitsForTakeover dependencies.setupApiClient options s moments ↔
      ¬ AnsweredByOld options s moments := by
  constructor
  · rintro hwaits ⟨before, e, e', after, rfl, he, hreplacing⟩
    obtain ⟨m, hbefore, hrest⟩ := Lts.run_append.mp hr
    obtain rfl := rollout_unique hbefore hreplacing
    obtain ⟨m, hstep, -⟩ := Lts.run_cons.mp hrest
    obtain ⟨json, rfl⟩ := rollout_stale hstep he
    -- the old instance has answered well, so the next call is the request
    rw [calls_append] at h
    have hok : (⟨200, json⟩ : Response).ok = true := rfl
    obtain ⟨hrun, w, hw, hredeploys⟩ := health_then_setupRun hok h
    have hnext : (rollout options.service options.instanceBaseUrl).Run s
        (before ++ [.call ⟨.fetch (healthRequest options.instanceBaseUrl), .ok ⟨200, json⟩⟩])
        .replacing :=
      Lts.run_append.mpr ⟨.replacing, hreplacing, Lts.run_singleton.mpr .stale⟩
    have hsettled := hwaits _ e' after .replacing (by simp) hrun
      ⟨w, by rw [calls_append]; exact List.mem_append_left _ hw, hredeploys⟩ hnext
    cases hsettled
  · rintro hno before e after m rfl he hw hbefore
    cases m with
    | settled => rfl
    | replacing =>
        rw [calls_append, calls_cons_call] at h
        obtain ⟨t₀, c, hcalls, hc⟩ := health_before_setupRun h he hw
        obtain ⟨early, quiet, rfl, hquiet⟩ := calls_eq_concat hcalls
        obtain ⟨m, hearly, hlate⟩ := Lts.run_append.mp hbefore
        obtain ⟨m', hstep, hrest⟩ := Lts.run_cons.mp hlate
        -- nothing has taken over between the check and the request
        obtain ⟨rfl, rfl⟩ := rollout_quiet hrest hquiet
        obtain rfl := rollout_health hstep hc
        exact absurd ⟨early, c, e, after, by simp, hc, hearly⟩ hno

end Waits

/-! ### A request that is too early -/

/-- A provider whose key is read from a variable of the instance, so that writing it
needs a new deployment. -/
def redeployingProfile : Json :=
  .obj [("attachments", .obj [("modelProviders", .arr [.obj [("nonSecretConfig", .obj [
      ("authGroup", .str "openrouter"), ("authChoice", .str "openrouter-api-key"),
      ("flow", .str "quickstart"),
      ("keyProvisioning", .obj [("method", .str "openrouter-provisioning-api"),
        ("spendLimitUsd", .num (.ofNat 10)), ("limitReset", .str "monthly")]),
      ("customProviderApiKeyEnv", .str "OPENROUTER_API_KEY")]),
    ("requiredSecretNames", .arr [.str "CLIENT_OPENROUTER_API_KEY"])]])])]

/-- Every health check is answered with 200, and the instance is not configured. -/
def redeployingRun : Trace × Outcome Failure ApplyResult :=
  (applyProfile setupRuntime 1 redeployingProfile setupOptions setupDependencies).play
    (freshEnvironment (.ok "")) ()

theorem redeployingRun_exec :
    (applyProfile setupRuntime 1 redeployingProfile setupOptions setupDependencies).Exec
      redeployingRun.1 redeployingRun.2 :=
  Prog.play_exec (I := Platform) (freshEnvironment (.ok ""))
    (applyProfile setupRuntime 1 redeployingProfile setupOptions setupDependencies) ()

/-- What is sent before the health check. -/
def redeployingStart : Trace :=
  [⟨.fetch (getRequest setupDependencies.setupApiClient "/setup/api/status"),
      .ok unconfiguredResponse⟩,
    ⟨.run (variableListArgs "client") none, .ok "\x7b\x7d"⟩,
    ⟨.fetch (mintRequest ⟨"CLIENT_OPENROUTER_API_KEY", .ofNat 10, "monthly"⟩ "sk-or-management"),
      .ok mintResponse⟩,
    ⟨.run (variableSetArgs "CLIENT_OPENROUTER_API_KEY" "client" false) (some "sk-or-key"), .ok ""⟩,
    ⟨.now, 0⟩]

/-- The health check, the request and the last look at the status. -/
def redeployingEnd : Trace :=
  [⟨.fetch (healthRequest "https://client.example"), .ok unconfiguredResponse⟩,
    ⟨.fetch (postRequest setupDependencies.setupApiClient "/setup/api/run" (.obj [
        ("authChoice", .str "openrouter-api-key"), ("flow", .str "quickstart"),
        ("authSecret", .str "sk-or-key"), ("customProviderApiKeyEnv", .str "OPENROUTER_API_KEY")])),
      .ok unconfiguredResponse⟩,
    ⟨.fetch (getRequest setupDependencies.setupApiClient "/setup/api/status"),
      .ok unconfiguredResponse⟩]

set_option maxRecDepth 4000 in
/-- The run is the part before the redeploy is known and the part after it. -/
theorem redeployingRun_trace : redeployingRun.1 = redeployingStart ++ redeployingEnd := rfl

theorem calls_map_call (t : Trace) : calls (t.map .call) = t := by
  rw [calls, List.filterMap_map]
  exact List.filterMap_some

/-- A call that neither starts a deployment nor checks the health changes nothing. -/
theorem rollout_other {s : Rollout} {e : Event Platform}
    (h : ∀ args stdin, e.call ≠ .run args stdin)
    (hhealth : e.call ≠ .fetch (healthRequest "https://client.example")) :
    RolloutStep "client" "https://client.example" s (.call e) s := by
  apply RolloutStep.other _ hhealth
  rintro ⟨name, value, hcall⟩
  exact h _ _ hcall

/-- Another request changes nothing. -/
theorem rollout_fetch {s : Rollout} {request : FetchRequest} {reply : Except String Response}
    (h : request.url ≠ (healthRequest "https://client.example").url) :
    RolloutStep "client" "https://client.example" s (.call ⟨.fetch request, reply⟩) s := by
  apply rollout_other
  · exact fun _ _ hcall => (by cases hcall)
  · exact fun hcall => h (congrArg FetchRequest.url (Call.fetch.inj hcall))

/-- The instance is being replaced by then. -/
theorem redeployingStart_run :
    (rollout "client" "https://client.example").Run .settled (redeployingStart.map .call)
      .replacing := by
  have hlist : ¬ Redeploys "client" (.run (variableListArgs "client") none) := by
    rintro ⟨name, value, hcall⟩
    cases (Call.run.inj hcall).2
  refine ⟨_, rollout_fetch (by decide), _, .other hlist ?_, _, rollout_fetch (by decide),
    .replacing, .started ⟨_, _, rfl⟩, _, rollout_other ?_ ?_, rfl⟩
  · exact fun h => (by cases h)
  · exact fun _ _ h => (by cases h)
  · exact fun h => (by cases h)

theorem redeployingEnd_run (s : Rollout) :
    (rollout "client" "https://client.example").Run s (redeployingEnd.map .call) s := by
  have hcheck : RolloutStep "client" "https://client.example" s
      (.call ⟨.fetch (healthRequest "https://client.example"), .ok unconfiguredResponse⟩) s := by
    cases s with
    | settled => exact .checked
    | replacing => exact .stale
  exact ⟨_, hcheck, _, rollout_fetch (by decide), _, rollout_fetch (by decide), rfl⟩

/-- The deployment takes over after the last call. -/
def lateMoments : List Moment := (redeployingStart ++ redeployingEnd).map .call

/-- **A request that is too early.**  The old instance answers the health check, and it
is the one that is configured. -/
theorem lateMoments_too_early :
    (applyProfile setupRuntime 1 redeployingProfile setupOptions setupDependencies).Exec
        (calls lateMoments) redeployingRun.2 ∧
      (rollout "client" "https://client.example").Run .settled lateMoments .replacing ∧
      ¬ WaitsForTakeover setupDependencies.setupApiClient setupOptions .settled lateMoments := by
  refine ⟨?_, ?_, ?_⟩
  · rw [lateMoments, calls_map_call, ← redeployingRun_trace]
    exact redeployingRun_exec
  · rw [lateMoments, List.map_append]
    exact Lts.run_append.mpr ⟨_, redeployingStart_run, redeployingEnd_run _⟩
  · intro hwaits
    have hcheck : (rollout "client" "https://client.example").Run .settled
        ((redeployingStart ++ redeployingEnd.take 1).map .call) .replacing := by
      rw [List.map_append]
      exact Lts.run_append.mpr ⟨_, redeployingStart_run, Lts.run_singleton.mpr .stale⟩
    have hwrite : ∃ w ∈ calls ((redeployingStart ++ redeployingEnd.take 1).map .call),
        Redeploys "client" w.call := by
      rw [calls_map_call]
      exact ⟨⟨.run (variableSetArgs "CLIENT_OPENROUTER_API_KEY" "client" false) (some "sk-or-key"),
        .ok ""⟩, by simp [redeployingStart], _, _, rfl⟩
    have hsettled := hwaits ((redeployingStart ++ redeployingEnd.take 1).map .call) _ _ _ rfl
      ⟨_, rfl⟩ hwrite hcheck
    cases hsettled

/-- Its health was not checked before. -/
theorem redeployingStart_unchecked :
    ∀ e ∈ redeployingStart, ¬ IsHealthCheck "https://client.example" e.call := by
  have hfetch : ∀ {request : FetchRequest},
      request.url ≠ (healthRequest "https://client.example").url →
      ¬ IsHealthCheck "https://client.example" (.fetch request) := fun hne hcall =>
    hne (congrArg FetchRequest.url (Call.fetch.inj hcall))
  intro e he
  simp only [redeployingStart, List.mem_cons, List.not_mem_nil, or_false] at he
  rcases he with rfl | rfl | rfl | rfl | rfl
  · exact hfetch (by decide)
  · exact fun h => (by cases h)
  · exact hfetch (by decide)
  · exact fun h => (by cases h)
  · exact fun h => (by cases h)

theorem redeployingEnd_quiet : ∀ w ∈ redeployingEnd, ¬ Redeploys "client" w.call := by
  have hfetch : ∀ w ∈ redeployingEnd, ∃ request, w.call = .fetch request := by
    intro w hw
    simp only [redeployingEnd, List.mem_cons, List.not_mem_nil, or_false] at hw
    rcases hw with rfl | rfl | rfl
    · exact ⟨_, rfl⟩
    · exact ⟨_, rfl⟩
    · exact ⟨_, rfl⟩
  rintro w hw ⟨name, value, hcall⟩
  obtain ⟨request, hrequest⟩ := hfetch w hw
  rw [hrequest] at hcall
  cases hcall

/-- The deployment takes over before the health check. -/
def timelyMoments : List Moment :=
  redeployingStart.map .call ++ .takesOver :: redeployingEnd.map .call

/-- A rollout that ends in time is waited for. -/
theorem timelyMoments_waits :
    WaitsForTakeover setupDependencies.setupApiClient setupOptions .settled timelyMoments := by
  have hrun : (rollout "client" "https://client.example").Run .settled timelyMoments .settled :=
    Lts.run_append.mpr ⟨_, redeployingStart_run, .settled, .takesOver, redeployingEnd_run _⟩
  have hexec : (applyProfile setupRuntime 1 redeployingProfile setupOptions setupDependencies).Exec
      (calls timelyMoments) redeployingRun.2 := by
    have hcalls : calls timelyMoments = redeployingStart ++ redeployingEnd := by
      rw [timelyMoments, calls_append, calls_map_call]
      exact congrArg (redeployingStart ++ ·) (calls_map_call redeployingEnd)
    rw [hcalls, ← redeployingRun_trace]
    exact redeployingRun_exec
  refine (applyProfile_waits_iff hexec hrun).mpr ?_
  rintro ⟨before, e, e', after, hmoments, he, hreplacing⟩
  rcases List.append_eq_append_iff.mp hmoments with ⟨l, rfl, hlate⟩ | ⟨l, hearly, hrest⟩
  · cases l with
    | nil => cases (List.cons.inj hlate).1
    | cons c l =>
        -- from the takeover on the new deployment serves
        obtain rfl : c = .takesOver := (List.cons.inj hlate).1.symm
        have hend : redeployingEnd.map .call = l ++ .call e :: .call e' :: after :=
          (List.cons.inj hlate).2
        obtain ⟨m, hstart, hrest⟩ := Lts.run_append.mp hreplacing
        obtain rfl := rollout_unique hstart redeployingStart_run
        obtain ⟨m, hstep, htail⟩ := Lts.run_cons.mp hrest
        cases hstep
        have hquiet : ∀ w ∈ calls l, ¬ Redeploys "client" w.call := by
          intro w hw
          apply redeployingEnd_quiet
          rw [← calls_map_call redeployingEnd, hend, calls_append]
          exact List.mem_append_left _ hw
        cases rollout_settled htail hquiet
  · cases l with
    | nil => cases (List.cons.inj hrest).1
    | cons c l =>
        obtain rfl : c = Moment.call e := (List.cons.inj hrest).1.symm
        have hmem : Moment.call e ∈ redeployingStart.map Moment.call := by
          rw [hearly]
          exact List.mem_append_right _ (.head _)
        obtain ⟨e'', he'', heq⟩ := List.mem_map.mp hmem
        obtain rfl := Moment.call.inj heq
        exact redeployingStart_unchecked e'' he'' he

end Setup
