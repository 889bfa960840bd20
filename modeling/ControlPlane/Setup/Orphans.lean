/-
ControlPlane/Setup/Orphans.lean

What becomes of a key that is minted.

The world of the two flows is the list of keys that live at OpenRouter and the
variables of the service; `AccountsStep` says what each call does to it.  A write or
a deletion that fails may have taken effect all the same; a write that had none is
recorded as lost.

A key is `Traceable` at the end of a flow when it lived before, is stored under the
profile's secret name or has its hash in the result.  The regression check leaves
only such keys, since it always returns the hash (`runRegressionCheck_ends`);
`applyProfile` does unless the write of the key is lost, for then it throws, and the
hash with it (`flow_leaves_traceable_iff`).
-/
import ControlPlane.Setup.Regression
import ControlPlane.Setup.Rejection
import ControlPlane.Interaction.Hoare

namespace Setup

open Js Railway Interaction

/-! ### The accounts -/

/-- The keys that live, the variables of a service, and the writes that were lost. -/
structure Accounts where
  keys : List MintedOpenRouterKey
  vars : List (String × String)
  lost : List (String × String)

/-- A key is minted. -/
def Accounts.addKey (key : MintedOpenRouterKey) (s : Accounts) : Accounts :=
  { s with keys := key :: s.keys }

/-- A key is deleted. -/
def Accounts.removeKey (hash : String) (s : Accounts) : Accounts :=
  { s with keys := s.keys.filter (·.hash ≠ hash) }

/-- A variable is written. -/
def Accounts.setVariable (name value : String) (s : Accounts) : Accounts :=
  { s with vars := (name, value) :: s.vars }

/-- A write is lost. -/
def Accounts.loseVariable (name value : String) (s : Accounts) : Accounts :=
  { s with lost := (name, value) :: s.lost }

/-- A request that creates a key. -/
def Mints (request : FetchRequest) : Prop :=
  request.method = "POST" ∧ request.url = OPENROUTER_KEYS_URL

/-- A request that deletes the key of this hash. -/
def Deletes (hash : String) (request : FetchRequest) : Prop :=
  request.method = "DELETE" ∧ request.url = OPENROUTER_KEYS_URL ++ "/" ++ hash

/-- A call that has nothing to do with the accounts. -/
def Elsewhere : Call → Prop
  | .fetch request => ¬ Mints request ∧ ∀ hash, ¬ Deletes hash request
  | .run _ _ => False
  | _ => True

/-- What a call does to the accounts.  A key that is created has a hash of its own. -/
inductive AccountsStep (rt : Runtime) (service : String) :
    Accounts → Event Platform → Accounts → Prop
  | minted {s : Accounts} {request : FetchRequest} {reply : Except String Response}
      {key : MintedOpenRouterKey} (hmints : Mints request) (hreply : mintedKey reply = .ok key)
      (hnew : ∀ live ∈ s.keys, live.hash ≠ key.hash) :
      AccountsStep rt service s ⟨.fetch request, reply⟩ (s.addKey key)
  | mintFailed {s : Accounts} {request : FetchRequest} {reply : Except String Response}
      {e : Failure} (hmints : Mints request) (hreply : mintedKey reply = .error e) :
      AccountsStep rt service s ⟨.fetch request, reply⟩ s
  | deleted {s : Accounts} {request : FetchRequest} {reply : Except String Response}
      {hash : String} (hdeletes : Deletes hash request) :
      AccountsStep rt service s ⟨.fetch request, reply⟩ (s.removeKey hash)
  | deleteFailed {s : Accounts} {request : FetchRequest} {reply : Except String Response}
      {hash : String} {e : Failure} (hdeletes : Deletes hash request)
      (hreply : deletedKey reply = .error e) :
      AccountsStep rt service s ⟨.fetch request, reply⟩ s
  | listed {s : Accounts} {text : String} {fields : List (String × Json)}
      (hparse : rt.jsonParse text = .ok (.obj fields))
      (hfields : ∀ name, fields.lookup name = (s.vars.lookup name).map .str) :
      AccountsStep rt service s ⟨.run (variableListArgs service) none, .ok text⟩ s
  | listFailed {s : Accounts} {message : String} :
      AccountsStep rt service s ⟨.run (variableListArgs service) none, .error message⟩ s
  | written {s : Accounts} {name value : String} {skipDeploys : Bool}
      {reply : Except String String} :
      AccountsStep rt service s
        ⟨.run (variableSetArgs name service skipDeploys) (some value), reply⟩
        (s.setVariable name value)
  | writeLost {s : Accounts} {name value message : String} {skipDeploys : Bool} :
      AccountsStep rt service s
        ⟨.run (variableSetArgs name service skipDeploys) (some value), .error message⟩
        (s.loseVariable name value)
  | other {s : Accounts} {e : Event Platform} (h : Elsewhere e.call) :
      AccountsStep rt service s e s

/-- The accounts as a transition system over calls and replies. -/
def accounts (rt : Runtime) (service : String) : Lts Accounts (Event Platform) where
  step := AccountsStep rt service

section Steps

variable {rt : Runtime} {service : String} {s s' : Accounts} {request : FetchRequest}
  {response : Except String Response} {args : List String} {stdin : Option String}
  {reply : Except String String}

theorem Deletes.not_mints {hash : String} (h : Deletes hash request) : ¬ Mints request := by
  rintro ⟨hpost, -⟩
  exact absurd (hpost.symm.trans h.1) (by decide)

/-- A call elsewhere changes no account. -/
theorem elsewhere_step {e : Event Platform} (he : Elsewhere e.call)
    (h : AccountsStep rt service s e s') : s' = s := by
  cases h with
  | mintFailed | deleteFailed | listed | listFailed | other => rfl
  | minted hmints => exact absurd hmints he.1
  | deleted hdeletes => exact absurd hdeletes (he.2 _)
  | written | writeLost => exact he.elim

/-- A create request adds the key its response is read as. -/
theorem mint_step (h : AccountsStep rt service s ⟨.fetch request, response⟩ s')
    (hmints : Mints request) :
    (∃ key, mintedKey response = .ok key ∧ (∀ live ∈ s.keys, live.hash ≠ key.hash) ∧
      s' = s.addKey key) ∨ ∃ e, mintedKey response = .error e ∧ s' = s := by
  cases h with
  | minted _ hreply hnew => exact .inl ⟨_, hreply, hnew, rfl⟩
  | mintFailed _ hreply => exact .inr ⟨_, hreply, rfl⟩
  | deleted hdeletes => exact absurd hmints hdeletes.not_mints
  | deleteFailed hdeletes => exact absurd hmints hdeletes.not_mints
  | other he => exact absurd hmints he.1

/-- Nothing but a create request adds a key. -/
theorem keys_step {e : Event Platform} (h : AccountsStep rt service s e s')
    (he : ∀ request, e.call = .fetch request → ¬ Mints request) : s'.keys ⊆ s.keys := by
  cases h with
  | minted hmints => exact absurd hmints (he _ rfl)
  | deleted => exact List.filter_subset_self _
  | mintFailed | deleteFailed | listed | listFailed | written | writeLost | other =>
      exact List.Subset.refl _

/-- A listing changes nothing; one that succeeds prints the variables. -/
theorem list_step (h : AccountsStep rt service s ⟨.run args stdin, reply⟩ s')
    (hargs : args = variableListArgs service) :
    s' = s ∧ ∀ vars, printed rt reply = .ok vars → ∃ fields, vars = .obj fields ∧
      ∀ name, fields.lookup name = (s.vars.lookup name).map .str := by
  cases h with
  | @listed text fields hparse hfields =>
      refine ⟨rfl, ?_⟩
      intro vars hvars
      change settled (rt.jsonParse text) = _ at hvars
      rw [hparse] at hvars
      cases hvars
      exact ⟨fields, rfl, hfields⟩
  | listFailed => exact ⟨rfl, fun _ hvars => (nomatch hvars)⟩
  | written => simp [variableSetArgs, variableListArgs] at hargs
  | writeLost => simp [variableSetArgs, variableListArgs] at hargs
  | other he => exact he.elim

/-- A write has stored the value, or failed and lost it. -/
theorem write_step {name value : String} {skipDeploys : Bool}
    (h : AccountsStep rt service s ⟨.run args stdin, reply⟩ s')
    (hargs : args = variableSetArgs name service skipDeploys) (hstdin : stdin = some value) :
    s' = s.setVariable name value ∨
      (∃ message, reply = .error message) ∧ s' = s.loseVariable name value := by
  cases h with
  | listed => simp at hstdin
  | listFailed => simp at hstdin
  | @written name' value' skipDeploys' =>
      have hname : name' = name := (List.cons.inj (List.cons.inj (List.cons.inj hargs).2).2).1
      have hvalue : value' = value := Option.some.inj hstdin
      rw [hname, hvalue]
      exact .inl rfl
  | @writeLost name' value' message skipDeploys' =>
      have hname : name' = name := (List.cons.inj (List.cons.inj (List.cons.inj hargs).2).2).1
      have hvalue : value' = value := Option.some.inj hstdin
      rw [hname, hvalue]
      exact .inr ⟨⟨message, rfl⟩, rfl⟩
  | other he => exact he.elim

end Steps

/-! ### The calls of the flows -/

section Calls

variable {fuel : ℕ} {client : SetupApiClient} {instanceBaseUrl : String}

theorem elsewhere_get {request : FetchRequest} (h : request.method = "GET") :
    Elsewhere (.fetch request) := by
  refine ⟨?_, ?_⟩
  · rintro ⟨hpost, -⟩
    exact absurd (h.symm.trans hpost) (by decide)
  · rintro hash ⟨hdelete, -⟩
    exact absurd (h.symm.trans hdelete) (by decide)

/-- The setup API is not where keys are created: the last characters differ. -/
theorem elsewhere_run (payload : Json) :
    Elsewhere (.fetch (postRequest client "/setup/api/run" payload)) := by
  refine ⟨?_, ?_⟩
  · rintro ⟨-, hurl⟩
    have hlast : (client.baseUrl ++ "/setup/api/run").toList.getLast? =
        OPENROUTER_KEYS_URL.toList.getLast? :=
      congrArg (fun url : String => url.toList.getLast?) hurl
    have hpath : "/setup/api/run".toList.getLast? = some 'n' := by decide
    rw [String.toList_append, List.getLast?_append, hpath, Option.some_or] at hlast
    exact absurd hlast (by decide)
  · rintro hash ⟨hdelete, -⟩
    have hpost : "POST" = "DELETE" := hdelete
    exact absurd hpost (by decide)

theorem getStatus_elsewhere : client.getStatus.Only Elsewhere :=
  Prog.only_ask (elsewhere_get rfl)

theorem getHealth_elsewhere : (getHealth instanceBaseUrl).Only Elsewhere :=
  Prog.only_ask (elsewhere_get rfl)

/-- The calls of the health poll. -/
theorem healthRounds_only {P : Call → Prop} {pollSeconds timeoutSeconds : ℕ} {deadline : ℤ}
    (hhealth : P (.fetch (healthRequest instanceBaseUrl))) (hnow : P .now)
    (hsleep : ∀ ms, P (.sleep ms)) :
    (healthRounds instanceBaseUrl pollSeconds timeoutSeconds deadline fuel).Only P := by
  induction fuel with
  | zero => trivial
  | succ fuel ih =>
      apply Prog.Only.bind (Prog.only_ask hhealth)
      intro response
      split
      · trivial
      · apply Prog.Only.bind (Prog.only_perform.mpr hnow)
        intro time
        split
        · trivial
        · exact Prog.Only.bind (Prog.only_perform.mpr (hsleep _)) fun _ => ih

/-- The wait for a redeploy asks the instance, asks for the time and sleeps. -/
theorem settleRedeploy_only {P : Call → Prop} {options : ApplyOptions} {redeployTriggered : Bool}
    (hhealth : P (.fetch (healthRequest options.instanceBaseUrl))) (hnow : P .now)
    (hsleep : ∀ ms, P (.sleep ms)) : (settleRedeploy fuel options redeployTriggered).Only P := by
  unfold settleRedeploy
  split
  · exact Prog.Only.bind (Prog.only_perform.mpr hnow) fun _ => healthRounds_only hhealth hnow hsleep
  · trivial

theorem settleRedeploy_elsewhere {options : ApplyOptions} {redeployTriggered : Bool} :
    (settleRedeploy fuel options redeployTriggered).Only Elsewhere :=
  settleRedeploy_only (elsewhere_get rfl) trivial fun _ => trivial

theorem runSetup_elsewhere {payload : Json} {mintedKeyHash : Option String} :
    (runSetup client payload mintedKeyHash).Only Elsewhere := by
  apply Prog.Only.bind (Prog.only_ask (elsewhere_run payload))
  intro _
  apply Prog.Only.bind getStatus_elsewhere
  intro status
  split
  · trivial
  · trivial

/-- What follows the provider's secret leaves the accounts alone. -/
theorem applyChannels_elsewhere {profile : ClientProfile} {existingVars : Json}
    {options : ApplyOptions} {resolution : ProviderResolution} :
    (applyChannels fuel profile existingVars options client resolution).Only Elsewhere :=
  Prog.Only.bind Prog.only_ofExcept fun _ =>
    settleRedeploy_elsewhere.bind fun _ => runSetup_elsewhere

end Calls

/-! ### Applying a profile -/

/-- The profile has one provider, and this is the name of its secret. -/
def Declares [Zod] (candidateProfile : Json) (secretName : String) : Prop :=
  ∃ profile provider, parseClientProfile candidateProfile = .ok profile ∧
    profile.modelProviders = [provider] ∧ provider.requiredSecretNames.head? = some secretName

/-- Nothing was minted, or what was minted is stored. -/
def Stored [Zod] (candidateProfile : Json) (s₀ s : Accounts) : Prop :=
  s = s₀ ∨ ∃ secretName key, Declares candidateProfile secretName ∧
    s = (s₀.addKey key).setVariable secretName key.key

/-- What was minted is not stored. -/
def Lost [Zod] (candidateProfile : Json) (s₀ s : Accounts) : Prop :=
  ∃ secretName key, Declares candidateProfile secretName ∧ s₀.vars.lookup secretName = none ∧
    (∀ live ∈ s₀.keys, live.hash ≠ key.hash) ∧
    s = (s₀.addKey key).loseVariable secretName key.key

section Apply

variable {rt : Runtime} {fuel : ℕ} {candidateProfile : Json} {options : ApplyOptions}
  {dependencies : ApplyProfileDependencies} {profile : ClientProfile}
  {fields : List (String × Json)} {service : String} {s₀ : Accounts}

/-- What is elsewhere keeps whatever holds of the accounts. -/
theorem elsewhere_triple {α : Type} {p : Tool α} {J : Accounts → Prop} (hp : p.Only Elsewhere) :
    Prog.Triple (accounts rt service) J p (fun _ => J) J := by
  have hkept : Prog.Triple (accounts rt service) J p (fun _ s => True ∧ J s) J := by
    apply hp.triple
    · intro s e s' he hs hstep
      rw [elsewhere_step he hstep]
      exact hs
    · intro _ _ _
      trivial
  exact hkept.mono (fun _ => id) (fun _ _ h => h.2) fun _ => id

/-- A name the variables do not have is not stored. -/
theorem lookup_eq_none_of_get {secretName : String}
    (hfields : ∀ name, fields.lookup name = (s₀.vars.lookup name).map .str)
    (h : (Json.obj fields).get secretName = .undefined) : s₀.vars.lookup secretName = none := by
  cases hvalue : s₀.vars.lookup secretName with
  | none => rfl
  | some value =>
      have hlookup : fields.lookup secretName = some (.str value) := by
        rw [hfields, hvalue]
        rfl
      simp [Json.get, Json.fields, hlookup] at h

/-- The key is minted, and then its write stores or loses it. -/
theorem mintSecret_triple [Zod] {secretName managementKey : String}
    {keyProvisioning : KeyProvisioning} {requiresRedeploy : Bool}
    (hdeclares : Declares candidateProfile secretName)
    (hnone : s₀.vars.lookup secretName = none) :
    Prog.Triple (accounts rt service) (· = s₀)
      (mintSecret secretName keyProvisioning requiresRedeploy service managementKey)
      (fun _ => Stored candidateProfile s₀)
      (fun s => Stored candidateProfile s₀ s ∨ Lost candidateProfile s₀ s) := by
  have hmint : Prog.Triple (accounts rt service) (· = s₀)
      (mintOpenRouterKey ⟨secretName, keyProvisioning.spendLimitUsd, keyProvisioning.limitReset⟩
        managementKey)
      (fun key s => (∀ live ∈ s₀.keys, live.hash ≠ key.hash) ∧ s = s₀.addKey key)
      (fun s => Stored candidateProfile s₀ s ∨ Lost candidateProfile s₀ s) := by
    apply Prog.triple_ask
    · rintro s reply s' key rfl hstep hkey
      rcases mint_step hstep ⟨rfl, rfl⟩ with ⟨key', hkey', hnew, rfl⟩ | ⟨e, he, -⟩
      · rw [hkey] at hkey'
        cases hkey'
        exact ⟨hnew, rfl⟩
      · rw [hkey] at he
        cases he
    · rintro s reply s' e rfl hstep he
      rcases mint_step hstep ⟨rfl, rfl⟩ with ⟨key', hkey', -, -⟩ | ⟨e', -, rfl⟩
      · rw [he] at hkey'
        cases hkey'
      · exact .inl (.inl rfl)
  apply hmint.bind
  intro key
  apply Prog.triple_of_fact
  intro hnew
  rw [writeRailwayVariable_eq]
  refine Prog.Triple.bind (Q := fun _ => Stored candidateProfile s₀) (Prog.triple_ask ?_ ?_)
    fun _ => Prog.triple_pure fun _ h => h
  -- a write that is reported to have succeeded has
  · rintro s reply s' _ rfl hstep hdone
    rcases write_step hstep rfl rfl with rfl | ⟨⟨message, rfl⟩, -⟩
    · exact .inr ⟨secretName, key, hdeclares, rfl⟩
    · cases hdone
  -- a write that is reported to have failed may have succeeded
  · rintro s reply s' e rfl hstep _
    rcases write_step hstep rfl rfl with rfl | ⟨-, rfl⟩
    · exact .inl (.inr ⟨secretName, key, hdeclares, rfl⟩)
    · exact .inr ⟨secretName, key, hdeclares, hnone, hnew, rfl⟩

/-- From the listing on. -/
theorem applyAttachments_triple [Zod] (hprofile : parseClientProfile candidateProfile = .ok profile)
    (hfields : ∀ name, fields.lookup name = (s₀.vars.lookup name).map .str) :
    Prog.Triple (accounts rt service) (· = s₀)
      (applyAttachments fuel profile (.obj fields) { options with service } dependencies)
      (fun _ => Stored candidateProfile s₀)
      (fun s => Stored candidateProfile s₀ s ∨ Lost candidateProfile s₀ s) := by
  have hstored : ∀ s, s = s₀ → Stored candidateProfile s₀ s := fun s hs => .inl hs
  have hchannels : ∀ resolution, Prog.Triple (accounts rt service) (Stored candidateProfile s₀)
      (applyChannels fuel profile (.obj fields) { options with service }
        dependencies.setupApiClient resolution)
      (fun _ => Stored candidateProfile s₀)
      (fun s => Stored candidateProfile s₀ s ∨ Lost candidateProfile s₀ s) := fun _ =>
    (elsewhere_triple applyChannels_elsewhere).mono (fun _ => id) (fun _ _ => id) fun _ => .inl
  apply Prog.triple_ofExcept_bind
  · intro sole hsole
    cases sole with
    | none => exact (hchannels _).mono hstored (fun _ _ => id) fun _ => id
    | some provider =>
        have hproviders : profile.modelProviders = [provider] := soleProvider_some hsole
        simp only [resolveProvider, resolveProviderSecret, bind_assoc]
        apply Prog.triple_ofExcept_bind
        · intro secret hsecret
          cases secret with
          -- a secret that is there is used, and nothing is minted
          | stored value => exact (hchannels _).mono hstored (fun _ _ => id) fun _ => id
          | toMint secretName keyProvisioning =>
              obtain ⟨hname, hvalue, -⟩ := providerSecret_toMint_iff.mp hsecret
              have hdeclares : Declares candidateProfile secretName :=
                ⟨profile, provider, hprofile, hproviders, hname⟩
              exact (mintSecret_triple hdeclares (lookup_eq_none_of_get hfields hvalue)).bind
                fun _ => hchannels _
        · exact fun _ _ s hs => .inl (hstored s hs)
  · exact fun _ _ s hs => .inl (hstored s hs)

/-- **Applying a profile**: when it returns, what it minted is stored; when it does
not, that may also be lost. -/
theorem applyProfile_triple [Zod] :
    Prog.Triple (accounts rt options.service) (· = s₀)
      (applyProfile rt fuel candidateProfile options dependencies)
      (fun _ => Stored candidateProfile s₀)
      (fun s => Stored candidateProfile s₀ s ∨ Lost candidateProfile s₀ s) := by
  have hstored : ∀ s, s = s₀ → Stored candidateProfile s₀ s := fun s hs => .inl hs
  apply Prog.triple_ofExcept_bind
  · intro profile hprofile
    refine Prog.Triple.bind (Q := fun _ => (· = s₀))
      ((elsewhere_triple getStatus_elsewhere).mono (fun _ => id) (fun _ _ => id)
        fun s hs => .inl (hstored s hs)) ?_
    intro status
    split
    · exact Prog.triple_pure hstored
    · rw [listRailwayVariables_eq]
      have hlist : Prog.Triple (accounts rt options.service) (· = s₀)
          (Prog.ask (I := Platform) (.run (variableListArgs options.service) none) (printed rt))
          (fun vars s => (∃ fields, vars = .obj fields ∧
            ∀ name, fields.lookup name = (s₀.vars.lookup name).map .str) ∧ s = s₀)
          (fun s => Stored candidateProfile s₀ s ∨ Lost candidateProfile s₀ s) := by
        apply Prog.triple_ask
        · rintro s reply s' vars rfl hstep hvars
          obtain ⟨rfl, hlisted⟩ := list_step hstep rfl
          exact ⟨hlisted vars hvars, rfl⟩
        · rintro s reply s' e rfl hstep -
          exact .inl (hstored s' (list_step hstep rfl).1)
      apply hlist.bind
      intro vars
      apply Prog.triple_of_fact
      rintro ⟨fields, rfl, hfields⟩
      exact applyAttachments_triple hprofile hfields
  · exact fun _ _ s hs => .inl (hstored s hs)

end Apply

/-! ### The regression check -/

section Check

variable {rt : Runtime} {α : Type} {p : Tool α} {service : String}
  {options : RegressionCheckOptions} {managementKey secretName key : String}
  {minted : MintedOpenRouterKey} {s s' : Accounts} {t : Trace}

/-- The calls that create no key. -/
def MintsNothing (c : Call) : Prop := ∀ request, c = .fetch request → ¬ Mints request

/-- A call elsewhere mints nothing. -/
theorem Elsewhere.mintsNothing {c : Call} (h : Elsewhere c) : MintsNothing c := by
  rintro request rfl
  exact h.1

theorem attempt_only {P : Call → Prop} (hp : p.Only P) : (attempt p).Only P :=
  (Prog.Only.bind hp fun _ => Prog.only_pure).tryCatch fun _ => Prog.only_pure

/-- What is attempted cannot throw. -/
theorem attempt_ends (hp : p.Ends (fun _ => True) fun _ => True) :
    (attempt p).Ends (fun _ => True) fun _ => False :=
  Prog.Ends.tryCatch (hp.bind fun _ _ => trivial) fun _ _ => trivial

theorem ask_ends {c : Call} {g : c.Reply → Except Failure α} :
    (Prog.ask (I := Platform) c g).Ends (fun _ => True) fun _ => True :=
  Prog.ends_ask (fun _ _ _ => trivial) fun _ _ _ => trivial

theorem write_mintsNothing {skipDeploys : Bool} :
    (writeRailwayVariable ⟨secretName, key, service, some skipDeploys⟩).Only MintsNothing := by
  rw [writeRailwayVariable_eq]
  exact Prog.only_ask fun request h => (nomatch h)

theorem verifyKey_mintsNothing : (verifyKey options secretName key).Only MintsNothing := by
  apply Prog.Only.bind
  · exact attempt_only (write_mintsNothing.bind fun _ =>
      getStatus_elsewhere.mono fun _ => Elsewhere.mintsNothing)
  · intro status
    cases status with
    | error e => trivial
    | ok status =>
        apply Prog.Only.bind (attempt_only (getHealth_elsewhere.mono fun _ => Elsewhere.mintsNothing))
        intro health
        cases health with
        | error e => trivial
        | ok response => trivial

/-- The check of a key does not fail. -/
theorem verifyKey_ends :
    (verifyKey options secretName key).Ends (fun _ => True) fun _ => False := by
  refine Prog.Ends.bind (attempt_ends ?_) ?_
  · rw [writeRailwayVariable_eq]
    exact ask_ends.bind fun _ _ => ask_ends
  · intro status _
    cases status with
    | error e => trivial
    | ok status =>
        refine Prog.Ends.bind (attempt_ends ask_ends) ?_
        intro health _
        cases health with
        | error e => trivial
        | ok response => trivial

theorem checkMinted_mintsNothing :
    (checkMinted options managementKey secretName minted).Only MintsNothing := by
  apply Prog.Only.bind verifyKey_mintsNothing
  intro v
  apply Prog.Only.bind (attempt_only (Prog.only_ask ?_))
  · intro deleted
    trivial
  · rintro request ⟨⟩
    have hdeletes : Deletes minted.hash (deleteRequest minted.hash managementKey) := ⟨rfl, rfl⟩
    exact hdeletes.not_mints

/-- **With a key minted the check returns**, whatever happens, and its result has
the hash of the key. -/
theorem checkMinted_ends :
    (checkMinted options managementKey secretName minted).Ends
      (fun result => result.mintedKeyHash = minted.hash) fun _ => False := by
  apply Prog.Ends.bind verifyKey_ends
  intro v _
  apply Prog.Ends.bind (attempt_ends ask_ends)
  intro deleted _
  cases deleted with
  | error e => rfl
  | ok _ => rfl

/-- A key that is there after the check was there before it, or its hash is in the
result. -/
theorem runRegressionCheck_keys [Zod] {o : Outcome Failure RegressionCheckResult}
    (h : (runRegressionCheck options managementKey).Exec t o)
    (hr : (accounts rt service).Run s t s') :
    ∀ live ∈ s'.keys, live ∈ s.keys ∨
      ∃ result, o = .returned result ∧ result.mintedKeyHash = live.hash := by
  rcases Prog.exec_ofExcept_bind.mp h with ⟨target, -, hmint⟩ | ⟨e, -, rfl, -⟩
  · rcases Prog.exec_ask_bind.mp hmint with ⟨reply, t', minted, rfl, hminted, hcheck⟩ |
      ⟨reply, e, rfl, hfailed, -⟩
    · obtain ⟨m, hstep, hrest⟩ := Lts.run_cons.mp hr
      -- from the mint on no key is added, and the check returns its hash
      have hm : m.keys ⊆ minted :: s.keys := by
        rcases mint_step hstep ⟨rfl, rfl⟩ with ⟨key, hkey, -, rfl⟩ | ⟨e, he, -⟩
        · rw [hminted] at hkey
          cases hkey
          exact List.Subset.refl _
        · rw [hminted] at he
          cases he
      have hend : s'.keys ⊆ minted :: s.keys :=
        checkMinted_mintsNothing.invariant (J := fun s' => s'.keys ⊆ minted :: s.keys) hcheck hrest
          hm fun _ _ _ hc hs hstep => List.Subset.trans (keys_step hstep hc) hs
      rcases checkMinted_ends.exec hcheck with ⟨result, rfl, hhash⟩ | ⟨-, -, hfalse⟩
      · intro live hlive
        rcases List.mem_cons.mp (hend hlive) with rfl | hold
        · exact .inr ⟨result, rfl, hhash⟩
        · exact .inl hold
      · exact hfalse.elim
    · rw [Lts.run_singleton] at hr
      rcases mint_step hr ⟨rfl, rfl⟩ with ⟨key, hkey, -, -⟩ | ⟨e', -, rfl⟩
      · rw [hfailed] at hkey
        cases hkey
      · exact fun live hlive => .inl hlive
  · rw [Lts.run_nil.mp hr]
    exact fun live hlive => .inl hlive

end Check

/-! ### Both flows -/

/-- The flows that mint. -/
inductive Flow where
  | applyProfile (candidateProfile : Json) (options : ApplyOptions)
      (dependencies : ApplyProfileDependencies)
  | runRegressionCheck (options : RegressionCheckOptions) (managementKey : String)

/-- The profile of a flow. -/
def Flow.profile : Flow → Json
  | .applyProfile candidateProfile _ _ => candidateProfile
  | .runRegressionCheck options _ => options.profile

/-- The service of a flow. -/
def Flow.service : Flow → String
  | .applyProfile _ options _ => options.service
  | .runRegressionCheck options _ => options.service

/-- Whether a flow is a check. -/
def Flow.isCheck : Flow → Bool
  | .applyProfile _ _ _ => false
  | .runRegressionCheck _ _ => true

/-- The flow, giving the hash its result has. -/
def Flow.program [Zod] (rt : Runtime) (fuel : ℕ) : Flow → Tool (Option String)
  | .applyProfile candidateProfile options dependencies => do
    let result ← Setup.applyProfile rt fuel candidateProfile options dependencies
    pure result.mintedKeyHash
  | .runRegressionCheck options managementKey => do
    let result ← Setup.runRegressionCheck options managementKey
    pure (some result.mintedKeyHash)

/-- At the end of a flow from `s`, the key was there before, is stored under the
profile's secret name, or has its hash in the result. -/
def Traceable [Zod] (candidateProfile : Json) (s s' : Accounts)
    (o : Outcome Failure (Option String)) (key : MintedOpenRouterKey) : Prop :=
  key ∈ s.keys ∨
    (∃ secretName, Declares candidateProfile secretName ∧
      s'.vars.lookup secretName = some key.key) ∨
    o = .returned (some key.hash)

section Flows

variable {rt : Runtime} {fuel : ℕ} {flow : Flow} {candidateProfile : Json} {t : Trace}
  {o : Outcome Failure (Option String)} {s s' : Accounts}

theorem Stored.lost_eq [Zod] (h : Stored candidateProfile s s') : s'.lost = s.lost := by
  rcases h with rfl | ⟨secretName, key, -, rfl⟩
  · rfl
  · rfl

/-- A key that is stored can be traced. -/
theorem Stored.traceable [Zod] (h : Stored candidateProfile s s') :
    ∀ key ∈ s'.keys, Traceable candidateProfile s s' o key := by
  intro key hkey
  rcases h with rfl | ⟨secretName, minted, hdeclares, rfl⟩
  · exact .inl hkey
  · rcases List.mem_cons.mp hkey with rfl | hold
    · exact .inr (.inl ⟨secretName, hdeclares, List.lookup_cons_self⟩)
    · exact .inl hold

/-- The profile declares at most one name. -/
theorem Declares.unique [Zod] {name name' : String} (h : Declares candidateProfile name)
    (h' : Declares candidateProfile name') : name = name' := by
  obtain ⟨profile, provider, hprofile, hproviders, hname⟩ := h
  obtain ⟨profile', provider', hprofile', hproviders', hname'⟩ := h'
  rw [hprofile] at hprofile'
  cases hprofile'
  rw [hproviders] at hproviders'
  cases hproviders'
  exact Option.some.inj (hname.symm.trans hname')

/-- A key whose write was lost cannot. -/
theorem Lost.not_traceable [Zod] (h : Lost candidateProfile s s')
    (ho : ∀ hash, o ≠ .returned hash) :
    s'.lost ≠ [] ∧ ¬ ∀ key ∈ s'.keys, Traceable candidateProfile s s' o key := by
  obtain ⟨secretName, key, hdeclares, hnone, hnew, rfl⟩ := h
  refine ⟨List.cons_ne_nil _ _, ?_⟩
  intro htraceable
  rcases htraceable key (List.mem_cons_self ..) with hold | ⟨name, hname, hstored⟩ | hreturned
  · exact hnew key hold rfl
  · have hvars : s.vars.lookup name = some key.key := hstored
    rw [hname.unique hdeclares, hnone] at hvars
    cases hvars
  · exact ho _ hreturned

/-- **When every key can be traced.**  A flow leaves no key that is neither stored
nor known by its hash exactly when it is the regression check or no write was lost,
whatever the calls are answered with and however it ends. -/
theorem flow_leaves_traceable_iff [Zod] (h : (flow.program rt fuel).Exec t o)
    (hr : (accounts rt flow.service).Run s t s') (hlost : s.lost = []) :
    (∀ key ∈ s'.keys, Traceable flow.profile s s' o key) ↔ flow.isCheck = true ∨ s'.lost = [] := by
  cases flow with
  | applyProfile candidateProfile options dependencies =>
      obtain ⟨o', hexec, rfl⟩ := Prog.exec_map.mp h
      obtain ⟨hreturned, hother⟩ := applyProfile_triple s t o' s' rfl hexec hr
      -- what is not stored was lost by a write, and then the call has thrown
      have hend : Stored candidateProfile s s' ∨
          Lost candidateProfile s s' ∧ ∀ result, o' ≠ .returned result := by
        by_cases hresult : ∃ result, o' = .returned result
        · obtain ⟨result, rfl⟩ := hresult
          exact .inl (hreturned result rfl)
        · have hno : ∀ result, o' ≠ .returned result := fun result ho => hresult ⟨result, ho⟩
          exact (hother hno).imp id fun hl => ⟨hl, hno⟩
      rcases hend with hstored | ⟨hl, hno⟩
      · have hkept : s'.lost = [] := hstored.lost_eq.trans hlost
        exact ⟨fun _ => .inr hkept, fun _ => hstored.traceable⟩
      · have hno' : ∀ hash, o'.map ApplyResult.mintedKeyHash ≠ .returned hash := by
          intro hash ho
          cases o' with
          | returned result => exact hno result rfl
          | threw e => cases ho
          | diverged => cases ho
        obtain ⟨hne, hnot⟩ := hl.not_traceable hno'
        constructor
        · intro htraceable
          exact absurd htraceable hnot
        · rintro (hcheck | hkept)
          · cases hcheck
          · exact absurd hkept hne
  | runRegressionCheck options managementKey =>
      obtain ⟨o', hexec, rfl⟩ := Prog.exec_map.mp h
      refine ⟨fun _ => .inl rfl, ?_⟩
      intro _ key hkey
      rcases runRegressionCheck_keys hexec hr key hkey with hold | ⟨result, rfl, hhash⟩
      · exact .inl hold
      · refine .inr (.inr ?_)
        rw [← hhash]
        rfl

end Flows

/-! ### A write that fails -/

/-- The application of a profile with a provider. -/
def providerFlow : Flow :=
  .applyProfile (.obj [("attachments", .obj [("modelProviders", .arr [mintedProvider])])])
    setupOptions setupDependencies

/-- The flow where a write is answered with `written`. -/
def providerRun (written : Except String String) : Trace × Outcome Failure (Option String) :=
  (providerFlow.program setupRuntime 0).play (freshEnvironment written) ()

theorem providerRun_exec (written : Except String String) :
    (providerFlow.program setupRuntime 0).Exec (providerRun written).1 (providerRun written).2 :=
  Prog.play_exec (I := Platform) (freshEnvironment written) (providerFlow.program setupRuntime 0) ()

/-- No key and no variable. -/
def emptyAccounts : Accounts := ⟨[], [], []⟩

/-- The key that is minted. -/
def sampleKey : MintedOpenRouterKey := ⟨"sk-or-key", "hash"⟩

/-- The write fails and stores nothing. -/
def orphaningRun : Trace × Outcome Failure (Option String) := providerRun (.error "timeout")

/-- A key at OpenRouter, and no variable. -/
def orphanedAccounts : Accounts :=
  (emptyAccounts.addKey sampleKey).loseVariable "CLIENT_OPENROUTER_API_KEY" "sk-or-key"

set_option maxRecDepth 2000 in
theorem orphaningRun_threw : orphaningRun.2 = .threw (thrown "timeout") := rfl

theorem mintResponse_key : mintedKey (.ok mintResponse) = .ok sampleKey := by decide

set_option maxRecDepth 2000 in
/-- The key is minted and its write is lost. -/
theorem orphaningRun_run :
    (accounts setupRuntime "client").Run emptyAccounts orphaningRun.1 orphanedAccounts :=
  ⟨emptyAccounts, .other (elsewhere_get rfl), _, .listed rfl fun _ => rfl, _,
    .minted ⟨rfl, rfl⟩ mintResponse_key (fun _ hlive => (nomatch hlive)), _, .writeLost, rfl⟩

/-- **A key that is orphaned.**  The write of the key fails, the call throws, and the
key lives on while nothing says what it is. -/
theorem orphaningRun_orphans :
    (providerFlow.program setupRuntime 0).Exec orphaningRun.1 orphaningRun.2 ∧
      orphaningRun.2 = .threw (thrown "timeout") ∧
      (accounts setupRuntime "client").Run emptyAccounts orphaningRun.1 orphanedAccounts ∧
      sampleKey ∈ orphanedAccounts.keys ∧
      ¬ Traceable providerFlow.profile emptyAccounts orphanedAccounts orphaningRun.2 sampleKey := by
  refine ⟨providerRun_exec _, orphaningRun_threw, orphaningRun_run, .head _, ?_⟩
  rintro (hold | ⟨name, -, hstored⟩ | hreturned)
  · cases hold
  · cases hstored
  · rw [orphaningRun_threw] at hreturned
    cases hreturned

/-- The write succeeds, and the instance still is not configured afterwards. -/
def storingRun : Trace × Outcome Failure (Option String) := providerRun (.ok "")

/-- The accounts once the key is minted and stored. -/
def storedAccounts : Accounts :=
  (emptyAccounts.addKey sampleKey).setVariable "CLIENT_OPENROUTER_API_KEY" "sk-or-key"

set_option maxRecDepth 2000 in
/-- The key is minted and stored, and the setup fails. -/
theorem storingRun_run :
    (accounts setupRuntime "client").Run emptyAccounts storingRun.1 storedAccounts :=
  ⟨emptyAccounts, .other (elsewhere_get rfl), _, .listed rfl fun _ => rfl, _,
    .minted ⟨rfl, rfl⟩ mintResponse_key (fun _ hlive => (nomatch hlive)), storedAccounts, .written, _,
    .other (elsewhere_run _), _, .other (elsewhere_get rfl), rfl⟩

set_option maxRecDepth 2000 in
theorem storingRun_threw : storingRun.2 = .threw stillNotConfigured := rfl

/-- That key can be traced all the same. -/
theorem storingRun_traceable :
    storingRun.2 = .threw stillNotConfigured ∧
      ∀ key ∈ storedAccounts.keys,
        Traceable providerFlow.profile emptyAccounts storedAccounts storingRun.2 key :=
  ⟨storingRun_threw,
    (flow_leaves_traceable_iff (providerRun_exec (.ok "")) storingRun_run rfl).mpr (.inr rfl)⟩

end Setup
