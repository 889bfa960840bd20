/-
ControlPlane/Railway/LiveUpdate.lean

Ref updates and token rotations over every environment.

* `updateClientRefVariable_mutations`: a ref update changes nothing before it has
  compared the live value, and then at most sets one variable and redeploys once;
* `liveChange_truthful`: what either operation reports is what happened.

Both follow from one inversion per operation (`updateClientRefVariable_cases`,
`rotateGatewayToken_cases`): the run stops at one of the checks, or it passes all
of them and the rest is a run of `writeAndConfirm`.
-/
import ControlPlane.Js.Document
import ControlPlane.Railway.Confirmation

namespace Railway

open Js Interaction

variable {rt : Runtime} {fuel : ℕ} {t : Trace}

/-! ### Mutations of the pipeline -/

/-- The redeployment of a service. -/
def redeployCall (service : String) : Call := .run (redeployArgs service) none

theorem assertInstanceReady_readOnly {params : ReadyParams} {context : Option String} :
    ReadOnly (assertInstanceReady rt fuel params context) := by
  apply Prog.Only.bind (readRailwayVariable_readOnly rt _ _)
  intro password
  split
  · exact Prog.only_throw
  · rw [← bind_assoc, listDomains_pick]
    apply Prog.Only.bind (ask_readOnly rfl)
    rintro (_ | domain)
    · exact Prog.only_throw
    · apply waitForSetupReady_readOnly.tryCatch
      intro cause
      cases context with
      | none => exact Prog.only_throw
      | some context => exact Prog.only_throw

theorem readBack_readOnly {w : LiveWrite} :
    ReadOnly ((readRailwayVariable rt w.name w.ready.service).tryCatch
      (fun cause => .throw ⟨.refVerification, w.readBackFailed cause.message⟩) >>= fun applied =>
      if applied.isString w.next then pure ()
      else match w.readBackDiffers applied with
        | .ok message => .throw ⟨.refVerification, message⟩
        | .error message => (.throw (thrown message) : Tool Unit)) := by
  apply Prog.Only.bind ((readRailwayVariable_readOnly rt _ _).tryCatch fun _ => Prog.only_throw)
  intro applied
  split
  · exact Prog.only_pure
  · split
    · exact Prog.only_throw
    · exact Prog.only_throw

/-- After the write there is one redeploy, and reads. -/
theorem confirmWrite_mutations {w : LiveWrite} {prior : Value} {o : Outcome Failure Unit}
    (h : (confirmWrite rt fuel w prior).Exec t o) :
    mutations t = [redeployCall w.ready.service] := by
  have hcall : (redeployCall w.ready.service).isRead = false := rfl
  rcases Prog.exec_ask_bind.mp h with ⟨reply, t₁, out, rfl, -, h₁⟩ | ⟨reply, e, rfl, -, -⟩
  · have hrest : mutations t₁ = [] := by
      apply ReadOnly.mutations_eq_nil ?_ h₁
      apply Prog.Only.bind (pollServiceUntilSuccess_readOnly _ _)
      intro _
      apply Prog.Only.bind assertInstanceReady_readOnly
      intro _
      exact readBack_readOnly
    rw [mutations_cons_of_not_isRead hcall, hrest]
    rfl
  · rw [mutations_cons_of_not_isRead hcall]
    rfl

/-- The write is made, and after it at most the redeploy. -/
theorem writeAndConfirm_mutations {w : LiveWrite} {prior : Value} {o : Outcome Failure Unit}
    (h : (writeAndConfirm rt fuel w prior).Exec t o) :
    mutations t = [w.setCall] ∨ mutations t = [w.setCall, redeployCall w.ready.service] := by
  have hcall : w.setCall.isRead = false := rfl
  rw [writeAndConfirm, writeRailwayVariable_eq, Prog.tryCatch_ask] at h
  rcases Prog.exec_ask_bind.mp h with ⟨reply, t', ⟨⟩, rfl, -, h₁⟩ | ⟨reply, e, rfl, -, -⟩
  · right
    have hrest : mutations t' = [redeployCall w.ready.service] := by
      rcases Prog.exec_tryCatch.mp h₁ with ⟨_, hc, -⟩ | ⟨cause, t₁, t₂, rfl, hc, h₂⟩ | ⟨hc, -⟩
      · exact confirmWrite_mutations hc
      -- the handler only throws
      · have hnil : t₂ = [] := by
          split at h₂
          · exact h₂.1
          · exact h₂.1
        rw [hnil, List.append_nil]
        exact confirmWrite_mutations hc
      · exact confirmWrite_mutations hc
    rw [mutations_cons_of_not_isRead hcall, hrest]
    rfl
  · left
    rw [mutations_cons_of_not_isRead hcall]
    rfl

/-! ### The checks in front -/

theorem currentDeploymentId_eq (rt : Runtime) (service : String) :
    currentDeploymentId rt service =
      Prog.ask (I := Platform) (.run serviceListArgs none) (deploymentIdIn rt service) := by
  have hpure : (fun services => (do
      let found ← Prog.ofExcept (findTemplateService services service)
      pure (found.elim .undefined fun listed => deploymentMember listed "id") : Tool Value)) =
      fun services => Prog.ofExcept (findTemplateService services service >>= fun found =>
        .ok (found.elim .undefined fun listed => deploymentMember listed "id")) := by
    funext services
    cases findTemplateService services service <;> rfl
  rw [currentDeploymentId, listServices_eq, hpure]
  apply Prog.ask_bind_ofExcept

/-- A run that stops before the write: it has only looked. -/
def StopsEarly {α : Type} (t : Trace) (o : Outcome Failure α) : Prop :=
  mutations t = [] ∧ (∃ e, o = .threw e)

/-- The listing a write is preceded by shows the deployment it will supersede. -/
def ShowsDeployment (rt : Runtime) (service : String) (prior : Value)
    (listed : Except String String) : Prop :=
  deploymentIdIn rt service listed = .ok prior ∧ prior ≠ .undefined

/-- The deployment id is read, and what follows runs only with one. -/
theorem currentDeploymentId_cases {α : Type} {service : String} {e : Failure}
    {k : Value → Tool α} {o : Outcome Failure α}
    (h : (currentDeploymentId rt service >>= fun prior =>
      if prior.isUndefined then .throw e else k prior).Exec t o) :
    StopsEarly t o ∨ ∃ listed prior t', t = ⟨.run serviceListArgs none, listed⟩ :: t' ∧
      ShowsDeployment rt service prior listed ∧ (k prior).Exec t' o := by
  rw [currentDeploymentId_eq] at h
  rcases Prog.exec_ask_bind.mp h with ⟨listed, t', prior, rfl, hid, h₁⟩ | ⟨listed, e', rfl, -, rfl⟩
  · split at h₁
    · obtain ⟨rfl, rfl⟩ := h₁
      exact .inl ⟨rfl, e, rfl⟩
    · rename_i hdefined
      refine .inr ⟨listed, prior, t', rfl, ⟨hid, ?_⟩, h₁⟩
      rwa [isUndefined_iff] at hdefined
  · exact .inl ⟨rfl, e', rfl⟩

/-- What a ref update writes only after: the value read first is the expected
one, and is not the requested one already unless the redeploy is forced. -/
def ComparesEqual (params : UpdateRefParams) (current : Value) : Prop :=
  (current = .json (.str params.expectedCurrentRef) ∨
    (current = .undefined ∧ params.expectedCurrentRef = EXPECTED_REF_UNSET)) ∧
  ¬(current = .json (.str params.nextRef) ∧ params.force = false)

/-- The variable is written where it has the expected value. -/
theorem comparesEqual_of_write {params : UpdateRefParams} {current : Value}
    (h : planUpdate params current = .write) : ComparesEqual params current := by
  unfold planUpdate at h
  split at h
  · cases h
  · rename_i hunset
    split at h
    · cases h
    · rename_i hset
      split at h
      · split at h <;> cases h
      · rename_i hsame
        split at h
        · cases h
        · rename_i hstale
          constructor
          -- past all four tests: the sentinel fits an unset variable, or the value is the expected one
          · by_cases hu : current = .undefined
            · refine .inr ⟨hu, ?_⟩
              simpa [hu, Value.isUndefined] using hunset
            · left
              have hd : current.isUndefined = false := isUndefined_eq_false_iff.mpr hu
              simpa [hd] using hstale
          · rintro ⟨hnext, hforce⟩
            simp [hnext, hforce, Value.isString, Value.asString] at hsame

/-- **A ref update** stops early, or finds the ref in place and checks the
instance, or passes every check and writes. -/
theorem updateClientRefVariable_cases {params : UpdateRefParams}
    {o : Outcome Failure UpdateRefResult}
    (h : (updateClientRefVariable rt fuel params).Exec t o) :
    StopsEarly t o ∨
    (∃ read t' o', t = ⟨.run (variableListArgs params.service) none, read⟩ :: t' ∧
      ((SeenReady rt params.ready t' ∧ o' = .returned ()) ∨ EndsUnready t' o') ∧
      mutations t' = [] ∧ o = o'.map fun _ => ⟨false, false⟩) ∨
    (∃ read current listed prior t' o',
      t = ⟨.run (variableListArgs params.service) none, read⟩ ::
        ⟨.run serviceListArgs none, listed⟩ :: t' ∧
      variableIn rt params.variableName.name read = .ok current ∧ ComparesEqual params current ∧
      ShowsDeployment rt params.service prior listed ∧
      (writeAndConfirm rt fuel params.liveWrite prior).Exec t' o' ∧
      o = o'.map fun _ => ⟨true, true⟩) := by
  rw [updateClientRefVariable, readRailwayVariable_eq] at h
  rcases Prog.exec_ask_bind.mp h with ⟨read, t₁, current, rfl, hread, h₁⟩ | ⟨read, e, rfl, -, rfl⟩
  -- the plan is made from the value that was read, before anything else is called
  · cases hplan : planUpdate params current with
    | refuse e =>
        rw [hplan] at h₁
        obtain ⟨rfl, rfl⟩ := h₁
        exact .inl ⟨rfl, e, rfl⟩
    | alreadyCurrent =>
        rw [hplan] at h₁
        obtain ⟨o', hready, rfl⟩ := Prog.exec_map.mp h₁
        exact .inr (.inl ⟨read, t₁, o', rfl, assertInstanceReady_exec hready,
          assertInstanceReady_readOnly.mutations_eq_nil hready, rfl⟩)
    | write =>
        rw [hplan] at h₁
        rcases currentDeploymentId_cases h₁ with hstops | ⟨listed, prior, t₂, rfl, hshows, h₂⟩
        · exact .inl ⟨hstops.1, hstops.2⟩
        · obtain ⟨o', hwrite, rfl⟩ := Prog.exec_map.mp h₂
          exact .inr (.inr ⟨read, current, listed, prior, t₂, o', rfl, hread,
            comparesEqual_of_write hplan, hshows, hwrite, rfl⟩)
  · exact .inl ⟨rfl, e, rfl⟩

/-! ### A platform that does as it is told -/

/-- A service whose variable and deployment are new once they were asked for. -/
structure SamplePlatform where
  updated : Bool
  redeployed : Bool

/-- A listing with the ref, and what it parses to. -/
def sampleVariables (ref : String) : String × Json :=
  ("\x7b\"OPENCLAW_GIT_REF\":\"" ++ ref ++ "\",\"SETUP_PASSWORD\":\"hunter2\"\x7d",
    .obj [("OPENCLAW_GIT_REF", .str ref), ("SETUP_PASSWORD", .str "hunter2")])

/-- A listing with the deployment, and what it parses to. -/
def sampleServices (id : String) : String × Json :=
  ("[\x7b\"name\":\"client\",\"latestDeployment\":\x7b\"id\":\"" ++ id ++
      "\",\"status\":\"SUCCESS\"\x7d\x7d]",
    .arr [.obj [("name", .str "client"),
      ("latestDeployment", .obj [("id", .str id), ("status", .str "SUCCESS")])]])

/-- A listing with one domain, and what it parses to. -/
def sampleDomains : String × Json :=
  ("\x7b\"domains\":[\x7b\"domain\":\"client.example\",\"type\":\"service\"\x7d]\x7d",
    .obj [("domains", .arr [.obj [("domain", .str "client.example"), ("type", .str "service")]])])

/-- A runtime that parses these listings. -/
def sampleRuntime : Runtime where
  jsonParse text :=
    match [sampleVariables "v1", sampleVariables "v2", sampleServices "d1", sampleServices "d2",
      sampleDomains].lookup text with
    | some document => .ok document
    | none => .error "Unexpected token"
  compileRegExp _ := none
  utf8Decode _ := ""
  hmacSha256Hex _ _ := ""

/-- A platform that does what it is told. -/
def sampleEnvironment (s : SamplePlatform) : (c : Call) → c.Reply × SamplePlatform
  | .run args _ =>
    if args = variableListArgs "client" then
      (.ok (sampleVariables (if s.updated then "v2" else "v1")).1, s)
    else if args = serviceListArgs then
      (.ok (sampleServices (if s.redeployed then "d2" else "d1")).1, s)
    else if args = domainListArgs "client" then (.ok sampleDomains.1, s)
    else if args = redeployArgs "client" then (.ok "", ⟨s.updated, true⟩)
    else (.ok "", ⟨true, s.redeployed⟩)
  | .checkSetupStatus _ auth =>
    (.ok (if auth.password.isString "hunter2" then 200 else 401), s)
  | c => (offline c, s)

/-- An update from one ref to another. -/
def sampleParams : UpdateRefParams where
  service := "client"
  variableName := .gitRef
  nextRef := "v2"
  expectedCurrentRef := "v1"
  setupUsername := none
  forceRedeploy := none
  pollSeconds := 15
  timeoutMinutes := 25

/-- The run of that update. -/
def sampleUpdate : Trace × Outcome Failure UpdateRefResult :=
  ((updateClientRefVariable sampleRuntime 1 sampleParams).play sampleEnvironment ⟨false, false⟩)

theorem sampleUpdate_exec :
    (updateClientRefVariable sampleRuntime 1 sampleParams).Exec sampleUpdate.1 sampleUpdate.2 :=
  Prog.play_exec (I := Platform) sampleEnvironment
    (updateClientRefVariable sampleRuntime 1 sampleParams) ⟨false, false⟩

/-! ### Compare before write -/

/-- The one write a ref update can make, with its arguments. -/
def UpdateRefParams.setCall (params : UpdateRefParams) : Call :=
  .run ["variable", "set", params.variableName.name, "--service", params.service,
    "--skip-deploys", "--stdin", "--json"] (some params.nextRef)

/-- The one redeploy a ref update can ask for, with its arguments. -/
def UpdateRefParams.redeployCall (params : UpdateRefParams) : Call :=
  .run ["redeploy", "--service", params.service, "--yes", "--json"] none

/-- What a run of a ref update is allowed to change, and when. -/
structure ComparesBeforeWrite (rt : Runtime) (params : UpdateRefParams) (t : Trace)
    (o : Outcome Failure UpdateRefResult) : Prop where
  /-- at most one write and then at most one redeploy, and no other mutation -/
  commands : mutations t = [] ∨ mutations t = [params.setCall] ∨
    mutations t = [params.setCall, params.redeployCall]
  /-- only after the first call has read the expected value, which is not the
  requested one already unless forced, and the second a deployment id -/
  compared : mutations t ≠ [] → ∃ read current listed prior t',
    t = ⟨.run ["variable", "list", "--service", params.service, "--json"] none, read⟩ ::
      ⟨.run ["service", "list", "--json"] none, listed⟩ :: t' ∧
    variableIn rt params.variableName.name read = .ok current ∧
    (current = .json (.str params.expectedCurrentRef) ∨
      (current = .undefined ∧ params.expectedCurrentRef = EXPECTED_REF_UNSET)) ∧
    ¬(current = .json (.str params.nextRef) ∧ params.force = false) ∧
    deploymentIdIn rt params.service listed = .ok prior ∧ prior ≠ .undefined
  unchanged : ∀ result, o = .returned result → result.changed = false →
    mutations t = []
  /-- a run that throws without having set the variable has changed nothing -/
  threw : ∀ e, o = .threw e → (∀ event ∈ t, event.call ≠ params.setCall) →
    mutations t = []

/-- **Compare before write.**  Whatever the platform answers, a ref update
compares the live value before it changes anything. -/
theorem updateClientRefVariable_mutations {params : UpdateRefParams}
    {o : Outcome Failure UpdateRefResult}
    (h : (updateClientRefVariable rt fuel params).Exec t o) :
    ComparesBeforeWrite rt params t o := by
  rcases updateClientRefVariable_cases h with hstops | ⟨read, t', o', rfl, -, hnone, -⟩ |
    ⟨read, current, listed, prior, t', o', rfl, hread, hcompares, hshows, hwrite, ho⟩
  · exact ⟨.inl hstops.1, fun hm => absurd hstops.1 hm, fun _ _ _ => hstops.1,
      fun _ _ _ => hstops.1⟩
  · have hreads : mutations (⟨.run (variableListArgs params.service) none, read⟩ :: t') = [] := by
      rw [mutations_cons_of_isRead rfl]
      exact hnone
    exact ⟨.inl hreads, fun hm => absurd hreads hm, fun _ _ _ => hreads, fun _ _ _ => hreads⟩
  · have hmuts : mutations (⟨.run (variableListArgs params.service) none, read⟩ ::
        ⟨.run serviceListArgs none, listed⟩ :: t') = mutations t' := by
      rw [mutations_cons_of_isRead rfl, mutations_cons_of_isRead rfl]
    have hset : params.liveWrite.setCall = params.setCall := rfl
    refine ⟨?_, fun _ => ⟨read, current, listed, prior, t', rfl, hread, hcompares.1, hcompares.2,
      hshows.1, hshows.2⟩, ?_, ?_⟩
    · rw [hmuts]
      rcases writeAndConfirm_mutations hwrite with hm | hm
      · exact .inr (.inl hm)
      · exact .inr (.inr hm)
    · -- past the write, a result says `changed: true`
      rintro result hresult hchanged
      cases o' with
      | returned a =>
          rw [hresult] at ho
          cases ho
          cases hchanged
      | threw e =>
          rw [hresult] at ho
          cases ho
      | diverged =>
          rw [hresult] at ho
          cases ho
    · -- and the write is among the calls
      intro e _ hno
      rcases writeAndConfirm_exec hshows.2 hwrite with ⟨message, rfl, -⟩ | ⟨out, t₁, rfl, -⟩
      · exact absurd hset (hno ⟨params.liveWrite.setCall, .error message⟩ (by simp))
      · exact absurd hset (hno ⟨params.liveWrite.setCall, .ok out⟩ (by simp))

/-- It sets the variable and redeploys, after reading the expected value. -/
theorem sampleUpdate_mutations :
    mutations sampleUpdate.1 = [sampleParams.setCall, sampleParams.redeployCall] ∧
      ComparesBeforeWrite sampleRuntime sampleParams sampleUpdate.1 sampleUpdate.2 :=
  ⟨rfl, updateClientRefVariable_mutations sampleUpdate_exec⟩

/-! ### Rotating the token -/

/-- **A rotation** stops early, or draws a token and writes it. -/
theorem rotateGatewayToken_cases {options : RotateGatewayTokenOptions}
    {o : Outcome Failure RotateGatewayTokenResult}
    (h : (rotateGatewayToken rt fuel options).Exec t o) :
    StopsEarly t o ∨
    ∃ read listed prior next t' o',
      t = ⟨.run (variableListArgs options.service) none, read⟩ ::
        ⟨.run serviceListArgs none, listed⟩ :: ⟨.randomBytes 32, next⟩ :: t' ∧
      ShowsDeployment rt options.service prior listed ∧
      (writeAndConfirm rt fuel (options.liveWrite next) prior).Exec t' o' ∧
      o = o'.map fun _ => ⟨options.service, true⟩ := by
  rw [rotateGatewayToken, readRailwayVariable_eq] at h
  rcases Prog.exec_ask_bind.mp h with ⟨read, t₁, current, rfl, -, h₁⟩ | ⟨read, e, rfl, -, rfl⟩
  · split at h₁
    · obtain ⟨rfl, rfl⟩ := h₁
      exact .inl ⟨rfl, _, rfl⟩
    · rcases currentDeploymentId_cases h₁ with hstops | ⟨listed, prior, t₂, rfl, hshows, h₂⟩
      · exact .inl ⟨hstops.1, hstops.2⟩
      · obtain ⟨next, t₃, rfl, h₃⟩ := Prog.exec_perform_bind.mp h₂
        obtain ⟨o', hwrite, rfl⟩ := Prog.exec_map.mp h₃
        exact .inr ⟨read, listed, prior, next, t₃, o', rfl, hshows, hwrite, rfl⟩
  · exact .inl ⟨rfl, e, rfl⟩

/-! ### Truthful reports -/

/-- A change of a live service. -/
inductive LiveChange where
  | update (params : UpdateRefParams)
  | rotate (options : RotateGatewayTokenOptions)

/-- The tool that makes the change. -/
def LiveChange.tool (rt : Runtime) (fuel : ℕ) : LiveChange → Tool UpdateRefResult
  | .update params => updateClientRefVariable rt fuel params
  | .rotate options => do
    let result ← rotateGatewayToken rt fuel options
    pure ⟨true, result.newDeploymentReady⟩

/-- The write a change ends in; a rotation writes the token it has drawn. -/
def LiveChange.liveWrite (drawn : String) : LiveChange → LiveWrite
  | .update params => params.liveWrite
  | .rotate options => options.liveWrite drawn

/-- What a report of a change by one of the writes `w` is to be believed for. -/
structure Truthful (rt : Runtime) (w : String → LiveWrite) (t : Trace)
    (o : Outcome Failure UpdateRefResult) : Prop where
  /-- a new deployment is reported after the write, the redeploy, a listing that
  shows a deployment other than the one listed before, an authenticated 200, and
  the written value read back, in that order -/
  ready : ∀ result, o = .returned result → result.newDeploymentReady = true →
    ∃ drawn prior listed written redeployed listing password domain auth readBack,
      List.Sublist
        [⟨.run serviceListArgs none, listed⟩,
          ⟨(w drawn).setCall, .ok written⟩,
          ⟨.run (redeployArgs (w drawn).ready.service) none, .ok redeployed⟩,
          ⟨.run serviceListArgs none, listing⟩,
          ⟨.run (variableListArgs (w drawn).ready.service) none, password⟩,
          ⟨.checkSetupStatus (setupStatusUrl domain) auth, .ok 200⟩,
          ⟨.run (variableListArgs (w drawn).ready.service) none, readBack⟩] t ∧
      ShowsDeployment rt (w drawn).ready.service prior listed ∧
      ShowsNewDeployment rt (w drawn).ready.service prior listing ∧
      Authenticates rt (w drawn).ready password auth ∧
      variableIn rt (w drawn).name readBack = .ok (.json (.str (w drawn).next))
  /-- after an accepted write an error is the verification error exactly when the
  instance had answered 200, and says the change is live otherwise -/
  classified : ∀ drawn written e, ⟨(w drawn).setCall, .ok written⟩ ∈ t → o = .threw e →
    (e.kind = .refVerification ↔
      ∃ url auth, ⟨.checkSetupStatus url auth, .ok 200⟩ ∈ t) ∧
    (e.kind ≠ .refVerification → ∃ cause, e = ⟨.unconfirmed, (w drawn).unconfirmed cause⟩)
  /-- a rejected write is reported as uncertain, and nothing is redeployed -/
  uncertain : ∀ drawn message, ⟨(w drawn).setCall, .error message⟩ ∈ t →
    o = .threw ⟨.writeUncertain, (w drawn).uncertain message⟩ ∧
    ∀ event ∈ t, event.call ≠ redeployCall (w drawn).ready.service
  /-- no change is reported only without a mutation, and after a 200 -/
  unchanged : ∀ result, o = .returned result → result.changed = false →
    mutations t = [] ∧ ∃ url auth, ⟨.checkSetupStatus url auth, .ok 200⟩ ∈ t

/-- Every listing of variables in the run is a flat map from names to texts, which is
what the command prints. -/
def FlatListings (rt : Runtime) (t : Trace) : Prop :=
  ∀ service text document, ⟨.run (variableListArgs service) none, .ok text⟩ ∈ t →
    rt.jsonParse text = .ok document →
    ∃ fields, document = .obj fields ∧ ∀ p ∈ fields, ∃ s, p.2 = .str s

/-- The listings of a later part of the run are flat as well. -/
theorem FlatListings.of_append {t' : Trace} (h : FlatListings rt (t ++ t')) : FlatListings rt t' :=
  fun service text document hmem => h service text document (List.mem_append_right t hmem)

theorem FlatListings.of_cons {e : Event Platform} (h : FlatListings rt (e :: t)) :
    FlatListings rt t :=
  fun service text document hmem => h service text document (List.mem_cons_of_mem e hmem)

/-- What a flat map holds can be put into a text, whatever stands in for a missing value. -/
theorem interpolate_of_flat {fields : List (String × Json)}
    (h : ∀ p ∈ fields, ∃ s, p.2 = .str s) (name other : String) :
    ∃ text, (((Json.obj fields).get name).coalesce (.json (.str other))).interpolate = .ok text := by
  rcases hfound : fields.lookup name with - | v
  · simp only [Json.get, Json.fields, hfound]
    split
    · exact ⟨_, rfl⟩
    · exact ⟨_, rfl⟩
  · obtain ⟨s, hs⟩ := h _ (mem_of_lookup hfound)
    obtain rfl : v = .str s := hs
    simp only [Json.get, Json.fields, hfound]
    exact ⟨_, rfl⟩

/-- On flat listings both changes can describe what they read back. -/
theorem FlatListings.describes (h : FlatListings rt t) (change : LiveChange) (drawn : String) :
    (change.liveWrite drawn).Describes rt t := by
  intro reply v hmem hlisted
  cases change with
  | rotate options => exact ⟨_, rfl⟩
  | update params =>
      cases reply with
      | error message => cases hlisted
      | ok text =>
          have hread : (settled (rt.jsonParse text) >>= fun vars =>
              readMember vars params.variableName.name) = .ok v := hlisted
          rcases hparse : rt.jsonParse text with message | document
          · rw [hparse] at hread
            cases hread
          · obtain ⟨fields, rfl, hfields⟩ := h _ text document hmem hparse
            rw [hparse] at hread
            obtain rfl : (Json.obj fields).get params.variableName.name = v := Except.ok.inj hread
            obtain ⟨quoted, hquoted⟩ := interpolate_of_flat hfields params.variableName.name "unset"
            have hdescribed : ∀ f : String → String, ∃ message,
                (((Json.obj fields).get params.variableName.name).coalesce
                  (.json (.str "unset"))).interpolate.map f = .ok message :=
              fun f => ⟨f quoted, by rw [hquoted]; rfl⟩
            exact hdescribed _

/-- An instance was seen ready when one answered with 200. -/
theorem not_notReady_iff : ¬ NotReady t ↔
    ∃ url auth, ⟨.checkSetupStatus url auth, .ok 200⟩ ∈ t := by
  simp [NotReady]

theorem setCall_isRead (w : LiveWrite) : w.setCall.isRead = false := rfl

theorem setCall_ne_redeployCall (w : LiveWrite) (service : String) :
    w.setCall ≠ redeployCall service := by
  simp [LiveWrite.setCall, redeployCall, variableSetArgs, redeployArgs]

/-- A run without a mutation has no write to report on. -/
theorem truthful_of_reads {w : String → LiveWrite} {o : Outcome Failure UpdateRefResult}
    (hreads : mutations t = [])
    (hready : ∀ result, o = .returned result →
      result.newDeploymentReady = false ∧ ¬ NotReady t) : Truthful rt w t o := by
  -- a write in the trace would be a mutation
  have hno : ∀ drawn reply, ⟨(w drawn).setCall, reply⟩ ∉ t := by
    intro drawn reply hmem
    have hmut : (w drawn).setCall ∈ mutations t := mem_mutations.mpr ⟨⟨_, hmem, rfl⟩, rfl⟩
    rw [hreads] at hmut
    cases hmut
  constructor
  · intro result hresult hnew
    rw [(hready result hresult).1] at hnew
    cases hnew
  · intro drawn written e hmem
    exact absurd hmem (hno drawn _)
  · intro drawn message hmem
    exact absurd hmem (hno drawn _)
  · intro result hresult _
    exact ⟨hreads, not_notReady_iff.mp (hready result hresult).2⟩

/-- What a confirmed write has seen, in order. -/
theorem Confirmed.sublist {w : LiveWrite} {prior : Value} (h : Confirmed rt w prior t) :
    ∃ redeployed listing password domain auth readBack,
      List.Sublist
        [⟨.run (redeployArgs w.ready.service) none, .ok redeployed⟩,
          ⟨.run serviceListArgs none, listing⟩,
          ⟨.run (variableListArgs w.ready.service) none, password⟩,
          ⟨.checkSetupStatus (setupStatusUrl domain) auth, .ok 200⟩,
          ⟨.run (variableListArgs w.ready.service) none, readBack⟩] t ∧
      ShowsNewDeployment rt w.ready.service prior listing ∧
      Authenticates rt w.ready password auth ∧
      variableIn rt w.name readBack = .ok (.json (.str w.next)) := by
  obtain ⟨redeployed, listing, readBack, polled, ready, rfl, hnew,
    ⟨password, t', domain, auth, rfl, hauth, -⟩, happlied⟩ := h
  refine ⟨redeployed, listing, password, domain, auth, readBack, ?_, hnew, hauth, happlied⟩
  have hlisting := List.sublist_append_right polled
    [(⟨.run serviceListArgs none, listing⟩ : Event Platform)]
  have hprobe := List.sublist_append_right t'
    [(⟨.checkSetupStatus (setupStatusUrl domain) auth, .ok 200⟩ : Event Platform)]
  have hreadBack := List.Sublist.refl
    [(⟨.run (variableListArgs w.ready.service) none, readBack⟩ : Event Platform)]
  exact (hlisting.append ((hprobe.cons_cons _).append hreadBack)).cons_cons _

/-- The write itself is the only write of such a run. -/
theorem eq_of_setCall_mem {w : LiveWrite} {checks rest : Trace} {event : Event Platform}
    {reply : Except String String} {service : String} (hchecks : mutations checks = [])
    (hrest : ∀ c ∈ mutations rest, c = redeployCall service)
    (hmem : ⟨w.setCall, reply⟩ ∈ checks ++ event :: rest) : ⟨w.setCall, reply⟩ = event := by
  have hwrite : w.setCall.isRead = false := rfl
  rcases List.mem_append.mp hmem with hmem | hmem
  · have hmut : w.setCall ∈ mutations checks := mem_mutations.mpr ⟨⟨_, hmem, rfl⟩, hwrite⟩
    rw [hchecks] at hmut
    cases hmut
  · rcases List.mem_cons.mp hmem with heq | hmem
    · exact heq
    · have hmut : w.setCall ∈ mutations rest := mem_mutations.mpr ⟨⟨_, hmem, rfl⟩, hwrite⟩
      exact absurd (hrest _ hmut) (setCall_ne_redeployCall w service)

section Write

variable {w : String → LiveWrite} {drawn : String} {prior : Value}
  {listed : Except String String} {checks t' : Trace}

/-- A rejected write is the only mutation, and its text says so. -/
theorem truthful_of_rejected {message : String} (hchecks : mutations checks = [])
    (hsame : ∀ other, (w other).setCall = (w drawn).setCall → w other = w drawn) :
    Truthful rt w (checks ++ [⟨(w drawn).setCall, .error message⟩])
      (.threw ⟨.writeUncertain, (w drawn).uncertain message⟩) := by
  have hrest : ∀ c ∈ mutations [], c = redeployCall (w drawn).ready.service := by simp
  constructor
  · intro result hresult
    cases hresult
  · intro other written e hmem
    have heq := eq_of_setCall_mem hchecks hrest hmem
    rw [hsame other (congrArg Event.call heq)] at heq
    cases heq
  · intro other message' hmem
    have heq := eq_of_setCall_mem hchecks hrest hmem
    have hw := hsame other (congrArg Event.call heq)
    rw [hw] at heq ⊢
    cases heq
    refine ⟨rfl, ?_⟩
    intro event hevent hcall
    have hmut : redeployCall (w drawn).ready.service ∈
        mutations (checks ++ [⟨(w drawn).setCall, .error message⟩]) :=
      mem_mutations.mpr ⟨⟨event, hevent, hcall⟩, rfl⟩
    rw [mutations_append, hchecks, mutations_cons_of_not_isRead (setCall_isRead _)] at hmut
    simp only [List.nil_append, mutations_nil, List.mem_singleton] at hmut
    exact setCall_ne_redeployCall _ _ hmut.symm
  · intro result hresult
    cases hresult

/-- After an accepted write the report is the confirmation, or the error that
fits how far it came. -/
theorem truthful_of_accepted {out : String} {o' : Outcome Failure Unit}
    (hchecks : mutations checks = []) (hnone : NotReady checks)
    (hlisted : ⟨.run serviceListArgs none, listed⟩ ∈ checks)
    (hshows : ShowsDeployment rt (w drawn).ready.service prior listed)
    (hsame : ∀ other, (w other).setCall = (w drawn).setCall → w other = w drawn)
    (hrest : ∀ c ∈ mutations t', c = redeployCall (w drawn).ready.service)
    (hdescribes : (w drawn).Describes rt t')
    (hends : (Confirmed rt (w drawn) prior t' ∧ o' = .returned ()) ∨
      (¬ NotReady t' ∧ EndsUnverified rt (w drawn) t' o') ∨
      (NotReady t' ∧ ((∃ cause, o' = .threw ⟨.unconfirmed, (w drawn).unconfirmed cause⟩) ∨
        o' = .diverged))) :
    Truthful rt w (checks ++ ⟨(w drawn).setCall, .ok out⟩ :: t')
      (o'.map fun _ => ⟨true, true⟩) := by
  constructor
  · intro result hresult _
    rcases hends with ⟨hconf, rfl⟩ | ⟨-, e, -, rfl⟩ | ⟨-, ⟨cause, rfl⟩ | rfl⟩
    · obtain ⟨redeployed, listing, password, domain, auth, readBack, hsub, hnew, hauth, happlied⟩ :=
        hconf.sublist
      refine ⟨drawn, prior, listed, out, redeployed, listing, password, domain, auth, readBack, ?_,
        hshows, hnew, hauth, happlied⟩
      exact (List.singleton_sublist.mpr hlisted).append (hsub.cons_cons _)
    · cases hresult
    · cases hresult
    · cases hresult
  · intro other written e hmem he
    have hw := hsame other (congrArg Event.call (eq_of_setCall_mem hchecks hrest hmem))
    rw [hw, ← not_notReady_iff]
    rcases hends with ⟨-, rfl⟩ | ⟨hn, e', hkind, rfl⟩ | ⟨hn, ⟨cause, rfl⟩ | rfl⟩
    · cases he
    · cases he
      -- the instance had answered, and the error is the verification error
      have hverification := hkind hdescribes
      refine ⟨⟨fun _ hnr => hn ?_, fun _ => hverification⟩,
        fun hne => absurd hverification hne⟩
      exact (hnr.of_append.2.of_append (t := [_])).2
    · cases he
      -- it had not, and the error says that the change is live
      have hnot : NotReady (checks ++ ⟨(w drawn).setCall, .ok out⟩ :: t') :=
        hnone.append (hn.of_other (by simp [LiveWrite.setCall]))
      exact ⟨⟨fun hk => (nomatch hk), fun hr => absurd hnot hr⟩, fun _ => ⟨cause, rfl⟩⟩
    · cases he
  · intro other message hmem
    have heq := eq_of_setCall_mem hchecks hrest hmem
    rw [hsame other (congrArg Event.call heq)] at heq
    cases heq
  · intro result hresult hfalse
    -- past the write a result says `changed: true`
    cases o' with
    | returned a =>
        cases hresult
        cases hfalse
    | threw e => cases hresult
    | diverged => cases hresult

/-- A run that has passed every check reports as its write turns out. -/
theorem truthful_of_write (w : String → LiveWrite) (drawn : String) (checks : Trace)
    {o' : Outcome Failure Unit}
    (hchecks : mutations checks = []) (hnone : NotReady checks)
    (hlisted : ⟨.run serviceListArgs none, listed⟩ ∈ checks)
    (hshows : ShowsDeployment rt (w drawn).ready.service prior listed)
    (hsame : ∀ other, (w other).setCall = (w drawn).setCall → w other = w drawn)
    (hdescribes : (w drawn).Describes rt t')
    (h : (writeAndConfirm rt fuel (w drawn) prior).Exec t' o') :
    Truthful rt w (checks ++ t') (o'.map fun _ => ⟨true, true⟩) := by
  have hmuts := writeAndConfirm_mutations h
  rcases writeAndConfirm_exec hshows.2 h with ⟨message, rfl, rfl⟩ | ⟨out, t₁, rfl, hends⟩
  · exact truthful_of_rejected hchecks hsame
  · apply truthful_of_accepted hchecks hnone hlisted hshows hsame ?_
      (fun reply v hmem => hdescribes reply v (List.mem_cons_of_mem _ hmem)) hends
    -- the write comes first; the redeploy is the only other mutation there can be
    rw [mutations_cons_of_not_isRead (setCall_isRead _)] at hmuts
    intro c hc
    rcases hmuts with hm | hm
    · rw [(List.cons.inj hm).2] at hc
      cases hc
    · rw [(List.cons.inj hm).2] at hc
      exact List.mem_singleton.mp hc

end Write

/-- A run that stops early reports nothing but its error. -/
theorem StopsEarly.truthful {w : String → LiveWrite} {o : Outcome Failure UpdateRefResult}
    (h : StopsEarly t o) : Truthful rt w t o := by
  apply truthful_of_reads h.1
  intro result hresult
  obtain ⟨e, he⟩ := h.2
  rw [he] at hresult
  cases hresult

/-- **Truthful reports.**  Whatever the platform answers, with its variables listed as texts,
a ref update and a token rotation report what has happened. -/
theorem liveChange_truthful {change : LiveChange} {o : Outcome Failure UpdateRefResult}
    (hflat : FlatListings rt t) (h : (change.tool rt fuel).Exec t o) :
    Truthful rt (fun drawn => change.liveWrite drawn) t o := by
  cases change with
  | update params =>
      rcases updateClientRefVariable_cases h with hstops | ⟨read, t', o', rfl, hready, hnone, rfl⟩ |
        ⟨read, current, listed, prior, t', o', rfl, -, -, hshows, hwrite, rfl⟩
      · exact hstops.truthful
      · have hreads : mutations (⟨.run (variableListArgs params.service) none, read⟩ :: t') = [] := by
          rw [mutations_cons_of_isRead rfl]
          exact hnone
        apply truthful_of_reads hreads
        intro result hresult
        rcases hready with ⟨hseen, rfl⟩ | ⟨-, ⟨e, -, rfl⟩ | rfl⟩
        · cases hresult
          exact ⟨rfl, fun hn => hseen.not_notReady (hn.of_append (t := [_])).2⟩
        · cases hresult
        · cases hresult
      · apply truthful_of_write (fun _ => params.liveWrite) ""
          [⟨.run (variableListArgs params.service) none, read⟩, ⟨.run serviceListArgs none, listed⟩]
          rfl ?_ (by simp) hshows (fun _ _ => rfl)
          (hflat.of_cons.of_cons.describes (.update params) "") hwrite
        exact (NotReady.singleton (by simp)).of_other (by simp)
  | rotate options =>
      obtain ⟨o₁, hrun, rfl⟩ := Prog.exec_map.mp h
      rcases rotateGatewayToken_cases hrun with ⟨hreads, e, rfl⟩ |
        ⟨read, listed, prior, drawn, t', o', rfl, hshows, hwrite, rfl⟩
      · exact StopsEarly.truthful ⟨hreads, e, rfl⟩
      · -- the write names the token that was drawn
        have hsame : ∀ other, (options.liveWrite other).setCall = (options.liveWrite drawn).setCall →
            options.liveWrite other = options.liveWrite drawn := by
          intro other hcall
          have hstdin : some other = some drawn := (Call.run.inj hcall).2
          rw [Option.some.inj hstdin]
        have htruthful := truthful_of_write (fun drawn => options.liveWrite drawn) drawn
          [⟨.run (variableListArgs options.service) none, read⟩,
            ⟨.run serviceListArgs none, listed⟩, ⟨.randomBytes 32, drawn⟩]
          rfl (((NotReady.singleton (by simp)).of_other (by simp)).of_other (by simp)) (by simp)
          hshows hsame (hflat.of_cons.of_cons.of_cons.describes (.rotate options) drawn) hwrite
        cases o' with
        | returned a => exact htruthful
        | threw e => exact htruthful
        | diverged => exact htruthful

/-- A listing of variables is one of the two the platform prints. -/
def printsVariables : Event Platform → Bool
  | ⟨.run ["variable", "list", _, _, _] _, .ok text⟩ =>
    text == (sampleVariables "v1").1 || text == (sampleVariables "v2").1
  | _ => true

theorem sampleUpdate_flat : FlatListings sampleRuntime sampleUpdate.1 := by
  intro service text document hmem hparse
  have hall : sampleUpdate.1.all printsVariables = true := rfl
  have hprinted : (text == (sampleVariables "v1").1 || text == (sampleVariables "v2").1) = true :=
    List.all_eq_true.mp hall _ hmem
  have hparsed : ∀ ref, sampleRuntime.jsonParse (sampleVariables ref).1 = .ok (sampleVariables ref).2 →
      text = (sampleVariables ref).1 →
      ∃ fields, document = .obj fields ∧ ∀ p ∈ fields, ∃ s, p.2 = Json.str s := by
    rintro ref hparses rfl
    rw [hparses] at hparse
    obtain rfl := Except.ok.inj hparse
    exact ⟨_, rfl, by simp⟩
  rcases Bool.or_eq_true_iff.mp hprinted with h | h
  · exact hparsed "v1" rfl (beq_iff_eq.mp h)
  · exact hparsed "v2" rfl (beq_iff_eq.mp h)

/-- The update goes through and is reported as it happened. -/
theorem sampleUpdate_ready :
    sampleUpdate.2 = .returned ⟨true, true⟩ ∧
      Truthful sampleRuntime (fun drawn => (LiveChange.update sampleParams).liveWrite drawn)
        sampleUpdate.1 sampleUpdate.2 :=
  ⟨rfl, @liveChange_truthful sampleRuntime 1 sampleUpdate.1 (.update sampleParams) sampleUpdate.2
    sampleUpdate_flat sampleUpdate_exec⟩

end Railway
