/-
ControlPlane/Webhook/Response.lean

What GitHub is answered, and that nothing of the dispatch can change it.

Here the handler is a program (`handleGithubWebhookVerify`): its effects, the
read of the body and the operations on the dedup store are calls, and whatever
can throw is written with its exceptions (Throwing.lean).  So a run can wait for
a reply that never comes, the store may answer anything, and an exception nobody
catches would end the handler.

* `answerTo` is the answer by the fixed precedence; it only looks at the secrets,
  the cap, the request and the outcome of the read;
* `handle_early` and `handle_late` say that the program answers exactly once,
  with that answer, before it calls the hook, and then returns;
* `handleGithubWebhookVerify_answers` is this for two runs at any moment;
* `handleGithubWebhookVerify_effects` connects the program to the runs of
  Dispatch.lean.
-/
import ControlPlane.Webhook.Throwing
import ControlPlane.Webhook.Authorisation
import ControlPlane.Interaction.Once
import Mathlib.Tactic.FinCases

namespace Webhook

open Js Interaction

/-! ### The program -/

/-- What the handler asks of the world. -/
inductive HandlerCall where
  | effect (e : Effect)
  | readBody (maxBytes : ℕ)
  | has (dedupKey : String)
  | add (dedupKey : String)
  | delete (dedupKey : String)

/-- The call to the hook and the reads are answered; the rest is just done. -/
abbrev HandlerCall.Reply : HandlerCall → Type
  | .effect (.fetch _) => FetchOutcome
  | .effect _ => Unit
  | .readBody _ => Except BodyError (List UInt8)
  | .has _ => Bool
  | .add _ => Unit
  | .delete _ => Unit

/-- The calls of the handler as an interface. -/
abbrev handlerInterface : Interface := ⟨HandlerCall, HandlerCall.Reply⟩

/-- The code of the handler, which may throw. -/
abbrev Handler (α : Type) := Prog handlerInterface Thrown α

/-- The calls of a run of the handler, with what they gave. -/
abbrev HandlerTrace := List (Event handlerInterface)

/-- A read that failed, as it is thrown. -/
def BodyError.thrown (e : BodyError) : Thrown :=
  match e with
  | .alreadyEnded => ⟨some "READ_RAW_BODY_ALREADY_ENDED", e.message⟩
  | .tooLarge _ => ⟨some "READ_RAW_BODY_TOO_LARGE", e.message⟩
  | .timedOut _ => ⟨some "READ_RAW_BODY_TIMEOUT", e.message⟩
  | .stream _ => ⟨none, e.message⟩

namespace Throwing

/-- An effect whose reply is not looked at. -/
def act (e : Effect) : Handler Unit := .call (.effect e) fun _ => .ret ()

/-- The effects one after the other. -/
def actAll : List Effect → Handler Unit
  | [] => pure ()
  | e :: rest => do
    act e
    actAll rest

/-- `fetchImpl(hookUrl, …)`; a rejection is thrown. -/
def fetch (request : HttpRequest) : Handler FetchOutcome :=
  .call (.effect (.fetch request)) fun (outcome : FetchOutcome) =>
    match outcome with
    | .rejected message => .throw ⟨none, message⟩
    | outcome => .ret outcome

/-- `readRawBody(req)`: the cap is resolved before the stream is looked at. -/
def readRawBody (env : Env) : Handler (List UInt8) := do
  let maxBytes ← Prog.ofExcept (ofConfig (resolveGithubWebhookMaxBytes env))
  .call (.readBody maxBytes) fun (outcome : Except BodyError (List UInt8)) =>
    Prog.ofExcept (outcome.mapError BodyError.thrown)

/-- The lookup of the allowlist, which no error leaves. -/
def consultAllowlist (rt : Runtime) (env : Env) : Handler (Option (List Json)) :=
  Prog.tryCatch (Prog.ofExcept ((resolveDispatchAllowlist rt env).map some)) fun err => do
    act (.consoleError ("[github-webhook-verify] config error: " ++
      GITHUB_DISPATCH_ALLOWLIST_ENV ++ " is misconfigured (" ++ err.code.getD "UNKNOWN" ++ ")"))
    return none

/-- The decision for a key that is not in the store. -/
def planFresh (rt : Runtime) (env : Env) (event : String) (payload : Value) (dedupKey : String) :
    Handler Dispatch := do
  match ← consultAllowlist rt env with
  | none => return .configError
  | some allowlist =>
    let commentBody :=
      if event = "issue_comment" then (payload.chain "comment").chain "body" else .undefined
    let matched ← Prog.ofExcept (matchesDispatchAllowlist rt allowlist event
      (payload.chain "action") (repoFullName payload) (actorLoginFor event payload) commentBody)
    if matched then
      .call (.add dedupKey) fun _ => return .forwarded dedupKey
    else return .noMatch

/-- `planDispatch` as code of the handler. -/
def planDispatch (rt : Runtime) (env : Env) (event payload : Value) : Handler Dispatch :=
  match event.asString with
  | none => return .notEnrolled
  | some event =>
    match computeDedupKey event payload with
    | none => return .notEnrolled
    | some dedupKey =>
      .call (.has dedupKey) fun (seen : Bool) =>
        if seen then return .duplicate else planFresh rt env event payload dedupKey

/-- The call to the hook: `result.forwarded`. -/
def forwardToAgentHook (env : Env) (options : ForwardOptions) (dispatchKey event : String)
    (payload : Value) : Handler Bool :=
  Prog.tryCatch
    (do
      let response ← fetch (agentHookRequest env options dispatchKey event payload)
      if response.forwarded then return true
      else
        actAll (forwardFailure env options response)
        return false)
    fun err => do
      actAll (forwardFailure env options (.rejected err.message))
      return false

/-- The end of the handler: the forward, and the release of the key when it fails. -/
def forwardDecision (env : Env) (options : HandlerOptions) (dispatch : Dispatch)
    (event parsedPayload deliveryId : Value) : Handler Unit :=
  match dispatch, event.asString with
  | .forwarded dispatchKey, some event => do
    let forwarded ← forwardToAgentHook env options.forward dispatchKey event
      (.json (withDeliveryId parsedPayload deliveryId))
    if forwarded then return ()
    else .call (.delete dispatchKey) fun _ => return ()
  | _, _ => return ()

/-- The handler from the verified signature on. -/
def handleVerified (rt : Runtime) (env : Env) (options : HandlerOptions) (req : Request)
    (rawBody : List UInt8) : Handler Unit := do
  let (parsedPayload, repo) ← Prog.ofExcept (parsePayload rt rawBody)
  let event := req.header "x-github-event"
  let deliveryId := req.header "x-github-delivery"
  let dispatch ← planDispatch rt env event parsedPayload
  act (.log (acceptedLine event deliveryId repo dispatch))
  act (.respond 200 [] "ok")
  forwardDecision env options dispatch event parsedPayload deliveryId

/-- The secrets, or nothing when the request has been answered for want of them. -/
def secretsOrAnswer (rt : Runtime) (env : Env) (options : HandlerOptions) :
    Handler (Option (List String)) :=
  Prog.tryCatch
    (Prog.ofExcept ((resolveSecretsForRequest rt env options.secret).map some))
    fun err =>
      if err.code = some "GITHUB_WEBHOOK_SECRETS_CONFIG_ERROR" then do
        act (.consoleError ("[github-webhook-verify] config error: " ++ err.message))
        act (.respond 500 [] "")
        return none
      else .throw err

/-- The body, or nothing when the request has been answered for want of it. -/
def bodyOrAnswer (env : Env) : Handler (Option (List UInt8)) :=
  Prog.tryCatch (do
      let rawBody ← readRawBody env
      return some rawBody)
    fun err =>
      if err.code = some "GITHUB_WEBHOOK_MAX_BYTES_CONFIG_ERROR" then do
        act (.consoleError ("[github-webhook-verify] config error: " ++ err.message))
        act (.respond 500 [] "")
        return none
      else do
        act (.respond 400 [("Connection", "close")] "")
        act .destroyOnFinish
        return none

/-- The handler from the body on. -/
def answerBody (rt : Runtime) (env : Env) (options : HandlerOptions) (req : Request)
    (secrets : List String) : Option (List UInt8) → Handler Unit
  | none => return ()
  | some rawBody =>
    if verifyAnyGithubSignature rt secrets rawBody (req.header "x-hub-signature-256") then
      handleVerified rt env options req rawBody
    else do
      act (.log rejectedLine)
      act (.respond 401 [] "")

/-- `handleGithubWebhookVerify(req, res, options)`. -/
def handleGithubWebhookVerify (rt : Runtime) (env : Env) (options : HandlerOptions)
    (req : Request) : Handler Unit := do
  match ← secretsOrAnswer rt env options with
  | none => return ()
  | some [] => act (.respond 404 [] "Not Found")
  | some (secret :: secrets) =>
    if req.method ≠ "POST" then act (.respond 405 [("Allow", "POST")] "")
    else do
      let rawBody ← bodyOrAnswer env
      answerBody rt env options req (secret :: secrets) rawBody

end Throwing

/-! ### The answer -/

/-- A response as GitHub gets it. -/
structure Answer where
  statusCode : ℕ
  headers : List (String × String)
  body : String
deriving DecidableEq

/-- The response an answer is sent as. -/
def Answer.effect (a : Answer) : Effect := .respond a.statusCode a.headers a.body

/-- The answers that are decided before the body is read: malformed secrets, no
secret, another method, a malformed cap, in this order. -/
def earlyAnswer (rt : Runtime) (env : Env) (secret : Option String) (req : Request) :
    Option Answer :=
  match resolveSecretsForRequest rt env secret with
  | .error _ => some ⟨500, [], ""⟩
  | .ok [] => some ⟨404, [], "Not Found"⟩
  | .ok (_ :: _) =>
    if req.method ≠ "POST" then some ⟨405, [("Allow", "POST")], ""⟩
    else match resolveGithubWebhookMaxBytes env with
      | .error _ => some ⟨500, [], ""⟩
      | .ok _ => none

/-- The answer once the read has ended. -/
def bodyAnswer (rt : Runtime) (env : Env) (secret : Option String) (req : Request) :
    Except BodyError (List UInt8) → Answer
  | .error _ => ⟨400, [("Connection", "close")], ""⟩
  | .ok rawBody =>
    match resolveSecretsForRequest rt env secret with
    | .ok secrets =>
      if verifyAnyGithubSignature rt secrets rawBody (req.header "x-hub-signature-256") then
        ⟨200, [], "ok"⟩
      else ⟨401, [], ""⟩
    | .error _ => ⟨401, [], ""⟩

/-- The answer to a request, by the outcome of the read of its body. -/
def answerTo (rt : Runtime) (env : Env) (secret : Option String) (req : Request)
    (outcome : Except BodyError (List UInt8)) : Answer :=
  (earlyAnswer rt env secret req).getD (bodyAnswer rt env secret req outcome)

/-- The environment variables the answer depends on. -/
def ANSWER_VARIABLES : List String :=
  [GITHUB_WEBHOOK_SECRETS_ENV, "GITHUB_WEBHOOK_SECRET", GITHUB_WEBHOOK_MAX_BODY_BYTES_ENV]

section Agreement

variable {rt : Runtime} {env env' : Env} {secret : Option String} {req : Request}

/-- The secrets are read from these variables. -/
theorem resolveSecretsForRequest_congr (h : ∀ name ∈ ANSWER_VARIABLES, env name = env' name) :
    resolveSecretsForRequest rt env secret = resolveSecretsForRequest rt env' secret := by
  have hsecrets : env GITHUB_WEBHOOK_SECRETS_ENV = env' GITHUB_WEBHOOK_SECRETS_ENV :=
    h _ (by simp [ANSWER_VARIABLES])
  have hlegacy : env "GITHUB_WEBHOOK_SECRET" = env' "GITHUB_WEBHOOK_SECRET" :=
    h _ (by simp [ANSWER_VARIABLES])
  have hfromEnv : resolveGithubWebhookSecrets rt env = resolveGithubWebhookSecrets rt env' := by
    simp only [resolveGithubWebhookSecrets, legacySecrets, hsecrets, hlegacy]
  simp only [resolveSecretsForRequest, hfromEnv]

/-- So is the limit. -/
theorem resolveGithubWebhookMaxBytes_congr (h : ∀ name ∈ ANSWER_VARIABLES, env name = env' name) :
    resolveGithubWebhookMaxBytes env = resolveGithubWebhookMaxBytes env' := by
  have hcap : env GITHUB_WEBHOOK_MAX_BODY_BYTES_ENV = env' GITHUB_WEBHOOK_MAX_BODY_BYTES_ENV :=
    h _ (by simp [ANSWER_VARIABLES])
  simp only [resolveGithubWebhookMaxBytes, hcap]

/-- An answer before the body depends on no other variable. -/
theorem earlyAnswer_congr (h : ∀ name ∈ ANSWER_VARIABLES, env name = env' name) :
    earlyAnswer rt env secret req = earlyAnswer rt env' secret req := by
  simp only [earlyAnswer, resolveSecretsForRequest_congr h, resolveGithubWebhookMaxBytes_congr h]

/-- Nor does one after it. -/
theorem bodyAnswer_congr (h : ∀ name ∈ ANSWER_VARIABLES, env name = env' name) :
    bodyAnswer rt env secret req = bodyAnswer rt env' secret req := by
  funext outcome
  cases outcome with
  | error e => rfl
  | ok rawBody => simp only [bodyAnswer, resolveSecretsForRequest_congr h]

end Agreement

/-! ### What the errors are tagged with -/

/-- Every error of the result has this code. -/
def CodeIs {α : Type} (code : String) (x : Except ConfigError α) : Prop :=
  ∀ err, x = .error err → err.code = code

section Codes

variable {α β : Type} {code : String} {rt : Runtime} {env : Env}

theorem codeIs_ok (a : α) : CodeIs code (.ok a) := by
  rintro err ⟨⟩

theorem CodeIs.map {x : Except ConfigError α} (h : CodeIs code x) (f : α → β) :
    CodeIs code (x.map f) := by
  rcases x with err | a
  · rintro err' ⟨⟩
    exact h err rfl
  · rintro err' ⟨⟩

theorem codeIs_secrets (detail : String) :
    CodeIs "GITHUB_WEBHOOK_SECRETS_CONFIG_ERROR"
      (throwWebhookSecretsConfigError detail : Except ConfigError α) := by
  rintro err ⟨⟩
  rfl

theorem codeIs_allowlist (detail : String) :
    CodeIs "GITHUB_DISPATCH_ALLOWLIST_CONFIG_ERROR"
      (throwDispatchAllowlistConfigError detail : Except ConfigError α) := by
  rintro err ⟨⟩
  rfl

theorem checkSecrets_code (items : List Json) :
    CodeIs "GITHUB_WEBHOOK_SECRETS_CONFIG_ERROR" (checkSecrets items) := by
  induction items with
  | nil => exact codeIs_ok _
  | cons entry rest ih =>
      unfold checkSecrets
      split
      · exact codeIs_secrets _
      · exact ih.map _

/-- The errors of the secrets have one code. -/
theorem resolveGithubWebhookSecrets_code :
    CodeIs "GITHUB_WEBHOOK_SECRETS_CONFIG_ERROR" (resolveGithubWebhookSecrets rt env) := by
  unfold resolveGithubWebhookSecrets
  split
  · split
    · exact codeIs_ok _
    · split
      · exact codeIs_secrets _
      · exact checkSecrets_code _
      · exact codeIs_secrets _
  · exact codeIs_ok _

theorem resolveSecretsForRequest_code {secret : Option String} {err : ConfigError}
    (h : resolveSecretsForRequest rt env secret = .error err) :
    err.code = "GITHUB_WEBHOOK_SECRETS_CONFIG_ERROR" := by
  cases secret with
  | none => exact resolveGithubWebhookSecrets_code err h
  | some s =>
      by_cases hs : s = ""
      · rw [resolveSecretsForRequest, if_pos hs] at h
        exact resolveGithubWebhookSecrets_code err h
      · rw [resolveSecretsForRequest, if_neg hs] at h
        cases h

theorem validateTrustedMention_code (repo : String) (trusted : Value) :
    CodeIs "GITHUB_DISPATCH_ALLOWLIST_CONFIG_ERROR" (validateTrustedMention rt repo trusted) := by
  unfold validateTrustedMention
  split
  · split
    · exact codeIs_ok _
    · exact codeIs_allowlist _
  · exact codeIs_allowlist _

theorem validateEventEntry_code (repo : String) (seenEvents : List String) (eventEntry : Json) :
    CodeIs "GITHUB_DISPATCH_ALLOWLIST_CONFIG_ERROR"
      (validateEventEntry rt repo seenEvents eventEntry) := by
  unfold validateEventEntry
  split
  · split
    · exact codeIs_allowlist _
    · split
      · exact codeIs_allowlist _
      · split
        · exact codeIs_allowlist _
        · split
          · exact (validateTrustedMention_code repo _).map _
          · exact codeIs_ok _
  · exact codeIs_allowlist _

theorem validateEvents_code (repo : String) (seenEvents : List String) (items : List Json) :
    CodeIs "GITHUB_DISPATCH_ALLOWLIST_CONFIG_ERROR" (validateEvents rt repo seenEvents items) := by
  induction items generalizing seenEvents with
  | nil => exact codeIs_ok _
  | cons eventEntry rest ih =>
      unfold validateEvents
      split
      · next e he =>
        rintro err ⟨⟩
        exact validateEventEntry_code repo seenEvents eventEntry e he
      · exact ih _

/-- So have those of an entry of the allowlist. -/
theorem validateDispatchAllowlistEntry_code (entry : Json) :
    CodeIs "GITHUB_DISPATCH_ALLOWLIST_CONFIG_ERROR"
      (validateDispatchAllowlistEntry rt entry) := by
  unfold validateDispatchAllowlistEntry
  split
  · split
    · exact codeIs_allowlist _
    · split
      · exact (validateEvents_code _ _ _).map _
      · exact codeIs_allowlist _
  · exact codeIs_allowlist _

/-- So have those of all entries. -/
theorem validateEntries_code (entries : List Json) :
    CodeIs "GITHUB_DISPATCH_ALLOWLIST_CONFIG_ERROR" (validateEntries rt entries) := by
  induction entries with
  | nil => exact codeIs_ok _
  | cons entry rest ih =>
      unfold validateEntries
      split
      · next e he =>
        rintro err ⟨⟩
        exact validateDispatchAllowlistEntry_code entry e he
      · exact ih.map _

theorem checkRepos_code (seenRepos repos : List String) :
    CodeIs "GITHUB_DISPATCH_ALLOWLIST_CONFIG_ERROR" (checkRepos seenRepos repos) := by
  induction repos generalizing seenRepos with
  | nil => exact codeIs_ok _
  | cons repo rest ih =>
      unfold checkRepos
      split
      · exact codeIs_allowlist _
      · exact ih _

/-- Whatever is wrong with the allowlist, the error has the one code. -/
theorem resolveDispatchAllowlist_code {err : ConfigError}
    (h : resolveDispatchAllowlist rt env = .error err) :
    err.code = "GITHUB_DISPATCH_ALLOWLIST_CONFIG_ERROR" := by
  unfold resolveDispatchAllowlist at h
  split at h
  · cases h
  · split at h
    · cases h
    · split at h
      · exact codeIs_allowlist _ err h
      · split at h
        · next e he =>
          obtain rfl := Except.error.inj h
          exact validateEntries_code _ e he
        · exact (checkRepos_code _ _).map _ err h
      · exact codeIs_allowlist _ err h

end Codes

/-- So have those of the limit. -/
theorem resolveGithubWebhookMaxBytes_code {env : Env} {err : ConfigError}
    (h : resolveGithubWebhookMaxBytes env = .error err) :
    err.code = "GITHUB_WEBHOOK_MAX_BYTES_CONFIG_ERROR" := by
  unfold resolveGithubWebhookMaxBytes at h
  split at h
  · cases h
  · split at h
    · cases h
    · split at h
      · cases h
      · rw [← Except.error.inj h]

/-- No failure of a read passes for a malformed cap. -/
theorem BodyError.thrown_code_ne (e : BodyError) :
    e.thrown.code ≠ some "GITHUB_WEBHOOK_MAX_BYTES_CONFIG_ERROR" := by
  cases e <;> simp [BodyError.thrown]

/-! ### Before and after the answer -/

/-- What can be done before the answer: lines, and the store. -/
def Quiet : HandlerCall → Prop
  | .effect (.consoleError _) => True
  | .effect (.log _) => True
  | .has _ => True
  | .add _ => True
  | _ => False

/-- What can be done after the answer: anything but another answer or a read of
the body. -/
def Late : HandlerCall → Prop
  | .effect (.respond _ _ _) => False
  | .readBody _ => False
  | _ => True

namespace Throwing

section Parts

variable {rt : Runtime} {env : Env} {options : HandlerOptions} {req : Request}

theorem act_only {P : HandlerCall → Prop} {e : Effect} (h : P (.effect e)) : (act e).Only P :=
  ⟨h, fun _ => trivial⟩

theorem act_returns (e : Effect) : (act e).Returns := fun _ => trivial

/-- Effects one after the other. -/
theorem actAll_only {P : HandlerCall → Prop} {effects : List Effect}
    (h : ∀ e ∈ effects, P (.effect e)) : (actAll effects).Only P := by
  induction effects with
  | nil => trivial
  | cons e rest ih =>
      have hrest : (actAll rest).Only P := ih fun e' he' => h e' (List.mem_cons_of_mem _ he')
      exact (act_only (h e (by simp))).bind fun _ => hrest

theorem actAll_returns (effects : List Effect) : (actAll effects).Returns := by
  induction effects with
  | nil => trivial
  | cons e rest ih => exact (act_returns e).bind fun _ => ih

theorem consultAllowlist_only : (consultAllowlist rt env).Only Quiet := by
  apply Prog.Only.tryCatch
  · exact Prog.only_ofExcept
  · intro err
    exact (act_only trivial).bind fun _ => trivial

theorem consultAllowlist_returns : (consultAllowlist rt env).Returns := by
  have hends : (Prog.ofExcept ((resolveDispatchAllowlist rt env).map some) :
      Handler (Option (List Json))).Ends (fun _ => True) (fun _ => True) :=
    Prog.ends_ofExcept (fun _ _ => trivial) fun _ _ => trivial
  exact hends.returns fun err _ => (act_returns _).bind fun _ => trivial

/-- Nothing is answered while a delivery is planned. -/
theorem planFresh_only (event : String) (payload : Value) (dedupKey : String) :
    (planFresh rt env event payload dedupKey).Only Quiet := by
  refine consultAllowlist_only.bind fun allowlist => ?_
  cases allowlist with
  | none => trivial
  | some allowlist =>
      refine Prog.only_ofExcept.bind fun matched => ?_
      cases matched with
      | true => exact ⟨trivial, fun _ => trivial⟩
      | false => trivial

/-- The plan is always made. -/
theorem planFresh_returns (event : String) (payload : Value) (dedupKey : String) :
    (planFresh rt env event payload dedupKey).Returns := by
  refine consultAllowlist_returns.bind fun allowlist => ?_
  cases allowlist with
  | none => trivial
  | some allowlist =>
      simp only [matchesDispatchAllowlist_eq]
      refine Prog.returns_pure.bind fun matched => ?_
      cases matched with
      | true => exact fun _ => trivial
      | false => trivial

/-- A delivery without a key is decided without a look at the store. -/
theorem planDispatch_of_no_key {event payload : Value} (h : deliveryKey event payload = none) :
    planDispatch rt env event payload = .ret .notEnrolled := by
  unfold planDispatch
  rcases hname : event.asString with - | name
  · rfl
  · have hkey : computeDedupKey name payload = none := by simpa [deliveryKey, hname] using h
    simp only [hkey]
    rfl

/-- A delivery with a key is decided by whether the key is in the store. -/
theorem planDispatch_of_key {name dedupKey : String} {payload : Value}
    (h : computeDedupKey name payload = some dedupKey) :
    planDispatch rt env (.json (.str name)) payload = .call (.has dedupKey) fun (seen : Bool) =>
      if seen then .ret .duplicate else planFresh rt env name payload dedupKey := by
  unfold planDispatch
  simp only [Value.asString, h]
  rfl

theorem planDispatch_only (event payload : Value) : (planDispatch rt env event payload).Only Quiet := by
  rcases hkey : deliveryKey event payload with - | dedupKey
  · rw [planDispatch_of_no_key hkey]
    trivial
  · obtain ⟨name, rfl, hname⟩ := deliveryKey_eq_some_iff.mp hkey
    rw [planDispatch_of_key hname]
    refine ⟨trivial, fun seen => ?_⟩
    cases seen with
    | true => trivial
    | false => exact planFresh_only name payload dedupKey

/-- No error leaves the decision. -/
theorem planDispatch_returns (event payload : Value) : (planDispatch rt env event payload).Returns := by
  rcases hkey : deliveryKey event payload with - | dedupKey
  · rw [planDispatch_of_no_key hkey]
    trivial
  · obtain ⟨name, rfl, hname⟩ := deliveryKey_eq_some_iff.mp hkey
    rw [planDispatch_of_key hname]
    refine Prog.returns_call fun seen => ?_
    cases seen with
    | true => trivial
    | false => exact planFresh_returns name payload dedupKey

/-- What is logged about a forward comes behind the answer. -/
theorem forwardFailure_late (options : ForwardOptions) (outcome : FetchOutcome) :
    ∀ e ∈ forwardFailure env options outcome, Late (.effect e) := by
  intro e he
  unfold forwardFailure at he
  split at he
  · cases he
  · rw [List.mem_singleton.mp he]
    trivial
  · rw [List.mem_singleton.mp he]
    trivial
  · rw [List.mem_singleton.mp he]
    trivial

theorem fetch_only (request : HttpRequest) : (fetch request).Only Late := by
  refine ⟨trivial, fun outcome => ?_⟩
  cases outcome <;> trivial

theorem forwardToAgentHook_only (options : ForwardOptions) (dispatchKey event : String)
    (payload : Value) : (forwardToAgentHook env options dispatchKey event payload).Only Late := by
  apply Prog.Only.tryCatch
  · refine (fetch_only _).bind fun response => ?_
    by_cases h : response.forwarded = true
    · rw [if_pos h]
      trivial
    · rw [if_neg h]
      exact (actAll_only (forwardFailure_late options response)).bind fun _ => trivial
  · intro err
    exact (actAll_only (forwardFailure_late options _)).bind fun _ => trivial

/-- However the call to the hook ends, the forward returns. -/
theorem forwardToAgentHook_returns (options : ForwardOptions) (dispatchKey event : String)
    (payload : Value) : (forwardToAgentHook env options dispatchKey event payload).Returns := by
  have hfetch : (fetch (agentHookRequest env options dispatchKey event payload)).Ends
      (fun _ => True) (fun _ => True) := by
    intro outcome
    cases outcome <;> trivial
  refine Prog.Ends.returns (hfetch.bind (B := fun _ => True) fun response _ => ?_) fun err _ => ?_
  · by_cases h : response.forwarded = true
    · rw [if_pos h]
      trivial
    · rw [if_neg h]
      exact (actAll_returns _).ends.bind fun _ _ => trivial
  · exact (actAll_returns _).bind fun _ => trivial

end Parts

/-! ### One answer -/

section Answers

variable {rt : Runtime} {env : Env} {options : HandlerOptions} {req : Request}

/-- So does the forward. -/
theorem forwardDecision_only (dispatch : Dispatch) (event parsedPayload deliveryId : Value) :
    (forwardDecision env options dispatch event parsedPayload deliveryId).Only Late := by
  unfold forwardDecision
  split
  · refine (forwardToAgentHook_only _ _ _ _).bind fun forwarded => ?_
    cases forwarded with
    | true => trivial
    | false => exact ⟨trivial, fun _ => trivial⟩
  · trivial

theorem forwardDecision_returns (dispatch : Dispatch) (event parsedPayload deliveryId : Value) :
    (forwardDecision env options dispatch event parsedPayload deliveryId).Returns := by
  unfold forwardDecision
  split
  · refine (forwardToAgentHook_returns _ _ _ _).bind fun forwarded => ?_
    cases forwarded with
    | true => trivial
    | false => exact fun _ => trivial
  · trivial

/-- The handler after the parsing, which no error leaves. -/
theorem handleVerified_eq (rawBody : List UInt8) :
    handleVerified rt env options req rawBody = (do
      let dispatch ← planDispatch rt env (req.header "x-github-event") (payloadOf rt rawBody)
      act (.log (req.acceptedLine rt rawBody dispatch))
      act (.respond 200 [] "ok")
      forwardDecision env options dispatch (req.header "x-github-event") (payloadOf rt rawBody)
        (req.header "x-github-delivery")) := by
  unfold handleVerified
  rw [parsePayload_eq]
  rfl

/-- A verified delivery is answered with 200 after the decision and before the
forward. -/
theorem handleVerified_once (rawBody : List UInt8) :
    (handleVerified rt env options req rawBody).Once
      (HandlerCall.effect (.respond 200 [] "ok")) Quiet Late := by
  rw [handleVerified_eq]
  refine (planDispatch_only _ _).once (planDispatch_returns _ _) fun dispatch => ?_
  refine (act_only trivial).once (act_returns _) fun _ => ?_
  exact Prog.once_call (fun _ => forwardDecision_only _ _ _ _) fun _ => forwardDecision_returns _ _ _ _

theorem secretsOrAnswer_ok {secrets : List String}
    (h : Webhook.resolveSecretsForRequest rt env options.secret = .ok secrets) :
    secretsOrAnswer rt env options = .ret (some secrets) := by
  unfold secretsOrAnswer
  rw [resolveSecretsForRequest_eq, h]
  rfl

/-- Malformed secrets are answered with 500. -/
theorem secretsOrAnswer_error {err : ConfigError}
    (h : Webhook.resolveSecretsForRequest rt env options.secret = .error err) :
    secretsOrAnswer rt env options = do
      act (.consoleError ("[github-webhook-verify] config error: " ++ err.message))
      act (.respond 500 [] "")
      return none := by
  have hcode : err.code = "GITHUB_WEBHOOK_SECRETS_CONFIG_ERROR" :=
    resolveSecretsForRequest_code h
  unfold secretsOrAnswer
  rw [resolveSecretsForRequest_eq, h]
  show (if some err.code = some "GITHUB_WEBHOOK_SECRETS_CONFIG_ERROR" then _ else _) = _
  rw [hcode, if_pos rfl]
  rfl

/-- A malformed cap is answered with 500 before the body is looked at. -/
theorem bodyOrAnswer_error {err : ConfigError} (h : resolveGithubWebhookMaxBytes env = .error err) :
    bodyOrAnswer env = do
      act (.consoleError ("[github-webhook-verify] config error: " ++ err.message))
      act (.respond 500 [] "")
      return none := by
  have hcode : err.code = "GITHUB_WEBHOOK_MAX_BYTES_CONFIG_ERROR" :=
    resolveGithubWebhookMaxBytes_code h
  unfold bodyOrAnswer readRawBody
  rw [h]
  show (if some err.code = some "GITHUB_WEBHOOK_MAX_BYTES_CONFIG_ERROR" then _ else _) = _
  rw [hcode, if_pos rfl]
  rfl

/-- What is done with the outcome of a read: one that fails is answered with 400. -/
def bodyRead : Except BodyError (List UInt8) → Handler (Option (List UInt8))
  | .ok rawBody => .ret (some rawBody)
  | .error _ => do
    act (.respond 400 [("Connection", "close")] "")
    act .destroyOnFinish
    return none

/-- With a cap the body is read. -/
theorem bodyOrAnswer_ok {maxBytes : ℕ} (h : resolveGithubWebhookMaxBytes env = .ok maxBytes) :
    bodyOrAnswer env = .call (.readBody maxBytes) bodyRead := by
  unfold bodyOrAnswer readRawBody
  rw [h]
  show (Prog.call (.readBody maxBytes) _ : Handler (Option (List UInt8))) = _
  congr 1
  funext outcome
  cases (outcome : Except BodyError (List UInt8)) with
  | ok rawBody => rfl
  | error e =>
      show (if e.thrown.code = some "GITHUB_WEBHOOK_MAX_BYTES_CONFIG_ERROR" then _ else _) = _
      rw [if_neg (BodyError.thrown_code_ne e)]
      rfl

/-- **Before the body**: what is decided without it is answered once, and the body is
not read. -/
theorem handle_early {answer : Answer} (h : earlyAnswer rt env options.secret req = some answer) :
    (handleGithubWebhookVerify rt env options req).Once
      (HandlerCall.effect answer.effect) Quiet Late := by
  unfold handleGithubWebhookVerify
  rcases hsecrets : Webhook.resolveSecretsForRequest rt env options.secret with err | secrets
  · simp only [earlyAnswer, hsecrets, Option.some.injEq] at h
    obtain rfl := h
    rw [secretsOrAnswer_error hsecrets]
    exact Prog.once_call_of_before trivial fun _ =>
      Prog.once_call (fun _ => trivial) fun _ => trivial
  · rw [secretsOrAnswer_ok hsecrets]
    cases secrets with
    | nil =>
        simp only [earlyAnswer, hsecrets, Option.some.injEq] at h
        obtain rfl := h
        exact Prog.once_call (fun _ => trivial) fun _ => trivial
    | cons secret secrets =>
        show (if req.method ≠ "POST" then _ else _ : Handler Unit).Once _ _ _
        by_cases hmethod : req.method ≠ "POST"
        · simp only [earlyAnswer, hsecrets, if_pos hmethod, Option.some.injEq] at h
          obtain rfl := h
          rw [if_pos hmethod]
          exact Prog.once_call (fun _ => trivial) fun _ => trivial
        · rw [if_neg hmethod]
          rcases hcap : resolveGithubWebhookMaxBytes env with err | maxBytes
          · simp only [earlyAnswer, hsecrets, if_neg hmethod, hcap, Option.some.injEq] at h
            obtain rfl := h
            rw [bodyOrAnswer_error hcap]
            exact Prog.once_call_of_before trivial fun _ =>
              Prog.once_call (fun _ => trivial) fun _ => trivial
          · simp only [earlyAnswer, hsecrets, if_neg hmethod, hcap] at h
            cases h

/-- What follows a read answers once, by the outcome of the read. -/
theorem bodyRead_once {secret : String} {secrets : List String}
    (h : Webhook.resolveSecretsForRequest rt env options.secret = .ok (secret :: secrets))
    (outcome : Except BodyError (List UInt8)) :
    (bodyRead outcome >>= answerBody rt env options req (secret :: secrets)).Once
      (HandlerCall.effect (bodyAnswer rt env options.secret req outcome).effect) Quiet Late := by
  cases outcome with
  | error e => exact Prog.once_call (fun _ => ⟨trivial, fun _ => trivial⟩) fun _ _ => trivial
  | ok rawBody =>
      show (answerBody rt env options req (secret :: secrets) (some rawBody)).Once _ _ _
      simp only [answerBody, bodyAnswer, h]
      by_cases hsig : verifyAnyGithubSignature rt (secret :: secrets) rawBody
        (req.header "x-hub-signature-256") = true
      · simp only [if_pos hsig]
        exact handleVerified_once rawBody
      · simp only [if_neg hsig]
        exact Prog.once_call_of_before trivial fun _ =>
          Prog.once_call (fun _ => trivial) fun _ => trivial

/-- **From the body on**: the body is read, and then the request is answered once, by
the outcome of the read alone. -/
theorem handle_late (h : earlyAnswer rt env options.secret req = none) :
    ∃ (maxBytes : ℕ) (k : Except BodyError (List UInt8) → Handler Unit),
      handleGithubWebhookVerify rt env options req = .call (.readBody maxBytes) k ∧
      ∀ outcome, (k outcome).Once
        (HandlerCall.effect (bodyAnswer rt env options.secret req outcome).effect) Quiet Late := by
  rcases hsecrets : Webhook.resolveSecretsForRequest rt env options.secret with err | secrets
  · simp only [earlyAnswer, hsecrets] at h
    cases h
  · cases secrets with
    | nil =>
        simp only [earlyAnswer, hsecrets] at h
        cases h
    | cons secret secrets =>
        by_cases hmethod : req.method ≠ "POST"
        · simp only [earlyAnswer, hsecrets, if_pos hmethod] at h
          cases h
        · rcases hcap : resolveGithubWebhookMaxBytes env with err | maxBytes
          · simp only [earlyAnswer, hsecrets, if_neg hmethod, hcap] at h
            cases h
          · refine ⟨maxBytes, fun outcome =>
              bodyRead outcome >>= answerBody rt env options req (secret :: secrets), ?_,
              bodyRead_once hsecrets⟩
            unfold handleGithubWebhookVerify
            rw [secretsOrAnswer_ok hsecrets]
            show (if req.method ≠ "POST" then _ else _ : Handler Unit) = _
            rw [if_neg hmethod, bodyOrAnswer_ok hcap]
            rfl

/-- A verified delivery is handled as one once its body has been read. -/
theorem handle_of_verified {rawBody : List UInt8} {maxBytes : ℕ} {t : HandlerTrace}
    {q : Handler Unit} (h : Verified rt env options req rawBody)
    (hcap : resolveGithubWebhookMaxBytes env = .ok maxBytes) :
    (handleGithubWebhookVerify rt env options req).After
        (⟨.readBody maxBytes, (.ok rawBody : Except BodyError (List UInt8))⟩ :: t) q ↔
      (handleVerified rt env options req rawBody).After t q := by
  obtain ⟨hmethod, -, secrets, hsecrets, hsigned⟩ := h
  have hsig := (verifyAnyGithubSignature_iff (resolveSecretsForRequest_ne_empty hsecrets)).mpr
    hsigned
  cases secrets with
  | nil =>
      obtain ⟨secret, hmem, -⟩ := hsigned
      cases hmem
  | cons secret secrets =>
      have hprogram : handleGithubWebhookVerify rt env options req = .call (.readBody maxBytes)
          fun outcome => bodyRead outcome >>= answerBody rt env options req (secret :: secrets) := by
        unfold handleGithubWebhookVerify
        rw [secretsOrAnswer_ok hsecrets]
        show (if req.method ≠ "POST" then _ else _ : Handler Unit) = _
        rw [if_neg (not_not.mpr hmethod), bodyOrAnswer_ok hcap]
        rfl
      have hbody : (bodyRead (.ok rawBody) >>= answerBody rt env options req (secret :: secrets)) =
          handleVerified rt env options req rawBody := by
        show (if verifyAnyGithubSignature rt (secret :: secrets) rawBody
          (req.header "x-hub-signature-256") then _ else _ : Handler Unit) = _
        rw [if_pos hsig]
      rw [hprogram, Prog.after_call, ← hbody]
      constructor
      · rintro (⟨heq, -⟩ | ⟨r, t', heq, hafter⟩)
        · cases heq
        · cases heq
          exact hafter
      · intro hafter
        exact .inr ⟨_, t, rfl, hafter⟩

end Answers

end Throwing

/-! ### What a run shows of the answer -/

/-- The responses that have been ended. -/
def answers (t : HandlerTrace) : List Answer :=
  t.filterMap fun e =>
    match e.call with
    | .effect (.respond statusCode headers body) => some ⟨statusCode, headers, body⟩
    | _ => none

/-- The outcome of the read of the body. -/
def BodyOutcome (t : HandlerTrace) (outcome : Except BodyError (List UInt8)) : Prop :=
  ∃ maxBytes, (⟨.readBody maxBytes, outcome⟩ : Event handlerInterface) ∈ t

/-- The body has not been read and is not being read. -/
structure BodyUnread (t : HandlerTrace) (q : Handler Unit) : Prop where
  before : ∀ outcome, ¬ BodyOutcome t outcome
  now : ∀ maxBytes k, q ≠ .call (.readBody maxBytes) k

/-- A run that has made the calls of `t` and has `q` left to do: it has not failed, it
has answered at most once, and it has answered when it is over and before the hook
is called. -/
structure AnswersOnce (answer : Answer) (t : HandlerTrace) (q : Handler Unit) : Prop where
  not_thrown : ∀ e, q ≠ .throw e
  not_diverged : q ≠ .diverge
  once : answers t = [] ∨ answers t = [answer]
  returned : ∀ a, q = .ret a → answers t = [answer]
  fetching : ∀ request k, q = .call (.effect (.fetch request)) k → answers t = [answer]
  fetched : ∀ before request outcome after,
    t = before ++ ⟨.effect (.fetch request), outcome⟩ :: after → answers before = [answer]

section Runs

variable {answer : Answer} {t t' : HandlerTrace} {q q' : Handler Unit}

/-- Before the answer nothing is answered. -/
theorem answers_of_quiet (h : ∀ e ∈ t, Quiet e.call) : answers t = [] := by
  apply List.filterMap_eq_nil_iff.mpr
  rintro ⟨c, r⟩ he
  have hquiet : Quiet c := h _ he
  rcases c with e | maxBytes | key | key | key
  · cases e with
    | respond statusCode headers body => exact hquiet.elim
    | consoleError | log | destroyOnFinish | fetch => rfl
  · exact hquiet.elim
  · rfl
  · rfl
  · exact hquiet.elim

/-- Nor is anything behind it. -/
theorem answers_of_late (h : ∀ e ∈ t, Late e.call) : answers t = [] := by
  apply List.filterMap_eq_nil_iff.mpr
  rintro ⟨c, r⟩ he
  have hlate : Late c := h _ he
  rcases c with e | maxBytes | key | key | key
  · cases e with
    | respond statusCode headers body => exact hlate.elim
    | consoleError | log | destroyOnFinish | fetch => rfl
  · rfl
  · rfl
  · rfl
  · rfl

section OnceAnswered

variable {p : Handler Unit}

/-- Either the answer is still to come, or it has been given. -/
theorem answers_of_once (hp : p.Once (HandlerCall.effect answer.effect) Quiet Late)
    (h : p.After t q) :
    (answers t = [] ∧ q.Once (HandlerCall.effect answer.effect) Quiet Late) ∨
      (answers t = [answer] ∧ q.Returns) := by
  rcases hp.after h with ⟨hquiet, hq⟩ | ⟨before, r, after, rfl, hbefore, hafter, -, hreturns⟩
  · exact .inl ⟨answers_of_quiet hquiet, hq⟩
  · refine .inr ⟨?_, hreturns⟩
    show (before ++ ⟨.effect answer.effect, r⟩ :: after).filterMap _ = _
    rw [List.filterMap_append, List.filterMap_cons]
    show answers before ++ answer :: answers after = [answer]
    rw [answers_of_quiet hbefore, answers_of_late hafter]
    rfl

/-- The hook is called after the answer. -/
theorem answers_before_fetch {request : HttpRequest} {k : FetchOutcome → Handler Unit}
    (hp : p.Once (HandlerCall.effect answer.effect) Quiet Late)
    (h : p.After t (.call (.effect (.fetch request)) k)) : answers t = [answer] := by
  rcases answers_of_once hp h with ⟨-, ⟨heq, -⟩ | ⟨hquiet, -⟩⟩ | ⟨hanswers, -⟩
  · cases heq
  · exact hquiet.elim
  · exact hanswers

/-- A program with one place for the answer answers once. -/
theorem answersOnce_of_once (hp : p.Once (HandlerCall.effect answer.effect) Quiet Late)
    (h : p.After t q) : AnswersOnce answer t q where
  not_thrown := by
    rintro e rfl
    rcases answers_of_once hp h with ⟨-, hq⟩ | ⟨-, hq⟩
    · exact hq
    · exact hq
  not_diverged := by
    rintro rfl
    rcases answers_of_once hp h with ⟨-, hq⟩ | ⟨-, hq⟩
    · exact hq
    · exact hq
  once := (answers_of_once hp h).imp And.left And.left
  returned := by
    rintro a rfl
    rcases answers_of_once hp h with ⟨-, hq⟩ | ⟨hanswers, -⟩
    · exact hq.elim
    · exact hanswers
  fetching := by
    rintro request k rfl
    exact answers_before_fetch hp h
  fetched := by
    rintro before request outcome after rfl
    obtain ⟨k, hbefore, -⟩ := h.split
    exact answers_before_fetch hp hbefore

/-- A program that answers once reads no body. -/
theorem bodyUnread_of_once (hp : p.Once (HandlerCall.effect answer.effect) Quiet Late)
    (h : p.After t q) : BodyUnread t q where
  before := by
    rintro outcome ⟨maxBytes, hmem⟩
    rcases hp.after h with ⟨hquiet, -⟩ | ⟨before, r, after, rfl, hbefore, hafter, -, -⟩
    · exact hquiet _ hmem
    · rcases List.mem_append.mp hmem with hmem | hmem
      · exact hbefore _ hmem
      · rcases List.mem_cons.mp hmem with heq | hmem
        · cases heq
        · exact hafter _ hmem
  now := by
    rintro maxBytes k rfl
    rcases hp.after h with ⟨-, ⟨heq, -⟩ | ⟨hquiet, -⟩⟩ | ⟨before, r, after, -, -, -, honly, -⟩
    · cases heq
    · exact hquiet
    · exact honly.1

end OnceAnswered

section Read

variable {rt : Runtime} {env : Env} {options : HandlerOptions} {req : Request}

/-- A run that reads the body stands at the read, or has made it first of all. -/
theorem run_of_late (hearly : earlyAnswer rt env options.secret req = none)
    (h : (Throwing.handleGithubWebhookVerify rt env options req).After t q) :
    (t = [] ∧ ∃ maxBytes k, q = .call (.readBody maxBytes) k) ∨
      ∃ maxBytes outcome rest, t = ⟨.readBody maxBytes, outcome⟩ :: rest ∧
        AnswersOnce (bodyAnswer rt env options.secret req outcome) rest q ∧
        BodyUnread rest q := by
  obtain ⟨maxBytes, k, hprogram, hk⟩ := Throwing.handle_late hearly
  rw [hprogram] at h
  rcases h with ⟨rfl, rfl⟩ | ⟨outcome, rest, rfl, h⟩
  · exact .inl ⟨rfl, maxBytes, k, rfl⟩
  · exact .inr ⟨maxBytes, outcome, rest, rfl, answersOnce_of_once (hk outcome) h,
      bodyUnread_of_once (hk outcome) h⟩

/-- The body is read once. -/
theorem bodyOutcome_unique (hearly : earlyAnswer rt env options.secret req = none)
    (h : (Throwing.handleGithubWebhookVerify rt env options req).After t q)
    {outcome outcome' : Except BodyError (List UInt8)} (ho : BodyOutcome t outcome)
    (ho' : BodyOutcome t outcome') : outcome = outcome' := by
  have hone : ∀ {outcome}, BodyOutcome t outcome → ∃ maxBytes rest,
      t = ⟨.readBody maxBytes, outcome⟩ :: rest := by
    rintro outcome ⟨maxBytes, hmem⟩
    rcases run_of_late hearly h with ⟨rfl, -⟩ | ⟨maxBytes', outcome', rest, rfl, -, hunread⟩
    · cases hmem
    · rcases List.mem_cons.mp hmem with heq | hmem
      · cases heq
        exact ⟨maxBytes, rest, rfl⟩
      · exact absurd ⟨maxBytes, hmem⟩ (hunread.before outcome)
  obtain ⟨maxBytes, rest, rfl⟩ := hone ho
  obtain ⟨maxBytes', rest', heq⟩ := hone ho'
  cases heq
  rfl

/-- A run that reads the body answers by the outcome of the read. -/
theorem answersOnce_of_late (hearly : earlyAnswer rt env options.secret req = none)
    (h : (Throwing.handleGithubWebhookVerify rt env options req).After t q)
    (hanswer : ∀ outcome, BodyOutcome t outcome →
      answer = bodyAnswer rt env options.secret req outcome) :
    AnswersOnce answer t q := by
  rcases run_of_late hearly h with ⟨rfl, maxBytes, k, rfl⟩ |
    ⟨maxBytes, outcome, rest, rfl, honce, -⟩
  · refine ⟨by simp, by simp, .inl rfl, by simp, ?_, ?_⟩
    · rintro request k' ⟨⟩
    · rintro before request outcome after heq
      simp at heq
  · obtain rfl := hanswer outcome ⟨maxBytes, by simp⟩
    refine ⟨honce.not_thrown, honce.not_diverged, honce.once, honce.returned, honce.fetching, ?_⟩
    rintro before request outcome' after heq
    cases before with
    | nil => cases heq
    | cons e before =>
        obtain ⟨rfl, rfl⟩ := List.cons.inj heq
        exact honce.fetched before request outcome' after rfl

end Read

end Runs

/-! ### Two runs -/

/-- **The answer is independent of the dispatch.**  Two runs of the handler for one
request, at any moment, that agree on the secrets and the cap and on the outcome of
the read, give the same answer, once each: nothing is thrown, and the hook is called
after the answer.  The answer is the one of the fixed precedence, and where it does
not need the body, the body is not read. -/
theorem handleGithubWebhookVerify_answers {rt : Runtime} {env env' : Env}
    {options options' : HandlerOptions} {req : Request} {t t' : HandlerTrace}
    {q q' : Handler Unit} (hsecret : options.secret = options'.secret)
    (hconfig : ∀ name ∈ ANSWER_VARIABLES, env name = env' name)
    (h : (Throwing.handleGithubWebhookVerify rt env options req).After t q)
    (h' : (Throwing.handleGithubWebhookVerify rt env' options' req).After t' q')
    (hbody : ∀ outcome outcome', BodyOutcome t outcome → BodyOutcome t' outcome' →
      outcome = outcome') :
    ∃ answer, AnswersOnce answer t q ∧ AnswersOnce answer t' q' ∧
      (∀ early, earlyAnswer rt env options.secret req = some early →
        answer = early ∧ BodyUnread t q ∧ BodyUnread t' q') ∧
      (∀ outcome, BodyOutcome t outcome ∨ BodyOutcome t' outcome →
        answer = answerTo rt env options.secret req outcome) := by
  have hearly' : earlyAnswer rt env' options'.secret req =
      earlyAnswer rt env options.secret req := by
    rw [← hsecret, earlyAnswer_congr hconfig]
  rcases hearly : earlyAnswer rt env options.secret req with - | early
  · -- the answer waits for the body
    rw [hearly] at hearly'
    have hsame : bodyAnswer rt env' options'.secret req = bodyAnswer rt env options.secret req := by
      rw [← hsecret, bodyAnswer_congr hconfig]
    have hgetD : ∀ outcome, answerTo rt env options.secret req outcome =
        bodyAnswer rt env options.secret req outcome := by
      intro outcome
      rw [answerTo, hearly]
      rfl
    obtain ⟨answer, hanswer⟩ : ∃ answer, ∀ outcome, BodyOutcome t outcome ∨ BodyOutcome t' outcome →
        answer = bodyAnswer rt env options.secret req outcome := by
      by_cases hread : ∃ outcome, BodyOutcome t outcome ∨ BodyOutcome t' outcome
      · obtain ⟨outcome, hread⟩ := hread
        refine ⟨bodyAnswer rt env options.secret req outcome, fun outcome' hread' => ?_⟩
        have heq : outcome = outcome' := by
          rcases hread with hread | hread <;> rcases hread' with hread' | hread'
          · exact bodyOutcome_unique hearly h hread hread'
          · exact hbody _ _ hread hread'
          · exact (hbody _ _ hread' hread).symm
          · exact bodyOutcome_unique hearly' h' hread hread'
        rw [heq]
      · exact ⟨⟨0, [], ""⟩, fun outcome hr => absurd ⟨outcome, hr⟩ hread⟩
    refine ⟨answer, answersOnce_of_late hearly h fun outcome ho => hanswer outcome (.inl ho),
      answersOnce_of_late hearly' h' fun outcome ho => ?_, ?_, ?_⟩
    · rw [hsame]
      exact hanswer outcome (.inr ho)
    · rintro early ⟨⟩
    · intro outcome ho
      rw [hgetD]
      exact hanswer outcome ho
  · -- the answer is decided before the body
    rw [hearly] at hearly'
    have honce := Throwing.handle_early hearly
    have honce' := Throwing.handle_early hearly'
    refine ⟨early, answersOnce_of_once honce h, answersOnce_of_once honce' h', ?_, ?_⟩
    · rintro early' ⟨⟩
      exact ⟨rfl, bodyUnread_of_once honce h, bodyUnread_of_once honce' h'⟩
    · rintro outcome (ho | ho)
      · exact absurd ho ((bodyUnread_of_once honce h).before outcome)
      · exact absurd ho ((bodyUnread_of_once honce' h').before outcome)

/-- The same deployment with an allowlist that is not JSON, and another hook. -/
def misconfiguredEnv : Env := fun name =>
  if name = "GITHUB_WEBHOOK_SECRET" then some "s3cret"
  else if name = "GITHUB_DISPATCH_ALLOWLIST" then some "["
  else if name = "OPENCLAW_AGENT_HOOK_URL" then some "http://127.0.0.1:18789/hooks/other"
  else none

/-- The sample delivery as a duplicate. -/
def duplicateTrace : HandlerTrace :=
  [⟨.readBody DEFAULT_MAX_BYTES, (.ok sampleBody : Except BodyError (List UInt8))⟩,
    ⟨.has "o/r#7@abc", true⟩,
    ⟨.effect (.log (sampleRequest.acceptedLine sampleRuntime sampleBody .duplicate)), ()⟩,
    ⟨.effect (.respond 200 [] "ok"), ()⟩]

/-- The sample delivery under a malformed allowlist. -/
def misconfiguredTrace : HandlerTrace :=
  [⟨.readBody DEFAULT_MAX_BYTES, (.ok sampleBody : Except BodyError (List UInt8))⟩,
    ⟨.has "o/r#7@abc", false⟩,
    ⟨.effect (.consoleError ("[github-webhook-verify] config error: " ++
      "GITHUB_DISPATCH_ALLOWLIST is misconfigured (GITHUB_DISPATCH_ALLOWLIST_CONFIG_ERROR)")), ()⟩,
    ⟨.effect (.log (sampleRequest.acceptedLine sampleRuntime sampleBody .configError)), ()⟩,
    ⟨.effect (.respond 200 [] "ok"), ()⟩]

theorem samplePayload_key :
    computeDedupKey "pull_request" (.json samplePayload) = some "o/r#7@abc" := by
  decide

theorem misconfigured_verified :
    Verified sampleRuntime misconfiguredEnv sampleOptions sampleRequest sampleBody where
  method := sampleRequest_verified.method
  body := sampleRequest_verified.body
  signature := sampleRequest_verified.signature

theorem duplicateTrace_run : (Throwing.handleGithubWebhookVerify sampleRuntime sampleEnv
    sampleOptions sampleRequest).After duplicateTrace (.ret ()) := by
  refine (Throwing.handle_of_verified sampleRequest_verified rfl).mpr ?_
  rw [Throwing.handleVerified_eq, payloadOf_eq_json.mpr samplePayload_parses]
  have hplan : Throwing.planDispatch sampleRuntime sampleEnv (sampleRequest.header "x-github-event")
      (.json samplePayload) = _ := Throwing.planDispatch_of_key samplePayload_key
  rw [hplan]
  exact .inr ⟨true, _, rfl, .inr ⟨(), _, rfl, .inr ⟨(), _, rfl, rfl, rfl⟩⟩⟩

theorem misconfiguredTrace_run : (Throwing.handleGithubWebhookVerify sampleRuntime misconfiguredEnv
    sampleOptions sampleRequest).After misconfiguredTrace (.ret ()) := by
  refine (Throwing.handle_of_verified misconfigured_verified rfl).mpr ?_
  rw [Throwing.handleVerified_eq, payloadOf_eq_json.mpr samplePayload_parses]
  have hplan : Throwing.planDispatch sampleRuntime misconfiguredEnv
      (sampleRequest.header "x-github-event") (.json samplePayload) = _ :=
    Throwing.planDispatch_of_key samplePayload_key
  rw [hplan]
  exact .inr ⟨false, _, rfl, .inr ⟨(), _, rfl, .inr ⟨(), _, rfl, .inr ⟨(), _, rfl, rfl, rfl⟩⟩⟩⟩

/-- A duplicate, and a delivery under a malformed allowlist with another hook, are
answered alike. -/
theorem sampleRequest_answered :
    ∃ answer, AnswersOnce answer duplicateTrace (.ret ()) ∧
      AnswersOnce answer misconfiguredTrace (.ret ()) := by
  have hconfig : ∀ name ∈ ANSWER_VARIABLES, sampleEnv name = misconfiguredEnv name := by
    intro name hname
    fin_cases hname <;> rfl
  have hread : ∀ {outcome}, BodyOutcome duplicateTrace outcome → outcome = .ok sampleBody := by
    rintro outcome ⟨maxBytes, hmem⟩
    rcases List.mem_cons.mp hmem with heq | hmem
    · cases heq
      rfl
    · simp at hmem
  have hread' : ∀ {outcome}, BodyOutcome misconfiguredTrace outcome → outcome = .ok sampleBody := by
    rintro outcome ⟨maxBytes, hmem⟩
    rcases List.mem_cons.mp hmem with heq | hmem
    · cases heq
      rfl
    · simp at hmem
  obtain ⟨answer, hone, htwo, -⟩ := handleGithubWebhookVerify_answers rfl hconfig
    duplicateTrace_run misconfiguredTrace_run
    fun outcome outcome' ho ho' => (hread ho).trans (hread' ho').symm
  exact ⟨answer, hone, htwo⟩

/-! ### The same effects as the runs -/

/-- The effects of a run, in order. -/
def effectsOf (t : HandlerTrace) : List Effect :=
  t.filterMap fun e =>
    match e.call with
    | .effect e => some e
    | _ => none

/-- A dedup store that is a set, and the body of one request. -/
def requestEnv (req : Request) : Lts (Finset String) (Event handlerInterface) where
  step s e s' :=
    match e with
    | ⟨.readBody maxBytes, outcome⟩ =>
      readRawBody maxBytes req.readableEnded req.stream = some outcome ∧ s' = s
    | ⟨.has key, seen⟩ => seen = decide (key ∈ s) ∧ s' = s
    | ⟨.add key, _⟩ => s' = insert key s
    | ⟨.delete key, _⟩ => s' = s.erase key
    | ⟨.effect _, _⟩ => s' = s

section Effects

variable {rt : Runtime} {env : Env} {options : HandlerOptions} {req : Request}
variable {t : HandlerTrace} {S S' : Finset String}

@[simp] theorem effectsOf_nil : effectsOf [] = [] := rfl

@[simp] theorem effectsOf_cons_effect (e : Effect) (r : HandlerCall.Reply (.effect e))
    (t : HandlerTrace) : effectsOf (⟨.effect e, r⟩ :: t) = e :: effectsOf t := rfl

@[simp] theorem effectsOf_cons_readBody (maxBytes : ℕ) (r : Except BodyError (List UInt8))
    (t : HandlerTrace) : effectsOf (⟨.readBody maxBytes, r⟩ :: t) = effectsOf t := rfl

@[simp] theorem effectsOf_cons_has (key : String) (r : Bool) (t : HandlerTrace) :
    effectsOf (⟨.has key, r⟩ :: t) = effectsOf t := rfl

@[simp] theorem effectsOf_cons_add (key : String) (t : HandlerTrace) :
    effectsOf (⟨.add key, ()⟩ :: t) = effectsOf t := rfl

@[simp] theorem effectsOf_cons_delete (key : String) (t : HandlerTrace) :
    effectsOf (⟨.delete key, ()⟩ :: t) = effectsOf t := rfl

@[simp] theorem effectsOf_append (t t' : HandlerTrace) :
    effectsOf (t ++ t') = effectsOf t ++ effectsOf t' :=
  List.filterMap_append

/-- The decision for a fresh key, as a program and as a function. -/
theorem planFresh_run {name dedupKey : String} {payload : Value} {dispatch : Dispatch}
    (hkey : computeDedupKey name payload = some dedupKey) (hfresh : dedupKey ∉ S)
    (h : (Throwing.planFresh rt env name payload dedupKey).Exec t (.returned dispatch))
    (hr : (requestEnv req).Run S t S') :
    planDispatch rt env (.json (.str name)) payload S = ⟨dispatch, S', effectsOf t⟩ := by
  simp only [planDispatch, Value.asString, hkey, if_neg hfresh]
  obtain ⟨found, t₁, t₂, rfl, hconsult, hfound⟩ := Prog.exec_bind_returned.mp h
  obtain ⟨m, hr₁, hr₂⟩ := Lts.run_append.mp hr
  unfold Throwing.consultAllowlist at hconsult
  rw [Throwing.resolveDispatchAllowlist_eq] at hconsult
  rcases hresolve : resolveDispatchAllowlist rt env with err | allowlist
  · rw [hresolve] at hconsult
    obtain ⟨r, t', rfl, rfl, ho⟩ := hconsult
    cases ho
    obtain ⟨rfl, ho⟩ := hfound
    cases ho
    obtain ⟨m', rfl, hnil⟩ := Lts.run_cons.mp hr₁
    rw [Lts.run_nil.mp hr₂, Lts.run_nil.mp hnil]
    rfl
  · rw [hresolve] at hconsult
    obtain ⟨rfl, ho⟩ := hconsult
    cases ho
    obtain rfl := Lts.run_nil.mp hr₁
    dsimp only at hfound ⊢
    rw [Throwing.matchesDispatchAllowlist_eq] at hfound
    by_cases hmatch : matchesDispatchAllowlist rt allowlist name (payload.chain "action")
        (repoFullName payload) (actorLoginFor name payload)
        (if name = "issue_comment" then (payload.chain "comment").chain "body"
          else .undefined) = true
    · rw [if_pos hmatch]
      rw [hmatch] at hfound
      obtain ⟨r, t', rfl, rfl, ho⟩ := hfound
      cases ho
      obtain ⟨m', rfl, hnil⟩ := Lts.run_cons.mp hr₂
      rw [Lts.run_nil.mp hnil]
      rfl
    · rw [if_neg hmatch]
      rw [Bool.not_eq_true] at hmatch
      rw [hmatch] at hfound
      obtain ⟨rfl, ho⟩ := hfound
      cases ho
      rw [Lts.run_nil.mp hr₂]
      rfl

/-- The decision as a program and as a function. -/
theorem planDispatch_run {event payload : Value} {dispatch : Dispatch}
    (h : (Throwing.planDispatch rt env event payload).Exec t (.returned dispatch))
    (hr : (requestEnv req).Run S t S') :
    planDispatch rt env event payload S = ⟨dispatch, S', effectsOf t⟩ := by
  rcases hkey : deliveryKey event payload with - | dedupKey
  · rw [Throwing.planDispatch_of_no_key hkey] at h
    rw [planDispatch_of_no_key hkey]
    obtain ⟨rfl, ho⟩ := h
    cases ho
    rw [Lts.run_nil.mp hr]
    rfl
  · obtain ⟨name, rfl, hname⟩ := deliveryKey_eq_some_iff.mp hkey
    rw [Throwing.planDispatch_of_key hname] at h
    obtain ⟨seen, t', rfl, hseen⟩ := h
    obtain ⟨m, ⟨hreply, rfl⟩, hrest⟩ := Lts.run_cons.mp hr
    by_cases hmem : dedupKey ∈ m
    · obtain rfl : seen = true := by simpa [hmem] using hreply
      rw [planDispatch_of_mem hkey hmem]
      obtain ⟨rfl, ho⟩ := hseen
      cases ho
      rw [Lts.run_nil.mp hrest]
      rfl
    · obtain rfl : seen = false := by simpa [hmem] using hreply
      have hdecision := planFresh_run hname hmem hseen hrest
      exact hdecision

/-- A run of the forward, with what it logs. -/
theorem forwardToAgentHook_run {options : ForwardOptions} {dispatchKey event : String}
    {payload : Value} {forwarded : Bool}
    (h : (Throwing.forwardToAgentHook env options dispatchKey event payload).Exec t
      (.returned forwarded))
    (hr : (requestEnv req).Run S t S') :
    ∃ outcome : FetchOutcome,
      effectsOf t = .fetch (agentHookRequest env options dispatchKey event payload) ::
        forwardFailure env options outcome ∧
      forwarded = outcome.forwarded ∧ S' = S := by
  obtain ⟨outcome, t', rfl, h⟩ := h
  obtain ⟨m, hstep, hrest⟩ := Lts.run_cons.mp hr
  obtain rfl : m = S := hstep
  rcases outcome with ⟨ok, status⟩ | _ | message
  · cases ok with
    | true =>
        obtain ⟨rfl, ho⟩ := h
        cases ho
        exact ⟨.response true status, rfl, rfl, Lts.run_nil.mp hrest⟩
    | false =>
        obtain ⟨r, t'', rfl, rfl, ho⟩ := h
        cases ho
        obtain ⟨m', rfl, hnil⟩ := Lts.run_cons.mp hrest
        exact ⟨.response false status, rfl, rfl, Lts.run_nil.mp hnil⟩
  · obtain ⟨r, t'', rfl, rfl, ho⟩ := h
    cases ho
    obtain ⟨m', rfl, hnil⟩ := Lts.run_cons.mp hrest
    exact ⟨.noResponse, rfl, rfl, Lts.run_nil.mp hnil⟩
  · -- the line is written by the `catch`
    obtain ⟨r, t'', rfl, rfl, ho⟩ := h
    cases ho
    obtain ⟨m', rfl, hnil⟩ := Lts.run_cons.mp hrest
    exact ⟨.rejected message, rfl, rfl, Lts.run_nil.mp hnil⟩

/-- What a completed run of the handler has done, beside the run of the function. -/
def Completes (env : Env) (options : HandlerOptions) (t : HandlerTrace) (S' : Finset String)
    (run : HandlerRun) : Prop :=
  (run.awaiting = none ∧ effectsOf t = run.effects ∧ S' = run.dedupStore) ∨
    ∃ (forward : Forward) (outcome : FetchOutcome), run.awaiting = some forward ∧
      effectsOf t = run.effects ++ forwardFailure env options.forward outcome ∧
      S' = completeForward run.dedupStore forward.dispatchKey outcome

/-- The end of the handler does what completing the forward does. -/
theorem forwardDecision_run {dispatch : Dispatch} {event parsedPayload deliveryId : Value}
    (h : (Throwing.forwardDecision env options dispatch event parsedPayload deliveryId).Exec t
      (.returned ()))
    (hr : (requestEnv req).Run S t S') :
    (∀ key name, dispatch = .forwarded key → event.asString = some name →
      ∃ outcome : FetchOutcome,
        effectsOf t = .fetch (agentHookRequest env options.forward key name
          (.json (withDeliveryId parsedPayload deliveryId))) ::
            forwardFailure env options.forward outcome ∧
        S' = completeForward S key outcome) ∧
      ((∀ key name, dispatch = .forwarded key → event.asString ≠ some name) →
        effectsOf t = [] ∧ S' = S) := by
  unfold Throwing.forwardDecision at h
  split at h
  · next dispatchKey name hname =>
    refine ⟨?_, fun hnone => absurd hname (hnone dispatchKey name rfl)⟩
    rintro key name' ⟨⟩ hname'
    obtain rfl : name = name' := Option.some.inj (hname.symm.trans hname')
    obtain ⟨forwarded, t₁, t₂, rfl, hforward, h⟩ := Prog.exec_bind_returned.mp h
    obtain ⟨m, hr₁, hr₂⟩ := Lts.run_append.mp hr
    obtain ⟨outcome, heffects, rfl, rfl⟩ := forwardToAgentHook_run hforward hr₁
    refine ⟨outcome, ?_, ?_⟩
    · have hlast : effectsOf t₂ = [] := by
        rcases hforwarded : outcome.forwarded with - | -
        · rw [hforwarded] at h
          obtain ⟨r, t', rfl, rfl, -⟩ := h
          rfl
        · rw [hforwarded] at h
          rw [h.1]
          rfl
      rw [effectsOf_append, heffects, hlast, List.append_nil]
    · unfold completeForward
      rcases hforwarded : outcome.forwarded with - | -
      · rw [hforwarded] at h
        obtain ⟨r, t', rfl, rfl, -⟩ := h
        obtain ⟨m', rfl, hnil⟩ := Lts.run_cons.mp hr₂
        exact Lts.run_nil.mp hnil
      · rw [hforwarded] at h
        rw [h.1] at hr₂
        exact Lts.run_nil.mp hr₂
  · next hother =>
    obtain ⟨rfl, -⟩ := h
    refine ⟨fun key name hd hname => ?_, fun _ => ⟨rfl, Lts.run_nil.mp hr⟩⟩
    exact absurd hname (hother key name hd)

/-- A run behind the signature completes as planned. -/
theorem handleVerified_run {rawBody : List UInt8}
    (h : (Throwing.handleVerified rt env options req rawBody).Exec t (.returned ()))
    (hr : (requestEnv req).Run S t S') :
    Completes env options t S' (handleVerified rt env options S req rawBody) := by
  rw [Throwing.handleVerified_eq] at h
  obtain ⟨dispatch, t₁, t₂, rfl, hplan, htail⟩ := Prog.exec_bind_returned.mp h
  obtain ⟨m, hr₁, hr₂⟩ := Lts.run_append.mp hr
  have hdecision := planDispatch_run hplan hr₁
  obtain ⟨u, t₃, rfl, u', t₄, rfl, hend⟩ := htail
  obtain ⟨m₁, hlog, m₂, hrespond, hr₄⟩ := hr₂
  obtain rfl : m₁ = m := hlog
  obtain rfl : m₂ = m₁ := hrespond
  obtain ⟨hforward, hstay⟩ := forwardDecision_run hend hr₄
  have heffects : effectsOf (t₁ ++ ⟨.effect (.log (req.acceptedLine rt rawBody dispatch)), u⟩ ::
      ⟨.effect (.respond 200 [] "ok"), u'⟩ :: t₄) =
      effectsOf t₁ ++ [.log (req.acceptedLine rt rawBody dispatch), .respond 200 [] "ok"] ++
        effectsOf t₄ := by
    rw [effectsOf_append, List.append_assoc]
    rfl
  simp only [payloadOf] at hdecision
  simp only [Completes, heffects, handleVerified, hdecision]
  rcases hname : (req.header "x-github-event").asString with - | name
  · have hnone : ∀ key name, dispatch = .forwarded key →
        (req.header "x-github-event").asString ≠ some name := by
      rintro key name - heq
      rw [hname] at heq
      cases heq
    obtain ⟨hnothing, rfl⟩ := hstay hnone
    rw [hnothing, List.append_nil]
    cases dispatch <;> exact .inl ⟨rfl, rfl, rfl⟩
  · cases dispatch with
    | forwarded key =>
        obtain ⟨outcome, hrest, rfl⟩ := hforward key name rfl hname
        rw [hrest]
        refine .inr ⟨_, outcome, rfl, ?_, rfl⟩
        simp only [List.append_assoc]
        rfl
    | notEnrolled | duplicate | configError | noMatch =>
        obtain ⟨hnothing, rfl⟩ := hstay (by rintro key name ⟨⟩)
        rw [hnothing, List.append_nil]
        exact .inl ⟨rfl, rfl, rfl⟩

/-- **The program does what the function computes.**  A run of the handler that is
over, on a store that is a set, has the effects and leaves the store of the run in
Dispatch.lean, completed by the outcome of its forward. -/
theorem handleGithubWebhookVerify_effects
    (h : (Throwing.handleGithubWebhookVerify rt env options req).Exec t (.returned ()))
    (hr : (requestEnv req).Run S t S') :
    Completes env options t S' (handleGithubWebhookVerify rt env options S req) := by
  unfold Throwing.handleGithubWebhookVerify at h
  unfold handleGithubWebhookVerify
  rcases hsecrets : resolveSecretsForRequest rt env options.secret with err | secrets
  · rw [Throwing.secretsOrAnswer_error hsecrets] at h
    obtain ⟨u, t', rfl, u', t'', rfl, rfl, -⟩ := h
    obtain ⟨m, rfl, m', rfl, hnil⟩ := hr
    exact .inl ⟨rfl, rfl, hnil⟩
  · rw [Throwing.secretsOrAnswer_ok hsecrets] at h
    cases secrets with
    | nil =>
        obtain ⟨u, t', rfl, rfl, -⟩ := h
        obtain ⟨m, rfl, hnil⟩ := hr
        exact .inl ⟨rfl, rfl, hnil⟩
    | cons secret secrets =>
        change (if req.method ≠ "POST" then _ else _ : Handler Unit).Exec _ _ at h
        by_cases hmethod : req.method ≠ "POST"
        · rw [if_pos hmethod] at h
          simp only [if_pos hmethod]
          obtain ⟨u, t', rfl, rfl, -⟩ := h
          obtain ⟨m, rfl, hnil⟩ := hr
          exact .inl ⟨rfl, rfl, hnil⟩
        · rw [if_neg hmethod] at h
          simp only [if_neg hmethod]
          rcases hcap : resolveGithubWebhookMaxBytes env with err | maxBytes
          · rw [Throwing.bodyOrAnswer_error hcap] at h
            obtain ⟨u, t', rfl, u', t'', rfl, rfl, -⟩ := h
            obtain ⟨m, rfl, m', rfl, hnil⟩ := hr
            exact .inl ⟨rfl, rfl, hnil⟩
          · rw [Throwing.bodyOrAnswer_ok hcap] at h
            obtain ⟨outcome, t', rfl, hread⟩ := h
            obtain ⟨m, ⟨hbody, rfl⟩, hrest⟩ := Lts.run_cons.mp hr
            simp only [hbody]
            cases (outcome : Except BodyError (List UInt8)) with
            | error e =>
                obtain ⟨u, t', rfl, u', t'', rfl, rfl, -⟩ := hread
                obtain ⟨m', rfl, m'', rfl, hnil⟩ := hrest
                exact .inl ⟨rfl, rfl, hnil⟩
            | ok rawBody =>
                change (if verifyAnyGithubSignature rt (secret :: secrets) rawBody
                  (req.header "x-hub-signature-256") then _ else _ : Handler Unit).Exec _ _ at hread
                by_cases hsig : verifyAnyGithubSignature rt (secret :: secrets) rawBody
                  (req.header "x-hub-signature-256") = true
                · rw [if_pos hsig] at hread
                  simp only [if_pos hsig]
                  have hcompletes := handleVerified_run hread hrest
                  exact hcompletes
                · rw [if_neg hsig] at hread
                  simp only [if_neg hsig]
                  obtain ⟨u, t', rfl, u', t'', rfl, rfl, -⟩ := hread
                  obtain ⟨m', rfl, m'', rfl, hnil⟩ := hrest
                  exact .inl ⟨rfl, rfl, hnil⟩

end Effects

end Webhook
