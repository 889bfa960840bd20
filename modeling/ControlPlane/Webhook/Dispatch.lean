/-
ControlPlane/Webhook/Dispatch.lean

The request handler (`handleGithubWebhookVerify`) and what it dispatches.

A run of the handler for one request is a `HandlerRun`: the effects in order
(lines logged, the response, the call made to the agent hook), the dedup store
afterwards, and the forward whose completion is still awaited.  Everything up to
and including the start of that call happens without giving up control after
the body is read, which is why one step of the process (Interleaving.lean) is
one `HandlerRun`.

* `planDispatch` decides; it marks the dedup key before any call is made;
* `agentHookRequest` is the request `forwardToAgentHook` sends;
* `completeForward` is what happens once that call has an outcome: a failed
  forward releases its key.
-/
import ControlPlane.Webhook.Body
import ControlPlane.Webhook.Allowlist
import Mathlib.Data.Finset.Basic

namespace Webhook

open Js

/-- The route the deliveries arrive at. -/
def ROUTE : String := "/hooks/github-webhook-verify"

/-! ### What a payload says -/

/-- The login the trust gate binds to: the author of the comment, or else the
sender. -/
def actorLoginFor (event : String) (payload : Value) : Value :=
  if event = "issue_comment" then ((payload.chain "comment").chain "user").chain "login"
  else (payload.chain "sender").chain "login"

/-- The number of the issue or pull request the event is about. -/
def resourceNumberFor (event : String) (payload : Value) : Option Number :=
  if event = "pull_request" then
    (((payload.chain "pull_request").chain "number").coalesce (payload.chain "number")).asNumber
  else if event = "issue_comment" then ((payload.chain "issue").chain "number").asNumber
  else none

/-- `payload.pull_request?.head?.sha`, when it is a text that says something. -/
def pullRequestHeadSha (payload : Value) : Option String :=
  (((payload.chain "pull_request").chain "head").chain "sha").asString.filter (· ≠ "")

/-- `payload.comment?.id`, when there is one. -/
def issueCommentId (payload : Value) : Option Value :=
  let id := (payload.chain "comment").chain "id"
  if id.asNumber.isSome || id.asString.isSome then some id else none

/-- `payload.repository?.full_name`. -/
def repoFullName (payload : Value) : Value :=
  (payload.chain "repository").chain "full_name"

/-- `owner/repo#N@sha` or `owner/repo#N/comment-id`. -/
def computeDedupKey (event : String) (payload : Value) : Option String :=
  match (repoFullName payload).asString with
  | none => none
  | some repo =>
    if repo = "" then none
    else match resourceNumberFor event payload with
      | none => none
      | some number =>
        if event = "pull_request" then
          (pullRequestHeadSha payload).map fun sha => repo ++ "#" ++ number.text ++ "@" ++ sha
        else if event = "issue_comment" then
          (issueCommentId payload).map fun commentId =>
            repo ++ "#" ++ number.text ++ "/comment-" ++ commentId.display
        else none

/-! ### The call to the agent hook -/

/-- Where the gateway listens when nothing is configured. -/
def DEFAULT_INTERNAL_GATEWAY_HOST : String := "127.0.0.1"

/-- The port it listens at then. -/
def DEFAULT_INTERNAL_GATEWAY_PORT : String := "18789"

/-- The path of the agent hook at the gateway. -/
def AGENT_HOOK_PATH : String := "/hooks/agent"

/-- The variable for another host. -/
def INTERNAL_GATEWAY_HOST_ENV : String := "INTERNAL_GATEWAY_HOST"

/-- The variable for another port. -/
def INTERNAL_GATEWAY_PORT_ENV : String := "INTERNAL_GATEWAY_PORT"

/-- The variable for another hook altogether. -/
def OPENCLAW_AGENT_HOOK_URL_ENV : String := "OPENCLAW_AGENT_HOOK_URL"

/-- The variable with the token of the hook. -/
def OPENCLAW_AGENT_HOOK_TOKEN_ENV : String := "OPENCLAW_AGENT_HOOK_TOKEN"

/-- `env[name] || fallback`. -/
def envOr (env : Env) (name fallback : String) : String :=
  match env name with
  | some value => if value = "" then fallback else value
  | none => fallback

/-- The built-in target, used when no complete URL is configured. -/
def defaultAgentHookUrl (env : Env) : String :=
  "http://" ++ envOr env INTERNAL_GATEWAY_HOST_ENV DEFAULT_INTERNAL_GATEWAY_HOST ++ ":" ++
    envOr env INTERNAL_GATEWAY_PORT_ENV DEFAULT_INTERNAL_GATEWAY_PORT ++ AGENT_HOOK_PATH

/-- The URL a delivery is forwarded to. -/
def resolveAgentHookUrl (env : Env) : String :=
  match env OPENCLAW_AGENT_HOOK_URL_ENV with
  | some explicit => if trim explicit = "" then defaultAgentHookUrl env else explicit
  | none => defaultAgentHookUrl env

/-- The options of the handler that reach the call. -/
structure ForwardOptions where
  hookUrl : Option String
  hookToken : Option String

/-- The URL of the options, or the one of the environment. -/
def ForwardOptions.targetUrl (options : ForwardOptions) (env : Env) : String :=
  options.hookUrl.getD (resolveAgentHookUrl env)

/-- The token of the options, or the one of the environment. -/
def ForwardOptions.token (options : ForwardOptions) (env : Env) : Option String :=
  options.hookToken.orElse fun _ => env OPENCLAW_AGENT_HOOK_TOKEN_ENV

/-- The request of a forward. -/
structure HttpRequest where
  url : String
  method : String
  headers : List (String × String)
  body : String
deriving DecidableEq

/-- The own members of a payload apart from `deliveryId`. -/
def otherMembers : Value → List (String × Json)
  | .json j => j.fields.filter fun field => field.1 != "deliveryId"
  | _ => []

/-- The member `deliveryId` of the body, left out when it is undefined. -/
def deliveryIdMember : Value → List (String × Json)
  | .json d => [("deliveryId", d)]
  | _ => []

/-- `{ ...parsedPayload, deliveryId }`, as far as reads can tell: a delivery id
that is `undefined` still hides a member of that name. -/
def withDeliveryId (parsedPayload deliveryId : Value) : Json :=
  .obj (otherMembers parsedPayload ++ deliveryIdMember deliveryId)

/-- The labelled metadata a forward carries; no field of the comment or of the
pull request beyond these. -/
def triggerOf (event : String) (payload : Value) : Json :=
  objectOf
    [("event", .json (.str event)),
     ("repo", repoFullName payload),
     ("resource", ((resourceNumberFor event payload).elim .undefined fun n => .json (.num n))),
     ("actor", actorLoginFor event payload),
     ("deliveryId", payload.chain "deliveryId")]

/-- The headers of the call; without a token there is no `authorization`. -/
def hookHeaders (token : Option String) : List (String × String) :=
  ("content-type", "application/json") ::
    match token with
    | some hookToken => if hookToken = "" then [] else [("authorization", "Bearer " ++ hookToken)]
    | none => []

/-- The request `forwardToAgentHook` hands to `fetch`. -/
def agentHookRequest (env : Env) (options : ForwardOptions) (dispatchKey event : String)
    (payload : Value) : HttpRequest where
  url := options.targetUrl env
  method := "POST"
  headers := hookHeaders (options.token env)
  body := (objectOf
    [("sessionKey", .json (.str dispatchKey)),
     ("idempotencyKey", payload.chain "deliveryId"),
     ("trigger", .json (triggerOf event payload))]).stringify

/-! ### The decision -/

/-- The bounded outcome of a decision. -/
inductive Dispatch where
  | notEnrolled
  | duplicate
  | configError
  | noMatch
  | forwarded (dispatchKey : String)
deriving DecidableEq

/-- The word logged for a decision. -/
def Dispatch.name : Dispatch → String
  | .notEnrolled => "not-enrolled"
  | .duplicate => "duplicate"
  | .configError => "config-error"
  | .noMatch => "no-match"
  | .forwarded _ => "forwarded"

/-- What a run does to the world. -/
inductive Effect where
  | consoleError (line : String)
  | log (line : String)
  | respond (statusCode : ℕ) (headers : List (String × String)) (body : String)
  | destroyOnFinish
  | fetch (request : HttpRequest)
deriving DecidableEq

/-- A decision with the store it leaves and the lines it logs. -/
structure Decision where
  dispatch : Dispatch
  dedupStore : Finset String
  effects : List Effect

/-- What is to be done with an authentic delivery. -/
def planDispatch (rt : Runtime) (env : Env) (event payload : Value)
    (dedupStore : Finset String) : Decision :=
  match event.asString with
  | none => ⟨.notEnrolled, dedupStore, []⟩
  | some event =>
    match computeDedupKey event payload with
    | none => ⟨.notEnrolled, dedupStore, []⟩
    | some dedupKey =>
      -- a duplicate is found before the allowlist is looked at
      if dedupKey ∈ dedupStore then ⟨.duplicate, dedupStore, []⟩
      else match resolveDispatchAllowlist rt env with
        | .error err =>
          -- the code of the error, never its message
          ⟨.configError, dedupStore,
            [.consoleError ("[github-webhook-verify] config error: " ++
              GITHUB_DISPATCH_ALLOWLIST_ENV ++ " is misconfigured (" ++ err.code ++ ")")]⟩
        | .ok allowlist =>
          let commentBody :=
            if event = "issue_comment" then (payload.chain "comment").chain "body" else .undefined
          if matchesDispatchAllowlist rt allowlist event (payload.chain "action")
              (repoFullName payload) (actorLoginFor event payload) commentBody then
            -- the key is taken now, and given back if the forward fails
            ⟨.forwarded dedupKey, insert dedupKey dedupStore, []⟩
          else ⟨.noMatch, dedupStore, []⟩

/-- The dedup key of a delivery, when it is eligible for one. -/
def deliveryKey (event payload : Value) : Option String :=
  event.asString.bind fun event => computeDedupKey event payload

/-- The allowlist resolves and lets the delivery through. -/
def Permitted (rt : Runtime) (env : Env) (event payload : Value) : Prop :=
  ∃ name allowlist, event = .json (.str name) ∧
    resolveDispatchAllowlist rt env = .ok allowlist ∧
    matchesDispatchAllowlist rt allowlist name (payload.chain "action") (repoFullName payload)
      (actorLoginFor name payload)
      (if name = "issue_comment" then (payload.chain "comment").chain "body" else .undefined) =
        true

section Decisions

variable {rt : Runtime} {env : Env} {event payload : Value} {dedupStore : Finset String}
variable {k : String}

theorem deliveryKey_eq_some_iff :
    deliveryKey event payload = some k ↔
      ∃ name, event = .json (.str name) ∧ computeDedupKey name payload = some k := by
  simp [deliveryKey, Option.bind_eq_some_iff]

theorem planDispatch_of_no_key (h : deliveryKey event payload = none) :
    planDispatch rt env event payload dedupStore = ⟨.notEnrolled, dedupStore, []⟩ := by
  unfold planDispatch
  rcases e : event.asString with - | name
  · rfl
  · have hkey : computeDedupKey name payload = none := by
      simpa [deliveryKey, e] using h
    simp only [hkey]

theorem planDispatch_of_mem (h : deliveryKey event payload = some k) (hk : k ∈ dedupStore) :
    planDispatch rt env event payload dedupStore = ⟨.duplicate, dedupStore, []⟩ := by
  obtain ⟨name, rfl, hkey⟩ := deliveryKey_eq_some_iff.mp h
  simp only [planDispatch, Value.asString, hkey, if_pos hk]

theorem planDispatch_of_permitted (h : deliveryKey event payload = some k)
    (hk : k ∉ dedupStore) (hp : Permitted rt env event payload) :
    planDispatch rt env event payload dedupStore =
      ⟨.forwarded k, insert k dedupStore, []⟩ := by
  obtain ⟨name, rfl, hkey⟩ := deliveryKey_eq_some_iff.mp h
  obtain ⟨name', allowlist, he, hr, hm⟩ := hp
  obtain rfl : name = name' := by simpa using he
  simp only [planDispatch, Value.asString, hkey, if_neg hk, hr, hm, if_true]

/-- What is not permitted leaves no trace in the store. -/
theorem planDispatch_of_not_permitted (h : deliveryKey event payload = some k)
    (hk : k ∉ dedupStore) (hp : ¬ Permitted rt env event payload) :
    ∃ dispatch lines, planDispatch rt env event payload dedupStore =
        ⟨dispatch, dedupStore, lines⟩ ∧
      (dispatch = .configError ∨ dispatch = .noMatch) ∧
      ∀ request, Effect.fetch request ∉ lines := by
  obtain ⟨name, rfl, hkey⟩ := deliveryKey_eq_some_iff.mp h
  simp only [planDispatch, Value.asString, hkey, if_neg hk]
  rcases hr : resolveDispatchAllowlist rt env with err | allowlist
  · exact ⟨_, _, rfl, .inl rfl, by simp⟩
  · refine ⟨.noMatch, [], ?_, .inr rfl, by simp⟩
    have hm : ¬ _ := fun hm => hp ⟨name, allowlist, rfl, hr, hm⟩
    simp only [if_neg hm]

/-- **What a decision can be.**  Either the key is fresh and the delivery is
permitted, and the key is marked and forwarded; or the store stays as it is, and
the decision is `duplicate` exactly for a key that is in it. -/
theorem planDispatch_cases (rt : Runtime) (env : Env) (event payload : Value)
    (dedupStore : Finset String) :
    (∃ k, deliveryKey event payload = some k ∧ k ∉ dedupStore ∧ Permitted rt env event payload ∧
      planDispatch rt env event payload dedupStore =
        ⟨.forwarded k, insert k dedupStore, []⟩) ∨
    (∃ dispatch lines, planDispatch rt env event payload dedupStore =
        ⟨dispatch, dedupStore, lines⟩ ∧
      (∀ k, dispatch ≠ .forwarded k) ∧ (∀ request, Effect.fetch request ∉ lines) ∧
      (dispatch = .duplicate ↔ ∃ k, deliveryKey event payload = some k ∧ k ∈ dedupStore)) := by
  rcases hkey : deliveryKey event payload with - | k
  · exact .inr ⟨_, _, planDispatch_of_no_key hkey, by simp⟩
  · by_cases hk : k ∈ dedupStore
    · exact .inr ⟨_, _, planDispatch_of_mem hkey hk, by simp [hk]⟩
    · by_cases hp : Permitted rt env event payload
      · exact .inl ⟨k, rfl, hk, hp, planDispatch_of_permitted hkey hk hp⟩
      · obtain ⟨dispatch, lines, hplan, hd, hlines⟩ := planDispatch_of_not_permitted hkey hk hp
        refine .inr ⟨dispatch, lines, hplan, ?_, hlines, ?_⟩
        · rcases hd with rfl | rfl <;> simp
        · rcases hd with rfl | rfl <;> simp [hk]

end Decisions

/-! ### The handler -/

/-- A request, with what its stream goes on to emit. -/
structure Request where
  method : String
  headers : List (String × Json)
  readableEnded : Bool
  stream : List StreamEvent

/-- `req.headers[name]`. -/
def Request.header (req : Request) (name : String) : Value := (Json.obj req.headers).get name

/-- The options the handler is built with. -/
structure HandlerOptions where
  secret : Option String
  forward : ForwardOptions

/-- A forward that has been started: its key, and the call made for it. -/
structure Forward where
  dispatchKey : String
  request : HttpRequest

/-- A run of the handler up to the point where it waits for the hook, or to its
end: its effects, the decision once it takes one, the store it leaves, and the
forward it started. -/
structure HandlerRun where
  effects : List Effect
  decision : Option Dispatch
  dedupStore : Finset String
  awaiting : Option Forward

/-- A run that answers without taking a decision. -/
def HandlerRun.answered (dedupStore : Finset String) (effects : List Effect) : HandlerRun where
  effects := effects
  decision := none
  dedupStore := dedupStore
  awaiting := none

/-- The two bindings the parsing `try` makes: the payload and the repository
that is logged. -/
def parsePayload (rt : Runtime) (rawBody : List UInt8) : Value × Value :=
  match rt.jsonParse (rt.utf8Decode rawBody) with
  | .ok j =>
    let isObject :=
      match j with
      | .obj _ | .arr _ => true
      | _ => false
    (.json j, if isObject then (j.get "repository").chain "full_name" else .undefined)
  | .error _ => (.undefined, .undefined)

/-- The line logged for an accepted delivery. -/
def acceptedLine (event deliveryId repo : Value) (dispatch : Dispatch) : String :=
  (objectOf
    [("route", .json (.str ROUTE)), ("result", .json (.str "accepted")), ("event", event),
     ("deliveryId", deliveryId), ("repo", repo),
     ("dispatch", .json (.str dispatch.name))]).stringify

/-- The line logged for a signature that does not match. -/
def rejectedLine : String :=
  (objectOf [("route", .json (.str ROUTE)), ("result", .json (.str "rejected"))]).stringify

/-- The handler from the verified signature on. -/
def handleVerified (rt : Runtime) (env : Env) (options : HandlerOptions)
    (dedupStore : Finset String) (req : Request) (rawBody : List UInt8) : HandlerRun :=
  let (parsedPayload, repo) := parsePayload rt rawBody
  let event := req.header "x-github-event"
  let deliveryId := req.header "x-github-delivery"
  let decision := planDispatch rt env event parsedPayload dedupStore
  let answered := decision.effects ++
    [.log (acceptedLine event deliveryId repo decision.dispatch), .respond 200 [] "ok"]
  match decision.dispatch, event.asString with
  | .forwarded dispatchKey, some event =>
    let request := agentHookRequest env options.forward dispatchKey event
      (.json (withDeliveryId parsedPayload deliveryId))
    -- the answer does not wait for the forward
    ⟨answered ++ [.fetch request], some decision.dispatch, decision.dedupStore,
      some ⟨dispatchKey, request⟩⟩
  | _, _ => ⟨answered, some decision.dispatch, decision.dedupStore, none⟩

/-- The line logged for a fault in the configuration. -/
def configErrorLine (err : ConfigError) : Effect :=
  .consoleError ("[github-webhook-verify] config error: " ++ err.message)

/-- `handleGithubWebhookVerify(req, res, options)`.  While the body is still
being read nothing has happened yet. -/
def handleGithubWebhookVerify (rt : Runtime) (env : Env) (options : HandlerOptions)
    (dedupStore : Finset String) (req : Request) : HandlerRun :=
  match resolveSecretsForRequest rt env options.secret with
  | .error err => .answered dedupStore [configErrorLine err, .respond 500 [] ""]
  -- without a secret the route is not there
  | .ok [] => .answered dedupStore [.respond 404 [] "Not Found"]
  | .ok (secret :: secrets) =>
    if req.method ≠ "POST" then
      .answered dedupStore [.respond 405 [("Allow", "POST")] ""]
    else match resolveGithubWebhookMaxBytes env with
      | .error err => .answered dedupStore [configErrorLine err, .respond 500 [] ""]
      | .ok maxBytes =>
        match readRawBody maxBytes req.readableEnded req.stream with
        | none => .answered dedupStore []
        | some (.error _) =>
          .answered dedupStore [.respond 400 [("Connection", "close")] "", .destroyOnFinish]
        | some (.ok rawBody) =>
          if verifyAnyGithubSignature rt (secret :: secrets) rawBody
              (req.header "x-hub-signature-256") then
            handleVerified rt env options dedupStore req rawBody
          else .answered dedupStore [.log rejectedLine, .respond 401 [] ""]

/-- The delivery is verified: a secret is configured, the method is `POST`, the
body is complete within the cap, and the signature header is the signature of
the body under one of the secrets. -/
structure Verified (rt : Runtime) (env : Env) (options : HandlerOptions) (req : Request)
    (rawBody : List UInt8) : Prop where
  method : req.method = "POST"
  body : ∃ maxBytes, resolveGithubWebhookMaxBytes env = .ok maxBytes ∧
    CompleteBody maxBytes req.readableEnded req.stream rawBody
  signature : ∃ secrets, resolveSecretsForRequest rt env options.secret = .ok secrets ∧
    ∃ secret ∈ secrets, req.header "x-hub-signature-256" =
      .json (.str (computeGithubSignature rt secret rawBody))

section Handler

variable {rt : Runtime} {env : Env} {options : HandlerOptions} {req : Request}
variable {dedupStore : Finset String} {rawBody : List UInt8}

theorem handleGithubWebhookVerify_of_verified (h : Verified rt env options req rawBody) :
    handleGithubWebhookVerify rt env options dedupStore req =
      handleVerified rt env options dedupStore req rawBody := by
  obtain ⟨hm, ⟨maxBytes, hmax, hbody⟩, secrets, hs, hsig⟩ := h
  have hread := readRawBody_resolves_iff.mpr hbody
  have hver := (verifyAnyGithubSignature_iff (resolveSecretsForRequest_ne_empty hs)).mpr hsig
  cases secrets with
  | nil => simp at hsig
  | cons secret rest =>
      simp only [handleGithubWebhookVerify, hs, hm, ne_eq, not_true_eq_false, if_false, hmax,
        hread, hver, if_true]

/-- Nothing is decided for a delivery that is not verified, and nothing changes. -/
theorem handleGithubWebhookVerify_of_not_verified (dedupStore : Finset String)
    (h : ∀ rawBody, ¬ Verified rt env options req rawBody) :
    ∃ effects, handleGithubWebhookVerify rt env options dedupStore req =
        .answered dedupStore effects ∧
      ∀ request, Effect.fetch request ∉ effects := by
  unfold handleGithubWebhookVerify
  split
  · exact ⟨_, rfl, by simp [configErrorLine]⟩
  · exact ⟨_, rfl, by simp⟩
  · next secret secrets hs =>
    split
    · exact ⟨_, rfl, by simp⟩
    · next hm =>
      split
      · exact ⟨_, rfl, by simp [configErrorLine]⟩
      · next maxBytes hmax =>
        split
        · exact ⟨_, rfl, by simp⟩
        · exact ⟨_, rfl, by simp⟩
        · next rawBody hread =>
          split
          · next hver =>
            -- every gate has been passed
            have hv : Verified rt env options req rawBody :=
              ⟨not_ne_iff.mp hm, ⟨maxBytes, hmax, readRawBody_resolves_iff.mp hread⟩, _, hs,
                (verifyAnyGithubSignature_iff (resolveSecretsForRequest_ne_empty hs)).mp hver⟩
            exact absurd hv (h rawBody)
          · exact ⟨_, rfl, by simp⟩

/-- A delivery has one body. -/
theorem Verified.body_unique {rawBody' : List UInt8} (h : Verified rt env options req rawBody)
    (h' : Verified rt env options req rawBody') : rawBody = rawBody' := by
  obtain ⟨maxBytes, hmax, hbody⟩ := h.body
  obtain ⟨maxBytes', hmax', hbody'⟩ := h'.body
  obtain rfl := Except.ok.inj (hmax.symm.trans hmax')
  have e := (readRawBody_resolves_iff.mpr hbody).symm.trans (readRawBody_resolves_iff.mpr hbody')
  simpa using e

/-- The payload of a verified delivery. -/
def payloadOf (rt : Runtime) (rawBody : List UInt8) : Value := (parsePayload rt rawBody).1

theorem payloadOf_eq_json {j : Json} :
    payloadOf rt rawBody = .json j ↔ rt.jsonParse (rt.utf8Decode rawBody) = .ok j := by
  unfold payloadOf parsePayload
  rcases rt.jsonParse (rt.utf8Decode rawBody) with e | j' <;> simp

/-- The line a verified delivery logs. -/
def Request.acceptedLine (req : Request) (rt : Runtime) (rawBody : List UInt8)
    (dispatch : Dispatch) : String :=
  Webhook.acceptedLine (req.header "x-github-event") (req.header "x-github-delivery")
    (parsePayload rt rawBody).2 dispatch

/-- What a verified delivery with a fresh key that is permitted does: it is
logged, answered and forwarded, in this order. -/
theorem handleVerified_of_permitted (options : HandlerOptions) {k name : String}
    (he : req.header "x-github-event" = .json (.str name))
    (hkey : computeDedupKey name (payloadOf rt rawBody) = some k) (hk : k ∉ dedupStore)
    (hp : Permitted rt env (.json (.str name)) (payloadOf rt rawBody)) :
    let request := agentHookRequest env options.forward k name
      (.json (withDeliveryId (payloadOf rt rawBody) (req.header "x-github-delivery")))
    handleVerified rt env options dedupStore req rawBody =
      ⟨[.log (req.acceptedLine rt rawBody (.forwarded k)), .respond 200 [] "ok",
          .fetch request],
        some (.forwarded k), insert k dedupStore, some ⟨k, request⟩⟩ := by
  have hplan := planDispatch_of_permitted
    (deliveryKey_eq_some_iff.mpr ⟨name, rfl, hkey⟩) hk hp
  simp only [payloadOf] at hplan ⊢
  simp only [handleVerified, he, hplan, Value.asString, List.nil_append, List.cons_append,
    Request.acceptedLine]

/-- A verified delivery whose decision is not to forward is logged and answered,
and changes nothing. -/
theorem handleVerified_of_not_forwarded {dispatch : Dispatch} {lines : List Effect}
    (h : planDispatch rt env (req.header "x-github-event") (payloadOf rt rawBody) dedupStore =
      ⟨dispatch, dedupStore, lines⟩) (hd : ∀ k, dispatch ≠ .forwarded k) :
    handleVerified rt env options dedupStore req rawBody =
      ⟨lines ++ [.log (req.acceptedLine rt rawBody dispatch), .respond 200 [] "ok"],
        some dispatch, dedupStore, none⟩ := by
  simp only [payloadOf] at h
  simp only [handleVerified, h]
  split
  · exact absurd rfl (hd _)
  · rfl

end Handler

/-! ### Completion of a forward -/

/-- How the call to the hook ends.  A rejection has the text of `fetch`, which quotes a header
that cannot be sent; `FetchLaws` says what is known of it. -/
inductive FetchOutcome where
  | response (ok : Bool) (status : ℕ)
  | noResponse
  | rejected (message : String)

/-- `result.forwarded`. -/
def FetchOutcome.forwarded : FetchOutcome → Bool
  | .response ok _ => ok
  | .noResponse => false
  | .rejected _ => false

/-- The line logged for a forward that failed. -/
def forwardFailure (env : Env) (options : ForwardOptions) : FetchOutcome → List Effect
  | .response true _ => []
  | .response false status =>
    let isUnoverriddenDefault := options.hookUrl.isNone ∧
      AGENT_HOOK_PATH.toList <:+ (options.targetUrl env).toList
    let hint :=
      if status = 400 ∧ isUnoverriddenDefault then
        " (hint: the default " ++ AGENT_HOOK_PATH ++ " target requires a \"message\" field this " ++
        "wrapper never sends and cannot opt out of content wrapping -- set " ++
        OPENCLAW_AGENT_HOOK_URL_ENV ++ " to a hooks.mappings subpath instead)"
      else ""
    [.consoleError ("[github-webhook-verify] agent hook forward failed: HTTP " ++
      toString status ++ hint)]
  | .noResponse =>
    [.consoleError "[github-webhook-verify] agent hook forward failed: HTTP no response"]
  | .rejected message =>
    [.consoleError ("[github-webhook-verify] agent hook forward errored: " ++ message)]

/-- The rest of the handler once the call has ended: a failed forward gives its
key back. -/
def completeForward (dedupStore : Finset String) (dispatchKey : String)
    (outcome : FetchOutcome) : Finset String :=
  if outcome.forwarded then dedupStore else dedupStore.erase dispatchKey

end Webhook
