/-
ControlPlane/Webhook/Authorisation.lean

When a request may make the process call the agent hook, said without the
handler: `DispatchAuthorised` collects the conditions, each in terms of the
request, the configuration, the payload and the grants of the allowlist.

The handler spreads this decision over the secret resolution, the body reader,
the signature check, the dedup key, the allowlist search and the trust gate.
`handleGithubWebhookVerify_posts_iff` puts them together: the handler calls the
hook exactly when some delivery is authorised, and then it makes one call, with
the request `Delivery.hookRequest` describes.
-/
import ControlPlane.Webhook.Dispatch

namespace Webhook

open Js

/-! ### The target of a delivery -/

/-- `NamesTarget event payload repo number key`: a payload of this event names
the resource `number` of the repository `repo`, and `key` is its dedup key. -/
inductive NamesTarget : String → Value → String → Number → String → Prop
  | pullRequest {payload repo number sha} :
      (payload.chain "repository").chain "full_name" = .json (.str repo) →
      ((payload.chain "pull_request").chain "number").coalesce (payload.chain "number") =
        .json (.num number) →
      ((payload.chain "pull_request").chain "head").chain "sha" = .json (.str sha) →
      sha ≠ "" →
      NamesTarget "pull_request" payload repo number (repo ++ "#" ++ number.text ++ "@" ++ sha)
  | issueComment {payload repo number id} :
      (payload.chain "repository").chain "full_name" = .json (.str repo) →
      (payload.chain "issue").chain "number" = .json (.num number) →
      (payload.chain "comment").chain "id" = id →
      ((∃ n, id = .json (.num n)) ∨ ∃ s, id = .json (.str s)) →
      NamesTarget "issue_comment" payload repo number
        (repo ++ "#" ++ number.text ++ "/comment-" ++ id.display)

section Target

variable {event repo key : String} {payload : Value} {number : Number}

theorem NamesTarget.repository (h : NamesTarget event payload repo number key) :
    repoFullName payload = .json (.str repo) := by
  cases h with
  | pullRequest hr => exact hr
  | issueComment hr => exact hr

theorem NamesTarget.payload_ne_null {j : Json}
    (h : NamesTarget event (.json j) repo number key) : j ≠ .null := by
  rintro rfl
  cases h.repository

theorem NamesTarget.resource (h : NamesTarget event payload repo number key) :
    resourceNumberFor event payload = some number := by
  cases h with
  | pullRequest _ hn => simp [resourceNumberFor, hn]
  | issueComment _ hn => simp [resourceNumberFor, hn]

theorem issueCommentId_eq_some_iff {id : Value} :
    issueCommentId payload = some id ↔
      (payload.chain "comment").chain "id" = id ∧
        ((∃ n, id = .json (.num n)) ∨ ∃ s, id = .json (.str s)) := by
  have htype : ∀ v : Value, (v.asNumber.isSome || v.asString.isSome) = true ↔
      (∃ n, v = .json (.num n)) ∨ ∃ s, v = .json (.str s) := by
    intro v
    simp only [Bool.or_eq_true, Option.isSome_iff_exists, asNumber_eq_some, asString_eq_some]
  simp only [issueCommentId]
  constructor
  · intro h
    split at h
    · next hid =>
      obtain rfl := Option.some.inj h
      exact ⟨rfl, (htype _).mp hid⟩
    · cases h
  · rintro ⟨rfl, hid⟩
    rw [if_pos ((htype _).mpr hid)]

theorem pullRequestHeadSha_eq_some_iff {sha : String} :
    pullRequestHeadSha payload = some sha ↔
      ((payload.chain "pull_request").chain "head").chain "sha" = .json (.str sha) ∧
        sha ≠ "" := by
  simp [pullRequestHeadSha, Option.filter_eq_some_iff]

/-- The dedup key is computed exactly for the deliveries that name a target in a
repository with a name. -/
theorem computeDedupKey_eq_some_iff :
    computeDedupKey event payload = some key ↔
      ∃ repo number, repo ≠ "" ∧ NamesTarget event payload repo number key := by
  constructor
  -- every early `null` of the source is a branch without a key
  · intro h
    unfold computeDedupKey at h
    split at h
    · cases h
    · next repo hrepo =>
      rw [asString_eq_some] at hrepo
      split at h
      · cases h
      · next hne =>
        split at h
        · cases h
        · next number hnumber =>
          refine ⟨repo, number, hne, ?_⟩
          by_cases hpr : event = "pull_request"
          · rw [if_pos hpr, Option.map_eq_some_iff] at h
            obtain ⟨sha, hsha, rfl⟩ := h
            obtain ⟨hsha, hshane⟩ := pullRequestHeadSha_eq_some_iff.mp hsha
            rw [resourceNumberFor, if_pos hpr, asNumber_eq_some] at hnumber
            rw [hpr]
            exact .pullRequest hrepo hnumber hsha hshane
          · rw [if_neg hpr] at h
            by_cases hic : event = "issue_comment"
            · rw [if_pos hic, Option.map_eq_some_iff] at h
              obtain ⟨id, hid, rfl⟩ := h
              obtain ⟨hid, htype⟩ := issueCommentId_eq_some_iff.mp hid
              rw [resourceNumberFor, if_neg hpr, if_pos hic, asNumber_eq_some] at hnumber
              rw [hic]
              exact .issueComment hrepo hnumber hid htype
            · rw [if_neg hic] at h
              cases h
  · rintro ⟨repo, number, hne, h⟩
    have hrepo := asString_eq_some.mpr h.repository
    simp only [computeDedupKey, hrepo, if_neg hne, h.resource]
    cases h with
    | pullRequest _ _ hsha hshane =>
        rw [if_pos rfl, pullRequestHeadSha_eq_some_iff.mpr ⟨hsha, hshane⟩, Option.map_some]
    | issueComment _ _ hid htype =>
        have hnot : "issue_comment" ≠ "pull_request" := by decide
        rw [if_neg hnot, if_pos rfl, issueCommentId_eq_some_iff.mpr ⟨hid, htype⟩,
          Option.map_some]

end Target

/-! ### What the grants permit -/

/-- The login of the author of the comment a payload carries. -/
def commentAuthor (payload : Value) : Value :=
  ((payload.chain "comment").chain "user").chain "login"

/-- `payload.comment?.body`. -/
def commentBody (payload : Value) : Value := (payload.chain "comment").chain "body"

/-- The trust gate looks at the actor and the comment of an `issue_comment`
only. -/
theorem Allowlist.permits_congr {rt : Runtime} {A : Allowlist} {event repo : String}
    {action a a' b b' : Value} (h : event = "issue_comment" → a = a' ∧ b = b') :
    A.Permits rt event action repo a b ↔ A.Permits rt event action repo a' b' := by
  unfold Allowlist.Permits EventGrant.Gate
  by_cases he : event = "issue_comment"
  · obtain ⟨rfl, rfl⟩ := h he
    rfl
  · simp [he]

/-- The code's check of a delivery is the abstract one: some resolved allowlist
permits the event, the action, the repository, and the comment author. -/
theorem permitted_iff {rt : Runtime} {env : Env} {event repo : String} {payload : Value}
    (hrepo : repoFullName payload = .json (.str repo)) :
    Permitted rt env (.json (.str event)) payload ↔
      ∃ entries A, resolveDispatchAllowlist rt env = .ok entries ∧
        Allowlist.Encodes A entries ∧
        A.Permits rt event (payload.chain "action") repo (commentAuthor payload)
          (commentBody payload) := by
  have gate : ∀ A : Allowlist,
      A.Permits rt event (payload.chain "action") repo (actorLoginFor event payload)
        (if event = "issue_comment" then (payload.chain "comment").chain "body"
          else .undefined) ↔
      A.Permits rt event (payload.chain "action") repo (commentAuthor payload)
        (commentBody payload) := fun A =>
    Allowlist.permits_congr fun he => ⟨by rw [actorLoginFor, if_pos he]; rfl, by
      rw [if_pos he]; rfl⟩
  constructor
  · rintro ⟨name, entries, he, hr, hm⟩
    obtain rfl : event = name := by simpa using he
    obtain ⟨A, hA, -⟩ := resolveDispatchAllowlist_encodes hr
    obtain ⟨repo', hrepo', hp⟩ := (matchesDispatchAllowlist_iff_permits hA).mp hm
    obtain rfl : repo = repo' := by simpa [hrepo] using hrepo'
    exact ⟨entries, A, hr, hA, (gate A).mp hp⟩
  · rintro ⟨entries, A, hr, hA, hp⟩
    refine ⟨event, entries, rfl, hr, ?_⟩
    exact (matchesDispatchAllowlist_iff_permits hA).mpr ⟨repo, hrepo, (gate A).mpr hp⟩

/-- No allowlist permits the repository without a name. -/
theorem Allowlist.Encodes.repo_ne_empty {rt : Runtime} {A : Allowlist} {entries : List Json}
    (h : A.Encodes entries) {event repo : String} {action a b : Value}
    (hp : A.Permits rt event action repo a b) : repo ≠ "" := by
  obtain ⟨entry, hmem, rfl, -⟩ := hp
  obtain ⟨j, -, hj⟩ := exists_encoded h hmem
  exact hj.repo_ne

/-! ### Authorised deliveries -/

/-- What a request delivers: its body, the document in it, and the target that
document names. -/
structure Delivery where
  rawBody : List UInt8
  payload : Json
  event : String
  repo : String
  number : Number
  key : String

/-- The delivery is one the process may forward. -/
structure DispatchAuthorised (rt : Runtime) (env : Env) (options : HandlerOptions)
    (dedupStore : Finset String) (req : Request) (d : Delivery) : Prop where
  verified : Verified rt env options req d.rawBody
  parses : rt.jsonParse (rt.utf8Decode d.rawBody) = .ok d.payload
  event : req.header "x-github-event" = .json (.str d.event)
  target : NamesTarget d.event (.json d.payload) d.repo d.number d.key
  permitted : ∃ entries A, resolveDispatchAllowlist rt env = .ok entries ∧
    Allowlist.Encodes A entries ∧
    A.Permits rt d.event (d.payload.get "action") d.repo (commentAuthor (.json d.payload))
      (commentBody (.json d.payload))
  fresh : d.key ∉ dedupStore

/-- The one request made for an authorised delivery: the key, the event, the
names of the target and of the actor, the delivery id, and nothing else of the
payload. -/
def Delivery.hookRequest (d : Delivery) (env : Env) (options : ForwardOptions)
    (deliveryId : Value) : HttpRequest where
  url := options.targetUrl env
  method := "POST"
  headers := hookHeaders (options.token env)
  body := (objectOf
    [("sessionKey", .json (.str d.key)),
     ("idempotencyKey", deliveryId),
     ("trigger", .json (objectOf
        [("event", .json (.str d.event)),
         ("repo", .json (.str d.repo)),
         ("resource", .json (.num d.number)),
         ("actor", actorLoginFor d.event (.json d.payload)),
         ("deliveryId", deliveryId)]))]).stringify

/-! ### The forwarded payload -/

theorem lookup_otherMembers (j : Json) {name : String} (h : name ≠ "deliveryId") :
    (otherMembers (.json j)).lookup name = j.fields.lookup name := by
  show (j.fields.filter _).lookup name = _
  induction j.fields with
  | nil => rfl
  | cons field rest ih =>
      by_cases hn : field.1 = "deliveryId"
      · have hne : (name == field.1) = false := by simpa [hn] using h
        rw [List.filter_cons_of_neg (by simpa using hn), ih, List.lookup_cons, hne]
      · rw [List.filter_cons_of_pos (by simpa using hn), List.lookup_cons, List.lookup_cons, ih]

theorem lookup_otherMembers_self (payload : Value) :
    (otherMembers payload).lookup "deliveryId" = none := by
  rw [List.lookup_eq_none_iff]
  intro field hfield
  cases payload with
  | json j =>
      have hne : field.1 ≠ "deliveryId" := bne_iff_ne.mp (List.mem_filter.mp hfield).2
      simpa using hne.symm
  | undefined => cases hfield
  | inherited member => cases hfield

/-- Adding the delivery id leaves every other member as it is. -/
theorem chain_withDeliveryId {j : Json} (hj : j ≠ .null) (deliveryId : Value) {name : String}
    (h : name ≠ "deliveryId") :
    (Value.json (withDeliveryId (.json j) deliveryId)).chain name = (Value.json j).chain name := by
  have hadded : (deliveryIdMember deliveryId).lookup name = none := by
    have hb : (name == "deliveryId") = false := by simpa using h
    cases deliveryId <;> simp [deliveryIdMember, List.lookup_cons, hb]
  have hlookup : (otherMembers (.json j) ++ deliveryIdMember deliveryId).lookup name =
      j.fields.lookup name := by
    rw [List.lookup_append, hadded, Option.or_none, lookup_otherMembers j h]
  rw [chain_json_of_ne_null hj]
  show Json.get (.obj _) name = j.get name
  simp only [Json.get, Json.fields.eq_1, hlookup]

theorem chain_withDeliveryId_self (payload : Value) {deliveryId : Value}
    (h : ∀ member, deliveryId ≠ .inherited member) :
    (Value.json (withDeliveryId payload deliveryId)).chain "deliveryId" = deliveryId := by
  have hlookup : (otherMembers payload ++ deliveryIdMember deliveryId).lookup "deliveryId" =
      (deliveryIdMember deliveryId).lookup "deliveryId" := by
    rw [List.lookup_append, lookup_otherMembers_self, Option.none_or]
  have hproto : "deliveryId" ∉ objectPrototype := by decide
  show Json.get (.obj _) "deliveryId" = deliveryId
  simp only [Json.get, Json.fields.eq_1, hlookup]
  cases deliveryId with
  | undefined => simp only [deliveryIdMember, List.lookup_nil, if_neg hproto]
  | json d => simp only [deliveryIdMember, List.lookup_cons, beq_self_eq_true]
  | inherited member => exact absurd rfl (h member)

/-- A header that no object inherits is a document or missing. -/
theorem Request.header_ne_inherited (req : Request) {name : String}
    (h : name ∉ objectPrototype) (member : String) : req.header name ≠ .inherited member := by
  unfold Request.header Json.get
  split
  · exact Value.noConfusion
  · rw [if_neg h]
    exact Value.noConfusion

/-- The call made for an authorised delivery is the one described. -/
theorem agentHookRequest_eq {env : Env} {options : ForwardOptions} {d : Delivery}
    {deliveryId : Value} (hd : ∀ member, deliveryId ≠ .inherited member)
    (h : NamesTarget d.event (.json d.payload) d.repo d.number d.key) :
    agentHookRequest env options d.key d.event
      (.json (withDeliveryId (.json d.payload) deliveryId)) =
        d.hookRequest env options deliveryId := by
  have hj : d.payload ≠ .null := h.payload_ne_null
  have hrepo : repoFullName (.json (withDeliveryId (.json d.payload) deliveryId)) =
      .json (.str d.repo) := by
    rw [← h.repository, repoFullName, repoFullName, chain_withDeliveryId hj _ (by decide)]
  have hnumber : resourceNumberFor d.event (.json (withDeliveryId (.json d.payload) deliveryId)) =
      some d.number := by
    rw [← h.resource, resourceNumberFor, resourceNumberFor,
      chain_withDeliveryId hj _ (by decide), chain_withDeliveryId hj _ (by decide),
      chain_withDeliveryId hj _ (by decide)]
  have hactor : actorLoginFor d.event (.json (withDeliveryId (.json d.payload) deliveryId)) =
      actorLoginFor d.event (.json d.payload) := by
    rw [actorLoginFor, actorLoginFor, chain_withDeliveryId hj _ (by decide),
      chain_withDeliveryId hj _ (by decide)]
  simp only [agentHookRequest, triggerOf, Delivery.hookRequest, hrepo, hnumber, hactor,
    chain_withDeliveryId_self _ hd, Option.elim]

/-! ### A deployment

One repository, one event, one action, and a signed delivery of that event. -/

/-- An allowlist with one repository and one event. -/
def sampleAllowlistText : String :=
  "[\x7b\"repo\":\"o/r\",\"events\":[\x7b\"event\":\"pull_request\"," ++
    "\"actions\":[\"opened\"]\x7d]\x7d]"

/-- What that text parses to. -/
def sampleAllowlist : List Json :=
  [.obj [("repo", .str "o/r"), ("events", .arr [.obj
    [("event", .str "pull_request"), ("actions", .arr [.str "opened"])]])]]

/-- A delivery for that repository. -/
def samplePayloadText : String :=
  "\x7b\"action\":\"opened\",\"repository\":\x7b\"full_name\":\"o/r\"\x7d," ++
    "\"pull_request\":\x7b\"number\":7,\"head\":\x7b\"sha\":\"abc\"\x7d\x7d\x7d"

/-- What that text parses to. -/
def samplePayload : Json :=
  .obj [("action", .str "opened"), ("repository", .obj [("full_name", .str "o/r")]),
    ("pull_request", .obj [("number", .num (.ofNat 7)), ("head", .obj [("sha", .str "abc")])])]

/-- The bytes of the delivery. -/
def sampleBody : List UInt8 := samplePayloadText.toList.map fun c => UInt8.ofNat c.toNat

/-- The HMAC-SHA256 of `sampleBody` under `s3cret`. -/
def sampleDigest : String := "00cc70105da75b116eb886034cc70ec5c3c0d6e63be6d5b44b634bce5a7a97f2"

/-- A runtime that parses these two texts and no other. -/
def sampleRuntime : Runtime where
  jsonParse text :=
    if text = sampleAllowlistText then .ok (.arr sampleAllowlist)
    else if text = samplePayloadText then .ok samplePayload
    else .error "Unexpected token"
  compileRegExp _ := none
  utf8Decode bytes := String.ofList (bytes.map fun b => Char.ofNat b.toNat)
  hmacSha256Hex secret body :=
    if secret = "s3cret" ∧ body = sampleBody then sampleDigest else ""

/-- An environment with a secret, the allowlist and a hook token. -/
def sampleEnv : Env := fun name =>
  if name = "GITHUB_WEBHOOK_SECRET" then some "s3cret"
  else if name = "GITHUB_DISPATCH_ALLOWLIST" then some sampleAllowlistText
  else none

/-- The handler's defaults. -/
def sampleOptions : HandlerOptions where
  secret := none
  forward := { hookUrl := none, hookToken := none }

/-- The delivery as a request with its signature. -/
def sampleRequest : Request where
  method := "POST"
  headers := [("x-github-event", .str "pull_request"), ("x-github-delivery", .str "d-1"),
    ("x-hub-signature-256", .str ("sha256=" ++ sampleDigest))]
  readableEnded := false
  stream := [.data sampleBody, .finish]

theorem sampleRequest_verified :
    Verified sampleRuntime sampleEnv sampleOptions sampleRequest sampleBody := by
  refine ⟨rfl, ⟨DEFAULT_MAX_BYTES, rfl, rfl, [sampleBody], [], rfl, ?_, ?_⟩,
    ["s3cret"], by decide, "s3cret", by simp, ?_⟩
  · decide
  · simp
  · have hdigest : sampleRuntime.hmacSha256Hex "s3cret" sampleBody = sampleDigest := by
      simp [sampleRuntime]
    rw [computeGithubSignature, hdigest]
    rfl

theorem samplePayload_parses :
    sampleRuntime.jsonParse (sampleRuntime.utf8Decode sampleBody) = .ok samplePayload := by
  have hdecode : sampleRuntime.utf8Decode sampleBody = samplePayloadText := by decide
  rw [hdecode]
  rfl

theorem samplePayload_target :
    NamesTarget "pull_request" (.json samplePayload) "o/r" (.ofNat 7) "o/r#7@abc" := by
  have hsha : "abc" ≠ "" := by decide
  exact .pullRequest rfl rfl rfl hsha

theorem samplePayload_permitted :
    Permitted sampleRuntime sampleEnv (.json (.str "pull_request")) (.json samplePayload) := by
  refine ⟨"pull_request", sampleAllowlist, rfl, rfl, ?_⟩
  decide

/-- The delivery as what the handler is given. -/
def sampleDelivery : Delivery where
  rawBody := sampleBody
  payload := samplePayload
  event := "pull_request"
  repo := "o/r"
  number := .ofNat 7
  key := "o/r#7@abc"

theorem sampleDelivery_authorised :
    DispatchAuthorised sampleRuntime sampleEnv sampleOptions ∅ sampleRequest sampleDelivery where
  verified := sampleRequest_verified
  parses := samplePayload_parses
  event := rfl
  target := samplePayload_target
  permitted := (permitted_iff samplePayload_target.repository).mp samplePayload_permitted
  fresh := by decide

/-! ### The handler authorises exactly these -/

section Handler

variable {rt : Runtime} {env : Env} {options : HandlerOptions} {dedupStore : Finset String}
variable {req : Request}

/-- An authorised delivery is logged, answered and forwarded, and marks its
key. -/
theorem DispatchAuthorised.run {d : Delivery}
    (h : DispatchAuthorised rt env options dedupStore req d) :
    let request := d.hookRequest env options.forward (req.header "x-github-delivery")
    handleGithubWebhookVerify rt env options dedupStore req =
      ⟨[.log (req.acceptedLine rt d.rawBody (.forwarded d.key)), .respond 200 [] "ok",
          .fetch request],
        some (.forwarded d.key), insert d.key dedupStore, some ⟨d.key, request⟩⟩ := by
  have hpayload : payloadOf rt d.rawBody = .json d.payload := payloadOf_eq_json.mpr h.parses
  obtain ⟨entries, A, hr, hA, hp⟩ := h.permitted
  have hkey : computeDedupKey d.event (payloadOf rt d.rawBody) = some d.key := by
    rw [hpayload]
    exact computeDedupKey_eq_some_iff.mpr ⟨d.repo, d.number, hA.repo_ne_empty hp, h.target⟩
  have haction : (Value.json d.payload).chain "action" = d.payload.get "action" := by
    exact chain_json_of_ne_null h.target.payload_ne_null
  have hperm : Permitted rt env (.json (.str d.event)) (payloadOf rt d.rawBody) := by
    rw [hpayload]
    refine (permitted_iff h.target.repository).mpr ⟨entries, A, hr, hA, ?_⟩
    rw [haction]
    exact hp
  rw [handleGithubWebhookVerify_of_verified h.verified]
  have hrun := handleVerified_of_permitted options h.event hkey h.fresh hperm
  rw [hpayload, agentHookRequest_eq (req.header_ne_inherited (by decide)) h.target] at hrun
  exact hrun

/-- A delivery the handler forwards is authorised. -/
theorem exists_authorised_of_fetch {request : HttpRequest}
    (h : .fetch request ∈ (handleGithubWebhookVerify rt env options dedupStore req).effects) :
    ∃ d, DispatchAuthorised rt env options dedupStore req d := by
  by_cases hv : ∃ rawBody, Verified rt env options req rawBody
  · obtain ⟨rawBody, hv⟩ := hv
    rw [handleGithubWebhookVerify_of_verified hv] at h
    rcases planDispatch_cases rt env (req.header "x-github-event") (payloadOf rt rawBody)
      dedupStore with ⟨k, hkey, hk, hp, -⟩ | ⟨dispatch, lines, hplan, hd, hlines, -⟩
    · obtain ⟨name, he, hkey⟩ := deliveryKey_eq_some_iff.mp hkey
      obtain ⟨repo, number, hne, ht⟩ := computeDedupKey_eq_some_iff.mp hkey
      -- a key needs a payload with members, so the body was JSON
      rcases hpayload : payloadOf rt rawBody with - | j | member
      · rw [hpayload] at ht
        cases ht.repository
      · rw [he, hpayload] at hp
        rw [hpayload] at ht
        obtain ⟨entries, A, hr, hA, hp⟩ := (permitted_iff ht.repository).mp hp
        rw [chain_json_of_ne_null ht.payload_ne_null] at hp
        exact ⟨⟨rawBody, j, name, repo, number, k⟩, hv, payloadOf_eq_json.mp hpayload, he, ht,
          ⟨entries, A, hr, hA, hp⟩, hk⟩
      · rw [hpayload] at ht
        cases ht.repository
    · rw [handleVerified_of_not_forwarded hplan hd] at h
      simp [hlines] at h
  · obtain ⟨effects, hrun, heffects⟩ :=
      handleGithubWebhookVerify_of_not_verified dedupStore (not_exists.mp hv)
    rw [hrun] at h
    exact absurd h (heffects request)

end Handler

/-- **The handler calls the agent hook exactly for authorised deliveries.**  When
a delivery is authorised the whole run is fixed: it is logged, answered with 200
and only then forwarded, with one call, and its key is marked. -/
theorem handleGithubWebhookVerify_posts_iff (rt : Runtime) (env : Env)
    (options : HandlerOptions) (dedupStore : Finset String) (req : Request) :
    let run := handleGithubWebhookVerify rt env options dedupStore req
    ((∃ request, .fetch request ∈ run.effects) ↔
      ∃ d, DispatchAuthorised rt env options dedupStore req d) ∧
    ∀ d, DispatchAuthorised rt env options dedupStore req d →
      (∃ line, run.effects = [.log line, .respond 200 [] "ok",
        .fetch (d.hookRequest env options.forward (req.header "x-github-delivery"))]) ∧
      run.dedupStore = insert d.key dedupStore := by
  refine ⟨⟨?_, ?_⟩, ?_⟩
  · rintro ⟨request, h⟩
    exact exists_authorised_of_fetch h
  · rintro ⟨d, h⟩
    refine ⟨d.hookRequest env options.forward (req.header "x-github-delivery"), ?_⟩
    rw [h.run]
    simp
  · intro d h
    rw [h.run]
    exact ⟨⟨_, rfl⟩, rfl⟩

theorem sampleDelivery_posted :
    let run := handleGithubWebhookVerify sampleRuntime sampleEnv sampleOptions ∅ sampleRequest
    (∃ line, run.effects = [.log line, .respond 200 [] "ok",
      .fetch (sampleDelivery.hookRequest sampleEnv sampleOptions.forward (.json (.str "d-1")))]) ∧
    run.dedupStore = {"o/r#7@abc"} :=
  (handleGithubWebhookVerify_posts_iff sampleRuntime sampleEnv sampleOptions ∅ sampleRequest).2
    sampleDelivery sampleDelivery_authorised

end Webhook
