/-
ControlPlane/Webhook/Config.lean

The deploy-time configuration of the GitHub webhook route, and the signature
check it feeds (scripts/wrapper-github-webhook-verify.mjs).

The secrets come from three places in a fixed order: the secret passed to the
handler, the JSON array in `GITHUB_WEBHOOK_SECRETS`, the legacy
`GITHUB_WEBHOOK_SECRET`.  A malformed array is an error and never falls back to
the legacy variable.  Every secret that resolves is nonempty
(`resolveSecretsForRequest_ne_empty`), which is what lets the signature check be
read as "some secret signs this body" (`verifyAnyGithubSignature_iff`).
-/
import ControlPlane.Js.Value
import ControlPlane.Js.Text

namespace Webhook

open Js

/-- `process.env`. -/
abbrev Env := String → Option String

/-- An error tagged with the code of the configuration it is about. -/
structure ConfigError where
  code : String
  message : String
deriving DecidableEq

/-! ### The byte cap -/

/-- How large a body may be when nothing is configured. -/
def DEFAULT_MAX_BYTES : ℕ := 1024 * 1024

/-- The variable that sets another limit. -/
def GITHUB_WEBHOOK_MAX_BODY_BYTES_ENV : String := "GITHUB_WEBHOOK_MAX_BODY_BYTES"

/-- The raw-body byte cap: the override when it is a positive integer, the
default when it is unset or blank, an error otherwise. -/
def resolveGithubWebhookMaxBytes (env : Env) : Except ConfigError ℕ :=
  match env GITHUB_WEBHOOK_MAX_BODY_BYTES_ENV with
  | none => .ok DEFAULT_MAX_BYTES
  | some raw =>
    if trim raw = "" then .ok DEFAULT_MAX_BYTES
    else match (numberOf raw).positiveInteger with
      | some parsed => .ok parsed
      | none => .error
        { code := "GITHUB_WEBHOOK_MAX_BYTES_CONFIG_ERROR"
          message := GITHUB_WEBHOOK_MAX_BODY_BYTES_ENV ++
            " must be a positive integer number of bytes, got " ++ quote raw }

/-! ### Clean strings -/

/-- A string with something in it and no white space at either end. -/
def IsClean (s : String) : Prop := trim s ≠ "" ∧ s = trim s

instance (s : String) : Decidable (IsClean s) := by
  unfold IsClean; infer_instance

/-- `isCleanString(value)`, with the string. -/
def cleanString (v : Value) : Option String :=
  v.asString.filter fun s => decide (IsClean s)

@[simp] theorem cleanString_eq_some {v : Value} {s : String} :
    cleanString v = some s ↔ v = .json (.str s) ∧ IsClean s := by
  simp [cleanString, Option.filter_eq_some_iff]

theorem IsClean.ne_empty {s : String} (h : IsClean s) : s ≠ "" := by
  rintro rfl
  exact h.1 (by decide)

/-! ### The secrets -/

/-- The variable the secrets are configured in. -/
def GITHUB_WEBHOOK_SECRETS_ENV : String := "GITHUB_WEBHOOK_SECRETS"

/-- What every fault of the secrets is thrown as. -/
def throwWebhookSecretsConfigError {α : Type} (detail : String) : Except ConfigError α :=
  .error
    { code := "GITHUB_WEBHOOK_SECRETS_CONFIG_ERROR"
      message := GITHUB_WEBHOOK_SECRETS_ENV ++ " " ++ detail }

/-- How a text that is not JSON is described: by its length, never by its
content. -/
def notParseable (raw : String) : String :=
  "must be valid JSON (received " ++ toString (length raw) ++ " character" ++
    (if length raw = 1 then "" else "s") ++ ", not parseable)"

/-- The check each element of the configured array must pass. -/
def checkSecrets : List Json → Except ConfigError (List String)
  | [] => .ok []
  | entry :: rest =>
    match cleanString (.json entry) with
    | none => throwWebhookSecretsConfigError
        "every element must be a non-empty string with no leading/trailing whitespace"
    | some secret => (checkSecrets rest).map (secret :: ·)

/-- The legacy single secret, when it is a clean string. -/
def legacySecrets (env : Env) : List String :=
  match env "GITHUB_WEBHOOK_SECRET" with
  | some legacy => if IsClean legacy then [legacy] else []
  | none => []

/-- The secrets configured, or the first fault found in them. -/
def resolveGithubWebhookSecrets (rt : Runtime) (env : Env) :
    Except ConfigError (List String) :=
  match env GITHUB_WEBHOOK_SECRETS_ENV with
  | some raw =>
    if trim raw = "" then .ok (legacySecrets env)
    else match rt.jsonParse raw with
      | .error _ => throwWebhookSecretsConfigError (notParseable raw)
      | .ok (.arr items) => checkSecrets items
      | .ok _ => throwWebhookSecretsConfigError "must be a JSON array"
  | none => .ok (legacySecrets env)

/-- The candidates for one request: a secret given to the handler wins over the
environment. -/
def resolveSecretsForRequest (rt : Runtime) (env : Env) (secret : Option String) :
    Except ConfigError (List String) :=
  match secret with
  | some s => if s = "" then resolveGithubWebhookSecrets rt env else .ok [s]
  | none => resolveGithubWebhookSecrets rt env

theorem checkSecrets_clean {items : List Json} {secrets : List String}
    (h : checkSecrets items = .ok secrets) : ∀ s ∈ secrets, IsClean s := by
  induction items generalizing secrets with
  | nil =>
      simp only [checkSecrets, Except.ok.injEq] at h
      subst h
      simp
  | cons entry rest ih =>
      rcases e : cleanString (.json entry) with - | secret
      · simp [checkSecrets, e, throwWebhookSecretsConfigError] at h
      · rcases er : checkSecrets rest with err | tail
        · simp [checkSecrets, e, er, Except.map] at h
        · simp only [checkSecrets, e, er, Except.map, Except.ok.injEq] at h
          subst h
          intro s hs
          rcases List.mem_cons.mp hs with rfl | hs
          · exact (cleanString_eq_some.mp e).2
          · exact ih er s hs

theorem legacySecrets_clean (env : Env) : ∀ s ∈ legacySecrets env, IsClean s := by
  unfold legacySecrets
  rcases env "GITHUB_WEBHOOK_SECRET" with - | legacy
  · simp
  · by_cases h : IsClean legacy <;> simp [h]

theorem resolveGithubWebhookSecrets_clean {rt : Runtime} {env : Env}
    {secrets : List String} (h : resolveGithubWebhookSecrets rt env = .ok secrets) :
    ∀ s ∈ secrets, IsClean s := by
  unfold resolveGithubWebhookSecrets at h
  split at h
  · split at h
    · obtain rfl := Except.ok.inj h
      exact legacySecrets_clean env
    · split at h
      · simp [throwWebhookSecretsConfigError] at h
      · exact checkSecrets_clean h
      · simp [throwWebhookSecretsConfigError] at h
  · obtain rfl := Except.ok.inj h
    exact legacySecrets_clean env

/-- No secret a request is checked against is empty. -/
theorem resolveSecretsForRequest_ne_empty {rt : Runtime} {env : Env}
    {secret : Option String} {secrets : List String}
    (h : resolveSecretsForRequest rt env secret = .ok secrets) :
    ∀ s ∈ secrets, s ≠ "" := by
  have fromEnv : resolveGithubWebhookSecrets rt env = .ok secrets →
      ∀ s ∈ secrets, s ≠ "" := fun he s hs =>
    (resolveGithubWebhookSecrets_clean he s hs).ne_empty
  unfold resolveSecretsForRequest at h
  rcases secret with - | s₀
  · exact fromEnv h
  · by_cases hs₀ : s₀ = ""
    · exact fromEnv (by simpa [hs₀] using h)
    · simp only [hs₀, if_false, Except.ok.injEq] at h
      subst h
      simpa using hs₀

/-! ### The signature -/

/-- The signature header of a body under a secret. -/
def computeGithubSignature (rt : Runtime) (secret : String) (rawBody : List UInt8) : String :=
  "sha256=" ++ rt.hmacSha256Hex secret rawBody

/-- `timingSafeEqual` on two buffers of one length. -/
def timingSafeEqual (a b : ByteArray) : Bool := decide (a.data = b.data)

/-- Whether the header is the signature of the body under the secret. -/
def verifyGithubSignature (rt : Runtime) (secret : String) (rawBody : List UInt8)
    (headerValue : Value) : Bool :=
  match headerValue.asString with
  | none => false
  | some actual =>
    if secret = "" ∨ actual = "" then false
    else
      let expectedBuf := (computeGithubSignature rt secret rawBody).toUTF8
      let actualBuf := actual.toUTF8
      if expectedBuf.size ≠ actualBuf.size then false
      else timingSafeEqual expectedBuf actualBuf

/-- Every candidate is compared, also after a match. -/
def verifyAnyGithubSignature (rt : Runtime) (secrets : List String) (rawBody : List UInt8)
    (headerValue : Value) : Bool :=
  secrets.foldl
    (fun matched secret => if verifyGithubSignature rt secret rawBody headerValue then true else matched)
    false

theorem verifyGithubSignature_iff {rt : Runtime} {secret : String} {rawBody : List UInt8}
    {headerValue : Value} (hs : secret ≠ "") :
    verifyGithubSignature rt secret rawBody headerValue = true ↔
      headerValue = .json (.str (computeGithubSignature rt secret rawBody)) := by
  have hne : computeGithubSignature rt secret rawBody ≠ "" := by
    intro h
    have := congrArg String.toList h
    simp [computeGithubSignature] at this
  unfold verifyGithubSignature
  rcases e : headerValue.asString with - | actual
  · simp [ne_str_of_asString e]
  · rw [asString_eq_some] at e
    subst e
    simp only [hs, false_or, Value.json.injEq, Json.str.injEq]
    by_cases ha : actual = ""
    · simp [ha, hne.symm]
    · simp only [ha, if_false, timingSafeEqual]
      constructor
      · intro h
        split at h
        · cases h
        · exact (String.toByteArray_inj.mp (ByteArray.ext (of_decide_eq_true h))).symm
      · rintro rfl
        simp

theorem foldl_matched_iff {check : String → Bool} (secrets : List String) (matched : Bool) :
    secrets.foldl (fun matched secret => if check secret then true else matched) matched = true ↔
      matched = true ∨ ∃ secret ∈ secrets, check secret = true := by
  induction secrets generalizing matched with
  | nil => simp
  | cons secret rest ih =>
      rw [List.foldl_cons, ih]
      by_cases h : check secret = true <;> simp [h]

/-- The header verifies exactly when it is the signature of the body under one of
the secrets. -/
theorem verifyAnyGithubSignature_iff {rt : Runtime} {secrets : List String}
    {rawBody : List UInt8} {headerValue : Value} (hs : ∀ s ∈ secrets, s ≠ "") :
    verifyAnyGithubSignature rt secrets rawBody headerValue = true ↔
      ∃ secret ∈ secrets,
        headerValue = .json (.str (computeGithubSignature rt secret rawBody)) := by
  unfold verifyAnyGithubSignature
  rw [foldl_matched_iff]
  simp only [Bool.false_eq_true, false_or]
  refine exists_congr fun secret => and_congr_right fun hmem => ?_
  exact verifyGithubSignature_iff (hs secret hmem)

end Webhook
