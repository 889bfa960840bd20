/-
ControlPlane/Webhook/Throwing.lean

The dispatch side of the webhook handler with the exceptions of the language.

Reading a property of `undefined` or `null`, `JSON.parse` and `new RegExp` can
throw, and where a `try` stands decides who sees it.  Here the functions that do
any of this are written with every read a read that can throw, in the order the
code makes them.  Each is then shown to compute what the function of the same
name in Config.lean, Allowlist.lean or Dispatch.lean computes: on whatever JSON
is configured or delivered, the only errors that leave a function are the tagged
configuration errors (`resolveSecretsForRequest_eq`,
`resolveDispatchAllowlist_eq`), and no error leaves the decision
(`matchesDispatchAllowlist_eq`) or the parsing of a payload (`parsePayload_eq`).
-/
import ControlPlane.Webhook.Dispatch

namespace Js

/-- What is thrown: an error, with the code it may be tagged with. -/
structure Thrown where
  code : Option String
  message : String

/-- `v.name`: `undefined` and `null` have nothing to read. -/
def Value.read (v : Value) (name : String) : Except Thrown Value :=
  match v with
  | .undefined =>
    .error ⟨none, "Cannot read properties of undefined (reading '" ++ name ++ "')"⟩
  | .json .null => .error ⟨none, "Cannot read properties of null (reading '" ++ name ++ "')"⟩
  | v => .ok (v.chain name)

/-- What is truthy can be read. -/
theorem read_of_truthy {v : Value} (h : v.truthy = true) (name : String) :
    v.read name = .ok (v.chain name) := by
  cases v with
  | undefined => cases h
  | inherited member => rfl
  | json j =>
      cases j with
      | null => cases h
      | bool | num | str | arr | obj => rfl

theorem read_json_of_truthy {j : Json} (h : j.truthy = true) (name : String) :
    (Value.json j).read name = .ok (j.get name) := by
  have hv : (Value.json j).truthy = true := h
  have hne : j ≠ .null := by
    rintro rfl
    cases h
  rw [read_of_truthy hv, chain_json_of_ne_null hne]

@[simp] theorem read_obj (fields : List (String × Json)) (name : String) :
    (Value.json (.obj fields)).read name = .ok ((Json.obj fields).get name) := rfl

/-- `JSON.parse(text)`. -/
def Runtime.parse (rt : Runtime) (text : String) : Except Thrown Json :=
  (rt.jsonParse text).mapError fun message => ⟨none, message⟩

/-- `new RegExp(source)`. -/
def Runtime.newRegExp (rt : Runtime) (source : String) : Except Thrown (String → Bool) :=
  match rt.compileRegExp source with
  | some test => .ok test
  | none => .error ⟨none, "Invalid regular expression"⟩

end Js

namespace Webhook

open Js

/-- A configuration error as it is thrown. -/
def ConfigError.thrown (err : ConfigError) : Thrown := ⟨some err.code, err.message⟩

namespace Throwing

/-- A result whose only error is a configuration error. -/
def ofConfig {α : Type} (x : Except ConfigError α) : Except Thrown α := x.mapError ConfigError.thrown

section Results

variable {α β : Type}

@[simp] theorem ofConfig_ok (a : α) : ofConfig (.ok a) = .ok a := rfl

@[simp] theorem ofConfig_error (err : ConfigError) :
    ofConfig (.error err : Except ConfigError α) = .error err.thrown := rfl

@[simp] theorem ok_bind (a : α) (f : α → Except Thrown β) : (Except.ok a >>= f) = f a := rfl

@[simp] theorem throw_bind (e : Thrown) (f : α → Except Thrown β) :
    (Except.error e >>= f) = .error e := rfl

@[simp] theorem map_ok (g : α → β) (a : α) : g <$> (Except.ok a : Except Thrown α) = .ok (g a) := rfl

@[simp] theorem map_error (g : α → β) (e : Thrown) :
    g <$> (Except.error e : Except Thrown α) = .error e := rfl

@[simp] theorem tryCatch_ok (a : α) (h : Thrown → Except Thrown α) :
    tryCatch (Except.ok a) h = .ok a := rfl

@[simp] theorem tryCatch_error (e : Thrown) (h : Thrown → Except Thrown α) :
    tryCatch (Except.error e) h = h e := rfl

end Results

/-! ### The secrets -/

/-- The secrets, where any step may throw. -/
def resolveGithubWebhookSecrets (rt : Runtime) (env : Env) : Except Thrown (List String) :=
  match env GITHUB_WEBHOOK_SECRETS_ENV with
  | some raw =>
    if trim raw = "" then .ok (legacySecrets env)
    else do
      let parsed ← try rt.parse raw
        catch _ => ofConfig (throwWebhookSecretsConfigError (notParseable raw))
      match parsed with
      | .arr items => ofConfig (checkSecrets items)
      | _ => ofConfig (throwWebhookSecretsConfigError "must be a JSON array")
  | none => .ok (legacySecrets env)

/-- The secrets a request is checked with, where any step may throw. -/
def resolveSecretsForRequest (rt : Runtime) (env : Env) (secret : Option String) :
    Except Thrown (List String) :=
  match secret with
  | some s => if s = "" then resolveGithubWebhookSecrets rt env else .ok [s]
  | none => resolveGithubWebhookSecrets rt env

/-- The secrets are resolved without a throw of another kind. -/
theorem resolveGithubWebhookSecrets_eq (rt : Runtime) (env : Env) :
    resolveGithubWebhookSecrets rt env = ofConfig (Webhook.resolveGithubWebhookSecrets rt env) := by
  unfold resolveGithubWebhookSecrets Webhook.resolveGithubWebhookSecrets
  rcases env GITHUB_WEBHOOK_SECRETS_ENV with - | raw
  · rfl
  · by_cases hblank : trim raw = ""
    · simp only [hblank, if_true, ofConfig_ok]
    · simp only [hblank, if_false, Runtime.parse]
      rcases rt.jsonParse raw with message | parsed
      · rfl
      · cases parsed <;> rfl

/-- Only tagged configuration errors leave the resolution of the secrets. -/
theorem resolveSecretsForRequest_eq (rt : Runtime) (env : Env) (secret : Option String) :
    resolveSecretsForRequest rt env secret =
      ofConfig (Webhook.resolveSecretsForRequest rt env secret) := by
  have hfromEnv := resolveGithubWebhookSecrets_eq rt env
  cases secret with
  | none => exact hfromEnv
  | some s =>
      show (if s = "" then resolveGithubWebhookSecrets rt env else .ok [s]) =
        ofConfig (if s = "" then Webhook.resolveGithubWebhookSecrets rt env else .ok [s])
      by_cases hs : s = ""
      · rw [if_pos hs, if_pos hs, hfromEnv]
      · rw [if_neg hs, if_neg hs, ofConfig_ok]

/-! ### Validation of the allowlist -/

/-- The actors of a trusted mention, where any step may throw. -/
def trustedActors (trusted : Value) : Except Thrown (Option (List String)) :=
  if trusted.truthy then do
    return cleanStringArray (← trusted.read "actors")
  else return none

/-- The pattern of a trusted mention, where any step may throw. -/
def trustedPattern (trusted : Value) : Except Thrown (Option String) :=
  if trusted.truthy then do
    return (← trusted.read "pattern").asString.filter fun s => decide (trim s ≠ "")
  else return none

/-- The check of a trusted mention, where any step may throw. -/
def validateTrustedMention (rt : Runtime) (repo : String) (trusted : Value) :
    Except Thrown Unit := do
  let actors ← trustedActors trusted
  let pattern ← trustedPattern trusted
  match actors, pattern with
  | some _, some pattern =>
    try
      let _ ← rt.newRegExp pattern
      return ()
    catch _ => ofConfig (throwDispatchAllowlistConfigError
      (entryFor repo ++ " has an invalid trustedMention.pattern regular expression"))
  | _, _ => ofConfig (throwDispatchAllowlistConfigError
      (entryFor repo ++ " permits issue_comment but is missing a valid trustedMention " ++
        "\x7bactors: string[], pattern: string\x7d"))

/-- One element of `events`; gives the event it names. -/
def validateEventEntry (rt : Runtime) (repo : String) (seenEvents : List String)
    (eventEntry : Json) : Except Thrown String :=
  match eventEntry with
  | .obj _ => do
    match cleanString (← (Value.json eventEntry).read "event") with
    | none => ofConfig (throwDispatchAllowlistConfigError
        (entryFor repo ++ " has an \"events\" item with a missing or malformed \"event\" " ++
          "(no leading/trailing whitespace allowed)"))
    | some event =>
      if event ∈ seenEvents then ofConfig (throwDispatchAllowlistConfigError
        (entryFor repo ++ " has more than one \"events\" item for event \"" ++ event ++
          "\" -- merge them into one item with combined actions/trustedMention instead"))
      else do
        match cleanStringArray (← (Value.json eventEntry).read "actions") with
        | none => ofConfig (throwDispatchAllowlistConfigError
            (entryFor repo ++ " event \"" ++ event ++ "\" must have a non-empty \"actions\" " ++
              "array of strings with no leading/trailing whitespace"))
        | some _ =>
          if event = "issue_comment" then do
            validateTrustedMention rt repo (← (Value.json eventEntry).read "trustedMention")
            return event
          else return event
  | _ => ofConfig (throwDispatchAllowlistConfigError
      (entryFor repo ++ " has a malformed \"events\" item"))

/-- The check of the events of an entry, where any step may throw. -/
def validateEvents (rt : Runtime) (repo : String) (seenEvents : List String) :
    List Json → Except Thrown Unit
  | [] => return ()
  | eventEntry :: rest => do
    let event ← validateEventEntry rt repo seenEvents eventEntry
    validateEvents rt repo (event :: seenEvents) rest

/-- One entry of the allowlist; gives the repository it names. -/
def validateDispatchAllowlistEntry (rt : Runtime) (entry : Json) : Except Thrown String :=
  match entry with
  | .obj _ => do
    match cleanString (← (Value.json entry).read "repo") with
    | none => ofConfig (throwDispatchAllowlistConfigError
        "each entry must have a non-empty string \"repo\" with no leading/trailing whitespace")
    | some repo =>
      match (← (Value.json entry).read "events").asArray with
      | some (eventEntry :: rest) => do
        validateEvents rt repo [] (eventEntry :: rest)
        return repo
      | _ => ofConfig (throwDispatchAllowlistConfigError
          (entryFor repo ++ " must have a non-empty \"events\" array"))
  | _ => ofConfig (throwDispatchAllowlistConfigError "each entry must be a JSON object")

/-- The first pass over the entries. -/
def validateEntries (rt : Runtime) : List Json → Except Thrown Unit
  | [] => return ()
  | entry :: rest => do
    let _ ← validateDispatchAllowlistEntry rt entry
    validateEntries rt rest

/-- The second pass, which reads the repositories again. -/
def checkRepos (seenRepos : List String) : List Json → Except Thrown Unit
  | [] => return ()
  | entry :: rest => do
    match (← (Value.json entry).read "repo").asString with
    | some repo =>
      if repo ∈ seenRepos then ofConfig (throwDispatchAllowlistConfigError
        ("has more than one entry for repo \"" ++ repo ++
          "\" -- merge them into one entry with combined events instead"))
      else checkRepos (repo :: seenRepos) rest
    -- the first pass lets only strings through
    | none => checkRepos seenRepos rest

/-- The allowlist, where any step may throw. -/
def resolveDispatchAllowlist (rt : Runtime) (env : Env) : Except Thrown (List Json) :=
  match env GITHUB_DISPATCH_ALLOWLIST_ENV with
  | none => .ok []
  | some raw =>
    if trim raw = "" then .ok []
    else do
      let parsed ← try rt.parse raw
        catch _ => ofConfig (throwDispatchAllowlistConfigError (notParseable raw))
      match parsed with
      | .arr parsed => do
        validateEntries rt parsed
        checkRepos [] parsed
        return parsed
      | _ => ofConfig (throwDispatchAllowlistConfigError "must be a JSON array")

/-! ### The decision -/

/-- Whether a comment is a trusted mention; only compiling the pattern is guarded. -/
def matchesTrustedMention (rt : Runtime) (trusted actorLogin commentBody : Value) :
    Except Thrown Bool :=
  if trusted.truthy then do
    match (← trusted.read "actors").asArray, (← trusted.read "pattern").asString,
        actorLogin.asString, commentBody.asString with
    | some actors, some pattern, some login, some body =>
      if actors.any fun a => (Value.json a).isString login then do
        match ← try some <$> rt.newRegExp pattern catch _ => pure none with
        | some test => return test body
        | none => return false
      else return false
    | _, _, _, _ => return false
  else return false

/-- The test of `entries.find`: `e && e.repo === repoFullName`. -/
def namesRepo (repo : String) (e : Json) : Except Thrown Bool :=
  if e.truthy then do
    return (← (Value.json e).read "repo").isString repo
  else return false

/-- The test of `repoEntry.events.find`. -/
def eventEntryPermits (event : String) (action : Value) (e : Json) : Except Thrown Bool :=
  if e.truthy then do
    if (← (Value.json e).read "event").isString event then
      match (← (Value.json e).read "actions").asArray, action.asString with
      | some actions, some action => return actions.any fun a => (Value.json a).isString action
      | _, _ => return false
    else return false
  else return false

/-- Whether an entry lets the delivery through, where any step may throw. -/
def matchesDispatchAllowlist (rt : Runtime) (entries : List Json) (event : String)
    (action repoFullName actorLogin commentBody : Value) : Except Thrown Bool :=
  match repoFullName.asString with
  | none => return false
  | some repo =>
    if repo = "" then return false
    else do
      match ← entries.findM? (namesRepo repo) with
      | none => return false
      | some repoEntry =>
        match (← (Value.json repoEntry).read "events").asArray with
        | none => return false
        | some events =>
          match ← events.findM? (eventEntryPermits event action) with
          | none => return false
          | some eventEntry =>
            if event = "issue_comment" then do
              matchesTrustedMention rt (← (Value.json eventEntry).read "trustedMention")
                actorLogin commentBody
            else return true

/-! ### The payload -/

/-- `parsedPayload && typeof parsedPayload === "object" ? … : undefined`. -/
def loggedRepo (parsedPayload : Json) : Except Thrown Value :=
  match parsedPayload with
  | .obj _ | .arr _ => do
    return (← (Value.json parsedPayload).read "repository").chain "full_name"
  | _ => return .undefined

/-- The parsed payload and its action, where any step may throw. -/
def parsePayload (rt : Runtime) (rawBody : List UInt8) : Except Thrown (Value × Value) :=
  try
    let parsedPayload ← rt.parse (rt.utf8Decode rawBody)
    let repo ← loggedRepo parsedPayload
    return (.json parsedPayload, repo)
  catch _ => return (.undefined, .undefined)


/-! ### Only configuration errors leave the validation -/

/-- The actors are read without a throw. -/
theorem trustedActors_eq (trusted : Value) :
    trustedActors trusted = .ok (Webhook.trustedActors trusted) := by
  unfold trustedActors Webhook.trustedActors
  by_cases h : trusted.truthy = true
  · rw [if_pos h, if_pos h, read_of_truthy h]
    rfl
  · rw [if_neg h, if_neg h]
    rfl

theorem trustedPattern_eq (trusted : Value) :
    trustedPattern trusted = .ok (Webhook.trustedPattern trusted) := by
  unfold trustedPattern Webhook.trustedPattern
  by_cases h : trusted.truthy = true
  · rw [if_pos h, if_pos h, read_of_truthy h]
    rfl
  · rw [if_neg h, if_neg h]
    rfl

/-- A mention is validated as in the pure reading. -/
theorem validateTrustedMention_eq (rt : Runtime) (repo : String) (trusted : Value) :
    validateTrustedMention rt repo trusted =
      ofConfig (Webhook.validateTrustedMention rt repo trusted) := by
  unfold validateTrustedMention Webhook.validateTrustedMention
  rw [trustedActors_eq, trustedPattern_eq, ok_bind, ok_bind]
  rcases Webhook.trustedActors trusted with - | actors
  · rfl
  · rcases Webhook.trustedPattern trusted with - | pattern
    · rfl
    · simp only [Runtime.newRegExp]
      rcases rt.compileRegExp pattern with - | test <;> rfl

/-- So is an event. -/
theorem validateEventEntry_eq (rt : Runtime) (repo : String) (seenEvents : List String)
    (eventEntry : Json) :
    validateEventEntry rt repo seenEvents eventEntry =
      ofConfig (Webhook.validateEventEntry rt repo seenEvents eventEntry) := by
  cases eventEntry with
  | null | bool | num | str | arr => rfl
  | obj fields =>
      simp only [validateEventEntry, Webhook.validateEventEntry, read_obj, ok_bind]
      rcases cleanString ((Json.obj fields).get "event") with - | event
      · rfl
      · by_cases hseen : event ∈ seenEvents
        · simp only [hseen, if_true]
        · simp only [hseen, if_false]
          rcases cleanStringArray ((Json.obj fields).get "actions") with - | actions
          · rfl
          · by_cases hcomment : event = "issue_comment"
            · simp only [hcomment, if_true, validateTrustedMention_eq]
              rcases Webhook.validateTrustedMention rt repo
                ((Json.obj fields).get "trustedMention") with err | u <;> rfl
            · simp only [hcomment, if_false]
              rfl

theorem validateEvents_eq (rt : Runtime) (repo : String) (seenEvents : List String)
    (items : List Json) :
    validateEvents rt repo seenEvents items =
      ofConfig (Webhook.validateEvents rt repo seenEvents items) := by
  induction items generalizing seenEvents with
  | nil => rfl
  | cons eventEntry rest ih =>
      simp only [validateEvents, Webhook.validateEvents, validateEventEntry_eq]
      rcases Webhook.validateEventEntry rt repo seenEvents eventEntry with err | event
      · rfl
      · exact ih (event :: seenEvents)

/-- So is an entry. -/
theorem validateDispatchAllowlistEntry_eq (rt : Runtime) (entry : Json) :
    validateDispatchAllowlistEntry rt entry =
      ofConfig (Webhook.validateDispatchAllowlistEntry rt entry) := by
  cases entry with
  | null | bool | num | str | arr => rfl
  | obj fields =>
      simp only [validateDispatchAllowlistEntry, Webhook.validateDispatchAllowlistEntry, read_obj,
        ok_bind]
      rcases cleanString ((Json.obj fields).get "repo") with - | repo
      · rfl
      · rcases ((Json.obj fields).get "events").asArray with - | events
        · rfl
        · cases events with
          | nil => rfl
          | cons eventEntry rest =>
              simp only [validateEvents_eq]
              rcases Webhook.validateEvents rt repo [] (eventEntry :: rest) with err | u <;> rfl

/-- So are all entries. -/
theorem validateEntries_eq (rt : Runtime) (entries : List Json) :
    validateEntries rt entries = ofConfig ((Webhook.validateEntries rt entries).map fun _ => ()) := by
  induction entries with
  | nil => rfl
  | cons entry rest ih =>
      simp only [validateEntries, Webhook.validateEntries, validateDispatchAllowlistEntry_eq, ih]
      rcases Webhook.validateDispatchAllowlistEntry rt entry with err | repo
      · rfl
      · rcases Webhook.validateEntries rt rest with err | repos <;> rfl

/-- What an entry names can be read again once it has been validated. -/
theorem read_repo_of_validated {rt : Runtime} {entry : Json} {repo : String}
    (h : Webhook.validateDispatchAllowlistEntry rt entry = .ok repo) :
    (Value.json entry).read "repo" = .ok (.json (.str repo)) := by
  obtain ⟨g, rfl, hg, -⟩ := validateDispatchAllowlistEntry_eq_ok_iff.mp h
  rw [read_json_of_truthy hg.truthy, hg.repo]

/-- So are the repositories. -/
theorem checkRepos_eq {rt : Runtime} {entries : List Json} {repos : List String}
    (h : Webhook.validateEntries rt entries = .ok repos) (seenRepos : List String) :
    checkRepos seenRepos entries = ofConfig (Webhook.checkRepos seenRepos repos) := by
  induction entries generalizing repos seenRepos with
  | nil =>
      obtain rfl := Except.ok.inj h
      rfl
  | cons entry rest ih =>
      rcases hentry : Webhook.validateDispatchAllowlistEntry rt entry with err | repo
      · rw [Webhook.validateEntries, hentry] at h
        cases h
      · rcases hrest : Webhook.validateEntries rt rest with err | tail
        · rw [Webhook.validateEntries, hentry, hrest] at h
          cases h
        · rw [Webhook.validateEntries, hentry, hrest] at h
          obtain rfl := Except.ok.inj h
          simp only [checkRepos, Webhook.checkRepos, read_repo_of_validated hentry, ok_bind,
            Value.asString]
          by_cases hseen : repo ∈ seenRepos
          · simp only [hseen, if_true]
          · simp only [hseen, if_false]
            exact ih hrest (repo :: seenRepos)

/-- Only tagged configuration errors leave the resolution of the allowlist. -/
theorem resolveDispatchAllowlist_eq (rt : Runtime) (env : Env) :
    resolveDispatchAllowlist rt env = ofConfig (Webhook.resolveDispatchAllowlist rt env) := by
  unfold resolveDispatchAllowlist Webhook.resolveDispatchAllowlist
  rcases env GITHUB_DISPATCH_ALLOWLIST_ENV with - | raw
  · rfl
  · by_cases hblank : trim raw = ""
    · simp only [hblank, if_true, ofConfig_ok]
    · simp only [hblank, if_false, Runtime.parse]
      rcases rt.jsonParse raw with message | parsed
      · rfl
      · cases parsed with
        | null | bool | num | str | obj => rfl
        | arr parsed =>
            show (validateEntries rt parsed >>= fun _ => checkRepos [] parsed >>= fun _ =>
              pure parsed) = _
            rw [validateEntries_eq]
            rcases hentries : Webhook.validateEntries rt parsed with err | repos
            · simp only [hentries]
              rfl
            · simp only [hentries]
              show (checkRepos [] parsed >>= fun _ => pure parsed) =
                ofConfig ((Webhook.checkRepos [] repos).map fun _ => parsed)
              rw [checkRepos_eq hentries]
              rcases Webhook.checkRepos [] repos with err | u <;> rfl

/-! ### No error leaves the decision -/

/-- A comment is matched without a throw. -/
theorem matchesTrustedMention_eq (rt : Runtime) (trusted actorLogin commentBody : Value) :
    matchesTrustedMention rt trusted actorLogin commentBody =
      .ok (Webhook.matchesTrustedMention rt trusted actorLogin commentBody) := by
  unfold matchesTrustedMention Webhook.matchesTrustedMention
  by_cases h : trusted.truthy = true
  · simp only [h, if_true, read_of_truthy h, ok_bind]
    rcases (trusted.chain "actors").asArray with - | actors
    · rfl
    · rcases (trusted.chain "pattern").asString with - | pattern
      · rfl
      · rcases actorLogin.asString with - | login
        · rfl
        · rcases commentBody.asString with - | body
          · rfl
          · simp only [Runtime.newRegExp]
            by_cases hactor : (actors.any fun a => (Value.json a).isString login) = true
            · simp only [hactor, if_true, Bool.true_and]
              rcases rt.compileRegExp pattern with - | test <;> rfl
            · simp only [hactor, Bool.false_and]
              rfl
  · simp only [h]
    rfl

theorem namesRepo_eq (repo : String) (e : Json) :
    namesRepo repo e = .ok (e.truthy && (e.get "repo").isString repo) := by
  unfold namesRepo
  by_cases h : e.truthy = true
  · rw [if_pos h, read_json_of_truthy h, h]
    rfl
  · have hfalse : e.truthy = false := by simpa using h
    rw [if_neg h, hfalse]
    rfl

/-- An event permits without a throw. -/
theorem eventEntryPermits_eq (event : String) (action : Value) (e : Json) :
    eventEntryPermits event action e = .ok (Webhook.eventEntryPermits event action e) := by
  unfold eventEntryPermits Webhook.eventEntryPermits
  by_cases h : e.truthy = true
  · simp only [h, if_true, read_json_of_truthy h, ok_bind, Bool.true_and]
    by_cases hevent : (e.get "event").isString event = true
    · simp only [hevent, if_true, Bool.true_and]
      rcases (e.get "actions").asArray with - | actions
      · rfl
      · rcases action.asString with - | action <;> rfl
    · simp only [hevent, Bool.false_and]
      rfl
  · simp only [h, Bool.false_and]
    rfl

/-- A search whose test never throws is the pure search. -/
theorem findM?_eq {α : Type} {test : α → Except Thrown Bool} {p : α → Bool}
    (h : ∀ a, test a = .ok (p a)) (items : List α) :
    items.findM? test = .ok (items.find? p) := by
  obtain rfl : test = fun a => pure (p a) := funext h
  exact List.findM?_pure p items

/-- No error leaves the match, on whatever entries it is made. -/
theorem matchesDispatchAllowlist_eq (rt : Runtime) (entries : List Json) (event : String)
    (action repoFullName actorLogin commentBody : Value) :
    matchesDispatchAllowlist rt entries event action repoFullName actorLogin commentBody =
      .ok (Webhook.matchesDispatchAllowlist rt entries event action repoFullName actorLogin
        commentBody) := by
  unfold matchesDispatchAllowlist Webhook.matchesDispatchAllowlist
  rcases repoFullName.asString with - | repo
  · rfl
  · by_cases hrepo : repo = ""
    · simp only [hrepo, if_true]
      rfl
    · simp only [hrepo, if_false, findM?_eq (namesRepo_eq repo), ok_bind]
      rcases hfind : entries.find? fun e => e.truthy && (e.get "repo").isString repo with
        - | repoEntry
      · simp only [hfind]
        rfl
      · -- what was found passed the test, so it can be read
        have htruthy : repoEntry.truthy = true := by
          have htest := List.find?_some hfind
          exact (Bool.and_eq_true_iff.mp htest).1
        simp only [hfind, read_json_of_truthy htruthy, ok_bind, Option.any_some]
        rcases (repoEntry.get "events").asArray with - | events
        · rfl
        · simp only [findM?_eq (eventEntryPermits_eq event action), ok_bind]
          rcases hevent : events.find? (Webhook.eventEntryPermits event action) with - | eventEntry
          · rfl
          · have htruthy' : eventEntry.truthy = true := by
              have htest := List.find?_some hevent
              unfold Webhook.eventEntryPermits at htest
              exact (Bool.and_eq_true_iff.mp (Bool.and_eq_true_iff.mp htest).1).1
            simp only [Option.any_some]
            by_cases hcomment : event = "issue_comment"
            · simp only [hcomment, if_true, read_json_of_truthy htruthy', ok_bind,
                matchesTrustedMention_eq]
            · simp only [hcomment, if_false]
              rfl

/-! ### No error leaves the parsing -/

/-- A body is parsed without a throw. -/
theorem parsePayload_eq (rt : Runtime) (rawBody : List UInt8) :
    parsePayload rt rawBody = .ok (Webhook.parsePayload rt rawBody) := by
  unfold parsePayload Webhook.parsePayload Runtime.parse
  rcases rt.jsonParse (rt.utf8Decode rawBody) with message | parsedPayload
  · rfl
  · cases parsedPayload <;> rfl

end Throwing

end Webhook
