/-
ControlPlane/Railway/TemplateLock.lean

The lock on the upstream template (`template-lock.ts`, `check-template-lock.ts`).

A lock names an upstream ref and the commit that was approved of it.  `parseTemplateLock` takes
a document for a lock if it has every member the policy asks for; the check then asks upstream
which commit the ref is at.  `checkTemplateLock_passes` is what its exit code is to be believed
for.
-/
import ControlPlane.Interaction.Finally
import ControlPlane.Js.Uri
import ControlPlane.Railway.Platform
import ControlPlane.Setup.Clients

namespace Railway

open Js Interaction Setup

/-! ### Locks -/

/-- `/^[a-f0-9]{40}$/` -/
def isSha (text : String) : Bool :=
  text.toList.length = 40 && text.toList.all fun c => ('a' ≤ c && c ≤ 'f') || ('0' ≤ c && c ≤ '9')

/-- What is read of a lock. -/
structure TemplateLock where
  template : String
  upstreamRepo : String
  upstreamBranch : String
  upstreamRef : String
  pinnedCommit : String
  approvedBranch : String
  status : String
  updateCadence : String
  sha : isSha pinnedCommit = true

/-- Whether a document is an object, and no array. -/
def isObject : Json → Bool
  | .arr _ => true
  | .obj _ => true
  | _ => false

/-- `v === b` -/
def isBool (b : Bool) : Value → Bool
  | .json (.bool b') => b' == b
  | _ => false

/-- Throw the message unless the condition holds. -/
def demand (holds : Bool) (message : String) : Except Failure Unit :=
  if holds then .ok () else .error (thrown message)

/-- A text that is not empty. -/
def demandText (v : Value) (message : String) : Except Failure String :=
  match filledText v with
  | some text => .ok text
  | none => .error (thrown message)

/-- A member that has to be a text that says something. -/
def requiredString (lock : Json) (key : String) : Except Failure String :=
  demandText (lock.get key) ("Template lock is missing '" ++ key ++ "'.")

/-- The lock a document is, or its first fault. -/
def parseTemplateLock (candidate : Json) : Except Failure TemplateLock := do
  demand (isObject candidate) "Template lock must be a JSON object."
  let template ← requiredString candidate "template"
  let upstreamRepo ← requiredString candidate "upstreamRepo"
  let upstreamBranch ← requiredString candidate "upstreamBranch"
  let upstreamRef ← requiredString candidate "upstreamRef"
  let pinnedCommit ← requiredString candidate "pinnedCommit"
  if sha : isSha pinnedCommit = true then do
    let mirror := candidate.get "mirror"
    let approvedBranch ← demandText (mirror.chain "approvedBranch")
      "Template lock is missing mirror.approvedBranch."
    let status ← demandText (mirror.chain "status") "Template lock is missing mirror.status."
    demand (isBool true (mirror.chain "requiredForImmutableProofInstance"))
      "Template lock must require a mirror for immutable proof instances."
    let policy := candidate.get "policy"
    let updateCadence ← demandText (policy.chain "updateCadence")
      "Template lock is missing policy.updateCadence."
    demand (isBool false (policy.chain "autoApply"))
      "Template lock policy.autoApply must be false."
    demand (isBool true (policy.chain "requiresSmokeBeforeBump"))
      "Template lock policy.requiresSmokeBeforeBump must be true."
    .ok ⟨template, upstreamRepo, upstreamBranch, upstreamRef, pinnedCommit, approvedBranch, status,
      updateCadence, sha⟩
  else .error (thrown "Template lock pinnedCommit must be a 40-character lowercase Git SHA.")

/-- The members of `j` are those of the lock, and as the policy asks. -/
structure Describes (j : Json) (lock : TemplateLock) : Prop where
  template : j.get "template" = .json (.str lock.template)
  upstreamRepo : j.get "upstreamRepo" = .json (.str lock.upstreamRepo)
  upstreamBranch : j.get "upstreamBranch" = .json (.str lock.upstreamBranch)
  upstreamRef : j.get "upstreamRef" = .json (.str lock.upstreamRef)
  pinnedCommit : j.get "pinnedCommit" = .json (.str lock.pinnedCommit)
  approvedBranch : (j.get "mirror").chain "approvedBranch" = .json (.str lock.approvedBranch)
  status : (j.get "mirror").chain "status" = .json (.str lock.status)
  updateCadence : (j.get "policy").chain "updateCadence" = .json (.str lock.updateCadence)
  mirrored : (j.get "mirror").chain "requiredForImmutableProofInstance" = .json (.bool true)
  manual : (j.get "policy").chain "autoApply" = .json (.bool false)
  smoked : (j.get "policy").chain "requiresSmokeBeforeBump" = .json (.bool true)
  filled : ∀ text ∈ [lock.template, lock.upstreamRepo, lock.upstreamBranch, lock.upstreamRef,
    lock.approvedBranch, lock.status, lock.updateCadence], text ≠ ""

section Parse

variable {j : Json} {v : Value} {b holds : Bool} {message text key : String} {lock : TemplateLock}

theorem isBool_iff : isBool b v = true ↔ v = .json (.bool b) := by
  cases v with
  | json j => cases j <;> simp [isBool]
  | undefined | inherited => simp [isBool]

theorem demand_eq_ok {u : Unit} : demand holds message = .ok u ↔ holds = true := by
  cases holds <;> simp [demand]

theorem demandText_eq_ok : demandText v message = .ok text ↔ v = .json (.str text) ∧ text ≠ "" := by
  have hfilled : filledText v = some text ↔ v = .json (.str text) ∧ text ≠ "" := by
    cases v with
    | json j => cases j <;> simp [filledText, Value.asString, Option.filter_eq_some_iff]
    | undefined | inherited => simp [filledText, Value.asString]
  rw [← hfilled, demandText]
  cases filledText v <;> simp

theorem isObject_of_get {value : Json} (h : j.get key = .json value) : isObject j = true := by
  obtain ⟨fields, rfl⟩ := obj_of_get h
  rfl

/-- **What is taken for a lock** is described by the document, member by member. -/
theorem parseTemplateLock_eq_ok : parseTemplateLock j = .ok lock ↔ Describes j lock := by
  unfold parseTemplateLock requiredString
  simp only [bind_eq_ok, demandText_eq_ok, demand_eq_ok]
  constructor
  · rintro ⟨-, -, template, ⟨htemplate, h₁⟩, repo, ⟨hrepo, h₂⟩, branch, ⟨hbranch, h₃⟩, ref,
      ⟨href, h₄⟩, commit, ⟨hcommit, -⟩, hok⟩
    split at hok
    · simp only [bind_eq_ok, demandText_eq_ok, demand_eq_ok, isBool_iff] at hok
      obtain ⟨approved, ⟨happroved, h₅⟩, status, ⟨hstatus, h₆⟩, -, hmirrored, cadence,
        ⟨hcadence, h₇⟩, -, hmanual, -, hsmoked, hlock⟩ := hok
      cases hlock
      refine ⟨htemplate, hrepo, hbranch, href, hcommit, happroved, hstatus, hcadence, hmirrored,
        hmanual, hsmoked, ?_⟩
      simp [h₁, h₂, h₃, h₄, h₅, h₆, h₇]
    · cases hok
  · intro h
    have hne : ∀ {text}, text ∈ [lock.template, lock.upstreamRepo, lock.upstreamBranch,
        lock.upstreamRef, lock.approvedBranch, lock.status, lock.updateCadence] → text ≠ "" :=
      fun {text} hmem => h.filled text hmem
    have hcommit : lock.pinnedCommit ≠ "" := by
      intro hempty
      have hsha := lock.sha
      rw [hempty] at hsha
      exact absurd hsha (by decide)
    refine ⟨(), isObject_of_get h.template, _, ⟨h.template, hne (by simp)⟩, _,
      ⟨h.upstreamRepo, hne (by simp)⟩, _, ⟨h.upstreamBranch, hne (by simp)⟩, _,
      ⟨h.upstreamRef, hne (by simp)⟩, _, ⟨h.pinnedCommit, hcommit⟩, ?_⟩
    rw [dif_pos lock.sha]
    simp only [bind_eq_ok, demandText_eq_ok, demand_eq_ok, isBool_iff]
    exact ⟨_, ⟨h.approvedBranch, hne (by simp)⟩, _, ⟨h.status, hne (by simp)⟩, (), h.mirrored, _,
      ⟨h.updateCadence, hne (by simp)⟩, (), h.manual, (), h.smoked, rfl⟩

end Parse

/-! ### Upstream -/

/-- `process.env` -/
abbrev ProcessEnv := String → Option String

/-- The request for the commit of the lock's ref. -/
def commitRequest (env : ProcessEnv) (lock : TemplateLock) : FetchRequest where
  url := "https://api.github.com/repos/" ++ lock.upstreamRepo ++ "/commits/" ++
    encodeURIComponent lock.upstreamRef
  method := "GET"
  headers := ("accept", "application/vnd.github+json") ::
    ((nonEmpty (env "GITHUB_TOKEN")).map fun token => ("authorization", "Bearer " ++ token)).toList
  body := none

/-- What upstream has answered. -/
def commitIn (lock : TemplateLock) (reply : Except String Response) : Except Failure String := do
  let response ← settled reply
  demand response.ok ("GitHub commit lookup failed for " ++ lock.upstreamRepo ++ "@" ++
    lock.upstreamRef ++ ": " ++ toString response.status)
  let payload ← settled response.json
  let sha ← readMember payload "sha"
  match sha.asString with
  | some sha => .ok sha
  | none => .error (thrown "GitHub commit lookup did not return a sha.")

/-- The commit upstream's ref is at. -/
def fetchLatestCommit (env : ProcessEnv) (lock : TemplateLock) : Tool String :=
  Prog.ask (I := Platform) (.fetch (commitRequest env lock)) (commitIn lock)

/-- Whether the lock is current. -/
inductive TemplateStatus where
  | current
  | updateAvailable
deriving DecidableEq

/-- The text of each status. -/
def TemplateStatus.text : TemplateStatus → String
  | .current => "current"
  | .updateAvailable => "update_available"

/-- The lock against upstream. -/
structure TemplateUpdateStatus where
  status : TemplateStatus
  lock : TemplateLock
  latestCommit : String

/-- Compare the pinned commit with upstream's. -/
def checkTemplateUpdate (lock : TemplateLock) (fetchCommit : TemplateLock → Tool String) :
    Tool TemplateUpdateStatus := do
  let latestCommit ← fetchCommit lock
  Prog.ofExcept (demand (isSha latestCommit) "Upstream commit lookup returned an invalid Git SHA.")
  pure ⟨if latestCommit = lock.pinnedCommit then .current else .updateAvailable, lock, latestCommit⟩

/-- The line that is printed. -/
def formatTemplateUpdateStatus (result : TemplateUpdateStatus) : String :=
  "\n".intercalate (["Template: " ++ result.lock.template,
    "Upstream: " ++ result.lock.upstreamRepo ++ "@" ++ result.lock.upstreamBranch,
    "Pinned: " ++ result.lock.pinnedCommit,
    "Latest: " ++ result.latestCommit,
    "Status: " ++ result.status.text] ++
    if result.status = .updateAvailable then
      ["Action: run a Railway proof smoke before bumping template-lock.json or advancing the " ++
        "approved mirror branch."]
    else [])

/-! ### The check -/

/-- What a check prints, and how it exits. -/
structure Verdict where
  stdout : List String
  stderr : List String
  exitCode : ℕ

/-- The path of the lock: the first argument, or the default. -/
def lockPath (args : List String) : String :=
  args.head?.getD "deploy/openclaw-railway/template-lock.json"

/-- Read and parse the lock. -/
def readTemplateLock (rt : Runtime) (path : String) : Tool TemplateLock :=
  Prog.ask (I := Platform) (.readText path) fun reply => printed rt reply >>= parseTemplateLock

/-- `main` of `check-template-lock.ts`, with what catches its errors. -/
def checkTemplateLock (rt : Runtime) (env : ProcessEnv) (args : List String) : Tool Verdict :=
  (do
    let lock ← readTemplateLock rt (lockPath args)
    let result ← checkTemplateUpdate lock (fetchLatestCommit env)
    pure ⟨[formatTemplateUpdateStatus result], [],
      if result.status = .updateAvailable then 1 else 0⟩ : Tool Verdict).tryCatch
    fun e => pure ⟨[], [e.message], 1⟩

/-! ### What its exit code says -/

section Exit

variable {rt : Runtime} {env : ProcessEnv} {args : List String} {t : Trace}

/-- The document at the path of the lock is one, and is this lock. -/
def ReadsLock (rt : Runtime) (text : String) (lock : TemplateLock) : Prop :=
  ∃ j, rt.jsonParse text = .ok j ∧ Describes j lock

/-- Upstream is at this commit. -/
def ShowsCommit (response : Response) (sha : String) : Prop :=
  response.ok = true ∧ ∃ payload, response.json = .ok payload ∧ payload.get "sha" = .json (.str sha)

theorem ReadsLock.unique {text : String} {lock lock' : TemplateLock} (h : ReadsLock rt text lock)
    (h' : ReadsLock rt text lock') : lock' = lock := by
  obtain ⟨j, hparse, hlock⟩ := h
  obtain ⟨j', hparse', hlock'⟩ := h'
  cases hparse.symm.trans hparse'
  exact Except.ok.inj
    ((parseTemplateLock_eq_ok.mpr hlock').symm.trans (parseTemplateLock_eq_ok.mpr hlock))

theorem readsLock_iff {reply : Except String String} {lock : TemplateLock} :
    (printed rt reply >>= parseTemplateLock) = .ok lock ↔
      ∃ text, reply = .ok text ∧ ReadsLock rt text lock := by
  simp only [bind_eq_ok, printed_eq_ok, parseTemplateLock_eq_ok, ReadsLock]
  constructor
  · rintro ⟨j, ⟨text, rfl, hparse⟩, hlock⟩
    exact ⟨text, rfl, j, hparse, hlock⟩
  · rintro ⟨text, rfl, j, hparse, hlock⟩
    exact ⟨j, ⟨text, rfl, hparse⟩, hlock⟩

theorem commitIn_eq_ok {lock : TemplateLock} {reply : Except String Response} {sha : String} :
    commitIn lock reply = .ok sha ↔
      ∃ response, reply = .ok response ∧ ShowsCommit response sha := by
  have hsha : ∀ v : Value, (match v.asString with
      | some sha => (.ok sha : Except Failure String)
      | none => .error (thrown "GitHub commit lookup did not return a sha.")) = .ok sha ↔
      v = .json (.str sha) := by
    intro v
    cases v with
    | json j => cases j <;> simp [Value.asString]
    | undefined | inherited => simp [Value.asString]
  simp only [commitIn, bind_eq_ok, settled_eq_ok, demand_eq_ok, readMember_ok_iff, hsha,
    ShowsCommit]
  constructor
  · rintro ⟨response, rfl, -, hok, payload, hpayload, v, ⟨-, rfl⟩, hget⟩
    exact ⟨response, rfl, hok, payload, hpayload, hget⟩
  · rintro ⟨response, rfl, hok, payload, hpayload, hget⟩
    refine ⟨response, rfl, (), hok, payload, hpayload, _, ⟨?_, rfl⟩, hget⟩
    rintro rfl
    obtain ⟨fields, hobj⟩ := obj_of_get hget
    cases hobj

/-- What is printed, and the exit code. -/
def verdictOf (result : TemplateUpdateStatus) : Verdict :=
  ⟨[formatTemplateUpdateStatus result], [], if result.status = .updateAvailable then 1 else 0⟩

/-- What the check makes of upstream's commit. -/
def compared (lock : TemplateLock) (latestCommit : String) : Except Failure Verdict :=
  demand (isSha latestCommit) "Upstream commit lookup returned an invalid Git SHA." >>= fun _ =>
    .ok (verdictOf ⟨if latestCommit = lock.pinnedCommit then .current else .updateAvailable, lock,
      latestCommit⟩)

theorem checkTemplateLock_eq : checkTemplateLock rt env args =
    (readTemplateLock rt (lockPath args) >>= fun lock => Prog.ask (I := Platform)
      (.fetch (commitRequest env lock)) fun reply => commitIn lock reply >>= compared lock).tryCatch
      fun e => pure ⟨[], [e.message], 1⟩ := by
  have hlock : ∀ lock, (checkTemplateUpdate lock (fetchLatestCommit env) >>= fun result =>
      (pure (verdictOf result) : Tool Verdict)) = Prog.ask (I := Platform)
      (.fetch (commitRequest env lock)) fun reply => commitIn lock reply >>= compared lock := by
    intro lock
    have hcompared : (fun latestCommit =>
        (Prog.ofExcept (demand (isSha latestCommit)
          "Upstream commit lookup returned an invalid Git SHA.") >>= fun _ =>
        (pure (verdictOf ⟨if latestCommit = lock.pinnedCommit then .current else .updateAvailable,
          lock, latestCommit⟩) : Tool Verdict))) =
        fun latestCommit => Prog.ofExcept (compared lock latestCommit) := by
      funext latestCommit
      unfold compared
      cases isSha latestCommit <;> rfl
    rw [checkTemplateUpdate, bind_assoc]
    simp only [bind_assoc, pure_bind]
    rw [hcompared]
    exact Prog.ask_bind_ofExcept _ _
  have hread : (fun lock => checkTemplateUpdate lock (fetchLatestCommit env) >>= fun result =>
      (pure (verdictOf result) : Tool Verdict)) = fun lock => Prog.ask (I := Platform)
      (.fetch (commitRequest env lock)) fun reply => commitIn lock reply >>= compared lock :=
    funext hlock
  rw [← hread]
  rfl

/-- What an error comes to. -/
def failed (e : Failure) : Verdict := ⟨[], [e.message], 1⟩

theorem exitCode_cases (lock : TemplateLock) (reply : Except String Response) :
    (Prog.recovered failed (commitIn lock reply >>= compared lock)).exitCode = 0 ∧
        (∃ response, reply = .ok response ∧ ShowsCommit response lock.pinnedCommit) ∨
      (Prog.recovered failed (commitIn lock reply >>= compared lock)).exitCode = 1 ∧
        ¬ ∃ response, reply = .ok response ∧ ShowsCommit response lock.pinnedCommit := by
  cases hcommit : commitIn lock reply with
  | error e =>
      refine .inr ⟨rfl, fun hshows => ?_⟩
      rw [commitIn_eq_ok.mpr hshows] at hcommit
      cases hcommit
  | ok latestCommit =>
      show (Prog.recovered failed (compared lock latestCommit)).exitCode = 0 ∧ _ ∨
        (Prog.recovered failed (compared lock latestCommit)).exitCode = 1 ∧ _
      by_cases hsame : latestCommit = lock.pinnedCommit
      · subst hsame
        refine .inl ⟨?_, commitIn_eq_ok.mp hcommit⟩
        rw [compared, lock.sha, if_pos rfl]
        rfl
      · refine .inr ⟨?_, fun hshows => ?_⟩
        · rw [compared, if_neg hsame]
          cases isSha latestCommit <;> rfl
        · rw [commitIn_eq_ok.mpr hshows] at hcommit
          exact hsame (Except.ok.inj hcommit).symm

/-- **What the exit code says.**  The check exits 0 exactly when the document is a lock as the
policy asks and upstream has shown the pinned commit for its ref, and 1 otherwise; and it asks
upstream only about the ref of such a lock. -/
theorem checkTemplateLock_passes {o : Outcome Failure Verdict}
    (h : (checkTemplateLock rt env args).Exec t o) :
    ∃ verdict, o = .returned verdict ∧ (verdict.exitCode = 0 ∨ verdict.exitCode = 1) ∧
      (verdict.exitCode = 0 ↔ ∃ text lock response,
        t = [⟨.readText (lockPath args), .ok text⟩,
          ⟨.fetch (commitRequest env lock), .ok response⟩] ∧
        ReadsLock rt text lock ∧ ShowsCommit response lock.pinnedCommit) ∧
      ∀ request reply, ⟨.fetch request, reply⟩ ∈ t → ∃ text lock,
        t = [⟨.readText (lockPath args), .ok text⟩, ⟨.fetch request, reply⟩] ∧
        ReadsLock rt text lock ∧ request = commitRequest env lock := by
  rw [checkTemplateLock_eq] at h
  obtain ⟨x, rfl, y, hy, rfl⟩ :=
    ((Prog.yields_ask.bind fun lock => Prog.yields_ask).recover t o).mp h
  rcases hy with ⟨lock, t₁, t₂, rfl, ⟨reply, rfl, hread⟩, reply', rfl, rfl⟩ |
    ⟨e, ⟨reply, rfl, hread⟩, rfl⟩
  · obtain ⟨text, rfl, hlock⟩ := readsLock_iff.mp hread.symm
    refine ⟨_, rfl, ?_, ?_, ?_⟩
    · exact (exitCode_cases lock reply').imp And.left And.left
    · rcases exitCode_cases lock reply' with ⟨hzero, response, rfl, hshows⟩ | ⟨hone, hnot⟩
      · exact ⟨fun _ => ⟨text, lock, response, rfl, hlock, hshows⟩, fun _ => hzero⟩
      · constructor
        · intro hzero
          exact absurd (hzero.symm.trans hone) (by decide)
        · rintro ⟨text', lock', response, heq, hlock', hshows⟩
          cases (List.cons.inj heq).1
          obtain rfl := hlock.unique hlock'
          cases (List.cons.inj (List.cons.inj heq).2).1
          exact absurd ⟨response, rfl, hshows⟩ hnot
    · intro request reply hmem
      rcases List.mem_cons.mp hmem with heq | hmem
      · cases heq
      · cases List.mem_singleton.mp hmem
        exact ⟨text, lock, rfl, hlock, rfl⟩
  · refine ⟨_, rfl, .inr rfl, ?_, ?_⟩
    · constructor
      · intro hzero
        cases hzero
      · rintro ⟨text, lock, response, heq, -⟩
        cases heq
    · intro request reply' hmem
      cases List.mem_singleton.mp hmem

/-- A lock with every member the policy asks for. -/
def lockDocument : Json :=
  .obj [("template", .str "template"), ("upstreamRepo", .str "upstream/template"),
    ("upstreamBranch", .str "main"), ("upstreamRef", .str "refs/heads/main"),
    ("pinnedCommit", .str "b9e2467189d02dfe51a80173c40bad650a58eaf2"),
    ("mirror", .obj [("requiredForImmutableProofInstance", .bool true),
      ("approvedBranch", .str "approved"), ("status", .str "planned")]),
    ("policy", .obj [("updateCadence", .str "weekly"), ("autoApply", .bool false),
      ("requiresSmokeBeforeBump", .bool true)])]

/-- The text of that lock. -/
def lockText : String :=
  "\x7b\"template\":\"template\",\"upstreamRepo\":\"upstream/template\"," ++
    "\"upstreamBranch\":\"main\",\"upstreamRef\":\"refs/heads/main\"," ++
    "\"pinnedCommit\":\"b9e2467189d02dfe51a80173c40bad650a58eaf2\"," ++
    "\"mirror\":\x7b\"requiredForImmutableProofInstance\":true," ++
    "\"approvedBranch\":\"approved\",\"status\":\"planned\"\x7d," ++
    "\"policy\":\x7b\"updateCadence\":\"weekly\",\"autoApply\":false," ++
    "\"requiresSmokeBeforeBump\":true\x7d\x7d"

/-- The text of the document is parsed, and no other. -/
def lockRuntime : Runtime where
  jsonParse text := if text = lockText then .ok lockDocument else .error "Unexpected token"
  compileRegExp _ := none
  utf8Decode _ := ""
  hmacSha256Hex _ _ := ""

/-- Upstream is at the pinned commit. -/
def upstreamReplies (u : Unit) : (c : Call) → c.Reply × Unit
  | .readText _ => (.ok lockText, u)
  | .fetch _ =>
    (.ok ⟨200, .ok (.obj [("sha", .str "b9e2467189d02dfe51a80173c40bad650a58eaf2")])⟩, u)
  | c => (offline c, u)

/-- The check of that lock. -/
def currentCheck : Trace × Outcome Failure Verdict :=
  (checkTemplateLock lockRuntime (fun _ => none) []).play upstreamReplies ()

set_option maxRecDepth 8000 in
theorem currentCheck_returned :
    ∃ verdict, currentCheck.2 = .returned verdict ∧ verdict.exitCode = 0 :=
  ⟨_, rfl, rfl⟩

/-- The lock is current: the check exits 0, having asked about this lock's ref. -/
theorem currentCheck_passes :
    ∃ verdict, currentCheck.2 = .returned verdict ∧ verdict.exitCode = 0 ∧
      (∃ text lock response,
        currentCheck.1 = [⟨.readText (lockPath []), .ok text⟩,
          ⟨.fetch (commitRequest (fun _ => none) lock), .ok response⟩] ∧
        ReadsLock lockRuntime text lock ∧ ShowsCommit response lock.pinnedCommit) ∧
      ∀ request reply, ⟨.fetch request, reply⟩ ∈ currentCheck.1 → ∃ text lock,
        currentCheck.1 = [⟨.readText (lockPath []), .ok text⟩, ⟨.fetch request, reply⟩] ∧
        ReadsLock lockRuntime text lock ∧ request = commitRequest (fun _ => none) lock := by
  obtain ⟨verdict, hreturned, -, hcode, hasked⟩ :=
    checkTemplateLock_passes (Prog.play_exec (I := Platform) upstreamReplies
      (checkTemplateLock lockRuntime (fun _ => none) []) ())
  obtain ⟨verdict', hreturned', hzero⟩ := currentCheck_returned
  obtain rfl : verdict = verdict' := Outcome.returned.inj (hreturned.symm.trans hreturned')
  exact ⟨verdict, hreturned, hzero, hcode.mp hzero, hasked⟩

end Exit

end Railway
