/-
ControlPlane/Setup/Cleanup.lean

What a run of `runRegressionCheck` does after the mint, and what it reports.

The checks are three calls, each made only after the one before it gave what was
asked of it; `Checks` lists the ways they can go.  Whatever they find, the deletion
of the key comes after them, and what it is answered with is folded into the result
(`regressionResult`).  `Reported` says what the caller may rely on, in terms of the
calls of the run alone.
-/
import ControlPlane.Setup.Orphans

namespace Setup

open Js Railway Interaction

/-! ### What is attempted -/

section Attempt

variable {α β : Type} {p : Tool α} {t : Trace}

/-- How a program ends that returns or throws. -/
def ended (r : Except Failure α) : Outcome Failure α :=
  match r with
  | .ok a => .returned a
  | .error e => .threw e

theorem exec_ask_ended {c : Call} {g : c.Reply → Except Failure α} {r : Except Failure α} :
    (Prog.ask (I := Platform) c g).Exec t (ended r) ↔ ∃ reply, t = [⟨c, reply⟩] ∧ g reply = r := by
  rw [Prog.exec_ask]
  constructor
  · rintro ⟨reply, rfl, ⟨a, hg, ho⟩ | ⟨e, hg, ho⟩⟩
    · cases r with
      | ok a' =>
          cases ho
          exact ⟨reply, rfl, hg⟩
      | error e => cases ho
    · cases r with
      | ok a => cases ho
      | error e' =>
          cases ho
          exact ⟨reply, rfl, hg⟩
  · rintro ⟨reply, rfl, rfl⟩
    refine ⟨reply, rfl, ?_⟩
    cases hg : g reply with
    | ok a => exact .inl ⟨a, rfl, rfl⟩
    | error e => exact .inr ⟨e, rfl, rfl⟩

/-- What follows an attempt goes on with the way it ended. -/
theorem exec_attempt_bind {f : Except Failure α → Tool β} {o : Outcome Failure β}
    (hp : p.Ends (fun _ => True) fun _ => True) :
    (attempt p >>= f).Exec t o ↔
      ∃ r t₁ t₂, t = t₁ ++ t₂ ∧ p.Exec t₁ (ended r) ∧ (f r).Exec t₂ o := by
  constructor
  · intro h
    rcases Prog.exec_bind.mp h with ⟨r, t₁, t₂, rfl, hr, hf⟩ | ⟨e, hthrew, -⟩ | ⟨hcut, -⟩
    · refine ⟨r, t₁, t₂, rfl, ?_, hf⟩
      rcases Prog.exec_tryCatch.mp hr with ⟨a, ha, ho⟩ | ⟨e, ta, tb, rfl, he, rfl, ho⟩ | ⟨-, ho⟩
      · obtain ⟨o', hp', heq⟩ := Prog.exec_map.mp ha
        cases ho
        cases o' with
        | returned a' =>
            cases heq
            exact hp'
        | threw e => cases heq
        | diverged => cases heq
      · obtain ⟨o', hp', heq⟩ := Prog.exec_map.mp he
        cases ho
        rw [List.append_nil]
        cases o' with
        | returned a => cases heq
        | threw e' =>
            cases heq
            exact hp'
        | diverged => cases heq
      · cases ho
    · rcases (attempt_ends hp).exec hthrew with ⟨a, ho, -⟩ | ⟨e', -, hfalse⟩
      · cases ho
      · exact hfalse.elim
    · rcases (attempt_ends hp).exec hcut with ⟨a, ho, -⟩ | ⟨e', -, hfalse⟩
      · cases ho
      · exact hfalse.elim
  · rintro ⟨r, t₁, t₂, rfl, hr, hf⟩
    refine Prog.exec_bind.mpr (.inl ⟨r, t₁, t₂, rfl, ?_, hf⟩)
    cases r with
    | ok a =>
        exact Prog.exec_tryCatch.mpr (.inl ⟨.ok a, Prog.exec_map.mpr ⟨_, hr, rfl⟩, rfl⟩)
    | error e =>
        exact Prog.exec_tryCatch.mpr
          (.inr (.inl ⟨e, t₁, [], (List.append_nil t₁).symm, Prog.exec_map.mpr ⟨_, hr, rfl⟩, rfl, rfl⟩))

theorem exec_attempt_ask_bind {c : Call} {g : c.Reply → Except Failure α}
    {f : Except Failure α → Tool β} {o : Outcome Failure β} :
    (attempt (Prog.ask (I := Platform) c g) >>= f).Exec t o ↔
      ∃ reply t', t = ⟨c, reply⟩ :: t' ∧ (f (g reply)).Exec t' o := by
  rw [exec_attempt_bind ask_ends]
  constructor
  · rintro ⟨r, t₁, t₂, rfl, hr, hf⟩
    obtain ⟨reply, rfl, rfl⟩ := exec_ask_ended.mp hr
    exact ⟨reply, t₂, rfl, hf⟩
  · rintro ⟨reply, t', rfl, hf⟩
    exact ⟨g reply, [⟨c, reply⟩], t', rfl, exec_ask_ended.mpr ⟨reply, rfl, rfl⟩, hf⟩

end Attempt

/-! ### The calls of a check -/

/-- The write of the minted key. -/
abbrev writeCall (options : RegressionCheckOptions) (secretName key : String) : Call :=
  .run (variableSetArgs secretName options.service true) (some key)

/-- The question whether the instance is configured. -/
abbrev statusCall (options : RegressionCheckOptions) : Call :=
  .fetch (getRequest (createSetupApiClient options.instanceBaseUrl
    (some ⟨options.setupUsername, options.setupPassword⟩)) "/setup/api/status")

/-- The health check. -/
abbrev healthCall (options : RegressionCheckOptions) : Call :=
  .fetch (healthRequest options.instanceBaseUrl)

/-- The document in the reply to a status request. -/
abbrev statusIn (reply : Except String Response) : Except Failure Json :=
  settledJson "GET" "/setup/api/status" reply

section Check

variable {options : RegressionCheckOptions} {managementKey secretName key : String}
  {minted : MintedOpenRouterKey} {t : Trace} {v : Verification}

variable (options) in
/-- Only one of the two requests carries credentials. -/
theorem statusCall_ne_healthCall : statusCall options ≠ healthCall options := by
  intro h
  have hrequest := Call.fetch.inj h
  have hheaders := congrArg FetchRequest.headers hrequest
  cases hheaders

/-- The ways the checks can go, with what each finds. -/
inductive Checks (options : RegressionCheckOptions) (secretName key : String) :
    Trace → Verification → Prop
  | writeFailed (message : String) :
    Checks options secretName key [⟨writeCall options secretName key, .error message⟩]
      ⟨none, none, some message⟩
  | statusFailed (out : String) (reply : Except String Response) (e : Failure)
      (hstatus : statusIn reply = .error e) :
    Checks options secretName key
      [⟨writeCall options secretName key, .ok out⟩, ⟨statusCall options, reply⟩]
      ⟨none, none, some e.message⟩
  | healthFailed (out : String) (reply : Except String Response) (status : Json)
      (hstatus : statusIn reply = .ok status) (message : String) :
    Checks options secretName key
      [⟨writeCall options secretName key, .ok out⟩, ⟨statusCall options, reply⟩,
        ⟨healthCall options, .error message⟩]
      ⟨some (isConfigured status), none, some message⟩
  | answered (out : String) (reply : Except String Response) (status : Json)
      (hstatus : statusIn reply = .ok status) (response : Response) :
    Checks options secretName key
      [⟨writeCall options secretName key, .ok out⟩, ⟨statusCall options, reply⟩,
        ⟨healthCall options, .ok response⟩]
      (checked (isConfigured status) response.status)

/-- **The checks go one of these ways**, and are never cut off. -/
theorem verifyKey_exec {o : Outcome Failure Verification}
    (h : (verifyKey options secretName key).Exec t o) :
    ∃ v, o = .returned v ∧ Checks options secretName key t v := by
  have hends : (do
      writeRailwayVariable ⟨secretName, key, options.service, some true⟩
      (createSetupApiClient options.instanceBaseUrl
        (some ⟨options.setupUsername, options.setupPassword⟩)).getStatus).Ends
      (fun _ => True) fun _ => True := by
    rw [writeRailwayVariable_eq]
    exact ask_ends.bind fun _ _ => ask_ends
  obtain ⟨r, t₁, t₂, rfl, hr, hrest⟩ := (exec_attempt_bind hends).mp h
  rw [writeRailwayVariable_eq] at hr
  rcases Prog.exec_ask_bind.mp hr with ⟨written, t', _, rfl, hdone, hstatus⟩ |
    ⟨written, e, rfl, hdone, ho⟩
  · obtain ⟨reply, rfl, rfl⟩ := exec_ask_ended.mp hstatus
    cases written with
    | error message => cases hdone
    | ok out =>
        cases hread : settledJson "GET" "/setup/api/status" reply with
        | error e =>
            rw [hread] at hrest
            obtain ⟨rfl, rfl⟩ := hrest
            exact ⟨_, rfl, .statusFailed out reply e hread⟩
        | ok status =>
            rw [hread] at hrest
            obtain ⟨health, t', rfl, hend⟩ := exec_attempt_ask_bind.mp hrest
            cases health with
            | error message =>
                obtain ⟨rfl, rfl⟩ := hend
                exact ⟨_, rfl, .healthFailed out reply status hread message⟩
            | ok response =>
                obtain ⟨rfl, rfl⟩ := hend
                exact ⟨_, rfl, .answered out reply status hread response⟩
  · cases written with
    | ok out => cases hdone
    | error message =>
        cases hdone
        cases r with
        | ok status => cases ho
        | error e =>
            cases ho
            obtain ⟨rfl, rfl⟩ := hrest
            exact ⟨_, rfl, .writeFailed message⟩

end Check

/-! ### What the calls show -/

/-- The key was written to the service. -/
def WriteSucceeded (options : RegressionCheckOptions) (secretName key : String) (t : Trace) :
    Prop :=
  ∃ out : String, ⟨writeCall options secretName key, .ok out⟩ ∈ t

/-- The instance reported this status. -/
def StatusReported (options : RegressionCheckOptions) (t : Trace) (status : Json) : Prop :=
  ∃ reply : Except String Response,
    ⟨statusCall options, reply⟩ ∈ t ∧ statusIn reply = .ok status

/-- The health check was answered with this HTTP status. -/
def HealthReplied (options : RegressionCheckOptions) (t : Trace) (code : ℕ) : Prop :=
  ∃ response : Response, ⟨healthCall options, .ok response⟩ ∈ t ∧ response.status = code

/-- The verification failed with this message: one of the calls threw it, or the last
two did not show what is asked of them. -/
def VerificationFailed (options : RegressionCheckOptions) (secretName key : String) (t : Trace)
    (message : String) : Prop :=
  ⟨writeCall options secretName key, .error message⟩ ∈ t ∨
  (∃ (reply : Except String Response) (e : Failure),
    ⟨statusCall options, reply⟩ ∈ t ∧ statusIn reply = .error e ∧ message = e.message) ∨
  ⟨healthCall options, .error message⟩ ∈ t ∨
  ∃ status code, StatusReported options t status ∧ HealthReplied options t code ∧
    ¬(isConfigured status = true ∧ code = 200) ∧
    message = checksFailed (isConfigured status) code

section Check

variable {options : RegressionCheckOptions} {managementKey secretName key : String}
  {minted : MintedOpenRouterKey} {t : Trace} {v : Verification}

theorem passed_checked (statusConfigured : Bool) (code : ℕ) :
    (checked statusConfigured code).passed = true ↔ statusConfigured = true ∧ code = 200 := by
  simp [checked, Verification.passed]

/-- An error is kept exactly when the checks did not pass. -/
theorem Checks.error_isSome (h : Checks options secretName key t v) :
    v.error.isSome = true ↔ v.passed = false := by
  cases h with
  | writeFailed message => simp [Verification.passed]
  | statusFailed out reply e hstatus => simp [Verification.passed]
  | healthFailed out reply status hstatus message => simp [Verification.passed]
  | answered out reply status hstatus response =>
      rw [← Bool.not_eq_true, passed_checked]
      by_cases hfine : isConfigured status = true ∧ response.status = 200
      · simp [checked, hfine.1, hfine.2]
      · have hbad : (isConfigured status && response.status == 200) = false := by
          rw [← Bool.not_eq_true, Bool.and_eq_true, beq_iff_eq]
          exact hfine
        simp only [checked, hbad, Bool.false_eq_true, if_false, Option.isSome_some, true_iff]
        exact hfine

/-- The checks passed exactly when each of the three calls gave what is asked of it. -/
theorem Checks.passed_iff (h : Checks options secretName key t v) :
    v.passed = true ↔ WriteSucceeded options secretName key t ∧
      (∃ status, StatusReported options t status ∧ isConfigured status = true) ∧
      HealthReplied options t 200 := by
  have hother := statusCall_ne_healthCall options
  cases h with
  | writeFailed message => simp [Verification.passed, WriteSucceeded]
  | statusFailed out reply e hstatus =>
      simp [Verification.passed, HealthReplied, hother.symm]
  | healthFailed out reply status hstatus message =>
      simp [Verification.passed, HealthReplied, hother.symm]
  | answered out reply status hstatus response =>
      rw [passed_checked]
      simp [WriteSucceeded, StatusReported, HealthReplied, hother, hother.symm, hstatus]

/-- Why the verification failed is what is kept as its error. -/
theorem Checks.failed_iff {message : String} (h : Checks options secretName key t v) :
    VerificationFailed options secretName key t message ↔ v.error = some message := by
  rw [@eq_comm _ v.error]
  have hother := statusCall_ne_healthCall options
  cases h with
  | writeFailed text =>
      simp [VerificationFailed, StatusReported, HealthReplied]
  | statusFailed out reply e hstatus =>
      simp [VerificationFailed, StatusReported, HealthReplied, hother.symm, hstatus]
  | healthFailed out reply status hstatus text =>
      simp [VerificationFailed, StatusReported, HealthReplied, hother, hother.symm, hstatus]
  | answered out reply status hstatus response =>
      simp [VerificationFailed, StatusReported, HealthReplied, hother, hother.symm, hstatus, checked]

/-- The calls that delete no key. -/
def DeletesNothing (c : Call) : Prop := ∀ request, c = .fetch request → request.method ≠ "DELETE"

theorem Checks.deletesNothing (h : Checks options secretName key t v) :
    ∀ e ∈ t, DeletesNothing e.call := by
  have hwrite : DeletesNothing (writeCall options secretName key) := fun _ h => (nomatch h)
  have hget : ∀ request : FetchRequest, request.method = "GET" →
      DeletesNothing (.fetch request) := by
    rintro request hmethod _ ⟨⟩
    rw [hmethod]
    decide
  have hstatus : DeletesNothing (statusCall options) := hget _ rfl
  have hhealth : DeletesNothing (healthCall options) := hget _ rfl
  cases h <;> simp [hwrite, hstatus, hhealth]

end Check

/-! ### The whole check -/

/-- What the caller is told after the calls `checks` and a deletion answered with
`reply`. -/
structure Reported (options : RegressionCheckOptions) (secretName : String)
    (minted : MintedOpenRouterKey) (checks : Trace) (reply : Except String Response)
    (result : RegressionCheckResult) : Prop where
  mintedKeyHash : result.mintedKeyHash = minted.hash
  keyDeleted : result.keyDeleted = true ↔ deletedKey reply = .ok ()
  passed : result.passed = true ↔
    WriteSucceeded options secretName minted.key checks ∧
    (∃ status, StatusReported options checks status ∧ isConfigured status = true) ∧
    HealthReplied options checks 200 ∧ deletedKey reply = .ok ()
  error : result.error.isSome = true ↔ result.passed = false
  deletionError : ∀ e, deletedKey reply = .error e →
    ∃ text, result.error = some text ∧ e.message.toList <:+: text.toList
  verificationError : ∀ message, VerificationFailed options secretName minted.key checks message →
    ∃ text, result.error = some text ∧ message.toList <:+: text.toList

section Check

variable {options : RegressionCheckOptions} {managementKey secretName : String}
  {minted : MintedOpenRouterKey} {t : Trace} {v : Verification}

/-- What is found and what the deletion is answered with make a result that tells
both. -/
theorem Checks.reported (h : Checks options secretName minted.key t v)
    (reply : Except String Response) :
    Reported options secretName minted t reply
      (regressionResult v minted.hash (deletedKey reply)) := by
  cases hdeleted : deletedKey reply with
  | ok u =>
      refine ⟨rfl, ?_, ?_, h.error_isSome, ?_, ?_⟩
      · exact ⟨fun _ => hdeleted, fun _ => rfl⟩
      · show v.passed = true ↔ _
        rw [h.passed_iff]
        simp only [hdeleted, and_true]
      · intro e he
        rw [hdeleted] at he
        cases he
      · intro message hfailed
        exact ⟨message, h.failed_iff.mp hfailed, List.infix_rfl⟩
  | error e =>
      have hnot : deletedKey reply ≠ .ok () := by
        rw [hdeleted]
        exact fun h => (nomatch h)
      refine ⟨rfl, ?_, ?_, ?_, ?_, ?_⟩
      · exact ⟨fun hfalse => (nomatch hfalse), fun hok => absurd hok hnot⟩
      · exact ⟨fun hfalse => (nomatch hfalse), fun hok => absurd hok.2.2.2 hnot⟩
      · exact ⟨fun _ => rfl, fun _ => rfl⟩
      · intro e' he'
        rw [hdeleted] at he'
        cases he'
        cases hv : v.error with
        | none =>
            refine ⟨"key deletion failed: " ++ e.message, by simp [regressionResult, hv], ?_⟩
            rw [String.toList_append]
            exact (List.suffix_append _ _).isInfix
        | some error =>
            refine ⟨error ++ "; additionally, key deletion failed: " ++ e.message,
              by simp [regressionResult, hv], ?_⟩
            rw [String.toList_append]
            exact (List.suffix_append _ _).isInfix
      · intro message hfailed
        have hv := h.failed_iff.mp hfailed
        refine ⟨message ++ "; additionally, key deletion failed: " ++ e.message,
          by simp [regressionResult, hv], ?_⟩
        rw [String.toList_append, String.toList_append, List.append_assoc]
        exact (List.prefix_append _ _).isInfix

/-- With a key minted the run is the checks, then the deletion of the key. -/
theorem checkMinted_exec {o : Outcome Failure RegressionCheckResult}
    (h : (checkMinted options managementKey secretName minted).Exec t o) :
    ∃ checks reply v, t = checks ++ [⟨.fetch (deleteRequest minted.hash managementKey), reply⟩] ∧
      Checks options secretName minted.key checks v ∧
      o = .returned (regressionResult v minted.hash (deletedKey reply)) := by
  rcases Prog.exec_bind.mp h with ⟨v, t₁, t₂, rfl, hverify, hrest⟩ | ⟨e, hverify, -⟩ | ⟨hverify, -⟩
  · obtain ⟨v', ho, hchecks⟩ := verifyKey_exec hverify
    cases ho
    obtain ⟨reply, t', rfl, rfl, rfl⟩ := exec_attempt_ask_bind.mp hrest
    exact ⟨t₁, reply, v, rfl, hchecks, rfl⟩
  · obtain ⟨v', ho, -⟩ := verifyKey_exec hverify
    cases ho
  · obtain ⟨v', ho, -⟩ := verifyKey_exec hverify
    cases ho

/-- **The regression check always cleans up and always reports.**  Once a key is
minted the run returns; its last call deletes the key, no other call deletes anything,
and the result tells what the calls showed.  A run that throws ends at the mint or
before it, and has run no command. -/
theorem runRegressionCheck_cleans_up [Zod] {o : Outcome Failure RegressionCheckResult}
    (h : (runRegressionCheck options managementKey).Exec t o) :
    (∃ target mintReply minted checks reply result,
      parseClientProfile options.profile >>= regressionTarget = .ok target ∧
      mintedKey mintReply = .ok minted ∧
      t = ⟨.fetch (mintRequest ⟨target.secretName, target.keyProvisioning.spendLimitUsd,
          target.keyProvisioning.limitReset⟩ managementKey), mintReply⟩ :: checks ++
        [⟨.fetch (deleteRequest minted.hash managementKey), reply⟩] ∧
      (∀ e ∈ checks, DeletesNothing e.call) ∧
      o = .returned result ∧
      Reported options target.secretName minted checks reply result) ∨
    ∃ e, o = .threw e ∧ (∀ event ∈ t, NoCommand event.call) ∧
      ((parseClientProfile options.profile >>= regressionTarget = .error e ∧ t = []) ∨
        ∃ target mintReply,
          parseClientProfile options.profile >>= regressionTarget = .ok target ∧
          mintedKey mintReply = .error e ∧
          t = [⟨.fetch (mintRequest ⟨target.secretName, target.keyProvisioning.spendLimitUsd,
            target.keyProvisioning.limitReset⟩ managementKey), mintReply⟩]) := by
  rcases Prog.exec_ofExcept_bind.mp h with ⟨target, htarget, hrun⟩ | ⟨e, htarget, rfl, rfl⟩
  · rcases Prog.exec_ask_bind.mp hrun with ⟨mintReply, t', minted, rfl, hminted, hcheck⟩ |
      ⟨mintReply, e, rfl, hminted, rfl⟩
    · obtain ⟨checks, reply, v, rfl, hchecks, rfl⟩ := checkMinted_exec hcheck
      exact .inl ⟨target, mintReply, minted, checks, reply, _, htarget, hminted, rfl,
        hchecks.deletesNothing, rfl, hchecks.reported reply⟩
    · refine .inr ⟨e, rfl, ?_, .inr ⟨target, mintReply, htarget, hminted, rfl⟩⟩
      intro event hevent args stdin hcall
      rw [List.mem_singleton.mp hevent] at hcall
      cases hcall
  · exact .inr ⟨e, rfl, fun event hevent => (nomatch hevent), .inl ⟨htarget, rfl⟩⟩

end Check

/-! ### A check where everything fails after the mint -/

/-- A check of a client with a provider. -/
def checkOptions : RegressionCheckOptions where
  service := "client"
  instanceBaseUrl := "https://client.example"
  profile := .obj [("attachments", .obj [("modelProviders", .arr [mintedProvider])])]
  setupUsername := "admin"
  setupPassword := "pw"

/-- Keys are minted, and nothing else is reached. -/
def mintOnly (s : Unit) : (c : Call) → c.Reply × Unit
  | .fetch request =>
    (if request.url = OPENROUTER_KEYS_URL then .ok mintResponse else .error "unreachable", s)
  | c => (offline c, s)

/-- The check where nothing but the mint is reached. -/
def unreachableCheck : Trace × Outcome Failure RegressionCheckResult :=
  (runRegressionCheck checkOptions "sk-or-management").play mintOnly ()

set_option maxRecDepth 2000 in
theorem unreachableCheck_returned :
    unreachableCheck.2 = .returned ⟨false, none, none,
      some "unreachable; additionally, key deletion failed: unreachable", "hash", false⟩ := rfl

/-- The check of an instance that cannot be reached tells of both failures. -/
theorem unreachableCheck_reported :
    ∃ secretName minted checks reply result, unreachableCheck.2 = .returned result ∧
      Reported checkOptions secretName minted checks reply result := by
  have hexec := Prog.play_exec (I := Platform) mintOnly
    (runRegressionCheck checkOptions "sk-or-management") ()
  rcases runRegressionCheck_cleans_up hexec with
    ⟨target, _, minted, checks, reply, result, -, -, -, -, ho, hreported⟩ | ⟨e, ho, -⟩
  · exact ⟨target.secretName, minted, checks, reply, result, ho, hreported⟩
  · have hreturned := unreachableCheck_returned
    rw [unreachableCheck, ho] at hreturned
    cases hreturned

end Setup
