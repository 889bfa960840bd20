/-
ControlPlane/Setup/CycleSessions.lean

Sessions of the onboarding command line: any commands, one after another, however they are
answered.

The keys that are known to live after a session are those in its books, and keys that a
bootstrap has minted which failed afterwards (`session_accounts_for_keys`).  Every key in the
books was printed as one that lives.  Where no bootstrap has failed, running the deletions
that were printed leaves no key (`session_cleared`).
-/
import ControlPlane.Setup.KeyBooks

namespace Setup

open Js Railway Interaction Cli

/-! ### Sessions -/

/-- A command with the calls it has made and the way it ended. -/
structure Invocation where
  env : Env
  args : List String
  fuel : ℕ
  trace : Trace
  outcome : Outcome Failure Report

/-- The trace and the outcome are those of a run of the command. -/
def Invocation.Runs [Zod] (rt : Runtime) (i : Invocation) : Prop :=
  (onboardingCycle rt i.fuel i.env i.args).Exec i.trace i.outcome

/-- What the command has reported, if it returned. -/
def Invocation.report (i : Invocation) : Option Report :=
  match i.outcome with
  | .returned report => some report
  | _ => none

/-- What an invocation makes of the keys that were known; without a report, nothing. -/
def Invocation.books (keys : List String) (i : Invocation) : List String :=
  match i.report with
  | some report => report.books keys
  | none => keys

/-- A bootstrap that has not returned. -/
def Invocation.FailedBootstrap (i : Invocation) : Prop :=
  i.args.head? = some "bootstrap" ∧ i.report = none

/-- The calls of a session. -/
def callsOf (session : List Invocation) : Trace := session.flatMap Invocation.trace

/-- The keys that live by the reports of a session. -/
def booksOf (session : List Invocation) : List String := session.foldl Invocation.books []

/-- The report says that the key is deleted. -/
def Report.Deletes (hash : String) : Report → Prop
  | .bootstrap _ => False
  | .regressionCheck r => r.keyDeleted = true ∧ hash = r.mintedKeyHash
  | .deleteKey deleted => hash = deleted

/-- The report prints the key as one that lives: with the command that deletes it, or in the
document of a check that has failed. -/
def Report.PrintsLive (hash : String) (report : Report) : Prop :=
  deleteLine hash ∈ report.stdout ∨
    report.exitCode = 1 ∧ ∃ text fields, report.stdout = [text] ∧
      readDocument text = .ok (.obj fields) ∧
      fields.lookup "mintedKeyHash" = some (.str hash) ∧
      fields.lookup "keyDeleted" = some (.bool false)

section Reports

variable {hash : String} {keys : List String} {report : Report}

theorem mem_books : hash ∈ report.books keys ↔
    hash ∈ report.books [] ∨ hash ∈ keys ∧ ¬ report.Deletes hash := by
  cases report with
  | bootstrap r => simp [Report.books, Report.Deletes]
  | regressionCheck r =>
      by_cases hdeleted : r.keyDeleted = true
      · simp [Report.books, Report.Deletes, hdeleted]
      · simp [Report.books, Report.Deletes, hdeleted]
  | deleteKey deleted => simp [Report.books, Report.Deletes]

theorem numeric_ofNat (n : ℕ) : (Number.ofNat n).Numeric := by
  have htext : (Number.ofNat n).text.toList = Nat.toDigits 10 n := by
    show (toString n).toList = _
    rw [Nat.toString_eq_repr, Nat.toList_repr]
  rw [Number.Numeric, htext]
  refine ⟨Nat.toDigits_ne_nil, List.all_eq_true.mpr fun c hc => ?_⟩
  rw [isNumeric, Nat.isDigit_of_mem_toDigits (by decide) (by decide) hc, Bool.true_or]

/-- The members of the document are texts, truth values and statuses. -/
theorem RegressionCheckResult.members (r : RegressionCheckResult) : ∃ fields, r.json = .obj fields ∧
    (fields.map Prod.fst).Nodup ∧ ∀ p ∈ fields, (∃ b, p.2 = .bool b) ∨ (∃ text, p.2 = .str text) ∨
      ∃ status, p.2 = .num (.ofNat status) := by
  obtain ⟨passed, statusConfigured, healthzStatus, error, mintedKeyHash, keyDeleted⟩ := r
  refine ⟨_, rfl, ?_, ?_⟩
  · cases statusConfigured <;> cases healthzStatus <;> cases error <;> simp
  · cases statusConfigured <;> cases healthzStatus <;> cases error <;> simp

theorem RegressionCheckResult.readable (r : RegressionCheckResult) : Railway.Readable r.json := by
  obtain ⟨fields, hjson, hnames, hmembers⟩ := r.members
  rw [hjson]
  constructor
  · refine .obj hnames fun p hp => ?_
    rcases hmembers p hp with ⟨b, hb⟩ | ⟨text, htext⟩ | ⟨status, hstatus⟩
    · rw [hb]
      exact .bool
    · rw [htext]
      exact .str
    · rw [hstatus]
      exact .num
  · intro n hn
    cases hn with
    | member hp hn =>
        rcases hmembers _ hp with ⟨b, hb⟩ | ⟨text, htext⟩ | ⟨status, hstatus⟩
        · rw [hb] at hn
          cases hn
        · rw [htext] at hn
          cases hn
        · rw [hstatus] at hn
          cases hn
          exact numeric_ofNat status

/-- A report that adds a key prints it. -/
theorem Report.printsLive (hcoherent : report.Coherent) (h : hash ∈ report.books []) :
    report.PrintsLive hash := by
  cases report with
  | bootstrap r =>
      refine .inl (mem_stdout_bootstrap.mpr ?_)
      rw [Report.books, List.append_nil, Option.mem_toList] at h
      exact h
  | regressionCheck r =>
      by_cases hdeleted : r.keyDeleted = true
      · simp [Report.books, hdeleted] at h
      · have hhash : hash = r.mintedKeyHash := by simpa [Report.books, hdeleted] using h
        subst hhash
        refine .inr ⟨?_, stringifyIndented 0 r.json, _, rfl, readDocument_stringifyIndented ?_, rfl,
          ?_⟩
        · exact if_neg fun hpassed => hdeleted (hcoherent hpassed)
        · exact r.readable
        · rw [Bool.not_eq_true] at hdeleted
          rw [← hdeleted]
          rfl
  | deleteKey deleted => cases h

end Reports

/-! ### One invocation -/

section Invocations

variable {rt : Runtime} {i : Invocation} {keys : List String} {hash : String} {report : Report}

theorem Invocation.outcome_of_report (h : i.report = some report) :
    i.outcome = .returned report := by
  unfold Invocation.report at h
  split at h
  · rename_i ho
    rw [ho, Option.some.inj h]
  · cases h

theorem Invocation.books_report (h : i.report = some report) :
    i.books keys = report.books keys := by
  rw [Invocation.books, h]

theorem Invocation.books_none (h : i.report = none) : i.books keys = keys := by
  rw [Invocation.books, h]

/-- An invocation with a report leaves known what the report says. -/
theorem Invocation.Runs.reported [Zod] (keys : List String) (hrun : i.Runs rt)
    (h : i.report = some report) :
    i.trace.foldl keysAfter keys = i.books keys ∧ report.Coherent := by
  rw [Invocation.Runs, i.outcome_of_report h] at hrun
  have hbooks := onboardingCycle_books keys _ _ _ rfl hrun (keyAccount_run.mpr rfl)
  rw [i.books_report h]
  exact hbooks.1 report rfl

/-- One without a report leaves known what was, and a key if it is a bootstrap. -/
theorem Invocation.Runs.unreported [Zod] (hrun : i.Runs rt) (h : i.report = none) :
    i.trace.foldl keysAfter keys = i.books keys ∨
      i.FailedBootstrap ∧ AtMostOneMore keys (i.trace.foldl keysAfter keys) := by
  have hbooks := onboardingCycle_books keys _ _ _ rfl hrun (keyAccount_run.mpr rfl)
  have hother : ∀ report, i.outcome ≠ .returned report := by
    intro report ho
    rw [Invocation.report, ho] at h
    cases h
  rw [i.books_none h]
  rcases hbooks.2 hother with hsame | ⟨hbootstrap, hmore⟩
  · exact .inl hsame
  · exact .inr ⟨⟨hbootstrap, h⟩, hmore⟩

/-- The two accounts agree on every invocation but a failed bootstrap. -/
theorem Invocation.Runs.agrees [Zod] (hrun : i.Runs rt) (h : ¬ i.FailedBootstrap) :
    i.trace.foldl keysAfter keys = i.books keys := by
  cases hreport : i.report with
  | some report => exact (hrun.reported keys hreport).1
  | none => exact (hrun.unreported hreport).resolve_right fun hfailed => h hfailed.1

/-- A failed bootstrap has one key more at most, and has minted it. -/
theorem Invocation.Runs.failed [Zod] (keys : List String) (hrun : i.Runs rt)
    (h : i.FailedBootstrap) :
    keys ⊆ i.trace.foldl keysAfter keys ∧
      ∀ hash ∈ i.trace.foldl keysAfter keys, hash ∈ keys ∨ hash ∈ knownKeys i.trace := by
  have hleft : i.trace.foldl keysAfter keys = i.books keys ∨
      i.FailedBootstrap ∧ AtMostOneMore keys (i.trace.foldl keysAfter keys) := hrun.unreported h.2
  constructor
  · rcases hleft with hsame | ⟨-, hsame | ⟨hash, hmore⟩⟩
    · rw [hsame, i.books_none h.2]
      exact List.Subset.refl _
    · rw [hsame]
      exact List.Subset.refl _
    · rw [hmore]
      exact List.subset_cons_self _ _
  · intro hash hhash
    obtain ⟨rest, hrest, heq⟩ : ∃ rest, rest ⊆ keys ∧
        i.trace.foldl keysAfter ([] ++ keys) = i.trace.foldl keysAfter [] ++ rest :=
      foldl_keysAfter_append keys
    rw [List.nil_append] at heq
    rw [heq] at hhash
    rcases List.mem_append.mp hhash with hminted | hkept
    · exact .inr hminted
    · exact .inl (hrest hkept)

end Invocations

/-! ### Sessions -/

section Sessions

variable {rt : Runtime} {session : List Invocation} {keys books : List String}

/-- Over one invocation the books stay part of what is known, and the rest of it is lost. -/
theorem accounts_step [Zod] {i : Invocation} {lost : String → Prop} (hrun : i.Runs rt)
    (hlost : i.FailedBootstrap → ∀ hash ∈ knownKeys i.trace, lost hash) (hbooks : books ⊆ keys)
    (hkeys : ∀ hash ∈ keys, hash ∈ books ∨ lost hash) :
    i.books books ⊆ i.trace.foldl keysAfter keys ∧
      ∀ hash ∈ i.trace.foldl keysAfter keys, hash ∈ i.books books ∨ lost hash := by
  cases hreport : i.report with
  | some report =>
      rw [(hrun.reported keys hreport).1, i.books_report hreport, i.books_report hreport]
      constructor
      · intro hash hhash
        rcases mem_books.mp hhash with hadded | ⟨hkept, hlive⟩
        · exact mem_books.mpr (.inl hadded)
        · exact mem_books.mpr (.inr ⟨hbooks hkept, hlive⟩)
      · intro hash hhash
        rcases mem_books.mp hhash with hadded | ⟨hkept, hlive⟩
        · exact .inl (mem_books.mpr (.inl hadded))
        · rcases hkeys hash hkept with hbook | hgone
          · exact .inl (mem_books.mpr (.inr ⟨hbook, hlive⟩))
          · exact .inr hgone
  | none =>
      rw [i.books_none hreport]
      by_cases hfailed : i.FailedBootstrap
      · obtain ⟨hsub, hnew⟩ := hrun.failed keys hfailed
        refine ⟨List.Subset.trans hbooks hsub, fun hash hhash => ?_⟩
        rcases hnew hash hhash with hkept | hminted
        · exact hkeys hash hkept
        · exact .inr (hlost hfailed hash hminted)
      · rw [hrun.agrees hfailed, i.books_none hreport]
        exact ⟨hbooks, hkeys⟩

theorem accounts_run [Zod] {lost : String → Prop} (hruns : ∀ i ∈ session, i.Runs rt)
    (hlost : ∀ i ∈ session, i.FailedBootstrap → ∀ hash ∈ knownKeys i.trace, lost hash)
    (hbooks : books ⊆ keys) (hkeys : ∀ hash ∈ keys, hash ∈ books ∨ lost hash) :
    session.foldl Invocation.books books ⊆ (callsOf session).foldl keysAfter keys ∧
      ∀ hash ∈ (callsOf session).foldl keysAfter keys,
        hash ∈ session.foldl Invocation.books books ∨ lost hash := by
  induction session generalizing keys books with
  | nil => exact ⟨hbooks, hkeys⟩
  | cons i session ih =>
      obtain ⟨hbooks', hkeys'⟩ :=
        accounts_step (hruns i (.head _)) (hlost i (.head _)) hbooks hkeys
      rw [callsOf, List.flatMap_cons, List.foldl_append, List.foldl_cons]
      exact ih (fun j hj => hruns j (.tail _ hj)) (fun j hj => hlost j (.tail _ hj)) hbooks' hkeys'

theorem agrees_run [Zod] (hruns : ∀ i ∈ session, i.Runs rt)
    (hfailed : ∀ i ∈ session, ¬ i.FailedBootstrap) :
    (callsOf session).foldl keysAfter keys = session.foldl Invocation.books keys := by
  induction session generalizing keys with
  | nil => rfl
  | cons i session ih =>
      rw [callsOf, List.flatMap_cons, List.foldl_append, List.foldl_cons,
        (hruns i (.head _)).agrees (hfailed i (.head _))]
      exact ih (fun j hj => hruns j (.tail _ hj)) fun j hj => hfailed j (.tail _ hj)

/-- A key in the books was there before, or was added by a report. -/
theorem mem_foldl_books {hash : String} (h : hash ∈ session.foldl Invocation.books books) :
    hash ∈ books ∨ ∃ i ∈ session, ∃ report, i.report = some report ∧ hash ∈ report.books [] := by
  induction session generalizing books with
  | nil => exact .inl h
  | cons i session ih =>
      rcases ih h with hnow | ⟨j, hj, hlater⟩
      · cases hreport : i.report with
        | some report =>
            rw [i.books_report hreport] at hnow
            rcases mem_books.mp hnow with hadded | ⟨hkept, -⟩
            · exact .inr ⟨i, .head _, report, hreport, hadded⟩
            · exact .inl hkept
        | none =>
            rw [i.books_none hreport] at hnow
            exact .inl hnow
      · exact .inr ⟨j, .tail _ hj, hlater⟩

/-- **A session accounts for its keys.**  What its reports say lives is known to live; what
else is known to live was minted by a bootstrap that failed; without one, the two accounts are
the same.  And every key in the books was printed as one that lives. -/
theorem session_accounts_for_keys [Zod] (hruns : ∀ i ∈ session, i.Runs rt) :
    booksOf session ⊆ knownKeys (callsOf session) ∧
    (∀ hash ∈ knownKeys (callsOf session), hash ∈ booksOf session ∨
      ∃ i ∈ session, i.FailedBootstrap ∧ hash ∈ knownKeys i.trace) ∧
    ((∀ i ∈ session, ¬ i.FailedBootstrap) → knownKeys (callsOf session) = booksOf session) ∧
    ∀ hash ∈ booksOf session, ∃ i ∈ session, ∃ report, i.report = some report ∧
      report.PrintsLive hash := by
  have hlost : ∀ i ∈ session, i.FailedBootstrap → ∀ hash ∈ knownKeys i.trace,
      ∃ i ∈ session, i.FailedBootstrap ∧ hash ∈ knownKeys i.trace :=
    fun i hi hfailed hash hhash => ⟨i, hi, hfailed, hhash⟩
  obtain ⟨hbooks, hkeys⟩ := accounts_run hruns hlost (List.Subset.refl [])
    fun hash hhash => (nomatch hhash)
  refine ⟨hbooks, hkeys, fun hfailed => agrees_run hruns hfailed, ?_⟩
  intro hash hhash
  rcases mem_foldl_books hhash with hnone | ⟨i, hi, report, hreport, hadded⟩
  · cases hnone
  · have hcoherent := ((hruns i hi).reported [] hreport).2
    exact ⟨i, hi, report, hreport, report.printsLive hcoherent hadded⟩

/-! ### Cleaning up -/

/-- What a deletion that comes to its end reports. -/
theorem deleteArgs_report [Zod] {fuel : ℕ} {env : Env} {hash : String} {t : Trace} {report : Report}
    (h : (onboardingCycle rt fuel env (deleteArgs hash)).Exec t (.returned report)) :
    report = .deleteKey hash := by
  have hrun : (deleteKeyCommand env ["--hash", hash]).Exec t (.returned report) := h
  rcases Prog.exec_ofExcept_bind.mp hrun with ⟨options, hoptions, hrest⟩ | ⟨e, -, -, ho⟩
  · have hhash : options.hash = hash := by
      have hscan : scan deleteKeyFlag unknownArgument ["--hash", hash] none =
          (requireValue "--hash" (some hash)).map some := by
        rw [scan_taking rfl]
        cases requireValue "--hash" (some hash) with
        | ok value => rfl
        | error message => rfl
      rw [parseDeleteKeyArgs, hscan] at hoptions
      cases hvalue : requireValue "--hash" (some hash) with
      | error message =>
          rw [hvalue] at hoptions
          cases hoptions
      | ok value =>
          obtain ⟨rfl, hne, -⟩ := requireValue_eq_ok.mp hvalue
          rw [hvalue] at hoptions
          change ((required (some hash) "Missing required --hash" >>= fun hash =>
            (.ok ⟨hash⟩ : Except String DeleteKeyArgs)).mapError cliFailure) = _ at hoptions
          rw [required, if_neg hne] at hoptions
          exact (congrArg DeleteKeyArgs.hash (Except.ok.inj hoptions)).symm
    obtain ⟨_, t₁, t₂, -, -, hrest⟩ := Prog.exec_bind_returned.mp hrest
    obtain ⟨_, t₃, t₄, -, -, hrest⟩ := Prog.exec_bind_returned.mp hrest
    cases hrest.2
    rw [hhash]
  · cases ho

theorem mem_foldl_deletions {hash : String}
    (hdeletions : ∀ i ∈ session, ∀ report, i.report = some report →
      ∃ deleted, report = .deleteKey deleted)
    (h : hash ∈ session.foldl Invocation.books books) : hash ∈ books ∧
      ∀ i ∈ session, i.report ≠ some (.deleteKey hash) := by
  induction session generalizing books with
  | nil => exact ⟨h, fun i hi => (nomatch hi)⟩
  | cons i session ih =>
      obtain ⟨hnow, hlater⟩ := ih (fun j hj => hdeletions j (.tail _ hj)) h
      cases hreport : i.report with
      | none =>
          rw [i.books_none hreport] at hnow
          refine ⟨hnow, fun j hj => ?_⟩
          rcases List.mem_cons.mp hj with rfl | hj
          · rw [hreport]
            exact fun heq => (nomatch heq)
          · exact hlater j hj
      | some report =>
          obtain ⟨deleted, rfl⟩ := hdeletions i (.head _) report hreport
          rw [i.books_report hreport] at hnow
          obtain ⟨hkept, hother⟩ := List.mem_filter.mp hnow
          refine ⟨hkept, fun j hj => ?_⟩
          rcases List.mem_cons.mp hj with rfl | hj
          · rw [hreport]
            rintro ⟨⟩
            simp at hother
          · exact hlater j hj

/-- **Running what was printed leaves no key.**  When no bootstrap of a session has failed, and
every key in its books is deleted by a command that comes to its end, no key is known to
live. -/
theorem session_cleared [Zod] {cleanup : List Invocation}
    (hruns : ∀ i ∈ session ++ cleanup, i.Runs rt)
    (hfailed : ∀ i ∈ session, ¬ i.FailedBootstrap)
    (hcleanup : ∀ i ∈ cleanup, ∃ hash, i.args = deleteArgs hash)
    (hdone : ∀ hash ∈ booksOf session, ∃ i ∈ cleanup, i.args = deleteArgs hash ∧
      i.report.isSome = true) : knownKeys (callsOf (session ++ cleanup)) = [] := by
  have hdeletions : ∀ i ∈ cleanup, ∀ report, i.report = some report → ∃ hash,
      i.args = deleteArgs hash ∧ report = .deleteKey hash := by
    intro i hi report hreport
    obtain ⟨hash, hargs⟩ := hcleanup i hi
    have hrun := hruns i (List.mem_append_right _ hi)
    rw [Invocation.Runs, i.outcome_of_report hreport, hargs] at hrun
    exact ⟨hash, hargs, deleteArgs_report hrun⟩
  have hall : ∀ i ∈ session ++ cleanup, ¬ i.FailedBootstrap := by
    intro i hi
    rcases List.mem_append.mp hi with hi | hi
    · exact hfailed i hi
    · rintro ⟨hbootstrap, -⟩
      obtain ⟨hash, hargs⟩ := hcleanup i hi
      rw [hargs] at hbootstrap
      exact absurd (Option.some.inj hbootstrap) (by decide)
  rw [knownKeys, agrees_run hruns hall, List.foldl_append, List.eq_nil_iff_forall_not_mem]
  intro hash hhash
  obtain ⟨hbook, hnever⟩ := mem_foldl_deletions (fun i hi report hreport =>
    (hdeletions i hi report hreport).imp fun _ h => h.2) hhash
  obtain ⟨i, hi, hargs, hended⟩ := hdone hash hbook
  obtain ⟨report, hreport⟩ := Option.isSome_iff_exists.mp hended
  obtain ⟨deleted, hargs', rfl⟩ := hdeletions i hi report hreport
  obtain rfl : hash = deleted := by
    rw [hargs] at hargs'
    exact (List.cons.inj (List.cons.inj (List.cons.inj hargs').2).2).1
  exact hnever i hi hreport

end Sessions

/-! ### A check that leaves its key, and its cleanup -/

/-- The text of the profile of `checkOptions`. -/
def checkProfileText : String :=
  "\x7b\"attachments\":\x7b\"modelProviders\":[\x7b\"nonSecretConfig\":\x7b" ++
    "\"authGroup\":\"openrouter\",\"authChoice\":\"openrouter-api-key\"," ++
    "\"flow\":\"quickstart\",\"keyProvisioning\":\x7b" ++
    "\"method\":\"openrouter-provisioning-api\",\"spendLimitUsd\":10," ++
    "\"limitReset\":\"monthly\"\x7d\x7d," ++
    "\"requiredSecretNames\":[\"CLIENT_OPENROUTER_API_KEY\"]\x7d]\x7d\x7d"

/-- A runtime that parses this text and no other. -/
def checkRuntime : Runtime where
  jsonParse text :=
    if text = checkProfileText then .ok checkOptions.profile else .error "Unexpected token"
  compileRegExp _ := none
  utf8Decode _ := ""
  hmacSha256Hex _ _ := ""

/-- Keys are minted, deleted if `reachable`, and nothing else is reached but the profile. -/
def mintAndDelete (reachable : Bool) (s : Unit) : (c : Call) → c.Reply × Unit
  | .readText _ => (.ok checkProfileText, s)
  | .fetch request =>
    (if request.url = OPENROUTER_KEYS_URL then .ok mintResponse
      else if reachable then .ok ⟨200, .ok .null⟩ else .error "unreachable", s)
  | c => (offline c, s)

/-- A command with these arguments, run where keys can be minted. -/
def invoke [Zod] (reachable : Bool) (args : List String) : Invocation where
  env := fun _ => some "secret"
  args := args
  fuel := 0
  trace := ((onboardingCycle checkRuntime 0 (fun _ => some "secret") args).play
    (mintAndDelete reachable) ()).1
  outcome := ((onboardingCycle checkRuntime 0 (fun _ => some "secret") args).play
    (mintAndDelete reachable) ()).2

theorem invoke_runs [Zod] (reachable : Bool) (args : List String) :
    (invoke reachable args).Runs checkRuntime :=
  Prog.play_exec (I := Platform) (mintAndDelete reachable) _ ()

/-- A check that cannot delete its key. -/
def strandedCheck : Invocation :=
  invoke false ["regression-check", "--service", "client", "--instance-url",
    "https://client.example", "--profile", "profile.json"]

set_option maxRecDepth 8000 in
theorem strandedCheck_reported : strandedCheck.report = some (.regressionCheck ⟨false, none, none,
    some "unreachable; additionally, key deletion failed: unreachable", "hash", false⟩) := by
  rfl

set_option maxRecDepth 8000 in
theorem strandedCheck_books : booksOf [strandedCheck] = ["hash"] := by
  show strandedCheck.books [] = ["hash"]
  rw [strandedCheck.books_report strandedCheck_reported]
  rfl

theorem strandedCheck_bootstraps : ∀ i ∈ [strandedCheck], ¬ i.FailedBootstrap := by
  rintro i hi ⟨hbootstrap, -⟩
  obtain rfl := List.mem_singleton.mp hi
  exact absurd (Option.some.inj hbootstrap) (by decide)

/-- The key of a check that could not delete it is known, and printed. -/
theorem strandedCheck_accounted : knownKeys (callsOf [strandedCheck]) = ["hash"] ∧
    ∃ i ∈ [strandedCheck], ∃ report, i.report = some report ∧ report.PrintsLive "hash" := by
  have hruns : ∀ i ∈ [strandedCheck], i.Runs checkRuntime := by
    intro i hi
    rw [List.mem_singleton.mp hi]
    exact invoke_runs _ _
  obtain ⟨-, -, hsame, hprinted⟩ := session_accounts_for_keys hruns
  have hhash : "hash" ∈ booksOf [strandedCheck] := by
    rw [strandedCheck_books]
    exact .head _
  exact ⟨(hsame strandedCheck_bootstraps).trans strandedCheck_books, hprinted _ hhash⟩

/-- Deleting it as it was printed leaves none. -/
theorem strandedCheck_cleared :
    knownKeys (callsOf ([strandedCheck] ++ [invoke true (deleteArgs "hash")])) = [] := by
  have hruns : ∀ i ∈ [strandedCheck] ++ [invoke true (deleteArgs "hash")],
      i.Runs checkRuntime := by
    intro i hi
    rcases List.mem_append.mp hi with hi | hi
    · rw [List.mem_singleton.mp hi]
      exact invoke_runs _ _
    · rw [List.mem_singleton.mp hi]
      exact invoke_runs _ _
  refine session_cleared hruns strandedCheck_bootstraps ?_ ?_
  · intro i hi
    rw [List.mem_singleton.mp hi]
    exact ⟨"hash", rfl⟩
  · intro hash hhash
    rw [strandedCheck_books, List.mem_singleton] at hhash
    rw [hhash]
    exact ⟨_, .head _, rfl, rfl⟩

end Setup
