/-
ControlPlane/Setup/CycleCli.lean

The command line of the onboarding cycle (`onboarding-cycle-cli.ts`): `bootstrap`,
`regression-check` and `delete-key`.

A command reads its arguments, the profile and the environment before it acts, and tells the
operator what it has done (`Report`).  The one command that leaves a key behind prints the
command that deletes it (`mem_stdout_bootstrap`), and that command, typed in as it is printed,
is the deletion of this key (`onboardingCycle_deleteArgs`).
-/
import ControlPlane.Cli.Client
import ControlPlane.Setup.Onboarding
import ControlPlane.Setup.Regression

namespace Setup

open Js Railway Interaction Cli

/-! ### Arguments -/

/-- The arguments of `bootstrap`. -/
structure BootstrapArgs where
  clientName : String
  profilePath : String
  workspace : Option String
  projectId : Option String

/-- `Partial<BootstrapArgs>` -/
structure PartialBootstrapArgs where
  clientName : Option String
  profilePath : Option String
  workspace : Option String
  projectId : Option String

/-- The flags of `bootstrap`. -/
def bootstrapFlag : String → Option (Flag String PartialBootstrapArgs)
  | "--client-name" => some (.taking fun value =>
      (requireValue "--client-name" value).map fun v options =>
        { options with clientName := some v })
  | "--profile" => some (.taking fun value =>
      (requireValue "--profile" value).map fun v options => { options with profilePath := some v })
  | "--workspace" => some (.taking fun value =>
      (requireValue "--workspace" value).map fun v options => { options with workspace := some v })
  | "--project-id" => some (.taking fun value =>
      (requireValue "--project-id" value).map fun v options => { options with projectId := some v })
  | _ => none

/-- What the arguments of `bootstrap` write. -/
def parseBootstrapArgs (args : List String) : Except String BootstrapArgs := do
  let options ← scan bootstrapFlag unknownArgument args ⟨none, none, none, none⟩
  let clientName ← required options.clientName "Missing required --client-name"
  let profilePath ← required options.profilePath "Missing required --profile"
  return ⟨clientName, profilePath, options.workspace, options.projectId⟩

/-- The arguments of `regression-check`. -/
structure RegressionCheckArgs where
  service : String
  instanceUrl : String
  profilePath : String

/-- `Partial<RegressionCheckArgs>` -/
structure PartialRegressionCheckArgs where
  service : Option String
  instanceUrl : Option String
  profilePath : Option String

/-- The flags of `regression-check`. -/
def regressionCheckFlag : String → Option (Flag String PartialRegressionCheckArgs)
  | "--service" => some (.taking fun value =>
      (requireValue "--service" value).map fun v options => { options with service := some v })
  | "--instance-url" => some (.taking fun value =>
      (requireValue "--instance-url" value).map fun v options =>
        { options with instanceUrl := some v })
  | "--profile" => some (.taking fun value =>
      (requireValue "--profile" value).map fun v options => { options with profilePath := some v })
  | _ => none

/-- What the arguments of `regression-check` write. -/
def parseRegressionCheckArgs (args : List String) : Except String RegressionCheckArgs := do
  let options ← scan regressionCheckFlag unknownArgument args ⟨none, none, none⟩
  let service ← required options.service "Missing required --service"
  let instanceUrl ← required options.instanceUrl "Missing required --instance-url"
  let profilePath ← required options.profilePath "Missing required --profile"
  return ⟨service, instanceUrl, profilePath⟩

/-- The arguments of `delete-key`. -/
structure DeleteKeyArgs where
  hash : String

/-- The options are the hash alone. -/
def deleteKeyFlag : String → Option (Flag String (Option String))
  | "--hash" => some (.taking fun value =>
      (requireValue "--hash" value).map fun v _ => some v)
  | _ => none

/-- What the arguments of `delete-key` write. -/
def parseDeleteKeyArgs (args : List String) : Except String DeleteKeyArgs := do
  let hash ← scan deleteKeyFlag unknownArgument args none
  let hash ← required hash "Missing required --hash"
  return ⟨hash⟩

/-! ### Reports -/

/-- What a command that comes to its end has to tell. -/
inductive Report where
  | bootstrap (result : BootstrapOnboardingCycleResult)
  | regressionCheck (result : RegressionCheckResult)
  | deleteKey (hash : String)

/-- The text of each outcome. -/
def ApplyOutcome.text : ApplyOutcome → String
  | .alreadyConfigured => "already-configured"
  | .applied => "applied"

/-- The arguments that delete a key. -/
def deleteArgs (hash : String) : List String := ["delete-key", "--hash", hash]

/-- The command, as it is printed. -/
def deleteLine (hash : String) : String := "  onboarding-cycle delete-key --hash " ++ hash

/-- The lines about a key that was minted and lives on. -/
def liveKeyLines (hash : String) : List String :=
  ["Minted OpenRouter key hash: " ++ hash,
   "This key is LIVE and was not deleted. Once verification is done, run:",
   deleteLine hash]

/-- The lines printed after a bootstrap. -/
def bootstrapLines (r : BootstrapOnboardingCycleResult) : List String :=
  ["",
   "Bootstrap complete.",
   "Setup URL: " ++ r.provision.setupUrl,
   "OpenClaw URL: " ++ r.provision.openclawUrl,
   "Username: " ++ r.provision.auth.username,
   "Setup password: " ++ r.provision.auth.password.display,
   "Client handoff link (single-click dashboard connect): " ++ r.provision.dashboardUrl,
   "Reused existing service: " ++ (Json.bool r.provision.reusedExistingService).display,
   "Patched allowedOrigins (initial provisioning, before setup): " ++
     describePatchAllowedOriginsStatus r.provision.allowedOrigins.status,
   "Patched allowedOrigins (retry after apply): " ++
     describePatchAllowedOriginsStatus r.allowedOrigins.status,
   "Approved device pairing request (initial provisioning, before setup): " ++
     describeDeviceApprovalStatus r.provision.deviceApproval,
   "Approved device pairing request (retry after apply): " ++
     describeDeviceApprovalStatus r.deviceApproval,
   "Apply outcome: " ++ r.apply.outcome.text]

/-- The result as the object it is, members that are undefined left out. -/
def RegressionCheckResult.json (r : RegressionCheckResult) : Json :=
  .obj ([("passed", .bool r.passed), ("mintedKeyHash", .str r.mintedKeyHash),
      ("keyDeleted", .bool r.keyDeleted)] ++
    (r.statusConfigured.map fun configured => ("statusConfigured", Json.bool configured)).toList ++
    (r.healthzStatus.map fun status => ("healthzStatus", Json.num (.ofNat status))).toList ++
    (r.error.map fun error => ("error", Json.str error)).toList)

/-- What goes to `console.log`. -/
def Report.stdout : Report → List String
  | .bootstrap r => bootstrapLines r ++ r.apply.mintedKeyHash.toList.flatMap liveKeyLines
  | .regressionCheck r => [stringifyIndented 0 r.json]
  | .deleteKey hash => ["Deleted OpenRouter key " ++ hash ++ "."]

/-- The exit code of a command that returns. -/
def Report.exitCode : Report → ℕ
  | .regressionCheck r => if r.passed then 0 else 1
  | _ => 0

/-! ### The commands -/

/-- `process.env` -/
abbrev Env := String → Option String

/-- An error of the command line itself. -/
def cliFailure (message : String) : Failure := ⟨.platform, message⟩

/-- A pure part of a command, which throws its message. -/
def orThrow {α : Type} (x : Except String α) : Tool α :=
  Prog.ofExcept (x.mapError cliFailure)

/-- A variable of the environment that has to be there. -/
def requireEnv (env : Env) (name : String) : Except String String :=
  match env name with
  | some value => .ok value
  | none => .error ("Missing required env var: " ++ name)

/-- `JSON.parse(await readFile(path, "utf8"))` -/
def readProfile (rt : Runtime) (path : String) : Tool Json :=
  Prog.ask (I := Platform) (.readText path) (printed rt)

section Commands

variable (rt : Runtime) (fuel : ℕ) (env : Env)

/-- `onboarding-cycle bootstrap`. -/
def bootstrapCommand [Zod] (rest : List String) : Tool Report := do
  let options ← orThrow (parseBootstrapArgs rest)
  let profile ← readProfile rt options.profilePath
  let managementKey ← orThrow (requireEnv env "OPENROUTER_MANAGEMENT_KEY")
  let result ← bootstrapOnboardingCycle rt fuel
    ⟨options.clientName, profile, options.workspace, options.projectId⟩ managementKey
  pure (.bootstrap result)

/-- `onboarding-cycle regression-check`. -/
def regressionCheckCommand [Zod] (rest : List String) : Tool Report := do
  let options ← orThrow (parseRegressionCheckArgs rest)
  let profile ← readProfile rt options.profilePath
  let managementKey ← orThrow (requireEnv env "OPENROUTER_MANAGEMENT_KEY")
  let setupPassword ← orThrow (requireEnv env "OPENCLAW_INSTANCE_SETUP_PASSWORD")
  let setupUsername := (env "OPENCLAW_INSTANCE_SETUP_USERNAME").getD "openclaw"
  let result ← runRegressionCheck
    ⟨options.service, options.instanceUrl, profile, setupUsername, setupPassword⟩ managementKey
  pure (.regressionCheck result)

/-- `onboarding-cycle delete-key`. -/
def deleteKeyCommand (rest : List String) : Tool Report := do
  let options ← orThrow (parseDeleteKeyArgs rest)
  let managementKey ← orThrow (requireEnv env "OPENROUTER_MANAGEMENT_KEY")
  deleteOpenRouterKey options.hash managementKey
  pure (.deleteKey options.hash)

/-- The error for any other command. -/
def unknownSubcommand (subcommand : String) : Failure :=
  cliFailure ("Unknown subcommand '" ++ subcommand ++
    "'. Expected 'bootstrap', 'regression-check', or 'delete-key'.")

/-- `main` of the command line. -/
def onboardingCycle [Zod] : List String → Tool Report
  | "bootstrap" :: rest => bootstrapCommand rt fuel env rest
  | "regression-check" :: rest => regressionCheckCommand rt env rest
  | "delete-key" :: rest => deleteKeyCommand env rest
  | args => .throw (unknownSubcommand (args.headD ""))

end Commands

/-! ### What is printed -/

section Printed

variable {r : BootstrapOnboardingCycleResult} {hash : String}

theorem head_append {label text : String} {c : Char} (h : label.toList.head? = some c) :
    (label ++ text).toList.head? = some c := by
  rw [String.toList_append]
  cases hlabel : label.toList with
  | nil =>
      rw [hlabel] at h
      cases h
  | cons d cs =>
      rw [hlabel] at h
      exact h

theorem not_indented_append {label text : String} (c : Char) (h : label.toList.head? = some c)
    (hc : c ≠ ' ') : (label ++ text).toList.head? ≠ some ' ' := by
  rw [head_append h]
  exact fun heq => hc (Option.some.inj heq)

/-- No other line of a bootstrap is indented. -/
theorem not_indented {line : String} (h : line ∈ bootstrapLines r) :
    line.toList.head? ≠ some ' ' := by
  simp only [bootstrapLines, List.mem_cons, List.not_mem_nil, or_false] at h
  rcases h with rfl | rfl | rfl | rfl | rfl | rfl | rfl | rfl | rfl | rfl | rfl | rfl | rfl
  · decide
  · decide
  · exact not_indented_append 'S' (by decide) (by decide)
  · exact not_indented_append 'O' (by decide) (by decide)
  · exact not_indented_append 'U' (by decide) (by decide)
  · exact not_indented_append 'S' (by decide) (by decide)
  · exact not_indented_append 'C' (by decide) (by decide)
  · exact not_indented_append 'R' (by decide) (by decide)
  · exact not_indented_append 'P' (by decide) (by decide)
  · exact not_indented_append 'P' (by decide) (by decide)
  · exact not_indented_append 'A' (by decide) (by decide)
  · exact not_indented_append 'A' (by decide) (by decide)
  · exact not_indented_append 'A' (by decide) (by decide)

theorem deleteLine_indented (hash : String) : (deleteLine hash).toList.head? = some ' ' :=
  head_append (by decide)

theorem deleteLine_injective {hash hash' : String} (h : deleteLine hash = deleteLine hash') :
    hash = hash' := (String.append_right_inj _).mp h

/-- The command that deletes a key is printed exactly for the key that was minted. -/
theorem mem_stdout_bootstrap :
    deleteLine hash ∈ (Report.bootstrap r).stdout ↔ r.apply.mintedKeyHash = some hash := by
  have hindented := deleteLine_indented hash
  constructor
  · intro h
    rcases List.mem_append.mp h with h | h
    · exact absurd hindented (not_indented h)
    · obtain ⟨minted, hminted, hline⟩ := List.mem_flatMap.mp h
      rw [Option.mem_toList] at hminted
      simp only [liveKeyLines, List.mem_cons, List.not_mem_nil, or_false] at hline
      rcases hline with hline | hline | hline
      · rw [hline] at hindented
        exact absurd hindented (not_indented_append 'M' (by decide) (by decide))
      · rw [hline] at hindented
        exact absurd hindented (by decide)
      · rw [deleteLine_injective hline]
        exact hminted
  · intro h
    refine List.mem_append_right _ (List.mem_flatMap.mpr ⟨hash, ?_, ?_⟩)
    · rw [h]
      exact List.mem_singleton_self hash
    · exact .tail _ (.tail _ (.head _))

/-- What is printed is the command that deletes the key. -/
theorem onboardingCycle_deleteArgs [Zod] {rt : Runtime} {fuel : ℕ} {env : Env}
    {managementKey : String}
    (henv : env "OPENROUTER_MANAGEMENT_KEY" = some managementKey) (hne : hash ≠ "")
    (hplain : startsWithDashes hash = false) :
    onboardingCycle rt fuel env (deleteArgs hash) =
      deleteOpenRouterKey hash managementKey >>= fun _ => pure (.deleteKey hash) := by
  have hvalue : requireValue "--hash" (some hash) = .ok hash := by
    simp [requireValue, hne, hplain]
  have hargs : parseDeleteKeyArgs ["--hash", hash] = .ok ⟨hash⟩ := by
    have hscan : scan deleteKeyFlag unknownArgument ["--hash", hash] none = .ok (some hash) := by
      rw [scan_taking rfl, hvalue]
      rfl
    rw [parseDeleteKeyArgs, hscan]
    show (required (some hash) "Missing required --hash" >>= fun hash =>
      (.ok ⟨hash⟩ : Except String DeleteKeyArgs)) = _
    rw [required, if_neg hne]
    rfl
  show deleteKeyCommand env ["--hash", hash] = _
  rw [deleteKeyCommand, hargs]
  show (orThrow (requireEnv env "OPENROUTER_MANAGEMENT_KEY") >>= fun managementKey => _) = _
  rw [requireEnv, henv]
  rfl

end Printed

end Setup
