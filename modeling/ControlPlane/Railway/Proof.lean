/-
ControlPlane/Railway/Proof.lean

The proof that the service that runs is the one of this repository (`verify-proof.ts`).

`verifyOpenClawRailwayProof` turns a snapshot into a list of checks, each with its name, what
came of it and a sentence about what was found.  Paths are compared after `normalizePath`, over
the character data of `toLowerCase`.
-/
import ControlPlane.Js.LowerCase

namespace Railway

open Js

/-! ### Snapshots -/

/-- What the proof reads of the lock. -/
structure ProofTemplateLock where
  upstreamRepo : String
  upstreamRef : String
  pinnedCommit : String

/-- What the proof reads of the deployed sources. -/
structure ProofSourceFiles where
  dockerfile : String
  railwayToml : String
  templateLock : ProofTemplateLock

/-- The deployment that is proved. -/
structure ProofDeployment where
  status : String
  repo : Option String
  branch : Option String
  commitHash : Option String

/-- Where the service is built from. -/
structure ProofServiceSource where
  repo : Option String
  image : Option String
  upstreamUrl : Option String
  templateId : Option String
  templateServiceId : Option String
  templateThreadSlug : Option String

/-- How the service is started and watched. -/
structure ProofServiceRuntimeSettings where
  builder : Option String
  dockerfilePath : Option String
  railwayConfigFile : Option String
  rootDirectory : Option String
  startCommand : Option String
  healthcheckPath : Option String

/-- A domain of the service. -/
structure ProofDomain where
  domain : String
  type : String
  targetPort : Option ℕ
  syncStatus : Option String

/-- What the endpoints have answered. -/
structure ProofEndpointStatuses where
  setupHealth : ℕ
  setup : ℕ
  openclaw : ℕ

/-- All that was observed of an instance. -/
structure ProofSnapshot where
  sourceFiles : ProofSourceFiles
  serviceSource : Option ProofServiceSource
  serviceRuntime : Option ProofServiceRuntimeSettings
  latestDeployment : Option ProofDeployment
  domains : Option (List ProofDomain)
  endpoints : Option ProofEndpointStatuses

/-- What the instance is expected to be. -/
structure ProofExpectations where
  publicRepo : String
  branch : String
  expectedCommit : Option String
  targetPort : ℕ

/-- One check, with its verdict. -/
structure ProofCheck where
  name : String
  ok : Bool
  detail : String

/-- All checks, and whether they hold together. -/
structure ProofVerificationResult where
  ok : Bool
  checks : List ProofCheck

/-! ### Paths -/

section Paths

variable (table : CaseTable)

/-- `(value ?? "").trim().toLowerCase()` -/
def normalize (value : Option String) : String :=
  String.ofList (lowerChars table (trimChars (value.getD "").toList))

/-- `path.replace(/^\/+/, "")` -/
def stripSlashes (path : List Char) : List Char := path.dropWhile (· == '/')

/-- The loop that takes `./` away while the path starts with it. -/
def stripDots : List Char → List Char
  | '.' :: '/' :: rest => stripDots rest
  | path => path

/-- `path.replace(/\/+$/, "")` -/
def stripTrailing (path : List Char) : List Char := path.rdropWhile (· == '/')

/-- The path without what spells the same directory. -/
def stripPath (path : List Char) : List Char := stripTrailing (stripDots (stripSlashes path))

/-- The root is the empty path. -/
def finishPath (path : List Char) : List Char := if path = ['.'] then [] else path

/-- A path in its one spelling; none is the root. -/
def normalizePath (value : Option String) : String :=
  String.ofList (finishPath (stripPath ((normalize table value).toList.map slash)))

/-- Whether the service is started by the image, or as it would. -/
def isAllowedStartCommand (value : Option String) : Bool :=
  normalize table value = "" || normalize table value = "node src/server.js"

end Paths

/-! ### Checks -/

/-- `text.includes(part)` -/
def includes (text part : String) : Bool := text.toList.tails.any part.toList.isPrefixOf

/-- A member that is there and not empty. -/
def present (value : Option String) : Bool := value.getD "" ≠ ""

/-- The checks of the sources. -/
def sourceChecks (sourceFiles : ProofSourceFiles) : List ProofCheck :=
  [⟨"railway.toml uses Dockerfile runtime",
    includes sourceFiles.railwayToml "builder = \"dockerfile\"",
    "Railway source should build the OpenClaw runtime Dockerfile, not infer the API shell."⟩,
  ⟨"railway.toml healthcheck targets OpenClaw setup wrapper",
    includes sourceFiles.railwayToml "healthcheckPath = \"/setup/healthz\"",
    "Healthcheck must prove the OpenClaw wrapper is serving /setup/healthz."⟩,
  ⟨"railway.toml requires persistent /data",
    includes sourceFiles.railwayToml "requiredMountPath = \"/data\"",
    "OpenClaw runtime state should be mounted at /data."⟩,
  ⟨"Dockerfile pins upstream template commit",
    includes sourceFiles.dockerfile
      ("ARG OPENCLAW_TEMPLATE_REF=" ++ sourceFiles.templateLock.pinnedCommit),
    "Dockerfile should pull the same pinned wrapper commit as template-lock.json."⟩,
  ⟨"Dockerfile uses upstream runtime dependency",
    includes sourceFiles.dockerfile sourceFiles.templateLock.upstreamRepo &&
      includes sourceFiles.dockerfile "COPY --from=template-source /template/src ./src",
    "Public repo should govern the wrapper dependency instead of replacing it with the API shell."⟩]

/-- The ids the service still has of the template it came from. -/
def historicalTemplateMetadata (source : ProofServiceSource) : List String :=
  (if present source.templateId then ["templateId"] else []) ++
    (if present source.templateServiceId then ["templateServiceId"] else []) ++
    if present source.templateThreadSlug then ["templateThreadSlug"] else []

/-- The checks of where the service is built from. -/
def serviceSourceChecks (sourceFiles : ProofSourceFiles) (expectations : ProofExpectations)
    (source : ProofServiceSource) : List ProofCheck :=
  [⟨"Railway service source is public repo", source.repo = some expectations.publicRepo,
    "Railway service source repo is " ++ source.repo.getD "unknown" ++ "."⟩,
  ⟨"Railway service is not sourced from an image", !present source.image,
    "Railway service source image is " ++ source.image.getD "not set" ++ "."⟩,
  ⟨"Railway service upstream is not the template repo",
    !source.upstreamUrl.any fun url => includes url sourceFiles.templateLock.upstreamRepo,
    "Railway service upstream URL is " ++ source.upstreamUrl.getD "not set" ++ "."⟩,
  ⟨"Railway service template metadata is historical only", true,
    if historicalTemplateMetadata source = [] then "No historical template metadata found."
    else "Railway retains historical " ++ ", ".intercalate (historicalTemplateMetadata source) ++
      "; active source and upstream checks determine ownership."⟩]

/-- The checks of how the service is run. -/
def serviceRuntimeChecks (table : CaseTable) (runtime : ProofServiceRuntimeSettings) :
    List ProofCheck :=
  [⟨"Railway runtime builder uses Dockerfile", normalize table runtime.builder = "dockerfile",
    "Railway runtime builder is " ++ runtime.builder.getD "unknown" ++ "."⟩,
  ⟨"Railway runtime uses repo root",
    ["", "."].contains (normalizePath table runtime.rootDirectory),
    "Railway runtime root directory is " ++ runtime.rootDirectory.getD "repo root" ++ "."⟩,
  ⟨"Railway runtime config file is railway.toml",
    normalizePath table runtime.railwayConfigFile = "railway.toml",
    "Railway runtime config file is " ++ runtime.railwayConfigFile.getD "not set" ++ "."⟩,
  ⟨"Railway runtime Dockerfile path is repo Dockerfile",
    ["", "dockerfile"].contains (normalizePath table runtime.dockerfilePath),
    "Railway runtime Dockerfile path is " ++
      runtime.dockerfilePath.getD "inherited from railway.toml" ++ "."⟩,
  ⟨"Railway runtime healthcheck targets setup wrapper",
    runtime.healthcheckPath = some "/setup/healthz",
    "Railway runtime healthcheck path is " ++ runtime.healthcheckPath.getD "unknown" ++ "."⟩,
  ⟨"Railway runtime start command does not override OpenClaw wrapper",
    isAllowedStartCommand table runtime.startCommand,
    "Railway runtime start command is " ++ runtime.startCommand.getD "Dockerfile CMD" ++ "."⟩]

/-- The checks of the deployment. -/
def deploymentChecks (sourceFiles : ProofSourceFiles) (expectations : ProofExpectations)
    (deployment : ProofDeployment) : List ProofCheck :=
  [⟨"latest deployment succeeded", deployment.status = "SUCCESS",
    "Latest Railway deployment status is " ++ deployment.status ++ "."⟩,
  ⟨"latest deployment source is public repo", deployment.repo = some expectations.publicRepo,
    "Latest Railway deployment repo is " ++ deployment.repo.getD "unknown" ++ "."⟩,
  ⟨"latest deployment does not source upstream template directly",
    deployment.repo ≠ some sourceFiles.templateLock.upstreamRepo,
    "Railway source should be the public control-plane repo; " ++
      "upstream remains a pinned dependency."⟩,
  ⟨"latest deployment branch matches expected branch", deployment.branch = some expectations.branch,
    "Latest Railway deployment branch is " ++ deployment.branch.getD "unknown" ++ "."⟩] ++
  if present expectations.expectedCommit then
    [⟨"latest deployment matches expected commit",
      deployment.commitHash = expectations.expectedCommit,
      "Latest Railway deployment commit is " ++ deployment.commitHash.getD "unknown" ++ "."⟩]
  else []

/-- The checks of the domains. -/
def domainChecks (expectations : ProofExpectations) (domains : List ProofDomain) :
    List ProofCheck :=
  let activeServiceDomain := domains.find? fun domain =>
    domain.type = "service" && domain.syncStatus = some "ACTIVE"
  [⟨"active Railway service domain exists", activeServiceDomain.isSome,
    match activeServiceDomain with
    | some domain => "Active domain is " ++ domain.domain ++ "."
    | none => "No active service domain found."⟩,
  ⟨"active Railway service domain targets OpenClaw wrapper port",
    activeServiceDomain.bind ProofDomain.targetPort = some expectations.targetPort,
    "Active domain target port is " ++
      ((activeServiceDomain.bind ProofDomain.targetPort).map toString).getD "unknown" ++ "."⟩]

/-- The checks of the endpoints. -/
def endpointChecks (endpoints : ProofEndpointStatuses) : List ProofCheck :=
  [⟨"live setup healthcheck passes", endpoints.setupHealth = 200,
    "/setup/healthz returned " ++ toString endpoints.setupHealth ++ "."⟩,
  ⟨"live setup route exists", [200, 301, 302, 401].contains endpoints.setup,
    "/setup returned " ++ toString endpoints.setup ++
      "; expected setup HTML, redirect, or Basic auth challenge."⟩,
  ⟨"live OpenClaw route exists", [200, 301, 302, 401].contains endpoints.openclaw,
    "/openclaw returned " ++ toString endpoints.openclaw ++
      "; expected UI HTML, redirect, or Basic auth challenge."⟩]

/-- The checks of a member, when the snapshot has it. -/
def checksOf {α : Type} (member : Option α) (checks : α → List ProofCheck) : List ProofCheck :=
  (member.map checks).getD []

/-- All checks of a snapshot against what is expected. -/
def verifyOpenClawRailwayProof (table : CaseTable) (snapshot : ProofSnapshot)
    (expectations : ProofExpectations) : ProofVerificationResult :=
  let checks := sourceChecks snapshot.sourceFiles ++
    checksOf snapshot.serviceSource (serviceSourceChecks snapshot.sourceFiles expectations) ++
    checksOf snapshot.serviceRuntime (serviceRuntimeChecks table) ++
    checksOf snapshot.latestDeployment (deploymentChecks snapshot.sourceFiles expectations) ++
    checksOf snapshot.domains (domainChecks expectations) ++
    checksOf snapshot.endpoints endpointChecks
  ⟨checks.all ProofCheck.ok, checks⟩

/-- What came of the checks, without what was found. -/
def verdicts (result : ProofVerificationResult) : Bool × List (String × Bool) :=
  (result.ok, result.checks.map fun check => (check.name, check.ok))

end Railway
