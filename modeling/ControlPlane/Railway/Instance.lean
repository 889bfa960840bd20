/-
ControlPlane/Railway/Instance.lean

What both installers do once an instance answers: allow its own origin
(`patchAllowedOrigins`), approve the pairing of their session
(`approveOwnDevicePairing`), and write the local files (`mergeEnv`,
`writeLocalText`).

The configuration of an instance is a JSON text that is read, changed at
`gateway.controlUi.allowedOrigins` and written back whole.  `asRecord` reads the
member of a record it is about to write below, with an empty record in place of
anything else; `setMember` writes it back, in its old place or at the end.
-/
import ControlPlane.Railway.Services
import ControlPlane.Js.Text

namespace Railway

open Js Interaction

/-! ### Records -/

/-- `{ ...j, [name]: v }` in the order of assignment. -/
def setMember (j : Json) (name : String) (v : Json) : Json :=
  if j.hasOwn name then
    .obj (j.fields.map fun field => if field.1 = name then (name, v) else field)
  else .obj (j.fields ++ [(name, v)])

/-- A member that is an object and no array. -/
def recordMember (j : Json) (name : String) : Option Json :=
  match j.get name with
  | .json (.obj fields) => some (.obj fields)
  | _ => none

/-- The record to write below `j[name]`. -/
def asRecord (j : Json) (name : String) : Json :=
  (recordMember j name).getD (.obj [])

/-- The blanks a line at `depth` starts with. -/
def indent (depth : ℕ) : String := String.ofList (List.replicate (2 * depth) ' ')

mutual

/-- `JSON.stringify(j, null, 2)` at a depth of indentation. -/
def stringifyIndented (depth : ℕ) : Json → String
  | .arr [] => "[]"
  | .arr (j :: rest) =>
    "[\n" ++ indent (depth + 1) ++
      (",\n" ++ indent (depth + 1)).intercalate (itemsIndented (depth + 1) (j :: rest)) ++
      "\n" ++ indent depth ++ "]"
  | .obj [] => "\x7b\x7d"
  | .obj (field :: rest) =>
    "\x7b\n" ++ indent (depth + 1) ++
      (",\n" ++ indent (depth + 1)).intercalate (fieldsIndented (depth + 1) (field :: rest)) ++
      "\n" ++ indent depth ++ "\x7d"
  | .null => Json.null.stringify
  | .bool b => (Json.bool b).stringify
  | .num n => (Json.num n).stringify
  | .str s => (Json.str s).stringify

/-- The elements of an array, each on a line of its own. -/
def itemsIndented (depth : ℕ) : List Json → List String
  | [] => []
  | j :: rest => stringifyIndented depth j :: itemsIndented depth rest

/-- The members of an object, each on a line of its own. -/
def fieldsIndented (depth : ℕ) : List (String × Json) → List String
  | [] => []
  | (name, j) :: rest =>
    (quote name ++ ": " ++ stringifyIndented depth j) :: fieldsIndented depth rest

end

/-! ### The allowed origins -/

/-- How allowing the origin has ended. -/
inductive PatchAllowedOriginsStatus where
  | patched
  | alreadyPresent
  | refusedMissingBaseline
deriving DecidableEq

/-- Whether the configuration was written, and why. -/
structure PatchAllowedOriginsResult where
  patched : Bool
  status : PatchAllowedOriginsStatus

/-- The text of each status. -/
def describePatchAllowedOriginsStatus : PatchAllowedOriginsStatus → String
  | .patched => "yes"
  | .alreadyPresent => "no (already present)"
  | .refusedMissingBaseline =>
    "no (skipped -- instance has no baseline gateway.mode yet; retry once initial setup completes)"

/-- An error about the configuration. -/
def configFailure (message : String) : Failure := ⟨.configRaw, message⟩

/-- `content.trim().length > 0 ? JSON.parse(content) : {}`. -/
def parseConfig (rt : Runtime) (content : String) : Except Failure Json :=
  if trim content = "" then .ok (.obj []) else parse rt content

/-- The list at `controlUi.allowedOrigins`, empty when there is none. -/
def allowedOrigins (controlUi : Json) : List Json :=
  ((controlUi.get "allowedOrigins").asArray).getD []

/-- `origins.includes(origin)`. -/
def includesOrigin (origins : List Json) (origin : String) : Bool :=
  origins.any fun item => (Value.json item).isString origin

/-- Whether `gateway.mode` is a text that is not blank. -/
def hasBaseline (gateway : Json) : Bool :=
  match (gateway.get "mode").asString with
  | some mode => trim mode != ""
  | none => false

/-- What the configuration read says is to be done. -/
inductive OriginPlan where
  | alreadyPresent
  | refuse
  | post (config : Json)

/-- Only a record can be given the path down to the list; an array keeps its
JSON text whatever is put on it, and has no baseline. -/
def planOrigins (config : Json) (origin : String) : Except Failure OriginPlan :=
  match config with
  | .null => .error (cannotRead "null" "gateway")
  | .arr _ => .ok .refuse
  | .obj fields =>
    let config := Json.obj fields
    let gateway := asRecord config "gateway"
    let controlUi := asRecord gateway "controlUi"
    let existingOrigins := allowedOrigins controlUi
    if includesOrigin existingOrigins origin then .ok .alreadyPresent
    -- the baseline is asked for only when there is something to write
    else if !hasBaseline gateway then .ok .refuse
    else
      let controlUi := setMember controlUi "allowedOrigins"
        (.arr (existingOrigins ++ [.str origin]))
      .ok (.post (setMember config "gateway" (setMember gateway "controlUi" controlUi)))
  | _ => .error (thrown "Cannot create property 'gateway'")

/-- The list in a configuration that was read back; nothing is created. -/
def readAllowedOrigins (rt : Runtime) (content : String) : Except Failure (List Json) := do
  let parsed ← parseConfig rt content
  .ok (((recordMember parsed "gateway").bind fun gateway => recordMember gateway "controlUi").elim []
    allowedOrigins)

/-- Read the configuration of the instance. -/
def getConfigRaw (baseUrl : String) (auth : SetupAuth) : Tool ConfigRaw :=
  Prog.ask (I := Platform) (.getConfigRaw baseUrl auth) settled

/-- Write the configuration of the instance. -/
def postConfigRaw (baseUrl : String) (auth : SetupAuth) (content : String) : Tool Bool :=
  Prog.ask (I := Platform) (.postConfigRaw baseUrl auth content) settled

/-- The list read back after the write has the origin. -/
def verifyOrigins (rt : Runtime) (verifyResult : ConfigRaw) (origin : String) :
    Except Failure PatchAllowedOriginsResult :=
  if !verifyResult.ok then
    .error (configFailure
      "Post-write verification failed: GET /setup/api/config/raw responded ok:false")
  else match readAllowedOrigins rt verifyResult.content with
    | .error cause =>
      .error (configFailure ("Post-write verification failed: the config returned after the write " ++
        "is not parseable JSON. SyntaxError: " ++ cause.message))
    | .ok verifiedOrigins =>
      if includesOrigin verifiedOrigins origin then .ok ⟨true, .patched⟩
      else .error (configFailure ("Post-write verification failed: " ++ origin ++
        " is absent from gateway.controlUi.allowedOrigins after the write reported success"))

/-- Allow the origin of the domain, and read the configuration back. -/
def patchAllowedOrigins (rt : Runtime) (baseUrl : String) (auth : SetupAuth) (domain : String) :
    Tool PatchAllowedOriginsResult := do
  let getResult ← getConfigRaw baseUrl auth
  if !getResult.ok then .throw (configFailure "GET /setup/api/config/raw responded ok:false")
  else do
    let origin := "https://" ++ domain
    let plan ← Prog.ofExcept (parseConfig rt getResult.content >>= fun config =>
      planOrigins config origin)
    match plan with
    | .alreadyPresent => pure ⟨false, .alreadyPresent⟩
    | .refuse => pure ⟨false, .refusedMissingBaseline⟩
    | .post config => do
      let posted ← postConfigRaw baseUrl auth (stringifyIndented 0 config)
      if !posted then .throw (configFailure "POST /setup/api/config/raw responded ok:false")
      else do
        let verifyResult ← getConfigRaw baseUrl auth
        Prog.ofExcept (verifyOrigins rt verifyResult origin)

/-! ### The pairing of the installer's own session -/

/-- The outcome of the pairing step; an approval names the request. -/
inductive ApproveOwnDeviceResult where
  | approved (requestId : String)
  | noPending
  | notReady
deriving DecidableEq

/-- The request that was approved, if one was. -/
def ApproveOwnDeviceResult.requestId : ApproveOwnDeviceResult → Option String
  | .approved requestId => some requestId
  | _ => none

/-- The text of each result. -/
def describeDeviceApprovalStatus : ApproveOwnDeviceResult → String
  | .approved requestId => requestId
  | .noPending => "none pending"
  | .notReady =>
    "skipped -- instance did not report ready (commonly: no baseline gateway.mode yet); " ++
      "retry once initial setup completes"

/-- An error about the pairing. -/
def pairingFailure (message : String) : Failure := ⟨.devicePairing, message⟩

/-- The request to approve, when there is exactly one and it has an id. -/
def ownRequest : List String → Except Failure (Option String)
  | [] => .ok none
  | [requestId] =>
    if requestId = "" then
      .error (pairingFailure ("GET /setup/api/devices/pending returned exactly one pending request, " ++
        "but its id was empty or missing (requestIds: [\"\"]). This is a malformed response, not " ++
        "\"nothing pending\"."))
    else .ok (some requestId)
  | requestIds =>
    .error (pairingFailure ("Found " ++ toString requestIds.length ++
      " pending device pairing requests; refusing to guess which one is the installer's own " ++
      "session. Approve manually via 'openclaw devices approve <id>'."))

/-- Approve the pairing that waits, if it is the only one. -/
def approveOwnDevicePairing (baseUrl : String) (auth : SetupAuth) :
    Tool ApproveOwnDeviceResult := do
  let pending ← Prog.ask (I := Platform) (.getPendingDevices baseUrl auth) settled
  if !pending.ok then pure .notReady
  else do
    let requestId ← Prog.ofExcept (ownRequest pending.requestIds)
    match requestId with
    | none => pure .noPending
    | some requestId => do
      let approved ← Prog.ask (I := Platform) (.approveDevice baseUrl auth requestId) settled
      if approved then pure (.approved requestId)
      else .throw (pairingFailure "POST /setup/api/devices/approve responded ok:false")

/-! ### Local files -/

/-- The characters a variable's name starts with. -/
def isKeyStart (c : Char) : Bool :=
  ('A' ≤ c && c ≤ 'Z') || ('a' ≤ c && c ≤ 'z') || c == '_'

/-- The characters a variable's name goes on with. -/
def isKeyChar (c : Char) : Bool := isKeyStart c || ('0' ≤ c && c ≤ '9')

/-- `text.split(/\r?\n/)`. -/
def splitLines : List Char → List (List Char)
  | [] => [[]]
  | '\r' :: '\n' :: rest => [] :: splitLines rest
  | '\n' :: rest => [] :: splitLines rest
  | c :: rest =>
    match splitLines rest with
    | [] => [[c]]
    | line :: lines => (c :: line) :: lines

/-- The key of an assignment at the start of a line. -/
def envKey (line : List Char) : Option (List Char) :=
  match line with
  | [] => none
  | c :: _ =>
    let key := line.takeWhile isKeyChar
    if isKeyStart c && (line.drop key.length).head? == some '=' then some key else none

/-- `lines.filter((line, index, lines) => line.length > 0 || index < lines.length - 1)`. -/
def dropLastBlank (lines : List (List Char)) : List (List Char) :=
  match lines.getLast? with
  | some [] => lines.dropLast
  | _ => lines

/-- `text.trimEnd()`. -/
def trimEndChars (cs : List Char) : List Char :=
  (cs.reverse.dropWhile isWhiteSpace).reverse

/-- A variable on its line. -/
def envLine (entry : String × String) : List Char := (entry.1 ++ "=" ++ entry.2).toList

/-- The lines that assign none of the entries' keys. -/
def keptLines (existing : String) (entries : List (String × String)) : List (List Char) :=
  dropLastBlank ((splitLines existing.toList).filter fun line =>
    match envKey line with
    | some key => !entries.any fun entry => entry.1.toList == key
    | none => true)

/-- The text of the file with the variables put in. -/
def mergeEnv (existing : String) (entries : List (String × String)) : String :=
  String.ofList (trimEndChars
    (List.intercalate ['\n'] (keptLines existing entries ++ entries.map envLine)) ++ ['\n'])

/-- Write a local file, with its directory. -/
def writeLocalText (path contents : String) : Tool Unit := do
  Prog.ask (I := Platform) (.makeDirectory path) settled
  Prog.ask (I := Platform) (.writeText path contents) settled

/-- Merge the entries into the file, which may not exist yet. -/
def writeMergedEnv (path : String) (entries : List (String × String)) : Tool Unit := do
  let existing ← (Prog.ask (I := Platform) (.readText path) settled).tryCatch fun _ => pure ""
  writeLocalText path (mergeEnv existing entries)

end Railway
