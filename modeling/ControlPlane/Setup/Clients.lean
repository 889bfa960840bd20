/-
ControlPlane/Setup/Clients.lean

The two HTTP interfaces the applier talks to: OpenRouter's provisioning API, where
keys are minted and deleted, and the setup API of an instance.

Each operation is one `fetch` whose response is read by a pure function
(`mintedKey`, `settledJson`).  No error carries a response body.
-/
import ControlPlane.Railway.Effects
import ControlPlane.Js.Text

namespace Setup

open Js Railway Interaction

/-! ### OpenRouter -/

/-- Where keys are minted and deleted. -/
def OPENROUTER_KEYS_URL : String := "https://openrouter.ai/api/v1/keys"

/-- The key that is asked for. -/
structure MintKeyRequest where
  name : String
  spendLimitUsd : Number
  limitReset : String

/-- The key that is given, and its hash. -/
structure MintedOpenRouterKey where
  key : String
  hash : String
deriving DecidableEq

/-- The error for a request that is answered with a failure. -/
def provisioningError (status : ℕ) : Failure :=
  ⟨.openRouter, "OpenRouter provisioning API returned " ++ toString status⟩

/-- The request that mints a key. -/
def mintRequest (request : MintKeyRequest) (managementKey : String) : FetchRequest where
  url := OPENROUTER_KEYS_URL
  method := "POST"
  headers := [("content-type", "application/json"), ("authorization", "Bearer " ++ managementKey)]
  body := some (Json.obj [("name", .str request.name), ("limit", .num request.spendLimitUsd),
    ("limit_reset", .str request.limitReset)]).stringify

/-- A member that is a text and not empty. -/
def filledText (v : Value) : Option String := v.asString.filter (· ≠ "")

/-- The key and its management hash in the body of a create response: the key is a
top-level member, the hash one of `data`. -/
def keyIn (body : Json) : Except Failure MintedOpenRouterKey := do
  let key ← readMember body "key"
  match filledText key with
  | none => .error ⟨.openRouter, "OpenRouter provisioning API response did not include a key."⟩
  | some key => do
    let data ← readMember body "data"
    match filledText (data.chain "hash") with
    | none => .error ⟨.openRouter, "OpenRouter provisioning API response did not include a " ++
        "data.hash — cannot manage/delete this key later."⟩
    | some hash => .ok ⟨key, hash⟩

/-- What a create request was answered with. -/
def mintedKey (reply : Except String Response) : Except Failure MintedOpenRouterKey := do
  let response ← settled reply
  if response.ok then settled response.json >>= keyIn
  else .error (provisioningError response.status)

/-- Mint a key. -/
def mintOpenRouterKey (request : MintKeyRequest) (managementKey : String) :
    Tool MintedOpenRouterKey :=
  Prog.ask (I := Platform) (.fetch (mintRequest request managementKey)) mintedKey

/-- The request that deletes a key. -/
def deleteRequest (hash managementKey : String) : FetchRequest where
  url := OPENROUTER_KEYS_URL ++ "/" ++ hash
  method := "DELETE"
  headers := [("authorization", "Bearer " ++ managementKey)]
  body := none

/-- What a delete request was answered with. -/
def deletedKey (reply : Except String Response) : Except Failure Unit := do
  let response ← settled reply
  if response.ok then .ok () else .error (provisioningError response.status)

/-- Delete a key by its hash. -/
def deleteOpenRouterKey (hash managementKey : String) : Tool Unit :=
  Prog.ask (I := Platform) (.fetch (deleteRequest hash managementKey)) deletedKey

/-! ### The setup API -/

/-- The characters of base64. -/
def base64Alphabet : List Char :=
  "ABCDEFGHIJKLMNOPQRSTUVWXYZabcdefghijklmnopqrstuvwxyz0123456789+/".toList

/-- The character of six bits. -/
def base64Char (n : ℕ) : Char := base64Alphabet.getD (n % 64) 'A'

/-- `Buffer.prototype.toString("base64")`. -/
def base64 : List UInt8 → List Char
  | [] => []
  | [a] => [base64Char (a.toNat / 4), base64Char (a.toNat * 16), '=', '=']
  | [a, b] =>
    [base64Char (a.toNat / 4), base64Char (a.toNat * 16 + b.toNat / 16),
      base64Char (b.toNat * 4), '=']
  | a :: b :: c :: rest =>
    base64Char (a.toNat / 4) :: base64Char (a.toNat % 4 * 16 + b.toNat / 16) ::
      base64Char (b.toNat % 16 * 4 + c.toNat / 64) :: base64Char c.toNat :: base64 rest

/-- `text.replace(/\/$/, "")`. -/
def dropTrailingSlash (text : String) : String :=
  if text.toList.getLast? = some '/' then String.ofList text.toList.dropLast else text

/-- The credentials of the setup API. -/
structure SetupCredentials where
  username : String
  password : String

/-- An instance's setup API, with what authenticates requests. -/
structure SetupApiClient where
  baseUrl : String
  authHeaders : List (String × String)

/-- The value of the header that authenticates requests. -/
def basicAuth (auth : SetupCredentials) : String :=
  "Basic " ++ String.ofList (base64 (auth.username ++ ":" ++ auth.password).toUTF8.toList)

/-- The client for an instance. -/
def createSetupApiClient (baseUrl : String) (auth : Option SetupCredentials) : SetupApiClient where
  baseUrl := dropTrailingSlash baseUrl
  authHeaders :=
    match auth with
    | some auth => [("authorization", basicAuth auth)]
    | none => []

/-- The error for a request that is answered with a failure. -/
def setupApiError (method path : String) (status : ℕ) : Failure :=
  ⟨.setupApi, "OpenClaw setup API " ++ method ++ " " ++ path ++ " returned " ++ toString status⟩

/-- The document in a reply of the setup API. -/
def settledJson (method path : String) (reply : Except String Response) : Except Failure Json := do
  let response ← settled reply
  if response.ok then settled response.json else .error (setupApiError method path response.status)

/-- A request that reads. -/
def getRequest (client : SetupApiClient) (path : String) : FetchRequest where
  url := client.baseUrl ++ path
  method := "GET"
  headers := client.authHeaders
  body := none

/-- A request with a document. -/
def postRequest (client : SetupApiClient) (path : String) (body : Json) : FetchRequest where
  url := client.baseUrl ++ path
  method := "POST"
  headers := ("content-type", "application/json") :: client.authHeaders
  body := some body.stringify

/-- The document a read is answered with. -/
def getJson (client : SetupApiClient) (path : String) : Tool Json :=
  Prog.ask (I := Platform) (.fetch (getRequest client path)) (settledJson "GET" path)

/-- The document a post is answered with. -/
def postJson (client : SetupApiClient) (path : String) (body : Json) : Tool Json :=
  Prog.ask (I := Platform) (.fetch (postRequest client path body)) (settledJson "POST" path)

/-- The status of the instance. -/
def SetupApiClient.getStatus (client : SetupApiClient) : Tool Json :=
  getJson client "/setup/api/status"

/-- Set the instance up. -/
def SetupApiClient.run (client : SetupApiClient) (payload : Json) : Tool Json :=
  postJson client "/setup/api/run" payload

/-- `configured` is `true` in a status. -/
def isConfigured (status : Json) : Bool :=
  match status.get "configured" with
  | .json (.bool configured) => configured
  | _ => false

/-! ### Health -/

/-- The health check of an instance. -/
def healthRequest (instanceBaseUrl : String) : FetchRequest where
  url := dropTrailingSlash instanceBaseUrl ++ "/setup/healthz"
  method := "GET"
  headers := []
  body := none

/-- What the health check is answered with. -/
def getHealth (instanceBaseUrl : String) : Tool Response :=
  Prog.ask (I := Platform) (.fetch (healthRequest instanceBaseUrl)) settled

end Setup
