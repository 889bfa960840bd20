/-
ControlPlane/Setup/Profile.lean

The client profile a private generator produces, and its parser
(`parseClientProfile`).

A schema is a reader of a value at a path.  The schemas of the library the profile's are
made of are a parameter (`Zod`): a reader of an object looks at the members in the order
they are declared in, and the error is the first issue of the validation, with the path to
the value.  Members no schema names are let through and dropped here: nothing reads them.
-/
import ControlPlane.Railway.Effects

namespace Setup

open Js Railway

/-! ### The profile -/

/-- The limits of a key that is minted. -/
structure KeyProvisioning where
  spendLimitUsd : Number
  limitReset : String

/-- The flows of a setup. -/
inductive SetupFlow where
  | quickstart
  | advanced
  | manual
deriving DecidableEq

/-- The texts of the flows. -/
def SetupFlow.text : SetupFlow → String
  | .quickstart => "quickstart"
  | .advanced => "advanced"
  | .manual => "manual"

/-- A model provider of a client. -/
structure ModelProviderAttachment where
  authGroup : String
  authChoice : String
  flow : SetupFlow
  keyProvisioning : Option KeyProvisioning
  customProviderApiKeyEnv : Option String
  requiredSecretNames : List String

/-- A channel of a client. -/
structure ChannelAttachment where
  type : String
  requiredSecretNames : List String

/-- An MCP server of a client. -/
structure McpServerAttachment where
  name : String
  transport : String
  url : Option String
  requiredSecretNames : List String

/-- What a client is to be set up with. -/
structure ClientProfile where
  modelProviders : List ModelProviderAttachment
  channels : List ChannelAttachment
  mcpServers : List McpServerAttachment

/-! ### Readers -/

/-- What is wrong with a document, and where. -/
structure Issue where
  path : List String
  message : String

/-- A schema: what validates a value at a path. -/
abbrev Reader (α : Type) : Type := List String → Value → Except Issue α

/-- The schemas of zod that the profile is made of.  They validate in the order of the
declarations, and their error is the first issue. -/
class Zod where
  /-- `z.string().min(1)` -/
  nonEmptyString : Reader String
  /-- `z.number().positive()` -/
  positiveNumber : Reader Number
  /-- `z.literal(expected)` -/
  literal : String → Reader Unit
  /-- `z.enum(["quickstart", "advanced", "manual"])` -/
  setupFlow : Reader SetupFlow
  /-- `schema.optional()` -/
  optional : {α : Type} → Reader α → Reader (Option α)
  /-- `z.array(schema)` -/
  arrayOf : {α : Type} → Reader α → Reader (List α)
  /-- `z.array(schema).default([])` -/
  arrayOrEmpty : {α : Type} → Reader α → Reader (List α)
  /-- `z.object({ ... }).passthrough()`, with what reads the members -/
  objectWith : {α : Type} → (List String → Json → Except Issue α) → Reader α

open Zod

/-- A member of an object. -/
def member {α : Type} (read : Reader α) (path : List String) (j : Json) (name : String) :
    Except Issue α :=
  read (path ++ [name]) (j.get name)

/-! ### Schemas -/

/-- `KeyProvisioningSchema`. -/
def KeyProvisioningSchema [Zod] : Reader KeyProvisioning := objectWith fun path j => do
  member (literal "openrouter-provisioning-api") path j "method"
  let spendLimitUsd ← member positiveNumber path j "spendLimitUsd"
  let limitReset ← member nonEmptyString path j "limitReset"
  .ok ⟨spendLimitUsd, limitReset⟩

/-- The names of secrets, each of which says something. -/
def requiredSecretNames [Zod] : Reader (List String) := arrayOf nonEmptyString

/-- What a model provider has besides its secrets. -/
structure ModelProviderNonSecretConfig where
  authGroup : String
  authChoice : String
  flow : SetupFlow
  keyProvisioning : Option KeyProvisioning
  customProviderApiKeyEnv : Option String

/-- `ModelProviderNonSecretConfigSchema`. -/
def ModelProviderNonSecretConfigSchema [Zod] : Reader ModelProviderNonSecretConfig :=
  objectWith fun path j => do
    let authGroup ← member nonEmptyString path j "authGroup"
    let authChoice ← member nonEmptyString path j "authChoice"
    let flow ← member setupFlow path j "flow"
    let keyProvisioning ← member (optional KeyProvisioningSchema) path j "keyProvisioning"
    let customProviderApiKeyEnv ←
      member (optional nonEmptyString) path j "customProviderApiKeyEnv"
    .ok ⟨authGroup, authChoice, flow, keyProvisioning, customProviderApiKeyEnv⟩

/-- `ModelProviderAttachmentSchema`. -/
def ModelProviderAttachmentSchema [Zod] : Reader ModelProviderAttachment :=
  objectWith fun path j => do
    let config ← member ModelProviderNonSecretConfigSchema path j "nonSecretConfig"
    let names ← member requiredSecretNames path j "requiredSecretNames"
    .ok ⟨config.authGroup, config.authChoice, config.flow, config.keyProvisioning,
      config.customProviderApiKeyEnv, names⟩

/-- `ChannelAttachmentSchema`. -/
def ChannelAttachmentSchema [Zod] : Reader ChannelAttachment := objectWith fun path j => do
  let type ← member nonEmptyString path j "type"
  let names ← member requiredSecretNames path j "requiredSecretNames"
  .ok ⟨type, names⟩

/-- `McpServerAttachmentSchema`. -/
def McpServerAttachmentSchema [Zod] : Reader McpServerAttachment := objectWith fun path j => do
  let name ← member nonEmptyString path j "name"
  let transport ← member nonEmptyString path j "transport"
  let url ← member (optional nonEmptyString) path j "url"
  let names ← member requiredSecretNames path j "requiredSecretNames"
  .ok ⟨name, transport, url, names⟩

/-- The schema of the attachments. -/
def AttachmentsSchema [Zod] : Reader ClientProfile := objectWith fun path j => do
  let modelProviders ← member (arrayOrEmpty ModelProviderAttachmentSchema) path j "modelProviders"
  let channels ← member (arrayOrEmpty ChannelAttachmentSchema) path j "channels"
  let mcpServers ← member (arrayOrEmpty McpServerAttachmentSchema) path j "mcpServers"
  .ok ⟨modelProviders, channels, mcpServers⟩

/-- `ClientProfileSchema`. -/
def ClientProfileSchema [Zod] : Reader ClientProfile := objectWith fun path j =>
  member AttachmentsSchema path j "attachments"

/-- The rejection of a document for its first issue. -/
def invalidProfile (issue : Issue) : Failure :=
  let path := if issue.path = [] then "(root)" else ".".intercalate issue.path
  ⟨.invalidProfile, "Invalid client profile at '" ++ path ++ "': " ++ issue.message⟩

/-- The profile a document is, or the rejection. -/
def parseClientProfile [Zod] (candidateProfile : Json) : Except Failure ClientProfile :=
  (ClientProfileSchema [] (.json candidateProfile)).mapError invalidProfile

/-! ### Schemas that run -/

/-- The name of the type of a value. -/
def typeName : Value → String
  | .undefined => "undefined"
  | .json .null => "null"
  | .json (.bool _) => "boolean"
  | .json (.num n) => if n.text = "NaN" then "nan" else "number"
  | .json (.str _) => "string"
  | .json (.arr _) => "array"
  | .json (.obj _) => "object"
  | .inherited _ => "function"

/-- The issue about a value of another type. -/
def invalidType (expected : String) (path : List String) (v : Value) : Issue :=
  ⟨path, if v.isUndefined then "Required"
    else "Expected " ++ expected ++ ", received " ++ typeName v⟩

def isPositive (n : Number) : Bool := n.text != "0" && n.text.toList.head? != some '-'

/-- The elements from the `index`th on. -/
def readItems {α : Type} (read : Reader α) (path : List String) :
    ℕ → List Json → Except Issue (List α)
  | _, [] => .ok []
  | index, item :: rest => do
    let first ← read (path ++ [toString index]) (.json item)
    let others ← readItems read path (index + 1) rest
    .ok (first :: others)

/-- An array, read element by element. -/
def readArray {α : Type} (read : Reader α) : Reader (List α) := fun path v =>
  match v.asArray with
  | none => .error (invalidType "array" path v)
  | some items => readItems read path 0 items

def readText : Reader String := fun path v =>
  match v.asString with
  | none => .error (invalidType "string" path v)
  | some s =>
    if s = "" then .error ⟨path, "String must contain at least 1 character(s)"⟩ else .ok s

def readPositive : Reader Number := fun path v =>
  match v.asNumber with
  | none => .error (invalidType "number" path v)
  | some n =>
    if n.text = "NaN" then .error (invalidType "number" path v)
    else if isPositive n then .ok n
    else .error ⟨path, "Number must be greater than 0"⟩

def readLiteral (expected : String) : Reader Unit := fun path v =>
  if v.isString expected then .ok ()
  else .error ⟨path, "Invalid literal value, expected " ++ quote expected⟩

def readFlow : Reader SetupFlow := fun path v =>
  match v.asString with
  | none => .error (invalidType "'quickstart' | 'advanced' | 'manual'" path v)
  | some "quickstart" => .ok .quickstart
  | some "advanced" => .ok .advanced
  | some "manual" => .ok .manual
  | some s => .error ⟨path, "Invalid enum value. Expected 'quickstart' | 'advanced' | 'manual', " ++
      "received '" ++ s ++ "'"⟩

/-- An object, read by what reads its members. -/
def readRecord {α : Type} (read : List String → Json → Except Issue α) : Reader α := fun path v =>
  match v with
  | .json (.obj fields) => read path (.obj fields)
  | v => .error (invalidType "object" path v)

/-- Schemas that do with documents what zod's do, for the runs on fixed documents. -/
instance zodReaders : Zod where
  nonEmptyString := readText
  positiveNumber := readPositive
  literal := readLiteral
  setupFlow := readFlow
  optional read path v := if v.isUndefined then .ok none else (read path v).map some
  arrayOf := readArray
  arrayOrEmpty read path v := if v.isUndefined then .ok [] else readArray read path v
  objectWith := readRecord

end Setup
