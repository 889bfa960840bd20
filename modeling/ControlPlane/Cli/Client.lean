/-
ControlPlane/Cli/Client.lean

The two updates of the client command line (`client-cli.ts`).

Each parser has its own switch over the flags, written here as a table; the loop over the
arguments is `scan`.  A parser fills partial options and then asks for the three that have to
be there.  A number is read as the language reads it, a run of digits rounded to a double.
-/
import ControlPlane.Cli.Arguments
import ControlPlane.Railway.UpdateRef
import ControlPlane.Js.Text

namespace Cli

open Js

/-! ### Values -/

/-- The error for a flag without its value. -/
def missingValue (flag : String) : String := "Missing value for " ++ flag

/-- The error for a number that is none, or not positive. -/
def notPositive (flag : String) : String := flag ++ " must be a positive integer."

/-- The error for an argument that is no flag. -/
def unknownArgument (arg : String) : String := "Unknown argument: " ++ arg

/-- `value.startsWith("--")` -/
def startsWithDashes (value : String) : Bool := ['-', '-'].isPrefixOf value.toList

/-- The value of a flag, which has to be there. -/
def requireValue (flag : String) (value : Option String) : Except String String :=
  match value with
  | none => .error (missingValue flag)
  | some value =>
    if value = "" || startsWithDashes value then .error (missingValue flag) else .ok value

/-- `Number.parseInt(text, 10)` of a run of digits -/
def parseDigits (text : String) : Numeric :=
  match readInteger 10 text.toList with
  | some n => toDouble n
  | none => .nan

/-- The number, when `Number.isSafeInteger(n) && n > 0`. -/
def positiveSafeInteger : Numeric → Option ℕ
  | .finite q => if q.den = 1 ∧ 0 < q.num ∧ q.num < 2 ^ 53 then some q.num.toNat else none
  | _ => none

/-- The value of a flag as a positive integer. -/
def parseIntegerFlag (flag : String) (value : Option String) : Except String ℕ := do
  let rawValue ← requireValue flag value
  -- `/^\d+$/`
  if rawValue.toList.isEmpty || !rawValue.toList.all fun c => '0' ≤ c && c ≤ '9' then
    .error (notPositive flag)
  else
    match positiveSafeInteger (parseDigits rawValue) with
    | some parsed => .ok parsed
    | none => .error (notPositive flag)

/-- `options.member`, which counts as missing when it is empty -/
def required (member : Option String) (message : String) : Except String String :=
  match member with
  | none => .error message
  | some text => if text = "" then .error message else .ok text

/-- The error when the expected ref is not given. -/
def missingExpectedCurrentRef : String :=
  "Missing required --expected-current-ref. State the ref you believe is currently set; " ++
    "the update reads the live value first and aborts if it does not match, so you cannot " ++
    "redeploy a client without knowing what you are replacing."

/-! ### The template ref -/

/-- The options of `update-ref`. -/
structure UpdateClientTemplateRefOptions where
  service : String
  templateRef : String
  expectedCurrentRef : String
  forceRedeploy : Option Bool
  setupUsername : Option String
  pollSeconds : Option ℕ
  timeoutMinutes : Option ℕ

/-- `Partial<UpdateClientTemplateRefOptions>` -/
@[ext]
structure PartialTemplateRefOptions where
  service : Option String
  templateRef : Option String
  expectedCurrentRef : Option String
  forceRedeploy : Option Bool
  setupUsername : Option String
  pollSeconds : Option ℕ
  timeoutMinutes : Option ℕ

/-- The flags of `update-ref`. -/
def updateRefFlag : String → Option (Flag String PartialTemplateRefOptions)
  | "--service" => some (.taking fun value =>
      (requireValue "--service" value).map fun v options => { options with service := some v })
  | "--template-ref" => some (.taking fun value =>
      (requireValue "--template-ref" value).map fun v options =>
        { options with templateRef := some v })
  | "--expected-current-ref" => some (.taking fun value =>
      (requireValue "--expected-current-ref" value).map fun v options =>
        { options with expectedCurrentRef := some v })
  | "--setup-username" => some (.taking fun value =>
      (requireValue "--setup-username" value).map fun v options =>
        { options with setupUsername := some v })
  | "--force-redeploy" => some (.alone fun options => { options with forceRedeploy := some true })
  | "--poll-seconds" => some (.taking fun value =>
      (parseIntegerFlag "--poll-seconds" value).map fun v options =>
        { options with pollSeconds := some v })
  | "--timeout-minutes" => some (.taking fun value =>
      (parseIntegerFlag "--timeout-minutes" value).map fun v options =>
        { options with timeoutMinutes := some v })
  | _ => none

/-- The options the arguments of `update-ref` write. -/
def parseUpdateRefArgs (args : List String) : Except String UpdateClientTemplateRefOptions := do
  let options ← scan updateRefFlag unknownArgument args ⟨none, none, none, none, none, none, none⟩
  let service ← required options.service "Missing required --service"
  let templateRef ← required options.templateRef "Missing required --template-ref"
  let expectedCurrentRef ← required options.expectedCurrentRef missingExpectedCurrentRef
  return {
    service := service
    templateRef := templateRef
    expectedCurrentRef := expectedCurrentRef
    forceRedeploy := options.forceRedeploy
    setupUsername := options.setupUsername
    pollSeconds := options.pollSeconds
    timeoutMinutes := options.timeoutMinutes }

/-! ### The OpenClaw ref -/

/-- The options of `update-openclaw-ref`. -/
structure UpdateClientOpenClawRefOptions where
  service : String
  openclawRef : String
  expectedCurrentRef : String
  forceRedeploy : Option Bool
  setupUsername : Option String
  pollSeconds : Option ℕ
  timeoutMinutes : Option ℕ

/-- `Partial<UpdateClientOpenClawRefOptions>` -/
structure PartialOpenClawRefOptions where
  service : Option String
  openclawRef : Option String
  expectedCurrentRef : Option String
  forceRedeploy : Option Bool
  setupUsername : Option String
  pollSeconds : Option ℕ
  timeoutMinutes : Option ℕ

/-- The flags of `update-openclaw-ref`. -/
def updateOpenClawRefFlag : String → Option (Flag String PartialOpenClawRefOptions)
  | "--service" => some (.taking fun value =>
      (requireValue "--service" value).map fun v options => { options with service := some v })
  | "--expected-current-ref" => some (.taking fun value =>
      (requireValue "--expected-current-ref" value).map fun v options =>
        { options with expectedCurrentRef := some v })
  | "--setup-username" => some (.taking fun value =>
      (requireValue "--setup-username" value).map fun v options =>
        { options with setupUsername := some v })
  | "--force-redeploy" => some (.alone fun options => { options with forceRedeploy := some true })
  | "--openclaw-ref" => some (.taking fun value =>
      (requireValue "--openclaw-ref" value).map fun v options =>
        { options with openclawRef := some v })
  | "--poll-seconds" => some (.taking fun value =>
      (parseIntegerFlag "--poll-seconds" value).map fun v options =>
        { options with pollSeconds := some v })
  | "--timeout-minutes" => some (.taking fun value =>
      (parseIntegerFlag "--timeout-minutes" value).map fun v options =>
        { options with timeoutMinutes := some v })
  | _ => none

/-- The options the arguments of `update-openclaw-ref` write. -/
def parseUpdateOpenClawRefArgs (args : List String) :
    Except String UpdateClientOpenClawRefOptions := do
  let options ←
    scan updateOpenClawRefFlag unknownArgument args ⟨none, none, none, none, none, none, none⟩
  let service ← required options.service "Missing required --service"
  let openclawRef ← required options.openclawRef "Missing required --openclaw-ref"
  let expectedCurrentRef ← required options.expectedCurrentRef missingExpectedCurrentRef
  return {
    service := service
    openclawRef := openclawRef
    expectedCurrentRef := expectedCurrentRef
    forceRedeploy := options.forceRedeploy
    setupUsername := options.setupUsername
    pollSeconds := options.pollSeconds
    timeoutMinutes := options.timeoutMinutes }

/-! ### The updates that are run -/

/-- What the two commands have in common. -/
def UpdateClientTemplateRefOptions.shared (options : UpdateClientTemplateRefOptions) :
    Railway.UpdateRefOptions where
  service := options.service
  ref := options.templateRef
  expectedCurrentRef := options.expectedCurrentRef
  forceRedeploy := options.forceRedeploy
  setupUsername := options.setupUsername
  pollSeconds := options.pollSeconds
  timeoutMinutes := options.timeoutMinutes

/-- What the two commands have in common. -/
def UpdateClientOpenClawRefOptions.shared (options : UpdateClientOpenClawRefOptions) :
    Railway.UpdateRefOptions where
  service := options.service
  ref := options.openclawRef
  expectedCurrentRef := options.expectedCurrentRef
  forceRedeploy := options.forceRedeploy
  setupUsername := options.setupUsername
  pollSeconds := options.pollSeconds
  timeoutMinutes := options.timeoutMinutes

/-- `update-ref`, as `main` runs it: nothing is run before the arguments are parsed. -/
def mainUpdateRef (rt : Runtime) (fuel : ℕ) (rest : List String) :
    Except String (Railway.Tool Railway.UpdateRefResult) :=
  (parseUpdateRefArgs rest).map fun options =>
    Railway.updateClientTemplateRef rt fuel options.shared

/-- `update-openclaw-ref`, as `main` runs it. -/
def mainUpdateOpenClawRef (rt : Runtime) (fuel : ℕ) (rest : List String) :
    Except String (Railway.Tool Railway.UpdateRefResult) :=
  (parseUpdateOpenClawRefArgs rest).map fun options =>
    Railway.updateClientOpenClawRef rt fuel options.shared

end Cli
