/-
ControlPlane/Railway/Effects.lean

What the operator tools can do to the world: run the Railway CLI, read the
clock, sleep, draw random bytes, probe an instance's setup API, `fetch`, and
read or write local files.  Each call stands at the boundary the source injects
its dependencies at (`InstallerDependencies`, `fetchImpl`), so a reply is what
such a dependency resolves to and an `Except.error` is the message it rejects
with.

A tool is a `Tool`: a program over these calls that throws `Failure`s.  A
`Failure` keeps the text of the error and the place that throws it
(`FailureKind`); only the class `RefVerificationError` is told apart by the
source itself.

`Call.isRead` says which calls leave the platform and the instance as they are;
`mutations` are the others among the calls of a trace.
-/
import ControlPlane.Js.Value
import ControlPlane.Interaction.Prog

namespace Railway

open Js Interaction

/-! ### The calls -/

/-- The Basic-auth credentials of an instance; the password is whatever the
stored variable holds. -/
structure SetupAuth where
  username : String
  password : Value

/-- A request of `fetch`, with what the tools set of it. -/
structure FetchRequest where
  url : String
  method : String
  headers : List (String × String)
  body : Option String

/-- A response: its status, and what `response.json()` resolves to. -/
structure Response where
  status : ℕ
  json : Except String Json

/-- `response.ok`. -/
def Response.ok (response : Response) : Bool :=
  200 ≤ response.status && response.status < 300

/-- What the tools ask of the world outside. -/
inductive Call where
  | run (args : List String) (stdin : Option String)
  | now
  | sleep (ms : ℕ)
  | randomBytes (bytes : ℕ)
  | checkSetupStatus (url : String) (auth : SetupAuth)
  | getConfigRaw (baseUrl : String) (auth : SetupAuth)
  | postConfigRaw (baseUrl : String) (auth : SetupAuth) (content : String)
  | getPendingDevices (baseUrl : String) (auth : SetupAuth)
  | approveDevice (baseUrl : String) (auth : SetupAuth) (requestId : String)
  | readTemplateLock
  | readText (path : String)
  | makeDirectory (path : String)
  | writeText (path contents : String)
  | fetch (request : FetchRequest)

/-- The reply of `getConfigRaw`. -/
structure ConfigRaw where
  ok : Bool
  content : String

/-- The reply of `getPendingDevices`. -/
structure PendingDevices where
  ok : Bool
  requestIds : List String

/-- What each call is answered with.  `randomBytes` gives the bytes as
base64url text, `run` the standard output. -/
@[reducible] def Call.Reply : Call → Type
  | .run _ _ => Except String String
  | .now => ℤ
  | .sleep _ => Unit
  | .randomBytes _ => String
  | .checkSetupStatus _ _ => Except String ℕ
  | .getConfigRaw _ _ => Except String ConfigRaw
  | .postConfigRaw _ _ _ => Except String Bool
  | .getPendingDevices _ _ => Except String PendingDevices
  | .approveDevice _ _ _ => Except String Bool
  | .readTemplateLock => Except String String
  | .readText _ => Except String String
  | .makeDirectory _ => Except String Unit
  | .writeText _ _ => Except String Unit
  | .fetch _ => Except String Response

/-- The calls and what they are answered with. -/
abbrev Platform : Interface where
  Call := Call
  Reply := Call.Reply

/-- The replies where nothing can be reached; the clock stands still. -/
def offline : (c : Call) → c.Reply
  | .run _ _ => .error "unreachable"
  | .now => 0
  | .sleep _ => ()
  | .randomBytes _ => ""
  | .checkSetupStatus _ _ => .error "unreachable"
  | .getConfigRaw _ _ => .error "unreachable"
  | .postConfigRaw _ _ _ => .error "unreachable"
  | .getPendingDevices _ _ => .error "unreachable"
  | .approveDevice _ _ _ => .error "unreachable"
  | .readTemplateLock => .error "unreachable"
  | .readText _ => .error "unreachable"
  | .makeDirectory _ => .error "unreachable"
  | .writeText _ _ => .error "unreachable"
  | .fetch _ => .error "unreachable"

/-- The calls of a run in order, with their replies. -/
abbrev Trace : Type := List (Event Platform)

/-! ### Errors -/

/-- The places an error is thrown from. -/
inductive FailureKind where
  /-- a rejected call, or an exception of the language itself -/
  | platform
  | refused
  | writeUncertain
  | refVerification
  | unconfirmed
  | terminalState
  | deployTimeout
  | setupNotReady
  | notAnswering
  | noSetupPassword
  | noGatewayToken
  | noDomain
  | serviceExists
  | serviceNotFound
  | ambiguousServices
  | configRaw
  | devicePairing
  | invalidProfile
  | unsupportedProfile
  | missingSecret
  | openRouter
  | setupApi
  | unhealthy
  | notConfigured
deriving DecidableEq

/-- An error as it is thrown: of which kind, and with which text. -/
structure Failure where
  kind : FailureKind
  message : String
deriving DecidableEq

/-- The code of a tool. -/
abbrev Tool (α : Type) : Type := Prog Platform Failure α

/-- An exception of the language, such as a `TypeError`. -/
def thrown (message : String) : Failure := ⟨.platform, message⟩

/-- Reading a property of `null` or `undefined`. -/
def cannotRead (of name : String) : Failure :=
  thrown ("Cannot read properties of " ++ of ++ " (reading '" ++ name ++ "')")

/-- A fulfilled reply, or the rejection as the error it is thrown as. -/
def settled {α : Type} (reply : Except String α) : Except Failure α :=
  reply.mapError thrown

/-- `await runner.run(args, stdin)`, giving the standard output. -/
def run (args : List String) (stdin : Option String) : Tool String :=
  Prog.ask (I := Platform) (.run args stdin) settled

/-- `JSON.parse(text)`. -/
def parse (rt : Runtime) (text : String) : Except Failure Json :=
  settled (rt.jsonParse text)

/-- `j[name]` for any document: `null` has no properties. -/
def readMember (j : Json) (name : String) : Except Failure Value :=
  match j with
  | .null => .error (cannotRead "null" name)
  | j => .ok (j.get name)

/-- `v[name]` for any value. -/
def readValueMember (v : Value) (name : String) : Except Failure Value :=
  match v with
  | .undefined => .error (cannotRead "undefined" name)
  | .json j => readMember j name
  | .inherited _ => .ok .undefined

theorem readMember_ok_iff {j : Json} {name : String} {v : Value} :
    readMember j name = .ok v ↔ j ≠ .null ∧ v = j.get name := by
  cases j <;> simp [readMember, eq_comm]

@[simp] theorem settled_ok {α : Type} {a : α} : settled (.ok a) = .ok a := rfl

@[simp] theorem settled_error {α : Type} {message : String} :
    settled (.error message : Except String α) = .error (thrown message) := rfl

/-- A reply is settled as it is. -/
theorem settled_eq_ok {α : Type} {reply : Except String α} {a : α} :
    settled reply = .ok a ↔ reply = .ok a := by
  cases reply <;> simp

/-- A computation that only throws what the platform or the language throws. -/
def Plain {α : Type} (x : Except Failure α) : Prop :=
  ∀ e, x = .error e → e.kind = .platform

section Plain

variable {α β : Type} {x : Except Failure α} {f : α → Except Failure β}

theorem plain_ok {a : α} : Plain (.ok a) := by
  intro e h
  cases h

theorem plain_thrown {message : String} : Plain (.error (thrown message) : Except Failure α) := by
  intro e h
  cases h
  rfl

/-- Steps that fail plainly do so one after another. -/
theorem Plain.bind (hx : Plain x) (hf : ∀ a, Plain (f a)) : Plain (x >>= f) := by
  intro e h
  cases x with
  | error e' =>
      cases h
      exact hx e rfl
  | ok a => exact hf a e h

theorem plain_settled {reply : Except String α} : Plain (settled reply) := by
  cases reply with
  | ok a => exact plain_ok
  | error message => exact plain_thrown

theorem plain_readMember (j : Json) (name : String) : Plain (readMember j name) := by
  cases j with
  | null => exact plain_thrown
  | bool | num | str | arr | obj => exact plain_ok

end Plain

/-- `run` with arguments the bound allows. -/
theorem run_only {P : Call → Prop} {args : List String} {stdin : Option String}
    (h : P (.run args stdin)) : (run args stdin).Only P :=
  Prog.only_ask h

/-- The calls that run no command. -/
def NoCommand (c : Call) : Prop := ∀ args stdin, c ≠ .run args stdin

/-- A single call that runs no command. -/
theorem ask_noCommand {α : Type} {c : Call} {g : c.Reply → Except Failure α}
    (h : ∀ args stdin, c ≠ .run args stdin) : (Prog.ask (I := Platform) c g).Only NoCommand :=
  Prog.only_ask h

/-! ### Reads and mutations -/

/-- The commands that only list. -/
def isListing : List String → Bool
  | ["variable", "list", "--service", _, "--json"] => true
  | ["service", "list", "--json"] => true
  | ["domain", "list", "--service", _, "--json"] => true
  | _ => false

/-- Whether a call leaves the platform, the instance and the local files as they
are. -/
def Call.isRead : Call → Bool
  | .run args _ => isListing args
  | .now => true
  | .sleep _ => true
  | .randomBytes _ => true
  | .checkSetupStatus _ _ => true
  | .getConfigRaw _ _ => true
  | .postConfigRaw _ _ _ => false
  | .getPendingDevices _ _ => true
  | .approveDevice _ _ _ => false
  | .readTemplateLock => true
  | .readText _ => true
  | .makeDirectory _ => false
  | .writeText _ _ => false
  | .fetch request => request.method == "GET"

/-- The calls of a trace that are not reads, in order. -/
def mutations (t : Trace) : List Call :=
  (t.map Event.call).filter fun c => !c.isRead

@[simp] theorem mutations_nil : mutations [] = [] := rfl

@[simp] theorem mutations_append {t t' : Trace} :
    mutations (t ++ t') = mutations t ++ mutations t' := by
  simp [mutations]

/-- A read is no mutation. -/
theorem mutations_cons_of_isRead {e : Event Platform} {t : Trace} (h : e.call.isRead = true) :
    mutations (e :: t) = mutations t := by
  simp [mutations, h]

/-- Any other call is one. -/
theorem mutations_cons_of_not_isRead {e : Event Platform} {t : Trace}
    (h : e.call.isRead = false) : mutations (e :: t) = e.call :: mutations t := by
  simp [mutations, h]

/-- The mutations are the calls that are no reads. -/
theorem mem_mutations {c : Call} {t : Trace} :
    c ∈ mutations t ↔ (∃ e ∈ t, e.call = c) ∧ c.isRead = false := by
  simp [mutations]

/-- A tool that only reads. -/
abbrev ReadOnly {α : Type} (p : Tool α) : Prop :=
  p.Only fun c : Call => c.isRead = true

theorem ask_readOnly {α : Type} {c : Call} {g : c.Reply → Except Failure α}
    (h : c.isRead = true) : ReadOnly (Prog.ask (I := Platform) c g) :=
  Prog.only_ask h

/-- A run of what only reads has no mutation. -/
theorem ReadOnly.mutations_eq_nil {α : Type} {p : Tool α} {t : Trace} {o : Outcome Failure α}
    (hp : ReadOnly p) (h : p.Exec t o) : mutations t = [] := by
  simp only [mutations, List.filter_eq_nil_iff, List.mem_map]
  rintro c ⟨e, he, rfl⟩
  have hread : e.call.isRead = true := hp.exec h e he
  simp [hread]

end Railway
