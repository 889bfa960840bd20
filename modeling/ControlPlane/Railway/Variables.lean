/-
ControlPlane/Railway/Variables.lean

Reading and writing the variables of a service through the Railway CLI
(`listRailwayVariables`, `readRailwayVariable`, `writeRailwayVariable`).

A read lists every variable and picks one: a name the listing does not have
reads as `undefined`, unless `Object.prototype` has a member of that name.  A
write pipes the value on standard input, so it is never an argument.

Each of the three is a single command whose output is read by a pure function;
`readRailwayVariable_eq` and its siblings say so, and the proofs about longer
tools only use that form.
-/
import ControlPlane.Railway.Effects

namespace Railway

open Js Interaction

/-! ### Commands -/

/-- The command that lists the variables of a service. -/
def variableListArgs (service : String) : List String :=
  ["variable", "list", "--service", service, "--json"]

/-- The arguments of a write; with `--skip-deploys` it starts no deployment. -/
def variableSetArgs (name service : String) (skipDeploys : Bool) : List String :=
  ["variable", "set", name, "--service", service] ++
    (if skipDeploys then ["--skip-deploys"] else []) ++ ["--stdin", "--json"]

/-- The variables of a service. -/
def listRailwayVariables (rt : Runtime) (service : String) : Tool Json := do
  let stdout ← run (variableListArgs service) none
  Prog.ofExcept (parse rt stdout)

/-- One variable of a service, read off the listing. -/
def readRailwayVariable (rt : Runtime) (name service : String) : Tool Value := do
  let vars ← listRailwayVariables rt service
  Prog.ofExcept (readMember vars name)

/-- What a write of a variable is asked to do. -/
structure WriteRailwayVariableOptions where
  name : String
  value : String
  service : String
  skipDeploys : Option Bool

/-- Write a variable; the value goes by standard input. -/
def writeRailwayVariable (options : WriteRailwayVariableOptions) : Tool Unit := do
  let skipDeploys := options.skipDeploys.getD true
  let _ ← run (variableSetArgs options.name options.service skipDeploys) (some options.value)
  pure ()

/-! ### One command each -/

/-- The document a command printed. -/
def printed (rt : Runtime) (reply : Except String String) : Except Failure Json :=
  settled reply >>= parse rt

/-- The variable `name` in what `variable list` was answered with. -/
def variableIn (rt : Runtime) (name : String) (reply : Except String String) :
    Except Failure Value :=
  printed rt reply >>= fun vars => readMember vars name

/-- A command whose output is not looked at. -/
def done (reply : Except String String) : Except Failure Unit :=
  settled reply >>= fun _ => .ok ()

/-- The arguments of a write name the variable and the service. -/
theorem variableSetArgs_inj {name name' service service' : String} {skipDeploys skipDeploys' : Bool}
    (h : variableSetArgs name service skipDeploys = variableSetArgs name' service' skipDeploys') :
    name = name' ∧ service = service' := by
  simp only [variableSetArgs, List.cons_append, List.cons.injEq, true_and] at h
  exact ⟨h.1, h.2.1⟩

theorem listRailwayVariables_eq (rt : Runtime) (service : String) :
    listRailwayVariables rt service =
      Prog.ask (I := Platform) (.run (variableListArgs service) none) (printed rt) := by
  apply Prog.ask_bind_ofExcept

theorem readRailwayVariable_eq (rt : Runtime) (name service : String) :
    readRailwayVariable rt name service =
      Prog.ask (I := Platform) (.run (variableListArgs service) none) (variableIn rt name) := by
  rw [readRailwayVariable, listRailwayVariables_eq]
  apply Prog.ask_bind_ofExcept

theorem writeRailwayVariable_eq (name value service : String) (skipDeploys : Bool) :
    writeRailwayVariable ⟨name, value, service, some skipDeploys⟩ =
      Prog.ask (I := Platform) (.run (variableSetArgs name service skipDeploys) (some value))
        done := by
  show (run (variableSetArgs name service skipDeploys) (some value) >>=
    fun _ => Prog.ofExcept (.ok ())) = _
  apply Prog.ask_bind_ofExcept

/-- What is printed is the document the reply parses to. -/
theorem printed_eq_ok {rt : Runtime} {reply : Except String String} {j : Json} :
    printed rt reply = .ok j ↔ ∃ out, reply = .ok out ∧ rt.jsonParse out = .ok j := by
  cases reply with
  | error message => simp [printed, bind, Except.bind]
  | ok out =>
      show settled (rt.jsonParse out) = .ok j ↔ _
      simp [settled_eq_ok]

theorem plain_printed (rt : Runtime) (reply : Except String String) : Plain (printed rt reply) :=
  plain_settled.bind fun _ => plain_settled

theorem plain_variableIn (rt : Runtime) (name : String) (reply : Except String String) :
    Plain (variableIn rt name reply) :=
  (plain_printed rt reply).bind fun vars => plain_readMember vars name

/-- Reading a variable changes nothing. -/
theorem readRailwayVariable_readOnly (rt : Runtime) (name service : String) :
    ReadOnly (readRailwayVariable rt name service) := by
  rw [readRailwayVariable_eq]
  exact ask_readOnly rfl

end Railway
