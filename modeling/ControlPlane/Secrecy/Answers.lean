/-
ControlPlane/Secrecy/Answers.lean

Two worlds that differ in their secrets.

A world stores the variables of each service.  `AlikeStores` is what two of them have
in common: the names, which values are empty, and the refs of the template and of the
application; every other value may differ.  `answers` says how a call is answered in
both: a listing shows the variables stored, a write stores what was piped to it, drawn
bytes and minted keys differ, and all else is the same.

What is compared of two calls is what they show besides a secret (`SameView`): of a
command its whole argument vector, and neither the standard input nor a password.
-/
import ControlPlane.Interaction.Lockstep
import ControlPlane.Setup.Orphans

namespace Secrecy

open Js Interaction Railway Setup

/-! ### The variables of two worlds -/

/-- The variables stored, by service and name. -/
abbrev Store := String → String → Option String

/-- The store with one variable set. -/
def Store.set (vars : Store) (service name value : String) : Store := fun s n =>
  if s = service ∧ n = name then some value else vars s n

/-- The variables whose values are no secrets: both are read to be compared. -/
def publicNames : List String := ["OPENCLAW_TEMPLATE_REF", "OPENCLAW_GIT_REF"]

/-- What two texts stored under one name have in common. -/
structure AlikeTexts (name v v' : String) : Prop where
  empty : v = "" ↔ v' = ""
  same : name ∈ publicNames → v = v'

/-- What a name is stored as in two worlds. -/
inductive AlikeStored (name : String) : Option String → Option String → Prop
  | unset : AlikeStored name none none
  | set {v v' : String} (h : AlikeTexts name v v') : AlikeStored name (some v) (some v')

/-- The two stores of two worlds. -/
abbrev Stores := Store × Store

/-- The two stores differ in the values of secrets only. -/
def AlikeStores (s : Stores) : Prop :=
  ∀ service name, AlikeStored name (s.1 service name) (s.2 service name)

/-- Both stores with a variable set, each to its value. -/
def Stores.set (s : Stores) (service name value value' : String) : Stores :=
  (s.1.set service name value, s.2.set service name value')

/-- Both worlds may be given a value for one variable. -/
theorem AlikeStores.set {s : Stores} (h : AlikeStores s) {service name value value' : String}
    (hvalues : AlikeTexts name value value') : AlikeStores (s.set service name value value') := by
  intro service' name'
  show AlikeStored name' (if _ then _ else _) (if _ then _ else _)
  by_cases hsame : service' = service ∧ name' = name
  · rw [if_pos hsame, if_pos hsame, hsame.2]
    exact .set hvalues
  · rw [if_neg hsame, if_neg hsame]
    exact h service' name'

/-! ### How two calls are answered -/

/-- The document shows the variables. -/
def Shows (vars : String → Option String) (j : Json) : Prop :=
  ∃ fields, j = .obj fields ∧ ∀ name, fields.lookup name = (vars name).map .str

/-- The calls show the same, apart from secrets. -/
inductive SameView : Call → Call → Prop
  | run {args : List String} {stdin stdin' : Option String} :
      SameView (.run args stdin) (.run args stdin')
  | now : SameView .now .now
  | sleep {ms : ℕ} : SameView (.sleep ms) (.sleep ms)
  | randomBytes {bytes : ℕ} : SameView (.randomBytes bytes) (.randomBytes bytes)
  | checkSetupStatus {url username : String} {password password' : Value} :
      SameView (.checkSetupStatus url ⟨username, password⟩)
        (.checkSetupStatus url ⟨username, password'⟩)
  | getConfigRaw {baseUrl username : String} {password password' : Value} :
      SameView (.getConfigRaw baseUrl ⟨username, password⟩)
        (.getConfigRaw baseUrl ⟨username, password'⟩)
  | postConfigRaw {baseUrl username content : String} {password password' : Value} :
      SameView (.postConfigRaw baseUrl ⟨username, password⟩ content)
        (.postConfigRaw baseUrl ⟨username, password'⟩ content)
  | getPendingDevices {baseUrl username : String} {password password' : Value} :
      SameView (.getPendingDevices baseUrl ⟨username, password⟩)
        (.getPendingDevices baseUrl ⟨username, password'⟩)
  | approveDevice {baseUrl username requestId : String} {password password' : Value} :
      SameView (.approveDevice baseUrl ⟨username, password⟩ requestId)
        (.approveDevice baseUrl ⟨username, password'⟩ requestId)
  | readTemplateLock : SameView .readTemplateLock .readTemplateLock
  | readText {path : String} : SameView (.readText path) (.readText path)
  | makeDirectory {path : String} : SameView (.makeDirectory path) (.makeDirectory path)
  | writeText {path contents contents' : String} :
      SameView (.writeText path contents) (.writeText path contents')
  | fetch {url method : String} {headers : List (String × String)} {body body' : Option String} :
      SameView (.fetch ⟨url, method, headers, body⟩) (.fetch ⟨url, method, headers, body'⟩)

theorem sameView_refl (c : Call) : SameView c c := by
  cases c <;> constructor

/-- Two responses that mint keys: the bodies differ in the key. -/
structure DifferInKey (r r' : Response) : Prop where
  status : r.status = r'.status
  body : ∃ before after key key', r.json = .ok (.obj (before ++ ("key", .str key) :: after)) ∧
    r'.json = .ok (.obj (before ++ ("key", .str key') :: after)) ∧ (key = "" ↔ key' = "")

/-- The commands about variables. -/
def aboutVariables : Call → Bool
  | .run args _ => args.head? == some "variable"
  | _ => false

/-- How a call is answered in the two worlds. -/
inductive Answers (rt : Runtime) : Stores → Event Platform × Event Platform → Stores → Prop
  /-- a listing shows the variables stored -/
  | listed {s : Stores} {service out out' : String} {args : List String} {j j' : Json}
      (hargs : args = variableListArgs service) (hj : rt.jsonParse out = .ok j)
      (hj' : rt.jsonParse out' = .ok j') (hshow : Shows (s.1 service) j)
      (hshow' : Shows (s.2 service) j') :
      Answers rt s (⟨.run args none, .ok out⟩, ⟨.run args none, .ok out'⟩) s
  /-- or fails -/
  | notListed {s : Stores} {service : String} {args : List String} {reply : Except String String}
      {e : Failure} (hargs : args = variableListArgs service) (hreply : printed rt reply = .error e) :
      Answers rt s (⟨.run args none, reply⟩, ⟨.run args none, reply⟩) s
  /-- a write that is rejected may have stored the value all the same -/
  | stored {s : Stores} {service name value value' : String} {skipDeploys : Bool}
      {args : List String} {reply : Except String String}
      (hargs : args = variableSetArgs name service skipDeploys) :
      Answers rt s (⟨.run args (some value), reply⟩, ⟨.run args (some value'), reply⟩)
        (s.set service name value value')
  | notStored {s : Stores} {service name value value' message : String} {skipDeploys : Bool}
      {args : List String} (hargs : args = variableSetArgs name service skipDeploys) :
      Answers rt s (⟨.run args (some value), .error message⟩,
        ⟨.run args (some value'), .error message⟩) s
  /-- the bytes drawn are secrets -/
  | drawn {s : Stores} {bytes : ℕ} {text text' : String} (h : text = "" ↔ text' = "") :
      Answers rt s (⟨.randomBytes bytes, text⟩, ⟨.randomBytes bytes, text'⟩) s
  /-- and so are the keys minted -/
  | minted {s : Stores} {request : FetchRequest} {r r' : Response}
      (hmints : Mints request) (h : DifferInKey r r') :
      Answers rt s (⟨.fetch request, .ok r⟩, ⟨.fetch request, .ok r'⟩) s
  /-- every other reply is the same -/
  | same {s : Stores} {c c' : Call} {r : c.Reply} {r' : c'.Reply} (hview : SameView c c')
      (hother : aboutVariables c = false) (hr : HEq r r') :
      Answers rt s (⟨c, r⟩, ⟨c', r'⟩) s

/-- Two worlds that differ in their secrets. -/
def secrets (rt : Runtime) : Pairing Platform Stores where
  same := SameView
  answers := ⟨Answers rt⟩

/-! ### What an answer tells -/

/-- The calls answered the same in both worlds. -/
def Quiet : Call → Prop
  | .run args _ => args.head? ≠ some "variable"
  | .randomBytes _ => False
  | .fetch request => ¬ Mints request
  | _ => True

section Answers

variable {rt : Runtime} {s s' : Stores} {service name : String}

/-- A quiet call is answered alike and changes nothing. -/
theorem Answers.quiet {c c' : Call} {r : c.Reply} {r' : c'.Reply}
    (h : Answers rt s (⟨c, r⟩, ⟨c', r'⟩) s') (hc : Quiet c) : s' = s ∧ HEq r r' := by
  cases h with
  | listed hargs =>
      subst hargs
      exact absurd rfl hc
  | notListed hargs =>
      subst hargs
      exact absurd rfl hc
  | stored hargs =>
      subst hargs
      exact absurd rfl hc
  | notStored hargs =>
      subst hargs
      exact absurd rfl hc
  | drawn => exact absurd hc id
  | minted hmints => exact absurd hmints hc
  | same _ _ hr => exact ⟨rfl, hr⟩

/-- A listing shows each world its own variables. -/
theorem Answers.listing {r r' : Except String String}
    (h : Answers rt s (⟨.run (variableListArgs service) none, r⟩,
      ⟨.run (variableListArgs service) none, r'⟩) s') :
    s' = s ∧ ((∃ j j', printed rt r = .ok j ∧ printed rt r' = .ok j' ∧ Shows (s.1 service) j ∧
      Shows (s.2 service) j') ∨ ∃ e, printed rt r = .error e ∧ printed rt r' = .error e) := by
  cases h with
  | listed hargs hj hj' hshow hshow' =>
      obtain rfl : service = _ := by simpa [variableListArgs] using hargs
      refine ⟨rfl, .inl ⟨_, _, ?_, ?_, hshow, hshow'⟩⟩
      · exact printed_eq_ok.mpr ⟨_, rfl, hj⟩
      · exact printed_eq_ok.mpr ⟨_, rfl, hj'⟩
  | notListed hargs hreply => exact ⟨rfl, .inr ⟨_, hreply, hreply⟩⟩
  | same _ hother => cases hother

/-- A write is answered alike, and stores to each world its value. -/
theorem Answers.write {value value' : String} {skipDeploys : Bool} {r r' : Except String String}
    (h : Answers rt s (⟨.run (variableSetArgs name service skipDeploys) (some value), r⟩,
      ⟨.run (variableSetArgs name service skipDeploys) (some value'), r'⟩) s') :
    r = r' ∧ (s' = s.set service name value value' ∨ s' = s ∧ ∃ message, r = .error message) := by
  cases h with
  | stored hargs =>
      obtain ⟨rfl, rfl⟩ := variableSetArgs_inj hargs
      exact ⟨rfl, .inl rfl⟩
  | notStored => exact ⟨rfl, .inr ⟨rfl, _, rfl⟩⟩
  | same _ hother =>
      exact absurd hother Bool.true_eq_false.mp

/-- What is drawn may differ, unless it is empty. -/
theorem Answers.random {bytes : ℕ} {text text' : String}
    (h : Answers rt s (⟨.randomBytes bytes, text⟩, ⟨.randomBytes bytes, text'⟩) s') :
    s' = s ∧ (text = "" ↔ text' = "") := by
  cases h with
  | drawn h => exact ⟨rfl, h⟩
  | same _ _ hr =>
      obtain rfl := eq_of_heq hr
      exact ⟨rfl, Iff.rfl⟩

/-- A mint is answered alike up to the key. -/
theorem Answers.mint {request : FetchRequest} {r r' : Except String Response}
    (h : Answers rt s (⟨.fetch request, r⟩, ⟨.fetch request, r'⟩) s') :
    s' = s ∧ (r = r' ∨ ∃ x x', r = .ok x ∧ r' = .ok x' ∧ DifferInKey x x') := by
  cases h with
  | minted _ h => exact ⟨rfl, .inr ⟨_, _, rfl, rfl, h⟩⟩
  | same _ _ hr => exact ⟨rfl, .inl (eq_of_heq hr)⟩

end Answers

end Secrecy
