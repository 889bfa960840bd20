/-
ControlPlane/Railway/Operators.lean

Several operators at work on one platform.

Each operator runs a ref update or a token rotation; the calls of all of them come in any
order, commands may fail with or without an effect, and any of the runs may have got no
further than somewhere in its middle.  The comparison a ref update makes before it writes is
not one step with the write, so it cannot be a compare-and-set.  It is one but for races:

`operators_compareAndSet` says that a variable changes only by the one write of a change that
is aimed at it, and that the value replaced is the one this operator has named, unless
another operator has changed the variable since it was read.
-/
import ControlPlane.Interaction.Interleave
import ControlPlane.Railway.Routing
import Mathlib.Data.List.Nodup

namespace Railway

open Js Interaction

/-! ### A variable of a service -/

/-- The services of the linked project have names of their own. -/
def Distinct (s : State) : Prop := (s.services.map Service.name).Nodup

/-- The variable `name` of the service `n`. -/
def State.register (s : State) (n name : String) : Option String :=
  (s.services.find? fun service => service.name = n).bind (·.variable name)

/-- How a variable reads. -/
def asRead : Option String → Value
  | none => .undefined
  | some text => .json (.str text)

section Register

variable {rt : Runtime} {s s' : State} {n m name key value : String} {service : Service}
  {reply : Except String String}

/-- A variable that is set has its value; the others keep theirs. -/
theorem setVariable_variable : (Service.setVariable name value service).variable key =
    if key = name then some value else service.variable key := by
  show ((name, value) :: service.vars).lookup key = _
  rw [List.lookup_cons]
  by_cases h : key = name
  · rw [if_pos h, beq_iff_eq.mpr h]
  · rw [if_neg h, beq_eq_false_iff_ne.mpr h]
    rfl

/-- Setting a variable leaves the names of the services. -/
theorem names_setVariable : (s.onService n (.setVariable name value)).services.map Service.name =
    s.services.map Service.name := by
  rw [State.onService, withServices_services, List.map_map]
  apply List.map_congr_left
  intro service _
  show (if service.name = n then _ else service).name = service.name
  split <;> rfl

/-- Setting a variable changes that one, or nothing when the service is not there. -/
theorem register_setVariable : (s.onService n (.setVariable name value)).register m key =
      s.register m key ∨
    m = n ∧ key = name ∧ (s.onService n (.setVariable name value)).register m key = some value := by
  have hname : (fun service : Service => decide (service.name = m)) ∘
      (fun service => if service.name = n then service.setVariable name value else service) =
      fun service => decide (service.name = m) := by
    funext service
    show decide ((if service.name = n then _ else service).name = m) = _
    split <;> rfl
  unfold State.register
  rw [State.onService, withServices_services, List.find?_map, hname]
  cases hfound : s.services.find? fun service => decide (service.name = m) with
  | none => exact .inl rfl
  | some found =>
      have hm : found.name = m := by simpa using List.find?_some hfound
      show (if found.name = n then _ else found).variable key = found.variable key ∨ _ ∧ _ ∧
        (if found.name = n then _ else found).variable key = some value
      by_cases hn : found.name = n
      · rw [if_pos hn, setVariable_variable]
        by_cases hkey : key = name
        · exact .inr ⟨hm.symm.trans hn, hkey, if_pos hkey⟩
        · exact .inl (if_neg hkey)
      · exact .inl (by rw [if_neg hn])

/-- The service of a name is the one that is found. -/
theorem register_of_mem (hnames : Distinct s) (hmem : service ∈ s.services)
    (hn : service.name = n) : s.register n name = service.variable name := by
  have hfound : (s.services.find? fun service => service.name = n) = some service := by
    cases hfind : s.services.find? fun service => decide (service.name = n) with
    | none =>
        have hno := List.find?_eq_none.mp hfind service hmem
        exact absurd hn (by simpa using hno)
    | some found =>
        have hname : found.name = n := by simpa using List.find?_some hfind
        have hsame := List.inj_on_of_nodup_map hnames (List.mem_of_find?_eq_some hfind) hmem
          (hname.trans hn.symm)
        rw [hsame]
  rw [State.register, hfound]
  rfl

/-- A variable reads as it is. -/
theorem variableIn_register {args : List String} {stdin : Option String} {current : Value}
    (hnames : Distinct s) (h : PlatformStep rt s ⟨.run args stdin, reply⟩ s')
    (hargs : args = variableListArgs n) (hname : name ∉ objectPrototype)
    (hread : variableIn rt name reply = .ok current) : current = asRead (s.register n name) := by
  cases h with
  | other h => exact absurd rfl (h args stdin)
  | failed => cases hread
  | @listVariables m text service fields hmem hm hparse hfields =>
      have hservice : service.name = n := hm.trans (by simpa [variableListArgs] using hargs)
      change (settled (rt.jsonParse text) >>= fun vars => readMember vars name) = _ at hread
      rw [hparse] at hread
      have hget : (Json.obj fields).get name = current := Except.ok.inj hread
      rw [register_of_mem hnames hmem hservice, ← hget, Json.get, Json.fields, hfields name]
      cases service.variable name with
      | none => exact if_neg hname
      | some text => rfl
  | listServices | listDomains | link | init | upCreated | upExisting | linkService | addVolume
  | redeploy | setVariable | createDomain | updateDomain =>
      simp [serviceListArgs, variableListArgs, domainListArgs, linkArgs, initArgs, upArgs,
        volumeArgs, redeployArgs, variableSetArgs, domainCreateArgs, domainUpdateArgs] at hargs

end Register

/-! ### The calls of a change -/

/-- A call that leaves the variables alone. -/
def Neutral (c : Call) : Prop := c.isRead = true ∨ ∃ service, c = redeployCall service

section Steps

variable {rt : Runtime} {s s' : State} {e : Event Platform} {w : LiveWrite}
  {reply : Except String String}

/-- A neutral call changes at most what deployments there are. -/
theorem neutral_step (hc : Neutral e.call) (h : PlatformStep rt s e s') :
    ∃ deployment, s' = s.progressed deployment := by
  cases h with
  | other | failed | listServices | listVariables | listDomains | upExisting | linkService
  | addVolume => exact ⟨s.deployment, rfl⟩
  | sleep | redeploy => exact ⟨_, rfl⟩
  | link | init | upCreated | setVariable | createDomain | updateDomain =>
      rcases hc with hread | ⟨service, hcall⟩
      · cases hread
      · simp [redeployCall, redeployArgs, linkArgs, initArgs, upArgs, variableSetArgs,
          domainCreateArgs, domainUpdateArgs] at hcall

/-- A write that has an effect has the one it names. -/
theorem setCall_step (hc : e.call = w.setCall) (h : PlatformStep rt s e s') :
    s' = s ∨ s' = s.onService w.ready.service (.setVariable w.name w.next) := by
  cases h with
  | other | failed | listServices | listVariables | listDomains | upExisting | linkService
  | addVolume => exact .inl rfl
  | sleep => cases hc
  | setVariable =>
      obtain ⟨hargs, hstdin⟩ := Call.run.inj hc
      obtain ⟨rfl, rfl⟩ := variableSetArgs_inj hargs
      cases hstdin
      exact .inr rfl
  | link | init | upCreated | redeploy | createDomain | updateDomain => cases (Call.run.inj hc).2

end Steps

section Changes

variable {rt : Runtime} {fuel : ℕ} {t : Trace}

/-- What changes nothing but by redeploys is neutral. -/
theorem neutral_of_mutations (h : ∀ c ∈ mutations t, ∃ service, c = redeployCall service) :
    ∀ e ∈ t, Neutral e.call := by
  intro e he
  cases hread : e.call.isRead with
  | true => exact .inl hread
  | false => exact .inr (h _ (mem_mutations.mpr ⟨⟨e, he, rfl⟩, hread⟩))

/-- Where nothing is changed every call is neutral. -/
theorem neutral_of_reads (h : mutations t = []) : ∀ e ∈ t, Neutral e.call :=
  neutral_of_mutations (by simp [h])

/-- The write comes first, and what follows it is neutral. -/
theorem writeAndConfirm_shape {w : LiveWrite} {prior : Value} {o : Outcome Failure Unit}
    (hprior : prior ≠ .undefined) (h : (writeAndConfirm rt fuel w prior).Exec t o) :
    ∃ reply rest, t = ⟨w.setCall, reply⟩ :: rest ∧ ∀ e ∈ rest, Neutral e.call := by
  have hmuts := writeAndConfirm_mutations h
  rcases writeAndConfirm_exec hprior h with ⟨message, rfl, -⟩ | ⟨out, rest, rfl, -⟩
  · exact ⟨.error message, [], rfl, fun e he => by cases he⟩
  · refine ⟨.ok out, rest, rfl, neutral_of_mutations ?_⟩
    rw [mutations_cons_of_not_isRead (setCall_isRead w)] at hmuts
    intro c hc
    rcases hmuts with hm | hm
    · rw [(List.cons.inj hm).2] at hc
      cases hc
    · rw [(List.cons.inj hm).2] at hc
      exact ⟨_, List.mem_singleton.mp hc⟩

/-- A rotation writes only over a token that it has read. -/
theorem rotateGatewayToken_reads {options : RotateGatewayTokenOptions}
    {o : Outcome Failure RotateGatewayTokenResult}
    (h : (rotateGatewayToken rt fuel options).Exec t o) :
    StopsEarly t o ∨ ∃ read current t',
      t = ⟨.run (variableListArgs options.service) none, read⟩ :: t' ∧
      variableIn rt GATEWAY_TOKEN read = .ok current ∧ current ≠ .undefined := by
  rw [rotateGatewayToken, readRailwayVariable_eq] at h
  rcases Prog.exec_ask_bind.mp h with ⟨read, t₁, current, rfl, hread, h₁⟩ | ⟨read, e, rfl, -, rfl⟩
  · split at h₁
    · obtain ⟨rfl, rfl⟩ := h₁
      exact .inl ⟨rfl, _, rfl⟩
    · rename_i hdefined
      refine .inr ⟨read, current, t₁, rfl, hread, ?_⟩
      rwa [isUndefined_iff] at hdefined
  · exact .inl ⟨rfl, e, rfl⟩

/-- The service the change is aimed at. -/
def LiveChange.service : LiveChange → String
  | .update params => params.service
  | .rotate options => options.service

/-- The variable the change is aimed at. -/
def LiveChange.variableName : LiveChange → String
  | .update params => params.variableName.name
  | .rotate _ => GATEWAY_TOKEN

/-- The values a change may write over: the one it was told to expect, or any token. -/
def LiveChange.Expects : LiveChange → Option String → Prop
  | .update params, current => current = some params.expectedCurrentRef ∨
      current = none ∧ params.expectedCurrentRef = EXPECTED_REF_UNSET
  | .rotate _, current => current ≠ none

variable {change : LiveChange} {drawn : String}

theorem liveWrite_service : (change.liveWrite drawn).ready.service = change.service := by
  cases change <;> rfl

theorem liveWrite_name : (change.liveWrite drawn).name = change.variableName := by
  cases change <;> rfl

theorem variableName_not_prototype : change.variableName ∉ objectPrototype := by
  cases change with
  | update params =>
      show params.variableName.name ∉ objectPrototype
      cases params.variableName <;> decide
  | rotate options => exact (by decide : GATEWAY_TOKEN ∉ objectPrototype)

/-- What was read before a write lets the change write over it. -/
def LiveChange.Allows (rt : Runtime) (change : LiveChange) (read : Except String String) : Prop :=
  ∃ value, variableIn rt change.variableName read = .ok value ∧
    ∀ current, value = asRead current → change.Expects current

/-- What is compared is what the change expects. -/
theorem expects_of_comparesEqual {params : UpdateRefParams} {current : Option String}
    (h : ComparesEqual params (asRead current)) : (LiveChange.update params).Expects current := by
  rcases h.1 with hsame | ⟨hunset, hsentinel⟩
  · cases current with
    | none => cases hsame
    | some text =>
        cases hsame
        exact .inl rfl
  · cases current with
    | none => exact .inr ⟨rfl, hsentinel⟩
    | some text => cases hunset

/-- **A change of a live service** is neutral, or it reads, checks, writes once, and is neutral
from there. -/
theorem liveChange_shape {o : Outcome Failure UpdateRefResult}
    (h : (change.tool rt fuel).Exec t o) :
    (∀ e ∈ t, Neutral e.call) ∨ ∃ read checks drawn reply rest,
      t = (⟨.run (variableListArgs change.service) none, read⟩ :: checks) ++
        ⟨(change.liveWrite drawn).setCall, reply⟩ :: rest ∧
      (∀ e ∈ checks, Neutral e.call) ∧ (∀ e ∈ rest, Neutral e.call) ∧ change.Allows rt read := by
  cases change with
  | update params =>
      rcases updateClientRefVariable_cases h with hstops | ⟨read, t', o', rfl, -, hnone, -⟩ |
        ⟨read, current, listed, prior, t', o', rfl, hread, hcompares, hshows, hwrite, -⟩
      · exact .inl (neutral_of_reads hstops.1)
      · exact .inl (neutral_of_reads ((mutations_cons_of_isRead rfl).trans hnone))
      · obtain ⟨reply, rest, rfl, hrest⟩ := writeAndConfirm_shape hshows.2 hwrite
        refine .inr ⟨read, [⟨.run serviceListArgs none, listed⟩], "", reply, rest, rfl,
          neutral_of_reads rfl, hrest, current, hread, ?_⟩
        rintro value rfl
        exact expects_of_comparesEqual hcompares
  | rotate options =>
      obtain ⟨o₁, hrun, rfl⟩ := Prog.exec_map.mp h
      rcases rotateGatewayToken_cases hrun with hstops |
        ⟨read, listed, prior, drawn, t', o', rfl, hshows, hwrite, -⟩
      · exact .inl (neutral_of_reads hstops.1)
      · obtain ⟨reply, rest, rfl, hrest⟩ := writeAndConfirm_shape hshows.2 hwrite
        have hset : (options.liveWrite drawn).setCall.isRead = false := rfl
        rcases rotateGatewayToken_reads hrun with hstops |
          ⟨read', current, t', heq, hread, hdefined⟩
        · -- the write is a mutation
          have hmuts := hstops.1
          rw [mutations_cons_of_isRead rfl, mutations_cons_of_isRead rfl,
            mutations_cons_of_isRead rfl, mutations_cons_of_not_isRead hset] at hmuts
          cases hmuts
        · cases heq
          refine .inr ⟨read, [⟨.run serviceListArgs none, listed⟩, ⟨.randomBytes 32, drawn⟩], drawn,
            reply, rest, rfl, neutral_of_reads rfl, hrest, current, hread, ?_⟩
          rintro value rfl rfl
          exact hdefined rfl

end Changes

/-! ### Side by side -/

section Operators

variable {Op : Type} [DecidableEq Op] {rt : Runtime} {fuel : Op → ℕ} {change : Op → LiveChange}

/-- What the operators run. -/
def operators (rt : Runtime) (fuel : Op → ℕ) (change : Op → LiveChange) (op : Op) :
    Tool UpdateRefResult :=
  (change op).tool rt (fuel op)

/-- The platform, with many operators. -/
abbrev sharedPlatform (Op : Type) (rt : Runtime) : Lts State (Op × Event Platform) :=
  (platform rt).shared Op

variable {before after : List (Op × Event Platform)} {op : Op} {e : Event Platform}
  {s m m' : State} {n name : String}

/-- a call that is not neutral is the one write of its operator, made after the read. -/
theorem write_of_not_neutral
    (h : Interleaving (operators rt fuel change) (before ++ (op, e) :: after))
    (he : ¬ Neutral e.call) :
    ∃ read drawn reply first window,
      e = ⟨((change op).liveWrite drawn).setCall, reply⟩ ∧
      before = first ++ (op, ⟨.run (variableListArgs (change op).service) none, read⟩) :: window ∧
      (∀ e' ∈ own op before, Neutral e'.call) ∧ (change op).Allows rt read := by
  obtain ⟨rest, o, hexec⟩ := h.exec_of_call
  rcases liveChange_shape hexec with hneutral |
    ⟨read, checks, drawn, reply, rest', heq, hchecks, hrest, hallows⟩
  · exact absurd (hneutral e (by simp)) he
  · have hfront : ∀ e' ∈ (⟨.run (variableListArgs (change op).service) none, read⟩ :: checks :
        Trace), ¬ ¬ Neutral e'.call := by
      intro e' he'
      rcases List.mem_cons.mp he' with rfl | he'
      · exact not_not.mpr (.inl rfl)
      · exact not_not.mpr (hchecks e' he')
    obtain ⟨hown, hsame, -⟩ := append_cons_unique (P := fun e => ¬ Neutral e.call) heq he hfront
      fun e' he' => not_not.mpr (hrest e' he')
    have hread : own op before = [] ++ _ :: checks := hown
    obtain ⟨first, window, hbefore, -, -⟩ := own_eq_append_cons hread
    refine ⟨read, drawn, reply, first, window, hsame, hbefore, ?_, hallows⟩
    rw [hown]
    exact fun e' he' => not_not.mp (hfront e' he')

/-- Every call of the operators is neutral or a write. -/
theorem calls_of_interleaving {t : List (Op × Event Platform)}
    (h : Interleaving (operators rt fuel change) t) :
    ∀ l ∈ t, Neutral l.2.call ∨ ∃ w : LiveWrite, l.2.call = w.setCall := by
  intro l hl
  obtain ⟨before, after, rfl⟩ := List.append_of_mem hl
  by_cases hneutral : Neutral l.2.call
  · exact .inl hneutral
  · obtain ⟨read, drawn, reply, first, window, he, -⟩ := write_of_not_neutral h hneutral
    exact .inr ⟨(change l.1).liveWrite drawn, congrArg Event.call he⟩

omit [DecidableEq Op] in

/-- Writes and neutral calls keep the services distinct. -/
theorem distinct_of_run {t : List (Op × Event Platform)}
    (h : ∀ l ∈ t, Neutral l.2.call ∨ ∃ w : LiveWrite, l.2.call = w.setCall) (hnames : Distinct s)
    (hrun : (sharedPlatform Op rt).Run s t m) : Distinct m := by
  apply hrun.invariant_of hnames h
  intro s l s' hl hs hstep
  rcases hl with hneutral | ⟨w, hcall⟩
  · obtain ⟨deployment, rfl⟩ := neutral_step hneutral hstep
    exact hs
  · rcases setCall_step hcall hstep with rfl | rfl
    · exact hs
    · rwa [Distinct, names_setVariable]

/-- The variable `name` of `n` is what the change is aimed at, and has been set as it asks. -/
structure SetBy (change : LiveChange) (e : Event Platform) (n name : String) (s : State) :
    Prop where
  service : change.service = n
  variableName : change.variableName = name
  written : ∃ drawn reply, e = ⟨(change.liveWrite drawn).setCall, reply⟩ ∧
    s.register n name = some (change.liveWrite drawn).next

/-- Another operator has changed the variable since `op` has read it. -/
def Raced (rt : Runtime) (op : Op) (n name : String) (s : State)
    (before : List (Op × Event Platform)) : Prop :=
  ∃ first read window other e rest k k',
    before = (first ++ (op, ⟨.run (variableListArgs n) none, read⟩) :: window) ++
      (other, e) :: rest ∧ other ≠ op ∧
    (sharedPlatform Op rt).Run s (first ++ (op, ⟨.run (variableListArgs n) none, read⟩) :: window)
      k ∧
    PlatformStep rt k e k' ∧ k'.register n name ≠ k.register n name

/-- **Compare and set, but for races.**  Whenever a variable changes, at any moment of any
number of changes side by side, it is by the first and only write of a change aimed at it, to
the value this asks for; and the value replaced is one this expects, unless another operator
has changed the variable since it was read. -/
theorem operators_compareAndSet
    (h : Interleaving (operators rt fuel change) (before ++ (op, e) :: after))
    (hnames : Distinct s) (hrun : (sharedPlatform Op rt).Run s before m)
    (hstep : PlatformStep rt m e m') (hchange : m'.register n name ≠ m.register n name) :
    SetBy (change op) e n name m' ∧ (∀ e' ∈ own op before, Neutral e'.call) ∧
      ((change op).Expects (m.register n name) ∨ Raced rt op n name s before) := by
  have hloud : ¬ Neutral e.call := by
    intro hneutral
    obtain ⟨deployment, rfl⟩ := neutral_step hneutral hstep
    exact hchange rfl
  obtain ⟨read, drawn, reply, first, window, rfl, rfl, hown, hallows⟩ :=
    write_of_not_neutral h hloud
  have hset : SetBy (change op) ⟨((change op).liveWrite drawn).setCall, reply⟩ n name m' := by
    rcases setCall_step rfl hstep with rfl | rfl
    · exact absurd rfl hchange
    · rcases register_setVariable with hsame | ⟨hn, hname, hvalue⟩
      · exact absurd hsame hchange
      · exact ⟨liveWrite_service.symm.trans hn.symm, liveWrite_name.symm.trans hname.symm, drawn,
          reply, rfl, hvalue⟩
  refine ⟨hset, hown, ?_⟩
  rw [hset.service] at hrun hown ⊢
  obtain ⟨k, hfirst, k₁, hread, hwindow⟩ := Lts.run_append.mp hrun
  -- the read shows the variable as it is then
  have hcalls := calls_of_interleaving h
  have hdistinct : Distinct k :=
    distinct_of_run (fun l hl => hcalls l (by simp [hl])) hnames hfirst
  obtain ⟨value, hvalue, hexpects⟩ := hallows
  rw [hset.variableName] at hvalue
  have hproto : name ∉ objectPrototype := hset.variableName ▸ variableName_not_prototype
  have hshown := variableIn_register hdistinct hread rfl hproto hvalue
  obtain ⟨deployment, rfl⟩ := neutral_step (.inl rfl) hread
  have hk₁ : (k.progressed deployment).register n name = k.register n name := rfl
  by_cases hsame : m.register n name = (k.progressed deployment).register n name
  · rw [hsame, hk₁]
    exact .inl (hexpects _ hshown)
  · -- somebody has changed it in between, and `op` itself was neutral
    obtain ⟨window', ⟨other, e'⟩, rest, k₂, k₃, rfl, hbefore, hother, hne⟩ :=
      hwindow.changed (fun s => s.register n name) hsame
    refine .inr ⟨first, read, window', other, e', rest, k₂, k₃, by simp, ?_, ?_, hother, hne⟩
    · rintro rfl
      have hneutral : Neutral e'.call := hown e' (mem_own.mpr (by simp))
      obtain ⟨deployment', rfl⟩ := neutral_step hneutral hother
      exact hne rfl
    · exact Lts.run_append.mpr ⟨k, hfirst, _, hread, hbefore⟩

end Operators

/-! ### Two operators -/

/-- One asks for `v2` over `v1`, the other for a new token. -/
def twoChanges : Bool → LiveChange
  | true => .update ⟨"client", .templateRef, "v2", "v1", none, none, 15, 25⟩
  | false => .rotate ⟨"client", none, none, none⟩

/-- Two operators read before either writes. -/
def twoReads : List (Bool × Event Platform) :=
  [(true, ⟨.run (variableListArgs "client") none, .ok rerunVariables.1⟩),
    (true, ⟨.run serviceListArgs none, .ok deployedServices.1⟩)]

/-- The write is reported to have failed. -/
def lostReply : Event Platform :=
  ⟨((twoChanges true).liveWrite "").setCall, .error "timed out"⟩

/-- The replies of a platform that does as it is told and reports that writes fail. -/
def losingReplies (s : RerunPlatform) : (c : Call) → c.Reply × RerunPlatform
  | .run _ (some _) => (.error "timed out", s)
  | c => rerunEnvironment s c

set_option maxRecDepth 2000 in
theorem twoChanges_interleaving : Interleaving (operators rerunRuntime (fun _ => 1) twoChanges)
    (twoReads ++ (true, lostReply) :: []) := by
  intro op
  cases op with
  | true =>
      have hplay := Prog.play_exec (I := Platform) losingReplies
        (operators rerunRuntime (fun _ => 1) twoChanges true) ⟨true, true⟩
      exact ⟨[], _, hplay⟩
  | false =>
      exact ⟨_, _, Prog.play_exec (I := Platform) rerunEnvironment
        (operators rerunRuntime (fun _ => 1) twoChanges false) ⟨true, true⟩⟩

theorem distinct_soleState {service : Service} : Distinct (soleState service) := by
  rw [Distinct, soleState_services]
  exact List.nodup_singleton _

theorem soleState_register {service : Service} {n name : String} (hn : service.name = n) :
    (soleState service).register n name = service.variable name := by
  have hmem : service ∈ (soleState service).services := by simp [soleState_services]
  exact register_of_mem distinct_soleState hmem hn

/-- The write whose reply is lost was compared before it was made. -/
theorem lostReply_compared :
    SetBy (twoChanges true) lostReply "client" "OPENCLAW_TEMPLATE_REF"
        (soleState ((rerunService 3000).setVariable "OPENCLAW_TEMPLATE_REF" "v2")) ∧
      (∀ e ∈ own true twoReads, Neutral e.call) ∧
      ((twoChanges true).Expects
          ((soleState (rerunService 3000)).register "client" "OPENCLAW_TEMPLATE_REF") ∨
        Raced rerunRuntime true "client" "OPENCLAW_TEMPLATE_REF" (soleState (rerunService 3000))
          twoReads) := by
  have hrun : (sharedPlatform Bool rerunRuntime).Run (soleState (rerunService 3000)) twoReads
      (soleState (rerunService 3000)) :=
    ⟨_, rerunVariables_step, _, soleState_listServices rfl rfl, rfl⟩
  have hstep : PlatformStep rerunRuntime (soleState (rerunService 3000)) lostReply
      (soleState ((rerunService 3000).setVariable "OPENCLAW_TEMPLATE_REF" "v2")) :=
    soleState_setVariable rfl
  refine operators_compareAndSet twoChanges_interleaving distinct_soleState hrun hstep ?_
  have hbefore : (soleState (rerunService 3000)).register "client" "OPENCLAW_TEMPLATE_REF" =
      (rerunService 3000).variable "OPENCLAW_TEMPLATE_REF" := soleState_register rfl
  have hafter : (soleState ((rerunService 3000).setVariable "OPENCLAW_TEMPLATE_REF" "v2")).register
      "client" "OPENCLAW_TEMPLATE_REF" = some "v2" := soleState_register rfl
  rw [hbefore, hafter]
  decide

end Railway
