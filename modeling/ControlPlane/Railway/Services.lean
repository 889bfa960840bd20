/-
ControlPlane/Railway/Services.lean

The helpers the installer and the client provisioner share: finding a service in
a listing, waiting for a deployment (`pollServiceUntilSuccess`), routing a domain
to a port (`ensureDomainPort`) and waiting for the setup API to accept the
credentials (`waitForSetupReady`).

The two waiting loops look at one reply per round.  For the deployment poll a
round's listing is read as a `Sighting` of the named service; a sighting is
decisive when it ends the loop.  `pollServiceUntilSuccess_exec` and
`waitForSetupReady_exec` say what every run of the loops looks like: rounds that
decide nothing, then possibly one that does.
-/
import ControlPlane.Railway.Variables

namespace Railway

open Js Interaction

/-! ### Time -/

/-- `Date.now()`. -/
def now : Tool ℤ := Prog.perform (I := Platform) .now

/-- Wait for so many milliseconds. -/
def sleep (ms : ℕ) : Tool Unit := Prog.perform (I := Platform) (.sleep ms)

/-! ### Services -/

/-- The statuses no deployment recovers from. -/
def terminalFailureStatuses : List String :=
  ["CRASHED", "FAILED", "NEEDS_APPROVAL", "REMOVED", "REMOVING", "SKIPPED", "SLEEPING"]

/-- The command that lists the services. -/
def serviceListArgs : List String := ["service", "list", "--json"]

/-- The services of the linked project. -/
def listServices (rt : Runtime) : Tool Json := do
  let stdout ← run serviceListArgs none
  Prog.ofExcept (parse rt stdout)

/-- `items.find((item) => item[name] === s)`. -/
def findMember (items : List Json) (name s : String) : Except Failure (Option Json) :=
  match items with
  | [] => .ok none
  | item :: rest => do
    let value ← readMember item name
    if value.isString s then .ok (some item) else findMember rest name s

/-- The elements of a value its reader takes for an array and calls `method`
on. -/
def elements (v : Value) (of method : String) : Except Failure (List Json) :=
  match v with
  | .undefined => .error (cannotRead "undefined" method)
  | .json .null => .error (cannotRead "null" method)
  | .json (.arr items) => .ok items
  | _ => .error (thrown (of ++ "." ++ method ++ " is not a function"))

/-- The service of this name, if it is listed. -/
def findTemplateService (services : Json) (serviceName : String) :
    Except Failure (Option Json) := do
  let items ← elements (.json services) "services" "find"
  findMember items "name" serviceName

/-- `service.latestDeployment?.[name]`. -/
def deploymentMember (service : Json) (name : String) : Value :=
  (service.get "latestDeployment").chain name

theorem plain_findMember (items : List Json) (name s : String) :
    Plain (findMember items name s) := by
  induction items with
  | nil => exact plain_ok
  | cons item rest ih =>
      apply (plain_readMember item name).bind
      intro value
      split
      · exact plain_ok
      · exact ih

theorem plain_elements (v : Value) (of method : String) : Plain (elements v of method) := by
  unfold elements
  split
  · exact plain_thrown
  · exact plain_thrown
  · exact plain_ok
  · exact plain_thrown

theorem plain_findTemplateService (services : Json) (serviceName : String) :
    Plain (findTemplateService services serviceName) :=
  (plain_elements _ _ _).bind fun items => plain_findMember items "name" serviceName

/-! ### Waiting for a deployment -/

/-- What a listing shows of the service that is waited for. -/
inductive Sighting where
  | deployed (service : Json)
  | failed (status : String)
  | undecided

/-- What the state of a listed service means to the poll. -/
def judge (supersedes : Value) (service : Json) : Sighting :=
  let status := deploymentMember service "status"
  let observedId := deploymentMember service "id"
  if status.isString "SUCCESS" then
    -- without a superseded id any success is taken for the one that is waited for
    if supersedes.isUndefined then .deployed service
    else if !observedId.isUndefined && !observedId.strictEquals supersedes then .deployed service
    else .undecided
  else match status.asString with
    | none => .undecided
    | some s =>
      if s ∈ terminalFailureStatuses then
        -- a failure of the prior deployment is not ours, nor one that shows no id
        let isPriorDeployment := !supersedes.isUndefined &&
          (observedId.isUndefined || observedId.strictEquals supersedes)
        if isPriorDeployment then .undecided else .failed s
      else .undecided

/-- What a listing means to the poll. -/
def sightingOf (serviceName : String) (supersedes : Value) (services : Json) :
    Except Failure Sighting := do
  let service ← findTemplateService services serviceName
  match service with
  | none => .ok .undecided
  | some service => .ok (judge supersedes service)

/-- The error for a deployment that has failed for good. -/
def terminalState (serviceName status : String) : Failure :=
  ⟨.terminalState, "Deployment ended in terminal state '" ++ status ++ "'. " ++
    "Check logs with: railway logs --service " ++ serviceName ++ " --lines 200"⟩

/-- The error for a deployment that does not come up in time. -/
def deployTimeout (serviceName : String) : Failure :=
  ⟨.deployTimeout, "Timed out waiting for '" ++ serviceName ++ "' to deploy."⟩

/-- The rounds of the poll; `fuel` bounds their number. -/
def pollRounds (rt : Runtime) (serviceName : String) (pollSeconds : ℕ) (supersedes : Value)
    (deadline : ℤ) : ℕ → Tool Json
  | 0 => .diverge
  | fuel + 1 => do
    sleep (pollSeconds * 1000)
    let services ← listServices rt
    let sighting ← Prog.ofExcept (sightingOf serviceName supersedes services)
    match sighting with
    | .deployed service => pure service
    | .failed status => .throw (terminalState serviceName status)
    | .undecided => do
      let time ← now
      -- the deadline only ends a round that has decided nothing
      if time < deadline then pollRounds rt serviceName pollSeconds supersedes deadline fuel
      else .throw (deployTimeout serviceName)

/-- `supersedes` is the deployment id seen before the new deployment was asked
for; `undefined` turns the guard off. -/
def pollServiceUntilSuccess (rt : Runtime) (fuel : ℕ) (serviceName : String)
    (pollSeconds timeoutMinutes : ℕ) (supersedes : Value) : Tool Json := do
  let time ← now
  pollRounds rt serviceName pollSeconds supersedes (time + timeoutMinutes * 60000) fuel

section Poll

variable {rt : Runtime} {serviceName : String} {pollSeconds : ℕ} {supersedes : Value}
  {deadline : ℤ} {t : Trace} {o : Outcome Failure Json}

/-- Whether a deployment counts as the one that is waited for: with a superseded
id only one that has an id, and another one. -/
def supersededBy (supersedes observedId : Value) : Bool :=
  supersedes.isUndefined || (!observedId.isUndefined && !observedId.strictEquals supersedes)

/-- A sighting decides for a deployment of the right id only, whether it
succeeded or failed. -/
theorem judge_eq (supersedes : Value) (service : Json) :
    judge supersedes service =
      match (deploymentMember service "status").asString with
      | none => .undecided
      | some s =>
        if supersededBy supersedes (deploymentMember service "id") = false then .undecided
        else if s = "SUCCESS" then .deployed service
        else if s ∈ terminalFailureStatuses then .failed s
        else .undecided := by
  simp only [judge, supersededBy, Value.isString]
  cases hs : (deploymentMember service "status").asString with
  | none => simp
  | some s =>
      by_cases hu : supersedes = .undefined <;>
        by_cases hm : deploymentMember service "id" = .undefined <;>
        by_cases hsame : (deploymentMember service "id").strictEquals supersedes = true <;>
        by_cases hsuccess : s = "SUCCESS" <;> simp [hu, hm, hsame, hsuccess]

/-- A service is deployed when its deployment is another and has succeeded. -/
theorem judge_deployed_iff {service found : Json} :
    judge supersedes service = .deployed found ↔
      found = service ∧ deploymentMember service "status" = .json (.str "SUCCESS") ∧
        supersededBy supersedes (deploymentMember service "id") = true := by
  rw [judge_eq, ← asString_eq_some]
  cases (deploymentMember service "status").asString with
  | none => simp
  | some s =>
      show (if _ then _ else _) = _ ↔ _
      split_ifs with hid hsuccess hterminal
      · simp [hid]
      · simp only [Sighting.deployed.injEq, hsuccess, true_and]
        constructor
        · rintro rfl
          exact ⟨rfl, by simpa using hid⟩
        · rintro ⟨rfl, -⟩
          rfl
      · simp [hsuccess]
      · simp [hsuccess]

/-- It has failed when its deployment is another and has ended. -/
theorem judge_failed_iff {service : Json} {status : String} :
    judge supersedes service = .failed status ↔
      status ∈ terminalFailureStatuses ∧
        deploymentMember service "status" = .json (.str status) ∧
        supersededBy supersedes (deploymentMember service "id") = true := by
  rw [judge_eq, ← asString_eq_some]
  cases (deploymentMember service "status").asString with
  | none => simp
  | some s =>
      show (if _ then _ else _) = _ ↔ _
      split_ifs with hid hsuccess hterminal
      · simp [hid]
      · subst hsuccess
        constructor
        · intro h
          cases h
        · rintro ⟨hmem, hs, -⟩
          cases hs
          exact absurd hmem (by decide)
      · simp only [Sighting.failed.injEq, Option.some.injEq]
        constructor
        · rintro rfl
          exact ⟨hterminal, rfl, by simpa using hid⟩
        · rintro ⟨-, hs, -⟩
          exact hs
      · constructor
        · intro h
          cases h
        · rintro ⟨hmem, hs, -⟩
          cases hs
          exact absurd hmem hterminal

theorem listServices_eq (rt : Runtime) :
    listServices rt = Prog.ask (I := Platform) (.run serviceListArgs none) (printed rt) := by
  apply Prog.ask_bind_ofExcept

/-- What the poll reads a listing as. -/
def sighted (rt : Runtime) (serviceName : String) (supersedes : Value)
    (reply : Except String String) : Except Failure Sighting :=
  printed rt reply >>= sightingOf serviceName supersedes

/-- What decides is the listed service. -/
theorem judge_of_sighted {rt : Runtime} {serviceName : String} {reply : Except String String}
    {sighting : Sighting} (h : sighted rt serviceName supersedes reply = .ok sighting)
    (hdecided : sighting ≠ .undecided) :
    ∃ services listed, printed rt reply = .ok services ∧
      findTemplateService services serviceName = .ok (some listed) ∧
      judge supersedes listed = sighting := by
  cases hp : printed rt reply with
  | error e =>
      rw [sighted, hp] at h
      cases h
  | ok services =>
      rw [sighted, hp] at h
      change sightingOf serviceName supersedes services = _ at h
      cases hf : findTemplateService services serviceName with
      | error e =>
          rw [sightingOf, hf] at h
          cases h
      | ok found =>
          rw [sightingOf, hf] at h
          cases found with
          | none => exact absurd (Except.ok.inj h).symm hdecided
          | some listed => exact ⟨services, listed, rfl, hf, Except.ok.inj h⟩

/-- Every listing of the trace leaves the poll undecided. -/
def Undecided (rt : Runtime) (serviceName : String) (supersedes : Value) (t : Trace) : Prop :=
  ∀ reply, ⟨.run serviceListArgs none, reply⟩ ∈ t →
    sighted rt serviceName supersedes reply = .ok .undecided

/-- How the poll ends on the listing it looked at last. -/
def Decides (rt : Runtime) (serviceName : String) (supersedes : Value)
    (reply : Except String String) (o : Outcome Failure Json) : Prop :=
  (∃ service, sighted rt serviceName supersedes reply = .ok (.deployed service) ∧
    o = .returned service) ∨
  (∃ status, sighted rt serviceName supersedes reply = .ok (.failed status) ∧
    o = .threw (terminalState serviceName status)) ∨
  (∃ e, sighted rt serviceName supersedes reply = .error e ∧ o = .threw e)

/-- A listing, read as a sighting. -/
theorem listServices_sighting (rt : Runtime) (serviceName : String) (supersedes : Value) :
    (listServices rt >>= fun services =>
      (Prog.ofExcept (sightingOf serviceName supersedes services) : Tool Sighting)) =
      Prog.ask (I := Platform) (.run serviceListArgs none) (sighted rt serviceName supersedes) := by
  rw [listServices_eq]
  apply Prog.ask_bind_ofExcept

/-- One round: sleep, list, and go on only when undecided. -/
theorem pollRounds_succ_cases {fuel : ℕ}
    (h : (pollRounds rt serviceName pollSeconds supersedes deadline (fuel + 1)).Exec t o) :
    ∃ reply t', t = ⟨.sleep (pollSeconds * 1000), ()⟩ :: ⟨.run serviceListArgs none, reply⟩ :: t' ∧
      ((Decides rt serviceName supersedes reply o ∧ t' = []) ∨
        (sighted rt serviceName supersedes reply = .ok .undecided ∧
          ((∃ time t'', t' = ⟨.now, time⟩ :: t'' ∧ time < deadline ∧
              (pollRounds rt serviceName pollSeconds supersedes deadline fuel).Exec t'' o) ∨
            (∃ time, t' = [⟨.now, time⟩] ∧ deadline ≤ time ∧
              o = .threw (deployTimeout serviceName))))) := by
  obtain ⟨⟨⟩, t₀, rfl, hround⟩ := Prog.exec_perform_bind.mp h
  rw [← bind_assoc, listServices_sighting] at hround
  rcases Prog.exec_ask_bind.mp hround with
    ⟨reply, t₁, sighting, rfl, hs, hnext⟩ | ⟨reply, e, rfl, hs, rfl⟩
  · refine ⟨reply, t₁, rfl, ?_⟩
    cases sighting with
    | deployed service =>
        obtain ⟨rfl, rfl⟩ := hnext
        exact .inl ⟨.inl ⟨service, hs, rfl⟩, rfl⟩
    | failed status =>
        obtain ⟨rfl, rfl⟩ := hnext
        exact .inl ⟨.inr (.inl ⟨status, hs, rfl⟩), rfl⟩
    | undecided =>
        -- undecided: the clock says whether there is another round
        obtain ⟨time, t₂, rfl, hclock⟩ := Prog.exec_perform_bind.mp hnext
        refine .inr ⟨hs, ?_⟩
        split at hclock
        · rename_i hlt
          exact .inl ⟨time, t₂, rfl, hlt, hclock⟩
        · rename_i hlate
          obtain ⟨rfl, rfl⟩ := hclock
          exact .inr ⟨time, rfl, not_lt.mp hlate, rfl⟩
  · exact ⟨reply, [], rfl, .inl ⟨.inr (.inr ⟨e, hs, rfl⟩), rfl⟩⟩

theorem Undecided.nil : Undecided rt serviceName supersedes [] := by
  intro reply h
  cases h

/-- Any other call decides nothing. -/
theorem Undecided.cons_other {e : Event Platform} (h : Undecided rt serviceName supersedes t)
    (he : e.call ≠ .run serviceListArgs none) : Undecided rt serviceName supersedes (e :: t) := by
  intro reply hmem
  rcases List.mem_cons.mp hmem with rfl | hmem
  · exact absurd rfl he
  · exact h reply hmem

/-- Nor does a listing in which the deployment goes on. -/
theorem Undecided.cons_listing {reply : Except String String}
    (h : Undecided rt serviceName supersedes t)
    (hs : sighted rt serviceName supersedes reply = .ok .undecided) :
    Undecided rt serviceName supersedes (⟨.run serviceListArgs none, reply⟩ :: t) := by
  intro reply' hmem
  rcases List.mem_cons.mp hmem with heq | hmem
  · cases heq
    exact hs
  · exact h reply' hmem

/-- **The deployment poll.**  A run makes undecided rounds only and gives up, or
undecided rounds and then one that decides. -/
theorem pollRounds_exec {fuel : ℕ}
    (h : (pollRounds rt serviceName pollSeconds supersedes deadline fuel).Exec t o) :
    (Undecided rt serviceName supersedes t ∧
      (o = .threw (deployTimeout serviceName) ∨ o = .diverged)) ∨
    ∃ t' reply, t = t' ++ [⟨.run serviceListArgs none, reply⟩] ∧
      Undecided rt serviceName supersedes t' ∧ Decides rt serviceName supersedes reply o := by
  induction fuel generalizing t with
  | zero =>
      obtain ⟨rfl, rfl⟩ := h
      exact .inl ⟨.nil, .inr rfl⟩
  | succ fuel ih =>
      obtain ⟨reply, t', rfl, ⟨hd, rfl⟩ | ⟨hs, ⟨time, t'', rfl, -, h⟩ | ⟨time, rfl, -, rfl⟩⟩⟩ :=
        pollRounds_succ_cases h
      -- this round's listing decides
      · refine .inr ⟨[⟨.sleep (pollSeconds * 1000), ()⟩], reply, rfl, ?_, hd⟩
        exact Undecided.nil.cons_other (by simp)
      -- it does not, and the clock allows another round
      · rcases ih h with ⟨hu, ho⟩ | ⟨t₁, reply', rfl, hu, hd⟩
        · refine .inl ⟨?_, ho⟩
          exact ((hu.cons_other (by simp)).cons_listing hs).cons_other (by simp)
        · refine .inr ⟨⟨.sleep (pollSeconds * 1000), ()⟩ ::
            ⟨.run serviceListArgs none, reply⟩ :: ⟨.now, time⟩ :: t₁, reply', rfl, ?_, hd⟩
          exact ((hu.cons_other (by simp)).cons_listing hs).cons_other (by simp)
      -- it does not, and the deadline has passed
      · refine .inl ⟨?_, .inl rfl⟩
        exact ((Undecided.nil.cons_other (by simp)).cons_listing hs).cons_other (by simp)

/-- The wait ends at the first listing that decides, or without one. -/
theorem pollServiceUntilSuccess_exec {fuel timeoutMinutes : ℕ}
    (h : (pollServiceUntilSuccess rt fuel serviceName pollSeconds timeoutMinutes
      supersedes).Exec t o) :
    (Undecided rt serviceName supersedes t ∧
      (o = .threw (deployTimeout serviceName) ∨ o = .diverged)) ∨
    ∃ t' reply, t = t' ++ [⟨.run serviceListArgs none, reply⟩] ∧
      Undecided rt serviceName supersedes t' ∧ Decides rt serviceName supersedes reply o := by
  obtain ⟨time, t₀, rfl, hrounds⟩ := Prog.exec_perform_bind.mp h
  rcases pollRounds_exec hrounds with ⟨hu, ho⟩ | ⟨t₁, reply, rfl, hu, hd⟩
  · exact .inl ⟨hu.cons_other (by simp), ho⟩
  · exact .inr ⟨⟨.now, time⟩ :: t₁, reply, rfl, hu.cons_other (by simp), hd⟩

/-- The calls the poll makes. -/
def IsPollCall (c : Call) : Prop :=
  c = .now ∨ (∃ ms, c = .sleep ms) ∨ c = .run serviceListArgs none

theorem IsPollCall.isRead {c : Call} (h : IsPollCall c) : c.isRead = true := by
  rcases h with rfl | ⟨ms, rfl⟩ | rfl <;> rfl

theorem pollRounds_only (fuel : ℕ) :
    (pollRounds rt serviceName pollSeconds supersedes deadline fuel).Only IsPollCall := by
  induction fuel with
  | zero => exact Prog.only_diverge
  | succ fuel ih =>
      have hsleep : (sleep (pollSeconds * 1000)).Only IsPollCall :=
        Prog.only_perform.mpr (.inr (.inl ⟨_, rfl⟩))
      have hnow : now.Only IsPollCall := Prog.only_perform.mpr (.inl rfl)
      apply hsleep.bind
      intro _
      rw [← bind_assoc, listServices_sighting]
      have hlist : IsPollCall (.run serviceListArgs none) := .inr (.inr rfl)
      apply Prog.Only.bind (Prog.only_ask hlist)
      rintro (service | status | _)
      · exact Prog.only_pure
      · exact Prog.only_throw
      · apply hnow.bind
        intro time
        split
        · exact ih
        · exact Prog.only_throw

/-- The wait lists the services, asks for the time and sleeps. -/
theorem pollServiceUntilSuccess_only (fuel timeoutMinutes : ℕ) :
    (pollServiceUntilSuccess rt fuel serviceName pollSeconds timeoutMinutes
      supersedes).Only IsPollCall := by
  have hnow : now.Only IsPollCall := Prog.only_perform.mpr (.inl rfl)
  apply hnow.bind
  intro time
  exact pollRounds_only fuel

theorem pollServiceUntilSuccess_readOnly (fuel timeoutMinutes : ℕ) :
    ReadOnly (pollServiceUntilSuccess rt fuel serviceName pollSeconds timeoutMinutes
      supersedes) :=
  (pollServiceUntilSuccess_only fuel timeoutMinutes).mono fun _ hc => hc.isRead

/-- What the poll throws besides its two texts comes from the platform. -/
theorem plain_sighted (reply : Except String String) :
    Plain (sighted rt serviceName supersedes reply) := by
  apply (plain_printed rt reply).bind
  intro services
  apply (plain_findTemplateService services serviceName).bind
  rintro (_ | service)
  · exact plain_ok
  · exact plain_ok

end Poll

/-! ### Domains -/

/-- The command that lists the domains of a service. -/
def domainListArgs (serviceName : String) : List String :=
  ["domain", "list", "--service", serviceName, "--json"]

/-- The domains of a service. -/
def listDomains (rt : Runtime) (serviceName : String) : Tool Json := do
  let stdout ← run (domainListArgs serviceName) none
  Prog.ofExcept (parse rt stdout)

/-- `domains.find((candidate) => candidate.type === "service") ?? domains[0]`,
and no domain at all when that is falsy. -/
def pickDomain (domains : Value) : Except Failure (Option Json) := do
  let items ← elements domains "domains" "find"
  let service ← findMember items "type" "service"
  match service with
  | some domain => .ok (some domain)
  | none => .ok (items.head?.filter Json.truthy)

/-- A command-line argument; a value that is not a text is no argument. -/
def argument (v : Value) : Except Failure String :=
  match v.asString with
  | some s => .ok s
  | none => .error (thrown "The argument must be of type string.")

/-- The command that generates a domain. -/
def domainCreateArgs (serviceName : String) (targetPort : ℕ) : List String :=
  ["domain", "--service", serviceName, "--port", toString targetPort, "--json"]

/-- The command that routes a domain to a port. -/
def domainUpdateArgs (domain serviceName : String) (targetPort : ℕ) : List String :=
  ["domain", "update", domain, "--service", serviceName, "--port", toString targetPort, "--json"]

/-- The error for a generated domain that is not listed. -/
def domainNotListed (serviceName : String) : Failure :=
  ⟨.noDomain, "Generated a Railway domain for '" ++ serviceName ++
    "' but it did not appear in 'domain list'."⟩

/-- Generate a domain and list again. -/
def generateDomain (rt : Runtime) (serviceName : String) (targetPort : ℕ) : Tool Json := do
  let _ ← run (domainCreateArgs serviceName targetPort) none
  let parsed ← listDomains rt serviceName
  let domain ← Prog.ofExcept (readMember parsed "domains" >>= pickDomain)
  match domain with
  | some domain => pure domain
  | none => .throw (domainNotListed serviceName)

/-- Route `domain` to the port unless it already is. -/
def routeDomain (rt : Runtime) (serviceName : String) (targetPort : ℕ) (domain : Json) :
    Tool Value :=
  -- nothing is written about a domain that is routed already
  if (domain.get "targetPort").strictEquals (.json (.num (.ofNat targetPort))) then
    pure (.json domain)
  else do
    let name ← Prog.ofExcept (argument (domain.get "domain"))
    let stdout ← run (domainUpdateArgs name serviceName targetPort) none
    let updated ← Prog.ofExcept (parse rt stdout)
    Prog.ofExcept (readMember updated "domain")

/-- See that a domain of the service is routed to the port. -/
def ensureDomainPort (rt : Runtime) (serviceName : String) (targetPort : ℕ) : Tool Value := do
  let parsed ← listDomains rt serviceName
  let domain ← Prog.ofExcept (readMember parsed "domains" >>= pickDomain)
  match domain with
  | some domain => routeDomain rt serviceName targetPort domain
  | none => do
    let domain ← generateDomain rt serviceName targetPort
    routeDomain rt serviceName targetPort domain

theorem plain_pickDomain (domains : Value) : Plain (pickDomain domains) := by
  apply (plain_elements _ _ _).bind
  intro items
  apply (plain_findMember items "type" "service").bind
  rintro (_ | domain)
  · exact plain_ok
  · exact plain_ok

/-- What a listing of domains is read as. -/
def domainIn (rt : Runtime) (reply : Except String String) : Except Failure (Option Json) :=
  printed rt reply >>= fun parsed => readMember parsed "domains" >>= pickDomain

theorem plain_domainIn (rt : Runtime) (reply : Except String String) : Plain (domainIn rt reply) :=
  (plain_printed rt reply).bind fun parsed =>
    (plain_readMember parsed "domains").bind plain_pickDomain

theorem listDomains_eq (rt : Runtime) (serviceName : String) :
    listDomains rt serviceName =
      Prog.ask (I := Platform) (.run (domainListArgs serviceName) none) (printed rt) := by
  apply Prog.ask_bind_ofExcept

theorem listDomains_pick (rt : Runtime) (serviceName : String) :
    (listDomains rt serviceName >>= fun parsed =>
      (Prog.ofExcept (readMember parsed "domains" >>= pickDomain) : Tool (Option Json))) =
      Prog.ask (I := Platform) (.run (domainListArgs serviceName) none) (domainIn rt) := by
  rw [listDomains_eq]
  apply Prog.ask_bind_ofExcept

/-! ### Waiting for the setup API -/

/-- The user name the setup API is asked with by default. -/
def DEFAULT_SETUP_USERNAME : String := "openclaw-admin"

/-- The error for an instance that does not become ready in time. -/
def setupNotReady (url : String) (timeoutMinutes : ℕ) (lastStatus : ℕ) : Failure :=
  ⟨.setupNotReady, "Setup readiness check '" ++ url ++ "' did not return 200 within " ++
    toString timeoutMinutes ++ " minute(s) (last status: " ++ toString lastStatus ++ ")."⟩

/-- The status the setup API answers with. -/
def checkSetupStatus (url : String) (auth : SetupAuth) : Tool ℕ :=
  Prog.ask (I := Platform) (.checkSetupStatus url auth) settled

/-- The rounds of the readiness poll; `fuel` bounds their number. -/
def readyRounds (url : String) (auth : SetupAuth) (pollSeconds timeoutMinutes : ℕ)
    (deadline : ℤ) : ℕ → Tool Unit
  | 0 => .diverge
  | fuel + 1 => do
    let lastStatus ← checkSetupStatus url auth
    if lastStatus = 200 then pure ()
    else do
      sleep (pollSeconds * 1000)
      let time ← now
      if time < deadline then readyRounds url auth pollSeconds timeoutMinutes deadline fuel
      else .throw (setupNotReady url timeoutMinutes lastStatus)

/-- Poll the setup API until it answers with 200. -/
def waitForSetupReady (fuel : ℕ) (url : String) (auth : SetupAuth)
    (pollSeconds timeoutMinutes : ℕ) : Tool Unit := do
  let time ← now
  readyRounds url auth pollSeconds timeoutMinutes (time + timeoutMinutes * 60000) fuel

section Ready

variable {url : String} {auth : SetupAuth} {pollSeconds timeoutMinutes fuel : ℕ} {deadline : ℤ}
  {t : Trace} {o : Outcome Failure Unit}

/-- No probe of the trace was answered with 200. -/
def NotReady (t : Trace) : Prop :=
  ∀ url auth, ⟨.checkSetupStatus url auth, .ok 200⟩ ∉ t

theorem NotReady.of_other {e : Event Platform} (h : NotReady t)
    (he : ∀ url auth, e.call ≠ .checkSetupStatus url auth) : NotReady (e :: t) := by
  intro url auth hmem
  rcases List.mem_cons.mp hmem with rfl | hmem
  · exact he url auth rfl
  · exact h url auth hmem

theorem NotReady.of_rejected {reply : Except String ℕ} (h : NotReady t)
    (hr : reply ≠ .ok 200) : NotReady (⟨.checkSetupStatus url auth, reply⟩ :: t) := by
  intro url' auth' hmem
  rcases List.mem_cons.mp hmem with heq | hmem
  · cases heq
    exact hr rfl
  · exact h url' auth' hmem

/-- Two parts of a run that have seen nothing ready. -/
theorem NotReady.append {t' : Trace} (h : NotReady t) (h' : NotReady t') :
    NotReady (t ++ t') := by
  intro url auth hmem
  rcases List.mem_append.mp hmem with hmem | hmem
  · exact h url auth hmem
  · exact h' url auth hmem

theorem NotReady.nil : NotReady [] := by
  intro url auth h
  cases h

/-- How the readiness poll fails: a probe that is rejected, or the deadline. -/
def ReadyFailure (e : Failure) : Prop := e.kind = .platform ∨ e.kind = .setupNotReady

/-- **The readiness poll.**  A run that returns ends with the probe answered 200,
and no run goes on after such a probe. -/
theorem readyRounds_exec
    (h : (readyRounds url auth pollSeconds timeoutMinutes deadline fuel).Exec t o) :
    (∃ t', t = t' ++ [⟨.checkSetupStatus url auth, .ok 200⟩] ∧ NotReady t' ∧
      o = .returned ()) ∨
    (NotReady t ∧ ((∃ e, ReadyFailure e ∧ o = .threw e) ∨ o = .diverged)) := by
  induction fuel generalizing t with
  | zero =>
      obtain ⟨rfl, rfl⟩ := h
      exact .inr ⟨.nil, .inr rfl⟩
  | succ fuel ih =>
      rcases Prog.exec_ask_bind.mp h with
        ⟨reply, t₁, lastStatus, rfl, hr, hnext⟩ | ⟨reply, e, rfl, hr, rfl⟩
      · rw [settled_eq_ok] at hr
        subst hr
        split at hnext
        -- a 200 ends the loop
        · rename_i h200
          subst h200
          obtain ⟨rfl, rfl⟩ := hnext
          exact .inl ⟨[], rfl, .nil, rfl⟩
        -- any other status waits for the next round, or for the deadline
        · rename_i hne
          have hother : (.ok lastStatus : Except String ℕ) ≠ .ok 200 := by simpa using hne
          obtain ⟨⟨⟩, t₂, rfl, hslept⟩ := Prog.exec_perform_bind.mp hnext
          obtain ⟨time, t₃, rfl, hclock⟩ := Prog.exec_perform_bind.mp hslept
          split at hclock
          · rcases ih hclock with ⟨t', rfl, hn, ho⟩ | ⟨hn, ho⟩
            · refine .inl ⟨⟨.checkSetupStatus url auth, .ok lastStatus⟩ ::
                ⟨.sleep (pollSeconds * 1000), ()⟩ :: ⟨.now, time⟩ :: t', rfl, ?_, ho⟩
              exact ((hn.of_other (by simp)).of_other (by simp)).of_rejected hother
            · exact .inr ⟨((hn.of_other (by simp)).of_other (by simp)).of_rejected hother, ho⟩
          · obtain ⟨rfl, rfl⟩ := hclock
            refine .inr ⟨?_, .inl ⟨_, .inr rfl, rfl⟩⟩
            exact ((NotReady.nil.of_other (by simp)).of_other (by simp)).of_rejected hother
      · refine .inr ⟨NotReady.nil.of_rejected ?_, .inl ⟨e, ?_, rfl⟩⟩
        · rintro rfl
          cases hr
        · exact .inl (plain_settled e hr)

/-- The wait ends at the first answer of 200, or without one. -/
theorem waitForSetupReady_exec
    (h : (waitForSetupReady fuel url auth pollSeconds timeoutMinutes).Exec t o) :
    (∃ t', t = t' ++ [⟨.checkSetupStatus url auth, .ok 200⟩] ∧ NotReady t' ∧
      o = .returned ()) ∨
    (NotReady t ∧ ((∃ e, ReadyFailure e ∧ o = .threw e) ∨ o = .diverged)) := by
  obtain ⟨time, t₀, rfl, hrounds⟩ := Prog.exec_perform_bind.mp h
  rcases readyRounds_exec hrounds with ⟨t', rfl, hn, ho⟩ | ⟨hn, ho⟩
  · exact .inl ⟨⟨.now, time⟩ :: t', rfl, hn.of_other (by simp), ho⟩
  · exact .inr ⟨hn.of_other (by simp), ho⟩

/-- The calls the readiness poll makes. -/
def IsReadyCall (url : String) (auth : SetupAuth) (c : Call) : Prop :=
  c = .now ∨ (∃ ms, c = .sleep ms) ∨ c = .checkSetupStatus url auth

theorem IsReadyCall.isRead {c : Call} (h : IsReadyCall url auth c) : c.isRead = true := by
  rcases h with rfl | ⟨ms, rfl⟩ | rfl <;> rfl

theorem IsReadyCall.noCommand {c : Call} (h : IsReadyCall url auth c) : NoCommand c := by
  intro args stdin
  rcases h with rfl | ⟨ms, rfl⟩ | rfl <;> simp

theorem readyRounds_only :
    (readyRounds url auth pollSeconds timeoutMinutes deadline fuel).Only (IsReadyCall url auth) := by
  have hsleep : (sleep (pollSeconds * 1000)).Only (IsReadyCall url auth) :=
    Prog.only_perform.mpr (.inr (.inl ⟨_, rfl⟩))
  have hnow : now.Only (IsReadyCall url auth) := Prog.only_perform.mpr (.inl rfl)
  induction fuel with
  | zero => exact Prog.only_diverge
  | succ fuel ih =>
      have hprobe : IsReadyCall url auth (.checkSetupStatus url auth) := .inr (.inr rfl)
      apply Prog.Only.bind (Prog.only_ask hprobe)
      intro lastStatus
      split
      · exact Prog.only_pure
      · apply hsleep.bind
        intro _
        apply hnow.bind
        intro time
        split
        · exact ih
        · exact Prog.only_throw

/-- The wait asks the instance, asks for the time and sleeps. -/
theorem waitForSetupReady_only :
    (waitForSetupReady fuel url auth pollSeconds timeoutMinutes).Only (IsReadyCall url auth) := by
  have hnow : now.Only (IsReadyCall url auth) := Prog.only_perform.mpr (.inl rfl)
  apply hnow.bind
  intro time
  exact readyRounds_only

theorem waitForSetupReady_readOnly :
    ReadOnly (waitForSetupReady fuel url auth pollSeconds timeoutMinutes) :=
  waitForSetupReady_only.mono fun _ hc => hc.isRead

end Ready

end Railway
