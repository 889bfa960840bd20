/-
ControlPlane/Railway/Platform.lean

A platform that stores projects with their services, variables and domains and
executes the commands of the provisioner.

`PlatformStep` says what each call does to it.  A command that fails may have
taken effect all the same, so a caller learns nothing from an error; a listing
that succeeds prints what is stored, the status of the latest deployment of each
service with it.  While a call sleeps, and when it redeploys, these statuses may
become any others.  What `domain` commands print is left open.

One step lemma per command says what a caller can conclude from its reply
(`up_step`, `serviceList_step`, ...); the last section reads the listings with the
provisioner's own functions.
-/
import ControlPlane.Railway.LiveUpdate
import ControlPlane.Railway.Provision
import Mathlib.Logic.Function.Basic

namespace Railway

open Js Interaction

/-! ### The platform -/

/-- A domain and the port it is routed to. -/
structure Domain where
  name : String
  kind : String
  targetPort : Option Number

/-- A service with its variables and domains. -/
structure Service where
  id : String
  name : String
  vars : List (String × String)
  domains : List Domain

/-- The value of a variable, if it is set. -/
def Service.variable (service : Service) (name : String) : Option String :=
  service.vars.lookup name

/-- The service with a variable set. -/
def Service.setVariable (name value : String) (service : Service) : Service :=
  { service with vars := (name, value) :: service.vars }

/-- The service with a domain added. -/
def Service.addDomain (domain : Domain) (service : Service) : Service :=
  { service with domains := service.domains ++ [domain] }

/-- Route the domain of this name to `port`. -/
def Service.routeDomain (name : String) (port : ℕ) (service : Service) : Service :=
  { service with domains := service.domains.map fun domain =>
      if domain.name = name then { domain with targetPort := some (.ofNat port) } else domain }

/-- The projects by their ids, the one the commands are about, and the status of
the latest deployment of each service, by the id of the service; of an id that is
not in use, the status its service will be created with. -/
structure State where
  projects : String → List Service
  linked : String
  deployment : String → Option String

/-- The services of the linked project. -/
def State.services (s : State) : List Service := s.projects s.linked

/-- The state with other services in the linked project. -/
def State.withServices (s : State) (services : List Service) : State :=
  { s with projects := Function.update s.projects s.linked services }

/-- What a command on the service `n` of the linked project changes. -/
def State.onService (s : State) (n : String) (f : Service → Service) : State :=
  s.withServices (s.services.map fun service => if service.name = n then f service else service)

/-- Deployments have gone on. -/
def State.progressed (s : State) (deployment : String → Option String) : State :=
  { s with deployment := deployment }

/-- A row of `service list`. -/
def ShowsService (row : Json) (service : Service) : Prop :=
  row.get "id" = .json (.str service.id) ∧ row.get "name" = .json (.str service.name)

/-- The status in a row of `service list`. -/
def ShowsStatus (s : State) (row : Json) (service : Service) : Prop :=
  deploymentMember row "status" =
    (s.deployment service.id).elim .undefined fun status => .json (.str status)

/-- A row of `domain list`. -/
def ShowsDomain (row : Json) (domain : Domain) : Prop :=
  row.get "domain" = .json (.str domain.name) ∧ row.get "type" = .json (.str domain.kind) ∧
    (row.get "targetPort").asNumber = domain.targetPort

/-- What a call does to the platform.  A command that fails may have taken effect
all the same, except that a listing never has one. -/
inductive PlatformStep (rt : Runtime) : State → Event Platform → State → Prop
  | other {s : State} {e : Event Platform} (h : NoCommand e.call) : PlatformStep rt s e s
  | sleep {s : State} {ms : ℕ} {deployment : String → Option String} :
      PlatformStep rt s ⟨.sleep ms, ()⟩ (s.progressed deployment)
  | failed {s : State} {args : List String} {stdin : Option String} {message : String} :
      PlatformStep rt s ⟨.run args stdin, .error message⟩ s
  | listServices {s : State} {text : String} {rows : List Json}
      (hparse : rt.jsonParse text = .ok (.arr rows))
      (hrows : List.Forall₂ ShowsService rows s.services)
      (hstatuses : List.Forall₂ (ShowsStatus s) rows s.services) :
      PlatformStep rt s ⟨.run serviceListArgs none, .ok text⟩ s
  | listVariables {s : State} {n text : String} {service : Service} {fields : List (String × Json)}
      (hmem : service ∈ s.services) (hname : service.name = n)
      (hparse : rt.jsonParse text = .ok (.obj fields))
      (hfields : ∀ name, fields.lookup name = (service.variable name).map .str) :
      PlatformStep rt s ⟨.run (variableListArgs n) none, .ok text⟩ s
  | listDomains {s : State} {n text : String} {service : Service} {rows : List Json}
      (hmem : service ∈ s.services) (hname : service.name = n)
      (hparse : rt.jsonParse text = .ok (.obj [("domains", .arr rows)]))
      (hrows : List.Forall₂ ShowsDomain rows service.domains) :
      PlatformStep rt s ⟨.run (domainListArgs n) none, .ok text⟩ s
  | link {s : State} {projectId : String} {reply : Except String String} :
      PlatformStep rt s ⟨.run (linkArgs projectId) none, reply⟩ { s with linked := projectId }
  | init {s : State} {clientName projectId : String} {workspace : Option String}
      {reply : Except String String} (hnew : s.projects projectId = []) :
      PlatformStep rt s ⟨.run (initArgs clientName workspace) none, reply⟩
        { s with linked := projectId }
  | upCreated {s : State} {created : Service} {reply : Except String String}
      (hid : ∀ service ∈ s.services, service.id ≠ created.id)
      (hname : ∀ service ∈ s.services, service.name ≠ created.name)
      (hvars : created.vars = []) (hdomains : created.domains = []) :
      PlatformStep rt s ⟨.run upArgs none, reply⟩ (s.withServices (s.services ++ [created]))
  | upExisting {s : State} {text : String} : PlatformStep rt s ⟨.run upArgs none, .ok text⟩ s
  | linkService {s : State} {n text : String} :
      PlatformStep rt s ⟨.run ["service", n] none, .ok text⟩ s
  | addVolume {s : State} {text : String} : PlatformStep rt s ⟨.run volumeArgs none, .ok text⟩ s
  | redeploy {s : State} {n text : String} {deployment : String → Option String} :
      PlatformStep rt s ⟨redeployCall n, .ok text⟩ (s.progressed deployment)
  | setVariable {s : State} {n name value : String} {skipDeploys : Bool}
      {reply : Except String String} :
      PlatformStep rt s ⟨.run (variableSetArgs name n skipDeploys) (some value), reply⟩
        (s.onService n (.setVariable name value))
  | createDomain {s : State} {n name : String} {port : ℕ} {reply : Except String String} :
      PlatformStep rt s ⟨.run (domainCreateArgs n port) none, reply⟩
        (s.onService n (.addDomain ⟨name, "service", some (.ofNat port)⟩))
  | updateDomain {s : State} {n name : String} {port : ℕ} {reply : Except String String} :
      PlatformStep rt s ⟨.run (domainUpdateArgs name n port) none, reply⟩
        (s.onService n (.routeDomain name port))

/-- The platform as a transition system over calls and replies. -/
def platform (rt : Runtime) : Lts State (Event Platform) where
  step := PlatformStep rt

section OnService

variable {s : State} {n : String} {f : Service → Service}

@[simp] theorem withServices_services {services : List Service} :
    (s.withServices services).services = services := by
  simp [State.withServices, State.services]

/-- The other projects stay. -/
theorem withServices_projects_of_ne {services : List Service} {project : String}
    (h : project ≠ s.linked) : (s.withServices services).projects project = s.projects project := by
  simp [State.withServices, h]

theorem withServices_projects_linked {services : List Service} :
    (s.withServices services).projects s.linked = services := by
  simp [State.withServices]

/-- A service after a command on `n` is one from before, or the changed `n`. -/
theorem mem_onService {service : Service} (h : service ∈ (s.onService n f).services) :
    (service ∈ s.services ∧ service.name ≠ n) ∨
      ∃ old ∈ s.services, old.name = n ∧ service = f old := by
  rw [State.onService, withServices_services] at h
  obtain ⟨old, hold, rfl⟩ := List.mem_map.mp h
  split
  · rename_i hn
    exact .inr ⟨old, hold, hn, rfl⟩
  · rename_i hn
    exact .inl ⟨hold, hn⟩
end OnService

/-! ### Steps -/

section Steps

variable {rt : Runtime} {s s' s₁ : State} {n : String} {args : List String} {stdin : Option String}
  {reply : Except String String} {options : ResolvedProvisionOptions}

/-- The state after `up`: as it was, or with one service more. -/
def Uploaded (s₁ s : State) : Prop :=
  s = s₁ ∨ ∃ created : Service, s = s₁.withServices (s₁.services ++ [created]) ∧
    (∀ service ∈ s₁.services, service.id ≠ created.id) ∧
    (∀ service ∈ s₁.services, service.name ≠ created.name) ∧
    created.vars = [] ∧ created.domains = []

/-- An upload adds a bare service, or nothing. -/
theorem up_step (h : PlatformStep rt s ⟨.run args stdin, reply⟩ s') (hargs : args = upArgs) :
    Uploaded s s' := by
  cases h with
  | other h => exact absurd rfl (h args stdin)
  | failed | listServices | listVariables | listDomains | upExisting | linkService
  | addVolume => exact .inl rfl
  | upCreated hid hname hvars hdomains => exact .inr ⟨_, rfl, hid, hname, hvars, hdomains⟩
  | link | init | redeploy | setVariable | createDomain | updateDomain =>
      simp [linkArgs, initArgs, redeployArgs, variableSetArgs, domainCreateArgs, domainUpdateArgs,
        upArgs] at hargs

/-- A listing changes nothing; one that succeeds prints the services. -/
theorem serviceList_step (h : PlatformStep rt s ⟨.run args stdin, reply⟩ s')
    (hargs : args = serviceListArgs) :
    s' = s ∧ ∀ services, printed rt reply = .ok services →
      ∃ rows, services = .arr rows ∧ List.Forall₂ ShowsService rows s.services ∧
        List.Forall₂ (ShowsStatus s) rows s.services := by
  cases h with
  | other h => exact absurd rfl (h args stdin)
  | failed => exact ⟨rfl, fun _ hp => (nomatch hp)⟩
  | @listServices text rows hparse hrows hstatuses =>
      refine ⟨rfl, ?_⟩
      intro services hp
      change settled (rt.jsonParse text) = _ at hp
      rw [hparse] at hp
      cases hp
      exact ⟨rows, rfl, hrows, hstatuses⟩
  | listVariables | listDomains | link | init | upCreated | upExisting | linkService | addVolume
  | redeploy | setVariable | createDomain | updateDomain =>
      simp [serviceListArgs, variableListArgs, domainListArgs, linkArgs, initArgs, upArgs,
        volumeArgs, redeployArgs, variableSetArgs, domainCreateArgs, domainUpdateArgs] at hargs

/-- A listing shows the variables and changes nothing. -/
theorem variableList_step (h : PlatformStep rt s ⟨.run args stdin, reply⟩ s')
    (hargs : args = variableListArgs n) :
    s' = s ∧ ∀ name value, name ∉ objectPrototype → variableIn rt name reply = .ok value →
      value.truthy = true → ∃ service ∈ s.services, service.name = n ∧
        ∃ text, service.variable name = some text ∧ text ≠ "" := by
  cases h with
  | other h => exact absurd rfl (h args stdin)
  | failed => exact ⟨rfl, fun _ _ _ hv => (nomatch hv)⟩
  | @listVariables m text service fields hmem hm hparse hfields =>
      refine ⟨rfl, ?_⟩
      intro name value hname hv htruthy
      have hservice : service.name = n := hm.trans (by simpa [variableListArgs] using hargs)
      change (settled (rt.jsonParse text) >>= fun vars => readMember vars name) = _ at hv
      rw [hparse] at hv
      have hget : (Json.obj fields).get name = value := Except.ok.inj hv
      refine ⟨service, hmem, hservice, ?_⟩
      rw [← hget, Json.get, Json.fields, hfields name] at htruthy
      cases hvalue : service.variable name with
      | none =>
          rw [hvalue] at htruthy
          simp [hname, Value.truthy] at htruthy
      | some text =>
          rw [hvalue] at htruthy
          refine ⟨text, rfl, ?_⟩
          rintro rfl
          simp [Value.truthy, Json.truthy] at htruthy
  | listServices | listDomains | link | init | upCreated | upExisting | linkService | addVolume
  | redeploy | setVariable | createDomain | updateDomain =>
      simp [serviceListArgs, variableListArgs, domainListArgs, linkArgs, initArgs, upArgs,
        volumeArgs, redeployArgs, variableSetArgs, domainCreateArgs, domainUpdateArgs] at hargs

/-- Linking changes the project, and creating one finds it empty. -/
theorem linkProject_step (h : PlatformStep rt s ⟨.run args stdin, reply⟩ s')
    (hargs : (∃ projectId, options.projectId = some projectId ∧ args = linkArgs projectId) ∨
      (options.projectId = none ∧ args = initArgs options.clientName options.workspace)) :
    s'.projects = s.projects ∧ s'.deployment = s.deployment ∧ ((∃ out, reply = .ok out) →
      options.projectId = some s'.linked ∨ s'.services = []) := by
  cases h with
  | other h => exact absurd rfl (h args stdin)
  | failed => exact ⟨rfl, rfl, fun ⟨out, ho⟩ => (nomatch ho)⟩
  | @link projectId =>
      refine ⟨rfl, rfl, fun _ => ?_⟩
      rcases hargs with ⟨project, hoption, hargs⟩ | ⟨-, hargs⟩
      · have hsame : projectId = project := by simpa [linkArgs] using hargs
        rw [hoption, hsame]
        exact .inl rfl
      · simp [linkArgs, initArgs] at hargs
  | init hnew => exact ⟨rfl, rfl, fun _ => .inr hnew⟩
  | listServices | listVariables | listDomains | upCreated | upExisting | linkService | addVolume
  | redeploy | setVariable | createDomain | updateDomain =>
      rcases hargs with ⟨project, -, hargs⟩ | ⟨-, hargs⟩ <;>
        simp [serviceListArgs, variableListArgs, domainListArgs, linkArgs, initArgs, upArgs,
          volumeArgs, redeployArgs, variableSetArgs, domainCreateArgs, domainUpdateArgs] at hargs

end Steps

/-! ### Reading the listings -/

section Listings

variable {services : List Service} {rows : List Json} {row : Json} {service created : Service}

theorem obj_of_get {j value : Json} {name : String} (h : j.get name = .json value) :
    ∃ fields, j = .obj fields := by
  cases j with
  | obj fields => exact ⟨fields, rfl⟩
  | null | bool | num | str | arr =>
      unfold Json.get Json.fields at h
      simp only [List.lookup_nil] at h
      split at h <;> cases h

theorem readMember_of_get {j value : Json} {name : String} (h : j.get name = .json value) :
    readMember j name = .ok (.json value) := by
  obtain ⟨fields, rfl⟩ := obj_of_get h
  rw [← h]
  rfl

/-- The status of a reusable service. -/
theorem ShowsStatus.succeeded {s : State} {reused : Json} (h : ShowsStatus s row service)
    (hreused : checkReusable row = .ok reused) :
    reused = row ∧ s.deployment service.id = some "SUCCESS" := by
  unfold checkReusable at hreused
  rw [ShowsStatus] at h
  rw [h] at hreused
  cases hstatus : s.deployment service.id with
  | none =>
      rw [hstatus] at hreused
      cases hreused
  | some status =>
      rw [hstatus] at hreused
      split at hreused
      · rename_i hsuccess
        have hsame : status = "SUCCESS" := by simpa [Value.isString] using hsuccess
        rw [hsame]
        exact ⟨(Except.ok.inj hreused).symm, rfl⟩
      · cases hreused

theorem ShowsService.truthy (h : ShowsService row service) : row.truthy = true := by
  obtain ⟨fields, rfl⟩ := obj_of_get h.1
  rfl

/-- The ids that are read are those of the services. -/
theorem serviceIds_eq (h : List.Forall₂ ShowsService rows services) :
    serviceIds rows = .ok (services.map fun service => .json (.str service.id)) := by
  induction h with
  | nil => rfl
  | cons hrow _ ih =>
      rw [serviceIds, readMember_of_get hrow.1, ih]
      rfl

theorem any_id_iff {id : String} :
    ((services.map fun service => Value.json (.str service.id)).any fun before =>
      before.strictEquals (.json (.str id))) = true ↔ ∃ service ∈ services, service.id = id := by
  simp [Value.strictEquals]

/-- The services that were there before are not among the created ones. -/
theorem createdAmong_eq {before : List Service} (h : List.Forall₂ ShowsService rows services)
    (hold : ∀ service ∈ services, service ∈ before) :
    createdAmong (before.map fun service => .json (.str service.id)) rows = .ok [] := by
  induction h with
  | nil => rfl
  | @cons row service rows services hrow _ ih =>
      have hany := any_id_iff.mpr ⟨service, hold service (by simp), rfl⟩
      have hrest := ih fun service hmem => hold service (by simp [hmem])
      rw [createdAmong, readMember_of_get hrow.1, hrest]
      show Except.ok (if _ then _ else _) = _
      rw [if_pos hany]

/-- A service with an id of its own is found among the listed ones. -/
theorem createdAmong_append {before : List Service}
    (h : List.Forall₂ ShowsService rows (services ++ [created]))
    (hold : ∀ service ∈ services, service ∈ before)
    (hid : ∀ service ∈ before, service.id ≠ created.id) :
    ∃ row, ShowsService row created ∧
      createdAmong (before.map fun service => .json (.str service.id)) rows = .ok [row] := by
  induction services generalizing rows with
  | nil =>
      cases h with
      | @cons row _ rows _ hrow hrest =>
          cases hrest
          refine ⟨row, hrow, ?_⟩
          rw [createdAmong, readMember_of_get hrow.1]
          show Except.ok (if _ then _ else _) = _
          rw [if_neg]
          rw [any_id_iff]
          rintro ⟨service, hmem, hsame⟩
          exact hid service hmem hsame
  | cons service services ih =>
      cases h with
      | @cons row _ rows _ hrow hrest =>
          obtain ⟨found, hfound, heq⟩ := ih hrest fun service hmem => hold service (by simp [hmem])
          have hany := any_id_iff.mpr ⟨service, hold service (by simp), rfl⟩
          refine ⟨found, hfound, ?_⟩
          rw [createdAmong, readMember_of_get hrow.1, heq]
          show Except.ok (if _ then _ else _) = _
          rw [if_pos hany]

/-- Without a new service none is found. -/
theorem createdService_old {clientName name : String} {before : List Service}
    (h : List.Forall₂ ShowsService rows services) (hold : ∀ service ∈ services, service ∈ before) :
    createdService clientName (before.map fun service => .json (.str service.id)) (.arr rows) ≠
      .ok name := by
  show (createdAmong _ rows >>= _) ≠ _
  rw [createdAmong_eq h hold]
  intro heq
  cases heq

/-- A new service is the one that is found. -/
theorem createdService_new {clientName name : String} {before : List Service}
    (h : List.Forall₂ ShowsService rows (services ++ [created]))
    (hold : ∀ service ∈ services, service ∈ before)
    (hid : ∀ service ∈ before, service.id ≠ created.id)
    (hname : createdService clientName (before.map fun service => .json (.str service.id))
      (.arr rows) = .ok name) : name = created.name := by
  obtain ⟨row, hrow, hcreated⟩ := createdAmong_append h hold hid
  have hfilter : (some row).filter Json.truthy = some row := by
    rw [Option.filter_some, if_pos hrow.truthy]
  have hsole : ∀ context, selectSoleService [row] clientName context = .ok (some row) := fun _ => rfl
  simp only [createdService, elements, hcreated, hsole, hfilter, bind, Except.bind] at hname
  change argument (row.get "name") = _ at hname
  rw [hrow.2] at hname
  exact (Except.ok.inj hname).symm

/-- An existing service to reuse is the only one, and there is no reason not to
reuse it. -/
theorem existingService_some {options : ResolvedProvisionOptions} {existing : Json}
    (h : existingService options (.arr rows) = .ok (some existing)) :
    options.forceNew = false ∧ rows = [existing] := by
  change (selectSoleService rows options.clientName "linked project" >>= fun sole =>
    .ok (reusable sole options.forceNew)) = _ at h
  match rows, h with
  | [], h =>
      have hnone : reusable none options.forceNew = some existing := Except.ok.inj h
      cases hforce : options.forceNew <;> simp [reusable, hforce] at hnone
  | [row], h =>
      have hsome : reusable (some row) options.forceNew = some existing := Except.ok.inj h
      cases hforce : options.forceNew with
      | true => simp [reusable, hforce] at hsome
      | false =>
          rw [hforce, reusable, if_neg (by simp)] at hsome
          rw [Option.filter_some] at hsome
          split at hsome
          · cases hsome
            exact ⟨rfl, rfl⟩
          · cases hsome
  | _ :: _ :: _, h =>
      rw [selectSoleService, if_neg (by simp)] at h
      cases hnames : namesOf _ with
      | error e =>
          rw [hnames] at h
          cases h
      | ok names =>
          rw [hnames] at h
          cases h

end Listings

end Railway
