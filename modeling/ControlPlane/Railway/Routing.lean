/-
ControlPlane/Railway/Routing.lean

Where the domains of a provisioned service lead.

A session is a sequence of `provisionClientInstance` calls against the platform.
`PORT` is written when a service is created, the port of its domain on every call.
`steadySession_routed` says that the two agree after every call of a session in
which no call reuses a service whose `PORT` is not the port the call asks for, and
that such calls leave every routed service routed as it was.  Without the
condition they come apart: `rerun_diverts`.

The proof follows the call: each part is given a triple over the platform, and the
parts that only work on one service are bounded by the commands they make, of
which one step is looked at once (`finish_step`, `bootstrap_step`).
-/
import ControlPlane.Railway.Rollover
import ControlPlane.Railway.Platform
import ControlPlane.Interaction.Hoare

namespace Railway

open Js Interaction

/-! ### Routing -/

/-- The domains of a service with a `PORT` lead to that port. -/
def Service.Routed (service : Service) : Prop :=
  ∀ port, service.variable "PORT" = some port →
    ∀ domain ∈ service.domains, domain.targetPort.map Number.text = some port

/-- Every service of every project is routed. -/
def Routed (s : State) : Prop := ∀ project, ∀ service ∈ s.projects project, service.Routed

/-- `service` is still there as `now`: with its variables, and each of its domains
leading where it did. -/
structure Service.Kept (service now : Service) : Prop where
  id : now.id = service.id
  name : now.name = service.name
  vars : now.vars = service.vars
  domains : ∀ domain ∈ service.domains, domain ∈ now.domains

/-- The services of `s₀` that have a `PORT` are kept. -/
def Keeps (s₀ s : State) : Prop :=
  ∀ project, ∀ service ∈ s₀.projects project, service.variable "PORT" ≠ none →
    ∃ now ∈ s.projects project, service.Kept now

theorem Service.Kept.refl (service : Service) : service.Kept service :=
  ⟨rfl, rfl, rfl, fun _ h => h⟩

theorem Service.Kept.trans {a b c : Service} (h : a.Kept b) (h' : b.Kept c) : a.Kept c where
  id := h'.id.trans h.id
  name := h'.name.trans h.name
  vars := h'.vars.trans h.vars
  domains domain hd := h'.domains domain (h.domains domain hd)

/-- A service that was kept has its variables. -/
theorem Service.Kept.variable_eq {a b : Service} (h : a.Kept b) (name : String) :
    b.variable name = a.variable name := by
  rw [Service.variable, h.vars]
  rfl

theorem Keeps.refl (s : State) : Keeps s s :=
  fun _ service hmem _ => ⟨service, hmem, .refl service⟩

theorem Keeps.trans {s₀ s₁ s₂ : State} (h : Keeps s₀ s₁) (h' : Keeps s₁ s₂) : Keeps s₀ s₂ := by
  intro project service hmem hport
  obtain ⟨now, hnow, hkept⟩ := h project service hmem hport
  have hport' : now.variable "PORT" ≠ none := by rwa [hkept.variable_eq]
  obtain ⟨later, hlater, hkept'⟩ := h' project now hnow hport'
  exact ⟨later, hlater, hkept.trans hkept'⟩

section OnService

variable {s s₀ : State} {n : String} {f : Service → Service}

/-- A change that routes what it changes leaves everything routed. -/
theorem Routed.onService (h : Routed s)
    (hf : ∀ old ∈ s.services, old.name = n → (f old).Routed) : Routed (s.onService n f) := by
  intro project service hmem
  by_cases hp : project = s.linked
  · subst hp
    rw [State.onService, withServices_projects_linked] at hmem
    obtain ⟨old, hold, rfl⟩ := List.mem_map.mp hmem
    split
    · rename_i hn
      exact hf old hold hn
    · exact h _ old hold
  · rw [State.onService, withServices_projects_of_ne hp] at hmem
    exact h project service hmem

/-- A change that keeps what has a port keeps the routing. -/
theorem Keeps.onService (h : Keeps s₀ s)
    (hf : ∀ service ∈ s₀.projects s.linked, ∀ old ∈ s.services, old.name = n →
      service.variable "PORT" ≠ none → service.Kept old → service.Kept (f old)) :
    Keeps s₀ (s.onService n f) := by
  intro project service hmem hport
  obtain ⟨now, hnow, hkept⟩ := h project service hmem hport
  by_cases hp : project = s.linked
  · subst hp
    rw [State.onService, withServices_projects_linked]
    by_cases hn : now.name = n
    · refine ⟨f now, ?_, hf service hmem now hnow hn hport hkept⟩
      exact List.mem_map.mpr ⟨now, hnow, by rw [if_pos hn]⟩
    · refine ⟨now, ?_, hkept⟩
      exact List.mem_map.mpr ⟨now, hnow, by rw [if_neg hn]⟩
  · rw [State.onService, withServices_projects_of_ne hp]
    exact ⟨now, hnow, hkept⟩

end OnService

/-! ### Commands on one service -/

/-- The services `n` have no `PORT` or this one. -/
def Fits (n : String) (T : ℕ) (s : State) : Prop :=
  ∀ service ∈ s.services, service.name = n →
    ∀ port, service.variable "PORT" = some port → port = toString T

/-- A change of a service that leads domains to the port `T` and nowhere else. -/
structure PointsTo (T : ℕ) (f : Service → Service) : Prop where
  id : ∀ service, (f service).id = service.id
  name : ∀ service, (f service).name = service.name
  vars : ∀ service, (f service).vars = service.vars
  leads : ∀ service, ∀ domain ∈ (f service).domains,
    domain ∈ service.domains ∨ domain.targetPort = some (.ofNat T)
  stays : ∀ service, ∀ domain ∈ service.domains,
    domain.targetPort = some (.ofNat T) → domain ∈ (f service).domains

/-- Routed, with `n` fit for `T`, and the routed services of `s₀` kept. -/
structure Steady (s₀ : State) (n : String) (T : ℕ) (s : State) : Prop where
  routed : Routed s
  fits : Fits n T s
  keeps : Keeps s₀ s

/-- As before, with `n` new since `s₀` and without a domain. -/
structure Bare (s₀ : State) (n : String) (T : ℕ) (s : State) : Prop extends Steady s₀ n T s where
  bare : ∀ service ∈ s.services, service.name = n → service.domains = []
  apart : ∀ service ∈ s₀.projects s.linked, service.name ≠ n

section Commands

variable {rt : Runtime} {s s' s₀ : State} {n : String} {T : ℕ} {e : Event Platform}
  {f : Service → Service}

/-- A number is known by its text. -/
theorem Number.eq_ofNat_of_text {number : Number} {port : ℕ} (h : number.text = toString port) :
    number = .ofNat port := by
  cases number
  cases h
  rfl

/-- A new domain points to the port it is created with. -/
theorem pointsTo_addDomain {name kind : String} :
    PointsTo T (.addDomain ⟨name, kind, some (.ofNat T)⟩) where
  id _ := rfl
  name _ := rfl
  vars _ := rfl
  leads service domain hmem := by
    rcases List.mem_append.mp hmem with hmem | hmem
    · exact .inl hmem
    · rw [List.mem_singleton.mp hmem]
      exact .inr rfl
  stays service domain hmem _ := List.mem_append_left _ hmem

/-- A routed domain points to the port it is routed to. -/
theorem pointsTo_routeDomain {name : String} : PointsTo T (.routeDomain name T) where
  id _ := rfl
  name _ := rfl
  vars _ := rfl
  leads service domain hmem := by
    obtain ⟨old, hold, rfl⟩ := List.mem_map.mp hmem
    split
    · exact .inr rfl
    · exact .inl hold
  stays service domain hmem hport := by
    refine List.mem_map.mpr ⟨domain, hmem, ?_⟩
    split
    · rw [← hport]
    · rfl

/-- The two commands on the domains of `n`. -/
theorem Steady.onService (h : Steady s₀ n T s) (hf : PointsTo T f) :
    Steady s₀ n T (s.onService n f) := by
  have hvariable : ∀ service name, (f service).variable name = service.variable name := by
    intro service name
    rw [Service.variable, hf.vars]
    rfl
  -- a domain the command touches leads to `T`, which is the service's PORT if it has one
  have hrouted : ∀ old ∈ s.services, old.name = n → (f old).Routed := by
    intro old hold hn port hport domain hdomain
    rw [hvariable] at hport
    rcases hf.leads old domain hdomain with hmem | htarget
    · exact h.routed s.linked old hold port hport domain hmem
    · rw [htarget, h.fits old hold hn port hport]
      rfl
  refine ⟨h.routed.onService hrouted, ?_, h.keeps.onService ?_⟩
  · intro service hmem hn port hport
    rcases mem_onService hmem with ⟨hold, hne⟩ | ⟨old, hold, hn', rfl⟩
    · exact absurd hn hne
    · rw [hvariable] at hport
      exact h.fits old hold hn' port hport
  · intro service _ old hold hn hport hkept
    refine ⟨(hf.id old).trans hkept.id, (hf.name old).trans hkept.name,
      (hf.vars old).trans hkept.vars, ?_⟩
    intro domain hdomain
    -- a kept domain leads to `T` already, so the command leaves it as it is
    obtain ⟨port, hsome⟩ := Option.ne_none_iff_exists'.mp hport
    have hport' : old.variable "PORT" = some port := by rw [hkept.variable_eq, hsome]
    have hold' := hkept.domains domain hdomain
    have htarget := h.routed s.linked old hold port hport' domain hold'
    obtain ⟨number, hnumber, htext⟩ := Option.map_eq_some_iff.mp htarget
    apply hf.stays old domain hold'
    rw [hnumber, Number.eq_ofNat_of_text (htext.trans (h.fits old hold hn port hport'))]

/-- Writing a variable of a service that has no domain. -/
theorem Bare.onService {name value : String} (h : Bare s₀ n T s)
    (hport : name = "PORT" → value = toString T) :
    Bare s₀ n T (s.onService n (.setVariable name value)) := by
  have hbare : ∀ old ∈ s.services, old.name = n →
      (Service.setVariable name value old).domains = [] := fun old hold hn => h.bare old hold hn
  refine ⟨⟨h.routed.onService ?_, ?_, h.keeps.onService ?_⟩, ?_, h.apart⟩
  · intro old hold hn port _ domain hdomain
    rw [hbare old hold hn] at hdomain
    cases hdomain
  · intro service hmem hn port hvalue
    rcases mem_onService hmem with ⟨hold, hne⟩ | ⟨old, hold, hn', rfl⟩
    · exact absurd hn hne
    · change ((name, value) :: old.vars).lookup "PORT" = some port at hvalue
      by_cases hname : name = "PORT"
      · subst hname
        rw [List.lookup_cons_self] at hvalue
        rw [← Option.some.inj hvalue]
        exact hport rfl
      · rw [List.lookup_cons, beq_eq_false_iff_ne.mpr (Ne.symm hname)] at hvalue
        exact h.fits old hold hn' port hvalue
  · intro service hmem old hold hn _ hkept
    exact absurd (hkept.name.symm.trans hn) (h.apart service hmem)
  · intro service hmem hn
    rcases mem_onService hmem with ⟨hold, hne⟩ | ⟨old, hold, hn', rfl⟩
    · exact absurd hn hne
    · exact hbare old hold hn'

/-! ### One step -/

theorem IsFinishCall.head {args : List String} {stdin : Option String}
    (h : IsFinishCall n T (.run args stdin)) : args.head? = some "domain" := by
  rcases h with ⟨-, rfl | rfl | ⟨domain, rfl⟩⟩ <;> rfl

/-- What a call on the domains of `n` does. -/
theorem finish_step (hc : IsFinishCall n T e.call) (h : PlatformStep rt s e s') :
    (∃ deployment, s' = s.progressed deployment) ∨ ∃ f, s' = s.onService n f ∧ PointsTo T f := by
  cases h with
  | other | failed | listServices | listVariables | listDomains | upExisting | linkService
  | addVolume => exact .inl ⟨s.deployment, rfl⟩
  | sleep | redeploy => exact .inl ⟨_, rfl⟩
  | link | init | upCreated => exact absurd hc.head (by simp [linkArgs, initArgs, upArgs])
  | setVariable => cases hc.1
  | @createDomain m name port =>
      rcases hc with ⟨-, hargs | hargs | ⟨domain, hargs⟩⟩
      · simp [domainCreateArgs, domainListArgs] at hargs
      · simp only [domainCreateArgs, List.cons.injEq, true_and, and_true] at hargs
        obtain ⟨rfl, hport⟩ := hargs
        refine .inr ⟨_, rfl, ?_⟩
        rw [@Number.eq_ofNat_of_text (.ofNat port) T hport]
        exact pointsTo_addDomain
      · simp [domainCreateArgs, domainUpdateArgs] at hargs
  | @updateDomain m name port =>
      rcases hc with ⟨-, hargs | hargs | ⟨domain, hargs⟩⟩
      · simp [domainUpdateArgs, domainListArgs] at hargs
      · simp [domainUpdateArgs, domainCreateArgs] at hargs
      · simp only [domainUpdateArgs, List.cons.injEq, true_and, and_true] at hargs
        obtain ⟨rfl, rfl, hport⟩ := hargs
        refine .inr ⟨_, rfl, ?_⟩
        have hsame : Service.routeDomain name port = .routeDomain name T := by
          funext service
          rw [Service.routeDomain, @Number.eq_ofNat_of_text (.ofNat port) T hport]
          rfl
        rw [hsame]
        exact pointsTo_routeDomain

/-- The calls made on a service `n` that was just created. -/
def IsBootstrapCall (n : String) (T : ℕ) (c : Call) : Prop :=
  IsPollCall c ∨
    (∃ args, c = .run args none ∧ (args = ["service", n] ∨ args = volumeArgs ∨ args = redeployArgs n)) ∨
    ∃ name value, c = .run (variableSetArgs name n true) (some value) ∧
      (name = "PORT" → value = toString T)

theorem IsBootstrapCall.head {args : List String} (h : IsBootstrapCall n T (.run args none)) :
    args.head? = some "service" ∨ args.head? = some "volume" ∨ args.head? = some "redeploy" := by
  rcases h with (hcall | ⟨ms, hcall⟩ | hcall) | ⟨args', hcall, hargs⟩ | ⟨name, value, hcall, -⟩
  · cases hcall
  · cases hcall
  · cases hcall
    exact .inl rfl
  · cases hcall
    rcases hargs with rfl | rfl | rfl
    · exact .inl rfl
    · exact .inr (.inl rfl)
    · exact .inr (.inr rfl)
  · cases hcall

/-- What a call on a created service does. -/
theorem bootstrap_step (hc : IsBootstrapCall n T e.call) (h : PlatformStep rt s e s') :
    (∃ deployment, s' = s.progressed deployment) ∨
      ∃ name value, s' = s.onService n (.setVariable name value) ∧
        (name = "PORT" → value = toString T) := by
  cases h with
  | other | failed | listServices | listVariables | listDomains | upExisting | linkService
  | addVolume => exact .inl ⟨s.deployment, rfl⟩
  | sleep | redeploy => exact .inl ⟨_, rfl⟩
  | link | init | upCreated | createDomain | updateDomain =>
      rcases hc.head with h | h | h <;>
        simp [linkArgs, initArgs, upArgs, domainCreateArgs, domainUpdateArgs] at h
  | @setVariable m name value skipDeploys =>
      rcases hc with (hcall | ⟨ms, hcall⟩ | hcall) | ⟨args, hcall, -⟩ | ⟨name', value', hcall, hport⟩
      · cases hcall
      · cases hcall
      · cases (Call.run.inj hcall).2
      · cases (Call.run.inj hcall).2
      · obtain ⟨hargs, hstdin⟩ := Call.run.inj hcall
        obtain ⟨rfl, rfl⟩ := variableSetArgs_inj hargs
        cases hstdin
        exact .inr ⟨name, value, rfl, hport⟩

end Commands

/-! ### One call, part by part -/

section Calls

variable {rt : Runtime} {fuel : ℕ} {s s' s₀ s₁ : State} {n : String} {args : List String}
  {stdin : Option String} {reply : Except String String} {options : ResolvedProvisionOptions}

/-- Still routed, with the routed services of `s₀` kept. -/
def StillRouted (s₀ s : State) : Prop := Routed s ∧ Keeps s₀ s

/-- An upload leaves what was routed routed. -/
theorem Uploaded.stillRouted (h : Uploaded s₁ s) (hs : Routed s₁) : StillRouted s₁ s := by
  rcases h with rfl | ⟨created, rfl, -, -, -, hdomains⟩
  · exact ⟨hs, .refl s⟩
  · constructor
    · intro project service hmem
      by_cases hp : project = s₁.linked
      · subst hp
        rw [withServices_projects_linked] at hmem
        rcases List.mem_append.mp hmem with hmem | hmem
        · exact hs _ service hmem
        · rw [List.mem_singleton.mp hmem]
          intro port _ domain hdomain
          rw [hdomains] at hdomain
          cases hdomain
      · rw [withServices_projects_of_ne hp] at hmem
        exact hs project service hmem
    · intro project service hmem _
      refine ⟨service, ?_, .refl service⟩
      by_cases hp : project = s₁.linked
      · subst hp
        rw [withServices_projects_linked]
        exact List.mem_append_left _ hmem
      · rw [withServices_projects_of_ne hp]
        exact hmem

/-- The service that `up` has created is bare, whatever port it is meant for. -/
theorem Uploaded.bare {rows : List Json} {clientName : String} (h : Uploaded s₁ s)
    (hs : Routed s₁) (hrows : List.Forall₂ ShowsService rows s.services) (T : ℕ)
    (hname : createdService clientName
      (s₁.services.map fun service => .json (.str service.id)) (.arr rows) = .ok n) :
    Bare s₁ n T s := by
  have hstill := h.stillRouted hs
  rcases h with rfl | ⟨created, rfl, hid, hfresh, hvars, hdomains⟩
  · exact absurd hname (createdService_old hrows fun _ hmem => hmem)
  · rw [withServices_services] at hrows
    have hn : n = created.name := createdService_new hrows (fun _ hmem => hmem) hid hname
    subst hn
    -- the name is that of the created service only
    have honly : ∀ service ∈ (s₁.withServices (s₁.services ++ [created])).services,
        service.name = created.name → service = created := by
      intro service hmem hsame
      rw [withServices_services] at hmem
      rcases List.mem_append.mp hmem with hmem | hmem
      · exact absurd hsame (hfresh service hmem)
      · exact List.mem_singleton.mp hmem
    refine ⟨⟨hstill.1, ?_, hstill.2⟩, ?_, hfresh⟩
    · intro service hmem hsame port hport
      rw [honly service hmem hsame, Service.variable, hvars] at hport
      cases hport
    · intro service hmem hsame
      rw [honly service hmem hsame]
      exact hdomains

/-- The upload adds a bare service, or nothing. -/
theorem up_triple : Prog.Triple (platform rt) (fun s => s = s₁) (run upArgs none)
    (fun _ => Uploaded s₁) (Uploaded s₁) := by
  apply Prog.triple_ask
  · rintro s r s' a rfl hstep -
    exact up_step hstep rfl
  · rintro s r s' e rfl hstep -
    exact up_step hstep rfl

/-- The listing shows the services with their deployments. -/
theorem listServices_triple {P : State → Prop} :
    Prog.Triple (platform rt) P (listServices rt)
      (fun services s => P s ∧ ∃ rows, services = .arr rows ∧
        List.Forall₂ ShowsService rows s.services ∧
        List.Forall₂ (ShowsStatus s) rows s.services) P := by
  rw [listServices_eq]
  apply Prog.triple_ask
  · intro s r s' services hs hstep hr
    obtain ⟨rfl, hlisted⟩ := serviceList_step hstep rfl
    exact ⟨hs, hlisted services hr⟩
  · intro s r s' e hs hstep _
    obtain ⟨rfl, -⟩ := serviceList_step hstep rfl
    exact hs

theorem writeVariables_only {T : ℕ} {entries : List (String × String)}
    (h : ∀ entry ∈ entries, entry.1 = "PORT" → entry.2 = toString T) :
    (writeVariables n entries).Only (IsBootstrapCall n T) := by
  induction entries with
  | nil => exact Prog.only_pure
  | cons entry rest ih =>
      rw [writeVariables, writeRailwayVariable_eq]
      have hentry : IsBootstrapCall n T (.run (variableSetArgs entry.1 n true) (some entry.2)) :=
        .inr (.inr ⟨entry.1, entry.2, rfl, h entry (by simp)⟩)
      apply Prog.Only.bind (Prog.only_ask hentry)
      intro _
      exact ih fun entry hmem => h entry (by simp [hmem])

theorem deployCreated_only :
    (deployCreated rt fuel options n).Only (IsBootstrapCall n options.targetPort) := by
  apply (run_only (.inr (.inl ⟨_, rfl, .inl rfl⟩))).bind
  intro _
  apply (run_only (.inr (.inl ⟨_, rfl, .inr (.inl rfl)⟩))).bind
  intro _
  apply (writeVariables_only (by simp [variableEntries])).bind
  intro _
  apply (run_only (.inr (.inl ⟨_, rfl, .inr (.inr rfl)⟩))).bind
  intro _
  exact (pollServiceUntilSuccess_only _ _).mono fun _ hc => .inl hc

/-- What is returned is the service that was asked for. -/
theorem deployCreated_name {t : Trace} {service : Json}
    (h : (deployCreated rt fuel options n).Exec t (.returned service)) :
    service.get "name" = .json (.str n) := by
  obtain ⟨_, _, t₁, -, -, h⟩ := Prog.exec_bind_returned.mp h
  obtain ⟨_, _, t₂, -, -, h⟩ := Prog.exec_bind_returned.mp h
  obtain ⟨_, _, t₃, -, -, h⟩ := Prog.exec_bind_returned.mp h
  obtain ⟨_, _, t₄, -, -, h⟩ := Prog.exec_bind_returned.mp h
  exact pollServiceUntilSuccess_name h

/-- What is done with a service that is there keeps everything routed. -/
theorem finishProvision_triple {service : Json} {credentials : Credentials} {reused : Bool}
    (hn : service.get "name" = .json (.str n)) :
    Prog.Triple (platform rt) (Steady s₁ n options.targetPort)
      (finishProvision rt fuel options service credentials reused)
      (fun _ => StillRouted s₁) (StillRouted s₁) := by
  have honly : (finishProvision rt fuel options service credentials reused).Only
      (IsFinishCall n options.targetPort) := finishProvision_only hn
  have hsteps : ∀ s e s', IsFinishCall n options.targetPort e.call →
      Steady s₁ n options.targetPort s → (platform rt).step s e s' →
      Steady s₁ n options.targetPort s' := by
    intro s e s' hc hs hstep
    rcases finish_step hc hstep with ⟨deployment, rfl⟩ | ⟨f, rfl, hf⟩
    · exact ⟨hs.routed, hs.fits, hs.keeps⟩
    · exact hs.onService hf
  have htriple := honly.triple (A := fun _ => True) hsteps fun _ _ _ => trivial
  exact htriple.mono (fun _ hs => hs) (fun _ _ hs => ⟨hs.2.routed, hs.2.keeps⟩)
    fun _ hs => ⟨hs.routed, hs.keeps⟩

/-- A bare service is given its variables and its volume, and is deployed. -/
theorem deployCreated_triple :
    Prog.Triple (platform rt) (Bare s₁ n options.targetPort) (deployCreated rt fuel options n)
      (fun service s => service.get "name" = .json (.str n) ∧ Steady s₁ n options.targetPort s)
      (StillRouted s₁) := by
  have hsteps : ∀ s e s', IsBootstrapCall n options.targetPort e.call →
      Bare s₁ n options.targetPort s → (platform rt).step s e s' →
      Bare s₁ n options.targetPort s' := by
    intro s e s' hc hs hstep
    rcases bootstrap_step hc hstep with ⟨deployment, rfl⟩ | ⟨name, value, rfl, hport⟩
    · exact ⟨⟨hs.routed, hs.fits, hs.keeps⟩, hs.bare, hs.apart⟩
    · exact hs.onService hport
  have honly : (deployCreated rt fuel options n).Only (IsBootstrapCall n options.targetPort) :=
    deployCreated_only
  have htriple := honly.triple hsteps fun _ _ => deployCreated_name
  exact htriple.mono (fun _ hs => hs) (fun _ _ hs => ⟨hs.1, hs.2.toSteady⟩)
    fun _ hs => ⟨hs.routed, hs.keeps⟩

/-- The bootstrap path, whatever port it is asked for. -/
theorem createService_triple {rows : List Json} (hs : Routed s₁)
    (hrows : List.Forall₂ ShowsService rows s₁.services) :
    Prog.Triple (platform rt) (fun s => s = s₁) (createService rt fuel options (.arr rows))
      (fun _ => StillRouted s₁) (StillRouted s₁) := by
  have hstill : ∀ s, Uploaded s₁ s → StillRouted s₁ s := fun s h => h.stillRouted hs
  simp only [createService, bootstrapService, bind_assoc]
  apply (up_triple.mono (fun _ h => h) (fun _ _ h => h) hstill).bind
  intro _
  apply Prog.triple_ofExcept_bind
  · intro beforeIds hids
    change serviceIds rows = _ at hids
    rw [serviceIds_eq hrows] at hids
    cases hids
    apply (listServices_triple.mono (fun _ h => h) (fun _ _ h => h) hstill).bind
    intro servicesAfter
    apply Prog.triple_ofExcept_bind
    · intro name hname
      have hbare : ∀ s, (Uploaded s₁ s ∧ ∃ rows, servicesAfter = .arr rows ∧
          List.Forall₂ ShowsService rows s.services ∧
          List.Forall₂ (ShowsStatus s) rows s.services) → Bare s₁ name options.targetPort s := by
        rintro s ⟨hup, rows', rfl, hrows', -⟩
        exact hup.bare hs hrows' _ hname
      apply (deployCreated_triple.mono hbare (fun _ _ h => h) fun _ h => h).bind
      intro service
      exact Prog.triple_of_fact finishProvision_triple
    · rintro e - s ⟨hup, -⟩
      exact hstill s hup
  · rintro e - s hup
    exact hstill s hup

/-- A credential that is read is stored, and nothing has changed. -/
theorem storedCredential_triple {kind : FailureKind} {name : String} {P R : State → Prop}
    (hname : name ∉ objectPrototype) (hR : ∀ s, P s → R s) :
    Prog.Triple (platform rt) P (storedCredential rt kind name n)
      (fun _ s => P s ∧ ∃ service ∈ s.services, service.name = n ∧
        ∃ text, service.variable name = some text ∧ text ≠ "") R := by
  rw [storedCredential, readRailwayVariable_eq]
  have hread : Prog.Triple (platform rt) P
      (Prog.ask (I := Platform) (.run (variableListArgs n) none) (variableIn rt name) : Tool Value)
      (fun stored s => P s ∧ (stored.truthy = true → ∃ service ∈ s.services, service.name = n ∧
        ∃ text, service.variable name = some text ∧ text ≠ "")) R := by
    apply Prog.triple_ask
    · intro s r s' stored hs hstep hr
      obtain ⟨rfl, hstored⟩ := variableList_step hstep rfl
      exact ⟨hs, hstored name stored hname hr⟩
    · intro s r s' e hs hstep _
      obtain ⟨rfl, -⟩ := variableList_step hstep rfl
      exact hR _ hs
  apply hread.bind
  intro stored
  split
  · rename_i htruthy
    exact Prog.triple_pure fun s hs => ⟨hs.1, hs.2 htruthy⟩
  · exact Prog.triple_throw fun s hs => hR s hs.1

/-- A service that can be reused: both of its credentials are stored. -/
def HasCredentials (service : Service) : Prop :=
  ∀ name ∈ ["SETUP_PASSWORD", "OPENCLAW_GATEWAY_TOKEN"],
    ∃ text, service.variable name = some text ∧ text ≠ ""

/-- So are both of them. -/
theorem storedCredentials_triple {service : Service} (hservices : s₁.services = [service])
    {R : State → Prop} (hR : R s₁) :
    Prog.Triple (platform rt) (fun s => s = s₁) (storedCredentials rt n)
      (fun _ s => HasCredentials service ∧ s = s₁) R := by
  have hR' : ∀ s, s = s₁ → R s := by
    rintro s rfl
    exact hR
  have hsole : ∀ {s name}, (s = s₁ ∧ ∃ service ∈ s.services, service.name = n ∧
      ∃ text, service.variable name = some text ∧ text ≠ "") →
      ∃ text, service.variable name = some text ∧ text ≠ "" := by
    rintro s name ⟨rfl, found, hfound, -, htext⟩
    rw [hservices, List.mem_singleton] at hfound
    rwa [hfound] at htext
  apply (storedCredential_triple (by decide) hR').bind
  intro setupPassword
  have hR'' : ∀ s, (s = s₁ ∧ ∃ service ∈ s.services, service.name = n ∧
      ∃ text, service.variable "SETUP_PASSWORD" = some text ∧ text ≠ "") → R s :=
    fun s h => hR' s h.1
  apply (storedCredential_triple (by decide) hR'').bind
  intro gatewayToken
  apply Prog.triple_pure
  rintro s ⟨hpassword, htoken⟩
  refine ⟨?_, hpassword.1⟩
  intro name hname
  rcases List.mem_pair.mp hname with rfl | rfl
  · exact hsole hpassword
  · exact hsole ⟨hpassword.1, htoken⟩

/-- The reuse path, on a service that listens on the port that is asked for or that
cannot be reused. -/
theorem reuseService_triple {service : Service} {existing : Json} (hs : Routed s₁)
    (hservices : s₁.services = [service]) (hrow : ShowsService existing service)
    (hstatus : ShowsStatus s₁ existing service)
    (hport : s₁.deployment service.id = some "SUCCESS" → HasCredentials service →
      ∀ port, service.variable "PORT" = some port → port = toString options.targetPort) :
    Prog.Triple (platform rt) (fun s => s = s₁) (reuseService rt fuel options existing)
      (fun _ => StillRouted s₁) (StillRouted s₁) := by
  have hstill : ∀ s, s = s₁ → StillRouted s₁ s := by
    rintro s rfl
    exact ⟨hs, .refl s⟩
  apply Prog.triple_ofExcept_bind
  · intro reused hreused
    obtain ⟨hsame, hsuccess⟩ := hstatus.succeeded hreused
    rw [hsame, hrow.2]
    apply Prog.triple_ofExcept_bind
    · intro name hname
      have hn : name = service.name := (Except.ok.inj hname).symm
      apply (storedCredentials_triple hservices (hstill s₁ rfl)).bind
      intro credentials
      apply Prog.triple_of_fact
      intro hcredentials
      have hsteady : ∀ s, s = s₁ → Steady s₁ service.name options.targetPort s := by
        rintro s rfl
        refine ⟨hs, ?_, .refl s⟩
        intro found hfound _ port hvalue
        rw [hservices, List.mem_singleton] at hfound
        rw [hfound] at hvalue
        exact hport hsuccess hcredentials port hvalue
      exact (finishProvision_triple hrow.2).mono hsteady (fun _ _ h => h) fun _ h => h
    · exact fun _ _ => hstill
  · exact fun _ _ => hstill

end Calls

/-! ### Sessions -/

/-- What the options that matter to the routing are resolved to. -/
structure Resolves (options : ProvisionClientOptions) (resolved : ResolvedProvisionOptions) :
    Prop where
  projectId : resolved.projectId = nonEmpty options.projectId
  targetPort : resolved.targetPort = options.targetPort.getD 8080
  forceNew : resolved.forceNew = options.forceNew.getD false

/-- A call with these options would find the only service of its project to reuse,
deployed and with its credentials, and that one listens on another port than the
call asks for. -/
def Diverts (options : ProvisionClientOptions) (s : State) : Prop :=
  options.forceNew.getD false = false ∧
    ∃ projectId service port, nonEmpty options.projectId = some projectId ∧
      s.projects projectId = [service] ∧ s.deployment service.id = some "SUCCESS" ∧
      HasCredentials service ∧ service.variable "PORT" = some port ∧
      port ≠ toString (options.targetPort.getD 8080)

/-- A call, and what deployments it finds. -/
structure ProvisionCall where
  options : ProvisionClientOptions
  deployment : String → Option String
  trace : Trace
  outcome : Outcome Failure ProvisionClientResult

/-- Calls of `provisionClientInstance`, one after the other, however they end.
Deployments go on between them; what happens to them before a call lists the
services, which nothing before it can see, is put before the call. -/
def session (rt : Runtime) : Lts State ProvisionCall where
  step s call s' :=
    (∃ fuel, (provisionClientInstance rt fuel call.options).Exec call.trace call.outcome) ∧
      (platform rt).Run (s.progressed call.deployment) call.trace s'

/-- A session in which no call diverts a service. -/
def steadySession (rt : Runtime) : Lts State ProvisionCall where
  step s call s' :=
    ¬ Diverts call.options (s.progressed call.deployment) ∧ (session rt).step s call s'

section Session

variable {rt : Runtime} {fuel : ℕ} {s s' s₀ : State} {options : ProvisionClientOptions}

theorem resolveProvisionOptions_resolves {t : Trace} {resolved : ResolvedProvisionOptions}
    (h : (resolveProvisionOptions options).Exec t (.returned resolved)) :
    Resolves options resolved := by
  obtain ⟨templateRef, _, t₁, -, -, h⟩ := Prog.exec_bind_returned.mp h
  obtain ⟨setupPassword, _, t₂, -, -, h⟩ := Prog.exec_bind_returned.mp h
  obtain ⟨gatewayToken, _, t₃, -, -, h⟩ := Prog.exec_bind_returned.mp h
  cases h.2
  exact ⟨rfl, rfl, rfl⟩

theorem preparing_step {e : Event Platform} (hc : IsPreparingCall e.call)
    (h : PlatformStep rt s e s') : s' = s := by
  cases h with
  | other | failed | listServices | listVariables | listDomains | upExisting | linkService
  | addVolume => rfl
  | link | init | upCreated | redeploy | setVariable | createDomain | updateDomain =>
      exact absurd rfl (hc.noCommand _ _)
  | sleep => rcases hc with hc | ⟨bytes, hc⟩ <;> cases hc

/-- The options are resolved in the state before. -/
theorem resolveProvisionOptions_triple :
    Prog.Triple (platform rt) (fun s => s = s₀) (resolveProvisionOptions options)
      (fun resolved s => Resolves options resolved ∧ s = s₀) (fun s => s = s₀) := by
  apply resolveProvisionOptions_only.triple
  · rintro s e s' hc rfl hstep
    exact preparing_step hc hstep
  · exact fun _ _ => resolveProvisionOptions_resolves

/-- The project is linked; what is in the others stays. -/
theorem linkProject_triple {resolved : ResolvedProvisionOptions} :
    Prog.Triple (platform rt) (fun s => s = s₀) (linkProject resolved)
      (fun _ s => s.projects = s₀.projects ∧ s.deployment = s₀.deployment ∧
        (resolved.projectId = some s.linked ∨ s.services = []))
      (fun s => s.projects = s₀.projects) := by
  unfold linkProject
  split
  · rename_i projectId hproject
    apply Prog.triple_ask
    · rintro s r s' out rfl hstep hr
      obtain ⟨hprojects, hdeployment, hlinked⟩ :=
        linkProject_step hstep (.inl ⟨projectId, hproject, rfl⟩)
      exact ⟨hprojects, hdeployment, hlinked ⟨out, settled_eq_ok.mp hr⟩⟩
    · rintro s r s' e rfl hstep -
      exact (linkProject_step hstep (.inl ⟨projectId, hproject, rfl⟩)).1
  · rename_i hproject
    apply Prog.triple_ask
    · rintro s r s' out rfl hstep hr
      obtain ⟨hprojects, hdeployment, hlinked⟩ := linkProject_step hstep (.inr ⟨hproject, rfl⟩)
      exact ⟨hprojects, hdeployment, hlinked ⟨out, settled_eq_ok.mp hr⟩⟩
    · rintro s r s' e rfl hstep -
      exact (linkProject_step hstep (.inr ⟨hproject, rfl⟩)).1

/-- Only the services matter. -/
theorem StillRouted.of_projects {s₁ : State} (h : StillRouted s₁ s)
    (hprojects : s₁.projects = s₀.projects) : StillRouted s₀ s := by
  refine ⟨h.1, ?_⟩
  have hkeeps := h.2
  unfold Keeps at hkeeps ⊢
  rwa [hprojects] at hkeeps

theorem stillRouted_of_projects_eq (hs : Routed s₀) (hprojects : s.projects = s₀.projects) :
    StillRouted s₀ s := by
  have hrouted : Routed s := by
    unfold Routed
    rwa [hprojects]
  exact StillRouted.of_projects ⟨hrouted, .refl s⟩ hprojects

/-- What comes after the link, from the state it has led to. -/
theorem provisionLinked_triple {resolved : ResolvedProvisionOptions} {s₁ : State}
    (hresolves : Resolves options resolved) (hs : Routed s₁)
    (hlinked : resolved.projectId = some s₁.linked ∨ s₁.services = [])
    (hsteady : ¬ Diverts options s₁) :
    Prog.Triple (platform rt) (fun s => s = s₁)
      (listServices rt >>= fun servicesBefore => do
        let existing ← Prog.ofExcept (existingService resolved servicesBefore)
        match existing with
        | some existing => reuseService rt fuel resolved existing
        | none => createService rt fuel resolved servicesBefore)
      (fun _ => StillRouted s₁) (StillRouted s₁) := by
  have hstill : ∀ s, s = s₁ → StillRouted s₁ s := by
    rintro s rfl
    exact ⟨hs, .refl s⟩
  apply (listServices_triple.mono (fun _ h => h) (fun _ _ h => h) hstill).bind
  intro servicesBefore
  apply Prog.triple_ofExcept_bind
  · intro existing hexisting s t o s' ⟨hsame, rows, hrows, hlisted, hstatuses⟩ hx hr
    subst hsame hrows
    cases existing with
    | none => exact createService_triple hs hlisted s t o s' rfl hx hr
    | some existing =>
        obtain ⟨hforce, rfl⟩ := existingService_some hexisting
        -- the listing has one row, so the project has one service
        obtain ⟨service, hservices, hrow, hstatus⟩ : ∃ service, s.services = [service] ∧
            ShowsService existing service ∧ ShowsStatus s existing service := by
          cases hservices : s.services with
          | nil =>
              rw [hservices] at hlisted
              cases hlisted
          | cons service rest =>
              rw [hservices] at hlisted hstatuses
              cases hlisted with
              | cons hrow hrest =>
                  cases hrest
                  exact ⟨service, rfl, hrow, (List.forall₂_cons.mp hstatuses).1⟩
        refine reuseService_triple hs hservices hrow hstatus ?_ s t o s' rfl hx hr
        intro hsuccess hcredentials port hport
        -- another port would divert the service, and the call does not
        by_contra hne
        rcases hlinked with hproject | hnone
        · rw [hresolves.targetPort] at hne
          exact hsteady ⟨hresolves.forceNew.symm.trans hforce, s.linked, service, port,
            hresolves.projectId.symm.trans hproject, hservices, hsuccess, hcredentials, hport, hne⟩
        · rw [hservices] at hnone
          cases hnone
  · rintro e - s ⟨hsame, -⟩
    exact hstill s hsame

/-- **One call.**  However it ends, what was routed is routed, and as it was. -/
theorem provisionClientInstance_triple (hs : Routed s₀) (hsteady : ¬ Diverts options s₀) :
    Prog.Triple (platform rt) (fun s => s = s₀) (provisionClientInstance rt fuel options)
      (fun _ => StillRouted s₀) (StillRouted s₀) := by
  have hsame : ∀ s, s = s₀ → StillRouted s₀ s := by
    rintro s rfl
    exact ⟨hs, .refl s⟩
  apply (resolveProvisionOptions_triple.mono (fun _ h => h) (fun _ _ h => h) hsame).bind
  intro resolved
  apply Prog.triple_of_fact
  intro hresolves
  have hprojects : ∀ s, s.projects = s₀.projects → StillRouted s₀ s :=
    fun s => stillRouted_of_projects_eq hs
  apply (linkProject_triple.mono (fun _ h => h) (fun _ _ h => h) hprojects).bind
  rintro _ s₁ t o s' ⟨hprojects₁, hdeployment₁, hlinked⟩ hx hr
  have hs₁ : Routed s₁ := (hprojects s₁ hprojects₁).1
  -- linking changes no project, so the condition still holds when the services are listed
  have hsteady₁ : ¬ Diverts options s₁ := by
    unfold Diverts at hsteady ⊢
    rwa [hprojects₁, hdeployment₁]
  have hrest := provisionLinked_triple hresolves hs₁ hlinked hsteady₁ s₁ t o s' rfl hx hr
  exact ⟨fun a ho => (hrest.1 a ho).of_projects hprojects₁,
    fun ho => (hrest.2 ho).of_projects hprojects₁⟩

/-- **Sessions.**  Calls that divert no service leave every service routed, and
those that were routed as they were. -/
theorem steadySession_routed {calls : List ProvisionCall}
    (h : (steadySession rt).Run s₀ calls s) (hs : Routed s₀) : Routed s ∧ Keeps s₀ s := by
  apply h.invariant (I := fun s => Routed s ∧ Keeps s₀ s) ⟨hs, .refl s₀⟩
  rintro s₁ call s₂ ⟨hrouted, hkeeps⟩ ⟨hsteady, ⟨fuel, hx⟩, hr⟩
  have hfound : Routed (s₁.progressed call.deployment) := hrouted
  have hcall := provisionClientInstance_triple hfound hsteady _ call.trace call.outcome s₂ rfl hx hr
  have hstill : StillRouted s₁ s₂ := by
    cases houtcome : call.outcome with
    | returned result => exact hcall.1 result houtcome
    | threw e => exact hcall.2 fun result h => (nomatch houtcome.symm.trans h)
    | diverged => exact hcall.2 fun result h => (nomatch houtcome.symm.trans h)
  exact ⟨hstill.1, hkeeps.trans hstill.2⟩

end Session

/-! ### A rerun without the port -/

/-- The variables of the provisioned client, and what they parse to. -/
def rerunVariables : String × Json :=
  ("\x7b\"OPENCLAW_GATEWAY_TOKEN\":\"token\",\"SETUP_PASSWORD\":\"hunter2\"," ++
      "\"OPENCLAW_WORKSPACE_DIR\":\"/data/workspace\",\"OPENCLAW_STATE_DIR\":\"/data/.openclaw\"," ++
      "\"PORT\":\"3000\",\"OPENCLAW_TEMPLATE_REF\":\"v1\"\x7d",
    .obj [("OPENCLAW_GATEWAY_TOKEN", .str "token"), ("SETUP_PASSWORD", .str "hunter2"),
      ("OPENCLAW_WORKSPACE_DIR", .str "/data/workspace"),
      ("OPENCLAW_STATE_DIR", .str "/data/.openclaw"), ("PORT", .str "3000"),
      ("OPENCLAW_TEMPLATE_REF", .str "v1")])

/-- The domain, routed to this port. -/
def rerunDomain (port : ℕ) : Json :=
  .obj [("domain", .str "client.example"), ("type", .str "service"),
    ("targetPort", .num (.ofNat port))]

/-- A listing with the domain, and what it parses to. -/
def rerunDomains : String × Json :=
  ("\x7b\"domains\":[\x7b\"domain\":\"client.example\",\"type\":\"service\"," ++
      "\"targetPort\":3000\x7d]\x7d",
    .obj [("domains", .arr [rerunDomain 3000])])

/-- What an update of the domain prints, and what it parses to. -/
def rerunUpdated : String × Json :=
  ("\x7b\"domain\":\x7b\"domain\":\"client.example\",\"type\":\"service\"," ++
      "\"targetPort\":8080\x7d\x7d",
    .obj [("domain", rerunDomain 8080)])

/-- A runtime that parses these listings. -/
def rerunRuntime : Runtime where
  jsonParse text :=
    match [rerunVariables, ("[]", Json.arr []),
      ("\x7b\"domains\":[]\x7d", .obj [("domains", .arr [])]), deployedServices, rerunDomains,
      rerunUpdated].lookup text with
    | some document => .ok document
    | none => .error "Unexpected token"
  compileRegExp _ := none
  utf8Decode _ := ""
  hmacSha256Hex _ _ := ""

/-- What the platform has been made to do so far. -/
structure RerunPlatform where
  uploaded : Bool
  routed : Bool

/-- A platform that does what it is told. -/
def rerunEnvironment (s : RerunPlatform) : (c : Call) → c.Reply × RerunPlatform
  | .run args _ =>
    if args = serviceListArgs then (.ok (if s.uploaded then deployedServices.1 else "[]"), s)
    else if args = variableListArgs "client" then (.ok rerunVariables.1, s)
    else if args = domainListArgs "client" then
      (.ok (if s.routed then rerunDomains.1 else "\x7b\"domains\":[]\x7d"), s)
    else if args = upArgs then (.ok "", ⟨true, s.routed⟩)
    else if args = domainCreateArgs "client" 3000 then (.ok "", ⟨s.uploaded, true⟩)
    else if args = domainUpdateArgs "client.example" "client" 8080 then (.ok rerunUpdated.1, s)
    else (.ok "", s)
  | c => (offline c, s)

/-- Options for a client with this project and port. -/
def rerunOptions (projectId : Option String) (targetPort : Option ℕ) : ProvisionClientOptions where
  clientName := "client"
  projectId := projectId
  workspace := none
  targetPort := targetPort
  templateRef := some "v1"
  setupUsername := none
  setupPassword := some "hunter2"
  gatewayToken := some "token"
  pollSeconds := none
  timeoutMinutes := none
  forceNew := none
  envLocalPath := none
  handoffPath := none
  writeLocalFiles := some false

/-- Every deployment succeeds. -/
def deployed (_ : String) : Option String := some "SUCCESS"

/-- The call with these options, from this state. -/
def rerunCall (options : ProvisionClientOptions) (s : RerunPlatform) : ProvisionCall :=
  let played := (provisionClientInstance rerunRuntime 1 options).play rerunEnvironment s
  ⟨options, deployed, played.1, played.2⟩

/-- The first call, for the port 3000. -/
def firstCall : ProvisionCall := rerunCall (rerunOptions none (some 3000)) ⟨false, false⟩

/-- The rerun, without a port. -/
def secondCall : ProvisionCall := rerunCall (rerunOptions (some "p1") none) ⟨true, true⟩

/-- The project `p1`, which has this service only. -/
def soleState (service : Service) : State where
  projects := Function.update (fun _ => []) "p1" [service]
  linked := "p1"
  deployment := deployed

/-- A platform without any project. -/
def emptyPlatform : State := ⟨fun _ => [], "", deployed⟩

/-- The platform with the project linked. -/
def createdProject : State := ⟨fun _ => [], "p1", deployed⟩

/-- The service once it is uploaded. -/
def uploadedService : Service := ⟨"s1", "client", [], []⟩

/-- The service as the first call leaves it, with its domain at `port`. -/
def rerunService (port : ℕ) : Service where
  id := "s1"
  name := "client"
  vars := [("OPENCLAW_GATEWAY_TOKEN", "token"), ("SETUP_PASSWORD", "hunter2"),
    ("OPENCLAW_WORKSPACE_DIR", "/data/workspace"), ("OPENCLAW_STATE_DIR", "/data/.openclaw"),
    ("PORT", "3000"), ("OPENCLAW_TEMPLATE_REF", "v1")]
  domains := [⟨"client.example", "service", some (.ofNat port)⟩]

theorem rerunCall_exec (options : ProvisionClientOptions) (s : RerunPlatform) :
    ∃ fuel, (provisionClientInstance rerunRuntime fuel options).Exec (rerunCall options s).trace
      (rerunCall options s).outcome :=
  ⟨1, Prog.play_exec (I := Platform) rerunEnvironment
    (provisionClientInstance rerunRuntime 1 options) s⟩

section Sole

variable {service : Service} {f : Service → Service} {n name value : String} {port : ℕ}
  {reply : Except String String}

theorem soleState_services : (soleState service).services = [service] := by
  simp [State.services, soleState]

/-- A change of the only service. -/
theorem soleState_onService (hn : service.name = n) :
    (soleState service).onService n f = soleState (f service) := by
  rw [State.onService, soleState_services, List.map_singleton, if_pos hn]
  simp [State.withServices, soleState]

theorem soleState_listServices (hid : service.id = "s1") (hn : service.name = "client") :
    PlatformStep rerunRuntime (soleState service)
      ⟨.run serviceListArgs none, .ok deployedServices.1⟩ (soleState service) := by
  have hrow : ∃ row, deployedServices.2 = .arr [row] ∧ ShowsService row service ∧
      ShowsStatus (soleState service) row service := by
    refine ⟨_, rfl, ?_, rfl⟩
    rw [ShowsService, hid, hn]
    exact ⟨rfl, rfl⟩
  obtain ⟨row, hrows, hshows, hstatus⟩ := hrow
  have hparse : rerunRuntime.jsonParse deployedServices.1 = .ok (.arr [row]) := congrArg _ hrows
  apply PlatformStep.listServices hparse
  · rw [soleState_services]
    exact .cons hshows .nil
  · rw [soleState_services]
    exact .cons hstatus .nil

theorem soleState_setVariable {skipDeploys : Bool} (hn : service.name = n) :
    PlatformStep rerunRuntime (soleState service)
      ⟨.run (variableSetArgs name n skipDeploys) (some value), reply⟩
      (soleState (service.setVariable name value)) := by
  rw [← soleState_onService hn]
  exact .setVariable

theorem soleState_createDomain (hn : service.name = n) :
    PlatformStep rerunRuntime (soleState service) ⟨.run (domainCreateArgs n port) none, reply⟩
      (soleState (service.addDomain ⟨name, "service", some (.ofNat port)⟩)) := by
  rw [← soleState_onService hn]
  exact .createDomain

theorem soleState_updateDomain (hn : service.name = n) :
    PlatformStep rerunRuntime (soleState service) ⟨.run (domainUpdateArgs name n port) none, reply⟩
      (soleState (service.routeDomain name port)) := by
  rw [← soleState_onService hn]
  exact .updateDomain

end Sole

theorem uploaded_step : PlatformStep rerunRuntime createdProject ⟨.run upArgs none, .ok ""⟩
    (soleState uploadedService) := by
  have hnone : createdProject.services = [] := rfl
  have hid : ∀ service ∈ createdProject.services, service.id ≠ uploadedService.id := by
    simp [hnone]
  have hname : ∀ service ∈ createdProject.services, service.name ≠ uploadedService.name := by
    simp [hnone]
  exact .upCreated hid hname rfl rfl

theorem rerunDomains_step :
    PlatformStep rerunRuntime (soleState (rerunService 3000))
      ⟨.run (domainListArgs "client") none, .ok rerunDomains.1⟩ (soleState (rerunService 3000)) := by
  have hmem : rerunService 3000 ∈ (soleState (rerunService 3000)).services := by
    simp [soleState_services]
  exact .listDomains hmem rfl rfl (.cons ⟨rfl, rfl, rfl⟩ .nil)

theorem noDomains_step {service : Service} (hn : service.name = "client")
    (hnone : service.domains = []) :
    PlatformStep rerunRuntime (soleState service)
      ⟨.run (domainListArgs "client") none, .ok "\x7b\"domains\":[]\x7d"⟩ (soleState service) := by
  have hmem : service ∈ (soleState service).services := by
    simp [soleState_services]
  apply PlatformStep.listDomains hmem hn rfl
  rw [hnone]
  exact .nil

theorem lookup_map_str (vars : List (String × String)) (name : String) :
    (vars.map fun v => (v.1, Json.str v.2)).lookup name = (vars.lookup name).map .str := by
  induction vars with
  | nil => rfl
  | cons v vars ih =>
      rw [List.map_cons, List.lookup_cons, List.lookup_cons, ih]
      split <;> rfl

set_option maxRecDepth 2000 in
theorem rerunVariables_step {port : ℕ} :
    PlatformStep rerunRuntime (soleState (rerunService port))
      ⟨.run (variableListArgs "client") none, .ok rerunVariables.1⟩
      (soleState (rerunService port)) := by
  have hmem : rerunService port ∈ (soleState (rerunService port)).services := by
    simp [soleState_services]
  have hparse : rerunRuntime.jsonParse rerunVariables.1 = .ok rerunVariables.2 := rfl
  exact .listVariables hmem rfl hparse (lookup_map_str (rerunService port).vars)

set_option maxRecDepth 2000 in
/-- The first call provisions a service on port 3000. -/
theorem firstCall_run :
    (platform rerunRuntime).Run emptyPlatform firstCall.trace (soleState (rerunService 3000)) :=
  ⟨createdProject, .init rfl, _, .listServices rfl .nil .nil, _, uploaded_step, _,
    soleState_listServices rfl rfl, _, .linkService, _, .addVolume, _, soleState_setVariable rfl, _,
    soleState_setVariable rfl, _, soleState_setVariable rfl, _, soleState_setVariable rfl, _,
    soleState_setVariable rfl, _, soleState_setVariable rfl, _, .redeploy, _,
    .other (fun _ _ h => (nomatch h)), _, .other (fun _ _ h => (nomatch h)), _,
    soleState_listServices rfl rfl, _, noDomains_step rfl rfl, soleState (rerunService 3000),
    soleState_createDomain rfl, _, rerunDomains_step, _, .other (fun _ _ h => (nomatch h)), _,
    .other (fun _ _ h => (nomatch h)), rfl⟩

set_option maxRecDepth 2000 in
/-- The second routes its domain to port 8080. -/
theorem secondCall_run :
    (platform rerunRuntime).Run (soleState (rerunService 3000)) secondCall.trace
      (soleState (rerunService 8080)) :=
  ⟨soleState (rerunService 3000), .link, _, soleState_listServices rfl rfl, _, rerunVariables_step, _,
    rerunVariables_step, _, rerunDomains_step, soleState (rerunService 8080),
    soleState_updateDomain rfl, _, .other (fun _ _ h => (nomatch h)), _,
    .other (fun _ _ h => (nomatch h)), rfl⟩

theorem firstCall_step :
    (session rerunRuntime).step emptyPlatform firstCall (soleState (rerunService 3000)) :=
  ⟨rerunCall_exec _ _, firstCall_run⟩

theorem secondCall_step :
    (session rerunRuntime).step (soleState (rerunService 3000)) secondCall
      (soleState (rerunService 8080)) :=
  ⟨rerunCall_exec _ _, secondCall_run⟩

theorem routed_emptyPlatform : Routed emptyPlatform := by
  intro project service hmem
  cases hmem

/-- **A rerun that diverts.**  The first call routes the domain to the port 3000
the service listens on; the rerun, on which no port is given, routes it to 8080. -/
theorem rerun_diverts :
    Routed emptyPlatform ∧
      (session rerunRuntime).Run emptyPlatform [firstCall, secondCall]
        (soleState (rerunService 8080)) ∧
      ¬ Routed (soleState (rerunService 8080)) := by
  refine ⟨routed_emptyPlatform, ⟨_, firstCall_step, _, secondCall_step, rfl⟩, ?_⟩
  intro hrouted
  have hmem : rerunService 8080 ∈ (soleState (rerunService 8080)).projects "p1" := by
    simp [soleState]
  have htarget := hrouted "p1" (rerunService 8080) hmem "3000" rfl _ (.head _)
  exact absurd htarget (by decide)

/-- The first call alone diverts nothing. -/
theorem firstCall_routed :
    Routed (soleState (rerunService 3000)) ∧ Keeps emptyPlatform (soleState (rerunService 3000)) := by
  have hsteady : ¬ Diverts firstCall.options emptyPlatform := by
    rintro ⟨-, projectId, -, -, hproject, -⟩
    cases hproject
  have hrun : (steadySession rerunRuntime).Run emptyPlatform [firstCall]
      (soleState (rerunService 3000)) :=
    ⟨_, ⟨hsteady, firstCall_step⟩, rfl⟩
  exact steadySession_routed hrun routed_emptyPlatform

end Railway
