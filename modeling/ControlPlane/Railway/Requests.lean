/-
ControlPlane/Railway/Requests.lean

What provisioning asks of anyone but Railway and the instance: nothing.

It runs commands of the Railway CLI, calls the instance through the setup API of the
installer, and reads and writes local files; a request of its own, to whatever address, is
never anything but a `GET` (`provisionClientInstance_getsOnly`).
-/
import ControlPlane.Railway.Account

namespace Railway

open Js Interaction

/-- A request of this call only reads. -/
def Call.GetsOnly (c : Call) : Prop := ∀ request, c = .fetch request → request.method = "GET"

/-- A tool whose requests all read. -/
abbrev GetsOnly {α : Type} (p : Tool α) : Prop := p.Only Call.GetsOnly

section Parts

variable {rt : Runtime} {fuel : ℕ} {name : String} {targetPort : ℕ}

/-- What only reads fetches nothing but by GET. -/
theorem ReadOnly.getsOnly {α : Type} {p : Tool α} (hp : ReadOnly p) : GetsOnly p := by
  refine hp.mono ?_
  rintro c hread request rfl
  exact beq_iff_eq.mp hread

/-- A call that is no fetch does not either. -/
theorem ask_getsOnly {α : Type} {c : Call} {g : c.Reply → Except Failure α}
    (h : ∀ request, c ≠ .fetch request) : GetsOnly (Prog.ask (I := Platform) c g) :=
  Prog.only_ask fun request hc => absurd hc (h request)

theorem run_getsOnly {args : List String} {stdin : Option String} : GetsOnly (run args stdin) :=
  ask_getsOnly fun _ hc => Call.noConfusion hc

/-- The origins are not written by a fetch. -/
theorem patchAllowedOrigins_getsOnly {baseUrl domain : String} {auth : SetupAuth} :
    GetsOnly (patchAllowedOrigins rt baseUrl auth domain) := by
  apply Prog.Only.bind (ask_readOnly rfl).getsOnly
  intro getResult
  split
  · exact Prog.only_throw
  · apply Prog.only_ofExcept.bind
    rintro (_ | _ | config)
    · exact Prog.only_pure
    · exact Prog.only_pure
    · apply Prog.Only.bind (ask_getsOnly fun _ hc => Call.noConfusion hc)
      intro posted
      split
      · exact Prog.only_throw
      · apply Prog.Only.bind (ask_readOnly rfl).getsOnly
        intro verifyResult
        exact Prog.only_ofExcept

theorem approveOwnDevicePairing_getsOnly {baseUrl : String} {auth : SetupAuth} :
    GetsOnly (approveOwnDevicePairing baseUrl auth) := by
  apply Prog.Only.bind (ask_readOnly rfl).getsOnly
  intro pending
  split
  · exact Prog.only_pure
  · apply Prog.only_ofExcept.bind
    rintro (_ | requestId)
    · exact Prog.only_pure
    · apply Prog.Only.bind (ask_getsOnly fun _ hc => Call.noConfusion hc)
      intro approved
      split
      · exact Prog.only_pure
      · exact Prog.only_throw

/-- Nor is the routing. -/
theorem ensureDomainPort_getsOnly : GetsOnly (ensureDomainPort rt name targetPort) := by
  have hroute : ∀ listed, GetsOnly (routeDomain rt name targetPort listed) := by
    intro listed
    unfold routeDomain
    split
    · exact Prog.only_pure
    · apply Prog.only_ofExcept.bind
      intro domain
      apply run_getsOnly.bind
      intro stdout
      apply Prog.only_ofExcept.bind
      intro updated
      exact Prog.only_ofExcept
  apply listDomains_readOnly.getsOnly.bind
  intro parsed
  apply Prog.only_ofExcept.bind
  rintro (_ | listed)
  · apply Prog.Only.bind ?_ hroute
    apply run_getsOnly.bind
    intro _
    apply listDomains_readOnly.getsOnly.bind
    intro parsed
    apply Prog.only_ofExcept.bind
    rintro (_ | listed)
    · exact Prog.only_throw
    · exact Prog.only_pure
  · exact hroute listed

theorem handOver_getsOnly {options : ResolvedProvisionOptions} {result : ProvisionClientResult} :
    GetsOnly (handOver options result) := by
  have hwrite : ∀ path contents, GetsOnly (writeLocalText path contents) := by
    intro path contents
    apply Prog.Only.bind (ask_getsOnly fun _ hc => Call.noConfusion hc)
    intro _
    exact ask_getsOnly fun _ hc => Call.noConfusion hc
  have hread : GetsOnly ((Prog.ask (I := Platform) (.readText options.envLocalPath)
      settled).tryCatch fun _ => (pure "" : Tool String)) :=
    Prog.Only.tryCatch (ask_readOnly rfl).getsOnly fun _ => Prog.only_pure
  unfold handOver
  split
  · have henv : GetsOnly (writeMergedEnv options.envLocalPath (provisionEnv result)) :=
      hread.bind fun existing => hwrite _ _
    apply henv.bind
    intro _
    apply (hwrite _ _).bind
    intro _
    exact Prog.only_pure
  · exact Prog.only_pure

/-- Nothing behind the creation of the service is. -/
theorem finishProvision_getsOnly {options : ResolvedProvisionOptions} {service : Json}
    {credentials : Credentials} {reused : Bool} :
    GetsOnly (finishProvision rt fuel options service credentials reused) := by
  apply Prog.Only.bind ?_ fun _ => handOver_getsOnly
  apply Prog.only_ofExcept.bind
  intro name
  apply ensureDomainPort_getsOnly.bind
  intro routed
  apply Prog.only_ofExcept.bind
  intro domain
  apply waitForSetupReady_readOnly.getsOnly.bind
  intro _
  apply patchAllowedOrigins_getsOnly.bind
  intro allowedOrigins
  apply approveOwnDevicePairing_getsOnly.bind
  intro deviceApproval
  exact Prog.only_pure

/-- Nor is the creation. -/
theorem bootstrapService_getsOnly {options : ResolvedProvisionOptions} {servicesBefore : Json} :
    GetsOnly (bootstrapService rt fuel options servicesBefore) := by
  have hvariables : ∀ name entries, GetsOnly (writeVariables name entries) := by
    intro name entries
    induction entries with
    | nil => exact Prog.only_pure
    | cons entry entries ih =>
        rw [writeVariables, writeRailwayVariable_eq]
        apply Prog.Only.bind (ask_getsOnly fun _ hc => Call.noConfusion hc)
        intro _
        exact ih
  apply run_getsOnly.bind
  intro _
  apply Prog.only_ofExcept.bind
  intro beforeIds
  apply listServices_readOnly.getsOnly.bind
  intro servicesAfter
  apply Prog.only_ofExcept.bind
  intro name
  apply run_getsOnly.bind
  intro _
  apply run_getsOnly.bind
  intro _
  apply (hvariables _ _).bind
  intro _
  apply run_getsOnly.bind
  intro _
  exact (pollServiceUntilSuccess_readOnly _ _).getsOnly

/-- **Provisioning sends no request that could change anything**: what it changes, it changes
through Railway and the instance. -/
theorem provisionClientInstance_getsOnly {options : ProvisionClientOptions} :
    GetsOnly (provisionClientInstance rt fuel options) := by
  apply resolveProvisionOptions_readOnly.getsOnly.bind
  intro resolved
  have hlink : GetsOnly (linkProject resolved) := by
    unfold linkProject
    cases resolved.projectId with
    | some projectId => exact run_getsOnly
    | none => exact run_getsOnly
  apply hlink.bind
  intro _
  apply listServices_readOnly.getsOnly.bind
  intro servicesBefore
  apply Prog.only_ofExcept.bind
  rintro (_ | existing)
  · apply bootstrapService_getsOnly.bind
    intro service
    exact finishProvision_getsOnly
  · apply Prog.only_ofExcept.bind
    intro service
    apply Prog.only_ofExcept.bind
    intro name
    apply storedCredentials_readOnly.getsOnly.bind
    intro credentials
    exact finishProvision_getsOnly

end Parts

end Railway
