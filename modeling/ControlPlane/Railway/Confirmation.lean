/-
ControlPlane/Railway/Confirmation.lean

What `writeAndConfirm` has established when it ends, for every answer of the
platform.

`assertInstanceReady_exec` and `confirmWrite_exec` are inversions: a run that
returns has the evidence it reports in its trace, in order, and a run that throws
does so before or after the authenticated 200, which decides the kind of the
error.  `writeAndConfirm_exec` puts the write in front.
-/
import ControlPlane.Railway.UpdateRef

namespace Railway

open Js Interaction

variable {rt : Runtime} {fuel : ℕ} {t : Trace}

/-! ### Readiness -/

/-- Any other call sees no instance that is ready. -/
theorem NotReady.singleton {e : Event Platform} (he : ∀ url auth, e.call ≠ .checkSetupStatus url auth) :
    NotReady [e] :=
  NotReady.nil.of_other he

/-- A run that ends before the instance answered: it throws, or runs out of
rounds. -/
def EndsUnready {α : Type} (t : Trace) (o : Outcome Failure α) : Prop :=
  NotReady t ∧ ((∃ e, e.kind ≠ .refVerification ∧ o = .threw e) ∨ o = .diverged)

theorem EndsUnready.cons {α : Type} {o : Outcome Failure α} {e : Event Platform}
    (h : EndsUnready t o) (he : ∀ url auth, e.call ≠ .checkSetupStatus url auth) :
    EndsUnready (e :: t) o :=
  ⟨h.1.of_other he, h.2⟩

/-- Calls before it that saw nothing ready do not matter. -/
theorem EndsUnready.append {α : Type} {o : Outcome Failure α} {t' : Trace} (h : EndsUnready t' o)
    (hn : NotReady t) : EndsUnready (t ++ t') o :=
  ⟨hn.append h.1, h.2⟩

/-- An error of another kind is no verdict about the reference. -/
theorem endsUnready_threw {α : Type} {e : Failure} (hn : NotReady t) (hk : e.kind ≠ .refVerification) :
    EndsUnready t (.threw e : Outcome Failure α) :=
  ⟨hn, .inl ⟨e, hk, rfl⟩⟩

theorem endsUnready_plain {α β : Type} {x : Except Failure β} {e : Failure} (hn : NotReady t)
    (hx : Plain x) (he : x = .error e) : EndsUnready t (.threw e : Outcome Failure α) := by
  apply endsUnready_threw hn
  rw [hx e he]
  simp

/-- A step that returns or ends unready passes its failure on. -/
theorem endsUnready_bind {α β : Type} {p : Tool α} {f : α → Tool β} {o : Outcome Failure β}
    (h : (p >>= f).Exec t o)
    (hp : ∀ t o, p.Exec t o → (∃ a, o = .returned a) ∨ EndsUnready t o) :
    (∃ a t₁ t₂, t = t₁ ++ t₂ ∧ p.Exec t₁ (.returned a) ∧ (f a).Exec t₂ o) ∨ EndsUnready t o := by
  rcases Prog.exec_bind.mp h with hret | ⟨e, he, rfl⟩ | ⟨hd, rfl⟩
  · exact .inl hret
  · rcases hp _ _ he with ⟨a, ha⟩ | ⟨hn, ⟨e', hk, heq⟩ | heq⟩
    · cases ha
    · cases heq
      exact .inr (endsUnready_threw hn hk)
    · cases heq
  · rcases hp _ _ hd with ⟨a, ha⟩ | ⟨hn, -⟩
    · cases ha
    · exact .inr ⟨hn, .inr rfl⟩

/-- The credentials an authenticated probe of `service` uses: the stored
password, which is not empty. -/
def Authenticates (rt : Runtime) (params : ReadyParams) (reply : Except String String)
    (auth : SetupAuth) : Prop :=
  auth.username = params.username ∧ variableIn rt "SETUP_PASSWORD" reply = .ok auth.password ∧
    auth.password.truthy = true

/-- The stored password is read, then a probe with it is answered 200. -/
def SeenReady (rt : Runtime) (params : ReadyParams) (t : Trace) : Prop :=
  ∃ reply t' domain auth,
    t = ⟨.run (variableListArgs params.service) none, reply⟩ :: t' ++
      [⟨.checkSetupStatus (setupStatusUrl domain) auth, .ok 200⟩] ∧
    Authenticates rt params reply auth ∧ NotReady t'

/-- The readiness poll, with the text a failure gets here. -/
theorem waitForSetupReady_context_exec {params : ReadyParams} {context : Option String}
    {url : String} {auth : SetupAuth} {o : Outcome Failure Unit}
    (h : ((waitForSetupReady fuel url auth params.pollSeconds params.timeoutMinutes).tryCatch
      fun cause => match context with
        | none => (.throw cause : Tool Unit)
        | some context => .throw (notAnswering context params.username)).Exec t o) :
    (∃ t', t = t' ++ [⟨.checkSetupStatus url auth, .ok 200⟩] ∧ NotReady t' ∧ o = .returned ()) ∨
      EndsUnready t o := by
  rcases Prog.exec_tryCatch.mp h with ⟨⟨⟩, hw, rfl⟩ | ⟨cause, t₁, t₂, rfl, hw, hc⟩ | ⟨hw, rfl⟩
  · rcases waitForSetupReady_exec hw with hready | ⟨-, ⟨e, -, he⟩ | he⟩
    · exact .inl hready
    · cases he
    · cases he
  · rcases waitForSetupReady_exec hw with ⟨_, _, _, he⟩ | ⟨hn, ⟨e, hfail, he⟩ | he⟩
    · cases he
    · cases he
      -- a failure of the poll is never the verification error, with a context or without
      have hkind : cause.kind ≠ .refVerification := by
        rcases hfail with hk | hk <;> simp [hk]
      cases context with
      | none =>
          obtain ⟨rfl, rfl⟩ := hc
          rw [List.append_nil]
          exact .inr (endsUnready_threw hn hkind)
      | some context =>
          obtain ⟨rfl, rfl⟩ := hc
          rw [List.append_nil]
          exact .inr (endsUnready_threw hn (by simp [notAnswering]))
    · cases he
  · rcases waitForSetupReady_exec hw with ⟨_, _, _, he⟩ | ⟨hn, -⟩
    · cases he
    · exact .inr ⟨hn, .inr rfl⟩

/-- The instance was seen ready, or the run has ended without that. -/
theorem assertInstanceReady_exec {params : ReadyParams} {context : Option String}
    {o : Outcome Failure Unit} (h : (assertInstanceReady rt fuel params context).Exec t o) :
    (SeenReady rt params t ∧ o = .returned ()) ∨ EndsUnready t o := by
  rw [assertInstanceReady, readRailwayVariable_eq] at h
  rcases Prog.exec_ask_bind.mp h with ⟨reply, t₁, password, rfl, hpw, h₁⟩ | ⟨reply, e, rfl, hpw, rfl⟩
  · split at h₁
    -- no password to authenticate with
    · obtain ⟨rfl, rfl⟩ := h₁
      exact .inr (endsUnready_threw (.singleton (by simp)) (by simp))
    · rename_i htruthy
      rw [← bind_assoc, listDomains_pick] at h₁
      rcases Prog.exec_ask_bind.mp h₁ with
        ⟨listed, t₂, domain, rfl, hdomain, h₂⟩ | ⟨listed, e, rfl, hdomain, rfl⟩
      · cases domain with
        -- no domain to probe
        | none =>
            obtain ⟨rfl, rfl⟩ := h₂
            exact .inr (endsUnready_threw ((NotReady.singleton (by simp)).of_other (by simp))
              (by simp))
        | some domain =>
            -- the probe decides; the calls before it are no probes
            rcases waitForSetupReady_context_exec h₂ with ⟨t₃, rfl, hn, rfl⟩ | hends
            · refine .inl ⟨⟨reply, ⟨.run (domainListArgs params.service) none, listed⟩ :: t₃,
                domain.get "domain", ⟨params.username, password⟩, rfl, ⟨rfl, hpw, ?_⟩, ?_⟩, rfl⟩
              · simpa using htruthy
              · exact hn.of_other (by simp)
            · exact .inr ((hends.cons (by simp)).cons (by simp))
      · exact .inr (endsUnready_plain ((NotReady.singleton (by simp)).of_other (by simp))
          (plain_domainIn rt listed) hdomain)
  · exact .inr (endsUnready_plain (.singleton (by simp)) (plain_variableIn rt _ reply) hpw)

/-! ### After an accepted write -/

/-- A listing shows `service` running a deployment other than `prior`. -/
def ShowsNewDeployment (rt : Runtime) (service : String) (prior : Value)
    (reply : Except String String) : Prop :=
  ∃ services listed, printed rt reply = .ok services ∧
    findTemplateService services service = .ok (some listed) ∧
    deploymentMember listed "status" = .json (.str "SUCCESS") ∧
    deploymentMember listed "id" ≠ .undefined ∧
    (deploymentMember listed "id").strictEquals prior = false

/-- A sighting of a deployment is one of a new deployment that has succeeded. -/
theorem showsNewDeployment_of_sighted {service : String} {prior : Value} {found : Json}
    {reply : Except String String} (hprior : prior ≠ .undefined)
    (h : sighted rt service prior reply = .ok (.deployed found)) :
    ShowsNewDeployment rt service prior reply := by
  obtain ⟨services, listed, hp, hf, hj⟩ := judge_of_sighted h (by simp)
  obtain ⟨-, hstatus, hid⟩ := judge_deployed_iff.mp hj
  refine ⟨services, listed, hp, hf, hstatus, ?_⟩
  simpa [supersededBy, hprior] using hid

/-- What a confirmed write has seen after the write: the redeploy, a new
deployment in service, an authenticated 200, and the value read back. -/
def Confirmed (rt : Runtime) (w : LiveWrite) (prior : Value) (t : Trace) : Prop :=
  ∃ redeployed listing readBack polled ready,
    t = ⟨.run (redeployArgs w.ready.service) none, .ok redeployed⟩ ::
      (polled ++ [⟨.run serviceListArgs none, listing⟩] ++
        (ready ++ [⟨.run (variableListArgs w.ready.service) none, readBack⟩])) ∧
    ShowsNewDeployment rt w.ready.service prior listing ∧
    SeenReady rt w.ready ready ∧
    variableIn rt w.name readBack = .ok (.json (.str w.next))

/-- The wait for the deployment does not ask the instance. -/
theorem pollServiceUntilSuccess_notReady {service : String} {pollSeconds timeoutMinutes : ℕ}
    {supersedes : Value} {o : Outcome Failure Json}
    (h : (pollServiceUntilSuccess rt fuel service pollSeconds timeoutMinutes supersedes).Exec t o) :
    NotReady t := by
  intro url auth hmem
  have hcall : IsPollCall (.checkSetupStatus url auth) :=
    (pollServiceUntilSuccess_only fuel timeoutMinutes).exec h _ hmem
  rcases hcall with h | ⟨ms, h⟩ | h <;> cases h

theorem SeenReady.not_notReady {params : ReadyParams} (h : SeenReady rt params t) :
    ¬ NotReady t := by
  obtain ⟨reply, t', domain, auth, rfl, -, -⟩ := h
  intro hn
  exact hn (setupStatusUrl domain) auth (by simp)

theorem NotReady.of_append {t' : Trace} (h : NotReady (t ++ t')) : NotReady t ∧ NotReady t' :=
  ⟨fun url auth hmem => h url auth (List.mem_append_left t' hmem),
    fun url auth hmem => h url auth (List.mem_append_right t hmem)⟩

/-- Whatever the variable was listed as, the text about it can be written. -/
def LiveWrite.Describes (rt : Runtime) (w : LiveWrite) (t : Trace) : Prop :=
  ∀ reply v, ⟨.run (variableListArgs w.ready.service) none, reply⟩ ∈ t →
    variableIn rt w.name reply = .ok v → ∃ message, w.readBackDiffers v = .ok message

/-- A run that ends behind the authenticated 200 with an error, which is the
verification error wherever its text can be written. -/
def EndsUnverified {α : Type} (rt : Runtime) (w : LiveWrite) (t : Trace) (o : Outcome Failure α) :
    Prop :=
  ∃ e, (w.Describes rt t → e.kind = .refVerification) ∧ o = .threw e

/-- The value is read back as it was written, or the error says it was not. -/
theorem readBack_exec {w : LiveWrite} {o : Outcome Failure Unit}
    (h : ((readRailwayVariable rt w.name w.ready.service).tryCatch
        (fun cause => .throw ⟨.refVerification, w.readBackFailed cause.message⟩) >>= fun applied =>
      if applied.isString w.next then pure ()
      else match w.readBackDiffers applied with
        | .ok message => .throw ⟨.refVerification, message⟩
        | .error message => (.throw (thrown message) : Tool Unit)).Exec t o) :
    ∃ reply, t = [⟨.run (variableListArgs w.ready.service) none, reply⟩] ∧
      ((variableIn rt w.name reply = .ok (.json (.str w.next)) ∧ o = .returned ()) ∨
        EndsUnverified rt w t o) := by
  rw [readRailwayVariable_eq, Prog.tryCatch_ask] at h
  rcases Prog.exec_ask_bind.mp h with ⟨reply, t', applied, rfl, hr, hnext⟩ | ⟨reply, e, rfl, hr, rfl⟩
  · refine ⟨reply, ?_⟩
    have hlisted : variableIn rt w.name reply = .ok applied := by
      cases hv : variableIn rt w.name reply with
      | error e =>
          rw [hv] at hr
          cases hr
      | ok v =>
          rw [hv] at hr
          cases hr
          rfl
    split at hnext
    · rename_i heq
      obtain ⟨rfl, rfl⟩ := hnext
      rw [isString_iff] at heq
      subst heq
      exact ⟨rfl, .inl ⟨hlisted, rfl⟩⟩
    · split at hnext
      · obtain ⟨rfl, rfl⟩ := hnext
        exact ⟨rfl, .inr ⟨_, fun _ => rfl, rfl⟩⟩
      · rename_i hfails
        obtain ⟨rfl, rfl⟩ := hnext
        refine ⟨rfl, .inr ⟨_, fun hdescribes => ?_, rfl⟩⟩
        obtain ⟨message', hmessage⟩ := hdescribes reply applied (List.mem_singleton.mpr rfl) hlisted
        rw [hfails] at hmessage
        cases hmessage
  · refine ⟨reply, rfl, .inr ⟨e, fun _ => ?_, rfl⟩⟩
    cases hv : variableIn rt w.name reply with
    | error cause =>
        rw [hv] at hr
        cases hr
        rfl
    | ok v =>
        rw [hv] at hr
        cases hr

/-- The poll returns on a listing that shows a new deployment. -/
theorem pollServiceUntilSuccess_ends {service : String} {pollSeconds timeoutMinutes : ℕ}
    {prior : Value} {o : Outcome Failure Json} (hprior : prior ≠ .undefined)
    (h : (pollServiceUntilSuccess rt fuel service pollSeconds timeoutMinutes prior).Exec t o) :
    (∃ polled listing found, t = polled ++ [⟨.run serviceListArgs none, listing⟩] ∧
      ShowsNewDeployment rt service prior listing ∧ o = .returned found) ∨ EndsUnready t o := by
  have hn := pollServiceUntilSuccess_notReady h
  rcases pollServiceUntilSuccess_exec h with ⟨-, rfl | rfl⟩ |
    ⟨polled, listing, rfl, -, ⟨found, hs, rfl⟩ | ⟨status, -, rfl⟩ | ⟨e, he, rfl⟩⟩
  · exact .inr (endsUnready_threw hn (by simp [deployTimeout]))
  · exact .inr ⟨hn, .inr rfl⟩
  · exact .inl ⟨polled, listing, found, rfl, showsNewDeployment_of_sighted hprior hs, rfl⟩
  · exact .inr (endsUnready_threw hn (by simp [terminalState]))
  · exact .inr (endsUnready_plain hn (plain_sighted listing) he)

/-- A write is confirmed, or the run ends before an instance was seen ready. -/
theorem confirmWrite_exec {w : LiveWrite} {prior : Value} {o : Outcome Failure Unit}
    (hprior : prior ≠ .undefined) (h : (confirmWrite rt fuel w prior).Exec t o) :
    (Confirmed rt w prior t ∧ o = .returned ()) ∨
    (¬ NotReady t ∧ EndsUnverified rt w t o) ∨
    EndsUnready t o := by
  rcases Prog.exec_ask_bind.mp h with ⟨reply, t₁, out, rfl, hr, h₁⟩ | ⟨reply, e, rfl, hr, rfl⟩
  · rw [settled_eq_ok] at hr
    subst hr
    rcases endsUnready_bind h₁ (fun t o hp =>
        (pollServiceUntilSuccess_ends hprior hp).imp_left fun ⟨_, _, found, _, _, ho⟩ => ⟨found, ho⟩)
      with ⟨found, tp, t₂, rfl, hp, h₂⟩ | hends
    · rcases pollServiceUntilSuccess_ends hprior hp with ⟨polled, listing, _, rfl, hnew, -⟩ | hends
      · rcases endsUnready_bind h₂ (fun t o ha =>
            (assertInstanceReady_exec ha).imp_left fun ⟨_, ho⟩ => ⟨(), ho⟩)
          with ⟨⟨⟩, ready, t₃, rfl, ha, h₃⟩ | hends
        · rcases assertInstanceReady_exec ha with ⟨hseen, -⟩ | ⟨-, ⟨e, -, ho⟩ | ho⟩
          · obtain ⟨readBack, rfl, ⟨happlied, rfl⟩ | ⟨e, hkind, rfl⟩⟩ := readBack_exec h₃
            · exact .inl ⟨⟨out, listing, readBack, polled, ready, rfl, hnew, hseen, happlied⟩, rfl⟩
            -- the read-back failed, after the probe that was answered with 200
            · refine .inr (.inl ⟨?_, e, fun hdescribes => hkind ?_, rfl⟩)
              · intro hn
                have htail := (hn.of_append (t := [_])).2
                exact hseen.not_notReady (htail.of_append.2).of_append.1
              · intro reply v hmem
                exact hdescribes reply v (List.mem_cons_of_mem _ (List.mem_append_right _
                  (List.mem_append_right _ hmem)))
          · cases ho
          · cases ho
        -- not ready after the new deployment was seen
        · exact .inr (.inr ((hends.append (pollServiceUntilSuccess_notReady hp)).cons (by simp)))
      · rcases hends.2 with ⟨e, -, ho⟩ | ho <;> cases ho
    -- no new deployment was seen
    · exact .inr (.inr (hends.cons (by simp)))
  -- the redeploy was rejected
  · exact .inr (.inr (endsUnready_plain (.singleton (by simp)) plain_settled hr))

/-! ### The write in front -/

/-- The write of a live change. -/
def LiveWrite.setCall (w : LiveWrite) : Call :=
  .run (variableSetArgs w.name w.ready.service true) (some w.next)

/-- **A live write.**  Either the write is rejected and nothing follows it, or
what follows confirms it, or the error says which half of the confirmation is
missing. -/
theorem writeAndConfirm_exec {w : LiveWrite} {prior : Value} {o : Outcome Failure Unit}
    (hprior : prior ≠ .undefined) (h : (writeAndConfirm rt fuel w prior).Exec t o) :
    (∃ message, t = [⟨w.setCall, .error message⟩] ∧
      o = .threw ⟨.writeUncertain, w.uncertain message⟩) ∨
    ∃ out t', t = ⟨w.setCall, .ok out⟩ :: t' ∧
      ((Confirmed rt w prior t' ∧ o = .returned ()) ∨
        (¬ NotReady t' ∧ EndsUnverified rt w t' o) ∨
        (NotReady t' ∧ ((∃ cause, o = .threw ⟨.unconfirmed, w.unconfirmed cause⟩) ∨
          o = .diverged))) := by
  rw [writeAndConfirm, writeRailwayVariable_eq, Prog.tryCatch_ask] at h
  rcases Prog.exec_ask_bind.mp h with ⟨reply, t', ⟨⟩, rfl, hr, h₁⟩ | ⟨reply, e, rfl, hr, rfl⟩
  · cases reply with
    | error message => cases hr
    | ok out =>
        refine .inr ⟨out, t', rfl, ?_⟩
        rcases Prog.exec_tryCatch.mp h₁ with ⟨⟨⟩, hc, rfl⟩ | ⟨cause, t₁, t₂, rfl, hc, h₂⟩ | ⟨hc, rfl⟩
        · rcases confirmWrite_exec hprior hc with hconf | ⟨-, e, -, ho⟩ | ⟨-, ⟨e, -, ho⟩ | ho⟩
          · exact .inl hconf
          · cases ho
          · cases ho
          · cases ho
        -- the handler keeps the verification error and rewrites every other one
        · rcases confirmWrite_exec hprior hc with ⟨-, ho⟩ | ⟨hn, e, hk, ho⟩ | ⟨hn, ⟨e, hk, ho⟩ | ho⟩
          · cases ho
          · cases ho
            split at h₂
            · obtain ⟨rfl, rfl⟩ := h₂
              rw [List.append_nil]
              exact .inr (.inl ⟨hn, cause, hk, rfl⟩)
            · rename_i hother
              obtain ⟨rfl, rfl⟩ := h₂
              rw [List.append_nil]
              exact .inr (.inl ⟨hn, _, fun hdescribes => absurd (hk hdescribes) hother, rfl⟩)
          · cases ho
            rw [if_neg hk] at h₂
            obtain ⟨rfl, rfl⟩ := h₂
            rw [List.append_nil]
            exact .inr (.inr ⟨hn, .inl ⟨cause.message, rfl⟩⟩)
          · cases ho
        · rcases confirmWrite_exec hprior hc with ⟨-, ho⟩ | ⟨-, e, -, ho⟩ | ⟨hn, -⟩
          · cases ho
          · cases ho
          · exact .inr (.inr ⟨hn, .inr rfl⟩)
  · cases reply with
    | error message =>
        cases hr
        exact .inl ⟨message, rfl, rfl⟩
    | ok out => cases hr

end Railway
