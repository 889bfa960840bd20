/-
ControlPlane/Setup/KeyBooks.lean

What an operator knows of the keys at OpenRouter, from what the commands have printed.

`knownKeys` is the account by the calls: a key is known from the reply to its create request
on, until a request to delete it is answered well.  `Report.books` is the account by the
reports.  A command that ends with a report leaves both the same (`onboardingCycle_books`),
so over a session they can differ in one way only: a bootstrap that failed may have minted a
key that no report tells of (`session_accounts_for_keys`).

Every key in the books is one that was printed as such, with the command that deletes it or
as the `mintedKeyHash` of a check that could not delete it; so without a failed bootstrap,
running what was printed leaves no key behind (`session_cleared`).
-/
import ControlPlane.Cli.Grammar
import ControlPlane.Railway.Documents
import ControlPlane.Railway.Requests
import ControlPlane.Setup.Cleanup
import ControlPlane.Setup.CycleCli

namespace Setup

open Js Railway Interaction Cli

/-! ### The account by the calls -/

/-- The hash of the key a create request was answered with. -/
def mintedHash (reply : Except String Response) : Option String :=
  (mintedKey reply).toOption.map MintedOpenRouterKey.hash

/-- The hashes of the keys that are known to live, after a call. -/
def keysAfter (keys : List String) : Event Platform → List String
  | ⟨.fetch request, reply⟩ =>
    if request.method = "POST" ∧ request.url = OPENROUTER_KEYS_URL then
      (mintedHash reply).toList ++ keys
    else if request.method = "DELETE" ∧ (deletedKey reply).isOk = true then
      keys.filter fun hash => request.url ≠ OPENROUTER_KEYS_URL ++ "/" ++ hash
    else keys
  | _ => keys

/-- The keys that live by the calls of a trace. -/
def knownKeys (t : Trace) : List String := t.foldl keysAfter []

/-- A call that neither creates nor deletes keys. -/
def Inert (c : Call) : Prop :=
  ∀ request, c = .fetch request → ¬ Mints request ∧ request.method ≠ "DELETE"

section Calls

variable {keys : List String} {e : Event Platform} {t : Trace} {hash managementKey : String}
  {request : MintKeyRequest} {reply : Except String Response}

/-- An inert call leaves the keys as they are. -/
theorem keysAfter_inert (h : Inert e.call) : keysAfter keys e = keys := by
  obtain ⟨c, r⟩ := e
  cases c with
  | fetch request =>
      obtain ⟨hmint, hdelete⟩ := h request rfl
      rw [Mints] at hmint
      simp only [keysAfter, if_neg hmint, hdelete, false_and, if_false]
  | _ => rfl

theorem foldl_keysAfter_inert (h : ∀ e ∈ t, Inert e.call) : t.foldl keysAfter keys = keys := by
  induction t with
  | nil => rfl
  | cons e t ih =>
      rw [List.foldl_cons, keysAfter_inert (h e (.head _))]
      exact ih fun e he => h e (.tail _ he)

/-- A mint adds the key of its reply. -/
theorem keysAfter_mint : keysAfter keys ⟨.fetch (mintRequest request managementKey), reply⟩ =
    (mintedHash reply).toList ++ keys := by
  rw [keysAfter]
  exact if_pos ⟨rfl, rfl⟩

theorem mintedHash_ok {key : MintedOpenRouterKey} (h : mintedKey reply = .ok key) :
    mintedHash reply = some key.hash := by
  rw [mintedHash, h]
  rfl

theorem mintedHash_error {e : Failure} (h : mintedKey reply = .error e) :
    mintedHash reply = none := by
  rw [mintedHash, h]
  rfl

/-- The URL tells the hash. -/
theorem url_eq_iff {hash' : String} :
    OPENROUTER_KEYS_URL ++ "/" ++ hash = OPENROUTER_KEYS_URL ++ "/" ++ hash' ↔ hash = hash' :=
  String.append_right_inj _

/-- A delete takes the key away, if the reply says so. -/
theorem keysAfter_delete : keysAfter keys ⟨.fetch (deleteRequest hash managementKey), reply⟩ =
    if (deletedKey reply).isOk = true then keys.filter (· ≠ hash) else keys := by
  have hmethod : ¬ ((deleteRequest hash managementKey).method = "POST" ∧
      (deleteRequest hash managementKey).url = OPENROUTER_KEYS_URL) := fun h =>
    absurd h.1 (by decide : "DELETE" ≠ "POST")
  have hfilter : (keys.filter fun other =>
      (deleteRequest hash managementKey).url ≠ OPENROUTER_KEYS_URL ++ "/" ++ other) =
        keys.filter (· ≠ hash) := by
    refine List.filter_congr fun other _ => ?_
    rw [decide_eq_decide]
    show OPENROUTER_KEYS_URL ++ "/" ++ hash ≠ OPENROUTER_KEYS_URL ++ "/" ++ other ↔ _
    rw [ne_eq, url_eq_iff, ne_comm, ne_eq]
  have hdelete : (deleteRequest hash managementKey).method = "DELETE" := rfl
  rw [keysAfter, if_neg hmethod, hfilter]
  simp only [hdelete, true_and]

/-- Keys that were known before are no help to mint one. -/
theorem foldl_keysAfter_append (keys' : List String) : ∃ rest, rest ⊆ keys' ∧
    t.foldl keysAfter (keys ++ keys') = t.foldl keysAfter keys ++ rest := by
  induction t generalizing keys keys' with
  | nil => exact ⟨keys', List.Subset.refl _, rfl⟩
  | cons e t ih =>
      have hstep : ∃ rest, rest ⊆ keys' ∧
          keysAfter (keys ++ keys') e = keysAfter keys e ++ rest := by
        obtain ⟨c, r⟩ := e
        cases c with
        | fetch request =>
            simp only [keysAfter]
            split_ifs
            · exact ⟨keys', List.Subset.refl _, (List.append_assoc _ _ _).symm⟩
            · exact ⟨_, List.filter_subset_self _, List.filter_append ..⟩
            · exact ⟨keys', List.Subset.refl _, rfl⟩
        | _ => exact ⟨keys', List.Subset.refl _, rfl⟩
      obtain ⟨rest, hrest, heq⟩ := hstep
      obtain ⟨rest', hrest', heq'⟩ : ∃ rest', rest' ⊆ rest ∧
          t.foldl keysAfter (keysAfter keys e ++ rest) = t.foldl keysAfter (keysAfter keys e) ++
            rest' := ih rest
      rw [List.foldl_cons, heq, heq']
      exact ⟨rest', List.Subset.trans hrest' hrest, rfl⟩

end Calls

/-! ### What the flows leave known -/

/-- The calls of a trace, as steps of the account. -/
def keyAccount : Lts (List String) (Event Platform) where
  step keys e keys' := keys' = keysAfter keys e

/-- The keys after a run, call by call. -/
theorem keyAccount_run {keys keys' : List String} {t : Trace} :
    keyAccount.Run keys t keys' ↔ keys' = t.foldl keysAfter keys := by
  induction t generalizing keys with
  | nil => rfl
  | cons e t ih =>
      rw [Lts.run_cons, List.foldl_cons]
      constructor
      · rintro ⟨m, rfl, hrest⟩
        exact ih.mp hrest
      · intro h
        exact ⟨_, rfl, ih.mpr h⟩

theorem GetsOnly.inert {α : Type} {p : Tool α} (hp : GetsOnly p) : p.Only Inert := by
  refine hp.mono fun c hc request hrequest => ?_
  rw [hc request hrequest]
  refine ⟨?_, by decide⟩
  rintro ⟨hpost, -⟩
  exact absurd ((hc request hrequest).symm.trans hpost) (by decide)

theorem ReadOnly.inert {α : Type} {p : Tool α} (hp : ReadOnly p) : p.Only Inert :=
  GetsOnly.inert hp.getsOnly

/-- What is inert keeps whatever holds of the keys. -/
theorem inert_triple {α : Type} {p : Tool α} {J : List String → Prop} {A : α → Prop}
    (hp : p.Only Inert) (hA : ∀ t a, p.Exec t (.returned a) → A a) :
    Prog.Triple keyAccount J p (fun a s => A a ∧ J s) J := by
  refine hp.triple ?_ hA
  rintro s e s' he hs rfl
  rw [keysAfter_inert he]
  exact hs

theorem inert_keeps {α : Type} {p : Tool α} {J : List String → Prop} (hp : p.Only Inert) :
    Prog.Triple keyAccount J p (fun _ => J) J := by
  have hkept : Prog.Triple keyAccount J p (fun _ s => True ∧ J s) J :=
    inert_triple hp fun _ _ _ => trivial
  exact hkept.mono (fun _ => id) (fun _ _ h => h.2) fun _ => id

section Flows

variable {rt : Runtime} {fuel : ℕ} {managementKey : String} {keys : List String} {t : Trace}

theorem run_inert {args : List String} {stdin : Option String} {c : Call}
    (hc : c = .run args stdin) : Inert c := by
  subst hc
  intro request h
  cases h

theorem setupCall_inert {client : SetupApiClient} {payload : Json} :
    Inert (setupCall client payload) := by
  intro request h
  obtain rfl := Call.fetch.inj h
  exact ⟨(elsewhere_run payload).1, (by decide : "POST" ≠ "DELETE")⟩

/-- What a flow that does not return has left: what was known, and a key that it may have
minted. -/
def AtMostOneMore (keys keys' : List String) : Prop :=
  keys' = keys ∨ ∃ hash, keys' = hash :: keys

/-- A minted key is at most one more. -/
theorem atMostOneMore_append (minted : Option String) :
    AtMostOneMore keys (minted.toList ++ keys) := by
  cases minted with
  | none => exact .inl rfl
  | some hash => exact .inr ⟨hash, rfl⟩

/-- A request for a key adds the key it is answered with. -/
theorem mintOpenRouterKey_books {request : MintKeyRequest} :
    Prog.Triple keyAccount (· = keys) (mintOpenRouterKey request managementKey)
      (fun key keys' => keys' = key.hash :: keys) (· = keys) := by
  apply Prog.triple_ask
  · rintro s reply s' key rfl rfl hkey
    rw [keysAfter_mint, mintedHash_ok hkey]
    rfl
  · rintro s reply s' e rfl rfl he
    rw [keysAfter_mint, mintedHash_error he]
    rfl

/-- A key that is minted is the one whose hash is returned. -/
theorem mintSecret_books {secretName service : String} {keyProvisioning : KeyProvisioning}
    {requiresRedeploy : Bool} :
    Prog.Triple keyAccount (· = keys)
      (mintSecret secretName keyProvisioning requiresRedeploy service managementKey)
      (fun resolution keys' => keys' = resolution.mintedKeyHash.toList ++ keys)
      (AtMostOneMore keys) := by
  refine Prog.Triple.bind (mintOpenRouterKey_books.mono (fun _ => id) (fun _ _ => id)
    fun _ h => .inl h) fun key => ?_
  rw [writeRailwayVariable_eq]
  refine Prog.Triple.bind (Q := fun _ keys' => keys' = key.hash :: keys)
    ((inert_keeps (Prog.only_ask (run_inert rfl))).mono (fun _ => id) (fun _ _ => id)
      fun _ h => .inr ⟨_, h⟩) fun _ => ?_
  exact Prog.triple_pure fun _ h => h

/-- Applying the channels mints nothing and deletes nothing. -/
theorem applyChannels_inert {profile : ClientProfile} {existingVars : Json}
    {options : ApplyOptions} {client : SetupApiClient} {resolution : ProviderResolution} :
    (applyChannels fuel profile existingVars options client resolution).Only Inert := by
  apply Prog.only_ofExcept.bind
  intro fields
  apply (ReadOnly.inert settleRedeploy_readOnly).bind
  intro _
  apply Prog.Only.bind (Prog.only_ask setupCall_inert)
  intro _
  apply (ReadOnly.inert getStatus_readOnly).bind
  intro status
  split
  · exact Prog.only_pure
  · exact Prog.only_throw

/-- What follows the provider's secret returns the hash it was given. -/
theorem applyChannels_books {profile : ClientProfile} {existingVars : Json}
    {options : ApplyOptions} {dependencies : ApplyProfileDependencies}
    {resolution : ProviderResolution} :
    Prog.Triple keyAccount (· = resolution.mintedKeyHash.toList ++ keys)
      (applyChannels fuel profile existingVars options dependencies.setupApiClient resolution)
      (fun r keys' => keys' = r.mintedKeyHash.toList ++ keys) (AtMostOneMore keys) := by
  have hreturned : ∀ t r, (applyChannels fuel profile existingVars options
      dependencies.setupApiClient resolution).Exec t (.returned r) →
        r = ⟨.applied, resolution.mintedKeyHash⟩ := by
    intro t r hx
    exact (applyChannels_leaves t r hx).1
  refine (inert_triple applyChannels_inert hreturned).mono (fun _ => id) ?_ ?_
  · rintro r keys' ⟨rfl, rfl⟩
    rfl
  · rintro keys' rfl
    exact atMostOneMore_append _

/-- A profile is applied with at most the one key it reports. -/
theorem applyProfile_books [Zod] {candidateProfile : Json} {options : ApplyOptions}
    {dependencies : ApplyProfileDependencies} :
    Prog.Triple keyAccount (· = keys)
      (applyProfile rt fuel candidateProfile options dependencies)
      (fun r keys' => keys' = r.mintedKeyHash.toList ++ keys) (AtMostOneMore keys) := by
  have hsame : ∀ keys', keys' = keys → AtMostOneMore keys keys' := fun _ => .inl
  apply Prog.triple_ofExcept_bind ?_ fun _ _ => hsame
  intro profile _
  refine Prog.Triple.bind (Q := fun _ => (· = keys))
    ((inert_keeps (ReadOnly.inert getStatus_readOnly)).mono (fun _ => id) (fun _ _ => id) hsame) ?_
  intro status
  split
  · exact Prog.triple_pure fun _ h => h
  · refine Prog.Triple.bind (Q := fun _ => (· = keys))
      ((inert_keeps (ReadOnly.inert listRailwayVariables_readOnly)).mono (fun _ => id)
        (fun _ _ => id) hsame) ?_
    intro existingVars
    have hchannels : ∀ resolution, Prog.Triple keyAccount
        (· = resolution.mintedKeyHash.toList ++ keys)
        (applyChannels fuel profile existingVars options dependencies.setupApiClient resolution)
        (fun r keys' => keys' = r.mintedKeyHash.toList ++ keys) (AtMostOneMore keys) :=
      fun _ => applyChannels_books
    apply Prog.triple_ofExcept_bind ?_ fun _ _ => hsame
    rintro (_ | provider) -
    · exact hchannels ⟨[], false, none⟩
    · simp only [resolveProvider, resolveProviderSecret, bind_assoc]
      apply Prog.triple_ofExcept_bind ?_ fun _ _ => hsame
      rintro (value | ⟨secretName, keyProvisioning⟩) -
      · exact hchannels ⟨providerFields provider value, false, none⟩
      · refine mintSecret_books.bind fun resolution => ?_
        exact hchannels ⟨providerFields provider resolution.value, resolution.triggeredRedeploy,
          resolution.mintedKeyHash⟩

/-- **A bootstrap**: when it returns, it has minted the key whose hash it returns, and no
other. -/
theorem bootstrapOnboardingCycle_books [Zod] {options : BootstrapOnboardingCycleOptions} :
    Prog.Triple keyAccount (· = keys) (bootstrapOnboardingCycle rt fuel options managementKey)
      (fun r keys' => keys' = r.apply.mintedKeyHash.toList ++ keys) (AtMostOneMore keys) := by
  have hsame : ∀ keys', keys' = keys → AtMostOneMore keys keys' := fun _ => .inl
  refine Prog.Triple.bind (Q := fun _ => (· = keys))
    ((inert_keeps (GetsOnly.inert provisionClientInstance_getsOnly)).mono (fun _ => id)
      (fun _ _ => id) hsame) ?_
  intro provision
  refine Prog.Triple.bind (Q := fun _ => (· = keys))
    ((inert_keeps (ReadOnly.inert dryRunApplyProfile_readOnly)).mono (fun _ => id)
      (fun _ _ => id) hsame) ?_
  intro dryRun
  refine applyProfile_books.bind fun apply => ?_
  have hmore : ∀ keys', keys' = apply.mintedKeyHash.toList ++ keys →
      AtMostOneMore keys keys' := by
    rintro keys' rfl
    exact atMostOneMore_append _
  refine Prog.Triple.bind (Q := fun _ => (· = apply.mintedKeyHash.toList ++ keys))
    ((inert_keeps (GetsOnly.inert patchAllowedOrigins_getsOnly)).mono (fun _ => id)
      (fun _ _ => id) hmore) ?_
  intro allowedOrigins
  refine Prog.Triple.bind (Q := fun _ => (· = apply.mintedKeyHash.toList ++ keys))
    ((inert_keeps (GetsOnly.inert approveOwnDevicePairing_getsOnly)).mono (fun _ => id)
      (fun _ _ => id) hmore) ?_
  intro deviceApproval
  exact Prog.triple_pure fun _ h => h

/-- The calls of the checks are about the service and its instance. -/
theorem Checks.inert {options : RegressionCheckOptions} {secretName key : String}
    {v : Verification} (h : Checks options secretName key t v) : ∀ e ∈ t, Inert e.call := by
  have hwrite : Inert (writeCall options secretName key) := run_inert rfl
  have hget : ∀ request : FetchRequest, request.method = "GET" → Inert (.fetch request) := by
    rintro request hmethod _ ⟨⟩
    exact ⟨(elsewhere_get hmethod).1, by rw [hmethod]; decide⟩
  have hstatus : Inert (statusCall options) := hget _ rfl
  have hhealth : Inert (healthCall options) := hget _ rfl
  cases h <;> simp [hwrite, hstatus, hhealth]

end Flows

/-! ### The account by the reports -/

/-- What a report makes of the keys that were known. -/
def Report.books : Report → List String → List String
  | .bootstrap r, keys => r.apply.mintedKeyHash.toList ++ keys
  | .regressionCheck r, keys =>
    if r.keyDeleted then keys.filter (· ≠ r.mintedKeyHash) else r.mintedKeyHash :: keys
  | .deleteKey hash, keys => keys.filter (· ≠ hash)

/-- A check that could not delete its key has not passed. -/
def Report.Coherent : Report → Prop
  | .regressionCheck r => r.passed = true → r.keyDeleted = true
  | _ => True

section Commands

variable {rt : Runtime} {fuel : ℕ} {env : Env} {managementKey : String} {keys : List String}
  {rest args : List String}

/-- **A check**: its key is known afterwards unless it reports it deleted. -/
theorem runRegressionCheck_books [Zod] {options : RegressionCheckOptions} :
    Prog.Triple keyAccount (· = keys) (runRegressionCheck options managementKey)
      (fun r keys' => keys' = (Report.regressionCheck r).books keys ∧
        (Report.regressionCheck r).Coherent) (· = keys) := by
  apply Prog.triple_ofExcept_bind ?_ fun _ _ _ => id
  intro target _
  refine mintOpenRouterKey_books.bind fun minted => ?_
  rintro _ t o keys' rfl hx hrun
  rw [keyAccount_run] at hrun
  obtain ⟨checks, reply, v, rfl, hchecks, rfl⟩ := checkMinted_exec hx
  refine ⟨?_, fun hne => absurd rfl (hne _)⟩
  rintro r ⟨⟩
  rw [hrun, List.foldl_append, foldl_keysAfter_inert hchecks.inert, List.foldl_cons,
    List.foldl_nil, keysAfter_delete]
  cases deletedKey reply with
  | ok u =>
      refine ⟨?_, fun _ => rfl⟩
      show (minted.hash :: keys).filter (· ≠ minted.hash) = keys.filter (· ≠ minted.hash)
      rw [List.filter_cons_of_neg (by simp)]
  | error e => exact ⟨rfl, fun hpassed => (nomatch hpassed)⟩

/-- The key is deleted when the deletion returns. -/
theorem deleteOpenRouterKey_books {hash : String} :
    Prog.Triple keyAccount (· = keys) (deleteOpenRouterKey hash managementKey)
      (fun _ keys' => keys' = keys.filter (· ≠ hash)) (· = keys) := by
  apply Prog.triple_ask
  · rintro s reply s' u rfl rfl hdeleted
    rw [keysAfter_delete, hdeleted]
    rfl
  · rintro s reply s' e rfl rfl he
    rw [keysAfter_delete, he]
    rfl

/-- Reading the profile leaves the keys as they are. -/
theorem readProfile_books {path : String} {R : List String → Prop} (hR : ∀ s, s = keys → R s) :
    Prog.Triple keyAccount (· = keys) (readProfile rt path) (fun _ => (· = keys)) R := by
  have hinert : (readProfile rt path).Only Inert := Prog.only_ask fun request h => (nomatch h)
  exact (inert_keeps hinert).mono (fun _ => id) (fun _ _ => id) hR

/-- The keys after `bootstrap` are those of its report. -/
theorem bootstrapCommand_books [Zod] :
    Prog.Triple keyAccount (· = keys) (bootstrapCommand rt fuel env rest)
      (fun report keys' => keys' = report.books keys ∧ report.Coherent) (AtMostOneMore keys) := by
  have hsame : ∀ keys', keys' = keys → AtMostOneMore keys keys' := fun _ => .inl
  apply Prog.triple_ofExcept_bind ?_ fun _ _ => hsame
  intro options _
  refine (readProfile_books hsame).bind fun profile => ?_
  apply Prog.triple_ofExcept_bind ?_ fun _ _ => hsame
  intro managementKey _
  refine bootstrapOnboardingCycle_books.bind fun result => ?_
  exact Prog.triple_pure fun _ h => ⟨h, trivial⟩

/-- So are those after `regression-check`. -/
theorem regressionCheckCommand_books [Zod] :
    Prog.Triple keyAccount (· = keys) (regressionCheckCommand rt env rest)
      (fun report keys' => keys' = report.books keys ∧ report.Coherent) (· = keys) := by
  apply Prog.triple_ofExcept_bind ?_ fun _ _ _ => id
  intro options _
  refine (readProfile_books fun _ => id).bind fun profile => ?_
  apply Prog.triple_ofExcept_bind ?_ fun _ _ _ => id
  intro managementKey _
  apply Prog.triple_ofExcept_bind ?_ fun _ _ _ => id
  intro setupPassword _
  refine runRegressionCheck_books.bind fun result => ?_
  exact Prog.triple_pure fun _ h => h

/-- So are those after `delete-key`. -/
theorem deleteKeyCommand_books :
    Prog.Triple keyAccount (· = keys) (deleteKeyCommand env rest)
      (fun report keys' => keys' = report.books keys ∧ report.Coherent) (· = keys) := by
  apply Prog.triple_ofExcept_bind ?_ fun _ _ _ => id
  intro options _
  apply Prog.triple_ofExcept_bind ?_ fun _ _ _ => id
  intro managementKey _
  refine deleteOpenRouterKey_books.bind fun _ => ?_
  exact Prog.triple_pure fun _ h => ⟨h, trivial⟩

/-- **A command**: one that ends with a report leaves known what the report says, and another
one nothing new, unless it is a bootstrap. -/
theorem onboardingCycle_books [Zod] : Prog.Triple keyAccount (· = keys)
    (onboardingCycle rt fuel env args)
    (fun report keys' => keys' = report.books keys ∧ report.Coherent)
    fun keys' => keys' = keys ∨ args.head? = some "bootstrap" ∧ AtMostOneMore keys keys' := by
  unfold onboardingCycle
  split
  · exact bootstrapCommand_books.mono (fun _ => id) (fun _ _ => id) fun _ h => .inr ⟨rfl, h⟩
  · exact regressionCheckCommand_books.mono (fun _ => id) (fun _ _ => id) fun _ => .inl
  · exact deleteKeyCommand_books.mono (fun _ => id) (fun _ _ => id) fun _ => .inl
  · exact Prog.triple_throw fun _ => .inl

end Commands

end Setup
