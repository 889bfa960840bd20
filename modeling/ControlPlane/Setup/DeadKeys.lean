/-
ControlPlane/Setup/DeadKeys.lean

Whether an instance is ever set up with a key that was deleted.

A `Ledger` is the world of the two flows with what has become of the keys: which were
ever issued, and which were deleted with success.  OpenRouter issues a key only once
(`Record`).  A `session` is a sequence of calls for one profile and one service, in any
order and with any replies.

Four facts carry the result: the request of `applyProfile` has the stored secret or a
key just minted in it (`applyProfile_sends`), a key that is minted was never issued
before (`ledger_mint_fresh`), what was deleted had been issued (`Ledger.Sound`, kept by
every call), and applying a profile deletes nothing.  The regression check, however,
leaves the key it deletes in the variable, and the next call of `applyProfile` takes it
for one that is in use; `session_sends_live_iff` says exactly when that happens.
-/
import ControlPlane.Setup.Takeover
import ControlPlane.Js.Stringify

namespace Setup

open Js Railway Interaction

/-! ### What is sent -/

/-- The request carries this secret: its body is the text of members that are strings or
empty objects, and this is the one named `authSecret`. -/
def SendsSecret (client : SetupApiClient) (c : Call) (key : String) : Prop :=
  ∃ members, (∀ p ∈ members, Simple p.2) ∧
    members.lookup "authSecret" = some (.str key) ∧
    c = .fetch (postRequest client "/setup/api/run" (.obj members))

/-- The body says which members were sent. -/
theorem postRequest_injective {client : SetupApiClient} {path : String}
    {l m : List (String × Json)} (hl : ∀ p ∈ l, Simple p.2) (hm : ∀ p ∈ m, Simple p.2)
    (h : Call.fetch (postRequest client path (.obj l)) =
      .fetch (postRequest client path (.obj m))) : l = m := by
  have hbody := congrArg FetchRequest.body (Call.fetch.inj h)
  exact stringify_members_injective hl hm (Option.some.inj hbody)

section Payload

variable {fields : List (String × Json)} {vars : List (String × String)} {service name : String}
  {l : List (String × Value)}

/-- A member that was read from the variables: a string, or what every object has. -/
def Readable (v : Value) : Prop := (∃ s, v = .json (.str s)) ∨ ∃ member, v = .inherited member

theorem objectOf_append (l m : List (String × Value)) :
    (objectOf (l ++ m)).fields = (objectOf l).fields ++ (objectOf m).fields :=
  List.filterMap_append

/-- The members of an object come from those that were given. -/
theorem mem_objectOf {p : String × Json} (h : p ∈ (objectOf l).fields) :
    (p.1, .json p.2) ∈ l ∨ p.2 = .obj [] ∧ (p.1, .inherited "__proto__") ∈ l := by
  obtain ⟨⟨name, v⟩, hmem, hv⟩ := List.mem_filterMap.mp h
  dsimp only at hv
  split at hv
  · cases hv
    exact .inl hmem
  · cases hv
    exact .inr ⟨rfl, hmem⟩
  · cases hv

/-- The members of a payload that was read from the variables. -/
theorem objectOf_simple (h : ∀ p ∈ l, Readable p.2) : ∀ p ∈ (objectOf l).fields, Simple p.2 := by
  rintro ⟨name, j⟩ hp
  rcases mem_objectOf hp with hmem | ⟨hempty, -⟩
  · rcases h _ hmem with ⟨s, hs⟩ | ⟨member, hmember⟩
    · obtain rfl : j = .str s := Value.json.inj hs
      exact .str
    · cases hmember
  · obtain rfl : j = .obj [] := hempty
    exact .empty

/-- A name that is not among the members is not in the object. -/
theorem lookup_objectOf_none (h : ∀ p ∈ l, p.1 ≠ name) :
    (objectOf l).fields.lookup name = none := by
  rw [List.lookup_eq_none_iff]
  intro p hp
  rcases mem_objectOf hp with hmem | ⟨-, hmem⟩
  · simpa using (h _ hmem).symm
  · simpa using (h _ hmem).symm

/-- The document lists these variables. -/
def ListsVariables (vars : List (String × String)) (fields : List (String × Json)) : Prop :=
  ∀ name, fields.lookup name = (vars.lookup name).map .str

/-- A variable that is stored is read from the listing. -/
theorem get_of_lookup {key : String} (hfields : ListsVariables vars fields)
    (h : vars.lookup name = some key) : (Json.obj fields).get name = .json (.str key) := by
  have hlookup : (Json.obj fields).fields.lookup name = some (.str key) := by
    show fields.lookup name = _
    rw [hfields, h]
    rfl
  rw [Json.get, hlookup]

/-- One that is not stored is not. -/
theorem get_of_lookup_none (hfields : ListsVariables vars fields) (h : vars.lookup name = none) :
    (Json.obj fields).get name = .undefined ∨ (Json.obj fields).get name = .inherited name := by
  have hlookup : (Json.obj fields).fields.lookup name = none := by
    show fields.lookup name = _
    rw [hfields, h]
    rfl
  rw [Json.get, hlookup]
  by_cases hproto : name ∈ objectPrototype
  · exact .inr (if_pos hproto)
  · exact .inl (if_neg hproto)

/-- What is read from the variables, when it is there. -/
theorem readable_get (hfields : ListsVariables vars fields)
    (hdefined : (Json.obj fields).get name ≠ .undefined) : Readable ((Json.obj fields).get name) := by
  cases hlookup : vars.lookup name with
  | some key => exact .inl ⟨key, get_of_lookup hfields hlookup⟩
  | none =>
      rcases get_of_lookup_none hfields hlookup with hundefined | hinherited
      · exact absurd hundefined hdefined
      · exact .inr ⟨name, hinherited⟩

theorem field_ne_authSecret (field : ChannelPayloadField) : field.text ≠ "authSecret" := by
  cases field <;> decide

/-- What the channels put into the payload is readable, and is no authentication
secret. -/
theorem fillFields_readable {mappings : List ChannelFieldMapping} (hfields : ListsVariables vars fields)
    (h : fillFields (.obj fields) service mappings = .ok l) :
    ∀ p ∈ l, Readable p.2 ∧ p.1 ≠ "authSecret" := by
  induction mappings generalizing l with
  | nil =>
      cases h
      intro p hp
      cases hp
  | cons mapping mappings ih =>
      obtain ⟨hdefined, others, hothers, rfl⟩ := fillFields_cons_ok_iff.mp h
      exact List.forall_mem_cons.mpr ⟨⟨readable_get hfields hdefined,
        field_ne_authSecret mapping.field⟩, ih hothers⟩

/-- What a channel's fields are filled with is text. -/
theorem channelFields_readable {channels : List ChannelAttachment} (hfields : ListsVariables vars fields)
    (h : channelFields (.obj fields) service channels = .ok l) :
    ∀ p ∈ l, Readable p.2 ∧ p.1 ≠ "authSecret" := by
  obtain ⟨mappings, -, hfilled⟩ := channelFields_eq_ok h
  exact fillFields_readable hfields hfilled

/-- So is what the provider's fields are filled with. -/
theorem providerFields_readable {provider : ModelProviderAttachment} {v : Value}
    (hv : Readable v) : ∀ p ∈ providerFields provider v, Readable p.2 := by
  intro p hp
  rcases List.mem_append.mp hp with hp | hp
  · simp only [List.mem_cons, List.not_mem_nil, or_false] at hp
    rcases hp with rfl | rfl | rfl
    · exact .inl ⟨_, rfl⟩
    · exact .inl ⟨_, rfl⟩
    · exact hv
  · cases hcustom : provider.customProviderApiKeyEnv with
    | none =>
        rw [hcustom] at hp
        cases hp
    | some env =>
        rw [hcustom] at hp
        obtain rfl := List.mem_singleton.mp hp
        exact .inl ⟨_, rfl⟩

/-- The secret of the provider is the one the payload has. -/
theorem lookup_authSecret {provider : ModelProviderAttachment} {key : String} :
    (objectOf (providerFields provider (.json (.str key)) ++ l)).fields.lookup "authSecret" =
      some (.str key) := by
  rfl

/-- A secret that is no string is not sent as one. -/
theorem lookup_authSecret_inherited {provider : ModelProviderAttachment} {member key : String}
    (hl : ∀ p ∈ l, p.1 ≠ "authSecret") :
    (objectOf (providerFields provider (.inherited member) ++ l)).fields.lookup "authSecret" ≠
      some (.str key) := by
  intro h
  obtain ⟨before, after, hmembers, -⟩ := List.lookup_eq_some_iff.mp h
  have hmem : ("authSecret", .str key) ∈
      (objectOf (providerFields provider (.inherited member) ++ l)).fields := by
    rw [hmembers]
    exact List.mem_append_right _ (.head _)
  rcases mem_objectOf hmem with hgiven | ⟨hempty, -⟩
  · rcases List.mem_append.mp hgiven with hprovider | hchannels
    · -- the member of that name is the one that is no string
      rcases List.mem_append.mp hprovider with hfixed | hcustom
      · simp at hfixed
      · cases henv : provider.customProviderApiKeyEnv with
        | none =>
            rw [henv] at hcustom
            cases hcustom
        | some env =>
            rw [henv] at hcustom
            simp at hcustom
    · exact hl _ hchannels rfl
  · cases hempty

end Payload

/-! ### The request -/

section Request

variable {rt : Runtime} {fuel : ℕ} {candidateProfile : Json} {options : ApplyOptions}
  {dependencies : ApplyProfileDependencies} {s s' : Accounts} {t : Trace} {e : Event Platform}
  {o : Outcome Failure ApplyResult}

/-- A provider that is resolved declares the name of its secret. -/
theorem declares_of_sole [Zod] {profile : ClientProfile} {attachment : ModelProviderAttachment}
    {secretName : String} (hprofile : parseClientProfile candidateProfile = .ok profile)
    (hsole : soleProvider profile = .ok (some attachment))
    (hname : attachment.requiredSecretNames.head? = some secretName) :
    Declares candidateProfile secretName :=
  ⟨profile, attachment, hprofile, soleProvider_some hsole, hname⟩

/-- A profile without a provider declares no secret. -/
theorem not_declares_of_none [Zod] {profile : ClientProfile} {secretName : String}
    (hprofile : parseClientProfile candidateProfile = .ok profile)
    (hsole : soleProvider profile = .ok none) : ¬ Declares candidateProfile secretName := by
  rintro ⟨profile', provider, hprofile', hproviders, -⟩
  rw [hprofile] at hprofile'
  cases hprofile'
  rw [soleProvider, hproviders] at hsole
  cases hsole

/-- A secret that is used as it is stored. -/
theorem providerSecret_stored {provider : ModelProviderAttachment} {existingVars : Json}
    {service : String} {value : Value}
    (h : providerSecret provider existingVars service = .ok (.stored value)) :
    ∃ secretName, provider.requiredSecretNames.head? = some secretName ∧
      value = existingVars.get secretName ∧ existingVars.get secretName ≠ .undefined := by
  unfold providerSecret at h
  split at h
  · cases h
  · next secretName hname =>
    cases hread : readMember existingVars secretName with
    | error e =>
        rw [hread] at h
        cases h
    | ok existing =>
        obtain ⟨-, rfl⟩ := readMember_ok_iff.mp hread
        rw [hread] at h
        change (if _ then Except.ok _ else _) = _ at h
        split at h
        · next hdefined =>
          cases h
          refine ⟨secretName, hname, rfl, ?_⟩
          intro hundefined
          rw [hundefined] at hdefined
          cases hdefined
        · split at h
          · cases h
          · cases h

/-- **What the request carries**: the secret that was stored when the call began, if one
was, and otherwise at most a key minted in the same call. -/
theorem applyProfile_sends [Zod]
    (h : (applyProfile rt fuel candidateProfile options dependencies).Exec t o)
    (hr : (accounts rt options.service).Run s t s') (he : e ∈ t)
    (hrun : IsSetupRun dependencies.setupApiClient e.call) :
    ∃ members, (∀ p ∈ members, Simple p.2) ∧
      e.call = .fetch (postRequest dependencies.setupApiClient "/setup/api/run" (.obj members)) ∧
      ((∃ secretName key, Declares candidateProfile secretName ∧
          s.vars.lookup secretName = some key ∧ members.lookup "authSecret" = some (.str key)) ∨
        (∀ secretName key, Declares candidateProfile secretName →
          s.vars.lookup secretName ≠ some key) ∧
        ∀ key, members.lookup "authSecret" = some (.str key) →
          ∃ request reply minted, (⟨.fetch request, reply⟩ : Event Platform) ∈ t ∧
            Mints request ∧ mintedKey reply = .ok minted ∧ minted.key = key) := by
  obtain ⟨t₁, t₂, rfl⟩ := List.append_of_mem he
  obtain ⟨profile, statusReply, status, listReply, existingVars, provider, resolution, ta, tb,
    hprofile, -, -, hprinted, hsole, rfl, hresolve, hchannels⟩ :=
    applyProfile_reaches (fun hp => hp.2 hrun) h
  -- the accounts are as they were when the variables are listed
  obtain ⟨m, hstatus, hrest⟩ := Lts.run_cons.mp hr
  obtain rfl : s = m := (elsewhere_step (elsewhere_get rfl) hstatus).symm
  obtain ⟨m', hlist, -⟩ := Lts.run_cons.mp hrest
  obtain ⟨vars, rfl, hvars⟩ := (list_step hlist rfl).2 existingVars hprinted
  obtain ⟨fields, hfields, -, hcall⟩ := applyChannels_request hrun hchannels
  have hreadable := channelFields_readable hvars hfields
  have hsimple : (∀ p ∈ resolution.fields, Readable p.2) →
      ∀ p ∈ (objectOf (resolution.fields ++ fields)).fields, Simple p.2 := fun hresolution =>
    objectOf_simple fun p hp => (List.mem_append.mp hp).elim (hresolution p) fun hp =>
      (hreadable p hp).1
  rcases resolveProvider_cases hresolve with ⟨rfl, -, rfl⟩ |
    ⟨attachment, value, rfl, -, hsecret, rfl⟩ |
    ⟨attachment, secretName, keyProvisioning, request, reply, minted, reply', rfl, hmints, hminted,
      hsecret, rfl, rfl⟩
  · -- without a provider nothing is declared and nothing sent
    refine ⟨_, hsimple (fun p hp => by cases hp), hcall, .inr ⟨fun secretName key hdeclares =>
      absurd hdeclares (not_declares_of_none hprofile hsole), ?_⟩⟩
    intro key hlookup
    rw [List.nil_append, lookup_objectOf_none fun p hp => (hreadable p hp).2] at hlookup
    cases hlookup
  · obtain ⟨secretName, hname, rfl, hdefined⟩ := providerSecret_stored hsecret
    have hdeclares := declares_of_sole hprofile hsole hname
    refine ⟨_, hsimple (providerFields_readable (readable_get hvars hdefined)), hcall, ?_⟩
    cases hstored : s.vars.lookup secretName with
    | some key =>
        refine .inl ⟨secretName, key, hdeclares, hstored, ?_⟩
        rw [get_of_lookup hvars hstored]
        exact lookup_authSecret
    | none =>
        rcases get_of_lookup_none hvars hstored with hundefined | hinherited
        · exact absurd hundefined hdefined
        · refine .inr ⟨?_, ?_⟩
          · intro name key hname' hlookup
            rw [hname'.unique hdeclares, hstored] at hlookup
            cases hlookup
          · intro key hlookup
            rw [hinherited] at hlookup
            exact absurd hlookup (lookup_authSecret_inherited fun p hp => (hreadable p hp).2)
  · obtain ⟨hname, hundefined, -⟩ := providerSecret_toMint_iff.mp hsecret
    have hdeclares := declares_of_sole hprofile hsole hname
    have hnone := lookup_eq_none_of_get hvars hundefined
    refine ⟨_, hsimple (providerFields_readable (.inl ⟨_, rfl⟩)), hcall, .inr ⟨?_, ?_⟩⟩
    · intro name key hname' hlookup
      rw [hname'.unique hdeclares, hnone] at hlookup
      cases hlookup
    · intro key hlookup
      rw [lookup_authSecret] at hlookup
      cases hlookup
      exact ⟨request, reply, minted, by simp, hmints, hminted, rfl⟩

end Request

/-! ### The ledger -/

/-- The accounts, the keys that were ever issued, and the texts of those that were
deleted with success. -/
structure Ledger where
  accounts : Accounts
  issued : List MintedOpenRouterKey
  deleted : List String

/-- The event is a create request that was answered with this key. -/
def MintsKey (e : Event Platform) (key : MintedOpenRouterKey) : Prop :=
  ∃ request reply, e = ⟨.fetch request, reply⟩ ∧ Mints request ∧ mintedKey reply = .ok key

/-- The event is a delete request for this hash that was answered well. -/
def DeletesHash (e : Event Platform) (hash : String) : Prop :=
  ∃ request reply, e = ⟨.fetch request, reply⟩ ∧ Deletes hash request ∧ deletedKey reply = .ok ()

/-- What a call does to the ledger.  A key that is issued has not been issued before. -/
inductive LedgerStep (rt : Runtime) (service : String) : Ledger → Event Platform → Ledger → Prop
  | minted {s : Ledger} {e : Event Platform} {accounts : Accounts} {key : MintedOpenRouterKey}
      (haccounts : AccountsStep rt service s.accounts e accounts) (hmints : MintsKey e key)
      (hnew : ∀ old ∈ s.issued, old.key ≠ key.key) :
      LedgerStep rt service s e ⟨accounts, key :: s.issued, s.deleted⟩
  | deleted {s : Ledger} {e : Event Platform} {accounts : Accounts} {hash : String}
      (haccounts : AccountsStep rt service s.accounts e accounts) (hdeletes : DeletesHash e hash) :
      LedgerStep rt service s e
        ⟨accounts, s.issued, (s.issued.filter (·.hash = hash)).map (·.key) ++ s.deleted⟩
  | other {s : Ledger} {e : Event Platform} {accounts : Accounts}
      (haccounts : AccountsStep rt service s.accounts e accounts)
      (hmint : ∀ key, ¬ MintsKey e key) (hdelete : ∀ hash, ¬ DeletesHash e hash) :
      LedgerStep rt service s e ⟨accounts, s.issued, s.deleted⟩

/-- The accounts of a session as a transition system. -/
def ledger (rt : Runtime) (service : String) : Lts Ledger (Event Platform) where
  step := LedgerStep rt service

/-- What was deleted had been issued. -/
def Ledger.Sound (s : Ledger) : Prop := ∀ key ∈ s.deleted, ∃ issued ∈ s.issued, issued.key = key

section Ledger

variable {rt : Runtime} {service : String} {s s' : Ledger} {e : Event Platform} {t : Trace}
  {key : MintedOpenRouterKey}

/-- A run of the ledger is one of the accounts. -/
theorem ledger_accounts (h : (ledger rt service).Run s t s') :
    (accounts rt service).Run s.accounts t s'.accounts := by
  induction t generalizing s with
  | nil =>
      rw [Lts.run_nil.mp h]
      exact Lts.run_nil.mpr rfl
  | cons e t ih =>
      obtain ⟨m, hstep, hrest⟩ := Lts.run_cons.mp h
      refine Lts.run_cons.mpr ⟨m.accounts, ?_, ih hrest⟩
      cases hstep with
      | minted haccounts => exact haccounts
      | deleted haccounts => exact haccounts
      | other haccounts => exact haccounts

/-- A call keeps the ledger sound. -/
theorem Ledger.Sound.step (hs : s.Sound) (h : LedgerStep rt service s e s') : s'.Sound := by
  cases h with
  | minted =>
      intro key hkey
      obtain ⟨old, hold, hold'⟩ := hs key hkey
      exact ⟨old, List.mem_cons_of_mem _ hold, hold'⟩
  | deleted =>
      intro key hkey
      rcases List.mem_append.mp hkey with hnow | hbefore
      · obtain ⟨old, hold, rfl⟩ := List.mem_map.mp hnow
        exact ⟨old, (List.mem_filter.mp hold).1, rfl⟩
      · exact hs key hbefore
  | other => exact hs

/-- No key is ever taken back from what was issued. -/
theorem ledger_issued (h : LedgerStep rt service s e s') : s.issued ⊆ s'.issued := by
  cases h with
  | minted => exact List.subset_cons_self _ _
  | deleted => exact List.Subset.refl _
  | other => exact List.Subset.refl _

/-- A key that is minted was never issued before. -/
theorem ledger_mint_fresh (h : (ledger rt service).Run s t s') (he : e ∈ t)
    (hmints : MintsKey e key) : ∀ old ∈ s.issued, old.key ≠ key.key := by
  induction t generalizing s with
  | nil => cases he
  | cons c t ih =>
      obtain ⟨m, hstep, hrest⟩ := Lts.run_cons.mp h
      rcases List.mem_cons.mp he with rfl | he
      · cases hstep with
        | minted haccounts hmints' hnew =>
            obtain ⟨request, reply, rfl, -, hkey⟩ := hmints
            obtain ⟨request', reply', heq, -, hkey'⟩ := hmints'
            cases heq
            rw [hkey] at hkey'
            cases hkey'
            exact hnew
        | deleted haccounts hdeletes =>
            obtain ⟨request, reply, rfl, hcreate, -⟩ := hmints
            obtain ⟨request', reply', heq, hdelete, -⟩ := hdeletes
            cases heq
            exact absurd hcreate hdelete.not_mints
        | other haccounts hmint => exact absurd hmints (hmint key)
      · intro old hold
        exact ih hrest he old (ledger_issued hstep hold)

end Ledger

/-! ### Sessions -/

/-- One call of a flow: its calls with their replies, and how it ended. -/
structure FlowRun where
  flow : Flow
  fuel : ℕ
  trace : Trace
  outcome : Outcome Failure (Option String)

/-- Calls for one profile and one service, one after another, with any replies. -/
def session [Zod] (rt : Runtime) (service : String) (profile : Json) : Lts Ledger FlowRun where
  step s r s' := r.flow.service = service ∧ r.flow.profile = profile ∧
    (r.flow.program rt r.fuel).Exec r.trace r.outcome ∧ (ledger rt service).Run s r.trace s'

/-- No request of this call carries a key that was deleted before the call. -/
def SendsLive (s : Ledger) (r : FlowRun) : Prop :=
  ∀ candidateProfile options dependencies,
    r.flow = .applyProfile candidateProfile options dependencies →
    ∀ e ∈ r.trace, ∀ key, SendsSecret dependencies.setupApiClient e.call key → key ∉ s.deleted

/-- Where this call gets as far as the request, the variable of the profile's secret did
not hold a deleted key when it began. -/
def FindsLive [Zod] (s : Ledger) (r : FlowRun) : Prop :=
  ∀ candidateProfile options dependencies,
    r.flow = .applyProfile candidateProfile options dependencies →
    (∃ e ∈ r.trace, IsSetupRun dependencies.setupApiClient e.call) →
    ∀ secretName key, Declares candidateProfile secretName →
      s.accounts.vars.lookup secretName = some key → key ∉ s.deleted

section Session

variable {rt : Runtime} {service : String} {profile : Json} {s s' : Ledger} {r : FlowRun}
  {runs : List FlowRun}

/-- A run of a session keeps the ledger sound. -/
theorem session_sound [Zod] (hs : s.Sound) (h : (session rt service profile).step s r s') :
    s'.Sound := by
  obtain ⟨-, -, -, hrun⟩ := h
  exact hrun.invariant hs fun _ _ _ hm hstep => hm.step hstep

/-- **One call**: it sends no deleted key exactly when it finds none. -/
theorem sendsLive_iff [Zod] (hs : s.Sound) (h : (session rt service profile).step s r s') :
    SendsLive s r ↔ FindsLive s r := by
  obtain ⟨rfl, -, hexec, hrun⟩ := h
  constructor
  · rintro hsends candidateProfile options dependencies hflow ⟨e, he, hsetup⟩ secretName key
      hdeclares hstored
    rw [hflow] at hexec hrun
    obtain ⟨o, hcall, -⟩ := Prog.exec_map.mp hexec
    obtain ⟨members, hsimple, hrequest, hsecret⟩ :=
      applyProfile_sends hcall (ledger_accounts hrun) he hsetup
    rcases hsecret with ⟨name, key', hname, hstored', hmember⟩ | ⟨hnone, -⟩
    · rw [hname.unique hdeclares, hstored] at hstored'
      cases hstored'
      exact hsends _ _ _ hflow e he key ⟨members, hsimple, hmember, hrequest⟩
    · exact absurd hstored (hnone secretName key hdeclares)
  · rintro hfinds candidateProfile options dependencies hflow e he key
      ⟨members, hsimple, hmember, hrequest⟩ hdeleted
    have hsetup : IsSetupRun dependencies.setupApiClient e.call := ⟨_, hrequest⟩
    have hlive := hfinds _ _ _ hflow ⟨e, he, hsetup⟩
    rw [hflow] at hexec hrun
    obtain ⟨o, hcall, -⟩ := Prog.exec_map.mp hexec
    obtain ⟨members', hsimple', hrequest', hsecret⟩ :=
      applyProfile_sends hcall (ledger_accounts hrun) he hsetup
    obtain rfl := postRequest_injective hsimple hsimple' (hrequest.symm.trans hrequest')
    rcases hsecret with ⟨name, key', hname, hstored, hmember'⟩ | ⟨-, hminted⟩
    · rw [hmember] at hmember'
      cases hmember'
      exact hlive name key hname hstored hdeleted
    · -- a key that was just minted is none that was issued, so none that was deleted
      obtain ⟨request, reply, minted, hmint, hmints, hkey, rfl⟩ := hminted key hmember
      obtain ⟨old, hold, hsame⟩ := hs _ hdeleted
      exact ledger_mint_fresh hrun hmint ⟨request, reply, rfl, hmints, hkey⟩ old hold hsame

/-- **When no deleted key is ever sent.**  In every session that begins with no key
deleted, no request of `applyProfile` carries a key that an earlier regression check has
deleted exactly when each call that sends one finds no such key in the variable. -/
theorem session_sends_live_iff [Zod] (hs : s.deleted = []) :
    (session rt service profile).Along SendsLive s runs s' ↔
      (session rt service profile).Along FindsLive s runs s' := by
  have hsound : s.Sound := by
    intro key hkey
    rw [hs] at hkey
    cases hkey
  exact Lts.along_congr hsound (fun _ _ _ hm hstep => session_sound hm hstep)
    fun _ _ _ hm hstep => sendsLive_iff hm hstep

end Session

/-! ### A deleted key that is sent -/

/-- What `variable list` prints when the key is stored. -/
def storedText : String := "\x7b\"CLIENT_OPENROUTER_API_KEY\":\"sk-or-key\"\x7d"

/-- A runtime that parses this listing. -/
def storedRuntime : Runtime where
  jsonParse text :=
    if text = storedText then .ok (.obj [("CLIENT_OPENROUTER_API_KEY", .str "sk-or-key")])
    else .error "Unexpected token"
  compileRegExp _ := none
  utf8Decode _ := ""
  hmacSha256Hex _ _ := ""

/-- A check of the same client. -/
def checkFlow : Flow :=
  .runRegressionCheck ⟨"client", "https://client.example", providerFlow.profile, "setup", "password"⟩
    "sk-or-management"

/-- The key is minted and stored, and an instance answers `status` and every other
request well. -/
def storedEnvironment (status : Json) (s : Unit) : (c : Call) → c.Reply × Unit
  | .run args _ => (if isListing args then .ok storedText else .ok "", s)
  | .fetch request =>
    (.ok (if request.url = OPENROUTER_KEYS_URL then mintResponse else ⟨200, .ok status⟩), s)
  | c => (offline c, s)

/-- A call of a flow against such an instance. -/
def storedRun (flow : Flow) (status : Json) : FlowRun where
  flow := flow
  fuel := 0
  trace := ((flow.program storedRuntime 0).play (storedEnvironment status) ()).1
  outcome := ((flow.program storedRuntime 0).play (storedEnvironment status) ()).2

theorem storedRun_exec (flow : Flow) (status : Json) :
    (flow.program storedRuntime 0).Exec (storedRun flow status).trace
      (storedRun flow status).outcome :=
  Prog.play_exec (I := Platform) (storedEnvironment status) (flow.program storedRuntime 0) ()

/-- The key is minted, stored and deleted. -/
def checkRun : FlowRun := storedRun checkFlow .null

/-- The instance is not configured, and the key is in the variables. -/
def applyRun : FlowRun := storedRun providerFlow .null

/-- The instance reports configured. -/
def configuredRun : FlowRun := storedRun providerFlow (.obj [("configured", .bool true)])

/-- Nothing minted, stored or deleted. -/
def emptyLedger : Ledger := ⟨emptyAccounts, [], []⟩

/-- The key is gone, and the variable still has it. -/
def checkedLedger : Ledger where
  accounts := ((emptyAccounts.addKey sampleKey).setVariable "CLIENT_OPENROUTER_API_KEY"
    "sk-or-key").removeKey "hash"
  issued := [sampleKey]
  deleted := ["sk-or-key"]

/-- A call that neither mints nor deletes a key. -/
theorem ledger_other {rt : Runtime} {service : String} {s : Ledger} {e : Event Platform}
    (he : Elsewhere e.call) : LedgerStep rt service s e s := by
  refine .other (.other he) ?_ ?_
  · rintro key ⟨request, reply, rfl, hmints, -⟩
    exact he.1 hmints
  · rintro hash ⟨request, reply, rfl, hdeletes, -⟩
    exact he.2 hash hdeletes

theorem ledger_run_call {rt : Runtime} {service : String} {s : Ledger} {args : List String}
    {stdin : Option String} {reply : Except String String} {accounts : Accounts}
    (h : AccountsStep rt service s.accounts ⟨.run args stdin, reply⟩ accounts) :
    LedgerStep rt service s ⟨.run args stdin, reply⟩ ⟨accounts, s.issued, s.deleted⟩ := by
  refine .other h ?_ ?_
  · rintro key ⟨request, reply', heq, -⟩
    cases heq
  · rintro hash ⟨request, reply', heq, -⟩
    cases heq

set_option maxRecDepth 4000 in
/-- The check mints a key, stores it and deletes it again. -/
theorem checkRun_run :
    (ledger storedRuntime "client").Run emptyLedger checkRun.trace checkedLedger :=
  ⟨_, .minted (.minted ⟨rfl, rfl⟩ mintResponse_key (fun _ hlive => by cases hlive))
      ⟨_, _, rfl, ⟨rfl, rfl⟩, mintResponse_key⟩ (fun _ hold => by cases hold),
    _, ledger_run_call .written, _, ledger_other (elsewhere_get rfl),
    _, ledger_other (elsewhere_get rfl),
    checkedLedger, @LedgerStep.deleted _ _ _ _ _ "hash" (.deleted ⟨rfl, rfl⟩)
      ⟨_, _, rfl, ⟨rfl, rfl⟩, rfl⟩, rfl⟩

theorem listsVariables_single {name value : String} :
    ListsVariables [(name, value)] [(name, .str value)] := by
  intro other
  rw [List.lookup_cons, List.lookup_cons]
  cases other == name with
  | true => rfl
  | false => rfl

set_option maxRecDepth 4000 in
/-- The application finds the variable and mints nothing. -/
theorem applyRun_run :
    (ledger storedRuntime "client").Run checkedLedger applyRun.trace checkedLedger :=
  ⟨_, ledger_other (elsewhere_get rfl), _, ledger_run_call (.listed rfl listsVariables_single),
    _, ledger_other (elsewhere_run _), _, ledger_other (elsewhere_get rfl), rfl⟩

/-- The request of that call. -/
def applyRequest : Event Platform where
  call := .fetch (postRequest setupDependencies.setupApiClient "/setup/api/run" (.obj [
    ("authChoice", .str "openrouter-api-key"), ("flow", .str "quickstart"),
    ("authSecret", .str "sk-or-key")]))
  reply := .ok ⟨200, .ok .null⟩

set_option maxRecDepth 4000 in
theorem applyRun_trace : applyRun.trace =
    [⟨.fetch (getRequest setupDependencies.setupApiClient "/setup/api/status"), .ok ⟨200, .ok .null⟩⟩,
      ⟨.run (variableListArgs "client") none, .ok storedText⟩, applyRequest,
      ⟨.fetch (getRequest setupDependencies.setupApiClient "/setup/api/status"),
        .ok ⟨200, .ok .null⟩⟩] := rfl

/-- **A deleted key that is sent.**  The regression check deletes its key and leaves it in
the variable, and the instance that no longer reports configured is set up with it. -/
theorem applyRun_sends_deleted :
    (session storedRuntime "client" providerFlow.profile).Run emptyLedger [checkRun, applyRun]
        checkedLedger ∧
      ¬ (session storedRuntime "client" providerFlow.profile).Along SendsLive emptyLedger
        [checkRun, applyRun] checkedLedger := by
  have hcheck : (session storedRuntime "client" providerFlow.profile).step emptyLedger checkRun
      checkedLedger := ⟨rfl, rfl, storedRun_exec _ _, checkRun_run⟩
  have happly : (session storedRuntime "client" providerFlow.profile).step checkedLedger applyRun
      checkedLedger := ⟨rfl, rfl, storedRun_exec _ _, applyRun_run⟩
  refine ⟨⟨_, hcheck, _, happly, rfl⟩, fun hlive => ?_⟩
  have hsends := hlive [checkRun] applyRun [] checkedLedger rfl (Lts.run_singleton.mpr hcheck)
    (Lts.run_singleton.mpr happly)
  have hsimple : ∀ p ∈ [("authChoice", Json.str "openrouter-api-key"), ("flow", .str "quickstart"),
      ("authSecret", .str "sk-or-key")], Simple p.2 := by
    intro p hp
    simp only [List.mem_cons, List.not_mem_nil, or_false] at hp
    rcases hp with rfl | rfl | rfl
    · exact .str
    · exact .str
    · exact .str
  have hmem : applyRequest ∈ applyRun.trace := by
    rw [applyRun_trace]
    exact .tail _ (.tail _ (.head _))
  exact hsends _ _ _ rfl applyRequest hmem "sk-or-key" ⟨_, hsimple, rfl, rfl⟩ (.head _)

set_option maxRecDepth 4000 in
theorem configuredRun_trace : configuredRun.trace =
    [⟨.fetch (getRequest setupDependencies.setupApiClient "/setup/api/status"),
      .ok ⟨200, .ok (.obj [("configured", .bool true)])⟩⟩] := rfl

/-- On an instance that reports configured the deleted key stays where it is. -/
theorem configuredRun_sends_live :
    (session storedRuntime "client" providerFlow.profile).Along SendsLive emptyLedger
      [checkRun, configuredRun] checkedLedger := by
  refine (session_sends_live_iff rfl).mpr ?_
  rintro before r after m hruns - -
  rintro candidateProfile options dependencies hflow ⟨e, he, hsetup⟩
  cases before with
  | nil =>
      obtain rfl := (List.cons.inj hruns).1
      cases hflow
  | cons first before =>
      have hrest := (List.cons.inj hruns).2
      cases before with
      | nil =>
          obtain rfl := (List.cons.inj hrest).1
          rw [configuredRun_trace] at he
          obtain rfl := List.mem_singleton.mp he
          exact absurd hsetup (setupRun_not_get rfl)
      | cons second before => exact absurd (List.cons.inj hrest).2.symm (by simp)

end Setup
