/-
ControlPlane/Setup/Rejection.lean

What `applyProfile` has done by the time it rejects a profile.

`Appliable` says in terms of the channels alone when they fit the payload and have
their secrets; `channelFields_ok_iff` shows that the applier's check is that.
`applyProfile_rejects_cleanly_iff` then says for which profiles and variables a
rejection leaves everything untouched: for all but those whose provider has a key
to mint while the channels are not appliable, since the key is minted and written
before the channels are looked at.
-/
import ControlPlane.Setup.Apply

namespace Setup

open Js Railway Interaction

/-! ### Channels that can be applied -/

/-- The channels have supported types, no two of the same one, as many secret names
as their types take, and every secret is there. -/
structure Appliable (existingVars : Json) (channels : List ChannelAttachment) : Prop where
  counts : ∀ channel ∈ channels,
    CHANNEL_SECRET_COUNTS.lookup channel.type = some channel.requiredSecretNames.length
  distinct : (channels.map ChannelAttachment.type).Nodup
  secrets : ∀ channel ∈ channels, ∀ name ∈ channel.requiredSecretNames,
    existingVars.get name ≠ .undefined

/-- An error that rejects the profile: its shape, or a secret that is not there. -/
def RejectsProfile (e : Failure) : Prop :=
  e.kind = .invalidProfile ∨ e.kind = .unsupportedProfile ∨ e.kind = .missingSecret

section Channels

variable {channel : ChannelAttachment} {channels : List ChannelAttachment} {seenTypes : List String}
  {mappings : List ChannelFieldMapping} {fields : List (String × Json)} {service : String}
  {e : Failure}

/-- The three supported types with their numbers of secrets. -/
theorem secretCount_eq_some {type : String} {count : ℕ}
    (h : CHANNEL_SECRET_COUNTS.lookup type = some count) :
    (type = "telegram" ∧ count = 1) ∨ (type = "discord" ∧ count = 1) ∨
      (type = "slack" ∧ count = 2) := by
  simp only [CHANNEL_SECRET_COUNTS, List.lookup_cons] at h
  split at h
  · rename_i heq
    cases h
    exact .inl ⟨eq_of_beq heq, rfl⟩
  · split at h
    · rename_i heq
      cases h
      exact .inr (.inl ⟨eq_of_beq heq, rfl⟩)
    · split at h
      · rename_i heq
        cases h
        exact .inr (.inr ⟨eq_of_beq heq, rfl⟩)
      · cases h

/-- A channel with the right number of names fills a field with each of them. -/
theorem fieldsOfChannel_eq
    (h : CHANNEL_SECRET_COUNTS.lookup channel.type = some channel.requiredSecretNames.length) :
    ∃ mappings, fieldsOfChannel channel = .ok mappings ∧
      mappings.map ChannelFieldMapping.secretName = channel.requiredSecretNames := by
  obtain ⟨type, names⟩ := channel
  rcases secretCount_eq_some h with ⟨rfl, hlength⟩ | ⟨rfl, hlength⟩ | ⟨rfl, hlength⟩
  · obtain ⟨name, rfl⟩ := List.length_eq_one_iff.mp hlength
    exact ⟨_, rfl, rfl⟩
  · obtain ⟨name, rfl⟩ := List.length_eq_one_iff.mp hlength
    exact ⟨_, rfl, rfl⟩
  · obtain ⟨botToken, appToken, rfl⟩ := List.length_eq_two.mp hlength
    exact ⟨_, rfl, rfl⟩

/-- A channel is rejected for its type or its secrets. -/
theorem fieldsOfChannel_error (h : fieldsOfChannel channel = .error e) :
    e.kind = .unsupportedProfile := by
  unfold fieldsOfChannel at h
  split at h
  · split at h
    · cases h
    · cases h
      rfl
  · split at h
    · cases h
    · cases h
      rfl

/-- The first channel of a list that is mapped. -/
theorem mapChannelsFrom_cons_ok_iff :
    mapChannelsFrom seenTypes (channel :: channels) = .ok mappings ↔
      CHANNEL_SECRET_COUNTS.lookup channel.type = some channel.requiredSecretNames.length ∧
        channel.type ∉ seenTypes ∧
        ∃ first others, fieldsOfChannel channel = .ok first ∧
          mapChannelsFrom (channel.type :: seenTypes) channels = .ok others ∧
          mappings = first ++ others := by
  rw [mapChannelsFrom]
  cases hcount : CHANNEL_SECRET_COUNTS.lookup channel.type with
  | none => simp
  | some count =>
      show (if _ then _ else if _ then _ else _) = _ ↔ _
      -- the three tests in the order of the source: the type, the repetition, the count
      split_ifs with hseen hlength
      · simp [hseen]
      · simp [Ne.symm hlength]
      · have hcounts : some count = some channel.requiredSecretNames.length :=
          congrArg some (not_not.mp hlength).symm
        cases hfirst : fieldsOfChannel channel with
        | error e =>
            constructor
            · intro h
              cases h
            · rintro ⟨-, -, first, others, h, -⟩
              cases h
        | ok first =>
            cases hothers : mapChannelsFrom (channel.type :: seenTypes) channels with
            | error e =>
                constructor
                · intro h
                  cases h
                · rintro ⟨-, -, first, others, -, h, -⟩
                  cases h
            | ok others =>
                constructor
                · intro h
                  exact ⟨hcounts, hseen, first, others, rfl, rfl, (Except.ok.inj h).symm⟩
                · rintro ⟨-, -, first', others', h, h', rfl⟩
                  cases h
                  cases h'
                  rfl

/-- A list of channels is mapped when the counts are right and no type comes again;
the fields then have the secrets of the channels, in order. -/
theorem mapChannelsFrom_ok_iff :
    (∃ mappings, mapChannelsFrom seenTypes channels = .ok mappings) ↔
      (∀ channel ∈ channels,
        CHANNEL_SECRET_COUNTS.lookup channel.type = some channel.requiredSecretNames.length) ∧
      (channels.map ChannelAttachment.type).Nodup ∧
      ∀ channel ∈ channels, channel.type ∉ seenTypes := by
  induction channels generalizing seenTypes with
  | nil => simp [mapChannelsFrom]
  | cons channel channels ih =>
      simp only [mapChannelsFrom_cons_ok_iff, List.map_cons, List.nodup_cons, List.forall_mem_cons]
      constructor
      · rintro ⟨mappings, hcount, hseen, first, others, -, hothers, -⟩
        obtain ⟨hcounts, hnodup, hfresh⟩ := ih.mp ⟨others, hothers⟩
        refine ⟨⟨hcount, hcounts⟩, ⟨?_, hnodup⟩, hseen, ?_⟩
        · intro hmem
          obtain ⟨other, hother, htype⟩ := List.mem_map.mp hmem
          exact hfresh other hother (by simp [htype])
        · intro other hother hmem
          exact hfresh other hother (List.mem_cons_of_mem _ hmem)
      · rintro ⟨⟨hcount, hcounts⟩, ⟨hnew, hnodup⟩, hseen, hfresh⟩
        -- a later type differs from this one because no type comes twice
        have hrest : ∀ other ∈ channels, other.type ∉ channel.type :: seenTypes := by
          intro other hother hmem
          rcases List.mem_cons.mp hmem with htype | hmem
          · exact hnew (List.mem_map.mpr ⟨other, hother, htype⟩)
          · exact hfresh other hother hmem
        obtain ⟨others, hothers⟩ := ih.mpr ⟨hcounts, hnodup, hrest⟩
        obtain ⟨first, hfirst, -⟩ := fieldsOfChannel_eq hcount
        exact ⟨first ++ others, hcount, hseen, first, others, hfirst, hothers, rfl⟩

/-- The mappings name the secrets of the channels, in order. -/
theorem mapChannelsFrom_names (h : mapChannelsFrom seenTypes channels = .ok mappings) :
    mappings.map ChannelFieldMapping.secretName =
      channels.flatMap ChannelAttachment.requiredSecretNames := by
  induction channels generalizing seenTypes mappings with
  | nil =>
      cases h
      rfl
  | cons channel channels ih =>
      obtain ⟨hcount, -, first, others, hfirst, hothers, rfl⟩ := mapChannelsFrom_cons_ok_iff.mp h
      obtain ⟨first', hfirst', hnames⟩ := fieldsOfChannel_eq hcount
      rw [hfirst] at hfirst'
      cases hfirst'
      rw [List.map_append, hnames, ih hothers, List.flatMap_cons]

/-- The channels are rejected as unsupported. -/
theorem mapChannelsFrom_error (h : mapChannelsFrom seenTypes channels = .error e) :
    e.kind = .unsupportedProfile := by
  induction channels generalizing seenTypes with
  | nil => cases h
  | cons channel channels ih =>
      rw [mapChannelsFrom] at h
      split at h
      · cases h
        rfl
      · split at h
        · cases h
          rfl
        · split at h
          · cases h
            rfl
          · cases hfirst : fieldsOfChannel channel with
            | error e' =>
                rw [hfirst] at h
                cases h
                exact fieldsOfChannel_error hfirst
            | ok first =>
                cases hothers : mapChannelsFrom (channel.type :: seenTypes) channels with
                | error e' =>
                    rw [hfirst, hothers] at h
                    cases h
                    exact ih hothers
                | ok others =>
                    rw [hfirst, hothers] at h
                    cases h

/-- A secret is found when the variables have one of that name. -/
theorem requiredSecret_ok_iff {name : String} {value : Value} :
    requiredSecret (.obj fields) service name = .ok value ↔
      value = (Json.obj fields).get name ∧ (Json.obj fields).get name ≠ .undefined := by
  show (if ((Json.obj fields).get name).isUndefined = true then Except.error _ else Except.ok _) =
    Except.ok value ↔ _
  split_ifs with h
  · rw [isUndefined_iff] at h
    simp [h]
  · rw [isUndefined_iff] at h
    constructor
    · intro hvalue
      exact ⟨(Except.ok.inj hvalue).symm, h⟩
    · rintro ⟨rfl, -⟩
      rfl

theorem requiredSecret_error {name : String} (h : requiredSecret (.obj fields) service name = .error e) :
    e.kind = .missingSecret := by
  change (if ((Json.obj fields).get name).isUndefined = true then Except.error _ else Except.ok _) =
    Except.error e at h
  split at h
  · cases h
    rfl
  · cases h

/-- The fields are filled one after another. -/
theorem fillFields_cons_ok_iff {mapping : ChannelFieldMapping} {filled : List (String × Value)} :
    fillFields (.obj fields) service (mapping :: mappings) = .ok filled ↔
      (Json.obj fields).get mapping.secretName ≠ .undefined ∧ ∃ others,
        fillFields (.obj fields) service mappings = .ok others ∧
        filled = (mapping.field.text, (Json.obj fields).get mapping.secretName) :: others := by
  rw [fillFields]
  constructor
  · intro h
    cases hvalue : requiredSecret (.obj fields) service mapping.secretName with
    | error e =>
        rw [hvalue] at h
        cases h
    | ok value =>
        obtain ⟨rfl, hsome⟩ := requiredSecret_ok_iff.mp hvalue
        cases hothers : fillFields (.obj fields) service mappings with
        | error e =>
            rw [hvalue, hothers] at h
            cases h
        | ok others =>
            rw [hvalue, hothers] at h
            exact ⟨hsome, others, rfl, (Except.ok.inj h).symm⟩
  · rintro ⟨hsome, others, hothers, rfl⟩
    rw [requiredSecret_ok_iff.mpr ⟨rfl, hsome⟩, hothers]
    rfl

/-- The fields are filled exactly when every secret is there. -/
theorem fillFields_ok_iff :
    (∃ filled, fillFields (.obj fields) service mappings = .ok filled) ↔
      ∀ mapping ∈ mappings, (Json.obj fields).get mapping.secretName ≠ .undefined := by
  induction mappings with
  | nil => simp [fillFields]
  | cons mapping mappings ih =>
      rw [List.forall_mem_cons, ← ih]
      constructor
      · rintro ⟨filled, h⟩
        obtain ⟨hsome, others, hothers, -⟩ := fillFields_cons_ok_iff.mp h
        exact ⟨hsome, others, hothers⟩
      · rintro ⟨hsome, others, hothers⟩
        exact ⟨_, fillFields_cons_ok_iff.mpr ⟨hsome, others, hothers, rfl⟩⟩

/-- Otherwise one of them is missing. -/
theorem fillFields_error (h : fillFields (.obj fields) service mappings = .error e) :
    e.kind = .missingSecret := by
  induction mappings with
  | nil => cases h
  | cons mapping mappings ih =>
      rw [fillFields] at h
      cases hvalue : requiredSecret (.obj fields) service mapping.secretName with
      | error e' =>
          rw [hvalue] at h
          cases h
          exact requiredSecret_error hvalue
      | ok value =>
          cases hothers : fillFields (.obj fields) service mappings with
          | error e' =>
              rw [hvalue, hothers] at h
              cases h
              exact ih hothers
          | ok others =>
              rw [hvalue, hothers] at h
              cases h

/-- The channels are mapped to fields, and these are filled. -/
theorem channelFields_eq_ok {filled : List (String × Value)}
    (h : channelFields (.obj fields) service channels = .ok filled) :
    ∃ mappings, mapChannelsToPayloadFields channels = .ok mappings ∧
      fillFields (.obj fields) service mappings = .ok filled := by
  cases hmappings : mapChannelsToPayloadFields channels with
  | error e =>
      rw [channelFields, hmappings] at h
      cases h
  | ok mappings =>
      rw [channelFields, hmappings] at h
      exact ⟨mappings, rfl, h⟩

/-- **The applier's check of the channels** is whether they can be applied. -/
theorem channelFields_ok_iff :
    (∃ filled, channelFields (.obj fields) service channels = .ok filled) ↔
      Appliable (.obj fields) channels := by
  -- the fields ask for the secrets of the channels, no more and no fewer
  have hsecrets : ∀ {mappings}, mapChannelsToPayloadFields channels = .ok mappings →
      ((∀ mapping ∈ mappings, (Json.obj fields).get mapping.secretName ≠ .undefined) ↔
        ∀ channel ∈ channels, ∀ name ∈ channel.requiredSecretNames,
          (Json.obj fields).get name ≠ .undefined) := by
    intro mappings hmappings
    have hnames := mapChannelsFrom_names hmappings
    have hmap : (∀ mapping ∈ mappings, (Json.obj fields).get mapping.secretName ≠ .undefined) ↔
        ∀ name ∈ mappings.map ChannelFieldMapping.secretName,
          (Json.obj fields).get name ≠ .undefined := by
      simp
    rw [hmap, hnames]
    simp only [List.mem_flatMap, forall_exists_index, and_imp]
    exact ⟨fun h channel hchannel name hname => h name channel hchannel hname,
      fun h name channel hchannel hname => h channel hchannel name hname⟩
  constructor
  · rintro ⟨filled, h⟩
    obtain ⟨mappings, hmappings, hfilled⟩ := channelFields_eq_ok h
    obtain ⟨hcounts, hnodup, -⟩ := mapChannelsFrom_ok_iff.mp ⟨mappings, hmappings⟩
    exact ⟨hcounts, hnodup, (hsecrets hmappings).mp (fillFields_ok_iff.mp ⟨filled, hfilled⟩)⟩
  · intro h
    obtain ⟨mappings, hmappings⟩ := mapChannelsFrom_ok_iff.mpr
      ⟨h.counts, h.distinct, fun _ _ => List.not_mem_nil⟩
    obtain ⟨filled, hfilled⟩ := fillFields_ok_iff.mpr ((hsecrets hmappings).mpr h.secrets)
    refine ⟨filled, ?_⟩
    rw [channelFields, mapChannelsToPayloadFields, hmappings]
    exact hfilled

/-- A failure over the channels rejects the profile. -/
theorem channelFields_error (h : channelFields (.obj fields) service channels = .error e) :
    RejectsProfile e := by
  cases hmappings : mapChannelsToPayloadFields channels with
  | error e' =>
      rw [channelFields, hmappings] at h
      cases h
      exact .inr (.inl (mapChannelsFrom_error hmappings))
  | ok mappings =>
      rw [channelFields, hmappings] at h
      exact .inr (.inr (fillFields_error h))

end Channels

/-! ### Errors that come later -/

/-- An error that is about something else than the profile. -/
def AcceptsProfile (e : Failure) : Prop := ¬ RejectsProfile e

section Later

variable {rt : Runtime} {fuel : ℕ} {client : SetupApiClient} {α : Type}

/-- A plain failure is no rejection. -/
theorem Plain.acceptsProfile {x : Except Failure α} (hx : Plain x) :
    ∀ e, x = .error e → AcceptsProfile e := by
  intro e he
  simp [AcceptsProfile, RejectsProfile, hx e he]

theorem keyIn_error {body : Json} {e : Failure} (h : keyIn body = .error e) : AcceptsProfile e := by
  have hkind : ∀ message, AcceptsProfile ⟨.openRouter, message⟩ := by
    simp [AcceptsProfile, RejectsProfile]
  cases hkey : readMember body "key" with
  | error e' =>
      rw [keyIn, hkey] at h
      cases h
      exact Plain.acceptsProfile (plain_readMember body "key") e hkey
  | ok key =>
      simp only [keyIn, hkey, bind, Except.bind] at h
      split at h
      · cases h
        exact hkind _
      · cases hdata : readMember body "data" with
        | error e' =>
            rw [hdata] at h
            cases h
            exact Plain.acceptsProfile (plain_readMember body "data") e hdata
        | ok data =>
            simp only [hdata] at h
            split at h
            · cases h
              exact hkind _
            · cases h

/-- Nor is a mint that fails. -/
theorem mintedKey_error {reply : Except String Response} {e : Failure}
    (h : mintedKey reply = .error e) : AcceptsProfile e := by
  cases reply with
  | error message =>
      cases h
      simp [AcceptsProfile, RejectsProfile, thrown]
  | ok response =>
      change (if response.ok = true then settled response.json >>= keyIn
        else Except.error (provisioningError response.status)) = _ at h
      split at h
      · cases hjson : response.json with
        | error message =>
            rw [hjson] at h
            cases h
            simp [AcceptsProfile, RejectsProfile, thrown]
        | ok body =>
            rw [hjson] at h
            exact keyIn_error h
      · cases h
        simp [AcceptsProfile, RejectsProfile, provisioningError]

/-- Nor is an answer of the instance. -/
theorem settledJson_error {method path : String} {reply : Except String Response} {e : Failure}
    (h : settledJson method path reply = .error e) : AcceptsProfile e := by
  cases reply with
  | error message =>
      cases h
      simp [AcceptsProfile, RejectsProfile, thrown]
  | ok response =>
      change (if response.ok = true then settled response.json
        else Except.error (setupApiError method path response.status)) = _ at h
      split at h
      · exact Plain.acceptsProfile plain_settled e h
      · cases h
        simp [AcceptsProfile, RejectsProfile, setupApiError]

/-- Nor is any failure of the mint and its write. -/
theorem mintSecret_throws {secretName service managementKey : String}
    {keyProvisioning : KeyProvisioning} {requiresRedeploy : Bool} :
    (mintSecret secretName keyProvisioning requiresRedeploy service managementKey).Throws
      AcceptsProfile := by
  apply Prog.Throws.bind (Prog.throws_ask fun _ _ => mintedKey_error)
  intro minted
  rw [writeRailwayVariable_eq]
  apply Prog.Throws.bind (Prog.throws_ask fun reply => Plain.acceptsProfile ?_)
  · intro _
    trivial
  · exact plain_settled.bind fun _ => plain_ok

/-- Nor is any failure of the wait. -/
theorem waitForHealthy_throws {instanceBaseUrl : String} {pollSeconds timeoutSeconds : Option ℕ} :
    (waitForHealthy fuel instanceBaseUrl pollSeconds timeoutSeconds).Throws AcceptsProfile := by
  intro time
  show (healthRounds instanceBaseUrl _ _ _ fuel).Throws AcceptsProfile
  induction fuel with
  | zero => trivial
  | succ fuel ih =>
      apply Prog.Throws.bind (Prog.throws_ask fun _ => Plain.acceptsProfile plain_settled)
      intro response
      split
      · trivial
      · intro time'
        show Prog.Throws AcceptsProfile (if _ then _ else _)
        split
        · show AcceptsProfile (unhealthy _ _ _)
          simp [AcceptsProfile, RejectsProfile, unhealthy]
        · intro _
          exact ih

theorem settleRedeploy_throws {options : ApplyOptions} {redeployTriggered : Bool} :
    (settleRedeploy fuel options redeployTriggered).Throws AcceptsProfile := by
  unfold settleRedeploy
  split
  · exact waitForHealthy_throws
  · trivial

/-- Nor is any failure of the setup request. -/
theorem runSetup_throws {payload : Json} {mintedKeyHash : Option String} :
    (runSetup client payload mintedKeyHash).Throws AcceptsProfile := by
  apply Prog.Throws.bind (Prog.throws_ask fun _ _ => settledJson_error)
  intro _
  apply Prog.Throws.bind (Prog.throws_ask fun _ _ => settledJson_error)
  intro postRunStatus
  split
  · trivial
  · show AcceptsProfile stillNotConfigured
    simp [AcceptsProfile, RejectsProfile, stillNotConfigured]

end Later

/-! ### Rejections -/

/-- The provider has a key to mint although the channels cannot be applied. -/
def MintsFirst [Zod] (candidateProfile existingVars : Json) : Prop :=
  ∃ profile provider secretName keyProvisioning,
    parseClientProfile candidateProfile = .ok profile ∧ profile.modelProviders = [provider] ∧
      provider.requiredSecretNames.head? = some secretName ∧
      existingVars.get secretName = .undefined ∧
      provider.keyProvisioning = some keyProvisioning ∧
      ¬ Appliable existingVars profile.channels

/-- The listings of the trace that can be read show these variables. -/
def Lists (rt : Runtime) (service : String) (existingVars : Json) (t : Trace) : Prop :=
  ∀ reply vars, ⟨.run (variableListArgs service) none, reply⟩ ∈ t →
    printed rt reply = .ok vars → vars = existingVars

section Rejections

variable {rt : Runtime} {fuel : ℕ} {candidateProfile : Json} {options : ApplyOptions}
  {dependencies : ApplyProfileDependencies} {profile : ClientProfile}
  {provider : ModelProviderAttachment} {fields : List (String × Json)} {t : Trace} {e : Failure}

/-- The provider is the only one. -/
theorem soleProvider_some (h : soleProvider profile = .ok (some provider)) :
    profile.modelProviders = [provider] := by
  unfold soleProvider at h
  split at h
  · cases h
  · rename_i hproviders
    cases h
    exact hproviders
  · cases h

/-- A key is to be minted exactly when the one secret is not there and limits are given. -/
theorem providerSecret_toMint_iff {service secretName : String} {keyProvisioning : KeyProvisioning} :
    providerSecret provider (.obj fields) service = .ok (.toMint secretName keyProvisioning) ↔
      provider.requiredSecretNames.head? = some secretName ∧
        (Json.obj fields).get secretName = .undefined ∧
        provider.keyProvisioning = some keyProvisioning := by
  cases hname : provider.requiredSecretNames.head? with
  | none => simp [providerSecret, hname]
  | some name =>
      have hread : readMember (.obj fields) name = .ok ((Json.obj fields).get name) := rfl
      simp only [providerSecret, hname, hread, bind, Except.bind]
      cases hvalue : ((Json.obj fields).get name).isUndefined with
      | false =>
          rw [isUndefined_eq_false_iff] at hvalue
          constructor
          · intro h
            cases h
          · rintro ⟨hsame, hundefined, -⟩
            rw [Option.some.inj hsame] at hvalue
            exact absurd hundefined hvalue
      | true =>
          rw [isUndefined_iff] at hvalue
          cases hprovisioning : provider.keyProvisioning with
          | none => simp
          | some provisioning =>
              constructor
              · intro h
                cases h
                exact ⟨rfl, hvalue, rfl⟩
              · rintro ⟨hname', -, hprovisioning'⟩
                cases hname'
                cases hprovisioning'
                rfl

/-- Once the channels are accepted no error is about the profile; when they are
not, nothing more is done. -/
theorem applyChannels_rejects {resolution : ProviderResolution}
    (h : (applyChannels fuel profile (.obj fields) options dependencies.setupApiClient
      resolution).Exec t (.threw e)) (he : RejectsProfile e) :
    t = [] ∧ ¬ Appliable (.obj fields) profile.channels := by
  rcases Prog.exec_ofExcept_bind.mp h with ⟨filled, -, hrest⟩ | ⟨e', hfields, rfl, ho⟩
  -- past the channels only the instance can fail
  · have hlater : AcceptsProfile e :=
      (Prog.Throws.bind settleRedeploy_throws fun _ => runSetup_throws).exec hrest
    exact absurd he hlater
  · refine ⟨rfl, ?_⟩
    intro happliable
    obtain ⟨filled, hfilled⟩ := channelFields_ok_iff.mpr happliable
    rw [hfilled] at hfields
    cases hfields

/-- A rejection after the variables were listed has done nothing, unless a key was
to be minted first. -/
theorem applyAttachments_rejects
    (h : (applyAttachments fuel profile (.obj fields) options dependencies).Exec t (.threw e))
    (he : RejectsProfile e) :
    t = [] ∨ ∃ provider secretName keyProvisioning, profile.modelProviders = [provider] ∧
      provider.requiredSecretNames.head? = some secretName ∧
      (Json.obj fields).get secretName = .undefined ∧
      provider.keyProvisioning = some keyProvisioning ∧
      ¬ Appliable (.obj fields) profile.channels := by
  rcases Prog.exec_ofExcept_bind.mp h with ⟨sole, hsole, hrest⟩ | ⟨e', -, rfl, -⟩
  · cases sole with
    | none => exact .inl (applyChannels_rejects hrest he).1
    | some provider =>
        have hproviders : profile.modelProviders = [provider] := soleProvider_some hsole
        simp only [resolveProvider, resolveProviderSecret, bind_assoc] at hrest
        rcases Prog.exec_ofExcept_bind.mp hrest with ⟨secret, hsecret, hmint⟩ | ⟨e', -, rfl, -⟩
        · cases secret with
          | stored value => exact .inl (applyChannels_rejects hmint he).1
          -- the key was minted, so the rejection is the one of the channels
          | toMint secretName keyProvisioning =>
              obtain ⟨hname, hvalue, hprovisioning⟩ := providerSecret_toMint_iff.mp hsecret
              rcases Prog.exec_bind.mp hmint with ⟨resolution, t₁, t₂, rfl, -, hchannels⟩ |
                ⟨e', hthrew, ho⟩ | ⟨-, ho⟩
              · exact .inr ⟨provider, secretName, keyProvisioning, hproviders, hname, hvalue,
                  hprovisioning, (applyChannels_rejects hchannels he).2⟩
              · cases ho
                -- an error of the mint or of the write is not about the profile
                exact absurd he (mintSecret_throws.exec hthrew)
              · cases ho
        · exact .inl rfl
  · exact .inl rfl

/-- The response of a mint that succeeds. -/
def mintResponse : Response where
  status := 200
  json := .ok (.obj [("key", .str "sk-or-key"), ("data", .obj [("hash", .str "hash")])])

/-- The calls of a mint and a write that both succeed. -/
def mintEvents (secretName service managementKey : String) (keyProvisioning : KeyProvisioning)
    (requiresRedeploy : Bool) : Trace :=
  [⟨.fetch (mintRequest ⟨secretName, keyProvisioning.spendLimitUsd, keyProvisioning.limitReset⟩
      managementKey), .ok mintResponse⟩,
    ⟨.run (variableSetArgs secretName service (!requiresRedeploy)) (some "sk-or-key"), .ok ""⟩]

/-- A mint that fails, or a mint and its write. -/
theorem mintSecret_exec {secretName service managementKey : String}
    {keyProvisioning : KeyProvisioning} {requiresRedeploy : Bool} :
    (mintSecret secretName keyProvisioning requiresRedeploy service managementKey).Exec
      (mintEvents secretName service managementKey keyProvisioning requiresRedeploy)
      (.returned ⟨.json (.str "sk-or-key"), requiresRedeploy, some "hash"⟩) := by
  refine Prog.exec_ask_bind.mpr (.inl ⟨.ok mintResponse, _, ⟨"sk-or-key", "hash"⟩, rfl, ?_, ?_⟩)
  · decide
  · rw [writeRailwayVariable_eq]
    exact Prog.exec_ask_bind.mpr (.inl ⟨.ok "", [], (), rfl, rfl, rfl, rfl⟩)

variable (options dependencies) in
/-- With the variables listed, a run that mints and writes before it rejects the
channels. -/
theorem applyAttachments_mints_first [Zod] (h : MintsFirst candidateProfile (.obj fields)) :
    ∃ profile t e, parseClientProfile candidateProfile = .ok profile ∧
      (applyAttachments 0 profile (.obj fields) options dependencies).Exec t (.threw e) ∧
      RejectsProfile e ∧ (∀ reply, ⟨.run (variableListArgs options.service) none, reply⟩ ∉ t) ∧
      mutations t ≠ [] := by
  obtain ⟨profile, provider, secretName, keyProvisioning, hprofile, hproviders, hname, hvalue,
    hprovisioning, hnot⟩ := h
  obtain ⟨e, he⟩ : ∃ e, channelFields (.obj fields) options.service profile.channels = .error e := by
    cases hfields : channelFields (.obj fields) options.service profile.channels with
    | error e => exact ⟨e, rfl⟩
    | ok filled => exact absurd (channelFields_ok_iff.mp ⟨filled, hfields⟩) hnot
  have hsecret : providerSecret provider (.obj fields) options.service =
      .ok (.toMint secretName keyProvisioning) :=
    providerSecret_toMint_iff.mpr ⟨hname, hvalue, hprovisioning⟩
  have hsole : soleProvider profile = .ok (some provider) := by
    rw [soleProvider, hproviders]
  have hchannels : ∀ resolution, (applyChannels 0 profile (.obj fields) options
      dependencies.setupApiClient resolution).Exec [] (.threw e) :=
    fun _ => Prog.exec_ofExcept_bind.mpr (.inr ⟨e, he, rfl, rfl⟩)
  refine ⟨profile, mintEvents secretName options.service dependencies.openRouterManagementKey
    keyProvisioning provider.customProviderApiKeyEnv.isSome, e, hprofile, ?_,
    channelFields_error he, ?_, ?_⟩
  · refine Prog.exec_ofExcept_bind.mpr (.inl ⟨some provider, hsole, ?_⟩)
    simp only [resolveProvider, resolveProviderSecret, bind_assoc]
    refine Prog.exec_ofExcept_bind.mpr (.inl ⟨_, hsecret, ?_⟩)
    exact Prog.exec_bind.mpr (.inl ⟨_, _, [], (List.append_nil _).symm, mintSecret_exec,
      hchannels _⟩)
  · intro reply hmem
    simp [mintEvents, variableListArgs, variableSetArgs] at hmem
  · rw [mintEvents, mutations_cons_of_not_isRead rfl]
    exact List.cons_ne_nil _ _

/-- The response of an instance that is not configured. -/
def unconfiguredResponse : Response := ⟨200, .ok .null⟩

variable (options dependencies) in
/-- Such a run of the whole function. -/
theorem applyProfile_mints_first [Zod]
    {text : String} (htext : rt.jsonParse text = .ok (.obj fields))
    (h : MintsFirst candidateProfile (.obj fields)) :
    ∃ t e, (applyProfile rt 0 candidateProfile options dependencies).Exec t (.threw e) ∧
      Lists rt options.service (.obj fields) t ∧ RejectsProfile e ∧ mutations t ≠ [] := by
  obtain ⟨profile, t, e, hprofile, hexec, hrejects, hlist, hmutations⟩ :=
    applyAttachments_mints_first options dependencies h
  have hprinted : printed rt (.ok text) = .ok (.obj fields) :=
    printed_eq_ok.mpr ⟨text, rfl, htext⟩
  refine ⟨⟨.fetch (getRequest dependencies.setupApiClient "/setup/api/status"),
      .ok unconfiguredResponse⟩ :: ⟨.run (variableListArgs options.service) none, .ok text⟩ :: t,
    e, ?_, ?_, hrejects, ?_⟩
  · refine Prog.exec_ofExcept_bind.mpr (.inl ⟨profile, hprofile, ?_⟩)
    refine Prog.exec_ask_bind.mpr (.inl ⟨.ok unconfiguredResponse, _, .null, rfl, rfl, ?_⟩)
    show (listRailwayVariables rt options.service >>= fun existingVars =>
      applyAttachments 0 profile existingVars options dependencies).Exec _ _
    rw [listRailwayVariables_eq]
    exact Prog.exec_ask_bind.mpr (.inl ⟨.ok text, t, .obj fields, rfl, hprinted, hexec⟩)
  · intro reply vars hmem hvars
    rcases List.mem_cons.mp hmem with heq | hmem'
    · cases heq
    · rcases List.mem_cons.mp hmem' with heq | hmem''
      · cases heq
        rw [hprinted] at hvars
        exact (Except.ok.inj hvars).symm
      · exact absurd hmem'' (hlist reply)
  · rw [mutations_cons_of_isRead rfl, mutations_cons_of_isRead rfl]
    exact hmutations

/-- A rejection that finds no key to mint first leaves everything as it is. -/
theorem applyProfile_rejects_cleanly [Zod]
    (h : (applyProfile rt fuel candidateProfile options dependencies).Exec t (.threw e))
    (hlists : Lists rt options.service (.obj fields) t) (he : RejectsProfile e)
    (hnot : ¬ MintsFirst candidateProfile (.obj fields)) : mutations t = [] := by
  rcases Prog.exec_ofExcept_bind.mp h with ⟨profile, hprofile, hstatus⟩ | ⟨e', -, rfl, -⟩
  · rcases Prog.exec_ask_bind.mp hstatus with ⟨reply, t', status, rfl, hsettled, hrest⟩ |
      ⟨reply, e', rfl, hsettled, ho⟩
    · rw [mutations_cons_of_isRead rfl]
      split_ifs at hrest with hconfigured
      · cases hrest.2
      -- not configured: what is applied are the variables this one listing has shown
      · rw [listRailwayVariables_eq] at hrest
        rcases Prog.exec_ask_bind.mp hrest with ⟨listed, t'', vars, rfl, hprinted, hattach⟩ |
          ⟨listed, e', rfl, hprinted, ho⟩
        · rw [mutations_cons_of_isRead rfl]
          have hvars : vars = .obj fields := hlists listed vars (by simp) hprinted
          rw [hvars] at hattach
          rcases applyAttachments_rejects hattach he with rfl | ⟨provider, secretName,
            keyProvisioning, hproviders, hname, hvalue, hprovisioning, happliable⟩
          · rfl
          · exact absurd ⟨profile, provider, secretName, keyProvisioning, hprofile, hproviders,
              hname, hvalue, hprovisioning, happliable⟩ hnot
        · cases ho
          exact absurd he (Plain.acceptsProfile (plain_printed rt listed) e hprinted)
    · cases ho
      exact absurd he (settledJson_error hsettled)
  · rfl

/-- **When a rejection is clean.**  For a profile and the variables of the service,
every run that ends by rejecting the profile has changed nothing, whatever state the
instance is in, exactly when the provider has no key to mint or the channels can be
applied. -/
theorem applyProfile_rejects_cleanly_iff [Zod] {text : String}
    (htext : rt.jsonParse text = .ok (.obj fields)) :
    (∀ fuel t e, (applyProfile rt fuel candidateProfile options dependencies).Exec t (.threw e) →
        Lists rt options.service (.obj fields) t → RejectsProfile e → mutations t = []) ↔
      ¬ MintsFirst candidateProfile (.obj fields) := by
  constructor
  · intro hclean hmints
    obtain ⟨t, e, hexec, hlists, he, hmutations⟩ :=
      applyProfile_mints_first options dependencies htext hmints
    exact hmutations (hclean 0 t e hexec hlists he)
  · intro hnot fuel t e hexec hlists he
    exact applyProfile_rejects_cleanly hexec hlists he hnot

end Rejections

/-! ### A profile that cannot be applied -/

/-- A provider whose key is minted. -/
def mintedProvider : Json :=
  .obj [("nonSecretConfig", .obj [("authGroup", .str "openrouter"),
      ("authChoice", .str "openrouter-api-key"), ("flow", .str "quickstart"),
      ("keyProvisioning", .obj [("method", .str "openrouter-provisioning-api"),
        ("spendLimitUsd", .num (.ofNat 10)), ("limitReset", .str "monthly")])]),
    ("requiredSecretNames", .arr [.str "CLIENT_OPENROUTER_API_KEY"])]

/-- A profile with a channel the payload has no field for. -/
def whatsappProfile (modelProviders : List Json) : Json :=
  .obj [("attachments", .obj [("modelProviders", .arr modelProviders),
    ("channels", .arr [.obj [("type", .str "whatsapp"),
      ("requiredSecretNames", .arr [.str "CLIENT_WHATSAPP_TOKEN"])]])])]

/-- The only text that is parsed has no variables. -/
def setupRuntime : Runtime where
  jsonParse text := if text = "\x7b\x7d" then .ok (.obj []) else .error "Unexpected token"
  compileRegExp _ := none
  utf8Decode _ := ""
  hmacSha256Hex _ _ := ""

/-- An instance to apply profiles to. -/
def setupOptions : ApplyOptions where
  service := "client"
  instanceBaseUrl := "https://client.example"
  healthcheckPollSeconds := none
  healthcheckTimeoutSeconds := none

/-- The clients for it. -/
def setupDependencies : ApplyProfileDependencies where
  setupApiClient := createSetupApiClient "https://client.example" none
  openRouterManagementKey := "sk-or-management"

/-- An instance that is not set up, at a service without variables.  Keys are minted,
and a write is answered with `written`. -/
def freshEnvironment (written : Except String String) (s : Unit) : (c : Call) → c.Reply × Unit
  | .run args _ => (if isListing args then .ok "\x7b\x7d" else written, s)
  | .fetch request =>
    (.ok (if request.url = OPENROUTER_KEYS_URL then mintResponse else unconfiguredResponse), s)
  | c => (offline c, s)

/-- The application of that profile. -/
def whatsappRun : Trace × Outcome Failure ApplyResult :=
  (applyProfile setupRuntime 0 (whatsappProfile [mintedProvider]) setupOptions
    setupDependencies).play (freshEnvironment (.ok "")) ()

theorem whatsappRun_exec :
    (applyProfile setupRuntime 0 (whatsappProfile [mintedProvider]) setupOptions
      setupDependencies).Exec whatsappRun.1 whatsappRun.2 :=
  Prog.play_exec (I := Platform) (freshEnvironment (.ok ""))
    (applyProfile setupRuntime 0 (whatsappProfile [mintedProvider]) setupOptions
      setupDependencies) ()

set_option maxRecDepth 2000 in
theorem whatsappRun_threw :
    whatsappRun.2 = .threw (unsupportedProfile ("Unsupported channel type 'whatsapp'; " ++
      "/setup/api/run only accepts telegram, discord, and slack.")) := rfl

set_option maxRecDepth 2000 in
theorem whatsappRun_trace :
    whatsappRun.1 =
      ⟨.fetch (getRequest setupDependencies.setupApiClient "/setup/api/status"),
        .ok unconfiguredResponse⟩ ::
      ⟨.run (variableListArgs "client") none, .ok "\x7b\x7d"⟩ ::
      [⟨.fetch (mintRequest ⟨"CLIENT_OPENROUTER_API_KEY", .ofNat 10, "monthly"⟩
        "sk-or-management"), .ok mintResponse⟩,
      ⟨.run (variableSetArgs "CLIENT_OPENROUTER_API_KEY" "client" true) (some "sk-or-key"),
        .ok ""⟩] := rfl

/-- **A rejection that is not clean.**  The channel's type is unsupported, and a key
was minted and written before that was found. -/
theorem whatsappRun_rejected :
    ∃ e, (applyProfile setupRuntime 0 (whatsappProfile [mintedProvider]) setupOptions
        setupDependencies).Exec whatsappRun.1 (.threw e) ∧
      Lists setupRuntime setupOptions.service (.obj []) whatsappRun.1 ∧ RejectsProfile e ∧
      mutations whatsappRun.1 =
        [.fetch (mintRequest ⟨"CLIENT_OPENROUTER_API_KEY", .ofNat 10, "monthly"⟩
          "sk-or-management"),
        .run (variableSetArgs "CLIENT_OPENROUTER_API_KEY" "client" true) (some "sk-or-key")] := by
  refine ⟨_, whatsappRun_threw ▸ whatsappRun_exec, ?_, .inr (.inl rfl), ?_⟩
  · intro reply vars hmem hvars
    rw [whatsappRun_trace] at hmem
    have hreply : reply = .ok "\x7b\x7d" := by
      simpa [setupOptions, variableListArgs, variableSetArgs] using hmem
    rw [hreply] at hvars
    exact (Except.ok.inj hvars).symm
  · rw [whatsappRun_trace, mutations_cons_of_isRead rfl, mutations_cons_of_isRead rfl]
    rfl

/-- Without the provider there is no key to mint. -/
theorem whatsappProfile_not_mintsFirst : ¬ MintsFirst (whatsappProfile []) (.obj []) := by
  rintro ⟨profile, provider, -, -, hprofile, hproviders, -⟩
  have hparsed : parseClientProfile (whatsappProfile []) =
      .ok ⟨[], [⟨"whatsapp", ["CLIENT_WHATSAPP_TOKEN"]⟩], []⟩ := rfl
  rw [hparsed] at hprofile
  cases hprofile
  cases hproviders

/-- Without the provider the same profile is rejected at once. -/
theorem whatsappProfile_rejects_cleanly :
    ¬ MintsFirst (whatsappProfile []) (.obj []) ∧
      ∀ fuel t e, (applyProfile setupRuntime fuel (whatsappProfile []) setupOptions
          setupDependencies).Exec t (.threw e) →
        Lists setupRuntime setupOptions.service (.obj []) t → RejectsProfile e →
        mutations t = [] := by
  have htext : setupRuntime.jsonParse "\x7b\x7d" = .ok (.obj []) := rfl
  exact ⟨whatsappProfile_not_mintsFirst,
    (applyProfile_rejects_cleanly_iff htext).mpr whatsappProfile_not_mintsFirst⟩

end Setup
