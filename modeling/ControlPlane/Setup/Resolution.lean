/-
ControlPlane/Setup/Resolution.lean

Where the secrets in the request of `applyProfile` come from.

A secret name is looked up as a property of the parsed variables, so a name the
service has no variable of still finds what every object inherits.  `Resolvable`
says in terms of the profile and the variables when `applyProfile` gets as far as
the request (`setupRun_resolvable`), and `payloadMembers` what the payload is made
of.  From them `applyProfile_resolves_iff`: the request carries the stored secrets,
each in its field, exactly unless such a name is among those that are looked up and
the profile is accepted with it.
-/
import ControlPlane.Setup.DeadKeys
import Mathlib.Data.List.Nodup

namespace Setup

open Js Railway Interaction

/-! ### What is looked up -/

/-- The names that are looked up: of a provider the first, of a channel all. -/
def neededNames (profile : ClientProfile) : List String :=
  profile.modelProviders.flatMap (fun provider => provider.requiredSecretNames.head?.toList) ++
    profile.channels.flatMap ChannelAttachment.requiredSecretNames

/-- The service has no variable of this name, but every object a member. -/
def Collides (vars : List (String × String)) (name : String) : Prop :=
  vars.lookup name = none ∧ name ∈ objectPrototype

/-- A profile whose secrets are all found in the variables, or can be minted. -/
structure Resolvable (profile : ClientProfile) (existingVars : Json) : Prop where
  single : profile.modelProviders.length ≤ 1
  provider : ∀ provider ∈ profile.modelProviders, ∃ name,
    provider.requiredSecretNames.head? = some name ∧
      (existingVars.get name ≠ .undefined ∨ provider.keyProvisioning.isSome = true)
  channels : Appliable existingVars profile.channels

/-! ### The payload -/

/-- The fields of a channel of this type, in the order of its secrets. -/
def channelPayloadFields (type : String) : List ChannelPayloadField :=
  if type = "telegram" then [.telegramToken]
  else if type = "discord" then [.discordToken]
  else if type = "slack" then [.slackBotToken, .slackAppToken]
  else []

/-- The type of channel a field is for. -/
def ChannelPayloadField.channelType : ChannelPayloadField → String
  | .telegramToken => "telegram"
  | .discordToken => "discord"
  | .slackBotToken => "slack"
  | .slackAppToken => "slack"

/-- The members a provider puts into the payload. -/
def providerKeys (provider : ModelProviderAttachment) : List String :=
  ["authChoice", "flow", "authSecret"] ++
    provider.customProviderApiKeyEnv.toList.map fun _ => "customProviderApiKeyEnv"

/-- The members the channels put into the payload. -/
def channelKeys (channels : List ChannelAttachment) : List String :=
  channels.flatMap fun channel => (channelPayloadFields channel.type).map ChannelPayloadField.text

/-- The members a profile asks for. -/
def payloadKeys (profile : ClientProfile) : List String :=
  profile.modelProviders.flatMap providerKeys ++ channelKeys profile.channels

section Payload

variable {channel : ChannelAttachment} {channels : List ChannelAttachment} {seenTypes : List String}
  {mappings : List ChannelFieldMapping} {fields : List (String × Json)} {service : String}
  {l : List (String × Value)} {profile : ClientProfile}

theorem channelPayloadFields_length
    (h : CHANNEL_SECRET_COUNTS.lookup channel.type = some channel.requiredSecretNames.length) :
    (channelPayloadFields channel.type).length = channel.requiredSecretNames.length := by
  rcases secretCount_eq_some h with ⟨htype, hlength⟩ | ⟨htype, hlength⟩ | ⟨htype, hlength⟩
  · rw [htype, hlength]
    rfl
  · rw [htype, hlength]
    rfl
  · rw [htype, hlength]
    rfl

/-- A channel pairs its fields with its secrets. -/
theorem fieldsOfChannel_zip
    (h : CHANNEL_SECRET_COUNTS.lookup channel.type = some channel.requiredSecretNames.length) :
    fieldsOfChannel channel = .ok (List.zipWith ChannelFieldMapping.mk
      (channelPayloadFields channel.type) channel.requiredSecretNames) := by
  obtain ⟨type, names⟩ := channel
  rcases secretCount_eq_some h with ⟨rfl, hlength⟩ | ⟨rfl, hlength⟩ | ⟨rfl, hlength⟩
  · obtain ⟨name, rfl⟩ := List.length_eq_one_iff.mp hlength
    rfl
  · obtain ⟨name, rfl⟩ := List.length_eq_one_iff.mp hlength
    rfl
  · obtain ⟨botToken, appToken, rfl⟩ := List.length_eq_two.mp hlength
    rfl

theorem mapChannelsFrom_zip (h : mapChannelsFrom seenTypes channels = .ok mappings) :
    mappings = channels.flatMap fun channel => List.zipWith ChannelFieldMapping.mk
      (channelPayloadFields channel.type) channel.requiredSecretNames := by
  induction channels generalizing seenTypes mappings with
  | nil =>
      cases h
      rfl
  | cons channel channels ih =>
      obtain ⟨hcount, -, first, others, hfirst, hothers, rfl⟩ := mapChannelsFrom_cons_ok_iff.mp h
      rw [fieldsOfChannel_zip hcount] at hfirst
      cases hfirst
      rw [List.flatMap_cons, ih hothers]

theorem fillFields_eq (h : fillFields (.obj fields) service mappings = .ok l) :
    l = mappings.map fun mapping =>
      (mapping.field.text, (Json.obj fields).get mapping.secretName) := by
  induction mappings generalizing l with
  | nil =>
      cases h
      rfl
  | cons mapping mappings ih =>
      obtain ⟨-, others, hothers, rfl⟩ := fillFields_cons_ok_iff.mp h
      rw [ih hothers, List.map_cons]

variable (fields) in
/-- The members of the channels, with what their names are looked up as. -/
def channelMembers (channels : List ChannelAttachment) : List (String × Value) :=
  channels.flatMap fun channel =>
    List.zipWith (fun field name => (field.text, (Json.obj fields).get name))
      (channelPayloadFields channel.type) channel.requiredSecretNames

theorem mappings_members (h : mapChannelsToPayloadFields channels = .ok mappings) :
    mappings.map (fun mapping => (mapping.field.text, (Json.obj fields).get mapping.secretName)) =
      channelMembers fields channels := by
  rw [mapChannelsFrom_zip h, List.map_flatMap, channelMembers]
  congr 1
  funext channel
  rw [List.map_zipWith]

theorem channelFields_eq (h : channelFields (.obj fields) service channels = .ok l) :
    l = channelMembers fields channels := by
  obtain ⟨mappings, hmappings, hfilled⟩ := channelFields_eq_ok h
  rw [fillFields_eq hfilled, mappings_members hmappings]

theorem mem_channelMembers {p : String × Value} (h : p ∈ channelMembers fields channels) :
    ∃ channel ∈ channels, ∃ name ∈ channel.requiredSecretNames,
      ∃ field ∈ channelPayloadFields channel.type,
        p = (field.text, (Json.obj fields).get name) := by
  obtain ⟨channel, hchannel, hp⟩ := List.mem_flatMap.mp h
  rw [← List.map_uncurry_zip_eq_zipWith] at hp
  obtain ⟨⟨field, name⟩, hpair, rfl⟩ := List.mem_map.mp hp
  obtain ⟨hfield, hname⟩ := List.of_mem_zip hpair
  exact ⟨channel, hchannel, name, hname, field, hfield, rfl⟩

/-- The names of the members are those the channels ask for. -/
theorem channelMembers_keys (h : ∀ channel ∈ channels,
    CHANNEL_SECRET_COUNTS.lookup channel.type = some channel.requiredSecretNames.length) :
    (channelMembers fields channels).map Prod.fst = channelKeys channels := by
  rw [channelMembers, channelKeys, List.map_flatMap]
  refine List.flatMap_congr fun channel hchannel => ?_
  rw [List.map_zipWith]
  -- there are as many secrets as fields, so none of the fields is left over
  rw [← List.map_uncurry_zip_eq_zipWith]
  show ((channelPayloadFields channel.type).zip channel.requiredSecretNames).map
    (ChannelPayloadField.text ∘ Prod.fst) = _
  rw [← List.map_map, List.map_fst_zip (channelPayloadFields_length (h channel hchannel)).le]

theorem text_injective : Function.Injective ChannelPayloadField.text := by
  intro a b h
  cases a <;> cases b <;> first | rfl | exact absurd h (by decide)

theorem channelPayloadFields_nodup (type : String) : (channelPayloadFields type).Nodup := by
  unfold channelPayloadFields
  split_ifs <;> decide

/-- A field belongs to one type. -/
theorem mem_channelPayloadFields {type : String} {field : ChannelPayloadField}
    (h : field ∈ channelPayloadFields type) : type = field.channelType := by
  unfold channelPayloadFields at h
  split_ifs at h with htelegram hdiscord hslack
  · obtain rfl := List.mem_singleton.mp h
    exact htelegram
  · obtain rfl := List.mem_singleton.mp h
    exact hdiscord
  · rcases List.mem_cons.mp h with rfl | h
    · exact hslack
    · obtain rfl := List.mem_singleton.mp h
      exact hslack
  · cases h

theorem channelKeys_nodup (h : (channels.map ChannelAttachment.type).Nodup) :
    (channelKeys channels).Nodup := by
  rw [channelKeys, List.nodup_flatMap]
  refine ⟨fun channel _ => (channelPayloadFields_nodup _).map text_injective, ?_⟩
  refine (List.pairwise_map.mp h).imp fun {a b} hne => ?_
  intro text ha hb
  obtain ⟨field, hfield, rfl⟩ := List.mem_map.mp ha
  obtain ⟨field', hfield', htext⟩ := List.mem_map.mp hb
  rw [text_injective htext] at hfield'
  exact hne ((mem_channelPayloadFields hfield).trans (mem_channelPayloadFields hfield').symm)

/-- No member is asked for twice. -/
theorem payloadKeys_nodup (hsingle : profile.modelProviders.length ≤ 1)
    (hdistinct : (profile.channels.map ChannelAttachment.type).Nodup) :
    (payloadKeys profile).Nodup := by
  have hprovider : ∀ provider, (providerKeys provider).Nodup := by
    intro provider
    unfold providerKeys
    cases provider.customProviderApiKeyEnv with
    | none => decide
    | some env =>
        show ["authChoice", "flow", "authSecret", "customProviderApiKeyEnv"].Nodup
        decide
  have hchannels : ∀ provider, (providerKeys provider).Disjoint (channelKeys profile.channels) := by
    intro provider key hkey hchannel
    obtain ⟨channel, -, hfield⟩ := List.mem_flatMap.mp hchannel
    obtain ⟨field, -, rfl⟩ := List.mem_map.mp hfield
    unfold providerKeys at hkey
    cases henv : provider.customProviderApiKeyEnv with
    | none =>
        rw [henv] at hkey
        cases field <;> exact absurd hkey (by decide)
    | some env =>
        rw [henv] at hkey
        change _ ∈ ["authChoice", "flow", "authSecret", "customProviderApiKeyEnv"] at hkey
        cases field <;> exact absurd hkey (by decide)
  rw [payloadKeys]
  refine List.nodup_append'.mpr ⟨?_, channelKeys_nodup hdistinct, ?_⟩
  · cases hproviders : profile.modelProviders with
    | nil => exact List.nodup_nil
    | cons provider rest =>
        rw [hproviders] at hsingle
        obtain rfl : rest = [] := List.eq_nil_of_length_eq_zero (by simpa using hsingle)
        rw [List.flatMap_singleton]
        exact hprovider provider
  · intro key hkey
    obtain ⟨provider, -, hmem⟩ := List.mem_flatMap.mp hkey
    exact hchannels provider hmem

/-- With no name given twice, a member that is a document is the one of its name. -/
theorem lookup_objectOf {name : String} {j : Json} (hnodup : (l.map Prod.fst).Nodup)
    (h : (name, .json j) ∈ l) : (objectOf l).fields.lookup name = some j := by
  induction l with
  | nil => cases h
  | cons p l ih =>
      rw [List.map_cons, List.nodup_cons] at hnodup
      show (objectOf ([p] ++ l)).fields.lookup name = some j
      rw [objectOf_append]
      rcases List.mem_cons.mp h with rfl | hmem
      · show List.lookup name ((name, j) :: _) = _
        rw [List.lookup_cons, beq_self_eq_true]
      · have hne : p.1 ≠ name := by
          rintro rfl
          exact hnodup.1 (List.mem_map.mpr ⟨_, hmem, rfl⟩)
        have hfirst : (objectOf [p]).fields.lookup name = none :=
          lookup_objectOf_none fun q hq => by
            rw [List.mem_singleton.mp hq]
            exact hne
        rw [List.lookup_append, hfirst]
        exact ih hnodup.2 hmem

/-- A value that stays in the text: a document, or the prototype, which is an object. -/
def Kept (v : Value) : Prop := (∃ j, v = .json j) ∨ v = .inherited "__proto__"

/-- An object has every member it is given that stays. -/
theorem objectOf_keys (h : ∀ p ∈ l, Kept p.2) :
    (objectOf l).fields.map Prod.fst = l.map Prod.fst := by
  induction l with
  | nil => rfl
  | cons p l ih =>
      obtain ⟨name, v⟩ := p
      have hrest := ih fun q hq => h q (.tail _ hq)
      rcases h _ (.head _) with ⟨j, hv⟩ | hv
      · obtain rfl : v = .json j := hv
        show name :: (objectOf l).fields.map Prod.fst = name :: l.map Prod.fst
        rw [hrest]
      · obtain rfl : v = .inherited "__proto__" := hv
        show name :: (objectOf l).fields.map Prod.fst = name :: l.map Prod.fst
        rw [hrest]

/-- A function is left out. -/
theorem not_mem_objectOf_keys {name member : String} (hnodup : (l.map Prod.fst).Nodup)
    (h : (name, .inherited member) ∈ l) (hmember : member ≠ "__proto__") :
    name ∉ (objectOf l).fields.map Prod.fst := by
  intro hkey
  obtain ⟨⟨key, j⟩, hp, hname⟩ := List.mem_map.mp hkey
  obtain rfl : key = name := hname
  have hsame : ∀ v, (key, v) ∈ l → v = .inherited member := fun v hv =>
    (Prod.mk.inj (List.inj_on_of_nodup_map hnodup hv h rfl)).2
  rcases mem_objectOf hp with hgiven | ⟨-, hgiven⟩
  · cases hsame _ hgiven
  · exact hmember (Value.inherited.inj (hsame _ hgiven)).symm

theorem providerFields_keys {provider : ModelProviderAttachment} {v : Value} :
    (providerFields provider v).map Prod.fst = providerKeys provider := by
  unfold providerFields providerKeys
  cases provider.customProviderApiKeyEnv with
  | none => rfl
  | some env => rfl

end Payload

/-! ### The request -/

/-- A key that was minted in the run. -/
def MintedIn (t : Trace) (key : String) : Prop :=
  ∃ request reply minted, (⟨.fetch request, reply⟩ : Event Platform) ∈ t ∧ Mints request ∧
    mintedKey reply = .ok minted ∧ minted.key = key

/-- What the payload is made of: the members of the provider, if there is one, with its
secret as it is looked up or as it was minted, and those of the channels. -/
inductive Assembled (profile : ClientProfile) (fields : List (String × Json)) (t : Trace) :
    List (String × Value) → Prop
  | channels (hproviders : profile.modelProviders = []) :
      Assembled profile fields t (channelMembers fields profile.channels)
  | stored {provider : ModelProviderAttachment} {name : String}
      (hproviders : profile.modelProviders = [provider])
      (hname : provider.requiredSecretNames.head? = some name)
      (hfound : (Json.obj fields).get name ≠ .undefined) :
      Assembled profile fields t (providerFields provider ((Json.obj fields).get name) ++
        channelMembers fields profile.channels)
  | minted {provider : ModelProviderAttachment} {name key : String}
      (hproviders : profile.modelProviders = [provider])
      (hname : provider.requiredSecretNames.head? = some name)
      (habsent : (Json.obj fields).get name = .undefined)
      (hprovisioning : provider.keyProvisioning.isSome = true) (hkey : MintedIn t key) :
      Assembled profile fields t (providerFields provider (.json (.str key)) ++
        channelMembers fields profile.channels)

section Request

variable {rt : Runtime} {fuel : ℕ} {candidateProfile : Json} {profile : ClientProfile}
  {options : ApplyOptions} {dependencies : ApplyProfileDependencies}
  {fields : List (String × Json)} {t : Trace} {e : Event Platform}
  {o : Outcome Failure ApplyResult} {l : List (String × Value)}

theorem soleProvider_none (h : soleProvider profile = .ok none) : profile.modelProviders = [] := by
  unfold soleProvider at h
  split at h
  · next hproviders => exact hproviders
  · cases h
  · cases h

/-- What is left to check once the provider is resolved are the channels. -/
theorem resolvable_of_resolved {provider : Option ModelProviderAttachment} {managementKey : String}
    {resolution : ProviderResolution} (hsole : soleProvider profile = .ok provider)
    (h : (resolveProvider provider (.obj fields) options.service managementKey).Exec t
      (.returned resolution)) (happliable : Appliable (.obj fields) profile.channels) :
    Resolvable profile (.obj fields) := by
  have hone : ∀ attachment name, profile.modelProviders = [attachment] →
      attachment.requiredSecretNames.head? = some name →
      ((Json.obj fields).get name ≠ .undefined ∨ attachment.keyProvisioning.isSome = true) →
      Resolvable profile (.obj fields) := by
    intro attachment name hproviders hname hfound
    refine ⟨?_, ?_, happliable⟩
    · rw [hproviders]
      exact le_refl 1
    · rw [hproviders]
      intro provider hprovider
      obtain rfl := List.mem_singleton.mp hprovider
      exact ⟨name, hname, hfound⟩
  rcases resolveProvider_cases h with ⟨rfl, -, -⟩ | ⟨attachment, value, rfl, -, hsecret, -⟩ |
    ⟨attachment, secretName, keyProvisioning, request, reply, minted, reply', rfl, -, -,
      hsecret, -, -⟩
  · have hproviders := soleProvider_none hsole
    refine ⟨?_, ?_, happliable⟩
    · rw [hproviders]
      exact Nat.zero_le 1
    · rw [hproviders]
      intro provider hprovider
      cases hprovider
  · obtain ⟨name, hname, -, hfound⟩ := providerSecret_stored hsecret
    exact hone attachment name (soleProvider_some hsole) hname (.inl hfound)
  · obtain ⟨hname, -, hprovisioning⟩ := providerSecret_toMint_iff.mp hsecret
    refine hone attachment secretName (soleProvider_some hsole) hname (.inr ?_)
    rw [hprovisioning]
    rfl

/-- **A run that gets as far as the request**: the profile is resolvable, and the
payload is assembled from it. -/
theorem setupRun_assembled [Zod] (hprofile : parseClientProfile candidateProfile = .ok profile)
    (h : (applyProfile rt fuel candidateProfile options dependencies).Exec t o)
    (hlists : Lists rt options.service (.obj fields) t) (he : e ∈ t)
    (hrun : IsSetupRun dependencies.setupApiClient e.call) :
    Resolvable profile (.obj fields) ∧ ∃ l, Assembled profile fields t l ∧
      e.call = .fetch (postRequest dependencies.setupApiClient "/setup/api/run" (objectOf l)) := by
  obtain ⟨t₁, t₂, rfl⟩ := List.append_of_mem he
  obtain ⟨profile', statusReply, status, listReply, existingVars, provider, resolution, ta, tb,
    hprofile', -, -, hprinted, hsole, rfl, hresolve, hchannels⟩ :=
    applyProfile_reaches (fun hp => hp.2 hrun) h
  obtain rfl : profile = profile' := Except.ok.inj (hprofile.symm.trans hprofile')
  obtain rfl : existingVars = .obj fields := hlists listReply existingVars (by simp) hprinted
  obtain ⟨filled, hfilled, -, hcall⟩ := applyChannels_request hrun hchannels
  have happliable : Appliable (.obj fields) profile.channels :=
    channelFields_ok_iff.mp ⟨filled, hfilled⟩
  rw [channelFields_eq hfilled] at hcall
  refine ⟨resolvable_of_resolved hsole hresolve happliable, ?_⟩
  rcases resolveProvider_cases hresolve with ⟨rfl, -, rfl⟩ |
    ⟨attachment, value, rfl, -, hsecret, rfl⟩ |
    ⟨attachment, secretName, keyProvisioning, request, reply, minted, reply', rfl, hmints, hminted,
      hsecret, rfl, rfl⟩
  · exact ⟨_, .channels (soleProvider_none hsole), hcall⟩
  · obtain ⟨name, hname, rfl, hfound⟩ := providerSecret_stored hsecret
    exact ⟨_, .stored (soleProvider_some hsole) hname hfound, hcall⟩
  · obtain ⟨hname, habsent, hprovisioning⟩ := providerSecret_toMint_iff.mp hsecret
    refine ⟨_, .minted (soleProvider_some hsole) hname habsent ?_
      ⟨request, reply, minted, ?_, hmints, hminted, rfl⟩, hcall⟩
    · rw [hprovisioning]
      rfl
    · exact List.mem_append_left _ (.tail _ (.tail _ (List.mem_append_left _ (.head _))))

/-- A payload is given exactly the members the profile asks for. -/
theorem Assembled.keys (h : Assembled profile fields t l)
    (hresolvable : Resolvable profile (.obj fields)) :
    l.map Prod.fst = payloadKeys profile := by
  have hchannels : (channelMembers fields profile.channels).map Prod.fst =
      channelKeys profile.channels := channelMembers_keys hresolvable.channels.counts
  cases h with
  | channels hproviders =>
      rw [hchannels, payloadKeys, hproviders]
      rfl
  | stored hproviders =>
      rw [List.map_append, providerFields_keys, hchannels, payloadKeys, hproviders,
        List.flatMap_singleton]
  | minted hproviders =>
      rw [List.map_append, providerFields_keys, hchannels, payloadKeys, hproviders,
        List.flatMap_singleton]

theorem Assembled.channels_subset (h : Assembled profile fields t l) :
    channelMembers fields profile.channels ⊆ l := by
  cases h with
  | channels => exact List.Subset.refl _
  | stored => exact List.subset_append_right _ _
  | minted => exact List.subset_append_right _ _

end Request

/-! ### Runs in which nothing fails -/

/-- Every call has succeeded: the variables are these, a key is minted when one is asked
for, and a response is good and, but for a health check, a document. -/
structure AllSucceed (rt : Runtime) (options : ApplyOptions) (existingVars : Json) (t : Trace) :
    Prop where
  listed : ∀ reply, ⟨.run (variableListArgs options.service) none, reply⟩ ∈ t →
    printed rt reply = .ok existingVars
  ran : ∀ args stdin reply, ⟨.run args stdin, reply⟩ ∈ t → ∃ out, reply = .ok out
  minted : ∀ request reply, ⟨.fetch request, reply⟩ ∈ t → Mints request →
    ∃ minted, mintedKey reply = .ok minted
  fetched : ∀ request reply, ⟨.fetch request, reply⟩ ∈ t → ∃ response, reply = .ok response ∧
    response.ok = true ∧
      (request ≠ healthRequest options.instanceBaseUrl → ∃ body, response.json = .ok body)

/-- The instance does not report configured when it is first asked. -/
def Unconfigured (client : SetupApiClient) (t : Trace) : Prop :=
  ∀ reply rest status, t = ⟨.fetch (getRequest client "/setup/api/status"), reply⟩ :: rest →
    settledJson "GET" "/setup/api/status" reply = .ok status → isConfigured status = false

section Succeeding

variable {rt : Runtime} {fuel : ℕ} {candidateProfile : Json} {profile : ClientProfile}
  {options : ApplyOptions} {dependencies : ApplyProfileDependencies} {existingVars : Json}
  {fields : List (String × Json)} {t t' : Trace} {o : Outcome Failure ApplyResult}

theorem AllSucceed.mono (h : AllSucceed rt options existingVars t) (hsub : t' ⊆ t) :
    AllSucceed rt options existingVars t' where
  listed reply hmem := h.listed reply (hsub hmem)
  ran args stdin reply hmem := h.ran args stdin reply (hsub hmem)
  minted request reply hmem := h.minted request reply (hsub hmem)
  fetched request reply hmem := h.fetched request reply (hsub hmem)

theorem AllSucceed.lists (h : AllSucceed rt options existingVars t) :
    Lists rt options.service existingVars t := by
  intro reply vars hmem hvars
  rw [h.listed reply hmem] at hvars
  exact (Except.ok.inj hvars).symm

/-- A response that is good and a document is read. -/
theorem AllSucceed.settledJson (h : AllSucceed rt options existingVars t) {request : FetchRequest}
    {reply : Except String Response} {method path : String}
    (hmem : ⟨.fetch request, reply⟩ ∈ t)
    (hhealth : request ≠ healthRequest options.instanceBaseUrl) :
    ∃ body, Setup.settledJson method path reply = .ok body := by
  obtain ⟨response, rfl, hok, hbody⟩ := h.fetched request reply hmem
  obtain ⟨body, hjson⟩ := hbody hhealth
  refine ⟨body, ?_⟩
  show (if response.ok = true then settled response.json else _) = _
  rw [if_pos hok, hjson]
  rfl

/-- A resolvable provider is resolved. -/
theorem resolveProvider_returns {provider : Option ModelProviderAttachment} {managementKey : String}
    {o : Outcome Failure ProviderResolution}
    (h : (resolveProvider provider (.obj fields) options.service managementKey).Exec t o)
    (hsucceed : AllSucceed rt options (.obj fields) t)
    (hprovider : ∀ attachment, provider = some attachment → ∃ name,
      attachment.requiredSecretNames.head? = some name ∧
        ((Json.obj fields).get name ≠ .undefined ∨ attachment.keyProvisioning.isSome = true)) :
    ∃ resolution, o = .returned resolution := by
  cases provider with
  | none => exact ⟨_, h.2⟩
  | some attachment =>
      obtain ⟨name, hname, hfound⟩ := hprovider attachment rfl
      simp only [resolveProvider, resolveProviderSecret, bind_assoc] at h
      rcases Prog.exec_ofExcept_bind.mp h with ⟨secret, hsecret, hrest⟩ | ⟨e, herror, -, -⟩
      · cases secret with
        | stored value => exact ⟨_, hrest.2⟩
        | toMint secretName keyProvisioning =>
            simp only [mintSecret, mintOpenRouterKey, writeRailwayVariable_eq, bind_assoc] at hrest
            rcases Prog.exec_ask_bind.mp hrest with ⟨reply, ta, minted, rfl, -, hwrite⟩ |
              ⟨reply, e, rfl, herror, -⟩
            · rcases Prog.exec_ask_bind.mp hwrite with ⟨reply', tb, -, -, -, hend⟩ |
                ⟨reply', e, rfl, herror, -⟩
              · exact ⟨_, hend.2⟩
              · obtain ⟨out, rfl⟩ := hsucceed.ran _ _ _ (.tail _ (.head _))
                cases herror
            · obtain ⟨minted, hminted⟩ := hsucceed.minted _ _ (.head _) ⟨rfl, rfl⟩
              rw [hminted] at herror
              cases herror
      · -- the secret is there or can be minted
        have hread : readMember (.obj fields) name = .ok ((Json.obj fields).get name) := rfl
        simp only [providerSecret, hname, hread, bind, Except.bind] at herror
        rcases hfound with hfound | hprovisioning
        · rw [isUndefined_eq_false_iff.mpr hfound] at herror
          cases herror
        · obtain ⟨keyProvisioning, hkey⟩ := Option.isSome_iff_exists.mp hprovisioning
          rw [hkey] at herror
          split at herror
          · cases herror
          · cases herror

/-- With a good health check a redeploy is waited out. -/
theorem settleRedeploy_returns {redeployTriggered : Bool} {o : Outcome Failure Unit}
    (hfuel : fuel ≠ 0) (h : (settleRedeploy fuel options redeployTriggered).Exec t o)
    (hsucceed : AllSucceed rt options existingVars t) : o = .returned () := by
  cases redeployTriggered with
  | false => exact h.2
  | true =>
      obtain ⟨time, rest, rfl, hrounds⟩ := Prog.exec_perform_bind.mp h
      cases fuel with
      | zero => exact absurd rfl hfuel
      | succ fuel =>
          rcases Prog.exec_ask_bind.mp hrounds with ⟨reply, ta, response, rfl, hsettled, hround⟩ |
            ⟨reply, e, rfl, herror, -⟩
          · obtain rfl := settled_eq_ok.mp hsettled
            obtain ⟨response', hresponse, hok, -⟩ := hsucceed.fetched _ _ (.tail _ (.head _))
            cases hresponse
            rw [if_pos hok] at hround
            exact hround.2
          · obtain ⟨response, rfl, -⟩ := hsucceed.fetched _ _ (.tail _ (.head _))
            cases herror

/-- The request is the first call once the channels are filled and the redeploy is over. -/
theorem setupRun_of_channels {resolution : ProviderResolution} (hfuel : fuel ≠ 0)
    (h : (applyChannels fuel profile (.obj fields) options dependencies.setupApiClient
      resolution).Exec t o)
    (hsucceed : AllSucceed rt options (.obj fields) t)
    (happliable : Appliable (.obj fields) profile.channels) :
    ∃ e ∈ t, IsSetupRun dependencies.setupApiClient e.call := by
  obtain ⟨filled, hfilled⟩ : ∃ filled,
      channelFields (.obj fields) options.service profile.channels = .ok filled :=
    channelFields_ok_iff.mpr happliable
  rcases Prog.exec_ofExcept_bind.mp h with ⟨_, -, hrest⟩ | ⟨e, herror, -, -⟩
  · rcases Prog.exec_bind.mp hrest with ⟨_, ta, tb, rfl, -, hrun⟩ | ⟨e, hthrew, -⟩ |
      ⟨hdiverged, -⟩
    · rcases Prog.exec_ask_bind.mp hrun with ⟨reply, tc, -, rfl, -⟩ | ⟨reply, e, rfl, -⟩
      · exact ⟨_, List.mem_append_right _ (.head _), _, rfl⟩
      · exact ⟨_, List.mem_append_right _ (.head _), _, rfl⟩
    · cases settleRedeploy_returns hfuel hthrew hsucceed
    · cases settleRedeploy_returns hfuel hdiverged hsucceed
  · rw [hfilled] at herror
    cases herror

theorem setupRun_of_listed (hfuel : fuel ≠ 0)
    (h : (applyAttachments fuel profile (.obj fields) options dependencies).Exec t o)
    (hsucceed : AllSucceed rt options (.obj fields) t)
    (hresolvable : Resolvable profile (.obj fields)) :
    ∃ e ∈ t, IsSetupRun dependencies.setupApiClient e.call := by
  rcases Prog.exec_ofExcept_bind.mp h with ⟨provider, hsole, hrest⟩ | ⟨e, herror, -, -⟩
  · have hprovider : ∀ attachment, provider = some attachment → ∃ name,
        attachment.requiredSecretNames.head? = some name ∧
          ((Json.obj fields).get name ≠ .undefined ∨
            attachment.keyProvisioning.isSome = true) := by
      rintro attachment rfl
      apply hresolvable.provider
      rw [soleProvider_some hsole]
      exact .head _
    rcases Prog.exec_bind.mp hrest with ⟨resolution, ta, tb, rfl, -, hchannels⟩ |
      ⟨e, hthrew, -⟩ | ⟨hdiverged, -⟩
    · obtain ⟨e, he, hrun⟩ := setupRun_of_channels hfuel hchannels
        (hsucceed.mono fun _ hmem => List.mem_append_right _ hmem) hresolvable.channels
      exact ⟨e, List.mem_append_right _ he, hrun⟩
    · obtain ⟨resolution, ho⟩ := resolveProvider_returns hthrew hsucceed hprovider
      cases ho
    · obtain ⟨resolution, ho⟩ := resolveProvider_returns hdiverged hsucceed hprovider
      cases ho
  · -- there is at most one provider
    have hsingle := hresolvable.single
    rw [soleProvider] at herror
    split at herror
    · cases herror
    · cases herror
    · next hnil hone =>
      cases hproviders : profile.modelProviders with
      | nil => exact absurd hproviders hnil
      | cons provider rest =>
          rw [hproviders] at hsingle
          obtain rfl : rest = [] := List.eq_nil_of_length_eq_zero (by simpa using hsingle)
          exact absurd hproviders (hone provider)

/-- **A resolvable profile gets as far as the request**, when nothing fails on the way. -/
theorem setupRun_of_resolvable [Zod] (hprofile : parseClientProfile candidateProfile = .ok profile)
    (hfuel : fuel ≠ 0)
    (h : (applyProfile rt fuel candidateProfile options dependencies).Exec t o)
    (hsucceed : AllSucceed rt options (.obj fields) t)
    (hunconfigured : Unconfigured dependencies.setupApiClient t)
    (hresolvable : Resolvable profile (.obj fields)) :
    ∃ e ∈ t, IsSetupRun dependencies.setupApiClient e.call := by
  rcases Prog.exec_ofExcept_bind.mp h with ⟨profile', hprofile', hstatus⟩ | ⟨e, herror, -, -⟩
  · obtain rfl : profile = profile' := Except.ok.inj (hprofile.symm.trans hprofile')
    rcases Prog.exec_ask_bind.mp hstatus with ⟨reply, ta, status, rfl, hsettled, hrest⟩ |
      ⟨reply, e, rfl, herror, -⟩
    · rw [if_neg (by simp [hunconfigured reply ta status rfl hsettled]),
        listRailwayVariables_eq] at hrest
      rcases Prog.exec_ask_bind.mp hrest with ⟨listed, tb, vars, rfl, hprinted, hattach⟩ |
        ⟨listed, e, rfl, herror, -⟩
      · have hlisted := hsucceed.listed listed (.tail _ (.head _))
        obtain rfl : vars = .obj fields := Except.ok.inj (hprinted.symm.trans hlisted)
        obtain ⟨e, he, hrun⟩ := setupRun_of_listed hfuel hattach
          (hsucceed.mono fun _ hmem => .tail _ (.tail _ hmem)) hresolvable
        exact ⟨e, .tail _ (.tail _ he), hrun⟩
      · rw [hsucceed.listed listed (.tail _ (.head _))] at herror
        cases herror
    · have hhealth : getRequest dependencies.setupApiClient "/setup/api/status" ≠
          healthRequest options.instanceBaseUrl := fun heq =>
        getStatus_prepares.1.1 (congrArg Call.fetch heq)
      obtain ⟨body, hbody⟩ : ∃ body, settledJson "GET" "/setup/api/status" reply = .ok body :=
        hsucceed.settledJson (.head _) hhealth
      rw [hbody] at herror
      cases herror
  · rw [hprofile] at herror
    cases herror

/-- Every call succeeds: the listing prints `text`, and the instance is not configured. -/
def obliging (service text : String) (s : Unit) : (c : Call) → c.Reply × Unit
  | .run args _ => (.ok (if args = variableListArgs service then text else ""), s)
  | .fetch request =>
    (.ok (if request.method = "POST" ∧ request.url = OPENROUTER_KEYS_URL then mintResponse
      else unconfiguredResponse), s)
  | c => (offline c, s)

section Obliging

variable {text : String} {α : Type} {p : Tool α}

theorem obliging_succeeds (htext : rt.jsonParse text = .ok existingVars) :
    AllSucceed rt options existingVars (p.play (obliging options.service text) ()).1 := by
  have hreplies := Prog.play_replies (I := Platform) (obliging options.service text) p ()
  refine ⟨?_, ?_, ?_, ?_⟩
  · intro reply hmem
    obtain ⟨_, hreply⟩ := hreplies _ hmem
    obtain rfl : reply = .ok text := hreply.trans (congrArg Except.ok (if_pos rfl))
    exact printed_eq_ok.mpr ⟨text, rfl, htext⟩
  · intro args stdin reply hmem
    obtain ⟨_, hreply⟩ := hreplies _ hmem
    exact ⟨_, hreply⟩
  · intro request reply hmem hmints
    obtain ⟨_, hreply⟩ := hreplies _ hmem
    obtain rfl : reply = .ok mintResponse := hreply.trans (congrArg Except.ok (if_pos hmints))
    exact ⟨_, mintResponse_key⟩
  · intro request reply hmem
    obtain ⟨_, hreply⟩ := hreplies _ hmem
    refine ⟨_, hreply, ?_, fun _ => ?_⟩
    · split_ifs <;> rfl
    · split_ifs
      · exact ⟨_, rfl⟩
      · exact ⟨_, rfl⟩

theorem obliging_unconfigured {client : SetupApiClient} {service : String} :
    Unconfigured client (p.play (obliging service text) ()).1 := by
  intro reply rest status ht hstatus
  have hmem : ⟨.fetch (getRequest client "/setup/api/status"), reply⟩ ∈
      (p.play (obliging service text) ()).1 := by
    rw [ht]
    exact .head _
  obtain ⟨_, hreply⟩ := Prog.play_replies (I := Platform) (obliging service text) p () _ hmem
  have hget : ¬ (getRequest client "/setup/api/status").method = "POST" := by
    show ¬ "GET" = "POST"
    decide
  obtain rfl : reply = .ok unconfiguredResponse :=
    hreply.trans (congrArg Except.ok (if_neg fun hmints => hget hmints.1))
  obtain rfl : Json.null = status := Except.ok.inj hstatus
  rfl

end Obliging

end Succeeding

/-! ### Faithful requests -/

/-- The members of a request that carries the secrets of the profile: each in its field,
as the service has it, or the key that was minted for the provider. -/
structure Faithful (profile : ClientProfile) (vars : List (String × String)) (t : Trace)
    (members : List (String × Json)) : Prop where
  keys : members.map Prod.fst = payloadKeys profile
  distinct : (members.map Prod.fst).Nodup
  authSecret : ∀ provider ∈ profile.modelProviders, ∃ name,
    provider.requiredSecretNames.head? = some name ∧
      ((∃ value, vars.lookup name = some value ∧
          members.lookup "authSecret" = some (.str value)) ∨
        vars.lookup name = none ∧ provider.keyProvisioning.isSome = true ∧
          ∃ key, MintedIn t key ∧ members.lookup "authSecret" = some (.str key))
  channels : ∀ channel ∈ profile.channels, List.Forall₂ (fun field name => ∃ value,
      vars.lookup name = some value ∧ members.lookup field.text = some (.str value))
    (channelPayloadFields channel.type) channel.requiredSecretNames

/-- A secret is neither a variable of the service nor one that is minted. -/
def Unresolved (profile : ClientProfile) (vars : List (String × String)) : Prop :=
  (∃ provider ∈ profile.modelProviders, provider.keyProvisioning = none ∧
    ∃ name, provider.requiredSecretNames.head? = some name ∧ vars.lookup name = none) ∨
  ∃ channel ∈ profile.channels, ∃ name ∈ channel.requiredSecretNames, vars.lookup name = none

/-- What a run does with the secrets: the request is faithful, and there is none when a
secret is unresolved. -/
structure ResolvesSecrets (client : SetupApiClient) (profile : ClientProfile)
    (vars : List (String × String)) (t : Trace) (o : Outcome Failure ApplyResult) : Prop where
  carries : ∀ e ∈ t, IsSetupRun client e.call → ∃ members, (∀ p ∈ members, Simple p.2) ∧
    e.call = .fetch (postRequest client "/setup/api/run" (.obj members)) ∧
      Faithful profile vars t members
  refuses : Unresolved profile vars → (∀ e ∈ t, ¬ IsSetupRun client e.call) ∧
    ((∃ e, o = .threw e) ∨ o = .returned ⟨.alreadyConfigured, none⟩)

/-- The profile is accepted with a name that only `Object.prototype` has. -/
def Misread (profile : ClientProfile) (vars : List (String × String))
    (fields : List (String × Json)) : Prop :=
  Resolvable profile (.obj fields) ∧ ∃ name ∈ neededNames profile, Collides vars name

section Resolves

variable {rt : Runtime} {fuel : ℕ} {candidateProfile : Json} {profile : ClientProfile}
  {options : ApplyOptions} {dependencies : ApplyProfileDependencies}
  {vars : List (String × String)} {fields : List (String × Json)} {t : Trace}
  {o : Outcome Failure ApplyResult} {l : List (String × Value)} {name : String}

theorem needed_of_provider {provider : ModelProviderAttachment}
    (hprovider : provider ∈ profile.modelProviders)
    (hname : provider.requiredSecretNames.head? = some name) : name ∈ neededNames profile := by
  refine List.mem_append_left _ (List.mem_flatMap.mpr ⟨provider, hprovider, ?_⟩)
  rw [hname]
  exact .head _

theorem needed_of_channel {channel : ChannelAttachment} (hchannel : channel ∈ profile.channels)
    (hname : name ∈ channel.requiredSecretNames) : name ∈ neededNames profile :=
  List.mem_append_right _ (List.mem_flatMap.mpr ⟨channel, hchannel, hname⟩)

theorem get_of_collides (hvars : ListsVariables vars fields) (hcollides : Collides vars name) :
    (Json.obj fields).get name = .inherited name := by
  have hfields : (Json.obj fields).fields.lookup name = none := by
    show fields.lookup name = _
    rw [hvars, hcollides.1]
    rfl
  rw [Json.get, hfields]
  exact if_pos hcollides.2

/-- What is found but not stored is what every object has. -/
theorem collides_of_found (hvars : ListsVariables vars fields) (habsent : vars.lookup name = none)
    (hfound : (Json.obj fields).get name ≠ .undefined) : Collides vars name := by
  refine ⟨habsent, ?_⟩
  by_contra hproto
  have hfields : (Json.obj fields).fields.lookup name = none := by
    show fields.lookup name = _
    rw [hvars, habsent]
    rfl
  rw [Json.get, hfields] at hfound
  exact hfound (if_neg hproto)

/-- Without a collision, what is found under a name is what the service has. -/
theorem stored_of_found (hvars : ListsVariables vars fields) (hcollides : ¬ Collides vars name)
    (hfound : (Json.obj fields).get name ≠ .undefined) :
    ∃ value, vars.lookup name = some value ∧ (Json.obj fields).get name = .json (.str value) := by
  cases hlookup : vars.lookup name with
  | some value => exact ⟨value, rfl, get_of_lookup hvars hlookup⟩
  | none => exact absurd (collides_of_found hvars hlookup hfound) hcollides

/-- What is found under a needed name: a string, or what every object has. -/
theorem value_of_needed (hvars : ListsVariables vars fields) (hname : name ∈ neededNames profile)
    (hfound : (Json.obj fields).get name ≠ .undefined) :
    (∃ s, (Json.obj fields).get name = .json (.str s)) ∨
      ∃ name' ∈ neededNames profile, Collides vars name' ∧
        (Json.obj fields).get name = .inherited name' := by
  by_cases hcollides : Collides vars name
  · exact .inr ⟨name, hname, hcollides, get_of_collides hvars hcollides⟩
  · obtain ⟨value, -, hget⟩ := stored_of_found hvars hcollides hfound
    exact .inl ⟨value, hget⟩

/-- The values of a payload: strings, and what every object has under the names that
collide. -/
theorem Assembled.values (h : Assembled profile fields t l) (hvars : ListsVariables vars fields)
    (hresolvable : Resolvable profile (.obj fields)) :
    ∀ p ∈ l, (∃ s, p.2 = .json (.str s)) ∨
      ∃ name ∈ neededNames profile, Collides vars name ∧ p.2 = .inherited name := by
  have hchannels : ∀ p ∈ channelMembers fields profile.channels, (∃ s, p.2 = .json (.str s)) ∨
      ∃ name ∈ neededNames profile, Collides vars name ∧ p.2 = .inherited name := by
    intro p hp
    obtain ⟨channel, hchannel, name, hname, field, -, rfl⟩ := mem_channelMembers hp
    exact value_of_needed hvars (needed_of_channel hchannel hname)
      (hresolvable.channels.secrets channel hchannel name hname)
  have hprovider : ∀ (provider : ModelProviderAttachment) (v : Value),
      ∀ p ∈ providerFields provider v, (∃ s, p.2 = .json (.str s)) ∨ p.2 = v := by
    intro provider v p hp
    unfold providerFields at hp
    rcases List.mem_append.mp hp with hp | hp
    · simp only [List.mem_cons, List.not_mem_nil, or_false] at hp
      rcases hp with rfl | rfl | rfl
      · exact .inl ⟨_, rfl⟩
      · exact .inl ⟨_, rfl⟩
      · exact .inr rfl
    · cases henv : provider.customProviderApiKeyEnv with
      | none =>
          rw [henv] at hp
          cases hp
      | some env =>
          rw [henv] at hp
          obtain rfl := List.mem_singleton.mp hp
          exact .inl ⟨_, rfl⟩
  cases h with
  | channels => exact hchannels
  | @stored provider name hproviders hname hfound =>
      have hmem : provider ∈ profile.modelProviders := by
        rw [hproviders]
        exact .head _
      intro p hp
      rcases List.mem_append.mp hp with hp | hp
      · rcases hprovider provider _ p hp with hstring | hsecret
        · exact .inl hstring
        · rw [hsecret]
          exact value_of_needed hvars (needed_of_provider hmem hname) hfound
      · exact hchannels p hp
  | @minted provider name key =>
      intro p hp
      rcases List.mem_append.mp hp with hp | hp
      · exact .inl ((hprovider provider _ p hp).elim id fun hsecret => ⟨key, hsecret⟩)
      · exact hchannels p hp

/-- A payload that is assembled without a collision consists of strings. -/
theorem Assembled.strings (h : Assembled profile fields t l) (hvars : ListsVariables vars fields)
    (hresolvable : Resolvable profile (.obj fields))
    (hcollides : ∀ name ∈ neededNames profile, ¬ Collides vars name) :
    ∀ p ∈ l, ∃ s, p.2 = .json (.str s) := by
  intro p hp
  rcases h.values hvars hresolvable p hp with hstring | ⟨name, hname, hcollision, -⟩
  · exact hstring
  · exact absurd hcollision (hcollides name hname)

/-- **A payload that is assembled without a collision is faithful.** -/
theorem Assembled.faithful (h : Assembled profile fields t l) (hvars : ListsVariables vars fields)
    (hresolvable : Resolvable profile (.obj fields))
    (hcollides : ∀ name ∈ neededNames profile, ¬ Collides vars name) :
    Faithful profile vars t (objectOf l).fields := by
  have hstrings := h.strings hvars hresolvable hcollides
  have hkeys := h.keys hresolvable
  have hnodup : (l.map Prod.fst).Nodup := by
    rw [hkeys]
    exact payloadKeys_nodup hresolvable.single hresolvable.channels.distinct
  have hobject : (objectOf l).fields.map Prod.fst = l.map Prod.fst :=
    objectOf_keys fun p hp => (hstrings p hp).elim fun s hs => .inl ⟨.str s, hs⟩
  refine ⟨hobject.trans hkeys, hobject ▸ hnodup, ?_, ?_⟩
  · intro provider hprovider
    have hsecret : ∀ v, ("authSecret", v) ∈
        providerFields provider v ++ channelMembers fields profile.channels := fun v =>
      List.mem_append_left _ (List.mem_append_left _ (.tail _ (.tail _ (.head _))))
    cases h with
    | channels hproviders =>
        rw [hproviders] at hprovider
        cases hprovider
    | @stored provider' name hproviders hname hfound =>
        obtain ⟨value, hlookup, hget⟩ := stored_of_found hvars
          (hcollides name (needed_of_provider (by rw [hproviders]; exact .head _) hname)) hfound
        rw [hproviders] at hprovider
        obtain rfl := List.mem_singleton.mp hprovider
        refine ⟨name, hname, .inl ⟨value, hlookup, lookup_objectOf hnodup ?_⟩⟩
        rw [← hget]
        exact hsecret _
    | @minted provider' name key hproviders hname habsent hprovisioning hkey =>
        rw [hproviders] at hprovider
        obtain rfl := List.mem_singleton.mp hprovider
        refine ⟨name, hname, .inr ⟨?_, hprovisioning, key, hkey,
          lookup_objectOf hnodup (hsecret _)⟩⟩
        cases hlookup : vars.lookup name with
        | none => rfl
        | some value =>
            rw [get_of_lookup hvars hlookup] at habsent
            cases habsent
  · intro channel hchannel
    have hlength := channelPayloadFields_length (hresolvable.channels.counts channel hchannel)
    refine List.forall₂_iff_zip.mpr ⟨hlength, fun {field name} hpair => ?_⟩
    obtain ⟨-, hname⟩ := List.of_mem_zip hpair
    obtain ⟨value, hlookup, hget⟩ := stored_of_found hvars
      (hcollides name (needed_of_channel hchannel hname))
      (hresolvable.channels.secrets channel hchannel name hname)
    refine ⟨value, hlookup, lookup_objectOf hnodup (h.channels_subset ?_)⟩
    refine List.mem_flatMap.mpr ⟨channel, hchannel, ?_⟩
    rw [← List.map_uncurry_zip_eq_zipWith, ← hget]
    exact List.mem_map.mpr ⟨(field, name), hpair, rfl⟩

/-- Resolving a provider ends. -/
theorem resolveProvider_ends {provider : Option ModelProviderAttachment} {existingVars : Json}
    {service managementKey : String} :
    (resolveProvider provider existingVars service managementKey).Ends (fun _ => True)
      fun _ => True := by
  cases provider with
  | none => trivial
  | some attachment =>
      refine Prog.Ends.bind (A := fun _ => True)
        (Prog.Ends.bind (A := fun _ => True) ?_ ?_) fun _ _ => trivial
      · exact Prog.ends_ofExcept (fun _ _ => trivial) fun _ _ => trivial
      · intro secret _
        cases secret with
        | stored value => trivial
        | toMint secretName keyProvisioning =>
            refine Prog.Ends.bind (A := fun _ => True)
              (Prog.ends_ask (fun _ _ _ => trivial) fun _ _ _ => trivial) fun minted _ => ?_
            rw [writeRailwayVariable_eq]
            exact Prog.Ends.bind (A := fun _ => True)
              (Prog.ends_ask (fun _ _ _ => trivial) fun _ _ _ => trivial) fun _ _ => trivial

/-- What is not resolvable is rejected before anything is waited for. -/
theorem applyAttachments_throws
    (h : (applyAttachments fuel profile (.obj fields) options dependencies).Exec t o)
    (hnot : ¬ Resolvable profile (.obj fields)) : ∃ e, o = .threw e := by
  rcases Prog.exec_ofExcept_bind.mp h with ⟨provider, hsole, hrest⟩ | ⟨e, -, -, ho⟩
  · rcases Prog.exec_bind.mp hrest with ⟨resolution, ta, tb, rfl, hresolve, hchannels⟩ |
      ⟨e, -, ho⟩ | ⟨hdiverged, -⟩
    · rcases Prog.exec_ofExcept_bind.mp hchannels with ⟨filled, hfilled, -⟩ | ⟨e, -, -, ho⟩
      · exact absurd (resolvable_of_resolved hsole hresolve
          (channelFields_ok_iff.mp ⟨filled, hfilled⟩)) hnot
      · exact ⟨e, ho⟩
    · exact ⟨e, ho⟩
    · rcases resolveProvider_ends.exec hdiverged with ⟨a, ho, -⟩ | ⟨e, ho, -⟩
      · cases ho
      · cases ho
  · exact ⟨e, ho⟩

/-- A run that is not resolvable throws, unless it finds the instance configured. -/
theorem not_resolvable_ends [Zod] (hprofile : parseClientProfile candidateProfile = .ok profile)
    (h : (applyProfile rt fuel candidateProfile options dependencies).Exec t o)
    (hlists : Lists rt options.service (.obj fields) t)
    (hnot : ¬ Resolvable profile (.obj fields)) :
    (∃ e, o = .threw e) ∨ o = .returned ⟨.alreadyConfigured, none⟩ := by
  rcases Prog.exec_ofExcept_bind.mp h with ⟨profile', hprofile', hstatus⟩ | ⟨e, -, -, ho⟩
  · obtain rfl : profile = profile' := Except.ok.inj (hprofile.symm.trans hprofile')
    rcases Prog.exec_ask_bind.mp hstatus with ⟨reply, ta, status, rfl, hsettled, hrest⟩ |
      ⟨reply, e, -, -, ho⟩
    · split at hrest
      · exact .inr hrest.2
      · refine .inl ?_
        rw [listRailwayVariables_eq] at hrest
        rcases Prog.exec_ask_bind.mp hrest with ⟨listed, tb, vars, rfl, hprinted, hattach⟩ |
          ⟨listed, e, -, -, ho⟩
        · obtain rfl : vars = .obj fields := hlists listed vars (by simp) hprinted
          exact applyAttachments_throws hattach hnot
        · exact ⟨e, ho⟩
    · exact .inl ⟨e, ho⟩
  · exact .inl ⟨e, ho⟩

/-- A request without a collision is faithful, and is not made when a secret is
unresolved. -/
theorem resolvesSecrets_of_not_misread [Zod]
    (hprofile : parseClientProfile candidateProfile = .ok profile)
    (hvars : ListsVariables vars fields)
    (h : (applyProfile rt fuel candidateProfile options dependencies).Exec t o)
    (hlists : Lists rt options.service (.obj fields) t) (hnot : ¬ Misread profile vars fields) :
    ResolvesSecrets dependencies.setupApiClient profile vars t o := by
  have hcollides : Resolvable profile (.obj fields) →
      ∀ name ∈ neededNames profile, ¬ Collides vars name :=
    fun hresolvable name hname hcollides => hnot ⟨hresolvable, name, hname, hcollides⟩
  -- what is resolvable without a collision has every secret, or mints it
  have hunresolved : Unresolved profile vars → ¬ Resolvable profile (.obj fields) := by
    rintro (⟨provider, hprovider, hnone, name, hname, habsent⟩ |
      ⟨channel, hchannel, name, hname, habsent⟩) hresolvable
    · obtain ⟨name', hname', hfound | hprovisioning⟩ := hresolvable.provider provider hprovider
      · obtain rfl : name = name' := Option.some.inj (hname.symm.trans hname')
        obtain ⟨value, hlookup, -⟩ := stored_of_found hvars
          (hcollides hresolvable name (needed_of_provider hprovider hname)) hfound
        rw [habsent] at hlookup
        cases hlookup
      · rw [hnone] at hprovisioning
        cases hprovisioning
    · obtain ⟨value, hlookup, -⟩ := stored_of_found hvars
        (hcollides hresolvable name (needed_of_channel hchannel hname))
        (hresolvable.channels.secrets channel hchannel name hname)
      rw [habsent] at hlookup
      cases hlookup
  constructor
  · intro e he hrun
    obtain ⟨hresolvable, l, hl, hcall⟩ := setupRun_assembled hprofile h hlists he hrun
    have hstrings := hl.strings hvars hresolvable (hcollides hresolvable)
    exact ⟨(objectOf l).fields, objectOf_simple fun p hp => .inl (hstrings p hp), hcall,
      hl.faithful hvars hresolvable (hcollides hresolvable)⟩
  · intro hmissing
    refine ⟨?_, not_resolvable_ends hprofile h hlists (hunresolved hmissing)⟩
    intro e he hrun
    exact hunresolved hmissing (setupRun_assembled hprofile h hlists he hrun).1

/-- Each of the right elements has a partner. -/
theorem paired_of_mem {α β : Type} {R : α → β → Prop} {as : List α} {bs : List β} {b : β}
    (h : List.Forall₂ R as bs) (hb : b ∈ bs) : ∃ a, R a b := by
  induction h with
  | nil => cases hb
  | @cons a b' as bs hfirst _ ih =>
      rcases List.mem_cons.mp hb with rfl | hb
      · exact ⟨a, hfirst⟩
      · exact ih hb

/-- A payload with a collision is not faithful. -/
theorem Assembled.not_faithful (h : Assembled profile fields t l)
    (hvars : ListsVariables vars fields) (hname : name ∈ neededNames profile)
    (hcollides : Collides vars name) : ¬ Faithful profile vars t (objectOf l).fields := by
  intro hfaithful
  rcases List.mem_append.mp hname with hprovider | hchannel
  · obtain ⟨provider, hprovider, hhead⟩ := List.mem_flatMap.mp hprovider
    have hfirst : provider.requiredSecretNames.head? = some name := Option.mem_toList.mp hhead
    obtain ⟨name', hname', ⟨value, hlookup, -⟩ | ⟨-, -, key, -, hsecret⟩⟩ :=
      hfaithful.authSecret provider hprovider
    · obtain rfl : name = name' := Option.some.inj (hfirst.symm.trans hname')
      rw [hcollides.1] at hlookup
      cases hlookup
    · -- what every object has is found, so no key was minted, and it is no string
      have hinherited := get_of_collides hvars hcollides
      have hone : ∀ other name', profile.modelProviders = [other] →
          other.requiredSecretNames.head? = some name' → other = provider ∧ name' = name := by
        intro other name' hproviders hother
        rw [hproviders] at hprovider
        obtain rfl := List.mem_singleton.mp hprovider
        exact ⟨rfl, Option.some.inj (hother.symm.trans hfirst)⟩
      have hmembers : ∀ p ∈ channelMembers fields profile.channels, p.1 ≠ "authSecret" := by
        intro p hp
        obtain ⟨channel, -, name, -, field, -, rfl⟩ := mem_channelMembers hp
        exact field_ne_authSecret field
      cases h with
      | channels hproviders =>
          rw [hproviders] at hprovider
          cases hprovider
      | stored hproviders hother hfound =>
          obtain ⟨rfl, rfl⟩ := hone _ _ hproviders hother
          rw [hinherited] at hsecret
          exact lookup_authSecret_inherited hmembers hsecret
      | minted hproviders hother habsent =>
          obtain ⟨rfl, rfl⟩ := hone _ _ hproviders hother
          rw [hinherited] at habsent
          cases habsent
  · obtain ⟨channel, hchannel, hmem⟩ := List.mem_flatMap.mp hchannel
    have hpaired := hfaithful.channels channel hchannel
    obtain ⟨field, value, hlookup, -⟩ := paired_of_mem hpaired hmem
    rw [hcollides.1] at hlookup
    cases hlookup

/-- The body of a request that is assembled says what was sent. -/
theorem Assembled.simple (h : Assembled profile fields t l) (hvars : ListsVariables vars fields)
    (hresolvable : Resolvable profile (.obj fields)) : ∀ p ∈ (objectOf l).fields, Simple p.2 :=
  objectOf_simple fun p hp => (h.values hvars hresolvable p hp).imp_right
    fun ⟨name, _, _, hinherited⟩ => ⟨name, hinherited⟩

/-- **When the secrets are resolved faithfully.**  For a profile and the variables of the
service, every run sends the stored secrets and refuses those that are missing, exactly
unless the profile is accepted with a name that only `Object.prototype` has. -/
theorem applyProfile_resolves_iff [Zod] {text : String}
    (hprofile : parseClientProfile candidateProfile = .ok profile)
    (htext : rt.jsonParse text = .ok (.obj fields)) (hvars : ListsVariables vars fields) :
    (∀ fuel t o, (applyProfile rt fuel candidateProfile options dependencies).Exec t o →
        Lists rt options.service (.obj fields) t →
        ResolvesSecrets dependencies.setupApiClient profile vars t o) ↔
      ¬ Misread profile vars fields := by
  constructor
  · rintro hresolves ⟨hresolvable, name, hname, hcollides⟩
    -- a run in which nothing fails makes the request
    have hexec := Prog.play_exec (I := Platform) (obliging options.service text)
      (applyProfile rt 1 candidateProfile options dependencies) ()
    have hsucceed : AllSucceed rt options (.obj fields)
        ((applyProfile rt 1 candidateProfile options dependencies).play
          (obliging options.service text) ()).1 := obliging_succeeds htext
    obtain ⟨e, he, hrun⟩ := setupRun_of_resolvable hprofile one_ne_zero hexec hsucceed
      obliging_unconfigured hresolvable
    obtain ⟨-, l, hl, hcall⟩ := setupRun_assembled hprofile hexec hsucceed.lists he hrun
    obtain ⟨members, hsimple, hsent, hfaithful⟩ :=
      (hresolves 1 _ _ hexec hsucceed.lists).carries e he hrun
    obtain rfl : members = (objectOf l).fields :=
      postRequest_injective hsimple (hl.simple hvars hresolvable) (hsent.symm.trans hcall)
    exact hl.not_faithful hvars hname hcollides hfaithful
  · intro hnot fuel t o hexec hlists
    exact resolvesSecrets_of_not_misread hprofile hvars hexec hlists hnot

end Resolves

/-! ### A name every object has -/

/-- A provider with its secret under this name. -/
def namedProvider (secretName : String) : Json :=
  .obj [("nonSecretConfig", .obj [("authGroup", .str "openai"),
      ("authChoice", .str "openai-api-key"), ("flow", .str "quickstart")]),
    ("requiredSecretNames", .arr [.str secretName])]

/-- A profile with such a provider. -/
def namedProfile (secretName : String) : Json :=
  .obj [("attachments", .obj [("modelProviders", .arr [namedProvider secretName])])]

/-- What it is parsed as. -/
def parsedProfile (secretName : String) : ClientProfile where
  modelProviders := [⟨"openai", "openai-api-key", .quickstart, none, none, [secretName]⟩]
  channels := []
  mcpServers := []

/-- The application of a profile whose secret is named `toString`. -/
def toStringRun : Trace × Outcome Failure ApplyResult :=
  (applyProfile setupRuntime 1 (namedProfile "toString") setupOptions setupDependencies).play
    (obliging "client" "\x7b\x7d") ()

/-- The request of that run: `authSecret` is a function, and is left out. -/
def toStringRequest : Event Platform where
  call := .fetch (postRequest setupDependencies.setupApiClient "/setup/api/run" (.obj
    [("authChoice", .str "openai-api-key"), ("flow", .str "quickstart")]))
  reply := .ok unconfiguredResponse

set_option maxRecDepth 2000 in
theorem toStringRun_trace : toStringRun.1 =
    [⟨.fetch (getRequest setupDependencies.setupApiClient "/setup/api/status"),
        .ok unconfiguredResponse⟩,
      ⟨.run (variableListArgs "client") none, .ok "\x7b\x7d"⟩, toStringRequest,
      ⟨.fetch (getRequest setupDependencies.setupApiClient "/setup/api/status"),
        .ok unconfiguredResponse⟩] := rfl

theorem listsVariables_nil : ListsVariables [] [] := fun _ => rfl

/-- **A secret that is not sent.**  The service has no variables, the profile asks for the
secret `toString`, and the instance is set up without one. -/
theorem toStringRun_not_resolved :
    (applyProfile setupRuntime 1 (namedProfile "toString") setupOptions setupDependencies).Exec
        toStringRun.1 toStringRun.2 ∧
      Lists setupRuntime setupOptions.service (.obj []) toStringRun.1 ∧
      ¬ ResolvesSecrets setupDependencies.setupApiClient (parsedProfile "toString") []
        toStringRun.1 toStringRun.2 := by
  have hsucceed : AllSucceed setupRuntime setupOptions (.obj []) toStringRun.1 :=
    obliging_succeeds rfl
  refine ⟨Prog.play_exec (I := Platform) _ _ (), hsucceed.lists, fun hresolves => ?_⟩
  have hmem : toStringRequest ∈ toStringRun.1 := by
    rw [toStringRun_trace]
    exact .tail _ (.tail _ (.head _))
  obtain ⟨members, hsimple, hsent, hfaithful⟩ := hresolves.carries _ hmem ⟨_, rfl⟩
  have hbody : ∀ p ∈ [("authChoice", Json.str "openai-api-key"), ("flow", .str "quickstart")],
      Simple p.2 := by
    intro p hp
    simp only [List.mem_cons, List.not_mem_nil, or_false] at hp
    rcases hp with rfl | rfl
    · exact .str
    · exact .str
  obtain rfl := postRequest_injective hsimple hbody hsent.symm
  exact absurd hfaithful.keys (by decide)

/-! ### A profile whose secrets are stored -/

/-- A provider and a channel. -/
def chattingProfile : Json :=
  .obj [("attachments", .obj [("modelProviders", .arr [namedProvider "OPENAI_API_KEY"]),
    ("channels", .arr [.obj [("type", .str "telegram"),
      ("requiredSecretNames", .arr [.str "TELEGRAM_BOT_TOKEN"])]])])]

/-- What it is parsed as. -/
def chattingParsed : ClientProfile where
  modelProviders := [⟨"openai", "openai-api-key", .quickstart, none, none, ["OPENAI_API_KEY"]⟩]
  channels := [⟨"telegram", ["TELEGRAM_BOT_TOKEN"]⟩]
  mcpServers := []

/-- The variables of the service. -/
def chattingVars : List (String × String) :=
  [("OPENAI_API_KEY", "sk-openai"), ("TELEGRAM_BOT_TOKEN", "123:abc")]

/-- The document that lists them. -/
def chattingFields : List (String × Json) :=
  [("OPENAI_API_KEY", .str "sk-openai"), ("TELEGRAM_BOT_TOKEN", .str "123:abc")]

/-- What `variable list` prints then. -/
def chattingText : String :=
  "\x7b\"OPENAI_API_KEY\":\"sk-openai\",\"TELEGRAM_BOT_TOKEN\":\"123:abc\"\x7d"

/-- A runtime that parses this listing. -/
def chattingRuntime : Runtime where
  jsonParse text := if text = chattingText then .ok (.obj chattingFields)
    else .error "Unexpected token"
  compileRegExp _ := none
  utf8Decode _ := ""
  hmacSha256Hex _ _ := ""

/-- An application where every call succeeds. -/
def chattingRun : Trace × Outcome Failure ApplyResult :=
  (applyProfile chattingRuntime 1 chattingProfile setupOptions setupDependencies).play
    (obliging "client" chattingText) ()

/-- Its request carries both secrets. -/
def chattingRequest : Event Platform where
  call := .fetch (postRequest setupDependencies.setupApiClient "/setup/api/run" (.obj
    [("authChoice", .str "openai-api-key"), ("flow", .str "quickstart"),
      ("authSecret", .str "sk-openai"), ("telegramToken", .str "123:abc")]))
  reply := .ok unconfiguredResponse

set_option maxRecDepth 4000 in
theorem chattingRun_trace : chattingRun.1 =
    [⟨.fetch (getRequest setupDependencies.setupApiClient "/setup/api/status"),
        .ok unconfiguredResponse⟩,
      ⟨.run (variableListArgs "client") none, .ok chattingText⟩, chattingRequest,
      ⟨.fetch (getRequest setupDependencies.setupApiClient "/setup/api/status"),
        .ok unconfiguredResponse⟩] := rfl

theorem chattingVars_listed : ListsVariables chattingVars chattingFields := by
  intro name
  rw [chattingVars, chattingFields, List.lookup_cons, List.lookup_cons, List.lookup_cons,
    List.lookup_cons]
  cases name == "OPENAI_API_KEY" with
  | true => rfl
  | false =>
      cases name == "TELEGRAM_BOT_TOKEN" with
      | true => rfl
      | false => rfl

/-- Both secrets are stored, and the run sends them. -/
theorem openAiProfile_resolves :
    ¬ Misread chattingParsed chattingVars chattingFields ∧ chattingRequest ∈ chattingRun.1 ∧
      ResolvesSecrets setupDependencies.setupApiClient chattingParsed chattingVars
        chattingRun.1 chattingRun.2 := by
  have hparsed : parseClientProfile chattingProfile = .ok chattingParsed := rfl
  have htext : chattingRuntime.jsonParse chattingText = .ok (.obj chattingFields) := by
    simp [chattingRuntime]
  have hread : ¬ Misread chattingParsed chattingVars chattingFields := by
    rintro ⟨-, name, hname, hnone, -⟩
    have hnames : neededNames chattingParsed = ["OPENAI_API_KEY", "TELEGRAM_BOT_TOKEN"] := rfl
    rw [hnames] at hname
    simp only [List.mem_cons, List.not_mem_nil, or_false] at hname
    rcases hname with rfl | rfl
    · cases hnone
    · cases hnone
  have hsucceed : AllSucceed chattingRuntime setupOptions (.obj chattingFields) chattingRun.1 :=
    obliging_succeeds htext
  refine ⟨hread, ?_, ?_⟩
  · rw [chattingRun_trace]
    exact .tail _ (.tail _ (.head _))
  · exact (applyProfile_resolves_iff hparsed htext chattingVars_listed).mpr hread 1 _ _
      (Prog.play_exec (I := Platform) _ _ ()) hsucceed.lists

end Setup
