/-
ControlPlane/Setup/DryRun.lean

The dry run of a profile (`dryRunApplyProfile`) and what it foretells.

The dry run lists the variables, says of every secret the profile names whether the
service has it, and previews the payload.  It is to accept exactly the profiles that
`applyProfile` gets as far as the request with.  `Previewable` says in terms of the
profile and the variables what it accepts (`dryRun_accepts_iff`), as `Resolvable`
does for `applyProfile`.  The two differ in five ways, which `Differs` lists, and
`dryRun_agrees_iff` shows that there are no others.
-/
import ControlPlane.Setup.Resolution

namespace Setup

open Js Railway Interaction

/-! ### The dry run -/

/-- The service a dry run is about. -/
structure DryRunOptions where
  service : String

/-- A secret, and whether it is there. -/
structure DryRunSecretStatus where
  name : String
  present : Bool

/-- What a provider would contribute, without its secret. -/
structure ProviderPreview where
  authChoice : String
  flow : String
  authSecret : String

/-- The payload without its secrets. -/
structure DryRunPayloadPreview where
  providers : List ProviderPreview
  channels : List (ChannelPayloadField × String)

/-- What a dry run returns. -/
structure DryRunResult where
  requiredSecrets : List DryRunSecretStatus
  payloadPreview : DryRunPayloadPreview

/-- What stands for a secret. -/
def redacted : String := "<redacted>"

/-- `names.add(name)`. -/
def addName (names : List String) (name : String) : List String :=
  if name ∈ names then names else names ++ [name]

/-- The names of all secrets, each once. -/
def collectRequiredSecretNames (profile : ClientProfile) : List String :=
  let names := profile.modelProviders.foldl
    (fun names provider => provider.requiredSecretNames.foldl addName names) []
  profile.channels.foldl
    (fun names channel => channel.requiredSecretNames.foldl addName names) names

/-- `Object.prototype.hasOwnProperty.call(variables, name)`. -/
def hasOwnProperty (vars : Json) (name : String) : Except Failure Bool :=
  match vars with
  | .null => .error (thrown "Cannot convert undefined or null to object")
  | vars => .ok (vars.hasOwn name)

/-- Of each name whether the service has the secret. -/
def secretStatuses (vars : Json) : List String → Except Failure (List DryRunSecretStatus)
  | [] => .ok []
  | name :: rest => do
    let present ← hasOwnProperty vars name
    let others ← secretStatuses vars rest
    .ok (⟨name, present⟩ :: others)

/-- The payload a profile would make, without its secrets. -/
def buildRedactedPayloadPreview (profile : ClientProfile) :
    Except Failure DryRunPayloadPreview := do
  let mappings ← mapChannelsToPayloadFields profile.channels
  .ok ⟨profile.modelProviders.map fun provider =>
      ⟨provider.authChoice, provider.flow.text, redacted⟩,
    -- no field comes twice, so none is assigned to again
    mappings.map fun mapping => (mapping.field, redacted)⟩

/-- Preview a profile without changing anything. -/
def dryRunApplyProfile [Zod] (rt : Runtime) (candidateProfile : Json) (options : DryRunOptions) :
    Tool DryRunResult := do
  let profile ← Prog.ofExcept (parseClientProfile candidateProfile)
  let vars ← listRailwayVariables rt options.service
  let requiredSecrets ←
    Prog.ofExcept (secretStatuses vars (collectRequiredSecretNames profile))
  let payloadPreview ← Prog.ofExcept (buildRedactedPayloadPreview profile)
  pure ⟨requiredSecrets, payloadPreview⟩

/-! ### What it accepts -/

/-- The names of all secrets of a profile. -/
def requiredNames (profile : ClientProfile) : List String :=
  profile.modelProviders.flatMap ModelProviderAttachment.requiredSecretNames ++
    profile.channels.flatMap ChannelAttachment.requiredSecretNames

/-- The secret is the provider's, and is to be minted when it is not there. -/
def Provisioned (profile : ClientProfile) (name : String) : Prop :=
  ∃ provider ∈ profile.modelProviders, provider.requiredSecretNames.head? = some name ∧
    provider.keyProvisioning.isSome = true

/-- Every secret that is reported is present or is to be minted. -/
def DryRunResult.Met (result : DryRunResult) (profile : ClientProfile) : Prop :=
  ∀ secret ∈ result.requiredSecrets, secret.present = true ∨ Provisioned profile secret.name

/-- The members the preview shows. -/
def DryRunPayloadPreview.keys (preview : DryRunPayloadPreview) : List String :=
  preview.providers.flatMap (fun _ => ["authChoice", "flow", "authSecret"]) ++
    preview.channels.map fun p => p.1.text

/-- The channels fit the payload, and every secret of the profile is a variable of the
service or is to be minted. -/
structure Previewable (profile : ClientProfile) (vars : List (String × String)) : Prop where
  counts : ∀ channel ∈ profile.channels,
    CHANNEL_SECRET_COUNTS.lookup channel.type = some channel.requiredSecretNames.length
  distinct : (profile.channels.map ChannelAttachment.type).Nodup
  met : ∀ name ∈ requiredNames profile, vars.lookup name ≠ none ∨ Provisioned profile name

section DryRun

variable {rt : Runtime} {candidateProfile : Json} {profile : ClientProfile} {options : ApplyOptions}
  {vars : List (String × String)} {fields : List (String × Json)} {t : Trace}
  {o : Outcome Failure DryRunResult} {name : String}

theorem mem_addName {names : List String} {other : String} :
    name ∈ addName names other ↔ name ∈ names ∨ name = other := by
  unfold addName
  split_ifs with hmem
  · constructor
    · exact .inl
    · rintro (h | rfl)
      · exact h
      · exact hmem
  · rw [List.mem_append, List.mem_singleton]

theorem mem_foldl_addName {names more : List String} :
    name ∈ more.foldl addName names ↔ name ∈ names ∨ name ∈ more := by
  induction more generalizing names with
  | nil => simp
  | cons other more ih => rw [List.foldl_cons, ih, mem_addName, List.mem_cons, or_assoc]

/-- A set that is filled from several lists. -/
theorem mem_foldl_foldl {α : Type} {names : List String} {secrets : α → List String} {l : List α} :
    name ∈ l.foldl (fun names a => (secrets a).foldl addName names) names ↔
      name ∈ names ∨ name ∈ l.flatMap secrets := by
  induction l generalizing names with
  | nil => simp
  | cons a l ih =>
      rw [List.foldl_cons, ih, mem_foldl_addName, List.flatMap_cons, List.mem_append, or_assoc]

theorem mem_collectRequiredSecretNames :
    name ∈ collectRequiredSecretNames profile ↔ name ∈ requiredNames profile := by
  unfold collectRequiredSecretNames requiredNames
  rw [mem_foldl_foldl, mem_foldl_foldl, List.mem_append]
  simp only [List.not_mem_nil, false_or]

theorem secretStatuses_obj (names : List String) :
    secretStatuses (.obj fields) names =
      .ok (names.map fun name => ⟨name, (Json.obj fields).hasOwn name⟩) := by
  induction names with
  | nil => rfl
  | cons name names ih =>
      rw [secretStatuses, ih]
      rfl

theorem hasOwn_iff (hvars : ListsVariables vars fields) :
    (Json.obj fields).hasOwn name = true ↔ vars.lookup name ≠ none := by
  show (fields.lookup name).isSome = true ↔ _
  rw [hvars, Option.isSome_map, Option.isSome_iff_ne_none]

/-- A dry run in which nothing fails reports every secret, and previews the payload when
the channels fit it. -/
theorem dryRun_outcome [Zod] (hprofile : parseClientProfile candidateProfile = .ok profile)
    (h : (dryRunApplyProfile rt candidateProfile ⟨options.service⟩).Exec t o)
    (hsucceed : AllSucceed rt options (.obj fields) t) :
    (∃ preview, buildRedactedPayloadPreview profile = .ok preview ∧
      o = .returned ⟨(collectRequiredSecretNames profile).map fun name =>
        ⟨name, (Json.obj fields).hasOwn name⟩, preview⟩) ∨
    ∃ e, buildRedactedPayloadPreview profile = .error e ∧ o = .threw e := by
  rcases Prog.exec_ofExcept_bind.mp h with ⟨profile', hprofile', hrest⟩ | ⟨e, herror, -, -⟩
  · obtain rfl : profile = profile' := Except.ok.inj (hprofile.symm.trans hprofile')
    rw [listRailwayVariables_eq] at hrest
    rcases Prog.exec_ask_bind.mp hrest with ⟨listed, ta, existingVars, rfl, hprinted, hnames⟩ |
      ⟨listed, e, rfl, herror, -⟩
    · have hlisted := hsucceed.listed listed (.head _)
      obtain rfl : existingVars = .obj fields := Except.ok.inj (hprinted.symm.trans hlisted)
      rw [secretStatuses_obj] at hnames
      rcases Prog.exec_ofExcept_bind.mp hnames with ⟨statuses, hstatuses, hpreview⟩ |
        ⟨e, herror, -, -⟩
      · obtain rfl := Except.ok.inj hstatuses
        rcases Prog.exec_ofExcept_bind.mp hpreview with ⟨preview, hbuilt, -, ho⟩ |
          ⟨e, hbuilt, -, ho⟩
        · exact .inl ⟨preview, hbuilt, ho⟩
        · exact .inr ⟨e, hbuilt, ho⟩
      · cases herror
    · rw [hsucceed.listed listed (.head _)] at herror
      cases herror
  · rw [hprofile] at herror
    cases herror

theorem buildRedactedPayloadPreview_ok_iff :
    (∃ preview, buildRedactedPayloadPreview profile = .ok preview) ↔
      (∀ channel ∈ profile.channels,
        CHANNEL_SECRET_COUNTS.lookup channel.type = some channel.requiredSecretNames.length) ∧
      (profile.channels.map ChannelAttachment.type).Nodup := by
  have hmap : (∃ mappings, mapChannelsToPayloadFields profile.channels = .ok mappings) ↔ _ :=
    mapChannelsFrom_ok_iff
  have hempty : ∀ channel ∈ profile.channels, channel.type ∉ ([] : List String) :=
    fun _ _ => List.not_mem_nil
  rw [and_iff_left hempty] at hmap
  rw [← hmap]
  unfold buildRedactedPayloadPreview
  cases mapChannelsToPayloadFields profile.channels with
  | error e =>
      constructor
      · rintro ⟨preview, h⟩
        cases h
      · rintro ⟨mappings, h⟩
        cases h
  | ok mappings => exact ⟨fun _ => ⟨mappings, rfl⟩, fun _ => ⟨_, rfl⟩⟩

/-- **What the dry run accepts.** -/
theorem dryRun_accepts_iff [Zod] (hprofile : parseClientProfile candidateProfile = .ok profile)
    (hvars : ListsVariables vars fields)
    (h : (dryRunApplyProfile rt candidateProfile ⟨options.service⟩).Exec t o)
    (hsucceed : AllSucceed rt options (.obj fields) t) :
    (∃ result, o = .returned result ∧ result.Met profile) ↔ Previewable profile vars := by
  rcases dryRun_outcome hprofile h hsucceed with ⟨preview, hbuilt, rfl⟩ | ⟨e, hbuilt, rfl⟩
  · obtain ⟨hcounts, hdistinct⟩ := buildRedactedPayloadPreview_ok_iff.mp ⟨preview, hbuilt⟩
    constructor
    · rintro ⟨result, hreturned, hmet⟩
      obtain rfl := Outcome.returned.inj hreturned
      refine ⟨hcounts, hdistinct, fun name hname => ?_⟩
      have hreported := hmet ⟨name, (Json.obj fields).hasOwn name⟩
        (List.mem_map.mpr ⟨name, mem_collectRequiredSecretNames.mpr hname, rfl⟩)
      exact hreported.imp_left (hasOwn_iff hvars).mp
    · intro hpreviewable
      refine ⟨_, rfl, fun secret hsecret => ?_⟩
      obtain ⟨name, hname, rfl⟩ := List.mem_map.mp hsecret
      exact (hpreviewable.met name (mem_collectRequiredSecretNames.mp hname)).imp_left
        (hasOwn_iff hvars).mpr
  · constructor
    · rintro ⟨result, hreturned, -⟩
      cases hreturned
    · intro hpreviewable
      obtain ⟨preview, hok⟩ := buildRedactedPayloadPreview_ok_iff.mpr
        ⟨hpreviewable.counts, hpreviewable.distinct⟩
      rw [hbuilt] at hok
      cases hok

/-- The preview shows the members the profile asks for, but for the name of an environment
variable. -/
theorem mem_preview_keys {preview : DryRunPayloadPreview} {key : String}
    (h : buildRedactedPayloadPreview profile = .ok preview) :
    key ∈ preview.keys ↔ key ∈ payloadKeys profile ∧ key ≠ "customProviderApiKeyEnv" := by
  cases hmappings : mapChannelsToPayloadFields profile.channels with
  | error e =>
      rw [buildRedactedPayloadPreview, hmappings] at h
      cases h
  | ok mappings =>
      rw [buildRedactedPayloadPreview, hmappings] at h
      obtain rfl := Except.ok.inj h
      obtain ⟨hcounts, -⟩ := mapChannelsFrom_ok_iff.mp ⟨mappings, hmappings⟩
      have hmembers : (channelMembers [] profile.channels).map Prod.fst =
          channelKeys profile.channels := channelMembers_keys hcounts
      have hchannels : (mappings.map fun mapping => (mapping.field, redacted)).map
          (fun p => p.1.text) = channelKeys profile.channels := by
        rw [← hmembers, ← mappings_members hmappings, List.map_map, List.map_map]
        rfl
      -- the environment variable is no member of a channel
      have hfield : ∀ key ∈ channelKeys profile.channels, key ≠ "customProviderApiKeyEnv" := by
        intro key hkey
        obtain ⟨channel, -, htext⟩ := List.mem_flatMap.mp hkey
        obtain ⟨field, -, rfl⟩ := List.mem_map.mp htext
        cases field <;> decide
      have hprovider : ∀ provider : ModelProviderAttachment,
          key ∈ ["authChoice", "flow", "authSecret"] ↔
            key ∈ providerKeys provider ∧ key ≠ "customProviderApiKeyEnv" := by
        intro provider
        unfold providerKeys
        constructor
        · intro hkey
          refine ⟨List.mem_append_left _ hkey, ?_⟩
          rintro rfl
          exact absurd hkey (by decide)
        · rintro ⟨hkey, hne⟩
          rcases List.mem_append.mp hkey with hkey | hkey
          · exact hkey
          · obtain ⟨env, -, rfl⟩ := List.mem_map.mp hkey
            exact absurd rfl hne
      unfold DryRunPayloadPreview.keys payloadKeys
      rw [hchannels, List.flatMap_map, List.mem_append, List.mem_append, List.mem_flatMap,
        List.mem_flatMap, or_and_right]
      refine or_congr ?_ (and_iff_left_of_imp (hfield key)).symm
      constructor
      · rintro ⟨provider, hmem, hkey⟩
        obtain ⟨hkey, hne⟩ := (hprovider provider).mp hkey
        exact ⟨⟨provider, hmem, hkey⟩, hne⟩
      · rintro ⟨⟨provider, hmem, hkey⟩, hne⟩
        exact ⟨provider, hmem, (hprovider provider).mpr ⟨hkey, hne⟩⟩

end DryRun

/-! ### Agreement -/

/-- The dry run accepts what `applyProfile` makes the request for, and previews the
members it sends. -/
structure Agrees (client : SetupApiClient) (profile : ClientProfile) (t : Trace)
    (o : Outcome Failure DryRunResult) : Prop where
  reaches : (∃ e ∈ t, IsSetupRun client e.call) ↔
    ∃ result, o = .returned result ∧ result.Met profile
  sends : ∀ e ∈ t, IsSetupRun client e.call → ∀ result, o = .returned result →
    result.Met profile → ∃ members, (∀ p ∈ members, Simple p.2) ∧
      e.call = .fetch (postRequest client "/setup/api/run" (.obj members)) ∧
      ∀ key, key ∈ result.payloadPreview.keys ↔
        key ∈ members.map Prod.fst ∧ key ≠ "customProviderApiKeyEnv"

/-- The ways in which the two differ. -/
inductive Differs (profile : ClientProfile) (vars : List (String × String))
    (fields : List (String × Json)) : Prop
  /-- the dry run accepts several providers -/
  | several (hpreviewable : Previewable profile vars) (h : 1 < profile.modelProviders.length)
  /-- it accepts a provider without a secret -/
  | nameless (hpreviewable : Previewable profile vars) {provider : ModelProviderAttachment}
      (hprovider : provider ∈ profile.modelProviders) (h : provider.requiredSecretNames = [])
  /-- it counts a channel's secret as one to be minted -/
  | shared (hpreviewable : Previewable profile vars) {channel : ChannelAttachment}
      (hchannel : channel ∈ profile.channels) {name : String}
      (hname : name ∈ channel.requiredSecretNames)
      (h : (Json.obj fields).get name = .undefined)
  /-- it asks for the second secret of a provider, too -/
  | later (hresolvable : Resolvable profile (.obj fields)) {provider : ModelProviderAttachment}
      (hprovider : provider ∈ profile.modelProviders) {name : String}
      (hname : name ∈ provider.requiredSecretNames.tail) (habsent : vars.lookup name = none)
      (h : ¬ Provisioned profile name)
  /-- it does not take what every object has for a variable -/
  | inherited (hresolvable : Resolvable profile (.obj fields)) {name : String}
      (hname : name ∈ neededNames profile) (hcollides : Collides vars name)
      (h : name ≠ "__proto__" ∨ ¬ Provisioned profile name)

section Agrees

variable {rt : Runtime} {fuel : ℕ} {candidateProfile : Json} {profile : ClientProfile}
  {options : ApplyOptions} {dependencies : ApplyProfileDependencies}
  {vars : List (String × String)} {fields : List (String × Json)} {t t' : Trace}
  {o : Outcome Failure ApplyResult} {o' : Outcome Failure DryRunResult}
  {l : List (String × Value)} {name : String}

/-- The first names of the providers and those after it. -/
theorem mem_requiredNames (h : name ∈ requiredNames profile) : name ∈ neededNames profile ∨
    ∃ provider ∈ profile.modelProviders, name ∈ provider.requiredSecretNames.tail := by
  rcases List.mem_append.mp h with hprovider | hchannel
  · obtain ⟨provider, hprovider, hname⟩ := List.mem_flatMap.mp hprovider
    cases hnames : provider.requiredSecretNames with
    | nil =>
        rw [hnames] at hname
        cases hname
    | cons first rest =>
        rw [hnames] at hname
        rcases List.mem_cons.mp hname with rfl | hrest
        · exact .inl (needed_of_provider hprovider (by rw [hnames]; rfl))
        · refine .inr ⟨provider, hprovider, ?_⟩
          rw [hnames]
          exact hrest
  · exact .inl (List.mem_append_right _ hchannel)

theorem needed_subset_required (h : name ∈ neededNames profile) : name ∈ requiredNames profile := by
  rcases List.mem_append.mp h with hprovider | hchannel
  · obtain ⟨provider, hprovider, hhead⟩ := List.mem_flatMap.mp hprovider
    exact List.mem_append_left _ (List.mem_flatMap.mpr
      ⟨provider, hprovider, List.mem_of_mem_head? (Option.mem_toList.mp hhead)⟩)
  · exact List.mem_append_right _ hchannel

/-- A name that is needed is found, or the provider's to be minted. -/
theorem found_of_resolvable (hresolvable : Resolvable profile (.obj fields))
    (hname : name ∈ neededNames profile) :
    (Json.obj fields).get name ≠ .undefined ∨ Provisioned profile name := by
  rcases List.mem_append.mp hname with hprovider | hchannel
  · obtain ⟨provider, hprovider, hhead⟩ := List.mem_flatMap.mp hprovider
    have hfirst : provider.requiredSecretNames.head? = some name := Option.mem_toList.mp hhead
    obtain ⟨name', hname', hfound⟩ := hresolvable.provider provider hprovider
    obtain rfl : name = name' := Option.some.inj (hfirst.symm.trans hname')
    exact hfound.imp_right fun hprovisioning => ⟨provider, hprovider, hfirst, hprovisioning⟩
  · obtain ⟨channel, hchannel, hmem⟩ := List.mem_flatMap.mp hchannel
    exact .inl (hresolvable.channels.secrets channel hchannel name hmem)

/-- What is resolvable is previewed, unless a later secret is missing or a name collides. -/
theorem previewable_of_resolvable (hvars : ListsVariables vars fields)
    (hnot : ¬ Differs profile vars fields) (hresolvable : Resolvable profile (.obj fields)) :
    Previewable profile vars := by
  refine ⟨hresolvable.channels.counts, hresolvable.channels.distinct, fun name hname => ?_⟩
  by_cases habsent : vars.lookup name = none
  · by_cases hprovisioned : Provisioned profile name
    · exact .inr hprovisioned
    · rcases mem_requiredNames hname with hneeded | ⟨provider, hprovider, htail⟩
      · rcases found_of_resolvable hresolvable hneeded with hfound | hmint
        · exact absurd (.inherited hresolvable hneeded (collides_of_found hvars habsent hfound)
            (.inr hprovisioned)) hnot
        · exact .inr hmint
      · exact absurd (.later hresolvable hprovider htail habsent hprovisioned) hnot
  · exact .inl habsent

/-- What is previewed is resolvable, unless the payload has no place for it. -/
theorem resolvable_of_previewable (hvars : ListsVariables vars fields)
    (hnot : ¬ Differs profile vars fields) (hpreviewable : Previewable profile vars) :
    Resolvable profile (.obj fields) := by
  have hsingle : profile.modelProviders.length ≤ 1 := by
    by_contra hseveral
    exact hnot (.several hpreviewable (not_le.mp hseveral))
  refine ⟨hsingle, fun provider hprovider => ?_, hpreviewable.counts, hpreviewable.distinct, ?_⟩
  · cases hnames : provider.requiredSecretNames with
    | nil => exact absurd (.nameless hpreviewable hprovider hnames) hnot
    | cons name rest =>
        have hname : name ∈ requiredNames profile := by
          refine List.mem_append_left _ (List.mem_flatMap.mpr ⟨provider, hprovider, ?_⟩)
          rw [hnames]
          exact .head _
        refine ⟨name, rfl, ?_⟩
        rcases hpreviewable.met name hname with hstored | ⟨other, hother, -, hprovisioning⟩
        · obtain ⟨value, hlookup⟩ := Option.ne_none_iff_exists'.mp hstored
          refine .inl ?_
          rw [get_of_lookup hvars hlookup]
          exact Value.noConfusion
        · -- there is only one provider, so it is this one that mints
          obtain ⟨first, hfirst⟩ := List.length_eq_one_iff.mp
            (le_antisymm hsingle (List.length_pos_of_mem hprovider))
          rw [hfirst] at hprovider hother
          rw [List.mem_singleton.mp hprovider, ← List.mem_singleton.mp hother]
          exact .inr hprovisioning
  · intro channel hchannel name hname hundefined
    exact hnot (.shared hpreviewable hchannel hname hundefined)

/-- Unless a name collides, every member the profile asks for is sent. -/
theorem Assembled.sent_keys (h : Assembled profile fields t l) (hvars : ListsVariables vars fields)
    (hresolvable : Resolvable profile (.obj fields))
    (hcollides : ∀ name ∈ neededNames profile, Collides vars name → name = "__proto__") :
    (objectOf l).fields.map Prod.fst = payloadKeys profile := by
  rw [objectOf_keys, h.keys hresolvable]
  intro p hp
  rcases h.values hvars hresolvable p hp with ⟨s, hstring⟩ | ⟨name, hname, hcollision, hinherited⟩
  · exact .inl ⟨.str s, hstring⟩
  · rw [hcollides name hname hcollision] at hinherited
    exact .inr hinherited

/-- A name that collides is the value of a member that is previewed. -/
theorem Assembled.mem_of_collides (h : Assembled profile fields t l)
    (hvars : ListsVariables vars fields) (hresolvable : Resolvable profile (.obj fields))
    (hname : name ∈ neededNames profile) (hcollides : Collides vars name) :
    ∃ key, (key, .inherited name) ∈ l ∧ key ≠ "customProviderApiKeyEnv" := by
  have hinherited := get_of_collides hvars hcollides
  rcases List.mem_append.mp hname with hprovider | hchannel
  · obtain ⟨provider, hprovider, hhead⟩ := List.mem_flatMap.mp hprovider
    have hfirst : provider.requiredSecretNames.head? = some name := Option.mem_toList.mp hhead
    have hone : ∀ other name', profile.modelProviders = [other] →
        other.requiredSecretNames.head? = some name' → name' = name := by
      intro other name' hproviders hother
      rw [hproviders] at hprovider
      rw [List.mem_singleton.mp hprovider] at hfirst
      exact Option.some.inj (hother.symm.trans hfirst)
    refine ⟨"authSecret", ?_, by decide⟩
    cases h with
    | channels hproviders =>
        rw [hproviders] at hprovider
        cases hprovider
    | stored hproviders hother hfound =>
        rw [hone _ _ hproviders hother, hinherited]
        exact List.mem_append_left _ (List.mem_append_left _ (.tail _ (.tail _ (.head _))))
    | minted hproviders hother habsent =>
        rw [hone _ _ hproviders hother, hinherited] at habsent
        cases habsent
  · obtain ⟨channel, hchannel, hmem⟩ := List.mem_flatMap.mp hchannel
    have hlength := channelPayloadFields_length (hresolvable.channels.counts channel hchannel)
    have hpaired : List.Forall₂ (fun field name => (field, name) ∈
        (channelPayloadFields channel.type).zip channel.requiredSecretNames)
        (channelPayloadFields channel.type) channel.requiredSecretNames :=
      List.forall₂_iff_zip.mpr ⟨hlength, fun hpair => hpair⟩
    obtain ⟨field, hpair⟩ := paired_of_mem hpaired hmem
    refine ⟨field.text, h.channels_subset (List.mem_flatMap.mpr ⟨channel, hchannel, ?_⟩), ?_⟩
    · rw [← List.map_uncurry_zip_eq_zipWith, ← hinherited]
      exact List.mem_map.mpr ⟨(field, name), hpair, rfl⟩
    · cases field <;> decide

/-- A dry run and a run that do not differ agree. -/
theorem agrees_of_not_differs [Zod] (hprofile : parseClientProfile candidateProfile = .ok profile)
    (hvars : ListsVariables vars fields) (hfuel : fuel ≠ 0)
    (h : (applyProfile rt fuel candidateProfile options dependencies).Exec t o)
    (hsucceed : AllSucceed rt options (.obj fields) t)
    (hunconfigured : Unconfigured dependencies.setupApiClient t)
    (h' : (dryRunApplyProfile rt candidateProfile ⟨options.service⟩).Exec t' o')
    (hsucceed' : AllSucceed rt options (.obj fields) t') (hnot : ¬ Differs profile vars fields) :
    Agrees dependencies.setupApiClient profile t o' := by
  have haccepts := dryRun_accepts_iff hprofile hvars h' hsucceed'
  constructor
  · rw [haccepts]
    constructor
    · rintro ⟨e, he, hrun⟩
      exact previewable_of_resolvable hvars hnot
        (setupRun_assembled hprofile h hsucceed.lists he hrun).1
    · intro hpreviewable
      exact setupRun_of_resolvable hprofile hfuel h hsucceed hunconfigured
        (resolvable_of_previewable hvars hnot hpreviewable)
  · intro e he hrun result hreturned _
    obtain ⟨hresolvable, l, hl, hcall⟩ := setupRun_assembled hprofile h hsucceed.lists he hrun
    refine ⟨(objectOf l).fields, hl.simple hvars hresolvable, hcall, fun key => ?_⟩
    rw [hl.sent_keys hvars hresolvable fun name hname hcollides => ?_]
    · rcases dryRun_outcome hprofile h' hsucceed' with ⟨preview, hbuilt, rfl⟩ | ⟨e, -, rfl⟩
      · obtain rfl := Outcome.returned.inj hreturned
        exact mem_preview_keys hbuilt
      · cases hreturned
    · by_contra hproto
      exact hnot (.inherited hresolvable hname hcollides (.inl hproto))

/-- Where they differ, a run and a dry run in which nothing fails do not agree. -/
theorem not_agrees_of_differs [Zod] (hprofile : parseClientProfile candidateProfile = .ok profile)
    (hvars : ListsVariables vars fields) (hfuel : fuel ≠ 0)
    (h : (applyProfile rt fuel candidateProfile options dependencies).Exec t o)
    (hsucceed : AllSucceed rt options (.obj fields) t)
    (hunconfigured : Unconfigured dependencies.setupApiClient t)
    (h' : (dryRunApplyProfile rt candidateProfile ⟨options.service⟩).Exec t' o')
    (hsucceed' : AllSucceed rt options (.obj fields) t') (hdiffers : Differs profile vars fields) :
    ¬ Agrees dependencies.setupApiClient profile t o' := by
  intro hagrees
  have haccepts := dryRun_accepts_iff hprofile hvars h' hsucceed'
  have hresolvable : Previewable profile vars → Resolvable profile (.obj fields) := by
    intro hpreviewable
    obtain ⟨e, he, hrun⟩ := hagrees.reaches.mpr (haccepts.mpr hpreviewable)
    exact (setupRun_assembled hprofile h hsucceed.lists he hrun).1
  have hpreviewable : Resolvable profile (.obj fields) → Previewable profile vars := fun hres =>
    haccepts.mp (hagrees.reaches.mp
      (setupRun_of_resolvable hprofile hfuel h hsucceed hunconfigured hres))
  cases hdiffers with
  | several hprev hseveral => exact absurd (hresolvable hprev).single (not_le.mpr hseveral)
  | nameless hprev hprovider hnames =>
      obtain ⟨name, hname, -⟩ := (hresolvable hprev).provider _ hprovider
      rw [hnames] at hname
      cases hname
  | shared hprev hchannel hname hundefined =>
      exact (hresolvable hprev).channels.secrets _ hchannel _ hname hundefined
  | later hres hprovider hname habsent hprovisioned =>
      have hrequired : _ ∈ requiredNames profile := List.mem_append_left _
        (List.mem_flatMap.mpr ⟨_, hprovider, List.mem_of_mem_tail hname⟩)
      exact ((hpreviewable hres).met _ hrequired).elim (absurd habsent) hprovisioned
  | inherited hres hname hcollides hproto =>
      obtain ⟨e, he, hrun⟩ := setupRun_of_resolvable hprofile hfuel h hsucceed hunconfigured hres
      obtain ⟨-, l, hl, hcall⟩ := setupRun_assembled hprofile h hsucceed.lists he hrun
      obtain ⟨result, hreturned, hmet⟩ := haccepts.mpr (hpreviewable hres)
      rcases hproto with hproto | hprovisioned
      · obtain ⟨members, hsimple, hsent, hkeys⟩ :=
          hagrees.sends e he hrun result hreturned hmet
        obtain rfl : members = (objectOf l).fields :=
          postRequest_injective hsimple (hl.simple hvars hres) (hsent.symm.trans hcall)
        obtain ⟨key, hmem, hcustom⟩ := hl.mem_of_collides hvars hres hname hcollides
        have hnodup : (l.map Prod.fst).Nodup := by
          rw [hl.keys hres]
          exact payloadKeys_nodup hres.single hres.channels.distinct
        -- the member is previewed, and left out of the text
        have hpreviewed : key ∈ result.payloadPreview.keys := by
          rcases dryRun_outcome hprofile h' hsucceed' with ⟨preview, hbuilt, rfl⟩ | ⟨e, -, rfl⟩
          · obtain rfl := Outcome.returned.inj hreturned
            refine (mem_preview_keys hbuilt).mpr ⟨?_, hcustom⟩
            rw [← hl.keys hres]
            exact List.mem_map.mpr ⟨_, hmem, rfl⟩
          · cases hreturned
        exact not_mem_objectOf_keys hnodup hmem hproto ((hkeys key).mp hpreviewed).1
      · have hrequired : _ ∈ requiredNames profile := needed_subset_required hname
        exact ((hpreviewable hres).met _ hrequired).elim (absurd hcollides.1) hprovisioned

/-- **When the dry run foretells the run.**  For a profile and the variables of the
service, every dry run agrees with every run against an instance that is not configured,
when nothing fails, exactly unless the two differ in one of the five ways. -/
theorem dryRun_agrees_iff [Zod] {text : String}
    (hprofile : parseClientProfile candidateProfile = .ok profile)
    (htext : rt.jsonParse text = .ok (.obj fields)) (hvars : ListsVariables vars fields) :
    (∀ fuel t o t' o', fuel ≠ 0 →
        (applyProfile rt fuel candidateProfile options dependencies).Exec t o →
        AllSucceed rt options (.obj fields) t → Unconfigured dependencies.setupApiClient t →
        (dryRunApplyProfile rt candidateProfile ⟨options.service⟩).Exec t' o' →
        AllSucceed rt options (.obj fields) t' →
        Agrees dependencies.setupApiClient profile t o') ↔
      ¬ Differs profile vars fields := by
  constructor
  · intro hagrees hdiffers
    have hexec := Prog.play_exec (I := Platform) (obliging options.service text)
      (applyProfile rt 1 candidateProfile options dependencies) ()
    have hexec' := Prog.play_exec (I := Platform) (obliging options.service text)
      (dryRunApplyProfile rt candidateProfile ⟨options.service⟩) ()
    exact not_agrees_of_differs hprofile hvars one_ne_zero hexec (obliging_succeeds htext)
      obliging_unconfigured hexec' (obliging_succeeds htext) hdiffers
      (hagrees 1 _ _ _ _ one_ne_zero hexec (obliging_succeeds htext) obliging_unconfigured hexec'
        (obliging_succeeds htext))
  · intro hnot fuel t o t' o' hfuel hexec hsucceed hunconfigured hexec' hsucceed'
    exact agrees_of_not_differs hprofile hvars hfuel hexec hsucceed hunconfigured hexec' hsucceed'
      hnot

end Agrees

/-! ### A profile with two providers -/

/-- What `mintedProvider` is parsed as. -/
def mintedAttachment : ModelProviderAttachment where
  authGroup := "openrouter"
  authChoice := "openrouter-api-key"
  flow := .quickstart
  keyProvisioning := some ⟨.ofNat 10, "monthly"⟩
  customProviderApiKeyEnv := none
  requiredSecretNames := ["CLIENT_OPENROUTER_API_KEY"]

/-- As many providers, each with a key to mint. -/
def mintingProfile (providers : ℕ) : Json :=
  .obj [("attachments", .obj [("modelProviders", .arr (List.replicate providers mintedProvider))])]

/-- The application of a profile with two providers. -/
def twoProvidersRun : Trace × Outcome Failure ApplyResult :=
  (applyProfile setupRuntime 1 (mintingProfile 2) setupOptions setupDependencies).play
    (obliging "client" "\x7b\x7d") ()

/-- The dry run of the same profile. -/
def twoProvidersDryRun : Trace × Outcome Failure DryRunResult :=
  (dryRunApplyProfile setupRuntime (mintingProfile 2) ⟨"client"⟩).play
    (obliging "client" "\x7b\x7d") ()

set_option maxRecDepth 2000 in
theorem twoProvidersRun_eq : twoProvidersRun =
    ([⟨.fetch (getRequest setupDependencies.setupApiClient "/setup/api/status"),
        .ok unconfiguredResponse⟩,
      ⟨.run (variableListArgs "client") none, .ok "\x7b\x7d"⟩],
    .threw (unsupportedProfile ("Profile has 2 modelProviders attachments; " ++
      "this applier supports at most one per /setup/api/run call."))) := rfl

set_option maxRecDepth 2000 in
theorem twoProvidersDryRun_outcome : twoProvidersDryRun.2 =
    .returned ⟨[⟨"CLIENT_OPENROUTER_API_KEY", false⟩],
      ⟨[⟨"openrouter-api-key", "quickstart", redacted⟩,
        ⟨"openrouter-api-key", "quickstart", redacted⟩], []⟩⟩ := rfl

/-- **A profile that is previewed and then rejected.**  The one secret that is reported
missing is to be minted, and `applyProfile` throws because there are two providers. -/
theorem twoProviders_not_agree :
    (applyProfile setupRuntime 1 (mintingProfile 2) setupOptions setupDependencies).Exec
        twoProvidersRun.1 twoProvidersRun.2 ∧
      AllSucceed setupRuntime setupOptions (.obj []) twoProvidersRun.1 ∧
      Unconfigured setupDependencies.setupApiClient twoProvidersRun.1 ∧
      (dryRunApplyProfile setupRuntime (mintingProfile 2) ⟨setupOptions.service⟩).Exec
        twoProvidersDryRun.1 twoProvidersDryRun.2 ∧
      AllSucceed setupRuntime setupOptions (.obj []) twoProvidersDryRun.1 ∧
      ¬ Agrees setupDependencies.setupApiClient ⟨[mintedAttachment, mintedAttachment], [], []⟩
        twoProvidersRun.1 twoProvidersDryRun.2 := by
  refine ⟨Prog.play_exec (I := Platform) _ _ (), obliging_succeeds rfl, obliging_unconfigured,
    Prog.play_exec (I := Platform) _ _ (), obliging_succeeds rfl, fun hagrees => ?_⟩
  -- the secret is that of the first provider, which has its key minted
  have hmet : ∃ result, twoProvidersDryRun.2 = .returned result ∧
      result.Met ⟨[mintedAttachment, mintedAttachment], [], []⟩ := by
    refine ⟨_, twoProvidersDryRun_outcome, fun secret hsecret => ?_⟩
    obtain rfl := List.mem_singleton.mp hsecret
    exact .inr ⟨mintedAttachment, .head _, rfl, rfl⟩
  obtain ⟨e, he, payload, hrun⟩ := hagrees.reaches.mpr hmet
  rw [twoProvidersRun_eq] at he
  rcases List.mem_cons.mp he with rfl | he
  · exact setupRun_not_get rfl ⟨payload, hrun⟩
  · obtain rfl := List.mem_singleton.mp he
    cases hrun

/-- With one provider the dry run is right. -/
theorem oneProvider_agrees :
    ¬ Differs ⟨[mintedAttachment], [], []⟩ [] [] ∧
      ∀ fuel t o t' o', fuel ≠ 0 →
        (applyProfile setupRuntime fuel (mintingProfile 1) setupOptions setupDependencies).Exec t o →
        AllSucceed setupRuntime setupOptions (.obj []) t →
        Unconfigured setupDependencies.setupApiClient t →
        (dryRunApplyProfile setupRuntime (mintingProfile 1) ⟨setupOptions.service⟩).Exec t' o' →
        AllSucceed setupRuntime setupOptions (.obj []) t' →
        Agrees setupDependencies.setupApiClient ⟨[mintedAttachment], [], []⟩ t o' := by
  have hparsed : parseClientProfile (mintingProfile 1) = .ok ⟨[mintedAttachment], [], []⟩ := rfl
  have htext : setupRuntime.jsonParse "\x7b\x7d" = .ok (.obj []) := rfl
  have hsame : ¬ Differs ⟨[mintedAttachment], [], []⟩ [] [] := by
    intro hdiffers
    cases hdiffers with
    | several _ hseveral => exact absurd hseveral (lt_irrefl 1)
    | nameless _ hprovider hnames =>
        obtain rfl := List.mem_singleton.mp hprovider
        cases hnames
    | shared _ hchannel => cases hchannel
    | later _ hprovider hname =>
        obtain rfl := List.mem_singleton.mp hprovider
        cases hname
    | inherited _ hname hcollides =>
        obtain rfl := List.mem_singleton.mp hname
        exact absurd hcollides.2 (by decide)
  exact ⟨hsame, (dryRun_agrees_iff hparsed htext listsVariables_nil).mpr hsame⟩

end Setup
