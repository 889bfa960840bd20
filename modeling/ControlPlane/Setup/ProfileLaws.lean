/-
ControlPlane/Setup/ProfileLaws.lean

What the profile parser takes, and what it says of a document that it does not take.

Both are read off the schemas part by part, by one rule for each way in which a schema is
made of others, from what is documented of the library's own (`Zod.Documented`).  A document
is taken for exactly the profile it describes, member by member (`parseClientProfile_eq_ok`),
whatever else it holds.  And an error is about one value of the document: its path leads
there, and no document in which this path leads to the same value is taken
(`parseClientProfile_blames`).
-/
import ControlPlane.Setup.Profile
import Mathlib.Data.List.Forall2

namespace Setup

open Js Railway Zod

variable {α β ι : Type}

/-! ### What a reader takes -/

/-- A text that is not empty. -/
def IsText (v : Value) (s : String) : Prop := v = .json (.str s) ∧ s ≠ ""

/-- A number above 0. -/
def IsPositive (v : Value) (n : Number) : Prop :=
  v = .json (.num n) ∧ n.text ≠ "NaN" ∧ isPositive n = true

def IsFlow (v : Value) (flow : SetupFlow) : Prop := v = .json (.str flow.text)

/-- Nothing, or what `P` says. -/
def Optionally (P : Value → α → Prop) (v : Value) : Option α → Prop
  | none => v = .undefined
  | some a => v ≠ .undefined ∧ P v a

/-- An array, element by element as `P` says. -/
def Listing (P : Value → α → Prop) (v : Value) (as : List α) : Prop :=
  ∃ items, v = .json (.arr items) ∧ List.Forall₂ (fun item a => P (.json item) a) items as

/-- Nothing, for the empty list, or an array. -/
def ListingOrNone (P : Value → α → Prop) (v : Value) (as : List α) : Prop :=
  v = .undefined ∧ as = [] ∨ v ≠ .undefined ∧ Listing P v as

/-- An object. -/
def IsRecord (v : Value) : Prop := ∃ fields, v = .json (.obj fields)

/-- A reader takes the values that `P` describes, for what it says, wherever they stand. -/
def Takes (read : Reader α) (P : Value → α → Prop) : Prop :=
  ∀ path v a, read path v = .ok a ↔ P v a

/-- An issue of these readers is about the value itself. -/
def IssuesHere (read : Reader α) : Prop :=
  ∀ path v issue, read path v = .error issue → issue.path = path

/-- What is documented of the schemas: which values they take, and which value the first
issue is about. -/
class Zod.Documented [Zod] : Prop where
  /-- a text of at least one character -/
  nonEmptyString_takes : Takes nonEmptyString IsText
  nonEmptyString_issues : IssuesHere nonEmptyString
  /-- a number above 0, which NaN is not -/
  positiveNumber_takes : Takes positiveNumber IsPositive
  positiveNumber_issues : IssuesHere positiveNumber
  /-- this text and no other value -/
  literal_takes : ∀ expected, Takes (literal expected) fun v _ => v = .json (.str expected)
  literal_issues : ∀ expected, IssuesHere (literal expected)
  /-- one of the texts of the enumeration -/
  setupFlow_takes : Takes setupFlow IsFlow
  setupFlow_issues : IssuesHere setupFlow
  /-- a member that is not there is taken, and any other is read -/
  optional_eq : ∀ {α : Type} (read : Reader α) path v,
    optional read path v = if v.isUndefined then .ok none else (read path v).map some
  /-- an array is read element by element, each at its index -/
  arrayOf_arr : ∀ {α : Type} (read : Reader α) path items,
    arrayOf read path (.json (.arr items)) = readItems read path 0 items
  arrayOf_other : ∀ {α : Type} (read : Reader α) path v, v.asArray = none →
    ∃ issue, arrayOf read path v = .error issue ∧ issue.path = path
  /-- a member that is not there stands for no elements -/
  arrayOrEmpty_eq : ∀ {α : Type} (read : Reader α) path v,
    arrayOrEmpty read path v = if v.isUndefined then .ok [] else arrayOf read path v
  /-- an object is read member by member -/
  objectWith_obj : ∀ {α : Type} (read : List String → Json → Except Issue α) path fields,
    objectWith read path (.json (.obj fields)) = read path (.obj fields)
  objectWith_other : ∀ {α : Type} (read : List String → Json → Except Issue α) path v,
    ¬ IsRecord v → ∃ issue, objectWith read path v = .error issue ∧ issue.path = path

open Zod.Documented

section Takes

variable {read : Reader α} {P : Value → α → Prop}

theorem readItems_eq_ok (h : Takes read P) {path : List String} {items : List Json} {as : List α}
    {index : ℕ} : readItems read path index items = .ok as ↔
      List.Forall₂ (fun item a => P (.json item) a) items as := by
  induction items generalizing as index with
  | nil =>
      cases as with
      | nil => simp [readItems]
      | cons a as => simp [readItems]
  | cons item items ih =>
      simp only [readItems, bind_eq_ok, h _ _ _, ih]
      constructor
      · rintro ⟨a, ha, rest, hrest, hok⟩
        cases hok
        exact .cons ha hrest
      · intro hall
        cases hall with
        | cons ha hrest => exact ⟨_, ha, _, hrest, rfl⟩

variable [Zod] [Zod.Documented]

theorem optional_takes (h : Takes read P) : Takes (optional read) (Optionally P) := by
  intro path v o
  rw [optional_eq]
  cases hv : v.isUndefined with
  | true =>
      rw [isUndefined_iff] at hv
      subst hv
      cases o <;> simp [Optionally]
  | false =>
      rw [isUndefined_eq_false_iff] at hv
      cases o with
      | none =>
          cases hread : read path v <;> simp [Optionally, hv, Except.map]
      | some a =>
          rw [Optionally, ← h path v a]
          cases hread : read path v <;> simp [hv, Except.map]

theorem arrayOf_takes (h : Takes read P) : Takes (arrayOf read) (Listing P) := by
  intro path v as
  unfold Listing
  cases hv : v.asArray with
  | none =>
      obtain ⟨issue, hissue, -⟩ := arrayOf_other read path v hv
      rw [hissue]
      constructor
      · intro hok
        cases hok
      · rintro ⟨items, rfl, -⟩
        cases hv
  | some items =>
      rw [asArray_eq_some] at hv
      subst hv
      simp [arrayOf_arr, readItems_eq_ok h]

theorem arrayOrEmpty_takes (h : Takes read P) :
    Takes (arrayOrEmpty read) (ListingOrNone P) := by
  intro path v as
  rw [arrayOrEmpty_eq]
  unfold ListingOrNone
  cases hv : v.isUndefined with
  | true =>
      rw [isUndefined_iff] at hv
      simp [hv, eq_comm]
  | false =>
      rw [isUndefined_eq_false_iff] at hv
      simp [hv, arrayOf_takes h path v as]

theorem objectWith_eq_ok {read : List String → Json → Except Issue α} {path : List String}
    {v : Value} {a : α} : objectWith read path v = .ok a ↔
      ∃ fields, v = .json (.obj fields) ∧ read path (.obj fields) = .ok a := by
  by_cases hv : IsRecord v
  · obtain ⟨fields, rfl⟩ := hv
    rw [objectWith_obj]
    constructor
    · intro h
      exact ⟨fields, rfl, h⟩
    · rintro ⟨fields', heq, h⟩
      cases heq
      exact h
  · obtain ⟨issue, hissue, -⟩ := objectWith_other read path v hv
    rw [hissue]
    constructor
    · intro h
      cases h
    · rintro ⟨fields, rfl, -⟩
      exact absurd ⟨fields, rfl⟩ hv

end Takes

/-! ### The documents of the schemas -/

structure KeyProvisioning.DescribedBy (v : Value) (keys : KeyProvisioning) : Prop where
  record : IsRecord v
  method : v.chain "method" = .json (.str "openrouter-provisioning-api")
  spendLimitUsd : IsPositive (v.chain "spendLimitUsd") keys.spendLimitUsd
  limitReset : IsText (v.chain "limitReset") keys.limitReset

structure ModelProviderNonSecretConfig.DescribedBy (v : Value)
    (config : ModelProviderNonSecretConfig) : Prop where
  record : IsRecord v
  authGroup : IsText (v.chain "authGroup") config.authGroup
  authChoice : IsText (v.chain "authChoice") config.authChoice
  flow : IsFlow (v.chain "flow") config.flow
  keyProvisioning : Optionally KeyProvisioning.DescribedBy (v.chain "keyProvisioning")
    config.keyProvisioning
  customProviderApiKeyEnv : Optionally IsText (v.chain "customProviderApiKeyEnv")
    config.customProviderApiKeyEnv

def ModelProviderAttachment.config (provider : ModelProviderAttachment) :
    ModelProviderNonSecretConfig :=
  ⟨provider.authGroup, provider.authChoice, provider.flow, provider.keyProvisioning,
    provider.customProviderApiKeyEnv⟩

structure ModelProviderAttachment.DescribedBy (v : Value) (provider : ModelProviderAttachment) :
    Prop where
  record : IsRecord v
  nonSecretConfig : ModelProviderNonSecretConfig.DescribedBy (v.chain "nonSecretConfig")
    provider.config
  requiredSecretNames : Listing IsText (v.chain "requiredSecretNames")
    provider.requiredSecretNames

structure ChannelAttachment.DescribedBy (v : Value) (channel : ChannelAttachment) : Prop where
  record : IsRecord v
  type : IsText (v.chain "type") channel.type
  requiredSecretNames : Listing IsText (v.chain "requiredSecretNames") channel.requiredSecretNames

structure McpServerAttachment.DescribedBy (v : Value) (server : McpServerAttachment) : Prop where
  record : IsRecord v
  name : IsText (v.chain "name") server.name
  transport : IsText (v.chain "transport") server.transport
  url : Optionally IsText (v.chain "url") server.url
  requiredSecretNames : Listing IsText (v.chain "requiredSecretNames") server.requiredSecretNames

/-- The attachments of a document, as those of the profile. -/
structure ClientProfile.AttachedBy (v : Value) (profile : ClientProfile) : Prop where
  record : IsRecord v
  modelProviders : ListingOrNone ModelProviderAttachment.DescribedBy (v.chain "modelProviders")
    profile.modelProviders
  channels : ListingOrNone ChannelAttachment.DescribedBy (v.chain "channels") profile.channels
  mcpServers : ListingOrNone McpServerAttachment.DescribedBy (v.chain "mcpServers")
    profile.mcpServers

structure ClientProfile.DescribedBy (v : Value) (profile : ClientProfile) : Prop where
  record : IsRecord v
  attachments : profile.AttachedBy (v.chain "attachments")

section Schemas

variable [Zod] [Zod.Documented]

theorem keyProvisioningSchema_takes :
    Takes KeyProvisioningSchema KeyProvisioning.DescribedBy := by
  intro path v keys
  rw [KeyProvisioningSchema, objectWith_eq_ok]
  simp only [bind_eq_ok, member, literal_takes _ _ _ _, positiveNumber_takes _ _ _,
    nonEmptyString_takes _ _ _]
  constructor
  · rintro ⟨fields, rfl, -, hmethod, limit, hlimit, reset, hreset, hok⟩
    cases hok
    exact ⟨⟨fields, rfl⟩, hmethod, hlimit, hreset⟩
  · rintro ⟨⟨fields, rfl⟩, hmethod, hlimit, hreset⟩
    exact ⟨fields, rfl, (), hmethod, _, hlimit, _, hreset, rfl⟩

theorem requiredSecretNames_takes : Takes requiredSecretNames (Listing IsText) :=
  arrayOf_takes nonEmptyString_takes

theorem modelProviderNonSecretConfigSchema_takes :
    Takes ModelProviderNonSecretConfigSchema ModelProviderNonSecretConfig.DescribedBy := by
  intro path v config
  rw [ModelProviderNonSecretConfigSchema, objectWith_eq_ok]
  simp only [bind_eq_ok, member, nonEmptyString_takes _ _ _, setupFlow_takes _ _ _,
    optional_takes keyProvisioningSchema_takes _ _ _, optional_takes nonEmptyString_takes _ _ _]
  constructor
  · rintro ⟨fields, rfl, group, hgroup, choice, hchoice, flow, hflow, keys, hkeys, env, henv, hok⟩
    cases hok
    exact ⟨⟨fields, rfl⟩, hgroup, hchoice, hflow, hkeys, henv⟩
  · rintro ⟨⟨fields, rfl⟩, hgroup, hchoice, hflow, hkeys, henv⟩
    exact ⟨fields, rfl, _, hgroup, _, hchoice, _, hflow, _, hkeys, _, henv, rfl⟩

theorem modelProviderAttachmentSchema_takes :
    Takes ModelProviderAttachmentSchema ModelProviderAttachment.DescribedBy := by
  intro path v provider
  rw [ModelProviderAttachmentSchema, objectWith_eq_ok]
  simp only [bind_eq_ok, member, modelProviderNonSecretConfigSchema_takes _ _ _,
    requiredSecretNames_takes _ _ _]
  constructor
  · rintro ⟨fields, rfl, config, hconfig, names, hnames, hok⟩
    cases hok
    exact ⟨⟨fields, rfl⟩, hconfig, hnames⟩
  · rintro ⟨⟨fields, rfl⟩, hconfig, hnames⟩
    exact ⟨fields, rfl, _, hconfig, _, hnames, rfl⟩

theorem channelAttachmentSchema_takes :
    Takes ChannelAttachmentSchema ChannelAttachment.DescribedBy := by
  intro path v channel
  rw [ChannelAttachmentSchema, objectWith_eq_ok]
  simp only [bind_eq_ok, member, nonEmptyString_takes _ _ _, requiredSecretNames_takes _ _ _]
  constructor
  · rintro ⟨fields, rfl, type, htype, names, hnames, hok⟩
    cases hok
    exact ⟨⟨fields, rfl⟩, htype, hnames⟩
  · rintro ⟨⟨fields, rfl⟩, htype, hnames⟩
    exact ⟨fields, rfl, _, htype, _, hnames, rfl⟩

theorem mcpServerAttachmentSchema_takes :
    Takes McpServerAttachmentSchema McpServerAttachment.DescribedBy := by
  intro path v server
  rw [McpServerAttachmentSchema, objectWith_eq_ok]
  simp only [bind_eq_ok, member, nonEmptyString_takes _ _ _, requiredSecretNames_takes _ _ _,
    optional_takes nonEmptyString_takes _ _ _]
  constructor
  · rintro ⟨fields, rfl, name, hname, transport, htransport, url, hurl, names, hnames, hok⟩
    cases hok
    exact ⟨⟨fields, rfl⟩, hname, htransport, hurl, hnames⟩
  · rintro ⟨⟨fields, rfl⟩, hname, htransport, hurl, hnames⟩
    exact ⟨fields, rfl, _, hname, _, htransport, _, hurl, _, hnames, rfl⟩

theorem attachmentsSchema_takes : Takes AttachmentsSchema ClientProfile.AttachedBy := by
  intro path v profile
  rw [AttachmentsSchema, objectWith_eq_ok]
  simp only [bind_eq_ok, member, arrayOrEmpty_takes modelProviderAttachmentSchema_takes _ _ _,
    arrayOrEmpty_takes channelAttachmentSchema_takes _ _ _,
    arrayOrEmpty_takes mcpServerAttachmentSchema_takes _ _ _]
  constructor
  · rintro ⟨fields, rfl, providers, hproviders, channels, hchannels, servers, hservers, hok⟩
    cases hok
    exact ⟨⟨fields, rfl⟩, hproviders, hchannels, hservers⟩
  · rintro ⟨⟨fields, rfl⟩, hproviders, hchannels, hservers⟩
    exact ⟨fields, rfl, _, hproviders, _, hchannels, _, hservers, rfl⟩

theorem clientProfileSchema_takes : Takes ClientProfileSchema ClientProfile.DescribedBy := by
  intro path v profile
  rw [ClientProfileSchema, objectWith_eq_ok]
  simp only [member, attachmentsSchema_takes _ _ _]
  constructor
  · rintro ⟨fields, rfl, hattachments⟩
    exact ⟨⟨fields, rfl⟩, hattachments⟩
  · rintro ⟨⟨fields, rfl⟩, hattachments⟩
    exact ⟨fields, rfl, hattachments⟩

/-- **What is taken for a profile** is described by the document, member by member. -/
theorem parseClientProfile_eq_ok {candidateProfile : Json} {profile : ClientProfile} :
    parseClientProfile candidateProfile = .ok profile ↔
      profile.DescribedBy (.json candidateProfile) := by
  rw [← clientProfileSchema_takes [], parseClientProfile]
  cases ClientProfileSchema [] (.json candidateProfile) <;> simp [Except.mapError]

end Schemas

/-! ### What an error says -/

/-- The path leads from the first value to the second. -/
inductive Leads : Value → List String → Value → Prop
  | here (v : Value) : Leads v [] v
  | field {fields : List (String × Json)} {name : String} {path : List String} {w : Value} :
      Leads ((Json.obj fields).get name) path w → Leads (.json (.obj fields)) (name :: path) w
  | item {items : List Json} {index : ℕ} {j : Json} {path : List String} {w : Value} :
      items[index]? = some j → Leads (.json j) path w →
      Leads (.json (.arr items)) (toString index :: path) w

/-- An error. -/
def Refuses (x : Except Issue α) : Prop := ∃ issue, x = .error issue

/-- An error of these readers is about the value at its path, and none of them takes a value
in which the rest of the path leads to the same.  What has been read before is the `ι`. -/
def Blame (read : ι → Reader α) : Prop :=
  ∀ i path v issue, read i path v = .error issue → ∃ rest w,
    issue.path = path ++ rest ∧ Leads v rest w ∧
      ∀ i' path' v', Leads v' rest w → Refuses (read i' path' v')

abbrev Blames (read : Reader α) : Prop := Blame fun _ : Unit => read

section Blames

variable {read : Reader α} {P : Value → α → Prop} {v : Value}

theorem refuses_or_ok (x : Except Issue α) : Refuses x ∨ ∃ a, x = .ok a := by
  cases x with
  | error issue => exact .inl ⟨issue, rfl⟩
  | ok a => exact .inr ⟨a, rfl⟩

theorem refuses_bind {x : Except Issue α} {f : α → Except Issue β}
    (h : ∀ a, x = .ok a → Refuses (f a)) : Refuses (x >>= f) := by
  cases x with
  | error issue => exact ⟨issue, rfl⟩
  | ok a => exact h a rfl

theorem Refuses.bind {x : Except Issue α} {f : α → Except Issue β} (h : Refuses x) :
    Refuses (x >>= f) := by
  obtain ⟨issue, rfl⟩ := h
  exact ⟨issue, rfl⟩

theorem leads_nil {v w : Value} (h : Leads v [] w) : v = w := by
  cases h
  rfl

/-- A reader that looks at the value alone and not further in. -/
theorem blames_here (hread : Takes read P) (h : IssuesHere read) : Blames read := by
  intro _ path v issue hissue
  refine ⟨[], v, by rw [h path v issue hissue, List.append_nil], .here v, ?_⟩
  intro _ path' v' hleads
  rw [leads_nil hleads]
  rcases refuses_or_ok (read path' v) with hrefuses | ⟨a, hok⟩
  · exact hrefuses
  · have htaken : read path v = .ok a := (hread path v a).mpr ((hread path' v a).mp hok)
    cases hissue.symm.trans htaken

/-- A path goes on from a member of an object or an element of an array. -/
theorem leads_cons {name : String} {path : List String} {w : Value}
    (h : Leads v (name :: path) w) :
    (∃ fields, v = .json (.obj fields) ∧ Leads ((Json.obj fields).get name) path w) ∨
      ∃ (items : List Json) (index : ℕ) (j : Json), v = .json (.arr items) ∧
        items[index]? = some j ∧ Leads (.json j) path w := by
  generalize hroute : name :: path = route at h
  cases h with
  | here => cases hroute
  | field hrest =>
      cases hroute
      exact .inl ⟨_, rfl, hrest⟩
  | item hindex hrest =>
      cases (List.cons.inj hroute).2
      exact .inr ⟨_, _, _, rfl, hindex, hrest⟩

theorem not_leads_undefined {name : String} {path : List String} {w : Value} :
    ¬ Leads .undefined (name :: path) w := by
  intro h
  rcases leads_cons h with ⟨fields, hv, -⟩ | ⟨items, index, j, hv, -⟩ <;> cases hv

/-- A member that may be left out is blamed as one that may not. -/
theorem blame_defined {read' : Reader β} (h : Blames read)
    (herror : ∀ path v issue, read' path v = .error issue →
      v ≠ .undefined ∧ read path v = .error issue)
    (hrefuses : ∀ path v, v ≠ .undefined → Refuses (read path v) → Refuses (read' path v)) :
    Blames read' := by
  intro _ path v issue hissue
  obtain ⟨hdefined, hread⟩ := herror path v issue hissue
  obtain ⟨rest, w, hpath, hleads, hlocal⟩ := h () path v issue hread
  refine ⟨rest, w, hpath, hleads, ?_⟩
  intro _ path' v' hleads'
  have hdefined' : v' ≠ .undefined := by
    rintro rfl
    cases rest with
    | nil =>
        -- the path leads from `v` to `w`, which is `v`
        exact hdefined ((leads_nil hleads).trans (leads_nil hleads').symm)
    | cons name rest => exact not_leads_undefined hleads'
  exact hrefuses path' v' hdefined' (hlocal () path' v' hleads')

theorem readItems_error {path : List String} {items : List Json} {index : ℕ} {issue : Issue}
    (h : readItems read path index items = .error issue) :
    ∃ k j, items[k]? = some j ∧
      read (path ++ [toString (index + k)]) (.json j) = .error issue := by
  induction items generalizing index with
  | nil => cases h
  | cons item items ih =>
      rw [readItems] at h
      cases hitem : read (path ++ [toString index]) (.json item) with
      | error issue' =>
          rw [hitem] at h
          cases h
          exact ⟨0, item, rfl, hitem⟩
      | ok a =>
          rw [hitem] at h
          cases hrest : readItems read path (index + 1) items with
          | error issue' =>
              have hsame : issue' = issue := by
                change (readItems read path (index + 1) items >>= fun others =>
                  .ok (a :: others)) = _ at h
                rw [hrest] at h
                exact Except.error.inj h
              subst hsame
              obtain ⟨k, j, hk, hj⟩ := ih hrest
              refine ⟨k + 1, j, hk, ?_⟩
              rwa [← Nat.add_right_comm, Nat.add_assoc] at hj
          | ok rest =>
              change (readItems read path (index + 1) items >>= fun others =>
                .ok (a :: others)) = _ at h
              rw [hrest] at h
              cases h

theorem refuses_readItems {path : List String} {items : List Json} {index k : ℕ} {j : Json}
    (hk : items[k]? = some j) (h : ∀ path, Refuses (read path (.json j))) :
    Refuses (readItems read path index items) := by
  induction items generalizing index k with
  | nil => cases hk
  | cons item items ih =>
      cases k with
      | zero =>
          cases hk
          rw [readItems]
          exact (h (path ++ [toString index])).bind
      | succ k =>
          have hrest : Refuses (readItems read path (index + 1) items) := ih hk
          exact refuses_bind fun a _ => hrest.bind

variable [Zod] [Zod.Documented]

theorem nonEmptyString_blames : Blames nonEmptyString :=
  blames_here nonEmptyString_takes nonEmptyString_issues

theorem optional_blames (h : Blames read) : Blames (optional read) := by
  have hdefined : ∀ path v, v ≠ .undefined → optional read path v = (read path v).map some := by
    intro path v hv
    rw [optional_eq, if_neg (by rwa [isUndefined_iff])]
  refine blame_defined h ?_ ?_
  · intro path v issue hissue
    by_cases hv : v = .undefined
    · subst hv
      rw [optional_eq] at hissue
      cases hissue
    · rw [hdefined path v hv] at hissue
      refine ⟨hv, ?_⟩
      cases hread : read path v with
      | error issue' =>
          rw [hread] at hissue
          cases hissue
          rfl
      | ok a =>
          rw [hread] at hissue
          cases hissue
  · rintro path v hv ⟨issue, hissue⟩
    rw [hdefined path v hv, hissue]
    exact ⟨issue, rfl⟩

theorem arrayOf_blames (h : Blames read) : Blames (arrayOf read) := by
  intro _ path v issue hissue
  cases hv : v.asArray with
  | none =>
      obtain ⟨issue', herror, hpath⟩ := arrayOf_other read path v hv
      cases herror.symm.trans hissue
      refine ⟨[], v, by rw [hpath, List.append_nil], .here v, ?_⟩
      intro _ path' v' hleads
      rw [leads_nil hleads]
      exact (arrayOf_other read path' v hv).imp fun _ h => h.1
  | some items =>
      rw [asArray_eq_some] at hv
      subst hv
      change arrayOf read path (.json (.arr items)) = .error issue at hissue
      rw [arrayOf_arr] at hissue
      obtain ⟨k, j, hk, hj⟩ := readItems_error hissue
      obtain ⟨rest, w, hpath, hleads, hlocal⟩ := h () _ _ issue hj
      refine ⟨toString k :: rest, w, ?_, .item hk hleads, ?_⟩
      · rw [hpath, Nat.zero_add, List.append_assoc, List.singleton_append]
      · intro _ path' v' hleads'
        rcases leads_cons hleads' with ⟨fields, rfl, -⟩ | ⟨items', k', j', rfl, hk', hrest⟩
        · exact (arrayOf_other read path' _ rfl).imp fun _ h => h.1
        · show Refuses (arrayOf read path' (.json (.arr items')))
          rw [arrayOf_arr]
          exact refuses_readItems hk' fun path => hlocal () path _ hrest

theorem arrayOrEmpty_blames (h : Blames read) : Blames (arrayOrEmpty read) := by
  have hdefined : ∀ path v, v ≠ .undefined → arrayOrEmpty read path v = arrayOf read path v := by
    intro path v hv
    rw [arrayOrEmpty_eq, if_neg (by rwa [isUndefined_iff])]
  refine blame_defined (arrayOf_blames h) ?_ ?_
  · intro path v issue hissue
    by_cases hv : v = .undefined
    · subst hv
      rw [arrayOrEmpty_eq] at hissue
      cases hissue
    · rw [hdefined path v hv] at hissue
      exact ⟨hv, hissue⟩
  · intro path v hv hrefuses
    rwa [hdefined path v hv]

end Blames

/-! ### Objects -/

section Objects

variable [Zod] [Zod.Documented] {name : String} {path : List String} {v w : Value}

theorem refuses_unless_record {read : List String → Json → Except Issue α} (h : ¬ IsRecord v) :
    Refuses (objectWith read path v) :=
  (objectWith_other read path v h).imp fun _ h => h.1

/-- What is no object is blamed itself. -/
theorem blame_unless_record (read : ι → List String → Json → Except Issue α) {issue : Issue}
    {i : ι} (hnot : ¬ IsRecord v) (h : objectWith (read i) path v = .error issue) :
    ∃ rest w, issue.path = path ++ rest ∧ Leads v rest w ∧
      ∀ i' path' v', Leads v' rest w → Refuses (objectWith (read i') path' v') := by
  obtain ⟨issue', herror, hpath⟩ := objectWith_other (read i) path v hnot
  cases herror.symm.trans h
  refine ⟨[], v, by rw [hpath, List.append_nil], .here v, ?_⟩
  intro i' path' v' hleads
  rw [leads_nil hleads]
  exact refuses_unless_record hnot

/-- An object that is taken as soon as all its members are read. -/
theorem blame_done {make : ι → α} : Blame fun i => objectWith fun _ _ => .ok (make i) := by
  intro i path v issue h
  by_cases hv : IsRecord v
  · obtain ⟨fields, rfl⟩ := hv
    change objectWith (fun _ _ => .ok (make i)) path (.json (.obj fields)) = .error issue at h
    rw [objectWith_obj] at h
    cases h
  · exact blame_unless_record (fun i _ _ => .ok (make i)) hv h

/-- An object is read member by member. -/
theorem objectWith_member {first : Reader β} {next : β → List String → Json → Except Issue α}
    {fields : List (String × Json)} :
    objectWith (fun path j => member first path j name >>= fun b => next b path j) path
        (.json (.obj fields)) =
      (first (path ++ [name]) ((Json.obj fields).get name) >>= fun b =>
        next b path (.obj fields)) :=
  objectWith_obj _ _ _

/-- One member after the other. -/
theorem blame_member {first : Reader β} {next : ι → β → List String → Json → Except Issue α}
    (hfirst : Blames first) (hnext : Blame fun p : ι × β => objectWith (next p.1 p.2)) :
    Blame fun i => objectWith fun path j =>
      member first path j name >>= fun b => next i b path j := by
  intro i path v issue h
  by_cases hv : IsRecord v
  · obtain ⟨fields, rfl⟩ := hv
    replace h := objectWith_member.symm.trans h
    cases hmember : first (path ++ [name]) ((Json.obj fields).get name) with
    | error issue' =>
        rw [hmember] at h
        cases h
        obtain ⟨rest, w, hpath, hleads, hlocal⟩ := hfirst () _ _ issue hmember
        refine ⟨name :: rest, w, ?_, .field hleads, ?_⟩
        · rw [hpath, List.append_assoc, List.singleton_append]
        · intro i' path' v' hleads'
          rcases leads_cons hleads' with ⟨fields', rfl, hrest⟩ | ⟨items, index, j, rfl, -⟩
          · have hrefuses : Refuses (first (path' ++ [name]) ((Json.obj fields').get name)) :=
              hlocal () (path' ++ [name]) _ hrest
            exact (congrArg Refuses objectWith_member).mpr hrefuses.bind
          · exact refuses_unless_record (by rintro ⟨_, ⟨⟩⟩)
    | ok b =>
        rw [hmember] at h
        obtain ⟨rest, w, hpath, hleads, hlocal⟩ :=
          hnext (i, b) path (.json (.obj fields)) issue ((objectWith_obj _ _ _).trans h)
        refine ⟨rest, w, hpath, hleads, ?_⟩
        intro i' path' v' hleads'
        by_cases hv' : IsRecord v'
        · obtain ⟨fields', rfl⟩ := hv'
          have hnexts : ∀ b', Refuses (next i' b' path' (.obj fields')) := by
            intro b'
            have hrefuses : Refuses (objectWith (next i' b') path' (.json (.obj fields'))) :=
              hlocal (i', b') path' _ hleads'
            rwa [objectWith_obj] at hrefuses
          exact (congrArg Refuses objectWith_member).mpr (refuses_bind fun b' _ => hnexts b')
        · exact refuses_unless_record hv'
  · exact blame_unless_record _ hv h

theorem keyProvisioningSchema_blames : Blames KeyProvisioningSchema :=
  blame_member (blames_here (literal_takes _) (literal_issues _)) <|
    blame_member (blames_here positiveNumber_takes positiveNumber_issues) <|
    blame_member nonEmptyString_blames blame_done

theorem requiredSecretNames_blames : Blames requiredSecretNames :=
  arrayOf_blames nonEmptyString_blames

theorem modelProviderNonSecretConfigSchema_blames : Blames ModelProviderNonSecretConfigSchema :=
  blame_member nonEmptyString_blames <| blame_member nonEmptyString_blames <|
    blame_member (blames_here setupFlow_takes setupFlow_issues) <|
    blame_member (optional_blames keyProvisioningSchema_blames) <|
    blame_member (optional_blames nonEmptyString_blames) blame_done

theorem modelProviderAttachmentSchema_blames : Blames ModelProviderAttachmentSchema :=
  blame_member modelProviderNonSecretConfigSchema_blames <|
    blame_member requiredSecretNames_blames blame_done

theorem channelAttachmentSchema_blames : Blames ChannelAttachmentSchema :=
  blame_member nonEmptyString_blames <| blame_member requiredSecretNames_blames blame_done

theorem mcpServerAttachmentSchema_blames : Blames McpServerAttachmentSchema :=
  blame_member nonEmptyString_blames <| blame_member nonEmptyString_blames <|
    blame_member (optional_blames nonEmptyString_blames) <|
    blame_member requiredSecretNames_blames blame_done

theorem attachmentsSchema_blames : Blames AttachmentsSchema :=
  blame_member (arrayOrEmpty_blames modelProviderAttachmentSchema_blames) <|
    blame_member (arrayOrEmpty_blames channelAttachmentSchema_blames) <|
    blame_member (arrayOrEmpty_blames mcpServerAttachmentSchema_blames) blame_done

theorem clientProfileSchema_blames : Blames ClientProfileSchema := by
  have hschema : ClientProfileSchema = objectWith fun path j =>
      member AttachmentsSchema path j "attachments" >>= fun profile => .ok profile := by
    rw [ClientProfileSchema]
    congr 1
    funext path j
    exact (bind_pure _).symm
  rw [hschema]
  exact blame_member attachmentsSchema_blames blame_done

/-- **What an error says.**  A document that is not taken is refused for one value of it: the
path in the message leads there, and every document in which this path leads to the same
value is refused. -/
theorem parseClientProfile_blames {candidateProfile : Json} {failure : Failure}
    (h : parseClientProfile candidateProfile = .error failure) :
    ∃ route w message, failure = invalidProfile ⟨route, message⟩ ∧
      Leads (.json candidateProfile) route w ∧
      ∀ candidate profile, Leads (.json candidate) route w →
        parseClientProfile candidate ≠ .ok profile := by
  unfold parseClientProfile at h
  cases hread : ClientProfileSchema [] (.json candidateProfile) with
  | ok profile =>
      rw [hread] at h
      cases h
  | error issue =>
      rw [hread] at h
      cases h
      obtain ⟨route, w, hpath, hleads, hlocal⟩ :=
        clientProfileSchema_blames () [] _ issue hread
      have hissue : issue = ⟨route, issue.message⟩ := by
        rw [← show issue.path = route from hpath]
      refine ⟨route, w, issue.message, congrArg invalidProfile hissue, hleads, ?_⟩
      intro candidate profile hleads' hok
      have hrefuses : Refuses (ClientProfileSchema [] (.json candidate)) :=
        hlocal () [] _ hleads'
      obtain ⟨issue', hissue'⟩ := hrefuses
      rw [parseClientProfile, hissue'] at hok
      cases hok

end Objects

/-! ### The schemas that run -/

theorem readText_takes : Takes readText IsText := by
  intro path v s
  rw [IsText, ← asString_eq_some, readText]
  cases v.asString with
  | none => simp
  | some text =>
      by_cases htext : text = ""
      · subst htext
        simp
      · simp only [htext, if_false, Except.ok.injEq, Option.some.injEq]
        constructor
        · rintro rfl
          exact ⟨rfl, htext⟩
        · exact And.left

theorem readPositive_takes : Takes readPositive IsPositive := by
  intro path v n
  rw [IsPositive, ← asNumber_eq_some, readPositive]
  cases v.asNumber with
  | none => simp
  | some m =>
      show (if m.text = "NaN" then _ else if isPositive m then _ else _) = _ ↔ _
      by_cases hnan : m.text = "NaN"
      · rw [if_pos hnan]
        constructor
        · intro h
          cases h
        · rintro ⟨h, hn, -⟩
          cases h
          exact absurd hnan hn
      · rw [if_neg hnan]
        cases hpos : isPositive m with
        | true =>
            constructor
            · intro h
              cases h
              exact ⟨rfl, hnan, hpos⟩
            · rintro ⟨h, -⟩
              cases h
              rfl
        | false =>
            constructor
            · intro h
              cases h
            · rintro ⟨h, -, hn⟩
              cases h
              cases hpos.symm.trans hn

theorem readLiteral_takes (expected : String) :
    Takes (readLiteral expected) fun v _ => v = .json (.str expected) := by
  intro path v u
  show _ ↔ v = .json (.str expected)
  rw [← isString_iff, readLiteral]
  cases v.isString expected <;> simp

theorem readFlow_takes : Takes readFlow IsFlow := by
  intro path v flow
  rw [IsFlow, ← asString_eq_some]
  unfold readFlow
  split
  · rename_i h
    simp [h]
  · rename_i h
    rw [h]
    cases flow <;> simp [SetupFlow.text]
  · rename_i h
    rw [h]
    cases flow <;> simp [SetupFlow.text]
  · rename_i h
    rw [h]
    cases flow <;> simp [SetupFlow.text]
  · rename_i text hquick hadvanced hmanual h
    rw [h]
    cases flow <;> simp_all [SetupFlow.text]

theorem readText_issues : IssuesHere readText := by
  intro path v issue h
  unfold readText at h
  split at h
  · cases h
    rfl
  · split at h
    · cases h
      rfl
    · cases h

theorem readPositive_issues : IssuesHere readPositive := by
  intro path v issue h
  unfold readPositive at h
  split at h
  · cases h
    rfl
  · split at h
    · cases h
      rfl
    · split at h
      · cases h
      · cases h
        rfl

theorem readLiteral_issues (expected : String) : IssuesHere (readLiteral expected) := by
  intro path v issue h
  unfold readLiteral at h
  split at h
  · cases h
  · cases h
    rfl

theorem readFlow_issues : IssuesHere readFlow := by
  intro path v issue h
  unfold readFlow at h
  split at h <;> cases h <;> rfl

instance : Zod.Documented where
  nonEmptyString_takes := readText_takes
  nonEmptyString_issues := readText_issues
  positiveNumber_takes := readPositive_takes
  positiveNumber_issues := readPositive_issues
  literal_takes := readLiteral_takes
  literal_issues := readLiteral_issues
  setupFlow_takes := readFlow_takes
  setupFlow_issues := readFlow_issues
  optional_eq _ _ _ := rfl
  arrayOf_arr _ _ _ := rfl
  arrayOf_other read path v h := by
    refine ⟨invalidType "array" path v, ?_, rfl⟩
    show readArray read path v = _
    rw [readArray, h]
  arrayOrEmpty_eq _ _ _ := rfl
  objectWith_obj _ _ _ := rfl
  objectWith_other read path v h := by
    refine ⟨invalidType "object" path v, ?_, rfl⟩
    show readRecord read path v = _
    unfold readRecord
    split
    · exact absurd ⟨_, rfl⟩ h
    · rfl

/-- One channel, with a token. -/
def telegramProfile : ClientProfile := ⟨[], [⟨"telegram", ["TELEGRAM_BOT_TOKEN"]⟩], []⟩

/-- A document of it. -/
def telegramDocument : Json :=
  .obj [("attachments", .obj [("channels", .arr [.obj [("type", .str "telegram"),
    ("requiredSecretNames", .arr [.str "TELEGRAM_BOT_TOKEN"])]])])]

theorem telegramDocument_taken : parseClientProfile telegramDocument = .ok telegramProfile ∧
    telegramProfile.DescribedBy (.json telegramDocument) :=
  have h : parseClientProfile telegramDocument = .ok telegramProfile := rfl
  ⟨h, parseClientProfile_eq_ok.mp h⟩

/-- A channel whose type is empty. -/
def namelessChannel : Json :=
  .obj [("attachments", .obj [("channels", .arr [.obj [("type", .str "")]])])]

theorem namelessChannel_blamed : ∃ route w message,
    (⟨.invalidProfile, "Invalid client profile at 'attachments.channels.0.type': " ++
      "String must contain at least 1 character(s)"⟩ : Failure) =
      invalidProfile ⟨route, message⟩ ∧
    Leads (.json namelessChannel) route w ∧
    ∀ candidate profile, Leads (.json candidate) route w →
      parseClientProfile candidate ≠ .ok profile :=
  have h : parseClientProfile namelessChannel = .error _ := rfl
  parseClientProfile_blames h

end Setup
