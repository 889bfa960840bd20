/-
ControlPlane/Webhook/Grants.lean

No grant of an allowlist that is accepted is ignored.

`matchesDispatchAllowlist` looks at the first entry of the repository and at its first
item for the event.  `SomeEntryPermits` asks for any entry and any item, read off the
JSON as it stands.  On an accepted allowlist the two agree
(`matchesDispatchAllowlist_iff_some`), since its repositories and the events of an entry
are distinct; so no order in which entries, items, actions or actors are written makes a
difference (`matchesDispatchAllowlist_reordered`).

`Reordered R` is a permutation followed by a change `R` of each element; it is used at
both levels of the document.
-/
import ControlPlane.Webhook.Response
import Mathlib.Data.List.Perm.Basic

namespace Webhook

open Js

/-! ### Any entry, any item -/

/-- The value is an array with this element. -/
def Contains (v : Value) (j : Json) : Prop := ∃ items, v = .json (.arr items) ∧ j ∈ items

/-- The item is for the event and lists the action, and for `issue_comment` its trusted
mention lists the actor and its pattern matches the body. -/
def ItemPermits (rt : Runtime) (item : Json) (event : String)
    (action actorLogin commentBody : Value) : Prop :=
  item.get "event" = .json (.str event) ∧
  (∃ a, action = .json (.str a) ∧ Contains (item.get "actions") (.str a)) ∧
  (event = "issue_comment" → ∃ login body pattern test,
    actorLogin = .json (.str login) ∧ commentBody = .json (.str body) ∧
    Contains ((item.get "trustedMention").chain "actors") (.str login) ∧
    (item.get "trustedMention").chain "pattern" = .json (.str pattern) ∧
    rt.compileRegExp pattern = some test ∧ test body = true)

/-- The entry is for the repository, and some item of it permits the delivery. -/
def EntryPermits (rt : Runtime) (entry : Json) (repo event : String)
    (action actorLogin commentBody : Value) : Prop :=
  entry.get "repo" = .json (.str repo) ∧
  ∃ item, Contains (entry.get "events") item ∧
    ItemPermits rt item event action actorLogin commentBody

/-- Some entry permits the delivery. -/
def SomeEntryPermits (rt : Runtime) (entries : List Json) (event : String)
    (action repoFullName actorLogin commentBody : Value) : Prop :=
  ∃ repo, repoFullName = .json (.str repo) ∧
    ∃ entry ∈ entries, EntryPermits rt entry repo event action actorLogin commentBody

section Permits

variable {rt : Runtime} {event repo : String}
  {action repoFullName actorLogin commentBody : Value}

theorem contains_str_iff {ss : List String} {s : String} :
    Contains (.json (.arr (ss.map .str))) (.str s) ↔ s ∈ ss := by
  unfold Contains
  simp

/-- An encoded grant permits what its item permits. -/
theorem EventGrant.Encodes.itemPermits_iff {g : EventGrant} {item : Json} (h : g.Encodes item) :
    ItemPermits rt item event action actorLogin commentBody ↔
      g.Covers event action ∧ g.Gate rt event actorLogin commentBody := by
  unfold ItemPermits EventGrant.Covers EventGrant.Gate
  rw [h.event, h.actions]
  simp only [Value.json.injEq, Json.str.injEq, contains_str_iff, and_assoc]
  refine and_congr_right fun hevent => and_congr ?_ ?_
  · constructor
    · rintro ⟨a, ha, hmem⟩
      exact ⟨a, hmem, ha⟩
    · rintro ⟨a, hmem, ha⟩
      exact ⟨a, ha, hmem⟩
  · refine forall_congr' fun hcomment => ?_
    obtain ⟨tm, htm, -, hactors, hpattern⟩ := h.mention (hevent.trans hcomment)
    rw [htm, hactors, hpattern]
    simp only [contains_str_iff, Option.some.injEq, exists_eq_left', TrustedMention.Trusts,
      Value.json.injEq, Json.str.injEq]
    constructor
    · rintro ⟨login, body, _, test, hl, hb, hmem, rfl, hregex, htest⟩
      exact ⟨login, body, test, hl, hb, hmem, hregex, htest⟩
    · rintro ⟨login, body, test, hl, hb, hmem, hregex, htest⟩
      exact ⟨login, body, tm.pattern, test, hl, hb, hmem, rfl, hregex, htest⟩

/-- What stands in one of two related lists has a partner in the other. -/
theorem exists_partner {γ : Type} {R : γ → Json → Prop} {gs : List γ} {js : List Json}
    (h : List.Forall₂ R gs js) {P : γ → Prop} {Q : Json → Prop}
    (hPQ : ∀ g j, R g j → (Q j ↔ P g)) : (∃ j ∈ js, Q j) ↔ ∃ g ∈ gs, P g := by
  induction h with
  | nil => simp
  | cons hr _ ih => simp only [List.exists_mem_cons_iff, hPQ _ _ hr, ih]

theorem Allowlist.Encodes.someEntryPermits_iff {A : Allowlist} {entries : List Json}
    (h : A.Encodes entries) :
    SomeEntryPermits rt entries event action repoFullName actorLogin commentBody ↔
      ∃ repo, repoFullName = .json (.str repo) ∧
        A.Permits rt event action repo actorLogin commentBody := by
  refine exists_congr fun repo => and_congr_right fun _ => ?_
  refine exists_partner h fun entry j hentry => ?_
  unfold EntryPermits
  obtain ⟨items, hitems, hgs⟩ := hentry.events
  rw [hentry.repo, hitems]
  simp only [Value.json.injEq, Json.str.injEq]
  refine and_congr_right fun _ => ?_
  rw [← exists_partner hgs fun g item hg => hg.itemPermits_iff]
  constructor
  · rintro ⟨item, ⟨_, heq, hmem⟩, hpermits⟩
    cases heq
    exact ⟨item, hmem, hpermits⟩
  · rintro ⟨item, hmem, hpermits⟩
    exact ⟨item, ⟨items, rfl, hmem⟩, hpermits⟩

/-- **The first match decides for all of them.** -/
theorem matchesDispatchAllowlist_iff_some {A : Allowlist} {entries : List Json}
    (h : A.Encodes entries) :
    matchesDispatchAllowlist rt entries event action repoFullName actorLogin commentBody = true ↔
      SomeEntryPermits rt entries event action repoFullName actorLogin commentBody := by
  rw [matchesDispatchAllowlist_iff_permits h, h.someEntryPermits_iff]

end Permits

/-! ### Orders -/

/-- The elements of `ys` are those of `xs` in some order, each changed by `R`. -/
def Reordered (R : Json → Json → Prop) (xs ys : List Json) : Prop :=
  ∃ zs, xs.Perm zs ∧ List.Forall₂ R zs ys

/-- The same value, or an array with the same elements in another order. -/
def SameElements (v w : Value) : Prop :=
  w = v ∨ ∃ xs ys, v = .json (.arr xs) ∧ w = .json (.arr ys) ∧ xs.Perm ys

/-- The same item, its actions and its actors in some order. -/
structure SameItem (item item' : Json) : Prop where
  truthy : item'.truthy = item.truthy
  event : item'.get "event" = item.get "event"
  actions : SameElements (item.get "actions") (item'.get "actions")
  trusted : (item'.get "trustedMention").truthy = (item.get "trustedMention").truthy
  actors : SameElements ((item.get "trustedMention").chain "actors")
    ((item'.get "trustedMention").chain "actors")
  pattern : (item'.get "trustedMention").chain "pattern" =
    (item.get "trustedMention").chain "pattern"

/-- The same entry, its items in some order. -/
structure SameEntry (entry entry' : Json) : Prop where
  truthy : entry'.truthy = entry.truthy
  repo : entry'.get "repo" = entry.get "repo"
  events : ∃ items items', entry.get "events" = .json (.arr items) ∧
    entry'.get "events" = .json (.arr items') ∧ Reordered SameItem items items'

section Orders

variable {rt : Runtime} {event repo : String} {v w : Value}
  {action repoFullName actorLogin commentBody : Value}

theorem SameElements.contains_iff (h : SameElements v w) (j : Json) :
    Contains w j ↔ Contains v j := by
  rcases h with rfl | ⟨xs, ys, rfl, rfl, hperm⟩
  · rfl
  · unfold Contains
    simp [hperm.mem_iff]

/-- An array of texts in another order is an array of texts. -/
theorem SameElements.texts {ss : List String} (h : SameElements (.json (.arr (ss.map .str))) w) :
    ∃ ss' : List String, w = .json (.arr (ss'.map .str)) := by
  rcases h with rfl | ⟨xs, ys, hxs, rfl, hperm⟩
  · exact ⟨ss, rfl⟩
  · have hxs : ss.map Json.str = xs := by simpa using hxs
    subst hxs
    have hcomp := congrFun (congrFun (List.eq_map_comp_perm Json.str) ys) ss
    obtain ⟨ss', rfl, -⟩ := hcomp.mpr hperm.symm
    exact ⟨ss', rfl⟩

theorem SameItem.permits_iff {item item' : Json} (h : SameItem item item') :
    ItemPermits rt item' event action actorLogin commentBody ↔
      ItemPermits rt item event action actorLogin commentBody := by
  unfold ItemPermits
  simp only [h.event, h.actions.contains_iff, h.actors.contains_iff, h.pattern]

/-- Reordering changes nothing that is asked of some element. -/
theorem Reordered.exists_iff {R : Json → Json → Prop} {xs ys : List Json}
    (h : Reordered R xs ys) {P : Json → Prop} (hP : ∀ x y, R x y → (P y ↔ P x)) :
    (∃ y ∈ ys, P y) ↔ ∃ x ∈ xs, P x := by
  obtain ⟨zs, hperm, hall⟩ := h
  rw [exists_partner hall hP]
  simp only [hperm.mem_iff]

theorem SameEntry.permits_iff {entry entry' : Json} (h : SameEntry entry entry') :
    EntryPermits rt entry' repo event action actorLogin commentBody ↔
      EntryPermits rt entry repo event action actorLogin commentBody := by
  obtain ⟨items, items', hitems, hitems', hreordered⟩ := h.events
  have hsome := hreordered.exists_iff (P := fun item =>
    ItemPermits rt item event action actorLogin commentBody) fun _ _ hsame => hsame.permits_iff
  unfold EntryPermits Contains
  rw [h.repo, hitems, hitems']
  simpa using fun _ => hsome

/-- **Whether some entry permits a delivery does not depend on any order.** -/
theorem Reordered.someEntryPermits_iff {entries entries' : List Json}
    (h : Reordered SameEntry entries entries') :
    SomeEntryPermits rt entries' event action repoFullName actorLogin commentBody ↔
      SomeEntryPermits rt entries event action repoFullName actorLogin commentBody := by
  refine exists_congr fun repo => and_congr_right fun _ => ?_
  exact h.exists_iff fun _ _ hsame => hsame.permits_iff

/-- Where a changed element still encodes something of the same key, a reordered list
encodes grants with the same keys. -/
theorem Reordered.encodes {γ : Type} {E : γ → Json → Prop} {R : Json → Json → Prop}
    {key : γ → String} {gs : List γ} {js js' : List Json} (h : Reordered R js js')
    (hgs : List.Forall₂ E gs js)
    (hR : ∀ g j j', E g j → R j j' → ∃ g', E g' j' ∧ key g' = key g) :
    ∃ gs' : List γ, List.Forall₂ E gs' js' ∧ (gs'.map key).Perm (gs.map key) := by
  obtain ⟨zs, hperm, hall⟩ := h
  have hcomp := congrFun (congrFun (@List.forall₂_comp_perm_eq_perm_comp_forall₂ γ Json E) gs) zs
  obtain ⟨hs, hperm', hs_zs⟩ := hcomp.mp ⟨js, hgs, hperm⟩
  -- the elements change one by one, the keys stay
  have hchanged : ∀ {hs : List γ} {zs ys : List Json}, List.Forall₂ E hs zs →
      List.Forall₂ R zs ys →
      ∃ gs' : List γ, List.Forall₂ E gs' ys ∧ gs'.map key = hs.map key := by
    intro hs zs ys hE hR'
    induction hE generalizing ys with
    | nil =>
        cases hR'
        exact ⟨[], .nil, rfl⟩
    | cons hfirst _ ih =>
        cases hR' with
        | cons hone hrest =>
            obtain ⟨g', hg', hkey⟩ := hR _ _ _ hfirst hone
            obtain ⟨gs', hgs', hkeys⟩ := ih hrest
            exact ⟨g' :: gs', .cons hg' hgs', by rw [List.map_cons, List.map_cons, hkey, hkeys]⟩
  obtain ⟨gs', hgs', hkeys⟩ := hchanged hs_zs hall
  refine ⟨gs', hgs', ?_⟩
  rw [hkeys]
  exact (hperm'.map key).symm

theorem SameItem.encodes {g : EventGrant} {item item' : Json} (h : SameItem item item')
    (hg : g.Encodes item) : ∃ g' : EventGrant, g'.Encodes item' ∧ g'.event = g.event := by
  have hactions := h.actions
  rw [hg.actions] at hactions
  obtain ⟨actions, hactions'⟩ := hactions.texts
  have hevent : item'.get "event" = .json (.str g.event) := h.event.trans hg.event
  by_cases hcomment : g.event = "issue_comment"
  · obtain ⟨tm, -, htrusted, hactors, hpattern⟩ := hg.mention hcomment
    have hsame := h.actors
    rw [hactors] at hsame
    obtain ⟨actors, hactors'⟩ := hsame.texts
    have htm : TrustedMention.Encodes ⟨actors, tm.pattern⟩ (item'.get "trustedMention") :=
      ⟨h.trusted.trans htrusted, hactors', h.pattern.trans hpattern⟩
    exact ⟨⟨g.event, actions, some ⟨actors, tm.pattern⟩⟩,
      ⟨h.truthy.trans hg.truthy, hevent, hactions', fun _ => ⟨_, rfl, htm⟩⟩, rfl⟩
  · exact ⟨⟨g.event, actions, none⟩, ⟨h.truthy.trans hg.truthy, hevent, hactions',
      fun hc => absurd hc hcomment⟩, rfl⟩

theorem SameEntry.encodes {g : RepoGrant} {entry entry' : Json} (h : SameEntry entry entry')
    (hg : g.Encodes entry) : ∃ g' : RepoGrant, g'.Encodes entry' ∧ g'.repo = g.repo := by
  obtain ⟨items, items', hitems, hitems', hreordered⟩ := h.events
  obtain ⟨_, hread, hgs⟩ := hg.events
  rw [hitems] at hread
  cases hread
  obtain ⟨gs', hgs', hkeys⟩ := hreordered.encodes hgs
    fun g j j' hg hsame => hsame.encodes hg
  exact ⟨⟨g.repo, gs', hkeys.nodup_iff.mpr g.events_nodup⟩, ⟨h.truthy.trans hg.truthy,
    h.repo.trans hg.repo, hg.repo_ne, items', hitems', hgs'⟩, rfl⟩

/-- A reordered allowlist is an allowlist. -/
theorem Allowlist.Encodes.reordered {A : Allowlist} {entries entries' : List Json}
    (h : A.Encodes entries) (hreordered : Reordered SameEntry entries entries') :
    ∃ A' : Allowlist, A'.Encodes entries' := by
  obtain ⟨gs', hgs', hkeys⟩ := hreordered.encodes h
    fun g j j' hg hsame => hsame.encodes hg
  exact ⟨⟨gs', hkeys.nodup_iff.mpr A.repos_nodup⟩, hgs'⟩

/-- **No order makes a difference to the decision.** -/
theorem matchesDispatchAllowlist_reordered {A : Allowlist} {entries entries' : List Json}
    (h : A.Encodes entries) (hreordered : Reordered SameEntry entries entries') :
    matchesDispatchAllowlist rt entries' event action repoFullName actorLogin commentBody =
      matchesDispatchAllowlist rt entries event action repoFullName actorLogin commentBody := by
  obtain ⟨A', h'⟩ := h.reordered hreordered
  rw [Bool.eq_iff_iff, matchesDispatchAllowlist_iff_some h, matchesDispatchAllowlist_iff_some h',
    hreordered.someEntryPermits_iff]

end Orders

/-- **No grant of an accepted allowlist is ignored.**  Accepted are exactly the configured
documents that encode a valid allowlist: distinct repositories, distinct events in each
entry, nothing empty and nothing with white space around it.  On them a delivery matches
exactly when some entry has an item that permits it, in whatever order they are written.
Everything else is rejected with the tagged error. -/
theorem resolveDispatchAllowlist_ignores_nothing (rt : Runtime) (env : Env) :
    (∀ entries, Throwing.resolveDispatchAllowlist rt env = .ok entries ↔
      Configures rt env entries) ∧
    (∀ entries, Configures rt env entries →
      (∃ A : Allowlist, A.Encodes entries ∧ A.Valid rt) ∧
      (∀ event action repoFullName actorLogin commentBody,
        Throwing.matchesDispatchAllowlist rt entries event action repoFullName actorLogin
            commentBody = .ok true ↔
          SomeEntryPermits rt entries event action repoFullName actorLogin commentBody) ∧
      ∀ entries', Reordered SameEntry entries entries' →
        ∀ event action repoFullName actorLogin commentBody,
          Throwing.matchesDispatchAllowlist rt entries' event action repoFullName actorLogin
              commentBody =
            Throwing.matchesDispatchAllowlist rt entries event action repoFullName actorLogin
              commentBody) ∧
    ((∀ entries, ¬ Configures rt env entries) → ∃ err,
      Throwing.resolveDispatchAllowlist rt env = .error err ∧
        err.code = some "GITHUB_DISPATCH_ALLOWLIST_CONFIG_ERROR") := by
  have haccepted : ∀ entries, Throwing.resolveDispatchAllowlist rt env = .ok entries ↔
      Configures rt env entries := by
    intro entries
    rw [← resolveDispatchAllowlist_eq_ok_iff, Throwing.resolveDispatchAllowlist_eq]
    cases resolveDispatchAllowlist rt env <;> simp
  refine ⟨haccepted, fun entries hentries => ?_, fun hnone => ?_⟩
  · obtain ⟨A, hA, hvalid⟩ :=
      resolveDispatchAllowlist_encodes (resolveDispatchAllowlist_eq_ok_iff.mpr hentries)
    refine ⟨⟨A, hA, hvalid⟩, fun _ _ _ _ _ => ?_, fun _ hreordered _ _ _ _ _ => ?_⟩
    · rw [Throwing.matchesDispatchAllowlist_eq, Except.ok.injEq]
      exact matchesDispatchAllowlist_iff_some hA
    · rw [Throwing.matchesDispatchAllowlist_eq, Throwing.matchesDispatchAllowlist_eq,
        matchesDispatchAllowlist_reordered hA hreordered]
  · rw [Throwing.resolveDispatchAllowlist_eq]
    cases hresolved : resolveDispatchAllowlist rt env with
    | ok entries =>
        exact absurd (resolveDispatchAllowlist_eq_ok_iff.mp hresolved) (hnone entries)
    | error err =>
        exact ⟨err.thrown, rfl, congrArg some (resolveDispatchAllowlist_code hresolved)⟩

/-! ### One repository, one trusted author -/

/-- An allowlist with a trusted mention. -/
def grantedText : String :=
  "[" ++ ("\x7b\"repo\":\"o/r\",\"events\":[\x7b\"event\":\"issue_comment\"," ++
    "\"actions\":[\"created\"],\"trustedMention\":\x7b\"actors\":[\"alice\"]," ++
    "\"pattern\":\"^@bot\"\x7d\x7d]\x7d]")

/-- What that text parses to. -/
def grantedDocument : List Json :=
  [.obj [("repo", .str "o/r"), ("events", .arr [.obj
    [("event", .str "issue_comment"), ("actions", .arr [.str "created"]),
     ("trustedMention", .obj [("actors", .arr [.str "alice"]), ("pattern", .str "^@bot")])]])]]

/-- A runtime that parses this text and no other. -/
def grantedRuntime : Runtime where
  jsonParse text :=
    if text = grantedText then .ok (.arr grantedDocument) else .error "Unexpected token"
  compileRegExp source :=
    if source = "^@bot" then some fun text => "@bot".toList.isPrefixOf text.toList else none
  utf8Decode _ := ""
  hmacSha256Hex _ _ := ""

/-- An environment with this text as allowlist. -/
def grantedEnv (text : String) : Env := fun name =>
  if name = GITHUB_DISPATCH_ALLOWLIST_ENV then some text else none

/-- The allowlist the text writes. -/
def grantedAllowlist : Allowlist where
  entries := [⟨"o/r", [⟨"issue_comment", ["created"], some ⟨["alice"], "^@bot"⟩⟩], by simp⟩]
  repos_nodup := by simp

theorem grantedAllowlist_encodes : grantedAllowlist.Encodes grantedDocument := by
  refine .cons ⟨rfl, rfl, by decide, _, rfl, .cons ⟨rfl, rfl, rfl, fun _ => ?_⟩ .nil⟩ .nil
  exact ⟨_, rfl, rfl, rfl, rfl⟩

theorem grantedAllowlist_valid : grantedAllowlist.Valid grantedRuntime := by
  intro entry hentry
  obtain rfl := List.mem_singleton.mp hentry
  refine ⟨by decide, List.cons_ne_nil _ _, fun g hg => ?_⟩
  obtain rfl := List.mem_singleton.mp hg
  refine ⟨by decide, List.cons_ne_nil _ _, by decide, ?_⟩
  rintro tm ⟨⟩
  exact ⟨List.cons_ne_nil _ _, by decide, by decide, _, rfl⟩

theorem granted_configures :
    Configures grantedRuntime (grantedEnv grantedText) grantedDocument := by
  have hblank : trim grantedText ≠ "" :=
    trim_ne_empty (by rw [grantedText, String.toList_append]; rfl) (by decide)
  have hparse : grantedRuntime.jsonParse grantedText = .ok (.arr grantedDocument) := by
    simp only [grantedRuntime, if_true]
  exact .inr ⟨grantedText, rfl, hblank, hparse, grantedAllowlist, grantedAllowlist_encodes,
    grantedAllowlist_valid⟩

/-- The document is accepted and its grant counts; a text that is no document is refused
with the tagged error. -/
theorem granted_respected :
    Throwing.resolveDispatchAllowlist grantedRuntime (grantedEnv grantedText) =
        .ok grantedDocument ∧
      SomeEntryPermits grantedRuntime grantedDocument "issue_comment" (.json (.str "created"))
        (.json (.str "o/r")) (.json (.str "alice")) (.json (.str "@bot review")) ∧
      ∃ err, Throwing.resolveDispatchAllowlist grantedRuntime (grantedEnv "nothing") =
          .error err ∧ err.code = some "GITHUB_DISPATCH_ALLOWLIST_CONFIG_ERROR" := by
  have haccepted := resolveDispatchAllowlist_ignores_nothing grantedRuntime (grantedEnv grantedText)
  have hrefused := resolveDispatchAllowlist_ignores_nothing grantedRuntime (grantedEnv "nothing")
  refine ⟨(haccepted.1 _).mpr granted_configures,
    ((haccepted.2.1 _ granted_configures).2.1 _ _ _ _ _).mp rfl, hrefused.2.2 ?_⟩
  rintro entries (⟨hblank, -⟩ | ⟨_, ⟨⟩, -, hparse, -⟩)
  · exact absurd (hblank "nothing" rfl) (by decide)
  · cases hparse

end Webhook
