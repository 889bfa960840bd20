/-
ControlPlane/Webhook/Allowlist.lean

The dispatch allowlist: its validation (`resolveDispatchAllowlist`) and the
decision it takes (`matchesDispatchAllowlist`), both on the untyped JSON the
environment variable holds.

Over them stands what the allowlist is for.  An `Allowlist` is a set of grants:
repositories, the events and actions permitted there, and for `issue_comment`
the trusted actors and the pattern a comment must match.  Repeated repositories
and repeated events cannot be built.  `Allowlist.Permits` says what the grants
permit, with no order among them.

* `resolveDispatchAllowlist_eq_ok_iff`: what resolves is the configured document,
  and exactly the encodings of valid allowlists resolve;
* `matchesDispatchAllowlist_iff_permits`: on an encoded allowlist the first match
  the code takes decides exactly what the grants permit.
-/
import ControlPlane.Webhook.Config
import Mathlib.Data.List.Forall2
import Mathlib.Data.List.Nodup

namespace Webhook

open Js

/-! ### Validation -/

/-- The variable the allowlist is configured in. -/
def GITHUB_DISPATCH_ALLOWLIST_ENV : String := "GITHUB_DISPATCH_ALLOWLIST"

/-- What every fault of the allowlist is thrown as. -/
def throwDispatchAllowlistConfigError {α : Type} (detail : String) : Except ConfigError α :=
  .error
    { code := "GITHUB_DISPATCH_ALLOWLIST_CONFIG_ERROR"
      message := GITHUB_DISPATCH_ALLOWLIST_ENV ++ " " ++ detail }

/-- The elements as strings, when every one is a clean string. -/
def cleanStrings : List Json → Option (List String)
  | [] => some []
  | j :: rest =>
    match cleanString (.json j), cleanStrings rest with
    | some s, some ss => some (s :: ss)
    | _, _ => none

/-- A nonempty array of clean strings. -/
def cleanStringArray (v : Value) : Option (List String) :=
  match v.asArray with
  | some (j :: rest) => cleanStrings (j :: rest)
  | _ => none

/-- The actors of a `trustedMention`, when they are valid. -/
def trustedActors (trusted : Value) : Option (List String) :=
  if trusted.truthy then cleanStringArray (trusted.chain "actors") else none

/-- The pattern of a `trustedMention`, when it is valid: any string that is not
blank, padded or not. -/
def trustedPattern (trusted : Value) : Option String :=
  if trusted.truthy then
    (trusted.chain "pattern").asString.filter fun s => decide (trim s ≠ "")
  else none

/-- How an error names the entry it is about. -/
def entryFor (repo : String) : String := "entry for \"" ++ repo ++ "\""

/-- The extra check an `issue_comment` item must pass. -/
def validateTrustedMention (rt : Runtime) (repo : String) (trusted : Value) :
    Except ConfigError Unit :=
  match trustedActors trusted, trustedPattern trusted with
  | some _, some pattern =>
    match rt.compileRegExp pattern with
    | some _ => .ok ()
    | none => throwDispatchAllowlistConfigError
        (entryFor repo ++ " has an invalid trustedMention.pattern regular expression")
  | _, _ => throwDispatchAllowlistConfigError
      (entryFor repo ++ " permits issue_comment but is missing a valid trustedMention " ++
        "\x7bactors: string[], pattern: string\x7d")

/-- One element of `events`; gives the event it names. -/
def validateEventEntry (rt : Runtime) (repo : String) (seenEvents : List String)
    (eventEntry : Json) : Except ConfigError String :=
  match eventEntry with
  | .obj _ =>
    match cleanString (eventEntry.get "event") with
    | none => throwDispatchAllowlistConfigError
        (entryFor repo ++ " has an \"events\" item with a missing or malformed \"event\" " ++
          "(no leading/trailing whitespace allowed)")
    | some event =>
      if event ∈ seenEvents then throwDispatchAllowlistConfigError
        (entryFor repo ++ " has more than one \"events\" item for event \"" ++ event ++
          "\" -- merge them into one item with combined actions/trustedMention instead")
      else match cleanStringArray (eventEntry.get "actions") with
        | none => throwDispatchAllowlistConfigError
            (entryFor repo ++ " event \"" ++ event ++ "\" must have a non-empty \"actions\" " ++
              "array of strings with no leading/trailing whitespace")
        | some _ =>
          -- only this event can come from anyone, so only it needs a trusted mention
          if event = "issue_comment" then
            (validateTrustedMention rt repo (eventEntry.get "trustedMention")).map fun _ => event
          else .ok event
  | _ => throwDispatchAllowlistConfigError (entryFor repo ++ " has a malformed \"events\" item")

/-- The elements of `events` in order, with the events seen so far. -/
def validateEvents (rt : Runtime) (repo : String) (seenEvents : List String) :
    List Json → Except ConfigError Unit
  | [] => .ok ()
  | eventEntry :: rest =>
    match validateEventEntry rt repo seenEvents eventEntry with
    | .error e => .error e
    | .ok event => validateEvents rt repo (event :: seenEvents) rest

/-- One entry of the allowlist; gives the repository it names. -/
def validateDispatchAllowlistEntry (rt : Runtime) (entry : Json) : Except ConfigError String :=
  match entry with
  | .obj _ =>
    match cleanString (entry.get "repo") with
    | none => throwDispatchAllowlistConfigError
        "each entry must have a non-empty string \"repo\" with no leading/trailing whitespace"
    | some repo =>
      match (entry.get "events").asArray with
      | some (eventEntry :: rest) =>
        (validateEvents rt repo [] (eventEntry :: rest)).map fun _ => repo
      | _ => throwDispatchAllowlistConfigError
          (entryFor repo ++ " must have a non-empty \"events\" array")
  | _ => throwDispatchAllowlistConfigError "each entry must be a JSON object"

/-- All entries are validated; gives the repositories in order. -/
def validateEntries (rt : Runtime) : List Json → Except ConfigError (List String)
  | [] => .ok []
  | entry :: rest =>
    match validateDispatchAllowlistEntry rt entry with
    | .error e => .error e
    | .ok repo => (validateEntries rt rest).map (repo :: ·)

/-- The check that no repository is named twice. -/
def checkRepos (seenRepos : List String) : List String → Except ConfigError Unit
  | [] => .ok ()
  | repo :: rest =>
    if repo ∈ seenRepos then throwDispatchAllowlistConfigError
      ("has more than one entry for repo \"" ++ repo ++
        "\" -- merge them into one entry with combined events instead")
    else checkRepos (repo :: seenRepos) rest

/-- The entries of the configured allowlist, or the first fault found in it. -/
def resolveDispatchAllowlist (rt : Runtime) (env : Env) : Except ConfigError (List Json) :=
  match env GITHUB_DISPATCH_ALLOWLIST_ENV with
  | none => .ok []
  | some raw =>
    if trim raw = "" then .ok []
    else match rt.jsonParse raw with
      | .error _ => throwDispatchAllowlistConfigError (notParseable raw)
      | .ok (.arr parsed) =>
        match validateEntries rt parsed with
        | .error e => .error e
        | .ok repos => (checkRepos [] repos).map fun _ => parsed
      | .ok _ => throwDispatchAllowlistConfigError "must be a JSON array"

/-! ### The decision -/

/-- The trust gate of an `issue_comment` item. -/
def matchesTrustedMention (rt : Runtime) (trusted actorLogin commentBody : Value) : Bool :=
  if trusted.truthy then
    match (trusted.chain "actors").asArray, (trusted.chain "pattern").asString,
        actorLogin.asString, commentBody.asString with
    | some actors, some pattern, some login, some body =>
      actors.any (fun a => (Value.json a).isString login) &&
        (match rt.compileRegExp pattern with
          | some test => test body
          | none => false)
    | _, _, _, _ => false
  else false

/-- An `events` item that names the event and lists the action. -/
def eventEntryPermits (event : String) (action : Value) (e : Json) : Bool :=
  e.truthy && (e.get "event").isString event &&
    (match (e.get "actions").asArray, action.asString with
      | some actions, some action => actions.any fun a => (Value.json a).isString action
      | _, _ => false)

/-- The first entry of the repository, then its first item for the event and
action, then the trust gate. -/
def matchesDispatchAllowlist (rt : Runtime) (entries : List Json) (event : String)
    (action repoFullName actorLogin commentBody : Value) : Bool :=
  match repoFullName.asString with
  | none => false
  | some repo =>
    if repo = "" then false
    else (entries.find? fun e => e.truthy && (e.get "repo").isString repo).any fun repoEntry =>
      match (repoEntry.get "events").asArray with
      | none => false
      | some events => (events.find? (eventEntryPermits event action)).any fun eventEntry =>
          if event = "issue_comment" then
            matchesTrustedMention rt (eventEntry.get "trustedMention") actorLogin commentBody
          else true

/-! ### Grants -/

/-- Whose comments are trusted, and the pattern they must match. -/
structure TrustedMention where
  actors : List String
  pattern : String

/-- The actions of one event that may be dispatched. -/
structure EventGrant where
  event : String
  actions : List String
  trustedMention : Option TrustedMention

/-- The grants of one repository, one for each event. -/
structure RepoGrant where
  repo : String
  events : List EventGrant
  events_nodup : (events.map EventGrant.event).Nodup

/-- The grants of a deployment, one for each repository. -/
structure Allowlist where
  entries : List RepoGrant
  repos_nodup : (entries.map RepoGrant.repo).Nodup

/-- Someone is trusted, by a clean name, and the pattern is one; a pattern is no
identifier and may be padded. -/
structure TrustedMention.Valid (rt : Runtime) (tm : TrustedMention) : Prop where
  actors_ne : tm.actors ≠ []
  actors : ∀ a ∈ tm.actors, IsClean a
  pattern_ne : trim tm.pattern ≠ ""
  compiles : ∃ test, rt.compileRegExp tm.pattern = some test

/-- The event and its actions have clean names, and there is an action. -/
structure EventGrant.Valid (rt : Runtime) (g : EventGrant) : Prop where
  event : IsClean g.event
  actions_ne : g.actions ≠ []
  actions : ∀ a ∈ g.actions, IsClean a
  mention : ∀ tm, g.trustedMention = some tm → tm.Valid rt

/-- The repository has a clean name, and something is permitted there. -/
structure RepoGrant.Valid (rt : Runtime) (entry : RepoGrant) : Prop where
  repo : IsClean entry.repo
  events_ne : entry.events ≠ []
  events : ∀ g ∈ entry.events, g.Valid rt

/-- What an allowlist must satisfy besides its shape. -/
def Allowlist.Valid (rt : Runtime) (A : Allowlist) : Prop := ∀ entry ∈ A.entries, entry.Valid rt

/-- The comment's author is trusted and its body matches the pattern. -/
def TrustedMention.Trusts (rt : Runtime) (tm : TrustedMention) (actorLogin commentBody : Value) :
    Prop :=
  ∃ login body test, actorLogin = .json (.str login) ∧ commentBody = .json (.str body) ∧
    login ∈ tm.actors ∧ rt.compileRegExp tm.pattern = some test ∧ test body = true

/-- The grant covers the event and the action. -/
def EventGrant.Covers (g : EventGrant) (event : String) (action : Value) : Prop :=
  g.event = event ∧ ∃ a ∈ g.actions, action = .json (.str a)

/-- The gate only `issue_comment` has. -/
def EventGrant.Gate (rt : Runtime) (g : EventGrant) (event : String)
    (actorLogin commentBody : Value) : Prop :=
  event = "issue_comment" →
    ∃ tm, g.trustedMention = some tm ∧ tm.Trusts rt actorLogin commentBody

/-- Some grant for the repository covers the event and the action, and its gate
lets the delivery through. -/
def Allowlist.Permits (rt : Runtime) (A : Allowlist) (event : String) (action : Value)
    (repo : String) (actorLogin commentBody : Value) : Prop :=
  ∃ entry ∈ A.entries, entry.repo = repo ∧
    ∃ g ∈ entry.events, g.Covers event action ∧ g.Gate rt event actorLogin commentBody

/-! ### How grants are written in JSON -/

/-- The value is this trusted mention, written as JSON. -/
def TrustedMention.Encodes (tm : TrustedMention) (v : Value) : Prop :=
  v.truthy = true ∧ v.chain "actors" = .json (.arr (tm.actors.map .str)) ∧
    v.chain "pattern" = .json (.str tm.pattern)

/-- The value is this grant of an event, written as JSON. -/
structure EventGrant.Encodes (g : EventGrant) (j : Json) : Prop where
  truthy : j.truthy = true
  event : j.get "event" = .json (.str g.event)
  actions : j.get "actions" = .json (.arr (g.actions.map .str))
  mention : g.event = "issue_comment" →
    ∃ tm, g.trustedMention = some tm ∧ tm.Encodes (j.get "trustedMention")

/-- The value is this grant of a repository, written as JSON. -/
structure RepoGrant.Encodes (entry : RepoGrant) (j : Json) : Prop where
  truthy : j.truthy = true
  repo : j.get "repo" = .json (.str entry.repo)
  repo_ne : entry.repo ≠ ""
  events : ∃ items, j.get "events" = .json (.arr items) ∧
    List.Forall₂ EventGrant.Encodes entry.events items

/-- The entries are this allowlist, grant by grant. -/
def Allowlist.Encodes (A : Allowlist) (entries : List Json) : Prop :=
  List.Forall₂ RepoGrant.Encodes A.entries entries

/-! ### What resolves encodes an allowlist -/

/-- Strings are clean one by one. -/
theorem cleanStrings_cons {j : Json} {rest : List Json} {ss : List String}
    (h : cleanStrings (j :: rest) = some ss) :
    ∃ s tail, ss = s :: tail ∧ j = .str s ∧ IsClean s ∧ cleanStrings rest = some tail := by
  rcases ej : cleanString (.json j) with - | s
  · simp [cleanStrings, ej] at h
  · rcases er : cleanStrings rest with - | tail
    · simp [cleanStrings, ej, er] at h
    · simp only [cleanStrings, ej, er, Option.some.injEq] at h
      obtain ⟨hj, hclean⟩ := cleanString_eq_some.mp ej
      exact ⟨s, tail, h.symm, by simpa using hj, hclean, rfl⟩

theorem cleanStrings_eq_some {js : List Json} {ss : List String}
    (h : cleanStrings js = some ss) : js = ss.map .str := by
  induction js generalizing ss with
  | nil =>
      obtain rfl := Option.some.inj h
      rfl
  | cons j rest ih =>
      obtain ⟨s, tail, rfl, rfl, -, hrest⟩ := cleanStrings_cons h
      rw [ih hrest, List.map_cons]

theorem cleanStrings_clean {js : List Json} {ss : List String}
    (h : cleanStrings js = some ss) : ∀ s ∈ ss, IsClean s := by
  induction js generalizing ss with
  | nil =>
      obtain rfl := Option.some.inj h
      intro s hs
      cases hs
  | cons j rest ih =>
      obtain ⟨s, tail, rfl, -, hclean, hrest⟩ := cleanStrings_cons h
      exact List.forall_mem_cons.mpr ⟨hclean, ih hrest⟩

/-- Clean strings are read back as they are. -/
theorem cleanStrings_map {ss : List String} (h : ∀ s ∈ ss, IsClean s) :
    cleanStrings (ss.map .str) = some ss := by
  induction ss with
  | nil => rfl
  | cons s ss ih =>
      have hs : cleanString (.json (.str s)) = some s :=
        cleanString_eq_some.mpr ⟨rfl, h s (List.mem_cons_self ..)⟩
      rw [List.map_cons, cleanStrings, hs, ih fun s hs => h s (List.mem_cons_of_mem _ hs)]

theorem cleanStringArray_eq_some {v : Value} {ss : List String} :
    cleanStringArray v = some ss ↔
      v = .json (.arr (ss.map .str)) ∧ ss ≠ [] ∧ ∀ s ∈ ss, IsClean s := by
  unfold cleanStringArray
  constructor
  · intro h
    split at h
    · next j rest e =>
        obtain ⟨s, tail, rfl, -, -, -⟩ := cleanStrings_cons h
        refine ⟨?_, List.cons_ne_nil _ _, cleanStrings_clean h⟩
        rw [asArray_eq_some.mp e, cleanStrings_eq_some h]
    · cases h
  · rintro ⟨rfl, hne, hclean⟩
    cases ss with
    | nil => exact absurd rfl hne
    | cons s ss => exact cleanStrings_map hclean

/-- A `trustedMention` passes exactly if it is a valid one. -/
theorem validateTrustedMention_eq_ok_iff {rt : Runtime} {repo : String} {trusted : Value} :
    validateTrustedMention rt repo trusted = .ok () ↔
      ∃ tm : TrustedMention, tm.Encodes trusted ∧ tm.Valid rt := by
  constructor
  · intro h
    unfold validateTrustedMention at h
    split at h
    · next actors pattern ha hp =>
        unfold trustedActors at ha
        unfold trustedPattern at hp
        split at h
        · next test hcompiles =>
            by_cases ht : trusted.truthy = true
            · rw [if_pos ht] at ha hp
              rw [Option.filter_eq_some_iff, asString_eq_some] at hp
              obtain ⟨hactors, hne, hclean⟩ := cleanStringArray_eq_some.mp ha
              exact ⟨⟨actors, pattern⟩, ⟨ht, hactors, hp.1⟩,
                ⟨hne, hclean, of_decide_eq_true hp.2, test, hcompiles⟩⟩
            · rw [if_neg ht] at ha
              cases ha
        · cases h
    · cases h
  · rintro ⟨⟨actors, pattern⟩, ⟨ht, hactors, hpattern⟩, hne, hclean, hblank, test, hcompiles⟩
    have ha : trustedActors trusted = some actors := by
      rw [trustedActors, if_pos ht]
      exact cleanStringArray_eq_some.mpr ⟨hactors, hne, hclean⟩
    have hp : trustedPattern trusted = some pattern := by
      rw [trustedPattern, if_pos ht, Option.filter_eq_some_iff, asString_eq_some]
      exact ⟨hpattern, decide_eq_true hblank⟩
    rw [validateTrustedMention, ha, hp]
    show (match rt.compileRegExp pattern with | some _ => _ | none => _) = _
    rw [hcompiles]

/-- Only an object has a string behind a name that nothing inherits. -/
theorem exists_fields {j : Json} {name s : String} (h : j.get name = .json (.str s)) :
    ∃ fields, j = .obj fields := by
  cases j with
  | obj fields => exact ⟨fields, rfl⟩
  | null | bool | num | str | arr =>
      simp only [Json.get, Json.fields, List.lookup_nil] at h
      split at h <;> cases h

/-- An item passes exactly if it encodes a valid grant for an event not seen before. -/
theorem validateEventEntry_eq_ok_iff {rt : Runtime} {repo event : String}
    {seenEvents : List String} {eventEntry : Json} :
    validateEventEntry rt repo seenEvents eventEntry = .ok event ↔
      event ∉ seenEvents ∧
        ∃ g : EventGrant, g.event = event ∧ g.Encodes eventEntry ∧ g.Valid rt := by
  constructor
  · intro h
    unfold validateEventEntry at h
    split at h
    · next fields =>
      split at h
      · cases h
      · next name hname =>
        obtain ⟨he, hevent⟩ := cleanString_eq_some.mp hname
        split at h
        · cases h
        · next hseen =>
          split at h
          · cases h
          · next actions hactions =>
            obtain ⟨ha, hne, hclean⟩ := cleanStringArray_eq_some.mp hactions
            -- only a comment needs a trusted mention, which is validated with it
            by_cases hc : name = "issue_comment"
            · rw [if_pos hc] at h
              rcases ev : validateTrustedMention rt repo ((Json.obj fields).get "trustedMention")
                with e | u
              · simp [ev, Except.map] at h
              · obtain rfl : name = event := by simpa [ev, Except.map] using h
                obtain ⟨tm, htm, hvalid⟩ := validateTrustedMention_eq_ok_iff.mp ev
                refine ⟨hseen, ⟨name, actions, some tm⟩, rfl,
                  ⟨rfl, he, ha, fun _ => ⟨tm, rfl, htm⟩⟩, hevent, hne, hclean, ?_⟩
                rintro tm' ⟨⟩
                exact hvalid
            · rw [if_neg hc] at h
              obtain rfl : name = event := by simpa using h
              exact ⟨hseen, ⟨name, actions, none⟩, rfl, ⟨rfl, he, ha, fun h' => absurd h' hc⟩,
                hevent, hne, hclean, fun tm h' => (nomatch h')⟩
    · cases h
  · rintro ⟨hseen, g, rfl, hg, hvalid⟩
    obtain ⟨fields, rfl⟩ := exists_fields hg.event
    have hname : cleanString ((Json.obj fields).get "event") = some g.event :=
      cleanString_eq_some.mpr ⟨hg.event, hvalid.event⟩
    have hactions : cleanStringArray ((Json.obj fields).get "actions") = some g.actions :=
      cleanStringArray_eq_some.mpr ⟨hg.actions, hvalid.actions_ne, hvalid.actions⟩
    simp only [validateEventEntry, hname, hactions, if_neg hseen]
    by_cases hc : g.event = "issue_comment"
    · obtain ⟨tm, htm, henc⟩ := hg.mention hc
      have hmention : validateTrustedMention rt repo ((Json.obj fields).get "trustedMention") =
          .ok () :=
        validateTrustedMention_eq_ok_iff.mpr ⟨tm, henc, hvalid.mention tm htm⟩
      rw [if_pos hc, hmention]
      rfl
    · rw [if_neg hc]

/-- Items pass exactly if they encode valid grants for pairwise distinct events, none
seen before. -/
theorem validateEvents_eq_ok_iff {rt : Runtime} {repo : String} {items : List Json}
    {seenEvents : List String} :
    validateEvents rt repo seenEvents items = .ok () ↔
      ∃ gs : List EventGrant, (gs.map EventGrant.event).Nodup ∧
        (∀ g ∈ gs, g.event ∉ seenEvents) ∧ List.Forall₂ EventGrant.Encodes gs items ∧
        ∀ g ∈ gs, g.Valid rt := by
  induction items generalizing seenEvents with
  | nil => exact iff_of_true rfl ⟨[], by simp, by simp, .nil, by simp⟩
  | cons eventEntry rest ih =>
      constructor
      · intro h
        rcases ev : validateEventEntry rt repo seenEvents eventEntry with e | event
        · simp [validateEvents, ev] at h
        · simp only [validateEvents, ev] at h
          obtain ⟨hseen, g, rfl, hg, hvalid⟩ := validateEventEntry_eq_ok_iff.mp ev
          obtain ⟨gs, hnodup, hfresh, hgs, hrest⟩ := ih.mp h
          refine ⟨g :: gs, ?_, ?_, .cons hg hgs, List.forall_mem_cons.mpr ⟨hvalid, hrest⟩⟩
          · rw [List.map_cons, List.nodup_cons]
            refine ⟨fun hmem => ?_, hnodup⟩
            obtain ⟨g', hg', he⟩ := List.mem_map.mp hmem
            exact hfresh g' hg' (by simp [he])
          · intro g' hg'
            rcases List.mem_cons.mp hg' with rfl | hg'
            · exact hseen
            · exact fun hs => hfresh g' hg' (List.mem_cons_of_mem _ hs)
      · rintro ⟨gs, hnodup, hfresh, hall, hvalid⟩
        cases hall with
        | @cons g _ gs _ hg hgs =>
            rw [List.map_cons, List.nodup_cons] at hnodup
            have hfirst : validateEventEntry rt repo seenEvents eventEntry = .ok g.event :=
              validateEventEntry_eq_ok_iff.mpr ⟨hfresh g (by simp), g, rfl, hg, hvalid g (by simp)⟩
            simp only [validateEvents, hfirst]
            refine ih.mpr ⟨gs, hnodup.2, fun g' hg' => ?_, hgs,
              fun g' hg' => hvalid g' (List.mem_cons_of_mem _ hg')⟩
            -- the first event is seen by now, and the others are not it
            rw [List.mem_cons, not_or]
            refine ⟨fun heq => hnodup.1 ?_, hfresh g' (List.mem_cons_of_mem _ hg')⟩
            rw [← heq]
            exact List.mem_map_of_mem hg'

theorem validateDispatchAllowlistEntry_eq_ok_iff {rt : Runtime} {entry : Json} {repo : String} :
    validateDispatchAllowlistEntry rt entry = .ok repo ↔
      ∃ g : RepoGrant, g.repo = repo ∧ g.Encodes entry ∧ g.Valid rt := by
  constructor
  · intro h
    unfold validateDispatchAllowlistEntry at h
    split at h
    · next fields =>
      split at h
      · cases h
      · next name hname =>
        obtain ⟨he, hclean⟩ := cleanString_eq_some.mp hname
        split at h
        · next eventEntry rest hitems =>
          rcases ev : validateEvents rt name [] (eventEntry :: rest) with e | u
          · simp [ev, Except.map] at h
          · obtain rfl : name = repo := by simpa [ev, Except.map] using h
            obtain ⟨gs, hnodup, -, hgs, hevents⟩ := validateEvents_eq_ok_iff.mp ev
            refine ⟨⟨name, gs, hnodup⟩, rfl, ⟨rfl, he, hclean.ne_empty, _,
              asArray_eq_some.mp hitems, hgs⟩, hclean, ?_, hevents⟩
            rintro rfl
            cases hgs
        · cases h
    · cases h
  · rintro ⟨⟨name, gs, hnodup⟩, rfl, ⟨-, he, -, items, hitems, hgs⟩, hvalid⟩
    obtain ⟨fields, rfl⟩ := exists_fields he
    have hname : cleanString ((Json.obj fields).get "repo") = some name :=
      cleanString_eq_some.mpr ⟨he, hvalid.repo⟩
    have hevents : validateEvents rt name [] items = .ok () :=
      validateEvents_eq_ok_iff.mpr ⟨gs, hnodup, by simp, hgs, hvalid.events⟩
    cases hgs with
    | nil => exact absurd rfl hvalid.events_ne
    | cons hg hgs =>
        simp only [validateDispatchAllowlistEntry, hname, hitems, Value.asArray, hevents]
        rfl

theorem validateEntries_eq_ok_iff {rt : Runtime} {entries : List Json} {repos : List String} :
    validateEntries rt entries = .ok repos ↔
      ∃ gs : List RepoGrant, gs.map RepoGrant.repo = repos ∧
        List.Forall₂ RepoGrant.Encodes gs entries ∧ ∀ g ∈ gs, g.Valid rt := by
  induction entries generalizing repos with
  | nil =>
      constructor
      · intro h
        obtain rfl := Except.ok.inj h
        exact ⟨[], rfl, .nil, by simp⟩
      · rintro ⟨gs, rfl, hgs, -⟩
        cases hgs
        rfl
  | cons entry rest ih =>
      constructor
      · intro h
        rcases ev : validateDispatchAllowlistEntry rt entry with e | repo
        · simp [validateEntries, ev] at h
        · rcases er : validateEntries rt rest with e | tail
          · simp [validateEntries, ev, er, Except.map] at h
          · obtain rfl : repo :: tail = repos := by
              simpa [validateEntries, ev, er, Except.map] using h
            obtain ⟨g, rfl, hg, hvalid⟩ := validateDispatchAllowlistEntry_eq_ok_iff.mp ev
            obtain ⟨gs, rfl, hgs, hrest⟩ := ih.mp er
            exact ⟨g :: gs, rfl, .cons hg hgs, List.forall_mem_cons.mpr ⟨hvalid, hrest⟩⟩
      · rintro ⟨gs, rfl, hall, hvalid⟩
        cases hall with
        | @cons g _ gs _ hg hgs =>
            have hfirst := validateDispatchAllowlistEntry_eq_ok_iff.mpr
              ⟨g, rfl, hg, hvalid g (by simp)⟩
            have hrest := ih.mpr ⟨gs, rfl, hgs, fun g' hg' => hvalid g' (List.mem_cons_of_mem _ hg')⟩
            simp only [validateEntries, hfirst, hrest]
            rfl

theorem checkRepos_eq_ok_iff {repos seenRepos : List String} :
    checkRepos seenRepos repos = .ok () ↔ repos.Nodup ∧ ∀ r ∈ repos, r ∉ seenRepos := by
  induction repos generalizing seenRepos with
  | nil => simp [checkRepos]
  | cons repo rest ih =>
      unfold checkRepos
      by_cases hs : repo ∈ seenRepos
      · rw [if_pos hs]
        exact iff_of_false (fun h => (nomatch h)) fun h => h.2 repo (by simp) hs
      · rw [if_neg hs, ih, List.nodup_cons, List.forall_mem_cons]
        simp only [List.mem_cons, not_or]
        constructor
        · rintro ⟨hnodup, hfresh⟩
          exact ⟨⟨fun hmem => (hfresh repo hmem).1 rfl, hnodup⟩, hs, fun r hr => (hfresh r hr).2⟩
        · rintro ⟨⟨hnew, hnodup⟩, -, hfresh⟩
          exact ⟨hnodup, fun r hr => ⟨fun heq => hnew (heq ▸ hr), hfresh r hr⟩⟩

/-- What the variable holds as the grants of a deployment: nothing, or the text of an
array that encodes a valid allowlist. -/
def Configures (rt : Runtime) (env : Env) (entries : List Json) : Prop :=
  ((∀ raw, env GITHUB_DISPATCH_ALLOWLIST_ENV = some raw → trim raw = "") ∧ entries = []) ∨
    ∃ raw, env GITHUB_DISPATCH_ALLOWLIST_ENV = some raw ∧ trim raw ≠ "" ∧
      rt.jsonParse raw = .ok (.arr entries) ∧
      ∃ A : Allowlist, A.Encodes entries ∧ A.Valid rt

/-- **What resolves is what is configured**: exactly the valid allowlists are accepted. -/
theorem resolveDispatchAllowlist_eq_ok_iff {rt : Runtime} {env : Env} {entries : List Json} :
    resolveDispatchAllowlist rt env = .ok entries ↔ Configures rt env entries := by
  unfold resolveDispatchAllowlist Configures
  rcases henv : env GITHUB_DISPATCH_ALLOWLIST_ENV with - | raw
  · simp
  · by_cases hblank : trim raw = ""
    · simp [hblank]
    · have hnot : ¬ ((∀ text, some raw = some text → trim text = "") ∧ entries = []) :=
        fun h => hblank (h.1 raw rfl)
      simp only [if_neg hblank, hnot, false_or]
      constructor
      · intro h
        split at h
        · cases h
        · next parsed hparse =>
            split at h
            · cases h
            · next repos hv =>
                rcases ec : checkRepos [] repos with e | u
                · simp [ec, Except.map] at h
                · obtain rfl : parsed = entries := by simpa [ec, Except.map] using h
                  obtain ⟨gs, rfl, hgs, hvalid⟩ := validateEntries_eq_ok_iff.mp hv
                  exact ⟨raw, rfl, hblank, hparse, ⟨gs, (checkRepos_eq_ok_iff.mp ec).1⟩, hgs,
                    hvalid⟩
        · cases h
      · rintro ⟨_, ⟨⟩, -, hparse, A, hA, hvalid⟩
        have hentries := validateEntries_eq_ok_iff.mpr ⟨A.entries, rfl, hA, hvalid⟩
        have hrepos : checkRepos [] (A.entries.map RepoGrant.repo) = .ok () :=
          checkRepos_eq_ok_iff.mpr ⟨A.repos_nodup, by simp⟩
        simp only [hparse, hentries, hrepos]
        rfl

/-- Whatever resolves encodes an allowlist. -/
theorem resolveDispatchAllowlist_encodes {rt : Runtime} {env : Env} {entries : List Json}
    (h : resolveDispatchAllowlist rt env = .ok entries) :
    ∃ A : Allowlist, A.Encodes entries ∧ A.Valid rt := by
  rcases resolveDispatchAllowlist_eq_ok_iff.mp h with ⟨-, rfl⟩ | ⟨_, -, -, -, hA⟩
  · exact ⟨⟨[], by simp⟩, .nil, fun entry hentry => (nomatch hentry)⟩
  · exact hA

/-! ### The first match decides what the grants permit -/

/-- Where at most one grant can satisfy the search, taking the first encoded
match decides whether some grant satisfies the search and the rest. -/
theorem find?_any_iff {γ : Type} {R : γ → Json → Prop} {gs : List γ} {js : List Json}
    {p f : Json → Bool} {P F : γ → Prop} (h : List.Forall₂ R gs js)
    (hp : ∀ g j, R g j → (p j = true ↔ P g))
    (hf : ∀ g j, R g j → P g → (f j = true ↔ F g))
    (hu : gs.Pairwise fun a b => ¬ (P a ∧ P b)) :
    (js.find? p).any f = true ↔ ∃ g ∈ gs, P g ∧ F g := by
  induction h with
  | nil => simp
  | @cons g j gs js hr hrest ih =>
      obtain ⟨hfirst, hu'⟩ := List.pairwise_cons.mp hu
      by_cases hpj : p j = true
      -- the search stops here, and no later grant satisfies it
      · have hP : P g := (hp g j hr).mp hpj
        simp only [List.find?_cons, hpj, Option.any_some]
        constructor
        · intro hfj
          exact ⟨g, by simp, hP, (hf g j hr hP).mp hfj⟩
        · rintro ⟨g', hg', hP', hF'⟩
          rcases List.mem_cons.mp hg' with rfl | hg'
          · exact (hf g' j hr hP').mpr hF'
          · exact absurd ⟨hP, hP'⟩ (hfirst g' hg')
      -- the search goes on past this one
      · have hP : ¬ P g := fun hP => hpj ((hp g j hr).mpr hP)
        simp only [List.find?_cons, hpj, ih hu']
        constructor
        · rintro ⟨g', hg', hx⟩
          exact ⟨g', List.mem_cons_of_mem _ hg', hx⟩
        · rintro ⟨g', hg', hP', hF'⟩
          rcases List.mem_cons.mp hg' with rfl | hg'
          · exact absurd hP' hP
          · exact ⟨g', hg', hP', hF'⟩

theorem exists_encoded {γ : Type} {R : γ → Json → Prop} {gs : List γ} {js : List Json}
    (h : List.Forall₂ R gs js) {g : γ} (hg : g ∈ gs) : ∃ j ∈ js, R g j := by
  induction h with
  | nil => cases hg
  | @cons g' j gs js hr hrest ih =>
      rcases List.mem_cons.mp hg with rfl | hg
      · exact ⟨j, by simp, hr⟩
      · obtain ⟨j', hj', hr'⟩ := ih hg
        exact ⟨j', List.mem_cons_of_mem _ hj', hr'⟩

/-- Grants with distinct keys: at most one has a given key. -/
theorem pairwise_of_nodup_map {γ : Type} {key : γ → String} {gs : List γ} {k : String}
    {P : γ → Prop} (h : (gs.map key).Nodup) (hP : ∀ g, P g → key g = k) :
    gs.Pairwise fun a b => ¬ (P a ∧ P b) := by
  have hd : gs.Pairwise fun a b => key a ≠ key b := List.pairwise_map.mp h
  exact hd.imp fun hne hab => hne ((hP _ hab.1).trans (hP _ hab.2).symm)

theorem any_isString_iff {ss : List String} {s : String} :
    ((ss.map Json.str).any fun a => (Value.json a).isString s) = true ↔ s ∈ ss := by
  simp only [List.any_map, List.any_eq_true, Function.comp_apply, isString_iff,
    Value.json.injEq, Json.str.injEq, exists_eq_right]

theorem matchesTrustedMention_iff {rt : Runtime} {tm : TrustedMention} {v : Value}
    {actorLogin commentBody : Value} (h : tm.Encodes v) :
    matchesTrustedMention rt v actorLogin commentBody = true ↔
      tm.Trusts rt actorLogin commentBody := by
  obtain ⟨ht, ha, hp⟩ := h
  simp only [matchesTrustedMention, ht, if_true, ha, hp, Value.asArray, TrustedMention.Trusts]
  rcases el : actorLogin.asString with - | login
  · simp [ne_str_of_asString el]
  · rw [asString_eq_some] at el
    subst el
    rcases eb : commentBody.asString with - | body
    · simp [ne_str_of_asString eb]
    · rw [asString_eq_some] at eb
      subst eb
      simp only [Value.asString, Bool.and_eq_true, any_isString_iff]
      rcases rt.compileRegExp tm.pattern with - | test
      · simp
      · simp

theorem eventEntryPermits_iff {g : EventGrant} {j : Json} {event : String} {action : Value}
    (h : g.Encodes j) : eventEntryPermits event action j = true ↔ g.Covers event action := by
  simp only [eventEntryPermits, h.truthy, h.event, h.actions, Bool.true_and,
    Bool.and_eq_true, isString_iff, Value.asArray, Value.json.injEq, Json.str.injEq,
    EventGrant.Covers]
  refine and_congr_right fun _ => ?_
  rcases ea : action.asString with - | a
  · simp [ne_str_of_asString ea]
  · rw [asString_eq_some] at ea
    subst ea
    rw [any_isString_iff]
    simp

/-- **The first match decides what the grants permit**, whatever the order of
the entries and of the items. -/
theorem matchesDispatchAllowlist_iff_permits {rt : Runtime} {A : Allowlist}
    {entries : List Json} (h : A.Encodes entries) {event : String}
    {action repoFullName actorLogin commentBody : Value} :
    matchesDispatchAllowlist rt entries event action repoFullName actorLogin commentBody = true ↔
      ∃ repo, repoFullName = .json (.str repo) ∧
        A.Permits rt event action repo actorLogin commentBody := by
  unfold matchesDispatchAllowlist
  rcases er : repoFullName.asString with - | repo
  · simp [ne_str_of_asString er]
  · rw [asString_eq_some] at er
    subst er
    simp only [Value.json.injEq, Json.str.injEq, exists_eq_left']
    by_cases hempty : repo = ""
    · -- no entry names the empty repository
      simp only [hempty, if_true, Bool.false_eq_true, false_iff]
      rintro ⟨entry, hmem, hrepo, -⟩
      obtain ⟨j, -, hj⟩ := exists_encoded h hmem
      exact hj.repo_ne hrepo
    -- the first entry of the repository, and in it the first item of the event and action
    · rw [if_neg hempty]
      refine find?_any_iff h (P := fun e => e.repo = repo) ?_ ?_
        (pairwise_of_nodup_map A.repos_nodup fun _ he => he)
      · intro e j he
        simp [he.truthy, he.repo]
      · intro e j he _
        obtain ⟨items, hitems, hgs⟩ := he.events
        simp only [hitems, Value.asArray]
        refine find?_any_iff hgs (fun g j hg => eventEntryPermits_iff hg) ?_
          (pairwise_of_nodup_map e.events_nodup fun g hg => hg.1)
        intro g j hg hcovers
        by_cases hc : event = "issue_comment"
        · obtain ⟨tm, htm, henc⟩ := hg.mention (hcovers.1.trans hc)
          rw [if_pos hc, matchesTrustedMention_iff henc]
          simp [EventGrant.Gate, hc, htm]
        · simp [hc, EventGrant.Gate]

end Webhook
