/-
ControlPlane/Railway/Origins.lean

`patchAllowedOrigins` changes one list of the configuration, at most once, or nothing.

The configurations are compared as values, path by path.  `planOrigins_cases` says what
is to be done with one whose records are records: the document that is posted has the
origin after the others in its list, and is the one that was read everywhere else
(`AllowsToo`).  It is posted as a text, so it is the same value that is stored only if
the text is read back; `ParsesJson` is what is relied on of `JSON.parse` there, and a
reader that satisfies it is at the end (`readerRuntime`).
-/
import ControlPlane.Railway.Documents
import ControlPlane.Railway.Records

namespace Railway

open Js Interaction

/-! ### Configurations -/

/-- Where the settings of the control UI stand. -/
def controlUiPath : List Step := [.name "gateway", .name "controlUi"]

/-- Where the allowed origins stand. -/
def originsPath : List Step := [.name "gateway", .name "controlUi", .name "allowedOrigins"]

/-- The records on the way to the list are records or absent, and the list is a list or
absent. -/
structure WellShaped (config : Json) : Prop where
  record : config.node = .obj
  gateway : config.nodeAt [.name "gateway"] = none ∨ config.nodeAt [.name "gateway"] = some .obj
  controlUi : config.nodeAt controlUiPath = none ∨ config.nodeAt controlUiPath = some .obj
  origins : config.nodeAt originsPath = none ∨ ∃ n, config.nodeAt originsPath = some (.arr n)

/-- The elements of what is an array, and none otherwise. -/
def itemsOf : Option Json → List Json
  | some (.arr items) => items
  | _ => []

/-- The elements of the list; there are none where there is no list. -/
def originsOf (config : Json) : List Json := itemsOf (config.at originsPath)

/-- `gateway.mode` is a text that is not blank. -/
def HasMode (config : Json) : Prop :=
  ∃ mode, config.nodeAt [.name "gateway", .name "mode"] = some (.str mode) ∧ trim mode ≠ ""

/-- The document with the origin after those of the list, and otherwise the same.  The
record of the list is there, also if it was absent. -/
structure AllowsToo (config posted : Json) (origin : String) : Prop where
  elsewhere : ∀ path, ¬ originsPath <+: path → path ≠ controlUiPath →
    posted.nodeAt path = config.nodeAt path
  controlUi : posted.nodeAt controlUiPath = some .obj
  origins : ∀ path, posted.nodeAt (originsPath ++ path) =
    (Json.arr (originsOf config ++ [.str origin])).nodeAt path

section Lists

variable {origin : String}

/-- The list is what is at its path. -/
theorem allowedOrigins_eq (controlUi : Json) :
    allowedOrigins controlUi = itemsOf (controlUi.child (.name "allowedOrigins")) := by
  rw [allowedOrigins]
  cases hchild : controlUi.child (.name "allowedOrigins") with
  | some v =>
      rw [get_eq_json.mpr hchild]
      cases v with
      | arr items => rfl
      | null | bool | num | str | obj => rfl
  | none =>
      cases hget : controlUi.get "allowedOrigins" with
      | json v =>
          rw [get_eq_json.mp hget] at hchild
          cases hchild
      | undefined => rfl
      | inherited member => rfl

/-- An origin is included when it is among the elements. -/
theorem includesOrigin_iff {origins : List Json} {origin : String} :
    includesOrigin origins origin = true ↔ .str origin ∈ origins := by
  rw [includesOrigin, List.any_eq_true]
  constructor
  · rintro ⟨item, hitem, h⟩
    cases item with
    | str s =>
        have hs : some s = some origin := beq_iff_eq.mp h
        rwa [← Option.some.inj hs]
    | null | bool | num | arr | obj => cases h
  · intro h
    exact ⟨.str origin, h, beq_self_eq_true (some origin)⟩

end Lists

/-! ### What is to be done -/

section Planning

variable {config posted : Json} {origin s : String}

/-- An origin is in the list when it is at one of its places. -/
theorem mem_originsOf_iff :
    .str s ∈ originsOf config ↔ ∃ i, config.nodeAt (originsPath ++ [.index i]) = some (.str s) := by
  have hbelow : ∀ i, config.nodeAt (originsPath ++ [.index i]) =
      (config.at originsPath).bind fun list => list.nodeAt [.index i] := by
    intro i
    show Option.map Json.node (config.at (originsPath ++ [.index i])) = _
    rw [at_append, Option.map_bind]
    rfl
  rw [originsOf]
  cases hlist : config.at originsPath with
  | none =>
      constructor
      · intro h
        cases h
      · rintro ⟨i, h⟩
        rw [hbelow, hlist] at h
        cases h
  | some list =>
      cases list with
      | arr items =>
          have hitem : ∀ i,
              config.nodeAt (originsPath ++ [.index i]) = items[i]?.map Json.node := by
            intro i
            rw [hbelow, hlist]
            show (Json.arr items).nodeAt [.index i] = _
            rw [nodeAt_cons]
            exact Option.map_eq_bind.symm
          show Json.str s ∈ items ↔ _
          constructor
          · intro h
            obtain ⟨i, hi⟩ := List.mem_iff_getElem?.mp h
            refine ⟨i, ?_⟩
            rw [hitem, hi]
            rfl
          · rintro ⟨i, h⟩
            rw [hitem] at h
            obtain ⟨item, hi, hnode⟩ := Option.map_eq_some_iff.mp h
            rw [← node_eq_str hnode]
            exact List.mem_iff_getElem?.mpr ⟨i, hi⟩
      | null | bool | num | str | obj =>
          constructor
          · intro h
            cases h
          · rintro ⟨i, h⟩
            rw [hbelow, hlist] at h
            cases h

/-- A config of the same value is as well shaped. -/
theorem WellShaped.sameValue (hw : WellShaped config) (h : SameValue posted config) :
    WellShaped posted := by
  have hnode : some posted.node = some config.node := h []
  refine ⟨?_, ?_, ?_, ?_⟩
  · rw [Option.some.inj hnode]
    exact hw.record
  · rw [h]
    exact hw.gateway
  · rw [h]
    exact hw.controlUi
  · rw [h]
    exact hw.origins

/-- It has the same origins. -/
theorem mem_originsOf_sameValue (h : SameValue posted config) :
    .str s ∈ originsOf posted ↔ .str s ∈ originsOf config := by
  rw [mem_originsOf_iff, mem_originsOf_iff]
  exact exists_congr fun i => by rw [h]

/-- It allows the same. -/
theorem AllowsToo.sameValue {posted' : Json} (h : AllowsToo config posted origin)
    (hsame : SameValue posted' posted) : AllowsToo config posted' origin := by
  refine ⟨fun path hpath hui => ?_, ?_, fun path => ?_⟩
  · rw [hsame]
    exact h.elsewhere path hpath hui
  · rw [hsame]
    exact h.controlUi
  · rw [hsame]
    exact h.origins path

/-- What is posted is well shaped again. -/
theorem AllowsToo.wellShaped (h : AllowsToo config posted origin) (hw : WellShaped config) :
    WellShaped posted := by
  have hroot : posted.nodeAt [] = config.nodeAt [] :=
    h.elsewhere [] (by decide) (by decide)
  have hgateway : posted.nodeAt [.name "gateway"] = config.nodeAt [.name "gateway"] :=
    h.elsewhere _ (by decide) (by decide)
  refine ⟨?_, ?_, .inr h.controlUi, .inr ⟨_, h.origins []⟩⟩
  · have hnode : some posted.node = some config.node := hroot
    rw [Option.some.inj hnode]
    exact hw.record
  · rw [hgateway]
    exact hw.gateway

/-- What is posted has the origin in its list. -/
theorem AllowsToo.mem (h : AllowsToo config posted origin) : .str origin ∈ originsOf posted := by
  rw [mem_originsOf_iff]
  refine ⟨(originsOf config).length, ?_⟩
  rw [h.origins, nodeAt_cons]
  show ((originsOf config ++ [.str origin])[(originsOf config).length]?).bind _ = _
  rw [List.getElem?_concat_length]
  rfl

/-- The record of the list, written back at its place with the origin in the list. -/
def withOrigin (config : Json) (origin : String) : Json :=
  setMember config "gateway" (setMember (asRecord config "gateway") "controlUi"
    (setMember (asRecord (asRecord config "gateway") "controlUi") "allowedOrigins"
      (.arr (originsOf config ++ [.str origin]))))

theorem WellShaped.controlUi_of_gateway (hw : WellShaped config) :
    (asRecord config "gateway").nodeAt [.name "controlUi"] = none ∨
      (asRecord config "gateway").nodeAt [.name "controlUi"] = some .obj := by
  rw [nodeAt_asRecord hw.gateway]
  exact hw.controlUi

/-- The origins of a well-shaped config are those that are read. -/
theorem WellShaped.allowedOrigins_eq (hw : WellShaped config) :
    allowedOrigins (asRecord (asRecord config "gateway") "controlUi") = originsOf config := by
  have hlist : (asRecord (asRecord config "gateway") "controlUi").at [.name "allowedOrigins"] =
      config.at originsPath := by
    rw [at_asRecord hw.controlUi_of_gateway, at_asRecord hw.gateway]
    rfl
  rw [Railway.allowedOrigins_eq, originsOf, ← hlist]
  exact congrArg itemsOf (Option.bind_fun_some _).symm

/-- The baseline is there exactly when the mode is. -/
theorem WellShaped.hasBaseline_iff (hw : WellShaped config) :
    hasBaseline (asRecord config "gateway") = true ↔ HasMode config := by
  have hmode : ∀ mode, (asRecord config "gateway").get "mode" = .json (.str mode) ↔
      config.nodeAt [.name "gateway", .name "mode"] = some (.str mode) := by
    intro mode
    rw [get_eq_json, ← nodeAt_asRecord hw.gateway]
    constructor
    · intro h
      exact nodeAt_cons_of_child h
    · intro h
      obtain ⟨below, hbelow, hnode⟩ := child_of_nodeAt h
      rw [hbelow, node_eq_str hnode]
  rw [hasBaseline]
  constructor
  · intro h
    cases hget : (asRecord config "gateway").get "mode" with
    | json v =>
        rw [hget] at h
        cases v with
        | str mode => exact ⟨mode, (hmode mode).mp hget, bne_iff_ne.mp h⟩
        | null | bool | num | arr | obj => cases h
    | undefined | inherited =>
        rw [hget] at h
        cases h
  · rintro ⟨mode, hnode, hblank⟩
    rw [(hmode mode).mpr hnode]
    exact bne_iff_ne.mpr hblank

/-- A configuration with a mode has the record the mode is in. -/
theorem WellShaped.gateway_of_mode (hw : WellShaped config) (hmode : HasMode config) :
    config.nodeAt [.name "gateway"] = some .obj := by
  obtain ⟨mode, hnode, -⟩ := hmode
  rcases hw.gateway with hnone | hobj
  · have hchild : config.child (.name "gateway") = none := by
      cases hchild : config.child (.name "gateway") with
      | none => rfl
      | some below =>
          rw [nodeAt_cons_of_child hchild] at hnone
          cases hnone
    rw [nodeAt_cons_of_no_child hchild] at hnode
    cases hnode
  · exact hobj

/-- **The frame of the write.**  Only the list is another, and the record of the list is
there. -/
theorem allowsToo_withOrigin (hw : WellShaped config) (hmode : HasMode config) :
    AllowsToo config (withOrigin config origin) origin := by
  obtain ⟨fields, hfields⟩ := node_eq_obj hw.record
  obtain ⟨gateway, hgateway⟩ := asRecord_obj config "gateway"
  obtain ⟨controlUi, hui⟩ := asRecord_obj (asRecord config "gateway") "controlUi"
  -- what the three members that are set are below the document
  have hbelow : ∀ path, (withOrigin config origin).nodeAt (.name "gateway" :: path) =
      (setMember (asRecord config "gateway") "controlUi"
        (setMember (asRecord (asRecord config "gateway") "controlUi") "allowedOrigins"
          (.arr (originsOf config ++ [.str origin])))).nodeAt path := by
    intro path
    rw [withOrigin, hfields]
    exact nodeAt_setMember_self path
  have hlist : ∀ path, (withOrigin config origin).nodeAt
      (.name "gateway" :: .name "controlUi" :: path) =
        (setMember (asRecord (asRecord config "gateway") "controlUi") "allowedOrigins"
          (.arr (originsOf config ++ [.str origin]))).nodeAt path := by
    intro path
    rw [hbelow, hgateway]
    exact nodeAt_setMember_self path
  refine ⟨?_, ?_, ?_⟩
  · intro path hpath hcontrol
    rcases path with _ | ⟨step, path⟩
    · rw [withOrigin, hfields]
      exact nodeAt_setMember_nil
    by_cases hstep : step = .name "gateway"
    · subst hstep
      rw [hbelow]
      rcases path with _ | ⟨step, path⟩
      · rw [hw.gateway_of_mode hmode, hgateway]
        exact nodeAt_setMember_nil
      by_cases hstep : step = .name "controlUi"
      · subst hstep
        rw [← hbelow, hlist]
        rcases path with _ | ⟨step, path⟩
        · exact absurd rfl hcontrol
        by_cases hstep : step = .name "allowedOrigins"
        · subst hstep
          exact absurd ⟨path, rfl⟩ hpath
        · rw [hui, nodeAt_setMember_other hstep, ← hui,
            nodeAt_asRecord hw.controlUi_of_gateway, nodeAt_asRecord hw.gateway]
      · rw [hgateway, nodeAt_setMember_other hstep, ← hgateway, nodeAt_asRecord hw.gateway]
    · rw [withOrigin, hfields]
      exact nodeAt_setMember_other hstep path
  · show (withOrigin config origin).nodeAt [.name "gateway", .name "controlUi"] = some .obj
    rw [hlist, hui]
    exact nodeAt_setMember_nil
  · intro path
    show (withOrigin config origin).nodeAt
      (.name "gateway" :: .name "controlUi" :: .name "allowedOrigins" :: path) = _
    rw [hlist, hui]
    exact nodeAt_setMember_self path

/-- The list that was read is in the document. -/
theorem exists_at_of_mem {item : Json} (h : item ∈ originsOf config) :
    ∃ items, config.at originsPath = some (.arr items) ∧ item ∈ items := by
  rw [originsOf] at h
  cases hlist : config.at originsPath with
  | none =>
      rw [hlist] at h
      cases h
  | some list =>
      rw [hlist] at h
      cases list with
      | arr items => exact ⟨items, rfl, h⟩
      | null | bool | num | str | obj => cases h

/-- Adding an origin keeps the names distinct. -/
theorem distinct_withOrigin (h : Distinct config) : Distinct (withOrigin config origin) := by
  have hlist : Distinct (.arr (originsOf config ++ [.str origin])) := by
    refine .arr fun item hitem => ?_
    rcases List.mem_append.mp hitem with hold | hnew
    · obtain ⟨items, hat, hmem⟩ := exists_at_of_mem hold
      exact (h.at hat).item item hmem
    · rw [List.mem_singleton.mp hnew]
      exact .str
  have hgateway : Distinct (asRecord config "gateway") := distinct_asRecord h
  exact distinct_setMember h (distinct_setMember hgateway
    (distinct_setMember (distinct_asRecord hgateway) hlist))

/-- No number is posted that was not read. -/
theorem numberIn_withOrigin {n : Number} (h : NumberIn n (withOrigin config origin)) :
    NumberIn n config := by
  rcases numberIn_setMember h with h | h
  · exact h
  rcases numberIn_setMember h with h | h
  · exact numberIn_asRecord h
  rcases numberIn_setMember h with h | h
  · exact numberIn_asRecord (numberIn_asRecord h)
  · cases h with
    | item hitem hn =>
        rcases List.mem_append.mp hitem with hold | hnew
        · obtain ⟨items, hat, hmem⟩ := exists_at_of_mem hold
          exact .of_at hat (.item hmem hn)
        · rw [List.mem_singleton.mp hnew] at hn
          cases hn

/-- What is to be done with a well shaped configuration. -/
theorem planOrigins_cases (hw : WellShaped config) (origin : String) :
    (.str origin ∈ originsOf config ∧ planOrigins config origin = .ok .alreadyPresent) ∨
    (.str origin ∉ originsOf config ∧ ¬ HasMode config ∧
      planOrigins config origin = .ok .refuse) ∨
    (.str origin ∉ originsOf config ∧ HasMode config ∧
      planOrigins config origin = .ok (.post (withOrigin config origin))) := by
  obtain ⟨fields, hfields⟩ := node_eq_obj hw.record
  have hplan : planOrigins config origin =
      if includesOrigin (originsOf config) origin then .ok .alreadyPresent
      else if !hasBaseline (asRecord config "gateway") then .ok .refuse
      else .ok (.post (withOrigin config origin)) := by
    rw [withOrigin, ← hw.allowedOrigins_eq, hfields]
    rfl
  by_cases hmem : .str origin ∈ originsOf config
  · refine .inl ⟨hmem, ?_⟩
    rw [hplan, if_pos (includesOrigin_iff.mpr hmem)]
  by_cases hmode : HasMode config
  · refine .inr (.inr ⟨hmem, hmode, ?_⟩)
    have hbaseline : ¬ (!hasBaseline (asRecord config "gateway")) = true := by
      rw [hw.hasBaseline_iff.mpr hmode]
      exact Bool.false_ne_true
    rw [hplan, if_neg (fun h => hmem (includesOrigin_iff.mp h)), if_neg hbaseline]
  · refine .inr (.inl ⟨hmem, hmode, ?_⟩)
    have hbaseline : (!hasBaseline (asRecord config "gateway")) = true := by
      rw [Bool.not_eq_true', ← Bool.not_eq_true]
      exact fun h => hmode (hw.hasBaseline_iff.mp h)
    rw [hplan, if_neg (fun h => hmem (includesOrigin_iff.mp h)), if_pos hbaseline]

end Planning

/-! ### The runs -/

/-- The texts a trace posts. -/
def posts (t : Trace) : List String :=
  t.filterMap fun e => match e.call with
    | .postConfigRaw _ _ content => some content
    | _ => none

/-- A reply that is no good: a read or a write that was rejected or is not ok, or a text that
is not parsed. -/
inductive Fails (rt : Runtime) : Event Platform → Prop
  | getRejected {baseUrl auth message} : Fails rt ⟨.getConfigRaw baseUrl auth, .error message⟩
  | getNotOk {baseUrl auth content} : Fails rt ⟨.getConfigRaw baseUrl auth, .ok ⟨false, content⟩⟩
  | unparseable {baseUrl auth content e} (h : parseConfig rt content = .error e) :
      Fails rt ⟨.getConfigRaw baseUrl auth, .ok ⟨true, content⟩⟩
  | postRejected {baseUrl auth body message} :
      Fails rt ⟨.postConfigRaw baseUrl auth body, .error message⟩
  | postNotOk {baseUrl auth body} : Fails rt ⟨.postConfigRaw baseUrl auth body, .ok false⟩

/-- The origin of a domain. -/
def originFor (domain : String) : String := "https://" ++ domain

/-- What is done after the configuration was read. -/
def carryOut (rt : Runtime) (baseUrl : String) (auth : SetupAuth) (origin : String) :
    OriginPlan → Tool PatchAllowedOriginsResult
  | .alreadyPresent => pure ⟨false, .alreadyPresent⟩
  | .refuse => pure ⟨false, .refusedMissingBaseline⟩
  | .post config => do
    let posted ← postConfigRaw baseUrl auth (stringifyIndented 0 config)
    if !posted then .throw (configFailure "POST /setup/api/config/raw responded ok:false")
    else do
      let verifyResult ← getConfigRaw baseUrl auth
      Prog.ofExcept (verifyOrigins rt verifyResult origin)

section Runs

variable {rt : Runtime} {baseUrl domain origin : String} {auth : SetupAuth} {t : Trace}
  {o : Outcome Failure PatchAllowedOriginsResult} {config : Json}

/-- The origins are read from a config that parses. -/
theorem readAllowedOrigins_eq_ok {content : String} {origins : List Json} :
    readAllowedOrigins rt content = .ok origins ↔
      ∃ parsed, parseConfig rt content = .ok parsed ∧ origins = originsOf parsed := by
  have hread : ∀ parsed : Json,
      ((recordMember parsed "gateway").bind fun gateway => recordMember gateway "controlUi").elim []
        allowedOrigins = originsOf parsed := by
    intro parsed
    have hat : parsed.at originsPath = (parsed.child (.name "gateway")).bind fun gateway =>
        (gateway.child (.name "controlUi")).bind fun controlUi =>
          (controlUi.child (.name "allowedOrigins")).bind some := rfl
    have hnone : ∀ {j : Json} {name : String} {r : Json}, recordMember j name = none →
        j.child (.name name) = some r → ∀ s : String, r.child (.name s) = none := by
      intro j name r hmember hchild s
      cases r with
      | obj fields =>
          rw [recordMember_eq_some.mpr hchild] at hmember
          cases hmember
      | null | bool | num | str | arr => rfl
    rw [originsOf, hat]
    cases hgateway : recordMember parsed "gateway" with
    | none =>
        cases hchild : parsed.child (.name "gateway") with
        | none => rfl
        | some gateway =>
            show [] = itemsOf ((gateway.child (.name "controlUi")).bind _)
            rw [hnone hgateway hchild]
            rfl
    | some gateway =>
        obtain ⟨fields, rfl⟩ := recordMember_obj hgateway
        rw [recordMember_eq_some.mp hgateway]
        show (recordMember (.obj fields) "controlUi").elim [] allowedOrigins =
          itemsOf (((Json.obj fields).child (.name "controlUi")).bind _)
        cases hui : recordMember (.obj fields) "controlUi" with
        | none =>
            cases hchild : (Json.obj fields).child (.name "controlUi") with
            | none => rfl
            | some controlUi =>
                show [] = itemsOf ((controlUi.child (.name "allowedOrigins")).bind some)
                rw [hnone hui hchild]
                rfl
        | some controlUi =>
            obtain ⟨fields', rfl⟩ := recordMember_obj hui
            rw [recordMember_eq_some.mp hui]
            show allowedOrigins (.obj fields') =
              itemsOf (((Json.obj fields').child (.name "allowedOrigins")).bind some)
            rw [allowedOrigins_eq, Option.bind_fun_some]
  rw [readAllowedOrigins]
  cases parseConfig rt content with
  | error e =>
      constructor
      · intro h
        cases h
      · rintro ⟨parsed, h, -⟩
        cases h
  | ok parsed =>
      show Except.ok _ = Except.ok origins ↔ _
      rw [hread]
      constructor
      · intro h
        exact ⟨parsed, rfl, (Except.ok.inj h).symm⟩
      · rintro ⟨parsed', h, rfl⟩
        rw [Except.ok.inj h]

/-- The read that verifies the write succeeds only on a document with the origin. -/
theorem verifyOrigins_eq_ok {verifyResult : ConfigRaw} {r : PatchAllowedOriginsResult}
    (h : verifyOrigins rt verifyResult origin = .ok r) :
    r = ⟨true, .patched⟩ ∧ verifyResult.ok = true ∧
      ∃ parsed, parseConfig rt verifyResult.content = .ok parsed ∧
        .str origin ∈ originsOf parsed := by
  rw [verifyOrigins] at h
  split_ifs at h with hok
  have hread : verifyResult.ok = true := by
    rw [Bool.not_eq_true', Bool.not_eq_false] at hok
    exact hok
  cases horigins : readAllowedOrigins rt verifyResult.content with
  | error cause =>
      rw [horigins] at h
      cases h
  | ok verified =>
      rw [horigins] at h
      obtain ⟨parsed, hparsed, rfl⟩ := readAllowedOrigins_eq_ok.mp horigins
      change (if includesOrigin (originsOf parsed) origin then _ else _) = _ at h
      split_ifs at h with hmem
      exact ⟨(Except.ok.inj h).symm, hread, parsed, hparsed, includesOrigin_iff.mp hmem⟩

/-- A run reads the configuration and then does what it says, or throws. -/
theorem patch_exec (h : (patchAllowedOrigins rt baseUrl auth domain).Exec t o) :
    ∃ reply t', t = ⟨.getConfigRaw baseUrl auth, reply⟩ :: t' ∧
      ((∃ content config plan, reply = .ok ⟨true, content⟩ ∧
          parseConfig rt content = .ok config ∧
          planOrigins config (originFor domain) = .ok plan ∧
          (carryOut rt baseUrl auth (originFor domain) plan).Exec t' o) ∨
        (t' = [] ∧ (∃ e, o = .threw e) ∧ ∀ content config plan, reply = .ok ⟨true, content⟩ →
          parseConfig rt content = .ok config →
          planOrigins config (originFor domain) ≠ .ok plan)) := by
  rcases Prog.exec_ask_bind.mp h with
    ⟨reply, t', read, rfl, hread, h'⟩ | ⟨reply, e, rfl, hread, rfl⟩
  · have hreply : reply = .ok read := settled_eq_ok.mp hread
    refine ⟨reply, t', rfl, ?_⟩
    obtain ⟨ok, content⟩ := read
    cases ok with
    | false =>
        obtain ⟨rfl, rfl⟩ := h'
        refine .inr ⟨rfl, ⟨_, rfl⟩, fun content' _ _ hcontent _ _ => ?_⟩
        rw [hreply] at hcontent
        cases hcontent
    | true =>
        rcases Prog.exec_ofExcept_bind.mp h' with ⟨plan, hplan, hrest⟩ | ⟨e, hplan, rfl, rfl⟩
        · change (parseConfig rt content >>= fun config => planOrigins config (originFor domain)) =
            .ok plan at hplan
          cases hparse : parseConfig rt content with
          | error e =>
              rw [hparse] at hplan
              cases hplan
          | ok config =>
              rw [hparse] at hplan
              refine .inl ⟨content, config, plan, hreply, hparse, hplan, ?_⟩
              cases plan with
              | alreadyPresent | refuse | post => exact hrest
        · refine .inr ⟨rfl, ⟨e, rfl⟩, fun content' config plan hcontent hparse hok => ?_⟩
          have hsame : content = content' :=
            congrArg ConfigRaw.content (Except.ok.inj (hreply.symm.trans hcontent))
          change (parseConfig rt content >>= fun config => planOrigins config (originFor domain)) =
            .error e at hplan
          rw [hsame, hparse] at hplan
          exact nomatch hok.symm.trans hplan
  · refine ⟨reply, [], rfl, .inr ⟨rfl, ⟨e, rfl⟩, fun content' _ _ hcontent _ _ => ?_⟩⟩
    rw [hcontent] at hread
    cases hread

/-- A run that posts throws, or the write was accepted and read back. -/
theorem post_exec (h : (carryOut rt baseUrl auth origin (.post config)).Exec t o) :
    ∃ reply t', t = ⟨.postConfigRaw baseUrl auth (stringifyIndented 0 config), reply⟩ :: t' ∧
      (t' = [] ∨ ∃ reply', t' = [⟨.getConfigRaw baseUrl auth, reply'⟩]) ∧
      ((∃ content parsed, reply = .ok true ∧
          t' = [⟨.getConfigRaw baseUrl auth, .ok ⟨true, content⟩⟩] ∧
          parseConfig rt content = .ok parsed ∧ .str origin ∈ originsOf parsed ∧
          o = .returned ⟨true, .patched⟩) ∨
        ∃ e, o = .threw e) := by
  rcases Prog.exec_ask_bind.mp h with ⟨reply, t', posted, rfl, hreply, h'⟩ | ⟨reply, e, rfl, -, rfl⟩
  · refine ⟨reply, t', rfl, ?_⟩
    cases posted with
    | false =>
        obtain ⟨rfl, rfl⟩ := h'
        exact ⟨.inl rfl, .inr ⟨_, rfl⟩⟩
    | true =>
        rcases Prog.exec_ask_bind.mp h' with
          ⟨reply', t'', read, rfl, hread, h''⟩ | ⟨reply', e, rfl, -, rfl⟩
        · cases hverify : verifyOrigins rt read origin with
          | error e =>
              rw [hverify] at h''
              obtain ⟨rfl, rfl⟩ := h''
              exact ⟨.inr ⟨reply', rfl⟩, .inr ⟨e, rfl⟩⟩
          | ok r =>
              rw [hverify] at h''
              obtain ⟨rfl, rfl⟩ := h''
              obtain ⟨rfl, hok, parsed, hparsed, hmem⟩ := verifyOrigins_eq_ok hverify
              obtain ⟨ok, content⟩ := read
              cases hok
              rw [settled_eq_ok.mp hread]
              exact ⟨.inr ⟨_, rfl⟩,
                .inl ⟨content, parsed, settled_eq_ok.mp hreply, rfl, hparsed, hmem, rfl⟩⟩
        · exact ⟨.inr ⟨reply', rfl⟩, .inr ⟨e, rfl⟩⟩
  · exact ⟨reply, [], rfl, .inl rfl, .inr ⟨e, rfl⟩⟩

/-- A run on a well shaped configuration. -/
theorem patch_wellShaped {content : String} (hparse : parseConfig rt content = .ok config)
    (hw : WellShaped config)
    (h : (patchAllowedOrigins rt baseUrl auth domain).Exec
      (⟨.getConfigRaw baseUrl auth, .ok ⟨true, content⟩⟩ :: t) o) :
    (.str (originFor domain) ∈ originsOf config ∧ t = [] ∧
      o = .returned ⟨false, .alreadyPresent⟩) ∨
    (.str (originFor domain) ∉ originsOf config ∧ ¬ HasMode config ∧ t = [] ∧
      o = .returned ⟨false, .refusedMissingBaseline⟩) ∨
    (.str (originFor domain) ∉ originsOf config ∧ HasMode config ∧
      (carryOut rt baseUrl auth (originFor domain)
        (.post (withOrigin config (originFor domain)))).Exec t o) := by
  obtain ⟨reply, t', heq, hrun⟩ := patch_exec h
  obtain ⟨hevent, rfl⟩ := List.cons.inj heq
  have hreply : Except.ok ⟨true, content⟩ = reply := by
    injection hevent
  subst hreply
  have hcases := planOrigins_cases hw (originFor domain)
  rcases hrun with ⟨content', config', plan, hcontent, hparse', hplan, hrest⟩ | ⟨-, -, hno⟩
  · have hsame : content = content' := congrArg ConfigRaw.content (Except.ok.inj hcontent)
    rw [← hsame, hparse] at hparse'
    rw [← Except.ok.inj hparse'] at hplan
    rw [hplan] at hcases
    rcases hcases with ⟨hmem, hdo⟩ | ⟨hmem, hmode, hdo⟩ | ⟨hmem, hmode, hdo⟩
    · rw [Except.ok.inj hdo] at hrest
      obtain ⟨rfl, rfl⟩ := hrest
      exact .inl ⟨hmem, rfl, rfl⟩
    · rw [Except.ok.inj hdo] at hrest
      obtain ⟨rfl, rfl⟩ := hrest
      exact .inr (.inl ⟨hmem, hmode, rfl, rfl⟩)
    · rw [Except.ok.inj hdo] at hrest
      exact .inr (.inr ⟨hmem, hmode, hrest⟩)
  · rcases hcases with ⟨-, hdo⟩ | ⟨-, -, hdo⟩ | ⟨-, -, hdo⟩
    · exact absurd hdo (hno content config _ rfl hparse)
    · exact absurd hdo (hno content config _ rfl hparse)
    · exact absurd hdo (hno content config _ rfl hparse)

/-- The run that writes: the accepted write is read back with the origin. -/
theorem patch_posts {content content' : String} {posted parsed : Json}
    (hparse : parseConfig rt content = .ok config)
    (hplan : planOrigins config (originFor domain) = .ok (.post posted))
    (hparse' : parseConfig rt content' = .ok parsed)
    (hmem : .str (originFor domain) ∈ originsOf parsed) :
    (patchAllowedOrigins rt baseUrl auth domain).Exec
      [⟨.getConfigRaw baseUrl auth, .ok ⟨true, content⟩⟩,
        ⟨.postConfigRaw baseUrl auth (stringifyIndented 0 posted), .ok true⟩,
        ⟨.getConfigRaw baseUrl auth, .ok ⟨true, content'⟩⟩]
      (.returned ⟨true, .patched⟩) := by
  have hverify : verifyOrigins rt ⟨true, content'⟩ (originFor domain) = .ok ⟨true, .patched⟩ := by
    have hread : readAllowedOrigins rt content' = .ok (originsOf parsed) :=
      readAllowedOrigins_eq_ok.mpr ⟨parsed, hparse', rfl⟩
    rw [verifyOrigins, if_neg (by exact Bool.false_ne_true), hread]
    exact if_pos (includesOrigin_iff.mpr hmem)
  refine Prog.exec_ask_bind.mpr (.inl ⟨_, _, _, rfl, rfl, ?_⟩)
  refine Prog.exec_ofExcept_bind.mpr (.inl ⟨.post posted, ?_, ?_⟩)
  · show (parseConfig rt content >>= fun config => planOrigins config (originFor domain)) = _
    rw [hparse]
    exact hplan
  · refine Prog.exec_ask_bind.mpr (.inl ⟨_, _, _, rfl, rfl, ?_⟩)
    refine Prog.exec_ask_bind.mpr (.inl ⟨_, _, _, rfl, rfl, ?_⟩)
    show (Prog.ofExcept (verifyOrigins rt ⟨true, content'⟩ (originFor domain))).Exec [] _
    rw [hverify]
    exact ⟨rfl, rfl⟩

/-! ### Reading the post -/

/-- `JSON.parse` gives the number for the text it is written as: it is finite. -/
def IsFinite (rt : Runtime) (n : Number) : Prop := rt.jsonParse n.text = .ok (.num n)

/-- What is relied on of `JSON.parse`: no member comes twice, and a document whose numbers are
finite is read back from its text as the same value. -/
structure ParsesJson (rt : Runtime) : Prop where
  distinct : ∀ {text : String} {j : Json}, rt.jsonParse text = .ok j → Distinct j
  reads : ∀ {j : Json}, Distinct j → (∀ n, NumberIn n j → IsFinite rt n) →
    ∃ j', rt.jsonParse (stringifyIndented 0 j) = .ok j' ∧ SameValue j' j

/-- A config that parses has distinct names. -/
theorem ParsesJson.distinct_config (hp : ParsesJson rt) {content : String}
    (h : parseConfig rt content = .ok config) : Distinct config := by
  rw [parseConfig] at h
  split_ifs at h
  · rw [← Except.ok.inj h]
    exact .obj List.nodup_nil fun _ hmem => absurd hmem List.not_mem_nil
  · exact hp.distinct (settled_eq_ok.mp h)

/-- The text of a record is not blank. -/
theorem parseConfig_stringifyIndented (fields : List (String × Json)) :
    parseConfig rt (stringifyIndented 0 (.obj fields)) =
      parse rt (stringifyIndented 0 (.obj fields)) := by
  have hbrace : ∃ cs, (stringifyIndented 0 (.obj fields)).toList = '\x7b' :: cs := by
    cases fields with
    | nil => exact ⟨_, text_empty_object 0⟩
    | cons field rest => exact ⟨_, toList_object 0 field.1 field.2 rest⟩
  obtain ⟨cs, hcs⟩ := hbrace
  rw [parseConfig, if_neg (trim_ne_empty hcs (by decide))]

/-- The text that is posted is read as the document with the origin. -/
theorem posted_reads (hp : ParsesJson rt) (hw : WellShaped config) (hmode : HasMode config)
    (hdistinct : Distinct config) (hfinite : ∀ n, NumberIn n config → IsFinite rt n) :
    ∃ posted, parseConfig rt (stringifyIndented 0 (withOrigin config origin)) = .ok posted ∧
      AllowsToo config posted origin := by
  have hdistinct' : Distinct (withOrigin config origin) := distinct_withOrigin hdistinct
  obtain ⟨posted, hread, hsame⟩ := hp.reads hdistinct' fun n hn => hfinite n (numberIn_withOrigin hn)
  have hobj : ∃ fields, withOrigin config origin = .obj fields := by
    obtain ⟨fields, hfields⟩ := node_eq_obj hw.record
    rw [withOrigin, hfields]
    exact setMember_obj
  obtain ⟨fields, hfields⟩ := hobj
  refine ⟨posted, ?_, (allowsToo_withOrigin hw hmode).sameValue hsame⟩
  rw [hfields] at hread ⊢
  rw [parseConfig_stringifyIndented, parse, hread]
  rfl

/-! ### At most one list, at most once -/

/-- What a run on a configuration posts and returns. -/
structure PatchesOrigins (rt : Runtime) (baseUrl : String) (auth : SetupAuth) (domain : String)
    (config : Json) (t : Trace) (o : Outcome Failure PatchAllowedOriginsResult) : Prop where
  /-- something is posted just when the origin is to be added and there is a mode -/
  posts_iff : posts t ≠ [] ↔ .str (originFor domain) ∉ originsOf config ∧ HasMode config
  /-- nothing else in the document is changed -/
  frame : ∀ body ∈ posts t, ∃ posted, parseConfig rt body = .ok posted ∧
    AllowsToo config posted (originFor domain)
  /-- a document that has kept what was posted is not posted to again -/
  again : ∀ body ∈ posts t, ∀ posted, parseConfig rt body = .ok posted →
    ∀ content config', parseConfig rt content = .ok config' → SameValue config' posted →
      ∀ t' o', (patchAllowedOrigins rt baseUrl auth domain).Exec
        (⟨.getConfigRaw baseUrl auth, .ok ⟨true, content⟩⟩ :: t') o' →
          posts t' = [] ∧ o' = .returned ⟨false, .alreadyPresent⟩
  /-- the origin was read after the write -/
  patched : ∀ b, o = .returned ⟨b, .patched⟩ → ∃ t₀ body content config',
    t = t₀ ++ [⟨.postConfigRaw baseUrl auth body, .ok true⟩,
      ⟨.getConfigRaw baseUrl auth, .ok ⟨true, content⟩⟩] ∧
    parseConfig rt content = .ok config' ∧ .str (originFor domain) ∈ originsOf config'
  /-- the other statuses come without a write -/
  unwritten : ∀ r, o = .returned r → r.status ≠ .patched → posts t = []

theorem posts_get {reply : Except String ConfigRaw} :
    posts (⟨.getConfigRaw baseUrl auth, reply⟩ :: t) = posts t := rfl

theorem posts_post {body : String} {reply : Except String Bool} :
    posts (⟨.postConfigRaw baseUrl auth body, reply⟩ :: t) = body :: posts t := rfl

/-- A run that goes on to post posts the document with the origin, and nothing else. -/
theorem posts_carryOut (h : (carryOut rt baseUrl auth origin (.post config)).Exec t o) :
    posts t = [stringifyIndented 0 config] := by
  obtain ⟨reply, t', rfl, htail, -⟩ := post_exec h
  rw [posts_post]
  rcases htail with rfl | ⟨reply', rfl⟩
  · rfl
  · rfl

/-- At most one text is posted. -/
theorem posts_length_le (h : (patchAllowedOrigins rt baseUrl auth domain).Exec t o) :
    (posts t).length ≤ 1 := by
  obtain ⟨reply, t', rfl, hrun⟩ := patch_exec h
  rw [posts_get]
  rcases hrun with ⟨content, config, plan, -, -, -, hrest⟩ | ⟨rfl, -, -⟩
  · cases plan with
    | alreadyPresent | refuse =>
        rw [hrest.1]
        exact Nat.zero_le 1
    | post config =>
        rw [posts_carryOut hrest]
        exact Nat.le_refl 1
  · exact Nat.zero_le 1

/-- A run with a reply that is no good throws. -/
theorem threw_of_fails (h : (patchAllowedOrigins rt baseUrl auth domain).Exec t o)
    (hfails : ∃ e ∈ t, Fails rt e) : ∃ e, o = .threw e := by
  obtain ⟨reply, t', rfl, hrun⟩ := patch_exec h
  obtain ⟨event, hevent, hfails⟩ := hfails
  rcases hrun with ⟨content, config, plan, rfl, hparse, -, hrest⟩ | ⟨-, hthrew, -⟩
  · -- the first reply was good, so that it is one of those after it
    rcases List.mem_cons.mp hevent with rfl | hevent
    · cases hfails with
      | unparseable hno => exact nomatch hparse.symm.trans hno
    cases plan with
    | alreadyPresent | refuse =>
        rw [hrest.1] at hevent
        exact absurd hevent List.not_mem_nil
    | post config =>
        obtain ⟨reply, t', rfl, -, hend⟩ := post_exec hrest
        rcases hend with ⟨content', parsed, rfl, rfl, hparsed, -, -⟩ | hthrew
        · rcases List.mem_cons.mp hevent with rfl | hevent
          · cases hfails
          · rw [List.mem_singleton.mp hevent] at hfails
            cases hfails with
            | unparseable hno => exact nomatch hparsed.symm.trans hno
        · exact hthrew
  · exact hthrew

/-- A well-shaped config is patched so that it allows the origin too. -/
theorem patches_wellShaped {content : String} (hp : ParsesJson rt)
    (hparse : parseConfig rt content = .ok config) (hw : WellShaped config)
    (hfinite : ∀ n, NumberIn n config → IsFinite rt n)
    (h : (patchAllowedOrigins rt baseUrl auth domain).Exec
      (⟨.getConfigRaw baseUrl auth, .ok ⟨true, content⟩⟩ :: t) o) :
    PatchesOrigins rt baseUrl auth domain config t o := by
  rcases patch_wellShaped hparse hw h with
    ⟨hmem, rfl, rfl⟩ | ⟨hmem, hmode, rfl, rfl⟩ | ⟨hmem, hmode, hrest⟩
  · refine ⟨?_, fun _ hbody => absurd hbody List.not_mem_nil,
      fun _ hbody => absurd hbody List.not_mem_nil, ?_, fun _ _ _ => rfl⟩
    · exact ⟨fun hposts => absurd rfl hposts, fun hwrite => absurd hmem hwrite.1⟩
    · intro b hb
      cases hb
  · refine ⟨?_, fun _ hbody => absurd hbody List.not_mem_nil,
      fun _ hbody => absurd hbody List.not_mem_nil, ?_, fun _ _ _ => rfl⟩
    · exact ⟨fun hposts => absurd rfl hposts, fun hwrite => absurd hwrite.2 hmode⟩
    · intro b hb
      cases hb
  · have hposts := posts_carryOut hrest
    have hread : ∃ posted, parseConfig rt (stringifyIndented 0 (withOrigin config (originFor domain)))
        = .ok posted ∧ AllowsToo config posted (originFor domain) :=
      posted_reads hp hw hmode (hp.distinct_config hparse) hfinite
    obtain ⟨posted, hposted, hallows⟩ := hread
    refine ⟨?_, ?_, ?_, ?_, ?_⟩
    · rw [hposts]
      exact ⟨fun _ => ⟨hmem, hmode⟩, fun _ => List.cons_ne_nil _ _⟩
    · intro body hbody
      rw [hposts] at hbody
      rw [List.mem_singleton.mp hbody]
      exact ⟨posted, hposted, hallows⟩
    · intro body hbody posted' hposted' content' config' hparse' hsame t' o' hagain
      rw [hposts] at hbody
      rw [List.mem_singleton.mp hbody, hposted] at hposted'
      rw [← Except.ok.inj hposted'] at hsame
      have hmem' : .str (originFor domain) ∈ originsOf config' :=
        (mem_originsOf_sameValue hsame).mpr hallows.mem
      rcases patch_wellShaped hparse' ((hallows.wellShaped hw).sameValue hsame) hagain with
        ⟨-, rfl, rfl⟩ | ⟨hno, -, -, -⟩ | ⟨hno, -, -⟩
      · exact ⟨rfl, rfl⟩
      · exact absurd hmem' hno
      · exact absurd hmem' hno
    · rintro b rfl
      obtain ⟨reply, t', rfl, -, hend⟩ := post_exec hrest
      rcases hend with ⟨content', parsed, rfl, rfl, hparsed, hread, -⟩ | ⟨e, hthrew⟩
      · exact ⟨[], _, content', parsed, rfl, hparsed, hread⟩
      · cases hthrew
    · rintro r rfl hstatus
      obtain ⟨reply, t', -, -, hend⟩ := post_exec hrest
      rcases hend with ⟨content', parsed, -, -, -, -, hpatched⟩ | ⟨e, hthrew⟩
      · rw [Outcome.returned.inj hpatched] at hstatus
        exact absurd rfl hstatus
      · cases hthrew

end Runs

/-- **One list is changed, at most once, or nothing.**  Every run posts at most one text, and
throws when a reply is no good.  On a configuration whose numbers are finite it posts just
when the origin is to be added and there is a mode, and only the list is changed. -/
theorem patchAllowedOrigins_frame (rt : Runtime) (baseUrl : String) (auth : SetupAuth)
    (domain : String) (hp : ParsesJson rt) :
    (∀ t o, (patchAllowedOrigins rt baseUrl auth domain).Exec t o →
      (posts t).length ≤ 1 ∧ ((∃ e ∈ t, Fails rt e) → ∃ e, o = .threw e)) ∧
    ∀ content config, parseConfig rt content = .ok config → WellShaped config →
      (∀ n, NumberIn n config → IsFinite rt n) →
      ∀ t o, (patchAllowedOrigins rt baseUrl auth domain).Exec
        (⟨.getConfigRaw baseUrl auth, .ok ⟨true, content⟩⟩ :: t) o →
          PatchesOrigins rt baseUrl auth domain config t o := by
  refine ⟨fun t o h => ⟨posts_length_le h, threw_of_fails h⟩, ?_⟩
  intro content config hparse hw hfinite t o h
  exact patches_wellShaped hp hparse hw hfinite h

/-! ### A reader -/

/-- The number a literal beyond the range is read as. -/
def infinity : Number := ⟨"Infinity", by decide⟩

/-- The configuration whose text has a number beyond the greatest one. -/
def overflowConfig : Json :=
  .obj [("gateway", .obj [("mode", .str "local")]), ("limit", .num infinity)]

/-- A configuration with such a literal. -/
def overflowContent : String := " \x7b\"gateway\":\x7b\"mode\":\"local\"\x7d,\"limit\":1e999\x7d"

/-- A reader that knows one text with such a number. -/
def readerRuntime : Runtime where
  jsonParse text :=
    if text = overflowContent then .ok overflowConfig else readDocument text
  compileRegExp _ := none
  utf8Decode _ := ""
  hmacSha256Hex _ _ := ""

section Reader

variable {n : Number} {j : Json}

/-- A written text does not start with a blank. -/
theorem stringifyIndented_ne (h : Readable j) : stringifyIndented 0 j ≠ overflowContent := by
  intro heq
  obtain ⟨c, cs, htext, hblank, -⟩ := text_cons h 0
  rw [heq] at htext
  have hhead : overflowContent.toList.head? = some ' ' := by decide
  rw [htext] at hhead
  rw [Option.some.inj hhead] at hblank
  cases hblank

/-- What can be read back is parsed as it was. -/
theorem readerRuntime_reads (h : Readable j) :
    readerRuntime.jsonParse (stringifyIndented 0 j) = .ok j := by
  show (if stringifyIndented 0 j = overflowContent then _ else _) = _
  rw [if_neg (stringifyIndented_ne h), readDocument_stringifyIndented h]

theorem readable_number (hn : n.Numeric) : Readable (.num n) := by
  refine ⟨.num, fun m hm => ?_⟩
  cases hm
  exact hn

theorem isFinite_iff : IsFinite readerRuntime n ↔ n.Numeric := by
  constructor
  · intro h
    change (if n.text = overflowContent then _ else _) = _ at h
    split_ifs at h
    · cases h
    · exact readDocument_numeric h
  · intro h
    have hread := readerRuntime_reads (readable_number h)
    rwa [stringifyIndented, stringify_numeric h] at hread

theorem readerRuntime_parses : ParsesJson readerRuntime := by
  refine ⟨fun {text j} h => ?_, fun {j} h hfinite => ?_⟩
  · change (if text = overflowContent then _ else _) = _ at h
    split_ifs at h
    · rw [← Except.ok.inj h]
      refine .obj (by decide) fun p hp => ?_
      rcases List.mem_cons.mp hp with rfl | hp
      · refine .obj (by decide) fun p hp => ?_
        rw [List.mem_singleton.mp hp]
        exact .str
      · rw [List.mem_singleton.mp hp]
        exact .num
    · exact readDocument_distinct h
  · exact ⟨j, readerRuntime_reads ⟨h, fun n hn => isFinite_iff.mp (hfinite n hn)⟩, .refl j⟩

end Reader

/-! ### A gateway -/

/-- Some credentials. -/
def setupAuth : SetupAuth := ⟨"admin", .json (.str "password")⟩

/-- The port of the sample configuration. -/
def port : Number := Number.ofNat 18789

/-- A configuration with these origins. -/
def gatewayWith (origins : List Json) : Json :=
  .obj [("gateway", .obj [("mode", .str "local"), ("port", .num port),
    ("controlUi", .obj [("allowedOrigins", .arr origins)])])]

/-- A configuration that allows one origin. -/
def localGateway : Json := gatewayWith [.str "https://a.example"]

/-- The configuration with a second origin. -/
def patchedGateway : Json := gatewayWith [.str "https://a.example", .str "https://b.example"]

theorem port_numeric : port.Numeric := ⟨by decide, by decide⟩

theorem gatewayWith_readable {origins : List Json} (h : ∀ j ∈ origins, ∃ s, j = .str s) :
    Readable (gatewayWith origins) := by
  have hdistinct : ∀ j ∈ origins, Distinct j := by
    intro j hj
    obtain ⟨s, rfl⟩ := h j hj
    exact .str
  have hnumber : ∀ n, ¬ ∃ j ∈ origins, NumberIn n j := by
    rintro n ⟨j, hj, hn⟩
    obtain ⟨s, rfl⟩ := h j hj
    exact not_numberIn_str hn
  refine ⟨?_, fun n hn => ?_⟩
  · simpa [gatewayWith, Distinct.str, Distinct.num] using hdistinct
  · have hport : n = port := by simpa [gatewayWith, hnumber n] using hn
    rw [hport]
    exact port_numeric

/-- A config that was written is parsed as it was. -/
theorem parseConfig_written {fields : List (String × Json)} (h : Readable (.obj fields)) :
    parseConfig readerRuntime (stringifyIndented 0 (.obj fields)) = .ok (.obj fields) := by
  rw [parseConfig_stringifyIndented, parse, readerRuntime_reads h]
  rfl

/-- Another origin is added after the one that is there. -/
theorem localGateway_patches :
    PatchesOrigins readerRuntime "https://b.example" setupAuth "b.example" localGateway
      [⟨.postConfigRaw "https://b.example" setupAuth (stringifyIndented 0 patchedGateway),
          .ok true⟩,
        ⟨.getConfigRaw "https://b.example" setupAuth,
          .ok ⟨true, stringifyIndented 0 patchedGateway⟩⟩]
      (.returned ⟨true, .patched⟩) := by
  have hlocal : Readable localGateway := gatewayWith_readable (by simp)
  have hpatched : Readable patchedGateway := gatewayWith_readable (by simp)
  have hwell : WellShaped localGateway := ⟨rfl, .inr rfl, .inr rfl, .inr ⟨1, rfl⟩⟩
  have hplan : planOrigins localGateway (originFor "b.example") = .ok (.post patchedGateway) := by
    rfl
  have hmem : .str (originFor "b.example") ∈ originsOf patchedGateway := .tail _ (.head _)
  exact (patchAllowedOrigins_frame readerRuntime "https://b.example" setupAuth "b.example"
    readerRuntime_parses).2 (stringifyIndented 0 localGateway) localGateway
    (parseConfig_written hlocal) hwell (fun n hn => isFinite_iff.mpr (hlocal.numeric n hn)) _ _
    (patch_posts (parseConfig_written hlocal) hplan (parseConfig_written hpatched) hmem)

/-- The document that is posted for the configuration whose number is not finite. -/
def flattened : Json :=
  .obj [("gateway", .obj [("mode", .str "local"),
    ("controlUi", .obj [("allowedOrigins", .arr [.str "https://b.example"])])]), ("limit", .null)]

/-- A number beyond the greatest one is posted as `null`, so that not only the list is
another. -/
theorem overflow_not_framed : ParsesJson readerRuntime ∧
    ¬ ∀ content config, parseConfig readerRuntime content = .ok config → WellShaped config →
      ∀ t o, (patchAllowedOrigins readerRuntime "https://b.example" setupAuth "b.example").Exec
        (⟨.getConfigRaw "https://b.example" setupAuth, .ok ⟨true, content⟩⟩ :: t) o →
          ∀ body ∈ posts t, ∃ posted, parseConfig readerRuntime body = .ok posted ∧
            AllowsToo config posted (originFor "b.example") := by
  refine ⟨readerRuntime_parses, fun hclaim => ?_⟩
  have hread : parseConfig readerRuntime overflowContent = .ok overflowConfig := by
    have htrim : trim overflowContent ≠ "" := by decide
    have hparse : readerRuntime.jsonParse overflowContent = .ok overflowConfig := by
      show (if overflowContent = overflowContent then _ else readDocument overflowContent) = _
      exact if_pos rfl
    rw [parseConfig, if_neg htrim, parse, hparse]
    rfl
  have hwell : WellShaped overflowConfig := ⟨rfl, .inr rfl, .inl rfl, .inl rfl⟩
  have hflat : Readable flattened := by
    refine ⟨?_, fun n hn => ?_⟩
    · simp [flattened, Distinct.str, Distinct.null]
    · simp [flattened] at hn
  have hplan : planOrigins overflowConfig (originFor "b.example") =
      .ok (.post (withOrigin overflowConfig (originFor "b.example"))) := by
    rfl
  -- the text has the word `null` for the number
  have htext : stringifyIndented 0 (withOrigin overflowConfig (originFor "b.example")) =
      stringifyIndented 0 flattened := by
    have hnumber : stringifyIndented 1 (.num infinity) = stringifyIndented 1 .null := by
      have hword : infinity.text ∈ ["Infinity", "-Infinity", "NaN"] := .head _
      rw [stringifyIndented, stringifyIndented]
      show (if infinity.text ∈ ["Infinity", "-Infinity", "NaN"] then "null" else infinity.text) = _
      rw [if_pos hword]
      rfl
    show stringifyIndented 0 (.obj [_, ("limit", .num infinity)]) =
      stringifyIndented 0 (.obj [_, ("limit", .null)])
    rw [stringifyIndented, stringifyIndented, fieldsIndented, fieldsIndented, fieldsIndented,
      fieldsIndented, hnumber]
    rfl
  have hmem : .str (originFor "b.example") ∈ originsOf flattened := .head _
  have hparsed : parseConfig readerRuntime (stringifyIndented 0 flattened) = .ok flattened :=
    parseConfig_written hflat
  have hrun := hclaim overflowContent overflowConfig hread hwell _ _
    (patch_posts hread hplan hparsed hmem)
  obtain ⟨posted, hposted, hallows⟩ := hrun _ (.head _)
  rw [htext, hparsed] at hposted
  have hlimit := hallows.elsewhere [.name "limit"] (by decide) (by decide)
  rw [← Except.ok.inj hposted] at hlimit
  exact absurd hlimit (by decide)

end Railway
