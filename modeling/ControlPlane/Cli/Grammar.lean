/-
ControlPlane/Cli/Grammar.lean

The command lines the two updates accept.

A line is a sequence of groups: a flag that takes a value with a value, a flag that takes a
number with one, and `--force-redeploy`.  What a parser makes of a line is told by the last
group of each flag (`parseUpdateRefArgs_line`).  The two switches are one up to the name of the
ref flag (`parsers_renamed`), so that what holds of one parser holds of the other.
-/
import ControlPlane.Cli.Client
import ControlPlane.Interaction.Fields
import ControlPlane.Js.Integers

namespace Cli

open Js Interaction

/-! ### Groups -/

/-- A value: it is not empty, and does not look like a flag. -/
structure FlagValue where
  text : String
  ne : text ≠ ""
  plain : startsWithDashes text = false

/-- A number: the decimal digits of a positive safe integer. -/
structure FlagNumber where
  text : String
  number : ℕ
  digits : readInteger 10 text.toList = some number
  pos : 0 < number
  safe : number < 2 ^ 53

/-- A flag with its value, by its meaning. -/
inductive UpdateGroup where
  | service (v : FlagValue)
  | ref (v : FlagValue)
  | expectedCurrentRef (v : FlagValue)
  | setupUsername (v : FlagValue)
  | forceRedeploy
  | pollSeconds (v : FlagNumber)
  | timeoutMinutes (v : FlagNumber)

namespace UpdateGroup

/-- The group under the name of the ref flag. -/
def group (refFlag : String) : UpdateGroup → Group
  | service v => ⟨"--service", some v.text⟩
  | ref v => ⟨refFlag, some v.text⟩
  | expectedCurrentRef v => ⟨"--expected-current-ref", some v.text⟩
  | setupUsername v => ⟨"--setup-username", some v.text⟩
  | forceRedeploy => ⟨"--force-redeploy", none⟩
  | pollSeconds v => ⟨"--poll-seconds", some v.text⟩
  | timeoutMinutes v => ⟨"--timeout-minutes", some v.text⟩

/-- The flag of a group. -/
def flag (refFlag : String) (g : UpdateGroup) : String := (g.group refFlag).flag

/-- The service, if the group names it. -/
def service? : UpdateGroup → Option String
  | service v => some v.text
  | _ => none

/-- The ref, if the group names it. -/
def ref? : UpdateGroup → Option String
  | ref v => some v.text
  | _ => none

/-- The expected ref, if the group names it. -/
def expectedCurrentRef? : UpdateGroup → Option String
  | expectedCurrentRef v => some v.text
  | _ => none

/-- The user name, if the group names it. -/
def setupUsername? : UpdateGroup → Option String
  | setupUsername v => some v.text
  | _ => none

/-- Whether to redeploy, if the group says so. -/
def forceRedeploy? : UpdateGroup → Option Bool
  | forceRedeploy => some true
  | _ => none

/-- The seconds between polls, if the group names them. -/
def pollSeconds? : UpdateGroup → Option ℕ
  | pollSeconds v => some v.number
  | _ => none

/-- The minutes to wait, if the group names them. -/
def timeoutMinutes? : UpdateGroup → Option ℕ
  | timeoutMinutes v => some v.number
  | _ => none

/-- What a group does to the options of the template ref. -/
def apply : UpdateGroup → PartialTemplateRefOptions → PartialTemplateRefOptions
  | service v, options => { options with service := some v.text }
  | ref v, options => { options with templateRef := some v.text }
  | expectedCurrentRef v, options => { options with expectedCurrentRef := some v.text }
  | setupUsername v, options => { options with setupUsername := some v.text }
  | forceRedeploy, options => { options with forceRedeploy := some true }
  | pollSeconds v, options => { options with pollSeconds := some v.number }
  | timeoutMinutes v, options => { options with timeoutMinutes := some v.number }

end UpdateGroup

/-- The command line of some groups. -/
def line (refFlag : String) (groups : List UpdateGroup) : List String :=
  groups.flatMap fun g => (g.group refFlag).tokens

/-- The options that the last group of each flag gives, when the three that are needed are
there. -/
def templateRefOptions (groups : List UpdateGroup) : Option UpdateClientTemplateRefOptions := do
  let service ← lastValue UpdateGroup.service? groups
  let templateRef ← lastValue UpdateGroup.ref? groups
  let expectedCurrentRef ← lastValue UpdateGroup.expectedCurrentRef? groups
  return {
    service := service
    templateRef := templateRef
    expectedCurrentRef := expectedCurrentRef
    forceRedeploy := lastValue UpdateGroup.forceRedeploy? groups
    setupUsername := lastValue UpdateGroup.setupUsername? groups
    pollSeconds := lastValue UpdateGroup.pollSeconds? groups
    timeoutMinutes := lastValue UpdateGroup.timeoutMinutes? groups }

/-! ### Values that are read -/

section Values

variable {c : Char} {cs : List Char} {flag text value : String} {n acc : ℕ}

theorem requireValue_eq_ok : requireValue flag (some value) = .ok text ↔
    value = text ∧ value ≠ "" ∧ startsWithDashes value = false := by
  rw [requireValue]
  split_ifs with h
  · simp only [Bool.or_eq_true, decide_eq_true_eq] at h
    constructor
    · intro hok
      cases hok
    · rintro ⟨-, hne, hplain⟩
      rcases h with h | h
      · exact absurd h hne
      · rw [hplain] at h
        cases h
  · simp only [Bool.or_eq_true, decide_eq_true_eq, not_or, Bool.not_eq_true] at h
    constructor
    · intro hok
      exact ⟨Except.ok.inj hok, h⟩
    · rintro ⟨rfl, -⟩
      rfl

theorem digitValue_isSome : (digitValue 10 c).isSome = true ↔ '0' ≤ c ∧ c ≤ '9' := by
  by_cases hdigit : '0' ≤ c ∧ c ≤ '9'
  · have hle : c.toNat ≤ 57 := hdigit.2
    have hsmall : c.toNat - 48 < 10 := by omega
    simp [digitValue, hdigit, hsmall]
  · by_cases hsmall : 'a' ≤ c ∧ c ≤ 'f'
    · have hle : 97 ≤ c.toNat := hsmall.1
      have hlarge : ¬ c.toNat - 87 < 10 := by omega
      simp [digitValue, hdigit, hsmall, hlarge]
    · by_cases hcapital : 'A' ≤ c ∧ c ≤ 'F'
      · have hle : 65 ≤ c.toNat := hcapital.1
        have hlarge : ¬ c.toNat - 55 < 10 := by omega
        simp [digitValue, hdigit, hsmall, hcapital, hlarge]
      · simp [digitValue, hdigit, hsmall, hcapital]

theorem foldlM_digits_isSome :
    (cs.foldlM (fun acc c => (digitValue 10 c).map (acc * 10 + ·)) acc).isSome = true ↔
      ∀ c ∈ cs, '0' ≤ c ∧ c ≤ '9' := by
  induction cs generalizing acc with
  | nil => simp
  | cons c cs ih =>
      rw [List.foldlM_cons, List.forall_mem_cons, ← digitValue_isSome]
      cases digitValue 10 c with
      | none => simp
      | some d =>
          show Option.isSome (List.foldlM _ _ cs) = true ↔ _
          rw [ih]
          simp

theorem readInteger_isSome :
    (readInteger 10 cs).isSome = true ↔ cs ≠ [] ∧ ∀ c ∈ cs, '0' ≤ c ∧ c ≤ '9' := by
  cases cs with
  | nil => simp [readInteger]
  | cons c cs =>
      rw [readInteger, List.isEmpty_cons, if_neg Bool.false_ne_true, foldlM_digits_isSome]
      exact (and_iff_right (List.cons_ne_nil c cs)).symm

theorem positiveSafeInteger_toDouble {m : ℕ} :
    positiveSafeInteger (toDouble m) = some n ↔ m = n ∧ 0 < n ∧ n < 2 ^ 53 := by
  rcases Nat.lt_or_ge m (2 ^ 53) with hsmall | hlarge
  · rw [toDouble_of_lt hsmall, positiveSafeInteger, Rat.den_natCast, Rat.num_natCast]
    have hsmall' : (m : ℤ) < 2 ^ 53 := by exact_mod_cast hsmall
    split_ifs with h
    · rw [Int.toNat_natCast, Option.some.injEq]
      constructor
      · rintro rfl
        exact ⟨rfl, by omega, hsmall⟩
      · exact fun h => h.1
    · constructor
      · intro hnone
        cases hnone
      · rintro ⟨rfl, hpos, -⟩
        exact absurd ⟨rfl, by omega, hsmall'⟩ h
  · have hnone : positiveSafeInteger (toDouble m) = none := by
      cases hdouble : toDouble m with
      | nan => rfl
      | infinite negative => rfl
      | finite q =>
          have hq := le_toDouble hlarge hdouble
          rw [positiveSafeInteger, if_neg]
          rintro ⟨hden, -, hnum⟩
          have hcast : (q.num : ℚ) = q := Rat.coe_int_num_of_den_eq_one hden
          rw [← hcast] at hq
          have hnum' : (q.num : ℚ) < 2 ^ 53 := by exact_mod_cast hnum
          exact absurd hq (not_le.mpr hnum')
    rw [hnone]
    constructor
    · intro h
      cases h
    · rintro ⟨rfl, -, hlt⟩
      exact absurd hlt (not_lt.mpr hlarge)

/-- Digits are no flag. -/
theorem plain_of_digits (hne : value.toList ≠ []) (h : ∀ c ∈ value.toList, '0' ≤ c ∧ c ≤ '9') :
    value ≠ "" ∧ startsWithDashes value = false := by
  constructor
  · rintro rfl
    exact hne rfl
  · cases hchars : value.toList with
    | nil => exact absurd hchars hne
    | cons c cs =>
        have hc : '0' ≤ c := (h c (hchars ▸ .head _)).1
        have hdash : ('-' == c) = false := by
          rw [beq_eq_false_iff_ne]
          rintro rfl
          exact absurd hc (by decide)
        rw [startsWithDashes, hchars, List.isPrefixOf, hdash, Bool.false_and]

theorem parseIntegerFlag_eq_ok : parseIntegerFlag flag (some value) = .ok n ↔
    readInteger 10 value.toList = some n ∧ 0 < n ∧ n < 2 ^ 53 := by
  by_cases hdigits : value.toList ≠ [] ∧ ∀ c ∈ value.toList, '0' ≤ c ∧ c ≤ '9'
  · have hvalue : requireValue flag (some value) = .ok value :=
      requireValue_eq_ok.mpr ⟨rfl, plain_of_digits hdigits.1 hdigits.2⟩
    obtain ⟨m, hm⟩ := Option.isSome_iff_exists.mp (readInteger_isSome.mpr hdigits)
    have htest :
        (value.toList.isEmpty || !value.toList.all fun c => '0' ≤ c && c ≤ '9') = false := by
      rw [Bool.or_eq_false_iff, Bool.not_eq_false']
      refine ⟨?_, ?_⟩
      · rw [← Bool.not_eq_true, List.isEmpty_iff]
        exact hdigits.1
      · rw [List.all_eq_true]
        intro c hc
        simp [hdigits.2 c hc]
    have hparse : parseDigits value = toDouble m := by
      rw [parseDigits, hm]
    rw [parseIntegerFlag, hvalue]
    show (if (value.toList.isEmpty || !value.toList.all fun c => '0' ≤ c && c ≤ '9') = true then _
      else _) = _ ↔ _
    rw [htest, if_neg Bool.false_ne_true, hparse, hm, Option.some.injEq]
    rw [← positiveSafeInteger_toDouble]
    cases positiveSafeInteger (toDouble m) with
    | none => simp
    | some parsed => simp
  · have hnone : ¬ (readInteger 10 value.toList).isSome = true := fun h =>
      hdigits (readInteger_isSome.mp h)
    constructor
    · intro h
      rw [parseIntegerFlag] at h
      cases hvalue : requireValue flag (some value) with
      | error message =>
          rw [hvalue] at h
          cases h
      | ok text =>
          obtain ⟨rfl, -, -⟩ := requireValue_eq_ok.mp hvalue
          have htest : (value.toList.isEmpty ||
              !value.toList.all fun c => '0' ≤ c && c ≤ '9') = true := by
            rw [Bool.or_eq_true, Bool.not_eq_true', List.isEmpty_iff, ← Bool.not_eq_true,
              List.all_eq_true]
            by_contra hnot
            rw [not_or, not_not] at hnot
            refine hdigits ⟨hnot.1, fun c hc => ?_⟩
            have hboth := hnot.2 c hc
            rw [Bool.and_eq_true, decide_eq_true_eq, decide_eq_true_eq] at hboth
            exact hboth
          rw [hvalue] at h
          change (if (value.toList.isEmpty || !value.toList.all fun c => '0' ≤ c && c ≤ '9') = true
            then Except.error (notPositive flag) else _) = _ at h
          rw [htest, if_pos rfl] at h
          cases h
    · rintro ⟨hn, -⟩
      rw [hn] at hnone
      exact absurd rfl hnone

theorem map_eq_ok {ε α β : Type} {x : Except ε α} {f : α → β} {b : β} :
    x.map f = .ok b ↔ ∃ a, x = .ok a ∧ f a = b := by
  cases x with
  | error e => simp [Except.map]
  | ok a => simp [Except.map]

end Values

/-! ### The switch of the template ref -/

section TemplateRef

variable {groups groups' : List UpdateGroup} {g : UpdateGroup} {args : List String}
  {options : UpdateClientTemplateRefOptions}

/-- **What the switch does**: a case reads a value, or a number, or stands alone, and sets what
the group sets. -/
theorem updateRefFlag_cases {arg : String} {flag : Flag String PartialTemplateRefOptions}
    (h : updateRefFlag arg = some flag) :
    (∃ mk : FlagValue → UpdateGroup, ∃ set, flag = .taking (fun v => (requireValue arg v).map set) ∧
        ∀ v, (mk v).group "--template-ref" = ⟨arg, some v.text⟩ ∧ set v.text = (mk v).apply) ∨
      (∃ mk : FlagNumber → UpdateGroup, ∃ set,
        flag = .taking (fun v => (parseIntegerFlag arg v).map set) ∧
        ∀ v, (mk v).group "--template-ref" = ⟨arg, some v.text⟩ ∧ set v.number = (mk v).apply) ∨
      (arg = "--force-redeploy" ∧ flag = .alone UpdateGroup.forceRedeploy.apply) := by
  unfold updateRefFlag at h
  split at h
  · exact .inl ⟨.service, _, (Option.some.inj h).symm, fun v => ⟨rfl, rfl⟩⟩
  · exact .inl ⟨.ref, _, (Option.some.inj h).symm, fun v => ⟨rfl, rfl⟩⟩
  · exact .inl ⟨.expectedCurrentRef, _, (Option.some.inj h).symm, fun v => ⟨rfl, rfl⟩⟩
  · exact .inl ⟨.setupUsername, _, (Option.some.inj h).symm, fun v => ⟨rfl, rfl⟩⟩
  · exact .inr (.inr ⟨rfl, (Option.some.inj h).symm⟩)
  · exact .inr (.inl ⟨.pollSeconds, _, (Option.some.inj h).symm, fun v => ⟨rfl, rfl⟩⟩)
  · exact .inr (.inl ⟨.timeoutMinutes, _, (Option.some.inj h).symm, fun v => ⟨rfl, rfl⟩⟩)
  · cases h

theorem updateRefFlag_demanding : Demanding updateRefFlag := by
  intro arg read h
  rcases updateRefFlag_cases h with ⟨_, _, hflag, -⟩ | ⟨_, _, hflag, -⟩ | ⟨-, hflag⟩
  · obtain rfl := Flag.taking.inj hflag
    exact ⟨_, rfl⟩
  · obtain rfl := Flag.taking.inj hflag
    exact ⟨_, rfl⟩
  · cases hflag

/-- A value of a flag is read. -/
theorem sets_value (flag : String) (v : FlagValue)
    {set : String → PartialTemplateRefOptions → PartialTemplateRefOptions}
    (hflag : updateRefFlag flag = some (.taking fun value => (requireValue flag value).map set)) :
    Group.Sets updateRefFlag ⟨flag, some v.text⟩ (set v.text) := by
  apply Group.Sets.taking hflag
  rw [requireValue_eq_ok.mpr ⟨rfl, v.ne, v.plain⟩]
  rfl

/-- A number of a flag is read. -/
theorem sets_number (flag : String) (v : FlagNumber)
    {set : ℕ → PartialTemplateRefOptions → PartialTemplateRefOptions}
    (hflag : updateRefFlag flag =
      some (.taking fun value => (parseIntegerFlag flag value).map set)) :
    Group.Sets updateRefFlag ⟨flag, some v.text⟩ (set v.number) := by
  apply Group.Sets.taking hflag
  rw [parseIntegerFlag_eq_ok.mpr ⟨v.digits, v.pos, v.safe⟩]
  rfl

/-- The switch takes every group. -/
theorem sets_apply (g : UpdateGroup) : (g.group "--template-ref").Sets updateRefFlag g.apply := by
  cases g with
  | service v => exact sets_value "--service" v rfl
  | ref v => exact sets_value "--template-ref" v rfl
  | expectedCurrentRef v => exact sets_value "--expected-current-ref" v rfl
  | setupUsername v => exact sets_value "--setup-username" v rfl
  | forceRedeploy => exact .alone rfl
  | pollSeconds v => exact sets_number "--poll-seconds" v rfl
  | timeoutMinutes v => exact sets_number "--timeout-minutes" v rfl

/-- What the switch takes is a group. -/
theorem group_of_sets {group : Group} {set : PartialTemplateRefOptions → PartialTemplateRefOptions}
    (h : group.Sets updateRefFlag set) :
    ∃ g : UpdateGroup, g.group "--template-ref" = group ∧ g.apply = set := by
  cases h with
  | taking htable hread =>
      rcases updateRefFlag_cases htable with ⟨mk, f, hflag, hmk⟩ | ⟨mk, f, hflag, hmk⟩ | ⟨-, hflag⟩
      · obtain rfl := Flag.taking.inj hflag
        obtain ⟨text, hok, rfl⟩ := map_eq_ok.mp hread
        obtain ⟨rfl, hne, hplain⟩ := requireValue_eq_ok.mp hok
        obtain ⟨hgroup, hset⟩ := hmk ⟨_, hne, hplain⟩
        exact ⟨_, hgroup, hset.symm⟩
      · obtain rfl := Flag.taking.inj hflag
        obtain ⟨n, hok, rfl⟩ := map_eq_ok.mp hread
        obtain ⟨hdigits, hpos, hsafe⟩ := parseIntegerFlag_eq_ok.mp hok
        obtain ⟨hgroup, hset⟩ := hmk ⟨_, n, hdigits, hpos, hsafe⟩
        exact ⟨_, hgroup, hset.symm⟩
      · cases hflag
  | alone htable =>
      rcases updateRefFlag_cases htable with ⟨_, _, hflag, -⟩ | ⟨_, _, hflag, -⟩ | ⟨rfl, hflag⟩
      · cases hflag
      · cases hflag
      · exact ⟨.forceRedeploy, rfl, (Flag.alone.inj hflag).symm⟩

/-- What the groups of a line make of empty options. -/
def optionsOf (groups : List UpdateGroup) : PartialTemplateRefOptions where
  service := lastValue UpdateGroup.service? groups
  templateRef := lastValue UpdateGroup.ref? groups
  expectedCurrentRef := lastValue UpdateGroup.expectedCurrentRef? groups
  forceRedeploy := lastValue UpdateGroup.forceRedeploy? groups
  setupUsername := lastValue UpdateGroup.setupUsername? groups
  pollSeconds := lastValue UpdateGroup.pollSeconds? groups
  timeoutMinutes := lastValue UpdateGroup.timeoutMinutes? groups

theorem foldl_apply (groups : List UpdateGroup) :
    groups.foldl (fun options g => g.apply options) ⟨none, none, none, none, none, none, none⟩ =
      optionsOf groups := by
  apply PartialTemplateRefOptions.ext
  all_goals exact (field_last _ (fun s g => by cases g <;> rfl) groups _).trans Option.or_none

theorem line_eq (refFlag : String) (groups : List UpdateGroup) :
    line refFlag groups = (groups.map (UpdateGroup.group refFlag)).flatMap Group.tokens := by
  rw [line, List.flatMap_map]

/-- **What the scan accepts** are lines, and it makes of a line what its groups say. -/
theorem scan_updateRef {o : PartialTemplateRefOptions} : scan updateRefFlag unknownArgument args
      ⟨none, none, none, none, none, none, none⟩ = .ok o ↔
    ∃ groups, args = line "--template-ref" groups ∧ o = optionsOf groups := by
  rw [scan_eq_ok updateRefFlag_demanding]
  constructor
  · rintro ⟨tokens, sets, rfl, hsets, rfl⟩
    obtain ⟨groups, rfl, rfl⟩ : ∃ groups : List UpdateGroup,
        groups.map (UpdateGroup.group "--template-ref") = tokens ∧
          groups.map UpdateGroup.apply = sets := by
      induction hsets with
      | nil => exact ⟨[], rfl, rfl⟩
      | cons hgroup _ ih =>
          obtain ⟨g, rfl, rfl⟩ := group_of_sets hgroup
          obtain ⟨groups, rfl, rfl⟩ := ih
          exact ⟨g :: groups, rfl, rfl⟩
    refine ⟨groups, (line_eq _ groups).symm, ?_⟩
    rw [List.foldl_map, foldl_apply]
  · rintro ⟨groups, rfl, rfl⟩
    refine ⟨_, groups.map UpdateGroup.apply, line_eq _ groups, ?_, ?_⟩
    · rw [List.forall₂_map_left_iff, List.forall₂_map_right_iff, List.forall₂_same]
      exact fun g _ => sets_apply g
    · rw [List.foldl_map, foldl_apply]

/-- The message tells nothing of the member. -/
theorem required_toOption (member : Option String) (message : String) :
    (required member message).toOption = member.filter (· ≠ "") := by
  cases member with
  | none => rfl
  | some text =>
      rw [required, Option.filter_some]
      by_cases hempty : text = ""
      · simp [hempty, Except.toOption]
      · simp [hempty, Except.toOption]

/-- A member that groups wrote is not empty. -/
theorem required_lastValue {member? : UpdateGroup → Option String}
    (h : ∀ g text, member? g = some text → text ≠ "") (groups : List UpdateGroup)
    (message : String) :
    (required (lastValue member? groups) message).toOption = lastValue member? groups := by
  cases hlast : lastValue member? groups with
  | none => rfl
  | some text =>
      obtain ⟨g, -, hg⟩ := List.mem_filterMap.mp (List.mem_of_getLast? hlast)
      rw [required, if_neg (h g text hg)]
      rfl

theorem toOption_bind {ε α β : Type} (x : Except ε α) (f : α → Except ε β) :
    (x >>= f).toOption = x.toOption.bind fun a => (f a).toOption := by
  cases x with
  | error e => rfl
  | ok a => rfl

/-- What is made of the options when the scan is over. -/
theorem parse_of_scan (h : scan updateRefFlag unknownArgument args
      ⟨none, none, none, none, none, none, none⟩ = .ok (optionsOf groups)) :
    (parseUpdateRefArgs args).toOption = templateRefOptions groups := by
  have hservice : ∀ g text, UpdateGroup.service? g = some text → text ≠ "" := by
    intro g text hg
    cases g with
    | service v => exact Option.some.inj hg ▸ v.ne
    | _ => cases hg
  have href : ∀ g text, UpdateGroup.ref? g = some text → text ≠ "" := by
    intro g text hg
    cases g with
    | ref v => exact Option.some.inj hg ▸ v.ne
    | _ => cases hg
  have hexpected : ∀ g text, UpdateGroup.expectedCurrentRef? g = some text → text ≠ "" := by
    intro g text hg
    cases g with
    | expectedCurrentRef v => exact Option.some.inj hg ▸ v.ne
    | _ => cases hg
  rw [parseUpdateRefArgs, h]
  show (required (lastValue _ groups) _ >>= fun service => required (lastValue _ groups) _ >>=
    fun templateRef => required (lastValue _ groups) _ >>= fun expectedCurrentRef => _).toOption = _
  rw [toOption_bind, required_lastValue hservice]
  apply Option.bind_congr
  intro service _
  rw [toOption_bind, required_lastValue href]
  apply Option.bind_congr
  intro templateRef _
  rw [toOption_bind, required_lastValue hexpected]
  rfl

theorem eq_ok_iff_toOption {ε α : Type} {x : Except ε α} {a : α} :
    x = .ok a ↔ x.toOption = some a := by
  cases x with
  | error e => simp [Except.toOption]
  | ok a => simp [Except.toOption]

/-- **The lines the parser accepts**, and what it makes of them. -/
theorem parseUpdateRefArgs_iff : parseUpdateRefArgs args = .ok options ↔
    ∃ groups, args = line "--template-ref" groups ∧ templateRefOptions groups = some options := by
  rw [eq_ok_iff_toOption]
  constructor
  · intro h
    cases hscan : scan updateRefFlag unknownArgument args
        ⟨none, none, none, none, none, none, none⟩ with
    | error message =>
        rw [parseUpdateRefArgs, hscan] at h
        cases h
    | ok o =>
        obtain ⟨groups, hline, rfl⟩ := scan_updateRef.mp hscan
        exact ⟨groups, hline, (parse_of_scan hscan).symm.trans h⟩
  · rintro ⟨groups, rfl, h⟩
    rw [parse_of_scan (scan_updateRef.mpr ⟨groups, rfl, rfl⟩), h]

/-- What a line is parsed as. -/
theorem parseUpdateRefArgs_line (groups : List UpdateGroup) :
    (parseUpdateRefArgs (line "--template-ref" groups)).toOption = templateRefOptions groups :=
  parse_of_scan (scan_updateRef.mpr ⟨groups, rfl, rfl⟩)

end TemplateRef

/-! ### The other switch -/

section Renaming

variable {args : List String} {groups : List UpdateGroup}

/-- The names of the two ref flags exchanged. -/
def exchangeRef (arg : String) : String :=
  if arg = "--template-ref" then "--openclaw-ref"
  else if arg = "--openclaw-ref" then "--template-ref"
  else arg

/-- The same options for the other command. -/
def UpdateClientTemplateRefOptions.renamed (options : UpdateClientTemplateRefOptions) :
    UpdateClientOpenClawRefOptions where
  service := options.service
  openclawRef := options.templateRef
  expectedCurrentRef := options.expectedCurrentRef
  forceRedeploy := options.forceRedeploy
  setupUsername := options.setupUsername
  pollSeconds := options.pollSeconds
  timeoutMinutes := options.timeoutMinutes

/-- The same options so far, for the other command. -/
def PartialTemplateRefOptions.renamed (options : PartialTemplateRefOptions) :
    PartialOpenClawRefOptions where
  service := options.service
  openclawRef := options.templateRef
  expectedCurrentRef := options.expectedCurrentRef
  forceRedeploy := options.forceRedeploy
  setupUsername := options.setupUsername
  pollSeconds := options.pollSeconds
  timeoutMinutes := options.timeoutMinutes

theorem exchangeRef_of_plain {value : String} (h : startsWithDashes value = false) :
    exchangeRef value = value := by
  rw [exchangeRef]
  split_ifs with htemplate hopenclaw
  · subst htemplate
    cases h
  · subst hopenclaw
    cases h
  · rfl

theorem exchangeRef_template : exchangeRef "--template-ref" = "--openclaw-ref" := if_pos rfl

theorem exchangeRef_openclaw : exchangeRef "--openclaw-ref" = "--template-ref" := by
  rw [exchangeRef, if_neg (by decide), if_pos rfl]

theorem exchangeRef_other {arg : String} (htemplate : arg ≠ "--template-ref")
    (hopenclaw : arg ≠ "--openclaw-ref") : exchangeRef arg = arg := by
  rw [exchangeRef, if_neg htemplate, if_neg hopenclaw]

theorem startsWithDashes_exchangeRef (value : String) :
    startsWithDashes (exchangeRef value) = startsWithDashes value := by
  have hflags : startsWithDashes "--template-ref" = startsWithDashes "--openclaw-ref" := by
    decide +kernel
  by_cases htemplate : value = "--template-ref"
  · rw [htemplate, exchangeRef_template, hflags]
  · by_cases hopenclaw : value = "--openclaw-ref"
    · rw [hopenclaw, exchangeRef_openclaw, hflags]
    · rw [exchangeRef_other htemplate hopenclaw]

theorem exchangeRef_exchangeRef (arg : String) : exchangeRef (exchangeRef arg) = arg := by
  by_cases htemplate : arg = "--template-ref"
  · rw [htemplate, exchangeRef_template, exchangeRef_openclaw]
  · by_cases hopenclaw : arg = "--openclaw-ref"
    · rw [hopenclaw, exchangeRef_openclaw, exchangeRef_template]
    · rw [exchangeRef_other htemplate hopenclaw, exchangeRef_other htemplate hopenclaw]

/-- A value that is read is no flag, so that it keeps its name. -/
theorem requireValue_renamed (flag flag' : String) (value : Option String) :
    (∃ e e', requireValue flag value = .error e ∧
        requireValue flag' (value.map exchangeRef) = .error e') ∨
      ∃ text, requireValue flag value = .ok text ∧
        requireValue flag' (value.map exchangeRef) = .ok text := by
  cases value with
  | none => exact .inl ⟨_, _, rfl, rfl⟩
  | some value =>
      have hdashes := startsWithDashes_exchangeRef value
      cases hplain : startsWithDashes value with
      | true =>
          rw [hplain] at hdashes
          refine .inl ⟨missingValue flag, missingValue flag', ?_, ?_⟩
          · rw [requireValue, hplain, Bool.or_true, if_pos rfl]
          · show requireValue flag' (some (exchangeRef value)) = _
            rw [requireValue, hdashes, Bool.or_true, if_pos rfl]
      | false =>
          rw [Option.map_some, exchangeRef_of_plain hplain, requireValue, requireValue, hplain]
          by_cases hempty : value = ""
          · subst hempty
            exact .inl ⟨_, _, rfl, rfl⟩
          · rw [decide_eq_false hempty]
            exact .inr ⟨value, rfl, rfl⟩

theorem parseIntegerFlag_renamed (flag flag' : String) (value : Option String) :
    (∃ e e', parseIntegerFlag flag value = .error e ∧
        parseIntegerFlag flag' (value.map exchangeRef) = .error e') ∨
      ∃ n, parseIntegerFlag flag value = .ok n ∧
        parseIntegerFlag flag' (value.map exchangeRef) = .ok n := by
  rw [parseIntegerFlag, parseIntegerFlag]
  rcases requireValue_renamed flag flag' value with ⟨e, e', he, he'⟩ | ⟨text, htext, htext'⟩
  · rw [he, he']
    exact .inl ⟨e, e', rfl, rfl⟩
  · rw [htext, htext']
    show (∃ e e', ite _ _ _ = _ ∧ ite _ _ _ = _) ∨ ∃ n, ite _ _ _ = _ ∧ ite _ _ _ = _
    split_ifs
    · exact .inl ⟨_, _, rfl, rfl⟩
    · cases positiveSafeInteger (parseDigits text) with
      | none => exact .inl ⟨_, _, rfl, rfl⟩
      | some n => exact .inr ⟨n, rfl, rfl⟩

/-- Two cases that read alike and set alike are one up to names. -/
theorem renamed_map {α σ τ : Type} {view : σ → τ} {read read' : Option String → Except String α}
    {set : α → σ → σ} {set' : α → τ → τ}
    (hread : ∀ value : Option String,
      (∃ e e', read value = .error e ∧ read' (value.map exchangeRef) = .error e') ∨
        ∃ a, read value = .ok a ∧ read' (value.map exchangeRef) = .ok a)
    (hset : ∀ a s, view (set a s) = set' a (view s)) :
    Flag.Renamed exchangeRef view (some (.taking fun value => (read value).map set))
      (some (.taking fun value => (read' value).map set')) := by
  apply Flag.Renamed.taking
  intro value
  rcases hread value with ⟨e, e', he, he'⟩ | ⟨a, ha, ha'⟩
  · refine .inl ⟨e, e', ?_, ?_⟩
    · rw [he]
      rfl
    · rw [he']
      rfl
  · refine .inr ⟨set a, set' a, ?_, ?_, hset a⟩
    · rw [ha]
      rfl
    · rw [ha']
      rfl

/-- **The two switches are one** up to the names of the ref flags. -/
theorem switches_renamed (arg : String) : Flag.Renamed exchangeRef PartialTemplateRefOptions.renamed
    (updateRefFlag arg) (updateOpenClawRefFlag (exchangeRef arg)) := by
  by_cases htemplate : arg = "--template-ref"
  · rw [htemplate, exchangeRef_template]
    exact renamed_map (requireValue_renamed _ _) fun _ _ => rfl
  · by_cases hopenclaw : arg = "--openclaw-ref"
    · rw [hopenclaw, exchangeRef_openclaw]
      exact .unknown
    · rw [exchangeRef_other htemplate hopenclaw]
      unfold updateRefFlag updateOpenClawRefFlag
      split
      · exact renamed_map (requireValue_renamed _ _) fun _ _ => rfl
      · exact absurd rfl htemplate
      · exact renamed_map (requireValue_renamed _ _) fun _ _ => rfl
      · exact renamed_map (requireValue_renamed _ _) fun _ _ => rfl
      · exact .alone fun _ => rfl
      · exact renamed_map (parseIntegerFlag_renamed _ _) fun _ _ => rfl
      · exact renamed_map (parseIntegerFlag_renamed _ _) fun _ _ => rfl
      · split <;> first | contradiction | exact .unknown

/-- **The two parsers are one** up to the names of the ref flags: they fail on the same lines, and
give the same options otherwise. -/
theorem parsers_renamed (args : List String) :
    (parseUpdateOpenClawRefArgs (args.map exchangeRef)).toOption =
      (parseUpdateRefArgs args).toOption.map UpdateClientTemplateRefOptions.renamed := by
  have hscan := scan_map switches_renamed unknownArgument unknownArgument args
    ⟨none, none, none, none, none, none, none⟩
  rw [parseUpdateOpenClawRefArgs, parseUpdateRefArgs, toOption_bind, toOption_bind]
  show (scan updateOpenClawRefFlag unknownArgument (args.map exchangeRef)
    (PartialTemplateRefOptions.renamed
      ⟨none, none, none, none, none, none, none⟩)).toOption.bind _ = _
  rw [hscan]
  cases (scan updateRefFlag unknownArgument args
      ⟨none, none, none, none, none, none, none⟩).toOption with
  | none => rfl
  | some o =>
      -- the same members are asked for, the ref under another message
      simp only [Option.map_some, Option.bind_some, toOption_bind, required_toOption]
      show (o.service.filter _).bind (fun _ => (o.templateRef.filter _).bind fun _ =>
        (o.expectedCurrentRef.filter _).bind _) = _
      cases o.service.filter (· ≠ "") with
      | none => rfl
      | some service =>
          cases o.templateRef.filter (· ≠ "") with
          | none => rfl
          | some templateRef =>
              cases o.expectedCurrentRef.filter (· ≠ "") with
              | none => rfl
              | some expectedCurrentRef => rfl

/-- A number is no flag. -/
theorem FlagNumber.plain (v : FlagNumber) : startsWithDashes v.text = false := by
  have hdigits : (readInteger 10 v.text.toList).isSome = true := by rw [v.digits]; rfl
  obtain ⟨hne, hall⟩ := readInteger_isSome.mp hdigits
  rw [startsWithDashes]
  cases htext : v.text.toList with
  | nil => exact absurd htext hne
  | cons c cs =>
      have hc : '0' ≤ c := (hall c (htext ▸ List.mem_cons_self)).1
      have hdash : c ≠ '-' := by
        rintro rfl
        exact absurd hc (by decide)
      simp [List.isPrefixOf, hdash.symm]

theorem tokens_exchangeRef (g : UpdateGroup) :
    (g.group "--template-ref").tokens.map exchangeRef = (g.group "--openclaw-ref").tokens := by
  have hname : ∀ name : String, name ≠ "--template-ref" → name ≠ "--openclaw-ref" →
      ∀ value : Option String, (∀ text ∈ value, startsWithDashes text = false) →
        (Group.mk name value).tokens.map exchangeRef = (Group.mk name value).tokens := by
    intro name htemplate hopenclaw value hplain
    cases value with
    | none => simp [Group.tokens, exchangeRef_other htemplate hopenclaw]
    | some text => simp [Group.tokens, exchangeRef_other htemplate hopenclaw,
        exchangeRef_of_plain (hplain text rfl)]
  cases g with
  | service v =>
      exact hname _ (by decide) (by decide) _ fun _ h => Option.some.inj h ▸ v.plain
  | ref v =>
      simp [UpdateGroup.group, Group.tokens, exchangeRef_template, exchangeRef_of_plain v.plain]
  | expectedCurrentRef v =>
      exact hname _ (by decide) (by decide) _ fun _ h => Option.some.inj h ▸ v.plain
  | setupUsername v =>
      exact hname _ (by decide) (by decide) _ fun _ h => Option.some.inj h ▸ v.plain
  | forceRedeploy => exact hname _ (by decide) (by decide) _ fun _ h => by cases h
  | pollSeconds v =>
      exact hname _ (by decide) (by decide) _ fun _ h => Option.some.inj h ▸ v.plain
  | timeoutMinutes v =>
      exact hname _ (by decide) (by decide) _ fun _ h => Option.some.inj h ▸ v.plain

/-- The exchange turns the lines of one parser into those of the other. -/
theorem line_exchangeRef (groups : List UpdateGroup) :
    (line "--template-ref" groups).map exchangeRef = line "--openclaw-ref" groups := by
  rw [line, List.map_flatMap]
  simp only [tokens_exchangeRef]
  rfl

theorem map_exchangeRef_eq {args' : List String} :
    args.map exchangeRef = args' ↔ args = args'.map exchangeRef := by
  have hback : ∀ args : List String, (args.map exchangeRef).map exchangeRef = args := by
    intro args
    simp [Function.comp_def, exchangeRef_exchangeRef]
  constructor
  · rintro rfl
    exact (hback args).symm
  · rintro rfl
    exact hback args'

theorem parseUpdateOpenClawRefArgs_toOption (args : List String) :
    (parseUpdateOpenClawRefArgs args).toOption =
      (parseUpdateRefArgs (args.map exchangeRef)).toOption.map
        UpdateClientTemplateRefOptions.renamed := by
  rw [← parsers_renamed, ← map_exchangeRef_eq.mp rfl]

/-- The lines the second parser accepts, and what it makes of them. -/
theorem parseUpdateOpenClawRefArgs_iff {options : UpdateClientOpenClawRefOptions} :
    parseUpdateOpenClawRefArgs args = .ok options ↔
      ∃ groups, args = line "--openclaw-ref" groups ∧
        (templateRefOptions groups).map UpdateClientTemplateRefOptions.renamed = some options := by
  rw [eq_ok_iff_toOption, parseUpdateOpenClawRefArgs_toOption, Option.map_eq_some_iff]
  constructor
  · rintro ⟨o, ho, rfl⟩
    obtain ⟨groups, hline, hgroups⟩ := parseUpdateRefArgs_iff.mp (eq_ok_iff_toOption.mpr ho)
    refine ⟨groups, ?_, by rw [hgroups]; rfl⟩
    rw [map_exchangeRef_eq.mp hline, line_exchangeRef]
  · rintro ⟨groups, rfl, h⟩
    obtain ⟨o, ho, rfl⟩ := Option.map_eq_some_iff.mp h
    refine ⟨o, ?_, rfl⟩
    rw [← line_exchangeRef, ← map_exchangeRef_eq.mp rfl]
    exact (parseUpdateRefArgs_line groups).trans ho

theorem parseUpdateOpenClawRefArgs_line (groups : List UpdateGroup) :
    (parseUpdateOpenClawRefArgs (line "--openclaw-ref" groups)).toOption =
      (templateRefOptions groups).map UpdateClientTemplateRefOptions.renamed := by
  rw [← line_exchangeRef, parsers_renamed, parseUpdateRefArgs_line]

end Renaming

/-! ### The grammar -/

section Grammar

variable {args : List String} {groups groups' : List UpdateGroup}

/-- The three flags that have to be there are there. -/
def Complete (groups : List UpdateGroup) : Prop :=
  (∃ v, .service v ∈ groups) ∧ (∃ v, .ref v ∈ groups) ∧ ∃ v, .expectedCurrentRef v ∈ groups

/-- The same groups, those of one flag in the same order. -/
def Reordered (refFlag : String) (groups groups' : List UpdateGroup) : Prop :=
  ∀ flag, groups.filter (fun g => g.flag refFlag = flag) =
    groups'.filter (fun g => g.flag refFlag = flag)

theorem templateRefOptions_eq_some {options : UpdateClientTemplateRefOptions} :
    templateRefOptions groups = some options ↔
      lastValue UpdateGroup.service? groups = some options.service ∧
      lastValue UpdateGroup.ref? groups = some options.templateRef ∧
      lastValue UpdateGroup.expectedCurrentRef? groups = some options.expectedCurrentRef ∧
      lastValue UpdateGroup.forceRedeploy? groups = options.forceRedeploy ∧
      lastValue UpdateGroup.setupUsername? groups = options.setupUsername ∧
      lastValue UpdateGroup.pollSeconds? groups = options.pollSeconds ∧
      lastValue UpdateGroup.timeoutMinutes? groups = options.timeoutMinutes := by
  rw [templateRefOptions]
  cases options
  cases lastValue UpdateGroup.service? groups with
  | none => simp
  | some service =>
      cases lastValue UpdateGroup.ref? groups with
      | none => simp
      | some templateRef =>
          cases lastValue UpdateGroup.expectedCurrentRef? groups with
          | none => simp
          | some expectedCurrentRef => simp

theorem lastValue_member (member? : UpdateGroup → Option String) (mk : FlagValue → UpdateGroup)
    (h : ∀ g, (member? g).isSome = true ↔ ∃ v, g = mk v) (groups : List UpdateGroup) :
    (lastValue member? groups).isSome = true ↔ ∃ v, mk v ∈ groups := by
  rw [lastValue_isSome]
  constructor
  · rintro ⟨g, hmem, hg⟩
    obtain ⟨v, rfl⟩ := (h g).mp hg
    exact ⟨v, hmem⟩
  · rintro ⟨v, hmem⟩
    exact ⟨_, hmem, (h _).mpr ⟨v, rfl⟩⟩

/-- The options are there when the three flags are. -/
theorem templateRefOptions_isSome :
    (templateRefOptions groups).isSome = true ↔ Complete groups := by
  have hservice := lastValue_member UpdateGroup.service? .service
    (fun g => by cases g <;> simp [UpdateGroup.service?]) groups
  have href := lastValue_member UpdateGroup.ref? .ref
    (fun g => by cases g <;> simp [UpdateGroup.ref?]) groups
  have hexpected := lastValue_member UpdateGroup.expectedCurrentRef? .expectedCurrentRef
    (fun g => by cases g <;> simp [UpdateGroup.expectedCurrentRef?]) groups
  rw [Complete, ← hservice, ← href, ← hexpected]
  simp only [Option.isSome_iff_exists, templateRefOptions_eq_some]
  constructor
  · rintro ⟨options, hs, hr, he, -⟩
    exact ⟨⟨_, hs⟩, ⟨_, hr⟩, ⟨_, he⟩⟩
  · rintro ⟨⟨service, hs⟩, ⟨templateRef, hr⟩, ⟨expectedCurrentRef, he⟩⟩
    exact ⟨⟨service, templateRef, expectedCurrentRef, _, _, _, _⟩, hs, hr, he, rfl, rfl, rfl, rfl⟩

/-- The order of the groups does not matter, but among those of one flag. -/
theorem templateRefOptions_reordered {refFlag : String} (h : Reordered refFlag groups groups') :
    templateRefOptions groups = templateRefOptions groups' := by
  have hsame : ∀ {α : Type} (flag : String) (member? : UpdateGroup → Option α),
      (∀ g, g.flag refFlag ≠ flag → member? g = none) →
        lastValue member? groups = lastValue member? groups' :=
    fun flag member? hnone => lastValue_congr (fun g hg => hnone g (of_decide_eq_false hg)) (h flag)
  rw [templateRefOptions, templateRefOptions,
    hsame "--service" UpdateGroup.service? fun g hg => by
      cases g <;> first | rfl | exact absurd rfl hg,
    hsame refFlag UpdateGroup.ref? fun g hg => by
      cases g <;> first | rfl | exact absurd rfl hg,
    hsame "--expected-current-ref" UpdateGroup.expectedCurrentRef? fun g hg => by
      cases g <;> first | rfl | exact absurd rfl hg,
    hsame "--force-redeploy" UpdateGroup.forceRedeploy? fun g hg => by
      cases g <;> first | rfl | exact absurd rfl hg,
    hsame "--setup-username" UpdateGroup.setupUsername? fun g hg => by
      cases g <;> first | rfl | exact absurd rfl hg,
    hsame "--poll-seconds" UpdateGroup.pollSeconds? fun g hg => by
      cases g <;> first | rfl | exact absurd rfl hg,
    hsame "--timeout-minutes" UpdateGroup.timeoutMinutes? fun g hg => by
      cases g <;> first | rfl | exact absurd rfl hg]

theorem parseUpdateRefArgs_accepts : (∃ options, parseUpdateRefArgs args = .ok options) ↔
    ∃ groups, args = line "--template-ref" groups ∧ Complete groups := by
  simp only [parseUpdateRefArgs_iff, ← templateRefOptions_isSome, Option.isSome_iff_exists]
  constructor
  · rintro ⟨options, groups, hline, h⟩
    exact ⟨groups, hline, options, h⟩
  · rintro ⟨groups, hline, options, h⟩
    exact ⟨options, groups, hline, h⟩

theorem parseUpdateOpenClawRefArgs_accepts :
    (∃ options, parseUpdateOpenClawRefArgs args = .ok options) ↔
      ∃ groups, args = line "--openclaw-ref" groups ∧ Complete groups := by
  simp only [parseUpdateOpenClawRefArgs_iff, ← templateRefOptions_isSome, Option.isSome_iff_exists]
  constructor
  · rintro ⟨options, groups, hline, h⟩
    obtain ⟨o, ho, -⟩ := Option.map_eq_some_iff.mp h
    exact ⟨groups, hline, o, ho⟩
  · rintro ⟨groups, hline, o, h⟩
    exact ⟨o.renamed, groups, hline, Option.map_eq_some_iff.mpr ⟨o, h, rfl⟩⟩

/-- The ref that is expected was stated. -/
theorem expected_stated {options : UpdateClientTemplateRefOptions}
    (h : templateRefOptions groups = some options) :
    ∃ v, .expectedCurrentRef v ∈ groups ∧ options.expectedCurrentRef = v.text := by
  obtain ⟨-, -, hlast, -⟩ := templateRefOptions_eq_some.mp h
  obtain ⟨g, hmem, hg⟩ := List.mem_filterMap.mp (List.mem_of_getLast? hlast)
  cases g with
  | expectedCurrentRef v => exact ⟨v, hmem, (Option.some.inj hg).symm⟩
  | _ => cases hg

/-- **The two updates have one grammar.** -/
theorem update_grammar :
    -- the parsers are one up to the names of the ref flags
    (∀ args, (parseUpdateOpenClawRefArgs (args.map exchangeRef)).toOption =
      (parseUpdateRefArgs args).toOption.map UpdateClientTemplateRefOptions.renamed) ∧
    -- the lines they accept
    (∀ args, (∃ options, parseUpdateRefArgs args = .ok options) ↔
      ∃ groups, args = line "--template-ref" groups ∧ Complete groups) ∧
    (∀ args, (∃ options, parseUpdateOpenClawRefArgs args = .ok options) ↔
      ∃ groups, args = line "--openclaw-ref" groups ∧ Complete groups) ∧
    -- the last group of each flag counts
    (∀ groups, (parseUpdateRefArgs (line "--template-ref" groups)).toOption =
      templateRefOptions groups) ∧
    (∀ groups, (parseUpdateOpenClawRefArgs (line "--openclaw-ref" groups)).toOption =
      (templateRefOptions groups).map UpdateClientTemplateRefOptions.renamed) ∧
    -- and the order of flags that differ does not
    (∀ groups groups', Reordered "--template-ref" groups groups' →
      (parseUpdateRefArgs (line "--template-ref" groups)).toOption =
        (parseUpdateRefArgs (line "--template-ref" groups')).toOption) ∧
    (∀ groups groups', Reordered "--openclaw-ref" groups groups' →
      (parseUpdateOpenClawRefArgs (line "--openclaw-ref" groups)).toOption =
        (parseUpdateOpenClawRefArgs (line "--openclaw-ref" groups')).toOption) ∧
    -- an update that is run was told the ref to expect
    (∀ rt fuel args tool, mainUpdateRef rt fuel args = .ok tool →
      ∃ groups options v, args = line "--template-ref" groups ∧ .expectedCurrentRef v ∈ groups ∧
        options.expectedCurrentRef = v.text ∧
          tool = Railway.updateClientTemplateRef rt fuel options) ∧
    (∀ rt fuel args tool, mainUpdateOpenClawRef rt fuel args = .ok tool →
      ∃ groups options v, args = line "--openclaw-ref" groups ∧ .expectedCurrentRef v ∈ groups ∧
        options.expectedCurrentRef = v.text ∧
          tool = Railway.updateClientOpenClawRef rt fuel options) := by
  refine ⟨parsers_renamed, fun _ => parseUpdateRefArgs_accepts,
    fun _ => parseUpdateOpenClawRefArgs_accepts, parseUpdateRefArgs_line,
    parseUpdateOpenClawRefArgs_line, ?_, ?_, ?_, ?_⟩
  · intro groups groups' h
    rw [parseUpdateRefArgs_line, parseUpdateRefArgs_line, templateRefOptions_reordered h]
  · intro groups groups' h
    rw [parseUpdateOpenClawRefArgs_line, parseUpdateOpenClawRefArgs_line,
      templateRefOptions_reordered h]
  · intro rt fuel args tool h
    obtain ⟨options, hparse, rfl⟩ := map_eq_ok.mp h
    obtain ⟨groups, hline, hoptions⟩ := parseUpdateRefArgs_iff.mp hparse
    obtain ⟨v, hmem, hv⟩ := expected_stated hoptions
    exact ⟨groups, options.shared, v, hline, hmem, hv, rfl⟩
  · intro rt fuel args tool h
    obtain ⟨options, hparse, rfl⟩ := map_eq_ok.mp h
    obtain ⟨groups, hline, hoptions⟩ := parseUpdateOpenClawRefArgs_iff.mp hparse
    obtain ⟨o, ho, rfl⟩ := Option.map_eq_some_iff.mp hoptions
    obtain ⟨v, hmem, hv⟩ := expected_stated ho
    exact ⟨groups, o.renamed.shared, v, hline, hmem, hv, rfl⟩

end Grammar

end Cli
