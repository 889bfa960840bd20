/-
ControlPlane/Webhook/DedupKeys.lean

What a dedup key stands for.

A key is written without escaping, `owner/repo#N@sha` or `owner/repo#N/comment-id`,
and a head sha may be any text.  It can be read back all the same: the name of a
repository has no `#`, a number no `@` and no `/`, so each part ends where the first
character of the next kind stands (`parts_injective`), and what is left is the sha or
the id.
-/
import ControlPlane.Webhook.Authorisation

namespace Webhook

open Js

/-! ### Reading a text part by part -/

/-- A part ends where the first character stands that it cannot have. -/
theorem parts_injective {p : Char → Prop} {x y z w : List Char} {a b : Char}
    (hx : ∀ c ∈ x, p c) (hy : ∀ c ∈ y, p c) (ha : ¬p a) (hb : ¬p b)
    (h : x ++ a :: z = y ++ b :: w) : x = y ∧ a = b ∧ z = w := by
  induction x generalizing y with
  | nil =>
      cases y with
      | nil =>
          obtain ⟨rfl, rfl⟩ := List.cons.inj h
          exact ⟨rfl, rfl, rfl⟩
      | cons c y =>
          obtain ⟨rfl, -⟩ := List.cons.inj h
          exact absurd (hy a List.mem_cons_self) ha
  | cons c x ih =>
      cases y with
      | nil =>
          obtain ⟨rfl, -⟩ := List.cons.inj h
          exact absurd (hx c List.mem_cons_self) hb
      | cons d y =>
          obtain ⟨rfl, htail⟩ := List.cons.inj h
          obtain ⟨rfl, hmark, hrest⟩ := ih (fun e he => hx e (List.mem_cons_of_mem _ he))
            (fun e he => hy e (List.mem_cons_of_mem _ he)) htail
          exact ⟨rfl, hmark, hrest⟩

/-! ### The parts of a key -/

/-- GitHub's rule for the names of repositories, as far as a key needs it. -/
def NoHash (payload : Value) : Prop :=
  ∀ repo, repoFullName payload = .json (.str repo) → '#' ∉ repo.toList

/-- What follows the resource number: the head, or the comment. -/
def keyTail (event : String) (payload : Value) : List Char :=
  if event = "pull_request" then '@' :: ((pullRequestHeadSha payload).getD "").toList
  else "/comment-".toList ++ (((issueCommentId payload).map Value.display).getD "").toList

section Keys

variable {event event' repo repo' key key' : String} {payload payload' : Value}
  {number number' : Number}

/-- A key is the repository, the number and what follows it. -/
theorem NamesTarget.toList_key (h : NamesTarget event payload repo number key) :
    key.toList = repo.toList ++ '#' :: (number.text.toList ++ keyTail event payload) := by
  cases h with
  | pullRequest hrepo hnumber hsha hne =>
      rw [keyTail, if_pos rfl, pullRequestHeadSha_eq_some_iff.mpr ⟨hsha, hne⟩]
      simp [String.toList_append]
  | issueComment hrepo hnumber hid htype =>
      have hnot : "issue_comment" ≠ "pull_request" := by decide
      rw [keyTail, if_neg hnot, issueCommentId_eq_some_iff.mpr ⟨hid, htype⟩]
      simp [String.toList_append]

/-- Only the two events have keys. -/
theorem NamesTarget.event_eq (h : NamesTarget event payload repo number key) :
    event = "pull_request" ∨ event = "issue_comment" := by
  cases h with
  | pullRequest => exact .inl rfl
  | issueComment => exact .inr rfl

/-- What follows the number starts with a character no number has. -/
theorem keyTail_eq_cons (event : String) (payload : Value) :
    ∃ mark rest, keyTail event payload = mark :: rest ∧ isNumberChar mark = false ∧
      (mark = '@' ↔ event = "pull_request") := by
  unfold keyTail
  split
  · next hpr => exact ⟨'@', _, rfl, by decide, fun _ => hpr, fun _ => rfl⟩
  · next hpr =>
    refine ⟨'/', "comment-".toList ++
      (((issueCommentId payload).map Value.display).getD "").toList, rfl, by decide, ?_⟩
    exact ⟨fun h => absurd h (by decide), fun h => absurd h hpr⟩

/-- The parts of two equal keys are equal. -/
theorem NamesTarget.parts_eq (h : NamesTarget event payload repo number key)
    (h' : NamesTarget event' payload' repo' number' key) (hrepo : '#' ∉ repo.toList)
    (hrepo' : '#' ∉ repo'.toList) :
    repo = repo' ∧ number = number' ∧ (event = "pull_request" ↔ event' = "pull_request") ∧
      keyTail event payload = keyTail event' payload' := by
  have heq := h.toList_key.symm.trans h'.toList_key
  have hother : ∀ s : String, '#' ∉ s.toList → ∀ c ∈ s.toList, c ≠ '#' := by
    rintro s hs c hc rfl
    exact hs hc
  obtain ⟨hname, -, hrest⟩ := parts_injective (hother repo hrepo) (hother repo' hrepo')
    (fun hne => hne rfl) (fun hne => hne rfl) heq
  obtain ⟨mark, rest, htail, hmark, hevent⟩ := keyTail_eq_cons event payload
  obtain ⟨mark', rest', htail', hmark', hevent'⟩ := keyTail_eq_cons event' payload'
  rw [htail, htail'] at hrest
  obtain ⟨hnumber, rfl, rfl⟩ := parts_injective (List.all_eq_true.mp number.wf)
    (List.all_eq_true.mp number'.wf) (by simp [hmark]) (by simp [hmark']) hrest
  refine ⟨String.toList_injective hname, ?_, hevent.symm.trans hevent', ?_⟩
  · cases number
    cases number'
    congr 1
    exact String.toList_injective hnumber
  · rw [htail, htail']

/-- The head or the comment can be read off what follows the number. -/
theorem NamesTarget.tail_eq_iff (h : NamesTarget event payload repo number key)
    (h' : NamesTarget event' payload' repo' number' key') (hevent : event = event') :
    keyTail event payload = keyTail event' payload' ↔
      (event = "pull_request" → pullRequestHeadSha payload = pullRequestHeadSha payload') ∧
      (event = "issue_comment" →
        (issueCommentId payload).map Value.display =
          (issueCommentId payload').map Value.display) := by
  have hnot : "issue_comment" ≠ "pull_request" := by decide
  have hnot' : "pull_request" ≠ "issue_comment" := by decide
  cases h with
  | pullRequest _ _ hsha hne =>
      cases h' with
      | pullRequest _ _ hsha' hne' =>
          rw [keyTail, keyTail, if_pos rfl, if_pos rfl,
            pullRequestHeadSha_eq_some_iff.mpr ⟨hsha, hne⟩,
            pullRequestHeadSha_eq_some_iff.mpr ⟨hsha', hne'⟩]
          simp [hnot', String.toList_inj]
      | issueComment => exact absurd hevent hnot'
  | issueComment _ _ hid htype =>
      cases h' with
      | pullRequest => exact absurd hevent hnot
      | issueComment _ _ hid' htype' =>
          rw [keyTail, keyTail, if_neg hnot, if_neg hnot,
            issueCommentId_eq_some_iff.mpr ⟨hid, htype⟩,
            issueCommentId_eq_some_iff.mpr ⟨hid', htype'⟩]
          simp [hnot, String.toList_inj]

/-- **A dedup key identifies one head or one comment.**  Keys are equal exactly when
the events, the repositories, the numbers and the heads or the comment ids are; a head
sha may be any text.  A key of a pull request is never one of a comment. -/
theorem computeDedupKey_injective (h : computeDedupKey event payload = some key)
    (h' : computeDedupKey event' payload' = some key') (hrepo : NoHash payload)
    (hrepo' : NoHash payload') :
    (key = key' ↔ event = event' ∧ repoFullName payload = repoFullName payload' ∧
      resourceNumberFor event payload = resourceNumberFor event' payload' ∧
      (event = "pull_request" → pullRequestHeadSha payload = pullRequestHeadSha payload') ∧
      (event = "issue_comment" →
        (issueCommentId payload).map Value.display =
          (issueCommentId payload').map Value.display)) ∧
    (event = "pull_request" → event' = "issue_comment" → key ≠ key') := by
  obtain ⟨repo, number, -, ht⟩ := computeDedupKey_eq_some_iff.mp h
  obtain ⟨repo', number', -, ht'⟩ := computeDedupKey_eq_some_iff.mp h'
  have hparts : key = key' → event = event' ∧ repo = repo' ∧ number = number' ∧
      keyTail event payload = keyTail event' payload' := by
    rintro rfl
    obtain ⟨hname, hnumber, hevent, htail⟩ :=
      ht.parts_eq ht' (hrepo repo ht.repository) (hrepo' repo' ht'.repository)
    refine ⟨?_, hname, hnumber, htail⟩
    rcases ht.event_eq with hpr | hic
    · rw [hpr, hevent.mp hpr]
    · rcases ht'.event_eq with hpr' | hic'
      · rw [hevent.mpr hpr', hpr']
      · rw [hic, hic']
  refine ⟨⟨?_, ?_⟩, ?_⟩
  · intro hkey
    obtain ⟨rfl, rfl, rfl, htail⟩ := hparts hkey
    refine ⟨rfl, ?_, ?_, (ht.tail_eq_iff ht' rfl).mp htail⟩
    · rw [ht.repository, ht'.repository]
    · rw [ht.resource, ht'.resource]
  · rintro ⟨rfl, hname, hnumber, hsame⟩
    have htail := (ht.tail_eq_iff ht' rfl).mpr hsame
    rw [ht.repository, ht'.repository] at hname
    rw [ht.resource, ht'.resource] at hnumber
    cases hname
    cases hnumber
    apply String.toList_injective
    rw [ht.toList_key, ht'.toList_key, htail]
  · rintro rfl rfl hkey
    exact absurd (hparts hkey).1 (by decide)

end Keys

/-! ### A head that looks like a comment -/

/-- A pull request whose head sha is written like the tail of another key. -/
def headPayload (sha : String) : Value :=
  .json (.obj [("repository", .obj [("full_name", .str "o/r")]),
    ("pull_request", .obj [("number", .num (.ofNat 7)), ("head", .obj [("sha", .str sha)])])])

theorem headPayload_key {sha : String} (hne : sha ≠ "") :
    computeDedupKey "pull_request" (headPayload sha) = some ("o/r#7@" ++ sha) := by
  refine computeDedupKey_eq_some_iff.mpr ⟨"o/r", .ofNat 7, by decide, ?_⟩
  exact .pullRequest rfl rfl rfl hne

theorem headPayload_noHash (sha : String) : NoHash (headPayload sha) := by
  intro repo hrepo
  cases hrepo
  decide

/-- Heads with the marks of a key in them are told apart. -/
theorem headPayload_keys_differ :
    computeDedupKey "pull_request" (headPayload "a#8@b") = some "o/r#7@a#8@b" ∧
      computeDedupKey "pull_request" (headPayload "a#8/comment-b") =
        some "o/r#7@a#8/comment-b" ∧
      "o/r#7@a#8@b" ≠ "o/r#7@a#8/comment-b" := by
  have hshort : computeDedupKey "pull_request" (headPayload "a#8@b") = some "o/r#7@a#8@b" :=
    headPayload_key (by decide)
  have hlong : computeDedupKey "pull_request" (headPayload "a#8/comment-b") =
      some "o/r#7@a#8/comment-b" := headPayload_key (by decide)
  refine ⟨hshort, hlong, fun heq => ?_⟩
  have hiff := (computeDedupKey_injective hshort hlong (headPayload_noHash _)
    (headPayload_noHash _)).1
  have hsha := (hiff.mp heq).2.2.2.1 rfl
  revert hsha
  decide

end Webhook
