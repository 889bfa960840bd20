/-
ControlPlane/Stream/PatchRuns.lean

The transport patch as a command on a checkout, run any number of times.

A run looks for the companion file, reads and checks the transport and the helper, and only
then copies the helper and writes the transport.  Between the two the checkout is half
patched, and a run can be cut off there, or one of the two calls can fail and leave
anything behind in its file.

`Phase` is the invariant of the checkout over any sequence of such runs: nothing was done,
or a companion file is there and the transport is as it was, or the transport was written
once.  The companion file is what keeps later runs out (`Phase.run`).
-/
import ControlPlane.Stream.Instrument
import ControlPlane.Interaction.Once
import Mathlib.Logic.Function.Basic

namespace Stream

open Interaction

/-! ### The command -/

/-- The files of a run: the transport, the companion beside it, and the helper that is
copied to it. -/
inductive TreeFile where
  | target
  | companion
  | helper
  deriving DecidableEq

/-- What the script asks of the checkout. -/
inductive PatchCall where
  | existsSync (f : TreeFile)
  | readFileSync (f : TreeFile)
  | copyFileSync (src dest : TreeFile)
  | writeFileSync (f : TreeFile) (text : List Char)

/-- The calls and what they are answered with. -/
def PatchCalls : Interface where
  Call := PatchCall
  Reply
    | .existsSync _ => Bool
    | .readFileSync _ => Except String (List Char)
    | .copyFileSync _ _ => Except String Unit
    | .writeFileSync _ _ => Except String Unit

/-- The code of the script. -/
abbrev PatchRun := Prog PatchCalls String Unit

/-- The helper has to be there before anything is touched. -/
def writePatch (rewritten : List Char) : PatchRun := do
  let _ ← Prog.ask (I := PatchCalls) (.readFileSync .helper) id
  Prog.ask (I := PatchCalls) (.copyFileSync .helper .companion) id
  Prog.ask (I := PatchCalls) (.writeFileSync .target rewritten) id

/-- The command behind its first check. -/
def installPatch (sha256 : List Char → String) : PatchRun := do
  let source ← Prog.ask (I := PatchCalls) (.readFileSync .target) id
  let rewritten ← Prog.ofExcept (patchOpenAIStreamMetadata sha256 source)
  writePatch rewritten

/-- The command with the path of the checkout it was given. -/
def patchCommand (sha256 : List Char → String) (root : Option String) : PatchRun :=
  if root.getD "" = "" then
    .throw "usage: node patch-openai-stream-metadata.mjs <openclaw-root>"
  else
    Prog.ask (I := PatchCalls) (.existsSync .companion) (fun found : Bool =>
      if found then .error "Diagnostic companion already exists; refusing overwrite." else .ok ())
      >>= fun _ => installPatch sha256

/-! ### The checkout -/

/-- The files of a checkout, as far as the script knows them. -/
abbrev Checkout := TreeFile → Option (List Char)

/-- What a call can do to the files.  A call that fails, or is cut off, leaves anything in
the file it writes to. -/
inductive FileStep : Checkout → Event PatchCalls → Checkout → Prop
  | looked {s : Checkout} {f : TreeFile} : FileStep s ⟨.existsSync f, (s f).isSome⟩ s
  | read {s : Checkout} {f : TreeFile} {text : List Char} (h : s f = some text) :
      FileStep s ⟨.readFileSync f, .ok text⟩ s
  | readFails {s : Checkout} {f : TreeFile} {message : String} :
      FileStep s ⟨.readFileSync f, .error message⟩ s
  | copy {s : Checkout} {src dest : TreeFile} {text : List Char} (h : s src = some text) :
      FileStep s ⟨.copyFileSync src dest, .ok ()⟩ (Function.update s dest (some text))
  | copyFails {s : Checkout} {src dest : TreeFile} {message : String}
      {left : Option (List Char)} :
      FileStep s ⟨.copyFileSync src dest, .error message⟩ (Function.update s dest left)
  | write {s : Checkout} {f : TreeFile} {text : List Char} :
      FileStep s ⟨.writeFileSync f text, .ok ()⟩ (Function.update s f (some text))
  | writeFails {s : Checkout} {f : TreeFile} {text : List Char} {message : String}
      {left : Option (List Char)} :
      FileStep s ⟨.writeFileSync f text, .error message⟩ (Function.update s f left)

/-- The checkout as a transition system over calls and replies. -/
def fileSystem : Lts Checkout (Event PatchCalls) where
  step := FileStep

/-- Writes of the transport. -/
def isWrite : Event PatchCalls → Bool
  | ⟨.writeFileSync _ _, _⟩ => true
  | _ => false

/-- Some write of the run has failed. -/
def WriteFailed (t : List (Event PatchCalls)) : Prop :=
  ∃ f text message, ⟨.writeFileSync f text, .error message⟩ ∈ t

section Runs

variable {sha256 : List Char → String} {root : Option String} {t : List (Event PatchCalls)}
  {s s' : Checkout} {q : PatchRun}

/-- **What one run can do**, cut off wherever: nothing, leave something in place of the
companion, or put in place both files. -/
inductive RunEffect (sha256 : List Char → String) (s : Checkout) (t : List (Event PatchCalls)) :
    Checkout → Prop
  | nothing (h : t.countP isWrite = 0) : RunEffect sha256 s t s
  | copied (habsent : s .companion = none) (h : t.countP isWrite = 0)
      (left : Option (List Char)) : RunEffect sha256 s t (Function.update s .companion left)
  | wrote {source rewritten helper : List Char} (habsent : s .companion = none)
      (h : t.countP isWrite = 1) (hsource : s .target = some source)
      (hhelper : s .helper = some helper)
      (hpatched : patchOpenAIStreamMetadata sha256 source = .ok rewritten)
      (left : Option (List Char)) (hleft : left = some rewritten ∨ WriteFailed t) :
      RunEffect sha256 s t
        (Function.update (Function.update s .companion (some helper)) .target left)

/-- A call that writes nothing has no effect. -/
theorem RunEffect.cons {e : Event PatchCalls} (h : RunEffect sha256 s t s')
    (he : isWrite e = false) : RunEffect sha256 s (e :: t) s' := by
  have hcount : (e :: t).countP isWrite = t.countP isWrite := by
    rw [List.countP_cons_of_neg (by simp [he])]
  cases h with
  | nothing h => exact .nothing (hcount.trans h)
  | copied habsent h left => exact .copied habsent (hcount.trans h) left
  | wrote habsent h hsource hhelper hpatched left hleft =>
      refine .wrote habsent (hcount.trans h) hsource hhelper hpatched left (hleft.imp_right ?_)
      rintro ⟨f, text, message, hmem⟩
      exact ⟨f, text, message, List.mem_cons_of_mem e hmem⟩

/-- Looking for a file changes nothing. -/
theorem step_exists {f : TreeFile} {found : Bool} (h : FileStep s ⟨.existsSync f, found⟩ s') :
    s' = s ∧ found = (s f).isSome := by
  cases h with
  | looked => exact ⟨rfl, rfl⟩

/-- Nor does reading it. -/
theorem step_read {f : TreeFile} {reply : Except String (List Char)}
    (h : FileStep s ⟨.readFileSync f, reply⟩ s') :
    s' = s ∧ ∀ text, reply = .ok text → s f = some text := by
  cases h with
  | read htext =>
      refine ⟨rfl, ?_⟩
      rintro text ⟨⟩
      exact htext
  | readFails => exact ⟨rfl, by rintro text ⟨⟩⟩

/-- A copy changes its destination only. -/
theorem step_copy {src dest : TreeFile} {reply : Except String Unit}
    (h : FileStep s ⟨.copyFileSync src dest, reply⟩ s') :
    ∃ left, s' = Function.update s dest left ∧ (reply = .ok () → left = s src) := by
  cases h with
  | copy htext => exact ⟨_, rfl, fun _ => htext.symm⟩
  | copyFails => exact ⟨_, rfl, by rintro ⟨⟩⟩

/-- A write changes its file only. -/
theorem step_write {f : TreeFile} {text : List Char} {reply : Except String Unit}
    (h : FileStep s ⟨.writeFileSync f text, reply⟩ s') :
    ∃ left, s' = Function.update s f left ∧
      (left = some text ∨ ∃ message, reply = .error message) := by
  cases h with
  | write => exact ⟨_, rfl, .inl rfl⟩
  | writeFails => exact ⟨_, rfl, .inr ⟨_, rfl⟩⟩

theorem after_ofExcept {x : Except String Unit} (h : (Prog.ofExcept x : PatchRun).After t q) :
    t = [] := by
  cases x with
  | ok a => exact h.1
  | error e => exact h.1

/-- What is refused makes no call. -/
theorem after_refused {α : Type} {x : Except String α} {f : α → PatchRun} {message : String}
    (hx : x = .error message) : (Prog.ofExcept x >>= f).After [] (.throw message) := by
  rw [hx]
  exact ⟨rfl, rfl⟩

/-- The effect of the copy and the write, as far as they went. -/
theorem writePatch_effect {source rewritten : List Char} (habsent : s .companion = none)
    (hsource : s .target = some source)
    (hpatched : patchOpenAIStreamMetadata sha256 source = .ok rewritten)
    (h : (writePatch rewritten).After t q) (hrun : fileSystem.Run s t s') :
    RunEffect sha256 s t s' := by
  rcases Prog.after_ask_bind h with rfl | ⟨r, e, rfl, -⟩ | ⟨r, helper, t, rfl, hhelper, h⟩
  · rw [Lts.run_nil.mp hrun]
    exact .nothing rfl
  · rw [(step_read (Lts.run_singleton.mp hrun)).1]
    exact .nothing rfl
  obtain ⟨m, hstep, hrun⟩ := hrun
  obtain ⟨rfl, hread⟩ := step_read hstep
  have hhelper := hread helper hhelper
  rcases Prog.after_ask_bind h with rfl | ⟨r, e, rfl, -⟩ | ⟨r, a, t, rfl, hcopied, h⟩
  · rw [Lts.run_nil.mp hrun]
    exact .nothing rfl
  · obtain ⟨m', hstep, rfl⟩ := hrun
    obtain ⟨left, rfl, -⟩ := step_copy hstep
    exact .copied habsent rfl left
  obtain ⟨m', hstep, hrun⟩ := hrun
  obtain ⟨left, rfl, hleft⟩ := step_copy hstep
  obtain rfl : left = some helper := (hleft hcopied).trans hhelper
  rcases Prog.after_call.mp h with ⟨rfl, -⟩ | ⟨reply, t, rfl, hrest⟩
  · rw [Lts.run_nil.mp hrun]
    exact .copied habsent rfl _
  · obtain ⟨m'', hstep, hrun⟩ := hrun
    obtain ⟨left', rfl, hwritten⟩ := step_write hstep
    obtain rfl : t = [] := after_ofExcept hrest
    rw [Lts.run_nil.mp hrun]
    refine .wrote habsent rfl hsource hhelper hpatched left' (hwritten.imp_right ?_)
    rintro ⟨message, rfl⟩
    exact ⟨_, _, message, .tail _ (.tail _ (.head _))⟩

/-- The effect of the patch where the companion is not there. -/
theorem installPatch_effect (habsent : s .companion = none) (h : (installPatch sha256).After t q)
    (hrun : fileSystem.Run s t s') : RunEffect sha256 s t s' := by
  rcases Prog.after_ask_bind h with rfl | ⟨r, e, rfl, -⟩ | ⟨r, source, t, rfl, hsource, h⟩
  · rw [Lts.run_nil.mp hrun]
    exact .nothing rfl
  · rw [(step_read (Lts.run_singleton.mp hrun)).1]
    exact .nothing rfl
  obtain ⟨m, hstep, hrun⟩ := hrun
  obtain ⟨rfl, hread⟩ := step_read hstep
  have hsource := hread source hsource
  cases hpatched : patchOpenAIStreamMetadata sha256 source with
  | error message =>
      rw [hpatched] at h
      obtain ⟨rfl, -⟩ := h
      rw [Lts.run_nil.mp hrun]
      exact .nothing rfl
  | ok rewritten =>
      rw [hpatched] at h
      exact (writePatch_effect habsent hsource hpatched h hrun).cons rfl

/-- The effect of the whole script. -/
theorem patchCommand_effect (h : (patchCommand sha256 root).After t q)
    (hrun : fileSystem.Run s t s') : RunEffect sha256 s t s' := by
  unfold patchCommand at h
  split at h
  · obtain ⟨rfl, -⟩ := h
    rw [Lts.run_nil.mp hrun]
    exact .nothing rfl
  · rcases Prog.after_ask_bind h with rfl | ⟨found, e, rfl, -⟩ | ⟨found, a, t, rfl, habsent, h⟩
    · rw [Lts.run_nil.mp hrun]
      exact .nothing rfl
    · rw [(step_exists (Lts.run_singleton.mp hrun)).1]
      exact .nothing rfl
    · obtain ⟨m, hstep, hrun⟩ := hrun
      obtain ⟨rfl, hfound⟩ := step_exists hstep
      have hnone : m .companion = none := by
        cases found with
        | true => cases habsent
        | false => simpa using hfound.symm
      exact (installPatch_effect hnone h hrun).cons rfl

/-! ### Any number of runs -/

/-- The checkout after some runs on it: nothing was done; or a companion is there, whole or
not, and the transport is as it was; or the helper was copied and the transport written. -/
inductive Phase (sha256 : List Char → String) (s₀ : Checkout) (t : List (Event PatchCalls)) :
    Checkout → Prop
  | untouched (h : t.countP isWrite = 0) : Phase sha256 s₀ t s₀
  | halfway (h : t.countP isWrite = 0) (left : List Char) :
      Phase sha256 s₀ t (Function.update s₀ .companion (some left))
  | written {source rewritten helper : List Char} (h : t.countP isWrite = 1)
      (hsource : s₀ .target = some source) (hhelper : s₀ .helper = some helper)
      (hhash : sha256 source = SOURCE_SHA256) (hpatched : Instrumented source rewritten)
      (left : Option (List Char)) (hleft : left = some rewritten ∨ WriteFailed t) :
      Phase sha256 s₀ t (Function.update (Function.update s₀ .companion (some helper)) .target left)

variable {s₀ : Checkout}

theorem WriteFailed.append_left {t' : List (Event PatchCalls)} (h : WriteFailed t) :
    WriteFailed (t ++ t') := by
  obtain ⟨f, text, message, hmem⟩ := h
  exact ⟨f, text, message, List.mem_append_left t' hmem⟩

theorem WriteFailed.append_right {t' : List (Event PatchCalls)} (h : WriteFailed t') :
    WriteFailed (t ++ t') := by
  obtain ⟨f, text, message, hmem⟩ := h
  exact ⟨f, text, message, List.mem_append_right t hmem⟩

/-- One more run. -/
theorem Phase.run {t' : List (Event PatchCalls)} (hfresh : s₀ .companion = none)
    (h : Phase sha256 s₀ t s) (hrun : RunEffect sha256 s t' s') :
    Phase sha256 s₀ (t ++ t') s' := by
  cases h with
  | untouched hno =>
      cases hrun with
      | nothing hno' => exact .untouched (by rw [List.countP_append, hno, hno'])
      | copied habsent hno' left =>
          have hcount : (t ++ t').countP isWrite = 0 := by rw [List.countP_append, hno, hno']
          cases left with
          | none =>
              rw [Function.update_eq_self_iff.mpr hfresh.symm]
              exact .untouched hcount
          | some left => exact .halfway hcount left
      | wrote habsent hone hsource hhelper hpatched left hleft =>
          obtain ⟨hhash, hinstrumented⟩ := patchOpenAIStreamMetadata_eq_ok_iff.mp hpatched
          exact .written (by rw [List.countP_append, hno, hone]) hsource hhelper hhash
            hinstrumented left (hleft.imp_right WriteFailed.append_right)
  | halfway hno left =>
      cases hrun with
      | nothing hno' => exact .halfway (by rw [List.countP_append, hno, hno']) left
      | copied habsent hno' left' => simp at habsent
      | wrote habsent => simp at habsent
  | written hone hsource hhelper hhash hpatched left hleft =>
      cases hrun with
      | nothing hno' =>
          exact .written (by rw [List.countP_append, hone, hno']) hsource hhelper hhash
            hpatched left (hleft.imp_right WriteFailed.append_left)
      | copied habsent hno' left' => simp at habsent
      | wrote habsent => simp at habsent

/-- **The transport is patched once, over any sequence of runs**, each of them cut off
wherever or failing at any call.  If there is no companion at the start, the transport is
written at most once; what is written is the transport as it was, of the pinned hash, with
every anchor replaced; the helper never changes. -/
theorem patch_runs {runs : List (List (Event PatchCalls))} (hfresh : s₀ .companion = none)
    (hruns : ∀ t ∈ runs, ∃ root q, (patchCommand sha256 root).After t q)
    (h : fileSystem.Run s₀ runs.flatten s) : Phase sha256 s₀ runs.flatten s := by
  induction runs using List.reverseRecOn generalizing s with
  | nil =>
      rw [Lts.run_nil.mp h]
      exact .untouched rfl
  | append_singleton runs t ih =>
      rw [List.flatten_concat] at h ⊢
      obtain ⟨m, hbefore, hlast⟩ := Lts.run_append.mp h
      obtain ⟨root, q, hafter⟩ := hruns t (by simp)
      have hphase := ih (fun t' ht' => hruns t' (by simp [ht'])) hbefore
      exact hphase.run hfresh (patchCommand_effect hafter hlast)

end Runs

/-- A transport of another version. -/
def driftedTransport : List Char := "export const version = 2;\n".toList

/-- The hash of this transport. -/
def driftedSha256 (_ : List Char) : String :=
  "e805b53808bab86c5156f7079002c9b8f06ed20822d58377ec0ae0f49e1fa19d"

/-- A checkout with this transport. -/
def driftedCheckout : Checkout
  | .target => some driftedTransport
  | .companion => none
  | .helper => some "export const version = 1;".toList

/-- A run that may not read the transport. -/
def deniedRun : List (Event PatchCalls) :=
  [⟨.existsSync .companion, false⟩, ⟨.readFileSync .target, .error "EACCES"⟩]

/-- A run that finds another hash than the pinned one. -/
def driftedRun : List (Event PatchCalls) :=
  [⟨.existsSync .companion, false⟩, ⟨.readFileSync .target, .ok driftedTransport⟩]

theorem deniedRun_after : (patchCommand driftedSha256 (some "openclaw")).After deniedRun
    (.throw "EACCES") :=
  .inr ⟨false, _, rfl, .inr ⟨.error "EACCES", [], rfl, rfl, rfl⟩⟩

theorem driftedRun_after : (patchCommand driftedSha256 (some "openclaw")).After driftedRun
    (.throw driftError) := by
  have hdrift : patchOpenAIStreamMetadata driftedSha256 driftedTransport = .error driftError :=
    if_pos (by decide)
  have hrefused : (Prog.ofExcept (patchOpenAIStreamMetadata driftedSha256 driftedTransport) >>=
      writePatch).After [] (.throw driftError) := after_refused hdrift
  exact .inr ⟨false, _, rfl, .inr ⟨.ok driftedTransport, [], rfl, hrefused⟩⟩

/-- The two runs leave the checkout as it was. -/
theorem driftedRuns_untouched :
    Phase driftedSha256 driftedCheckout [deniedRun, driftedRun].flatten driftedCheckout := by
  have hdenied : fileSystem.Run driftedCheckout deniedRun driftedCheckout :=
    ⟨driftedCheckout, .looked, driftedCheckout, .readFails, rfl⟩
  have hdrifted : fileSystem.Run driftedCheckout driftedRun driftedCheckout :=
    ⟨driftedCheckout, .looked, driftedCheckout, .read rfl, rfl⟩
  refine patch_runs rfl ?_
    (Lts.run_append.mpr ⟨_, hdenied, Lts.run_append.mpr ⟨_, hdrifted, rfl⟩⟩)
  intro t ht
  have hone : t = deniedRun ∨ t = driftedRun := by simpa using ht
  rcases hone with rfl | rfl
  · exact ⟨some "openclaw", .throw "EACCES", deniedRun_after⟩
  · exact ⟨some "openclaw", .throw driftError, driftedRun_after⟩

end Stream
