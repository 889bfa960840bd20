/-
ControlPlane/Stream/Disclosure.lean

What a line of stream diagnostics tells about the stream.

The collector looks at the text of an identifier, a reason and a block type; of every
other text it takes the length.  So two values that are alike up to texts of equal
lengths are one operation (`Call.Alike.step_eq`), and two alike sequences of calls are
one run.  How long the line can be follows from the summary's types, whatever was
counted (`Summary.fits`).
-/
import ControlPlane.Js.Size
import ControlPlane.Stream.Metadata

namespace Stream

open Js

/-! ### Values that are alike are one operation -/

section congruence

variable {same : List Key → Prop} {v w : Unknown} {α β : Type}

/-- Two values of one shape, both read: what follows may use that they are alike. -/
theorem guard_bind_congr (h : Alike same v w) {k l : Unknown → Op α}
    (hk : ∀ a b, Alike same a b → k a = l b) : guard v >>= k = guard w >>= l := by
  cases h with
  | thrown => rfl
  | undefined => exact hk _ _ .undefined
  | null => exact hk _ _ .null
  | bool b => exact hk _ _ (.bool b)
  | num n => exact hk _ _ (.num n)
  | str hlength hsame => exact hk _ _ (.str hlength hsame)
  | other => exact hk _ _ .other
  | arr h => exact hk _ _ (.arr h)
  | obj h => exact hk _ _ (.obj h)

/-- A member is read alike and used alike. -/
theorem member_bind_congr (h : Alike same v w) (name : String) {k l : Unknown → Op α}
    (hk : ∀ a b, Alike (under same (.name name)) a b → k a = l b) :
    member v name >>= k = member w name >>= l :=
  guard_bind_congr (h.own name) hk

/-- An operation that is the same, with the same to follow. -/
theorem bind_congr_op {x y : Op α} (hx : x = y) {k l : α → Op β} (hk : ∀ a, k a = l a) :
    x >>= k = y >>= l := by
  rw [hx, show k = l from funext hk]

theorem then_congr (x : Op β) {y z : Op α} (h : y = z) :
    (x >>= fun _ => y) = x >>= fun _ => z := by
  rw [h]

/-! ### What is taken of a value -/

theorem number_eq (h : Alike same v w) : number v = number w := by
  cases h <;> rfl

theorem chars_eq (h : Alike same v w) : chars v = chars w := by
  cases h
  case str hlength _ => exact hlength
  all_goals rfl

theorem isTrue_eq (h : Alike same v w) : v.isTrue = w.isTrue := by
  cases h <;> rfl

theorem lengthOf_eq (h : Alike same v w) : lengthOf v = lengthOf w :=
  Fin.ext h.length_entries_eq

/-- An identifier is the same where texts may not differ. -/
theorem identifier_eq (h : Alike same v w) (hsame : same []) : identifier v = identifier w := by
  rw [identifier, identifier, h.asString_eq hsame]

/-- So is a reason. -/
theorem reason_eq (h : Alike same v w) (hsame : same []) : reason v = reason w := by
  rw [reason, reason, h.present_eq, h.asString_eq hsame]

theorem ifPresent_congr (h : Alike same v w) {x y : Op Unit} (hxy : x = y) :
    ifPresent v x = ifPresent w y := by
  rw [ifPresent, ifPresent, h.present_eq, hxy]

/-- So is a usage, wherever it stands. -/
theorem usage_eq (h : Alike same v w) : usage v = usage w := by
  apply member_bind_congr h
  intro input input' hinput
  apply member_bind_congr h
  intro output output' houtput
  apply member_bind_congr h
  intro total total' htotal
  apply member_bind_congr h
  intro details details' hdetails
  apply member_bind_congr hdetails
  intro reasoning reasoning' hreasoning
  rw [number_eq hinput, number_eq houtput, number_eq htotal, number_eq hreasoning]

/-- The reasoning is as long in both. -/
theorem reasoningChars_eq (h : Alike same v w) : reasoningChars v = reasoningChars w := by
  apply member_bind_congr h
  intro content content' hcontent
  apply member_bind_congr h
  intro reasoning reasoning' hreasoning
  apply member_bind_congr h
  intro text text' htext
  rw [chars_eq hcontent, chars_eq hreasoning, chars_eq htext]

/-- The arguments are as long in both. -/
theorem addArguments_eq (key : Counter) {tools tools' : List Unknown}
    (h : List.Forall₂ (fun a b => ∃ i, Alike (under same (.index i)) a b) tools tools') :
    addArguments key tools = addArguments key tools' := by
  induction h with
  | nil => rfl
  | cons hhead _ ih =>
      obtain ⟨i, hhead⟩ := hhead
      apply guard_bind_congr hhead
      intro tool tool' htool
      apply member_bind_congr htool
      intro function function' hfunction
      apply member_bind_congr hfunction
      intro arguments arguments' harguments
      rw [chars_eq harguments, ih]

/-- The blocks of one type are as many in both. -/
theorem ofType_bind_congr (type : String) {content content' : List Unknown}
    (h : List.Forall₂ (fun a b => ∃ i, Alike (under same (.index i)) a b) content content')
    (htype : ∀ i, same [.index i, .name "type"])
    {k : { kept : List Unknown // kept.length ≤ content.length } → Op α}
    {l : { kept : List Unknown // kept.length ≤ content'.length } → Op α}
    (hk : ∀ kept kept', kept.val.length = kept'.val.length → k kept = l kept') :
    ofType type content >>= k = ofType type content' >>= l := by
  induction h with
  | nil =>
      show k ⟨[], _⟩ = l ⟨[], _⟩
      exact hk _ _ rfl
  | @cons item item' content content' hhead _ ih =>
      obtain ⟨i, hhead⟩ := hhead
      rw [ofType, ofType, bind_assoc, bind_assoc]
      apply guard_bind_congr hhead
      intro block block' hblock
      rw [bind_assoc, bind_assoc]
      apply member_bind_congr hblock
      intro found found' hfound
      rw [bind_assoc, bind_assoc, hfound.asString_eq (htype i)]
      apply ih
      intro kept kept' hkept
      by_cases hsame : found'.asString = some type
      · rw [if_pos hsame, if_pos hsame, pure_bind, pure_bind]
        exact hk _ _ (congrArg (· + 1) hkept)
      · rw [if_neg hsame, if_neg hsame, pure_bind, pure_bind]
        exact hk _ _ hkept

/-- The blocks of a type are as many in both. -/
theorem countType_eq (h : Alike same v w) (htype : ∀ i, same [.index i, .name "type"])
    (type : String) : countType v type = countType w type := by
  apply ofType_bind_congr type h.entries htype
  intro kept kept' hkept
  show (pure (⟨kept.val.length, _⟩ : Length) : Op Length) = pure ⟨kept'.val.length, _⟩
  exact congrArg pure (Fin.ext hkept)

/-- The places of an output whose texts are looked at. -/
def outputPlaces : List Key → Prop
  | [.name "stopReason"] => True
  | [.name "content", .index _, .name "type"] => True
  | _ => False

/-- Outputs alike have the same blocks. -/
theorem blocks_eq (h : Alike outputPlaces v w) : blocks v = blocks w := by
  apply member_bind_congr h
  intro content content' hcontent
  have htype : ∀ i, under outputPlaces (.name "content") [.index i, .name "type"] :=
    fun _ => trivial
  rw [countType_eq hcontent htype, countType_eq hcontent htype, countType_eq hcontent htype]
  apply bind_congr_op rfl
  intro text
  apply bind_congr_op rfl
  intro thinking
  apply bind_congr_op rfl
  intro toolCall
  apply member_bind_congr h
  intro stopReason stopReason' hstopReason
  rw [reason_eq hstopReason trivial]

/-! ### Calls that are alike -/

/-- The places of a request whose texts are looked at. -/
def requestPlaces : List Key → Prop
  | [.name "model"] => True
  | _ => False

/-- Requests alike ask for the same. -/
theorem request_eq (h : Alike requestPlaces v w) : request v = request w := by
  apply member_bind_congr h
  intro model model' hmodel
  apply member_bind_congr h
  intro maxTokens maxTokens' hmaxTokens
  apply member_bind_congr h
  intro maxCompletionTokens maxCompletionTokens' hmaxCompletionTokens
  apply member_bind_congr h
  intro options options' hoptions
  apply member_bind_congr hoptions
  intro includeUsage includeUsage' hincludeUsage
  apply member_bind_congr h
  intro messages messages' hmessages
  apply member_bind_congr h
  intro tools tools' htools
  rw [identifier_eq hmodel trivial, number_eq hmaxTokens, number_eq hmaxCompletionTokens,
    isTrue_eq hincludeUsage, lengthOf_eq hmessages, lengthOf_eq htools]

/-- The places of a choice whose texts are looked at. -/
def choicePlaces : List Key → Prop
  | [.name "finish_reason"] => True
  | _ => False

/-- The places of a chunk whose texts are looked at. -/
def chunkPlaces : List Key → Prop
  | [.name "id"] => True
  | [.name "model"] => True
  | .name "choices" :: .index _ :: rest => choicePlaces rest
  | _ => False

/-- Choices alike add the same. -/
theorem firstChoice_eq (h : Alike choicePlaces v w) : firstChoice v = firstChoice w := by
  apply member_bind_congr h
  intro finishReason finishReason' hfinishReason
  apply bind_congr_op
  · apply ifPresent_congr hfinishReason
    rw [reason_eq hfinishReason trivial]
  intro _
  apply member_bind_congr h
  intro choiceUsage choiceUsage' hchoiceUsage
  apply bind_congr_op
  · apply ifPresent_congr hchoiceUsage
    rw [usage_eq hchoiceUsage]
  intro _
  apply member_bind_congr h
  intro delta delta' hdelta
  apply member_bind_congr h
  intro message message' hmessage
  apply member_bind_congr hdelta
  intro deltaContent deltaContent' hdeltaContent
  rw [chars_eq hdeltaContent, lengthOf_eq hdeltaContent]
  apply then_congr
  apply then_congr
  apply member_bind_congr hmessage
  intro messageContent messageContent' hmessageContent
  rw [chars_eq hmessageContent, lengthOf_eq hmessageContent, reasoningChars_eq hdelta,
    reasoningChars_eq hmessage]
  apply then_congr
  apply bind_congr_op rfl
  intro deltaReasoning
  apply then_congr
  apply member_bind_congr hdelta
  intro refusal refusal' hrefusal
  rw [chars_eq hrefusal]
  apply then_congr
  apply member_bind_congr hdelta
  intro details details' hdetails
  rw [lengthOf_eq hdetails]
  apply then_congr
  apply member_bind_congr hdelta
  intro toolEntries toolEntries' htoolEntries
  rw [lengthOf_eq htoolEntries, addArguments_eq .deltaToolArgumentChars htoolEntries.entries]
  apply then_congr
  apply then_congr
  apply then_congr
  apply member_bind_congr hmessage
  intro messageTools messageTools' hmessageTools
  rw [lengthOf_eq hmessageTools, addArguments_eq .messageToolArgumentChars hmessageTools.entries]
  apply then_congr
  apply bind_congr_op rfl
  intro messageReasoning
  apply then_congr
  apply member_bind_congr hmessage
  intro refusal refusal' hrefusal
  rw [chars_eq hrefusal]

theorem assignIfNull_congr {γ : Type} (get : Summary → Option γ)
    (set : Option γ → Summary → Summary) {x y : Op (Option γ)} (h : x = y) :
    assignIfNull get set x = assignIfNull get set y := by
  rw [h]

/-- So do chunks alike. -/
theorem chunk_eq (h : Alike chunkPlaces v w) : chunk v = chunk w := by
  apply then_congr
  apply bind_congr_op
  · apply assignIfNull_congr
    apply member_bind_congr h
    intro id id' hid
    rw [identifier_eq hid trivial]
  intro _
  apply bind_congr_op
  · apply assignIfNull_congr
    apply member_bind_congr h
    intro model model' hmodel
    rw [identifier_eq hmodel trivial]
  intro _
  apply member_bind_congr h
  intro chunkUsage chunkUsage' hchunkUsage
  apply bind_congr_op
  · apply ifPresent_congr hchunkUsage
    rw [usage_eq hchunkUsage]
  intro _
  apply member_bind_congr h
  intro choices choices' hchoices
  have hentries := hchoices.entries
  cases hfirst : choices.entries with
  | nil =>
      rw [hfirst] at hentries
      rw [List.forall₂_nil_left_iff.mp hentries]
  | cons first rest =>
      rw [hfirst] at hentries
      obtain ⟨first', rest', -, -, hfirst'⟩ := List.forall₂_cons_left_iff.mp hentries
      rw [hfirst']
      apply then_congr
      apply guard_bind_congr (hchoices.head hfirst hfirst')
      intro choice choice' hchoice
      exact firstChoice_eq hchoice

end congruence

/-- Two calls that differ in texts of equal lengths only: the request agrees in the model's
name, a chunk in its id, its model's name and the finish reasons, an output in the types of
its blocks and the stop reason. -/
inductive Call.Alike : Call → Call → Prop
  | context {v w : Unknown} (h : Js.Alike (fun _ => False) v w) :
      Call.Alike (.context v) (.context w)
  | request {v w : Unknown} (h : Js.Alike requestPlaces v w) :
      Call.Alike (.request v) (.request w)
  | chunk {v w : Unknown} (h : Js.Alike chunkPlaces v w) : Call.Alike (.chunk v) (.chunk w)
  | beforeNormalization {v w : Unknown} (h : Js.Alike outputPlaces v w) :
      Call.Alike (.beforeNormalization v) (.beforeNormalization w)
  | finish {v w : Unknown} (h : Js.Alike outputPlaces v w) :
      Call.Alike (.finish v) (.finish w)

/-- **Alike calls are one step**, from every state of the collector. -/
theorem Call.Alike.step_eq {call call' : Call} (h : call.Alike call') (c : Collector) :
    step c call = step c call' := by
  cases h with
  | context h =>
      show observe (Stream.context _) c = observe (Stream.context _) c
      cases h <;> rfl
  | request h =>
      show observe (Stream.request _) c = observe (Stream.request _) c
      rw [request_eq h]
  | chunk h =>
      show observe (Stream.chunk _) c = observe (Stream.chunk _) c
      rw [chunk_eq h]
  | beforeNormalization h =>
      show observe (Stream.beforeNormalization _) c = observe (Stream.beforeNormalization _) c
      rw [Stream.beforeNormalization, Stream.beforeNormalization, blocks_eq h]
  | finish h =>
      rw [step, step, Stream.finish, Stream.finish, blocks_eq h]

/-- **Alike sequences of calls are one run.** -/
theorem foldl_step_eq {calls calls' : List Call} (h : List.Forall₂ Call.Alike calls calls')
    (c : Collector) : calls.foldl step c = calls'.foldl step c := by
  induction h generalizing c with
  | nil => rfl
  | cons hcall _ ih =>
      rw [List.foldl_cons, List.foldl_cons, hcall.step_eq]
      exact ih _

/-! ### The size of a line -/

theorem fits_nullable {α : Type} {f : α → Json} {n : ℕ} (hn : 4 ≤ n) (hf : ∀ a, Fits (f a) n)
    (o : Option α) : Fits (nullable f o) n := by
  cases o with
  | none => exact fits_null.mono hn
  | some a => exact hf a

theorem fits_safe (k : SafeNat) : Fits (count k) 16 :=
  fits_ofNat (by decide) (Nat.lt_trans k.isLt (by decide))

theorem fits_length (k : Length) : Fits (count k) 10 :=
  fits_ofNat (by decide) (Nat.lt_trans k.isLt (by decide))

/-- An identifier is short. -/
theorem fits_identifier (s : Identifier) : Fits s.toJson 162 := by
  obtain ⟨s, hs⟩ := s
  have hchar : ∀ c, identifierChar c = true → isPlain c = true := by
    intro c hc
    rw [identifierChar, Bool.or_eq_true, List.contains_iff_mem] at hc
    rcases hc with hc | hc
    · exact isPlain_of_isAlphanum hc
    · exact List.all_eq_true.mp (by decide : "-._:/".toList.all isPlain = true) c hc
  rw [isIdentifier] at hs
  split at hs
  · cases hs
  · next c rest htext =>
      simp only [Bool.and_eq_true, decide_eq_true_eq] at hs
      obtain ⟨⟨hfirst, hrest⟩, hlength⟩ := hs
      apply fits_str
      · rw [htext, List.all_cons, isPlain_of_isAlphanum hfirst, Bool.true_and, List.all_eq_true]
        exact fun d hd => hchar d (List.all_eq_true.mp hrest d hd)
      · rw [htext]
        exact Nat.succ_le_succ hlength

theorem fits_startedAt (t : IsoTime) : Fits (.str t.text) 29 := by
  apply fits_str _ t.short
  rw [List.all_eq_true]
  intro c hc
  have hwf := List.all_eq_true.mp t.wf c hc
  rw [Bool.or_eq_true, List.contains_iff_mem] at hwf
  rcases hwf with hdigit | hmem
  · exact isPlain_of_isAlphanum (by rw [Char.isAlphanum, hdigit, Bool.or_true])
  · exact List.all_eq_true.mp (by decide : "-:.TZ+".toList.all isPlain = true) c hmem

theorem fits_reason (r : Reason) : Fits r.toJson 16 := by
  cases r <;> exact fits_str (by decide) (by decide)

/-- So is a usage. -/
theorem fits_usage (u : Usage) : Fits u.toJson 107 := by
  have h := fits_nullable (by decide) fits_safe
  apply Fits.mono
  · apply Sized.fits
    apply Sized.cons (by decide) (h u.input)
    apply Sized.cons (by decide) (h u.output)
    apply Sized.cons (by decide) (h u.total)
    apply Sized.cons (by decide) (h u.reasoning)
    exact .nil
  · decide

/-- So are the blocks. -/
theorem fits_blocks (b : Blocks) : Fits b.toJson 94 := by
  apply Fits.mono
  · apply Sized.fits
    apply Sized.cons (by decide) (fits_length b.text)
    apply Sized.cons (by decide) (fits_length b.thinking)
    apply Sized.cons (by decide) (fits_length b.toolCall)
    apply Sized.cons (by decide) (fits_nullable (by decide) fits_reason b.stopReason)
    exact .nil
  · decide

/-- So is a request. -/
theorem fits_request (r : Request) : Fits r.toJson 311 := by
  have h := fits_nullable (by decide) fits_safe
  apply Fits.mono
  · apply Sized.fits
    apply Sized.cons (by decide) (fits_nullable (by decide) fits_identifier r.model)
    apply Sized.cons (by decide) (h r.maxTokens)
    apply Sized.cons (by decide) (h r.maxCompletionTokens)
    apply Sized.cons (by decide) (fits_bool r.includeUsage)
    apply Sized.cons (by decide) (fits_length r.messageCount)
    apply Sized.cons (by decide) (fits_length r.toolCount)
    exact .nil
  · decide

/-- **A summary fits in 4095 code units**, whatever was counted. -/
theorem fits_summary (s : Summary) : Fits s.toJson 4095 := by
  have hid := fits_nullable (by decide) fits_identifier
  have husage := fits_nullable (by decide) fits_usage
  have hblocks := fits_nullable (by decide) fits_blocks
  apply Fits.mono
  · apply Sized.fits
    apply Sized.cons (by decide) (fits_str (by decide) (Nat.le_refl _))
    apply Sized.cons (by decide) (fits_ofNat (Nat.le_refl 4) (by decide))
    apply Sized.cons (by decide) (fits_nullable (by decide) fits_bool s.emitReasoning)
    apply Sized.cons (by decide) (fits_startedAt s.startedAt)
    apply Sized.cons (by decide) (hid s.requestedModel)
    apply Sized.cons (by decide) (hid s.responseId)
    apply Sized.cons (by decide) (hid s.responseModel)
    apply Sized.cons (by decide) (fits_nullable (by decide) fits_request s.request)
    apply Sized.cons (by decide) (fits_safe _)
    apply Sized.cons (by decide) (fits_safe _)
    apply Sized.cons (by decide) (fits_nullable (by decide) fits_reason s.finishReason)
    apply Sized.cons (by decide) (fits_bool s.chunkUsageSeen)
    apply Sized.cons (by decide) (fits_bool s.choiceUsageSeen)
    apply Sized.cons (by decide) (husage s.chunkUsage)
    apply Sized.cons (by decide) (husage s.choiceUsage)
    -- the counters that follow the usages
    iterate 13 apply Sized.cons (by decide) (fits_safe _)
    apply Sized.cons (by decide) (hblocks s.beforeNormalization)
    apply Sized.cons (by decide) (hblocks s.final)
    exact .nil
  · decide

/-- What `finish` hands to `write` is the text of a summary. -/
theorem finish_line {output : Unknown} {s : Summary} {line : String}
    (h : line ∈ ((finish output).run.run s).1.toOption.toList) :
    ∃ s : Summary, line = s.toJson.stringify := by
  rw [finish, ExceptT.run_bind, StateT.run_bind] at h
  generalize (blocks output).run.run s = read at h
  obtain ⟨result, t⟩ := read
  cases result with
  | error e => cases h
  | ok seen =>
      obtain rfl := List.mem_singleton.mp h
      exact ⟨{ t with final := some seen }, rfl⟩

/-- What is written over a run, of every line it holds already. -/
theorem written_foldl (calls : List Call) (c : Collector) {line : String}
    (h : line ∈ (calls.foldl step c).written) :
    line ∈ c.written ∨ ∃ s : Summary, line = s.toJson.stringify := by
  induction calls generalizing c with
  | nil => exact .inl h
  | cons call calls ih =>
      rcases ih _ h with hstep | hline
      · cases call with
        | finish output =>
            rw [step] at hstep
            split at hstep
            · exact .inl hstep
            · exact (List.mem_append.mp hstep).imp_right finish_line
        | context | request | chunk | beforeNormalization => exact .inl hstep
      · exact .inr hline

/-- **Every line is short.** -/
theorem length_line_lt (requestedModel : Unknown) (now : IsoTime) (calls : List Call)
    {line : String} (h : line ∈ lines requestedModel now calls) : length line < 4096 := by
  rcases written_foldl calls _ h with hnone | ⟨s, rfl⟩
  · cases hnone
  · exact Nat.lt_succ_of_le (fits_summary s)

/-! ### Nothing but metadata is written -/

/-- **Stream diagnostics reveal no payload content.**  Two sequences of calls that differ in
texts of equal lengths only make an enabled collector write the same; and whatever the calls
are, a line has fewer than 4096 code units. -/
theorem lines_reveal_no_content :
    (∀ (requestedModel : Unknown) (now : IsoTime) (calls calls' : List Call),
      List.Forall₂ Call.Alike calls calls' →
        lines requestedModel now calls = lines requestedModel now calls') ∧
    (∀ (requestedModel : Unknown) (now : IsoTime) (calls : List Call),
      ∀ line ∈ lines requestedModel now calls, length line < 4096) := by
  refine ⟨?_, fun requestedModel now calls line => length_line_lt requestedModel now calls⟩
  intro requestedModel now calls calls' h
  show (calls.foldl step _).written = (calls'.foldl step _).written
  rw [foldl_step_eq h]

/-- A chunk of one choice, with a text. -/
def textChunk (text : String) : Unknown :=
  .obj fun name =>
    if name = "choices" then .arr 1 fun _ => .obj fun name =>
      if name = "delta" then .obj fun name =>
        if name = "content" then .str text else .undefined
      else .undefined
    else .undefined

/-- Two texts of one length make chunks alike. -/
theorem textChunk_alike {s t : String} (h : length s = length t) :
    Alike chunkPlaces (textChunk s) (textChunk t) := by
  apply Alike.obj
  intro name
  by_cases hchoices : name = "choices"
  · rw [if_pos hchoices, if_pos hchoices, hchoices]
    apply Alike.arr
    intro i
    apply Alike.obj
    intro name
    by_cases hdelta : name = "delta"
    · rw [if_pos hdelta, if_pos hdelta, hdelta]
      apply Alike.obj
      intro name
      by_cases hcontent : name = "content"
      · rw [if_pos hcontent, if_pos hcontent]
        exact .str h False.elim
      · rw [if_neg hcontent, if_neg hcontent]
        exact .undefined
    · rw [if_neg hdelta, if_neg hdelta]
      exact .undefined
  · rw [if_neg hchoices, if_neg hchoices]
    exact .undefined

/-- A time as it is written into a record. -/
def sampleTime : IsoTime := ⟨"2026-01-01T00:00:00.000Z", by decide, by decide⟩

/-- One line is written of a text, and the same of another text as long. -/
theorem texts_reveal_no_content :
    (lines (.str "gpt") sampleTime [.chunk (textChunk "attack"), .finish .null]).length = 1 ∧
      lines (.str "gpt") sampleTime [.chunk (textChunk "attack"), .finish .null] =
        lines (.str "gpt") sampleTime [.chunk (textChunk "defend"), .finish .null] :=
  ⟨rfl, lines_reveal_no_content.1 (.str "gpt") sampleTime _ _
    (.cons (.chunk (textChunk_alike (by decide))) (.cons (.finish .null) .nil))⟩

end Stream
