/-
ControlPlane/Stream/Instrument.lean

The script that puts the stream diagnostics into OpenClaw's transport.

The transport is cut at three unique anchors, four anchors of the factory and three of the
processor are replaced one after another, each only if it occurs once in its part as it
then is, and an import is put in front.  `instrumentOpenAIStreamMetadata_eq_ok_iff` says
what this amounts to: it goes through exactly if each anchor occurs once in its part as it
was read, and then all new texts are put in at once and nothing else changes.

Texts are lists of characters here.  No replacement has a dollar sign in it, so
`String.prototype.replace` puts in each as it is.
-/
import ControlPlane.Js.Value
import ControlPlane.Substitution.Checked

namespace Stream

open Substitution

/-! ### The anchors -/

/-- An anchor and what it is replaced by. -/
def edit (anchor replacement : String) : List Char × List Char :=
  (anchor.toList, replacement.toList)

/-- The hash of the source that is pinned. -/
def SOURCE_SHA256 : String := "cae1fafff86da4e75e4bd14b4fb449adf35263c005375d5f2df0958dfb71562b"

/-- Where the factory begins. -/
def factoryStart : List Char :=
  "export function createOpenAICompletionsTransportStreamFn(): StreamFn \x7b".toList

/-- Where the processor begins. -/
def processorStart : List Char := "async function processOpenAICompletionsStream(".toList

/-- Where the processor ends. -/
def processorEnd : List Char := "type CompletionsReasoningDelta =".toList

/-- What is put into the factory. -/
def factoryEdits : List (List Char × List Char) :=
  [edit "      let firstEventAbort:"
    "      const streamMetadata = createOpenAIStreamMetadata(
        process.env.OPENCLAW_STREAM_METADATA_DIAGNOSTICS === \"1\" && model.provider === \"openrouter\",
        model.id, (line) => console.error(line),
      );
      let firstEventAbort:",
   edit "        firstEventAbort = createFirstStreamEventAbortController(options?.signal);"
    "        streamMetadata?.context(emitReasoning);
        streamMetadata?.request(params);
        firstEventAbort = createFirstStreamEventAbortController(options?.signal);",
   edit "          emitReasoning,"
    "          emitReasoning,
          streamMetadata,",
   edit "        firstEventAbort?.dispose();"
    "        streamMetadata?.finish(output);
        firstEventAbort?.dispose();"]

/-- What is put into the processor. -/
def processorEdits : List (List Char × List Char) :=
  [edit "    emitReasoning?: boolean;"
    "    emitReasoning?: boolean;
    streamMetadata?: ReturnType<typeof createOpenAIStreamMetadata>;",
   edit "  for await (const rawChunk of guardedStream) \x7b"
    "  for await (const rawChunk of guardedStream) \x7b
    options?.streamMetadata?.chunk(rawChunk);",
   edit "  const hasToolCalls = output.content.some"
    "  options?.streamMetadata?.beforeNormalization(output);
  const hasToolCalls = output.content.some"]

/-- What is put before the imports. -/
def importEdit : List Char × List Char :=
  edit "import \x7b randomUUID \x7d from \"node:crypto\";"
    "import \x7b createOpenAIStreamMetadata \x7d from \"./openai-stream-metadata.js\";\nimport \x7b randomUUID \x7d from \"node:crypto\";"

/-! ### The script on a text -/

/-- The error for an anchor that is not there once. -/
def anchorError (anchor : List Char) : String :=
  "Expected exactly one transport anchor: " ++ String.ofList anchor

/-- `source.indexOf(anchor)`. -/
def indexOf (source anchor : List Char) : ℤ :=
  ((source.dropInfix? anchor).map fun p => (p.1.length : ℤ)).getD (-1)

/-- A place given to `slice`, from the end if it is negative. -/
def sliceIndex (length : ℕ) (i : ℤ) : ℕ := if i < 0 then (length + i).toNat else min i.toNat length

/-- `source.slice(start, end)`. -/
def slice (source : List Char) (start stop : ℤ) : List Char :=
  (source.take (sliceIndex source.length stop)).drop (sliceIndex source.length start)

/-- The anchors the parts begin with. -/
def regionAnchors : List (List Char) := [factoryStart, processorStart, processorEnd]

/-- The loop over the anchors. -/
def checkAnchors (source : List Char) : List (List Char) → Except String Unit
  | [] => .ok ()
  | anchor :: anchors =>
    if (split source anchor).length ≠ 2 then .error (anchorError anchor)
    else checkAnchors source anchors

/-- The source with all edits made, each in its part. -/
def instrumentOpenAIStreamMetadata (source : List Char) : Except String (List Char) := do
  checkAnchors source regionAnchors
  let start := indexOf source factoryStart
  let middle := indexOf source processorStart
  let stop := indexOf source processorEnd
  if ¬(start < middle ∧ middle < stop) then throw "Transport anchor order changed"
  let factory ← replaceEach anchorError factoryEdits (slice source start middle)
  let processor ← replaceEach anchorError processorEdits (slice source middle stop)
  let rewritten := slice source 0 start ++ factory ++ processor ++ slice source stop source.length
  replaceOnce anchorError rewritten importEdit

/-- The error for another source than the pinned one. -/
def driftError : String :=
  "OpenAI transport source drift or already patched; re-verify the pinned upstream revision."

/-- The pinned source instrumented, and nothing else. -/
def patchOpenAIStreamMetadata (sha256 : List Char → String) (source : List Char) :
    Except String (List Char) :=
  if sha256 source ≠ SOURCE_SHA256 then .error driftError
  else instrumentOpenAIStreamMetadata source

/-! ### Places in a text -/

section Places

variable {source before anchor factory after : List Char}

/-- An anchor that is there once is found where it is. -/
theorem indexOf_of_unique (hunique : UniqueIn anchor source)
    (h : source = before ++ anchor ++ after) : indexOf source anchor = before.length := by
  obtain ⟨p, q, hplace, honly⟩ := hunique
  have hfirst : source.dropInfix? anchor = some (p, q) := by
    refine dropInfix?_eq_some.mpr ⟨hplace, ?_⟩
    intro p' q' h'
    rw [honly h']
  rw [indexOf, hfirst, honly h]
  rfl

theorem sliceIndex_natCast {length i : ℕ} (h : i ≤ length) : sliceIndex length i = i := by
  rw [sliceIndex, if_neg (by omega), Int.toNat_natCast]
  exact min_eq_left h

variable (before factory after) in
/-- The middle of three parts is sliced out. -/
theorem slice_append :
    slice (before ++ factory ++ after) before.length (before ++ factory).length = factory := by
  have hlength : (before ++ factory).length ≤ (before ++ factory ++ after).length := by simp
  have hstart : before.length ≤ (before ++ factory ++ after).length := by simp
  rw [slice, sliceIndex_natCast hlength, sliceIndex_natCast hstart, List.take_left, List.drop_left]

end Places

/-! ### What the script does -/

/-- The text cut in front of its three anchors. -/
structure Regions (source before factory processor after : List Char) : Prop where
  text : source = before ++ factory ++ processor ++ after
  factory : factoryStart <+: factory
  processor : processorStart <+: processor
  after : processorEnd <+: after

/-- Every anchor is at one place in its part of the text, and is replaced there. -/
def Instrumented (source result : List Char) : Prop :=
  (∀ anchor ∈ regionAnchors, UniqueIn anchor source) ∧ UniqueIn importEdit.1 source ∧
    ∃ before factory processor after factory' processor',
      Regions source before factory processor after ∧
      Substituted factoryEdits factory factory' ∧ Substituted processorEdits processor processor' ∧
      Substituted [importEdit] (before ++ factory' ++ processor' ++ after) result

section Instrument

variable {source result before factory processor after : List Char}

/-- The anchors of the regions, which stay. -/
def regionEdits : List (List Char × List Char) := regionAnchors.map fun anchor => (anchor, anchor)

/-- What the edits need of their texts, to be computed: those of each part are separate, what is
put in has the anchor in it, and the import is at no anchor of the factory or the processor
and in no text put there. -/
def separateTexts : List (List (List Char × List Char)) → Bool
  | [regions, factory, processor, [first]] =>
    separated regions && separated factory && separated processor && separated [first] &&
    (factory ++ processor).all (fun e => !overlaps first.1 e.1 && !overlaps first.1 e.2) &&
    (factory ++ processor ++ [first]).all fun e => e.1.isSublist e.2
  | _ => false

/-- A fact about lists of characters is one about the edits made of them. -/
theorem edits_of_ofList {p : List (List (List Char × List Char)) → Bool}
    {l : List (List (List Char × List Char))} (h : p l = true) :
    p ((l.map (List.map (Prod.map String.ofList String.ofList))).map
      (List.map fun e => edit e.1 e.2)) = true := by
  have hid : (fun e : String × String => edit e.1 e.2) ∘ Prod.map String.ofList String.ofList =
      id := by
    funext e
    simp only [Function.comp, Prod.map, edit, String.toList_ofList, id]
  rwa [List.map_map, List.map_comp_map, hid, List.map_id_fun, List.map_id]

set_option maxRecDepth 8000 in
-- all at once: each such computation waits for the kernel to come to it

/-- No edit puts in what another one looks for. -/
theorem separate_texts :
    separateTexts [regionEdits, factoryEdits, processorEdits, [importEdit]] = true :=
  edits_of_ofList
    (l := [[(_, _), (_, _), (_, _)], [(_, _), (_, _), (_, _), (_, _)], [(_, _), (_, _), (_, _)],
      [(_, _)]])
    (by decide +kernel)

theorem separate_parts : separated regionEdits = true ∧ separated factoryEdits = true ∧
    separated processorEdits = true ∧ separated [importEdit] = true ∧
    (factoryEdits ++ processorEdits).all
      (fun e => !overlaps importEdit.1 e.1 && !overlaps importEdit.1 e.2) = true ∧
    (factoryEdits ++ processorEdits ++ [importEdit]).all (fun e => e.1.isSublist e.2) = true := by
  have h := separate_texts
  simpa only [separateTexts, Bool.and_eq_true, and_assoc] using h

theorem separated_regions : Separated regionEdits := separated_iff separate_parts.1

theorem separated_factory : Separated factoryEdits := separated_iff separate_parts.2.1

theorem separated_processor : Separated processorEdits := separated_iff separate_parts.2.2.1

theorem separated_import : Separated [importEdit] := separated_iff separate_parts.2.2.2.1

/-- The import is at no anchor of the factory or the processor and in no text put there. -/
theorem clear_import : ∀ e ∈ factoryEdits ++ processorEdits,
    Clear importEdit.1 e.1 ∧ Clear importEdit.1 e.2 := by
  have happart := separate_parts.2.2.2.2.1
  simp only [List.all_eq_true, Bool.and_eq_true, Bool.not_eq_true'] at happart
  intro e he
  exact ⟨clear_of_overlaps (happart e he).1, clear_of_overlaps (happart e he).2⟩

/-- The anchors that cut the text, in order. -/
theorem clear_regions : Clear factoryStart processorStart ∧ Clear processorStart processorEnd := by
  have hclear : [(factoryStart, factoryStart), (processorStart, processorStart),
      (processorEnd, processorEnd)].Pairwise fun e e' => Clear e.1 e'.1 := separated_regions.clear
  obtain ⟨hfirst, hrest⟩ := List.pairwise_cons.mp hclear
  exact ⟨hfirst _ (.head _), (List.pairwise_cons.mp hrest).1 _ (.head _)⟩

theorem factoryStart_mem : factoryStart ∈ regionAnchors := .head _

theorem processorStart_mem : processorStart ∈ regionAnchors := .tail _ (.head _)

theorem processorEnd_mem : processorEnd ∈ regionAnchors := .tail _ (.tail _ (.head _))

theorem mem_regionEdits {anchor : List Char} (h : anchor ∈ regionAnchors) :
    (anchor, anchor) ∈ regionEdits :=
  List.mem_map_of_mem (f := fun anchor => (anchor, anchor)) h

/-- The anchors pass when each is there once. -/
theorem checkAnchors_eq_ok_iff {anchors : List (List Char)} :
    checkAnchors source anchors = .ok () ↔
      ∀ anchor ∈ anchors, (split source anchor).length = 2 := by
  induction anchors with
  | nil => simp [checkAnchors]
  | cons anchor anchors ih =>
      rw [checkAnchors, List.forall_mem_cons, ← ih]
      by_cases h : (split source anchor).length = 2
      · simp [h]
      · simp [h]

/-- The script's first check. -/
theorem checkAnchors_unique : checkAnchors source regionAnchors = .ok () ↔
    ∀ anchor ∈ regionAnchors, UniqueIn anchor source := by
  rw [checkAnchors_eq_ok_iff]
  refine forall₂_congr fun anchor h => ?_
  have hmem := mem_regionEdits h
  rw [← length_split_eq_one_iff (separated_regions.ne_nil _ hmem)
    (separated_regions.onlyHead _ hmem)]
  show (split source anchor).length = 2 ↔ (split source anchor).length - 1 = 1
  omega

/-- Two anchors that occur in this order: what is between their places starts with the
first one. -/
theorem exists_between {a b p q p' q' : List Char} (h : p ++ a ++ q = p' ++ b ++ q')
    (hclear : Clear a b) (hlt : p.length < p'.length) : ∃ d, p' = p ++ d ∧ a <+: d := by
  have hpos : p.length + a.length ≤ p'.length := by
    rcases hclear h with hle | hle
    · exact hle
    · omega
  have hassoc : (p ++ a) ++ q = p' ++ (b ++ q') := by
    rw [h]
    exact List.append_assoc p' b q'
  obtain ⟨d, hp', -⟩ := append_eq_append_of_le hassoc (by simpa using hpos)
  exact ⟨a ++ d, by rw [hp', List.append_assoc], a.prefix_append d⟩

/-- The order of the anchors is what cuts the text into its parts. -/
theorem exists_regions (hunique : ∀ anchor ∈ regionAnchors, UniqueIn anchor source)
    (horder : indexOf source factoryStart < indexOf source processorStart ∧
      indexOf source processorStart < indexOf source processorEnd) :
    ∃ before factory processor after, Regions source before factory processor after := by
  obtain ⟨before, q, hfactory, -⟩ := id (hunique factoryStart factoryStart_mem)
  obtain ⟨p', q', hprocessor, -⟩ := id (hunique processorStart processorStart_mem)
  obtain ⟨p'', q'', hend, -⟩ := id (hunique processorEnd processorEnd_mem)
  rw [indexOf_of_unique (hunique factoryStart factoryStart_mem) hfactory,
    indexOf_of_unique (hunique processorStart processorStart_mem) hprocessor,
    indexOf_of_unique (hunique processorEnd processorEnd_mem) hend] at horder
  obtain ⟨factory, rfl, hprefix⟩ := exists_between (hfactory.symm.trans hprocessor)
    clear_regions.1 (by omega)
  obtain ⟨processor, rfl, hprefix'⟩ := exists_between (hprocessor.symm.trans hend)
    clear_regions.2 (by omega)
  refine ⟨before, factory, processor, processorEnd ++ q'', ?_, hprefix, hprefix',
    List.prefix_append _ _⟩
  rw [hend]
  simp only [List.append_assoc]

/-- Where the parts are cut. -/
theorem Regions.indices (h : Regions source before factory processor after)
    (hunique : ∀ anchor ∈ regionAnchors, UniqueIn anchor source) :
    indexOf source factoryStart = before.length ∧
      indexOf source processorStart = (before ++ factory).length ∧
      indexOf source processorEnd = (before ++ factory ++ processor).length := by
  obtain ⟨f, hf⟩ := h.factory
  obtain ⟨p, hp⟩ := h.processor
  obtain ⟨e, he⟩ := h.after
  have hfactory : source = before ++ factoryStart ++ (f ++ processor ++ after) := by
    rw [h.text, ← hf]
    simp only [List.append_assoc]
  have hprocessor : source = before ++ factory ++ processorStart ++ (p ++ after) := by
    rw [h.text, ← hp]
    simp only [List.append_assoc]
  have hend : source = before ++ factory ++ processor ++ processorEnd ++ e := by
    rw [h.text, ← he]
    simp only [List.append_assoc]
  exact ⟨indexOf_of_unique (hunique factoryStart factoryStart_mem) hfactory,
    indexOf_of_unique (hunique processorStart processorStart_mem) hprocessor,
    indexOf_of_unique (hunique processorEnd processorEnd_mem) hend⟩

/-- The parts are sliced out as they are. -/
theorem Regions.slices (h : Regions source before factory processor after) :
    slice source 0 before.length = before ∧
      slice source before.length (before ++ factory).length = factory ∧
      slice source (before ++ factory).length (before ++ factory ++ processor).length = processor ∧
      slice source (before ++ factory ++ processor).length source.length = after := by
  rw [h.text]
  have hbefore := slice_append [] before (factory ++ processor ++ after)
  have hfactory := slice_append before factory (processor ++ after)
  have hafter := slice_append (before ++ factory ++ processor) after []
  refine ⟨?_, ?_, slice_append _ _ _, ?_⟩
  · simpa only [List.nil_append, List.append_assoc, List.length_nil, Int.ofNat_zero] using hbefore
  · simpa only [List.append_assoc] using hfactory
  · simpa only [List.append_nil] using hafter

/-- The import is at one place of the text as it was exactly if it is at one place of
the text with the other edits made. -/
theorem import_unique :
    UniqueIn importEdit.1 (before ++ Layout.replaceAll factoryEdits factory ++
        Layout.replaceAll processorEdits processor ++ after) ↔
      UniqueIn importEdit.1 (before ++ factory ++ processor ++ after) := by
  have hne : importEdit.1 ≠ [] := separated_import.ne_nil _ (.head _)
  have hprocessor := uniqueIn_replaceAll (c := before ++ Layout.replaceAll factoryEdits factory)
    (s := processor) (d := after) hne fun e he => clear_import e (List.mem_append_right _ he)
  have hfactory := uniqueIn_replaceAll (c := before) (s := factory) (d := processor ++ after) hne
    fun e he => clear_import e (List.mem_append_left _ he)
  rw [← List.append_assoc, ← List.append_assoc] at hfactory
  exact hprocessor.trans hfactory

theorem replaceImport {rewritten : List Char} :
    replaceOnce anchorError rewritten importEdit = .ok result ↔
      Substituted [importEdit] rewritten result := by
  have hone : replaceEach anchorError [importEdit] rewritten =
      replaceOnce anchorError rewritten importEdit := by
    show (replaceOnce anchorError rewritten importEdit >>= Except.ok) = _
    cases replaceOnce anchorError rewritten importEdit with
    | error e => rfl
    | ok a => rfl
  rw [← hone]
  exact replaceEach_eq_ok_iff separated_import

/-- Behind the checks, on the parts. -/
theorem instrument_of_regions (h : Regions source before factory processor after)
    (hunique : ∀ anchor ∈ regionAnchors, UniqueIn anchor source) :
    instrumentOpenAIStreamMetadata source = .ok result ↔
      ∃ factory' processor', replaceEach anchorError factoryEdits factory = .ok factory' ∧
        replaceEach anchorError processorEdits processor = .ok processor' ∧
        replaceOnce anchorError (before ++ factory' ++ processor' ++ after) importEdit =
          .ok result := by
  have hcheck : checkAnchors source regionAnchors = .ok () := checkAnchors_unique.mpr hunique
  obtain ⟨hstart, hmiddle, hstop⟩ := h.indices hunique
  obtain ⟨hbefore, hfactory, hprocessor, hafter⟩ := h.slices
  have horder : (before.length : ℤ) < (before ++ factory).length ∧
      ((before ++ factory).length : ℤ) < (before ++ factory ++ processor).length := by
    have hpos : 0 < factory.length := List.length_pos_iff.mpr (h.factory.ne_nil (by decide))
    have hpos' : 0 < processor.length := List.length_pos_iff.mpr (h.processor.ne_nil (by decide))
    simp only [List.length_append]
    omega
  unfold instrumentOpenAIStreamMetadata
  rw [hcheck, hstart, hmiddle, hstop]
  simp only [hbefore, hfactory, hprocessor, hafter]
  show (if _ then _ else _) = _ ↔ _
  rw [if_neg (not_not.mpr horder)]
  simp only [Js.bind_eq_ok, exists_and_left]

/-- The source is instrumented exactly when every anchor is where it should be. -/
theorem instrumented_iff :
    instrumentOpenAIStreamMetadata source = .ok result ↔ Instrumented source result := by
  constructor
  · intro hok
    have hcheck : checkAnchors source regionAnchors = .ok () := by
      cases hchecked : checkAnchors source regionAnchors with
      | ok _ => rfl
      | error message =>
          unfold instrumentOpenAIStreamMetadata at hok
          rw [hchecked] at hok
          cases hok
    have hunique := checkAnchors_unique.mp hcheck
    have horder : indexOf source factoryStart < indexOf source processorStart ∧
        indexOf source processorStart < indexOf source processorEnd := by
      by_contra hno
      unfold instrumentOpenAIStreamMetadata at hok
      rw [hcheck] at hok
      simp only [hno, not_false_eq_true, if_true] at hok
      cases hok
    obtain ⟨before, factory, processor, after, hregions⟩ := exists_regions hunique horder
    obtain ⟨factory', processor', hfactory, hprocessor, himport⟩ :=
      (instrument_of_regions hregions hunique).mp hok
    have hfactory := (replaceEach_eq_ok_iff separated_factory).mp hfactory
    have hprocessor := (replaceEach_eq_ok_iff separated_processor).mp hprocessor
    have hsubstituted := replaceImport.mp himport
    have himport : UniqueIn importEdit.1 (before ++ factory' ++ processor' ++ after) :=
      hsubstituted.1 importEdit (.head _)
    refine ⟨hunique, ?_, before, factory, processor, after, factory', processor', hregions,
      hfactory, hprocessor, hsubstituted⟩
    rw [(separated_factory.substituted_iff.mp hfactory).2,
      (separated_processor.substituted_iff.mp hprocessor).2, import_unique] at himport
    rw [hregions.text]
    exact himport
  · rintro ⟨hunique, -, before, factory, processor, after, factory', processor', hregions,
      hfactory, hprocessor, himport⟩
    exact (instrument_of_regions hregions hunique).mpr ⟨factory', processor',
      (replaceEach_eq_ok_iff separated_factory).mpr hfactory,
      (replaceEach_eq_ok_iff separated_processor).mpr hprocessor, replaceImport.mpr himport⟩

/-- **What the script accepts and what it makes of it.**  It goes through exactly if each
anchor is at one place in its part of the text and the parts come in order; then all new
texts are put in at once, and nothing is lost. -/
theorem instrumentOpenAIStreamMetadata_eq_ok_iff :
    instrumentOpenAIStreamMetadata source = .ok result ↔ Instrumented source result :=
  instrumented_iff

/-- So is the pinned source, and no other. -/
theorem patchOpenAIStreamMetadata_eq_ok_iff {sha256 : List Char → String} :
    patchOpenAIStreamMetadata sha256 source = .ok result ↔
      sha256 source = SOURCE_SHA256 ∧ Instrumented source result := by
  rw [← instrumented_iff, patchOpenAIStreamMetadata]
  by_cases h : sha256 source = SOURCE_SHA256
  · simp [h]
  · simp [h]

/-- What an edit puts in has the anchor in it. -/
theorem edits_sublist : ∀ e ∈ factoryEdits ++ processorEdits ++ [importEdit], e.1.Sublist e.2 :=
  fun e he => List.isSublist_iff_sublist.mp
    (List.all_eq_true.mp separate_parts.2.2.2.2.2 e he)

/-- Edits that only insert leave the source in its order. -/
theorem Substituted.sublist {edits : List (List Char × List Char)} {s t : List Char}
    (h : Substituted edits s t) (hedits : ∀ e ∈ edits, e.1.Sublist e.2) : s.Sublist t := by
  obtain ⟨-, lay, hsites, rfl, rfl⟩ := h
  exact Layout.text_sublist fun e he => hedits e (hsites.mem_iff.mp he)

/-- Nothing of the transport is lost. -/
theorem Instrumented.sublist (h : Instrumented source result) : source.Sublist result := by
  obtain ⟨-, -, before, factory, processor, after, factory', processor', hregions, hfactory,
    hprocessor, himport⟩ := h
  have hsub := edits_sublist
  simp only [List.forall_mem_append] at hsub
  rw [hregions.text]
  have hparts : (before ++ factory ++ processor ++ after).Sublist
      (before ++ factory' ++ processor' ++ after) :=
    (((List.Sublist.refl before).append (Substituted.sublist hfactory hsub.1.1)).append
      (Substituted.sublist hprocessor hsub.1.2)).append (List.Sublist.refl after)
  exact hparts.trans (Substituted.sublist himport hsub.2)

end Instrument

end Stream
