/-
ControlPlane/Stream/Metadata.lean

The collector of stream diagnostics (`openai-stream-metadata.ts`).

The collector sees the request, the chunks and the output of one stream and writes
one line about them.  Its operations run in `Op`: the state is the summary, and a
read of a library's object may throw.  What an operation changed before a throw
stays changed, and the exception goes no further (`observe`).

Every part of the summary has a type that only its own values fit: an identifier
passed the expression it is tested with, a reason is one of the enumerated, a count
is a safe integer.
-/
import ControlPlane.Js.Unknown
import ControlPlane.Js.Value

namespace Stream

open Js

/-! ### What the summary is made of -/

/-- The integers from zero to `Number.MAX_SAFE_INTEGER`. -/
abbrev SafeNat := Fin (2 ^ 53)

/-- The length of an array. -/
abbrev Length := Fin (2 ^ 32)

/-- The characters of an identifier after the first. -/
def identifierChar (c : Char) : Bool := c.isAlphanum || "-._:/".toList.contains c

/-- The expression an identifier is tested with: a letter or a digit, and at most 159 more
characters. -/
def isIdentifier (s : String) : Bool :=
  match s.toList with
  | [] => false
  | c :: rest => c.isAlphanum && rest.all identifierChar && decide (rest.length ≤ 159)

/-- A text that passed the test. -/
abbrev Identifier := { s : String // isIdentifier s = true }

/-- The reasons a summary can name. -/
inductive Reason where
  | stop
  | length
  | toolCalls
  | functionCall
  | contentFilter
  | toolUse
  | error
  | aborted
  | other

/-- The text of each reason. -/
def Reason.text : Reason → String
  | stop => "stop"
  | length => "length"
  | toolCalls => "tool_calls"
  | functionCall => "function_call"
  | contentFilter => "content_filter"
  | toolUse => "toolUse"
  | error => "error"
  | aborted => "aborted"
  | other => "other"

/-- The reasons that are passed on. -/
def Reason.known : List Reason :=
  [stop, length, toolCalls, functionCall, contentFilter, toolUse, error, aborted]

/-- Tokens in, out and in all. -/
structure Usage where
  input : Option SafeNat
  output : Option SafeNat
  total : Option SafeNat
  reasoning : Option SafeNat

/-- How many blocks of each kind an output has. -/
structure Blocks where
  text : Length
  thinking : Length
  toolCall : Length
  stopReason : Option Reason

/-- What a request asks for. -/
structure Request where
  model : Option Identifier
  maxTokens : Option SafeNat
  maxCompletionTokens : Option SafeNat
  includeUsage : Bool
  messageCount : Length
  toolCount : Length

/-- What `new Date().toISOString()` gives. -/
structure IsoTime where
  text : String
  wf : (text.toList.all fun c => c.isDigit || "-:.TZ+".toList.contains c) = true
  short : text.toList.length ≤ 27

/-- The members of the summary that are counted up. -/
inductive Counter where
  | chunkCount
  | primaryChoiceCount
  | deltaTextChars
  | deltaReasoningChars
  | deltaRefusalChars
  | deltaContentArrayEntries
  | messageContentArrayEntries
  | deltaToolEntries
  | deltaToolArgumentChars
  | messageTextChars
  | messageToolEntries
  | messageReasoningChars
  | messageRefusalChars
  | messageToolArgumentChars
  | reasoningDetailEntries
deriving DecidableEq

/-- What is kept of a stream. -/
structure Summary where
  emitReasoning : Option Bool
  startedAt : IsoTime
  requestedModel : Option Identifier
  responseId : Option Identifier
  responseModel : Option Identifier
  request : Option Request
  count : Counter → SafeNat
  finishReason : Option Reason
  chunkUsageSeen : Bool
  choiceUsageSeen : Bool
  chunkUsage : Option Usage
  choiceUsage : Option Usage
  beforeNormalization : Option Blocks
  final : Option Blocks

/-! ### What is written -/

/-- `null`, or the value. -/
def nullable {α : Type} (f : α → Json) : Option α → Json
  | none => .null
  | some a => f a

/-- A count as a number. -/
def count {n : ℕ} (k : Fin n) : Json := .num (Number.ofNat k)

/-- A usage as it is written. -/
def Usage.toJson (u : Usage) : Json :=
  .obj [("input", nullable count u.input), ("output", nullable count u.output),
    ("total", nullable count u.total), ("reasoning", nullable count u.reasoning)]

/-- A reason as it is written. -/
def Reason.toJson (r : Reason) : Json := .str r.text

/-- The blocks as they are written. -/
def Blocks.toJson (b : Blocks) : Json :=
  .obj [("text", count b.text), ("thinking", count b.thinking), ("toolCall", count b.toolCall),
    ("stopReason", nullable Reason.toJson b.stopReason)]

/-- An identifier as it is written. -/
def Identifier.toJson (s : Identifier) : Json := .str s.val

/-- A request as it is written. -/
def Request.toJson (r : Request) : Json :=
  .obj [("model", nullable Identifier.toJson r.model),
    ("maxTokens", nullable count r.maxTokens),
    ("maxCompletionTokens", nullable count r.maxCompletionTokens),
    ("includeUsage", .bool r.includeUsage), ("messageCount", count r.messageCount),
    ("toolCount", count r.toolCount)]

/-- The summary, its members in the order of the literal. -/
def Summary.toJson (s : Summary) : Json :=
  .obj [("event", .str "openai_stream_metadata"), ("schemaVersion", .num (Number.ofNat 2)),
    ("emitReasoning", nullable Json.bool s.emitReasoning),
    ("startedAt", .str s.startedAt.text),
    ("requestedModel", nullable Identifier.toJson s.requestedModel),
    ("responseId", nullable Identifier.toJson s.responseId),
    ("responseModel", nullable Identifier.toJson s.responseModel),
    ("request", nullable Request.toJson s.request),
    ("chunkCount", Stream.count (s.count .chunkCount)),
    ("primaryChoiceCount", Stream.count (s.count .primaryChoiceCount)),
    ("finishReason", nullable Reason.toJson s.finishReason),
    ("chunkUsageSeen", .bool s.chunkUsageSeen), ("choiceUsageSeen", .bool s.choiceUsageSeen),
    ("chunkUsage", nullable Usage.toJson s.chunkUsage),
    ("choiceUsage", nullable Usage.toJson s.choiceUsage),
    ("deltaTextChars", Stream.count (s.count .deltaTextChars)),
    ("deltaReasoningChars", Stream.count (s.count .deltaReasoningChars)),
    ("deltaRefusalChars", Stream.count (s.count .deltaRefusalChars)),
    ("deltaContentArrayEntries", Stream.count (s.count .deltaContentArrayEntries)),
    ("messageContentArrayEntries", Stream.count (s.count .messageContentArrayEntries)),
    ("deltaToolEntries", Stream.count (s.count .deltaToolEntries)),
    ("deltaToolArgumentChars", Stream.count (s.count .deltaToolArgumentChars)),
    ("messageTextChars", Stream.count (s.count .messageTextChars)),
    ("messageToolEntries", Stream.count (s.count .messageToolEntries)),
    ("messageReasoningChars", Stream.count (s.count .messageReasoningChars)),
    ("messageRefusalChars", Stream.count (s.count .messageRefusalChars)),
    ("messageToolArgumentChars", Stream.count (s.count .messageToolArgumentChars)),
    ("reasoningDetailEntries", Stream.count (s.count .reasoningDetailEntries)),
    ("beforeNormalization", nullable Blocks.toJson s.beforeNormalization),
    ("final", nullable Blocks.toJson s.final)]

/-! ### The operations -/

/-- An operation on the summary; it may end in an exception. -/
abbrev Op := ExceptT Unit (StateM Summary)

/-- Use a value that was read. -/
def guard : Unknown → Op Unknown
  | .thrown => throw ()
  | v => pure v

/-- `fields(value)[name]` -/
def member (v : Unknown) (name : String) : Op Unknown := guard (v.own name)

/-- Change the summary. -/
def update (f : Summary → Summary) : Op Unit := modify f

/-- A value that is a count. -/
def number : Unknown → Option SafeNat
  | .num (.finite q) =>
    if h : q.den = 1 ∧ 0 ≤ q.num ∧ q.num.toNat < 2 ^ 53 then some ⟨q.num.toNat, h.2.2⟩ else none
  | _ => none

/-- The length of a value that is a text. -/
def chars (v : Unknown) : ℕ := v.asString.elim 0 length

/-- A value that may stand as an identifier. -/
def identifier (v : Unknown) : Option Identifier :=
  v.asString.bind fun s => if h : isIdentifier s = true then some ⟨s, h⟩ else none

/-- A value that is one of the known reasons. -/
def reason (v : Unknown) : Option Reason :=
  if v.present then
    match v.asString with
    | some s => some ((Reason.known.find? fun r => r.text == s).getD .other)
    | none => some .other
  else none

/-- The usage a value reports, read member by member. -/
def usage (v : Unknown) : Op Usage := do
  let input ← member v "prompt_tokens"
  let output ← member v "completion_tokens"
  let total ← member v "total_tokens"
  let details ← member v "completion_tokens_details"
  let reasoning ← member details "reasoning_tokens"
  return ⟨number input, number output, number total, number reasoning⟩

/-- `content.filter(block => fields(block).type === type)` -/
def ofType (type : String) :
    (content : List Unknown) → Op { kept : List Unknown // kept.length ≤ content.length }
  | [] => return ⟨[], Nat.le_refl 0⟩
  | item :: content => do
    let block ← guard item
    let found ← member block "type"
    let kept ← ofType type content
    if found.asString = some type then
      return ⟨block :: kept.val, Nat.succ_le_succ kept.property⟩
    else
      return ⟨kept.val, Nat.le_succ_of_le kept.property⟩

/-- The number of the blocks of one type. -/
def countType (v : Unknown) (type : String) : Op Length := do
  let kept ← ofType type v.entries
  return ⟨kept.val.length, Nat.lt_of_le_of_lt kept.property v.length_entries_lt⟩

/-- The length of `entries(value)`. -/
def lengthOf (v : Unknown) : Length := ⟨v.entries.length, v.length_entries_lt⟩

/-- The blocks of an output, counted by kind. -/
def blocks (v : Unknown) : Op Blocks := do
  let content ← member v "content"
  let text ← countType content "text"
  let thinking ← countType content "thinking"
  let toolCall ← countType content "toolCall"
  let stopReason ← member v "stopReason"
  return ⟨text, thinking, toolCall, reason stopReason⟩

/-- `summary[key] = Math.min(Number.MAX_SAFE_INTEGER, summary[key] + amount)` -/
def add (key : Counter) (amount : ℕ) : Op Unit :=
  update fun s => { s with count := fun k =>
    if k = key then ⟨min (2 ^ 53 - 1) (s.count k + amount), by omega⟩ else s.count k }

/-- `if (present(value)) …` -/
def ifPresent (v : Unknown) (op : Op Unit) : Op Unit := if v.present then op else pure ()

/-- `summary.member ??= …` -/
def assignIfNull {α : Type} (get : Summary → Option α) (set : Option α → Summary → Summary)
    (op : Op (Option α)) : Op Unit := do
  match get (← MonadState.get) with
  | some _ => pure ()
  | none => update (set (← op))

/-- The argument characters of the tool calls, one call after another. -/
def addArguments (key : Counter) : List Unknown → Op Unit
  | [] => pure ()
  | tool :: tools => do
    let function ← member (← guard tool) "function"
    add key (chars (← member function "arguments"))
    addArguments key tools

/-- The three spellings of reasoning text. -/
def reasoningChars (v : Unknown) : Op ℕ := do
  let content ← member v "reasoning_content"
  let reasoning ← member v "reasoning"
  let text ← member v "reasoning_text"
  return chars content + chars reasoning + chars text

/-- What the context says about reasoning. -/
def context (emitReasoning : Unknown) : Op Unit :=
  update fun s => { s with emitReasoning :=
    match emitReasoning with
    | .bool b => some b
    | _ => none }

/-- What a request asks for. -/
def request (payload : Unknown) : Op Unit := do
  let model ← member payload "model"
  let maxTokens ← member payload "max_tokens"
  let maxCompletionTokens ← member payload "max_completion_tokens"
  let options ← member payload "stream_options"
  let includeUsage ← member options "include_usage"
  let messages ← member payload "messages"
  let tools ← member payload "tools"
  update fun s => { s with request := some {
    model := identifier model
    maxTokens := number maxTokens
    maxCompletionTokens := number maxCompletionTokens
    includeUsage := includeUsage.isTrue
    messageCount := lengthOf messages
    toolCount := lengthOf tools } }

/-- The part of `chunk` that looks at the first choice. -/
def firstChoice (choice : Unknown) : Op Unit := do
  let finishReason ← member choice "finish_reason"
  ifPresent finishReason (update fun s => { s with finishReason := reason finishReason })
  let choiceUsage ← member choice "usage"
  ifPresent choiceUsage do
    update fun s => { s with choiceUsageSeen := true }
    let reported ← usage choiceUsage
    update fun s => { s with choiceUsage := some reported }
  let delta ← member choice "delta"
  let message ← member choice "message"
  let deltaContent ← member delta "content"
  add .deltaTextChars (chars deltaContent)
  add .deltaContentArrayEntries (lengthOf deltaContent)
  let messageContent ← member message "content"
  add .messageContentArrayEntries (lengthOf messageContent)
  add .deltaReasoningChars (← reasoningChars delta)
  add .deltaRefusalChars (chars (← member delta "refusal"))
  add .reasoningDetailEntries (lengthOf (← member delta "reasoning_details"))
  let toolEntries ← member delta "tool_calls"
  add .deltaToolEntries (lengthOf toolEntries)
  addArguments .deltaToolArgumentChars toolEntries.entries
  add .messageTextChars (chars messageContent)
  let messageTools ← member message "tool_calls"
  add .messageToolEntries (lengthOf messageTools)
  add .messageReasoningChars (← reasoningChars message)
  add .messageRefusalChars (chars (← member message "refusal"))
  addArguments .messageToolArgumentChars messageTools.entries

/-- What a chunk adds. -/
def chunk (v : Unknown) : Op Unit := do
  add .chunkCount 1
  assignIfNull Summary.responseId (fun id s => { s with responseId := id }) do
    return identifier (← member v "id")
  assignIfNull Summary.responseModel (fun model s => { s with responseModel := model }) do
    return identifier (← member v "model")
  let chunkUsage ← member v "usage"
  ifPresent chunkUsage do
    update fun s => { s with chunkUsageSeen := true }
    let reported ← usage chunkUsage
    update fun s => { s with chunkUsage := some reported }
  let choices ← member v "choices"
  match choices.entries with
  | [] => pure ()
  | first :: _ => do
    add .primaryChoiceCount 1
    firstChoice (← guard first)

/-- What the output is before it is normalised. -/
def beforeNormalization (output : Unknown) : Op Unit := do
  let seen ← blocks output
  update fun s => { s with beforeNormalization := some seen }

/-- The line that is handed to `write`. -/
def finish (output : Unknown) : Op String := do
  let seen ← blocks output
  update fun s => { s with final := some seen }
  return (← MonadState.get).toJson.stringify

/-! ### A collector and its calls -/

/-- A collector, with the lines it has written. -/
structure Collector where
  summary : Summary
  finished : Bool
  written : List String

/-- `observe(operation)`: the exception is dropped, the changes are kept. -/
def observe (op : Op Unit) (c : Collector) : Collector :=
  { c with summary := (op.run.run c.summary).2 }

/-- A call of the collector. -/
inductive Call where
  | context (emitReasoning : Unknown)
  | request (payload : Unknown)
  | chunk (value : Unknown)
  | beforeNormalization (output : Unknown)
  | finish (output : Unknown)

/-- The collector after a call. -/
def step (c : Collector) : Call → Collector
  | .context emitReasoning => observe (context emitReasoning) c
  | .request payload => observe (request payload) c
  | .chunk value => observe (chunk value) c
  | .beforeNormalization output => observe (beforeNormalization output) c
  | .finish output =>
    if c.finished then c
    else
      let result := (finish output).run.run c.summary
      { summary := result.2
        finished := true
        -- whether or not `write` throws, the line was handed over
        written := c.written ++ result.1.toOption.toList }

/-- `createOpenAIStreamMetadata`; nothing is written before a call. -/
def createOpenAIStreamMetadata (enabled : Bool) (requestedModel : Unknown) (now : IsoTime) :
    Option Collector :=
  if enabled then some {
    summary := {
      emitReasoning := none
      startedAt := now
      requestedModel := identifier requestedModel
      responseId := none
      responseModel := none
      request := none
      count := fun _ => 0
      finishReason := none
      chunkUsageSeen := false
      choiceUsageSeen := false
      chunkUsage := none
      choiceUsage := none
      beforeNormalization := none
      final := none }
    finished := false
    written := [] }
  else none

/-- The lines an enabled collector writes over a sequence of calls. -/
def lines (requestedModel : Unknown) (now : IsoTime) (calls : List Call) : List String :=
  match createOpenAIStreamMetadata true requestedModel now with
  | some c => (calls.foldl step c).written
  | none => []

end Stream
