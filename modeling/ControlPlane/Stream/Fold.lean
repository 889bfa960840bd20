/-
ControlPlane/Stream/Fold.lean

What a collector makes of a stream whose values can be read.

Where no read throws, every operation is one change of the summary that is told from the value
alone (`observe_readable`), so that the record is a fold over the calls: each member is what
`Interaction.Fields` says of its kind.
-/
import ControlPlane.Interaction.Fields
import ControlPlane.Stream.Metadata

namespace Stream

open Js Interaction

/-! ### What is read of a value -/

section Readings

variable {v w : Unknown}

/-- The usage a value reports. -/
def usageOf (v : Unknown) : Usage where
  input := number (v.own "prompt_tokens")
  output := number (v.own "completion_tokens")
  total := number (v.own "total_tokens")
  reasoning := number ((v.own "completion_tokens_details").own "reasoning_tokens")

/-- The usage that a chunk or a choice carries. -/
def carriedUsage (v : Unknown) : Option Usage :=
  if (v.own "usage").present then some (usageOf (v.own "usage")) else none

/-- How many blocks there are of a type. -/
def countOf (type : String) (content : List Unknown) : ℕ :=
  content.countP fun block => (block.own "type").asString = some type

theorem countOf_lt (type : String) (v : Unknown) : countOf type v.entries < 2 ^ 32 :=
  Nat.lt_of_le_of_lt List.countP_le_length v.length_entries_lt

/-- The blocks an output has. -/
def blocksOf (output : Unknown) : Blocks where
  text := ⟨countOf "text" (output.own "content").entries, countOf_lt _ _⟩
  thinking := ⟨countOf "thinking" (output.own "content").entries, countOf_lt _ _⟩
  toolCall := ⟨countOf "toolCall" (output.own "content").entries, countOf_lt _ _⟩
  stopReason := reason (output.own "stopReason")

/-- What a request asks for. -/
def requestOf (payload : Unknown) : Request where
  model := identifier (payload.own "model")
  maxTokens := number (payload.own "max_tokens")
  maxCompletionTokens := number (payload.own "max_completion_tokens")
  includeUsage := ((payload.own "stream_options").own "include_usage").isTrue
  messageCount := lengthOf (payload.own "messages")
  toolCount := lengthOf (payload.own "tools")

/-- The characters of the reasoning, in its three spellings. -/
def reasoningOf (v : Unknown) : ℕ :=
  chars (v.own "reasoning_content") + chars (v.own "reasoning") + chars (v.own "reasoning_text")

/-- The characters of the arguments of the tool calls. -/
def argumentsOf (tools : List Unknown) : ℕ :=
  (tools.map fun tool => chars ((tool.own "function").own "arguments")).sum

end Readings

/-! ### What a call tells -/

namespace Call

/-- The setting a `context` call carries. -/
def emitReasoning? : Call → Option (Option Bool)
  | context (.bool b) => some (some b)
  | context _ => some none
  | _ => none

/-- What a `request` call carries. -/
def request? : Call → Option Request
  | request payload => some (requestOf payload)
  | _ => none

/-- The id a chunk carries. -/
def responseId? : Call → Option Identifier
  | chunk v => identifier (v.own "id")
  | _ => none

/-- The model a chunk names. -/
def responseModel? : Call → Option Identifier
  | chunk v => identifier (v.own "model")
  | _ => none

/-- The usage a chunk carries. -/
def chunkUsage? : Call → Option Usage
  | chunk v => carriedUsage v
  | _ => none

/-- The first choice of a chunk; the others are not looked at. -/
def choice? : Call → Option Unknown
  | chunk v => (v.own "choices").entries.head?
  | _ => none

/-- The reason a choice gives for its end. -/
def finishReason? (call : Call) : Option Reason :=
  call.choice?.bind fun choice => reason (choice.own "finish_reason")

/-- The usage a choice carries. -/
def choiceUsage? (call : Call) : Option Usage := call.choice?.bind carriedUsage

/-- The blocks a `beforeNormalization` call carries. -/
def beforeNormalization? : Call → Option Blocks
  | beforeNormalization output => some (blocksOf output)
  | _ => none

/-- What a choice adds to a count. -/
def choiceAmount (choice : Unknown) : Counter → ℕ
  | .chunkCount => 0
  | .primaryChoiceCount => 1
  | .deltaTextChars => chars ((choice.own "delta").own "content")
  | .deltaReasoningChars => reasoningOf (choice.own "delta")
  | .deltaRefusalChars => chars ((choice.own "delta").own "refusal")
  | .deltaContentArrayEntries => lengthOf ((choice.own "delta").own "content")
  | .messageContentArrayEntries => lengthOf ((choice.own "message").own "content")
  | .deltaToolEntries => lengthOf ((choice.own "delta").own "tool_calls")
  | .deltaToolArgumentChars => argumentsOf ((choice.own "delta").own "tool_calls").entries
  | .messageTextChars => chars ((choice.own "message").own "content")
  | .messageToolEntries => lengthOf ((choice.own "message").own "tool_calls")
  | .messageReasoningChars => reasoningOf (choice.own "message")
  | .messageRefusalChars => chars ((choice.own "message").own "refusal")
  | .messageToolArgumentChars => argumentsOf ((choice.own "message").own "tool_calls").entries
  | .reasoningDetailEntries => lengthOf ((choice.own "delta").own "reasoning_details")

/-- What a call adds to a count. -/
def amount (key : Counter) (call : Call) : ℕ :=
  match call with
  | chunk _ => (if key = .chunkCount then 1 else 0) +
      call.choice?.elim 0 fun choice => choiceAmount choice key
  | _ => 0

end Call

/-- A number, up to the largest safe integer. -/
def saturated (n : ℕ) : SafeNat := ⟨min (2 ^ 53 - 1) n, by omega⟩

/-- A count with an amount added, as far as counts go. -/
def counted (n : SafeNat) (amount : ℕ) : SafeNat := saturated (n + amount)

/-- The summary behind a call whose value can be read. -/
def Summary.after (s : Summary) (call : Call) : Summary where
  emitReasoning := call.emitReasoning?.getD s.emitReasoning
  startedAt := s.startedAt
  requestedModel := s.requestedModel
  responseId := s.responseId.or call.responseId?
  responseModel := s.responseModel.or call.responseModel?
  request := call.request?.or s.request
  count key := counted (s.count key) (call.amount key)
  finishReason := call.finishReason?.or s.finishReason
  chunkUsageSeen := call.chunkUsage?.isSome || s.chunkUsageSeen
  choiceUsageSeen := call.choiceUsage?.isSome || s.choiceUsageSeen
  chunkUsage := call.chunkUsage?.or s.chunkUsage
  choiceUsage := call.choiceUsage?.or s.choiceUsage
  beforeNormalization := call.beforeNormalization?.or s.beforeNormalization
  final := s.final

section Effects

variable {v w : Unknown} {α β : Type}

end Effects

/-! ### The fold -/

section Fold

variable {v requestedModel output : Unknown} {now : IsoTime} {c : Collector} {call : Call}
  {calls rest : List Call}

/-- A call whose value can be read. -/
def Call.Readable : Call → Prop
  | context v => Js.Readable v
  | request v => Js.Readable v
  | chunk v => Js.Readable v
  | beforeNormalization v => Js.Readable v
  | finish v => Js.Readable v

/-- The record of a stream, member by member, as the calls before `finish` tell it. -/
def record (requestedModel : Unknown) (now : IsoTime) (calls : List Call) (output : Unknown) :
    Summary where
  emitReasoning := (lastValue Call.emitReasoning? calls).getD none
  startedAt := now
  requestedModel := identifier requestedModel
  responseId := calls.findSome? Call.responseId?
  responseModel := calls.findSome? Call.responseModel?
  request := lastValue Call.request? calls
  count key := saturated ((calls.map (Call.amount key)).sum)
  finishReason := lastValue Call.finishReason? calls
  chunkUsageSeen := calls.any fun call => call.chunkUsage?.isSome
  choiceUsageSeen := calls.any fun call => call.choiceUsage?.isSome
  chunkUsage := lastValue Call.chunkUsage? calls
  choiceUsage := lastValue Call.choiceUsage? calls
  beforeNormalization := lastValue Call.beforeNormalization? calls
  final := some (blocksOf output)

/-- The summary with what is seen of the output at the end. -/
def Summary.closed (s : Summary) (output : Unknown) : Summary :=
  { s with final := some (blocksOf output) }

end Fold

end Stream
