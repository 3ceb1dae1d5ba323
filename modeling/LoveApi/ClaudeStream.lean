import LoveApi.ChatStream
import LoveApi.ClaudeUsage
import LoveApi.Program.Emitter

/-!
# A chat stream as Claude events

`StreamResponseOpenAI2Claude` turns the chunks of a chat stream one by one into the events of Claude's protocol.
-/

namespace LoveApi

open Program Go

/-! ### Events -/

inductive ContentBlock
  | text
  | thinking
  | toolUse (id name : String)
deriving DecidableEq, Repr

inductive BlockDelta
  | text (text : String)
  | thinking (thinking : String)
  | inputJson (partialJson : String)
deriving DecidableEq, Repr

inductive ClaudeEvent
  | messageStart (id model : String) (inputTokens : Int)
  | contentBlockStart (index : Int) (block : ContentBlock)
  | contentBlockDelta (index : Int) (delta : BlockDelta)
  | contentBlockStop (index : Int)
  | messageDelta (usage : ClaudeUsage) (stopReason : String)
  | messageStop
deriving DecidableEq, Repr

inductive LastMessageType
  | none
  | text
  | tools
  | thinking
deriving DecidableEq, Repr

/-- `ClaudeConvertInfo`, and what else the conversion reads and writes of the request record. -/
structure ClaudeConvertInfo where
  lastMessagesType : LastMessageType := .none
  index : Int := 0
  usage : Option Usage := .none
  finishReason : String := ""
  done : Bool := false
  toolCallBaseIndex : Int := 0
  toolCallMaxIndexOffset : Int := 0
  sendResponseCount : Nat := 0
  estimatePromptTokens : Int := 0

def normalizeCacheCreationSplit (totalTokens tokens5m tokens1h : Int) : Int × Int :=
  (tokens5m + max (totalTokens - tokens5m - tokens1h) 0, tokens1h)

def buildClaudeUsageFromOpenAIUsage (usage : Usage) : ClaudeUsage :=
  let (cacheCreation5m, cacheCreation1h) := normalizeCacheCreationSplit usage.promptTokensDetails.cachedCreationTokens
    usage.claudeCacheCreation5mTokens usage.claudeCacheCreation1hTokens
  { inputTokens := usage.promptTokens
    outputTokens := usage.completionTokens
    cacheCreationInputTokens := usage.promptTokensDetails.cachedCreationTokens
    cacheReadInputTokens := usage.promptTokensDetails.cachedTokens
    cacheCreation :=
      if cacheCreation5m > 0 ∨ cacheCreation1h > 0 then some ⟨cacheCreation5m, cacheCreation1h⟩ else none }

def stopReasonOpenAI2Claude (finishReason : String) : String :=
  match toLower finishReason with
  | "stop" => "end_turn"
  | "stop_sequence" => "stop_sequence"
  | "length" | "max_tokens" => "max_tokens"
  | "content_filter" => "refusal"
  | "tool_calls" => "tool_use"
  | _ => finishReason

/-! ### The conversion of a chunk -/

abbrev Convert := Emitter ClaudeConvertInfo ClaudeEvent

section Convert

def generateStopBlock (index : Int) : ClaudeEvent := .contentBlockStop index

def stopOpenBlocks (info : ClaudeConvertInfo) : List ClaudeEvent :=
  match info.lastMessagesType with
  | .text | .thinking => [generateStopBlock info.index]
  | .tools => (List.range (info.toolCallMaxIndexOffset + 1).toNat).map fun offset : Nat =>
      generateStopBlock (info.toolCallBaseIndex + offset)
  | .none => []

def advance (info : ClaudeConvertInfo) : ClaudeConvertInfo :=
  match info.lastMessagesType with
  | .none => info
  | .tools =>
    { info with
      index := info.toolCallBaseIndex + info.toolCallMaxIndexOffset + 1
      toolCallBaseIndex := 0
      toolCallMaxIndexOffset := 0
      lastMessagesType := .none }
  | .text | .thinking => { info with index := info.index + 1, lastMessagesType := .none }

def stopOpenBlocksAndAdvance : Convert := fun info => (stopOpenBlocks info, advance info)

/-- Closes the blocks and the message; without usage there is no `message_delta`. -/
def stopMessage (usage : Option Usage) (stopReason : String) : Convert := fun info =>
  (stopOpenBlocks info ++ (usage.map fun usage =>
      ClaudeEvent.messageDelta (buildClaudeUsageFromOpenAIUsage usage) stopReason).toList ++ [.messageStop],
    { info with done := true })

def oaiUsage (chunk : ChatChunk) (info : ClaudeConvertInfo) : Option Usage := chunk.usage <|> info.usage

/-- The first tool call of the first chunk starts block 0; the other ones are not looked at. -/
def firstToolCall (choice : ChatChoice) : Convert :=
  match choice.delta.toolCalls with
  | [] => Emitter.skip
  | toolCall :: _ => fun info =>
    (.contentBlockStart 0 (.toolUse toolCall.id toolCall.function.name) ::
      if toolCall.function.arguments ≠ "" then [.contentBlockDelta 0 (.inputJson toolCall.function.arguments)] else [],
      { info with lastMessagesType := .tools, toolCallBaseIndex := 0, toolCallMaxIndexOffset := 0 })

def firstBlock (type : LastMessageType) (block : ContentBlock) (delta : BlockDelta) : Convert :=
  Emitter.andThen
    (fun info => if info.lastMessagesType ≠ type then stopOpenBlocksAndAdvance info else Emitter.skip info)
    fun info => ([.contentBlockStart info.index block, .contentBlockDelta info.index delta],
      { info with lastMessagesType := type })

def firstContent (choice : ChatChoice) : Convert :=
  let reasoning := choice.delta.getReasoningContent
  let content := choice.delta.getContentString
  if reasoning ≠ "" then firstBlock .thinking .thinking (.thinking reasoning)
  else if content ≠ "" then firstBlock .text .text (.text content)
  else Emitter.skip

def firstFinish (chunk : ChatChunk) (choice : ChatChoice) : Convert := fun info =>
  if choice.finished then
    let info := { info with finishReason := choice.finishReason.getD "" }
    stopMessage (oaiUsage chunk info) (stopReasonOpenAI2Claude info.finishReason) info
  else Emitter.skip info

def firstChunk (chunk : ChatChunk) : Convert :=
  Emitter.andThen (fun info => ([.messageStart chunk.id chunk.model info.estimatePromptTokens], info))
    (match chunk.choices with
    | [] => Emitter.skip
    | choice :: _ => (firstToolCall choice).andThen ((firstContent choice).andThen (firstFinish chunk choice)))

def usageChunk (chunk : ChatChunk) : Convert := fun info =>
  match oaiUsage chunk info with
  | some usage =>
    let stopReason := stopReasonOpenAI2Claude info.finishReason
    stopMessage (some usage) (if stopReason = "" then "end_turn" else stopReason) info
  | none => Emitter.skip info

/-- The offset of the block of a fragment: its index, or its position in the chunk. -/
def fragmentOffset (i : Nat) (toolCall : ToolCallResponse) : Int := toolCall.index.getD i

def fragmentEvents (base : Int) (i : Nat) (toolCall : ToolCallResponse) : List ClaudeEvent :=
  let idx := base + fragmentOffset i toolCall
  (if toolCall.function.name ≠ "" then
      [.contentBlockStart idx (.toolUse toolCall.id toolCall.function.name)] else []) ++
    if toolCall.function.arguments ≠ "" then [.contentBlockDelta idx (.inputJson toolCall.function.arguments)] else []

def openTools : Convert := fun info =>
  if info.lastMessagesType ≠ .tools then
    let info' := advance info
    (stopOpenBlocks info, { info' with toolCallBaseIndex := info'.index, toolCallMaxIndexOffset := 0,
                                       lastMessagesType := .tools })
  else Emitter.skip info

def toolFragment (fragment : ToolCallResponse × Nat) : Convert := fun info =>
  (fragmentEvents info.toolCallBaseIndex fragment.2 fragment.1,
    { info with
      toolCallMaxIndexOffset := max info.toolCallMaxIndexOffset (fragmentOffset fragment.2 fragment.1) })

def laterToolCalls (toolCalls : List ToolCallResponse) : Convert :=
  openTools.andThen ((Emitter.feed toolFragment toolCalls.zipIdx).andThen
    fun info => ([], { info with index := info.toolCallBaseIndex + info.toolCallMaxIndexOffset }))

def laterBlock (type : LastMessageType) (block : ContentBlock) (delta : BlockDelta) : Convert :=
  Emitter.andThen
    (fun info =>
      if info.lastMessagesType ≠ type then
        let info' := advance info
        (stopOpenBlocks info ++ [.contentBlockStart info'.index block], { info' with lastMessagesType := type })
      else Emitter.skip info)
    fun info => ([.contentBlockDelta info.index delta], info)

def laterContent (choice : ChatChoice) : Convert :=
  let reasoning := choice.delta.getReasoningContent
  let textContent := choice.delta.getContentString
  if choice.delta.toolCalls ≠ [] then laterToolCalls choice.delta.toolCalls
  else if reasoning ≠ "" then laterBlock .thinking .thinking (.thinking reasoning)
  else if textContent ≠ "" then laterBlock .text .text (.text textContent)
  else Emitter.skip

/-- A chunk that finishes the choice and has no usage is put off, with all that it carries. -/
def laterChunk (chunk : ChatChunk) (choice : ChatChoice) : Convert := fun info =>
  let info := if choice.finished then { info with finishReason := choice.finishReason.getD "" } else info
  if choice.finished ∧ chunk.usage = none then Emitter.skip info
  else
    (laterContent choice).andThen
      (fun info =>
        if choice.finished ∨ info.done then
          stopMessage (oaiUsage chunk info) (stopReasonOpenAI2Claude info.finishReason) info
        else Emitter.skip info) info

def streamResponseOpenAI2Claude (chunk : ChatChunk) : Convert := fun info =>
  if info.done then Emitter.skip info
  else if info.sendResponseCount = 1 then firstChunk chunk info
  else
    match chunk.choices with
    | [] => usageChunk chunk info
    | choice :: _ => laterChunk chunk choice info

end Convert

/-! ### The handler -/

section

def handleStreamFormat (chunk : ChatChunk) : Convert := fun info =>
  streamResponseOpenAI2Claude chunk
    { info with sendResponseCount := info.sendResponseCount + 1, usage := chunk.usage <|> info.usage }

/-- `HandleFinalResponse` for a client of Claude's format: the count is not advanced. -/
def handleFinalResponse (chunk : ChatChunk) (usage : Usage) : Convert := fun info =>
  let (events, info) := streamResponseOpenAI2Claude chunk { info with usage := some usage }
  (events, { info with done := true })

/-- The loop of `OaiStreamHandler`, which passes a chunk on when the next one arrives. -/
def scanStream : Option ChatChunk → List ChatChunk → Convert
  | _, [] => Emitter.skip
  | none, data :: rest => scanStream (some data) rest
  | some lastStreamData, data :: rest => (handleStreamFormat lastStreamData).andThen (scanStream (some data) rest)

/-- `OaiStreamHandler` for a client of Claude's format; `finalUsage` is the usage that it works out of the chunks. -/
def oaiStreamHandler (finalUsage : List ChatChunk → Usage) (chunks : List ChatChunk) : Convert :=
  (scanStream none chunks).andThen
    (match chunks.getLast? with
    | some lastStreamData => handleFinalResponse lastStreamData (finalUsage chunks)
    | none => Emitter.skip)

end

end LoveApi
