import LoveApi.TextQuota

/-!
# The usage of a Claude answer

A Claude answer comes as one message, or as a stream of events whose counts are put together.
-/

namespace LoveApi

open Go BillingExpr

structure ClaudeError where
  type : String
  message : String := ""
deriving DecidableEq, Repr

structure ClaudeCacheCreationUsage where
  ephemeral5mInputTokens : Int := 0
  ephemeral1hInputTokens : Int := 0
deriving DecidableEq, Repr

structure ClaudeUsage where
  inputTokens : Int := 0
  cacheCreationInputTokens : Int := 0
  cacheReadInputTokens : Int := 0
  outputTokens : Int := 0
  cacheCreation : Option ClaudeCacheCreationUsage := none
  /-- The web search requests of `server_tool_use`. -/
  serverToolUse : Option Int := none
deriving DecidableEq, Repr

namespace ClaudeUsage

variable (usage : ClaudeUsage)

def getCacheCreation5mTokens : Int := (usage.cacheCreation.map (·.ephemeral5mInputTokens)).getD 0

def getCacheCreation1hTokens : Int := (usage.cacheCreation.map (·.ephemeral1hInputTokens)).getD 0

end ClaudeUsage

structure ClaudeMediaMessage where
  usage : Option ClaudeUsage := none
  text : Option String := none
  thinking : Option String := none
deriving DecidableEq, Repr

inductive ClaudeType
  | message
  | messageStart
  | contentBlockStart
  | contentBlockDelta
  | contentBlockStop
  | messageDelta
  | messageStop
  | ping
deriving DecidableEq, Repr

structure ClaudeResponse where
  type : ClaudeType
  error : Option ClaudeError := none
  usage : Option ClaudeUsage := none
  delta : Option ClaudeMediaMessage := none
  message : Option ClaudeMediaMessage := none
deriving DecidableEq, Repr

structure ClaudeResponseInfo where
  responseText : String := ""
  usage : Usage := {}
  done : Bool := false
deriving DecidableEq, Repr

def startUsage (usage : Usage) (claude : ClaudeUsage) : Usage :=
  { usage with
    promptTokens := claude.inputTokens
    usageSemantic := "anthropic"
    promptTokensDetails := { usage.promptTokensDetails with
      cachedTokens := claude.cacheReadInputTokens
      cachedCreationTokens := claude.cacheCreationInputTokens }
    claudeCacheCreation5mTokens := claude.getCacheCreation5mTokens
    claudeCacheCreation1hTokens := claude.getCacheCreation1hTokens
    completionTokens := claude.outputTokens }

/-- The usage of a `message_delta` event: a count that is not positive leaves the one before. -/
def deltaUsage (usage : Usage) (claude : ClaudeUsage) : Usage :=
  let latest (before now : Int) : Int := if now > 0 then now else before
  let promptTokens := latest usage.promptTokens claude.inputTokens
  let completionTokens := latest usage.completionTokens claude.outputTokens
  { usage with
    promptTokens := promptTokens
    usageSemantic := "anthropic"
    promptTokensDetails := { usage.promptTokensDetails with
      cachedTokens := latest usage.promptTokensDetails.cachedTokens claude.cacheReadInputTokens
      cachedCreationTokens := latest usage.promptTokensDetails.cachedCreationTokens claude.cacheCreationInputTokens }
    claudeCacheCreation5mTokens := latest usage.claudeCacheCreation5mTokens claude.getCacheCreation5mTokens
    claudeCacheCreation1hTokens := latest usage.claudeCacheCreation1hTokens claude.getCacheCreation1hTokens
    completionTokens := completionTokens
    totalTokens := promptTokens + completionTokens }

/-- `FormatClaudeResponseInfo`; the answer to the client that it also fills in is left out. -/
def formatClaudeResponseInfo (response : ClaudeResponse) (info : ClaudeResponseInfo) : ClaudeResponseInfo :=
  match response.type with
  | .messageStart =>
    match response.message.bind (·.usage) with
    | some usage => { info with usage := startUsage info.usage usage }
    | none => info
  | .contentBlockDelta =>
    match response.delta with
    | some delta => { info with responseText := info.responseText ++ delta.text.getD "" ++ delta.thinking.getD "" }
    | none => info
  | .messageDelta =>
    let info := match response.usage with
      | some usage => { info with usage := deltaUsage info.usage usage }
      | none => info
    { info with done := true }
  | _ => info

section Handlers

variable (relayFormat : RelayFormat)

def claudeError (response : ClaudeResponse) : Option ClaudeError :=
  response.error.bind fun e => if e.type ≠ "" then some e else none

def handleStreamResponseData (info : ClaudeResponseInfo) (response : ClaudeResponse) :
    Except ClaudeError ClaudeResponseInfo :=
  match claudeError response with
  | some e => .error e
  | none =>
    if relayFormat = .claude ∨ relayFormat = .openai then .ok (formatClaudeResponseInfo response info) else .ok info

/-- `countText` is the estimate of the tokens of a text, `estimatePromptTokens` that of the request. -/
def handleStreamFinalResponse (countText : String → Int) (estimatePromptTokens : Int) (info : ClaudeResponseInfo) :
    Usage :=
  let usage := info.usage
  let usage :=
    if usage.completionTokens = 0 || !info.done then
      let fallback := countText info.responseText
      let completionTokens :=
        if usage.completionTokens = 0 || (!info.done && fallback > usage.completionTokens) then fallback
        else usage.completionTokens
      let promptTokens := if usage.promptTokens = 0 then estimatePromptTokens else usage.promptTokens
      { usage with
        completionTokens := completionTokens
        promptTokens := promptTokens
        totalTokens := promptTokens + completionTokens }
    else usage
  { usage with usageSemantic := "anthropic" }

def claudeStreamHandler (countText : String → Int) (estimatePromptTokens : Int) (events : List ClaudeResponse) :
    Except ClaudeError Usage := do
  let info ← events.foldlM (handleStreamResponseData relayFormat) {}
  return handleStreamFinalResponse countText estimatePromptTokens info

/-- The usage of a message and the web search requests that are stored in the context. -/
def handleClaudeResponseData (response : ClaudeResponse) : Except ClaudeError (Usage × Int) :=
  match claudeError response with
  | some e => .error e
  | none =>
    let usage : Usage := match response.usage with
      | some claude =>
        { promptTokens := claude.inputTokens
          completionTokens := claude.outputTokens
          totalTokens := claude.inputTokens + claude.outputTokens
          usageSemantic := "anthropic"
          promptTokensDetails :=
            { cachedTokens := claude.cacheReadInputTokens, cachedCreationTokens := claude.cacheCreationInputTokens }
          claudeCacheCreation5mTokens := claude.getCacheCreation5mTokens
          claudeCacheCreation1hTokens := claude.getCacheCreation1hTokens }
      | none => {}
    let webSearchRequests := (response.usage.bind (·.serverToolUse)).getD 0
    .ok (usage, if webSearchRequests > 0 then webSearchRequests else 0)

end Handlers

end LoveApi
