import LoveApi.ChatStream
import LoveApi.Program.Emitter

/-!
# The relay of a chat stream to a chat client

`StreamScannerHandler` takes the payloads out of the lines of an upstream answer. `OaiStreamHandler` sends each of them
on when the next one arrives, and the last one if it is of interest.
-/

namespace LoveApi

open Program Go

/-- What the scanner does with a line. -/
inductive ScannedLine
  | skipped
  | delivered (data : String)
  | done
deriving DecidableEq, Repr

/-- A data line, or a line that starts with `[DONE]`, is cut after five characters. -/
def scanLine (line : String) : ScannedLine :=
  if line.utf8ByteSize < 6 then .skipped
  else if !hasPrefix line "data:" && !hasPrefix line "[DONE]" then .skipped
  else
    let data := trimSpace (String.ofList (line.toList.drop 5))
    if data = "" then .skipped else if !hasPrefix data "[DONE]" then .delivered data else .done

/-- The payloads that the handler gets if nothing stops it. -/
def streamScannerHandler : List String → List String
  | [] => []
  | line :: rest =>
    match scanLine line with
    | .skipped => streamScannerHandler rest
    | .delivered data => data :: streamScannerHandler rest
    | .done => []

/-- How far the reasoning of a stream was sent as content. -/
structure ThinkingContentInfo where
  isFirstThinkingContent : Bool := true
  sendLastThinkingContent : Bool := false
  hasSentThinkingContent : Bool := false
deriving DecidableEq, Repr

/-- The settings of a channel, whether the client has asked for the usage, and the parse of a chunk. -/
structure StreamSettings where
  unmarshal : String → Option ChatChunk
  unmarshal_empty : unmarshal "" = none
  forceFormat : Bool := false
  thinkingToContent : Bool := false
  shouldIncludeUsage : Bool := false

/-- What is sent to the client: a payload as it came, or a chunk that was written anew. -/
inductive SentData
  | string (data : String)
  | object (chunk : ChatChunk)
deriving DecidableEq, Repr

/-- The content is set and the reasoning removed. -/
def ChatDelta.replaceContent (content : String) (delta : ChatDelta) : ChatDelta :=
  { delta with content := some content, reasoningContent := none, reasoning := none }

/-- Every choice gets the content. -/
def ChatChunk.replaceContent (content : String) (chunk : ChatChunk) : ChatChunk :=
  { chunk with choices := chunk.choices.map fun choice => { choice with delta := choice.delta.replaceContent content } }

/-- The part of `sendStreamData` that turns reasoning into content. -/
def thinkToContent (chunk : ChatChunk) : Emitter ThinkingContentInfo SentData := fun info =>
  let thinkingContent := String.join (chunk.choices.map fun choice => choice.delta.getReasoningContent)
  let hasThinkingContent := chunk.choices.any fun choice => choice.delta.getReasoningContent ≠ ""
  let hasContent := chunk.choices.any fun choice => choice.delta.getContentString ≠ ""
  if info.isFirstThinkingContent && hasThinkingContent then
    ([.object (chunk.replaceContent ("<think>\n" ++ thinkingContent))],
      { info with isFirstThinkingContent := false, hasSentThinkingContent := true })
  else
    -- the loop over the choices sends the end of the thinking at most once, before it has changed a choice
    let ends := hasContent && !info.sendLastThinkingContent && info.hasSentThinkingContent
    let choices := chunk.choices.map fun choice =>
      if choice.delta.getReasoningContent ≠ "" then
        { choice with delta := choice.delta.replaceContent choice.delta.getReasoningContent }
      else if !hasThinkingContent && !hasContent then
        { choice with delta := { choice.delta with reasoningContent := none, reasoning := none } }
      else choice
    ((if ends then [.object (chunk.replaceContent "\n</think>\n")] else []) ++ [.object { chunk with choices }],
      { info with sendLastThinkingContent := info.sendLastThinkingContent || ends })

variable (settings : StreamSettings)

/-- A payload is sent as it came unless the channel changes the chunks. -/
def sendStreamData (data : String) : Emitter ThinkingContentInfo SentData := fun info =>
  if data = "" then ([], info)
  else if !settings.forceFormat && !settings.thinkingToContent then ([.string data], info)
  else match settings.unmarshal data with
    | none => ([], info)
    | some chunk =>
      if !settings.thinkingToContent then ([.object chunk], info) else thinkToContent chunk info

/-- `ValidUsage`. -/
def validUsage : Option Usage → Bool
  | none => false
  | some usage => usage.promptTokens ≠ 0 || usage.completionTokens ≠ 0

/-- The part of `handleLastResponse` that decides about the last chunk. -/
def shouldSendLastResp (lastStreamData : String) : Bool :=
  match settings.unmarshal lastStreamData with
  | none => true
  | some chunk =>
    if validUsage chunk.usage && !settings.shouldIncludeUsage then
      chunk.choices.any fun choice => choice.delta.getContentString ≠ "" || choice.delta.getReasoningContent ≠ ""
    else true

/-- The variables of `OaiStreamHandler`: the payload that waits, and the state of the reasoning. -/
structure OaiStream where
  lastStreamData : String := ""
  thinking : ThinkingContentInfo := {}

/-- The handler of a payload: the one before it is sent. -/
def handleStreamData (data : String) : Emitter OaiStream SentData := fun stream =>
  let (sent, thinking) := sendStreamData settings stream.lastStreamData stream.thinking
  (sent, { lastStreamData := if data ≠ "" then data else stream.lastStreamData, thinking })

/-- `OaiStreamHandler` for a chat client: what is sent of the payloads in the lines. -/
def ChatClient.oaiStreamHandler (lines : List String) : List SentData :=
  let (sent, stream) := Emitter.feed (handleStreamData settings) (streamScannerHandler lines) {}
  sent ++ if shouldSendLastResp settings stream.lastStreamData then
    (sendStreamData settings stream.lastStreamData stream.thinking).1 else []

end LoveApi
