import LoveApi.ChatStream
import LoveApi.Program.Emitter

/-!
# Answers of the Responses endpoint as chat completions

The events of an answer of OpenAI's Responses endpoint are converted to the chunks of a chat stream, one at a time.
-/

namespace LoveApi

open Program

inductive OutputType
  | message
  | functionCall
  | other
deriving DecidableEq, Repr

/-- `ResponsesOutputContent`: whether its type is `output_text`, and the text. -/
structure OutputContent where
  isOutputText : Bool := true
  text : String := ""
deriving DecidableEq, Repr

/-- `ResponsesOutput`; the arguments are those that `ArgumentsString` reads. -/
structure ResponsesOutput where
  type : OutputType := .message
  id : String := ""
  role : String := ""
  content : List OutputContent := []
  callId : String := ""
  name : String := ""
  arguments : String := ""
deriving DecidableEq, Repr

namespace ResponsesOutput

variable (output : ResponsesOutput)

def itemID : String := Go.trimSpace output.id

/-- The id of the call that is sent on, which is the id of the item if the call has none. -/
def canonicalID : String :=
  if Go.trimSpace output.callId = "" then output.itemID else Go.trimSpace output.callId

end ResponsesOutput

inductive ResponsesEvent
  | created (model : String)
  | reasoningSummaryTextDelta (delta : String)
  | reasoningSummaryTextDone
  | outputTextDelta (delta : String)
  | outputItemAdded (item : ResponsesOutput)
  | outputItemDone (item : ResponsesOutput)
  | functionCallArgumentsDelta (itemId delta : String)
  | functionCallArgumentsDone
  | completed (model : String)
  | failed (message : String)
  | other
deriving DecidableEq, Repr

structure ResponsesToChat where
  responseId : String := ""
  model : String := ""
  outputText : String := ""
  sentStart : Bool := false
  sentStop : Bool := false
  sawToolCall : Bool := false
  streamErr : Option String := none
  toolCallIndexByID : List (String × Nat) := []
  toolCallNameByID : String → String := fun _ => ""
  toolCallArgsByID : String → String := fun _ => ""
  toolCallNameSent : String → Bool := fun _ => false
  toolCallCanonicalIDByItemID : String → String := fun _ => ""
  hasSentReasoningSummary : Bool := false
  needsReasoningSummarySeparator : Bool := false

abbrev ToChat := Emitter ResponsesToChat ChatChunk

namespace ResponsesToChat

variable (handler : ResponsesToChat)

def chunk (choice : ChatChoice) : ChatChunk :=
  { id := handler.responseId, model := handler.model, choices := [choice] }

def setModel (model : String) : ResponsesToChat :=
  { handler with model := if model ≠ "" then model else handler.model }

def toolCallIndex (callID : String) : Nat :=
  (handler.toolCallIndexByID.lookup callID).getD handler.toolCallIndexByID.length

def registerToolCall (callID : String) : List (String × Nat) :=
  if (handler.toolCallIndexByID.lookup callID).isSome then handler.toolCallIndexByID
  else handler.toolCallIndexByID ++ [(callID, handler.toolCallIndexByID.length)]

def nameToSend (callID name : String) : String :=
  if handler.toolCallNameSent callID then ""
  else if name ≠ "" then name
  else handler.toolCallNameByID callID

def finishReason : String :=
  if handler.sawToolCall = true ∧ handler.outputText = "" then "tool_calls" else "stop"

def callOfItem (itemID : String) : String :=
  if handler.toolCallCanonicalIDByItemID itemID = "" then itemID else handler.toolCallCanonicalIDByItemID itemID

end ResponsesToChat

def sendStartIfNeeded : ToChat := fun handler =>
  if handler.sentStart then ([], handler)
  else ([handler.chunk { delta := { content := some "" } }], { handler with sentStart := true })

/-- The separator between two reasoning summaries is completed to a blank line. -/
def separated (delta : String) : String :=
  if Go.hasPrefix delta "\n\n" then delta
  else if Go.hasPrefix delta "\n" then "\n" ++ delta
  else "\n\n" ++ delta

def sendReasoningSummaryDelta (delta : String) : ToChat := fun handler =>
  if delta = "" then ([], handler)
  else
    let delta := if handler.needsReasoningSummarySeparator then separated delta else delta
    sendStartIfNeeded.andThen
      (fun handler => ([handler.chunk { delta := { reasoningContent := some delta } }],
        { handler with hasSentReasoningSummary := true }))
      { handler with needsReasoningSummarySeparator := false }

def toolCallFragment (callID name argsDelta : String) : ToChat := fun handler =>
  let tool : ToolCallResponse :=
    { index := some (handler.toolCallIndex callID)
      id := callID
      function := { name := handler.nameToSend callID name, arguments := argsDelta } }
  ([handler.chunk { delta := { toolCalls := [tool] } }],
    { handler with
      toolCallIndexByID := handler.registerToolCall callID
      toolCallNameByID := if name ≠ "" then Function.update handler.toolCallNameByID callID name
        else handler.toolCallNameByID
      toolCallNameSent := if handler.nameToSend callID name ≠ "" then
        Function.update handler.toolCallNameSent callID true else handler.toolCallNameSent
      sawToolCall := true })

def sendToolCallDelta (callID name argsDelta : String) : ToChat := fun handler =>
  if callID = "" ∨ handler.outputText ≠ "" then ([], handler)
  else sendStartIfNeeded.andThen (toolCallFragment callID name argsDelta) handler

def sendOutputText (delta : String) : ToChat := fun handler =>
  if delta = "" then ([], handler)
  else ([handler.chunk { delta := { content := some delta } }],
    { handler with outputText := handler.outputText ++ delta })

def recordItem (item : ResponsesOutput) (handler : ResponsesToChat) : ResponsesToChat :=
  { handler with
    toolCallCanonicalIDByItemID := if item.itemID ≠ "" ∧ item.canonicalID ≠ "" then
      Function.update handler.toolCallCanonicalIDByItemID item.itemID item.canonicalID
      else handler.toolCallCanonicalIDByItemID
    toolCallNameByID := if Go.trimSpace item.name ≠ "" then
      Function.update handler.toolCallNameByID item.canonicalID (Go.trimSpace item.name)
      else handler.toolCallNameByID
    toolCallArgsByID := if item.arguments ≠ "" then
      Function.update handler.toolCallArgsByID item.canonicalID item.arguments
      else handler.toolCallArgsByID }

/-- The arguments of an item that were not sent yet; all of them if they do not continue those that were. -/
def newArguments (item : ResponsesOutput) (handler : ResponsesToChat) : String :=
  if item.arguments ≠ "" then Go.trimPrefix item.arguments (handler.toolCallArgsByID item.canonicalID) else ""

def outputItem (item : ResponsesOutput) : ToChat := fun handler =>
  if item.type ≠ .functionCall then ([], handler)
  else sendToolCallDelta item.canonicalID (Go.trimSpace item.name) (newArguments item handler) (recordItem item handler)

def functionCallArguments (itemId delta : String) : ToChat := fun handler =>
  let callID := handler.callOfItem (Go.trimSpace itemId)
  if callID = "" then ([], handler)
  else sendToolCallDelta callID "" delta
    { handler with
      toolCallArgsByID := Function.update handler.toolCallArgsByID callID (handler.toolCallArgsByID callID ++ delta) }

def sendStopIfNeeded : ToChat := fun handler =>
  if handler.sentStop then ([], handler)
  else ([handler.chunk { finishReason := some handler.finishReason }], { handler with sentStop := true })

def handleEvent : ResponsesEvent → ToChat
  | .created model => fun handler => ([], handler.setModel model)
  | .reasoningSummaryTextDelta delta => sendReasoningSummaryDelta delta
  | .reasoningSummaryTextDone => fun handler =>
    ([], if handler.hasSentReasoningSummary then { handler with needsReasoningSummarySeparator := true } else handler)
  | .outputTextDelta delta => sendStartIfNeeded.andThen (sendOutputText delta)
  | .outputItemAdded item => outputItem item
  | .outputItemDone item => outputItem item
  | .functionCallArgumentsDelta itemId delta => functionCallArguments itemId delta
  | .functionCallArgumentsDone => Emitter.skip
  | .completed model => fun handler => sendStartIfNeeded.andThen sendStopIfNeeded (handler.setModel model)
  | .failed message => fun handler => ([], { handler with streamErr := some message })
  | .other => Emitter.skip

def scanEvent (event : ResponsesEvent) : ToChat := fun handler =>
  if handler.streamErr.isSome then ([], handler) else handleEvent event handler

/-- The end of the stream: the start and the stop chunk if they are missing, and the usage if it was asked for. -/
def endOfStream (finalUsage : Option Usage) : ToChat := fun handler =>
  if handler.streamErr.isSome then ([], handler)
  else (sendStartIfNeeded.andThen sendStopIfNeeded).andThen
    (fun handler => ((finalUsage.map fun usage =>
      { id := handler.responseId, model := handler.model, usage := some usage }).toList, handler)) handler

/-- The chunks that the handler sends in the OpenAI format, and the error that it returns. -/
def oaiResponsesToChatStreamHandler (responseId upstreamModelName : String) (finalUsage : Option Usage)
    (events : List ResponsesEvent) : List ChatChunk × Option String :=
  let result := (Emitter.feed scanEvent events).andThen (endOfStream finalUsage)
    { responseId := responseId, model := upstreamModelName }
  (result.1, result.2.streamErr)

end LoveApi
