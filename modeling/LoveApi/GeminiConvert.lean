import LoveApi.ChatRequest
import LoveApi.ChatStream
import LoveApi.Program.Loop

/-!
# Requests and answers between the chat format and the Gemini format

A Gemini request becomes a chat request, a complete or streamed chat answer becomes a Gemini answer, and an answer of
Gemini becomes a chat answer. `CovertOpenAI2Gemini` splits a text at its markdown images.
-/

namespace LoveApi

variable {J : Type}

structure GeminiData where
  mimeType : String
  data : String
deriving DecidableEq, Repr

structure GeminiFunction (J : Type) where
  name : String
  value : J
deriving DecidableEq, Repr

structure GeminiPart (J : Type) where
  text : String := ""
  inlineData : Option GeminiData := none
  fileData : Option GeminiData := none
  functionCall : Option (GeminiFunction J) := none
  functionResponse : Option (GeminiFunction J) := none
deriving DecidableEq, Repr

inductive GeminiRole
  | user
  | model
  | function
  | other
deriving DecidableEq, Repr

structure GeminiContent (J : Type) where
  role : GeminiRole
  parts : List (GeminiPart J)
deriving DecidableEq, Repr

structure GeminiRequest (J : Type) where
  contents : List (GeminiContent J)
  stopSequences : Go.Slice String := { elems := [] }
  systemInstructions : Option (List (GeminiPart J)) := none

section Request

def convertGeminiRoleToOpenAI : GeminiRole → MessageRole
  | .user => .user
  | .model => .assistant
  | .function => .other "function"
  | .other => .user

structure PartsState where
  mediaContents : List MediaContent := []
  toolCalls : List ToolCallRequest := []
  toolMessages : List Message := []

def toolCallID (n : Nat) : String := "call_" ++ toString n

def convertPart (codec : JsonCodec J) (state : PartsState) (part : GeminiPart J) : PartsState :=
  if part.text ≠ "" then { state with mediaContents := state.mediaContents ++ [.text part.text] }
  else match part.inlineData, part.fileData, part.functionCall, part.functionResponse with
    | some data, _, _, _ =>
      { state with mediaContents := state.mediaContents ++
          [.imageUrl ("data:" ++ data.mimeType ++ ";base64," ++ data.data) "auto" data.mimeType] }
    | none, some file, _, _ =>
      { state with mediaContents := state.mediaContents ++ [.imageUrl file.data "auto" file.mimeType] }
    | none, none, some call, _ =>
      { state with toolCalls := state.toolCalls ++
          [{ id := toolCallID (state.toolCalls.length + 1)
             name := call.name
             arguments := codec.marshal call.value }] }
    | none, none, none, some response =>
      { state with toolMessages := state.toolMessages ++
          [{ role := .tool
             toolCallId := toolCallID state.toolCalls.length
             content := .text (codec.marshal response.value) }] }
    | none, none, none, none => state

def convertParts (codec : JsonCodec J) (parts : List (GeminiPart J)) : PartsState :=
  parts.foldl (convertPart codec) {}

/-- The message of a content: its tool calls, or a text, or a list of texts and images. -/
def contentMessage (role : MessageRole) (state : PartsState) : Message :=
  if state.toolCalls ≠ [] then { role := role, toolCalls := some state.toolCalls }
  else match state.mediaContents with
    | [] => { role := role }
    | [.text text] => { role := role, content := .text text }
    | mediaContents => { role := role, content := .parts mediaContents }

def convertContent (codec : JsonCodec J) (content : GeminiContent J) : List Message :=
  let state := convertParts codec content.parts
  let message := contentMessage (convertGeminiRoleToOpenAI content.role) state
  state.toolMessages ++ (if message.content.parseContent ≠ [] ∨ message.parseToolCalls ≠ [] then [message] else [])

def extractTextFromGeminiParts (parts : List (GeminiPart J)) : String :=
  "\n".intercalate ((parts.map GeminiPart.text).filter fun text => text ≠ "")

structure ConvertedRequest where
  messages : List Message
  stop : List String := []
deriving DecidableEq, Repr

def geminiToOpenAIRequest (codec : JsonCodec J) (request : GeminiRequest J) : Option ConvertedRequest := do
  let messages := request.contents.flatMap (convertContent codec)
  let stop ← (if request.stopSequences.elems.length > 0 then request.stopSequences.upTo 4 else some [])
  let system := request.systemInstructions.map fun parts =>
    { role := .system, content := .text (extractTextFromGeminiParts parts) }
  return { messages := system.toList ++ messages, stop := stop }

end Request

section Answer

inductive GeminiAnswerPart (J : Type)
  | text (text : String)
  | functionCall (name : String) (args : J)
deriving DecidableEq, Repr

structure GeminiCandidate (J : Type) where
  finishReason : Option String := none
  parts : List (GeminiAnswerPart J) := []
deriving DecidableEq, Repr

def geminiFinishReason : String → String
  | "stop" => "STOP"
  | "length" => "MAX_TOKENS"
  | "content_filter" => "SAFETY"
  | "tool_calls" => "STOP"
  | _ => "STOP"

/-- The arguments as an object; those that are no object become the field of one. -/
def functionArgs (codec : JsonCodec J) (arguments : String) : J :=
  if arguments ≠ "" then (codec.unmarshalObject arguments).getD (codec.argumentsObject arguments)
  else codec.emptyObject

def functionCallPart (codec : JsonCodec J) (name arguments : String) : GeminiAnswerPart J :=
  .functionCall name (functionArgs codec arguments)

structure AnswerChoice where
  message : Message
  finishReason : String
deriving DecidableEq, Repr

def responseOpenAI2Gemini (codec : JsonCodec J) (choices : List AnswerChoice) : List (GeminiCandidate J) :=
  choices.map fun choice =>
    let toolCalls := choice.message.parseToolCalls
    let text := choice.message.content.stringContent
    { finishReason := some (geminiFinishReason choice.finishReason)
      parts := if toolCalls ≠ [] then toolCalls.map fun toolCall =>
          functionCallPart codec toolCall.name toolCall.arguments
        else if text ≠ "" then [.text text] else [] }

def choiceCandidate (codec : JsonCodec J) (choice : ChatChoice) : GeminiCandidate J :=
  let text := choice.delta.getContentString
  { finishReason := choice.finishReason.map geminiFinishReason
    parts :=
      if choice.delta.toolCalls ≠ [] ∨ choice.delta.emptyToolCalls then choice.delta.toolCalls.map fun toolCall =>
        functionCallPart codec toolCall.function.name toolCall.function.arguments
      else if text ≠ "" then [.text text] else [] }

def streamResponseOpenAI2Gemini (codec : JsonCodec J) (chunk : ChatChunk) : Option (List (GeminiCandidate J)) :=
  let hasContent := chunk.choices.any fun choice =>
    choice.delta.getContentString ≠ "" ∨ choice.delta.toolCalls ≠ []
  let hasFinishReason := chunk.choices.any fun choice => choice.finishReason.isSome
  if !hasContent && !hasFinishReason then none else some (chunk.choices.map (choiceCandidate codec))

end Answer

section Markdown

open Program

/-- `strings.Index`. -/
def index (s substr : List Char) : Option Nat := s.tails.findIdx? (substr.isPrefixOf ·)

inductive MarkdownPiece
  | text (text : List Char)
  | image (source dataUrl : List Char)
deriving DecidableEq, Repr

structure MarkdownImage where
  before : List Char
  source : List Char
  dataUrl : List Char
  rest : List Char

def nextImage (text : List Char) : Option MarkdownImage := do
  let startIdx ← index text "![".toList
  let bracketIdx := startIdx + (← index (text.drop startIdx) "](data:".toList)
  let closeIdx := bracketIdx + 2 + (← index (text.drop (bracketIdx + 2)) ")".toList)
  return { before := text.take startIdx
           source := (text.take (closeIdx + 1)).drop startIdx
           dataUrl := (text.take closeIdx).drop (bracketIdx + 2)
           rest := text.drop (closeIdx + 1) }

def splitStep (s : List MarkdownPiece × List Char) :
    Next (List MarkdownPiece × List Char) (List MarkdownPiece × List Char) :=
  match nextImage s.2 with
  | none => .done s
  | some image =>
    .again (s.1 ++ (if image.before ≠ [] then [.text image.before] else []) ++ [.image image.source image.dataUrl],
      image.rest)

/-- The pieces that become parts, and the text that does not. -/
def splitMarkdown (fuel : Nat) (text : String) : Option (List MarkdownPiece × List Char) :=
  if text = "" then some ([], [])
  else (loop splitStep fuel ([], text.toList)).map fun s => if s.1 = [] then ([.text text.toList], []) else s

def MarkdownPiece.toPart (decode : String → Except String GeminiData) : MarkdownPiece → Except String (GeminiPart J)
  | .text piece => .ok { text := String.ofList piece }
  | .image _ dataUrl =>
    match decode (String.ofList dataUrl) with
    | .ok data => .ok { inlineData := some data }
    | .error e => .error ("decode markdown base64 image data failed: " ++ e)

def convertText (decode : String → Except String GeminiData) (fuel : Nat) (text : String) :
    Option (Except String (List (GeminiPart J))) :=
  (splitMarkdown fuel text).map fun s => s.1.mapM (MarkdownPiece.toPart decode)

end Markdown

section Candidates

structure ResponsePart (J : Type) where
  text : String := ""
  thought : Bool := false
  inlineData : Option GeminiData := none
  functionCall : Option (GeminiFunction J) := none
  executableCode : Option (String × String) := none
  codeExecutionResult : Option String := none

structure ResponseCandidate (J : Type) where
  parts : List (ResponsePart J)
  finishReason : Option String := none

/-- The message or the delta of a choice, without the ids of its tool calls, which are random. -/
structure GeminiChoice where
  content : String
  reasoningContent : Option String
  toolCalls : List FunctionResponse
  finishReason : Option String
deriving DecidableEq, Repr

def finishReasonGemini2OpenAI : String → String
  | "STOP" => "stop"
  | "MAX_TOKENS" => "length"
  | _ => "content_filter"

structure CandidateState where
  texts : List String := []
  toolCalls : List FunctionResponse := []
  reasoningContent : Option String := none
  isTools : Bool := false
  isThought : Bool := false

variable (codec : JsonCodec J) (stream : Bool)

def mediaText (data : GeminiData) : Option String :=
  let url := "(data:" ++ data.mimeType ++ ";base64," ++ data.data ++ ")"
  if Go.hasPrefix data.mimeType "image" then some ("![image]" ++ url)
  else if stream then none else some ("[media]" ++ url)

def ResponsePart.plainText (part : ResponsePart J) : Option String :=
  let codeEnd := if stream then "\n```\n" else "\n```"
  match part.executableCode, part.codeExecutionResult with
  | some (language, code), _ => some ("```" ++ language ++ "\n" ++ code ++ codeEnd)
  | none, some output => some ("```output\n" ++ output ++ codeEnd)
  | none, none => if part.text ≠ "\n" then some part.text else none

/-- One part of an answer. A stream counts a thought among the texts. -/
def readPart (s : CandidateState) (part : ResponsePart J) : CandidateState :=
  match part.inlineData, part.functionCall with
  | some data, _ => { s with texts := s.texts ++ (mediaText stream data).toList }
  | none, some call =>
    { s with isTools := true, toolCalls := s.toolCalls ++ [⟨call.name, codec.marshal call.value⟩] }
  | none, none =>
    if !part.thought then { s with texts := s.texts ++ (part.plainText stream).toList }
    else if stream then { s with isThought := true, texts := s.texts ++ [part.text] }
    else { s with reasoningContent := some part.text }

/-- The flag tells whether an earlier candidate had tool calls. -/
def responseGeminiChat2OpenAI (isToolCall : Bool) : List (ResponseCandidate J) → List GeminiChoice
  | [] => []
  | candidate :: rest =>
    let s := candidate.parts.foldl (readPart codec false) {}
    let finishReason := match candidate.finishReason with
      | some reason => finishReasonGemini2OpenAI reason
      | none => if s.isTools then "tool_calls" else "stop"
    let isToolCall := isToolCall || s.toolCalls ≠ []
    { content := "\n".intercalate s.texts
      reasoningContent := s.reasoningContent
      toolCalls := s.toolCalls
      finishReason := some (if isToolCall then "tool_calls" else finishReason) } ::
    responseGeminiChat2OpenAI isToolCall rest

def streamResponseGeminiChat2OpenAI (candidates : List (ResponseCandidate J)) : List GeminiChoice :=
  candidates.map fun candidate =>
    let s := candidate.parts.foldl (readPart codec true) {}
    let text := "\n".intercalate s.texts
    { content := if s.isThought then "" else text
      reasoningContent := if s.isThought then some text else none
      toolCalls := s.toolCalls
      finishReason := if s.isTools then some "tool_calls"
        else (candidate.finishReason.filter (· ≠ "STOP")).map finishReasonGemini2OpenAI }

end Candidates

end LoveApi
