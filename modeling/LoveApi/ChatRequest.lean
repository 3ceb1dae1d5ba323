import LoveApi.Go

/-!
# The messages of a chat request

The messages of OpenAI's chat endpoint. The JSON library is a parameter: the values `J` with the functions that read an
object and write a value.
-/

namespace LoveApi

/-- `json.Unmarshal` into a map and `json.Marshal`. The empty text is no JSON. -/
structure JsonCodec (J : Type) where
  unmarshalObject : String → Option J
  marshal : J → String
  emptyObject : J
  /-- The object whose field `arguments` is the text. -/
  argumentsObject : String → J
  unmarshal_empty : unmarshalObject "" = none

def textCodec : JsonCodec String where
  unmarshalObject text := if Go.hasPrefix text "\x7b" then some text else none
  marshal text := text
  emptyObject := "\x7b\x7d"
  argumentsObject text := "\x7b\"arguments\":\"" ++ text ++ "\"\x7d"
  unmarshal_empty := rfl

inductive MessageRole
  | system
  | user
  | assistant
  | tool
  | other (name : String)
deriving DecidableEq, Repr

inductive MediaContent
  | text (text : String)
  | imageUrl (url detail mimeType : String)
  | inputAudio (data format : String)
  | file (fileName fileData fileId : String)
  | videoUrl (url : String)
deriving DecidableEq, Repr

inductive MessageContent
  | null
  | text (text : String)
  | parts (parts : List MediaContent)
deriving DecidableEq, Repr

namespace MessageContent

def stringContent : MessageContent → String
  | .null => ""
  | .text content => content
  | .parts contents =>
    String.join (contents.filterMap fun part => match part with | .text content => some content | _ => none)

def parseContent : MessageContent → List MediaContent
  | .null => []
  | .text content => [.text content]
  | .parts contents => contents

end MessageContent

/-- `ToolCallRequest`, with the name and the arguments of its function. -/
structure ToolCallRequest where
  id : String := ""
  name : String := ""
  arguments : String := ""
deriving DecidableEq, Repr

structure Message where
  role : MessageRole
  content : MessageContent := .null
  name : Option String := none
  toolCalls : Option (List ToolCallRequest) := none
  toolCallId : String := ""
deriving DecidableEq, Repr

def Message.parseToolCalls (message : Message) : List ToolCallRequest := message.toolCalls.getD []

end LoveApi
