import LoveApi.TextQuota

/-!
# The chunks of a chat stream

The chunks in which OpenAI's chat endpoint streams an answer, as the relay reads and writes them.
-/

namespace LoveApi

structure FunctionResponse where
  name : String := ""
  arguments : String := ""
deriving DecidableEq, Repr

structure ToolCallResponse where
  index : Option Int := none
  id : String := ""
  function : FunctionResponse := {}
deriving DecidableEq, Repr

/-- `ChatCompletionsStreamResponseChoiceDelta`; a list of tool calls may be given and empty. -/
structure ChatDelta where
  content : Option String := none
  reasoningContent : Option String := none
  reasoning : Option String := none
  toolCalls : List ToolCallResponse := []
  emptyToolCalls : Bool := false
deriving DecidableEq, Repr

namespace ChatDelta

variable (delta : ChatDelta)

def getContentString : String := delta.content.getD ""

def getReasoningContent : String :=
  match delta.reasoningContent with
  | some reasoning => reasoning
  | none => delta.reasoning.getD ""

end ChatDelta

/-- `ChatCompletionsStreamResponseChoice`. -/
structure ChatChoice where
  delta : ChatDelta := {}
  finishReason : Option String := none
deriving DecidableEq, Repr

def ChatChoice.finished (choice : ChatChoice) : Bool := choice.finishReason.getD "" ≠ ""

/-- `ChatCompletionsStreamResponse`. -/
structure ChatChunk where
  id : String := ""
  model : String := ""
  choices : List ChatChoice := []
  usage : Option Usage := none
deriving DecidableEq, Repr

/-- The fragments of tool calls in the chunks of a stream. -/
def fragments (chunks : List ChatChunk) : List ToolCallResponse :=
  chunks.flatMap fun chunk => chunk.choices.flatMap fun choice => choice.delta.toolCalls

@[simp] lemma fragments_nil : fragments [] = [] := rfl

@[simp] lemma fragments_append (chunks chunks' : List ChatChunk) :
    fragments (chunks ++ chunks') = fragments chunks ++ fragments chunks' := List.flatMap_append

end LoveApi
