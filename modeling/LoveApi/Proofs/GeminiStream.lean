import LoveApi.GeminiConvert

/-!
# Tool calls in streamed and complete Gemini answers

Each fragment of a tool call becomes a function call of its own, so a stream has the function calls of the complete
answer when no call is cut.
-/

namespace LoveApi.Proofs

open List Option

variable {start : Nat}

variable {J : Type}

/-- A tool call whose arguments come in pieces. -/
structure CutCall where
  id : String
  name : String
  first : String
  rest : List String := []

namespace CutCall

/-- The whole tool call. -/
def call (cut : CutCall) : ToolCallRequest := ⟨cut.id, cut.name, String.join (cut.first :: cut.rest)⟩

/-- The fragments of the tool call. -/
def chunked (cut : CutCall) (index : Nat) : List ToolCallResponse :=
  { index := some index, id := cut.id, function := ⟨cut.name, cut.first⟩ } ::
    cut.rest.map fun piece => { index := some index, function := ⟨"", piece⟩ }

end CutCall

/-- The fragments of the calls one after another, the calls numbered from `start` on. -/
def chunkedFrom (start : Nat) (cuts : List CutCall) : List ToolCallResponse :=
  (cuts.zipIdx start).flatMap fun (cut, index) => cut.chunked index

def answerPartCall : GeminiAnswerPart J → Option (GeminiFunction J)
  | .text _ => none
  | .functionCall name args => some ⟨name, args⟩

def functionCalls (candidates : List (GeminiCandidate J)) : List (GeminiFunction J) :=
  candidates.flatMap fun candidate => candidate.parts.filterMap answerPartCall

def streamedFunctionCalls (codec : JsonCodec J) (chunks : List ChatChunk) : List (GeminiFunction J) :=
  chunks.flatMap fun chunk => functionCalls ((streamResponseOpenAI2Gemini codec chunk).getD [])

section Conversion

variable (codec : JsonCodec J)

lemma filterMap_parts {α : Type} {given : Prop} [Decidable given] (name arguments : α → String) {toolCalls : List α}
    (hgiven : toolCalls ≠ [] → given) (text : String) :
    (if given then toolCalls.map fun toolCall => functionCallPart codec (name toolCall) (arguments toolCall)
      else if text ≠ "" then [.text text] else []).filterMap answerPartCall =
    toolCalls.map fun toolCall => ⟨name toolCall, functionArgs codec (arguments toolCall)⟩ := by
  split_ifs with hcalls htext
  · rw [filterMap_map]
    exact congrFun filterMap_eq_map toolCalls
  · rw [not_not.mp fun h => hcalls (hgiven h)]
    rfl
  · rw [not_not.mp fun h => hcalls (hgiven h)]
    rfl

lemma functionCalls_responseOpenAI2Gemini {message : Message} {finishReason : String} :
    functionCalls (responseOpenAI2Gemini codec [⟨message, finishReason⟩]) =
      message.parseToolCalls.map fun toolCall => ⟨toolCall.name, functionArgs codec toolCall.arguments⟩ := by
  rw [functionCalls, responseOpenAI2Gemini, map_singleton, flatMap_singleton]
  exact filterMap_parts codec ToolCallRequest.name ToolCallRequest.arguments id _

lemma functionCalls_streamResponseOpenAI2Gemini {chunk : ChatChunk} :
    functionCalls ((streamResponseOpenAI2Gemini codec chunk).getD []) = (fragments [chunk]).map fun toolCall =>
        ⟨toolCall.function.name, functionArgs codec toolCall.function.arguments⟩ := by
  have hchoices : functionCalls (chunk.choices.map (choiceCandidate codec)) = (fragments [chunk]).map fun toolCall =>
      ⟨toolCall.function.name, functionArgs codec toolCall.function.arguments⟩ := by
    rw [functionCalls, flatMap_map, fragments, flatMap_singleton, map_flatMap]
    exact flatMap_congr fun choice _ => filterMap_parts codec
      (fun toolCall : ToolCallResponse => toolCall.function.name) (fun toolCall => toolCall.function.arguments)
      .inl choice.delta.getContentString
  simp only [streamResponseOpenAI2Gemini]
  split_ifs with hskip
  · have hnone : fragments [chunk] = [] := by
      rw [fragments, flatMap_singleton, flatMap_eq_nil_iff]
      intro choice hchoice
      have hcontent := (Bool.and_eq_true_iff.mp hskip).1
      rw [Bool.not_eq_true', List.any_eq_false] at hcontent
      by_contra hne
      exact hcontent choice hchoice (decide_eq_true (.inr hne))
    rw [hnone]
    rfl
  · exact hchoices

/-- Every fragment of a tool call is streamed as a function call of its own. -/
theorem streamedFunctionCalls_eq {chunks : List ChatChunk} :
    streamedFunctionCalls codec chunks = (fragments chunks).map fun toolCall =>
      ⟨toolCall.function.name, functionArgs codec toolCall.function.arguments⟩ := by
  induction chunks with
  | nil => rfl
  | cons chunk rest ih =>
    have hfragments : fragments (chunk :: rest) = fragments [chunk] ++ fragments rest := fragments_append [chunk] rest
    rw [hfragments, map_append, ← ih, ← functionCalls_streamResponseOpenAI2Gemini]
    rfl

end Conversion

lemma chunkedFrom_cons {cut : CutCall} {cuts : List CutCall} :
    chunkedFrom start (cut :: cuts) = cut.chunked start ++ chunkedFrom (start + 1) cuts := rfl

lemma length_chunkedFrom {cuts : List CutCall} :
    (chunkedFrom start cuts).length = cuts.length + (cuts.map fun cut => cut.rest.length).sum := by
  induction cuts generalizing start with
  | nil => rfl
  | cons cut cuts ih =>
    rw [chunkedFrom_cons, length_append, ih, CutCall.chunked, length_cons, length_map, map_cons, sum_cons,
      length_cons]
    omega

lemma map_chunkedFrom_of_uncut {β : Type} (f : String → String → β) {cuts : List CutCall}
    (h : ∀ cut ∈ cuts, cut.rest = []) :
    ((chunkedFrom start cuts).map fun toolCall => f toolCall.function.name toolCall.function.arguments) =
      (cuts.map CutCall.call).map fun toolCall => f toolCall.name toolCall.arguments := by
  induction cuts generalizing start with
  | nil => rfl
  | cons cut cuts ih =>
    have hrest := h cut mem_cons_self
    rw [chunkedFrom_cons, map_append, ih fun cut hcut => h cut (mem_cons_of_mem _ hcut)]
    simp [CutCall.chunked, CutCall.call, hrest]

/-- For a message whose calls come in fragments, the function calls of the stream are those of the complete answer
when every call comes in one fragment, and only then. -/
theorem streamResponseOpenAI2Gemini_functionCalls (codec : JsonCodec J) (content : MessageContent)
    (finishReason : String) (cuts : List CutCall) (chunks : List ChatChunk)
    (hchunks : fragments chunks = chunkedFrom 0 cuts) :
    streamedFunctionCalls codec chunks = functionCalls (responseOpenAI2Gemini codec
        [⟨{ role := .assistant, content := content, toolCalls := some (cuts.map CutCall.call) }, finishReason⟩]) ↔
      ∀ cut ∈ cuts, cut.rest = [] := by
  rw [streamedFunctionCalls_eq, functionCalls_responseOpenAI2Gemini, hchunks]
  constructor
  · intro h
    have hlength := congrArg length h
    simp only [Message.parseToolCalls, getD_some, length_map] at hlength
    rw [length_chunkedFrom, Nat.add_eq_left] at hlength
    intro cut hcut
    exact List.length_eq_zero_iff.mp (List.sum_eq_zero_iff_forall_eq_nat.mp hlength _ (List.mem_map_of_mem hcut))
  · intro huncut
    exact map_chunkedFrom_of_uncut (fun name arguments => (⟨name, functionArgs codec arguments⟩ : GeminiFunction J))
      huncut

def toolChunk (toolCalls : List ToolCallResponse) : ChatChunk :=
  { choices := [{ delta := { toolCalls := toolCalls } }] }

def weatherCut : CutCall := { id := "call_a", name := "weather", first := "\x7b\"city\":\"Oslo\"\x7d" }

def timeCut : CutCall := { id := "call_b", name := "time", first := "\x7b\x7d" }

/-- Calls that come in one fragment each are streamed as they are. -/
theorem streamResponseOpenAI2Gemini_functionCalls_uncut :
    streamedFunctionCalls textCodec [toolChunk (weatherCut.chunked 0), toolChunk (timeCut.chunked 1)] =
      functionCalls (responseOpenAI2Gemini textCodec
        [⟨{ role := .assistant, toolCalls := some [weatherCut.call, timeCut.call] }, "tool_calls"⟩]) :=
  (streamResponseOpenAI2Gemini_functionCalls textCodec .null "tool_calls" [weatherCut, timeCut]
    [toolChunk (weatherCut.chunked 0), toolChunk (timeCut.chunked 1)] rfl).mpr (by decide)

def openedCut : CutCall where
  id := "call_a"
  name := "weather"
  first := ""
  rest := ["\x7b\"city\":\"Oslo\"\x7d"]

/-- A call whose name comes before its arguments is streamed as two calls. -/
theorem streamResponseOpenAI2Gemini_functionCalls_opened :
    (textCodec.unmarshalObject openedCut.call.arguments).isSome ∧
      fragments ((openedCut.chunked 0).map fun fragment => toolChunk [fragment]) = chunkedFrom 0 [openedCut] ∧
      streamedFunctionCalls textCodec ((openedCut.chunked 0).map fun fragment => toolChunk [fragment]) =
        [⟨"weather", "\x7b\x7d"⟩, ⟨"", "\x7b\"city\":\"Oslo\"\x7d"⟩] ∧
      functionCalls (responseOpenAI2Gemini textCodec
          [⟨{ role := .assistant, toolCalls := some [openedCut.call] }, "tool_calls"⟩]) =
        [⟨"weather", "\x7b\"city\":\"Oslo\"\x7d"⟩] := by
  decide

end LoveApi.Proofs
