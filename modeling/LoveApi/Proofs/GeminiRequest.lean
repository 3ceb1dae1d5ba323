import LoveApi.GeminiConvert

/-!
# Tools in Gemini requests

A function response answers the earliest open call of its name. The conversion numbers the calls of each content from 1
and gives a response the number of calls before it in its own content.
-/

namespace LoveApi.Proofs

open List Option

variable {n : Nat}

variable {J : Type}
variable {codec : JsonCodec J} {request : GeminiRequest J} {result : ConvertedRequest}

def callName (part : GeminiPart J) : Option String :=
  if part.text = "" ∧ part.inlineData.isNone ∧ part.fileData.isNone then part.functionCall.map GeminiFunction.name
  else none

def responseName (part : GeminiPart J) : Option String :=
  if part.text = "" ∧ part.inlineData.isNone ∧ part.fileData.isNone ∧ part.functionCall.isNone then
    part.functionResponse.map GeminiFunction.name
  else none

def callNames (content : GeminiContent J) : List String := content.parts.filterMap callName

def responseNames (content : GeminiContent J) : List String := content.parts.filterMap responseName

def answerCalls : List (String × Nat) → List String → Option (List Nat × List (String × Nat))
  | pending, [] => some ([], pending)
  | pending, name :: rest =>
    match pending.find? fun call => call.1 = name with
    | none => none
    | some call => (answerCalls (pending.erase call) rest).map fun answered => (call.2 :: answered.1, answered.2)

/-- For every response the number of the call that it answers: the earliest open one of its name in an earlier content.
The calls are numbered over the whole request, from `next` on. -/
def matchAnswers : Nat → List (String × Nat) → List (GeminiContent J) → Option (List Nat)
  | _, _, [] => some []
  | next, pending, content :: rest =>
    match answerCalls pending (responseNames content) with
    | none => none
    | some answered =>
      let pending := answered.2 ++ (callNames content).zipIdx next
      (matchAnswers (next + (callNames content).length) pending rest).map (answered.1 ++ ·)

/-- The ids of the tool calls. -/
def toolCallIDs (messages : List Message) : List String :=
  messages.flatMap fun message => message.parseToolCalls.map ToolCallRequest.id

/-- The ids that the tool messages answer. -/
def answerIDs (messages : List Message) : List String :=
  (messages.filter fun message => message.role = .tool).map Message.toolCallId

/-- The first four stop sequences are kept. -/
def KeepsStop (codec : JsonCodec J) (request : GeminiRequest J) : Prop :=
  ∃ result, geminiToOpenAIRequest codec request = some result ∧
    result.stop = request.stopSequences.elems.take (min 4 request.stopSequences.elems.length)

/-- The ids are distinct, and each tool message carries the id of the call with its number in `answers`. -/
def LinksTools (messages : List Message) (answers : List Nat) : Prop :=
  (toolCallIDs messages).Nodup ∧
    (answerIDs messages).map some = answers.map fun i => (toolCallIDs messages)[i]?

/-- At most one content has calls, and none has responses. -/
def OneCaller (contents : List (GeminiContent J)) : Prop :=
  (∀ content ∈ contents, responseNames content = []) ∧
    contents.Pairwise fun content content' => callNames content = [] ∨ callNames content' = []

lemma toolCallID_injective : Function.Injective toolCallID := by
  intro m n h
  have hlist := congrArg String.toList h
  simp only [toolCallID, String.toList_append] at hlist
  have hdigits := congrArg (fun digits => Nat.ofDigitChars 10 digits 0) (append_cancel_left hlist)
  simpa [Nat.toString_eq_ofList_toDigits] using hdigits

def contentIDs (n : Nat) : List String := (List.range n).map fun i => toolCallID (i + 1)

lemma contentIDs_nodup : (contentIDs n).Nodup :=
  List.Nodup.map (fun _ _ h => Nat.succ_injective (toolCallID_injective h)) nodup_range

lemma contentIDs_disjoint_iff {m : Nat} : (contentIDs m).Disjoint (contentIDs n) ↔ m = 0 ∨ n = 0 := by
  have hfirst : ∀ k, k ≠ 0 → toolCallID 1 ∈ contentIDs k := fun k hk =>
    mem_map.mpr ⟨0, mem_range.mpr (Nat.pos_of_ne_zero hk), rfl⟩
  constructor
  · intro h
    by_contra hne
    obtain ⟨hm, hn⟩ := not_or.mp hne
    exact h (hfirst m hm) (hfirst n hn)
  · rintro (rfl | rfl)
    · exact disjoint_nil_left _
    · exact disjoint_nil_right _

section Parts

variable (codec : JsonCodec J)
variable {parts : List (GeminiPart J)} {state : PartsState}

lemma convertPart_cases (state : PartsState) (part : GeminiPart J) :
    (callName part = none ∧ responseName part = none ∧
      (convertPart codec state part).toolCalls = state.toolCalls ∧
      (convertPart codec state part).toolMessages = state.toolMessages) ∨
    (∃ name arguments, callName part = some name ∧ responseName part = none ∧
      (convertPart codec state part).toolCalls =
        state.toolCalls ++ [⟨toolCallID (state.toolCalls.length + 1), name, arguments⟩] ∧
      (convertPart codec state part).toolMessages = state.toolMessages) ∨
    (∃ name text, callName part = none ∧ responseName part = some name ∧
      (convertPart codec state part).toolCalls = state.toolCalls ∧
      (convertPart codec state part).toolMessages = state.toolMessages ++
        [{ role := .tool, content := .text text, toolCallId := toolCallID state.toolCalls.length }]) := by
  obtain ⟨text, inlineData, fileData, functionCall, functionResponse⟩ := part
  by_cases htext : text = ""
  · subst htext
    rcases inlineData with _ | data
    · rcases fileData with _ | file
      · rcases functionCall with _ | call
        · rcases functionResponse with _ | response
          · exact .inl ⟨rfl, rfl, rfl, rfl⟩
          · exact .inr (.inr ⟨response.name, codec.marshal response.value, rfl, rfl, rfl, rfl⟩)
        · exact .inr (.inl ⟨call.name, codec.marshal call.value, rfl, rfl, rfl, rfl⟩)
      · exact .inl ⟨rfl, rfl, rfl, rfl⟩
    · exact .inl ⟨rfl, rfl, rfl, rfl⟩
  · refine .inl ⟨if_neg fun h => htext h.1, if_neg fun h => htext h.1, ?_, ?_⟩ <;>
      simp only [convertPart, ne_eq, htext, not_false_eq_true, if_true]

/-- What the loop over the parts has collected once it has read `parts`. -/
structure PartsRead (parts : List (GeminiPart J)) (state : PartsState) : Prop where
  ids : state.toolCalls.map ToolCallRequest.id = contentIDs (parts.filterMap callName).length
  tools : ∀ message ∈ state.toolMessages, message.role = .tool ∧ message.parseToolCalls = []
  answers : state.toolMessages.length = (parts.filterMap responseName).length
  unlinked : parts.filterMap callName = [] → ∀ message ∈ state.toolMessages, message.toolCallId = toolCallID 0

lemma PartsRead.length_toolCalls (h : PartsRead parts state) :
    state.toolCalls.length = (parts.filterMap callName).length := by
  have hlength := congrArg length h.ids
  simpa [contentIDs] using hlength

lemma PartsRead.step (h : PartsRead parts state)
    (part : GeminiPart J) : PartsRead (parts ++ [part]) (convertPart codec state part) := by
  obtain ⟨hcall, hresponse, hcalls, hmessages⟩ | ⟨name, arguments, hcall, hresponse, hcalls, hmessages⟩ |
    ⟨name, text, hcall, hresponse, hcalls, hmessages⟩ := convertPart_cases codec state part
  · exact {
      ids := by simpa [hcalls, hcall] using h.ids
      tools := by simpa [hmessages] using h.tools
      answers := by simpa [hmessages, hresponse] using h.answers
      unlinked := by simpa [hmessages, hcall] using h.unlinked }
  · exact {
      ids := by simp [hcalls, hcall, h.ids, h.length_toolCalls, contentIDs, range_succ]
      tools := by simpa [hmessages] using h.tools
      answers := by simpa [hmessages, hresponse] using h.answers
      unlinked := by simp [hcall] }
  · refine ⟨by simpa [hcalls, hcall] using h.ids, ?_, by simp [hmessages, hresponse, h.answers], ?_⟩
    · intro message hmessage
      rw [hmessages, mem_append, mem_singleton] at hmessage
      rcases hmessage with hmessage | rfl
      · exact h.tools message hmessage
      · exact ⟨rfl, rfl⟩
    · intro hnone message hmessage
      replace hnone : parts.filterMap callName = [] := by simpa [hcall] using hnone
      rw [hmessages, mem_append, mem_singleton] at hmessage
      rcases hmessage with hmessage | rfl
      · exact h.unlinked hnone message hmessage
      · rw [h.length_toolCalls, hnone]
        rfl

/-- Every part of a content is converted as its kind says. -/
theorem convertParts_read (parts : List (GeminiPart J)) : PartsRead parts (convertParts codec parts) := by
  induction parts using reverseRecOn with
  | nil => exact ⟨rfl, fun _ h => absurd h not_mem_nil, rfl, fun _ _ h => absurd h not_mem_nil⟩
  | append_singleton parts part ih =>
    rw [convertParts, foldl_append]
    exact ih.step codec part

end Parts

section Contents

lemma toolCallIDs_append (messages messages' : List Message) :
    toolCallIDs (messages ++ messages') = toolCallIDs messages ++ toolCallIDs messages' :=
  flatMap_append

lemma answerIDs_append (messages messages' : List Message) :
    answerIDs (messages ++ messages') = answerIDs messages ++ answerIDs messages' := by
  rw [answerIDs, filter_append, map_append]
  rfl

lemma contentMessage_role (role : MessageRole) (state : PartsState) : (contentMessage role state).role = role := by
  unfold contentMessage
  split_ifs
  · rfl
  · split <;> rfl

lemma contentMessage_parseToolCalls (role : MessageRole) (state : PartsState) :
    (contentMessage role state).parseToolCalls = state.toolCalls := by
  unfold contentMessage
  split_ifs with h
  · rfl
  · rw [not_not.mp h]
    split <;> rfl

lemma convertGeminiRoleToOpenAI_ne_tool (role : GeminiRole) : convertGeminiRoleToOpenAI role ≠ .tool := by
  cases role <;> decide

variable (codec : JsonCodec J)

lemma toolCallIDs_convertContent (content : GeminiContent J) :
    toolCallIDs (convertContent codec content) = contentIDs (callNames content).length := by
  have hread := convertParts_read codec content.parts
  have htools : toolCallIDs (convertParts codec content.parts).toolMessages = [] :=
    flatMap_eq_nil_iff.mpr fun message h => by rw [(hread.tools message h).2, map_nil]
  rw [convertContent, toolCallIDs_append, htools, nil_append, contentMessage_parseToolCalls, callNames, ← hread.ids]
  split_ifs with h
  · simp [toolCallIDs, contentMessage_parseToolCalls]
  · rw [not_not.mp (not_or.mp h).2]
    rfl

lemma answerIDs_convertContent (content : GeminiContent J) :
    answerIDs (convertContent codec content) =
      (convertParts codec content.parts).toolMessages.map Message.toolCallId := by
  have hread := convertParts_read codec content.parts
  have htools : (convertParts codec content.parts).toolMessages.filter (fun message => message.role = .tool) =
      (convertParts codec content.parts).toolMessages :=
    filter_eq_self.mpr fun message h => decide_eq_true (hread.tools message h).1
  rw [convertContent, answerIDs_append, answerIDs, htools]
  split_ifs
  · simp [answerIDs, contentMessage_role, convertGeminiRoleToOpenAI_ne_tool]
  · exact append_nil _

lemma toolCallIDs_contents {contents : List (GeminiContent J)} :
    toolCallIDs (contents.flatMap (convertContent codec)) =
      contents.flatMap fun content => contentIDs (callNames content).length := by
  induction contents with
  | nil => rfl
  | cons content rest ih =>
    rw [flatMap_cons, toolCallIDs_append, ih, toolCallIDs_convertContent, flatMap_cons]

lemma answerIDs_contents {contents : List (GeminiContent J)} :
    answerIDs (contents.flatMap (convertContent codec)) =
      contents.flatMap fun content => answerIDs (convertContent codec content) := by
  induction contents with
  | nil => rfl
  | cons content rest ih => rw [flatMap_cons, answerIDs_append, ih, flatMap_cons]

lemma answerIDs_eq_nil_iff {content : GeminiContent J} :
    answerIDs (convertContent codec content) = [] ↔ responseNames content = [] := by
  rw [answerIDs_convertContent, map_eq_nil_iff, ← length_eq_zero_iff,
    (convertParts_read codec content.parts).answers, length_eq_zero_iff]
  rfl

lemma zero_mem_answerIDs {content : GeminiContent J} (hcalls : callNames content = [])
    (hresponses : responseNames content ≠ []) : toolCallID 0 ∈ answerIDs (convertContent codec content) := by
  have hne : (convertParts codec content.parts).toolMessages ≠ [] := by
    intro hnil
    refine hresponses ((answerIDs_eq_nil_iff codec).mp ?_)
    rw [answerIDs_convertContent, hnil, map_nil]
  obtain ⟨message, hmessage⟩ := exists_mem_of_ne_nil _ hne
  rw [answerIDs_convertContent, ← (convertParts_read codec content.parts).unlinked hcalls message hmessage]
  exact mem_map_of_mem hmessage

lemma nodup_contents_iff {contents : List (GeminiContent J)} :
    (contents.flatMap fun content => contentIDs (callNames content).length).Nodup ↔
      contents.Pairwise fun content content' => callNames content = [] ∨ callNames content' = [] := by
  rw [nodup_flatMap, and_iff_right fun content _ => contentIDs_nodup]
  refine List.Pairwise.iff fun {content content'} => ?_
  rw [Function.onFun_apply, contentIDs_disjoint_iff, length_eq_zero_iff, length_eq_zero_iff]

end Contents

section Matching

variable {next : Nat} {contents : List (GeminiContent J)}

lemma matchAnswers_of_no_responses {pending : List (String × Nat)}
    (h : ∀ content ∈ contents, responseNames content = []) : matchAnswers next pending contents = some [] := by
  induction contents generalizing next pending with
  | nil => rfl
  | cons content rest ih =>
    rw [matchAnswers, h content mem_cons_self]
    simp [answerCalls, ih fun content hcontent => h content (mem_cons_of_mem _ hcontent)]

lemma exists_unlinked {answers : List Nat}
    (hmatch : matchAnswers next [] contents = some answers)
    (hcallers : contents.Pairwise fun content content' => callNames content = [] ∨ callNames content' = [])
    (h : ∃ content ∈ contents, responseNames content ≠ []) :
    ∃ content ∈ contents, callNames content = [] ∧ responseNames content ≠ [] := by
  induction contents generalizing next answers with
  | nil =>
    obtain ⟨content, hcontent, -⟩ := h
    exact absurd hcontent not_mem_nil
  | cons first rest ih =>
    obtain ⟨hfirst, hrest⟩ := pairwise_cons.mp hcallers
    obtain ⟨content, hcontent, hne⟩ := h
    rw [matchAnswers] at hmatch
    rcases hresponses : responseNames first with _ | ⟨name, names⟩
    · have hmem : content ∈ rest := by
        rcases mem_cons.mp hcontent with rfl | hmem
        · exact absurd hresponses hne
        · exact hmem
      by_cases hcalls : callNames first = []
      · simp only [hresponses, hcalls, answerCalls, zipIdx_nil, append_nil, map_eq_some_iff] at hmatch
        obtain ⟨later, hlater, -⟩ := hmatch
        obtain ⟨content, hcontent, hunlinked⟩ := ih hlater hrest ⟨content, hmem, hne⟩
        exact ⟨content, mem_cons_of_mem _ hcontent, hunlinked⟩
      · exact ⟨content, hcontent, (hfirst content hmem).resolve_left hcalls, hne⟩
    · simp [hresponses, answerCalls] at hmatch

end Matching

def convertedStop (stopSequences : Go.Slice String) : Option (List String) :=
  if stopSequences.elems.length > 0 then stopSequences.upTo 4 else some []

lemma convertedStop_eq_take_iff {stopSequences : Go.Slice String} :
    convertedStop stopSequences =
        some (stopSequences.elems.take (min 4 stopSequences.elems.length)) ↔
      stopSequences.elems.length = 0 ∨ 4 ≤ stopSequences.elems.length := by
  obtain ⟨elems, spare⟩ := stopSequences
  unfold convertedStop Go.Slice.upTo
  constructor
  · -- four sequences come back, also when there are fewer
    intro h
    by_contra hfew
    rw [if_pos (by dsimp only at hfew ⊢; omega)] at h
    split_ifs at h with hcap
    have hlength := congrArg length (some.inj h)
    simp only [length_take, length_append] at hlength hfew hcap
    omega
  · rintro (hnone | hfour)
    · have helems : elems = [] := length_eq_zero_iff.mp hnone
      subst helems
      rfl
    · rw [if_pos (by omega), if_pos (by omega), take_append_of_le_length hfour, min_eq_left hfour]

lemma geminiToOpenAIRequest_eq_some_iff :
    geminiToOpenAIRequest codec request = some result ↔ convertedStop request.stopSequences = some result.stop ∧
      result.messages = (request.systemInstructions.map fun parts =>
        { role := .system, content := .text (extractTextFromGeminiParts parts) : Message }).toList ++
        request.contents.flatMap (convertContent codec) := by
  have hbind : geminiToOpenAIRequest codec request = (convertedStop request.stopSequences).bind fun stop =>
      some ⟨(request.systemInstructions.map fun parts =>
        { role := .system, content := .text (extractTextFromGeminiParts parts) : Message }).toList ++
        request.contents.flatMap (convertContent codec), stop⟩ := rfl
  rw [hbind, bind_eq_some_iff]
  constructor
  · rintro ⟨stop, hstop, hresult⟩
    rw [← some.inj hresult]
    exact ⟨hstop, rfl⟩
  · rintro ⟨hstop, hmessages⟩
    exact ⟨result.stop, hstop, congrArg some (by rw [← hmessages])⟩

lemma keepsStop_iff {codec : JsonCodec J} {request : GeminiRequest J} :
    KeepsStop codec request ↔
      request.stopSequences.elems.length = 0 ∨ 4 ≤ request.stopSequences.elems.length := by
  rw [← convertedStop_eq_take_iff]
  constructor
  · rintro ⟨result, hresult, hstop⟩
    rw [← hstop]
    exact (geminiToOpenAIRequest_eq_some_iff.mp hresult).1
  · intro hstop
    exact ⟨⟨_, _⟩, geminiToOpenAIRequest_eq_some_iff.mpr ⟨hstop, rfl⟩, rfl⟩

lemma ids_of_convert
    (h : geminiToOpenAIRequest codec request = some result) :
    toolCallIDs result.messages = (request.contents.flatMap fun content => contentIDs (callNames content).length) ∧
      answerIDs result.messages =
        request.contents.flatMap fun content => answerIDs (convertContent codec content) := by
  rw [(geminiToOpenAIRequest_eq_some_iff.mp h).2, toolCallIDs_append, answerIDs_append, toolCallIDs_contents,
    answerIDs_contents]
  rcases request.systemInstructions with _ | parts
  · exact ⟨rfl, rfl⟩
  · exact ⟨rfl, rfl⟩

lemma linksTools_iff {answers : List Nat}
    (hmatch : matchAnswers 0 [] request.contents = some answers)
    (hresult : geminiToOpenAIRequest codec request = some result) :
    LinksTools result.messages answers ↔ OneCaller request.contents := by
  obtain ⟨hcalls, hanswers⟩ := ids_of_convert hresult
  rw [LinksTools, OneCaller, hcalls, hanswers, nodup_contents_iff]
  constructor
  · rintro ⟨hcallers, hlinks⟩
    refine ⟨?_, hcallers⟩
    by_contra hresponses
    push Not at hresponses
    obtain ⟨content, hcontent, hnone, hne⟩ := exists_unlinked hmatch hcallers hresponses
    have hzero : toolCallID 0 ∈ request.contents.flatMap fun content => answerIDs (convertContent codec content) :=
      mem_flatMap.mpr ⟨content, hcontent, zero_mem_answerIDs codec hnone hne⟩
    have hlinked : some (toolCallID 0) ∈ answers.map _ := hlinks ▸ mem_map_of_mem hzero
    obtain ⟨i, -, hi⟩ := mem_map.mp hlinked
    obtain ⟨caller, -, hid⟩ := mem_flatMap.mp (mem_of_getElem? hi)
    obtain ⟨j, -, hj⟩ := mem_map.mp hid
    exact absurd (toolCallID_injective hj) (Nat.succ_ne_zero j)
  · rintro ⟨hnone, hcallers⟩
    rw [matchAnswers_of_no_responses hnone] at hmatch
    refine ⟨hcallers, ?_⟩
    rw [← some.inj hmatch, map_nil, map_eq_nil_iff, flatMap_eq_nil_iff]
    exact fun content hcontent => (answerIDs_eq_nil_iff codec).mpr (hnone content hcontent)

def twoCallsRequest : GeminiRequest String where
  contents := [⟨.user, [{ text := "And now?" }]⟩,
    ⟨.model, [{ functionCall := some ⟨"weather", "\x7b\x7d"⟩ }, { functionCall := some ⟨"time", "\x7b\x7d"⟩ }]⟩]
  stopSequences := { elems := ["a", "b", "c", "d", "e"] }

/-- Two calls in turn, each with its response in the next content. -/
def turnsRequest : GeminiRequest String where
  contents := [⟨.model, [{ functionCall := some ⟨"weather", "\x7b\x7d"⟩ }]⟩,
    ⟨.user, [{ functionResponse := some ⟨"weather", "\x7b\x7d"⟩ }]⟩,
    ⟨.model, [{ functionCall := some ⟨"time", "\x7b\x7d"⟩ }]⟩,
    ⟨.user, [{ functionResponse := some ⟨"time", "\x7b\x7d"⟩ }]⟩]

end LoveApi.Proofs
