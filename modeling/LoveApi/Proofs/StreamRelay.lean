import LoveApi.StreamRelay

/-!
# What a chat client gets of a stream

A line that starts with `[DONE]` is cut like a data line. A last chunk with usage is dropped with its tool calls.
-/

namespace LoveApi.Proofs

open Program Go List Option

variable {choices : List ChatChoice} {info : ThinkingContentInfo}

variable {line : String} {items : List String} {chunk : ChatChunk} {choice : ChatChoice}

/-! ### The lines -/

def dataContent (line : String) : Option String :=
  if hasPrefix line "data:" then some (trimSpace (String.ofList (line.toList.drop 5))) else none

/-- The line is the data line that ends the stream. -/
def endsData (line : String) : Bool := (dataContent line).any (hasPrefix · "[DONE]")

/-- What the handler should get: the contents of the data lines before the first line that ends the stream. -/
def payloads (lines : List String) : List String :=
  (lines.takeWhile fun line => !(line = "[DONE]" || endsData line)).filterMap fun line =>
    (dataContent line).filter (· ≠ "")

lemma exists_of_hasPrefix {s pre : String} (h : hasPrefix s pre = true) : ∃ tail, s = pre ++ tail := by
  obtain ⟨tail, htail⟩ := isPrefixOf_iff_prefix.mp h
  exact ⟨String.ofList tail, String.toList_injective (by simp [htail])⟩

lemma trimSpace_cons {c : Char} (hc : isSpace c = false) {l : List Char} :
    trimSpace (String.ofList (c :: l)) = String.ofList (c :: (l.reverse.dropWhile isSpace).reverse) := by
  have hlast : ∀ m : List Char, (m ++ [c]).dropWhile isSpace = m.dropWhile isSpace ++ [c] := by
    intro m
    induction m with
    | nil => simp [hc]
    | cons d m ih => by_cases hd : isSpace d <;> simp [hd, ih]
  simp [trimSpace, hc, hlast]

lemma scanLine_of_data (h : hasPrefix line "data:" = true) :
    ∃ data, dataContent line = some data ∧ hasPrefix line "[DONE]" = false ∧
      scanLine line = if data = "" then .skipped else if !hasPrefix data "[DONE]" then .delivered data else .done := by
  refine ⟨_, if_pos h, ?_, ?_⟩
  all_goals obtain ⟨tail, rfl⟩ := exists_of_hasPrefix h
  · simp [hasPrefix, isPrefixOf]
  · unfold scanLine
    by_cases hsize : ("data:" ++ tail).utf8ByteSize < 6
    · have htail : tail.utf8ByteSize = 0 := by
        rw [String.utf8ByteSize_append] at hsize
        have : "data:".utf8ByteSize = 5 := by decide
        omega
      obtain rfl : tail = "" := by simpa using htail
      decide
    · rw [if_neg hsize, h]
      simp only [Bool.not_true, Bool.false_and, Bool.false_eq_true, if_false]

lemma scanLine_of_done (h : hasPrefix line "[DONE]" = true) :
    dataContent line = none ∧ ∃ data, scanLine line = .delivered data := by
  obtain ⟨tail, rfl⟩ := exists_of_hasPrefix h
  refine ⟨by simp [dataContent, hasPrefix, isPrefixOf], ?_⟩
  have hsize : ¬("[DONE]" ++ tail).utf8ByteSize < 6 := by
    rw [String.utf8ByteSize_append]
    have : "[DONE]".utf8ByteSize = 6 := by decide
    omega
  have hdrop : ("[DONE]" ++ tail).toList.drop 5 = ']' :: tail.toList := by simp
  unfold scanLine
  rw [if_neg hsize, h, hdrop, trimSpace_cons (by decide)]
  simp [hasPrefix, isPrefixOf]

lemma scanLine_of_other (hdata : hasPrefix line "data:" = false) (hdone : hasPrefix line "[DONE]" = false) :
    dataContent line = none ∧ scanLine line = .skipped ∧ line ≠ "[DONE]" := by
  refine ⟨by simp [dataContent, hdata], by simp [scanLine, hdata, hdone], ?_⟩
  rintro rfl
  exact absurd hdone (by decide)

/-- The scanner delivers no less than it should, and it delivers just that if no line before the end of the data starts
with `[DONE]`. -/
lemma payloads_compare {lines : List String} :
    (payloads lines).length ≤ (streamScannerHandler lines).length ∧ (streamScannerHandler lines = payloads lines ↔
      ∀ line ∈ lines.takeWhile (!endsData ·), hasPrefix line "[DONE]" = false) := by
  induction lines with
  | nil => simp [payloads, streamScannerHandler]
  | cons line rest ih =>
    unfold payloads at ih ⊢
    unfold streamScannerHandler
    cases hdata : hasPrefix line "data:" with
    | true =>
      obtain ⟨data, hcontent, hdone, hscan⟩ := scanLine_of_data hdata
      have hne : line ≠ "[DONE]" := fun h => absurd hdone (by rw [h]; decide)
      by_cases hempty : data = ""
      · have hends : endsData line = false := by simp [endsData, hcontent, hempty, hasPrefix]
        simpa [hscan, hempty, hne, hends, hcontent, hdone] using ih
      · cases hends : hasPrefix data "[DONE]" with
        | true =>
          have hends : endsData line = true := by simp [endsData, hcontent, hends]
          simp [*]
        | false =>
          have hends' : endsData line = false := by simp [endsData, hcontent, hends]
          simpa [hscan, hempty, hne, hends, hends', hcontent, hdone, List.filterMap_cons, Option.filter] using ih
    | false =>
      have hends : ∀ h : dataContent line = none, endsData line = false := fun h => by simp [endsData, h]
      cases hdone : hasPrefix line "[DONE]" with
      | true =>
        obtain ⟨hcontent, data, hscan⟩ := scanLine_of_done hdone
        rw [hscan]
        simp only [takeWhile_cons, hends hcontent]
        by_cases hline : line = "[DONE]"
        · simp [hline, show hasPrefix "[DONE]" "[DONE]" = true by decide]
        have hlt := Nat.lt_succ_of_le ih.1
        simp only [hline, decide_false, Bool.or_self, Bool.not_false, if_true, filterMap_cons, hcontent,
          filter_none, length_cons]
        refine ⟨hlt.le, iff_of_false (fun h => ?_) fun h => ?_⟩
        · exact absurd (congrArg length h) (by simpa using hlt.ne')
        · simp [hdone] at h
      | false =>
        obtain ⟨hcontent, hscan, hne⟩ := scanLine_of_other hdata hdone
        simpa [hscan, hne, hcontent, hends hcontent, hdone] using ih

/-- The scanner delivers what it should exactly if no line before the end of the data starts with `[DONE]`. -/
theorem streamScannerHandler_eq_payloads_iff (lines : List String) : streamScannerHandler lines = payloads lines ↔
      ∀ line ∈ lines.takeWhile (!endsData ·), hasPrefix line "[DONE]" = false :=
  (payloads_compare).2

/-- The bare end mark is cut like a data line, and its last character is delivered. -/
theorem streamScannerHandler_delivers_bracket :
    streamScannerHandler ["[DONE]"] = ["]"] ∧ payloads ["[DONE]"] = [] := by
  decide

/-! ### The last chunk -/

section Passthrough

variable (settings : StreamSettings)

/-- A client that has not asked for the usage, on a channel that changes no chunk. -/
def passthrough : StreamSettings :=
  { settings with forceFormat := false, thinkingToContent := false, shouldIncludeUsage := false }

/-- A choice without text, tool calls and a finish reason. -/
def BareChoice (choice : ChatChoice) : Prop :=
  choice.delta.getContentString = "" ∧ choice.delta.getReasoningContent = "" ∧ choice.delta.toolCalls = [] ∧
    choice.finishReason = none

/-- Every payload is sent once and in order, except possibly a last one whose choices carry nothing. -/
def ForwardsAll (items : List String) (sent : List SentData) : Prop :=
  sent = items.map .string ∨ ∃ init last chunk, items = init ++ [last] ∧ settings.unmarshal last = some chunk ∧
    (∀ choice ∈ chunk.choices, BareChoice choice) ∧ sent = init.map .string

/-- The chunk has no valid usage, or something to read, or nothing at all. -/
def LastChunkKept (chunk : ChatChunk) : Prop :=
  validUsage chunk.usage = true → (∀ choice ∈ chunk.choices, choice.delta.getContentString = "" ∧
    choice.delta.getReasoningContent = "") → ∀ choice ∈ chunk.choices, BareChoice choice

lemma ne_empty_of_mem_streamScannerHandler (lines : List String) : ∀ item ∈ streamScannerHandler lines, item ≠ "" := by
  induction lines with
  | nil => simp [streamScannerHandler]
  | cons line rest ih =>
    unfold streamScannerHandler
    split
    · exact ih
    · next data hscan =>
      refine forall_mem_cons.mpr ⟨?_, ih⟩
      rintro rfl
      simp only [scanLine] at hscan
      split_ifs at hscan with _ _ hne
      exact hne (ScannedLine.delivered.inj hscan)
    · simp

lemma sendStreamData_passthrough (data : String) (info : ThinkingContentInfo) :
    sendStreamData (passthrough settings) data info = (if data = "" then [] else [.string data], info) := by
  by_cases hdata : data = "" <;> simp [sendStreamData, passthrough, hdata]

lemma feed_passthrough (h : ∀ item ∈ items, item ≠ "") :
    Emitter.feed (handleStreamData (passthrough settings)) items {} =
      (items.dropLast.map .string, { lastStreamData := items.getLast?.getD "" }) := by
  induction items using reverseRecOn with
  | nil => rfl
  | append_singleton items item ih =>
    have hitem := h item (by simp)
    rw [Emitter.feed_concat, ih fun other hother => h other (by simp [hother])]
    rcases eq_nil_or_concat items with rfl | ⟨init, last, rfl⟩
    · simp [handleStreamData, sendStreamData_passthrough, hitem]
    · have hlast := h last (by simp)
      simp [handleStreamData, sendStreamData_passthrough, hitem, hlast]

lemma shouldSendLastResp_iff {last : String} (hchunk : settings.unmarshal last = some chunk) :
    shouldSendLastResp (passthrough settings) last = false ↔ validUsage chunk.usage = true ∧
      ∀ choice ∈ chunk.choices, choice.delta.getContentString = "" ∧ choice.delta.getReasoningContent = "" := by
  cases husage : validUsage chunk.usage <;> simp [shouldSendLastResp, passthrough, hchunk, husage]

/-- The payloads are all sent, up to a last one that carries nothing, if and only if the last chunk does not have usage
and, beside it, only tool calls or a finish reason. -/
theorem oaiStreamHandler_forwardsAll_iff (lines : List String) :
    ForwardsAll settings (streamScannerHandler lines) (ChatClient.oaiStreamHandler (passthrough settings) lines) ↔
    ∀ last chunk, (streamScannerHandler lines).getLast? = some last → settings.unmarshal last = some chunk →
      LastChunkKept chunk := by
  have hne := ne_empty_of_mem_streamScannerHandler lines
  unfold ChatClient.oaiStreamHandler
  rw [feed_passthrough settings hne]
  rcases eq_nil_or_concat (streamScannerHandler lines) with hnil | ⟨init, last, hlast⟩
  · simp [hnil, ForwardsAll, sendStreamData_passthrough]
  rw [concat_eq_append] at hlast
  have hne : last ≠ "" := hne last (by simp [hlast])
  simp only [hlast, dropLast_concat, getLast?_concat, getD_some, sendStreamData_passthrough, hne,
    if_false, some.injEq]
  cases hsend : shouldSendLastResp (passthrough settings) last with
  | true =>
    refine iff_of_true (.inl (by simp)) ?_
    rintro _ chunk rfl hchunk husage hquiet
    have hfalse := (shouldSendLastResp_iff settings hchunk).mpr ⟨husage, hquiet⟩
    exact absurd hsend (by simp [hfalse])
  | false =>
    rw [if_neg (by simp), append_nil]
    constructor
    · rintro (hall | ⟨init', last', chunk', hsplit, hchunk', hbare, -⟩) _ chunk rfl hchunk husage hquiet
      · exact absurd (congrArg length hall) (by simp)
      · obtain ⟨-, rfl⟩ := append_singleton_inj.mp hsplit
        obtain rfl := some.inj (hchunk'.symm.trans hchunk)
        exact hbare
    · intro hkept
      cases hchunk : settings.unmarshal last with
      | none => simp [shouldSendLastResp, passthrough, hchunk] at hsend
      | some chunk =>
        obtain ⟨husage, hquiet⟩ := (shouldSendLastResp_iff settings hchunk).mp hsend
        exact .inr ⟨init, last, chunk, rfl, hchunk, hkept last chunk rfl hchunk husage hquiet, rfl⟩

/-- A last chunk with a tool call, its finish reason and the usage. -/
def finishedChunk : ChatChunk where
  choices := [{ delta := { toolCalls := [{ id := "call_1", function := ⟨"now", "\x7b\x7d"⟩ }] }
                finishReason := some "tool_calls" }]
  usage := some { promptTokens := 3, completionTokens := 5 }

/-- A last chunk with usage and a tool call is not sent. -/
theorem oaiStreamHandler_drops_toolCalls : ChatClient.oaiStreamHandler
      (passthrough { unmarshal := fun data => if data = "1" then some finishedChunk else none, unmarshal_empty := rfl })
      ["data: 1", "data: [DONE]"] = [] ∧ streamScannerHandler ["data: 1", "data: [DONE]"] = ["1"] ∧
    ¬∀ choice ∈ finishedChunk.choices, BareChoice choice := by
  refine ⟨by decide, by decide, ?_⟩
  simp [finishedChunk, BareChoice]

end Passthrough

/-! ### Reasoning as content -/

section Thinking

/-- The texts of a stream, the reasoning of a chunk before its content, marked as reasoning or not. -/
def pieces (choices : List ChatChoice) : List (Bool × String) :=
  choices.flatMap fun choice =>
    [(true, choice.delta.getReasoningContent), (false, choice.delta.getContentString)].filter (·.2 ≠ "")

/-- The texts without their marks. -/
def pieceText (texts : List (Bool × String)) : String := String.join (texts.map Prod.snd)

/-- The content that the client gets. -/
def sentContent (sent : List SentData) : String :=
  String.join (sent.map fun data => match data with
    | .string _ => ""
    | .object chunk => String.join (chunk.choices.map fun choice => choice.delta.getContentString))

/-- The text is kept, with a mark before the first reasoning, and one after the last if content follows. -/
def MarksThinking (texts : List (Bool × String)) (out : String) : Prop :=
  ∃ pre mid post, texts = pre ++ mid ++ post ∧ (∀ piece ∈ pre ++ post, piece.1 = false) ∧
    (∀ piece ∈ mid.head?, piece.1 = true) ∧ (∀ piece ∈ mid.getLast?, piece.1 = true) ∧
    out = pieceText pre ++ (if mid = [] then "" else "<think>\n") ++ pieceText mid ++
      (if mid = [] ∨ post = [] then "" else "\n</think>\n") ++ pieceText post

/-- Each payload is a chunk with one choice. -/
def SingleChoices (settings : StreamSettings) : List String → List ChatChoice → Prop :=
  List.Forall₂ fun item choice => ∃ chunk, settings.unmarshal item = some chunk ∧ chunk.choices = [choice]

/-- What a chunk with one choice adds to the content. -/
def speak (choice : ChatChoice) (info : ThinkingContentInfo) : String × ThinkingContentInfo :=
  let reasoning := choice.delta.getReasoningContent
  let ends := choice.delta.getContentString ≠ "" ∧ info.sendLastThinkingContent = false ∧
    info.hasSentThinkingContent = true
  if info.isFirstThinkingContent = true ∧ reasoning ≠ "" then
    ("<think>\n" ++ reasoning, { info with isFirstThinkingContent := false, hasSentThinkingContent := true })
  else ((if ends then "\n</think>\n" else "") ++
      (if reasoning ≠ "" then reasoning else choice.delta.getContentString),
    { info with sendLastThinkingContent := info.sendLastThinkingContent || ends })

/-- What the chunks add to the content, one after the other. -/
def speakAll : List ChatChoice → ThinkingContentInfo → String × ThinkingContentInfo
  | [], info => ("", info)
  | choice :: rest, info => ((speak choice info).1 ++ (speakAll rest (speak choice info).2).1,
      (speakAll rest (speak choice info).2).2)

lemma speakAll_append {choices' : List ChatChoice} :
    speakAll (choices ++ choices') info = ((speakAll choices info).1 ++ (speakAll choices' (speakAll choices info).2).1,
      (speakAll choices' (speakAll choices info).2).2) := by
  induction choices generalizing info with
  | nil => simp [speakAll]
  | cons choice rest ih => simp [speakAll, ih, String.append_assoc]

lemma sentContent_append (sent sent' : List SentData) :
    sentContent (sent ++ sent') = sentContent sent ++ sentContent sent' := by
  simp [sentContent, String.join_append]

lemma sentContent_replaceContent {text : String} (h : chunk.choices = [choice]) :
    sentContent [.object (chunk.replaceContent text)] = text := by
  simp [sentContent, ChatChunk.replaceContent, h, ChatDelta.replaceContent, ChatDelta.getContentString]

lemma thinkToContent_eq (h : chunk.choices = [choice]) :
    (sentContent (thinkToContent chunk info).1, (thinkToContent chunk info).2) = speak choice info := by
  by_cases hfirst : info.isFirstThinkingContent = true ∧ choice.delta.getReasoningContent ≠ ""
  · simp [thinkToContent, speak, h, hfirst, sentContent_replaceContent]
  unfold thinkToContent speak
  rw [if_neg (by simpa [h] using hfirst), if_neg hfirst]
  rw [sentContent_append]
  refine Prod.ext (congrArg₂ (· ++ ·) ?_ ?_) ?_
  · by_cases hends : choice.delta.getContentString ≠ "" ∧ info.sendLastThinkingContent = false ∧
        info.hasSentThinkingContent = true
    · simp [h, hends, sentContent_replaceContent h]
    · rw [if_neg hends, if_neg (by simpa [h, and_assoc] using hends)]
      rfl
  · simp only [h, map_singleton, sentContent, String.join_cons, String.join_nil, String.append_empty]
    split_ifs <;> rfl
  · simp [h, Bool.and_assoc]

lemma feed_sendStreamData {settings : StreamSettings} (hthink : settings.thinkingToContent = true)
    (h : SingleChoices settings items choices) :
    (sentContent (Emitter.feed (sendStreamData settings) items info).1,
      (Emitter.feed (sendStreamData settings) items info).2) = speakAll choices info := by
  induction h generalizing info with
  | nil => rfl
  | @cons item choice items choices hitem _ ih =>
    obtain ⟨chunk, hchunk, hchoice⟩ := hitem
    have hdata : item ≠ "" := by
      rintro rfl
      rw [settings.unmarshal_empty] at hchunk
      cases hchunk
    have hsend : sendStreamData settings item info = thinkToContent chunk info := by
      simp [sendStreamData, hdata, hthink, hchunk]
    simp only [Emitter.feed, Emitter.andThen, speakAll, ← thinkToContent_eq hchoice, hsend, sentContent_append, ← ih]

section Phases

variable {b : Bool} {after : ThinkingContentInfo} {mark : String}

/-- The reasoning or the content of a choice. -/
def part (b : Bool) (choice : ChatChoice) : String :=
  if b then choice.delta.getReasoningContent else choice.delta.getContentString

lemma pieces_cons (h : part (!b) choice = "") {rest : List ChatChoice} :
    pieces (choice :: rest) = if part b choice = "" then pieces rest else (b, part b choice) :: pieces rest := by
  by_cases hpart : part b choice = "" <;> cases b <;> simp_all [pieces, part]

variable (h : ∀ choice ∈ choices, part (!b) choice = "")

include h

lemma mem_pieces : ∀ piece ∈ pieces choices, piece.1 = b := by
  induction choices with
  | nil => simp [pieces]
  | cons choice rest ih =>
    rw [pieces_cons (h choice mem_cons_self)]
    have hrest := ih fun other hother => h other (mem_cons_of_mem _ hother)
    split <;> simpa using hrest

lemma speakAll_plain (hspeak : ∀ choice, part (!b) choice = "" → speak choice info = (part b choice, info)) :
    speakAll choices info = (pieceText (pieces choices), info) := by
  induction choices with
  | nil => rfl
  | cons choice rest ih =>
    have hchoice := h choice mem_cons_self
    rw [speakAll, hspeak choice hchoice, ih fun other hother => h other (mem_cons_of_mem _ hother),
      pieces_cons hchoice]
    split <;> simp_all [pieceText, String.join_cons]

lemma speakAll_marked (hquiet : ∀ choice, part (!b) choice = "" → part b choice = "" → speak choice info = ("", info))
    (hfirst : ∀ choice, part (!b) choice = "" → part b choice ≠ "" →
      speak choice info = (mark ++ part b choice, after))
    (hspeak : ∀ choice, part (!b) choice = "" → speak choice after = (part b choice, after)) :
    speakAll choices info =
      if pieces choices = [] then ("", info) else (mark ++ pieceText (pieces choices), after) := by
  induction choices with
  | nil => rfl
  | cons choice rest ih =>
    have hchoice := h choice mem_cons_self
    have hrest : ∀ other ∈ rest, part (!b) other = "" := fun other hother => h other (mem_cons_of_mem _ hother)
    rw [speakAll, pieces_cons hchoice]
    by_cases hpart : part b choice = ""
    · simp [hquiet choice hchoice hpart, hpart, ih hrest]
    · simp [hfirst choice hchoice hpart, hpart, speakAll_plain hrest hspeak, pieceText, String.join_cons,
        String.append_assoc]

end Phases

/-- The state once reasoning was sent. -/
def thinkingStarted : ThinkingContentInfo := { isFirstThinkingContent := false, hasSentThinkingContent := true }

lemma speakAll_reasoning (h : ∀ choice ∈ choices, part false choice = "") : speakAll choices {} =
      if pieces choices = [] then ("", {}) else ("<think>\n" ++ pieceText (pieces choices), thinkingStarted) := by
  refine speakAll_marked (b := true) h ?_ ?_ ?_
  · intro choice hother hpart
    simp_all [speak, part]
  · intro choice hother hpart
    simp_all [speak, part, thinkingStarted]
  · intro choice hother
    by_cases hpart : part true choice = "" <;> simp_all [speak, part, thinkingStarted]

lemma speakAll_content (h : ∀ choice ∈ choices, part true choice = "") :
    speakAll choices {} = (pieceText (pieces choices), {}) :=
  speakAll_plain (b := false) h fun choice hother => by simp_all [speak, part]

lemma speakAll_ending (h : ∀ choice ∈ choices, part true choice = "") :
    speakAll choices thinkingStarted = if pieces choices = [] then ("", thinkingStarted)
      else ("\n</think>\n" ++ pieceText (pieces choices),
        { thinkingStarted with sendLastThinkingContent := true }) := by
  refine speakAll_marked (b := false) h ?_ ?_ ?_
  · intro choice hother hpart
    simp_all [speak, part]
  · intro choice hother hpart
    simp_all [speak, part, thinkingStarted]
  · intro choice hother
    simp_all [speak, part]

/-- If the chunks with reasoning follow each other and carry no content, the content that is sent is the text of the
stream with marks around the reasoning. -/
theorem sendStreamData_marksThinking {settings : StreamSettings} (hthink : settings.thinkingToContent = true)
    {items : List String} {pre mid post : List ChatChoice}
    (hitems : SingleChoices settings items (pre ++ mid ++ post))
    (hpre : ∀ choice ∈ pre, choice.delta.getReasoningContent = "")
    (hmid : ∀ choice ∈ mid, choice.delta.getContentString = "")
    (hpost : ∀ choice ∈ post, choice.delta.getReasoningContent = "") :
    MarksThinking (pieces (pre ++ mid ++ post)) (sentContent (Emitter.feed (sendStreamData settings) items {}).1) := by
  refine ⟨pieces pre, pieces mid, pieces post, by simp [pieces], ?_, ?_, ?_, ?_⟩
  · simp only [mem_append]
    rintro piece (hpiece | hpiece)
    · exact mem_pieces hpre piece hpiece
    · exact mem_pieces hpost piece hpiece
  · exact fun piece hpiece => mem_pieces hmid piece (mem_of_mem_head? hpiece)
  · exact fun piece hpiece => mem_pieces hmid piece (mem_of_mem_getLast? hpiece)
  · have hout : sentContent (Emitter.feed (sendStreamData settings) items {}).1 =
        (speakAll (pre ++ mid ++ post) {}).1 := congrArg Prod.fst (feed_sendStreamData hthink hitems)
    rw [hout, speakAll_append, speakAll_append, speakAll_content hpre, speakAll_reasoning hmid]
    by_cases hnone : pieces mid = []
    · simp [hnone, speakAll_content hpost, pieceText]
    · simp only [hnone, if_false, false_or, speakAll_ending hpost]
      by_cases hend : pieces post = [] <;> simp [hend, String.append_assoc, pieceText]

/-- Payloads of one letter: `r` for reasoning, `c` for content and `b` for both. -/
def thinkingSettings : StreamSettings where
  unmarshal data :=
    if data = "r" then some { choices := [{ delta := { reasoningContent := some "why" } }] }
    else if data = "c" then some { choices := [{ delta := { content := some "so" } }] }
    else if data = "b" then some { choices := [{ delta := { reasoningContent := some "why", content := some "so" } }] }
    else none
  unmarshal_empty := rfl
  thinkingToContent := true

/-- Reasoning and then content. -/
theorem sendStreamData_marksThinking_two : MarksThinking [(true, "why"), (false, "so")]
      (sentContent (Emitter.feed (sendStreamData thinkingSettings) ["r", "c"] {}).1) := by
  have hitems : SingleChoices thinkingSettings ["r", "c"]
      ([] ++ [{ delta := { reasoningContent := some "why" } }] ++ [{ delta := { content := some "so" } }]) :=
    .cons ⟨_, rfl, rfl⟩ (.cons ⟨_, rfl, rfl⟩ .nil)
  exact sendStreamData_marksThinking rfl hitems (by simp) (by decide) (by decide)

/-- The content of the first chunk with reasoning is lost. -/
theorem sendStreamData_loses_content :
    SingleChoices thinkingSettings ["b"] [{ delta := { reasoningContent := some "why", content := some "so" } }] ∧
    pieces [{ delta := { reasoningContent := some "why", content := some "so" } }] = [(true, "why"), (false, "so")] ∧
    sentContent (Emitter.feed (sendStreamData thinkingSettings) ["b"] {}).1 = "<think>\nwhy" :=
  ⟨.cons ⟨_, rfl, rfl⟩ .nil, by decide, by decide⟩

end Thinking

end LoveApi.Proofs
