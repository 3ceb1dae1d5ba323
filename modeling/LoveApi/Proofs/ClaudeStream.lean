import LoveApi.ClaudeStream
import LoveApi.Program.Blocks

/-!
# The frame of a Claude event stream

A message is opened by the first chunk and closed by the chunk with the usage, and every started block is stopped if no
tool call that is read starts a block before the ones that are open.
-/

namespace LoveApi.Proofs

open Program Go List Option

variable {events : List ClaudeEvent} {info : ClaudeConvertInfo} {ok : Prop}

variable {count : Nat} {usage : Option Usage} {chunk : ChatChunk}

/-! ### Events of a message -/

/-- The events that start and stop the blocks of a message. -/
def contentBlocks : BlockEvents ClaudeEvent where
  startIndex
    | .contentBlockStart index _ => some index
    | _ => none
  stop := .contentBlockStop
  stop_injective _ _ h := by cases h; rfl
  startIndex_stop _ := rfl

def isMessageStart : ClaudeEvent → Bool
  | .messageStart _ _ _ => true
  | _ => false

/-- There is one `message_start`, which comes first. -/
def StartsOnce (events : List ClaudeEvent) : Prop :=
  ∃ first rest, events = first :: rest ∧ isMessageStart first = true ∧ ∀ e ∈ rest, isMessageStart e = false

/-- One `message_start`, which comes first, one `message_stop`, which comes last, and every `content_block_start` has
exactly one later `content_block_stop` with its index. -/
structure WellFormed (events : List ClaudeEvent) : Prop where
  start : StartsOnce events
  stop : ∃ front, events = front ++ [.messageStop] ∧ .messageStop ∉ front
  blocks : ∀ before index block after, events = before ++ .contentBlockStart index block :: after →
    after.count (.contentBlockStop index) = 1

lemma StartsOnce.append (h : StartsOnce events) {more : List ClaudeEvent}
    (hmore : ∀ e ∈ more, isMessageStart e = false) : StartsOnce (events ++ more) := by
  obtain ⟨first, rest, rfl, hfirst, hrest⟩ := h
  refine ⟨first, rest ++ more, rfl, hfirst, fun e he => ?_⟩
  rcases mem_append.mp he with he | he
  · exact hrest e he
  · exact hmore e he

lemma StartsOnce.countP (h : StartsOnce events) : events.countP isMessageStart = 1 := by
  obtain ⟨first, rest, rfl, hfirst, hrest⟩ := h
  rw [countP_cons_of_pos hfirst, countP_eq_zero.mpr fun e he => by simp [hrest e he]]

/-- A second `message_start` in front of a stream is one too many. -/
lemma StartsOnce.tail {e : ClaudeEvent} (h : StartsOnce (e :: events)) : ¬StartsOnce events := by
  obtain ⟨_, _, heq, -, hrest⟩ := h
  rintro ⟨first, rest, rfl, hfirst, -⟩
  cases heq
  simp [hrest first mem_cons_self] at hfirst

lemma WellFormed.messageStop_mem (h : WellFormed events) : .messageStop ∈ events := by
  obtain ⟨front, rfl, -⟩ := h.stop
  simp

/-- A message that is not closed yet, whose blocks from `lo` to `hi` may be open. -/
structure OpenMessage (ok : Prop) (lo hi : Int) (events : List ClaudeEvent) : Prop where
  start : StartsOnce events
  noStop : .messageStop ∉ events
  range : contentBlocks.OpenRange ok lo hi events

/-- A message that is closed; `ok` says whether its blocks are stopped rightly. -/
structure ClosedMessage (ok : Prop) (events : List ClaudeEvent) : Prop where
  start : StartsOnce events
  wellFormed : WellFormed events ↔ ok

namespace OpenMessage

variable {lo hi hi' : Int}

lemma append_range (h : OpenMessage ok lo hi events) {ok' : Prop} {lo' : Int} {more : List ClaudeEvent}
    (hmore : ∀ e ∈ more, isMessageStart e = false ∧ e ≠ .messageStop)
    (hrange : contentBlocks.OpenRange ok' lo' hi' (events ++ more)) : OpenMessage ok' lo' hi' (events ++ more) where
  start := h.start.append fun e he => (hmore e he).1
  noStop hmem := by
    rcases mem_append.mp hmem with hmem | hmem
    · exact h.noStop hmem
    · exact (hmore _ hmem).2 rfl
  range := hrange

lemma widen (h : OpenMessage ok lo hi events) (hle : hi ≤ hi') : OpenMessage ok lo hi' events :=
  ⟨h.start, h.noStop, h.range.widen hle⟩

/-- An event that neither starts nor stops anything. -/
lemma append (h : OpenMessage ok lo hi events) {e : ClaudeEvent} (hmore : isMessageStart e = false ∧ e ≠ .messageStop)
    (hstart : contentBlocks.startIndex e = none) (hstop : ∀ i, e ≠ contentBlocks.stop i) :
    OpenMessage ok lo hi (events ++ [e]) := by
  refine h.append_range (by simpa using hmore) ?_
  simpa [hstart] using h.range.append hstop le_rfl (by simp [hstart])

lemma delta (h : OpenMessage ok lo hi events) (index : Int) (delta : BlockDelta) :
    OpenMessage ok lo hi (events ++ [.contentBlockDelta index delta]) :=
  h.append (by simp [isMessageStart]) rfl (by simp [contentBlocks])

lemma block (h : OpenMessage ok lo hi events) {index : Int} (block : ContentBlock) (hle : hi ≤ hi')
    (hlt : index < hi') : OpenMessage (ok ∧ lo ≤ index) lo hi' (events ++ [.contentBlockStart index block]) := by
  refine h.append_range (by simp [isMessageStart]) ?_
  simpa [contentBlocks] using
    h.range.append (e := .contentBlockStart index block) (by simp [contentBlocks]) hle (by simpa [contentBlocks])

lemma stopAll (h : OpenMessage ok lo hi events) (n : Nat) : OpenMessage ok (lo + n) hi
    (events ++ (List.range n).map fun offset : Nat => generateStopBlock (lo + offset)) :=
  h.append_range (by simp [isMessageStart, generateStopBlock]) (h.range.stopAll n)

lemma closed (h : OpenMessage ok lo lo events) (usage : Option ClaudeUsage) (stopReason : String) :
    ClosedMessage ok
      (events ++ (usage.map fun usage => ClaudeEvent.messageDelta usage stopReason).toList ++ [.messageStop]) := by
  set more := (usage.map fun usage => ClaudeEvent.messageDelta usage stopReason).toList with hmore
  have hdelta : OpenMessage ok lo lo (events ++ more) := by
    cases usage with
    | none => simpa [hmore] using h
    | some usage => exact h.append (by simp [isMessageStart]) rfl (by simp [contentBlocks])
  have hstart : StartsOnce (events ++ more ++ [.messageStop]) := hdelta.start.append (by simp [isMessageStart])
  refine ⟨hstart, ?_⟩
  rw [← hdelta.range.settled_iff]
  constructor
  · intro h before e after hsplit i hi
    obtain ⟨block, rfl⟩ : ∃ block, e = .contentBlockStart i block := by
      cases e <;> simp_all [contentBlocks]
    have hcount := h.blocks before i block (after ++ [.messageStop]) (by simp [hsplit])
    simpa [contentBlocks, count_append] using hcount
  · refine fun h => ⟨hstart, ⟨_, rfl, hdelta.noStop⟩, fun before index block after hsplit => ?_⟩
    rcases append_singleton_eq_append_cons hsplit with ⟨rest, heq, rfl⟩ | ⟨-, heq, -⟩
    · simpa [contentBlocks] using h before _ rest heq index rfl
    · cases heq

end OpenMessage

/-! ### The steps of the conversion -/

section

variable {type : LastMessageType} {choice : ChatChoice}

/-- The first block that is open. -/
def lowIndex (info : ClaudeConvertInfo) : Int :=
  match info.lastMessagesType with
  | .tools => info.toolCallBaseIndex
  | _ => info.index

/-- What the conversion of a chunk leaves as it is before it closes the message. -/
structure Steady (count : Nat) (usage : Option Usage) (info : ClaudeConvertInfo) : Prop where
  offset : 0 ≤ info.toolCallMaxIndexOffset
  notDone : info.done = false
  count : info.sendResponseCount = count
  usage : info.usage = usage

structure Converting (ok : Prop) (count : Nat) (usage : Option Usage) (events : List ClaudeEvent)
    (info : ClaudeConvertInfo) : Prop where
  message : OpenMessage ok (lowIndex info) (advance info).index events
  steady : Steady count usage info

/-- The message is closed exactly if `closes` holds. -/
def Converted (closes ok : Prop) (count : Nat) (usage : Option Usage) (events : List ClaudeEvent)
    (info : ClaudeConvertInfo) : Prop :=
  closes ∧ info.done = true ∧ ClosedMessage ok events ∨ ¬closes ∧ Converting ok count usage events info

lemma Converted.start {closes : Prop} (h : Converted closes ok count usage events info) : StartsOnce events := by
  rcases h with ⟨-, -, h⟩ | ⟨-, h⟩
  · exact h.start
  · exact h.message.start

lemma lowIndex_of_none (h : info.lastMessagesType = .none) : lowIndex info = info.index := by
  rw [lowIndex, h]

lemma advance_of_none (h : info.lastMessagesType = .none) : advance info = info := by
  rw [advance, h]

lemma advance_type : (advance info).lastMessagesType = .none := by
  unfold advance
  split <;> simp_all

lemma Steady.advance (h : Steady count usage info) : Steady count usage (advance info) := by
  unfold LoveApi.advance
  split
  · exact h
  · exact ⟨le_rfl, h.notDone, h.count, h.usage⟩
  · exact ⟨h.offset, h.notDone, h.count, h.usage⟩
  · exact ⟨h.offset, h.notDone, h.count, h.usage⟩

variable (h : Converting ok count usage events info)

include h

lemma Converting.stopOpenBlocks :
    OpenMessage ok (advance info).index (advance info).index (events ++ stopOpenBlocks info) := by
  have hmessage := h.message
  unfold LoveApi.stopOpenBlocks
  cases htype : info.lastMessagesType with
  | none => simpa [lowIndex, advance, htype] using hmessage
  | text | thinking =>
    simp only [lowIndex, advance, htype] at hmessage ⊢
    simpa using hmessage.stopAll 1
  | tools =>
    have hlen : info.toolCallBaseIndex + info.toolCallMaxIndexOffset + 1 =
        info.toolCallBaseIndex + ((info.toolCallMaxIndexOffset + 1).toNat : Int) := by
      have := h.steady.offset
      omega
    simp only [lowIndex, advance, htype] at hmessage ⊢
    rw [hlen] at hmessage ⊢
    exact hmessage.stopAll _

lemma Converting.advance :
    Converting ok count usage (events ++ LoveApi.stopOpenBlocks info) (LoveApi.advance info) where
  message := by
    rw [lowIndex_of_none advance_type, advance_of_none advance_type]
    exact h.stopOpenBlocks
  steady := h.steady.advance

lemma Converting.block (block : ContentBlock)
    (htype : type = .text ∨ type = .thinking) (hlast : info.lastMessagesType = .none ∨ info.lastMessagesType = type) :
    Converting ok count usage (events ++ [.contentBlockStart info.index block])
      { info with lastMessagesType := type } := by
  have hnext : (LoveApi.advance { info with lastMessagesType := type }).index = info.index + 1 := by
    rcases htype with rfl | rfl <;> rfl
  have hlow : lowIndex { info with lastMessagesType := type } = info.index := by
    rcases htype with rfl | rfl <;> rfl
  have hmessage : OpenMessage ok info.index (info.index + 1) events := by
    have hmessage := h.message
    rcases hlast with hlast | rfl
    · rw [lowIndex_of_none hlast, advance_of_none hlast] at hmessage
      exact hmessage.widen (by omega)
    · rwa [hnext, hlow] at hmessage
  refine ⟨?_, h.steady.offset, h.steady.notDone, h.steady.count, h.steady.usage⟩
  rw [hnext, hlow]
  simpa using hmessage.block block le_rfl (lt_add_one info.index)

lemma Converting.delta (index : Int) (delta : BlockDelta) :
    Converting ok count usage (events ++ [.contentBlockDelta index delta]) info :=
  ⟨h.message.delta index delta, h.steady⟩

omit h in
lemma keeps_laterBlock (htype : type = .text ∨ type = .thinking) {block : ContentBlock}
    {delta : BlockDelta} : Emitter.Keeps (Converting ok count usage) (laterBlock type block delta) := by
  intro events info h
  unfold laterBlock Emitter.andThen
  by_cases hlast : info.lastMessagesType = type
  · simpa [hlast, Emitter.skip] using h.delta info.index delta
  · have hblock := h.advance.block block htype (.inl advance_type)
    simpa [hlast] using hblock.delta (LoveApi.advance info).index delta

omit h in
lemma keeps_skip : Emitter.Keeps (Converting ok count usage) Emitter.skip := by
  intro events info h
  simpa [Emitter.skip] using h

structure InTools (ok : Prop) (count : Nat) (usage : Option Usage) (events : List ClaudeEvent)
    (info : ClaudeConvertInfo) : Prop where
  message : OpenMessage ok info.toolCallBaseIndex (info.toolCallBaseIndex + info.toolCallMaxIndexOffset + 1) events
  type : info.lastMessagesType = .tools
  steady : Steady count usage info

lemma Converting.inTools : InTools ok count usage (events ++ (openTools info).1) (openTools info).2 := by
  unfold openTools
  by_cases hlast : info.lastMessagesType = .tools
  · simp only [hlast, ne_eq, not_true_eq_false, if_false, Emitter.skip, append_nil]
    refine ⟨?_, hlast, h.steady⟩
    simpa only [lowIndex, LoveApi.advance, hlast] using h.message
  · simp only [hlast, ne_eq, not_false_eq_true, if_true]
    have hsteady := h.steady.advance
    exact ⟨h.stopOpenBlocks.widen (by show _ ≤ (LoveApi.advance info).index + 0 + 1; omega), rfl, le_rfl,
      hsteady.notDone, hsteady.count, hsteady.usage⟩

/-- A fragment with a name starts its block, which is not before the first one of the tools. -/
def StartsForward (fragment : ToolCallResponse × Nat) : Prop :=
  fragment.1.function.name ≠ "" → 0 ≤ fragmentOffset fragment.2 fragment.1

omit h in
lemma InTools.toolFragment (h : InTools ok count usage events info) (fragment : ToolCallResponse × Nat) :
    InTools (ok ∧ StartsForward fragment) count usage (events ++ (LoveApi.toolFragment fragment info).1)
      (LoveApi.toolFragment fragment info).2 := by
  set offset := fragmentOffset fragment.2 fragment.1 with hoffset
  set top := info.toolCallBaseIndex + max info.toolCallMaxIndexOffset offset + 1 with htop
  have hle : info.toolCallBaseIndex + info.toolCallMaxIndexOffset + 1 ≤ top := by omega
  have hstarted : OpenMessage (ok ∧ StartsForward fragment) info.toolCallBaseIndex top
      (events ++ if fragment.1.function.name ≠ "" then [.contentBlockStart (info.toolCallBaseIndex + offset)
        (.toolUse fragment.1.id fragment.1.function.name)] else []) := by
    by_cases hname : fragment.1.function.name = ""
    · simpa [StartsForward, hname] using h.message.widen hle
    · simpa [StartsForward, hname, ← hoffset] using
        h.message.block (.toolUse fragment.1.id fragment.1.function.name) hle
          (show info.toolCallBaseIndex + offset < top by omega)
  refine ⟨?_, h.type, le_trans h.steady.offset (le_max_left _ _), h.steady.notDone, h.steady.count, h.steady.usage⟩
  show OpenMessage _ info.toolCallBaseIndex top (events ++ fragmentEvents info.toolCallBaseIndex fragment.2 fragment.1)
  rw [fragmentEvents, ← append_assoc]
  split_ifs at hstarted ⊢
  all_goals first | exact hstarted.delta _ _ | rwa [append_nil]

omit h in
lemma InTools.feed (h : InTools ok count usage events info) (fragments : List (ToolCallResponse × Nat)) :
    InTools (ok ∧ ∀ fragment ∈ fragments, StartsForward fragment) count usage
      (events ++ (Emitter.feed LoveApi.toolFragment fragments info).1)
      (Emitter.feed LoveApi.toolFragment fragments info).2 := by
  induction fragments generalizing ok events info with
  | nil => simpa [Emitter.feed, Emitter.skip] using h
  | cons fragment fragments ih =>
    rw [Emitter.feed, Emitter.andThen, ← append_assoc]
    simpa only [and_assoc, forall_mem_cons] using ih (h.toolFragment fragment)

lemma Converting.laterContent (choice : ChatChoice) :
    Converting (ok ∧ ∀ fragment ∈ choice.delta.toolCalls.zipIdx, StartsForward fragment) count usage
      (events ++ (LoveApi.laterContent choice info).1) (LoveApi.laterContent choice info).2 := by
  by_cases hcalls : choice.delta.toolCalls = []
  · have hkeeps : Emitter.Keeps (Converting ok count usage) (LoveApi.laterContent choice) := by
      unfold LoveApi.laterContent
      dsimp only
      rw [if_neg (not_not.mpr hcalls)]
      split_ifs
      · exact keeps_laterBlock (.inr rfl)
      · exact keeps_laterBlock (.inl rfl)
      · exact keeps_skip
    simpa [hcalls] using hkeeps events info h
  · have hrun := h.inTools.feed choice.delta.toolCalls.zipIdx
    simp only [LoveApi.laterContent, ne_eq, hcalls, not_false_eq_true, if_true, laterToolCalls, Emitter.andThen,
      append_nil, append_assoc] at hrun ⊢
    refine ⟨?_, hrun.steady.offset, hrun.steady.notDone, hrun.steady.count, hrun.steady.usage⟩
    simpa only [lowIndex, LoveApi.advance, hrun.type] using hrun.message

lemma Converting.stopMessage (usage' : Option Usage) (stopReason : String) :
    (LoveApi.stopMessage usage' stopReason info).2.done = true ∧
      ClosedMessage ok (events ++ (LoveApi.stopMessage usage' stopReason info).1) := by
  refine ⟨rfl, ?_⟩
  have hclosed := h.stopOpenBlocks.closed (usage'.map buildClaudeUsageFromOpenAIUsage) stopReason
  simpa [LoveApi.stopMessage, Option.map_map, Function.comp_def] using hclosed

lemma Converting.congr (usage' : Option Usage) (finishReason : String) (count' : Nat) :
    Converting ok count' usage' events
      { info with usage := usage', finishReason := finishReason, sendResponseCount := count' } := by
  refine ⟨?_, h.steady.offset, h.steady.notDone, rfl, rfl⟩
  have hmessage := h.message
  cases htype : info.lastMessagesType <;> simpa only [lowIndex, LoveApi.advance, htype] using hmessage

lemma Converting.named (finishReason : String) :
    Converting ok count usage events { info with finishReason := finishReason } := by
  simpa [h.steady.count, h.steady.usage] using h.congr info.usage finishReason info.sendResponseCount

/-- The tool calls that the conversion of a later chunk looks at: those of the first choice, unless it is put off. -/
def readToolCalls (chunk : ChatChunk) : List ToolCallResponse :=
  match chunk.choices with
  | [] => []
  | choice :: _ => if choice.finished ∧ chunk.usage = none then [] else choice.delta.toolCalls

def ReadsForward (chunk : ChatChunk) : Prop := ∀ fragment ∈ (readToolCalls chunk).zipIdx, StartsForward fragment

/-- A later chunk closes the message if it finishes the choice and has a usage, or if it has no choice and a usage is
known. -/
def Closes (usage : Option Usage) (chunk : ChatChunk) : Prop :=
  match chunk.choices with
  | [] => (chunk.usage <|> usage).isSome
  | choice :: _ => choice.finished ∧ chunk.usage.isSome

lemma Converting.stream (hcount : count ≠ 1) (chunk : ChatChunk) :
    Converted (Closes usage chunk) (ok ∧ ReadsForward chunk) count usage
      (events ++ (streamResponseOpenAI2Claude chunk info).1) (streamResponseOpenAI2Claude chunk info).2 := by
  unfold streamResponseOpenAI2Claude Closes ReadsForward readToolCalls
  rw [if_neg (by simp [h.steady.notDone]), if_neg (by rwa [h.steady.count])]
  cases chunk.choices with
  | nil =>
    simp only [usageChunk, oaiUsage, h.steady.usage, zipIdx_nil, not_mem_nil, false_implies, implies_true, and_true]
    cases hknown : chunk.usage <|> usage with
    | none => exact .inr ⟨by simp, by simpa [Emitter.skip] using h⟩
    | some known => exact .inl ⟨rfl, h.stopMessage _ _⟩
  | cons choice rest =>
    dsimp only
    unfold laterChunk
    by_cases hfinished : choice.finished = true
    · have hnamed := h.named (choice.finishReason.getD "")
      cases hchunk : chunk.usage with
      | none => exact .inr ⟨by simp, by simpa [hfinished, Emitter.skip] using hnamed⟩
      | some known =>
        have hclosed := (hnamed.laterContent choice).stopMessage
        simp only [hfinished, if_true, reduceCtorEq, and_false, if_false, Emitter.andThen, true_or, ← append_assoc]
        exact .inl ⟨by simp, hclosed _ _⟩
    · have hcontent := h.laterContent choice
      simp only [hfinished, Bool.false_eq_true, false_and, if_false, Emitter.andThen, false_or]
      rw [if_neg (by simp [hcontent.steady.notDone])]
      exact .inr ⟨id, by simpa [Emitter.skip] using hcontent⟩

end

/-! ### Whole streams -/

def initialInfo (estimatePromptTokens : Int) : ClaudeConvertInfo := { estimatePromptTokens := estimatePromptTokens }

lemma converting_start (estimatePromptTokens : Int) (count : Nat) (usage : Option Usage) (id model : String) :
    Converting True count usage [.messageStart id model estimatePromptTokens]
      { initialInfo estimatePromptTokens with sendResponseCount := count, usage := usage } where
  message := by
    refine ⟨⟨_, [], rfl, rfl, by simp⟩, by simp, by simp [contentBlocks], by simp [contentBlocks], ?_⟩
    refine iff_true_intro fun before e after hsplit i hi _ => ?_
    obtain ⟨-, rfl, -⟩ : before = [] ∧ e = _ ∧ after = [] := by simpa [singleton_eq_append_iff] using hsplit
    cases hi
  steady := ⟨le_rfl, rfl, rfl, rfl⟩

lemma Converting.firstToolCall (h : Converting ok count usage events info)
    (htype : info.lastMessagesType = .none) (hindex : info.index = 0) (choice : ChatChoice) :
    Converting ok count usage (events ++ (LoveApi.firstToolCall choice info).1)
      (LoveApi.firstToolCall choice info).2 := by
  unfold LoveApi.firstToolCall
  cases choice.delta.toolCalls with
  | nil => simpa [Emitter.skip] using h
  | cons toolCall rest =>
    have hmessage := h.message
    rw [lowIndex_of_none htype, advance_of_none htype, hindex] at hmessage
    have hstarted : OpenMessage ok 0 1
        (events ++ [.contentBlockStart 0 (.toolUse toolCall.id toolCall.function.name)]) := by
      simpa using hmessage.block _ zero_le_one zero_lt_one
    refine ⟨?_, le_rfl, h.steady.notDone, h.steady.count, h.steady.usage⟩
    show OpenMessage ok 0 1 _
    dsimp only
    split_ifs
    · simpa using hstarted.delta 0 _
    · exact hstarted

lemma keeps_firstBlock {type : LastMessageType} (htype : type = .text ∨ type = .thinking) {block : ContentBlock}
    {delta : BlockDelta} : Emitter.Keeps (Converting ok count usage) (firstBlock type block delta) := by
  intro events info h
  unfold firstBlock Emitter.andThen
  by_cases hlast : info.lastMessagesType = type
  · simpa [hlast, Emitter.skip] using (h.block block htype (.inr hlast)).delta info.index delta
  · have hblock := h.advance.block block htype (.inl advance_type)
    simpa [hlast, stopOpenBlocksAndAdvance] using hblock.delta (LoveApi.advance info).index delta

lemma keeps_firstContent (choice : ChatChoice) : Emitter.Keeps (Converting ok count usage) (firstContent choice) := by
  unfold firstContent
  dsimp only
  split_ifs
  · exact keeps_firstBlock (.inr rfl)
  · exact keeps_firstBlock (.inl rfl)
  · exact keeps_skip

/-- The first choice of the chunk has a finish reason. -/
def HasFinish (chunk : ChatChunk) : Prop := ∃ choice ∈ chunk.choices.head?, choice.finished = true

lemma converted_first (chunk : ChatChunk) (estimatePromptTokens : Int) (usage : Option Usage) :
    let info := { initialInfo estimatePromptTokens with sendResponseCount := 1, usage := usage }
    Converted (HasFinish chunk) True 1 usage (firstChunk chunk info).1 (firstChunk chunk info).2 := by
  intro info
  have hstart := converting_start estimatePromptTokens 1 usage chunk.id chunk.model
  unfold firstChunk HasFinish
  cases chunk.choices with
  | nil => exact .inr ⟨by simp, hstart⟩
  | cons choice rest =>
    have hcontent := keeps_firstContent choice _ _ (hstart.firstToolCall rfl rfl choice)
    simp only [append_assoc] at hcontent
    simp only [Emitter.andThen, firstFinish]
    by_cases hfinished : choice.finished = true
    · have hclosed := (hcontent.named (choice.finishReason.getD "")).stopMessage
      simp only [hfinished, if_true, ← append_assoc] at hclosed ⊢
      exact .inl ⟨by simpa, hclosed _ _⟩
    · simp only [hfinished, Bool.false_eq_true, if_false, Emitter.skip, append_nil]
      exact .inr ⟨by simp [hfinished], hcontent⟩

lemma Converting.handleStreamFormat (h : Converting ok count usage events info) (hcount : count ≠ 0)
    (chunk : ChatChunk) :
    Converted (Closes (chunk.usage <|> usage) chunk) (ok ∧ ReadsForward chunk) (count + 1) (chunk.usage <|> usage)
      (events ++ (LoveApi.handleStreamFormat chunk info).1) (LoveApi.handleStreamFormat chunk info).2 := by
  rw [LoveApi.handleStreamFormat, h.steady.usage, h.steady.count]
  exact (h.congr _ info.finishReason _).stream (by omega) chunk

/-- Chunks before the finish leave the message open. -/
lemma Converting.feed (h : Converting ok count none events info) (hcount : count ≠ 0) {chunks : List ChatChunk}
    (hplain : ∀ chunk ∈ chunks, chunk.usage = none ∧ ¬HasFinish chunk) :
    Converting (ok ∧ ∀ chunk ∈ chunks, ReadsForward chunk) (count + chunks.length) none
      (events ++ (Emitter.feed LoveApi.handleStreamFormat chunks info).1)
      (Emitter.feed LoveApi.handleStreamFormat chunks info).2 := by
  induction chunks generalizing ok count events info with
  | nil => simpa [Emitter.feed, Emitter.skip] using h
  | cons chunk chunks ih =>
    obtain ⟨⟨husage, hopen⟩, hrest⟩ := forall_mem_cons.mp hplain
    have hnext := h.handleStreamFormat hcount chunk
    rw [husage] at hnext
    have hcloses : ¬Closes none chunk := by
      unfold Closes
      cases hchoices : chunk.choices with
      | nil => simp [husage]
      | cons choice rest => exact fun hcloses => hopen ⟨choice, by simp [hchoices], hcloses.1⟩
    rw [Emitter.feed, Emitter.andThen, ← append_assoc, length_cons, Nat.add_comm chunks.length, ← Nat.add_assoc]
    simpa only [and_assoc, forall_mem_cons] using
      ih (hnext.resolve_left fun hclosed => hcloses hclosed.1).2 (by omega) hrest

lemma scanStream_eq {lastStreamData : ChatChunk} {rest : List ChatChunk} :
    scanStream (some lastStreamData) rest = Emitter.feed handleStreamFormat (lastStreamData :: rest).dropLast := by
  induction rest generalizing lastStreamData with
  | nil => rfl
  | cons data rest ih => rw [scanStream, ih, dropLast_cons_cons, Emitter.feed]

lemma oaiStreamHandler_concat (finalUsage : List ChatChunk → Usage) (chunks : List ChatChunk) (last : ChatChunk) :
    oaiStreamHandler finalUsage (chunks ++ [last]) = (Emitter.feed handleStreamFormat chunks).andThen
      (handleFinalResponse last (finalUsage (chunks ++ [last]))) := by
  have hscan : scanStream none (chunks ++ [last]) = Emitter.feed handleStreamFormat chunks := by
    cases chunks with
    | nil => rfl
    | cons chunk chunks =>
      rw [cons_append, scanStream, scanStream_eq, ← cons_append, dropLast_concat]
  rw [oaiStreamHandler, hscan, getLast?_concat]

/-- A chat stream: chunks that do not finish the choice, one that does, and perhaps one without choices for the usage.
The chunks before the finish have no usage. -/
structure ChatStream where
  body : List ChatChunk
  finish : ChatChunk
  usageOnly : Option ChatChunk
  plain : ∀ chunk ∈ body, chunk.usage = none ∧ ¬HasFinish chunk
  finished : HasFinish finish
  usage : ∀ chunk ∈ usageOnly, chunk.choices = [] ∧ chunk.usage.isSome = true

def ChatStream.chunks (stream : ChatStream) : List ChatChunk := stream.body ++ stream.finish :: stream.usageOnly.toList

/-- The events that the client is sent. -/
def claudeEvents (finalUsage : List ChatChunk → Usage) (estimatePromptTokens : Int) (chunks : List ChatChunk) :
    List ClaudeEvent :=
  (oaiStreamHandler finalUsage chunks (initialInfo estimatePromptTokens)).1

lemma claudeEvents_concat {finalUsage : List ChatChunk → Usage} {estimatePromptTokens : Int} {chunks : List ChatChunk}
    {last : ChatChunk} :
    let fed := Emitter.feed handleStreamFormat chunks (initialInfo estimatePromptTokens)
    claudeEvents finalUsage estimatePromptTokens (chunks ++ [last]) =
      fed.1 ++ (streamResponseOpenAI2Claude last { fed.2 with usage := some (finalUsage (chunks ++ [last])) }).1 := by
  rw [claudeEvents, oaiStreamHandler_concat]
  rfl

lemma closes_finish (h : HasFinish chunk) : Closes usage chunk ↔ chunk.usage.isSome = true := by
  obtain ⟨choice, hchoice, hfinished⟩ := h
  obtain ⟨rest, hcons⟩ := head?_eq_some_iff.mp hchoice
  simp [Closes, hcons, hfinished]

lemma OpenMessage.not_wellFormed {lo hi : Int} (h : OpenMessage ok lo hi events) : ¬WellFormed events :=
  fun hwell => h.noStop hwell.messageStop_mem

/-- The last chunk decides whether the message is closed. -/
lemma Converting.final (h : Converting ok count usage events info) (hcount : count ≠ 1) (known : Usage)
    (chunk : ChatChunk) :
    WellFormed (events ++ (streamResponseOpenAI2Claude chunk { info with usage := some known }).1) ↔
      Closes (some known) chunk ∧ ok ∧ ReadsForward chunk := by
  have hknown := h.congr (some known) info.finishReason info.sendResponseCount
  have hsteady := h.steady.count
  rcases hknown.stream (by omega) chunk with ⟨hcloses, -, hclosed⟩ | ⟨hopen, hmessage⟩
  · simpa [hcloses] using hclosed.wellFormed
  · simpa [hopen] using hmessage.message.not_wellFormed

/-- A chunk after the first one that is converted as if it were the first opens a second message. -/
lemma Converting.final_first (h : Converting ok 1 usage events info) (known : Usage) :
    ¬WellFormed (events ++ (streamResponseOpenAI2Claude chunk { info with usage := some known }).1) := by
  intro hwell
  have honce := hwell.start.countP
  rw [countP_append, h.message.start.countP, streamResponseOpenAI2Claude, if_neg (by simp [h.steady.notDone]),
    if_pos h.steady.count] at honce
  simp [firstChunk, Emitter.andThen, isMessageStart] at honce

/-- A chunk without choices closes a message that is still open, and changes nothing in one that is closed. -/
lemma Converted.final {closes : Prop} (h : Converted closes ok count usage events info) (hcount : closes ∨ count ≠ 1)
    (hchoices : chunk.choices = []) (known : Usage) :
    WellFormed (events ++ (streamResponseOpenAI2Claude chunk { info with usage := some known }).1) ↔ ok := by
  rcases h with ⟨-, hdone, hclosed⟩ | ⟨hopen, h⟩
  · simpa [streamResponseOpenAI2Claude, hdone, Emitter.skip] using hclosed.wellFormed
  · have hcloses : Closes (some known) chunk := by cases husage : chunk.usage <;> simp [Closes, hchoices, husage]
    have hfinal := h.final (hcount.resolve_left hopen) known chunk
    simpa [hcloses, ReadsForward, readToolCalls, hchoices] using hfinal

lemma converting_body (estimatePromptTokens : Int) {first : ChatChunk} {rest : List ChatChunk}
    (hplain : ∀ chunk ∈ first :: rest, chunk.usage = none ∧ ¬HasFinish chunk) :
    let fed := Emitter.feed handleStreamFormat (first :: rest) (initialInfo estimatePromptTokens)
    Converting (∀ chunk ∈ rest, ReadsForward chunk) (rest.length + 1) none fed.1 fed.2 := by
  obtain ⟨⟨husage, hopen⟩, hrest⟩ := forall_mem_cons.mp hplain
  have hfirst : Converting True 1 none (handleStreamFormat first (initialInfo estimatePromptTokens)).1
      (handleStreamFormat first (initialInfo estimatePromptTokens)).2 := by
    rw [handleStreamFormat, husage]
    exact ((converted_first first estimatePromptTokens none).resolve_left fun h => hopen h.1).2
  simpa [Emitter.feed, Emitter.andThen, Nat.add_comm] using hfirst.feed one_ne_zero hrest

/-- A stream is relayed as a well-formed event stream exactly if it has a usage, has three chunks or finishes in the
first of two, and no tool call that is read starts a block before the first one of its tools. -/
theorem claudeEvents_wellFormed_iff (stream : ChatStream) (finalUsage : List ChatChunk → Usage)
    (estimatePromptTokens : Int) :
    WellFormed (claudeEvents finalUsage estimatePromptTokens stream.chunks) ↔
      (stream.finish.usage.isSome = true ∨ stream.usageOnly.isSome = true) ∧
      (3 ≤ stream.chunks.length ∨ stream.body = [] ∧ stream.usageOnly.isSome = true) ∧
      ∀ chunk ∈ stream.chunks.tail, ReadsForward chunk := by
  obtain ⟨body, finish, usageOnly, hplain, hfinish, husage⟩ := stream
  simp only [ChatStream.chunks]
  cases usageOnly with
  | none =>
    rw [toList_none, claudeEvents_concat]
    match body, hplain with
    | [], _ =>
      -- The chunk is converted as a later one, and only a first one opens the message.
      have hstart := converting_start estimatePromptTokens 0 (some (finalUsage [finish])) "" ""
      exact iff_of_false (fun hwell => (hstart.stream zero_ne_one finish).start.tail hwell.start) (by simp)
    | [first], hplain =>
      exact iff_of_false ((converting_body estimatePromptTokens hplain).final_first _) (by simp)
    | first :: second :: rest, hplain =>
      rw [(converting_body estimatePromptTokens hplain).final (by simp), closes_finish hfinish]
      simp [or_imp, forall_and, and_assoc]
  | some last =>
    have hchoices := (husage last rfl).1
    have hreads : ReadsForward last := by simp [ReadsForward, readToolCalls, hchoices]
    have happend : body ++ finish :: [last] = (body ++ [finish]) ++ [last] := by simp
    rw [toList_some, happend, claudeEvents_concat, Emitter.feed_concat]
    match body, hplain with
    | [], _ =>
      have hfirst := converted_first finish estimatePromptTokens (finish.usage <|> none)
      exact (hfirst.final (.inl hfinish) hchoices _).trans (by simp [hreads])
    | first :: rest, hplain =>
      have hfed := (converting_body estimatePromptTokens hplain).handleStreamFormat (Nat.succ_ne_zero _) finish
      refine (hfed.final (.inr (by omega)) hchoices _).trans ?_
      simp [hreads, or_imp, forall_and]

def chunkOf (delta : ChatDelta) (finishReason : Option String) : ChatChunk :=
  { id := "1", model := "m", choices := [{ delta := delta, finishReason := finishReason }] }

/-- Deltas, and a chunk that finishes, without usage. -/
def helloStream (body : List ChatDelta) : ChatStream where
  body := body.map fun delta => chunkOf delta none
  finish := chunkOf {} (some "stop")
  usageOnly := none
  plain := by simp [chunkOf, HasFinish, ChatChoice.finished]
  finished := ⟨_, rfl, by decide⟩
  usage := by simp

/-- A stream of one chunk has no `message_start`, a stream of two has two, and a longer one without usage has no
`message_stop`. -/
theorem claudeEvents_counterexample : ¬WellFormed (claudeEvents (fun _ => {}) 0 (helloStream []).chunks) ∧
      ¬WellFormed (claudeEvents (fun _ => {}) 0 (helloStream [{ content := some "Hello" }]).chunks) ∧
      ¬WellFormed (claudeEvents (fun _ => {}) 0
        (helloStream [{ content := some "Hel" }, { content := some "lo" }]).chunks) := by
  refine ⟨fun h => ?_, fun h => ?_, fun h => ?_⟩
  · exact absurd h.start.countP (by decide +kernel)
  · exact absurd h.start.countP (by decide +kernel)
  · exact absurd h.messageStop_mem (by decide +kernel)

end LoveApi.Proofs
