import LoveApi.ResponsesStream

/-!
# Tool calls put together again from the events of a Responses stream

The events of several function calls may be interleaved in any way; each call is put together from its own events.
-/

namespace LoveApi.Proofs

open Program List Option

variable {own : List ResponsesEvent} {choice : ChatChoice} {rest : List ChatChunk} {itemId delta : String}

variable {handler handler' : ResponsesToChat} {fragment : ToolCallResponse} {event : ResponsesEvent}
  {before : List ResponsesEvent} {chunks : List ChatChunk}

-- ids are compared as strings, which need not be evaluated
seal Go.trimSpace

/-- The finish reasons of the chunks. -/
def finishReasons (chunks : List ChatChunk) : List String :=
  chunks.flatMap fun chunk => chunk.choices.filterMap ChatChoice.finishReason

/-- A function call as its events carry it: the arguments it starts with, their deltas and the arguments it is done
with. -/
structure StreamedCall where
  id : String
  callId : String
  name : String
  initial : String
  deltas : List String
  arguments : String
deriving DecidableEq, Repr

namespace StreamedCall

variable (call : StreamedCall)

def itemID : String := Go.trimSpace call.id

def callID : String := Go.trimSpace call.callId

def callName : String := Go.trimSpace call.name

def item (arguments : String) : ResponsesOutput :=
  { type := .functionCall, id := call.id, callId := call.callId, name := call.name, arguments := arguments }

def events : List ResponsesEvent :=
  .outputItemAdded (call.item call.initial) ::
    (call.deltas.map (.functionCallArgumentsDelta call.id) ++ [.outputItemDone (call.item call.arguments)])

def owns : ResponsesEvent → Bool
  | .outputItemAdded item => item.type = .functionCall ∧ item.itemID = call.itemID
  | .outputItemDone item => item.type = .functionCall ∧ item.itemID = call.itemID
  | .functionCallArgumentsDelta itemId _ => Go.trimSpace itemId = call.itemID
  | _ => false

def sent (chunks : List ChatChunk) : List ToolCallResponse :=
  (fragments chunks).filter fun fragment => fragment.id = call.callID

end StreamedCall

def passive : ResponsesEvent → Bool
  | .created _ | .reasoningSummaryTextDelta _ | .reasoningSummaryTextDone | .functionCallArgumentsDone | .other => true
  | .outputItemAdded item | .outputItemDone item => item.type ≠ .functionCall
  | .outputTextDelta _ | .functionCallArgumentsDelta _ _ | .completed _ | .failed _ => false

/-- The events of the calls, interleaved in any way with each other and with events that put out no text. -/
structure Interleaved (calls : List StreamedCall) (events : List ResponsesEvent) : Prop where
  itemIDs : (calls.map StreamedCall.itemID).Nodup
  callIDs : (calls.map StreamedCall.callID).Nodup
  nonblank : ∀ call ∈ calls, call.itemID ≠ "" ∧ call.callID ≠ "" ∧ call.callName ≠ ""
  continued : ∀ call ∈ calls, Go.hasPrefix call.arguments (call.initial ++ String.join call.deltas) = true
  inOrder : ∀ call ∈ calls, events.filter call.owns = call.events
  others : ∀ event ∈ events, passive event = true ∨ event = .outputTextDelta "" ∨
    ∃ call ∈ calls, call.owns event = true

/-- The chunks carry the calls: their arguments in full, their names once at the start, and indices that tell them
apart and count from 0 in the order in which the calls first appear. -/
structure Reassembled (calls : List StreamedCall) (chunks : List ChatChunk) : Prop where
  arguments : ∀ call ∈ calls,
    String.join ((call.sent chunks).map fun fragment => fragment.function.arguments) = call.arguments
  name : ∀ call ∈ calls, ∃ first rest, call.sent chunks = first :: rest ∧ first.function.name = call.callName ∧
    ∀ fragment ∈ rest, fragment.function.name = ""
  owner : ∀ fragment ∈ fragments chunks, ∃ call ∈ calls, fragment.id = call.callID
  index : ∀ fragment ∈ fragments chunks, ∀ other ∈ fragments chunks,
    fragment.index = other.index ↔ fragment.id = other.id
  order : ∃ n, ((fragments chunks).map ToolCallResponse.index).eraseDups =
    (List.range n).map fun i : Nat => some (i : Int)
  finish : finishReasons chunks = [if fragments chunks ≠ [] then "tool_calls" else "stop"]

section Steps

@[simp] lemma finishReasons_nil : finishReasons [] = [] := rfl

@[simp] lemma finishReasons_append (chunks chunks' : List ChatChunk) :
    finishReasons (chunks ++ chunks') = finishReasons chunks ++ finishReasons chunks' := flatMap_append

@[simp] lemma fragments_chunk :
    fragments (handler.chunk choice :: rest) = choice.delta.toolCalls ++ fragments rest := by
  simp [fragments, ResponsesToChat.chunk]

@[simp] lemma finishReasons_chunk :
    finishReasons (handler.chunk choice :: rest) = choice.finishReason.toList ++ finishReasons rest := by
  cases h : choice.finishReason <;> simp [finishReasons, ResponsesToChat.chunk, h]

@[simp] lemma fragments_sendStartIfNeeded : fragments (sendStartIfNeeded handler).1 = [] := by
  unfold sendStartIfNeeded
  split_ifs <;> simp

@[simp] lemma finishReasons_sendStartIfNeeded : finishReasons (sendStartIfNeeded handler).1 = [] := by
  unfold sendStartIfNeeded
  split_ifs <;> simp

@[simp] lemma sendStartIfNeeded_handler : (sendStartIfNeeded handler).2 = { handler with sentStart := true } := by
  unfold sendStartIfNeeded
  split_ifs with h
  · cases handler
    simp_all
  · rfl

variable {callID name argsDelta : String}

lemma sendToolCallDelta_eq (hid : callID ≠ "") (htext : handler.outputText = "") :
    fragments (sendToolCallDelta callID name argsDelta handler).1 =
        [{ index := some (handler.toolCallIndex callID), id := callID,
           function := ⟨handler.nameToSend callID name, argsDelta⟩ }] ∧
      finishReasons (sendToolCallDelta callID name argsDelta handler).1 = [] ∧
      (sendToolCallDelta callID name argsDelta handler).2 =
        (toolCallFragment callID name argsDelta { handler with sentStart := true }).2 := by
  unfold sendToolCallDelta
  rw [if_neg (by simp [hid, htext]), Emitter.andThen, sendStartIfNeeded_handler]
  refine ⟨?_, ?_, rfl⟩
  · simp [toolCallFragment, ResponsesToChat.toolCallIndex, ResponsesToChat.nameToSend]
  · simp [toolCallFragment]

end Steps

section EraseDups

variable {α : Type} [BEq α] [LawfulBEq α] {l : List α} {a : α}

lemma eraseDups_concat_of_mem (h : a ∈ l) : (l ++ [a]).eraseDups = l.eraseDups := by
  rw [eraseDups_append]
  simp [removeAll, h]

lemma eraseDups_concat_of_not_mem (h : a ∉ l) : (l ++ [a]).eraseDups = l.eraseDups ++ [a] := by
  rw [eraseDups_append]
  simp [removeAll, h, eraseDups_cons]

end EraseDups

structure Indexed (sent : List ToolCallResponse) (table : List (String × Nat)) : Prop where
  positions : table.map Prod.snd = List.range table.length
  index : ∀ fragment ∈ sent, ∃ i, table.lookup fragment.id = some i ∧ fragment.index = some (i : Int)
  order : (sent.map ToolCallResponse.index).eraseDups = (List.range table.length).map fun i : Nat => some (i : Int)

namespace Indexed

variable {sent : List ToolCallResponse} {table : List (String × Nat)}
variable {id : String} {i : Nat}

lemma nil : Indexed [] [] := ⟨rfl, by simp, by simp⟩

lemma mem_of_lookup (h : table.lookup id = some i) : (id, i) ∈ table := by
  obtain ⟨before, after, rfl, -⟩ := lookup_eq_some_iff.mp h
  simp

lemma lt_of_lookup (h : Indexed sent table) (hi : table.lookup id = some i) : i < table.length := by
  have hmem : i ∈ table.map Prod.snd := mem_map_of_mem (f := Prod.snd) (mem_of_lookup hi)
  rw [h.positions] at hmem
  exact mem_range.mp hmem

lemma index_iff (h : Indexed sent table) {other : ToolCallResponse} (hfragment : fragment ∈ sent)
    (hother : other ∈ sent) : fragment.index = other.index ↔ fragment.id = other.id := by
  obtain ⟨i, hi, hindex⟩ := h.index fragment hfragment
  obtain ⟨j, hj, hindex'⟩ := h.index other hother
  rw [hindex, hindex', some.injEq, Int.ofNat_inj]
  constructor
  · rintro rfl
    -- the positions of the table are distinct, so one position has one id
    have hnodup : (table.map Prod.snd).Nodup := h.positions ▸ nodup_range
    have hpair := inj_on_of_nodup_map hnodup (mem_of_lookup hi) (mem_of_lookup hj) rfl
    exact congrArg Prod.fst hpair
  · intro hid
    rw [hid, hj] at hi
    exact (some.inj hi).symm

lemma concat (h : Indexed sent handler.toolCallIndexByID)
    (hindex : fragment.index = some (handler.toolCallIndex fragment.id : Int)) :
    Indexed (sent ++ [fragment]) (handler.registerToolCall fragment.id) := by
  unfold ResponsesToChat.registerToolCall
  unfold ResponsesToChat.toolCallIndex at hindex
  cases hlookup : handler.toolCallIndexByID.lookup fragment.id with
  | some i =>
    rw [hlookup, getD_some] at hindex
    rw [if_pos isSome_some]
    refine ⟨h.positions, fun other hother => ?_, ?_⟩
    · rcases mem_append.mp hother with hother | hother
      · exact h.index other hother
      · obtain rfl := mem_singleton.mp hother
        exact ⟨i, hlookup, hindex⟩
    · have hseen : fragment.index ∈ sent.map ToolCallResponse.index := by
        rw [← mem_eraseDups, h.order, hindex]
        exact mem_map.mpr ⟨i, mem_range.mpr (h.lt_of_lookup hlookup), rfl⟩
      rw [map_append, map_singleton, eraseDups_concat_of_mem hseen, h.order]
  | none =>
    rw [hlookup, getD_none] at hindex
    rw [if_neg (by simp)]
    have hlookup' : ∀ id i, handler.toolCallIndexByID.lookup id = some i →
        (handler.toolCallIndexByID ++ [(fragment.id, handler.toolCallIndexByID.length)]).lookup id = some i := by
      intro id i hi
      rw [lookup_append, hi, some_or]
    refine ⟨?_, fun other hother => ?_, ?_⟩
    · simp [h.positions, range_succ]
    · rcases mem_append.mp hother with hother | hother
      · obtain ⟨i, hi, hindex⟩ := h.index other hother
        exact ⟨i, hlookup' _ _ hi, hindex⟩
      · obtain rfl := mem_singleton.mp hother
        exact ⟨_, by simp [lookup_append, hlookup], hindex⟩
    · have hnew : fragment.index ∉ sent.map ToolCallResponse.index := by
        rw [← mem_eraseDups, h.order, hindex]
        simp
      rw [map_append, map_singleton, eraseDups_concat_of_not_mem hnew, h.order, hindex, length_append,
        length_singleton, range_succ, map_append, map_singleton]

end Indexed

def carriedArguments (own : List ResponsesEvent) : String :=
  own.foldl (fun arguments event => match event with
    | .outputItemAdded item | .outputItemDone item => item.arguments
    | .functionCallArgumentsDelta _ delta => arguments ++ delta
    | _ => arguments) ""

lemma carriedArguments_added {item : ResponsesOutput} : carriedArguments [.outputItemAdded item] = item.arguments := rfl

lemma carriedArguments_delta :
    carriedArguments (own ++ [.functionCallArgumentsDelta itemId delta]) = carriedArguments own ++ delta := by
  simp [carriedArguments]

lemma carriedArguments_done (own : List ResponsesEvent) (item : ResponsesOutput) :
    carriedArguments (own ++ [.outputItemDone item]) = item.arguments := by
  simp [carriedArguments]

namespace StreamedCall

variable {call : StreamedCall}

lemma carriedArguments_deltas {deltas : List String} :
    carriedArguments (.outputItemAdded (call.item call.initial) :: deltas.map (.functionCallArgumentsDelta call.id)) =
      call.initial ++ String.join deltas := by
  induction deltas using reverseRecOn with
  | nil => simp [carriedArguments_added, item]
  | append_singleton deltas delta ih =>
    rw [map_append, map_singleton, ← cons_append, carriedArguments_delta, ih, String.join_append, String.append_assoc]
    simp

lemma next_event {later : List ResponsesEvent} (h : call.events = own ++ event :: later) :
    own = [] ∧ event = .outputItemAdded (call.item call.initial) ∨
      own ≠ [] ∧ (∃ delta, event = .functionCallArgumentsDelta call.id delta) ∨
      own ≠ [] ∧ event = .outputItemDone (call.item call.arguments) ∧
        carriedArguments own = call.initial ++ String.join call.deltas := by
  cases own with
  | nil => exact .inl ⟨rfl, (cons.inj h).1.symm⟩
  | cons added own =>
    obtain ⟨hadded, htail⟩ := cons.inj h
    rcases eq_nil_or_concat later with rfl | ⟨later, last, rfl⟩
    · obtain ⟨hown, hdone⟩ := append_inj' htail rfl
      refine .inr (.inr ⟨cons_ne_nil _ _, (cons.inj hdone).1.symm, ?_⟩)
      rw [← hown, ← hadded]
      exact carriedArguments_deltas
    · have hmem : event ∈ call.deltas.map (ResponsesEvent.functionCallArgumentsDelta call.id) := by
        have hinit : _ = (own ++ event :: later) ++ [last] := htail.trans (by simp)
        rw [(append_inj' hinit rfl).1]
        simp
      obtain ⟨delta, -, rfl⟩ := mem_map.mp hmem
      exact .inr (.inl ⟨cons_ne_nil _ _, delta, rfl⟩)

lemma itemID_eq_of_owns {other : StreamedCall} (h : call.owns event = true)
    (h' : other.owns event = true) : other.itemID = call.itemID := by
  cases event with
  | outputItemAdded item | outputItemDone item => exact (of_decide_eq_true h').2.symm.trans (of_decide_eq_true h).2
  | functionCallArgumentsDelta itemId delta => exact (of_decide_eq_true h').symm.trans (of_decide_eq_true h)
  | _ => cases h

end StreamedCall

structure CallProgress (call : StreamedCall) (own : List ResponsesEvent) (sent : List ToolCallResponse)
    (handler : ResponsesToChat) : Prop where
  arguments : String.join (sent.map fun fragment => fragment.function.arguments) = carriedArguments own
  recorded : handler.toolCallArgsByID call.callID = carriedArguments own
  idle : own = [] → sent = [] ∧ handler.toolCallNameSent call.callID = false
  begun : own ≠ [] → handler.toolCallCanonicalIDByItemID call.itemID = call.callID ∧
    handler.toolCallNameSent call.callID = true ∧ ∃ first rest, sent = first :: rest ∧
      first.function.name = call.callName ∧ ∀ fragment ∈ rest, fragment.function.name = ""

namespace CallProgress

variable {call : StreamedCall} {sent : List ToolCallResponse}

lemma congr (h : CallProgress call own sent handler)
    (hsame : handler'.toolCallArgsByID call.callID = handler.toolCallArgsByID call.callID ∧
      handler'.toolCallNameSent call.callID = handler.toolCallNameSent call.callID ∧
      handler'.toolCallCanonicalIDByItemID call.itemID = handler.toolCallCanonicalIDByItemID call.itemID) :
    CallProgress call own sent handler' := by
  obtain ⟨hargs, hname, hcanonical⟩ := hsame
  exact ⟨h.arguments, hargs.trans h.recorded, fun hown => ⟨(h.idle hown).1, hname.trans (h.idle hown).2⟩,
    fun hown => ⟨hcanonical.trans (h.begun hown).1, hname.trans (h.begun hown).2.1, (h.begun hown).2.2⟩⟩

lemma concat (h : CallProgress call own sent handler)
    (harguments : carriedArguments own ++ fragment.function.arguments = carriedArguments (own ++ [event]))
    (hname : fragment.function.name = if handler.toolCallNameSent call.callID then "" else call.callName)
    (hrecorded : handler'.toolCallArgsByID call.callID = carriedArguments (own ++ [event]))
    (hsent : handler'.toolCallNameSent call.callID = true)
    (hcanonical : handler'.toolCallCanonicalIDByItemID call.itemID = call.callID) :
    CallProgress call (own ++ [event]) (sent ++ [fragment]) handler' := by
  refine ⟨?_, hrecorded, fun hnil => by simp at hnil, fun _ => ⟨hcanonical, hsent, ?_⟩⟩
  · rw [map_append, String.join_append, h.arguments, ← harguments]
    simp
  · by_cases hown : own = []
    · obtain ⟨hnil, hnot⟩ := h.idle hown
      rw [hnot] at hname
      exact ⟨fragment, [], by simp [hnil], hname, by simp⟩
    · obtain ⟨-, hyes, first, rest, hfirst, hfirstName, hrest⟩ := h.begun hown
      rw [hyes, if_pos rfl] at hname
      refine ⟨first, rest ++ [fragment], by simp [hfirst], hfirstName, fun other hother => ?_⟩
      rcases mem_append.mp hother with hother | hother
      · exact hrest other hother
      · rwa [mem_singleton.mp hother]

end CallProgress

def SameCalls (handler handler' : ResponsesToChat) : Prop :=
  ∃ responseId model sentStart hasSentReasoningSummary needsReasoningSummarySeparator, handler' = { handler with
    responseId := responseId
    model := model
    sentStart := sentStart
    hasSentReasoningSummary := hasSentReasoningSummary
    needsReasoningSummarySeparator := needsReasoningSummarySeparator }

lemma SameCalls.refl (handler : ResponsesToChat) : SameCalls handler handler := ⟨_, _, _, _, _, rfl⟩

structure Quiet (chunks : List ChatChunk) : Prop where
  fragments : fragments chunks = []
  finish : finishReasons chunks = []

lemma quiet_nil : Quiet [] := ⟨rfl, rfl⟩

lemma quiet_sendReasoningSummaryDelta : Quiet (sendReasoningSummaryDelta delta handler).1 ∧
      SameCalls handler (sendReasoningSummaryDelta delta handler).2 := by
  unfold sendReasoningSummaryDelta
  by_cases h : delta = ""
  · rw [if_pos h]
    exact ⟨quiet_nil, .refl _⟩
  · rw [if_neg h]
    rw [Emitter.andThen, sendStartIfNeeded_handler]
    exact ⟨⟨by simp, by simp⟩, _, _, _, _, _, rfl⟩

lemma quiet_of_passive (h : passive event = true) :
    Quiet (handleEvent event handler).1 ∧ SameCalls handler (handleEvent event handler).2 := by
  cases event with
  | created model => exact ⟨quiet_nil, _, _, _, _, _, rfl⟩
  | reasoningSummaryTextDelta delta => exact quiet_sendReasoningSummaryDelta
  | reasoningSummaryTextDone =>
    refine ⟨quiet_nil, ?_⟩
    simp only [handleEvent]
    split_ifs
    · exact ⟨_, _, _, _, _, rfl⟩
    · exact .refl _
  | outputItemAdded item | outputItemDone item =>
    simp only [handleEvent, outputItem, if_pos (of_decide_eq_true h)]
    exact ⟨quiet_nil, .refl _⟩
  | functionCallArgumentsDone | other => exact ⟨quiet_nil, .refl _⟩
  | outputTextDelta delta => cases h
  | functionCallArgumentsDelta itemId delta => cases h
  | completed model => cases h
  | failed message => cases h

lemma quiet_emptyText : Quiet (handleEvent (.outputTextDelta "") handler).1 ∧
      SameCalls handler (handleEvent (.outputTextDelta "") handler).2 := by
  simp only [handleEvent, Emitter.andThen, sendStartIfNeeded_handler, sendOutputText, if_true, append_nil]
  exact ⟨⟨by simp, by simp⟩, _, _, _, _, _, rfl⟩

structure Reassembling (calls : List StreamedCall) (before : List ResponsesEvent) (chunks : List ChatChunk)
    (handler : ResponsesToChat) : Prop where
  text : handler.outputText = ""
  error : handler.streamErr = none
  stop : handler.sentStop = false
  finish : finishReasons chunks = []
  saw : handler.sawToolCall = true ↔ fragments chunks ≠ []
  indexed : Indexed (fragments chunks) handler.toolCallIndexByID
  owner : ∀ fragment ∈ fragments chunks, ∃ call ∈ calls, fragment.id = call.callID
  call : ∀ call ∈ calls, CallProgress call (before.filter call.owns) (call.sent chunks) handler

namespace Reassembling

variable {calls : List StreamedCall}
variable {result : List ChatChunk × ResponsesToChat}

lemma start (responseId model : String) : Reassembling calls [] [] { responseId := responseId, model := model } where
  text := rfl
  error := rfl
  stop := rfl
  finish := rfl
  saw := by simp
  indexed := .nil
  owner := by simp
  call _ _ := ⟨rfl, rfl, fun _ => ⟨rfl, rfl⟩, fun h => absurd rfl h⟩

lemma quiet (h : Reassembling calls before chunks handler)
    (hquiet : Quiet result.1 ∧ SameCalls handler result.2) (hnone : ∀ call ∈ calls, call.owns event = false) :
    Reassembling calls (before ++ [event]) (chunks ++ result.1) result.2 := by
  obtain ⟨chunks', handler'⟩ := result
  obtain ⟨⟨hfragments, hfinish⟩, _, _, _, _, _, rfl⟩ := hquiet
  have hsent : fragments (chunks ++ chunks') = fragments chunks := by
    rw [fragments_append, hfragments, append_nil]
  refine ⟨h.text, h.error, h.stop, by rw [finishReasons_append, h.finish, hfinish]; rfl, by rw [hsent]; exact h.saw,
    by rw [hsent]; exact h.indexed, by rw [hsent]; exact h.owner, fun call hcall => ?_⟩
  have hown : (before ++ [event]).filter call.owns = before.filter call.owns := by simp [hnone call hcall]
  rw [hown, StreamedCall.sent, hsent]
  exact (h.call call hcall).congr ⟨rfl, rfl, rfl⟩

end Reassembling

lemma append_trimPrefix {s pre : String} (h : Go.hasPrefix s pre = true) : pre ++ Go.trimPrefix s pre = s := by
  have hpre := isPrefixOf_iff_prefix.mp h
  rw [Go.trimPrefix, if_pos h, ← String.toList_inj, String.toList_append, String.toList_ofList, ← String.length_toList]
  exact prefix_iff_eq_append.mp hpre

lemma append_newArguments {item : ResponsesOutput}
    (h : Go.hasPrefix item.arguments (handler.toolCallArgsByID item.canonicalID) = true) :
    handler.toolCallArgsByID item.canonicalID ++ newArguments item handler = item.arguments ∧
      (if item.arguments ≠ "" then item.arguments else handler.toolCallArgsByID item.canonicalID) =
        item.arguments := by
  unfold newArguments
  by_cases harguments : item.arguments = ""
  · have hnil : handler.toolCallArgsByID item.canonicalID = "" := by
      have hpre := isPrefixOf_iff_prefix.mp h
      rw [harguments] at hpre
      exact String.toList_inj.mp (prefix_nil.mp hpre)
    simp [harguments, hnil]
  · rw [if_pos harguments, if_pos harguments]
    exact ⟨append_trimPrefix h, rfl⟩

namespace Interleaved

variable {calls : List StreamedCall} {events after : List ResponsesEvent} {call other : StreamedCall}

variable (h : Interleaved calls events)

include h

lemma apart (hcall : call ∈ calls) (howns : call.owns event = true) (hother : other ∈ calls) (hne : other ≠ call) :
    other.callID ≠ call.callID ∧ other.itemID ≠ call.itemID ∧ other.owns event = false := by
  have hitem : other.itemID ≠ call.itemID := fun heq => hne (inj_on_of_nodup_map h.itemIDs hother hcall heq)
  exact ⟨fun heq => hne (inj_on_of_nodup_map h.callIDs hother hcall heq), hitem,
    Bool.eq_false_iff.mpr fun howns' => hitem (StreamedCall.itemID_eq_of_owns howns howns')⟩

variable (hcall : call ∈ calls) (hbefore : Reassembling calls before chunks handler) (howns : call.owns event = true)

include hcall hbefore howns

/-- An event of a call is recorded for the call only, and what it adds to the arguments is sent. -/
lemma reassembling_send {canonical names args : String → String} {name argsDelta : String}
    (hname : handler.toolCallNameSent call.callID = false → name = call.callName)
    (hcanonical : canonical call.itemID = call.callID)
    (hcanonical' : ∀ id ≠ call.itemID, canonical id = handler.toolCallCanonicalIDByItemID id)
    (hargs : args call.callID = carriedArguments (before.filter call.owns ++ [event]))
    (hargs' : ∀ id ≠ call.callID, args id = handler.toolCallArgsByID id)
    (hdelta : carriedArguments (before.filter call.owns) ++ argsDelta =
      carriedArguments (before.filter call.owns ++ [event])) :
    let result := sendToolCallDelta call.callID name argsDelta { handler with
      toolCallCanonicalIDByItemID := canonical, toolCallNameByID := names, toolCallArgsByID := args }
    Reassembling calls (before ++ [event]) (chunks ++ result.1) result.2 := by
  intro result
  obtain ⟨-, hid, hnonblank⟩ := h.nonblank call hcall
  set recorded : ResponsesToChat := { handler with
    toolCallCanonicalIDByItemID := canonical, toolCallNameByID := names, toolCallArgsByID := args }
  obtain ⟨hfragment, hfinish, hresult⟩ :=
    @sendToolCallDelta_eq recorded call.callID name argsDelta hid hbefore.text
  have hsend : recorded.nameToSend call.callID name =
      if handler.toolCallNameSent call.callID then "" else call.callName := by
    cases hsent : handler.toolCallNameSent call.callID with
    | true => exact if_pos hsent
    | false => simp [ResponsesToChat.nameToSend, recorded, hsent, hname hsent, hnonblank]
  set fragment : ToolCallResponse :=
    { index := some (recorded.toolCallIndex call.callID), id := call.callID,
      function := ⟨recorded.nameToSend call.callID name, argsDelta⟩ }
  have hsent : fragments (chunks ++ result.1) = fragments chunks ++ [fragment] := by rw [fragments_append, hfragment]
  rw [show result.2 = _ from hresult]
  refine ⟨hbefore.text, hbefore.error, hbefore.stop, ?_, ?_, ?_, ?_, fun other hother => ?_⟩
  · rw [finishReasons_append, hbefore.finish, hfinish]
    rfl
  · simp [hsent, toolCallFragment]
  · rw [hsent]
    exact hbefore.indexed.concat rfl
  · rw [hsent]
    intro other hmem
    rcases mem_append.mp hmem with hmem | hmem
    · exact hbefore.owner other hmem
    · exact ⟨call, hcall, by rw [mem_singleton.mp hmem]⟩
  · by_cases heq : other = call
    · subst heq
      have hfilter : other.sent (chunks ++ result.1) = other.sent chunks ++ [fragment] := by
        simp [StreamedCall.sent, hsent, fragment]
      have hown : (before ++ [event]).filter other.owns = before.filter other.owns ++ [event] := by simp [howns]
      rw [hfilter, hown]
      refine (hbefore.call other hother).concat hdelta hsend hargs ?_ hcanonical
      have hstays :
          (toolCallFragment other.callID name argsDelta { recorded with sentStart := true }).2.toolCallNameSent =
          if recorded.nameToSend other.callID name ≠ "" then Function.update handler.toolCallNameSent other.callID true
          else handler.toolCallNameSent := rfl
      rw [hstays, hsend]
      cases hnamed : handler.toolCallNameSent other.callID <;> simp [hnonblank, hnamed]
    · obtain ⟨hother', hitem, hevent⟩ := h.apart hcall howns hother heq
      have hfilter : other.sent (chunks ++ result.1) = other.sent chunks := by
        simp [StreamedCall.sent, hsent, fragment, hother'.symm]
      have hown : (before ++ [event]).filter other.owns = before.filter other.owns := by simp [hevent]
      rw [hfilter, hown]
      refine (hbefore.call other hother).congr ⟨hargs' _ hother', ?_, hcanonical' _ hitem⟩
      simp only [toolCallFragment]
      split_ifs
      · exact Function.update_of_ne hother' _ _
      · rfl

lemma reassembling_item {arguments : String}
    (hcarried : carriedArguments (before.filter call.owns ++ [event]) = arguments)
    (hpre : Go.hasPrefix arguments (carriedArguments (before.filter call.owns)) = true) :
    Reassembling calls (before ++ [event]) (chunks ++ (outputItem (call.item arguments) handler).1)
      (outputItem (call.item arguments) handler).2 := by
  obtain ⟨hitem, hid, -⟩ := h.nonblank call hcall
  have hcanonicalID : (call.item arguments).canonicalID = call.callID := if_neg hid
  have hnew := @append_newArguments handler (call.item arguments)
  rw [hcanonicalID, (hbefore.call call hcall).recorded] at hnew
  obtain ⟨hnew, hrecorded⟩ := hnew hpre
  have hsend : outputItem (call.item arguments) handler = sendToolCallDelta call.callID call.callName
      (newArguments (call.item arguments) handler) (recordItem (call.item arguments) handler) := by
    have htype : ¬(call.item arguments).type ≠ .functionCall := not_not.mpr rfl
    rw [outputItem, if_neg htype, hcanonicalID]
    rfl
  rw [hsend]
  apply h.reassembling_send hcall hbefore howns (fun _ => rfl)
  · rw [hcanonicalID, if_pos ⟨hitem, hid⟩]
    exact Function.update_self _ _ _
  · intro id hne
    rw [hcanonicalID, if_pos ⟨hitem, hid⟩]
    exact Function.update_of_ne hne _ _
  · rw [hcarried, hcanonicalID]
    refine Eq.trans ?_ hrecorded
    rw [← (hbefore.call call hcall).recorded]
    split_ifs
    · exact Function.update_self _ _ _
    · rfl
  · intro id hne
    rw [hcanonicalID]
    split_ifs
    · exact Function.update_of_ne hne _ _
    · rfl
  · rw [hcarried]
    exact hnew

lemma reassembling_delta (hevent : event = .functionCallArgumentsDelta call.id delta)
    (hbegun : before.filter call.owns ≠ []) :
    Reassembling calls (before ++ [event]) (chunks ++ (functionCallArguments call.id delta handler).1)
      (functionCallArguments call.id delta handler).2 := by
  obtain ⟨-, hid, -⟩ := h.nonblank call hcall
  have hprogress := hbefore.call call hcall
  obtain ⟨hcanonical, hnameSent, -⟩ := hprogress.begun hbegun
  have hcallID : handler.callOfItem (Go.trimSpace call.id) = call.callID := by
    show handler.callOfItem call.itemID = call.callID
    rw [ResponsesToChat.callOfItem, hcanonical, if_neg hid]
  have hcarried : carriedArguments (before.filter call.owns ++ [event]) =
      carriedArguments (before.filter call.owns) ++ delta := by rw [hevent, carriedArguments_delta]
  unfold functionCallArguments
  simp only [hcallID]
  rw [if_neg hid]
  apply h.reassembling_send hcall hbefore howns
  · intro hnot
    rw [hnameSent] at hnot
    cases hnot
  · exact hcanonical
  · exact fun _ _ => rfl
  · rw [hcarried, ← hprogress.recorded]
    exact Function.update_self _ _ _
  · exact fun id hne => Function.update_of_ne hne _ _
  · exact hcarried.symm

omit hcall hbefore howns

lemma reassembling_step (hsplit : events = before ++ event :: after)
    (hbefore : Reassembling calls before chunks handler) :
    Reassembling calls (before ++ [event]) (chunks ++ (scanEvent event handler).1) (scanEvent event handler).2 := by
  have hscan : scanEvent event handler = handleEvent event handler := if_neg (by simp [hbefore.error])
  rw [hscan]
  by_cases howned : ∃ call ∈ calls, call.owns event = true
  · obtain ⟨call, hcall, howns⟩ := howned
    have hevents : call.events = before.filter call.owns ++ event :: after.filter call.owns := by
      rw [← h.inOrder call hcall, hsplit]
      simp [howns]
    rcases StreamedCall.next_event hevents with ⟨hnil, rfl⟩ | ⟨hne, delta, rfl⟩ | ⟨hne, rfl, hcarried⟩
    · exact h.reassembling_item hcall hbefore howns (by rw [hnil]; exact carriedArguments_added) (by rw [hnil]; rfl)
    · exact h.reassembling_delta hcall hbefore howns rfl hne
    · exact h.reassembling_item hcall hbefore howns (carriedArguments_done _ _)
        (by rw [hcarried]; exact h.continued call hcall)
  · have hnone : ∀ call ∈ calls, call.owns event = false := by
      intro call hcall
      simpa using fun howns => howned ⟨call, hcall, howns⟩
    rcases h.others event (by simp [hsplit]) with hpassive | rfl | hcall
    · exact hbefore.quiet (quiet_of_passive hpassive) hnone
    · exact hbefore.quiet quiet_emptyText hnone
    · exact absurd hcall howned

end Interleaved

/-- The events after the last item: the one that completes the answer, unless the stream just ends. -/
def endingEvents (completed : Option String) : List ResponsesEvent := (completed.map ResponsesEvent.completed).toList

lemma sendStopIfNeeded_of_sentStop (h : handler.sentStop = true) : sendStopIfNeeded handler = ([], handler) := if_pos h

lemma sendStopIfNeeded_of_not (h : handler.sentStop = false) : sendStopIfNeeded handler =
    ([handler.chunk { finishReason := some handler.finishReason }], { handler with sentStop := true }) :=
  if_neg (by simp [h])

lemma usage_quiet (finalUsage : Option Usage) (responseId model : String) :
    Quiet (finalUsage.map fun usage =>
      ({ id := responseId, model := model, usage := some usage } : ChatChunk)).toList := by
  cases finalUsage <;> exact ⟨rfl, rfl⟩

lemma ending (herror : handler.streamErr = none) (hstop : handler.sentStop = false) (finalUsage : Option Usage)
    (completed : Option String) :
    let result := (Emitter.feed scanEvent (endingEvents completed)).andThen (endOfStream finalUsage) handler
    fragments result.1 = [] ∧ finishReasons result.1 = [handler.finishReason] ∧ result.2.streamErr = none := by
  have hquiet := usage_quiet finalUsage
  cases completed with
  | none =>
    simp only [endingEvents, map_none, toList_none, Emitter.feed, Emitter.andThen, Emitter.skip, endOfStream,
      herror, isSome_none, Bool.false_eq_true, if_false, sendStartIfNeeded_handler, nil_append]
    rw [sendStopIfNeeded_of_not (by exact hstop)]
    simp [(hquiet _ _).fragments, (hquiet _ _).finish, ResponsesToChat.finishReason]
  | some model =>
    simp only [endingEvents, map_some, toList_some, Emitter.feed, Emitter.andThen, Emitter.skip, scanEvent,
      handleEvent, herror, isSome_none, Bool.false_eq_true, if_false, sendStartIfNeeded_handler, append_nil]
    rw [sendStopIfNeeded_of_not (by exact hstop)]
    simp only [endOfStream, ResponsesToChat.setModel, herror, isSome_none, Bool.false_eq_true, if_false,
      Emitter.andThen, sendStartIfNeeded_handler]
    rw [sendStopIfNeeded_of_sentStop rfl]
    simp [(hquiet _ _).fragments, (hquiet _ _).finish, ResponsesToChat.finishReason]

/-- Two calls in parallel: the weather in one place with arguments from the start, and the time in another. -/
def parallelCalls : List StreamedCall :=
  [{ id := "fc_1", callId := "call_1", name := "weather", initial := "[", deltas := ["1", ""], arguments := "[1]" },
    { id := "fc_2", callId := "call_2", name := "time", initial := "", deltas := ["[]"], arguments := "[]" }]

def parallelEvents : List ResponsesEvent :=
  [.created "m", .outputItemAdded (parallelCalls[0].item "["), .outputItemAdded (parallelCalls[1].item ""),
    .functionCallArgumentsDelta "fc_1" "1", .functionCallArgumentsDelta "fc_2" "[]", .functionCallArgumentsDone,
    .functionCallArgumentsDelta "fc_1" "", .outputItemDone (parallelCalls[1].item "[]"), .outputTextDelta "",
    .outputItemDone (parallelCalls[0].item "[1]")]

def StopsOnce (chunks : List ChatChunk) (handler : ResponsesToChat) : Prop :=
  (finishReasons chunks).length = handler.sentStop.toNat

lemma stopsOnce_ending : Emitter.Keeps StopsOnce (sendStartIfNeeded.andThen sendStopIfNeeded) := by
  intro chunks handler h
  unfold StopsOnce at *
  simp only [Emitter.andThen, sendStartIfNeeded_handler, sendStopIfNeeded]
  split_ifs <;> simp_all

lemma stopsOnce_scanEvent (event : ResponsesEvent) : Emitter.Keeps StopsOnce (scanEvent event) := by
  intro chunks handler h
  unfold scanEvent
  split_ifs
  · rwa [append_nil]
  · cases event with
    | completed model => exact stopsOnce_ending _ (handler.setModel model) h
    | created | functionCallArgumentsDone | failed | other => exact (append_nil chunks).symm ▸ h
    | _ =>
      simp only [StopsOnce, handleEvent, outputItem, functionCallArguments, sendToolCallDelta,
        sendReasoningSummaryDelta, sendOutputText, Emitter.andThen, sendStartIfNeeded_handler]
      split_ifs <;> simp_all [StopsOnce, toolCallFragment, recordItem]

lemma stopsOnce_endOfStream (finalUsage : Option Usage) : Emitter.Keeps StopsOnce (endOfStream finalUsage) := by
  intro chunks handler h
  unfold endOfStream
  split_ifs
  · rwa [append_nil]
  · refine stopsOnce_ending.andThen (fun chunks handler h => ?_) chunks handler h
    rw [StopsOnce, finishReasons_append, (usage_quiet finalUsage _ _).finish, append_nil]
    exact h

lemma sentStop_endOfStream {finalUsage : Option Usage} (h : (endOfStream finalUsage handler).2.streamErr = none) :
    (endOfStream finalUsage handler).2.sentStop = true := by
  unfold endOfStream at *
  split_ifs at *
  · simp_all
  · simp only [Emitter.andThen, sendStopIfNeeded]
    split_ifs with hstop
    · exact hstop
    · rfl

/-- Whatever events come, at most one finish reason is sent, and one is unless the stream has failed. -/
theorem oaiResponsesToChat_stops_once (responseId upstreamModelName : String) (finalUsage : Option Usage)
    (events : List ResponsesEvent) :
    let result := oaiResponsesToChatStreamHandler responseId upstreamModelName finalUsage events
    (finishReasons result.1).length ≤ 1 ∧ (result.2 = none → (finishReasons result.1).length = 1) := by
  have hstops := (Emitter.Keeps.feed fun event (_ : event ∈ events) => stopsOnce_scanEvent event).andThen
    (stopsOnce_endOfStream finalUsage) [] { responseId := responseId, model := upstreamModelName } rfl
  exact ⟨hstops.trans_le (Bool.toNat_le _), fun hnone => hstops.trans (congrArg _ (sentStop_endOfStream hnone))⟩

end LoveApi.Proofs
