import LoveApi.GeminiConvert

/-!
# Texts for Gemini and its answers

The pieces of a text and what is dropped behind its last image give the text back. An answer's thoughts, texts and
calls go to the fields of its choice.
-/

namespace LoveApi.Proofs

open Program Go

variable {J : Type}
variable {text : List Char} {image : MarkdownImage} {s s' : List MarkdownPiece × List Char}

/-- The text that a piece was read from. -/
def written : MarkdownPiece → List Char
  | .text text => text
  | .image source _ => source

lemma nextImage_spec (h : nextImage text = some image) :
    image.before ++ image.source ++ image.rest = text ∧ image.rest.length < text.length := by
  simp only [nextImage, Option.bind_eq_bind, Option.bind_eq_some_iff] at h
  obtain ⟨startIdx, hstart, bracketIdx, -, closeIdx, -, h⟩ := h
  cases h
  constructor
  · have hbefore : text.take startIdx = (text.take (startIdx + bracketIdx + 2 + closeIdx + 1)).take startIdx := by
      rw [List.take_take, min_eq_left (by omega)]
    rw [hbefore, List.take_append_drop, List.take_append_drop]
  · cases text with
    | nil => cases hstart
    | cons =>
      simp only [List.length_drop, List.length_cons]
      omega

/-- The text is a row of images with texts before them, so that nothing follows its last image. -/
inductive EndsAtImage : List Char → Prop
  | nil : EndsAtImage []
  | image {text : List Char} {image : MarkdownImage} :
      nextImage text = some image → EndsAtImage image.rest → EndsAtImage text

lemma endsAtImage_iff_rest (h : nextImage text = some image) : EndsAtImage text ↔ EndsAtImage image.rest := by
  refine ⟨fun hends => ?_, .image h⟩
  cases hends with
  | nil => cases h
  | image himage hrest =>
    cases himage.symm.trans h
    exact hrest

lemma endsAtImage_iff_nil (h : nextImage text = none) : EndsAtImage text ↔ text = [] := by
  refine ⟨fun hends => ?_, fun hnil => hnil ▸ .nil⟩
  cases hends with
  | nil => rfl
  | image himage _ => cases himage.symm.trans h

/-- What the loop over the images of a text keeps: the pieces and the remaining text are the text, and the remaining
text ends at an image if the text does. -/
structure SplitInv (text : List Char) (s : List MarkdownPiece × List Char) : Prop where
  written : s.1.flatMap written ++ s.2 = text
  ends : EndsAtImage s.2 ↔ EndsAtImage text
  pieces : nextImage text = none → s.1 = []

lemma splitStep_again (h : splitStep s = .again s') :
    (SplitInv text s → SplitInv text s') ∧ s'.2.length < s.2.length := by
  simp only [splitStep] at h
  split at h
  · cases h
  next image himage =>
  obtain ⟨hsplit, hlength⟩ := nextImage_spec himage
  cases h
  refine ⟨fun hs => ⟨?_, (endsAtImage_iff_rest himage).symm.trans hs.ends, fun hnone => ?_⟩, hlength⟩
  · rw [← hs.written, ← hsplit]
    by_cases hbefore : image.before = [] <;> simp [hbefore, written]
  · have hrest := hs.written
    rw [hs.pieces hnone, List.flatMap_nil, List.nil_append] at hrest
    cases (hrest ▸ himage).symm.trans hnone

lemma splitStep_done {r : List MarkdownPiece × List Char} (h : splitStep s = .done r) :
    r = s ∧ nextImage s.2 = none := by
  simp only [splitStep] at h
  split at h
  · next hnone =>
    cases h
    exact ⟨rfl, hnone⟩
  · cases h

lemma splitMarkdown_spec {text : String} {fuel : Nat} (hfuel : text.length < fuel) :
    ∃ pieces dropped, splitMarkdown fuel text = some (pieces, dropped) ∧
      pieces.flatMap written ++ dropped = text.toList ∧
      (dropped = [] ↔ nextImage text.toList = none ∨ EndsAtImage text.toList) := by
  by_cases htext : text = ""
  · subst htext
    exact ⟨[], [], rfl, rfl, iff_of_true rfl (.inr .nil)⟩
  · obtain ⟨r, hr⟩ :=
      exists_loop (fun s => s.2.length) (fun _ _ h => (@splitStep_again [] _ _ h).2) ([], text.toList)
    have hloop := hr fuel hfuel
    have hsplit : SplitInv text.toList r ∧ nextImage r.2 = none := by
      refine loop_all (P := SplitInv text.toList) (Q := fun r => SplitInv text.toList r ∧ nextImage r.2 = none)
        (fun s hs => ?_) ⟨rfl, .rfl, fun _ => rfl⟩ hloop
      cases hstep : splitStep s with
      | again s' => exact (splitStep_again hstep).1 hs
      | done r =>
        obtain ⟨rfl, hnone⟩ := splitStep_done hstep
        exact ⟨hs, hnone⟩
    obtain ⟨hinv, hnone⟩ := hsplit
    by_cases hpieces : r.1 = []
    · have hrest := hinv.written
      rw [hpieces, List.flatMap_nil, List.nil_append] at hrest
      exact ⟨[.text text.toList], [], by simp [splitMarkdown, htext, hloop, hpieces], by simp [written],
        iff_of_true rfl (.inl (hrest ▸ hnone))⟩
    · refine ⟨r.1, r.2, by simp [splitMarkdown, htext, hloop, hpieces], hinv.written, ?_⟩
      rw [← endsAtImage_iff_nil hnone, hinv.ends, or_iff_right fun h => hpieces (hinv.pieces h)]

lemma mapM_toPart {decode : String → Except String GeminiData} {pieces : List MarkdownPiece}
    (h : ∀ piece ∈ pieces, ∃ part : GeminiPart J, piece.toPart decode = .ok part) :
    ∃ parts : List (GeminiPart J), pieces.mapM (MarkdownPiece.toPart decode) = .ok parts ∧
      pieces.map (MarkdownPiece.toPart decode) = parts.map Except.ok := by
  induction pieces with
  | nil => exact ⟨[], rfl, rfl⟩
  | cons piece pieces ih =>
    obtain ⟨part, hpart⟩ := h piece (by simp)
    obtain ⟨parts, hparts, hmap⟩ := ih fun piece hpiece => h piece (List.mem_cons_of_mem _ hpiece)
    exact ⟨part :: parts, by simp [List.mapM_cons, hpart, hparts]; rfl, by simp [hpart, hmap]⟩

/-- The pieces of a text, written back, are the text exactly when it has no image or nothing follows its last one. -/
theorem convertText_keeps_iff (decode : String → Except String GeminiData) (text : String) (fuel : Nat)
    (hfuel : text.length < fuel) :
    ∃ pieces dropped, splitMarkdown fuel text = some (pieces, dropped) ∧
      ((∀ piece ∈ pieces, ∃ part : GeminiPart J, piece.toPart decode = .ok part) →
        ∃ parts : List (GeminiPart J), convertText decode fuel text = some (.ok parts) ∧
          pieces.map (MarkdownPiece.toPart decode) = parts.map Except.ok) ∧
      (pieces.flatMap written = text.toList ↔ nextImage text.toList = none ∨ EndsAtImage text.toList) := by
  obtain ⟨pieces, dropped, hsplit, hwritten, hdropped⟩ := splitMarkdown_spec hfuel
  refine ⟨pieces, dropped, hsplit, fun hdecode => ?_, ?_⟩
  · obtain ⟨parts, hparts, hmap⟩ := mapM_toPart hdecode
    exact ⟨parts, by simp [convertText, hsplit, hparts], hmap⟩
  · rw [← hdropped, ← hwritten]
    simp

theorem convertText_keeps_iff_two :
    splitMarkdown 20 "a![](data:b)" = some ([.text ['a'], .image "![](data:b)".toList "data:b".toList], []) ∧
    ∃ parts : List (GeminiPart Unit), convertText (fun url => .ok ⟨"", url⟩) 20 "a![](data:b)" = some (.ok parts) := by
  obtain ⟨pieces, dropped, hsplit, hparts, -⟩ :=
    convertText_keeps_iff (J := Unit) (fun url => .ok ⟨"", url⟩) "a![](data:b)" 20 (by decide)
  have heval : splitMarkdown 20 "a![](data:b)" =
      some ([.text ['a'], .image "![](data:b)".toList "data:b".toList], []) := by decide
  cases hsplit
  obtain ⟨parts, hconvert, -⟩ := hparts (by simp [MarkdownPiece.toPart])
  exact ⟨heval, parts, hconvert⟩

/-- What follows an image is dropped. -/
theorem convertText_drops_end : convertText (J := Unit) (fun url => .ok ⟨"image/png", url⟩) 20 "![](data:b) so" =
      some (.ok [{ inlineData := some ⟨"image/png", "data:b"⟩ }]) := by
  decide

/-! ### The parts of an answer -/

def isCall (part : ResponsePart J) : Bool := part.inlineData.isNone && part.functionCall.isSome

/-- A thought, and neither media nor a call. -/
def isThought (part : ResponsePart J) : Bool := part.inlineData.isNone && part.functionCall.isNone && part.thought

/-- The texts of the thoughts. -/
def thoughtTexts (parts : List (ResponsePart J)) : List String :=
  parts.filterMap fun part => if isThought part then some part.text else none

/-- The text of a part that is no thought; media have a text of their own, and so has code. -/
def contentText (stream : Bool) (part : ResponsePart J) : Option String :=
  if isCall part || isThought part then none else part.inlineData.elim (part.plainText stream) (mediaText stream)

/-- What a part adds to the texts of its candidate. -/
def partText (stream : Bool) (part : ResponsePart J) : Option String :=
  if stream && isThought part then some part.text else contentText stream part

/-- The choice has the thoughts of the candidate as its reasoning and the other texts as its content, and only a
candidate with a call ends in tool calls. -/
structure Classified (stream : Bool) (candidate : ResponseCandidate J) (choice : GeminiChoice) : Prop where
  reasoning : choice.reasoningContent.getD "" = "\n".intercalate (thoughtTexts candidate.parts)
  content : choice.content = "\n".intercalate (candidate.parts.filterMap (contentText stream))
  toolCalls : choice.finishReason = some "tool_calls" → candidate.parts.any isCall

section Candidates

variable {codec : JsonCodec J} {stream : Bool} {parts : List (ResponsePart J)} {candidates : List (ResponseCandidate J)}

/-- The tool call of a part. -/
def partCall (codec : JsonCodec J) (part : ResponsePart J) : Option FunctionResponse :=
  if part.inlineData.isNone then part.functionCall.map fun call => ⟨call.name, codec.marshal call.value⟩ else none

lemma readPart_eq {s : CandidateState} {part : ResponsePart J} : readPart codec stream s part =
    { texts := s.texts ++ (partText stream part).toList
      toolCalls := s.toolCalls ++ (partCall codec part).toList
      reasoningContent := if !stream && isThought part then some part.text else s.reasoningContent
      isTools := s.isTools || isCall part
      isThought := s.isThought || stream && isThought part } := by
  rcases hdata : part.inlineData with _ | data <;> rcases hcall : part.functionCall with _ | call <;>
    cases hthought : part.thought <;> cases stream <;>
    simp [readPart, partText, contentText, partCall, isCall, isThought, hdata, hcall, hthought]

lemma filterMap_partCall : parts.filterMap (partCall codec) ≠ [] ↔ parts.any isCall := by
  simp [List.filterMap_eq_nil_iff, partCall, isCall, Option.isSome_iff_ne_none]

lemma thoughtTexts_eq_nil_iff : thoughtTexts parts = [] ↔ parts.any isThought = false := by
  simp [thoughtTexts, List.filterMap_eq_nil_iff]

lemma finishReasonGemini2OpenAI_ne {reason : String} : finishReasonGemini2OpenAI reason ≠ "tool_calls" := by
  unfold finishReasonGemini2OpenAI
  split <;> decide

lemma foldl_readPart {parts : List (ResponsePart J)} {s : CandidateState} : parts.foldl (readPart codec stream) s =
    { texts := s.texts ++ parts.filterMap (partText stream)
      toolCalls := s.toolCalls ++ parts.filterMap (partCall codec)
      reasoningContent := if stream then s.reasoningContent else (thoughtTexts parts).getLast?.or s.reasoningContent
      isTools := s.isTools || parts.any isCall
      isThought := s.isThought || stream && parts.any isThought } := by
  induction parts generalizing s with
  | nil => simp [thoughtTexts]
  | cons part parts ih =>
    rw [List.foldl_cons, ih, readPart_eq]
    have hlast (texts : List String) (first : String) (rest : Option String) :
        (first :: texts).getLast?.or rest = texts.getLast?.or (some first) := by
      cases h : texts.getLast? <;> simp [List.getLast?_cons, h]
    cases hthought : isThought part <;> cases stream <;>
      simp [List.filterMap_eq_flatMap_toList, Bool.or_assoc, thoughtTexts, hthought, hlast]

/-- The length of the texts joined by newlines, and one newline more. -/
def joinedLength (texts : List String) : Nat := (texts.map (·.length + 1)).sum

lemma joinedLength_eq_zero_iff {texts : List String} : joinedLength texts = 0 ↔ texts = [] := by
  cases texts <;> simp [joinedLength]

lemma length_intercalate {texts : List String} (h : texts ≠ []) :
    ("\n".intercalate texts).length + 1 = joinedLength texts := by
  induction texts with
  | nil => exact absurd rfl h
  | cons text rest ih =>
    by_cases hrest : rest = []
    · simp [hrest, joinedLength]
    have hnewline : "\n".length = 1 := rfl
    rw [String.intercalate_cons_of_ne_nil hrest, String.length_append, String.length_append, hnewline]
    simp only [joinedLength, List.map_cons, List.sum_cons] at ih ⊢
    have := ih hrest
    omega

/-- Only a single text is its own join: the joined text is longer than the last one. -/
lemma getLast_eq_intercalate_iff {texts : List String} :
    texts.getLast?.getD "" = "\n".intercalate texts ↔ texts.length ≤ 1 := by
  rcases List.eq_nil_or_concat texts with rfl | ⟨earlier, last, rfl⟩
  · simp
  constructor
  · intro h
    have hjoined := length_intercalate (show earlier.concat last ≠ [] by simp)
    simp only [List.concat_eq_append, List.getLast?_append, List.getLast?_singleton, Option.some_or,
      Option.getD_some] at h hjoined
    rw [← h] at hjoined
    have hearlier : joinedLength earlier = 0 := by
      simp only [joinedLength, List.map_append, List.sum_append, List.map_singleton, List.sum_singleton] at hjoined ⊢
      omega
    simp [joinedLength_eq_zero_iff.mp hearlier]
  · intro h
    have : earlier = [] := by simpa using h
    simp [this]

/-- A choice of a complete answer is right unless the candidate has several thoughts, or the flag of an earlier
candidate is set and it has no call. -/
lemma classified_false_iff {candidate : ResponseCandidate J} {isToolCall : Bool} {finishReason : String}
    {calls : List FunctionResponse} (hne : candidate.parts.any isCall = false → finishReason ≠ "tool_calls") :
    Classified false candidate
        { content := "\n".intercalate (candidate.parts.filterMap (partText false))
          reasoningContent := (thoughtTexts candidate.parts).getLast?
          toolCalls := calls
          finishReason := some (if isToolCall || candidate.parts.any isCall then "tool_calls" else finishReason) } ↔
      (thoughtTexts candidate.parts).length ≤ 1 ∧ (isToolCall → candidate.parts.any isCall) := by
  constructor
  · intro h
    refine ⟨getLast_eq_intercalate_iff.mp h.reasoning, fun hflag => h.toolCalls ?_⟩
    simp [hflag]
  · rintro ⟨hthoughts, hflag⟩
    refine ⟨getLast_eq_intercalate_iff.mpr hthoughts, rfl, fun hfinish => ?_⟩
    by_contra hnone
    have hnone := eq_false_of_ne_true hnone
    have hflag : isToolCall = false := eq_false_of_ne_true fun h => by simp [hflag h] at hnone
    simp [hflag, hnone, hne hnone] at hfinish

lemma responseGeminiChat2OpenAI_classified_iff {isToolCall : Bool} :
    List.Forall₂ (Classified false) candidates (responseGeminiChat2OpenAI codec isToolCall candidates) ↔
      (∀ candidate ∈ candidates, (thoughtTexts candidate.parts).length ≤ 1) ∧
      (candidates.Pairwise fun earlier later => earlier.parts.any isCall → later.parts.any isCall) ∧
      (isToolCall → ∀ candidate ∈ candidates, candidate.parts.any isCall) := by
  -- the flag of a complete answer goes from one candidate to the later ones
  induction candidates generalizing isToolCall with
  | nil => simp [responseGeminiChat2OpenAI]
  | cons candidate rest ih =>
    have hcalls : decide (candidate.parts.filterMap (partCall codec) ≠ []) = candidate.parts.any isCall := by
      rw [Bool.eq_iff_iff, decide_eq_true_iff, filterMap_partCall]
    simp only [responseGeminiChat2OpenAI, foldl_readPart, List.nil_append, Bool.false_or, hcalls, Bool.false_eq_true,
      if_false, Option.or_none, List.forall₂_cons, ih, List.forall_mem_cons, List.pairwise_cons]
    rw [classified_false_iff fun hnone => ?_]
    · grind
    · cases candidate.finishReason <;> simp [hnone, finishReasonGemini2OpenAI_ne]

lemma joinedLength_partText : joinedLength (parts.filterMap (partText true)) =
    joinedLength (thoughtTexts parts) + joinedLength (parts.filterMap (contentText true)) := by
  induction parts with
  | nil => rfl
  | cons part parts ih =>
    simp only [joinedLength, thoughtTexts] at ih ⊢
    cases hthought : isThought part <;> cases hcontent : contentText true part <;>
      simp_all [partText, contentText] <;> omega

/-- One flag stands for all texts of a candidate, so thoughts and contents keep apart only if one of them is missing. -/
lemma classified_true_iff {candidate : ResponseCandidate J} {calls : List FunctionResponse}
    {finishReason : Option String}
    (hfinish : finishReason = some "tool_calls" → candidate.parts.any isCall) :
    Classified true candidate
        { content := if candidate.parts.any isThought then "" else
            "\n".intercalate (candidate.parts.filterMap (partText true))
          reasoningContent := if candidate.parts.any isThought then
            some ("\n".intercalate (candidate.parts.filterMap (partText true))) else none
          toolCalls := calls
          finishReason := finishReason } ↔
      thoughtTexts candidate.parts = [] ∨ candidate.parts.filterMap (contentText true) = [] := by
  cases hparts : candidate.parts.any isThought with
  | false =>
    have hnone : ∀ part ∈ candidate.parts, isThought part = false := by simpa using hparts
    have htexts : candidate.parts.filterMap (partText true) = candidate.parts.filterMap (contentText true) :=
      List.filterMap_congr fun part hpart => by simp [partText, hnone part hpart]
    have hthoughts := thoughtTexts_eq_nil_iff.mpr hparts
    exact iff_of_true ⟨by simp [hthoughts], by simp [htexts], hfinish⟩ (.inl hthoughts)
  | true =>
    have hthoughts : thoughtTexts candidate.parts ≠ [] := fun h => by simp [thoughtTexts_eq_nil_iff.mp h] at hparts
    constructor
    · intro h
      have htexts : candidate.parts.filterMap (partText true) ≠ [] := fun h => hthoughts <|
        joinedLength_eq_zero_iff.mp (Nat.eq_zero_of_add_eq_zero_right
          (joinedLength_partText.symm.trans (by rw [h]; rfl)))
      have hlength := congrArg (·.length + 1) h.reasoning
      simp only [if_true, Option.getD_some, length_intercalate htexts, length_intercalate hthoughts,
        joinedLength_partText] at hlength
      exact .inr (joinedLength_eq_zero_iff.mp (by omega))
    · intro h
      have hcontent := h.resolve_left hthoughts
      have htexts : candidate.parts.filterMap (partText true) = thoughtTexts candidate.parts :=
        List.filterMap_congr fun part hpart => by simp [partText, List.filterMap_eq_nil_iff.mp hcontent part hpart]
      exact ⟨by simp [← htexts], by simp [hcontent], hfinish⟩

lemma streamResponseGeminiChat2OpenAI_classified_iff :
    List.Forall₂ (Classified true) candidates (streamResponseGeminiChat2OpenAI codec candidates) ↔
      ∀ candidate ∈ candidates,
        thoughtTexts candidate.parts = [] ∨ candidate.parts.filterMap (contentText true) = [] := by
  rw [streamResponseGeminiChat2OpenAI, List.forall₂_map_right_iff, List.forall₂_same]
  refine forall₂_congr fun candidate _ => ?_
  have hfinish : (if candidate.parts.any isCall then some "tool_calls"
      else (candidate.finishReason.filter (· ≠ "STOP")).map finishReasonGemini2OpenAI) = some "tool_calls" →
      candidate.parts.any isCall := by
    split
    · exact fun _ => ‹_›
    · simp [finishReasonGemini2OpenAI_ne]
  simpa only [foldl_readPart, List.nil_append, Bool.false_or, Bool.true_and] using classified_true_iff hfinish

end Candidates

/-- Thoughts, contents and finish reasons are kept apart exactly when no candidate of a complete answer has two
thoughts or lacks a call that an earlier one has, and no candidate of a stream has both a thought and a content. -/
theorem geminiChat2OpenAI_classifies_iff (codec : JsonCodec J) (candidates : List (ResponseCandidate J)) :
    (List.Forall₂ (Classified false) candidates (responseGeminiChat2OpenAI codec false candidates) ↔
      (∀ candidate ∈ candidates, (thoughtTexts candidate.parts).length ≤ 1) ∧
      candidates.Pairwise fun earlier later => earlier.parts.any isCall → later.parts.any isCall) ∧
    (List.Forall₂ (Classified true) candidates (streamResponseGeminiChat2OpenAI codec candidates) ↔
      ∀ candidate ∈ candidates,
        thoughtTexts candidate.parts = [] ∨ candidate.parts.filterMap (contentText true) = []) := by
  refine ⟨?_, streamResponseGeminiChat2OpenAI_classified_iff⟩
  rw [responseGeminiChat2OpenAI_classified_iff]
  simp

/-- A candidate with a thought and a call. -/
def callCandidate : ResponseCandidate String where
  parts := [{ text := "why", thought := true }, { functionCall := some ⟨"f", "1"⟩ }]

/-- A second candidate that loses a thought and gets the finish reason of the first; a stream whose content becomes
reasoning. -/
theorem geminiChat2OpenAI_mixes :
    responseGeminiChat2OpenAI textCodec false [callCandidate, ⟨[{ text := "one", thought := true },
      { text := "two", thought := true }, { text := "so" }], some "STOP"⟩] =
      [⟨"", some "why", [⟨"f", "1"⟩], some "tool_calls"⟩, ⟨"so", some "two", [], some "tool_calls"⟩] ∧
    streamResponseGeminiChat2OpenAI textCodec [⟨[{ text := "why", thought := true }, { text := "so" }], none⟩] =
      [⟨"", some "why\nso", [], none⟩] := by
  decide

end LoveApi.Proofs
