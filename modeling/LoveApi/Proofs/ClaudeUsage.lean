import LoveApi.ClaudeUsage
import LoveApi.Proofs.TieredQuota

/-!
# Streamed and whole Claude answers

A message and a stream of events that serialises it lead to the same usage, except where the output count is 0: then the
stream is charged by the estimate of its text.
-/

namespace LoveApi.Proofs

open Go BillingExpr List Option

variable {total : ClaudeUsage}

/-! ### Serialisations -/

structure Cumulative (start delta total : Int) : Prop where
  nonneg : 0 ≤ start
  grows : start ≤ total
  last : delta = total ∨ (delta = 0 ∧ start = total)

def IsBlock (event : ClaudeResponse) : Prop :=
  event.error = none ∧ event.type ∈ [ClaudeType.contentBlockStart, .contentBlockDelta, .contentBlockStop, .ping]

/-- A stream that reports a usage, split over its first and last events. -/
structure Serialisation (total : ClaudeUsage) where
  start : ClaudeUsage
  blocks : List ClaudeResponse
  delta : ClaudeUsage
  isBlock : ∀ event ∈ blocks, IsBlock event
  input : Cumulative start.inputTokens delta.inputTokens total.inputTokens
  cacheRead : Cumulative start.cacheReadInputTokens delta.cacheReadInputTokens total.cacheReadInputTokens
  cacheCreation :
    Cumulative start.cacheCreationInputTokens delta.cacheCreationInputTokens total.cacheCreationInputTokens
  split5m : Cumulative start.getCacheCreation5mTokens delta.getCacheCreation5mTokens total.getCacheCreation5mTokens
  split1h : Cumulative start.getCacheCreation1hTokens delta.getCacheCreation1hTokens total.getCacheCreation1hTokens
  output : Cumulative start.outputTokens delta.outputTokens total.outputTokens
  outputLast : delta.outputTokens = total.outputTokens
  webSearch : delta.serverToolUse = total.serverToolUse

def addText (text : String) (event : ClaudeResponse) : String :=
  match event.type, event.delta with
  | .contentBlockDelta, some delta => text ++ delta.text.getD "" ++ delta.thinking.getD ""
  | _, _ => text

namespace Serialisation

variable (s : Serialisation total)

def events : List ClaudeResponse :=
  { type := .messageStart, message := some { usage := some s.start } } :: s.blocks ++
    [{ type := .messageDelta, usage := some s.delta }, { type := .messageStop }]

def text : String := s.blocks.foldl addText ""

end Serialisation

/-! ### The usage of a stream -/

def messageUsage (total : ClaudeUsage) : Usage where
  promptTokens := total.inputTokens
  completionTokens := total.outputTokens
  totalTokens := total.inputTokens + total.outputTokens
  usageSemantic := "anthropic"
  promptTokensDetails :=
    { cachedTokens := total.cacheReadInputTokens, cachedCreationTokens := total.cacheCreationInputTokens }
  claudeCacheCreation5mTokens := total.getCacheCreation5mTokens
  claudeCacheCreation1hTokens := total.getCacheCreation1hTokens

lemma handleClaudeResponseData_eq {message : ClaudeResponse} (herror : message.error = none)
    (husage : message.usage = some total) :
    handleClaudeResponseData message = .ok (messageUsage total, max (total.serverToolUse.getD 0) 0) := by
  unfold handleClaudeResponseData claudeError
  simp only [herror, husage, bind_none, bind_some]
  congr 2
  split <;> omega

lemma Cumulative.latest {start delta total : Int} (h : Cumulative start delta total) :
    (if delta > 0 then delta else start) = total := by
  obtain ⟨hnonneg, hgrows, hlast⟩ := h
  split <;> omega

lemma deltaUsage_startUsage {s : Serialisation total} :
    deltaUsage (startUsage {} s.start) s.delta = messageUsage total := by
  unfold deltaUsage startUsage messageUsage
  simp only [s.input.latest, s.cacheRead.latest, s.cacheCreation.latest, s.split5m.latest, s.split1h.latest,
    s.output.latest]

section Stream

variable {relayFormat : RelayFormat}

lemma foldlM_blocks (hformat : relayFormat = .claude ∨ relayFormat = .openai) (blocks : List ClaudeResponse)
    (hblocks : ∀ event ∈ blocks, IsBlock event) (info : ClaudeResponseInfo) :
    blocks.foldlM (handleStreamResponseData relayFormat) info =
      .ok { info with responseText := blocks.foldl addText info.responseText } := by
  induction blocks generalizing info with
  | nil => rfl
  | cons event blocks ih =>
    obtain ⟨⟨herror, htype⟩, hrest⟩ := forall_mem_cons.mp hblocks
    have hstep : handleStreamResponseData relayFormat info event =
        .ok { info with responseText := addText info.responseText event } := by
      unfold handleStreamResponseData claudeError
      simp only [herror, bind_none, hformat, if_true, Except.ok.injEq]
      unfold formatClaudeResponseInfo addText
      simp only [mem_cons, not_mem_nil, or_false] at htype
      rcases htype with htype | htype | htype | htype
      · rw [htype]
      · rw [htype]
        rcases event.delta with _ | delta
        · rfl
        · rfl
      · rw [htype]
      · rw [htype]
    rw [foldlM_cons, hstep]
    exact ih hrest _

def streamUsage (total : ClaudeUsage) (textTokens estimate : Int) : Usage :=
  if total.outputTokens = 0 then
    let promptTokens := if total.inputTokens = 0 then estimate else total.inputTokens
    { messageUsage total with
      completionTokens := textTokens
      promptTokens := promptTokens
      totalTokens := promptTokens + textTokens }
  else messageUsage total

lemma claudeStreamHandler_eq (hformat : relayFormat = .claude ∨ relayFormat = .openai) {s : Serialisation total}
    {countText : String → Int} {estimate : Int} :
    claudeStreamHandler relayFormat countText estimate s.events =
      .ok (streamUsage total (countText s.text) estimate) := by
  have hinfo : s.events.foldlM (handleStreamResponseData relayFormat) {} =
      .ok { responseText := s.text, usage := messageUsage total, done := true } := by
    have hstart : handleStreamResponseData relayFormat {}
        { type := .messageStart, message := some { usage := some s.start } } =
        .ok { usage := startUsage {} s.start } := by
      simp [handleStreamResponseData, claudeError, hformat, formatClaudeResponseInfo]
    have hdelta : ∀ info, handleStreamResponseData relayFormat info
        { type := .messageDelta, usage := some s.delta } =
        .ok { info with usage := deltaUsage info.usage s.delta, done := true } := by
      simp [handleStreamResponseData, claudeError, hformat, formatClaudeResponseInfo]
    have hstop : ∀ info, handleStreamResponseData relayFormat info { type := .messageStop } = .ok info := by
      simp [handleStreamResponseData, claudeError, hformat, formatClaudeResponseInfo]
    unfold Serialisation.events
    rw [cons_append, foldlM_cons, hstart]
    show ((s.blocks ++ _).foldlM _ _) = _
    rw [foldlM_append, foldlM_blocks hformat s.blocks s.isBlock]
    show (handleStreamResponseData relayFormat _ _ >>= _) = _
    rw [hdelta]
    show (handleStreamResponseData relayFormat _ _ >>= _) = _
    rw [hstop, deltaUsage_startUsage]
    rfl
  unfold claudeStreamHandler
  rw [hinfo]
  unfold handleStreamFinalResponse streamUsage messageUsage
  by_cases hzero : total.outputTokens = 0
  · simp [hzero, bind, Except.bind, pure, Except.pure]
  · simp [hzero, bind, Except.bind, pure, Except.pure]

end Stream

/-! ### The quota of a stream -/

/-- A stream is charged like the message: it has an output count, or no token is estimated in its place; and no web
search is charged. -/
structure StreamPriced (total : ClaudeUsage) (textTokens estimate : Int) : Prop where
  output : total.outputTokens = 0 → textTokens = 0
  input : total.outputTokens = 0 → total.inputTokens = 0 → estimate = 0
  webSearch : total.serverToolUse.getD 0 ≤ 0 ∨ total.inputTokens + total.outputTokens = 0

lemma quota_of_no_tokens {prices : PriceTables} {info : PricingInfo} {answer : Answer}
    (h : (chargedUsage answer).promptTokens + (chargedUsage answer).completionTokens = 0) :
    (calculateTextQuotaSummary prices info answer).quota = 0 := by
  unfold calculateTextQuotaSummary
  simp only [h, if_true]

def perToken : PricingInfo where
  originModelName := ""
  priceData := { modelRatio := 1, completionRatio := 1 }

lemma quota_perToken {usage : Usage} (hsemantic : usage.usageSemantic = "anthropic")
    (hdetails : usage.promptTokensDetails.imageTokens = 0 ∧ usage.promptTokensDetails.audioTokens = 0)
    (hnonneg : 0 ≤ usage.promptTokens + usage.completionTokens) {webSearch : Int} :
    (calculateTextQuotaSummary {} perToken { usage := some usage, claudeWebSearchRequests := webSearch }).quota =
      usage.promptTokens + usage.completionTokens := by
  have hform : (calculateTextQuotaSummary {} perToken
      { usage := some usage, claudeWebSearchRequests := webSearch }).quota =
      let tokens := usage.promptTokens + usage.completionTokens
      let quota := roundHalfAway (if (tokens : ℚ) ≤ 0 then 1 else tokens)
      if tokens = 0 then 0 else if quota = 0 then 1 else quota := by
    unfold calculateTextQuotaSummary
    simp [chargedUsage, perToken, usageSemanticFromUsage, hsemantic, weighedTokens, hdetails,
      calculateTextToolCallSurcharge, otherRatio]
  rw [hform]
  by_cases hzero : usage.promptTokens + usage.completionTokens = 0
  · simp [hzero]
  · have hpos : ¬((usage.promptTokens + usage.completionTokens : Int) : ℚ) ≤ 0 := by
      have hlt : 0 < usage.promptTokens + usage.completionTokens := by omega
      rw [not_le]
      exact_mod_cast hlt
    simp only [hpos, hzero, if_false, roundHalfAway_intCast]

/-- Web searches are charged at their number, and nothing else. -/
def perSearch : PriceTables where
  getToolPriceForModel tool _ := if tool = "web_search" then 1 / 500 else 0

def freeOfCharge : PricingInfo where
  originModelName := ""
  priceData := { usePrice := true }

lemma quota_perSearch {usage : Usage} (htokens : usage.promptTokens + usage.completionTokens ≠ 0) {webSearch : Int}
    (hnonneg : 0 ≤ webSearch) :
    (calculateTextQuotaSummary perSearch freeOfCharge
      { usage := some usage, claudeWebSearchRequests := webSearch }).quota = webSearch := by
  have hsurcharge : calculateTextToolCallSurcharge perSearch freeOfCharge
      { usage := some usage, claudeWebSearchRequests := webSearch } 1 = webSearch := by
    unfold calculateTextToolCallSurcharge
    rcases hnonneg.eq_or_lt with rfl | hpos
    · simp [freeOfCharge, perSearch]
    · simp [freeOfCharge, perSearch, hpos]
      ring
  unfold calculateTextQuotaSummary
  simp only [chargedUsage, getD_some, htokens, if_false, freeOfCharge] at hsurcharge ⊢
  simp [hsurcharge, otherRatio, roundHalfAway_intCast]

section Counts

variable {textTokens estimate webSearch : Int}

lemma StreamPriced.streamUsage_eq (h : StreamPriced total textTokens estimate) :
    streamUsage total textTokens estimate = messageUsage total := by
  unfold streamUsage
  by_cases hzero : total.outputTokens = 0
  · by_cases hin : total.inputTokens = 0
    · simp [messageUsage, h.output hzero, h.input hzero hin, hin, hzero]
    · simp [messageUsage, h.output hzero, hin, hzero]
  · rw [if_neg hzero]

lemma counts_of_quota_eq (hinput : 0 ≤ total.inputTokens) (htext : 0 ≤ textTokens) (hestimate : 0 ≤ estimate)
    (h : (calculateTextQuotaSummary {} perToken
        { usage := some (streamUsage total textTokens estimate), claudeWebSearchRequests := 0 }).quota =
      (calculateTextQuotaSummary {} perToken
        { usage := some (messageUsage total), claudeWebSearchRequests := webSearch }).quota) :
    (total.outputTokens = 0 → textTokens = 0) ∧ (total.outputTokens = 0 → total.inputTokens = 0 → estimate = 0) := by
  by_cases hzero : total.outputTokens = 0
  · rw [streamUsage, if_pos hzero, quota_perToken rfl ⟨rfl, rfl⟩ (by dsimp only; split <;> omega),
      quota_perToken rfl ⟨rfl, rfl⟩ (by dsimp only [messageUsage]; omega)] at h
    dsimp only [messageUsage] at h
    refine ⟨fun _ => ?_, fun _ hin => ?_⟩
    · split at h <;> omega
    · omega
  · exact ⟨fun h => absurd h hzero, fun h => absurd h hzero⟩

lemma no_search_of_quota_eq (hinput : 0 ≤ total.inputTokens) (htext : 0 ≤ textTokens)
    (h : (calculateTextQuotaSummary perSearch freeOfCharge
        { usage := some (streamUsage total textTokens estimate), claudeWebSearchRequests := 0 }).quota =
      (calculateTextQuotaSummary perSearch freeOfCharge
        { usage := some (messageUsage total), claudeWebSearchRequests := max webSearch 0 }).quota) :
    webSearch ≤ 0 ∨ total.inputTokens + total.outputTokens = 0 := by
  by_cases hne : total.inputTokens + total.outputTokens = 0
  · exact .inr hne
  have hstream : (streamUsage total textTokens estimate).promptTokens +
      (streamUsage total textTokens estimate).completionTokens ≠ 0 := by
    unfold streamUsage
    by_cases hzero : total.outputTokens = 0
    · rw [if_pos hzero]
      dsimp only
      split <;> omega
    · rw [if_neg hzero]
      exact hne
  rw [quota_perSearch hstream (le_refl 0), quota_perSearch hne (le_max_right _ _)] at h
  exact .inl (max_eq_right_iff.mp h.symm)

end Counts

/-- A stream has the quota of the message that it serialises, whatever the prices are, exactly if the message has an
output count (or nothing is estimated in its place) and no web search that is charged. -/
theorem stream_quota_eq_iff {relayFormat : RelayFormat} {total : ClaudeUsage} {message : ClaudeResponse}
    {countText : String → Int} {estimate : Int} (s : Serialisation total)
    (hformat : relayFormat = .claude ∨ relayFormat = .openai) (herror : message.error = none)
    (husage : message.usage = some total) (hcount : 0 ≤ countText s.text) (hestimate : 0 ≤ estimate) :
    (∀ (prices : PriceTables) (info : PricingInfo) (answer : Answer) (streamed whole : Usage) (webSearch : Int),
      claudeStreamHandler relayFormat countText estimate s.events = .ok streamed →
      handleClaudeResponseData message = .ok (whole, webSearch) →
      (calculateTextQuotaSummary prices info
          { answer with usage := some streamed, claudeWebSearchRequests := 0 }).quota =
        (calculateTextQuotaSummary prices info
          { answer with usage := some whole, claudeWebSearchRequests := webSearch }).quota) ↔
      StreamPriced total (countText s.text) estimate := by
  have hinput : 0 ≤ total.inputTokens := s.input.nonneg.trans s.input.grows
  rw [claudeStreamHandler_eq hformat, handleClaudeResponseData_eq herror husage]
  constructor
  · intro h
    have hsame := fun prices info answer => h prices info answer _ _ _ rfl rfl
    obtain ⟨htext, hprompt⟩ := counts_of_quota_eq hinput hcount hestimate (hsame {} perToken { usage := none })
    exact ⟨htext, hprompt, no_search_of_quota_eq hinput hcount (hsame perSearch freeOfCharge { usage := none })⟩
  · intro h prices info answer streamed whole webSearch hstreamed hwhole
    cases hstreamed
    cases hwhole
    rw [h.streamUsage_eq]
    rcases h.webSearch with hnone | hnone
    · rw [max_eq_right hnone]
    · rw [quota_of_no_tokens (by exact hnone), quota_of_no_tokens (by exact hnone)]

def shortUsage (webSearch : Option Int) : ClaudeUsage :=
  { inputTokens := 10, outputTokens := 20, serverToolUse := webSearch }

/-- Its stream: the input count comes first, the output count last. -/
def shortStream (webSearch : Option Int) : Serialisation (shortUsage webSearch) where
  start := { inputTokens := 10, outputTokens := 1 }
  blocks := [{ type := .contentBlockDelta, delta := some { text := some "Hello" } }]
  delta := { outputTokens := 20, serverToolUse := webSearch }
  isBlock := by
    intro event hevent
    obtain rfl := List.mem_singleton.mp hevent
    exact ⟨rfl, by decide⟩
  input := ⟨by decide, le_refl _, .inr ⟨rfl, rfl⟩⟩
  cacheRead := ⟨le_refl _, le_refl _, .inl rfl⟩
  cacheCreation := ⟨le_refl _, le_refl _, .inl rfl⟩
  split5m := ⟨le_refl _, le_refl _, .inl rfl⟩
  split1h := ⟨le_refl _, le_refl _, .inl rfl⟩
  output := ⟨by decide, by show (1 : Int) ≤ 20; decide, .inl rfl⟩
  outputLast := rfl
  webSearch := rfl

theorem stream_quota_eq_short : StreamPriced (shortUsage none) 5 10 ∧ ∀ prices info streamed whole webSearch,
    claudeStreamHandler .claude (fun _ => 5) 10 (shortStream none).events = .ok streamed →
    handleClaudeResponseData { type := .message, usage := some (shortUsage none) } = .ok (whole, webSearch) →
    (calculateTextQuotaSummary prices info { usage := some streamed }).quota =
      (calculateTextQuotaSummary prices info { usage := some whole, claudeWebSearchRequests := webSearch }).quota := by
  have hpriced : StreamPriced (shortUsage none) 5 10 :=
    ⟨fun h => absurd h (by decide), fun h => absurd h (by decide), .inl (by decide)⟩
  refine ⟨hpriced, fun prices info => ?_⟩
  exact (stream_quota_eq_iff (shortStream none) (.inl rfl) rfl rfl (by decide) (by decide)).mpr hpriced prices info
    { usage := none }

/-- The web searches of a streamed answer are free, those of a whole one are not. -/
theorem stream_drops_searches :
    (claudeStreamHandler .claude (fun _ => 5) 10 (shortStream (some 2)).events).map (fun usage =>
      (calculateTextQuotaSummary perSearch freeOfCharge { usage := some usage }).quota) = .ok 0 ∧
    (handleClaudeResponseData { type := .message, usage := some (shortUsage (some 2)) }).map (fun result =>
      (calculateTextQuotaSummary perSearch freeOfCharge
        { usage := some result.1, claudeWebSearchRequests := result.2 }).quota) = .ok 2 := by
  decide +kernel

end LoveApi.Proofs
