import LoveApi.Billing
import LoveApi.Pricing

/-!
# The quota of a text request

`calculateTextQuotaSummary` computes the quota of a request from the usage that the upstream service reports, its price
and the tools that the answer used, or by a billing expression.
-/

namespace LoveApi

open Go BillingExpr

structure InputTokenDetails where
  cachedTokens : Int := 0
  cachedCreationTokens : Int := 0
  textTokens : Int := 0
  audioTokens : Int := 0
  imageTokens : Int := 0
deriving DecidableEq, Repr

structure OutputTokenDetails where
  textTokens : Int := 0
  audioTokens : Int := 0
  imageTokens : Int := 0
deriving DecidableEq, Repr

structure Usage where
  promptTokens : Int := 0
  completionTokens : Int := 0
  totalTokens : Int := 0
  usageSemantic : String := ""
  usageSource : String := ""
  promptTokensDetails : InputTokenDetails := {}
  completionTokenDetails : OutputTokenDetails := {}
  claudeCacheCreation5mTokens : Int := 0
  claudeCacheCreation1hTokens : Int := 0
  cost : Option ℚ := none
deriving DecidableEq, Repr

inductive RelayFormat
  | openai
  | claude
  | gemini
  | openaiResponses
  | openaiResponsesCompaction
  | openaiAudio
  | openaiImage
  | openaiRealtime
  | rerank
  | embedding
  | task
  | mjProxy
deriving DecidableEq, Repr

structure BuiltInTools where
  webSearchPreview : Int := 0
  fileSearch : Int := 0
deriving DecidableEq, Repr

/-- What an answer leaves behind for billing: its usage, the format of the upstream request, the type of the
channel, and the tools that were called. -/
structure Answer where
  usage : Option Usage
  finalRequestRelayFormat : RelayFormat := .openai
  channelType : Option Int := none
  estimatePromptTokens : Int := 0
  responsesUsageInfo : Option BuiltInTools := none
  claudeWebSearchRequests : Int := 0
  /-- The quality and the size of an image generation call. -/
  imageGenerationCall : Option (String × String) := none
deriving DecidableEq, Repr

def channelTypeOpenRouter : Int := 20

def usageSemanticFromUsage (format : RelayFormat) (usage : Option Usage) : String :=
  match usage with
  | some usage => if usage.usageSemantic ≠ "" then usage.usageSemantic
      else if format = .claude then "anthropic" else "openai"
  | none => if format = .claude then "anthropic" else "openai"

def isLegacyClaudeDerivedOpenAIUsage (format : RelayFormat) (usage : Usage) : Bool :=
  format ≠ .claude && usage.usageSource = "" && usage.usageSemantic = "" &&
    (usage.claudeCacheCreation5mTokens > 0 || usage.claudeCacheCreation1hTokens > 0)

structure TextSummary extends TextQuotaSummary where
  promptTokens : Int := 0
  completionTokens : Int := 0
  cacheCreationTokens : Int := 0
  isClaudeUsageSemantic : Bool := false
  toolCallSurchargeQuota : ℚ := 0
deriving DecidableEq, Repr

section Calculation

variable (prices : PriceTables) (info : PricingInfo) (answer : Answer)

def hasCustomModelRatio (modelName : String) (currentRatio : ℚ) : Bool :=
  prices.getDefaultModelRatio modelName ≠ some currentRatio

def calcOpenRouterCacheCreateTokens (usage : Usage) (price : PriceData) : Int :=
  if price.cacheCreationRatio = 1 then 0
  else
    let quotaPrice := price.modelRatio / prices.quotaPerUnit
    let promptCacheCreatePrice := quotaPrice * price.cacheCreationRatio
    let promptCacheReadPrice := quotaPrice * price.cacheRatio
    let completionPrice := quotaPrice * price.completionRatio
    roundHalfAway ((usage.cost.getD 0 - usage.promptTokens * quotaPrice +
      usage.promptTokensDetails.cachedTokens * (quotaPrice - promptCacheReadPrice) -
      usage.completionTokens * completionPrice) / (promptCacheCreatePrice - quotaPrice))

def calculateTextToolCallSurcharge (groupRatio : ℚ) : ℚ :=
  let model := info.originModelName
  let webSearch := match answer.responsesUsageInfo with
    | some tools =>
      if tools.webSearchPreview > 0 then
        prices.getToolPriceForModel "web_search_preview" model * tools.webSearchPreview / 1000 * groupRatio *
          prices.quotaPerUnit
      else 0
    | none =>
      if hasSuffix model "search-preview" then
        prices.getToolPriceForModel "web_search_preview" model / 1000 * groupRatio * prices.quotaPerUnit
      else 0
  let claudeWebSearch :=
    if answer.claudeWebSearchRequests > 0 then
      prices.getToolPriceForModel "web_search" "" / 1000 * groupRatio * prices.quotaPerUnit *
        answer.claudeWebSearchRequests
    else 0
  let fileSearch := match answer.responsesUsageInfo with
    | some tools =>
      if tools.fileSearch > 0 then
        prices.getToolPriceForModel "file_search" "" * tools.fileSearch / 1000 * groupRatio * prices.quotaPerUnit
      else 0
    | none => 0
  let imageGeneration := match answer.imageGenerationCall with
    | some (quality, size) => prices.getGPTImage1PriceOnceCall quality size * groupRatio * prices.quotaPerUnit
    | none => 0
  webSearch + claudeWebSearch + fileSearch + imageGeneration

/-- The usage that is charged; without one, the estimate of the request's tokens. -/
def chargedUsage : Usage :=
  answer.usage.getD { promptTokens := answer.estimatePromptTokens, totalTokens := answer.estimatePromptTokens }

/-- The prompt and cache creation tokens of a usage from an OpenRouter channel, which counts the cached tokens as
prompt tokens and may leave out the cache creation. The comparison of `usage.Cost` with 0 is between an interface
that holds a float or nothing and an integer, so it never finds them equal. -/
def openRouterTokens (usage : Usage) : Int × Int :=
  let promptTokens := usage.promptTokens - usage.promptTokensDetails.cachedTokens
  let isUsingCustomSettings :=
    info.priceData.usePrice || hasCustomModelRatio prices info.originModelName info.priceData.modelRatio
  let maybeCacheCreationTokens := calcOpenRouterCacheCreateTokens prices usage info.priceData
  let cacheCreationTokens :=
    if usage.promptTokensDetails.cachedCreationTokens = 0 && info.priceData.cacheCreationRatio ≠ 1 &&
        !isUsingCustomSettings && maybeCacheCreationTokens ≥ 0 && promptTokens ≥ maybeCacheCreationTokens then
      maybeCacheCreationTokens
    else usage.promptTokensDetails.cachedCreationTokens
  (promptTokens - cacheCreationTokens, cacheCreationTokens)

/-- The tokens of a usage, each kind weighed by its ratio; `separate` says that cached tokens are not among the
prompt tokens. The second part is the quota of the audio input that has a price of its own. -/
def weighedTokens (usage : Usage) (promptTokens cacheCreationTokens : Int) (separate : Bool) : ℚ × ℚ :=
  let price := info.priceData
  let details := usage.promptTokensDetails
  let tokens5m := usage.claudeCacheCreation5mTokens
  let tokens1h := usage.claudeCacheCreation1hTokens
  let baseTokens : ℚ := promptTokens - (if separate then 0 else details.cachedTokens)
  let (baseTokens, cachedCreationTokensWithRatio) : ℚ × ℚ :=
    if cacheCreationTokens ≠ 0 ∨ tokens5m > 0 ∨ tokens1h > 0 then
      if separate then
        (baseTokens, max (cacheCreationTokens - tokens5m - tokens1h) 0 * price.cacheCreationRatio +
          tokens5m * price.cacheCreation5mRatio + tokens1h * price.cacheCreation1hRatio)
      else (baseTokens - cacheCreationTokens, cacheCreationTokens * price.cacheCreationRatio)
    else (baseTokens, 0)
  let baseTokens := baseTokens - details.imageTokens
  let audioInputPrice := prices.getGeminiInputAudioPricePerMillionTokens info.originModelName
  let separateAudio := details.audioTokens ≠ 0 ∧ audioInputPrice > 0
  let baseTokens := if separateAudio then baseTokens - details.audioTokens else baseTokens
  let audioInputQuota : ℚ :=
    if separateAudio then
      audioInputPrice / 1000000 * details.audioTokens * price.groupRatioInfo.groupRatio * prices.quotaPerUnit
    else 0
  (baseTokens + details.cachedTokens * price.cacheRatio + details.imageTokens * price.imageRatio +
    cachedCreationTokensWithRatio + usage.completionTokens * price.completionRatio, audioInputQuota)

def otherRatio (price : PriceData) : ℚ := (price.otherRatios.map Prod.snd).prod

def calculateTextQuotaSummary : TextSummary :=
  let price := info.priceData
  let groupRatio := price.groupRatioInfo.groupRatio
  let isClaudeUsageSemantic := usageSemanticFromUsage answer.finalRequestRelayFormat answer.usage = "anthropic"
  let usage := chargedUsage answer
  let legacyClaudeDerived := isLegacyClaudeDerivedOpenAIUsage answer.finalRequestRelayFormat usage
  let (promptTokens, cacheCreationTokens) :=
    if answer.channelType = some channelTypeOpenRouter && isClaudeUsageSemantic then openRouterTokens prices info usage
    else (usage.promptTokens, usage.promptTokensDetails.cachedCreationTokens)
  let ratio := price.modelRatio * groupRatio
  let surcharge := calculateTextToolCallSurcharge prices info answer groupRatio
  let quota :=
    if !price.usePrice then
      let (tokens, audioInputQuota) := weighedTokens prices info usage promptTokens cacheCreationTokens
        (isClaudeUsageSemantic || legacyClaudeDerived)
      let quotaCalculateDecimal := (tokens * ratio + surcharge + audioInputQuota) * otherRatio price
      roundHalfAway (if ratio ≠ 0 ∧ quotaCalculateDecimal ≤ 0 then 1 else quotaCalculateDecimal)
    else roundHalfAway ((price.modelPrice * prices.quotaPerUnit * groupRatio + surcharge) * otherRatio price)
  let totalTokens := usage.promptTokens + usage.completionTokens
  { quota := if totalTokens = 0 then 0 else if ratio ≠ 0 ∧ quota = 0 then 1 else quota
    totalTokens := totalTokens
    modelName := info.originModelName
    promptTokens := promptTokens
    completionTokens := usage.completionTokens
    cacheCreationTokens := cacheCreationTokens
    isClaudeUsageSemantic := isClaudeUsageSemantic
    toolCallSurchargeQuota := surcharge }

end Calculation

/-! ### Settlement by an expression -/

/-- The token counts of a usage, as an expression that uses the variables `used` sees them. -/
def buildTieredTokenParams (usage : Usage) (isClaudeUsageSemantic : Bool) (used : Var → Bool) : TokenParams :=
  let p : ℚ := usage.promptTokens
  let c : ℚ := usage.completionTokens
  let cr : ℚ := usage.promptTokensDetails.cachedTokens
  let anthropic := usage.usageSemantic = "anthropic"
  let cc5m : ℚ :=
    if anthropic then usage.claudeCacheCreation5mTokens else usage.promptTokensDetails.cachedCreationTokens
  let cc1h : ℚ := if anthropic then usage.claudeCacheCreation1hTokens else 0
  let img : ℚ := usage.promptTokensDetails.imageTokens
  let ai : ℚ := usage.promptTokensDetails.audioTokens
  let imgO : ℚ := usage.completionTokenDetails.imageTokens
  let ao : ℚ := usage.completionTokenDetails.audioTokens
  let inputLen := if isClaudeUsageSemantic then p + cr + cc5m + cc1h else p
  -- A kind of tokens that the expression prices by itself is taken out of the total.
  let own (x : Var) (tokens : ℚ) : ℚ := if !isClaudeUsageSemantic && used x then tokens else 0
  let p := p - own .cr cr - own .cc cc5m - own .cc1h cc1h - own .img img - own .ai ai
  let c := c - own .imgO imgO - own .ao ao
  { p := max p 0, c := max c 0, len := inputLen, cr := cr, cc := cc5m, cc1h := cc1h, img := img, imgO := imgO,
    ai := ai, ao := ao }

section Tiered

variable (host : Host) (now : Time) (finalPreConsumedQuota : Int)

/-- The quota by the expression that was frozen with the price; if it cannot be evaluated, what was taken in
advance or estimated. -/
def tryTieredSettle (info : PricingInfo) (params : TokenParams) : Option (Int × Option TieredResult) :=
  match info.tieredBillingSnapshot with
  | none => none
  | some snap =>
    if snap.billingMode ≠ "tiered_expr" then none
    else
      match computeTieredQuotaWithRequest host now snap params (info.billingRequestInput.getD {}) with
      | .error _ =>
        some (if finalPreConsumedQuota ≤ 0 then snap.estimatedQuotaAfterGroup else finalPreConsumedQuota, none)
      | .ok result => some (result.actualQuotaAfterGroup, some result)

def composeTieredTextQuota (info : PricingInfo) (summary : TextSummary) (tieredQuota : Int)
    (tieredResult : Option TieredResult) : Int :=
  if summary.toolCallSurchargeQuota = 0 then tieredQuota
  else
    match tieredResult, info.tieredBillingSnapshot with
    | some result, some snap =>
      roundHalfAway (result.actualQuotaBeforeGroup * snap.groupRatio + summary.toolCallSurchargeQuota)
    | _, _ => tieredQuota + roundHalfAway summary.toolCallSurchargeQuota

/-- The variables of the expression that was frozen with the price. -/
def tieredUsedVars (info : PricingInfo) (x : Var) : Bool :=
  match info.tieredBillingSnapshot with
  | some snap => usedVars host snap.exprString x
  | none => false

variable (prices : PriceTables)

def textQuota (info : PricingInfo) (answer : Answer) : TextSummary :=
  let summary := calculateTextQuotaSummary prices info answer
  match answer.usage with
  | none => summary
  | some usage =>
    let params := buildTieredTokenParams usage summary.isClaudeUsageSemantic (tieredUsedVars host info)
    match tryTieredSettle host now finalPreConsumedQuota info params with
    | none => summary
    | some (tieredQuota, tieredResult) =>
      { summary with quota := composeTieredTextQuota info summary tieredQuota tieredResult }

end Tiered

end LoveApi
