import LoveApi.Proofs.RetryPricing
import Mathlib.Tactic.Positivity

/-!
# Usages of different conventions

A usage counts cached tokens among the prompt tokens or beside them. The quota by ratios is a rounded sum of the weighed
tokens that is kept above zero.
-/

namespace LoveApi.Proofs

open Go

/-! ### The quota as a function of an exact sum -/

def clampQuota (ratio sum : ℚ) : Int :=
  let quota := roundHalfAway (if ratio ≠ 0 ∧ sum ≤ 0 then 1 else sum)
  if ratio ≠ 0 ∧ quota = 0 then 1 else quota

lemma clampQuota_zero {sum : ℚ} : clampQuota 0 sum = roundHalfAway sum := by
  simp [clampQuota]

lemma clampQuota_of_ne {ratio : ℚ} (h : ratio ≠ 0) {sum : ℚ} : clampQuota ratio sum = max 1 (roundHalfAway sum) := by
  have hone : roundHalfAway 1 = 1 := roundHalfAway_intCast 1
  unfold clampQuota
  by_cases hsum : sum ≤ 0
  · have hround : roundHalfAway sum ≤ 0 := (roundHalfAway_mono hsum).trans (roundHalfAway_intCast 0).le
    simp only [h, hsum, ne_eq, not_false_eq_true, and_self, if_true, hone, one_ne_zero, and_false, if_false]
    omega
  · have hround := roundHalfAway_nonneg (not_le.mp hsum).le
    simp only [h, hsum, ne_eq, not_false_eq_true, and_false, if_false, true_and]
    split <;> omega

lemma clampQuota_mono (ratio : ℚ) {x y : ℚ} (h : x ≤ y) : clampQuota ratio x ≤ clampQuota ratio y := by
  have hround := roundHalfAway_mono h
  by_cases hratio : ratio = 0
  · rw [hratio, clampQuota_zero, clampQuota_zero]
    exact hround
  · rw [clampQuota_of_ne hratio, clampQuota_of_ne hratio]
    omega

section Quota

variable {prices : PriceTables} {info : PricingInfo} {answer : Answer} {usage : Usage}

abbrev Anthropic (answer : Answer) : Prop :=
  usageSemanticFromUsage answer.finalRequestRelayFormat answer.usage = "anthropic"

abbrev OpenRouter (answer : Answer) : Prop := answer.channelType = some channelTypeOpenRouter

/-- The price of a token by the ratios. -/
abbrev tokenPrice (info : PricingInfo) : ℚ := info.priceData.modelRatio * info.priceData.groupRatioInfo.groupRatio

def weighedSum (prices : PriceTables) (info : PricingInfo) (answer : Answer) (weighed : ℚ × ℚ) : ℚ :=
  let groupRatio := info.priceData.groupRatioInfo.groupRatio
  (weighed.1 * (info.priceData.modelRatio * groupRatio) + calculateTextToolCallSurcharge prices info answer groupRatio +
    weighed.2) * otherRatio info.priceData

def countedTokens (prices : PriceTables) (info : PricingInfo) (answer : Answer) (usage : Usage) : Int × Int :=
  if OpenRouter answer && Anthropic answer then openRouterTokens prices info usage
  else (usage.promptTokens, usage.promptTokensDetails.cachedCreationTokens)

lemma textQuota_of_ratio (hprice : info.priceData.usePrice = false) (husage : answer.usage = some usage) :
    (calculateTextQuotaSummary prices info answer).quota =
      if usage.promptTokens + usage.completionTokens = 0 then 0
      else clampQuota (tokenPrice info)
        (weighedSum prices info answer (weighedTokens prices info usage (countedTokens prices info answer usage).1
          (countedTokens prices info answer usage).2
          (decide (Anthropic answer) || isLegacyClaudeDerivedOpenAIUsage answer.finalRequestRelayFormat usage))) := by
  have hcharged : chargedUsage answer = usage := by rw [chargedUsage, husage, Option.getD_some]
  simp only [calculateTextQuotaSummary, hcharged, hprice, Bool.not_false, if_true, clampQuota, weighedSum,
    countedTokens]
  rfl

end Quota

/-! ### Bounds of the quota -/

/-- Settings without a negative price. The prices of generated images are a table of positive numbers. -/
structure NonnegPrices (prices : PriceTables) : Prop where
  quotaPerUnit : 0 ≤ prices.quotaPerUnit
  tool : ∀ name model, 0 ≤ prices.getToolPriceForModel name model
  image : ∀ quality size, 0 ≤ prices.getGPTImage1PriceOnceCall quality size

/-- No ratio of tokens is negative. -/
structure NonnegTokenRatios (price : PriceData) : Prop where
  model : 0 ≤ price.modelRatio
  completion : 0 ≤ price.completionRatio
  cache : 0 ≤ price.cacheRatio
  cacheCreation : 0 ≤ price.cacheCreationRatio
  cacheCreation5m : 0 ≤ price.cacheCreation5mRatio
  cacheCreation1h : 0 ≤ price.cacheCreation1hRatio
  image : 0 ≤ price.imageRatio

structure NonnegRatios (price : PriceData) : Prop extends NonnegTokenRatios price where
  group : 0 ≤ price.groupRatioInfo.groupRatio
  other : ∀ entry ∈ price.otherRatios, 0 < entry.2

structure NonnegCounts (usage : Usage) : Prop where
  prompt : 0 ≤ usage.promptTokens
  completion : 0 ≤ usage.completionTokens
  cached : 0 ≤ usage.promptTokensDetails.cachedTokens
  cachedCreation : 0 ≤ usage.promptTokensDetails.cachedCreationTokens
  cachedCreation5m : 0 ≤ usage.claudeCacheCreation5mTokens
  cachedCreation1h : 0 ≤ usage.claudeCacheCreation1hTokens
  audio : 0 ≤ usage.promptTokensDetails.audioTokens
  image : 0 ≤ usage.promptTokensDetails.imageTokens

section Bounds

variable {prices : PriceTables} {info : PricingInfo} {answer : Answer} {usage : Usage}

lemma NonnegRatios.otherRatio_pos {price : PriceData} (h : NonnegRatios price) : 0 < otherRatio price := by
  apply List.prod_pos
  intro ratio hratio
  obtain ⟨entry, hentry, rfl⟩ := List.mem_map.mp hratio
  exact h.other entry hentry

lemma NonnegPrices.toolCallSurcharge_nonneg (h : NonnegPrices prices) {groupRatio : ℚ} (hgroup : 0 ≤ groupRatio) :
    0 ≤ calculateTextToolCallSurcharge prices info answer groupRatio := by
  have hunit := h.quotaPerUnit
  have hpreview := h.tool "web_search_preview" info.originModelName
  have hsearch := h.tool "web_search" ""
  have hfile := h.tool "file_search" ""
  apply add_nonneg
  · apply add_nonneg
    · apply add_nonneg
      · cases answer.responsesUsageInfo with
        | none => dsimp only; split <;> positivity
        | some tools =>
          dsimp only
          split
          · positivity
          · exact le_refl _
      · split
        · positivity
        · exact le_refl _
    · cases answer.responsesUsageInfo with
      | none => exact le_refl _
      | some tools =>
        dsimp only
        split
        · positivity
        · exact le_refl _
  · cases answer.imageGenerationCall with
    | none => exact le_refl _
    | some call =>
      have := h.image call.1 call.2
      positivity

lemma weighedTokens_snd_nonneg (hunit : 0 ≤ prices.quotaPerUnit)
    (hgroup : 0 ≤ info.priceData.groupRatioInfo.groupRatio) (haudio : 0 ≤ usage.promptTokensDetails.audioTokens)
    {promptTokens cacheCreationTokens : Int} {separate : Bool} :
    0 ≤ (weighedTokens prices info usage promptTokens cacheCreationTokens separate).2 := by
  simp only [weighedTokens]
  split
  · rename_i h
    have := h.2.le
    positivity
  · exact le_refl _

def withTokens (usage : Usage) (promptTokens completionTokens totalTokens : Int) : Usage :=
  { usage with promptTokens := promptTokens, completionTokens := completionTokens, totalTokens := totalTokens }

lemma weighedTokens_mono (hratio : 0 ≤ info.priceData.completionRatio) {promptTokens completionTokens totalTokens : Int}
    (hprompt : usage.promptTokens ≤ promptTokens) (hcompletion : usage.completionTokens ≤ completionTokens)
    (cacheCreationTokens : Int) (separate : Bool) :
    let weighed := weighedTokens prices info usage usage.promptTokens cacheCreationTokens separate
    let weighed' := weighedTokens prices info (withTokens usage promptTokens completionTokens totalTokens) promptTokens
      cacheCreationTokens separate
    weighed.1 ≤ weighed'.1 ∧ weighed.2 = weighed'.2 := by
  have hprompt : (usage.promptTokens : ℚ) ≤ promptTokens := by exact_mod_cast hprompt
  have hcompletion : (usage.completionTokens : ℚ) * info.priceData.completionRatio ≤
      completionTokens * info.priceData.completionRatio := by
    apply mul_le_mul_of_nonneg_right _ hratio
    exact_mod_cast hcompletion
  simp only [weighedTokens, withTokens]
  constructor
  · split_ifs <;> dsimp only <;> linarith
  · trivial

lemma weighedSum_mono (hratios : NonnegRatios info.priceData) {x y : ℚ × ℚ} (hfst : x.1 ≤ y.1) (hsnd : x.2 = y.2) :
    weighedSum prices info answer x ≤ weighedSum prices info answer y := by
  have hratio : 0 ≤ tokenPrice info := mul_nonneg hratios.model hratios.group
  apply mul_le_mul_of_nonneg_right _ hratios.otherRatio_pos.le
  rw [hsnd]
  gcongr

lemma weighedSum_nonneg (hprices : NonnegPrices prices) (hratios : NonnegRatios info.priceData) {weighed : ℚ × ℚ}
    (hratio : tokenPrice info = 0) (hsnd : 0 ≤ weighed.2) :
    0 ≤ weighedSum prices info answer weighed := by
  have hother := hratios.otherRatio_pos
  have htools := @NonnegPrices.toolCallSurcharge_nonneg _ info answer hprices _ hratios.group
  simp only [weighedSum, hratio, mul_zero, zero_add]
  positivity

/-- What a usage costs. -/
def usageQuota (prices : PriceTables) (info : PricingInfo) (answer : Answer) (usage : Usage) : Int :=
  (calculateTextQuotaSummary prices info { answer with usage := some usage }).quota

def usageSum (prices : PriceTables) (info : PricingInfo) (answer : Answer) (usage : Usage) : ℚ :=
  weighedSum prices info answer (weighedTokens prices info usage usage.promptTokens
    usage.promptTokensDetails.cachedCreationTokens (Anthropic { answer with usage := some usage } ||
      isLegacyClaudeDerivedOpenAIUsage answer.finalRequestRelayFormat usage))

section

variable (hprice : info.priceData.usePrice = false) (hchannel : ¬ OpenRouter answer)

include hprice hchannel

lemma usageQuota_eq (usage : Usage) : usageQuota prices info answer usage =
    if usage.promptTokens + usage.completionTokens = 0 then 0
    else clampQuota (tokenPrice info)
      (usageSum prices info answer usage) := by
  have hcounted : countedTokens prices info { answer with usage := some usage } usage =
      (usage.promptTokens, usage.promptTokensDetails.cachedCreationTokens) := by
    simp [countedTokens, OpenRouter, hchannel]
  rw [usageQuota, textQuota_of_ratio hprice rfl, hcounted]
  rfl

lemma one_le_usageQuota (hratio : tokenPrice info ≠ 0)
    (htokens : usage.promptTokens + usage.completionTokens ≠ 0) : 1 ≤ usageQuota prices info answer usage := by
  rw [usageQuota_eq hprice hchannel, if_neg htokens, clampQuota_of_ne hratio]
  exact le_max_left _ _

lemma usageQuota_nonneg (hprices : NonnegPrices prices) (hratios : NonnegRatios info.priceData)
    (haudio : 0 ≤ usage.promptTokensDetails.audioTokens) : 0 ≤ usageQuota prices info answer usage := by
  by_cases htokens : usage.promptTokens + usage.completionTokens = 0
  · rw [usageQuota_eq hprice hchannel, if_pos htokens]
  · by_cases hratio : tokenPrice info = 0
    · rw [usageQuota_eq hprice hchannel, if_neg htokens, hratio, clampQuota_zero]
      apply roundHalfAway_nonneg
      apply weighedSum_nonneg hprices hratios hratio
      exact weighedTokens_snd_nonneg hprices.quotaPerUnit hratios.group haudio
    · have hone := @one_le_usageQuota prices info answer usage hprice hchannel hratio htokens
      omega

lemma usageQuota_mono (hprices : NonnegPrices prices) (hratios : NonnegRatios info.priceData)
    (hcounts : NonnegCounts usage) {promptTokens completionTokens totalTokens : Int}
    (hprompt : usage.promptTokens ≤ promptTokens) (hcompletion : usage.completionTokens ≤ completionTokens) :
    usageQuota prices info answer usage ≤
      usageQuota prices info answer (withTokens usage promptTokens completionTokens totalTokens) := by
  have hp := hcounts.prompt
  have hc := hcounts.completion
  by_cases hzero : usage.promptTokens + usage.completionTokens = 0
  · rw [usageQuota_eq hprice hchannel, if_pos hzero]
    exact usageQuota_nonneg hprice hchannel hprices hratios hcounts.audio
  · have hnonzero : (withTokens usage promptTokens completionTokens totalTokens).promptTokens +
        (withTokens usage promptTokens completionTokens totalTokens).completionTokens ≠ 0 := by
      show promptTokens + completionTokens ≠ 0
      omega
    rw [usageQuota_eq hprice hchannel, usageQuota_eq hprice hchannel, if_neg hzero, if_neg hnonzero]
    apply clampQuota_mono
    -- The semantics and the details of both usages are the same.
    have hweighed := @weighedTokens_mono prices info usage hratios.completion _ _ totalTokens hprompt hcompletion
    exact weighedSum_mono hratios (hweighed _ _).1 (hweighed _ _).2

end

/-- With prices and counts that are not negative, the quota of a text request is not negative, is at least 1 where
tokens have a price, and does not fall when the counts grow. -/
theorem textQuota_bounds (hprices : NonnegPrices prices) (hprice : info.priceData.usePrice = false)
    (hratios : NonnegRatios info.priceData) (hchannel : ¬ OpenRouter answer) (hcounts : NonnegCounts usage) :
    let quota := fun usage => (calculateTextQuotaSummary prices info { answer with usage := some usage }).quota
    0 ≤ quota usage ∧ (info.priceData.modelRatio * info.priceData.groupRatioInfo.groupRatio ≠ 0 →
        usage.promptTokens + usage.completionTokens ≠ 0 → 1 ≤ quota usage) ∧
      ∀ promptTokens completionTokens totalTokens, usage.promptTokens ≤ promptTokens →
        usage.completionTokens ≤ completionTokens →
        quota usage ≤ quota (withTokens usage promptTokens completionTokens totalTokens) := by
  refine ⟨?_, ?_, ?_⟩
  · exact usageQuota_nonneg hprice hchannel hprices hratios hcounts.audio
  · exact one_le_usageQuota hprice hchannel
  · intro promptTokens completionTokens totalTokens
    exact usageQuota_mono hprice hchannel hprices hratios hcounts

def inconsistentUsage : Usage :=
  { promptTokens := 10, completionTokens := 5, promptTokensDetails := { cachedTokens := 100 } }

lemma nonnegCounts_inconsistentUsage : NonnegCounts inconsistentUsage := by
  constructor <;> decide

def unitPrice : PriceData := { modelRatio := 1, completionRatio := 1 }

theorem textQuota_bounds_inconsistent :
    usageQuota {} { originModelName := "m", priceData := unitPrice } { usage := none } inconsistentUsage = 1 ∧
      usageQuota {} { originModelName := "m", priceData := unitPrice } { usage := none } inconsistentUsage ≤
        usageQuota {} { originModelName := "m", priceData := unitPrice } { usage := none }
          (withTokens inconsistentUsage 200 5 205) := by
  have hprices : NonnegPrices {} := ⟨by norm_num, fun _ _ => le_refl 0, fun _ _ => by norm_num⟩
  have hratios : NonnegRatios unitPrice := by
    refine ⟨?_, ?_, ?_⟩
    · constructor <;> simp [unitPrice]
    · simp [unitPrice]
    · simp [unitPrice]
  constructor
  · decide +kernel
  · exact (@textQuota_bounds {} { originModelName := "m", priceData := unitPrice } { usage := none }
      _ hprices rfl hratios (by decide) nonnegCounts_inconsistentUsage).2.2 200 5 205 (by decide) (by decide)

/-- A negative tool price or a negative unit makes the quota negative. -/
theorem textQuota_negative : (∃ prices info answer usage, 0 ≤ prices.quotaPerUnit ∧ info.priceData.usePrice = false ∧
      NonnegRatios info.priceData ∧ ¬ OpenRouter answer ∧ NonnegCounts usage ∧
      usageQuota prices info answer usage < 0) ∧
    ∃ prices info answer usage, (∀ name model, 0 ≤ prices.getToolPriceForModel name model) ∧
      info.priceData.usePrice = false ∧ NonnegRatios info.priceData ∧ ¬ OpenRouter answer ∧ NonnegCounts usage ∧
      usageQuota prices info answer usage < 0 := by
  have hratios : NonnegRatios {} := by
    refine ⟨?_, ?_, ?_⟩
    · constructor <;> simp
    · simp
    · simp
  constructor
  · refine ⟨{ getToolPriceForModel := fun _ _ => -1 }, { originModelName := "m" },
      { usage := none, claudeWebSearchRequests := 1 }, inconsistentUsage, by norm_num, rfl, hratios, by decide,
      nonnegCounts_inconsistentUsage, ?_⟩
    decide +kernel
  · refine ⟨{ quotaPerUnit := -500000, getToolPriceForModel := fun _ _ => 1 }, { originModelName := "m" },
      { usage := none, claudeWebSearchRequests := 1 }, inconsistentUsage, fun _ _ => zero_le_one, rfl,
      hratios, by decide, nonnegCounts_inconsistentUsage, ?_⟩
    decide +kernel

end Bounds

/-! ### Three conventions -/

/-- The counts of a request: plain input, cache read, cache write and completion. -/
structure TokenCounts where
  plain : ℕ
  cacheRead : ℕ
  cacheWrite : ℕ
  completion : ℕ
  completion_pos : 0 < completion

def TokenCounts.total (n : TokenCounts) : Int := n.plain + n.cacheRead + n.cacheWrite

/-- A usage that reports the counts, with its cache write not split by duration. -/
def TokenCounts.usage (n : TokenCounts) (promptTokens imageTokens audioTokens : Int) (usage : Usage) : Usage :=
  { usage with
    promptTokens := promptTokens
    completionTokens := n.completion
    promptTokensDetails := { usage.promptTokensDetails with
      cachedTokens := n.cacheRead
      cachedCreationTokens := n.cacheWrite
      imageTokens := imageTokens
      audioTokens := audioTokens }
    claudeCacheCreation5mTokens := 0
    claudeCacheCreation1hTokens := 0 }

structure SameTools (x y : Answer) : Prop where
  responses : x.responsesUsageInfo = y.responsesUsageInfo
  claude : x.claudeWebSearchRequests = y.claudeWebSearchRequests
  image : x.imageGenerationCall = y.imageGenerationCall

def regrouped (info : PricingInfo) (groupRatioInfo : GroupRatioInfo) (otherRatios : List (String × ℚ)) : PricingInfo :=
  { info with priceData := { info.priceData with groupRatioInfo := groupRatioInfo, otherRatios := otherRatios } }

/-- The three conventions come to the same quota, for any group ratio, other ratios, image and audio input, and tools.
-/
def ConventionsAgree (prices : PriceTables) (info : PricingInfo) (n : TokenCounts) : Prop :=
  ∀ (groupRatioInfo : GroupRatioInfo) (otherRatios : List (String × ℚ)) (imageTokens audioTokens : Int) (x y z : Answer)
    (u v w : Usage),
    let quota := fun answer =>
      (calculateTextQuotaSummary prices (regrouped info groupRatioInfo otherRatios) answer).quota
    x.usage = some (n.usage n.plain imageTokens audioTokens u) → Anthropic x → ¬ OpenRouter x →
    y.usage = some (n.usage n.total imageTokens audioTokens v) →
      usageSemanticFromUsage y.finalRequestRelayFormat y.usage = "openai" →
    z.usage = some (n.usage n.total imageTokens audioTokens w) → Anthropic z → OpenRouter z → w.cost.getD 0 = 0 →
    SameTools x y → SameTools x z → quota x = quota y ∧ quota x = quota z

/-- A cost of zero is not recognised as a missing one: it is taken for a price below that of the plain tokens, and is
explained by a cache write if the cached tokens and the completion are cheap enough. -/
def CacheWriteGuessed (prices : PriceTables) (info : PricingInfo) (n : TokenCounts) : Prop :=
  n.cacheWrite = 0 ∧ 0 < n.plain ∧ prices.quotaPerUnit ≠ 0 ∧ info.priceData.modelRatio ≠ 0 ∧
    prices.getDefaultModelRatio info.originModelName = some info.priceData.modelRatio ∧
    n.cacheRead * info.priceData.cacheRatio + n.completion * info.priceData.completionRatio +
      (n.plain + 1 / 2) * info.priceData.cacheCreationRatio < 1 / 2

section Conventions

variable {prices : PriceTables} {info : PricingInfo} {n : TokenCounts} {imageTokens audioTokens : Int}

lemma total_nonneg : 0 ≤ n.total := by
  unfold TokenCounts.total
  omega

lemma total_sub_cacheRead : n.total - n.cacheRead = n.plain + n.cacheWrite := by
  unfold TokenCounts.total
  omega

lemma SameTools.weighedSum {x y : Answer} (h : SameTools x y) (weighed : ℚ × ℚ) :
    weighedSum prices info x weighed = weighedSum prices info y weighed := by
  simp only [Proofs.weighedSum, calculateTextToolCallSurcharge, h.responses, h.claude, h.image]

def TokenCounts.weighed (n : TokenCounts) (prices : PriceTables) (info : PricingInfo) (imageTokens audioTokens : Int) :
    ℚ × ℚ :=
  weighedTokens prices info (n.usage n.plain imageTokens audioTokens {}) n.plain n.cacheWrite true

lemma weighedTokens_total (usage : Usage) :
    weighedTokens prices info (n.usage n.total imageTokens audioTokens usage) n.total n.cacheWrite false =
      n.weighed prices info imageTokens audioTokens := by
  simp only [TokenCounts.weighed, weighedTokens, TokenCounts.usage, TokenCounts.total]
  by_cases hwrite : n.cacheWrite = 0
  · simp [hwrite]
  · have hplain : ((n.plain : ℚ) + n.cacheRead + n.cacheWrite - n.cacheRead - n.cacheWrite) = n.plain := by ring
    simp [hwrite, hplain]

/-! #### The guess -/

/-- The counts, weighed by their ratios. -/
def TokenCounts.weight (n : TokenCounts) (price : PriceData) : ℚ :=
  n.plain + n.cacheRead * price.cacheRatio + n.completion * price.completionRatio

def TokenCounts.guess (n : TokenCounts) (price : PriceData) : Int :=
  roundHalfAway (n.weight price / (1 - price.cacheCreationRatio))

lemma calcOpenRouterCacheCreateTokens_eq {usage : Usage} {price : PriceData} (hwrite : n.cacheWrite = 0)
    (hcost : usage.cost.getD 0 = 0) (hcreation : price.cacheCreationRatio ≠ 1) :
    calcOpenRouterCacheCreateTokens prices (n.usage n.total imageTokens audioTokens usage) price =
      if price.modelRatio = 0 ∨ prices.quotaPerUnit = 0 then 0 else n.guess price := by
  have hzero : roundHalfAway 0 = 0 := roundHalfAway_intCast 0
  rw [calcOpenRouterCacheCreateTokens, if_neg hcreation]
  simp only [TokenCounts.usage, hcost, TokenCounts.total, hwrite, TokenCounts.guess, TokenCounts.weight]
  split
  · rename_i h
    rcases h with h | h <;> simp [h, hzero]
  · rename_i h
    obtain ⟨hmodel, hunit⟩ := not_or.mp h
    congr 1
    push_cast
    field_simp
    ring

lemma plain_le_weight {price : PriceData} (hratios : NonnegTokenRatios price) {n : TokenCounts} :
    (n.plain : ℚ) ≤ n.weight price := by
  have hread := mul_nonneg (Nat.cast_nonneg n.cacheRead) hratios.cache
  have hcompletion := mul_nonneg (Nat.cast_nonneg n.completion) hratios.completion
  unfold TokenCounts.weight
  linarith

lemma guess_le_plain_iff {price : PriceData} (hratios : NonnegTokenRatios price)
    (hcreation : price.cacheCreationRatio < 1) :
    n.guess price ≤ n.plain ↔ n.weight price < (n.plain + 1 / 2) * (1 - price.cacheCreationRatio) := by
  have hden : 0 < 1 - price.cacheCreationRatio := sub_pos.mpr hcreation
  have hweight : 0 ≤ n.weight price := (Nat.cast_nonneg n.plain).trans (plain_le_weight hratios)
  have hguess : n.guess price = ⌊n.weight price / (1 - price.cacheCreationRatio) + 1 / 2⌋ :=
    if_pos (div_nonneg hweight hden.le)
  rw [hguess, Int.floor_le_iff, ← div_lt_iff₀ hden]
  push_cast
  constructor
  · intro h
    linarith
  · intro h
    linarith

lemma guess_nonpos {price : PriceData} (hratios : NonnegTokenRatios price) (hcreation : 1 < price.cacheCreationRatio) :
    n.guess price ≤ 0 := by
  have hweight : 0 ≤ n.weight price := (Nat.cast_nonneg n.plain).trans (plain_le_weight hratios)
  have hquotient : n.weight price / (1 - price.cacheCreationRatio) ≤ 0 :=
    div_nonpos_of_nonneg_of_nonpos hweight (sub_nonpos.mpr hcreation.le)
  calc n.guess price ≤ roundHalfAway ((0 : Int) : ℚ) := roundHalfAway_mono (by exact_mod_cast hquotient)
    _ = 0 := roundHalfAway_intCast 0

section Tokens

variable {usage : Usage} (hprice : info.priceData.usePrice = false) (hratios : NonnegTokenRatios info.priceData)
  (hcost : usage.cost.getD 0 = 0)

def GuessTaken (prices : PriceTables) (info : PricingInfo) (n : TokenCounts) (guess : Int) : Prop :=
  n.cacheWrite = 0 ∧ info.priceData.cacheCreationRatio ≠ 1 ∧
    prices.getDefaultModelRatio info.originModelName = some info.priceData.modelRatio ∧ 0 ≤ guess ∧ guess ≤ n.plain

instance (guess : Int) : Decidable (GuessTaken prices info n guess) := inferInstanceAs (Decidable (_ ∧ _))

lemma openRouterTokens_fst :
    (openRouterTokens prices info (n.usage n.total imageTokens audioTokens usage)).1 = n.plain + n.cacheWrite -
      (openRouterTokens prices info (n.usage n.total imageTokens audioTokens usage)).2 := by
  rw [← total_sub_cacheRead]
  rfl

include hprice

lemma openRouterTokens_snd :
    let guess := calcOpenRouterCacheCreateTokens prices (n.usage n.total imageTokens audioTokens usage) info.priceData
    (openRouterTokens prices info (n.usage n.total imageTokens audioTokens usage)).2 =
      if GuessTaken prices info n guess then guess else n.cacheWrite := by
  intro guess
  refine if_congr ?_ rfl rfl
  simp only [TokenCounts.usage, hprice, total_sub_cacheRead, hasCustomModelRatio, Bool.false_or, Bool.and_eq_true,
    decide_eq_true_eq, Bool.not_eq_true', decide_eq_false_iff_not, ne_eq, not_not, and_assoc, Int.natCast_eq_zero,
    ge_iff_le]
  apply and_congr_right
  intro hwrite
  rw [hwrite, Nat.cast_zero, add_zero]
  rfl

include hratios hcost

lemma openRouterTokens_snd_of_not_guessed (h : ¬ CacheWriteGuessed prices info n) :
    (openRouterTokens prices info (n.usage n.total imageTokens audioTokens usage)).2 = n.cacheWrite := by
  rw [openRouterTokens_snd hprice]
  split
  · rename_i htaken
    obtain ⟨hwrite, hcreation, hdefault, hnonneg, hle⟩ := htaken
    rw [calcOpenRouterCacheCreateTokens_eq hwrite hcost hcreation] at hnonneg hle ⊢
    rw [hwrite, Nat.cast_zero]
    by_cases hfree : info.priceData.modelRatio = 0 ∨ prices.quotaPerUnit = 0
    · exact if_pos hfree
    · obtain ⟨hmodel, hunit⟩ := not_or.mp hfree
      rw [if_neg hfree] at hnonneg hle ⊢
      apply le_antisymm _ hnonneg
      rcases lt_or_gt_of_ne hcreation with hcheap | hdear
      · by_cases hplain : 0 < n.plain
        · rw [guess_le_plain_iff hratios hcheap] at hle
          unfold TokenCounts.weight at hle
          exact absurd ⟨hwrite, hplain, hunit, hmodel, hdefault, by linarith⟩ h
        · omega
      · exact guess_nonpos hratios hdear
  · rfl

omit hprice hcost in
lemma CacheWriteGuessed.cacheCreationRatio_lt (h : CacheWriteGuessed prices info n) :
    info.priceData.cacheCreationRatio < 1 := by
  obtain ⟨-, hplain, -, -, -, hcheap⟩ := h
  have hread := mul_nonneg (Nat.cast_nonneg n.cacheRead) hratios.cache
  have hcompletion := mul_nonneg (Nat.cast_nonneg n.completion) hratios.completion
  nlinarith [hratios.cacheCreation]

omit hprice hcost in
lemma guess_nonneg (h : info.priceData.cacheCreationRatio < 1) : 0 ≤ n.guess info.priceData := by
  apply roundHalfAway_nonneg
  apply div_nonneg _ (sub_pos.mpr h).le
  exact (Nat.cast_nonneg n.plain).trans (plain_le_weight hratios)

lemma openRouterTokens_snd_of_guessed (h : CacheWriteGuessed prices info n) :
    (openRouterTokens prices info (n.usage n.total imageTokens audioTokens usage)).2 = n.guess info.priceData := by
  have hcreation := h.cacheCreationRatio_lt hratios
  obtain ⟨hwrite, hplain, hunit, hmodel, hdefault, hcheap⟩ := h
  have hcalc := @calcOpenRouterCacheCreateTokens_eq prices n imageTokens audioTokens _ _ hwrite hcost hcreation.ne
  rw [if_neg (not_or.mpr ⟨hmodel, hunit⟩)] at hcalc
  rw [openRouterTokens_snd hprice, hcalc]
  apply if_pos
  have hle : n.guess info.priceData ≤ n.plain := by
    rw [guess_le_plain_iff hratios hcreation]
    unfold TokenCounts.weight
    linarith
  exact ⟨hwrite, hcreation.ne, hdefault, guess_nonneg hratios hcreation, hle⟩

end Tokens

/-! #### The quotas -/

section

variable {x : Answer} {usage : Usage} {promptTokens : Int} (hprice : info.priceData.usePrice = false)
  (husage : x.usage = some (n.usage promptTokens imageTokens audioTokens usage))

include hprice husage

lemma textQuota_usage (hprompt : 0 ≤ promptTokens) : (calculateTextQuotaSummary prices info x).quota =
    clampQuota (tokenPrice info)
      (weighedSum prices info x (weighedTokens prices info (n.usage promptTokens imageTokens audioTokens usage)
        (countedTokens prices info x (n.usage promptTokens imageTokens audioTokens usage)).1
        (countedTokens prices info x (n.usage promptTokens imageTokens audioTokens usage)).2 (Anthropic x))) := by
  have hcompletion := n.completion_pos
  have htotal : (n.usage promptTokens imageTokens audioTokens usage).promptTokens +
      (n.usage promptTokens imageTokens audioTokens usage).completionTokens ≠ 0 := by
    show promptTokens + (n.completion : Int) ≠ 0
    omega
  have hlegacy : isLegacyClaudeDerivedOpenAIUsage x.finalRequestRelayFormat
      (n.usage promptTokens imageTokens audioTokens usage) = false := by
    simp [isLegacyClaudeDerivedOpenAIUsage, TokenCounts.usage]
  rw [textQuota_of_ratio hprice husage, if_neg htotal, hlegacy, Bool.or_false]

lemma textQuota_separate (hsemantic : Anthropic x) (hchannel : ¬ OpenRouter x) (hprompt : promptTokens = n.plain) :
    (calculateTextQuotaSummary prices info x).quota =
      clampQuota (tokenPrice info)
        (weighedSum prices info x (n.weighed prices info imageTokens audioTokens)) := by
  subst hprompt
  rw [textQuota_usage hprice husage (Int.natCast_nonneg _), countedTokens]
  simp only [decide_eq_true hsemantic, decide_eq_false hchannel, Bool.false_and, Bool.false_eq_true, if_false]
  rfl

lemma textQuota_included (hsemantic : ¬ Anthropic x) (hprompt : promptTokens = n.total) :
    (calculateTextQuotaSummary prices info x).quota =
      clampQuota (tokenPrice info)
        (weighedSum prices info x (n.weighed prices info imageTokens audioTokens)) := by
  subst hprompt
  rw [textQuota_usage hprice husage total_nonneg, countedTokens, ← weighedTokens_total usage]
  simp only [decide_eq_false hsemantic, Bool.and_false, Bool.false_eq_true, if_false]
  rfl

lemma textQuota_openRouter (hsemantic : Anthropic x) (hchannel : OpenRouter x) (hprompt : promptTokens = n.total)
    {cacheWrite : Int}
    (hwrite : (openRouterTokens prices info (n.usage promptTokens imageTokens audioTokens usage)).2 = cacheWrite) :
    (calculateTextQuotaSummary prices info x).quota =
      clampQuota (tokenPrice info)
        (weighedSum prices info x (weighedTokens prices info (n.usage promptTokens imageTokens audioTokens usage)
          (n.plain + n.cacheWrite - cacheWrite) cacheWrite true)) := by
  subst hprompt
  rw [textQuota_usage hprice husage total_nonneg, countedTokens]
  simp only [decide_eq_true hsemantic, decide_eq_true hchannel, Bool.and_self, if_true]
  rw [openRouterTokens_fst, hwrite]

end

def toolless (channelType : Int) (usage : Usage) : Answer :=
  { usage := some usage, channelType := some channelType, responsesUsageInfo := some {} }

lemma weighedSum_toolless (channelType : Int) (usage : Usage) (hother : info.priceData.otherRatios = [])
    (tokens : ℚ) : weighedSum prices info (toolless channelType usage) (tokens, 0) =
      tokens * (tokenPrice info) := by
  simp [weighedSum, calculateTextToolCallSurcharge, toolless, otherRatio, hother]

lemma weighedTokens_text {cacheWrite : Int} (hwrite : 0 ≤ cacheWrite) (promptTokens plain : Int) (usage : Usage) :
    weighedTokens prices info (n.usage promptTokens 0 0 usage) plain cacheWrite true =
      (plain + n.cacheRead * info.priceData.cacheRatio + cacheWrite * info.priceData.cacheCreationRatio +
        n.completion * info.priceData.completionRatio, 0) := by
  have hmax : max (cacheWrite : ℚ) 0 = cacheWrite := max_eq_left (by exact_mod_cast hwrite)
  by_cases hzero : cacheWrite = 0
  · simp [weighedTokens, TokenCounts.usage, hzero]
  · simp [weighedTokens, TokenCounts.usage, hzero, hmax]

lemma NonnegTokenRatios.regrouped (h : NonnegTokenRatios info.priceData) (groupRatioInfo : GroupRatioInfo)
    (otherRatios : List (String × ℚ)) : NonnegTokenRatios (regrouped info groupRatioInfo otherRatios).priceData :=
  ⟨h.1, h.2, h.3, h.4, h.5, h.6, h.7⟩

def anthropicUsage : Usage := { usageSemantic := "anthropic" }

lemma not_openRouter_toolless (usage : Usage) : ¬ OpenRouter (toolless 1 usage) :=
  fun h => absurd (Option.some.inj h) (by decide)

lemma textQuota_ne_of_guessed (hprice : info.priceData.usePrice = false) (hratios : NonnegTokenRatios info.priceData)
    (hguessed : CacheWriteGuessed prices info n) (hother : info.priceData.otherRatios = [])
    (hratio : tokenPrice info = 4) :
    (calculateTextQuotaSummary prices info (toolless 1 (n.usage n.plain 0 0 anthropicUsage))).quota ≠
      (calculateTextQuotaSummary prices info
        (toolless channelTypeOpenRouter (n.usage n.total 0 0 anthropicUsage))).quota := by
  have hcreation := hguessed.cacheCreationRatio_lt hratios
  have hguess := @openRouterTokens_snd_of_guessed prices info n 0 0 anthropicUsage hprice hratios rfl hguessed
  rw [textQuota_separate hprice rfl rfl (not_openRouter_toolless _) rfl,
    textQuota_openRouter hprice rfl rfl rfl rfl hguess, TokenCounts.weighed, weighedTokens_text (Int.natCast_nonneg _),
    weighedTokens_text (guess_nonneg hratios hcreation), weighedSum_toolless _ _ hother, weighedSum_toolless _ _ hother,
    hratio, hguessed.1]
  push_cast
  have hplain : (1 : ℚ) ≤ n.plain := by exact_mod_cast hguessed.2.1
  have hread := mul_nonneg (Nat.cast_nonneg n.cacheRead) hratios.cache
  have hcompletion := mul_nonneg (Nat.cast_nonneg n.completion) hratios.completion
  have hrest : n.weight info.priceData - n.guess info.priceData * (1 - info.priceData.cacheCreationRatio) ≤ 1 / 2 := by
    have hden : 0 < 1 - info.priceData.cacheCreationRatio := sub_pos.mpr hcreation
    have hround := (abs_le.mp (abs_roundHalfAway_sub_le
      (n.weight info.priceData / (1 - info.priceData.cacheCreationRatio)))).1
    have hclose : n.weight info.priceData / (1 - info.priceData.cacheCreationRatio) ≤
        n.guess info.priceData + 1 / 2 := by
      unfold TokenCounts.guess
      linarith
    rw [div_le_iff₀ hden] at hclose
    linarith [hratios.cacheCreation]
  unfold TokenCounts.weight at hrest
  apply ne_of_gt
  calc clampQuota 4 _ ≤ clampQuota 4 2 := clampQuota_mono 4 (by linarith)
    _ < clampQuota 4 4 := by decide +kernel
    _ ≤ clampQuota 4 _ := clampQuota_mono 4 (by linarith)

lemma not_conventionsAgree (hprice : info.priceData.usePrice = false) (hratios : NonnegTokenRatios info.priceData)
    (hguessed : CacheWriteGuessed prices info n) : ¬ ConventionsAgree prices info n := by
  intro h
  let group : GroupRatioInfo := { groupRatio := 4 / info.priceData.modelRatio }
  have hratio : info.priceData.modelRatio * (4 / info.priceData.modelRatio) = 4 := mul_div_cancel₀ 4 hguessed.2.2.2.1
  have hne := @textQuota_ne_of_guessed prices (regrouped info group []) n hprice (hratios.regrouped group [])
    hguessed rfl hratio
  apply hne
  exact (h group [] 0 0 (toolless 1 (n.usage n.plain 0 0 anthropicUsage))
    (toolless 1 (n.usage n.total 0 0 { usageSemantic := "openai" }))
    (toolless channelTypeOpenRouter (n.usage n.total 0 0 anthropicUsage)) _ _ _ rfl rfl (not_openRouter_toolless _)
    rfl rfl rfl rfl rfl rfl ⟨rfl, rfl, rfl⟩ ⟨rfl, rfl, rfl⟩).2

/-- One usage costs the same in every convention exactly if no cache write is guessed from a cost of zero. -/
theorem conventionsAgree_iff (hprice : info.priceData.usePrice = false) (hratios : NonnegTokenRatios info.priceData) :
    ConventionsAgree prices info n ↔ ¬ CacheWriteGuessed prices info n := by
  constructor
  · intro h hguessed
    exact not_conventionsAgree hprice hratios hguessed h
  · intro hguessed groupRatioInfo otherRatios imageTokens audioTokens x y z u v w quota hx hxs hxc hy hys hz hzs hzc
      hcost hxy hxz
    have hprice : (regrouped info groupRatioInfo otherRatios).priceData.usePrice = false := hprice
    have hopenai : ¬ Anthropic y := by
      rw [Anthropic, hys]
      decide
    have hwrite := @openRouterTokens_snd_of_not_guessed prices (regrouped info groupRatioInfo otherRatios) n imageTokens
      audioTokens w hprice (hratios.regrouped _ _) hcost hguessed
    have hxquota : quota x = _ := textQuota_separate hprice hx hxs hxc rfl
    have hyquota : quota y = _ := textQuota_included hprice hy hopenai rfl
    have hzquota : quota z = _ := textQuota_openRouter hprice hz hzs hzc rfl hwrite
    rw [hxquota, hyquota, hzquota, ← hxy.weighedSum, ← hxz.weighedSum, add_sub_cancel_right]
    exact ⟨rfl, rfl⟩

def claudeInfo : PricingInfo :=
  { originModelName := "m"
    priceData := { modelRatio := 1, completionRatio := 5, cacheRatio := 1 / 10, cacheCreationRatio := 5 / 4 } }

theorem conventionsAgree_claude : claudeInfo.priceData.cacheCreationRatio = 5 / 4 ∧
    ConventionsAgree { getDefaultModelRatio := fun _ => some 1 } claudeInfo ⟨100, 50, 0, 20, by decide⟩ := by
  refine ⟨rfl, (conventionsAgree_iff rfl ?_).mpr ?_⟩
  · constructor <;> norm_num [claudeInfo]
  · rintro ⟨-, -, -, -, -, hcheap⟩
    norm_num [claudeInfo] at hcheap

def freeCacheInfo : PricingInfo := { originModelName := "m", priceData := { modelRatio := 1 } }

/-- A cost of 0 reported by OpenRouter makes all prompt tokens cache writes, which are free here. -/
theorem openRouter_costZero_free :
    let prices : PriceTables := { getDefaultModelRatio := fun _ => some 1 }
    let n : TokenCounts := ⟨1000, 0, 0, 1, by decide⟩
    let quota := fun answer => (calculateTextQuotaSummary prices freeCacheInfo answer).quota
    quota (toolless 1 (n.usage 1000 0 0 anthropicUsage)) = 1000 ∧
      quota (toolless 1 (n.usage 1000 0 0 { usageSemantic := "openai" })) = 1000 ∧
      quota (toolless channelTypeOpenRouter (n.usage 1000 0 0 { anthropicUsage with cost := some 0 })) = 1 := by
  decide +kernel

end Conventions

end LoveApi.Proofs
