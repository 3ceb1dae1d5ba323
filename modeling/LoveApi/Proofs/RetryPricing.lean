import LoveApi.Proofs.Relay
import LoveApi.Proofs.TieredQuota

/-!
# The price after retries

A fixed price and a billing expression set the group ratio of a request to 1. Each retry writes the ratio of the group
in use over it, and each attempt may add other ratios.
-/

namespace LoveApi.Proofs

open Program Go BillingExpr List Option

variable {request : RelayRequest} {info info' : PricingInfo} {log : List Attempt} {s : RelayState}
  {ratios : List (String × ℚ)} {autoGroup : Option String} {groupRatioInfo : GroupRatioInfo} {prices : PriceTables}
  {host : Host} {usingGroup : String} {n : Nat}

variable {settings : RelaySettings} {world : World} {fuel : Nat} {ctx : RetryContext} {result : RelayResult}

/-! ### The record as a function of the attempts -/

section

variable {groups : GroupRatios}

/-- An attempt adds its other ratios to the record, and a retry sets the ratio of its group first. -/
def infoStep (world : World) (groups : GroupRatios) (info : PricingInfo) (a : Attempt × Nat) : PricingInfo :=
  addOtherRatios (world.otherRatios a.2) (if a.2 = 0 then info else reprice groups a.1.autoGroup info)

/-- The record after the attempts. -/
def infoAfter (world : World) (groups : GroupRatios) (info : PricingInfo) (log : List Attempt) : PricingInfo :=
  log.zipIdx.foldl (infoStep world groups) info

lemma infoAfter_concat {a : Attempt} :
    infoAfter world groups info (log ++ [a]) =
      infoStep world groups (infoAfter world groups info log) (a, log.length) := by
  simp [infoAfter, zipIdx_append]

/-- The record of a state is the one after its attempts. -/
structure Recorded (world : World) (groups : GroupRatios) (info : PricingInfo) (s : RelayState) : Prop where
  info_eq : s.info = infoAfter world groups info s.log
  first : s.channelMeta = false ↔ s.log = []

lemma Recorded.step {t : RelayState} {id : Int} (h : Recorded world groups info s)
    (hget : getChannel settings request world groups s = (.ok id, t)) :
    Recorded world groups info (attempt world t id) := by
  refine ⟨?_, by simp [attempt, callUpstream]⟩
  show addOtherRatios (world.otherRatios t.log.length) t.info = infoAfter world groups info (t.log ++ [_])
  rw [infoAfter_concat, getChannel_log hget, ← h.info_eq, infoStep]
  rcases getChannel_ok hget with ⟨hmeta, -, rfl⟩ | ⟨hmeta, ctx, -, rfl⟩
  · simp [h.first.mp hmeta]
  have hne : s.log.length ≠ 0 := by
    intro hzero
    have hnone := h.first.mpr (length_eq_zero_iff.mp hzero)
    simp [hmeta] at hnone
  rw [if_neg hne]

lemma info_of_answered (h : relay settings request world groups fuel ctx info = some result)
    (hanswered : result.answered = true) :
    result.state.info = infoAfter world groups info result.state.log ∧ result.state.log ≠ [] := by
  have hagain : ∀ s s', Recorded world groups info s → relayBody settings request world groups s = .again s' →
      Recorded world groups info s' := by
    intro s s' hs hbody
    obtain ⟨-, id, t, e, hget, -, rfl⟩ := relayBody_again hbody
    exact ⟨(hs.step hget).info_eq, (hs.step hget).first⟩
  have hdone : ∀ s (r : RelayResult), Recorded world groups info s →
      relayBody settings request world groups s = .done r →
      r.answered = true → r.state.info = infoAfter world groups info r.state.log ∧ r.state.log ≠ [] := by
    intro s r hs hbody hr
    rcases relayBody_done hbody with ⟨hnot, -⟩ | ⟨-, id, t, err, hget, -, hstate⟩
    · simp [hnot] at hr
    · rw [hstate]
      refine ⟨(hs.step hget).info_eq, ?_⟩
      simp [attempt, callUpstream]
  exact loop_induction hagain hdone ⟨rfl, by simp⟩ h hanswered

end

/-! ### The course of the retries does not depend on the record -/

section

variable {groups : GroupRatios}

lemma getChannel_info : ∃ info',
    getChannel settings request world groups { s with info := info } =
      ((getChannel settings request world groups s).1,
        { (getChannel settings request world groups s).2 with info := info' }) := by
  unfold getChannel
  dsimp only
  split
  · exact ⟨info, rfl⟩
  split
  · exact ⟨_, rfl⟩
  · exact ⟨_, rfl⟩
  · split <;> exact ⟨_, rfl⟩

lemma relayBody_info (s t : RelayState) (h : t = { s with info := t.info }) :
    Next.Rel (fun s t : RelayState => t = { s with info := t.info })
      (fun r u : RelayResult => u.answered = r.answered ∧ u.state.log = r.state.log)
      (relayBody settings request world groups s) (relayBody settings request world groups t) := by
  obtain ⟨info', hget⟩ : ∃ info', getChannel settings request world groups { s with info := t.info } =
      ((getChannel settings request world groups s).1,
        { (getChannel settings request world groups s).2 with info := info' }) := getChannel_info
  rw [h]
  unfold relayBody
  rw [hget]
  rcases getChannel settings request world groups s with ⟨e | id, s'⟩
  · split
    · exact .done ⟨rfl, rfl⟩
    · exact .done ⟨rfl, rfl⟩
  · dsimp only
    split
    · exact .done ⟨rfl, rfl⟩
    rcases world.outcomes s'.log.length with e | _ | e
    · exact .done ⟨rfl, rfl⟩
    · exact .done ⟨rfl, rfl⟩
    · dsimp only [callUpstream]
      by_cases hagain : shouldRetry settings request e (settings.retryTimes - s'.retry) = true
      · simp only [hagain, if_true]
        exact .again rfl
      · simp only [hagain]
        exact .done ⟨rfl, rfl⟩

lemma relay_info (h : relay settings request world groups fuel ctx info = some result) : ∃ result',
      relay settings request world groups fuel ctx info' = some result' ∧ result'.answered = result.answered ∧
        result'.state.log = result.state.log :=
  loop_simulation relayBody_info rfl h

/-- The world in which every channel answers. -/
def succeeding (world : World) : World := { world with outcomes := fun _ => .answered }

lemma relay_succeeding
    (h : relay settings request world groups fuel ctx info = some result) (hanswered : result.answered = true) :
    ∃ first, relay settings request (succeeding world) groups fuel ctx info = some first ∧
      first.state.info = addOtherRatios (world.otherRatios 0) info := by
  rcases fuel with _ | fuel
  · cases h
  by_cases hretry : (ctx.retry : Int) > settings.retryTimes
  · have hdone : relayBody settings request world groups { toRetryContext := ctx, info := info } =
        .done { state := { toRetryContext := ctx, info := info } } := if_pos hretry
    rw [relay, loop_of_done hdone] at h
    cases h
    cases hanswered
  · have hdone : relayBody settings request (succeeding world) groups { toRetryContext := ctx, info := info } =
        .done { answered := true, state := attempt world { toRetryContext := ctx, info := info } ctx.channelId } :=
      if_neg hretry
    exact ⟨_, loop_of_done hdone fuel, rfl⟩

end

/-! ### The parts of the price that retries change -/

section

variable {groups : GroupRatios}

/-- The ratio of a group for the users of another. -/
def ratioOfGroup (groups : GroupRatios) (userGroup group : String) : ℚ :=
  (groups.getGroupGroupRatio userGroup group).getD (groups.getGroupRatio group)

/-- The group in use after retries. -/
def groupAfter (usingGroup : String) (retries : List Attempt) : String :=
  retries.foldl (fun group a => a.autoGroup.getD group) usingGroup

/-- A ratio is added if it is positive, and replaces the one of its key. -/
def addRatio (ratios : List (String × ℚ)) (ratio : String × ℚ) : List (String × ℚ) :=
  if ratio.2 ≤ 0 then ratios else ratio :: ratios.filter fun entry => entry.1 ≠ ratio.1

/-- The other ratios after some attempts. -/
def otherRatiosAfter (world : World) (ratios : List (String × ℚ)) (attempts : Nat) : List (String × ℚ) :=
  (List.range attempts).foldl (fun ratios n => (world.otherRatios n).foldl addRatio ratios) ratios

/-- The record with another group and other ratios. -/
def withRatios (info : PricingInfo) (usingGroup : String) (groupRatioInfo : GroupRatioInfo)
    (otherRatios : List (String × ℚ)) : PricingInfo :=
  { info with
    usingGroup := usingGroup
    priceData := { info.priceData with groupRatioInfo := groupRatioInfo, otherRatios := otherRatios } }

lemma addOtherRatios_eq :
    addOtherRatios ratios info = withRatios info info.usingGroup info.priceData.groupRatioInfo
      (ratios.foldl addRatio info.priceData.otherRatios) := by
  have hprice : ∀ price : PriceData, ratios.foldl (fun price ratio => price.addOtherRatio ratio.1 ratio.2) price =
      { price with otherRatios := ratios.foldl addRatio price.otherRatios } := by
    induction ratios with
    | nil => exact fun _ => rfl
    | cons ratio ratios ih =>
      intro price
      rw [foldl_cons, foldl_cons, ih]
      unfold PriceData.addOtherRatio addRatio
      split
      · rfl
      · rfl
  rw [addOtherRatios, hprice]
  rfl

lemma reprice_eq : ∃ groupRatioInfo : GroupRatioInfo,
    groupRatioInfo.groupRatio = ratioOfGroup groups info.userGroup (autoGroup.getD info.usingGroup) ∧
    reprice groups autoGroup info =
      withRatios info (autoGroup.getD info.usingGroup) groupRatioInfo info.priceData.otherRatios := by
  unfold reprice handleGroupRatio ratioOfGroup finalGroup
  dsimp only
  split
  · next ratio hratio =>
    rw [hratio]
    exact ⟨_, rfl, rfl⟩
  · next hratio =>
    rw [hratio]
    exact ⟨_, rfl, rfl⟩

lemma infoAfter_eq : ∃ groupRatioInfo : GroupRatioInfo,
    groupRatioInfo.groupRatio = (if log.tail = [] then info.priceData.groupRatioInfo.groupRatio
      else ratioOfGroup groups info.userGroup (groupAfter info.usingGroup log.tail)) ∧
    infoAfter world groups info log = withRatios info (groupAfter info.usingGroup log.tail) groupRatioInfo
      (otherRatiosAfter world info.priceData.otherRatios log.length) := by
  induction log using reverseRecOn with
  | nil => exact ⟨_, rfl, rfl⟩
  | append_singleton log a ih =>
    obtain ⟨groupRatioInfo, -, hinfo⟩ := ih
    have hratios : otherRatiosAfter world info.priceData.otherRatios (log ++ [a]).length =
        (world.otherRatios log.length).foldl addRatio
          (otherRatiosAfter world info.priceData.otherRatios log.length) := by
      rw [length_append, length_singleton, otherRatiosAfter, range_succ, foldl_concat]
      rfl
    rw [infoAfter_concat, infoStep, hratios]
    rcases log with _ | ⟨first, rest⟩
    · rw [addOtherRatios_eq]
      exact ⟨_, rfl, rfl⟩
    · obtain ⟨groupRatioInfo', hratio, hreprice⟩ : ∃ groupRatioInfo' : GroupRatioInfo, _ ∧
          reprice groups a.autoGroup (infoAfter world groups info (first :: rest)) = _ := reprice_eq
      have hgroup : groupAfter info.usingGroup (first :: rest ++ [a]).tail =
          a.autoGroup.getD (groupAfter info.usingGroup rest) := by
        rw [cons_append, tail_cons, groupAfter, foldl_concat]
        rfl
      have hretry : (first :: rest ++ [a]).tail ≠ [] := by simp
      rw [hinfo] at hratio hreprice
      rw [hgroup, if_neg hretry, if_neg (by simp), hinfo, hreprice, addOtherRatios_eq]
      exact ⟨groupRatioInfo', hratio, rfl⟩

end

/-! ### The quota -/

section

variable {priceRequest : PriceRequest}

lemma textQuota_withRatios {now : Time} {preConsumed : Int} {answer : Answer} {usingGroup' : String}
    {groupRatioInfo' : GroupRatioInfo} {ratios' : List (String × ℚ)}
    (hgroup : groupRatioInfo.groupRatio = groupRatioInfo'.groupRatio)
    (hratios : (ratios.map Prod.snd).prod = (ratios'.map Prod.snd).prod) :
    textQuota host now preConsumed prices (withRatios info usingGroup groupRatioInfo ratios) answer =
      textQuota host now preConsumed prices (withRatios info usingGroup' groupRatioInfo' ratios') answer := by
  have hother : otherRatio (withRatios info usingGroup groupRatioInfo ratios).priceData =
      otherRatio (withRatios info usingGroup' groupRatioInfo' ratios').priceData := hratios
  have hratio : (withRatios info usingGroup groupRatioInfo ratios).priceData.groupRatioInfo.groupRatio =
      (withRatios info usingGroup' groupRatioInfo' ratios').priceData.groupRatioInfo.groupRatio := hgroup
  have htokens : weighedTokens prices (withRatios info usingGroup groupRatioInfo ratios) =
      weighedTokens prices (withRatios info usingGroup' groupRatioInfo' ratios') := by
    funext usage promptTokens cacheCreationTokens separate
    unfold weighedTokens
    dsimp only
    rw [hratio]
    rfl
  have hsummary : calculateTextQuotaSummary prices (withRatios info usingGroup groupRatioInfo ratios) answer =
      calculateTextQuotaSummary prices (withRatios info usingGroup' groupRatioInfo' ratios') answer := by
    unfold calculateTextQuotaSummary
    dsimp only
    rw [htokens, hother, hratio]
    rfl
  unfold textQuota
  rw [hsummary]
  rfl

/-- The record of a request before it is priced. -/
def requestInfo (request : RelayRequest) (acceptUnsetRatioModel : Bool) : PricingInfo where
  originModelName := request.modelName
  userGroup := request.userGroup
  usingGroup := request.usingGroup
  acceptUnsetRatioModel := acceptUnsetRatioModel

lemma handleGroupRatio_snd (groups : GroupRatios) (autoGroup : Option String) (info : PricingInfo) :
    (handleGroupRatio groups autoGroup info).2 = { info with usingGroup := autoGroup.getD info.usingGroup } := by
  unfold handleGroupRatio finalGroup
  dsimp only
  split
  · rfl
  · rfl

/-- The group ratio of the record is 1, and no other ratio was added. -/
structure Frozen (request : RelayRequest) (autoGroup : Option String) (info : PricingInfo) : Prop where
  userGroup : info.userGroup = request.userGroup
  usingGroup : info.usingGroup = autoGroup.getD request.usingGroup
  groupRatio : info.priceData.groupRatioInfo.groupRatio = 1
  otherRatios : info.priceData.otherRatios = []

lemma freePrice_eq (prices : PriceTables) (price : PriceData) : ∃ freeModel quota,
    freePrice prices price = { price with freeModel := freeModel, quotaToPreConsume := quota } := by
  unfold freePrice
  split_ifs
  all_goals exact ⟨_, _, rfl⟩

lemma usePrice_ratioPrice {price : PriceData}
    (h : ratioPrice prices priceRequest info groupRatioInfo = .ok price) : price.usePrice = false := by
  unfold ratioPrice at h
  dsimp only at h
  split at h
  · cases h
  · cases h
    rfl

lemma frozen_of_modelPriceHelper {groups : GroupRatios} {acceptUnset : Bool}
    (h : modelPriceHelper host prices groups autoGroup priceRequest (requestInfo request acceptUnset) = .ok info)
    (hfrozen : info.priceData.usePrice = true ∨ info.tieredBillingSnapshot.isSome) : Frozen request autoGroup info := by
  unfold modelPriceHelper at h
  rcases hratio : handleGroupRatio groups autoGroup (requestInfo request acceptUnset) with ⟨groupRatioInfo, info'⟩
  obtain rfl : info' = _ := (congrArg Prod.snd hratio).symm.trans (handleGroupRatio_snd _ _ _)
  simp only [hratio] at h
  have hfixed : ∀ price, Frozen request autoGroup
      { requestInfo request acceptUnset with
        usingGroup := autoGroup.getD request.usingGroup
        priceData := freePrice prices (fixedPrice prices priceRequest price) } := by
    intro price
    obtain ⟨freeModel, quota, heq⟩ := freePrice_eq prices (fixedPrice prices priceRequest price)
    rw [heq]
    exact ⟨rfl, rfl, rfl, rfl⟩
  split at h
  · cases h
    exact hfixed _
  · split at h
    · -- An expression.
      unfold modelPriceHelperTiered at h
      dsimp only at h
      split at h
      · cases h
      rcases hinput : priceRequest.requestInput with e | input
      · rw [hinput] at h
        cases h
      · rw [hinput] at h
        simp only [bind, Except.bind] at h
        split at h
        · cases h
        · cases h
          exact ⟨rfl, rfl, rfl, rfl⟩
    · split at h
      · cases h
        exact hfixed _
      · -- A price by the token is not frozen.
        generalize hprice : ratioPrice prices priceRequest _ groupRatioInfo = priced at h
        rcases priced with e | price
        · cases h
        · cases h
          obtain ⟨freeModel, quota, heq⟩ := freePrice_eq prices price
          simp [heq, usePrice_ratioPrice hprice, requestInfo] at hfrozen

/-! Prices that show the two ratios. -/

def fixedTables (price : ℚ) : PriceTables where
  quotaPerUnit := 1
  getModelPrice _ := some price

/-- One billing expression for all models, and a price of images. -/
def tieredTables (price : ℚ) : PriceTables where
  quotaPerUnit := 1
  getBillingModeForGroup _ _ := "tiered_expr"
  getBillingExprForGroup _ _ := some "0.0"
  getGPTImage1PriceOnceCall _ _ := price

/-- An answer with an image. -/
def imageAnswer : Answer where
  usage := some { promptTokens := 1 }
  responsesUsageInfo := some {}
  imageGenerationCall := some ("", "")

lemma modelPriceHelper_fixed (host : Host) (groups : GroupRatios) (autoGroup : Option String) (request : RelayRequest)
    (price : ℚ) : modelPriceHelper host (fixedTables price) groups autoGroup {} (requestInfo request false) =
      .ok { requestInfo request false with
            usingGroup := autoGroup.getD request.usingGroup
            priceData := fixedPrice (fixedTables price) {} price } := by
  show Except.ok { (handleGroupRatio groups autoGroup (requestInfo request false)).2 with
    priceData := fixedPrice (fixedTables price) {} price } = _
  rw [handleGroupRatio_snd]
  rfl

/-- The record of a request that is priced by the expression. -/
def tieredInfo (autoGroup : Option String) (request : RelayRequest) : PricingInfo :=
  let quota := quotaRound (0 / 1000000 * 1 * 1)
  { requestInfo request false with
    usingGroup := autoGroup.getD request.usingGroup
    tieredBillingSnapshot := some { exprString := "0.0", quotaPerUnit := 1, estimatedQuotaAfterGroup := quota }
    billingRequestInput := some {}
    priceData := { quotaToPreConsume := quota } }

lemma modelPriceHelper_tiered (groups : GroupRatios) (autoGroup : Option String) (request : RelayRequest) (price : ℚ) :
    modelPriceHelper plainHost (tieredTables price) groups autoGroup {} (requestInfo request false) =
      .ok (tieredInfo autoGroup request) := by
  show modelPriceHelperTiered plainHost (tieredTables price) {} (handleGroupRatio groups autoGroup _).2 = _
  rw [handleGroupRatio_snd]
  simp only [modelPriceHelperTiered, tieredTables, bind, Except.bind, runExprWithRequest_plain]
  rfl

lemma quota_fixed {groups : GroupRatios}
    (h : modelPriceHelper host (fixedTables n) groups autoGroup {} (requestInfo request false) = .ok info) :
    (textQuota host 0 0 (fixedTables n) (withRatios info usingGroup groupRatioInfo ratios)
      { imageAnswer with imageGenerationCall := none }).quota =
      roundHalfAway (n * (groupRatioInfo.groupRatio * (ratios.map Prod.snd).prod)) := by
  rw [modelPriceHelper_fixed] at h
  cases h
  have hform : (textQuota host 0 0 (fixedTables n) (withRatios { requestInfo request false with
      usingGroup := autoGroup.getD request.usingGroup
      priceData := fixedPrice (fixedTables n) {} n } usingGroup groupRatioInfo ratios)
      { imageAnswer with imageGenerationCall := none }).quota = roundHalfAway ((n * 1 * groupRatioInfo.groupRatio + 0) *
        (ratios.map Prod.snd).prod) := by
    simp [textQuota, calculateTextQuotaSummary, withRatios, imageAnswer, fixedTables, fixedPrice, requestInfo,
      chargedUsage, calculateTextToolCallSurcharge, otherRatio, tryTieredSettle]
  rw [hform]
  congr 1
  ring

lemma quota_tiered {groups : GroupRatios}
    (h : modelPriceHelper plainHost (tieredTables n) groups autoGroup {} (requestInfo request false) = .ok info) :
    (textQuota plainHost 0 0 (tieredTables n) (withRatios info usingGroup groupRatioInfo ratios) imageAnswer).quota =
      roundHalfAway (n * groupRatioInfo.groupRatio) := by
  rw [modelPriceHelper_tiered] at h
  cases h
  have hsurcharge : (calculateTextQuotaSummary (tieredTables n)
      (withRatios (tieredInfo autoGroup request) usingGroup groupRatioInfo ratios)
      imageAnswer).toolCallSurchargeQuota = n * groupRatioInfo.groupRatio := by
    simp [calculateTextQuotaSummary, calculateTextToolCallSurcharge, withRatios, imageAnswer, tieredTables]
  have hsettle : ∀ params, tryTieredSettle plainHost 0 0
      (withRatios (tieredInfo autoGroup request) usingGroup groupRatioInfo ratios) params =
      some (quotaRound (0 / 1000000 * 1 * 1), some {
        actualQuotaBeforeGroup := 0 / 1000000 * 1
        actualQuotaAfterGroup := quotaRound (0 / 1000000 * 1 * 1)
        matchedTier := ""
        crossedTier := false }) := by
    intro params
    simp only [tryTieredSettle, withRatios, tieredInfo, getD_some, computeTieredQuotaWithRequest,
      runExprWithRequest_plain]
    rfl
  have hzero : quotaRound (0 / 1000000 * 1 * 1) = 0 := by norm_num [quotaRound, roundHalfAway]
  unfold textQuota
  simp only [imageAnswer, hsettle] at hsurcharge ⊢
  unfold composeTieredTextQuota
  rw [hsurcharge]
  split
  · next hnone =>
    rw [hzero, hnone]
    norm_num [roundHalfAway]
  · show roundHalfAway (0 / 1000000 * 1 * 1 + n * groupRatioInfo.groupRatio) = _
    congr 1
    ring

end

/-! ### Retries and the quota -/

section

variable {groups : GroupRatios}

/-- Whatever the prices and the answer are: a request with a fixed price or an expression is charged as if the first
channel had succeeded. -/
def QuotaKept (settings : RelaySettings) (request : RelayRequest) (world : World) (groups : GroupRatios) (fuel : Nat)
    (ctx : RetryContext) : Prop :=
  ∀ (host : Host) (now : Time) (preConsumed : Int) (prices : PriceTables) (priceRequest : PriceRequest)
    (acceptUnset : Bool) (answer : Answer) (info : PricingInfo) (first last : RelayResult),
    modelPriceHelper host prices groups ctx.autoGroup priceRequest (requestInfo request acceptUnset) = .ok info →
    (info.priceData.usePrice = true ∨ info.tieredBillingSnapshot.isSome) →
    relay settings request (succeeding world) groups fuel ctx info = some first →
    relay settings request world groups fuel ctx info = some last →
    (textQuota host now preConsumed prices last.state.info answer).quota =
      (textQuota host now preConsumed prices first.state.info answer).quota

/-- The ratios after the attempts of a request: the group of the last retry has the ratio 1, if there was a retry, and
the other ratios have the product that they had after the first attempt. -/
structure RatiosKept (request : RelayRequest) (world : World) (groups : GroupRatios) (ctx : RetryContext)
    (log : List Attempt) : Prop where
  group : log.tail = [] ∨
    ratioOfGroup groups request.userGroup (groupAfter (ctx.autoGroup.getD request.usingGroup) log.tail) = 1
  other : ((otherRatiosAfter world [] log.length).map Prod.snd).prod = ((otherRatiosAfter world [] 1).map Prod.snd).prod

/-- The ratio of the group after the attempts: 1, or the one of the last retry. -/
def lastRatio (request : RelayRequest) (groups : GroupRatios) (ctx : RetryContext) (log : List Attempt) : ℚ :=
  if log.tail = [] then 1
  else ratioOfGroup groups request.userGroup (groupAfter (ctx.autoGroup.getD request.usingGroup) log.tail)

lemma records_of_frozen {first last : RelayResult}
    (hresult : relay settings request world groups fuel ctx info' = some result) (hanswered : result.answered = true)
    (hfrozen : Frozen request ctx.autoGroup info)
    (hfirst : relay settings request (succeeding world) groups fuel ctx info = some first)
    (hlast : relay settings request world groups fuel ctx info = some last) :
    first.state.info = withRatios info info.usingGroup info.priceData.groupRatioInfo (otherRatiosAfter world [] 1) ∧
    ∃ usingGroup, ∃ groupRatioInfo : GroupRatioInfo,
      groupRatioInfo.groupRatio = lastRatio request groups ctx result.state.log ∧
      last.state.info =
        withRatios info usingGroup groupRatioInfo (otherRatiosAfter world [] result.state.log.length) := by
  obtain ⟨last', hlast', hsame, hlog⟩ := relay_info hresult
  obtain rfl := some.inj (hlast.symm.trans hlast')
  obtain ⟨hinfo, -⟩ := info_of_answered hlast (hsame.trans hanswered)
  obtain ⟨first', hfirst', hfirstInfo⟩ := relay_succeeding hlast (hsame.trans hanswered)
  obtain rfl := some.inj (hfirst.symm.trans hfirst')
  constructor
  · rw [hfirstInfo, addOtherRatios_eq, hfrozen.otherRatios]
    rfl
  · obtain ⟨groupRatioInfo, hratio, heq⟩ : ∃ groupRatioInfo : GroupRatioInfo, _ ∧
        infoAfter world groups info result.state.log = _ := infoAfter_eq
    rw [hfrozen.groupRatio, hfrozen.userGroup, hfrozen.usingGroup] at hratio
    rw [hfrozen.otherRatios] at heq
    exact ⟨_, groupRatioInfo, hratio, by rw [hinfo, hlog, heq]⟩

/-- Retries do not change the quota of a request with a fixed price or an expression, whatever its price and its
answer are, exactly if the group of the last retry has the ratio 1 and the channels tried have added no other ratio
that counts. -/
theorem retry_quota_eq_iff {info : PricingInfo} {result : RelayResult}
    (hrun : relay settings request world groups fuel ctx info = some result) (hanswered : result.answered = true) :
    QuotaKept settings request world groups fuel ctx ↔ RatiosKept request world groups ctx result.state.log := by
  constructor
  · intro h
    have hsample : ∀ (prices : PriceTables) (answer : Answer) (info₀ : PricingInfo),
        modelPriceHelper plainHost prices groups ctx.autoGroup {} (requestInfo request false) = .ok info₀ →
        (info₀.priceData.usePrice = true ∨ info₀.tieredBillingSnapshot.isSome) →
        ∃ usingGroup, ∃ groupRatioInfo : GroupRatioInfo,
          groupRatioInfo.groupRatio = lastRatio request groups ctx result.state.log ∧
          info₀.priceData.groupRatioInfo.groupRatio = 1 ∧
          (textQuota plainHost 0 0 prices (withRatios info₀ usingGroup groupRatioInfo
              (otherRatiosAfter world [] result.state.log.length)) answer).quota =
            (textQuota plainHost 0 0 prices (withRatios info₀ info₀.usingGroup info₀.priceData.groupRatioInfo
              (otherRatiosAfter world [] 1)) answer).quota := by
      intro prices answer info₀ hprice hkind
      have hfrozen := frozen_of_modelPriceHelper hprice hkind
      obtain ⟨last, hlast, hsame, -⟩ := relay_info hrun
      obtain ⟨first, hfirst, -⟩ := relay_succeeding hlast (hsame.trans hanswered)
      obtain ⟨hfirstInfo, usingGroup, groupRatioInfo, hratio, hlastInfo⟩ :=
        records_of_frozen hrun hanswered hfrozen hfirst hlast
      have hquota := h plainHost 0 0 prices {} false answer info₀ first last hprice hkind hfirst hlast
      rw [hfirstInfo, hlastInfo] at hquota
      exact ⟨usingGroup, groupRatioInfo, hratio, hfrozen.groupRatio, hquota⟩
    -- The price of an image shows the ratio of the group.
    have hgroup : lastRatio request groups ctx result.state.log = 1 := by
      refine eq_of_rounded_mul abs_roundHalfAway_sub_le fun n => ?_
      have hprice := modelPriceHelper_tiered groups ctx.autoGroup request n
      obtain ⟨usingGroup, groupRatioInfo, hratio, hone, hquota⟩ := hsample _ imageAnswer _ hprice (.inr rfl)
      rw [quota_tiered hprice, quota_tiered hprice, hratio, hone] at hquota
      exact hquota
    refine ⟨?_, ?_⟩
    · by_cases htail : result.state.log.tail = []
      · exact .inl htail
      · rw [lastRatio, if_neg htail] at hgroup
        exact .inr hgroup
    · -- A fixed price shows the product of the other ratios.
      refine eq_of_rounded_mul abs_roundHalfAway_sub_le fun n => ?_
      have hprice := modelPriceHelper_fixed plainHost groups ctx.autoGroup request n
      obtain ⟨usingGroup, groupRatioInfo, hratio, hone, hquota⟩ :=
        hsample _ { imageAnswer with imageGenerationCall := none } _ hprice (.inl rfl)
      rw [quota_fixed hprice, quota_fixed hprice, hratio, hgroup, hone, one_mul, one_mul] at hquota
      exact hquota
  · intro h host now preConsumed prices priceRequest acceptUnset answer info₀ first last hprice hkind hfirst hlast
    have hfrozen := frozen_of_modelPriceHelper hprice hkind
    obtain ⟨hfirstInfo, usingGroup, groupRatioInfo, hratio, hlastInfo⟩ :=
      records_of_frozen hrun hanswered hfrozen hfirst hlast
    have hone : groupRatioInfo.groupRatio = info₀.priceData.groupRatioInfo.groupRatio := by
      rw [hratio, lastRatio, hfrozen.groupRatio]
      rcases h.group with htail | hgroup
      · rw [if_pos htail]
      · rw [hgroup, ite_self]
    rw [hfirstInfo, hlastInfo, textQuota_withRatios hone h.other]

/-- The group of the retry has the ratio 1, so the quota is kept. -/
theorem retry_quota_kept : QuotaKept { retryTimes := 2 } { modelName := "m" } (failingWorld [1, 2] 1) {} 9
    { channelId := 1, calls := 2 } := by
  have hrun : (relay { retryTimes := 2 } { modelName := "m" } (failingWorld [1, 2] 1) {} 9
      { channelId := 1, calls := 2 }
      { originModelName := "m" }).map (fun result => (result.answered, result.state.log.length)) = some (true, 2) := by
    decide +kernel
  obtain ⟨result, hresult, heq⟩ := map_eq_some_iff.mp hrun
  obtain ⟨hanswered, hlength⟩ := Prod.mk.inj heq
  refine (retry_quota_eq_iff hresult hanswered).mpr ⟨.inr rfl, ?_⟩
  rw [hlength]
  rfl

/-- The ratio of the group is 2, so a retry doubles a fixed price. -/
theorem retry_doubles_quota :
    let settings : RelaySettings := { retryTimes := 2 }
    let request : RelayRequest := { modelName := "m" }
    let world := failingWorld [1, 2] 1
    let groups : GroupRatios := { getGroupRatio := fun _ => 2 }
    let prices : PriceTables := { getModelPrice := fun _ => some (1 / 1000) }
    let quota := fun result : RelayResult =>
      (textQuota plainHost 0 0 prices result.state.info { usage := some { promptTokens := 1 } }).quota
    ∃ ctx info, distribute settings request world = .ok ctx ∧
      modelPriceHelper plainHost prices groups ctx.autoGroup {} (requestInfo request false) = .ok info ∧
      info.priceData.usePrice = true ∧
      (relay settings request (succeeding world) groups 9 ctx info).map quota = some 500 ∧
      (relay settings request world groups 9 ctx info).map quota = some 1000 := by
  refine ⟨{ channelId := 1, calls := 2 }, _, by decide +kernel, rfl, rfl, ?_, ?_⟩
  all_goals decide +kernel

end

end LoveApi.Proofs
