import LoveApi.BillingExpr

/-!
# The price of a request

`ModelPriceHelper` decides how a request is charged: by a fixed price, by a billing expression, or by ratios of the
tokens.
-/

namespace LoveApi

open Go BillingExpr

structure GroupRatios where
  getGroupRatio : String → ℚ := fun _ => 1
  getGroupGroupRatio : String → String → Option ℚ := fun _ _ => none

structure PriceTables where
  quotaPerUnit : ℚ := 500000
  preConsumedQuota : Int := 500
  enableFreeModelPreConsume : Bool := true
  getModelPrice : String → Option ℚ := fun _ => none
  getDefaultModelPrice : String → Option ℚ := fun _ => none
  requestPriceUSD : String → Option ℚ := fun _ => none
  getBillingModeForGroup : String → String → String := fun _ _ => "ratio"
  getBillingExprForGroup : String → String → Option String := fun _ _ => none
  /-- The ratio of a model, whether it is set, and the name it was found by. -/
  getModelRatio : String → ℚ × Bool × String := fun model => (75 / 2, false, model)
  getDefaultModelRatio : String → Option ℚ := fun _ => none
  getCompletionRatio : String → ℚ := fun _ => 1
  getCacheRatio : String → ℚ := fun _ => 1
  getCreateCacheRatio : String → ℚ := fun _ => 5 / 4
  getImageRatio : String → ℚ := fun _ => 1
  getAudioRatio : String → ℚ := fun _ => 20
  getAudioCompletionRatio : String → ℚ := fun _ => 2
  getToolPriceForModel : String → String → ℚ := fun _ _ => 0
  getGPTImage1PriceOnceCall : String → String → ℚ := fun _ _ => 167 / 1000
  getGeminiInputAudioPricePerMillionTokens : String → ℚ := fun _ => 0

structure GroupRatioInfo where
  groupRatio : ℚ := 1
  groupSpecialRatio : ℚ := -1
  hasSpecialRatio : Bool := false
deriving DecidableEq, Repr

structure PriceData where
  freeModel : Bool := false
  modelPrice : ℚ := 0
  modelRatio : ℚ := 0
  completionRatio : ℚ := 0
  cacheRatio : ℚ := 0
  cacheCreationRatio : ℚ := 0
  cacheCreation5mRatio : ℚ := 0
  cacheCreation1hRatio : ℚ := 0
  imageRatio : ℚ := 0
  audioRatio : ℚ := 0
  audioCompletionRatio : ℚ := 0
  otherRatios : List (String × ℚ) := []
  usePrice : Bool := false
  /-- The final quota of a model that is charged by the call. -/
  quota : Int := 0
  quotaToPreConsume : Int := 0
  groupRatioInfo : GroupRatioInfo := {}
deriving DecidableEq, Repr

/-- `AddOtherRatio`; a key that is there already gets the new ratio. -/
def PriceData.addOtherRatio (price : PriceData) (key : String) (ratio : ℚ) : PriceData :=
  if ratio ≤ 0 then price
  else { price with otherRatios := (key, ratio) :: price.otherRatios.filter fun entry => entry.1 ≠ key }

structure PricingInfo where
  originModelName : String
  userGroup : String := ""
  usingGroup : String := ""
  acceptUnsetRatioModel : Bool := false
  priceData : PriceData := {}
  tieredBillingSnapshot : Option BillingSnapshot := none
  billingRequestInput : Option RequestInput := none
deriving DecidableEq, Repr

structure PriceRequest where
  promptTokens : Int := 0
  maxTokens : Int := 0
  imagePriceRatio : ℚ := 0
  isAdmin : Bool := false
  /-- `ResolveIncomingBillingExprRequestInput`. -/
  requestInput : Except String RequestInput := .ok {}
  now : Time := 0

section Groups

variable (groups : GroupRatios) (autoGroup : Option String)

/-- The group in use: the one that the selection of a channel chose, if it chose one. -/
def finalGroup (info : PricingInfo) : String := autoGroup.getD info.usingGroup

def handleGroupRatio (info : PricingInfo) : GroupRatioInfo × PricingInfo :=
  let info := { info with usingGroup := finalGroup autoGroup info }
  match groups.getGroupGroupRatio info.userGroup info.usingGroup with
  | some userGroupRatio =>
    ({ groupRatio := userGroupRatio, groupSpecialRatio := userGroupRatio, hasSpecialRatio := true }, info)
  | none => ({ groupRatio := groups.getGroupRatio info.usingGroup }, info)

end Groups

def claudeCacheCreation1hMultiplier : ℚ := 6 / (375 / 100)

def modelPriceNotConfiguredError (modelName : String) (isAdmin : Bool) : String :=
  if isAdmin then
    "模型 " ++ modelName ++ " 的价格未配置。请前往「系统设置 → 运营设置」开启自用模式，或在「系统设置 → 分组与模型定价设置」中为该模型配置价格；" ++
      "Model " ++ modelName ++ " price not configured. Go to System Settings → Operation Settings to enable " ++
      "self-use mode, or configure the model price in System Settings → Group & Model Pricing."
  else
    "模型 " ++ modelName ++ " 的价格尚未由管理员配置，暂时无法使用，请联系站点管理员开启该模型；" ++
      "Model " ++ modelName ++ " has not been priced by the administrator yet. Please contact the site " ++
      "administrator to enable this model."

section Helper

variable (host : Host) (prices : PriceTables) (groups : GroupRatios) (autoGroup : Option String)
  (request : PriceRequest)

def modelPriceHelperTiered (info : PricingInfo) : Except String PricingInfo :=
  let groupRatioInfo : GroupRatioInfo := {}
  let model := info.originModelName
  match prices.getBillingExprForGroup model info.usingGroup with
  | none => .error ("model " ++ model ++ " is configured as tiered_expr but has no billing expression")
  | some exprStr => do
    let requestInput ← request.requestInput
    let params : TokenParams := { p := request.promptTokens, c := request.maxTokens, len := request.promptTokens }
    match runExprWithRequest host request.now exprStr params requestInput with
    | .error e => throw ("model " ++ model ++ " tiered expr run failed: " ++ e)
    | .ok (rawCost, trace) =>
      let quotaBeforeGroup := rawCost / 1000000 * prices.quotaPerUnit
      let preConsumedQuota := quotaRound (quotaBeforeGroup * groupRatioInfo.groupRatio)
      return { info with
        tieredBillingSnapshot := some {
          exprString := exprStr
          groupRatio := groupRatioInfo.groupRatio
          estimatedQuotaAfterGroup := preConsumedQuota
          estimatedTier := trace.matchedTier
          quotaPerUnit := prices.quotaPerUnit }
        billingRequestInput := some requestInput
        priceData := { groupRatioInfo := groupRatioInfo, quotaToPreConsume := preConsumedQuota } }

def freePrice (price : PriceData) : PriceData :=
  if !prices.enableFreeModelPreConsume &&
      (price.groupRatioInfo.groupRatio = 0 ||
        (if price.usePrice then price.modelPrice = 0 else price.modelRatio = 0)) then
    { price with quotaToPreConsume := 0, freeModel := true }
  else price

def ratioPrice (info : PricingInfo) (groupRatioInfo : GroupRatioInfo) : Except String PriceData :=
  let model := info.originModelName
  let (modelRatio, success, matchName) := prices.getModelRatio model
  if !success && !info.acceptUnsetRatioModel then .error (modelPriceNotConfiguredError matchName request.isAdmin)
  else
    let preConsumedTokens := max request.promptTokens prices.preConsumedQuota + request.maxTokens
    let cacheCreationRatio := prices.getCreateCacheRatio model
    .ok {
      modelPrice := -1
      modelRatio := modelRatio
      completionRatio := prices.getCompletionRatio model
      cacheRatio := prices.getCacheRatio model
      cacheCreationRatio := cacheCreationRatio
      cacheCreation5mRatio := cacheCreationRatio
      cacheCreation1hRatio := cacheCreationRatio * claudeCacheCreation1hMultiplier
      imageRatio := prices.getImageRatio model
      audioRatio := prices.getAudioRatio model
      audioCompletionRatio := prices.getAudioCompletionRatio model
      quotaToPreConsume := Go.int (preConsumedTokens * (modelRatio * groupRatioInfo.groupRatio))
      groupRatioInfo := groupRatioInfo }

def fixedPrice (modelPrice : ℚ) : PriceData :=
  let groupRatioInfo : GroupRatioInfo := {}
  let modelPrice := if request.imagePriceRatio ≠ 0 then modelPrice * request.imagePriceRatio else modelPrice
  { modelPrice := modelPrice
    usePrice := true
    quotaToPreConsume := Go.int (modelPrice * prices.quotaPerUnit * groupRatioInfo.groupRatio)
    groupRatioInfo := groupRatioInfo }

def modelPriceHelper (info : PricingInfo) : Except String PricingInfo :=
  let model := info.originModelName
  let (groupRatioInfo, info) := handleGroupRatio groups autoGroup info
  match prices.requestPriceUSD model with
  | some requestPrice => .ok { info with priceData := freePrice prices (fixedPrice prices request requestPrice) }
  | none =>
    if prices.getBillingModeForGroup model info.usingGroup = "tiered_expr" then
      modelPriceHelperTiered host prices request info
    else
      match prices.getModelPrice model with
      | some modelPrice => .ok { info with priceData := freePrice prices (fixedPrice prices request modelPrice) }
      | none => do
        let price ← ratioPrice prices request info groupRatioInfo
        return { info with priceData := freePrice prices price }

/-- The price of a call of a model with a fixed price, and otherwise of half its ratio. -/
def callPrice (groupRatioInfo : GroupRatioInfo) (modelPrice : Option ℚ) (modelRatio : ℚ) : PriceData :=
  let price : PriceData := match modelPrice with
    | some modelPrice =>
      { modelPrice := modelPrice
        usePrice := true
        quota := Go.int (modelPrice * prices.quotaPerUnit * groupRatioInfo.groupRatio)
        groupRatioInfo := groupRatioInfo }
    | none =>
      { modelPrice := -1
        modelRatio := modelRatio
        quota := Go.int (modelRatio / 2 * prices.quotaPerUnit * groupRatioInfo.groupRatio)
        groupRatioInfo := groupRatioInfo }
  if !prices.enableFreeModelPreConsume &&
      (groupRatioInfo.groupRatio = 0 || (if price.usePrice then price.modelPrice = 0 else price.modelRatio = 0)) then
    { price with quota := 0, freeModel := true }
  else price

/-- The price of a task. The ratio of the group is not applied; the group in use is written to the record also when
there is no price. -/
def modelPriceHelperPerCall (isAdmin : Bool) (info : PricingInfo) : Except String PriceData × PricingInfo :=
  let (groupRatioInfo, info) := handleGroupRatio groups autoGroup info
  let groupRatioInfo := { groupRatioInfo with groupRatio := 1, groupSpecialRatio := -1, hasSpecialRatio := false }
  let model := info.originModelName
  match (prices.getModelPrice model).or (prices.getDefaultModelPrice model) with
  | some modelPrice => (.ok (callPrice prices groupRatioInfo (some modelPrice) 0), info)
  | none =>
    let (modelRatio, ratioSuccess, matchName) := prices.getModelRatio model
    if !ratioSuccess && !info.acceptUnsetRatioModel then
      (.error (modelPriceNotConfiguredError matchName isAdmin), info)
    else (.ok (callPrice prices groupRatioInfo none modelRatio), info)

end Helper

end LoveApi
