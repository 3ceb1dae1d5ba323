import LoveApi.TextQuota

/-!
# Realtime sessions

A realtime request keeps a websocket to the upstream service open, and every response is charged when it is done.
-/

namespace LoveApi

open Program Prog Go BillingExpr

structure RealtimeUsage where
  totalTokens : Int := 0
  inputTokens : Int := 0
  outputTokens : Int := 0
  inputTokenDetails : InputTokenDetails := {}
  outputTokenDetails : OutputTokenDetails := {}
deriving DecidableEq, Repr

namespace RealtimeUsage

def add (u v : RealtimeUsage) : RealtimeUsage where
  totalTokens := u.totalTokens + v.totalTokens
  inputTokens := u.inputTokens + v.inputTokens
  outputTokens := u.outputTokens + v.outputTokens
  inputTokenDetails := { u.inputTokenDetails with
    cachedTokens := u.inputTokenDetails.cachedTokens + v.inputTokenDetails.cachedTokens
    textTokens := u.inputTokenDetails.textTokens + v.inputTokenDetails.textTokens
    audioTokens := u.inputTokenDetails.audioTokens + v.inputTokenDetails.audioTokens }
  outputTokenDetails := { u.outputTokenDetails with
    textTokens := u.outputTokenDetails.textTokens + v.outputTokenDetails.textTokens
    audioTokens := u.outputTokenDetails.audioTokens + v.outputTokenDetails.audioTokens }

def addInput (u : RealtimeUsage) (textToken audioToken : Int) : RealtimeUsage where
  totalTokens := u.totalTokens + (textToken + audioToken)
  inputTokens := u.inputTokens + (textToken + audioToken)
  outputTokens := u.outputTokens
  inputTokenDetails := { u.inputTokenDetails with
    textTokens := u.inputTokenDetails.textTokens + textToken
    audioTokens := u.inputTokenDetails.audioTokens + audioToken }
  outputTokenDetails := u.outputTokenDetails

def addOutput (u : RealtimeUsage) (textToken audioToken : Int) : RealtimeUsage where
  totalTokens := u.totalTokens + (textToken + audioToken)
  inputTokens := u.inputTokens
  outputTokens := u.outputTokens + (textToken + audioToken)
  inputTokenDetails := u.inputTokenDetails
  outputTokenDetails := { u.outputTokenDetails with
    textTokens := u.outputTokenDetails.textTokens + textToken
    audioTokens := u.outputTokenDetails.audioTokens + audioToken }

end RealtimeUsage

structure TokenDetails where
  textTokens : Int
  audioTokens : Int
deriving DecidableEq, Repr

structure QuotaInfo where
  inputDetails : TokenDetails
  outputDetails : TokenDetails
  modelName : String
  usePrice : Bool
  modelPrice : ℚ := 0
  modelRatio : ℚ
  groupRatio : ℚ
deriving DecidableEq, Repr

def calculateAudioQuota (prices : PriceTables) (info : QuotaInfo) : Int :=
  if info.usePrice then Go.int (info.modelPrice * prices.quotaPerUnit * info.groupRatio)
  else
    let completionRatio := prices.getCompletionRatio info.modelName
    let audioRatio := prices.getAudioRatio info.modelName
    let audioCompletionRatio := prices.getAudioCompletionRatio info.modelName
    let ratio := info.groupRatio * info.modelRatio
    let quota := (info.inputDetails.textTokens + info.outputDetails.textTokens * completionRatio +
      info.inputDetails.audioTokens * audioRatio +
      info.outputDetails.audioTokens * audioRatio * audioCompletionRatio) * ratio
    roundHalfAway (if ratio ≠ 0 ∧ quota ≤ 0 then 1 else quota)

/-- The request's record: its billing part, its price, and the name of the model at the upstream service. Nothing sets
`usePrice`, the field beside the one of the price. -/
structure RealtimeInfo where
  relayInfo : RelayInfo
  pricing : PricingInfo
  upstreamModelName : String
  usePrice : Bool := false
deriving DecidableEq, Repr

/-- A message of the client, or of the upstream service: a response that is done with its usage or without one, a
session that was created or updated, or another event. The numbers are the text and audio tokens counted in a message
(`CountTokenRealtime`). -/
inductive RealtimeEvent
  | client (textToken audioToken : Int)
  | responseDone (usage : RealtimeUsage)
  | responseDoneWithoutUsage (textToken audioToken : Int)
  | session
  | other (textToken audioToken : Int)
deriving DecidableEq, Repr

structure RealtimeState where
  usage : RealtimeUsage := {}
  localUsage : RealtimeUsage := {}
  sumUsage : RealtimeUsage := {}
deriving DecidableEq, Repr

section Handler

variable (cfg : Config) (env : Env) (prices : PriceTables) (groups : GroupRatios) (autoGroup : Option String)
  (info : RealtimeInfo)

/-- The ratio of the group in use, or the special one that the user's group has for it. -/
def actualGroupRatio : ℚ :=
  let usingGroup := finalGroup autoGroup info.pricing
  match groups.getGroupGroupRatio info.pricing.userGroup usingGroup with
  | some userGroupRatio => userGroupRatio
  | none => groups.getGroupRatio usingGroup

def preWssQuota (usage : RealtimeUsage) : Int :=
  calculateAudioQuota prices {
    inputDetails := ⟨usage.inputTokenDetails.textTokens, usage.inputTokenDetails.audioTokens⟩
    outputDetails := ⟨usage.outputTokenDetails.textTokens, usage.outputTokenDetails.audioTokens⟩
    modelName := info.pricing.originModelName
    usePrice := info.usePrice
    modelRatio := (prices.getModelRatio info.pricing.originModelName).1
    groupRatio := actualGroupRatio groups autoGroup info }

def preWssConsumeQuota (usage : RealtimeUsage) : Action Unit :=
  if info.usePrice then pure ()
  else do
    let userQuota ← getUserQuota info.relayInfo.userId
    let token ← getTokenByKey cfg env (trimPrefix info.relayInfo.tokenKey "sk-")
    let quota := preWssQuota prices groups autoGroup info usage
    if userQuota < quota then
      throw ("user quota is not enough, user quota: " ++ cfg.formatQuota userQuota ++ ", need quota: " ++
        cfg.formatQuota quota)
    else if !token.unlimitedQuota ∧ token.remainQuota < quota then
      throw ("token quota is not enough, token remain quota: " ++ cfg.formatQuota token.remainQuota ++
        ", need quota: " ++ cfg.formatQuota quota)
    else do
      let _ ← postConsumeQuota cfg info.relayInfo quota

def preConsumeUsage (usage totalUsage : RealtimeUsage) : Prog Req Req.Resp (Except String Unit × RealtimeUsage) := do
  let r ← (preWssConsumeQuota cfg env prices groups autoGroup info usage).run
  return (r, totalUsage.add usage)

def onEvent (s : RealtimeState) : RealtimeEvent → Prog Req Req.Resp (Except String Unit × RealtimeState)
  | .client textToken audioToken => return (.ok (), { s with localUsage := s.localUsage.addInput textToken audioToken })
  | .responseDone realtimeUsage => do
    let usage := s.usage.add realtimeUsage
    let (r, sumUsage) ← preConsumeUsage cfg env prices groups autoGroup info usage s.sumUsage
    match r with
    | .error e => return (.error e, { s with usage := usage, sumUsage := sumUsage })
    | .ok _ => return (.ok (), { sumUsage := sumUsage })
  | .responseDoneWithoutUsage textToken audioToken => do
    let localUsage := s.localUsage.addInput textToken audioToken
    let (r, sumUsage) ← preConsumeUsage cfg env prices groups autoGroup info localUsage s.sumUsage
    match r with
    | .error e => return (.error e, { s with localUsage := localUsage, sumUsage := sumUsage })
    | .ok _ => return (.ok (), { s with localUsage := {}, sumUsage := sumUsage })
  | .session => return (.ok (), s)
  | .other textToken audioToken => return (.ok (), { s with localUsage := s.localUsage.addOutput textToken audioToken })

/-- The events up to the end of the connection, or up to the first usage that cannot be charged. -/
def readEvents : List RealtimeEvent → RealtimeState → Prog Req Req.Resp RealtimeState
  | [], s => return s
  | event :: events, s => do
    match ← onEvent cfg env prices groups autoGroup info s event with
    | (.error _, s) => return s
    | (.ok _, s) => readEvents events s

def flushUsage (usage totalUsage : RealtimeUsage) : Prog Req Req.Resp RealtimeUsage :=
  if usage.totalTokens ≠ 0 then do
    let (_, totalUsage) ← preConsumeUsage cfg env prices groups autoGroup info usage totalUsage
    return totalUsage
  else return totalUsage

def openaiRealtimeHandler (events : List RealtimeEvent) : Prog Req Req.Resp RealtimeUsage := do
  let s ← readEvents cfg env prices groups autoGroup info events {}
  let sumUsage ← flushUsage cfg env prices groups autoGroup info s.usage s.sumUsage
  flushUsage cfg env prices groups autoGroup info s.localUsage sumUsage

variable (host : Host) (now : Time)

def wssQuota (usage : RealtimeUsage) : Int :=
  let price := info.pricing.priceData
  let quota := calculateAudioQuota prices {
    inputDetails := ⟨usage.inputTokenDetails.textTokens, usage.inputTokenDetails.audioTokens⟩
    outputDetails := ⟨usage.outputTokenDetails.textTokens, usage.outputTokenDetails.audioTokens⟩
    modelName := info.upstreamModelName
    usePrice := price.usePrice
    modelPrice := price.modelPrice
    modelRatio := price.modelRatio
    groupRatio := price.groupRatioInfo.groupRatio }
  let params : TokenParams := { p := usage.inputTokens, c := usage.outputTokens, len := usage.inputTokens }
  let quota := match tryTieredSettle host now info.relayInfo.finalPreConsumedQuota info.pricing params with
    | some (tieredQuota, _) => tieredQuota
    | none => quota
  if usage.totalTokens = 0 then 0 else quota

def postWssConsumeQuota (billing : Option BillingSession) (usage : RealtimeUsage) : Action Unit := do
  let summary : TextQuotaSummary := {
    quota := wssQuota prices info host now usage
    totalTokens := usage.totalTokens
    modelName := info.upstreamModelName }
  recordUsage cfg info.relayInfo summary
  let _ ← ExceptT.lift (settleBilling cfg info.relayInfo billing summary.quota)
  recordConsumeLog cfg { consumeLog info.relayInfo summary with modelName := info.upstreamModelName }

def wssHelper (billing : Option BillingSession) (events : List RealtimeEvent) : Action Unit := do
  let usage ← ExceptT.lift (openaiRealtimeHandler cfg env prices groups autoGroup info events)
  postWssConsumeQuota cfg prices info host now billing usage

end Handler

/-- The record of a request while its session is open: the session writes to it. -/
def openInfo (relayInfo : RelayInfo) (billing : Option BillingSession) : RelayInfo :=
  (billing.map BillingSession.relayInfo).getD relayInfo

end LoveApi
