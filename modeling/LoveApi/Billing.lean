import LoveApi.Subscription

/-!
# Billing sessions

A `BillingSession` takes a request from its pre-consume to its settlement or refund. Each method of this mutable object
takes the session and returns it with its fields updated.
-/

namespace LoveApi

open Program Prog Go

inductive ErrorCode
  | queryDataError
  | updateDataError
  | insufficientUserQuota
  | preConsumeTokenQuotaFailed
deriving DecidableEq, Repr

structure NewAPIError where
  message : String
  errorCode : ErrorCode
  statusCode : Nat := 500
  skipRetry : Bool := true
  recordErrorLog : Bool := true
deriving DecidableEq, Repr

structure RelayInfo where
  userId : Int
  tokenId : Int
  tokenKey : String
  requestId : String
  tokenUnlimited : Bool := false
  isPlayground : Bool := false
  forcePreConsume : Bool := false
  billingPreference : String := ""
  channelId : Int := 0
  usingGroup : String := ""
  userQuota : Int := 0
  finalPreConsumedQuota : Int := 0
  billingSource : Option BillingSource := none
  subscriptionId : Int := 0
  subscriptionPreConsumed : Int := 0
  subscriptionPostDelta : Int := 0
  subscriptionAmountTotal : Int := 0
  subscriptionAmountUsedAfterPreConsume : Int := 0
  subscriptionPlanId : Int := 0
  subscriptionPlanTitle : String := ""
deriving DecidableEq, Repr

/-! ### Funding sources -/

structure WalletFunding where
  userId : Int
  consumed : Int := 0
deriving DecidableEq, Repr

structure SubscriptionFunding where
  requestId : String
  userId : Int
  amount : Int
  subscriptionId : Int := 0
  preConsumed : Int := 0
  amountTotal : Int := 0
  amountUsedAfter : Int := 0
  planId : Int := 0
  planTitle : String := ""
deriving DecidableEq, Repr

inductive FundingSource
  | wallet (w : WalletFunding)
  | subscription (s : SubscriptionFunding)
deriving DecidableEq, Repr

/-- Up to `n + 1` attempts of a refund; the last error is returned. -/
def retry : Nat → Action Unit → Action Unit
  | 0, fn => fn
  | n + 1, fn => do
    match ← attempt fn with
    | .ok _ => pure ()
    | .error _ => retry n fn

def refundWithRetry (fn : Action Unit) : Action Unit := retry 2 fn

namespace WalletFunding

variable (cfg : Config)

def preConsume (w : WalletFunding) (amount : Int) : Action WalletFunding :=
  if amount ≤ 0 then pure w
  else do
    decreaseUserQuota cfg w.userId amount true
    return { w with consumed := amount }

def settle (w : WalletFunding) (delta : Int) : Action Unit :=
  if delta = 0 then pure ()
  else if delta > 0 then decreaseUserQuota cfg w.userId delta true
  else increaseUserQuota cfg w.userId (-delta) true

def refund (w : WalletFunding) : Action Unit :=
  if w.consumed ≤ 0 then pure () else increaseUserQuota cfg w.userId w.consumed true

end WalletFunding

namespace SubscriptionFunding

variable (cfg : Config) (env : Env)

def fillPlanInfo (s : SubscriptionFunding) : Action SubscriptionFunding := do
  match ← attempt (getSubscriptionPlanInfoByUserSubscriptionId env s.subscriptionId) with
  | .ok info => return { s with planId := info.1, planTitle := info.2 }
  | .error _ => return s

def preConsume (s : SubscriptionFunding) : Action SubscriptionFunding := do
  let res ← preConsumeUserSubscription cfg env s.requestId s.userId s.amount
  fillPlanInfo env { s with
    subscriptionId := res.userSubscriptionId
    preConsumed := res.preConsumed
    amountTotal := res.amountTotal
    amountUsedAfter := res.amountUsedAfter }

def settle (s : SubscriptionFunding) (delta : Int) : Action Unit :=
  if delta = 0 then pure () else postConsumeUserSubscriptionDelta s.subscriptionId delta

def refund (s : SubscriptionFunding) : Action Unit :=
  if s.preConsumed ≤ 0 then pure () else refundWithRetry (refundSubscriptionPreConsume s.requestId)

end SubscriptionFunding

namespace FundingSource

variable (cfg : Config) (env : Env)

def source : FundingSource → BillingSource
  | wallet _ => .wallet
  | subscription _ => .subscription

def preConsume (amount : Int) : FundingSource → Action FundingSource
  | wallet w => do return wallet (← w.preConsume cfg amount)
  | subscription s => do return subscription (← s.preConsume cfg env)

def settle (delta : Int) : FundingSource → Action Unit
  | wallet w => w.settle cfg delta
  | subscription s => s.settle delta

def refund : FundingSource → Action Unit
  | wallet w => w.refund cfg
  | subscription s => s.refund

end FundingSource

/-! ### Token quota of a request -/

section

variable (cfg : Config) (env : Env)

def preConsumeTokenQuota (info : RelayInfo) (quota : Int) : Action Unit :=
  if quota < 0 then throw negativeQuota
  else if info.isPlayground then pure ()
  else do
    let token ← getTokenByKey cfg env info.tokenKey
    if !info.tokenUnlimited ∧ token.remainQuota < quota then
      throw ("token quota is not enough, token remain quota: " ++ cfg.formatQuota token.remainQuota ++
        ", need quota: " ++ cfg.formatQuota quota)
    else decreaseTokenQuota cfg info.tokenId quota

end

/-! ### The session -/

structure BillingSession where
  relayInfo : RelayInfo
  funding : FundingSource
  preConsumedQuota : Int := 0
  tokenConsumed : Int := 0
  extraReserved : Int := 0
  trusted : Bool := false
  fundingSettled : Bool := false
  settled : Bool := false
  refunded : Bool := false
deriving DecidableEq, Repr

structure RefundJob where
  tokenId : Int
  isPlayground : Bool
  tokenConsumed : Int
  extraReserved : Int
  subscriptionId : Int
  funding : FundingSource
deriving DecidableEq, Repr

namespace RefundJob

variable (cfg : Config)

def refundExtra (job : RefundJob) : Action Unit :=
  if job.extraReserved > 0 ∧ job.funding.source = .subscription ∧ job.subscriptionId > 0 then
    postConsumeUserSubscriptionDelta job.subscriptionId (-job.extraReserved)
  else pure ()

def refundFunding (job : RefundJob) : Action Unit := do
  let _ ← attempt (job.funding.refund cfg)
  let _ ← attempt job.refundExtra

def refundToken (job : RefundJob) : Action Unit := do
  let _ ← attempt (
    if job.tokenConsumed > 0 ∧ !job.isPlayground then
      increaseTokenQuota cfg job.tokenId job.tokenConsumed
    else pure ())

def run (job : RefundJob) : Action Unit := do
  job.refundFunding cfg
  job.refundToken cfg

end RefundJob

namespace BillingSession

variable (cfg : Config) (env : Env)

def mirroredInfo (s : BillingSession) : RelayInfo :=
  let info := { s.relayInfo with
    finalPreConsumedQuota := s.preConsumedQuota
    billingSource := some s.funding.source }
  match s.funding with
  | .subscription sub =>
    { info with
      subscriptionId := sub.subscriptionId
      subscriptionPreConsumed := sub.preConsumed + s.extraReserved
      subscriptionPostDelta := 0
      subscriptionAmountTotal := sub.amountTotal
      subscriptionAmountUsedAfterPreConsume := sub.amountUsedAfter + s.extraReserved
      subscriptionPlanId := sub.planId
      subscriptionPlanTitle := sub.planTitle }
  | .wallet _ => { info with subscriptionId := 0, subscriptionPreConsumed := 0 }

def syncRelayInfo (s : BillingSession) : BillingSession := { s with relayInfo := mirroredInfo s }

def settleToken (info : RelayInfo) (delta : Int) : Action Unit :=
  if info.isPlayground then pure ()
  else if delta > 0 then decreaseTokenQuota cfg info.tokenId delta
  else increaseTokenQuota cfg info.tokenId (-delta)

/-- Once the funding source is settled the session is settled too, even if the token
quota could not be changed. -/
def settle (s : BillingSession) (actualQuota : Int) :
    Prog Req Req.Resp (Except String Unit × BillingSession) :=
  let delta := actualQuota - s.preConsumedQuota
  if s.settled then return (.ok (), s)
  else if delta = 0 then return (.ok (), { s with settled := true })
  else do
    let funded ← if s.fundingSettled then pure (.ok ()) else (s.funding.settle cfg delta).run
    match funded with
    | .error e => return (.error e, s)
    | .ok _ => do
      let tokenErr ← (settleToken cfg s.relayInfo delta).run
      let postDelta := match s.funding with
        | .subscription _ => s.relayInfo.subscriptionPostDelta + delta
        | .wallet _ => s.relayInfo.subscriptionPostDelta
      return (tokenErr, { s with
        relayInfo := { s.relayInfo with subscriptionPostDelta := postDelta }
        fundingSettled := true
        settled := true })

def needsRefund (s : BillingSession) : Bool :=
  if s.settled || s.refunded || s.fundingSettled then false
  else if s.tokenConsumed > 0 then true
  else
    match s.funding with
    | .subscription sub => sub.preConsumed > 0
    | .wallet _ => false

def refundJob (s : BillingSession) : RefundJob where
  tokenId := s.relayInfo.tokenId
  isPlayground := s.relayInfo.isPlayground
  tokenConsumed := s.tokenConsumed
  extraReserved := s.extraReserved
  subscriptionId := s.relayInfo.subscriptionId
  funding := s.funding

/-- `Refund` starts a background job unless there is nothing to give back. -/
def refund (s : BillingSession) : BillingSession × Option RefundJob :=
  if s.settled || s.refunded || !s.needsRefund then (s, none)
  else ({ s with refunded := true }, some s.refundJob)

def insufficientSubscription (e : String) : NewAPIError where
  message := "订阅额度不足或未配置订阅: " ++ e
  errorCode := .insufficientUserQuota
  statusCode := 403
  recordErrorLog := false

def tokenQuotaFailed (e : String) : NewAPIError where
  message := e
  errorCode := .preConsumeTokenQuotaFailed
  statusCode := 403
  recordErrorLog := false

def updateFailed (e : String) : NewAPIError where
  message := e
  errorCode := .updateDataError

def reserveFunding (delta : Int) : FundingSource → ExceptT NewAPIError (Prog Req Req.Resp) FundingSource
  | .wallet w => do
    mapError updateFailed (decreaseUserQuota cfg w.userId delta true)
    return .wallet { w with consumed := w.consumed + delta }
  | .subscription s => do
    mapError insufficientSubscription (postConsumeUserSubscriptionDelta s.subscriptionId delta)
    return .subscription s

def rollbackFundingReserve (delta : Int) : FundingSource → Prog Req Req.Resp FundingSource
  | .wallet w => do
    match ← (increaseUserQuota cfg w.userId delta true).run with
    | .ok _ => return .wallet { w with consumed := w.consumed - delta }
    | .error _ => return .wallet w
  | .subscription s => do
    let _ ← (postConsumeUserSubscriptionDelta s.subscriptionId (-delta)).run
    return .subscription s

def reserveToken (info : RelayInfo) (delta : Int) : ExceptT NewAPIError (Prog Req Req.Resp) Unit :=
  if delta ≤ 0 ∨ info.isPlayground then pure ()
  else mapError tokenQuotaFailed (preConsumeTokenQuota cfg env info delta)

def reserve (s : BillingSession) (targetQuota : Int) :
    Prog Req Req.Resp (Except NewAPIError Unit × BillingSession) :=
  let delta := targetQuota - s.preConsumedQuota
  if s.settled || s.refunded || s.trusted || targetQuota ≤ s.preConsumedQuota then return (.ok (), s)
  else if delta ≤ 0 then return (.ok (), s)
  else do
    match ← (reserveFunding cfg delta s.funding).run with
    | .error e => return (.error e, s)
    | .ok funding => do
      match ← (reserveToken cfg env s.relayInfo delta).run with
      | .error e => do
        let funding ← rollbackFundingReserve cfg delta funding
        return (.error e, { s with funding })
      | .ok _ =>
        return (.ok (), syncRelayInfo { s with
          funding
          preConsumedQuota := s.preConsumedQuota + delta
          tokenConsumed := s.tokenConsumed + delta
          extraReserved := s.extraReserved + delta })

/-- `common.GetTrustQuota`. -/
def trustQuota : Int := Go.int (10 * cfg.quotaPerUnit)

def shouldTrust (s : BillingSession) : Bool :=
  !s.relayInfo.forcePreConsume && !(trustQuota cfg ≤ 0) &&
    (s.relayInfo.tokenUnlimited || env.tokenQuota > trustQuota cfg) &&
    match s.funding with
    | .wallet _ => s.relayInfo.userQuota > trustQuota cfg
    | .subscription _ => false

def fundingError (e : String) : NewAPIError :=
  if contains e "no active subscription" || contains e "subscription quota insufficient" then
    insufficientSubscription e
  else updateFailed e

/-- Gives back the token quota of a failed pre-consume; an error is only logged. -/
def rollbackToken (info : RelayInfo) (tokenConsumed : Int) : Action Unit :=
  if tokenConsumed > 0 ∧ !info.isPlayground then do
    let _ ← attempt (increaseTokenQuota cfg info.tokenId tokenConsumed)
  else pure ()

def effectiveQuota (s : BillingSession) (quota : Int) : Int :=
  if shouldTrust cfg env s then 0 else quota

/-- The first step of `preConsume`: the token, and what was taken from it. -/
def preConsumeToken (info : RelayInfo) (quota : Int) : ExceptT NewAPIError (Prog Req Req.Resp) Int :=
  if quota > 0 then do
    mapError tokenQuotaFailed (preConsumeTokenQuota cfg env info quota)
    return quota
  else pure 0

/-- The second step of `preConsume`: the funding source. If it fails, the token gets back
what the first step took. -/
def preConsumeFunding (s : BillingSession) (quota tokenConsumed : Int) :
    ExceptT NewAPIError (Prog Req Req.Resp) BillingSession := do
  match ← attempt (mapError fundingError (s.funding.preConsume cfg env quota)) with
  | .error e => do
    mapError updateFailed (rollbackToken cfg s.relayInfo tokenConsumed)
    throw e
  | .ok funding =>
    return syncRelayInfo { s with
      funding
      trusted := shouldTrust cfg env s
      tokenConsumed
      preConsumedQuota := quota }

def preConsume (s : BillingSession) (quota : Int) :
    ExceptT NewAPIError (Prog Req Req.Resp) BillingSession := do
  let tokenConsumed ← preConsumeToken cfg env s.relayInfo (effectiveQuota cfg env s quota)
  preConsumeFunding cfg env s (effectiveQuota cfg env s quota) tokenConsumed

end BillingSession

/-! ### Opening a session -/

/-- `common.NormalizeBillingPreference`. -/
inductive BillingPreference
  | subscriptionFirst
  | walletFirst
  | subscriptionOnly
  | walletOnly
deriving DecidableEq, Repr

def normalizeBillingPreference (pref : String) : BillingPreference :=
  match trimSpace pref with
  | "wallet_first" => .walletFirst
  | "subscription_only" => .subscriptionOnly
  | "wallet_only" => .walletOnly
  | _ => .subscriptionFirst

section NewBillingSession

open BillingSession

variable (cfg : Config) (env : Env)

/-- A session, or the error and what the failed attempt left in `relayInfo`. -/
abbrev Opening := ExceptT (NewAPIError × RelayInfo) (Prog Req Req.Resp)

def queryFailed (e : String) : NewAPIError where
  message := e
  errorCode := .queryDataError

def insufficientQuota (message : String) : NewAPIError where
  message := message
  errorCode := .insufficientUserQuota
  statusCode := 403
  recordErrorLog := false

def tryWallet (info : RelayInfo) (preConsumedQuota : Int) : Opening BillingSession := do
  let userQuota ← mapError (fun e => (queryFailed e, info)) (getUserQuota info.userId)
  if userQuota ≤ 0 then
    throw (insufficientQuota ("用户额度不足, 剩余额度: " ++ cfg.formatQuota userQuota), info)
  else if userQuota - preConsumedQuota < 0 then
    throw (insufficientQuota ("预扣费额度失败, 用户剩余额度: " ++ cfg.formatQuota userQuota ++
      ", 需要预扣费额度: " ++ cfg.formatQuota preConsumedQuota), info)
  else
    let info := { info with userQuota }
    mapError (fun e => (e, info)) (preConsume cfg env
      { relayInfo := info, funding := .wallet { userId := info.userId } } preConsumedQuota)

def trySubscription (info : RelayInfo) (preConsumedQuota : Int) : Opening BillingSession :=
  let subConsume := if preConsumedQuota ≤ 0 then 1 else preConsumedQuota
  mapError (fun e => (e, info)) (preConsume cfg env
    { relayInfo := info
      funding := .subscription
        { requestId := info.requestId, userId := info.userId, amount := subConsume } } subConsume)

def orElse (first second : RelayInfo → Opening BillingSession) (info : RelayInfo) :
    Opening BillingSession := do
  match ← attempt (first info) with
  | .ok session => return session
  | .error (e, info) => if e.errorCode = .insufficientUserQuota then second info else throw (e, info)

def newBillingSession (info : RelayInfo) (preConsumedQuota : Int) : Opening BillingSession :=
  let wallet := fun info => tryWallet cfg env info preConsumedQuota
  let subscription := fun info => trySubscription cfg env info preConsumedQuota
  match normalizeBillingPreference info.billingPreference with
  | .subscriptionOnly => subscription info
  | .walletOnly => wallet info
  | .walletFirst => orElse wallet subscription info
  | .subscriptionFirst => do
    let hasSub ← mapError (fun e => (queryFailed e, info)) (hasActiveUserSubscription env info.userId)
    if hasSub then orElse subscription wallet info else wallet info

/-- The pre-consume of `Relay`: a free model takes nothing and gets no session. -/
def preConsumeBilling (freeModel : Bool) (info : RelayInfo) (preConsumedQuota : Int) :
    Opening (Option BillingSession) :=
  if freeModel then pure none
  else do return some (← newBillingSession cfg env info preConsumedQuota)

end NewBillingSession

/-! ### Settlement of a relayed request -/

section

variable (cfg : Config)

/-- The first step of `PostConsumeQuota`: the subscription or the wallet. -/
def postConsumeFunding (info : RelayInfo) (quota : Int) : Action RelayInfo :=
  if info.billingSource = some .subscription then
    if info.subscriptionId = 0 then throw "subscription id is missing"
    else if quota = 0 then pure info
    else do
      postConsumeUserSubscriptionDelta info.subscriptionId quota
      return { info with subscriptionPostDelta := info.subscriptionPostDelta + quota }
  else if quota > 0 then do
    decreaseUserQuota cfg info.userId quota true
    return info
  else do
    increaseUserQuota cfg info.userId (-quota) true
    return info

/-- The path without a session: charges `quota`, or gives it back where it is negative. -/
def postConsumeQuota (info : RelayInfo) (quota : Int) : Action RelayInfo := do
  let info ← postConsumeFunding cfg info quota
  BillingSession.settleToken cfg info quota
  return info

/-- Settles a request through its session, or through `postConsumeQuota` if it has none. -/
def settleBilling (info : RelayInfo) (billing : Option BillingSession) (actualQuota : Int) :
    Prog Req Req.Resp (Except String Unit × Option BillingSession) :=
  match billing with
  | some session => do
    let (r, session) ← session.settle cfg actualQuota
    return (r, some session)
  | none =>
    let quotaDelta := actualQuota - info.finalPreConsumedQuota
    if quotaDelta = 0 then return (.ok (), none)
    else do
      match ← (postConsumeQuota cfg info quotaDelta).run with
      | .ok _ => return (.ok (), none)
      | .error e => return (.error e, none)

/-- What `PostTextConsumeQuota` computes from the usage of a request before it bills. -/
structure TextQuotaSummary where
  quota : Int
  totalTokens : Int
  modelName : String := ""
deriving DecidableEq, Repr

def logModel (modelName : String) : String :=
  if hasPrefix modelName "gpt-4-gizmo" then "gpt-4-gizmo-*"
  else if hasPrefix modelName "gpt-4o-gizmo" then "gpt-4o-gizmo-*"
  else modelName

def recordConsumeLog (log : Log) : Action Unit :=
  if cfg.logConsumeEnabled then do
    let _ ← attempt (exec (.createLog log))
  else pure ()

def recordUsage (info : RelayInfo) (summary : TextQuotaSummary) : Action Unit :=
  if summary.totalTokens = 0 then pure ()
  else updateUserUsedQuotaAndRequestCount cfg info.userId summary.quota

def consumeLog (info : RelayInfo) (summary : TextQuotaSummary) : Log where
  userId := info.userId
  type := .consume
  modelName := logModel summary.modelName
  quota := summary.quota
  channelId := info.channelId
  tokenId := info.tokenId
  group := info.usingGroup

/-- The billing steps of `PostTextConsumeQuota`. An error of the settlement is only logged. -/
def postTextConsumeQuota (info : RelayInfo) (billing : Option BillingSession)
    (summary : TextQuotaSummary) : Action Unit := do
  recordUsage cfg info summary
  let _ ← ExceptT.lift (settleBilling cfg info billing summary.quota)
  recordConsumeLog cfg (consumeLog info summary)

end

end LoveApi
