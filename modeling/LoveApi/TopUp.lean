import LoveApi.Quota

/-!
# Top-up orders

An order leaves `pending` through the callback of its payment provider, through an administrator, or because it expires
or fails.
-/

namespace LoveApi

open Program Prog Go

/-- What the integer column `quota` stores for a value with a fraction. -/
structure Rounding where
  round : ℚ → Int := Go.int
  round_nonneg : ∀ q, 0 ≤ q → 0 ≤ round q := by exact fun _ => Go.int_nonneg

def errPaymentMethodMismatch : String := "payment method mismatch"
def errTopUpNotFound : String := "topup not found"
def errTopUpStatusInvalid : String := "topup status invalid"

def missingTradeNo : String := "未提供支付单号"
def rechargeFailed : String := "充值失败，请稍后重试"

section Orders

variable (cfg : Config) (rounding : Rounding) (now : Time)

def amountQuota (topUp : TopUp) : Int := Go.int (topUp.amount * cfg.quotaPerUnit)

def findTopUp (tradeNo e : String) : Query TopUp := mapError (fun _ => e) (query (.selectTopUp tradeNo))

def completeTopUp (tradeNo : String) (topUp : TopUp) (quota : Int)
    (stripeCustomer email : Option String) : Query Unit := do
  query (.saveTopUp tradeNo { topUp with completeTime := some now, status := .success })
  query (.creditUser topUp.userId quota stripeCustomer email)

/-- The transaction of `UpdatePendingTopUpStatus`. An empty provider is not compared. -/
def updatePendingTx (tradeNo : String) (expectedPaymentProvider : PaymentProvider)
    (targetStatus : TopUpStatus) : Query Unit := do
  let topUp ← findTopUp tradeNo errTopUpNotFound
  if expectedPaymentProvider ≠ .unset ∧ topUp.paymentProvider ≠ expectedPaymentProvider then
    throw errPaymentMethodMismatch
  else if topUp.status ≠ .pending then throw errTopUpStatusInvalid
  else query (.saveTopUp tradeNo { topUp with status := targetStatus })

def updatePendingTopUpStatus (tradeNo : String) (expectedPaymentProvider : PaymentProvider)
    (targetStatus : TopUpStatus) : Action Unit :=
  if tradeNo = "" then throw missingTradeNo
  else transaction (updatePendingTx tradeNo expectedPaymentProvider targetStatus)

def rechargeTx (referenceId customerId : String) : Query Unit := do
  let topUp ← findTopUp referenceId "充值订单不存在"
  if topUp.paymentProvider ≠ .stripe then throw errPaymentMethodMismatch
  else if topUp.status ≠ .pending then throw "充值订单状态错误"
  else
    completeTopUp now referenceId topUp (rounding.round (topUp.money * cfg.quotaPerUnit))
      (some customerId) none

def recharge (referenceId customerId : String) : Action Unit :=
  if referenceId = "" then throw missingTradeNo
  else mapError (fun _ => rechargeFailed) (transaction (rechargeTx cfg rounding now referenceId customerId))

def newEmail (userId : Int) (customerEmail : String) : Query (Option String) :=
  if customerEmail = "" then pure none
  else do
    let user ← query (.selectUser userId)
    return if user.email = "" then some customerEmail else none

/-- The transaction of `RechargeCreem`. The amount of the order is the quota. -/
def rechargeCreemTx (referenceId customerEmail : String) : Query Unit := do
  let topUp ← findTopUp referenceId "充值订单不存在"
  if topUp.paymentProvider ≠ .creem then throw errPaymentMethodMismatch
  else if topUp.status ≠ .pending then throw "充值订单状态错误"
  else do
    query (.saveTopUp referenceId { topUp with completeTime := some now, status := .success })
    let email ← newEmail topUp.userId customerEmail
    query (.creditUser topUp.userId topUp.amount none email)

def rechargeCreem (referenceId customerEmail : String) : Action Unit :=
  if referenceId = "" then throw missingTradeNo
  else mapError (fun _ => rechargeFailed) (transaction (rechargeCreemTx now referenceId customerEmail))

def rechargeWaffoTx (provider : PaymentProvider) (tradeNo : String) : Query Unit := do
  let topUp ← findTopUp tradeNo "充值订单不存在"
  if topUp.paymentProvider ≠ provider then throw errPaymentMethodMismatch
  else if topUp.status = .success then pure ()
  else if topUp.status ≠ .pending then throw "充值订单状态错误"
  else if amountQuota cfg topUp ≤ 0 then throw "无效的充值额度"
  else completeTopUp now tradeNo topUp (amountQuota cfg topUp) none none

def rechargeWaffo (tradeNo : String) : Action Unit :=
  if tradeNo = "" then throw missingTradeNo
  else mapError (fun _ => rechargeFailed) (transaction (rechargeWaffoTx cfg now .waffo tradeNo))

def rechargeWaffoPancake (tradeNo : String) : Action Unit :=
  if tradeNo = "" then throw missingTradeNo
  else mapError (fun _ => rechargeFailed) (transaction (rechargeWaffoTx cfg now .waffoPancake tradeNo))

/-- What an administrator credits: by the money of a Stripe order, by the amount of any other. -/
def manualQuota (topUp : TopUp) : Int :=
  if topUp.paymentProvider = .stripe then Go.int (topUp.money * cfg.quotaPerUnit)
  else amountQuota cfg topUp

/-- The transaction of `ManualCompleteTopUp`. The provider is not compared. -/
def manualCompleteTx (tradeNo : String) : Query Unit := do
  let topUp ← findTopUp tradeNo "充值订单不存在"
  if topUp.status = .success then pure ()
  else if topUp.status ≠ .pending then throw "订单状态不是待支付，无法补单"
  else if manualQuota cfg topUp ≤ 0 then throw "无效的充值额度"
  else completeTopUp now tradeNo topUp (manualQuota cfg topUp) none none

def manualCompleteTopUp (tradeNo : String) : Action Unit :=
  if tradeNo = "" then throw "未提供订单号" else transaction (manualCompleteTx cfg now tradeNo)

/-! ### Epay -/

inductive QuotaDisplayType
  | usd
  | cny
  | tokens
  | custom
deriving DecidableEq, Repr

structure EpayRequest where
  amount : Int
  paymentMethod : String
deriving DecidableEq, Repr

structure PurchaseArgs where
  type : String
  serviceTradeNo : String
  name : String
  money : String
deriving DecidableEq, Repr

/-- The settings of the payments: `payMethods` are the types of the payment methods, and `formatMoney` prints money with
two digits. There is no client as long as Epay is not configured; the client answers a purchase with an URL and its
parameters. -/
structure EpaySettings where
  quotaDisplayType : QuotaDisplayType := .usd
  price : ℚ := 73 / 10
  minTopUp : Int := 1
  getTopupGroupRatio : String → ℚ := fun _ => 1
  amountDiscount : Int → Option ℚ := fun _ => none
  payMethods : List String := []
  epayClient : Option (PurchaseArgs → Except String (String × List (String × String))) := none
  formatMoney : ℚ → String

section Request

variable (settings : EpaySettings)

/-- The money of an amount. In tokens mode the amount is divided, and the quotient keeps its fraction. -/
def getPayMoney (amount : Int) (group : String) : ℚ :=
  let dAmount := if settings.quotaDisplayType = .tokens then decimalDiv amount cfg.quotaPerUnit else amount
  let topupGroupRatio := if settings.getTopupGroupRatio group = 0 then 1 else settings.getTopupGroupRatio group
  let discount := match settings.amountDiscount amount with
    | some ds => if ds > 0 then ds else 1
    | none => 1
  dAmount * settings.price * topupGroupRatio * discount

def getMinTopup : Int :=
  if settings.quotaDisplayType = .tokens then Go.int (settings.minTopUp * cfg.quotaPerUnit) else settings.minTopUp

/-- The amount that an order stores. In tokens mode it is the integer part of the quotient. -/
def storedAmount (amount : Int) : Int :=
  if settings.quotaDisplayType = .tokens then Go.int (decimalDiv amount cfg.quotaPerUnit) else amount

def epayTradeNo (id : Int) (randomString : String) : String :=
  "USR" ++ toString id ++ "NO" ++ (randomString ++ toString now)

def epayOrderOf (id : Int) (req : EpayRequest) (payMoney : ℚ) : TopUp where
  userId := id
  amount := storedAmount cfg settings req.amount
  money := payMoney
  paymentMethod := req.paymentMethod
  paymentProvider := .epay
  createTime := now
  status := .pending

/-- Sells an amount to user `id`: the client is asked first, then the order is stored. An error is what the answer says;
a body that cannot be read is no request. -/
def requestEpay (randomString : String) (id : Int) (request : Option EpayRequest) :
    Action (String × List (String × String)) :=
  match request with
  | none => throw "参数错误"
  | some req =>
    if req.amount < getMinTopup cfg settings then
      throw ("充值数量不能小于 " ++ toString (getMinTopup cfg settings))
    else do
      let group ← mapError (fun _ => "获取用户分组失败") (exec (.selectUserGroup id))
      let payMoney := getPayMoney cfg settings req.amount group
      if payMoney < 1 / 100 then throw "充值金额过低"
      else if req.paymentMethod ∉ settings.payMethods then throw "支付方式不存在"
      else
        match settings.epayClient with
        | none => throw "当前管理员未配置支付信息"
        | some purchase =>
          match purchase
            { type := req.paymentMethod
              serviceTradeNo := epayTradeNo now id randomString
              name := "TUC" ++ toString req.amount
              money := settings.formatMoney payMoney } with
          | .error _ => throw "拉起支付失败"
          | .ok answer => do
            mapError (fun _ => "创建订单失败")
              (exec (.createTopUp (epayTradeNo now id randomString) (epayOrderOf cfg now settings id req payMoney)))
            return answer

end Request

structure VerifyRes where
  serviceTradeNo : String
  type : String := ""
  verifyStatus : Bool := true
  tradeSuccess : Bool := true
deriving DecidableEq, Repr

/-- The order of a paid notification: its status first, then the credit. An error ends the
handler. -/
def creditEpayOrder (verifyInfo : VerifyRes) : Action Unit := do
  match ← attempt (exec (.selectTopUp verifyInfo.serviceTradeNo)) with
  | .error _ => pure ()
  | .ok topUp =>
    if topUp.paymentProvider ≠ .epay then pure ()
    else if topUp.status ≠ .pending then pure ()
    else do
      match ← attempt (exec (.saveTopUp verifyInfo.serviceTradeNo
        { topUp with paymentMethod := verifyInfo.type, status := .success })) with
      | .error _ => pure ()
      | .ok _ => do
        let _ ← attempt (increaseUserQuota cfg topUp.userId (amountQuota cfg topUp) true)

/-- The answer to a notification. It is written before the order is touched. Without a verified
notification there is nothing to do. -/
def epayNotify (verifyInfo : Option VerifyRes) : Action String :=
  match verifyInfo with
  | none => pure "fail"
  | some v =>
    if !v.verifyStatus then pure "fail"
    else if !v.tradeSuccess then pure "success"
    else do
      creditEpayOrder cfg v
      return "success"

end Orders

end LoveApi
