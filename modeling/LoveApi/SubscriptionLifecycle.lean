import LoveApi.Subscription
import LoveApi.TopUp

/-!
# The life of a subscription

A subscription that is created from a plan may move its user to another group. When it ends, the user is moved back to
the group stored with it.
-/

namespace LoveApi

open Program Prog Go

/-! ### Creation -/

section

variable (cfg : Config) (now : Time)

def calcPlanEndTime (start : Time) (plan : SubscriptionPlan) : Except String Time :=
  if plan.durationValue ≤ 0 ∧ plan.durationUnit ≠ "custom" then .error "duration_value must be > 0"
  else
    match plan.durationUnit with
    | "year" => .ok (addDate cfg.utcOffset start plan.durationValue 0 0)
    | "month" => .ok (addDate cfg.utcOffset start 0 plan.durationValue 0)
    | "day" => .ok (start + plan.durationValue * 24 * 3600)
    | "hour" => .ok (start + plan.durationValue * 3600)
    | "custom" =>
      if plan.customSeconds ≤ 0 then .error "custom_seconds must be > 0"
      else .ok (start + plan.customSeconds)
    | unit => .error ("invalid duration_unit: " ++ unit)

def getUserGroupByIdTx (userId : Int) : Query String :=
  if userId ≤ 0 then throw "invalid userId" else query (.selectUserGroup userId)

def checkPurchaseLimit (userId planId : Int) (plan : SubscriptionPlan) : Query Unit :=
  if plan.maxPurchasePerUser > 0 then do
    let count ← query (.countSubscriptionsByPlan userId planId)
    if (count : Int) ≥ plan.maxPurchasePerUser then throw "已达到该套餐购买上限" else pure ()
  else pure ()

/-- Moves the user to the group of a plan and returns the group to go back to, which is empty if
the user is in the plan's group already. -/
def upgradeUserGroupTx (userId : Int) (upgradeGroup : String) : Query String :=
  if upgradeGroup = "" then pure ""
  else do
    let currentGroup ← getUserGroupByIdTx userId
    if currentGroup = upgradeGroup then pure ""
    else do
      query (.updateUserGroup userId upgradeGroup)
      return currentGroup

def newSubscription (userId planId : Int) (plan : SubscriptionPlan) (source : SubscriptionSource)
    (endTime : Time) (prevGroup : String) : UserSubscription :=
  let nextReset := calcNextResetTime cfg now plan endTime
  { userId
    planId
    amountTotal := plan.totalAmount
    amountUsed := 0
    used_nonneg := Int.natCast_nonneg _
    startTime := now
    endTime
    status := .active
    source
    lastResetTime := if nextReset = zeroTime then none else some now
    nextResetTime := if nextReset = zeroTime then none else some nextReset
    upgradeGroup := trimSpace plan.upgradeGroup
    prevUserGroup := prevGroup }

def createUserSubscriptionFromPlanTx (userId planId : Int) (plan : SubscriptionPlan)
    (source : SubscriptionSource) : Query Int :=
  if planId = 0 then throw "invalid plan"
  else if userId ≤ 0 then throw "invalid user id"
  else do
    checkPurchaseLimit userId planId plan
    match calcPlanEndTime cfg now plan with
    | .error e => throw e
    | .ok endTime => do
      let prevGroup ← upgradeUserGroupTx userId (trimSpace plan.upgradeGroup)
      query (.createSubscription (newSubscription cfg now userId planId plan source endTime prevGroup))

end

/-! ### Orders -/

section

variable (cfg : Config) (env : Env)

def errSubscriptionOrderNotFound : String := "subscription order not found"
def errSubscriptionOrderStatusInvalid : String := "subscription order status invalid"

def upsertSubscriptionTopUpTx (tradeNo : String) (order : SubscriptionOrder) : Query Unit := do
  match ← query (.findTopUp tradeNo) with
  | none =>
    query (.createTopUp tradeNo
      { userId := order.userId
        amount := 0
        money := order.money
        paymentMethod := order.paymentMethod
        paymentProvider := .unset
        createTime := order.createTime
        completeTime := some env.now
        status := .success })
  | some topUp =>
    if topUp.paymentMethod ≠ "" ∧ topUp.paymentMethod ≠ order.paymentMethod then
      throw errPaymentMethodMismatch
    else
      query (.saveTopUp tradeNo { topUp with
        money := order.money
        paymentMethod := order.paymentMethod
        createTime := if topUp.createTime = zeroTime then order.createTime else topUp.createTime
        completeTime := some env.now
        status := .success })

/-- The order with the trade number, if the caller speaks for its provider. An empty provider is
not compared. -/
def findSubscriptionOrder (tradeNo : String) (expectedPaymentProvider : PaymentProvider) :
    Query SubscriptionOrder := do
  let order ← mapError (fun _ => errSubscriptionOrderNotFound) (query (.selectSubscriptionOrder tradeNo))
  if expectedPaymentProvider ≠ .unset ∧ order.paymentProvider ≠ expectedPaymentProvider then
    throw errPaymentMethodMismatch
  else return order

def SubscriptionOrder.complete (order : SubscriptionOrder) (now : Time)
    (providerPayload actualPaymentMethod : String) : SubscriptionOrder :=
  { order with
    status := .success
    completeTime := some now
    providerPayload := if providerPayload ≠ "" then providerPayload else order.providerPayload
    paymentMethod := if actualPaymentMethod ≠ "" then actualPaymentMethod else order.paymentMethod }

def completeSubscriptionOrderTx (tradeNo providerPayload : String)
    (expectedPaymentProvider : PaymentProvider) (actualPaymentMethod : String) : Query Unit := do
  let order ← findSubscriptionOrder tradeNo expectedPaymentProvider
  if order.status = .success then pure ()
  else if order.status ≠ .pending then throw errSubscriptionOrderStatusInvalid
  else do
    let plan ← getSubscriptionPlanByIdTx env order.planId
    let _ ← createUserSubscriptionFromPlanTx cfg env.now order.userId order.planId plan .order
    upsertSubscriptionTopUpTx env tradeNo order
    query (.saveSubscriptionOrder tradeNo (order.complete env.now providerPayload actualPaymentMethod))

def completeSubscriptionOrder (tradeNo providerPayload : String)
    (expectedPaymentProvider : PaymentProvider) (actualPaymentMethod : String) : Action Unit :=
  if tradeNo = "" then throw "tradeNo is empty"
  else
    transaction (completeSubscriptionOrderTx cfg env tradeNo providerPayload expectedPaymentProvider
      actualPaymentMethod)

def expireSubscriptionOrderTx (tradeNo : String) (expectedPaymentProvider : PaymentProvider) :
    Query Unit := do
  let order ← findSubscriptionOrder tradeNo expectedPaymentProvider
  if order.status ≠ .pending then pure ()
  else
    query (.saveSubscriptionOrder tradeNo { order with status := .expired, completeTime := some env.now })

def expireSubscriptionOrder (tradeNo : String) (expectedPaymentProvider : PaymentProvider) :
    Action Unit :=
  if tradeNo = "" then throw "tradeNo is empty"
  else transaction (expireSubscriptionOrderTx env tradeNo expectedPaymentProvider)

end

/-! ### The end of a subscription -/

section

variable (now : Time)

/-- Moves the user back when the subscription ends, unless another active one upgrades the user.
Returns the group that the user is moved to. A failed lookup of the other subscriptions counts as
none found. -/
def downgradeUserGroupForSubscriptionTx (id : Int) (sub : UserSubscription) : Query String :=
  if trimSpace sub.upgradeGroup = "" then pure ""
  else do
    let currentGroup ← getUserGroupByIdTx sub.userId
    if currentGroup ≠ trimSpace sub.upgradeGroup then pure ""
    else do
      match ← attempt (query (.findActiveUpgrade sub.userId now (some id))) with
      | .ok (some _) => pure ""
      | _ =>
        if trimSpace sub.prevUserGroup = "" ∨ trimSpace sub.prevUserGroup = currentGroup then pure ""
        else do
          query (.updateUserGroup sub.userId (trimSpace sub.prevUserGroup))
          return trimSpace sub.prevUserGroup

def downgradeMessage (target : String) : String :=
  if target = "" then "" else "用户分组将回退到 " ++ target

def adminInvalidateTx (id : Int) : Query String := do
  let sub ← query (.selectSubscription id)
  query (.cancelSubscription id now)
  downgradeUserGroupForSubscriptionTx now id sub

def adminInvalidateUserSubscription (id : Int) : Action String :=
  if id ≤ 0 then throw "invalid userSubscriptionId"
  else do
    let target ← transaction (adminInvalidateTx now id)
    return downgradeMessage target

def adminDeleteTx (id : Int) : Query String := do
  let sub ← query (.selectSubscription id)
  let target ← downgradeUserGroupForSubscriptionTx now id sub
  query (.deleteSubscription id)
  return target

def adminDeleteUserSubscription (id : Int) : Action String :=
  if id ≤ 0 then throw "invalid userSubscriptionId"
  else do
    let target ← transaction (adminDeleteTx now id)
    return downgradeMessage target

/-- Moves the user back to the group stored with the subscription that expired last. -/
def restoreUserGroupTx (userId : Int) (lastExpired : UserSubscription) : Query Unit :=
  if trimSpace lastExpired.upgradeGroup = "" ∨ trimSpace lastExpired.prevUserGroup = "" then pure ()
  else do
    let currentGroup ← getUserGroupByIdTx userId
    if currentGroup ≠ trimSpace lastExpired.upgradeGroup ∨ currentGroup = trimSpace lastExpired.prevUserGroup then
      pure ()
    else query (.updateUserGroup userId (trimSpace lastExpired.prevUserGroup))

/-- The transaction of `ExpireDueSubscriptions` for one user: how many subscriptions expired. -/
def expireUserTx (userId : Int) : Query Nat := do
  let rowsAffected ← query (.expireSubscriptions userId now)
  match ← attempt (query (.findActiveUpgrade userId now none)) with
  | .ok (some _) => return rowsAffected
  | _ => do
    match ← attempt (query (.findLastExpired userId)) with
    | .ok (some r) => do
      restoreUserGroupTx userId r.2
      return rowsAffected
    | _ => return rowsAffected

def batchUsers (order : MapOrder) (subs : List (Int × UserSubscription)) : List Int :=
  order.range ((subs.map (·.2.userId)).filter (· > 0)).dedup

def expireDueSubscriptions (order : MapOrder) (limit : Int) : Action Nat := do
  let subs ← exec (.selectOverdueSubscriptions now (if limit ≤ 0 then 200 else limit).toNat)
  (batchUsers order subs).foldlM (fun expiredCount userId => do
    let rowsAffected ← transaction (expireUserTx now userId)
    return expiredCount + rowsAffected) 0

end

end LoveApi
