import LoveApi.SubscriptionLifecycle

/-!
# The subscription task

A task of the master node expires overdue subscriptions and resets the quota of those whose reset time has passed, in
batches of 300.
-/

namespace LoveApi

open Program Prog Go

def subscriptionResetBatchSize : Nat := 300

section Reset

variable (cfg : Config) (env : Env)

/-- `getSubscriptionPlanByIdTx(nil, id)`. -/
def getSubscriptionPlanById (id : Int) : Action SubscriptionPlan :=
  if id ≤ 0 then throw "invalid plan id"
  else
    match env.cachedPlan id with
    | some plan => pure plan
    | none => exec (.selectPlan id)

/-- The transaction for one row: 1 if it is counted. A row that is not due any more is skipped. -/
def resetDueTx (id : Int) (plan : SubscriptionPlan) : Query Nat := do
  match ← attempt (query (.selectDueSubscription id env.now)) with
  | .error _ => return 0
  | .ok locked => do
    let _ ← maybeResetUserSubscriptionWithPlanTx cfg id locked plan env.now
    return 1

def resetDueRow (resetCount : Nat) (row : Int × UserSubscription) : Action Nat := do
  match ← attempt (getSubscriptionPlanById env row.2.planId) with
  | .error _ => return resetCount
  | .ok plan => do
    let counted ← transaction (resetDueTx cfg env row.1 plan)
    return resetCount + counted

def resetDueSubscriptions (limit : Int) : Action Nat := do
  let subs ← exec (.selectDueSubscriptions env.now (if limit ≤ 0 then 200 else limit).toNat)
  subs.foldlM (resetDueRow cfg env) 0

/-- A loop over batches that ends with the first one that is not full. It is cut off after `fuel`
batches: `false` if it has not ended by then. -/
def batchLoop (batch : Action Nat) : Nat → Action Bool
  | 0 => pure false
  | fuel + 1 => do
    let n ← batch
    if n < subscriptionResetBatchSize then pure true else batchLoop batch fuel

/-- A round of the task, with each of its loops cut off after `fuel` batches. An error ends the
round. -/
def runSubscriptionQuotaResetOnce (order : MapOrder) (fuel : Nat) : Action Bool := do
  let expired ← batchLoop (expireDueSubscriptions env.now order subscriptionResetBatchSize) fuel
  if expired then batchLoop (resetDueSubscriptions cfg env subscriptionResetBatchSize) fuel
  else pure false

end Reset

end LoveApi
