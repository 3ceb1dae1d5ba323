import LoveApi.Quota

/-!
# Subscriptions

Pre-consuming from, settling against and refunding to a subscription. The lookups carry the clause `FOR UPDATE` through
an option that the ORM ignores, so no row is locked.
-/

namespace LoveApi

open Program Prog Go

section Reset

variable (cfg : Config)

def normalizeResetPeriod (period : String) : String :=
  if trimSpace period ∈ ["daily", "weekly", "monthly", "custom"] then trimSpace period else "never"

/-- The next reset after `base`, or the zero time if there is none before `endTime`. -/
def calcNextResetTime (base : Time) (plan : SubscriptionPlan) (endTime : Time) : Time :=
  let day := localDay cfg.utcOffset base
  let fits (next : Time) : Time := if endTime ≠ zeroTime ∧ next > endTime then zeroTime else next
  match normalizeResetPeriod plan.quotaResetPeriod with
  | "daily" => fits (startOfDay cfg.utcOffset (day + 1))
  | "weekly" =>
    let weekday := if weekday day = 0 then 7 else weekday day
    fits (startOfDay cfg.utcOffset (day + (8 - weekday)))
  | "monthly" => fits (startOfDay cfg.utcOffset (firstOfNextMonth day))
  | "custom" =>
    if plan.quotaResetCustomSeconds ≤ 0 then zeroTime
    else fits (base + plan.quotaResetCustomSeconds)
  | _ => zeroTime

/-- The loop of `maybeResetUserSubscriptionWithPlanTx`: `base`, `next` and whether it
advanced. -/
def advanceReset (plan : SubscriptionPlan) (endTime now : Time) :
    Nat → Time → Time → Bool → Time × Time × Bool
  | 0, base, next, advanced => (base, next, advanced)
  | fuel + 1, base, next, advanced =>
    if next ≠ zeroTime ∧ ¬next > now then
      advanceReset plan endTime now fuel next (calcNextResetTime cfg next plan endTime) true
    else (base, next, advanced)

def dueReset (sub : UserSubscription) (plan : SubscriptionPlan) (now : Time) :
    Option UserSubscription :=
  if sub.nextResetTime.any (· > now) then none
  else if normalizeResetPeriod plan.quotaResetPeriod = "never" then none
  else
    let start := sub.lastResetTime.getD sub.startTime
    -- Each round of the loop moves `next` on by at least one second.
    let (base, next, advanced) := advanceReset cfg plan sub.endTime now (now - start).toNat start
      (calcNextResetTime cfg start plan sub.endTime) false
    if advanced then
      some { sub with
        amountUsed := 0
        used_nonneg := le_refl 0
        lastResetTime := some base
        nextResetTime := some next }
    else if sub.nextResetTime = none ∧ next ≠ zeroTime then
      some { sub with nextResetTime := some next, lastResetTime := some base }
    else none

def maybeResetUserSubscriptionWithPlanTx (id : Int) (sub : UserSubscription)
    (plan : SubscriptionPlan) (now : Time) : Query UserSubscription :=
  match dueReset cfg sub plan now with
  | none => pure sub
  | some sub' => do
    query (.saveSubscription id sub' none)
    return sub'

end Reset

section Consume

variable (cfg : Config) (env : Env)

def hasActiveUserSubscription (userId : Int) : Action Bool :=
  if userId ≤ 0 then throw "invalid userId"
  else do
    let count ← exec (.countActiveSubscriptions userId env.now)
    return count > 0

def getSubscriptionPlanByIdTx (id : Int) : Query SubscriptionPlan :=
  if id ≤ 0 then throw "invalid plan id"
  else
    match env.cachedPlan id with
    | some plan => pure plan
    | none => query (.selectPlan id)

structure SubscriptionPreConsumeResult where
  userSubscriptionId : Int
  preConsumed : Int
  amountTotal : Int
  amountUsedBefore : Int
  amountUsedAfter : Int
deriving DecidableEq, Repr

def alreadyRefunded : String := "subscription pre-consume already refunded"

def UserSubscription.consume (sub : UserSubscription) (amount : Int) (h : 0 < amount) :
    UserSubscription :=
  { sub with
    amountUsed := sub.amountUsed + amount
    used_nonneg := add_nonneg sub.used_nonneg h.le }

/-- The charge of a candidate with enough quota: first the record, then the subscription. A
record that another request has inserted in between is returned instead. -/
def chargeCandidate (requestId : String) (userId amount : Int) (h : 0 < amount) (id : Int)
    (sub : UserSubscription) : Query SubscriptionPreConsumeResult := do
  let created ← attempt (query (.createRecord requestId
    { userId, userSubscriptionId := id, preConsumed := amount, status := .consumed }))
  match created with
  | .error e => do
    let found ← attempt (query (.selectRecord requestId))
    match found with
    | .error _ => throw e
    | .ok dup =>
      if dup.status = .refunded then throw alreadyRefunded
      else return ⟨id, dup.preConsumed, sub.amountTotal, sub.amountUsed, sub.amountUsed⟩
  | .ok _ => do
    let charged := sub.consume amount h
    query (.saveSubscription id charged none)
    return ⟨id, amount, sub.amountTotal, sub.amountUsed, charged.amountUsed⟩

def preConsumeCandidates (requestId : String) (userId amount : Int) (h : 0 < amount) :
    List (Int × UserSubscription) → Query SubscriptionPreConsumeResult
  | [] => throw ("subscription quota insufficient, need=" ++ toString amount)
  | (id, candidate) :: rest => do
    let plan ← getSubscriptionPlanByIdTx env candidate.planId
    let sub ← maybeResetUserSubscriptionWithPlanTx cfg id candidate plan env.now
    if sub.amountTotal > 0 ∧ sub.amountTotal - sub.amountUsed < amount then
      preConsumeCandidates requestId userId amount h rest
    else chargeCandidate requestId userId amount h id sub

/-- The body of the transaction of `PreConsumeUserSubscription`. -/
def preConsumeTx (requestId : String) (userId amount : Int) (h : 0 < amount) :
    Query SubscriptionPreConsumeResult := do
  let existing ← query (.findRecord requestId)
  match existing with
  | some record =>
    if record.status = .refunded then throw alreadyRefunded
    else do
      let sub ← query (.selectSubscription record.userSubscriptionId)
      return ⟨record.userSubscriptionId, record.preConsumed, sub.amountTotal, sub.amountUsed,
        sub.amountUsed⟩
  | none => do
    let subs ← attempt (query (.selectActiveSubscriptions userId env.now))
    match subs with
    | .error _ => throw "no active subscription"
    | .ok [] => throw "no active subscription"
    | .ok (c :: cs) => preConsumeCandidates cfg env requestId userId amount h (c :: cs)

def preConsumeUserSubscription (requestId : String) (userId amount : Int) :
    Action SubscriptionPreConsumeResult :=
  if userId ≤ 0 then throw "invalid userId"
  else if trimSpace requestId = "" then throw "requestId is empty"
  else if h : amount ≤ 0 then throw "amount must be > 0"
  else transaction (preConsumeTx cfg env requestId userId amount (not_le.mp h))

def UserSubscription.adjust (sub : UserSubscription) (delta : Int) : UserSubscription :=
  { sub with
    amountUsed := max 0 (sub.amountUsed + delta)
    used_nonneg := le_max_left 0 _ }

/-- The body of the transaction of `PostConsumeUserSubscriptionDelta`. -/
def postConsumeTx (userSubscriptionId delta : Int) (memo : Option TaskMovement) : Query Unit := do
  let sub ← query (.selectSubscription userSubscriptionId)
  let adjusted := sub.adjust delta
  if sub.amountTotal > 0 ∧ adjusted.amountUsed > sub.amountTotal then
    throw ("subscription used exceeds total, used=" ++ toString adjusted.amountUsed ++
      " total=" ++ toString sub.amountTotal)
  else query (.saveSubscription userSubscriptionId adjusted memo)

def postConsumeUserSubscriptionDelta (userSubscriptionId delta : Int)
    (memo : Option TaskMovement := none) : Action Unit :=
  if userSubscriptionId ≤ 0 then throw "invalid userSubscriptionId"
  else if delta = 0 then pure ()
  else transaction (postConsumeTx userSubscriptionId delta memo)

/-- The change of the subscription runs in a transaction of its own, which stays committed
when the transaction around it fails. The save of the record and the commit are one step. -/
def refundSubscriptionPreConsume (requestId : String) : Action Unit :=
  if trimSpace requestId = "" then throw "requestId is empty"
  else do
    exec .begin
    let record ← exec (.selectRecord requestId)
    if record.status = .refunded then exec .commit
    else if record.preConsumed ≤ 0 then
      exec (.saveRecord requestId { record with status := .refunded })
    else do
      postConsumeUserSubscriptionDelta record.userSubscriptionId (-record.preConsumed)
      exec (.saveRecord requestId { record with status := .refunded })

def getSubscriptionPlanInfoByUserSubscriptionId (userSubscriptionId : Int) :
    Action (Int × String) :=
  if userSubscriptionId ≤ 0 then throw "invalid userSubscriptionId"
  else
    match env.cachedPlanInfo userSubscriptionId with
    | some info => pure info
    | none => do
      let sub ← exec (.selectSubscription userSubscriptionId)
      if sub.planId ≤ 0 then throw "invalid plan id"
      else
        match env.cachedPlan sub.planId with
        | some plan => return (sub.planId, plan.title)
        | none => do
          let plan ← exec (.selectPlan sub.planId)
          return (sub.planId, plan.title)

end Consume

end LoveApi
