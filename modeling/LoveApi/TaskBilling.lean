import LoveApi.Subscription

/-!
# Billing of asynchronous tasks

A task is charged when it is submitted. Its refund or settlement goes to the funding source and the token that the task
recorded.
-/

namespace LoveApi

open Program Prog Go

structure TaskSettings where
  taskTimeoutMinutes : Int := 1440
  taskQueryLimit : Nat := 1000
  serverAddress : String := ""
  getModelRatio : String → ℚ × Bool := fun _ => (75 / 2, false)
  getGroupRatio : String → ℚ := fun _ => 1
  getGroupGroupRatio : String → String → Option ℚ := fun _ _ => none

section Funding

variable (cfg : Config)

def resolveTokenKey (tokenId : Int) : Action String := do
  match ← attempt (getTokenById tokenId) with
  | .ok token => return token.key
  | .error _ => return ""

def taskIsSubscription (task : Task) : Bool :=
  task.privateData.billingSource = some .subscription && task.privateData.subscriptionId > 0

/-- Takes `delta` from the funding source of a task, or gives it back where it is negative. -/
def taskAdjustFunding (id : Int) (task : Task) (action : TaskBillingAction) (delta : Int) : Action Unit :=
  let memo : TaskMovement := ⟨id, action, .funding, delta⟩
  if taskIsSubscription task then
    postConsumeUserSubscriptionDelta task.privateData.subscriptionId delta memo
  else if delta > 0 then decreaseUserQuota cfg task.userId delta true memo
  else increaseUserQuota cfg task.userId (-delta) true memo

def taskAdjustTokenQuota (id : Int) (task : Task) (action : TaskBillingAction) (delta : Int) :
    Action Unit :=
  let memo : TaskMovement := ⟨id, action, .token, delta⟩
  if task.privateData.tokenId ≤ 0 ∨ delta = 0 then pure ()
  else do
    let tokenKey ← resolveTokenKey task.privateData.tokenId
    if tokenKey = "" then pure ()
    else do
      let _ ← attempt (
        if delta > 0 then decreaseTokenQuota cfg task.privateData.tokenId delta memo
        else increaseTokenQuota cfg task.privateData.tokenId (-delta) memo)

def taskModelName (task : Task) : String :=
  match task.privateData.billingContext with
  | some bc => if bc.originModelName ≠ "" then bc.originModelName else task.originModelName
  | none => task.originModelName

def recordTaskBillingLog (log : Log) : Action Unit :=
  if log.type = .consume ∧ !cfg.logConsumeEnabled then pure ()
  else do
    let _ ← attempt (exec (.createLog log))

def taskLog (task : Task) (type : LogType) (quota : Int) : Log where
  userId := task.userId
  type := type
  modelName := taskModelName task
  quota := quota
  channelId := task.channelId
  tokenId := task.privateData.tokenId
  group := task.group

/-- Gives the quota of a failed task back. If the funding source fails, nothing else is done. -/
def refundTaskQuota (id : Int) (task : Task) : Action Unit :=
  if task.quota = 0 then pure ()
  else do
    match ← attempt (taskAdjustFunding cfg id task .refund (-task.quota)) with
    | .error _ => pure ()
    | .ok _ => do
      taskAdjustTokenQuota cfg id task .refund (-task.quota)
      recordTaskBillingLog cfg (taskLog task .refund task.quota)

def recordRecalculation (task : Task) (quotaDelta : Int) : Action Unit :=
  if quotaDelta > 0 then do
    updateUserUsedQuotaAndRequestCount cfg task.userId quotaDelta
    recordTaskBillingLog cfg (taskLog task .consume quotaDelta)
  else recordTaskBillingLog cfg (taskLog task .refund (-quotaDelta))

/-- Settles the difference between the quota of a task and `actualQuota`. The new quota is
kept in memory. -/
def recalculateTaskQuota (id : Int) (task : Task) (actualQuota : Int) : Action Task :=
  let quotaDelta := actualQuota - task.quota
  if actualQuota ≤ 0 then pure task
  else if quotaDelta = 0 then pure task
  else do
    match ← attempt (taskAdjustFunding cfg id task .settle quotaDelta) with
    | .error _ => pure task
    | .ok _ => do
      taskAdjustTokenQuota cfg id task .settle quotaDelta
      recordRecalculation cfg { task with quota := actualQuota } quotaDelta
      return { task with quota := actualQuota }

end Funding

section Tokens

variable (cfg : Config) (settings : TaskSettings)

def taskGroup (task : Task) : Action String :=
  if task.group = "" then do
    match ← attempt (getUserById task.userId) with
    | .ok user => return user.group
    | .error _ => return ""
  else pure task.group

def otherMultiplier (task : Task) : ℚ :=
  match task.privateData.billingContext with
  | some bc => ((bc.otherRatios.map Prod.snd).filter fun r => r ≠ 1 ∧ r > 0).prod
  | none => 1

def tokenQuota (task : Task) (group : String) (totalTokens : Int) : Int :=
  let finalGroupRatio := (settings.getGroupGroupRatio group group).getD (settings.getGroupRatio group)
  Go.int (totalTokens * (settings.getModelRatio (taskModelName task)).1 * finalGroupRatio *
    otherMultiplier task)

def recalculateTaskQuotaByTokens (id : Int) (task : Task) (totalTokens : Int) : Action Task :=
  let (modelRatio, hasRatioSetting) := settings.getModelRatio (taskModelName task)
  if totalTokens ≤ 0 then pure task
  else if !hasRatioSetting ∨ modelRatio ≤ 0 then pure task
  else do
    let group ← taskGroup task
    if group = "" then pure task
    else recalculateTaskQuota cfg id task (tokenQuota settings task group totalTokens)

end Tokens

end LoveApi
