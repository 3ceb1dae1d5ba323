import Mathlib.Data.List.Sort
import LoveApi.Go
import LoveApi.Program.Basic
import LoveApi.Program.Table

/-!
# The database

The tables that the billing, task and top-up code reads and writes, and its SQL statements. A statement is atomic.
-/

namespace LoveApi

open Program Go

/-! ### Rows -/

structure User where
  quota : Int
  group : String := "default"
  usedQuota : Int := 0
  requestCount : Int := 0
  affCount : Int := 0
  affQuota : Int := 0
  affHistoryQuota : Int := 0
  email : String := ""
  stripeCustomer : String := ""
deriving DecidableEq, Repr

structure Token where
  key : String
  remainQuota : Int
  usedQuota : Int := 0
  unlimitedQuota : Bool := false
deriving DecidableEq, Repr

inductive SubscriptionStatus
  | active
  | expired
  | cancelled
deriving DecidableEq, Repr

inductive SubscriptionSource
  | order
  | admin
deriving DecidableEq, Repr

/-- A user's subscription. No writer stores a negative `amountUsed`. -/
structure UserSubscription where
  userId : Int
  planId : Int
  amountTotal : Int
  amountUsed : Int
  used_nonneg : 0 ≤ amountUsed
  startTime : Time
  endTime : Time
  status : SubscriptionStatus
  source : SubscriptionSource := .order
  lastResetTime : Option Time := none
  nextResetTime : Option Time := none
  upgradeGroup : String := ""
  prevUserGroup : String := ""
deriving DecidableEq

structure SubscriptionPlan where
  title : String
  durationUnit : String := "month"
  durationValue : Int := 1
  customSeconds : Int := 0
  maxPurchasePerUser : Int := 0
  upgradeGroup : String := ""
  totalAmount : Int := 0
  quotaResetPeriod : String := "never"
  quotaResetCustomSeconds : Int := 0
deriving DecidableEq, Repr

inductive RecordStatus
  | consumed
  | refunded
deriving DecidableEq, Repr

structure SubscriptionPreConsumeRecord where
  userId : Int
  userSubscriptionId : Int
  preConsumed : Int
  status : RecordStatus
deriving DecidableEq, Repr

inductive TopUpStatus
  | pending
  | success
  | failed
  | expired
deriving DecidableEq, Repr

inductive PaymentProvider
  | unset
  | epay
  | stripe
  | creem
  | waffo
  | waffoPancake
deriving DecidableEq, Repr

structure TopUp where
  userId : Int
  amount : Int
  money : ℚ
  paymentMethod : String
  paymentProvider : PaymentProvider
  createTime : Time := zeroTime
  completeTime : Option Time := none
  status : TopUpStatus
deriving DecidableEq

structure SubscriptionOrder where
  userId : Int
  planId : Int
  money : ℚ
  paymentMethod : String
  paymentProvider : PaymentProvider
  status : TopUpStatus
  createTime : Time := zeroTime
  completeTime : Option Time := none
  providerPayload : String := ""
deriving DecidableEq

inductive TaskStatus
  | notStart
  | submitted
  | queued
  | inProgress
  | failure
  | success
  | unknown
  | other (s : String)
deriving DecidableEq, Repr

inductive BillingSource
  | wallet
  | subscription
deriving DecidableEq, Repr

structure TaskBillingContext where
  modelPrice : ℚ := 0
  groupRatio : ℚ := 0
  modelRatio : ℚ := 0
  otherRatios : List (String × ℚ) := []
  originModelName : String := ""
  perCallBilling : Bool := false
deriving DecidableEq

structure TaskPrivateData where
  key : String := ""
  upstreamTaskID : String := ""
  resultURL : String := ""
  billingSource : Option BillingSource := none
  subscriptionId : Int := 0
  tokenId : Int := 0
  billingContext : Option TaskBillingContext := none
deriving DecidableEq

inductive TaskPlatform
  | midjourney
  | suno
  | video (name : String)
deriving DecidableEq, Repr

structure Task where
  taskID : String
  platform : TaskPlatform
  userId : Int
  group : String := ""
  channelId : Int := 0
  quota : Int
  status : TaskStatus
  failReason : String := ""
  submitTime : Time := zeroTime
  startTime : Time := zeroTime
  finishTime : Time := zeroTime
  progress : String := "0%"
  originModelName : String := ""
  upstreamModelName : String := ""
  privateData : TaskPrivateData := {}
  data : String := ""
deriving DecidableEq

/-- A Midjourney task. Its times are Unix milliseconds, with 0 for the zero time. -/
structure Midjourney where
  code : Int
  userId : Int
  action : String
  mjId : String
  promptEn : String := ""
  state : String := ""
  submitTime : Int := 0
  startTime : Int := 0
  finishTime : Int := 0
  imageUrl : String := ""
  videoUrl : String := ""
  videoUrls : String := ""
  status : String := ""
  progress : String := "0%"
  failReason : String := ""
  channelId : Int := 0
  quota : Int
deriving DecidableEq, Repr

inductive LogType
  | consume
  | refund
deriving DecidableEq, Repr

structure Log where
  userId : Int
  type : LogType
  modelName : String := ""
  quota : Int
  channelId : Int := 0
  tokenId : Int := 0
  group : String := ""
deriving DecidableEq, Repr

/-! ### History

The statements that move quota can carry an annotation that no program reads: the task
they were made for. It lets a theorem about a whole run tell these movements apart. -/

inductive TaskBillingAction
  | refund
  | settle
deriving DecidableEq, Repr

/-- What a movement is booked on. The ids of Midjourney tasks are those of another table, so their
refunds are booked apart. -/
inductive Ledger
  | funding
  | token
  | midjourney
deriving DecidableEq, Repr

/-- A movement of quota made for a task: what it took, negative where it gave back. -/
structure TaskMovement where
  task : Int
  action : TaskBillingAction
  ledger : Ledger
  amount : Int
deriving DecidableEq, Repr

inductive BatchType
  | userQuota
  | tokenQuota
  | usedQuota
  | channelUsedQuota
  | requestCount
deriving DecidableEq, Repr

lemma noSubscriptions_pos : ∀ id ∈ (Table.empty : Table Int UserSubscription).keys, 0 < id := nofun

/-- The tables. The ids of subscriptions are generated and positive. A generated id is not used
again after its row is deleted, so the last one is kept. -/
structure DB where
  users : Table Int User := .empty
  tokens : Table Int Token := .empty
  subscriptions : Table Int UserSubscription := .empty
  plans : Table Int SubscriptionPlan := .empty
  preConsumeRecords : Table String SubscriptionPreConsumeRecord := .empty
  subscriptionOrders : Table String SubscriptionOrder := .empty
  topUps : Table String TopUp := .empty
  tasks : Table Int Task := .empty
  midjourneys : Table Int Midjourney := .empty
  lastSubscriptionId : Int := 0
  logs : List Log := []
  batchUpdateStores : BatchType → Int → Int := fun _ _ => 0
  movements : List TaskMovement := []
  subscriptions_pos : ∀ id ∈ subscriptions.keys, 0 < id := by
    first | exact noSubscriptions_pos | decide

structure TaskUpdates where
  status : TaskStatus
  progress : String
  failReason : Option String := none
deriving DecidableEq, Repr

structure MidjourneyUpdates where
  status : String
  progress : String
  failReason : Option String := none
deriving DecidableEq, Repr

/-! ### Statements -/

inductive Stmt
  | selectQuota (id : Int)
  | selectUser (id : Int)
  | increaseUserQuota (id quota : Int) (memo : Option TaskMovement)
  | decreaseUserQuota (id quota : Int) (memo : Option TaskMovement)
  | saveUser (id : Int) (user : User)
  | selectUserGroup (id : Int)
  | updateUserGroup (id : Int) (group : String)
  | creditUser (id quota : Int) (stripeCustomer email : Option String)
  | updateUserUsedQuotaAndRequestCount (id quota count : Int)
  | addNewRecord (type : BatchType) (id value : Int) (memo : Option TaskMovement)
  | selectTokenByKey (key : String)
  | selectTokenById (id : Int)
  | increaseTokenQuota (id quota : Int) (memo : Option TaskMovement)
  | decreaseTokenQuota (id quota : Int) (memo : Option TaskMovement)
  | countActiveSubscriptions (userId : Int) (now : Time)
  | selectActiveSubscriptions (userId : Int) (now : Time)
  | selectSubscription (id : Int)
  | saveSubscription (id : Int) (sub : UserSubscription) (memo : Option TaskMovement)
  | countSubscriptionsByPlan (userId planId : Int)
  | createSubscription (sub : UserSubscription)
  | cancelSubscription (id : Int) (now : Time)
  | deleteSubscription (id : Int)
  | findActiveUpgrade (userId : Int) (now : Time) (exceptId : Option Int)
  | findLastExpired (userId : Int)
  | selectOverdueSubscriptions (now : Time) (limit : Nat)
  | expireSubscriptions (userId : Int) (now : Time)
  | selectDueSubscriptions (now : Time) (limit : Nat)
  | selectDueSubscription (id : Int) (now : Time)
  | selectPlan (id : Int)
  | selectSubscriptionOrder (tradeNo : String)
  | saveSubscriptionOrder (tradeNo : String) (order : SubscriptionOrder)
  | findRecord (requestId : String)
  | selectRecord (requestId : String)
  | createRecord (requestId : String) (record : SubscriptionPreConsumeRecord)
  | saveRecord (requestId : String) (record : SubscriptionPreConsumeRecord)
  | selectTopUp (tradeNo : String)
  | saveTopUp (tradeNo : String) (topUp : TopUp)
  | findTopUp (tradeNo : String)
  | createTopUp (tradeNo : String) (topUp : TopUp)
  | selectUnfinishedTasks (limit : Nat)
  | selectTimedOutTasks (cutoff : Time) (limit : Nat)
  | selectTask (userId : Int) (taskID : String)
  | updateTaskWithStatus (id : Int) (task : Task) (fromStatus : TaskStatus)
  | saveTask (id : Int) (task : Task)
  | bulkUpdateTasks (ids : List Int) (params : TaskUpdates)
  | createMidjourney (task : Midjourney)
  | selectMidjourney (userId : Int) (mjId : String)
  | selectMidjourneyByMjId (mjId : String)
  | selectUnfinishedMidjourneys
  | saveMidjourney (id : Int) (task : Midjourney)
  | updateMidjourneyWithStatus (id : Int) (task : Midjourney) (fromStatus : String)
  | bulkUpdateMidjourneys (cond : Int → Midjourney → Bool) (params : MidjourneyUpdates)
  | createLog (log : Log)
  | begin
  | commit

@[reducible] def Stmt.Res : Stmt → Type
  | .selectQuota _ => Int
  | .selectUser _ => User
  | .selectUserGroup _ => String
  | .decreaseUserQuota .. => Nat
  | .selectTokenByKey _ => Int × Token
  | .selectTokenById _ => Token
  | .countActiveSubscriptions .. => Nat
  | .selectActiveSubscriptions .. => List (Int × UserSubscription)
  | .selectSubscription _ => UserSubscription
  | .countSubscriptionsByPlan .. => Nat
  | .createSubscription _ => Int
  | .findActiveUpgrade .. => Option (Int × UserSubscription)
  | .findLastExpired _ => Option (Int × UserSubscription)
  | .selectOverdueSubscriptions .. => List (Int × UserSubscription)
  | .expireSubscriptions .. => Nat
  | .selectDueSubscriptions .. => List (Int × UserSubscription)
  | .selectDueSubscription .. => UserSubscription
  | .selectPlan _ => SubscriptionPlan
  | .selectSubscriptionOrder _ => SubscriptionOrder
  | .findRecord _ => Option SubscriptionPreConsumeRecord
  | .selectRecord _ => SubscriptionPreConsumeRecord
  | .selectTopUp _ => TopUp
  | .findTopUp _ => Option TopUp
  | .selectUnfinishedTasks _ => List (Int × Task)
  | .selectTimedOutTasks .. => List (Int × Task)
  | .selectTask .. => Option (Int × Task)
  | .updateTaskWithStatus .. => Nat
  | .createMidjourney _ => Int
  | .selectMidjourney .. => Option (Int × Midjourney)
  | .selectMidjourneyByMjId _ => Option (Int × Midjourney)
  | .selectUnfinishedMidjourneys => List (Int × Midjourney)
  | .updateMidjourneyWithStatus .. => Nat
  | _ => Unit

@[reducible] def Stmt.Resp (s : Stmt) : Type := Except String s.Res

def recordNotFound : String := "record not found"

def first {α : Type} : Option α → Except String α
  | some a => .ok a
  | none => .error recordNotFound

def TaskStatus.finished : TaskStatus → Bool
  | .failure => true
  | .success => true
  | _ => false

def DB.activeSubscriptions (db : DB) (userId : Int) (now : Time) : List (Int × UserSubscription) :=
  db.subscriptions.rows.filter fun r =>
    r.2.userId = userId && r.2.status = .active && r.2.endTime > now

/-- `Order("end_time asc, id asc")`. -/
def byEndTime (a b : Int × UserSubscription) : Bool :=
  a.2.endTime < b.2.endTime || (a.2.endTime = b.2.endTime && a.1 ≤ b.1)

/-- The rows of `upgrade_group <> ''` among those of a user. -/
def DB.upgradedSubscriptions (db : DB) (userId : Int) : List (Int × UserSubscription) :=
  db.subscriptions.rows.filter fun r => r.2.userId = userId && r.2.upgradeGroup ≠ ""

/-- `Order("end_time desc, id desc").Limit(1)`. -/
def latestEnding (rows : List (Int × UserSubscription)) : Option (Int × UserSubscription) :=
  (rows.insertionSort fun a b => byEndTime b a).head?

/-- `status = 'active' AND end_time <= now`. -/
def UserSubscription.overdue (now : Time) (sub : UserSubscription) : Bool :=
  sub.status = .active && sub.endTime ≤ now

/-- `next_reset_time IS NOT NULL AND next_reset_time <= now`. -/
def UserSubscription.dueForReset (now : Time) (sub : UserSubscription) : Bool :=
  sub.nextResetTime.any (· ≤ now)

/-- `UPDATE .. SET status = 'expired'` on the overdue subscriptions of a user. -/
def UserSubscription.expire (userId : Int) (now : Time) (sub : UserSubscription) : UserSubscription :=
  if sub.userId = userId ∧ sub.overdue now then { sub with status := .expired } else sub

def DB.unfinishedTasks (db : DB) : List (Int × Task) :=
  db.tasks.rows.filter fun r => r.2.progress ≠ "100%" && !r.2.status.finished

def DB.note (db : DB) (memo : Option TaskMovement) : DB :=
  { db with movements := db.movements ++ memo.toList }

def DB.addUserQuota (db : DB) (id n : Int) : DB :=
  { db with users := db.users.update id fun u => { u with quota := u.quota + n } }

/-- `remain_quota = remain_quota + n, used_quota = used_quota - n` on the row of a token. -/
def DB.addTokenQuota (db : DB) (id n : Int) : DB :=
  { db with tokens := db.tokens.update id fun t =>
      { t with remainQuota := t.remainQuota + n, usedQuota := t.usedQuota - n } }

def DB.addRecord (db : DB) (type : BatchType) (id value : Int) : DB :=
  { db with batchUpdateStores := fun t i =>
      if t = type ∧ i = id then db.batchUpdateStores t i + value else db.batchUpdateStores t i }

def DB.setSubscription (db : DB) (id : Int) (sub : UserSubscription) : DB :=
  { db with subscriptions := db.subscriptions.update id fun _ => sub }

def Task.bulkUpdate (params : TaskUpdates) (task : Task) : Task :=
  { task with
    status := params.status
    progress := params.progress
    failReason := params.failReason.getD task.failReason }

def Midjourney.bulkUpdate (params : MidjourneyUpdates) (task : Midjourney) : Midjourney :=
  { task with
    status := params.status
    progress := params.progress
    failReason := params.failReason.getD task.failReason }

def Midjourney.updateWhere (cond : Int → Midjourney → Bool) (params : MidjourneyUpdates) (id : Int)
    (task : Midjourney) : Midjourney :=
  if cond id task then task.bulkUpdate params else task

def DB.newSubscriptionId (db : DB) : Int := max db.lastSubscriptionId db.subscriptions.lastId + 1

lemma DB.newSubscriptionId_pos {db : DB} : 0 < db.newSubscriptionId := by
  have := db.subscriptions.lastId_nonneg
  unfold newSubscriptionId
  omega

lemma DB.row_newSubscriptionId (db : DB) : db.subscriptions.row db.newSubscriptionId = none := by
  by_contra h
  have hmem : db.newSubscriptionId ∈ db.subscriptions.keys :=
    (db.subscriptions.mem_keys _).mpr (Option.isSome_iff_ne_none.mpr h)
  have := Table.le_lastId hmem
  unfold newSubscriptionId at this
  omega

def DB.createSubscription (db : DB) (sub : UserSubscription) : DB :=
  { db with
    subscriptions := db.subscriptions.insert db.newSubscriptionId sub
    lastSubscriptionId := db.newSubscriptionId
    subscriptions_pos := by
      intro id hid
      rw [Table.mem_keys, Table.row_insert _ db.row_newSubscriptionId] at hid
      split at hid
      · next h => exact h ▸ db.newSubscriptionId_pos
      · exact db.subscriptions_pos id ((db.subscriptions.mem_keys id).mpr hid) }

def DB.deleteSubscription (db : DB) (id : Int) : DB :=
  { db with
    subscriptions := db.subscriptions.erase id
    lastSubscriptionId := max db.lastSubscriptionId id
    subscriptions_pos := fun j hj => db.subscriptions_pos j (List.mem_of_mem_filter hj) }

def Stmt.step : (s : Stmt) → DB → s.Resp × DB
  | .selectQuota id, db => (.ok ((db.users.row id).elim 0 User.quota), db)
  | .selectUser id, db => (first (db.users.row id), db)
  | .increaseUserQuota id quota memo, db =>
    (.ok (), (db.addUserQuota id quota).note memo)
  | .decreaseUserQuota id quota memo, db =>
    if (db.users.row id).any (fun u => u.quota ≥ quota) then
      (.ok 1, (db.addUserQuota id (-quota)).note memo)
    else (.ok 0, db)
  | .saveUser id user, db => (.ok (), { db with users := db.users.update id fun _ => user })
  | .selectUserGroup id, db => (.ok ((db.users.row id).elim "" User.group), db)
  | .updateUserGroup id group, db =>
    (.ok (), { db with users := db.users.update id fun u => { u with group := group } })
  | .creditUser id quota stripeCustomer email, db =>
    (.ok (), { db with users := db.users.update id fun u =>
      { u with
        quota := u.quota + quota
        stripeCustomer := stripeCustomer.getD u.stripeCustomer
        email := email.getD u.email } })
  | .updateUserUsedQuotaAndRequestCount id quota count, db =>
    (.ok (), { db with users := db.users.update id fun u =>
      { u with usedQuota := u.usedQuota + quota, requestCount := u.requestCount + count } })
  | .addNewRecord type id value memo, db =>
    (.ok (), (db.addRecord type id value).note memo)
  | .selectTokenByKey key, db => (first (db.tokens.rows.find? fun r => r.2.key = key), db)
  | .selectTokenById id, db => (first (db.tokens.row id), db)
  | .increaseTokenQuota id quota memo, db =>
    (.ok (), (db.addTokenQuota id quota).note memo)
  | .decreaseTokenQuota id quota memo, db =>
    (.ok (), (db.addTokenQuota id (-quota)).note memo)
  | .countActiveSubscriptions userId now, db => (.ok (db.activeSubscriptions userId now).length, db)
  | .selectActiveSubscriptions userId now, db =>
    (.ok ((db.activeSubscriptions userId now).insertionSort fun a b => byEndTime a b), db)
  | .selectSubscription id, db => (first (db.subscriptions.row id), db)
  | .saveSubscription id sub memo, db =>
    (.ok (), (db.setSubscription id sub).note memo)
  | .countSubscriptionsByPlan userId planId, db =>
    (.ok (db.subscriptions.rows.countP fun r => r.2.userId = userId && r.2.planId = planId), db)
  | .createSubscription sub, db => (.ok db.newSubscriptionId, db.createSubscription sub)
  | .cancelSubscription id now, db =>
    (.ok (), { db with subscriptions := db.subscriptions.update id fun sub =>
      { sub with status := .cancelled, endTime := now } })
  | .deleteSubscription id, db => (.ok (), db.deleteSubscription id)
  | .findActiveUpgrade userId now exceptId, db =>
    (.ok (latestEnding ((db.upgradedSubscriptions userId).filter fun r =>
      r.2.status = .active && r.2.endTime > now && some r.1 ≠ exceptId)), db)
  | .findLastExpired userId, db =>
    (.ok (latestEnding ((db.upgradedSubscriptions userId).filter fun r => r.2.status = .expired)), db)
  | .selectOverdueSubscriptions now limit, db =>
    (.ok (((db.subscriptions.rows.filter fun r => r.2.overdue now).insertionSort
      fun a b => byEndTime a b).take limit), db)
  | .expireSubscriptions userId now, db =>
    (.ok (db.subscriptions.rows.countP fun r => r.2.userId = userId && r.2.overdue now),
      { db with subscriptions := db.subscriptions.modify fun _ => UserSubscription.expire userId now })
  | .selectDueSubscriptions now limit, db =>
    (.ok (((db.subscriptions.rows.filter fun r => r.2.dueForReset now && r.2.status = .active).insertionSort
      fun a b => a.2.nextResetTime.getD zeroTime ≤ b.2.nextResetTime.getD zeroTime).take limit), db)
  | .selectDueSubscription id now, db =>
    (first ((db.subscriptions.row id).filter fun sub => sub.dueForReset now), db)
  | .selectPlan id, db => (first (db.plans.row id), db)
  | .selectSubscriptionOrder tradeNo, db => (first (db.subscriptionOrders.row tradeNo), db)
  | .saveSubscriptionOrder tradeNo order, db =>
    (.ok (), { db with subscriptionOrders := db.subscriptionOrders.update tradeNo fun _ => order })
  | .findRecord requestId, db => (.ok (db.preConsumeRecords.row requestId), db)
  | .selectRecord requestId, db => (first (db.preConsumeRecords.row requestId), db)
  | .createRecord requestId record, db =>
    match db.preConsumeRecords.row requestId with
    | some _ => (.error "duplicated key not allowed", db)
    | none => (.ok (), { db with preConsumeRecords := db.preConsumeRecords.insert requestId record })
  | .saveRecord requestId record, db =>
    (.ok (), { db with preConsumeRecords := db.preConsumeRecords.update requestId fun _ => record })
  | .selectTopUp tradeNo, db => (first (db.topUps.row tradeNo), db)
  | .saveTopUp tradeNo topUp, db => (.ok (), { db with topUps := db.topUps.update tradeNo fun _ => topUp })
  | .findTopUp tradeNo, db => (.ok (db.topUps.row tradeNo), db)
  | .createTopUp tradeNo topUp, db =>
    match db.topUps.row tradeNo with
    | some _ => (.error "duplicated key not allowed", db)
    | none => (.ok (), { db with topUps := db.topUps.insert tradeNo topUp })
  | .selectUnfinishedTasks limit, db => (.ok (db.unfinishedTasks.take limit), db)
  | .selectTimedOutTasks cutoff limit, db =>
    (.ok (((db.unfinishedTasks.filter fun r => r.2.submitTime < cutoff).insertionSort
      fun a b => a.2.submitTime ≤ b.2.submitTime).take limit), db)
  | .selectTask userId taskID, db =>
    (.ok (db.tasks.rows.find? fun r => r.2.userId = userId && r.2.taskID = taskID), db)
  | .updateTaskWithStatus id task fromStatus, db =>
    if (db.tasks.row id).any (fun t => t.status = fromStatus) then
      (.ok 1, { db with tasks := db.tasks.update id fun _ => task })
    else (.ok 0, db)
  | .saveTask id task, db => (.ok (), { db with tasks := db.tasks.update id fun _ => task })
  | .bulkUpdateTasks ids params, db =>
    (.ok (), { db with tasks := ids.foldl (fun t id => t.update id (Task.bulkUpdate params)) db.tasks })
  | .createMidjourney task, db =>
    (.ok (db.midjourneys.lastId + 1),
      { db with midjourneys := db.midjourneys.insert (db.midjourneys.lastId + 1) task })
  | .selectMidjourney userId mjId, db =>
    (.ok (db.midjourneys.rows.find? fun r => r.2.userId = userId && r.2.mjId = mjId), db)
  | .selectMidjourneyByMjId mjId, db =>
    (.ok (db.midjourneys.rows.find? fun r => r.2.mjId = mjId), db)
  | .saveMidjourney id task, db =>
    (.ok (), { db with midjourneys := db.midjourneys.update id fun _ => task })
  | .selectUnfinishedMidjourneys, db =>
    (.ok (db.midjourneys.rows.filter fun r => r.2.progress ≠ "100%"), db)
  | .updateMidjourneyWithStatus id task fromStatus, db =>
    if (db.midjourneys.row id).any (fun t => t.status = fromStatus) then
      (.ok 1, { db with midjourneys := db.midjourneys.update id fun _ => task })
    else (.ok 0, db)
  | .bulkUpdateMidjourneys cond params, db =>
    (.ok (), { db with midjourneys := db.midjourneys.modify (Midjourney.updateWhere cond params) })
  | .createLog log, db => (.ok (), { db with logs := db.logs ++ [log] })
  | .begin, db => (.ok (), db)
  | .commit, db => (.ok (), db)

def Stmt.inMemory : Stmt → Bool
  | .addNewRecord .. => true
  | _ => false

/-- The database: one statement at a time, which may fail with the driver's message. -/
def database : Machine Stmt Stmt.Resp (Option String) DB where
  exec φ s db :=
    match φ with
    | none => s.step db
    | some e => if s.inMemory then s.step db else (.error e, db)

/-! ### Transactions -/

abbrev Query := ExceptT String (Prog Stmt Stmt.Resp)

/-- What a server process asks of the database: a statement, or a transaction that commits
what `body` does unless `body` fails. -/
inductive Req : Type 1
  | stmt (s : Stmt)
  | tx {β : Type} (body : Query β)

@[reducible] def Req.Resp : Req → Type
  | .stmt s => s.Resp
  | .tx (β := β) _ => Except String β

abbrev Action := ExceptT String (Prog Req Req.Resp)

def query (s : Stmt) : Query s.Res := Prog.request s

def Query.committed {β : Type} (body : Query β) : Query β := do
  let b ← body
  query .commit
  return b

/-- The database as the server sees it. An outcome lists the outcomes of the statements of
one request; a transaction that fails is rolled back. -/
def server : Machine Req Req.Resp (List (Option String)) DB where
  exec φs req db :=
    match req with
    | .stmt s => database.exec (φs.headD none) s db
    | .tx body =>
      match body.committed.run.eval database none φs db with
      | (.ok b, db') => (.ok b, db')
      | (.error e, _) => (.error e, db)

def exec (s : Stmt) : Action s.Res := Prog.request (S := Req) (.stmt s)

/-- `DB.Transaction(body)`. -/
def transaction {β : Type} (body : Query β) : Action β :=
  Prog.request (S := Req) (.tx (do query .begin; body))

end LoveApi
