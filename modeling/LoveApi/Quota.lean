import LoveApi.Database
import LoveApi.Program.Transition

/-!
# User and token quota

The functions that change `users.quota` and the quota of a token. Log lines and the writes of the Redis cache are left
out, those of the cached quota of a user apart; what a call reads from Redis comes with its `Env`.
-/

namespace LoveApi

open Program Prog Go

structure Config where
  batchUpdateEnabled : Bool := false
  redisEnabled : Bool := false
  logConsumeEnabled : Bool := true
  quotaPerUnit : ℚ := 500000
  quotaForInviter : Int := 0
  formatQuota : Int → String := toString
  logQuota : Int → String := toString
  utcOffset : Int := 0

/-- What one call sees besides the database: the clock, the cached rows it finds, and the
token quota that the authentication step stored in the request context. -/
structure Env where
  now : Time := 0
  cachedToken : Option Token := none
  cachedPlan : Int → Option SubscriptionPlan := fun _ => none
  cachedPlanInfo : Int → Option (Int × String) := fun _ => none
  tokenQuota : Int := 0

def negativeQuota : String := "quota 不能为负数！"

section User

variable (cfg : Config)

def syncUserQuotaCacheFromDB (id : Int) : Action Unit :=
  if cfg.redisEnabled then do
    let _ ← attempt (exec (.selectQuota id))
  else pure ()

def increaseUserQuota (id quota : Int) (db : Bool) (memo : Option TaskMovement := none) :
    Action Unit :=
  if quota < 0 then throw negativeQuota
  else if !db && cfg.batchUpdateEnabled then exec (.addNewRecord .userQuota id quota memo)
  else do
    exec (.increaseUserQuota id quota memo)
    if db then syncUserQuotaCacheFromDB cfg id else pure ()

namespace Sql

/-- The guarded `UPDATE users SET quota = quota - ? WHERE id = ? AND quota >= ?`. -/
def decreaseUserQuota (id quota : Int) (memo : Option TaskMovement) : Action Unit := do
  let rowsAffected ← exec (.decreaseUserQuota id quota memo)
  if rowsAffected = 0 then throw "用户额度不足" else pure ()

end Sql

def decreaseUserQuota (id quota : Int) (db : Bool) (memo : Option TaskMovement := none) :
    Action Unit :=
  if quota < 0 then throw negativeQuota
  else if !db && cfg.batchUpdateEnabled then exec (.addNewRecord .userQuota id (-quota) memo)
  else do
    Sql.decreaseUserQuota id quota memo
    if db then syncUserQuotaCacheFromDB cfg id else pure ()

/-- `GetUserQuota(id, true)`. -/
def getUserQuota (id : Int) : Action Int := exec (.selectQuota id)

def getUserById (id : Int) : Action User :=
  if id = 0 then throw "id 为空！" else exec (.selectUser id)

def inviteUser (inviterId : Int) : Action Unit := do
  let user ← getUserById inviterId
  exec (.saveUser inviterId { user with
    affCount := user.affCount + 1
    affQuota := user.affQuota + cfg.quotaForInviter
    affHistoryQuota := user.affHistoryQuota + cfg.quotaForInviter })

/-- The read takes no lock. The save and the commit are one step, because the row stays
locked between them. -/
def transferAffQuotaToQuota (id quota : Int) : Action Unit :=
  if (quota : ℚ) < cfg.quotaPerUnit then
    throw ("转移额度最小为" ++ cfg.logQuota (Go.int cfg.quotaPerUnit) ++ "！")
  else do
    exec .begin
    let user ← exec (.selectUser id)
    if user.affQuota < quota then throw "邀请额度不足！"
    else
      exec (.saveUser id { user with
        affQuota := user.affQuota - quota
        quota := user.quota + quota })

def updateUserUsedQuotaAndRequestCount (id quota : Int) : Action Unit :=
  if cfg.batchUpdateEnabled then do
    exec (.addNewRecord .usedQuota id quota none)
    exec (.addNewRecord .requestCount id 1 none)
  else do
    let _ ← attempt (exec (.updateUserUsedQuotaAndRequestCount id quota 1))

end User

section Token

variable (cfg : Config)

/-- `GetTokenByKey(key, false)`: Redis first, then the table. -/
def getTokenByKey (env : Env) (key : String) : Action Token :=
  match cfg.redisEnabled, env.cachedToken with
  | true, some token => pure token
  | _, _ => do
    let row ← exec (.selectTokenByKey key)
    return row.2

def getTokenById (id : Int) : Action Token :=
  if id = 0 then throw "id 为空！" else exec (.selectTokenById id)

def increaseTokenQuota (tokenId quota : Int) (memo : Option TaskMovement := none) : Action Unit :=
  if quota < 0 then throw negativeQuota
  else if cfg.batchUpdateEnabled then exec (.addNewRecord .tokenQuota tokenId quota memo)
  else exec (.increaseTokenQuota tokenId quota memo)

def decreaseTokenQuota (tokenId quota : Int) (memo : Option TaskMovement := none) : Action Unit :=
  if quota < 0 then throw negativeQuota
  else if cfg.batchUpdateEnabled then exec (.addNewRecord .tokenQuota tokenId (-quota) memo)
  else exec (.decreaseTokenQuota tokenId quota memo)

end Token

/-- The database, and the quota of the user in Redis as long as the user is cached there. -/
structure QuotaStore where
  db : DB
  cached : Option Int

/-- What a call of `IncreaseUserQuota` or `DecreaseUserQuota` with `db` still has to do. -/
inductive QuotaSync
  | increase (quota : Int)
  | decrease (quota : Int)
  | readBack
  | ttl (quota : Int)
  | hset (quota : Int)
  | finished
deriving DecidableEq

def QuotaSync.next (id : Int) : QuotaSync → QuotaStore → Option (QuotaSync × QuotaStore)
  | increase quota, s =>
    if quota < 0 then some (finished, s)
    else some (readBack, { s with db := (Stmt.step (.increaseUserQuota id quota none) s.db).2 })
  | decrease quota, s =>
    if quota < 0 then some (finished, s)
    else
      match Stmt.step (.decreaseUserQuota id quota none) s.db with
      | (.ok (_ + 1), db) => some (readBack, { s with db })
      | (_, db) => some (finished, { s with db })
  | readBack, s =>
    match (Stmt.step (.selectQuota id) s.db).1 with
    | .ok quota => some (ttl quota, s)
    | .error _ => some (finished, s)
  | ttl quota, s => some (if s.cached.isSome then hset quota else finished, s)
  | hset quota, s => some (finished, { s with cached := some quota })
  | finished, _ => none

def quotaSystem (id : Int) : System Nat (QuotaStore × List QuotaSync) := interleave (QuotaSync.next id)

end LoveApi
