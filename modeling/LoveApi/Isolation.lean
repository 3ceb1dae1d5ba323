import LoveApi.Database
import LoveApi.Program.Sessions

/-!
# Read-committed isolation

The lookups of the transactions carry the clause `FOR UPDATE` through an option that the ORM ignores, so they lock
nothing.
-/

namespace LoveApi

open Program

/-- A row that transactions compete for, or the whole table of subscriptions. -/
inductive Row
  | user (id : Int)
  | subscription (id : Int)
  | subscriptions
  | record (requestId : String)
  | topUp (tradeNo : String)
deriving DecidableEq, Repr

def Row.overlaps : Row → Row → Bool
  | .subscriptions, .subscription _ => true
  | .subscription _, .subscriptions => true
  | r, r' => r = r'

/-- The row that a statement writes. An `INSERT` locks its key in the unique index. -/
def Stmt.lock : Stmt → Option Row
  | .increaseUserQuota id _ _ => some (.user id)
  | .decreaseUserQuota id _ _ => some (.user id)
  | .saveUser id _ => some (.user id)
  | .updateUserGroup id _ => some (.user id)
  | .creditUser id _ _ _ => some (.user id)
  | .updateUserUsedQuotaAndRequestCount id _ _ => some (.user id)
  | .saveSubscription id _ _ => some (.subscription id)
  | .createSubscription _ => some .subscriptions
  | .cancelSubscription id _ => some (.subscription id)
  | .deleteSubscription id => some (.subscription id)
  | .expireSubscriptions _ _ => some .subscriptions
  | .createRecord requestId _ => some (.record requestId)
  | .saveRecord requestId _ => some (.record requestId)
  | .saveTopUp tradeNo _ => some (.topUp tradeNo)
  | .createTopUp tradeNo _ => some (.topUp tradeNo)
  | _ => none

def sessions : Machine (SessionReq Stmt) (SessionReq.Resp Stmt.Res String) (Option String)
    (Sessions Stmt DB) :=
  readCommitted database

/-- A program of the server, run by process `i`. A statement outside a transaction is a transaction of
its own. -/
def isolated {α : Type} (i : Nat) :
    Prog Req Req.Resp α → Prog (SessionReq Stmt) (SessionReq.Resp Stmt.Res String) α
  | .ret a => .ret a
  | .call (.stmt s) k => inTransaction i (query s) >>= fun r => isolated i (k r)
  | .call (.tx body) k => inTransaction i body >>= fun r => isolated i (k r)

def processes {α : Type} (ps : List (Prog Req Req.Resp α)) (db : DB) :
    Pool (SessionReq Stmt) (SessionReq.Resp Stmt.Res String) (Sessions Stmt DB) α :=
  (ps.mapIdx isolated, { committed := db })

end LoveApi
