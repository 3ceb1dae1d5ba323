import LoveApi.Database
import LoveApi.Program.Transition

/-!
# The batch updater

`addNewRecord` collects changes of counters in memory, and `batchUpdate` takes out one map after the other and executes
an update for each key of it, in any order.
-/

namespace LoveApi

open Program

structure BatchRecord where
  type : BatchType
  id : Int
  value : Int
deriving DecidableEq, Repr

def BatchType.all : List BatchType := [.userQuota, .tokenQuota, .usedQuota, .channelUsedQuota, .requestCount]

/-- What a run of `batchUpdate` does next: it looks for data or takes out the maps, with the types that are left, or it
ranges over a map that it has taken out, with the keys that are left. -/
inductive BatchPc
  | idle
  | scanning (types : List BatchType)
  | swapping (types : List BatchType)
  | applying (type : BatchType) (store : Table Int Int) (types : List BatchType)

/-- The maps and the tables. The updates that have been executed are kept in order. -/
structure BatchState where
  batchUpdateStores : BatchType → Table Int Int := fun _ => .empty
  pc : BatchPc := .idle
  db : DB := {}
  channelUsedQuota : Table Int Int := .empty
  updates : List BatchRecord := []

namespace BatchState

def addNewRecord (s : BatchState) (record : BatchRecord) : BatchState :=
  let store := s.batchUpdateStores record.type
  let store := match store.row record.id with
    | none => store.insert record.id record.value
    | some _ => store.update record.id (· + record.value)
  { s with batchUpdateStores := Function.update s.batchUpdateStores record.type store }

def update (s : BatchState) (record : BatchRecord) : BatchState :=
  let s := { s with updates := s.updates ++ [record] }
  match record.type with
  | .userQuota => { s with db := s.db.addUserQuota record.id record.value }
  | .tokenQuota => { s with db := s.db.addTokenQuota record.id record.value }
  | .usedQuota => { s with db := { s.db with
      users := s.db.users.update record.id fun u => { u with usedQuota := u.usedQuota + record.value } } }
  | .requestCount => { s with db := { s.db with
      users := s.db.users.update record.id fun u => { u with requestCount := u.requestCount + record.value } } }
  | .channelUsedQuota => { s with channelUsedQuota := s.channelUsedQuota.update record.id (· + record.value) }

def next (s : BatchState) : Option BatchState :=
  match s.pc with
  | .idle => none
  | .scanning [] => some { s with pc := .idle }
  | .scanning (type :: types) =>
    if (s.batchUpdateStores type).keys = [] then some { s with pc := .scanning types }
    else some { s with pc := .swapping BatchType.all }
  | .swapping [] => some { s with pc := .idle }
  | .swapping (type :: types) => some { s with
      batchUpdateStores := Function.update s.batchUpdateStores type .empty
      pc := .applying type (s.batchUpdateStores type) types }
  | .applying _ store types => if store.keys = [] then some { s with pc := .swapping types } else none

def apply (s : BatchState) (key : Int) : Option BatchState :=
  match s.pc with
  | .applying type store types =>
    (store.row key).map fun value => { s with pc := .applying type (store.erase key) types }.update ⟨type, key, value⟩
  | _ => none

end BatchState

/-- A call of `addNewRecord`, the begin of a run of `batchUpdate` after the last one has ended, or a step of the run. -/
inductive BatchAction
  | addNewRecord (record : BatchRecord)
  | batchUpdate
  | next
  | apply (key : Int)
deriving DecidableEq, Repr

def batchSystem : System BatchAction BatchState where
  step
  | .addNewRecord record, s => some (s.addNewRecord record)
  | .batchUpdate, s =>
    match s.pc with
    | .idle => some { s with pc := .scanning BatchType.all }
    | _ => none
  | .next, s => s.next
  | .apply key, s => s.apply key

/-! ### Amounts -/

section

variable (type : BatchType) (id : Int)

def BatchRecord.amount (record : BatchRecord) : Int :=
  if record.type = type ∧ record.id = id then record.value else 0

def storeAmount (store : Table Int Int) : Int := (store.row id).getD 0

def BatchPc.inFlight : BatchPc → Int
  | applying type' store _ => if type' = type then storeAmount id store else 0
  | _ => 0

namespace BatchState

variable (s : BatchState)

def applied : Int := (s.updates.map (BatchRecord.amount type id)).sum

def stored : Int := storeAmount id (s.batchUpdateStores type)

def column : Option Int :=
  match type with
  | .userQuota => (s.db.users.row id).map User.quota
  | .tokenQuota => (s.db.tokens.row id).map Token.remainQuota
  | .usedQuota => (s.db.users.row id).map User.usedQuota
  | .requestCount => (s.db.users.row id).map User.requestCount
  | .channelUsedQuota => s.channelUsedQuota.row id

end BatchState

def BatchAction.amount : BatchAction → Int
  | .addNewRecord record => record.amount type id
  | _ => 0

def addedAmount (sched : List BatchAction) : Int := (sched.map (BatchAction.amount type id)).sum

end

def BatchState.toDB (s : BatchState) : DB := { s.db with batchUpdateStores := fun type id => s.stored type id }

end LoveApi
