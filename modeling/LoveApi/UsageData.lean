import LoveApi.Go
import LoveApi.Program.Table
import LoveApi.Program.Transition

/-!
# The usage statistics

`LogQuotaData` counts the requests of an hour in a map of its process, and `SaveQuotaDataCache` adds the entries of the
map to the table `quota_data`, which all processes share.
-/

namespace LoveApi

open Program Go

structure QuotaKey where
  userId : Int
  username : String
  modelName : String
  createdAt : Time
deriving DecidableEq, Repr

def QuotaKey.text (key : QuotaKey) : String :=
  toString key.userId ++ "-" ++ key.username ++ "-" ++ key.modelName ++ "-" ++ toString key.createdAt

/-- `Truncate(time.Hour)`. -/
def QuotaKey.truncate (key : QuotaKey) : QuotaKey := { key with createdAt := key.createdAt - key.createdAt % 3600 }

structure QuotaData extends QuotaKey where
  count : Int := 1
  quota : Int
  tokenUsed : Int
deriving DecidableEq, Repr

def QuotaData.increase (row : QuotaData) (count quota tokenUsed : Int) : QuotaData :=
  { row with count := row.count + count, quota := row.quota + quota, tokenUsed := row.tokenUsed + tokenUsed }

def logQuotaDataCache (cache : Table String QuotaData) (key : QuotaKey) (quota tokenUsed : Int) :
    Table String QuotaData :=
  match cache.row key.text with
  | some _ => cache.update key.text fun quotaData => quotaData.increase 1 quota tokenUsed
  | none => cache.insert key.text { key with quota := quota, tokenUsed := tokenUsed }

/-- What a process is doing: nothing, or a save that ranges over the entries `left`, after it has looked for a row of
`quotaData` or before it looks for the next one. -/
inductive SavePc
  | idle
  | ranging (left : Table String QuotaData)
  | writing (quotaData : QuotaData) (found : Bool) (left : Table String QuotaData)

structure UsageProcess where
  cacheQuotaData : Table String QuotaData := .empty
  pc : SavePc := .idle

structure QuotaDataUpdate where
  quotaData : QuotaData
  rowsAffected : Nat
deriving DecidableEq, Repr

/-- The table `quota_data`, what was logged, and the increments. -/
structure UsageDB where
  quotaData : List QuotaData := []
  logged : List QuotaData := []
  updates : List QuotaDataUpdate := []

namespace UsageDB

variable (db : UsageDB)

def rowsOf (key : QuotaKey) : List QuotaData := db.quotaData.filter fun row => row.toQuotaKey = key

def increaseQuotaData (quotaData : QuotaData) : UsageDB :=
  { db with
    quotaData := db.quotaData.map fun row =>
      if row.toQuotaKey = quotaData.toQuotaKey then
        row.increase quotaData.count quotaData.quota quotaData.tokenUsed
      else row
    updates := db.updates ++ [⟨quotaData, (db.rowsOf quotaData.toQuotaKey).length⟩] }

def create (quotaData : QuotaData) : UsageDB := { db with quotaData := db.quotaData ++ [quotaData] }

end UsageDB

/-- The steps of a process. `find` looks for a row of an entry that is left. -/
inductive UsageAction
  | logQuotaData (key : QuotaKey) (quota tokenUsed : Int)
  | saveQuotaDataCache
  | find (text : String)
  | write
  | finish
deriving DecidableEq, Repr

def usageStep : UsageAction → UsageProcess → UsageDB → Option (UsageProcess × UsageDB)
  | .logQuotaData key quota tokenUsed, ⟨cacheQuotaData, .idle⟩, db =>
    let key := key.truncate
    some (⟨logQuotaDataCache cacheQuotaData key quota tokenUsed, .idle⟩,
      { db with logged := db.logged ++ [{ key with quota := quota, tokenUsed := tokenUsed }] })
  | .saveQuotaDataCache, ⟨cacheQuotaData, .idle⟩, db => some (⟨cacheQuotaData, .ranging cacheQuotaData⟩, db)
  | .find text, ⟨cacheQuotaData, .ranging left⟩, db =>
    (left.row text).map fun quotaData =>
      (⟨cacheQuotaData, .writing quotaData (db.rowsOf quotaData.toQuotaKey ≠ []) (left.erase text)⟩, db)
  | .write, ⟨cacheQuotaData, .writing quotaData found left⟩, db =>
    some (⟨cacheQuotaData, .ranging left⟩, if found then db.increaseQuotaData quotaData else db.create quotaData)
  | .finish, ⟨_, .ranging left⟩, db => if left.keys = [] then some (⟨.empty, .idle⟩, db) else none
  | _, _, _ => none

def usageSystem : System (Nat × UsageAction) (UsageDB × List UsageProcess) := components usageStep

def usageStart (rows : List QuotaData) (processes : Nat) : UsageDB × List UsageProcess :=
  ({ quotaData := rows }, List.replicate processes {})

end LoveApi
