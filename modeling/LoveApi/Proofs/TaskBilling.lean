import LoveApi.TaskBilling
import LoveApi.Proofs.SessionLedger

/-!
# The requests of the task billing

Whatever the refund or the settlement of a task finds, it issues requests of a few kinds only, and none of them writes
the `tasks` table.
-/

namespace LoveApi.Proofs

open Program Prog

variable {P : TaskMovement → Prop}

/-- The requests of the billing of a task. The movements that they are annotated with satisfy
`P`. -/
inductive BillingRequest (P : TaskMovement → Prop) : Req → Prop
  | read {s : Stmt} (hs : ∀ x, (s.step x).2 = x) : BillingRequest P (.stmt s)
  | increaseUserQuota {id n : Int} {m : TaskMovement} (hn : 0 ≤ n) (hm : P m) (hl : m.ledger = .funding) :
    BillingRequest P (.stmt (.increaseUserQuota id n (some m)))
  | decreaseUserQuota {id n : Int} {m : TaskMovement} (hm : P m) (hl : m.ledger = .funding) :
    BillingRequest P (.stmt (.decreaseUserQuota id n (some m)))
  | postConsume {id n : Int} {m : TaskMovement} (hm : P m) (hl : m.ledger = .funding) :
    BillingRequest P (.tx (do query .begin; postConsumeTx id n (some m)))
  | increaseTokenQuota {id n : Int} {m : TaskMovement} (hm : P m) :
    BillingRequest P (.stmt (.increaseTokenQuota id n (some m)))
  | decreaseTokenQuota {id n : Int} {m : TaskMovement} (hm : P m) :
    BillingRequest P (.stmt (.decreaseTokenQuota id n (some m)))
  | addTokenRecord {id n : Int} {m : TaskMovement} (hm : P m) :
    BillingRequest P (.stmt (.addNewRecord .tokenQuota id n (some m)))
  | addUsedQuota {id n : Int} : BillingRequest P (.stmt (.addNewRecord .usedQuota id n none))
  | addRequestCount {id n : Int} : BillingRequest P (.stmt (.addNewRecord .requestCount id n none))
  | updateUsedQuota {id n count : Int} :
    BillingRequest P (.stmt (.updateUserUsedQuotaAndRequestCount id n count))
  | createLog {log : Log} : BillingRequest P (.stmt (.createLog log))

section Calls

variable {cfg : Config} {id : Int} {task : Task} {action : TaskBillingAction} {delta : Int}
variable {actualQuota totalTokens : Int} {settings : TaskSettings}

attribute [local grind ←] BillingRequest.increaseUserQuota BillingRequest.decreaseUserQuota
  BillingRequest.increaseTokenQuota BillingRequest.decreaseTokenQuota BillingRequest.addTokenRecord
  BillingRequest.addUsedQuota BillingRequest.addRequestCount BillingRequest.updateUsedQuota BillingRequest.createLog

@[local grind ←]
lemma bills_selectQuota : BillingRequest P (.stmt (.selectQuota id)) := .read fun _ => rfl

lemma bills_taskAdjustFunding (hm : P ⟨id, action, .funding, delta⟩) :
    (taskAdjustFunding cfg id task action delta).run.Issues (BillingRequest P) := by
  have hpost := issues_transaction (@BillingRequest.postConsume P task.privateData.subscriptionId delta _ hm rfl)
  unfold taskAdjustFunding postConsumeUserSubscriptionDelta
  grind

lemma bills_taskAdjustTokenQuota (hm : P ⟨id, action, .token, delta⟩) :
    (taskAdjustTokenQuota cfg id task action delta).run.Issues (BillingRequest P) := by
  have hkey : ∀ id, (resolveTokenKey id).run.Issues (BillingRequest P) := by
    intro id
    have hread : BillingRequest P (.stmt (.selectTokenById id)) := .read fun _ => rfl
    unfold resolveTokenKey getTokenById
    grind
  unfold taskAdjustTokenQuota
  grind

@[local grind ←]
lemma bills_recordTaskBillingLog {log : Log} : (recordTaskBillingLog cfg log).run.Issues (BillingRequest P) := by
  unfold recordTaskBillingLog
  grind

lemma bills_refundTaskQuota (hm : ∀ ledger, P ⟨id, .refund, ledger, -task.quota⟩) :
    (refundTaskQuota cfg id task).run.Issues (BillingRequest P) := by
  unfold refundTaskQuota
  grind [bills_taskAdjustFunding (hm _), bills_taskAdjustTokenQuota (hm _)]

lemma neverFails_refundTaskQuota : NeverFails (refundTaskQuota cfg id task) := by
  have htoken : NeverFails (taskAdjustTokenQuota cfg id task .refund (-task.quota)) := by
    unfold taskAdjustTokenQuota resolveTokenKey
    grind
  unfold refundTaskQuota recordTaskBillingLog
  grind

lemma bills_recordRecalculation : (recordRecalculation cfg task delta).run.Issues (BillingRequest P) := by
  unfold recordRecalculation
  grind

lemma bills_recalculateTaskQuota (hm : ∀ ledger amount, P ⟨id, .settle, ledger, amount⟩) :
    (recalculateTaskQuota cfg id task actualQuota).run.Issues (BillingRequest P) := by
  unfold recalculateTaskQuota
  grind [bills_taskAdjustFunding (hm _ _), bills_taskAdjustTokenQuota (hm _ _), bills_recordRecalculation]

lemma bills_taskGroup : (taskGroup task).run.Issues (BillingRequest P) := by
  have hread : BillingRequest P (.stmt (.selectUser task.userId)) := .read fun _ => rfl
  unfold taskGroup getUserById
  grind

lemma bills_recalculateTaskQuotaByTokens (hm : ∀ ledger amount, P ⟨id, .settle, ledger, amount⟩) :
    (recalculateTaskQuotaByTokens cfg settings id task totalTokens).run.Issues (BillingRequest P) := by
  unfold recalculateTaskQuotaByTokens
  grind [bills_taskGroup, bills_recalculateTaskQuota hm]

/-! A settlement keeps the new quota in memory, and changes nothing else of the copy. -/

def SameUpToQuota (task : Task) (r : Except String Task) : Prop :=
  ∀ t, r = .ok t → ∃ quota, t = { task with quota := quota }

@[grind ←]
lemma returns_pure : (pure task : Action Task).run.Returns (SameUpToQuota task) :=
  fun _ ht => ⟨task.quota, (Except.ok.inj ht).symm⟩

@[grind ←]
lemma returns_settled : (pure { task with quota := actualQuota } : Action Task).run.Returns (SameUpToQuota task) :=
  fun _ ht => ⟨actualQuota, (Except.ok.inj ht).symm⟩

@[grind ←]
lemma returns_bind {α : Type} {x : Action α} {f : α → Action Task}
    (hf : ∀ a, (f a).run.Returns (SameUpToQuota task)) : (x >>= f).run.Returns (SameUpToQuota task) :=
  Returns.bind_run (returns_trivial _) (fun _ _ _ ht => by cases ht) fun a _ => hf a

@[grind ←]
lemma returns_recalculateTaskQuota :
    (recalculateTaskQuota cfg id task actualQuota).run.Returns (SameUpToQuota task) := by
  unfold recalculateTaskQuota
  grind

@[grind ←]
lemma returns_recalculateTaskQuotaByTokens :
    (recalculateTaskQuotaByTokens cfg settings id task totalTokens).run.Returns (SameUpToQuota task) := by
  unfold recalculateTaskQuotaByTokens
  grind

end Calls

/-! ### What the requests do -/

/-- No wallet, subscription or token has changed its balance. -/
structure SameBalances (x y : DB) : Prop where
  wallets : ∀ id, userQuota id y = userQuota id x
  subscriptions : y.subscriptions = x.subscriptions
  tokens : ∀ id, tokenBalance id y = tokenBalance id x

lemma SameBalances.refl (x : DB) : SameBalances x x := ⟨fun _ => rfl, rfl, fun _ => rfl⟩

/-- A step that leaves the tasks alone, records movements that satisfy `P`, and changes no
balance where it records none. -/
structure BillingStep (P : TaskMovement → Prop) (x y : DB) : Prop where
  tasks : y.tasks = x.tasks
  movements : ∃ l, y.movements = x.movements ++ l ∧ (∀ m ∈ l, P m) ∧ (l = [] → SameBalances x y)

section Steps

variable {x y : DB} {m : TaskMovement}

lemma BillingStep.same (ht : y.tasks = x.tasks) (hm : y.movements = x.movements) (h : SameBalances x y) :
    BillingStep P x y :=
  ⟨ht, [], by rw [hm, List.append_nil], by simp, fun _ => h⟩

lemma BillingStep.refl (x : DB) : BillingStep P x x := .same rfl rfl (.refl x)

lemma BillingStep.note (hm : P m) (ht : y.tasks = x.tasks) (hv : y.movements = x.movements) :
    BillingStep P x (y.note (some m)) :=
  ⟨ht, [m], congrArg (· ++ [m]) hv, by simpa using hm, by simp⟩

lemma sameBalances_updateUsedQuota (id n count : Int) :
    SameBalances x ((Stmt.updateUserUsedQuotaAndRequestCount id n count).step x).2 := by
  refine ⟨fun j => ?_, rfl, fun _ => rfl⟩
  simp only [userQuota, Stmt.step, Table.row_update]
  split
  · next hj =>
    subst hj
    cases x.users.row j <;> rfl
  · rfl

lemma sameBalances_addRecord {type : BatchType} (h : type ≠ .tokenQuota) {id n : Int} :
    SameBalances x ((Stmt.addNewRecord type id n none).step x).2 := by
  refine ⟨fun _ => rfl, rfl, fun j => ?_⟩
  have hb : (x.addRecord type id n).batchUpdateStores .tokenQuota j = x.batchUpdateStores .tokenQuota j :=
    if_neg fun hj => h hj.1.symm
  exact congrArg ((x.tokens.row j).elim 0 Token.remainQuota + ·) hb

/-- A billing request changes balances only by the movements that it records. -/
theorem billingStep_exec {req : Req} (h : BillingRequest P req) (φs : List (Option String)) (x : DB) :
    BillingStep P x (server.exec φs req x).2 := by
  have hstmt : ∀ {s : Stmt}, BillingStep P x (s.step x).2 → BillingStep P x (server.exec φs (.stmt s) x).2 :=
    fun hs => server_exec_keeps (.refl x) hs φs
  cases h with
  | read hs => exact hstmt ((hs x).symm ▸ .refl x)
  | increaseUserQuota hn hm _ => exact hstmt (.note hm rfl rfl)
  | decreaseUserQuota hm _ =>
    refine hstmt ?_
    simp only [Stmt.step]
    split
    · exact .note hm rfl rfl
    · exact .refl x
  | postConsume hm _ =>
    exact exec_transaction (.refl x) (wpE_postConsumeTx fun sub _ _ => .note hm rfl rfl) φs
  | increaseTokenQuota hm | decreaseTokenQuota hm | addTokenRecord hm => exact hstmt (.note hm rfl rfl)
  | addUsedQuota | addRequestCount =>
    exact hstmt (.same rfl (List.append_nil _) (sameBalances_addRecord (by decide)))
  | updateUsedQuota => exact hstmt (.same rfl rfl (sameBalances_updateUsedQuota _ _ _))
  | createLog => exact hstmt (.same rfl rfl ⟨fun _ => rfl, rfl, fun _ => rfl⟩)

end Steps

end LoveApi.Proofs
