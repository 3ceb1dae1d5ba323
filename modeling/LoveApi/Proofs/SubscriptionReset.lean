import Mathlib.Data.Finset.Card
import LoveApi.SubscriptionTask
import LoveApi.Proofs.ResetTime
import LoveApi.Proofs.SubscriptionLifecycle

/-!
# The reset task

A row leaves the due range exactly if a reset time has passed since its last reset and another one lies ahead.
-/

namespace LoveApi.Proofs

open Program Prog Go List Option Table

variable {cfg : Config} {env : Env} {A : Req → List (Option String) → DB → Prop} {db y : DB} {plan : SubscriptionPlan}
  {r : Int × UserSubscription}

/-! ### One batch -/

section

variable {z : DB}
variable {sub : UserSubscription}

def batchPlan (env : Env) (db : DB) (sub : UserSubscription) : Option SubscriptionPlan :=
  if sub.planId ≤ 0 then none else planOf env db sub.planId

def afterBatch (cfg : Config) (env : Env) (db : DB) (sub : UserSubscription) : UserSubscription :=
  (batchPlan env db sub).elim sub fun plan => afterReset cfg sub plan env.now

/-- The rows of a batch have been reset and nothing else has changed. Where something failed, some
of them may not have been reached. -/
structure RowsReset (cfg : Config) (env : Env) (failed : Prop) (rows : List (Int × UserSubscription))
    (db y : DB) : Prop where
  plans : y.plans = db.plans
  records : y.preConsumeRecords = db.preConsumeRecords
  keys : y.subscriptions.keys = db.subscriptions.keys
  reset : ∀ r ∈ rows, y.subscriptions.row r.1 = some (afterBatch cfg env db r.2) ∨
    failed ∧ y.subscriptions.row r.1 = some r.2
  others : ∀ id, id ∉ rows.map Prod.fst → y.subscriptions.row id = db.subscriptions.row id

variable {failed : Prop} {rows : List (Int × UserSubscription)}

lemma batchPlan_congr (h : y.plans = db.plans) (sub : UserSubscription) :
    batchPlan env y sub = batchPlan env db sub := by
  unfold batchPlan planOf
  rw [h]

lemma afterBatch_of_some (h : batchPlan env db sub = some plan) :
    afterBatch cfg env db sub = afterReset cfg sub plan env.now := by
  unfold afterBatch
  rw [h]
  rfl

lemma afterBatch_of_none (h : batchPlan env db sub = none) : afterBatch cfg env db sub = sub := by
  unfold afterBatch
  rw [h]
  rfl

lemma RowsReset.refl (h : ∀ r ∈ rows, db.subscriptions.row r.1 = some r.2 ∧
    (failed ∨ afterBatch cfg env db r.2 = r.2)) : RowsReset cfg env failed rows db db where
  plans := rfl
  records := rfl
  keys := rfl
  reset r hr := by
    obtain ⟨hrow, hf | hkept⟩ := h r hr
    · exact .inr ⟨hf, hrow⟩
    · rw [hkept]
      exact .inl hrow
  others _ _ := rfl

lemma RowsReset.cons (h : RowsReset cfg env failed [r] db z) (hr : r.1 ∉ rows.map Prod.fst)
    (hrest : RowsReset cfg env failed rows z y) : RowsReset cfg env failed (r :: rows) db y where
  plans := hrest.plans.trans h.plans
  records := hrest.records.trans h.records
  keys := hrest.keys.trans h.keys
  reset r' hr' := by
    rcases mem_cons.mp hr' with rfl | hr'
    · rw [hrest.others r'.1 hr]
      exact h.reset r' mem_cons_self
    · have heq : afterBatch cfg env z r'.2 = afterBatch cfg env db r'.2 := by
        unfold afterBatch
        rw [batchPlan_congr h.plans]
      rw [← heq]
      exact hrest.reset r' hr'
  others id hid := by
    rw [map_cons, mem_cons, not_or] at hid
    rw [hrest.others id hid.2]
    exact h.others id (by simpa using hid.1)

lemma RowsReset.single (hrow : db.subscriptions.row r.1 = some r.2)
    (hplan : batchPlan env db r.2 = some plan) (hsub : sub = afterReset cfg r.2 plan env.now) :
    RowsReset cfg env failed [r] db (db.setSubscription r.1 sub) where
  plans := rfl
  records := rfl
  keys := rfl
  reset r' hr' := by
    obtain rfl := mem_singleton.mp hr'
    left
    show (db.subscriptions.update _ _).row _ = _
    rw [row_update_self, hrow, hsub, afterBatch_of_some hplan]
    rfl
  others id hid := row_update_of_ne _ (by simpa using hid) _

lemma RowsReset.mono {failed' : Prop} (h : RowsReset cfg env failed rows db y) (himp : failed → failed') :
    RowsReset cfg env failed' rows db y where
  plans := h.plans
  records := h.records
  keys := h.keys
  reset r hr := (h.reset r hr).imp_right fun hf => ⟨himp hf.1, hf.2⟩
  others := h.others

lemma RowsReset.kept_or_reset (h : RowsReset cfg env failed rows db y)
    (hrows : ∀ r ∈ rows, db.subscriptions.row r.1 = some r.2) (id : Int) :
    y.subscriptions.row id = db.subscriptions.row id ∨ ∃ sub plan, db.subscriptions.row id = some sub ∧
        y.subscriptions.row id = some (afterReset cfg sub plan env.now) := by
  by_cases hid : id ∈ rows.map Prod.fst
  · obtain ⟨r, hr, rfl⟩ := mem_map.mp hid
    rcases h.reset r hr with hy | ⟨-, hy⟩
    · cases hplan : batchPlan env db r.2 with
      | none =>
        rw [afterBatch_of_none hplan] at hy
        exact .inl (hy.trans (hrows r hr).symm)
      | some plan =>
        rw [afterBatch_of_some hplan] at hy
        exact .inr ⟨r.2, plan, hrows r hr, hy⟩
    · exact .inl (hy.trans (hrows r hr).symm)
  · exact .inl (h.others id hid)

lemma wpE_resetDueTx {B : Stmt → Option String → DB → Prop}
    (hrow : db.subscriptions.row r.1 = some r.2) (hdue : r.2.dueForReset env.now = true)
    (hplan : batchPlan env db r.2 = some plan) :
    wpE database B (resetDueTx cfg env r.1 plan)
      (fun n y => RowsReset cfg env (MayFault none B) [r] db y ∧ (n = 1 ∨ MayFault none B))
      (fun _ _ => MayFault none B) db := by
  unfold resetDueTx
  rw [wpE_bind, wpE_attempt]
  apply wpE_query_of_mayFault
  · intro locked y hs
    simp only [Stmt.step, first, hrow, filter_some, hdue, if_true, Prod.mk.injEq, Except.ok.injEq] at hs
    obtain ⟨rfl, rfl⟩ := hs
    rw [wpE_bind]
    unfold maybeResetUserSubscriptionWithPlanTx
    cases hreset : dueReset cfg r.2 plan env.now with
    | none =>
      have hkept : afterReset cfg r.2 plan env.now = r.2 := by
        unfold afterReset
        rw [hreset]
        rfl
      exact ⟨.refl (forall_mem_singleton.mpr ⟨hrow, .inr ((afterBatch_of_some hplan).trans hkept)⟩), .inl rfl⟩
    | some sub' =>
      have hsub : sub' = afterReset cfg r.2 plan env.now := by
        unfold afterReset
        rw [hreset]
        rfl
      rw [wpE_bind]
      apply wpE_query_of_mayFault
      · intro _ y hs
        cases hs
        rw [note_none]
        exact ⟨.single hrow hplan hsub, .inl rfl⟩
      · intro e hs
        simp [Stmt.step] at hs
      · intro hf _
        exact hf
  · intro e hs
    simp [Stmt.step, first, hrow, filter_some, hdue] at hs
  · intro hf _
    exact ⟨.refl (forall_mem_singleton.mpr ⟨hrow, .inl hf⟩), .inr hf⟩

lemma wpE_getSubscriptionPlanById {Q : SubscriptionPlan → DB → Prop}
    {E : String → DB → Prop} (hQ : ∀ plan, batchPlan env db sub = some plan → Q plan db)
    (hE : ∀ e, batchPlan env db sub = none ∨ MayFault [] A → E e db) :
    wpE server A (getSubscriptionPlanById env sub.planId) Q E db := by
  unfold getSubscriptionPlanById
  unfold batchPlan planOf at hQ hE
  split
  · next h => exact hE _ (.inl (if_pos h))
  · next h =>
    rw [if_neg h] at hQ hE
    cases hc : env.cachedPlan sub.planId with
    | some plan => exact hQ plan (by rw [hc, some_or])
    | none =>
      rw [hc, none_or] at hQ hE
      apply wpE_exec_of_mayFault
      · intro plan y hs
        obtain ⟨hrow, rfl⟩ := Prod.mk.inj hs
        exact hQ plan (first_eq_ok hrow)
      · intro e hs
        apply hE e (.inl _)
        cases hp : db.plans.row sub.planId <;> simp_all [Stmt.step, first]
      · intro hf e
        exact hE e (.inr hf)

lemma wpE_resetDueRow (n : Nat) (hrow : db.subscriptions.row r.1 = some r.2) (hdue : r.2.dueForReset env.now = true) :
    wpE server A (resetDueRow cfg env n r) (fun n' y => RowsReset cfg env (MayFault [] A) [r] db y ∧
        (n' = n + (if (batchPlan env db r.2).isSome then 1 else 0) ∨ MayFault [] A))
      (fun _ y => MayFault [] A ∧ y = db) db := by
  unfold resetDueRow
  rw [wpE_bind, wpE_attempt]
  apply wpE_getSubscriptionPlanById
  · intro plan hplan
    rw [wpE_bind]
    apply wpE_transaction_of_mayFault
    · intro B hB
      apply wpE_mono (wpE_resetDueTx hrow hdue hplan)
      · rintro counted y ⟨hy, hn⟩
        refine ⟨hy.mono hB, hn.imp ?_ hB⟩
        rintro rfl
        rw [hplan]
        rfl
      · intro _ _ hf
        exact ⟨hB hf, rfl⟩
    · intro hf _
      exact ⟨hf, rfl⟩
  · intro e hnone
    rcases hnone with hnone | hf
    · refine ⟨.refl (forall_mem_singleton.mpr ⟨hrow, .inr (afterBatch_of_none hnone)⟩), .inl ?_⟩
      rw [hnone]
      rfl
    · exact ⟨.refl (forall_mem_singleton.mpr ⟨hrow, .inl hf⟩), .inr hf⟩

lemma wpE_resetDueRows (hrows : ∀ r ∈ rows, db.subscriptions.row r.1 = some r.2)
    (hdue : ∀ r ∈ rows, r.2.dueForReset env.now = true) (hnodup : (rows.map Prod.fst).Nodup) (n : Nat) :
    wpE server A (rows.foldlM (resetDueRow cfg env) n) (fun n' y => RowsReset cfg env (MayFault [] A) rows db y ∧
        (n' = n + rows.countP (fun r => (batchPlan env db r.2).isSome) ∨ MayFault [] A))
      (fun _ y => MayFault [] A ∧ RowsReset cfg env True rows db y) db := by
  induction rows generalizing n db with
  | nil => exact ⟨.refl (forall_mem_nil _), .inl rfl⟩
  | cons r rows ih =>
    rw [map_cons, nodup_cons] at hnodup
    have hrow := hrows r mem_cons_self
    rw [foldlM_cons, wpE_bind]
    apply wpE_mono (wpE_resetDueRow n hrow (hdue r mem_cons_self))
    · rintro n₁ z ⟨hz, hn₁⟩
      -- the remaining rows are as the batch found them
      have hrest : ∀ r' ∈ rows, z.subscriptions.row r'.1 = some r'.2 := by
        intro r' hr'
        have hne : r'.1 ∉ [r].map Prod.fst := by
          intro hmem
          rw [map_cons, map_nil, mem_singleton] at hmem
          exact hnodup.1 (hmem ▸ mem_map_of_mem hr')
        rw [hz.others _ hne]
        exact hrows r' (mem_cons_of_mem r hr')
      apply wpE_mono (ih hrest (fun r' hr' => hdue r' (mem_cons_of_mem r hr')) hnodup.2 n₁)
      · rintro n₂ y ⟨hy, hn₂⟩
        refine ⟨hz.cons hnodup.1 hy, ?_⟩
        rcases hn₁ with hn₁ | hf
        · refine hn₂.imp_left fun hn₂ => ?_
          rw [hn₂, hn₁, countP_cons]
          simp only [batchPlan_congr hz.plans]
          omega
        · exact .inr hf
      · rintro _ y ⟨hf, hy⟩
        exact ⟨hf, (hz.mono fun _ => trivial).cons hnodup.1 hy⟩
    · rintro _ y ⟨hf, rfl⟩
      exact ⟨hf, .refl fun r hr => ⟨hrows r hr, .inl trivial⟩⟩

def dueBatch (env : Env) (limit : Nat) (db : DB) : List (Int × UserSubscription) :=
  ((db.subscriptions.rows.filter fun r => r.2.dueForReset env.now && r.2.status = .active).insertionSort
    fun a b => a.2.nextResetTime.getD zeroTime ≤ b.2.nextResetTime.getD zeroTime).take limit

lemma mem_dueBatch {limit : Nat} (h : r ∈ dueBatch env limit db) :
    db.subscriptions.row r.1 = some r.2 ∧ r.2.dueForReset env.now = true ∧ r.2.status = .active := by
  have hmem := mem_of_mem_filter ((mem_insertionSort _).mp (mem_of_mem_take h))
  have hcond := of_mem_filter ((mem_insertionSort _).mp (mem_of_mem_take h))
  simp only [Bool.and_eq_true, decide_eq_true_eq] at hcond
  exact ⟨mem_rows.mp hmem, hcond⟩

lemma nodup_dueBatch {limit : Nat} {db : DB} : ((dueBatch env limit db).map Prod.fst).Nodup := by
  unfold dueBatch
  rw [map_take]
  apply List.Nodup.sublist (take_sublist _ _)
  apply ((perm_insertionSort _ _).map Prod.fst).nodup_iff.mpr
  exact db.subscriptions.nodup_rows.sublist ((filter_sublist).map Prod.fst)

def batchLimit (limit : Int) : Nat := (if limit ≤ 0 then 200 else limit).toNat

/-- A batch resets the due rows in order, up to a failure, and counts those that have a plan. -/
theorem wpE_resetDueSubscriptions (limit : Int) : wpE server A (resetDueSubscriptions cfg env limit)
      (fun n y => RowsReset cfg env (MayFault [] A) (dueBatch env (batchLimit limit) db) db y ∧
        (n = (dueBatch env (batchLimit limit) db).countP (fun r => (batchPlan env db r.2).isSome) ∨ MayFault [] A))
      (fun _ y => MayFault [] A ∧ RowsReset cfg env True (dueBatch env (batchLimit limit) db) db y) db := by
  have hrows : ∀ r ∈ dueBatch env (batchLimit limit) db, db.subscriptions.row r.1 = some r.2 :=
    fun r hr => (mem_dueBatch hr).1
  have hdue : ∀ r ∈ dueBatch env (batchLimit limit) db, r.2.dueForReset env.now = true :=
    fun r hr => (mem_dueBatch hr).2.1
  unfold resetDueSubscriptions
  rw [wpE_bind]
  apply wpE_exec_of_mayFault
  · intro subs y hs
    obtain ⟨hsubs, rfl⟩ := Prod.mk.inj hs
    obtain rfl : dueBatch env (batchLimit limit) db = subs := Except.ok.inj hsubs
    apply wpE_mono (wpE_resetDueRows hrows hdue (nodup_dueBatch) 0)
    · intro n y hy
      simpa only [zero_add] using hy
    · intro _ _ hy
      exact hy
  · intro e hs
    simp [Stmt.step] at hs
  · intro hf e
    exact ⟨hf, .refl fun r hr => ⟨hrows r hr, .inl trivial⟩⟩

end

/-! ### The loops -/

section

variable {batch : Action Nat} {J K : DB → Prop}

lemma wpE_batchLoop {μ : DB → Nat} (h : ∀ x, J x → wpE server A batch (fun n y =>
      (n < subscriptionResetBatchSize → K y) ∧ (subscriptionResetBatchSize ≤ n → J y ∧ μ y < μ x))
      (fun _ _ => False) x) {fuel : Nat} (hfuel : μ db < fuel) (hdb : J db) :
    wpE server A (batchLoop batch fuel) (fun ended y => ended = true ∧ K y) (fun _ _ => False) db := by
  induction fuel generalizing db with
  | zero => omega
  | succ fuel ih =>
    unfold batchLoop
    rw [wpE_bind]
    apply wpE_mono (h db hdb) _ fun _ _ hf => hf
    rintro n y ⟨hK, hJ⟩
    split
    · next hn => exact ⟨rfl, hK hn⟩
    · next hn =>
      obtain ⟨hy, hμ⟩ := hJ (not_lt.mp hn)
      exact ih (by omega) hy

lemma wpE_batchLoop_endless (h : ∀ x, J x → wpE server A batch (fun n y => subscriptionResetBatchSize ≤ n ∧ J y)
      (fun _ _ => False) x) {fuel : Nat} (hdb : J db) :
    wpE server A (batchLoop batch fuel) (fun ended _ => ended = false) (fun _ _ => False) db := by
  induction fuel generalizing db with
  | zero => rfl
  | succ fuel ih =>
    unfold batchLoop
    rw [wpE_bind]
    apply wpE_mono (h db hdb) _ fun _ _ hf => hf
    rintro n y ⟨hn, hy⟩
    rw [if_neg (not_lt.mpr hn)]
    exact ih hy

end

/-! ### The expiry loop -/

section

variable {now : Time}

def overdueCount (now : Time) (db : DB) : Nat := db.subscriptions.rows.countP fun r => r.2.overdue now

lemma overdue_expire {userId : Int} {sub : UserSubscription} :
    (sub.expire userId now).overdue now = (sub.overdue now && !decide (sub.userId = userId)) := by
  unfold UserSubscription.expire
  split
  · next h => simp [UserSubscription.overdue, h.1]
  · next h =>
    by_cases hu : sub.userId = userId
    · simp only [hu, true_and, Bool.not_eq_true] at h
      simp [hu, h]
    · simp [hu]

lemma overdueCount_expireAll (userId : Int) :
    db.subscriptions.rows.countP (fun r => r.2.userId = userId && r.2.overdue now) +
      overdueCount now (expireAll db now userId) = overdueCount now db := by
  unfold overdueCount expireAll
  rw [rows_modify, countP_map]
  induction db.subscriptions.rows with
  | nil => rfl
  | cons r l ih =>
    simp only [countP_cons, Function.comp_apply, overdue_expire] at ih ⊢
    cases r.2.overdue now <;> by_cases hu : r.2.userId = userId <;> simp [hu] at ih ⊢ <;> omega

lemma wpE_expireDueSubscriptions_count {order : MapOrder} {limit : Int} :
    wpE server noFaults (expireDueSubscriptions now order limit)
      (fun n y => y.subscriptions.keys = db.subscriptions.keys ∧ n + overdueCount now y = overdueCount now db)
      (fun _ _ => False) db := by
  apply wpE_expireDueSubscriptions _ order limit ⟨rfl, zero_add _⟩
  rintro n x v - ⟨hkeys, hn⟩
  have hcount := @overdueCount_expireAll x now v
  have hgroup : overdueCount now (afterExpiry x now v) = overdueCount now (expireAll x now v) := rfl
  exact ⟨hkeys, by omega⟩

lemma wpE_expireDueSubscriptions_none (h : ∀ r ∈ db.subscriptions.rows, r.2.overdue now = false)
    {order : MapOrder} {limit : Int} :
    wpE server noFaults (expireDueSubscriptions now order limit) (fun n y => n = 0 ∧ y = db)
      (fun _ _ => False) db := by
  have hnone : (db.subscriptions.rows.filter fun r => r.2.overdue now) = [] := by
    rw [filter_eq_nil_iff]
    intro r hr
    rw [h r hr]
    exact Bool.false_ne_true
  unfold expireDueSubscriptions
  rw [wpE_bind]
  apply wpE_exec_step rfl
  have husers : batchUsers order [] = [] := (order.perm []).eq_nil
  rw [hnone, insertionSort_nil, take_nil, husers]
  exact ⟨rfl, rfl⟩

end

/-! ### The task -/

section

variable {order : MapOrder} {x : DB}

/-- One batch, without faults. -/
def resetBatch (cfg : Config) (env : Env) (x : DB) : Except String Nat × DB :=
  (resetDueSubscriptions cfg env subscriptionResetBatchSize).run.eval server [] [] x

lemma resetBatch_spec (cfg : Config) (env : Env) (x : DB) : ∃ n y, resetBatch cfg env x = (.ok n, y) ∧
    RowsReset cfg env False (dueBatch env subscriptionResetBatchSize x) x y ∧
    n = (dueBatch env subscriptionResetBatchSize x).countP fun r => (batchPlan env x r.2).isSome := by
  have hbatch := wpE_mono (@wpE_resetDueSubscriptions cfg env noFaults x subscriptionResetBatchSize)
    (fun _ _ h => h) fun _ _ h => not_mayFault_noFaults h.1
  obtain ⟨n, y, hres, hy, hn⟩ := exists_ok_of_wpE hbatch
  exact ⟨n, y, hres, hy.mono not_mayFault_noFaults, hn.resolve_right not_mayFault_noFaults⟩

/-- The states in which a batch of resets starts. -/
inductive StartsBatch (cfg : Config) (env : Env) (order : MapOrder) (db : DB) : DB → Prop
  | first {fuel : Nat} {x : DB} (h : (batchLoop (expireDueSubscriptions env.now order
      subscriptionResetBatchSize) fuel).run.eval server [] [] db = (.ok true, x)) :
    StartsBatch cfg env order db x
  | next {x y : DB} {n : Nat} (hx : StartsBatch cfg env order db x) (h : resetBatch cfg env x = (.ok n, y))
    (hn : subscriptionResetBatchSize ≤ n) : StartsBatch cfg env order db y

/-- A row that its batch counts. -/
def Counted (env : Env) (x : DB) (r : Int × UserSubscription) (plan : SubscriptionPlan) : Prop :=
  r ∈ dueBatch env subscriptionResetBatchSize x ∧ batchPlan env x r.2 = some plan

lemma row_resetBatch (h : Counted env x r plan) :
    (resetBatch cfg env x).2.subscriptions.row r.1 = some (afterReset cfg r.2 plan env.now) := by
  obtain ⟨n, y, hres, hy, -⟩ := resetBatch_spec cfg env x
  rw [hres, (hy.reset r h.1).resolve_right fun hf => hf.1, afterBatch_of_some h.2]

def dueIds (env : Env) (db : DB) : Finset Int :=
  db.subscriptions.keys.toFinset.filter fun id => (db.subscriptions.row id).any fun sub =>
    sub.dueForReset env.now && sub.status = .active

lemma mem_dueIds {id : Int} : id ∈ dueIds env db ↔ ∃ sub, db.subscriptions.row id = some sub ∧
    sub.dueForReset env.now = true ∧ sub.status = .active := by
  unfold dueIds
  rw [Finset.mem_filter, List.mem_toFinset, Table.mem_keys]
  cases h : db.subscriptions.row id <;> simp

lemma dueIds_lt {n : Nat} (hres : resetBatch cfg env x = (.ok n, y)) (hn : 0 < n)
    (hcleared : ∀ r plan, Counted env x r plan → (afterReset cfg r.2 plan env.now).dueForReset env.now = false) :
    (dueIds env y).card < (dueIds env x).card := by
  obtain ⟨n', y', hres', hy, hcount⟩ := resetBatch_spec cfg env x
  obtain ⟨hn', rfl⟩ := Prod.mk.inj (hres'.symm.trans hres)
  cases hn'
  rw [hcount, countP_pos_iff] at hn
  obtain ⟨r, hr, hplan⟩ := hn
  obtain ⟨plan, hplan⟩ := isSome_iff_exists.mp hplan
  have hold := mem_dueBatch hr
  have hrow : y'.subscriptions.row r.1 = some (afterReset cfg r.2 plan env.now) := by
    have := @row_resetBatch cfg env plan r x ⟨hr, hplan⟩
    rwa [hres'] at this
  apply Finset.card_lt_card
  rw [Finset.ssubset_iff_of_subset]
  · refine ⟨r.1, mem_dueIds.mpr ⟨r.2, hold⟩, ?_⟩
    intro hmem
    obtain ⟨sub, hsub, hdue, -⟩ := mem_dueIds.mp hmem
    obtain rfl := some.inj (hrow.symm.trans hsub)
    rw [hcleared r plan ⟨hr, hplan⟩] at hdue
    cases hdue
  · intro id hid
    by_cases hmem : id ∈ (dueBatch env subscriptionResetBatchSize x).map Prod.fst
    · obtain ⟨r', hr', rfl⟩ := mem_map.mp hmem
      exact mem_dueIds.mpr ⟨r'.2, mem_dueBatch hr'⟩
    · obtain ⟨sub, hsub, hdue⟩ := mem_dueIds.mp hid
      rw [hy.others id hmem] at hsub
      exact mem_dueIds.mpr ⟨sub, hsub, hdue⟩

lemma expireLoop_ends (env : Env) (order : MapOrder) (db : DB) : ∃ x,
    (batchLoop (expireDueSubscriptions env.now order subscriptionResetBatchSize)
      (db.subscriptions.keys.length + 1)).run.eval server [] [] db = (.ok true, x) ∧
    x.subscriptions.keys = db.subscriptions.keys := by
  have hloop : wpE server noFaults (batchLoop (expireDueSubscriptions env.now order subscriptionResetBatchSize)
      (db.subscriptions.keys.length + 1))
      (fun ended y => ended = true ∧ y.subscriptions.keys = db.subscriptions.keys) (fun _ _ => False) db := by
    apply wpE_batchLoop (μ := overdueCount env.now) (J := fun x => x.subscriptions.keys = db.subscriptions.keys)
    · intro x hx
      apply wpE_mono (wpE_expireDueSubscriptions_count) _ fun _ _ hf => hf
      rintro n y ⟨hkeys, hn⟩
      refine ⟨fun _ => hkeys.trans hx, fun hfull => ⟨hkeys.trans hx, ?_⟩⟩
      unfold subscriptionResetBatchSize at hfull
      omega
    · have : overdueCount env.now db ≤ db.subscriptions.keys.length := by
        rw [← length_rows]
        exact countP_le_length
      omega
    · rfl
  obtain ⟨ended, x, heval, rfl, hkeys⟩ := exists_ok_of_wpE hloop
  exact ⟨x, heval, hkeys⟩

lemma exists_fuel_of_cleared (hcleared : ∀ x, StartsBatch cfg env order db x → ∀ r plan, Counted env x r plan →
      (afterReset cfg r.2 plan env.now).dueForReset env.now = false) :
    ∃ fuel y, (runSubscriptionQuotaResetOnce cfg env order fuel).run.eval server [] [] db = (.ok true, y) := by
  obtain ⟨x, hx, hkeys⟩ := expireLoop_ends env order db
  have hreset : wpE server noFaults (batchLoop (resetDueSubscriptions cfg env subscriptionResetBatchSize)
      (db.subscriptions.keys.length + 1)) (fun ended _ => ended = true ∧ True) (fun _ _ => False) x := by
    apply wpE_batchLoop (μ := fun y => (dueIds env y).card) (J := StartsBatch cfg env order db)
    · intro y hy
      obtain ⟨n, z, hres, -, -⟩ := resetBatch_spec cfg env y
      apply wpE_of_eval hres
      refine ⟨fun _ => trivial, fun hfull => ⟨.next hy hres hfull, ?_⟩⟩
      apply dueIds_lt hres _ (hcleared y hy)
      unfold subscriptionResetBatchSize at hfull
      omega
    · have : (dueIds env x).card ≤ x.subscriptions.keys.length :=
        (Finset.card_filter_le _ _).trans (toFinset_card_le _)
      rw [hkeys] at this
      omega
    · exact .first hx
  have hrun : wpE server noFaults (runSubscriptionQuotaResetOnce cfg env order (db.subscriptions.keys.length + 1))
      (fun ended _ => ended = true) (fun _ _ => False) db := by
    unfold runSubscriptionQuotaResetOnce
    rw [wpE_bind]
    apply wpE_of_eval hx
    exact wpE_mono hreset (fun _ _ h => h.1) fun _ _ hf => hf
  obtain ⟨ended, y, heval, rfl⟩ := exists_ok_of_wpE hrun
  exact ⟨_, y, heval⟩

def dailyDue : DB where
  subscriptions := Table.empty.insert 1
    ⟨1, 1, 100, 30, Int.natCast_nonneg _, 0, 1000000, .active, .order, some 0, some 86400, "", ""⟩
  plans := Table.empty.insert 1 { title := "daily", quotaResetPeriod := "daily" }

lemma startsBatch_dailyDue (h : StartsBatch {} { now := 90000 } {} dailyDue x) : x = dailyDue := by
  induction h with
  | @first fuel x h =>
    cases fuel with
    | zero => cases h
    | succ fuel => exact (Prod.mk.inj h).2.symm
  | @next x y n _ h hn ih =>
    subst ih
    obtain rfl : 1 = n := Except.ok.inj (Prod.mk.inj h).1
    unfold subscriptionResetBatchSize at hn
    omega

def neverReset : UserSubscription :=
  ⟨1, 1, 100, 30, Int.natCast_nonneg _, 0, 1000000, .active, .order, some 0, some 86400, "", ""⟩

/-- Three hundred subscriptions, bought before their plan was changed to be reset never. -/
def neverResets : DB where
  subscriptions := {
    keys := (List.range 300).map fun n : ℕ => (n : Int) + 1
    row := fun id => if 1 ≤ id ∧ id ≤ 300 then some neverReset else none
    nodup := List.nodup_range.map fun a b h => by simpa using h
    mem_keys := fun id => by
      simp only [List.mem_map, List.mem_range]
      constructor
      · rintro ⟨n, hn, rfl⟩
        rw [if_pos (by omega)]
        rfl
      · intro h
        split at h
        · next hid => exact ⟨(id - 1).toNat, by omega, by omega⟩
        · cases h }
  plans := Table.empty.insert 1 { title := "basic", quotaResetPeriod := "never" }
  subscriptions_pos := by
    intro id h
    obtain ⟨n, -, rfl⟩ := List.mem_map.mp h
    omega

lemma eq_neverReset (h : neverResets.subscriptions.row r.1 = some r.2) : r.2 = neverReset := by
  simp only [neverResets] at h
  split at h
  · exact (some.inj h).symm
  · cases h

lemma length_neverResets : (dueBatch { now := 90000 } 300 neverResets).length = 300 := by
  have hall : (neverResets.subscriptions.rows.filter fun r =>
      r.2.dueForReset 90000 && r.2.status = .active) = neverResets.subscriptions.rows := by
    rw [filter_eq_self]
    intro r hr
    rw [eq_neverReset (mem_rows.mp hr)]
    decide
  have hrows : neverResets.subscriptions.rows.length = 300 := by
    rw [length_rows]
    exact (length_map _).trans length_range
  unfold dueBatch
  rw [hall, length_take, length_insertionSort, hrows, Nat.min_self]

lemma resetBatch_neverResets (hx : x.subscriptions = neverResets.subscriptions ∧ x.plans = neverResets.plans) :
    ∃ y, resetBatch {} { now := 90000 } x = (.ok 300, y) ∧
      y.subscriptions = neverResets.subscriptions ∧ y.plans = neverResets.plans := by
  obtain ⟨n, y, hres, hy, hn⟩ := resetBatch_spec {} { now := 90000 } x
  have hbatch : dueBatch { now := 90000 } subscriptionResetBatchSize x = dueBatch { now := 90000 } 300 neverResets := by
    unfold dueBatch
    rw [hx.1]
    rfl
  have hrow : ∀ r ∈ dueBatch { now := 90000 } 300 neverResets, r.2 = neverReset :=
    fun r hr => eq_neverReset (mem_dueBatch hr).1
  have hplan : batchPlan { now := 90000 } x neverReset = some { title := "basic", quotaResetPeriod := "never" } := by
    rw [batchPlan_congr hx.2]
    rfl
  have hkept : afterBatch {} { now := 90000 } x neverReset = neverReset := by
    rw [afterBatch_of_some hplan]
    rfl
  rw [hbatch] at hn hy
  have hn : n = 300 := by
    rw [hn, countP_eq_length.mpr, length_neverResets]
    intro r hr
    rw [hrow r hr, hplan]
    rfl
  refine ⟨y, hn ▸ hres, ?_, hy.plans.trans hx.2⟩
  rw [← hx.1]
  ext1
  · exact hy.keys
  · funext id
    by_cases hid : id ∈ (dueBatch { now := 90000 } 300 neverResets).map Prod.fst
    · obtain ⟨r, hr, rfl⟩ := List.mem_map.mp hid
      rw [(hy.reset r hr).resolve_right fun hf => hf.1, hrow r hr, hkept, hx.1, (mem_dueBatch hr).1, hrow r hr]
    · exact hy.others id hid

end

end LoveApi.Proofs
