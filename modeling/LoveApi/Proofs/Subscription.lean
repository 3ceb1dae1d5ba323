import LoveApi.Subscription
import LoveApi.Proofs.Quota

/-!
# Subscriptions: what each transaction does

A pre-consume under a fresh request id charges exactly one subscription and records the charge.
-/

namespace LoveApi.Proofs

open Program Prog Go

variable {A : Stmt → Option String → DB → Prop} {delta userId : Int} {memo : Option TaskMovement} {db : DB}
  {Q : Unit → DB → Prop} {E : String → DB → Prop} {sub : UserSubscription} {cfg : Config} {env : Env}
  {requestId : String}

section PostConsume

variable {id : Int}

def Exceeds (sub : UserSubscription) (delta : Int) : Prop :=
  sub.amountTotal > 0 ∧ (sub.adjust delta).amountUsed > sub.amountTotal

lemma wpE_postConsumeTx (hQ : ∀ sub, db.subscriptions.row id = some sub → ¬Exceeds sub delta →
      Q () ((db.setSubscription id (sub.adjust delta)).note memo)) :
    wpE database A (postConsumeTx id delta memo) Q (fun _ _ => True) db := by
  refine (wpE_bind ..).mpr (wpE_query_first rfl (fun sub hrow => ?_) fun _ => trivial)
  by_cases hx : sub.amountTotal > 0 ∧ (sub.adjust delta).amountUsed > sub.amountTotal
  · rw [if_pos hx]
    trivial
  · rw [if_neg hx]
    refine wpE_query_ok rfl ?_ fun _ => trivial
    exact hQ sub hrow hx

lemma wpE_postConsumeTx_noFault (hrow : db.subscriptions.row id = some sub) (hx : ¬Exceeds sub delta)
    (hQ : Q () ((db.setSubscription id (sub.adjust delta)).note memo)) :
    wpE database noFault (postConsumeTx id delta memo) Q E db := by
  unfold postConsumeTx
  have hfound : Stmt.step (.selectSubscription id) db = (.ok sub, db) := by simp only [Stmt.step, first, hrow]
  have hx : ¬(sub.amountTotal > 0 ∧ (sub.adjust delta).amountUsed > sub.amountTotal) := hx
  rw [wpE_bind]
  apply wpE_query_step hfound
  rw [if_neg hx]
  exact wpE_query_step rfl hQ

end PostConsume

section PreConsume

variable {amount : Int} {db₀ : DB}
variable {id : Int} {s : UserSubscription} {plan : SubscriptionPlan}

/-- The plan, from the cache or else the table. -/
def planOf (env : Env) (db : DB) (id : Int) : Option SubscriptionPlan :=
  (env.cachedPlan id).or (db.plans.row id)

lemma wpE_getSubscriptionPlanByIdTx {Q : SubscriptionPlan → DB → Prop}
    (hQ : ∀ plan, planOf env db id = some plan → Q plan db) :
    wpE database A (getSubscriptionPlanByIdTx env id) Q (fun _ _ => True) db := by
  unfold getSubscriptionPlanByIdTx
  unfold planOf at hQ
  split
  · trivial
  · split
    · next plan hc => exact hQ plan (by rw [hc, Option.some_or])
    · next hc =>
      refine wpE_query_first rfl (fun plan hrow => ?_) fun _ => trivial
      exact hQ plan (by rw [hc, Option.none_or, hrow])

def afterReset (cfg : Config) (sub : UserSubscription) (plan : SubscriptionPlan) (now : Time) :
    UserSubscription :=
  (dueReset cfg sub plan now).getD sub

structure ResetOnly (cfg : Config) (env : Env) (db₀ db : DB) : Prop where
  users : db.users = db₀.users
  tokens : db.tokens = db₀.tokens
  stores : db.batchUpdateStores = db₀.batchUpdateStores
  records : db.preConsumeRecords = db₀.preConsumeRecords
  plans : db.plans = db₀.plans
  rows : ∀ id, db.subscriptions.row id = db₀.subscriptions.row id ∨
    ∃ sub plan, db₀.subscriptions.row id = some sub ∧ planOf env db₀ sub.planId = some plan ∧
      db.subscriptions.row id = some (afterReset cfg sub plan env.now)

lemma ResetOnly.refl (db : DB) : ResetOnly cfg env db db :=
  ⟨rfl, rfl, rfl, rfl, rfl, fun _ => .inl rfl⟩

lemma ResetOnly.exists_row (h : ResetOnly cfg env db₀ db)
    (hrow : db₀.subscriptions.row id = some sub) : ∃ s, db.subscriptions.row id = some s := by
  rcases h.rows id with heq | ⟨s, plan, -, -, hs⟩
  · exact ⟨sub, heq.trans hrow⟩
  · exact ⟨_, hs⟩

lemma ResetOnly.planOf (h : ResetOnly cfg env db₀ db) (id : Int) : planOf env db id = planOf env db₀ id := by
  unfold Proofs.planOf
  rw [h.plans]

lemma row_setSubscription (h : db.subscriptions.row id = some s) (sub : UserSubscription) (j : Int) :
    (db.setSubscription id sub).subscriptions.row j = if j = id then some sub else db.subscriptions.row j := by
  unfold DB.setSubscription
  rw [Table.row_update, h]
  rfl

lemma row_setSubscription_self (sub : UserSubscription)
    (h : db.subscriptions.row id = some s) : (db.setSubscription id sub).subscriptions.row id = some sub :=
  (row_setSubscription h sub id).trans (if_pos rfl)

lemma ResetOnly.reset (h : ResetOnly cfg env db₀ db) (hrow : db₀.subscriptions.row id = some sub)
    (hplan : Proofs.planOf env db₀ sub.planId = some plan) :
    ResetOnly cfg env db₀ (db.setSubscription id (afterReset cfg sub plan env.now)) where
  users := h.users
  tokens := h.tokens
  stores := h.stores
  records := h.records
  plans := h.plans
  rows j := by
    obtain ⟨s, hs⟩ := h.exists_row hrow
    rw [row_setSubscription hs]
    by_cases hj : j = id
    · subst hj
      rw [if_pos rfl]
      exact .inr ⟨sub, plan, hrow, hplan, rfl⟩
    · rw [if_neg hj]
      exact h.rows j

lemma wpE_maybeResetUserSubscriptionWithPlanTx {Q : UserSubscription → DB → Prop} (h : ResetOnly cfg env db₀ db)
    (hrow : db₀.subscriptions.row id = some sub) (hplan : planOf env db₀ sub.planId = some plan)
    (hQ : ∀ db', ResetOnly cfg env db₀ db' → Q (afterReset cfg sub plan env.now) db') :
    wpE database A (maybeResetUserSubscriptionWithPlanTx cfg id sub plan env.now) Q (fun _ _ => True) db := by
  have hreset := h.reset hrow hplan
  unfold maybeResetUserSubscriptionWithPlanTx
  unfold afterReset at hQ hreset
  split
  · next hr =>
    rw [hr] at hQ
    exact hQ db h
  · next sub' hr =>
    rw [hr] at hQ hreset
    refine (wpE_bind ..).mpr (wpE_query_ok rfl ?_ fun _ => trivial)
    rw [note_none]
    exact hQ _ hreset

def Fits (amount : Int) (sub : UserSubscription) : Prop :=
  ¬(sub.amountTotal > 0 ∧ sub.amountTotal - sub.amountUsed < amount)

/-- What a pre-consume under a fresh request id does: it charges one active subscription of the
user, after a due reset of its quota, and records the charge. Other subscriptions may be reset. -/
structure PreConsumed (cfg : Config) (env : Env) (requestId : String) (userId amount : Int)
    (db : DB) (r : SubscriptionPreConsumeResult) (db' : DB) : Prop where
  users : db'.users = db.users
  tokens : db'.tokens = db.tokens
  stores : db'.batchUpdateStores = db.batchUpdateStores
  plans : db'.plans = db.plans
  pos : 0 < amount
  preConsumed : r.preConsumed = amount
  records : db'.preConsumeRecords =
    db.preConsumeRecords.insert requestId ⟨userId, r.userSubscriptionId, amount, .consumed⟩
  charged : ∃ sub plan, (r.userSubscriptionId, sub) ∈ db.activeSubscriptions userId env.now ∧
    planOf env db sub.planId = some plan ∧ Fits amount (afterReset cfg sub plan env.now) ∧
    db'.subscriptions.row r.userSubscriptionId =
      some ((afterReset cfg sub plan env.now).consume amount pos)
  others : ∀ id ≠ r.userSubscriptionId, db'.subscriptions.row id = db.subscriptions.row id ∨
    ∃ sub plan, db.subscriptions.row id = some sub ∧ planOf env db sub.planId = some plan ∧
      db'.subscriptions.row id = some (afterReset cfg sub plan env.now)

lemma row_of_mem_activeSubscriptions {now : Time} {c : Int × UserSubscription}
    (h : c ∈ db.activeSubscriptions userId now) : db.subscriptions.row c.1 = some c.2 :=
  Table.mem_rows.mp (List.mem_of_mem_filter h)

variable (hfresh : db₀.preConsumeRecords.row requestId = none)

include hfresh

lemma PreConsumed.record {r : SubscriptionPreConsumeResult} (h : PreConsumed cfg env requestId userId amount db₀ r db) :
    db.preConsumeRecords.row requestId = some ⟨userId, r.userSubscriptionId, amount, .consumed⟩ := by
  rw [h.records, Table.row_insert _ hfresh, if_pos rfl]

lemma wpE_chargeCandidate {sub₀ : UserSubscription} (h : 0 < amount)
    (hdb : ResetOnly cfg env db₀ db) (hmem : (id, sub₀) ∈ db₀.activeSubscriptions userId env.now)
    (hplan : planOf env db₀ sub₀.planId = some plan) (hfit : Fits amount (afterReset cfg sub₀ plan env.now)) :
    wpE database A (chargeCandidate requestId userId amount h id (afterReset cfg sub₀ plan env.now))
      (PreConsumed cfg env requestId userId amount db₀) (fun _ _ => True) db := by
  have hrow : db₀.subscriptions.row id = some sub₀ := row_of_mem_activeSubscriptions hmem
  have hnone : db.preConsumeRecords.row requestId = none := by rw [hdb.records, hfresh]
  obtain ⟨s, hcur⟩ := hdb.exists_row hrow
  unfold chargeCandidate
  rw [wpE_bind, wpE_attempt]
  refine wpE_query (fun r db₁ hs => ?_) fun e => ?_
  · -- the record is new, so the charge follows
    simp only [Stmt.step, hnone, Prod.mk.injEq, true_and] at hs
    obtain rfl := hs
    refine (wpE_bind ..).mpr (wpE_query_ok rfl ?_ fun _ => trivial)
    have hsaved := row_setSubscription hcur ((afterReset cfg sub₀ plan env.now).consume amount h)
    refine ⟨hdb.users, hdb.tokens, hdb.stores, hdb.plans, h, rfl, ?_, ⟨sub₀, plan, hmem, hplan, hfit, ?_⟩, ?_⟩
    · show db.preConsumeRecords.insert requestId _ = _
      rw [hdb.records]
    · exact (hsaved id).trans (if_pos rfl)
    · intro j hj
      have hother := (hsaved j).trans (if_neg hj)
      rcases hdb.rows j with heq | ⟨s, p, hs, hp, hy⟩
      · exact .inl (hother.trans heq)
      · exact .inr ⟨s, p, hs, hp, hother.trans hy⟩
  · -- a failed insert finds no record
    rw [wpE_bind, wpE_attempt]
    refine wpE_query (fun dup db₁ hs => ?_) fun _ => trivial
    simp [Stmt.step, first, hnone] at hs

lemma wpE_preConsumeCandidates {cs : List (Int × UserSubscription)} (h : 0 < amount) (hdb : ResetOnly cfg env db₀ db)
    (hcs : ∀ c ∈ cs, c ∈ db₀.activeSubscriptions userId env.now) :
    wpE database A (preConsumeCandidates cfg env requestId userId amount h cs)
      (PreConsumed cfg env requestId userId amount db₀) (fun _ _ => True) db := by
  induction cs generalizing db with
  | nil => trivial
  | cons c cs ih =>
    have hmem := hcs _ List.mem_cons_self
    refine (wpE_bind ..).mpr (wpE_getSubscriptionPlanByIdTx fun plan hplan => ?_)
    rw [hdb.planOf] at hplan
    refine (wpE_bind ..).mpr (wpE_maybeResetUserSubscriptionWithPlanTx hdb
      (row_of_mem_activeSubscriptions hmem) hplan fun db' hdb' => ?_)
    split
    · exact ih hdb' fun c hc => hcs c (List.mem_cons_of_mem _ hc)
    · next hfit => exact wpE_chargeCandidate hfresh h hdb' hmem hplan hfit

omit hfresh

lemma consumed_of_ne {status : RecordStatus} (h : status ≠ .refunded) : status = .consumed := by
  cases status with
  | consumed => rfl
  | refunded => exact absurd rfl h

def PreConsumeStep (cfg : Config) (env : Env) (requestId : String) (userId amount : Int)
    (db : DB) (r : SubscriptionPreConsumeResult) (db' : DB) : Prop :=
  (∃ record, db.preConsumeRecords.row requestId = some record ∧ record.status = .consumed ∧
    r.userSubscriptionId = record.userSubscriptionId ∧ r.preConsumed = record.preConsumed ∧ db' = db) ∨
  (db.preConsumeRecords.row requestId = none ∧ PreConsumed cfg env requestId userId amount db r db')

def chargeFirstFitting (cfg : Config) (env : Env) (requestId : String) (userId amount : Int) (h : 0 < amount) :
    Query SubscriptionPreConsumeResult := do
  let subs ← Prog.attempt (query (.selectActiveSubscriptions userId env.now))
  match subs with
  | .error _ => throw "no active subscription"
  | .ok [] => throw "no active subscription"
  | .ok (c :: cs) => preConsumeCandidates cfg env requestId userId amount h (c :: cs)

lemma wpE_chargeFirstFitting (h : 0 < amount) (hfresh : db.preConsumeRecords.row requestId = none) :
    wpE database A (chargeFirstFitting cfg env requestId userId amount h)
      (PreConsumed cfg env requestId userId amount db) (fun _ _ => True) db := by
  unfold chargeFirstFitting
  rw [wpE_bind, wpE_attempt]
  refine wpE_query (fun subs db' hs => ?_) fun _ => trivial
  obtain ⟨hsubs, rfl⟩ := Prod.mk.inj hs
  cases subs with
  | nil => trivial
  | cons c cs =>
    have hcs : ∀ x ∈ c :: cs, x ∈ db.activeSubscriptions userId env.now := by
      intro x hx
      rw [← Except.ok.inj hsubs] at hx
      exact (List.mem_insertionSort _).mp hx
    exact wpE_preConsumeCandidates hfresh h (.refl db) hcs

lemma wpE_preConsumeTx (h : 0 < amount) : wpE database A (preConsumeTx cfg env requestId userId amount h)
      (PreConsumeStep cfg env requestId userId amount db) (fun _ _ => True) db := by
  refine (wpE_bind ..).mpr (wpE_query (fun existing db' hs => ?_) fun _ => trivial)
  obtain ⟨hfound, rfl⟩ := Prod.mk.inj hs
  obtain rfl := Except.ok.inj hfound
  cases hrec : db.preConsumeRecords.row requestId with
  | some record =>
    dsimp only
    split
    · trivial
    · next hstatus =>
      refine (wpE_bind ..).mpr (wpE_query (fun sub db' hs => ?_) fun _ => trivial)
      obtain ⟨-, rfl⟩ := Prod.mk.inj hs
      exact .inl ⟨record, hrec, consumed_of_ne hstatus, rfl, rfl, rfl⟩
  | none =>
    exact wpE_mono (wpE_chargeFirstFitting h hrec) (fun _ _ hp => .inr ⟨hrec, hp⟩) fun _ _ _ => trivial

end PreConsume

section Calls

variable {A : Req → List (Option String) → DB → Prop} {id : Int}

lemma wpE_preConsumeUserSubscription {amount : Int} {Q : SubscriptionPreConsumeResult → DB → Prop}
    (hQ : 0 < amount → trimSpace requestId ≠ "" → ∀ r db',
      PreConsumeStep cfg env requestId userId amount db r db' → Q r db')
    (hE : ∀ e, E e db) :
    wpE server A (preConsumeUserSubscription cfg env requestId userId amount) Q E db := by
  unfold preConsumeUserSubscription
  split
  · exact hE _
  · split
    · exact hE _
    · next htrim =>
      split
      · exact hE _
      · next h =>
        have h : 0 < amount := not_le.mp h
        exact wpE_transaction (wpE_mono (wpE_preConsumeTx h) (hQ h htrim) fun _ _ _ => trivial) hE

lemma wpE_postConsumeUserSubscriptionDelta (h₀ : delta = 0 → Q () db)
    (hQ : delta ≠ 0 → ∀ sub, db.subscriptions.row id = some sub → ¬Exceeds sub delta →
      Q () ((db.setSubscription id (sub.adjust delta)).note memo))
    (hE : ∀ e, E e db) :
    wpE server A (postConsumeUserSubscriptionDelta id delta memo) Q E db := by
  unfold postConsumeUserSubscriptionDelta
  by_cases hid : id ≤ 0
  · rw [if_pos hid]
    exact hE _
  · rw [if_neg hid]
    by_cases hd : delta = 0
    · rw [if_pos hd]
      exact h₀ hd
    · rw [if_neg hd]
      exact wpE_transaction (wpE_postConsumeTx (hQ hd)) hE

lemma wpE_postConsumeUserSubscriptionDelta_of_nil
    (hA : ∀ φs, A (.tx (do query .begin; postConsumeTx id delta memo)) φs db → φs = [])
    (hrow : db.subscriptions.row id = some sub) (hx : ¬Exceeds sub delta) (hd : delta ≠ 0)
    (hQ : Q () ((db.setSubscription id (sub.adjust delta)).note memo)) :
    wpE server A (postConsumeUserSubscriptionDelta id delta memo) Q E db := by
  have hid : 0 < id := db.subscriptions_pos id ((db.subscriptions.mem_keys id).mpr (by rw [hrow]; rfl))
  unfold postConsumeUserSubscriptionDelta
  rw [if_neg (by omega), if_neg hd]
  exact wpE_transaction_of_nil hA (wpE_postConsumeTx_noFault hrow hx hQ)

lemma wpE_refundSubscriptionPreConsume {n : Int} (htrim : trimSpace requestId ≠ "")
    (hrec : db.preConsumeRecords.row requestId = some ⟨userId, id, n, .consumed⟩) (hn : 0 < n)
    (hrow : db.subscriptions.row id = some sub) (hx : ¬Exceeds sub (-n))
    (hQ : ∀ y, y.subscriptions = (db.setSubscription id (sub.adjust (-n))).subscriptions →
      y.tokens = db.tokens → y.batchUpdateStores = db.batchUpdateStores → Q () y) :
    wpE server noFaults (refundSubscriptionPreConsume requestId) Q E db := by
  unfold refundSubscriptionPreConsume
  rw [if_neg htrim]
  rw [wpE_bind]
  apply wpE_exec_step rfl
  rw [wpE_bind]
  have hfound : Stmt.step (.selectRecord requestId) db = (.ok ⟨userId, id, n, .consumed⟩, db) := by
    simp only [Stmt.step, first, hrec]
  apply wpE_exec_step hfound
  simp only [reduceCtorEq, if_false, not_le.mpr hn]
  rw [wpE_bind]
  apply wpE_postConsumeUserSubscriptionDelta_of_nil (fun _ h => h) hrow hx (by omega)
  exact wpE_exec_step rfl (hQ _ rfl rfl rfl)

end Calls

end LoveApi.Proofs
