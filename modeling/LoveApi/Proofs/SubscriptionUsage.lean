import LoveApi.Proofs.SubscriptionRefund
import LoveApi.Proofs.SubscriptionReset

/-!
# The usage of a subscription

Any sequence of pre-consumes, settlements, refunds and resets keeps the used amount within the total.
-/

namespace LoveApi.Proofs

open Program Prog Go

variable {cfg : Config} {env : Env} {sub : UserSubscription} {plan : SubscriptionPlan} {x y : DB}

/-! ### Calls -/

/-- A call that changes the usage of subscriptions. A settlement is made for a request. -/
inductive UsageCall
  | preConsume (env : Env) (requestId : String) (userId amount : Int)
  | settle (requestId : String) (id delta : Int)
  | refund (requestId : String)
  | reset (env : Env) (id : Int) (plan : SubscriptionPlan)
  | resetDue (env : Env) (limit : Int)

def resetTx (cfg : Config) (env : Env) (id : Int) (plan : SubscriptionPlan) : Query Unit := do
  let sub ← query (.selectSubscription id)
  let _ ← maybeResetUserSubscriptionWithPlanTx cfg id sub plan env.now
  return ()

def UsageCall.run (cfg : Config) : UsageCall → Action Unit
  | preConsume env requestId userId amount => do
    let _ ← preConsumeUserSubscription cfg env requestId userId amount
    return ()
  | settle _ id delta => postConsumeUserSubscriptionDelta id delta
  | refund requestId => refundSubscriptionPreConsume requestId
  | reset env id plan => transaction (resetTx cfg env id plan)
  | resetDue env limit => do
    let _ ← resetDueSubscriptions cfg env limit
    return ()

section Rules

variable {db : DB} {id : Int}

lemma afterReset_period (cfg : Config) (sub : UserSubscription) (plan : SubscriptionPlan) (now : Time) :
    (afterReset cfg sub plan now).amountTotal = sub.amountTotal ∧
    (periodStart (afterReset cfg sub plan now) = periodStart sub ∧
        (afterReset cfg sub plan now).amountUsed = sub.amountUsed ∨
      periodStart (afterReset cfg sub plan now) ≠ periodStart sub ∧
        (afterReset cfg sub plan now).amountUsed = 0) := by
  unfold afterReset
  cases h : dueReset cfg sub plan now with
  | none => exact ⟨rfl, .inl ⟨rfl, rfl⟩⟩
  | some sub' =>
    rcases dueReset_cases h with ⟨base, rfl, hbase, -⟩ | ⟨next, rfl, -, -⟩
    · exact ⟨rfl, .inr ⟨hbase.lt.ne', rfl⟩⟩
    · exact ⟨rfl, .inl ⟨rfl, rfl⟩⟩

def KeptOrReset (cfg : Config) (now : Time) (id : Int) (x y : DB) : Prop :=
  y.subscriptions.row id = x.subscriptions.row id ∨ ∃ sub plan, x.subscriptions.row id = some sub ∧
    y.subscriptions.row id = some (afterReset cfg sub plan now)

lemma keptOrReset_set {j : Int} {now : Time} (hrow : x.subscriptions.row j = some sub) :
    KeptOrReset cfg now id x (x.setSubscription j (afterReset cfg sub plan now)) := by
  have hset := row_setSubscription hrow (afterReset cfg sub plan now) id
  by_cases hj : id = j
  · subst hj
    exact .inr ⟨sub, plan, hrow, hset.trans (if_pos rfl)⟩
  · exact .inl (hset.trans (if_neg hj))

lemma PreConsumed.keptOrReset {requestId : String} {userId amount : Int} {r : SubscriptionPreConsumeResult}
    (hp : PreConsumed cfg env requestId userId amount x r y) (hid : id ≠ r.userSubscriptionId) :
    KeptOrReset cfg env.now id x y := by
  rcases hp.others id hid with heq | ⟨sub, plan, hx, -, hy⟩
  · exact .inl heq
  · exact .inr ⟨sub, plan, hx, hy⟩

lemma wpE_resetTx {B : Stmt → Option String → DB → Prop} {Q : Unit → DB → Prop} (h₀ : Q () db)
    (hQ : ∀ sub, db.subscriptions.row id = some sub →
      Q () (db.setSubscription id (afterReset cfg sub plan env.now))) :
    wpE database B (resetTx cfg env id plan) Q (fun _ _ => True) db := by
  unfold resetTx
  rw [wpE_bind]
  refine wpE_query_first rfl (fun sub hrow => ?_) fun _ => trivial
  have hQ := hQ sub hrow
  rw [wpE_bind]
  unfold maybeResetUserSubscriptionWithPlanTx
  unfold afterReset at hQ
  cases hreset : dueReset cfg sub plan env.now with
  | none => exact h₀
  | some sub' =>
    rw [hreset] at hQ
    rw [wpE_bind]
    refine wpE_query_ok rfl ?_ fun _ => trivial
    rw [note_none]
    exact hQ

end Rules

/-! ### The bound -/

section

variable {id total : Int}

attribute [local irreducible] preConsumeUserSubscription postConsumeUserSubscriptionDelta
  refundSubscriptionPreConsume resetTx resetDueSubscriptions

def WithinTotal (id total : Int) (db : DB) : Prop :=
  ∃ sub, db.subscriptions.row id = some sub ∧ sub.amountTotal = total ∧ sub.amountUsed ≤ total

variable (h : WithinTotal id total x)

include h

lemma WithinTotal.of_row_eq (hy : y.subscriptions.row id = x.subscriptions.row id) : WithinTotal id total y := by
  obtain ⟨sub, hrow, hsub⟩ := h
  exact ⟨sub, hy.trans hrow, hsub⟩

lemma WithinTotal.of_keptOrReset (hpos : 0 < total) {now : Time} (hrow : KeptOrReset cfg now id x y) :
    WithinTotal id total y := by
  rcases hrow with heq | ⟨sub, plan, hx, hy⟩
  · exact h.of_row_eq heq
  · obtain ⟨sub', hrow, htotal, hused⟩ := h
    obtain rfl := Option.some.inj (hx.symm.trans hrow)
    obtain ⟨ht, hu⟩ := afterReset_period cfg sub plan now
    refine ⟨_, hy, ht.trans htotal, ?_⟩
    rcases hu with ⟨-, hu⟩ | ⟨-, hu⟩ <;> omega

lemma WithinTotal.adjust (hpos : 0 < total) {j delta : Int}
    (hrow : x.subscriptions.row j = some sub) (hx : ¬Exceeds sub delta) :
    WithinTotal id total (x.setSubscription j (sub.adjust delta)) := by
  have hset := row_setSubscription hrow (sub.adjust delta) id
  by_cases hj : id = j
  · subst hj
    rw [if_pos rfl] at hset
    obtain ⟨sub', hrow', htotal, -⟩ := h
    obtain rfl := Option.some.inj (hrow.symm.trans hrow')
    refine ⟨_, hset, htotal, ?_⟩
    unfold Exceeds at hx
    omega
  · rw [if_neg hj] at hset
    exact h.of_row_eq hset

lemma WithinTotal.preConsumed (hpos : 0 < total) {requestId : String} {userId amount : Int}
    {r : SubscriptionPreConsumeResult} (hstep : PreConsumeStep cfg env requestId userId amount x r y) :
    WithinTotal id total y := by
  rcases hstep with ⟨_, -, -, -, -, rfl⟩ | ⟨-, hp⟩
  · exact h
  · by_cases hr : id = r.userSubscriptionId
    · subst hr
      obtain ⟨sub, plan, hmem, -, hfit, hrow⟩ := hp.charged
      have hx : x.subscriptions.row r.userSubscriptionId = some sub := row_of_mem_activeSubscriptions hmem
      obtain ⟨sub', hrow', htotal, -⟩ := h
      obtain rfl := Option.some.inj (hx.symm.trans hrow')
      have ht := (afterReset_period cfg sub plan env.now).1
      refine ⟨_, hrow, ht.trans htotal, ?_⟩
      unfold Fits at hfit
      show (afterReset cfg sub plan env.now).amountUsed + amount ≤ total
      omega
    · exact h.of_keptOrReset hpos (hp.keptOrReset hr)

omit h

lemma wpE_withinTotal {A : Req → List (Option String) → DB → Prop} {call : UsageCall} (hpos : 0 < total)
    (h : WithinTotal id total x) :
    wpE server A (call.run cfg) (fun _ y => WithinTotal id total y) (fun _ y => WithinTotal id total y) x := by
  cases call with
  | preConsume env requestId userId amount =>
    show wpE server A (preConsumeUserSubscription cfg env requestId userId amount >>= fun _ => pure ()) _ _ x
    rw [wpE_bind]
    apply wpE_preConsumeUserSubscription _ fun _ => h
    intro _ _ r y hstep
    exact h.preConsumed hpos hstep
  | settle requestId j delta =>
    apply wpE_postConsumeUserSubscriptionDelta (fun _ => h) _ fun _ => h
    intro _ sub hrow hx
    exact h.adjust hpos hrow hx
  | refund requestId =>
    apply wpE_refund (fun _ => h) (fun _ _ _ => h) (fun _ _ _ _ => h.of_row_eq rfl)
    rintro record sub - - - hrow hx y rfl
    have hy := h.adjust hpos hrow hx
    exact ⟨hy.of_row_eq rfl, fun _ _ => hy⟩
  | reset env j plan =>
    apply wpE_transaction _ fun _ => h
    apply wpE_resetTx h
    intro sub hrow
    exact h.of_keptOrReset hpos (keptOrReset_set hrow)
  | resetDue env limit =>
    show wpE server A (resetDueSubscriptions cfg env limit >>= fun _ => pure ()) _ _ x
    rw [wpE_bind]
    apply wpE_mono (wpE_resetDueSubscriptions limit)
    · rintro n y ⟨hy, -⟩
      exact h.of_keptOrReset hpos (hy.kept_or_reset (fun r hr => (mem_dueBatch hr).1) id)
    · rintro e y ⟨-, hy⟩
      exact h.of_keptOrReset hpos (hy.kept_or_reset (fun r hr => (mem_dueBatch hr).1) id)

end

/-! ### Failed calls -/

section

attribute [local irreducible] preConsumeUserSubscription postConsumeUserSubscriptionDelta
  refundSubscriptionPreConsume resetTx resetDueSubscriptions

/-- The database after the calls. -/
def afterCalls (cfg : Config) (calls : List (UsageCall × Faults)) (db : DB) : DB :=
  evalSeq server [] (calls.map fun c => ((c.1.run cfg).run, c.2)) db

def UsageKept (x y : DB) : Prop :=
  y.subscriptions = x.subscriptions ∧ y.preConsumeRecords = x.preConsumeRecords

/-- What a call that fails leaves behind. A batch of resets may have reset rows before it failed, and
a refund is considered here only where the save of its record does not fail. -/
def FailureLeaves (cfg : Config) (faults : Faults) (x y : DB) : UsageCall → Prop
  | .refund requestId =>
    (refundSubscriptionPreConsume requestId).run.Meets server [] RecordSavesSucceed faults x → UsageKept x y
  | .resetDue env _ => y.preConsumeRecords = x.preConsumeRecords ∧
    ∀ id, y.subscriptions.row id = x.subscriptions.row id ∨
      ∃ sub plan, x.subscriptions.row id = some sub ∧
        y.subscriptions.row id = some (afterReset cfg sub plan env.now)
  | _ => UsageKept x y

lemma failure_leaves {call : UsageCall} {faults : Faults} {e : String}
    (h : (call.run cfg).run.eval server [] faults x = (.error e, y)) : FailureLeaves cfg faults x y call := by
  have hall : (call.run cfg).run.Meets server [] (fun _ _ _ => True) faults x :=
    meets_of_forall (fun _ _ _ => trivial) _ _
  cases call with
  | preConsume env requestId userId amount =>
    have hw : wpE server (fun _ _ _ => True) (preConsumeUserSubscription cfg env requestId userId amount >>=
        fun _ => pure ()) (fun _ _ => True) (fun _ y => UsageKept x y) x := by
      rw [wpE_bind]
      exact wpE_preConsumeUserSubscription (fun _ _ _ _ _ => trivial) fun _ => ⟨rfl, rfl⟩
    exact error_of_wpE hw hall h
  | settle requestId id delta =>
    have hw : wpE server (fun _ _ _ => True) (postConsumeUserSubscriptionDelta id delta)
        (fun _ _ => True) (fun _ y => UsageKept x y) x :=
      wpE_postConsumeUserSubscriptionDelta (fun _ => trivial) (fun _ _ _ _ => trivial) fun _ => ⟨rfl, rfl⟩
    exact error_of_wpE hw hall h
  | refund requestId =>
    intro hA
    have hw : wpE server RecordSavesSucceed (refundSubscriptionPreConsume requestId)
        (fun _ _ => True) (fun _ y => UsageKept x y) x := by
      apply wpE_refund (fun _ => ⟨rfl, rfl⟩) (fun _ _ _ => trivial) (fun _ _ _ _ => trivial)
      intro _ _ _ _ _ _ _ _ _
      refine ⟨trivial, ?_⟩
      rintro ⟨φs, hsaves, hfault⟩
      exact absurd hsaves hfault
    exact error_of_wpE hw hA h
  | reset env id plan =>
    have hw : wpE server (fun _ _ _ => True) (transaction (resetTx cfg env id plan))
        (fun _ _ => True) (fun _ y => UsageKept x y) x :=
      wpE_transaction (wpE_resetTx trivial fun _ _ => trivial) fun _ => ⟨rfl, rfl⟩
    exact error_of_wpE hw hall h
  | resetDue env limit =>
    have hw : wpE server (fun _ _ _ => True) (resetDueSubscriptions cfg env limit >>= fun _ => pure ())
        (fun _ _ => True) (fun _ y => FailureLeaves cfg faults x y (.resetDue env limit)) x := by
      rw [wpE_bind]
      apply wpE_mono (wpE_resetDueSubscriptions limit) (fun _ _ _ => trivial)
      rintro e y ⟨-, hy⟩
      exact ⟨hy.records, hy.kept_or_reset fun r hr => (mem_dueBatch hr).1⟩
    exact error_of_wpE hw hall h

end

/-- After any sequence of calls with any failures, a subscription with a total has used between
nothing and that total, and a call that fails leaves behind what `FailureLeaves` says. -/
theorem usage_within_total {cfg : Config} {db : DB} {id : Int} {sub : UserSubscription}
    (hrow : db.subscriptions.row id = some sub) (hpos : 0 < sub.amountTotal)
    (hused : sub.amountUsed ≤ sub.amountTotal) (calls : List (UsageCall × Faults)) :
    (∃ sub', (afterCalls cfg calls db).subscriptions.row id = some sub' ∧
      sub'.amountTotal = sub.amountTotal ∧ 0 ≤ sub'.amountUsed ∧ sub'.amountUsed ≤ sub'.amountTotal) ∧
    ∀ (call : UsageCall) (faults : Faults) (x y : DB) (e : String),
      (call.run cfg).run.eval server [] faults x = (.error e, y) → FailureLeaves cfg faults x y call := by
  constructor
  · have hrun : WithinTotal id sub.amountTotal (afterCalls cfg calls db) := by
      apply evalSeq_induction (J := WithinTotal id sub.amountTotal) (A := fun _ _ _ => True) _
        (meetsSeq_of_forall (fun _ _ _ => trivial) _ _) ⟨sub, hrow, rfl, hused⟩
      intro c hc x hx
      obtain ⟨call, -, rfl⟩ := List.mem_map.mp hc
      exact wp_of_wpE (wpE_withinTotal hpos hx)
    obtain ⟨sub', hrow', htotal, hle⟩ := hrun
    exact ⟨sub', hrow', htotal, sub'.used_nonneg, by omega⟩
  · intro call faults x y e h
    exact failure_leaves h

/-- A refund whose record cannot be saved, a charge over the total, and a reset. -/
def failingCalls : List (UsageCall × Faults) :=
  [(.refund "req", [[], [], [], [some "connection lost"]]), (.settle "req" 1 200, []),
    (.reset { now := 500 } 1 { title := "hourly", quotaResetPeriod := "custom", quotaResetCustomSeconds := 300 }, [])]

theorem usage_within_total_failing :
    (∃ sub', (afterCalls {} failingCalls refundableRequest).subscriptions.row 1 = some sub' ∧
      sub'.amountTotal = 100 ∧ 0 ≤ sub'.amountUsed ∧ sub'.amountUsed ≤ sub'.amountTotal) ∧
    (((UsageCall.settle "req" 1 200).run {}).run.eval server [] [] refundableRequest).2.subscriptions =
      refundableRequest.subscriptions := by
  have h := @usage_within_total {} refundableRequest 1 _ rfl (by decide) (by decide) failingCalls
  exact ⟨h.1, (h.2 (.settle "req" 1 200) [] refundableRequest _ _ rfl).1⟩

def dailySubscription (userId : Int) (amountUsed : Nat) : UserSubscription :=
  ⟨userId, 1, 100, amountUsed, Int.natCast_nonneg _, 0, 1000000, .active, .order, some 0, some 86400, "", ""⟩

def twoDue : DB where
  subscriptions := (Table.empty.insert 1 (dailySubscription 1 30)).insert 2 (dailySubscription 2 40)
  plans := Table.empty.insert 1 { title := "daily", quotaResetPeriod := "daily" }

/-- A batch of resets that fails at its second row has reset the first one. -/
theorem failed_resetDue_resets : (((UsageCall.resetDue { now := 90000 } 300).run {}).run.eval server []
      [[], [], [], [], [some "deadlock"]] twoDue).1 = .error "deadlock" ∧
    (twoDue.subscriptions.row 1).map (fun s => (s.amountUsed, s.nextResetTime)) = some (30, some 86400) ∧
    ((((UsageCall.resetDue { now := 90000 } 300).run {}).run.eval server []
      [[], [], [], [], [some "deadlock"]] twoDue).2.subscriptions.row 1).map
        (fun s => (s.amountUsed, s.nextResetTime)) = some (0, some 172800) := ⟨rfl, rfl, rfl⟩

end LoveApi.Proofs
