import LoveApi.Proofs.SubscriptionLifecycle

/-!
# The life of a subscription order

`ReportStep` is all that one report of a gateway can do to the tables, and `OrderOutcome` what any number of them about
one order leads to.
-/

namespace LoveApi.Proofs

open Program Prog Go List Option

variable {cfg : Config} {tradeNo : String} {order : SubscriptionOrder} {x db : DB}

/-- A report about an order. -/
inductive OrderReport
  | complete (env : Env) (providerPayload : String) (expectedPaymentProvider : PaymentProvider)
    (actualPaymentMethod : String)
  | expire (env : Env) (expectedPaymentProvider : PaymentProvider)

def OrderReport.run (cfg : Config) (tradeNo : String) : OrderReport → Action Unit
  | .complete env providerPayload expectedPaymentProvider actualPaymentMethod =>
    completeSubscriptionOrder cfg env tradeNo providerPayload expectedPaymentProvider actualPaymentMethod
  | .expire env expectedPaymentProvider => expireSubscriptionOrder env tradeNo expectedPaymentProvider

def OrderReport.env : OrderReport → Env
  | .complete env _ _ _ => env
  | .expire env _ => env

def OrderReport.expectedPaymentProvider : OrderReport → PaymentProvider
  | .complete _ _ expectedPaymentProvider _ => expectedPaymentProvider
  | .expire _ expectedPaymentProvider => expectedPaymentProvider

section Step

variable {env : Env} {expected : PaymentProvider} {B : Stmt → Option String → DB → Prop}

attribute [local irreducible] trimSpace calcPlanEndTime createUserSubscriptionFromPlanTx

def Accepts (order : SubscriptionOrder) (expected : PaymentProvider) : Prop :=
  expected = .unset ∨ order.paymentProvider = expected

inductive ReportStep (cfg : Config) (tradeNo : String) (x : DB) : OrderReport → DB → Prop
  | kept (call : OrderReport) : ReportStep cfg tradeNo x call x
  | completed {env : Env} {payload method : String} {expected : PaymentProvider} {order : SubscriptionOrder}
      {plan : SubscriptionPlan} {id : Int} {y z : DB} (hrow : x.subscriptionOrders.row tradeNo = some order)
      (hprovider : Accepts order expected) (hpending : order.status = .pending)
      (hplan : planOf env x order.planId = some plan)
      (hcreated : Created cfg env.now order.userId order.planId plan .order x id z)
      (hsubs : y.subscriptions = z.subscriptions) (hplans : y.plans = x.plans)
      (horders : y.subscriptionOrders =
        x.subscriptionOrders.update tradeNo fun _ => order.complete env.now payload method) :
      ReportStep cfg tradeNo x (.complete env payload expected method) y
  | expired {env : Env} {expected : PaymentProvider} {order : SubscriptionOrder}
      (hrow : x.subscriptionOrders.row tradeNo = some order) (hprovider : Accepts order expected)
      (hpending : order.status = .pending) :
      ReportStep cfg tradeNo x (.expire env expected)
        { x with subscriptionOrders := x.subscriptionOrders.update tradeNo fun _ =>
          { order with status := .expired, completeTime := some env.now } }

lemma wpE_findSubscriptionOrder {Q : SubscriptionOrder → DB → Prop}
    (hQ : ∀ order, x.subscriptionOrders.row tradeNo = some order → Accepts order expected → Q order x) :
    wpE database B (findSubscriptionOrder tradeNo expected) Q (fun _ _ => True) x := by
  unfold findSubscriptionOrder
  rw [wpE_bind, wpE_mapError]
  refine wpE_query_first rfl (fun order hrow => ?_) fun _ => trivial
  split
  · trivial
  · next hprovider =>
    apply hQ order hrow
    by_cases hunset : expected = .unset
    · exact .inl hunset
    · right
      by_contra hne
      exact hprovider ⟨hunset, hne⟩

lemma wpE_upsertSubscriptionTopUpTx {Q : Unit → DB → Prop} (hQ : ∀ topUps, Q () { x with topUps := topUps }) :
    wpE database B (upsertSubscriptionTopUpTx env tradeNo order) Q (fun _ _ => True) x := by
  unfold upsertSubscriptionTopUpTx
  rw [wpE_bind]
  apply wpE_query _ fun _ => trivial
  intro found y hs
  obtain ⟨-, rfl⟩ := Prod.mk.inj hs
  cases found with
  | none =>
    apply wpE_query _ fun _ => trivial
    intro _ z hs
    dsimp only [Stmt.step] at hs
    split at hs
    · cases hs
    · obtain ⟨-, rfl⟩ := Prod.mk.inj hs
      exact hQ _
  | some topUp =>
    dsimp only
    split
    · trivial
    · apply wpE_query _ fun _ => trivial
      intro _ z hs
      obtain ⟨-, rfl⟩ := Prod.mk.inj hs
      exact hQ _

lemma wpE_completeSubscriptionOrderTx {payload method : String} :
    wpE database B (completeSubscriptionOrderTx cfg env tradeNo payload expected method)
      (fun _ y => ReportStep cfg tradeNo x (.complete env payload expected method) y) (fun _ _ => True) x := by
  unfold completeSubscriptionOrderTx
  rw [wpE_bind]
  apply wpE_findSubscriptionOrder
  intro order hrow hprovider
  by_cases hsuccess : order.status = .success
  · rw [if_pos hsuccess]
    exact .kept _
  rw [if_neg hsuccess]
  by_cases hpending : order.status = .pending
  · rw [if_neg (not_not_intro hpending), wpE_bind]
    apply wpE_getSubscriptionPlanByIdTx
    intro plan hplan
    rw [wpE_bind]
    apply wpE_mono wpE_createUserSubscriptionFromPlanTx _ fun _ _ _ => trivial
    intro id z hcreated
    rw [wpE_bind]
    apply wpE_upsertSubscriptionTopUpTx
    intro topUps
    refine wpE_query_ok rfl ?_ fun _ => trivial
    obtain ⟨endTime, -, hz⟩ := hcreated.created
    have hz₁ : z.plans = x.plans := by rw [hz]; rfl
    have hz₂ : z.subscriptionOrders = x.subscriptionOrders := by rw [hz]; rfl
    have horders : z.subscriptionOrders.update tradeNo (fun _ => order.complete env.now payload method) =
        x.subscriptionOrders.update tradeNo fun _ => order.complete env.now payload method := by rw [hz₂]
    exact @ReportStep.completed cfg tradeNo x env payload method expected order plan id _ z hrow hprovider
      hpending hplan hcreated rfl hz₁ horders
  · rw [if_pos hpending]
    trivial

lemma wpE_expireSubscriptionOrderTx : wpE database B (expireSubscriptionOrderTx env tradeNo expected)
      (fun _ y => ReportStep cfg tradeNo x (.expire env expected) y) (fun _ _ => True) x := by
  unfold expireSubscriptionOrderTx
  rw [wpE_bind]
  apply wpE_findSubscriptionOrder
  intro order hrow hprovider
  by_cases hpending : order.status = .pending
  · rw [if_neg (not_not_intro hpending)]
    refine wpE_query_ok rfl ?_ fun _ => trivial
    exact .expired hrow hprovider hpending
  · rw [if_pos hpending]
    exact .kept _

lemma wpE_orderReport {A : Req → List (Option String) → DB → Prop} {call : OrderReport} :
    wpE server A (call.run cfg tradeNo) (fun _ y => ReportStep cfg tradeNo x call y) (fun _ y => y = x) x := by
  cases call with
  | complete env payload expected method =>
    show wpE server A (completeSubscriptionOrder cfg env tradeNo payload expected method) _ _ x
    unfold completeSubscriptionOrder
    split
    · rfl
    · exact wpE_transaction wpE_completeSubscriptionOrderTx fun _ => rfl
  | expire env expected =>
    show wpE server A (expireSubscriptionOrder env tradeNo expected) _ _ x
    unfold expireSubscriptionOrder
    split
    · rfl
    · exact wpE_transaction wpE_expireSubscriptionOrderTx fun _ => rfl

end Step

/-! ### Runs -/

section

variable {call : OrderReport} {y : DB}

/-- The database after the reports. -/
def afterReports (cfg : Config) (calls : List (String × OrderReport × Faults)) (db : DB) : DB :=
  evalSeq server [] (calls.map fun c => ((c.2.1.run cfg c.1).run, c.2.2)) db

lemma orderReport_step (call : OrderReport) (faults : Faults) (x : DB) :
    ReportStep cfg tradeNo x call ((call.run cfg tradeNo).run.eval server [] faults x).2 := by
  have hw : wpE server (fun _ _ _ => True) (call.run cfg tradeNo)
      (fun _ y => ReportStep cfg tradeNo x call y) (fun _ y => ReportStep cfg tradeNo x call y) x := by
    apply wpE_mono (wpE_orderReport) (fun _ _ h => h)
    rintro e y rfl
    exact .kept call
  exact eval_of_wp (wp_of_wpE hw) (meets_of_forall (fun _ _ _ => trivial) _ _)

lemma afterReports_induction {J : DB → Prop} {calls : List (String × OrderReport × Faults)}
    (h : ∀ c ∈ calls, ∀ x y, J x → ReportStep cfg c.1 x c.2.1 y → J y) (hx : J x) :
    J (afterReports cfg calls x) := by
  induction calls generalizing x with
  | nil => exact hx
  | cons c calls ih =>
    apply ih
    · intro c' hc'
      exact h c' (mem_cons_of_mem c hc')
    · exact h c mem_cons_self x _ hx (orderReport_step c.2.1 c.2.2 x)

variable (hrow : x.subscriptionOrders.row tradeNo = some order)

include hrow

lemma ReportStep.eq_of_not_accepts (h : ReportStep cfg tradeNo x call y)
    (hprovider : ¬Accepts order call.expectedPaymentProvider) : y = x := by
  cases h with
  | kept => rfl
  | completed hrow' haccepts | expired hrow' haccepts =>
    obtain rfl := some.inj (hrow.symm.trans hrow')
    exact absurd haccepts hprovider

/-- Where reports of one order lead: nothing has changed, or the order was pending and is now paid,
with one new subscription, or expired, with none. -/
inductive OrderOutcome (tradeNo : String) (order : SubscriptionOrder) (db : DB) : DB → Prop
  | kept : OrderOutcome tradeNo order db db
  | completed {y : DB} {order' : SubscriptionOrder} {id : Int} {sub : UserSubscription}
      (hpending : order.status = .pending) (hrow : y.subscriptionOrders.row tradeNo = some order')
      (hsuccess : order'.status = .success) (hnew : db.subscriptions.row id = none)
      (hsubs : y.subscriptions = db.subscriptions.insert id sub)
      (huser : sub.userId = order.userId) (hplan : sub.planId = order.planId) :
      OrderOutcome tradeNo order db y
  | expired {y : DB} {order' : SubscriptionOrder} (hpending : order.status = .pending)
      (hrow : y.subscriptionOrders.row tradeNo = some order') (hexpired : order'.status = .expired)
      (hsubs : y.subscriptions = db.subscriptions) : OrderOutcome tradeNo order db y

lemma ReportStep.eq_of_not_pending (h : ReportStep cfg tradeNo x call y) (hstatus : order.status ≠ .pending) :
    y = x := by
  cases h with
  | kept => rfl
  | completed hrow' _ hpending | expired hrow' _ hpending =>
    obtain rfl := some.inj (hrow.symm.trans hrow')
    exact absurd hpending hstatus

lemma ReportStep.outcome (h : ReportStep cfg tradeNo x call y) : OrderOutcome tradeNo order x y := by
  cases h with
  | kept => exact .kept
  | @completed env payload method _ _ _ _ _ _ hrow' _ hpending hplan hcreated hsubs _ horders =>
    obtain rfl := some.inj (hrow.symm.trans hrow')
    obtain ⟨endTime, -, rfl⟩ := hcreated.created
    have hpaid : y.subscriptionOrders.row tradeNo = some (order.complete env.now payload method) := by
      rw [horders, Table.row_update_self, hrow]
      rfl
    exact .completed hpending hpaid rfl x.row_newSubscriptionId hsubs rfl rfl
  | @expired env _ _ hrow' _ hpending =>
    obtain rfl := some.inj (hrow.symm.trans hrow')
    have hexpired := Table.row_update_self x.subscriptionOrders tradeNo fun _ =>
      { order with status := .expired, completeTime := some env.now }
    rw [hrow] at hexpired
    exact .expired hpending hexpired rfl rfl

omit hrow

lemma OrderOutcome.step (h : OrderOutcome tradeNo order db x) (hrow : db.subscriptionOrders.row tradeNo = some order)
    (hstep : ReportStep cfg tradeNo x call y) :
    OrderOutcome tradeNo order db y := by
  cases h with
  | kept => exact hstep.outcome hrow
  | completed hpending hrow' hsuccess hnew hsubs huser hplan =>
    obtain rfl := hstep.eq_of_not_pending hrow' (by rw [hsuccess]; decide)
    exact .completed hpending hrow' hsuccess hnew hsubs huser hplan
  | expired hpending hrow' hexpired hsubs =>
    obtain rfl := hstep.eq_of_not_pending hrow' (by rw [hexpired]; decide)
    exact .expired hpending hrow' hexpired hsubs

/-- How often the user has bought the plan. -/
def purchases (db : DB) (userId planId : Int) : Nat :=
  db.subscriptions.rows.countP fun r => r.2.userId = userId && r.2.planId = planId

structure WithinLimit (userId planId limit : Int) (db x : DB) : Prop where
  plans : x.plans = db.plans
  purchases_le : (purchases x userId planId : Int) ≤ max (purchases db userId planId : Int) limit

lemma WithinLimit.step {userId planId limit : Int} (h : WithinLimit userId planId limit db x) (hpos : 0 < limit)
    (hlimit : ∀ plan, planOf call.env db planId = some plan → plan.maxPurchasePerUser = limit)
    (hstep : ReportStep cfg tradeNo x call y) : WithinLimit userId planId limit db y := by
  have hle := h.purchases_le
  cases hstep with
  | kept => exact h
  | @completed env _ _ _ order plan id _ z hrow _ _ hplan hcreated hsubs hplans _ =>
    obtain ⟨endTime, -, hz⟩ := hcreated.created
    refine ⟨hplans.trans h.plans, ?_⟩
    have hrows : y.subscriptions.rows = x.subscriptions.rows ++ [(x.newSubscriptionId,
        newSubscription cfg env.now order.userId order.planId plan .order endTime
          (previousGroup plan ((groupOf x order.userId).getD "")))] := by
      rw [hsubs, hz]
      exact Table.rows_insert _ x.row_newSubscriptionId
    unfold purchases at hle ⊢
    rw [hrows, countP_append, countP_singleton]
    split
    · next hsame =>
      -- the new row is one of the user's for the plan, so the call has counted the others
      obtain ⟨huser, hplanId⟩ := (Bool.and_eq_true _ _).mp hsame
      obtain rfl : order.userId = userId := of_decide_eq_true huser
      obtain rfl : order.planId = planId := of_decide_eq_true hplanId
      have hmax : plan.maxPurchasePerUser = limit := by
        apply hlimit plan
        rw [← hplan]
        unfold planOf
        rw [h.plans]
        rfl
      have hlt := hcreated.limit (by omega)
      omega
    · omega
  | expired => exact ⟨h.plans, hle⟩

end

/-- Reports of an order, with any failures: the order is left alone, or moves once from pending to
success with one new subscription or from pending to expired with none. A report that speaks for
another provider or fails changes nothing. Reports of any orders do not raise the number of a user's
subscriptions of a plan above its limit. -/
theorem subscriptionOrder_lifecycle (cfg : Config) (db : DB) :
    (∀ tradeNo order, db.subscriptionOrders.row tradeNo = some order → ∀ calls : List (OrderReport × Faults),
      OrderOutcome tradeNo order db (afterReports cfg (calls.map fun c => (tradeNo, c)) db)) ∧
    (∀ tradeNo (call : OrderReport) faults r y, (call.run cfg tradeNo).run.eval server [] faults db = (r, y) →
      (∀ e, r = .error e → y = db) ∧
      ∀ order, db.subscriptionOrders.row tradeNo = some order → call.expectedPaymentProvider ≠ .unset →
        call.expectedPaymentProvider ≠ order.paymentProvider → y = db) ∧
    ∀ userId planId limit, 0 < limit → ∀ calls : List (String × OrderReport × Faults),
      (∀ c ∈ calls, ∀ plan, planOf c.2.1.env db planId = some plan → plan.maxPurchasePerUser = limit) →
      (purchases (afterReports cfg calls db) userId planId : Int) ≤ max (purchases db userId planId : Int) limit := by
  refine ⟨?_, ?_, ?_⟩
  · intro tradeNo order hrow calls
    apply afterReports_induction _ OrderOutcome.kept
    intro c hc x y hx hstep
    obtain ⟨call, -, rfl⟩ := mem_map.mp hc
    exact hx.step hrow hstep
  · intro tradeNo call faults r y hrun
    constructor
    · rintro e rfl
      exact error_of_wpE (wpE_orderReport (A := fun _ _ _ => True)) (meets_of_forall (fun _ _ _ => trivial) _ _) hrun
    · intro order hrow hgiven hne
      have hstep := @orderReport_step cfg tradeNo call faults db
      rw [hrun] at hstep
      apply hstep.eq_of_not_accepts hrow
      rintro (hunset | hsame)
      · exact hgiven hunset
      · exact hne hsame.symm
  · intro userId planId limit hpos calls hlimit
    have hrun : WithinLimit userId planId limit db (afterReports cfg calls db) := by
      apply afterReports_induction _ ⟨rfl, le_max_left _ _⟩
      intro c hc x y hx hstep
      exact hx.step hpos (hlimit c hc) hstep
    exact hrun.purchases_le

/-- A pending order of the plan `1`, which can be bought once. -/
def orderedPlan : DB where
  users := Table.empty.insert 1 { quota := 100 }
  plans := Table.empty.insert 1 { title := "monthly", maxPurchasePerUser := 1 }
  subscriptionOrders := Table.empty.insert "sub-1"
    { userId := 1, planId := 1, money := 10, paymentMethod := "card", paymentProvider := .stripe, status := .pending }

/-- A report of another provider, an expiry that cannot be saved, and a payment reported twice. -/
def orderReports : List (OrderReport × Faults) :=
  [(.complete { now := 5 } "" .creem "", []), (.expire { now := 6 } .stripe, [[none, none, some "deadlock"]]),
    (.complete { now := 7 } "" .stripe "", []), (.complete { now := 8 } "" .stripe "", [])]

theorem subscriptionOrder_lifecycle_paid :
    OrderOutcome "sub-1" ⟨1, 1, 10, "card", .stripe, .pending, zeroTime, none, ""⟩ orderedPlan
      (afterReports {} (orderReports.map fun c => ("sub-1", c)) orderedPlan) ∧
    (((OrderReport.complete { now := 5 } "" .creem "").run {} "sub-1").run.eval server [] [] orderedPlan).2 =
      orderedPlan ∧
    purchases (afterReports {} (orderReports.map fun c => ("sub-1", c)) orderedPlan) 1 1 = 1 := by
  obtain ⟨hlife, hkept, hlimit⟩ := subscriptionOrder_lifecycle {} orderedPlan
  refine ⟨hlife _ _ rfl orderReports, ?_, ?_⟩
  · exact (hkept "sub-1" (.complete { now := 5 } "" .creem "") [] _ _ rfl).2 _ rfl (by decide) (by decide)
  · have hle := hlimit 1 1 1 (by decide) (orderReports.map fun c => ("sub-1", c)) (by
      intro c hc plan hplan
      simp only [orderReports, map_cons, map_nil, mem_cons, not_mem_nil, or_false] at hc
      rcases hc with rfl | rfl | rfl | rfl <;> cases hplan <;> rfl)
    have hone : 1 ≤ purchases (afterReports {} (orderReports.map fun c => ("sub-1", c)) orderedPlan) 1 1 := by
      decide
    have hzero : purchases orderedPlan 1 1 = 0 := rfl
    omega

/-- A report that names no provider completes an order of Stripe. -/
theorem subscriptionOrder_completed_for_unset :
    (OrderReport.complete { now := 5 } "" .unset "").expectedPaymentProvider ≠ PaymentProvider.stripe ∧
    (orderedPlan.subscriptionOrders.row "sub-1").map (fun o => (o.paymentProvider, o.status)) =
      some (.stripe, .pending) ∧
    ((((OrderReport.complete { now := 5 } "" .unset "").run {} "sub-1").run.eval server [] [] orderedPlan).2
      |>.subscriptionOrders.row "sub-1").map (fun o => (o.paymentProvider, o.status)) =
      some (.stripe, .success) := ⟨by decide, rfl, rfl⟩

end LoveApi.Proofs
