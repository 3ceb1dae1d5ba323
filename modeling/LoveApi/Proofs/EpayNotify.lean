import LoveApi.Proofs.TopUp

/-!
# Redelivered notifications of Epay

The notification saves the order before it credits the user. Where the credit does not follow, no later notification
repairs it.
-/

namespace LoveApi.Proofs

open Program List Option

/-- A delivery of a notification. -/
structure Notification where
  type : String := ""
  verifyStatus : Bool := true
  tradeSuccess : Bool := true
  outcomes : Faults

namespace Notification

def delivery (n : Notification) : Delivery where
  call := .epayNotify n.type n.verifyStatus n.tradeSuccess
  outcomes := n.outcomes

/-- The notification is a verified payment, and gets past the save of a pending order. -/
def saves (n : Notification) : Bool := n.verifyStatus && n.tradeSuccess && Proofs.saves n.outcomes

def credits (n : Notification) : Bool := Proofs.credits n.outcomes

end Notification

/-- The database after the deliveries. -/
def afterNotifications (cfg : Config) (rounding : Rounding) (tradeNo : String) (db : DB)
    (ns : List Notification) : DB :=
  (ns.map Notification.delivery).foldl (deliver cfg rounding tradeNo) db

section Notifications

variable {cfg : Config} {rounding : Rounding} {tradeNo : String} {db : DB} {topUp : TopUp}

lemma deliver_notification {n : Notification} : deliver cfg rounding tradeNo db n.delivery =
      if n.verifyStatus && n.tradeSuccess then
        (Prog.run server (creditEpayOrder cfg ⟨tradeNo, n.type, n.verifyStatus, n.tradeSuccess⟩).run n.outcomes db).2
      else db :=
  deliver_epayNotify ..

lemma deliver_notification_idle (h : orderStatus tradeNo db ≠ some .pending) {n : Notification} :
    deliver cfg rounding tradeNo db n.delivery = db := by
  rw [deliver_notification]
  split
  · refine run_creditEpayOrder_idle (fun topUp hrow _ hp => h ?_) _
    rw [orderStatus, hrow, map_some, hp]
  · rfl

lemma afterNotifications_idle (h : orderStatus tradeNo db ≠ some .pending) {ns : List Notification} :
    afterNotifications cfg rounding tradeNo db ns = db := by
  induction ns with
  | nil => rfl
  | cons n ns ih =>
    unfold afterNotifications at ih ⊢
    rw [map_cons, foldl_cons, deliver_notification_idle h, ih]

lemma deliver_notification_pending (hrow : db.topUps.row tradeNo = some topUp)
    (hprov : topUp.paymentProvider = .epay) (hp : topUp.status = .pending)
    (hq : 0 ≤ amountQuota cfg topUp) {n : Notification} :
    deliver cfg rounding tradeNo db n.delivery =
      if n.saves then
        if n.credits then creditedOrder cfg topUp (savedOrder tradeNo n.type topUp db)
        else savedOrder tradeNo n.type topUp db
      else db := by
  rw [deliver_notification]
  unfold Notification.saves Notification.credits
  by_cases hv : (n.verifyStatus && n.tradeSuccess) = true
  · rw [if_pos hv, hv, Bool.true_and]
    exact (run_creditEpayOrder hrow hprov hp n.outcomes).trans (by simp only [hq, and_true])
  · rw [if_neg hv, Bool.eq_false_iff.mpr hv, Bool.false_and, if_neg Bool.false_ne_true]

/-- After any sequence of notifications of a pending Epay order, "the order is paid if and
only if its user was credited" holds exactly if the first notification that gets past the
save of the order also executes the credit, and the credit succeeds. -/
theorem epayOrder_paid_iff_credited {q₀ : Int} (hrow : db.topUps.row tradeNo = some topUp)
    (hprov : topUp.paymentProvider = .epay) (hp : topUp.status = .pending)
    (hq : 0 < amountQuota cfg topUp) (hu : userQuota topUp.userId db = some q₀) (ns : List Notification) :
    let y := afterNotifications cfg rounding tradeNo db ns
    (orderStatus tradeNo y = some .success ↔ userQuota topUp.userId y = some (q₀ + amountQuota cfg topUp)) ↔
      ∀ n ∈ ns.find? Notification.saves, n.credits := by
  induction ns with
  | nil =>
    have hstatus : orderStatus tradeNo db = some .pending := by rw [orderStatus, hrow, map_some, hp]
    simp only [afterNotifications, map_nil, foldl_nil, hstatus, hu, find?_nil]
    simp only [some.injEq, reduceCtorEq, false_iff, mem_def, false_implies, implies_true, iff_true]
    omega
  | cons n ns ih =>
    have hcons : afterNotifications cfg rounding tradeNo db (n :: ns) =
        afterNotifications cfg rounding tradeNo (deliver cfg rounding tradeNo db n.delivery) ns := rfl
    rw [hcons, deliver_notification_pending hrow hprov hp hq.le]
    by_cases hs : n.saves = true
    · rw [if_pos hs, find?_cons_of_pos hs]
      have hsaved : orderStatus tradeNo (savedOrder tradeNo n.type topUp db) = some .success :=
        orderStatus_save (t := { topUp with paymentMethod := n.type, status := .success }) hrow rfl
      by_cases hc : n.credits = true
      · -- paid and credited
        have hpaid : orderStatus tradeNo (creditedOrder cfg topUp (savedOrder tradeNo n.type topUp db)) =
          some .success := hsaved
        have hcredited : userQuota topUp.userId (creditedOrder cfg topUp (savedOrder tradeNo n.type topUp db)) =
              some (q₀ + amountQuota cfg topUp) := by
          rw [creditedOrder, userQuota_addUserQuota,
            show userQuota topUp.userId (savedOrder tradeNo n.type topUp db) = some q₀ from hu]
          rfl
        rw [if_pos hc, afterNotifications_idle (by rw [hpaid]; simp)]
        simp only [hpaid, hcredited, mem_def, some.injEq, forall_eq', hc]
      · -- paid, but not credited
        rw [if_neg hc, afterNotifications_idle (by rw [hsaved]; simp)]
        have hu' : userQuota topUp.userId (savedOrder tradeNo n.type topUp db) = some q₀ := hu
        simp only [hsaved, hu', true_iff, some.injEq, mem_def, forall_eq', hc, Bool.false_eq_true, iff_false]
        omega
    · rw [if_neg hs, find?_cons_of_neg hs]
      exact ih

lemma amountQuota_epayOrder : 0 < amountQuota {} epayOrder := by
  norm_num [amountQuota, epayOrder, Go.int]

theorem epayOrder_paid_twice_notified : orderStatus "T1" (afterNotifications {} {} "T1" orderedTopUp
        [⟨"alipay", true, true, [[], [], []]⟩, ⟨"alipay", true, true, [[], [], []]⟩]) = some .success ↔
      userQuota 1 (afterNotifications {} {} "T1" orderedTopUp
        [⟨"alipay", true, true, [[], [], []]⟩, ⟨"alipay", true, true, [[], [], []]⟩]) =
        some (100 + amountQuota {} epayOrder) := by
  have hrow : orderedTopUp.topUps.row "T1" = some epayOrder := rfl
  refine (epayOrder_paid_iff_credited hrow rfl rfl amountQuota_epayOrder rfl _).mpr fun n hn => ?_
  cases hn
  rfl

/-- The process stops between the save of the order and the credit. The order counts as paid,
its user has got nothing, and the notification that is delivered again changes nothing. -/
theorem epayOrder_paid_never_credited :
    let y := afterNotifications {} {} "T1" orderedTopUp
      [⟨"alipay", true, true, [[], []]⟩, ⟨"alipay", true, true, [[], [], []]⟩]
    orderStatus "T1" y = some .success ∧ userQuota 1 y = some 100 ∧ 0 < amountQuota {} epayOrder := by
  have hrow : orderedTopUp.topUps.row "T1" = some epayOrder := rfl
  have hy : afterNotifications {} {} "T1" orderedTopUp
      [⟨"alipay", true, true, [[], []]⟩, ⟨"alipay", true, true, [[], [], []]⟩] =
        savedOrder "T1" "alipay" epayOrder orderedTopUp := by
    show afterNotifications {} {} "T1" (deliver {} {} "T1" orderedTopUp
      (Notification.delivery ⟨"alipay", true, true, [[], []]⟩)) _ = _
    rw [deliver_notification_pending hrow rfl rfl amountQuota_epayOrder.le, if_pos (by decide),
      if_neg (by decide), afterNotifications_idle (by decide)]
  intro y
  rw [show y = _ from hy]
  exact ⟨rfl, rfl, amountQuota_epayOrder⟩

end Notifications

end LoveApi.Proofs
