import LoveApi.TopUp
import LoveApi.Proofs.Quota

/-!
# Top-up orders

Every way out of `pending` compares the status first, so at most one call on an order changes it.
-/

namespace LoveApi.Proofs

open Program Prog List Option

variable {φs : Faults}

/-! ### Calls on an order -/

/-- A call that completes or ends an order. -/
inductive TopUpCall
  | recharge (customerId : String)
  | rechargeCreem (customerEmail : String)
  | rechargeWaffo
  | rechargeWaffoPancake
  | manualCompleteTopUp
  | updatePendingTopUpStatus (expected : PaymentProvider) (target : TopUpStatus)
  | epayNotify (type : String) (verifyStatus tradeSuccess : Bool)
deriving DecidableEq, Repr

namespace TopUpCall

variable (cfg : Config) (rounding : Rounding)

def run (now : Go.Time) (tradeNo : String) : TopUpCall → Action Unit
  | recharge customerId => LoveApi.recharge cfg rounding now tradeNo customerId
  | rechargeCreem customerEmail => LoveApi.rechargeCreem now tradeNo customerEmail
  | rechargeWaffo => LoveApi.rechargeWaffo cfg now tradeNo
  | rechargeWaffoPancake => LoveApi.rechargeWaffoPancake cfg now tradeNo
  | manualCompleteTopUp => LoveApi.manualCompleteTopUp cfg now tradeNo
  | updatePendingTopUpStatus expected target =>
    LoveApi.updatePendingTopUpStatus tradeNo expected target
  | epayNotify type verifyStatus tradeSuccess => do
    let _ ← LoveApi.epayNotify cfg (some ⟨tradeNo, type, verifyStatus, tradeSuccess⟩)

/-- The provider that a call speaks for. An administrator speaks for none. -/
def provider : TopUpCall → Option PaymentProvider
  | recharge _ => some .stripe
  | rechargeCreem _ => some .creem
  | rechargeWaffo => some .waffo
  | rechargeWaffoPancake => some .waffoPancake
  | manualCompleteTopUp => none
  | updatePendingTopUpStatus expected _ => if expected = .unset then none else some expected
  | epayNotify .. => some .epay

def credit (topUp : TopUp) : TopUpCall → Int
  | recharge _ => rounding.round (topUp.money * cfg.quotaPerUnit)
  | rechargeCreem _ => topUp.amount
  | rechargeWaffo | rechargeWaffoPancake | epayNotify .. => amountQuota cfg topUp
  | manualCompleteTopUp => manualQuota cfg topUp
  | updatePendingTopUpStatus .. => 0

end TopUpCall

def orderStatus (tradeNo : String) (db : DB) : Option TopUpStatus :=
  (db.topUps.row tradeNo).map TopUp.status

/-- Neither the status of the order nor any balance differs. -/
def Untouched (tradeNo : String) (x y : DB) : Prop :=
  orderStatus tradeNo y = orderStatus tradeNo x ∧ ∀ id, userQuota id y = userQuota id x

def Credited (cfg : Config) (rounding : Rounding) (c : TopUpCall) (topUp : TopUp) (x y : DB) : Prop :=
  ∀ id, userQuota id y =
    (userQuota id x).map fun q => if id = topUp.userId then q + c.credit cfg rounding topUp else q

/-- A call of the order's own provider takes the order out of `pending`; if it credits the
user, the order is paid. -/
def LeavesPending (cfg : Config) (rounding : Rounding) (tradeNo : String) (c : TopUpCall) (x y : DB) :
    Prop :=
  ∃ topUp s, x.topUps.row tradeNo = some topUp ∧ topUp.status = .pending ∧
    (∀ p, c.provider = some p → topUp.paymentProvider = p) ∧
    orderStatus tradeNo y = some s ∧ s ≠ .pending ∧
    ((∀ id, userQuota id y = userQuota id x) ∨ s = .success ∧ Credited cfg rounding c topUp x y)

section Calls

variable {cfg : Config} {rounding : Rounding} {now : Go.Time} {tradeNo : String} {c : TopUpCall}
  {x y : DB} {topUp : TopUp}
variable {t : TopUp} {A : Stmt → Option String → DB → Prop} {stripeCustomer email : Option String} {z db : DB}
  {body : Query Unit} {ds : List Delivery} {k : Nat}

lemma Untouched.refl (tradeNo : String) (x : DB) : Untouched tradeNo x x := ⟨rfl, fun _ => rfl⟩

lemma userQuota_update (id uid : Int) (f : User → User) {g : Int → Int} (hf : ∀ u, (f u).quota = g u.quota)
    (hy : y.users = x.users.update uid f) :
    userQuota id y = (userQuota id x).map fun q => if id = uid then g q else q := by
  unfold userQuota
  rw [hy, Table.row_update]
  by_cases h : id = uid
  · subst h
    cases x.users.row id <;> simp [hf]
  · cases x.users.row id <;> simp [h]

variable (hrow : x.topUps.row tradeNo = some topUp)

include hrow

lemma orderStatus_save
    (hy : y.topUps = x.topUps.update tradeNo fun _ => t) : orderStatus tradeNo y = some t.status := by
  unfold orderStatus
  rw [hy, Table.row_update_self, hrow]
  rfl

variable (hc : ∀ p, c.provider = some p → topUp.paymentProvider = p)

include hc

variable (hp : topUp.status = .pending)

include hp

lemma leavesPending_save (ht : t.status ≠ .pending)
    (hy : y.topUps = x.topUps.update tradeNo fun _ => t) (hu : y.users = x.users) :
    LeavesPending cfg rounding tradeNo c x y := by
  refine ⟨topUp, t.status, hrow, hp, hc, orderStatus_save hrow hy, ht, .inl fun id => ?_⟩
  unfold userQuota
  rw [hu]

lemma leavesPending_complete (ht : t.status = .success)
    (hy : y.topUps = x.topUps.update tradeNo fun _ => t) {f : User → User}
    (hu : y.users = x.users.update topUp.userId f)
    (hf : ∀ u, (f u).quota = u.quota + c.credit cfg rounding topUp) :
    LeavesPending cfg rounding tradeNo c x y := by
  refine ⟨topUp, t.status, hrow, hp, hc, orderStatus_save hrow hy, by simp [ht], .inr ⟨ht, fun id => ?_⟩⟩
  exact userQuota_update id topUp.userId f hf hu

/-! ### The transactions -/

def OrderStep (cfg : Config) (rounding : Rounding) (tradeNo : String) (c : TopUpCall) (x y : DB) : Prop :=
  Untouched tradeNo x y ∨ LeavesPending cfg rounding tradeNo c x y

/-- The ways in which a transaction of the call `c` on an order commits. -/
inductive OrderTx (cfg : Config) (rounding : Rounding) (tradeNo : String) (c : TopUpCall) (x : DB) : DB → Prop
  | idle : OrderTx cfg rounding tradeNo c x x
  | save {y : DB} {topUp t : TopUp} (hrow : x.topUps.row tradeNo = some topUp) (hp : topUp.status = .pending)
      (hc : ∀ p, c.provider = some p → topUp.paymentProvider = p)
      (hy : y.topUps = x.topUps.update tradeNo fun _ => t) (hu : y.users = x.users)
      (hsame : t.amount = topUp.amount ∧ t.money = topUp.money) : OrderTx cfg rounding tradeNo c x y
  | credit {y : DB} {topUp t : TopUp} {f : User → User} (hrow : x.topUps.row tradeNo = some topUp)
      (hp : topUp.status = .pending) (hc : ∀ p, c.provider = some p → topUp.paymentProvider = p)
      (hq : 0 ≤ topUp.amount → 0 ≤ topUp.money → 0 ≤ cfg.quotaPerUnit → 0 ≤ c.credit cfg rounding topUp)
      (hy : y.topUps = x.topUps.update tradeNo fun _ => t) (hu : y.users = x.users.update topUp.userId f)
      (hf : ∀ u, (f u).quota = u.quota + c.credit cfg rounding topUp) (ht : t.status = .success)
      (hsame : t.amount = topUp.amount ∧ t.money = topUp.money) : OrderTx cfg rounding tradeNo c x y

/-- A transaction with this body commits in one of these ways. -/
abbrev Commits (cfg : Config) (rounding : Rounding) (tradeNo : String) (c : TopUpCall)
    (A : Stmt → Option String → DB → Prop) (body : Query Unit) (x : DB) : Prop :=
  wpE database A body (fun _ y => OrderTx cfg rounding tradeNo c x y) (fun _ _ => True) x

variable (hq : 0 ≤ topUp.amount → 0 ≤ topUp.money → 0 ≤ cfg.quotaPerUnit → 0 ≤ c.credit cfg rounding topUp)

include hq

lemma wpE_creditUser (hz : z.topUps = x.topUps.update tradeNo fun _ => t) (hu : z.users = x.users)
    (ht : t.status = .success) (hsame : t.amount = topUp.amount ∧ t.money = topUp.money) :
    wpE database A (query (.creditUser topUp.userId (c.credit cfg rounding topUp) stripeCustomer email))
      (fun _ y => OrderTx cfg rounding tradeNo c x y) (fun _ _ => True) z := by
  refine wpE_query_ok rfl ?_ fun _ => trivial
  have husers := congrArg (·.update topUp.userId fun u : User => { u with
    quota := u.quota + c.credit cfg rounding topUp
    stripeCustomer := stripeCustomer.getD u.stripeCustomer
    email := email.getD u.email }) hu
  exact .credit hrow hp hc hq hz husers (fun _ => rfl) ht hsame

lemma commits_completeTopUp : Commits cfg rounding tradeNo c A
    (completeTopUp now tradeNo topUp (c.credit cfg rounding topUp) stripeCustomer email) x := by
  refine (wpE_bind ..).mpr (wpE_query_ok rfl ?_ fun _ => trivial)
  exact wpE_creditUser hrow hc hp hq rfl rfl rfl ⟨rfl, rfl⟩

omit hq hp hc hrow

lemma OrderTx.orderStep (h : OrderTx cfg rounding tradeNo c x y) : OrderStep cfg rounding tradeNo c x y := by
  cases h with
  | idle => exact .inl (.refl _ _)
  | @save _ _ t hrow hp hc hy hu _ =>
    by_cases ht : t.status = .pending
    · refine .inl ⟨?_, fun _ => by unfold userQuota; rw [hu]⟩
      rw [orderStatus_save hrow hy, orderStatus, hrow, map_some, hp, ht]
    · exact .inr (leavesPending_save hrow hc hp ht hy hu)
  | credit hrow hp hc _ hy hu hf ht _ => exact .inr (leavesPending_complete hrow hc hp ht hy hu hf)

lemma wpE_findTopUp {e : String} {Q : TopUp → DB → Prop}
    (hQ : ∀ topUp, x.topUps.row tradeNo = some topUp → Q topUp x) :
    wpE database A (findTopUp tradeNo e) Q (fun _ _ => True) x := by
  unfold findTopUp
  rw [wpE_mapError]
  exact wpE_query_first rfl hQ fun _ => trivial

lemma commits_rechargeTx {customerId : String} : Commits cfg rounding tradeNo (.recharge customerId) A
    (rechargeTx cfg rounding now tradeNo customerId) x := by
  refine (wpE_bind ..).mpr (wpE_findTopUp fun topUp hrow => ?_)
  split
  · trivial
  next hprov =>
  split
  · trivial
  next hp =>
  refine commits_completeTopUp (c := .recharge customerId) hrow (fun p hpr => ?_) (not_not.mp hp) ?_
  · exact (not_not.mp hprov).trans (some.inj hpr)
  · exact fun _ hmoney hunit => rounding.round_nonneg _ (mul_nonneg hmoney hunit)

lemma commits_rechargeCreemTx {customerEmail : String} : Commits cfg rounding tradeNo (.rechargeCreem customerEmail) A
    (rechargeCreemTx now tradeNo customerEmail) x := by
  refine (wpE_bind ..).mpr (wpE_findTopUp fun topUp hrow => ?_)
  split
  · trivial
  next hprov =>
  split
  · trivial
  next hp =>
  have hc : ∀ p, (TopUpCall.rechargeCreem customerEmail).provider = some p →
      topUp.paymentProvider = p := fun p hpr => (not_not.mp hprov).trans (some.inj hpr)
  refine (wpE_bind ..).mpr (wpE_query (fun _ y hs => ?_) fun _ => trivial)
  obtain ⟨-, rfl⟩ := Prod.mk.inj hs
  rw [wpE_bind]
  unfold newEmail
  split
  · exact wpE_creditUser hrow hc (not_not.mp hp) (fun h _ _ => h) rfl rfl rfl ⟨rfl, rfl⟩
  · refine (wpE_bind ..).mpr (wpE_query (fun user y hs => ?_) fun _ => trivial)
    obtain ⟨-, rfl⟩ := Prod.mk.inj hs
    exact wpE_creditUser hrow hc (not_not.mp hp) (fun h _ _ => h) rfl rfl rfl ⟨rfl, rfl⟩

lemma commits_rechargeWaffoTx {provider : PaymentProvider}
    (hc : c.provider = some provider) (hcredit : ∀ topUp, c.credit cfg rounding topUp = amountQuota cfg topUp) :
    Commits cfg rounding tradeNo c A (rechargeWaffoTx cfg now provider tradeNo) x := by
  refine (wpE_bind ..).mpr (wpE_findTopUp fun topUp hrow => ?_)
  split
  · trivial
  next hprov =>
  split
  · exact .idle
  split
  · trivial
  next hp =>
  split
  · trivial
  next hq =>
  rw [← hcredit topUp] at hq ⊢
  refine commits_completeTopUp hrow (fun p hpr => ?_) (not_not.mp hp) fun _ _ _ => (not_le.mp hq).le
  exact (not_not.mp hprov).trans (some.inj (hc.symm.trans hpr))

lemma commits_manualCompleteTx :
    Commits cfg rounding tradeNo .manualCompleteTopUp A (manualCompleteTx cfg now tradeNo) x := by
  refine (wpE_bind ..).mpr (wpE_findTopUp fun topUp hrow => ?_)
  split
  · exact .idle
  split
  · trivial
  next hp =>
  split
  · trivial
  · next hq =>
    exact commits_completeTopUp (c := .manualCompleteTopUp) hrow (by simp [TopUpCall.provider]) (not_not.mp hp)
      fun _ _ _ => (not_le.mp hq).le

lemma commits_updatePendingTx {expected : PaymentProvider} {target : TopUpStatus} :
    Commits cfg rounding tradeNo (.updatePendingTopUpStatus expected target) A
      (updatePendingTx tradeNo expected target) x := by
  refine (wpE_bind ..).mpr (wpE_findTopUp fun topUp hrow => ?_)
  split
  · trivial
  next hprov =>
  split
  · trivial
  next hp =>
  refine wpE_query_ok rfl (.save hrow (not_not.mp hp) (fun p hpr => ?_) rfl rfl ⟨rfl, rfl⟩) fun _ => trivial
  simp only [TopUpCall.provider] at hpr
  split at hpr
  · simp at hpr
  · next hne =>
    cases hpr
    exact not_not.mp fun h => hprov ⟨hne, h⟩

lemma ite_cases {P : Prop} [Decidable P] {motive : Action Unit → Prop} {e : String} {p : Action Unit}
    (hthrow : ∀ e, motive (throw e)) (hp : motive p) : motive (if P then throw e else p) := by
  split
  · exact hthrow e
  · exact hp

/-- A call that is no notification of Epay is turned away or is one transaction. -/
lemma TopUpCall.run_cases {motive : Action Unit → Prop} (hthrow : ∀ e, motive (throw e))
    (htx : ∀ body, (∀ x, Commits cfg rounding tradeNo c (fun _ _ _ => True) body x) →
      motive (transaction body) ∧ ∀ f, motive (Prog.mapError f (transaction body)))
    (hepay : ∀ type verifyStatus tradeSuccess, c = .epayNotify type verifyStatus tradeSuccess →
      motive (c.run cfg rounding now tradeNo)) : motive (c.run cfg rounding now tradeNo) := by
  cases c with
  | recharge customerId => exact ite_cases hthrow ((htx _ fun _ => commits_rechargeTx).2 _)
  | rechargeCreem customerEmail => exact ite_cases hthrow ((htx _ fun _ => commits_rechargeCreemTx).2 _)
  | rechargeWaffo | rechargeWaffoPancake =>
    exact ite_cases hthrow ((htx _ fun _ => commits_rechargeWaffoTx rfl fun _ => rfl).2 _)
  | manualCompleteTopUp => exact ite_cases hthrow (htx _ fun _ => commits_manualCompleteTx).1
  | updatePendingTopUpStatus expected target => exact ite_cases hthrow (htx _ fun _ => commits_updatePendingTx).1
  | epayNotify type verifyStatus tradeSuccess => exact hepay _ _ _ rfl

/-! ### The notification of Epay -/

section

/-- The outcomes of a notification: the order is looked up and saved. -/
def saves : Faults → Bool
  | find :: save :: _ => find.headD none = none && save.headD none = none
  | _ => false

/-- The credit that follows the save is executed and does not fail. -/
def credits : Faults → Bool
  | _ :: _ :: credit :: _ => credit.headD none = none
  | _ => false

def savedOrder (tradeNo type : String) (topUp : TopUp) (x : DB) : DB :=
  { x with topUps := x.topUps.update tradeNo fun _ =>
      { topUp with paymentMethod := type, status := .success } }

def creditedOrder (cfg : Config) (topUp : TopUp) (x : DB) : DB :=
  x.addUserQuota topUp.userId (amountQuota cfg topUp)

variable {v : VerifyRes}

lemma run_attempt_exec {s : Stmt} {f : Except String s.Res → Action Unit} {φ : List (Option String)} :
    Prog.run server (Prog.attempt (exec s) >>= f).run (φ :: φs) x =
      Prog.run server (f (server.exec φ (.stmt s) x).1).run φs (server.exec φ (.stmt s) x).2 := rfl

lemma run_increaseUserQuota {id n : Int} :
    (Prog.run server (do let _ ← Prog.attempt (increaseUserQuota cfg id n true) : Action Unit).run φs x).2 =
      if φs.head?.any (fun φ => φ.headD none = none) ∧ 0 ≤ n then x.addUserQuota id n else x := by
  unfold increaseUserQuota
  by_cases hn : n < 0
  · rw [if_pos hn, if_neg (by omega)]
    rfl
  · rw [if_neg hn]
    rcases φs with _ | ⟨φ, φs⟩
    · rfl
    -- after the update only the cache is refreshed
    have hrun (r : Except String Unit × DB) (hr : server.exec φ (.stmt (.increaseUserQuota id n none)) x = r) :
        (Prog.run server (do
          let _ ← Prog.attempt (do
            exec (.increaseUserQuota id n none)
            if true then syncUserQuotaCacheFromDB cfg id else pure ()) : Action Unit).run
          (φ :: φs) x).2 = r.2 := by
      refine Prog.run_of_issues (P := fun req => req = .stmt (.selectQuota id)) (K := (· = r.2)) ?_ ?_ ?_ φs
      · rintro _ rfl φ y rfl
        exact server_exec_read (fun _ => rfl) φ
      · refine Issues.bind_run (Issues.attempt ?_) fun _ => trivial
        cases (server.exec φ (.stmt (.increaseUserQuota id n none)) x).1 with
        | ok _ => exact issues_syncUserQuotaCacheFromDB rfl
        | error e => trivial
      · exact congrArg Prod.snd hr
    by_cases hφ : φ.headD none = none
    · exact (hrun _ (server_exec_ok hφ)).trans ((note_none _).trans (if_pos ⟨decide_eq_true hφ, by omega⟩).symm)
    · obtain ⟨e, he⟩ := server_exec_fault (.increaseUserQuota id n none) x rfl hφ
      exact (hrun _ he).trans (if_neg fun h => hφ (of_decide_eq_true h.1)).symm

lemma run_creditEpayOrder_idle (h : ∀ topUp, x.topUps.row v.serviceTradeNo = some topUp →
      topUp.paymentProvider = .epay → topUp.status ≠ .pending) (φs : Faults) :
    (Prog.run server (creditEpayOrder cfg v).run φs x).2 = x := by
  unfold creditEpayOrder
  rcases φs with _ | ⟨φ₀, φs⟩
  · rfl
  rw [run_attempt_exec]
  by_cases h₀ : φ₀.headD none = none
  · rw [server_exec_ok h₀]
    simp only [Stmt.step]
    rcases hrow : x.topUps.row v.serviceTradeNo with _ | topUp
    · rfl
    simp only [first]
    by_cases hp : topUp.paymentProvider = .epay
    · rw [if_neg (not_not.mpr hp), if_pos (h topUp hrow hp)]
      rfl
    · rw [if_pos hp]
      rfl
  · obtain ⟨e, he⟩ := server_exec_fault (.selectTopUp v.serviceTradeNo) x rfl h₀
    rw [he]
    rfl

lemma run_creditEpayOrder (hrow : x.topUps.row v.serviceTradeNo = some topUp)
    (hprov : topUp.paymentProvider = .epay) (hp : topUp.status = .pending) (φs : Faults) :
    (Prog.run server (creditEpayOrder cfg v).run φs x).2 =
      if saves φs then
        if credits φs ∧ 0 ≤ amountQuota cfg topUp then
          creditedOrder cfg topUp (savedOrder v.serviceTradeNo v.type topUp x)
        else savedOrder v.serviceTradeNo v.type topUp x
      else x := by
  unfold creditEpayOrder
  rcases φs with _ | ⟨φ₀, φs⟩
  · rfl
  rw [run_attempt_exec]
  by_cases h₀ : φ₀.headD none = none
  · rw [server_exec_ok h₀]
    simp only [Stmt.step, hrow, first]
    rw [if_neg (not_not.mpr hprov), if_neg (not_not.mpr hp)]
    rcases φs with _ | ⟨φ₁, φs⟩
    · rfl
    rw [run_attempt_exec]
    by_cases h₁ : φ₁.headD none = none
    · rw [server_exec_ok h₁, if_pos (by simp only [saves, h₀, h₁, decide_true, Bool.and_self])]
      refine (run_increaseUserQuota).trans ?_
      cases φs <;> rfl
    · obtain ⟨e, he⟩ := server_exec_fault (.saveTopUp v.serviceTradeNo
        { topUp with paymentMethod := v.type, status := .success }) x rfl h₁
      rw [he, if_neg (by simp only [saves, h₁, decide_false, Bool.and_false, Bool.false_eq_true, not_false_eq_true])]
      rfl
  · obtain ⟨e, he⟩ := server_exec_fault (.selectTopUp v.serviceTradeNo) x rfl h₀
    rw [he, if_neg (by cases φs <;> simp only [saves, h₀, decide_false, Bool.false_and, Bool.false_eq_true,
      not_false_eq_true])]
    rfl

end

/-! ### Sequences of calls -/

/-- A call with its time and its faults. -/
structure Delivery where
  call : TopUpCall
  now : Go.Time := 0
  outcomes : Faults

def deliver (cfg : Config) (rounding : Rounding) (tradeNo : String) (x : DB) (d : Delivery) : DB :=
  (Prog.run server (d.call.run cfg rounding d.now tradeNo).run d.outcomes x).2

/-- The database before delivery `k`. -/
def stateBefore (cfg : Config) (rounding : Rounding) (tradeNo : String) (db : DB) (ds : List Delivery)
    (k : Nat) : DB :=
  (ds.take k).foldl (deliver cfg rounding tradeNo) db

lemma orderStep_transaction (h : Commits cfg rounding tradeNo c (fun _ _ _ => True) body x) :
    OrderStep cfg rounding tradeNo c x (Prog.run server (transaction body).run φs x).2 := by
  rcases φs with _ | ⟨φ, φs⟩
  · exact .inl (.refl _ _)
  · exact (exec_transaction .idle h φ).orderStep

lemma orderStep_epayNotify {type : String} {verifyStatus tradeSuccess : Bool} :
    OrderStep cfg rounding tradeNo (.epayNotify type verifyStatus tradeSuccess) x
      (Prog.run server (creditEpayOrder cfg ⟨tradeNo, type, verifyStatus, tradeSuccess⟩).run φs x).2 := by
  by_cases h : ∃ topUp, x.topUps.row tradeNo = some topUp ∧ topUp.paymentProvider = .epay ∧ topUp.status = .pending
  · obtain ⟨topUp, hrow, hprov, hp⟩ := h
    have hc : ∀ p, (TopUpCall.epayNotify type verifyStatus tradeSuccess).provider = some p →
        topUp.paymentProvider = p := fun p hpr => hprov.trans (some.inj hpr)
    rw [run_creditEpayOrder hrow hprov hp]
    split
    · split
      · exact .inr (leavesPending_complete hrow hc hp rfl rfl rfl fun _ => rfl)
      · exact .inr (leavesPending_save hrow hc hp (by simp) rfl rfl)
    · exact .inl (.refl _ _)
  · rw [run_creditEpayOrder_idle fun topUp hrow hprov hp => h ⟨topUp, hrow, hprov, hp⟩]
    exact .inl (.refl _ _)

lemma deliver_epayNotify (type : String) (verifyStatus tradeSuccess : Bool) (now : Go.Time) (φs : Faults) :
    deliver cfg rounding tradeNo x ⟨.epayNotify type verifyStatus tradeSuccess, now, φs⟩ =
      if verifyStatus && tradeSuccess then
        (Prog.run server (creditEpayOrder cfg ⟨tradeNo, type, verifyStatus, tradeSuccess⟩).run φs x).2
      else x := by
  simp only [deliver, TopUpCall.run, epayNotify]
  cases verifyStatus with
  | false => rfl
  | true =>
    cases tradeSuccess with
    | false => rfl
    | true =>
      simp only [Bool.not_true, Bool.false_eq_true, if_false, Bool.and_self, if_true]
      rw [ExceptT.run_bind, Prog.run_bind_ret (by rintro (_ | _) <;> exact ⟨_, rfl⟩), ExceptT.run_bind,
        Prog.run_bind_ret (by rintro (_ | _) <;> exact ⟨_, rfl⟩)]

lemma orderStep_deliver {d : Delivery} :
    OrderStep cfg rounding tradeNo d.call x (deliver cfg rounding tradeNo x d) := by
  obtain ⟨call, now, φs⟩ := d
  refine TopUpCall.run_cases (motive := fun p => OrderStep cfg rounding tradeNo call x (Prog.run server p.run φs x).2)
    (fun _ => .inl (.refl _ _)) (fun body h => ⟨orderStep_transaction (h x), fun f => ?_⟩) ?_
  · unfold Prog.mapError
    rw [ExceptT.run_mk, Prog.run_bind_ret fun _ => ⟨_, rfl⟩]
    exact orderStep_transaction (h x)
  · rintro type verifyStatus tradeSuccess rfl
    show OrderStep _ _ _ _ _ (deliver cfg rounding tradeNo x ⟨_, now, φs⟩)
    rw [deliver_epayNotify]
    split
    · exact orderStep_epayNotify
    · exact .inl (.refl _ _)

lemma stateBefore_succ {d : Delivery} (h : ds[k]? = some d) : stateBefore cfg rounding tradeNo db ds (k + 1) =
      deliver cfg rounding tradeNo (stateBefore cfg rounding tradeNo db ds k) d := by
  unfold stateBefore
  rw [take_add_one, h, toList_some, foldl_concat]

lemma stateBefore_end (h : ds[k]? = none) :
    stateBefore cfg rounding tradeNo db ds (k + 1) = stateBefore cfg rounding tradeNo db ds k := by
  unfold stateBefore
  rw [take_add_one, h, toList_none, append_nil]

lemma Untouched.trans (h : Untouched tradeNo x y) (h' : Untouched tradeNo y z) : Untouched tradeNo x z :=
  ⟨h'.1.trans h.1, fun id => (h'.2 id).trans (h.2 id)⟩

lemma LeavesPending.orderStatus_pre (h : LeavesPending cfg rounding tradeNo c x y) :
    orderStatus tradeNo x = some .pending := by
  obtain ⟨topUp, s, hrow, hp, -⟩ := h
  rw [orderStatus, hrow, map_some, hp]

lemma untouched_of_not_pending
    (h : orderStatus tradeNo (stateBefore cfg rounding tradeNo db ds k) ≠ some .pending) (n : Nat) :
    Untouched tradeNo (stateBefore cfg rounding tradeNo db ds k)
      (stateBefore cfg rounding tradeNo db ds (k + n)) := by
  induction n with
  | zero => exact .refl _ _
  | succ n ih =>
    refine ih.trans ?_
    rcases hd : ds[k + n]? with _ | d
    · rw [← Nat.add_assoc, stateBefore_end hd]
      exact .refl _ _
    · rw [← Nat.add_assoc, stateBefore_succ hd]
      exact orderStep_deliver.resolve_right fun hl => absurd hl.orderStatus_pre (by rwa [ih.1])

lemma not_leavesPending_of_lt {c' : TopUpCall} {i : Nat} (hik : i < k)
    (hi : LeavesPending cfg rounding tradeNo c (stateBefore cfg rounding tradeNo db ds i)
      (stateBefore cfg rounding tradeNo db ds (i + 1))) :
    ¬LeavesPending cfg rounding tradeNo c' (stateBefore cfg rounding tradeNo db ds k)
      (stateBefore cfg rounding tradeNo db ds (k + 1)) := by
  intro hk
  obtain ⟨topUp, s, -, -, -, hs, hne, -⟩ := hi
  have hnp : orderStatus tradeNo (stateBefore cfg rounding tradeNo db ds (i + 1)) ≠ some .pending := by
    rw [hs]
    exact fun h => hne (some.inj h)
  have hsame := untouched_of_not_pending hnp (k - (i + 1))
  rw [Nat.add_sub_cancel' hik] at hsame
  exact hnp (hsame.1.symm.trans hk.orderStatus_pre)

/-- In a sequence of calls on one order, each complete or cut off, at most one call changes the
order or a balance. That call takes the order out of `pending`, speaks for the provider of
the order and credits no one but its user. Nothing changes once the order is not pending any
more, and a call for another provider changes nothing. -/
theorem topUp_leaves_pending_once (cfg : Config) (rounding : Rounding) (tradeNo : String) (db : DB)
    (ds : List Delivery) :
    let state := stateBefore cfg rounding tradeNo db ds
    ((∀ k, Untouched tradeNo (state k) (state (k + 1))) ∨
      ∃ i d, ds[i]? = some d ∧ LeavesPending cfg rounding tradeNo d.call (state i) (state (i + 1)) ∧
        ∀ k, k ≠ i → Untouched tradeNo (state k) (state (k + 1))) ∧
    (∀ k n, orderStatus tradeNo (state k) ≠ some .pending → Untouched tradeNo (state k) (state (k + n))) ∧
    ∀ k d topUp p, ds[k]? = some d → d.call.provider = some p →
      (state k).topUps.row tradeNo = some topUp → topUp.paymentProvider ≠ p →
      Untouched tradeNo (state k) (state (k + 1)) := by
  intro state
  have hstep : ∀ k d, ds[k]? = some d → OrderStep cfg rounding tradeNo d.call (state k) (state (k + 1)) := by
    intro k d hd
    rw [show state (k + 1) = _ from stateBefore_succ hd]
    exact orderStep_deliver
  have hend : ∀ k, ds[k]? = none → Untouched tradeNo (state k) (state (k + 1)) := by
    intro k hd
    rw [show state (k + 1) = _ from stateBefore_end hd]
    exact .refl _ _
  refine ⟨?_, fun k n h => untouched_of_not_pending h n, fun k d topUp p hd hp hrow hne => ?_⟩
  · by_cases hl : ∃ i d, ds[i]? = some d ∧ LeavesPending cfg rounding tradeNo d.call (state i) (state (i + 1))
    · obtain ⟨i, d, hd, hi⟩ := hl
      refine .inr ⟨i, d, hd, hi, fun k hk => ?_⟩
      rcases hdk : ds[k]? with _ | e
      · exact hend k hdk
      rcases hstep k e hdk with hu | hle
      · exact hu
      · rcases Nat.lt_or_gt_of_ne hk with hlt | hgt
        · exact absurd hi (not_leavesPending_of_lt hlt hle)
        · exact absurd hle (not_leavesPending_of_lt hgt hi)
    · refine .inl fun k => ?_
      rcases hdk : ds[k]? with _ | e
      · exact hend k hdk
      · exact (hstep k e hdk).resolve_right fun hle => hl ⟨k, e, hdk, hle⟩
  · refine (hstep k d hd).resolve_right ?_
    rintro ⟨topUp', s, hrow', -, hprov, -⟩
    obtain rfl : topUp = topUp' := some.inj (hrow.symm.trans hrow')
    exact hne (hprov p hp)

end Calls

def epayOrder : TopUp where
  userId := 1
  amount := 10
  money := 73
  paymentMethod := "alipay"
  paymentProvider := .epay
  status := .pending

def orderedTopUp : DB where
  users := Table.empty.insert 1 { quota := 100 }
  topUps := Table.empty.insert "T1" epayOrder

theorem topUp_expired_then_notified :
    let state := stateBefore {} {} "T1" orderedTopUp
      [⟨.updatePendingTopUpStatus .epay .expired, 0, [[]]⟩, ⟨.epayNotify "alipay" true true, 0, [[], [], []]⟩]
    orderStatus "T1" (state 1) = some .expired ∧ Untouched "T1" (state 1) (state (1 + 1)) :=
  ⟨rfl, (topUp_leaves_pending_once {} {} "T1" orderedTopUp _).2.1 1 1 (by decide)⟩

end LoveApi.Proofs
