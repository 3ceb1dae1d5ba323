import LoveApi.Program.Truncation
import LoveApi.Proofs.TopUp

/-!
# What a top-up order is worth

The provider of an order and an administrator read its amount and its money in their own ways.
-/

namespace LoveApi.Proofs

open Program Prog Go

variable {n : Int} {c : TopUpCall}

variable {x y db : DB} {cfg : Config} {now : Go.Time} {tradeNo : String} {order : TopUp} {unit : ℚ}

def Gets (id n : Int) (x y : DB) : Prop := userQuota id y = (userQuota id x).map (· + n)

section Gets

variable {id m : Int} {z : DB}

lemma gets_zero (h : y.users = x.users) : Gets id 0 x y := by
  unfold Gets userQuota
  rw [h]
  cases x.users.row id <;> simp

lemma gets_update {f : User → User} (h : y.users = x.users.update id f) (hf : ∀ u, (f u).quota = u.quota + n) :
    Gets id n x y := by
  unfold Gets
  rw [userQuota_update id id f (g := fun q => q + n) hf h]
  simp

lemma Gets.eq_iff (hy : Gets id n x y) (hz : Gets id m x z) (huser : (x.users.row id).isSome) :
    userQuota id y = userQuota id z ↔ n = m := by
  obtain ⟨user, hrow⟩ := Option.isSome_iff_exists.mp huser
  rw [hy, hz, userQuota, hrow]
  simp

end Gets

/-! ### The calls -/

def TopUpCall.earned (cfg : Config) (tradeNo : String) (order : TopUp) : TopUpCall → Int
  | recharge _ => if tradeNo = "" then 0 else Go.int (order.money * cfg.quotaPerUnit)
  | rechargeCreem _ => if tradeNo = "" then 0 else order.amount
  | rechargeWaffo | rechargeWaffoPancake =>
    if tradeNo = "" then 0 else if amountQuota cfg order ≤ 0 then 0 else amountQuota cfg order
  | manualCompleteTopUp => if tradeNo = "" then 0 else if manualQuota cfg order ≤ 0 then 0 else manualQuota cfg order
  | updatePendingTopUpStatus .. => 0
  | epayNotify _ verifyStatus tradeSuccess =>
    if verifyStatus ∧ tradeSuccess then max 0 (amountQuota cfg order) else 0

/-- Without faults a transaction adds `n` to the quota of the user; if it fails, `n` is zero. -/
def TxGets (body : Query Unit) (id n : Int) (db : DB) : Prop :=
  wpE database noFault body (fun _ y => Gets id n db y) (fun _ _ => Gets id n db db) db

/-- Without faults a call adds `n` to the quota of the user. -/
def CallGets (call : Action Unit) (id n : Int) (db : DB) : Prop :=
  wpE server noFaults call (fun _ y => Gets id n db y) (fun _ y => Gets id n db y) db

section Calls

variable {e : String} {E : String → DB → Prop} {v : VerifyRes} {body : Query Unit}

lemma wpE_findTopUp_noFault {Q : TopUp → DB → Prop} (hrow : db.topUps.row tradeNo = some order) (hQ : Q order db) :
    wpE database noFault (findTopUp tradeNo e) Q E db := by
  unfold findTopUp
  rw [wpE_mapError]
  exact wpE_query_step (by rw [Stmt.step, hrow, first]) hQ

lemma txGets_completeTopUp {stripeCustomer email : Option String} :
    TxGets (completeTopUp now tradeNo order n stripeCustomer email) order.userId n db := by
  unfold TxGets completeTopUp
  rw [wpE_bind]
  refine wpE_query_step rfl (wpE_query_step rfl ?_)
  exact gets_update rfl fun _ => rfl

lemma CallGets.guarded {call : Action Unit} (hcall : CallGets call order.userId n db) :
    CallGets (if tradeNo = "" then throw e else call) order.userId (if tradeNo = "" then 0 else n) db := by
  by_cases hempty : tradeNo = ""
  · simp only [if_pos hempty]
    exact gets_zero rfl
  · simp only [if_neg hempty]
    exact hcall

lemma TxGets.call (h : TxGets body order.userId n db) : CallGets (transaction body) order.userId n db :=
  wpE_transaction_of_nil (fun _ h => h) h

lemma TxGets.callback {f : String → String} (h : TxGets body order.userId n db) :
    CallGets (mapError f (transaction body)) order.userId n db := by
  rw [CallGets, wpE_mapError]
  exact h.call

lemma txGets_creditPositive : TxGets (if n ≤ 0 then throw e else completeTopUp now tradeNo order n none none)
    order.userId (if n ≤ 0 then 0 else n) db := by
  by_cases hn : n ≤ 0
  · simp only [if_pos hn]
    exact gets_zero rfl
  · simp only [if_neg hn]
    exact txGets_completeTopUp

variable (hrow : db.topUps.row tradeNo = some order) (hpending : order.status = .pending)

include hrow hpending

lemma txGets_rechargeWaffoTx : TxGets (rechargeWaffoTx cfg now order.paymentProvider tradeNo) order.userId
    (if amountQuota cfg order ≤ 0 then 0 else amountQuota cfg order) db := by
  unfold TxGets rechargeWaffoTx
  rw [wpE_bind]
  apply wpE_findTopUp_noFault hrow
  rw [if_neg (not_not.mpr rfl), if_neg (by rw [hpending]; decide), if_neg (not_not.mpr hpending)]
  exact txGets_creditPositive

lemma wpE_creditEpayOrder_noFaults (hv : v.serviceTradeNo = tradeNo) (hprovider : order.paymentProvider = .epay) :
    wpE server noFaults (creditEpayOrder cfg v)
      (fun _ y => Gets order.userId (max 0 (amountQuota cfg order)) db y) E db := by
  subst hv
  unfold creditEpayOrder
  rw [wpE_bind, wpE_attempt]
  apply wpE_exec_step (r := order) (by rw [Stmt.step, hrow, first])
  simp only [if_neg (not_not.mpr hprovider), if_neg (not_not.mpr hpending)]
  rw [wpE_bind, wpE_attempt]
  apply wpE_exec_step rfl
  rw [wpE_bind, wpE_attempt]
  rcases le_or_gt 0 (amountQuota cfg order) with hpos | hneg
  · apply wpE_increaseUserQuota_of_nil (fun _ h => h) hpos
    rw [max_eq_right hpos, note_none]
    exact gets_update rfl fun _ => rfl
  · rw [max_eq_left hneg.le, increaseUserQuota, if_pos hneg]
    exact gets_zero rfl

lemma wpE_epayNotify_noFaults (hv : v.serviceTradeNo = tradeNo) (hprovider : order.paymentProvider = .epay) :
    wpE server noFaults (epayNotify cfg (some v)) (fun _ y => Gets order.userId
      (if v.verifyStatus ∧ v.tradeSuccess then max 0 (amountQuota cfg order) else 0) db y) E db := by
  unfold epayNotify
  dsimp only
  by_cases hverify : v.verifyStatus
  · rw [if_neg (by simp [hverify])]
    by_cases hsuccess : v.tradeSuccess
    · rw [if_neg (by simp [hsuccess]), if_pos ⟨hverify, hsuccess⟩, wpE_bind]
      exact wpE_creditEpayOrder_noFaults hrow hpending hv hprovider
    · rw [if_pos (by simp [hsuccess]), if_neg (by simp [hsuccess])]
      exact gets_zero rfl
  · rw [if_pos (by simp [hverify]), if_neg (by simp [hverify])]
    exact gets_zero rfl

lemma txGets_updatePendingTx {expected : PaymentProvider} {target : TopUpStatus} :
    TxGets (updatePendingTx tradeNo expected target) order.userId 0 db := by
  unfold TxGets updatePendingTx
  rw [wpE_bind]
  apply wpE_findTopUp_noFault hrow
  split
  · exact gets_zero rfl
  · rw [if_neg (not_not.mpr hpending)]
    exact wpE_query_step rfl (gets_zero rfl)

/-- A call on a pending order of its provider adds what the order is worth to it. -/
theorem callGets_earned (hprovider : ∀ p, c.provider = some p → order.paymentProvider = p)
    (huser : (db.users.row order.userId).isSome) :
    CallGets (c.run cfg {} now tradeNo) order.userId (c.earned cfg tradeNo order) db := by
  cases c with
  | recharge customerId =>
    refine CallGets.guarded (TxGets.callback ?_)
    unfold TxGets rechargeTx
    rw [wpE_bind]
    apply wpE_findTopUp_noFault hrow
    rw [if_neg (not_not.mpr (hprovider _ rfl)), if_neg (not_not.mpr hpending)]
    exact txGets_completeTopUp
  | rechargeCreem customerEmail =>
    obtain ⟨user, huser⟩ := Option.isSome_iff_exists.mp huser
    refine CallGets.guarded (TxGets.callback ?_)
    unfold TxGets rechargeCreemTx newEmail
    rw [wpE_bind]
    apply wpE_findTopUp_noFault hrow
    rw [if_neg (not_not.mpr (hprovider _ rfl)), if_neg (not_not.mpr hpending), wpE_bind]
    apply wpE_query_step rfl
    rw [wpE_bind]
    by_cases hemail : customerEmail = ""
    · rw [if_pos hemail]
      exact wpE_query_step rfl (gets_update rfl fun _ => rfl)
    · rw [if_neg hemail, wpE_bind]
      apply wpE_query_step (r := user) (by rw [Stmt.step, huser, first])
      exact wpE_query_step rfl (gets_update rfl fun _ => rfl)
  | rechargeWaffo | rechargeWaffoPancake =>
    have hbody := @txGets_rechargeWaffoTx db cfg now tradeNo order hrow hpending
    rw [hprovider _ rfl] at hbody
    exact hbody.callback.guarded
  | manualCompleteTopUp =>
    refine CallGets.guarded (TxGets.call ?_)
    unfold TxGets manualCompleteTx
    rw [wpE_bind]
    apply wpE_findTopUp_noFault hrow
    rw [if_neg (by rw [hpending]; decide), if_neg (not_not.mpr hpending)]
    exact txGets_creditPositive
  | updatePendingTopUpStatus expected target =>
    have hcall : CallGets (updatePendingTopUpStatus tradeNo expected target) order.userId _ db :=
      CallGets.guarded (txGets_updatePendingTx hrow hpending).call
    rw [ite_self] at hcall
    exact hcall
  | epayNotify type verifyStatus tradeSuccess =>
    rw [CallGets, TopUpCall.run, wpE_bind]
    exact wpE_epayNotify_noFaults hrow hpending rfl (hprovider _ rfl)

end Calls

/-! ### The administrator and the provider -/

def completed (cfg : Config) (now : Go.Time) (tradeNo : String) (c : TopUpCall) (db : DB) : DB :=
  ((c.run cfg {} now tradeNo).run.eval server [] [] db).2

lemma gets_completed (hrow : db.topUps.row tradeNo = some order) (hpending : order.status = .pending)
    (hprovider : ∀ p, c.provider = some p → order.paymentProvider = p) (huser : (db.users.row order.userId).isSome) :
    Gets order.userId (c.earned cfg tradeNo order) db (completed cfg now tradeNo c db) :=
  eval_of_wp (d := []) (wp_of_wpE (callGets_earned hrow hpending hprovider huser)) (meets_nil (fun _ _ => rfl) db)

/-- The provider whose orders a call completes. -/
def TopUpCall.completes : TopUpCall → Option PaymentProvider
  | recharge _ => some .stripe
  | rechargeCreem _ => some .creem
  | rechargeWaffo => some .waffo
  | rechargeWaffoPancake => some .waffoPancake
  | epayNotify _ true true => some .epay
  | _ => none

/-- The administrator and the provider read the order in the same way. -/
def SameCredit (cfg : Config) (tradeNo : String) (order : TopUp) : Prop :=
  match order.paymentProvider with
  | .epay => tradeNo ≠ "" ∨ order.amount * cfg.quotaPerUnit < 1
  | .stripe => tradeNo = "" ∨ -1 < order.money * cfg.quotaPerUnit
  | .creem => tradeNo = "" ∨ order.amount = 0 ∨ (0 < order.amount ∧ order.amount ≤ order.amount * cfg.quotaPerUnit ∧
      order.amount * cfg.quotaPerUnit < order.amount + 1)
  | _ => True

lemma TopUpCall.completes_provider {p : PaymentProvider} (h : c.completes = some p) : c.provider = some p := by
  cases c with
  | epayNotify type verifyStatus tradeSuccess =>
    cases verifyStatus <;> cases tradeSuccess <;> simp_all [TopUpCall.completes, TopUpCall.provider]
  | _ => simp_all [TopUpCall.completes, TopUpCall.provider]

lemma creemAmount_iff {a : Int} (hunit : 0 < unit) :
    (if Go.int (a * unit) ≤ 0 then 0 else Go.int (a * unit)) = a ↔
      a = 0 ∨ (0 < a ∧ a ≤ a * unit ∧ a * unit < a + 1) := by
  rcases lt_trichotomy a 0 with ha | rfl | ha
  · exact iff_of_false (by omega) (by omega)
  · simp [Go.int]
  · have hpos : (0 : ℚ) ≤ a * unit := mul_nonneg (by exact_mod_cast ha.le) hunit.le
    rw [← int_eq_iff hpos]
    split <;> omega

/-- A pending order is worth the same to the administrator and to its provider exactly under this condition. -/
theorem manualCompletion_iff (hrow : db.topUps.row tradeNo = some order) (hpending : order.status = .pending)
    (huser : (db.users.row order.userId).isSome) (hunit : 0 < cfg.quotaPerUnit) {c : TopUpCall}
    (hc : c.completes = some order.paymentProvider) :
    userQuota order.userId (completed cfg now tradeNo .manualCompleteTopUp db) =
        userQuota order.userId (completed cfg now tradeNo c db) ↔ SameCredit cfg tradeNo order := by
  have hprovider : ∀ p, c.provider = some p → order.paymentProvider = p := by
    intro p hp
    rw [c.completes_provider hc] at hp
    exact Option.some.inj hp
  have hmanual : Gets order.userId _ db (completed cfg now tradeNo .manualCompleteTopUp db) :=
    gets_completed hrow hpending nofun huser
  rw [hmanual.eq_iff (gets_completed hrow hpending hprovider huser) huser]
  unfold SameCredit
  cases c with
  | recharge customerId =>
    obtain hstripe := hprovider _ rfl
    simp only [TopUpCall.earned, manualQuota, hstripe, if_true]
    by_cases hempty : tradeNo = ""
    · simp [hempty]
    · simp only [hempty, if_false, false_or, ← int_nonneg_iff]
      split <;> omega
  | rechargeCreem customerEmail =>
    obtain hcreem := hprovider _ rfl
    simp only [TopUpCall.earned, manualQuota, amountQuota, hcreem, reduceCtorEq, if_false]
    by_cases hempty : tradeNo = ""
    · simp [hempty]
    · simp only [hempty, if_false, false_or]
      exact creemAmount_iff hunit
  | rechargeWaffo | rechargeWaffoPancake => simp [TopUpCall.earned, manualQuota, hprovider _ rfl]
  | epayNotify type verifyStatus tradeSuccess =>
    obtain ⟨rfl, rfl⟩ : verifyStatus = true ∧ tradeSuccess = true := by
      cases verifyStatus <;> cases tradeSuccess <;> simp_all [TopUpCall.completes]
    obtain hepay := hprovider _ rfl
    have hworth : 0 < Go.int (order.amount * cfg.quotaPerUnit) ↔ 1 ≤ order.amount * cfg.quotaPerUnit := int_pos_iff
    simp only [TopUpCall.earned, manualQuota, amountQuota, hepay, reduceCtorEq, if_false, and_self, if_true, ← not_le,
      ← hworth]
    by_cases hempty : tradeNo = ""
    · simp only [hempty, if_true, ne_eq, not_true_eq_false, false_or]
      omega
    · simp only [hempty, if_false, ne_eq, not_false_eq_true, true_or, iff_true]
      split <;> omega
  | _ => cases hc

def orderFor (provider : PaymentProvider) : TopUp where
  userId := 1
  amount := 10
  money := 3 / 2
  paymentMethod := ""
  paymentProvider := provider
  status := .pending

def orderBy (provider : PaymentProvider) : DB where
  users := Table.empty.insert 1 { quota := 100 }
  topUps := Table.empty.insert "T1" (orderFor provider)

theorem manualCompletion_stripe : SameCredit {} "T1" (orderFor .stripe) ∧
    userQuota 1 (completed {} 0 "T1" .manualCompleteTopUp (orderBy .stripe)) =
      userQuota 1 (completed {} 0 "T1" (.recharge "cus") (orderBy .stripe)) := by
  have hsame : SameCredit {} "T1" (orderFor .stripe) := .inr (by norm_num [orderFor])
  have hrow : (orderBy .stripe).topUps.row "T1" = some (orderFor .stripe) := rfl
  exact ⟨hsame, (manualCompletion_iff hrow rfl rfl (by norm_num) rfl).mpr hsame⟩

/-- The amount of a Creem order is in quota units, and an administrator multiplies it again. -/
theorem manualCompletion_creem_differs :
    userQuota 1 (completed {} 0 "T1" (.rechargeCreem "") (orderBy .creem)) = some (100 + 10) ∧
      userQuota 1 (completed {} 0 "T1" .manualCompleteTopUp (orderBy .creem)) = some (100 + 5000000) := by
  decide +kernel

/-! ### The amount that was paid for -/

section

variable {settings : EpaySettings} {randomString : String} {id : Int} {req : EpayRequest}
variable {amount : Int}

lemma row_createTopUp {r : Unit} (h : (Stmt.createTopUp tradeNo order).step x = (.ok r, y)) :
    y.topUps.row tradeNo = some order := by
  simp only [Stmt.step] at h
  cases hrow : x.topUps.row tradeNo with
  | some _ => simp [hrow] at h
  | none =>
    simp only [hrow, Prod.mk.injEq, true_and] at h
    obtain ⟨-, rfl⟩ := h
    exact (Table.row_insert order hrow tradeNo).trans (if_pos rfl)

lemma wpE_requestEpay {A : Req → List (Option String) → DB → Prop} :
    wpE server A (requestEpay cfg now settings randomString id (some req)) (fun _ y => ∃ payMoney,
      y.topUps.row (epayTradeNo now id randomString) = some (epayOrderOf cfg now settings id req payMoney))
      (fun _ _ => True) db := by
  have hthrow : ∀ {α : Type} {e : String} {Q : α → DB → Prop} {x : DB}, wpE server A (throw e) Q (fun _ _ => True) x :=
    trivial
  unfold requestEpay
  dsimp only
  split
  · exact hthrow
  rw [wpE_bind, wpE_mapError]
  apply wpE_exec _ fun _ => trivial
  intro group x hs
  split
  · exact hthrow
  split
  · exact hthrow
  cases settings.epayClient with
  | none => exact hthrow
  | some purchase =>
    dsimp only
    split
    · exact hthrow
    rw [wpE_bind, wpE_mapError]
    apply wpE_exec _ fun _ => trivial
    intro r y hs
    exact ⟨getPayMoney cfg settings req.amount group, row_createTopUp hs⟩

def requestedQuota (cfg : Config) (settings : EpaySettings) (amount : Int) : ℚ :=
  if settings.quotaDisplayType = .tokens then amount else amount * cfg.quotaPerUnit

/-- The user gets the quota that was requested. -/
def CreditsRequested (cfg : Config) (settings : EpaySettings) (id amount : Int) (x y : DB) : Prop :=
  ∃ credit : Int, Gets id credit x y ∧ credit = requestedQuota cfg settings amount

/-- The quota that is paid for is whole, and in tokens mode a whole number of units: the quotient of the order is exact
up to half of its last digit, and the product to less than one. -/
def WholeUnits (cfg : Config) (settings : EpaySettings) (amount : Int) : Prop :=
  0 ≤ amount ∧
    if settings.quotaDisplayType = .tokens then
      ∃ units : Int, amount ≤ units * cfg.quotaPerUnit ∧ units * cfg.quotaPerUnit < amount + 1 ∧
        units ≤ amount / cfg.quotaPerUnit + 1 / (2 * 10 ^ 16)
    else ∃ quota : Int, amount * cfg.quotaPerUnit = quota

lemma storedTokens_iff (hunit : 0 < unit) (hamount : 0 ≤ amount) :
    Go.int (Go.int (decimalDiv amount unit) * unit) = amount ↔
      ∃ units : Int, amount ≤ units * unit ∧ units * unit < amount + 1 ∧ units ≤ amount / unit + 1 / (2 * 10 ^ 16) := by
  have hquotient : (0 : ℚ) ≤ amount / unit := div_nonneg (by exact_mod_cast hamount) hunit.le
  have hstored : (0 : ℚ) ≤ Go.int (decimalDiv amount unit) := by exact_mod_cast int_nonneg (decimalDiv_nonneg hquotient)
  rw [int_eq_iff (mul_nonneg hstored hunit.le)]
  constructor
  · rintro ⟨hle, hlt⟩
    exact ⟨_, hle, hlt, (int_le (decimalDiv_nonneg hquotient)).trans (decimalDiv_le hquotient)⟩
  · rintro ⟨units, hle, hlt, hclose⟩
    rw [decimalDiv_eq hquotient ((div_le_iff₀ hunit).mpr hle) hclose, int_intCast]
    exact ⟨hle, hlt⟩

lemma credit_eq_requestedQuota_iff (hunit : 0 < cfg.quotaPerUnit) :
    ((max 0 (Go.int (storedAmount cfg settings amount * cfg.quotaPerUnit)) : Int) : ℚ) =
      requestedQuota cfg settings amount ↔ WholeUnits cfg settings amount := by
  unfold WholeUnits
  rcases lt_or_ge amount 0 with hneg | hamount
  · -- nothing negative is credited
    have hrequested : requestedQuota cfg settings amount < 0 := by
      unfold requestedQuota
      split
      · exact_mod_cast hneg
      · exact mul_neg_of_neg_of_pos (by exact_mod_cast hneg) hunit
    have hcredit : (0 : ℚ) ≤ (max 0 (Go.int (storedAmount cfg settings amount * cfg.quotaPerUnit)) : Int) := by
      exact_mod_cast le_max_left 0 _
    exact iff_of_false (by linarith) (by omega)
  · simp only [hamount, true_and]
    unfold requestedQuota storedAmount
    by_cases htokens : settings.quotaDisplayType = .tokens
    · simp only [if_pos htokens]
      rw [← storedTokens_iff hunit hamount, Int.cast_inj]
      have hstored : 0 ≤ Go.int (decimalDiv amount cfg.quotaPerUnit) :=
        int_nonneg (decimalDiv_nonneg (div_nonneg (by exact_mod_cast hamount) hunit.le))
      have hcredit : 0 ≤ Go.int (Go.int (decimalDiv amount cfg.quotaPerUnit) * cfg.quotaPerUnit) :=
        int_nonneg (mul_nonneg (by exact_mod_cast hstored) hunit.le)
      rw [max_eq_right hcredit]
    · simp only [if_neg htokens]
      have hcredit : 0 ≤ Go.int (amount * cfg.quotaPerUnit) :=
        int_nonneg (mul_nonneg (by exact_mod_cast hamount) hunit.le)
      rw [max_eq_right hcredit]
      constructor
      · exact fun h => ⟨_, h.symm⟩
      · rintro ⟨quota, hquota⟩
        rw [hquota, int_intCast]

/-- The notification of a paid order credits what the request of the order was priced for exactly if that is whole. -/
theorem creditsRequested_iff {φs : List (List (Option String))} {answer : String × List (String × String)}
    {v : VerifyRes}
    (hrequest : (requestEpay cfg now settings randomString id (some req)).run.eval server [] φs db = (.ok answer, x))
    (horder : y.topUps.row (epayTradeNo now id randomString) = x.topUps.row (epayTradeNo now id randomString))
    (huser : (y.users.row id).isSome) (hunit : 0 < cfg.quotaPerUnit)
    (hv : v.serviceTradeNo = epayTradeNo now id randomString) (hverify : v.verifyStatus) (hsuccess : v.tradeSuccess) :
    CreditsRequested cfg settings id req.amount y ((epayNotify cfg (some v)).run.eval server [] [] y).2 ↔
      WholeUnits cfg settings req.amount := by
  have hstored : wpE server (fun _ _ _ => True) (requestEpay cfg now settings randomString id (some req)) _ _ db :=
    wpE_requestEpay
  obtain ⟨payMoney, hrow⟩ := ok_of_wpE (d := []) hstored (meets_of_forall (fun _ _ _ => trivial) φs db) hrequest
  rw [← horder] at hrow
  have hcredit : Gets id _ y ((epayNotify cfg (some v)).run.eval server [] [] y).2 :=
    eval_of_wp (d := []) (wp_of_wpE (wpE_epayNotify_noFaults hrow rfl hv rfl)) (meets_nil (fun _ _ => rfl) y)
  rw [if_pos ⟨hverify, hsuccess⟩] at hcredit
  rw [← credit_eq_requestedQuota_iff hunit]
  constructor
  · rintro ⟨credit, hgets, hrequested⟩
    have hcredit_eq : credit = max 0 (amountQuota cfg (epayOrderOf cfg now settings id req payMoney)) :=
      (hgets.eq_iff hcredit huser).mp rfl
    rw [← hrequested, hcredit_eq]
    rfl
  · exact fun h => ⟨_, hcredit, h⟩

def tokensMode : EpaySettings where
  quotaDisplayType := .tokens
  payMethods := ["alipay"]
  epayClient := some fun _ => .ok ("", [])
  formatMoney _ := ""

/-- User 1 with a quota of 100, and an order for `amount` tokens. -/
def tokensOrdered (amount : Int) : DB :=
  ((requestEpay {} 0 tokensMode "abcdef" 1 (some ⟨amount, "alipay"⟩)).run.eval server [] []
    { users := Table.empty.insert 1 { quota := 100 } }).2

def tokensPaid (amount : Int) : DB :=
  ((epayNotify {} (some ⟨"USR1NOabcdef0", "alipay", true, true⟩)).run.eval server [] [] (tokensOrdered amount)).2

theorem creditsRequested_two_units : WholeUnits {} tokensMode 1000000 ∧
    CreditsRequested {} tokensMode 1 1000000 (tokensOrdered 1000000) (tokensPaid 1000000) := by
  have hwhole : WholeUnits {} tokensMode 1000000 := by
    refine ⟨by decide, ?_⟩
    exact ⟨2, by norm_num, by norm_num, by norm_num⟩
  have hrequest : (requestEpay {} 0 tokensMode "abcdef" 1 (some ⟨1000000, "alipay"⟩)).run.eval server [] []
      { users := Table.empty.insert 1 { quota := 100 } } = (.ok ("", []), tokensOrdered 1000000) :=
    Prod.ext (by decide +kernel) rfl
  exact ⟨hwhole, (creditsRequested_iff hrequest rfl (by decide +kernel) (by norm_num) (by decide +kernel) rfl rfl).mpr
    hwhole⟩

/-- Half a unit that was asked and paid for is cut off when the order is stored. -/
theorem half_unit_not_credited :
    ((tokensOrdered 750000).topUps.row "USR1NOabcdef0").map (fun order => (order.amount, order.money)) =
      some (1, 219 / 20) ∧
    userQuota 1 (tokensOrdered 750000) = some 100 ∧ userQuota 1 (tokensPaid 750000) = some 500100 ∧
      ¬CreditsRequested {} tokensMode 1 750000 (tokensOrdered 750000) (tokensPaid 750000) := by
  have hordered : userQuota 1 (tokensOrdered 750000) = some 100 := by decide +kernel
  have hpaid : userQuota 1 (tokensPaid 750000) = some 500100 := by decide +kernel
  refine ⟨by decide +kernel, hordered, hpaid, ?_⟩
  rintro ⟨credit, hgets, hrequested⟩
  rw [Gets, hordered, hpaid, Option.map_some, Option.some.injEq] at hgets
  rw [requestedQuota, if_pos (show tokensMode.quotaDisplayType = .tokens from rfl), Int.cast_inj] at hrequested
  omega

end

end LoveApi.Proofs
