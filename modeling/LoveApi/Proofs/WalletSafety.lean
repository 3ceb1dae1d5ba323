import LoveApi.Proofs.TaskBilling
import LoveApi.Proofs.TopUp

/-!
# No wallet goes below zero

A charge carries its own condition on the balance, and everything else adds a non-negative amount or does not touch
`users.quota`.
-/

namespace LoveApi.Proofs

open Program Prog BillingSession List Option Table

variable {x : DB} {tradeNo requestId : String} {now : Go.Time} {rounding : Rounding} {f : FundingSource}
  {n userId delta quota j g : Int} {memo : Option TaskMovement} {info : RelayInfo} {c : TopUpCall}

variable {s : Stmt} {cfg : Config}

/-! ### Statements -/

/-- No wallet is below zero, and the open orders are for amounts of at least zero. -/
structure Solvent (db : DB) : Prop where
  wallets : ∀ id u, db.users.row id = some u → 0 ≤ u.quota
  orders : ∀ tradeNo t, db.topUps.row tradeNo = some t → 0 ≤ t.amount ∧ 0 ≤ t.money

def Harmless : Stmt → Prop
  | .increaseUserQuota _ n _ => 0 ≤ n
  | .saveUser _ user => 0 ≤ user.quota
  | .creditUser _ n _ _ => 0 ≤ n
  | .saveTopUp _ t | .createTopUp _ t => 0 ≤ t.amount ∧ 0 ≤ t.money
  | _ => True

attribute [local grind] Harmless

section Statements

variable {y : DB}
variable {t : TopUp} {β : Type}

lemma Solvent.of_eq (h : Solvent x) (hu : y.users = x.users) (ht : y.topUps = x.topUps) : Solvent y where
  wallets := hu ▸ h.wallets
  orders := ht ▸ h.orders

lemma Solvent.update (h : Solvent x) (id : Int) {f : User → User}
    (hu : y.users = x.users.update id f) (hf : ∀ u, x.users.row id = some u → 0 ≤ (f u).quota)
    (ht : y.topUps = x.topUps) : Solvent y where
  wallets j v hv := by
    rw [hu, row_update] at hv
    split at hv
    · obtain ⟨u, hrow, rfl⟩ := map_eq_some_iff.mp hv
      exact hf u hrow
    · exact h.wallets j v hv
  orders := ht ▸ h.orders

lemma Solvent.saveTopUp (h : Solvent x) (hpos : 0 ≤ t.amount ∧ 0 ≤ t.money)
    (hu : y.users = x.users) (ht : y.topUps = x.topUps.update tradeNo fun _ => t) : Solvent y where
  wallets := hu ▸ h.wallets
  orders no t' hrow := by
    rw [ht, row_update] at hrow
    split at hrow
    · obtain ⟨-, -, rfl⟩ := map_eq_some_iff.mp hrow
      exact hpos
    · exact h.orders no t' hrow

lemma Solvent.createTopUp (h : Solvent x) (hpos : 0 ≤ t.amount ∧ 0 ≤ t.money) :
    Solvent ((Stmt.createTopUp tradeNo t).step x).2 := by
  simp only [Stmt.step]
  split
  · exact h
  · next hnone =>
    refine ⟨h.wallets, fun no t' hrow => ?_⟩
    rw [row_insert _ hnone] at hrow
    split at hrow
    · cases hrow
      exact hpos
    · exact h.orders no t' hrow

lemma solvent_step (hs : Harmless s) (h : Solvent x) : Solvent (s.step x).2 := by
  cases s with
  | increaseUserQuota id n memo =>
    exact h.update id rfl (fun u hu => add_nonneg (h.wallets id u hu) hs) rfl
  | decreaseUserQuota id n memo =>
    simp only [Stmt.step]
    split
    · next hguard =>
      obtain ⟨u, hu, hq⟩ := (any_eq_true _ _).mp hguard
      have hq : n ≤ u.quota := by simpa using hq
      refine h.update id rfl (fun v hv => ?_) rfl
      obtain rfl : u = v := some.inj (hu.symm.trans hv)
      show 0 ≤ u.quota + -n
      omega
    · exact h
  | saveUser id user => exact h.update id rfl (fun _ _ => hs) rfl
  | creditUser id n _ _ => exact h.update id rfl (fun u hu => add_nonneg (h.wallets id u hu) hs) rfl
  | updateUserUsedQuotaAndRequestCount id _ _ => exact h.update id rfl (fun u hu => h.wallets id u hu) rfl
  | saveTopUp tradeNo t => exact h.saveTopUp hs rfl rfl
  | updateUserGroup id _ => exact h.update id rfl (fun u hu => h.wallets id u hu) rfl
  | createTopUp tradeNo t => exact h.createTopUp hs
  | createRecord requestId record | updateMidjourneyWithStatus id task fromStatus
  | updateTaskWithStatus id task fromStatus =>
    simp only [Stmt.step]
    split <;> exact h.of_eq rfl rfl
  | _ => exact h.of_eq rfl rfl

def KeepsSolvent (req : Req) : Prop := ∀ φs x, Solvent x → Solvent (server.exec φs req x).2

lemma database_keeps (hs : Harmless s) {φ : Option String} (h : Solvent x) : Solvent (database.exec φ s x).2 := by
  rcases database_exec s x φ with hx | ⟨e, hx⟩ <;> rw [hx]
  · exact solvent_step hs h
  · exact h

@[grind ←] lemma keeps_stmt (hs : Harmless s) : KeepsSolvent (.stmt s) := fun _ _ h => database_keeps hs h

lemma keeps_tx {body : Query β} (h : ∀ x, Solvent x → wpE database (fun _ _ _ => True) body (fun _ y => Solvent y)
      (fun _ _ => True) x) : KeepsSolvent (.tx (do query .begin; body)) :=
  fun φs x hx => exec_transaction hx (h x hx) φs

lemma wpE_of_issues {body : Query β} (h : body.run.Issues Harmless) (hx : Solvent x) :
    wpE database (fun _ _ _ => True) body (fun _ y => Solvent y) (fun _ _ => True) x :=
  wpE_mono (wpE_of_keeps (fun _ hs _ _ => database_keeps hs) h hx) (fun _ _ hy => hy) fun _ _ _ => trivial

end Statements

/-! ### Calls -/

section

variable {env : Env}
variable {β : Type}

@[grind ←]
lemma issues_transaction_of_harmless {body : Query β} (h : body.run.Issues Harmless) :
    (transaction body).run.Issues KeepsSolvent :=
  issues_transaction <| keeps_tx fun _ hx => wpE_of_issues h hx

/-! ### Subscriptions -/

@[grind ←]
lemma issues_getSubscriptionPlanByIdTx {id : Int} : (getSubscriptionPlanByIdTx env id).run.Issues Harmless := by
  unfold getSubscriptionPlanByIdTx
  grind

@[grind ←]
lemma issues_maybeReset {id : Int} {sub : UserSubscription} {plan : SubscriptionPlan} :
    (maybeResetUserSubscriptionWithPlanTx cfg id sub plan now).run.Issues Harmless := by
  unfold maybeResetUserSubscriptionWithPlanTx
  grind

@[grind ←]
lemma issues_chargeCandidate {amount id : Int} {h : 0 < amount} {sub : UserSubscription} :
    (chargeCandidate requestId userId amount h id sub).run.Issues Harmless := by
  unfold chargeCandidate
  grind

@[grind ←]
lemma issues_preConsumeCandidates {amount : Int} (h : 0 < amount) {cs : List (Int × UserSubscription)} :
    (preConsumeCandidates cfg env requestId userId amount h cs).run.Issues Harmless := by
  induction cs with
  | nil => trivial
  | cons c cs ih =>
    unfold preConsumeCandidates
    grind

@[grind ←]
lemma issues_preConsumeUserSubscription {amount : Int} :
    (preConsumeUserSubscription cfg env requestId userId amount).run.Issues KeepsSolvent := by
  unfold preConsumeUserSubscription preConsumeTx
  grind

@[grind ←]
lemma issues_postConsumeUserSubscriptionDelta {id : Int} :
    (postConsumeUserSubscriptionDelta id delta memo).run.Issues KeepsSolvent := by
  unfold postConsumeUserSubscriptionDelta postConsumeTx
  grind

@[grind ←]
lemma issues_refundSubscriptionPreConsume : (refundSubscriptionPreConsume requestId).run.Issues KeepsSolvent := by
  unfold refundSubscriptionPreConsume
  grind

@[grind ←]
lemma issues_fillPlanInfo {f : SubscriptionFunding} : (f.fillPlanInfo env).run.Issues KeepsSolvent := by
  have hplan : ∀ id, (getSubscriptionPlanInfoByUserSubscriptionId env id).run.Issues KeepsSolvent := by
    unfold getSubscriptionPlanInfoByUserSubscriptionId
    grind
  unfold SubscriptionFunding.fillPlanInfo
  grind

/-! ### Sessions -/

@[grind ←]
lemma issues_retry {n : Nat} {fn : Action Unit} (h : fn.run.Issues KeepsSolvent) :
    (retry n fn).run.Issues KeepsSolvent := by
  induction n with
  | zero => exact h
  | succ n ih =>
    unfold retry
    grind

@[grind ←]
lemma issues_fundingRefund : (f.refund cfg).run.Issues KeepsSolvent := by
  cases f with
  | wallet w =>
    unfold FundingSource.refund WalletFunding.refund
    grind
  | subscription sub =>
    unfold FundingSource.refund SubscriptionFunding.refund refundWithRetry
    grind

@[grind ←]
lemma issues_fundingSettle : (f.settle cfg delta).run.Issues KeepsSolvent := by
  cases f with
  | wallet w =>
    unfold FundingSource.settle WalletFunding.settle
    grind
  | subscription sub =>
    unfold FundingSource.settle SubscriptionFunding.settle
    grind

@[grind ←]
lemma issues_fundingPreConsume {amount : Int} : (f.preConsume cfg env amount).run.Issues KeepsSolvent := by
  cases f with
  | wallet w =>
    unfold FundingSource.preConsume WalletFunding.preConsume
    grind
  | subscription sub =>
    unfold FundingSource.preConsume SubscriptionFunding.preConsume
    grind

@[grind ←]
lemma issues_preConsumeTokenQuota : (preConsumeTokenQuota cfg env info quota).run.Issues KeepsSolvent := by
  unfold preConsumeTokenQuota getTokenByKey
  grind

lemma issues_refundJob (job : RefundJob) : (job.run cfg).run.Issues KeepsSolvent := by
  unfold RefundJob.run RefundJob.refundFunding RefundJob.refundToken RefundJob.refundExtra
  grind

@[grind ←]
lemma issues_settleToken : (settleToken cfg info delta).run.Issues KeepsSolvent := by
  unfold settleToken
  grind

lemma issues_settle {s : BillingSession} {actualQuota : Int} : (settle cfg s actualQuota).Issues KeepsSolvent := by
  unfold settle
  grind

@[grind ←]
lemma issues_reserveFunding : (reserveFunding cfg delta f).run.Issues KeepsSolvent := by
  cases f <;> unfold reserveFunding <;> grind

@[grind ←]
lemma issues_rollbackFundingReserve : (rollbackFundingReserve cfg delta f).Issues KeepsSolvent := by
  cases f <;> unfold rollbackFundingReserve <;> grind

lemma issues_reserve {s : BillingSession} {targetQuota : Int} :
    (reserve cfg env s targetQuota).Issues KeepsSolvent := by
  unfold reserve reserveToken
  grind

@[grind ←]
lemma issues_preConsume {s : BillingSession} : (preConsume cfg env s quota).run.Issues KeepsSolvent := by
  have htoken : ∀ quota, (preConsumeToken cfg env s.relayInfo quota).run.Issues KeepsSolvent := by
    unfold preConsumeToken
    grind
  have hrollback : ∀ n, (rollbackToken cfg s.relayInfo n).run.Issues KeepsSolvent := by
    unfold rollbackToken
    grind
  have hfunding : ∀ quota n, (preConsumeFunding cfg env s quota n).run.Issues KeepsSolvent := by
    unfold preConsumeFunding
    grind
  unfold preConsume
  grind

lemma issues_newBillingSession : (newBillingSession cfg env info quota).run.Issues KeepsSolvent := by
  have hwallet : ∀ info, (tryWallet cfg env info quota).run.Issues KeepsSolvent := by
    unfold tryWallet getUserQuota
    grind
  have hsub : ∀ info, (trySubscription cfg env info quota).run.Issues KeepsSolvent := by
    unfold trySubscription
    grind
  unfold newBillingSession orElse hasActiveUserSubscription
  grind

lemma issues_postConsumeQuota : (postConsumeQuota cfg info quota).run.Issues KeepsSolvent := by
  unfold postConsumeQuota postConsumeFunding
  grind

/-! ### Tasks -/

lemma keeps_billingRequest {P : TaskMovement → Prop} {req : Req} (h : BillingRequest P req) : KeepsSolvent req := by
  cases h with
  | read hs => exact fun φs x hx => (server_exec_read hs φs).symm ▸ hx
  | increaseUserQuota hn _ _ => exact keeps_stmt hn
  | postConsume _ _ =>
    exact keeps_tx fun x hx => wpE_postConsumeTx fun _ _ _ => hx.of_eq rfl rfl
  | decreaseUserQuota _ _ | increaseTokenQuota _ | decreaseTokenQuota _ | addTokenRecord _ | addUsedQuota
  | addRequestCount | updateUsedQuota | createLog => exact keeps_stmt trivial

lemma issues_of_bills {α : Type} {p : Prog Req Req.Resp α} (h : p.Issues (BillingRequest fun _ => True)) :
    p.Issues KeepsSolvent :=
  h.mono fun _ => keeps_billingRequest

/-! ### Orders -/

lemma OrderTx.solvent {y : DB} (h : OrderTx cfg rounding tradeNo c x y) (hcfg : 0 ≤ cfg.quotaPerUnit)
    (hx : Solvent x) : Solvent y := by
  cases h with
  | idle => exact hx
  | save hrow _ _ hy hu hsame =>
    exact hx.saveTopUp (by rw [hsame.1, hsame.2]; exact hx.orders _ _ hrow) hu hy
  | credit hrow _ _ hq hy hu hf _ hsame =>
    have hpos := hx.orders _ _ hrow
    have hsaved : Solvent { x with topUps := y.topUps } :=
      hx.saveTopUp (by rw [hsame.1, hsame.2]; exact hpos) rfl hy
    exact hsaved.update _ hu (fun u hu => hf u ▸ add_nonneg (hx.wallets _ u hu) (hq hpos.1 hpos.2 hcfg)) rfl

end

/-! ### Threads -/

/-- A call that moves the quota of a wallet. -/
inductive WalletCall
  | session (env : Env) (info : RelayInfo) (preConsumedQuota : Int) (calls : List SessionCall)
  | refundJob (job : RefundJob)
  | postConsumeQuota (info : RelayInfo) (quota : Int)
  | refundTaskQuota (id : Int) (task : Task)
  | recalculateTaskQuota (id : Int) (task : Task) (actualQuota : Int)
  | recalculateTaskQuotaByTokens (settings : TaskSettings) (id : Int) (task : Task) (totalTokens : Int)
  | topUp (now : Go.Time) (tradeNo : String) (call : TopUpCall)
  | increaseUserQuota (id quota : Int)
  | decreaseUserQuota (id quota : Int)

def sessionStep (cfg : Config) (s : BillingSession) : SessionCall → Prog Req Req.Resp BillingSession
  | .reserve env target => do return (← reserve cfg env s target).2
  | .settle actual => do return (← settle cfg s actual).2
  | .refund => return s.refund.1

namespace WalletCall

variable (cfg : Config) (rounding : Rounding)

def run : WalletCall → Prog Req Req.Resp (Except String Unit)
  | session env info preConsumedQuota calls => do
    match ← (newBillingSession cfg env info preConsumedQuota).run with
    | .error e => return .error e.1.message
    | .ok s => do
      let _ ← calls.foldlM (sessionStep cfg) s
      return .ok ()
  | refundJob job => (job.run cfg).run
  | postConsumeQuota info quota => (do let _ ← LoveApi.postConsumeQuota cfg info quota : Action Unit).run
  | refundTaskQuota id task => (LoveApi.refundTaskQuota cfg id task).run
  | recalculateTaskQuota id task actualQuota =>
    (do let _ ← LoveApi.recalculateTaskQuota cfg id task actualQuota : Action Unit).run
  | recalculateTaskQuotaByTokens settings id task totalTokens =>
    (do let _ ← LoveApi.recalculateTaskQuotaByTokens cfg settings id task totalTokens : Action Unit).run
  | topUp now tradeNo c => (c.run cfg rounding now tradeNo).run
  | increaseUserQuota id quota => (LoveApi.increaseUserQuota cfg id quota true).run
  | decreaseUserQuota id quota => (LoveApi.decreaseUserQuota cfg id quota true).run

end WalletCall

def walletBalance (id : Int) (db : DB) : Int := (userQuota id db).getD 0

def AddsToWallet (j : Int) (g : Int) (_ : Req) (x y : DB) (g' : Int) : Prop :=
  g' = g + (walletBalance j y - walletBalance j x)

def WalletCall.Adds (j : Int) (call : WalletCall) (r : Except String Unit) (g : Int) : Prop :=
  ∀ id n, call = .decreaseUserQuota id n → g = if j = id ∧ r.toBool then -n else 0

abbrev WalletSafe {α : Type} (j : Int) (p : Prog Req Req.Resp α) (Q : α → Int → Prop) (g : Int) : Prop :=
  Safe server (fun _ _ _ => True) (fun x _ => Solvent x) (AddsToWallet j) p Q g

section Threads

variable {call : WalletCall}

lemma safe_of_issues {α : Type} {p : Prog Req Req.Resp α} (h : p.Issues KeepsSolvent) :
    WalletSafe j p (fun _ _ => True) g :=
  Safe.of_issues (K := fun _ => True) h trivial fun _ hs _ φs x _ _ _ hx =>
    ⟨_, rfl, hs φs x hx, trivial⟩

lemma safe_creditEpayOrder {v : VerifyRes} : WalletSafe j (creditEpayOrder cfg v).run (fun _ _ => True) g := by
  refine Safe.attempt_bind (safe_read (fun _ => rfl) (fun x => ?_) (fun x _ hx => ?_) fun e => ?_)
  · simp [AddsToWallet]
  · simp only [Stmt.step]
    rcases hrow : x.topUps.row v.serviceTradeNo with _ | topUp
    · exact Safe.ret trivial
    · simp only [first]
      have hpos := hx.orders _ _ hrow
      exact safe_of_issues (by grind)
  · exact Safe.ret trivial

lemma safe_topUpCall (hcfg : 0 ≤ cfg.quotaPerUnit) : WalletSafe j
      (c.run cfg rounding now tradeNo).run (fun _ _ => True) g := by
  refine TopUpCall.run_cases (motive := fun p => WalletSafe j p.run (fun _ _ => True) g)
    (fun _ => Safe.ret trivial) (fun body h => ?_) ?_
  · have htx : (transaction body).run.Issues KeepsSolvent := issues_transaction <| keeps_tx fun x hx =>
      wpE_mono (h x) (fun _ _ hy => hy.solvent hcfg hx) fun _ _ _ => trivial
    exact ⟨safe_of_issues htx, fun f => safe_of_issues htx.mapError⟩
  · rintro type verifyStatus tradeSuccess rfl
    simp only [TopUpCall.run, epayNotify]
    split
    · exact Safe.ret trivial
    · split
      · exact Safe.ret trivial
      · refine Safe.bind_run (Safe.bind_run ((safe_creditEpayOrder).mono fun r g' _ => ?_))
        exact ⟨fun e _ => ⟨fun _ _ => trivial, by simp⟩, fun _ _ => ⟨fun _ _ => trivial, fun _ _ => trivial⟩⟩

lemma issues_sessionStep (s : BillingSession) (c : SessionCall) : (sessionStep cfg s c).Issues KeepsSolvent := by
  cases c <;> grind [sessionStep, issues_reserve, issues_settle]

lemma walletBalance_addUserQuota {id : Int} {u : User} (hu : x.users.row id = some u) :
    walletBalance j (x.addUserQuota id n) = walletBalance j x + if j = id then n else 0 := by
  have h := userQuota_update (x := x) j id (fun u => { u with quota := u.quota + n }) (g := (· + n))
    (fun _ => rfl) (y := x.addUserQuota id n) rfl
  unfold walletBalance
  rw [h]
  by_cases hj : j = id
  · subst hj
    simp [userQuota, hu]
  · cases userQuota j x <;> simp [hj]

lemma safe_decreaseUserQuota_adds {id : Int} : WalletSafe j
      ((WalletCall.decreaseUserQuota id n).run cfg rounding) ((WalletCall.decreaseUserQuota id n).Adds j) 0 := by
  refine safe_decreaseUserQuota (fun g _ x => ?_) (fun _ φs x rest u _ hx hu hn => ?_) fun e id' n' h => ?_
  · simp [AddsToWallet]
  · refine ⟨if j = id then -n else 0, ?_, ?_, fun id' n' h => ?_⟩
    · simp only [AddsToWallet, note_none, walletBalance_addUserQuota hu]
      omega
    · refine hx.update id rfl (fun v hv => ?_) rfl
      obtain rfl : u = v := some.inj (hu.symm.trans hv)
      show 0 ≤ u.quota + -n
      omega
    · obtain ⟨rfl, rfl⟩ := WalletCall.decreaseUserQuota.inj h
      simp [Except.toBool]
  · simp [Except.toBool]

lemma safe_topUpCall_adds (hcfg : 0 ≤ cfg.quotaPerUnit) : WalletSafe j
      ((WalletCall.topUp now tradeNo c).run cfg rounding) ((WalletCall.topUp now tradeNo c).Adds j) 0 :=
  (safe_topUpCall hcfg).mono fun _ _ _ id n h => by simp at h

lemma issues_walletCall (hcall : ∀ now tradeNo c, call ≠ .topUp now tradeNo c) :
    (call.run cfg rounding).Issues KeepsSolvent := by
  cases call with
  | session env info preConsumedQuota calls =>
    unfold WalletCall.run
    grind [issues_newBillingSession, Issues.foldlM, issues_sessionStep]
  | refundJob job => exact issues_refundJob job
  | postConsumeQuota info quota =>
    exact Issues.bind_run (issues_postConsumeQuota) fun _ => trivial
  | refundTaskQuota id task => exact issues_of_bills (bills_refundTaskQuota fun _ => trivial)
  | recalculateTaskQuota id task actualQuota =>
    exact Issues.bind_run (issues_of_bills (bills_recalculateTaskQuota fun _ _ => trivial)) fun _ => trivial
  | recalculateTaskQuotaByTokens settings id task totalTokens =>
    exact Issues.bind_run (issues_of_bills (bills_recalculateTaskQuotaByTokens fun _ _ => trivial)) fun _ => trivial
  | topUp now tradeNo c => exact absurd rfl (hcall now tradeNo c)
  | increaseUserQuota id n | decreaseUserQuota id n => grind [WalletCall.run]

attribute [local irreducible] WalletCall.run

lemma safe_walletCall (hcfg : 0 ≤ cfg.quotaPerUnit) {call : WalletCall} : WalletSafe j (call.run cfg rounding)
      (call.Adds j) 0 := by
  cases call with
  | topUp now tradeNo c =>
    exact safe_topUpCall_adds hcfg
  | decreaseUserQuota id n => exact safe_decreaseUserQuota_adds
  | _ =>
    refine (safe_of_issues (issues_walletCall (by simp))).mono ?_
    simp [WalletCall.Adds]

def walletThreads (cfg : Config) (rounding : Rounding) (calls : List WalletCall) :
    List (Prog Req Req.Resp (Except String Unit)) :=
  calls.map (WalletCall.run cfg rounding)

/-- What the requests of thread `i` have added to the balance of user `j`. -/
def addedToWallet (i : Nat) (j : Int) (trace : List (Event Req (List (Option String)) DB)) : Int :=
  ((trace.filter fun e => e.thread = i).map fun e => walletBalance j e.post - walletBalance j e.pre).sum

lemma shares_walletThreads (hcfg : 0 ≤ cfg.quotaPerUnit) {calls : List WalletCall} {db : DB} (h : Solvent db) :
    Shares server (fun _ _ _ _ => True) (fun x _ => Solvent x) (AddsToWallet j)
      (fun i r g => ∀ call ∈ calls[i]?, call.Adds j r g) (walletThreads cfg rounding calls, db)
      ((walletThreads cfg rounding calls).map fun _ => 0) := by
  refine Shares.init h fun i p hp => ?_
  obtain ⟨call, hc, rfl⟩ := map_eq_some_iff.mp (getElem?_map ▸ hp)
  refine (safe_walletCall hcfg).mono fun r g hg call' hc' => ?_
  obtain rfl : call = call' := some.inj (hc.symm.trans hc')
  exact hg

/-- In every interleaving of the statements of any number of billing calls, under every outcome
of each statement and whether or not quota is batched, no wallet goes below zero; and a
charge that has returned has taken its argument from the wallet of its user if it returned
nil, and nothing if it returned an error. -/
theorem wallets_stay_nonneg (cfg : Config) (rounding : Rounding) (hcfg : 0 ≤ cfg.quotaPerUnit)
    (calls : List WalletCall) {db : DB} (h : Solvent db) (sched : List (Nat × List (Option String))) :
    let c := Pool.run server sched (walletThreads cfg rounding calls, db)
    (∀ id quota, userQuota id c.2 = some quota → 0 ≤ quota) ∧
      ∀ i id n r, calls[i]? = some (.decreaseUserQuota id n) → c.1[i]? = some (.ret r) →
        ∀ j, addedToWallet i j (Pool.trace server sched (walletThreads cfg rounding calls, db)) =
          if j = id ∧ r.toBool then -n else 0 := by
  intro c
  have hmeets : Pool.Meets server (fun _ _ _ _ => True) sched (walletThreads cfg rounding calls, db) :=
    fun _ _ => trivial
  have hrun (j : Int) := (shares_walletThreads hcfg h).run_sum
    (δ := fun _ x y => walletBalance j y - walletBalance j x) (fun _ _ _ _ _ hG => hG) hmeets
  refine ⟨fun id quota hq => ?_, fun i id n r hcall hr j => ?_⟩
  · obtain ⟨gs, hs, -⟩ := hrun id
    obtain ⟨u, hu, rfl⟩ := map_eq_some_iff.mp hq
    exact hs.inv.wallets id u hu
  · obtain ⟨gs, hs, hsum⟩ := hrun j
    obtain ⟨hi, -⟩ := List.getElem?_eq_some_iff.mp hr
    obtain ⟨g, hg⟩ : ∃ g, gs[i]? = some g :=
      ⟨_, List.getElem?_eq_some_iff.mpr ⟨hs.length ▸ hi, rfl⟩⟩
    have hadds := hs.safe i _ g hr hg _ hcall id n rfl
    rw [← hadds]
    exact (hsum i g hg).symm

end Threads

theorem wallets_stay_nonneg_race :
    let calls := [WalletCall.decreaseUserQuota 1 70, WalletCall.decreaseUserQuota 1 60]
    let db : DB := { users := Table.empty.insert 1 { quota := 100 } }
    let c := Pool.run server [(1, []), (0, [])] (walletThreads {} {} calls, db)
    (∀ id quota, userQuota id c.2 = some quota → 0 ≤ quota) ∧
      addedToWallet 1 1 (Pool.trace server [(1, []), (0, [])] (walletThreads {} {} calls, db)) = -60 := by
  have hdb : Solvent { users := empty.insert 1 { quota := 100 } } :=
    ⟨fun id u hu => by
      rw [row_insert _ rfl] at hu
      split at hu
      · cases hu
        decide
      · simp [empty] at hu, fun _ _ ht => by simp [empty] at ht⟩
  have h := wallets_stay_nonneg {} {} (by norm_num) [.decreaseUserQuota 1 70, .decreaseUserQuota 1 60] hdb
    [(1, []), (0, [])]
  exact ⟨h.1, h.2 1 1 60 (.ok ()) rfl rfl 1⟩

/-- The wallet of a user with a quota of 5 after a call for their pending order. -/
def walletAfter (cfg : Config) (call : TopUpCall) (provider : PaymentProvider) (amount : Int) (money : ℚ) :
    Option Int :=
  let order : TopUp :=
    { userId := 1, amount := amount, money := money, paymentMethod := "", paymentProvider := provider,
      status := .pending }
  let db : DB := { users := empty.insert 1 { quota := 5 }, topUps := empty.insert "no" order }
  userQuota 1 (Pool.run server [(0, [])] (walletThreads cfg {} [.topUp 0 "no" call], db)).2

/-- No top-up checks what it adds: an order of Creem with a negative amount, one of Stripe with negative money and a
negative price of a unit take from the wallet without a condition on it. -/
theorem wallet_below_zero_counterexample : walletAfter {} (.rechargeCreem "") .creem (-10) 0 = some (-5) ∧
    walletAfter { quotaPerUnit := 1 } (.recharge "") .stripe 0 (-10) = some (-5) ∧
    walletAfter { quotaPerUnit := -1 } (.recharge "") .stripe 0 10 = some (-5) := by
  decide +kernel

end LoveApi.Proofs
