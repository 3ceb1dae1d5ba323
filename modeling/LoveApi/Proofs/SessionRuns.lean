import LoveApi.Proofs.SessionLedger

/-!
# Whole runs of a billing session

A session that `newBillingSession` returns satisfies the ledger, whichever funding source it ended up with, and so does
every later state of it.
-/

namespace LoveApi.Proofs

open Program Prog Go BillingSession List Option

variable {cfg : Config} {s : BillingSession} {quota base : Int} {info : RelayInfo} {c : SessionCall × Faults}

/-! ### Opening a session -/

/-- What an account had paid when a session was created. A subscription is charged after a due
reset of its quota. -/
def OpeningBalance (cfg : Config) (env : Env) (start : DB) (acct : Account) (base : Int) : Prop :=
  match acct with
  | .wallet _ => base = acct.paid start
  | .subscription id => ∃ sub plan, start.subscriptions.row id = some sub ∧
      planOf env start sub.planId = some plan ∧ base = (afterReset cfg sub plan env.now).amountUsed

def OpenedOn (cfg : Config) (env : Env) (tid : Int) (start : DB) (s : BillingSession) (db : DB) : Prop :=
  ∃ base, OpeningBalance cfg env start (fundingAccount s.funding) base ∧
    SessionLedger start base (fundingAccount s.funding) tid ⟨s, db, .opened⟩

section Opening

variable {env : Env} {db y : DB}
variable {f : SubscriptionFunding} {w : WalletFunding}

lemma tokenBalance_tokenTaken (hn : 0 ≤ effectiveQuota cfg env s quota)
    (h : TokenUsable s.relayInfo db) :
    tokenBalance s.relayInfo.tokenId (tokenTaken cfg env s quota db) = tokenBalance s.relayInfo.tokenId db -
      (if s.relayInfo.isPlayground then 0 else effectiveQuota cfg env s quota) := by
  unfold tokenTaken
  by_cases hpos : 0 < effectiveQuota cfg env s quota
  · rw [if_pos hpos]
    exact tokenBalance_takeToken _ _ h
  · split <;> omega

lemma isSome_tokens_tokenTaken {j : Int} :
    ((tokenTaken cfg env s quota db).tokens.row j).isSome = (db.tokens.row j).isSome := by
  unfold tokenTaken
  split
  · exact isSome_tokens_takeToken j
  · rfl

lemma tokenTaken_frame (cfg : Config) (env : Env) (s : BillingSession) (quota : Int) (db : DB) :
    (tokenTaken cfg env s quota db).users = db.users ∧
    (tokenTaken cfg env s quota db).subscriptions = db.subscriptions ∧
    (tokenTaken cfg env s quota db).plans = db.plans ∧
    (tokenTaken cfg env s quota db).preConsumeRecords = db.preConsumeRecords := by
  unfold tokenTaken takeToken adjustToken
  split_ifs <;> exact ⟨rfl, rfl, rfl, rfl⟩

structure Unused (s : BillingSession) : Prop where
  settled : s.settled = false
  refunded : s.refunded = false
  fundingSettled : s.fundingSettled = false
  extraReserved : s.extraReserved = 0

variable (htok : TokenUsable s.relayInfo db)

include htok

lemma ledger_opened {f : FundingSource} (hs : Unused s) (hn : 0 ≤ effectiveQuota cfg env s quota)
    (hpaid : (fundingAccount f).paid y = base + effectiveQuota cfg env s quota) (hrow : (fundingAccount f).exists y)
    (hbase : ∀ id, fundingAccount f = .subscription id → 0 ≤ base)
    (htokens : y.tokens = (tokenTaken cfg env s quota db).tokens)
    (hstores : y.batchUpdateStores = (tokenTaken cfg env s quota db).batchUpdateStores)
    (hopen : FundingOpen (opened cfg env s quota f) y) :
    SessionLedger db base (fundingAccount f) s.relayInfo.tokenId ⟨opened cfg env s quota f, y, .opened⟩ := by
  have hbal := tokenBalance_tokenTaken hn htok
  rw [← tokenBalance_congr _ htokens hstores] at hbal
  constructor
  case tokenId => exact tokenId_mirroredInfo _
  case account => rfl
  case base_nonneg => exact hbase
  case accountRow => exact hrow
  case tokenRow =>
    simp only [TokenUsable, opened, syncRelayInfo, tokenId_mirroredInfo, isPlayground_mirroredInfo, htokens,
      isSome_tokens_tokenTaken]
    exact htok
  case funding => exact hpaid
  case token =>
    simp only [opened, syncRelayInfo, tokenId_mirroredInfo, isPlayground_mirroredInfo, Phase.tokenTaken]
    exact hbal
  case openSession =>
    exact fun _ => ⟨hs.settled, hs.refunded, hs.fundingSettled, hn, max_eq_right hn, hopen⟩
  case settled => simp
  case refunded => simp

lemma openedOn_wallet (hs : Unused s) (hn : 0 ≤ effectiveQuota cfg env s quota)
    (hw : w.consumed = effectiveQuota cfg env s quota)
    (hpaid : (Account.wallet w.userId).paid y = (Account.wallet w.userId).paid db + effectiveQuota cfg env s quota)
    (hrow : (Account.wallet w.userId).exists y)
    (htokens : y.tokens = (tokenTaken cfg env s quota db).tokens)
    (hstores : y.batchUpdateStores = (tokenTaken cfg env s quota db).batchUpdateStores) :
    OpenedOn cfg env s.relayInfo.tokenId db (opened cfg env s quota (.wallet w)) y := by
  have hbase : ∀ id, fundingAccount (.wallet w) = .subscription id →
      0 ≤ (Account.wallet w.userId).paid db := by simp [fundingAccount]
  exact ⟨_, rfl, ledger_opened htok hs hn hpaid hrow hbase htokens hstores hw⟩

lemma openedOn_wallet_of_paid {f : FundingSource} (hs : Unused s) (hf : s.funding = .wallet w) (hw : w.consumed = 0)
    (hq : 0 ≤ quota) (huser : (db.users.row w.userId).isSome)
    (h : FundingPaid cfg env (effectiveQuota cfg env s quota) (tokenTaken cfg env s quota db) s.funding f y) :
    OpenedOn cfg env s.relayInfo.tokenId db (opened cfg env s quota f) y := by
  have hn : 0 ≤ effectiveQuota cfg env s quota := by
    unfold effectiveQuota
    split <;> omega
  obtain ⟨husers, -, -, -⟩ := tokenTaken_frame cfg env s quota db
  have hpaid₀ : (Account.wallet w.userId).paid (tokenTaken cfg env s quota db) =
      (Account.wallet w.userId).paid db := by
    simp only [Account.paid, husers]
  have hrow₀ : (Account.wallet w.userId).exists (tokenTaken cfg env s quota db) := by
    simpa only [Account.exists, husers] using huser
  rw [hf] at h
  cases h with
  | free h₀ => exact openedOn_wallet htok hs hn (by omega) (by omega) hrow₀ rfl rfl
  | wallet hpos hu hle =>
    have hm : FundingMoved (effectiveQuota cfg env s quota) (tokenTaken cfg env s quota db) (.wallet w) _ := rfl
    obtain ⟨hp, he, ht, hst, -⟩ := hm.frame hrow₀
    simp only [fundingAccount, paidAfter, hpaid₀] at hp
    exact openedOn_wallet htok hs hn rfl hp he ht hst

lemma openedOn_subscription {r : SubscriptionPreConsumeResult} (hs : Unused s)
    (hn : effectiveQuota cfg env s quota = quota) (hq : 0 < quota) (htrim : trimSpace f.requestId ≠ "")
    (hfresh : (tokenTaken cfg env s quota db).preConsumeRecords.row f.requestId = none)
    (hpre : PreConsumed cfg env f.requestId f.userId quota (tokenTaken cfg env s quota db) r y)
    (hid : f.subscriptionId = r.userSubscriptionId) (hpc : f.preConsumed = r.preConsumed) :
    OpenedOn cfg env s.relayInfo.tokenId db (opened cfg env s quota (.subscription f)) y := by
  obtain ⟨-, hsubs, hplans, -⟩ := tokenTaken_frame cfg env s quota db
  obtain ⟨sub, plan, hmem, hplan, hfit, hrow'⟩ := hpre.charged
  have hrow := row_of_mem_activeSubscriptions hmem
  rw [hsubs, ← hid] at hrow
  rw [planOf, hplans] at hplan
  rw [← hid] at hrow'
  have hopen : FundingOpen (opened cfg env s quota (.subscription f)) y := by
    have hinfo := subscriptionId_mirroredInfo { s with
      funding := .subscription f
      trusted := shouldTrust cfg env s
      tokenConsumed := max 0 (effectiveQuota cfg env s quota)
      preConsumedQuota := effectiveQuota cfg env s quota } rfl
    simp only [FundingOpen, opened, syncRelayInfo]
    refine ⟨?_, ?_, hs.extraReserved.ge, hinfo, htrim, ⟨f.userId, ?_⟩, fun sub₁ h₁ => ?_⟩
    · rw [hn, hpc, hpre.preConsumed, hs.extraReserved, add_zero]
    · rwa [hpc, hpre.preConsumed]
    · rw [hpre.record hfresh, hid, hpc, hpre.preConsumed]
    · obtain rfl := some.inj (hrow'.symm.trans h₁)
      intro ht
      simp only [Fits, UserSubscription.consume] at hfit ht ⊢
      omega
  have hpaid : (Account.subscription f.subscriptionId).paid y =
      (afterReset cfg sub plan env.now).amountUsed + effectiveQuota cfg env s quota := by
    simp only [Account.paid, usedAmount, hrow', elim_some, UserSubscription.consume, hn]
  have hexists : (Account.subscription f.subscriptionId).exists y := by
    simp only [Account.exists, hrow', isSome_some]
  exact ⟨(afterReset cfg sub plan env.now).amountUsed, ⟨sub, plan, hrow, hplan, rfl⟩,
    ledger_opened htok hs (by omega) hpaid hexists
      (fun _ _ => (afterReset cfg sub plan env.now).used_nonneg) hpre.tokens hpre.stores hopen⟩

omit htok

lemma OpenedFrom.openedOn (h : OpenedFrom cfg env info quota db s y) (hq : 0 ≤ quota) (htok : TokenUsable info db)
    (hfresh : db.preConsumeRecords.row info.requestId = none) : OpenedOn cfg env info.tokenId db s y := by
  cases h with
  | wallet userQuota huser h =>
    obtain ⟨funding, rfl, hpaid⟩ := h
    exact openedOn_wallet_of_paid htok ⟨rfl, rfl, rfl, rfl⟩ rfl rfl hq huser hpaid
  | subscription userQuota h =>
    obtain ⟨funding, rfl, hpaid⟩ := h
    cases hpaid with
    | subscription planId planTitle htrim hpre =>
      rcases hpre with ⟨record, hrec, -⟩ | ⟨hnone, hpre⟩
      · rw [(tokenTaken_frame ..).2.2.2, hfresh] at hrec
        cases hrec
      · -- a subscription is never trusted
        exact openedOn_subscription htok ⟨rfl, rfl, rfl, rfl⟩ (by simp [effectiveQuota, shouldTrust]) (by omega) htrim
          hnone hpre rfl rfl

end Opening

/-! ### Sequences of calls -/

section

variable {start : DB} {tid : Int} {acct : Account} {st : SessionState} {calls : List (SessionCall × Faults)}

lemma refunded_of_callStep (h : (callStep cfg st c).phase = .refunded) : st.phase = .refunded ∨ c.1.isRefund := by
  obtain ⟨call, φs⟩ := c
  cases call with
  | reserve env target => exact .inl h
  | settle actual =>
    simp only [callStep, Phase.afterSettle] at h
    cases hp : st.phase with
    | opened =>
      rw [hp] at h
      simp only at h
      split at h <;> simp at h
    | settled a done => simp [hp] at h
    | refunded => exact .inl rfl
  | refund => exact .inr rfl

lemma refunded_of_runCalls (h : (runCalls cfg st calls).phase = .refunded) :
    st.phase = .refunded ∨ ∃ c ∈ calls, c.1.isRefund := by
  induction calls generalizing st with
  | nil => exact .inl h
  | cons c calls ih =>
    rcases ih h with hp | ⟨d, hd, hr⟩
    · rcases refunded_of_callStep hp with hp | hr
      · exact .inl hp
      · exact .inr ⟨c, mem_cons_self, hr⟩
    · exact .inr ⟨d, mem_cons_of_mem c hd, hr⟩

/-- Every sequence of calls keeps the ledger. -/
theorem ledger_runCalls (h : SessionLedger start base acct tid st) (horder : NoSettleAfterRefund calls)
    (hp : st.phase = .refunded → ∀ c ∈ calls, c.1.isSettle = false)
    (hroll : RollbacksSucceed cfg st calls) :
    SessionLedger start base acct tid (runCalls cfg st calls) := by
  induction calls generalizing st with
  | nil => exact h
  | cons c calls ih =>
    obtain ⟨hhead, htail⟩ := pairwise_cons.mp horder
    have hstep := ledger_callStep h c hroll.1 fun hr => hp hr c mem_cons_self
    refine ih hstep htail (fun hr d hd => ?_) hroll.2
    rcases refunded_of_callStep hr with hr | hr
    · exact hp hr d (mem_cons_of_mem c hd)
    · exact hhead d hd hr

lemma db_callStep_of_done (h : SessionLedger start base acct tid st) (hd : st.phase ≠ .opened)
    (hp : st.phase = .refunded → c.1.isSettle = false) :
    (callStep cfg st c).db = st.db := by
  have hdone : st.session.settled ∨ st.session.refunded := by
    cases hph : st.phase with
    | opened => exact (hd hph).elim
    | settled a done => exact .inl (h.settled a done hph)
    | refunded => exact .inr (h.refunded hph)
  obtain ⟨call, φs⟩ := c
  cases call with
  | reserve env target =>
    have hc : (st.session.settled || st.session.refunded || st.session.trusted ||
        decide (target ≤ st.session.preConsumedQuota)) = true := by
      rcases hdone with hs | hr <;> simp [*]
    simp [callStep, reserve, hc, eval]
  | settle actual =>
    have hs : st.session.settled = true := by
      cases hph : st.phase with
      | opened => exact (hd hph).elim
      | settled a done => exact h.settled a done hph
      | refunded => simpa [SessionCall.isSettle] using hp hph
    simp [callStep, eval_settle_of_settled cfg hs]
  | refund =>
    have hr : st.session.refund = (st.session, none) := by
      rcases hdone with hs | hr <;> simp [BillingSession.refund, *]
    simp [callStep, hr]

end

section

attribute [local irreducible] newBillingSession

/-- What a session has taken from its funding source and from its token since it was created is
what its phase says, and once it is settled or refunded no call moves any quota. The session is
created in `db`, or in what a first attempt left there whose charge of the token could not be
given back. -/
theorem session_takes_amount_of_phase {cfg : Config} {env : Env} {info : RelayInfo} {quota : Int}
    {db db₁ : DB} {φs : Faults} {s : BillingSession} {calls : List (SessionCall × Faults)}
    (hq : 0 ≤ quota) (htok : info.isPlayground = false → (db.tokens.row info.tokenId).isSome)
    (hfresh : db.preConsumeRecords.row info.requestId = none)
    (hopen : (newBillingSession cfg env info quota).run.eval server [] φs db = (.ok s, db₁))
    (horder : NoSettleAfterRefund calls) (hroll : RollbacksSucceed cfg ⟨s, db₁, .opened⟩ calls) :
    ∃ start base, (start = db ∨ LeftCharged cfg info quota db start ∧
        ¬(newBillingSession cfg env info quota).run.Meets server [] TokenRollbackSucceeds φs db) ∧
      OpeningBalance cfg env start (fundingAccount s.funding) base ∧
      let st := runCalls cfg ⟨s, db₁, .opened⟩ calls
      (fundingAccount s.funding).paid st.db = base + st.phase.fundingTaken st.session base ∧
      tokenBalance info.tokenId st.db = tokenBalance info.tokenId start - st.phase.tokenTaken st.session ∧
      ∀ call, st.phase ≠ .opened → NoSettleAfterRefund (calls ++ [call]) → (callStep cfg st call).db = st.db := by
  obtain ⟨start, hstart, base, hbase, hledger⟩ : ∃ start, (start = db ∨ LeftCharged cfg info quota db start ∧
        ¬(newBillingSession cfg env info quota).run.Meets server [] TokenRollbackSucceeds φs db) ∧
      OpenedOn cfg env info.tokenId start s db₁ := by
    by_cases hA : (newBillingSession cfg env info quota).run.Meets server [] TokenRollbackSucceeds φs db
    · obtain ⟨start, hstart, hs⟩ := ok_of_wpE (wpE_newBillingSession (L := False) fun _ _ _ _ h => h) hA hopen
      obtain rfl := hstart.resolve_right And.left
      exact ⟨start, .inl rfl, hs.openedOn hq htok hfresh⟩
    · obtain ⟨start, hstart, hs⟩ := ok_of_wpE (wpE_newBillingSession (A := fun _ _ _ => True) (L := True)
        fun h => (h trivial).elim) (meets_of_forall (fun _ _ _ => trivial) φs db) hopen
      have husable : TokenUsable info start ∧ start.preConsumeRecords.row info.requestId = none := by
        rcases hstart with rfl | ⟨-, n, -, rfl⟩
        · exact ⟨htok, hfresh⟩
        · rw [TokenUsable, isSome_tokens_takeToken, records_takeToken]
          exact ⟨htok, hfresh⟩
      exact ⟨start, hstart.imp_right fun h => ⟨h.2, hA⟩, hs.openedOn hq husable.1 husable.2⟩
  have hrun := ledger_runCalls hledger horder (by simp) hroll
  refine ⟨start, base, hstart, hbase, hrun.funding, hrun.tokenId ▸ hrun.token, fun call hd hnext => ?_⟩
  refine db_callStep_of_done hrun hd fun hr => ?_
  rcases refunded_of_runCalls hr with hp | ⟨c, hc, hcr⟩
  · simp at hp
  · exact (pairwise_append.mp hnext).2.2 c hc call mem_cons_self hcr

end

def fundedUser : DB where
  users := Table.empty.insert 1 { quota := 100 }
  tokens := Table.empty.insert 1 { key := "sk-1", remainQuota := 50 }

/-- A session that is settled at 15 has taken 15. -/
theorem session_takes_amount_of_phase_settled :
    ∃ s db₁, (newBillingSession {} {} walletRequest 10).run.eval server [] [] fundedUser = (.ok s, db₁) ∧
      ∃ start base, OpeningBalance {} {} start (.wallet 1) base ∧
        let st := runCalls {} ⟨s, db₁, .opened⟩ [(.reserve {} 20, []), (.settle 15, [])]
        st.phase = .settled 15 true ∧ (Account.wallet 1).paid st.db = base + 15 ∧
          tokenBalance 1 st.db = tokenBalance 1 start - 15 := by
  refine ⟨_, _, rfl, ?_⟩
  obtain ⟨start, base, -, hbase, hfunding, htoken, -⟩ :=
    @session_takes_amount_of_phase {} {} walletRequest 10 fundedUser _ [] _
      [(.reserve {} 20, []), (.settle 15, [])] (by decide) (fun _ => rfl) rfl rfl
      (by simp [NoSettleAfterRefund, SessionCall.isRefund])
      ⟨fun env target h => by
        obtain ⟨rfl, rfl⟩ := SessionCall.reserve.inj h
        exact ⟨fun h => h.elim, fun h => h.elim, fun h => h.elim, trivial⟩,
        fun env target h => (nomatch h), trivial⟩
  exact ⟨start, base, hbase, rfl, hfunding, htoken⟩

/-- Subscription 1 of user 1 has used 30, and the request id of `walletRequest` has charged it
before. -/
def reusedRequest : DB where
  tokens := Table.empty.insert 1 { key := "sk-1", remainQuota := 50 }
  subscriptions := Table.empty.insert 1
    { userId := 1, planId := 1, amountTotal := 100, amountUsed := 30, used_nonneg := by decide
      startTime := 0, endTime := 10, status := .active }
  preConsumeRecords := Table.empty.insert "req-1"
    { userId := 1, userSubscriptionId := 1, preConsumed := 10, status := .consumed }

/-- Four sessions that have not taken what was asked for. A `Settle` for 15 whose token update
fails is not retried: the next `Settle`, for 20, returns nil and takes nothing. A `Reserve` that
cannot give back what it took leaves the wallet charged, and a `Settle` for 0 does not notice. A
negative pre-consume is counted and never made. A request id that has charged a subscription
before does not charge it again. -/
theorem session_totals_differ :
    (∃ s db₁, (newBillingSession {} {} walletRequest 10).run.eval server [] [] fundedUser = (.ok s, db₁) ∧
      ∃ err s₁ db₂, (settle {} s 15).eval server [] [[], [some "connection lost"]] db₁ = ((.error err, s₁), db₂) ∧
        ∃ s₂ db₃, (settle {} s₁ 20).eval server [] [] db₂ = ((.ok (), s₂), db₃) ∧ userQuota 1 db₃ = some (100 - 15)) ∧
    (∃ s db₁, (newBillingSession {} {} walletRequest 0).run.eval server [] [] smallToken = (.ok s, db₁) ∧
      ∃ err s₁ db₂, (reserve {} {} s 50).eval server [] [[], [], [some "connection lost"]] db₁ =
        ((.error err, s₁), db₂) ∧
        ∃ s₂ db₃, (settle {} s₁ 0).eval server [] [] db₂ = ((.ok (), s₂), db₃) ∧ userQuota 1 db₃ = some (100 - 50)) ∧
    (∃ s db₁, (newBillingSession {} {} walletRequest (-10)).run.eval server [] [] fundedUser = (.ok s, db₁) ∧
      s.preConsumedQuota = -10 ∧ userQuota 1 db₁ = some 100) ∧
    ∃ s db₁, (newBillingSession {} {} { walletRequest with billingPreference := "subscription_only" }
        10).run.eval server [] [] reusedRequest = (.ok s, db₁) ∧
      s.preConsumedQuota = 10 ∧ usedAmount 1 db₁ = 30 := by
  refine ⟨?_, ?_, ?_, ?_⟩
  · refine ⟨_, _, rfl, ?_⟩
    refine ⟨_, _, _, rfl, ?_⟩
    refine ⟨_, _, rfl, ?_⟩
    rfl
  · refine ⟨_, _, rfl, ?_⟩
    refine ⟨_, _, _, rfl, ?_⟩
    refine ⟨_, _, rfl, ?_⟩
    rfl
  · refine ⟨_, _, rfl, ?_⟩
    exact ⟨rfl, rfl⟩
  · refine ⟨_, _, rfl, ?_⟩
    exact ⟨rfl, rfl⟩

end LoveApi.Proofs
