import LoveApi.Proofs.BillingSession

/-!
# The ledger of a billing session

`SessionLedger` ties the phase and the fields of a session to what has been taken from its funding source and its token,
and every call keeps it.
-/

namespace LoveApi.Proofs

open Program Prog Go BillingSession Option

variable {cfg : Config} {db start y : DB} {n base tid : Int} {info : RelayInfo} {f : FundingSource} {s : BillingSession}
  {A : Req → List (Option String) → DB → Prop} {Q : Unit → DB → Prop} {E : String → DB → Prop}

/-! ### Calls on a session -/

/-- A call on an open session. -/
inductive SessionCall
  | reserve (env : Env) (target : Int)
  | settle (actual : Int)
  | refund

def SessionCall.isSettle : SessionCall → Bool
  | settle _ => true
  | _ => false

def SessionCall.isRefund : SessionCall → Bool
  | refund => true
  | _ => false

inductive Phase
  | opened
  | settled (actual : Int) (tokenDone : Bool)
  | refunded
deriving DecidableEq, Repr

structure SessionState where
  session : BillingSession
  db : DB
  phase : Phase := .opened

def Phase.afterSettle (p : Phase) (actual : Int) (r : Except String Unit) (s : BillingSession) : Phase :=
  match p with
  | opened => if s.settled then settled actual r.toBool else opened
  | p => p

def Phase.afterRefund : Phase → Phase
  | opened => refunded
  | p => p

/-- One call. The background job of a refund runs at once and without faults. -/
def callStep (cfg : Config) (st : SessionState) : SessionCall × Faults → SessionState
  | (.reserve env target, φs) =>
    let r := (reserve cfg env st.session target).eval server [] φs st.db
    { st with session := r.1.2, db := r.2 }
  | (.settle actual, φs) =>
    let r := (settle cfg st.session actual).eval server [] φs st.db
    { session := r.1.2, db := r.2, phase := st.phase.afterSettle actual r.1.1 r.1.2 }
  | (.refund, _) =>
    match st.session.refund with
    | (s, none) => { st with session := s }
    | (s, some job) =>
      { session := s
        db := ((job.run cfg).run.eval server [] [] st.db).2
        phase := st.phase.afterRefund }

/-- The session after the calls. -/
def runCalls (cfg : Config) (st : SessionState) (calls : List (SessionCall × Faults)) : SessionState :=
  calls.foldl (callStep cfg) st

/-- In every `Reserve` of the run the compensating change of the funding source succeeds. -/
def RollbacksSucceed (cfg : Config) : SessionState → List (SessionCall × Faults) → Prop
  | _, [] => True
  | st, c :: calls =>
    (∀ env target, c.1 = .reserve env target →
      (reserve cfg env st.session target).Meets server [] FundingRollbackSucceeds c.2 st.db) ∧
    RollbacksSucceed cfg (callStep cfg st c) calls

/-- No settlement follows a refund. -/
def NoSettleAfterRefund (calls : List (SessionCall × Faults)) : Prop :=
  calls.Pairwise fun c d => c.1.isRefund → d.1.isSettle = false

/-! ### What has been taken -/

/-- What pays for a session. -/
inductive Account
  | wallet (userId : Int)
  | subscription (id : Int)
deriving DecidableEq, Repr

def fundingAccount : FundingSource → Account
  | .wallet w => .wallet w.userId
  | .subscription s => .subscription s.subscriptionId

/-- How much an account has paid, up to a constant: a wallet pays by its quota going down, a
subscription by its used amount going up. -/
def Account.paid (db : DB) : Account → Int
  | wallet userId => -((db.users.row userId).elim 0 User.quota)
  | subscription id => usedAmount id db

def Account.exists (db : DB) : Account → Bool
  | wallet userId => (db.users.row userId).isSome
  | subscription id => (db.subscriptions.row id).isSome

/-- What is left on a token, in its row and in the batch counter. -/
def tokenBalance (id : Int) (db : DB) : Int :=
  (db.tokens.row id).elim 0 Token.remainQuota + db.batchUpdateStores .tokenQuota id

/-- The token of a request has a row, unless the request comes from the playground, which uses a token that is not
stored. -/
def TokenUsable (info : RelayInfo) (db : DB) : Prop := info.isPlayground = false → (db.tokens.row info.tokenId).isSome

/-- What a session has taken from its account. The used amount of a subscription does not go
below zero. -/
def Phase.fundingTaken (s : BillingSession) (base : Int) : Phase → Int
  | opened => s.preConsumedQuota
  | settled actual _ =>
    match s.funding with
    | .wallet _ => actual
    | .subscription _ => max actual (-base)
  | refunded => 0

/-- What the token has paid in a phase. -/
def Phase.tokenTaken (s : BillingSession) (p : Phase) : Int :=
  if s.relayInfo.isPlayground then 0
  else
    match p with
    | opened => s.preConsumedQuota
    | settled actual tokenDone => if tokenDone then actual else s.preConsumedQuota
    | refunded => 0

def FundingOpen (s : BillingSession) (db : DB) : Prop :=
  match s.funding with
  | .wallet w => w.consumed = s.preConsumedQuota
  | .subscription f =>
    f.preConsumed + s.extraReserved = s.preConsumedQuota ∧ 0 < f.preConsumed ∧ 0 ≤ s.extraReserved ∧
      s.relayInfo.subscriptionId = f.subscriptionId ∧ trimSpace f.requestId ≠ "" ∧
      (∃ userId, db.preConsumeRecords.row f.requestId =
        some ⟨userId, f.subscriptionId, f.preConsumed, .consumed⟩) ∧
      ∀ sub, db.subscriptions.row f.subscriptionId = some sub →
        sub.amountTotal > 0 → sub.amountUsed ≤ sub.amountTotal

structure OpenSession (s : BillingSession) (db : DB) : Prop where
  settled : s.settled = false
  refunded : s.refunded = false
  fundingSettled : s.fundingSettled = false
  nonneg : 0 ≤ s.preConsumedQuota
  tokenConsumed : s.tokenConsumed = s.preConsumedQuota
  funding : FundingOpen s db

/-- The invariant of a session on token `tid` that was created in `start` on an account that
had paid `base`. -/
structure SessionLedger (start : DB) (base : Int) (acct : Account) (tid : Int) (st : SessionState) :
    Prop where
  tokenId : st.session.relayInfo.tokenId = tid
  account : fundingAccount st.session.funding = acct
  base_nonneg : ∀ id, acct = .subscription id → 0 ≤ base
  accountRow : acct.exists st.db
  tokenRow : TokenUsable st.session.relayInfo st.db
  funding : acct.paid st.db = base + st.phase.fundingTaken st.session base
  token : tokenBalance st.session.relayInfo.tokenId st.db =
    tokenBalance st.session.relayInfo.tokenId start - st.phase.tokenTaken st.session
  openSession : st.phase = .opened → OpenSession st.session st.db
  settled : ∀ a done, st.phase = .settled a done → st.session.settled = true
  refunded : st.phase = .refunded → st.session.refunded = true

/-! ### How the steps of a call change the balances -/

section

variable {db' : DB} {id : Int}
variable {acct : Account}

@[simp] lemma users_adjustToken : (adjustToken cfg db id n).users = db.users := by
  unfold adjustToken
  split <;> rfl

@[simp] lemma subscriptions_adjustToken : (adjustToken cfg db id n).subscriptions = db.subscriptions := by
  unfold adjustToken
  split <;> rfl

@[simp] lemma records_adjustToken : (adjustToken cfg db id n).preConsumeRecords = db.preConsumeRecords := by
  unfold adjustToken
  split <;> rfl

lemma isSome_tokens_adjustToken {j : Int} :
    ((adjustToken cfg db id n).tokens.row j).isSome = (db.tokens.row j).isSome := by
  unfold adjustToken
  split
  · rfl
  · simp only [DB.addTokenQuota, Table.row_update]
    split
    · next hj => rw [isSome_map, hj]
    · rfl

lemma tokenBalance_adjustToken (h : (db.tokens.row id).isSome) :
    tokenBalance id (adjustToken cfg db id n) = tokenBalance id db + n := by
  obtain ⟨t, ht⟩ := isSome_iff_exists.mp h
  unfold tokenBalance adjustToken
  split
  · simp only [DB.addRecord, and_self, if_true]
    omega
  · simp only [DB.addTokenQuota, Table.row_update_self, ht, map_some, elim_some]
    omega

@[simp] lemma users_takeToken : (takeToken cfg info db n).users = db.users := by
  unfold takeToken
  split <;> simp

@[simp] lemma subscriptions_takeToken : (takeToken cfg info db n).subscriptions = db.subscriptions := by
  unfold takeToken
  split <;> simp

@[simp] lemma records_takeToken : (takeToken cfg info db n).preConsumeRecords = db.preConsumeRecords := by
  unfold takeToken
  split <;> simp

lemma isSome_tokens_takeToken (j : Int) :
    ((takeToken cfg info db n).tokens.row j).isSome = (db.tokens.row j).isSome := by
  unfold takeToken
  split
  · rfl
  · exact isSome_tokens_adjustToken

lemma tokenBalance_takeToken (cfg : Config) (n : Int) (h : TokenUsable info db) :
    tokenBalance info.tokenId (takeToken cfg info db n) =
      tokenBalance info.tokenId db - (if info.isPlayground then 0 else n) := by
  unfold takeToken
  split
  · omega
  · next hp =>
    rw [tokenBalance_adjustToken (h (by simpa using hp))]
    omega

lemma exists_takeToken : acct.exists (takeToken cfg info db n) = acct.exists db := by
  cases acct <;> simp [Account.exists]

lemma paid_takeToken : acct.paid (takeToken cfg info db n) = acct.paid db := by
  cases acct <;> simp [Account.paid, usedAmount]

lemma usedAmount_nonneg (id : Int) (db : DB) : 0 ≤ usedAmount id db := by
  unfold usedAmount
  cases db.subscriptions.row id with
  | none => exact le_refl 0
  | some sub => exact sub.used_nonneg

def FundingMoved (n : Int) (db : DB) (f : FundingSource) (db' : DB) : Prop :=
  match f with
  | .wallet w => db' = db.addUserQuota w.userId (-n)
  | .subscription s => ∃ sub, db.subscriptions.row s.subscriptionId = some sub ∧ ¬Exceeds sub n ∧
      db' = db.setSubscription s.subscriptionId (sub.adjust n)

def paidAfter (f : FundingSource) (paid n : Int) : Int :=
  match f with
  | .wallet _ => paid + n
  | .subscription _ => max 0 (paid + n)

lemma FundingMoved.frame (h : FundingMoved n db f db') (he : (fundingAccount f).exists db) :
    (fundingAccount f).paid db' = paidAfter f ((fundingAccount f).paid db) n ∧ (fundingAccount f).exists db' ∧
      db'.tokens = db.tokens ∧ db'.batchUpdateStores = db.batchUpdateStores ∧
      db'.preConsumeRecords = db.preConsumeRecords := by
  cases f with
  | wallet w =>
    obtain rfl := h
    obtain ⟨u, hu⟩ := isSome_iff_exists.mp he
    refine ⟨?_, ?_, rfl, rfl, rfl⟩
    · simp only [fundingAccount, Account.paid, paidAfter, DB.addUserQuota, Table.row_update_self, hu,
        map_some, elim_some]
      omega
    · simp [fundingAccount, Account.exists, DB.addUserQuota, hu]
  | subscription s =>
    obtain ⟨sub, hrow, -, rfl⟩ := h
    have hrow' := row_setSubscription_self (sub.adjust n) hrow
    refine ⟨?_, ?_, rfl, rfl, rfl⟩
    · simp only [fundingAccount, Account.paid, paidAfter, usedAmount]
      rw [hrow', hrow]
      rfl
    · simp only [fundingAccount, Account.exists]
      rw [hrow']
      rfl

lemma tokenBalance_congr (id : Int) (ht : db'.tokens = db.tokens)
    (hs : db'.batchUpdateStores = db.batchUpdateStores) : tokenBalance id db' = tokenBalance id db := by
  unfold tokenBalance
  rw [ht, hs]

end

/-! ### The calls keep the ledger -/

section

variable (s : BillingSession)

@[simp] lemma tokenId_mirroredInfo : (mirroredInfo s).tokenId = s.relayInfo.tokenId := by
  unfold mirroredInfo
  cases s.funding <;> rfl

@[simp] lemma isPlayground_mirroredInfo : (mirroredInfo s).isPlayground = s.relayInfo.isPlayground := by
  unfold mirroredInfo
  cases s.funding <;> rfl

lemma subscriptionId_mirroredInfo {f : SubscriptionFunding} (h : s.funding = .subscription f) :
    (mirroredInfo s).subscriptionId = f.subscriptionId := by
  unfold mirroredInfo
  rw [h]

end

section Reserve

variable {acct : Account} {st : SessionState}
variable {f' : FundingSource}

lemma SessionLedger.opened_of_not_done (h : SessionLedger start base acct tid st)
    (hs : st.session.settled = false) (hr : st.session.refunded = false) : st.phase = .opened := by
  cases hp : st.phase with
  | opened => rfl
  | settled a done => simp [h.settled a done hp] at hs
  | refunded => simp [h.refunded hp] at hr

lemma FundingTaken.moved (h : FundingTaken n db f f' y) :
    FundingMoved n db f y ∧ fundingAccount f' = fundingAccount f := by
  cases f with
  | wallet w =>
    obtain ⟨u, -, -, rfl, rfl⟩ := h
    exact ⟨rfl, rfl⟩
  | subscription s =>
    obtain ⟨sub, hrow, hx, rfl, rfl⟩ := h
    exact ⟨⟨sub, hrow, hx, rfl⟩, rfl⟩

lemma fundingOpen_reserved (hn : 0 < n) (h : FundingOpen s db) (ht : FundingTaken n db s.funding f' y) :
    FundingOpen (reserved s n f') (takeToken cfg s.relayInfo y n) := by
  unfold FundingOpen at h ⊢
  unfold reserved
  rcases hfs : s.funding with w | f
  · rw [hfs] at h ht
    obtain ⟨u, -, -, rfl, rfl⟩ := ht
    simp only [syncRelayInfo] at h ⊢
    omega
  · rw [hfs] at h ht
    obtain ⟨sub, hrow, hx, rfl, rfl⟩ := ht
    obtain ⟨hsum, hpos, hex, -, htrim, hrec, -⟩ := h
    simp only [syncRelayInfo]
    refine ⟨by omega, hpos, by omega, subscriptionId_mirroredInfo _ rfl, htrim, ?_, ?_⟩
    · rw [records_takeToken]
      exact hrec
    · intro sub' hrow' htotal
      rw [subscriptions_takeToken, row_setSubscription_self _ hrow] at hrow'
      cases hrow'
      simp only [Exceeds, UserSubscription.adjust] at hx htotal ⊢
      omega

lemma ledger_reserved (h : SessionLedger start base acct tid st) (hn : 0 < n) (hp : st.phase = .opened)
    (ht : FundingTaken n st.db st.session.funding f' y) :
    SessionLedger start base acct tid { st with
      session := reserved st.session n f'
      db := takeToken cfg st.session.relayInfo y n } := by
  have ho := h.openSession hp
  have hrow : (fundingAccount st.session.funding).exists st.db := h.account ▸ h.accountRow
  obtain ⟨hpaid, hex, htokens, hstores, -⟩ := ht.moved.1.frame hrow
  rw [h.account] at hpaid hex
  have htrow : TokenUsable st.session.relayInfo y := fun hp => htokens ▸ h.tokenRow hp
  have hbal := tokenBalance_takeToken cfg n htrow
  have hfund := h.funding
  have htoken := h.token
  simp only [hp, Phase.fundingTaken, Phase.tokenTaken] at hfund htoken
  have hplus : paidAfter st.session.funding (acct.paid st.db) n = acct.paid st.db + n := by
    cases hf : st.session.funding with
    | wallet w => rfl
    | subscription f =>
      have : 0 ≤ acct.paid st.db := by
        rw [← h.account, hf]
        exact usedAmount_nonneg _ _
      exact max_eq_right (by omega)
  have htb := tokenBalance_congr st.session.relayInfo.tokenId htokens hstores
  constructor
  case tokenId => exact (tokenId_mirroredInfo _).trans h.tokenId
  case account => exact ht.moved.2.trans h.account
  case base_nonneg => exact h.base_nonneg
  case accountRow => simpa [exists_takeToken] using hex
  case tokenRow =>
    simp only [TokenUsable, reserved, syncRelayInfo, tokenId_mirroredInfo, isPlayground_mirroredInfo,
      isSome_tokens_takeToken]
    exact htrow
  case funding =>
    simp only [hp, Phase.fundingTaken, reserved, syncRelayInfo, paid_takeToken]
    omega
  case token =>
    simp only [hp, Phase.tokenTaken, reserved, syncRelayInfo, tokenId_mirroredInfo, isPlayground_mirroredInfo, hbal]
    cases hpl : st.session.relayInfo.isPlayground <;>
      simp only [hpl, Bool.false_eq_true, if_true, if_false] at htoken ⊢ <;> omega
  case openSession =>
    intro _
    exact ⟨ho.settled, ho.refunded, ho.fundingSettled, add_nonneg ho.nonneg hn.le,
      congrArg (· + n) ho.tokenConsumed, fundingOpen_reserved hn ho.funding ht⟩
  case settled => simp [hp]
  case refunded => simp [hp]

end Reserve

section Settle

variable {actual : Int}

lemma wpE_fundingSettle (hn : n ≠ 0) (hQ : ∀ y, FundingMoved n db f y → Q () y) (hE : ∀ e, E e db) :
    wpE server A (f.settle cfg n) Q E db := by
  cases f with
  | wallet w =>
    unfold FundingSource.settle WalletFunding.settle
    simp only [if_neg hn]
    split
    · refine wpE_decreaseUserQuota (fun _ u _ _ => ?_) hE
      rw [note_none]
      exact hQ _ rfl
    · refine wpE_increaseUserQuota (fun _ => ?_) hE
      rw [note_none]
      exact hQ _ rfl
  | subscription s =>
    unfold FundingSource.settle SubscriptionFunding.settle
    simp only [if_neg hn]
    refine wpE_postConsumeUserSubscriptionDelta (fun h => (hn h).elim) (fun _ sub hrow hx => ?_) hE
    rw [note_none]
    exact hQ _ ⟨sub, hrow, hx, rfl⟩

lemma wpE_settleToken (hQ : Q () (takeToken cfg info db n)) (hE : info.isPlayground = false → ∀ e, E e db) :
    wpE server A (settleToken cfg info n) Q E db := by
  unfold settleToken
  by_cases hp : info.isPlayground
  · rw [if_pos hp]
    rw [takeToken, if_pos hp] at hQ
    exact hQ
  · rw [if_neg hp]
    rw [takeToken, if_neg hp] at hQ
    have hE := hE (by simpa using hp)
    split
    · exact wpE_decreaseTokenQuota (fun _ => by rwa [note_none]) hE
    · exact wpE_increaseTokenQuota (fun _ => by rwa [note_none]) hE

lemma wpE_settleToken_noFaults
    (hQ : Q () (takeToken cfg info db n)) : wpE server noFaults (settleToken cfg info n) Q E db := by
  unfold settleToken
  by_cases hp : info.isPlayground
  · rw [if_pos hp]
    rw [takeToken, if_pos hp] at hQ
    exact hQ
  · rw [if_neg hp]
    rw [takeToken, if_neg hp] at hQ
    split
    · exact wpE_adjustToken (fun h => by omega) (fun _ => by rwa [note_none]) fun hQ => wpE_exec_step rfl hQ
    · exact wpE_increaseTokenQuota_of_nil (fun _ h => h) (by omega) (by rwa [note_none])

def settledSession (s : BillingSession) (n : Int) : BillingSession :=
  let postDelta := match s.funding with
    | .subscription _ => s.relayInfo.subscriptionPostDelta + n
    | .wallet _ => s.relayInfo.subscriptionPostDelta
  { s with
    relayInfo := { s.relayInfo with subscriptionPostDelta := postDelta }
    fundingSettled := true
    settled := true }

lemma wp_settle {Q : Except String Unit × BillingSession → DB → Prop}
    (hs : s.settled = false) (hf : s.fundingSettled = false)
    (h₀ : actual = s.preConsumedQuota → Q (.ok (), { s with settled := true }) db)
    (herr : ∀ e, Q (.error e, s) db)
    (hok : ∀ y, FundingMoved (actual - s.preConsumedQuota) db s.funding y →
      Q (.ok (), settledSession s (actual - s.preConsumedQuota))
        (takeToken cfg s.relayInfo y (actual - s.preConsumedQuota)))
    (htok : s.relayInfo.isPlayground = false → ∀ e y, FundingMoved (actual - s.preConsumedQuota) db s.funding y →
      Q (.error e, settledSession s (actual - s.preConsumedQuota)) y) :
    (settle cfg s actual).wp server A Q db := by
  unfold settle
  by_cases hd : actual - s.preConsumedQuota = 0
  · simp only [hs, hd, Bool.false_eq_true, if_false, if_true]
    exact h₀ (by omega)
  · simp only [hs, hf, Bool.false_eq_true, if_false, if_neg hd]
    refine (wp_bind ..).mpr ((wp_run ..).mpr (wpE_fundingSettle hd (fun y hy => ?_) herr))
    exact (wp_bind ..).mpr ((wp_run ..).mpr (wpE_settleToken (hok y hy) fun hp e => htok hp e y hy))

lemma eval_settle_of_settled (cfg : Config) (hs : s.settled = true) (actual : Int)
    (φs : Faults) (db : DB) : (settle cfg s actual).eval server [] φs db = ((.ok (), s), db) := by
  unfold settle
  simp [hs, eval]

variable {acct : Account} {st : SessionState}

variable (h : SessionLedger start base acct tid st)

include h

lemma fundingTaken_of_moved (hp : st.phase = .opened)
    (hy : FundingMoved (actual - st.session.preConsumedQuota) st.db st.session.funding y)
    (tokenDone : Bool) (s : BillingSession) (hs : s.funding = st.session.funding) :
    acct.paid y = base + (Phase.settled actual tokenDone).fundingTaken s base := by
  have hrow : (fundingAccount st.session.funding).exists st.db := h.account ▸ h.accountRow
  obtain ⟨hpaid, -⟩ := hy.frame hrow
  rw [h.account, h.funding, hp] at hpaid
  rw [hpaid]
  simp only [Phase.fundingTaken, hs]
  cases st.session.funding with
  | wallet w | subscription f =>
    simp only [paidAfter]
    omega

lemma ledger_settledSession (cfg : Config) (tokenDone : Bool) (hp : st.phase = .opened) {z : DB}
    (hy : FundingMoved (actual - st.session.preConsumedQuota) st.db st.session.funding y)
    (hz : z = if tokenDone then
        takeToken cfg st.session.relayInfo y (actual - st.session.preConsumedQuota) else y) :
    SessionLedger start base acct tid
      ⟨settledSession st.session (actual - st.session.preConsumedQuota), z, .settled actual tokenDone⟩ := by
  have hrow : (fundingAccount st.session.funding).exists st.db := h.account ▸ h.accountRow
  obtain ⟨-, hex, htokens, hstores, -⟩ := hy.frame hrow
  rw [h.account] at hex
  have hpaid := fundingTaken_of_moved h hp hy tokenDone
    (settledSession st.session (actual - st.session.preConsumedQuota)) rfl
  have htb := tokenBalance_congr st.session.relayInfo.tokenId htokens hstores
  have htoken := h.token
  have htrow : TokenUsable st.session.relayInfo y := fun hp => htokens ▸ h.tokenRow hp
  have hbal := tokenBalance_takeToken cfg (actual - st.session.preConsumedQuota) htrow
  simp only [hp, Phase.tokenTaken] at htoken
  constructor
  case tokenId => exact h.tokenId
  case account => exact h.account
  case base_nonneg => exact h.base_nonneg
  case accountRow => cases tokenDone <;> simpa [hz, exists_takeToken] using hex
  case tokenRow =>
    cases tokenDone <;> simpa [TokenUsable, hz, isSome_tokens_takeToken, settledSession] using htrow
  case funding => cases tokenDone <;> simpa [hz, paid_takeToken] using hpaid
  case token =>
    cases tokenDone <;> cases hpl : st.session.relayInfo.isPlayground <;>
      simp only [hpl, Phase.tokenTaken, settledSession, hz, Bool.false_eq_true, if_true, if_false]
        at htoken hbal ⊢ <;> omega
  case openSession => simp
  case settled => exact fun _ _ _ => rfl
  case refunded => simp

lemma ledger_settle_exact (hp : st.phase = .opened) : SessionLedger start base acct tid
      ⟨{ st.session with settled := true }, st.db, .settled st.session.preConsumedQuota true⟩ := by
  have hfund := h.funding
  have htoken := h.token
  simp only [hp, Phase.tokenTaken, Phase.fundingTaken] at hfund htoken
  refine ⟨h.tokenId, h.account, h.base_nonneg, h.accountRow, h.tokenRow, ?_, ?_, by simp, fun _ _ _ => rfl, by simp⟩
  · simp only [Phase.fundingTaken]
    cases hf : st.session.funding with
    | wallet w => exact hfund
    | subscription f =>
      have : 0 ≤ acct.paid st.db := by
        rw [← h.account, hf]
        exact usedAmount_nonneg _ _
      simp only
      omega
  · simpa [Phase.tokenTaken] using htoken

lemma ledger_settle (hp : st.phase ≠ .refunded) (actual : Int)
    (φs : Faults) : SessionLedger start base acct tid (callStep cfg st (.settle actual, φs)) := by
  cases hph : st.phase with
  | refunded => exact (hp hph).elim
  | settled a done =>
    have hs := eval_settle_of_settled cfg (h.settled a done hph) actual φs st.db
    have hst : callStep cfg st (.settle actual, φs) = st := by
      simp only [callStep, hs, hph, Phase.afterSettle]
      rw [← hph]
    rw [hst]
    exact h
  | opened =>
    have ho := h.openSession hph
    suffices hwp : wp server (fun _ _ _ => True) (settle cfg st.session actual) (fun r y =>
        SessionLedger start base acct tid ⟨r.2, y, st.phase.afterSettle actual r.1 r.2⟩) st.db from
      eval_of_wp (d := []) hwp (meets_of_forall (fun _ _ _ => trivial) φs st.db)
    apply wp_settle ho.settled ho.fundingSettled
    · rintro rfl
      simpa [hph, Phase.afterSettle, Except.toBool] using ledger_settle_exact h hph
    · intro e
      have hkeep : st.phase.afterSettle actual (.error e) st.session = st.phase := by
        rw [hph]
        simp [Phase.afterSettle, ho.settled]
      simp only [hkeep]
      exact h
    · intro y hy
      simpa [hph, Phase.afterSettle, settledSession, Except.toBool] using ledger_settledSession h cfg true hph hy rfl
    · intro _ e y hy
      simpa [hph, Phase.afterSettle, settledSession, Except.toBool] using ledger_settledSession h cfg false hph hy rfl

end Settle

section Refund

-- the rules of these two say all that is needed of them
attribute [local irreducible] refundWithRetry refundSubscriptionPreConsume

lemma not_exceeds_of_le {sub : UserSubscription} (hn : 0 ≤ n)
    (h : sub.amountTotal > 0 → sub.amountUsed ≤ sub.amountTotal) : ¬Exceeds sub (-n) := by
  simp only [Exceeds, UserSubscription.adjust]
  omega

variable (hQ : ∀ y, (fundingAccount s.funding).paid y = base → (fundingAccount s.funding).exists y →
  y.tokens = db.tokens → y.batchUpdateStores = db.batchUpdateStores → Q () y)

include hQ

variable (hpaid : (fundingAccount s.funding).paid db = base + s.preConsumedQuota)

include hpaid

lemma wpE_refundFunding_wallet {w : WalletFunding} (hf : s.funding = .wallet w) (h : FundingOpen s db)
    (hn : 0 ≤ s.preConsumedQuota) (hrow : (fundingAccount s.funding).exists db) :
    wpE server noFaults (s.refundJob.refundFunding cfg) Q E db := by
  simp only [FundingOpen, hf] at h hrow hpaid hQ
  have hextra : s.refundJob.refundExtra = pure () := by
    simp [RefundJob.refundExtra, refundJob, hf, FundingSource.source]
  unfold RefundJob.refundFunding
  rw [wpE_bind, wpE_attempt, hextra]
  simp only [refundJob, hf, FundingSource.refund, WalletFunding.refund]
  by_cases hc : w.consumed ≤ 0
  · rw [if_pos hc]
    exact hQ db (by omega) hrow rfl rfl
  · rw [if_neg hc]
    refine wpE_increaseUserQuota_of_nil (fun _ h => h) (by omega) ?_
    rw [note_none]
    have hm : FundingMoved (-w.consumed) db (.wallet w) (db.addUserQuota w.userId w.consumed) := by
      simp [FundingMoved]
    obtain ⟨hp, he, ht, hst, -⟩ := hm.frame hrow
    refine hQ _ ?_ he ht hst
    simp only [paidAfter] at hp
    omega

lemma wpE_refundFunding_subscription {f : SubscriptionFunding} (hf : s.funding = .subscription f)
    (h : FundingOpen s db) (hrow : (fundingAccount s.funding).exists db) (hbase : 0 ≤ base) :
    wpE server noFaults (s.refundJob.refundFunding cfg) Q E db := by
  simp only [FundingOpen, hf] at h hrow hpaid hQ
  obtain ⟨hsum, hpos, hextra, hid, htrim, ⟨userId, hrec⟩, hfit⟩ := h
  obtain ⟨sub, hsub⟩ := isSome_iff_exists.mp hrow
  have hused : sub.amountUsed = base + s.preConsumedQuota := by
    simpa [fundingAccount, Account.paid, usedAmount, hsub] using hpaid
  -- the record gives back the pre-consumed amount
  have hrefund : wpE server noFaults (s.refundJob.funding.refund cfg)
      (fun _ y => y.subscriptions = (db.setSubscription f.subscriptionId (sub.adjust (-f.preConsumed))).subscriptions ∧
        y.tokens = db.tokens ∧ y.batchUpdateStores = db.batchUpdateStores) (fun _ _ => False) db := by
    simp only [refundJob, hf, FundingSource.refund, SubscriptionFunding.refund, if_neg (not_le.mpr hpos)]
    unfold refundWithRetry retry
    rw [wpE_bind, wpE_attempt]
    exact wpE_mono (wpE_refundSubscriptionPreConsume htrim hrec hpos hsub (not_exceeds_of_le hpos.le (hfit sub hsub))
      fun y hy ht hst => ⟨hy, ht, hst⟩) (fun _ _ hQ => hQ) fun _ _ hf => False.elim hf
  unfold RefundJob.refundFunding
  rw [wpE_bind, wpE_attempt]
  refine wpE_mono hrefund (fun _ y hy => ?_) fun _ _ h => h.elim
  obtain ⟨hy, ht, hst⟩ := hy
  have hrow₁ : y.subscriptions.row f.subscriptionId = some (sub.adjust (-f.preConsumed)) := by
    rw [hy]
    exact row_setSubscription_self _ hsub
  have hextraJob : s.refundJob.refundExtra = if s.extraReserved > 0 then
      postConsumeUserSubscriptionDelta f.subscriptionId (-s.extraReserved) else pure () := by
    have hsid : f.subscriptionId > 0 :=
      db.subscriptions_pos _ ((db.subscriptions.mem_keys _).mpr (by rw [hsub]; rfl))
    simp [RefundJob.refundExtra, refundJob, hf, FundingSource.source, hid, hsid]
  rw [wpE_bind, wpE_attempt, hextraJob]
  by_cases he : s.extraReserved > 0
  · -- and the rest is given back on its own
    have hfit₁ := hfit sub hsub
    rw [if_pos he]
    refine wpE_postConsumeUserSubscriptionDelta_of_nil (fun _ h => h) hrow₁
      (not_exceeds_of_le he.le fun htotal => ?_) (by omega) ?_
    · simp only [UserSubscription.adjust] at htotal ⊢
      omega
    · rw [note_none]
      have hrow₂ := row_setSubscription_self ((sub.adjust (-f.preConsumed)).adjust (-s.extraReserved)) hrow₁
      refine hQ _ ?_ ?_ ht hst
      · simp only [fundingAccount, Account.paid, usedAmount]
        rw [hrow₂]
        simp only [elim_some, UserSubscription.adjust]
        omega
      · simp only [fundingAccount, Account.exists]
        rw [hrow₂]
        rfl
  · rw [if_neg he, wpE_pure, wpE_pure]
    refine hQ y ?_ ?_ ht hst
    · simp only [fundingAccount, Account.paid, usedAmount, hrow₁, elim_some, UserSubscription.adjust]
      omega
    · simp only [fundingAccount, Account.exists, hrow₁]
      rfl

lemma wpE_refundFunding (h : FundingOpen s db) (hn : 0 ≤ s.preConsumedQuota)
    (hrow : (fundingAccount s.funding).exists db)
    (hbase : ∀ id, fundingAccount s.funding = .subscription id → 0 ≤ base) :
    wpE server noFaults (s.refundJob.refundFunding cfg) Q E db := by
  cases hf : s.funding with
  | wallet w => exact wpE_refundFunding_wallet hQ hpaid hf h hn hrow
  | subscription f =>
    exact wpE_refundFunding_subscription hQ hpaid hf h hrow (hbase f.subscriptionId (by rw [hf]; rfl))

omit hpaid

omit hQ

lemma wpE_refundToken (hn : 0 ≤ s.tokenConsumed) (h₀ : s.tokenConsumed = 0 → Q () db)
    (hQ : Q () (takeToken cfg s.relayInfo db (-s.tokenConsumed))) :
    wpE server noFaults (s.refundJob.refundToken cfg) Q E db := by
  unfold RefundJob.refundToken
  rw [wpE_bind, wpE_attempt]
  by_cases hc : s.refundJob.tokenConsumed > 0 ∧ !s.refundJob.isPlayground
  · have hp : ¬s.relayInfo.isPlayground := by simpa [refundJob] using hc.2
    rw [takeToken, if_neg hp, neg_neg] at hQ
    rw [if_pos hc]
    exact wpE_increaseTokenQuota_of_nil (fun _ h => h) hn (by rwa [note_none])
  · rw [if_neg hc]
    by_cases hp : s.relayInfo.isPlayground
    · rw [takeToken, if_pos hp] at hQ
      exact hQ
    · have hz : ¬s.tokenConsumed > 0 := fun hpos => hc ⟨hpos, by simpa [refundJob] using hp⟩
      exact h₀ (by omega)

variable {acct : Account} {st : SessionState}

variable (h : SessionLedger start base acct tid st)

include h

lemma ledger_refunded (hpaid : acct.paid y = base) (hrow : acct.exists y)
    (htoken : TokenUsable st.session.relayInfo y) (hbal : tokenBalance tid y = tokenBalance tid start) :
    SessionLedger start base acct tid ⟨{ st.session with refunded := true }, y, .refunded⟩ := by
  obtain rfl := h.tokenId
  refine ⟨rfl, h.account, h.base_nonneg, hrow, htoken, ?_, ?_, by simp, by simp, fun _ => rfl⟩
  · simpa [Phase.fundingTaken] using hpaid
  · simpa [Phase.tokenTaken] using hbal

lemma wpE_refundJob (cfg : Config) (E : String → DB → Prop) (hp : st.phase = .opened) :
    wpE server noFaults (st.session.refundJob.run cfg)
      (fun _ y => SessionLedger start base acct tid ⟨{ st.session with refunded := true }, y, .refunded⟩)
      E st.db := by
  have ho := h.openSession hp
  have hfund := h.funding
  have htaken := h.token
  simp only [hp, Phase.fundingTaken, Phase.tokenTaken] at hfund htaken
  unfold RefundJob.run
  rw [wpE_bind]
  have hrest : ∀ y, acct.paid y = base → acct.exists y → y.tokens = st.db.tokens →
      y.batchUpdateStores = st.db.batchUpdateStores →
      wpE server noFaults (st.session.refundJob.refundToken cfg) (fun _ z => SessionLedger start base acct tid
          ⟨{ st.session with refunded := true }, z, .refunded⟩) E y := by
    intro y hpaid hrow htokens hstores
    have hbal := tokenBalance_congr st.session.relayInfo.tokenId htokens hstores
    have hrows : TokenUsable st.session.relayInfo y := fun hp => htokens ▸ h.tokenRow hp
    have hn := ho.nonneg
    have hc := ho.tokenConsumed
    obtain rfl := h.tokenId
    refine wpE_refundToken (by omega) (fun h₀ => ?_) ?_
    · refine ledger_refunded h hpaid hrow hrows ?_
      rw [hbal, htaken, ← hc, h₀]
      split <;> omega
    · refine ledger_refunded h (paid_takeToken.trans hpaid) (exists_takeToken.trans hrow) ?_ ?_
      · rw [TokenUsable, isSome_tokens_takeToken]
        exact hrows
      · rw [tokenBalance_takeToken _ _ hrows, hbal, htaken, hc]
        split <;> omega
  obtain rfl := h.account
  exact wpE_refundFunding hrest hfund ho.funding ho.nonneg h.accountRow h.base_nonneg

lemma ledger_refund (φs : Faults) : SessionLedger start base acct tid (callStep cfg st (.refund, φs)) := by
  by_cases hr : (st.session.settled || st.session.refunded || !st.session.needsRefund) = true
  · have hst : callStep cfg st (.refund, φs) = st := by simp [callStep, BillingSession.refund, hr]
    rw [hst]
    exact h
  · have hdone : st.session.settled = false ∧ st.session.refunded = false := by
      simp only [Bool.or_eq_true, not_or, Bool.not_eq_true] at hr
      exact hr.1
    have hp := h.opened_of_not_done hdone.1 hdone.2
    have hQ := eval_of_wp (d := []) (wpE_refundJob h cfg (fun _ y =>
      SessionLedger start base acct tid ⟨{ st.session with refunded := true }, y, .refunded⟩) hp)
      (meets_nil (fun _ _ => rfl) _)
    have hst : callStep cfg st (.refund, φs) = ⟨{ st.session with refunded := true },
        ((st.session.refundJob.run cfg).run.eval server [] [] st.db).2, .refunded⟩ := by
      simp [callStep, BillingSession.refund, hr, hp, Phase.afterRefund]
    rw [hst]
    split at hQ <;> exact hQ

end Refund

section Steps

variable {acct : Account} {st : SessionState}

lemma ledger_reserve (h : SessionLedger start base acct tid st) {env : Env} {target : Int} {φs : Faults}
    (hA : (reserve cfg env st.session target).Meets server [] FundingRollbackSucceeds φs st.db) :
    SessionLedger start base acct tid (callStep cfg st (.reserve env target, φs)) := by
  have hrun := eval_of_wp (Q := fun r y => SessionLedger start base acct tid { st with session := r.2, db := y })
    (wp_reserve (fun _ => h) (fun _ => h) fun hi f' y hf => ?_) hA
  · exact hrun
  simp only [ReserveIdle, not_or, not_le] at hi
  obtain ⟨hs, hr, -, hlt⟩ := hi
  exact ledger_reserved h (by omega) (h.opened_of_not_done (by simpa using hs) (by simpa using hr)) hf

lemma ledger_callStep (h : SessionLedger start base acct tid st) (c : SessionCall × Faults)
    (hA : ∀ env target, c.1 = .reserve env target →
      (reserve cfg env st.session target).Meets server [] FundingRollbackSucceeds c.2 st.db)
    (hp : st.phase = .refunded → c.1.isSettle = false) :
    SessionLedger start base acct tid (callStep cfg st c) := by
  obtain ⟨call, φs⟩ := c
  cases call with
  | reserve env target => exact ledger_reserve h (hA env target rfl)
  | settle actual => exact ledger_settle h (fun hr => by simpa [SessionCall.isSettle] using hp hr) actual φs
  | refund => exact ledger_refund h φs

end Steps

end LoveApi.Proofs
