import LoveApi.Billing
import LoveApi.Proofs.Subscription

/-!
# Billing sessions

A session takes quota from its token and from its funding source in separate steps and gives back by hand what a failed
step leaves behind.
-/

namespace LoveApi.Proofs

open Program Prog Go BillingSession

variable {A : Req → List (Option String) → DB → Prop} {cfg : Config} {env : Env} {db : DB} {Q : Unit → DB → Prop}
  {E : String → DB → Prop} {info : RelayInfo} {n : Int} {s : BillingSession}

/-! ### The token -/

lemma addRecord_cancel {db : DB} {type : BatchType} {id n : Int} :
    (db.addRecord type id (-n)).addRecord type id n = db := by
  have h : ((db.addRecord type id (-n)).addRecord type id n).batchUpdateStores = db.batchUpdateStores := by
    funext t i
    by_cases hti : t = type ∧ i = id
    · simp [DB.addRecord, hti]
    · simp [DB.addRecord, hti]
  cases db
  simp only [DB.addRecord, DB.mk.injEq, true_and, and_true] at h ⊢
  exact h

lemma addTokenQuota_cancel {db : DB} {id n : Int} : (db.addTokenQuota id (-n)).addTokenQuota id n = db := by
  have h : ((db.addTokenQuota id (-n)).addTokenQuota id n).tokens = db.tokens :=
    Table.update_update_cancel _ _ fun t _ => by simp
  cases db
  simp only [DB.addTokenQuota, DB.mk.injEq, true_and, and_true] at h ⊢
  exact h

lemma adjustToken_cancel (db : DB) (id n : Int) : adjustToken cfg (adjustToken cfg db id (-n)) id n = db := by
  unfold adjustToken
  split
  · exact addRecord_cancel
  · exact addTokenQuota_cancel

def takeToken (cfg : Config) (info : RelayInfo) (db : DB) (n : Int) : DB :=
  if info.isPlayground then db else adjustToken cfg db info.tokenId (-n)

lemma wpE_getTokenByKey {key : String} {Q : Token → DB → Prop} (hQ : ∀ token, Q token db) (hE : ∀ e, E e db) :
    wpE server A (getTokenByKey cfg env key) Q E db := by
  unfold getTokenByKey
  split
  · exact hQ _
  · refine (wpE_bind ..).mpr (wpE_exec (fun r db' hs => ?_) hE)
    obtain ⟨-, rfl⟩ := Prod.mk.inj hs
    exact hQ _

lemma wpE_preConsumeTokenQuota (hQ : 0 ≤ n → Q () (takeToken cfg info db n)) (hE : ∀ e, E e db) :
    wpE server A (preConsumeTokenQuota cfg env info n) Q E db := by
  unfold preConsumeTokenQuota
  by_cases hn : n < 0
  · rw [if_pos hn]
    exact hE _
  · rw [if_neg hn]
    have hQ := hQ (by omega)
    unfold takeToken at hQ
    by_cases hp : info.isPlayground
    · rw [if_pos hp]
      rw [if_pos hp] at hQ
      exact hQ
    · rw [if_neg hp]
      rw [if_neg hp] at hQ
      refine (wpE_bind ..).mpr (wpE_getTokenByKey (fun token => ?_) hE)
      split
      · exact hE _
      · exact wpE_decreaseTokenQuota (fun _ => by rwa [note_none]) hE

/-- No statement that gives a token its quota back fails. -/
def TokenRollbackSucceeds : Req → List (Option String) → DB → Prop
  | .stmt (.increaseTokenQuota ..), φs, _ => φs = []
  | _, _, _ => True

/-! ### Opening a session -/

section

variable {quota : Int} {L : Prop}

/-- The session after its pre-consume. -/
def opened (cfg : Config) (env : Env) (s : BillingSession) (quota : Int) (funding : FundingSource) :
    BillingSession :=
  syncRelayInfo { s with
    funding
    trusted := shouldTrust cfg env s
    tokenConsumed := max 0 (effectiveQuota cfg env s quota)
    preConsumedQuota := effectiveQuota cfg env s quota }

/-- The database after the token has paid. -/
def tokenTaken (cfg : Config) (env : Env) (s : BillingSession) (quota : Int) (db : DB) : DB :=
  if 0 < effectiveQuota cfg env s quota then
    takeToken cfg s.relayInfo db (effectiveQuota cfg env s quota)
  else db

/-- A funding source that has paid `n`, and the database that it leaves. -/
inductive FundingPaid (cfg : Config) (env : Env) (n : Int) (db : DB) : FundingSource → FundingSource → DB → Prop
  | free {w : WalletFunding} (h : n ≤ 0) : FundingPaid cfg env n db (.wallet w) (.wallet w) db
  | wallet {w : WalletFunding} {u : User} (hn : 0 < n) (hu : db.users.row w.userId = some u) (hq : n ≤ u.quota) :
    FundingPaid cfg env n db (.wallet w) (.wallet { w with consumed := n }) (db.addUserQuota w.userId (-n))
  | subscription {f : SubscriptionFunding} {r : SubscriptionPreConsumeResult} {y : DB} (planId : Int)
    (planTitle : String) (htrim : trimSpace f.requestId ≠ "")
    (h : PreConsumeStep cfg env f.requestId f.userId f.amount db r y) :
    FundingPaid cfg env n db (.subscription f) (.subscription { f with
      subscriptionId := r.userSubscriptionId
      preConsumed := r.preConsumed
      amountTotal := r.amountTotal
      amountUsedAfter := r.amountUsedAfter
      planId
      planTitle }) y

/-- A pre-consume in `db` turns the session `s` into `s'`. -/
def Opens (cfg : Config) (env : Env) (s : BillingSession) (quota : Int) (db : DB) (s' : BillingSession) (y : DB) :
    Prop :=
  ∃ funding, s' = opened cfg env s quota funding ∧
    FundingPaid cfg env (effectiveQuota cfg env s quota) (tokenTaken cfg env s quota db) s.funding funding y

/-- A session for the request that was opened in `db`, on the wallet or on a subscription. -/
inductive OpenedFrom (cfg : Config) (env : Env) (info : RelayInfo) (quota : Int) (db : DB) (s : BillingSession)
    (y : DB) : Prop
  | wallet (userQuota : Int) (huser : (db.users.row info.userId).isSome)
    (h : Opens cfg env { relayInfo := { info with userQuota }, funding := .wallet { userId := info.userId } } quota db
      s y)
  | subscription (userQuota : Int)
    (h : Opens cfg env
      { relayInfo := { info with userQuota }
        funding := .subscription { requestId := info.requestId, userId := info.userId, amount := max 1 quota } }
      (max 1 quota) db s y)

/-- What a failed attempt may leave behind: the charge of the token, if it could not be given
back. -/
def LeftCharged (cfg : Config) (info : RelayInfo) (quota : Int) (db y : DB) : Prop :=
  ∃ n, (n = quota ∨ n = max 1 quota) ∧ y = takeToken cfg info db n

def SameRequest (info info' : RelayInfo) : Prop := ∃ userQuota, info' = { info with userQuota }

/-- An attempt to open a session. If it fails, the next one starts in the same database or, where `L` allows it, in one
in which the charge of the token is left. -/
def Attempts (A : Req → List (Option String) → DB → Prop) (cfg : Config) (env : Env) (quota : Int) (L : Prop)
    (attempt : RelayInfo → Opening BillingSession) : Prop :=
  ∀ info db, wpE server A (attempt info) (OpenedFrom cfg env info quota db)
    (fun err y => SameRequest info err.2 ∧ (y = db ∨ L ∧ LeftCharged cfg info quota db y)) db

lemma wpE_fillPlanInfo {s : SubscriptionFunding} {Q : SubscriptionFunding → DB → Prop}
    (hQ : ∀ planId planTitle, Q { s with planId, planTitle } db) :
    wpE server A (s.fillPlanInfo env) Q E db := by
  unfold SubscriptionFunding.fillPlanInfo getSubscriptionPlanInfoByUserSubscriptionId
  rw [wpE_bind, wpE_attempt]
  split
  · exact hQ _ _
  split
  · exact hQ _ _
  refine (wpE_bind ..).mpr (wpE_exec (fun sub db' hs => ?_) fun _ => hQ _ _)
  obtain ⟨-, rfl⟩ := Prod.mk.inj hs
  split
  · exact hQ _ _
  split
  · exact hQ _ _
  · refine (wpE_bind ..).mpr (wpE_exec (fun plan db' hs => ?_) fun _ => hQ _ _)
    obtain ⟨-, rfl⟩ := Prod.mk.inj hs
    exact hQ _ _

lemma wpE_fundingPreConsume {f : FundingSource} {Q : FundingSource → DB → Prop}
    (hQ : ∀ f' y, FundingPaid cfg env n db f f' y → Q f' y) (hE : ∀ e, E e db) :
    wpE server A (f.preConsume cfg env n) Q E db := by
  cases f with
  | wallet w =>
    refine (wpE_bind ..).mpr ?_
    unfold WalletFunding.preConsume
    by_cases hn : n ≤ 0
    · rw [if_pos hn]
      exact hQ _ _ (.free hn)
    · rw [if_neg hn]
      refine (wpE_bind ..).mpr (wpE_decreaseUserQuota (fun _ u hu hq => ?_) hE)
      rw [note_none]
      exact hQ _ _ (.wallet (not_le.mp hn) hu hq)
  | subscription f =>
    refine (wpE_bind ..).mpr ((wpE_bind ..).mpr (wpE_preConsumeUserSubscription (fun _ htrim r y h => ?_) hE))
    exact wpE_fillPlanInfo fun planId planTitle => hQ _ _ (.subscription planId planTitle htrim h)

lemma wpE_orElse {first second : RelayInfo → Opening BillingSession} {info : RelayInfo}
    (h₁ : Attempts A cfg env quota L first) (h₂ : Attempts A cfg env quota L second) :
    wpE server A (orElse first second info)
      (fun s y => ∃ start, (start = db ∨ L ∧ LeftCharged cfg info quota db start) ∧
        OpenedFrom cfg env info quota start s y) (fun _ y => L ∨ y = db) db := by
  unfold orElse
  rw [wpE_bind, wpE_attempt]
  refine wpE_mono (h₁ info db) (fun s y h => ⟨db, .inl rfl, h⟩) ?_
  rintro ⟨e, info'⟩ y ⟨⟨userQuota, rfl⟩, hy⟩
  have hleft : L ∨ y = db := hy.symm.imp_left And.left
  by_cases he : e.errorCode = .insufficientUserQuota
  · simp only [he, if_true]
    refine wpE_mono (h₂ _ y) (fun s z h => ⟨y, hy, ?_⟩) fun _ z hz => ?_
    · cases h with
      | wallet userQuota' huser h => exact .wallet userQuota' huser h
      | subscription userQuota' h => exact .subscription userQuota' h
    · rcases hz.2 with rfl | ⟨hl, -⟩
      · exact hleft
      · exact .inl hl
  · simpa [he] using hleft

variable (hA : ¬L → ∀ req φs x, A req φs x → TokenRollbackSucceeds req φs x)

include hA

lemma wpE_rollbackToken (hn : 0 < n) (hQ : Q () db) (hleft : L → Q () (takeToken cfg info db n)) :
    wpE server A (rollbackToken cfg info n) Q E (takeToken cfg info db n) := by
  unfold rollbackToken
  by_cases hp : info.isPlayground
  · rw [if_neg (by simp [hp]), takeToken, if_pos hp]
    exact hQ
  · rw [if_pos ⟨hn, by simpa using hp⟩, wpE_bind, wpE_attempt]
    have hback : Q () ((adjustToken cfg (takeToken cfg info db n) info.tokenId n).note none) := by
      rwa [note_none, takeToken, if_neg hp, adjustToken_cancel]
    by_cases hl : L
    · exact wpE_increaseTokenQuota (fun _ => hback) fun _ => hleft hl
    · exact wpE_increaseTokenQuota_of_nil (fun φs hφ => hA hl _ φs _ hφ) hn.le hback

lemma wpE_preConsume : wpE server A (preConsume cfg env s quota) (Opens cfg env s quota db)
    (fun _ y => y = db ∨ L ∧ 0 < effectiveQuota cfg env s quota ∧
      y = takeToken cfg s.relayInfo db (effectiveQuota cfg env s quota)) db := by
  unfold preConsume
  rw [wpE_bind]
  have hrest : wpE server A (preConsumeFunding cfg env s (effectiveQuota cfg env s quota)
      (max 0 (effectiveQuota cfg env s quota))) (Opens cfg env s quota db)
      (fun _ y => y = db ∨ L ∧ 0 < effectiveQuota cfg env s quota ∧
        y = takeToken cfg s.relayInfo db (effectiveQuota cfg env s quota)) (tokenTaken cfg env s quota db) := by
    unfold preConsumeFunding
    rw [wpE_bind, wpE_attempt, wpE_mapError]
    refine wpE_fundingPreConsume (fun f' y hf => ⟨f', rfl, hf⟩) fun e => ?_
    rw [wpE_bind, wpE_mapError, tokenTaken]
    by_cases hn : 0 < effectiveQuota cfg env s quota
    · rw [if_pos hn, max_eq_right hn.le]
      exact wpE_rollbackToken hA hn (.inl rfl) fun hl => .inr ⟨hl, hn, rfl⟩
    · rw [if_neg hn, max_eq_left (not_lt.mp hn)]
      exact .inl rfl
  unfold preConsumeToken
  unfold tokenTaken at hrest
  by_cases hn : effectiveQuota cfg env s quota > 0
  · rw [if_pos hn, max_eq_right hn.le] at hrest
    rw [if_pos hn, wpE_bind, wpE_mapError]
    exact wpE_preConsumeTokenQuota (fun _ => hrest) fun e => .inl rfl
  · rw [if_neg hn, max_eq_left (not_lt.mp hn)] at hrest
    rw [if_neg hn]
    exact hrest

lemma attempts_tryWallet : Attempts A cfg env quota L fun info => tryWallet cfg env info quota := by
  intro info db
  have hsame : SameRequest info info := ⟨info.userQuota, rfl⟩
  unfold tryWallet getUserQuota
  rw [wpE_bind, wpE_mapError]
  refine wpE_exec (fun userQuota db' hs => ?_) fun _ => ⟨hsame, .inl rfl⟩
  obtain ⟨hrow, rfl⟩ := Prod.mk.inj hs
  split
  · exact ⟨hsame, .inl rfl⟩
  next hpos =>
  split
  · exact ⟨hsame, .inl rfl⟩
  rw [wpE_mapError]
  refine wpE_mono (wpE_preConsume hA) (fun s y h => .wallet userQuota ?_ h)
    fun _ y hy => ⟨⟨userQuota, rfl⟩, hy.imp_right fun ⟨hl, hn, hy⟩ => ⟨hl, _, .inl ?_, hy⟩⟩
  · cases hu : db.users.row info.userId with
    | some u => rfl
    | none => simp_all
  · unfold effectiveQuota at hn ⊢
    split at hn
    · omega
    · next h => rw [if_neg h]

lemma attempts_trySubscription : Attempts A cfg env quota L fun info => trySubscription cfg env info quota := by
  intro info db
  have hmax : (if quota ≤ 0 then 1 else quota) = max 1 quota := by
    split <;> omega
  unfold trySubscription
  rw [hmax, wpE_mapError]
  refine wpE_mono (wpE_preConsume hA) (fun s y h => .subscription info.userQuota h)
    fun _ y hy => ⟨⟨info.userQuota, rfl⟩, hy.imp_right fun ⟨hl, hn, hy⟩ => ⟨hl, _, .inr ?_, hy⟩⟩
  simp [effectiveQuota, shouldTrust]

lemma wpE_newBillingSession {info : RelayInfo} : wpE server A (newBillingSession cfg env info quota)
    (fun s y => ∃ start, (start = db ∨ L ∧ LeftCharged cfg info quota db start) ∧
      OpenedFrom cfg env info quota start s y) (fun _ y => L ∨ y = db) db := by
  have hwallet := @attempts_tryWallet A cfg env quota L hA
  have hsub := @attempts_trySubscription A cfg env quota L hA
  have hone : ∀ attempt, Attempts A cfg env quota L attempt → wpE server A (attempt info)
      (fun s y => ∃ start, (start = db ∨ L ∧ LeftCharged cfg info quota db start) ∧
        OpenedFrom cfg env info quota start s y) (fun _ y => L ∨ y = db) db := fun attempt h =>
    wpE_mono (h info db) (fun s y h => ⟨db, .inl rfl, h⟩) fun _ y hy => hy.2.symm.imp_left And.left
  unfold newBillingSession
  split
  · exact hone _ hsub
  · exact hone _ hwallet
  · exact wpE_orElse hwallet hsub
  · rw [wpE_bind, wpE_mapError]
    unfold hasActiveUserSubscription
    split
    · exact .inr rfl
    refine (wpE_bind ..).mpr (wpE_exec_ok rfl ?_ fun _ => .inr rfl)
    show wpE server A (ite _ _ _) _ _ db
    split
    · exact wpE_orElse hsub hwallet
    · exact hone _ hwallet

end

/-! ### Raising the reserve -/

section

variable {db' : DB}
variable {id : Int} {sub : UserSubscription} {f : FundingSource} {E : NewAPIError → DB → Prop}

def usedAmount (id : Int) (db : DB) : Int :=
  (db.subscriptions.row id).elim 0 UserSubscription.amountUsed

def GivesBack : Req → DB → Prop
  | .stmt (.increaseUserQuota ..), _ => True
  | .tx body, db => ∃ id, usedAmount id (server.exec [] (.tx body) db).2 < usedAmount id db
  | _, _ => False

/-- A request that gives quota back to the funding source does not fail. -/
def FundingRollbackSucceeds (req : Req) (φs : List (Option String)) (db : DB) : Prop :=
  GivesBack req db → φs = []

lemma addUserQuota_cancel {db : DB} {id n : Int} : (db.addUserQuota id (-n)).addUserQuota id n = db := by
  have h : ((db.addUserQuota id (-n)).addUserQuota id n).users = db.users :=
    Table.update_update_cancel _ _ fun u _ => by simp
  cases db
  simp only [DB.addUserQuota, DB.mk.injEq, and_true] at h ⊢
  exact h

lemma setSubscription_cancel {x : UserSubscription} (h : db.subscriptions.row id = some sub) :
    (db.setSubscription id x).setSubscription id sub = db := by
  have hs : ((db.setSubscription id x).setSubscription id sub).subscriptions = db.subscriptions :=
    Table.update_update_cancel _ _ fun a ha => Option.some.inj (h.symm.trans ha)
  cases db
  simp only [DB.setSubscription, DB.mk.injEq, true_and, and_true] at hs ⊢
  exact hs

lemma adjust_adjust_neg {sub : UserSubscription} (hn : 0 ≤ n) : (sub.adjust n).adjust (-n) = sub := by
  have h : max 0 (max 0 (sub.amountUsed + n) + -n) = sub.amountUsed := by
    have := sub.used_nonneg
    omega
  cases sub
  simp only [UserSubscription.adjust, UserSubscription.mk.injEq, true_and, and_true]
  exact h

lemma not_exceeds_adjust_neg (hn : 0 ≤ n) (hx : ¬Exceeds sub n) : ¬Exceeds (sub.adjust n) (-n) := by
  simp only [Exceeds, UserSubscription.adjust] at hx ⊢
  omega

def FundingTaken (n : Int) (db : DB) (f f' : FundingSource) (db' : DB) : Prop :=
  match f with
  | .wallet w => ∃ u, db.users.row w.userId = some u ∧ n ≤ u.quota ∧
      f' = .wallet { w with consumed := w.consumed + n } ∧ db' = db.addUserQuota w.userId (-n)
  | .subscription s => ∃ sub, db.subscriptions.row s.subscriptionId = some sub ∧ ¬Exceeds sub n ∧
      f' = .subscription s ∧ db' = db.setSubscription s.subscriptionId (sub.adjust n)

lemma wpE_reserveFunding {Q : FundingSource → DB → Prop} (hn : 0 < n) (hQ : ∀ f' y, FundingTaken n db f f' y → Q f' y)
    (hE : ∀ e, E e db) : wpE server A (reserveFunding cfg n f) Q E db := by
  cases f with
  | wallet w =>
    refine (wpE_bind ..).mpr ?_
    rw [wpE_mapError]
    refine wpE_decreaseUserQuota (fun _ u hu hq => ?_) fun _ => hE _
    rw [note_none]
    exact hQ _ _ ⟨u, hu, hq, rfl, rfl⟩
  | subscription s =>
    refine (wpE_bind ..).mpr ?_
    rw [wpE_mapError]
    refine wpE_postConsumeUserSubscriptionDelta (fun h => by omega) (fun _ sub hrow hx => ?_) fun _ => hE _
    rw [note_none]
    exact hQ _ _ ⟨sub, hrow, hx, rfl, rfl⟩

lemma wpE_reserveToken (hn : 0 < n) (hQ : Q () (takeToken cfg info db n)) (hE : ∀ e, E e db) :
    wpE server A (reserveToken cfg env info n) Q E db := by
  unfold reserveToken
  by_cases hp : info.isPlayground
  · rw [if_pos (.inr hp)]
    rw [takeToken, if_pos hp] at hQ
    exact hQ
  · rw [if_neg (by simp [hp]; omega), wpE_mapError]
    exact wpE_preConsumeTokenQuota (fun _ => hQ) fun _ => hE _

lemma givesBack_postConsumeTx (hn : 0 < n) (hrow : db.subscriptions.row id = some sub) (hx : ¬Exceeds sub n) :
    GivesBack (.tx (do query .begin; postConsumeTx id (-n) none)) (db.setSubscription id (sub.adjust n)) := by
  have hrow' := row_setSubscription_self (sub.adjust n) hrow
  have hbody : wpE database noFault (postConsumeTx id (-n) none)
      (fun _ y => usedAmount id y < usedAmount id (db.setSubscription id (sub.adjust n)))
      (fun _ _ => False) (db.setSubscription id (sub.adjust n)) := by
    refine wpE_postConsumeTx_noFault hrow' (not_exceeds_adjust_neg hn.le hx) ?_
    rw [note_none, adjust_adjust_neg hn.le, setSubscription_cancel hrow]
    unfold usedAmount
    rw [hrow, hrow']
    simp only [Option.elim_some, UserSubscription.adjust]
    omega
  refine ⟨id, ?_⟩
  rcases server_exec_tx_nil (E := fun _ => False) hbody with ⟨b, y, hx, hlt⟩ | ⟨e, -, hf⟩
  · rw [hx]
    exact hlt
  · exact hf.elim

lemma wp_rollbackFundingReserve {f' : FundingSource} (hn : 0 < n) (h : FundingTaken n db f f' db') :
    (rollbackFundingReserve cfg n f').wp server FundingRollbackSucceeds (fun f'' y => f'' = f ∧ y = db) db' := by
  cases f with
  | wallet w =>
    obtain ⟨u, hrow, hq, rfl, rfl⟩ := h
    refine (wp_bind ..).mpr ((wp_run ..).mpr ?_)
    refine wpE_increaseUserQuota_of_nil (fun φs h => h trivial) hn.le ?_
    rw [note_none, addUserQuota_cancel]
    exact ⟨by simp, rfl⟩
  | subscription s =>
    obtain ⟨sub, hrow, hx, rfl, rfl⟩ := h
    refine (wp_bind ..).mpr ((wp_run ..).mpr ?_)
    refine wpE_postConsumeUserSubscriptionDelta_of_nil
      (fun φs h => h (givesBack_postConsumeTx hn hrow hx)) (row_setSubscription_self _ hrow)
      (not_exceeds_adjust_neg hn.le hx) (by omega) ?_
    rw [note_none, adjust_adjust_neg hn.le, setSubscription_cancel hrow]
    exact ⟨rfl, rfl⟩

def reserved (s : BillingSession) (n : Int) (funding : FundingSource) : BillingSession :=
  syncRelayInfo { s with
    funding
    preConsumedQuota := s.preConsumedQuota + n
    tokenConsumed := s.tokenConsumed + n
    extraReserved := s.extraReserved + n }

def ReserveIdle (s : BillingSession) (target : Int) : Prop :=
  s.settled ∨ s.refunded ∨ s.trusted ∨ target ≤ s.preConsumedQuota

lemma wp_reserve {target : Int} {Q : Except NewAPIError Unit × BillingSession → DB → Prop}
    (hidle : ReserveIdle s target → Q (.ok (), s) db) (herr : ∀ e, Q (.error e, s) db)
    (hok : ¬ReserveIdle s target → ∀ f' y, FundingTaken (target - s.preConsumedQuota) db s.funding f' y →
      Q (.ok (), reserved s (target - s.preConsumedQuota) f')
        (takeToken cfg s.relayInfo y (target - s.preConsumedQuota))) :
    (reserve cfg env s target).wp server FundingRollbackSucceeds Q db := by
  unfold reserve
  by_cases hi : ReserveIdle s target
  · have hc : (s.settled || s.refunded || s.trusted || decide (target ≤ s.preConsumedQuota)) = true := by
      unfold ReserveIdle at hi
      simpa [or_assoc] using hi
    simp only [hc, if_true]
    exact hidle hi
  · have hc : (s.settled || s.refunded || s.trusted || decide (target ≤ s.preConsumedQuota)) = false := by
      unfold ReserveIdle at hi
      simpa [not_or, and_assoc] using hi
    have hlt : s.preConsumedQuota < target := by
      unfold ReserveIdle at hi
      omega
    simp only [hc, Bool.false_eq_true, if_false]
    rw [if_neg (by omega)]
    refine (wp_bind ..).mpr ((wp_run ..).mpr (wpE_reserveFunding (by omega) (fun f' y hf => ?_) fun e => ?_))
    · refine (wp_bind ..).mpr ((wp_run ..).mpr (wpE_reserveToken (by omega) (hok hi f' y hf) fun e => ?_))
      refine (wp_bind ..).mpr (wp_mono ?_ (wp_rollbackFundingReserve (by omega) hf))
      rintro f'' z ⟨rfl, rfl⟩
      exact herr e
    · exact herr e

end

-- the preference is compared as a string, which need not be evaluated here
seal normalizeBillingPreference in
lemma newBillingSession_restores (cfg : Config) (env : Env) (info : RelayInfo) (quota : Int) (db : DB) (φs : Faults)
    (err : NewAPIError × RelayInfo) (db' : DB)
    (hA : (newBillingSession cfg env info quota).run.Meets server [] TokenRollbackSucceeds φs db)
    (hrun : (newBillingSession cfg env info quota).run.eval server [] φs db = (.error err, db')) : db' = db :=
  (error_of_wpE (wpE_newBillingSession fun _ _ _ _ h => h) hA hrun).resolve_left id

/-- A call that reports an error has charged nobody: a session that cannot be opened leaves the
database as it was, and so does a reserve that cannot be raised, which keeps the session as well.
The first needs the compensating increase of the token quota to succeed, the second the
compensating change of the funding source. -/
theorem failed_calls_restore_ledgers (cfg : Config) (env : Env) : (∀ info quota db φs err db',
      (newBillingSession cfg env info quota).run.Meets server [] TokenRollbackSucceeds φs db →
      (newBillingSession cfg env info quota).run.eval server [] φs db = (.error err, db') → db' = db) ∧
    ∀ (s : BillingSession) target db φs err s' db',
      (reserve cfg env s target).Meets server [] FundingRollbackSucceeds φs db →
      (reserve cfg env s target).eval server [] φs db = ((.error err, s'), db') → s' = s ∧ db' = db := by
  refine ⟨newBillingSession_restores cfg env, fun s target db φs err s' db' hA hrun => ?_⟩
  have h := eval_of_wp (@wp_reserve cfg env db s target (Q := fun r y => ∀ err, r.1 = .error err → r.2 = s ∧ y = db)
    (fun _ _ h => by simp at h) (fun _ _ _ => ⟨rfl, rfl⟩) (fun _ _ _ _ _ h => by simp at h)) hA
  rw [hrun] at h
  exact h err rfl

def walletRequest : RelayInfo where
  userId := 1
  tokenId := 1
  tokenKey := "sk-1"
  requestId := "req-1"
  billingPreference := "wallet_only"
  forcePreConsume := true

def smallToken : DB where
  users := Table.empty.insert 1 { quota := 100 }
  tokens := Table.empty.insert 1 { key := "sk-1", remainQuota := 5 }

/-- A session for 10 cannot be opened on a token with 5, and an open session cannot raise its
reserve to 50 on it. -/
theorem failed_calls_restore_ledgers_smallToken :
    (∃ err db', (newBillingSession {} {} walletRequest 10).run.eval server [] [] smallToken =
      (.error err, db') ∧ db' = smallToken) ∧
    ∃ s db₁, (newBillingSession {} {} walletRequest 0).run.eval server [] [] smallToken = (.ok s, db₁) ∧
      ∃ err s' db₂, (reserve {} {} s 50).eval server [] [] db₁ = ((.error err, s'), db₂) ∧ s' = s ∧ db₂ = db₁ := by
  constructor
  · refine ⟨_, _, rfl, ?_⟩
    refine (failed_calls_restore_ledgers {} {}).1 walletRequest 10 smallToken [] _ _ ?_ rfl
    exact ⟨trivial, trivial, trivial⟩
  · refine ⟨_, _, rfl, ?_⟩
    refine ⟨_, _, _, rfl, ?_⟩
    refine (failed_calls_restore_ledgers {} {}).2 _ 50 _ [] _ _ _ ?_ rfl
    exact ⟨fun h => h.elim, fun h => h.elim, fun _ => rfl, trivial⟩

/-- The token cannot cover a raised reserve and the update that should give the wallet its
quota back fails: `Reserve` reports an error, and the wallet stays charged. -/
theorem reserve_error_keeps_wallet_charged :
    ∃ s db₁, (newBillingSession {} {} walletRequest 0).run.eval server [] [] smallToken = (.ok s, db₁) ∧
      ∃ err s' db₂, (reserve {} {} s 50).eval server [] [[], [], [some "connection lost"]] db₁ =
        ((.error err, s'), db₂) ∧ userQuota 1 db₁ = some 100 ∧ userQuota 1 db₂ = some 50 := by
  refine ⟨_, _, rfl, ?_⟩
  refine ⟨_, _, _, rfl, ?_⟩
  exact ⟨rfl, rfl⟩

end LoveApi.Proofs
