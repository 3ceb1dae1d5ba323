import LoveApi.Realtime
import LoveApi.Proofs.TextQuota
import LoveApi.Proofs.RetryPricing

/-!
# What a realtime session is charged

`PreWssConsumeQuota` charges every response when it is done, and these charges are no part of the billing session.
-/

namespace LoveApi.Proofs

open Program Prog Go BillingExpr BillingSession List Option

variable {db : DB} {n : Int} {token : Token} {key : String} {E : String → DB → Prop} {prices : PriceTables}
  {autoGroup : Option String}

/-! ### The charge of one response -/

section

variable {cfg : Config} {env : Env} {info : RelayInfo} {db' db'' : DB} {c c' : Int}

def tokenCached (cfg : Config) (env : Env) : Option Token := if cfg.redisEnabled then env.cachedToken else none

def tokenFound (cfg : Config) (env : Env) (key : String) (db : DB) : Option Token :=
  (tokenCached cfg env).or ((db.tokens.rows.find? fun r => r.2.key = key).map Prod.snd)

lemma getTokenByKey_eq (cfg : Config) (env : Env) (key : String) :
    getTokenByKey cfg env key = match tokenCached cfg env with
      | some token => pure token
      | none => do
        let row ← exec (.selectTokenByKey key)
        return row.2 := by
  unfold getTokenByKey tokenCached
  cases cfg.redisEnabled
  · rfl
  · cases env.cachedToken <;> rfl

structure Covered (cfg : Config) (env : Env) (info : RelayInfo) (n : Int) (db : DB) : Prop where
  wallet : ∃ balance, userQuota info.userId db = some balance ∧ n ≤ balance
  token : ∃ token, tokenFound cfg env (trimPrefix info.tokenKey "sk-") db = some token ∧
    (token.unlimitedQuota = true ∨ n ≤ token.remainQuota)

lemma wpE_getTokenByKey_noFaults {key : String} {token : Token} {Q : Token → DB → Prop} {E : String → DB → Prop}
    (h : tokenFound cfg env key db = some token) (hQ : Q token db) :
    wpE server noFaults (getTokenByKey cfg env key) Q E db := by
  unfold tokenFound at h
  rw [getTokenByKey_eq]
  cases hc : tokenCached cfg env with
  | some cached =>
    rw [hc, some_or] at h
    cases h
    exact hQ
  | none =>
    rw [hc, none_or] at h
    obtain ⟨r, hr, rfl⟩ := map_eq_some_iff.mp h
    rw [wpE_bind]
    have hfound : Stmt.step (.selectTokenByKey key) db = (.ok r, db) := by
      simp only [Stmt.step, hr, first]
    exact wpE_exec_step hfound hQ

def afterCharge (cfg : Config) (info : RelayInfo) (db : DB) (n : Int) : DB :=
  takeToken cfg info (db.addUserQuota info.userId (-n)) n

lemma wpE_postConsumeQuota_noFaults {balance : Int} {Q : RelayInfo → DB → Prop}
    (hsource : info.billingSource ≠ some .subscription) (hb : userQuota info.userId db = some balance) (hn : 0 ≤ n)
    (hle : n ≤ balance) (hQ : Q info (afterCharge cfg info db n)) :
    wpE server noFaults (postConsumeQuota cfg info n) Q E db := by
  have htoken : wpE server noFaults (do settleToken cfg info n; return info) Q E
      (db.addUserQuota info.userId (-n)) := by
    rw [wpE_bind]
    exact wpE_settleToken_noFaults hQ
  unfold postConsumeQuota postConsumeFunding
  rw [if_neg hsource, wpE_bind]
  split
  · refine (wpE_bind ..).mpr (wpE_decreaseUserQuota_noFaults hb hn (fun _ => ?_) fun h => by omega)
    rw [note_none]
    exact htoken
  · refine (wpE_bind ..).mpr (wpE_increaseUserQuota_of_nil (fun _ h => h) (by omega) ?_)
    rw [note_none]
    exact htoken

lemma tokenFound_afterCharge (hn : 0 ≤ n) (h : tokenFound cfg env key db = some token) :
    ∃ token', tokenFound cfg env key (afterCharge cfg info db n) = some token' ∧
      token'.unlimitedQuota = token.unlimitedQuota ∧ token.remainQuota - n ≤ token'.remainQuota := by
  have hsame : ∀ y : DB, y.tokens = db.tokens → tokenFound cfg env key y = some token := by
    intro y hy
    unfold tokenFound at h ⊢
    rw [hy]
    exact h
  unfold afterCharge takeToken adjustToken
  split_ifs
  iterate 2 exact ⟨token, hsame _ rfl, rfl, by omega⟩
  · unfold tokenFound at h ⊢
    cases hc : tokenCached cfg env with
    | some cached =>
      rw [hc, some_or] at h
      exact ⟨token, h, rfl, by omega⟩
    | none =>
      rw [hc, none_or] at h
      obtain ⟨r, hr, rfl⟩ := map_eq_some_iff.mp h
      simp only [none_or, DB.addTokenQuota, DB.addUserQuota]
      rw [Table.find?_rows_update, hr]
      swap
      · exact fun _ _ => rfl
      refine ⟨_, rfl, ?_⟩
      dsimp only
      split
      · exact ⟨rfl, by dsimp only; omega⟩
      · exact ⟨rfl, by omega⟩

structure Charged (cfg : Config) (env : Env) (info : RelayInfo) (n c : Int) (db db' : DB) : Prop where
  effect : Effect info.userId c 0 [] db db'
  rest : Covered cfg env info (n - c) db'

lemma Charged.refl (h : Covered cfg env info n db) : Charged cfg env info n 0 db db := by
  refine ⟨.refl info.userId db, ?_⟩
  rwa [sub_zero]

lemma Charged.trans (h : Charged cfg env info n c db db') (h' : Charged cfg env info (n - c) c' db' db'') :
    Charged cfg env info n (c + c') db db'' := by
  refine ⟨by simpa using h.effect.trans h'.effect, ?_⟩
  rw [← sub_sub]
  exact h'.rest

lemma Covered.charge (h : Covered cfg env info n db) (hc : 0 ≤ c) :
    Charged cfg env info n c db (afterCharge cfg info db c) := by
  obtain ⟨balance, hb, hle⟩ := h.wallet
  obtain ⟨token, ht, hcover⟩ := h.token
  obtain ⟨token', ht', hlimit, hremain⟩ := @tokenFound_afterCharge db c token _ cfg env info hc ht
  have heffect : Effect info.userId c 0 [] db (afterCharge cfg info db c) := by
    simpa [afterCharge] using (Effect.addUserQuota info.userId db (-c)).trans
      (Effect.takeToken cfg info info.userId _ c)
  refine ⟨heffect, ⟨balance - c, ?_, by omega⟩, token', ht', ?_⟩
  · rw [heffect.quota, hb]
    rfl
  · rw [hlimit]
    rcases hcover with h | h
    · exact .inl h
    · exact .inr (by omega)

end

lemma calculateAudioQuota_nonneg {prices : PriceTables} {info : QuotaInfo} (h : info.usePrice = false) :
    0 ≤ calculateAudioQuota prices info := by
  unfold calculateAudioQuota
  simp only [h, Bool.false_eq_true, if_false]
  apply roundHalfAway_nonneg
  split_ifs with hone
  · norm_num
  · by_cases hratio : info.groupRatio * info.modelRatio = 0
    · rw [hratio, mul_zero]
    · exact (not_le.mp fun hle => hone ⟨hratio, hle⟩).le

lemma calculateAudioQuota_eq_zero {prices : PriceTables} {info : QuotaInfo} (h : info.usePrice = false)
    (hratio : info.groupRatio * info.modelRatio = 0) : calculateAudioQuota prices info = 0 := by
  unfold calculateAudioQuota
  simp only [h, Bool.false_eq_true, if_false, hratio, mul_zero, ne_eq, not_true_eq_false, false_and]
  exact roundHalfAway_intCast 0

/-! ### The charges of a session -/

def toCharge (s : RealtimeState) : RealtimeEvent → List RealtimeUsage
  | .responseDone realtimeUsage => [s.usage.add realtimeUsage]
  | .responseDoneWithoutUsage textToken audioToken => [s.localUsage.addInput textToken audioToken]
  | _ => []

def nextState (s : RealtimeState) : RealtimeEvent → RealtimeState
  | .client textToken audioToken => { s with localUsage := s.localUsage.addInput textToken audioToken }
  | .responseDone realtimeUsage => { sumUsage := s.sumUsage.add (s.usage.add realtimeUsage) }
  | .responseDoneWithoutUsage textToken audioToken =>
    { s with localUsage := {}, sumUsage := s.sumUsage.add (s.localUsage.addInput textToken audioToken) }
  | .session => s
  | .other textToken audioToken => { s with localUsage := s.localUsage.addOutput textToken audioToken }

def leftUsages (s : RealtimeState) : List RealtimeUsage :=
  [s.usage, s.localUsage].filter fun usage => usage.totalTokens ≠ 0

/-- The usages that a session charges, where every charge succeeds. -/
def chargedUsages : List RealtimeEvent → RealtimeState → List RealtimeUsage
  | [], s => leftUsages s
  | event :: events, s => toCharge s event ++ chargedUsages events (nextState s event)

lemma sumUsage_nextState (s : RealtimeState) (event : RealtimeEvent) :
    (nextState s event).sumUsage = (toCharge s event).foldl RealtimeUsage.add s.sumUsage := by
  cases event <;> rfl

section Session

variable {cfg : Config} {env : Env} {groups : GroupRatios} {info : RealtimeInfo}

def preWssTotal (prices : PriceTables) (groups : GroupRatios) (autoGroup : Option String) (info : RealtimeInfo)
    (usages : List RealtimeUsage) : Int :=
  (usages.map (preWssQuota prices groups autoGroup info)).sum

lemma preWssTotal_append (us vs : List RealtimeUsage) : preWssTotal prices groups autoGroup info (us ++ vs) =
    preWssTotal prices groups autoGroup info us + preWssTotal prices groups autoGroup info vs := by
  unfold preWssTotal
  rw [map_append, sum_append]

lemma preWssTotal_singleton (usage : RealtimeUsage) :
    preWssTotal prices groups autoGroup info [usage] = preWssQuota prices groups autoGroup info usage :=
  add_zero _

structure OnWallet (info : RealtimeInfo) : Prop where
  usePrice : info.usePrice = false
  source : info.relayInfo.billingSource ≠ some .subscription

lemma OnWallet.quota_nonneg (h : OnWallet info) {usage : RealtimeUsage} :
    0 ≤ preWssQuota prices groups autoGroup info usage :=
  calculateAudioQuota_nonneg h.usePrice

lemma OnWallet.total_nonneg (h : OnWallet info) (prices : PriceTables) (groups : GroupRatios)
    (autoGroup : Option String) (usages : List RealtimeUsage) :
    0 ≤ preWssTotal prices groups autoGroup info usages := by
  induction usages with
  | nil => exact le_refl 0
  | cons usage usages ih => exact add_nonneg (h.quota_nonneg) ih

lemma wpE_preWssConsumeQuota {usage : RealtimeUsage} {Q : Unit → DB → Prop} (hinfo : OnWallet info)
    (hcover : Covered cfg env info.relayInfo n db) (hle : preWssQuota prices groups autoGroup info usage ≤ n)
    (hQ : Q () (afterCharge cfg info.relayInfo db (preWssQuota prices groups autoGroup info usage))) :
    wpE server noFaults (preWssConsumeQuota cfg env prices groups autoGroup info usage) Q E db := by
  obtain ⟨balance, hb, hbalance⟩ := hcover.wallet
  obtain ⟨token, ht, htoken⟩ := hcover.token
  unfold preWssConsumeQuota getUserQuota
  simp only [hinfo.usePrice, Bool.false_eq_true, if_false]
  rw [wpE_bind]
  have hread : Stmt.step (.selectQuota info.relayInfo.userId) db = (.ok balance, db) := by
    obtain ⟨user, huser, rfl⟩ := map_eq_some_iff.mp hb
    simp only [Stmt.step, huser]
    rfl
  apply wpE_exec_step hread
  rw [wpE_bind]
  refine wpE_getTokenByKey_noFaults ht ?_
  rw [if_neg (by omega), if_neg]
  · rw [wpE_bind]
    exact wpE_postConsumeQuota_noFaults hinfo.source hb (hinfo.quota_nonneg) (by omega) hQ
  · rintro ⟨hlimited, hless⟩
    rcases htoken with h | h
    · simp [h] at hlimited
    · omega

lemma wp_preConsumeUsage {usage : RealtimeUsage} {totalUsage : RealtimeUsage} (hinfo : OnWallet info)
    (hcover : Covered cfg env info.relayInfo n db) (hle : preWssQuota prices groups autoGroup info usage ≤ n) :
    (preConsumeUsage cfg env prices groups autoGroup info usage totalUsage).wp server noFaults (fun r y =>
      r = (.ok (), totalUsage.add usage) ∧
        Charged cfg env info.relayInfo n (preWssQuota prices groups autoGroup info usage) db y) db := by
  refine (wp_bind ..).mpr ((wp_run ..).mpr (wpE_preWssConsumeQuota hinfo hcover hle ?_))
  exact ⟨rfl, hcover.charge (hinfo.quota_nonneg)⟩

lemma wp_onEvent (s : RealtimeState) (event : RealtimeEvent) (hinfo : OnWallet info)
    (hcover : Covered cfg env info.relayInfo n db)
    (hle : preWssTotal prices groups autoGroup info (toCharge s event) ≤ n) :
    (onEvent cfg env prices groups autoGroup info s event).wp server noFaults (fun r y =>
      r = (.ok (), nextState s event) ∧ Charged cfg env info.relayInfo n
        (preWssTotal prices groups autoGroup info (toCharge s event)) db y) db := by
  cases event with
  | client _ _ | session | other _ _ => exact ⟨rfl, .refl hcover⟩
  | responseDone _ | responseDoneWithoutUsage _ _ =>
    rw [toCharge, preWssTotal_singleton] at hle ⊢
    refine (wp_bind ..).mpr (wp_mono (fun r y hr => ?_) (wp_preConsumeUsage hinfo hcover hle))
    obtain ⟨rfl, hy⟩ := hr
    exact ⟨rfl, hy⟩

/-- What is charged of a usage that is left at the end. -/
def flushed (usage : RealtimeUsage) : List RealtimeUsage := [usage].filter fun u => u.totalTokens ≠ 0

lemma wp_flushUsage (usage totalUsage : RealtimeUsage) (hinfo : OnWallet info)
    (hcover : Covered cfg env info.relayInfo n db)
    (hle : preWssTotal prices groups autoGroup info (flushed usage) ≤ n) :
    (flushUsage cfg env prices groups autoGroup info usage totalUsage).wp server noFaults (fun sum y =>
      sum = (flushed usage).foldl RealtimeUsage.add totalUsage ∧
      Charged cfg env info.relayInfo n (preWssTotal prices groups autoGroup info (flushed usage)) db y) db := by
  unfold flushUsage
  by_cases h : usage.totalTokens = 0
  · have hnone : flushed usage = [] := by simp [flushed, h]
    rw [hnone, if_neg (not_not.mpr h)]
    exact ⟨rfl, .refl hcover⟩
  · have hsome : flushed usage = [usage] := by simp [flushed, h]
    rw [hsome, preWssTotal_singleton] at hle ⊢
    rw [if_pos h]
    refine (wp_bind ..).mpr (wp_mono (fun r y hr => ?_) (wp_preConsumeUsage hinfo hcover hle))
    obtain ⟨rfl, hy⟩ := hr
    exact ⟨rfl, hy⟩

lemma wp_readEvents (events : List RealtimeEvent) (s : RealtimeState) (hinfo : OnWallet info)
    (hcover : Covered cfg env info.relayInfo n db)
    (hle : preWssTotal prices groups autoGroup info (chargedUsages events s) ≤ n) :
    (do let s ← readEvents cfg env prices groups autoGroup info events s
        let sumUsage ← flushUsage cfg env prices groups autoGroup info s.usage s.sumUsage
        flushUsage cfg env prices groups autoGroup info s.localUsage sumUsage).wp server noFaults (fun sum y =>
      sum = (chargedUsages events s).foldl RealtimeUsage.add s.sumUsage ∧ Charged cfg env info.relayInfo n
        (preWssTotal prices groups autoGroup info (chargedUsages events s)) db y) db := by
  -- An event charges its share and leaves a cover for the rest.
  induction events generalizing s n db with
  | nil =>
    have hleft : leftUsages s = flushed s.usage ++ flushed s.localUsage := filter_append [s.usage] [s.localUsage]
    rw [chargedUsages, hleft, preWssTotal_append] at hle ⊢
    have hrest := hinfo.total_nonneg prices groups autoGroup (flushed s.localUsage)
    show (flushUsage cfg env prices groups autoGroup info s.usage s.sumUsage >>=
      flushUsage cfg env prices groups autoGroup info s.localUsage).wp server noFaults _ db
    refine (wp_bind ..).mpr (wp_mono (fun sum y hy => ?_) (wp_flushUsage s.usage s.sumUsage hinfo hcover (by omega)))
    obtain ⟨rfl, hy⟩ := hy
    refine wp_mono (fun sum z hz => ?_) (wp_flushUsage s.localUsage _ hinfo hy.rest (by omega))
    obtain ⟨rfl, hz⟩ := hz
    exact ⟨by rw [foldl_append], hy.trans hz⟩
  | cons event events ih =>
    rw [chargedUsages, preWssTotal_append] at hle ⊢
    have hrest := hinfo.total_nonneg prices groups autoGroup (chargedUsages events (nextState s event))
    rw [readEvents, Prog.bind_assoc]
    refine (wp_bind ..).mpr (wp_mono (fun r y hy => ?_) (wp_onEvent s event hinfo hcover (by omega)))
    obtain ⟨rfl, hy⟩ := hy
    refine wp_mono (fun sum z hz => ?_) (ih (nextState s event) hy.rest (by omega))
    obtain ⟨rfl, hz⟩ := hz
    exact ⟨by rw [foldl_append, sumUsage_nextState], hy.trans hz⟩

end Session

/-! ### The whole session -/

section

variable {cfg : Config} {env : Env} {info : RelayInfo} {quota : Int}

structure Mirrored (info : RelayInfo) (s : BillingSession) : Prop where
  userId : s.relayInfo.userId = info.userId
  source : s.relayInfo.billingSource = some s.funding.source

lemma OpenedFrom.mirrored {s : BillingSession} {y : DB} (h : OpenedFrom cfg env info quota db s y) :
    Mirrored info s := by
  cases h with
  | wallet _ _ h | subscription _ h =>
    obtain ⟨funding, rfl, -⟩ := h
    cases funding <;> exact ⟨rfl, rfl⟩

end

structure RealtimeSession where
  cfg : Config
  env : Env
  host : Host
  now : Time
  relayInfo : RelayInfo
  pricing : PricingInfo
  upstreamModelName : String
  billing : Option BillingSession
  events : List RealtimeEvent
  start : DB
  opened : DB

namespace RealtimeSession

variable (x : RealtimeSession) (prices : PriceTables) (groups : GroupRatios) (autoGroup : Option String)

def info : RealtimeInfo where
  relayInfo := openInfo x.relayInfo x.billing
  pricing := x.pricing
  upstreamModelName := x.upstreamModelName

/-- The pre-consume has opened the session, and the wallet pays for it. -/
structure Opened : Prop where
  fresh : x.relayInfo.finalPreConsumedQuota = 0 ∧ x.relayInfo.billingSource = none
  run : (preConsumeBilling x.cfg x.env x.pricing.priceData.freeModel x.relayInfo
    x.pricing.priceData.quotaToPreConsume).run.eval server [] [] x.start = (.ok x.billing, x.opened)
  wallet : ∀ s ∈ x.billing, s.funding.source = .wallet

def charges : Int := preWssTotal prices groups autoGroup x.info (chargedUsages x.events {})

def settledQuota : Int :=
  wssQuota prices x.info x.host x.now ((chargedUsages x.events {}).foldl RealtimeUsage.add {})

/-- There is enough for the charges and for the rest of the settlement. -/
def Funded : Prop :=
  Covered x.cfg x.env x.info.relayInfo
    (x.charges prices groups autoGroup + max 0 (x.settledQuota prices - prepaid x.billing)) x.opened

/-- The database after the connection. -/
def finish : DB :=
  ((wssHelper x.cfg x.env prices groups autoGroup x.info x.host x.now x.billing x.events).run.eval server [] []
    x.opened).2

variable {x prices groups autoGroup}

/-- What was taken from the wallet when the session was opened is what the session has recorded. -/
structure Paid (x : RealtimeSession) : Prop where
  onWallet : OnWallet x.info
  funded : WalletFunded x.info.relayInfo x.billing
  user : x.info.relayInfo.userId = x.relayInfo.userId
  recorded : taken x.relayInfo.userId x.start x.opened = prepaid x.billing

lemma Opened.paid (h : x.Opened) (hq : 0 ≤ x.pricing.priceData.quotaToPreConsume) : x.Paid := by
  obtain ⟨hfunded, htaken⟩ := paid_of_preConsumeBilling h.fresh hq h.run h.wallet
  obtain ⟨-, hopened⟩ := opened_of_preConsumeBilling h.run
  suffices hpaid : OnWallet x.info ∧ WalletFunded x.info.relayInfo x.billing ∧
      x.info.relayInfo.userId = x.relayInfo.userId from ⟨hpaid.1, hpaid.2.1, hpaid.2.2, htaken⟩
  unfold info openInfo
  cases hb : x.billing with
  | none =>
    rw [hb] at hfunded
    exact ⟨⟨rfl, (hfunded.free rfl).2⟩, hfunded, rfl⟩
  | some s =>
    rw [hb] at hfunded
    have hs := (hopened s hb).mirrored
    obtain ⟨hsettled, hfunding, w, hw, huser⟩ := hfunded.session s rfl
    refine ⟨⟨rfl, ?_⟩, ⟨fun s' hs' => ?_, fun h => nomatch h⟩, hs.userId⟩
    · show s.relayInfo.billingSource ≠ _
      rw [hs.source, hw]
      exact fun h => nomatch h
    · obtain rfl := mem_some.mp hs'
      exact ⟨hsettled, hfunding, w, hw, huser.trans hs.userId.symm⟩

/-- The wallet loses the charges of the responses and, once more, what the session is settled for. -/
theorem Paid.taken_finish (h : x.Paid) (hfunded : x.Funded prices groups autoGroup) :
    ∃ log : Log, log.quota = x.settledQuota prices ∧
      (x.finish prices groups autoGroup).logs = x.opened.logs ++ (if x.cfg.logConsumeEnabled then [log] else []) ∧
      taken x.relayInfo.userId x.start (x.finish prices groups autoGroup) =
        log.quota + x.charges prices groups autoGroup := by
  obtain ⟨hinfo, hwallet, huser, htaken⟩ := h
  let usage := (chargedUsages x.events {}).foldl RealtimeUsage.add {}
  let summary : TextQuotaSummary := {
    quota := x.settledQuota prices
    totalTokens := usage.totalTokens
    modelName := x.upstreamModelName }
  let log : Log := { consumeLog x.info.relayInfo summary with modelName := x.upstreamModelName }
  -- The session as a whole: the charges of its responses, then its settlement.
  have hrun : wpE server noFaults (wssHelper x.cfg x.env prices groups autoGroup x.info x.host x.now x.billing x.events)
      (fun _ y => ∃ used, Effect x.info.relayInfo.userId
        (x.charges prices groups autoGroup + (x.settledQuota prices - prepaid x.billing)) used
        (if x.cfg.logConsumeEnabled then [log] else []) x.opened y) (fun _ _ => False) x.opened := by
    unfold wssHelper openaiRealtimeHandler
    rw [wpE_bind, wpE_lift]
    refine wp_mono (fun sum y hy => ?_) (wp_readEvents x.events {} hinfo hfunded
      (show x.charges prices groups autoGroup ≤ _ by omega))
    obtain ⟨rfl, hy⟩ := hy
    obtain ⟨balance, hb, hle⟩ := hy.rest.wallet
    refine wpE_mono (wpE_billingSteps x.cfg summary log hwallet hb) (fun _ z hz => ?_) fun _ _ h => h
    have hsettled : settled balance (summary.quota - prepaid x.billing) =
        x.settledQuota prices - prepaid x.billing := by
      unfold settled
      rw [if_pos]
      have hmax : x.charges prices groups autoGroup + max 0 (x.settledQuota prices - prepaid x.billing) -
        x.charges prices groups autoGroup ≤ balance := hle
      show x.settledQuota prices - prepaid x.billing ≤ 0 ∨ x.settledQuota prices - prepaid x.billing ≤ balance
      omega
    have heffect := hy.effect.trans hz
    rw [hsettled] at heffect
    exact ⟨_, heffect⟩
  obtain ⟨_, y, heval, used, heffect⟩ := exists_ok_of_wpE hrun
  have hfinish : x.finish prices groups autoGroup = y := by
    unfold finish
    rw [heval]
  refine ⟨log, rfl, ?_, ?_⟩
  · rw [hfinish, heffect.logs]
  · obtain ⟨balance, hb, -⟩ := hfunded.wallet
    rw [huser] at heffect hb
    have hlast : taken x.relayInfo.userId x.opened y =
        x.charges prices groups autoGroup + (x.settledQuota prices - prepaid x.billing) := by
      simp [taken, heffect.quota, hb]
    have hsum : taken x.relayInfo.userId x.start y =
        taken x.relayInfo.userId x.start x.opened + taken x.relayInfo.userId x.opened y := by
      unfold taken
      omega
    rw [hfinish, hsum, htaken, hlast]
    show _ = x.settledQuota prices + _
    omega

end RealtimeSession

/-! ### Models that are charged by their tokens -/

section

variable {host : Host} {groups : GroupRatios} {request : RelayRequest} {priceRequest : PriceRequest}
  {acceptUnset : Bool}

/-- The model of a request has no fixed price and no billing expression. -/
structure RatioPriced (prices : PriceTables) (autoGroup : Option String) (request : RelayRequest) : Prop where
  requestPrice : prices.requestPriceUSD request.modelName = none
  mode : prices.getBillingModeForGroup request.modelName (autoGroup.getD request.usingGroup) ≠ "tiered_expr"
  modelPrice : prices.getModelPrice request.modelName = none

/-- What a token of a request is charged: the ratio of the group in use times the ratio of the model. -/
def tokenRatio (prices : PriceTables) (groups : GroupRatios) (autoGroup : Option String) (request : RelayRequest) : ℚ :=
  ratioOfGroup groups request.userGroup (autoGroup.getD request.usingGroup) *
    (prices.getModelRatio request.modelName).1

lemma handleGroupRatio_fst {groups : GroupRatios} {autoGroup : Option String} {info : PricingInfo} :
    (handleGroupRatio groups autoGroup info).1.groupRatio =
      ratioOfGroup groups info.userGroup (autoGroup.getD info.usingGroup) := by
  unfold handleGroupRatio ratioOfGroup finalGroup
  dsimp only
  split <;> simp [*]

def groupedInfo (autoGroup : Option String) (request : RelayRequest) (acceptUnset : Bool) : PricingInfo :=
  { requestInfo request acceptUnset with usingGroup := autoGroup.getD request.usingGroup }

lemma RatioPriced.modelPriceHelper_eq (h : RatioPriced prices autoGroup request) :
    modelPriceHelper host prices groups autoGroup priceRequest (requestInfo request acceptUnset) =
      (ratioPrice prices priceRequest (groupedInfo autoGroup request acceptUnset)
        (handleGroupRatio groups autoGroup (requestInfo request acceptUnset)).1).map fun price =>
        { groupedInfo autoGroup request acceptUnset with priceData := freePrice prices price } := by
  unfold modelPriceHelper
  rcases hratio : handleGroupRatio groups autoGroup (requestInfo request acceptUnset) with ⟨groupRatioInfo, info⟩
  obtain rfl : info = groupedInfo autoGroup request acceptUnset :=
    (congrArg Prod.snd hratio).symm.trans (handleGroupRatio_snd _ _ _)
  have hmode : prices.getBillingModeForGroup request.modelName
      (groupedInfo autoGroup request acceptUnset).usingGroup ≠ "tiered_expr" := h.mode
  simp only [requestInfo, h.requestPrice, h.modelPrice, if_neg hmode]
  cases ratioPrice prices priceRequest (groupedInfo autoGroup request acceptUnset) groupRatioInfo <;> rfl

structure RatioRecord (autoGroup : Option String) (request : RelayRequest) (pricing : PricingInfo) : Prop where
  originModelName : pricing.originModelName = request.modelName
  userGroup : pricing.userGroup = request.userGroup
  usingGroup : pricing.usingGroup = autoGroup.getD request.usingGroup
  snapshot : pricing.tieredBillingSnapshot = none

lemma ratioRecord_of_ok {pricing : PricingInfo} (h : RatioPriced prices autoGroup request)
    (hok : modelPriceHelper host prices groups autoGroup priceRequest (requestInfo request acceptUnset) = .ok pricing) :
    RatioRecord autoGroup request pricing ∧
      (tokenRatio prices groups autoGroup request = 0 → pricing.priceData.quotaToPreConsume = 0) := by
  rw [h.modelPriceHelper_eq] at hok
  rcases hprice : ratioPrice prices priceRequest (groupedInfo autoGroup request acceptUnset)
    (handleGroupRatio groups autoGroup (requestInfo request acceptUnset)).1 with e | price
  · rw [hprice] at hok
    cases hok
  · rw [hprice] at hok
    cases hok
    refine ⟨⟨rfl, rfl, rfl, rfl⟩, fun hratio => ?_⟩
    have hquota : price.quotaToPreConsume = 0 := by
      unfold ratioPrice at hprice
      dsimp only at hprice
      split at hprice
      · cases hprice
      · cases hprice
        rw [handleGroupRatio_fst]
        have hzero : (prices.getModelRatio request.modelName).1 *
            ratioOfGroup groups request.userGroup (autoGroup.getD request.usingGroup) = 0 := (mul_comm _ _).trans hratio
        simp only [requestInfo, groupedInfo, hzero, mul_zero]
        rfl
    show (freePrice prices price).quotaToPreConsume = 0
    unfold freePrice
    split_ifs
    all_goals first | rfl | exact hquota

lemma RatioRecord.ratio_eq {info : RealtimeInfo} (h : RatioRecord autoGroup request info.pricing) :
    actualGroupRatio groups autoGroup info * (prices.getModelRatio info.pricing.originModelName).1 =
      tokenRatio prices groups autoGroup request := by
  have hgroup : finalGroup autoGroup info.pricing = autoGroup.getD request.usingGroup := by
    unfold finalGroup
    rw [h.usingGroup]
    cases autoGroup <;> rfl
  unfold actualGroupRatio tokenRatio ratioOfGroup
  rw [hgroup, h.userGroup, h.originModelName]
  dsimp only
  split <;> simp [*]

/-- Every session of a request that the wallet and the token can pay for is charged what is logged, up to one unit for
each usage that was charged. -/
def RealtimeBalanced (prices : PriceTables) (groups : GroupRatios) (autoGroup : Option String)
    (request : RelayRequest) : Prop :=
  ∀ (x : RealtimeSession) (priceRequest : PriceRequest) (acceptUnset : Bool) (log : Log),
    modelPriceHelper x.host prices groups autoGroup priceRequest (requestInfo request acceptUnset) = .ok x.pricing →
    x.Opened → x.Funded prices groups autoGroup →
    (x.finish prices groups autoGroup).logs = x.opened.logs ++ [log] →
    |taken x.relayInfo.userId x.start (x.finish prices groups autoGroup) - log.quota| ≤
      (chargedUsages x.events {}).length

lemma RatioRecord.charges_eq_zero {x : RealtimeSession} (h : RatioRecord autoGroup request x.pricing)
    (hratio : tokenRatio prices groups autoGroup request = 0) : x.charges prices groups autoGroup = 0 := by
  have hzero : ∀ usage, preWssQuota prices groups autoGroup x.info usage = 0 := fun usage =>
    calculateAudioQuota_eq_zero rfl ((RatioRecord.ratio_eq h).trans hratio)
  unfold RealtimeSession.charges preWssTotal
  rw [map_congr_left fun usage _ => hzero usage]
  simp

lemma exists_pricing (h : RatioPriced prices autoGroup request)
    (hratio : tokenRatio prices groups autoGroup request ≠ 0) :
    ∃ pricing, modelPriceHelper host prices groups autoGroup {} (requestInfo request true) = .ok pricing ∧
      pricing.priceData.freeModel = false := by
  obtain ⟨hgroup, hmodel⟩ := mul_ne_zero_iff.mp hratio
  rw [h.modelPriceHelper_eq]
  have hgroup' : (handleGroupRatio groups autoGroup (requestInfo request true)).1.groupRatio ≠ 0 := by
    rw [handleGroupRatio_fst]
    exact hgroup
  have hmodel' : (prices.getModelRatio (groupedInfo autoGroup request true).originModelName).1 ≠ 0 := hmodel
  obtain ⟨price, hprice, hfree⟩ : ∃ price, ratioPrice prices {} (groupedInfo autoGroup request true)
        (handleGroupRatio groups autoGroup (requestInfo request true)).1 = .ok price ∧
      (freePrice prices price).freeModel = false := by
    unfold ratioPrice
    dsimp only
    rw [if_neg (by simp [groupedInfo, requestInfo])]
    exact ⟨_, rfl, by simp [freePrice, hgroup', hmodel']⟩
  exact ⟨_, by rw [hprice]; rfl, hfree⟩

end

/-! A session of one response. -/

def textResponse (t : Int) : RealtimeUsage where
  totalTokens := t
  inputTokens := t
  inputTokenDetails := { textTokens := t }

def unlimitedToken (n : Int) : DB where
  users := Table.empty.insert 1 { quota := n }
  tokens := Table.empty.insert 1 { key := "1", remainQuota := 0, unlimitedQuota := true }

/-- A request whose session is opened without a pre-consume if the user has enough. -/
def trustedRequest : RelayInfo :=
  { walletRequest with tokenUnlimited := true, forcePreConsume := false }

def unopenedSession (n : Int) : BillingSession where
  relayInfo := { trustedRequest with userQuota := n }
  funding := .wallet { userId := 1 }

def trustedSession (n : Int) : BillingSession := syncRelayInfo { unopenedSession n with trusted := true }

lemma open_trusted {q : Int} (hn : trustQuota {} < n) (hq : q ≤ n) :
    (preConsumeBilling {} {} false trustedRequest q).run.eval server [] [] (unlimitedToken n) =
      (.ok (some (trustedSession n)), unlimitedToken n) := by
  have hpos : 0 < trustQuota {} := by decide +kernel
  have htrust : shouldTrust {} {} (unopenedSession n) = true := by
    simp [shouldTrust, unopenedSession, trustedRequest, hn, hpos.not_ge]
  have hrun : wpE server noFaults (preConsumeBilling {} {} false trustedRequest q) (fun billing y =>
      y = unlimitedToken n ∧ billing = some (trustedSession n)) (fun _ _ => False) (unlimitedToken n) := by
    unfold preConsumeBilling newBillingSession
    have hwallet : normalizeBillingPreference trustedRequest.billingPreference = .walletOnly := rfl
    rw [if_neg (by simp), wpE_bind, hwallet]
    unfold tryWallet getUserQuota
    rw [wpE_bind, wpE_mapError]
    have hread : Stmt.step (.selectQuota 1) (unlimitedToken n) = (.ok n, unlimitedToken n) := rfl
    apply wpE_exec_step hread
    rw [if_neg (by omega), if_neg (by omega), wpE_mapError]
    show wpE server noFaults (preConsume {} {} (unopenedSession n) q) _ _ _
    unfold preConsume preConsumeFunding effectiveQuota
    rw [htrust]
    exact ⟨rfl, rfl⟩
  obtain ⟨billing, y, heval, rfl, rfl⟩ := exists_ok_of_wpE hrun
  exact heval

lemma exists_two_le_mul {ratio : ℚ} (h : ratio ≠ 0) : ∃ t : Int, 2 ≤ t * ratio := by
  obtain ⟨n, hn⟩ := exists_nat_ge (2 / |ratio|)
  rw [div_le_iff₀ (abs_pos.mpr h)] at hn
  rcases abs_choice ratio with habs | habs
  · rw [habs] at hn
    exact ⟨n, by exact_mod_cast hn⟩
  · rw [habs] at hn
    refine ⟨-n, ?_⟩
    push_cast
    linarith

lemma preWssQuota_textResponse {prices : PriceTables} {groups : GroupRatios} {autoGroup : Option String}
    {info : RealtimeInfo} {t : Int} {ratio : ℚ} (huse : info.usePrice = false)
    (hratio : actualGroupRatio groups autoGroup info * (prices.getModelRatio info.pricing.originModelName).1 = ratio)
    (h : 2 ≤ t * ratio) : 2 ≤ preWssQuota prices groups autoGroup info (({} : RealtimeUsage).add (textResponse t)) := by
  have hquota : preWssQuota prices groups autoGroup info (({} : RealtimeUsage).add (textResponse t)) =
      roundHalfAway (t * ratio) := by
    unfold preWssQuota calculateAudioQuota
    simp only [huse, Bool.false_eq_true, if_false, RealtimeUsage.add, textResponse, zero_add, Int.cast_zero, zero_mul,
      add_zero, hratio]
    rw [if_neg fun hle => by linarith [hle.2]]
  have hround := (abs_le.mp (abs_roundHalfAway_sub_le (t * ratio))).1
  by_contra hless
  have hone : (roundHalfAway (t * ratio) : ℚ) ≤ 1 := by exact_mod_cast (by omega)
  linarith

lemma wssQuota_eq (prices : PriceTables) {info : RealtimeInfo} (host : Host) (now : Time) (usage : RealtimeUsage)
    (h : info.pricing.tieredBillingSnapshot = none) (relayInfo : RelayInfo) :
    wssQuota prices { info with relayInfo := relayInfo } host now usage = wssQuota prices info host now usage := by
  unfold wssQuota tryTieredSettle
  simp only [h]

lemma exists_charged_session {groups : GroupRatios} {request : RelayRequest} (h : RatioPriced prices autoGroup request)
    (hratio : tokenRatio prices groups autoGroup request ≠ 0) : ∃ (x : RealtimeSession),
      modelPriceHelper x.host prices groups autoGroup {} (requestInfo request true) = .ok x.pricing ∧
      x.Opened ∧ x.Paid ∧ x.Funded prices groups autoGroup ∧
      2 ≤ x.charges prices groups autoGroup ∧ (chargedUsages x.events {}).length = 1 ∧ x.cfg.logConsumeEnabled := by
  obtain ⟨pricing, hpricing, hfree⟩ := @exists_pricing prices autoGroup plainHost groups request h hratio
  obtain ⟨hrecord, -⟩ := ratioRecord_of_ok h hpricing
  obtain ⟨t, ht⟩ := exists_two_le_mul hratio
  let events := [RealtimeEvent.responseDone (textResponse t)]
  let info : RealtimeInfo := ⟨trustedRequest, pricing, request.modelName, false⟩
  let charge := preWssQuota prices groups autoGroup info (({} : RealtimeUsage).add (textResponse t))
  let quota := wssQuota prices info plainHost 0 ((chargedUsages events {}).foldl RealtimeUsage.add {})
  have hcharge : 2 ≤ charge := preWssQuota_textResponse rfl (RatioRecord.ratio_eq hrecord) ht
  -- the balance covers the charges, and is such that nothing is taken in advance
  obtain ⟨n, hcovers, htrusted, hq⟩ : ∃ n, charge + max 0 quota ≤ n ∧ trustQuota {} < n ∧
      pricing.priceData.quotaToPreConsume ≤ n :=
    ⟨max (charge + max 0 quota) (max (trustQuota {} + 1) pricing.priceData.quotaToPreConsume),
      by omega, by omega, by omega⟩
  let x : RealtimeSession := {
    cfg := {}
    env := {}
    host := plainHost
    now := 0
    relayInfo := trustedRequest
    pricing := pricing
    upstreamModelName := request.modelName
    billing := some (trustedSession n)
    events := events
    start := unlimitedToken n
    opened := unlimitedToken n }
  have hcharges : x.charges prices groups autoGroup = charge := add_zero _
  have hsettled : x.settledQuota prices = quota :=
    @wssQuota_eq prices info plainHost 0 _ hrecord.snapshot (trustedSession n).relayInfo
  refine ⟨x, hpricing, ⟨⟨rfl, rfl⟩, ?_, fun s hs => ?_⟩, ?_, ?_, hcharges ▸ hcharge, rfl, rfl⟩
  · rw [hfree]
    exact open_trusted htrusted hq
  · obtain rfl := mem_some.mp hs
    rfl
  · refine ⟨⟨rfl, fun h => nomatch h⟩, ⟨fun s hs => ?_, fun h => nomatch h⟩, rfl, sub_self _⟩
    obtain rfl := mem_some.mp hs
    exact ⟨rfl, rfl, _, rfl, rfl⟩
  · unfold RealtimeSession.Funded
    rw [hcharges, hsettled, show prepaid x.billing = 0 from rfl, sub_zero]
    refine ⟨⟨n, rfl, hcovers⟩, { key := "1", remainQuota := 0, unlimitedQuota := true }, ?_, .inl rfl⟩
    show tokenFound {} {} (trimPrefix "sk-1" "sk-") (unlimitedToken n) = _
    rfl

/-- The sessions of a model that is charged by its tokens are charged what is logged if and only if a token costs
nothing. -/
theorem realtimeBalanced_iff (prices : PriceTables) (groups : GroupRatios) (autoGroup : Option String)
    (request : RelayRequest) (h : RatioPriced prices autoGroup request) :
    RealtimeBalanced prices groups autoGroup request ↔ tokenRatio prices groups autoGroup request = 0 := by
  constructor
  · intro hbalanced
    by_contra hratio
    obtain ⟨x, hpricing, hx, hpaid, hfunded, hcharges, hlength, hlogged⟩ := exists_charged_session h hratio
    obtain ⟨log, -, hlog, htaken⟩ := hpaid.taken_finish hfunded
    rw [if_pos hlogged] at hlog
    have hdiff := hbalanced x {} true log hpricing hx hfunded hlog
    have := (abs_le.mp hdiff).2
    omega
  · intro hratio x priceRequest acceptUnset log hpricing hx hfunded hlog
    obtain ⟨hrecord, hquota⟩ := ratioRecord_of_ok h hpricing
    obtain ⟨log', -, hlog', htaken⟩ := (hx.paid (hquota hratio).ge).taken_finish hfunded
    have hsame : log' = log := by
      rw [hlog'] at hlog
      have hlist := append_cancel_left hlog
      split at hlist
      · exact head_eq_of_cons_eq hlist
      · cases hlist
    rw [htaken, hrecord.charges_eq_zero hratio, hsame, add_zero, sub_self, abs_zero]
    exact Int.natCast_nonneg _

theorem realtimeBalanced_freeGroup : RatioPriced {} none { modelName := "gpt-4o-realtime-preview" } ∧
    RealtimeBalanced {} { getGroupRatio := fun _ => 0 } none { modelName := "gpt-4o-realtime-preview" } := by
  have h : RatioPriced {} none { modelName := "gpt-4o-realtime-preview" } := ⟨rfl, by decide, rfl⟩
  exact ⟨h, (realtimeBalanced_iff {} { getGroupRatio := fun _ => 0 } none _ h).mpr (zero_mul _)⟩

def unitRatio : PriceTables where
  getModelRatio model := (1, true, model)

def realtimeRequest : RelayRequest where
  modelName := "gpt-4o-realtime-preview"

/-- The record of the request with its price: 500 are taken in advance. -/
def unitPricing : PricingInfo :=
  { requestInfo realtimeRequest false with
    priceData := {
      modelPrice := -1
      modelRatio := 1
      completionRatio := 1
      cacheRatio := 1
      cacheCreationRatio := 5 / 4
      cacheCreation5mRatio := 5 / 4
      cacheCreation1hRatio := 2
      imageRatio := 1
      audioRatio := 20
      audioCompletionRatio := 2
      quotaToPreConsume := 500 } }

def unlimitedRequest : RelayInfo :=
  { walletRequest with tokenKey := "1", tokenUnlimited := true }

/-- One response with 100 text tokens, in a session of a user who has 1000. -/
def oneResponse : RealtimeSession where
  cfg := {}
  env := {}
  host := plainHost
  now := 0
  relayInfo := unlimitedRequest
  pricing := unitPricing
  upstreamModelName := "gpt-4o-realtime-preview"
  billing := some (opened {} {}
    { relayInfo := { unlimitedRequest with userQuota := 1000 }, funding := .wallet { userId := 1 } } 500
    (.wallet { userId := 1, consumed := 500 }))
  events := [.responseDone (textResponse 100)]
  start := unlimitedToken 1000
  opened := ((unlimitedToken 1000).addTokenQuota 1 (-500)).addUserQuota 1 (-500)

/-- One response is charged when it is done and again at the end of the session. -/
theorem oneResponse_charged_twice : RatioPriced unitRatio none realtimeRequest ∧
    modelPriceHelper plainHost unitRatio {} none {} (requestInfo realtimeRequest false) = .ok unitPricing ∧
    oneResponse.Opened ∧ oneResponse.Funded unitRatio {} none ∧
    (oneResponse.finish unitRatio {} none).logs.map Log.quota = [100] ∧
    taken 1 (unlimitedToken 1000) (oneResponse.finish unitRatio {} none) = 200 ∧
    (chargedUsages oneResponse.events {}).length = 1 := by
  have hfunded : oneResponse.Funded unitRatio {} none := by
    refine ⟨⟨500, rfl, ?_⟩, { key := "1", remainQuota := -500, usedQuota := 500, unlimitedQuota := true }, ?_, .inl rfl⟩
    · decide +kernel
    · decide +kernel
  refine ⟨⟨rfl, by decide, rfl⟩, by decide +kernel, ⟨⟨rfl, rfl⟩, rfl, fun s hs => ?_⟩, hfunded, ?_, ?_, rfl⟩
  · obtain rfl := mem_some.mp hs
    rfl
  · decide +kernel
  · decide +kernel

end LoveApi.Proofs
