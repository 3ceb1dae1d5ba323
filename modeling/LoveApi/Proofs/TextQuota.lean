import LoveApi.Proofs.SessionRuns

/-!
# What a text request is charged

`postTextConsumeQuota` records the computed quota and then settles, and an error of the settlement is only logged.
-/

namespace LoveApi.Proofs

open Program Prog Go BillingSession List Option

variable {db db' : DB} {cfg : Config} {info : RelayInfo} {w : WalletFunding} {billing : Option BillingSession}
  {s : BillingSession} {env : Env} {freeModel : Bool}

/-- The used quota of a user, in the row and in the batch counter. -/
def usedQuota (id : Int) (db : DB) : Int :=
  (db.users.row id).elim 0 User.usedQuota + db.batchUpdateStores .usedQuota id

structure Effect (id charged used : Int) (logs : List Log) (db db' : DB) : Prop where
  quota : userQuota id db' = (userQuota id db).map (· - charged)
  used : usedQuota id db' = usedQuota id db + used
  logs : db'.logs = db.logs ++ logs

namespace Effect

variable {id c c' u u' : Int} {l l' : List Log} {db'' : DB}

lemma trans (h : Effect id c u l db db') (h' : Effect id c' u' l' db' db'') :
    Effect id (c + c') (u + u') (l ++ l') db db'' where
  quota := by
    rw [h'.quota, h.quota, Option.map_map]
    congr 1
    funext n
    simp only [Function.comp_apply]
    omega
  used := by rw [h'.used, h.used, add_assoc]
  logs := by rw [h'.logs, h.logs, List.append_assoc]

lemma of_frame (hu : db'.users = db.users)
    (hs : db'.batchUpdateStores .usedQuota id = db.batchUpdateStores .usedQuota id)
    (hl : db'.logs = db.logs) : Effect id 0 0 [] db db' := by
  refine ⟨?_, ?_, by rw [hl, List.append_nil]⟩
  · simp only [userQuota, hu, sub_zero, Option.map_id']
  · simp only [usedQuota, hu, hs, add_zero]

lemma refl (id : Int) (db : DB) : Effect id 0 0 [] db db := of_frame rfl rfl rfl

lemma takeToken (cfg : Config) (info : RelayInfo) (id : Int) (db : DB) (n : Int) :
    Effect id 0 0 [] db (takeToken cfg info db n) := by
  refine of_frame users_takeToken ?_ ?_
  · unfold Proofs.takeToken adjustToken
    split_ifs <;> simp [DB.addRecord, DB.addTokenQuota]
  · unfold Proofs.takeToken adjustToken
    split_ifs <;> rfl

lemma addUserQuota (id : Int) (db : DB) (n : Int) : Effect id (-n) 0 [] db (db.addUserQuota id n) := by
  refine ⟨?_, ?_, (append_nil _).symm⟩
  · simp
  · simp only [usedQuota, DB.addUserQuota, Table.row_update_self]
    cases db.users.row id <;> simp

end Effect

section Settlement

variable {balance : Int}
variable {n actual : Int} {Q : Unit → DB → Prop} {E : String → DB → Prop}

/-- What a settlement by `n` takes from a wallet with `balance` in it. -/
def settled (balance n : Int) : Int := if n ≤ 0 ∨ n ≤ balance then n else 0

lemma wpE_walletSettle (hb : userQuota w.userId db = some balance) (hn : n ≠ 0)
    (hQ : ∀ y, Effect w.userId n 0 [] db y → n ≤ 0 ∨ n ≤ balance → Q () y)
    (hE : ¬(n ≤ 0 ∨ n ≤ balance) → ∀ e, E e db) :
    wpE server noFaults (w.settle cfg n) Q E db := by
  unfold WalletFunding.settle
  rw [if_neg hn]
  split
  · refine wpE_decreaseUserQuota_noFaults hb (by omega) (fun hle => ?_) fun hlt => hE (by omega)
    exact hQ _ (by simpa using Effect.addUserQuota w.userId db (-n)) (.inr hle)
  · refine wpE_increaseUserQuota_of_nil (fun _ h => h) (by omega) ?_
    exact hQ _ (by simpa using Effect.addUserQuota w.userId db (-n)) (.inl (by omega))

lemma wp_settle_wallet (hf : s.funding = .wallet w) (hs : s.settled = false) (hfs : s.fundingSettled = false)
    (hb : userQuota w.userId db = some balance) :
    (settle cfg s actual).wp server noFaults (fun _ y =>
      Effect w.userId (settled balance (actual - s.preConsumedQuota)) 0 [] db y) db := by
  unfold settle settled
  by_cases hd : actual - s.preConsumedQuota = 0
  · simp only [hs, hd, Bool.false_eq_true, if_false, if_true, le_refl, true_or]
    exact Effect.refl w.userId db
  · simp only [hs, hfs, hf, Bool.false_eq_true, if_false, if_neg hd]
    refine (wp_bind ..).mpr ((wp_run ..).mpr (wpE_walletSettle hb hd (fun y hy hc => ?_) fun hc _ => ?_))
    · rw [if_pos hc]
      refine (wp_bind ..).mpr ((wp_run ..).mpr (wpE_settleToken ?_ fun _ _ => ?_))
      · simpa using hy.trans (Effect.takeToken cfg s.relayInfo w.userId y _)
      · exact hy
    · rw [if_neg hc]
      exact Effect.refl w.userId db

lemma wp_postConsumeQuota_wallet (hsrc : info.billingSource ≠ some .subscription)
    (hb : userQuota info.userId db = some balance) :
    (postConsumeQuota cfg info n).run.wp server noFaults (fun _ y =>
      Effect info.userId (settled balance n) 0 [] db y) db := by
  have htoken : ∀ y, (n ≤ 0 ∨ n ≤ balance) → Effect info.userId n 0 [] db y →
      wpE server noFaults (do settleToken cfg info n; return info)
        (fun _ z => Effect info.userId (settled balance n) 0 [] db z)
        (fun _ z => Effect info.userId (settled balance n) 0 [] db z) y := by
    intro y hc hy
    rw [settled, if_pos hc, wpE_bind]
    refine wpE_settleToken ?_ fun _ _ => hy
    simpa using hy.trans (Effect.takeToken cfg info info.userId y n)
  refine (wp_run ..).mpr ?_
  unfold postConsumeQuota postConsumeFunding
  rw [if_neg hsrc, wpE_bind]
  split
  · refine (wpE_bind ..).mpr (wpE_decreaseUserQuota_noFaults hb (by omega) (fun hle => ?_) fun hlt _ => ?_)
    · exact htoken _ (.inr hle) (by simpa using Effect.addUserQuota info.userId db (-n))
    · rw [settled, if_neg (by omega)]
      exact Effect.refl info.userId db
  · refine (wpE_bind ..).mpr (wpE_increaseUserQuota_of_nil (fun _ h => h) (by omega) ?_)
    exact htoken _ (.inl (by omega)) (by simpa using Effect.addUserQuota info.userId db (-n))

/-- What the session has paid in advance. -/
def prepaid (billing : Option BillingSession) : Int := billing.elim 0 BillingSession.preConsumedQuota

structure WalletFunded (info : RelayInfo) (billing : Option BillingSession) : Prop where
  session : ∀ s ∈ billing, s.settled = false ∧ s.fundingSettled = false ∧
    ∃ w, s.funding = .wallet w ∧ w.userId = info.userId
  free : billing = none → info.finalPreConsumedQuota = 0 ∧ info.billingSource ≠ some .subscription

lemma wp_settleBilling (h : WalletFunded info billing) (hb : userQuota info.userId db = some balance) :
    (settleBilling cfg info billing actual).wp server noFaults (fun _ y =>
      Effect info.userId (settled balance (actual - prepaid billing)) 0 [] db y) db := by
  unfold settleBilling
  cases billing with
  | some s =>
    obtain ⟨hs, hfs, w, hf, hw⟩ := h.session s rfl
    rw [← hw] at hb ⊢
    exact (wp_bind ..).mpr (wp_settle_wallet hf hs hfs hb)
  | none =>
    obtain ⟨hfin, hsrc⟩ := h.free rfl
    simp only [hfin, sub_zero]
    have hpre : actual - prepaid none = actual := sub_zero actual
    rw [hpre]
    by_cases hd : actual = 0
    · rw [if_pos hd, hd, settled, if_pos (.inl (le_refl 0))]
      exact Effect.refl info.userId db
    · rw [if_neg hd]
      refine (wp_bind ..).mpr (wp_mono (fun r y hy => ?_) (wp_postConsumeQuota_wallet hsrc hb))
      cases r <;> exact hy

lemma wpE_updateUserUsedQuotaAndRequestCount {id quota : Int} (hu : (db.users.row id).isSome)
    (hQ : ∀ y, Effect id 0 quota [] db y → Q () y) :
    wpE server noFaults (updateUserUsedQuotaAndRequestCount cfg id quota) Q E db := by
  unfold updateUserUsedQuotaAndRequestCount
  by_cases hb : cfg.batchUpdateEnabled
  · rw [if_pos hb, wpE_bind]
    apply wpE_exec_step rfl
    apply wpE_exec_step rfl
    rw [note_none, note_none]
    refine hQ _ ⟨?_, ?_, (append_nil _).symm⟩
    · simp only [userQuota, DB.addRecord, sub_zero, Option.map_id']
    · simp [usedQuota, DB.addRecord, add_assoc]
  · rw [if_neg hb, wpE_bind, wpE_attempt]
    apply wpE_exec_step rfl
    obtain ⟨u, hu⟩ := Option.isSome_iff_exists.mp hu
    refine hQ _ ⟨?_, ?_, (append_nil _).symm⟩
    · simp [userQuota, hu]
    · simp only [usedQuota, Table.row_update_self, hu, map_some, elim_some]
      omega

lemma wpE_recordConsumeLog {log : Log} (id : Int)
    (hQ : ∀ y, Effect id 0 0 (if cfg.logConsumeEnabled then [log] else []) db y → Q () y) :
    wpE server noFaults (recordConsumeLog cfg log) Q E db := by
  unfold recordConsumeLog
  by_cases hl : cfg.logConsumeEnabled
  · rw [if_pos hl] at hQ ⊢
    rw [wpE_bind, wpE_attempt]
    apply wpE_exec_step rfl
    refine hQ _ ⟨?_, (add_zero _).symm, rfl⟩
    simp only [userQuota, sub_zero, Option.map_id']
  · rw [if_neg hl] at hQ ⊢
    exact hQ db (.refl id db)

lemma wpE_billingSteps (cfg : Config) (summary : TextQuotaSummary) (log : Log) (h : WalletFunded info billing)
    (hb : userQuota info.userId db = some balance) :
    wpE server noFaults (do
      recordUsage cfg info summary
      let _ ← ExceptT.lift (settleBilling cfg info billing summary.quota)
      recordConsumeLog cfg log) (fun _ y =>
      Effect info.userId (settled balance (summary.quota - prepaid billing))
        (if summary.totalTokens = 0 then 0 else summary.quota)
        (if cfg.logConsumeEnabled then [log] else []) db y) E db := by
  -- the statistics come first, and the settlement finds the same balance
  have hrest : ∀ used y, Effect info.userId 0 used [] db y → wpE server noFaults (do
        let _ ← ExceptT.lift (settleBilling cfg info billing summary.quota)
        recordConsumeLog cfg log) (fun _ z =>
        Effect info.userId (settled balance (summary.quota - prepaid billing)) used
          (if cfg.logConsumeEnabled then [log] else []) db z) E y := by
    intro used y hy
    have hby : userQuota info.userId y = some balance := by
      rw [hy.quota, hb]
      simp
    rw [wpE_bind, wpE_lift]
    refine wp_mono (fun _ z hz => wpE_recordConsumeLog info.userId fun z' hz' => ?_) (wp_settleBilling h hby)
    simpa using (hy.trans hz).trans hz'
  unfold recordUsage
  rw [wpE_bind]
  by_cases ht : summary.totalTokens = 0
  · rw [if_pos ht, if_pos ht]
    exact hrest 0 db (.refl info.userId db)
  · rw [if_neg ht, if_neg ht]
    have hu : (db.users.row info.userId).isSome := by
      obtain ⟨u, hu, -⟩ := map_eq_some_iff.mp hb
      rw [hu]
      rfl
    exact wpE_updateUserUsedQuotaAndRequestCount hu (hrest _)

end Settlement

/-! ### The whole request -/

structure WalletPaid (info : RelayInfo) (start : DB) (s : BillingSession) (y : DB) : Prop where
  settled : s.settled = false
  fundingSettled : s.fundingSettled = false
  paid : ∀ w, s.funding = .wallet w → w.userId = info.userId ∧ (userQuota info.userId start).isSome ∧
    userQuota info.userId y = (userQuota info.userId start).map (· - s.preConsumedQuota)

lemma OpenedFrom.walletPaid {quota : Int} (h : OpenedFrom cfg env info quota db s db') (hq : 0 ≤ quota) :
    WalletPaid info db s db' := by
  cases h with
  | subscription userQuota h =>
    obtain ⟨funding, rfl, hpaid⟩ := h
    cases hpaid
    exact ⟨rfl, rfl, fun w hw => nomatch hw⟩
  | wallet balance huser h =>
    obtain ⟨funding, rfl, hpaid⟩ := h
    refine ⟨rfl, rfl, fun w hw => ⟨?_, by simpa [userQuota] using huser, ?_⟩⟩
    · obtain rfl : funding = .wallet w := hw
      cases hpaid <;> rfl
    · let s : BillingSession :=
        { relayInfo := { info with userQuota := balance }, funding := .wallet { userId := info.userId } }
      have hn : 0 ≤ effectiveQuota cfg env s quota := by
        unfold effectiveQuota
        split <;> omega
      have husers : userQuota info.userId (tokenTaken cfg env s quota db) = userQuota info.userId db := by
        unfold userQuota
        rw [(tokenTaken_frame _ _ _ _ _).1]
      cases hpaid with
      | free h₀ =>
        have hzero : effectiveQuota cfg env s quota = 0 := le_antisymm h₀ hn
        rw [husers, show (opened cfg env s quota _).preConsumedQuota = _ from hzero]
        simp
      | wallet hpos hu hle =>
        rw [userQuota_addUserQuota, husers]
        rfl

seal normalizeBillingPreference in
lemma opened_of_preConsumeBilling {quota : Int}
    (h : (preConsumeBilling cfg env freeModel info quota).run.eval server [] [] db = (.ok billing, db')) :
    (billing = none → db' = db) ∧ ∀ s ∈ billing, OpenedFrom cfg env info quota db s db' := by
  have hwp : wpE server TokenRollbackSucceeds (preConsumeBilling cfg env freeModel info quota)
      (fun billing y => (billing = none → y = db) ∧ ∀ s ∈ billing, OpenedFrom cfg env info quota db s y)
      (fun _ _ => True) db := by
    unfold preConsumeBilling
    cases freeModel with
    | true => exact ⟨fun _ => rfl, by simp⟩
    | false =>
      rw [if_neg (by simp), wpE_bind]
      refine wpE_mono (wpE_newBillingSession (L := False) fun _ _ _ _ h => h) ?_ fun _ _ _ => trivial
      rintro s y ⟨start, hstart, hopened⟩
      obtain rfl := hstart.resolve_right And.left
      refine ⟨by simp, fun s' hs' => ?_⟩
      obtain rfl := mem_some.mp hs'
      exact hopened
  have hopened := ok_of_wpE hwp (meets_nil ?_ db) h
  · exact hopened
  rintro (s | _) x
  · cases s <;> trivial
  · trivial

/-- What the quota of the user has lost. -/
def taken (id : Int) (db db' : DB) : Int := (userQuota id db).getD 0 - (userQuota id db').getD 0

lemma paid_of_preConsumeBilling {quota : Int} (hinfo : info.finalPreConsumedQuota = 0 ∧ info.billingSource = none)
    (hq : 0 ≤ quota)
    (hopen : (preConsumeBilling cfg env freeModel info quota).run.eval server [] [] db = (.ok billing, db'))
    (hwallet : ∀ s ∈ billing, s.funding.source = .wallet) :
    WalletFunded info billing ∧ taken info.userId db db' = prepaid billing := by
  obtain ⟨hfree, hopened⟩ := opened_of_preConsumeBilling hopen
  have hpaid := fun s hs => (hopened s hs).walletPaid hq
  have hfunded : WalletFunded info billing := by
    refine ⟨fun s hs => ?_, fun _ => ⟨hinfo.1, by simp [hinfo.2]⟩⟩
    have h := hpaid s hs
    cases hf : s.funding with
    | wallet w => exact ⟨h.settled, h.fundingSettled, w, rfl, (h.paid w hf).1⟩
    | subscription f => simpa [hf, FundingSource.source] using hwallet s hs
  refine ⟨hfunded, ?_⟩
  cases billing with
  | none => simp [taken, prepaid, hfree rfl]
  | some s =>
    obtain ⟨-, -, w, hf, -⟩ := hfunded.session s rfl
    obtain ⟨-, hsome, hy⟩ := (hpaid s rfl).paid w hf
    obtain ⟨b, hb⟩ := isSome_iff_exists.mp hsome
    simp [taken, prepaid, hy, hb]

/-- What a text request has taken from the wallet is what it records, in the used quota and in the
consume log, if and only if the balance it finds covers the rest of the computed quota and the
request is not one without tokens and with a quota. -/
theorem textRequest_charged_iff (cfg : Config) (env : Env) (info : RelayInfo) (freeModel : Bool)
    (quota balance : Int) (db₀ db₁ db₂ : DB) (billing : Option BillingSession) (summary : TextQuotaSummary)
    (hinfo : info.finalPreConsumedQuota = 0 ∧ info.billingSource = none) (hq : 0 ≤ quota)
    (hopen : (preConsumeBilling cfg env freeModel info quota).run.eval server [] [] db₀ = (.ok billing, db₁))
    (hwallet : ∀ s ∈ billing, s.funding.source = .wallet)
    (hbalance : userQuota info.userId db₂ = some balance) :
    let db₃ := ((postTextConsumeQuota cfg info billing summary).run.eval server [] [] db₂).2
    (taken info.userId db₀ db₁ + taken info.userId db₂ db₃ = summary.quota ∧
        usedQuota info.userId db₃ = usedQuota info.userId db₂ + summary.quota ∧
        (cfg.logConsumeEnabled → db₃.logs = db₂.logs ++ [consumeLog info summary])) ↔
      (summary.quota ≤ prepaid billing ∨ summary.quota - prepaid billing ≤ balance) ∧
        (summary.totalTokens ≠ 0 ∨ summary.quota = 0) := by
  obtain ⟨hfunded, hpre⟩ := paid_of_preConsumeBilling hinfo hq hopen hwallet
  intro db₃
  have heff : Effect info.userId (settled balance (summary.quota - prepaid billing))
      (if summary.totalTokens = 0 then 0 else summary.quota)
      (if cfg.logConsumeEnabled then [consumeLog info summary] else []) db₂ db₃ := by
    have h := eval_of_wp (d := []) (wpE_billingSteps cfg summary (consumeLog info summary)
      (E := fun _ y => Effect info.userId (settled balance (summary.quota - prepaid billing))
        (if summary.totalTokens = 0 then 0 else summary.quota)
        (if cfg.logConsumeEnabled then [consumeLog info summary] else []) db₂ y) hfunded hbalance)
      (meets_nil (fun _ _ => rfl) db₂)
    split at h <;> exact h
  have htaken : taken info.userId db₂ db₃ = settled balance (summary.quota - prepaid billing) := by
    simp [taken, heff.quota, hbalance]
  have hlogs : cfg.logConsumeEnabled → db₃.logs = db₂.logs ++ [consumeLog info summary] := by
    intro hl
    rw [heff.logs, if_pos hl]
  rw [hpre, htaken, heff.used, settled]
  constructor
  · rintro ⟨hcharge, hused, -⟩
    refine ⟨?_, ?_⟩
    · by_contra hc
      omega
    · by_contra hc
      omega
  · rintro ⟨hcover, hcount⟩
    refine ⟨?_, ?_, hlogs⟩
    · omega
    · split <;> omega

theorem textRequest_charged_covered :
    ∃ billing db₁, (preConsumeBilling {} {} false walletRequest 10).run.eval server [] [] fundedUser =
        (.ok billing, db₁) ∧
      let db₃ := ((postTextConsumeQuota {} walletRequest billing ⟨15, 7, "m"⟩).run.eval server [] []
        fundedUser).2
      taken 1 fundedUser db₁ + taken 1 fundedUser db₃ = 15 ∧ usedQuota 1 db₃ = usedQuota 1 fundedUser + 15 := by
  refine ⟨_, _, rfl, ?_⟩
  have h := (textRequest_charged_iff {} {} walletRequest false 10 100 fundedUser _ fundedUser _
    ⟨15, 7, "m"⟩ ⟨rfl, rfl⟩ (by decide) rfl (fun s hs => by obtain rfl := mem_some.mp hs; rfl)
    rfl).mpr ⟨.inr (by decide), .inl (by decide)⟩
  exact ⟨h.1, h.2.1⟩

def poorUser : DB where
  users := Table.empty.insert 1 { quota := 12 }
  tokens := Table.empty.insert 1 { key := "sk-1", remainQuota := 50 }

/-- A request that has pre-consumed 10 of 12 and costs 20 is charged 10, and 20 are added to the
used quota and logged. -/
theorem textRequest_charged_less_than_recorded :
    ∃ billing db₁, (preConsumeBilling {} {} false walletRequest 10).run.eval server [] [] poorUser =
        (.ok billing, db₁) ∧
      let db₂ := ((postTextConsumeQuota {} walletRequest billing ⟨20, 7, "m"⟩).run.eval server [] [] db₁).2
      taken 1 poorUser db₁ + taken 1 db₁ db₂ = 10 ∧ usedQuota 1 db₂ = 20 ∧ db₂.logs.map Log.quota = [20] := by
  refine ⟨_, _, rfl, ?_⟩
  exact ⟨rfl, rfl, rfl⟩

end LoveApi.Proofs
