import LoveApi.Midjourney
import LoveApi.Proofs.TextQuota

/-!
# Charges and refunds of Midjourney tasks

A task is stored with the price of its request, and a refund gives the stored price back, whether it was charged or not.
-/

namespace LoveApi.Proofs

open Program Prog Go

variable {info : RelayInfo} {n : Int} {P : Stmt → Prop} {action : String}

variable {x : DB} {s : Stmt} {cfg : Config} {task : Midjourney} {env : MidjourneyEnv}
  {A : Req → List (Option String) → DB → Prop} {mode : MidjourneyMode}

variable {y : DB} {userId : Int}

def mjMovements (id : Int) (db : DB) : List TaskMovement :=
  db.movements.filter fun m => m.task = id && m.ledger = .midjourney

/-- What was refunded for a task. -/
def mjRefunded (id : Int) (db : DB) : Int := ((mjMovements id db).map fun m => -m.amount).sum

/-! ### The charge of a request -/

inductive BesideWallet : Stmt → Prop
  | selectQuota (id : Int) : BesideWallet (.selectQuota id)
  | addNewRecord (type : BatchType) (id n : Int) : BesideWallet (.addNewRecord type id n none)
  | increaseTokenQuota (id n : Int) : BesideWallet (.increaseTokenQuota id n none)
  | decreaseTokenQuota (id n : Int) : BesideWallet (.decreaseTokenQuota id n none)
  | updateUsedQuota (id n count : Int) : BesideWallet (.updateUserUsedQuotaAndRequestCount id n count)
  | createLog (log : Log) : BesideWallet (.createLog log)

inductive ChargeStatement : Stmt → Prop
  | increase (id n : Int) : ChargeStatement (.increaseUserQuota id n none)
  | decrease (id n : Int) : ChargeStatement (.decreaseUserQuota id n none)
  | beside {s : Stmt} (h : BesideWallet s) : ChargeStatement s

def Single (P : Stmt → Prop) : Req → Prop
  | .stmt s => P s
  | .tx _ => False

lemma Single.keeps {K : DB → Prop} {req : Req} (h : Single P req) (hx : K x) (hs : ∀ s, P s → K (s.step x).2)
    (φs : List (Option String)) : K (server.exec φs req x).2 := by
  cases req with
  | stmt s => exact server_exec_keeps hx (hs s h) φs
  | tx body => exact h.elim

structure SameTasks (x y : DB) : Prop where
  midjourneys : y.midjourneys = x.midjourneys
  movements : y.movements = x.movements

structure SameWallets (x y : DB) : Prop extends SameTasks x y where
  quota : ∀ id, userQuota id y = userQuota id x

lemma SameWallets.of_users (hu : y.users = x.users) (hm : y.midjourneys = x.midjourneys)
    (hv : y.movements = x.movements) : SameWallets x y :=
  ⟨⟨hm, hv⟩, fun id => by rw [userQuota, hu]; rfl⟩

lemma SameWallets.note (h : SameWallets x y) : SameWallets x (y.note none) := by
  rw [note_none]
  exact h

lemma sameWallets_step (h : BesideWallet s) (x : DB) : SameWallets x (s.step x).2 := by
  cases h with
  | selectQuota id => exact .of_users rfl rfl rfl
  | addNewRecord type id n | increaseTokenQuota id n | decreaseTokenQuota id n =>
    exact SameWallets.note (.of_users rfl rfl rfl)
  | createLog log => exact .of_users rfl rfl rfl
  | updateUsedQuota id n count =>
    refine ⟨⟨rfl, rfl⟩, fun j => ?_⟩
    show (Option.map User.quota (Table.row (x.users.update id _) j)) = _
    by_cases hj : j = id
    · subst hj
      rw [Table.row_update_self, Option.map_map]
      rfl
    · rw [Table.row_update_of_ne _ hj]
      rfl

lemma sameTasks_step (h : ChargeStatement s) (x : DB) : SameTasks x (s.step x).2 := by
  cases h with
  | increase id n => exact ⟨rfl, List.append_nil _⟩
  | decrease id n =>
    simp only [Stmt.step]
    split
    · exact ⟨rfl, List.append_nil _⟩
    · exact ⟨rfl, rfl⟩
  | beside h => exact (sameWallets_step h x).toSameTasks

section Charge

@[grind ←]
lemma single_stmt (h : P s) : Single P (.stmt s) := h

attribute [grind ←] BesideWallet.selectQuota BesideWallet.addNewRecord BesideWallet.increaseTokenQuota
  BesideWallet.decreaseTokenQuota BesideWallet.updateUsedQuota BesideWallet.createLog ChargeStatement.increase
  ChargeStatement.decrease ChargeStatement.beside

lemma single_settleToken (hP : ∀ s, BesideWallet s → P s) :
    (BillingSession.settleToken cfg info n).run.Issues (Single P) := by
  unfold BillingSession.settleToken
  grind

lemma single_recordConsumeLog (hP : ∀ s, BesideWallet s → P s) {log : Log} :
    (recordConsumeLog cfg log).run.Issues (Single P) := by
  have hlog := hP _ (.createLog log)
  unfold recordConsumeLog
  grind

lemma single_updateUsedQuota (hP : ∀ s, BesideWallet s → P s) {id : Int} :
    (updateUserUsedQuotaAndRequestCount cfg id n).run.Issues (Single P) := by
  grind

variable (hsrc : info.billingSource ≠ some .subscription)

include hsrc

lemma single_chargeMidjourney (action : String) (n : Int) :
    (chargeMidjourney cfg info action n).run.Issues (Single ChargeStatement) := by
  have hfunding : (postConsumeFunding cfg info n).run.Issues (Single ChargeStatement) := by
    unfold postConsumeFunding
    grind
  unfold chargeMidjourney postConsumeQuota
  grind [single_settleToken, single_recordConsumeLog]

/-- No charge of a user fails. -/
def ChargeSucceeds : Req → List (Option String) → DB → Prop
  | .stmt (.decreaseUserQuota ..), φs, _ => φs.headD none = none
  | _, _, _ => True

lemma wp_chargeMidjourney {balance : Int}
    (hb : userQuota info.userId x = some balance) (hn : 0 < n) (hle : n ≤ balance) :
    (chargeMidjourney cfg info action n).run.wp server ChargeSucceeds (fun _ y =>
      y.midjourneys = x.midjourneys ∧ userQuota info.userId y = some (balance - n)) x := by
  let K : DB → Prop := fun y => y.midjourneys = x.midjourneys ∧ userQuota info.userId y = some (balance - n)
  have hK : ∀ req, Single BesideWallet req → ∀ φs y, K y → K (server.exec φs req y).2 := by
    intro req hreq φs y hy
    refine hreq.keeps hy (fun s hs => ?_) φs
    have hsame := sameWallets_step hs y
    exact ⟨hsame.midjourneys.trans hy.1, (hsame.quota _).trans hy.2⟩
  have hrest : ∀ y, K y → wpE server ChargeSucceeds (do
      recordConsumeLog cfg
        { userId := info.userId
          type := .consume
          modelName := covertMjpActionToModelName action
          quota := n
          channelId := info.channelId
          tokenId := info.tokenId
          group := info.usingGroup }
      updateUserUsedQuotaAndRequestCount cfg info.userId n) (fun _ z => K z) (fun _ z => K z) y := by
    intro y hy
    exact wpE_of_keeps hK (Issues.bind_run (single_recordConsumeLog (fun _ h => h)) fun _ =>
      single_updateUsedQuota (fun _ h => h)) hy
  have hcharged : K ((x.addUserQuota info.userId (-n)).note none) := by
    refine ⟨rfl, ?_⟩
    rw [userQuota_note, userQuota_addUserQuota, hb]
    rfl
  apply wp_of_wpE
  unfold chargeMidjourney postConsumeQuota postConsumeFunding
  rw [wpE_bind, wpE_attempt, if_neg hsrc, if_pos hn, wpE_bind, wpE_bind]
  refine wpE_decreaseUserQuota_of_ok (fun φs hφ => hφ) hb hn.le (fun _ => ?_) fun hlt => absurd hle (by omega)
  rw [wpE_pure, wpE_bind]
  exact wpE_mono (wpE_of_keeps hK (single_settleToken (fun _ h => h)) hcharged) (fun _ y hy => hrest y hy)
    fun _ y hy => hrest y hy

end Charge

/-! ### The handlers -/

def submitAction (mode : MidjourneyMode) (req : MidjourneyRequest) : Option String :=
  match normalizeSubmit mode req with
  | .error _ => none
  | .ok (mode, req) =>
    match fixedAction mode with
    | some action => some action
    | none => if req.taskId = "" then some req.action else (originOf mode req).toOption.map Prod.snd

def PaidFor (userId : Int) (x y : DB) : Prop :=
  ∀ id task, x.midjourneys.row id = none → y.midjourneys.row id = some task → 0 < task.quota →
    taken userId x y = task.quota

lemma PaidFor.of_midjourneys (h : y.midjourneys = x.midjourneys) : PaidFor userId x y := by
  intro id task hnone hsome
  rw [h, hnone] at hsome
  cases hsome

lemma PaidFor.of_insert (h : y.midjourneys = x.midjourneys.insert (x.midjourneys.lastId + 1) task)
    (hpaid : 0 < task.quota → taken userId x y = task.quota) : PaidFor userId x y := by
  intro id task' hnone hsome
  rw [h, Table.row_insert _ x.midjourneys.row_lastId_succ] at hsome
  by_cases hid : id = x.midjourneys.lastId + 1
  · rw [if_pos hid] at hsome
    cases hsome
    exact hpaid
  · rw [if_neg hid, hnone] at hsome
    cases hsome

section Handlers

variable {E : MidjourneyStop → DB → Prop} {charged : Bool}

lemma wpE_findOrigin {mjId : String} {Q : Int → DB → Prop} (hQ : ∀ channelId, Q channelId x) (hE : ∀ e, E e x) :
    wpE server A (findOrigin env info mode mjId) Q E x := by
  unfold findOrigin
  rw [wpE_bind, wpE_lift, wp_run]
  refine wpE_exec_ok rfl ?_ fun _ => hE _
  split
  · split
    · exact hE _
    split
    · exact hE _
    · split
      · exact hE _
      · exact hQ _
  · exact hE _

lemma wpE_resolveSubmit {req : MidjourneyRequest} {Q : String × Int → DB → Prop}
    (hQ : ∀ action channelId, submitAction mode req = some action → Q (action, channelId) x)
    (hE : ∀ e, E e x) : wpE server A (resolveSubmit env info mode req) Q E x := by
  unfold resolveSubmit
  rcases hnorm : normalizeSubmit mode req with e | ⟨mode', req'⟩
  · exact hE e
  rcases hfix : fixedAction mode' with _ | action <;> simp only [hfix]
  · by_cases htask : req'.taskId = ""
    · rw [if_pos htask]
      exact hQ _ _ (by simp [submitAction, hnorm, hfix, htask])
    · rw [if_neg htask]
      rcases horigin : originOf mode' req' with e | ⟨mjId, action⟩
      · exact hE e
      have haction : submitAction mode req = some action := by
        simp [submitAction, hnorm, hfix, htask, horigin, Except.toOption]
      rw [wpE_bind]
      exact wpE_findOrigin (fun channelId => hQ _ _ haction) hE
  · split
    · exact hE _
    · exact hQ _ _ (by simp [submitAction, hnorm, hfix])

lemma wpE_sendMidjourney {checkQuota : Bool} {Q : Int × Nat × MidjourneyResponse → DB → Prop}
    (hQ : ∀ quota statusCode r, env.modelPriceHelperPerCall = .ok quota →
      env.doMidjourneyHttpRequest = .ok (statusCode, r) →
      (checkQuota → quota ≤ (userQuota info.userId x).getD 0) → Q (quota, statusCode, r) x)
    (hE : ∀ e, E e x) : wpE server A (sendMidjourney env info checkQuota) Q E x := by
  unfold sendMidjourney
  rcases hprice : env.modelPriceHelperPerCall with e | quota
  · exact hE _
  rw [wpE_bind, wpE_mapError]
  refine wpE_exec (fun userQ y hs => ?_) fun _ => hE _
  obtain ⟨hr, rfl⟩ := Prod.mk.inj hs
  split
  · exact hE _
  next hcheck =>
  rcases hhttp : env.doMidjourneyHttpRequest with r | ⟨statusCode, r⟩
  · exact hE _
  refine hQ quota statusCode r hprice hhttp fun hc => ?_
  have hread : userQ = (userQuota info.userId x).getD 0 := by
    rw [← Except.ok.inj hr]
    unfold userQuota
    cases x.users.row info.userId <;> rfl
  rw [← hread]
  by_contra hlt
  exact hcheck ⟨hc, by omega⟩

lemma wpE_deferredCharge {Q : Unit → DB → Prop} (hsrc : info.billingSource ≠ some .subscription)
    (hpaid : 0 < n → A = ChargeSucceeds ∧ charged = true ∧ n ≤ (userQuota info.userId x).getD 0)
    (hQ : ∀ y, y.midjourneys = x.midjourneys → (0 < n → taken info.userId x y = n) → Q () y) :
    wpE server A (deferredCharge cfg info charged action n) Q E x := by
  unfold deferredCharge
  by_cases hn : 0 < n
  · obtain ⟨rfl, rfl, hle⟩ := hpaid hn
    obtain ⟨balance, hb⟩ : ∃ balance, userQuota info.userId x = some balance := by
      rcases hb : userQuota info.userId x with _ | balance
      · rw [hb] at hle
        exact absurd hle (not_le.mpr hn)
      · exact ⟨balance, rfl⟩
    rw [hb] at hle
    rw [if_pos rfl, wpE_bind, wpE_lift]
    refine wp_mono (fun _ y hy => hQ y hy.1 fun _ => ?_) (wp_chargeMidjourney hsrc hb hn hle)
    rw [taken, hb, hy.2]
    exact sub_sub_cancel balance n
  · by_cases hc : charged
    · rw [if_pos hc, wpE_bind, wpE_lift]
      have hkeeps : ∀ req, Single ChargeStatement req → ∀ φs y, y.midjourneys = x.midjourneys →
          (server.exec φs req y).2.midjourneys = x.midjourneys := by
        intro req hreq φs y hy
        exact hreq.keeps (K := fun z => z.midjourneys = x.midjourneys) hy
          (fun s hs => (sameTasks_step hs y).midjourneys.trans hy) φs
      exact wp_mono (fun _ y hy => hQ y hy fun h => absurd h hn)
        (wp_of_issues hkeeps (single_chargeMidjourney hsrc action n) rfl)
    · rw [if_neg hc]
      exact hQ x rfl fun h => absurd h hn

lemma wpE_storeMidjourney {stop : MidjourneyStop} (hsrc : info.billingSource ≠ some .subscription)
    (hpaid : 0 < task.quota → A = ChargeSucceeds ∧ charged = true ∧ task.quota ≤ (userQuota info.userId x).getD 0) :
    wpE server A (storeMidjourney cfg env info task charged stop) (fun _ y => PaidFor info.userId x y)
      (fun _ y => PaidFor info.userId x y) x := by
  unfold storeMidjourney
  rw [wpE_bind, wpE_lift, wp_run]
  refine wpE_exec (fun id y hs => ?_) fun e => ?_
  · cases hs
    rw [wpE_bind]
    refine wpE_deferredCharge hsrc hpaid fun z hz htaken => ?_
    have hfor : PaidFor info.userId x z := PaidFor.of_insert hz htaken
    simp only
    split <;> exact hfor
  · rw [wpE_bind]
    exact wpE_deferredCharge hsrc hpaid fun z hz _ => PaidFor.of_midjourneys hz

end Handlers

def FreeOfCharge (env : MidjourneyEnv) : Prop := ∀ quota, env.modelPriceHelperPerCall = .ok quota → quota ≤ 0

/-- The action of the request is one that is charged, and the upstream service takes the request. -/
def Accepted (env : MidjourneyEnv) : MidjourneyBody → Prop
  | .submit mode body =>
    (∀ req action, body = some req → submitAction mode req = some action → freeAction action = false) ∧
    ∀ statusCode r, env.doMidjourneyHttpRequest = .ok (statusCode, r) → statusCode = 200 ∧ acceptedCode r.code
  | .swapFace _ =>
    ∀ statusCode r, env.doMidjourneyHttpRequest = .ok (statusCode, r) → statusCode = 200 ∧ r.code = 1

section Requests

variable {c : MidjourneyContext}

lemma quota_submittedTask {channelId quota : Int} {r : MidjourneyResponse} :
    (submittedTask env info action channelId quota r).quota = quota := by
  unfold submittedTask adoptExisting
  simp only
  split <;> split <;> try split
  all_goals rfl

lemma wpE_relayMidjourneySubmit {body : Option MidjourneyRequest}
    (h : FreeOfCharge env ∨ Accepted env (.submit mode body) ∧ A = ChargeSucceeds) :
    wpE server A (relayMidjourneySubmit cfg env (genRelayInfo c) mode body)
      (fun _ y => PaidFor c.userId x y) (fun _ y => PaidFor c.userId x y) x := by
  have hstay : PaidFor c.userId x x := .of_midjourneys rfl
  have hsrc : (genRelayInfo c).billingSource ≠ some .subscription := nofun
  unfold relayMidjourneySubmit
  rcases body with _ | req
  · exact hstay
  rw [wpE_bind]
  refine wpE_resolveSubmit (fun action channelId haction => ?_) fun _ => hstay
  rw [wpE_bind]
  refine wpE_sendMidjourney (fun quota statusCode r hprice hhttp hcovered => ?_) fun _ => hstay
  simp only
  split
  · -- The panic leaves no task behind.
    next hnil =>
    rw [wpE_bind]
    refine wpE_deferredCharge hsrc (fun hpos => ?_) fun y hy _ => .of_midjourneys hy
    rcases h with hfree | ⟨⟨-, hcode⟩, -⟩
    · exact absurd (hfree quota hprice) (by omega)
    · have haccepted := (hcode statusCode r hhttp).2
      rw [hnil.1] at haccepted
      exact absurd haccepted (by decide)
  · refine wpE_storeMidjourney hsrc fun hpos => ?_
    rw [quota_submittedTask] at hpos ⊢
    rcases h with hfree | ⟨⟨haction', hcode⟩, rfl⟩
    · exact absurd (hfree quota hprice) (by omega)
    · have hcharged := haction' req action rfl haction
      obtain ⟨hstatus, haccepted⟩ := hcode statusCode r hhttp
      exact ⟨rfl, by simp [hcharged, hstatus, haccepted], hcovered (by simp [hcharged])⟩

lemma wpE_relaySwapFace {body : Option SwapFaceRequest}
    (h : FreeOfCharge env ∨ Accepted env (.swapFace body) ∧ A = ChargeSucceeds) :
    wpE server A (relaySwapFace cfg env (genRelayInfo c) body)
      (fun _ y => PaidFor c.userId x y) (fun _ y => PaidFor c.userId x y) x := by
  have hstay : PaidFor c.userId x x := .of_midjourneys rfl
  have hsrc : (genRelayInfo c).billingSource ≠ some .subscription := nofun
  unfold relaySwapFace
  rcases body with _ | req
  · exact hstay
  simp only
  split
  · exact hstay
  rw [wpE_bind]
  refine wpE_sendMidjourney (fun quota statusCode r hprice hhttp hcovered => ?_) fun _ => hstay
  refine wpE_storeMidjourney hsrc fun hpos => ?_
  rcases h with hfree | ⟨haccepted, rfl⟩
  · exact absurd (hfree quota hprice) (not_le.mpr hpos)
  · obtain ⟨hstatus, hcode⟩ := haccepted statusCode r hhttp
    exact ⟨rfl, by simp [hstatus, hcode], hcovered rfl⟩

end Requests

end LoveApi.Proofs
