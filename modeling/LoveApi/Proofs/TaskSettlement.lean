import LoveApi.Proofs.TaskPricing
import LoveApi.Proofs.TaskRuns

/-!
# The stored quota of a settled task

A poll that finds a task finished writes its row first and settles the difference afterwards, so the row keeps the quota
of the submission.
-/

namespace LoveApi.Proofs

open Program Prog Option

variable {y z db : DB} {account : Account} {delta actualQuota : Int} {cfg : Config} {settings : TaskSettings}
  {task : Task} {E : String → DB → Prop} {adaptor : TaskAdaptor} {info : TaskInfo}

/-! ### The account of a task -/

/-- What pays for a task. -/
def taskAccount (task : Task) : Account :=
  if taskIsSubscription task then .subscription task.privateData.subscriptionId else .wallet task.userId

def Account.covers (db : DB) (delta : Int) : Account → Prop
  | wallet userId => ∃ user, db.users.row userId = some user ∧ (0 < delta → delta ≤ user.quota)
  | subscription id => ∃ sub, db.subscriptions.row id = some sub ∧ ¬Exceeds sub delta

def Account.paidAfter (db : DB) (delta : Int) (account : Account) : Int :=
  match account with
  | wallet _ => account.paid db + delta
  | subscription _ => max 0 (account.paid db + delta)

structure SameAccounts (x y : DB) : Prop where
  tasks : y.tasks = x.tasks
  paid : ∀ account : Account, account.paid y = account.paid x

section Accounts

variable {x : DB}

lemma SameAccounts.refl (x : DB) : SameAccounts x x := ⟨rfl, fun _ => rfl⟩

lemma SameAccounts.trans (h : SameAccounts x y) (h' : SameAccounts y z) : SameAccounts x z :=
  ⟨h'.tasks.trans h.tasks, fun account => (h'.paid account).trans (h.paid account)⟩

lemma paid_wallet {userId : Int} : (Account.wallet userId).paid x = -(userQuota userId x).getD 0 := by
  simp only [Account.paid, userQuota]
  cases x.users.row userId <;> rfl

lemma sameAccounts_updateUsedQuota {id n count : Int} :
    SameAccounts x ((Stmt.updateUserUsedQuotaAndRequestCount id n count).step x).2 := by
  refine ⟨rfl, fun account => ?_⟩
  cases account with
  | wallet userId =>
    rw [paid_wallet, paid_wallet, (sameBalances_updateUsedQuota (x := x) id n count).wallets userId]
  | subscription id => rfl

lemma Account.paidAfter_eq_iff : account.paidAfter x delta = account.paid x ↔
      delta = 0 ∨ ((∃ id, account = .subscription id) ∧ delta < 0 ∧ account.paid x = 0) := by
  cases account with
  | wallet userId =>
    simp only [Account.paidAfter, reduceCtorEq, exists_false, false_and, or_false]
    omega
  | subscription id =>
    have hused : 0 ≤ (Account.subscription id).paid x := usedAmount_nonneg id x
    simp only [Account.paidAfter, Account.subscription.injEq, exists_eq', true_and]
    omega

end Accounts

/-! ### The settlement -/

section

variable {id : Int}
variable {s : Stmt} {action : TaskBillingAction}

def KeepsAccounts (req : Req) : Prop := ∀ φs x, SameAccounts x (server.exec φs req x).2

lemma keepsAccounts_stmt (h : ∀ x, SameAccounts x (s.step x).2) : KeepsAccounts (.stmt s) := by
  intro φs x
  exact server_exec_keeps (.refl x) (h x) φs

lemma keepsAccounts_tables (h : ∀ x, (s.step x).2.tasks = x.tasks ∧ (s.step x).2.users = x.users ∧
    (s.step x).2.subscriptions = x.subscriptions) : KeepsAccounts (.stmt s) := by
  refine keepsAccounts_stmt fun x => ⟨(h x).1, fun account => ?_⟩
  cases account with
  | wallet userId => simp only [Account.paid, (h x).2.1]
  | subscription id => simp only [Account.paid, usedAmount, (h x).2.2]

/-- Only the funding of a task moves an account. -/
lemma keepsAccounts_of_token {req : Req} (h : BillingRequest (fun m => m.ledger = .token) req) :
    KeepsAccounts req := by
  cases h with
  | read hs => exact keepsAccounts_stmt fun x => (hs x).symm ▸ .refl x
  | increaseUserQuota _ hm hl | decreaseUserQuota hm hl | postConsume hm hl => cases hm.symm.trans hl
  | updateUsedQuota => exact keepsAccounts_stmt fun _ => sameAccounts_updateUsedQuota
  | _ => exact keepsAccounts_tables fun _ => ⟨rfl, rfl, rfl⟩

lemma wpE_taskAdjustFunding {Q : Unit → DB → Prop} (hdelta : delta ≠ 0) (hcovers : (taskAccount task).covers db delta)
    (hQ : ∀ y, y.tasks = db.tasks → (taskAccount task).paid y = (taskAccount task).paidAfter db delta → Q () y) :
    wpE server noFaults (taskAdjustFunding cfg id task action delta) Q E db := by
  unfold taskAdjustFunding
  by_cases hsub : taskIsSubscription task
  · simp only [taskAccount, if_pos hsub] at hcovers hQ
    simp only [if_pos hsub]
    obtain ⟨sub, hrow, hx⟩ := hcovers
    apply wpE_postConsumeUserSubscriptionDelta_of_nil (fun _ h => h) hrow hx hdelta
    apply hQ
    · rfl
    · have hrow' := row_setSubscription_self (sub.adjust delta) hrow
      simp only [Account.paid, Account.paidAfter, usedAmount, DB.note]
      rw [hrow', hrow]
      rfl
  · simp only [taskAccount, if_neg hsub] at hcovers hQ
    simp only [if_neg hsub]
    obtain ⟨user, hrow, henough⟩ := hcovers
    have hpaid : ∀ n memo, (Account.wallet task.userId).paid ((db.addUserQuota task.userId n).note memo) =
        (Account.wallet task.userId).paid db - n := by
      intro n memo
      simp only [Account.paid, DB.note, DB.addUserQuota, Table.row_update_self, hrow, map_some, elim_some]
      omega
    by_cases hpos : delta > 0
    · rw [if_pos hpos]
      have hbalance : (db.users.row task.userId).map User.quota = some user.quota := by rw [hrow, map_some]
      apply wpE_decreaseUserQuota_noFaults hbalance hpos.le
      · intro _
        apply hQ
        · rfl
        · rw [hpaid, Account.paidAfter]
          omega
      · intro hlt
        omega
    · rw [if_neg hpos]
      apply wpE_increaseUserQuota_of_nil (fun _ h => h) (by omega)
      apply hQ
      · rfl
      · rw [hpaid, Account.paidAfter]
        omega

def settledPaid (db : DB) (task : Task) (actualQuota : Int) : Int :=
  if actualQuota ≤ 0 then (taskAccount task).paid db
  else (taskAccount task).paidAfter db (actualQuota - task.quota)

structure Settled (task : Task) (actualQuota : Int) (x y : DB) : Prop where
  tasks : y.tasks = x.tasks
  paid : (taskAccount task).paid y = settledPaid x task actualQuota

lemma Settled.same (h : actualQuota ≤ 0 ∨ actualQuota = task.quota) : Settled task actualQuota db db := by
  refine ⟨rfl, ?_⟩
  unfold settledPaid
  split
  · rfl
  · exact (Account.paidAfter_eq_iff.mpr (.inl (by omega))).symm

lemma Settled.trans (h : Settled task actualQuota db y) (h' : SameAccounts y z) : Settled task actualQuota db z :=
  ⟨h'.tasks.trans h.tasks, (h'.paid _).trans h.paid⟩

lemma wpE_recalculateTaskQuota (hcovers : 0 < actualQuota → (taskAccount task).covers db (actualQuota - task.quota)) :
    wpE server noFaults (recalculateTaskQuota cfg id task actualQuota) (fun _ y => Settled task actualQuota db y)
      (fun _ y => Settled task actualQuota db y) db := by
  unfold recalculateTaskQuota
  by_cases hpos : actualQuota ≤ 0
  · rw [if_pos hpos]
    exact .same (.inl hpos)
  · rw [if_neg hpos]
    by_cases hdelta : actualQuota - task.quota = 0
    · rw [if_pos hdelta]
      exact .same (.inr (by omega))
    · rw [if_neg hdelta, wpE_bind, wpE_attempt]
      apply wpE_taskAdjustFunding hdelta (hcovers (by omega))
      intro y htasks hpaid
      have hy : Settled task actualQuota db y := ⟨htasks, by rw [hpaid, settledPaid, if_neg hpos]⟩
      -- the rest keeps the account, whether it fails or not
      have htail : ((do
          taskAdjustTokenQuota cfg id task .settle (actualQuota - task.quota)
          recordRecalculation cfg { task with quota := actualQuota } (actualQuota - task.quota)
          return { task with quota := actualQuota }) : Action Task).run.Issues KeepsAccounts :=
        ((bills_taskAdjustTokenQuota (P := fun m => m.ledger = .token) rfl).bind_run fun _ =>
          bills_recordRecalculation.bind_run fun _ => issues_pure).mono fun _ => keepsAccounts_of_token
      exact wpE_mono (wpE_of_keeps (fun _ hreq φs y hy => hy.trans (hreq φs y)) htail (.refl _))
        (fun _ _ h => hy.trans h) fun _ _ h => hy.trans h

def pricedTokens (settings : TaskSettings) (db : DB) (task : Task) (totalTokens : Int) : Option Int :=
  if totalTokens ≤ 0 ∨ !(settings.getModelRatio (taskModelName task)).2 ∨
      (settings.getModelRatio (taskModelName task)).1 ≤ 0 ∨ recalculationGroup db task = "" then none
  else some (tokenQuota settings task (recalculationGroup db task) totalTokens)

/-- The quota that the result of a finished task asks for: the adjustment of the adaptor, or the price of the tokens. -/
def reportedQuota (settings : TaskSettings) (adaptor : TaskAdaptor) (db : DB) (task : Task) (info : TaskInfo) :
    Option Int :=
  if task.privateData.billingContext.any (·.perCallBilling) then none
  else if adaptor.adjustBillingOnComplete task info > 0 then some (adaptor.adjustBillingOnComplete task info)
  else pricedTokens settings db task info.totalTokens

/-- The account covers what a settlement still takes. -/
def CoversSettlement (db : DB) (task : Task) (quota : Option Int) : Prop :=
  ∀ q, quota = some q → 0 < q → (taskAccount task).covers db (q - task.quota)

lemma wpE_recalculateTaskQuotaByTokens {totalTokens : Int}
    (hcovers : CoversSettlement db task (pricedTokens settings db task totalTokens)) :
    wpE server noFaults (recalculateTaskQuotaByTokens cfg settings id task totalTokens)
      (fun _ y => Settled task ((pricedTokens settings db task totalTokens).getD 0) db y)
      (fun _ y => Settled task ((pricedTokens settings db task totalTokens).getD 0) db y) db := by
  have hsame : Settled task 0 db db := .same (.inl le_rfl)
  unfold recalculateTaskQuotaByTokens
  unfold pricedTokens at hcovers ⊢
  generalize settings.getModelRatio (taskModelName task) = ratio at hcovers ⊢
  obtain ⟨modelRatio, hasRatioSetting⟩ := ratio
  dsimp only at hcovers ⊢
  by_cases htokens : totalTokens ≤ 0
  · rw [if_pos htokens, if_pos (.inl htokens)]
    exact hsame
  · rw [if_neg htokens]
    by_cases hratio : !hasRatioSetting ∨ modelRatio ≤ 0
    · rw [if_pos hratio, if_pos (by tauto)]
      exact hsame
    · rw [if_neg hratio, wpE_bind]
      apply wpE_taskGroup_noFaults
      by_cases hgroup : recalculationGroup db task = ""
      · rw [if_pos hgroup, if_pos (by tauto)]
        exact hsame
      · rw [if_neg (by tauto)] at hcovers
        rw [if_neg hgroup, if_neg (by tauto)]
        exact wpE_recalculateTaskQuota (hcovers _ rfl)

lemma wpE_settleTaskBillingOnComplete
    (hcovers : CoversSettlement db task (reportedQuota settings adaptor db task info)) :
    wpE server noFaults (settleTaskBillingOnComplete cfg settings adaptor id task info)
      (fun _ y => Settled task ((reportedQuota settings adaptor db task info).getD 0) db y)
      (fun _ y => Settled task ((reportedQuota settings adaptor db task info).getD 0) db y) db := by
  unfold settleTaskBillingOnComplete
  unfold reportedQuota at hcovers ⊢
  by_cases hper : task.privateData.billingContext.any (·.perCallBilling)
  · simp only [if_pos hper]
    exact .same (.inl le_rfl)
  · simp only [if_neg hper] at hcovers ⊢
    by_cases hadjust : adaptor.adjustBillingOnComplete task info > 0
    · simp only [if_pos hadjust] at hcovers ⊢
      exact wpE_recalculateTaskQuota (hcovers _ rfl)
    · simp only [if_neg hadjust] at hcovers ⊢
      by_cases htokens : info.totalTokens > 0
      · rw [if_pos htokens]
        exact wpE_recalculateTaskQuotaByTokens hcovers
      · rw [if_neg htokens, pricedTokens, if_pos (.inl (not_lt.mp htokens))]
        exact .same (.inl le_rfl)

end

/-! ### The row -/

section

variable {env : PollEnv} {ch : Channel} {taskM : TaskMap} {taskId : String} {id : Int} {stored next : Task}

/-- The poll of a copy finds `info`, and the copy becomes `next`. -/
def Polls (settings : TaskSettings) (env : PollEnv) (adaptor : TaskAdaptor) (ch : Channel) (task : Task)
    (info : TaskInfo) (next : Task) : Prop :=
  ∃ body parsed,
    adaptor.fetchTask ch (if task.privateData.key ≠ "" then task.privateData.key else ch.key) task = .ok body ∧
    parseBody adaptor body = .ok parsed ∧ resolveEmptyStatus adaptor body parsed = some info ∧
    applyTaskInfo settings env { task with data := adaptor.redact body } info = some next

lemma Polls.same (h : Polls settings env adaptor ch task info next) :
    next.quota = task.quota ∧ taskAccount next = taskAccount task := by
  obtain ⟨body, parsed, -, -, -, happly⟩ := h
  unfold applyTaskInfo at happly
  cases hstatus : info.status <;> simp only [hstatus, some.injEq, reduceCtorEq] at happly <;>
    (subst happly; exact ⟨rfl, rfl⟩)

def afterPoll (cfg : Config) (settings : TaskSettings) (env : PollEnv) (adaptor : TaskAdaptor) (ch : Channel)
    (taskM : TaskMap) (taskId : String) (db : DB) : DB :=
  ((updateVideoSingleTask cfg settings env adaptor ch taskM taskId).run.eval server [] [] db).2

/-- The row of the task holds the quota that was charged for `stored`, and what its account has paid since. -/
def StoredQuotaIsPaid (id : Int) (stored : Task) (db db' : DB) : Prop :=
  (db'.tasks.row id).map Task.quota =
    some (stored.quota + ((taskAccount stored).paid db' - (taskAccount stored).paid db))

instance (id : Int) (stored : Task) (db db' : DB) : Decidable (StoredQuotaIsPaid id stored db db') :=
  inferInstanceAs (Decidable (_ = _))

def writtenTask (db : DB) (id : Int) (next : Task) : DB := { db with tasks := db.tasks.update id fun _ => next }

lemma covers_writtenTask (h : account.covers db delta) : account.covers (writtenTask db id next) delta := by
  cases account <;> exact h

lemma settledPaid_writtenTask :
    settledPaid (writtenTask db id next) task actualQuota = settledPaid db task actualQuota := by
  cases taskAccount task <;> rfl

lemma wp_updateVideoSingleTask (hcopy : taskM taskId = some (id, task)) (hrow : db.tasks.row id = some stored)
    (hstatus : stored.status = task.status) (hopen : task.status ≠ .success)
    (hpolls : Polls settings env adaptor ch task info next) (hsuccess : next.status = .success)
    (hcovers : CoversSettlement db next (reportedQuota settings adaptor db next info)) :
    (updateVideoSingleTask cfg settings env adaptor ch taskM taskId).run.wp server noFaults (fun _ y =>
      y.tasks.row id = some next ∧ (taskAccount next).paid y =
        settledPaid db next ((reportedQuota settings adaptor db next info).getD 0)) db := by
  apply wp_of_wpE
  unfold updateVideoSingleTask
  obtain ⟨body, parsed, hfetch, hparse, hresolve, happly⟩ := hpolls
  simp only [hcopy, pollVideoTask, hfetch, hparse, hresolve, happly]
  rw [wpE_bind, wpE_bind]
  unfold writeTask
  have hfinished : next.status.finished = true ∧ task.status ≠ next.status := by
    rw [hsuccess]
    exact ⟨rfl, hopen⟩
  have hstep : Stmt.step (.updateTaskWithStatus id next task.status) db = (.ok 1, writtenTask db id next) := by
    simp only [Stmt.step, hrow, any_some, hstatus, decide_true, if_true, writtenTask]
  rw [if_pos hfinished, wpE_bind, wpE_attempt, updateWithStatus, wpE_bind]
  refine wpE_exec_step hstep ((wpE_pure ..).mpr ?_)
  unfold billTask
  simp only [if_pos hsuccess]
  have hwritten : (writtenTask db id next).tasks.row id = some next := by
    rw [writtenTask, Table.row_update_self, hrow, map_some]
  have hsettled : ∀ y, Settled next ((reportedQuota settings adaptor db next info).getD 0) (writtenTask db id next) y →
      y.tasks.row id = some next ∧ (taskAccount next).paid y =
        settledPaid db next ((reportedQuota settings adaptor db next info).getD 0) := by
    intro y hy
    exact ⟨by rw [hy.tasks, hwritten], hy.paid.trans settledPaid_writtenTask⟩
  have hsettle : wpE server noFaults (settleTaskBillingOnComplete cfg settings adaptor id next info) _ _
      (writtenTask db id next) :=
    wpE_settleTaskBillingOnComplete fun q hq hpos => covers_writtenTask (hcovers q hq hpos)
  exact wpE_mono hsettle (fun _ y hy => hsettled y hy) fun _ y hy => hsettled y hy

/-- After a poll that finds a task finished, its row holds what its account has paid for it exactly if the result asks
for no other quota than the one of the submission. A subscription whose used amount is zero gives nothing back. -/
theorem storedQuotaIsPaid_iff (hcopy : taskM taskId = some (id, task)) (hrow : db.tasks.row id = some stored)
    (hstatus : stored.status = task.status) (hquota : stored.quota = task.quota)
    (haccount : taskAccount stored = taskAccount task) (hopen : task.status ≠ .success)
    (hpolls : Polls settings env adaptor ch task info next) (hsuccess : next.status = .success)
    (hcovers : CoversSettlement db next (reportedQuota settings adaptor db next info)) :
    StoredQuotaIsPaid id stored db (afterPoll cfg settings env adaptor ch taskM taskId db) ↔
      ∀ q, reportedQuota settings adaptor db next info = some q → q ≤ 0 ∨ q = stored.quota ∨
        ((∃ sub, taskAccount stored = .subscription sub) ∧ q < stored.quota ∧ (taskAccount stored).paid db = 0) := by
  have hwp : (updateVideoSingleTask cfg settings env adaptor ch taskM taskId).run.wp server noFaults _ db :=
    wp_updateVideoSingleTask hcopy hrow hstatus hopen hpolls hsuccess hcovers
  obtain ⟨hrow', hpaid⟩ := eval_of_wp (d := []) hwp (meets_nil (fun _ _ => rfl) db)
  obtain ⟨hnextQuota, hnextAccount⟩ := hpolls.same
  unfold StoredQuotaIsPaid afterPoll
  rw [hrow', map_some, some.injEq, haccount, ← hnextAccount, hpaid, hquota, hnextQuota]
  rw [settledPaid]
  cases reportedQuota settings adaptor db next info with
  | none => simp
  | some q =>
    simp only [getD_some, some.injEq, forall_eq']
    by_cases hq : q ≤ 0
    · simp [hq]
    · have hiff : (taskAccount next).paidAfter db (q - task.quota) = (taskAccount next).paid db ↔ _ :=
        Account.paidAfter_eq_iff
      rw [if_neg hq, hnextQuota]
      constructor
      · intro h
        rcases hiff.mp (by omega) with hzero | ⟨hsub, hneg, hused⟩
        · exact .inr (.inl (by omega))
        · exact .inr (.inr ⟨hsub, by omega, hused⟩)
      · intro h
        have hsame : (taskAccount next).paidAfter db (q - task.quota) = (taskAccount next).paid db := by
          rcases h with hneg | hzero | ⟨hsub, hlt, hused⟩
          · exact (hq hneg).elim
          · exact hiff.mpr (.inl (by omega))
          · exact hiff.mpr (.inr ⟨hsub, by omega, hused⟩)
        omega

/-- An upstream service that reports a finished task with its tokens, and an adjustment of its price. -/
def reports (totalTokens adjustment : Int) : TaskAdaptor where
  fetchTask _ _ _ := .ok ""
  parseTaskResult _ := .ok { status := .success, totalTokens := totalTokens }
  adjustBillingOnComplete _ _ := adjustment

def vipTask : Task := { openTask (.video "50") with group := "vip" }

def vipFinished : Task := { vipTask with
  status := .success
  progress := "100%"
  finishTime := 0
  privateData := { vipTask.privateData with resultURL := "/v1/videos/t/content" } }

def doubleRatio : TaskSettings where
  getModelRatio _ := (2, true)

theorem storedQuotaIsPaid_same_price : tokenQuota doubleRatio vipTask "vip" 25 = vipTask.quota ∧
    StoredQuotaIsPaid 1 vipTask (oneTask vipTask)
      (afterPoll {} doubleRatio {} (reports 25 0) {} (fun _ => some (1, vipTask)) "t" (oneTask vipTask)) := by
  have hpolls : Polls doubleRatio {} (reports 25 0) {} vipTask { status := .success, totalTokens := 25 } vipFinished :=
    ⟨"", _, rfl, rfl, rfl, by decide +kernel⟩
  have hreported : reportedQuota doubleRatio (reports 25 0) (oneTask vipTask) vipFinished
      { status := .success, totalTokens := 25 } = some 50 := by decide +kernel
  refine ⟨by decide +kernel, (storedQuotaIsPaid_iff rfl rfl rfl rfl rfl (by decide) hpolls rfl ?_).mpr ?_⟩
  · intro q hq _
    rw [hreported] at hq
    cases hq
    exact ⟨{ quota := 100 }, rfl, fun _ => by decide⟩
  · intro q hq
    rw [hreported] at hq
    exact .inr (.inl (some.inj hq).symm)

/-- The settlement takes 30 more from the wallet and does not store the new quota. -/
theorem settled_quota_not_stored :
    let db' := afterPoll {} {} {} (reports 0 80) {} (fun _ => some (1, vipTask)) "t" (oneTask vipTask)
    (db'.tasks.row 1).map Task.quota = some 50 ∧ userQuota 1 (oneTask vipTask) = some 100 ∧ userQuota 1 db' = some 70 ∧
      ¬StoredQuotaIsPaid 1 vipTask (oneTask vipTask) db' := by
  decide +kernel

end

end LoveApi.Proofs
