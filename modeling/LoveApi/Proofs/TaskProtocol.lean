import Mathlib.Algebra.Group.Prod
import LoveApi.TaskPolling
import LoveApi.Proofs.TaskBilling

/-!
# The protocol of the task writers

One row of `tasks` is watched while several processes write it. A thread owns a share: its transitions of the row to
FAILURE and to SUCCESS, and its refunds for the task.
-/

namespace LoveApi.Proofs

open Program Prog Go List Option

variable {fromStatus : TaskStatus} {d : ℕ × ℕ} {x y : DB} {req : Req}

/-! ### The watched task -/

def identity (task : Task) : Task :=
  { task with
    status := .unknown
    failReason := ""
    submitTime := zeroTime
    startTime := zeroTime
    finishTime := zeroTime
    progress := ""
    data := ""
    privateData := { task.privateData with resultURL := "" } }

def taskStatus (id : Int) (db : DB) : Option TaskStatus := (db.tasks.row id).map Task.status

/-- No other unfinished task has this upstream id. -/
def UniqueUpstream (id : Int) (upstreamID : String) (db : DB) : Prop :=
  ∀ j t, j ≠ id → db.tasks.row j = some t → t.status.finished = false → t.getUpstreamTaskID ≠ upstreamID

def isRefund (id : Int) (m : TaskMovement) : Bool :=
  m.task = id && m.action = .refund && m.ledger = .funding

def refundsOf (id : Int) (db : DB) : Nat := db.movements.countP (isRefund id)

/-- The quota of a task has gone back to where it was taken from. -/
def Refunded (task : Task) (x y : DB) : Prop :=
  if taskIsSubscription task then
    ∃ sub, x.subscriptions.row task.privateData.subscriptionId = some sub ∧
      y.subscriptions = (x.setSubscription task.privateData.subscriptionId (sub.adjust (-task.quota))).subscriptions
  else y.users = (x.addUserQuota task.userId task.quota).users

abbrev Share := (ℕ × ℕ) × ℕ

def reached (status : TaskStatus) : ℕ × ℕ :=
  (if status = .failure then 1 else 0, if status = .success then 1 else 0)

/-- The status that comes with a billing action. -/
def finalStatus : TaskBillingAction → TaskStatus
  | .refund => .failure
  | .settle => .success

def transitions (d : ℕ × ℕ) : TaskBillingAction → ℕ
  | .refund => d.1
  | .settle => d.2

def gain (fromStatus status : TaskStatus) : ℕ × ℕ := if fromStatus.finished then 0 else reached status

/-- A task that is watched, with the row found at the start. Under `exact` every refund is
accounted for; under `saved` the row may be written by plain saves. -/
structure Watch where
  id : Int
  task : Task
  exact : Prop := False
  saved : Prop := False

namespace Watch

variable (w : Watch)

def upstream : String := w.task.getUpstreamTaskID

def Writes : Req → Prop
  | .stmt (.updateTaskWithStatus id _ _) => id = w.id
  | .stmt (.bulkUpdateTasks ids _) => w.id ∈ ids
  | .stmt (.saveTask id _) => id = w.id ∧ w.saved
  | _ => False

def IsCopy (task : Task) : Prop := identity task = identity w.task

def Earned (g : Share) (action : TaskBillingAction) : Prop := w.saved ∨ 1 ≤ transitions g.1 action

def Idle (g : Share) : Prop := w.exact → g.1.1 = g.2

end Watch

structure Tracked (w : Watch) (db : DB) (g : Share) : Prop where
  row : ∃ t, db.tasks.row w.id = some t ∧ w.IsCopy t ∧ reached w.task.status + g.1 = reached t.status
  unique : UniqueUpstream w.id w.upstream db

structure TaskStep (w : Watch) (g : Share) (req : Req) (x y : DB) (g' : Share) : Prop where
  wins : g.1 ≤ g'.1
  writes : g'.1 ≠ g.1 → w.Writes req
  movements : ∃ l, y.movements = x.movements ++ l ∧ (l = [] → SameBalances x y) ∧
    ∀ m ∈ l, m.task = w.id → w.Earned g m.action
  refunds : refundsOf w.id y + g.2 = refundsOf w.id x + g'.2
  refunded : w.exact → g'.2 = g.2 ∨ g'.2 = g.2 + 1 ∧ Refunded w.task x y

section Status

variable {status : TaskStatus}

lemma reached_of_unfinished (h : status.finished = false) : reached status = 0 := by
  cases status <;> first | rfl | simp [TaskStatus.finished] at h

lemma transitions_reached (action : TaskBillingAction) :
    transitions (reached status) action = if status = finalStatus action then 1 else 0 := by
  cases action <;> rfl

lemma transitions_add (d d' : ℕ × ℕ) (action : TaskBillingAction) :
    transitions (d + d') action = transitions d action + transitions d' action := by
  cases action <;> rfl

lemma transitions_mono {d' : ℕ × ℕ} (h : d ≤ d') (action : TaskBillingAction) :
    transitions d action ≤ transitions d' action := by
  cases action
  · exact h.1
  · exact h.2

lemma exists_finalStatus (h : status.finished) : ∃ action, status = finalStatus action := by
  cases status with
  | failure => exact ⟨.refund, rfl⟩
  | success => exact ⟨.settle, rfl⟩
  | _ => simp [TaskStatus.finished] at h

lemma gain_of_unfinished (h : fromStatus.finished = false) : gain fromStatus status = reached status := by
  simp [gain, h]

lemma gain_self : gain status status = 0 := by
  unfold gain
  split
  · rfl
  · next h => exact reached_of_unfinished (by simpa using h)

lemma reached_add_gain (h : fromStatus.finished → status = fromStatus) :
    reached fromStatus + gain fromStatus status = reached status := by
  unfold gain
  split
  · next hf => rw [h hf, add_zero]
  · next hf => rw [reached_of_unfinished (by simpa using hf), zero_add]

end Status

section Steps

variable {w : Watch} {g rest : Share}

lemma TaskStep.refl (g : Share) (req : Req) (x : DB) : TaskStep w g req x x g where
  wins := le_refl _
  writes h := absurd rfl h
  movements := ⟨[], by simp, fun _ => .refl x, by simp⟩
  refunds := rfl
  refunded _ := .inl rfl

lemma TaskStep.tasks {tasks : Table Int Task} (hd : d ≠ 0 → w.Writes req) :
    TaskStep w g req x { x with tasks := tasks } (g.1 + d, g.2) where
  wins := ⟨Nat.le_add_right .., Nat.le_add_right ..⟩
  writes h := hd fun h0 => h (by rw [h0, add_zero])
  movements := ⟨[], by simp, fun _ => ⟨fun _ => rfl, rfl, fun _ => rfl⟩, by simp⟩
  refunds := rfl
  refunded _ := .inl rfl

lemma TaskStep.otherTasks {tasks : Table Int Task} : TaskStep w g req x { x with tasks := tasks } g :=
  TaskStep.tasks (d := 0) fun h => absurd rfl h

lemma Tracked.of_tasks {g' : Share} (h : Tracked w x g) (ht : y.tasks = x.tasks) (hg : g'.1 = g.1) :
    Tracked w y g' where
  row := ht ▸ hg ▸ h.row
  unique j t := ht ▸ h.unique j t

lemma Tracked.write (h : Tracked w x (g + rest)) {t t' : Task} (ht : x.tasks.row w.id = some t)
    (ht' : y.tasks.row w.id = some t') (hcopy : w.IsCopy t')
    (hfinal : t.status.finished → t'.status = t.status)
    (hunique : UniqueUpstream w.id w.upstream y) :
    Tracked w y ((g.1 + gain t.status t'.status, g.2) + rest) where
  row := by
    obtain ⟨t₀, ht₀, -, hsum⟩ := h.row
    obtain rfl : t = t₀ := some.inj (ht.symm.trans ht₀)
    refine ⟨t', ht', hcopy, ?_⟩
    have hadd := reached_add_gain hfinal
    rw [← hsum] at hadd
    rw [← hadd]
    show _ + (g.1 + _ + rest.1) = _ + (g.1 + rest.1) + _
    abel
  unique := hunique

lemma Tracked.write_other (h : Tracked w x g) (ht : y.tasks.row w.id = x.tasks.row w.id)
    (hunique : UniqueUpstream w.id w.upstream y) : Tracked w y g where
  row := ht ▸ h.row
  unique := hunique

lemma UniqueUpstream.update {id j : Int} {u : String} (h : UniqueUpstream id u x) {next : Task}
    (hnext : j ≠ id → next.status.finished = false → next.getUpstreamTaskID ≠ u)
    (hy : y.tasks = x.tasks.update j fun _ => next) : UniqueUpstream id u y := by
  intro i t hi ht hf
  rw [hy, Table.row_update] at ht
  split at ht
  · next hij =>
    subst hij
    obtain ⟨-, -, rfl⟩ := map_eq_some_iff.mp ht
    exact hnext hi hf
  · exact h i t hi ht hf

end Steps

/-! ### Conditions on a run -/

inductive WriterKind
  | sweep
  | poll
  | fetch
deriving DecidableEq, Repr

/-- The writes without a guard of their own do not change a final status: a bulk update or a plain
save finds the row unfinished or with the status that it writes, and a fetch of a finished task
gets the status that the task has. -/
def KeepsFinal (id : Int) (kind : WriterKind) (x : DB) : Req → Prop
  | .stmt (.bulkUpdateTasks ids params) =>
    id ∈ ids → ∀ status, taskStatus id x = some status → status.finished → params.status = status
  | .stmt (.saveTask j task) =>
    j = id → ∀ status, taskStatus id x = some status → status.finished → task.status = status
  | .stmt (.updateTaskWithStatus _ task fromStatus) =>
    kind = .fetch → fromStatus.finished → task.status = fromStatus
  | _ => True

/-- Only the writes that come with a refund move the task to FAILURE: no bulk update, no fetch, no
sweep of a legacy task, and a plain save does not find the task failed already. -/
def KeepsRefunds (id : Int) (kind : WriterKind) (x : DB) : Req → Prop
  | .stmt (.bulkUpdateTasks ids _) => id ∈ ids → taskStatus id x = some .failure
  | .stmt (.saveTask j _) => j = id → taskStatus id x ≠ some .failure
  | .stmt (.updateTaskWithStatus j task fromStatus) =>
    j = id → taskStatus id x = some fromStatus →
      match kind with
      | .sweep => isLegacy task = false
      | .poll => True
      | .fetch => fromStatus ≠ .failure → task.status ≠ .failure
  | _ => True

/-- The request meets no fault. -/
def Succeeds : Req → List (Option String) → DB → Prop
  | .stmt _, φs, _ => φs = []
  | .tx body, φs, x => ∃ b y, server.exec φs (.tx body) x = (.ok b, y)

def Watch.Unsaved (w : Watch) : Req → Prop
  | .stmt (.saveTask _ _) => ¬w.saved
  | _ => False

def Allowed (w : Watch) (kind : WriterKind) (req : Req) (φs : List (Option String)) (x : DB) : Prop :=
  (w.Unsaved req ∨ KeepsFinal w.id kind x req) ∧
    (w.exact → Succeeds req φs x ∧ KeepsRefunds w.id kind x req)

abbrev TaskSafe {α : Type} (w : Watch) (kind : WriterKind) (p : Prog Req Req.Resp α) (Q : α → Share → Prop)
    (g : Share) : Prop :=
  Safe server (Allowed w kind) (Tracked w) (TaskStep w) p Q g

/-! ### Writes of the row -/

section

variable {w : Watch} {kind : WriterKind} {g : Share} {id : Int} {task next : Task}

def CasResult (w : Watch) (kind : WriterKind) (g : Share) (id : Int) (next : Task)
    (fromStatus : TaskStatus) (r : Except String Bool) (g' : Share) : Prop :=
  (g' = g ∧ (r = .ok true → id ≠ w.id)) ∨
    (r = .ok true ∧ id = w.id ∧ g' = (g.1 + gain fromStatus next.status, g.2) ∧
      (w.exact → ∃ x, taskStatus w.id x = some fromStatus ∧
        KeepsRefunds w.id kind x (.stmt (.updateTaskWithStatus id next fromStatus))))

lemma safe_updateWithStatus (hcopy : id = w.id → w.IsCopy next)
    (hother : id ≠ w.id → (kind = .fetch → fromStatus.finished → next.status = fromStatus) →
      next.status.finished = false → next.getUpstreamTaskID ≠ w.upstream)
    (hfrom : id = w.id → kind ≠ .fetch → fromStatus.finished = false) :
    TaskSafe w kind (updateWithStatus id next fromStatus).run
      (CasResult w kind g id next fromStatus) g := by
  refine Safe.bind_run (safe_exec (fun φs x rest hA hI => ?_) (TaskStep.refl g _) fun e =>
    ⟨fun _ _ => .inl ⟨rfl, by simp⟩, by simp⟩)
  obtain ⟨hA₁, hA₂⟩ := hA
  have hfetch : kind = .fetch → fromStatus.finished → next.status = fromStatus :=
    hA₁.resolve_left fun h => h
  simp only [Stmt.step]
  split
  · next hguard =>
    obtain ⟨t, ht, hst⟩ := (any_eq_true _ _).mp hguard
    obtain rfl : t.status = fromStatus := by simpa using hst
    have hunique : UniqueUpstream w.id w.upstream { x with tasks := x.tasks.update id fun _ => next } :=
      hI.unique.update (fun hj => hother hj hfetch) rfl
    by_cases hid : id = w.id
    · subst hid
      have hfinal : t.status.finished → next.status = t.status := fun hf => by
        by_cases hk : kind = .fetch
        · exact hfetch hk hf
        · rw [hfrom rfl hk] at hf
          contradiction
      refine ⟨_, TaskStep.tasks fun _ => rfl, hI.write ht (by simp [ht]) (hcopy rfl) hfinal hunique,
        by simp, fun n hn => ?_⟩
      cases hn
      refine Safe.ret (.inr ⟨by simp, rfl, rfl, fun hx => ⟨x, ?_, (hA₂ hx).2⟩⟩)
      simp [taskStatus, ht]
    · refine ⟨g, TaskStep.otherTasks,
        hI.write_other (Table.row_update_of_ne _ (Ne.symm hid) _) hunique, by simp, fun n hn => ?_⟩
      exact Safe.ret (.inl ⟨rfl, fun _ => hid⟩)
  · refine ⟨g, TaskStep.refl g _ x, hI, by simp, fun n hn => ?_⟩
    cases hn
    exact Safe.ret (.inl ⟨rfl, by simp⟩)

lemma safe_saveTask (hcopy : id = w.id → w.IsCopy task ∧ w.saved)
    (hother : id ≠ w.id → task.status.finished = false → task.getUpstreamTaskID ≠ w.upstream) :
    TaskSafe w kind (exec (.saveTask id task)).run
      (fun _ g' => (id ≠ w.id → g' = g) ∧
        (id = w.id → w.exact → g'.1.1 = g.1.1 + (reached task.status).1 ∧ g'.2 = g.2)) g := by
  refine safe_exec_of_fault (fun φs x rest hA hI => ?_) (TaskStep.refl g _) fun φs x e hA hφ =>
    ⟨fun _ => rfl, fun _ hx => absurd (hA.2 hx).1 hφ⟩
  have hunique : UniqueUpstream w.id w.upstream { x with tasks := x.tasks.update id fun _ => task } :=
    hI.unique.update hother rfl
  by_cases hid : id = w.id
  · subst hid
    obtain ⟨hc, hsaved⟩ := hcopy rfl
    obtain ⟨t, ht, -⟩ := hI.row
    have hst : taskStatus w.id x = some t.status := by simp [taskStatus, ht]
    have hkeep : t.status.finished → task.status = t.status := fun hf =>
      (hA.1.resolve_left fun h => h hsaved) rfl _ hst hf
    refine ⟨_, TaskStep.tasks fun _ => ⟨rfl, hsaved⟩, hI.write ht (by simp [Stmt.step, ht]) hc hkeep hunique,
      fun h => absurd rfl h, fun _ hx => ⟨?_, rfl⟩⟩
    show g.1.1 + (gain t.status task.status).1 = _
    by_cases hf : t.status.finished
    · -- The row is not FAILURE, so it is SUCCESS and stays so.
      have hne : task.status ≠ .failure := fun h => (hA.2 hx).2 rfl (hst.trans (by rw [← hkeep hf, h]))
      rw [hkeep hf, gain_self, ← hkeep hf]
      simp [reached, hne]
    · rw [gain_of_unfinished (by simpa using hf)]
  · exact ⟨g, TaskStep.otherTasks,
      hI.write_other (Table.row_update_of_ne _ (Ne.symm hid) _) hunique, fun _ => rfl, fun h => absurd h hid⟩

lemma row_bulkUpdate (tasks : Table Int Task) (ids : List Int) (params : TaskUpdates) (j : Int) :
    (ids.foldl (fun t id => t.update id (Task.bulkUpdate params)) tasks).row j =
      if j ∈ ids then (tasks.row j).map (Task.bulkUpdate params) else tasks.row j := by
  induction ids generalizing tasks with
  | nil => simp
  | cons id ids ih =>
    rw [foldl_cons, ih]
    by_cases hj : j = id
    · subst hj
      rcases ht : tasks.row j with _ | t
      · simp [ht]
      · cases hr : params.failReason <;> simp [ht, Task.bulkUpdate, hr]
    · simp [Table.row_update_of_ne _ hj, hj]

lemma safe_taskBulkUpdateByID {ids : List Int} {params : TaskUpdates} (hparams : params.status = .failure)
    (hg : w.Idle g) :
    TaskSafe w kind (taskBulkUpdateByID ids params).run
      (fun _ => w.Idle) g := by
  unfold taskBulkUpdateByID
  split
  · exact Safe.ret hg
  refine safe_exec (fun φs x rest hA hI => ?_) (TaskStep.refl g _) fun _ => hg
  have hrow : ∀ j, ((Stmt.bulkUpdateTasks ids params).step x).2.tasks.row j =
      if j ∈ ids then (x.tasks.row j).map (Task.bulkUpdate params) else x.tasks.row j :=
    row_bulkUpdate x.tasks ids params
  have hunique : UniqueUpstream w.id w.upstream ((Stmt.bulkUpdateTasks ids params).step x).2 := by
    intro j t hj ht hf
    rw [hrow j] at ht
    split at ht
    · obtain ⟨t₀, -, rfl⟩ := map_eq_some_iff.mp ht
      simp [Task.bulkUpdate, hparams, TaskStatus.finished] at hf
    · exact hI.unique j t hj ht hf
  by_cases hid : w.id ∈ ids
  · obtain ⟨t, ht, hc, -⟩ := hI.row
    have hst : taskStatus w.id x = some t.status := by simp [taskStatus, ht]
    have hkeep : t.status.finished → params.status = t.status :=
      hA.1.resolve_left (fun h => h) hid _ hst
    have ht' : ((Stmt.bulkUpdateTasks ids params).step x).2.tasks.row w.id = some (.bulkUpdate params t) := by
      rw [hrow, if_pos hid, ht]
      rfl
    refine ⟨_, TaskStep.tasks fun _ => hid, hI.write ht ht' hc hkeep hunique, fun hx => ?_⟩
    -- The task has failed before, so nothing is gained.
    have hfail : t.status = .failure := some.inj (hst.symm.trans ((hA.2 hx).2 hid))
    show g.1.1 + (gain t.status params.status).1 = g.2
    rw [hfail, hparams, gain_self]
    exact hg hx
  · refine ⟨g, TaskStep.otherTasks, hI.write_other (by rw [hrow, if_neg hid]) hunique, hg⟩

end

/-! ### Billing -/

section

variable {w : Watch} {kind : WriterKind} {g : Share} {α : Type} {p : Prog Req Req.Resp α}
  {P : TaskMovement → Prop} {cfg : Config}

lemma safe_of_bills (h : p.Issues (BillingRequest P)) (hP : ∀ m, P m → m.task = w.id → w.Earned g m.action)
    (hx : w.exact → ∀ m, P m → isRefund w.id m = false) :
    TaskSafe w kind p
      (fun _ g' => g'.1 = g.1 ∧ ((∀ m, P m → isRefund w.id m = false) → g' = g)) g := by
  refine Safe.of_issues (K := fun g' => g'.1 = g.1 ∧ ((∀ m, P m → isRefund w.id m = false) → g' = g)) h
    ⟨rfl, fun _ => rfl⟩ fun req hreq g₁ φs x rest ⟨hg₁, hno⟩ _ hI => ?_
  obtain ⟨htasks, l, hl, hPl, hsame⟩ := billingStep_exec hreq φs x
  have hcount : (∀ m, P m → isRefund w.id m = false) → l.countP (isRefund w.id) = 0 := fun h =>
    countP_eq_zero.mpr fun m hm => by simp [h m (hPl m hm)]
  refine ⟨(g₁.1, g₁.2 + l.countP (isRefund w.id)), ?_, ?_, hg₁, fun h => ?_⟩
  · constructor
    · exact le_refl _
    · exact fun h => absurd rfl h
    · refine ⟨l, hl, hsame, fun m hm htask => ?_⟩
      unfold Watch.Earned
      rw [hg₁]
      exact hP m (hPl m hm) htask
    · unfold refundsOf
      rw [hl, countP_append]
      omega
    · exact fun he => .inl (by rw [hcount (hx he), add_zero])
  · exact hI.of_tasks htasks rfl
  · rw [hcount h, add_zero]
    exact hno h

lemma Refunded.of_copy {task : Task} (hc : w.IsCopy task) (h : Refunded task x y) : Refunded w.task x y := by
  have h : Refunded (identity task) x y := h
  rw [hc] at h
  exact h

lemma TaskStep.refund {m : TaskMovement} (hm : isRefund w.id m) (he : w.Earned g .refund) (hr : Refunded w.task x y)
    (hv : y.movements = x.movements) :
    TaskStep w g req x (y.note (some m)) (g.1, g.2 + 1) where
  wins := le_refl _
  writes h := absurd rfl h
  movements := by
    refine ⟨[m], congrArg (· ++ [m]) hv, by simp, fun m' hm' _ => ?_⟩
    obtain rfl := mem_singleton.mp hm'
    obtain ⟨⟨-, ha⟩, -⟩ : (m'.task = w.id ∧ m'.action = .refund) ∧ m'.ledger = .funding := by
      simpa [isRefund] using hm
    rw [ha]
    exact he
  refunds := by
    have hl : (y.note (some m)).movements = x.movements ++ [m] := congrArg (· ++ [m]) hv
    unfold refundsOf
    rw [hl, countP_append, countP_singleton, if_pos hm]
    omega
  refunded _ := .inr ⟨rfl, hr⟩

lemma safe_taskAdjustFunding_exact {task : Task} (hx : w.exact) (hc : w.IsCopy task) (hq : 0 < task.quota)
    (he : w.Earned g .refund) :
    TaskSafe w kind (taskAdjustFunding cfg w.id task .refund (-task.quota)).run
      (fun r g' => r = .ok () ∧ g' = (g.1, g.2 + 1)) g := by
  have hm : isRefund w.id ⟨w.id, .refund, .funding, -task.quota⟩ := by simp [isRefund]
  unfold taskAdjustFunding
  by_cases hs : taskIsSubscription task
  · rw [if_pos hs]
    have hpos : ¬task.privateData.subscriptionId ≤ 0 := by
      have := hs
      simp only [taskIsSubscription, Bool.and_eq_true, decide_eq_true_eq] at this
      omega
    unfold postConsumeUserSubscriptionDelta
    rw [if_neg hpos, if_neg (by omega)]
    refine safe_transaction (fun φs x rest _ hI => wpE_postConsumeTx fun sub hsub _ => ?_)
      (TaskStep.refl g _) fun φs x e hA hr => ?_
    · have hr : Refunded task x (x.setSubscription task.privateData.subscriptionId (sub.adjust (-task.quota))) := by
        rw [Refunded, if_pos hs]
        exact ⟨sub, hsub, rfl⟩
      exact ⟨_, .refund hm he (hr.of_copy hc) rfl, hI.of_tasks rfl rfl, rfl, rfl⟩
    · obtain ⟨b, y, hok⟩ := (hA.2 hx).1
      rw [hr] at hok
      simp at hok
  · rw [if_neg hs, if_neg (by omega)]
    refine safe_increaseUserQuota TaskStep.refl (fun _ φs x rest _ hI => ?_) fun e hfault => ?_
    · have hr : Refunded task x (x.addUserQuota task.userId (- -task.quota)) := by
        rw [Refunded, if_neg hs, neg_neg]
      exact ⟨_, .refund hm he (hr.of_copy hc) rfl, hI.of_tasks rfl rfl, rfl, rfl⟩
    · obtain ⟨φs, x, hA, hφ⟩ := hfault (by omega)
      exact absurd (hA.2 hx).1 hφ

lemma safe_refundTaskQuota {id : Int} {task : Task} (he : id = w.id → w.Earned g .refund)
    (hc : w.exact → id = w.id → w.IsCopy task ∧ 0 < task.quota) :
    TaskSafe w kind (refundTaskQuota cfg id task).run
      (fun _ g' => g'.1 = g.1 ∧ (id ≠ w.id → g' = g) ∧ (w.exact → id = w.id → g' = (g.1, g.2 + 1))) g := by
  by_cases h : w.exact ∧ id = w.id
  · obtain ⟨hx, rfl⟩ := h
    obtain ⟨hcopy, hq⟩ := hc hx rfl
    unfold refundTaskQuota
    rw [if_neg (by omega)]
    refine Safe.attempt_bind ((safe_taskAdjustFunding_exact hx hcopy hq (he rfl)).mono ?_)
    rintro r g' ⟨rfl, rfl⟩
    have hbills : (do
        taskAdjustTokenQuota cfg w.id task .refund (-task.quota)
        recordTaskBillingLog cfg (taskLog task .refund task.quota) : Action Unit).run.Issues
          (BillingRequest fun m => m.task = w.id ∧ m.action = .refund ∧ m.ledger = .token) :=
      (bills_taskAdjustTokenQuota ⟨rfl, rfl, rfl⟩).bind_run fun _ => bills_recordTaskBillingLog
    have hno : ∀ m : TaskMovement, m.task = w.id ∧ m.action = .refund ∧ m.ledger = .token →
        isRefund w.id m = false := fun m hm => by simp [isRefund, hm.2.2]
    refine (safe_of_bills hbills (fun m hm _ => ?_) fun _ => hno).mono fun _ g' hg' => ?_
    · rw [hm.2.1]
      exact he rfl
    · obtain rfl := hg'.2 hno
      exact ⟨rfl, fun h => absurd rfl h, fun _ _ => rfl⟩
  · have hbills : (refundTaskQuota cfg id task).run.Issues
        (BillingRequest fun m => m.task = id ∧ m.action = .refund) :=
      bills_refundTaskQuota fun _ => ⟨rfl, rfl⟩
    have hno : id ≠ w.id → ∀ m : TaskMovement, m.task = id ∧ m.action = .refund → isRefund w.id m = false :=
      fun hne m hm => by simp [isRefund, hm.1, hne]
    refine (safe_of_bills hbills (fun m hm htask => ?_) fun hx => hno fun hid => h ⟨hx, hid⟩).mono
      fun _ g' hg' => ⟨hg'.1, fun hne => hg'.2 (hno hne), fun hx hid => absurd ⟨hx, hid⟩ h⟩
    rw [hm.2]
    exact he (hm.1.symm.trans htask)

end

end LoveApi.Proofs
