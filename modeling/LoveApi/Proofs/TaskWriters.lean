import Mathlib.Data.List.Flatten
import LoveApi.Proofs.TaskProtocol

/-!
# The task writers follow the protocol

The sweep and the video updates write a row only from the unfinished status that they have read, and each round handles
the copy of the watched task once.
-/

namespace LoveApi.Proofs

open Program Prog Go List Option

variable {settings : TaskSettings} {env : PollEnv} {task t : Task} {w : Watch} {info : TaskInfo} {x : DB} {g : Share}
  {row : TaskRow} {adaptor : TaskAdaptor} {taskM : TaskMap} {k : String} {ks : List String} {entry : Int × List String}
  {item : SunoDataResponse}

/-! ### Copies -/

section

variable {task' : Task}

lemma upstream_of_identity (h : identity task = identity task') : task.getUpstreamTaskID = task'.getUpstreamTaskID :=
  show (identity task).getUpstreamTaskID = (identity task').getUpstreamTaskID from congrArg _ h

lemma identity_applyTaskInfo (h : applyTaskInfo settings env task info = some task') :
    identity task' = identity task := by
  unfold applyTaskInfo at h
  dsimp only at h
  split at h <;> first | (obtain rfl := some.inj h; rfl) | simp at h

lemma identity_applySunoItem (task : Task) (item : SunoDataResponse) :
    identity (applySunoItem task item) = identity task := by
  unfold applySunoItem
  rw [apply_ite identity]
  exact ite_self (identity task)

lemma isCopy_quota (h : w.IsCopy task) : task.quota = w.task.quota :=
  show (identity task).quota = (identity w.task).quota from congrArg _ h

end

structure Fresh (w : Watch) (row : TaskRow) : Prop where
  copy : row.1 = w.id → w.IsCopy row.2 ∧ row.2.status.finished = false
  other : row.1 ≠ w.id → row.2.getUpstreamTaskID ≠ w.upstream

lemma Tracked.isCopy (h : Tracked w x g) (ht : x.tasks.row w.id = some t) : w.IsCopy t := by
  obtain ⟨t₀, ht₀, hc, -⟩ := h.row
  obtain rfl : t = t₀ := some.inj (ht.symm.trans ht₀)
  exact hc

lemma Tracked.fresh (h : Tracked w x g) (hrow : row ∈ x.unfinishedTasks) : Fresh w row := by
  obtain ⟨hmem, hcond⟩ := mem_filter.mp hrow
  have ht : x.tasks.row row.1 = some row.2 := Table.mem_rows.mp hmem
  obtain ⟨-, hf⟩ : row.2.progress ≠ "100%" ∧ row.2.status.finished = false := by simpa using hcond
  exact ⟨fun hid => ⟨h.isCopy (hid ▸ ht), hf⟩, fun hid => h.unique row.1 row.2 hid ht hf⟩

section Writers

variable {cfg : Config} {kind : WriterKind} {id : Int} {ch : Channel} {tasks : List TaskRow}

/-! ### Bills -/

lemma safe_settlement {α : Type} {p : Prog Req Req.Resp α} (he : id = w.id → w.Earned g .settle)
    (h : p.Issues (BillingRequest fun m => m.task = id ∧ m.action = .settle)) :
    TaskSafe w kind p (fun _ g' => g' = g) g := by
  have hno : ∀ m : TaskMovement, m.task = id ∧ m.action = .settle → isRefund w.id m = false :=
    fun m hm => by simp [isRefund, hm.2]
  refine (safe_of_bills h (fun m hm htask => ?_) fun _ => hno).mono fun _ g' hg' => hg'.2 hno
  rw [hm.2]
  exact he (hm.1.symm.trans htask)

lemma bills_settleTaskBillingOnComplete : (settleTaskBillingOnComplete cfg settings adaptor id task info).run.Issues
      (BillingRequest fun m => m.task = id ∧ m.action = .settle) := by
  unfold settleTaskBillingOnComplete
  grind [bills_recalculateTaskQuota, bills_recalculateTaskQuotaByTokens]

@[local grind ←]
lemma returns_settleTaskBillingOnComplete :
    (settleTaskBillingOnComplete cfg settings adaptor id task info).run.Returns (SameUpToQuota task) := by
  unfold settleTaskBillingOnComplete
  grind

@[local grind ←]
lemma returns_billTask : (billTask cfg settings adaptor id task info).run.Returns (SameUpToQuota task) := by
  unfold billTask
  grind

structure Billed (w : Watch) (g : Share) (id : Int) (task : Task) (g' : Share) : Prop where
  wins : g'.1 = g.1
  other : id ≠ w.id → g' = g
  refund : w.exact → id = w.id → g'.2 = g.2 + (reached task.status).1

lemma returns_writeTask {next : Task} :
    (writeTask cfg settings adaptor id task next info).run.Returns (SameUpToQuota next) := by
  unfold writeTask
  grind

/-! ### Rounds -/

def Keyed (w : Watch) (taskM : TaskMap) : Prop :=
  ∀ k row, taskM k = some row → row.2.getUpstreamTaskID = k ∧ (row.1 = w.id ↔ k = w.upstream)

/-- What the loops over the video tasks keep while the upstream ids `ks` are left: the copy of the
watched task is as it was read until its turn comes, and that is once. -/
structure Round (w : Watch) (taskM : TaskMap) (ks : List String) : Prop where
  keyed : Keyed w taskM
  fresh : w.upstream ∈ ks → ∀ row, taskM w.upstream = some row → w.IsCopy row.2 ∧ row.2.status.finished = false
  once : ks.count w.upstream ≤ 1

lemma Keyed.update {taskM : TaskMap} {k : String} {row : TaskRow} {t : Task} (h : Keyed w taskM)
    (hrow : taskM k = some row) (ht : t.getUpstreamTaskID = row.2.getUpstreamTaskID) :
    Keyed w (Function.update taskM k (some (row.1, t))) := by
  intro j r hr
  by_cases hj : j = k
  · subst hj
    rw [Function.update_self] at hr
    cases hr
    exact ⟨ht.trans (h j row hrow).1, (h j row hrow).2⟩
  · rw [Function.update_of_ne hj] at hr
    exact h j r hr

lemma Round.sublist {ks' : List String} (h : Round w taskM ks) (hs : ks'.Sublist ks) : Round w taskM ks' :=
  ⟨h.keyed, fun hu => h.fresh (hs.subset hu), (hs.count_le _).trans h.once⟩

lemma Round.freshRow (h : Round w taskM (k :: ks)) (hrow : taskM k = some row) : Fresh w row := by
  obtain ⟨hkey, hid⟩ := h.keyed k row hrow
  refine ⟨fun hw => ?_, fun hw hu => hw (hid.mpr (hkey.symm.trans hu))⟩
  obtain rfl := hid.mp hw
  exact h.fresh mem_cons_self row hrow

lemma Round.next (h : Round w taskM (k :: ks)) (hrow : taskM k = some row)
    (ht : t.getUpstreamTaskID = row.2.getUpstreamTaskID) :
    Round w (Function.update taskM k (some (row.1, t))) ks := by
  refine ⟨h.keyed.update hrow ht, fun hu => ?_, (h.sublist (sublist_cons_self ..)).once⟩
  have hk : w.upstream ≠ k := by
    rintro rfl
    have hpos := count_pos_iff.mpr hu
    have honce := h.once
    rw [count_cons_self] at honce
    omega
  rw [Function.update_of_ne hk]
  exact h.fresh (mem_cons_of_mem _ hu)

lemma safe_failChannel {failReason : String} {taskIds : List String} (hg : w.Idle g) :
    TaskSafe w .poll (failChannel failReason taskM taskIds).run (fun r g' => w.Idle g' ∧ r = .ok taskM) g :=
  Safe.attempt_bind ((safe_taskBulkUpdateByID rfl hg).mono fun _ _ hg' => Safe.ret ⟨hg', rfl⟩)

structure SunoCopies (w : Watch) (taskM : TaskMap) : Prop where
  keyed : Keyed w taskM
  copy : ∀ row, taskM w.upstream = some row → w.IsCopy row.2 ∧ w.saved

/-- An item of the task that has a fail reason has failed. -/
def SunoConsistent (upstreamID : String) (items : List SunoDataResponse) : Prop :=
  ∀ item ∈ items, item.taskID = upstreamID → item.failReason ≠ "" → item.status = .failure

lemma sunoFails_status (h : item.failReason ≠ "" → item.status = .failure)
    (hf : sunoFails (applySunoItem task item) item) : (applySunoItem task item).status = .failure := by
  have hst : (applySunoItem task item).status = if item.status ≠ .empty then item.status else task.status := by
    unfold applySunoItem
    rw [apply_ite Task.status]
    exact ite_self _
  simp only [sunoFails, Bool.or_eq_true, decide_eq_true_eq] at hf
  rcases hf with hf | hf
  · rw [hst, h hf]
    exact if_pos (by decide)
  · exact hf

/-- Every answer of the adaptor is consistent. -/
def SunoAnswersConsistent (upstreamID : String) (env : PollEnv) : Prop :=
  ∀ adaptor, env.getTaskAdaptor .suno = some adaptor →
    ∀ ch taskIds, SunoConsistent upstreamID (fetchSunoItems adaptor ch taskIds)

lemma SunoCopies.update (h : SunoCopies w taskM) (hrow : taskM k = some row) (item : SunoDataResponse) :
    SunoCopies w (Function.update taskM k (some (row.1, applySunoItem row.2 item))) := by
  have hid := identity_applySunoItem row.2 item
  refine ⟨h.keyed.update hrow (upstream_of_identity hid), fun r hr => ?_⟩
  by_cases hk : w.upstream = k
  · subst hk
    rw [Function.update_self] at hr
    cases hr
    exact ⟨hid.trans (h.copy row hrow).1, (h.copy row hrow).2⟩
  · rw [Function.update_of_ne hk] at hr
    exact h.copy r hr

lemma mem_of_taskMap (h : taskMap tasks k = some row) : row ∈ tasks ∧ row.2.getUpstreamTaskID = k := by
  obtain ⟨hmem, hk⟩ := mem_filter.mp (mem_of_getLast? h)
  exact ⟨hmem, by simpa using hk⟩

variable (h : ∀ row ∈ tasks, Fresh w row)

include h

lemma keyed_taskMap : Keyed w (taskMap tasks) := by
  intro k row hrow
  obtain ⟨hmem, rfl⟩ := mem_of_taskMap hrow
  exact ⟨rfl, fun hid => (congrArg Task.getUpstreamTaskID ((h row hmem).copy hid).1 :), fun hu =>
    by_contra fun hid => (h row hmem).other hid hu⟩

lemma count_upstream_le_one (hn : (tasks.map Prod.fst).Nodup) :
    (tasks.map fun row => row.2.getUpstreamTaskID).count w.upstream ≤ 1 := by
  have hids := nodup_iff_count_le_one.mp hn w.id
  rw [count_eq_countP, countP_map] at hids ⊢
  refine le_trans (countP_mono_left fun row hrow hu => ?_) hids
  have hu : row.2.getUpstreamTaskID = w.upstream := by simpa using hu
  have hid : row.1 = w.id := by_contra fun hid => (h row hrow).other hid hu
  simp [hid]

lemma round_taskMap (hn : (tasks.map Prod.fst).Nodup)
    (hks : ks.Perm (tasks.map fun row => row.2.getUpstreamTaskID)) : Round w (taskMap tasks) ks := by
  refine ⟨keyed_taskMap h, fun _ row hrow => ?_, hks.count_eq w.upstream ▸ count_upstream_le_one h hn⟩
  have hid := ((keyed_taskMap h) _ row hrow).2.mpr rfl
  exact (h row (mem_of_taskMap hrow).1).copy hid

lemma sunoCopies_taskMap (hp : ∀ row ∈ tasks, row.2.platform = .suno)
    (hsaved : w.task.platform = .suno → w.saved) : SunoCopies w (taskMap tasks) := by
  refine ⟨keyed_taskMap h, fun row hrow => ?_⟩
  obtain ⟨hmem, -⟩ := mem_of_taskMap hrow
  have hid := ((keyed_taskMap h) _ row hrow).2.mpr rfl
  have hc := ((h row hmem).copy hid).1
  exact ⟨hc, hsaved ((congrArg Task.platform hc :).symm.trans (hp row hmem))⟩

omit h

lemma perm_taskChannelM (order : MapOrder) (tasks : List TaskRow) :
    ((order.range (groups (tasks.map fun row => (row.2.channelId, row.2.getUpstreamTaskID)))).flatMap
      Prod.snd).Perm (tasks.map fun row => row.2.getUpstreamTaskID) := by
  refine ((order.perm _).flatMap_right _).trans ((groups_flatMap _).trans ?_)
  rw [List.map_map]
  exact .refl _

lemma fresh_groups {limit : Nat} (hI : Tracked w x g) {order : MapOrder} {entry : TaskPlatform × List TaskRow}
    (h : entry ∈ order.range (groups ((x.unfinishedTasks.take limit).map fun row => (row.2.platform, row)))) :
    (∀ row ∈ entry.2, Fresh w row ∧ row.2.platform = entry.1) ∧ (entry.2.map Prod.fst).Nodup := by
  have hmem := (order.perm _).mem_iff.mp h
  constructor
  · intro row hrow
    obtain ⟨r, hr, he⟩ := mem_map.mp (mem_of_mem_groups (k := entry.1) hmem hrow)
    obtain ⟨hplat, rfl⟩ := Prod.mk.inj he
    exact ⟨hI.fresh (mem_of_mem_take hr), hplat⟩
  · have hperm := groups_flatMap ((x.unfinishedTasks.take limit).map fun row => (row.2.platform, row))
    have hnodup : ((x.unfinishedTasks.take limit).map Prod.fst).Nodup :=
      x.tasks.nodup_rows.sublist (((take_sublist ..).trans filter_sublist).map _)
    have hsub := (singleton_sublist.mpr hmem).flatMap Prod.snd
    rw [flatMap_singleton] at hsub
    exact ((hperm.map Prod.fst).nodup_iff.mpr (by simpa [Function.comp_def] using hnodup)).sublist (hsub.map _)

/-! ### The fetch of a user -/

lemma safe_tryRealtimeFetch (hc : row.1 = w.id → w.IsCopy row.2)
    (hother : row.1 ≠ w.id → row.2.status.finished = false → row.2.getUpstreamTaskID ≠ w.upstream) (hg : w.Idle g) :
    TaskSafe w .fetch (tryRealtimeFetch settings env row).run (fun _ => w.Idle) g := by
  unfold tryRealtimeFetch
  split
  · exact Safe.ret hg
  split
  · exact Safe.ret hg
  split
  · exact Safe.ret hg
  split
  · exact Safe.ret hg
  split
  · exact Safe.ret hg
  next info _ =>
  dsimp only
  split
  · have hcas : TaskSafe w .fetch
        (updateWithStatus row.1 (applyRealtime settings row.2 info) row.2.status).run
        (CasResult w .fetch g row.1 (applyRealtime settings row.2 info) row.2.status) g := by
      refine safe_updateWithStatus hc (fun hid hkeep hf => ?_) fun _ h => absurd rfl h
      refine hother hid (Bool.eq_false_iff.mpr fun hfin => ?_)
      rw [hkeep rfl hfin, hfin] at hf
      contradiction
    refine Safe.attempt_bind (hcas.mono fun r g' hr => Safe.ret fun hx => ?_)
    rcases hr with ⟨rfl, -⟩ | ⟨-, hid, rfl, hwon⟩
    · exact hg hx
    -- A fetch that wins does not move the task to FAILURE.
    obtain ⟨x, hst, hne⟩ := hwon hx
    have hnone : (gain row.2.status (applyRealtime settings row.2 info).status).1 = 0 := by
      unfold gain
      split
      · rfl
      · next hfin =>
        have hne := hne hid hst (fun h => hfin (by rw [h]; rfl))
        simp [reached, hne]
    show g.1.1 + _ = g.2
    rw [hnone]
    exact hg hx
  · exact Safe.ret hg

lemma safe_realtimeFetch {userId : Int} {taskId : String} (hg : w.Idle g) :
    TaskSafe w .fetch (realtimeFetch settings env userId taskId).run (fun _ => w.Idle) g := by
  unfold realtimeFetch getByTaskId
  refine Safe.attempt_bind ?_
  split
  · exact Safe.ret (Safe.ret hg)
  refine safe_read (fun _ => rfl) (TaskStep.refl g _) (fun x rest hI => ?_) fun e => Safe.ret hg
  split
  · next row hrow =>
    have hrow := mem_of_find?_eq_some (Except.ok.inj hrow)
    have ht : x.tasks.row row.1 = some row.2 := Table.mem_rows.mp hrow
    exact safe_tryRealtimeFetch (fun hid => hI.isCopy (hid ▸ ht)) (fun hid => hI.unique row.1 row.2 hid ht) hg
  · exact Safe.ret hg

/-! ### The sweep -/

variable (hq : w.exact → 0 < w.task.quota)

include hq

lemma safe_sweepTask (hrow : Fresh w row) (hg : w.Idle g) :
    TaskSafe w .sweep (sweepTask cfg settings env row).run (fun _ => w.Idle) g := by
  have hcas : TaskSafe w .sweep (updateWithStatus row.1 (sweptTask settings env row.2) row.2.status).run
      (CasResult w .sweep g row.1 (sweptTask settings env row.2) row.2.status) g :=
    safe_updateWithStatus (fun hid => (hrow.copy hid).1) (fun hid _ _ => hrow.other hid) fun hid _ =>
      (hrow.copy hid).2
  refine Safe.attempt_bind (hcas.mono fun r g' hr => ?_)
  rcases hr with ⟨rfl, hne⟩ | ⟨rfl, hid, rfl, hx⟩
  · split
    · have hid : row.1 ≠ w.id := hne rfl
      split
      · exact (safe_refundTaskQuota (fun h => absurd h hid) fun _ h => absurd h hid).mono
          fun _ g' hg' => hg'.2.1 hid ▸ hg
      · exact Safe.ret hg
    · exact Safe.ret hg
  · have hgain : gain row.2.status (sweptTask settings env row.2).status = (1, 0) :=
      gain_of_unfinished (hrow.copy hid).2
    rw [hgain]
    dsimp only
    split
    · refine (safe_refundTaskQuota (fun _ => .inr (Nat.le_add_left ..)) fun hexact _ =>
        ⟨(hrow.copy hid).1, ?_⟩).mono fun _ g' hg' hexact => ?_
      · exact (isCopy_quota (hrow.copy hid).1).symm ▸ hq hexact
      · rw [hg'.2.2 hexact hid]
        exact congrArg (· + 1) (hg hexact)
    · next hskip =>
      -- A task that is not legacy and has a quota is refunded.
      refine Safe.ret fun hexact => absurd ⟨?_, ?_⟩ hskip
      · obtain ⟨x, hst, hlegacy⟩ := hx hexact
        have hlegacy : isLegacy row.2 = false := hlegacy hid hst
        simp [hlegacy]
      · have := hq hexact
        have hquota : (sweptTask settings env row.2).quota = w.task.quota := isCopy_quota (hrow.copy hid).1
        omega

lemma safe_sweepTimedOutTasks (hg : w.Idle g) :
    TaskSafe w .sweep (sweepTimedOutTasks cfg settings env).run (fun _ => w.Idle) g := by
  unfold sweepTimedOutTasks getTimedOutUnfinishedTasks
  split
  · exact Safe.ret hg
  refine Safe.bind_run (Safe.attempt_bind (safe_read (fun _ => rfl) (TaskStep.refl g _)
    (fun x rest hI => ?_) fun e => ?_))
  · refine Safe.ret ⟨by simp, fun rows hrows => ?_⟩
    cases hrows
    refine Safe.forM_run hg fun row hrow g hg => safe_sweepTask hq (hI.fresh ?_) hg
    have hmem := mem_of_mem_take hrow
    rw [mem_insertionSort] at hmem
    exact (mem_filter.mp hmem).1
  · refine Safe.ret ⟨by simp, fun rows hrows => ?_⟩
    cases hrows
    exact Safe.forM_run hg (by simp)

/-! ### Video tasks -/

lemma safe_billTask (hs : id = w.id → task.status = .success → w.Earned g .settle)
    (hf : id = w.id → task.status = .failure → w.Earned g .refund) (hc : id = w.id → w.IsCopy task) :
    TaskSafe w kind (billTask cfg settings adaptor id task info).run (fun _ => Billed w g id task) g := by
  unfold billTask
  split
  · next hst =>
    refine (safe_settlement (fun hid => hs hid hst) bills_settleTaskBillingOnComplete).mono ?_
    rintro r g' rfl
    exact ⟨rfl, fun _ => rfl, fun _ _ => by simp [reached, hst]⟩
  · split
    · next _ hst =>
      refine Safe.bind_run ((safe_refundTaskQuota (fun hid => hf hid hst.1) fun hx hid =>
        ⟨hc hid, isCopy_quota (hc hid) ▸ hq hx⟩).mono fun r g' h => ?_)
      obtain ⟨hwins, hother, hone⟩ := h
      have hb : Billed w g id task g' := ⟨hwins, hother, fun hx hid => by rw [hone hx hid, hst.1]; rfl⟩
      exact ⟨fun _ _ => hb, fun _ _ => Safe.ret hb⟩
    · next _ hst =>
      refine Safe.ret ⟨rfl, fun _ => rfl, fun hx hid => ?_⟩
      have hquota : task.quota ≠ 0 := by
        rw [isCopy_quota (hc hid)]
        have := hq hx
        omega
      have hne : task.status ≠ .failure := fun h => hst ⟨h, hquota⟩
      simp [reached, hne]

lemma safe_billTask_idle (hc : id = w.id → w.IsCopy task ∧ task.status.finished = false) (hg : w.Idle g) :
    TaskSafe w .poll (billTask cfg settings adaptor id task info).run (fun _ => w.Idle) g := by
  have hnone : id = w.id → task.status ≠ .success ∧ task.status ≠ .failure := fun hid => by
    have hf := (hc hid).2
    constructor <;> intro h <;> simp [h, TaskStatus.finished] at hf
  refine (safe_billTask hq (fun hid h => absurd h (hnone hid).1) (fun hid h => absurd h (hnone hid).2)
    fun hid => (hc hid).1).mono fun r g' hb hx => ?_
  by_cases hid : id = w.id
  · rw [hb.wins, hb.refund hx hid, reached_of_unfinished (hc hid).2]
    exact hg hx
  · rw [hb.other hid]
    exact hg hx

lemma safe_writeTask {next : Task} (hrow : Fresh w (id, task))
    (hnext : identity next = identity task) (hg : w.Idle g) :
    TaskSafe w .poll (writeTask cfg settings adaptor id task next info).run (fun _ => w.Idle) g := by
  have hcopy : id = w.id → w.IsCopy next := fun hid => hnext.trans (hrow.copy hid).1
  have hcas : TaskSafe w .poll
      (updateWithStatus id next task.status).run (CasResult w .poll g id next task.status) g :=
    safe_updateWithStatus hcopy
      (fun hid _ _ => upstream_of_identity hnext ▸ hrow.other hid) fun hid _ => (hrow.copy hid).2
  unfold writeTask
  split
  · refine Safe.attempt_bind (hcas.mono fun r g' hr => ?_)
    rcases hr with ⟨rfl, hne⟩ | ⟨rfl, hid, rfl, -⟩
    · split
      · exact safe_billTask_idle hq (fun hid => absurd hid (hne rfl)) hg
      · exact Safe.ret hg
    · rw [gain_of_unfinished (hrow.copy hid).2]
      refine (safe_billTask hq (fun _ hst => .inr ?_) (fun _ hst => .inr ?_) hcopy).mono fun r g' hb hx => ?_
      · rw [transitions_add, hst]
        exact Nat.le_add_left ..
      · rw [transitions_add, hst]
        exact Nat.le_add_left ..
      · rw [hb.wins, hb.refund hx hid]
        exact congrArg (· + (reached next.status).1) (hg hx)
  · next hsame =>
    have hidle : id = w.id → w.IsCopy next ∧ next.status.finished = false := fun hid => by
      have hf := (hrow.copy hid).2
      refine ⟨hcopy hid, Bool.eq_false_iff.mpr fun hn => hsame ⟨hn, fun he => ?_⟩⟩
      rw [he, hn] at hf
      contradiction
    split
    · refine Safe.attempt_bind (hcas.mono fun r g' hr => ?_)
      rcases hr with ⟨rfl, -⟩ | ⟨-, hid, rfl, -⟩
      · exact safe_billTask_idle hq hidle hg
      · rw [gain_of_unfinished (hrow.copy hid).2, reached_of_unfinished (hidle hid).2, add_zero]
        exact safe_billTask_idle hq hidle hg
    · exact safe_billTask_idle hq hidle hg

attribute [local irreducible] writeTask

lemma safe_pollVideoTask (hrow : Fresh w row) (hg : w.Idle g) : TaskSafe w .poll
      (pollVideoTask cfg settings env adaptor ch row).run
      (fun r g' => w.Idle g' ∧ ∀ a, r = .ok a → a.2.getUpstreamTaskID = row.2.getUpstreamTaskID) g := by
  have hret : ∀ (e : Except String Unit) (t : Task), t.getUpstreamTaskID = row.2.getUpstreamTaskID →
      TaskSafe w .poll (pure (e, t) : Action _).run
        (fun r g' => w.Idle g' ∧ ∀ a, r = .ok a → a.2.getUpstreamTaskID = row.2.getUpstreamTaskID) g :=
    fun e t ht => Safe.ret ⟨hg, fun a ha => Except.ok.inj ha ▸ ht⟩
  unfold pollVideoTask
  dsimp only
  split
  · exact hret _ _ rfl
  split
  · exact hret _ _ rfl
  split
  · exact hret _ _ rfl
  split
  · exact hret _ _ rfl
  next happly =>
  have hnext := identity_applyTaskInfo happly
  refine Safe.bind_run (((safe_writeTask hq hrow hnext hg).and_returns returns_writeTask).mono
    fun r g' hr => ⟨fun e _ => ⟨hr.1, by simp⟩, fun t ht => Safe.ret ⟨hr.1, fun a ha => ?_⟩⟩)
  cases ha
  obtain ⟨quota, rfl⟩ := hr.2 t ht
  have hup := upstream_of_identity hnext
  exact hup

lemma safe_updateVideoSingleTask (h : Round w taskM (k :: ks)) (hg : w.Idle g) :
    TaskSafe w .poll (updateVideoSingleTask cfg settings env adaptor ch taskM k).run
      (fun r g' => w.Idle g' ∧ ∀ m, r = .ok m → Round w m ks) g := by
  unfold updateVideoSingleTask
  split
  · exact Safe.ret ⟨hg, fun m hm => Except.ok.inj hm ▸ h.sublist (sublist_cons_self ..)⟩
  next row hrow =>
  refine Safe.bind_run ((safe_pollVideoTask hq (h.freshRow hrow) hg).mono fun r g' hr =>
    ⟨fun e _ => ⟨hr.1, by simp⟩, fun polled hp => Safe.ret ⟨hr.1, fun m hm => ?_⟩⟩)
  cases hm
  exact h.next hrow (hr.2 polled hp)

lemma safe_updateVideoTasks {platform : TaskPlatform} (h : Round w taskM (entry.2 ++ ks)) (hg : w.Idle g) :
    TaskSafe w .poll (updateVideoTasks cfg settings env platform taskM entry).run
      (fun r g' => w.Idle g' ∧ ∀ m, r = .ok m → Round w m ks) g := by
  have hrest : ∀ m, (Except.ok taskM : Except String TaskMap) = .ok m → Round w m ks := fun m hm =>
    Except.ok.inj hm ▸ h.sublist (sublist_append_right ..)
  unfold updateVideoTasks
  split
  · exact (safe_failChannel hg).mono fun r g' hr => ⟨hr.1, fun m hm => hrest m (hr.2.symm.trans hm)⟩
  split
  · exact Safe.ret ⟨hg, hrest⟩
  · exact Safe.foldlM_run (J := fun m left => Round w m (left ++ ks))
      (fun m k left g hJ hK => safe_updateVideoSingleTask hq hJ hK) h hg

/-! ### Suno tasks -/

lemma safe_saveSunoTask (hc : id = w.id → w.IsCopy task ∧ w.saved)
    (hother : id ≠ w.id → task.getUpstreamTaskID ≠ w.upstream)
    (hfail : w.exact → id = w.id → sunoFails task item → task.status = .failure) (hg : w.Idle g) :
    TaskSafe w .poll (saveSunoTask cfg id task item).run (fun _ => w.Idle) g := by
  unfold saveSunoTask
  split
  · next hf =>
    have hearned : id = w.id → w.Earned g .refund := fun hid => .inl (hc hid).2
    refine Safe.bind_run (((safe_refundTaskQuota hearned fun hx hid =>
      ⟨(hc hid).1, isCopy_quota (hc hid).1 ▸ hq hx⟩).and_returns neverFails_refundTaskQuota).mono
      fun r g₁ ⟨⟨_, hsame, hone⟩, hok⟩ => ⟨fun e he => absurd he (hok e), fun _ _ => ?_⟩)
    refine Safe.attempt_bind ((safe_saveTask hc fun hid _ => hother hid).mono fun _ g₂ hg₂ =>
      Safe.ret fun hx => ?_)
    by_cases hid : id = w.id
    · obtain ⟨h₁, h₂⟩ := hg₂.2 hid hx
      rw [h₁, h₂, hone hx hid, hfail hx hid hf]
      exact congrArg (· + 1) (hg hx)
    · rw [hg₂.1 hid, hsame hid]
      exact hg hx
  · next hf =>
    refine Safe.attempt_bind ((safe_saveTask hc fun hid _ => hother hid).mono fun _ g₂ hg₂ =>
      Safe.ret fun hx => ?_)
    by_cases hid : id = w.id
    · obtain ⟨h₁, h₂⟩ := hg₂.2 hid hx
      have hne : task.status ≠ .failure := fun h => hf (by simp [sunoFails, h])
      rw [h₁, h₂]
      simpa [reached, hne] using hg hx
    · rw [hg₂.1 hid]
      exact hg hx

lemma safe_updateSunoItems {items : List SunoDataResponse}
    (hitems : w.exact → SunoConsistent w.upstream items) (h : SunoCopies w taskM) (hg : w.Idle g) :
    TaskSafe w .poll (updateSunoItems cfg taskM items).run
      (fun r g' => w.Idle g' ∧ ∀ m, r = .ok (some m) → SunoCopies w m) g := by
  induction items generalizing taskM g with
  | nil =>
    refine Safe.ret ⟨hg, fun m hm => ?_⟩
    cases hm
    exact h
  | cons item items ih =>
    have hrest : w.exact → SunoConsistent w.upstream items := fun hx i hi =>
      hitems hx i (mem_cons_of_mem _ hi)
    unfold updateSunoItems
    split
    · exact Safe.ret ⟨hg, by simp⟩
    next id task hrow =>
    obtain ⟨hkey, hid⟩ := h.keyed _ _ hrow
    have hsame := identity_applySunoItem task item
    split
    · refine Safe.bind_run ((safe_saveSunoTask hq (fun hw => ?_) (fun hw hu => ?_) (fun hx hw hf => ?_) hg).mono
        fun r g' hg' => ⟨fun e _ => ⟨hg', by simp⟩, fun _ _ => ih hrest (h.update hrow item) hg'⟩)
      · obtain ⟨hc, hs⟩ := h.copy _ (hid.mp hw ▸ hrow)
        exact ⟨hsame.trans hc, hs⟩
      · exact hw (hid.mpr (hkey.symm.trans ((upstream_of_identity hsame).symm.trans hu)))
      · exact sunoFails_status (hitems hx item mem_cons_self (hid.mp hw)) hf
    · exact ih hrest h hg

variable (hsuno : w.exact → SunoAnswersConsistent w.upstream env)

include hsuno

lemma safe_updateSunoTasks (h : SunoCopies w taskM) (hg : w.Idle g) :
    TaskSafe w .poll (updateSunoTasks cfg env taskM entry).run
      (fun r g' => w.Idle g' ∧ ∀ m, r = .ok (some m) → SunoCopies w m) g := by
  have hret : ∀ m, (Except.ok (some taskM) : Except String (Option TaskMap)) = .ok (some m) → SunoCopies w m :=
    fun m hm => some.inj (Except.ok.inj hm) ▸ h
  unfold updateSunoTasks
  split
  · refine Safe.bind_run ((safe_failChannel hg).mono fun r g' hr =>
      ⟨fun e _ => ⟨hr.1, by simp⟩, fun m hm => Safe.ret ⟨hr.1, ?_⟩⟩)
    obtain rfl := Except.ok.inj (hr.2.symm.trans hm)
    exact hret
  · split
    · exact Safe.ret ⟨hg, hret⟩
    · next adaptor hadaptor =>
      exact safe_updateSunoItems hq (fun hx => hsuno hx adaptor hadaptor _ _) h hg

lemma safe_updateAllSunoTasks {entries : List (Int × List String)} (h : SunoCopies w taskM) (hg : w.Idle g) :
    TaskSafe w .poll (updateAllSunoTasks cfg env taskM entries).run (fun _ => w.Idle) g := by
  induction entries generalizing taskM g with
  | nil => exact Safe.ret hg
  | cons entry entries ih =>
    refine Safe.bind_run ((safe_updateSunoTasks hq hsuno h hg).mono fun r g' hr =>
      ⟨fun e _ => hr.1, fun m hm => ?_⟩)
    cases m with
    | none => exact Safe.ret hr.1
    | some m => exact ih (hr.2 m hm) hr.1

/-! ### The round -/

variable (hsaved : w.task.platform = .suno → w.saved)

include hsaved

lemma safe_pollPlatform {entry : TaskPlatform × List TaskRow}
    (hrows : ∀ row ∈ entry.2, Fresh w row ∧ row.2.platform = entry.1)
    (hn : (entry.2.map Prod.fst).Nodup) (hg : w.Idle g) :
    TaskSafe w .poll (pollPlatform cfg settings env entry).run (fun _ => w.Idle) g := by
  obtain ⟨platform, rows⟩ := entry
  have hmem : ∀ row ∈ rows.filter (fun row => row.2.getUpstreamTaskID ≠ ""),
      Fresh w row ∧ row.2.platform = platform := fun row hrow => hrows row (mem_filter.mp hrow).1
  refine Safe.attempt_bind ((safe_taskBulkUpdateByID rfl hg).mono fun _ g hg => ?_)
  unfold dispatchPlatformUpdate
  dsimp only
  split
  · exact Safe.ret hg
  · exact safe_updateAllSunoTasks hq hsuno
      (sunoCopies_taskMap (fun row hrow => (hmem row hrow).1) (fun row hrow => (hmem row hrow).2) hsaved) hg
  · have hround := round_taskMap (fun row hrow => (hmem row hrow).1)
      (hn.sublist (filter_sublist.map _)) (perm_taskChannelM env.order _)
    refine Safe.bind_run ((Safe.foldlM_run (J := fun m left => Round w m (left.flatMap Prod.snd))
      (fun m entry left g hJ hK => safe_updateVideoTasks hq hJ hK) hround hg).mono fun r g' hr => ?_)
    exact ⟨fun _ _ => hr.1, fun _ _ => Safe.ret hr.1⟩

lemma safe_pollPlatforms {entries : List (TaskPlatform × List TaskRow)}
    (hrows : ∀ entry ∈ entries, (∀ row ∈ entry.2, Fresh w row ∧ row.2.platform = entry.1) ∧
      (entry.2.map Prod.fst).Nodup) (hg : w.Idle g) :
    TaskSafe w .poll (pollPlatforms cfg settings env entries).run (fun _ => w.Idle) g := by
  induction entries generalizing g with
  | nil => exact Safe.ret hg
  | cons entry entries ih =>
    obtain ⟨hfresh, hn⟩ := hrows entry mem_cons_self
    refine Safe.bind_run ((safe_pollPlatform hq hsuno hsaved hfresh hn hg).mono fun r g' hg' =>
      ⟨fun _ _ => hg', fun goOn _ => ?_⟩)
    split
    · exact ih (fun e he => hrows e (mem_cons_of_mem _ he)) hg'
    · exact Safe.ret hg'

lemma safe_pollRound (hg : w.Idle g) : TaskSafe w .poll (pollRound cfg settings env).run (fun _ => w.Idle) g := by
  refine Safe.bind_run (Safe.attempt_bind (safe_read (fun _ => rfl) (TaskStep.refl g _)
    (fun x rest hI => ?_) fun e => ?_))
  · refine Safe.ret ⟨by simp, fun rows hrows => ?_⟩
    cases hrows
    exact safe_pollPlatforms hq hsuno hsaved (fun entry he => fresh_groups hI he) hg
  · refine Safe.ret ⟨by simp, fun rows hrows => ?_⟩
    cases hrows
    have hnil : env.order.range (groups (([] : List TaskRow).map fun row => (row.2.platform, row))) = [] :=
      perm_nil.mp (env.order.perm _)
    refine safe_pollPlatforms hq hsuno hsaved (fun entry he => ?_) hg
    rw [hnil] at he
    simp at he

end Writers

end LoveApi.Proofs
