import Mathlib.Algebra.Order.Monoid.Prod
import LoveApi.Proofs.TaskWriters

/-!
# Runs of the task writers

Any number of sweeps, polling rounds and fetches, from any number of processes, with their statements interleaved in any
order.
-/

namespace LoveApi.Proofs

open Program Prog Go List Option

variable {gs : List Share} {g g' : Share} {x : DB} {action : TaskBillingAction}

inductive TaskWriter
  | sweep (env : PollEnv)
  | poll (env : PollEnv)
  | fetch (env : PollEnv) (userId : Int) (taskId : String)

namespace TaskWriter

def kind : TaskWriter → WriterKind
  | sweep _ => .sweep
  | poll _ => .poll
  | fetch .. => .fetch

def run (cfg : Config) (settings : TaskSettings) : TaskWriter → Action Unit
  | sweep env => sweepTimedOutTasks cfg settings env
  | poll env => pollRound cfg settings env
  | fetch env userId taskId => realtimeFetch settings env userId taskId

end TaskWriter

abbrev TaskEvent := Event Req (List (Option String)) DB

def taskThreads (cfg : Config) (settings : TaskSettings) (writers : List TaskWriter) :
    List (Prog Req Req.Resp (Except String Unit)) :=
  writers.map fun writer => (writer.run cfg settings).run

/-- A condition on the requests of each writer. -/
def OfWriters (writers : List TaskWriter)
    (P : WriterKind → Req → List (Option String) → DB → Prop) (i : Nat) (req : Req)
    (φs : List (Option String)) (x : DB) : Prop :=
  ∀ writer ∈ writers[i]?, P writer.kind req φs x

section Runs

variable {cfg : Config} {settings : TaskSettings} {writers : List TaskWriter} {w : Watch} {db : DB}
variable {i : Nat} {e : TaskEvent} {req : Req}

lemma shares_taskThreads (cfg : Config) (settings : TaskSettings) (writers : List TaskWriter) (w : Watch)
    (hrow : db.tasks.row w.id = some w.task) (hunique : UniqueUpstream w.id w.upstream db)
    (hq : w.exact → 0 < w.task.quota)
    (hsuno : w.exact → ∀ env, .poll env ∈ writers → SunoAnswersConsistent w.upstream env)
    (hsaved : w.task.platform = .suno → ∀ env, .poll env ∈ writers → w.saved) :
    Shares server (OfWriters writers (Allowed w)) (Tracked w) (TaskStep w) (fun _ _ => w.Idle)
      (taskThreads cfg settings writers, db) ((taskThreads cfg settings writers).map fun _ => 0) := by
  refine Shares.init ⟨⟨w.task, hrow, rfl, add_zero _⟩, hunique⟩ fun i p hp => ?_
  obtain ⟨writer, hwr, rfl⟩ := map_eq_some_iff.mp (getElem?_map ▸ hp)
  have hA : OfWriters writers (Allowed w) i = Allowed w writer.kind := by
    funext req φs x
    simp [OfWriters, hwr]
  have hmem : writer ∈ writers := mem_of_getElem? hwr
  have hidle : w.Idle 0 := fun _ => rfl
  rw [hA]
  cases writer with
  | sweep env => exact safe_sweepTimedOutTasks hq hidle
  | poll env => exact safe_pollRound hq (fun hx => hsuno hx env hmem) (fun hp => hsaved hp env hmem) hidle
  | fetch env userId taskId => exact safe_realtimeFetch hidle

/-! ### What the invariant says about one request -/

section

variable {y : DB} {s s' : Share}

lemma Tracked.taskStatus (h : Tracked w x s) :
    ∃ status, taskStatus w.id x = some status ∧ reached w.task.status + s.1 = reached status := by
  obtain ⟨t, ht, -, hsum⟩ := h.row
  exact ⟨t.status, by simp [Proofs.taskStatus, ht], hsum⟩

lemma Tracked.final (hx : Tracked w x s) (hy : Tracked w y s') (hle : s.1 ≤ s'.1) {status : TaskStatus}
    (hst : Proofs.taskStatus w.id x = some status) (hf : status.finished) :
    Proofs.taskStatus w.id y = some status := by
  obtain ⟨st, hst', hsum⟩ := hx.taskStatus
  obtain rfl : status = st := some.inj (hst.symm.trans hst')
  obtain ⟨st', hst'', hsum'⟩ := hy.taskStatus
  obtain ⟨action, rfl⟩ := exists_finalStatus hf
  have hmono := transitions_mono (add_le_add_right hle (reached w.task.status)) action
  rw [hsum, hsum', transitions_reached, transitions_reached, if_pos rfl] at hmono
  have heq : st' = finalStatus action := by
    by_contra hne
    rw [if_neg hne] at hmono
    omega
  rw [hst'', heq]

lemma Tracked.moved (hx : Tracked w x s) (hy : Tracked w y s') (hle : s.1 ≤ s'.1)
    (hlt : transitions s.1 action < transitions s'.1 action) :
    (∃ status, Proofs.taskStatus w.id x = some status ∧ status.finished = false) ∧
      Proofs.taskStatus w.id y = some (finalStatus action) := by
  obtain ⟨st, hst, hsum⟩ := hx.taskStatus
  obtain ⟨st', hst', hsum'⟩ := hy.taskStatus
  have h := congrArg (transitions · action) hsum
  have h' := congrArg (transitions · action) hsum'
  simp only [transitions_add, transitions_reached] at h h'
  have heq : st' = finalStatus action := by
    by_contra hne
    rw [if_neg hne] at h'
    omega
  refine ⟨⟨st, hst, Bool.eq_false_iff.mpr fun hf => ?_⟩, heq ▸ hst'⟩
  -- A final status would have stayed, and nothing could have been gained.
  obtain rfl : st' = st := some.inj (hst'.symm.trans (hx.final hy hle hst hf))
  omega

end

lemma sum_set_wins (hg : gs[i]? = some g) (h : g.1 ≤ g'.1) : gs.sum.1 ≤ (gs.set i g').sum.1 := by
  obtain ⟨rest, hsum, hset⟩ := sum_set_add hg
  rw [hsum, hset]
  exact add_le_add_left h rest.1

/-! ### Concrete tasks -/

def openTask (platform : TaskPlatform) : Task where
  taskID := "t"
  platform := platform
  userId := 1
  quota := 50
  status := .inProgress

def oneTask (task : Task) : DB where
  users := Table.empty.insert 1 { quota := 100 }
  tasks := Table.empty.insert 1 task

def answers (info : TaskInfo) (items : List SunoDataResponse) : PollEnv where
  getChannel _ := some { type := channelTypeGemini }
  getTaskAdaptor _ := some
    { fetchTask := fun _ _ _ => .ok ""
      parseTaskResult := fun _ => .ok info
      fetchTasks := fun _ _ => .ok (200, "")
      decodeSunoResponse := fun _ => .ok (true, items) }

lemma uniqueUpstream_oneTask {task : Task} {upstreamID : String} : UniqueUpstream 1 upstreamID (oneTask task) := by
  intro j t hj ht
  have hnone : (oneTask task).tasks.row j = none := if_neg hj
  rw [hnone] at ht
  cases ht

/-! ### Final statuses -/

/-- The request writes the row without a condition on its status. -/
def PlainWrite (id : Int) : Req → Prop
  | .stmt (.saveTask j _) => j = id
  | .stmt (.bulkUpdateTasks ids _) => id ∈ ids
  | _ => False

/-- The round that issues the request has read the unfinished row before, and the row still has the status that it had
then. -/
def StillAsRead (id : Int) (before : List TaskEvent) (e : TaskEvent) : Prop :=
  ∃ e₀ ∈ before, e₀.thread = e.thread ∧ (∃ limit, e₀.request = .stmt (.selectUnfinishedTasks limit)) ∧
    (∃ row ∈ e₀.pre.unfinishedTasks, row.1 = id) ∧ taskStatus id e.pre = taskStatus id e₀.pre

/-- No status changes between the read of a round and its writes without a guard, and no finished task is fetched. -/
structure InTime (id : Int) (writers : List TaskWriter) (tr : List TaskEvent) : Prop where
  plain : ∀ n e, tr[n]? = some e → PlainWrite id e.request → StillAsRead id (tr.take n) e
  fetched : ∀ e ∈ tr, ∀ writer ∈ writers[e.thread]?, writer.kind = .fetch → ∀ j task fromStatus,
    e.request = .stmt (.updateTaskWithStatus j task fromStatus) → fromStatus.finished = false

lemma StillAsRead.unfinished {id : Int} {before : List TaskEvent} (h : StillAsRead id before e) {status : TaskStatus}
    (hstatus : taskStatus id e.pre = some status) : status.finished = false := by
  obtain ⟨e₀, -, -, -, ⟨row, hrow, rfl⟩, hsame⟩ := h
  obtain ⟨hmem, hcond⟩ := mem_filter.mp hrow
  have hread : e₀.pre.tasks.row row.1 = some row.2 := Table.mem_rows.mp hmem
  obtain ⟨-, hf⟩ : row.2.progress ≠ "100%" ∧ row.2.status.finished = false := by simpa using hcond
  rw [hsame, taskStatus, hread] at hstatus
  exact some.inj hstatus ▸ hf

lemma InTime.keepsFinal {id : Int} {tr : List TaskEvent} (h : InTime id writers tr) (he : e ∈ tr) {writer : TaskWriter}
    (hwriter : writer ∈ writers[e.thread]?) : KeepsFinal id writer.kind e.pre e.request := by
  obtain ⟨n, hn⟩ := mem_iff_getElem?.mp he
  have hplain : PlainWrite id e.request → ∀ status, taskStatus id e.pre = some status → ¬status.finished :=
    fun hwrite status hstatus => by simp [(h.plain n e hn hwrite).unfinished hstatus]
  have hfetched := h.fetched e he writer hwriter
  cases hreq : e.request with
  | tx body => trivial
  | stmt s =>
    rw [hreq] at hplain hfetched
    cases s with
    | saveTask j task => exact fun hj status hstatus hf => absurd hf (hplain hj status hstatus)
    | bulkUpdateTasks ids params => exact fun hmem status hstatus hf => absurd hf (hplain hmem status hstatus)
    | updateTaskWithStatus j task fromStatus =>
      exact fun hkind hf => absurd hf (by simp [hfetched hkind j task fromStatus rfl])
    | _ => trivial

/-- In every run in which the rounds write in time what they have read, no write changes a final status: once the
status of a task is SUCCESS or FAILURE, it stays so. -/
theorem finalStatus_kept {id : Int} {task : Task} {sched : List (Nat × List (Option String))}
    (hrow : db.tasks.row id = some task) (hunique : UniqueUpstream id task.getUpstreamTaskID db)
    (htime : InTime id writers (Pool.trace server sched (taskThreads cfg settings writers, db))) :
    ∀ e ∈ Pool.trace server sched (taskThreads cfg settings writers, db), ∀ status,
      taskStatus id e.pre = some status → status.finished → taskStatus id e.post = some status := by
  let w : Watch := { id := id, task := task, saved := True }
  have hmeets : Pool.Meets server (OfWriters writers (Allowed w)) sched
      (taskThreads cfg settings writers, db) := fun e he writer hwr =>
    ⟨.inr (htime.keepsFinal he hwr), False.elim⟩
  have hshares := shares_taskThreads cfg settings writers w hrow hunique False.elim False.elim fun _ _ _ => trivial
  have hrun := hshares.run_induction (t := []) (P := fun tr _ _ => ∀ e ∈ tr, ∀ status,
    taskStatus id e.pre = some status → status.finished → taskStatus id e.post = some status)
    (fun tr gs e g g' hP hg hpre hG hpost _ e₁ he₁ => by
      rcases mem_append.mp he₁ with he₁ | he₁
      · exact hP e₁ he₁
      · obtain rfl := mem_singleton.mp he₁
        exact fun status hst hf => hpre.final hpost (sum_set_wins hg hG.wins) hst hf)
    (by simp) hmeets
  obtain ⟨gs, -, hP⟩ := hrun
  simpa using hP

theorem finalStatus_kept_saved_first :
    let success : SunoDataResponse := { taskID := "t", status := .success }
    let threads := taskThreads {} {} [.poll (answers (failTaskInfo "") [success]), .sweep {}]
    ∀ e ∈ Pool.trace server [(1, []), (0, []), (0, []), (1, [])] (threads, oneTask (openTask .suno)),
      ∀ status, taskStatus 1 e.pre = some status → status.finished → taskStatus 1 e.post = some status := by
  refine finalStatus_kept rfl uniqueUpstream_oneTask ⟨fun n e hn hwrite => ?_, fun e he writer hwr hkind => ?_⟩
  · -- only the third request is a plain write, and the second one is the read of its round
    match n with
    | 0 | 1 | 3 =>
      cases hn
      exact hwrite.elim
    | 2 =>
      cases hn
      exact ⟨_, mem_cons_of_mem _ mem_cons_self, rfl, ⟨_, rfl⟩, ⟨(1, openTask .suno), by decide, rfl⟩, rfl⟩
    | n + 4 => cases hn
  · have hwriters : writer ∈ [TaskWriter.poll (answers (failTaskInfo "") [{ taskID := "t", status := .success }]),
        .sweep {}] := mem_of_getElem? hwr
    rcases mem_pair.mp hwriters with rfl | rfl <;> cases hkind

/-- A round has read a Suno task, the sweep moves it to FAILURE and refunds it, and the save of the
round makes it SUCCESS. -/
theorem saved_task_loses_failure :
    let success : SunoDataResponse := { taskID := "t", status := .success }
    let threads := taskThreads {} {} [.poll (answers (failTaskInfo "") [success]), .sweep {}]
    let before := Pool.run server [(0, []), (1, []), (1, [])] (threads, oneTask (openTask .suno))
    taskStatus 1 before.2 = some .failure ∧ taskStatus 1 (Pool.run server [(0, [])] before).2 = some .success :=
  ⟨rfl, rfl⟩

/-! ### One winner -/

/-- The movements that the event adds. -/
def newMovements (e : TaskEvent) : List TaskMovement := e.post.movements.drop e.pre.movements.length

/-- An `UpdateWithStatus` that moves an unfinished task to a status. -/
structure MovedTo (id : Int) (status : TaskStatus) (e : TaskEvent) : Prop where
  cas : ∃ task fromStatus, e.request = .stmt (.updateTaskWithStatus id task fromStatus)
  pre : ∃ st, taskStatus id e.pre = some st ∧ st.finished = false
  post : taskStatus id e.post = some status

structure BilledByWinner (id : Int) (tr : List TaskEvent) (gs : List Share) : Prop where
  movers : ∀ i g action, gs[i]? = some g → 1 ≤ transitions g.1 action →
    ∃ e ∈ tr, e.thread = i ∧ MovedTo id (finalStatus action) e
  owners : ∀ e ∈ tr, ∀ m ∈ newMovements e, m.task = id → ∃ g, gs[e.thread]? = some g ∧ 1 ≤ transitions g.1 m.action
  preceded : ∀ before e after, tr = before ++ e :: after → ∀ m ∈ newMovements e, m.task = id →
    ∃ e' ∈ before, e'.thread = e.thread ∧ MovedTo id (finalStatus m.action) e'
  balances : ∀ e ∈ tr, newMovements e = [] → SameBalances e.pre e.post

lemma TaskStep.newMovements (h : TaskStep w g e.request e.pre e.post g') :
    (∀ m ∈ newMovements e, m.task = w.id → w.Earned g m.action) ∧
      (newMovements e = [] → SameBalances e.pre e.post) := by
  obtain ⟨l, hl, hsame, hearned⟩ := h.movements
  have hnew : Proofs.newMovements e = l := by simp [Proofs.newMovements, hl]
  rw [hnew]
  exact ⟨hearned, hsame⟩

lemma Watch.Writes.cas (h : w.Writes req) (hsaved : ¬w.saved)
    (hbulk : ∀ ids params, req = .stmt (.bulkUpdateTasks ids params) → w.id ∉ ids) :
    ∃ task fromStatus, req = .stmt (.updateTaskWithStatus w.id task fromStatus) := by
  cases req with
  | tx body => exact h.elim
  | stmt s =>
    cases s with
    | updateTaskWithStatus id task fromStatus => exact ⟨task, fromStatus, by rw [show id = w.id from h]⟩
    | bulkUpdateTasks ids params => exact absurd h (hbulk ids params rfl)
    | saveTask id task => exact absurd h.2 hsaved
    | _ => exact h.elim

section Winner

variable {tr : List TaskEvent} {e : TaskEvent}

lemma movedTo_of_transition (hg : gs[e.thread]? = some g) (hsaved : ¬w.saved) (hpre : Tracked w e.pre gs.sum)
    (hG : TaskStep w g e.request e.pre e.post g') (hpost : Tracked w e.post (gs.set e.thread g').sum)
    (hbulk : ∀ ids params, e.request = .stmt (.bulkUpdateTasks ids params) → w.id ∉ ids)
    (hlt : transitions g.1 action < transitions g'.1 action) :
    MovedTo w.id (finalStatus action) e := by
  obtain ⟨rest, hsum, hset⟩ := sum_set_add hg
  have hlt' : transitions gs.sum.1 action < transitions (gs.set e.thread g').sum.1 action := by
    rw [hsum, hset]
    show transitions (g.1 + rest.1) action < transitions (g'.1 + rest.1) action
    rw [transitions_add, transitions_add]
    omega
  obtain ⟨hun, hfin⟩ := hpre.moved hpost (sum_set_wins hg hG.wins) hlt'
  have hne : g'.1 ≠ g.1 := fun heq => by rw [heq] at hlt; omega
  exact ⟨(hG.writes hne).cas hsaved hbulk, hun, hfin⟩

lemma BilledByWinner.step (h : BilledByWinner w.id tr gs) (hg : gs[e.thread]? = some g) (hsaved : ¬w.saved)
    (hpre : Tracked w e.pre gs.sum) (hG : TaskStep w g e.request e.pre e.post g')
    (hpost : Tracked w e.post (gs.set e.thread g').sum)
    (hbulk : ∀ ids params, e.request = .stmt (.bulkUpdateTasks ids params) → w.id ∉ ids) :
    BilledByWinner w.id (tr ++ [e]) (gs.set e.thread g') := by
  obtain ⟨hi, -⟩ := List.getElem?_eq_some_iff.mp hg
  have hself : (gs.set e.thread g')[e.thread]? = some g' := List.getElem?_set_self hi
  obtain ⟨hearned, hsame⟩ := hG.newMovements
  constructor
  case movers =>
    intro i g₁ action hg₁ hpos
    by_cases hti : e.thread = i
    · subst hti
      obtain rfl := some.inj (hself.symm.trans hg₁)
      by_cases hold : 1 ≤ transitions g.1 action
      · obtain ⟨e', he', h'⟩ := h.movers _ g action hg hold
        exact ⟨e', mem_append_left _ he', h'⟩
      · exact ⟨e, mem_append_right _ mem_cons_self, rfl,
          movedTo_of_transition hg hsaved hpre hG hpost hbulk (by omega)⟩
    · rw [getElem?_set_ne hti] at hg₁
      obtain ⟨e', he', h'⟩ := h.movers i g₁ action hg₁ hpos
      exact ⟨e', mem_append_left _ he', h'⟩
  case owners =>
    intro e₁ he₁ m hm htask
    have hold : ∃ g₁, gs[e₁.thread]? = some g₁ ∧ 1 ≤ transitions g₁.1 m.action := by
      rcases mem_append.mp he₁ with he₁ | he₁
      · exact h.owners e₁ he₁ m hm htask
      · obtain rfl := mem_singleton.mp he₁
        exact ⟨g, hg, (hearned m hm htask).resolve_left hsaved⟩
    obtain ⟨g₁, hg₁, hpos⟩ := hold
    by_cases hti : e.thread = e₁.thread
    · rw [← hti] at hg₁ ⊢
      obtain rfl := some.inj (hg.symm.trans hg₁)
      exact ⟨g', hself, hpos.trans (transitions_mono hG.wins _)⟩
    · exact ⟨g₁, by rw [getElem?_set_ne hti, hg₁], hpos⟩
  case preceded =>
    intro before e₁ after heq m hm htask
    rcases eq_nil_or_concat after with rfl | ⟨after, e₂, rfl⟩
    · obtain ⟨rfl, he⟩ := append_inj' heq rfl
      obtain rfl := singleton_inj.mp he
      exact h.movers _ g m.action hg ((hearned m hm htask).resolve_left hsaved)
    · rw [concat_eq_append, ← cons_append, ← append_assoc] at heq
      obtain ⟨htr, -⟩ := append_inj' heq rfl
      exact h.preceded before e₁ after htr m hm htask
  case balances =>
    intro e₁ he₁ hnil
    rcases mem_append.mp he₁ with he₁ | he₁
    · exact h.balances e₁ he₁ hnil
    · obtain rfl := mem_singleton.mp he₁
      exact hsame hnil

end Winner

lemma Tracked.one_owner (h : Tracked w x gs.sum) {j : Nat} {g₁ g₂ : Share}
    {a₁ a₂ : TaskBillingAction} (h₁ : gs[i]? = some g₁) (h₂ : gs[j]? = some g₂)
    (hp₁ : 1 ≤ transitions g₁.1 a₁) (hp₂ : 1 ≤ transitions g₂.1 a₂) : i = j := by
  by_contra hij
  obtain ⟨rest, hsum⟩ := sum_eq_add_add h₁ h₂ hij
  obtain ⟨status, -, hreached⟩ := h.taskStatus
  have hle : ∀ (d : ℕ × ℕ) (a : TaskBillingAction), transitions d a ≤ d.1 + d.2 := fun d a => by
    cases a
    · exact Nat.le_add_right ..
    · exact Nat.le_add_left ..
  have hone : (reached status).1 + (reached status).2 ≤ 1 := by
    cases status <;> simp [reached]
  rw [← hreached, hsum] at hone
  have := hle g₁.1 a₁
  have := hle g₂.1 a₂
  simp only [Prod.fst_add, Prod.snd_add] at hone
  omega

lemma guarded_of_video {writer : TaskWriter} (hsaved : ¬w.saved)
    (hwriter : ∀ env userId taskId, writer ≠ .fetch env userId taskId)
    (hbulk : ∀ ids params, req = .stmt (.bulkUpdateTasks ids params) → w.id ∉ ids) :
    w.Unsaved req ∨ KeepsFinal w.id writer.kind x req := by
  cases req with
  | tx body => exact .inr trivial
  | stmt s =>
    cases s with
    | saveTask id task => exact .inl hsaved
    | bulkUpdateTasks ids params => exact .inr fun h => absurd h (hbulk ids params rfl)
    | updateTaskWithStatus id task fromStatus =>
      refine .inr fun hkind => ?_
      cases writer with
      | fetch env userId taskId => exact absurd rfl (hwriter env userId taskId)
      | _ => cases hkind
    | _ => exact .inr trivial

/-- Any number of sweeps and video updates race for a task whose upstream id no other unfinished
task has. One thread at most bills the task. A refund is made only by the thread whose
`UpdateWithStatus` has moved the row to FAILURE before, and a settlement only by the one that
has moved it to SUCCESS; and a request that records no movement of quota leaves every wallet,
subscription and token as it is. -/
theorem task_billed_by_winner {id : Int} {task : Task} {sched : List (Nat × List (Option String))}
    (hrow : db.tasks.row id = some task) (hunique : UniqueUpstream id task.getUpstreamTaskID db)
    (hwriters : ∀ writer ∈ writers, (∃ env, writer = .sweep env) ∨
      (∃ env, writer = .poll env) ∧ task.platform ≠ .suno)
    (hbulk : ∀ e ∈ Pool.trace server sched (taskThreads cfg settings writers, db), ∀ ids params,
      e.request = .stmt (.bulkUpdateTasks ids params) → id ∉ ids) :
    let tr := Pool.trace server sched (taskThreads cfg settings writers, db)
    (∀ e₁ ∈ tr, ∀ e₂ ∈ tr, (∃ m ∈ newMovements e₁, m.task = id) → (∃ m ∈ newMovements e₂, m.task = id) →
      e₁.thread = e₂.thread) ∧
    (∀ before e after, tr = before ++ e :: after → ∀ m ∈ newMovements e, m.task = id →
      ∃ e' ∈ before, e'.thread = e.thread ∧ MovedTo id (finalStatus m.action) e') ∧
    ∀ e ∈ tr, newMovements e = [] → SameBalances e.pre e.post := by
  intro tr
  let w : Watch := { id := id, task := task }
  have hfetch : ∀ writer ∈ writers, ∀ env userId taskId, writer ≠ .fetch env userId taskId := by
    rintro writer hmem env userId taskId rfl
    rcases hwriters _ hmem with ⟨_, h⟩ | ⟨⟨_, h⟩, -⟩ <;> cases h
  have hsuno : task.platform = .suno → ∀ env, .poll env ∈ writers → False := by
    intro hp env hmem
    rcases hwriters _ hmem with ⟨_, h⟩ | ⟨-, h⟩
    · cases h
    · exact h hp
  have hmeets : Pool.Meets server (fun i req φs x => OfWriters writers (Allowed w) i req φs x ∧
      ∀ ids params, req = .stmt (.bulkUpdateTasks ids params) → id ∉ ids) sched
      (taskThreads cfg settings writers, db) := fun e he =>
    ⟨fun writer hwr => ⟨guarded_of_video not_false (hfetch writer (mem_of_getElem? hwr)) (hbulk e he),
      False.elim⟩, hbulk e he⟩
  have hshares := shares_taskThreads cfg settings writers w hrow hunique False.elim False.elim hsuno
  have hstart : BilledByWinner id [] ((taskThreads cfg settings writers).map fun _ => 0) :=
    ⟨fun i g action hg hpos => by
      obtain ⟨-, -, rfl⟩ := map_eq_some_iff.mp (getElem?_map ▸ hg)
      cases action <;> exact absurd hpos (by decide), by simp, by simp, by simp⟩
  obtain ⟨gs, hs, hP⟩ := (hshares.of_imp fun _ _ _ _ h => h.1).run_induction
    (P := fun tr _ gs => BilledByWinner id tr gs)
    (fun _ _ _ _ _ hP hg hpre hG hpost hA => hP.step hg not_false hpre hG hpost hA.2) hstart hmeets
  refine ⟨?_, hP.preceded, hP.balances⟩
  rintro e₁ he₁ e₂ he₂ ⟨m₁, hm₁, ht₁⟩ ⟨m₂, hm₂, ht₂⟩
  obtain ⟨g₁, hg₁, hp₁⟩ := hP.owners e₁ he₁ m₁ hm₁ ht₁
  obtain ⟨g₂, hg₂, hp₂⟩ := hP.owners e₂ he₂ m₂ hm₂ ht₂
  exact hs.inv.one_owner hg₁ hg₂ hp₁ hp₂

theorem task_billed_by_winner_poll :
    let tr := Pool.trace server [(0, []), (1, []), (0, []), (1, []), (0, []), (0, [])]
      (taskThreads {} {} [.poll (answers { status := .failure } []), .sweep {}], oneTask (openTask (.video "v")))
    ∀ before e after, tr = before ++ e :: after → ∀ m ∈ newMovements e, m.task = 1 →
      ∃ e' ∈ before, e'.thread = e.thread ∧ MovedTo 1 (finalStatus m.action) e' := by
  refine (task_billed_by_winner rfl (uniqueUpstream_oneTask) (fun writer hwr => ?_) ?_).2.1
  · rcases mem_pair.mp hwr with rfl | rfl
    · exact .inr ⟨⟨_, rfl⟩, by decide⟩
    · exact .inl ⟨_, rfl⟩
  · have hmeets : Pool.Meets server (fun _ req _ _ => ∀ ids params,
        req = .stmt (.bulkUpdateTasks ids params) → (1 : Int) ∉ ids)
        [(0, []), (1, []), (0, []), (1, []), (0, []), (0, [])]
        (taskThreads {} {} [.poll (answers { status := .failure } []), .sweep {}], oneTask (openTask (.video "v"))) :=
      Pool.meets_step _ rfl nofun (Pool.meets_step _ rfl nofun (Pool.meets_step _ rfl nofun
        (Pool.meets_step _ rfl nofun (Pool.meets_step _ rfl nofun (Pool.meets_step _ rfl nofun Pool.meets_nil)))))
    exact hmeets

/-! ### One refund -/

/-- The events that refund a task. -/
def refundEvents (id : Int) (tr : List TaskEvent) : List TaskEvent :=
  tr.filter fun e => refundsOf id e.pre < refundsOf id e.post

structure RefundsCounted (w : Watch) (tr : List TaskEvent) (x : DB) (gs : List Share) : Prop where
  final : ∀ e ∈ tr, ∀ status, taskStatus w.id e.post = some status → status.finished →
    taskStatus w.id x = some status
  origin : ∀ status, taskStatus w.id x = some status → status = w.task.status ∨
    ∃ e ∈ tr, taskStatus w.id e.post = some status
  counts : Counts (fun e => refundsOf w.id e.pre < refundsOf w.id e.post) (fun e => Refunded w.task e.pre e.post) tr gs

lemma RefundsCounted.step {tr : List TaskEvent}
    (h : RefundsCounted w tr e.pre gs) (hx : w.exact) (hg : gs[e.thread]? = some g)
    (hpre : Tracked w e.pre gs.sum) (hG : TaskStep w g e.request e.pre e.post g')
    (hpost : Tracked w e.post (gs.set e.thread g').sum) :
    RefundsCounted w (tr ++ [e]) e.post (gs.set e.thread g') := by
  constructor
  case final =>
    intro e₁ he₁ status hst hf
    rcases mem_append.mp he₁ with he₁ | he₁
    · exact hpre.final hpost (sum_set_wins hg hG.wins) (h.final e₁ he₁ status hst hf) hf
    · obtain rfl := mem_singleton.mp he₁
      exact hst
  case origin => exact fun status hst => .inr ⟨e, mem_append_right _ mem_cons_self, hst⟩
  case counts =>
    have hrefunds := hG.refunds
    refine h.counts.step hg ?_
    rcases hG.refunded hx with hsame | ⟨hone, hr⟩
    · exact .inl ⟨decide_eq_false (by omega), hsame⟩
    · exact .inr ⟨decide_eq_true (by omega), hr, hone⟩

/-- A run of any writers in which no database step fails and every move of the task to FAILURE is
one that comes with a refund: once all writers have returned, a task that has become FAILURE has
been refunded by exactly one request, and a task that has become SUCCESS, or that has not
become FAILURE, by none. -/
theorem failed_task_refunded_once {id : Int} {task : Task} {sched : List (Nat × List (Option String))}
    {results : List (Except String Unit)} (hrow : db.tasks.row id = some task)
    (hnew : task.status.finished = false) (hquota : 0 < task.quota)
    (hunique : UniqueUpstream id task.getUpstreamTaskID db)
    (hsuno : ∀ env, .poll env ∈ writers → SunoAnswersConsistent task.getUpstreamTaskID env)
    (hA : Pool.Meets server (OfWriters writers fun kind req φs x => Succeeds req φs x ∧
      KeepsFinal id kind x req ∧ KeepsRefunds id kind x req) sched (taskThreads cfg settings writers, db))
    (hr : Pool.Returned (Pool.run server sched (taskThreads cfg settings writers, db)) results) :
    let tr := Pool.trace server sched (taskThreads cfg settings writers, db)
    ((∃ e ∈ tr, taskStatus id e.post = some .failure) → ∃ e, refundEvents id tr = [e] ∧ Refunded task e.pre e.post) ∧
    ((∃ e ∈ tr, taskStatus id e.post = some .success) → refundEvents id tr = []) ∧
    ((∀ e ∈ tr, taskStatus id e.post ≠ some .failure) → refundEvents id tr = []) := by
  intro tr
  let w : Watch := { id := id, task := task, exact := True, saved := True }
  have hmeets : Pool.Meets server (OfWriters writers (Allowed w)) sched
      (taskThreads cfg settings writers, db) := fun e he writer hwr =>
    ⟨.inr (hA e he writer hwr).2.1, fun _ => ⟨(hA e he writer hwr).1, (hA e he writer hwr).2.2⟩⟩
  have hshares := shares_taskThreads cfg settings writers w hrow hunique (fun _ => hquota)
    (fun _ => hsuno) fun _ _ _ => trivial
  have hstart : RefundsCounted w [] db ((taskThreads cfg settings writers).map fun _ => 0) := by
    refine ⟨by simp, fun status hst => .inl ?_, ?_, by simp⟩
    · rw [taskStatus, hrow] at hst
      exact (some.inj hst).symm
    · rw [sum_map_zero]
      rfl
  obtain ⟨gs, hs, hP⟩ := hshares.run_induction (P := RefundsCounted w)
    (fun _ _ _ _ _ hP hg hpre hG hpost _ => hP.step trivial hg hpre hG hpost) hstart hmeets
  have hidle : gs.sum.1.1 = gs.sum.2 := hs.sum_of_returned (P := fun g : Share => g.1.1 = g.2) hr
    (fun _ _ _ hg => hg trivial) rfl fun g g' hg hg' => by rw [Prod.fst_add, Prod.fst_add, Prod.snd_add, hg, hg']
  obtain ⟨status, hst, hreached⟩ := hs.inv.taskStatus
  -- The refunds are the transitions to FAILURE, and these are what the final status says.
  have hlen : (refundEvents id tr).length = (reached status).1 := by
    have hcount : (refundEvents id tr).length = gs.sum.2 := hP.counts.count
    have hsum : reached task.status + gs.sum.1 = reached status := hreached
    rw [hcount, ← hidle, ← hsum, reached_of_unfinished hnew, zero_add]
  have hnone : status ≠ .failure → refundEvents id tr = [] := fun hne =>
    length_eq_zero_iff.mp (by rw [hlen, reached, if_neg hne])
  refine ⟨?_, ?_, fun h => ?_⟩
  · rintro ⟨e, he, hfail⟩
    obtain rfl : TaskStatus.failure = status :=
      some.inj ((hP.final e he _ hfail rfl).symm.trans hst)
    obtain ⟨e', he'⟩ := length_eq_one_iff.mp hlen
    exact ⟨e', he', hP.counts.holds e' (show e' ∈ refundEvents id tr from he' ▸ mem_cons_self)⟩
  · rintro ⟨e, he, hsucc⟩
    obtain rfl : TaskStatus.success = status :=
      some.inj ((hP.final e he _ hsucc rfl).symm.trans hst)
    exact hnone (by decide)
  · refine hnone ?_
    rintro rfl
    rcases hP.origin _ hst with hst | ⟨e, he, hst⟩
    · rw [← hst] at hnew
      cases hnew
    · exact h e he hst

theorem failed_task_refunded_once_race :
    let tr := Pool.trace server [(0, []), (1, []), (0, []), (1, []), (0, []), (0, [])]
      (taskThreads {} {} [.sweep {}, .sweep {}], oneTask (openTask .suno))
    ∃ e, refundEvents 1 tr = [e] ∧ Refunded (openTask .suno) e.pre e.post := by
  have hreturned : Pool.Returned (Pool.run server [(0, []), (1, []), (0, []), (1, []), (0, []), (0, [])]
      (taskThreads {} {} [.sweep {}, .sweep {}], oneTask (openTask .suno))) [.ok (), .ok ()] := rfl
  refine (failed_task_refunded_once rfl rfl (by decide) (uniqueUpstream_oneTask) (by simp) ?_ hreturned).1
    ⟨_, mem_cons_of_mem _ (mem_cons_of_mem _ mem_cons_self), rfl⟩
  have hcas : ∀ (x : DB), KeepsFinal 1 .sweep x (.stmt (.updateTaskWithStatus 1
      (sweptTask {} {} (openTask .suno)) .inProgress)) ∧ KeepsRefunds 1 .sweep x (.stmt
        (.updateTaskWithStatus 1 (sweptTask {} {} (openTask .suno)) .inProgress)) :=
    fun _ => ⟨nofun, fun _ _ => rfl⟩
  refine Pool.meets_step _ rfl (fun _ _ => ⟨rfl, trivial, trivial⟩) (Pool.meets_step _ rfl
    (fun _ _ => ⟨rfl, trivial, trivial⟩) (Pool.meets_step _ rfl (fun writer hwr => ?_)
    (Pool.meets_step _ rfl (fun writer hwr => ?_) (Pool.meets_step _ rfl (fun _ _ => ⟨rfl, trivial, trivial⟩)
    (Pool.meets_step _ rfl (fun _ _ => ⟨rfl, trivial, trivial⟩) Pool.meets_nil)))))
  · cases hwr
    exact ⟨rfl, hcas _⟩
  · cases hwr
    exact ⟨rfl, hcas _⟩

/-- How a run without a failing step ends in which all writers return: the status of task 1 and the
number of its refunds. -/
def RunEnds (db : DB) (writers : List TaskWriter) (sched : List Nat) (status : TaskStatus) (refunds : Nat) :
    Prop :=
  let c := Pool.run server (sched.map fun i => (i, [])) (taskThreads {} {} writers, db)
  Pool.Returned c (writers.map fun _ => .ok ()) ∧ taskStatus 1 c.2 = some status ∧ refundsOf 1 c.2 = refunds

/-- A legacy task that is swept, a task whose channel is gone and a task that a fetch finds failed
are not refunded. A Suno task that a sweep has refunded is refunded again, and so is one that
comes with a reason but is SUCCESS. Two tasks with one upstream id make a round refund one of
them twice. -/
theorem failed_task_refund_counts :
    let video := openTask (.video "v")
    let suno := openTask .suno
    let failed : SunoDataResponse := { taskID := "t", status := .failure }
    let failure := failTaskInfo "failed"
    RunEnds (oneTask { video with submitTime := 1 }) [.sweep { now := 100000 }] [0, 0] .failure 0 ∧
    RunEnds (oneTask video) [.poll {}] [0, 0] .failure 0 ∧
    RunEnds (oneTask video) [.fetch (answers failure []) 1 "t"] [0, 0] .failure 0 ∧
    RunEnds (oneTask suno) [.poll (answers failure [failed]), .sweep {}] [0, 1, 1, 1, 1, 0, 0, 0] .failure 2 ∧
    RunEnds (oneTask suno) [.poll (answers failure [{ failed with status := .success, failReason := "r" }])]
      [0, 0, 0, 0] .success 1 ∧
    RunEnds { oneTask video with tasks := (Table.empty.insert 2 video).insert 1 video }
      [.poll (answers failure [])] [0, 0, 0, 0, 0, 0] .failure 2 :=
  ⟨⟨rfl, rfl, rfl⟩, ⟨rfl, rfl, rfl⟩, ⟨rfl, rfl, rfl⟩, ⟨rfl, rfl, rfl⟩, ⟨rfl, rfl, rfl⟩, ⟨rfl, rfl, rfl⟩⟩

end Runs

end LoveApi.Proofs
