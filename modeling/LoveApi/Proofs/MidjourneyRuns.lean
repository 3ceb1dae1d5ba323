import Mathlib.Algebra.Order.Monoid.Prod
import LoveApi.Proofs.Midjourney

/-!
# Runs of the Midjourney writers

Requests, callbacks and polling rounds of any number of processes, with their statements interleaved in any order.
-/

namespace LoveApi.Proofs

open Program Prog Go List Option Table

variable {x : DB} {env : MidjourneyPollEnv} {item : MidjourneyDto}

variable {g : ℕ × ℕ} {next : Midjourney} {cfg : Config} {taskM : MidjourneyMap} {m : TaskMovement}

/-- What writes the rows of tasks. -/
inductive MidjourneyWriter
  | request (env : MidjourneyEnv) (c : MidjourneyContext) (body : MidjourneyBody)
  | notify (body : Option MidjourneyDto)
  | poll (env : MidjourneyPollEnv)

def MidjourneyWriter.run (cfg : Config) : MidjourneyWriter → Prog Req Req.Resp Unit
  | request env c body => do
    let _ ← (relayMidjourney cfg env c body).run
  | notify body => do
    let _ ← (relayMidjourneyNotify body).run
  | poll env => do
    let _ ← (updateMidjourneyTaskBulk cfg env).run

def midjourneyThreads (cfg : Config) (writers : List MidjourneyWriter) : List (Prog Req Req.Resp Unit) :=
  writers.map fun writer => writer.run cfg

structure MjWatch where
  id : Int
  task : Midjourney
  start : List TaskMovement
  done : Midjourney → Prop
  exact : Prop

namespace MjWatch

variable (w : MjWatch)

def refund : TaskMovement := ⟨w.id, .refund, .midjourney, -w.task.quota⟩

def IsCopy (task : Midjourney) : Prop :=
  task.quota = w.task.quota ∧ task.userId = w.task.userId ∧ task.mjId = w.task.mjId

def Idle (g : ℕ × ℕ) : Prop := w.exact → g.1 = 0

def Copies (taskM : MidjourneyMap) : Prop :=
  ∀ k task, taskM k = some (w.id, task) → k = w.task.mjId ∧ w.IsCopy task

end MjWatch

structure MjTracked (w : MjWatch) (x : DB) (g : ℕ × ℕ) : Prop where
  row : ∃ task, x.midjourneys.row w.id = some task ∧ w.IsCopy task ∧ (0 < g.1 + g.2 → w.done task) ∧
    (w.exact → w.done task → g.1 + g.2 = 1)
  le_one : g.1 + g.2 ≤ 1
  movements : mjMovements w.id x = w.start ++ List.replicate g.2 w.refund

def MjStep (w : MjWatch) (g : ℕ × ℕ) (_ : Req) (x y : DB) (g' : ℕ × ℕ) : Prop :=
  mjMovements w.id y = mjMovements w.id x ∧ g'.2 = g.2 ∨
    y = (x.addUserQuota w.task.userId w.task.quota).note (some w.refund) ∧ g'.2 = g.2 + 1

/-- No write takes effect on a task that is done. Where `exact` holds, no bulk update hits the task
before it is done, and the statement of its refund does not fail. -/
def MjAllowed (id : Int) (done : Midjourney → Prop) (exact : Prop) : Req → List (Option String) → DB → Prop
  | .stmt (.updateMidjourneyWithStatus id' _ fromStatus), _, x =>
    id' = id → ∀ task, x.midjourneys.row id = some task → task.status = fromStatus → ¬done task
  | .stmt (.saveMidjourney id' next), _, x =>
    id' = id → ¬done next ∧ ∀ task, x.midjourneys.row id = some task → ¬done task
  | .stmt (.bulkUpdateMidjourneys cond _), _, x =>
    exact → ∀ task, x.midjourneys.row id = some task → cond id task → done task
  | .stmt (.increaseUserQuota _ _ (some m)), φs, _ => exact → m.task = id → φs = []
  | _, _, _ => True

def MjWatch.Allowed (w : MjWatch) : Req → List (Option String) → DB → Prop := MjAllowed w.id w.done w.exact

section Steps

variable {w : MjWatch} {y : DB} {rest : ℕ × ℕ} {req : Req}
variable {task : Midjourney}

lemma MjStep.refl (g : ℕ × ℕ) (req : Req) (x : DB) : MjStep w g req x x g := .inl ⟨rfl, rfl⟩

lemma MjTracked.of_eq (h : MjTracked w x g) (hrow : y.midjourneys.row w.id = x.midjourneys.row w.id)
    (hm : mjMovements w.id y = mjMovements w.id x) : MjTracked w y g where
  row := by
    rw [hrow]
    exact h.row
  le_one := h.le_one
  movements := hm.trans h.movements

lemma MjTracked.zero (h : MjTracked w x g) (hrow : x.midjourneys.row w.id = some task)
    (hdone : ¬w.done task) : g = 0 := by
  obtain ⟨task', hrow', -, hpos, -⟩ := h.row
  obtain rfl := some.inj (hrow.symm.trans hrow')
  have hzero : ¬0 < g.1 + g.2 := fun hg => hdone (hpos hg)
  exact Prod.ext (show g.1 = 0 by omega) (show g.2 = 0 by omega)

lemma MjTracked.write (h : MjTracked w x (g + rest)) (earned : Bool) (hrow : x.midjourneys.row w.id = some task)
    (hdone : ¬w.done task) (hrow' : y.midjourneys.row w.id = some next) (hm : mjMovements w.id y = mjMovements w.id x)
    (hcopy : w.IsCopy next) (hnext : earned → w.done next) (hexact : w.exact → w.done next → earned) :
    g = 0 ∧ MjTracked w y ((earned.toNat, 0) + rest) := by
  have hzero := h.zero hrow hdone
  obtain ⟨hg, hrest⟩ : g = 0 ∧ rest = 0 := add_eq_zero.mp hzero
  have hstart := h.movements
  subst hg hrest
  refine ⟨rfl, ⟨next, hrow', hcopy, fun hpos => hnext ?_, fun hx hd => ?_⟩, ?_, hm.trans hstart⟩
  · by_contra hne
    rw [Bool.not_eq_true] at hne
    rw [hne] at hpos
    exact absurd hpos (by decide)
  · rw [hexact hx hd]
    rfl
  · cases earned <;> decide

lemma MjTracked.refund (h : MjTracked w x (g + rest)) (hearned : g = (1, 0)) :
    MjTracked w ((x.addUserQuota w.task.userId w.task.quota).note (some w.refund)) ((0, 1) + rest) := by
  subst hearned
  have hle : 1 + rest.1 + (0 + rest.2) ≤ 1 := h.le_one
  have hrest : rest = 0 := Prod.ext (show rest.1 = 0 by omega) (show rest.2 = 0 by omega)
  subst hrest
  have hm := h.movements
  refine ⟨h.row, by decide, ?_⟩
  unfold mjMovements at hm ⊢
  show (x.movements ++ [w.refund]).filter _ = _
  rw [filter_append, hm]
  simp [MjWatch.refund]

end Steps

section Safe

variable {w : MjWatch}
variable {id : Int} {task : Midjourney}

inductive RequestStatement : Stmt → Prop
  | charge {s : Stmt} (h : ChargeStatement s) : RequestStatement s
  | select (userId : Int) (mjId : String) : RequestStatement (.selectMidjourney userId mjId)
  | create (task : Midjourney) : RequestStatement (.createMidjourney task)

lemma Single.mono {P P' : Stmt → Prop} (h : ∀ s, P s → P' s) (req : Req) (hreq : Single P req) : Single P' req := by
  cases req with
  | stmt s => exact h s hreq
  | tx body => exact hreq

section Requests

variable {env : MidjourneyEnv} {info : RelayInfo}

attribute [local grind ←] RequestStatement.charge RequestStatement.select RequestStatement.create

@[local grind ←]
lemma single_deferredCharge (hsrc : info.billingSource ≠ some .subscription) {charged : Bool} {action : String}
    {n : Int} : (deferredCharge cfg info charged action n).run.Issues (Single RequestStatement) := by
  have hcharge : (chargeMidjourney cfg info action n).run.Issues (Single RequestStatement) :=
    (single_chargeMidjourney hsrc action n).mono (Single.mono fun _ => .charge)
  unfold deferredCharge
  grind

@[local grind ←]
lemma single_storeMidjourney (hsrc : info.billingSource ≠ some .subscription) {task : Midjourney} {charged : Bool}
    {stop : MidjourneyStop} :
    (storeMidjourney cfg env info task charged stop).run.Issues (Single RequestStatement) := by
  unfold storeMidjourney
  grind

@[local grind ←]
lemma single_sendMidjourney {checkQuota : Bool} :
    (sendMidjourney env info checkQuota).run.Issues (Single RequestStatement) := by
  have hread : RequestStatement (.selectQuota info.userId) := .charge (.beside (.selectQuota _))
  unfold sendMidjourney getUserQuota
  grind

@[local grind ←]
lemma single_resolveSubmit {mode : MidjourneyMode} {req : MidjourneyRequest} :
    (resolveSubmit env info mode req).run.Issues (Single RequestStatement) := by
  have horigin : ∀ mode mjId, (findOrigin env info mode mjId).run.Issues (Single RequestStatement) := by
    intro mode mjId
    refine Issues.bind_run (.lift (issues_exec (.select _ _))) fun origin => ?_
    grind
  unfold resolveSubmit
  grind

lemma single_relayMidjourney {c : MidjourneyContext} {body : MidjourneyBody} :
    (relayMidjourney cfg env c body).run.Issues (Single RequestStatement) := by
  have hsrc : (genRelayInfo c).billingSource ≠ some .subscription := nofun
  rcases body with ⟨mode, body⟩ | body <;> rcases body with _ | req
  · trivial
  · unfold relayMidjourney relayMidjourneySubmit
    grind
  · trivial
  · unfold relayMidjourney relaySwapFace
    grind

end Requests

lemma sameRow_step {s : Stmt} (h : RequestStatement s) (hrow : x.midjourneys.row id = some task) :
    (s.step x).2.midjourneys.row id = x.midjourneys.row id ∧ (s.step x).2.movements = x.movements := by
  cases h with
  | charge h => exact ⟨by rw [(sameTasks_step h x).midjourneys], (sameTasks_step h x).movements⟩
  | select userId mjId => exact ⟨rfl, rfl⟩
  | create new =>
    refine ⟨?_, rfl⟩
    have hne : id ≠ x.midjourneys.lastId + 1 := by
      rintro rfl
      rw [x.midjourneys.row_lastId_succ] at hrow
      cases hrow
    show (x.midjourneys.insert _ new).row id = _
    rw [row_insert _ x.midjourneys.row_lastId_succ, if_neg hne]

abbrev MjSafe {α : Type} (w : MjWatch) (p : Prog Req Req.Resp α) (Q : α → ℕ × ℕ → Prop) (g : ℕ × ℕ) : Prop :=
  Safe server w.Allowed (MjTracked w) (MjStep w) p Q g

lemma safe_of_single {α : Type} {p : Prog Req Req.Resp α} (h : p.Issues (Single RequestStatement)) :
    MjSafe w p (fun _ g' => g' = g) g := by
  refine Safe.of_issues (K := fun g' => g' = g) h rfl fun req hreq g₁ φs x rest hg _ hI => ?_
  obtain ⟨task, hrow, -⟩ := hI.row
  have hsame : (server.exec φs req x).2.midjourneys.row w.id = x.midjourneys.row w.id ∧
      (server.exec φs req x).2.movements = x.movements :=
    hreq.keeps (K := fun y => y.midjourneys.row w.id = x.midjourneys.row w.id ∧ y.movements = x.movements)
      ⟨rfl, rfl⟩ (fun s hs => sameRow_step hs hrow) φs
  have hm : mjMovements w.id (server.exec φs req x).2 = mjMovements w.id x := by
    rw [mjMovements, hsame.2]
    rfl
  exact ⟨g₁, .inl ⟨hm, rfl⟩, hI.of_eq hsame.1 hm, hg⟩

lemma mjMovements_note (h : m.task ≠ id) : mjMovements id (x.note (some m)) = mjMovements id x := by
  unfold mjMovements
  show (x.movements ++ [m]).filter _ = _
  simp [h]

def MjWritten (w : MjWatch) (g : ℕ × ℕ) (id : Int) (earned : Bool) (r : Except String Bool) (g' : ℕ × ℕ) : Prop :=
  g' = g ∧ (r = .ok true → id ≠ w.id) ∨ r = .ok true ∧ id = w.id ∧ g' = (earned.toNat, 0)

lemma safe_mjUpdateWithStatus {fromStatus : String} {earned : Bool}
    (hcopy : id = w.id → w.IsCopy next) (hnext : id = w.id → earned → w.done next)
    (hexact : id = w.id → w.exact → w.done next → earned) :
    MjSafe w (mjUpdateWithStatus id next fromStatus).run (MjWritten w g id earned) g := by
  refine Safe.bind_run (safe_exec (fun φs x rest hA hI => ?_) (MjStep.refl g _) fun e => ?_)
  · simp only [Stmt.step]
    by_cases hany : (x.midjourneys.row id).any fun t => t.status = fromStatus
    · rw [if_pos hany]
      obtain ⟨task, hrow, hst⟩ : ∃ task, x.midjourneys.row id = some task ∧ task.status = fromStatus := by
        simpa [Option.any_eq_true] using hany
      by_cases hid : id = w.id
      · subst hid
        have hrow' : (x.midjourneys.update w.id fun _ => next).row w.id = some next := by
          rw [row_update_self, hrow]
          rfl
        obtain ⟨rfl, hI'⟩ := hI.write earned
          (y := { x with midjourneys := x.midjourneys.update w.id fun _ => next }) hrow (hA rfl task hrow hst)
          hrow' rfl (hcopy rfl) (hnext rfl) (hexact rfl)
        refine ⟨(earned.toNat, 0), .inl ⟨rfl, rfl⟩, hI', by simp, fun n hn => ?_⟩
        cases hn
        exact .inr ⟨rfl, rfl, rfl⟩
      · refine ⟨g, .inl ⟨rfl, rfl⟩, hI.of_eq (row_update_of_ne _ (Ne.symm hid) _) rfl, by simp, fun n _ => ?_⟩
        exact .inl ⟨rfl, fun _ => hid⟩
    · rw [if_neg hany]
      refine ⟨g, MjStep.refl g _ x, hI, by simp, fun n hn => ?_⟩
      cases hn
      exact .inl ⟨rfl, fun h => by cases h⟩
  · exact ⟨fun e' _ => .inl ⟨rfl, fun h => by cases h⟩, fun _ h => by cases h⟩

def MjAnswers (w : MjWatch) (env : MidjourneyPollEnv) (item : MidjourneyDto) : Prop :=
  item.mjId = w.task.mjId → ∀ task,
    (mjFailed (timeOutItem env task item) → w.done (polledTask task (timeOutItem env task item))) ∧
    (w.exact → w.done (polledTask task (timeOutItem env task item)) → mjFailed (timeOutItem env task item))

lemma mjId_timeOutItem {task : Midjourney} : (timeOutItem env task item).mjId = item.mjId := by
  unfold timeOutItem
  split <;> rfl

lemma MjWatch.Copies.update (h : w.Copies taskM) {k : String} (hnext : id = w.id → k = w.task.mjId ∧ w.IsCopy next) :
    w.Copies (Function.update taskM k (some (id, next))) := by
  intro k' task hk'
  by_cases hk : k' = k
  · subst hk
    rw [Function.update_self] at hk'
    cases hk'
    exact hnext rfl
  · rw [Function.update_of_ne hk] at hk'
    exact h k' task hk'

lemma safe_bulkUpdateMidjourneys {cond : Int → Midjourney → Bool} {params : MidjourneyUpdates}
    (hdone : ∀ task : Midjourney, w.done (task.bulkUpdate params)) :
    MjSafe w (exec (.bulkUpdateMidjourneys cond params)).run (fun _ g' => g' = g) g := by
  refine safe_exec (fun φs x rest hA hI => ⟨g, .inl ⟨rfl, rfl⟩, ⟨?_, hI.le_one, hI.movements⟩, rfl⟩)
    (MjStep.refl g _) fun _ => rfl
  obtain ⟨task, hrow, hcopy, hpos, hexact⟩ := hI.row
  refine ⟨Midjourney.updateWhere cond params w.id task, ?_, ?_⟩
  · show (x.midjourneys.modify _).row w.id = _
    rw [row_modify, hrow]
    rfl
  · unfold Midjourney.updateWhere
    split
    · next hcond => exact ⟨hcopy, fun _ => hdone task, fun hx _ => hexact hx (hA hx task hrow hcond)⟩
    · exact ⟨hcopy, hpos, hexact⟩

lemma MjTracked.copies {tasks : List MidjourneyRow} (h : MjTracked w x g)
    (htasks : ∀ row ∈ tasks, row ∈ x.midjourneys.rows) : w.Copies (midjourneyMap tasks) := by
  intro k task hk
  have hmem := mem_of_getLast? hk
  obtain ⟨hnamed, hkey⟩ := mem_filter.mp hmem
  have hrow : x.midjourneys.row w.id = some task := mem_rows.mp (htasks _ (mem_filter.mp hnamed).1)
  obtain ⟨task', hrow', hcopy, -⟩ := h.row
  obtain rfl := some.inj (hrow.symm.trans hrow')
  exact ⟨(of_decide_eq_true hkey).symm.trans hcopy.2.2, hcopy⟩

lemma safe_relayMidjourneyNotify {body : Option MidjourneyDto} : MjSafe w (relayMidjourneyNotify body).run
      (fun _ => w.Idle) 0 := by
  have hidle : w.Idle 0 := fun _ => rfl
  rcases body with _ | dto
  · exact Safe.ret hidle
  refine Safe.bind_run (Safe.bind (safe_read (fun _ => rfl) (MjStep.refl 0 _) (fun x rest hI => ?_) fun e => ?_))
  · refine Safe.ret ⟨by simp, fun r hr => ?_⟩
    cases hr
    rcases hfind : x.midjourneys.rows.find? fun r => r.2.mjId = dto.mjId with _ | ⟨id, task⟩
    · simp only [Stmt.step, hfind]
      exact Safe.ret hidle
    · have hread : x.midjourneys.row id = some task := mem_rows.mp (mem_of_find?_eq_some hfind)
      simp only [Stmt.step, hfind]
      refine Safe.bind (safe_exec (fun φs y rest' hA hI' => ?_) (MjStep.refl 0 _) fun e => Safe.ret hidle)
      by_cases hid : id = w.id
      · subst hid
        obtain ⟨hnext, hrow⟩ := hA rfl
        obtain ⟨task₀, hread', hcopy, -⟩ := hI.row
        obtain rfl := some.inj (hread.symm.trans hread')
        obtain ⟨task', hrow', -⟩ := hI'.row
        have hy : (y.midjourneys.update w.id fun _ => notifiedTask task dto).row w.id =
            some (notifiedTask task dto) := by
          rw [row_update_self, hrow']
          rfl
        obtain ⟨-, hI''⟩ := hI'.write false
          (y := { y with midjourneys := y.midjourneys.update w.id fun _ => notifiedTask task dto })
          hrow' (hrow task' hrow') hy rfl hcopy (fun h => by cases h) fun _ hd => absurd hd hnext
        exact ⟨0, .inl ⟨rfl, rfl⟩, hI'', Safe.ret hidle⟩
      · exact ⟨0, .inl ⟨rfl, rfl⟩, hI'.of_eq (row_update_of_ne _ (Ne.symm hid) _) rfl, Safe.ret hidle⟩
  · exact Safe.ret ⟨by simp, fun r hr => by obtain rfl := Except.ok.inj hr; exact Safe.ret hidle⟩

variable (hq : w.exact → 0 < w.task.quota)

include hq

lemma safe_refundMidjourney
    (hown : id = w.id → w.IsCopy task ∧ g = (1, 0)) (hother : id ≠ w.id → w.Idle g) :
    MjSafe w (refundMidjourney cfg id task).run (fun _ => w.Idle) g := by
  have hlog : ∀ g', MjSafe w (recordTaskBillingLog cfg
      { userId := task.userId
        type := .refund
        modelName := covertMjpActionToModelName task.action
        quota := task.quota
        channelId := task.channelId }).run (fun _ g'' => g'' = g') g' := by
    intro g'
    exact safe_of_single (.bind_run (.attempt (issues_exec (.charge (.beside (.createLog _))))) fun _ => trivial)
  refine Safe.attempt_bind (safe_increaseUserQuota MjStep.refl (fun hn φs x rest hA hI => ?_) fun e he => ?_)
  · by_cases hid : id = w.id
    · obtain ⟨⟨hquota, huser, -⟩, hg⟩ := hown hid
      have hy : (x.addUserQuota task.userId task.quota).note (some ⟨id, .refund, .midjourney, -task.quota⟩) =
          (x.addUserQuota w.task.userId w.task.quota).note (some w.refund) := by
        rw [hid, hquota, huser]
        rfl
      rw [hy]
      refine ⟨(0, 1), .inr ⟨rfl, by rw [hg]⟩, hI.refund hg, (hlog _).mono ?_⟩
      rintro _ g' rfl
      exact fun _ => rfl
    · have hm : mjMovements w.id ((x.addUserQuota task.userId task.quota).note
          (some ⟨id, .refund, .midjourney, -task.quota⟩)) = mjMovements w.id x := mjMovements_note hid
      refine ⟨g, .inl ⟨hm, rfl⟩, hI.of_eq rfl hm, (hlog _).mono ?_⟩
      rintro _ g' rfl
      exact hother hid
  · refine (hlog _).mono ?_
    rintro _ g' rfl
    by_cases hid : id = w.id
    · intro hexact
      obtain ⟨⟨hquota, -, -⟩, -⟩ := hown hid
      have hpos := hq hexact
      obtain ⟨φs, x, hA, hφ⟩ := he (by omega)
      exact absurd (hA hexact hid) hφ
    · exact hother hid

lemma safe_saveMjTask {preStatus : String} {shouldReturnQuota : Bool}
    (hcopy : id = w.id → w.IsCopy next)
    (hnext : id = w.id → shouldReturnQuota → w.done next)
    (hexact : id = w.id → w.exact → w.done next → shouldReturnQuota) (hg : w.Idle g) :
    MjSafe w (saveMjTask cfg id next preStatus shouldReturnQuota).run (fun _ => w.Idle) g := by
  refine Safe.attempt_bind ((safe_mjUpdateWithStatus hcopy hnext hexact).mono fun r g' hr => ?_)
  rcases hr with ⟨rfl, hne⟩ | ⟨rfl, hid, rfl⟩
  · split
    · split
      · exact safe_refundMidjourney hq (fun hid => absurd hid (hne rfl)) fun _ => hg
      · exact Safe.ret hg
    · exact Safe.ret hg
  · simp only
    split
    · next hreturn =>
      rw [hreturn]
      exact safe_refundMidjourney hq (fun _ => ⟨hcopy hid, rfl⟩) fun hne => absurd hid hne
    · next hreturn =>
      rw [Bool.not_eq_true] at hreturn
      rw [hreturn]
      exact Safe.ret fun _ => rfl

lemma safe_updateMjItems {items : List MidjourneyDto}
    (hitems : ∀ item ∈ items, MjAnswers w env item) (hcopies : w.Copies taskM) (hg : w.Idle g) :
    MjSafe w (updateMjItems cfg env taskM items).run
      (fun r g' => w.Idle g' ∧ ∀ taskM', r = .ok (some taskM') → w.Copies taskM') g := by
  induction items generalizing taskM g with
  | nil =>
    refine Safe.ret ⟨hg, fun taskM' h => ?_⟩
    cases h
    exact hcopies
  | cons responseItem items ih =>
    have hrest : ∀ item ∈ items, MjAnswers w env item := fun item h => hitems item (mem_cons_of_mem _ h)
    rw [updateMjItems]
    rcases hrow : taskM responseItem.mjId with _ | ⟨id, task⟩
    · exact Safe.ret ⟨hg, fun _ h => by cases h⟩
    simp only
    split
    · have hown : id = w.id → responseItem.mjId = w.task.mjId ∧ w.IsCopy task := by
        rintro rfl
        exact hcopies _ _ hrow
      have hanswer := hitems responseItem mem_cons_self
      have hsave : MjSafe w (saveMjTask cfg id (polledTask task (timeOutItem env task responseItem)) task.status
            (mjFailed (timeOutItem env task responseItem) && task.quota ≠ 0)).run (fun _ => w.Idle) g := by
        refine safe_saveMjTask hq (fun hid => (hown hid).2) (fun hid hret => ?_) (fun hid hx hd => ?_) hg
        · exact (hanswer (hown hid).1 task).1 (Bool.and_elim_left hret)
        · have hpos := hq hx
          have hquota := (hown hid).2.1
          have hfailed := (hanswer (hown hid).1 task).2 hx hd
          simp [hfailed, hquota, hpos.ne']
      refine Safe.bind_run (hsave.mono fun r g' hg' => ⟨fun e _ => ⟨hg', fun _ h => by cases h⟩, fun _ _ => ?_⟩)
      apply ih hrest _ hg'
      rw [mjId_timeOutItem]
      exact hcopies.update hown
    · exact ih hrest hcopies hg

variable (hdone : ∀ (task : Midjourney) failReason, w.done (task.bulkUpdate ⟨"FAILURE", "100%", failReason⟩))
  (hitems : ∀ ch taskIds, ∀ item ∈ fetchMjItems env ch taskIds, MjAnswers w env item)

include hdone hitems

lemma safe_updateMjChannel {entry : Int × List String}
    (hcopies : w.Copies taskM) (hg : w.Idle g) :
    MjSafe w (updateMjChannel cfg env taskM entry).run
      (fun r g' => w.Idle g' ∧ ∀ taskM', r = .ok (some taskM') → w.Copies taskM') g := by
  unfold updateMjChannel
  split
  · refine Safe.attempt_bind ((safe_bulkUpdateMidjourneys fun task => hdone task _).mono ?_)
    rintro r g' rfl
    refine Safe.ret ⟨hg, fun taskM' h => ?_⟩
    cases h
    exact hcopies
  · exact safe_updateMjItems hq (hitems _ _) hcopies hg

lemma safe_updateMjChannels {entries : List (Int × List String)}
    (hcopies : w.Copies taskM) (hg : w.Idle g) :
    MjSafe w (updateMjChannels cfg env taskM entries).run (fun _ => w.Idle) g := by
  induction entries generalizing taskM g with
  | nil => exact Safe.ret hg
  | cons entry entries ih =>
    refine Safe.bind_run ((safe_updateMjChannel hq hdone hitems hcopies hg).mono fun r g' hr =>
      ⟨fun _ _ => hr.1, fun next hnext => ?_⟩)
    cases next with
    | none => exact Safe.ret hr.1
    | some taskM' => exact ih (hr.2 taskM' hnext) hr.1

lemma safe_updateMidjourneyTaskBulk
    (hg : w.Idle g) :
    MjSafe w (updateMidjourneyTaskBulk cfg env).run (fun _ => w.Idle) g := by
  have hrest : ∀ tasks, w.Copies (midjourneyMap tasks) → MjSafe w
      (do failNullTasks tasks
          updateMjChannels cfg env (midjourneyMap tasks) (midjourneyChannels env tasks)).run
      (fun _ => w.Idle) g := by
    intro tasks hcopies
    have hnull : MjSafe w (failNullTasks tasks).run (fun _ g' => g' = g) g := by
      unfold failNullTasks
      simp only
      split
      · exact Safe.ret rfl
      · exact Safe.attempt_bind ((safe_bulkUpdateMidjourneys fun task => hdone task none).mono fun _ _ h => h)
    refine Safe.bind_run (hnull.mono ?_)
    rintro r g' rfl
    exact ⟨fun _ _ => hg, fun _ _ => safe_updateMjChannels hq hdone hitems hcopies hg⟩
  refine Safe.bind_run (Safe.attempt_bind (safe_read (fun _ => rfl) (MjStep.refl g _) (fun x rest hI => ?_)
    fun e => ?_))
  · refine Safe.ret ⟨by simp, fun tasks htasks => hrest tasks (hI.copies fun row hrow => ?_)⟩
    cases htasks
    exact (mem_filter.mp hrow).1
  · refine Safe.ret ⟨by simp, fun tasks htasks => hrest tasks ?_⟩
    cases htasks
    exact fun _ _ h => by cases h

end Safe

section Runs

variable {writers : List MidjourneyWriter} {w : MjWatch} {db : DB}
variable {id : Int} {gs : List (ℕ × ℕ)}

lemma shares_midjourneyThreads (cfg : Config) (writers : List MidjourneyWriter) (w : MjWatch)
    (hrow : db.midjourneys.row w.id = some w.task)
    (hstart : mjMovements w.id db = w.start) (hnew : w.exact → ¬w.done w.task)
    (hq : w.exact → 0 < w.task.quota)
    (hdone : ∀ (task : Midjourney) failReason, w.done (task.bulkUpdate ⟨"FAILURE", "100%", failReason⟩))
    (hitems : ∀ env, .poll env ∈ writers → ∀ ch taskIds, ∀ item ∈ fetchMjItems env ch taskIds, MjAnswers w env item) :
    Shares server (fun _ => w.Allowed) (MjTracked w) (MjStep w) (fun _ _ => w.Idle)
      (midjourneyThreads cfg writers, db) ((midjourneyThreads cfg writers).map fun _ => 0) := by
  have hidle : w.Idle 0 := fun _ => rfl
  have hinit : MjTracked w db 0 :=
    { row := ⟨w.task, hrow, ⟨rfl, rfl, rfl⟩, fun h => absurd h (by decide), fun hx hd => absurd hd (hnew hx)⟩
      le_one := by decide
      movements := hstart.trans (append_nil _).symm }
  refine Shares.init hinit fun i p hp => ?_
  obtain ⟨writer, hwr, rfl⟩ := map_eq_some_iff.mp (getElem?_map ▸ hp)
  have hmem : writer ∈ writers := mem_of_getElem? hwr
  cases writer with
  | request env c body =>
    refine Safe.bind ((safe_of_single (single_relayMidjourney)).mono ?_)
    rintro r g' rfl
    exact Safe.ret hidle
  | notify body => exact Safe.bind (safe_relayMidjourneyNotify.mono fun _ _ h => Safe.ret h)
  | poll env => exact Safe.bind ((safe_updateMidjourneyTaskBulk hq hdone (hitems env hmem) hidle).mono
      fun _ _ h => Safe.ret h)

/-! ### Concrete requests and answers -/

/-- A request with the price 50, and what the upstream service says to it. -/
def priced (statusCode : Nat) (code : Int) : MidjourneyEnv where
  modelPriceHelperPerCall := .ok 50
  doMidjourneyHttpRequest := .ok (statusCode, { code := code, result := "m" })

/-- A round whose channels are all there, and whose answers are these items. -/
def mjAnswers (items : List MidjourneyDto) : MidjourneyPollEnv where
  getChannel _ := some { type := 0 }
  listByCondition _ _ := .ok (200, .ok items)

def failedItem : MidjourneyDto := { mjId := "m", status := "FAILURE", progress := "100%" }

def mjUser : DB where
  users := Table.empty.insert 1 { quota := 100 }

/-- What a request of user 1 takes, and what one round after it refunds for the task of the request. -/
def chargedAndRefunded (env : MidjourneyEnv) (body : MidjourneyBody) (faults : Faults)
    (items : List MidjourneyDto) : Int × Int :=
  let after := ((relayMidjourney {} env { userId := 1 } body).run.eval server [] faults mjUser).2
  let round := midjourneyThreads {} [.poll (mjAnswers items)]
  (taken 1 mjUser after, mjRefunded 1 (Pool.run server (List.replicate 8 (0, [])) (round, after)).2)

/-! ### Refunds are at most the charge -/

lemma mjRefunded_replicate {start : List TaskMovement} {n : ℕ} (h : mjMovements id x = start ++ List.replicate n m) :
    mjRefunded id x = (start.map fun m => -m.amount).sum + n * -m.amount := by
  unfold mjRefunded
  rw [h]
  simp

lemma mjRefunded_le_quota {task : Midjourney} {rounds : List MidjourneyPollEnv}
    {sched : List (Nat × List (Option String))} (hrow : db.midjourneys.row id = some task)
    (hmeets : Pool.Meets server (fun _ => MjAllowed id (fun t => t.progress = "100%") False) sched
      (midjourneyThreads cfg (rounds.map .poll), db)) :
    mjRefunded id (Pool.run server sched (midjourneyThreads cfg (rounds.map .poll), db)).2 - mjRefunded id db ≤
      max 0 task.quota := by
  let w : MjWatch := ⟨id, task, mjMovements id db, fun t => t.progress = "100%", False⟩
  have hanswers : ∀ env item, MjAnswers w env item := by
    refine fun env item _ copy => ⟨fun hfailed => ?_, False.elim⟩
    exact if_pos hfailed
  have hshares := shares_midjourneyThreads cfg (rounds.map .poll) w hrow rfl False.elim False.elim
    (fun _ _ => rfl) fun _ _ _ _ _ _ => hanswers _ _
  obtain ⟨gs, hs, -⟩ := hshares.run hmeets
  have hrefunded := mjRefunded_replicate hs.inv.movements
  have hle := hs.inv.le_one
  have hstart : mjRefunded id db = (w.start.map fun m => -m.amount).sum := rfl
  have hquota : -w.refund.amount = task.quota := neg_neg _
  rw [hrefunded, hstart]
  obtain h | h : gs.sum.2 = 0 ∨ gs.sum.2 = 1 := by omega
  · rw [h]
    omega
  · rw [h]
    omega

/-- A request whose price is charged and whose answer is accepted, or that has no price, and any rounds
of the poller after it. If no write of a round takes effect on the task once it is finished, the refunds
of the task that the request has stored are at most what the request has taken from the wallet. -/
theorem midjourney_refunds_le_charge {env : MidjourneyEnv} {c : MidjourneyContext} {body : MidjourneyBody}
    {faults : Faults} {id : Int} {task : Midjourney} {rounds : List MidjourneyPollEnv}
    {sched : List (Nat × List (Option String))}
    (hcharged : FreeOfCharge env ∨
      Accepted env body ∧ (relayMidjourney cfg env c body).run.Meets server [] ChargeSucceeds faults db) :
    let after := ((relayMidjourney cfg env c body).run.eval server [] faults db).2
    let rounds := midjourneyThreads cfg (rounds.map .poll)
    db.midjourneys.row id = none → after.midjourneys.row id = some task →
    Pool.Meets server (fun _ => MjAllowed id (fun t => t.progress = "100%") False) sched (rounds, after) →
    mjRefunded id (Pool.run server sched (rounds, after)).2 - mjRefunded id after ≤
      max 0 (taken c.userId db after) := by
  intro after threads hnone hsome hmeets
  have hpaid : PaidFor c.userId db after := by
    have hwp : ∀ A, (FreeOfCharge env ∨ Accepted env body ∧ A = ChargeSucceeds) →
        (relayMidjourney cfg env c body).run.wp server A (fun _ y => PaidFor c.userId db y) db := by
      intro A hA
      cases body with
      | submit mode body => exact wp_of_wpE (wpE_relayMidjourneySubmit hA)
      | swapFace body => exact wp_of_wpE (wpE_relaySwapFace hA)
    rcases hcharged with hfree | ⟨haccepted, hfaults⟩
    · exact eval_of_wp (hwp (fun _ _ _ => True) (.inl hfree)) (meets_of_forall (fun _ _ _ => trivial) faults db)
    · exact eval_of_wp (hwp _ (.inr ⟨haccepted, rfl⟩)) hfaults
  have hle : mjRefunded id (Pool.run server sched (threads, after)).2 - mjRefunded id after ≤ max 0 task.quota :=
    mjRefunded_le_quota hsome hmeets
  by_cases hpos : 0 < task.quota
  · rw [hpaid id task hnone hsome hpos]
    exact hle
  · omega

theorem midjourney_refunds_le_charge_imagine :
    let after := ((relayMidjourney {} (priced 200 1) { userId := 1 }
      (.submit .imagine (some { prompt := "p" }))).run.eval server [] [] mjUser).2
    let round := midjourneyThreads {} [.poll (mjAnswers [failedItem])]
    mjRefunded 1 (Pool.run server [(0, []), (0, []), (0, [])] (round, after)).2 - mjRefunded 1 after ≤
      max 0 (taken 1 mjUser after) := by
  intro after round
  have hcharged : ∀ req x, ChargeSucceeds req [] x := by
    intro req x
    unfold ChargeSucceeds
    split
    · rfl
    · trivial
  have haccepted : Accepted (priced 200 1) (.submit .imagine (some { prompt := "p" })) := by
    refine ⟨fun req action _ haction => ?_, fun statusCode r hr => ?_⟩
    · obtain rfl : mjActionImagine = action := some.inj haction
      rfl
    · cases hr
      exact ⟨rfl, rfl⟩
  refine @midjourney_refunds_le_charge {} mjUser _ _ _ [] 1 _ [mjAnswers [failedItem]] _
    (.inr ⟨haccepted, meets_nil hcharged mjUser⟩) rfl rfl ?_
  refine Pool.meets_step _ rfl trivial (Pool.meets_step _ rfl ?_ (Pool.meets_step _ rfl False.elim Pool.meets_nil))
  rintro - task htask -
  cases htask
  decide

/-- An action that is not charged, an answer that rejects the request, a status other than 200, a
deduction that fails, and a face swap that waits in the queue: nothing is taken, and the price is refunded.
An answer that lists a task twice refunds it twice. -/
theorem midjourney_refunds_exceed_charge :
    let imagine : MidjourneyBody := .submit .imagine (some { prompt := "p" })
    let swap : MidjourneyBody := .swapFace (some { sourceBase64 := "s", targetBase64 := "t" })
    chargedAndRefunded (priced 200 1) (.submit .change (some { action := "INPAINT" })) [] [failedItem] = (0, 50) ∧
    chargedAndRefunded (priced 200 23) imagine [] [failedItem] = (0, 50) ∧
    chargedAndRefunded (priced 500 1) imagine [] [failedItem] = (0, 50) ∧
    chargedAndRefunded (priced 200 1) imagine [[], [], [some "lost"]] [failedItem] = (0, 50) ∧
    chargedAndRefunded (priced 200 22) swap [] [failedItem] = (0, 50) ∧
    chargedAndRefunded (priced 200 1) imagine [] [failedItem, { failedItem with failReason := "r" }] = (50, 100) := by
  decide +kernel

/-! ### A failed task is refunded once -/

abbrev MjEvent := Event Req (List (Option String)) DB

/-- The events that refund a task. -/
def mjRefundEvents (id : Int) (tr : List MjEvent) : List MjEvent :=
  tr.filter fun e => mjMovements id e.post ≠ mjMovements id e.pre

def mjStatus (id : Int) (x : DB) : Option String := (x.midjourneys.row id).map Midjourney.status

/-- The event refunds the whole charge of the task. -/
def MjRefunded (id : Int) (task : Midjourney) (e : MjEvent) : Prop :=
  e.post = (e.pre.addUserQuota task.userId task.quota).note (some ⟨id, .refund, .midjourney, -task.quota⟩)

abbrev MjCounted (w : MjWatch) : List MjEvent → List (ℕ × ℕ) → Prop :=
  Counts (fun e => mjMovements w.id e.post ≠ mjMovements w.id e.pre) (MjRefunded w.id w.task)

lemma MjCounted.step {tr : List MjEvent} {e : MjEvent} {g' : ℕ × ℕ} (h : MjCounted w tr gs)
    (hg : gs[e.thread]? = some g) (hG : MjStep w g e.request e.pre e.post g') :
    MjCounted w (tr ++ [e]) (gs.set e.thread g') := by
  refine Counts.step h hg ?_
  rcases hG with ⟨hsame, hg'⟩ | ⟨hpost, hg'⟩
  · exact .inl ⟨decide_eq_false (not_not.mpr hsame), hg'⟩
  refine .inr ⟨decide_eq_true ?_, hpost, hg'⟩
  rw [hpost]
  unfold mjMovements
  show (e.pre.movements ++ [w.refund]).filter _ ≠ _
  simp [MjWatch.refund]

/-- The answers about a task of this upstream id call it failed where its status is FAILURE. -/
def MjConsistent (mjId : String) (env : MidjourneyPollEnv) : Prop :=
  ∀ ch taskIds, ∀ item ∈ fetchMjItems env ch taskIds, item.mjId = mjId → (mjFailed item ↔ item.status = "FAILURE")

/-- A run of any requests, callbacks and rounds in which a task is written only until its status is
FAILURE, in which callbacks and bulk updates do not make it FAILURE, and in which the statement of its
refund does not fail. Once all writers have returned, a task that is FAILURE has been refunded by exactly
one request, and a task that is not by none. -/
theorem failed_midjourney_refunded_once {id : Int} {task : Midjourney} {sched : List (Nat × List (Option String))}
    {results : List Unit} (hrow : db.midjourneys.row id = some task) (hquota : 0 < task.quota)
    (hnew : task.status ≠ "FAILURE") (hitems : ∀ env, .poll env ∈ writers → MjConsistent task.mjId env)
    (hA : Pool.Meets server (fun _ => MjAllowed id (fun t => t.status = "FAILURE") True) sched
      (midjourneyThreads cfg writers, db))
    (hr : Pool.Returned (Pool.run server sched (midjourneyThreads cfg writers, db)) results) :
    let tr := Pool.trace server sched (midjourneyThreads cfg writers, db)
    let final := (Pool.run server sched (midjourneyThreads cfg writers, db)).2
    (mjStatus id final = some "FAILURE" → ∃ e, mjRefundEvents id tr = [e] ∧ MjRefunded id task e) ∧
    (mjStatus id final ≠ some "FAILURE" → mjRefundEvents id tr = []) := by
  intro tr final
  let w : MjWatch := ⟨id, task, mjMovements id db, fun t => t.status = "FAILURE", True⟩
  have hanswers : ∀ env, .poll env ∈ writers → ∀ ch taskIds, ∀ item ∈ fetchMjItems env ch taskIds,
      MjAnswers w env item := by
    intro env hmem ch taskIds item hitem hid copy
    have hiff : mjFailed (timeOutItem env copy item) ↔ (timeOutItem env copy item).status = "FAILURE" := by
      unfold timeOutItem
      split
      · by_cases hp : item.progress = "100%" <;> simp [mjFailed, hp]
      · exact hitems env hmem ch taskIds item hitem hid
    exact ⟨hiff.mp, fun _ => hiff.mpr⟩
  have hshares := shares_midjourneyThreads cfg writers w hrow rfl (fun _ => hnew) (fun _ => hquota)
    (fun _ _ => rfl) hanswers
  have hstart : MjCounted w [] ((midjourneyThreads cfg writers).map fun _ => 0) := by
    refine ⟨?_, by simp⟩
    rw [sum_map_zero]
    rfl
  obtain ⟨gs, hs, hP⟩ := hshares.run_induction (P := fun tr _ gs => MjCounted w tr gs)
    (fun _ _ _ _ _ hP hg _ hG _ _ => hP.step hg hG) hstart hA
  have hidle : gs.sum.1 = 0 := hs.sum_of_returned (P := fun g : ℕ × ℕ => g.1 = 0) hr (fun _ _ _ hg => hg trivial) rfl
    fun g g' hg hg' => by rw [Prod.fst_add, hg, hg']
  have hcount : (mjRefundEvents id tr).length = gs.sum.2 := hP.count
  obtain ⟨last, hlast, -, hpos, hexact⟩ := hs.inv.row
  have hst : mjStatus id final = some last.status := congrArg (Option.map Midjourney.status) hlast
  rw [hst]
  constructor
  · intro hfail
    have hone := hexact trivial (Option.some.inj hfail)
    obtain ⟨e, he⟩ := length_eq_one_iff.mp (show (mjRefundEvents id tr).length = 1 by omega)
    exact ⟨e, he, hP.holds e (show e ∈ mjRefundEvents id tr from he ▸ mem_cons_self)⟩
  · intro hne
    apply length_eq_zero_iff.mp
    by_contra hsome
    exact hne (congrArg some (hpos (by omega)))

def mjTask : Midjourney where
  code := 1
  userId := 1
  action := "IMAGINE"
  mjId := "m"
  quota := 50
  submitTime := 1
  status := "SUBMITTED"

def oneMidjourney (task : Midjourney) : DB :=
  { mjUser with midjourneys := Table.empty.insert 1 task }

theorem failed_midjourney_refunded_once_race :
    let tr := Pool.trace server [(0, []), (1, []), (0, []), (1, []), (0, []), (0, [])]
      (midjourneyThreads {} [.poll (mjAnswers [failedItem]), .poll (mjAnswers [failedItem])], oneMidjourney mjTask)
    ∃ e, mjRefundEvents 1 tr = [e] ∧ MjRefunded 1 mjTask e := by
  have hreturned : Pool.Returned (Pool.run server [(0, []), (1, []), (0, []), (1, []), (0, []), (0, [])]
      (midjourneyThreads {} [.poll (mjAnswers [failedItem]), .poll (mjAnswers [failedItem])], oneMidjourney mjTask))
      [(), ()] := rfl
  refine (failed_midjourney_refunded_once rfl (by decide) (by decide) ?_ ?_ hreturned).1 rfl
  · rintro env henv ch taskIds item hitem -
    obtain rfl : env = mjAnswers [failedItem] := by simpa using henv
    obtain rfl := mem_singleton.mp hitem
    decide
  · have hcas : ∀ task : Midjourney, task.status = "SUBMITTED" → ¬task.status = "FAILURE" := by
      intro task hst
      rw [hst]
      decide
    refine Pool.meets_step _ rfl trivial (Pool.meets_step _ rfl trivial (Pool.meets_step _ rfl ?_
      (Pool.meets_step _ rfl ?_ (Pool.meets_step _ rfl ?_ (Pool.meets_step _ rfl trivial Pool.meets_nil)))))
    · exact fun _ task _ hst => hcas task hst
    · exact fun _ task _ hst => hcas task hst
    · exact fun _ _ => rfl

/-- How the run of a schedule ends. -/
def MjEnds (task : Midjourney) (writers : List MidjourneyWriter) (sched : List Nat) (status : String)
    (refunds : Nat) : Prop :=
  let c := Pool.run server (sched.map fun i => (i, [])) (midjourneyThreads {} writers, oneMidjourney task)
  Pool.Returned c (writers.map fun _ => ()) ∧ mjStatus 1 c.2 = some status ∧ (mjMovements 1 c.2).length = refunds

/-- A task that a callback reports failed, a task without an upstream id and a task whose channel is gone
are not refunded. A task that comes with a reason is refunded although it is SUCCESS, and so is one whose
callback is saved over the failure. An answer that lists a task twice refunds it twice. -/
theorem failed_midjourney_refund_counts :
    let failed := MidjourneyWriter.poll (mjAnswers [failedItem])
    MjEnds mjTask [.notify (some failedItem), failed] [0, 0, 1] "FAILURE" 0 ∧
    MjEnds { mjTask with mjId := "" } [failed] [0, 0] "FAILURE" 0 ∧
    MjEnds mjTask [.poll {}] [0, 0] "FAILURE" 0 ∧
    MjEnds mjTask [.poll (mjAnswers [{ mjId := "m", status := "SUCCESS", failReason := "r" }])]
      [0, 0, 0, 0] "SUCCESS" 1 ∧
    MjEnds mjTask [.notify (some { mjId := "m", status := "SUCCESS" }), failed] [0, 1, 1, 1, 1, 0] "SUCCESS" 1 ∧
    MjEnds mjTask [.poll (mjAnswers [failedItem, { failedItem with failReason := "r" }])]
      [0, 0, 0, 0, 0, 0, 0] "FAILURE" 2 :=
  ⟨⟨rfl, rfl, rfl⟩, ⟨rfl, rfl, rfl⟩, ⟨rfl, rfl, rfl⟩, ⟨rfl, rfl, rfl⟩, ⟨rfl, rfl, rfl⟩, ⟨rfl, rfl, rfl⟩⟩

end Runs

end LoveApi.Proofs
