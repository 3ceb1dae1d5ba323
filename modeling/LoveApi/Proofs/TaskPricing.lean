import LoveApi.TaskSubmit
import LoveApi.TaskBilling
import LoveApi.Proofs.Database
import LoveApi.Program.Truncation

/-!
# The price of a task

The quota of a task is multiplied and truncated, and divided and multiplied again when the ratios change. The price is
built anew in each attempt, with the group ratio 1, and a remix gets no price at all.
-/

namespace LoveApi.Proofs

open Program Go List Option

variable {ratios : List (String × ℚ)} {taskPricePatches : List String} {modelName : String} {price : PriceData}
  {entry : String × ℚ} {settings : TaskSubmitSettings} {prices : PriceTables} {info : TaskRelayInfo}
  {result : TaskResult} {outcome : SubmitOutcome} {request : RelayRequest} {world : TaskWorld} {ctx : TaskContext}
  {task : Task}

/-! ### The ratios -/

lemma applyRatios_eq {ratios : List (String × ℚ)} {quota : Int} :
    applyRatios ratios quota = scale Prod.snd ratios quota := by
  induction ratios generalizing quota with
  | nil => rfl
  | cons entry ratios ih =>
    have hfirst : (if entry.2 ≠ 1 then Go.int (quota * entry.2) else quota) = Go.int (quota * entry.2) := by
      split
      · rfl
      · rename_i h
        rw [not_not.mp h, mul_one, int_intCast]
    rw [scale_cons, ← ih, ← hfirst]
    rfl

lemma foldl_mul_ratios {ratios : List (String × ℚ)} {q : ℚ} :
    ratios.foldl (fun result entry => if entry.2 ≠ 1 then result * entry.2 else result) q =
      q * (ratios.map Prod.snd).prod := by
  induction ratios generalizing q with
  | nil => simp
  | cons entry ratios ih =>
    rw [foldl_cons, ih, map_cons, prod_cons, ← mul_assoc]
    congr 1
    split
    · rfl
    · rename_i h
      rw [not_not.mp h, mul_one]

variable (hpos : ∀ entry ∈ ratios, 0 < entry.2)

include hpos

lemma foldl_div_ratios {quota : Int} :
    ratios.foldl (fun quota entry => if entry.2 ≠ 1 ∧ entry.2 > 0 then Go.int (quota / entry.2) else quota) quota =
      scale (fun entry => entry.2⁻¹) ratios quota := by
  induction ratios generalizing quota with
  | nil => rfl
  | cons entry ratios ih =>
    rw [forall_mem_cons] at hpos
    rw [foldl_cons, ih hpos.2, scale_cons]
    congr 1
    split
    · rw [div_eq_mul_inv]
    rename_i h
    have hone : entry.2 = 1 := by
      by_contra hne
      exact h ⟨hne, hpos.1⟩
    rw [hone, inv_one, mul_one, int_intCast]

lemma recalcQuotaFromRatios_eq {newRatios : List (String × ℚ)} {quota : Int} :
    recalcQuotaFromRatios ratios newRatios quota = rescale Prod.snd ratios newRatios quota := by
  simp only [recalcQuotaFromRatios]
  rw [foldl_div_ratios hpos, foldl_mul_ratios]
  rfl

/-- The quota of an attempt is that of the product of the ratios in whatever order they are applied, and it stays the
same when the adaptor returns the ratios unchanged. -/
def PricedByProduct (taskPricePatches : List String) (modelName : String) (ratios : List (String × ℚ)) : Prop :=
  ∀ (baseQuota : Int) (l₁ l₂ l₃ : List (String × ℚ)), l₁.Perm ratios → l₂.Perm ratios → l₃.Perm ratios →
    let quota := submitQuota taskPricePatches modelName l₁ baseQuota
    quota = Go.int (baseQuota * (ratios.map Prod.snd).prod) ∧ recalcQuotaFromRatios l₂ l₃ quota = quota

/-- What the ratios have to be like: with a fixed price there is none but 1, and otherwise they are all whole numbers or
all parts of one. -/
def SafeRatios (taskPricePatches : List String) (modelName : String) (ratios : List (String × ℚ)) : Prop :=
  if modelName ∈ taskPricePatches then ∀ entry ∈ ratios, entry.2 = 1
  else (∀ entry ∈ ratios, ∃ k : Int, entry.2 = k) ∨ ∀ entry ∈ ratios, ∃ k : ℕ, entry.2 = 1 / k

lemma pricedByProduct_iff_scales (hpatched : modelName ∉ taskPricePatches) :
    PricedByProduct taskPricePatches modelName ratios ↔ Scales Prod.snd ratios := by
  refine forall₄_congr fun baseQuota l₁ l₂ l₃ => forall₃_congr fun h₁ h₂ h₃ => ?_
  simp only [submitQuota, if_pos hpatched, applyRatios_eq]
  rw [recalcQuotaFromRatios_eq fun entry h => hpos entry (h₂.mem_iff.mp h)]

lemma pricedByProduct_patched (hpatched : modelName ∈ taskPricePatches) :
    PricedByProduct taskPricePatches modelName ratios ↔ ∀ entry ∈ ratios, entry.2 = 1 := by
  have hquota : ∀ l quota, submitQuota taskPricePatches modelName l quota = quota :=
    fun l quota => if_neg (not_not.mpr hpatched)
  constructor
  · intro h
    -- Each ratio is a part of 1, and their product is not below 1.
    have hpart : ∀ entry ∈ ratios, entry.2 ≤ 1 := by
      intro entry hentry
      obtain ⟨rest, hperm⟩ := exists_perm_cons hentry
      have hone := (h 1 ratios (entry :: rest) ratios (.refl _) hperm.symm (.refl _)).2
      rw [hquota, recalcQuotaFromRatios_eq fun e he => hpos e (hperm.mem_iff.mpr he)] at hone
      obtain ⟨k, hk⟩ := part_of_rescale_one (fun e he => hpos e (hperm.mem_iff.mpr he)) hperm.symm hone
      rw [hk]
      rcases Nat.eq_zero_or_pos k with rfl | hk
      · simp
      · exact div_le_one_of_le₀ (by exact_mod_cast hk) (Nat.cast_nonneg k)
    have hprod : 1 ≤ (ratios.map Prod.snd).prod := by
      have hbase := (h 1 ratios ratios ratios (.refl _) (.refl _) (.refl _)).1
      rw [hquota, Int.cast_one, one_mul] at hbase
      have hle := int_le (prod_map_pos hpos).le
      rw [← hbase] at hle
      exact_mod_cast hle
    intro entry hentry
    apply le_antisymm (hpart entry hentry)
    obtain ⟨rest, hperm⟩ := exists_perm_cons hentry
    have hmem : ∀ e ∈ rest, e ∈ ratios := fun e he => hperm.mem_iff.mpr (mem_cons_of_mem entry he)
    have hrest : (rest.map Prod.snd).prod ≤ 1 := by
      have hle := prod_map_le_prod_map₀ Prod.snd (fun _ => (1 : ℚ)) (fun e he => (hpos e (hmem e he)).le)
        (fun e he => hpart e (hmem e he))
      simpa using hle
    rw [prod_perm_cons hperm] at hprod
    calc (1 : ℚ) ≤ entry.2 * (rest.map Prod.snd).prod := hprod
      _ ≤ entry.2 := mul_le_of_le_one_right (hpos entry hentry).le hrest
  · intro hone baseQuota l₁ l₂ l₃ h₁ h₂ h₃
    have hprod : (ratios.map Prod.snd).prod = 1 := prod_eq_one (forall_mem_map.mpr hone)
    have hscales : Scales Prod.snd ratios :=
      (scales_iff hpos).mpr (.inl fun entry hentry => ⟨1, by rw [hone entry hentry, Int.cast_one]⟩)
    obtain ⟨hscale, hrescale⟩ := hscales baseQuota l₁ l₂ l₃ h₁ h₂ h₃
    rw [hprod, mul_one, int_intCast] at hscale ⊢
    rw [hscale, ← recalcQuotaFromRatios_eq fun entry he => hpos entry (h₂.mem_iff.mp he)] at hrescale
    simp only [hquota]
    exact ⟨trivial, hrescale⟩

omit hpos

/-- A submission is priced by the product of its ratios, in whatever order they come, exactly if they are safe. -/
theorem pricedByProduct_iff (taskPricePatches : List String) (modelName : String)
    (hpos : ∀ entry ∈ ratios, 0 < entry.2) :
    PricedByProduct taskPricePatches modelName ratios ↔ SafeRatios taskPricePatches modelName ratios := by
  unfold SafeRatios
  split
  · rename_i hpatched
    exact pricedByProduct_patched hpos hpatched
  · rename_i hpatched
    exact (pricedByProduct_iff_scales hpos hpatched).trans (scales_iff hpos)

theorem pricedByProduct_seconds : SafeRatios [] "sora-2" [("seconds", 8), ("size", 1)] ∧
    PricedByProduct [] "sora-2" [("seconds", 8), ("size", 1)] := by
  have hsafe : SafeRatios [] "sora-2" [("seconds", 8), ("size", 1)] := by
    refine .inl fun entry hentry => ?_
    rcases mem_cons.mp hentry with rfl | hentry
    · exact ⟨8, by norm_num⟩
    · obtain rfl := mem_singleton.mp hentry
      exact ⟨1, by norm_num⟩
  refine ⟨hsafe, (pricedByProduct_iff [] "sora-2" ?_).mpr hsafe⟩
  simp

/-- A quota of 1 by the ratios 1/2 and 2 is 0 or 1, by their order; by 5/3 it is 1, and 0 by the same ratio once more.
-/
theorem submitQuota_order_counterexample : submitQuota [] "sora-2" [("seconds", 1 / 2), ("size", 2)] 1 = 0 ∧
      submitQuota [] "sora-2" [("size", 2), ("seconds", 1 / 2)] 1 = 1 ∧
      submitQuota [] "sora-2" [("size", 5 / 3)] 1 = 1 ∧
      recalcQuotaFromRatios [("size", 5 / 3)] [("size", 5 / 3)] 1 = 0 := by
  decide +kernel

/-! ### The price of an attempt -/

lemma groupRatioInfo_addOtherRatios {price : PriceData} {ratios : List (String × ℚ)} :
    (price.addOtherRatios ratios).groupRatioInfo = price.groupRatioInfo := by
  unfold PriceData.addOtherRatios
  induction ratios generalizing price with
  | nil => rfl
  | cons ratio ratios ih =>
    rw [foldl_cons, ih, PriceData.addOtherRatio]
    split <;> rfl

section Attempt

variable {groups : GroupRatios} {submission : Submission}

lemma groupRatioInfo_callPrice (groupRatioInfo : GroupRatioInfo) (modelPrice : Option ℚ) (modelRatio : ℚ) :
    (callPrice prices groupRatioInfo modelPrice modelRatio).groupRatioInfo = groupRatioInfo := by
  unfold callPrice
  cases modelPrice <;> simp only [apply_ite PriceData.groupRatioInfo, ite_self]

lemma modelPriceHelperPerCall_ok {autoGroup : Option String} {isAdmin : Bool} {info : PricingInfo} {price : PriceData}
    (h : (modelPriceHelperPerCall prices groups autoGroup isAdmin info).1 = .ok price) :
    price.groupRatioInfo.groupRatio = 1 := by
  simp only [modelPriceHelperPerCall] at h
  cases hfixed : (prices.getModelPrice (handleGroupRatio groups autoGroup info).2.originModelName).or
      (prices.getDefaultModelPrice (handleGroupRatio groups autoGroup info).2.originModelName) with
  | some modelPrice =>
    simp only [hfixed] at h
    rw [← Except.ok.inj h, groupRatioInfo_callPrice]
  | none =>
    simp only [hfixed] at h
    split at h
    · cases h
    · rw [← Except.ok.inj h, groupRatioInfo_callPrice]

lemma preConsumeTask_ok {info' : TaskRelayInfo} (h : preConsumeTask submission info = .ok info') :
    info'.toPricingInfo = info.toPricingInfo := by
  unfold preConsumeTask at h
  split at h
  · cases hbilling : submission.preConsumeBilling info.priceData.quota with
    | error e =>
      rw [hbilling] at h
      cases h
    | ok billing =>
      rw [hbilling] at h
      cases h
      rfl
  · cases h
    rfl

lemma groupRatioInfo_adjustOnSubmit {price : PriceData} :
    (adjustOnSubmit submission price).groupRatioInfo = price.groupRatioInfo := by
  unfold adjustOnSubmit
  dsimp only
  split <;> rfl

lemma sendTask_ok {result : TaskSubmitResult} (h : (sendTask submission info).1 = .ok result) :
    (sendTask submission info).2.priceData.groupRatioInfo = info.priceData.groupRatioInfo := by
  cases hbilling : preConsumeTask submission info with
  | error e => simp only [sendTask, hbilling, reduceCtorEq] at h
  | ok info' =>
    have hpricing := preConsumeTask_ok hbilling
    cases hbody : submission.buildRequestBody with
    | error e => simp only [sendTask, hbilling, hbody, reduceCtorEq] at h
    | ok _ =>
      cases hrequest : submission.doRequest with
      | error e => simp only [sendTask, hbilling, hbody, hrequest, reduceCtorEq] at h
      | ok response =>
        cases hfilter : response.filter (·.1 ≠ 200) with
        | some failed => simp only [sendTask, hbilling, hbody, hrequest, hfilter, reduceCtorEq] at h
        | none =>
          cases hresponse : submission.doResponse with
          | error e => simp only [sendTask, hbilling, hbody, hrequest, hfilter, hresponse, reduceCtorEq] at h
          | ok answer =>
            simp only [sendTask, hbilling, hbody, hrequest, hfilter, hresponse]
            rw [groupRatioInfo_adjustOnSubmit, hpricing]

lemma relayTaskSubmit_groupRatio {generateTaskID : String} {ctx : TaskContext} {info : TaskRelayInfo}
    {result : TaskSubmitResult}
    (h : (relayTaskSubmit settings prices groups submission generateTaskID ctx info).result = .ok result) :
    (relayTaskSubmit settings prices groups submission generateTaskID ctx
      info).info.priceData.groupRatioInfo.groupRatio = 1 := by
  unfold relayTaskSubmit at h ⊢
  generalize prepareTask submission generateTaskID ctx info = r at h ⊢
  rcases r with ⟨(e | modelName), info'⟩
  · cases h
  have hok := @modelPriceHelperPerCall_ok prices groups ctx.autoGroup info'.isAdmin info'.toPricingInfo
  dsimp only at h ⊢
  generalize modelPriceHelperPerCall prices groups ctx.autoGroup info'.isAdmin info'.toPricingInfo = r at hok h ⊢
  rcases r with ⟨(e | price), pricing⟩
  · cases h
  · rw [sendTask_ok h, ← hok rfl]
    exact congrArg GroupRatioInfo.groupRatio groupRatioInfo_addOtherRatios

end Attempt

/-! ### The attempts of a request -/

section

variable {groups : GroupRatios}

/-- A stored task has the ratio of its group in the price that it was charged by. -/
def StoredRatio (result : TaskResult) : Prop :=
  ∀ task, result.task = some task → ∃ bc, task.privateData.billingContext = some bc ∧ bc.groupRatio = 1

lemma storedRatio_of_none (h : result.task = none) : StoredRatio result := by
  intro task htask
  rw [h] at htask
  cases htask

lemma taskBody_storedRatio (s : TaskState) :
    (taskBody settings prices groups request world s).All (fun _ => True) StoredRatio := by
  unfold taskBody
  split
  · exact storedRatio_of_none rfl
  generalize taskChannel settings groups request world s = r
  rcases r with ⟨(e | id), t⟩
  · exact storedRatio_of_none rfl
  dsimp only
  cases world.readBody t.submissions with
  | error e => exact storedRatio_of_none rfl
  | ok _ =>
    generalize houtcome : relayTaskSubmit settings prices groups (world.submissions t.submissions)
      world.generateTaskID _ t.info = outcome
    cases hresult : outcome.result with
    | error e =>
      dsimp only
      split
      · trivial
      · exact storedRatio_of_none rfl
    | ok result =>
      intro task htask
      cases htask
      exact ⟨_, rfl, houtcome ▸ relayTaskSubmit_groupRatio (houtcome ▸ hresult)⟩

lemma relayTask_storedRatio {fuel : Nat} {ctx : TaskContext} {info : TaskRelayInfo} {result : TaskResult}
    (hrun : relayTask settings prices groups request world fuel ctx info = some result) : StoredRatio result := by
  unfold relayTask at hrun
  cases hresolve : resolveOriginTask world ctx info with
  | error failure =>
    rw [hresolve] at hrun
    cases hrun
    exact storedRatio_of_none rfl
  | ok resolved =>
    rw [hresolve] at hrun
    exact loop_all (P := fun _ => True) (fun s _ => taskBody_storedRatio s) trivial hrun

end

/-! ### The ratios of an origin task -/

section

variable {groups : GroupRatios}

/-- The adaptor estimates a ratio under the key; one that is not positive is ignored. -/
def Overwritten (submission : Submission) (key : String) : Prop :=
  ∃ ratio, 0 < ratio ∧ (key, ratio) ∈ submission.estimateBilling

/-- The remix is submitted, and each attempt is priced with the ratios of the origin task that the adaptor has not
overwritten. -/
structure PricedLikeOrigin (world : TaskWorld) (originTask : Task) (info : TaskRelayInfo) (result : TaskResult) :
    Prop where
  submitted : result.log ≠ []
  kept : ∀ attempt ∈ result.log, ∀ entry ∈ (originRatios world originTask info.priceData).otherRatios,
    entry ∈ attempt.price.otherRatios ∨ Overwritten (world.submissions attempt.submission) entry.1

/-- The request is a remix of the task, whose channel is enabled. -/
structure RemixOf (world : TaskWorld) (userId : Int) (originTask : Task) : Prop where
  path : (contains world.path "/v1/videos/" && hasSuffix world.path "/remix") = true
  videoID : trimSpace world.videoID ≠ ""
  origin : world.getByTaskId userId world.videoID = .ok (some originTask)
  channel : ∃ ch, world.getChannelById originTask.channelId = .ok ch ∧ ch.status = channelStatusEnabled

def originVideo : Task :=
  { taskID := "video", platform := .video "sora", userId := 1, channelId := 7, quota := 100, status := .success
    privateData := { billingContext := some { otherRatios := [("seconds", 8)] } } }

def noChannels : ChannelStore := { channels := Table.empty, cache := initChannelCache Table.empty [] }

def remixWorld : TaskWorld where
  path := "/v1/videos/video/remix"
  videoID := "video"
  getByTaskId := fun _ _ => .ok (some originVideo)
  selection := { stores := fun _ => noChannels, outcomes := fun _ => .answered }
  submissions := fun _ => {}

def ratioPrices : PriceTables := { getModelRatio := fun model => (1, true, model) }

def remixInfo : TaskRelayInfo := { originModelName := "sora-2", userId := 1 }

lemma ne_empty_of_trimSpace {s : String} (h : trimSpace s ≠ "") : s ≠ "" := by
  rintro rfl
  exact h (by decide +kernel)

lemma resolveOriginTask_nilPointer (hmeta : info.channelMeta = none) (h : RemixOf world info.userId task) :
    resolveOriginTask world ctx info = .error .nilPointer := by
  obtain ⟨ch, hch, henabled⟩ := h.channel
  have hid := ne_empty_of_trimSpace h.videoID
  simp only [resolveOriginTask, detectRemix, h.path, if_true, if_neg h.videoID, if_neg hid, h.origin, lockChannel, hch,
    henabled, hmeta, bind, Except.bind, ne_eq, not_true, if_false]

/-- A remix of the video as `RelayTask` receives it. -/
def remixRun : Option TaskResult := relayTask {} ratioPrices {} { modelName := "sora-2" } remixWorld 1 {} remixInfo

lemma lockChannel_ne_ok {locked : TaskContext × TaskRelayInfo} (hmeta : info.channelMeta = none) :
    lockChannel world task ctx info ≠ .ok locked := by
  unfold lockChannel
  cases world.getChannelById task.channelId with
  | error e => nofun
  | ok ch =>
    dsimp only
    split
    · nofun
    · simp [hmeta]

/-- The record of a request has no channel before the first attempt, but `ResolveOriginTask` reads the channel from it:
whatever the origin task is, a remix fails before anything is submitted. -/
theorem relayTask_remix_fails {fuel : Nat} (hmeta : info.channelMeta = none)
    (hremix : (contains world.path "/v1/videos/" && hasSuffix world.path "/remix") = true) :
    ∃ failure, relayTask settings prices groups request world fuel ctx info = some { failure := some failure } := by
  cases hresolve : resolveOriginTask world ctx info with
  | error failure => exact ⟨failure, by rw [relayTask, hresolve]⟩
  | ok resolved =>
    simp only [resolveOriginTask, detectRemix, hremix, if_true, bind, Except.bind] at hresolve
    by_cases hvideo : trimSpace world.videoID = ""
    · simp [hvideo] at hresolve
    simp only [if_neg hvideo, if_neg (ne_empty_of_trimSpace hvideo)] at hresolve
    split at hresolve
    · cases hresolve
    · cases hresolve
    · split at hresolve
      · cases hresolve
      · next hlock => exact absurd hlock (lockChannel_ne_ok hmeta)

theorem relayTask_remix_fails_video : ∃ failure, relayTask {} ratioPrices {} { modelName := "sora-2" } remixWorld 1
    {} remixInfo = some { failure := some failure } :=
  relayTask_remix_fails rfl (by decide +kernel)

end

/-! ### The ratio of the group -/

section

variable {groups : GroupRatios} {db : DB}

/-- The group whose ratio a recalculation reads. -/
def recalculationGroup (db : DB) (task : Task) : String :=
  if task.group = "" then if task.userId = 0 then "" else ((db.users.row task.userId).map User.group).getD ""
  else task.group

lemma wpE_taskGroup_noFaults {Q : String → DB → Prop} {E : String → DB → Prop} (h : Q (recalculationGroup db task) db) :
    Prog.wpE server noFaults (taskGroup task) Q E db := by
  unfold recalculationGroup at h
  unfold taskGroup
  by_cases hgroup : task.group = ""
  · simp only [if_pos hgroup] at h ⊢
    rw [Prog.wpE_bind, Prog.wpE_attempt]
    unfold getUserById
    by_cases huser : task.userId = 0
    · rw [if_pos huser] at h ⊢
      exact h
    · rw [if_neg huser] at h ⊢
      have hstep : Stmt.step (.selectUser task.userId) db = (first (db.users.row task.userId), db) := rfl
      cases hrow : db.users.row task.userId with
      | none =>
        rw [hrow] at h hstep
        refine wpE_exec_of_step (fun φs hφ => by rw [show φs = [] from hφ, server_exec_nil]) (fun r db' hs => ?_)
          (fun e _ => h)
        rw [hstep] at hs
        cases hs
      | some user =>
        rw [hrow] at h hstep
        exact wpE_exec_step hstep h
  · rw [if_neg hgroup] at h ⊢
    exact h

def withGroups (taskSettings : TaskSettings) (groups : GroupRatios) : TaskSettings :=
  { taskSettings with getGroupRatio := groups.getGroupRatio, getGroupGroupRatio := groups.getGroupGroupRatio }

lemma otherMultiplier_pos (task : Task) : 0 < otherMultiplier task := by
  unfold otherMultiplier
  cases task.privateData.billingContext with
  | none => exact one_pos
  | some bc =>
    apply prod_pos
    intro r hr
    have hfilter := (mem_filter.mp hr).2
    rw [decide_eq_true_eq] at hfilter
    exact hfilter.2

/-- The quota that a task comes to by its tokens has the group ratio that the task was charged by in advance. -/
def GroupRatioAgrees (taskSettings : TaskSettings) (db : DB) (task : Task) : Prop :=
  ∀ bc, task.privateData.billingContext = some bc → ∀ totalTokens : Int,
    tokenQuota taskSettings task (recalculationGroup db task) totalTokens =
      Go.int (totalTokens * (taskSettings.getModelRatio (taskModelName task)).1 * bc.groupRatio * otherMultiplier task)

/-- A recalculation prices the task with the group ratio of its submission exactly if the ratio it looks up is 1. -/
theorem groupRatioAgrees_iff {fuel : Nat} {result : TaskResult} {taskSettings : TaskSettings}
    (hrun : relayTask settings prices groups request world fuel ctx info = some result)
    (htask : result.task = some task) (hratio : 0 < (taskSettings.getModelRatio (taskModelName task)).1) :
    GroupRatioAgrees (withGroups taskSettings groups) db task ↔
      (groups.getGroupGroupRatio (recalculationGroup db task) (recalculationGroup db task)).getD
        (groups.getGroupRatio (recalculationGroup db task)) = 1 := by
  obtain ⟨bc, hbc, hone⟩ := relayTask_storedRatio hrun task htask
  have hother := otherMultiplier_pos task
  generalize hgroup : (groups.getGroupGroupRatio (recalculationGroup db task) (recalculationGroup db task)).getD
    (groups.getGroupRatio (recalculationGroup db task)) = groupRatio
  generalize hmodel : (taskSettings.getModelRatio (taskModelName task)).1 = modelRatio at hratio
  have hquota : ∀ totalTokens,
      tokenQuota (withGroups taskSettings groups) task (recalculationGroup db task) totalTokens =
        Go.int (totalTokens * (modelRatio * groupRatio * otherMultiplier task)) := by
    intro totalTokens
    simp only [tokenQuota, withGroups, hgroup, hmodel, mul_assoc]
  have hstored : ∀ totalTokens : Int, Go.int (totalTokens * ((withGroups taskSettings groups).getModelRatio
      (taskModelName task)).1 * bc.groupRatio * otherMultiplier task) =
      Go.int (totalTokens * (modelRatio * otherMultiplier task)) := by
    intro totalTokens
    rw [hone, mul_one, mul_assoc]
    exact congrArg (fun q => Go.int (totalTokens * (q * otherMultiplier task))) hmodel
  constructor
  · intro h
    have heq : modelRatio * groupRatio * otherMultiplier task = modelRatio * otherMultiplier task := by
      apply eq_of_rounded_mul abs_int_sub_le
      intro totalTokens
      have hround := h bc hbc totalTokens
      rw [hquota, hstored] at hround
      exact_mod_cast hround
    rw [mul_right_comm] at heq
    exact mul_left_cancel₀ (mul_pos hratio hother).ne' (heq.trans (mul_one _).symm)
  · intro h bc' hbc' totalTokens
    obtain rfl : bc' = bc := some.inj (hbc'.symm.trans hbc)
    rw [hquota, hstored, h, mul_one]

/-- A video task of the group `vip`, which is submitted at the first attempt. -/
def videoRun (groups : GroupRatios) : Option TaskResult :=
  relayTask {} ratioPrices groups { modelName := "m" }
    { selection := { stores := fun _ => noChannels, outcomes := fun _ => .answered }, submissions := fun _ => {} } 1 {}
    { originModelName := "m", userGroup := "vip", usingGroup := "vip", userId := 1 }

def ratioSettings : TaskSettings := { getModelRatio := fun _ => (1, true) }

theorem groupRatioAgrees_one : ∃ result task, videoRun {} = some result ∧ result.task = some task ∧ task.group = "vip" ∧
    GroupRatioAgrees (withGroups ratioSettings {}) {} task := by
  have hgroup : ((videoRun {}).bind TaskResult.task).map Task.group = some "vip" := by decide +kernel
  obtain ⟨task, hbind, hgroup⟩ := map_eq_some_iff.mp hgroup
  obtain ⟨result, hrun, htask⟩ := bind_eq_some_iff.mp hbind
  exact ⟨result, task, hrun, htask, hgroup, (groupRatioAgrees_iff hrun htask one_pos).mpr rfl⟩

/-- The submission records the ratio 1, and the recalculation uses the ratio 2 of the group. -/
theorem groupRatio_disagrees :
    let groups : GroupRatios := { getGroupRatio := fun _ => 2 }
    let task := (videoRun groups).bind TaskResult.task
    task.bind (fun task => task.privateData.billingContext.map TaskBillingContext.groupRatio) = some 1 ∧
      task.map (fun task => tokenQuota (withGroups ratioSettings groups) task task.group 1000) = some 2000 := by
  decide +kernel

end

end LoveApi.Proofs
