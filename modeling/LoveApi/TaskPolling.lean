import LoveApi.TaskBilling

/-!
# Polling of asynchronous tasks

The writers of the `tasks` table: the sweep of timed-out tasks, the polling loop, and the fetch that a user triggers.
-/

namespace LoveApi

open Program Prog Go

def TaskStatus.empty : TaskStatus := .other ""

structure TaskInfo where
  taskID : String := ""
  status : TaskStatus
  reason : String := ""
  url : String := ""
  progress : String := ""
  totalTokens : Int := 0
deriving DecidableEq, Repr

def failTaskInfo (reason : String) : TaskInfo where
  status := .failure
  reason := reason

structure SunoDataResponse where
  taskID : String
  status : TaskStatus
  failReason : String := ""
  submitTime : Int := 0
  startTime : Int := 0
  finishTime : Int := 0
  data : String := ""
deriving DecidableEq, Repr

def channelTypeGemini : Nat := 24
def channelTypeVertexAi : Nat := 41

structure Channel where
  type : Nat := 0
  key : String := ""
deriving DecidableEq, Repr

/-- The upstream service of a platform: its answers, and how their bodies are read. The answer
about a task may differ from copy to copy, since time passes between two polls. -/
structure TaskAdaptor where
  fetchTask : Channel → String → Task → Except String String := fun _ _ _ => .error ""
  fetchTasks : Channel → List String → Except String (Nat × String) := fun _ _ => .error ""
  decodeTaskResponse : String → Option Task := fun _ => none
  parseTaskResult : String → Except String TaskInfo := fun _ => .error ""
  decodeGeneralError : String → Option (Option String) := fun _ => none
  decodeSunoResponse : String → Except String (Bool × List SunoDataResponse) := fun _ => .error ""
  redact : String → String := fun body => body
  adjustBillingOnComplete : Task → TaskInfo → Int := fun _ _ => 0

structure PollEnv where
  now : Time := 0
  getChannel : Int → Option Channel := fun _ => none
  getTaskAdaptor : TaskPlatform → Option TaskAdaptor := fun _ => none
  order : MapOrder := {}

namespace Task

def getUpstreamTaskID (task : Task) : String :=
  if task.privateData.upstreamTaskID ≠ "" then task.privateData.upstreamTaskID else task.taskID

def getResultURL (task : Task) : String :=
  if task.privateData.resultURL ≠ "" then task.privateData.resultURL else task.failReason

structure Snapshot where
  status : TaskStatus
  progress : String
  startTime : Time
  finishTime : Time
  failReason : String
  resultURL : String
  data : String
deriving DecidableEq

def snapshot (task : Task) : Snapshot :=
  ⟨task.status, task.progress, task.startTime, task.finishTime, task.failReason,
    task.privateData.resultURL, task.data⟩

end Task

abbrev TaskRow := Int × Task

abbrev TaskMap := String → Option TaskRow

section Writers

variable (cfg : Config) (settings : TaskSettings) (env : PollEnv)

/-- `UpdateWithStatus`: whether this caller won, or the error. -/
def updateWithStatus (id : Int) (task : Task) (fromStatus : TaskStatus) : Action Bool := do
  let rowsAffected ← exec (.updateTaskWithStatus id task fromStatus)
  return rowsAffected > 0

def taskBulkUpdateByID (ids : List Int) (params : TaskUpdates) : Action Unit :=
  if ids = [] then pure () else exec (.bulkUpdateTasks ids params)

def getTimedOutUnfinishedTasks (cutoff : Time) (limit : Nat) : Action (List TaskRow) := do
  match ← attempt (exec (.selectTimedOutTasks cutoff limit)) with
  | .ok tasks => return tasks
  | .error _ => return []

def getAllUnFinishSyncTasks (limit : Nat) : Action (List TaskRow) := do
  match ← attempt (exec (.selectUnfinishedTasks limit)) with
  | .ok tasks => return tasks
  | .error _ => return []

def getByTaskId (userId : Int) (taskId : String) : Action (Option TaskRow) :=
  if taskId = "" then pure none else exec (.selectTask userId taskId)

/-! ### The sweep -/

def isLegacy (task : Task) : Bool :=
  task.submitTime ≠ zeroTime && task.submitTime < startOfDay 0 (daysFromCivil 2026 2 22)

def legacyReason : String := "任务超时（旧系统遗留任务，不进行退款，请联系管理员）"

def timeoutReason : String := "任务超时（" ++ toString settings.taskTimeoutMinutes ++ "分钟）"

def sweptTask (task : Task) : Task :=
  { task with
    status := .failure
    progress := "100%"
    finishTime := env.now
    failReason := if isLegacy task then legacyReason else timeoutReason settings }

def sweepTask (row : TaskRow) : Action Unit := do
  let task := sweptTask settings env row.2
  match ← attempt (updateWithStatus row.1 task row.2.status) with
  | .ok true =>
    if !isLegacy row.2 ∧ task.quota ≠ 0 then refundTaskQuota cfg row.1 task else pure ()
  | _ => pure ()

def sweepTimedOutTasks : Action Unit :=
  if settings.taskTimeoutMinutes ≤ 0 then pure ()
  else do
    let tasks ← getTimedOutUnfinishedTasks (env.now - settings.taskTimeoutMinutes * 60) 100
    forM tasks (sweepTask cfg settings env)

/-! ### Video tasks -/

def buildProxyURL (taskID : String) : String :=
  settings.serverAddress ++ "/v1/videos/" ++ taskID ++ "/content"

def parseBody (adaptor : TaskAdaptor) (body : String) : Except String TaskInfo :=
  match adaptor.decodeTaskResponse body with
  | some t => .ok
    { taskID := t.taskID
      status := t.status
      url := t.getResultURL
      progress := t.progress
      reason := t.failReason }
  | none => adaptor.parseTaskResult body

/-- A result without a status is a failure, unless the body cannot be read. The rate limit of
the upstream service is no result at all. -/
def resolveEmptyStatus (adaptor : TaskAdaptor) (body : String) (info : TaskInfo) : Option TaskInfo :=
  if info.status ≠ .empty then some info
  else
    match adaptor.decodeGeneralError body with
    | none => some info
    | some none => some (failTaskInfo "upstream returned unrecognized message")
    | some (some code) => if code = "429" then none else some (failTaskInfo "upstream returned error")

def resultURL (task : Task) (info : TaskInfo) : String :=
  if hasPrefix info.url "data:" then buildProxyURL settings task.taskID
  else if info.url ≠ "" then info.url
  else buildProxyURL settings task.taskID

def applyTaskInfo (task : Task) (info : TaskInfo) : Option Task :=
  let progress := fun (p : String) => if info.progress ≠ "" then info.progress else p
  match info.status with
  | .submitted => some { task with status := .submitted, progress := progress "10%" }
  | .queued => some { task with status := .queued, progress := progress "20%" }
  | .inProgress => some { task with
      status := .inProgress
      progress := progress "30%"
      startTime := if task.startTime = zeroTime then env.now else task.startTime }
  | .success => some { task with
      status := .success
      progress := progress "100%"
      finishTime := if task.finishTime = zeroTime then env.now else task.finishTime
      privateData := { task.privateData with resultURL := resultURL settings task info } }
  | .failure => some { task with
      status := .failure
      progress := "100%"
      finishTime := if task.finishTime = zeroTime then env.now else task.finishTime
      failReason := info.reason }
  | _ => none

def settleTaskBillingOnComplete (adaptor : TaskAdaptor) (id : Int) (task : Task) (info : TaskInfo) :
    Action Task :=
  if task.privateData.billingContext.any (·.perCallBilling) then pure task
  else if adaptor.adjustBillingOnComplete task info > 0 then
    recalculateTaskQuota cfg id task (adaptor.adjustBillingOnComplete task info)
  else if info.totalTokens > 0 then recalculateTaskQuotaByTokens cfg settings id task info.totalTokens
  else pure task

def billTask (adaptor : TaskAdaptor) (id : Int) (task : Task) (info : TaskInfo) : Action Task :=
  if task.status = .success then settleTaskBillingOnComplete cfg settings adaptor id task info
  else if task.status = .failure ∧ task.quota ≠ 0 then do
    refundTaskQuota cfg id task
    return task
  else pure task

/-- Writes the copy `next` of a task that was read as `task`, and bills it. A transition to a
final status is billed only by the process that wins it. -/
def writeTask (adaptor : TaskAdaptor) (id : Int) (task next : Task) (info : TaskInfo) : Action Task :=
  if next.status.finished ∧ task.status ≠ next.status then do
    match ← attempt (updateWithStatus id next task.status) with
    | .ok true => billTask cfg settings adaptor id next info
    | _ => pure next
  else if task.snapshot ≠ next.snapshot then do
    let _ ← attempt (updateWithStatus id next task.status)
    billTask cfg settings adaptor id next info
  else billTask cfg settings adaptor id next info

def pollVideoTask (adaptor : TaskAdaptor) (ch : Channel) (row : TaskRow) :
    Action (Except String Unit × Task) :=
  let task := row.2
  let key := if task.privateData.key ≠ "" then task.privateData.key else ch.key
  match adaptor.fetchTask ch key task with
  | .error e => pure (.error ("fetchTask failed: " ++ e), task)
  | .ok body =>
    match parseBody adaptor body with
    | .error e => pure (.error ("parseTaskResult failed: " ++ e), task)
    | .ok info =>
      let polled := { task with data := adaptor.redact body }
      match resolveEmptyStatus adaptor body info with
      | none => pure (.ok (), polled)
      | some info =>
        match applyTaskInfo settings env polled info with
        | none => pure (.error "unknown task status", { polled with status := info.status })
        | some next => do
          let next ← writeTask cfg settings adaptor row.1 task next info
          return (.ok (), next)

def updateVideoSingleTask (adaptor : TaskAdaptor) (ch : Channel) (taskM : TaskMap) (taskId : String) :
    Action TaskMap :=
  match taskM taskId with
  | none => pure taskM
  | some row => do
    let polled ← pollVideoTask cfg settings env adaptor ch row
    return Function.update taskM taskId (some (row.1, polled.2))

def failedIDs (taskM : TaskMap) (taskIds : List String) : List Int :=
  taskIds.filterMap fun upstreamID => (taskM upstreamID).map Prod.fst

def failChannel (failReason : String) (taskM : TaskMap) (taskIds : List String) : Action TaskMap := do
  let _ ← attempt (taskBulkUpdateByID (failedIDs taskM taskIds)
    { status := .failure, progress := "100%", failReason := some failReason })
  return taskM

def updateVideoTasks (platform : TaskPlatform) (taskM : TaskMap) (entry : Int × List String) :
    Action TaskMap :=
  match env.getChannel entry.1 with
  | none => failChannel ("Failed to get channel info, channel ID: " ++ toString entry.1) taskM entry.2
  | some ch =>
    match env.getTaskAdaptor platform with
    | none => pure taskM
    | some adaptor => entry.2.foldlM (updateVideoSingleTask cfg settings env adaptor ch) taskM

/-! ### Suno tasks -/

def unixToTime (sec : Int) : Option Time := if sec ≤ 0 then none else some sec

def taskNeedsUpdate (oldTask : Task) (newTask : SunoDataResponse) : Bool :=
  unixToTime newTask.submitTime ≠ some oldTask.submitTime ||
  unixToTime newTask.startTime ≠ some oldTask.startTime ||
  unixToTime newTask.finishTime ≠ some oldTask.finishTime ||
  oldTask.status ≠ newTask.status ||
  oldTask.failReason ≠ newTask.failReason ||
  (oldTask.status.finished && oldTask.progress ≠ "100%") ||
  !(oldTask.data.toUTF8.toList.isPerm newTask.data.toUTF8.toList)

def sunoFails (task : Task) (item : SunoDataResponse) : Bool :=
  item.failReason ≠ "" || task.status = .failure

def applySunoItem (task : Task) (item : SunoDataResponse) : Task :=
  let updated := { task with
    status := if item.status ≠ .empty then item.status else task.status
    failReason := if item.failReason ≠ "" then item.failReason else task.failReason
    submitTime := (unixToTime item.submitTime).getD task.submitTime
    startTime := (unixToTime item.startTime).getD task.startTime
    finishTime := (unixToTime item.finishTime).getD task.finishTime
    data := item.data }
  if sunoFails updated item || item.status = .success then { updated with progress := "100%" } else updated

def saveSunoTask (id : Int) (task : Task) (item : SunoDataResponse) : Action Unit :=
  if sunoFails task item then do
    refundTaskQuota cfg id task
    let _ ← attempt (exec (.saveTask id task))
  else do
    let _ ← attempt (exec (.saveTask id task))

/-- The items of a response. An item whose task is not in `taskM` ends the polling loop, because
a nil pointer is dereferenced. -/
def updateSunoItems : TaskMap → List SunoDataResponse → Action (Option TaskMap)
  | taskM, [] => pure (some taskM)
  | taskM, item :: items =>
    match taskM item.taskID with
    | none => pure none
    | some (id, task) =>
      if taskNeedsUpdate task item then do
        saveSunoTask cfg id (applySunoItem task item) item
        updateSunoItems (Function.update taskM item.taskID (some (id, applySunoItem task item))) items
      else updateSunoItems taskM items

def fetchSunoItems (adaptor : TaskAdaptor) (ch : Channel) (taskIds : List String) : List SunoDataResponse :=
  match adaptor.fetchTasks ch taskIds with
  | .error _ => []
  | .ok (statusCode, body) =>
    if statusCode ≠ 200 then []
    else
      match adaptor.decodeSunoResponse body with
      | .error _ => []
      | .ok (isSuccess, items) => if isSuccess then items else []

def updateSunoTasks (taskM : TaskMap) (entry : Int × List String) : Action (Option TaskMap) :=
  match env.getChannel entry.1 with
  | none => do
    return some (← failChannel ("获取渠道信息失败，请联系管理员，渠道ID：" ++ toString entry.1) taskM entry.2)
  | some ch =>
    match env.getTaskAdaptor .suno with
    | none => pure (some taskM)
    | some adaptor => updateSunoItems cfg taskM (fetchSunoItems adaptor ch entry.2)

def updateAllSunoTasks : TaskMap → List (Int × List String) → Action Bool
  | _, [] => pure true
  | taskM, entry :: entries => do
    match ← updateSunoTasks cfg env taskM entry with
    | none => pure false
    | some taskM => updateAllSunoTasks taskM entries

/-! ### The round -/

def dispatchPlatformUpdate (platform : TaskPlatform) (taskChannelM : List (Int × List String))
    (taskM : TaskMap) : Action Bool :=
  match platform with
  | .midjourney => pure true
  | .suno => updateAllSunoTasks cfg env taskM (env.order.range taskChannelM)
  | .video _ => do
    let _ ← (env.order.range taskChannelM).foldlM (updateVideoTasks cfg settings env platform) taskM
    return true

def taskMap (tasks : List TaskRow) : TaskMap := fun upstreamID =>
  (tasks.filter fun row => row.2.getUpstreamTaskID = upstreamID).getLast?

/-- The tasks of one platform. Tasks without an upstream id become failed, without a refund. -/
def pollPlatform (entry : TaskPlatform × List TaskRow) : Action Bool := do
  let named := entry.2.filter fun row => row.2.getUpstreamTaskID ≠ ""
  let nullTaskIds := (entry.2.filter fun row => row.2.getUpstreamTaskID = "").map Prod.fst
  let _ ← attempt (taskBulkUpdateByID nullTaskIds { status := .failure, progress := "100%" })
  let taskChannelM := groups (named.map fun row => (row.2.channelId, row.2.getUpstreamTaskID))
  dispatchPlatformUpdate cfg settings env entry.1 taskChannelM (taskMap named)

def pollPlatforms : List (TaskPlatform × List TaskRow) → Action Unit
  | [] => pure ()
  | entry :: entries => do
    if ← pollPlatform cfg settings env entry then pollPlatforms entries else pure ()

def pollRound : Action Unit := do
  let allTasks ← getAllUnFinishSyncTasks settings.taskQueryLimit
  let platformTask := groups (allTasks.map fun row => (row.2.platform, row))
  pollPlatforms cfg settings env (env.order.range platformTask)

/-! ### The fetch of a user -/

def applyRealtime (task : Task) (info : TaskInfo) : Task :=
  let status := if info.status ≠ .empty then info.status else task.status
  { task with
    status
    progress := if info.progress ≠ "" then info.progress else task.progress
    privateData := { task.privateData with
      resultURL :=
        if hasPrefix info.url "data:" then task.privateData.resultURL
        else if info.url ≠ "" then info.url
        else if status = .success then buildProxyURL settings task.taskID
        else task.privateData.resultURL } }

def tryRealtimeFetch (row : TaskRow) : Action Unit :=
  match env.getChannel row.2.channelId with
  | none => pure ()
  | some ch =>
    if ch.type ≠ channelTypeVertexAi ∧ ch.type ≠ channelTypeGemini then pure ()
    else
      match env.getTaskAdaptor (.video (toString ch.type)) with
      | none => pure ()
      | some adaptor =>
        match adaptor.fetchTask ch ch.key row.2 with
        | .error _ => pure ()
        | .ok body =>
          match adaptor.parseTaskResult body with
          | .error _ => pure ()
          | .ok info => do
            let next := applyRealtime settings row.2 info
            if row.2.snapshot ≠ next.snapshot then do
              let _ ← attempt (updateWithStatus row.1 next row.2.status)
            else pure ()

def realtimeFetch (userId : Int) (taskId : String) : Action Unit := do
  match ← attempt (getByTaskId userId taskId) with
  | .ok (some row) => tryRealtimeFetch settings env row
  | _ => pure ()

end Writers

end LoveApi
