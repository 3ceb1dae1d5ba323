import LoveApi.Billing
import LoveApi.ChannelCache
import LoveApi.TaskPolling

/-!
# Midjourney requests and their poller

A request is passed on to the upstream service and stored as a task with its price, and the user is charged in a
deferred function.
-/

namespace LoveApi

open Program Prog Go

/-! ### Requests and answers -/

structure MidjourneyProperties where
  imageUrl : Option String := none
  status : Option String := none
deriving DecidableEq, Repr

structure MidjourneyResponse where
  code : Int
  description : String := ""
  properties : Option MidjourneyProperties := none
  result : String := ""
deriving DecidableEq, Repr

structure MidjourneyRequest where
  prompt : String := ""
  customId : String := ""
  action : String := ""
  index : Int := 0
  taskId : String := ""
  content : String := ""
deriving DecidableEq, Repr

structure SwapFaceRequest where
  sourceBase64 : String := ""
  targetBase64 : String := ""
deriving DecidableEq, Repr

inductive MidjourneyMode
  | imagine
  | describe
  | blend
  | change
  | simpleChange
  | action
  | modal
  | shorten
  | upload
  | video
  | edits
  | unknown
deriving DecidableEq, Repr

inductive MidjourneyStop
  | response (r : MidjourneyResponse)
  | panic
deriving DecidableEq, Repr

abbrev MidjourneyRelay := ExceptT MidjourneyStop (Prog Req Req.Resp)

def midjourneyErrorWrapper (code : Int) (desc : String) : MidjourneyStop :=
  .response { code := code, description := desc }

def mjRequestError : Int := 4

def mjActionImagine : String := "IMAGINE"
def mjActionDescribe : String := "DESCRIBE"
def mjActionBlend : String := "BLEND"
def mjActionUpscale : String := "UPSCALE"
def mjActionVariation : String := "VARIATION"
def mjActionReRoll : String := "REROLL"
def mjActionInPaint : String := "INPAINT"
def mjActionModal : String := "MODAL"
def mjActionZoom : String := "ZOOM"
def mjActionCustomZoom : String := "CUSTOM_ZOOM"
def mjActionShorten : String := "SHORTEN"
def mjActionHighVariation : String := "HIGH_VARIATION"
def mjActionLowVariation : String := "LOW_VARIATION"
def mjActionPan : String := "PAN"
def mjActionSwapFace : String := "SWAP_FACE"
def mjActionUpload : String := "UPLOAD"
def mjActionVideo : String := "VIDEO"
def mjActionEdits : String := "EDITS"

structure MidjourneyChannel where
  status : Int := channelStatusEnabled
deriving DecidableEq, Repr

def covertMjpActionToModelName (mjAction : String) : String :=
  if mjAction = mjActionSwapFace then "swap_face" else "mj_" ++ toLower mjAction

/-! ### The action of a request -/

def part (splits : List String) (i : Nat) : Except MidjourneyStop String :=
  match splits[i]? with
  | some s => .ok s
  | none => .error .panic

def customIndex (splits : List String) : Except MidjourneyStop Int := do
  match atoi (← part splits 3) with
  | some index => return index
  | none => throw (midjourneyErrorWrapper mjRequestError "index_parse_failed")

/-- Reads the action off a custom id such as `MJ::JOB::upsample::2::3dbbd469`. -/
def coverPlusActionToNormalAction (req : MidjourneyRequest) : Except MidjourneyStop MidjourneyRequest :=
  if req.customId = "" then throw (midjourneyErrorWrapper mjRequestError "custom_id_is_required")
  else do
    let splits := split req.customId "::"
    let kind ← part splits 1
    let action ← if kind = "JOB" then part splits 2 else pure kind
    if action = "" then throw (midjourneyErrorWrapper mjRequestError "unknown_action")
    else if contains action "upsample" then
      return { req with index := ← customIndex splits, action := mjActionUpscale }
    else if contains action "variation" then
      if action = "variation" then
        return { req with index := ← customIndex splits, action := mjActionVariation }
      else if action = "low_variation" then return { req with index := 1, action := mjActionLowVariation }
      else if action = "high_variation" then return { req with index := 1, action := mjActionHighVariation }
      else return { req with index := 1 }
    else if contains action "pan" then return { req with index := 1, action := mjActionPan }
    else if contains action "reroll" then return { req with index := 1, action := mjActionReRoll }
    else if action = "Outpaint" then return { req with index := 1, action := mjActionZoom }
    else if action = "CustomZoom" then return { req with index := 1, action := mjActionCustomZoom }
    else if action = "Inpaint" then return { req with index := 1, action := mjActionInPaint }
    else throw (midjourneyErrorWrapper mjRequestError ("unknown_action:" ++ req.customId))

def convertSimpleChangeParams (content : String) : Except MidjourneyStop (Option MidjourneyRequest) :=
  match split content " " with
  | [taskId, change] =>
    let indexed := fun (action : String) (rest : List Char) =>
      match rest with
      | [] => Except.error MidjourneyStop.panic
      | digit :: _ =>
        match atoi (String.ofList [digit]) with
        | none => .ok none
        | some index =>
          if index < 1 ∨ index > 4 then .ok none else .ok (some { taskId, action, index })
    match (toLower change).toList with
    | [] => .error .panic
    | 'u' :: rest => indexed mjActionUpscale rest
    | 'v' :: rest => indexed mjActionVariation rest
    | ['r'] => .ok (some { taskId, action := mjActionReRoll })
    | _ => .ok none
  | _ => .ok none

def normalizeSubmit (mode : MidjourneyMode) (req : MidjourneyRequest) :
    Except MidjourneyStop (MidjourneyMode × MidjourneyRequest) :=
  match mode with
  | .action => do return (.change, ← coverPlusActionToNormalAction req)
  | .video => .ok (.video, { req with action := mjActionVideo })
  | mode => .ok (mode, req)

def fixedAction : MidjourneyMode → Option String
  | .imagine => some mjActionImagine
  | .describe => some mjActionDescribe
  | .edits => some mjActionEdits
  | .shorten => some mjActionShorten
  | .blend => some mjActionBlend
  | .upload => some mjActionUpload
  | _ => none

def originOf (mode : MidjourneyMode) (req : MidjourneyRequest) : Except MidjourneyStop (String × String) :=
  match mode with
  | .change =>
    if req.taskId = "" then throw (midjourneyErrorWrapper mjRequestError "task_id_is_required")
    else if req.action = "" then throw (midjourneyErrorWrapper mjRequestError "action_is_required")
    else if req.index = 0 then throw (midjourneyErrorWrapper mjRequestError "index_is_required")
    else .ok (req.taskId, req.action)
  | .simpleChange =>
    if req.content = "" then throw (midjourneyErrorWrapper mjRequestError "content_is_required")
    else do
      match ← convertSimpleChangeParams req.content with
      | none => throw (midjourneyErrorWrapper mjRequestError "content_parse_failed")
      | some params => return (params.taskId, params.action)
  | .modal => .ok (req.taskId, mjActionModal)
  | .video =>
    if req.taskId = "" then throw (midjourneyErrorWrapper mjRequestError "task_id_is_required")
    else .ok (req.taskId, mjActionVideo)
  | _ => .ok ("", req.action)

/-! ### The handlers -/

/-- What a handler sees besides the database: the clock in milliseconds, the channels, the price of
the call, and the answer of the upstream service with its status code. -/
structure MidjourneyEnv where
  now : Int := 0
  startTime : Int := 0
  mjActionCheckSuccessEnabled : Bool := true
  getChannelById : Int → Option MidjourneyChannel := fun _ => some {}
  modelPriceHelperPerCall : Except String Int
  doMidjourneyHttpRequest : Except MidjourneyResponse (Nat × MidjourneyResponse)
  copyFails : Bool := false

section Handlers

variable (cfg : Config) (env : MidjourneyEnv) (info : RelayInfo)

def failedWith (e : String) : MidjourneyStop := midjourneyErrorWrapper 4 e

def Midjourney.beforeCreate (now : Int) (task : Midjourney) : Midjourney :=
  let fill := fun (t : Int) => if t = 0 then now else t
  { task with
    submitTime := fill task.submitTime
    startTime := fill task.startTime
    finishTime := fill task.finishTime }

/-- The task that a request is based on has to be there, to have succeeded, and to be of a channel in
use. Its channel is the one that gets the request. -/
def findOrigin (mode : MidjourneyMode) (mjId : String) : MidjourneyRelay Int := do
  match ← ExceptT.lift (exec (.selectMidjourney info.userId mjId)).run with
  | .ok (some (_, originTask)) =>
    if env.mjActionCheckSuccessEnabled ∧ originTask.status ≠ "SUCCESS" ∧ mode ≠ .modal then
      throw (midjourneyErrorWrapper mjRequestError "task_status_not_success")
    else
      match env.getChannelById originTask.channelId with
      | none => throw (midjourneyErrorWrapper mjRequestError "get_channel_info_failed")
      | some channel =>
        if channel.status ≠ channelStatusEnabled then
          throw (midjourneyErrorWrapper mjRequestError "该任务所属渠道已被禁用")
        else return originTask.channelId
  | _ => throw (midjourneyErrorWrapper mjRequestError "task_not_found")

def resolveSubmit (mode : MidjourneyMode) (req : MidjourneyRequest) : MidjourneyRelay (String × Int) :=
  match normalizeSubmit mode req with
  | .error e => throw e
  | .ok (mode, req) =>
    match fixedAction mode with
    | some action =>
      if mode = .imagine ∧ req.prompt = "" then
        throw (midjourneyErrorWrapper mjRequestError "prompt_is_required")
      else return (action, info.channelId)
    | none =>
      if req.taskId = "" then return (req.action, info.channelId)
      else
        match originOf mode req with
        | .error e => throw e
        | .ok (mjId, action) => do return (action, ← findOrigin env info mode mjId)

/-- The price of a call, the quota of the user, and the answer of the upstream service. -/
def sendMidjourney (checkQuota : Bool) : MidjourneyRelay (Int × Nat × MidjourneyResponse) := do
  match env.modelPriceHelperPerCall with
  | .error e => throw (failedWith e)
  | .ok quota =>
    let userQuota ← mapError failedWith (getUserQuota info.userId)
    if checkQuota ∧ userQuota - quota < 0 then throw (failedWith "quota_not_enough")
    else
      match env.doMidjourneyHttpRequest with
      | .error r => throw (.response r)
      | .ok (statusCode, r) => return (quota, statusCode, r)

def chargeMidjourney (action : String) (quota : Int) : Action Unit := do
  let _ ← attempt (postConsumeQuota cfg info quota)
  recordConsumeLog cfg
    { userId := info.userId
      type := .consume
      modelName := covertMjpActionToModelName action
      quota := quota
      channelId := info.channelId
      tokenId := info.tokenId
      group := info.usingGroup }
  updateUserUsedQuotaAndRequestCount cfg info.userId quota

def deferredCharge (charged : Bool) (action : String) (quota : Int) : MidjourneyRelay Unit :=
  if charged then do
    let _ ← ExceptT.lift (chargeMidjourney cfg info action quota).run
  else pure ()

def freeAction (action : String) : Bool := action = mjActionInPaint || action = mjActionCustomZoom

def acceptedCode (code : Int) : Bool := code = 1 || code = 21 || code = 22

/-- The code after an answer about a task that exists already and has succeeded. -/
def finalCode (r : MidjourneyResponse) : Int :=
  match r.code, r.properties with
  | 21, some ⟨some _, some "SUCCESS"⟩ => 1
  | code, _ => code

def adoptExisting (now : Int) (r : MidjourneyResponse) (task : Midjourney) : Midjourney :=
  match r.code, r.properties with
  | 21, some ⟨some imageUrl, some status⟩ =>
    if status = "SUCCESS" then
      { task with imageUrl, status, progress := "100%", startTime := now, finishTime := now }
    else { task with imageUrl, status }
  | _, _ => task

def submittedTask (action : String) (channelId quota : Int) (r : MidjourneyResponse) : Midjourney :=
  let task : Midjourney :=
    { code := r.code
      userId := info.userId
      action := action
      mjId := r.result
      submitTime := env.now
      channelId := channelId
      quota := quota
      failReason := if acceptedCode r.code then "" else r.description }
  let task := adoptExisting env.now r task
  if finalCode r = 1 ∧ action = mjActionUpload then { task with progress := "100%", status := "SUCCESS" }
  else task

def storeMidjourney (task : Midjourney) (charged : Bool) (insertFailed : MidjourneyStop) :
    MidjourneyRelay Unit := do
  let stored ← ExceptT.lift (exec (.createMidjourney (task.beforeCreate env.now))).run
  deferredCharge cfg info charged task.action task.quota
  match stored with
  | .error _ => throw insertFailed
  | .ok _ => if env.copyFails then throw (failedWith "copy_response_body_failed") else pure ()

def relayMidjourneySubmit (mode : MidjourneyMode) (body : Option MidjourneyRequest) : MidjourneyRelay Unit :=
  match body with
  | none => throw (midjourneyErrorWrapper mjRequestError "bind_request_body_failed")
  | some req => do
    let (action, channelId) ← resolveSubmit env info mode req
    let consumeQuota := !freeAction action
    let (quota, statusCode, r) ← sendMidjourney env info consumeQuota
    -- A channel that cannot be read is a nil pointer here, and the panic runs the deferred function.
    if r.code = 3 ∧ env.getChannelById channelId = none then do
      deferredCharge cfg info (consumeQuota && statusCode = 200) action quota
      throw .panic
    else
      let consumeQuota := consumeQuota && acceptedCode r.code
      storeMidjourney cfg env info (submittedTask env info action channelId quota r)
        (consumeQuota && statusCode = 200) (failedWith "insert_midjourney_task_failed")

def swapFaceTask (quota : Int) (r : MidjourneyResponse) : Midjourney :=
  { code := r.code
    userId := info.userId
    action := mjActionSwapFace
    mjId := r.result
    submitTime := env.startTime
    startTime := env.now
    channelId := info.channelId
    quota := quota }

def relaySwapFace (body : Option SwapFaceRequest) : MidjourneyRelay Unit :=
  match body with
  | none => throw (midjourneyErrorWrapper mjRequestError "bind_request_body_failed")
  | some req =>
    if req.sourceBase64 = "" ∨ req.targetBase64 = "" then
      throw (midjourneyErrorWrapper mjRequestError "sour_base64_and_target_base64_is_required")
    else do
      let (quota, statusCode, r) ← sendMidjourney env info true
      storeMidjourney cfg env info (swapFaceTask env info quota r) (statusCode = 200 && r.code = 1)
        (midjourneyErrorWrapper mjRequestError "insert_midjourney_task_failed")

end Handlers

structure MidjourneyContext where
  userId : Int
  tokenId : Int := 0
  tokenKey : String := ""
  requestId : String := ""
  isPlayground : Bool := false
  channelId : Int := 0
  usingGroup : String := ""
deriving DecidableEq, Repr

/-- `GenRelayInfo`. No billing session is opened for a Midjourney request, so the fields that mirror
one keep their zero values. -/
def genRelayInfo (c : MidjourneyContext) : RelayInfo :=
  { userId := c.userId
    tokenId := c.tokenId
    tokenKey := c.tokenKey
    requestId := c.requestId
    isPlayground := c.isPlayground
    channelId := c.channelId
    usingGroup := c.usingGroup }

inductive MidjourneyBody
  | submit (mode : MidjourneyMode) (body : Option MidjourneyRequest)
  | swapFace (body : Option SwapFaceRequest)
deriving DecidableEq, Repr

def relayMidjourney (cfg : Config) (env : MidjourneyEnv) (c : MidjourneyContext) :
    MidjourneyBody → MidjourneyRelay Unit
  | .submit mode body => relayMidjourneySubmit cfg env (genRelayInfo c) mode body
  | .swapFace body => relaySwapFace cfg env (genRelayInfo c) body

/-- What the upstream service says about a task. The video URLs are their JSON text. -/
structure MidjourneyDto where
  mjId : String
  promptEn : String := ""
  state : String := ""
  submitTime : Int := 0
  startTime : Int := 0
  finishTime : Int := 0
  imageUrl : String := ""
  videoUrl : String := ""
  videoUrls : String := "null"
  status : String := ""
  progress : String := ""
  failReason : String := ""
deriving DecidableEq, Repr

def msToTime (ms : Int) : Int := if ms ≤ 0 then 0 else ms

/-! ### The callback -/

/-- The task as `RelayMidjourneyNotify` saves it; `BeforeSave` clears the prompt. -/
def notifiedTask (task : Midjourney) (dto : MidjourneyDto) : Midjourney :=
  { task with
    progress := dto.progress
    promptEn := ""
    state := dto.state
    submitTime := msToTime dto.submitTime
    startTime := msToTime dto.startTime
    finishTime := msToTime dto.finishTime
    imageUrl := dto.imageUrl
    videoUrl := dto.videoUrl
    videoUrls := dto.videoUrls
    status := dto.status
    failReason := dto.failReason }

/-- Saves what a callback says about a task, and bills nothing. A body that cannot be read is `none`. -/
def relayMidjourneyNotify (body : Option MidjourneyDto) : MidjourneyRelay Unit :=
  match body with
  | none => throw (midjourneyErrorWrapper 4 "bind_request_body_failed")
  | some dto => do
    match ← ExceptT.lift (exec (.selectMidjourneyByMjId dto.mjId)).run with
    | .ok (some (id, task)) =>
      mapError (fun _ => midjourneyErrorWrapper 4 "update_midjourney_task_failed")
        (exec (.saveMidjourney id (notifiedTask task dto)))
    | _ => throw (midjourneyErrorWrapper 4 "midjourney_task_not_found")

/-! ### The poller -/

/-- What one round of the poller sees besides the database. An answer of the upstream service is its
status code and its items, if the body can be read. -/
structure MidjourneyPollEnv where
  now : Int := 0
  getChannel : Int → Option Channel := fun _ => none
  listByCondition : Channel → List String → Except String (Nat × Except String (List MidjourneyDto)) :=
    fun _ _ => .error ""
  order : MapOrder := {}

abbrev MidjourneyRow := Int × Midjourney

abbrev MidjourneyMap := String → Option MidjourneyRow

section Poller

variable (cfg : Config) (env : MidjourneyPollEnv)

def videoUrlsColumn (dto : MidjourneyDto) : String :=
  if dto.videoUrls = "null" ∨ dto.videoUrls = "[]" then "" else dto.videoUrls

def overAnHour (task : Midjourney) : Bool :=
  task.submitTime = 0 || env.now - task.submitTime > 60 * 60 * 1000

def timeOutItem (task : Midjourney) (item : MidjourneyDto) : MidjourneyDto :=
  if overAnHour env task && task.progress ≠ "100%" then
    { item with failReason := "上游任务超时（超过1小时）", status := "FAILURE" }
  else item

def checkMjTaskNeedUpdate (oldTask : Midjourney) (newTask : MidjourneyDto) : Bool :=
  oldTask.code ≠ 1 || oldTask.progress ≠ newTask.progress || oldTask.promptEn ≠ newTask.promptEn ||
  oldTask.state ≠ newTask.state || oldTask.submitTime ≠ newTask.submitTime ||
  oldTask.startTime ≠ newTask.startTime || oldTask.finishTime ≠ newTask.finishTime ||
  oldTask.imageUrl ≠ newTask.imageUrl || oldTask.status ≠ newTask.status ||
  oldTask.failReason ≠ newTask.failReason || oldTask.finishTime ≠ newTask.finishTime ||
  (oldTask.progress ≠ "100%" && newTask.failReason ≠ "") || oldTask.videoUrl ≠ newTask.videoUrl ||
  oldTask.videoUrls ≠ videoUrlsColumn newTask

def applyMjItem (task : Midjourney) (item : MidjourneyDto) : Midjourney :=
  { task with
    code := 1
    progress := item.progress
    promptEn := item.promptEn
    state := item.state
    submitTime := msToTime item.submitTime
    startTime := msToTime item.startTime
    finishTime := msToTime item.finishTime
    imageUrl := item.imageUrl
    status := item.status
    failReason := item.failReason
    videoUrl := item.videoUrl
    videoUrls := videoUrlsColumn item }

def mjFailed (item : MidjourneyDto) : Bool :=
  (item.progress ≠ "100%" && item.failReason ≠ "") || (item.progress = "100%" && item.status = "FAILURE")

/-- The copy that is written: a failed task is done, and `BeforeSave` clears the prompt. -/
def polledTask (task : Midjourney) (item : MidjourneyDto) : Midjourney :=
  let task := applyMjItem task item
  { task with
    progress := if mjFailed item then "100%" else task.progress
    promptEn := "" }

def mjUpdateWithStatus (id : Int) (task : Midjourney) (fromStatus : String) : Action Bool := do
  let rowsAffected ← exec (.updateMidjourneyWithStatus id task fromStatus)
  return rowsAffected > 0

def refundMidjourney (id : Int) (task : Midjourney) : Action Unit := do
  let _ ← attempt (increaseUserQuota cfg task.userId task.quota true
    (some ⟨id, .refund, .midjourney, -task.quota⟩))
  recordTaskBillingLog cfg
    { userId := task.userId
      type := .refund
      modelName := covertMjpActionToModelName task.action
      quota := task.quota
      channelId := task.channelId }

def saveMjTask (id : Int) (task : Midjourney) (preStatus : String) (shouldReturnQuota : Bool) :
    Action Unit := do
  match ← attempt (mjUpdateWithStatus id task preStatus) with
  | .ok true => if shouldReturnQuota then refundMidjourney cfg id task else pure ()
  | _ => pure ()

/-- The items of one answer; `none` if one is about a task that is not in the map, which is a nil
pointer and ends the loop. -/
def updateMjItems : MidjourneyMap → List MidjourneyDto → Action (Option MidjourneyMap)
  | taskM, [] => pure (some taskM)
  | taskM, responseItem :: items =>
    match taskM responseItem.mjId with
    | none => pure none
    | some (id, task) =>
      let item := timeOutItem env task responseItem
      if checkMjTaskNeedUpdate task item then do
        let next := polledTask task item
        saveMjTask cfg id next task.status (mjFailed item && task.quota ≠ 0)
        updateMjItems (Function.update taskM item.mjId (some (id, next))) items
      else updateMjItems taskM items

def fetchMjItems (ch : Channel) (taskIds : List String) : List MidjourneyDto :=
  match env.listByCondition ch taskIds with
  | .error _ => []
  | .ok (statusCode, body) =>
    if statusCode ≠ 200 then []
    else
      match body with
      | .error _ => []
      | .ok items => items

/-- The tasks of a channel. Those of a channel that cannot be read become failed, without a refund. -/
def updateMjChannel (taskM : MidjourneyMap) (entry : Int × List String) : Action (Option MidjourneyMap) :=
  match env.getChannel entry.1 with
  | none => do
    let _ ← attempt (exec (.bulkUpdateMidjourneys (fun _ task => task.mjId ∈ entry.2)
      { status := "FAILURE"
        progress := "100%"
        failReason := some ("获取渠道信息失败，请联系管理员，渠道ID：" ++ toString entry.1) }))
    return some taskM
  | some ch => updateMjItems cfg env taskM (fetchMjItems env ch entry.2)

def updateMjChannels : MidjourneyMap → List (Int × List String) → Action Bool
  | _, [] => pure true
  | taskM, entry :: entries => do
    match ← updateMjChannel cfg env taskM entry with
    | none => pure false
    | some taskM => updateMjChannels taskM entries

def getAllUnFinishTasks : Action (List MidjourneyRow) := do
  match ← attempt (exec .selectUnfinishedMidjourneys) with
  | .ok tasks => return tasks
  | .error _ => return []

def namedTasks (tasks : List MidjourneyRow) : List MidjourneyRow := tasks.filter fun row => row.2.mjId ≠ ""

def midjourneyMap (tasks : List MidjourneyRow) : MidjourneyMap := fun mjId =>
  ((namedTasks tasks).filter fun row => row.2.mjId = mjId).getLast?

/-- The upstream ids of the copies by channel, in the order in which the channels are visited. -/
def midjourneyChannels (tasks : List MidjourneyRow) : List (Int × List String) :=
  env.order.range (groups ((namedTasks tasks).map fun row => (row.2.channelId, row.2.mjId)))

def failNullTasks (tasks : List MidjourneyRow) : Action Unit :=
  let nullTaskIds := (tasks.filter fun row => row.2.mjId = "").map Prod.fst
  if nullTaskIds = [] then pure ()
  else do
    let _ ← attempt (exec (.bulkUpdateMidjourneys (fun id _ => id ∈ nullTaskIds)
      { status := "FAILURE", progress := "100%" }))

/-- One round of `UpdateMidjourneyTaskBulk`; `false` if the loop has ended. -/
def updateMidjourneyTaskBulk : Action Bool := do
  let tasks ← getAllUnFinishTasks
  failNullTasks tasks
  updateMjChannels cfg env (midjourneyMap tasks) (midjourneyChannels env tasks)

end Poller

end LoveApi
