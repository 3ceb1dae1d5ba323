import LoveApi.Relay

/-!
# The submission of a task

`RelayTask` looks up the task that a request continues (`ResolveOriginTask`), which locks the request to the channel of
that task and takes over its ratios.
-/

namespace LoveApi

open Program Go

def taskActionRemix : String := "remixGenerate"

structure TaskError where
  code : String
  message : String
  statusCode : Int
  localError : Bool := false
deriving DecidableEq, Repr

def taskErrorWrapper (err code : String) (statusCode : Int) : TaskError where
  code := code
  message := err
  statusCode := statusCode

def taskErrorWrapperLocal (err code : String) (statusCode : Int) : TaskError :=
  { taskErrorWrapper err code statusCode with localError := true }

/-- The lookup of the origin task ends with an error, or with a panic: the channel of a record that has none is read. -/
inductive TaskFailure
  | taskError (err : TaskError)
  | nilPointer
deriving DecidableEq, Repr

structure ChannelMeta where
  channelId : Int
  channelType : Int := 0
  apiKey : String := ""
  upstreamModelName : String := ""
deriving DecidableEq, Repr

/-- The record of a request for a task. `billing` is the quota that was taken in advance. -/
structure TaskRelayInfo extends PricingInfo where
  userId : Int
  tokenId : Int := 0
  isAdmin : Bool := false
  action : String := ""
  originTaskID : String := ""
  publicTaskID : String := ""
  lockedChannel : Option Int := none
  channelMeta : Option ChannelMeta := none
  billing : Option Int := none
  billingSource : Option BillingSource := none
  subscriptionId : Int := 0
deriving DecidableEq, Repr

structure TaskContext extends RetryContext where
  originalModel : String := ""
  channelType : Int := 0
  channelKey : String := ""
deriving DecidableEq, Repr

structure TaskData where
  model : Option String := none
  seconds : Option String := none
  size : Option String := none
deriving DecidableEq, Repr

/-- A channel as the lookup of the origin task sees it, with its next key or the error and status of having none. -/
structure OriginChannel where
  status : Int := channelStatusEnabled
  channelType : Int := 0
  getNextEnabledKey : Except (String × Int) String := .ok ""

/-- What an attempt meets: the platform of the channel and whether it has an adaptor, the answers of the adaptor, of the
billing and of the upstream service, and the orders in which maps are visited. -/
structure Submission where
  platform : TaskPlatform := .suno
  hasAdaptor : Bool := true
  /-- The action of the request afterwards, and the error. -/
  validateRequestAndSetAction : String → String × Option TaskError := fun action => (action, none)
  modelMapped : String → Except String String := .ok
  estimateBilling : List (String × ℚ) := []
  preConsumeBilling : Int → Except TaskError (BillingSource × Int) := fun _ => .ok (.wallet, 0)
  buildRequestBody : Except String Unit := .ok ()
  /-- The status and the body of a response, if there is one. -/
  doRequest : Except String (Option (Int × String)) := .ok none
  /-- The id and the data of the task. -/
  doResponse : Except TaskError (String × String) := .ok ("", "")
  adjustBillingOnSubmit : List (String × ℚ) := []
  applyOrder : MapOrder := {}
  divideOrder : MapOrder := {}
  multiplyOrder : MapOrder := {}

structure TaskWorld where
  path : String := "/v1/videos"
  videoID : String := ""
  getByTaskId : Int → String → Except String (Option Task) := fun _ _ => .ok none
  getChannelById : Int → Except String OriginChannel := fun _ => .ok {}
  unmarshal : String → TaskData := fun _ => {}
  /-- The selection of channels for a request that is not locked to one. -/
  selection : World
  channelType : Int → Int := fun _ => 0
  /-- The key that a locked channel is set up with, by the number of the retry. -/
  lockedKey : Nat → Except String String := fun _ => .ok ""
  /-- The key of a selected channel, by the number of the submission. -/
  selectedKey : Nat → String := fun _ => ""
  /-- The status of a body that cannot be read, by the number of the submission. -/
  readBody : Nat → Except (String × Int) Unit := fun _ => .ok ()
  submissions : Nat → Submission
  generateTaskID : String := "task_"
  now : Time := 0

structure TaskSubmitSettings where
  relay : RelaySettings := {}
  taskPricePatches : List String := []
  isAlwaysSkipRetryStatusCode : Int → Bool := fun code => code = 504 || code = 524

/-! ### The origin task -/

section

variable (world : TaskWorld)

/-- `OtherRatios[key] = ratio`. -/
def PriceData.setOtherRatio (price : PriceData) (key : String) (ratio : ℚ) : PriceData :=
  { price with otherRatios := (key, ratio) :: price.otherRatios.filter fun entry => entry.1 ≠ key }

def PriceData.addOtherRatios (price : PriceData) (ratios : List (String × ℚ)) : PriceData :=
  ratios.foldl (fun price entry => price.addOtherRatio entry.1 entry.2) price

/-- The ratios of the origin task of a remix: those it was charged by, or for an older task the duration and the size in
its data. -/
def originRatios (originTask : Task) (price : PriceData) : PriceData :=
  match originTask.privateData.billingContext with
  | some bc => price.addOtherRatios bc.otherRatios
  | none =>
    let taskData := world.unmarshal originTask.data
    let seconds := atoiValue (taskData.seconds.getD "")
    let seconds := if seconds ≤ 0 then 4 else seconds
    let sizeStr := taskData.size.getD ""
    let size : ℚ := if sizeStr = "1792x1024" ∨ sizeStr = "1024x1792" then 1666667 / 1000000 else 1
    (price.setOtherRatio "seconds" seconds).setOtherRatio "size" size

def originModel (originTask : Task) (originModelName : String) : String :=
  if originModelName ≠ "" then originModelName
  else if originTask.originModelName ≠ "" then originTask.originModelName
  else if originTask.upstreamModelName ≠ "" then originTask.upstreamModelName
  else (world.unmarshal originTask.data).model.getD ""

def lockChannel (originTask : Task) (ctx : TaskContext) (info : TaskRelayInfo) :
    Except TaskFailure (TaskContext × TaskRelayInfo) :=
  match world.getChannelById originTask.channelId with
  | .error e => .error (.taskError (taskErrorWrapperLocal e "channel_not_found" 400))
  | .ok ch =>
    if ch.status ≠ channelStatusEnabled then
      .error (.taskError
        (taskErrorWrapperLocal "the channel of the origin task is disabled" "task_channel_disable" 400))
    else
      let info := { info with lockedChannel := some originTask.channelId }
      match info.channelMeta with
      | none => .error .nilPointer
      | some channelMeta =>
        if originTask.channelId ≠ channelMeta.channelId then
          match ch.getNextEnabledKey with
          | .error (e, statusCode) => .error (.taskError (taskErrorWrapper e "channel_no_available_key" statusCode))
          | .ok key => .ok
            ({ ctx with channelKey := key, channelType := ch.channelType, channelId := originTask.channelId },
              { info with channelMeta := some { channelMeta with
                  channelId := originTask.channelId
                  channelType := ch.channelType
                  apiKey := key } })
        else .ok (ctx, info)

def detectRemix (info : TaskRelayInfo) : Except TaskFailure TaskRelayInfo :=
  let info := if contains world.path "/v1/videos/" && hasSuffix world.path "/remix" then
    { info with action := taskActionRemix } else info
  if info.action = taskActionRemix then
    if trimSpace world.videoID = "" then
      .error (.taskError (taskErrorWrapperLocal "video_id is required" "invalid_request" 400))
    else .ok { info with originTaskID := world.videoID }
  else .ok info

def resolveOriginTask (ctx : TaskContext) (info : TaskRelayInfo) :
    Except TaskFailure (TaskContext × TaskRelayInfo) := do
  let info ← detectRemix world info
  if info.originTaskID = "" then return (ctx, info)
  match world.getByTaskId info.userId info.originTaskID with
  | .error e => throw (.taskError (taskErrorWrapper e "get_origin_task_failed" 500))
  | .ok none => throw (.taskError (taskErrorWrapperLocal "task_origin_not_exist" "task_not_exist" 400))
  | .ok (some originTask) =>
    let info := { info with originModelName := originModel world originTask info.originModelName }
    let (ctx, info) ← lockChannel world originTask ctx info
    if info.action = taskActionRemix then
      return (ctx, { info with priceData := originRatios world originTask info.priceData })
    else return (ctx, info)

end

/-! ### An attempt -/

structure TaskSubmitResult where
  upstreamTaskID : String
  taskData : String
  platform : TaskPlatform
  quota : Int
deriving DecidableEq, Repr

/-- How an attempt ends, with the record it leaves and the price that it was charged by. -/
structure SubmitOutcome where
  result : Except TaskError TaskSubmitResult
  info : TaskRelayInfo
  priced : Option PriceData := none

/-- The quota multiplied by the ratios of a map one after the other, and truncated each time. -/
def applyRatios (ratios : List (String × ℚ)) (quota : Int) : Int :=
  ratios.foldl (fun quota entry => if entry.2 ≠ 1 then Go.int (quota * entry.2) else quota) quota

/-- The quota of an attempt; a model of `TaskPricePatches` has a fixed price. -/
def submitQuota (taskPricePatches : List String) (modelName : String) (ratios : List (String × ℚ)) (quota : Int) :
    Int :=
  if modelName ∉ taskPricePatches then applyRatios ratios quota else quota

/-- The quota for other ratios: it is divided by the ratios of the price, and truncated each time, and multiplied by the
new ones. -/
def recalcQuotaFromRatios (otherRatios ratios : List (String × ℚ)) (quota : Int) : Int :=
  let baseQuota := otherRatios.foldl
    (fun quota entry => if entry.2 ≠ 1 ∧ entry.2 > 0 then Go.int (quota / entry.2) else quota) quota
  Go.int (ratios.foldl (fun result entry => if entry.2 ≠ 1 then result * entry.2 else result) (baseQuota : ℚ))

def TaskPlatform.name : TaskPlatform → String
  | .midjourney => "mj"
  | .suno => "suno"
  | .video name => name

def coverTaskActionToModelName (platform : TaskPlatform) (action : String) : String :=
  toLower platform.name ++ "_" ++ toLower action

section Submit

variable (settings : TaskSubmitSettings) (prices : PriceTables) (groups : GroupRatios) (submission : Submission)

/-- Only the first attempt takes the quota in advance, and nothing is taken for a free model. -/
def preConsumeTask (info : TaskRelayInfo) : Except TaskError TaskRelayInfo :=
  if info.billing.isNone && !info.priceData.freeModel then
    match submission.preConsumeBilling info.priceData.quota with
    | .error e => .error e
    | .ok (billingSource, subscriptionId) => .ok { info with
        billing := some info.priceData.quota
        billingSource := some billingSource
        subscriptionId := subscriptionId }
  else .ok info

def adjustOnSubmit (price : PriceData) : PriceData :=
  let adjustedRatios := submission.adjustBillingOnSubmit
  if adjustedRatios ≠ [] then
    { price with
      quota := recalcQuotaFromRatios (submission.divideOrder.range price.otherRatios)
        (submission.multiplyOrder.range adjustedRatios) price.quota
      otherRatios := adjustedRatios }
  else price

def sendTask (info : TaskRelayInfo) : Except TaskError TaskSubmitResult × TaskRelayInfo :=
  match preConsumeTask submission info with
  | .error e => (.error e, info)
  | .ok info =>
    match submission.buildRequestBody with
    | .error e => (.error (taskErrorWrapper e "build_request_failed" 500), info)
    | .ok _ =>
      match submission.doRequest with
      | .error e => (.error (taskErrorWrapper e "do_request_failed" 500), info)
      | .ok response =>
        match response.filter (·.1 ≠ 200) with
        | some (statusCode, body) => (.error (taskErrorWrapper body "fail_to_fetch_task" statusCode), info)
        | none =>
          match submission.doResponse with
          | .error e => (.error e, info)
          | .ok (upstreamTaskID, taskData) =>
            let price := adjustOnSubmit submission info.priceData
            (.ok {
              upstreamTaskID := upstreamTaskID
              taskData := taskData
              platform := submission.platform
              quota := price.quota }, { info with priceData := price })

/-- The price of an attempt: the one of the model, with the ratios that the adaptor estimates. -/
def estimatedPrice (modelName : String) (price : PriceData) : PriceData :=
  let price := price.addOtherRatios submission.estimateBilling
  let ratios := submission.applyOrder.range price.otherRatios
  { price with quota := submitQuota settings.taskPricePatches modelName ratios price.quota }

/-- `InitChannelMeta`, which takes the channel of the context into the record. -/
def initChannelMeta (ctx : TaskContext) (info : TaskRelayInfo) : TaskRelayInfo :=
  { info with channelMeta := some {
      channelId := ctx.channelId
      channelType := ctx.channelType
      apiKey := ctx.channelKey
      upstreamModelName := ctx.originalModel } }

def TaskRelayInfo.setUpstreamModelName (info : TaskRelayInfo) (upstreamModelName : String) : TaskRelayInfo :=
  { info with channelMeta := info.channelMeta.map fun (channelMeta : ChannelMeta) =>
      { channelMeta with upstreamModelName := upstreamModelName } }

def prepareTask (generateTaskID : String) (ctx : TaskContext) (info : TaskRelayInfo) :
    Except TaskError String × TaskRelayInfo :=
  let info := initChannelMeta ctx info
  if !submission.hasAdaptor then
    (.error (taskErrorWrapperLocal ("invalid api platform: " ++ submission.platform.name) "invalid_api_platform" 400),
      info)
  else
    let (action, err) := submission.validateRequestAndSetAction info.action
    let info := { info with action := action }
    match err with
    | some e => (.error e, info)
    | none =>
      let modelName := if info.originModelName = "" then coverTaskActionToModelName submission.platform action
        else info.originModelName
      let info := { info with originModelName := modelName }.setUpstreamModelName modelName
      match submission.modelMapped modelName with
      | .error e => (.error (taskErrorWrapperLocal e "model_mapping_failed" 400), info)
      | .ok upstreamModelName =>
        let info := info.setUpstreamModelName upstreamModelName
        (.ok modelName,
          { info with publicTaskID := if info.publicTaskID = "" then generateTaskID else info.publicTaskID })

def relayTaskSubmit (generateTaskID : String) (ctx : TaskContext) (info : TaskRelayInfo) : SubmitOutcome :=
  match prepareTask submission generateTaskID ctx info with
  | (.error e, info) => { result := .error e, info := info }
  | (.ok modelName, info) =>
    match modelPriceHelperPerCall prices groups ctx.autoGroup info.isAdmin info.toPricingInfo with
    | (.error e, pricing) =>
      { result := .error (taskErrorWrapper e "model_price_error" 400), info := { info with toPricingInfo := pricing } }
    | (.ok price, pricing) =>
      let price := estimatedPrice settings submission modelName price
      let (result, info) := sendTask submission { info with toPricingInfo := { pricing with priceData := price } }
      { result := result, info := info, priced := some price }

end Submit

/-! ### The loop of `RelayTask` -/

structure PricedAttempt where
  submission : Nat
  price : PriceData
deriving DecidableEq, Repr

structure TaskState extends TaskContext where
  info : TaskRelayInfo
  taskErr : Option TaskError := none
  submissions : Nat := 0
  log : List PricedAttempt := []

structure TaskResult where
  task : Option Task := none
  failure : Option TaskFailure := none
  log : List PricedAttempt := []

section Loop

variable (settings : TaskSubmitSettings) (prices : PriceTables) (groups : GroupRatios) (request : RelayRequest)
  (world : TaskWorld)

def shouldRetryTaskRelay (taskErr : TaskError) (retryTimes : Int) : Bool :=
  if request.skipRetryAfterAffinityFailure then false
  else if retryTimes ≤ 0 then false
  else if request.specificChannelId.isSome then false
  else if taskErr.statusCode = 429 then true
  else if taskErr.statusCode = 307 then true
  else if taskErr.statusCode.tdiv 100 = 5 then !settings.isAlwaysSkipRetryStatusCode taskErr.statusCode
  else if taskErr.statusCode = 400 then false
  else if taskErr.statusCode = 408 then false
  else if taskErr.localError then false
  else taskErr.statusCode.tdiv 100 ≠ 2

/-- The channel of an attempt: the one that the request is locked to, with another key for a retry, or a selected one.
-/
def taskChannel (s : TaskState) : Except TaskError Int × TaskState :=
  match s.info.lockedChannel with
  | some id =>
    if s.retry > 0 then
      match world.lockedKey s.retry with
      | .error e => (.error (taskErrorWrapperLocal e "setup_locked_channel_failed" 500), s)
      | .ok key => (.ok id, { s with
          originalModel := s.info.originModelName
          channelId := id
          channelType := world.channelType id
          channelKey := key })
    else (.ok id, s)
  | none =>
    let relayState : RelayState :=
      { toRetryContext := s.toRetryContext, channelMeta := s.info.channelMeta.isSome, info := s.info.toPricingInfo }
    let (channel, relayState) := getChannel settings.relay request world.selection groups relayState
    let s := { s with
      toRetryContext := relayState.toRetryContext
      info := { s.info with toPricingInfo := relayState.info } }
    match channel with
    | .error e => (.error (taskErrorWrapperLocal e.message "get_channel_failed" 500), s)
    | .ok id =>
      -- The first attempt has the channel that the context was set up with.
      if s.info.channelMeta.isNone then (.ok id, s)
      else (.ok id, { s with
        originalModel := s.info.originModelName
        channelType := world.channelType id
        channelKey := world.selectedKey s.submissions })

def initTask (platform : TaskPlatform) (info : TaskRelayInfo) : Task :=
  let channelMeta := info.channelMeta
  { taskID := if info.publicTaskID ≠ "" then info.publicTaskID else world.generateTaskID
    platform := platform
    userId := info.userId
    group := info.usingGroup
    channelId := (channelMeta.map ChannelMeta.channelId).getD 0
    quota := 0
    status := .notStart
    submitTime := world.now
    progress := "0%"
    originModelName := if channelMeta.isSome then info.originModelName else ""
    upstreamModelName := (channelMeta.map ChannelMeta.upstreamModelName).getD ""
    privateData := { key := match channelMeta with
      | some channelMeta =>
        if channelMeta.channelType = 24 ∨ channelMeta.channelType = 41 then channelMeta.apiKey else ""
      | none => "" } }

def storedTask (info : TaskRelayInfo) (result : TaskSubmitResult) : Task :=
  let task := initTask world result.platform info
  { task with
    privateData := { task.privateData with
      upstreamTaskID := result.upstreamTaskID
      billingSource := info.billingSource
      subscriptionId := info.subscriptionId
      tokenId := info.tokenId
      billingContext := some {
        modelPrice := info.priceData.modelPrice
        groupRatio := info.priceData.groupRatioInfo.groupRatio
        modelRatio := info.priceData.modelRatio
        otherRatios := info.priceData.otherRatios
        originModelName := info.originModelName
        perCallBilling := info.originModelName ∈ settings.taskPricePatches || info.priceData.usePrice } }
    quota := result.quota
    data := result.taskData }

def TaskState.record (s : TaskState) (outcome : SubmitOutcome) : TaskState :=
  { s with
    info := outcome.info
    submissions := s.submissions + 1
    log := s.log ++ outcome.priced.toList.map fun price => { submission := s.submissions, price := price } }

def taskBody (s : TaskState) : Next TaskState TaskResult :=
  if (s.retry : Int) > settings.relay.retryTimes then
    .done { failure := s.taskErr.map .taskError, log := s.log }
  else
    match taskChannel settings groups request world s with
    | (.error e, s) => .done { failure := some (.taskError e), log := s.log }
    | (.ok id, s) =>
      let s := { s with useChannel := s.useChannel ++ [id] }
      match world.readBody s.submissions with
      | .error (e, statusCode) =>
        .done {
          failure := some (.taskError (taskErrorWrapperLocal e "read_request_body_failed" statusCode)), log := s.log }
      | .ok _ =>
        let outcome := relayTaskSubmit settings prices groups (world.submissions s.submissions) world.generateTaskID
          s.toTaskContext s.info
        let s := s.record outcome
        match outcome.result with
        | .ok result => .done { task := some (storedTask settings world s.info result), log := s.log }
        | .error e =>
          if shouldRetryTaskRelay settings request e (settings.relay.retryTimes - s.retry) then
            .again { s with toRetryContext := increaseRetry s.toRetryContext, taskErr := some e }
          else .done { failure := some (.taskError e), log := s.log }

/-- `RelayTask` on the context that `Distribute` has left and a record, for at most `fuel` rounds. -/
def relayTask (fuel : Nat) (ctx : TaskContext) (info : TaskRelayInfo) : Option TaskResult :=
  match resolveOriginTask world ctx info with
  | .error failure => some { failure := some failure }
  | .ok (ctx, info) =>
    loop (taskBody settings prices groups request world) fuel { toTaskContext := ctx, info := info }

end Loop

end LoveApi
