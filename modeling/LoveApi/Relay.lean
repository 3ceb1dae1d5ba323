import LoveApi.ChannelCache
import LoveApi.Pricing
import LoveApi.Program.Loop

/-!
# The retries of a request

`Distribute` chooses the first channel of a request; as long as the attempts fail in a way that is worth a retry,
`Relay` selects others, group by group.
-/

namespace LoveApi

open Program Go

structure RelaySettings where
  retryTimes : Int := 0
  autoGroups : List String := []
  /-- `GetUserUsableGroups` of a user's group. -/
  getUserUsableGroups : String → List String := fun group => [group]
  isAlwaysSkipRetryCode : String → Bool := fun _ => false
  shouldRetryByStatusCode : Int → Bool := fun code => code ≠ 400

structure RelayRequest where
  modelName : String
  userGroup : String := "default"
  usingGroup : String := "default"
  tokenGroup : String := "default"
  crossGroupRetry : Bool := false
  tokenModelLimitEnabled : Bool := false
  tokenModelLimit : Option (List String) := none
  specificChannelId : Option Int := none
  /-- `GetPreferredChannelByAffinity`. -/
  preferredChannel : Option Int := none
  skipRetryAfterAffinityFailure : Bool := false
deriving DecidableEq, Repr

structure RelayError where
  message : String := ""
  errorCode : String := ""
  statusCode : Int := 500
  skipRetry : Bool := false
deriving DecidableEq, Repr

/-- How an attempt ends: the body of the request cannot be read, or the upstream service answers or fails. -/
inductive Outcome
  | bodyError (err : RelayError)
  | answered
  | failed (err : RelayError)
deriving DecidableEq, Repr

/-- What is outside of the request: the channels, the order of maps and the random draw at each lookup, whether
the selected channel has a usable key, and how each attempt ends, with the ratios that it adds to the price. -/
structure World where
  stores : Nat → ChannelStore
  orders : Nat → MapOrder := fun _ => {}
  draws : Nat → Nat := fun _ => 0
  setupError : Nat → Option RelayError := fun _ => none
  outcomes : Nat → Outcome
  otherRatios : Nat → List (String × ℚ) := fun _ => []

/-- The fields of `RetryParam` and of the request's context that the retries read and write. `calls` counts the
lookups; the first one is that of a forced or preferred channel. -/
structure RetryContext where
  retry : Nat := 0
  resetNextTry : Bool := false
  attempted : List Int := []
  autoGroup : Option String := none
  autoGroupIndex : Option Nat := none
  useChannel : List Int := []
  channelId : Int := 0
  calls : Nat := 1
deriving DecidableEq, Repr

section Selection

variable (settings : RelaySettings) (request : RelayRequest) (world : World)

def getUserAutoGroup : List String :=
  settings.autoGroups.filter (· ∈ settings.getUserUsableGroups request.userGroup)

def seedAttemptedFromContext (ctx : RetryContext) : RetryContext :=
  { ctx with attempted := ctx.attempted ++ ctx.useChannel.filter (0 < ·) }

def markAttempted (ctx : RetryContext) (id : Int) : RetryContext :=
  if id ≤ 0 then ctx else { ctx with attempted := id :: ctx.attempted }

def selectChannel (ctx : RetryContext) (group : String) (retry : Nat) : Selection × RetryContext :=
  (getRandomSatisfiedChannelWithExclusions (world.stores ctx.calls) (world.orders ctx.calls) (world.draws ctx.calls)
    group request.modelName retry ctx.attempted, { ctx with calls := ctx.calls + 1 })

def takeFromGroup (i priorityRetry : Nat) (group : String) (id : Int) (ctx : RetryContext) : RetryContext :=
  let ctx := markAttempted { ctx with autoGroup := some group } id
  if request.crossGroupRetry && (priorityRetry : Int) ≥ settings.retryTimes then
    -- The next retry goes to the next group.
    { ctx with autoGroupIndex := some (i + 1), retry := 0, resetNextTry := true }
  else { ctx with autoGroupIndex := some i }

/-- The loop over the groups from index `i` on; `start` is the index of the first one. -/
def selectAutoGroup (start : Nat) : Nat → List String → RetryContext → Option Int × RetryContext
  | _, [], ctx => (none, ctx)
  | i, group :: rest, ctx =>
    let priorityRetry := if i > start then 0 else ctx.retry
    let (selection, ctx) := selectChannel request world ctx group priorityRetry
    match selection.channel with
    | none => selectAutoGroup start (i + 1) rest { ctx with autoGroupIndex := some (i + 1), retry := 0 }
    | some id => (some id, takeFromGroup settings request i priorityRetry group id ctx)

def cacheGetRandomSatisfiedChannel (tokenGroup : String) (ctx : RetryContext) :
    Except String (Option Int) × RetryContext :=
  let ctx := seedAttemptedFromContext ctx
  if tokenGroup = "auto" then
    if settings.autoGroups = [] then (.error "auto groups is not enabled", ctx)
    else
      let start := ctx.autoGroupIndex.getD 0
      let (channel, ctx) :=
        selectAutoGroup settings request world start start ((getUserAutoGroup settings request).drop start) ctx
      (.ok channel, ctx)
  else
    let (selection, ctx) := selectChannel request world ctx tokenGroup ctx.retry
    let ctx := match selection.channel with
      | some id => markAttempted ctx id
      | none => ctx
    match selection.err with
    | some e => (.error e, ctx)
    | none => (.ok selection.channel, ctx)

def increaseRetry (ctx : RetryContext) : RetryContext :=
  if ctx.resetNextTry then { ctx with resetNextTry := false } else { ctx with retry := ctx.retry + 1 }

end Selection

/-! ### The first channel -/

section

variable (settings : RelaySettings) (request : RelayRequest) (world : World)

def cacheGetChannel (store : ChannelStore) (id : Int) : Option ChannelRow :=
  if !store.memoryCacheEnabled then store.channels.row id else store.cache.channelsIDM.row id

def isChannelEnabledForGroupModelDB (abilities : List Ability) (group modelName : String) (id : Int) : Bool :=
  let group := trimSpace group
  let wanted := trimSpace modelName
  let normalized := trimSpace (formatMatchingModelName wanted)
  abilities.any fun ability =>
    ability.enabled && ability.channelId = id &&
      ((ability.group = group && ability.model = wanted) ||
        (equalFold (trimSpace ability.group) group &&
          (equalFold (trimSpace ability.model) wanted ||
            (normalized ≠ "" && equalFold (trimSpace ability.model) normalized))))

def isChannelEnabledForGroupModel (store : ChannelStore) (order : MapOrder) (group modelName : String) (id : Int) :
    Bool :=
  if group = "" || modelName = "" || id ≤ 0 then false
  else if !store.memoryCacheEnabled then isChannelEnabledForGroupModelDB store.abilities group modelName id
  else id ∈ getCachedChannels store.cache order group modelName

def groupsOf (group : String) : List String := if group = "auto" then getUserAutoGroup settings request else [group]

/-- The preferred channel, if it is enabled and serves the model in a group of the request: the context with it, or
nothing, or an error if a preferred channel that is disabled ends the request. -/
def preferredContext (id : Int) : Except String (Option RetryContext) :=
  let store := world.stores 0
  match cacheGetChannel store id with
  | none => .ok none
  | some channel =>
    if channel.status ≠ channelStatusEnabled then
      if request.skipRetryAfterAffinityFailure then .error "distributor.affinity_channel_disabled" else .ok none
    else
      match (groupsOf settings request request.usingGroup).find? fun group =>
        isChannelEnabledForGroupModel store (world.orders 0) group request.modelName id with
      | none => .ok none
      | some group =>
        .ok (some { channelId := id, autoGroup := if request.usingGroup = "auto" then some group else none })

def checkTokenModelLimit : Except String Unit :=
  if request.tokenModelLimitEnabled then
    match request.tokenModelLimit with
    | none => .error "distributor.token_no_model_access"
    | some tokenModelLimit =>
      if formatMatchingModelName request.modelName ∈ tokenModelLimit then .ok ()
      else .error "distributor.token_model_forbidden"
  else .ok ()

/-- A channel selected for the request; the context keeps the group that it was selected in. -/
def selectFirst : Except String RetryContext :=
  match cacheGetRandomSatisfiedChannel settings request world request.usingGroup {} with
  | (.error e, _) => .error ("distributor.get_channel_failed: " ++ e)
  | (.ok none, _) => .error "distributor.no_available_channel"
  | (.ok (some id), ctx) =>
    .ok { autoGroup := ctx.autoGroup, autoGroupIndex := ctx.autoGroupIndex, channelId := id, calls := ctx.calls }

/-- The context of a request after `Distribute`, with a new `RetryParam`. -/
def distribute : Except String RetryContext :=
  match request.specificChannelId with
  | some id =>
    match (world.stores 0).channels.row id with
    | none => .error "distributor.invalid_channel_id"
    | some channel =>
      if channel.status ≠ channelStatusEnabled then .error "distributor.channel_disabled" else .ok { channelId := id }
  | none => do
    checkTokenModelLimit request
    if request.modelName = "" then throw "distributor.model_name_required"
    let preferred ← (request.preferredChannel.map (preferredContext settings request world)).getD (.ok none)
    match preferred with
    | some ctx => return ctx
    | none => selectFirst settings request world

end

/-! ### The loop of `Relay` -/

/-- An attempt at an upstream service: its channel, and the group of the context at that moment. -/
structure Attempt where
  channelId : Int
  autoGroup : Option String
deriving DecidableEq, Repr

/-- The context and the request record while `Relay` runs. `channelMeta` says that the record has a channel, and
`log` lists the attempts. -/
structure RelayState extends RetryContext where
  channelMeta : Bool := false
  lastError : Option RelayError := none
  info : PricingInfo
  log : List Attempt := []

structure RelayResult where
  answered : Bool := false
  err : Option RelayError := none
  state : RelayState

section Relay

variable (settings : RelaySettings) (request : RelayRequest) (world : World) (groups : GroupRatios)

/-- `HandleGroupRatio` writes the ratio of the group of the context into the price. -/
def reprice (autoGroup : Option String) (info : PricingInfo) : PricingInfo :=
  let (groupRatioInfo, info) := handleGroupRatio groups autoGroup info
  { info with priceData := { info.priceData with groupRatioInfo := groupRatioInfo } }

def getChannelFailed (message : String) : RelayError where
  message := message
  errorCode := "get_channel_failed"
  skipRetry := true

/-- The channel of the context for the first attempt, and a selected one afterwards. -/
def getChannel (s : RelayState) : Except RelayError Int × RelayState :=
  if !s.channelMeta then (.ok s.channelId, s)
  else
    let (channel, ctx) := cacheGetRandomSatisfiedChannel settings request world request.tokenGroup s.toRetryContext
    let s := { s with toRetryContext := ctx, info := reprice groups ctx.autoGroup s.info }
    match channel with
    | .error e => (.error (getChannelFailed ("获取分组 " ++ request.tokenGroup ++ " 下模型 " ++ request.modelName ++
        " 的可用渠道失败（retry）: " ++ e)), s)
    | .ok none => (.error (getChannelFailed ("分组 " ++ request.tokenGroup ++ " 下模型 " ++ request.modelName ++
        " 的可用渠道不存在（retry）")), s)
    | .ok (some id) =>
      let s := { s with channelId := id }
      match world.setupError s.calls with
      | some e => (.error e, s)
      | none => (.ok id, s)

def shouldRetry (err : RelayError) (retryTimes : Int) : Bool :=
  if request.skipRetryAfterAffinityFailure then false
  else if hasPrefix err.errorCode "channel:" then true
  else if err.skipRetry then false
  else if retryTimes ≤ 0 then false
  else if request.specificChannelId.isSome then false
  else if err.statusCode ≥ 200 ∧ err.statusCode < 300 then false
  else if err.statusCode < 100 ∨ err.statusCode > 599 then true
  else if settings.isAlwaysSkipRetryCode err.errorCode then false
  else settings.shouldRetryByStatusCode err.statusCode

def addOtherRatios (ratios : List (String × ℚ)) (info : PricingInfo) : PricingInfo :=
  { info with priceData := ratios.foldl (fun price ratio => price.addOtherRatio ratio.1 ratio.2) info.priceData }

def callUpstream (s : RelayState) (id : Int) : RelayState :=
  let attempt : Attempt := { channelId := id, autoGroup := s.autoGroup }
  { s with
    channelMeta := true
    log := s.log ++ [attempt]
    info := addOtherRatios (world.otherRatios s.log.length) s.info }

def relayBody (s : RelayState) : Next RelayState RelayResult :=
  if (s.retry : Int) > settings.retryTimes then .done { err := s.lastError, state := s }
  else
    match getChannel settings request world groups s with
    | (.error e, s) => .done { err := some e, state := s }
    | (.ok id, s) =>
      let s := { s with useChannel := s.useChannel ++ [id] }
      match world.outcomes s.log.length with
      | .bodyError e => .done { err := some e, state := s }
      | .answered => .done { answered := true, state := callUpstream world s id }
      | .failed e =>
        let s := { callUpstream world s id with lastError := some e }
        if shouldRetry settings request e (settings.retryTimes - s.retry) then
          .again { s with toRetryContext := increaseRetry s.toRetryContext }
        else .done { err := some e, state := s }

/-- `Relay` on the context that `Distribute` has left and the record with its price, for at most `fuel` rounds. -/
def relay (fuel : Nat) (ctx : RetryContext) (info : PricingInfo) : Option RelayResult :=
  loop (relayBody settings request world groups) fuel { toRetryContext := ctx, info := info }

end Relay

end LoveApi
