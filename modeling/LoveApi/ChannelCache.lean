import LoveApi.Database
import LoveApi.Program.Choice

/-!
# The selection of a channel

A request of a group for a model goes to one of the enabled channels that list both, found in the cache or in the table.
-/

namespace LoveApi

open Program Go

def channelStatusEnabled : Int := 1

/-- The columns of a channel that a selection reads. The id is the key of the row. -/
structure ChannelRow where
  status : Int := channelStatusEnabled
  group : String := "default"
  models : String
  priority : Option Int := none
  weight : Option Nat := none
deriving DecidableEq, Repr

namespace ChannelRow

variable (channel : ChannelRow)

def getPriority : Int := channel.priority.getD 0

def getWeight : Nat := channel.weight.getD 0

end ChannelRow

structure Ability where
  group : String
  model : String
  channelId : Int
  enabled : Bool := true
  priority : Int := 0
  weight : Nat := 0
deriving DecidableEq, Repr

structure Selection where
  channel : Option Int
  err : Option String := none
deriving DecidableEq, Repr

/-! ### The cache -/

def names (list : String) : List String := ((split list ",").map trimSpace).filter (· ≠ "")

/-- `group2model2channels` is the index of the enabled channels, `channelsIDM` holds all channels. -/
structure ChannelCache where
  group2model2channels : List (String × List (String × List Int))
  channelsIDM : Table Int ChannelRow

namespace ChannelCache

variable (cache : ChannelCache)

def priority (id : Int) : Int := ((cache.channelsIDM.row id).map ChannelRow.getPriority).getD 0

def weight (id : Int) : Nat := ((cache.channelsIDM.row id).map ChannelRow.getWeight).getD 0

end ChannelCache

section Init

variable (channels : Table Int ChannelRow)

def enabledChannels : List (Int × ChannelRow) :=
  channels.rows.filter fun row => row.2.status = channelStatusEnabled

def cacheEntries : List (String × String × Int) :=
  (enabledChannels channels).flatMap fun row =>
    (names row.2.group).flatMap fun group => (names row.2.models).map fun model => (group, model, row.1)

def cacheGroups (abilities : List Ability) : List String :=
  ((abilities.map fun ability => trimSpace ability.group).filter (· ≠ "") ++
    (enabledChannels channels).flatMap fun row => names row.2.group).dedup

def sortByPriority (ids : List Int) : List Int :=
  let priority := fun id => ((channels.row id).map ChannelRow.getPriority).getD 0
  ids.insertionSort fun i j => priority i ≥ priority j

def cacheModels (group : String) : List (String × List Int) :=
  let entries := ((cacheEntries channels).filter fun entry => entry.1 = group).map Prod.snd
  (entries.map Prod.fst).dedup.map fun model =>
    (model, sortByPriority channels ((entries.filter fun entry => entry.1 = model).map Prod.snd))

def initChannelCache (abilities : List Ability) : ChannelCache where
  group2model2channels := (cacheGroups channels abilities).map fun group => (group, cacheModels channels group)
  channelsIDM := channels

end Init

/-- The index loses one occurrence of a channel that is not enabled any more from each of its lists. -/
def cacheUpdateChannelStatus (cache : ChannelCache) (id status : Int) : ChannelCache where
  channelsIDM := cache.channelsIDM.update id fun channel => { channel with status := status }
  group2model2channels :=
    if status ≠ channelStatusEnabled then
      cache.group2model2channels.map fun entry => (entry.1, entry.2.map fun models => (models.1, models.2.erase id))
    else cache.group2model2channels

/-! ### The lookup of a group and a model -/

def handleThinkingBudgetModel (name pre wildcard : String) : String :=
  if hasPrefix name pre && contains name "-thinking-" then wildcard else name

def formatMatchingModelName (name : String) : String :=
  let name :=
    if hasPrefix name "gemini-2.5-flash-lite" then
      handleThinkingBudgetModel name "gemini-2.5-flash-lite" "gemini-2.5-flash-lite-thinking-*"
    else if hasPrefix name "gemini-2.5-flash" then
      handleThinkingBudgetModel name "gemini-2.5-flash" "gemini-2.5-flash-thinking-*"
    else if hasPrefix name "gemini-2.5-pro" then
      handleThinkingBudgetModel name "gemini-2.5-pro" "gemini-2.5-pro-thinking-*"
    else name
  let name := if hasPrefix name "gpt-4-gizmo" then "gpt-4-gizmo-*" else name
  if hasPrefix name "gpt-4o-gizmo" then "gpt-4o-gizmo-*" else name

section Lookup

variable (cache : ChannelCache) (order : MapOrder)

def cachedModels (group : String) : List (String × List Int) :=
  let modelMap := (cache.group2model2channels.lookup group).getD []
  if modelMap = [] then
    match (order.range cache.group2model2channels).find? fun entry => equalFold (trimSpace entry.1) group with
    | some entry => entry.2
    | none => modelMap
  else modelMap

def channelsOfKey (modelMap : List (String × List Int)) (key : String) : List Int :=
  (((order.range modelMap).filter fun entry => trimSpace entry.1 = key).flatMap Prod.snd).eraseDups

def modelKeys (model : String) : List String :=
  let normalized := trimSpace (formatMatchingModelName model)
  if normalized ≠ "" ∧ normalized ≠ model then [model, normalized] else [model]

def getCachedChannels (group model : String) : List Int :=
  let modelMap := cachedModels cache order (trimSpace group)
  (((modelKeys (trimSpace model)).map (channelsOfKey order modelMap)).find? (· ≠ [])).getD []

end Lookup

/-! ### A selection from the cache -/

def channelMissing (id : Int) : String :=
  "数据库一致性错误，渠道# " ++ toString id ++ " 不存在，请联系管理员修复"

/-- One of the channels by its weight; `draw` is the random number. -/
def chooseByWeight (draw : Nat) (targetChannels : List (Int × Nat)) : Option Int :=
  let sumWeight := totalWeight targetChannels
  let count := targetChannels.length
  let (sumWeight, smoothingFactor, smoothingAdjustment) :=
    if sumWeight = 0 then (count * 100, 1, 100)
    else if sumWeight / count < 10 then (sumWeight, 100, 0)
    else (sumWeight, 1, 0)
  let weights := targetChannels.map fun t => (t.1, t.2 * smoothingFactor + smoothingAdjustment)
  pick weights (draw % (sumWeight * smoothingFactor) : Nat)

def targetChannels (cache : ChannelCache) (retry : Nat) (left : List Int) : List Int :=
  match level retry (left.map cache.priority) with
  | none => []
  | some targetPriority => left.filter fun id => cache.priority id = targetPriority

/-- `GetRandomSatisfiedChannelWithExclusions` with the memory cache. -/
def selectCached (cache : ChannelCache) (order : MapOrder) (draw : Nat) (group model : String) (retry : Nat)
    (excluded : List Int) : Selection :=
  match getCachedChannels cache order group model with
  | [] => ⟨none, none⟩
  | [id] =>
    if id ∈ excluded then ⟨none, none⟩
    else if (cache.channelsIDM.row id).isSome then ⟨some id, none⟩
    else ⟨none, some (channelMissing id)⟩
  | channels =>
    match channels.find? fun id => (cache.channelsIDM.row id).isNone with
    | some id => ⟨none, some (channelMissing id)⟩
    | none =>
      let left := channels.filter (· ∉ excluded)
      if left = [] then ⟨none, none⟩
      else
        match chooseByWeight draw ((targetChannels cache retry left).map fun id => (id, cache.weight id)) with
        | some id => ⟨some id, none⟩
        | none => ⟨none, some "channel not found"⟩

/-! ### A selection from the table -/

section

variable (abilities : List Ability)

def enabledAbilities (group model : String) : List Ability :=
  abilities.filter fun ability => ability.group = group && ability.model = model && ability.enabled

def getPriority (group model : String) (retry : Nat) : Except String Int :=
  let priorities := levels ((enabledAbilities abilities group model).map Ability.priority)
  if h : priorities = [] then .error "数据库一致性被破坏"
  else if retry ≥ priorities.length then .ok (priorities.getLast h)
  else .ok (priorities.getD retry 0)

def getChannelQuery (group model : String) (retry : Nat) : Except String (List Ability) :=
  let rows := enabledAbilities abilities group model
  if retry ≠ 0 then
    match getPriority abilities group model retry with
    | .error e => .error e
    | .ok priority => .ok (rows.filter fun ability => ability.priority = priority)
  else .ok (rows.filter fun ability => (rows.map Ability.priority).max? = some ability.priority)

def getChannelWithExclusions (channels : Table Int ChannelRow) (draw : Nat) (group model : String) (retry : Nat)
    (excluded : List Int) : Selection :=
  match getChannelQuery abilities group model retry with
  | .error e => ⟨none, some e⟩
  | .ok rows =>
    let rows := (rows.insertionSort fun a b => a.weight ≥ b.weight).filter fun ability => ability.channelId ∉ excluded
    if rows = [] then ⟨none, none⟩
    else
      let weights := rows.map fun ability => (ability.channelId, ability.weight + 10)
      let id := (pickUpTo weights (draw % totalWeight weights : Nat)).getD 0
      if (channels.row id).isSome then ⟨some id, none⟩ else ⟨some id, some recordNotFound⟩

end

structure ChannelStore where
  memoryCacheEnabled : Bool := true
  channels : Table Int ChannelRow
  abilities : List Ability := []
  cache : ChannelCache

def getRandomSatisfiedChannelWithExclusions (store : ChannelStore) (order : MapOrder) (draw : Nat)
    (group model : String) (retry : Nat) (excluded : List Int) : Selection :=
  if !store.memoryCacheEnabled then
    getChannelWithExclusions store.abilities store.channels draw group model retry excluded
  else selectCached store.cache order draw group model retry excluded

end LoveApi
