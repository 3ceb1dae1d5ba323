import LoveApi.ChannelStatus

/-!
# The abilities of the channels

The `abilities` table has a row for each group and model of a channel. It is written anew when a channel is inserted or
edited, and patched when a status or a tag changes.
-/

namespace LoveApi

open Program Go

structure AbilityColumns where
  enabled : Bool
  priority : Int := 0
  weight : Nat := 0
  tag : Option String := none
deriving DecidableEq, Repr

abbrev Abilities := Table ((String × String) × Int) AbilityColumns

namespace StoredChannel

variable (channel : StoredChannel)

def ability : AbilityColumns where
  enabled := channel.status = channelStatusEnabled
  priority := channel.getPriority
  weight := channel.getWeight
  tag := channel.tag

/-- The groups and models of the comma-separated lists, in the order of the loops. -/
def pairs : List (String × String) :=
  (split channel.models ",").flatMap fun model => (split channel.group ",").map fun group => (group, model)

end StoredChannel

def abilityKey (pair : String × String) : String := pair.1 ++ "|" ++ pair.2

/-- The first pair with each text; `abilitySet` are the texts so far. -/
def distinctPairs (abilitySet : List String) : List (String × String) → List (String × String)
  | [] => []
  | pair :: pairs =>
    if abilityKey pair ∈ abilitySet then distinctPairs abilitySet pairs
    else pair :: distinctPairs (abilityKey pair :: abilitySet) pairs

def addAbilities (id : Int) (channel : StoredChannel) (abilities : Abilities) : Abilities :=
  (distinctPairs [] channel.pairs).foldl (fun abilities pair => abilities.insert (pair, id) channel.ability) abilities

def updateAbilities (id : Int) (channel : StoredChannel) (abilities : Abilities) : Abilities :=
  addAbilities id channel (abilities.filter fun key _ => key.2 ≠ id)

def updateAbilityStatus (id : Int) (status : Bool) (abilities : Abilities) : Abilities :=
  abilities.modify fun key ability => if key.2 = id then { ability with enabled := status } else ability

def updateAbilityStatusByTag (tag : String) (status : Bool) (abilities : Abilities) : Abilities :=
  abilities.modify fun _ ability => if ability.tag = some tag then { ability with enabled := status } else ability

def updateAbilityByTag (tag : String) (newTag : Option String) (priority : Option Int) (weight : Option Nat)
    (abilities : Abilities) : Abilities :=
  abilities.modify fun _ ability =>
    if ability.tag = some tag then
      { ability with
        tag := newTag.or ability.tag
        priority := priority.getD ability.priority
        weight := if weight.getD 0 ≠ 0 then weight.getD 0 else ability.weight }
    else ability

def StoredChannel.create (channel : StoredChannel) : StoredChannel :=
  { channel with
    status := if channel.status = 0 then channelStatusEnabled else channel.status
    group := if channel.group = "" then "default" else channel.group
    priority := some channel.getPriority
    weight := some channel.getWeight }

/-- The columns of the channel that an edit is given; a zero value leaves a column as it is. -/
structure ChannelEdit where
  status : Int := 0
  models : String := ""
  group : String := ""
  priority : Option Int := none
  weight : Option Nat := none
  tag : Option String := none
  key : String := ""
  channelInfo : Option ChannelInfo := none

/-- What `EditChannelByTag` is given beside the tag. The columns that no ability depends on are left out. -/
structure TagEdit where
  newTag : Option String := none
  models : Option String := none
  group : Option String := none
  priority : Option Int := none
  weight : Option Nat := none
deriving DecidableEq, Repr

namespace TagEdit

variable (edit : TagEdit)

def shouldReCreateAbilities : Bool := edit.models.getD "" ≠ "" || edit.group.getD "" ≠ ""

def apply (tag : String) (channel : StoredChannel) : StoredChannel :=
  if channel.tag = some tag then
    { channel with
      tag := edit.newTag.or channel.tag
      models := if edit.models.getD "" ≠ "" then edit.models.getD "" else channel.models
      group := if edit.group.getD "" ≠ "" then edit.group.getD "" else channel.group
      priority := edit.priority.or channel.priority
      weight := edit.weight.or channel.weight }
  else channel

end TagEdit

structure ChannelDB where
  channels : Table Int StoredChannel := .empty
  abilities : Abilities := .empty
  nextId : Int := 1

section Operations

variable (parseArray : String → Option (List String))

/-- The keys of the edited channel, to count them; an empty array falls back to the lines. -/
def countedKeys (key : String) : List String :=
  if key = "" then []
  else
    let trimmed := trimSpace key
    match if hasPrefix trimmed "[" then (parseArray trimmed).getD [] else [] with
    | [] => split (trim key '\n') "\n"
    | keys => keys

namespace ChannelEdit

variable (edit : ChannelEdit)

/-- The size of a multi-key channel is counted again, and the statuses beyond it are dropped. -/
def info (channel : StoredChannel) : ChannelInfo :=
  match edit.channelInfo with
  | none => channel.channelInfo
  | some info =>
    if info.isMultiKey then
      let size := (countedKeys parseArray (if edit.key ≠ "" then edit.key else channel.key)).length
      { info with
        multiKeySize := size
        multiKeyStatusList := info.multiKeyStatusList.filter fun idx _ => idx < size }
    else info

def apply (channel : StoredChannel) : StoredChannel :=
  { channel with
    status := if edit.status ≠ 0 then edit.status else channel.status
    models := if edit.models ≠ "" then edit.models else channel.models
    group := if edit.group ≠ "" then edit.group else channel.group
    priority := edit.priority.or channel.priority
    weight := edit.weight.or channel.weight
    tag := edit.tag.or channel.tag
    key := if edit.key ≠ "" then edit.key else channel.key
    channelInfo := edit.info parseArray channel }

end ChannelEdit

namespace ChannelDB

variable (db : ChannelDB)

def insert (channel : StoredChannel) : ChannelDB where
  channels := db.channels.insert db.nextId channel.create
  abilities := addAbilities db.nextId channel.create db.abilities
  nextId := db.nextId + 1

def update (id : Int) (edit : ChannelEdit) : ChannelDB :=
  match db.channels.row id with
  | none => db
  | some channel =>
    { db with
      channels := db.channels.update id fun _ => edit.apply parseArray channel
      abilities := updateAbilities id (edit.apply parseArray channel) db.abilities }

/-- `UpdateChannelStatus` without the memory cache; with it, the call may return before it reads the table. -/
def updateChannelStatus (id : Int) (call : StatusCall) (now : Time) : ChannelDB :=
  match db.channels.row id with
  | none => db
  | some channel =>
    if channel.status = call.status then db
    else
      let updated := withStatus parseArray channel call now
      let shouldUpdateAbilities := !channel.channelInfo.isMultiKey || updated.status ≠ channel.status
      { db with
        channels := db.channels.update id fun _ => updated
        abilities :=
          if shouldUpdateAbilities then updateAbilityStatus id (call.status = channelStatusEnabled) db.abilities
          else db.abilities }

def setStatusByTag (tag : String) (status : Int) : ChannelDB :=
  { db with
    channels := db.channels.modify fun _ channel =>
      if channel.tag = some tag then { channel with status := status } else channel
    abilities := updateAbilityStatusByTag tag (status = channelStatusEnabled) db.abilities }

def enableChannelByTag (tag : String) : ChannelDB := db.setStatusByTag tag channelStatusEnabled

def disableChannelByTag (tag : String) : ChannelDB := db.setStatusByTag tag channelStatusManuallyDisabled

def editChannelByTag (tag : String) (edit : TagEdit) : ChannelDB :=
  let channels := db.channels.modify fun _ channel => edit.apply tag channel
  { db with
    channels := channels
    abilities :=
      if edit.shouldReCreateAbilities then
        (channels.rows.filter fun row => row.2.tag = some (edit.newTag.getD tag)).foldl
          (fun abilities row => updateAbilities row.1 row.2 abilities) db.abilities
      else updateAbilityByTag tag edit.newTag edit.priority edit.weight db.abilities }

def deleteChannelByStatus (status : Int) : ChannelDB :=
  { db with channels := db.channels.filter fun _ channel => channel.status ≠ status }

def deleteDisabledChannel : ChannelDB :=
  { db with
    channels := db.channels.filter fun _ channel =>
      channel.status ≠ channelStatusAutoDisabled && channel.status ≠ channelStatusManuallyDisabled }

end ChannelDB

inductive ChannelOp
  | insert (channel : StoredChannel)
  | update (id : Int) (edit : ChannelEdit)
  | updateChannelStatus (id : Int) (call : StatusCall) (now : Time)
  | enableChannelByTag (tag : String)
  | disableChannelByTag (tag : String)
  | editChannelByTag (tag : String) (edit : TagEdit)
  | deleteChannelByStatus (status : Int)
  | deleteDisabledChannel

def ChannelOp.apply (db : ChannelDB) : ChannelOp → ChannelDB
  | .insert channel => db.insert channel
  | .update id edit => db.update parseArray id edit
  | .updateChannelStatus id call now => db.updateChannelStatus parseArray id call now
  | .enableChannelByTag tag => db.enableChannelByTag tag
  | .disableChannelByTag tag => db.disableChannelByTag tag
  | .editChannelByTag tag edit => db.editChannelByTag tag edit
  | .deleteChannelByStatus status => db.deleteChannelByStatus status
  | .deleteDisabledChannel => db.deleteDisabledChannel

def channelDBAfter (ops : List ChannelOp) : ChannelDB := ops.foldl (ChannelOp.apply parseArray) {}

end Operations

end LoveApi
