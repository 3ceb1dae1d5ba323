import LoveApi.ChannelCache
import LoveApi.Program.Transition

/-!
# The status of a channel and of its keys

A multi-key channel keeps a status for each of its keys in `channel_info`, and a key without an entry is enabled.
-/

namespace LoveApi

open Program Go

def channelStatusManuallyDisabled : Int := 2

def channelStatusAutoDisabled : Int := 3

/-- A mode that is neither random nor polling falls to the default of the selection. -/
inductive MultiKeyMode
  | random
  | polling
  | unknown
deriving DecidableEq, Repr

structure ChannelInfo where
  isMultiKey : Bool := false
  multiKeySize : Int := 0
  multiKeyStatusList : Table Int Int := .empty
  multiKeyDisabledReason : Table Int String := .empty
  multiKeyDisabledTime : Table Int Time := .empty
  multiKeyPollingIndex : Int := 0
  multiKeyMode : MultiKeyMode := .random

def ChannelInfo.polled (info : ChannelInfo) : Bool := info.isMultiKey && info.multiKeyMode = .polling

structure OtherInfo where
  statusReason : Option String := none
  statusTime : Option Time := none
deriving DecidableEq, Repr

structure StoredChannel extends ChannelRow where
  key : String := ""
  tag : Option String := none
  otherInfo : OtherInfo := {}
  channelInfo : ChannelInfo := {}

/-- `parseArray` is the parse of a JSON array into the texts of its elements. -/
def getKeys (parseArray : String → Option (List String)) (key : String) : List String :=
  if key = "" then []
  else
    let trimmed := trimSpace key
    match if hasPrefix trimmed "[" then parseArray trimmed else none with
    | some keys => keys
    | none => split (trim key '\n') "\n"

structure StatusCall where
  usingKey : String := ""
  status : Int
  reason : String := ""
deriving DecidableEq, Repr

/-- The entries of one key: a key that is enabled loses its status, and keeps the reason and the time. -/
def ChannelInfo.setStatus (info : ChannelInfo) (idx : Int) (call : StatusCall) (now : Time) : ChannelInfo :=
  if call.status = channelStatusEnabled then { info with multiKeyStatusList := info.multiKeyStatusList.erase idx }
  else
    { info with
      multiKeyStatusList := info.multiKeyStatusList.put idx call.status
      multiKeyDisabledReason := info.multiKeyDisabledReason.put idx call.reason
      multiKeyDisabledTime := info.multiKeyDisabledTime.put idx now }

section Keys

variable (parseArray : String → Option (List String))

namespace StoredChannel

variable (channel : StoredChannel)

def keys : List String := getKeys parseArray channel.key

def getStatus (idx : Nat) : Int := (channel.channelInfo.multiKeyStatusList.row idx).getD channelStatusEnabled

def enabledIdx : List Nat :=
  (List.range (channel.keys parseArray).length).filter fun idx => channel.getStatus idx = channelStatusEnabled

def polledIdx (pollingIndex : Int) : Option Nat :=
  let n := (channel.keys parseArray).length
  let start := if pollingIndex < 0 ∨ n ≤ pollingIndex then 0 else pollingIndex.toNat
  ((List.range n).map fun i => (start + i) % n).find? fun idx => channel.getStatus idx = channelStatusEnabled

/-- The selection in polling mode: the index of the key, and the copy with the polling index moved on. -/
def pollKey (pollingIndex : Int) : Nat × StoredChannel :=
  match channel.polledIdx parseArray pollingIndex with
  | some idx =>
    (idx, { channel with
      channelInfo.multiKeyPollingIndex := ((idx + 1) % (channel.keys parseArray).length : Nat) })
  | none => ((channel.enabledIdx parseArray).headD 0, channel)

def keyAt (idx : Nat) : String × Nat := ((channel.keys parseArray).getD idx "", idx)

end StoredChannel

/-- The index of the key that an update is about: the first one with the text, and 0 if none has it. -/
def keyIndex (keys : List String) (usingKey : String) : Nat := (keys.idxOf? usingKey).getD 0

def handlerMultiKeyUpdate (channel : StoredChannel) (call : StatusCall) (now : Time) : StoredChannel :=
  let keys := channel.keys parseArray
  if keys = [] then { channel with status := call.status }
  else
    let info := channel.channelInfo.setStatus (keyIndex keys call.usingKey) call now
    if (info.multiKeyStatusList.keys.length : Int) ≥ info.multiKeySize then
      { channel with
        channelInfo := info
        status := channelStatusAutoDisabled
        otherInfo := { statusReason := some "All keys are disabled", statusTime := some now } }
    else { channel with channelInfo := info }

def withStatus (channel : StoredChannel) (call : StatusCall) (now : Time) : StoredChannel :=
  if channel.channelInfo.isMultiKey then handlerMultiKeyUpdate parseArray channel call now
  else
    { channel with
      otherInfo := { statusReason := some call.reason, statusTime := some now }
      status := call.status }

end Keys

/-! ### With the memory cache -/

structure ChannelMemory where
  group2model2channels : List (String × List (String × List Int))
  channelsIDM : Table Int StoredChannel

namespace ChannelMemory

/-- The cache before the first synchronisation. -/
def empty : ChannelMemory := ⟨[], .empty⟩

variable (memory : ChannelMemory)

def toChannelCache : ChannelCache where
  group2model2channels := memory.group2model2channels
  channelsIDM := memory.channelsIDM.map StoredChannel.toChannelRow

/-- `CacheUpdateChannelStatus`. -/
def updateStatus (id status : Int) : ChannelMemory where
  group2model2channels := (cacheUpdateChannelStatus memory.toChannelCache id status).group2model2channels
  channelsIDM := memory.channelsIDM.update id fun channel => { channel with status := status }

/-- `InitChannelCache`: the channels are read again, and a polled one keeps the polling index of the old cache. -/
def init (channels : Table Int StoredChannel) (abilities : List Ability) : ChannelMemory where
  group2model2channels :=
    (initChannelCache (channels.map StoredChannel.toChannelRow) abilities).group2model2channels
  channelsIDM := channels.modify fun id channel =>
    match memory.channelsIDM.row id with
    | some oldChannel =>
      if channel.channelInfo.polled && oldChannel.channelInfo.polled then
        { channel with channelInfo.multiKeyPollingIndex := oldChannel.channelInfo.multiKeyPollingIndex }
      else channel
    | none => channel

end ChannelMemory

/-- A call of `UpdateChannelStatus`; the clock is read for the cached channel and again for the stored one. -/
structure StatusUpdate extends StatusCall where
  id : Int
  cachedAt : Time := 0
  storedAt : Time := 0
deriving DecidableEq, Repr

section Cached

variable (parseArray : String → Option (List String))

def storeChannelStatus (channels : Table Int StoredChannel) (id : Int) (call : StatusCall) (now : Time) :
    Table Int StoredChannel :=
  match channels.row id with
  | none => channels
  | some channel =>
    if channel.status = call.status then channels
    else channels.update id fun _ => withStatus parseArray channel call now

/-- `UpdateChannelStatus` with the memory cache, on the cache and the table. -/
def updateChannelStatus (u : StatusUpdate) (memory : ChannelMemory) (channels : Table Int StoredChannel) :
    ChannelMemory × Table Int StoredChannel :=
  match memory.channelsIDM.row u.id with
  | none => (memory, channels)
  | some cached =>
    if cached.channelInfo.isMultiKey then
      ({ memory with
          channelsIDM := memory.channelsIDM.update u.id fun channel =>
            handlerMultiKeyUpdate parseArray channel u.toStatusCall u.cachedAt },
        storeChannelStatus parseArray channels u.id u.toStatusCall u.storedAt)
    else if cached.status = u.status then (memory, channels)
    else
      (memory.updateStatus u.id u.status, storeChannelStatus parseArray channels u.id u.toStatusCall u.storedAt)

end Cached

/-! ### Without the memory cache -/

/-- What a call of `GetNextEnabledKey` does next, with its copy of the channel: it has loaded it, it holds the polling
lock and is about to read the polling index, or it is about to save the `channel_info` of the copy. -/
inductive SelectionPc
  | start
  | loaded (copy : StoredChannel)
  | locked (copy : StoredChannel)
  | saving (copy : StoredChannel) (key : String × Nat)
  | done (result : Except String (String × Nat))

/-- What a call of `UpdateChannelStatus` does next. It returns whether it has changed the channel. -/
inductive UpdatePc
  | start
  | loaded (copy : StoredChannel)
  | saving (copy : StoredChannel)
  | done (result : Bool)

inductive KeyCall
  | getNextEnabledKey (draw : Nat)
  | updateChannelStatus (call : StatusCall)
deriving DecidableEq, Repr

inductive KeyRequest
  | selection (draw : Nat) (pc : SelectionPc)
  | update (call : StatusCall) (pc : UpdatePc)

/-- The row of the channel, and whether its polling lock is held across statements. -/
structure KeyStore where
  channel : StoredChannel
  locked : Bool := false

def KeyCall.start : KeyCall → KeyRequest
  | .getNextEnabledKey draw => .selection draw .start
  | .updateChannelStatus call => .update call .start

section Steps

variable (parseArray : String → Option (List String))

/-- `GetNextEnabledKey` from its copy to the statement in polling mode, or to its end. -/
def selectKey (draw : Nat) (copy : StoredChannel) (store : KeyStore) : Option (SelectionPc × KeyStore) :=
  if !copy.channelInfo.isMultiKey then some (.done (.ok (copy.key, 0)), store)
  else if copy.keys parseArray = [] then some (.done (.error "no keys available"), store)
  else if store.locked then none
  else
    match copy.enabledIdx parseArray with
    | [] => some (.done (.error "no enabled keys"), store)
    | first :: rest =>
      match copy.channelInfo.multiKeyMode with
      | .random =>
        some (.done (.ok (copy.keyAt parseArray ((first :: rest).getD (draw % (rest.length + 1)) first))), store)
      | .polling => some (.locked copy, { store with locked := true })
      | .unknown => some (.done (.ok (copy.keyAt parseArray first)), store)

/-- `GetNextEnabledKey` on the channel that the memory cache holds: it polls from the index of the channel itself,
and the index stays there. -/
def getNextEnabledKey (draw : Nat) (channel : StoredChannel) : Except String (String × Nat) × StoredChannel :=
  match selectKey parseArray draw channel { channel } with
  | some (.done result, _) => (result, channel)
  | _ =>
    let (idx, channel) := channel.pollKey parseArray channel.channelInfo.multiKeyPollingIndex
    (.ok (channel.keyAt parseArray idx), channel)

def selectionStep (draw : Nat) (pc : SelectionPc) (store : KeyStore) : Option (SelectionPc × KeyStore) :=
  match pc with
  | .start => some (.loaded store.channel, store)
  | .loaded copy => selectKey parseArray draw copy store
  | .locked copy =>
    let (idx, copy) := copy.pollKey parseArray store.channel.channelInfo.multiKeyPollingIndex
    some (.saving copy (copy.keyAt parseArray idx), store)
  | .saving copy key =>
    some (.done (.ok key), { channel := { store.channel with channelInfo := copy.channelInfo }, locked := false })
  | .done _ => none

def updateStep (now : Time) (call : StatusCall) (pc : UpdatePc) (store : KeyStore) :
    Option (UpdatePc × KeyStore) :=
  match pc with
  | .start => some (.loaded store.channel, store)
  | .loaded copy =>
    if copy.status = call.status then some (.done false, store)
    else if copy.channelInfo.isMultiKey ∧ store.locked then none
    else some (.saving (withStatus parseArray copy call now), store)
  | .saving copy => some (.done true, { store with channel := { copy with key := store.channel.key } })
  | .done _ => none

def keyStep (now : Time) (request : KeyRequest) (store : KeyStore) : Option (KeyRequest × KeyStore) :=
  match request with
  | .selection draw pc => (selectionStep parseArray draw pc store).map fun r => (.selection draw r.1, r.2)
  | .update call pc => (updateStep parseArray now call pc store).map fun r => (.update call r.1, r.2)

def keysAfter (channel : StoredChannel) (calls : List KeyCall) (schedule : List (Nat × Time)) :
    KeyStore × List KeyRequest :=
  (components (keyStep parseArray)).run schedule ({ channel }, calls.map KeyCall.start)

end Steps

end LoveApi
