import Mathlib.Data.List.Perm.Subperm
import LoveApi.ChannelStatus

/-!
# Disabled keys without the memory cache

A key that a call has disabled in the stored `channel_info` stays disabled as long as no call saves a copy that it
loaded before.
-/

namespace LoveApi.Proofs

open Program Go List Option

variable {parseArray : String → Option (List String)} {channel : StoredChannel} {info : ChannelInfo}
  {idx pollingIndex : Int} {store : KeyStore} {calls : List KeyCall} {schedule between : List (Nat × Time)}
  {a : Nat × Time}

variable {copy : StoredChannel} {call : StatusCall} {now : Time} {i : Nat} {r r' : KeyRequest}

def KeyDisabled (channel : StoredChannel) (i : Nat) : Prop := channel.getStatus i ≠ channelStatusEnabled

instance (channel : StoredChannel) (i : Nat) : Decidable (KeyDisabled channel i) :=
  inferInstanceAs (Decidable (_ ≠ _))

def callOf : KeyRequest → KeyCall
  | .selection draw _ => .getNextEnabledKey draw
  | .update call _ => .updateChannelStatus call

def atStart : KeyRequest → Bool
  | .selection _ .start | .update _ .start => true
  | _ => false

def savesCopy : KeyRequest → Bool
  | .selection _ (.saving ..) | .update _ (.saving _) => true
  | _ => false

section Calls

variable (parseArray : String → Option (List String)) (channel : StoredChannel)

def ownKey : KeyCall → Option Nat
  | .getNextEnabledKey _ => none
  | .updateChannelStatus call =>
    if channel.channelInfo.isMultiKey ∧ channel.keys parseArray ≠ [] then
      some (keyIndex (channel.keys parseArray) call.usingKey)
    else none

def Enables (i : Nat) : KeyCall → Prop
  | .getNextEnabledKey _ => False
  | .updateChannelStatus call =>
    call.status = channelStatusEnabled ∧ ownKey parseArray channel (.updateChannelStatus call) = some i

variable (calls : List KeyCall) (schedule : List (Nat × Time))

/-- No step other than one of a call that enables the key removes the mark of a disabled key. -/
def KeepsDisabled : Prop :=
  ∀ (before : List (Nat × Time)) (a : Nat × Time), before ++ [a] <+: schedule →
    ∀ i, KeyDisabled (keysAfter parseArray channel calls before).1.channel i →
      (∀ call ∈ calls[a.1]?, ¬Enables parseArray channel i call) →
      KeyDisabled (keysAfter parseArray channel calls (before ++ [a])).1.channel i

/-- The keys that are disabled when a call saves its copy were disabled when it loaded the copy, but for the key that
the call is about. -/
def SavesCurrentCopy : Prop :=
  ∀ (before between : List (Nat × Time)) (a b : Nat × Time), before ++ a :: between ++ [b] <+: schedule →
    a.1 = b.1 → (∃ r, (keysAfter parseArray channel calls before).2[a.1]? = some r ∧ atStart r) →
    (∃ r, (keysAfter parseArray channel calls (before ++ a :: between)).2[b.1]? = some r ∧ savesCopy r) →
    ∀ i, KeyDisabled (keysAfter parseArray channel calls (before ++ a :: between)).1.channel i →
      KeyDisabled (keysAfter parseArray channel calls before).1.channel i ∨
        ∃ call ∈ calls[b.1]?, ownKey parseArray channel call = some i

/-- A selection that loads the channel after a key was disabled, with no call that enables it, does not return it. -/
def SkipsDisabled : Prop :=
  ∀ before after : List (Nat × Time), schedule = before ++ after →
    ∀ i, KeyDisabled (keysAfter parseArray channel calls before).1.channel i →
      (∀ a ∈ after, ∀ call ∈ calls[a.1]?, ¬Enables parseArray channel i call) →
      ∀ (j draw : Nat), (keysAfter parseArray channel calls before).2[j]? = some (KeyRequest.selection draw .start) →
        ∀ key, (keysAfter parseArray channel calls schedule).2[j]? ≠
          some (KeyRequest.selection draw (.done (.ok (key, i))))

end Calls

lemma multiKeyStatusList_setStatus {j : Int} : (info.setStatus idx call now).multiKeyStatusList.row j =
    if j = idx then if call.status = channelStatusEnabled then none else some call.status
    else info.multiKeyStatusList.row j := by
  unfold ChannelInfo.setStatus
  split
  · exact Table.row_erase ..
  · exact Table.row_put ..

lemma row_setStatus {j : Int} : ((info.setStatus idx call now).multiKeyStatusList.row j).getD channelStatusEnabled =
      if j = idx then call.status else (info.multiKeyStatusList.row j).getD channelStatusEnabled := by
  rw [multiKeyStatusList_setStatus]
  split
  · split <;> simp [*]
  · rfl

lemma multiKeySize_setStatus : (info.setStatus idx call now).multiKeySize = info.multiKeySize := by
  unfold ChannelInfo.setStatus
  split <;> rfl

lemma channelInfo_handlerMultiKeyUpdate : (handlerMultiKeyUpdate parseArray channel call now).channelInfo =
    if channel.keys parseArray = [] then channel.channelInfo
    else channel.channelInfo.setStatus (keyIndex (channel.keys parseArray) call.usingKey) call now := by
  unfold handlerMultiKeyUpdate
  dsimp only
  split
  · rfl
  · split
    · rfl
    · rfl

lemma status_handlerMultiKeyUpdate (h : channel.keys parseArray ≠ []) :
    let info := channel.channelInfo.setStatus (keyIndex (channel.keys parseArray) call.usingKey) call now
    (handlerMultiKeyUpdate parseArray channel call now).status =
      if info.multiKeySize ≤ info.multiKeyStatusList.keys.length then channelStatusAutoDisabled
      else channel.status := by
  unfold handlerMultiKeyUpdate
  dsimp only
  rw [if_neg h]
  split <;> rfl

lemma key_handlerMultiKeyUpdate : (handlerMultiKeyUpdate parseArray channel call now).key = channel.key := by
  unfold handlerMultiKeyUpdate
  dsimp only
  split
  · rfl
  · split
    · rfl
    · rfl

/-- The status list names only keys that exist. -/
def NamesKeys (statuses : Table Int Int) (n : Nat) : Prop := ∀ k, (statuses.row k).isSome → ∃ i < n, k = (i : Int)

lemma NamesKeys.length_ge_iff {statuses : Table Int Int} {n : Nat} (h : NamesKeys statuses n) :
    n ≤ statuses.keys.length ↔ ∀ i < n, (statuses.row i).isSome := by
  have hsub : statuses.keys ⊆ (range n).map Nat.cast := by
    intro k hk
    obtain ⟨i, hi, rfl⟩ := h k ((statuses.mem_keys k).mp hk)
    exact mem_map_of_mem (mem_range.mpr hi)
  have hnodup : ((range n).map (Nat.cast : Nat → Int)).Nodup := nodup_range.map Nat.cast_injective
  simp only [← statuses.mem_keys]
  constructor
  · intro hlen i hi
    have hperm := (statuses.nodup.subperm hsub).perm_of_length_le (by simpa using hlen)
    exact hperm.mem_iff.mpr (mem_map_of_mem (mem_range.mpr hi))
  · intro hall
    have hsub' : (range n).map Nat.cast ⊆ statuses.keys := by
      simpa [subset_def] using hall
    simpa using (hnodup.subperm hsub').length_le

section KeyUpdate

variable (parseArray : String → Option (List String)) (channel : StoredChannel) (call : StatusCall) (now : Time)

/-- The call changes the status of no other key, and disables the channel exactly if no key is enabled after it. -/
def UpdatesOneKey : Prop :=
  let keys := channel.keys parseArray
  let updated := handlerMultiKeyUpdate parseArray channel call now
  (∀ i < keys.length, keys[i]? ≠ some call.usingKey → updated.getStatus i = channel.getStatus i) ∧
    updated.status = if ∀ i < keys.length, updated.getStatus i ≠ channelStatusEnabled then channelStatusAutoDisabled
      else channel.status

/-- The call disables the last key without an entry in the status list, and another entry is that of an enabled key. -/
def CountsEnabled : Prop :=
  let others := (range (channel.keys parseArray).length).erase (keyIndex (channel.keys parseArray) call.usingKey)
  call.status ≠ channelStatusEnabled ∧ (∀ i ∈ others, (channel.channelInfo.multiKeyStatusList.row i).isSome) ∧
    ∃ i ∈ others, channel.channelInfo.multiKeyStatusList.row i = some channelStatusEnabled

/-- The key is one of the channel, or the call is not to change the first one; and an entry counts as that of a disabled
key only if it is. -/
def FitsKeys : Prop :=
  (channel.keys parseArray = [] → call.status = channelStatusAutoDisabled) ∧ (channel.keys parseArray ≠ [] →
    (call.usingKey ∈ channel.keys parseArray ∨ call.status = channel.getStatus 0) ∧
    (CountsEnabled parseArray channel call → channel.status = channelStatusAutoDisabled))

end KeyUpdate

instance : Decidable (CountsEnabled parseArray channel call) := inferInstanceAs (Decidable (_ ∧ _ ∧ _))

instance : Decidable (FitsKeys parseArray channel call) := inferInstanceAs (Decidable ((_ → _) ∧ (_ → _)))

lemma keyIndex_spec {keys : List String} (hne : keys ≠ []) (usingKey : String) :
    keyIndex keys usingKey < keys.length ∧
      (keys[keyIndex keys usingKey]? = some usingKey ∨ usingKey ∉ keys ∧ keyIndex keys usingKey = 0) := by
  unfold keyIndex
  cases hidx : keys.idxOf? usingKey with
  | none => exact ⟨length_pos_iff.mpr hne, .inr ⟨idxOf?_eq_none_iff.mp hidx, rfl⟩⟩
  | some idx =>
    obtain ⟨hlt, hat, -⟩ := findIdx?_eq_some_iff_getElem.mp hidx
    exact ⟨hlt, .inl (by rw [getD_some, getElem?_eq_getElem hlt, eq_of_beq hat])⟩

lemma getStatus_handlerMultiKeyUpdate (hne : channel.keys parseArray ≠ []) :
    (handlerMultiKeyUpdate parseArray channel call now).getStatus i =
      if i = keyIndex (channel.keys parseArray) call.usingKey then call.status else channel.getStatus i := by
  unfold StoredChannel.getStatus
  rw [channelInfo_handlerMultiKeyUpdate, if_neg hne, row_setStatus]
  simp only [Nat.cast_inj]

lemma others_unchanged_iff (hne : channel.keys parseArray ≠ []) :
    (∀ i < (channel.keys parseArray).length, (channel.keys parseArray)[i]? ≠ some call.usingKey →
      (handlerMultiKeyUpdate parseArray channel call now).getStatus i = channel.getStatus i) ↔
    call.usingKey ∈ channel.keys parseArray ∨ call.status = channel.getStatus 0 := by
  obtain ⟨hlt, hindex⟩ := keyIndex_spec hne call.usingKey
  simp only [getStatus_handlerMultiKeyUpdate hne]
  rcases hindex with hat | ⟨hmissing, hzero⟩
  · refine iff_of_true (fun i hi hother => if_neg ?_) (.inl (mem_of_getElem? hat))
    rintro rfl
    exact hother hat
  · rw [hzero]
    constructor
    · intro h
      have hfirst := h 0 (length_pos_iff.mpr hne) fun hat => hmissing (mem_of_getElem? hat)
      exact .inr (by simpa using hfirst)
    · intro h i hi hother
      have hstatus := h.resolve_left hmissing
      split
      · next hi => rw [hi, hstatus]
      · rfl

lemma countsEnabled_iff (hne : channel.keys parseArray ≠ [])
    (hinfo : info = channel.channelInfo.setStatus (keyIndex (channel.keys parseArray) call.usingKey) call now) :
    CountsEnabled parseArray channel call ↔
      (∀ i < (channel.keys parseArray).length, (info.multiKeyStatusList.row i).isSome) ∧
      ∃ i < (channel.keys parseArray).length, info.multiKeyStatusList.row i = some channelStatusEnabled := by
  obtain ⟨hlt, -⟩ := keyIndex_spec hne call.usingKey
  simp only [CountsEnabled, nodup_range.mem_erase_iff, mem_range, hinfo, multiKeyStatusList_setStatus, Nat.cast_inj]
  constructor
  · rintro ⟨hstatus, hall, i, ⟨hother, hi⟩, hrow⟩
    refine ⟨fun j hj => ?_, i, hi, by rw [if_neg hother, hrow]⟩
    split
    · simp
    · next hj' => exact hall j ⟨hj', hj⟩
  · rintro ⟨hall, i, hi, hrow⟩
    have hstatus : call.status ≠ channelStatusEnabled := fun heq => by simpa [heq] using hall _ hlt
    refine ⟨hstatus, fun j hj => by simpa [hj.1] using hall j hj.2, i, ?_⟩
    split at hrow
    · simp [hstatus] at hrow
    · next hother => exact ⟨⟨hother, hi⟩, hrow⟩

lemma status_exact_iff (hlist : NamesKeys channel.channelInfo.multiKeyStatusList (channel.keys parseArray).length)
    (hsize : channel.channelInfo.multiKeySize = (channel.keys parseArray).length) (hne : channel.keys parseArray ≠ []) :
    let updated := handlerMultiKeyUpdate parseArray channel call now
    (updated.status = if ∀ i < (channel.keys parseArray).length, updated.getStatus i ≠ channelStatusEnabled then
      channelStatusAutoDisabled else channel.status) ↔
    (CountsEnabled parseArray channel call → channel.status = channelStatusAutoDisabled) := by
  intro updated
  obtain ⟨hlt, -⟩ := keyIndex_spec hne call.usingKey
  set info := channel.channelInfo.setStatus (keyIndex (channel.keys parseArray) call.usingKey) call now with hinfo
  have hnames : NamesKeys info.multiKeyStatusList (channel.keys parseArray).length := by
    intro k
    rw [hinfo, multiKeyStatusList_setStatus]
    split
    · next heq => exact fun _ => ⟨_, hlt, heq⟩
    · exact hlist k
  have hget i : updated.getStatus i = (info.multiKeyStatusList.row i).getD channelStatusEnabled := by
    unfold StoredChannel.getStatus
    rw [channelInfo_handlerMultiKeyUpdate, if_neg hne]
  have hstatus : updated.status = if ∀ i < (channel.keys parseArray).length, (info.multiKeyStatusList.row i).isSome then
      channelStatusAutoDisabled else channel.status := by
    have hsize' : info.multiKeySize = (channel.keys parseArray).length := multiKeySize_setStatus.trans hsize
    simp only [updated, status_handlerMultiKeyUpdate hne, ← hinfo, hsize', Nat.cast_le, hnames.length_ge_iff]
  rw [hstatus, countsEnabled_iff hne hinfo]
  simp only [hget]
  by_cases hall : ∀ i < (channel.keys parseArray).length, (info.multiKeyStatusList.row i).isSome
  · by_cases hdisabled :
        ∃ i < (channel.keys parseArray).length, info.multiKeyStatusList.row i = some channelStatusEnabled
    · obtain ⟨i, hi, hrow⟩ := hdisabled
      rw [if_pos hall, if_neg fun h => h i hi (by rw [hrow, getD_some])]
      exact ⟨fun h _ => h.symm, fun h => (h ⟨hall, i, hi, hrow⟩).symm⟩
    · rw [if_pos hall, if_pos]
      · exact iff_of_true rfl fun h => absurd h.2 hdisabled
      · intro i hi heq
        obtain ⟨status, hrow⟩ := isSome_iff_exists.mp (hall i hi)
        rw [hrow, getD_some] at heq
        exact hdisabled ⟨i, hi, by rw [hrow, heq]⟩
  · rw [if_neg hall, if_neg]
    · exact iff_of_true rfl fun h => absurd h.1 hall
    · intro h
      refine hall fun i hi => isSome_iff_ne_none.mpr fun hnone => h i hi ?_
      rw [hnone, getD_none]

/-- An update does what it is for exactly if it fits the keys of the channel. -/
theorem handlerMultiKeyUpdate_iff
    (hlist : NamesKeys channel.channelInfo.multiKeyStatusList (channel.keys parseArray).length)
    (hsize : channel.channelInfo.multiKeySize = (channel.keys parseArray).length) :
    UpdatesOneKey parseArray channel call now ↔ FitsKeys parseArray channel call := by
  by_cases hne : channel.keys parseArray = []
  · simp [UpdatesOneKey, FitsKeys, handlerMultiKeyUpdate, hne]
  · simp only [FitsKeys, hne, false_implies, true_and, ne_eq, not_false_eq_true, true_implies]
    exact and_congr (others_unchanged_iff hne) (status_exact_iff hlist hsize hne)

/-- A channel with two keys that are polled, the second one first. -/
def twoKeys : StoredChannel where
  models := "m"
  key := "a\nb"
  channelInfo := { isMultiKey := true, multiKeySize := 2, multiKeyPollingIndex := 1, multiKeyMode := .polling }

theorem handlerMultiKeyUpdate_iff_two :
    UpdatesOneKey (fun _ => none) twoKeys { usingKey := "a", status := 3 } 0 :=
  (handlerMultiKeyUpdate_iff (fun _ h => (by cases h)) rfl).mpr (by decide +kernel)

/-- A key that the channel does not have any more is taken for the first one. -/
theorem handlerMultiKeyUpdate_stale : "c" ∉ twoKeys.keys (fun _ => none) ∧ twoKeys.getStatus 0 = 1 ∧
    (handlerMultiKeyUpdate (fun _ => none) twoKeys { usingKey := "c", status := 3 } 0).getStatus 0 = 3 := by
  decide +kernel

lemma getStatus_withStatus : (withStatus parseArray channel call now).getStatus i =
    if ownKey parseArray channel (.updateChannelStatus call) = some i then call.status else channel.getStatus i := by
  unfold withStatus StoredChannel.getStatus
  by_cases hmulti : channel.channelInfo.isMultiKey
  · rw [if_pos hmulti, channelInfo_handlerMultiKeyUpdate]
    by_cases hkeys : channel.keys parseArray = []
    · have hown : ownKey parseArray channel (.updateChannelStatus call) = none := if_neg fun h => h.2 hkeys
      rw [if_pos hkeys, hown, if_neg (some_ne_none i).symm]
    · have hown : ownKey parseArray channel (.updateChannelStatus call) =
          some (keyIndex (channel.keys parseArray) call.usingKey) := if_pos ⟨hmulti, hkeys⟩
      rw [if_neg hkeys, hown, row_setStatus]
      simp only [Nat.cast_inj, some.injEq, eq_comm]
  · have hown : ownKey parseArray channel (.updateChannelStatus call) = none := if_neg fun h => hmulti h.1
    rw [if_neg hmulti, hown, if_neg (some_ne_none i).symm]

structure SameKeys (channel copy : StoredChannel) : Prop where
  key : copy.key = channel.key
  isMultiKey : copy.channelInfo.isMultiKey = channel.channelInfo.isMultiKey

lemma SameKeys.keys (h : SameKeys channel copy) : copy.keys parseArray = channel.keys parseArray := by
  unfold StoredChannel.keys
  rw [h.key]

lemma SameKeys.ownKey (h : SameKeys channel copy) (call : KeyCall) :
    ownKey parseArray copy call = ownKey parseArray channel call := by
  cases call with
  | getNextEnabledKey draw => rfl
  | updateChannelStatus call =>
    unfold Proofs.ownKey
    rw [h.keys, h.isMultiKey]

lemma SameKeys.withStatus (h : SameKeys channel copy) : SameKeys channel (withStatus parseArray copy call now) := by
  unfold LoveApi.withStatus
  split
  · refine ⟨key_handlerMultiKeyUpdate.trans h.key, ?_⟩
    rw [channelInfo_handlerMultiKeyUpdate]
    split
    · exact h.isMultiKey
    · unfold ChannelInfo.setStatus
      split <;> exact h.isMultiKey
  · exact ⟨h.key, h.isMultiKey⟩

lemma SameKeys.pollKey (h : SameKeys channel copy) (pollingIndex : Int) :
    SameKeys channel (copy.pollKey parseArray pollingIndex).2 := by
  unfold StoredChannel.pollKey
  split
  · exact ⟨h.key, h.isMultiKey⟩
  · exact h

lemma mem_enabledIdx : i ∈ copy.enabledIdx parseArray ↔
    i < (copy.keys parseArray).length ∧ copy.getStatus i = channelStatusEnabled := by
  unfold StoredChannel.enabledIdx
  simp

lemma getStatus_polled (h : copy.enabledIdx parseArray ≠ []) :
    copy.getStatus (copy.pollKey parseArray pollingIndex).1 = channelStatusEnabled := by
  unfold StoredChannel.pollKey
  split
  · next hidx => simpa using find?_some hidx
  · obtain ⟨first, rest, hrest⟩ := exists_cons_of_ne_nil h
    have hmem : first ∈ copy.enabledIdx parseArray := by
      rw [hrest]
      exact mem_cons_self
    rw [hrest]
    exact (mem_enabledIdx.mp hmem).2

section RoundRobin

variable {draw : Nat}

/-- The result of call `m` on a channel of the memory cache. -/
def nthKey (parseArray : String → Option (List String)) (draw : Nat) (channel : StoredChannel) (m : Nat) :
    Except String (String × Nat) :=
  (getNextEnabledKey parseArray draw ((fun c => (getNextEnabledKey parseArray draw c).2)^[m] channel)).1

def pollsFrom (channel : StoredChannel) (index : Int) : StoredChannel :=
  { channel with channelInfo.multiKeyPollingIndex := index }

/-- The enabled keys in the order of their turns from a polling index on. -/
def turns (parseArray : String → Option (List String)) (channel : StoredChannel) (index : Int) : List Nat :=
  let n := (channel.keys parseArray).length
  ((range n).rotate (if index < 0 ∨ n ≤ index then 0 else index.toNat)).filter
    fun idx => channel.getStatus idx = channelStatusEnabled

variable (hmulti : channel.channelInfo.isMultiKey) (hmode : channel.channelInfo.multiKeyMode = .polling)
  (hsome : channel.enabledIdx parseArray ≠ [])

include hmulti hmode hsome

lemma selectKey_polling : selectKey parseArray draw channel { channel } = some (.locked channel, ⟨channel, true⟩) := by
  obtain ⟨first, rest, hidx⟩ := exists_cons_of_ne_nil hsome
  have hkeys : channel.keys parseArray ≠ [] := fun h => hsome (by simp [StoredChannel.enabledIdx, h])
  simp [selectKey, hmulti, hkeys, hidx, hmode]

lemma getNextEnabledKey_step (draw : Nat) (x : Int) : ∃ (i : Nat) (y : Int),
    (turns parseArray channel x).head? = some i ∧
    getNextEnabledKey parseArray draw (pollsFrom channel x) = (.ok (channel.keyAt parseArray i), pollsFrom channel y) ∧
    turns parseArray channel y = (turns parseArray channel x).rotate 1 := by
  have hkeys : channel.keys parseArray ≠ [] := fun h => hsome (by simp [StoredChannel.enabledIdx, h])
  obtain ⟨j, hj⟩ : ∃ j, turns parseArray channel x = (channel.enabledIdx parseArray).rotate j := exists_filter_rotate
  obtain ⟨i, rest, hturns⟩ := exists_cons_of_ne_nil (show turns parseArray channel x ≠ [] by simp [hj, hsome])
  have hpoll : channel.polledIdx parseArray x = some i := by
    rw [StoredChannel.polledIdx, map_add_mod_range, ← head?_filter]
    exact congrArg head? hturns
  refine ⟨i, ((i + 1) % (channel.keys parseArray).length : Nat), congrArg head? hturns, ?_, ?_⟩
  · rw [getNextEnabledKey, @selectKey_polling parseArray (pollsFrom channel x) draw hmulti hmode hsome]
    have hpoll' : (pollsFrom channel x).polledIdx parseArray (pollsFrom channel x).channelInfo.multiKeyPollingIndex =
      some i := hpoll
    simp only [StoredChannel.pollKey, hpoll']
    rfl
  · have hlt := Nat.mod_lt (i + 1) (length_pos_iff.mpr hkeys)
    rw [StoredChannel.polledIdx, map_add_mod_range] at hpoll
    rw [turns, if_neg (by omega)]
    exact filter_rotate_succ hpoll

/-- Whatever the stored index is, the calls go through the enabled keys in cyclic order: what `k` consecutive ones
return from any call `m` on is a rotation of the `k` enabled keys. -/
theorem nthKey_rotates : ∃ j, ∀ m,
    ((range (channel.enabledIdx parseArray).length).map fun t => nthKey parseArray draw channel (m + t)) =
      ((channel.enabledIdx parseArray).rotate (j + m)).map fun i => .ok (channel.keyAt parseArray i) := by
  obtain ⟨j, hj⟩ : ∃ j, turns parseArray channel channel.channelInfo.multiKeyPollingIndex =
    (channel.enabledIdx parseArray).rotate j := exists_filter_rotate
  have hafter : ∀ m, ∃ x, (fun c => (getNextEnabledKey parseArray draw c).2)^[m] channel = pollsFrom channel x ∧
      turns parseArray channel x = (channel.enabledIdx parseArray).rotate (j + m) := by
    intro m
    induction m with
    | zero => exact ⟨_, rfl, hj⟩
    | succ m ih =>
      obtain ⟨x, hx, hturns⟩ := ih
      obtain ⟨i, y, -, hcall, hnext⟩ := getNextEnabledKey_step hmulti hmode hsome draw x
      refine ⟨y, ?_, ?_⟩
      · rw [Function.iterate_succ_apply', hx, hcall]
      · rw [hnext, hturns, rotate_rotate, add_assoc]
  refine ⟨j, fun m => ext_getElem (by simp) fun t ht _ => ?_⟩
  obtain ⟨x, hx, hturns⟩ := hafter (m + t)
  obtain ⟨i, _, hhead, hcall, -⟩ := getNextEnabledKey_step hmulti hmode hsome draw x
  rw [hturns, ← add_assoc, ← rotate_rotate, head?_rotate (by simpa using ht)] at hhead
  obtain ⟨_, rfl⟩ := List.getElem?_eq_some_iff.mp hhead
  simp only [getElem_map, getElem_range, nthKey, hx, hcall]

omit hmulti hmode hsome

theorem nthKey_rotates_two : ∃ j, ∀ m, ((range 2).map fun t => nthKey (fun _ => none) 0 twoKeys (m + t)) =
    ([0, 1].rotate (j + m)).map fun i => .ok (twoKeys.keyAt (fun _ => none) i) :=
  @nthKey_rotates _ twoKeys _ rfl rfl (by decide)

end RoundRobin

section Steps

variable {draw : Nat} {store' : KeyStore}

lemma selectKey_cases {pc : SelectionPc}
    (h : selectKey parseArray draw copy store = some (pc, store')) : store'.channel = store.channel ∧
      (pc = .locked copy ∧ copy.enabledIdx parseArray ≠ [] ∨ ∃ result, pc = .done result ∧ ∀ key i,
        result = .ok (key, i) → copy.channelInfo.isMultiKey → copy.getStatus i = channelStatusEnabled) := by
  unfold selectKey at h
  split at h
  · next hmulti =>
    cases h
    exact ⟨rfl, .inr ⟨_, rfl, fun _ _ _ h => by simp [h] at hmulti⟩⟩
  split at h
  · cases h
    exact ⟨rfl, .inr ⟨_, rfl, fun _ _ h => nomatch h⟩⟩
  split at h
  · cases h
  split at h
  · cases h
    exact ⟨rfl, .inr ⟨_, rfl, fun _ _ h => nomatch h⟩⟩
  next first rest hidx =>
  have henabled : ∀ idx ∈ first :: rest, copy.getStatus idx = channelStatusEnabled := by
    intro idx hmem
    rw [← hidx] at hmem
    exact (mem_enabledIdx.mp hmem).2
  split at h
  · cases h
    refine ⟨rfl, .inr ⟨_, rfl, fun key i hkey _ => ?_⟩⟩
    cases hkey
    have hlt : draw % (rest.length + 1) < (first :: rest).length := Nat.mod_lt _ (Nat.succ_pos _)
    rw [getD_eq_getElem?_getD, getElem?_eq_getElem hlt]
    exact henabled _ (getElem_mem hlt)
  · cases h
    exact ⟨rfl, .inl ⟨rfl, by rw [hidx]; exact cons_ne_nil _ _⟩⟩
  · cases h
    refine ⟨rfl, .inr ⟨_, rfl, fun key i hkey _ => ?_⟩⟩
    cases hkey
    exact henabled _ mem_cons_self

lemma updateStep_loaded {pc : UpdatePc}
    (h : updateStep parseArray now call (.loaded copy) store = some (pc, store')) : store'.channel = store.channel ∧
      (pc = .done false ∨ pc = .saving (withStatus parseArray copy call now)) := by
  unfold updateStep at h
  dsimp only at h
  split at h
  · cases h
    exact ⟨rfl, .inl rfl⟩
  split at h
  · cases h
  · cases h
    exact ⟨rfl, .inr rfl⟩

lemma keyStep_ne_none (h : atStart r ∨ savesCopy r) : keyStep parseArray now r store ≠ none := by
  cases r with
  | selection draw pc | update call pc =>
    cases pc with
    | start | saving => exact some_ne_none _
    | _ => simp [atStart, savesCopy] at h

inductive Moves (parseArray : String → Option (List String)) (channel : StoredChannel) :
    KeyRequest → KeyRequest → StoredChannel → Prop
  | loadSelection (draw : Nat) :
    Moves parseArray channel (.selection draw .start) (.selection draw (.loaded channel)) channel
  | lock (draw : Nat) (copy : StoredChannel) (hidx : copy.enabledIdx parseArray ≠ []) :
    Moves parseArray channel (.selection draw (.loaded copy)) (.selection draw (.locked copy)) channel
  | finish (draw : Nat) (copy : StoredChannel) (result : Except String (String × Nat))
      (hresult : ∀ key i, result = .ok (key, i) → copy.channelInfo.isMultiKey →
        copy.getStatus i = channelStatusEnabled) :
    Moves parseArray channel (.selection draw (.loaded copy)) (.selection draw (.done result)) channel
  | poll (draw : Nat) (copy : StoredChannel) (pollingIndex : Int) :
    Moves parseArray channel (.selection draw (.locked copy))
      (.selection draw (.saving (copy.pollKey parseArray pollingIndex).2
        ((copy.pollKey parseArray pollingIndex).2.keyAt parseArray (copy.pollKey parseArray pollingIndex).1))) channel
  | saveSelection (draw : Nat) (copy : StoredChannel) (key : String × Nat) :
    Moves parseArray channel (.selection draw (.saving copy key)) (.selection draw (.done (.ok key)))
      { channel with channelInfo := copy.channelInfo }
  | loadUpdate (call : StatusCall) :
    Moves parseArray channel (.update call .start) (.update call (.loaded channel)) channel
  | unchanged (call : StatusCall) (copy : StoredChannel) :
    Moves parseArray channel (.update call (.loaded copy)) (.update call (.done false)) channel
  | handle (call : StatusCall) (copy : StoredChannel) (now : Time) :
    Moves parseArray channel (.update call (.loaded copy))
      (.update call (.saving (withStatus parseArray copy call now))) channel
  | saveUpdate (call : StatusCall) (copy : StoredChannel) :
    Moves parseArray channel (.update call (.saving copy)) (.update call (.done true)) { copy with key := channel.key }

lemma moves_of_keyStep (h : keyStep parseArray now r store = some (r', store')) :
    Moves parseArray store.channel r r' store'.channel := by
  cases r with
  | selection draw pc =>
    obtain ⟨⟨pc', s⟩, hstep, hr⟩ := map_eq_some_iff.mp h
    cases hr
    cases pc with
    | start =>
      cases hstep
      exact .loadSelection draw
    | loaded copy =>
      obtain ⟨hrow, ⟨rfl, hidx⟩ | ⟨result, rfl, hresult⟩⟩ := selectKey_cases hstep
      · rw [hrow]
        exact .lock draw copy hidx
      · rw [hrow]
        exact .finish draw copy result hresult
    | locked copy =>
      cases hstep
      exact .poll draw copy _
    | saving copy key =>
      cases hstep
      exact .saveSelection draw copy key
    | done result => cases hstep
  | update call pc =>
    obtain ⟨⟨pc', s⟩, hstep, hr⟩ := map_eq_some_iff.mp h
    cases hr
    cases pc with
    | start =>
      cases hstep
      exact .loadUpdate call
    | loaded copy =>
      obtain ⟨hrow, rfl | rfl⟩ := updateStep_loaded hstep
      · rw [hrow]
        exact .unchanged call copy
      · rw [hrow]
        exact .handle call copy now
    | saving copy =>
      cases hstep
      exact .saveUpdate call copy
    | done result => cases hstep

end Steps

section Moves

variable {channel' loaded : StoredChannel}

def copyOf : KeyRequest → Option StoredChannel
  | .selection _ (.loaded copy) | .selection _ (.locked copy) | .selection _ (.saving copy _) => some copy
  | .update _ (.loaded copy) | .update _ (.saving copy) => some copy
  | _ => none

variable (h : Moves parseArray channel r r' channel')

include h

lemma Moves.callOf : callOf r' = callOf r := by
  cases h with
  | _ => rfl

lemma Moves.started : atStart r' = false := by
  cases h with
  | _ => rfl

lemma Moves.row : channel' = channel ∧ savesCopy r = false ∨
    ∃ copy, copyOf r = some copy ∧ savesCopy r ∧ channel'.key = channel.key ∧
      channel'.channelInfo = copy.channelInfo := by
  cases h with
  | saveSelection draw copy key | saveUpdate call copy => exact .inr ⟨copy, rfl, rfl, rfl, rfl⟩
  | _ => exact .inl ⟨rfl, rfl⟩

lemma Moves.copyOf (hstored : SameKeys loaded channel)
    (hold : ∀ copy ∈ copyOf r, SameKeys loaded copy) (hcopy : copyOf r' = some copy) : SameKeys loaded copy := by
  cases h with
  | loadSelection | loadUpdate =>
    cases hcopy
    exact hstored
  | lock draw copy => exact hold _ hcopy
  | poll draw copy =>
    cases hcopy
    exact (hold copy rfl).pollKey _
  | handle call copy =>
    cases hcopy
    exact (hold copy rfl).withStatus
  | finish | saveSelection | unchanged | saveUpdate => cases hcopy

def WorksOn (parseArray : String → Option (List String)) (loaded : StoredChannel) : KeyRequest → Prop
  | .selection _ (.loaded copy) | .selection _ (.locked copy) => copy = loaded
  | .selection _ (.saving copy _) => ∀ i, copy.getStatus i = loaded.getStatus i
  | .update _ (.loaded copy) => copy = loaded
  | .update call (.saving copy) => ∃ now, copy = withStatus parseArray loaded call now
  | _ => True

lemma Moves.worksOn_of_atStart (hstart : atStart r) : WorksOn parseArray channel r' := by
  cases h with
  | loadSelection | loadUpdate => rfl
  | _ => cases hstart

lemma Moves.worksOn (hstart : atStart r = false)
    (hworks : WorksOn parseArray loaded r) : WorksOn parseArray loaded r' := by
  cases h with
  | loadSelection | loadUpdate => cases hstart
  | lock => exact hworks
  | poll draw copy pollingIndex =>
    obtain rfl : copy = loaded := hworks
    intro i
    unfold StoredChannel.pollKey
    split <;> rfl
  | handle call copy now =>
    obtain rfl : copy = loaded := hworks
    exact ⟨now, rfl⟩
  | finish | saveSelection | unchanged | saveUpdate => trivial

omit h in
lemma WorksOn.getStatus (h : WorksOn parseArray loaded r) (hsaves : savesCopy r) (hcopy : copyOf r = some copy)
    (i : Nat) :
    (ownKey parseArray loaded (callOf r) ≠ some i → copy.getStatus i = loaded.getStatus i) ∧
      ∀ call, callOf r = .updateChannelStatus call → ownKey parseArray loaded (callOf r) = some i →
        copy.getStatus i = call.status := by
  cases r with
  | selection draw pc =>
    cases pc with
    | saving copy' key =>
      cases hcopy
      exact ⟨fun _ => h i, fun call hcall => nomatch hcall⟩
    | _ => cases hsaves
  | update call pc =>
    cases pc with
    | saving copy' =>
      cases hcopy
      obtain ⟨now, rfl⟩ := h
      rw [getStatus_withStatus]
      refine ⟨fun hown => if_neg hown, fun call' hcall hown => ?_⟩
      obtain rfl := KeyCall.updateChannelStatus.inj hcall
      exact if_pos hown
    | _ => cases hsaves

def Skips (parseArray : String → Option (List String)) (i : Nat) : KeyRequest → Prop
  | .selection _ (.loaded copy) => copy.channelInfo.isMultiKey ∧ KeyDisabled copy i
  | .selection _ (.locked copy) => copy.enabledIdx parseArray ≠ [] ∧ KeyDisabled copy i
  | .selection _ (.saving _ key) => key.2 ≠ i
  | .selection _ (.done (.ok key)) => key.2 ≠ i
  | _ => True

lemma Moves.skips (hmulti : channel.channelInfo.isMultiKey)
    (hdisabled : KeyDisabled channel i) (hskips : Skips parseArray i r) : Skips parseArray i r' := by
  cases h with
  | loadSelection => exact ⟨hmulti, hdisabled⟩
  | lock draw copy hidx => exact ⟨hidx, hskips.2⟩
  | finish draw copy result hresult =>
    cases result with
    | error => trivial
    | ok key =>
      rintro rfl
      exact hskips.2 (hresult key.1 key.2 rfl hskips.1)
  | poll draw copy pollingIndex =>
    rintro rfl
    exact hskips.2 (getStatus_polled hskips.1)
  | saveSelection => exact hskips
  | loadUpdate | unchanged | handle | saveUpdate => trivial

end Moves

section Runs

variable {j : Nat}
variable {before : List (Nat × Time)} {run : List (Nat × Time) → KeyStore × List KeyRequest}

structure KeysOk (channel : StoredChannel) (calls : List KeyCall) (x : KeyStore × List KeyRequest) : Prop where
  calls : x.2.map callOf = calls
  stored : SameKeys channel x.1.channel
  copies : ∀ r ∈ x.2, ∀ copy ∈ copyOf r, SameKeys channel copy

lemma started_of_saves (h : savesCopy r) : atStart r = false := by
  cases r with
  | selection draw pc | update call pc =>
    cases pc with
    | saving => rfl
    | _ => cases h

variable (hrun : run = keysAfter parseArray channel calls)

include hrun

lemma keysOk (schedule : List (Nat × Time)) : KeysOk channel calls (run schedule) := by
  subst hrun
  refine System.run_induction (fun a _ x y hstep h => ?_) ⟨?_, ⟨rfl, rfl⟩, ?_⟩
  · obtain ⟨r, r', store, hr, hkey, rfl⟩ := components_cases hstep
    have hmem := mem_of_getElem? hr
    have hmoves := moves_of_keyStep hkey
    refine ⟨?_, ?_, forall_mem_set h.copies (fun _ h => h) fun copy hcopy =>
      hmoves.copyOf h.stored (h.copies r hmem) hcopy⟩
    · rw [map_set, hmoves.callOf, h.calls]
      have hget : calls[a.1]? = some (callOf r) := by
        rw [← h.calls, getElem?_map, hr]
        rfl
      obtain ⟨hlt, hcalls⟩ := List.getElem?_eq_some_iff.mp hget
      rw [← hcalls, List.set_getElem_self]
    · obtain ⟨hsame, -⟩ | ⟨copy, hcopy, -, hkeys, hinfo⟩ := hmoves.row
      · rw [hsame]
        exact h.stored
      · refine ⟨hkeys.trans h.stored.key, ?_⟩
        rw [hinfo]
        exact (h.copies r hmem copy hcopy).isMultiKey
  · rw [List.map_map]
    conv_rhs => rw [← map_id calls]
    refine map_congr_left fun call _ => ?_
    cases call with
    | _ => rfl
  · intro r hr copy hcopy
    obtain ⟨call, -, rfl⟩ := mem_map.mp hr
    cases call with
    | _ => cases hcopy

lemma calls_getElem? (hr : (run schedule).2[j]? = some r) : calls[j]? = some (callOf r) := by
  rw [← (keysOk hrun schedule).calls, getElem?_map, hr]
  rfl

lemma keysAfter_concat (schedule : List (Nat × Time)) (a : Nat × Time) :
    (run (schedule ++ [a]) = run schedule ∧
      ∀ r, (run schedule).2[a.1]? = some r → ¬(atStart r ∨ savesCopy r)) ∨
      ∃ r r' store, (run schedule).2[a.1]? = some r ∧ Moves parseArray (run schedule).1.channel r r' store.channel ∧
        run (schedule ++ [a]) = (store, (run schedule).2.set a.1 r') := by
  have hnext : run (schedule ++ [a]) =
      ((components (keyStep parseArray)).step a (run schedule)).getD (run schedule) := by
    subst hrun
    exact System.run_append schedule [a] _
  cases hstep : (components (keyStep parseArray)).step a (run schedule) with
  | none =>
    rw [hstep] at hnext
    refine .inl ⟨hnext, fun r hr hready => ?_⟩
    have hnone : keyStep parseArray a.2 r (run schedule).1 = none := by
      simpa [components, hr] using hstep
    exact keyStep_ne_none hready hnone
  | some y =>
    rw [hstep] at hnext
    obtain ⟨r, r', store, hr, hkey, rfl⟩ := components_cases hstep
    exact .inr ⟨r, r', store, hr, moves_of_keyStep hkey, hnext⟩

/-- A request is where it was before the last step, or the step is one of its own. -/
lemma request_concat (hr : (run (schedule ++ [a])).2[j]? = some r) :
    (run schedule).2[j]? = some r ∧ (a.1 = j → ¬(atStart r ∨ savesCopy r)) ∨
      ∃ r₀ channel', a.1 = j ∧ (run schedule).2[j]? = some r₀ ∧
        Moves parseArray (run schedule).1.channel r₀ r channel' := by
  obtain ⟨hsame, hwaits⟩ | ⟨r₀, r', store, hr₀, hmoves, hafter⟩ := keysAfter_concat hrun schedule a
  · rw [hsame] at hr
    exact .inl ⟨hr, fun ha => hwaits r (ha ▸ hr)⟩
  · rw [hafter] at hr
    by_cases hj : a.1 = j
    · subst hj
      rw [List.getElem?_set_self (List.getElem?_eq_some_iff.mp hr₀).1] at hr
      cases hr
      exact .inr ⟨r₀, _, rfl, hr₀, hmoves⟩
    · rw [getElem?_set_ne hj] at hr
      exact .inl ⟨hr, fun ha => absurd ha hj⟩

lemma exists_load (hr : (run schedule).2[j]? = some r) (hstart : atStart r = false) :
    ∃ before between a, schedule = before ++ a :: between ∧ a.1 = j ∧ ∃ r, (run before).2[j]? = some r ∧ atStart r := by
  induction schedule using reverseRecOn generalizing r with
  | nil =>
    rw [hrun, show keysAfter parseArray channel calls [] = ({ channel }, calls.map KeyCall.start) from rfl,
      getElem?_map] at hr
    obtain ⟨call, -, rfl⟩ := map_eq_some_iff.mp hr
    cases call with
    | _ => cases hstart
  | append_singleton schedule b ih =>
    have hearlier : ∀ {r₀}, (run schedule).2[j]? = some r₀ → atStart r₀ = false →
        ∃ before between a, schedule ++ [b] = before ++ a :: between ∧ a.1 = j ∧
          ∃ r, (run before).2[j]? = some r ∧ atStart r := by
      intro r₀ hr₀ hstart₀
      obtain ⟨before, between, a, rfl, ha, hload⟩ := ih hr₀ hstart₀
      exact ⟨before, between ++ [b], a, by simp, ha, hload⟩
    obtain ⟨hr, -⟩ | ⟨r₀, -, hj, hr₀, -⟩ := request_concat hrun hr
    · exact hearlier hr hstart
    · cases hstart₀ : atStart r₀ with
      | true => exact ⟨schedule, [], b, rfl, hj, r₀, hr₀, hstart₀⟩
      | false => exact hearlier hr₀ hstart₀

lemma worksOn_of_load (hload : ∃ r, (run before).2[a.1]? = some r ∧ atStart r)
    (hr : (run (before ++ a :: between)).2[a.1]? = some r) :
    atStart r = false ∧ WorksOn parseArray (run before).1.channel r := by
  induction between using reverseRecOn generalizing r with
  | nil =>
    obtain ⟨r₀, hr₀, hstart⟩ := hload
    obtain ⟨hr, hwaits⟩ | ⟨r₁, _, -, hr₁, hmoves⟩ := request_concat hrun hr
    · obtain rfl := some.inj (hr₀.symm.trans hr)
      exact absurd (.inl hstart) (hwaits rfl)
    · obtain rfl := some.inj (hr₀.symm.trans hr₁)
      exact ⟨hmoves.started, hmoves.worksOn_of_atStart hstart⟩
  | append_singleton between b ih =>
    rw [← cons_append, ← append_assoc] at hr
    obtain ⟨hr, -⟩ | ⟨r₀, _, -, hr₀, hmoves⟩ := request_concat hrun hr
    · exact ih hr
    · obtain ⟨hstart, hworks⟩ := ih hr₀
      exact ⟨hmoves.started, hmoves.worksOn hstart hworks⟩

lemma row_concat : ((run (schedule ++ [a])).1.channel = (run schedule).1.channel ∧
      ∀ r, (run schedule).2[a.1]? = some r → ¬savesCopy r) ∨
      ∃ r copy, (run schedule).2[a.1]? = some r ∧ savesCopy r ∧ copyOf r = some copy ∧
        ∀ i, (run (schedule ++ [a])).1.channel.getStatus i = copy.getStatus i := by
  obtain ⟨hsame, hwaits⟩ | ⟨r, r', store, hr, hmoves, hafter⟩ := keysAfter_concat hrun schedule a
  · rw [hsame]
    exact .inl ⟨rfl, fun r hr hsaves => hwaits r hr (.inr hsaves)⟩
  · rw [hafter]
    obtain ⟨hsame, hsaves⟩ | ⟨copy, hcopy, hsaves, -, hinfo⟩ := hmoves.row
    · refine .inl ⟨hsame, fun r₁ hr₁ => ?_⟩
      obtain rfl := some.inj (hr.symm.trans hr₁)
      simp [hsaves]
    · refine .inr ⟨r, copy, hr, hsaves, hcopy, fun i => ?_⟩
      unfold StoredChannel.getStatus
      rw [hinfo]

omit hrun

lemma SavesCurrentCopy.keepsDisabled (h : SavesCurrentCopy parseArray channel calls schedule) :
    KeepsDisabled parseArray channel calls schedule := by
  intro before a hpre i hdisabled hnot
  obtain ⟨hsame, -⟩ | ⟨r, copy, hr, hsaves, hcopy, hstatus⟩ := row_concat rfl
  · rw [hsame]
    exact hdisabled
  unfold KeyDisabled
  rw [hstatus]
  -- the copy that is saved was loaded earlier
  obtain ⟨before', between, b, rfl, hb, hload⟩ := exists_load rfl hr (started_of_saves hsaves)
  rw [← hb] at hr hload
  have hworks := (worksOn_of_load rfl hload hr).2
  obtain ⟨hother, hown⟩ := hworks.getStatus hsaves hcopy i
  rw [(keysOk rfl before').stored.ownKey] at hother hown
  have hcall := calls_getElem? rfl hr
  by_cases howns : ownKey parseArray channel (callOf r) = some i
  · cases hcallOf : callOf r with
    | getNextEnabledKey draw =>
      rw [hcallOf] at howns
      cases howns
    | updateChannelStatus call =>
      rw [hown call hcallOf howns]
      intro henabled
      rw [hb, hcallOf] at hcall
      rw [hcallOf] at howns
      exact hnot _ hcall ⟨henabled, howns⟩
  · rw [hother howns]
    refine (h before' between b a hpre hb hload ⟨r, hb ▸ hr, hsaves⟩ i hdisabled).resolve_right ?_
    rintro ⟨call, hmem, hcallOwn⟩
    rw [← hb, hcall] at hmem
    cases hmem
    exact howns hcallOwn

lemma KeepsDisabled.savesCurrentCopy (h : KeepsDisabled parseArray channel calls schedule) :
    SavesCurrentCopy parseArray channel calls schedule := by
  intro before between a b hpre hab hload ⟨r, hr, hsaves⟩ i hdisabled
  by_contra hnot
  obtain ⟨hloaded, hown⟩ := not_or.mp hnot
  have hcall := calls_getElem? rfl hr
  have howns : ownKey parseArray channel (callOf r) ≠ some i := fun howns => hown ⟨_, hcall, howns⟩
  have hafter := h _ b hpre i hdisabled fun call hmem henables => by
    obtain rfl := some.inj (hcall.symm.trans hmem)
    cases hcallOf : callOf r with
    | getNextEnabledKey draw =>
      rw [hcallOf] at henables
      exact henables
    | updateChannelStatus call =>
      rw [hcallOf] at henables howns
      exact howns henables.2
  obtain ⟨-, hnone⟩ | ⟨r', copy, hr', -, hcopy, hstatus⟩ := row_concat rfl
  · exact hnone r hr hsaves
  obtain rfl := some.inj (hr.symm.trans hr')
  rw [← hab] at hr
  have hworks := (worksOn_of_load rfl hload hr).2
  have hother := (hworks.getStatus hsaves hcopy i).1
  rw [(keysOk rfl before).stored.ownKey] at hother
  unfold KeyDisabled at hafter hloaded
  rw [hstatus, hother howns] at hafter
  exact hloaded hafter

lemma KeepsDisabled.skipsDisabled (h : KeepsDisabled parseArray channel calls schedule)
    (hmulti : channel.channelInfo.isMultiKey) : SkipsDisabled parseArray channel calls schedule := by
  rintro before after rfl i hdisabled hnot j draw hstart key hdone
  -- the mark stays, and the request does not return the key, after every step
  have hskips : ∀ passed, before ++ passed <+: before ++ after →
      KeyDisabled (keysAfter parseArray channel calls (before ++ passed)).1.channel i ∧
        ∀ r, (keysAfter parseArray channel calls (before ++ passed)).2[j]? = some r → Skips parseArray i r := by
    intro passed hpassed
    induction passed using reverseRecOn with
    | nil =>
      rw [append_nil]
      refine ⟨hdisabled, fun r hr => ?_⟩
      obtain rfl := some.inj (hstart.symm.trans hr)
      trivial
    | append_singleton passed a ih =>
      rw [← append_assoc] at hpassed ⊢
      obtain ⟨hmark, hreq⟩ := ih ((prefix_append _ _).trans hpassed)
      have hmem : a ∈ after := by
        rw [append_assoc] at hpassed
        exact ((prefix_append_right_inj before).mp hpassed).subset (by simp)
      refine ⟨h _ a hpassed i hmark (hnot a hmem), fun r hr => ?_⟩
      obtain ⟨hr, -⟩ | ⟨r₀, _, -, hr₀, hmoves⟩ := request_concat rfl hr
      · exact hreq r hr
      · have hstored := (@keysOk parseArray channel calls _ rfl (before ++ passed)).stored
        exact hmoves.skips (hstored.isMultiKey.trans hmulti) hmark (hreq r₀ hr₀)
  exact (hskips after (prefix_refl _)).2 _ hdone rfl

/-- The marks of disabled keys stay exactly if every call saves its copy with the marks that are stored by then, and
then a selection that loads the channel later does not return a disabled key. -/
theorem keepsDisabled_iff (parseArray : String → Option (List String)) (channel : StoredChannel) (calls : List KeyCall)
    (schedule : List (Nat × Time)) :
    (KeepsDisabled parseArray channel calls schedule ↔ SavesCurrentCopy parseArray channel calls schedule) ∧
      (SavesCurrentCopy parseArray channel calls schedule → channel.channelInfo.isMultiKey →
        SkipsDisabled parseArray channel calls schedule) :=
  ⟨⟨KeepsDisabled.savesCurrentCopy, SavesCurrentCopy.keepsDisabled⟩,
    fun hfresh hmulti => hfresh.keepsDisabled.skipsDisabled hmulti⟩

lemma split_of_prefix {b : Nat × Time} (h : before ++ a :: between ++ [b] <+: schedule) :
    ∃ m n, m < n ∧ schedule[m]? = some a ∧
      schedule[n]? = some b ∧ before = schedule.take m ∧ before ++ a :: between = schedule.take n := by
  obtain ⟨rest, rfl⟩ := h
  refine ⟨before.length, (before ++ a :: between).length, by simp, ?_, ?_, ?_, ?_⟩
  · simp
  · simp
  · simp
  · rw [append_assoc, take_left']
    rfl

def disableThenSelect : List KeyCall := [.updateChannelStatus { usingKey := "a", status := 3 }, .getNextEnabledKey 0]

def oneByOne : List (Nat × Time) := [(0, 0), (0, 0), (0, 0), (1, 0), (1, 0), (1, 0), (1, 0)]

def loadsAndSaves (m n : Nat) : Bool :=
  (oneByOne[m]?.bind fun a => (keysAfter (fun _ => none) twoKeys disableThenSelect (oneByOne.take m)).2[a.1]?).any
      atStart &&
    (oneByOne[n]?.bind fun b => (keysAfter (fun _ => none) twoKeys disableThenSelect (oneByOne.take n)).2[b.1]?).any
      savesCopy

lemma loadsAndSaves_oneByOne : ∀ n : Fin 7, ∀ m < n.val, oneByOne[m]?.map Prod.fst = oneByOne[n.val]?.map Prod.fst →
    loadsAndSaves m n → n.val = 2 ∨ m = 3 ∧ n.val = 6 := by
  decide +kernel

theorem keepsDisabled_two : KeepsDisabled (fun _ => none) twoKeys disableThenSelect oneByOne ∧
    SkipsDisabled (fun _ => none) twoKeys disableThenSelect oneByOne ∧
    KeyDisabled (keysAfter (fun _ => none) twoKeys disableThenSelect (oneByOne.take 3)).1.channel 0 := by
  have hfresh : SavesCurrentCopy (fun _ => none) twoKeys disableThenSelect oneByOne := by
    intro before between a b hpre hab ⟨r, hr, hstart⟩ ⟨r', hr', hsaves⟩ i hdisabled
    obtain ⟨m, n, hmn, ha, hb, rfl, hfull⟩ := split_of_prefix hpre
    rw [hfull] at hr' hdisabled
    have hlen : n < 7 := (List.getElem?_eq_some_iff.mp hb).1
    have hsteps : loadsAndSaves m n := by
      unfold loadsAndSaves
      rw [ha, hb]
      simp [hr, hstart, hr', hsaves]
    obtain rfl | ⟨rfl, rfl⟩ := loadsAndSaves_oneByOne ⟨n, hlen⟩ m hmn (by rw [ha, hb]; exact congrArg some hab) hsteps
    · exact absurd rfl hdisabled
    · exact .inl hdisabled
  obtain ⟨hiff, hskips⟩ := keepsDisabled_iff (fun _ => none) twoKeys disableThenSelect oneByOne
  exact ⟨hiff.mpr hfresh, hskips hfresh rfl, by decide +kernel⟩

/-- A key is selected while the first one is disabled, and another one is selected later. -/
def selectWhileDisabled (schedule : List Nat) : KeyStore × List KeyRequest :=
  keysAfter (fun _ => none) twoKeys
    [.getNextEnabledKey 0, .updateChannelStatus { usingKey := "a", status := 3 }, .getNextEnabledKey 0]
    (schedule.map fun j => (j, 0))

/-- A selection that loaded the channel before the first key was disabled enables it again by saving its copy, and a
later selection returns it. -/
theorem keepsDisabled_stale_counterexample : KeyDisabled (selectWhileDisabled [0, 1, 1, 1]).1.channel 0 ∧
    ¬KeyDisabled (selectWhileDisabled [0, 1, 1, 1, 0, 0, 0]).1.channel 0 ∧
    (selectWhileDisabled [0, 1, 1, 1, 0, 0, 0, 2, 2, 2, 2]).2[2]? =
      some (KeyRequest.selection 0 (.done (.ok ("a", 0)))) :=
  ⟨by decide +kernel, by decide +kernel, rfl⟩

end Runs

end LoveApi.Proofs
