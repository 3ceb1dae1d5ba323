import LoveApi.Proofs.ChannelKeys
import LoveApi.Proofs.ChannelSelection

/-!
# The cached and the stored status

`UpdateChannelStatus` changes the cached channel and the stored one in two branches with different early returns.
-/

namespace LoveApi.Proofs

open Program Go List Option Table

variable {channels t : Table Int StoredChannel} {memory : ChannelMemory} {parseArray : String → Option (List String)}
  {abilities : List Ability} {call : StatusCall} {now : Time} {channel : StoredChannel}

section Coherence

variable (parseArray : String → Option (List String)) (channels : Table Int StoredChannel) (abilities : List Ability)

def statusColumns (channel : StoredChannel) : Int × (Int → Option Int) :=
  (channel.status, channel.channelInfo.multiKeyStatusList.row)

/-- The cached statuses are the stored ones, and the index has only channels that are recorded as enabled. -/
structure Coherent (x : ChannelMemory × Table Int StoredChannel) : Prop where
  rows : ∀ id, (x.1.channelsIDM.row id).map statusColumns = (x.2.row id).map statusColumns
  index : ∀ models ∈ x.1.group2model2channels, ∀ entry ∈ models.2, ∀ id ∈ entry.2, ∃ channel,
    x.1.channelsIDM.row id = some channel ∧ channel.status = channelStatusEnabled

/-- The cache and the table after the updates. -/
def updatesAfter (updates : List StatusUpdate) : ChannelMemory × Table Int StoredChannel :=
  updates.foldl (fun x u => updateChannelStatus parseArray u x.1 x.2)
    (ChannelMemory.empty.init channels abilities, channels)

/-- The channels whose cached status follows the stored one: those with one key that are in no list of the index twice,
and multi-key channels without a key that are not in the index. -/
def CachedInStep : Prop :=
  ∀ id channel, channels.row id = some channel →
    (channel.channelInfo.isMultiKey → channel.keys parseArray = []) ∧
      (channel.status = channelStatusEnabled → names channel.group = [] ∨ names channel.models = [] ∨
        channel.channelInfo.isMultiKey = false ∧ (names channel.group).Nodup ∧ (names channel.models).Nodup)

end Coherence

section Table

variable {id : Int}

lemma channelsIDM_init : (ChannelMemory.empty.init channels abilities).channelsIDM = channels := by
  ext
  · rfl
  · simp [ChannelMemory.init, ChannelMemory.empty, Table.empty]

def selectionRows (channels : Table Int StoredChannel) : Table Int ChannelRow := channels.map StoredChannel.toChannelRow

lemma toChannelCache_updateStatus (id status : Int) :
    (memory.updateStatus id status).toChannelCache = cacheUpdateChannelStatus memory.toChannelCache id status := by
  have hrows : (memory.channelsIDM.update id fun channel => { channel with status := status }).map
      StoredChannel.toChannelRow = (memory.channelsIDM.map StoredChannel.toChannelRow).update id fun channel =>
        { channel with status := status } := map_update _ _ fun _ => rfl
  exact congrArg (ChannelCache.mk _) hrows

lemma toChannelCache_init : (ChannelMemory.empty.init channels abilities).toChannelCache =
    initChannelCache (selectionRows channels) abilities := by
  rw [ChannelMemory.toChannelCache, channelsIDM_init]
  rfl

lemma exists_mem_index (abilities : List Ability) {group model : String}
    (h : (group, model, id) ∈ cacheEntries (selectionRows channels)) :
    ∃ models ∈ (ChannelMemory.empty.init channels abilities).group2model2channels,
      ∃ entry ∈ models.2, id ∈ entry.2 := by
  obtain ⟨ids, hids⟩ := exists_cacheModels h
  exact ⟨_, mem_map_of_mem (mem_cacheGroups h), _, hids, (mem_of_cacheModels hids).mpr h⟩

lemma OnlyEnabled.of_not_listed {cache : ChannelCache} (h : OnlyEnabled cache)
    (hnot : ∀ {group model ids}, Lists cache group model ids → id ∉ ids) {f : ChannelRow → ChannelRow} :
    OnlyEnabled { cache with channelsIDM := cache.channelsIDM.update id f } where
  nodup := h.nodup
  enabled hlists i hi channel hrow := by
    rw [row_update_of_ne _ (ne_of_mem_of_not_mem hi (hnot hlists))] at hrow
    exact h.enabled hlists i hi channel hrow

end Table

section Steps

variable {x : ChannelMemory × Table Int StoredChannel} {id : Int}

def channelColumns (channel : StoredChannel) : Int × String × ChannelInfo :=
  (channel.status, channel.key, channel.channelInfo)

/-- The second table has the status in the channel, and else the columns of the first. -/
def StatusSet (id status : Int) (t t' : Table Int StoredChannel) : Prop :=
  ∀ j, (t'.row j).map channelColumns =
    if j = id then ((t.row j).map channelColumns).map fun columns => (status, columns.2)
    else (t.row j).map channelColumns

/-- The cache and the table agree, and have the keys of the table that the cache was built from. -/
structure InStep (channels : Table Int StoredChannel) (x : ChannelMemory × Table Int StoredChannel) : Prop where
  index : IndexOf (selectionRows channels) x.1.toChannelCache
  enabled : OnlyEnabled x.1.toChannelCache
  same : ∀ id, (x.1.channelsIDM.row id).map channelColumns = (x.2.row id).map channelColumns
  fixed : ∀ id, ((x.2.row id).map channelColumns).map Prod.snd = ((channels.row id).map channelColumns).map Prod.snd

lemma CachedInStep.noRepeatedNames (h : CachedInStep parseArray channels) :
    NoRepeatedNames (selectionRows channels) := by
  intro id row hrow hstatus
  obtain ⟨channel, hchannel, rfl⟩ := map_eq_some_iff.mp hrow
  obtain hnames | hnames | ⟨-, hnames⟩ := (h id channel hchannel).2 hstatus
  · exact .inl hnames
  · exact .inr (.inl hnames)
  · exact .inr (.inr hnames)

lemma InStep.coherent (h : InStep channels x) : Coherent x where
  rows id := by
    have hcolumns : statusColumns =
        (fun c : Int × String × ChannelInfo => (c.1, c.2.2.multiKeyStatusList.row)) ∘ channelColumns := rfl
    rw [hcolumns, ← Option.map_map, h.same, Option.map_map]
  index := by
    intro models hmodels entry hentry id hid
    have hlists : Lists x.1.toChannelCache models.1 entry.1 entry.2 := ⟨models.2, hmodels, hentry⟩
    obtain ⟨row, hrow, -⟩ := mem_cacheEntries.mp (h.index.listed hlists id hid)
    obtain ⟨status, hcached⟩ := h.index.rows id
    rw [hrow] at hcached
    obtain ⟨channel, hchannel, -⟩ := Option.map_eq_some_iff.mp hcached
    refine ⟨channel, hchannel, h.enabled.enabled hlists id hid channel.toChannelRow ?_⟩
    exact map_eq_some_iff.mpr ⟨channel, hchannel, rfl⟩

lemma statusSet_self {status : Int} (h : ∀ channel ∈ t.row id, channel.status = status) : StatusSet id status t t := by
  intro j
  split
  · next hj =>
    subst hj
    cases hrow : t.row j with
    | none => rfl
    | some channel => rw [← h channel hrow]; rfl
  · rfl

lemma statusSet_update {status : Int} {f : StoredChannel → StoredChannel}
    (h : ∀ channel ∈ t.row id, channelColumns (f channel) = (status, (channelColumns channel).2)) :
    StatusSet id status t (t.update id f) := by
  intro j
  rw [row_update]
  split
  · next hj =>
    subst hj
    cases hrow : t.row j with
    | none => rfl
    | some channel => exact congrArg some (h channel hrow)
  · rfl

lemma handlerMultiKeyUpdate_of_nil (h : channel.keys parseArray = []) :
    handlerMultiKeyUpdate parseArray channel call now = { channel with status := call.status } := by
  unfold handlerMultiKeyUpdate
  rw [if_pos h]

lemma statusSet_storeChannelStatus
    (hkeys : ∀ channel ∈ t.row id, channel.channelInfo.isMultiKey → channel.keys parseArray = []) :
    StatusSet id call.status t (storeChannelStatus parseArray t id call now) := by
  unfold storeChannelStatus
  cases hrow : t.row id with
  | none => exact statusSet_self (by simp [hrow])
  | some channel =>
    dsimp only
    by_cases hstatus : channel.status = call.status
    · rw [if_pos hstatus]
      exact statusSet_self (by simpa [hrow] using hstatus)
    · rw [if_neg hstatus]
      refine statusSet_update fun channel' hrow' => ?_
      obtain rfl := some.inj (hrow.symm.trans hrow')
      unfold withStatus
      by_cases hmulti : channel.channelInfo.isMultiKey
      · rw [if_pos hmulti, handlerMultiKeyUpdate_of_nil (hkeys channel hrow hmulti)]
        rfl
      · rw [if_neg hmulti]
        rfl

lemma InStep.not_listed (h : InStep channels x) (hin : CachedInStep parseArray channels) {initial : StoredChannel}
    (hrow : channels.row id = some initial) (hmulti : initial.channelInfo.isMultiKey) {group model : String}
    {ids : List Int} (hlists : Lists x.1.toChannelCache group model ids) : id ∉ ids := by
  intro hid
  obtain ⟨row, hrow', hstatus, hgroup, hmodel⟩ := mem_cacheEntries.mp (h.index.listed hlists id hid)
  obtain ⟨channel, hchannel, rfl⟩ := map_eq_some_iff.mp hrow'
  obtain rfl := some.inj (hrow.symm.trans hchannel)
  obtain hnil | hnil | ⟨hsingle, -⟩ := (hin id initial hrow).2 hstatus
  · exact ne_nil_of_mem hgroup hnil
  · exact ne_nil_of_mem hmodel hnil
  · rw [hmulti] at hsingle
    cases hsingle

lemma InStep.initial (h : InStep channels x) {cached : StoredChannel} (hcached : x.1.channelsIDM.row id = some cached) :
    ∃ initial, channels.row id = some initial ∧
      (cached.key, cached.channelInfo) = (initial.key, initial.channelInfo) := by
  have hfixed := h.fixed id
  rw [← h.same, hcached] at hfixed
  obtain ⟨columns, hcolumns, hsame⟩ := map_eq_some_iff.mp hfixed.symm
  obtain ⟨initial, hinitial, rfl⟩ := map_eq_some_iff.mp hcolumns
  exact ⟨initial, hinitial, hsame.symm⟩

lemma InStep.of_columns (h : InStep channels x) {status : Int}
    (hindex : IndexOf (selectionRows channels) memory.toChannelCache) (henabled : OnlyEnabled memory.toChannelCache)
    (hmemory : StatusSet id status x.1.channelsIDM memory.channelsIDM) (hstored : StatusSet id status x.2 t) :
    InStep channels (memory, t) where
  index := hindex
  enabled := henabled
  same j := by
    rw [hmemory, hstored, h.same]
  fixed j := by
    rw [← h.fixed, hstored]
    split
    · rw [Option.map_map]
      rfl
    · rfl

lemma InStep.step (h : InStep channels x) (hin : CachedInStep parseArray channels) (u : StatusUpdate) :
    InStep channels (updateChannelStatus parseArray u x.1 x.2) := by
  unfold updateChannelStatus
  cases hcached : x.1.channelsIDM.row u.id with
  | none => exact h
  | some cached =>
    obtain ⟨initial, hinitial, hsame⟩ := h.initial hcached
    have hkeys : ∀ channel : StoredChannel, (channel.key, channel.channelInfo) = (initial.key, initial.channelInfo) →
        channel.channelInfo.isMultiKey → channel.keys parseArray = [] := by
      intro channel hsame hmulti
      obtain ⟨hkey, hinfo⟩ := Prod.mk.inj hsame
      rw [hinfo] at hmulti
      unfold StoredChannel.keys
      rw [hkey]
      exact (hin u.id initial hinitial).1 hmulti
    have hstored : ∀ channel ∈ x.2.row u.id, channel.channelInfo.isMultiKey → channel.keys parseArray = [] := by
      intro channel hchannel
      have hfixed := h.fixed u.id
      rw [hchannel, hinitial] at hfixed
      exact hkeys channel (some.inj hfixed)
    dsimp only
    by_cases hmulti : cached.channelInfo.isMultiKey
    · rw [if_pos hmulti]
      have hupdate : (x.1.channelsIDM.update u.id fun channel =>
          handlerMultiKeyUpdate parseArray channel u.toStatusCall u.cachedAt) =
            x.1.channelsIDM.update u.id fun channel => { channel with status := u.status } := by
        refine update_congr _ _ fun channel hchannel => ?_
        obtain rfl := some.inj (hcached.symm.trans hchannel)
        exact handlerMultiKeyUpdate_of_nil (hkeys cached hsame hmulti)
      rw [hupdate]
      have hcache : ChannelMemory.toChannelCache { x.1 with
          channelsIDM := x.1.channelsIDM.update u.id fun channel => { channel with status := u.status } } =
          { x.1.toChannelCache with
            channelsIDM := x.1.toChannelCache.channelsIDM.update u.id fun channel =>
              { channel with status := u.status } } :=
        congrArg (ChannelCache.mk _) (map_update _ _ fun _ => rfl)
      refine h.of_columns ?_ ?_ (statusSet_update fun _ _ => rfl) (statusSet_storeChannelStatus hstored)
      · rw [hcache]
        exact ⟨h.index.listed, (h.index.update u.id u.status).rows⟩
      · rw [hcache]
        rw [(Prod.mk.inj hsame).2] at hmulti
        exact h.enabled.of_not_listed (h.not_listed hin hinitial hmulti)
    · rw [if_neg hmulti]
      split
      · exact h
      · refine h.of_columns ?_ ?_ (statusSet_update fun _ _ => rfl) (statusSet_storeChannelStatus hstored)
        · rw [toChannelCache_updateStatus]
          exact h.index.update u.id u.status
        · rw [toChannelCache_updateStatus]
          exact h.enabled.update u.id u.status

lemma inStep_updatesAfter (hin : CachedInStep parseArray channels) {updates : List StatusUpdate} :
    InStep channels (updatesAfter parseArray channels abilities updates) := by
  unfold updatesAfter
  induction updates using reverseRecOn with
  | nil =>
    refine ⟨?_, ?_, fun _ => by rw [foldl_nil, channelsIDM_init], fun _ => rfl⟩
    · rw [foldl_nil, toChannelCache_init]
      exact indexOf_init _ abilities
    · rw [foldl_nil, toChannelCache_init]
      exact onlyEnabled_init hin.noRepeatedNames
  | append_singleton updates u ih =>
    rw [foldl_concat]
    exact ih.step hin u

end Steps

section Breaks

variable {id : Int}

lemma rows_updateChannelStatus (parseArray : String → Option (List String)) (u : StatusUpdate) (memory : ChannelMemory)
    (t : Table Int StoredChannel) {cached stored : StoredChannel} (hcached : memory.channelsIDM.row u.id = some cached)
    (hstored : t.row u.id = some stored) (hmulti : cached.channelInfo.isMultiKey) :
    (updateChannelStatus parseArray u memory t).1.channelsIDM.row u.id =
        some (handlerMultiKeyUpdate parseArray cached u.toStatusCall u.cachedAt) ∧
      (updateChannelStatus parseArray u memory t).2.row u.id = (if stored.status = u.status then some stored
          else some (withStatus parseArray stored u.toStatusCall u.storedAt)) ∧
      (updateChannelStatus parseArray u memory t).1.group2model2channels = memory.group2model2channels := by
  unfold updateChannelStatus storeChannelStatus
  rw [hcached, hstored]
  dsimp only
  rw [if_pos hmulti]
  refine ⟨?_, ?_, rfl⟩
  · rw [row_update_self, hcached]
    rfl
  · split
    · exact hstored
    · rw [row_update_self, hstored]
      rfl

variable (h : ∀ updates, Coherent (updatesAfter parseArray channels abilities updates))

include h

lemma keys_eq_nil_of_coherent (hrow : channels.row id = some channel) (hmulti : channel.channelInfo.isMultiKey) :
    channel.keys parseArray = [] := by
  by_contra hkeys
  let disable : StatusUpdate := { id := id, status := max channel.status channelStatusAutoDisabled + 1 }
  let marked := handlerMultiKeyUpdate parseArray channel disable.toStatusCall 0
  have hlt : channel.status < disable.status ∧ channelStatusAutoDisabled < disable.status :=
    ⟨Int.lt_add_one_of_le (le_max_left _ _), Int.lt_add_one_of_le (le_max_right _ _)⟩
  have hne : marked.status ≠ disable.status := by
    rw [show marked.status = _ from status_handlerMultiKeyUpdate hkeys]
    split
    · exact hlt.2.ne
    · exact hlt.1.ne
  have hwith : withStatus parseArray channel disable.toStatusCall 0 = marked := if_pos hmulti
  have hsame : SameKeys channel marked := hwith ▸ SameKeys.withStatus ⟨rfl, rfl⟩
  -- both copies are marked after the first call, and only the cached one changes after the second
  obtain ⟨hcached, hstored, -⟩ := rows_updateChannelStatus parseArray disable
    (ChannelMemory.empty.init channels abilities) channels (channelsIDM_init ▸ hrow) hrow hmulti
  rw [if_neg hlt.1.ne, show disable.storedAt = 0 from rfl, hwith] at hstored
  let again : StatusUpdate := { id := id, status := marked.status }
  have hmulti' : marked.channelInfo.isMultiKey := hsame.isMultiKey.trans hmulti
  obtain ⟨hcached', hstored', -⟩ := rows_updateChannelStatus parseArray again _ _ hcached hstored hmulti'
  rw [if_pos rfl] at hstored'
  have hrows : some (statusColumns (handlerMultiKeyUpdate parseArray marked again.toStatusCall 0)) =
      some (statusColumns marked) := by
    have hrows := (h [disable, again]).rows id
    rw [show ((updatesAfter parseArray channels abilities [disable, again]).1.channelsIDM.row id) = _ from hcached',
      show ((updatesAfter parseArray channels abilities [disable, again]).2.row id) = _ from hstored'] at hrows
    exact hrows
  -- so the two copies have different statuses for the key
  let idx := keyIndex (channel.keys parseArray) ""
  have hown : ownKey parseArray channel (.updateChannelStatus disable.toStatusCall) = some idx := if_pos ⟨hmulti, hkeys⟩
  have hown' : ownKey parseArray marked (.updateChannelStatus again.toStatusCall) = some idx :=
    (hsame.ownKey _).trans (if_pos ⟨hmulti, hkeys⟩)
  have hmarked : marked.getStatus idx = disable.status := by
    rw [← hwith, getStatus_withStatus, if_pos hown]
  have hagain : (handlerMultiKeyUpdate parseArray marked again.toStatusCall 0).getStatus idx = marked.status := by
    rw [← show withStatus parseArray marked again.toStatusCall 0 = _ from if_pos hmulti', getStatus_withStatus,
      if_pos hown']
  have hlist := (Prod.mk.inj (some.inj hrows)).2
  have hsameStatus : (handlerMultiKeyUpdate parseArray marked again.toStatusCall 0).getStatus idx =
      marked.getStatus idx := by
    unfold StoredChannel.getStatus
    rw [hlist]
  exact hne (hagain.symm.trans (hsameStatus.trans hmarked))

lemma names_eq_nil_of_coherent (hrow : channels.row id = some channel) (hmulti : channel.channelInfo.isMultiKey)
    (henabled : channel.status = channelStatusEnabled) : names channel.group = [] ∨ names channel.models = [] := by
  by_contra hnot
  obtain ⟨hgroup, hmodel⟩ := not_or.mp hnot
  obtain ⟨group, groups, hgroups⟩ := exists_cons_of_ne_nil hgroup
  obtain ⟨model, models, hmodels⟩ := exists_cons_of_ne_nil hmodel
  have hentry : (group, model, id) ∈ cacheEntries (selectionRows channels) := by
    refine mem_cacheEntries.mpr ⟨channel.toChannelRow, ?_, henabled, ?_, ?_⟩
    · exact map_eq_some_iff.mpr ⟨channel, hrow, rfl⟩
    · rw [hgroups]
      exact mem_cons_self
    · rw [hmodels]
      exact mem_cons_self
  obtain ⟨lists, hlists, entry, hentry, hid⟩ := exists_mem_index abilities hentry
  have hkeys := keys_eq_nil_of_coherent h hrow hmulti
  let disable : StatusUpdate := { id := id, status := channelStatusAutoDisabled }
  obtain ⟨hcached, -, hindex⟩ := rows_updateChannelStatus parseArray disable
    (ChannelMemory.empty.init channels abilities) channels (channelsIDM_init ▸ hrow) hrow hmulti
  rw [handlerMultiKeyUpdate_of_nil hkeys] at hcached
  rw [← hindex] at hlists
  obtain ⟨channel', hrow', hstatus⟩ := (h [disable]).index lists hlists entry hentry id hid
  obtain rfl := some.inj (hcached.symm.trans hrow')
  exact absurd hstatus (show channelStatusAutoDisabled ≠ channelStatusEnabled by decide)

lemma noRepeatedNames_of_coherent : NoRepeatedNames (selectionRows channels) := by
  rw [← nodup_cacheEntries_iff]
  by_contra hdup
  obtain ⟨⟨group, model, id⟩, hdup⟩ := exists_duplicate_iff_not_nodup.mpr hdup
  obtain ⟨row, hrow, henabled, hgroup, hmodel⟩ := mem_cacheEntries.mp hdup.mem
  obtain ⟨channel, hchannel, rfl⟩ := map_eq_some_iff.mp hrow
  by_cases hmulti : channel.channelInfo.isMultiKey
  · obtain hnil | hnil := names_eq_nil_of_coherent h hchannel hmulti henabled
    · exact ne_nil_of_mem hgroup hnil
    · exact ne_nil_of_mem hmodel hnil
  · have hupdate : (updateChannelStatus parseArray { id := id, status := channelStatusAutoDisabled }
        (ChannelMemory.empty.init channels abilities) channels).1 =
          (ChannelMemory.empty.init channels abilities).updateStatus id channelStatusAutoDisabled := by
      unfold updateChannelStatus
      rw [channelsIDM_init, hchannel]
      dsimp only
      rw [if_neg hmulti, if_neg (by rw [henabled]; decide)]
    obtain ⟨ids, hids⟩ := exists_cacheModels hdup.mem
    have hcoherent := (h [{ id := id, status := channelStatusAutoDisabled }]).index
    rw [show (updatesAfter parseArray channels abilities [{ id := id, status := channelStatusAutoDisabled }]).1 = _ from
      hupdate] at hcoherent
    obtain ⟨channel', hrow', hstatus⟩ := hcoherent
      (group, (cacheModels (selectionRows channels) group).map fun entry => (entry.1, entry.2.erase id))
      (mem_map_of_mem (mem_map_of_mem (mem_cacheGroups hdup.mem))) (model, ids.erase id)
      (mem_map_of_mem hids) id (mem_erase_of_duplicate hids hdup)
    have hcached :
        ((ChannelMemory.empty.init channels abilities).updateStatus id channelStatusAutoDisabled).channelsIDM.row
          id = some { channel with status := channelStatusAutoDisabled } := by
      show ((ChannelMemory.empty.init channels abilities).channelsIDM.update id _).row id = _
      rw [row_update_self, channelsIDM_init, hchannel]
      rfl
    obtain rfl := some.inj (hcached.symm.trans hrow')
    exact absurd hstatus (show channelStatusAutoDisabled ≠ channelStatusEnabled by decide)

omit h

/-- The cache stays equal to the table over every sequence of calls, with only enabled channels in its index, exactly if
every channel has one key and is in no list of the index twice, or is a multi-key channel without a key that is in no
list. -/
theorem coherent_iff (parseArray : String → Option (List String)) (channels : Table Int StoredChannel)
    (abilities : List Ability) :
    (∀ updates, Coherent (updatesAfter parseArray channels abilities updates)) ↔ CachedInStep parseArray channels := by
  constructor
  · intro h id channel hrow
    refine ⟨keys_eq_nil_of_coherent h hrow, fun henabled => ?_⟩
    by_cases hmulti : channel.channelInfo.isMultiKey
    · obtain hnil | hnil := names_eq_nil_of_coherent h hrow hmulti henabled
      · exact .inl hnil
      · exact .inr (.inl hnil)
    · have hrow' : (selectionRows channels).row id = some channel.toChannelRow :=
        map_eq_some_iff.mpr ⟨channel, hrow, rfl⟩
      obtain hnil | hnil | hnodup := noRepeatedNames_of_coherent h id channel.toChannelRow hrow' henabled
      · exact .inl hnil
      · exact .inr (.inl hnil)
      · exact .inr (.inr ⟨Bool.eq_false_iff.mpr hmulti, hnodup⟩)
  · intro hin updates
    exact (inStep_updatesAfter hin).coherent

theorem coherent_single : Coherent (updatesAfter (fun _ => none)
    (Table.empty.insert 1 { group := "default,vip", models := "m", key := "k" }) []
    [{ id := 1, status := 3 }, { id := 1, status := 1 }]) := by
  refine (coherent_iff _ _ _).mpr (fun id channel hrow => ?_) _
  rw [row_insert _ rfl] at hrow
  split at hrow
  · cases hrow
    exact ⟨fun h => absurd h Bool.false_ne_true, fun _ => .inr (.inr ⟨rfl, by decide +kernel, by decide +kernel⟩)⟩
  · cases hrow

/-- The calls on a table whose only channel has the keys of `twoKeys`, of which `size` are to be disabled before the
channel is. -/
def updatesOf (size : Int) (updates : List StatusUpdate) : ChannelMemory × Table Int StoredChannel :=
  updatesAfter (fun _ => none) (Table.empty.insert 1 { twoKeys with channelInfo.multiKeySize := size }) [] updates

def disableFirst : StatusUpdate := { id := 1, usingKey := "a", status := 3 }

def enableFirst : StatusUpdate := { id := 1, usingKey := "a", status := 1 }

/-- The first of two keys is disabled and enabled again: it stays disabled in the table. A key whose mark disables the
channel leaves it in the index. -/
theorem coherent_multiKey_counterexample :
    ((updatesOf 2 [disableFirst, enableFirst]).1.channelsIDM.row 1).map (fun channel => channel.getStatus 0) = some 1 ∧
    ((updatesOf 2 [disableFirst, enableFirst]).2.row 1).map (fun channel => channel.getStatus 0) = some 3 ∧
    ((updatesOf 1 [disableFirst]).1.channelsIDM.row 1).map (fun channel => channel.status) = some 3 ∧
    (updatesOf 1 [disableFirst]).1.group2model2channels = [("default", [("m", [1])])] := by
  decide +kernel

end Breaks

end LoveApi.Proofs
