import LoveApi.Abilities
import LoveApi.Program.Derived

/-!
# The abilities mirror the channels

The `abilities` table is derived from the `channels` table as long as every operation keeps it so. Some do not: two
names that make one text, a weight of 0 in an edit by tag, and every deletion of a channel by its status.
-/

namespace LoveApi.Proofs

open Program Go List Option Table

variable {channel : StoredChannel} {abilities : Abilities} {pairs : List (String × String)} {edit : TagEdit}
  {tag : String}

variable {db : ChannelDB} {channels : Table Int StoredChannel}

def channelAbility (channel : StoredChannel) (pair : String × String) : Option AbilityColumns :=
  if pair ∈ channel.pairs then some channel.ability else none

/-- The abilities are one row for each group and model of each channel, with the columns of the channel. -/
def Aligned (db : ChannelDB) : Prop := Derived channelAbility db.channels db.abilities

/-- No two groups and models of the channel make the same text. -/
def PairsApart (channel : StoredChannel) : Prop := Set.InjOn abilityKey {pair | pair ∈ channel.pairs}

/-- Enabling a key does not disable the channel: it is no multi-key channel, has no key or is auto-disabled already, or
its status list has fewer than `multiKeySize` entries once that of the key is gone. -/
def EnablesKey (parseArray : String → Option (List String)) (channel : StoredChannel) (call : StatusCall) : Prop :=
  let marks := channel.channelInfo.multiKeyStatusList.erase (keyIndex (channel.keys parseArray) call.usingKey)
  channel.channelInfo.isMultiKey → channel.keys parseArray ≠ [] → channel.status ≠ channelStatusAutoDisabled →
    (marks.keys.length : Int) < channel.channelInfo.multiKeySize

/-- The condition on the database and the operation under which the abilities mirror the channels afterwards. -/
def KeepsMirror (parseArray : String → Option (List String)) (db : ChannelDB) : ChannelOp → Prop
  | .insert channel => PairsApart channel.create
  | .update id edit => ∀ channel, db.channels.row id = some channel → PairsApart (edit.apply parseArray channel)
  | .updateChannelStatus id call _ => ∀ channel, db.channels.row id = some channel →
    channel.status ≠ channelStatusEnabled → call.status = channelStatusEnabled → EnablesKey parseArray channel call
  | .enableChannelByTag _ | .disableChannelByTag _ => True
  | .editChannelByTag tag edit =>
    if edit.shouldReCreateAbilities then ∀ id channel, db.channels.row id = some channel →
      (edit.apply tag channel).tag = some (edit.newTag.getD tag) → PairsApart (edit.apply tag channel)
    else edit.weight = some 0 → ∀ id channel, db.channels.row id = some channel → channel.tag = some tag →
      channel.getWeight = 0
  | .deleteChannelByStatus status => ∀ id channel, db.channels.row id = some channel → channel.status ≠ status
  | .deleteDisabledChannel => ∀ id channel, db.channels.row id = some channel →
    channel.status ≠ channelStatusAutoDisabled ∧ channel.status ≠ channelStatusManuallyDisabled

section Pairs

variable {abilitySet : List String} {pair pair' : String × String} {id k : Int}

lemma exists_mem_pairs : ∃ pair, pair ∈ channel.pairs := by
  obtain ⟨group, hgroup⟩ := exists_mem_of_ne_nil _ (split_ne_nil channel.group ",")
  obtain ⟨model, hmodel⟩ := exists_mem_of_ne_nil _ (split_ne_nil channel.models ",")
  exact ⟨(group, model), by simp [StoredChannel.pairs, hgroup, hmodel]⟩

lemma mem_of_mem_distinctPairs (h : pair ∈ distinctPairs abilitySet pairs) :
    pair ∈ pairs ∧ abilityKey pair ∉ abilitySet := by
  induction pairs generalizing abilitySet with
  | nil => cases h
  | cons first pairs ih =>
    unfold distinctPairs at h
    split at h
    · obtain ⟨hmem, hnot⟩ := ih h
      exact ⟨mem_cons_of_mem _ hmem, hnot⟩
    · next hfirst =>
      rcases mem_cons.mp h with rfl | h
      · exact ⟨mem_cons_self, hfirst⟩
      · obtain ⟨hmem, hnot⟩ := ih h
        exact ⟨mem_cons_of_mem _ hmem, fun hin => hnot (mem_cons_of_mem _ hin)⟩

lemma exists_mem_distinctPairs (h : pair ∈ pairs) (hnot : abilityKey pair ∉ abilitySet) :
    ∃ pair' ∈ distinctPairs abilitySet pairs, abilityKey pair' = abilityKey pair := by
  induction pairs generalizing abilitySet with
  | nil => cases h
  | cons first pairs ih =>
    unfold distinctPairs
    split
    · next hfirst =>
      rcases mem_cons.mp h with rfl | h
      · exact absurd hfirst hnot
      · exact ih h hnot
    · by_cases hsame : abilityKey pair = abilityKey first
      · exact ⟨first, mem_cons_self, hsame.symm⟩
      rcases mem_cons.mp h with rfl | h
      · exact absurd rfl hsame
      · obtain ⟨pair', hmem, hkey⟩ := ih h (not_mem_cons_of_ne_of_not_mem hsame hnot)
        exact ⟨pair', mem_cons_of_mem _ hmem, hkey⟩

lemma injOn_distinctPairs (abilitySet : List String) (pairs : List (String × String)) :
    Set.InjOn abilityKey {pair | pair ∈ distinctPairs abilitySet pairs} := by
  induction pairs generalizing abilitySet with
  | nil => intro pair h; cases h
  | cons first pairs ih =>
    unfold distinctPairs
    split
    · exact ih abilitySet
    -- the pairs after the first one have other texts
    have hother : ∀ pair ∈ distinctPairs (abilityKey first :: abilitySet) pairs, abilityKey pair ≠ abilityKey first :=
      fun pair h hsame => (mem_of_mem_distinctPairs h).2 (hsame ▸ mem_cons_self)
    intro pair h pair' h' hsame
    rcases mem_cons.mp h with rfl | h
    · rcases mem_cons.mp h' with rfl | h'
      · rfl
      · exact absurd hsame.symm (hother pair' h')
    · rcases mem_cons.mp h' with rfl | h'
      · exact absurd hsame (hother pair h)
      · exact ih _ h h' hsame

lemma pairsApart_iff : PairsApart channel ↔ ∀ pair ∈ channel.pairs, pair ∈ distinctPairs [] channel.pairs := by
  constructor
  · intro h pair hmem
    obtain ⟨pair', hmem', hkey⟩ := exists_mem_distinctPairs hmem (not_mem_nil (a := abilityKey pair))
    obtain rfl := h (mem_of_mem_distinctPairs hmem').1 hmem hkey
    exact hmem'
  · intro h pair hmem pair' hmem' hkey
    exact injOn_distinctPairs [] channel.pairs (h pair hmem) (h pair' hmem') hkey

def writtenAbility (channel : StoredChannel) (pair : String × String) : Option AbilityColumns :=
  if pair ∈ distinctPairs [] channel.pairs then some channel.ability else none

lemma writtenAbility_eq_iff : (∀ pair, writtenAbility channel pair = channelAbility channel pair) ↔
    PairsApart channel := by
  unfold writtenAbility channelAbility
  rw [pairsApart_iff]
  constructor
  · intro h pair hmem
    have hrow := h pair
    rw [if_pos hmem] at hrow
    by_contra hnot
    rw [if_neg hnot] at hrow
    cases hrow
  · intro h pair
    by_cases hmem : pair ∈ channel.pairs
    · rw [if_pos hmem, if_pos (h pair hmem)]
    · rw [if_neg hmem, if_neg fun hin => hmem (mem_of_mem_distinctPairs hin).1]

lemma row_foldl_insert {ability : AbilityColumns} :
    (pairs.foldl (fun abilities pair => abilities.insert (pair, id) ability) abilities).row (pair, k) =
      (abilities.row (pair, k)).or (if k = id ∧ pair ∈ pairs then some ability else none) := by
  induction pairs generalizing abilities with
  | nil => simp
  | cons first pairs ih =>
    rw [List.foldl_cons, ih, row_insert_or, Option.or_assoc]
    congr 1
    by_cases hfirst : pair = first
    · by_cases hk : k = id
      · simp [hfirst, hk]
      · simp [hk]
    · simp [hfirst]

lemma row_addAbilities (hnone : ∀ pair, abilities.row (pair, id) = none) :
    (addAbilities id channel abilities).row (pair, k) =
      if k = id then writtenAbility channel pair else abilities.row (pair, k) := by
  unfold addAbilities writtenAbility
  rw [row_foldl_insert]
  by_cases hk : k = id
  · simp [hk, hnone]
  · simp [hk]

lemma row_updateAbilities : (updateAbilities id channel abilities).row (pair, k) =
    if k = id then writtenAbility channel pair else abilities.row (pair, k) := by
  unfold updateAbilities
  rw [row_addAbilities (by simp [row_filter])]
  split
  · rfl
  next hk =>
  rw [row_filter]
  cases abilities.row (pair, k) with
  | none => rfl
  | some ability => simp [hk]

end Pairs

section Operations

variable {parseArray : String → Option (List String)}
variable {id nextId : Int}

variable (h : Aligned db)

include h

lemma Aligned.row (hrow : db.channels.row id = some channel)
    (pair : String × String) : db.abilities.row (pair, id) = channelAbility channel pair := by
  rw [h pair id, hrow]
  rfl

lemma Aligned.write_iff {id : Int}
    (hchannels : ∀ k, channels.row k = if k = id then some channel else db.channels.row k)
    (habilities : ∀ pair k, abilities.row (pair, k) =
      if k = id then writtenAbility channel pair else db.abilities.row (pair, k)) :
    Aligned { channels, abilities, nextId } ↔ PairsApart channel := by
  unfold Aligned
  rw [Derived.iff_at h id (fun k hk => (hchannels k).trans (if_neg hk))
    fun pair k hk => (habilities pair k).trans (if_neg hk), ← writtenAbility_eq_iff]
  simp only [habilities, hchannels, if_true, bind_some]

lemma aligned_update_iff {id : Int} {edit : ChannelEdit} : Aligned (db.update parseArray id edit) ↔
    ∀ channel, db.channels.row id = some channel → PairsApart (edit.apply parseArray channel) := by
  unfold ChannelDB.update
  cases hrow : db.channels.row id with
  | none => simp [h]
  | some channel =>
    rw [h.write_iff (fun k => ?_) fun _ _ => row_updateAbilities]
    · simp
    · rw [row_update, hrow]
      rfl

omit h in
lemma withStatus_eq (parseArray : String → Option (List String)) (channel : StoredChannel) (call : StatusCall)
    (now : Time) : ∃ status otherInfo channelInfo,
      withStatus parseArray channel call now = { channel with status, otherInfo, channelInfo } ∧
        (status = call.status ∨ channel.channelInfo.isMultiKey ∧
          (status = channel.status ∨ status = channelStatusAutoDisabled)) := by
  unfold withStatus handlerMultiKeyUpdate
  dsimp only
  split
  · next hmulti =>
    split
    · exact ⟨_, channel.otherInfo, channel.channelInfo, rfl, .inl rfl⟩
    · split
      · exact ⟨_, _, _, rfl, .inr ⟨hmulti, .inr rfl⟩⟩
      · exact ⟨channel.status, channel.otherInfo, _, rfl, .inr ⟨hmulti, .inl rfl⟩⟩
  · exact ⟨_, _, channel.channelInfo, rfl, .inl rfl⟩

omit h in
lemma status_withStatus_iff {call : StatusCall} {now : Time} (hcall : call.status = channelStatusEnabled) :
    (withStatus parseArray channel call now).status = channelStatusEnabled ∨
        (withStatus parseArray channel call now).status = channel.status ↔ EnablesKey parseArray channel call := by
  unfold withStatus handlerMultiKeyUpdate EnablesKey
  by_cases hmulti : channel.channelInfo.isMultiKey
  · by_cases hkeys : channel.keys parseArray = []
    · simp [hmulti, hkeys, hcall]
    simp only [hmulti, hkeys, if_true, if_false, ChannelInfo.setStatus, hcall]
    split
    · next hsize =>
      constructor
      · rintro (henabled | hsame) _ _ hne
        · cases henabled
        · exact absurd hsame.symm hne
      · intro h
        by_contra hnot
        exact absurd (h trivial hkeys fun hsame => hnot (.inr hsame.symm)) (not_lt.mpr hsize)
    · next hsize => exact iff_of_true (.inr rfl) fun _ _ _ => not_le.mp hsize
  · simp [hmulti, hcall]

lemma Aligned.status_iff
    (hrow : db.channels.row id = some channel) (status : Int) (otherInfo : OtherInfo) (channelInfo : ChannelInfo)
    (enabled : Bool) (hother : ∀ pair k, k ≠ id → abilities.row (pair, k) = db.abilities.row (pair, k))
    (hown : ∀ pair, abilities.row (pair, id) =
      (channelAbility channel pair).map fun ability => { ability with enabled := enabled }) :
    Aligned { channels := db.channels.update id fun _ => { channel with status, otherInfo, channelInfo }
              abilities
              nextId } ↔ enabled = decide (status = channelStatusEnabled) := by
  have himage : ∀ pair, channelAbility { channel with status, otherInfo, channelInfo } pair =
      (channelAbility channel pair).map fun ability => { ability with enabled := status = channelStatusEnabled } := by
    intro pair
    unfold channelAbility
    rw [show StoredChannel.pairs { channel with status, otherInfo, channelInfo } = channel.pairs from rfl]
    split
    · rfl
    · rfl
  unfold Aligned
  rw [Derived.iff_at h id (fun k hk => row_update_of_ne _ hk _) hother]
  simp only [hown, row_update_self, hrow, map_some, bind_some, himage]
  constructor
  · intro h'
    obtain ⟨pair, hmem⟩ := exists_mem_pairs
    have hview := h' pair
    rw [channelAbility, if_pos hmem] at hview
    exact congrArg AbilityColumns.enabled (some.inj hview)
  · rintro rfl pair
    rfl

lemma aligned_updateChannelStatus_iff (id : Int) (call : StatusCall) (now : Time) :
    Aligned (db.updateChannelStatus parseArray id call now) ↔ ∀ channel, db.channels.row id = some channel →
      channel.status ≠ channelStatusEnabled → call.status = channelStatusEnabled →
        (withStatus parseArray channel call now).status = channelStatusEnabled ∨
          (withStatus parseArray channel call now).status = channel.status := by
  unfold ChannelDB.updateChannelStatus
  cases hrow : db.channels.row id with
  | none => simp [h]
  | some channel =>
    dsimp only
    by_cases hsame : channel.status = call.status
    · rw [if_pos hsame]
      refine ⟨fun _ channel' hrow' hne henabled => ?_, fun _ => h⟩
      cases hrow'
      exact absurd (hsame.trans henabled) hne
    rw [if_neg hsame]
    obtain ⟨status, otherInfo, channelInfo, hupdated, hstatus⟩ := withStatus_eq parseArray channel call now
    simp only [Option.some.injEq, forall_eq', hupdated]
    by_cases hshould : (!channel.channelInfo.isMultiKey || decide (status ≠ channel.status)) = true
    · rw [if_pos hshould, h.status_iff hrow status otherInfo channelInfo (call.status = channelStatusEnabled),
        decide_eq_decide]
      · rcases hstatus with rfl | ⟨hmulti, hstatus⟩
        · exact ⟨fun _ _ henabled => .inl henabled, fun _ => Iff.rfl⟩
        have hchanged : status ≠ channel.status := by simpa [hmulti] using hshould
        have hauto := hstatus.resolve_left hchanged
        simp only [channelStatusEnabled, channelStatusAutoDisabled] at hauto ⊢
        omega
      · intro pair k hk
        simp only [updateAbilityStatus, row_modify, hk, if_false, Option.map_id']
      · intro pair
        simp only [updateAbilityStatus, row_modify, h.row hrow, if_true]
    · obtain ⟨hmulti, rfl⟩ : channel.channelInfo.isMultiKey ∧ status = channel.status := by simpa using hshould
      rw [if_neg hshould, h.status_iff hrow channel.status otherInfo channelInfo channel.ability.enabled
        fun _ _ _ => rfl]
      · exact ⟨fun _ _ _ => .inr rfl, fun _ => rfl⟩
      · intro pair
        rw [h.row hrow]
        unfold channelAbility
        split
        · rfl
        · rfl

lemma aligned_modify_iff (f : StoredChannel → StoredChannel) (g : AbilityColumns → AbilityColumns)
    (tag : String) (hpairs : ∀ channel, (f channel).pairs = channel.pairs) :
    Aligned { channels := db.channels.modify fun _ channel => if channel.tag = some tag then f channel else channel
              abilities := db.abilities.modify fun _ ability => if ability.tag = some tag then g ability else ability
              nextId } ↔
      ∀ id channel, db.channels.row id = some channel → channel.tag = some tag →
        (f channel).ability = g channel.ability := by
  unfold Aligned
  rw [Derived.modify_iff h]
  refine forall₃_congr fun id channel hrow => ?_
  have htag : channel.ability.tag = channel.tag := rfl
  by_cases hmatch : channel.tag = some tag
  · simp only [hmatch, if_true, forall_const]
    constructor
    · intro himage
      obtain ⟨pair, hmem⟩ := exists_mem_pairs
      have hpair := himage pair
      unfold channelAbility at hpair
      rw [hpairs, if_pos hmem, if_pos hmem, map_some, htag, if_pos hmatch] at hpair
      exact some.inj hpair
    · intro hability pair
      unfold channelAbility
      rw [hpairs, hability]
      split
      · rw [map_some, htag, if_pos hmatch]
      · rfl
  · simp only [hmatch, if_false, false_implies, iff_true]
    intro pair
    unfold channelAbility
    split
    · rw [map_some, htag, if_neg hmatch]
    · rfl

lemma aligned_setStatusByTag {status : Int} : Aligned (db.setStatusByTag tag status) :=
  (aligned_modify_iff h (fun channel => { channel with status := status })
    (fun ability => { ability with enabled := status = channelStatusEnabled }) tag fun _ => rfl).mpr fun _ _ _ _ => rfl

def TagEdit.patch (edit : TagEdit) (channel : StoredChannel) : StoredChannel :=
  { channel with
    tag := edit.newTag.or channel.tag
    priority := edit.priority.or channel.priority
    weight := edit.weight.or channel.weight }

omit h in
lemma ability_patch_iff (edit : TagEdit) (channel : StoredChannel) : (TagEdit.patch edit channel).ability =
    { channel.ability with
      tag := edit.newTag.or channel.ability.tag
      priority := edit.priority.getD channel.ability.priority
      weight := if edit.weight.getD 0 ≠ 0 then edit.weight.getD 0 else channel.ability.weight } ↔
      (edit.weight = some 0 → channel.getWeight = 0) := by
  have hpriority : (TagEdit.patch edit channel).getPriority = edit.priority.getD channel.getPriority := by
    unfold TagEdit.patch ChannelRow.getPriority
    cases edit.priority with
    | none => rfl
    | some priority => rfl
  have hweight : (TagEdit.patch edit channel).getWeight =
      (if edit.weight.getD 0 ≠ 0 then edit.weight.getD 0 else channel.getWeight) ↔
        (edit.weight = some 0 → channel.getWeight = 0) := by
    unfold TagEdit.patch ChannelRow.getWeight
    rcases edit.weight with _ | _ | weight
    · simp
    · simp [eq_comm]
    · simp
  rw [← hweight]
  constructor
  · exact fun h => congrArg AbilityColumns.weight h
  · intro h
    rw [StoredChannel.ability, hpriority, h]
    rfl

lemma aligned_patchByTag_iff (hpatch : edit.shouldReCreateAbilities = false) :
    Aligned (db.editChannelByTag tag edit) ↔
      (edit.weight = some 0 → ∀ id channel, db.channels.row id = some channel → channel.tag = some tag →
        channel.getWeight = 0) := by
  obtain ⟨hmodels, hgroup⟩ : edit.models.getD "" = "" ∧ edit.group.getD "" = "" := by
    simpa [TagEdit.shouldReCreateAbilities] using hpatch
  have hchannels : ∀ channel : StoredChannel,
      edit.apply tag channel = if channel.tag = some tag then TagEdit.patch edit channel else channel := by
    intro channel
    simp only [TagEdit.apply, TagEdit.patch, hmodels, hgroup, ne_eq, not_true_eq_false, if_false]
  unfold ChannelDB.editChannelByTag updateAbilityByTag
  simp only [hpatch, Bool.false_eq_true, if_false, hchannels]
  refine (aligned_modify_iff h (TagEdit.patch edit) (fun ability =>
    { ability with
      tag := edit.newTag.or ability.tag
      priority := edit.priority.getD ability.priority
      weight := if edit.weight.getD 0 ≠ 0 then edit.weight.getD 0 else ability.weight }) tag fun _ => rfl).trans ?_
  simp only [ability_patch_iff]
  exact ⟨fun h hweight id channel hrow htag => h id channel hrow htag hweight,
    fun h id channel hrow htag hweight => h hweight id channel hrow htag⟩

omit h in
lemma row_foldl_updateAbilities {rows : List (Int × StoredChannel)} (hnodup : (rows.map Prod.fst).Nodup)
    (abilities : Abilities) (pair : String × String) (k : Int) :
    (∀ channel, (k, channel) ∈ rows → (rows.foldl (fun abilities row => updateAbilities row.1 row.2 abilities)
      abilities).row (pair, k) = writtenAbility channel pair) ∧
    (k ∉ rows.map Prod.fst → (rows.foldl (fun abilities row => updateAbilities row.1 row.2 abilities)
      abilities).row (pair, k) = abilities.row (pair, k)) := by
  induction rows generalizing abilities with
  | nil => exact ⟨fun _ h => (not_mem_nil h).elim, fun _ => rfl⟩
  | cons row rows ih =>
    obtain ⟨hnot, hrest⟩ := nodup_cons.mp hnodup
    obtain ⟨hwritten, hkept⟩ := ih hrest (updateAbilities row.1 row.2 abilities)
    rw [foldl_cons]
    constructor
    · intro channel hmem
      rcases mem_cons.mp hmem with rfl | hmem
      · rw [hkept hnot, row_updateAbilities, if_pos rfl]
      · exact hwritten channel hmem
    · intro hk
      rw [map_cons, mem_cons, not_or] at hk
      rw [hkept hk.2, row_updateAbilities, if_neg hk.1]

lemma aligned_reCreateByTag_iff (hrecreate : edit.shouldReCreateAbilities) : Aligned (db.editChannelByTag tag edit) ↔
      ∀ id channel, db.channels.row id = some channel → (edit.apply tag channel).tag = some (edit.newTag.getD tag) →
        PairsApart (edit.apply tag channel) := by
  let channels := db.channels.modify fun _ channel => edit.apply tag channel
  let tagged := channels.rows.filter fun row => row.2.tag = some (edit.newTag.getD tag)
  have hmem : ∀ {id channel}, (id, channel) ∈ tagged ↔
      channels.row id = some channel ∧ channel.tag = some (edit.newTag.getD tag) := by
    intro id channel
    rw [mem_filter, mem_rows]
    simp
  have hnodup : (tagged.map Prod.fst).Nodup := channels.nodup_rows.sublist (filter_sublist.map _)
  have hrow : ∀ {id channel}, db.channels.row id = some channel → channels.row id = some (edit.apply tag channel) := by
    intro id channel hrow
    show (db.channels.row id).map _ = _
    rw [hrow]
    rfl
  have hdb : db.editChannelByTag tag edit = { db with
      channels
      abilities := tagged.foldl (fun abilities row => updateAbilities row.1 row.2 abilities) db.abilities } := by
    unfold ChannelDB.editChannelByTag
    dsimp only
    rw [if_pos hrecreate]
  rw [hdb]
  unfold Aligned
  rw [Derived.iff_on h (· ∈ tagged.map Prod.fst)]
  · constructor
    · intro h' id channel hid htag
      refine writtenAbility_eq_iff.mp fun pair => ?_
      have hin : (id, edit.apply tag channel) ∈ tagged := hmem.mpr ⟨hrow hid, htag⟩
      have hview := h' id (mem_map_of_mem hin) pair
      rw [(row_foldl_updateAbilities hnodup db.abilities pair id).1 _ hin] at hview
      rw [hview]
      exact congrArg (bind · _) (hrow hid)
    · intro h' k hk pair
      obtain ⟨⟨id, channel⟩, hin, rfl⟩ := mem_map.mp hk
      obtain ⟨hid, htag⟩ := hmem.mp hin
      obtain ⟨initial, hinitial, rfl⟩ := map_eq_some_iff.mp hid
      rw [(row_foldl_updateAbilities hnodup db.abilities pair id).1 _ hin,
        writtenAbility_eq_iff.mpr (h' id initial hinitial htag)]
      rw [hrow hinitial]
      rfl
  · intro k hk
    show (db.channels.row k).map _ = _
    cases hinitial : db.channels.row k with
    | none => rfl
    | some channel =>
      -- a channel with the tag has the updated one after the edit
      have hother : channel.tag ≠ some tag := by
        intro htag
        refine hk (mem_map_of_mem (f := Prod.fst) (hmem.mpr ⟨hrow hinitial, ?_⟩))
        unfold TagEdit.apply
        rw [if_pos htag, htag]
        cases edit.newTag with
        | none => rfl
        | some newTag => rfl
      exact congrArg some (if_neg hother)
  · exact fun pair k hk => (row_foldl_updateAbilities hnodup db.abilities pair k).2 hk

lemma aligned_filter_iff {keep : StoredChannel → Bool} :
    Aligned { db with channels := db.channels.filter fun _ => keep } ↔
      ∀ id channel, db.channels.row id = some channel → keep channel := by
  constructor
  · intro h' id channel hrow
    by_contra hdeleted
    obtain ⟨pair, hmem⟩ := exists_mem_pairs
    have hrow' : db.abilities.row (pair, id) = _ := h' pair id
    rw [h.row hrow, row_filter, hrow, filter_some_neg (by simpa using hdeleted), channelAbility, if_pos hmem] at hrow'
    cases hrow'
  · intro hkeep pair id
    rw [h pair id, row_filter]
    cases hrow : db.channels.row id with
    | none => rfl
    | some channel => rw [filter_some_pos (hkeep id channel hrow)]

end Operations

section Runs

variable (parseArray : String → Option (List String)) (ops : List ChannelOp)

lemma aligned_apply_iff (h : Aligned db) (hfresh : db.channels.row db.nextId = none) {op : ChannelOp} :
    Aligned (op.apply parseArray db) ↔ KeepsMirror parseArray db op := by
  cases op with
  | insert channel =>
    refine h.write_iff (row_insert _ hfresh) fun _ _ => row_addAbilities fun pair => ?_
    rw [h pair db.nextId, hfresh]
    rfl
  | update id edit => exact aligned_update_iff h
  | updateChannelStatus id call now =>
    refine (aligned_updateChannelStatus_iff h id call now).trans ?_
    exact forall₄_congr fun _ _ _ hcall => status_withStatus_iff hcall
  | enableChannelByTag tag | disableChannelByTag tag =>
    exact ⟨fun _ => trivial, fun _ => aligned_setStatusByTag h⟩
  | editChannelByTag tag edit =>
    cases hrecreate : edit.shouldReCreateAbilities with
    | true =>
      simp only [KeepsMirror, hrecreate, if_true]
      exact aligned_reCreateByTag_iff h hrecreate
    | false =>
      simp only [KeepsMirror, hrecreate, Bool.false_eq_true, if_false]
      exact aligned_patchByTag_iff h hrecreate
  | deleteChannelByStatus status =>
    refine (aligned_filter_iff h).trans ?_
    simp only [KeepsMirror, decide_eq_true_eq]
  | deleteDisabledChannel =>
    refine (aligned_filter_iff h).trans ?_
    simp only [KeepsMirror, Bool.and_eq_true, decide_eq_true_eq]

def IdsBelow (db : ChannelDB) : Prop := ∀ id, db.nextId ≤ id → db.channels.row id = none

lemma row_update_eq_none {id : Int} (h : channels.row id = none) {id' : Int} {f : StoredChannel → StoredChannel} :
    (channels.update id' f).row id = none := by
  rw [row_update]
  split
  · next hid => rw [← hid, h, map_none]
  · exact h

lemma IdsBelow.apply (h : IdsBelow db) (op : ChannelOp) : IdsBelow (op.apply parseArray db) := by
  intro id hid
  cases op with
  | insert channel =>
    replace hid : db.nextId + 1 ≤ id := hid
    show (db.channels.insert db.nextId channel.create).row id = none
    rw [row_insert _ (h db.nextId le_rfl), if_neg (by omega)]
    exact h id (by omega)
  | update id' edit =>
    simp only [ChannelOp.apply, ChannelDB.update] at hid ⊢
    split at hid
    · exact h id hid
    · exact row_update_eq_none (h id hid)
  | updateChannelStatus id' call now =>
    simp only [ChannelOp.apply, ChannelDB.updateChannelStatus] at hid ⊢
    split at hid
    · exact h id hid
    split at hid
    · next hsame =>
      rw [if_pos hsame]
      exact h id hid
    · next hsame =>
      rw [if_neg hsame]
      exact row_update_eq_none (h id hid)
  | enableChannelByTag tag | disableChannelByTag tag | editChannelByTag tag edit =>
    exact congrArg (Option.map _) (h id hid)
  | deleteChannelByStatus status | deleteDisabledChannel => exact congrArg (Option.filter _) (h id hid)

lemma idsBelow_after {ops : List ChannelOp} : IdsBelow (channelDBAfter parseArray ops) := by
  unfold channelDBAfter
  induction ops using reverseRecOn with
  | nil => exact fun _ _ => rfl
  | append_singleton ops op ih =>
    rw [foldl_concat]
    exact ih.apply parseArray op

/-- The abilities mirror the channels after each of the operations exactly if each of them keeps them in order. -/
theorem aligned_iff : (∀ before, before <+: ops → Aligned (channelDBAfter parseArray before)) ↔
      ∀ before op, before ++ [op] <+: ops → KeepsMirror parseArray (channelDBAfter parseArray before) op := by
  have hstep : ∀ before op, Aligned (channelDBAfter parseArray before) →
      (Aligned (channelDBAfter parseArray (before ++ [op])) ↔
        KeepsMirror parseArray (channelDBAfter parseArray before) op) := by
    intro before op h
    have happly : channelDBAfter parseArray (before ++ [op]) = op.apply parseArray (channelDBAfter parseArray before) :=
      foldl_concat _ _ _ _
    rw [happly]
    exact aligned_apply_iff parseArray h (idsBelow_after parseArray _ le_rfl)
  constructor
  · intro h before op hpre
    exact (hstep before op (h before ((prefix_append _ _).trans hpre))).mp (h _ hpre)
  · intro h before
    induction before using reverseRecOn with
    | nil => exact fun _ _ _ => rfl
    | append_singleton before op ih =>
      intro hpre
      exact (hstep before op (ih ((prefix_append _ _).trans hpre))).mpr (h before op hpre)

/-- A channel in two groups with the models `m` and `n`, a tag and a weight. -/
def taggedChannel : StoredChannel where
  group := "default,vip"
  models := "m,n"
  weight := some 5
  tag := some "t"

theorem aligned_three : Aligned (channelDBAfter (fun _ => none)
    [.insert taggedChannel, .editChannelByTag "t" { priority := some 3 }, .disableChannelByTag "t"]) := by
  refine (aligned_iff _ _).mpr (fun before op hpre => ?_) _ (prefix_refl _)
  have hapart : ∀ pair ∈ taggedChannel.create.pairs, ∀ pair' ∈ taggedChannel.create.pairs,
      abilityKey pair = abilityKey pair' → pair = pair' := by decide +kernel
  rcases before with _ | ⟨_, _ | ⟨_, _ | ⟨_, before⟩⟩⟩
  · obtain rfl : op = .insert taggedChannel := by simpa using hpre
    exact fun pair h pair' h' => hapart pair h pair' h'
  · obtain ⟨-, rfl⟩ := by simpa using hpre
    exact fun h => nomatch h
  · obtain ⟨-, -, rfl⟩ := by simpa using hpre
    trivial
  · simp at hpre

def afterOps (ops : List ChannelOp) : ChannelDB := channelDBAfter (fun _ => none) ops

/-- A channel whose two groups and two models make one text twice. -/
def barChannel : StoredChannel where
  group := "a|b,a"
  models := "c,b|c"

/-- A disabled multi-key channel whose size is not the number of its keys. -/
def emptySizeChannel : StoredChannel where
  status := 2
  models := "m"
  key := "k"
  channelInfo := { isMultiKey := true }

/-- A deletion leaves the abilities of the channel. A weight of 0 by tag is not written to them. Of two pairs with one
text only one is written. A multi-key channel that is disabled by a call that enables a key has enabled abilities. -/
theorem aligned_counterexample :
    (((afterOps [.insert { taggedChannel with status := 2 }, .deleteDisabledChannel]).channels.row 1).isSome = false ∧
      ((afterOps [.insert { taggedChannel with status := 2 }, .deleteDisabledChannel]).abilities.row
        (("vip", "m"), 1)).isSome) ∧
    (((afterOps [.insert taggedChannel, .editChannelByTag "t" { weight := some 0 }]).channels.row 1).map
        (fun channel => channel.getWeight) = some 0 ∧
      ((afterOps [.insert taggedChannel, .editChannelByTag "t" { weight := some 0 }]).abilities.row
        (("vip", "m"), 1)).map AbilityColumns.weight = some 5) ∧
    (("a", "b|c") ∈ barChannel.pairs ∧
      ((afterOps [.insert barChannel]).abilities.row (("a", "b|c"), 1)).isSome = false) ∧
    (((afterOps [.insert emptySizeChannel, .updateChannelStatus 1 { usingKey := "k", status := 1 } 0]).channels.row
        1).map (fun channel => channel.status) = some 3 ∧
      ((afterOps [.insert emptySizeChannel, .updateChannelStatus 1 { usingKey := "k", status := 1 } 0]).abilities.row
        (("default", "m"), 1)).map AbilityColumns.enabled = some true) := by
  decide +kernel

end Runs

end LoveApi.Proofs
