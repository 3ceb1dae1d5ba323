import Mathlib.Data.List.Duplicate
import LoveApi.ChannelCache

/-!
# What a selection can return

Over all random draws, a selection from the cache can return the channels left at its level that have a weight, or all
of them if none has one.
-/

namespace LoveApi.Proofs

open Program Go List Option Table

variable {targets : List (Int × Nat)} {draw : Nat} {status : Int}

variable {cache : ChannelCache} {order : MapOrder} {group model : String} {ids : List Int}
  {channels : Table Int ChannelRow} {abilities : List Ability} {entry : String × List Int}

/-! ### A draw by weight -/

section

variable {id : Int}

lemma exists_mod_iff {P : Nat → Prop} {total : Nat} (h : 0 < total) : (∃ draw, P (draw % total)) ↔
    ∃ draw, draw < total ∧ P draw := by
  constructor
  · rintro ⟨draw, hP⟩
    exact ⟨draw % total, Nat.mod_lt draw h, hP⟩
  · rintro ⟨draw, hlt, hP⟩
    exact ⟨draw, by rwa [Nat.mod_eq_of_lt hlt]⟩

lemma totalWeight_map {factor adjustment : Nat} :
    totalWeight (targets.map fun t => (t.1, t.2 * factor + adjustment)) =
      totalWeight targets * factor + targets.length * adjustment := by
  induction targets with
  | nil => simp
  | cons t targets ih =>
    rw [map_cons, totalWeight_cons, totalWeight_cons, ih, length_cons]
    ring

/-- The weight with which a draw chooses a channel of the given weight. -/
def effectiveWeight (targets : List (Int × Nat)) (weight : Nat) : Nat :=
  if totalWeight targets = 0 then 100
  else if totalWeight targets / targets.length < 10 then weight * 100
  else weight

lemma effectiveWeight_pos {weight : Nat} :
    0 < effectiveWeight targets weight ↔ 0 < weight ∨ totalWeight targets = 0 := by
  unfold effectiveWeight
  split
  · simp [*]
  · split <;> simp [*]

/-- The number of equally likely draws. -/
def drawCount (targets : List (Int × Nat)) : Nat :=
  if totalWeight targets = 0 then targets.length * 100
  else if totalWeight targets / targets.length < 10 then totalWeight targets * 100
  else totalWeight targets

lemma chooseByWeight_eq (h : targets ≠ []) :
    let weights := targets.map fun t => (t.1, effectiveWeight targets t.2)
    0 < drawCount targets ∧ totalWeight weights = drawCount targets ∧
      ∀ draw, chooseByWeight draw targets = pick weights (draw % drawCount targets : Nat) := by
  have hlen : 0 < targets.length := length_pos_of_ne_nil h
  have hweights : ∀ factor adjustment : Nat,
      (∀ t ∈ targets, t.2 * factor + adjustment = effectiveWeight targets t.2) →
      targets.map (fun t => (t.1, effectiveWeight targets t.2)) =
        targets.map fun t => (t.1, t.2 * factor + adjustment) := fun factor adjustment heq =>
    map_congr_left fun t ht => by rw [heq t ht]
  unfold chooseByWeight drawCount
  by_cases hzero : totalWeight targets = 0
  · have hnone : ∀ t ∈ targets, t.2 = 0 := fun t ht =>
      List.sum_eq_zero_iff_forall_eq_nat.mp hzero t.2 (List.mem_map_of_mem ht)
    rw [hweights 1 100 fun t ht => by simp [effectiveWeight, hzero, hnone t ht]]
    simp only [totalWeight_map, hzero, if_true]
    exact ⟨by omega, by omega, fun draw => by simp⟩
  · by_cases hsmall : totalWeight targets / targets.length < 10
    · rw [hweights 100 0 fun t ht => by simp [effectiveWeight, hzero, hsmall]]
      simp only [totalWeight_map, hzero, hsmall, if_true, if_false]
      exact ⟨by omega, by simp⟩
    · rw [hweights 1 0 fun t ht => by simp [effectiveWeight, hzero, hsmall]]
      simp only [totalWeight_map, hzero, hsmall, if_false]
      exact ⟨by omega, by omega, fun draw => by simp⟩

lemma exists_chooseByWeight_iff (h : targets ≠ []) : (∃ draw, chooseByWeight draw targets = some id) ↔
    ∃ weight, (id, weight) ∈ targets ∧ (0 < weight ∨ totalWeight targets = 0) := by
  obtain ⟨hpos, htotal, heq⟩ := chooseByWeight_eq h
  simp only [heq]
  rw [exists_mod_iff hpos (P := fun draw => pick _ draw = some id), ← htotal, exists_draw_iff]
  constructor
  · rintro ⟨weight, hmem, hpos⟩
    obtain ⟨⟨id', weight'⟩, hmem', hsame⟩ := mem_map.mp hmem
    cases hsame
    exact ⟨weight', hmem', effectiveWeight_pos.mp hpos⟩
  · rintro ⟨weight, hmem, hpos⟩
    exact ⟨_, mem_map.mpr ⟨_, hmem, rfl⟩, effectiveWeight_pos.mpr hpos⟩

lemma chooseByWeight_isSome (h : targets ≠ []) : ∃ id, chooseByWeight draw targets = some id := by
  obtain ⟨hpos, htotal, heq⟩ := chooseByWeight_eq h
  rw [heq]
  apply exists_pick
  · exact fun hnil => h (map_eq_nil_iff.mp hnil)
  · rw [htotal]
    exact_mod_cast Nat.mod_lt draw hpos

end

/-! ### A selection from the cache -/

section

variable {retry : Nat} {excluded : List Int}
variable {id : Int} {left : List Int}

/-- The cached channels that are not excluded. -/
def leftChannels (cache : ChannelCache) (order : MapOrder) (group model : String) (excluded : List Int) : List Int :=
  (getCachedChannels cache order group model).filter (· ∉ excluded)

lemma mem_leftChannels : id ∈ leftChannels cache order group model excluded ↔
    id ∈ getCachedChannels cache order group model ∧ id ∉ excluded := by
  simp [leftChannels]

/-- The channels at the level of the retry index that a draw can choose. -/
def Drawable (cache : ChannelCache) (retry : Nat) (left : List Int) (id : Int) : Prop :=
  id ∈ targetChannels cache retry left ∧
    (0 < cache.weight id ∨ ∀ other ∈ targetChannels cache retry left, cache.weight other = 0)

lemma mem_targetChannels : id ∈ targetChannels cache retry left ↔
    id ∈ left ∧ level retry (left.map cache.priority) = some (cache.priority id) := by
  unfold targetChannels
  rcases hlevel : level retry (left.map cache.priority) with _ | target
  · simp
  · simp [eq_comm]

lemma targetChannels_ne_nil (h : left ≠ []) : targetChannels cache retry left ≠ [] := by
  have hmap : left.map cache.priority ≠ [] := fun hnil => h (map_eq_nil_iff.mp hnil)
  obtain ⟨target, htarget⟩ := exists_level hmap retry
  obtain ⟨id, hid, hsame⟩ := mem_map.mp (mem_of_level htarget)
  exact ne_nil_of_mem (mem_targetChannels.mpr ⟨hid, by rw [htarget, hsame]⟩)

lemma targets_ne_nil (h : left ≠ []) : (targetChannels cache retry left).map (fun id => (id, cache.weight id)) ≠ [] :=
  fun hnil => targetChannels_ne_nil h (map_eq_nil_iff.mp hnil)

lemma totalWeight_eq_zero :
    totalWeight (ids.map fun id => (id, cache.weight id)) = 0 ↔ ∀ id ∈ ids, cache.weight id = 0 := by
  induction ids with
  | nil => simp
  | cons id ids ih => simp [ih]

lemma exists_choose_iff (h : left ≠ []) :
    (∃ draw, chooseByWeight draw ((targetChannels cache retry left).map fun id => (id, cache.weight id)) = some id) ↔
      Drawable cache retry left id := by
  rw [exists_chooseByWeight_iff (targets_ne_nil h), totalWeight_eq_zero]
  constructor
  · rintro ⟨weight, hmem, hpos⟩
    obtain ⟨id', hid, hsame⟩ := mem_map.mp hmem
    cases hsame
    exact ⟨hid, hpos⟩
  · rintro ⟨hid, hpos⟩
    exact ⟨_, mem_map.mpr ⟨id, hid, rfl⟩, hpos⟩

/-- Every listed channel is cached. -/
def Consistent (cache : ChannelCache) (order : MapOrder) (group model : String) : Prop :=
  ∀ id ∈ getCachedChannels cache order group model, (cache.channelsIDM.row id).isSome

lemma selectCached_eq (hids : Consistent cache order group model) :
    selectCached cache order draw group model retry excluded =
      let left := leftChannels cache order group model excluded
      if left = [] then ⟨none, none⟩
      else ⟨chooseByWeight draw ((targetChannels cache retry left).map fun id => (id, cache.weight id)), none⟩ := by
  unfold selectCached leftChannels
  unfold Consistent at hids
  rcases hc : getCachedChannels cache order group model with _ | ⟨id, _ | ⟨id', rest⟩⟩
  · rfl
  · -- The only channel is the one that every draw chooses.
    rw [hc] at hids
    have hsome := hids id mem_cons_self
    by_cases hex : id ∈ excluded
    · simp [hex]
    · have hleft : [id].filter (· ∉ excluded) = [id] := by simp [hex]
      simp only [hleft, hex, if_false, hsome, if_true, cons_ne_nil]
      obtain ⟨other, hother⟩ := chooseByWeight_isSome (targets_ne_nil (cons_ne_nil id []))
      have hdraw := (exists_choose_iff (cons_ne_nil id [])).mp ⟨draw, hother⟩
      obtain rfl := mem_singleton.mp (mem_targetChannels.mp hdraw.1).1
      rw [hother]
  · rw [hc] at hids
    have hfind : (id :: id' :: rest).find? (fun id => (cache.channelsIDM.row id).isNone) = none := by
      refine find?_eq_none.mpr fun other hother hnone => ?_
      have hsome := hids other hother
      rw [isNone_iff_eq_none.mp hnone] at hsome
      cases hsome
    simp only [hfind]
    split
    · rfl
    · next hleft =>
      obtain ⟨other, hother⟩ := chooseByWeight_isSome (targets_ne_nil hleft)
      rw [hother]

/-- Exactly the drawable channels are selected by some draw. -/
theorem exists_selectCached_iff (hids : Consistent cache order group model) :
    (∃ draw, (selectCached cache order draw group model retry excluded).channel = some id) ↔
      Drawable cache retry (leftChannels cache order group model excluded) id := by
  simp only [selectCached_eq hids]
  by_cases hleft : leftChannels cache order group model excluded = []
  · simp [hleft, Drawable, mem_targetChannels]
  · simp only [hleft, if_false]
    exact exists_choose_iff hleft

lemma selectCached_isSome (hids : Consistent cache order group model)
    (hleft : leftChannels cache order group model excluded ≠ []) (retry draw : Nat) :
    ∃ id, (selectCached cache order draw group model retry excluded).channel = some id := by
  rw [selectCached_eq hids]
  simp only [hleft, if_false]
  exact chooseByWeight_isSome (targets_ne_nil hleft)

lemma getCachedChannels_eq (cache : ChannelCache) (order : MapOrder) (group model : String) :
    getCachedChannels cache order group model = [] ∨ ∃ key, getCachedChannels cache order group model =
        channelsOfKey order (cachedModels cache order (trimSpace group)) key := by
  unfold getCachedChannels
  simp only
  rcases hfind : ((modelKeys (trimSpace model)).map (channelsOfKey order
    (cachedModels cache order (trimSpace group)))).find? (· ≠ []) with _ | ids
  · exact .inl rfl
  · obtain ⟨key, -, rfl⟩ := List.mem_map.mp (List.mem_of_find?_eq_some hfind)
    exact .inr ⟨key, rfl⟩

lemma nodup_eraseDups (ids : List Int) : ids.eraseDups.Nodup := by
  induction ids using reverseRecOn with
  | nil => exact nodup_nil
  | append_singleton ids id ih =>
    rw [eraseDups_append]
    by_cases h : id ∈ ids
    · simpa [removeAll, h] using ih
    · have hne : ∀ other ∈ ids, other ≠ id := fun other hother hsame => h (hsame ▸ hother)
      simpa [removeAll, h, eraseDups_cons, nodup_append, ih] using hne

lemma nodup_getCachedChannels : (getCachedChannels cache order group model).Nodup := by
  obtain hnil | ⟨key, hkey⟩ := getCachedChannels_eq cache order group model
  · rw [hnil]
    exact nodup_nil
  · rw [hkey]
    exact nodup_eraseDups _

/-- Every draw selects a candidate, and each candidate is selected by as many draws as its weight says. -/
theorem selectCached_draws (retry : Nat) (hids : Consistent cache order group model)
    (hleft : leftChannels cache order group model excluded ≠ []) :
    let candidates := targetChannels cache retry (leftChannels cache order group model excluded)
    let targets := candidates.map fun id => (id, cache.weight id)
    let selected := fun draw => selectCached cache order draw group model retry excluded
    (∀ draw < drawCount targets, ∃ id ∈ candidates, selected draw = ⟨some id, none⟩) ∧
      (∀ id ∈ candidates, (List.range (drawCount targets)).countP (fun draw => selected draw = ⟨some id, none⟩) =
        effectiveWeight targets (cache.weight id)) ∧
      (candidates.map fun id => effectiveWeight targets (cache.weight id)).sum = drawCount targets := by
  intro candidates targets selected
  have hne : targets ≠ [] := targets_ne_nil hleft
  have hselected : ∀ draw, selected draw = ⟨chooseByWeight draw targets, none⟩ := by
    intro draw
    simp only [selected, selectCached_eq hids, hleft, if_false]
    rfl
  obtain ⟨-, htotal, heq⟩ := chooseByWeight_eq hne
  have hweights : targets.map (fun t => (t.1, effectiveWeight targets t.2)) =
      candidates.map fun id => (id, effectiveWeight targets (cache.weight id)) := by
    simp [targets, Function.comp_def]
  refine ⟨fun draw _ => ?_, fun id hid => ?_, ?_⟩
  · obtain ⟨id, hid⟩ : ∃ id, chooseByWeight draw targets = some id := chooseByWeight_isSome hne
    refine ⟨id, ((exists_choose_iff hleft).mp ⟨draw, hid⟩).1, ?_⟩
    rw [hselected, hid]
  · have hnodup : candidates.Nodup := by
      unfold candidates targetChannels
      split
      · exact nodup_nil
      · exact (nodup_getCachedChannels.filter _).filter _
    rw [← countP_pick_map hnodup hid fun id => effectiveWeight targets (cache.weight id), ← hweights, htotal]
    refine countP_congr fun draw hdraw => ?_
    rw [hselected, heq, Nat.mod_eq_of_lt (mem_range.mp hdraw)]
    simp
  · rw [hweights] at htotal
    simpa [totalWeight, Function.comp_def] using htotal

/-- Of weights 1 and 2, two thirds of the draws select the second. -/
theorem selectCached_draws_two :
    let row : Nat → ChannelRow := fun weight => { models := "m", weight := some weight }
    let cache : ChannelCache := ⟨[("g", [("m", [1, 2])])], (Table.empty.insert 1 (row 1)).insert 2 (row 2)⟩
    (List.range 300).countP (fun draw => selectCached cache {} draw "g" "m" 0 [] = ⟨some 2, none⟩) = 200 := by
  intro row cache
  have hleft : leftChannels cache {} "g" "m" [] = [1, 2] := by decide +kernel
  have htargets : targetChannels cache 0 [1, 2] = [1, 2] := by decide +kernel
  have hweights : [1, 2].map (fun id => (id, cache.weight id)) = [(1, 1), (2, 2)] := by decide +kernel
  have hids : Consistent cache {} "g" "m" := by
    unfold Consistent
    decide +kernel
  have hdraws := (selectCached_draws 0 hids (by rw [hleft]; decide)).2.1 2
  rw [hleft, htargets, hweights] at hdraws
  exact hdraws (by decide)

end

/-! ### The index -/

section

variable {id : Int}

lemma mem_enabledChannels {channel : ChannelRow} : (id, channel) ∈ enabledChannels channels ↔
    channels.row id = some channel ∧ channel.status = channelStatusEnabled := by
  unfold enabledChannels
  rw [mem_filter, mem_rows]
  simp

lemma mem_cacheEntries : (group, model, id) ∈ cacheEntries channels ↔ ∃ channel, channels.row id = some channel ∧
    channel.status = channelStatusEnabled ∧ group ∈ names channel.group ∧ model ∈ names channel.models := by
  unfold cacheEntries
  simp only [List.mem_flatMap, List.mem_map, Prod.exists, Prod.mk.injEq, mem_enabledChannels]
  constructor
  · rintro ⟨_, channel, ⟨hrow, hstatus⟩, _, hgroup, _, hmodel, rfl, rfl, rfl⟩
    exact ⟨channel, hrow, hstatus, hgroup, hmodel⟩
  · rintro ⟨channel, hrow, hstatus, hgroup, hmodel⟩
    exact ⟨id, channel, ⟨hrow, hstatus⟩, group, hgroup, model, hmodel, rfl, rfl, rfl⟩

lemma trimSpace_of_mem_names {list name : String} (h : name ∈ names list) : trimSpace name = name := by
  obtain ⟨raw, -, rfl⟩ := mem_map.mp (mem_filter.mp h).1
  exact trimSpace_trimSpace raw

lemma mem_cacheModels (h : entry ∈ cacheModels channels group) :
    entry.2.Perm (((cacheEntries channels).filter fun e => e.1 = group ∧ e.2.1 = entry.1).map fun e => e.2.2) := by
  obtain ⟨m, -, rfl⟩ := List.mem_map.mp h
  refine (perm_insertionSort _ _).trans (List.Perm.of_eq ?_)
  rw [List.filter_map, List.map_map, List.filter_filter]
  congr 1
  refine filter_congr fun e _ => ?_
  simp [Bool.and_comm]

lemma mem_of_cacheModels (hids : (model, ids) ∈ cacheModels channels group) :
    id ∈ ids ↔ (group, model, id) ∈ cacheEntries channels := by
  rw [(mem_cacheModels hids).mem_iff]
  simp

lemma exists_cacheModels (h : (group, model, id) ∈ cacheEntries channels) :
    ∃ ids, (model, ids) ∈ cacheModels channels group := by
  unfold cacheModels
  simp only [List.mem_map, Prod.mk.injEq]
  refine ⟨_, model, List.mem_dedup.mpr ?_, rfl, rfl⟩
  exact List.mem_map.mpr ⟨(model, id), List.mem_map.mpr ⟨_, List.mem_filter.mpr ⟨h, by simp⟩, rfl⟩, rfl⟩

/-- The index has the given list of channels for a model in a group. -/
def Lists (cache : ChannelCache) (group model : String) (ids : List Int) : Prop :=
  ∃ models, (group, models) ∈ cache.group2model2channels ∧ (model, ids) ∈ models

lemma Lists.of_init (h : Lists (initChannelCache channels abilities) group model ids) :
    (model, ids) ∈ cacheModels channels group := by
  obtain ⟨models, hmodels, hmem⟩ := h
  obtain ⟨group', -, hsame⟩ := mem_map.mp hmodels
  cases hsame
  exact hmem

lemma Lists.of_update (h : Lists (cacheUpdateChannelStatus cache id status) group model ids) :
    ∃ ids', Lists cache group model ids' ∧ ids = if status ≠ channelStatusEnabled then ids'.erase id else ids' := by
  unfold Lists cacheUpdateChannelStatus at h
  by_cases hstatus : status ≠ channelStatusEnabled
  · simp only [if_pos hstatus] at h ⊢
    obtain ⟨_, hmodels, hmem⟩ := h
    obtain ⟨⟨_, models⟩, hmodels', hsame⟩ := mem_map.mp hmodels
    cases hsame
    obtain ⟨⟨_, ids'⟩, hmem', hsame⟩ := mem_map.mp hmem
    cases hsame
    exact ⟨ids', ⟨models, hmodels', hmem'⟩, rfl⟩
  · simp only [if_neg hstatus] at h ⊢
    exact ⟨ids, h, rfl⟩

/-- The cache was built from the table of the channels, apart from their statuses. -/
structure IndexOf (channels : Table Int ChannelRow) (cache : ChannelCache) : Prop where
  listed : ∀ {group model ids}, Lists cache group model ids → ∀ id ∈ ids, (group, model, id) ∈ cacheEntries channels
  rows : ∀ id, ∃ status : ChannelRow → Int, cache.channelsIDM.row id = (channels.row id).map fun channel =>
    { channel with status := status channel }

lemma indexOf_init (channels : Table Int ChannelRow) (abilities : List Ability) :
    IndexOf channels (initChannelCache channels abilities) where
  listed h id hid := (mem_of_cacheModels h.of_init).mp hid
  rows id := ⟨fun channel => channel.status, by
    rw [Option.map_id']
    rfl⟩

lemma IndexOf.update (h : IndexOf channels cache) (id status : Int) :
    IndexOf channels (cacheUpdateChannelStatus cache id status) where
  listed hlists i hi := by
    obtain ⟨ids, hold, rfl⟩ := hlists.of_update
    refine h.listed hold i ?_
    split at hi
    · exact mem_of_mem_erase hi
    · exact hi
  rows i := by
    obtain ⟨st, hst⟩ := h.rows i
    by_cases hi : i = id
    · subst hi
      refine ⟨fun _ => status, ?_⟩
      show (cache.channelsIDM.update i _).row i = _
      rw [row_update_self, hst, Option.map_map]
      rfl
    · refine ⟨st, ?_⟩
      show (cache.channelsIDM.update id _).row i = _
      rw [row_update_of_ne _ hi, hst]

def cacheAfter (channels : Table Int ChannelRow) (abilities : List Ability) (updates : List (Int × Int)) :
    ChannelCache :=
  updates.foldl (fun cache update => cacheUpdateChannelStatus cache update.1 update.2)
    (initChannelCache channels abilities)

lemma indexOf_cacheAfter (channels : Table Int ChannelRow) (abilities : List Ability) (updates : List (Int × Int)) :
    IndexOf channels (cacheAfter channels abilities updates) :=
  foldlRecOn updates _ (indexOf_init channels abilities) fun _ h update _ => h.update update.1 update.2

lemma mem_cachedModels (h : entry ∈ cachedModels cache order group) :
    ∃ models ∈ cache.group2model2channels, entry ∈ models.2 ∧ (models.1 = group ∨
        (cache.group2model2channels.lookup group).getD [] = [] ∧ equalFold (trimSpace models.1) group) := by
  have hlookup : entry ∈ (cache.group2model2channels.lookup group).getD [] → ∃ models ∈ cache.group2model2channels,
      entry ∈ models.2 ∧ models.1 = group := by
    intro h
    rcases hl : cache.group2model2channels.lookup group with _ | models
    · rw [hl] at h
      cases h
    · rw [hl] at h
      obtain ⟨before, after, hsplit, -⟩ := lookup_eq_some_iff.mp hl
      exact ⟨(group, models), by simp [hsplit], h, rfl⟩
  unfold cachedModels at h
  simp only at h
  split at h
  · next hnil =>
    split at h
    · next models hfind =>
      have hmem := (order.perm _).mem_iff.mp (mem_of_find?_eq_some hfind)
      have hfold := find?_some hfind
      exact ⟨models, hmem, h, .inr ⟨hnil, hfold⟩⟩
    · obtain ⟨models, hmem, hentry, hgroup⟩ := hlookup h
      exact ⟨models, hmem, hentry, .inl hgroup⟩
  · obtain ⟨models, hmem, hentry, hgroup⟩ := hlookup h
    exact ⟨models, hmem, hentry, .inl hgroup⟩

lemma mem_getCachedChannels (h : id ∈ getCachedChannels cache order group model) :
    ∃ name key ids, Lists cache name key ids ∧ id ∈ ids ∧
      (name = trimSpace group ∨ (cache.group2model2channels.lookup (trimSpace group)).getD [] = [] ∧
        equalFold (trimSpace name) (trimSpace group)) := by
  obtain hnil | ⟨key, hkey⟩ := getCachedChannels_eq cache order group model
  · rw [hnil] at h
    cases h
  · rw [hkey, channelsOfKey] at h
    obtain ⟨entry, hentry, hid⟩ := mem_flatMap.mp (mem_eraseDups.mp h)
    have hmodels := (order.perm _).mem_iff.mp (mem_filter.mp hentry).1
    obtain ⟨models, hmem, hin, hgroup⟩ := mem_cachedModels hmodels
    exact ⟨models.1, entry.1, entry.2, ⟨models.2, hmem, hin⟩, hid, hgroup⟩

lemma IndexOf.consistent (h : IndexOf channels cache) (order : MapOrder) (group model : String) :
    Consistent cache order group model := by
  intro id hid
  obtain ⟨_, _, ids, hlists, hin, -⟩ := mem_getCachedChannels hid
  obtain ⟨channel, hrow, -⟩ := mem_cacheEntries.mp (h.listed hlists id hin)
  obtain ⟨status, hstatus⟩ := h.rows id
  rw [hstatus, hrow]
  rfl

end

/-! ### Falling back over priorities -/

section

variable {id priority : Int} {channels : List Int}

attribute [local irreducible] selectCached getCachedChannels

/-- The channels that are selected when every attempt fails: the retry index grows by one, and the channels
attempted before are excluded. The draws are the random numbers of the attempts. -/
def failingAttempts (cache : ChannelCache) (order : MapOrder) (group model : String) :
    Nat → List Int → List Nat → List Int
  | _, _, [] => []
  | retry, attempted, draw :: draws =>
    match (selectCached cache order draw group model retry attempted).channel with
    | none => []
    | some id => id :: failingAttempts cache order group model (retry + 1) (id :: attempted) draws

/-- Each attempt goes to a channel of the highest priority that is left. -/
structure HighestFirst (cache : ChannelCache) (channels attempts : List Int) : Prop where
  highest : ∀ before id after, attempts = before ++ id :: after → ∀ other ∈ channels, other ∉ before →
    cache.priority other ≤ cache.priority id
  nonincreasing : attempts.Pairwise fun first second => cache.priority second ≤ cache.priority first

/-- One channel of the highest priority can be left out so that the others have one priority. -/
def OneFallback (cache : ChannelCache) (channels : List Int) : Prop :=
  channels = [] ∨ ∃ first ∈ channels, (∀ id ∈ channels, cache.priority id ≤ cache.priority first) ∧
    ∀ id ∈ channels, ∀ id' ∈ channels, id ≠ first → id' ≠ first → cache.priority id = cache.priority id'

variable (hids : Consistent cache order group model)

include hids

lemma level_of_selectCached {retry : Nat} {attempted : List Int}
    (h : (selectCached cache order draw group model retry attempted).channel = some id) :
    id ∈ leftChannels cache order group model attempted ∧
      level retry ((leftChannels cache order group model attempted).map cache.priority) = some (cache.priority id) :=
  mem_targetChannels.mp ((exists_selectCached_iff hids).mp ⟨draw, h⟩).1

lemma failingAttempts_nodup (draws : List Nat) (retry : Nat) (attempted : List Int) :
    (failingAttempts cache order group model retry attempted draws).Nodup ∧
      ∀ id ∈ failingAttempts cache order group model retry attempted draws,
        id ∈ leftChannels cache order group model attempted := by
  induction draws generalizing retry attempted with
  | nil => simp [failingAttempts]
  | cons draw draws ih =>
    rw [failingAttempts]
    rcases hsel : (selectCached cache order draw group model retry attempted).channel with _ | id
    · simp
    · obtain ⟨hnodup, hleft⟩ := ih (retry + 1) (id :: attempted)
      refine ⟨nodup_cons.mpr ⟨fun hmem => ?_, hnodup⟩, fun other hother => ?_⟩
      · exact (mem_leftChannels.mp (hleft id hmem)).2 mem_cons_self
      · rcases mem_cons.mp hother with rfl | hother
        · exact (level_of_selectCached hids hsel).1
        · obtain ⟨hmem, hnot⟩ := mem_leftChannels.mp (hleft other hother)
          exact mem_leftChannels.mpr ⟨hmem, fun h => hnot (mem_cons_of_mem _ h)⟩

omit hids in
lemma OneFallback.rest (h : OneFallback cache channels) (hid : id ∈ channels)
    (hmax : ∀ other ∈ channels, cache.priority other ≤ cache.priority id) :
    ∃ priority, ∀ other ∈ channels, other ≠ id → cache.priority other = priority := by
  rcases h with rfl | ⟨first, hfirst, htop, hone⟩
  · cases hid
  by_cases hsame : id = first
  · subst hsame
    by_cases hothers : ∃ other ∈ channels, other ≠ id
    · obtain ⟨other, hother, hne⟩ := hothers
      exact ⟨cache.priority other, fun third hthird hne' => hone third hthird other hother hne' hne⟩
    · exact ⟨0, fun other hother hne => absurd ⟨other, hother, hne⟩ hothers⟩
  · refine ⟨cache.priority id, fun other hother _ => ?_⟩
    by_cases heq : other = first
    · rw [heq]
      exact le_antisymm (hmax first hfirst) (htop id hid)
    · exact hone other hother id hid heq hsame

lemma oneFallback_of_highestFirst (h : HighestFirst cache (getCachedChannels cache order group model)
      (failingAttempts cache order group model 0 [] [0, 0])) :
    OneFallback cache (getCachedChannels cache order group model) := by
  by_cases hnil : getCachedChannels cache order group model = []
  · exact .inl hnil
  have hsome : leftChannels cache order group model [] ≠ [] := by simpa [leftChannels] using hnil
  obtain ⟨first, hfirst⟩ := selectCached_isSome hids hsome 0 0
  have hruns := h.highest
  simp only [failingAttempts, hfirst] at hruns
  refine .inr ⟨first, (mem_leftChannels.mp (level_of_selectCached hids hfirst).1).1, ?_, ?_⟩
  · exact fun id hid => hruns [] first _ rfl id hid (not_mem_nil)
  · intro id hid id' hid' hne hne'
    have hleft : ∀ other ∈ getCachedChannels cache order group model, other ≠ first →
        other ∈ leftChannels cache order group model [first] := fun other hother hne =>
      mem_leftChannels.mpr ⟨hother, by simpa using hne⟩
    obtain ⟨second, hsecond⟩ := selectCached_isSome hids (ne_nil_of_mem (hleft id hid hne)) 1 0
    have hlevel := (level_of_selectCached hids hsecond).2
    simp only [zero_add, hsecond] at hruns
    have hmax : ∀ p ∈ (leftChannels cache order group model [first]).map cache.priority,
        p ≤ cache.priority second := by
      intro p hp
      obtain ⟨other, hother, rfl⟩ := mem_map.mp hp
      obtain ⟨hmem, hnot⟩ := mem_leftChannels.mp hother
      exact hruns [first] second [] rfl other hmem hnot
    -- The second level is the highest that is left, so there is only one.
    have hall := ((level_greatest_iff hlevel).mp hmax).resolve_left one_ne_zero
    rw [hall _ (mem_map_of_mem (hleft id hid hne)), hall _ (mem_map_of_mem (hleft id' hid' hne'))]

omit hids in
lemma highestFirst_cons {first : Int} {rest : List Int}
    (hmax : ∀ other ∈ channels, cache.priority other ≤ cache.priority first)
    (hone : ∀ other ∈ channels, other ≠ first → cache.priority other = priority)
    (hsub : ∀ id ∈ rest, id ∈ channels) (hrest : ∀ id ∈ rest, cache.priority id = priority) :
    HighestFirst cache channels (first :: rest) := by
  constructor
  · intro before id after hsplit other hother hnot
    rcases before with _ | ⟨b, before⟩
    · obtain ⟨rfl, -⟩ := cons.inj hsplit
      exact hmax other hother
    · obtain ⟨rfl, rfl⟩ := cons.inj hsplit
      have hne : other ≠ first := fun heq => hnot (heq ▸ mem_cons_self)
      rw [hrest id (mem_append_right _ mem_cons_self), hone other hother hne]
  · refine pairwise_cons.mpr ⟨fun id hid => hmax id (hsub id hid), ?_⟩
    exact pairwise_of_forall_mem_list fun id hid id' hid' => by rw [hrest id hid, hrest id' hid']

lemma OneFallback.highestFirst
    (h : OneFallback cache (getCachedChannels cache order group model)) {draws : List Nat} :
    HighestFirst cache (getCachedChannels cache order group model)
      (failingAttempts cache order group model 0 [] draws) := by
  rcases draws with _ | ⟨draw, draws⟩
  · exact ⟨fun before id after hnil => by simp [failingAttempts] at hnil, List.Pairwise.nil⟩
  rw [failingAttempts]
  rcases hsel : (selectCached cache order draw group model 0 []).channel with _ | first
  · exact ⟨fun before id after hnil => by simp at hnil, List.Pairwise.nil⟩
  obtain ⟨hmem, hlevel⟩ := level_of_selectCached hids hsel
  have hmax : ∀ other ∈ getCachedChannels cache order group model, cache.priority other ≤ cache.priority first :=
    fun other hother => le_of_level_zero hlevel (mem_map_of_mem (mem_leftChannels.mpr ⟨hother, by simp⟩))
  obtain ⟨priority, hone⟩ := h.rest (mem_leftChannels.mp hmem).1 hmax
  have hleft := (failingAttempts_nodup hids draws 1 [first]).2
  refine highestFirst_cons hmax hone (fun id hid => (mem_leftChannels.mp (hleft id hid)).1) fun id hid => ?_
  obtain ⟨hid, hne⟩ := mem_leftChannels.mp (hleft id hid)
  exact hone id hid (by simpa using hne)

omit hids

/-- Every attempt goes to a channel of the highest priority left, whatever the random draws are, exactly if one
channel of the highest priority can be left out so that the others have one priority. -/
theorem fallback_highestFirst_iff {channels : Table Int ChannelRow} {abilities : List Ability}
    {updates : List (Int × Int)} :
    let cache := cacheAfter channels abilities updates
    (∀ draws, HighestFirst cache (getCachedChannels cache order group model)
      (failingAttempts cache order group model 0 [] draws)) ↔
      OneFallback cache (getCachedChannels cache order group model) := by
  intro cache
  have hids : Consistent cache order group model :=
    (indexOf_cacheAfter channels abilities updates).consistent order group model
  exact ⟨fun h => oneFallback_of_highestFirst hids (h [0, 0]), fun h draws => h.highestFirst hids⟩

def channelsWith (priorities : List Int) : Table Int ChannelRow :=
  priorities.zipIdx.foldl (fun table p => table.insert (p.2 + 1) { models := "m", priority := some p.1 }) Table.empty

/-- With two levels the fallback goes from the higher one to the lower. -/
theorem fallback_highestFirst_two :
    let cache := cacheAfter (channelsWith [2, 1]) [] []
    ∀ draws, HighestFirst cache (getCachedChannels cache {} "default" "m")
      (failingAttempts cache {} "default" "m" 0 [] draws) := by
  refine fallback_highestFirst_iff.mpr (.inr ?_)
  have hlist : getCachedChannels (cacheAfter (channelsWith [2, 1]) [] []) {} "default" "m" = [1, 2] := by
    decide +kernel
  rw [hlist]
  refine ⟨1, mem_cons_self, ?_, ?_⟩
  · decide +kernel
  · decide +kernel

/-- The failed channel is left out of the levels while the retry counts on, so the middle one is skipped. -/
theorem fallback_skips_priority :
    let cache := cacheAfter (channelsWith [3, 2, 1]) [] []
    failingAttempts cache {} "default" "m" 0 [] [0, 0] = [1, 3] ∧ 2 ∈ getCachedChannels cache {} "default" "m" ∧
      cache.priority 3 < cache.priority 2 := by
  decide +kernel

end

/-! ### Channels that are not enabled -/

section

variable {id : Int}
variable {models : List (String × List Int)}

lemma mem_getCachedChannels_of_lookup (hgroup : trimSpace group = group) (hmodel : trimSpace model = model)
    (hlookup : cache.group2model2channels.lookup group = some models) (hmem : (model, ids) ∈ models)
    (hunique : ∀ entry ∈ models, trimSpace entry.1 = model → entry = (model, ids)) (hids : ids ≠ []) :
    id ∈ getCachedChannels cache order group model ↔ id ∈ ids := by
  have hmodels : cachedModels cache order group = models := by
    unfold cachedModels
    simp [hlookup, ne_nil_of_mem hmem]
  have hkey : ∀ i, i ∈ channelsOfKey order models model ↔ i ∈ ids := by
    intro i
    unfold channelsOfKey
    rw [mem_eraseDups, mem_flatMap]
    constructor
    · rintro ⟨entry, hentry, hi⟩
      obtain ⟨hin, hname⟩ := mem_filter.mp hentry
      rw [hunique entry ((order.perm _).mem_iff.mp hin) (of_decide_eq_true hname)] at hi
      exact hi
    · intro hi
      exact ⟨(model, ids), mem_filter.mpr ⟨(order.perm _).mem_iff.mpr hmem, by simp [hmodel]⟩, hi⟩
  have hne : channelsOfKey order models model ≠ [] := by
    obtain ⟨i, hi⟩ := exists_mem_of_ne_nil ids hids
    exact ne_nil_of_mem ((hkey i).mpr hi)
  obtain ⟨rest, hrest⟩ : ∃ rest, modelKeys model = model :: rest := by
    unfold modelKeys
    simp only
    split
    · exact ⟨_, rfl⟩
    · exact ⟨_, rfl⟩
  unfold getCachedChannels
  rw [hgroup, hmodel, hmodels, hrest]
  dsimp only
  rw [map_cons, find?_cons_of_pos (by simpa using hne), getD_some]
  exact hkey id

variable (h : (group, model, id) ∈ cacheEntries channels)

include h

lemma mem_cacheGroups : group ∈ cacheGroups channels abilities := by
  obtain ⟨channel, hrow, hstatus, hgroup, -⟩ := mem_cacheEntries.mp h
  refine mem_dedup.mpr (mem_append_right _ ?_)
  exact mem_flatMap.mpr ⟨(id, channel), mem_enabledChannels.mpr ⟨hrow, hstatus⟩, hgroup⟩

lemma lookup_init :
    (initChannelCache channels abilities).group2model2channels.lookup group = some (cacheModels channels group) :=
  lookup_graph _ (mem_cacheGroups h)

omit h in
lemma cacheModels_unique {entry' : String × List Int} (h : entry ∈ cacheModels channels group)
    (h' : entry' ∈ cacheModels channels group) (hname : trimSpace entry'.1 = entry.1) : entry' = entry := by
  have htrim : ∀ m ∈ ((((cacheEntries channels).filter fun e => e.1 = group).map Prod.snd).map Prod.fst).dedup,
      trimSpace m = m := by
    intro m hm
    simp only [List.mem_dedup, List.mem_map, List.mem_filter, Prod.exists] at hm
    obtain ⟨_, id, ⟨g, m', id', ⟨hmem, -⟩, hsame⟩, rfl⟩ := hm
    cases hsame
    obtain ⟨channel, -, -, -, hmodel⟩ := mem_cacheEntries.mp hmem
    exact trimSpace_of_mem_names hmodel
  obtain ⟨m, -, rfl⟩ := List.mem_map.mp h
  obtain ⟨m', hm', rfl⟩ := mem_map.mp h'
  obtain rfl : m' = m := (htrim m' hm').symm.trans hname
  rfl

lemma mem_getCachedChannels_init {other : Int} :
    other ∈ getCachedChannels (initChannelCache channels abilities) order group model ↔
      (group, model, other) ∈ cacheEntries channels := by
  obtain ⟨channel, -, -, hgroup, hmodel⟩ := mem_cacheEntries.mp h
  obtain ⟨ids, hids⟩ := exists_cacheModels h
  rw [mem_getCachedChannels_of_lookup (trimSpace_of_mem_names hgroup) (trimSpace_of_mem_names hmodel)
    (lookup_init h) hids (fun entry hentry hname => cacheModels_unique hids hentry hname)
    (ne_nil_of_mem ((mem_of_cacheModels hids).mpr h)), mem_of_cacheModels hids]

omit h

/-- No enabled channel makes the same ability twice. -/
def NoRepeatedNames (channels : Table Int ChannelRow) : Prop :=
  ∀ id channel, channels.row id = some channel → channel.status = channelStatusEnabled →
    names channel.group = [] ∨ names channel.models = [] ∨
      (names channel.group).Nodup ∧ (names channel.models).Nodup

lemma nodup_entries_iff {groups models : List String} {id : Int} :
    (groups.flatMap fun group => models.map fun model => (group, model, id)).Nodup ↔
      groups = [] ∨ models = [] ∨ groups.Nodup ∧ models.Nodup := by
  have hinj : ∀ group : String, Function.Injective fun model : String => (group, model, id) := fun group m m' h =>
    (Prod.mk.inj (Prod.mk.inj h).2).1
  rw [nodup_flatMap]
  constructor
  · rintro ⟨hmodels, hgroups⟩
    rcases groups with _ | ⟨group, rest⟩
    · exact .inl rfl
    rcases models with _ | ⟨model, models⟩
    · exact .inr (.inl rfl)
    refine .inr (.inr ⟨hgroups.imp fun hdisjoint hsame => ?_, ?_⟩)
    · subst hsame
      exact hdisjoint (mem_map_of_mem mem_cons_self) (mem_map_of_mem mem_cons_self)
    · exact (nodup_map_iff (hinj group)).mp (hmodels group mem_cons_self)
  · rintro (rfl | rfl | ⟨hgroups, hmodels⟩)
    · simp
    · refine ⟨by simp, pairwise_of_forall fun _ _ => ?_⟩
      intro entry hentry
      cases hentry
    · refine ⟨fun group _ => (nodup_map_iff (hinj group)).mpr hmodels, hgroups.imp fun hne => ?_⟩
      intro entry hentry hentry'
      obtain ⟨_, -, rfl⟩ := mem_map.mp hentry
      obtain ⟨_, -, hsame⟩ := mem_map.mp hentry'
      exact hne (Prod.mk.inj hsame).1.symm

lemma nodup_cacheEntries_iff : (cacheEntries channels).Nodup ↔ NoRepeatedNames channels := by
  have hdistinct : (enabledChannels channels).Pairwise fun a b => a.1 ≠ b.1 :=
    (pairwise_map.mp channels.nodup_rows).sublist filter_sublist
  unfold cacheEntries
  rw [List.nodup_flatMap]
  constructor
  · rintro ⟨hrows, -⟩ id channel hrow hstatus
    exact (nodup_entries_iff).mp (hrows (id, channel) (mem_enabledChannels.mpr ⟨hrow, hstatus⟩))
  · intro h
    refine ⟨fun row hrow => ?_, hdistinct.imp fun hne => ?_⟩
    · obtain ⟨hsome, hstatus⟩ := mem_enabledChannels.mp hrow
      exact (nodup_entries_iff).mpr (h row.1 row.2 hsome hstatus)
    · intro entry hentry hentry'
      simp only [List.mem_flatMap, List.mem_map] at hentry hentry'
      obtain ⟨_, -, _, -, rfl⟩ := hentry
      obtain ⟨_, -, _, -, hsame⟩ := hentry'
      exact hne (Prod.mk.inj (Prod.mk.inj hsame).2).2.symm

/-- The lists of the index have enabled channels only, each of them once. -/
structure OnlyEnabled (cache : ChannelCache) : Prop where
  nodup : ∀ {group model ids}, Lists cache group model ids → ids.Nodup
  enabled : ∀ {group model ids}, Lists cache group model ids → ∀ id ∈ ids, ∀ channel,
    cache.channelsIDM.row id = some channel → channel.status = channelStatusEnabled

lemma onlyEnabled_init (h : NoRepeatedNames channels) : OnlyEnabled (initChannelCache channels abilities) where
  nodup := by
    intro group model ids hlists
    refine (mem_cacheModels hlists.of_init).nodup_iff.mpr
      (List.Nodup.map_on ?_ ((nodup_cacheEntries_iff.mpr h).filter _))
    intro e he e' he' hsame
    obtain ⟨hg, hm⟩ : e.1 = group ∧ e.2.1 = model := by simpa using (mem_filter.mp he).2
    obtain ⟨hg', hm'⟩ : e'.1 = group ∧ e'.2.1 = model := by simpa using (mem_filter.mp he').2
    exact Prod.ext (hg.trans hg'.symm) (Prod.ext (hm.trans hm'.symm) hsame)
  enabled := by
    intro group model ids hlists id hid channel hrow
    obtain ⟨channel', hrow', hstatus, -⟩ := mem_cacheEntries.mp ((indexOf_init channels abilities).listed hlists id hid)
    obtain rfl := some.inj (hrow.symm.trans hrow')
    exact hstatus

lemma OnlyEnabled.update (h : OnlyEnabled cache) (id status : Int) :
    OnlyEnabled (cacheUpdateChannelStatus cache id status) where
  nodup hlists := by
    obtain ⟨ids, hold, rfl⟩ := hlists.of_update
    split
    · exact (h.nodup hold).erase id
    · exact h.nodup hold
  enabled hlists i hi channel hrow := by
    obtain ⟨ids, hold, rfl⟩ := hlists.of_update
    change (cache.channelsIDM.update id _).row i = _ at hrow
    by_cases hsame : i = id
    · -- the channel of the update is still in a list only if it is enabled by it
      subst hsame
      rw [row_update_self] at hrow
      obtain ⟨old, -, rfl⟩ := map_eq_some_iff.mp hrow
      by_contra hstatus
      rw [if_pos hstatus] at hi
      exact (h.nodup hold).not_mem_erase hi
    · rw [row_update_of_ne _ hsame] at hrow
      refine h.enabled hold i ?_ channel hrow
      split at hi
      · exact mem_of_mem_erase hi
      · exact hi

lemma onlyEnabled_cacheAfter (h : NoRepeatedNames channels) {updates : List (Int × Int)} :
    OnlyEnabled (cacheAfter channels abilities updates) :=
  foldlRecOn updates _ (onlyEnabled_init h) fun _ h update _ => h.update update.1 update.2

lemma lookup_map_snd {κ α β : Type} [BEq κ] {l : List (κ × α)} {f : α → β} {k : κ} :
    (l.map fun e => (e.1, f e.2)).lookup k = (l.lookup k).map f := by
  induction l with
  | nil => rfl
  | cons e l ih =>
    rw [map_cons, lookup_cons, lookup_cons, ih]
    cases k == e.1 <;> rfl

lemma lookup_cacheAfter (h : (group, model, id) ∈ cacheEntries channels) (updates : List (Int × Int)) :
    ∃ models, models ≠ [] ∧
      (cacheAfter channels abilities updates).group2model2channels.lookup group = some models := by
  unfold cacheAfter
  induction updates using reverseRecOn with
  | nil =>
    obtain ⟨ids, hids⟩ := exists_cacheModels h
    exact ⟨cacheModels channels group, ne_nil_of_mem hids, lookup_init h⟩
  | append_singleton updates update ih =>
    obtain ⟨models, hne, hlookup⟩ := ih
    rw [foldl_concat, cacheUpdateChannelStatus]
    dsimp only
    split
    · rw [lookup_map_snd, hlookup]
      exact ⟨_, by simpa using hne, rfl⟩
    · exact ⟨models, hne, hlookup⟩

lemma mem_erase_of_duplicate (hids : (model, ids) ∈ cacheModels channels group)
    (h : List.Duplicate (group, model, id) (cacheEntries channels)) : id ∈ ids.erase id := by
  have htwo : [id, id].Sublist (((cacheEntries channels).filter fun e => e.1 = group ∧ e.2.1 = model).map
      fun e => e.2.2) := by
    have hsub := ((duplicate_iff_sublist.mp h).filter fun e => e.1 = group ∧ e.2.1 = model).map fun e => e.2.2
    simpa using hsub
  have hcount := htwo.count_le id
  rw [← (mem_cacheModels hids).count_eq] at hcount
  refine count_pos_iff.mp ?_
  rw [count_erase_self]
  simp at hcount
  omega

lemma mem_getCachedChannels_of_duplicate (hstatus : status ≠ channelStatusEnabled)
    (h : List.Duplicate (group, model, id) (cacheEntries channels)) :
    id ∈ getCachedChannels (cacheUpdateChannelStatus (initChannelCache channels abilities) id status) order group
      model := by
  have hmem := h.mem
  obtain ⟨channel, -, -, hgroup, hmodel⟩ := mem_cacheEntries.mp hmem
  obtain ⟨ids, hids⟩ := exists_cacheModels hmem
  have hin := mem_erase_of_duplicate hids h
  have hlookup : (cacheUpdateChannelStatus (initChannelCache channels abilities) id status).group2model2channels.lookup
      group = some ((cacheModels channels group).map fun entry => (entry.1, entry.2.erase id)) := by
    unfold cacheUpdateChannelStatus
    rw [if_pos hstatus, lookup_map_snd, lookup_init hmem]
    rfl
  refine (mem_getCachedChannels_of_lookup (trimSpace_of_mem_names hgroup) (trimSpace_of_mem_names hmodel) hlookup
    (mem_map_of_mem hids) (fun entry hentry hname => ?_) (ne_nil_of_mem hin)).mpr hin
  obtain ⟨entry', hentry', rfl⟩ := mem_map.mp hentry
  rw [cacheModels_unique hids hentry' hname]

attribute [local irreducible] selectCached getCachedChannels in
/-- A channel whose recorded status is not enabled is never selected, whatever updates of the status came before,
exactly if no enabled channel of the table has a group or a model twice. -/
theorem disabled_never_selected_iff :
    (∀ (updates : List (Int × Int)) (order : MapOrder) (group model : String) (retry draw : Nat)
        (excluded : List Int) (id : Int) (channel : ChannelRow),
      (cacheAfter channels abilities updates).channelsIDM.row id = some channel →
      channel.status ≠ channelStatusEnabled →
      (selectCached (cacheAfter channels abilities updates) order draw group model retry excluded).channel ≠
        some id) ↔ NoRepeatedNames channels := by
  constructor
  · intro h
    rw [← nodup_cacheEntries_iff]
    by_contra hdup
    obtain ⟨⟨group, model, id⟩, hdup⟩ := exists_duplicate_iff_not_nodup.mpr hdup
    obtain ⟨channel, hrow, -⟩ := mem_cacheEntries.mp hdup.mem
    have hin : id ∈ getCachedChannels (cacheAfter channels abilities [(id, 2)]) {} group model :=
      mem_getCachedChannels_of_duplicate (show (2 : Int) ≠ 1 by decide) hdup
    have hids := (indexOf_cacheAfter channels abilities [(id, 2)]).consistent {} group model
    -- The other channels are excluded, so this one is selected.
    let excluded := (getCachedChannels (cacheAfter channels abilities [(id, 2)]) {} group model).filter (· ≠ id)
    have hleft : id ∈ leftChannels (cacheAfter channels abilities [(id, 2)]) {} group model excluded :=
      mem_leftChannels.mpr ⟨hin, by simp [excluded]⟩
    obtain ⟨sel, hsel⟩ := selectCached_isSome hids (ne_nil_of_mem hleft) 0 0
    obtain ⟨hmem, hnot⟩ := mem_leftChannels.mp (level_of_selectCached hids hsel).1
    obtain rfl : sel = id := by
      by_contra hne
      exact hnot (mem_filter.mpr ⟨hmem, by simpa using hne⟩)
    refine h [(sel, 2)] {} group model 0 0 excluded sel { channel with status := 2 } ?_
      (show (2 : Int) ≠ 1 by decide) hsel
    show (channels.update sel _).row sel = _
    rw [row_update_self, hrow]
    rfl
  · intro h updates order group model retry draw excluded id channel hrow hstatus hsel
    have hids := (indexOf_cacheAfter channels abilities updates).consistent order group model
    have hmem := (mem_leftChannels.mp (level_of_selectCached hids hsel).1).1
    obtain ⟨_, _, ids, hlists, hid, -⟩ := mem_getCachedChannels hmem
    exact hstatus ((onlyEnabled_cacheAfter h).enabled hlists id hid channel hrow)

/-- A channel listed once is not selected after it is disabled. -/
theorem disabled_never_selected_once : ∀ (order : MapOrder) (draw : Nat),
    (selectCached (cacheAfter (channelsWith [2, 1]) [] [(1, 2)]) order draw "default" "m" 0 []).channel ≠ some 1 := by
  intro order draw
  have hrows : ∀ row ∈ (channelsWith [2, 1]).rows, row.2.group = "default" ∧ row.2.models = "m" := by
    decide +kernel
  refine disabled_never_selected_iff.mpr (fun id channel hrow _ => .inr (.inr ?_)) [(1, 2)] order "default" "m" 0
    draw [] 1 { models := "m", priority := some 2, status := 2 } (by decide +kernel) (by decide)
  obtain ⟨hgroup, hmodels⟩ := hrows (id, channel) (mem_rows.mpr hrow)
  rw [hgroup, hmodels]
  decide +kernel

/-- A channel that is listed twice under its group stays listed once after it is disabled. -/
theorem disabled_channel_selected :
    let channels : Table Int ChannelRow := Table.empty.insert 1 { group := "a,a", models := "m" }
    let cache := cacheAfter channels [] [(1, 2)]
    (cache.channelsIDM.row 1).map ChannelRow.status = some 2 ∧
      (selectCached cache {} 0 "a" "m" 0 []).channel = some 1 := by
  decide +kernel

end

end LoveApi.Proofs
