import LoveApi.Proofs.ChannelSelection

/-!
# The cache and the table select alike

Where the `abilities` table mirrors the enabled channels, a selection from it is compared with one from the cache.
-/

namespace LoveApi.Proofs

open Program Go List Option

variable {channels : Table Int ChannelRow} {draw : Nat}

variable {abilities : List Ability} {group model : String} {excluded : List Int}

/-! ### A selection from the table -/

section

variable {retry : Nat}

def abilityPriorities (abilities : List Ability) (group model : String) : List Int :=
  (enabledAbilities abilities group model).map Ability.priority

lemma max?_eq_level {l : List Int} : l.max? = level 0 l := by
  rcases hlevel : level 0 l with _ | p
  · rw [level_eq_none.mp hlevel]
    rfl
  · rw [max?_eq_some_iff]
    exact ⟨mem_of_level hlevel, fun q hq => le_of_level_zero hlevel hq⟩

lemma getPriority_eq (h : enabledAbilities abilities group model ≠ []) {retry : Nat} :
    ∃ p, getPriority abilities group model retry = .ok p ∧
      level retry (abilityPriorities abilities group model) = some p := by
  unfold getPriority level abilityPriorities
  have hne : levels ((enabledAbilities abilities group model).map Ability.priority) ≠ [] := fun hnil =>
    h (map_eq_nil_iff.mp (levels_eq_nil.mp hnil))
  simp only [dif_neg hne]
  by_cases hge : retry ≥ (levels ((enabledAbilities abilities group model).map Ability.priority)).length
  · refine ⟨_, if_pos hge, ?_⟩
    rw [Nat.min_eq_right (by omega), getLast_eq_getElem, getElem?_eq_getElem]
  · refine ⟨_, if_neg hge, ?_⟩
    rw [Nat.min_eq_left (by omega), getD_eq_getElem?_getD, getElem?_eq_getElem (by omega), getD_some]

lemma getChannelQuery_eq (h : enabledAbilities abilities group model ≠ []) :
    getChannelQuery abilities group model retry = .ok ((enabledAbilities abilities group model).filter fun ability =>
      level retry (abilityPriorities abilities group model) = some ability.priority) := by
  unfold getChannelQuery
  simp only
  by_cases hretry : retry = 0
  · rw [if_neg (not_not.mpr hretry), hretry, max?_eq_level]
    rfl
  · obtain ⟨p, hp, hlevel⟩ := getPriority_eq h
    rw [if_pos hretry, hp, hlevel]
    simp [eq_comm]

lemma getChannel_of_nil (h : enabledAbilities abilities group model = []) :
    (getChannelWithExclusions abilities channels draw group model retry excluded).channel = none := by
  unfold getChannelWithExclusions getChannelQuery getPriority
  by_cases hretry : retry = 0
  · simp [h, hretry]
  · simp [h, hretry]

def drawnRows (abilities : List Ability) (group model : String) (retry : Nat) (excluded : List Int) : List Ability :=
  (((enabledAbilities abilities group model).filter fun ability =>
    level retry (abilityPriorities abilities group model) = some ability.priority).insertionSort
      fun a b => a.weight ≥ b.weight).filter fun ability => ability.channelId ∉ excluded

/-- The rows of a draw, with their weights. -/
def drawnWeights (abilities : List Ability) (group model : String) (retry : Nat) (excluded : List Int) :
    List (Int × Nat) :=
  (drawnRows abilities group model retry excluded).map fun ability => (ability.channelId, ability.weight + 10)

lemma exists_mem_drawnWeights {id : Int} :
    (∃ weight, (id, weight) ∈ drawnWeights abilities group model retry excluded) ↔
      ∃ ability ∈ enabledAbilities abilities group model, ability.channelId = id ∧ id ∉ excluded ∧
        level retry (abilityPriorities abilities group model) = some ability.priority := by
  simp only [drawnWeights, drawnRows, List.mem_map, List.mem_filter, List.mem_insertionSort, Prod.mk.injEq,
    decide_eq_true_eq]
  constructor
  · rintro ⟨_, ability, ⟨⟨hin, hlevel⟩, hex⟩, rfl, -⟩
    exact ⟨ability, hin, rfl, hex, hlevel⟩
  · rintro ⟨ability, hin, rfl, hex, hlevel⟩
    exact ⟨_, ability, ⟨⟨hin, hlevel⟩, hex⟩, rfl, rfl⟩

lemma two_le_of_mem_drawnWeights : ∀ p ∈ drawnWeights abilities group model retry excluded, 2 ≤ p.2 := by
  intro p hp
  obtain ⟨ability, -, rfl⟩ := mem_map.mp hp
  omega

lemma totalWeight_drawnWeights_pos (h : drawnWeights abilities group model retry excluded ≠ []) :
    0 < totalWeight (drawnWeights abilities group model retry excluded) := by
  obtain ⟨p, rest, hp⟩ := exists_cons_of_ne_nil h
  have := two_le_of_mem_drawnWeights p (hp ▸ mem_cons_self)
  rw [hp, totalWeight_cons]
  omega

lemma getChannel_of_ne_nil (h : enabledAbilities abilities group model ≠ []) :
    (getChannelWithExclusions abilities channels draw group model retry excluded).channel =
      if drawnRows abilities group model retry excluded = [] then none
      else
        let weights := drawnWeights abilities group model retry excluded
        some ((pickUpTo weights (draw % totalWeight weights : Nat)).getD 0) := by
  unfold getChannelWithExclusions drawnWeights drawnRows
  rw [getChannelQuery_eq h]
  simp only
  split
  · rfl
  · split <;> rfl

lemma getChannel_eq : (getChannelWithExclusions abilities channels draw group model retry excluded).channel =
      let weights := drawnWeights abilities group model retry excluded
      pickUpTo weights (draw % totalWeight weights : Nat) := by
  by_cases hnil : enabledAbilities abilities group model = []
  · rw [getChannel_of_nil hnil]
    simp [drawnWeights, drawnRows, hnil, pickUpTo]
  rw [getChannel_of_ne_nil hnil]
  by_cases hrows : drawnRows abilities group model retry excluded = []
  · simp [drawnWeights, hrows, pickUpTo]
  · have hne : drawnWeights abilities group model retry excluded ≠ [] := fun h => hrows (map_eq_nil_iff.mp h)
    have hlt := Nat.mod_lt draw (totalWeight_drawnWeights_pos hne)
    simp only [hrows, if_false, pickUpTo_eq]
    generalize drawnWeights abilities group model retry excluded = weights at hne hlt
    obtain ⟨id, hid⟩ : ∃ id, pick weights ((draw % totalWeight weights : Nat) - 1) = some id :=
      exists_pick hne (by omega)
    rw [hid, getD_some]

/-- Exactly the enabled channels of the level that are not excluded are selected by some draw. -/
theorem exists_getChannel_iff {id : Int} :
    (∃ draw, (getChannelWithExclusions abilities channels draw group model retry excluded).channel = some id) ↔
      ∃ ability ∈ enabledAbilities abilities group model, ability.channelId = id ∧ id ∉ excluded ∧
        level retry (abilityPriorities abilities group model) = some ability.priority := by
  rw [← exists_mem_drawnWeights, ← exists_drawUpTo_iff two_le_of_mem_drawnWeights]
  simp only [getChannel_eq]
  by_cases hne : drawnWeights abilities group model retry excluded = []
  · simp [hne, pickUpTo]
  · rw [exists_mod_iff (totalWeight_drawnWeights_pos hne) (P := fun draw : Nat => pickUpTo _ draw = some id)]

/-- Every draw selects one of the rows, but their shares are their weights only if a single one is left. -/
theorem getChannel_draws_iff {abilities : List Ability} :
    let weights := drawnWeights abilities group model retry excluded
    let selected := fun draw => (getChannelWithExclusions abilities channels draw group model retry excluded).channel
    (∀ draw < totalWeight weights, ∃ p ∈ weights, selected draw = some p.1) ∧
      ((∀ p ∈ weights, (List.range (totalWeight weights)).countP (fun draw => selected draw = some p.1) = p.2) ↔
        weights.length ≤ 1) := by
  intro weights selected
  have hselected : ∀ draw < totalWeight weights, selected draw = pickUpTo weights draw := by
    intro draw hdraw
    simp only [selected, getChannel_eq]
    rw [Nat.mod_eq_of_lt hdraw]
  constructor
  · intro draw hdraw
    have hne : weights ≠ [] := by
      intro hnil
      rw [hnil, totalWeight_nil] at hdraw
      omega
    obtain ⟨id, hid⟩ := exists_pick hne (show (draw : Int) - 1 < _ by omega)
    obtain ⟨weight, hmem, -⟩ := mem_of_pick hid
    exact ⟨_, hmem, by rw [hselected draw hdraw, pickUpTo_eq, hid]⟩
  · have hpos : ∀ p ∈ weights, 0 < p.2 := fun p hp => Nat.zero_lt_of_lt (two_le_of_mem_drawnWeights p hp)
    rw [← countP_pickUpTo_iff hpos]
    refine forall₂_congr fun p _ => ?_
    rw [countP_congr fun draw hdraw => by rw [hselected draw (mem_range.mp hdraw)]]

/-- Of two channels of equal weight the first one is drawn more often. -/
theorem getChannel_shares :
    let abilities : List Ability := [⟨"g", "m", 1, true, 0, 0⟩, ⟨"g", "m", 2, true, 0, 0⟩]
    let selected := fun draw => (getChannelWithExclusions abilities Table.empty draw "g" "m" 0 []).channel
    (List.range 20).countP (fun draw => selected draw = some 1) = 11 ∧
      (List.range 20).countP (fun draw => selected draw = some 2) = 9 := by
  decide +kernel

end

/-! ### Agreement -/

section

attribute [local irreducible] selectCached getCachedChannels getChannelWithExclusions

variable {order : MapOrder} {retry : Nat}

/-- The enabled rows of the `abilities` table are the groups and models of the enabled channels, with their
priorities and weights. -/
structure Mirrors (channels : Table Int ChannelRow) (abilities : List Ability) : Prop where
  sound : ∀ ability ∈ abilities, ability.enabled → ∃ channel, channels.row ability.channelId = some channel ∧
    channel.status = channelStatusEnabled ∧ ability.group ∈ names channel.group ∧
    ability.model ∈ names channel.models ∧ ability.priority = channel.getPriority ∧
    ability.weight = channel.getWeight
  complete : ∀ id channel, channels.row id = some channel → channel.status = channelStatusEnabled →
    ∀ group ∈ names channel.group, ∀ model ∈ names channel.models, ∃ ability ∈ abilities, ability.enabled ∧
      ability.group = group ∧ ability.model = model ∧ ability.channelId = id

variable (h : Mirrors channels abilities)

include h

lemma Mirrors.ability {ability : Ability} (hin : ability ∈ enabledAbilities abilities group model) :
    (group, model, ability.channelId) ∈ cacheEntries channels ∧
      ability.priority = (initChannelCache channels abilities).priority ability.channelId := by
  obtain ⟨hmem, hnames⟩ := mem_filter.mp hin
  obtain ⟨⟨rfl, rfl⟩, henabled⟩ : (ability.group = group ∧ ability.model = model) ∧ ability.enabled := by
    simpa using hnames
  obtain ⟨channel, hrow, hstatus, hgroup, hmodel, hpriority, -⟩ := h.sound ability hmem henabled
  refine ⟨mem_cacheEntries.mpr ⟨channel, hrow, hstatus, hgroup, hmodel⟩, ?_⟩
  show _ = ((channels.row ability.channelId).map ChannelRow.getPriority).getD 0
  rw [hpriority, hrow]
  rfl

lemma Mirrors.entry {id : Int} (hin : (group, model, id) ∈ cacheEntries channels) :
    ∃ ability ∈ enabledAbilities abilities group model, ability.channelId = id := by
  obtain ⟨channel, hrow, hstatus, hgroup, hmodel⟩ := mem_cacheEntries.mp hin
  obtain ⟨ability, hmem, henabled, rfl, rfl, hid⟩ := h.complete id channel hrow hstatus group hgroup model hmodel
  exact ⟨ability, mem_filter.mpr ⟨hmem, by simp [henabled]⟩, hid⟩

lemma Mirrors.exists_getChannel_iff {id : Int} :
    (∃ draw, (getChannelWithExclusions abilities channels draw group model retry excluded).channel = some id) ↔
      (group, model, id) ∈ cacheEntries channels ∧ id ∉ excluded ∧
        level retry (abilityPriorities abilities group model) =
          some ((initChannelCache channels abilities).priority id) := by
  rw [Proofs.exists_getChannel_iff]
  constructor
  · rintro ⟨ability, hin, rfl, hex, hlevel⟩
    obtain ⟨hentry, hpriority⟩ := h.ability hin
    exact ⟨hentry, hex, hpriority ▸ hlevel⟩
  · rintro ⟨hentry, hex, hlevel⟩
    obtain ⟨ability, hin, rfl⟩ := h.entry hentry
    exact ⟨ability, hin, rfl, hex, (h.ability hin).2 ▸ hlevel⟩

lemma Mirrors.level_eq {id : Int}
    (hin : (group, model, id) ∈ cacheEntries channels) (order : MapOrder) (retry : Nat) :
    level retry (abilityPriorities abilities group model) =
      level retry ((getCachedChannels (initChannelCache channels abilities) order group model).map
        (initChannelCache channels abilities).priority) := by
  refine level_congr (fun p => ?_) retry
  unfold abilityPriorities
  rw [List.mem_map, List.mem_map]
  constructor
  · rintro ⟨ability, hability, rfl⟩
    obtain ⟨hentry, hpriority⟩ := h.ability hability
    exact ⟨ability.channelId, (mem_getCachedChannels_init hin).mpr hentry, hpriority.symm⟩
  · rintro ⟨other, hother, rfl⟩
    obtain ⟨ability, hability, rfl⟩ := h.entry ((mem_getCachedChannels_init hin).mp hother)
    exact ⟨ability, hability, (h.ability hability).2⟩

omit h

/-- The names are names of an enabled channel, the exclusions leave the level of the retry index as it is, and
among the channels left at this level all have a weight or none has. -/
structure SameDraws (channels : Table Int ChannelRow) (cache : ChannelCache) (order : MapOrder)
    (group model : String) (retry : Nat) (excluded : List Int) : Prop where
  listed : ∃ id, (group, model, id) ∈ cacheEntries channels
  sameLevel : level retry ((leftChannels cache order group model excluded).map cache.priority) =
    level retry ((getCachedChannels cache order group model).map cache.priority)
  weights : let targets := targetChannels cache retry (leftChannels cache order group model excluded)
    (∀ id ∈ targets, 0 < cache.weight id) ∨ ∀ id ∈ targets, cache.weight id = 0

lemma SameDraws.drawable_iff (hmirror : Mirrors channels abilities)
    (h : SameDraws channels (initChannelCache channels abilities) order group model retry excluded) (id : Int) :
    Drawable (initChannelCache channels abilities) retry
        (leftChannels (initChannelCache channels abilities) order group model excluded) id ↔
      (group, model, id) ∈ cacheEntries channels ∧ id ∉ excluded ∧
        level retry (abilityPriorities abilities group model) =
          some ((initChannelCache channels abilities).priority id) := by
  obtain ⟨listed, hlisted⟩ := h.listed
  have hlevel := hmirror.level_eq hlisted order retry
  unfold Drawable
  rw [mem_targetChannels, mem_leftChannels, mem_getCachedChannels_init hlisted, h.sameLevel, ← hlevel]
  constructor
  · rintro ⟨⟨⟨hentry, hex⟩, hpriority⟩, -⟩
    exact ⟨hentry, hex, hpriority⟩
  · rintro ⟨hentry, hex, hpriority⟩
    refine ⟨⟨⟨hentry, hex⟩, hpriority⟩, ?_⟩
    have htarget : id ∈ targetChannels (initChannelCache channels abilities) retry
        (leftChannels (initChannelCache channels abilities) order group model excluded) :=
      mem_targetChannels.mpr ⟨mem_leftChannels.mpr ⟨(mem_getCachedChannels_init hlisted).mpr hentry, hex⟩,
        by rw [h.sameLevel, ← hlevel, hpriority]⟩
    exact h.weights.imp (fun hpos => hpos id htarget) (fun hzero => hzero)

/-- The cache and a table that mirrors it can return the same channels exactly if no channel is left, or the
exclusions and the weights make no difference. -/
theorem cache_table_agree_iff (h : Mirrors channels abilities) :
    let store : ChannelStore :=
      { channels := channels, abilities := abilities, cache := initChannelCache channels abilities }
    (∀ id, (∃ draw, (getRandomSatisfiedChannelWithExclusions store order draw group model retry excluded).channel =
        some id) ↔
      ∃ draw, (getChannelWithExclusions abilities channels draw group model retry excluded).channel = some id) ↔
      leftChannels store.cache order group model excluded = [] ∨
        SameDraws channels store.cache order group model retry excluded := by
  intro store
  have hids : Consistent store.cache order group model := (indexOf_init channels abilities).consistent order group model
  have hcached : ∀ id, (∃ draw, (getRandomSatisfiedChannelWithExclusions store order draw group model retry
      excluded).channel = some id) ↔
      Drawable store.cache retry (leftChannels store.cache order group model excluded) id :=
    fun id => exists_selectCached_iff hids
  simp only [hcached, h.exists_getChannel_iff]
  constructor
  · intro hsame
    by_cases hleft : leftChannels store.cache order group model excluded = []
    · exact .inl hleft
    obtain ⟨first, hfirst⟩ := selectCached_isSome hids hleft retry 0
    have hdraw := (exists_selectCached_iff hids).mp ⟨0, hfirst⟩
    obtain ⟨hentry, -, hlevel⟩ := (hsame first).mp hdraw
    have hall := h.level_eq hentry order retry
    have hlevels : level retry ((leftChannels store.cache order group model excluded).map store.cache.priority) =
        level retry (abilityPriorities abilities group model) := by
      rw [(mem_targetChannels.mp hdraw.1).2, hlevel]
    refine .inr ⟨⟨first, hentry⟩, hlevels.trans hall, ?_⟩
    by_cases hzero : ∀ id ∈ targetChannels store.cache retry (leftChannels store.cache order group model excluded),
        store.cache.weight id = 0
    · exact .inr hzero
    · refine .inl fun id hid => ?_
      -- The table can return every channel left at the level, so the cache can.
      obtain ⟨hmem, hpriority⟩ := mem_targetChannels.mp hid
      obtain ⟨hin, hex⟩ := mem_leftChannels.mp hmem
      have htable := (hsame id).mpr ⟨(mem_getCachedChannels_init hentry).mp hin, hex, hlevels ▸ hpriority⟩
      exact htable.2.resolve_right hzero
  · rintro (hleft | hdraws) id
    · constructor
      · rintro ⟨htarget, -⟩
        have hmem := (mem_targetChannels.mp htarget).1
        rw [hleft] at hmem
        cases hmem
      · rintro ⟨hentry, hex, -⟩
        have hmem : id ∈ leftChannels store.cache order group model excluded :=
          mem_leftChannels.mpr ⟨(mem_getCachedChannels_init hentry).mpr hentry, hex⟩
        rw [hleft] at hmem
        cases hmem
    · exact hdraws.drawable_iff h id

/-- The abilities of the enabled channels. -/
def mirrorRows (channels : Table Int ChannelRow) : List Ability :=
  (enabledChannels channels).flatMap fun row => (names row.2.group).flatMap fun group =>
    (names row.2.models).map fun model =>
      { group := group, model := model, channelId := row.1, priority := row.2.getPriority, weight := row.2.getWeight }

lemma mirrors_mirrorRows : Mirrors channels (mirrorRows channels) where
  sound := by
    intro ability hin _
    obtain ⟨row, hrow, hgroups⟩ := mem_flatMap.mp hin
    obtain ⟨group, hgroup, hmodels⟩ := mem_flatMap.mp hgroups
    obtain ⟨model, hmodel, rfl⟩ := mem_map.mp hmodels
    obtain ⟨hsome, hstatus⟩ := mem_enabledChannels.mp hrow
    exact ⟨row.2, hsome, hstatus, hgroup, hmodel, rfl, rfl⟩
  complete := by
    intro id channel hrow hstatus group hgroup model hmodel
    refine ⟨_, mem_flatMap.mpr ⟨(id, channel), mem_enabledChannels.mpr ⟨hrow, hstatus⟩,
      mem_flatMap.mpr ⟨group, hgroup, mem_map.mpr ⟨model, hmodel, rfl⟩⟩⟩, rfl, rfl, rfl, rfl⟩

/-- On a first attempt the cache and the table agree. -/
theorem cache_table_agree_two :
    let channels := channelsWith [2, 1]
    let store : ChannelStore :=
      { channels := channels, abilities := mirrorRows channels,
        cache := initChannelCache channels (mirrorRows channels) }
    ∀ id, (∃ draw, (getRandomSatisfiedChannelWithExclusions store {} draw "default" "m" 0 []).channel = some id) ↔
      ∃ draw, (getChannelWithExclusions store.abilities channels draw "default" "m" 0 []).channel = some id := by
  refine (cache_table_agree_iff (mirrors_mirrorRows)).mpr (.inr ⟨⟨1, ?_⟩, ?_, .inr ?_⟩)
  · decide +kernel
  · decide +kernel
  · decide +kernel

/-- With the first channel excluded, the cache goes on to the second one and the table finds none. -/
theorem cache_table_disagree :
    let channels := channelsWith [2, 1]
    let store : ChannelStore :=
      { channels := channels, abilities := mirrorRows channels,
        cache := initChannelCache channels (mirrorRows channels) }
    Mirrors channels store.abilities ∧
      (getRandomSatisfiedChannelWithExclusions store {} 0 "default" "m" 0 [1]).channel = some 2 ∧
      ∀ draw, (getChannelWithExclusions store.abilities channels draw "default" "m" 0 [1]).channel = none := by
  refine ⟨mirrors_mirrorRows, by decide +kernel, fun draw => ?_⟩
  rcases hsel : (getChannelWithExclusions (mirrorRows (channelsWith [2, 1])) (channelsWith [2, 1]) draw "default"
    "m" 0 [1]).channel with _ | id
  · rfl
  · obtain ⟨ability, hin, rfl, hex, hlevel⟩ := exists_getChannel_iff.mp ⟨draw, hsel⟩
    have hnone : ∀ ability ∈ enabledAbilities (mirrorRows (channelsWith [2, 1])) "default" "m",
        ability.channelId ∈ [1] ∨ ¬level 0 (abilityPriorities (mirrorRows (channelsWith [2, 1])) "default" "m") =
          some ability.priority := by
      decide +kernel
    exact absurd hlevel ((hnone ability hin).resolve_left hex)

end

end LoveApi.Proofs
