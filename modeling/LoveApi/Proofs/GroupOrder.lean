import LoveApi.Proofs.AutoGroup

/-!
# The groups of an `auto` token in order

The selections of one request go through the groups of its user from the first to the last.
-/

namespace LoveApi.Proofs

open Program Go List Option

attribute [local irreducible] getRandomSatisfiedChannelWithExclusions selectCached getCachedChannels

/-! ### One call -/

section

variable (settings : RelaySettings) (request : RelayRequest) (world : World)

/-- The memory cache is on, and its index lists channels that exist, at every lookup. -/
structure CacheMode : Prop where
  enabled : ∀ n, (world.stores n).memoryCacheEnabled = true
  consistent : ∀ n group, Consistent (world.stores n).cache (world.orders n) group request.modelName

def NoneLeft (n i : Nat) (tried : List Int) : Prop :=
  ∀ group ∈ (getUserAutoGroup settings request)[i]?,
    ∀ id ∈ getCachedChannels (world.stores n).cache (world.orders n) group request.modelName, id ∈ tried

variable {settings request world} {ctx ctx' : RetryContext} {id : Int} {group : String} {retry : Nat}

lemma CacheMode.selectChannel_eq (h : CacheMode request world) :
    (selectChannel request world ctx group retry).1 = selectCached (world.stores ctx.calls).cache
      (world.orders ctx.calls) (world.draws ctx.calls) group request.modelName retry ctx.attempted := by
  simp [selectChannel, getRandomSatisfiedChannelWithExclusions, h.enabled]

lemma CacheMode.all_attempted (h : CacheMode request world)
    (hnone : (selectChannel request world ctx group retry).1.channel = none) :
    ∀ id ∈ getCachedChannels (world.stores ctx.calls).cache (world.orders ctx.calls) group request.modelName,
      id ∈ ctx.attempted := by
  intro id hid
  by_contra hnot
  have hleft : id ∈ leftChannels (world.stores ctx.calls).cache (world.orders ctx.calls) group request.modelName
      ctx.attempted := mem_leftChannels.mpr ⟨hid, hnot⟩
  obtain ⟨found, hfound⟩ := selectCached_isSome (h.consistent ctx.calls group) (ne_nil_of_mem hleft) retry
    (world.draws ctx.calls)
  rw [h.selectChannel_eq, hfound] at hnone
  cases hnone

def retryIndexAt (start retry j : Nat) : Nat := if start < j then 0 else retry

structure SelectsIn (settings : RelaySettings) (request : RelayRequest) (world : World) (start i : Nat)
    (ctx : RetryContext) (id : Int) (ctx' : RetryContext) (j : Nat) : Prop where
  le : i ≤ j
  group : ∃ group, (getUserAutoGroup settings request)[j]? = some group ∧ ctx'.autoGroup = some group ∧
    id ∈ getCachedChannels (world.stores (ctx.calls + (j - i))).cache (world.orders (ctx.calls + (j - i))) group
      request.modelName
  skipped : ∀ k, i ≤ k → k < j → NoneLeft settings request world (ctx.calls + (k - i)) k ctx.attempted
  useChannel : ctx'.useChannel = ctx.useChannel
  attempted : ∀ other ∈ ctx'.attempted, other = id ∨ other ∈ ctx.attempted
  next : groupIndex ctx' = j ∧ ctx'.resetNextTry = ctx.resetNextTry ∨
    settings.retryTimes ≤ retryIndexAt start ctx.retry j ∧ groupIndex ctx' = j + 1 ∧ ctx'.resetNextTry = true

structure SelectsNone (settings : RelaySettings) (request : RelayRequest) (world : World) (i : Nat)
    (ctx ctx' : RetryContext) : Prop where
  skipped : ∀ k, i ≤ k → NoneLeft settings request world (ctx.calls + (k - i)) k ctx.attempted
  useChannel : ctx'.useChannel = ctx.useChannel
  attempted : ctx'.attempted = ctx.attempted
  index : groupIndex ctx ≤ groupIndex ctx'
  resetNextTry : ctx'.resetNextTry = ctx.resetNextTry

lemma takeFromGroup_next {settings : RelaySettings} {request : RelayRequest} {i priorityRetry : Nat} {group : String}
    {id : Int} {ctx : RetryContext} :
    let ctx' := takeFromGroup settings request i priorityRetry group id ctx
    ctx'.autoGroup = some group ∧ ctx'.useChannel = ctx.useChannel ∧
      (∀ other ∈ ctx'.attempted, other = id ∨ other ∈ ctx.attempted) ∧
      (groupIndex ctx' = i ∧ ctx'.resetNextTry = ctx.resetNextTry ∨
        settings.retryTimes ≤ priorityRetry ∧ groupIndex ctx' = i + 1 ∧ ctx'.resetNextTry = true) := by
  have hmark : ∃ attempted, markAttempted { ctx with autoGroup := some group } id =
      { ctx with autoGroup := some group, attempted := attempted } ∧
        ∀ other ∈ attempted, other = id ∨ other ∈ ctx.attempted := by
    unfold markAttempted
    split
    · exact ⟨ctx.attempted, rfl, fun _ => .inr⟩
    · exact ⟨id :: ctx.attempted, rfl, fun _ => mem_cons.mp⟩
  obtain ⟨attempted, hmark, hattempted⟩ := hmark
  unfold takeFromGroup
  simp only [hmark]
  split
  · next hlimit =>
    obtain ⟨-, hlimit⟩ := (Bool.and_eq_true _ _).mp hlimit
    exact ⟨rfl, rfl, hattempted, .inr ⟨of_decide_eq_true hlimit, rfl, rfl⟩⟩
  · exact ⟨rfl, rfl, hattempted, .inl ⟨rfl, rfl⟩⟩

lemma noneLeft_from {i : Nat} {tried : List Int} (h : NoneLeft settings request world ctx.calls i tried)
    {P : Nat → Prop}
    (hrest : ∀ k, i + 1 ≤ k → P k → NoneLeft settings request world (ctx.calls + 1 + (k - (i + 1))) k tried) :
    ∀ k, i ≤ k → P k → NoneLeft settings request world (ctx.calls + (k - i)) k tried := by
  intro k hk hP
  rcases hk.eq_or_lt with rfl | hlt
  · simpa using h
  · have hn : ctx.calls + (k - i) = ctx.calls + 1 + (k - (i + 1)) := by omega
    rw [hn]
    exact hrest k hlt hP

variable (settings ctx) in

lemma CacheMode.search (h : CacheMode request world) {start i : Nat} {groups : List String}
    (hstart : start ≤ i) (hindex : groupIndex ctx ≤ i)
    (hgroups : (getUserAutoGroup settings request).drop i = groups) :
    match selectAutoGroup settings request world start i groups ctx with
    | (some id, ctx') => ∃ j, SelectsIn settings request world start i ctx id ctx' j
    | (none, ctx') => SelectsNone settings request world i ctx ctx' := by
  induction groups generalizing i ctx with
  | nil =>
    refine ⟨fun k hk group hgroup => ?_, rfl, rfl, le_rfl, rfl⟩
    rw [getElem?_eq_none (le_trans (drop_eq_nil_iff.mp hgroups) hk)] at hgroup
    cases hgroup
  | cons group rest ih =>
    have hgroup : (getUserAutoGroup settings request)[i]? = some group := by
      rw [← Nat.add_zero i, ← getElem?_drop, hgroups]
      rfl
    have hrest : (getUserAutoGroup settings request).drop (i + 1) = rest := by
      rw [← drop_drop, hgroups]
      rfl
    rw [selectAutoGroup]
    dsimp only
    cases hselect : (selectChannel request world ctx group (if i > start then 0 else ctx.retry)).1.channel with
    | some id =>
      obtain ⟨hauto, huse, hattempted, hnext⟩ := takeFromGroup_next
      rw [h.selectChannel_eq] at hselect
      have hleft := ((exists_selectCached_iff (h.consistent ctx.calls group)).mp ⟨_, hselect⟩).1
      have hcached := (mem_leftChannels.mp (mem_targetChannels.mp hleft).1).1
      exact ⟨i, le_rfl, ⟨group, hgroup, hauto, by simpa using hcached⟩, fun k hk hlt => by omega, huse,
        hattempted, hnext⟩
    | none =>
      have hnone : NoneLeft settings request world ctx.calls i ctx.attempted := by
        intro other hother
        rw [hgroup] at hother
        cases hother
        exact h.all_attempted hselect
      have hnext := @ih { ctx with calls := ctx.calls + 1, autoGroupIndex := some (i + 1), retry := 0 } _
        (Nat.le_succ_of_le hstart) le_rfl hrest
      revert hnext
      simp only [selectChannel]
      rcases selectAutoGroup settings request world start (i + 1) rest
        { ctx with calls := ctx.calls + 1, autoGroupIndex := some (i + 1), retry := 0 } with ⟨_ | id, ctx'⟩
      · intro hnext
        refine ⟨fun k hk => noneLeft_from hnone (P := fun _ => True) (fun k hk _ => hnext.skipped k hk) k hk trivial,
          hnext.useChannel, hnext.attempted, ?_, hnext.resetNextTry⟩
        exact le_trans (Nat.le_succ_of_le hindex) hnext.index
      · rintro ⟨j, hnext⟩
        obtain ⟨other, hother, hauto, hmem⟩ := hnext.group
        have hle := hnext.le
        have hn : ctx.calls + (j - i) = ctx.calls + 1 + (j - (i + 1)) := by omega
        refine ⟨j, by omega, ⟨other, hother, hauto, ?_⟩,
          noneLeft_from hnone (P := fun k => k < j) hnext.skipped, hnext.useChannel, hnext.attempted, ?_⟩
        · rw [hn]
          exact hmem
        · have hlater : ∀ retry, retryIndexAt start retry j = 0 := fun retry => if_pos (by omega)
          have := hnext.next
          rwa [hlater] at this ⊢

def selectedChannel : Except String (Option Int) → Option Int
  | .ok channel => channel
  | .error _ => none

lemma cacheGet_eq_search (settings : RelaySettings) (request : RelayRequest) (world : World) (ctx : RetryContext) :
    (cacheGetRandomSatisfiedChannel settings request world "auto" ctx).map selectedChannel (fun ctx => ctx) =
      selectAutoGroup settings request world (groupIndex ctx) (groupIndex ctx)
        ((getUserAutoGroup settings request).drop (groupIndex ctx)) (seedAttemptedFromContext ctx) := by
  unfold cacheGetRandomSatisfiedChannel
  simp only [if_true]
  split
  · next hnil => simp [getUserAutoGroup, hnil, selectAutoGroup, selectedChannel]
  · rfl

end

/-! ### Successive calls -/

section

/-- A call: the context before it and after it, the channels tried before it, and the channel that it selected. -/
structure SelectionCall where
  before : RetryContext
  tried : List Int
  channel : Option Int
  after : RetryContext

namespace SelectionCall

variable (call : SelectionCall)

def currentIndex : Nat := groupIndex call.before

/-- The group in which the call selected a channel; after a selection at the limit of the retries the context has the
next one. -/
def selectedIndex : Option Nat :=
  call.channel.map fun _ => groupIndex call.after - call.after.resetNextTry.toNat

def retryIndex (j : Nat) : Nat := retryIndexAt call.currentIndex call.before.retry j

def Exhausted (settings : RelaySettings) (request : RelayRequest) (world : World) (i : Nat) : Prop :=
  NoneLeft settings request world (call.before.calls + (i - call.currentIndex)) i call.tried

end SelectionCall

variable (settings : RelaySettings) (request : RelayRequest) (world : World)

def selectionCall (tried used : List Int) (ctx : RetryContext) : SelectionCall :=
  let before := { ctx with useChannel := ctx.useChannel ++ used }
  let (result, after) := cacheGetRandomSatisfiedChannel settings request world "auto" before
  { before := before, tried := tried ++ before.useChannel, channel := selectedChannel result, after := after }

/-- The selections of the rounds of a request. -/
def selectionCalls (tried : List Int) (ctx : RetryContext) : List (List Int) → List SelectionCall
  | [] => []
  | used :: rest =>
    let call := selectionCall settings request world tried used ctx
    call :: selectionCalls (tried ++ call.channel.toList) (increaseRetry call.after) rest

/-- The groups are tried in order, and left only when used up. -/
structure InGroupOrder (calls : List SelectionCall) : Prop where
  sorted : (calls.filterMap SelectionCall.selectedIndex).Pairwise (· ≤ ·)
  selected : ∀ call ∈ calls, ∀ id ∈ call.channel, ∃ j ∈ call.selectedIndex,
    call.currentIndex ≤ j ∧ (∀ i, call.currentIndex ≤ i → i < j → call.Exhausted settings request world i) ∧
      ∃ group ∈ (getUserAutoGroup settings request)[j]?, call.after.autoGroup = some group ∧
        ∃ n, id ∈ getCachedChannels (world.stores n).cache (world.orders n) group request.modelName
  leaves : ∀ k call next j j', calls[k]? = some call → calls[k + 1]? = some next → call.selectedIndex = some j →
    next.selectedIndex = some j' → ∀ i, j ≤ i → i < j' →
      next.Exhausted settings request world i ∨ i = j ∧ settings.retryTimes ≤ call.retryIndex j
  nothing : ∀ call ∈ calls, call.channel = none → ∀ i, call.currentIndex ≤ i → call.Exhausted settings request world i

variable {settings request world} {tried used : List Int} {ctx : RetryContext}

lemma NoneLeft.mono {n i : Nat} {tried tried' : List Int} (h : NoneLeft settings request world n i tried)
    (hsub : ∀ id ∈ tried, id ∈ tried') : NoneLeft settings request world n i tried' :=
  fun group hgroup id hid => hsub id (h group hgroup id hid)

def RecordsTried (tried : List Int) (ctx : RetryContext) : Prop := ∀ id ∈ ctx.attempted, id ∈ tried ++ ctx.useChannel

structure CallSpec (settings : RelaySettings) (request : RelayRequest) (world : World) (call : SelectionCall) :
    Prop where
  selected : ∀ id ∈ call.channel, ∃ j, call.selectedIndex = some j ∧
    (∃ group ∈ (getUserAutoGroup settings request)[j]?, call.after.autoGroup = some group ∧
      ∃ n, id ∈ getCachedChannels (world.stores n).cache (world.orders n) group request.modelName) ∧
    call.currentIndex ≤ j ∧ (∀ i, call.currentIndex ≤ i → i < j → call.Exhausted settings request world i) ∧
    (groupIndex call.after = j ∨ settings.retryTimes ≤ call.retryIndex j ∧ groupIndex call.after = j + 1)
  nothing : call.channel = none → ∀ i, call.currentIndex ≤ i → call.Exhausted settings request world i
  index : call.currentIndex ≤ groupIndex call.after
  records : ∀ id ∈ call.after.attempted, id ∈ call.tried ++ call.channel.toList
  useChannel : call.after.useChannel = call.before.useChannel

variable (settings used) in

lemma CacheMode.call (h : CacheMode request world) (hreset : ctx.resetNextTry = false)
    (htried : RecordsTried tried ctx) :
    CallSpec settings request world (selectionCall settings request world tried used ctx) := by
  set before : RetryContext := { ctx with useChannel := ctx.useChannel ++ used } with hbefore
  have hsub : ∀ id ∈ (seedAttemptedFromContext before).attempted, id ∈ tried ++ before.useChannel := by
    intro id hid
    rcases mem_append.mp hid with hid | hid
    · have := htried id hid
      simp only [hbefore, mem_append] at this ⊢
      tauto
    · exact mem_append_right _ (mem_filter.mp hid).1
  have hsearch := h.search settings (seedAttemptedFromContext before) (le_refl (groupIndex before)) le_rfl rfl
  have heq := cacheGet_eq_search settings request world before
  have hcall : selectionCall settings request world tried used ctx =
      { before := before, tried := tried ++ before.useChannel,
        channel := ((cacheGetRandomSatisfiedChannel settings request world "auto" before).map selectedChannel
          fun ctx => ctx).1,
        after := ((cacheGetRandomSatisfiedChannel settings request world "auto" before).map selectedChannel
          fun ctx => ctx).2 } := rfl
  rw [hcall, heq]
  revert hsearch
  rcases selectAutoGroup settings request world (groupIndex before) (groupIndex before)
    ((getUserAutoGroup settings request).drop (groupIndex before)) (seedAttemptedFromContext before) with
    ⟨_ | found, after⟩
  · intro hsearch
    refine ⟨fun id hid => (not_mem_none id hid).elim, fun _ i hi => (hsearch.skipped i hi).mono hsub,
      hsearch.index, fun id hid => ?_, hsearch.useChannel⟩
    rw [hsearch.attempted] at hid
    exact mem_append_left _ (hsub id hid)
  · rintro ⟨j, hsearch⟩
    have hindex : groupIndex after - after.resetNextTry.toNat = j := by
      rcases hsearch.next with ⟨hj, hflag⟩ | ⟨-, hj, hflag⟩
      · have : after.resetNextTry = false := hflag.trans hreset
        simp [hj, this]
      · simp [hj, hflag]
    refine ⟨fun id hid => ?_, fun hnone => (some_ne_none _ hnone).elim, ?_, fun id hid => ?_, hsearch.useChannel⟩
    · cases hid
      obtain ⟨group, hgroup, hauto, hmem⟩ := hsearch.group
      refine ⟨j, congrArg some hindex, ⟨group, hgroup, hauto, _, hmem⟩, hsearch.le,
        fun i hi hlt => (hsearch.skipped i hi hlt).mono hsub, ?_⟩
      rcases hsearch.next with ⟨hj, -⟩ | ⟨hlimit, hj, -⟩
      · exact .inl hj
      · exact .inr ⟨hlimit, hj⟩
    · have hle := hsearch.le
      show groupIndex before ≤ groupIndex after
      rcases hsearch.next with ⟨hj, -⟩ | ⟨-, hj, -⟩ <;> omega
    · rcases hsearch.attempted id hid with rfl | hid
      · exact mem_append_right _ mem_cons_self
      · exact mem_append_left _ (hsub id hid)

lemma CallSpec.recordsTried
    (h : CallSpec settings request world (selectionCall settings request world tried used ctx)) :
    let call := selectionCall settings request world tried used ctx
    RecordsTried (tried ++ call.channel.toList) (increaseRetry call.after) := by
  intro call id hid
  have hkeeps : (increaseRetry call.after).attempted = call.after.attempted ∧
      (increaseRetry call.after).useChannel = call.after.useChannel := by
    unfold increaseRetry
    split <;> exact ⟨rfl, rfl⟩
  rw [hkeeps.1] at hid
  rw [hkeeps.2, h.useChannel]
  have hmem : id ∈ (tried ++ call.before.useChannel) ++ call.channel.toList := h.records id hid
  simp only [mem_append] at hmem ⊢
  tauto

lemma groupIndex_increaseRetry {ctx : RetryContext} : groupIndex (increaseRetry ctx) = groupIndex ctx := by
  unfold increaseRetry
  split <;> rfl

lemma resetNextTry_increaseRetry (ctx : RetryContext) : (increaseRetry ctx).resetNextTry = false := by
  unfold increaseRetry
  split
  · rfl
  · next hreset => simpa using hreset

variable (settings) in

lemma CacheMode.le_selectedIndex (h : CacheMode request world) (hreset : ctx.resetNextTry = false)
    (htried : RecordsTried tried ctx) (useds : List (List Int)) :
    ∀ j ∈ (selectionCalls settings request world tried ctx useds).filterMap SelectionCall.selectedIndex,
      groupIndex ctx ≤ j := by
  induction useds generalizing tried ctx with
  | nil => simp [selectionCalls]
  | cons used rest ih =>
    intro j hj
    have hspec := h.call settings used hreset htried
    obtain ⟨call, hcall, hindex⟩ := mem_filterMap.mp hj
    rcases mem_cons.mp hcall with rfl | hcall
    · obtain ⟨id, hid, -⟩ := map_eq_some_iff.mp hindex
      obtain ⟨j', hj', -, hle, -⟩ := hspec.selected id hid
      obtain rfl := some.inj (hindex.symm.trans hj')
      exact hle
    · have hlater := ih (resetNextTry_increaseRetry _) hspec.recordsTried j (mem_filterMap.mpr ⟨call, hcall, hindex⟩)
      rw [groupIndex_increaseRetry] at hlater
      exact le_trans hspec.index hlater

lemma CacheMode.leaves (h : CacheMode request world) (hreset : ctx.resetNextTry = false)
    (htried : RecordsTried tried ctx)
    {used' : List Int} :
    let call := selectionCall settings request world tried used ctx
    let next := selectionCall settings request world (tried ++ call.channel.toList) used' (increaseRetry call.after)
    ∀ j ∈ call.selectedIndex, ∀ j' ∈ next.selectedIndex, ∀ i, j ≤ i → i < j' →
      next.Exhausted settings request world i ∨ i = j ∧ settings.retryTimes ≤ call.retryIndex j := by
  intro call next j hj j' hj' i hi hlt
  have hcall : CallSpec settings request world call := h.call settings _ hreset htried
  have hnext : CallSpec settings request world next :=
    h.call settings _ (resetNextTry_increaseRetry _) hcall.recordsTried
  have hcurrent : next.currentIndex = groupIndex call.after := groupIndex_increaseRetry
  obtain ⟨id, hid, -⟩ := map_eq_some_iff.mp hj
  obtain ⟨_, hsame, -, -, -, hafter⟩ := hcall.selected id hid
  obtain rfl := some.inj (hsame.symm.trans hj)
  obtain ⟨id', hid', -⟩ := map_eq_some_iff.mp hj'
  obtain ⟨_, hsame', -, -, hskipped, -⟩ := hnext.selected id' hid'
  obtain rfl := some.inj (hsame'.symm.trans hj')
  rcases hafter with hafter | ⟨hlimit, hafter⟩
  · exact .inl (hskipped i (by omega) hlt)
  · rcases hi.eq_or_lt with heq | hgt
    · exact .inr ⟨heq.symm, heq ▸ hlimit⟩
    · exact .inl (hskipped i (by omega) hlt)

/-- The successive calls of a request for an `auto` token, with `IncreaseRetry` between them, go through the groups in
order. -/
theorem selectionCalls_inGroupOrder (settings : RelaySettings) (request : RelayRequest) (world : World)
    (h : CacheMode request world) (ctx : RetryContext) (hreset : ctx.resetNextTry = false) (useds : List (List Int)) :
    InGroupOrder settings request world (selectionCalls settings request world ctx.attempted ctx useds) := by
  have htried : RecordsTried ctx.attempted ctx := fun id hid => mem_append_left _ hid
  generalize ctx.attempted = tried at htried ⊢
  induction useds generalizing tried ctx with
  | nil => exact ⟨.nil, by simp [selectionCalls], by simp [selectionCalls], by simp [selectionCalls]⟩
  | cons used rest ih =>
    have hspec := h.call settings used hreset htried
    have hrest := ih _ (resetNextTry_increaseRetry _) _ hspec.recordsTried
    have hlater := h.le_selectedIndex settings (resetNextTry_increaseRetry _) hspec.recordsTried rest
    set call := selectionCall settings request world tried used ctx
    refine ⟨?_, ?_, ?_, ?_⟩
    · show ((call :: _).filterMap SelectionCall.selectedIndex).Pairwise (· ≤ ·)
      cases hindex : call.selectedIndex with
      | none => exact (filterMap_cons_none hindex).symm ▸ hrest.sorted
      | some j =>
        rw [filterMap_cons_some hindex]
        refine pairwise_cons.mpr ⟨fun j' hj' => ?_, hrest.sorted⟩
        obtain ⟨id, hid, -⟩ := map_eq_some_iff.mp hindex
        obtain ⟨_, hsame, -, -, -, hafter⟩ := hspec.selected id hid
        obtain rfl := some.inj (hsame.symm.trans hindex)
        have hle := hlater j' hj'
        rw [groupIndex_increaseRetry] at hle
        omega
    · intro other hother id hid
      rcases mem_cons.mp hother with rfl | hother
      · obtain ⟨j, hj, hgroup, hle, hskipped, -⟩ := hspec.selected id hid
        exact ⟨j, hj, hle, hskipped, hgroup⟩
      · exact hrest.selected other hother id hid
    · rintro (_ | k) other next j j' hother hnext hj hj'
      · cases rest with
        | nil => cases hnext
        | cons used' rest =>
          cases hother
          cases hnext
          exact h.leaves hreset htried j hj j' hj'
      · exact hrest.leaves k other next j j' hother hnext hj hj'
    · intro other hother hnone
      rcases mem_cons.mp hother with rfl | hother
      · exact hspec.nothing hnone
      · exact hrest.nothing other hother hnone

lemma Cached.cacheMode {tables : Nat → Table Int ChannelRow} (h : Cached world tables) : CacheMode request world where
  enabled := h.enabled
  consistent n group := by
    obtain ⟨abilities, updates, hcache⟩ := h.cache n
    rw [hcache]
    exact (indexOf_cacheAfter (tables n) abilities updates).consistent _ group _

def crossGroupRequest : RelayRequest := { autoRequest with crossGroupRetry := true }

/-- The group `a` has two channels, the group `b` three, of which two are tried before the limit, and the group `c`
one. -/
theorem selectionCalls_six :
    let groups := ["a", "a", "b", "b", "b", "c"]
    let calls := selectionCalls threeGroups crossGroupRequest (failingGroups groups) [] {} [[], [1], [2], [3], [4], [5]]
    calls.map SelectionCall.selectedIndex = [some 0, some 0, some 1, some 1, some 2, none] ∧
      InGroupOrder threeGroups crossGroupRequest (failingGroups groups) calls :=
  ⟨by decide +kernel, selectionCalls_inGroupOrder threeGroups crossGroupRequest _
    (Cached.mk (fun _ => rfl) fun _ => ⟨[], [], rfl⟩).cacheMode {} rfl _⟩

end

end LoveApi.Proofs
