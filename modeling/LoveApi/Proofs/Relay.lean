import Mathlib.Data.Finset.Card
import LoveApi.Relay
import LoveApi.Proofs.ChannelSelection

/-!
# The retries end

A selection that finds a channel stays in its group or moves on to a later one. So the groups left and then the retries
left decrease from round to round.
-/

namespace LoveApi.Proofs

open Program Go List Option

variable {settings : RelaySettings} {request : RelayRequest} {world : World} {ctx ctx' : RetryContext}
  {tokenGroup : String} {s s' : RelayState} {result : RelayResult}

attribute [local irreducible] getRandomSatisfiedChannelWithExclusions selectCached getCachedChannels

/-! ### What a selection does -/

section

variable {id : Int}
variable {i : Nat}

def groupIndex (ctx : RetryContext) : Nat := ctx.autoGroupIndex.getD 0

def Selectable (request : RelayRequest) (world : World) (excluded : List Int) (group : String) (id : Int) : Prop :=
  ∃ n retry, (getRandomSatisfiedChannelWithExclusions (world.stores n) (world.orders n) (world.draws n) group
    request.modelName retry excluded).channel = some id

/-- What a selection that finds the channel `id` in one of the groups does to the context: it stays in its group, or
it goes on to a later one and sets the retries back. -/
structure Found (settings : RelaySettings) (request : RelayRequest) (world : World) (groups : List String)
    (ctx : RetryContext) (id : Int) (ctx' : RetryContext) : Prop where
  useChannel : ctx'.useChannel = ctx.useChannel
  selected : ∃ group ∈ groups, Selectable request world ctx.attempted group id
  progress : groupIndex ctx' = groupIndex ctx ∧ ctx'.retry = ctx.retry ∧ ctx'.resetNextTry = ctx.resetNextTry ∨
    groupIndex ctx < groupIndex ctx' ∧ groupIndex ctx' ≤ (getUserAutoGroup settings request).length ∧ ctx'.retry = 0

lemma markAttempted_eq (ctx : RetryContext) (id : Int) :
    ∃ attempted, markAttempted ctx id = { ctx with attempted := attempted } := by
  unfold markAttempted
  split
  · exact ⟨ctx.attempted, rfl⟩
  · exact ⟨id :: ctx.attempted, rfl⟩

lemma takeFromGroup_cases (hctx : groupIndex ctx = i)
    (hlen : i < (getUserAutoGroup settings request).length) (priorityRetry : Nat) (group : String) (id : Int) :
    let ctx' := takeFromGroup settings request i priorityRetry group id ctx
    ctx'.useChannel = ctx.useChannel ∧
      (groupIndex ctx' = groupIndex ctx ∧ ctx'.retry = ctx.retry ∧ ctx'.resetNextTry = ctx.resetNextTry ∨
        groupIndex ctx < groupIndex ctx' ∧ groupIndex ctx' ≤ (getUserAutoGroup settings request).length ∧
          ctx'.retry = 0) := by
  obtain ⟨attempted, hmark⟩ := markAttempted_eq { ctx with autoGroup := some group } id
  unfold takeFromGroup
  simp only [hmark]
  split
  · exact ⟨rfl, .inr ⟨hctx ▸ Nat.lt_succ_self i, hlen, rfl⟩⟩
  · exact ⟨rfl, .inl ⟨hctx.symm, rfl, rfl⟩⟩

lemma found_selectAutoGroup {start : Nat} {groups : List String} (hctx : groupIndex ctx = i)
    (hlen : i + groups.length ≤ (getUserAutoGroup settings request).length)
    (h : selectAutoGroup settings request world start i groups ctx = (some id, ctx')) :
    Found settings request world groups ctx id ctx' := by
  induction groups generalizing i ctx with
  | nil => cases h
  | cons group rest ih =>
    rw [length_cons] at hlen
    rw [selectAutoGroup] at h
    simp only [selectChannel] at h
    split at h
    · -- Nothing is left in this group, and the next one is tried without a retry.
      have hrest := ih (i := i + 1) rfl (by omega) h
      obtain ⟨other, hother, hsel⟩ := hrest.selected
      refine ⟨hrest.useChannel, ⟨other, mem_cons_of_mem _ hother, hsel⟩, .inr ?_⟩
      have hprogress := hrest.progress
      simp only [groupIndex, getD_some] at hprogress hctx ⊢
      omega
    · next found hfound =>
      obtain ⟨hid, rfl⟩ := Prod.mk.inj h
      obtain rfl := some.inj hid
      have hi : i < (getUserAutoGroup settings request).length := by omega
      obtain ⟨huse, hprogress⟩ := takeFromGroup_cases
        (show groupIndex { ctx with calls := ctx.calls + 1 } = i from hctx) hi (if i > start then 0 else ctx.retry)
        group found
      exact ⟨huse, ⟨group, mem_cons_self, _, _, hfound⟩, hprogress⟩

lemma found_of_cacheGet
    (h : cacheGetRandomSatisfiedChannel settings request world tokenGroup ctx = (.ok (some id), ctx')) :
    Found settings request world (groupsOf settings request tokenGroup) (seedAttemptedFromContext ctx) id ctx' := by
  unfold cacheGetRandomSatisfiedChannel at h
  split at h
  · next hauto =>
    rw [groupsOf, if_pos hauto]
    split at h
    · cases (Prod.mk.inj h).1
    obtain ⟨hid, rfl⟩ := Prod.mk.inj h
    set groups := (getUserAutoGroup settings request).drop (groupIndex ctx) with hgroups
    have hrun : selectAutoGroup settings request world (groupIndex ctx) (groupIndex ctx) groups
        (seedAttemptedFromContext ctx) = (some id, _) := Prod.ext (Except.ok.inj hid) rfl
    have hne : groups ≠ [] := by
      intro hnil
      rw [hnil] at hrun
      cases hrun
    have hlen : groupIndex ctx + groups.length ≤ (getUserAutoGroup settings request).length := by
      have hpos := length_pos_of_ne_nil hne
      rw [hgroups, length_drop] at hpos ⊢
      omega
    have hfound := found_selectAutoGroup (show groupIndex (seedAttemptedFromContext ctx) = _ from rfl) hlen hrun
    obtain ⟨group, hgroup, hsel⟩ := hfound.selected
    exact ⟨hfound.useChannel, ⟨group, mem_of_mem_drop hgroup, hsel⟩, hfound.progress⟩
  · next hauto =>
    rw [groupsOf, if_neg hauto]
    simp only [selectChannel] at h
    split at h
    · cases (Prod.mk.inj h).1
    obtain ⟨hid, rfl⟩ := Prod.mk.inj h
    have hid := Except.ok.inj hid
    rw [hid]
    obtain ⟨attempted, hmark⟩ := markAttempted_eq
      { seedAttemptedFromContext ctx with calls := (seedAttemptedFromContext ctx).calls + 1 } id
    simp only [hmark]
    exact ⟨rfl, ⟨tokenGroup, mem_singleton_self _, _, _, hid⟩, .inl ⟨rfl, rfl, rfl⟩⟩

end

/-! ### What a round does -/

section

variable {groups : GroupRatios} {id : Int}

lemma getChannel_ok (h : getChannel settings request world groups s = (.ok id, s')) :
    s.channelMeta = false ∧ id = s.channelId ∧ s' = s ∨
    s.channelMeta = true ∧ ∃ ctx,
      cacheGetRandomSatisfiedChannel settings request world request.tokenGroup s.toRetryContext = (.ok (some id), ctx) ∧
      s' = { s with toRetryContext := { ctx with channelId := id }, info := reprice groups ctx.autoGroup s.info } := by
  unfold getChannel at h
  rcases hmeta : s.channelMeta with _ | _
  · left
    rw [hmeta] at h
    obtain ⟨hid, rfl⟩ := Prod.mk.inj h
    exact ⟨rfl, (Except.ok.inj hid).symm, rfl⟩
  · right
    rcases hget : cacheGetRandomSatisfiedChannel settings request world request.tokenGroup s.toRetryContext with
      ⟨_ | _ | found, ctx⟩
    · simp [hmeta, hget] at h
    · simp [hmeta, hget] at h
    · rcases hsetup : world.setupError ctx.calls with _ | e
      · simp only [hmeta, hget, hsetup, Bool.not_true, Bool.false_eq_true, if_false, Prod.mk.injEq,
          Except.ok.injEq] at h
        obtain ⟨rfl, rfl⟩ := h
        exact ⟨rfl, ctx, rfl, rfl⟩
      · simp [hmeta, hget, hsetup] at h

lemma getChannel_log {channel : Except RelayError Int}
    (h : getChannel settings request world groups s = (channel, s')) : s'.log = s.log := by
  obtain rfl := (congrArg Prod.snd h).symm
  unfold getChannel
  split
  · rfl
  dsimp only
  split
  · rfl
  · rfl
  · split
    · rfl
    · rfl

/-- The state after an attempt at the channel that `getChannel` returned with the state `s`. -/
def attempt (world : World) (s : RelayState) (id : Int) : RelayState :=
  callUpstream world { s with useChannel := s.useChannel ++ [id] } id

lemma relayBody_again (h : relayBody settings request world groups s = .again s') :
    (s.retry : Int) ≤ settings.retryTimes ∧ ∃ id t e, getChannel settings request world groups s = (.ok id, t) ∧
      (world.outcomes t.log.length = .failed e ∧
        shouldRetry settings request e (settings.retryTimes - t.retry) = true) ∧
      s' = { attempt world t id with lastError := some e,
                                     toRetryContext := increaseRetry (attempt world t id).toRetryContext } := by
  unfold relayBody at h
  split at h
  · cases h
  next hretry =>
  refine ⟨not_lt.mp hretry, ?_⟩
  split at h
  · cases h
  next id t hget =>
  dsimp only at h
  split at h
  · cases h
  · cases h
  · next e hfailed =>
    split at h
    · next hshould => exact ⟨id, t, e, hget, ⟨hfailed, hshould⟩, (Next.again.inj h).symm⟩
    · cases h

lemma relayBody_done (h : relayBody settings request world groups s = .done result) :
    result.answered = false ∧ result.state.log = s.log ∨
    (s.retry : Int) ≤ settings.retryTimes ∧ ∃ id t err, getChannel settings request world groups s = (.ok id, t) ∧
      (∀ e, world.outcomes t.log.length ≠ .bodyError e) ∧
      result.state = { attempt world t id with lastError := err } := by
  unfold relayBody at h
  split at h
  · obtain rfl := Next.done.inj h
    exact .inl ⟨rfl, rfl⟩
  · next hretry =>
    split at h
    · next e t hget =>
      obtain rfl := Next.done.inj h
      exact .inl ⟨rfl, getChannel_log hget⟩
    · next id t hget =>
      dsimp only at h
      split at h
      · obtain rfl := Next.done.inj h
        exact .inl ⟨rfl, (getChannel_log hget : t.log = s.log)⟩
      · next hanswered =>
        obtain rfl := Next.done.inj h
        exact .inr ⟨not_lt.mp hretry, id, t, (attempt world t id).lastError, hget, by simp [hanswered], rfl⟩
      · next e hfailed =>
        split at h
        · cases h
        · obtain rfl := Next.done.inj h
          exact .inr ⟨not_lt.mp hretry, id, t, some e, hget, by simp [hfailed], rfl⟩

end

/-! ### The loop ends -/

section

variable {groups : GroupRatios}

/-- A bound on the rounds that are left. -/
def roundsLeft (settings : RelaySettings) (request : RelayRequest) (ctx : RetryContext) : Nat :=
  ((getUserAutoGroup settings request).length - groupIndex ctx) * (settings.retryTimes.toNat + 3) +
    (settings.retryTimes.toNat + 1 - ctx.retry) + ctx.resetNextTry.toNat

lemma roundsLeft_increaseRetry (h : (ctx.retry : Int) ≤ settings.retryTimes) :
    roundsLeft settings request (increaseRetry ctx) < roundsLeft settings request ctx := by
  unfold increaseRetry
  rcases hreset : ctx.resetNextTry with _ | _
  · simp only [roundsLeft, groupIndex, hreset, Bool.false_eq_true, if_false, Bool.toNat_false]
    omega
  · simp only [roundsLeft, groupIndex, hreset, if_true, Bool.toNat_true, Bool.toNat_false]
    omega

lemma roundsLeft_channel {ctx : RetryContext} {useChannel : List Int} {id : Int} :
    roundsLeft settings request (increaseRetry { ctx with useChannel := useChannel, channelId := id }) =
      roundsLeft settings request (increaseRetry ctx) := by
  unfold increaseRetry
  split
  · rfl
  · rfl

lemma Found.roundsLeft_lt {names : List String} {id : Int} (h : Found settings request world names ctx id ctx')
    (hretry : (ctx.retry : Int) ≤ settings.retryTimes) :
    roundsLeft settings request (increaseRetry ctx') < roundsLeft settings request ctx := by
  rcases h.progress with ⟨hindex, hsame, hreset⟩ | ⟨hindex, hlen, hzero⟩
  · have heq : roundsLeft settings request ctx' = roundsLeft settings request ctx := by
      simp only [roundsLeft, hindex, hsame, hreset]
    exact heq ▸ roundsLeft_increaseRetry (hsame ▸ hretry)
  · -- A later group outweighs the retries that it starts again with.
    have hlast : roundsLeft settings request (increaseRetry ctx') < roundsLeft settings request ctx' := by
      refine roundsLeft_increaseRetry ?_
      omega
    have hgroups := Nat.mul_le_mul_right (settings.retryTimes.toNat + 3)
      (show (getUserAutoGroup settings request).length - groupIndex ctx' + 1 ≤
        (getUserAutoGroup settings request).length - groupIndex ctx by omega)
    have hreset := Bool.toNat_le ctx'.resetNextTry
    rw [Nat.add_mul, one_mul] at hgroups
    simp only [roundsLeft, hzero] at hlast ⊢
    omega

lemma roundsLeft_again (h : relayBody settings request world groups s = .again s') :
    roundsLeft settings request s'.toRetryContext < roundsLeft settings request s.toRetryContext := by
  obtain ⟨hretry, id, t, e, hget, -, rfl⟩ := relayBody_again h
  rcases getChannel_ok hget with ⟨-, -, rfl⟩ | ⟨-, ctx, hctx, rfl⟩
  · calc _ = roundsLeft settings request (increaseRetry t.toRetryContext) := roundsLeft_channel
      _ < roundsLeft settings request t.toRetryContext := roundsLeft_increaseRetry hretry
  · calc _ = roundsLeft settings request (increaseRetry ctx) := roundsLeft_channel
      _ < roundsLeft settings request (seedAttemptedFromContext s.toRetryContext) :=
        (found_of_cacheGet hctx).roundsLeft_lt hretry

lemma exists_relay (ctx : RetryContext) (info : PricingInfo) : ∃ result, ∀ fuel,
    roundsLeft settings request ctx < fuel → relay settings request world groups fuel ctx info = some result := by
  have hless : ∀ s s', relayBody settings request world groups s = .again s' →
      roundsLeft settings request s'.toRetryContext < roundsLeft settings request s.toRetryContext :=
    fun _ _ => roundsLeft_again
  exact exists_loop _ hless { toRetryContext := ctx, info := info }

end

/-! ### The attempts -/

section

variable {groups : GroupRatios}
variable {group : String}

/-- The group of an index entry belongs to a request's group: it has its name, or, if no enabled channel is listed
under that name, a name that differs in case. -/
def belongsTo (channels : Table Int ChannelRow) (group name : String) : Bool :=
  name = trimSpace group ||
    equalFold name (trimSpace group) && (cacheEntries channels).all fun entry => entry.1 ≠ trimSpace group

def usableGroups (settings : RelaySettings) (request : RelayRequest) : List String :=
  groupsOf settings request request.usingGroup ++ groupsOf settings request request.tokenGroup

/-- The enabled channels of the groups that a request may be served in. -/
def usableChannels (settings : RelaySettings) (request : RelayRequest) (channels : Table Int ChannelRow) : Finset Int :=
  (((cacheEntries channels).filter fun entry =>
    (usableGroups settings request).any fun group => belongsTo channels group entry.1).map fun entry =>
      entry.2.2).toFinset

/-- The memory cache is in use. At each lookup it was built from a table of the channels, and statuses were updated
in it since. -/
structure Cached (world : World) (tables : Nat → Table Int ChannelRow) : Prop where
  enabled : ∀ n, (world.stores n).memoryCacheEnabled = true
  cache : ∀ n, ∃ abilities updates, (world.stores n).cache = cacheAfter (tables n) abilities updates

lemma mem_usableChannels {channels : Table Int ChannelRow} {abilities : List Ability} {updates : List (Int × Int)}
    {order : MapOrder} {model : String} {id : Int} (hgroup : group ∈ usableGroups settings request)
    (h : id ∈ getCachedChannels (cacheAfter channels abilities updates) order group model) :
    id ∈ usableChannels settings request channels := by
  obtain ⟨name, key, ids, hlists, hid, hname⟩ := mem_getCachedChannels h
  have hlisted := (indexOf_cacheAfter channels abilities updates).listed hlists id hid
  have htrim : trimSpace name = name := by
    obtain ⟨channel, -, -, hgroup, -⟩ := mem_cacheEntries.mp hlisted
    exact trimSpace_of_mem_names hgroup
  have hbelongs : belongsTo channels group name = true := by
    unfold belongsTo
    rcases hname with hname | ⟨hnil, hfold⟩
    · simp [hname]
    have hnone : (cacheEntries channels).all (fun entry => entry.1 ≠ trimSpace group) = true := by
      rw [List.all_eq_true]
      intro entry hentry
      refine decide_eq_true fun hsame => ?_
      have hmem : (trimSpace group, entry.2.1, entry.2.2) ∈ cacheEntries channels := hsame ▸ hentry
      obtain ⟨found, hne, hlookup⟩ := lookup_cacheAfter hmem updates
      rw [hlookup] at hnil
      exact hne hnil
    rw [htrim] at hfold
    rw [hfold, hnone, Bool.true_and, Bool.or_true]
  simp only [usableChannels, List.mem_toFinset, List.mem_map, List.mem_filter, List.any_eq_true]
  exact ⟨(name, key, id), ⟨hlisted, group, hgroup, hbelongs⟩, rfl⟩

variable {tables : Nat → Table Int ChannelRow} {channels : Finset Int} {id : Int}

variable (hcached : Cached world tables)

include hcached

lemma Cached.mem_of_selectable {excluded : List Int}
    (hgroup : group ∈ usableGroups settings request) (h : Selectable request world excluded group id) :
    id ∉ excluded ∧ ∃ n, id ∈ usableChannels settings request (tables n) := by
  obtain ⟨n, retry, hsel⟩ := h
  obtain ⟨abilities, updates, hcache⟩ := hcached.cache n
  unfold getRandomSatisfiedChannelWithExclusions at hsel
  rw [hcached.enabled n, hcache] at hsel
  have hids := (indexOf_cacheAfter (tables n) abilities updates).consistent (world.orders n) group request.modelName
  obtain ⟨hmem, hnot⟩ := mem_leftChannels.mp (level_of_selectCached hids hsel).1
  exact ⟨hnot, n, mem_usableChannels hgroup hmem⟩

lemma Cached.not_mem_useChannel
    (hgroups : ∀ group ∈ groupsOf settings request tokenGroup, group ∈ usableGroups settings request)
    (h : cacheGetRandomSatisfiedChannel settings request world tokenGroup ctx = (.ok (some id), ctx')) :
    (0 < id → id ∉ ctx.useChannel) ∧ ∃ n, id ∈ usableChannels settings request (tables n) := by
  obtain ⟨group, hgroup, hsel⟩ := (found_of_cacheGet h).selected
  obtain ⟨hnot, hmem⟩ := hcached.mem_of_selectable (hgroups group hgroup) hsel
  exact ⟨fun hpos hused => hnot (mem_append_right _ (mem_filter.mpr ⟨hused, decide_eq_true hpos⟩)), hmem⟩

/-- The attempts so far: they are in `use_channel`, at usable channels, and at different ones if their ids are
positive. Before the first attempt the channel of the context is a usable one. -/
structure Distinct (channels : Finset Int) (s : RelayState) : Prop where
  used : ∀ a ∈ s.log, a.channelId ∈ s.useChannel
  usable : ∀ a ∈ s.log, a.channelId ∈ channels
  nodup : ((s.log.map Attempt.channelId).filter (0 < ·)).Nodup
  first : s.channelMeta = false → s.log = [] ∧ s.channelId ∈ channels

omit hcached in
lemma Distinct.concat (h : Distinct channels s) (hmem : id ∈ channels)
    (hnew : 0 < id → ∀ a ∈ s.log, a.channelId ≠ id) : Distinct channels (attempt world s id) where
  used := by
    intro a ha
    rcases mem_append.mp ha with ha | ha
    · exact mem_append_left _ (h.used a ha)
    · obtain rfl := mem_singleton.mp ha
      exact mem_append_right _ (mem_singleton_self _)
  usable := by
    intro a ha
    rcases mem_append.mp ha with ha | ha
    · exact h.usable a ha
    · obtain rfl := mem_singleton.mp ha
      exact hmem
  nodup := by
    show (((s.log ++ [_]).map Attempt.channelId).filter (0 < ·)).Nodup
    rw [map_append, filter_append]
    refine nodup_append.mpr ⟨h.nodup, (nodup_singleton id).filter _, ?_⟩
    intro i hi j hj hsame
    obtain ⟨hj, hpos⟩ := mem_filter.mp hj
    obtain rfl : j = id := mem_singleton.mp hj
    obtain ⟨a, ha, rfl⟩ := mem_map.mp (mem_filter.mp hi).1
    exact hnew (of_decide_eq_true hpos) a ha hsame
  first := by
    intro hmeta
    cases hmeta

variable (husable : ∀ n, usableChannels settings request (tables n) ⊆ channels)

include husable

lemma Distinct.step {t : RelayState} (h : Distinct channels s)
    (hget : getChannel settings request world groups s = (.ok id, t)) : Distinct channels (attempt world t id) := by
  rcases getChannel_ok hget with ⟨hmeta, rfl, rfl⟩ | ⟨hmeta, ctx, hctx, rfl⟩
  · obtain ⟨hnil, hmem⟩ := h.first hmeta
    exact h.concat hmem fun _ a ha => by simp [hnil] at ha
  · obtain ⟨hnot, n, hmem⟩ := hcached.not_mem_useChannel (fun group hgroup => mem_append_right _ hgroup) hctx
    have huse : ctx.useChannel = s.useChannel := (found_of_cacheGet hctx).useChannel
    refine Distinct.concat ⟨?_, h.usable, h.nodup, fun hnone => by simp [hmeta] at hnone⟩ (husable n hmem) ?_
    · exact huse ▸ h.used
    · exact fun hpos a ha hsame => hnot hpos (hsame ▸ h.used a ha)

lemma Distinct.round (h : Distinct channels s) (hbody : relayBody settings request world groups s = .again s') :
    Distinct channels s' := by
  obtain ⟨-, id, t, e, hget, -, rfl⟩ := relayBody_again hbody
  have hattempt := h.step hcached husable hget
  refine ⟨fun a ha => ?_, hattempt.usable, hattempt.nodup, fun hmeta => by cases hmeta⟩
  have hused := hattempt.used a ha
  unfold increaseRetry
  split
  · exact hused
  · exact hused

lemma distinct_relay {fuel : Nat} {info : PricingInfo}
    (hfirst : ctx.channelId ∈ channels) (h : relay settings request world groups fuel ctx info = some result) :
    (∀ a ∈ result.state.log, a.channelId ∈ channels) ∧
      ((result.state.log.map Attempt.channelId).filter (0 < ·)).Nodup := by
  have hagain : ∀ s s', Distinct channels s → relayBody settings request world groups s = .again s' →
      Distinct channels s' := fun _ _ hs hbody => hs.round hcached husable hbody
  have hdone : ∀ s (r : RelayResult), Distinct channels s → relayBody settings request world groups s = .done r →
      (∀ a ∈ r.state.log, a.channelId ∈ channels) ∧ ((r.state.log.map Attempt.channelId).filter (0 < ·)).Nodup := by
    intro s r hs hbody
    rcases relayBody_done hbody with ⟨-, hlog⟩ | ⟨-, id, t, err, hget, -, hstate⟩
    · rw [hlog]
      exact ⟨hs.usable, hs.nodup⟩
    · have hattempt := hs.step hcached husable hget
      rw [hstate]
      exact ⟨hattempt.usable, hattempt.nodup⟩
  exact loop_induction hagain hdone ⟨by simp, by simp, by simp, fun _ => ⟨rfl, hfirst⟩⟩ h

omit husable

lemma Cached.preferred_mem (h : preferredContext settings request world id = .ok (some ctx)) :
    ctx.channelId ∈ usableChannels settings request (tables 0) := by
  unfold preferredContext at h
  dsimp only at h
  split at h
  · cases h
  split at h
  · split at h
    · cases h
    · cases h
  · split at h
    · cases h
    next group hfind =>
    cases h
    have hgroup := mem_of_find?_eq_some hfind
    have hserves := find?_some hfind
    obtain ⟨abilities, updates, hcache⟩ := hcached.cache 0
    unfold isChannelEnabledForGroupModel at hserves
    rw [hcached.enabled 0, hcache] at hserves
    split at hserves
    · cases hserves
    · exact mem_usableChannels (mem_append_left _ hgroup) (of_decide_eq_true hserves)

lemma Cached.selectFirst_mem (h : selectFirst settings request world = .ok ctx) :
    ∃ n, ctx.channelId ∈ usableChannels settings request (tables n) := by
  unfold selectFirst at h
  split at h
  · cases h
  · cases h
  · next hget =>
    cases h
    exact (hcached.not_mem_useChannel (fun group hgroup => mem_append_left _ hgroup) hget).2

omit hcached in
lemma distribute_cases (h : distribute settings request world = .ok ctx) :
    (∃ id, request.specificChannelId = some id ∧ ctx = { channelId := id }) ∨
    (∃ id, request.preferredChannel = some id ∧ preferredContext settings request world id = .ok (some ctx)) ∨
    selectFirst settings request world = .ok ctx := by
  unfold distribute at h
  rcases hforced : request.specificChannelId with _ | id
  · right
    rw [hforced] at h
    rcases hlimit : checkTokenModelLimit request with e | u
    · rw [hlimit] at h
      cases h
    simp only [hlimit] at h
    by_cases hname : request.modelName = ""
    · simp only [hname, if_true] at h
      cases h
    simp only [hname, if_false] at h
    rcases hpreferred : request.preferredChannel with _ | id
    · rw [hpreferred] at h
      exact .inr h
    · rcases hctx : preferredContext settings request world id with e | _ | preferred
      · simp only [hpreferred, map_some, getD_some, hctx] at h
        cases h
      · simp only [hpreferred, map_some, getD_some, hctx] at h
        exact .inr h
      · simp only [hpreferred, map_some, getD_some, hctx] at h
        cases h
        exact .inl ⟨id, rfl, hctx⟩
  · left
    simp only [hforced] at h
    split at h
    · cases h
    · split at h
      · cases h
      · exact ⟨id, rfl, (Except.ok.inj h).symm⟩

omit hcached

/-- The loop of `Relay` ends whatever the channels and the outcomes are. With the memory cache, no channel with a
positive id that is in `use_channel` is selected again. If no channel is forced, there are at most as many attempts at
channels with a positive id as such channels of the groups of the request are enabled. -/
theorem relay_ends_distinct (settings : RelaySettings) (request : RelayRequest) (world : World) (groups : GroupRatios)
    (info : PricingInfo) :
    (∀ ctx, ∃ result, ∀ fuel, roundsLeft settings request ctx < fuel →
      relay settings request world groups fuel ctx info = some result) ∧
    ∀ tables, Cached world tables →
      (∀ ctx id ctx', cacheGetRandomSatisfiedChannel settings request world request.tokenGroup ctx =
        (.ok (some id), ctx') → 0 < id → id ∉ ctx.useChannel) ∧
      (request.specificChannelId = none → ∀ ctx, distribute settings request world = .ok ctx →
        ∀ fuel result, relay settings request world groups fuel ctx info = some result →
        ∀ channels : Finset Int, (∀ n, usableChannels settings request (tables n) ⊆ channels) →
          let attempted := (result.state.log.map Attempt.channelId).filter (0 < ·)
          attempted.Nodup ∧ attempted.length ≤ (channels.filter (0 < ·)).card) := by
  refine ⟨fun ctx => exists_relay ctx info, fun tables hcached => ⟨fun ctx id ctx' hget => ?_, ?_⟩⟩
  · exact (hcached.not_mem_useChannel (fun group hgroup => mem_append_right _ hgroup) hget).1
  · intro hforced ctx hctx fuel result hrun channels husable
    obtain ⟨n, hfirst⟩ : ∃ n, ctx.channelId ∈ usableChannels settings request (tables n) := by
      rcases distribute_cases hctx with ⟨id, hid, -⟩ | ⟨id, -, hctx⟩ | hselect
      · rw [hforced] at hid
        cases hid
      · exact ⟨0, hcached.preferred_mem hctx⟩
      · exact hcached.selectFirst_mem hselect
    obtain ⟨hmem, hnodup⟩ := distinct_relay hcached husable (husable n hfirst) hrun
    refine ⟨hnodup, ?_⟩
    rw [← toFinset_card_of_nodup hnodup]
    refine Finset.card_le_card fun id hid => ?_
    obtain ⟨hid, hpos⟩ := mem_filter.mp (mem_toFinset.mp hid)
    obtain ⟨a, ha, rfl⟩ := mem_map.mp hid
    exact Finset.mem_filter.mpr ⟨hmem a ha, of_decide_eq_true hpos⟩

/-- Channels of the default group for the model `m`, from the cache; the first attempts fail with the status 500. -/
def failingWorld (ids : List Int) (failures : Nat) : World where
  stores _ :=
    let channels := ids.foldl (fun table id => table.insert id { models := "m" }) Table.empty
    { channels := channels, cache := initChannelCache channels [] }
  outcomes n := if n < failures then .failed {} else .answered

lemma cached_failingWorld {ids : List Int} {failures : Nat} :
    Cached (failingWorld ids failures) fun n => ((failingWorld ids failures).stores n).channels where
  enabled _ := rfl
  cache _ := ⟨[], [], rfl⟩

theorem relay_ends_distinct_two : ∃ ctx result,
    distribute { retryTimes := 2 } { modelName := "m" } (failingWorld [1, 2] 1) = .ok ctx ∧
    relay { retryTimes := 2 } { modelName := "m" } (failingWorld [1, 2] 1) {} 9 ctx { originModelName := "m" } =
      some result ∧
    result.state.log.map Attempt.channelId = [1, 2] ∧
    let attempted := (result.state.log.map Attempt.channelId).filter (0 < ·)
    attempted.Nodup ∧ attempted.length ≤ (({1, 2} : Finset Int).filter (0 < ·)).card := by
  have hrun : (relay { retryTimes := 2 } { modelName := "m" } (failingWorld [1, 2] 1) {} 9
      { channelId := 1, calls := 2 }
      { originModelName := "m" }).map (fun result => result.state.log.map Attempt.channelId) = some [1, 2] := by
    decide +kernel
  obtain ⟨result, hresult, hlog⟩ := map_eq_some_iff.mp hrun
  have hctx : distribute { retryTimes := 2 } { modelName := "m" } (failingWorld [1, 2] 1) =
      .ok { channelId := 1, calls := 2 } := by
    decide +kernel
  refine ⟨_, result, hctx, hresult, hlog, ?_⟩
  have husable : usableChannels { retryTimes := 2 } { modelName := "m" } ((failingWorld [1, 2] 1).stores 0).channels ⊆
      {1, 2} := by
    decide +kernel
  exact ((relay_ends_distinct _ _ _ _ _).2 _ (cached_failingWorld)).2 rfl _ hctx _ _ hresult _ fun _ => husable

/-- A channel whose id is not positive is never excluded, and is tried again. -/
theorem relay_repeats_channel : ∃ ctx result,
    distribute { retryTimes := 2 } { modelName := "m" } (failingWorld [-1] 1) = .ok ctx ∧
    relay { retryTimes := 2 } { modelName := "m" } (failingWorld [-1] 1) {} 9 ctx { originModelName := "m" } =
      some result ∧
    result.state.log.map Attempt.channelId = [-1, -1] ∧
    Cached (failingWorld [-1] 1) (fun n => ((failingWorld [-1] 1).stores n).channels) ∧
    ∀ n, usableChannels { retryTimes := 2 } { modelName := "m" } ((failingWorld [-1] 1).stores n).channels = {-1} := by
  have hrun : (relay { retryTimes := 2 } { modelName := "m" } (failingWorld [-1] 1) {} 9 { channelId := -1, calls := 2 }
      { originModelName := "m" }).map (fun result => result.state.log.map Attempt.channelId) = some [-1, -1] := by
    decide +kernel
  obtain ⟨result, hresult, hlog⟩ := map_eq_some_iff.mp hrun
  have husable : usableChannels { retryTimes := 2 } { modelName := "m" } ((failingWorld [-1] 1).stores 0).channels =
      {-1} := by
    decide +kernel
  exact ⟨_, result, by decide +kernel, hresult, hlog, cached_failingWorld, fun _ => husable⟩

end

end LoveApi.Proofs
