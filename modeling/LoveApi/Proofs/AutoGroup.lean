import LoveApi.Proofs.Relay

/-!
# The group of an `auto` token

Without cross-group retries a selection that finds a channel in the group of the context stays there, but a group in
which no channel is left is passed over.
-/

namespace LoveApi.Proofs

open Program Go List Option

attribute [local irreducible] getRandomSatisfiedChannelWithExclusions selectCached getCachedChannels

section Selection

variable {settings : RelaySettings} {request : RelayRequest} {world : World} {ctx ctx' : RetryContext} {id : Int}

def currentGroup (settings : RelaySettings) (request : RelayRequest) (ctx : RetryContext) : Option String :=
  (getUserAutoGroup settings request)[groupIndex ctx]?

def NothingLeft (settings : RelaySettings) (request : RelayRequest) (world : World) (ctx : RetryContext) : Prop :=
  ∀ group ∈ currentGroup settings request ctx,
    (selectChannel request world (seedAttemptedFromContext ctx) group ctx.retry).1.channel = none

lemma takeFromGroup_stays {settings : RelaySettings} (hcross : request.crossGroupRetry = false)
    {i priorityRetry : Nat} {group : String}
    {id : Int} {ctx : RetryContext} :
    let ctx' := takeFromGroup settings request i priorityRetry group id ctx
    ctx'.autoGroup = some group ∧ groupIndex ctx' = i ∧ ctx'.retry = ctx.retry ∧
      ctx'.resetNextTry = ctx.resetNextTry := by
  obtain ⟨attempted, hmark⟩ := markAttempted_eq { ctx with autoGroup := some group } id
  simp [takeFromGroup, hmark, hcross, groupIndex]

lemma selectAutoGroup_stays (hcross : request.crossGroupRetry = false) {start i : Nat} {groups : List String}
    (h : selectAutoGroup settings request world start i groups ctx = (some id, ctx')) :
    ∃ j group, groups[j]? = some group ∧ ctx'.autoGroup = some group ∧ groupIndex ctx' = i + j ∧
      ctx'.resetNextTry = ctx.resetNextTry ∧
      (j = 0 ∧ ctx'.retry = ctx.retry ∧
          (selectChannel request world ctx group (if i > start then 0 else ctx.retry)).1.channel = some id ∨
        0 < j ∧ ∀ first ∈ groups[0]?,
          (selectChannel request world ctx first (if i > start then 0 else ctx.retry)).1.channel = none) := by
  induction groups generalizing i ctx with
  | nil => cases h
  | cons group rest ih =>
    rw [selectAutoGroup] at h
    dsimp only at h
    split at h
    · next hnone =>
      obtain ⟨j, other, hj, hauto, hindex, hreset, -⟩ := ih h
      refine ⟨j + 1, other, hj, hauto, by omega, hreset, .inr ⟨by omega, ?_⟩⟩
      rintro _ ⟨⟩
      exact hnone
    · next found hfound =>
      obtain ⟨hid, rfl⟩ := Prod.mk.inj h
      obtain rfl := some.inj hid
      obtain ⟨hauto, hindex, hretry, hreset⟩ := takeFromGroup_stays hcross
      exact ⟨0, group, rfl, hauto, hindex, hreset, .inl ⟨rfl, hretry, hfound⟩⟩

lemma cacheGet_auto (hcross : request.crossGroupRetry = false)
    (h : cacheGetRandomSatisfiedChannel settings request world "auto" ctx = (.ok (some id), ctx')) :
    ctx'.autoGroup = currentGroup settings request ctx' ∧ (ctx'.autoGroup).isSome ∧
      ctx'.resetNextTry = ctx.resetNextTry ∧
      (¬NothingLeft settings request world ctx ∧ groupIndex ctx' = groupIndex ctx ∧ ctx'.retry = ctx.retry ∨
        NothingLeft settings request world ctx ∧ groupIndex ctx < groupIndex ctx') := by
  unfold cacheGetRandomSatisfiedChannel at h
  simp only [if_true] at h
  split at h
  · cases (Prod.mk.inj h).1
  obtain ⟨hid, hctx⟩ := Prod.mk.inj h
  have hrun : selectAutoGroup settings request world (groupIndex ctx) (groupIndex ctx)
      ((getUserAutoGroup settings request).drop (groupIndex ctx)) (seedAttemptedFromContext ctx) = (some id, ctx') :=
    Prod.ext (Except.ok.inj hid) hctx
  obtain ⟨j, group, hj, hauto, hindex, hreset, hfound⟩ := selectAutoGroup_stays hcross hrun
  rw [getElem?_drop] at hj
  rw [if_neg (lt_irrefl _)] at hfound
  have hcurrent := hj
  rw [← hindex] at hcurrent
  refine ⟨hauto.trans hcurrent.symm, by rw [hauto]; rfl, hreset, ?_⟩
  rcases hfound with ⟨rfl, hretry, hsome⟩ | ⟨hpos, hnone⟩
  · refine .inl ⟨fun hleft => ?_, hindex, hretry⟩
    have hnone := hleft group hj
    rw [show ctx.retry = (seedAttemptedFromContext ctx).retry from rfl, hsome] at hnone
    cases hnone
  · refine .inr ⟨fun first hfirst => ?_, hindex ▸ Nat.lt_add_of_pos_right hpos⟩
    apply hnone
    rw [getElem?_drop]
    exact hfirst

end Selection

section Runs

variable {settings : RelaySettings} {request : RelayRequest} {world : World} {groups : GroupRatios}
  {ctx : RetryContext} {info : PricingInfo} {s s' : RelayState} {id : Int}
variable {t : RelayState} {result : RelayResult} {fuel : Nat}

/-- All attempts are made in the group of the first one, and there are at most `RetryTimes + 1`. -/
def StaysInGroup (settings : RelaySettings) (request : RelayRequest) (world : World) (groups : GroupRatios)
    (ctx : RetryContext) (info : PricingInfo) : Prop :=
  ∀ fuel result, relay settings request world groups fuel ctx info = some result →
    (∀ a ∈ result.state.log, a.autoGroup = ctx.autoGroup) ∧
      result.state.log.length ≤ (settings.retryTimes + 1).toNat

/-- At a retry no channel is left in the group of the context, and yet another attempt is made. -/
structure LeavesGroup (settings : RelaySettings) (request : RelayRequest) (world : World) (groups : GroupRatios)
    (s : RelayState) : Prop where
  retried : s.channelMeta = true
  inTime : (s.retry : Int) ≤ settings.retryTimes
  nothingLeft : NothingLeft settings request world s.toRetryContext
  attempted : ∃ id t, getChannel settings request world groups s = (.ok id, t) ∧
    ∀ e, world.outcomes t.log.length ≠ .bodyError e

structure InGroup (settings : RelaySettings) (request : RelayRequest) (ctx : RetryContext) (s : RelayState) : Prop where
  autoGroup : s.autoGroup = ctx.autoGroup
  current : s.autoGroup = currentGroup settings request s.toRetryContext
  resetNextTry : s.resetNextTry = false
  log : ∀ a ∈ s.log, a.autoGroup = ctx.autoGroup
  count : s.log.length = s.retry
  inTime : s.log.length ≤ (settings.retryTimes + 1).toNat

variable (h : InGroup settings request ctx s)

include h

lemma InGroup.getChannel (hauto : request.tokenGroup = "auto") (hcross : request.crossGroupRetry = false)
    (hleft : s.channelMeta = true → ¬NothingLeft settings request world s.toRetryContext)
    (hget : getChannel settings request world groups s = (.ok id, t)) : InGroup settings request ctx t := by
  rcases getChannel_ok hget with ⟨-, -, rfl⟩ | ⟨hmeta, ctx', hctx, rfl⟩
  · exact h
  rw [hauto] at hctx
  obtain ⟨hcurrent, -, hreset, ⟨-, hindex, hretry⟩ | ⟨hnothing, -⟩⟩ := cacheGet_auto hcross hctx
  · have hsame : ctx'.autoGroup = s.autoGroup := by
      rw [hcurrent, h.current, currentGroup, hindex]
      rfl
    exact ⟨hsame.trans h.autoGroup, hcurrent, hreset.trans h.resetNextTry, h.log, h.count.trans hretry.symm,
      h.inTime⟩
  · exact absurd hnothing (hleft hmeta)

lemma InGroup.log_attempt (hretry : (s.retry : Int) ≤ settings.retryTimes) (world : World) (id : Int) :
    (∀ a ∈ (attempt world s id).log, a.autoGroup = ctx.autoGroup) ∧ (attempt world s id).log.length = s.retry + 1 ∧
      (attempt world s id).log.length ≤ (settings.retryTimes + 1).toNat := by
  have hcount := h.count
  have hlen : (attempt world s id).log.length = s.retry + 1 := by
    show (s.log ++ [_]).length = _
    rw [length_append, length_singleton, hcount]
  refine ⟨fun a ha => ?_, hlen, by omega⟩
  rcases mem_append.mp ha with ha | ha
  · exact h.log a ha
  · rw [mem_singleton.mp ha]
    exact h.autoGroup

omit h in
lemma increaseRetry_of_not_reset (h : ctx.resetNextTry = false) :
    increaseRetry ctx = { ctx with retry := ctx.retry + 1 } := by
  unfold increaseRetry
  rw [h]
  rfl

lemma InGroup.retry_getChannel (ht : InGroup settings request ctx t)
    (hget : LoveApi.getChannel settings request world groups s = (.ok id, t)) : t.retry = s.retry := by
  rw [← ht.count, ← h.count, getChannel_log hget]

lemma InGroup.round (hauto : request.tokenGroup = "auto")
    (hcross : request.crossGroupRetry = false) (hstays : ¬LeavesGroup settings request world groups s)
    (hbody : relayBody settings request world groups s = .again s') : InGroup settings request ctx s' := by
  obtain ⟨hretry, id, t, e, hget, ⟨hfailed, -⟩, rfl⟩ := relayBody_again hbody
  have hleft : s.channelMeta = true → ¬NothingLeft settings request world s.toRetryContext := fun hmeta hnothing =>
    hstays ⟨hmeta, hretry, hnothing, id, t, hget, by simp [hfailed]⟩
  have ht := h.getChannel hauto hcross hleft hget
  have hretry' : (t.retry : Int) ≤ settings.retryTimes := h.retry_getChannel ht hget ▸ hretry
  obtain ⟨hgroup, hlen, htime⟩ := ht.log_attempt hretry' world id
  have hincrease := increaseRetry_of_not_reset
    (show (attempt world t id).toRetryContext.resetNextTry = false from ht.resetNextTry)
  refine ⟨?_, ?_, ?_, hgroup, ?_, htime⟩
  · rw [hincrease]
    exact ht.autoGroup
  · rw [hincrease]
    exact ht.current
  · rw [hincrease]
    exact ht.resetNextTry
  · rw [hincrease, hlen]
    rfl

lemma InGroup.done (hauto : request.tokenGroup = "auto")
    (hcross : request.crossGroupRetry = false) (hstays : ¬LeavesGroup settings request world groups s)
    (hbody : relayBody settings request world groups s = .done result) :
    (∀ a ∈ result.state.log, a.autoGroup = ctx.autoGroup) ∧
      result.state.log.length ≤ (settings.retryTimes + 1).toNat := by
  rcases relayBody_done hbody with ⟨-, hlog⟩ | ⟨hretry, id, t, err, hget, houtcome, hstate⟩
  · rw [hlog]
    exact ⟨h.log, h.inTime⟩
  · have hleft : s.channelMeta = true → ¬NothingLeft settings request world s.toRetryContext := fun hmeta hnothing =>
      hstays ⟨hmeta, hretry, hnothing, id, t, hget, houtcome⟩
    have ht := h.getChannel hauto hcross hleft hget
    obtain ⟨hgroup, -, htime⟩ := ht.log_attempt (h.retry_getChannel ht hget ▸ hretry) world id
    rw [hstate]
    exact ⟨hgroup, htime⟩

omit h

/-- The states that the rounds of a relayed request reach. -/
def ReachedFrom (settings : RelaySettings) (request : RelayRequest) (world : World) (groups : GroupRatios)
    (ctx : RetryContext) (info : PricingInfo) : RelayState → Prop :=
  Reaches (relayBody settings request world groups) { toRetryContext := ctx, info := info }

/-- The group of the first attempt is the one at which the retries start. -/
def StartsInGroup (settings : RelaySettings) (request : RelayRequest) (ctx : RetryContext) : Prop :=
  ctx.autoGroup = currentGroup settings request ctx

lemma distribute_fresh (h : distribute settings request world = .ok ctx) :
    ctx.retry = 0 ∧ ctx.resetNextTry = false := by
  rcases distribute_cases h with ⟨id, -, rfl⟩ | ⟨id, -, hctx⟩ | hselect
  · exact ⟨rfl, rfl⟩
  · unfold preferredContext at hctx
    dsimp only at hctx
    split at hctx
    · cases hctx
    split at hctx
    · split at hctx
      · cases hctx
      · cases hctx
    · split at hctx
      · cases hctx
      · cases hctx
        exact ⟨rfl, rfl⟩
  · unfold selectFirst at hselect
    split at hselect
    · cases hselect
    · cases hselect
    · cases hselect
      exact ⟨rfl, rfl⟩

lemma startsInGroup_selectFirst (husing : request.usingGroup = "auto") (hcross : request.crossGroupRetry = false)
    (h : selectFirst settings request world = .ok ctx) : StartsInGroup settings request ctx := by
  unfold selectFirst at h
  rw [husing] at h
  split at h
  · cases h
  · cases h
  · next hget =>
    cases h
    exact (cacheGet_auto hcross hget).1

lemma inGroup_first (hctx : distribute settings request world = .ok ctx) (hstart : StartsInGroup settings request ctx)
    {info : PricingInfo} : InGroup settings request ctx { toRetryContext := ctx, info := info } := by
  obtain ⟨hretry, hreset⟩ := distribute_fresh hctx
  exact ⟨rfl, hstart, hreset, by simp, hretry.symm, Nat.zero_le _⟩

lemma relayBody_attempt (hretry : (s.retry : Int) ≤ settings.retryTimes)
    (hget : getChannel settings request world groups s = (.ok id, t))
    (houtcome : ∀ e, world.outcomes t.log.length ≠ .bodyError e) :
    (relayBody settings request world groups s).All (fun s' => s'.log = (attempt world t id).log)
      fun result => result.state.log = (attempt world t id).log := by
  unfold relayBody
  rw [if_neg (not_lt.mpr hretry), hget]
  dsimp only
  split
  · next e hbody => exact absurd hbody (houtcome e)
  · rfl
  · split
    · rfl
    · rfl

lemma log_isPrefix
    (h : loop (relayBody settings request world groups) fuel s = some result) : s.log <+: result.state.log := by
  have hagain : ∀ s₁ s₂ : RelayState, s.log <+: s₁.log → relayBody settings request world groups s₁ = .again s₂ →
      s.log <+: s₂.log := by
    intro s₁ s₂ hs hbody
    obtain ⟨-, id, t, e, hget, -, rfl⟩ := relayBody_again hbody
    exact hs.trans (getChannel_log hget ▸ prefix_append _ _)
  have hdone : ∀ (s₁ : RelayState) (r : RelayResult), s.log <+: s₁.log →
      relayBody settings request world groups s₁ = .done r → s.log <+: r.state.log := by
    intro s₁ r hs hbody
    rcases relayBody_done hbody with ⟨-, hlog⟩ | ⟨-, id, t, err, hget, -, hstate⟩
    · rwa [hlog]
    · rw [hstate]
      exact hs.trans (getChannel_log hget ▸ prefix_append _ _)
  exact loop_induction hagain hdone prefix_rfl h

lemma mem_log_of_attempt
    (hretry : (s.retry : Int) ≤ settings.retryTimes) (hget : getChannel settings request world groups s = (.ok id, t))
    (houtcome : ∀ e, world.outcomes t.log.length ≠ .bodyError e)
    (hrun : loop (relayBody settings request world groups) fuel s = some result) :
    { channelId := id, autoGroup := t.autoGroup } ∈ result.state.log := by
  have hmem : { channelId := id, autoGroup := t.autoGroup } ∈ (attempt world t id).log :=
    mem_append_right _ (mem_singleton_self _)
  have hall := relayBody_attempt hretry hget houtcome
  cases fuel with
  | zero => cases hrun
  | succ fuel =>
    rcases hbody : relayBody settings request world groups s with s' | r
    · rw [hbody] at hall
      rw [loop_of_again hbody] at hrun
      exact (log_isPrefix hrun).subset (hall ▸ hmem)
    · rw [hbody] at hall
      rw [loop_of_done hbody] at hrun
      cases hrun
      exact hall ▸ hmem

lemma InGroup.autoGroup_ne (h : InGroup settings request ctx s) (hauto : request.tokenGroup = "auto")
    (hcross : request.crossGroupRetry = false) (hnodup : (getUserAutoGroup settings request).Nodup)
    (hmeta : s.channelMeta = true) (hnothing : NothingLeft settings request world s.toRetryContext)
    (hget : LoveApi.getChannel settings request world groups s = (.ok id, t)) : t.autoGroup ≠ ctx.autoGroup := by
  rcases getChannel_ok hget with ⟨hfirst, -, -⟩ | ⟨-, ctx', hctx, rfl⟩
  · rw [hmeta] at hfirst
    cases hfirst
  · rw [hauto] at hctx
    obtain ⟨hcurrent, hsome, -, ⟨hleft, -⟩ | ⟨-, hlt⟩⟩ := cacheGet_auto hcross hctx
    · exact absurd hnothing hleft
    rw [← h.autoGroup, h.current, hcurrent]
    rw [hcurrent] at hsome
    intro hsame
    have hi : groupIndex ctx' < (getUserAutoGroup settings request).length := by
      simpa [currentGroup] using hsome
    have hj : groupIndex s.toRetryContext < (getUserAutoGroup settings request).length := hlt.trans hi
    unfold currentGroup at hsame
    rw [getElem?_eq_getElem hi, getElem?_eq_getElem hj] at hsame
    exact hlt.ne' ((hnodup.getElem_inj_iff).mp (some.inj hsame))

/-- For an `auto` token without cross-group retries, all attempts are made in the group of the first one, and there are
at most `RetryTimes + 1`, if and only if no retry finds nothing left in that group and goes on to another one. A
preferred channel may be in another group than the one at which the retries start. -/
theorem staysInGroup_iff (hauto : request.tokenGroup = "auto") (husing : request.usingGroup = "auto")
    (hcross : request.crossGroupRetry = false) (hctx : distribute settings request world = .ok ctx) :
    (request.specificChannelId = none → request.preferredChannel = none → StartsInGroup settings request ctx) ∧
    (StartsInGroup settings request ctx →
      (∀ s, ReachedFrom settings request world groups ctx info s → ¬LeavesGroup settings request world groups s) →
      StaysInGroup settings request world groups ctx info) ∧
    (StartsInGroup settings request ctx → (getUserAutoGroup settings request).Nodup →
      StaysInGroup settings request world groups ctx info →
      ∀ s, ReachedFrom settings request world groups ctx info s → ¬LeavesGroup settings request world groups s) := by
  refine ⟨fun hforced hpreferred => ?_, fun hstart hstays fuel result hrun => ?_, fun hstart hnodup hstays s hs => ?_⟩
  · rcases distribute_cases hctx with ⟨id, hid, -⟩ | ⟨id, hid, -⟩ | hselect
    · rw [hforced] at hid
      cases hid
    · rw [hpreferred] at hid
      cases hid
    · exact startsInGroup_selectFirst husing hcross hselect
  · have hagain : ∀ s s', ReachedFrom settings request world groups ctx info s ∧ InGroup settings request ctx s →
        relayBody settings request world groups s = .again s' →
        ReachedFrom settings request world groups ctx info s' ∧ InGroup settings request ctx s' := by
      rintro s s' ⟨hs, hin⟩ hbody
      exact ⟨hs.tail hbody, hin.round hauto hcross (hstays s hs) hbody⟩
    have hdone : ∀ s (r : RelayResult),
        ReachedFrom settings request world groups ctx info s ∧ InGroup settings request ctx s →
        relayBody settings request world groups s = .done r →
        (∀ a ∈ r.state.log, a.autoGroup = ctx.autoGroup) ∧ r.state.log.length ≤ (settings.retryTimes + 1).toNat := by
      rintro s r ⟨hs, hin⟩ hbody
      exact hin.done hauto hcross (hstays s hs) hbody
    exact loop_induction hagain hdone ⟨.refl, inGroup_first hctx hstart⟩ hrun
  · -- The first round that leaves the group would show in the log.
    have hround : ∀ s, ReachedFrom settings request world groups ctx info s → InGroup settings request ctx s →
        ¬LeavesGroup settings request world groups s := by
      rintro s hs hin ⟨hmeta, hretry, hnothing, id, t, hget, houtcome⟩
      obtain ⟨result, hresult⟩ := @exists_relay settings request world groups ctx info
      have hrun := hresult _ (Nat.lt_succ_self _)
      obtain ⟨fuel, hrest⟩ := hs.loop hrun
      exact hin.autoGroup_ne hauto hcross hnodup hmeta hnothing hget
        ((hstays _ result hrun).1 _ (mem_log_of_attempt hretry hget houtcome hrest))
    suffices hin : InGroup settings request ctx s from hround s hs hin
    induction hs with
    | refl => exact inGroup_first hctx hstart
    | tail hs hbody ih => exact ih.round hauto hcross (hround _ hs ih) hbody

def threeGroups : RelaySettings where
  retryTimes := 1
  autoGroups := ["a", "b", "c"]
  getUserUsableGroups _ := ["a", "b", "c"]

def autoRequest : RelayRequest where
  modelName := "m"
  usingGroup := "auto"
  tokenGroup := "auto"

/-- The channels `1, 2, …` of these groups for the model `m`, from the cache; every attempt fails with the status 500.
-/
def failingGroups (groups : List String) : World where
  stores _ :=
    let channels :=
      groups.zipIdx.foldl (fun table g => table.insert (g.2 + 1) { group := g.1, models := "m" }) Table.empty
    { channels := channels, cache := initChannelCache channels [] }
  outcomes _ := .failed {}

def afterFirst : RetryContext where
  retry := 1
  autoGroup := some "a"
  autoGroupIndex := some 0
  useChannel := [1]
  channelId := 1
  calls := 2

lemma second_channel_left :
    (selectChannel autoRequest (failingGroups ["a", "a", "b"]) (seedAttemptedFromContext afterFirst) "a" 1).1.channel ≠
      none ∧
    (cacheGetRandomSatisfiedChannel threeGroups autoRequest (failingGroups ["a", "a", "b"]) "auto" afterFirst).2.retry =
      1 := by
  decide +kernel

theorem staysInGroup_two : StaysInGroup threeGroups autoRequest (failingGroups ["a", "a", "b"]) {}
    { channelId := 1, autoGroup := some "a", autoGroupIndex := some 0, calls := 2 } { originModelName := "m" } := by
  have hctx : distribute threeGroups autoRequest (failingGroups ["a", "a", "b"]) =
      .ok { channelId := 1, autoGroup := some "a", autoGroupIndex := some 0, calls := 2 } := by
    decide +kernel
  obtain ⟨hstart, hstays, -⟩ := @staysInGroup_iff threeGroups autoRequest (failingGroups ["a", "a", "b"]) {} _
    { originModelName := "m" } rfl rfl rfl hctx
  refine hstays (hstart rfl rfl) fun s hs hleaves => ?_
  rcases Relation.ReflTransGen.cases_head hs with rfl | ⟨s₁, hfirst, hs⟩
  · cases hleaves.retried
  obtain ⟨-, id, t, e, hget, -, rfl⟩ := relayBody_again hfirst
  obtain ⟨-, rfl, rfl⟩ | ⟨hmeta, -⟩ := getChannel_ok hget
  · rcases Relation.ReflTransGen.cases_head hs with rfl | ⟨s₂, hsecond, hs⟩
    · -- The second channel of the group is left.
      exact absurd (hleaves.nothingLeft "a" rfl) second_channel_left.1
    · -- The second attempt uses up the retries.
      obtain ⟨-, id₂, t₂, e₂, hget₂, ⟨hfailed, hshould⟩, -⟩ := relayBody_again hsecond
      obtain ⟨hmeta, -⟩ | ⟨-, ctx, hselect, rfl⟩ := getChannel_ok hget₂
      · cases hmeta
      obtain rfl := Outcome.failed.inj hfailed
      have hretry : ctx.retry = 1 := (congrArg (fun p => p.2.retry) hselect).symm.trans second_channel_left.2
      rw [show ({ ctx with channelId := id₂ } : RetryContext).retry = 1 from hretry] at hshould
      cases hshould
  · cases hmeta

/-- Without retries across groups, a request still goes through three groups. -/
theorem autoGroup_left_counterexample : ∃ ctx result,
    distribute threeGroups autoRequest (failingGroups ["a", "b", "c"]) = .ok ctx ∧
    relay threeGroups autoRequest (failingGroups ["a", "b", "c"]) {} 9 ctx { originModelName := "m" } = some result ∧
    result.state.log = [⟨1, some "a"⟩, ⟨2, some "b"⟩, ⟨3, some "c"⟩] ∧
    ¬StaysInGroup threeGroups autoRequest (failingGroups ["a", "b", "c"]) {} ctx { originModelName := "m" } := by
  have hrun : (relay threeGroups autoRequest (failingGroups ["a", "b", "c"]) {} 9
      { channelId := 1, autoGroup := some "a", autoGroupIndex := some 0, calls := 2 } { originModelName := "m" }).map
        (fun result => result.state.log) = some [⟨1, some "a"⟩, ⟨2, some "b"⟩, ⟨3, some "c"⟩] := by
    decide +kernel
  obtain ⟨result, hresult, hlog⟩ := map_eq_some_iff.mp hrun
  refine ⟨_, result, by decide +kernel, hresult, hlog, fun hstays => ?_⟩
  have hgroup := (hstays 9 result hresult).1 ⟨2, some "b"⟩ (by rw [hlog]; decide)
  revert hgroup
  decide

end Runs

end LoveApi.Proofs
