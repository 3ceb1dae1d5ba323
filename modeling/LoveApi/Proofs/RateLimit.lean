import LoveApi.Program.Window
import LoveApi.RateLimit

/-!
# The window of the limiter in memory

The queue of a key holds its last accepted requests, as long as no sweep takes it away within the window.
-/

namespace LoveApi.Proofs

open Program Go List Option

variable {l : InMemoryRateLimiter} {key : String} {maxRequestNum duration : String → Int} {now : Time} {e : Int}

/-! ### One key -/

section

variable {l' : InMemoryRateLimiter} {other : String} {maxRequestNum duration : Int} {later : Time} {allowed : Bool}
  {history : List Time} {window : Int}

def queueOf (l : InMemoryRateLimiter) (key : String) : List Time := ((l.store.bind (· key)).getD [])

def slots (maxRequestNum : Int) : Nat := max maxRequestNum.toNat 1

lemma slots_pos : 0 < slots maxRequestNum := by
  unfold slots
  omega

structure Limits (l : InMemoryRateLimiter) (key : String) (maxRequestNum window : Int) (now : Time)
    (history : List Time) : Prop where
  tracks : Tracks (slots maxRequestNum) window now history (queueOf l key)
  nonempty : l.store.bind (· key) ≠ some []

lemma Limits.mono (h : Limits l key maxRequestNum window now history) (hle : now ≤ later) :
    Limits l key maxRequestNum window later history :=
  ⟨h.tracks.mono hle, h.nonempty⟩

lemma Limits.of_none (h : l.store.bind (· key) = none) : Limits l key maxRequestNum window now [] := by
  refine ⟨?_, by simp [h]⟩
  rw [queueOf, h]
  exact Tracks.nil

lemma Limits.congr (h : Limits l key maxRequestNum window now history)
    (hsame : l'.store.bind (· key) = l.store.bind (· key)) : Limits l' key maxRequestNum window now history := by
  refine ⟨?_, hsame ▸ h.nonempty⟩
  rw [queueOf, hsame]
  exact h.tracks

lemma bind_init {e : Int} : (l.init e).store.bind (· key) = l.store.bind (· key) := by
  unfold InMemoryRateLimiter.init
  cases hstore : l.store with
  | none => rfl
  | some store => simp [hstore]

lemma bind_clearExpiredItems (hpos : 0 < l.expirationDuration) :
    (l.clearExpiredItems now).store.bind (· key) = (l.store.bind (· key)).filter (l.unexpired now) := by
  rw [InMemoryRateLimiter.clearExpiredItems, if_pos hpos]
  cases l.store <;> rfl

lemma clearExpiredItems_of_le (h : l.expirationDuration ≤ 0) : l.clearExpiredItems now = l := if_neg (not_lt.mpr h)

lemma nonempty_clearExpiredItems (h : l.store.bind (· key) ≠ some []) :
    (l.clearExpiredItems now).store.bind (· key) ≠ some [] := by
  rcases le_or_gt l.expirationDuration 0 with hneg | hpos
  · rwa [clearExpiredItems_of_le hneg]
  · rw [bind_clearExpiredItems hpos]
    exact fun hsome => h (filter_eq_some_iff.mp hsome).1

lemma bind_setQueue (store : String → Option (List Time)) (queue : List Time) :
    (l.setQueue store key queue).store.bind (· other) = if other = key then some queue else store other := by
  unfold InMemoryRateLimiter.setQueue
  by_cases h : other = key
  · simp [h]
  · simp [h]

lemma request_cases (h : l.request key maxRequestNum duration now = some (allowed, l')) :
    ∃ store, l.store = some store ∧ (allowed = true ∧ (queueOf l key).length < slots maxRequestNum ∧
          l' = l.setQueue store key (queueOf l key ++ [now]) ∨
        ∃ oldest rest, queueOf l key = oldest :: rest ∧ slots maxRequestNum ≤ (oldest :: rest).length ∧
          (allowed = true ∧ duration ≤ now - oldest ∧ l' = l.setQueue store key (rest ++ [now]) ∨
            allowed = false ∧ now - oldest < duration ∧ l' = l)) := by
  unfold InMemoryRateLimiter.request at h
  cases hstore : l.store with
  | none => simp [hstore] at h
  | some store =>
    refine ⟨store, rfl, ?_⟩
    have hqueue : queueOf l key = (store key).getD [] := by simp [queueOf, hstore]
    rw [hqueue]
    simp only [hstore] at h
    cases hkey : store key with
    | none =>
      simp only [hkey] at h
      split at h
      · cases h
      cases h
      exact .inl ⟨rfl, slots_pos, rfl⟩
    | some queue =>
      simp only [hkey] at h
      rw [getD_some]
      split at h
      · next hlt =>
        cases h
        refine .inl ⟨rfl, ?_, rfl⟩
        unfold slots
        omega
      next hge =>
      cases queue with
      | nil => cases h
      | cons oldest rest =>
        refine .inr ⟨oldest, rest, rfl, ?_, ?_⟩
        · unfold slots
          rw [length_cons] at hge ⊢
          omega
        · dsimp only at h
          split at h
          · next hold =>
            cases h
            exact .inl ⟨rfl, hold, rfl⟩
          · next hyoung =>
            cases h
            exact .inr ⟨rfl, not_le.mp hyoung, rfl⟩

lemma request_isSome (hmax : 0 ≤ maxRequestNum) (hstore : l.store ≠ none) (hne : l.store.bind (· key) ≠ some []) :
    ∃ r, l.request key maxRequestNum duration now = some r := by
  obtain ⟨store, hstore⟩ := ne_none_iff_exists'.mp hstore
  unfold InMemoryRateLimiter.request
  simp only [hstore, bind_some] at hne ⊢
  cases hkey : store key with
  | none => exact ⟨_, if_neg (not_lt.mpr hmax)⟩
  | some queue =>
    cases queue with
    | nil => exact absurd hkey hne
    | cons oldest rest =>
      dsimp only
      split
      · exact ⟨_, rfl⟩
      · split
        · exact ⟨_, rfl⟩
        · exact ⟨_, rfl⟩

lemma request_frame (h : l.request key maxRequestNum duration now = some (allowed, l')) :
    ∃ store, l.store = some store ∧ (l' = l ∨ ∃ queue, l' = l.setQueue store key queue) := by
  obtain ⟨store, hstore, ⟨-, -, hl⟩ | ⟨oldest, rest, -, -, ⟨-, -, hl⟩ | ⟨-, -, hl⟩⟩⟩ := request_cases h
  · exact ⟨store, hstore, .inr ⟨_, hl⟩⟩
  · exact ⟨store, hstore, .inr ⟨_, hl⟩⟩
  · exact ⟨store, hstore, .inl hl⟩

lemma bind_request_other (hne : key ≠ other) (h : l.request other maxRequestNum duration now = some (allowed, l')) :
    l'.store.bind (· key) = l.store.bind (· key) := by
  obtain ⟨store, hstore, rfl | ⟨queue, rfl⟩⟩ := request_frame h
  · rfl
  · rw [bind_setQueue, if_neg hne, hstore, bind_some]

lemma expirationDuration_request (h : l.request key maxRequestNum duration now = some (allowed, l')) :
    l'.expirationDuration = l.expirationDuration ∧ l'.store ≠ none := by
  obtain ⟨store, hstore, rfl | ⟨queue, rfl⟩⟩ := request_frame h
  · exact ⟨rfl, by simp [hstore]⟩
  · exact ⟨rfl, by simp [InMemoryRateLimiter.setQueue]⟩

/-- The accepted requests after an answer. -/
def record (history : List Time) (now : Time) (allowed : Bool) : List Time :=
  if allowed then history ++ [now] else history

variable (h : Limits l key maxRequestNum window now history)

include h

lemma Limits.request (hreq : l.request key maxRequestNum duration now = some (allowed, l')) :
    Limits l' key maxRequestNum window now (record history now allowed) := by
  obtain ⟨store, hstore, ⟨rfl, hlt, rfl⟩ | ⟨oldest, rest, hqueue, hge, ⟨rfl, -, rfl⟩ | ⟨rfl, -, rfl⟩⟩⟩ :=
    request_cases hreq
  · have htracks := h.tracks.push hlt
    refine ⟨?_, ?_⟩
    · rwa [queueOf, bind_setQueue, if_pos rfl]
    · simp [bind_setQueue]
  · have htracks := h.tracks
    rw [hqueue] at htracks
    refine ⟨?_, ?_⟩
    · rw [queueOf, bind_setQueue, if_pos rfl]
      exact htracks.replace (le_antisymm htracks.length_le hge)
    · simp [bind_setQueue]
  · exact h

lemma Limits.exhausted_of_rejected
    (hreq : l.request key maxRequestNum duration now = some (false, l')) :
    Exhausted (slots maxRequestNum) duration now history := by
  obtain ⟨store, -, ⟨hfalse, -⟩ | ⟨oldest, rest, hqueue, hge, ⟨hfalse, -⟩ | ⟨-, hyoung, -⟩⟩⟩ :=
    request_cases hreq
  · cases hfalse
  · cases hfalse
  · have htracks := h.tracks
    rw [hqueue] at htracks
    exact htracks.exhausted hge rfl (sub_lt_iff_lt_add'.mp hyoung)

omit h in
lemma Limits.room_of_allowed (h : Limits l key maxRequestNum duration now history)
    (hreq : l.request key maxRequestNum duration now = some (true, l')) :
    ¬Exhausted (slots maxRequestNum) duration now history := by
  obtain ⟨store, -, ⟨-, hlt, -⟩ | ⟨oldest, rest, hqueue, hge, ⟨-, hold, -⟩ | ⟨hfalse, -⟩⟩⟩ :=
    request_cases hreq
  · exact h.tracks.not_exhausted_of_short hlt
  · have htracks := h.tracks
    rw [hqueue] at htracks
    exact htracks.not_exhausted_of_old (le_antisymm hge htracks.length_le) (le_sub_iff_add_le'.mp hold)
  · cases hfalse

/-- A sweep drops only what has left the window. -/
def SweepsAfter (l : InMemoryRateLimiter) (window : Int) : Prop :=
  l.expirationDuration ≤ 0 ∨ window ≤ l.expirationDuration / 10 ^ 9 + 1

lemma Limits.sweep (hsweep : SweepsAfter l window) :
    Limits (l.clearExpiredItems now) key maxRequestNum window now history := by
  rcases le_or_gt l.expirationDuration 0 with hneg | hpos
  · rwa [clearExpiredItems_of_le hneg]
  refine ⟨?_, nonempty_clearExpiredItems h.nonempty⟩
  have htracks := h.tracks
  unfold queueOf at htracks
  rw [queueOf, bind_clearExpiredItems hpos]
  cases hqueue : l.store.bind (· key) with
  | none =>
    rw [hqueue] at htracks
    exact htracks
  | some queue =>
    rw [hqueue] at htracks
    by_cases hkeep : l.unexpired now queue
    · rw [filter_some_pos hkeep]
      exact htracks
    · rw [filter_some_neg (Bool.not_eq_true _ ▸ hkeep)]
      -- the last request of the key is old, and so are all the others
      apply htracks.clear
      intro t ht
      obtain ⟨before, rfl⟩ := htracks.suffix
      rw [getD_some] at ht htracks
      obtain ⟨last, hlast⟩ := ne_none_iff_exists'.mp
        (mt getLast?_eq_none_iff.mp fun hnil => h.nonempty (hnil ▸ hqueue))
      unfold InMemoryRateLimiter.unexpired at hkeep
      rw [hlast] at hkeep
      have hexpired : l.expirationDuration / 1000000000 + last < now := by simpa using hkeep
      have hle : t ≤ last := by
        obtain ⟨init, rfl⟩ := getLast?_eq_some_iff.mp hlast
        have hsorted := htracks.sorted
        rw [← append_assoc, pairwise_append] at hsorted
        rw [← append_assoc] at ht
        rcases mem_append.mp ht with ht | ht
        · exact hsorted.2.2 t ht last (mem_singleton_self last)
        · exact (mem_singleton.mp ht).le
      rcases hsweep with hneg | hwindow
      · omega
      · omega

end

/-! ### Runs -/

/-- The expiration of the first `Init`. -/
def firstInit (actions : List LimiterAction) : Option Int :=
  (actions.filterMap LimiterAction.expirationDuration?).head?

/-- When requests of the key were accepted. -/
def acceptedTimes (answers : List LimiterAnswer) (key : String) : List Time :=
  (answers.filter fun answer => answer.key = key ∧ answer.allowed = true).map LimiterAnswer.now

/-- Any `maxRequestNum + 1` accepted requests of a key span at least its window, and a request is rejected only if
`maxRequestNum` requests were accepted within the window before it. -/
structure WindowBound (maxRequestNum duration : Int) (key : String) (answers : List LimiterAnswer) : Prop where
  spaced : Spaced maxRequestNum.toNat duration (acceptedTimes answers key)
  justified : ∀ before now after, answers = before ++ ⟨key, now, false⟩ :: after →
    Exhausted maxRequestNum.toNat duration now (acceptedTimes before key)

section Runs

variable {actions : List LimiterAction}

lemma limiterRun_append (a : LimiterAction) : limiterRun maxRequestNum duration (actions ++ [a]) =
      (limiterRun maxRequestNum duration actions).act maxRequestNum duration a := by
  rw [limiterRun, foldl_append]
  rfl

lemma acceptedTimes_append (answers : List LimiterAnswer) (other : String) (now : Time) (allowed : Bool) :
    acceptedTimes (answers ++ [⟨other, now, allowed⟩]) key =
      if other = key then record (acceptedTimes answers key) now allowed else acceptedTimes answers key := by
  unfold acceptedTimes record
  by_cases h : other = key
  · cases allowed <;> simp [h]
  · simp [h]

lemma firstInit_append {a : LimiterAction} :
    firstInit (actions ++ [a]) = (firstInit actions).or a.expirationDuration? := by
  unfold firstInit
  rw [filterMap_append, head?_append]
  cases a <;> rfl

lemma firstInit_append_of_some (a : LimiterAction) (h : firstInit actions = some e) :
    firstInit (actions ++ [a]) = some e := by
  rw [firstInit_append, h, some_or]

lemma limiterRun_init (maxRequestNum duration : String → Int) (actions : List LimiterAction) :
    let l := (limiterRun maxRequestNum duration actions).limiter
    l = {} ∧ firstInit actions = none ∨ l.store ≠ none ∧ firstInit actions = some l.expirationDuration := by
  induction actions using reverseRecOn with
  | nil => exact .inl ⟨rfl, rfl⟩
  | append_singleton actions a ih =>
    rw [limiterRun_append]
    rw [firstInit_append]
    set s := limiterRun maxRequestNum duration actions
    cases a with
    | init expirationDuration =>
      rcases ih with ⟨hl, hnone⟩ | ⟨hstore, hsome⟩
      · refine .inr ⟨?_, ?_⟩
        · simp [LimiterState.act, hl, InMemoryRateLimiter.init]
        · simp [LimiterState.act, hl, hnone, InMemoryRateLimiter.init, LimiterAction.expirationDuration?]
      · have hsame : s.limiter.init expirationDuration = s.limiter := by
          obtain ⟨store, hstore⟩ := ne_none_iff_exists'.mp hstore
          simp [InMemoryRateLimiter.init, hstore]
        refine .inr ⟨?_, ?_⟩
        · simpa [LimiterState.act, hsame] using hstore
        · simp [LimiterState.act, hsame, hsome]
    | request other now =>
      rw [show (firstInit actions).or (LimiterAction.request other now).expirationDuration? = firstInit actions by
        cases firstInit actions <;> rfl]
      unfold LimiterState.act
      dsimp only
      split
      · exact ih
      next allowed l hreq =>
      rcases ih with ⟨hl, hnone⟩ | ⟨hstore, hsome⟩
      · rw [hl] at hreq
        cases hreq
      · obtain ⟨hexp, hstore⟩ := expirationDuration_request hreq
        exact .inr ⟨hstore, hexp ▸ hsome⟩
    | sweep now =>
      rw [show (firstInit actions).or (LimiterAction.sweep now).expirationDuration? = firstInit actions by
        cases firstInit actions <;> rfl]
      simp only [LimiterState.act, InMemoryRateLimiter.clearExpiredItems]
      rcases ih with ⟨hl, hnone⟩ | ⟨hstore, hsome⟩
      · rw [hl]
        exact .inl ⟨rfl, hnone⟩
      · split
        · exact .inr ⟨by simpa using hstore, hsome⟩
        · exact .inr ⟨hstore, hsome⟩

lemma limits_limiterRun (key : String) (maxRequestNum duration : String → Int) (window : Int)
    (hsorted : (actions.filterMap LimiterAction.time?).Pairwise (· ≤ ·))
    (hsweep : ∀ e, firstInit actions = some e → e ≤ 0 ∨ window ≤ e / 10 ^ 9 + 1)
    (hnow : ∀ t ∈ actions.filterMap LimiterAction.time?, t ≤ now) :
    let s := limiterRun maxRequestNum duration actions
    Limits s.limiter key (maxRequestNum key) window now (acceptedTimes s.answers key) := by
  induction actions using reverseRecOn generalizing now with
  | nil => exact Limits.of_none rfl
  | append_singleton actions a ih =>
    rw [limiterRun_append]
    rw [filterMap_append] at hsorted hnow
    have hsweep' : ∀ e, firstInit actions = some e → e ≤ 0 ∨ window ≤ e / 10 ^ 9 + 1 := fun e he =>
      hsweep e (firstInit_append_of_some a he)
    have hpre := fun t => @ih t (pairwise_append.mp hsorted).1 hsweep'
    set s := limiterRun maxRequestNum duration actions with hs
    -- the time of the action is at least those before
    have hat : ∀ t, a.time? = some t → t ≤ now ∧
        Limits s.limiter key (maxRequestNum key) window t (acceptedTimes s.answers key) := by
      intro t ht
      have hmem : t ∈ [a].filterMap LimiterAction.time? := by simp [ht]
      refine ⟨hnow t (mem_append_right _ hmem), hpre t fun u hu => ?_⟩
      exact (pairwise_append.mp hsorted).2.2 u hu t hmem
    have hsame := hpre now fun t ht => hnow t (mem_append_left _ ht)
    cases a with
    | init expirationDuration => exact hsame.congr bind_init
    | request other t =>
      obtain ⟨hle, hlimits⟩ := hat t rfl
      unfold LimiterState.act
      dsimp only
      split
      · exact hsame
      next allowed l hreq =>
      rw [acceptedTimes_append]
      split
      · next heq =>
        subst heq
        exact (hlimits.request hreq).mono hle
      · next hne => exact (hlimits.congr (bind_request_other (Ne.symm hne) hreq)).mono hle
    | sweep t =>
      obtain ⟨hle, hlimits⟩ := hat t rfl
      refine (hlimits.sweep ?_).mono hle
      rcases limiterRun_init maxRequestNum duration actions with ⟨hl, -⟩ | ⟨-, hsome⟩
      · exact .inl (by rw [hs, hl])
      · exact hsweep' _ hsome

lemma WindowBound.append {n d : Int} {answers : List LimiterAnswer} (h : WindowBound n d key answers) {other : String}
    {allowed : Bool} (hsorted : (acceptedTimes answers key).Pairwise (· ≤ ·))
    (hanswer : other = key → (allowed = true ↔ ¬Exhausted n.toNat d now (acceptedTimes answers key))) :
    WindowBound n d key (answers ++ [⟨other, now, allowed⟩]) := by
  constructor
  · rw [acceptedTimes_append]
    split
    · next heq =>
      cases allowed with
      | false => exact h.spaced
      | true => exact h.spaced.push hsorted ((hanswer heq).mp rfl)
    · exact h.spaced
  · intro before t after hsplit
    cases after using reverseRecOn with
    | nil =>
      obtain ⟨rfl, hlast⟩ := append_inj' hsplit rfl
      obtain ⟨rfl, rfl, rfl⟩ : other = key ∧ now = t ∧ allowed = false := by simpa using hlast
      exact of_not_not fun hno => by simpa using (hanswer rfl).mpr hno
    | append_singleton after answer =>
      rw [← cons_append, ← append_assoc] at hsplit
      exact h.justified before t after (append_inj' hsplit rfl).1

lemma windowBound_limiterRun (hmax : 1 ≤ maxRequestNum key)
    (hsorted : (actions.filterMap LimiterAction.time?).Pairwise (· ≤ ·))
    (hsweep : ∀ e, firstInit actions = some e → e ≤ 0 ∨ duration key ≤ e / 10 ^ 9 + 1) :
    WindowBound (maxRequestNum key) (duration key) key (limiterRun maxRequestNum duration actions).answers := by
  induction actions using reverseRecOn with
  | nil => exact ⟨Spaced.nil, fun before now after h => by simp [limiterRun] at h⟩
  | append_singleton actions a ih =>
    rw [filterMap_append] at hsorted
    have hpre := (pairwise_append.mp hsorted).1
    have hsweep' : ∀ e, firstInit actions = some e → e ≤ 0 ∨ duration key ≤ e / 10 ^ 9 + 1 := fun e he =>
      hsweep e (firstInit_append_of_some a he)
    have hbound := ih hpre hsweep'
    rw [limiterRun_append]
    cases a with
    | init expirationDuration | sweep t => exact hbound
    | request other t =>
      unfold LimiterState.act
      dsimp only
      split
      · exact hbound
      next allowed l hreq =>
      have hpast : ∀ u ∈ actions.filterMap LimiterAction.time?, u ≤ t := fun u hu =>
        (pairwise_append.mp hsorted).2.2 u hu t (by simp [LimiterAction.time?])
      have hlimits := limits_limiterRun key maxRequestNum duration (duration key) hpre hsweep' hpast
      apply hbound.append hlimits.tracks.sorted
      rintro rfl
      rw [show (maxRequestNum other).toNat = slots (maxRequestNum other) by unfold slots; omega]
      cases allowed with
      | false => simpa using hlimits.exhausted_of_rejected hreq
      | true => simpa using hlimits.room_of_allowed hreq

end Runs

/-! ### A window longer than the expiration -/

def sweptActions (key : String) (maxRequestNum e : Int) : List LimiterAction :=
  LimiterAction.init e :: List.replicate maxRequestNum.toNat (.request key 0) ++
    [.sweep (e / 10 ^ 9 + 1), .request key (e / 10 ^ 9 + 1)]

lemma filterMap_time_replicate (key : String) (e : Int) (k : Nat) :
    (LimiterAction.init e :: List.replicate k (.request key 0)).filterMap LimiterAction.time? =
      List.replicate k 0 := by
  induction k with
  | zero => rfl
  | succ k ih =>
    exact congrArg (cons 0) ih

lemma limits_replicate (key : String) (maxRequestNum duration : String → Int) (e : Int) (k : Nat) (hnow : 0 ≤ now) :
    let s := limiterRun maxRequestNum duration (.init e :: List.replicate k (.request key 0))
    Limits s.limiter key (maxRequestNum key) 0 now (acceptedTimes s.answers key) ∧ s.limiter.store ≠ none ∧
      s.limiter.expirationDuration = e := by
  have htimes := filterMap_time_replicate key e k
  constructor
  · apply limits_limiterRun key maxRequestNum duration 0
    · rw [htimes]
      exact pairwise_replicate.mpr (.inr (le_refl 0))
    · intro e' _
      omega
    · intro t ht
      rw [htimes] at ht
      rwa [eq_of_mem_replicate ht]
  · rcases limiterRun_init maxRequestNum duration (.init e :: List.replicate k (.request key 0)) with
      ⟨-, hnone⟩ | ⟨hstore, hsome⟩
    · cases hnone
    · exact ⟨hstore, (some.inj hsome).symm⟩

lemma acceptedTimes_replicate (hmax : 1 ≤ maxRequestNum key) (duration : String → Int) (e : Int) (k : Nat)
    (hk : k ≤ (maxRequestNum key).toNat) :
    let s := limiterRun maxRequestNum duration (.init e :: List.replicate k (.request key 0))
    acceptedTimes s.answers key = List.replicate k 0 := by
  induction k with
  | zero => rfl
  | succ k ih =>
    have haccepted := ih (by omega)
    rw [replicate_succ', ← cons_append, limiterRun_append]
    obtain ⟨hlimits, hstore, -⟩ := limits_replicate key maxRequestNum duration e k (le_refl 0)
    set s := limiterRun maxRequestNum duration (.init e :: replicate k (.request key 0))
    obtain ⟨⟨allowed, l⟩, hreq⟩ :
        ∃ result, s.limiter.request key (maxRequestNum key) (duration key) 0 = some result :=
      request_isSome (Int.le_of_lt hmax) hstore hlimits.nonempty
    have hallowed : allowed = true := by
      cases allowed with
      | true => rfl
      | false =>
        have hlen := (hlimits.exhausted_of_rejected hreq).1
        rw [haccepted, length_replicate] at hlen
        unfold slots at hlen
        omega
    simp only [LimiterState.act, hreq]
    rw [acceptedTimes_append, if_pos rfl, haccepted, hallowed]
    exact replicate_succ'.symm

lemma queueOf_sweep (hpos : 0 < l.expirationDuration)
    (hold : ∀ t ∈ queueOf l key, t + l.expirationDuration / 10 ^ 9 < now) :
    queueOf (l.clearExpiredItems now) key = [] := by
  unfold queueOf at *
  rw [bind_clearExpiredItems hpos]
  cases hqueue : l.store.bind (· key) with
  | none => rfl
  | some queue =>
    rw [hqueue, getD_some] at hold
    have hexpired : l.unexpired now queue = false := by
      unfold InMemoryRateLimiter.unexpired
      cases hlast : queue.getLast? with
      | none => rfl
      | some last =>
        have hlt := hold last (mem_of_getLast? hlast)
        rw [decide_eq_false_iff_not, not_le]
        exact lt_sub_iff_add_lt'.mpr hlt
    rw [filter_some_neg hexpired]
    rfl

lemma acceptedTimes_swept (hmax : 1 ≤ maxRequestNum key) (he : 0 < e) :
    acceptedTimes (limiterRun maxRequestNum duration (sweptActions key (maxRequestNum key) e)).answers key =
      List.replicate (maxRequestNum key).toNat 0 ++ [e / 10 ^ 9 + 1] := by
  have hactions : sweptActions key (maxRequestNum key) e =
      (LimiterAction.init e :: replicate (maxRequestNum key).toNat (.request key 0)) ++
        [.sweep (e / 10 ^ 9 + 1)] ++ [.request key (e / 10 ^ 9 + 1)] := by
    simp [sweptActions]
  rw [hactions, limiterRun_append, limiterRun_append]
  have hnow : 0 ≤ e / 10 ^ 9 + 1 := by omega
  have haccepted := acceptedTimes_replicate hmax duration e _ le_rfl
  obtain ⟨hlimits, hstore, hexp⟩ := limits_replicate key maxRequestNum duration e (maxRequestNum key).toNat hnow
  rw [haccepted] at hlimits
  set s := limiterRun maxRequestNum duration (.init e :: replicate (maxRequestNum key).toNat (.request key 0))
  have hswept := hlimits.sweep (.inr (by omega))
  have hqueue : queueOf (s.limiter.clearExpiredItems (e / 10 ^ 9 + 1)) key = [] := by
    apply queueOf_sweep (hexp ▸ he)
    intro t ht
    rw [eq_of_mem_replicate (hlimits.tracks.suffix.subset ht), hexp, zero_add]
    exact Int.lt_succ _
  have hstore' : (s.limiter.clearExpiredItems (e / 10 ^ 9 + 1)).store ≠ none := by
    unfold InMemoryRateLimiter.clearExpiredItems
    split
    · simpa using hstore
    · exact hstore
  simp only [LimiterState.act]
  obtain ⟨⟨allowed, l⟩, hreq⟩ :
      ∃ result, (s.limiter.clearExpiredItems (e / 10 ^ 9 + 1)).request key (maxRequestNum key) (duration key)
        (e / 10 ^ 9 + 1) = some result :=
    request_isSome (Int.le_of_lt hmax) hstore' hswept.nonempty
  have hallowed : allowed = true := by
    obtain ⟨store, -, ⟨hallowed, -⟩ | ⟨oldest, rest, hcons, -⟩⟩ := request_cases hreq
    · exact hallowed
    · rw [hqueue] at hcons
      cases hcons
  rw [hreq]
  rw [acceptedTimes_append, if_pos rfl, haccepted, hallowed]
  rfl

/-- The window of a key is kept under all sequences of requests and sweeps exactly if there are no sweeps, since the
first `Init` has a duration that is not positive, or if the window is at most a second longer than the duration in
whole seconds. -/
theorem slidingWindow_iff {maxRequestNum duration : String → Int} (hmax : ∀ key, 1 ≤ maxRequestNum key)
    (key : String) (e : Int) :
    (∀ actions, (actions.filterMap LimiterAction.time?).Pairwise (· ≤ ·) → firstInit actions = some e →
      WindowBound (maxRequestNum key) (duration key) key (limiterRun maxRequestNum duration actions).answers) ↔
      e ≤ 0 ∨ duration key ≤ e / 10 ^ 9 + 1 := by
  constructor
  · intro h
    by_contra hno
    push Not at hno
    obtain ⟨hpos, hlong⟩ := hno
    have hsorted : ((sweptActions key (maxRequestNum key) e).filterMap LimiterAction.time?).Pairwise (· ≤ ·) := by
      have hs : 0 ≤ e / 10 ^ 9 + 1 := by omega
      rw [sweptActions, filterMap_append, filterMap_time_replicate]
      simp only [LimiterAction.time?, filterMap_cons, filterMap_nil]
      rw [pairwise_append]
      refine ⟨pairwise_replicate.mpr (.inr (le_refl 0)), by simp, ?_⟩
      intro t ht u hu
      rw [eq_of_mem_replicate ht]
      have hu' : u = e / 10 ^ 9 + 1 := by simpa using hu
      rw [hu']
      exact hs
    have hspaced := (h _ hsorted rfl).spaced
    rw [acceptedTimes_swept (hmax key) hpos] at hspaced
    have hn := hmax key
    have hbound := hspaced 0 (maxRequestNum key).toNat 0 (e / 10 ^ 9 + 1) (by omega)
      (by rw [getElem?_append_left (by simp; omega), getElem?_replicate, if_pos (by omega)])
      (by rw [getElem?_append_right (by simp)]; simp)
    omega
  · intro hsweep actions hsorted hfirst
    apply windowBound_limiterRun (hmax key) hsorted
    intro e' he'
    rw [hfirst] at he'
    exact some.inj he' ▸ hsweep

theorem slidingWindow_twenty_minutes : WindowBound 20 1200 "CT" (limiterRun (fun _ => 20) (fun _ => 1200)
    [.init (1200 * 10 ^ 9), .request "CT" 0, .sweep 1201, .request "CT" 1202]).answers :=
  (@slidingWindow_iff (fun _ => 20) (fun _ => 1200) (fun _ => by decide) "CT" (1200 * 10 ^ 9)).mpr (.inr (by decide)) _
    (by decide) rfl

/-- The sweep forgets a window that is longer than the expiration of the limiter. -/
theorem slidingWindow_sweep_counterexample :
    let actions := [.init (1200 * 10 ^ 9), .request "MRRL1" 0, .sweep 1201, .request "MRRL1" 1202]
    acceptedTimes (limiterRun (fun _ => 1) (fun _ => 3600) actions).answers "MRRL1" = [0, 1202] ∧
      ¬WindowBound 1 3600 "MRRL1" (limiterRun (fun _ => 1) (fun _ => 3600) actions).answers := by
  intro actions
  have haccepted : acceptedTimes (limiterRun (fun _ => 1) (fun _ => 3600) actions).answers "MRRL1" = [0, 1202] := by
    decide
  refine ⟨haccepted, fun h => ?_⟩
  have hspaced := h.spaced
  exact absurd (hspaced 0 1 0 1202 (by decide) rfl rfl) (by decide)

end LoveApi.Proofs
