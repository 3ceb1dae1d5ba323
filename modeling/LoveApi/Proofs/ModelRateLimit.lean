import LoveApi.Proofs.RateLimit

/-!
# The limit of successful model requests

Each of the two handlers is compared with a law over the history of the user.
-/

namespace LoveApi.Proofs

open Program Go List Option

variable {userId : Int} {key : String}

variable {settings : RateLimitSettings} {n d : Int} {now later : Time} {history : List Time} {user : RedisUser}
  {r : TimedRequest} {requests : List TimedRequest}

/-- A request is rejected if there is a limit and the last successful requests that it allows are all in the window. -/
def successVerdicts (n d : Int) : List Time → List TimedRequest → List RateLimitVerdict
  | _, [] => []
  | history, r :: requests =>
    if 0 < n ∧ Exhausted n.toNat d r.start history then .tooManyRequests :: successVerdicts n d history requests
    else .admitted :: successVerdicts n d (if r.success then history ++ [r.finish] else history) requests

/-- A request is rejected if the last admitted requests, as many as there are places, are all in the window. -/
def admissionVerdicts (n d : Int) : List Time → List TimedRequest → List RateLimitVerdict
  | _, [] => []
  | history, r :: requests =>
    if Exhausted (slots n) d r.start history then .tooManyRequests :: admissionVerdicts n d history requests
    else .admitted :: admissionVerdicts n d (history ++ [r.start]) requests

/-! ### Redis -/

structure ListTracks (n : Nat) (d : Int) (now : Time) (history : List Time) (list : Option RedisList) : Prop where
  tracks : Tracks n d now history (liveEntries now list).reverse
  expires : ∀ l ∈ list, ∀ t ∈ history, t + d ≤ l.expireAt

section Redis

variable {n : Nat} {seconds : Int} {entries : List Time} {list : Option RedisList}

lemma ListTracks.none : ListTracks n d now [] none :=
  ⟨Tracks.nil, by rintro _ ⟨⟩⟩

lemma ListTracks.mono (h : ListTracks n d now history list) (hle : now ≤ later) :
    ListTracks n d later history list := by
  refine ⟨?_, h.expires⟩
  have htracks := h.tracks.mono hle
  cases list with
  | none => exact htracks
  | some l =>
    by_cases hlive : later < l.expireAt
    · have hnow : now < l.expireAt := hle.trans_lt hlive
      rw [liveEntries, if_pos hnow] at htracks
      rwa [liveEntries, if_pos hlive]
    · rw [liveEntries, if_neg hlive]
      exact htracks.clear fun t ht => (h.expires l rfl t ht).trans (not_lt.mp hlive)

lemma listTracks_expire (h : Tracks n d now history entries.reverse) (hd : d ≤ seconds) :
    ListTracks n d now history (expire now seconds entries) := by
  unfold expire
  split
  · next hgone =>
    refine ⟨?_, by rintro _ ⟨⟩⟩
    rcases hgone with rfl | hseconds
    · exact h
    · -- the window is empty
      apply h.clear
      intro t ht
      have := h.past t ht
      omega
  · next halive =>
    push Not at halive
    refine ⟨?_, ?_⟩
    · rwa [liveEntries, if_pos (lt_add_of_pos_right now halive.2)]
    · rintro _ ⟨⟩ t ht
      exact add_le_add (h.past t ht) hd

lemma tracks_push (h : Tracks n d now history entries.reverse) (hn : 0 < n) :
    Tracks n d now (history ++ [now]) (ltrim (now :: entries) (n - 1)).reverse := by
  have htrim : ltrim (now :: entries) (n - 1) = now :: entries.take (n - 1) := by
    obtain ⟨m, rfl⟩ := Nat.exists_eq_succ_of_ne_zero hn.ne'
    have hstop : (((m.succ : Nat) : Int) - 1 + 1).toNat = m + 1 := by omega
    rw [ltrim, if_pos (by omega), hstop, take_succ_cons]
    rfl
  have hlen := h.length_le
  rw [length_reverse] at hlen
  rw [htrim, reverse_cons]
  rcases Nat.lt_or_ge entries.length n with hlt | hge
  · rw [take_of_length_le (by omega)]
    exact h.push (by rwa [length_reverse])
  · have hfull : entries.length = n := le_antisymm hlen hge
    obtain ⟨init, oldest, rfl⟩ := eq_nil_or_concat' entries |>.resolve_left (by rintro rfl; simp at hge; omega)
    rw [length_append, length_singleton] at hfull
    rw [take_left' (by omega)]
    rw [reverse_append] at h
    exact h.replace (by simpa using hfull)

lemma checkRedisRateLimit_eq (hn : 0 < settings.successMaxCount)
    (hwindow : settings.duration ≤ settings.durationMinutes * 60)
    (h : ListTracks settings.successMaxCount.toNat settings.duration now history list) :
    ∃ list', ListTracks settings.successMaxCount.toNat settings.duration now history list' ∧
      checkRedisRateLimit settings now list =
        (if Exhausted settings.successMaxCount.toNat settings.duration now history then .tooManyRequests else .admitted,
          list') := by
  unfold checkRedisRateLimit
  rw [if_neg hn.ne']
  dsimp only
  split
  · next hlt =>
    have hroom := h.tracks.not_exhausted_of_short (by rw [length_reverse]; omega)
    exact ⟨list, h, by rw [if_neg hroom]⟩
  · next hge =>
    have htracks := h.tracks
    have hlen := htracks.length_le
    rw [length_reverse] at hlen
    have hlast : (liveEntries now list).getLast? = (liveEntries now list).reverse.head? := head?_reverse.symm
    rw [hlast]
    cases hqueue : (liveEntries now list).reverse with
    | nil =>
      have hzero := congrArg length hqueue
      rw [length_reverse, length_nil] at hzero
      omega
    | cons oldest rest =>
      have hfull : settings.successMaxCount.toNat = (oldest :: rest).length := by
        rw [← hqueue, length_reverse]
        omega
      rw [head?_cons]
      dsimp only
      split
      · next hyoung =>
        have hexhausted := htracks.exhausted (by rw [length_reverse]; omega)
          (by rw [hqueue]; rfl) (sub_lt_iff_lt_add'.mp hyoung)
        exact ⟨_, listTracks_expire htracks hwindow, by rw [if_pos hexhausted]⟩
      · next hold =>
        rw [hqueue] at htracks
        have hroom := htracks.not_exhausted_of_old hfull (le_sub_iff_add_le'.mp (not_lt.mp hold))
        exact ⟨list, h, by rw [if_neg hroom]⟩

lemma listTracks_record (hn : 0 < settings.successMaxCount)
    (hwindow : settings.duration ≤ settings.durationMinutes * 60)
    (h : ListTracks settings.successMaxCount.toNat settings.duration now history list) :
    ListTracks settings.successMaxCount.toNat settings.duration now (history ++ [now])
      (recordRedisRequest settings now list) := by
  unfold recordRedisRequest
  rw [if_neg hn.ne']
  refine listTracks_expire ?_ hwindow
  have hpush := tracks_push h.tracks (by omega)
  rwa [Int.toNat_of_nonneg hn.le] at hpush

lemma redisRateLimitHandler_admitted (htotal : settings.totalMaxCount = 0)
    (hcheck : checkRedisRateLimit settings r.start user.successes = (.admitted, list)) :
    redisRateLimitHandler settings user r =
      (.admitted,
        { user with successes := if r.success then recordRedisRequest settings r.finish list else list }) := by
  unfold redisRateLimitHandler
  rw [hcheck]
  dsimp only
  rw [htotal, if_neg (lt_irrefl _)]
  cases r.success <;> rfl

lemma redisVerdicts_unlimited (htotal : settings.totalMaxCount = 0) (hn : settings.successMaxCount = 0)
    (user : RedisUser) (history : List Time) (requests : List TimedRequest) :
    redisVerdicts settings user requests =
      successVerdicts settings.successMaxCount settings.duration history requests := by
  induction requests generalizing user history with
  | nil => rfl
  | cons r requests ih =>
    have hcheck : checkRedisRateLimit settings r.start user.successes = (.admitted, user.successes) := if_pos hn
    rw [redisVerdicts, successVerdicts, if_neg (fun hboth => by omega), redisRateLimitHandler_admitted htotal hcheck]
    exact congrArg _ (ih _ _)

lemma redisVerdicts_eq (htotal : settings.totalMaxCount = 0) (hn : 0 < settings.successMaxCount)
    (hwindow : settings.duration ≤ settings.durationMinutes * 60)
    (h : ListTracks settings.successMaxCount.toNat settings.duration now history user.successes)
    (hsorted : (requests.flatMap fun r => [r.start, r.finish]).Pairwise (· ≤ ·))
    (hnow : ∀ t ∈ requests.flatMap fun r => [r.start, r.finish], now ≤ t) :
    redisVerdicts settings user requests =
      successVerdicts settings.successMaxCount settings.duration history requests := by
  induction requests generalizing user now history with
  | nil => rfl
  | cons r requests ih =>
    rw [flatMap_cons, pairwise_append] at hsorted
    obtain ⟨hfirst, hrest, hbetween⟩ := hsorted
    have hstart : now ≤ r.start := hnow _ (by simp)
    have hfinish : r.start ≤ r.finish := by simpa using hfirst
    obtain ⟨list, hlist, hcheck⟩ := checkRedisRateLimit_eq hn hwindow (h.mono hstart)
    rw [redisVerdicts, successVerdicts]
    by_cases hexhausted : Exhausted settings.successMaxCount.toNat settings.duration r.start history
    · rw [if_pos hexhausted] at hcheck
      rw [if_pos (And.intro hn hexhausted), redisRateLimitHandler, hcheck]
      exact congrArg _ (ih hlist hrest fun t ht => hbetween r.start (by simp) t ht)
    · rw [if_neg hexhausted] at hcheck
      rw [if_neg fun hboth => hexhausted hboth.2, redisRateLimitHandler_admitted htotal hcheck]
      cases r.success with
      | true =>
        exact congrArg _ (ih (listTracks_record hn hwindow (hlist.mono hfinish)) hrest
          fun t ht => hbetween r.finish (by simp) t ht)
      | false => exact congrArg _ (ih hlist hrest fun t ht => hbetween r.start (by simp) t ht)

end Redis

/-! ### Memory -/

lemma checkKey_ne_successKey : checkKey userId ≠ successKey userId := by
  intro h
  have hlen := congrArg String.length h
  rw [checkKey, String.length_append] at hlen
  have : "_check".length = 6 := rfl
  omega

section Memory

variable {l l' : InMemoryRateLimiter} {allowed : Bool}

structure Admits (settings : RateLimitSettings) (userId : Int) (l : InMemoryRateLimiter) (now : Time)
    (history : List Time) : Prop where
  limits : Limits l (checkKey userId) settings.successMaxCount settings.duration now history
  nonempty : l.store.bind (· (successKey userId)) ≠ some []
  sweeps : l.store = none ∨ SweepsAfter l settings.duration

lemma Admits.mono (h : Admits settings userId l now history) (hle : now ≤ later) :
    Admits settings userId l later history :=
  ⟨h.limits.mono hle, h.nonempty, h.sweeps⟩

lemma Admits.init (h : Admits settings userId l now history)
    (hwindow : settings.duration ≤ settings.durationMinutes * 60) :
    Admits settings userId (l.init (settings.durationMinutes * 60 * 10 ^ 9)) now history ∧
      (l.init (settings.durationMinutes * 60 * 10 ^ 9)).store ≠ none := by
  refine ⟨⟨h.limits.congr bind_init, by rw [bind_init]; exact h.nonempty, .inr ?_⟩, ?_⟩
  · unfold InMemoryRateLimiter.init SweepsAfter
    cases hstore : l.store with
    | none =>
      dsimp only
      omega
    | some store =>
      rcases h.sweeps with hnone | hsweeps
      · rw [hstore] at hnone
        cases hnone
      · exact hsweeps
  · unfold InMemoryRateLimiter.init
    cases hstore : l.store with
    | none => simp
    | some store => simp [hstore]

lemma Admits.sweep (h : Admits settings userId l now history) :
    Admits settings userId (l.clearExpiredItems now) now history := by
  rcases h.sweeps with hnone | hsweeps
  · have hsame : (l.clearExpiredItems now).store = l.store := by
      unfold InMemoryRateLimiter.clearExpiredItems
      split <;> simp [hnone]
    refine ⟨h.limits.congr (by rw [hsame]), by rw [hsame]; exact h.nonempty, .inl (hsame.trans hnone)⟩
  · refine ⟨h.limits.sweep hsweeps, nonempty_clearExpiredItems h.nonempty, .inr ?_⟩
    unfold InMemoryRateLimiter.clearExpiredItems
    split
    · exact hsweeps
    · exact hsweeps

lemma nonempty_request (hne : l.store.bind (· key) ≠ some [])
    (hreq : l.request key n d now = some (allowed, l')) : l'.store.bind (· key) ≠ some [] := by
  obtain ⟨store, hstore, ⟨-, -, rfl⟩ | ⟨oldest, rest, -, -, ⟨-, -, rfl⟩ | ⟨-, -, rfl⟩⟩⟩ := request_cases hreq
  · simp [bind_setQueue]
  · simp [bind_setQueue]
  · exact hne

lemma memoryRateLimitHandler_eq (htotal : settings.totalMaxCount = 0) (hn : 0 ≤ settings.successMaxCount)
    (hwindow : settings.duration ≤ settings.durationMinutes * 60) (h : Admits settings userId l r.start history)
    (hfinish : r.start ≤ r.finish) :
    if Exhausted (slots settings.successMaxCount) settings.duration r.start history then
      ∃ l', memoryRateLimitHandler settings userId l r = some (.tooManyRequests, l') ∧
        Admits settings userId l' r.start history
    else
      ∃ l', memoryRateLimitHandler settings userId l r = some (.admitted, l') ∧
        Admits settings userId l' r.finish (history ++ [r.start]) := by
  obtain ⟨hinit, hstore⟩ := h.init hwindow
  unfold memoryRateLimitHandler
  simp only [htotal, gt_iff_lt, lt_irrefl, if_false, bind_eq_bind, bind_some, Bool.not_true, Bool.false_eq_true]
  set l₀ := l.init (settings.durationMinutes * 60 * 10 ^ 9)
  obtain ⟨⟨allowed, l₁⟩, hcheck⟩ :
      ∃ result, l₀.request (checkKey userId) settings.successMaxCount settings.duration r.start = some result :=
    request_isSome hn hstore hinit.limits.nonempty
  have hlimits := hinit.limits.request hcheck
  obtain ⟨hexpiration, hstore₁⟩ := expirationDuration_request hcheck
  have hsweeps : SweepsAfter l₁ settings.duration := by
    unfold SweepsAfter
    rw [hexpiration]
    exact hinit.sweeps.resolve_left hstore
  have hnonempty : l₁.store.bind (· (successKey userId)) ≠ some [] := by
    rw [bind_request_other (checkKey_ne_successKey).symm hcheck]
    exact hinit.nonempty
  rw [hcheck, bind_some]
  cases allowed with
  | false =>
    rw [if_pos (hinit.limits.exhausted_of_rejected hcheck)]
    exact ⟨l₁, rfl, hlimits, hnonempty, .inr hsweeps⟩
  | true =>
    rw [if_neg (hinit.limits.room_of_allowed hcheck)]
    cases hsuccess : r.success with
    | false => exact ⟨l₁, rfl, hlimits.mono hfinish, hnonempty, .inr hsweeps⟩
    | true =>
      obtain ⟨⟨recorded, l₂⟩, hrecord⟩ :
          ∃ result, l₁.request (successKey userId) settings.successMaxCount settings.duration r.finish = some result :=
        request_isSome hn hstore₁ hnonempty
      refine ⟨l₂, by simp [hrecord], (hlimits.congr (bind_request_other checkKey_ne_successKey hrecord)).mono hfinish,
        nonempty_request hnonempty hrecord, .inr ?_⟩
      unfold SweepsAfter
      rw [(expirationDuration_request hrecord).1]
      exact hsweeps

lemma memoryVerdicts_eq (htotal : settings.totalMaxCount = 0) (hn : 0 ≤ settings.successMaxCount)
    (hwindow : settings.duration ≤ settings.durationMinutes * 60) {actions : List HandlerAction}
    (h : Admits settings userId l now history) (hsorted : (actions.flatMap HandlerAction.times).Pairwise (· ≤ ·))
    (hnow : ∀ t ∈ actions.flatMap HandlerAction.times, now ≤ t) :
    memoryVerdicts settings userId l actions = (admissionVerdicts settings.successMaxCount settings.duration history
        (actions.filterMap HandlerAction.request?)).map some := by
  induction actions generalizing l now history with
  | nil => rfl
  | cons a actions ih =>
    rw [flatMap_cons, pairwise_append] at hsorted
    obtain ⟨hfirst, hrest, hbetween⟩ := hsorted
    cases a with
    | sweep t =>
      have hswept := (h.mono (hnow t (by simp [HandlerAction.times]))).sweep
      exact ih hswept hrest fun u hu => hbetween t (by simp [HandlerAction.times]) u hu
    | request r =>
      have hstart : now ≤ r.start := hnow _ (by simp [HandlerAction.times])
      have hfinish : r.start ≤ r.finish := by simpa [HandlerAction.times] using hfirst
      have hhandler := memoryRateLimitHandler_eq htotal hn hwindow (h.mono hstart) hfinish
      have hrequests : (HandlerAction.request r :: actions).filterMap HandlerAction.request? =
        r :: actions.filterMap HandlerAction.request? := rfl
      rw [hrequests, memoryVerdicts, admissionVerdicts]
      split at hhandler
      · next hexhausted =>
        obtain ⟨l', hverdict, hnext⟩ := hhandler
        rw [hverdict, if_pos hexhausted, map_cons]
        exact congrArg _ (ih hnext hrest fun u hu => hbetween r.start (by simp [HandlerAction.times]) u hu)
      · next hroom =>
        obtain ⟨l', hverdict, hnext⟩ := hhandler
        rw [hverdict, if_neg hroom, map_cons]
        exact congrArg _ (ih hnext hrest fun u hu => hbetween r.finish (by simp [HandlerAction.times]) u hu)

end Memory

/-! ### Agreement -/

lemma admissionVerdicts_eq_successVerdicts (hn : 0 < n) (h : ∀ r ∈ requests, r.success = true ∧ r.finish = r.start) :
    admissionVerdicts n d history requests = successVerdicts n d history requests := by
  have hslots : slots n = n.toNat := by
    unfold slots
    omega
  induction requests generalizing history with
  | nil => rfl
  | cons r requests ih =>
    obtain ⟨⟨hsuccess, hfinish⟩, hrest⟩ := forall_mem_cons.mp h
    rw [admissionVerdicts, successVerdicts, hslots]
    by_cases hexhausted : Exhausted n.toNat d r.start history
    · rw [if_pos hexhausted, if_pos ⟨hn, hexhausted⟩, ih hrest]
    · rw [if_neg hexhausted, if_neg fun hboth => hexhausted hboth.2, if_pos hsuccess, hfinish, ih hrest]

lemma exists_le_of_sorted {times : List Time} (h : times.Pairwise (· ≤ ·)) : ∃ now, ∀ t ∈ times, now ≤ t := by
  cases times with
  | nil => exact ⟨0, by simp⟩
  | cons first times => exact ⟨first, forall_mem_cons.mpr ⟨le_rfl, fun t => rel_of_pairwise_cons h⟩⟩

lemma requestTimes_sublist (actions : List HandlerAction) :
    ((actions.filterMap HandlerAction.request?).flatMap fun r => [r.start, r.finish]).Sublist
      (actions.flatMap HandlerAction.times) := by
  induction actions with
  | nil => exact List.Sublist.refl _
  | cons a actions ih =>
    cases a with
    | request r => exact (List.Sublist.refl [r.start, r.finish]).append ih
    | sweep now => exact ih.cons now

end LoveApi.Proofs
