import LoveApi.RateLimit

/-!
# The token bucket

Each allowed request takes `requested` tokens and the refill adds `rate` tokens for each second, so the tokens of a
bucket bound what it can still allow.
-/

namespace LoveApi.Proofs

open LoveApi List Option

variable {t u : RedisTime} {bucket : Option Bucket} {times : List RedisTime} {now : Int} {b : Bucket}

lemma floor_exact {t : RedisTime} : ⌊t.exact⌋ = t.seconds := by
  have hmicro : (t.microseconds : ℚ) < 1000000 := by exact_mod_cast t.microseconds.isLt
  have hpos : (0 : ℚ) ≤ t.microseconds := Nat.cast_nonneg _
  rw [Int.floor_eq_iff, RedisTime.exact]
  constructor
  · linarith [div_nonneg hpos (show (0 : ℚ) ≤ 1000000 by norm_num)]
  · linarith [(div_lt_one (show (0 : ℚ) < 1000000 by norm_num)).mpr hmicro]

lemma seconds_mono (h : t.exact ≤ u.exact) : t.seconds ≤ u.seconds := by
  rw [← floor_exact, ← floor_exact]
  exact Int.floor_mono h

lemma seconds_add_le {d : Int} (h : t.exact + d ≤ u.exact) : t.seconds + d ≤ u.seconds := by
  rw [← floor_exact, ← floor_exact, ← Int.floor_add_intCast]
  exact Int.floor_mono h

/-- When requests were allowed. -/
def allowedTimes (config : LimiterConfig) (bucket : Option Bucket) (times : List RedisTime) : List RedisTime :=
  ((times.zip (rateLimitRun config bucket times).1).filter Prod.snd).map Prod.fst

section Run

variable {config : LimiterConfig}

lemma rateLimitRun_cons : rateLimitRun config bucket (t :: times) = ((rateLimit config t.seconds bucket).1 ::
      (rateLimitRun config (some (rateLimit config t.seconds bucket).2) times).1,
      (rateLimitRun config (some (rateLimit config t.seconds bucket).2) times).2) := rfl

lemma allowedTimes_cons : allowedTimes config bucket (t :: times) =
    (if (rateLimit config t.seconds bucket).1 then [t] else []) ++
      allowedTimes config (some (rateLimit config t.seconds bucket).2) times := by
  rw [allowedTimes, rateLimitRun_cons, zip_cons_cons, filter_cons]
  split <;> rfl

lemma allowedTimes_subset : allowedTimes config bucket times ⊆ times := by
  intro t ht
  obtain ⟨⟨u, ok⟩, hmem, rfl⟩ := mem_map.mp ht
  exact (of_mem_zip (mem_of_mem_filter hmem)).1

lemma drop_rateLimitRun (k : Nat) : (rateLimitRun config bucket times).1.drop k =
    (rateLimitRun config (rateLimitRun config bucket (times.take k)).2 (times.drop k)).1 := by
  induction times generalizing bucket k with
  | nil => cases k <;> rfl
  | cons t times ih =>
    cases k with
    | zero => rfl
    | succ k => exact ih k

lemma lastTime_rateLimit : (rateLimit config now bucket).2.lastTime = now := by
  unfold rateLimit
  dsimp only
  split <;> rfl

lemma tokens_rateLimit :
    (rateLimit config now bucket).2.tokens + (if (rateLimit config now bucket).1 then config.requested else 0) =
      config.refill now bucket := by
  unfold rateLimit
  dsimp only
  split
  · exact Int.sub_add_cancel _ _
  · exact Int.add_zero _

lemma allowed_rateLimit : (rateLimit config now bucket).1 = decide (config.refill now bucket ≥ config.requested) := by
  unfold rateLimit
  dsimp only
  split
  · next h => exact (decide_eq_true h).symm
  · next h => exact (decide_eq_false h).symm

lemma lastTime_mem (h : (rateLimitRun config none times).2 = some b) : ∃ t ∈ times, t.seconds = b.lastTime := by
  suffices hrun : ∀ bucket : Option Bucket, (rateLimitRun config bucket times).2 = some b →
      bucket = some b ∨ ∃ t ∈ times, t.seconds = b.lastTime by
    rcases hrun none h with hnone | hmem
    · cases hnone
    · exact hmem
  clear h
  induction times with
  | nil => exact fun bucket h => .inl h
  | cons t times ih =>
    intro bucket h
    rw [rateLimitRun_cons] at h
    rcases ih _ h with hlast | ⟨u, hu, hseconds⟩
    · refine .inr ⟨t, mem_cons_self, ?_⟩
      rw [← some.inj hlast, lastTime_rateLimit]
    · exact .inr ⟨u, mem_cons_of_mem _ hu, hseconds⟩

end Run

/-! ### The parameters of the handler -/

section

variable {N D : Int}

def WithinCapacity (N D : Int) (bucket : Option Bucket) : Prop :=
  ∀ b ∈ bucket, 0 ≤ b.tokens ∧ b.tokens ≤ N * D

def NotAhead (bucket : Option Bucket) (times : List RedisTime) : Prop :=
  ∀ b ∈ bucket, ∀ t ∈ times, b.lastTime ≤ t.seconds

lemma withinCapacity_none : WithinCapacity N D none := by
  rintro _ ⟨⟩

lemma notAhead_none {times : List RedisTime} : NotAhead none times := by
  rintro _ ⟨⟩

variable (hN : 1 ≤ N)

include hN

lemma refill_bounds (hD : 1 ≤ D) (hb : WithinCapacity N D bucket) (hnow : ∀ b ∈ bucket, b.lastTime ≤ now) :
    0 ≤ (totalConfig N D).refill now bucket ∧ (totalConfig N D).refill now bucket ≤ N * D := by
  have hcapacity : 0 ≤ N * D := Int.mul_nonneg (by omega) (by omega)
  cases bucket with
  | none => exact ⟨hcapacity, le_rfl⟩
  | some b =>
    obtain ⟨htokens, -⟩ := hb b rfl
    have helapsed : 0 ≤ (now - b.lastTime) * N :=
      Int.mul_nonneg (Int.sub_nonneg_of_le (hnow b rfl)) (by omega)
    exact ⟨le_min hcapacity (Int.add_nonneg htokens helapsed), min_le_left _ _⟩

lemma withinCapacity_rateLimit (hD : 1 ≤ D) (hb : WithinCapacity N D bucket) {now : Int}
    (hnow : ∀ b ∈ bucket, b.lastTime ≤ now) :
    WithinCapacity N D (some (rateLimit (totalConfig N D) now bucket).2) := by
  obtain ⟨hlow, hhigh⟩ := refill_bounds hN hD hb hnow
  intro b hsome
  rw [← some.inj hsome]
  have htokens := @tokens_rateLimit bucket now (totalConfig N D)
  rw [allowed_rateLimit] at htokens
  have hrequested : (totalConfig N D).requested = D := rfl
  split at htokens
  · next hok =>
    have := of_decide_eq_true hok
    omega
  · omega

omit hN in
lemma notAhead_rateLimit (hsorted : (t :: times).Pairwise (·.exact ≤ ·.exact)) :
    NotAhead (some (rateLimit (totalConfig N D) t.seconds bucket).2) times := by
  intro b hsome u hu
  rw [← some.inj hsome, lastTime_rateLimit]
  exact seconds_mono (rel_of_pairwise_cons hsorted hu)

lemma withinCapacity_run (hD : 1 ≤ D) (hsorted : times.Pairwise (·.exact ≤ ·.exact))
    (hb : WithinCapacity N D bucket) (hahead : NotAhead bucket times) :
    WithinCapacity N D (rateLimitRun (totalConfig N D) bucket times).2 := by
  induction times generalizing bucket with
  | nil => exact hb
  | cons t times ih =>
    exact ih hsorted.of_cons
      (withinCapacity_rateLimit hN hD hb fun b hmem => hahead b hmem t mem_cons_self) (notAhead_rateLimit hsorted)

/-- The requests that are allowed between two times take at most the tokens that the bucket can have until then. -/
lemma allowed_between_le (hD : 1 ≤ D) {lo hi : Int} (hlohi : lo ≤ hi) {p : RedisTime → Bool}
    (hp : ∀ t, p t → lo ≤ t.seconds ∧ t.seconds ≤ hi) (hsorted : times.Pairwise (·.exact ≤ ·.exact))
    (hb : WithinCapacity N D bucket) (hahead : NotAhead bucket times) :
    D * (allowedTimes (totalConfig N D) bucket times).countP p ≤ N * D + N * (hi - lo) ∧ ∀ b ∈ bucket, b.lastTime ≤ hi →
      D * (allowedTimes (totalConfig N D) bucket times).countP p ≤ b.tokens + N * (hi - b.lastTime) := by
  have hspan {x : Int} (hx : x ≤ hi) : 0 ≤ N * (hi - x) := Int.mul_nonneg (by omega) (by omega)
  have hnonneg : 0 ≤ N * D + N * (hi - lo) ∧ ∀ b ∈ bucket, b.lastTime ≤ hi → 0 ≤ b.tokens + N * (hi - b.lastTime) :=
    ⟨Int.add_nonneg (Int.mul_nonneg (by omega) (by omega)) (hspan hlohi),
      fun b hmem hle => Int.add_nonneg (hb b hmem).1 (hspan hle)⟩
  induction times generalizing bucket with
  | nil => simpa [allowedTimes] using hnonneg
  | cons t times ih =>
    rcases le_or_gt t.seconds hi with hle | hgt
    · have hlast : ∀ b ∈ bucket, b.lastTime ≤ t.seconds := fun b hmem => hahead b hmem t mem_cons_self
      have hwithin := withinCapacity_rateLimit hN hD hb hlast
      obtain ⟨hall, htail⟩ := ih hsorted.of_cons hwithin (notAhead_rateLimit hsorted) ⟨hnonneg.1, fun b hmem hle =>
        Int.add_nonneg (hwithin b hmem).1 (hspan hle)⟩
      have hrest := htail _ rfl (by rwa [lastTime_rateLimit])
      have hhead : D * ((if (rateLimit (totalConfig N D) t.seconds bucket).1 then [t] else []).countP p : Int) +
          (rateLimit (totalConfig N D) t.seconds bucket).2.tokens ≤ (totalConfig N D).refill t.seconds bucket := by
        rw [← tokens_rateLimit, add_comm, show (totalConfig N D).requested = D from rfl]
        split <;> cases p t <;> simp <;> omega
      rw [lastTime_rateLimit] at hrest
      rw [allowedTimes_cons, countP_append]
      push_cast
      constructor
      · rcases le_or_gt lo t.seconds with hlo | hlo
        · have hrefill := (refill_bounds hN hD hb hlast).2
          have hlater : N * (hi - t.seconds) ≤ N * (hi - lo) := Int.mul_le_mul_of_nonneg_left (by omega) (by omega)
          linarith
        · have hpt : ¬p t := fun h => by have := hp t h; omega
          split <;> simpa [hpt] using hall
      · rintro b rfl -
        have hrefill : (totalConfig N D).refill t.seconds (some b) ≤ b.tokens + (t.seconds - b.lastTime) * N :=
          min_le_right _ _
        linarith
    · -- The times do not decrease, so none of them is counted.
      have hnone : (allowedTimes (totalConfig N D) bucket (t :: times)).countP p = 0 := by
        rw [countP_eq_zero]
        intro u hu hpu
        have hu' := (hp u hpu).2
        rcases mem_cons.mp (allowedTimes_subset hu) with rfl | hmem
        · omega
        · have := seconds_mono (rel_of_pairwise_cons hsorted hmem)
          omega
      simpa [hnone] using hnonneg

lemma take_allowed (hD : 1 ≤ D) {m : Nat} (hm : m ≤ N) (hsorted : times.Pairwise (·.exact ≤ ·.exact))
    (htokens : ∀ t ∈ times, m * D ≤ (totalConfig N D).refill t.seconds bucket) :
    ∀ ok ∈ (rateLimitRun (totalConfig N D) bucket times).1.take m, ok = true := by
  induction m generalizing bucket times with
  | zero => simp
  | succ m ih =>
    cases times with
    | nil => simp [rateLimitRun]
    | cons t times =>
      have hfirst := htokens t mem_cons_self
      push_cast at hfirst hm
      have hleft : (0 : Int) ≤ m * D := Int.mul_nonneg (by omega) (by omega)
      have hallowed : (rateLimit (totalConfig N D) t.seconds bucket).1 = true := by
        rw [allowed_rateLimit]
        exact decide_eq_true (show D ≤ _ by linarith)
      have hbalance := @tokens_rateLimit bucket t.seconds (totalConfig N D)
      rw [hallowed, if_pos rfl, show (totalConfig N D).requested = D from rfl] at hbalance
      rw [rateLimitRun_cons, take_succ_cons, hallowed]
      refine forall_mem_cons.mpr ⟨rfl, ih (by omega) hsorted.of_cons fun u hu => ?_⟩
      have hcapacity : (m : Int) * D ≤ N * D := Int.mul_le_mul_of_nonneg_right (by omega) (by omega)
      have helapsed : 0 ≤ (u.seconds - (rateLimit (totalConfig N D) t.seconds bucket).2.lastTime) *
          (totalConfig N D).rate := by
        rw [lastTime_rateLimit]
        have := seconds_mono (rel_of_pairwise_cons hsorted hu)
        exact Int.mul_nonneg (by omega) (show 0 ≤ N by omega)
      exact le_min hcapacity (by linarith)

lemma refill_idle (hb : WithinCapacity N D (some b)) (hidle : b.lastTime + D ≤ now) :
    (totalConfig N D).refill now (some b) = N * D := by
  have helapsed : D * N ≤ (now - b.lastTime) * N := Int.mul_le_mul_of_nonneg_right (by omega) (by omega)
  have htokens := (hb b rfl).1
  refine min_eq_left (show N * D ≤ b.tokens + (now - b.lastTime) * N from ?_)
  linarith

lemma allowed_seconds_le (hD : 1 ≤ D) (hsorted : times.Pairwise (·.exact ≤ ·.exact)) {a b : Int}
    {p : RedisTime → Bool} (hp : ∀ t, p t → a ≤ t.seconds ∧ t.seconds ≤ b) {d : ℚ} (hd : 0 ≤ d) (hab : b - a ≤ d) :
    ((allowedTimes (totalConfig N D) none times).countP p : ℚ) ≤ N + N * d / D := by
  have hN' : (1 : ℚ) ≤ N := by exact_mod_cast hN
  have hD' : (1 : ℚ) ≤ D := by exact_mod_cast hD
  have hzero : 0 ≤ N * d / (D : ℚ) := div_nonneg (mul_nonneg (by linarith) hd) (by linarith)
  rcases le_or_gt a b with hle | hlt
  · have hbound := (allowed_between_le hN hD hle hp hsorted withinCapacity_none notAhead_none).1
    have hboundQ : (D : ℚ) * (allowedTimes (totalConfig N D) none times).countP p ≤ N * D + N * (b - a) := by
      exact_mod_cast hbound
    have hscaled := mul_le_mul_of_nonneg_left hab (show (0 : ℚ) ≤ N by linarith)
    rw [← sub_le_iff_le_add', le_div_iff₀ (by linarith)]
    linarith
  · have hnone : (allowedTimes (totalConfig N D) none times).countP p = 0 := by
      rw [countP_eq_zero]
      intro t _ ht
      have := hp t ht
      omega
    rw [hnone]
    linarith

omit hN

/-- The tokens stay between none and the capacity. In `d` seconds, as the script reads the time, at most
`N + N * d / D` requests are allowed, and in a time interval of length `d` at most `N + N * ⌈d⌉ / D`. After `D` seconds
without a request the next `N` are allowed. -/
theorem tokenBucket_bounds (hN : 1 ≤ N) (hD : 1 ≤ D) (hsorted : times.Pairwise (·.exact ≤ ·.exact)) :
    (∀ k b, (rateLimitRun (totalConfig N D) none (times.take k)).2 = some b → 0 ≤ b.tokens ∧ b.tokens ≤ N * D) ∧
    (∀ a d : ℚ, 0 ≤ d →
      ((allowedTimes (totalConfig N D) none times).countP fun t => decide (a ≤ t.seconds ∧ t.seconds ≤ a + d) : ℚ) ≤
        N + N * d / D) ∧
    (∀ a d : ℚ, 0 ≤ d →
      ((allowedTimes (totalConfig N D) none times).countP fun t => decide (a ≤ t.exact ∧ t.exact ≤ a + d) : ℚ) ≤
        N + N * ⌈d⌉ / D) ∧
    ∀ k, (∀ t ∈ times.take k, ∀ u ∈ times.drop k, t.exact + D ≤ u.exact) →
      ∀ ok ∈ ((rateLimitRun (totalConfig N D) none times).1.drop k).take N.toNat, ok = true := by
  have hwithin : ∀ k, WithinCapacity N D (rateLimitRun (totalConfig N D) none (times.take k)).2 := fun k =>
    withinCapacity_run hN hD hsorted.take withinCapacity_none (notAhead_none)
  refine ⟨fun k b hb => hwithin k b hb, fun a d hd => ?_, fun a d hd => ?_, fun k hidle => ?_⟩
  · refine allowed_seconds_le hN hD hsorted (a := ⌈a⌉) (b := ⌊a + d⌋) (fun t ht => ?_) hd ?_
    · obtain ⟨hlow, hhigh⟩ := of_decide_eq_true ht
      exact ⟨Int.ceil_le.mpr hlow, Int.le_floor.mpr hhigh⟩
    · linarith [Int.le_ceil a, Int.floor_le (a + d)]
  · refine allowed_seconds_le hN hD hsorted (a := ⌊a⌋) (b := ⌊a + d⌋) (fun t ht => ?_)
      (by exact_mod_cast Int.ceil_nonneg hd) ?_
    · obtain ⟨hlow, hhigh⟩ := of_decide_eq_true ht
      rw [← floor_exact]
      exact ⟨Int.floor_mono hlow, Int.floor_mono hhigh⟩
    · have hfloor : ⌊a + d⌋ ≤ ⌊a⌋ + ⌈d⌉ := by
        rw [← Int.floor_add_intCast]
        exact Int.floor_mono (by linarith [Int.le_ceil d])
      have : ((⌊a + d⌋ : Int) : ℚ) ≤ ⌊a⌋ + ⌈d⌉ := by exact_mod_cast hfloor
      linarith
  · rw [drop_rateLimitRun]
    apply take_allowed hN hD (by omega) hsorted.drop
    intro u hu
    have hfull : (totalConfig N D).refill u.seconds (rateLimitRun (totalConfig N D) none (times.take k)).2 = N * D := by
      cases hb : (rateLimitRun (totalConfig N D) none (times.take k)).2 with
      | none => rfl
      | some b =>
        obtain ⟨t, ht, hlast⟩ := lastTime_mem hb
        exact refill_idle hN (hb ▸ hwithin k) (hlast ▸ seconds_add_le (hidle t ht u hu))
    rw [hfull, Int.toNat_of_nonneg (by omega)]

theorem tokenBucket_two_per_minute : ((allowedTimes (totalConfig 2 60) none [⟨0, 0⟩, ⟨0, 5⟩, ⟨1, 0⟩, ⟨30, 0⟩]).countP
        fun t => decide ((0 : ℚ) ≤ t.exact ∧ t.exact ≤ 0 + 30) : ℚ) ≤ (2 : Int) + (2 : Int) * ⌈(30 : ℚ)⌉ / (60 : Int) :=
  (tokenBucket_bounds (by decide) (by decide) (by decide +kernel)).2.2.1 0 30 (by norm_num)

/-- Two requests 0.2 seconds apart each get a token of one per second, because only whole seconds count. -/
theorem tokenBucket_subsecond_counterexample :
    let times : List RedisTime := [⟨0, 900000⟩, ⟨1, 100000⟩]
    times.Pairwise (·.exact ≤ ·.exact) ∧ ¬((allowedTimes (totalConfig 1 1) none times).countP
          fun t => decide ((9 / 10 : ℚ) ≤ t.exact ∧ t.exact ≤ 9 / 10 + 2 / 10) : ℚ) ≤ 1 + 1 * (2 / 10) / 1 := by
  decide +kernel

end

end LoveApi.Proofs
