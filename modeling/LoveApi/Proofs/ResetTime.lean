import LoveApi.Subscription
import LoveApi.Proofs.Calendar

/-!
# Reset times

The reset times of a plan after a given time form an increasing sequence that may end.
-/

namespace LoveApi.Proofs

open Go

variable {cfg : Config} {plan : SubscriptionPlan} {endTime now base t : Int} {fuel : Nat}

section Schedule

variable (cfg : Config) (plan : SubscriptionPlan) (endTime : Time)

inductive Scheduled : Int → Int → Prop
  | first {base : Int} (h : calcNextResetTime cfg base plan endTime ≠ zeroTime) :
    Scheduled base (calcNextResetTime cfg base plan endTime)
  | later {base t : Int} (h : calcNextResetTime cfg base plan endTime ≠ zeroTime)
    (ht : Scheduled (calcNextResetTime cfg base plan endTime) t) : Scheduled base t

end Schedule

section Loop

variable {advanced : Bool}

lemma lt_calcNextResetTime (h : calcNextResetTime cfg base plan endTime ≠ zeroTime) :
    base < calcNextResetTime cfg base plan endTime := by
  have hfits : ∀ next : Int, base < next →
      (if endTime ≠ zeroTime ∧ next > endTime then zeroTime else next) ≠ zeroTime →
      base < if endTime ≠ zeroTime ∧ next > endTime then zeroTime else next := by
    intro next hlt hne
    split at hne
    · exact absurd rfl hne
    · next hend =>
      rw [if_neg hend]
      exact hlt
  have hday := lt_firstOfNextMonth (localDay cfg.utcOffset base)
  unfold calcNextResetTime at h ⊢
  split at h
  · apply hfits _ _ h
    unfold startOfDay localDay secondsPerDay
    omega
  · apply hfits _ _ h
    have hweek : weekday (localDay cfg.utcOffset base) ≤ 6 := by
      unfold weekday
      omega
    unfold startOfDay localDay secondsPerDay at *
    split <;> omega
  · apply hfits _ _ h
    unfold startOfDay localDay secondsPerDay at *
    omega
  · next hcustom =>
    by_cases hs : plan.quotaResetCustomSeconds ≤ 0
    · rw [if_pos hs] at h
      exact absurd rfl h
    · rw [if_neg hs] at h ⊢
      apply hfits _ _ h
      omega
  · exact absurd rfl h

lemma Scheduled.lt (h : Scheduled cfg plan endTime base t) : base < t := by
  induction h with
  | first h => exact lt_calcNextResetTime h
  | later h _ ih =>
    have := lt_calcNextResetTime h
    omega

lemma advanceReset_spec (base : Int) (advanced : Bool) (hfuel : (now - base).toNat ≤ fuel) :
    ∃ (b n : Int) (a : Bool),
      advanceReset cfg plan endTime now fuel base (calcNextResetTime cfg base plan endTime) advanced = (b, n, a) ∧
      n = calcNextResetTime cfg b plan endTime ∧ (n = zeroTime ∨ now < n) ∧
      (b = base ∧ a = advanced ∨ Scheduled cfg plan endTime base b ∧ b ≤ now ∧ a = true) := by
  induction fuel generalizing base advanced with
  | zero =>
    refine ⟨base, _, advanced, rfl, rfl, ?_, .inl ⟨rfl, rfl⟩⟩
    by_cases hz : calcNextResetTime cfg base plan endTime = zeroTime
    · exact .inl hz
    · have := lt_calcNextResetTime hz
      omega
  | succ fuel ih =>
    unfold advanceReset
    by_cases hc : calcNextResetTime cfg base plan endTime ≠ zeroTime ∧ ¬calcNextResetTime cfg base plan endTime > now
    · rw [if_pos hc]
      have hlt := lt_calcNextResetTime hc.1
      have hle : calcNextResetTime cfg base plan endTime ≤ now := Int.not_lt.mp hc.2
      obtain ⟨b, n, a, heq, hn, hend, hb⟩ := ih (calcNextResetTime cfg base plan endTime) true (by omega)
      refine ⟨b, n, a, heq, hn, hend, .inr ?_⟩
      rcases hb with ⟨hb, rfl⟩ | ⟨hb, hb', rfl⟩
      · rw [hb]
        exact ⟨.first hc.1, hle, rfl⟩
      · exact ⟨.later hc.1 hb, hb', rfl⟩
    · rw [if_neg hc]
      refine ⟨base, _, advanced, rfl, rfl, ?_, .inl ⟨rfl, rfl⟩⟩
      by_cases hz : calcNextResetTime cfg base plan endTime = zeroTime
      · exact .inl hz
      · exact .inr (by simpa [hz] using hc)

lemma advanceReset_eq (ht : Scheduled cfg plan endTime base t) (hle : t ≤ now)
    (hlt : now < calcNextResetTime cfg t plan endTime) (hfuel : (now - base).toNat ≤ fuel) :
    advanceReset cfg plan endTime now fuel base (calcNextResetTime cfg base plan endTime) advanced =
      (t, calcNextResetTime cfg t plan endTime, true) := by
  have hbase := ht.lt
  cases fuel with
  | zero => omega
  | succ fuel =>
    induction ht generalizing fuel advanced with
    | @first base hz =>
      unfold advanceReset
      rw [if_pos ⟨hz, Int.not_lt.mpr (by omega)⟩]
      cases fuel with
      | zero => rfl
      | succ fuel =>
        unfold advanceReset
        rw [if_neg fun h => h.2 hlt]
    | @later base t hz ht ih =>
      have hnext := lt_calcNextResetTime hz
      have hbase := ht.lt
      unfold advanceReset
      rw [if_pos ⟨hz, Int.not_lt.mpr (by omega)⟩]
      cases fuel with
      | zero => omega
      | succ fuel => exact ih hle hlt hbase fuel (by omega)

end Loop

def periodStart (sub : UserSubscription) : Int := sub.lastResetTime.getD sub.startTime

section Reset

variable {sub sub' : UserSubscription}

lemma dueReset_cases (h : dueReset cfg sub plan now = some sub') : (∃ base : Int, sub' = { sub with
        amountUsed := 0
        used_nonneg := Int.le_refl 0
        lastResetTime := some base
        nextResetTime := some (calcNextResetTime cfg base plan sub.endTime) } ∧
      Scheduled cfg plan sub.endTime (periodStart sub) base ∧ base ≤ now) ∨
    (∃ next : Int, sub' = { sub with nextResetTime := some next, lastResetTime := some (periodStart sub) } ∧
      sub.nextResetTime = none ∧ now < next) := by
  unfold dueReset at h
  by_cases hlater : sub.nextResetTime.any (· > now)
  · simp [hlater] at h
  rw [if_neg hlater] at h
  by_cases hnever : normalizeResetPeriod plan.quotaResetPeriod = "never"
  · simp [hnever] at h
  rw [if_neg hnever] at h
  obtain ⟨b, n, a, heq, hn, hend, hb⟩ := @advanceReset_spec cfg plan sub.endTime now _ (periodStart sub) false
    (le_refl _)
  unfold periodStart at heq hb
  simp only [heq] at h
  rcases hb with ⟨rfl, rfl⟩ | ⟨hb, hle, rfl⟩
  · rw [if_neg Bool.false_ne_true] at h
    split at h
    · next hnone => exact .inr ⟨n, (Option.some.inj h).symm, hnone.1, hend.resolve_left hnone.2⟩
    · cases h
  · rw [if_pos rfl, hn] at h
    exact .inl ⟨b, (Option.some.inj h).symm, hb, hle⟩

/-- A reset time has passed since the last reset, and the one after it lies ahead. -/
def Resettable (cfg : Config) (plan : SubscriptionPlan) (now : Int) (sub : UserSubscription) : Prop :=
  ∃ t, Scheduled cfg plan sub.endTime (periodStart sub) t ∧ t ≤ now ∧
    now < calcNextResetTime cfg t plan sub.endTime

/-- A reset takes a due row out of the due range exactly if the plan's schedule has a reset time to
move on to. -/
theorem dueForReset_of_dueReset (hdue : sub.dueForReset now = true) :
    ((dueReset cfg sub plan now).getD sub).dueForReset now = false ↔ Resettable cfg plan now sub := by
  constructor
  · intro h
    cases hreset : dueReset cfg sub plan now with
    | none =>
      rw [hreset, Option.getD_none, hdue] at h
      cases h
    | some sub' =>
      rw [hreset] at h
      rcases dueReset_cases hreset with ⟨base, rfl, hbase, hle⟩ | ⟨_, -, hnone, -⟩
      · exact ⟨base, hbase, hle, by simpa [UserSubscription.dueForReset] using h⟩
      · rw [UserSubscription.dueForReset, hnone] at hdue
        cases hdue
  · rintro ⟨t, ht, hle, hlt⟩
    have hfirst : calcNextResetTime cfg (periodStart sub) plan sub.endTime ≠ zeroTime := by
      cases ht with
      | first h => exact h
      | later h _ => exact h
    have hnever : normalizeResetPeriod plan.quotaResetPeriod ≠ "never" :=
      fun h => hfirst (by rw [calcNextResetTime, h]; rfl)
    have hlater : ¬sub.nextResetTime.any (· > now) := by
      unfold UserSubscription.dueForReset at hdue
      cases hn : sub.nextResetTime with
      | none => simp
      | some n => simpa [hn] using hdue
    have heq := @advanceReset_eq cfg plan sub.endTime now (periodStart sub) t _ false ht hle hlt (le_refl _)
    unfold periodStart at heq
    unfold dueReset
    rw [if_neg hlater, if_neg hnever]
    simp only [heq, if_true]
    simpa [UserSubscription.dueForReset] using hlt

end Reset

end LoveApi.Proofs
