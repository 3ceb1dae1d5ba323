import Mathlib.Algebra.Order.Group.Defs
import Mathlib.Data.List.Basic

/-!
# Windows of time

A history is `Spaced` if more than `n` events never fall into a window of length `d`, and `Exhausted` if the last `n`
events are all in the window that ends now.
-/

namespace LoveApi.Program

open List

variable {α : Type} [AddCommGroup α] [LinearOrder α]
variable {n : Nat} {d now later : α} {history queue rest : List α} {oldest : α}

/-- No `n + 1` times lie within less than `d`. -/
def Spaced (n : Nat) (d : α) (history : List α) : Prop :=
  ∀ i j s t, i + n ≤ j → history[i]? = some s → history[j]? = some t → s + d ≤ t

def Exhausted (n : Nat) (d now : α) (history : List α) : Prop :=
  n ≤ history.length ∧ ∀ t ∈ history.drop (history.length - n), now < t + d

instance : Decidable (Exhausted n d now history) :=
  inferInstanceAs (Decidable (n ≤ history.length ∧ ∀ t ∈ history.drop (history.length - n), now < t + d))

/-- The queue holds the last events of a history, at most `n` of them, and all that happened less than `d` ago if it
holds fewer. -/
structure Tracks (n : Nat) (d now : α) (history queue : List α) : Prop where
  sorted : history.Pairwise (· ≤ ·)
  past : ∀ t ∈ history, t ≤ now
  suffix : queue <:+ history
  length_le : queue.length ≤ n
  leftOut : queue.length < n → ∀ t ∈ history.take (history.length - queue.length), t + d ≤ now

omit [AddCommGroup α] in
lemma pairwise_append_singleton (hsorted : history.Pairwise (· ≤ ·)) (hpast : ∀ t ∈ history, t ≤ now) :
    (history ++ [now]).Pairwise (· ≤ ·) := by
  rw [pairwise_append]
  refine ⟨hsorted, pairwise_singleton _ _, ?_⟩
  intro t ht u hu
  rw [mem_singleton.mp hu]
  exact hpast t ht

omit [AddCommGroup α] in
lemma le_of_mem_append_singleton (hpast : ∀ t ∈ history, t ≤ now) : ∀ t ∈ history ++ [now], t ≤ now := by
  intro t ht
  rcases mem_append.mp ht with h | h
  · exact hpast t h
  · exact (mem_singleton.mp h).le

namespace Tracks

lemma nil : Tracks n d now [] [] where
  sorted := List.Pairwise.nil
  past := by simp
  suffix := suffix_rfl
  length_le := Nat.zero_le n
  leftOut := by simp

lemma mono (h : Tracks n d now history queue) (hle : now ≤ later) : Tracks n d later history queue where
  sorted := h.sorted
  past t ht := (h.past t ht).trans hle
  suffix := h.suffix
  length_le := h.length_le
  leftOut hlt t ht := (h.leftOut hlt t ht).trans hle

lemma clear (h : Tracks n d now history queue) (hold : ∀ t ∈ history, t + d ≤ now) : Tracks n d now history [] where
  sorted := h.sorted
  past := h.past
  suffix := nil_suffix
  length_le := Nat.zero_le n
  leftOut _ t ht := hold t (mem_of_mem_take ht)

lemma push (h : Tracks n d now history queue) (hlt : queue.length < n) :
    Tracks n d now (history ++ [now]) (queue ++ [now]) where
  sorted := pairwise_append_singleton h.sorted h.past
  past := le_of_mem_append_singleton h.past
  suffix := by
    obtain ⟨before, rfl⟩ := h.suffix
    exact ⟨before, by simp⟩
  length_le := by
    rw [length_append]
    exact hlt
  leftOut _ t ht := by
    apply h.leftOut hlt
    rw [length_append, length_append, Nat.add_sub_add_right, take_append_of_le_length (by omega)] at ht
    exact ht

lemma replace (h : Tracks n d now history (oldest :: rest)) (hfull : (oldest :: rest).length = n) :
    Tracks n d now (history ++ [now]) (rest ++ [now]) where
  sorted := pairwise_append_singleton h.sorted h.past
  past := le_of_mem_append_singleton h.past
  suffix := by
    obtain ⟨before, rfl⟩ := h.suffix
    exact ⟨before ++ [oldest], by simp⟩
  length_le := by
    rw [length_append]
    exact hfull.le
  leftOut hlt := by
    rw [length_append] at hlt
    exact absurd hfull hlt.ne

lemma exhausted [IsOrderedAddMonoid α] {e : α} (h : Tracks n e now history queue) (hlen : n ≤ queue.length)
    (hhead : queue.head? = some oldest) (hlt : now < oldest + d) : Exhausted n d now history := by
  obtain ⟨before, rfl⟩ := h.suffix
  have hle := h.length_le
  have hdrop : (before ++ queue).length - n = before.length := by
    rw [length_append]
    omega
  refine ⟨by rw [length_append]; omega, ?_⟩
  rw [hdrop, drop_left]
  intro t ht
  obtain ⟨rest, rfl⟩ := head?_eq_some_iff.mp hhead
  rcases mem_cons.mp ht with rfl | ht
  · exact hlt
  · -- the entries after the oldest one are younger
    have hsorted := (pairwise_append.mp h.sorted).2.1
    have hle := (pairwise_cons.mp hsorted).1 t ht
    exact hlt.trans_le (add_le_add_left hle d)

lemma not_exhausted_of_short (h : Tracks n d now history queue) (hlt : queue.length < n) :
    ¬Exhausted n d now history := by
  rintro ⟨hlen, hall⟩
  obtain ⟨before, rfl⟩ := h.suffix
  -- an entry that was left out is among the last ones
  rw [length_append] at hlen hall
  have hold := h.leftOut hlt
  rw [length_append, Nat.add_sub_cancel, take_left] at hold
  have hlast : before.drop (before.length + queue.length - n) ≠ [] := by
    rw [Ne, drop_eq_nil_iff]
    omega
  obtain ⟨t, ht⟩ := exists_mem_of_ne_nil _ hlast
  have hmem : t ∈ (before ++ queue).drop (before.length + queue.length - n) := by
    rw [drop_append]
    exact mem_append_left _ ht
  exact absurd (hall t hmem) (not_lt.mpr (hold t (mem_of_mem_drop ht)))

lemma not_exhausted_of_old {e : α} (h : Tracks n e now history (oldest :: rest))
    (hlen : n = (oldest :: rest).length) (hold : oldest + d ≤ now) : ¬Exhausted n d now history := by
  rintro ⟨-, hall⟩
  obtain ⟨before, rfl⟩ := h.suffix
  rw [hlen, length_append, Nat.add_sub_cancel, drop_left] at hall
  exact absurd (hall oldest mem_cons_self) (not_lt.mpr hold)

end Tracks

lemma Spaced.push [IsOrderedAddMonoid α] (h : Spaced n d history) (hsorted : history.Pairwise (· ≤ ·))
    (hroom : ¬Exhausted n d now history) : Spaced n d (history ++ [now]) := by
  intro i j s t hij hs ht
  rcases Nat.lt_or_ge j history.length with hj | hj
  · rw [getElem?_append_left hj] at ht
    have hi : i < history.length := by omega
    rw [getElem?_append_left hi] at hs
    exact h i j s t hij hs ht
  · rw [getElem?_append_right hj] at ht
    have hjeq : j = history.length := by
      have := (List.getElem?_eq_some_iff.mp ht).1
      rw [length_singleton] at this
      omega
    subst hjeq
    obtain rfl : now = t := by simpa using ht
    by_cases hn : n = 0
    · subst hn
      exact absurd ⟨Nat.zero_le _, by simp⟩ hroom
    have hi : i < history.length := by omega
    rw [getElem?_append_left hi] at hs
    -- one of the last `n` events is old, and the event at `i` is not later
    have hold : ∃ u ∈ history.drop (history.length - n), u + d ≤ now := by
      by_contra hnone
      push Not at hnone
      exact hroom ⟨by omega, hnone⟩
    obtain ⟨u, hu, hle⟩ := hold
    obtain ⟨k, hk, rfl⟩ := mem_iff_getElem.mp hu
    rw [getElem_drop] at hle
    obtain ⟨_, rfl⟩ := List.getElem?_eq_some_iff.mp hs
    refine le_trans ?_ hle
    apply add_le_add_left
    rcases Nat.eq_or_lt_of_le (show i ≤ history.length - n + k by omega) with heq | hlt
    · exact (getElem_congr_idx heq).le
    · exact List.pairwise_iff_getElem.mp hsorted _ _ _ _ hlt

lemma Spaced.nil : Spaced n d ([] : List α) := fun _ _ _ _ _ hs => by simp at hs

end LoveApi.Program
