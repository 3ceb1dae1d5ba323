import Mathlib.Data.List.Dedup
import Mathlib.Data.List.Rotate
import Mathlib.Data.List.Sort
import Mathlib.Algebra.BigOperators.Group.List.Basic
import Mathlib.Algebra.Ring.Nat

/-!
# Levels, weighted choices and turns

The distinct values of a list from the greatest down are its levels. A weighted choice walks along a list of values with
weights until the draw is used up. In a round robin the positions of a list take turns.
-/

namespace LoveApi.Program

open List Option

variable {α : Type}

section Levels

variable [LinearOrder α]
variable {l l' : List α} {a : α} {r : Nat}

def levels (l : List α) : List α := l.dedup.insertionSort (· ≥ ·)

/-- The value at index `r` of the levels, or the least one if there are fewer levels. -/
def level (r : Nat) (l : List α) : Option α := (levels l)[min r ((levels l).length - 1)]?

@[simp] lemma mem_levels : a ∈ levels l ↔ a ∈ l := by
  simp [levels]

lemma levels_sorted (l : List α) : (levels l).Pairwise (· > ·) := by
  have hsorted : (levels l).Pairwise (· ≥ ·) := pairwise_insertionSort (· ≥ ·) l.dedup
  have hnodup : (levels l).Nodup := (perm_insertionSort (· ≥ ·) l.dedup).nodup_iff.mpr l.nodup_dedup
  exact hsorted.imp₂ (fun a b hge hne => lt_of_le_of_ne hge hne.symm) hnodup

@[simp] lemma levels_nil : levels ([] : List α) = [] := rfl

lemma levels_eq_nil : levels l = [] ↔ l = [] := by
  constructor
  · intro h
    refine eq_nil_iff_forall_not_mem.mpr fun a ha => ?_
    have hmem : a ∈ levels l := mem_levels.mpr ha
    rw [h] at hmem
    cases hmem
  · rintro rfl
    rfl

lemma level_congr (h : ∀ a, a ∈ l ↔ a ∈ l') (r : Nat) : level r l = level r l' := by
  have hperm : (levels l).Perm (levels l') := by
    refine (perm_ext_iff_of_nodup (levels_sorted l).nodup (levels_sorted l').nodup).mpr fun a => ?_
    rw [mem_levels, mem_levels, h]
  rw [level, level, hperm.eq_of_pairwise (fun a b _ _ hab hba => absurd hab (lt_asymm hba)) (levels_sorted l)
    (levels_sorted l')]

lemma level_eq_none : level r l = none ↔ l = [] := by
  rw [level, getElem?_eq_none_iff, ← levels_eq_nil, ← length_eq_zero_iff]
  omega

lemma mem_of_level (h : level r l = some a) : a ∈ l :=
  mem_levels.mp (mem_of_getElem? h)

lemma exists_level (h : l ≠ []) (r : Nat) : ∃ a, level r l = some a :=
  ne_none_iff_exists'.mp fun hnone => h (level_eq_none.mp hnone)

lemma le_of_level_zero {b : α} (h : level 0 l = some a) (hb : b ∈ l) : b ≤ a := by
  rw [level, Nat.zero_min] at h
  rcases hl : levels l with _ | ⟨c, rest⟩
  · rw [hl] at h
    cases h
  · rw [hl, getElem?_cons_zero] at h
    cases h
    have hmem : b ∈ levels l := mem_levels.mpr hb
    rw [hl] at hmem
    rcases mem_cons.mp hmem with rfl | hmem
    · exact le_refl b
    · have hsorted := levels_sorted l
      rw [hl] at hsorted
      exact le_of_lt (rel_of_pairwise_cons hsorted hmem)

lemma level_greatest_iff (h : level r l = some a) : (∀ b ∈ l, b ≤ a) ↔ r = 0 ∨ ∀ b ∈ l, b = a := by
  constructor
  · intro hmax
    by_cases hr : r = 0
    · exact .inl hr
    refine .inr fun b hb => ?_
    obtain ⟨hi, ha⟩ := List.getElem?_eq_some_iff.mp h
    have hsorted := List.pairwise_iff_getElem.mp (levels_sorted l)
    -- A level at an index other than 0 is below the first one.
    have hone : min r ((levels l).length - 1) = 0 := by
      by_contra hpos
      have hlt := hsorted 0 _ (by omega) hi (by omega)
      rw [ha] at hlt
      exact absurd (hmax _ (mem_levels.mp (getElem_mem (by omega)))) (not_le.mpr hlt)
    have hlen : (levels l).length = 1 := by omega
    obtain ⟨c, hc⟩ := length_eq_one_iff.mp hlen
    have hmem : b ∈ levels l := mem_levels.mpr hb
    have hmem' : a ∈ levels l := mem_levels.mpr (mem_of_level h)
    rw [hc, mem_singleton] at hmem hmem'
    rw [hmem, hmem']
  · rintro (rfl | hone) b hb
    · exact le_of_level_zero h hb
    · exact (hone b hb).le

end Levels

section Choice

variable {l : List (α × Nat)} {draw : Int} {a : α}

def pick : List (α × Nat) → Int → Option α
  | [], _ => none
  | (a, weight) :: l, draw => if draw - weight < 0 then some a else pick l (draw - weight)

def totalWeight (l : List (α × Nat)) : Nat := (l.map Prod.snd).sum

@[simp] lemma totalWeight_nil : totalWeight ([] : List (α × Nat)) = 0 := rfl

@[simp] lemma totalWeight_cons (p : α × Nat) (l : List (α × Nat)) : totalWeight (p :: l) = p.2 + totalWeight l :=
  sum_cons

lemma mem_of_pick (h : pick l draw = some a) : ∃ weight, (a, weight) ∈ l ∧ (0 ≤ draw → 0 < weight) := by
  induction l generalizing draw with
  | nil => cases h
  | cons p l ih =>
    rw [pick] at h
    split at h
    · next hlt =>
      cases h
      exact ⟨p.2, mem_cons_self, fun hdraw => by omega⟩
    · next hge =>
      obtain ⟨weight, hmem, hpos⟩ := ih h
      exact ⟨weight, mem_cons_of_mem _ hmem, fun _ => hpos (by omega)⟩

lemma exists_pick (hl : l ≠ []) (h : draw < totalWeight l) : ∃ a, pick l draw = some a := by
  induction l generalizing draw with
  | nil => exact absurd rfl hl
  | cons p l ih =>
    rw [pick]
    split
    · exact ⟨p.1, rfl⟩
    · next hge =>
      rw [totalWeight_cons] at h
      apply ih _ (by omega)
      rintro rfl
      simp only [totalWeight_nil] at h
      omega

lemma pick_append {before after : List (α × Nat)} {a : α} {weight : Nat} (h : 0 < weight) :
    pick (before ++ (a, weight) :: after) (totalWeight before) = some a := by
  induction before with
  | nil =>
    rw [nil_append, pick, totalWeight_nil, if_pos (by omega)]
  | cons p before ih =>
    have hrest : ((p.2 + totalWeight before : Nat) : Int) - p.2 = totalWeight before := by omega
    rw [cons_append, pick, totalWeight_cons, hrest, if_neg (by omega)]
    exact ih

lemma totalWeight_append {l l' : List (α × Nat)} : totalWeight (l ++ l') = totalWeight l + totalWeight l' := by
  simp [totalWeight]

/-- Exactly the entries of positive weight can be drawn. -/
theorem exists_draw_iff :
    (∃ draw : Nat, draw < totalWeight l ∧ pick l draw = some a) ↔ ∃ weight, (a, weight) ∈ l ∧ 0 < weight := by
  constructor
  · rintro ⟨draw, -, h⟩
    obtain ⟨weight, hmem, hpos⟩ := mem_of_pick h
    exact ⟨weight, hmem, hpos (by omega)⟩
  · rintro ⟨weight, hmem, hpos⟩
    obtain ⟨before, after, rfl⟩ := append_of_mem hmem
    refine ⟨totalWeight before, ?_, pick_append hpos⟩
    rw [totalWeight_append, totalWeight_cons]
    omega

/-- As many draws pick `a` as its entries have weight. -/
theorem countP_pick [DecidableEq α] (l : List (α × Nat)) (a : α) :
    (List.range (totalWeight l)).countP (fun draw : Nat => pick l draw = some a) =
      totalWeight (l.filter fun p => p.1 = a) := by
  induction l with
  | nil => rfl
  | cons p l ih =>
    have hrest : ∀ draw : Nat, pick (p :: l) (p.2 + draw : Nat) = pick l draw := by
      intro draw
      have hdraw : ((p.2 + draw : Nat) : Int) - p.2 = draw := by omega
      rw [pick, hdraw, if_neg (by omega)]
    have hfirst : (range p.2).countP (fun draw : Nat => pick (p :: l) draw = some a) =
        if p.1 = a then p.2 else 0 := by
      have hpick : ∀ draw ∈ range p.2, pick (p :: l) draw = some p.1 := by
        intro draw hdraw
        have := mem_range.mp hdraw
        rw [pick, if_pos (by omega)]
      rw [countP_congr (q := fun _ => p.1 = a) fun draw hdraw => by simp [hpick draw hdraw]]
      by_cases h : p.1 = a <;> simp [h]
    rw [totalWeight_cons, range_add, countP_append, countP_map, hfirst]
    simp only [Function.comp_def, hrest, ih]
    by_cases h : p.1 = a <;> simp [h]

lemma countP_pick_map [DecidableEq α] {l : List α} (hl : l.Nodup) (ha : a ∈ l) (weight : α → Nat) :
    let weights := l.map fun a => (a, weight a)
    (List.range (totalWeight weights)).countP (fun draw : Nat => pick weights draw = some a) = weight a := by
  intro weights
  rw [countP_pick, List.filter_map]
  simp [Function.comp_def, List.filter_eq, List.count_eq_one_of_mem hl ha]

def pickUpTo : List (α × Nat) → Int → Option α
  | [], _ => none
  | (a, weight) :: l, draw => if draw - weight ≤ 0 then some a else pickUpTo l (draw - weight)

lemma pickUpTo_eq (l : List (α × Nat)) (draw : Int) : pickUpTo l draw = pick l (draw - 1) := by
  induction l generalizing draw with
  | nil => rfl
  | cons p l ih =>
    have hrest : draw - 1 - p.2 = draw - p.2 - 1 := by omega
    rw [pickUpTo, pick, ih, hrest]
    by_cases h : draw - p.2 ≤ 0
    · rw [if_pos h, if_pos (by omega)]
    · rw [if_neg h, if_neg (by omega)]

lemma countP_pickUpTo_first [DecidableEq α] {p : α × Nat} (h : 0 < totalWeight l) :
    p.2 < (List.range (totalWeight (p :: l))).countP (fun draw : Nat => pickUpTo (p :: l) draw = some p.1) := by
  have hrange : totalWeight (p :: l) = p.2 + 1 + (totalWeight l - 1) := by
    rw [totalWeight_cons]
    omega
  have hfirst : (range (p.2 + 1)).countP (fun draw : Nat => pickUpTo (p :: l) draw = some p.1) = p.2 + 1 := by
    refine (countP_eq_length.mpr fun draw hdraw => ?_).trans length_range
    have := mem_range.mp hdraw
    rw [pickUpTo, if_pos (by omega), decide_eq_true rfl]
  rw [hrange, range_add, countP_append, hfirst]
  omega

/-- The shares of the values are their weights only if there is at most one: the first gets one draw more. -/
theorem countP_pickUpTo_iff [DecidableEq α] (h : ∀ p ∈ l, 0 < p.2) :
    (∀ p ∈ l, (List.range (totalWeight l)).countP (fun draw : Nat => pickUpTo l draw = some p.1) = p.2) ↔
      l.length ≤ 1 := by
  rcases l with _ | ⟨p, _ | ⟨q, l⟩⟩
  · simp
  · refine ⟨fun _ => le_refl 1, fun _ p' hp' => ?_⟩
    obtain rfl := mem_singleton.mp hp'
    refine (countP_eq_length.mpr fun draw hdraw => ?_).trans length_range
    have := mem_range.mp hdraw
    rw [totalWeight_cons, totalWeight_nil] at this
    rw [pickUpTo, if_pos (by omega), decide_eq_true rfl]
  · constructor
    · intro hall
      have hrest : 0 < totalWeight (q :: l) := by
        have := h q (by simp)
        rw [totalWeight_cons]
        omega
      have hfirst := countP_pickUpTo_first (p := p) hrest
      rw [hall p mem_cons_self] at hfirst
      omega
    · simp

/-- The values that draws below the sum of the weights can reach, if no weight is 0 or 1. -/
theorem exists_drawUpTo_iff (h : ∀ p ∈ l, 2 ≤ p.2) :
    (∃ draw : Nat, draw < totalWeight l ∧ pickUpTo l draw = some a) ↔ ∃ weight, (a, weight) ∈ l := by
  constructor
  · rintro ⟨draw, -, hpick⟩
    rw [pickUpTo_eq] at hpick
    obtain ⟨weight, hmem, -⟩ := mem_of_pick hpick
    exact ⟨weight, hmem⟩
  · rintro ⟨weight, hmem⟩
    have htwo : 2 ≤ weight := h _ hmem
    obtain ⟨before, after, rfl⟩ := append_of_mem hmem
    refine ⟨totalWeight before + 1, ?_, ?_⟩
    · rw [totalWeight_append, totalWeight_cons]
      omega
    · have hdraw : ((totalWeight before + 1 : Nat) : Int) - 1 = totalWeight before := by omega
      rw [pickUpTo_eq, hdraw]
      exact pick_append (by omega)

end Choice

section RoundRobin

variable {p : Nat → Bool} {n s i : Nat}

lemma map_add_mod_range : ((range n).map fun i => (s + i) % n) = (range n).rotate s :=
  ext_getElem (by simp) fun i _ _ => by simp [getElem_rotate, Nat.add_comm]

/-- Round robin: when the first position with `p` from `s` on has had its turn, it is the last one. -/
lemma filter_rotate_succ (h : ((range n).rotate s).find? p = some i) :
    ((range n).rotate ((i + 1) % n)).filter p = (((range n).rotate s).filter p).rotate 1 := by
  obtain ⟨hi, before, after, hsplit, hbefore⟩ := find?_eq_some_iff_append.mp h
  have hpos : (before.length + s) % n = i := by
    have hlt : before.length < ((range n).rotate s).length := by simp [hsplit]
    have := getElem_rotate (range n) s before.length hlt
    simpa [hsplit] using this.symm
  have hnext : (range n).rotate ((i + 1) % n) = after ++ (before ++ [i]) := by
    calc (range n).rotate ((i + 1) % n) = (range n).rotate (s + (before ++ [i]).length) := by
          rw [← rotate_mod (range n) (s + _)]
          simp [← hpos, Nat.add_comm, Nat.add_assoc]
      _ = ((before ++ [i]) ++ after).rotate (before ++ [i]).length := by
          rw [← rotate_rotate, hsplit, append_assoc, singleton_append]
      _ = after ++ (before ++ [i]) := rotate_append_length_eq _ _
  have hnone : before.filter p = [] := by simpa [filter_eq_nil_iff] using hbefore
  rw [hnext, hsplit]
  simp [filter_append, hnone, hi]

lemma exists_filter_rotate {l : List α} {p : α → Bool} : ∃ j, (l.rotate s).filter p = (l.filter p).rotate j := by
  rw [rotate_eq_drop_append_take_mod, filter_append]
  refine ⟨((l.take (s % l.length)).filter p).length, ?_⟩
  conv_rhs => rw [← take_append_drop (s % l.length) l, filter_append]
  simp [rotate_append_length_eq]

end RoundRobin

end LoveApi.Program
