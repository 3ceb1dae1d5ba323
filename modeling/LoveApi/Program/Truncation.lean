import LoveApi.Go
import Mathlib.Algebra.Order.BigOperators.GroupWithZero.List
import Mathlib.Algebra.Order.Archimedean.Basic

/-!
# Truncation and rounding

A whole number is multiplied by rational factors one after the other, and truncated each time.
-/

namespace LoveApi.Go

open List

variable {n : Int} {x y : ℚ}

variable {q : ℚ}

lemma int_intCast (n : Int) : int n = n := by
  unfold int
  split <;> simp

lemma int_le (h : 0 ≤ q) : (int q : ℚ) ≤ q := by
  rw [int, if_pos h]
  exact Int.floor_le q

lemma lt_int_add_one (h : 0 ≤ q) : q < int q + 1 := by
  rw [int, if_pos h]
  exact Int.lt_floor_add_one q

lemma int_eq_iff (h : 0 ≤ q) : int q = n ↔ n ≤ q ∧ q < n + 1 := by
  rw [int, if_pos h, Int.floor_eq_iff]

lemma int_neg {q : ℚ} : int (-q) = -int q := by
  rcases lt_trichotomy q 0 with h | rfl | h
  · rw [int, int, if_pos (by linarith), if_neg (by linarith), Int.floor_neg]
  · simp [int]
  · rw [int, int, if_neg (by linarith), if_pos h.le, Int.ceil_neg]

lemma int_nonneg_iff : 0 ≤ int q ↔ -1 < q := by
  rcases le_or_gt 0 q with h | h
  · exact iff_of_true (int_nonneg h) (by linarith)
  · rw [int, if_neg (not_le.mpr h), Int.le_ceil_iff]
    norm_num

lemma int_pos_iff : 0 < int q ↔ 1 ≤ q := by
  rcases le_or_gt 0 q with h | h
  · rw [int, if_pos h, Int.floor_pos]
  · have := int_nonneg (neg_nonneg.mpr h.le)
    rw [int_neg] at this
    exact iff_of_false (by omega) (by linarith)

lemma abs_int_sub_le (q : ℚ) : |(int q : ℚ) - q| ≤ 1 := by
  have hnonneg : ∀ {q : ℚ}, 0 ≤ q → |(int q : ℚ) - q| ≤ 1 := by
    intro q h
    rw [abs_le]
    constructor
    · linarith [lt_int_add_one h]
    · linarith [int_le h]
  rcases le_or_gt 0 q with h | h
  · exact hnonneg h
  · have hneg := hnonneg (neg_nonneg.mpr h.le)
    rw [int_neg, Int.cast_neg, ← neg_sub', abs_neg] at hneg
    exact hneg

lemma int_int_div {q : ℚ} {k : ℕ} : int ((int q : ℚ) / k) = int (q / k) := by
  have hnonneg : ∀ {q : ℚ}, 0 ≤ q → int ((int q : ℚ) / k) = int (q / k) := by
    intro q h
    have hint : (0 : ℚ) ≤ int q := by exact_mod_cast int_nonneg h
    rw [int, if_pos (by positivity), int, if_pos h, int, if_pos (by positivity), Int.floor_div_natCast,
      Int.floor_div_natCast, Int.floor_intCast]
  rcases le_or_gt 0 q with h | h
  · exact hnonneg h
  · have := hnonneg (neg_nonneg.mpr h.le)
    rw [int_neg, neg_div, Int.cast_neg, neg_div, int_neg, int_neg] at this
    exact neg_injective this

lemma eq_of_rounded_mul {round : ℚ → Int} {error : ℚ} (hround : ∀ q, |(round q : ℚ) - q| ≤ error) {a b : ℚ}
    (h : ∀ n : ℕ, round (n * a) = round (n * b)) : a = b := by
  by_contra hne
  have hpos : 0 < |a - b| := abs_pos.mpr (sub_ne_zero.mpr hne)
  obtain ⟨n, hn⟩ := exists_nat_gt (2 * error / |a - b|)
  have hclose : (n : ℚ) * |a - b| ≤ 2 * error := by
    have ha := hround (n * a)
    have hb := hround (n * b)
    rw [h n] at ha
    calc (n : ℚ) * |a - b| = |n * a - n * b| := by rw [← mul_sub, abs_mul, Nat.abs_cast]
      _ ≤ 2 * error := by
        rw [abs_le] at ha hb ⊢
        constructor
        · linarith
        · linarith
  rw [div_lt_iff₀ hpos] at hn
  linarith

/-! ### Rounding half away from zero -/

lemma roundHalfAway_nonneg (h : 0 ≤ q) : 0 ≤ roundHalfAway q := by
  rw [roundHalfAway, if_pos h]
  apply Int.floor_nonneg.mpr
  linarith

lemma roundHalfAway_intCast (n : Int) : roundHalfAway n = n := by
  have hfloor : ∀ m : Int, ⌊(m : ℚ) + 1 / 2⌋ = m := by
    intro m
    norm_num
  unfold roundHalfAway
  split
  · exact hfloor n
  · have h := hfloor (-n)
    push_cast at h
    rw [h, neg_neg]

lemma abs_roundHalfAway_sub_le (q : ℚ) : |(roundHalfAway q : ℚ) - q| ≤ 1 / 2 := by
  have hfloor : ∀ x : ℚ, |(⌊x + 1 / 2⌋ : ℚ) - x| ≤ 1 / 2 := by
    intro x
    rw [abs_le]
    constructor
    · linarith [Int.lt_floor_add_one (x + 1 / 2)]
    · linarith [Int.floor_le (x + 1 / 2)]
  unfold roundHalfAway
  split
  · exact hfloor q
  · have h := hfloor (-q)
    rw [abs_le] at h ⊢
    push_cast at h ⊢
    constructor
    · linarith
    · linarith

lemma roundHalfAway_mono (h : x ≤ y) : roundHalfAway x ≤ roundHalfAway y := by
  by_contra hlt
  have hx := abs_le.mp (abs_roundHalfAway_sub_le x)
  have hy := abs_le.mp (abs_roundHalfAway_sub_le y)
  have hstep : (roundHalfAway y : ℚ) + 1 ≤ roundHalfAway x := by
    exact_mod_cast not_le.mp hlt
  have hxy : x = y := by linarith
  exact hlt (hxy ▸ le_refl _)

/-! ### Quotients with 16 digits -/

section

lemma decimalDiv_nonneg (h : 0 ≤ x / y) : 0 ≤ decimalDiv x y := by
  have hround : 0 ≤ roundHalfAway (x / y * 10 ^ 16) := by
    rw [roundHalfAway, if_pos (by positivity)]
    exact Int.floor_nonneg.mpr (by positivity)
  exact div_nonneg (by exact_mod_cast hround) (by norm_num)

lemma decimalDiv_le (h : 0 ≤ x / y) : decimalDiv x y ≤ x / y + 1 / (2 * 10 ^ 16) := by
  rw [decimalDiv, roundHalfAway, if_pos (by positivity), div_le_iff₀ (by norm_num)]
  have := Int.floor_le (x / y * 10 ^ 16 + 1 / 2)
  linarith

lemma decimalDiv_eq {k : Int} (h : 0 ≤ x / y) (hle : x / y ≤ k) (hclose : k ≤ x / y + 1 / (2 * 10 ^ 16)) :
    decimalDiv x y = k := by
  have hround : roundHalfAway (x / y * 10 ^ 16) = k * 10 ^ 16 := by
    rw [roundHalfAway, if_pos (by positivity), Int.floor_eq_iff]
    push_cast
    constructor
    · linarith
    · linarith
  rw [decimalDiv, hround]
  push_cast
  exact mul_div_cancel_right₀ _ (by norm_num)

end

section Scale

variable {α : Type} (f : α → ℚ)
variable {l : List α} {a : α}

def scale (l : List α) (n : Int) : Int := l.foldl (fun n a => int (n * f a)) n

variable {f}

lemma prod_map_pos (hf : ∀ a ∈ l, 0 < f a) : 0 < (l.map f).prod :=
  prod_pos (forall_mem_map.mpr hf)

lemma exists_perm_cons (ha : a ∈ l) : ∃ rest, l.Perm (a :: rest) := by
  obtain ⟨s, t, rfl⟩ := append_of_mem ha
  exact ⟨s ++ t, perm_middle⟩

lemma prod_perm_cons {rest : List α} (h : l.Perm (a :: rest)) : (l.map f).prod = f a * (rest.map f).prod := by
  rw [(h.map f).prod_eq, map_cons, prod_cons]

lemma scale_cons (a : α) (l : List α) (n : Int) : scale f (a :: l) n = scale f l (int (n * f a)) := rfl

lemma scale_append {l l' : List α} {n : Int} : scale f (l ++ l') n = scale f l' (scale f l n) := foldl_append

lemma scale_nonneg (hf : ∀ a ∈ l, 0 < f a) (hn : 0 ≤ n) : 0 ≤ scale f l n := by
  induction l generalizing n with
  | nil => exact hn
  | cons a l ih =>
    rw [forall_mem_cons] at hf
    apply ih hf.2
    apply int_nonneg
    have hn : (0 : ℚ) ≤ n := by exact_mod_cast hn
    exact mul_nonneg hn hf.1.le

lemma scale_le (hf : ∀ a ∈ l, 0 < f a) (hn : 0 ≤ n) : (scale f l n : ℚ) ≤ n * (l.map f).prod := by
  induction l generalizing n with
  | nil => simp [scale]
  | cons a l ih =>
    rw [forall_mem_cons] at hf
    have hn : (0 : ℚ) ≤ n := by exact_mod_cast hn
    have hfirst : (0 : ℚ) ≤ n * f a := mul_nonneg hn hf.1.le
    have hrest : 0 < (l.map f).prod := prod_map_pos hf.2
    calc (scale f l (int (n * f a)) : ℚ) ≤ int (n * f a) * (l.map f).prod := ih hf.2 (int_nonneg hfirst)
      _ ≤ n * f a * (l.map f).prod := mul_le_mul_of_nonneg_right (int_le hfirst) hrest.le
      _ = n * (f a * (l.map f).prod) := mul_assoc _ _ _

lemma scale_eq_of_append {l' : List α} (hf : ∀ a ∈ l ++ l', 0 < f a) (hn : 0 ≤ n)
    (h : (scale f (l ++ l') n : ℚ) = n * ((l ++ l').map f).prod) : (scale f l n : ℚ) = n * (l.map f).prod := by
  rw [forall_mem_append] at hf
  have hrest : 0 < (l'.map f).prod := prod_map_pos hf.2
  apply le_antisymm (scale_le hf.1 hn)
  have hle := scale_le hf.2 (scale_nonneg hf.1 hn)
  rw [← scale_append, h, map_append, prod_append, ← mul_assoc] at hle
  exact le_of_mul_le_mul_right hle hrest

lemma scale_of_integers (hf : ∀ a ∈ l, ∃ k : Int, f a = k) {n : Int} : (scale f l n : ℚ) = n * (l.map f).prod := by
  induction l generalizing n with
  | nil => simp [scale]
  | cons a l ih =>
    rw [forall_mem_cons] at hf
    obtain ⟨k, hk⟩ := hf.1
    have hfirst : int (n * f a) = n * k := by
      rw [hk, ← Int.cast_mul, int_intCast]
    rw [scale_cons, ih hf.2, hfirst, map_cons, prod_cons, hk]
    push_cast
    ring

lemma scale_of_parts (hf : ∀ a ∈ l, ∃ k : ℕ, f a = 1 / k) {n : Int} : scale f l n = int (n * (l.map f).prod) := by
  -- Each division is one of the rational number that the truncations have left out.
  have hscale : ∀ q : ℚ, scale f l (int q) = int (q * (l.map f).prod) := by
    induction l with
    | nil => simp [scale]
    | cons a l ih =>
      intro q
      rw [forall_mem_cons] at hf
      obtain ⟨k, hk⟩ := hf.1
      have hfirst : int (int q * f a) = int (q * f a) := by
        rw [hk, mul_one_div, mul_one_div, int_int_div]
      rw [scale_cons, hfirst, ih hf.2, map_cons, prod_cons, mul_assoc]
  rw [← int_intCast n, hscale, int_intCast]

end Scale

section Inverse

variable {α : Type} {f : α → ℚ}
variable {l l' : List α}

lemma prod_map_inv {l : List α} : (l.map fun a => (f a)⁻¹).prod = ((l.map f).prod)⁻¹ := by
  induction l with
  | nil => simp
  | cons a l ih => rw [map_cons, map_cons, prod_cons, prod_cons, ih, mul_inv]

def rescale (f : α → ℚ) (l l' : List α) (n : Int) : Int := int (scale (fun a => (f a)⁻¹) l n * (l'.map f).prod)

lemma scale_inv_eq (hf : ∀ a ∈ l, 0 < f a) (hperm : l.Perm l') (hn : 0 ≤ n)
    (h : rescale f l l' n = n) : (scale (fun a => (f a)⁻¹) l n : ℚ) = n * (l.map fun a => (f a)⁻¹).prod := by
  have hinv : ∀ a ∈ l, 0 < (f a)⁻¹ := fun a ha => inv_pos.mpr (hf a ha)
  have hprod : 0 < (l.map f).prod := prod_map_pos hf
  have hprod' : (l'.map f).prod = (l.map f).prod := ((hperm.map f).prod_eq).symm
  have hbase : (0 : ℚ) ≤ scale (fun a => (f a)⁻¹) l n := by exact_mod_cast scale_nonneg hinv hn
  apply le_antisymm (scale_le hinv hn)
  have hle : (n : ℚ) ≤ scale (fun a => (f a)⁻¹) l n * (l.map f).prod := by
    have hint := int_le (mul_nonneg hbase hprod.le)
    rw [← hprod'] at hint ⊢
    rw [rescale] at h
    rwa [h] at hint
  rw [prod_map_inv, ← div_eq_mul_inv, div_le_iff₀ hprod]
  exact hle

lemma part_of_rescale_one {a : α} (hf : ∀ b ∈ a :: l, 0 < f b) (hperm : (a :: l).Perm l')
    (h : rescale f (a :: l) l' 1 = 1) : ∃ k : ℕ, f a = 1 / k := by
  have hinv : ∀ b ∈ [a] ++ l, 0 < (f b)⁻¹ := fun b hb => inv_pos.mpr (hf b hb)
  have hfirst := scale_eq_of_append hinv zero_le_one (scale_inv_eq hf hperm zero_le_one h)
  have hscale : 0 ≤ scale (fun b => (f b)⁻¹) [a] 1 := by
    apply scale_nonneg _ zero_le_one
    intro b hb
    exact hinv b (mem_append_left _ hb)
  refine ⟨(scale (fun b => (f b)⁻¹) [a] 1).toNat, ?_⟩
  have hcast : (((scale (fun b => (f b)⁻¹) [a] 1).toNat : ℕ) : ℚ) = scale (fun b => (f b)⁻¹) [a] 1 := by
    exact_mod_cast Int.toNat_of_nonneg hscale
  rw [hcast, hfirst]
  simp

lemma scale_inv_of_integers (hf : ∀ a ∈ l, 0 < f a) (hint : ∀ a ∈ l, ∃ k : Int, f a = k) {m : Int}
    (hn : (n : ℚ) = m * (l.map f).prod) : scale (fun a => (f a)⁻¹) l n = m := by
  induction l generalizing n with
  | nil =>
    rw [map_nil, prod_nil, mul_one] at hn
    exact_mod_cast hn
  | cons a l ih =>
    rw [forall_mem_cons] at hf hint
    rw [map_cons, prod_cons] at hn
    have hfirst : (n : ℚ) * (f a)⁻¹ = (scale f l m : ℚ) := by
      rw [scale_of_integers hint.2, hn, mul_left_comm, mul_comm, inv_mul_cancel_left₀ hf.1.ne']
    rw [scale_cons, hfirst, int_intCast]
    exact ih hf.2 hint.2 (scale_of_integers hint.2)

/-- The factors, in any order, come to their product, and can be divided out and multiplied again. -/
def Scales (f : α → ℚ) (l : List α) : Prop :=
  ∀ (n : Int) (l₁ l₂ l₃ : List α), l₁.Perm l → l₂.Perm l → l₃.Perm l →
    scale f l₁ n = int (n * (l.map f).prod) ∧ rescale f l₂ l₃ (scale f l₁ n) = scale f l₁ n

section Only

variable {l : List α} (h : Scales f l) (hf : ∀ a ∈ l, 0 < f a)

include h hf

lemma Scales.scale_inv (hn : 0 ≤ n) {l₂ : List α} (hperm : l₂.Perm l) :
    (scale (fun a => (f a)⁻¹) l₂ (int (n * (l.map f).prod)) : ℚ) =
      int (n * (l.map f).prod) * (l₂.map fun a => (f a)⁻¹).prod := by
  obtain ⟨hscale, hrescale⟩ := h n l l₂ l (.refl l) hperm (.refl l)
  rw [hscale] at hrescale
  apply scale_inv_eq (fun a ha => hf a (hperm.mem_iff.mp ha)) hperm _ hrescale
  have hn : (0 : ℚ) ≤ n := by exact_mod_cast hn
  have hprod : 0 < (l.map f).prod := prod_map_pos hf
  exact int_nonneg (mul_nonneg hn hprod.le)

lemma Scales.int_prod (hprod : 1 ≤ (l.map f).prod) : (int (l.map f).prod : ℚ) = (l.map f).prod := by
  have hexact := h.scale_inv hf zero_le_one (.refl l)
  rw [Int.cast_one, one_mul, prod_map_inv, ← div_eq_mul_inv] at hexact
  have hpos : 0 < (l.map f).prod := by linarith
  have hone : (1 : ℚ) ≤ int (l.map f).prod := by
    rw [int, if_pos hpos.le]
    exact_mod_cast Int.le_floor.mpr (by exact_mod_cast hprod)
  have hquotient : 0 < (int (l.map f).prod : ℚ) / (l.map f).prod := by positivity
  rw [← hexact] at hquotient
  have hbase : (1 : ℚ) ≤ scale (fun a => (f a)⁻¹) l (int (l.map f).prod) := by exact_mod_cast hquotient
  rw [hexact, le_div_iff₀ hpos, one_mul] at hbase
  exact le_antisymm (int_le hpos.le) hbase

variable {a : α} (ha : a ∈ l)

include ha

lemma Scales.integer_of_one_le (hprod : 1 ≤ (l.map f).prod) : ∃ k : Int, f a = k := by
  obtain ⟨rest, hrest⟩ := exists_perm_cons ha
  have hperm : (rest ++ [a]).Perm l := (perm_append_singleton a rest).trans hrest.symm
  have hexact := h.scale_inv hf zero_le_one hperm
  have hnonneg : 0 ≤ int (l.map f).prod := int_nonneg (by linarith)
  have hinv : ∀ b ∈ rest ++ [a], 0 < (f b)⁻¹ := fun b hb => inv_pos.mpr (hf b (hperm.mem_iff.mp hb))
  rw [Int.cast_one, one_mul] at hexact
  have hfirst := scale_eq_of_append hinv hnonneg hexact
  have hpos : 0 < (rest.map f).prod :=
    prod_map_pos fun b hb => hf b (hrest.mem_iff.mpr (mem_cons_of_mem a hb))
  rw [prod_map_inv, h.int_prod hf hprod] at hfirst
  nth_rewrite 2 [prod_perm_cons hrest] at hfirst
  rw [mul_assoc, mul_inv_cancel₀ hpos.ne', mul_one] at hfirst
  exact ⟨_, hfirst.symm⟩

lemma Scales.part_of_lt_one (hprod : (l.map f).prod < 1) : ∃ k : ℕ, f a = 1 / k := by
  have hpos : 0 < (l.map f).prod := prod_map_pos hf
  have hone : int (⌈1 / (l.map f).prod⌉ * (l.map f).prod) = 1 := by
    have hge := Int.le_ceil (1 / (l.map f).prod)
    have hlt := Int.ceil_lt_add_one (1 / (l.map f).prod)
    rw [div_le_iff₀ hpos] at hge
    have hlt : (⌈1 / (l.map f).prod⌉ : ℚ) * (l.map f).prod < 1 + (l.map f).prod := by
      calc (⌈1 / (l.map f).prod⌉ : ℚ) * (l.map f).prod < (1 / (l.map f).prod + 1) * (l.map f).prod :=
            mul_lt_mul_of_pos_right hlt hpos
        _ = 1 + (l.map f).prod := by field_simp
    rw [int, if_pos (by linarith), Int.floor_eq_iff]
    constructor
    · exact_mod_cast hge
    · linarith
  obtain ⟨rest, hperm⟩ := exists_perm_cons ha
  obtain ⟨hscale, hrescale⟩ := h ⌈1 / (l.map f).prod⌉ l (a :: rest) l (.refl l) hperm.symm (.refl l)
  rw [hscale, hone] at hrescale
  exact part_of_rescale_one (fun b hb => hf b (hperm.mem_iff.mpr hb)) hperm.symm hrescale

end Only

/-- Cutting off after each factor loses nothing exactly if all factors are integers or all are parts of one. -/
theorem scales_iff (hf : ∀ a ∈ l, 0 < f a) :
    Scales f l ↔ (∀ a ∈ l, ∃ k : Int, f a = k) ∨ ∀ a ∈ l, ∃ k : ℕ, f a = 1 / k := by
  constructor
  · intro h
    rcases le_or_gt 1 (l.map f).prod with hprod | hprod
    · exact .inl fun a ha => h.integer_of_one_le hf ha hprod
    · exact .inr fun a ha => h.part_of_lt_one hf ha hprod
  · intro hcases n l₁ l₂ l₃ h₁ h₂ h₃
    have hprod₁ : (l₁.map f).prod = (l.map f).prod := (h₁.map f).prod_eq
    have hprod₂ : (l₂.map f).prod = (l.map f).prod := (h₂.map f).prod_eq
    have hprod₃ : (l₃.map f).prod = (l.map f).prod := (h₃.map f).prod_eq
    rw [rescale, hprod₃]
    rcases hcases with hint | hpart
    · have hscale : (scale f l₁ n : ℚ) = n * (l.map f).prod := by
        rw [scale_of_integers (fun a ha => hint a (h₁.mem_iff.mp ha)), hprod₁]
      have hback : scale (fun a => (f a)⁻¹) l₂ (scale f l₁ n) = n :=
        scale_inv_of_integers (fun a ha => hf a (h₂.mem_iff.mp ha)) (fun a ha => hint a (h₂.mem_iff.mp ha))
          (by rw [hscale, hprod₂])
      rw [hback, ← hscale, int_intCast]
      exact ⟨rfl, rfl⟩
    · have hscale : scale f l₁ n = int (n * (l.map f).prod) := by
        rw [scale_of_parts (fun a ha => hpart a (h₁.mem_iff.mp ha)), hprod₁]
      have hinv : ∀ a ∈ l₂, ∃ k : Int, (f a)⁻¹ = k := by
        intro a ha
        obtain ⟨k, hk⟩ := hpart a (h₂.mem_iff.mp ha)
        exact ⟨k, by rw [hk, one_div, inv_inv, Int.cast_natCast]⟩
      have hprod : (l.map f).prod ≠ 0 := (prod_map_pos hf).ne'
      refine ⟨hscale, ?_⟩
      rw [scale_of_integers hinv, prod_map_inv, hprod₂, inv_mul_cancel_right₀ hprod, int_intCast]

end Inverse

end LoveApi.Go
