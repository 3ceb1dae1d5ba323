import Mathlib.Algebra.BigOperators.Group.List.Basic
import Mathlib.Algebra.GroupWithZero.Nat

/-!
# Systems of atomic steps

A system takes one atomic step at a time, and a schedule names the steps. A step that has to wait changes nothing. The
components of a system share a state and have a local one each.
-/

namespace LoveApi.Program

open List Option

/-- The steps of a system. A step that waits is `none`. -/
structure System (α σ : Type) where
  step : α → σ → Option σ

namespace System

variable {α σ : Type} (sys : System α σ)

def run : List α → σ → σ
  | [], x => x
  | a :: sched, x => run sched ((sys.step a x).getD x)

variable {sys}

/-- What every step keeps holds after a run. -/
theorem run_induction {I : σ → Prop} {sched : List α}
    (hstep : ∀ a ∈ sched, ∀ x y, sys.step a x = some y → I x → I y) {x : σ} (hx : I x) : I (sys.run sched x) := by
  induction sched generalizing x with
  | nil => exact hx
  | cons a sched ih =>
    apply ih fun b hb => hstep b (mem_cons_of_mem a hb)
    cases h : sys.step a x with
    | none => exact hx
    | some y => exact hstep a mem_cons_self x y h hx

/-- A quantity to which each step adds its own share, and to which a step that waits would add nothing. -/
theorem run_sum {M : Type} [AddCommMonoid M] {f : σ → M} {added : α → M}
    (hstep : ∀ a x y, sys.step a x = some y → f y = f x + added a)
    (hwait : ∀ a x, sys.step a x = none → added a = 0) (sched : List α) (x : σ) :
    f (sys.run sched x) = f x + (sched.map added).sum := by
  induction sched generalizing x with
  | nil => simp [run]
  | cons a sched ih =>
    rw [run, ih, map_cons, sum_cons, ← add_assoc]
    congr 1
    cases h : sys.step a x with
    | none => rw [getD_none, hwait a x h, add_zero]
    | some y => rw [getD_some, hstep a x y h]

lemma run_append (s t : List α) (x : σ) : sys.run (s ++ t) x = sys.run t (sys.run s x) := by
  induction s generalizing x with
  | nil => rfl
  | cons a s ih => exact ih _

/-- A property that a step brings about only where `Q` holds: after a run it held at the start, or `Q` held on the
way. -/
theorem run_origin {P Q : σ → Prop} (hstep : ∀ a x y, sys.step a x = some y → P y → P x ∨ Q x) {sched : List α} {x : σ}
    (h : P (sys.run sched x)) : P x ∨ ∃ before, before <+: sched ∧ Q (sys.run before x) := by
  induction sched generalizing x with
  | nil => exact .inl h
  | cons a sched ih =>
    rcases ih h with hx | ⟨before, hbefore, hQ⟩
    · cases hy : sys.step a x with
      | none =>
        rw [hy] at hx
        exact .inl hx
      | some y =>
        rw [hy] at hx
        exact (hstep a x y hy hx).imp_right fun hQ => ⟨[], nil_prefix, hQ⟩
    · exact .inr ⟨a :: before, cons_prefix_cons.mpr ⟨rfl, hbefore⟩, hQ⟩

end System

/-- Components that share a state: component `i` takes its next step. -/
def interleave {σ κ : Type} (next : κ → σ → Option (κ × σ)) : System Nat (σ × List κ) where
  step i x :=
    match x.2[i]? with
    | none => none
    | some c => (next c x.1).map fun r => (r.2, x.2.set i r.1)

/-- Components that share a state and choose their steps: component `i` takes the step `a`. -/
def components {α σ κ : Type} (next : α → κ → σ → Option (κ × σ)) : System (Nat × α) (σ × List κ) where
  step a x :=
    match x.2[a.1]? with
    | none => none
    | some c => (next a.2 c x.1).map fun r => (r.2, x.2.set a.1 r.1)

lemma components_cases {α σ κ : Type} {next : α → κ → σ → Option (κ × σ)} {a : Nat × α} {x y : σ × List κ}
    (h : (components next).step a x = some y) :
    ∃ c c' s, x.2[a.1]? = some c ∧ next a.2 c x.1 = some (c', s) ∧ y = (s, x.2.set a.1 c') := by
  simp only [components] at h
  cases hc : x.2[a.1]? with
  | none => simp [hc] at h
  | some c =>
    simp only [hc, map_eq_some_iff] at h
    obtain ⟨⟨c', s⟩, hnext, rfl⟩ := h
    exact ⟨c, c', s, rfl, hnext, rfl⟩

lemma interleave_cases {σ κ : Type} {next : κ → σ → Option (κ × σ)} {i : Nat} {x y : σ × List κ}
    (h : (interleave next).step i x = some y) :
    ∃ c c' s, x.2[i]? = some c ∧ next c x.1 = some (c', s) ∧ y = (s, x.2.set i c') := by
  have hstep : (components fun _ : Unit => next).step (i, ()) x = some y := h
  exact components_cases hstep

section Components

variable {κ : Type} {l : List κ} {i j : Nat} {a b c : κ} {p : κ → Bool}

lemma forall_mem_set {P Q : κ → Prop} (h : ∀ c ∈ l, P c) (hkeep : ∀ c, P c → Q c) (hb : Q b) :
    ∀ c ∈ l.set i b, Q c := by
  intro c hc
  rcases mem_or_eq_of_mem_set hc with hc | rfl
  · exact hkeep c (h c hc)
  · exact hb

lemma mem_set_of_getElem? (hc : l[i]? = some c) (ha : a ∈ l) (hne : a ≠ c) : a ∈ l.set i b := by
  obtain ⟨j, hj⟩ := mem_iff_getElem?.mp ha
  have hij : i ≠ j := by
    rintro rfl
    exact hne (some.inj (hj.symm.trans hc))
  exact mem_of_getElem? ((getElem?_set_ne hij).trans hj)

lemma exists_append_of_getElem? (h : l[i]? = some a) : ∃ s t, l = s ++ a :: t ∧ ∀ b, l.set i b = s ++ b :: t := by
  obtain ⟨hi, rfl⟩ := List.getElem?_eq_some_iff.mp h
  exact ⟨l.take i, l.drop (i + 1), by simp, fun b => by rw [set_eq_take_append_cons_drop, if_pos hi]⟩

section Sums

variable {M : Type} [AddCommMonoid M] {gs : List M} {g g' : M}

lemma sum_set_add (h : gs[i]? = some g) : ∃ rest, gs.sum = g + rest ∧ ∀ g', (gs.set i g').sum = g' + rest := by
  obtain ⟨s, t, rfl, hset⟩ := exists_append_of_getElem? h
  exact ⟨s.sum + t.sum, by simp [add_left_comm], fun g' => by simp [hset, add_left_comm]⟩

lemma sum_eq_add_add (hi : gs[i]? = some g) (hj : gs[j]? = some g') (hij : i ≠ j) :
    ∃ rest, gs.sum = g + (g' + rest) := by
  obtain ⟨rest, hsum, hset⟩ := sum_set_add hi
  have hj' : (gs.set i 0)[j]? = some g' := by rw [getElem?_set_ne hij, hj]
  obtain ⟨rest', hrest, -⟩ := sum_set_add hj'
  rw [hset 0, zero_add] at hrest
  exact ⟨rest', by rw [hsum, hrest]⟩

lemma sum_map_set_add (f : κ → M) (h : l[i]? = some a) : ((l.set i b).map f).sum + f a = (l.map f).sum + f b := by
  have hf : (l.map f)[i]? = some (f a) := by rw [getElem?_map, h, map_some]
  obtain ⟨rest, hsum, hset⟩ := sum_set_add hf
  rw [map_set, hset, hsum, add_right_comm, add_right_comm (f a), add_comm (f b)]

end Sums

lemma countP_eq_sum : l.countP p = (l.map fun c => (p c).toNat).sum := by
  induction l with
  | nil => rfl
  | cons c l ih =>
    rw [countP_cons, map_cons, sum_cons, ih, add_comm]
    cases p c <;> rfl

lemma countP_set_add (h : l[i]? = some a) : (l.set i b).countP p + (p a).toNat = l.countP p + (p b).toNat := by
  simp only [countP_eq_sum]
  exact sum_map_set_add (fun c => (p c).toNat) h

lemma countP_pos_of_getElem? (h : l[i]? = some a) (ha : p a) : 0 < l.countP p :=
  countP_pos_iff.mpr ⟨a, mem_of_getElem? h, ha⟩

lemma toNat_le_countP (h : l[i]? = some a) : (p a).toNat ≤ l.countP p := by
  cases ha : p a with
  | false => exact Nat.zero_le _
  | true => exact countP_pos_of_getElem? h ha

lemma eq_of_countP_le_one (hcount : l.countP p ≤ 1) (hi : l[i]? = some a) (ha : p a) (hj : l[j]? = some b) (hb : p b) :
    i = j := by
  by_contra hij
  have hi' : (l.map fun c => (p c).toNat)[i]? = some 1 := by simp [hi, ha]
  have hj' : (l.map fun c => (p c).toNat)[j]? = some 1 := by simp [hj, hb]
  obtain ⟨rest, hsum⟩ := sum_eq_add_add hi' hj' hij
  rw [countP_eq_sum, hsum] at hcount
  omega

end Components

end LoveApi.Program
