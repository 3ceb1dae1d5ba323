import Mathlib.Logic.Relation
import Mathlib.Tactic.Common

/-!
# Loops

A loop repeats its body until the body is done or a number of rounds is reached; a measure that every round decreases
bounds the rounds it needs.
-/

namespace LoveApi.Program

inductive Next (σ ρ : Type)
  | again (state : σ)
  | done (result : ρ)

variable {σ ρ : Type}

/-- The result of a loop, if it is done within `fuel` rounds. -/
def loop (body : σ → Next σ ρ) : Nat → σ → Option ρ
  | 0, _ => none
  | fuel + 1, s =>
    match body s with
    | .done r => some r
    | .again s => loop body fuel s

section Rules

variable {body : σ → Next σ ρ}

lemma loop_of_done {s : σ} {r : ρ} (h : body s = .done r) (fuel : Nat) : loop body (fuel + 1) s = some r := by
  rw [loop, h]

lemma loop_of_again {s s' : σ} (h : body s = .again s') (fuel : Nat) :
    loop body (fuel + 1) s = loop body fuel s' := by
  rw [loop, h]

/-- A loop whose measure falls returns one result at every fuel above the measure. -/
theorem exists_loop (measure : σ → Nat) (h : ∀ s s', body s = .again s' → measure s' < measure s) (s : σ) :
    ∃ r, ∀ fuel, measure s < fuel → loop body fuel s = some r := by
  induction hm : measure s using Nat.strongRecOn generalizing s with
  | _ m ih =>
    rcases hbody : body s with s' | r
    · have hlt := h s s' hbody
      obtain ⟨r, hr⟩ := ih (measure s') (hm ▸ hlt) s' rfl
      refine ⟨r, fun fuel hfuel => ?_⟩
      obtain ⟨fuel, rfl⟩ : ∃ n, fuel = n + 1 := ⟨fuel - 1, by omega⟩
      rw [loop_of_again hbody]
      exact hr fuel (by omega)
    · refine ⟨r, fun fuel hfuel => ?_⟩
      obtain ⟨fuel, rfl⟩ : ∃ n, fuel = n + 1 := ⟨fuel - 1, by omega⟩
      exact loop_of_done hbody fuel

/-- The invariant rule of a loop. -/
theorem loop_induction {Inv : σ → Prop} {Q : ρ → Prop} (hagain : ∀ s s', Inv s → body s = .again s' → Inv s')
    (hdone : ∀ s r, Inv s → body s = .done r → Q r) {fuel : Nat} {s : σ} {r : ρ} (hs : Inv s)
    (h : loop body fuel s = some r) : Q r := by
  induction fuel generalizing s with
  | zero => cases h
  | succ fuel ih =>
    rcases hbody : body s with s' | r'
    · rw [loop_of_again hbody] at h
      exact ih (hagain s s' hs hbody) h
    · rw [loop_of_done hbody] at h
      obtain rfl := Option.some.inj h
      exact hdone s r' hs hbody

/-- A round goes on with a state of one kind, or is done with a result of another. -/
def Next.All (P : σ → Prop) (Q : ρ → Prop) : Next σ ρ → Prop
  | .again s => P s
  | .done r => Q r

/-- The invariant rule, with one condition on the body. -/
theorem loop_all {P : σ → Prop} {Q : ρ → Prop} (h : ∀ s, P s → (body s).All P Q) {fuel : Nat} {s : σ} {r : ρ} (hs : P s)
    (hrun : loop body fuel s = some r) : Q r := by
  apply loop_induction _ _ hs hrun
  · intro s s' hs hbody
    have hall := h s hs
    rwa [hbody] at hall
  · intro s r hs hbody
    have hall := h s hs
    rwa [hbody] at hall

def Reaches (body : σ → Next σ ρ) : σ → σ → Prop := Relation.ReflTransGen fun s s' => body s = .again s'

lemma Reaches.loop {s s' : σ} {fuel : Nat} {r : ρ} (h : Reaches body s s') (hrun : loop body fuel s = some r) :
    ∃ fuel', loop body fuel' s' = some r := by
  induction h with
  | refl => exact ⟨fuel, hrun⟩
  | tail _ hbody ih =>
    obtain ⟨fuel', hrun'⟩ := ih
    cases fuel' with
    | zero => cases hrun'
    | succ fuel' => exact ⟨fuel', loop_of_again hbody fuel' ▸ hrun'⟩

end Rules

section Simulation

variable {τ υ : Type}

inductive Next.Rel (R : σ → τ → Prop) (Q : ρ → υ → Prop) : Next σ ρ → Next τ υ → Prop
  | again {s : σ} {t : τ} (h : R s t) : Next.Rel R Q (.again s) (.again t)
  | done {r : ρ} {u : υ} (h : Q r u) : Next.Rel R Q (.done r) (.done u)

/-- Loops with related bodies return related results. -/
theorem loop_simulation {body : σ → Next σ ρ} {body' : τ → Next τ υ} {R : σ → τ → Prop} {Q : ρ → υ → Prop}
    (h : ∀ s t, R s t → Next.Rel R Q (body s) (body' t)) {fuel : Nat} {s : σ} {t : τ} {r : ρ} (hst : R s t)
    (hrun : loop body fuel s = some r) : ∃ u, loop body' fuel t = some u ∧ Q r u := by
  induction fuel generalizing s t with
  | zero => cases hrun
  | succ fuel ih =>
    have hrel := h s t hst
    rcases hbody : body s with s' | r' <;> rcases hbody' : body' t with t' | u' <;> rw [hbody, hbody'] at hrel
    · cases hrel with
      | again hst' =>
        rw [loop_of_again hbody] at hrun
        rw [loop_of_again hbody']
        exact ih hst' hrun
    · cases hrel
    · cases hrel
    · cases hrel with
      | done hQ =>
        rw [loop_of_done hbody] at hrun
        cases hrun
        exact ⟨u', loop_of_done hbody' fuel, hQ⟩

end Simulation

end LoveApi.Program
