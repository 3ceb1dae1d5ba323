import Mathlib.Data.List.Range
import Mathlib.Tactic.Ring

/-!
# Streams of blocks

A stream starts and stops numbered blocks. The blocks that are open have consecutive numbers.
-/

namespace LoveApi.Program

open List

lemma append_singleton_eq_append_cons {α : Type} {l before after : List α} {x a : α}
    (h : l ++ [x] = before ++ a :: after) :
    (∃ rest, l = before ++ a :: rest ∧ after = rest ++ [x]) ∨ l = before ∧ x = a ∧ after = [] := by
  induction after using reverseRecOn with
  | nil =>
    obtain ⟨hl, hx⟩ := append_inj' h rfl
    exact .inr ⟨hl, by simpa using hx, rfl⟩
  | append_singleton rest y _ =>
    rw [← cons_append, ← append_assoc] at h
    obtain ⟨hl, hx⟩ := append_inj' h rfl
    exact .inl ⟨rest, hl, by simpa using hx.symm⟩

/-- The events by which a stream starts and stops its blocks. -/
structure BlockEvents (ε : Type) where
  startIndex : ε → Option Int
  stop : Int → ε
  stop_injective : Function.Injective stop
  startIndex_stop : ∀ i, startIndex (stop i) = none

namespace BlockEvents

variable {ε : Type} [DecidableEq ε] {B : BlockEvents ε} {events : List ε} {lo hi : Int}

/-- Every start of a block before `lo` has exactly one later stop. -/
def SettledBelow (B : BlockEvents ε) (lo : Int) (events : List ε) : Prop :=
  ∀ before e after, events = before ++ e :: after → ∀ i ∈ B.startIndex e, i < lo → after.count (B.stop i) = 1

lemma settledBelow_append {e : ε} (hstop : ∀ i, e ≠ B.stop i) :
    B.SettledBelow lo (events ++ [e]) ↔ B.SettledBelow lo events ∧ ∀ i ∈ B.startIndex e, lo ≤ i := by
  have hcount (after : List ε) (i : Int) : (after ++ [e]).count (B.stop i) = after.count (B.stop i) := by
    simp [count_append, hstop i]
  constructor
  · refine fun h => ⟨fun before f after hsplit i hi hlt => ?_, fun i hi => ?_⟩
    · rw [← hcount]
      exact h before f (after ++ [e]) (by simp [hsplit]) i hi hlt
    · by_contra hlt
      simpa using h events e [] rfl i hi (not_le.mp hlt)
  · rintro ⟨h, hlow⟩ before f after hsplit i hi hlt
    rcases append_singleton_eq_append_cons hsplit with ⟨rest, hevents, rfl⟩ | ⟨-, rfl, -⟩
    · rw [hcount]
      exact h before f rest hevents i hi hlt
    · exact absurd hlt (not_lt.mpr (hlow i hi))

lemma settledBelow_stop (hstops : B.stop lo ∉ events) :
    B.SettledBelow (lo + 1) (events ++ [B.stop lo]) ↔ B.SettledBelow lo events := by
  have hcount (after : List ε) (i : Int) :
      (after ++ [B.stop lo]).count (B.stop i) = after.count (B.stop i) + if i = lo then 1 else 0 := by
    rw [count_append, count_singleton]
    simp only [beq_iff_eq, B.stop_injective.eq_iff, eq_comm (a := lo)]
  constructor
  · intro h before e after hsplit i hi hlt
    have hlater := h before e (after ++ [B.stop lo]) (by simp [hsplit]) i hi (by omega)
    rwa [hcount, if_neg hlt.ne] at hlater
  · intro h before e after hsplit i hi hlt
    rcases append_singleton_eq_append_cons hsplit with ⟨rest, hevents, rfl⟩ | ⟨-, rfl, -⟩
    · rw [hcount]
      rcases (Int.lt_add_one_iff.mp hlt).lt_or_eq with hbefore | rfl
      · rw [if_neg hbefore.ne, h before e rest hevents i hi hbefore]
      · -- The block that is stopped here has no earlier stop.
        rw [if_pos rfl, count_eq_zero.mpr fun hmem => hstops (by simp [hevents, hmem])]
    · simp [B.startIndex_stop] at hi

/-- The blocks from `lo` to `hi` may be open; the stops of those before `lo` are right exactly if `ok` holds. -/
structure OpenRange (B : BlockEvents ε) (ok : Prop) (lo hi : Int) (events : List ε) : Prop where
  starts : ∀ e ∈ events, ∀ i ∈ B.startIndex e, i < hi
  stops : ∀ i, B.stop i ∈ events → i < lo
  settled : B.SettledBelow lo events ↔ ok

namespace OpenRange

variable {ok : Prop}

lemma settled_iff (h : B.OpenRange ok lo lo events) :
    (∀ before e after, events = before ++ e :: after → ∀ i ∈ B.startIndex e, after.count (B.stop i) = 1) ↔ ok := by
  rw [← h.settled]
  refine ⟨fun hall before e after hsplit i hi _ => hall before e after hsplit i hi,
    fun hall before e after hsplit i hi => hall before e after hsplit i hi (h.starts e (by simp [hsplit]) i hi)⟩

lemma append (h : B.OpenRange ok lo hi events) {e : ε} {hi' : Int} (hstop : ∀ i, e ≠ B.stop i) (hle : hi ≤ hi')
    (hlt : ∀ i ∈ B.startIndex e, i < hi') :
    B.OpenRange (ok ∧ ∀ i ∈ B.startIndex e, lo ≤ i) lo hi' (events ++ [e]) where
  starts f hf i hi := by
    rcases mem_append.mp hf with hf | hf
    · exact (h.starts f hf i hi).trans_le hle
    · rw [mem_singleton.mp hf] at hi
      exact hlt i hi
  stops i hmem := by
    rcases mem_append.mp hmem with hmem | hmem
    · exact h.stops i hmem
    · exact absurd (mem_singleton.mp hmem).symm (hstop i)
  settled := by rw [settledBelow_append hstop, h.settled]

lemma widen (h : B.OpenRange ok lo hi events) {hi' : Int} (hle : hi ≤ hi') : B.OpenRange ok lo hi' events :=
  ⟨fun e he i hi => (h.starts e he i hi).trans_le hle, h.stops, h.settled⟩

lemma stop (h : B.OpenRange ok lo hi events) : B.OpenRange ok (lo + 1) hi (events ++ [B.stop lo]) where
  starts e he i hi := by
    rcases mem_append.mp he with he | he
    · exact h.starts e he i hi
    · simp [mem_singleton.mp he, B.startIndex_stop] at hi
  stops i hmem := by
    rcases mem_append.mp hmem with hmem | hmem
    · exact (h.stops i hmem).trans (lt_add_one lo)
    · rw [B.stop_injective (mem_singleton.mp hmem)]
      exact lt_add_one lo
  settled := by rw [settledBelow_stop fun hmem => (h.stops lo hmem).false, h.settled]

lemma stopAll (h : B.OpenRange ok lo hi events) (n : Nat) :
    B.OpenRange ok (lo + n) hi (events ++ (List.range n).map fun j : Nat => B.stop (lo + j)) := by
  induction n with
  | zero => simpa using h
  | succ n ih =>
    rw [range_succ, map_append, ← append_assoc, Nat.cast_succ, ← add_assoc]
    exact ih.stop

end OpenRange

end BlockEvents

end LoveApi.Program
