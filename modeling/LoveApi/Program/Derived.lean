import LoveApi.Program.Table

/-!
# Derived tables

A table is derived from another one if its rows are the images of the other's rows, so a change at some keys can be
checked at those keys.
-/

namespace LoveApi.Program

variable {ι κ α β : Type} {image : α → ι → Option β} {base base' : Table κ α} {view view' : Table (ι × κ) β}

/-- Every row of the view is computed from its base row. -/
def Derived (image : α → ι → Option β) (base : Table κ α) (view : Table (ι × κ) β) : Prop :=
  ∀ j k, view.row (j, k) = (base.row k).bind (image · j)

lemma Derived.iff_on (h : Derived image base view) (p : κ → Prop) (hbase : ∀ k, ¬p k → base'.row k = base.row k)
    (hview : ∀ j k, ¬p k → view'.row (j, k) = view.row (j, k)) :
    Derived image base' view' ↔ ∀ k, p k → ∀ j, view'.row (j, k) = (base'.row k).bind (image · j) := by
  constructor
  · intro h' k _ j
    exact h' j k
  · intro h' j k
    by_cases hk : p k
    · exact h' k hk j
    · rw [hview j k hk, hbase k hk]
      exact h j k

lemma Derived.iff_at (h : Derived image base view) (k : κ) (hbase : ∀ k', k' ≠ k → base'.row k' = base.row k')
    (hview : ∀ j k', k' ≠ k → view'.row (j, k') = view.row (j, k')) :
    Derived image base' view' ↔ ∀ j, view'.row (j, k) = (base'.row k).bind (image · j) :=
  (h.iff_on (· = k) hbase hview).trans forall_eq

lemma Derived.modify_iff (h : Derived image base view) (f : κ → α → α) (g : ι × κ → β → β) :
    Derived image (base.modify f) (view.modify g) ↔
      ∀ k a, base.row k = some a → ∀ j, image (f k a) j = (image a j).map (g (j, k)) := by
  constructor
  · intro h' k a hrow j
    have hview := h' j k
    rw [Table.row_modify, Table.row_modify, h j k, hrow] at hview
    exact hview.symm
  · intro h' j k
    rw [Table.row_modify, Table.row_modify, h j k]
    cases hrow : base.row k with
    | none => rfl
    | some a => exact (h' k a hrow j).symm

end LoveApi.Program
