import Mathlib.Data.List.Basic

/-!
# Keyed tables

A table maps primary keys to rows and lists its keys in insertion order. `update` is `UPDATE .. WHERE key = k`: it
touches the row with that key and no other.
-/

namespace LoveApi.Program

open List Option

/-- A table with primary keys in `κ` and rows in `α`: each key is listed once, and the listed
keys are those that have a row. -/
@[ext] structure Table (κ α : Type) where
  keys : List κ
  row : κ → Option α
  nodup : keys.Nodup
  mem_keys : ∀ k, k ∈ keys ↔ (row k).isSome

namespace Table

variable {κ α : Type}
variable {t : Table κ α} {k : κ} {β : Type} {f g : α → α}

def empty : Table κ α := ⟨[], fun _ => none, List.nodup_nil, by simp⟩

def rows (t : Table κ α) : List (κ × α) :=
  t.keys.filterMap fun k => (t.row k).map fun a => (k, a)

lemma mem_rows {a : α} : (k, a) ∈ t.rows ↔ t.row k = some a := by
  unfold rows
  rw [mem_filterMap]
  constructor
  · rintro ⟨j, -, hr⟩
    obtain ⟨b, hb, he⟩ := map_eq_some_iff.mp hr
    cases he
    exact hb
  · intro h
    exact ⟨k, (t.mem_keys k).mpr (by rw [h]; rfl), by rw [h]; rfl⟩

lemma map_fst_rows {t : Table κ α} : t.rows.map Prod.fst = t.keys := by
  unfold rows
  rw [map_filterMap]
  conv_rhs => rw [← filterMap_some (l := t.keys)]
  refine filterMap_congr fun k hk => ?_
  obtain ⟨a, ha⟩ := isSome_iff_exists.mp ((t.mem_keys k).mp hk)
  simp [ha]

lemma nodup_rows (t : Table κ α) : (t.rows.map Prod.fst).Nodup := by
  rw [map_fst_rows]
  exact t.nodup

lemma length_rows (t : Table κ α) : t.rows.length = t.keys.length := by
  rw [← map_fst_rows, length_map]

/-- `UPDATE .. WHERE ..` on any number of rows: `f` is the change of the row with a key. -/
def modify (t : Table κ α) (f : κ → α → α) : Table κ α where
  keys := t.keys
  row k := (t.row k).map (f k)
  nodup := t.nodup
  mem_keys k := by rw [Option.isSome_map]; exact t.mem_keys k

@[simp] lemma row_modify (t : Table κ α) (f : κ → α → α) (k : κ) : (t.modify f).row k = (t.row k).map (f k) :=
  rfl

lemma rows_modify (t : Table κ α) (f : κ → α → α) : (t.modify f).rows = t.rows.map fun r => (r.1, f r.1 r.2) := by
  unfold rows
  rw [List.map_filterMap]
  apply filterMap_congr
  intro k _
  rw [row_modify, Option.map_map, Option.map_map]
  rfl

def filter (t : Table κ α) (p : κ → α → Bool) : Table κ α where
  keys := t.keys.filter fun k => (t.row k).any (p k)
  row k := (t.row k).filter (p k)
  nodup := t.nodup.filter _
  mem_keys k := by
    rw [List.mem_filter, t.mem_keys]
    cases t.row k with
    | none => simp
    | some a => cases h : p k a <;> simp [Option.filter, h]

@[simp] lemma row_filter (t : Table κ α) (p : κ → α → Bool) (k : κ) : (t.filter p).row k = (t.row k).filter (p k) := rfl

def map {β : Type} (t : Table κ α) (f : α → β) : Table κ β where
  keys := t.keys
  row k := (t.row k).map f
  nodup := t.nodup
  mem_keys k := by rw [Option.isSome_map]; exact t.mem_keys k

@[simp] lemma row_map {t : Table κ α} {f : α → β} {k : κ} : (t.map f).row k = (t.row k).map f := rfl

variable [DecidableEq κ]

def update (t : Table κ α) (k : κ) (f : α → α) : Table κ α where
  keys := t.keys
  row j := if j = k then (t.row k).map f else t.row j
  nodup := t.nodup
  mem_keys j := by
    by_cases hj : j = k
    · subst hj
      simpa using t.mem_keys j
    · simpa [hj] using t.mem_keys j

def erase (t : Table κ α) (k : κ) : Table κ α where
  keys := t.keys.filter (· ≠ k)
  row j := if j = k then none else t.row j
  nodup := t.nodup.filter _
  mem_keys j := by
    by_cases hj : j = k
    · simp [hj]
    · simpa [hj] using t.mem_keys j

/-- A new row; a row that exists already stays as it is. -/
def insert (t : Table κ α) (k : κ) (a : α) : Table κ α :=
  if h : k ∈ t.keys then t
  else {
    keys := t.keys ++ [k]
    row := fun j => if j = k then some a else t.row j
    nodup := List.nodup_append.mpr ⟨t.nodup, List.pairwise_singleton _ k, by
      rintro b hb c hc rfl
      exact h (List.mem_singleton.mp hc ▸ hb)⟩
    mem_keys := fun j => by
      by_cases hj : j = k
      · simp [hj]
      · simpa [hj] using t.mem_keys j }

lemma row_insert (a : α) (h : t.row k = none) (j : κ) : (t.insert k a).row j = if j = k then some a else t.row j := by
  have hk : k ∉ t.keys := by simp [t.mem_keys, h]
  simp [insert, hk]

lemma row_insert_or (t : Table κ α) (k j : κ) (a : α) :
    (t.insert k a).row j = (t.row j).or (if j = k then some a else none) := by
  by_cases hk : k ∈ t.keys
  · have hrow : t.insert k a = t := by simp [insert, hk]
    obtain ⟨b, hb⟩ := isSome_iff_exists.mp ((t.mem_keys k).mp hk)
    rw [hrow]
    split
    · next hj => rw [hj, hb, some_or]
    · rw [or_none]
  · have hnone : t.row k = none := by simpa [t.mem_keys] using hk
    rw [row_insert a hnone]
    split
    · next hj => rw [hj, hnone, none_or]
    · rw [or_none]

lemma rows_insert (a : α) (h : t.row k = none) : (t.insert k a).rows = t.rows ++ [(k, a)] := by
  have hk : k ∉ t.keys := by simp [t.mem_keys, h]
  have hold : ∀ j ∈ t.keys, ((t.insert k a).row j).map (fun b => (j, b)) = (t.row j).map fun b => (j, b) := by
    intro j hj
    rw [row_insert a h, if_neg (ne_of_mem_of_not_mem hj hk)]
  have hkeys : (t.insert k a).keys = t.keys ++ [k] := by simp [insert, hk]
  unfold rows
  rw [hkeys, filterMap_append, filterMap_congr hold]
  simp [row_insert a h]

lemma row_erase (t : Table κ α) (j k : κ) : (t.erase k).row j = if j = k then none else t.row j := rfl

@[simp] lemma row_update_self (t : Table κ α) (k : κ) (f : α → α) : (t.update k f).row k = (t.row k).map f := by
  simp [update]

lemma row_update_of_ne (t : Table κ α) {j : κ} (h : j ≠ k) (f : α → α) : (t.update k f).row j = t.row j := by
  simp [update, h]

lemma row_update (t : Table κ α) (j k : κ) (f : α → α) :
    (t.update k f).row j = if j = k then (t.row k).map f else t.row j := rfl

lemma rows_update {t : Table κ α} {k : κ} {f : α → α} :
    (t.update k f).rows = t.rows.map fun r => if r.1 = k then (r.1, f r.2) else r := by
  have h : t.update k f = t.modify fun j a => if j = k then f a else a := by
    ext j : 2
    · rfl
    · rw [row_update, row_modify]
      split
      · next hj =>
        subst hj
        rfl
      · rw [Option.map_id']
  rw [h, rows_modify]
  refine map_congr_left fun r _ => ?_
  split
  · rfl
  · rfl

lemma find?_rows_update (t : Table κ α) (k : κ) (f : α → α) {p : κ × α → Bool} (hp : ∀ j a, p (j, f a) = p (j, a)) :
    (t.update k f).rows.find? p = (t.rows.find? p).map fun r => if r.1 = k then (r.1, f r.2) else r := by
  rw [rows_update, find?_map]
  congr 1
  apply congrArg (find? · t.rows)
  funext r
  rw [Function.comp_apply]
  split
  · exact hp r.1 r.2
  · rfl

lemma update_eq_self (t : Table κ α) (k : κ) (h : ∀ a ∈ t.row k, f a = a) : t.update k f = t := by
  ext1
  · rfl
  · funext j
    by_cases hj : j = k
    · subst hj
      rcases hr : t.row j with _ | a
      · simp [hr]
      · simp [hr, h a hr]
    · rw [row_update_of_ne t hj]

lemma update_congr (t : Table κ α) (k : κ) (h : ∀ a ∈ t.row k, f a = g a) : t.update k f = t.update k g := by
  ext1
  · rfl
  · funext j
    rw [row_update, row_update]
    split
    · cases hr : t.row k with
      | none => rfl
      | some a => exact congrArg some (h a hr)
    · rfl

lemma update_update {t : Table κ α} {k : κ} {f g : α → α} : (t.update k f).update k g = t.update k (g ∘ f) := by
  ext1
  · rfl
  · funext j
    by_cases hj : j = k
    · subst hj
      simp
    · simp only [row_update_of_ne _ hj]

lemma update_update_cancel (t : Table κ α) (k : κ) (h : ∀ a ∈ t.row k, g (f a) = a) :
    (t.update k f).update k g = t := by
  rw [update_update]
  exact update_eq_self t k h

lemma map_update (t : Table κ α) (k : κ) {g : α → β} {h : β → β} (hcomm : ∀ a, g (f a) = h (g a)) :
    (t.update k f).map g = (t.map g).update k h := by
  ext1
  · rfl
  · funext j
    rw [row_map, row_update, row_update, row_map, row_map]
    split
    · rw [Option.map_map, Option.map_map]
      congr 1
      exact funext hcomm
    · rfl

/-- A row written whether the key has one or not. -/
def put (t : Table κ α) (k : κ) (a : α) : Table κ α := (t.insert k a).update k fun _ => a

lemma row_put (t : Table κ α) (j k : κ) (a : α) : (t.put k a).row j = if j = k then some a else t.row j := by
  unfold put
  by_cases hk : k ∈ t.keys
  · obtain ⟨b, hb⟩ := isSome_iff_exists.mp ((t.mem_keys k).mp hk)
    simp [row_update, insert, hk, hb]
  · have hnone : t.row k = none := by simpa [t.mem_keys] using hk
    rw [row_update, row_insert a hnone, row_insert a hnone, if_pos rfl]
    split
    · rfl
    · rfl

/-- The largest key of a table with generated keys, and 0 for an empty one. -/
def lastId (t : Table Int α) : Int := t.keys.foldr max 0

lemma le_lastId {t : Table Int α} {id : Int} (h : id ∈ t.keys) : id ≤ t.lastId := by
  unfold lastId
  revert h
  induction t.keys with
  | nil => simp
  | cons a l ih =>
    intro h
    rw [foldr_cons]
    rcases mem_cons.mp h with rfl | h
    · omega
    · have := ih h
      omega

lemma lastId_nonneg (t : Table Int α) : 0 ≤ t.lastId := by
  unfold lastId
  induction t.keys with
  | nil => exact Int.le_refl 0
  | cons a l ih =>
    rw [foldr_cons]
    omega

lemma row_lastId_succ (t : Table Int α) : t.row (t.lastId + 1) = none := by
  by_contra h
  have hmem : t.lastId + 1 ∈ t.keys := (t.mem_keys _).mpr (isSome_iff_ne_none.mpr h)
  have := le_lastId hmem
  omega

end Table

end LoveApi.Program
