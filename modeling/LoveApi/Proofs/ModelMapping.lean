import LoveApi.ModelMapping
import Mathlib.Data.Finset.Card

/-!
# The upstream model is the end of the chain

The chain of the requested model ends or comes back because the table is finite. An attempt of a compact request leaves
its upstream model behind as the requested one.
-/

namespace LoveApi.Proofs

open Program Go List Option

variable {origin : String}

variable {modelMap : ModelTable}

section Chain

variable {model : String} {n : Nat} {s : MappingState}

/-- The model after a mapping that is neither empty nor to itself. -/
def nextModel (modelMap : ModelTable) (model : String) : Option String :=
  (modelMap.lookup model).filter fun mapped => mapped ≠ "" ∧ mapped ≠ model

/-- The models that the mappings lead to, one after the other. -/
def chain (modelMap : ModelTable) (origin : String) : Nat → Option String
  | 0 => some origin
  | n + 1 => (chain modelMap origin n).bind (nextModel modelMap)

/-- The chain comes back to a model. -/
def Cyclic (modelMap : ModelTable) (origin : String) : Prop :=
  ∃ i j model, i < j ∧ chain modelMap origin i = some model ∧ chain modelMap origin j = some model

/-- The first model on the chain that has no mapping, an empty one, or one to itself. -/
def ChainEnd (modelMap : ModelTable) (origin model : String) : Prop :=
  ∃ n, chain modelMap origin n = some model ∧
    ∀ mapped, modelMap.lookup model = some mapped → mapped = "" ∨ mapped = model

lemma nextModel_eq_none_iff :
    nextModel modelMap model = none ↔ ∀ mapped, modelMap.lookup model = some mapped → mapped = "" ∨ mapped = model := by
  simp only [nextModel, filter_eq_none_iff, decide_eq_true_eq, not_and_or, not_not]

lemma chain_none_of_le {i j : Nat} (hij : i ≤ j) (h : chain modelMap origin i = none) :
    chain modelMap origin j = none := by
  induction j, hij using Nat.le_induction with
  | base => exact h
  | succ j _ ih => rw [chain, ih, bind_none]

lemma not_cyclic_of_chainEnd (h : ChainEnd modelMap origin model) : ¬Cyclic modelMap origin := by
  rintro ⟨i, j, repeated, hij, hi, hj⟩
  obtain ⟨n, hn, hend⟩ := h
  have hover : chain modelMap origin (n + 1) = none := by
    rw [chain, hn, bind_some, nextModel_eq_none_iff.mpr hend]
  have hshift : ∀ m, chain modelMap origin (i + m) = chain modelMap origin (j + m) := by
    intro m
    induction m with
    | zero => rw [Nat.add_zero, Nat.add_zero, hi, hj]
    | succ m ih => rw [← Nat.add_assoc, ← Nat.add_assoc, chain, chain, ih]
  have hjn : j ≤ n := by
    by_contra hlt
    rw [chain_none_of_le (by omega) hover] at hj
    cases hj
  have hback := hshift (n + 1 - j)
  rw [Nat.add_sub_cancel' (by omega), hover] at hback
  rw [chain_none_of_le (by omega) hback] at hn
  cases hn

/-- After `n` rounds the loop is at the `n`-th model of the chain and has visited those before it, all different. -/
structure Walked (modelMap : ModelTable) (origin : String) (n : Nat) (s : MappingState) : Prop where
  current : chain modelMap origin n = some s.currentModel
  visited : ∀ model, model ∈ s.visitedModels ↔ ∃ i ≤ n, chain modelMap origin i = some model
  distinct : Set.InjOn (chain modelMap origin) (Set.Iic n)
  mapped : s.isModelMapped = decide (0 < n)

variable (h : Walked modelMap origin n s)

include h

lemma Walked.le_length : n ≤ modelMap.length := by
  have hkeys : ∀ i ∈ Finset.range n, chain modelMap origin i ∈ (modelMap.map fun entry => some entry.1).toFinset := by
    intro i hi
    rw [Finset.mem_range] at hi
    rw [List.mem_toFinset, List.mem_map]
    cases hmodel : chain modelMap origin i with
    | none =>
      have hnone := chain_none_of_le hi.le hmodel
      rw [h.current] at hnone
      cases hnone
    | some model =>
      by_contra hkey
      have hlookup : modelMap.lookup model = none :=
        lookup_eq_none_iff.mpr fun entry hentry => by
          rw [bne_iff_ne]
          rintro rfl
          exact hkey ⟨entry, hentry, rfl⟩
      have hnone : chain modelMap origin (i + 1) = none := by simp [chain, hmodel, nextModel, hlookup]
      have hnone := chain_none_of_le hi hnone
      rw [h.current] at hnone
      cases hnone
  have hcard := Finset.card_le_card_of_injOn (s := Finset.range n) (chain modelMap origin) hkeys fun i hi j hj =>
    h.distinct (Finset.mem_range.mp hi).le (Finset.mem_range.mp hj).le
  rw [Finset.card_range] at hcard
  exact hcard.trans ((toFinset_card_le _).trans (by rw [length_map]))

/-- The loop has ended where the chain does. -/
def EndsRight (modelMap : ModelTable) (origin : String) : MappingEnd → Prop
  | .cycle => Cyclic modelMap origin
  | .returned => ChainEnd modelMap origin origin
  | .left model isModelMapped => ChainEnd modelMap origin model ∧ isModelMapped = decide (model ≠ origin)

lemma Walked.ne_origin : decide (0 < n) = decide (s.currentModel ≠ origin) := by
  rw [decide_eq_decide]
  constructor
  · rintro hn heq
    have := h.distinct (Set.mem_Iic.mpr le_rfl) (Set.mem_Iic.mpr (Nat.zero_le n))
      (h.current.trans (congrArg some heq))
    omega
  · intro hne
    by_contra hn
    obtain rfl : n = 0 := by omega
    exact hne (some.inj h.current).symm

lemma Walked.next {mapped : String}
    (hnext : chain modelMap origin (n + 1) = some mapped) (hnew : mapped ∉ s.visitedModels) :
    Walked modelMap origin (n + 1) ⟨mapped, mapped :: s.visitedModels, true⟩ where
  current := hnext
  visited model := by
    rw [mem_cons, h.visited]
    constructor
    · rintro (rfl | ⟨i, hi, hmodel⟩)
      · exact ⟨n + 1, le_rfl, hnext⟩
      · exact ⟨i, by omega, hmodel⟩
    · rintro ⟨i, hi, hmodel⟩
      rcases Nat.le_succ_iff.mp hi with hi | rfl
      · exact .inr ⟨i, hi, hmodel⟩
      · exact .inl (some.inj (hmodel.symm.trans hnext))
  distinct := by
    have hfresh : ∀ i ≤ n, chain modelMap origin i ≠ chain modelMap origin (n + 1) := by
      intro i hi heq
      exact hnew ((h.visited mapped).mpr ⟨i, hi, heq.trans hnext⟩)
    intro i hi j hj heq
    rcases Nat.le_succ_iff.mp hi with hi | rfl <;> rcases Nat.le_succ_iff.mp hj with hj | rfl
    · exact h.distinct hi hj heq
    · exact absurd heq (hfresh i hi)
    · exact absurd heq.symm (hfresh j hj)
    · rfl
  mapped := by simp

lemma Walked.step :
    (followMapping modelMap origin s).All (Walked modelMap origin (n + 1)) (EndsRight modelMap origin) := by
  unfold followMapping
  cases hlookup : (modelMap.lookup s.currentModel).filter (· ≠ "") with
  | none =>
    refine ⟨⟨n, h.current, fun mapped hmapped => ?_⟩, h.mapped.trans h.ne_origin⟩
    exact .inl (by simpa using filter_eq_none_iff.mp hlookup mapped hmapped)
  | some mapped =>
    obtain ⟨hmapped, hempty⟩ := filter_eq_some_iff.mp hlookup
    dsimp only
    by_cases hself : mapped = s.currentModel
    · have hvisited : mapped ∈ s.visitedModels := (h.visited mapped).mpr ⟨n, le_rfl, hself ▸ h.current⟩
      have hend : ChainEnd modelMap origin s.currentModel := by
        refine ⟨n, h.current, fun other hother => .inr ?_⟩
        exact (some.inj (hother.symm.trans hmapped)).trans hself
      rw [if_pos hvisited, if_pos hself]
      by_cases horigin : s.currentModel = origin
      · rw [if_pos horigin]
        exact horigin ▸ hend
      · rw [if_neg horigin]
        exact ⟨hend, by simp [horigin]⟩
    · have hnext : chain modelMap origin (n + 1) = some mapped := by
        rw [chain, h.current, bind_some, nextModel, hmapped]
        simpa [filter, hself] using hempty
      by_cases hvisited : mapped ∈ s.visitedModels
      · rw [if_pos hvisited, if_neg hself]
        obtain ⟨i, hi, hmodel⟩ := (h.visited mapped).mp hvisited
        exact ⟨i, n + 1, mapped, by omega, hmodel, hnext⟩
      · rw [if_neg hvisited]
        exact h.next hnext hvisited

lemma loop_followMapping (fuel : Nat) (hfuel : modelMap.length < fuel + n) :
    ∃ ended, loop (followMapping modelMap origin) fuel s = some ended ∧ EndsRight modelMap origin ended := by
  induction fuel generalizing n s with
  | zero =>
    have := h.le_length
    omega
  | succ fuel ih =>
    have hstep := h.step
    cases hbody : followMapping modelMap origin s with
    | again s' =>
      rw [hbody] at hstep
      rw [loop_of_again hbody]
      exact ih hstep (by omega)
    | done ended =>
      rw [hbody] at hstep
      exact ⟨ended, loop_of_done hbody fuel, hstep⟩

omit h

/-- The mapping fails exactly if the chain of the requested model comes back to one of its models, and otherwise the
upstream model is the end of the chain. -/
theorem modelMappedHelper_end (modelMap : ModelTable) (origin : String) (fuel : Nat) (hfuel : modelMap.length < fuel) :
    (Cyclic modelMap origin ↔ modelMappedHelper false modelMap fuel (ModelInfo.initChannelMeta origin) =
      some (.error "model_mapping_contains_cycle")) ∧
    (¬Cyclic modelMap origin → ∃ model, ChainEnd modelMap origin model ∧
      modelMappedHelper false modelMap fuel (ModelInfo.initChannelMeta origin) =
        some (.ok ⟨origin, model, decide (model ≠ origin)⟩)) := by
  have hstart : Walked modelMap origin 0 ⟨origin, [origin], false⟩ :=
    ⟨rfl, fun model => by simp [chain, eq_comm], by simp [Set.InjOn], rfl⟩
  obtain ⟨ended, hloop, hended⟩ := loop_followMapping hstart fuel (by omega)
  have hhelper : modelMappedHelper false modelMap fuel (ModelInfo.initChannelMeta origin) = some (match ended with
      | .cycle => .error "model_mapping_contains_cycle"
      | .returned => .ok ⟨origin, origin, false⟩
      | .left model isModelMapped => .ok ⟨origin, if isModelMapped then model else origin, isModelMapped⟩) := by
    have hrun : loop (followMapping modelMap (ModelInfo.initChannelMeta origin).originModelName) fuel
        ⟨mappingModelName false origin, [mappingModelName false origin], false⟩ = some ended := hloop
    cases ended <;> simp_all [modelMappedHelper, ModelInfo.initChannelMeta]
  rw [hhelper]
  cases ended with
  | cycle => exact ⟨iff_of_true hended rfl, fun hnot => absurd hended hnot⟩
  | returned =>
    refine ⟨iff_of_false (not_cyclic_of_chainEnd hended) (by simp), fun _ => ⟨origin, hended, by simp⟩⟩
  | left model isModelMapped =>
    obtain ⟨hend, rfl⟩ := hended
    refine ⟨iff_of_false (not_cyclic_of_chainEnd hend) (by simp), fun _ => ⟨model, hend, ?_⟩⟩
    by_cases hmodel : model = origin <;> simp [hmodel]

/-- A chain that comes back to its second model. -/
theorem modelMappedHelper_end_three : Cyclic [("a", "b"), ("b", "c"), ("c", "b")] "a" ∧
    modelMappedHelper false [("a", "b"), ("b", "c"), ("c", "b")] 4 (ModelInfo.initChannelMeta "a") =
      some (.error "model_mapping_contains_cycle") := by
  have hcyclic : Cyclic [("a", "b"), ("b", "c"), ("c", "b")] "a" := ⟨1, 3, "b", by decide, by decide, by decide⟩
  exact ⟨hcyclic, (modelMappedHelper_end _ "a" 4 (by decide)).1.mp hcyclic⟩

end Chain

section Compact

/-- The upstream model of an attempt that follows attempts on other channels, or the error of the mapping. -/
def upstreamAfter (model : String) (earlier : List ModelTable) (modelMap : ModelTable) :
    Option (Except String String) :=
  (originAfter (withCompactModelSuffix model) earlier).bind fun origin =>
    (compactAttempt origin modelMap).map (Except.map ModelInfo.upstreamModelName)

lemma hasSuffix_withCompactModelSuffix (model : String) :
    hasSuffix (withCompactModelSuffix model) compactModelSuffix = true := by
  unfold withCompactModelSuffix
  split
  · assumption
  · simp [hasSuffix, isSuffixOf_iff_suffix]

lemma mappingModelName_append {name : String} (h : hasSuffix name compactModelSuffix = true) :
    mappingModelName true name ++ compactModelSuffix = name := by
  obtain ⟨front, hfront⟩ := isSuffixOf_iff_suffix.mp h
  have hname : name = String.ofList front ++ compactModelSuffix := String.toList_injective (by simp [hfront])
  rw [mappingModelName, h, hname]
  simp

lemma hasSuffix_compactAttempt (h : hasSuffix origin compactModelSuffix = true) {info : ModelInfo}
    (hattempt : compactAttempt origin modelMap = some (.ok info)) :
    hasSuffix info.originModelName compactModelSuffix = true := by
  obtain ⟨ended, -, hended⟩ := bind_eq_some_iff.mp hattempt
  cases ended with
  | cycle => simp at hended
  | returned =>
    simp at hended
    rw [← hended]
    exact h
  | left current isModelMapped =>
    simp at hended
    rw [← hended]
    exact hasSuffix_withCompactModelSuffix _

lemma hasSuffix_originAfter {after : String} (h : hasSuffix origin compactModelSuffix = true)
    {earlier : List ModelTable} (hafter : originAfter origin earlier = some after) :
    hasSuffix after compactModelSuffix = true := by
  induction earlier generalizing origin with
  | nil => exact some.inj hafter ▸ h
  | cons modelMap rest ih =>
    unfold originAfter at hafter
    split at hafter
    · next info hattempt => exact ih (hasSuffix_compactAttempt h hattempt) hafter
    · cases hafter

lemma compactAttempt_empty : compactAttempt origin [] = some (.ok
    ⟨withCompactModelSuffix (mappingModelName true origin), mappingModelName true origin, false⟩) := rfl

end Compact

end LoveApi.Proofs
