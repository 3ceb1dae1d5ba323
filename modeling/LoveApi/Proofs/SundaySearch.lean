import LoveApi.SundaySearch
import Mathlib.Data.List.Infix

/-!
# What the search finds

For an ASCII pattern no step of the search passes an occurrence.
-/

namespace LoveApi.Proofs

open Program List Option

variable {text pattern : List UInt8} {i : Nat}

lemma mem_runesFrom {skip : Nat} {x : Nat × Nat} (h : x ∈ runesFrom i skip pattern) :
    i ≤ x.1 ∧ x.1 < i + pattern.length := by
  fun_induction runesFrom i skip pattern with
  | case1 => cases h
  | case2 i skip a rest ih =>
    have := ih h
    rw [length_cons]
    omega
  | case3 i a rest ih =>
    rw [length_cons]
    obtain rfl | hmem := mem_cons.mp h
    · simp
    · have := ih hmem
      omega

lemma pairwise_runesFrom (i skip : Nat) (pattern : List UInt8) :
    (runesFrom i skip pattern).Pairwise fun x y => x.1 ≤ y.1 := by
  fun_induction runesFrom i skip pattern with
  | case1 => exact Pairwise.nil
  | case2 i skip a rest ih => exact ih
  | case3 i a rest ih => exact ih.cons fun y hy => Nat.le_of_succ_le (mem_runesFrom hy).1

lemma runesFrom_ascii {k : Nat} {a : UInt8} (hascii : ∀ b ∈ pattern, b < 0x80) (hk : pattern[k]? = some a) :
    (i + k, a.toNat) ∈ runesFrom i 0 pattern := by
  induction pattern generalizing i k with
  | nil => cases hk
  | cons b rest ih =>
    have hb : decodeRune (b :: rest) = (b.toNat, 1) := if_pos (UInt8.lt_iff_toNat_lt.mp (hascii b mem_cons_self))
    rw [runesFrom, hb]
    cases k with
    | zero =>
      obtain rfl : b = a := some.inj hk
      exact mem_cons_self
    | succ k =>
      have hrest := @ih (i + 1) k (fun x hx => hascii x (mem_cons_of_mem b hx)) hk
      rw [Nat.add_right_comm] at hrest
      exact mem_cons_of_mem _ hrest

/-- The step passes no alignment at which an ASCII pattern has the byte `next` in its place. -/
lemma sundayOffset_bounds (pattern : List UInt8) (next : UInt8) :
    let step := (sundayOffset pattern next.toNat).getD (pattern.length + 1)
    1 ≤ step ∧ step ≤ pattern.length + 1 ∧
      ((∀ b ∈ pattern, b < 0x80) → ∀ k, pattern[k]? = some next → k + step ≤ pattern.length) := by
  unfold sundayOffset
  cases hfind : (runesFrom 0 0 pattern).reverse.find? fun x => x.2 = next.toNat with
  | none =>
    refine ⟨by simp, by simp, fun hascii k hk => ?_⟩
    have hnot := find?_eq_none.mp hfind _ (mem_reverse.mpr (runesFrom_ascii hascii hk))
    simp at hnot
  | some x =>
    have hx := mem_runesFrom (mem_reverse.mp (mem_of_find?_eq_some hfind))
    simp only [map_some, getD_some]
    refine ⟨by omega, by omega, fun hascii k hk => ?_⟩
    obtain ⟨-, later, earlier, hsplit, hlater⟩ := find?_eq_some_iff_append.mp hfind
    have hsorted := pairwise_reverse.mpr (pairwise_runesFrom 0 0 pattern)
    have hmem := mem_reverse.mpr (@runesFrom_ascii _ 0 k next hascii hk)
    rw [hsplit] at hsorted hmem
    have hle : k ≤ x.1 := by
      rcases mem_append.mp hmem with hl | hr
      · simpa using hlater _ hl
      · rcases mem_cons.mp hr with rfl | hr
        · simp
        · simpa using rel_of_pairwise_cons (pairwise_append.mp hsorted).2.1 hr
    omega

lemma matchesAt_eq (h : pattern.length ≤ text.length) : matchesAt text pattern = some (decide (pattern <+: text)) := by
  fun_induction matchesAt text pattern with
  | case1 => simp
  | case2 => cases h
  | case3 text b pattern ih => simp [ih (Nat.le_of_succ_le_succ h)]
  | case4 a text b pattern hne => simp [cons_prefix_cons, Ne.symm hne]

/-- An occurrence behind `i` has the byte behind the alignment at `i` in the pattern. -/
lemma not_prefix_of_skipped {j : Nat} {next : UInt8} (hascii : ∀ b ∈ pattern, b < 0x80)
    (hnext : text[i + pattern.length]? = some next) (hi : i < j)
    (hj : j < i + (sundayOffset pattern next.toNat).getD (pattern.length + 1)) : ¬pattern <+: text.drop j := by
  rintro ⟨rest, hrest⟩
  obtain ⟨-, hle, hstep⟩ := sundayOffset_bounds pattern next
  have hat : pattern[i + pattern.length - j]? = some next := by
    rw [← getElem?_append_left (by omega), hrest, getElem?_drop,
      show j + (i + pattern.length - j) = i + pattern.length by omega, hnext]
  have := hstep hascii _ hat
  omega

def Finds (text pattern : List UInt8) (result : Option (Option Bool)) : Prop :=
  ∃ found, result = some (some found) ∧ (found = true → pattern <:+: text) ∧
    ((∀ b ∈ pattern, b < 0x80) → pattern <:+: text → found = true)

lemma loop_sundayStep {fuel : Nat} (hstart : i = 0 ∨ 0 < pattern.length) (hfuel : text.length - i < fuel)
    (hnone : (∀ b ∈ pattern, b < 0x80) → ∀ k < i, ¬pattern <+: text.drop k) :
    Finds text pattern (loop (sundayStep text pattern) fuel i) := by
  induction fuel generalizing i with
  | zero => cases hfuel
  | succ fuel ih =>
    have hdone (hstep : sundayStep text pattern i = .done (some false))
        (hlater : ∀ k, i ≤ k → ¬pattern <+: text.drop k) :
        Finds text pattern (loop (sundayStep text pattern) (fuel + 1) i) := by
      refine ⟨false, loop_of_done hstep fuel, nofun, fun hascii ⟨before, after, htext⟩ => ?_⟩
      have hoccurs : pattern <+: text.drop before.length := by simp [← htext]
      rcases lt_or_ge before.length i with hlt | hge
      · exact absurd hoccurs (hnone hascii _ hlt)
      · exact absurd hoccurs (hlater _ hge)
    by_cases hle : i + pattern.length ≤ text.length
    · have hmatch := @matchesAt_eq (text.drop i) pattern (by rw [length_drop]; omega)
      by_cases hprefix : pattern <+: text.drop i
      · refine ⟨true, loop_of_done ?_ fuel, fun _ => hprefix.isInfix.trans (drop_suffix i text).isInfix, fun _ _ => rfl⟩
        simp [sundayStep, hle, hmatch, hprefix]
      · have hpos : 0 < pattern.length := length_pos_iff.mpr fun hnil => hprefix (hnil ▸ nil_prefix)
        by_cases hlt : i + pattern.length < text.length
        · obtain ⟨hone, -, -⟩ := sundayOffset_bounds pattern text[i + pattern.length]
          have hstep : sundayStep text pattern i = .again (i +
              (sundayOffset pattern text[i + pattern.length].toNat).getD (pattern.length + 1)) := by
            simp [sundayStep, hle, hmatch, hprefix, hlt]
          rw [loop_of_again hstep]
          refine ih (.inr hpos) (by omega) fun hascii k hk => ?_
          rcases lt_trichotomy k i with hki | rfl | hki
          · exact hnone hascii k hki
          · exact hprefix
          · exact not_prefix_of_skipped hascii (getElem?_eq_getElem hlt) hki hk
        · refine hdone (by simp [sundayStep, hle, hmatch, hprefix, hlt]) fun k hik hk => ?_
          have := hk.length_le
          rw [length_drop] at this
          obtain rfl : i = k := by omega
          exact hprefix hk
    · refine hdone (if_neg hle) fun k hik hk => ?_
      have := hk.length_le
      rw [length_drop] at this
      omega

/-- A code point of more than one byte is followed by a byte that is no ASCII one. -/
lemma decodeRune_second {a : UInt8} {rest : List UInt8} (hlow : 0x80 ≤ (decodeRune (a :: rest)).1)
    (hhigh : (decodeRune (a :: rest)).1 ≤ 0xFF) : ∃ b, rest[0]? = some b ∧ ¬ b < 0x80 := by
  have hsecond (h : 0x80 ≤ (((a :: rest)[1]?).map UInt8.toNat).getD 0) : ∃ b, rest[0]? = some b ∧ ¬ b < 0x80 := by
    cases hb : rest[0]? with
    | none => simp [hb] at h
    | some b => exact ⟨b, rfl, by simpa [hb, UInt8.lt_iff_toNat_lt] using h⟩
  have haccepts {x y : Nat} (h : acceptsSecond x y = true) : 0x80 ≤ y := by
    simp only [acceptsSecond, decide_eq_true_eq] at h
    split_ifs at h <;> omega
  unfold decodeRune at hlow hhigh
  dsimp only at hlow hhigh
  split_ifs at hlow hhigh with hascii htwo hthree hfour
  · exact absurd hlow (Nat.not_le.mpr hascii)
  · exact hsecond htwo.2.2.1
  · exact hsecond (haccepts hthree.2.2.1)
  · exact hsecond (haccepts hfour.2.2.1)
  · exact absurd hhigh (by decide)

lemma runesFrom_second {skip : Nat} {x : Nat × Nat} (h : x ∈ runesFrom i skip pattern) (hlow : 0x80 ≤ x.2)
    (hhigh : x.2 ≤ 0xFF) : ∃ b, pattern[x.1 + 1 - i]? = some b ∧ ¬ b < 0x80 := by
  fun_induction runesFrom i skip pattern with
  | case1 => cases h
  | case2 i skip a rest ih =>
    have hle := (mem_runesFrom h).1
    rw [show x.1 + 1 - i = x.1 + 1 - (i + 1) + 1 by omega, getElem?_cons_succ]
    exact ih h
  | case3 i a rest ih =>
    obtain rfl | hmem := mem_cons.mp h
    · simpa using decodeRune_second hlow hhigh
    · have hle := (mem_runesFrom hmem).1
      rw [show x.1 + 1 - i = x.1 + 1 - (i + 1) + 1 by omega, getElem?_cons_succ]
      exact ih hmem

section

variable {before after : List UInt8} {b : UInt8}

lemma exists_last_of_not_forall {P : UInt8 → Prop} (h : ¬ ∀ a ∈ pattern, P a) :
    ∃ before b after, pattern = before ++ b :: after ∧ ¬ P b ∧ ∀ a ∈ after, P a := by
  induction pattern with
  | nil => simp at h
  | cons b rest ih =>
    by_cases hrest : ∀ a ∈ rest, P a
    · exact ⟨[], b, rest, rfl, fun hb => h (forall_mem_cons.mpr ⟨hb, hrest⟩), hrest⟩
    · obtain ⟨before, c, after, rfl, hc, hafter⟩ := ih hrest
      exact ⟨b :: before, c, after, rfl, hc, hafter⟩

/-- The last byte that is no ASCII one moves the alignment behind its own place. -/
lemma lt_sundayOffset (hb : ¬ b < 0x80) (hafter : ∀ a ∈ after, a < 0x80) :
    after.length + 1 < (sundayOffset (before ++ b :: after) b.toNat).getD ((before ++ b :: after).length + 1) := by
  unfold sundayOffset
  cases hfind : (runesFrom 0 0 (before ++ b :: after)).reverse.find? fun x => x.2 = b.toNat with
  | none =>
    show after.length + 1 < (before ++ b :: after).length + 1
    rw [length_append, length_cons]
    omega
  | some x =>
    have hx : x.2 = b.toNat := by simpa using find?_some hfind
    have hhigh : x.2 ≤ 0xFF := hx ▸ Nat.le_of_lt_succ b.toNat_lt
    have hlow : 0x80 ≤ x.2 := hx ▸ UInt8.le_iff_toNat_le.mp (UInt8.not_lt.mp hb)
    obtain ⟨c, hc, hcb⟩ := runesFrom_second (mem_reverse.mp (mem_of_find?_eq_some hfind)) hlow hhigh
    -- the code point starts before the byte, since no byte behind it is part of one
    have hplace : x.1 + 1 ≤ before.length := by
      by_contra hgt
      rw [Nat.sub_zero, getElem?_append_right (by omega),
        show x.1 + 1 - before.length = x.1 - before.length + 1 by omega, getElem?_cons_succ] at hc
      exact hcb (hafter c (mem_of_getElem? hc))
    simp
    omega

/-- A text in which the search passes an occurrence of a pattern that is not all ASCII. -/
lemma exists_passed (hb : ¬ b < 0x80) (hafter : ∀ a ∈ after, a < 0x80) :
    ∃ text, before ++ b :: after <:+: text ∧ sundaySearch text (before ++ b :: after) = some (some false) := by
  have hjump := @lt_sundayOffset before after b hb hafter
  set pattern := before ++ b :: after with hpattern
  obtain ⟨x, hx⟩ : ∃ x, x ≠ pattern.headD 0 := by
    by_cases hzero : pattern.headD 0 = 0
    · exact ⟨1, by rw [hzero]; decide⟩
    · exact ⟨0, Ne.symm hzero⟩
  refine ⟨replicate (after.length + 1) x ++ pattern, (suffix_append _ _).isInfix, ?_⟩
  set text := replicate (after.length + 1) x ++ pattern with htext
  have hlength : text.length = after.length + 1 + pattern.length := by simp [htext]
  have hprefix : ¬ pattern <+: text := by
    rw [htext, replicate_succ, cons_append]
    cases hcons : pattern with
    | nil => simp [hpattern] at hcons
    | cons c rest =>
      rw [cons_prefix_cons]
      rintro ⟨rfl, -⟩
      simp [hcons] at hx
  have hnext : text[pattern.length]? = some b := by
    rw [htext, getElem?_append_right (by simp [hpattern])]
    simp [hpattern]
  have hstep : sundayStep text pattern 0 = .again (0 + (sundayOffset pattern b.toNat).getD (pattern.length + 1)) := by
    have hmatch := @matchesAt_eq text pattern (by omega)
    obtain ⟨hlt, hget⟩ := List.getElem?_eq_some_iff.mp hnext
    simp [sundayStep, hmatch, hprefix, hget, hlength]
  have hdone : sundayStep text pattern (0 + (sundayOffset pattern b.toNat).getD (pattern.length + 1)) =
      .done (some false) := if_neg (by omega)
  rw [sundaySearch, loop_of_again hstep, hlength, show after.length + 1 + pattern.length =
    after.length + pattern.length + 1 by omega]
  exact loop_of_done hdone _

end

/-- The search always ends without an access behind the end of the text, and what it finds is there. It finds a pattern
in every text in which it occurs exactly if the pattern has ASCII bytes only. -/
theorem sundaySearch_iff (pattern : List UInt8) :
    (∀ text, ∃ found, sundaySearch text pattern = some (some found) ∧ (found = true → pattern <:+: text)) ∧
    ((∀ text, sundaySearch text pattern = some (some (decide (pattern <:+: text)))) ↔ ∀ b ∈ pattern, b < 0x80) := by
  have hfinds text := @loop_sundayStep text pattern 0 (text.length + 1) (.inl rfl) (Nat.lt_succ_self _)
    fun _ k hk => by cases hk
  refine ⟨fun text => ?_, fun hall => ?_, fun hascii text => ?_⟩
  · obtain ⟨found, hrun, hsound, -⟩ := hfinds text
    exact ⟨found, hrun, hsound⟩
  · by_contra hnot
    obtain ⟨before, b, after, rfl, hb, hafter⟩ := exists_last_of_not_forall hnot
    obtain ⟨text, hoccurs, hmiss⟩ := @exists_passed before after b hb hafter
    have hrun := hall text
    simp [hmiss, hoccurs] at hrun
  · obtain ⟨found, hrun, hsound, hcomplete⟩ := hfinds text
    have hfound : found = decide (pattern <:+: text) := by
      rw [Bool.eq_iff_iff, decide_eq_true_iff]
      exact ⟨hsound, hcomplete hascii⟩
    rw [← hfound]
    exact hrun

/-- The table has the number of a code point, and the text is looked up in it byte by byte. -/
theorem sundaySearch_multibyte : [0xC3, 0xA9] <:+: [0x61, 0xC3, 0xA9] ∧
    sundaySearch [0x61, 0xC3, 0xA9] [0xC3, 0xA9] = some (some false) := by
  decide

end LoveApi.Proofs
