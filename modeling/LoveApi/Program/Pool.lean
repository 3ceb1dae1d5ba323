import LoveApi.Program.Basic
import LoveApi.Program.Transition
import Mathlib.Algebra.Group.Prod

/-!
# Interleaved runs

A pool is a list of programs over one shared state. A schedule names, step by step, the thread that issues its next
request and the outcome of that request.
-/

namespace LoveApi.Program

open List Option

universe u

variable {S : Type u} {R : S → Type} {Φ σ : Type} {α β : Type} {M : Type} [AddCommMonoid M]

abbrev Pool (S : Type u) (R : S → Type) (σ α : Type) := List (Prog S R α) × σ

/-- A request as the schedule has executed it. -/
structure Event (S : Type u) (Φ σ : Type) where
  thread : Nat
  request : S
  outcome : Φ
  pre : σ
  post : σ

namespace Pool

variable (m : Machine S R Φ σ)
variable {i : Nat} {φ : Φ} {sched : List (Nat × Φ)} {c : Pool S R σ α}

/-- Thread `i` issues its next request. A thread that has returned does nothing. -/
def step (i : Nat) (φ : Φ) (c : Pool S R σ α) : Pool S R σ α :=
  match c.1[i]? with
  | some (.call s k) => (c.1.set i (k (m.exec φ s c.2).1), (m.exec φ s c.2).2)
  | _ => c

def run : List (Nat × Φ) → Pool S R σ α → Pool S R σ α
  | [], c => c
  | (i, φ) :: sched, c => run sched (step m i φ c)

def event (i : Nat) (φ : Φ) (c : Pool S R σ α) : Option (Event S Φ σ) :=
  match c.1[i]? with
  | some (.call s _) => some ⟨i, s, φ, c.2, (m.exec φ s c.2).2⟩
  | _ => none

def trace : List (Nat × Φ) → Pool S R σ α → List (Event S Φ σ)
  | [], _ => []
  | (i, φ) :: sched, c => (event m i φ c).toList ++ trace sched (step m i φ c)

def Returned (c : Pool S R σ α) (as : List α) : Prop := c.1 = as.map Prog.ret

def Meets (A : Nat → S → Φ → σ → Prop) (sched : List (Nat × Φ)) (c : Pool S R σ α) : Prop :=
  ∀ e ∈ trace m sched c, A e.thread e.request e.outcome e.pre

variable {m} {A : Nat → S → Φ → σ → Prop}

lemma step_cases (i : Nat) (φ : Φ) (c : Pool S R σ α) : (∃ s k, c.1[i]? = some (.call s k) ∧
      step m i φ c = (c.1.set i (k (m.exec φ s c.2).1), (m.exec φ s c.2).2) ∧
      event m i φ c = some ⟨i, s, φ, c.2, (m.exec φ s c.2).2⟩) ∨
    (step m i φ c = c ∧ event m i φ c = none) := by
  unfold step event
  rcases h : c.1[i]? with _ | p
  · exact .inr ⟨rfl, rfl⟩
  · cases p with
    | ret a => exact .inr ⟨rfl, rfl⟩
    | call s k => exact .inl ⟨s, k, rfl, rfl, rfl⟩

lemma length_run (sched : List (Nat × Φ)) (c : Pool S R σ α) : (run m sched c).1.length = c.1.length := by
  induction sched generalizing c with
  | nil => rfl
  | cons iφ sched ih =>
    rw [run, ih]
    rcases step_cases (m := m) iφ.1 iφ.2 c with ⟨s, k, -, hstep, -⟩ | ⟨hstep, -⟩
    · rw [hstep, length_set]
    · rw [hstep]

lemma meets_cons : Meets m A ((i, φ) :: sched) c ↔ (∀ e ∈ event m i φ c, A e.thread e.request e.outcome e.pre) ∧
        Meets m A sched (step m i φ c) := by
  unfold Meets
  simp only [trace, mem_append, mem_toList]
  constructor
  · exact fun h => ⟨fun e he => h e (.inl he), fun e he => h e (.inr he)⟩
  · rintro ⟨h₁, h₂⟩ e (he | he)
    · exact h₁ e he
    · exact h₂ e he

lemma meets_nil : Meets m A [] c := fun _ he => by simp [trace] at he

lemma meets_step (e : Event S Φ σ) (hev : event m i φ c = some e) (hA : A e.thread e.request e.outcome e.pre)
    (h : Meets m A sched (step m i φ c)) : Meets m A ((i, φ) :: sched) c := by
  refine meets_cons.mpr ⟨fun e' he' => ?_, h⟩
  obtain rfl := some.inj (hev.symm.trans he')
  exact hA

end Pool

/-- Every request of the program, issued while the state and the total of all shares
satisfy `I`, does what `G` allows and keeps `I` for a changed share of this thread; the
program returns a value and a share that satisfy `Q`. -/
def Safe (m : Machine S R Φ σ) (A : S → Φ → σ → Prop) (I : σ → M → Prop)
    (G : M → S → σ → σ → M → Prop) : Prog S R α → (α → M → Prop) → M → Prop
  | .ret a, Q, g => Q a g
  | .call s k, Q, g => ∀ φ x rest, A s φ x → I x (g + rest) →
      ∃ g', G g s x (m.exec φ s x).2 g' ∧ I (m.exec φ s x).2 (g' + rest) ∧
        Safe m A I G (k (m.exec φ s x).1) Q g'

section Safe

variable {m : Machine S R Φ σ} {A : S → Φ → σ → Prop} {I : σ → M → Prop}
  {G : M → S → σ → σ → M → Prop}
variable {Q : α → M → Prop} {g : M} {p : Prog S R α} {ε : Type}

lemma Safe.ret {a : α} (h : Q a g) : Safe m A I G (.ret a) Q g := h

lemma Safe.request {s : S} {Q : R s → M → Prop} (h : ∀ φ x rest, A s φ x → I x (g + rest) →
      ∃ g', G g s x (m.exec φ s x).2 g' ∧ I (m.exec φ s x).2 (g' + rest) ∧ Q (m.exec φ s x).1 g') :
    Safe m A I G (Prog.request s) Q g := h

lemma Safe.bind {f : α → Prog S R β} {Q : β → M → Prop} (h : Safe m A I G p (fun a g' => Safe m A I G (f a) Q g') g) :
    Safe m A I G (p >>= f) Q g := by
  induction p generalizing g with
  | ret a => exact h
  | call s k ih =>
    intro φ x rest hA hI
    obtain ⟨g', hG, hI', hk⟩ := h φ x rest hA hI
    exact ⟨g', hG, hI', ih _ hk⟩

lemma Safe.mono {Q' : α → M → Prop} (h : Safe m A I G p Q g) (hQ : ∀ a g, Q a g → Q' a g) : Safe m A I G p Q' g := by
  induction p generalizing g with
  | ret a => exact hQ a g h
  | call s k ih =>
    intro φ x rest hA hI
    obtain ⟨g', hG, hI', hk⟩ := h φ x rest hA hI
    exact ⟨g', hG, hI', ih _ hk⟩

lemma Safe.of_imp {A' : S → Φ → σ → Prop}
    (h : Safe m A I G p Q g) (hA : ∀ s φ x, A' s φ x → A s φ x) : Safe m A' I G p Q g := by
  induction p generalizing g with
  | ret a => exact h
  | call s k ih =>
    intro φ x rest hA' hI
    obtain ⟨g', hG, hI', hk⟩ := h φ x rest (hA s φ x hA') hI
    exact ⟨g', hG, hI', ih _ hk⟩

lemma Safe.and_returns {P : α → Prop}
    (h : Safe m A I G p Q g) (hp : p.Returns P) : Safe m A I G p (fun a g => Q a g ∧ P a) g := by
  induction p generalizing g with
  | ret a => exact ⟨h, hp⟩
  | call s k ih =>
    intro φ x rest hA hI
    obtain ⟨g', hG, hI', hk⟩ := h φ x rest hA hI
    exact ⟨g', hG, hI', ih _ hk (hp _)⟩

lemma Safe.bind_run {x : ExceptT ε (Prog S R) α} {f : α → ExceptT ε (Prog S R) β}
    {Q : Except ε β → M → Prop}
    (h : Safe m A I G x.run (fun r g' =>
      (∀ e, r = .error e → Q (.error e) g') ∧ ∀ a, r = .ok a → Safe m A I G (f a).run Q g') g) :
    Safe m A I G (x >>= f).run Q g := by
  refine Safe.bind (h.mono fun r g' hr => ?_)
  cases r with
  | error e => exact hr.1 e rfl
  | ok a => exact hr.2 a rfl

lemma Safe.attempt_bind {x : ExceptT ε (Prog S R) α}
    {f : Except ε α → ExceptT ε (Prog S R) β} {Q : Except ε β → M → Prop}
    (h : Safe m A I G x.run (fun r g' => Safe m A I G (f r).run Q g') g) :
    Safe m A I G (Prog.attempt x >>= f).run Q g := by
  refine Safe.bind_run (Safe.bind (h.mono fun r g' hr => ⟨fun e he => ?_, fun a ha => ?_⟩))
  · simp at he
  · cases ha
    exact hr

lemma Safe.of_issues {P : S → Prop} {K : M → Prop} (h : p.Issues P) (hg : K g)
    (hP : ∀ s, P s → ∀ g φ x rest, K g → A s φ x → I x (g + rest) →
      ∃ g', G g s x (m.exec φ s x).2 g' ∧ I (m.exec φ s x).2 (g' + rest) ∧ K g') :
    Safe m A I G p (fun _ => K) g := by
  induction p generalizing g with
  | ret a => exact hg
  | call s k ih =>
    intro φ x rest hA hI
    obtain ⟨g', hG, hI', hK⟩ := hP s h.1 g φ x rest hg hA hI
    exact ⟨g', hG, hI', ih _ (h.2 _) hK⟩

section Loops

variable {ε γ : Type} {l : List γ} {K : M → Prop} {g : M}

lemma Safe.forM_run {f : γ → ExceptT ε (Prog S R) PUnit} (hg : K g)
    (h : ∀ a ∈ l, ∀ g, K g → Safe m A I G (f a).run (fun _ => K) g) :
    Safe m A I G (forM l f).run (fun _ => K) g := by
  induction l generalizing g with
  | nil => exact hg
  | cons a l ih =>
    refine Safe.bind_run ((h a mem_cons_self g hg).mono fun _ g' hg' => ⟨fun _ _ => hg', fun _ _ => ?_⟩)
    exact ih hg' fun b hb => h b (mem_cons_of_mem a hb)

lemma Safe.foldlM_run {f : β → γ → ExceptT ε (Prog S R) β} {J : β → List γ → Prop} {b : β}
    (h : ∀ b a l g, J b (a :: l) → K g → Safe m A I G (f b a).run (fun r g' => K g' ∧ ∀ b', r = .ok b' → J b' l) g)
    (hb : J b l) (hg : K g) :
    Safe m A I G (l.foldlM f b).run (fun r g' => K g' ∧ ∀ b', r = .ok b' → J b' []) g := by
  induction l generalizing b g with
  | nil =>
    refine Safe.ret ⟨hg, fun b' hb' => ?_⟩
    cases hb'
    exact hb
  | cons a l ih =>
    refine Safe.bind_run ((h b a l g hb hg).mono fun r g' hr => ⟨fun e _ => ⟨hr.1, by simp⟩, fun b' hb' => ?_⟩)
    exact ih (hr.2 b' hb') hr.1

end Loops

end Safe

section Adequacy

variable {m : Machine S R Φ σ} {A : Nat → S → Φ → σ → Prop} {I : σ → M → Prop}
  {G : M → S → σ → σ → M → Prop} {Q : Nat → α → M → Prop}
variable {c : Pool S R σ α} {gs : List M} {i : Nat} {g : M} {sched : List (Nat × Φ)} {as : List α}

/-- The threads hold their shares, and the invariant holds for the total. -/
structure Shares (m : Machine S R Φ σ) (A : Nat → S → Φ → σ → Prop) (I : σ → M → Prop)
    (G : M → S → σ → σ → M → Prop) (Q : Nat → α → M → Prop) (c : Pool S R σ α) (gs : List M) :
    Prop where
  inv : I c.2 gs.sum
  length : c.1.length = gs.length
  safe : ∀ i p g, c.1[i]? = some p → gs[i]? = some g → Safe m (A i) I G p (Q i) g

lemma Shares.init {ps : List (Prog S R α)} {x : σ} (hI : I x 0)
    (hs : ∀ i p, ps[i]? = some p → Safe m (A i) I G p (Q i) 0) :
    Shares m A I G Q (ps, x) (ps.map fun _ => 0) where
  inv := by
    rw [sum_map_zero]
    exact hI
  length := by simp
  safe := by
    intro i p g hp hg
    obtain ⟨-, -, rfl⟩ := map_eq_some_iff.mp (getElem?_map ▸ hg)
    exact hs i p hp

variable (h : Shares m A I G Q c gs)

include h

lemma Shares.of_imp {A' : Nat → S → Φ → σ → Prop} (hA : ∀ i s φ x, A' i s φ x → A i s φ x) : Shares m A' I G Q c gs :=
  ⟨h.inv, h.length, fun i p g hp hg => (h.safe i p g hp hg).of_imp (hA i)⟩

lemma Shares.step {φ : Φ} (hA : ∀ e ∈ Pool.event m i φ c, A e.thread e.request e.outcome e.pre) :
    (Pool.step m i φ c = c ∧ Pool.event m i φ c = none) ∨
      ∃ e g g', Pool.event m i φ c = some e ∧ e.thread = i ∧ e.pre = c.2 ∧
        e.post = (Pool.step m i φ c).2 ∧ gs[i]? = some g ∧ G g e.request e.pre e.post g' ∧
        Shares m A I G Q (Pool.step m i φ c) (gs.set i g') := by
  rcases Pool.step_cases (m := m) i φ c with ⟨s, k, hp, hstep, hev⟩ | hidle
  · obtain ⟨hi, -⟩ := List.getElem?_eq_some_iff.mp hp
    obtain ⟨g, hg⟩ : ∃ g, gs[i]? = some g :=
      ⟨_, List.getElem?_eq_some_iff.mpr ⟨h.length ▸ hi, rfl⟩⟩
    obtain ⟨rest, hsum, hset⟩ := sum_set_add hg
    obtain ⟨g', hG, hI', hk⟩ := h.safe i _ g hp hg φ c.2 rest (hA _ (by rw [hev]; rfl)) (hsum ▸ h.inv)
    refine .inr ⟨_, g, g', hev, rfl, rfl, by rw [hstep], hg, hG, ?_, ?_, ?_⟩
    · rw [hstep, hset]
      exact hI'
    · rw [hstep, length_set, length_set, h.length]
    · intro j p g₁ hp₁ hg₁
      rw [hstep] at hp₁
      by_cases hj : i = j
      · subst hj
        rw [getElem?_set_self (h.length ▸ hi)] at hg₁
        rw [getElem?_set_self hi] at hp₁
        cases hg₁
        cases hp₁
        exact hk
      · rw [getElem?_set_ne hj] at hg₁ hp₁
        exact h.safe j p g₁ hp₁ hg₁
  · exact .inl hidle

/-- Induction over a run that meets the condition: a property of the executed requests, the
state and the shares that every allowed step keeps holds after the run. -/
theorem Shares.run_induction {P : List (Event S Φ σ) → σ → List M → Prop}
    (hP : ∀ tr gs e g g', P tr e.pre gs → gs[e.thread]? = some g → I e.pre gs.sum →
      G g e.request e.pre e.post g' → I e.post (gs.set e.thread g').sum →
      A e.thread e.request e.outcome e.pre → P (tr ++ [e]) e.post (gs.set e.thread g'))
    {t : List (Event S Φ σ)} (h₀ : P t c.2 gs) (hA : Pool.Meets m A sched c) :
    ∃ gs', Shares m A I G Q (Pool.run m sched c) gs' ∧ P (t ++ Pool.trace m sched c) (Pool.run m sched c).2 gs' := by
  induction sched generalizing c gs t with
  | nil => exact ⟨gs, h, by simpa [Pool.trace, Pool.run] using h₀⟩
  | cons iφ sched ih =>
    obtain ⟨i, φ⟩ := iφ
    obtain ⟨hA₁, hA₂⟩ := Pool.meets_cons.mp hA
    simp only [Pool.run, Pool.trace]
    rcases h.step hA₁ with ⟨hstep, hev⟩ | ⟨e, g, g', hev, rfl, hpre, hpost, hg, hG, hs⟩
    · rw [hev, hstep]
      rw [hstep] at hA₂
      exact ih h h₀ hA₂
    · have hP' : P (t ++ [e]) e.post (gs.set e.thread g') :=
        hP t gs e g g' (hpre ▸ h₀) hg (hpre ▸ h.inv) hG (hpost ▸ hs.inv) (hA₁ e hev)
      obtain ⟨gs₂, h₂, h₃⟩ := ih hs (hpost ▸ hP') hA₂
      exact ⟨gs₂, h₂, by simpa [hev] using h₃⟩

/-- The threads keep their shares over a run. -/
theorem Shares.run (hA : Pool.Meets m A sched c) :
    ∃ gs', Shares m A I G Q (Pool.run m sched c) gs' ∧ gs'.length = gs.length := by
  obtain ⟨gs', h', hlen⟩ := h.run_induction (P := fun _ _ gs' => gs'.length = gs.length) (t := [])
    (fun _ _ _ _ _ hP _ _ _ _ _ => length_set.trans hP) rfl hA
  exact ⟨gs', h', hlen⟩

omit h in
/-- Shares that record what each request adds are the sums over the requests of the threads. -/
theorem Shares.run_sum {δ : S → σ → σ → M} (hG : ∀ g s x y g', G g s x y g' → g' = g + δ s x y)
    (h : Shares m A I G Q c (c.1.map fun _ => 0))
    (hA : Pool.Meets m A sched c) :
    ∃ gs, Shares m A I G Q (Pool.run m sched c) gs ∧ ∀ i g, gs[i]? = some g →
      g = (((Pool.trace m sched c).filter fun e => e.thread = i).map fun e =>
        δ e.request e.pre e.post).sum := by
  refine h.run_induction (P := fun tr _ gs => ∀ i g, gs[i]? = some g →
    g = ((tr.filter fun e => e.thread = i).map fun e => δ e.request e.pre e.post).sum) (t := []) ?_ ?_ hA
  · intro tr gs e g g' hP hg _ hG' _ _ i g₁ hg₁
    by_cases hi : e.thread = i
    · subst hi
      rw [List.getElem?_set_self (List.getElem?_eq_some_iff.mp hg).1] at hg₁
      cases hg₁
      simp [filter_append, ← hP _ _ hg, hG _ _ _ _ _ hG']
    · rw [getElem?_set_ne hi] at hg₁
      simp [filter_append, hi, ← hP _ _ hg₁]
  · intro i g hg
    obtain ⟨-, -, rfl⟩ := map_eq_some_iff.mp (getElem?_map ▸ hg)
    rfl

lemma Shares.of_returned (hr : Pool.Returned c as) (hg : gs[i]? = some g) : ∃ a, as[i]? = some a ∧ Q i a g := by
  obtain ⟨hi, -⟩ := List.getElem?_eq_some_iff.mp hg
  have hlen : as.length = gs.length := by rw [← h.length, hr, List.length_map]
  obtain ⟨a, ha⟩ : ∃ a, as[i]? = some a := ⟨_, List.getElem?_eq_some_iff.mpr ⟨hlen ▸ hi, rfl⟩⟩
  have hp : c.1[i]? = some (.ret a) := by rw [hr, getElem?_map, ha]; rfl
  exact ⟨a, ha, h.safe i _ g hp hg⟩

lemma Shares.returned (hr : Pool.Returned c as) {a : α} (ha : as[i]? = some a) : ∃ g, gs[i]? = some g ∧ Q i a g := by
  have hp : c.1[i]? = some (.ret a) := by rw [hr, getElem?_map, ha]; rfl
  obtain ⟨hi, -⟩ := List.getElem?_eq_some_iff.mp hp
  obtain ⟨g, hg⟩ : ∃ g, gs[i]? = some g :=
    ⟨_, List.getElem?_eq_some_iff.mpr ⟨h.length ▸ hi, rfl⟩⟩
  exact ⟨g, hg, h.safe i _ g hp hg⟩

lemma Shares.sum_of_returned {P : M → Prop} (hr : Pool.Returned c as) (hQ : ∀ i a g, Q i a g → P g) (hzero : P 0)
    (hadd : ∀ g g', P g → P g' → P (g + g')) : P gs.sum := by
  refine sum_induction P hadd hzero fun g hg => ?_
  obtain ⟨i, hi⟩ := mem_iff_getElem?.mp hg
  obtain ⟨a, -, hQ'⟩ := h.of_returned hr hi
  exact hQ i a g hQ'

omit h

/-- The shares count the events that satisfy `p`, and these satisfy `R`. -/
structure Counts {E : Type u} (p : E → Bool) (R : E → Prop) (tr : List E) (gs : List (M × ℕ)) : Prop where
  count : (tr.filter p).length = gs.sum.2
  holds : ∀ e ∈ tr.filter p, R e

lemma Counts.step {E : Type u} {p : E → Bool} {R : E → Prop} {tr : List E} {gs : List (M × ℕ)} {e : E} {g g' : M × ℕ}
    (h : Counts p R tr gs) (hg : gs[i]? = some g) (he : p e = false ∧ g'.2 = g.2 ∨ p e ∧ R e ∧ g'.2 = g.2 + 1) :
    Counts p R (tr ++ [e]) (gs.set i g') := by
  obtain ⟨rest, hsum, hset⟩ := sum_set_add hg
  have hcount := h.count
  rw [hsum, Prod.snd_add] at hcount
  rcases he with ⟨hp, hsame⟩ | ⟨hp, hR, hone⟩
  · have hfilter : (tr ++ [e]).filter p = tr.filter p := by simp [hp]
    refine ⟨?_, hfilter ▸ h.holds⟩
    rw [hfilter, hset, hcount, Prod.snd_add, hsame]
  · have hfilter : (tr ++ [e]).filter p = tr.filter p ++ [e] := by simp [hp]
    refine ⟨?_, hfilter ▸ forall_mem_append.mpr ⟨h.holds, forall_mem_singleton.mpr hR⟩⟩
    rw [hfilter, hset, length_append, hcount, Prod.snd_add, hone, length_singleton]
    omega

omit [AddCommMonoid M] in
lemma eq_zipWith_of_getElem? {γ : Type} {ops : List γ} {f : γ → α → M} (has : as.length = gs.length)
    (hlen : gs.length = ops.length)
    (h : ∀ (i : Nat) a, as[i]? = some a → ∃ g, gs[i]? = some g ∧ ∀ op ∈ ops[i]?, g = f op a) :
    gs = List.zipWith f ops as := by
  refine ext_getElem? fun i => ?_
  rw [getElem?_zipWith]
  rcases ha : as[i]? with _ | a
  · have hi : gs.length ≤ i := has ▸ getElem?_eq_none_iff.mp ha
    rw [getElem?_eq_none hi]
    cases ops[i]? <;> rfl
  · obtain ⟨g, hg, hQ⟩ := h i a ha
    obtain ⟨hi, -⟩ := List.getElem?_eq_some_iff.mp hg
    have hop : ops[i]? = some (ops.get ⟨i, hlen ▸ hi⟩) := List.getElem?_eq_getElem _
    rw [hg, hop, hQ _ hop]

lemma Shares.eq_zipWith {γ : Type} {ops : List γ} {f : γ → α → M}
    (h : Shares m A I G (fun i a g => ∀ op ∈ ops[i]?, g = f op a) c gs)
    (hr : Pool.Returned c as) (hlen : gs.length = ops.length) : gs = List.zipWith f ops as :=
  eq_zipWith_of_getElem? (by rw [← h.length, hr, length_map]) hlen fun _ _ => h.returned hr

end Adequacy

end LoveApi.Program
