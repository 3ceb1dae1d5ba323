import Mathlib.Data.List.Basic

/-!
# Request programs

A `Prog S R α` issues requests `s : S` one at a time and continues with the answer in `R s`. A `Machine` answers a
request atomically, under an outcome `φ : Φ` that the environment picks.
-/

namespace LoveApi.Program

universe u

/-- A program that issues requests and ends in a result. -/
inductive Prog (S : Type u) (R : S → Type) (α : Type) : Type u
  | ret (a : α)
  | call (s : S) (k : R s → Prog S R α)

/-- What answers a request, given its outcome. -/
structure Machine (S : Type u) (R : S → Type) (Φ σ : Type) where
  exec : Φ → (s : S) → σ → R s × σ

namespace Prog

variable {S : Type u} {R : S → Type} {Φ σ : Type} {α β γ : Type}

def bind : Prog S R α → (α → Prog S R β) → Prog S R β
  | ret a, f => f a
  | call s k, f => call s (fun r => (k r).bind f)

instance : Monad (Prog S R) where
  pure := ret
  bind := bind

def request (s : S) : Prog S R (R s) := call s ret

/-- A fallible program whose error is handed to the caller as a value. -/
def attempt {ε : Type} (x : ExceptT ε (Prog S R) α) : ExceptT ε (Prog S R) (Except ε α) :=
  ExceptT.mk (x.run >>= fun r => ret (.ok r))

def mapError {ε ε' : Type} (f : ε → ε') (x : ExceptT ε (Prog S R) α) : ExceptT ε' (Prog S R) α :=
  ExceptT.mk (x.run >>= fun r => ret (r.mapError f))

@[simp] lemma pure_eq {a : α} : (pure a : Prog S R α) = ret a := rfl

@[simp] lemma ret_bind {a : α} {f : α → Prog S R β} : (ret a >>= f) = f a := rfl

@[simp] lemma call_bind (s : S) (k : R s → Prog S R α) (f : α → Prog S R β) :
    (call s k >>= f) = call s (fun r => k r >>= f) := rfl

lemma bind_assoc (p : Prog S R α) (f : α → Prog S R β) (g : β → Prog S R γ) :
    (p >>= f) >>= g = p >>= fun a => f a >>= g := by
  induction p with
  | ret a => rfl
  | call s k ih =>
    simp only [call_bind]
    congr 1
    funext r
    exact ih r

/-- The run to the end on the outcomes `φs`, continued with `d` once they are used up. -/
def eval (m : Machine S R Φ σ) (d : Φ) : Prog S R α → List Φ → σ → α × σ
  | ret a, _, x => (a, x)
  | call s k, φs, x =>
    let r := m.exec (φs.headD d) s x
    (k r.1).eval m d φs.tail r.2

/-- The run that stops once the outcomes are used up: `none` is a program cut off
between two requests. -/
def run (m : Machine S R Φ σ) : Prog S R α → List Φ → σ → Option α × σ
  | ret a, _, x => (some a, x)
  | call _ _, [], x => (none, x)
  | call s k, φ :: φs, x =>
    let r := m.exec φ s x
    (k r.1).run m φs r.2

lemma run_bind_ret {m : Machine S R Φ σ} {p : Prog S R α} {f : α → Prog S R β}
    (hf : ∀ a, ∃ b, f a = ret b) (φs : List Φ) (x : σ) : ((p >>= f).run m φs x).2 = (p.run m φs x).2 := by
  induction p generalizing φs x with
  | ret a =>
    obtain ⟨b, hb⟩ := hf a
    rw [ret_bind, hb]
    rfl
  | call s k ih =>
    cases φs with
    | nil => rfl
    | cons φ φs => exact ih _ φs _

/-- Every request that the program can issue, whatever the answers, satisfies `P`. -/
def Issues (P : S → Prop) : Prog S R α → Prop
  | ret _ => True
  | call s k => P s ∧ ∀ r, (k r).Issues P

def Returns (P : α → Prop) : Prog S R α → Prop
  | ret a => P a
  | call _ k => ∀ r, (k r).Returns P

/-- Every request of the run on `φs` meets the condition `A`. -/
def Meets (m : Machine S R Φ σ) (d : Φ) (A : S → Φ → σ → Prop) :
    Prog S R α → List Φ → σ → Prop
  | ret _, _, _ => True
  | call s k, φs, x =>
    A s (φs.headD d) x ∧
      (k (m.exec (φs.headD d) s x).1).Meets m d A φs.tail (m.exec (φs.headD d) s x).2

/-- `Q` holds at the end of every run whose requests all meet `A`. -/
def wp (m : Machine S R Φ σ) (A : S → Φ → σ → Prop) :
    Prog S R α → (α → σ → Prop) → σ → Prop
  | ret a, Q, x => Q a x
  | call s k, Q, x => ∀ φ, A s φ x → (k (m.exec φ s x).1).wp m A Q (m.exec φ s x).2

section Issues

variable {P : S → Prop} {m : Machine S R Φ σ}
variable {p : Prog S R α}

@[grind ←]
lemma Issues.bind {f : α → Prog S R β} (h : p.Issues P) (hf : ∀ a, (f a).Issues P) : (p >>= f).Issues P := by
  induction p with
  | ret a => exact hf a
  | call s k ih => exact ⟨h.1, fun r => ih r (h.2 r)⟩

@[grind ←] lemma issues_ret {a : α} : (pure a : Prog S R α).Issues P := trivial

lemma Issues.mono {P' : S → Prop} (h : p.Issues P) (hP : ∀ s, P s → P' s) : p.Issues P' := by
  induction p with
  | ret a => trivial
  | call s k ih => exact ⟨hP s h.1, fun r => ih r (h.2 r)⟩

section Fallible

variable {ε ε' : Type} {x : ExceptT ε (Prog S R) α}

@[simp, grind ←] lemma issues_pure {a : α} : (pure a : ExceptT ε (Prog S R) α).run.Issues P := trivial

@[simp, grind ←] lemma issues_throw {e : ε} : (throw e : ExceptT ε (Prog S R) α).run.Issues P := trivial

@[grind ←] lemma Issues.bind_run {f : α → ExceptT ε (Prog S R) β} (h : x.run.Issues P)
    (hf : ∀ a, (f a).run.Issues P) : (x >>= f).run.Issues P := by
  refine h.bind fun r => ?_
  cases r with
  | error e => trivial
  | ok a => exact hf a

@[grind ←]
lemma Issues.lift {p : Prog S R α} (h : p.Issues P) : (ExceptT.lift p : ExceptT ε (Prog S R) α).run.Issues P :=
  h.bind fun _ => trivial

@[grind ←] lemma Issues.attempt (h : x.run.Issues P) : (Prog.attempt x).run.Issues P := h.bind fun _ => trivial

@[grind ←] lemma Issues.mapError {g : ε → ε'} (h : x.run.Issues P) : (Prog.mapError g x).run.Issues P :=
  h.bind fun _ => trivial

end Fallible

lemma Issues.foldlM {l : List β} {f : α → β → Prog S R α} (hf : ∀ a b, (f a b).Issues P) (a : α) :
    (l.foldlM f a).Issues P := by
  induction l generalizing a with
  | nil => trivial
  | cons b l ih =>
    exact (hf a b).bind ih

/-- What every request of a program keeps holds wherever a run of it is cut off. -/
theorem run_of_issues {K : σ → Prop} (hP : ∀ s, P s → ∀ φ x, K x → K (m.exec φ s x).2)
    (h : p.Issues P) {x : σ} (hx : K x) (φs : List Φ) : K (p.run m φs x).2 := by
  induction p generalizing x φs with
  | ret a => exact hx
  | call s k ih =>
    cases φs with
    | nil => exact hx
    | cons φ φs => exact ih _ (h.2 _) (hP s h.1 φ x hx) φs

end Issues

section Returns

variable {P : α → Prop}

lemma returns_trivial (p : Prog S R α) : p.Returns fun _ => True := by
  induction p with
  | ret a => trivial
  | call s k ih => exact ih

lemma Returns.bind {Q : β → Prop} {p : Prog S R α} {f : α → Prog S R β} (h : p.Returns P)
    (hf : ∀ a, P a → (f a).Returns Q) : (p >>= f).Returns Q := by
  induction p with
  | ret a => exact hf a h
  | call s k ih => exact fun r => ih r (h r)

section Fallible

variable {ε : Type} {x : ExceptT ε (Prog S R) α} {P : Except ε α → Prop}
variable {f : α → ExceptT ε (Prog S R) β}

lemma Returns.bind_run {Q : Except ε β → Prop} (h : x.run.Returns P)
    (he : ∀ e, P (.error e) → Q (.error e)) (hf : ∀ a, P (.ok a) → (f a).run.Returns Q) :
    (x >>= f).run.Returns Q := by
  refine h.bind fun r hr => ?_
  cases r with
  | error e => exact he e hr
  | ok a => exact hf a hr

def NeverFails (x : ExceptT ε (Prog S R) α) : Prop := x.run.Returns fun r => ∀ e, r ≠ .error e

@[grind ←]
lemma neverFails_pure (a : α) : NeverFails (pure a : ExceptT ε (Prog S R) α) := fun _ he => by cases he

@[grind ←]
lemma neverFails_attempt (x : ExceptT ε (Prog S R) α) : NeverFails (attempt x) :=
  (returns_trivial x.run).bind fun _ _ _ he => by cases he

@[grind ←]
lemma NeverFails.bind (h : NeverFails x) (hf : ∀ a, NeverFails (f a)) : NeverFails (x >>= f) :=
  Returns.bind_run h (fun e he => absurd rfl (he e)) fun a _ => hf a

end Fallible

end Returns

section Wp

variable {m : Machine S R Φ σ} {A : S → Φ → σ → Prop}
variable {p : Prog S R α} {Q Q' : α → σ → Prop} {x : σ} {d : Φ}

@[simp] lemma wp_ret {a : α} {Q : α → σ → Prop} {x : σ} : (ret a).wp m A Q x ↔ Q a x := Iff.rfl

@[simp] lemma wp_call {s : S} {k : R s → Prog S R α} {Q : α → σ → Prop} {x : σ} : (call s k).wp m A Q x ↔
      ∀ φ, A s φ x → (k (m.exec φ s x).1).wp m A Q (m.exec φ s x).2 := Iff.rfl

@[simp] lemma wp_request {s : S} {Q : R s → σ → Prop} {x : σ} :
    (request s).wp m A Q x ↔ ∀ φ, A s φ x → Q (m.exec φ s x).1 (m.exec φ s x).2 := Iff.rfl

lemma wp_bind (p : Prog S R α) (f : α → Prog S R β) (Q : β → σ → Prop) (x : σ) :
    (p >>= f).wp m A Q x ↔ p.wp m A (fun a y => (f a).wp m A Q y) x := by
  induction p generalizing x with
  | ret a => rfl
  | call s k ih =>
    exact forall_congr' fun φ => imp_congr_right fun _ => ih _ _

lemma wp_mono (h : ∀ a y, Q a y → Q' a y) (hp : p.wp m A Q x) : p.wp m A Q' x := by
  induction p generalizing x with
  | ret a => exact h a x hp
  | call s k ih => exact fun φ hA => ih _ (hp φ hA)

/-- Soundness of `wp`: a run whose outcomes meet `A` ends with `Q`. -/
theorem eval_of_wp (h : p.wp m A Q x)
    {φs : List Φ} (hA : p.Meets m d A φs x) : Q (p.eval m d φs x).1 (p.eval m d φs x).2 := by
  induction p generalizing x φs with
  | ret a => exact h
  | call s k ih => exact ih _ (h _ hA.1) hA.2

lemma wp_of_issues {P : S → Prop} {K : σ → Prop} (hP : ∀ s, P s → ∀ φ x, K x → K (m.exec φ s x).2)
    (h : p.Issues P) (hx : K x) : p.wp m A (fun _ y => K y) x := by
  induction p generalizing x with
  | ret a => exact hx
  | call s k ih => exact fun φ _ => ih _ (h.2 _) (hP s h.1 φ x hx)

lemma meets_of_forall (h : ∀ s φ x, A s φ x) (φs : List Φ) (x : σ) : p.Meets m d A φs x := by
  induction p generalizing x φs with
  | ret a => trivial
  | call s k ih => exact ⟨h _ _ _, ih _ _ _⟩

lemma meets_nil (h : ∀ s x, A s d x) (x : σ) : p.Meets m d A [] x := by
  induction p generalizing x with
  | ret a => trivial
  | call s k ih => exact ⟨h _ _, ih _ _⟩

lemma wp_default_iff : p.wp m (fun _ φ _ => φ = d) Q x ↔ Q (p.eval m d [] x).1 (p.eval m d [] x).2 := by
  induction p generalizing x with
  | ret a => rfl
  | call s k ih =>
    constructor
    · intro h
      exact (ih _).mp (h d rfl)
    · rintro h φ rfl
      exact (ih _).mpr h

/-- The weakest precondition of a fallible program: `Q` where it returns, `E` where it fails. -/
def wpE {ε : Type} (m : Machine S R Φ σ) (A : S → Φ → σ → Prop) (x : ExceptT ε (Prog S R) α)
    (Q : α → σ → Prop) (E : ε → σ → Prop) : σ → Prop :=
  x.run.wp m A fun r y => match r with
    | .ok a => Q a y
    | .error e => E e y

def MayFault (d : Φ) (A : S → Φ → σ → Prop) : Prop := ∃ s φ x, A s φ x ∧ φ ≠ d

section WpE

variable {ε : Type} {x : ExceptT ε (Prog S R) α} {f : α → ExceptT ε (Prog S R) β}
variable {Q Q' : α → σ → Prop} {E E' : ε → σ → Prop} {y z : σ} {d : Φ} {φs : List Φ} {a : α}

@[simp] lemma wpE_pure (a : α) (Q : α → σ → Prop) (E : ε → σ → Prop) (y : σ) :
    wpE m A (pure a) Q E y ↔ Q a y := Iff.rfl

@[simp] lemma wpE_throw {e : ε} {Q : α → σ → Prop} {E : ε → σ → Prop} {y : σ} :
    wpE m A (throw e) Q E y ↔ E e y := Iff.rfl

lemma wpE_bind (Q : β → σ → Prop) (E : ε → σ → Prop) (y : σ) :
    wpE m A (x >>= f) Q E y ↔ wpE m A x (fun a z => wpE m A (f a) Q E z) E y := by
  unfold wpE
  rw [ExceptT.run_bind, wp_bind]
  constructor <;> refine wp_mono fun r z hr => ?_ <;> cases r <;> exact hr

@[simp] lemma wpE_attempt (Q : Except ε α → σ → Prop) (E : ε → σ → Prop) (y : σ) : wpE m A (attempt x) Q E y ↔
      wpE m A x (fun a z => Q (.ok a) z) (fun e z => Q (.error e) z) y := by
  unfold wpE attempt
  rw [ExceptT.run_mk, wp_bind]
  constructor <;> refine wp_mono fun r z hr => ?_ <;> cases r <;> exact hr

@[simp] lemma wpE_mapError {ε' : Type} (g : ε → ε') (Q : α → σ → Prop) (E : ε' → σ → Prop) (y : σ) :
    wpE m A (mapError g x) Q E y ↔ wpE m A x Q (fun e z => E (g e) z) y := by
  unfold wpE mapError
  rw [ExceptT.run_mk, wp_bind]
  constructor <;> refine wp_mono fun r z hr => ?_ <;> cases r <;> exact hr

@[simp] lemma wpE_lift (p : Prog S R α) (Q : α → σ → Prop) (E : ε → σ → Prop) (y : σ) :
    wpE m A (ExceptT.lift p) Q E y ↔ p.wp m A Q y :=
  wp_bind p (fun a => ret (Except.ok a)) _ y

lemma wp_run (Q : Except ε α → σ → Prop) (y : σ) :
    x.run.wp m A Q y ↔ wpE m A x (fun a z => Q (.ok a) z) (fun e z => Q (.error e) z) y := by
  constructor <;> refine wp_mono fun r z hr => ?_ <;> cases r <;> exact hr

lemma wpE_mono (h : wpE m A x Q E y)
    (hQ : ∀ a z, Q a z → Q' a z) (hE : ∀ e z, E e z → E' e z) : wpE m A x Q' E' y := by
  refine wp_mono (fun r z hr => ?_) h
  cases r with
  | ok a => exact hQ a z hr
  | error e => exact hE e z hr

lemma wpE_of_keeps {P : S → Prop} {K : σ → Prop} (hP : ∀ s, P s → ∀ φ x, K x → K (m.exec φ s x).2)
    (h : x.run.Issues P) (hy : K y) : wpE m A x (fun _ z => K z) (fun _ z => K z) y := by
  apply wp_mono _ (wp_of_issues hP h hy)
  intro r z hz
  cases r with
  | ok a => exact hz
  | error e => exact hz

/-- A run that fails ends with `E`. -/
theorem error_of_wpE (h : wpE m A x Q E y) (hA : x.run.Meets m d A φs y) {e : ε}
    (hrun : x.run.eval m d φs y = (.error e, z)) : E e z := by
  have hQ := eval_of_wp h hA
  rw [hrun] at hQ
  exact hQ

/-- A run that returns ends with `Q`. -/
theorem ok_of_wpE (h : wpE m A x Q E y) (hA : x.run.Meets m d A φs y) (hrun : x.run.eval m d φs y = (.ok a, z)) :
    Q a z := by
  have hQ := eval_of_wp h hA
  rw [hrun] at hQ
  exact hQ

/-- A program that cannot fail under the default outcome returns. -/
theorem exists_ok_of_wpE (h : wpE m (fun _ φ _ => φ = d) x Q (fun _ _ => False) y) :
    ∃ a z, x.run.eval m d [] y = (.ok a, z) ∧ Q a z := by
  have heval := wp_default_iff.mp h
  rcases hres : x.run.eval m d [] y with ⟨e | a, z⟩ <;> rw [hres] at heval
  · exact heval.elim
  · exact ⟨a, z, rfl, heval⟩

lemma wpE_of_eval (h : x.run.eval m d [] y = (.ok a, z)) (hQ : Q a z) : wpE m (fun _ φ _ => φ = d) x Q E y := by
  apply wp_default_iff.mpr
  rw [h]
  exact hQ

lemma wp_of_wpE {J : σ → Prop} (h : wpE m A x (fun _ z => J z) (fun _ z => J z) y) :
    x.run.wp m A (fun _ z => J z) y := by
  apply wp_mono _ h
  intro r z hr
  cases r with
  | ok a => exact hr
  | error e => exact hr

end WpE

section Sequences

variable {d : Φ}

/-- The state after programs that run one after the other, each on outcomes of its own. -/
def evalSeq (m : Machine S R Φ σ) (d : Φ) : List (Prog S R α × List Φ) → σ → σ
  | [], x => x
  | (p, φs) :: ps, x => evalSeq m d ps (p.eval m d φs x).2

def MeetsSeq (m : Machine S R Φ σ) (d : Φ) (A : S → Φ → σ → Prop) :
    List (Prog S R α × List Φ) → σ → Prop
  | [], _ => True
  | (p, φs) :: ps, x => p.Meets m d A φs x ∧ MeetsSeq m d A ps (p.eval m d φs x).2

lemma meetsSeq_of_forall (h : ∀ s φ x, A s φ x) (ps : List (Prog S R α × List Φ)) (x : σ) : MeetsSeq m d A ps x := by
  induction ps generalizing x with
  | nil => trivial
  | cons c ps ih => exact ⟨meets_of_forall h c.2 x, ih _⟩

/-- What every program of a sequence keeps holds after the sequence. -/
theorem evalSeq_induction {J : σ → Prop} {ps : List (Prog S R α × List Φ)} {x : σ}
    (h : ∀ c ∈ ps, ∀ x, J x → c.1.wp m A (fun _ y => J y) x) (hA : MeetsSeq m d A ps x) (hx : J x) :
    J (evalSeq m d ps x) := by
  induction ps generalizing x with
  | nil => exact hx
  | cons c ps ih =>
    have hc : J (c.1.eval m d c.2 x).2 := eval_of_wp (h c List.mem_cons_self x hx) hA.1
    exact ih (fun c' hc' => h c' (List.mem_cons_of_mem c hc')) hA.2 hc

end Sequences

end Wp

end Prog

end LoveApi.Program
