import LoveApi.Program.Pool

/-!
# Transactions under read-committed isolation

A statement of a session sees the committed state with the session's own statements on top of it; the other sessions
see nothing of them before the commit.
-/

namespace LoveApi.Program

open List Option

variable {S : Type} {T : S → Type} {ε σ ρ α β : Type}

inductive SessionReq (S : Type)
  | stmt (i : Nat) (s : S)
  | commit (i : Nat)
  | rollback (i : Nat)

@[reducible] def SessionReq.Resp (T : S → Type) (ε : Type) : SessionReq S → Type
  | .stmt _ s => Except ε (T s)
  | .commit _ => Except ε Unit
  | .rollback _ => Unit

def SessionReq.session : SessionReq S → Nat
  | .stmt i _ => i
  | .commit i => i
  | .rollback i => i

/-- What is committed, and what the open sessions have written. -/
structure Sessions (S σ : Type) where
  committed : σ
  pending : List (Nat × S) := []

def replay (m : Machine S (fun s => Except ε (T s)) (Option ε) σ) (l : List S) (c : σ) : σ :=
  l.foldl (fun x s => (m.exec none s x).2) c

/-- The statements of a transaction after one more, which counts if it succeeds. -/
def recorded {τ : Type} (l : List S) (s : S) : Except ε τ → List S
  | .ok _ => l ++ [s]
  | .error _ => l

namespace Sessions

def statements (x : Sessions S σ) (i : Nat) : List S := (x.pending.filter fun w => w.1 = i).map (·.2)

def view (m : Machine S (fun s => Except ε (T s)) (Option ε) σ) (x : Sessions S σ) (i : Nat) : σ :=
  replay m (x.statements i) x.committed

def record {τ : Type} (x : Sessions S σ) (i : Nat) (s : S) : Except ε τ → Sessions S σ
  | .ok _ => { x with pending := x.pending ++ [(i, s)] }
  | .error _ => x

def close (x : Sessions S σ) (i : Nat) : Sessions S σ :=
  { x with pending := x.pending.filter fun w => w.1 ≠ i }

end Sessions

def readCommitted (m : Machine S (fun s => Except ε (T s)) (Option ε) σ) :
    Machine (SessionReq S) (SessionReq.Resp T ε) (Option ε) (Sessions S σ) where
  exec φ req x :=
    match req with
    | .stmt i s => ((m.exec φ s (x.view m i)).1, x.record i s (m.exec φ s (x.view m i)).1)
    | .commit i =>
      match φ with
      | none => (.ok (), { x.close i with committed := x.view m i })
      | some e => (.error e, x)
    | .rollback i => ((), x.close i)

/-- A statement that fails changes nothing, and one that succeeds does what it does under the normal
outcome. -/
structure Machine.Transactional (m : Machine S (fun s => Except ε (T s)) (Option ε) σ) : Prop where
  of_error : ∀ {φ s x e}, (m.exec φ s x).1 = .error e → (m.exec φ s x).2 = x
  of_ok : ∀ {φ s x a}, (m.exec φ s x).1 = .ok a → (m.exec φ s x).2 = (m.exec none s x).2

def inSession (i : Nat) : Prog S (fun s => Except ε (T s)) α → Prog (SessionReq S) (SessionReq.Resp T ε) α
  | .ret a => .ret a
  | .call s k => .call (.stmt i s) fun r => inSession i (k r)

def endTransaction (i : Nat) : Except ε β → Prog (SessionReq S) (SessionReq.Resp T ε) (Except ε β)
  | .error e => .call (.rollback i) fun _ => .ret (.error e)
  | .ok b => .call (.commit i) fun
    | .error e => .call (.rollback i) fun _ => .ret (.error e)
    | .ok _ => .ret (.ok b)

def inTransaction (i : Nat) (body : ExceptT ε (Prog S (fun s => Except ε (T s))) β) :
    Prog (SessionReq S) (SessionReq.Resp T ε) (Except ε β) :=
  inSession i body.run >>= endTransaction i

namespace Prog

variable {R : S → Type} {B : S → Prop} {F : α → Prop}

/-- Every way to a result outside `F` goes through a statement of `B`. -/
def Retreats (B : S → Prop) (F : α → Prop) : Prog S R α → Prop
  | ret a => F a
  | call s k => B s ∨ ∀ r, (k r).Retreats B F

/-- Wherever the program has got to, it retreats, unless it has issued its last statement. -/
def Guarded (B : S → Prop) (F : α → Prop) : Prog S R α → Prop
  | ret _ => True
  | call s k => (call s k).Retreats B F ∧ ∀ r, (k r).Guarded B F

lemma Retreats.bind {F : β → Prop} {f : α → Prog S R β} (hf : ∀ a, (f a).Retreats B F) (p : Prog S R α) :
    (p >>= f).Retreats B F := by
  induction p with
  | ret a => exact hf a
  | call s k ih => exact .inr ih

lemma Guarded.bind {F : β → Prop} {f : α → Prog S R β} (hf : ∀ a, (f a).Retreats B F)
    (hf' : ∀ a, (f a).Guarded B F) (p : Prog S R α) : (p >>= f).Guarded B F := by
  induction p with
  | ret a => exact hf' a
  | call s k ih => exact ⟨Retreats.bind hf (call s k), ih⟩

/-- A fallible program that retreats to an error, wherever it has got to. -/
structure Retreating {ε : Type} (B : S → Prop) (y : ExceptT ε (Prog S R) α) : Prop where
  retreats : y.run.Retreats B fun r => ∃ e, r = .error e
  guarded : y.run.Guarded B fun r => ∃ e, r = .error e

lemma retreating_throw {ε : Type} (e : ε) : Retreating B (throw e : ExceptT ε (Prog S R) α) :=
  ⟨⟨e, rfl⟩, trivial⟩

lemma Retreating.bind {ε : Type} {f : α → ExceptT ε (Prog S R) β} (hf : ∀ a, Retreating B (f a))
    (y : ExceptT ε (Prog S R) α) : Retreating B (y >>= f) := by
  constructor
  · apply Retreats.bind
    intro r
    cases r with
    | error e => exact ⟨e, rfl⟩
    | ok a => exact (hf a).retreats
  · apply Guarded.bind
    · intro r
      cases r with
      | error e => exact ⟨e, rfl⟩
      | ok a => exact (hf a).retreats
    · intro r
      cases r with
      | error e => trivial
      | ok a => exact (hf a).guarded

end Prog

/-! ### Locks -/

/-- The rows that statements write. Rows may stand for parts of a table that overlap. -/
structure RowLocks (m : Machine S (fun s => Except ε (T s)) (Option ε) σ) (ρ : Type) where
  lock : S → Option ρ
  overlaps : ρ → ρ → Bool
  overlaps_comm : ∀ r r', overlaps r r' = overlaps r' r
  /-- Two states agree on a row. -/
  same : ρ → σ → σ → Prop
  same_refl : ∀ r x, same r x x
  same_trans : ∀ {r x y z}, same r x y → same r y z → same r x z
  /-- A statement changes no row but the one that it locks. -/
  frame : ∀ {s r}, (∀ r' ∈ lock s, overlaps r' r = false) → ∀ x, same r x (m.exec none s x).2

namespace RowLocks

variable {m : Machine S (fun s => Except ε (T s)) (Option ε) σ} (L : RowLocks m ρ)

def conflicts (s w : S) : Bool :=
  match L.lock s, L.lock w with
  | some r, some r' => L.overlaps r r'
  | _, _ => false

lemma conflicts_comm {s w : S} : L.conflicts s w = L.conflicts w s := by
  unfold conflicts
  cases L.lock s <;> cases L.lock w <;> simp [L.overlaps_comm]

def blocked : SessionReq S → Sessions S σ → Bool
  | .stmt i s, x => x.pending.any fun w => w.1 ≠ i && L.conflicts w.2 s
  | _, _ => false

def Held (l : List S) (c c' : σ) : Prop := ∀ s ∈ l, ∀ r ∈ L.lock s, L.same r c c'

/-- No two sessions hold the same lock. -/
def Exclusive (x : Sessions S σ) : Prop :=
  ∀ v ∈ x.pending, ∀ w ∈ x.pending, v.1 ≠ w.1 → L.conflicts v.2 w.2 = false

variable {L} {l : List S} {c c' c'' : σ}

lemma Held.refl (l : List S) (c : σ) : L.Held l c c := fun _ _ r _ => L.same_refl r c

lemma Held.trans (h : L.Held l c c') (h' : L.Held l c' c'') : L.Held l c c'' :=
  fun s hs r hr => L.same_trans (h s hs r hr) (h' s hs r hr)

lemma held_replay {l' : List S} (h : ∀ s ∈ l, ∀ w ∈ l', L.conflicts s w = false) (c : σ) :
    L.Held l c (replay m l' c) := by
  induction l' generalizing c with
  | nil => exact Held.refl l c
  | cons w l' ih =>
    have hstep : L.Held l c (m.exec none w c).2 := by
      intro s hs r hr
      apply L.frame
      intro r' hr'
      have hc := h s hs w mem_cons_self
      unfold conflicts at hc
      rw [mem_def.mp hr, mem_def.mp hr'] at hc
      rw [L.overlaps_comm]
      exact hc
    exact hstep.trans (ih (fun s hs w' hw' => h s hs w' (mem_cons_of_mem w hw')) _)

lemma exists_lock_of_replay {r : ρ} (h : ¬L.same r c (replay m l c)) :
    ∃ s ∈ l, ∃ r' ∈ L.lock s, L.overlaps r' r = true := by
  by_contra hno
  apply h
  clear h
  induction l generalizing c with
  | nil => exact L.same_refl r c
  | cons s l ih =>
    have hfree : ∀ w ∈ s :: l, ∀ r' ∈ L.lock w, L.overlaps r' r = false := by
      intro w hw r' hr'
      by_contra hne
      exact hno ⟨w, hw, r', hr', Bool.of_not_eq_false hne⟩
    have hstep : L.same r c (m.exec none s c).2 := L.frame (hfree s mem_cons_self) c
    apply L.same_trans hstep
    apply ih
    rintro ⟨w, hw, r', hr', hov⟩
    rw [hfree w (mem_cons_of_mem s hw) r' hr'] at hov
    cases hov

end RowLocks

/-! ### Sessions one by one -/

section

variable {x : Sessions S σ} {i j : Nat} {s : S}

lemma statements_record {τ : Type} {r : Except ε τ} :
    (x.record i s r).statements i = recorded (x.statements i) s r := by
  cases r with
  | error e => rfl
  | ok a => simp [Sessions.record, Sessions.statements, recorded, filter_append]

lemma statements_record_of_ne {τ : Type} (h : j ≠ i) {r : Except ε τ} :
    (x.record i s r).statements j = x.statements j := by
  cases r with
  | error e => rfl
  | ok a => simp [Sessions.record, Sessions.statements, filter_append, h.symm]

lemma statements_close : (x.close i).statements i = [] := by
  simp [Sessions.close, Sessions.statements, List.filter_filter]

lemma statements_close_of_ne (h : j ≠ i) : (x.close i).statements j = x.statements j := by
  unfold Sessions.close Sessions.statements
  rw [List.filter_filter]
  congr 1
  apply List.filter_congr
  intro w _
  by_cases hw : w.1 = j <;> simp [hw, h]

@[simp] lemma committed_record {τ : Type} {r : Except ε τ} : (x.record i s r).committed = x.committed := by
  cases r <;> rfl

lemma mem_statements {w : S} : w ∈ x.statements i ↔ (i, w) ∈ x.pending := by
  unfold Sessions.statements
  rw [List.mem_map]
  constructor
  · rintro ⟨⟨j, v⟩, hv, rfl⟩
    obtain ⟨hmem, hj⟩ := mem_filter.mp hv
    obtain rfl : j = i := of_decide_eq_true hj
    exact hmem
  · intro h
    exact ⟨(i, w), mem_filter.mpr ⟨h, decide_eq_true rfl⟩, rfl⟩

end

/-- What the sessions rely on: the locks, an invariant of the committed state and the total of all
shares, and how the committed state may change. -/
structure Protocol (m : Machine S (fun s => Except ε (T s)) (Option ε) σ) (ρ M : Type) where
  locks : RowLocks m ρ
  inv : σ → M → Prop
  evolves : σ → σ → Prop := fun _ _ => True
  evolves_refl : ∀ c, evolves c c := by exact fun _ => trivial
  evolves_trans : ∀ {c c' c''}, evolves c c' → evolves c' c'' → evolves c c'' := by exact fun _ _ => trivial

variable {M : Type} [AddCommMonoid M] {m : Machine S (fun s => Except ε (T s)) (Option ε) σ}

namespace Protocol

/-- Session `i` has executed the statements `l`, and its last request left the committed state `c`. -/
structure Sees (P : Protocol m ρ M) (i : Nat) (l : List S) (c : σ) (x : Sessions S σ) : Prop where
  statements : x.statements i = l
  held : P.locks.Held l c x.committed
  evolves : P.evolves c x.committed

/-- Every request of the program, issued by session `i` while the invariant holds, keeps it for a
changed share of this session; the program ends with a value, statements, a committed state and a
share that satisfy `Q`. -/
def Upholds (P : Protocol m ρ M) (A : SessionReq S → Option ε → Sessions S σ → Prop) (i : Nat) :
    Prog (SessionReq S) (SessionReq.Resp T ε) α → (α → List S → σ → M → Prop) → List S → σ → M → Prop
  | .ret a, Q, l, c, g => Q a l c g
  | .call req k, Q, l, c, g => req.session = i ∧ ∀ φ x rest, P.Sees i l c x → A req φ x →
      P.inv x.committed (g + rest) →
      ∃ g', P.evolves x.committed ((readCommitted m).exec φ req x).2.committed ∧
        P.inv ((readCommitted m).exec φ req x).2.committed (g' + rest) ∧
        P.Upholds A i (k ((readCommitted m).exec φ req x).1) Q
          (((readCommitted m).exec φ req x).2.statements i) ((readCommitted m).exec φ req x).2.committed g'

section Rules

variable {P : Protocol m ρ M} {A : SessionReq S → Option ε → Sessions S σ → Prop} {i : Nat} {l : List S}
  {c : σ} {g : M}

lemma Upholds.bind {p : Prog (SessionReq S) (SessionReq.Resp T ε) α}
    {f : α → Prog (SessionReq S) (SessionReq.Resp T ε) β} {Q : β → List S → σ → M → Prop}
    (h : P.Upholds A i p (fun a l c g => P.Upholds A i (f a) Q l c g) l c g) :
    P.Upholds A i (p >>= f) Q l c g := by
  induction p generalizing l c g with
  | ret a => exact h
  | call req k ih =>
    refine ⟨h.1, ?_⟩
    intro φ x rest hx hA hI
    obtain ⟨g', hev, hI', hk⟩ := h.2 φ x rest hx hA hI
    exact ⟨g', hev, hI', ih _ hk⟩

lemma Upholds.mono {p : Prog (SessionReq S) (SessionReq.Resp T ε) α} {Q Q' : α → List S → σ → M → Prop}
    (h : P.Upholds A i p Q l c g) (hQ : ∀ a l c g, Q a l c g → Q' a l c g) : P.Upholds A i p Q' l c g := by
  induction p generalizing l c g with
  | ret a => exact hQ a l c g h
  | call req k ih =>
    refine ⟨h.1, ?_⟩
    intro φ x rest hx hA hI
    obtain ⟨g', hev, hI', hk⟩ := h.2 φ x rest hx hA hI
    exact ⟨g', hev, hI', ih _ hk⟩

lemma upholds_stmt {s : S} {k : Except ε (T s) → Prog S (fun s => Except ε (T s)) α}
    {Q : α → List S → σ → M → Prop}
    (h : ∀ φ x rest, P.Sees i l c x → A (.stmt i s) φ x → P.inv x.committed (g + rest) →
      ∀ r, r = (m.exec φ s (replay m l x.committed)).1 →
        P.Upholds A i (inSession i (k r)) Q (recorded l s r) x.committed g) :
    P.Upholds A i (inSession i (.call s k)) Q l c g := by
  refine ⟨rfl, ?_⟩
  intro φ x rest hx hA hI
  have hview : x.view m i = replay m l x.committed := by
    unfold Sessions.view
    rw [hx.statements]
  have hk := h φ x rest hx hA hI _ rfl
  refine ⟨g, ?_, ?_, ?_⟩
  · show P.evolves x.committed (x.record i s _).committed
    rw [committed_record]
    exact P.evolves_refl _
  · show P.inv (x.record i s _).committed _
    rw [committed_record]
    exact hI
  · show P.Upholds A i (inSession i (k (m.exec φ s (x.view m i)).1)) Q
      ((x.record i s (m.exec φ s (x.view m i)).1).statements i)
      (x.record i s (m.exec φ s (x.view m i)).1).committed g
    rw [statements_record, committed_record, hx.statements, hview]
    exact hk

lemma inSession_bind {p : Prog S (fun s => Except ε (T s)) α} {f : α → Prog S (fun s => Except ε (T s)) β} :
    inSession i (p >>= f) = inSession i p >>= fun a => inSession i (f a) := by
  induction p with
  | ret a => rfl
  | call s k ih =>
    simp only [Prog.call_bind, inSession]
    congr 1
    funext r
    exact ih r

section Fallible

variable {y : ExceptT ε (Prog S (fun s => Except ε (T s))) α}
  {f : α → ExceptT ε (Prog S (fun s => Except ε (T s))) β}

lemma upholds_bind_run {Q : Except ε β → List S → σ → M → Prop} (h : P.Upholds A i (inSession i y.run) (fun r l c g =>
      (∀ e, r = .error e → Q (.error e) l c g) ∧
        ∀ a, r = .ok a → P.Upholds A i (inSession i (f a).run) Q l c g) l c g) :
    P.Upholds A i (inSession i (y >>= f).run) Q l c g := by
  rw [ExceptT.run_bind, inSession_bind]
  apply Upholds.bind
  apply h.mono
  intro r l c g hr
  cases r with
  | error e => exact hr.1 e rfl
  | ok a => exact hr.2 a rfl

lemma upholds_attempt_bind {f : Except ε α → ExceptT ε (Prog S (fun s => Except ε (T s))) β}
    {Q : Except ε β → List S → σ → M → Prop}
    (h : P.Upholds A i (inSession i y.run) (fun r l c g => P.Upholds A i (inSession i (f r).run) Q l c g) l c g) :
    P.Upholds A i (inSession i (Prog.attempt y >>= f).run) Q l c g := by
  have heq : (Prog.attempt y >>= f).run = y.run >>= fun r => (f r).run := by
    show (y.run >>= fun r => Prog.ret (Except.ok (ε := ε) r)) >>= _ = _
    rw [Prog.bind_assoc]
    rfl
  rw [heq, inSession_bind]
  exact Upholds.bind h

lemma upholds_mapError_bind {g' : ε → ε} {Q : Except ε β → List S → σ → M → Prop}
    (h : P.Upholds A i (inSession i y.run) (fun r l c g =>
      (∀ e, r = .error e → Q (.error (g' e)) l c g) ∧
        ∀ a, r = .ok a → P.Upholds A i (inSession i (f a).run) Q l c g) l c g) :
    P.Upholds A i (inSession i (Prog.mapError g' y >>= f).run) Q l c g := by
  apply upholds_bind_run
  show P.Upholds A i (inSession i (y.run >>= fun r => Prog.ret (r.mapError g'))) _ l c g
  rw [inSession_bind]
  apply Upholds.bind
  apply h.mono
  intro r l c g hr
  cases r with
  | error e =>
    constructor
    · rintro _ ⟨⟩
      exact hr.1 e rfl
    · rintro _ ⟨⟩
  | ok a =>
    constructor
    · rintro _ ⟨⟩
    · rintro _ ⟨⟩
      exact hr.2 a rfl

end Fallible

/-- What is left to show when the body of a transaction has ended: its commit keeps the invariant, and
its result satisfies `Q` however it ends. -/
def Ends (P : Protocol m ρ M) (i : Nat) (Q : Except ε β → List S → σ → M → Prop) (r : Except ε β)
    (l : List S) (c : σ) (g : M) : Prop :=
  (∀ e c', Q (.error e) [] c' g) ∧
    ∀ b, r = .ok b → ∀ x rest, P.Sees i l c x → P.inv x.committed (g + rest) →
      ∃ g', P.evolves x.committed (replay m l x.committed) ∧ P.inv (replay m l x.committed) (g' + rest) ∧
        Q (.ok b) [] (replay m l x.committed) g'

lemma upholds_endTransaction {Q : Except ε β → List S → σ → M → Prop} {r : Except ε β}
    (h : P.Ends i Q r l c g) : P.Upholds A i (endTransaction i r) Q l c g := by
  obtain ⟨herror, hok⟩ := h
  have hrollback : ∀ e l c, P.Upholds A i (.call (.rollback i) fun _ => .ret (.error e)) Q l c g := by
    intro e l c
    refine ⟨rfl, ?_⟩
    intro φ x rest hx hA hI
    refine ⟨g, P.evolves_refl _, hI, ?_⟩
    show Q (.error e) ((x.close i).statements i) x.committed g
    rw [statements_close]
    exact herror e _
  cases r with
  | error e => exact hrollback e l c
  | ok b =>
    refine ⟨rfl, ?_⟩
    intro φ x rest hx hA hI
    cases φ with
    | some e => exact ⟨g, P.evolves_refl _, hI, hrollback e _ _⟩
    | none =>
      obtain ⟨g', hev, hI', hQ⟩ := hok b rfl x rest hx hI
      have hview : x.view m i = replay m l x.committed := by
        unfold Sessions.view
        rw [hx.statements]
      refine ⟨g', ?_, ?_, ?_⟩
      · show P.evolves x.committed (x.view m i)
        rw [hview]
        exact hev
      · show P.inv (x.view m i) _
        rw [hview]
        exact hI'
      · show Q (.ok b) ((x.close i).statements i) (x.view m i) g'
        rw [statements_close, hview]
        exact hQ

lemma upholds_inTransaction {body : ExceptT ε (Prog S (fun s => Except ε (T s))) β}
    {Q : Except ε β → List S → σ → M → Prop}
    (h : P.Upholds A i (inSession i body.run) (P.Ends i Q) l c g) :
    P.Upholds A i (inTransaction i body) Q l c g := by
  apply Upholds.bind
  apply h.mono
  intro r l c g hr
  exact upholds_endTransaction hr

end Rules

/-! ### Runs -/

section

variable {P : Protocol m ρ M} {A : Nat → SessionReq S → Option ε → Sessions S σ → Prop}
  {Q : Nat → α → List S → σ → M → Prop}

structure Holds (P : Protocol m ρ M) (A : Nat → SessionReq S → Option ε → Sessions S σ → Prop)
    (Q : Nat → α → List S → σ → M → Prop) (c : Pool (SessionReq S) (SessionReq.Resp T ε) (Sessions S σ) α)
    (gs : List M) : Prop where
  inv : P.inv c.2.committed gs.sum
  length : c.1.length = gs.length
  exclusive : P.locks.Exclusive c.2
  upholds : ∀ i p g, c.1[i]? = some p → gs[i]? = some g →
    ∃ l c₀, P.Sees i l c₀ c.2 ∧ P.Upholds (A i) i p (Q i) l c₀ g

lemma exclusive_record {L : RowLocks m ρ} {x : Sessions S σ} {i : Nat} {s : S} {τ : Type}
    (h : L.Exclusive x) (hfree : L.blocked (.stmt i s) x = false) {r : Except ε τ} :
    L.Exclusive (x.record i s r) := by
  cases r with
  | error e => exact h
  | ok a =>
    have hnew : ∀ v ∈ x.pending, v.1 ≠ i → L.conflicts v.2 s = false := by
      intro v hv hne
      have hv' := any_eq_false.mp hfree v hv
      by_contra hc
      exact hv' (by simp [hne, Bool.of_not_eq_false hc])
    intro v hv w hw hne
    rcases mem_append.mp hv with hv | hv <;> rcases mem_append.mp hw with hw | hw
    · exact h v hv w hw hne
    · obtain rfl := mem_singleton.mp hw
      exact hnew v hv hne
    · obtain rfl := mem_singleton.mp hv
      rw [L.conflicts_comm]
      exact hnew w hw hne.symm
    · obtain rfl := mem_singleton.mp hv
      obtain rfl := mem_singleton.mp hw
      exact absurd rfl hne

lemma exclusive_close {L : RowLocks m ρ} {x : Sessions S σ} (h : L.Exclusive x) {i : Nat} :
    L.Exclusive (x.close i) := by
  intro v hv w hw hne
  exact h v (mem_of_mem_filter hv) w (mem_of_mem_filter hw) hne

lemma exec_of_exclusive {L : RowLocks m ρ} {x : Sessions S σ} {req : SessionReq S} {φ : Option ε}
    (hx : L.Exclusive x) (hfree : L.blocked req x = false) :
    L.Exclusive ((readCommitted m).exec φ req x).2 ∧ ∀ j, j ≠ req.session →
      ((readCommitted m).exec φ req x).2.statements j = x.statements j ∧
      L.Held (x.statements j) x.committed ((readCommitted m).exec φ req x).2.committed := by
  cases req with
  | stmt i s =>
    refine ⟨exclusive_record hx hfree, ?_⟩
    intro j hj
    refine ⟨statements_record_of_ne hj, ?_⟩
    show L.Held _ _ (x.record i s _).committed
    rw [committed_record]
    exact RowLocks.Held.refl _ _
  | rollback i => exact ⟨exclusive_close hx, fun j hj => ⟨statements_close_of_ne hj, RowLocks.Held.refl _ _⟩⟩
  | commit i =>
    cases φ with
    | some e => exact ⟨hx, fun j _ => ⟨rfl, RowLocks.Held.refl _ _⟩⟩
    | none =>
      refine ⟨exclusive_close hx, ?_⟩
      intro j hj
      refine ⟨statements_close_of_ne hj, ?_⟩
      apply RowLocks.held_replay
      intro s hs w hw
      exact hx (j, s) (mem_statements.mp hs) (i, w) (mem_statements.mp hw) hj

lemma Holds.step {c : Pool (SessionReq S) (SessionReq.Resp T ε) (Sessions S σ) α} {gs : List M}
    (h : Holds P A Q c gs) {i : Nat} {φ : Option ε}
    (hA : ∀ e ∈ Pool.event (readCommitted m) i φ c,
      P.locks.blocked e.request e.pre = false ∧ A e.thread e.request e.outcome e.pre) :
    ∃ gs', Holds P A Q (Pool.step (readCommitted m) i φ c) gs' := by
  rcases Pool.step_cases (m := readCommitted m) i φ c with ⟨req, k, hp, hstep, hev⟩ | ⟨hstep, -⟩
  · obtain ⟨hi, -⟩ := List.getElem?_eq_some_iff.mp hp
    obtain ⟨g, hg⟩ : ∃ g, gs[i]? = some g :=
      ⟨_, List.getElem?_eq_some_iff.mpr ⟨h.length ▸ hi, rfl⟩⟩
    obtain ⟨rest, hsum, hset⟩ := sum_set_add hg
    obtain ⟨l, c₀, hsees, hreq, hup⟩ := h.upholds i _ g hp hg
    obtain ⟨hfree, hA'⟩ := hA _ (by rw [hev]; rfl)
    obtain ⟨g', hevolves, hI', hk⟩ := hup φ c.2 rest hsees hA' (hsum ▸ h.inv)
    obtain ⟨hexcl, hothers⟩ := exec_of_exclusive (φ := φ) h.exclusive hfree
    refine ⟨gs.set i g', ?_, ?_, ?_, ?_⟩
    · rw [hstep, hset]
      exact hI'
    · rw [hstep, length_set, length_set, h.length]
    · rw [hstep]
      exact hexcl
    · intro j p g₁ hp₁ hg₁
      rw [hstep] at hp₁ ⊢
      by_cases hj : i = j
      · subst hj
        rw [getElem?_set_self (h.length ▸ hi)] at hg₁
        rw [getElem?_set_self hi] at hp₁
        cases hg₁
        cases hp₁
        exact ⟨_, _, ⟨rfl, RowLocks.Held.refl _ _, P.evolves_refl _⟩, hk⟩
      · rw [getElem?_set_ne hj] at hg₁ hp₁
        obtain ⟨l₁, c₁, hsees₁, hup₁⟩ := h.upholds j p g₁ hp₁ hg₁
        obtain ⟨hst, hheld⟩ := hothers j (by rw [hreq]; exact fun hji => hj hji.symm)
        rw [hsees₁.statements] at hst hheld
        exact ⟨l₁, c₁, ⟨hst, hsees₁.held.trans hheld, P.evolves_trans hsees₁.evolves hevolves⟩, hup₁⟩
  · rw [hstep]
    exact ⟨gs, h⟩

/-- The protocol holds over every run that the locks admit. -/
theorem Holds.run {c : Pool (SessionReq S) (SessionReq.Resp T ε) (Sessions S σ) α} {gs : List M}
    {sched : List (Nat × Option ε)} (h : Holds P A Q c gs)
    (hA : Pool.Meets (readCommitted m) (fun i req φ x => P.locks.blocked req x = false ∧ A i req φ x) sched c) :
    ∃ gs', Holds P A Q (Pool.run (readCommitted m) sched c) gs' := by
  induction sched generalizing c gs with
  | nil => exact ⟨gs, h⟩
  | cons iφ sched ih =>
    obtain ⟨hA₁, hA₂⟩ := Pool.meets_cons.mp hA
    obtain ⟨gs', h'⟩ := h.step hA₁
    exact ih h' hA₂

lemma Holds.init {ps : List (Prog (SessionReq S) (SessionReq.Resp T ε) α)} {c : σ} (hI : P.inv c 0)
    (hs : ∀ i p, ps[i]? = some p → P.Upholds (A i) i p (Q i) [] c 0) :
    Holds P A Q (ps, { committed := c }) (ps.map fun _ => 0) where
  inv := by
    rw [sum_map_zero]
    exact hI
  length := by simp
  exclusive := fun _ hv => absurd hv not_mem_nil
  upholds := by
    intro i p g hp hg
    obtain ⟨-, -, rfl⟩ := map_eq_some_iff.mp (getElem?_map ▸ hg)
    exact ⟨[], c, ⟨rfl, fun _ hs => absurd hs not_mem_nil, P.evolves_refl c⟩, hs i p hp⟩

lemma Holds.returned {c : Pool (SessionReq S) (SessionReq.Resp T ε) (Sessions S σ) α} {gs : List M}
    (h : Holds P A Q c gs) {i : Nat} {a : α} (hr : c.1[i]? = some (.ret a)) :
    ∃ g l c₀, gs[i]? = some g ∧ P.evolves c₀ c.2.committed ∧ Q i a l c₀ g := by
  obtain ⟨hi, -⟩ := List.getElem?_eq_some_iff.mp hr
  obtain ⟨g, hg⟩ : ∃ g, gs[i]? = some g :=
    ⟨_, List.getElem?_eq_some_iff.mpr ⟨h.length ▸ hi, rfl⟩⟩
  obtain ⟨l, c₀, hsees, hQ⟩ := h.upholds i _ g hr hg
  exact ⟨g, l, c₀, hg, hsees.evolves, hQ⟩

lemma Holds.eq_zipWith {γ : Type} {ops : List γ} {f : γ → α → M}
    {c : Pool (SessionReq S) (SessionReq.Resp T ε) (Sessions S σ) α} {gs : List M}
    (h : Holds P A (fun i a _ _ g => ∀ op ∈ ops[i]?, g = f op a) c gs) {as : List α}
    (hr : Pool.Returned c as) (hlen : c.1.length = ops.length) : gs = List.zipWith f ops as := by
  refine eq_zipWith_of_getElem? (by rw [← h.length, hr, length_map]) (h.length ▸ hlen) fun i a ha => ?_
  obtain ⟨g, -, -, hg, -, hQ⟩ := h.returned (by rw [hr, getElem?_map, ha]; rfl)
  exact ⟨g, hg, hQ⟩

end

/-! ### One winner -/

section

variable (L : RowLocks m ρ) (c₀ : σ) (Won : σ → Prop)

/-- The committed state changes once: from `c₀` to one in which a session has won. The shares count
the winners. -/
def oneWinner : Protocol m ρ Nat where
  locks := L
  inv c n := (n = 0 ∧ c = c₀) ∨ (n = 1 ∧ Won c)
  evolves c c' := c = c₀ ∨ c' = c
  evolves_refl _ := .inr rfl
  evolves_trans := by
    rintro c c' c'' (rfl | rfl) h
    · exact .inl rfl
    · exact h

variable {L c₀ Won} {i : Nat} {l : List S} {c : σ} {Q : Except ε β → List S → σ → Nat → Prop}

lemma upholds_of_retreats {A : SessionReq S → Option ε → Sessions S σ → Prop} {B : S → Prop} {F : α → Prop}
    {p : Prog S (fun s => Except ε (T s)) α} {Q : α → List S → σ → Nat → Prop} (h₀ : ¬Won c₀)
    (hB : ∀ s, B s → ∀ φ x, A (.stmt i s) φ x → ¬Won x.committed) (hF : ∀ a l c, F a → Q a l c 0)
    (hp : p.Retreats B F) (hc : Won c) : (oneWinner L c₀ Won).Upholds A i (inSession i p) Q l c 0 := by
  induction p generalizing l with
  | ret a => exact hF a l c hp
  | call s k ih =>
    apply upholds_stmt
    intro φ x rest hx hA hI r _
    have hxc : x.committed = c := by
      rcases hx.evolves with rfl | h
      · exact absurd hc h₀
      · exact h
    rcases hp with hs | hk
    · rw [← hxc] at hc
      exact absurd hc (hB s hs φ x hA)
    · rw [hxc]
      exact ih r (hk r)

lemma upholds_of_guarded {A : SessionReq S → Option ε → Sessions S σ → Prop} {B : S → Prop} {F : α → Prop}
    {p : Prog S (fun s => Except ε (T s)) α} {Q : α → List S → σ → Nat → Prop} (hm : m.Transactional)
    (h₀ : ¬Won c₀) (hB : ∀ s, B s → ∀ φ x, A (.stmt i s) φ x → ¬Won x.committed)
    (hF : ∀ a l c, F a → Q a l c 0) (hp : p.Guarded B F)
    (h : p.wp m (fun _ _ _ => True) (fun a y => ∀ l, replay m l c₀ = y → Q a l c₀ 0) (replay m l c₀)) :
    (oneWinner L c₀ Won).Upholds A i (inSession i p) Q l c₀ 0 := by
  induction p generalizing l with
  | ret a => exact h l rfl
  | call s k ih =>
    obtain ⟨hretreats, hk⟩ := hp
    apply upholds_stmt
    intro φ x rest hx hA hI r hr
    rcases hI with ⟨-, hc⟩ | ⟨-, hlate⟩
    · rw [hc] at hr ⊢
      apply ih r (hk r)
      have hstep := h φ trivial
      rw [← hr] at hstep
      cases r with
      | error e =>
        rw [hm.of_error hr.symm] at hstep
        exact hstep
      | ok a =>
        rw [hm.of_ok hr.symm] at hstep
        unfold replay recorded
        rw [foldl_append]
        exact hstep
    · rcases hretreats with hs | hall
      · exact absurd hlate (hB s hs φ x hA)
      · exact upholds_of_retreats h₀ hB hF (hall r) hlate

lemma ends_oneWinner_of_reads {r : Except ε β} (hl : ∀ c, replay m l c = c)
    (herror : ∀ e c', Q (.error e) [] c' 0) (hQ : ∀ b, r = .ok b → ∀ c', c = c₀ ∨ c' = c → Q r [] c' 0) :
    (oneWinner L c₀ Won).Ends i Q r l c 0 := by
  refine ⟨herror, ?_⟩
  rintro b rfl x rest hx hI
  rw [hl]
  exact ⟨0, .inr rfl, hI, hQ b rfl _ hx.evolves⟩

lemma ends_oneWinner_of_won {r : Except ε β}
    (hlocked : ∀ c', Won c' → L.Held l c₀ c' → False) (hwon : Won (replay m l c₀))
    (herror : ∀ e c', Q (.error e) [] c' 0) (hQ : Q r [] (replay m l c₀) 1) :
    (oneWinner L c₀ Won).Ends i Q r l c₀ 0 := by
  refine ⟨herror, ?_⟩
  rintro b rfl x rest hx (⟨hn, hc⟩ | ⟨-, hlate⟩)
  · have hrest : rest = 0 := by omega
    rw [hc, hrest]
    exact ⟨1, .inl rfl, .inr ⟨rfl, hwon⟩, hQ⟩
  · exact (hlocked _ hlate hx.held).elim

end

end Protocol

end LoveApi.Program
