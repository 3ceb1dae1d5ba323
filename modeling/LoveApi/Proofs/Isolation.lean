import LoveApi.Isolation
import LoveApi.Proofs.Database

/-!
# Read-committed isolation

The rules of sessions for the statements of this database: which rows a statement leaves as they are, and how the
session of a process runs a transaction.
-/

namespace LoveApi.Proofs

open Program Protocol Table

variable {s : Stmt} {i : Nat}

def SameRow : Row → DB → DB → Prop
  | .user id, x, y => y.users.row id = x.users.row id
  | .subscription id, x, y => y.subscriptions.row id = x.subscriptions.row id
  | .subscriptions, x, y => y.subscriptions = x.subscriptions
  | .record requestId, x, y => y.preConsumeRecords.row requestId = x.preConsumeRecords.row requestId
  | .topUp tradeNo, x, y => y.topUps.row tradeNo = x.topUps.row tradeNo

section Frame

variable {x : DB}
variable {id : Int}

lemma ne_of_lock {κ : Type} {row : κ → Row} {k j : κ} (h : s.lock ≠ some (row k)) (hj : s.lock = some (row j)) :
    k ≠ j := by
  rintro rfl
  exact h hj

lemma user_step (h : s.lock ≠ some (.user id)) : (s.step x).2.users.row id = x.users.row id := by
  cases s with
  | decreaseUserQuota j =>
    dsimp only [Stmt.step]
    split
    · exact row_update_of_ne _ (ne_of_lock h rfl) _
    · rfl
  | _ => first | rfl | exact row_update_of_ne _ (ne_of_lock h rfl) _ | (dsimp only [Stmt.step]; split <;> rfl)

lemma topUp_step {tradeNo : String} (h : s.lock ≠ some (.topUp tradeNo)) :
    (s.step x).2.topUps.row tradeNo = x.topUps.row tradeNo := by
  cases s with
  | createTopUp t =>
    dsimp only [Stmt.step]
    split
    · rfl
    · next hnone => rw [row_insert _ hnone, if_neg (ne_of_lock h rfl)]
  | _ => first | rfl | exact row_update_of_ne _ (ne_of_lock h rfl) _ | (dsimp only [Stmt.step]; split <;> rfl)

lemma record_step {requestId : String} (h : s.lock ≠ some (.record requestId)) :
    (s.step x).2.preConsumeRecords.row requestId = x.preConsumeRecords.row requestId := by
  cases s with
  | createRecord t =>
    dsimp only [Stmt.step]
    split
    · rfl
    · next hnone => rw [row_insert _ hnone, if_neg (ne_of_lock h rfl)]
  | _ => first | rfl | exact row_update_of_ne _ (ne_of_lock h rfl) _ | (dsimp only [Stmt.step]; split <;> rfl)

lemma subscription_step (h : s.lock ≠ some (.subscription id)) (h' : s.lock ≠ some .subscriptions) :
    (s.step x).2.subscriptions.row id = x.subscriptions.row id := by
  cases s with
  | deleteSubscription j => exact if_neg (ne_of_lock h rfl)
  | _ =>
    first
    | rfl | exact row_update_of_ne _ (ne_of_lock h rfl) _ | exact absurd rfl h'
    | (dsimp only [Stmt.step]; split <;> rfl)

lemma subscriptions_step (h : ∀ id, s.lock ≠ some (.subscription id)) (h' : s.lock ≠ some .subscriptions) :
    (s.step x).2.subscriptions = x.subscriptions := by
  cases s <;> first
    | rfl | exact absurd rfl (h _) | exact absurd rfl h' | (dsimp only [Stmt.step]; split <;> rfl)

end Frame

lemma overlaps_comm (r r' : Row) : r.overlaps r' = r'.overlaps r := by
  cases r <;> cases r' <;> simp [Row.overlaps, eq_comm]

def rowLocks : RowLocks database Row where
  lock := Stmt.lock
  overlaps := Row.overlaps
  overlaps_comm := overlaps_comm
  same := SameRow
  same_refl r x := by cases r <;> rfl
  same_trans := by
    intro r x y z h h'
    cases r <;> exact h'.trans h
  frame := by
    intro s r h x
    have hne : ∀ r', r'.overlaps r = true → s.lock ≠ some r' := by
      intro r' hov hlock
      rw [h r' hlock] at hov
      cases hov
    cases r with
    | user id => exact user_step (hne _ (decide_eq_true rfl))
    | subscription id => exact subscription_step (hne _ (decide_eq_true rfl)) (hne _ rfl)
    | subscriptions => exact subscriptions_step (fun id => hne _ rfl) (hne _ rfl)
    | record requestId => exact record_step (hne _ (decide_eq_true rfl))
    | topUp tradeNo => exact topUp_step (hne _ (decide_eq_true rfl))

lemma database_transactional : database.Transactional where
  of_error := by
    intro φ s x e h
    rcases database_exec s x φ with hx | ⟨e', hx⟩
    · rw [hx] at h ⊢
      exact step_error (Prod.ext h rfl)
    · rw [hx]
  of_ok := by
    intro φ s x a h
    rcases database_exec s x φ with hx | ⟨e', hx⟩
    · rw [hx]
      rfl
    · rw [hx] at h
      cases h

section Transactions

variable {α β M : Type} [AddCommMonoid M] {P : Protocol database Row M}
  {A : SessionReq Stmt → Option String → Sessions Stmt DB → Prop} {l : List Stmt} {c : DB} {g : M}
variable {Q : Except String β → List Stmt → DB → M → Prop}

lemma isolated_bind (p : Prog Req Req.Resp α) (f : α → Prog Req Req.Resp β) :
    isolated i (p >>= f) = isolated i p >>= fun a => isolated i (f a) := by
  induction p with
  | ret a => rfl
  | call req k ih =>
    cases req with
    | stmt s =>
      show inTransaction i (query s) >>= (fun r => isolated i (k r >>= f)) = _
      simp only [ih]
      exact (Prog.bind_assoc _ _ _).symm
    | tx body =>
      show inTransaction i body >>= (fun r => isolated i (k r >>= f)) = _
      simp only [ih]
      exact (Prog.bind_assoc _ _ _).symm

lemma upholds_query {Q : Except String s.Res → List Stmt → DB → M → Prop}
    (herror : ∀ φ x rest, P.Sees i l c x → A (.stmt i s) φ x → P.inv x.committed (g + rest) →
      ∀ e, Q (.error e) l x.committed g)
    (hok : ∀ φ x rest, P.Sees i l c x → A (.stmt i s) φ x → P.inv x.committed (g + rest) →
      ∀ a, (s.step (replay database l x.committed)).1 = .ok a → Q (.ok a) (l ++ [s]) x.committed g) :
    P.Upholds A i (inSession i (query s).run) Q l c g := by
  apply upholds_stmt
  intro φ x rest hx hA hI r hr
  cases r with
  | error e => exact herror φ x rest hx hA hI e
  | ok a =>
    apply hok φ x rest hx hA hI
    rcases database_exec s (replay database l x.committed) φ with hs | ⟨e, hs⟩ <;> rw [hs] at hr
    · exact hr.symm
    · cases hr

lemma upholds_query_bind {f : s.Res → Query β} (herror : ∀ e l c, Q (.error e) l c g)
    (hok : ∀ φ x rest, P.Sees i l c x → A (.stmt i s) φ x → P.inv x.committed (g + rest) →
      ∀ a, (s.step (replay database l x.committed)).1 = .ok a →
        P.Upholds A i (inSession i (f a).run) Q (l ++ [s]) x.committed g) :
    P.Upholds A i (inSession i (query s >>= f).run) Q l c g := by
  apply upholds_bind_run
  apply upholds_query
  · intro φ x rest hx hA hI e
    refine ⟨fun e' _ => herror e' _ _, ?_⟩
    rintro a ⟨⟩
  · intro φ x rest hx hA hI a ha
    constructor
    · rintro e ⟨⟩
    · rintro _ ⟨⟩
      exact hok φ x rest hx hA hI a ha

lemma ends_error (h : ∀ e c', Q (.error e) [] c' g)
    (e : String) (l : List Stmt) (c : DB) : P.Ends i Q (.error e) l c g := by
  refine ⟨h, ?_⟩
  rintro b ⟨⟩

lemma upholds_transaction {body : Query β}
    (h : ∀ c', P.evolves c c' → P.Upholds A i (inSession i body.run) (P.Ends i Q) [.begin] c' g)
    (herror : ∀ e c', Q (.error e) [] c' g) :
    P.Upholds A i (isolated i (transaction body).run) Q [] c g := by
  have hbody : P.Upholds A i (inTransaction i (do query .begin; body)) Q [] c g := by
    apply upholds_inTransaction
    apply upholds_query_bind (ends_error herror)
    intro _ _ _ hx _ _ _ _
    exact h _ hx.evolves
  exact Upholds.bind hbody

end Transactions

/-! ### Interleavings -/

section

variable {γ α : Type} {f : γ → Action α} {calls : List γ} {db : DB}

def callers (f : γ → Action α) (calls : List γ) (db : DB) :
    Pool (SessionReq Stmt) (SessionReq.Resp Stmt.Res String) (Sessions Stmt DB) (Except String α) :=
  processes (calls.map fun c => (f c).run) db

/-- A schedule that the row locks admit, with `A` at each step. -/
def Interleaving (A : Nat → SessionReq Stmt → Sessions Stmt DB → Prop) (sched : List (Nat × Option String))
    (c : Pool (SessionReq Stmt) (SessionReq.Resp Stmt.Res String) (Sessions Stmt DB) α) : Prop :=
  Pool.Meets sessions (fun i req _ x => rowLocks.blocked req x = false ∧ A i req x) sched c

lemma interleaving_of_all {A : Nat → SessionReq Stmt → Sessions Stmt DB → Prop}
    [∀ i req x, Decidable (A i req x)] {sched : List (Nat × Option String)}
    {c : Pool (SessionReq Stmt) (SessionReq.Resp Stmt.Res String) (Sessions Stmt DB) α}
    (h : (Pool.trace sessions sched c).all (fun e =>
      !rowLocks.blocked e.request e.pre && decide (A e.thread e.request e.pre)) = true) : Interleaving A sched c := by
  intro e he
  obtain ⟨hfree, hA⟩ := (Bool.and_eq_true _ _).mp (List.all_eq_true.mp h e he)
  exact ⟨by simpa using hfree, of_decide_eq_true hA⟩

lemma getElem?_callers (db : DB) {p : Prog (SessionReq Stmt) (SessionReq.Resp Stmt.Res String) (Except String α)}
    (h : (callers f calls db).1[i]? = some p) : ∃ call, calls[i]? = some call ∧ p = isolated i (f call).run := by
  unfold callers processes at h
  rw [List.getElem?_mapIdx, List.getElem?_map, Option.map_map] at h
  obtain ⟨call, hcall, rfl⟩ := Option.map_eq_some_iff.mp h
  exact ⟨call, hcall, rfl⟩

end

end LoveApi.Proofs
