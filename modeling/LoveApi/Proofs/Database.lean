import LoveApi.Database
import LoveApi.Program.Pool

/-!
# Rules for statements and transactions

A statement or a transaction that fails leaves the database as it was, so each rule asks for the error case in the state
before.
-/

namespace LoveApi.Proofs

open Program Prog

variable {s : Stmt} {db : DB} {φs : List (Option String)} {K : DB → Prop}

variable {db' : DB} {E : String → DB → Prop}

variable {β : Type}
variable {A : Stmt → Option String → DB → Prop} {Q : s.Res → DB → Prop} {body : Query β}

@[simp] lemma database_exec_none : database.exec none s db = s.step db := rfl

lemma first_eq_ok {α : Type} {o : Option α} {a : α} (h : first o = .ok a) : o = some a := by
  cases o with
  | none => cases h
  | some b => rw [Except.ok.inj h]

lemma database_exec (s : Stmt) (db : DB) (φ : Option String) :
    database.exec φ s db = s.step db ∨ ∃ e, database.exec φ s db = (.error e, db) := by
  cases φ with
  | none => exact .inl rfl
  | some e =>
    by_cases h : s.inMemory
    · exact .inl (if_pos h)
    · exact .inr ⟨e, if_neg h⟩

lemma step_error {e : String} (h : s.step db = (.error e, db')) : db' = db := by
  cases s <;> simp only [Stmt.step, Prod.mk.injEq, reduceCtorEq, false_and] at h
  all_goals first
    | exact h.2.symm
    | (split at h <;> simp_all)

lemma wpE_query (hQ : ∀ r db', s.step db = (.ok r, db') → Q r db')
    (hE : ∀ e, E e db) : wpE database A (query s) Q E db := by
  intro φ _
  rcases database_exec s db φ with h | ⟨e, h⟩
  · rcases hs : s.step db with ⟨r | r, db'⟩ <;> rw [h, hs]
    · exact step_error hs ▸ hE r
    · exact hQ r db' hs
  · rw [h]
    exact hE e

lemma wpE_query_first {o : Option s.Res} (hs : s.step db = (first o, db)) (hQ : ∀ r, o = some r → Q r db)
    (hE : ∀ e, E e db) : wpE database A (query s) Q E db := by
  refine wpE_query (fun r y h => ?_) hE
  obtain ⟨hr, rfl⟩ := Prod.mk.inj (hs.symm.trans h)
  exact hQ r (first_eq_ok hr)

@[grind ←] lemma issues_query {P : Stmt → Prop} (h : P s) : (query s).run.Issues P := ⟨h, fun _ => trivial⟩

@[grind ←] lemma issues_exec {P : Req → Prop} (h : P (.stmt s)) : (exec s).run.Issues P := ⟨h, fun _ => trivial⟩

lemma issues_transaction {P : Req → Prop} (h : P (.tx (do query .begin; body))) : (transaction body).run.Issues P :=
  ⟨h, fun _ => trivial⟩

def noFault : Stmt → Option String → DB → Prop := fun _ φ _ => φ = none

lemma wpE_query_noFault (hQ : ∀ r db', s.step db = (.ok r, db') → Q r db')
    (hE : ∀ e, s.step db = (.error e, db) → E e db) :
    wpE database noFault (query s) Q E db := by
  rintro φ rfl
  rw [database_exec_none]
  rcases hs : s.step db with ⟨r | r, db'⟩
  · obtain rfl := step_error hs
    exact hE r hs
  · exact hQ r db' hs

lemma not_mayFault_noFault : ¬MayFault none noFault := by
  rintro ⟨s, φ, x, hφ, hne⟩
  exact hne hφ

lemma wpE_query_of_mayFault (hQ : ∀ r db', s.step db = (.ok r, db') → Q r db')
    (hE : ∀ e, s.step db = (.error e, db) → E e db) (hF : MayFault none A → ∀ e, E e db) :
    wpE database A (query s) Q E db := by
  by_cases h : MayFault none A
  · exact wpE_query hQ (hF h)
  · intro φ hφ
    have hnone : φ = none := by
      by_contra hne
      exact h ⟨s, φ, db, hφ, hne⟩
    exact wpE_query_noFault hQ hE φ hnone

lemma wpE_query_total {r : s.Res} (hs : s.step db = (.ok r, db')) (hQ : Q r db')
    (hF : MayFault none A → ∀ e, E e db) : wpE database A (query s) Q E db := by
  refine wpE_query_of_mayFault (fun r y h => ?_) (fun e h => ?_) hF
  · cases hs.symm.trans h
    exact hQ
  · cases hs.symm.trans h

lemma wpE_query_ok {r : s.Res} (hs : s.step db = (.ok r, db')) (hQ : Q r db') (hE : ∀ e, E e db) :
    wpE database A (query s) Q E db :=
  wpE_query_total hs hQ fun _ => hE

lemma wpE_query_step {r : s.Res} (hs : s.step db = (.ok r, db')) (hQ : Q r db') :
    wpE database noFault (query s) Q E db :=
  wpE_query_total hs hQ fun h => absurd h not_mayFault_noFault

def noFaults : Req → List (Option String) → DB → Prop := fun _ φs _ => φs = []

lemma server_exec_tx_of_meets {Q : β → DB → Prop} {E : String → Prop}
    (hmeets : (do query .begin; body : Query β).committed.run.Meets database none A φs db)
    (h : wpE database A body Q (fun e _ => E e) db) (hF : MayFault none A → ∀ e, E e) :
    (∃ b db', server.exec φs (.tx (do query .begin; body)) db = (.ok b, db') ∧ Q b db') ∨
      ∃ e, server.exec φs (.tx (do query .begin; body)) db = (.error e, db) ∧ E e := by
  have hb : wpE database A (do query .begin; body) Q (fun e _ => E e) db := by
    rw [wpE_bind]
    exact wpE_query_total rfl h hF
  have hc : wpE database A (do query .begin; body : Query β).committed Q (fun e _ => E e) db := by
    unfold Query.committed
    rw [wpE_bind]
    refine wpE_mono hb (fun b db' hb => ?_) fun _ _ he => he
    rw [wpE_bind]
    exact wpE_query_total rfl hb hF
  have hQ := eval_of_wp hc hmeets
  rcases hr : (do query .begin; body : Query β).committed.run.eval database none φs db with ⟨e | b, db'⟩ <;>
    rw [hr] at hQ
  · exact .inr ⟨e, by simp only [server, hr], hQ⟩
  · exact .inl ⟨b, db', by simp only [server, hr], hQ⟩

lemma server_exec_tx {Q : β → DB → Prop} (h : wpE database (fun _ _ _ => True) body Q (fun _ _ => True) db) :
    (∃ b db', server.exec φs (.tx (do query .begin; body)) db = (.ok b, db') ∧ Q b db') ∨
      ∃ e, server.exec φs (.tx (do query .begin; body)) db = (.error e, db) := by
  simpa using server_exec_tx_of_meets (meets_of_forall (fun _ _ _ => trivial) φs db) h fun _ _ => trivial

lemma server_exec_tx_nil {Q : β → DB → Prop} {E : String → Prop}
    (h : wpE database noFault body Q (fun e _ => E e) db) :
    (∃ b db', server.exec [] (.tx (do query .begin; body)) db = (.ok b, db') ∧ Q b db') ∨
      ∃ e, server.exec [] (.tx (do query .begin; body)) db = (.error e, db) ∧ E e :=
  server_exec_tx_of_meets (meets_nil (fun _ _ => rfl) _) h fun hA => absurd hA not_mayFault_noFault

/-- The faults of each request, in order. -/
abbrev Faults := List (List (Option String))

section Server

variable {A : Req → List (Option String) → DB → Prop}
variable {Q : s.Res → DB → Prop} {r : s.Res} {body : Query β}

lemma server_exec_stmt :
    server.exec φs (.stmt s) db = s.step db ∨ ∃ e, server.exec φs (.stmt s) db = (.error e, db) :=
  database_exec s db _

lemma wpE_exec (hQ : ∀ r db', s.step db = (.ok r, db') → Q r db')
    (hE : ∀ e, E e db) : wpE server A (exec s) Q E db := by
  intro φs _
  exact wpE_query (A := fun _ _ _ => True) hQ hE (φs.headD none) trivial

lemma wpE_exec_ok {r : s.Res} (hs : s.step db = (.ok r, db')) (hQ : Q r db') (hE : ∀ e, E e db) :
    wpE server A (exec s) Q E db := by
  intro φs _
  exact wpE_query_ok (A := fun _ _ _ => True) hs hQ hE (φs.headD none) trivial

lemma wpE_exec_of_step (hA : ∀ φs, A (.stmt s) φs db → server.exec φs (.stmt s) db = s.step db)
    (hQ : ∀ r db', s.step db = (.ok r, db') → Q r db')
    (hE : ∀ e, s.step db = (.error e, db) → E e db) :
    wpE server A (exec s) Q E db := by
  intro φs hφ
  rcases hs : s.step db with ⟨r | r, db'⟩ <;> rw [hA φs hφ, hs]
  · obtain rfl := step_error hs
    exact hE r hs
  · exact hQ r db' hs

lemma server_exec_ok (h : φs.headD none = none) : server.exec φs (.stmt s) db = s.step db := by
  simp only [server, h, database_exec_none]

lemma server_exec_fault (s : Stmt) (db : DB) (hs : s.inMemory = false)
    (h : φs.headD none ≠ none) : ∃ e, server.exec φs (.stmt s) db = (.error e, db) := by
  obtain ⟨e, he⟩ := Option.ne_none_iff_exists'.mp h
  exact ⟨e, by simp only [server, he, database, hs, Bool.false_eq_true, if_false]⟩

lemma server_exec_keeps (h : K db) (hs : K (s.step db).2) (φs : List (Option String)) :
    K (server.exec φs (.stmt s) db).2 := by
  rcases server_exec_stmt with hx | ⟨e, hx⟩ <;> rw [hx]
  · exact hs
  · exact h

lemma server_exec_read (hs : ∀ x, (s.step x).2 = x) (φs : List (Option String)) :
    (server.exec φs (.stmt s) db).2 = db :=
  server_exec_keeps (K := (· = db)) rfl (hs db) φs

lemma server_exec_nil : server.exec [] (.stmt s) db = s.step db := rfl

lemma server_exec_inMemory (h : s.inMemory = true) (φs : List (Option String)) :
    server.exec φs (.stmt s) db = s.step db := by
  cases hφ : φs.headD none with
  | none => simp only [server, hφ, database_exec_none]
  | some e => simp only [server, hφ, database, h, if_true]

lemma wpE_exec_step_of_nil (hA : ∀ φs, A (.stmt s) φs db → φs = [])
    (hs : s.step db = (.ok r, db')) (hQ : Q r db') : wpE server A (exec s) Q E db := by
  intro φs hφ
  rw [hA φs hφ, server_exec_nil, hs]
  exact hQ

lemma wpE_exec_step (hs : s.step db = (.ok r, db')) (hQ : Q r db') : wpE server noFaults (exec s) Q E db :=
  wpE_exec_step_of_nil (fun _ h => h) hs hQ

lemma wpE_transaction {Q : β → DB → Prop} (h : wpE database (fun _ _ _ => True) body Q (fun _ _ => True) db)
    (hE : ∀ e, E e db) : wpE server A (transaction body) Q E db := by
  intro φs _
  rcases server_exec_tx h with ⟨b, db', hx, hQ⟩ | ⟨e, hx⟩ <;> rw [hx]
  · exact hQ
  · exact hE e

lemma exec_transaction (h₀ : K db) (h : wpE database (fun _ _ _ => True) body (fun _ y => K y) (fun _ _ => True) db)
    (φs : List (Option String)) : K (server.exec φs (.tx (do query .begin; body)) db).2 := by
  rcases server_exec_tx h with ⟨b, y, hx, hK⟩ | ⟨e, hx⟩ <;> rw [hx]
  · exact hK
  · exact h₀

lemma wpE_transaction_of_nil {Q : β → DB → Prop} (hA : ∀ φs, A (.tx (do query .begin; body)) φs db → φs = [])
    (h : wpE database noFault body Q (fun e _ => E e db) db) :
    wpE server A (transaction body) Q E db := by
  intro φs hφ
  obtain rfl := hA φs hφ
  rcases server_exec_tx_nil h with ⟨b, db', hx, hQ⟩ | ⟨e, hx, hE⟩ <;> rw [hx]
  · exact hQ
  · exact hE

lemma not_mayFault_noFaults : ¬MayFault [] noFaults := by
  rintro ⟨s, φs, x, hφ, hne⟩
  exact hne hφ

lemma wpE_exec_of_mayFault (hQ : ∀ r db', s.step db = (.ok r, db') → Q r db')
    (hE : ∀ e, s.step db = (.error e, db) → E e db) (hF : MayFault [] A → ∀ e, E e db) :
    wpE server A (exec s) Q E db := by
  by_cases h : MayFault [] A
  · exact wpE_exec hQ (hF h)
  · apply wpE_exec_of_step _ hQ hE
    intro φs hφ
    have hnil : φs = [] := by
      by_contra hne
      exact h ⟨_, φs, db, hφ, hne⟩
    rw [hnil, server_exec_nil]

lemma wpE_transaction_of_mayFault {Q : β → DB → Prop} (h : ∀ B, (MayFault none B → MayFault [] A) →
      wpE database B body Q (fun e _ => E e db) db)
    (hF : MayFault [] A → ∀ e, E e db) : wpE server A (transaction body) Q E db := by
  by_cases hA : MayFault [] A
  · apply wpE_transaction _ (hF hA)
    exact wpE_mono (h _ fun _ => hA) (fun _ _ hq => hq) fun _ _ _ => trivial
  · apply wpE_transaction_of_nil _ (h noFault fun hB => absurd hB not_mayFault_noFault)
    intro φs hφ
    by_contra hne
    exact hA ⟨_, φs, db, hφ, hne⟩

end Server

section Threads

variable {M : Type} [AddCommMonoid M] {A : Req → List (Option String) → DB → Prop}
  {I : DB → M → Prop} {G : M → Req → DB → DB → M → Prop} {g : M}
variable {Q : Except String s.Res → M → Prop}

variable (h : ∀ φs x rest, A (.stmt s) φs x → I x (g + rest) → ∃ g',
  G g (.stmt s) x (s.step x).2 g' ∧ I (s.step x).2 (g' + rest) ∧ Q (s.step x).1 g')

include h

lemma safe_exec_of_fault (hG : ∀ x, G g (.stmt s) x x g)
    (hE : ∀ φs x e, A (.stmt s) φs x → φs ≠ [] → Q (.error e) g) :
    Safe server A I G (exec s).run Q g := by
  refine Safe.request fun φs x rest hA hI => ?_
  by_cases hφ : φs = []
  · rw [hφ] at hA ⊢
    exact h [] x rest hA hI
  · rcases server_exec_stmt with hx | ⟨e, hx⟩ <;> rw [hx]
    · exact h φs x rest hA hI
    · exact ⟨g, hG x, hI, hE φs x e hA hφ⟩

lemma safe_exec (hG : ∀ x, G g (.stmt s) x x g) (hE : ∀ e, Q (.error e) g) : Safe server A I G (exec s).run Q g :=
  safe_exec_of_fault h hG fun _ _ e _ _ => hE e

omit h

lemma safe_read (hs : ∀ x, (s.step x).2 = x)
    (hG : ∀ x, G g (.stmt s) x x g) (hQ : ∀ x rest, I x (g + rest) → Q (s.step x).1 g)
    (hE : ∀ e, Q (.error e) g) : Safe server A I G (exec s).run Q g := by
  refine safe_exec (fun φs x rest _ hI => ⟨g, ?_, ?_, hQ x rest hI⟩) hG hE
  · rw [hs x]
    exact hG x
  · rw [hs x]
    exact hI

lemma safe_transaction {body : Query β} {Q : Except String β → M → Prop}
    (h : ∀ φs x rest, A (.tx (do query .begin; body)) φs x → I x (g + rest) →
      wpE database (fun _ _ _ => True) body (fun b y =>
        ∃ g', G g (.tx (do query .begin; body)) x y g' ∧ I y (g' + rest) ∧ Q (.ok b) g')
        (fun _ _ => True) x)
    (hG : ∀ x, G g (.tx (do query .begin; body)) x x g)
    (hE : ∀ φs x e, A (.tx (do query .begin; body)) φs x →
      server.exec φs (.tx (do query .begin; body)) x = (.error e, x) → Q (.error e) g) :
    Safe server A I G (transaction body).run Q g := by
  refine Safe.request fun φs x rest hA hI => ?_
  rcases server_exec_tx (h φs x rest hA hI) with ⟨b, y, hx, hQ⟩ | ⟨e, hx⟩ <;> rw [hx]
  · exact hQ
  · exact ⟨g, hG x, hI, hE φs x e hA hx⟩

end Threads

end LoveApi.Proofs
