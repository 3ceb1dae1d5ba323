import LoveApi.Billing
import LoveApi.Proofs.Subscription

/-!
# Refunds of a pre-consume

A refund gives the amount back in a transaction of its own. As long as the outer transaction commits whenever the inner
one has, any number of refunds and retries gives the amount back once.
-/

namespace LoveApi.Proofs

open Program Prog Go

variable {A : Req → List (Option String) → DB → Prop}

/-- A refund of a request: the call itself, or the refund of a funding source, which retries it. -/
inductive RefundCall
  | refund
  | fundingRefund (s : SubscriptionFunding)

def RefundCall.run (requestId : String) : RefundCall → Action Unit
  | refund => refundSubscriptionPreConsume requestId
  | fundingRefund s => SubscriptionFunding.refund { s with requestId := requestId }

/-- The database after the refunds. -/
def afterRefunds (requestId : String) (calls : List (RefundCall × Faults)) (db : DB) : DB :=
  evalSeq server [] (calls.map fun c => ((c.1.run requestId).run, c.2)) db

/-- The save of a record and the commit that goes with it do not fail. -/
def RecordSavesSucceed : Req → List (Option String) → DB → Prop
  | .stmt (.saveRecord ..), φs, _ => φs.headD none = none
  | _, _, _ => True

structure RefundedAtMostOnce (requestId : String) (record : SubscriptionPreConsumeRecord)
    (sub : Option UserSubscription) (db : DB) : Prop where
  recorded : ∃ status, db.preConsumeRecords.row requestId = some { record with status := status }
  reduced : db.subscriptions.row record.userSubscriptionId = sub ∨
    db.subscriptions.row record.userSubscriptionId = sub.map (·.adjust (-record.preConsumed)) ∧
      db.preConsumeRecords.row requestId = some { record with status := .refunded }

section Refund

variable {requestId : String} {record : SubscriptionPreConsumeRecord} {sub : Option UserSubscription} {db : DB}

attribute [local irreducible] trimSpace

lemma RefundedAtMostOnce.saveRecord (h : RefundedAtMostOnce requestId record sub db) {y : DB}
    (hy : y.subscriptions.row record.userSubscriptionId = sub ∨
      y.subscriptions.row record.userSubscriptionId = sub.map (·.adjust (-record.preConsumed)))
    (hr : y.preConsumeRecords = db.preConsumeRecords.update requestId fun _ => { record with status := .refunded }) :
    RefundedAtMostOnce requestId record sub y := by
  have hrow : y.preConsumeRecords.row requestId = some { record with status := .refunded } := by
    obtain ⟨status, hst⟩ := h.recorded
    rw [hr, Table.row_update_self, hst]
    rfl
  constructor
  · exact ⟨_, hrow⟩
  · rcases hy with hy | hy
    · exact .inl hy
    · exact .inr ⟨hy, hrow⟩

def markRefunded (db : DB) (requestId : String) (record : SubscriptionPreConsumeRecord) : DB :=
  { db with preConsumeRecords := db.preConsumeRecords.update requestId fun _ => { record with status := .refunded } }

lemma wpE_refund {Q : Unit → DB → Prop} {E : String → DB → Prop} (hE : ∀ e, E e db)
    (hdone : ∀ record, db.preConsumeRecords.row requestId = some record → record.status = .refunded → Q () db)
    (hfree : ∀ record, db.preConsumeRecords.row requestId = some record → record.status ≠ .refunded →
      record.preConsumed ≤ 0 → Q () (markRefunded db requestId record))
    (hback : ∀ record sub, db.preConsumeRecords.row requestId = some record → record.status ≠ .refunded →
      0 < record.preConsumed → db.subscriptions.row record.userSubscriptionId = some sub →
      ¬Exceeds sub (-record.preConsumed) → ∀ y,
      y = db.setSubscription record.userSubscriptionId (sub.adjust (-record.preConsumed)) →
      Q () (markRefunded y requestId record) ∧
      ((∃ φs, A (.stmt (.saveRecord requestId { record with status := .refunded })) φs y ∧ φs.headD none ≠ none) →
        ∀ e, E e y)) :
    wpE server A (refundSubscriptionPreConsume requestId) Q E db := by
  unfold refundSubscriptionPreConsume
  by_cases hblank : trimSpace requestId = ""
  · rw [if_pos hblank]
    exact hE _
  rw [if_neg hblank, wpE_bind]
  refine wpE_exec_ok rfl ?_ hE
  rw [wpE_bind]
  apply wpE_exec _ hE
  intro record y hs
  obtain ⟨hrec, rfl⟩ := Prod.mk.inj hs
  have hrec := first_eq_ok hrec
  by_cases hstatus : record.status = .refunded
  · rw [if_pos hstatus]
    refine wpE_exec_ok rfl ?_ hE
    exact hdone record hrec hstatus
  rw [if_neg hstatus]
  by_cases hpos : record.preConsumed ≤ 0
  · rw [if_pos hpos]
    refine wpE_exec_ok rfl ?_ hE
    exact hfree record hrec hstatus hpos
  rw [if_neg hpos, wpE_bind]
  apply wpE_postConsumeUserSubscriptionDelta _ _ hE
  · intro (h₀ : -record.preConsumed = 0)
    omega
  · intro _ sub hrow hx
    obtain ⟨hsaved, hunsaved⟩ := hback record sub hrec hstatus (not_le.mp hpos) hrow hx _ rfl
    rw [note_none]
    intro φs hφ
    by_cases hfault : φs.headD none = none
    · rw [server_exec_ok hfault]
      exact hsaved
    · obtain ⟨e, he⟩ := server_exec_fault (.saveRecord requestId { record with status := .refunded })
        (db.setSubscription record.userSubscriptionId (sub.adjust (-record.preConsumed))) rfl hfault
      rw [he]
      exact hunsaved ⟨φs, hφ, hfault⟩ e

lemma wpE_refund_once (h : RefundedAtMostOnce requestId record sub db) :
    wpE server RecordSavesSucceed (refundSubscriptionPreConsume requestId)
      (fun _ y => RefundedAtMostOnce requestId record sub y)
      (fun _ y => RefundedAtMostOnce requestId record sub y) db := by
  obtain ⟨status, hst⟩ := h.recorded
  -- where the record is open, the subscription is as it was
  have hopen : status ≠ .refunded → db.subscriptions.row record.userSubscriptionId = sub := by
    intro hne
    rcases h.reduced with hsub | ⟨-, hr⟩
    · exact hsub
    · rw [hst] at hr
      cases Option.some.inj hr
      exact absurd rfl hne
  apply wpE_refund (fun _ => h)
  · intro _ _ _
    exact h
  · intro found hfound hne _
    obtain rfl := Option.some.inj (hst.symm.trans hfound)
    exact h.saveRecord (.inl (hopen hne)) rfl
  · rintro found s hfound hne - hrow - y rfl
    obtain rfl := Option.some.inj (hst.symm.trans hfound)
    constructor
    · apply h.saveRecord (.inr _) rfl
      show (db.subscriptions.update _ _).row _ = _
      rw [Table.row_update_self, hrow, ← hopen hne, hrow]
      rfl
    · rintro ⟨φs, hsaves, hfault⟩
      exact absurd hsaves hfault

lemma wpE_retry {fn : Action Unit} {J : DB → Prop}
    (hfn : ∀ x, J x → wpE server A fn (fun _ y => J y) (fun _ y => J y) x) {n : Nat} (h : J db) :
    wpE server A (retry n fn) (fun _ y => J y) (fun _ y => J y) db := by
  induction n generalizing db with
  | zero => exact hfn db h
  | succ n ih =>
    unfold retry
    rw [wpE_bind, wpE_attempt]
    apply wpE_mono (hfn db h)
    · intro _ y hy
      exact hy
    · intro _ y hy
      exact ih hy

attribute [local irreducible] refundSubscriptionPreConsume

lemma wpE_refundCall {c : RefundCall} (h : RefundedAtMostOnce requestId record sub db) :
    wpE server RecordSavesSucceed (c.run requestId) (fun _ y => RefundedAtMostOnce requestId record sub y)
      (fun _ y => RefundedAtMostOnce requestId record sub y) db := by
  cases c with
  | refund => exact wpE_refund_once h
  | fundingRefund s =>
    simp only [RefundCall.run, SubscriptionFunding.refund, refundWithRetry]
    split
    · exact h
    · apply wpE_retry (J := RefundedAtMostOnce requestId record sub) _ h
      intro x hx
      exact wpE_refund_once hx

end Refund

/-- However often a request is refunded, with any failures other than that of the save of its
record, its subscription is given back the recorded amount at most once. -/
theorem subscription_refunded_at_most_once {requestId : String} {record : SubscriptionPreConsumeRecord}
    {db : DB} (hrec : db.preConsumeRecords.row requestId = some record)
    (calls : List (RefundCall × Faults))
    (hA : MeetsSeq server [] RecordSavesSucceed (calls.map fun c => ((c.1.run requestId).run, c.2)) db) :
    (afterRefunds requestId calls db).subscriptions.row record.userSubscriptionId =
        db.subscriptions.row record.userSubscriptionId ∨
      (afterRefunds requestId calls db).subscriptions.row record.userSubscriptionId =
        (db.subscriptions.row record.userSubscriptionId).map (·.adjust (-record.preConsumed)) := by
  have h₀ : RefundedAtMostOnce requestId record (db.subscriptions.row record.userSubscriptionId) db :=
    ⟨⟨record.status, hrec⟩, .inl rfl⟩
  have hrun : RefundedAtMostOnce requestId record (db.subscriptions.row record.userSubscriptionId)
      (afterRefunds requestId calls db) := by
    apply evalSeq_induction (J := RefundedAtMostOnce requestId record _) _ hA h₀
    intro c hc x hx
    obtain ⟨call, -, rfl⟩ := List.mem_map.mp hc
    exact wp_of_wpE (wpE_refundCall hx)
  rcases hrun.reduced with hsub | ⟨hsub, -⟩
  · exact .inl hsub
  · exact .inr hsub

/-- A subscription of which 30 are used, 10 of them by the request. -/
def refundableRequest : DB where
  subscriptions := Table.empty.insert 1
    ⟨1, 1, 100, 30, Int.natCast_nonneg _, 0, 1000, .active, .order, none, none, "", ""⟩
  preConsumeRecords := Table.empty.insert "req" ⟨1, 1, 10, .consumed⟩

/-- A refund whose inner transaction fails, then two that succeed. -/
def repeatedRefunds : List (RefundCall × Faults) :=
  [(.refund, [[], [], [some "deadlock"]]), (.refund, []), (.refund, [])]

theorem subscription_refunded_at_most_once_repeated :
    ((afterRefunds "req" repeatedRefunds refundableRequest).subscriptions.row 1 =
        refundableRequest.subscriptions.row 1 ∨
      (afterRefunds "req" repeatedRefunds refundableRequest).subscriptions.row 1 =
        (refundableRequest.subscriptions.row 1).map (·.adjust (-10))) ∧
    ((afterRefunds "req" repeatedRefunds refundableRequest).subscriptions.row 1).map
      UserSubscription.amountUsed = some 20 := by
  have hA : MeetsSeq server [] RecordSavesSucceed
      (repeatedRefunds.map fun c => ((c.1.run "req").run, c.2)) refundableRequest :=
    ⟨⟨trivial, trivial, trivial, trivial⟩, ⟨trivial, trivial, trivial, rfl, trivial⟩,
      ⟨trivial, trivial, trivial, trivial⟩, trivial⟩
  exact ⟨@subscription_refunded_at_most_once "req" _ refundableRequest rfl repeatedRefunds hA, rfl⟩

/-- A refund whose record is not saved is retried and refunds again. -/
theorem subscription_refunded_twice : refundableRequest.preConsumeRecords.row "req" = some ⟨1, 1, 10, .consumed⟩ ∧
    (refundableRequest.subscriptions.row 1).map UserSubscription.amountUsed = some 30 ∧
    ((afterRefunds "req" [(.fundingRefund { requestId := "req", userId := 1, amount := 10, preConsumed := 10 },
      [[], [], [], [some "connection lost"]])] refundableRequest).subscriptions.row 1).map
        UserSubscription.amountUsed = some 10 := ⟨rfl, rfl, rfl⟩

end LoveApi.Proofs
