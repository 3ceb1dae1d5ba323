import LoveApi.Proofs.Isolation
import LoveApi.Proofs.Subscription

/-!
# Pre-consuming under one request id

Several processes pre-consume under the same request id, and the unique record lets at most one of them succeed.
-/

namespace LoveApi.Proofs

open Program Protocol Prog

/-- A pre-consume of a request. -/
structure PreCall where
  env : Env
  userId : Int
  amount : Int

def PreCall.run (cfg : Config) (requestId : String) (call : PreCall) : Action SubscriptionPreConsumeResult :=
  preConsumeUserSubscription cfg call.env requestId call.userId call.amount

def ofCharge : Stmt → Bool
  | .saveSubscription .. => true
  | .createRecord .. => true
  | .selectRecord _ => true
  | _ => false

def SessionCharges : SessionReq Stmt → Bool
  | .stmt _ s => ofCharge s
  | _ => false

/-- No other process has committed the record when a process comes to its charge. -/
def ChargesFirst (requestId : String) (req : SessionReq Stmt) (x : Sessions Stmt DB) : Prop :=
  SessionCharges req = true → x.committed.preConsumeRecords.row requestId = none

instance (requestId : String) (req : SessionReq Stmt) (x : Sessions Stmt DB) :
    Decidable (ChargesFirst requestId req x) :=
  inferInstanceAs (Decidable (_ → _))

section Sessions

variable {cfg : Config} {env : Env} {requestId : String} {userId amount : Int} {calls : List PreCall} {db : DB}
  {A : SessionReq Stmt → Option String → Sessions Stmt DB → Prop} {i : Nat} {l : List Stmt} {c : DB}

attribute [local irreducible] Go.trimSpace dueReset

/-! ### Programs that retreat -/

lemma retreating_chargeCandidate (h : 0 < amount) {id : Int} {sub : UserSubscription} :
    Retreating (fun s => ofCharge s = true) (chargeCandidate requestId userId amount h id sub) := by
  apply Retreating.bind
  intro created
  cases created with
  | error e =>
    refine ⟨.inl rfl, .inl rfl, ?_⟩
    intro found
    cases found with
    | error e' => trivial
    | ok dup =>
      show Guarded _ _ (if dup.status = .refunded then throw alreadyRefunded
        else pure _ : Query SubscriptionPreConsumeResult).run
      split <;> trivial
  | ok a =>
    refine ⟨.inl rfl, .inl rfl, ?_⟩
    intro saved
    cases saved <;> trivial

lemma retreating_preConsumeCandidates (h : 0 < amount) {cs : List (Int × UserSubscription)} :
    Retreating (fun s => ofCharge s = true) (preConsumeCandidates cfg env requestId userId amount h cs) := by
  induction cs with
  | nil => exact retreating_throw _
  | cons r cs ih =>
    apply Retreating.bind
    intro plan
    apply Retreating.bind
    intro sub
    split
    · exact ih
    · exact retreating_chargeCandidate h

lemma retreating_chargeFirstFitting (h : 0 < amount) :
    Retreating (fun s => ofCharge s = true) (chargeFirstFitting cfg env requestId userId amount h) := by
  apply Retreating.bind
  intro subs
  match subs with
  | .error _ => exact retreating_throw _
  | .ok [] => exact retreating_throw _
  | .ok (r :: cs) => exact retreating_preConsumeCandidates h

/-! ### The first to commit -/

def ChargedOnce (cfg : Config) (requestId : String) (calls : List PreCall) (db y : DB) : Prop :=
  ∃ call ∈ calls, ∃ r, PreConsumed cfg call.env requestId call.userId call.amount db r y

def ReturnsRecorded (requestId : String) (r : Except String SubscriptionPreConsumeResult) (_ : List Stmt)
    (y : DB) (_ : Nat) : Prop :=
  ∀ res, r = .ok res → ∃ record, y.preConsumeRecords.row requestId = some record ∧
    res.userSubscriptionId = record.userSubscriptionId ∧ res.preConsumed = record.preConsumed

lemma ChargedOnce.record (h : ChargedOnce cfg requestId calls db c)
    (hnone : db.preConsumeRecords.row requestId = none) :
    ∃ record, c.preConsumeRecords.row requestId = some record ∧ record.status = .consumed := by
  obtain ⟨call, -, r, hr⟩ := h
  exact ⟨_, hr.record hnone, rfl⟩

variable (hnone : db.preConsumeRecords.row requestId = none)

include hnone

lemma not_chargedOnce_of_none
    (hc : c.preConsumeRecords.row requestId = none) : ¬ChargedOnce cfg requestId calls db c := by
  intro h
  obtain ⟨record, hrecord, -⟩ := h.record hnone
  rw [hc] at hrecord
  cases hrecord

omit hnone in
lemma returnsRecorded_error (requestId e : String) (c : DB) : ReturnsRecorded requestId (.error e) [] c 0 := by
  rintro res ⟨⟩

lemma held_of_recorded {y : DB}
    (hl : (replay database l db).preConsumeRecords.row requestId ≠ none) (hheld : rowLocks.Held l db y) :
    y.preConsumeRecords.row requestId = none := by
  have hchanged : ¬rowLocks.same (.record requestId) db (replay database l db) := by
    intro hsame
    exact hl (hsame.trans hnone)
  obtain ⟨s, hs, r, hlock, hoverlaps⟩ := RowLocks.exists_lock_of_replay hchanged
  have hr : r = .record requestId := by
    cases r <;> simp_all [rowLocks, Row.overlaps]
  rw [hr] at hlock
  have hsame : y.preConsumeRecords.row requestId = db.preConsumeRecords.row requestId := hheld s hs _ hlock
  rw [hsame]
  exact hnone

lemma upholds_chargeFirstFitting (hA : ∀ req φ x, A req φ x → ChargesFirst requestId req x) (h : 0 < amount)
    (hcall : ⟨env, userId, amount⟩ ∈ calls) (hl : replay database l db = db) :
    (oneWinner rowLocks db (ChargedOnce cfg requestId calls db)).Upholds A i
      (inSession i (chargeFirstFitting cfg env requestId userId amount h).run)
      ((oneWinner rowLocks db (ChargedOnce cfg requestId calls db)).Ends i (ReturnsRecorded requestId)) l db 0 := by
  apply upholds_of_guarded database_transactional (not_chargedOnce_of_none hnone hnone) _ _
    (retreating_chargeFirstFitting h).guarded
  · rw [hl]
    apply wp_mono _ (wpE_chargeFirstFitting h hnone)
    intro r y hr l hy
    cases r with
    | error e => exact ends_error (returnsRecorded_error requestId) _ _ _
    | ok res =>
      have hwon : ChargedOnce cfg requestId calls db y := ⟨_, hcall, res, hr⟩
      have hrecord := PreConsumed.record hnone hr
      rw [← hy] at hwon hrecord
      apply ends_oneWinner_of_won _ hwon (returnsRecorded_error requestId)
      · rintro _ ⟨⟩
        exact ⟨_, hrecord, rfl, hr.preConsumed⟩
      · intro c' hc' hheld
        exact not_chargedOnce_of_none hnone (held_of_recorded hnone (by rw [hrecord]; rintro ⟨⟩) hheld) hc'
  · intro s hs φ x hAx
    exact not_chargedOnce_of_none hnone (hA _ _ _ hAx hs)
  · rintro r l c ⟨e, rfl⟩
    exact ends_error (returnsRecorded_error requestId) _ _ _

lemma upholds_preCall
    (hA : ∀ req φ x, A req φ x → ChargesFirst requestId req x) {call : PreCall} (hcall : call ∈ calls) :
    (oneWinner rowLocks db (ChargedOnce cfg requestId calls db)).Upholds A i
      (isolated i (call.run cfg requestId).run) (ReturnsRecorded requestId) [] db 0 := by
  have herror := returnsRecorded_error requestId
  unfold PreCall.run preConsumeUserSubscription
  split
  · exact herror _ _
  split
  · exact herror _ _
  split
  · exact herror _ _
  next hpos =>
  apply upholds_transaction _ herror
  intro c _
  apply upholds_query_bind (ends_error herror)
  intro φ x rest hx _ hI existing hfound
  have hexisting : x.committed.preConsumeRecords.row requestId = existing := Except.ok.inj hfound
  rcases hI with ⟨-, hc⟩ | ⟨-, hwon⟩
  · -- no process has committed yet
    rw [hc, hnone] at hexisting
    rw [← hexisting, hc]
    exact upholds_chargeFirstFitting hnone hA (not_le.mp hpos) hcall rfl
  · -- the record of another process is returned
    obtain ⟨record, hrecord, hconsumed⟩ := hwon.record hnone
    rw [hrecord] at hexisting
    rw [← hexisting]
    dsimp only
    rw [if_neg (by rw [hconsumed]; decide)]
    apply upholds_query_bind (ends_error herror)
    intro φ' y rest' hy _ _ sub _
    have hsame : y.committed = x.committed := by
      rcases hy.evolves with h | h
      · rw [h] at hrecord
        rw [hnone] at hrecord
        cases hrecord
      · exact h
    apply ends_oneWinner_of_reads (fun _ => rfl) herror
    rintro _ - c' (h | rfl)
    · rw [← hsame, h, hnone] at hrecord
      cases hrecord
    · rintro _ ⟨⟩
      exact ⟨record, by rw [hsame]; exact hrecord, rfl, rfl⟩

end Sessions

/-- In every interleaving, with any failures, of processes that pre-consume under a request id without
a record, in which no process comes to its charge after another one has committed the record: either
nothing is charged and no call has succeeded, or one call has charged one subscription, and every call
that succeeds returns the subscription and the amount that are recorded. -/
theorem preConsume_charges_once {cfg : Config} {requestId : String} {db : DB} {calls : List PreCall}
    {sched : List (Nat × Option String)} (hnone : db.preConsumeRecords.row requestId = none)
    (hsched : Interleaving (fun _ => ChargesFirst requestId) sched (callers (PreCall.run cfg requestId) calls db)) :
    ∀ final, final = Pool.run sessions sched (callers (PreCall.run cfg requestId) calls db) →
      (final.2.committed = db ∧ ∀ (i : Nat) r, final.1[i]? ≠ some (.ret (.ok r))) ∨
      ∃ call ∈ calls, ∃ charged,
        PreConsumed cfg call.env requestId call.userId call.amount db charged final.2.committed ∧
        final.2.committed.preConsumeRecords.row requestId =
          some ⟨call.userId, charged.userSubscriptionId, call.amount, .consumed⟩ ∧
        ∀ (i : Nat) r, final.1[i]? = some (.ret (.ok r)) →
          r.userSubscriptionId = charged.userSubscriptionId ∧ r.preConsumed = call.amount := by
  rintro final rfl
  have hstart : Holds (oneWinner rowLocks db (ChargedOnce cfg requestId calls db))
      (fun _ req _ x => ChargesFirst requestId req x) (fun _ => ReturnsRecorded requestId)
      (callers (PreCall.run cfg requestId) calls db)
      ((callers (PreCall.run cfg requestId) calls db).1.map fun _ => 0) := by
    have hinit : (oneWinner rowLocks db (ChargedOnce cfg requestId calls db)).inv db 0 := Or.inl ⟨rfl, rfl⟩
    apply Holds.init hinit
    intro i p hp
    obtain ⟨call, hcall, rfl⟩ := getElem?_callers db hp
    exact upholds_preCall hnone (fun _ _ _ h => h) (List.mem_of_getElem? hcall)
  obtain ⟨gs, hend⟩ := hstart.run hsched
  -- what a call has returned is recorded in the state reached
  have hreturned : ∀ (i : Nat) r, (Pool.run sessions sched
      (callers (PreCall.run cfg requestId) calls db)).1[i]? = some (.ret (.ok r)) →
      ∃ record,
        (Pool.run sessions sched (callers (PreCall.run cfg requestId) calls db)).2.committed.preConsumeRecords.row
        requestId = some record ∧ r.userSubscriptionId = record.userSubscriptionId ∧
        r.preConsumed = record.preConsumed := by
    intro i r hret
    obtain ⟨g, l, c₀, -, hevolves, hreport⟩ := hend.returned hret
    obtain ⟨record, hrecord, hr⟩ := hreport r rfl
    rcases hevolves with h | h
    · rw [h, hnone] at hrecord
      cases hrecord
    · have hc₀ : (Pool.run sessions sched (callers (PreCall.run cfg requestId) calls db)).2.committed = c₀ := h
      rw [hc₀]
      exact ⟨record, hrecord, hr⟩
  rcases hend.inv with ⟨-, hdb⟩ | ⟨-, call, hcall, charged, hcharged⟩
  · left
    refine ⟨hdb, ?_⟩
    intro i r hret
    obtain ⟨record, hrecord, -⟩ := hreturned i r hret
    have hdb' : (Pool.run sessions sched (callers (PreCall.run cfg requestId) calls db)).2.committed = db := hdb
    rw [hdb', hnone] at hrecord
    cases hrecord
  · right
    refine ⟨call, hcall, charged, hcharged, hcharged.record hnone, ?_⟩
    intro i r hret
    obtain ⟨record, hrecord, hid, hamount⟩ := hreturned i r hret
    obtain rfl := Option.some.inj (hrecord.symm.trans (hcharged.record hnone))
    exact ⟨hid, hamount⟩

/-- Two subscriptions of the user `1`; the first has room for one request. -/
def twoSubscriptions : DB where
  subscriptions := (Table.empty.insert 1
    ⟨1, 1, 10, 0, Int.natCast_nonneg _, 0, 1000, .active, .order, none, none, "", ""⟩).insert 2
    ⟨1, 1, 100, 0, Int.natCast_nonneg _, 0, 2000, .active, .order, none, none, "", ""⟩
  plans := Table.empty.insert 1 { title := "monthly" }

def sameRequest : List PreCall := [⟨{ now := 5 }, 1, 10⟩, ⟨{ now := 6 }, 1, 10⟩]

def repeatedRequest : List (Nat × Option String) := List.replicate 7 (0, none) ++ List.replicate 4 (1, none)

/-- The second process has looked for a record before the first commits it. -/
def overtakenRequest : List (Nat × Option String) :=
  List.replicate 2 (1, none) ++ List.replicate 7 (0, none) ++ List.replicate 6 (1, none)

theorem preConsume_charges_once_repeated :
    ∃ call ∈ sameRequest, ∃ charged, PreConsumed {} call.env "req" call.userId call.amount twoSubscriptions charged
      (Pool.run sessions repeatedRequest
        (callers (PreCall.run {} "req") sameRequest twoSubscriptions)).2.committed := by
  have hsched : Interleaving (fun _ => ChargesFirst "req") repeatedRequest
      (callers (PreCall.run {} "req") sameRequest twoSubscriptions) := interleaving_of_all (by decide +kernel)
  rcases preConsume_charges_once rfl hsched _ rfl with ⟨hdb, -⟩ | ⟨call, hcall, charged, hcharged, -⟩
  · have hrecord : ((Pool.run sessions repeatedRequest
        (callers (PreCall.run {} "req") sameRequest twoSubscriptions)).2.committed.preConsumeRecords.row "req").isSome =
        true := by decide +kernel
    rw [hdb] at hrecord
    cases hrecord
  · exact ⟨call, hcall, charged, hcharged⟩

/-- The request that finds the record of another one reports a subscription that was not charged. -/
theorem preConsume_returns_uncharged :
    Interleaving (fun _ _ _ => True) overtakenRequest (callers (PreCall.run {} "req") sameRequest twoSubscriptions) ∧
    Pool.Returned (Pool.run sessions overtakenRequest (callers (PreCall.run {} "req") sameRequest twoSubscriptions))
      [.ok ⟨1, 10, 10, 0, 10⟩, .ok ⟨2, 10, 100, 0, 0⟩] ∧
    (Pool.run sessions overtakenRequest
      (callers (PreCall.run {} "req") sameRequest twoSubscriptions)).2.committed.preConsumeRecords.row "req" =
        some ⟨1, 1, 10, .consumed⟩ ∧
    ((Pool.run sessions overtakenRequest (callers (PreCall.run {} "req") sameRequest
      twoSubscriptions)).2.committed.subscriptions.row 2).map UserSubscription.amountUsed = some 0 :=
  ⟨interleaving_of_all (by decide +kernel), rfl, by decide +kernel, by decide +kernel⟩

end LoveApi.Proofs
