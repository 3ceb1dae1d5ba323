import LoveApi.Proofs.Isolation
import LoveApi.Proofs.Subscription
import LoveApi.Proofs.TopUp

/-!
# Lost updates

Transactions that read a row, decide and save the whole row: nothing is lost if every save is of a row that no other one
has changed since it was read.
-/

namespace LoveApi.Proofs

open Program Protocol List Option

variable {cfg : Config} {A : SessionReq Stmt → Option String → Sessions Stmt DB → Prop} {i : Nat} {l : List Stmt}
  {c : DB} {j : Int} {sub : UserSubscription}

/-! ### Orders -/

/-- A call that completes an order. -/
inductive PayCall
  | recharge (now : Go.Time) (customerId : String)
  | manualCompleteTopUp (now : Go.Time)

namespace PayCall

def run (cfg : Config) (rounding : Rounding) (tradeNo : String) : PayCall → Action Unit
  | recharge now customerId => LoveApi.recharge cfg rounding now tradeNo customerId
  | manualCompleteTopUp now => LoveApi.manualCompleteTopUp cfg now tradeNo

def call : PayCall → TopUpCall
  | recharge _ customerId => .recharge customerId
  | manualCompleteTopUp _ => .manualCompleteTopUp

end PayCall

def savesTopUp (tradeNo : String) : SessionReq Stmt → Bool
  | .stmt _ (.saveTopUp t _) => t = tradeNo
  | _ => false

/-- An order is saved only where it is still pending. -/
def SavesPending (tradeNo : String) (req : SessionReq Stmt) (x : Sessions Stmt DB) : Prop :=
  savesTopUp tradeNo req = true → orderStatus tradeNo (x.view database req.session) = some .pending

instance (tradeNo : String) (req : SessionReq Stmt) (x : Sessions Stmt DB) :
    Decidable (SavesPending tradeNo req x) :=
  inferInstanceAs (Decidable (_ → _))

/-- One of the calls has paid for the order. -/
def PaidOnce (cfg : Config) (rounding : Rounding) (tradeNo : String) (order : TopUp) (calls : List PayCall)
    (x y : DB) : Prop :=
  orderStatus tradeNo y = some .success ∧ ∃ c ∈ calls, Credited cfg rounding c.call order x y

section Orders

variable {rounding : Rounding} {tradeNo : String} {order : TopUp} {calls : List PayCall} {db : DB}
variable {now : Go.Time} {stripeCustomer email : Option String} {call : PayCall}

def completion (tradeNo : String) (order : TopUp) (now : Go.Time) (quota : Int)
    (stripeCustomer email : Option String) : List Stmt :=
  [.saveTopUp tradeNo { order with completeTime := some now, status := .success },
    .creditUser order.userId quota stripeCustomer email]

lemma paidOnce_completion
    (hrow : db.topUps.row tradeNo = some order) (hcall : call ∈ calls) (hl : ∀ c, replay database l c = c) :
    PaidOnce cfg rounding tradeNo order calls db (replay database (l ++ completion tradeNo order now
      (call.call.credit cfg rounding order) stripeCustomer email) db) := by
  have hreplay : replay database (l ++ completion tradeNo order now (call.call.credit cfg rounding order)
      stripeCustomer email) db = replay database (completion tradeNo order now
        (call.call.credit cfg rounding order) stripeCustomer email) db := by
    have hdb := hl db
    unfold replay at hdb ⊢
    rw [foldl_append, hdb]
  rw [hreplay]
  constructor
  · have hsaved := Table.row_update_self db.topUps tradeNo fun _ =>
      { order with completeTime := some now, status := .success }
    rw [hrow] at hsaved
    exact congrArg (Option.map TopUp.status) hsaved
  · refine ⟨call, hcall, ?_⟩
    intro id
    apply userQuota_update id order.userId _ _ rfl
    intro u
    rfl

/-- A call that succeeds reports that the order is paid. -/
def PayReport (paid : DB → Prop) (r : Except String Unit) (_ : List Stmt) (y : DB) (_ : Nat) : Prop :=
  r = .ok () → paid y

/-- In the session `i`, `q` keeps to the protocol in which one process pays the order. -/
abbrev Pays (db : DB) (paid : DB → Prop) (A : SessionReq Stmt → Option String → Sessions Stmt DB → Prop) (i : Nat)
    (q : Query Unit) (l : List Stmt) (c : DB) : Prop :=
  (oneWinner rowLocks db paid).Upholds A i (inSession i q.run)
    ((oneWinner rowLocks db paid).Ends i (PayReport paid)) l c 0

variable {paid : DB → Prop}

lemma payReport_error (e : String) (c : DB) : PayReport paid (.error e) [] c 0 := by
  rintro ⟨⟩

variable (hpaid : paid = PaidOnce cfg rounding tradeNo order calls db)

include hpaid

lemma payment_pending {n : ℕ} (hI : (oneWinner rowLocks db paid).inv c n)
    (hc : orderStatus tradeNo c = some .pending) : c = db := by
  subst hpaid
  rcases hI with ⟨-, rfl⟩ | ⟨-, hpaid, -⟩
  · rfl
  · rw [hc] at hpaid
    cases hpaid

lemma upholds_findTopUp {e : String} {f : TopUp → Query Unit} (hrow : db.topUps.row tradeNo = some order)
    (hfresh : Pays db paid A i (f order) [.begin, .selectTopUp tradeNo] db)
    (hsuccess : ∀ topUp y, topUp.status = .success → paid y →
      Pays db paid A i (f topUp) [.begin, .selectTopUp tradeNo] y) :
    Pays db paid A i (findTopUp tradeNo e >>= f) [.begin] c := by
  apply upholds_mapError_bind
  apply upholds_query
  · intro _ _ _ _ _ _ e'
    refine ⟨fun _ _ => ends_error payReport_error _ _ _, ?_⟩
    rintro a ⟨⟩
  intro φ x rest hx _ hI topUp ha
  have hfound : x.committed.topUps.row tradeNo = some topUp := first_eq_ok ha
  constructor
  · rintro e' ⟨⟩
  rintro _ ⟨⟩
  rcases hI with ⟨-, hc⟩ | ⟨-, hwon⟩
  · rw [hc, hrow] at hfound
    cases hfound
    rw [hc]
    exact hfresh
  · apply hsuccess topUp x.committed _ hwon
    subst hpaid
    have hstatus := hwon.1
    unfold orderStatus at hstatus
    rw [hfound] at hstatus
    exact some.inj hstatus

variable (hrow : db.topUps.row tradeNo = some order) (hpending : order.status = .pending) (hcall : call ∈ calls)
  (hA : ∀ req φ x, A req φ x → SavesPending tradeNo req x)

include hrow hpending hcall hA

lemma upholds_completeTopUp (hl : ∀ c, replay database l c = c) :
    Pays db paid A i
      (completeTopUp now tradeNo order (call.call.credit cfg rounding order) stripeCustomer email) l db := by
  have hstatus : orderStatus tradeNo db = some .pending := by
    unfold orderStatus
    rw [hrow, map_some, hpending]
  -- the order is locked from its save on
  have hlocked : ∀ l' y,
      .saveTopUp tradeNo { order with completeTime := some now, status := .success } ∈ l' → rowLocks.Held l' db y →
      orderStatus tradeNo y = some .pending := by
    intro l' y hmem hheld
    have hsame : y.topUps.row tradeNo = db.topUps.row tradeNo := hheld _ hmem _ rfl
    unfold orderStatus at hstatus ⊢
    rw [hsame]
    exact hstatus
  apply upholds_query_bind (ends_error payReport_error)
  intro φ x rest hx hAx hI _ _
  have hview : x.view database i = x.committed := by
    unfold Sessions.view
    rw [hx.statements, hl]
  have hx₀ : x.committed = db := by
    apply payment_pending hpaid hI
    rw [← hview]
    exact hA _ _ _ hAx (decide_eq_true rfl)
  rw [hx₀]
  apply upholds_query
  · intro _ _ _ _ _ _ e
    exact ends_error payReport_error e _ _
  intro φ' x' rest' hx' _ hI' b _
  have hx'₀ : x'.committed = db :=
    payment_pending hpaid hI' (hlocked _ _ (mem_append_right _ mem_cons_self) hx'.held)
  have hwon := @paidOnce_completion cfg l rounding tradeNo order calls db now stripeCustomer email call hrow hcall hl
  have happend : l ++ [.saveTopUp tradeNo { order with completeTime := some now, status := .success }] ++
      [.creditUser order.userId (call.call.credit cfg rounding order) stripeCustomer email] =
      l ++ completion tradeNo order now (call.call.credit cfg rounding order) stripeCustomer email :=
    append_assoc _ _ _
  rw [happend]
  rw [hx'₀]
  subst hpaid
  apply ends_oneWinner_of_won _ hwon payReport_error fun _ => hwon
  intro y hy hheld
  have hy' := hlocked _ y (mem_append_right _ mem_cons_self) hheld
  rw [hy.1] at hy'
  cases hy'

lemma upholds_payCall :
    (oneWinner rowLocks db paid).Upholds A i (isolated i (call.run cfg rounding tradeNo).run)
      (PayReport paid) [] db 0 := by
  have hnotPending : ∀ {topUp : TopUp}, topUp.status = .success → topUp.status ≠ .pending := by
    intro topUp h h'
    rw [h] at h'
    cases h'
  cases call with
  | recharge now customerId =>
    show (oneWinner rowLocks db paid).Upholds A i (isolated i (recharge cfg rounding now tradeNo customerId).run)
      _ [] db 0
    unfold recharge
    split
    · exact payReport_error _ _
    show (oneWinner rowLocks db paid).Upholds A i (isolated i
      ((transaction (rechargeTx cfg rounding now tradeNo customerId)).run >>= fun r =>
        .ret (r.mapError fun _ => rechargeFailed))) _ [] db 0
    rw [isolated_bind]
    apply Upholds.bind
    apply Upholds.mono (Q := PayReport paid)
    · apply upholds_transaction _ payReport_error
      intro c' _
      apply upholds_findTopUp hpaid hrow
      · split
        · exact ends_error payReport_error _ _ _
        split
        · exact ends_error payReport_error _ _ _
        · exact upholds_completeTopUp hpaid hrow hpending hcall hA fun _ => rfl
      · intro topUp y hsuccess _
        split
        · exact ends_error payReport_error _ _ _
        · rw [if_pos (hnotPending hsuccess)]
          exact ends_error payReport_error _ _ _
    · intro r l y g hr hmapped
      cases r with
      | error e => cases hmapped
      | ok u => exact hr rfl
  | manualCompleteTopUp now =>
    show (oneWinner rowLocks db paid).Upholds A i (isolated i (manualCompleteTopUp cfg now tradeNo).run) _ [] db 0
    unfold manualCompleteTopUp
    split
    · exact payReport_error _ _
    apply upholds_transaction _ payReport_error
    intro c' _
    apply upholds_findTopUp hpaid hrow
    · rw [if_neg (by rw [hpending]; decide), if_neg (not_not_intro hpending)]
      split
      · exact ends_error payReport_error _ _ _
      · exact upholds_completeTopUp hpaid hrow hpending hcall hA fun _ => rfl
    · intro topUp y hsuccess hwon
      rw [if_pos hsuccess]
      apply ends_oneWinner_of_reads (fun _ => rfl) payReport_error
      rintro b - y' (rfl | rfl) _
      · subst hpaid
        have hstatus := hwon.1
        unfold orderStatus at hstatus
        rw [hrow, map_some, hpending] at hstatus
        cases hstatus
      · exact hwon

end Orders

/-! ### Used amounts -/

def createsRecord : Stmt → Bool
  | .createRecord .. => true
  | _ => false

/-- A call that changes the usage of a subscription. -/
inductive UseCall
  | preConsume (env : Env) (requestId : String) (userId amount : Int)
  | postConsume (userSubscriptionId delta : Int)

namespace UseCall

def run (cfg : Config) : UseCall → Action (Option SubscriptionPreConsumeResult)
  | preConsume env requestId userId amount => do
    let r ← preConsumeUserSubscription cfg env requestId userId amount
    return some r
  | postConsume userSubscriptionId delta => do
    postConsumeUserSubscriptionDelta userSubscriptionId delta
    return none

/-- The change that the answer of a call reports. -/
def applied (id : Int) : UseCall → Except String (Option SubscriptionPreConsumeResult) → Int
  | preConsume .., .ok (some r) =>
    if r.userSubscriptionId = id then r.amountUsedAfter - r.amountUsedBefore else 0
  | postConsume userSubscriptionId delta, .ok _ => if userSubscriptionId = id then delta else 0
  | _, _ => 0

/-- What a save of a call adds to the used amount, after the statements `l`: nothing as long as a
pre-consume has not created its record, because that is the save of a reset. -/
def saved (l : List Stmt) : UseCall → Int
  | preConsume _ _ _ amount => if l.any createsRecord then amount else 0
  | postConsume _ delta => delta

end UseCall

def savedRow (id : Int) : SessionReq Stmt → Option UserSubscription
  | .stmt _ (.saveSubscription j sub _) => if j = id then some sub else none
  | _ => none

/-- A save of the subscription finds the used amount that its call has read: what it saves differs
from the row by what the call adds. -/
def SavesFresh (id : Int) (call : UseCall) (req : SessionReq Stmt) (x : Sessions Stmt DB) : Prop :=
  ∀ sub ∈ savedRow id req, ∀ cur ∈ (x.view database req.session).subscriptions.row id,
    sub.amountUsed = cur.amountUsed + call.saved (x.statements req.session)

instance (id : Int) (call : UseCall) (req : SessionReq Stmt) (x : Sessions Stmt DB) :
    Decidable (SavesFresh id call req x) :=
  inferInstanceAs (Decidable (∀ sub ∈ savedRow id req, ∀ cur ∈ _, _))

section Usage

variable {id : Int} {call : UseCall} {used₀ : Int} {δ : Int}
variable {c' : DB} {s : Stmt} {memo : Option TaskMovement} {x : Sessions Stmt DB}
  {f : SubscriptionPreConsumeResult → Int}

attribute [local irreducible] Go.trimSpace dueReset

def usedOf (id : Int) (db : DB) : Option Int := (db.subscriptions.row id).map UserSubscription.amountUsed

/-- The used amount is the initial one and what the calls have added. -/
def usage (id used₀ : Int) : Protocol database Row Int where
  locks := rowLocks
  inv x total := usedOf id x = some (used₀ + total)

def Adds (id : Int) (l : List Stmt) (c : DB) (δ : Int) : Prop :=
  ∀ c' u, rowLocks.Held l c c' → usedOf id c' = some u → usedOf id (replay database l c') = some (u + δ)

lemma Adds.held (h : Adds id l c δ) (hheld : rowLocks.Held l c c') : Adds id l c' δ :=
  fun c'' u h' => h c'' u (hheld.trans h')

lemma replay_append {l : List Stmt} {s : Stmt} {c : DB} :
    replay database (l ++ [s]) c = (s.step (replay database l c)).2 := by
  unfold replay
  rw [foldl_append]
  rfl

lemma held_of_append (h : rowLocks.Held (l ++ [s]) c c') : rowLocks.Held l c c' :=
  fun w hw => h w (mem_append_left _ hw)

lemma Adds.other (h : Adds id l c δ) (hs : s.lock ≠ some (.subscription id))
    (hs' : s.lock ≠ some .subscriptions) : Adds id (l ++ [s]) c δ := by
  intro c' u hheld hu
  rw [replay_append]
  unfold usedOf
  rw [subscription_step hs hs']
  exact h c' u (held_of_append hheld) hu

lemma Adds.save (sub : UserSubscription) (memo : Option TaskMovement) {a : Int} (h : Adds id l c δ)
    (hfresh : ∀ cur, (replay database l c).subscriptions.row id = some cur →
      sub.amountUsed = cur.amountUsed + a) : Adds id (l ++ [.saveSubscription id sub memo]) c (δ + a) := by
  intro c' u hheld hu
  have hsame : c'.subscriptions.row id = c.subscriptions.row id :=
    hheld _ (mem_append_right _ mem_cons_self) _ rfl
  have hu' : usedOf id c = some u := by
    unfold usedOf at hu ⊢
    rw [← hsame]
    exact hu
  obtain ⟨cur, hcur, hused⟩ := map_eq_some_iff.mp (h c u (RowLocks.Held.refl _ _) hu')
  obtain ⟨cur', hcur', -⟩ := map_eq_some_iff.mp (h c' u (held_of_append hheld) hu)
  rw [replay_append]
  have hrow := row_setSubscription_self sub hcur'
  show (((replay database l c').setSubscription id sub).subscriptions.row id).map _ = _
  rw [hrow, map_some, hfresh cur hcur]
  congr 1
  omega

lemma savesFresh_row {cur : UserSubscription}
    (hx : (usage id used₀).Sees i l c x) (hA : SavesFresh j call (.stmt i (.saveSubscription j sub memo)) x)
    (hrow : (replay database l x.committed).subscriptions.row j = some cur) :
    sub.amountUsed = cur.amountUsed + call.saved l := by
  have hview : (x.view database i).subscriptions.row j = some cur := by
    unfold Sessions.view
    rw [hx.statements]
    exact hrow
  have hsaved := hA sub (if_pos rfl) cur hview
  rw [← hx.statements]
  exact hsaved

lemma Adds.saveFresh (h : Adds id l x.committed δ) (hx : (usage id used₀).Sees i l c x)
    (hA : SavesFresh id call (.stmt i (.saveSubscription j sub memo)) x) :
    Adds id (l ++ [.saveSubscription j sub memo]) x.committed (δ + if j = id then call.saved l else 0) := by
  by_cases hj : j = id
  · subst hj
    rw [if_pos rfl]
    exact h.save sub memo fun cur hcur => savesFresh_row hx hA hcur
  · rw [if_neg hj, add_zero]
    exact h.other (by rintro ⟨⟩; exact hj rfl) (by rintro ⟨⟩)

lemma ends_of_adds {β : Type} {r : Except String β} {f : Except String β → Int} (herror : ∀ e, f (.error e) = 0)
    (h : ∀ b, r = .ok b → Adds id l c (f r)) : (usage id used₀).Ends i (fun r _ _ g => g = f r) r l c 0 := by
  refine ⟨fun e _ => (herror e).symm, ?_⟩
  rintro b rfl x rest hx hI
  refine ⟨f (.ok b), trivial, ?_, rfl⟩
  have hused := h b rfl _ _ hx.held hI
  show usedOf id _ = some _
  rw [hused]
  congr 1
  omega

def EndsAdding (id used₀ : Int) (i : Nat) (f : SubscriptionPreConsumeResult → Int) :
    Except String SubscriptionPreConsumeResult → List Stmt → DB → Int → Prop :=
  (usage id used₀).Ends i fun r _ _ g => g = r.toOption.elim 0 f

lemma endsAdding_error (e : String) (l : List Stmt) (c : DB) :
    EndsAdding id used₀ i f (.error e) l c 0 := ends_of_adds (fun _ => rfl) (by rintro b ⟨⟩)

lemma endsAdding_ok {b : SubscriptionPreConsumeResult}
    (h : Adds id l c (f b)) : EndsAdding id used₀ i f (.ok b) l c 0 := by
  apply ends_of_adds fun _ => rfl
  rintro _ -
  exact h

def reported (id : Int) (r : SubscriptionPreConsumeResult) : Int :=
  if r.userSubscriptionId = id then r.amountUsedAfter - r.amountUsedBefore else 0

structure Unrecorded (id : Int) (l : List Stmt) (c : DB) : Prop where
  adds : Adds id l c 0
  none_created : l.any createsRecord = false

lemma Unrecorded.held (h : Unrecorded id l c) (hheld : rowLocks.Held l c c') : Unrecorded id l c' :=
  ⟨h.adds.held hheld, h.none_created⟩

lemma Unrecorded.read (h : Unrecorded id l c) (hs : s.lock = none) (hs' : createsRecord s = false) :
    Unrecorded id (l ++ [s]) c := by
  refine ⟨h.adds.other (by rw [hs]; rintro ⟨⟩) (by rw [hs]; rintro ⟨⟩), ?_⟩
  rw [any_append, h.none_created]
  simpa using hs'

/-- In every session without a record, `q` adds what it reports. -/
def Reports (id used₀ : Int) (A : SessionReq Stmt → Option String → Sessions Stmt DB → Prop) (i : Nat)
    (q : Query SubscriptionPreConsumeResult) : Prop :=
  ∀ l c, Unrecorded id l c →
    (usage id used₀).Upholds A i (inSession i q.run) (EndsAdding id used₀ i (reported id)) l c 0

section PreConsume

variable {env : Env} {requestId : String} {userId amount : Int}

lemma reports_getSubscriptionPlanByIdTx {planId : Int} {f : SubscriptionPlan → Query SubscriptionPreConsumeResult}
    (hf : ∀ plan, Reports id used₀ A i (f plan)) :
    Reports id used₀ A i (getSubscriptionPlanByIdTx env planId >>= f) := by
  intro l c h
  unfold getSubscriptionPlanByIdTx
  split
  · exact endsAdding_error _ _ _
  cases env.cachedPlan planId with
  | some plan => exact hf plan l c h
  | none =>
    apply upholds_query_bind endsAdding_error
    intro φ x rest hx _ _ plan _
    exact hf plan _ _ ((h.held hx.held).read rfl rfl)

variable (hA : ∀ req φ x, A req φ x → SavesFresh id (.preConsume env requestId userId amount) req x)

include hA

lemma reports_chargeCandidate (hpos : 0 < amount) {j : Int} {sub : UserSubscription} :
    Reports id used₀ A i (chargeCandidate requestId userId amount hpos j sub) := by
  intro l c h
  apply upholds_attempt_bind
  apply upholds_query
  · -- the record could not be created
    intro φ x rest hx _ _ e
    have hx' := h.held hx.held
    apply upholds_attempt_bind
    apply upholds_query
    · intro _ _ _ _ _ _ _
      exact endsAdding_error _ _ _
    intro φ' y rest' hy _ _ dup _
    dsimp only
    split
    · exact endsAdding_error _ _ _
    have hadds := ((hx'.held hy.held).read (s := .selectRecord requestId) rfl rfl).adds
    apply endsAdding_ok
    unfold reported
    simpa using hadds
  · intro φ x rest hx _ _ _ _
    have hadds : Adds id (l ++ [.createRecord requestId ⟨userId, j, amount, .consumed⟩]) x.committed 0 :=
      (h.adds.held hx.held).other (by rintro ⟨⟩) (by rintro ⟨⟩)
    apply upholds_query_bind endsAdding_error
    intro φ' y rest' hy hAy _ _ _
    apply endsAdding_ok
    unfold reported
    have hsaved := (hadds.held hy.held).saveFresh hy (hA _ _ _ hAy)
    simpa [UseCall.saved, createsRecord, UserSubscription.consume] using hsaved

lemma reports_maybeReset {plan : SubscriptionPlan} {f : UserSubscription → Query SubscriptionPreConsumeResult}
    (hf : ∀ sub, Reports id used₀ A i (f sub)) :
    Reports id used₀ A i (maybeResetUserSubscriptionWithPlanTx cfg j sub plan env.now >>= f) := by
  intro l c h
  unfold maybeResetUserSubscriptionWithPlanTx
  cases dueReset cfg sub plan env.now with
  | none => exact hf sub l c h
  | some sub' =>
    apply upholds_bind_run
    apply upholds_query_bind
    · intro e l c
      refine ⟨fun _ _ => endsAdding_error _ _ _, ?_⟩
      rintro a ⟨⟩
    intro φ x rest hx hAx _ _ _
    have hx' := h.held hx.held
    constructor
    · rintro e ⟨⟩
    rintro _ ⟨⟩
    apply hf
    refine ⟨?_, ?_⟩
    · have hsaved := hx'.adds.saveFresh hx (hA _ _ _ hAx)
      simpa [UseCall.saved, h.none_created] using hsaved
    · rw [any_append, h.none_created]
      rfl

lemma reports_preConsumeCandidates (hpos : 0 < amount) (cs : List (Int × UserSubscription)) :
    Reports id used₀ A i (preConsumeCandidates cfg env requestId userId amount hpos cs) := by
  induction cs with
  | nil => exact fun _ _ _ => endsAdding_error _ _ _
  | cons r cs ih =>
    apply reports_getSubscriptionPlanByIdTx
    intro plan
    apply reports_maybeReset hA
    intro sub
    split
    · exact ih
    · exact reports_chargeCandidate hA hpos

lemma reports_preConsumeTx (hpos : 0 < amount) :
    Reports id used₀ A i (preConsumeTx cfg env requestId userId amount hpos) := by
  intro l c h
  apply upholds_query_bind endsAdding_error
  intro φ x rest hx _ _ existing _
  have hx' := (h.held hx.held).read (s := .findRecord requestId) rfl rfl
  cases existing with
  | some record =>
    dsimp only
    split
    · exact endsAdding_error _ _ _
    apply upholds_query_bind endsAdding_error
    intro φ' y rest' hy _ _ sub _
    have hadds := ((hx'.held hy.held).read (s := .selectSubscription record.userSubscriptionId) rfl rfl).adds
    apply endsAdding_ok
    unfold reported
    simpa using hadds
  | none =>
    apply upholds_attempt_bind
    apply upholds_query
    · intro _ _ _ _ _ _ _
      exact endsAdding_error _ _ _
    intro φ' y rest' hy _ _ subs _
    cases subs with
    | nil => exact endsAdding_error _ _ _
    | cons r cs => exact reports_preConsumeCandidates hA hpos (r :: cs) _ _ ((hx'.held hy.held).read rfl rfl)

end PreConsume

lemma unrecorded_begin (id : Int) (c : DB) : Unrecorded id [.begin] c := by
  refine ⟨?_, rfl⟩
  intro c' u _ hu
  rw [add_zero]
  exact hu

lemma upholds_postConsumeTx {delta : Int} (hA : ∀ req φ x, A req φ x → SavesFresh id (.postConsume j delta) req x) :
    (usage id used₀).Upholds A i (inSession i (postConsumeTx j delta none).run)
      ((usage id used₀).Ends i fun r _ _ g => g = r.toOption.elim 0 fun _ => if j = id then delta else 0)
      [.begin] c' 0 := by
  have herror : ∀ e l c, (usage id used₀).Ends i (fun r _ _ g => g = r.toOption.elim 0 fun _ : Unit =>
      if j = id then delta else 0) (.error e) l c 0 := fun e l c => ends_of_adds (fun _ => rfl) (by rintro b ⟨⟩)
  apply upholds_query_bind herror
  intro φ x rest hx _ _ sub _
  have hx' := (((unrecorded_begin id c').held hx.held).read (s := .selectSubscription j) rfl rfl).adds
  dsimp only
  split
  · exact herror _ _ _
  apply upholds_query
  · exact fun _ _ _ _ _ _ e => herror e _ _
  intro φ' y rest' hy hAy _ _ _
  apply ends_of_adds fun _ => rfl
  rintro b -
  have hsaved := (hx'.held hy.held).saveFresh hy (hA _ _ _ hAy)
  rw [zero_add] at hsaved
  exact hsaved

lemma upholds_useCall (hA : ∀ req φ x, A req φ x → SavesFresh id call req x) :
    (usage id used₀).Upholds A i (isolated i (call.run cfg).run) (fun r _ _ g => g = call.applied id r) [] c 0 := by
  cases call with
  | preConsume env requestId userId amount =>
    show (usage id used₀).Upholds A i (isolated i
      ((preConsumeUserSubscription cfg env requestId userId amount) >>= fun r => pure (some r)).run) _ [] c 0
    rw [ExceptT.run_bind, isolated_bind]
    apply Upholds.bind
    apply Upholds.mono (Q := fun r _ _ g => g = r.toOption.elim 0 (reported id))
    · unfold preConsumeUserSubscription
      split
      · rfl
      split
      · rfl
      split
      · rfl
      apply upholds_transaction
      · intro c' _
        exact reports_preConsumeTx hA _ _ _ (unrecorded_begin id c')
      · intro e c'
        rfl
    · intro r l y g hg
      cases r with
      | error e => exact hg
      | ok r => exact hg
  | postConsume j delta =>
    show (usage id used₀).Upholds A i (isolated i
      ((postConsumeUserSubscriptionDelta j delta) >>= fun _ => pure none).run) _ [] c 0
    rw [ExceptT.run_bind, isolated_bind]
    apply Upholds.bind
    apply Upholds.mono (Q := fun r _ _ g => g = r.toOption.elim 0 fun _ => if j = id then delta else 0)
    · unfold postConsumeUserSubscriptionDelta
      split
      · rfl
      split
      · next hzero =>
        show (0 : Int) = if j = id then delta else 0
        rw [hzero, ite_self]
      · apply upholds_transaction
        · exact fun c' _ => upholds_postConsumeTx hA
        · intro e c'
          rfl
    · intro r l y g hg
      cases r with
      | error e => exact hg
      | ok r => exact hg

end Usage

/-! ### Interleavings -/

/-- In every interleaving of processes that pay an order, with any failures, in which each save of the
order finds it pending, the user is credited by one of them, and by none as long as none has
succeeded. In every interleaving of processes that change the used amount of a subscription in which
each save finds the amount that its call has read, the amount at the end is the initial one plus what
the calls report. -/
theorem fresh_saves_lose_nothing (cfg : Config) (rounding : Rounding) (db : DB) (sched : List (Nat × Option String)) :
    (∀ tradeNo order, db.topUps.row tradeNo = some order → order.status = .pending → ∀ (calls : List PayCall) final,
      Interleaving (fun _ => SavesPending tradeNo) sched (callers (PayCall.run cfg rounding tradeNo) calls db) →
      final = Pool.run sessions sched (callers (PayCall.run cfg rounding tradeNo) calls db) →
        (final.2.committed = db ∧ ∀ i : Nat, final.1[i]? ≠ some (.ret (.ok ()))) ∨
          PaidOnce cfg rounding tradeNo order calls db final.2.committed) ∧
    ∀ id sub, db.subscriptions.row id = some sub → ∀ (calls : List UseCall) final results,
      Interleaving (fun i req x => ∀ call ∈ calls[i]?, SavesFresh id call req x) sched
        (callers (UseCall.run cfg) calls db) →
      final = Pool.run sessions sched (callers (UseCall.run cfg) calls db) → Pool.Returned final results →
        ∃ sub', final.2.committed.subscriptions.row id = some sub' ∧
          sub'.amountUsed = sub.amountUsed + (List.zipWith (UseCall.applied id) calls results).sum := by
  constructor
  · rintro tradeNo order hrow hpending calls final hmeets rfl
    set paid := PaidOnce cfg rounding tradeNo order calls db with hpaid
    have hstart : Holds (oneWinner rowLocks db paid) (fun _ req _ x => SavesPending tradeNo req x)
        (fun _ => PayReport paid) (callers (PayCall.run cfg rounding tradeNo) calls db)
        ((callers (PayCall.run cfg rounding tradeNo) calls db).1.map fun _ => 0) := by
      have hinit : (oneWinner rowLocks db paid).inv db 0 := Or.inl ⟨rfl, rfl⟩
      apply Holds.init hinit
      intro i p hp
      obtain ⟨call, hcall, rfl⟩ := getElem?_callers db hp
      exact upholds_payCall hpaid hrow hpending (mem_of_getElem? hcall) fun _ _ _ h => h
    obtain ⟨gs, hend⟩ := hstart.run hmeets
    rcases hend.inv with ⟨-, hdb⟩ | ⟨-, hwon⟩
    · left
      refine ⟨hdb, ?_⟩
      intro i hret
      obtain ⟨g, l, c₀, -, hevolves, hreport⟩ := hend.returned hret
      have hpaid : orderStatus tradeNo c₀ = some .success := (hreport rfl).1
      have hstatus : orderStatus tradeNo db = some .pending := by
        unfold orderStatus
        rw [hrow, map_some, hpending]
      have hc₀ : c₀ = db := by
        rcases hevolves with h | h
        · exact h
        · exact h.symm.trans hdb
      rw [hc₀, hstatus] at hpaid
      cases hpaid
    · exact .inr hwon
  · rintro id sub hrow calls final results hmeets rfl hreturned
    have hstart : Holds (usage id sub.amountUsed) (fun i req _ x => ∀ call ∈ calls[i]?, SavesFresh id call req x)
        (fun i r _ _ g => ∀ call ∈ calls[i]?, g = call.applied id r)
        (callers (UseCall.run cfg) calls db) ((callers (UseCall.run cfg) calls db).1.map fun _ => 0) := by
      apply Holds.init
      · show usedOf id db = some _
        unfold usedOf
        rw [hrow, add_zero]
        rfl
      intro i p hp
      obtain ⟨call, hcall, rfl⟩ := getElem?_callers db hp
      apply Upholds.mono (upholds_useCall fun req φ x h => h call hcall)
      intro r l c g hg call' hcall'
      obtain rfl := some.inj (hcall.symm.trans hcall')
      exact hg
    obtain ⟨gs, hend⟩ := hstart.run hmeets
    have hshares : gs = zipWith (UseCall.applied id) calls results := by
      apply hend.eq_zipWith hreturned
      rw [Pool.length_run]
      simp [callers, processes]
    obtain ⟨sub', hsub', hused⟩ := map_eq_some_iff.mp hend.inv
    exact ⟨sub', hsub', by rw [hused, hshares]⟩

/-- A pending order of the user `1`, who also has a subscription. -/
def orderAndSubscription : DB where
  users := Table.empty.insert 1 { quota := 100 }
  topUps := Table.empty.insert "t" ⟨1, 2, 2, "card", .stripe, Go.zeroTime, none, .pending⟩
  subscriptions := Table.empty.insert 1
    ⟨1, 1, 100, 0, Int.natCast_nonneg _, 0, 1000, .active, .order, none, none, "", ""⟩
  plans := Table.empty.insert 1 { title := "monthly" }

def overlapping (steps : Nat) : List (Nat × Option String) :=
  [(0, none), (0, none), (1, none), (1, none)] ++ List.replicate steps (0, none) ++ List.replicate steps (1, none)

def consecutive (steps : Nat) : List (Nat × Option String) :=
  List.replicate steps (0, none) ++ List.replicate steps (1, none)

def payCalls : List PayCall := [.recharge 5 "cus", .manualCompleteTopUp 6]

def useCalls : List UseCall := [.preConsume { now := 5 } "req" 1 10, .postConsume 1 5]

theorem fresh_saves_lose_nothing_consecutive :
    PaidOnce {} {} "t" ⟨1, 2, 2, "card", .stripe, Go.zeroTime, none, .pending⟩ payCalls orderAndSubscription
      (Pool.run sessions (consecutive 5) (callers (PayCall.run {} {} "t") payCalls orderAndSubscription)).2.committed ∧
    ∃ sub', (Pool.run sessions (consecutive 7)
      (callers (UseCall.run {}) useCalls orderAndSubscription)).2.committed.subscriptions.row 1 = some sub' ∧
      sub'.amountUsed = 0 + 15 := by
  constructor
  · have h := (fresh_saves_lose_nothing {} {} orderAndSubscription (consecutive 5)).1 "t" _ rfl rfl payCalls _
      (interleaving_of_all (by decide +kernel)) rfl
    rcases h with ⟨hdb, -⟩ | hpaid
    · have hsuccess : orderStatus "t" (Pool.run sessions (consecutive 5)
          (callers (PayCall.run {} {} "t") payCalls orderAndSubscription)).2.committed = some .success := by
        decide +kernel
      rw [hdb] at hsuccess
      exact absurd hsuccess (by decide)
    · exact hpaid
  · exact (fresh_saves_lose_nothing {} {} orderAndSubscription (consecutive 7)).2 1 _ rfl useCalls _
      [.ok (some ⟨1, 10, 100, 0, 10⟩), .ok none] (interleaving_of_all (by decide +kernel)) rfl rfl

/-- Two processes that both find the order pending credit its user twice, and two that both find the
subscription unused lose the charge of the first. -/
theorem stale_saves_lose_updates :
    Interleaving (fun _ _ _ => True) (overlapping 3) (callers (PayCall.run {} {} "t") payCalls orderAndSubscription) ∧
    userQuota 1 orderAndSubscription = some 100 ∧
    userQuota 1 (Pool.run sessions (overlapping 3)
      (callers (PayCall.run {} {} "t") payCalls orderAndSubscription)).2.committed = some 2000100 ∧
    manualQuota {} ⟨1, 2, 2, "card", .stripe, Go.zeroTime, none, .pending⟩ = 1000000 ∧
    Interleaving (fun _ _ _ => True) (overlapping 5) (callers (UseCall.run {}) useCalls orderAndSubscription) ∧
    Pool.Returned (Pool.run sessions (overlapping 5) (callers (UseCall.run {}) useCalls orderAndSubscription))
      [.ok (some ⟨1, 10, 100, 0, 10⟩), .ok none] ∧
    usedOf 1 (Pool.run sessions (overlapping 5)
      (callers (UseCall.run {}) useCalls orderAndSubscription)).2.committed = some 5 :=
  ⟨interleaving_of_all (by decide +kernel), rfl, by decide +kernel, by decide +kernel,
    interleaving_of_all (by decide +kernel), rfl, by decide +kernel⟩

end LoveApi.Proofs
