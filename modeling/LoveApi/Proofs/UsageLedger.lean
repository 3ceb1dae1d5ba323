import LoveApi.Proofs.SubscriptionUsage

/-!
# The used amount as a ledger

A ledger lists what requests were charged on one subscription since its last reset. The used amount is its sum as long
as nothing takes back more than the ledger has of its request.
-/

namespace LoveApi.Proofs

open Program Prog Go List Option

variable {requestId : String}

variable {n : Int}

/-! ### Ledgers -/

abbrev UsageLedger := List (String × Int)

/-- The sum of the entries. -/
def charged (l : UsageLedger) : Int := (l.map Prod.snd).sum

def chargedBy (l : UsageLedger) (requestId : String) : Int := charged (l.filter fun e => e.1 = requestId)

def takeBack (l : UsageLedger) (requestId : String) (amount : Int) : UsageLedger :=
  (requestId, -min amount (chargedBy l requestId)) :: l

section Ledgers

variable {l : UsageLedger}

@[simp] lemma charged_cons (e : String × Int) (l : UsageLedger) : charged (e :: l) = e.2 + charged l := by
  simp [charged]

lemma chargedBy_cons {e : String × Int} {l : UsageLedger} :
    chargedBy (e :: l) requestId = (if e.1 = requestId then e.2 else 0) + chargedBy l requestId := by
  unfold chargedBy
  by_cases h : e.1 = requestId <;> simp [h]

lemma charged_eq_add (l : UsageLedger) (requestId : String) :
    charged l = chargedBy l requestId + charged (l.filter fun e => e.1 ≠ requestId) := by
  induction l with
  | nil => rfl
  | cons e l ih =>
    rw [charged_cons, chargedBy_cons, ih]
    by_cases h : e.1 = requestId
    · simp [h]
      omega
    · simp [h]
      omega

lemma chargedBy_filter_ne {l : UsageLedger} {r : String} (h : r ≠ requestId) :
    chargedBy (l.filter fun e => e.1 ≠ requestId) r = chargedBy l r := by
  unfold chargedBy
  rw [List.filter_filter]
  congr 1
  apply List.filter_congr
  intro e _
  by_cases he : e.1 = r
  · simp [he, h]
  · simp [he]

variable (h : ∀ r, 0 ≤ chargedBy l r)

include h

lemma chargedBy_filter_nonneg (requestId r : String) : 0 ≤ chargedBy (l.filter fun e => e.1 ≠ requestId) r := by
  by_cases hr : r = requestId
  · have hnil : (l.filter fun e => e.1 ≠ requestId).filter (fun e => e.1 = r) = [] := by
      simp [hr]
    unfold chargedBy
    rw [hnil]
    exact le_refl 0
  · rw [chargedBy_filter_ne hr]
    exact h r

lemma charged_nonneg : 0 ≤ charged l := by
  -- one request after the other is filtered out
  generalize hn : l.length = n
  induction n using Nat.strong_induction_on generalizing l with
  | _ n ih =>
    cases l with
    | nil => exact le_refl 0
    | cons e l =>
      have hshort : ((e :: l).filter fun e' => e'.1 ≠ e.1).length < n := by
        rw [← hn, filter_cons_of_neg (by simp), length_cons]
        exact Nat.lt_succ_of_le (length_filter_le _ _)
      have hrest : 0 ≤ charged ((e :: l).filter fun e' => e'.1 ≠ e.1) :=
        ih _ hshort (chargedBy_filter_nonneg h e.1) rfl
      have := h e.1
      rw [charged_eq_add _ e.1]
      omega

lemma chargedBy_cons_nonneg (hn : 0 ≤ n) (r : String) : 0 ≤ chargedBy ((requestId, n) :: l) r := by
  have := h r
  rw [chargedBy_cons]
  split <;> omega

lemma chargedBy_takeBack_nonneg (n : Int) (r : String) : 0 ≤ chargedBy (takeBack l requestId n) r := by
  have := h r
  unfold takeBack
  rw [chargedBy_cons]
  split
  · next hr =>
    obtain rfl : requestId = r := hr
    omega
  · omega

end Ledgers

/-! ### Booking -/

def carried (id : Int) (x y : DB) (l : UsageLedger) : UsageLedger :=
  if (y.subscriptions.row id).map periodStart = (x.subscriptions.row id).map periodStart then l else []

/-- What a call adds to the ledger of the subscription `id`: the charge that its record shows, its
settlement if it succeeded, or the charge that it marked as refunded. -/
def book (id : Int) (x y : DB) (ok : Bool) (l : UsageLedger) : UsageCall → UsageLedger
  | .preConsume _ requestId _ _ =>
    match x.preConsumeRecords.row requestId, y.preConsumeRecords.row requestId with
    | none, some record =>
      if record.userSubscriptionId = id then (requestId, record.preConsumed) :: l else l
    | _, _ => l
  | .settle requestId j delta =>
    if ok ∧ j = id then if 0 ≤ delta then (requestId, delta) :: l else takeBack l requestId (-delta) else l
  | .refund requestId =>
    match x.preConsumeRecords.row requestId, y.preConsumeRecords.row requestId with
    | some record, some record' =>
      if record.userSubscriptionId = id ∧ record.status = .consumed ∧ record'.status = .refunded ∧
          0 < record.preConsumed then
        takeBack l requestId record.preConsumed
      else l
    | _, _ => l
  | .reset .. => l
  | .resetDue .. => l

def bookedStep (cfg : Config) (id : Int) (s : DB × UsageLedger) (call : UsageCall) : DB × UsageLedger :=
  let r := (call.run cfg).run.eval server [] [] s.1
  (r.2, book id s.1 r.2 r.1.isOk (carried id s.1 r.2 s.2) call)

structure Accounted (id : Int) (s : DB × UsageLedger) : Prop where
  used : ∃ sub, s.1.subscriptions.row id = some sub ∧ sub.amountUsed = charged s.2
  nonneg : ∀ r, 0 ≤ chargedBy s.2 r

def TakesBackOwn (id : Int) (s : DB × UsageLedger) : UsageCall → Prop
  | .settle requestId j delta => j = id → delta < 0 → -delta ≤ chargedBy s.2 requestId
  | .refund requestId => ∀ record, s.1.preConsumeRecords.row requestId = some record →
    record.status = .consumed → record.userSubscriptionId = id → record.preConsumed ≤ chargedBy s.2 requestId
  | _ => True

/-- No call takes back more than its request was charged. -/
def AllTakeBackOwn (cfg : Config) (id : Int) : DB × UsageLedger → List UsageCall → Prop
  | _, [] => True
  | s, c :: cs => TakesBackOwn id s c ∧ AllTakeBackOwn cfg id (bookedStep cfg id s c) cs

section Steps

variable {cfg : Config} {id : Int} {x y : DB} {l : UsageLedger}
variable {sub : UserSubscription} {now : Time} {call : UsageCall} {delta : Int} {record : SubscriptionPreConsumeRecord}
  {s : DB × UsageLedger}

lemma carried_of_row_eq (h : y.subscriptions.row id = x.subscriptions.row id) : carried id x y l = l := by
  unfold carried
  rw [h, if_pos rfl]

variable (h : Accounted id (x, l))

include h

lemma Accounted.reset {plan : SubscriptionPlan} (hx : x.subscriptions.row id = some sub)
    (hy : (y.subscriptions.row id).map periodStart = some (periodStart (afterReset cfg sub plan now))) :
    (afterReset cfg sub plan now).amountUsed = charged (carried id x y l) ∧
      ∀ r, 0 ≤ chargedBy (carried id x y l) r := by
  obtain ⟨sub', hrow, hused⟩ := h.used
  obtain rfl := some.inj (hx.symm.trans hrow)
  unfold carried
  rw [hy, hx, map_some]
  rcases (afterReset_period cfg sub plan now).2 with ⟨hp, hu⟩ | ⟨hp, hu⟩
  · rw [if_pos (congrArg some hp)]
    exact ⟨hu.trans hused, h.nonneg⟩
  · rw [if_neg fun heq => hp (some.inj heq)]
    exact ⟨hu, fun _ => le_refl 0⟩

lemma Accounted.of_row_eq (hy : y.subscriptions.row id = x.subscriptions.row id) :
    Accounted id (y, carried id x y l) := by
  rw [carried_of_row_eq hy]
  obtain ⟨sub, hsub, hused⟩ := h.used
  exact ⟨⟨sub, hy.trans hsub, hused⟩, h.nonneg⟩

lemma Accounted.of_keptOrReset (hrow : KeptOrReset cfg now id x y) : Accounted id (y, carried id x y l) := by
  rcases hrow with heq | ⟨sub, plan, hx, hy⟩
  · exact h.of_row_eq heq
  · obtain ⟨hused, hnonneg⟩ := h.reset (y := y) hx (by rw [hy]; rfl)
    exact ⟨⟨_, hy, hused⟩, hnonneg⟩

omit h in
lemma book_self (h : ∀ requestId j delta, call ≠ .settle requestId j delta) {ok : Bool} :
    book id x x ok l call = l := by
  cases call with
  | preConsume env requestId userId amount =>
    cases hrec : x.preConsumeRecords.row requestId <;> simp only [book, hrec]
  | settle requestId j delta => exact absurd rfl (h requestId j delta)
  | refund requestId =>
    cases hrec : x.preConsumeRecords.row requestId with
    | none => simp only [book, hrec]
    | some record =>
      simp only [book, hrec]
      rw [if_neg]
      rintro ⟨-, hc, hr, -⟩
      rw [hc] at hr
      cases hr
  | reset env j plan => rfl
  | resetDue env limit => rfl

lemma Accounted.unchanged (hcall : ∀ requestId j delta, call ≠ .settle requestId j delta) (ok : Bool) :
    Accounted id (x, book id x x ok (carried id x x l) call) := by
  rw [carried_of_row_eq rfl, book_self hcall]
  exact h

lemma Accounted.preConsume {env : Env} {userId amount : Int}
    {r : SubscriptionPreConsumeResult} (hstep : PreConsumeStep cfg env requestId userId amount x r y) :
    Accounted id (y, book id x y true (carried id x y l) (.preConsume env requestId userId amount)) := by
  rcases hstep with ⟨_, -, -, -, -, rfl⟩ | ⟨hfresh, hp⟩
  · exact h.unchanged (fun _ _ _ => by simp) true
  have hrec := hp.record hfresh
  simp only [book, hfresh, hrec]
  by_cases hid : r.userSubscriptionId = id
  · subst hid
    obtain ⟨sub, plan, hmem, -, -, hrow⟩ := hp.charged
    have hx : x.subscriptions.row r.userSubscriptionId = some sub := row_of_mem_activeSubscriptions hmem
    obtain ⟨hused, hnonneg⟩ := h.reset (y := y) hx (by rw [hrow]; rfl)
    rw [if_pos rfl]
    refine ⟨⟨_, hrow, ?_⟩, chargedBy_cons_nonneg hnonneg hp.pos.le⟩
    rw [charged_cons]
    show (afterReset cfg sub plan env.now).amountUsed + amount = _
    omega
  · rw [if_neg hid]
    exact h.of_keptOrReset (hp.keptOrReset (Ne.symm hid))

lemma Accounted.adjust {l' : UsageLedger}
    (hx : x.subscriptions.row id = some sub) (hy : y.subscriptions.row id = some (sub.adjust delta))
    (hl : charged l' = charged l + delta) (hnonneg : ∀ r, 0 ≤ chargedBy l' r) : Accounted id (y, l') := by
  obtain ⟨sub', hrow, hused⟩ := h.used
  obtain rfl := some.inj (hx.symm.trans hrow)
  refine ⟨⟨_, hy, ?_⟩, hnonneg⟩
  have := charged_nonneg hnonneg
  show max 0 (sub.amountUsed + delta) = charged l'
  dsimp only at hused
  omega

omit h in
lemma charged_takeBack (h : n ≤ chargedBy l requestId) : charged (takeBack l requestId n) = charged l + -n := by
  unfold takeBack
  rw [charged_cons]
  omega

omit h in
lemma carried_adjust (hx : x.subscriptions.row id = some sub)
    (hy : y.subscriptions.row id = some (sub.adjust delta)) : carried id x y l = l := by
  unfold carried
  rw [hx, hy]
  exact if_pos rfl

lemma Accounted.settle {j : Int}
    (hown : TakesBackOwn id (x, l) (.settle requestId j delta)) (hrow : x.subscriptions.row j = some sub) :
    Accounted id (x.setSubscription j (sub.adjust delta), book id x (x.setSubscription j (sub.adjust delta)) true
        (carried id x (x.setSubscription j (sub.adjust delta)) l) (.settle requestId j delta)) := by
  by_cases hj : j = id
  · subst hj
    have hset := row_setSubscription_self (sub.adjust delta) hrow
    rw [carried_adjust hrow hset]
    simp only [book, and_self, if_true]
    by_cases hd : 0 ≤ delta
    · rw [if_pos hd]
      apply h.adjust hrow hset _ (chargedBy_cons_nonneg h.nonneg hd)
      exact add_comm _ _
    · rw [if_neg hd]
      apply h.adjust hrow hset _ (chargedBy_takeBack_nonneg h.nonneg _)
      rw [charged_takeBack (hown rfl (not_le.mp hd)), neg_neg]
  · have hset := (row_setSubscription hrow (sub.adjust delta) id).trans (if_neg (Ne.symm hj))
    simp only [book, hj, and_false, if_false]
    exact h.of_row_eq hset

lemma Accounted.refund (hown : TakesBackOwn id (x, l) (.refund requestId))
    (hrec : x.preConsumeRecords.row requestId = some record) (hstatus : record.status = .consumed)
    (hpos : 0 < record.preConsumed) (hrow : x.subscriptions.row record.userSubscriptionId = some sub)
    (hsub : y.subscriptions = (x.setSubscription record.userSubscriptionId
      (sub.adjust (-record.preConsumed))).subscriptions)
    (hmark : y.preConsumeRecords.row requestId = some { record with status := .refunded }) :
    Accounted id (y, book id x y true (carried id x y l) (.refund requestId)) := by
  simp only [book, hrec, hmark]
  by_cases hid : record.userSubscriptionId = id
  · have hset := row_setSubscription_self (sub.adjust (-record.preConsumed)) hrow
    rw [← hsub] at hset
    rw [hid] at hrow hset
    rw [if_pos ⟨hid, hstatus, trivial, hpos⟩, carried_adjust hrow hset]
    apply h.adjust hrow hset _ (chargedBy_takeBack_nonneg h.nonneg _)
    exact charged_takeBack (hown record hrec hstatus hid)
  · have hset : y.subscriptions.row id = x.subscriptions.row id := by
      rw [hsub, row_setSubscription hrow, if_neg (Ne.symm hid)]
    rw [if_neg fun hc => hid hc.1]
    exact h.of_row_eq hset

omit h in
lemma row_markRefunded (hrec : x.preConsumeRecords.row requestId = some record) :
    (markRefunded x requestId record).preConsumeRecords.row requestId = some { record with status := .refunded } := by
  unfold markRefunded
  rw [Table.row_update_self, hrec]
  rfl

lemma Accounted.refund_free (hrec : x.preConsumeRecords.row requestId = some record)
    (hfree : record.preConsumed ≤ 0) :
    Accounted id (markRefunded x requestId record, book id x (markRefunded x requestId record) true
        (carried id x (markRefunded x requestId record) l) (.refund requestId)) := by
  simp only [book, hrec, row_markRefunded hrec]
  rw [if_neg (by omega)]
  exact h.of_row_eq rfl

attribute [local irreducible] preConsumeUserSubscription postConsumeUserSubscriptionDelta
  refundSubscriptionPreConsume resetTx resetDueSubscriptions

lemma wpE_accounted (hown : TakesBackOwn id (x, l) call) :
    wpE server noFaults (call.run cfg) (fun _ y => Accounted id (y, book id x y true (carried id x y l) call))
      (fun _ y => Accounted id (y, book id x y false (carried id x y l) call)) x := by
  cases call with
  | preConsume env requestId userId amount =>
    show wpE server noFaults (preConsumeUserSubscription cfg env requestId userId amount >>= fun _ => pure ()) _ _ x
    rw [wpE_bind]
    apply wpE_preConsumeUserSubscription
    · intro _ _ r y hstep
      exact h.preConsume hstep
    · intro _
      exact h.unchanged (fun _ _ _ => by simp) false
  | settle requestId j delta =>
    apply wpE_postConsumeUserSubscriptionDelta
    · rintro rfl
      rw [carried_of_row_eq rfl]
      simp only [book, true_and, le_refl, if_true]
      split
      · refine ⟨?_, chargedBy_cons_nonneg h.nonneg (le_refl 0)⟩
        obtain ⟨s, hs, hused⟩ := h.used
        exact ⟨s, hs, by rw [charged_cons, hused, zero_add]⟩
      · exact h
    · intro _ sub hrow _
      rw [note_none]
      exact h.settle hown hrow
    · intro _
      rw [carried_of_row_eq rfl]
      exact h
  | refund requestId =>
    apply wpE_refund
    · intro _
      exact h.unchanged (fun _ _ _ => by simp) false
    · intro _ _ _
      exact h.unchanged (fun _ _ _ => by simp) true
    · intro record hrec _ hfree
      exact h.refund_free hrec hfree
    · rintro record sub hrec hstatus hpos hrow - y rfl
      constructor
      · exact h.refund hown hrec (consumed_of_ne hstatus) hpos hrow rfl (row_markRefunded hrec)
      · rintro ⟨φs, hφ, hfault⟩
        rw [show φs = [] from hφ] at hfault
        exact absurd rfl hfault
  | reset env j plan =>
    apply wpE_transaction
    · apply wpE_resetTx
      · exact h.unchanged (fun _ _ _ => by simp) true
      · intro sub hrow
        exact h.of_keptOrReset (keptOrReset_set hrow)
    · intro _
      exact h.unchanged (fun _ _ _ => by simp) false
  | resetDue env limit =>
    show wpE server noFaults (resetDueSubscriptions cfg env limit >>= fun _ => pure ()) _ _ x
    rw [wpE_bind]
    apply wpE_mono (wpE_resetDueSubscriptions limit)
    · rintro n y ⟨hy, -⟩
      exact h.of_keptOrReset (hy.kept_or_reset (fun r hr => (mem_dueBatch hr).1) id)
    · rintro e y ⟨-, hy⟩
      exact h.of_keptOrReset (hy.kept_or_reset (fun r hr => (mem_dueBatch hr).1) id)

omit h

lemma accounted_bookedStep (h : Accounted id s)
    (hown : TakesBackOwn id s call) : Accounted id (bookedStep cfg id s call) := by
  have heval := wp_default_iff.mp (@wpE_accounted cfg id s.1 s.2 call h hown)
  unfold bookedStep
  rcases hres : (call.run cfg).run.eval server [] [] s.1 with ⟨e | a, y⟩ <;> rw [hres] at heval <;> exact heval

lemma accounted_run {calls : List UsageCall} (h : Accounted id s)
    (hown : AllTakeBackOwn cfg id s calls) : Accounted id (calls.foldl (bookedStep cfg id) s) := by
  induction calls generalizing s with
  | nil => exact h
  | cons call calls ih => exact ih (accounted_bookedStep h hown.1) hown.2

end Steps

/-- In every run without a database failure in which each refund and each negative settlement takes
back no more than its request was charged since the last reset, the used amount of a subscription is
the sum of what was charged since its last reset and not taken back. -/
theorem used_eq_charged {cfg : Config} {db : DB} {id : Int} {sub : UserSubscription}
    (hrow : db.subscriptions.row id = some sub) (hnew : sub.amountUsed = 0) (calls : List UsageCall)
    (hown : AllTakeBackOwn cfg id (db, []) calls) :
    ∃ sub', (calls.foldl (bookedStep cfg id) (db, [])).1.subscriptions.row id = some sub' ∧
      sub'.amountUsed = charged (calls.foldl (bookedStep cfg id) (db, [])).2 := by
  have hfirst : Accounted id (db, []) := ⟨⟨sub, hrow, hnew⟩, fun _ => le_refl 0⟩
  exact (accounted_run hfirst hown).used

def newDaily : DB where
  subscriptions := Table.empty.insert 1 (dailySubscription 1 0)
  plans := Table.empty.insert 1 { title := "daily", quotaResetPeriod := "daily" }

/-- One request on each side of a reset, and the refund of one of them. -/
def chargesAroundReset (refunded : String) : List UsageCall :=
  [.preConsume { now := 1000 } "a" 1 10, .resetDue { now := 90000 } 300,
    .preConsume { now := 90001 } "b" 1 5, .refund refunded]

theorem used_eq_charged_own : ∃ sub',
    ((chargesAroundReset "b").foldl (bookedStep {} 1) (newDaily, [])).1.subscriptions.row 1 = some sub' ∧
      sub'.amountUsed = charged ((chargesAroundReset "b").foldl (bookedStep {} 1) (newDaily, [])).2 := by
  have hown : AllTakeBackOwn {} 1 (newDaily, []) (chargesAroundReset "b") := by
    refine ⟨trivial, trivial, trivial, ?_, trivial⟩
    intro record hrec _ _
    obtain rfl : ⟨1, 1, 5, .consumed⟩ = record := some.inj hrec
    decide
  exact used_eq_charged rfl rfl (chargesAroundReset "b") hown

/-- A repeated request after a reset reports a charge that the used amount does not have. -/
theorem used_ne_charged_after_reset :
    (((chargesAroundReset "a").foldl (bookedStep {} 1) (newDaily, [])).1.subscriptions.row 1).map
      UserSubscription.amountUsed = some 0 ∧
    charged ((chargesAroundReset "a").foldl (bookedStep {} 1) (newDaily, [])).2 = 5 := ⟨rfl, rfl⟩

end LoveApi.Proofs
