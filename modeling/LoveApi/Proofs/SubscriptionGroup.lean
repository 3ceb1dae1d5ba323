import LoveApi.Proofs.Calendar
import LoveApi.Proofs.SubscriptionLifecycle

/-!
# The group of a subscriber

A subscription stores only the group that its user had when it was created, so upgrading subscriptions must not overlap.
-/

namespace LoveApi.Proofs

open Program Prog Go List Option

variable {now j v : Int} {sub : UserSubscription} {z : DB} {g : String}

variable {cfg : Config} {plan : SubscriptionPlan} {start userId u now' planId t : Int} {r : Int × UserSubscription}
  {db x y : DB} {source : SubscriptionSource}

/-! ### Names and end times -/

lemma trimSpace_empty : trimSpace "" = "" := rfl

lemma lt_of_calcPlanEndTime {endTime : Int} (h : calcPlanEndTime cfg start plan = .ok endTime) : start < endTime := by
  unfold calcPlanEndTime at h
  split at h
  · cases h
  next hvalue =>
  have hpos : plan.durationUnit ≠ "custom" → 0 < plan.durationValue := by
    intro hunit
    by_contra hle
    exact hvalue ⟨not_lt.mp hle, hunit⟩
  split at h
  iterate 2 next hunit =>
    have := hpos (by rw [hunit]; decide)
    cases h
    exact lt_addDate _ _ (by omega)
  iterate 2 next hunit =>
    have := hpos (by rw [hunit]; decide)
    cases h
    omega
  · split at h
    · cases h
    · cases h
      omega
  · cases h

section Latest

variable {rows : List (Int × UserSubscription)}

lemma latestEnding_eq_none (h : latestEnding rows = none) : rows = [] := by
  unfold latestEnding at h
  rw [head?_eq_none_iff] at h
  rw [← length_eq_zero_iff, ← length_insertionSort (fun a b => byEndTime b a = true), h]
  rfl

instance : Std.Total fun a b : Int × UserSubscription => byEndTime b a = true where
  total a b := by
    have htotal : ∀ p q i j : Int, (p < q ∨ p = q ∧ i ≤ j) ∨ (q < p ∨ q = p ∧ j ≤ i) := by omega
    simpa [byEndTime] using htotal b.2.endTime a.2.endTime b.1 a.1

instance : IsTrans (Int × UserSubscription) fun a b => byEndTime b a = true where
  trans a b c hab hbc := by
    have htrans : ∀ p q r i j k : Int, (q < p ∨ q = p ∧ j ≤ i) → (r < q ∨ r = q ∧ k ≤ j) →
        r < p ∨ r = p ∧ k ≤ i := by omega
    simp only [byEndTime, Bool.or_eq_true, Bool.and_eq_true, decide_eq_true_eq] at hab hbc ⊢
    exact htrans _ _ _ _ _ _ hab hbc

lemma latestEnding_eq_some (h : latestEnding rows = some r) : r ∈ rows ∧ ∀ r' ∈ rows, r'.2.endTime ≤ r.2.endTime := by
  have hsorted := pairwise_insertionSort (fun a b => byEndTime b a = true) rows
  obtain ⟨rest, hl⟩ := head?_eq_some_iff.mp h
  have hmem : ∀ r', r' ∈ rows ↔ r' ∈ r :: rest := by
    intro r'
    rw [← hl, mem_insertionSort]
  refine ⟨(hmem r).mpr mem_cons_self, ?_⟩
  intro r' hr'
  rcases mem_cons.mp ((hmem r').mp hr') with rfl | hr'
  · exact le_refl _
  rw [hl] at hsorted
  have hrel := rel_of_pairwise_cons hsorted hr'
  simp only [byEndTime, Bool.or_eq_true, Bool.and_eq_true, decide_eq_true_eq] at hrel
  rcases hrel with hlt | ⟨heq, -⟩
  · exact le_of_lt hlt
  · exact le_of_eq heq

end Latest

/-! ### Lookups and rows -/

/-- An active subscription of the user that has not ended and upgrades the user. -/
def Upgrades (userId : Int) (now : Int) (sub : UserSubscription) : Prop :=
  sub.userId = userId ∧ sub.upgradeGroup ≠ "" ∧ sub.status = .active ∧ now < sub.endTime

section Rows

variable {exceptId : Option Int} {id : Int}

lemma mem_upgradedSubscriptions : r ∈ db.upgradedSubscriptions userId ↔
      db.subscriptions.row r.1 = some r.2 ∧ r.2.userId = userId ∧ r.2.upgradeGroup ≠ "" := by
  unfold DB.upgradedSubscriptions
  rw [mem_filter, ← Table.mem_rows]
  simp

lemma activeUpgrade_eq_none (h : activeUpgrade db userId now exceptId = none)
    (hrow : db.subscriptions.row id = some sub) (hup : Upgrades userId now sub) : some id = exceptId := by
  have hnil := latestEnding_eq_none h
  rw [filter_eq_nil_iff] at hnil
  have := hnil (id, sub) (mem_upgradedSubscriptions.mpr ⟨hrow, hup.1, hup.2.1⟩)
  by_contra hne
  apply this
  simp only [Bool.and_eq_true, decide_eq_true_eq]
  exact ⟨⟨hup.2.2.1, hup.2.2.2⟩, hne⟩

lemma activeUpgrade_eq_some (h : activeUpgrade db userId now exceptId = some r) :
    db.subscriptions.row r.1 = some r.2 ∧ Upgrades userId now r.2 ∧ some r.1 ≠ exceptId := by
  have hmem := (latestEnding_eq_some h).1
  rw [mem_filter, mem_upgradedSubscriptions] at hmem
  simp only [Bool.and_eq_true, decide_eq_true_eq] at hmem
  exact ⟨hmem.1.1, ⟨hmem.1.2.1, hmem.1.2.2, hmem.2.1.1, hmem.2.1.2⟩, hmem.2.2⟩

lemma lastExpired_eq_some (h : lastExpired db userId = some r) :
    (db.subscriptions.row r.1 = some r.2 ∧ r.2.userId = userId ∧ r.2.upgradeGroup ≠ "" ∧ r.2.status = .expired) ∧
    ∀ id sub, db.subscriptions.row id = some sub → sub.userId = userId → sub.upgradeGroup ≠ "" →
      sub.status = .expired → sub.endTime ≤ r.2.endTime := by
  obtain ⟨hmem, hlast⟩ := latestEnding_eq_some h
  rw [mem_filter, mem_upgradedSubscriptions, decide_eq_true_eq] at hmem
  refine ⟨⟨hmem.1.1, hmem.1.2.1, hmem.1.2.2, hmem.2⟩, ?_⟩
  intro id sub hrow huser hup hexp
  apply hlast (id, sub)
  rw [mem_filter, mem_upgradedSubscriptions, decide_eq_true_eq]
  exact ⟨⟨hrow, huser, hup⟩, hexp⟩

lemma row_createSubscription : (db.createSubscription sub).subscriptions.row j =
    if j = db.newSubscriptionId then some sub else db.subscriptions.row j :=
  Table.row_insert sub db.row_newSubscriptionId j

lemma row_expireAll : (expireAll db now userId).subscriptions.row j =
    (db.subscriptions.row j).map (UserSubscription.expire userId now) := rfl

lemma row_cancelled : (cancelled db now id).subscriptions.row j =
    if j = id then (db.subscriptions.row id).map fun sub => { sub with status := .cancelled, endTime := now }
    else db.subscriptions.row j := rfl

lemma row_deleteSubscription : (db.deleteSubscription id).subscriptions.row j =
    if j = id then none else db.subscriptions.row j := rfl

end Rows

/-! ### Runs -/

inductive GroupCall
  | create (userId planId : Int) (plan : SubscriptionPlan) (source : SubscriptionSource)
  | expire (order : MapOrder) (limit : Int)
  | invalidate (id : Int)
  | delete (id : Int)

def GroupCall.run (cfg : Config) (now : Time) : GroupCall → Action Unit
  | create userId planId plan source => do
    let _ ← transaction (createUserSubscriptionFromPlanTx cfg now userId planId plan source)
    return ()
  | expire order limit => do
    let _ ← expireDueSubscriptions now order limit
    return ()
  | invalidate id => do
    let _ ← adminInvalidateUserSubscription now id
    return ()
  | delete id => do
    let _ ← adminDeleteUserSubscription now id
    return ()

/-- The database after a call. -/
def groupStep (cfg : Config) (now : Time) (c : GroupCall) (x : DB) : DB :=
  ((c.run cfg now).run.eval server [] [] x).2

/-- Runs at increasing times whose calls all meet a condition. -/
inductive GroupRun (cfg : Config) (P : Int → DB → GroupCall → Prop) (start : Int) (db : DB) : Int → DB → Prop
  | refl : GroupRun cfg P start db start db
  | step {t t' : Int} {x : DB} {c : GroupCall} (h : GroupRun cfg P start db t x) (ht : t ≤ t') (hc : P t' x c) :
    GroupRun cfg P start db t' (groupStep cfg t' c x)

/-- The subscription `id` is cancelled or gone in `y`, and the group of its user has been downgraded. -/
structure EndedIn (x : DB) (now id : Int) (sub : UserSubscription) (y : DB) : Prop where
  group : ∃ z, (∀ u, groupOf z u = groupOf x u) ∧ (∀ j ≠ id, z.subscriptions.row j = x.subscriptions.row j) ∧
    ∀ u, groupOf y u = groupOf (mapGroup z sub.userId (downgradedGroup z now id sub)) u
  others : ∀ j ≠ id, y.subscriptions.row j = x.subscriptions.row j
  cancelled : ∀ s, y.subscriptions.row id = some s → s = { sub with status := .cancelled, endTime := now }

section Step

variable {c : GroupCall} {J : DB → Prop} {id : Int}

lemma endedIn_invalidated (hrow : x.subscriptions.row id = some sub) : EndedIn x now id sub
    (mapGroup (cancelled x now id) sub.userId (downgradedGroup (cancelled x now id) now id sub)) where
  group := ⟨cancelled x now id, fun _ => rfl, fun _ hj => row_cancelled.trans (if_neg hj), fun _ => rfl⟩
  others j hj := if_neg hj
  cancelled s hs := by
    have hs : (cancelled x now id).subscriptions.row id = some s := hs
    rw [row_cancelled, if_pos rfl, hrow] at hs
    exact (some.inj hs).symm

lemma endedIn_deleted :
    EndedIn x now id sub ((mapGroup x sub.userId (downgradedGroup x now id sub)).deleteSubscription id) where
  group := ⟨x, fun _ => rfl, fun _ _ => rfl, fun _ => rfl⟩
  others j hj := if_neg hj
  cancelled s hs := by
    rw [row_deleteSubscription, if_pos rfl] at hs
    cases hs

attribute [local irreducible] trimSpace latestEnding calcPlanEndTime

lemma groupStep_keeps (hx : J x) (hcreate : ∀ userId planId plan source id y, c = .create userId planId plan source →
      Created cfg now userId planId plan source x id y → J y)
    (hexpire : ∀ order limit, c = .expire order limit → ∀ z v, 0 < v → J z → J (afterExpiry z now v))
    (hend : ∀ id sub y, x.subscriptions.row id = some sub → EndedIn x now id sub y → J y) :
    J (groupStep cfg now c x) := by
  have hcall : wpE server noFaults (c.run cfg now) (fun _ y => J y) (fun _ y => J y) x := by
    cases c with
    | create userId planId plan source =>
      show wpE server noFaults (transaction (createUserSubscriptionFromPlanTx cfg now userId planId plan source) >>=
        fun _ => pure ()) _ _ x
      rw [wpE_bind]
      apply wpE_transaction _ fun _ => hx
      apply wpE_mono wpE_createUserSubscriptionFromPlanTx _ fun _ _ _ => trivial
      intro id y hy
      exact hcreate userId planId plan source id y rfl hy
    | expire order limit =>
      show wpE server noFaults (expireDueSubscriptions now order limit >>= fun _ => pure ()) _ _ x
      rw [wpE_bind]
      apply wpE_mono (wpE_expireDueSubscriptions (J := fun _ y => J y) _ order limit hx)
      · intro _ _ hy
        exact hy
      · intro _ _ hf
        exact hf.elim
      · intro _ z v hv hz
        exact hexpire order limit rfl z v hv hz
    | invalidate id =>
      show wpE server noFaults (adminInvalidateUserSubscription now id >>= fun _ => pure ()) _ _ x
      rw [wpE_bind]
      unfold adminInvalidateUserSubscription
      split
      · exact hx
      rw [wpE_bind]
      apply wpE_transaction_of_nil fun _ hφ => hφ
      apply wpE_mono (wpE_adminInvalidateTx (Q := fun _ y => J y) _) (fun _ _ hy => hy) fun _ _ _ => hx
      intro sub _ hrow
      exact hend id sub _ hrow (endedIn_invalidated hrow)
    | delete id =>
      show wpE server noFaults (adminDeleteUserSubscription now id >>= fun _ => pure ()) _ _ x
      rw [wpE_bind]
      unfold adminDeleteUserSubscription
      split
      · exact hx
      rw [wpE_bind]
      apply wpE_transaction_of_nil fun _ hφ => hφ
      apply wpE_mono (wpE_adminDeleteTx (Q := fun _ y => J y) _) (fun _ _ hy => hy) fun _ _ _ => hx
      intro sub _ hrow
      exact hend id sub _ hrow endedIn_deleted
  exact wp_default_iff.mp (wp_of_wpE hcall)

end Step

/-! ### The group while upgraded -/

section

variable {f : String → String}

attribute [local irreducible] trimSpace latestEnding calcPlanEndTime

structure GrantsGroup (u now : Int) (x : DB) : Prop where
  exists_user : (groupOf x u).isSome
  granted : ∀ id sub, x.subscriptions.row id = some sub → Upgrades u now sub → groupOf x u = some sub.upgradeGroup

/-- A subscription to a group is created only beside subscriptions to the same group. -/
def CreatesSameGroup (u : Int) (now : Int) (x : DB) : GroupCall → Prop
  | .create userId _ plan _ => userId = u → trimSpace plan.upgradeGroup ≠ "" →
    ∀ id sub, x.subscriptions.row id = some sub → Upgrades u now sub →
      sub.upgradeGroup = trimSpace plan.upgradeGroup
  | _ => True

variable (h : GrantsGroup u now x)

include h

lemma GrantsGroup.later (hle : now ≤ now') : GrantsGroup u now' x where
  exists_user := h.exists_user
  granted id sub hrow hup := h.granted id sub hrow ⟨hup.1, hup.2.1, hup.2.2.1, lt_of_le_of_lt hle hup.2.2.2⟩

lemma GrantsGroup.of_ended (huser : (groupOf y u).isSome)
    (hrows : ∀ id sub, y.subscriptions.row id = some sub → Upgrades u now sub → x.subscriptions.row id = some sub)
    (hgroup : groupOf y u = groupOf x u ∨ ∀ id sub, y.subscriptions.row id = some sub → ¬Upgrades u now sub) :
    GrantsGroup u now y where
  exists_user := huser
  granted id sub hrow hup := by
    rcases hgroup with heq | hnone
    · rw [heq]
      exact h.granted id sub (hrows id sub hrow hup) hup
    · exact absurd hup (hnone id sub hrow)

omit h in
lemma isSome_groupOf_mapGroup (h : (groupOf x u).isSome) : (groupOf (mapGroup x v f) u).isSome := by
  rw [groupOf_mapGroup]
  split
  · next heq =>
    rw [isSome_map, ← heq]
    exact h
  · exact h

omit h in
lemma groupOf_mapGroup_eq (h : u = v → ∀ g, f g = g) : groupOf (mapGroup x v f) u = groupOf x u := by
  rw [groupOf_mapGroup]
  split
  · next heq =>
    rw [heq]
    cases hg : groupOf x v with
    | none => rfl
    | some g => rw [map_some, h heq]
  · rfl

lemma GrantsGroup.created {id : Int} (hsame : CreatesSameGroup u now x (.create userId planId plan source))
    (hy : Created cfg now userId planId plan source x id y) : GrantsGroup u now y := by
  obtain ⟨endTime, -, rfl⟩ := hy.created
  have hgroup : ∀ sub, groupOf ((mapGroup x userId (upgradedGroup plan)).createSubscription sub) u =
      groupOf (mapGroup x userId (upgradedGroup plan)) u := fun _ => rfl
  refine ⟨isSome_groupOf_mapGroup h.exists_user, ?_⟩
  intro j sub hrow hup
  rw [hgroup, groupOf_mapGroup]
  rw [row_createSubscription] at hrow
  obtain ⟨g, hg⟩ := isSome_iff_exists.mp h.exists_user
  split at hrow
  · -- the new subscription grants the group that its user is moved to
    cases hrow
    obtain rfl : userId = u := hup.1
    rw [if_pos rfl, hg, map_some]
    exact congrArg some (if_neg hup.2.1)
  · have hold := h.granted j sub hrow hup
    split
    · next heq =>
      subst heq
      rw [hold, map_some]
      unfold upgradedGroup
      split
      · rfl
      · next hne => rw [hsame rfl hne j sub hrow hup]
    · exact hold

omit h in
lemma expire_eq_self (h : (sub.expire v now).status = .active) : sub.expire v now = sub := by
  unfold UserSubscription.expire at h ⊢
  split
  · next hc =>
    rw [if_pos hc] at h
    cases h
  · rfl

lemma GrantsGroup.expired (v : Int) : GrantsGroup u now (afterExpiry x now v) := by
  have huser : (groupOf (afterExpiry x now v) u).isSome :=
    isSome_groupOf_mapGroup (x := expireAll x now v) h.exists_user
  apply h.of_ended huser
  · intro id sub hrow hup
    have hrow : (expireAll x now v).subscriptions.row id = some sub := hrow
    rw [row_expireAll] at hrow
    obtain ⟨sub₀, hrow₀, rfl⟩ := map_eq_some_iff.mp hrow
    rw [expire_eq_self hup.2.2.1]
    exact hrow₀
  · by_cases hv : u = v
    · subst hv
      cases hact : activeUpgrade (expireAll x now u) u now none with
      | none =>
        right
        intro id sub hrow hup
        cases activeUpgrade_eq_none hact hrow hup
      | some r =>
        left
        apply groupOf_mapGroup_eq
        intro _ g
        unfold restoredGroup
        rw [if_neg (by rw [hact]; exact some_ne_none r)]
    · exact .inl (groupOf_mapGroup_eq fun heq => absurd heq hv)

omit h in
lemma groupOf_downgraded {id : Int} : groupOf (mapGroup z sub.userId (downgradedGroup z now id sub)) u = groupOf z u ∨
      ∀ j s, z.subscriptions.row j = some s → Upgrades u now s → j = id := by
  by_cases hu : u = sub.userId
  · cases hact : activeUpgrade z sub.userId now (some id) with
    | none =>
      right
      intro j s hrow hup
      rw [hu] at hup
      exact some.inj (activeUpgrade_eq_none hact hrow hup)
    | some r =>
      left
      apply groupOf_mapGroup_eq
      intro _ g
      unfold downgradedGroup
      rw [if_neg (by rw [hact]; exact some_ne_none r)]
  · exact .inl (groupOf_mapGroup_eq fun heq => absurd heq hu)

lemma GrantsGroup.endedIn {id : Int} (hend : EndedIn x now id sub y) : GrantsGroup u now y := by
  obtain ⟨z, hz, hrows, hy⟩ := hend.group
  have hold : ∀ j s, y.subscriptions.row j = some s → Upgrades u now s → j ≠ id ∧ x.subscriptions.row j = some s := by
    intro j s hrow hup
    by_cases hj : j = id
    · subst hj
      rw [hend.cancelled s hrow] at hup
      cases hup.2.2.1
    · exact ⟨hj, (hend.others j hj).symm.trans hrow⟩
  apply h.of_ended
  · rw [hy]
    exact isSome_groupOf_mapGroup (by rw [hz]; exact h.exists_user)
  · exact fun j s hrow hup => (hold j s hrow hup).2
  · rw [hy, ← hz]
    apply groupOf_downgraded.imp_right
    intro honly j s hrow hup
    obtain ⟨hj, hx⟩ := hold j s hrow hup
    exact hj (honly j s ((hrows j hj).trans hx) hup)

lemma grantsGroup_step {c : GroupCall} (hc : CreatesSameGroup u now x c) :
    GrantsGroup u now (groupStep cfg now c x) := by
  apply groupStep_keeps h
  · rintro userId planId plan source id y rfl hy
    exact h.created hc hy
  · intro _ _ _ z v _ hz
    exact hz.expired v
  · intro id sub y _ hend
    exact h.endedIn hend

omit h

lemma grantsGroup_run (h : GrantsGroup u start db) (hrun : GroupRun cfg (CreatesSameGroup u) start db t x) :
    GrantsGroup u t x := by
  induction hrun with
  | refl => exact h
  | step _ ht hc ih => exact grantsGroup_step (ih.later ht) hc

end

/-- No subscription of the user upgrades their group. -/
def NotUpgraded (u : Int) (db : DB) : Prop :=
  ∀ id sub, db.subscriptions.row id = some sub → sub.userId = u → sub.upgradeGroup = ""

/-- In every run in which a subscription to a group is created only beside active subscriptions of
its user to the same group, a user with an active unexpired upgrading subscription is in the group
that such a subscription grants. -/
theorem group_granted_by_active {cfg : Config} {u start t : Int} {db x : DB} (huser : (groupOf db u).isSome)
    (hnew : NotUpgraded u db) (hrun : GroupRun cfg (CreatesSameGroup u) start db t x)
    (hup : ∃ id sub, x.subscriptions.row id = some sub ∧ Upgrades u t sub) :
    ∃ id sub, x.subscriptions.row id = some sub ∧ Upgrades u t sub ∧ groupOf x u = some sub.upgradeGroup := by
  have hstart : GrantsGroup u start db := by
    refine ⟨huser, ?_⟩
    intro id sub hrow hup
    exact absurd (hnew id sub hrow hup.1) hup.2.1
  obtain ⟨id, sub, hrow, hsub⟩ := hup
  exact ⟨id, sub, hrow, hsub, (grantsGroup_run hstart hrun).granted id sub hrow hsub⟩

def newUser : DB where
  users := Table.empty.insert 1 { quota := 0, group := "default" }

def planFor (group : String) (days : Int) : SubscriptionPlan :=
  { title := group, durationUnit := "day", durationValue := days, upgradeGroup := group }

theorem group_granted_by_active_vip : ∃ id sub,
    (groupStep {} 100 (.expire {} 300) (groupStep {} 0 (.create 1 1 (planFor "vip" 30) .order)
      newUser)).subscriptions.row id = some sub ∧ Upgrades 1 100 sub ∧
    groupOf (groupStep {} 100 (.expire {} 300) (groupStep {} 0 (.create 1 1 (planFor "vip" 30) .order) newUser)) 1 =
      some sub.upgradeGroup := by
  have hcreate : CreatesSameGroup 1 0 newUser (.create 1 1 (planFor "vip" 30) .order) := by
    intro _ _ id sub hrow
    cases hrow
  have hrun : GroupRun {} (CreatesSameGroup 1) 0 newUser 100 (groupStep {} 100 (.expire {} 300)
      (groupStep {} 0 (.create 1 1 (planFor "vip" 30) .order) newUser)) :=
    .step (.step .refl (le_refl 0) hcreate) (by decide) trivial
  exact group_granted_by_active rfl (fun _ _ hrow => by cases hrow) hrun ⟨1, _, rfl, rfl, by decide, rfl, by decide⟩

/-- The user bought a plan for a month and a dearer one for a day. When the latter has expired, the
user is still in its group, which no active subscription grants. -/
theorem group_kept_from_expired :
    groupOf (groupStep {} 90000 (.expire {} 300) (groupStep {} 10 (.create 1 2 (planFor "svip" 1) .order)
      (groupStep {} 0 (.create 1 1 (planFor "vip" 30) .order) newUser))) 1 = some "svip" ∧
    (((groupStep {} 90000 (.expire {} 300) (groupStep {} 10 (.create 1 2 (planFor "svip" 1) .order)
      (groupStep {} 0 (.create 1 1 (planFor "vip" 30) .order) newUser))).upgradedSubscriptions 1).filter
        fun r => r.2.status = .active && r.2.endTime > 90000).map (·.2.upgradeGroup) = ["vip"] := ⟨rfl, rfl⟩

/-! ### The group afterwards -/

def Upgrading (u : Int) (sub : UserSubscription) : Prop := sub.userId = u ∧ sub.upgradeGroup ≠ ""

def LeadsBack (g₀ : String) (sub : UserSubscription) : Prop :=
  trimSpace sub.upgradeGroup = sub.upgradeGroup ∧
    (sub.upgradeGroup = g₀ ∧ sub.prevUserGroup = "" ∨ sub.upgradeGroup ≠ g₀ ∧ sub.prevUserGroup = g₀)

/-- The user has the upgrading subscription `sub`. -/
def Held (x : DB) (u id : Int) (sub : UserSubscription) : Prop := x.subscriptions.row id = some sub ∧ Upgrading u sub

/-- The group is `g₀`, or that of an active subscription among `P`. -/
def GrantedBy (P : Int → UserSubscription → Prop) (g₀ g : String) : Prop :=
  g = g₀ ∨ ∃ id sub, P id sub ∧ sub.status = .active ∧ sub.upgradeGroup = g

structure Restorable (g₀ : String) (u now : Int) (x : DB) : Prop where
  group : ∃ g, groupOf x u = some g ∧ GrantedBy (Held x u) g₀ g
  leadsBack : ∀ {id sub}, Held x u id sub → LeadsBack g₀ sub
  single : ∀ {id sub id' sub'}, Held x u id sub → sub.status = .active → Held x u id' sub' →
    sub'.status = .active → id = id'
  ended : ∀ {id sub}, Held x u id sub → sub.status = .expired → sub.endTime ≤ now
  endsLater : ∀ {id sub id' sub'}, Held x u id sub → sub.status = .active → Held x u id' sub' →
    sub'.status = .expired → sub'.endTime < sub.endTime

/-- An upgrading subscription is created only for a user who has no other active one. -/
def CreatesAlone (u : Int) (_now : Int) (x : DB) : GroupCall → Prop
  | .create userId _ plan _ => userId = u → trimSpace plan.upgradeGroup ≠ "" →
    ∀ id sub, x.subscriptions.row id = some sub → Upgrading u sub → sub.status ≠ .active
  | _ => True

section Restored

variable {g₀ : String} {id : Int}

attribute [local irreducible] trimSpace latestEnding calcPlanEndTime

lemma GrantedBy.mono {P P' : Int → UserSubscription → Prop} (h : GrantedBy P g₀ g)
    (hP : ∀ {id sub}, P id sub → sub.status = .active → sub.upgradeGroup = g → P' id sub) : GrantedBy P' g₀ g := by
  refine h.imp_right ?_
  rintro ⟨id, sub, hsub, hact, hg⟩
  exact ⟨id, sub, hP hsub hact hg, hact, hg⟩

variable (h : Restorable g₀ u now x)

include h

lemma Restorable.of_rows (hgroup : ∃ g, groupOf y u = some g ∧ GrantedBy (Held y u) g₀ g)
    (hback : ∀ {j sub}, Held y u j sub → LeadsBack g₀ sub)
    (hold : ∀ {j sub}, Held y u j sub → sub.status = .active ∨ sub.status = .expired → Held x u j sub) :
    Restorable g₀ u now y where
  group := hgroup
  leadsBack := hback
  single hj hact hj' hact' := h.single (hold hj (.inl hact)) hact (hold hj' (.inl hact')) hact'
  ended hj hexp := h.ended (hold hj (.inr hexp)) hexp
  endsLater hj hact hj' hexp := h.endsLater (hold hj (.inl hact)) hact (hold hj' (.inr hexp)) hexp

lemma Restorable.later (hle : now ≤ now') : Restorable g₀ u now' x :=
  { h with ended := fun hj hexp => (h.ended hj hexp).trans hle }

lemma Restorable.of_same (hgroup : groupOf y u = groupOf x u)
    (hrows : ∀ id sub, Held y u id sub ↔ Held x u id sub) : Restorable g₀ u now y := by
  obtain ⟨g, hg, hgranted⟩ := h.group
  exact h.of_rows ⟨g, hgroup.trans hg, hgranted.mono fun hj _ _ => (hrows _ _).mpr hj⟩
    (fun hj => h.leadsBack ((hrows _ _).mp hj)) fun hj _ => (hrows _ _).mp hj

lemma Restorable.groupOf_eq (hnone : ∀ {id sub}, Held x u id sub → sub.status ≠ .active) : groupOf x u = some g₀ := by
  obtain ⟨g, hg, rfl | ⟨id, sub, hj, hact, -⟩⟩ := h.group
  · exact hg
  · exact absurd hact (hnone hj)

omit h in
lemma LeadsBack.reverted (h : LeadsBack g₀ sub) (hup : sub.upgradeGroup ≠ "") (hne : g₀ ≠ "")
    (htrim : trimSpace g₀ = g₀) :
    revertedGroup sub g = if g = sub.upgradeGroup then g₀ else g := by
  unfold revertedGroup
  rw [h.1]
  by_cases hg : g = sub.upgradeGroup
  · rw [if_pos hg]
    rcases h.2 with ⟨hsame, hprev⟩ | ⟨-, hprev⟩
    · rw [hprev, if_neg fun hc => hc.2.2 trimSpace_empty, hg, hsame]
    · rw [hprev, htrim, if_pos ⟨hg.symm, hg ▸ hup, hne⟩]
  · rw [if_neg hg, if_neg fun hc => hg hc.1.symm]

lemma Restorable.add {new : UserSubscription} (hinactive : ∀ {j sub}, Held x u j sub → sub.status ≠ .active)
    (hrow : ∀ j, y.subscriptions.row j = if j = id then some new else x.subscriptions.row j)
    (hgroup : groupOf y u = some new.upgradeGroup) (hnew : Upgrading u new) (hactive : new.status = .active)
    (hback : LeadsBack g₀ new) (hlt : now < new.endTime) : Restorable g₀ u now y := by
  have hrows : ∀ {j sub}, Held y u j sub → j = id ∧ sub = new ∨ Held x u j sub ∧ sub.status ≠ .active := by
    rintro j sub ⟨hj, hup⟩
    rw [hrow] at hj
    split at hj
    · next heq => exact .inl ⟨heq, (some.inj hj).symm⟩
    · exact .inr ⟨⟨hj, hup⟩, hinactive ⟨hj, hup⟩⟩
  have hone : ∀ {j sub}, Held y u j sub → sub.status = .active → j = id ∧ sub = new :=
    fun hj hact => (hrows hj).resolve_right fun hother => hother.2 hact
  have hold : ∀ {j sub}, Held y u j sub → sub.status = .expired → Held x u j sub := by
    intro j sub hj hexp
    rcases hrows hj with ⟨-, rfl⟩ | ⟨hj, -⟩
    · cases hactive.symm.trans hexp
    · exact hj
  constructor
  · refine ⟨new.upgradeGroup, hgroup, .inr ⟨id, new, ⟨?_, hnew⟩, hactive, rfl⟩⟩
    rw [hrow, if_pos rfl]
  · intro j sub hj
    rcases hrows hj with ⟨-, rfl⟩ | ⟨hj, -⟩
    · exact hback
    · exact h.leadsBack hj
  · exact fun hj hact hj' hact' => (hone hj hact).1.trans (hone hj' hact').1.symm
  · exact fun hj hexp => h.ended (hold hj hexp) hexp
  · intro j sub j' sub' hj hact hj' hexp
    rw [(hone hj hact).2]
    exact (h.ended (hold hj' hexp) hexp).trans_lt hlt

lemma Restorable.created (halone : CreatesAlone u now x (.create userId planId plan source))
    (hy : Created cfg now userId planId plan source x id y) : Restorable g₀ u now y := by
  obtain ⟨endTime, hend, rfl⟩ := hy.created
  have hlt := lt_of_calcPlanEndTime hend
  have hgroup : ∀ sub, groupOf ((mapGroup x userId (upgradedGroup plan)).createSubscription sub) u =
      groupOf (mapGroup x userId (upgradedGroup plan)) u := fun _ => rfl
  have hrow : ∀ sub j, ((mapGroup x userId (upgradedGroup plan)).createSubscription sub).subscriptions.row j =
      if j = x.newSubscriptionId then some sub else x.subscriptions.row j := fun _ j => row_createSubscription
  by_cases hnew : userId = u ∧ trimSpace plan.upgradeGroup ≠ ""
  · obtain ⟨rfl, hne⟩ := hnew
    have hinactive : ∀ {j sub}, Held x userId j sub → sub.status ≠ .active := fun hj => halone rfl hne _ _ hj.1 hj.2
    have hold := h.groupOf_eq hinactive
    rw [hold, getD_some]
    apply h.add hinactive (hrow _)
    · rw [hgroup, groupOf_mapGroup, if_pos rfl, hold]
      exact congrArg some (if_neg hne)
    · exact ⟨rfl, hne⟩
    · rfl
    · refine ⟨trimSpace_trimSpace _, ?_⟩
      by_cases hg : g₀ = trimSpace plan.upgradeGroup
      · exact .inl ⟨hg.symm, if_pos (.inr hg)⟩
      · exact .inr ⟨Ne.symm hg, if_neg (not_or.mpr ⟨hne, hg⟩)⟩
    · exact hlt
  · apply h.of_same
    · apply groupOf_mapGroup_eq
      intro hu g
      exact if_pos (not_not.mp fun hne => hnew ⟨hu.symm, hne⟩)
    · refine fun j sub => and_congr_left fun hup => ?_
      rw [hrow]
      split
      · next hj =>
        subst hj
        have hnone : x.subscriptions.row x.newSubscriptionId = none := x.row_newSubscriptionId
        rw [hnone]
        constructor
        · intro heq
          cases heq
          exact absurd ⟨hup.1, hup.2⟩ hnew
        · intro heq
          cases heq
      · rfl

omit h

lemma expire_cases : sub.expire v now = sub ∨ sub.expire v now = { sub with status := .expired } ∧ sub.userId = v ∧
      sub.status = .active ∧ sub.endTime ≤ now := by
  unfold UserSubscription.expire
  split
  · next hc =>
    have hover : sub.status = .active ∧ sub.endTime ≤ now := by
      simpa [UserSubscription.overdue] using hc.2
    exact .inr ⟨rfl, hc.1, hover⟩
  · exact .inl rfl

lemma lt_of_active_expire (hu : sub.userId = u) (h : (sub.expire u now).status = .active) : now < sub.endTime := by
  unfold UserSubscription.expire at h
  split at h
  · cases h
  next hc =>
  have hc : sub.status = .active → now < sub.endTime := by
    simpa [UserSubscription.overdue, hu] using hc
  exact hc h

lemma row_afterExpiry (h : Held (afterExpiry x now u) u id sub) : ∃ s, Held x u id s ∧
      (sub = s ∧ (sub.status = .active → now < s.endTime) ∨
        sub = { s with status := .expired } ∧ s.status = .active ∧ s.endTime ≤ now) := by
  obtain ⟨hrow, hup⟩ := h
  have hrow : (expireAll x now u).subscriptions.row id = some sub := hrow
  rw [row_expireAll] at hrow
  obtain ⟨s, hs, rfl⟩ := map_eq_some_iff.mp hrow
  rcases expire_cases with heq | ⟨heq, -, hact, hle⟩
  · rw [heq] at hup
    exact ⟨s, ⟨hs, hup⟩, .inl ⟨heq, lt_of_active_expire hup.1⟩⟩
  · rw [heq] at hup
    exact ⟨s, ⟨hs, hup⟩, .inr ⟨heq, hact, hle⟩⟩

section Expired

variable {id : Int} (hheld : Held (afterExpiry x now u) u id sub)

include hheld

lemma active_before_expiry (hact : sub.status = .active) : Held x u id sub ∧ now < sub.endTime := by
  obtain ⟨s, hs, ⟨rfl, hlt⟩ | ⟨rfl, -⟩⟩ := row_afterExpiry hheld
  · exact ⟨hs, hlt hact⟩
  · cases hact

omit hheld in
lemma expired_of_activeUpgrade (hnone : activeUpgrade (expireAll x now u) u now none = none)
    (hheld : Held x u id sub) (hact : sub.status = .active) :
    ∃ sub', Held (afterExpiry x now u) u id sub' ∧ sub'.endTime = sub.endTime ∧ sub'.status = .expired := by
  have hrow : (afterExpiry x now u).subscriptions.row id = some (sub.expire u now) := by
    show (expireAll x now u).subscriptions.row id = _
    rw [row_expireAll, hheld.1, map_some]
  rcases expire_cases with heq | ⟨heq, -⟩
  · rw [heq] at hrow
    have hlt := (active_before_expiry ⟨hrow, hheld.2⟩ hact).2
    cases activeUpgrade_eq_none hnone hrow ⟨hheld.2.1, hheld.2.2, hact, hlt⟩
  · rw [heq] at hrow
    exact ⟨_, ⟨hrow, hheld.2⟩, rfl, rfl⟩

variable (h : Restorable g₀ u now x)

include h

lemma Restorable.ended_afterExpiry (hexp : sub.status = .expired) : sub.endTime ≤ now := by
  obtain ⟨s, hs, ⟨rfl, -⟩ | ⟨rfl, -, hle⟩⟩ := row_afterExpiry hheld
  · exact h.ended hs hexp
  · exact hle

lemma Restorable.leadsBack_afterExpiry : LeadsBack g₀ sub := by
  obtain ⟨s, hs, ⟨rfl, -⟩ | ⟨rfl, -⟩⟩ := row_afterExpiry hheld
  · exact h.leadsBack hs
  · exact (h.leadsBack hs :)

omit hheld

lemma Restorable.upgradeGroup_of_last (hnone : activeUpgrade (expireAll x now u) u now none = none)
    (hlast : lastExpired (expireAll x now u) u = some r) (hheld : Held x u id sub) (hact : sub.status = .active) :
    sub.upgradeGroup = r.2.upgradeGroup := by
  obtain ⟨⟨hr, hru, hrup, hrexp⟩, hmax⟩ := lastExpired_eq_some hlast
  obtain ⟨sub', hheld', hend, hst⟩ := expired_of_activeUpgrade hnone hheld hact
  have hle := hmax id sub' hheld'.1 hheld'.2.1 hheld'.2.2 hst
  rw [hend] at hle
  obtain ⟨s, hs, ⟨heq, -⟩ | ⟨heq, hsact, -⟩⟩ := row_afterExpiry (x := x) ⟨hr, hru, hrup⟩
  · -- one that had expired before has also ended before
    rw [heq] at hle hrexp
    exact absurd hle (not_le.mpr (h.endsLater hheld hact hs hrexp))
  · obtain rfl := h.single hheld hact hs hsact
    obtain rfl := some.inj (hheld.1.symm.trans hs.1)
    rw [heq]

variable (hne : g₀ ≠ "") (htrim : trimSpace g₀ = g₀)

include hne htrim

lemma Restorable.restoredGroup_eq (hnone : activeUpgrade (expireAll x now u) u now none = none)
    (hgranted : GrantedBy (Held x u) g₀ g) : restoredGroup (expireAll x now u) now u g = g₀ := by
  unfold restoredGroup
  rw [if_pos hnone]
  cases hlast : lastExpired (expireAll x now u) u with
  | none =>
    rcases hgranted with rfl | ⟨id, sub, hheld, hact, -⟩
    · rfl
    obtain ⟨sub', hheld', -, hst⟩ := expired_of_activeUpgrade hnone hheld hact
    have hnil := latestEnding_eq_none hlast
    rw [filter_eq_nil_iff] at hnil
    exact absurd (decide_eq_true hst) (hnil (id, sub') (mem_upgradedSubscriptions.mpr hheld'))
  | some r =>
    obtain ⟨⟨hr, hru, hrup, -⟩, -⟩ := lastExpired_eq_some hlast
    have hback : LeadsBack g₀ r.2 := h.leadsBack_afterExpiry ⟨hr, hru, hrup⟩
    show revertedGroup r.2 g = g₀
    rw [hback.reverted hrup hne htrim]
    rcases hgranted with rfl | ⟨id, sub, hheld, hact, rfl⟩
    · rw [ite_self]
    · rw [if_pos (h.upgradeGroup_of_last hnone hlast hheld hact)]

lemma Restorable.group_afterExpiry : ∃ g, groupOf (afterExpiry x now u) u = some g ∧
      GrantedBy (Held (afterExpiry x now u) u) g₀ g := by
  obtain ⟨g, hg, hgranted⟩ := h.group
  have hgroup : groupOf (afterExpiry x now u) u = some (restoredGroup (expireAll x now u) now u g) := by
    unfold afterExpiry
    rw [groupOf_mapGroup, if_pos rfl]
    exact (congrArg (Option.map _) hg).trans rfl
  refine ⟨_, hgroup, ?_⟩
  cases hact : activeUpgrade (expireAll x now u) u now none with
  | none => exact .inl (h.restoredGroup_eq hne htrim hact hgranted)
  | some r =>
    unfold restoredGroup
    rw [hact, if_neg (some_ne_none r)]
    obtain ⟨hr, hup, -⟩ := activeUpgrade_eq_some hact
    have hheld : Held (afterExpiry x now u) u r.1 r.2 := ⟨hr, hup.1, hup.2.1⟩
    have hbefore := (active_before_expiry hheld hup.2.2.1).1
    refine hgranted.mono fun hsub hsubact _ => ?_
    obtain rfl := h.single hsub hsubact hbefore hup.2.2.1
    obtain rfl := some.inj (hsub.1.symm.trans hbefore.1)
    exact hheld

lemma Restorable.expired_self : Restorable g₀ u now (afterExpiry x now u) where
  group := h.group_afterExpiry hne htrim
  leadsBack hj := h.leadsBack_afterExpiry hj
  single hj hact hj' hact' := h.single (active_before_expiry hj hact).1 hact (active_before_expiry hj' hact').1 hact'
  ended hj hexp := h.ended_afterExpiry hj hexp
  endsLater hj hact hj' hexp := (h.ended_afterExpiry hj' hexp).trans_lt (active_before_expiry hj hact).2

end Expired

section

variable (h : Restorable g₀ u now x) (hne : g₀ ≠ "") (htrim : trimSpace g₀ = g₀)

include h hne htrim

lemma Restorable.expired (v : Int) : Restorable g₀ u now (afterExpiry x now v) := by
  by_cases hv : u = v
  · subst hv
    exact h.expired_self hne htrim
  · refine h.of_same (groupOf_mapGroup_eq (x := expireAll x now v) fun heq => absurd heq hv) fun id sub =>
      and_congr_left fun hup => ?_
    show (expireAll x now v).subscriptions.row id = _ ↔ _
    rw [row_expireAll]
    -- the subscriptions of another user are left alone
    have hother : ∀ s : UserSubscription, s.userId = u → s.expire v now = s := by
      intro s hs
      exact if_neg fun hc => hv (hs.symm.trans hc.1)
    have huser : ∀ s : UserSubscription, (s.expire v now).userId = s.userId := by
      intro s
      rcases expire_cases with heq | ⟨heq, -⟩ <;> rw [heq]
    constructor
    · intro heq
      obtain ⟨s, hs, rfl⟩ := map_eq_some_iff.mp heq
      rw [hs, hother s ((huser s).symm.trans hup.1)]
    · intro hrow
      rw [hrow, map_some, hother sub hup.1]

lemma Restorable.group_of_end (hrow : x.subscriptions.row id = some sub)
    (hz : ∀ j s, j ≠ id → z.subscriptions.row j = some s → x.subscriptions.row j = some s)
    (hgroup : groupOf z u = groupOf x u) :
    ∃ g, groupOf (mapGroup z sub.userId (downgradedGroup z now id sub)) u = some g ∧
      GrantedBy (fun j s => j ≠ id ∧ Held x u j s) g₀ g := by
  obtain ⟨g, hg, hgranted⟩ := h.group
  -- a group that is not changed is the one of another subscription, unless it was this one's
  have hother : (Upgrading u sub → sub.upgradeGroup ≠ g) → GrantedBy (fun j s => j ≠ id ∧ Held x u j s) g₀ g := by
    refine fun hsub => hgranted.mono fun hj _ hgrp => ⟨?_, hj⟩
    rintro rfl
    obtain rfl := some.inj (hrow.symm.trans hj.1)
    exact hsub hj.2 hgrp
  by_cases hu : u = sub.userId
  swap
  · refine ⟨g, ?_, hother fun hup => absurd hup.1.symm hu⟩
    rw [groupOf_mapGroup, if_neg hu, hgroup, hg]
  refine ⟨downgradedGroup z now id sub g, ?_, ?_⟩
  · rw [groupOf_mapGroup, if_pos hu, ← hu, hgroup, hg]
    rfl
  unfold downgradedGroup
  cases hact : activeUpgrade z sub.userId now (some id) with
  | some r =>
    obtain ⟨hr, hup, hrid⟩ := activeUpgrade_eq_some hact
    have hrid : r.1 ≠ id := fun heq => hrid (congrArg some heq)
    rw [← hu] at hup
    have hr : Held x u r.1 r.2 := ⟨hz r.1 r.2 hrid hr, hup.1, hup.2.1⟩
    refine hgranted.mono fun hj hact _ => ⟨?_, hj⟩
    rwa [h.single hj hact hr hup.2.2.1]
  | none =>
    rw [if_pos rfl]
    by_cases hsup : sub.upgradeGroup = ""
    · have hkeep : revertedGroup sub g = g := by
        unfold revertedGroup
        rw [hsup, trimSpace_empty]
        exact if_neg fun hc => hc.2.1 hc.1.symm
      rw [hkeep]
      exact hother fun hup => absurd hsup hup.2
    · rw [(h.leadsBack ⟨hrow, hu.symm, hsup⟩).reverted hsup hne htrim]
      split
      · exact .inl rfl
      · next hg' => exact hother fun _ hgrp => hg' hgrp.symm

lemma Restorable.endedIn (hrow : x.subscriptions.row id = some sub) (hend : EndedIn x now id sub y) :
    Restorable g₀ u now y := by
  obtain ⟨z, hz, hothers, hy⟩ := hend.group
  obtain ⟨g, hg, hgranted⟩ := h.group_of_end hne htrim hrow (fun j s hj hs => (hothers j hj).symm.trans hs) (hz u)
  have hrows : ∀ {j s}, Held y u j s → Held x u j s ∨ s = { sub with status := .cancelled, endTime := now } := by
    rintro j s ⟨hs, hup⟩
    by_cases hj : j = id
    · subst hj
      exact .inr (hend.cancelled s hs)
    · exact .inl ⟨(hend.others j hj).symm.trans hs, hup⟩
  refine h.of_rows ⟨g, (hy u).trans hg, hgranted.mono fun hj _ _ => ⟨(hend.others _ hj.1).trans hj.2.1, hj.2.2⟩⟩
    (fun hj => ?_) fun hj hst => ?_
  · rcases hrows hj with hx | rfl
    · exact h.leadsBack hx
    · have hback : LeadsBack g₀ sub := h.leadsBack ⟨hrow, hj.2⟩
      exact hback
  · rcases hrows hj with hx | rfl
    · exact hx
    · rcases hst with hst | hst <;> cases hst

lemma restorable_step {c : GroupCall}
    (hc : CreatesAlone u now x c) : Restorable g₀ u now (groupStep cfg now c x) := by
  apply groupStep_keeps h
  · rintro userId planId plan source id y rfl hy
    exact h.created hc hy
  · intro _ _ _ z v _ hz
    exact hz.expired hne htrim v
  · intro id sub y hrow hend
    exact h.endedIn hne htrim hrow hend

end

lemma restorable_run (h : Restorable g₀ u start db) (hne : g₀ ≠ "") (htrim : trimSpace g₀ = g₀)
    (hrun : GroupRun cfg (CreatesAlone u) start db t x) :
    Restorable g₀ u t x := by
  induction hrun with
  | refl => exact h
  | step _ ht hc ih => exact restorable_step (ih.later ht) hne htrim hc

end Restored

end LoveApi.Proofs
