import Mathlib.Data.List.Dedup
import LoveApi.SubscriptionLifecycle
import LoveApi.Proofs.Subscription

/-!
# The life of a subscription: what each transaction does

Creation, expiry and the return to an earlier group, each as an exact description of the state that its transaction
leaves.
-/

namespace LoveApi.Proofs

open Program Prog Go List Option

variable {db : DB} {userId : Int} {now : Time} {Q : String → DB → Prop} {B : Stmt → Option String → DB → Prop}

-- comparing programs that differ in these would evaluate them
attribute [local irreducible] trimSpace latestEnding calcPlanEndTime

/-! ### Groups -/

section

variable {f g : String → String}

def groupOf (db : DB) (userId : Int) : Option String := (db.users.row userId).map User.group

def mapGroup (db : DB) (userId : Int) (f : String → String) : DB :=
  { db with users := db.users.update userId fun u => { u with group := f u.group } }

lemma mapGroup_congr (h : ∀ group ∈ groupOf db userId, f group = g group) :
    mapGroup db userId f = mapGroup db userId g := by
  have husers : db.users.update userId (fun u => { u with group := f u.group }) =
      db.users.update userId fun u => { u with group := g u.group } := by
    ext1
    · rfl
    · funext j
      rw [Table.row_update, Table.row_update]
      split
      · cases hu : db.users.row userId with
        | none => rfl
        | some u =>
          have hg : u.group ∈ groupOf db userId := by
            unfold groupOf
            rw [hu]
            rfl
          simp only [map_some, h u.group hg]
      · rfl
  unfold mapGroup
  rw [husers]

lemma mapGroup_eq_self (h : ∀ group ∈ groupOf db userId, f group = group) : mapGroup db userId f = db := by
  rw [mapGroup_congr h]
  unfold mapGroup
  rw [Table.update_eq_self _ _ fun _ _ => rfl]

lemma groupOf_mapGroup (v : Int) :
    groupOf (mapGroup db userId f) v = if v = userId then (groupOf db userId).map f else groupOf db v := by
  unfold groupOf mapGroup
  rw [Table.row_update]
  split
  · rw [Option.map_map, Option.map_map]
    rfl
  · rfl

lemma selectUserGroup_eq : (db.users.row userId).elim "" User.group = (groupOf db userId).getD "" := by
  unfold groupOf
  cases db.users.row userId <;> rfl

end

/-! ### The end of a subscription -/

section

variable {id : Int} {sub : UserSubscription}
variable {E : String → DB → Prop} {J : Nat → DB → Prop}

def activeUpgrade (db : DB) (userId : Int) (now : Time) (exceptId : Option Int) :
    Option (Int × UserSubscription) :=
  latestEnding ((db.upgradedSubscriptions userId).filter fun r =>
    r.2.status = .active && r.2.endTime > now && some r.1 ≠ exceptId)

def lastExpired (db : DB) (userId : Int) : Option (Int × UserSubscription) :=
  latestEnding ((db.upgradedSubscriptions userId).filter fun r => r.2.status = .expired)

def revertedGroup (sub : UserSubscription) (group : String) : String :=
  if trimSpace sub.upgradeGroup = group ∧ group ≠ "" ∧ trimSpace sub.prevUserGroup ≠ "" then
    trimSpace sub.prevUserGroup
  else group

def downgradedGroup (db : DB) (now : Time) (id : Int) (sub : UserSubscription) (group : String) : String :=
  if activeUpgrade db sub.userId now (some id) = none then revertedGroup sub group else group

def restoredGroup (db : DB) (now : Time) (userId : Int) (group : String) : String :=
  if activeUpgrade db userId now none = none then
    (lastExpired db userId).elim group fun r => revertedGroup r.2 group
  else group

lemma wpE_getUserGroupByIdTx (hQ : 0 < userId → Q ((groupOf db userId).getD "") db)
    (hE : userId ≤ 0 ∨ MayFault none B → ∀ e, E e db) :
    wpE database B (getUserGroupByIdTx userId) Q E db := by
  unfold getUserGroupByIdTx
  split
  · next h => exact hE (.inl h) _
  · next h =>
    apply wpE_query_of_mayFault
    · intro group y hs
      obtain ⟨hg, rfl⟩ := Prod.mk.inj hs
      cases hg
      rw [selectUserGroup_eq]
      exact hQ (by omega)
    · intro e hs
      simp [Stmt.step] at hs
    · intro hf
      exact hE (.inr hf)

lemma downgradedGroup_ne {g : String} (h : downgradedGroup db now id sub g ≠ g) :
    g = trimSpace sub.upgradeGroup ∧ g ≠ "" ∧ activeUpgrade db sub.userId now (some id) = none ∧
      trimSpace sub.prevUserGroup ≠ "" ∧ trimSpace sub.prevUserGroup ≠ g := by
  unfold downgradedGroup revertedGroup at h
  split at h
  · next hnone =>
    split at h
    · next hc => exact ⟨hc.1.symm, hc.2.1, hnone, hc.2.2, h⟩
    · exact absurd rfl h
  · exact absurd rfl h

lemma wpE_downgradeUserGroupForSubscriptionTx
    (hQ : ∀ target, Q target (mapGroup db sub.userId (downgradedGroup db now id sub)))
    (hE : ∀ e, E e db) :
    wpE database noFault (downgradeUserGroupForSubscriptionTx now id sub) Q E db := by
  -- where the source returns early, the description leaves the group as it is
  have hkeep : (∀ g ∈ groupOf db sub.userId, downgradedGroup db now id sub g = g) → ∀ target, Q target db := by
    intro h target
    have := hQ target
    rwa [mapGroup_eq_self h] at this
  unfold downgradeUserGroupForSubscriptionTx
  by_cases hup : trimSpace sub.upgradeGroup = ""
  · rw [if_pos hup]
    apply hkeep
    intro g _
    by_contra hne
    obtain ⟨hg, hg', -⟩ := downgradedGroup_ne hne
    exact hg' (hg.trans hup)
  rw [if_neg hup, wpE_bind]
  apply wpE_getUserGroupByIdTx _ fun _ => hE
  intro _
  by_cases hcur : (groupOf db sub.userId).getD "" = trimSpace sub.upgradeGroup
  swap
  · rw [if_pos hcur]
    apply hkeep
    intro g hg
    by_contra hne
    rw [mem_def.mp hg] at hcur
    exact hcur (downgradedGroup_ne hne).1
  rw [if_neg (not_not.mpr hcur), wpE_bind, wpE_attempt]
  have hfind : Stmt.step (.findActiveUpgrade sub.userId now (some id)) db =
      (.ok (activeUpgrade db sub.userId now (some id)), db) := rfl
  apply wpE_query_step hfind
  cases hact : activeUpgrade db sub.userId now (some id) with
  | some r =>
    apply hkeep
    intro g _
    by_contra hne
    have hnone := (downgradedGroup_ne hne).2.2.1
    rw [hact] at hnone
    cases hnone
  | none =>
    dsimp only
    split
    · next hprev =>
      apply hkeep
      intro g hg
      by_contra hne
      obtain ⟨hg', -, -, hp, hp'⟩ := downgradedGroup_ne hne
      rcases hprev with hprev | hprev
      · exact hp hprev
      · exact hp' (hprev.trans (hcur.trans hg'.symm))
    · next hprev =>
      rw [not_or] at hprev
      have heq : mapGroup db sub.userId (downgradedGroup db now id sub) =
          mapGroup db sub.userId fun _ => trimSpace sub.prevUserGroup := by
        apply mapGroup_congr
        intro g hg
        rw [mem_def.mp hg] at hcur
        have hg' : g = trimSpace sub.upgradeGroup := hcur
        unfold downgradedGroup revertedGroup
        rw [if_pos hact, if_pos ⟨hg'.symm, hg' ▸ hup, hprev.1⟩]
      have hdown := hQ (trimSpace sub.prevUserGroup)
      rw [heq] at hdown
      rw [wpE_bind]
      exact wpE_query_step rfl hdown

def expireAll (db : DB) (now : Time) (userId : Int) : DB :=
  { db with subscriptions := db.subscriptions.modify fun _ => UserSubscription.expire userId now }

def afterExpiry (db : DB) (now : Time) (userId : Int) : DB :=
  mapGroup (expireAll db now userId) userId (restoredGroup (expireAll db now userId) now userId)

lemma wpE_restoreUserGroupTx (hpos : 0 < userId) {Q : Unit → DB → Prop}
    (hQ : Q () (mapGroup db userId (revertedGroup sub))) :
    wpE database noFault (restoreUserGroupTx userId sub) Q E db := by
  have hkeep : (∀ g ∈ groupOf db userId, revertedGroup sub g = g) → Q () db := by
    intro h
    rwa [mapGroup_eq_self h] at hQ
  unfold restoreUserGroupTx
  split
  · next h =>
    apply hkeep
    intro g _
    unfold revertedGroup
    split
    · next hc =>
      rcases h with h | h
      · exact absurd (hc.1.symm.trans h) hc.2.1
      · exact absurd h hc.2.2
    · rfl
  · next h =>
    rw [not_or] at h
    rw [wpE_bind]
    apply wpE_getUserGroupByIdTx
    · intro _
      split
      · next hc =>
        apply hkeep
        intro g hg
        rw [mem_def.mp hg, getD_some] at hc
        unfold revertedGroup
        split
        · next hr =>
          rcases hc with hc | hc
          · exact absurd hr.1.symm hc
          · exact hc.symm
        · rfl
      · next hc =>
        rw [not_or, not_not] at hc
        have heq : mapGroup db userId (revertedGroup sub) =
            mapGroup db userId fun _ => trimSpace sub.prevUserGroup := by
          apply mapGroup_congr
          intro g hg
          rw [mem_def.mp hg, getD_some] at hc
          unfold revertedGroup
          rw [if_pos ⟨hc.1.symm, hc.1 ▸ h.1, h.2⟩]
        rw [heq] at hQ
        exact wpE_query_step rfl hQ
    · rintro (h | h)
      · omega
      · exact absurd h not_mayFault_noFault

lemma wpE_expireUserTx (hpos : 0 < userId) {Q : Nat → DB → Prop}
    (hQ : Q (db.subscriptions.rows.countP fun r => r.2.userId = userId && r.2.overdue now)
      (afterExpiry db now userId)) :
    wpE database noFault (expireUserTx now userId) Q E db := by
  unfold afterExpiry at hQ
  have hkeep : ∀ n x, (∀ g, restoredGroup x now userId g = g) →
      Q n (mapGroup x userId (restoredGroup x now userId)) → Q n x := by
    intro n x h hq
    rwa [mapGroup_eq_self fun g _ => h g] at hq
  unfold expireUserTx
  have hexpire : Stmt.step (.expireSubscriptions userId now) db =
      (.ok (db.subscriptions.rows.countP fun r => r.2.userId = userId && r.2.overdue now),
        expireAll db now userId) := rfl
  rw [wpE_bind]
  apply wpE_query_step hexpire
  generalize expireAll db now userId = x at hQ ⊢
  have hfind : Stmt.step (.findActiveUpgrade userId now none) x = (.ok (activeUpgrade x userId now none), x) := rfl
  rw [wpE_bind, wpE_attempt]
  apply wpE_query_step hfind
  cases hact : activeUpgrade x userId now none with
  | some r =>
    apply hkeep _ _ _ hQ
    intro g
    unfold restoredGroup
    rw [if_neg (by rw [hact]; exact some_ne_none r)]
  | none =>
    have hfindLast : Stmt.step (.findLastExpired userId) x = (.ok (lastExpired x userId), x) := rfl
    rw [wpE_bind, wpE_attempt]
    apply wpE_query_step hfindLast
    cases hlast : lastExpired x userId with
    | none =>
      apply hkeep _ _ _ hQ
      intro g
      unfold restoredGroup
      rw [if_pos hact, hlast]
      rfl
    | some r =>
      rw [wpE_bind]
      apply wpE_restoreUserGroupTx hpos
      have heq : restoredGroup x now userId = revertedGroup r.2 := by
        funext g
        unfold restoredGroup
        rw [if_pos hact, hlast]
        rfl
      rwa [heq] at hQ

lemma wpE_expireUsers (hstep : ∀ n x v, 0 < v → J n x →
      J (n + x.subscriptions.rows.countP fun r => r.2.userId = v && r.2.overdue now) (afterExpiry x now v))
    {users : List Int} (hpos : ∀ v ∈ users, 0 < v) {n : Nat} (h : J n db) :
    wpE server noFaults (users.foldlM (fun expiredCount userId => do
        let rowsAffected ← transaction (expireUserTx now userId)
        return expiredCount + rowsAffected) n) J (fun _ _ => False) db := by
  induction users generalizing n db with
  | nil => exact h
  | cons v users ih =>
    have hv := hpos v mem_cons_self
    rw [foldlM_cons, wpE_bind, wpE_bind]
    apply wpE_transaction_of_nil fun _ hφ => hφ
    apply wpE_expireUserTx hv
    exact ih (fun w hw => hpos w (mem_cons_of_mem v hw)) (hstep n db v hv h)

lemma wpE_expireDueSubscriptions (hstep : ∀ n x v, 0 < v → J n x →
      J (n + x.subscriptions.rows.countP fun r => r.2.userId = v && r.2.overdue now) (afterExpiry x now v))
    (order : MapOrder) (limit : Int) (h : J 0 db) :
    wpE server noFaults (expireDueSubscriptions now order limit) J (fun _ _ => False) db := by
  unfold expireDueSubscriptions
  rw [wpE_bind]
  apply wpE_exec_step rfl
  apply wpE_expireUsers hstep _ h
  intro v hv
  have hv := mem_dedup.mp ((order.perm _).mem_iff.mp hv)
  simpa using of_mem_filter hv

def cancelled (db : DB) (now : Time) (id : Int) : DB :=
  { db with subscriptions := db.subscriptions.update id fun sub =>
      { sub with status := .cancelled, endTime := now } }

lemma wpE_adminInvalidateTx (hQ : ∀ sub target, db.subscriptions.row id = some sub →
      Q target (mapGroup (cancelled db now id) sub.userId (downgradedGroup (cancelled db now id) now id sub))) :
    wpE database noFault (adminInvalidateTx now id) Q (fun _ _ => True) db := by
  unfold adminInvalidateTx
  rw [wpE_bind]
  refine wpE_query_first rfl (fun sub hrow => ?_) fun _ => trivial
  rw [wpE_bind]
  refine wpE_query_ok rfl ?_ fun _ => trivial
  exact wpE_downgradeUserGroupForSubscriptionTx (hQ sub · hrow) fun _ => trivial

lemma wpE_adminDeleteTx (hQ : ∀ sub target, db.subscriptions.row id = some sub →
      Q target ((mapGroup db sub.userId (downgradedGroup db now id sub)).deleteSubscription id)) :
    wpE database noFault (adminDeleteTx now id) Q (fun _ _ => True) db := by
  unfold adminDeleteTx
  rw [wpE_bind]
  refine wpE_query_first rfl (fun sub hrow => ?_) fun _ => trivial
  rw [wpE_bind]
  apply wpE_downgradeUserGroupForSubscriptionTx _ fun _ => trivial
  intro target
  rw [wpE_bind]
  refine wpE_query_ok rfl ?_ fun _ => trivial
  exact hQ sub target hrow

end

/-! ### Creation -/

section

variable {cfg : Config} {planId : Int} {plan : SubscriptionPlan} {source : SubscriptionSource}

def upgradedGroup (plan : SubscriptionPlan) (group : String) : String :=
  if trimSpace plan.upgradeGroup = "" then group else trimSpace plan.upgradeGroup

def previousGroup (plan : SubscriptionPlan) (group : String) : String :=
  if trimSpace plan.upgradeGroup = "" ∨ group = trimSpace plan.upgradeGroup then "" else group

structure Created (cfg : Config) (now : Time) (userId planId : Int) (plan : SubscriptionPlan)
    (source : SubscriptionSource) (db : DB) (id : Int) (db' : DB) : Prop where
  userId_pos : 0 < userId
  limit : 0 < plan.maxPurchasePerUser →
    ((db.subscriptions.rows.countP fun r => r.2.userId = userId && r.2.planId = planId : Nat) : Int) <
      plan.maxPurchasePerUser
  id_eq : id = db.newSubscriptionId
  created : ∃ endTime, calcPlanEndTime cfg now plan = .ok endTime ∧
    db' = (mapGroup db userId (upgradedGroup plan)).createSubscription
      (newSubscription cfg now userId planId plan source endTime
        (previousGroup plan ((groupOf db userId).getD "")))

lemma wpE_checkPurchaseLimit {Q : Unit → DB → Prop} (hQ : (0 < plan.maxPurchasePerUser →
      ((db.subscriptions.rows.countP fun r => r.2.userId = userId && r.2.planId = planId : Nat) : Int) <
        plan.maxPurchasePerUser) → Q () db) :
    wpE database B (checkPurchaseLimit userId planId plan) Q (fun _ _ => True) db := by
  unfold checkPurchaseLimit
  split
  · rw [wpE_bind]
    apply wpE_query _ fun _ => trivial
    intro count y hs
    obtain ⟨hcount, rfl⟩ := Prod.mk.inj hs
    cases hcount
    split
    · trivial
    · next hlt =>
      apply hQ
      intro _
      exact not_le.mp hlt
  · next hpos =>
    apply hQ
    intro h
    exact absurd h hpos

lemma wpE_upgradeUserGroupTx
    (hQ : Q (previousGroup plan ((groupOf db userId).getD "")) (mapGroup db userId (upgradedGroup plan))) :
    wpE database B (upgradeUserGroupTx userId (trimSpace plan.upgradeGroup)) Q (fun _ _ => True) db := by
  unfold upgradeUserGroupTx
  unfold previousGroup at hQ
  by_cases hup : trimSpace plan.upgradeGroup = ""
  · have heq : mapGroup db userId (upgradedGroup plan) = db := by
      apply mapGroup_eq_self
      intro g _
      exact if_pos hup
    rw [heq, if_pos (.inl hup)] at hQ
    rw [if_pos hup]
    exact hQ
  rw [if_neg hup, wpE_bind]
  apply wpE_getUserGroupByIdTx _ fun _ _ => trivial
  intro _
  by_cases hcur : (groupOf db userId).getD "" = trimSpace plan.upgradeGroup
  · have heq : mapGroup db userId (upgradedGroup plan) = db := by
      apply mapGroup_eq_self
      intro g hg
      rw [mem_def.mp hg] at hcur
      exact (if_neg hup).trans hcur.symm
    rw [heq, if_pos (.inr hcur)] at hQ
    rw [if_pos hcur]
    exact hQ
  · have heq : mapGroup db userId (upgradedGroup plan) = mapGroup db userId fun _ => trimSpace plan.upgradeGroup :=
      mapGroup_congr fun _ _ => if_neg hup
    rw [heq, if_neg (not_or.mpr ⟨hup, hcur⟩)] at hQ
    rw [if_neg hcur, wpE_bind]
    exact wpE_query_ok rfl hQ fun _ => trivial

lemma wpE_createUserSubscriptionFromPlanTx :
    wpE database B (createUserSubscriptionFromPlanTx cfg now userId planId plan source)
      (Created cfg now userId planId plan source db) (fun _ _ => True) db := by
  unfold createUserSubscriptionFromPlanTx
  split
  · trivial
  split
  · trivial
  next huser =>
  rw [wpE_bind]
  apply wpE_checkPurchaseLimit
  intro hlimit
  cases hend : calcPlanEndTime cfg now plan with
  | error e => trivial
  | ok endTime =>
    rw [wpE_bind]
    apply wpE_upgradeUserGroupTx
    apply wpE_query _ fun _ => trivial
    intro id y hs
    obtain ⟨hid, rfl⟩ := Prod.mk.inj hs
    exact ⟨by omega, hlimit, (Except.ok.inj hid).symm, endTime, hend, rfl⟩

end

end LoveApi.Proofs
