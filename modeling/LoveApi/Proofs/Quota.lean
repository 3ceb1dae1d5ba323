import LoveApi.Quota
import LoveApi.Proofs.Database

/-!
# Concurrent changes of `users.quota`

The relative updates of `increaseUserQuota` and `decreaseUserQuota` never lose each other. `inviteUser` and
`transferAffQuotaToQuota` save whole rows and undo what was written in between.
-/

namespace LoveApi.Proofs

open Program Prog List Option

variable {A : Req → List (Option String) → DB → Prop} {cfg : Config} {n : Int} {db : DB} {memo : Option TaskMovement}

@[simp] lemma note_none (db : DB) : db.note none = db := by
  simp [DB.note]

section Calls

variable {id : Int} {Q : Unit → DB → Prop} {E : String → DB → Prop}
variable {balance : Int}

lemma wpE_syncUserQuotaCacheFromDB (hQ : Q () db) : wpE server A (syncUserQuotaCacheFromDB cfg id) Q E db := by
  unfold syncUserQuotaCacheFromDB
  by_cases hr : cfg.redisEnabled
  · rw [if_pos hr, wpE_bind, wpE_attempt]
    exact wpE_exec_ok rfl hQ fun _ => hQ
  · rw [if_neg hr]
    exact hQ

section Issues

variable {P : Req → Prop}

-- In the walk through a function's text `grind` splits its branches, and the lemmas about the functions that it calls
-- stand for their bodies.
@[grind ←]
lemma issues_syncUserQuotaCacheFromDB (h : P (.stmt (.selectQuota id))) :
    (syncUserQuotaCacheFromDB cfg id).run.Issues P := by
  unfold syncUserQuotaCacheFromDB
  grind

@[grind ←]
lemma issues_increaseUserQuota (hread : P (.stmt (.selectQuota id)))
    (h : 0 ≤ n → P (.stmt (.increaseUserQuota id n memo))) : (increaseUserQuota cfg id n true memo).run.Issues P := by
  unfold increaseUserQuota
  grind

@[grind ←]
lemma issues_decreaseUserQuota (hread : P (.stmt (.selectQuota id))) (h : P (.stmt (.decreaseUserQuota id n memo))) :
    (decreaseUserQuota cfg id n true memo).run.Issues P := by
  unfold decreaseUserQuota Sql.decreaseUserQuota
  grind

@[grind ←]
lemma issues_increaseTokenQuota (hrecord : P (.stmt (.addNewRecord .tokenQuota id n memo)))
    (h : P (.stmt (.increaseTokenQuota id n memo))) : (increaseTokenQuota cfg id n memo).run.Issues P := by
  unfold increaseTokenQuota
  grind

@[grind ←]
lemma issues_decreaseTokenQuota (hrecord : P (.stmt (.addNewRecord .tokenQuota id (-n) memo)))
    (h : P (.stmt (.decreaseTokenQuota id n memo))) : (decreaseTokenQuota cfg id n memo).run.Issues P := by
  unfold decreaseTokenQuota
  grind

@[grind ←]
lemma issues_updateUserUsedQuotaAndRequestCount (hused : P (.stmt (.addNewRecord .usedQuota id n none)))
    (hcount : P (.stmt (.addNewRecord .requestCount id 1 none)))
    (h : P (.stmt (.updateUserUsedQuotaAndRequestCount id n 1))) :
    (updateUserUsedQuotaAndRequestCount cfg id n).run.Issues P := by
  unfold updateUserUsedQuotaAndRequestCount
  grind

end Issues

lemma wpE_increaseUserQuota (hQ : 0 ≤ n → Q () ((db.addUserQuota id n).note memo)) (hE : ∀ e, E e db) :
    wpE server A (increaseUserQuota cfg id n true memo) Q E db := by
  unfold increaseUserQuota
  by_cases hn : n < 0
  · rw [if_pos hn]
    exact hE _
  · rw [if_neg hn]
    refine (wpE_bind ..).mpr (wpE_exec_ok rfl ?_ hE)
    exact wpE_syncUserQuotaCacheFromDB (hQ (by omega))

lemma wpE_increaseUserQuota_of_nil (hA : ∀ φs, A (.stmt (.increaseUserQuota id n memo)) φs db → φs = []) (hn : 0 ≤ n)
    (hQ : Q () ((db.addUserQuota id n).note memo)) :
    wpE server A (increaseUserQuota cfg id n true memo) Q E db := by
  unfold increaseUserQuota
  rw [if_neg (by omega)]
  apply (wpE_bind ..).mpr
  apply wpE_exec_step_of_nil hA rfl
  exact wpE_syncUserQuotaCacheFromDB hQ

lemma wpE_decreaseUserQuota (hQ : 0 ≤ n → ∀ u, db.users.row id = some u → n ≤ u.quota →
      Q () ((db.addUserQuota id (-n)).note memo))
    (hE : ∀ e, E e db) : wpE server A (decreaseUserQuota cfg id n true memo) Q E db := by
  unfold decreaseUserQuota Sql.decreaseUserQuota
  by_cases hn : n < 0
  · rw [if_pos hn]
    exact hE _
  · rw [if_neg hn]
    refine (wpE_bind ..).mpr ((wpE_bind ..).mpr (wpE_exec (fun r db' hs => ?_) hE))
    simp only [Stmt.step] at hs
    split at hs
    · next hguard =>
      obtain ⟨u, hu, hq⟩ := (any_eq_true _ _).mp hguard
      obtain ⟨rfl, rfl⟩ := hs
      exact wpE_syncUserQuotaCacheFromDB (hQ (by omega) u hu (by simpa using hq))
    · obtain ⟨rfl, rfl⟩ := hs
      exact hE _

lemma wpE_decreaseUserQuota_of_ok (hA : ∀ φs, A (.stmt (.decreaseUserQuota id n memo)) φs db → φs.headD none = none)
    (hb : (db.users.row id).map User.quota = some balance) (hn : 0 ≤ n)
    (hQ : n ≤ balance → Q () ((db.addUserQuota id (-n)).note memo))
    (hE : balance < n → ∀ e, E e db) :
    wpE server A (decreaseUserQuota cfg id n true memo) Q E db := by
  obtain ⟨u, hu, rfl⟩ := map_eq_some_iff.mp hb
  unfold decreaseUserQuota Sql.decreaseUserQuota
  rw [if_neg (by omega)]
  refine (wpE_bind ..).mpr ((wpE_bind ..).mpr (wpE_exec_of_step
    (fun φs hφ => server_exec_ok (hA φs hφ)) (fun r db' hs => ?_) fun e hs => ?_))
  · simp only [Stmt.step, hu, any_some, decide_eq_true_eq] at hs
    split at hs
    · next hle =>
      obtain ⟨rfl, rfl⟩ := hs
      exact wpE_syncUserQuotaCacheFromDB (hQ hle)
    · next hlt =>
      obtain ⟨rfl, rfl⟩ := hs
      exact hE (by omega) _
  · simp only [Stmt.step] at hs
    split at hs <;> simp at hs

lemma wpE_decreaseUserQuota_noFaults (hb : (db.users.row id).map User.quota = some balance) (hn : 0 ≤ n)
    (hQ : n ≤ balance → Q () ((db.addUserQuota id (-n)).note memo))
    (hE : balance < n → ∀ e, E e db) :
    wpE server noFaults (decreaseUserQuota cfg id n true memo) Q E db :=
  wpE_decreaseUserQuota_of_ok (fun φs hφ => by rw [show φs = [] from hφ]; rfl) hb hn hQ hE

def adjustToken (cfg : Config) (db : DB) (id n : Int) : DB :=
  if cfg.batchUpdateEnabled then db.addRecord .tokenQuota id n else db.addTokenQuota id n

lemma wpE_adjustToken {d : Int} {write : Action Unit} (hn : n < 0 → ∀ e, E e db)
    (hQ : 0 ≤ n → Q () ((adjustToken cfg db id d).note memo))
    (hw : Q () ((db.addTokenQuota id d).note memo) → wpE server A write Q E db) :
    wpE server A (if n < 0 then throw negativeQuota
      else if cfg.batchUpdateEnabled then exec (.addNewRecord .tokenQuota id d memo) else write) Q E db := by
  by_cases h : n < 0
  · rw [if_pos h]
    exact hn h _
  · rw [if_neg h]
    have hQ := hQ (by omega)
    by_cases hb : cfg.batchUpdateEnabled
    · rw [if_pos hb]
      rw [adjustToken, if_pos hb] at hQ
      intro φs _
      rw [server_exec_inMemory rfl]
      exact hQ
    · rw [if_neg hb]
      rw [adjustToken, if_neg hb] at hQ
      exact hw hQ

lemma wpE_increaseTokenQuota (hQ : 0 ≤ n → Q () ((adjustToken cfg db id n).note memo)) (hE : ∀ e, E e db) :
    wpE server A (increaseTokenQuota cfg id n memo) Q E db :=
  wpE_adjustToken (fun _ => hE) hQ fun hQ => wpE_exec_ok rfl hQ hE

lemma wpE_increaseTokenQuota_of_nil
    (hA : ∀ φs, A (.stmt (.increaseTokenQuota id n memo)) φs db → φs = []) (hn : 0 ≤ n)
    (hQ : Q () ((adjustToken cfg db id n).note memo)) :
    wpE server A (increaseTokenQuota cfg id n memo) Q E db :=
  wpE_adjustToken (fun h => by omega) (fun _ => hQ) (wpE_exec_step_of_nil hA rfl)

lemma wpE_decreaseTokenQuota (hQ : 0 ≤ n → Q () ((adjustToken cfg db id (-n)).note memo)) (hE : ∀ e, E e db) :
    wpE server A (decreaseTokenQuota cfg id n memo) Q E db :=
  wpE_adjustToken (fun _ => hE) hQ fun hQ => wpE_exec_ok rfl hQ hE

end Calls

section Threads

variable {M : Type} [AddCommMonoid M] {I : DB → M → Prop} {G : M → Req → DB → DB → M → Prop} {g : M} {id : Int}
  {Q : Except String Unit → M → Prop}

lemma safe_syncUserQuotaCacheFromDB (hG : ∀ g req x, G g req x x g) (hQ : Q (.ok ()) g) :
    Safe server A I G (syncUserQuotaCacheFromDB cfg id).run Q g := by
  unfold syncUserQuotaCacheFromDB
  by_cases hr : cfg.redisEnabled
  · rw [if_pos hr]
    refine Safe.bind_run (Safe.bind ?_)
    exact safe_read (fun _ => rfl) (hG g _) (fun _ _ _ => ⟨by simp, fun _ _ => hQ⟩) fun _ => ⟨by simp, fun _ _ => hQ⟩
  · rw [if_neg hr]
    exact Safe.ret hQ

lemma safe_increaseUserQuota (hG : ∀ g req x, G g req x x g)
    (h : 0 ≤ n → ∀ φs x rest, A (.stmt (.increaseUserQuota id n memo)) φs x → I x (g + rest) →
      ∃ g', G g (.stmt (.increaseUserQuota id n memo)) x ((x.addUserQuota id n).note memo) g' ∧
        I ((x.addUserQuota id n).note memo) (g' + rest) ∧ Q (.ok ()) g')
    (hE : ∀ e, (0 ≤ n → ∃ φs x, A (.stmt (.increaseUserQuota id n memo)) φs x ∧ φs ≠ []) → Q (.error e) g) :
    Safe server A I G (increaseUserQuota cfg id n true memo).run Q g := by
  unfold increaseUserQuota
  by_cases hn : n < 0
  · rw [if_pos hn]
    exact Safe.ret (hE _ fun h => by omega)
  · rw [if_neg hn]
    refine Safe.bind_run (safe_exec_of_fault (fun φs x rest hA hI => ?_) (hG g _) fun φs x e hA hφ => ?_)
    · obtain ⟨g', hG', hI', hQ⟩ := h (by omega) φs x rest hA hI
      refine ⟨g', hG', hI', fun e he => by simp [Stmt.step] at he, fun _ _ => ?_⟩
      exact safe_syncUserQuotaCacheFromDB hG hQ
    · exact ⟨fun e' _ => hE e' fun _ => ⟨φs, x, hA, hφ⟩, fun _ he => by simp at he⟩

lemma safe_decreaseUserQuota (hG : ∀ g req x, G g req x x g)
    (h : 0 ≤ n → ∀ φs x rest u, A (.stmt (.decreaseUserQuota id n memo)) φs x → I x (g + rest) →
      x.users.row id = some u → n ≤ u.quota →
      ∃ g', G g (.stmt (.decreaseUserQuota id n memo)) x ((x.addUserQuota id (-n)).note memo) g' ∧
        I ((x.addUserQuota id (-n)).note memo) (g' + rest) ∧ Q (.ok ()) g')
    (hE : ∀ e, Q (.error e) g) :
    Safe server A I G (decreaseUserQuota cfg id n true memo).run Q g := by
  unfold decreaseUserQuota
  by_cases hn : n < 0
  · rw [if_pos hn]
    exact Safe.ret (hE _)
  · rw [if_neg hn]
    refine Safe.bind_run (Safe.bind_run (safe_exec (fun φs x rest hA hI => ?_) (hG g _) fun e => ?_))
    · simp only [Stmt.step]
      split
      · next hguard =>
        obtain ⟨u, hu, hq⟩ := (any_eq_true _ _).mp hguard
        obtain ⟨g', hG', hI', hQ⟩ := h (by omega) φs x rest u hA hI hu (by simpa using hq)
        refine ⟨g', hG', hI', by simp, fun rows hr => ?_⟩
        cases hr
        exact Safe.ret ⟨by simp, fun _ _ => safe_syncUserQuotaCacheFromDB hG hQ⟩
      · refine ⟨g, hG g _ x, hI, by simp, fun rows hr => ?_⟩
        cases hr
        exact Safe.ret ⟨fun e _ => hE e, by simp⟩
    · exact ⟨fun _ _ => ⟨fun e _ => hE e, by simp⟩, by simp⟩

end Threads

/-- A call that writes the quota of a user. -/
inductive QuotaCall
  | increase (quota : Int)
  | decrease (quota : Int)
  | invite
  | transfer (quota : Int)
deriving DecidableEq, Repr

namespace QuotaCall

def run (cfg : Config) (id : Int) : QuotaCall → Action Unit
  | increase quota => increaseUserQuota cfg id quota true
  | decrease quota => decreaseUserQuota cfg id quota true
  | invite => inviteUser cfg id
  | transfer quota => transferAffQuotaToQuota cfg id quota

def added : QuotaCall → Int
  | increase quota => quota
  | decrease quota => -quota
  | invite => 0
  | transfer quota => quota

/-- What a call has added, by its answer. -/
def effect (call : QuotaCall) : Except String Unit → Int
  | .ok _ => call.added
  | .error _ => 0

end QuotaCall

def userQuota (id : Int) (db : DB) : Option Int := (db.users.row id).map User.quota

def FreshSave (id : Int) (call : QuotaCall) : Req → List (Option String) → DB → Prop
  | .stmt (.saveUser j user), _, db => j = id → userQuota id db = some (user.quota - call.added)
  | _, _, _ => True

def QuotaIs (id q₀ : Int) (db : DB) (g : Int) : Prop := userQuota id db = some (q₀ + g)

@[simp] lemma userQuota_note (id : Int) (db : DB) (memo : Option TaskMovement) :
    userQuota id (db.note memo) = userQuota id db := rfl

@[simp] lemma userQuota_addUserQuota (id n : Int) (db : DB) :
    userQuota id (db.addUserQuota id n) = (userQuota id db).map (· + n) := by
  unfold userQuota DB.addUserQuota
  rw [Table.row_update_self]
  cases db.users.row id <;> rfl

def Free {M : Type} : M → Req → DB → DB → M → Prop := fun _ _ _ _ _ => True

section LostUpdates

variable {id q₀ : Int}

lemma safe_saveUser {call : QuotaCall} {user : User} :
    Safe server (FreshSave id call) (QuotaIs id q₀) Free (exec (.saveUser id user)).run
      (fun r g => g = call.effect r) 0 := by
  refine safe_exec (fun φs x rest hA hI => ?_) (fun _ => trivial) fun _ => rfl
  have hread : userQuota id x = some (user.quota - call.added) := hA rfl
  have hq : user.quota - call.added = q₀ + (0 + rest) := some.inj (hread.symm.trans hI)
  refine ⟨call.added, trivial, ?_, rfl⟩
  obtain ⟨u, hu, -⟩ := map_eq_some_iff.mp hI
  show (Option.map User.quota _) = _
  simp only [Stmt.step, Table.row_update_self, hu, map_some, some.injEq]
  omega

lemma safe_inviteUser : Safe server (FreshSave id .invite) (QuotaIs id q₀) Free
    (inviteUser cfg id).run (fun r g => g = QuotaCall.invite.effect r) 0 := by
  unfold inviteUser getUserById
  refine Safe.bind_run ?_
  by_cases hid : id = 0
  · rw [if_pos hid]
    exact Safe.ret ⟨fun _ _ => rfl, by simp⟩
  · rw [if_neg hid]
    refine safe_read (fun _ => rfl) (fun _ => trivial) (fun _ _ _ => ⟨fun _ _ => rfl, ?_⟩)
      fun _ => ⟨fun _ _ => rfl, by simp⟩
    exact fun user _ => safe_saveUser

lemma safe_transferAffQuotaToQuota {n : Int} : Safe server (FreshSave id (.transfer n)) (QuotaIs id q₀) Free
      (transferAffQuotaToQuota cfg id n).run (fun r g => g = (QuotaCall.transfer n).effect r) 0 := by
  unfold transferAffQuotaToQuota
  by_cases hn : (n : ℚ) < cfg.quotaPerUnit
  · rw [if_pos hn]
    exact Safe.ret rfl
  · rw [if_neg hn]
    refine Safe.bind_run (safe_read (fun _ => rfl) (fun _ => trivial)
      (fun _ _ _ => ⟨fun _ _ => rfl, fun _ _ => ?_⟩) fun _ => ⟨fun _ _ => rfl, by simp⟩)
    refine Safe.bind_run (safe_read (fun _ => rfl) (fun _ => trivial)
      (fun _ _ _ => ⟨fun _ _ => rfl, fun user _ => ?_⟩) fun _ => ⟨fun _ _ => rfl, by simp⟩)
    by_cases ha : user.affQuota < n
    · rw [if_pos ha]
      exact Safe.ret rfl
    · rw [if_neg ha]
      exact safe_saveUser

lemma safe_quotaCall {call : QuotaCall} : Safe server (FreshSave id call) (QuotaIs id q₀) Free (call.run cfg id).run
      (fun r g => g = call.effect r) 0 := by
  cases call with
  | increase n =>
    refine safe_increaseUserQuota (fun _ _ _ => trivial) (fun _ φs x rest _ hI => ?_) fun _ _ => rfl
    refine ⟨n, trivial, ?_, rfl⟩
    have hI : userQuota id x = some (q₀ + (0 + rest)) := hI
    simp only [QuotaIs, userQuota_note, userQuota_addUserQuota, hI, map_some, some.injEq]
    omega
  | decrease n =>
    refine safe_decreaseUserQuota (fun _ _ _ => trivial) (fun _ φs x rest u _ hI _ _ => ?_) fun _ => rfl
    refine ⟨-n, trivial, ?_, rfl⟩
    have hI : userQuota id x = some (q₀ + (0 + rest)) := hI
    simp only [QuotaIs, userQuota_note, userQuota_addUserQuota, hI, map_some, some.injEq]
    omega
  | invite => exact safe_inviteUser
  | transfer n => exact safe_transferAffQuotaToQuota

def quotaThreads (cfg : Config) (id : Int) (calls : List QuotaCall) :
    List (Prog Req Req.Resp (Except String Unit)) :=
  calls.map fun call => (call.run cfg id).run

/-- Every save finds the quota that its call has read. -/
def FreshSaves (id : Int) (calls : List QuotaCall) (i : Nat) (req : Req)
    (φs : List (Option String)) (db : DB) : Prop :=
  ∀ call ∈ calls[i]?, FreshSave id call req φs db

lemma shares_quotaThreads {calls : List QuotaCall} (h : userQuota id db = some q₀) :
    Shares server (FreshSaves id calls) (QuotaIs id q₀) Free
      (fun i r g => ∀ call ∈ calls[i]?, g = call.effect r) (quotaThreads cfg id calls, db)
      ((quotaThreads cfg id calls).map fun _ => 0) := by
  refine Shares.init (by simpa [QuotaIs] using h) fun i p hp => ?_
  obtain ⟨call, hc, rfl⟩ := map_eq_some_iff.mp (getElem?_map ▸ hp)
  have hs : FreshSaves id calls i = FreshSave id call := by
    funext req φs x
    simp [FreshSaves, hc]
  rw [hs]
  refine (safe_quotaCall).mono fun r g hr call' hc' => ?_
  obtain rfl : call = call' := some.inj (hc.symm.trans hc')
  exact hr

/-- No quota update is lost in a run whose full-row saves all find the quota they read: once
every call has returned, the quota is the initial one plus what the calls report. -/
theorem userQuota_eq_sum_of_freshSaves {calls : List QuotaCall} {db : DB}
    {sched : List (Nat × List (Option String))} {results : List (Except String Unit)}
    (h₀ : userQuota id db = some q₀)
    (hA : Pool.Meets server (FreshSaves id calls) sched (quotaThreads cfg id calls, db))
    (hr : Pool.Returned (Pool.run server sched (quotaThreads cfg id calls, db)) results) :
    userQuota id (Pool.run server sched (quotaThreads cfg id calls, db)).2 =
      some (q₀ + (List.zipWith QuotaCall.effect calls results).sum) := by
  obtain ⟨gs, hs, hlen⟩ := (@shares_quotaThreads cfg db id q₀ calls h₀).run hA
  have hgs : gs = zipWith QuotaCall.effect calls results :=
    hs.eq_zipWith hr (by simpa [quotaThreads] using hlen)
  rw [← hgs]
  exact hs.inv

theorem userQuota_invite_then_decrease :
    userQuota 1 (Pool.run server [(0, []), (0, []), (1, [])] (quotaThreads {} 1 [.invite, .decrease 40],
      { users := Table.empty.insert 1 { quota := 100 } })).2 = some (100 + (0 + (-40 + 0))) := by
  have hreturned : Pool.Returned (Pool.run server [(0, []), (0, []), (1, [])]
      (quotaThreads {} 1 [.invite, .decrease 40], { users := Table.empty.insert 1 { quota := 100 } }))
      [.ok (), .ok ()] := rfl
  refine userQuota_eq_sum_of_freshSaves rfl ?_ hreturned
  refine Pool.meets_step _ rfl (fun _ _ => trivial) (Pool.meets_step _ rfl (fun call hc => ?_)
    (Pool.meets_step _ rfl (fun _ _ => trivial) Pool.meets_nil))
  cases hc
  exact fun _ => rfl

end LostUpdates

/-- The save of an invitation writes back the quota from before a charge. -/
theorem inviteUser_undoes_decrease :
    let calls := [QuotaCall.invite, QuotaCall.decrease 40]
    let db : DB := { users := Table.empty.insert 1 { quota := 100 } }
    let c := Pool.run server [(0, []), (1, []), (0, [])] (quotaThreads {} 1 calls, db)
    Pool.Returned c [.ok (), .ok ()] ∧ userQuota 1 c.2 = some 100 ∧
      some 100 ≠ some ((100 : Int) + (List.zipWith QuotaCall.effect calls [.ok (), .ok ()]).sum) := by
  refine ⟨rfl, rfl, by decide⟩

section QuotaCache

variable {id : Int} {s s' : QuotaStore} {calls : List QuotaSync} {i : Nat} {c c' : QuotaSync}

def storedQuota (id : Int) (s : QuotaStore) : Int := (s.db.users.row id).elim 0 User.quota

/-- A cached quota is the stored one. -/
def CacheAgrees (id : Int) (s : QuotaStore) : Prop := ∀ quota ∈ s.cached, quota = storedQuota id s
deriving Decidable

/-- The quota a call has read and is going to write. -/
def held : QuotaSync → Option Int
  | .ttl quota | .hset quota => some quota
  | _ => none

def HeldCurrent (id : Int) (x : QuotaStore × List QuotaSync) : Prop :=
  ∀ c ∈ x.2, ∀ quota ∈ held c, quota = storedQuota id x.1
deriving Decidable

/-- A call reads the quota back only while no call holds an outdated one. -/
def ReadsCurrent (id : Int) : List Nat → QuotaStore × List QuotaSync → Prop
  | [], _ => True
  | i :: sched, x => (x.2[i]? = some .readBack → HeldCurrent id x) ∧
      ReadsCurrent id sched (((quotaSystem id).step i x).getD x)

instance : ∀ sched x, Decidable (ReadsCurrent id sched x)
  | [], _ => inferInstanceAs (Decidable True)
  | _ :: sched, _ =>
    have := fun x => instDecidableReadsCurrent sched x
    inferInstanceAs (Decidable (_ ∧ _))

def Converging (id : Int) (x : QuotaStore × List QuotaSync) : Prop :=
  .readBack ∈ x.2 ∨ HeldCurrent id x ∧ (CacheAgrees id x.1 ∨ ∃ c ∈ x.2, (held c).isSome)

lemma Converging.set (h : Converging id (s, calls)) (hc : calls[i]? = some c) (hread : c ≠ .readBack)
    (hquota : storedQuota id s' = storedQuota id s) (hheld : ∀ quota ∈ held c', quota ∈ held c)
    (hcache : (∀ quota ∈ held c, quota = storedQuota id s) → CacheAgrees id s ∨ (held c).isSome →
      CacheAgrees id s' ∨ (held c').isSome) : Converging id (s', calls.set i c') := by
  have hmem := mem_of_getElem? hc
  have hi : c' ∈ calls.set i c' := mem_set (List.getElem?_eq_some_iff.mp hc).1 _
  rcases h with h | ⟨hcurrent, h⟩
  · exact .inl (mem_set_of_getElem? hc h hread.symm)
  · refine .inr ⟨?_, ?_⟩
    · refine forall_mem_set hcurrent (fun d hd quota hq => (hd quota hq).trans hquota.symm) fun quota hq => ?_
      exact (hcurrent c hmem quota (hheld quota hq)).trans hquota.symm
    · by_cases hd : ∃ d ∈ calls, d ≠ c ∧ (held d).isSome
      · obtain ⟨d, hd, hne, hsome⟩ := hd
        exact .inr ⟨d, mem_set_of_getElem? hc hd hne, hsome⟩
      · refine (hcache (hcurrent c hmem) (h.imp_right fun ⟨d, hmem, hsome⟩ => ?_)).imp_right fun h => ⟨c', hi, h⟩
        obtain rfl : d = c := by_contra fun hne => hd ⟨d, hmem, hne, hsome⟩
        exact hsome

lemma Converging.finish (h : Converging id (s, calls)) (hc : calls[i]? = some c) (hread : c ≠ .readBack)
    (hheld : held c = none) : Converging id (s, calls.set i .finished) :=
  h.set hc hread rfl nofun fun _ h => .inl (h.resolve_right (by simp [hheld]))

lemma converging_step {x y : QuotaStore × List QuotaSync} (hstep : (quotaSystem id).step i x = some y)
    (hread : x.2[i]? = some .readBack → HeldCurrent id x) (h : Converging id x) : Converging id y := by
  obtain ⟨c, c', s, hc, hnext, rfl⟩ := interleave_cases hstep
  obtain ⟨s₀, calls⟩ := x
  have hi : c' ∈ calls.set i c' := mem_set (List.getElem?_eq_some_iff.mp hc).1 _
  cases c with
  | increase quota =>
    simp only [QuotaSync.next] at hnext
    split at hnext
    · cases hnext
      exact h.finish hc (by simp) rfl
    · cases hnext
      exact .inl hi
  | decrease quota =>
    simp only [QuotaSync.next, Stmt.step] at hnext
    split at hnext
    · cases hnext
      exact h.finish hc (by simp) rfl
    · by_cases hrow : (s₀.db.users.row id).any fun u => u.quota ≥ quota
      · rw [if_pos hrow] at hnext
        cases hnext
        exact .inl hi
      · rw [if_neg hrow] at hnext
        cases hnext
        exact h.finish hc (by simp) rfl
  | readBack =>
    cases hnext
    refine .inr ⟨?_, .inr ⟨_, hi, rfl⟩⟩
    exact forall_mem_set (hread hc) (fun _ h => h) fun quota hq => (some.inj hq).symm
  | ttl quota =>
    cases hnext
    cases hcached : s₀.cached with
    | none => exact h.set hc (by simp) rfl (by simp [held]) fun _ _ => .inl fun quota hq => by simp [hcached] at hq
    | some old => exact h.set hc (by simp) rfl (fun _ h => h) fun _ _ => .inr rfl
  | hset quota =>
    cases hnext
    exact h.set hc (by simp) rfl (by simp [held]) fun hcurrent _ => .inl hcurrent
  | finished => cases hnext

lemma converging_run {sched : List Nat} {x : QuotaStore × List QuotaSync} (hreads : ReadsCurrent id sched x)
    (h : Converging id x) : Converging id ((quotaSystem id).run sched x) := by
  induction sched generalizing x with
  | nil => exact h
  | cons i sched ih =>
    refine ih hreads.2 ?_
    cases hstep : (quotaSystem id).step i x with
    | none => exact h
    | some y => exact converging_step hstep hreads.1 h

/-- With a lock around `syncUserQuotaCacheFromDB`, for one, all reads are of this kind. -/
theorem cachedQuota_converges {sched : List Nat} (hstart : ∀ c ∈ calls, held c = none) (hagrees : CacheAgrees id s)
    (hreads : ReadsCurrent id sched (s, calls))
    (hdone : ∀ c ∈ ((quotaSystem id).run sched (s, calls)).2, c = .finished) :
    CacheAgrees id ((quotaSystem id).run sched (s, calls)).1 := by
  have hheld : HeldCurrent id (s, calls) := fun c hc quota hq => by simp [hstart c hc] at hq
  rcases converging_run hreads (.inr ⟨hheld, .inl hagrees⟩) with h | ⟨-, h | ⟨c, hc, h⟩⟩
  · cases hdone _ h
  · exact h
  · rw [hdone c hc] at h
    cases h

def cachedUser : QuotaStore where
  db := { users := Table.empty.insert 1 { quota := 10 } }
  cached := some 10

/-- The second call updates the quota between the read and the write of the first. -/
theorem cachedQuota_converges_two :
    CacheAgrees 1 ((quotaSystem 1).run [0, 0, 0, 1, 0, 1, 1, 1] (cachedUser, [.increase 5, .decrease 3])).1 := by
  exact cachedQuota_converges (by decide) (by decide) (by decide) (by decide)

/-- Two increases whose refreshes cross leave the older quota in the cache. -/
theorem cachedQuota_stale :
    let x := (quotaSystem 1).run [0, 0, 1, 1, 1, 1, 0, 0] (cachedUser, [.increase 5, .increase 3])
    (∀ c ∈ x.2, c = .finished) ∧ x.1.cached = some 15 ∧ storedQuota 1 x.1 = 18 := by
  decide

/-- The quota is cached, or a call has read it and is going to write it. -/
def Carried (quota : Int) (x : QuotaStore × List QuotaSync) : Prop := quota ∈ x.1.cached ∨ ∃ c ∈ x.2, quota ∈ held c

lemma carried_next (hnext : c.next id s = some (c', s')) :
    (∀ quota ∈ s'.cached, quota ∈ s.cached ∨ quota ∈ held c) ∧
      ∀ quota ∈ held c', quota ∈ held c ∨ quota = storedQuota id s := by
  cases c with
  | increase n | decrease n =>
    simp only [QuotaSync.next] at hnext
    repeat' split at hnext
    all_goals
      cases hnext
      exact ⟨fun _ h => .inl h, nofun⟩
  | readBack =>
    cases hnext
    exact ⟨fun _ h => .inl h, fun _ h => .inr (some.inj h).symm⟩
  | ttl n =>
    cases hnext
    refine ⟨fun _ h => .inl h, fun quota h => .inl ?_⟩
    split at h
    · exact h
    · cases h
  | hset n =>
    cases hnext
    exact ⟨fun _ h => .inr h, nofun⟩
  | finished => cases hnext

lemma carried_step {x y : QuotaStore × List QuotaSync} {quota : Int} (hstep : (quotaSystem id).step i x = some y)
    (h : Carried quota y) : Carried quota x ∨ quota = storedQuota id x.1 := by
  obtain ⟨c, c', s, hc, hnext, rfl⟩ := interleave_cases hstep
  have hmem := mem_of_getElem? hc
  rcases h with h | ⟨d, hd, hq⟩
  · exact .inl (((carried_next hnext).1 quota h).imp_right fun h => ⟨c, hmem, h⟩)
  · rcases mem_or_eq_of_mem_set hd with hd | rfl
    · exact .inl (.inr ⟨d, hd, hq⟩)
    · exact ((carried_next hnext).2 quota hq).imp_left fun h => .inr ⟨c, hmem, h⟩

/-- In every interleaving a cached quota is one that the table held at some moment of the run, or an initial one. -/
theorem cachedQuota_was_stored {x : QuotaStore × List QuotaSync} {sched : List Nat} {quota : Int}
    (h : quota ∈ ((quotaSystem id).run sched x).1.cached) :
    Carried quota x ∨ ∃ before, before <+: sched ∧ quota = storedQuota id ((quotaSystem id).run before x).1 :=
  System.run_origin (fun _ _ _ => carried_step) (.inl h)

theorem cachedQuota_was_stored_stale :
    let x : QuotaStore × List QuotaSync := (cachedUser, [.increase 5, .increase 3])
    Carried 15 x ∨
      ∃ before, before <+: [0, 0, 1, 1, 1, 1, 0, 0] ∧ 15 = storedQuota 1 ((quotaSystem 1).run before x).1 :=
  cachedQuota_was_stored (by decide)

end QuotaCache

end LoveApi.Proofs
