import LoveApi.Program.Window
import LoveApi.TwoFactor
import Mathlib.Data.List.Infix

/-!
# The limits of two-factor verification

If the verifications of a user do not overlap, no backup code is accepted twice, the row counts the wrong codes since
the last success, and the account is locked after the fifth.
-/

namespace LoveApi.Proofs

open Program Go List Option

variable {t : TwoFA} {now : Time} {events events' : List VerificationEvent}

variable {later : Time} {before : List VerificationEvent} {lib : TwoFALibraries} {db db' : TwoFADB}
  {v v' : Verification}

def lockout : Time := lockoutDuration * 10 ^ 9

def VerificationEvent.wrongTime? : VerificationEvent → Option Time
  | .wrong now => some now
  | .accepted _ => none

/-- When wrong codes were entered. -/
def wrongTimes (events : List VerificationEvent) : List Time := events.filterMap VerificationEvent.wrongTime?

/-- The backup codes that were accepted. -/
def acceptedCodes (events : List VerificationEvent) : List Int :=
  events.filterMap fun
    | .accepted id => id
    | .wrong _ => none

def NoSuccess (events : List VerificationEvent) : Prop := ∀ id, .accepted id ∉ events

/-- The verification is under way. -/
def active (v : Verification) : Bool :=
  match v.pc with
  | .start | .done _ => false
  | _ => true

/-- A row that has counted the wrong codes since the last success, and is locked if they are too many. -/
def Counts (events : List VerificationEvent) (t : TwoFA) : Prop :=
  ∀ before recent, events = before ++ recent → NoSuccess recent →
    (wrongTimes recent).length ≤ t.failedAttempts ∧
      (maxFailAttempts ≤ (wrongTimes recent).length →
        ∃ lockedUntil, t.lockedUntil = some lockedUntil ∧ ∀ w ∈ wrongTimes recent, w + lockout ≤ lockedUntil)

/-- Any six wrong codes without a success in between span a lockout. -/
def WrongSpaced (events : List VerificationEvent) : Prop :=
  ∀ before recent after, events = before ++ recent ++ after → NoSuccess recent →
    Spaced maxFailAttempts lockout (wrongTimes recent)

section Events

variable {recent : List VerificationEvent} {w : Time} {id : Option Int}

lemma wrongTimes_append :
    wrongTimes (events ++ events') = wrongTimes events ++ wrongTimes events' := filterMap_append

lemma NoSuccess.of_append (h : NoSuccess (events ++ events')) : NoSuccess events :=
  fun id hid => h id (mem_append_left _ hid)

lemma append_eq_concat {e : VerificationEvent} (h : events ++ [e] = before ++ recent) :
    recent = [] ∨ ∃ recent', recent = recent' ++ [e] ∧ events = before ++ recent' := by
  rcases eq_nil_or_concat' recent with rfl | ⟨recent', last, rfl⟩
  · exact .inl rfl
  · rw [← append_assoc] at h
    obtain ⟨hevents, hlast⟩ := append_inj' h rfl
    exact .inr ⟨recent', by rw [singleton_inj.mp hlast], hevents⟩

lemma counts_nil : Counts [] t := by
  intro before recent h _
  obtain ⟨-, rfl⟩ := append_eq_nil_iff.mp h.symm
  exact ⟨Nat.zero_le _, fun hmax => absurd hmax (by decide)⟩

lemma counts_accepted : Counts (events ++ [.accepted id]) t := by
  intro before recent h hsuccess
  rcases append_eq_concat h with rfl | ⟨recent', rfl, -⟩
  · exact ⟨Nat.zero_le _, fun hmax => absurd hmax (by decide)⟩
  · exact absurd (mem_append_right _ (mem_singleton_self _)) (hsuccess id)

lemma Counts.increment (h : Counts events t) (hpast : ∀ u ∈ wrongTimes events, u ≤ now) (hw : w ≤ now) :
    Counts (events ++ [.wrong w]) (t.incrementFailedAttempts now) := by
  intro before recent heq hsuccess
  rcases append_eq_concat heq with rfl | ⟨recent', rfl, hevents⟩
  · exact ⟨Nat.zero_le _, fun hmax => absurd hmax (by decide)⟩
  obtain ⟨hcount, -⟩ := h before recent' hevents hsuccess.of_append
  have htimes : wrongTimes (recent' ++ [.wrong w]) = wrongTimes recent' ++ [w] := wrongTimes_append
  have hfailed : (t.incrementFailedAttempts now).failedAttempts = t.failedAttempts + 1 := by
    unfold TwoFA.incrementFailedAttempts
    dsimp only
    split <;> rfl
  rw [htimes, hfailed, length_append, length_singleton]
  refine ⟨Nat.succ_le_succ hcount, fun hmax => ⟨now + lockout, ?_, ?_⟩⟩
  · exact congrArg TwoFA.lockedUntil (if_pos (Nat.le_trans hmax (Nat.succ_le_succ hcount)))
  · intro u hu
    have hule : u ≤ now := by
      rcases mem_append.mp hu with hu | hu
      · apply hpast
        rw [hevents, wrongTimes_append]
        exact mem_append_right _ hu
      · exact mem_singleton.mp hu ▸ hw
    exact Int.add_le_add_right hule lockout

lemma Counts.room (h : Counts events t) (hunlocked : ∀ u ∈ t.lockedUntil, u ≤ now) (hevents : events = before ++ recent)
    (hsuccess : NoSuccess recent) :
    ¬Exhausted maxFailAttempts lockout now (wrongTimes recent) := by
  rintro ⟨hlen, hall⟩
  obtain ⟨lockedUntil, hlocked, hpast⟩ := (h before recent hevents hsuccess).2 hlen
  have hne : (wrongTimes recent).drop ((wrongTimes recent).length - maxFailAttempts) ≠ [] := by
    have hpos : 0 < maxFailAttempts := by decide
    rw [Ne, drop_eq_nil_iff]
    omega
  obtain ⟨u, hu⟩ := exists_mem_of_ne_nil _ hne
  have hend := (hpast u (mem_of_mem_drop hu)).trans (hunlocked lockedUntil hlocked)
  exact absurd (hall u hu) (not_lt.mpr hend)

lemma WrongSpaced.accepted (h : WrongSpaced events) : WrongSpaced (events ++ [.accepted id]) := by
  intro before recent after heq hsuccess
  rcases append_eq_concat heq with rfl | ⟨after', rfl, hevents⟩
  · rw [append_nil] at heq
    rcases append_eq_concat heq with rfl | ⟨recent', rfl, -⟩
    · exact Spaced.nil
    · exact absurd (mem_append_right _ (mem_singleton_self _)) (hsuccess id)
  · exact h before recent after' hevents hsuccess

lemma WrongSpaced.wrong (h : WrongSpaced events) (hcounts : Counts events t) (hunlocked : ∀ u ∈ t.lockedUntil, u ≤ now)
    (hsorted : (wrongTimes events).Pairwise (· ≤ ·)) : WrongSpaced (events ++ [.wrong now]) := by
  intro before recent after heq hsuccess
  rcases append_eq_concat heq with rfl | ⟨after', rfl, hevents⟩
  · rw [append_nil] at heq
    rcases append_eq_concat heq with rfl | ⟨recent', rfl, hevents⟩
    · exact Spaced.nil
    have hspaced := h before recent' [] (by rw [append_nil, hevents]) hsuccess.of_append
    have hpart : (wrongTimes recent').Pairwise (· ≤ ·) := by
      rw [hevents, wrongTimes_append] at hsorted
      exact (pairwise_append.mp hsorted).2.1
    rw [wrongTimes_append]
    exact hspaced.push hpart (hcounts.room hunlocked hevents hsuccess.of_append)
  · exact h before recent after' hevents hsuccess

end Events

/-! ### The steps -/

structure EventsOk (now : Time) (db : TwoFADB) : Prop where
  nodup : (acceptedCodes db.events).Nodup
  used : ∀ id ∈ acceptedCodes db.events, ∃ code, db.backupCodes.row id = some code ∧ code.isUsed = true
  spaced : WrongSpaced db.events
  sorted : (wrongTimes db.events).Pairwise (· ≤ ·)
  past : ∀ w ∈ wrongTimes db.events, w ≤ now

structure FreshCopy (db : TwoFADB) (t : TwoFA) : Prop where
  copy : t = db.twoFA
  counts : Counts db.events t

structure Unlocked (now : Time) (db : TwoFADB) (t : TwoFA) : Prop extends FreshCopy db t where
  unlocked : ∀ u ∈ t.lockedUntil, u ≤ now

def CodeUnused (db : TwoFADB) (id : Int) : Prop := ∃ code, db.backupCodes.row id = some code ∧ code.isUsed = false

def StageOk (now : Time) (db : TwoFADB) : VerificationPc → Prop
  | .start | .done _ => True
  | .loaded t => FreshCopy db t
  | .unlocked t => Unlocked now db t
  | .fetched t backupCodes => Unlocked now db t ∧ ∀ bc ∈ backupCodes, CodeUnused db bc.1
  | .marking _ id backupCode => CodeUnused db id ∧ backupCode.isUsed = true
  | .failing t => ∃ events w, db.events = events ++ [.wrong w] ∧ Counts events t
  | .saving t _ => Counts db.events t

lemma EventsOk.mono (h : EventsOk now db) (hle : now ≤ later) : EventsOk later db :=
  ⟨h.nodup, h.used, h.spaced, h.sorted, fun w hw => (h.past w hw).trans hle⟩

lemma Unlocked.mono (h : Unlocked now db t) (hle : now ≤ later) : Unlocked later db t :=
  ⟨h.toFreshCopy, fun u hu => (h.unlocked u hu).trans hle⟩

lemma StageOk.mono {pc : VerificationPc} (h : StageOk now db pc) (hle : now ≤ later) : StageOk later db pc := by
  cases pc with
  | unlocked t => exact Unlocked.mono h hle
  | fetched t backupCodes => exact ⟨h.1.mono hle, h.2⟩
  | _ => exact h

lemma EventsOk.wrong (h : EventsOk now db) (ht : Unlocked now db t) : EventsOk now (db.log (.wrong now)) where
  nodup := by
    show (acceptedCodes (db.events ++ [_])).Nodup
    rw [acceptedCodes, filterMap_append]
    exact (append_nil (acceptedCodes db.events)).symm ▸ h.nodup
  used := by
    intro id hid
    apply h.used
    have hsame : acceptedCodes (db.log (.wrong now)).events = acceptedCodes db.events ++ [] := filterMap_append
    rwa [hsame, append_nil] at hid
  spaced := h.spaced.wrong ht.counts ht.unlocked h.sorted
  sorted := by
    have htimes : wrongTimes (db.log (.wrong now)).events = wrongTimes db.events ++ [now] := wrongTimes_append
    rw [htimes]
    exact pairwise_append_singleton h.sorted h.past
  past := by
    have htimes : wrongTimes (db.log (.wrong now)).events = wrongTimes db.events ++ [now] := wrongTimes_append
    rw [htimes]
    exact le_of_mem_append_singleton h.past

lemma EventsOk.accepted (h : EventsOk now db) : EventsOk now (db.log (.accepted none)) := by
  have hcodes : acceptedCodes (db.log (.accepted none)).events = acceptedCodes db.events := by
    simp [acceptedCodes, TwoFADB.log]
  have htimes : wrongTimes (db.log (.accepted none)).events = wrongTimes db.events := by
    simp [wrongTimes, TwoFADB.log, VerificationEvent.wrongTime?]
  exact ⟨hcodes ▸ h.nodup, hcodes ▸ h.used, h.spaced.accepted, htimes ▸ h.sorted, htimes ▸ h.past⟩

lemma EventsOk.marked (h : EventsOk now db) {id : Int} {code : TwoFABackupCode} (hunused : CodeUnused db id)
    (hcode : code.isUsed = true) :
    EventsOk now ({ db with backupCodes := db.backupCodes.update id fun _ => code }.log (.accepted (some id))) := by
  set db' : TwoFADB := { db with backupCodes := db.backupCodes.update id fun _ => code }.log (.accepted (some id))
  have hcodes : acceptedCodes db'.events = acceptedCodes db.events ++ [id] := filterMap_append
  have htimes : wrongTimes db'.events = wrongTimes db.events := by
    simp [wrongTimes, db', TwoFADB.log, VerificationEvent.wrongTime?]
  obtain ⟨old, hold, hfree⟩ := hunused
  have hrow : db'.backupCodes.row id = some code := by
    show (db.backupCodes.update id fun _ => code).row id = some code
    rw [Table.row_update_self, hold]
    rfl
  have hnew : id ∉ acceptedCodes db.events := by
    intro hid
    obtain ⟨other, hother, hused⟩ := h.used id hid
    rw [hold] at hother
    rw [← some.inj hother, hfree] at hused
    cases hused
  refine ⟨?_, ?_, h.spaced.accepted, htimes ▸ h.sorted, htimes ▸ h.past⟩
  · rw [hcodes]
    exact nodup_append.mpr ⟨h.nodup, pairwise_singleton _ id, fun i hi j hj hsame =>
      hnew ((mem_singleton.mp hj) ▸ hsame ▸ hi)⟩
  · rw [hcodes]
    intro i hi
    by_cases hsame : i = id
    · exact ⟨code, hsame ▸ hrow, hcode⟩
    rcases mem_append.mp hi with hi | hi
    · obtain ⟨other, hother, hused⟩ := h.used i hi
      exact ⟨other, (Table.row_update_of_ne _ hsame _).trans hother, hused⟩
    · exact absurd (mem_singleton.mp hi) hsame

structure VerificationOk (now : Time) (db' : TwoFADB) (v' : Verification) : Prop where
  events : EventsOk now db'
  pc : StageOk now db' v'.pc
  idle : active v' = false → Counts db'.events db'.twoFA

lemma not_locked (h : t.isLocked now = false) : ∀ u ∈ t.lockedUntil, u ≤ now := by
  intro u hu
  unfold TwoFA.isLocked at h
  rw [hu] at h
  exact not_lt.mp (of_decide_eq_false h)

lemma mem_unused {bc : Int × TwoFABackupCode} (h : bc ∈ db.backupCodes.rows.filter fun bc => !bc.2.isUsed) :
    CodeUnused db bc.1 := by
  obtain ⟨hrow, hused⟩ := mem_filter.mp h
  exact ⟨bc.2, Table.mem_rows.mp hrow, by simpa using hused⟩

lemma verificationOk_step (hevents : EventsOk now db) (hpc : StageOk now db v.pc)
    (hstart : v.pc = .start → Counts db.events db.twoFA) (hstep : verificationStep lib now v db = some (v', db')) :
    VerificationOk now db' v' := by
  unfold verificationStep at hstep
  rcases hv : v.pc with _ | t | t | ⟨t, codes⟩ | ⟨t, id, code⟩ | t | ⟨t, valid⟩ | result <;>
    simp only [hv] at hstep hpc
  · -- start
    cases hstep
    exact ⟨hevents, ⟨rfl, hstart hv⟩, fun hidle => by cases hidle⟩
  · -- loaded
    cases hstep
    rcases hlocked : t.isLocked now with _ | _
    · exact ⟨hevents, ⟨hpc, not_locked hlocked⟩, fun hidle => by cases hidle⟩
    · exact ⟨hevents, trivial, fun _ => hpc.copy ▸ hpc.counts⟩
  · -- unlocked
    split at hstep
    · split at hstep
      · cases hstep
        exact ⟨hevents.accepted, counts_accepted, fun hidle => by cases hidle⟩
      · cases hstep
        exact ⟨hevents.wrong hpc, ⟨_, _, rfl, hpc.counts⟩, fun hidle => by cases hidle⟩
    · split at hstep
      · cases hstep
        exact ⟨hevents, trivial, fun _ => hpc.copy ▸ hpc.counts⟩
      · cases hstep
        exact ⟨hevents, ⟨hpc, fun bc hbc => mem_unused hbc⟩, fun hidle => by cases hidle⟩
  · -- fetched
    split at hstep
    · next bc hfind =>
      cases hstep
      exact ⟨hevents, ⟨hpc.2 bc (mem_of_find?_eq_some hfind), rfl⟩, fun hidle => by cases hidle⟩
    · cases hstep
      exact ⟨hevents.wrong hpc.1, ⟨_, _, rfl, hpc.1.counts⟩, fun hidle => by cases hidle⟩
  · -- marking
    cases hstep
    exact ⟨hevents.marked hpc.1 hpc.2, counts_accepted, fun hidle => by cases hidle⟩
  · -- failing
    cases hstep
    obtain ⟨events, w, heq, hcounts⟩ := hpc
    have hpast := hevents.past
    rw [heq, wrongTimes_append] at hpast
    refine ⟨hevents, ?_, fun hidle => by cases hidle⟩
    show Counts db.events _
    rw [heq]
    exact hcounts.increment (fun u hu => hpast u (mem_append_left _ hu))
      (hpast w (mem_append_right _ (mem_singleton_self w)))
  · -- saving
    cases hstep
    exact ⟨⟨hevents.nodup, hevents.used, hevents.spaced, hevents.sorted, hevents.past⟩, trivial, fun _ => hpc⟩
  · cases hstep

/-! ### Runs -/

/-- The verifications do not overlap. -/
def OneAtATime (lib : TwoFALibraries) (sched : List (Nat × Time)) (x : TwoFADB × List Verification) : Prop :=
  ∀ before ∈ sched.inits, ((twoFASystem lib).run before x).2.countP active ≤ 1

structure TwoFAInv (now : Time) (x : TwoFADB × List Verification) : Prop where
  events : EventsOk now x.1
  pcs : ∀ v ∈ x.2, StageOk now x.1 v.pc
  quiet : (∀ v ∈ x.2, active v = false) → Counts x.1.events x.1.twoFA

section Runs

variable {x y : TwoFADB × List Verification} {i : Nat}

lemma TwoFAInv.mono (h : TwoFAInv now x) (hle : now ≤ later) : TwoFAInv later x :=
  ⟨h.events.mono hle, fun v hv => (h.pcs v hv).mono hle, h.quiet⟩

lemma pcOk_of_not_active (h : active v = false) : StageOk now db v.pc := by
  rcases hv : v.pc with _ | t | t | ⟨t, codes⟩ | ⟨t, id, code⟩ | t | ⟨t, valid⟩ | result
  · trivial
  all_goals first | trivial | (rw [active, hv] at h; cases h)

lemma others_not_active (hx : x.2.countP active ≤ 1) (hy : (x.2.set i v').countP active ≤ 1) (hi : x.2[i]? = some v)
    (hstep : verificationStep lib now v x.1 = some (v', db')) :
    ∀ j w, j ≠ i → x.2[j]? = some w → active w = false := by
  intro j w hne hj
  by_contra hw
  rw [Bool.not_eq_false] at hw
  by_cases hv : active v = true
  · exact hne (eq_of_countP_le_one hx hj hw hi hv)
  -- A verification that starts is active afterwards.
  have hactive : active v' = true := by
    unfold verificationStep at hstep
    rcases hpc : v.pc with _ | t | t | ⟨t, codes⟩ | ⟨t, id, code⟩ | t | ⟨t, valid⟩ | result
    · simp only [hpc] at hstep
      cases hstep
      rfl
    case done =>
      simp only [hpc] at hstep
      cases hstep
    all_goals exact absurd (by rw [active, hpc]) hv
  have hlt : i < x.2.length := (List.getElem?_eq_some_iff.mp hi).1
  exact hne (eq_of_countP_le_one hy (by rwa [getElem?_set_ne hne.symm]) hw
    (getElem?_set_self hlt) hactive)

lemma TwoFAInv.step (h : TwoFAInv now x) (hx : x.2.countP active ≤ 1) (hy : y.2.countP active ≤ 1)
    (hstep : (twoFASystem lib).step (i, now) x = some y) : TwoFAInv now y := by
  obtain ⟨v, v', db', hi, hnext, rfl⟩ := components_cases hstep
  have hothers := others_not_active hx hy hi hnext
  have hquiet : v.pc = .start → Counts x.1.events x.1.twoFA := by
    intro hpc
    refine h.quiet fun w hw => ?_
    obtain ⟨j, hj⟩ := mem_iff_getElem?.mp hw
    by_cases hji : j = i
    · subst hji
      rw [hi] at hj
      rw [← some.inj hj, active, hpc]
    · exact hothers j w hji hj
  have hok := verificationOk_step h.events (h.pcs v (mem_of_getElem? hi)) hquiet hnext
  have hlt : i < x.2.length := (List.getElem?_eq_some_iff.mp hi).1
  refine ⟨hok.events, fun w hw => ?_, fun hall => hok.idle (hall v' ?_)⟩
  · obtain ⟨j, hj⟩ := mem_iff_getElem?.mp hw
    by_cases hji : j = i
    · subst hji
      rw [getElem?_set_self hlt] at hj
      rw [← some.inj hj]
      exact hok.pc
    · rw [getElem?_set_ne (Ne.symm hji)] at hj
      exact pcOk_of_not_active (hothers j w hji hj)
  · exact mem_of_getElem? (getElem?_set_self hlt)

def twoFAStart (twoFA : TwoFA) (backupCodes : Table Int TwoFABackupCode) (requests : List (VerificationKind × String)) :
    TwoFADB × List Verification :=
  ({ twoFA := twoFA, backupCodes := backupCodes }, requests.map fun r => { kind := r.1, code := r.2 })

variable {twoFA : TwoFA} {backupCodes : Table Int TwoFABackupCode} {requests : List (VerificationKind × String)}
  {sched : List (Nat × Time)}

lemma twoFAInv_start : TwoFAInv now (twoFAStart twoFA backupCodes requests) where
  events := {
    nodup := nodup_nil
    used := by rintro _ ⟨⟩
    spaced := by
      intro before recent after h _
      obtain ⟨hnil, -⟩ := append_eq_nil_iff.mp h.symm
      obtain ⟨-, rfl⟩ := append_eq_nil_iff.mp hnil
      exact Spaced.nil
    sorted := List.Pairwise.nil
    past := by rintro _ ⟨⟩ }
  pcs := by
    intro v hv
    obtain ⟨r, -, rfl⟩ := mem_map.mp hv
    trivial
  quiet _ := counts_nil

lemma twoFAInv_run (hseq : OneAtATime lib sched (twoFAStart twoFA backupCodes requests))
    (hsorted : (sched.map Prod.snd).Pairwise (· ≤ ·)) (hnow : ∀ t ∈ sched.map Prod.snd, t ≤ now) :
    TwoFAInv now ((twoFASystem lib).run sched (twoFAStart twoFA backupCodes requests)) := by
  induction sched using reverseRecOn generalizing now with
  | nil => exact twoFAInv_start
  | append_singleton sched a ih =>
    obtain ⟨i, t⟩ := a
    have hpre : sched <+: sched ++ [(i, t)] := prefix_append _ _
    rw [map_append, pairwise_append] at hsorted
    have hbefore := @ih t
      (fun before hmem => hseq before ((mem_inits _ _).mpr (((mem_inits _ _).mp hmem).trans hpre)))
      hsorted.1 (fun u hu => hsorted.2.2 u hu t (mem_singleton_self t))
    have hlast : t ≤ now := hnow t (by simp)
    have hx := hseq sched ((mem_inits _ _).mpr hpre)
    have hy := hseq (sched ++ [(i, t)]) ((mem_inits _ _).mpr prefix_rfl)
    rw [System.run_append] at hy ⊢
    set x := (twoFASystem lib).run sched (twoFAStart twoFA backupCodes requests)
    show TwoFAInv now (((twoFASystem lib).step (i, t) x).getD x)
    cases hstep : (twoFASystem lib).step (i, t) x with
    | none => exact hbefore.mono hlast
    | some y =>
      have hy' : y.2.countP active ≤ 1 := by
        have hrun : (twoFASystem lib).run [(i, t)] x = ((twoFASystem lib).step (i, t) x).getD x := rfl
        rwa [hrun, hstep] at hy
      exact (hbefore.step hx hy' hstep).mono hlast

/-- If the verifications of a user are executed one at a time, no backup code is accepted twice, any six wrong codes
without a success in between span a lockout, and between two verifications the row has counted the wrong codes since
the last success and is locked if they are five or more. -/
theorem twoFA_limits (hseq : OneAtATime lib sched (twoFAStart twoFA backupCodes requests))
    (hsorted : (sched.map Prod.snd).Pairwise (· ≤ ·)) :
    let x := (twoFASystem lib).run sched (twoFAStart twoFA backupCodes requests)
    (acceptedCodes x.1.events).Nodup ∧ WrongSpaced x.1.events ∧
      ((∀ v ∈ x.2, active v = false) → Counts x.1.events x.1.twoFA) := by
  intro x
  have hbound : ∃ now, ∀ t ∈ sched.map Prod.snd, t ≤ now := by
    rcases eq_nil_or_concat' (sched.map Prod.snd) with hnil | ⟨times, last, hlast⟩
    · exact ⟨0, by simp [hnil]⟩
    refine ⟨last, ?_⟩
    rw [hlast] at hsorted ⊢
    exact le_of_mem_append_singleton fun t ht =>
      (pairwise_append.mp hsorted).2.2 t ht last (mem_singleton_self last)
  obtain ⟨now, hnow⟩ := hbound
  have hinv := twoFAInv_run hseq hsorted hnow
  exact ⟨hinv.events.nodup, hinv.events.spaced, hinv.quiet⟩

/-- The steps of a verification that finds a wrong code, at one time. -/
def wrongCode (i : Nat) (now : Time) : List (Nat × Time) := List.replicate 5 (i, now)

theorem twoFA_limits_five : ∃ lockedUntil,
    ((twoFASystem {}).run ((List.range 5).flatMap fun i => wrongCode i i)
      (twoFAStart { secret := "123456" } .empty (List.replicate 5 (.totp, "000000")))).1.twoFA.lockedUntil =
        some lockedUntil ∧ 4 + lockout ≤ lockedUntil := by
  have hlimits := @twoFA_limits {} { secret := "123456" } .empty (replicate 5 (.totp, "000000"))
    ((range 5).flatMap fun i => wrongCode i i) (by unfold OneAtATime; decide +kernel) (by decide +kernel)
  obtain ⟨-, -, hcounts⟩ := hlimits
  obtain ⟨-, hlocked⟩ := hcounts (by decide +kernel) [] [.wrong 0, .wrong 1, .wrong 2, .wrong 3, .wrong 4]
    (by decide +kernel) (by unfold NoSuccess; simp)
  obtain ⟨lockedUntil, hsome, hpast⟩ := hlocked (by decide)
  exact ⟨lockedUntil, hsome, hpast 4 (by decide)⟩

/-- Two verifications read the same unused backup code, and both are accepted. Six verifications read the row before
the first of them writes it: six wrong codes are evaluated at one time, and the row counts one. -/
theorem twoFA_overlap_counterexample :
    let codes : Table Int TwoFABackupCode := Table.empty.insert 1 { codeHash := "AAAA-BBBB" }
    let x := (twoFASystem {}).run ((List.replicate 6 [(0, 0), (1, 0)]).flatten)
      (twoFAStart {} codes [(.backupCode, "AAAABBBB"), (.backupCode, "AAAABBBB")])
    let y := (twoFASystem {}).run ((List.replicate 5 ((List.range 6).map fun i => (i, 0))).flatten)
      (twoFAStart { secret := "123456" } .empty (replicate 6 (.totp, "000000")))
    acceptedCodes x.1.events = [1, 1] ∧ (∀ v ∈ x.2, v.pc = .done (some true)) ∧
      wrongTimes y.1.events = [0, 0, 0, 0, 0, 0] ∧ (∀ v ∈ y.2, v.pc = .done (some false)) ∧
      y.1.twoFA.failedAttempts = 1 ∧ y.1.twoFA.lockedUntil = none := by
  decide +kernel

end Runs

end LoveApi.Proofs
