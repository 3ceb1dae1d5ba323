import LoveApi.OrderLock
import Mathlib.Algebra.Ring.Nat

/-!
# What the lock of an order guarantees

The reference count of a mutex is the number of goroutines between the increment and the decrement.
-/

namespace LoveApi.Proofs

open Program List Option

variable {g : Goroutine} {pc : LockPc} {rcm : Nat} {f : RefCountedMutex → RefCountedMutex}

variable {x y : OrderLocks} {gs : List Goroutine} {g' : Goroutine} {i : Nat} {t tradeNo : String}

/-! ### Positions -/

@[simp] def holdsCreate : LockPc → Bool
  | .load _ | .store _ | .increment .. | .unlockCreate .. | .decrement .. | .test .. | .delete .. | .leaveCreate => true
  | _ => false

@[simp] def passing (t : String) (pc : LockPc) : Bool := pc.registering t || pc.unregistering t

@[simp] def orderOf? : LockPc → Option String
  | .lockCreate t | .load t | .store t | .increment t _ | .unlockCreate t _ | .lockMutex t _ | .critical t | .reload t
  | .unlockMutex t _ | .relockCreate t _ | .decrement t _ | .test t _ | .delete t _ => some t
  | .idle | .leaveCreate | .fatal => none

lemma away_of_orderOf? (h : orderOf? pc ≠ some t) :
    pc.counted t = false ∧ passing t pc = false ∧ pc.inside t = false := by
  cases pc <;> simp_all

lemma holdsCreate_of_passing (h : passing t pc) : holdsCreate pc := by
  cases pc <;> simp_all

lemma counted_of_inside (h : pc.inside t) : pc.counted t := by
  cases pc <;> simp_all

/-! ### Counts -/

def holders (gs : List Goroutine) : Nat := gs.countP fun g => holdsCreate g.pc
def users (t : String) (gs : List Goroutine) : Nat := gs.countP fun g => g.pc.counted t
def passers (t : String) (gs : List Goroutine) : Nat := gs.countP fun g => passing t g.pc
def owners (t : String) (gs : List Goroutine) : Nat := gs.countP fun g => g.pc.inside t

lemma counts_set (hg : gs[i]? = some g) (g' : Goroutine) (t : String) :
    (users t (gs.set i g') + (g.pc.counted t).toNat = users t gs + (g'.pc.counted t).toNat ∧
      passers t (gs.set i g') + (passing t g.pc).toNat = passers t gs + (passing t g'.pc).toNat ∧
      owners t (gs.set i g') + (g.pc.inside t).toNat = owners t gs + (g'.pc.inside t).toNat) ∧
    (g.pc.counted t).toNat ≤ users t gs ∧ (passing t g.pc).toNat ≤ passers t gs :=
  ⟨⟨countP_set_add hg, countP_set_add hg, countP_set_add hg⟩, toNat_le_countP (p := fun g => g.pc.counted t) hg,
    toNat_le_countP (p := fun g => passing t g.pc) hg⟩

/-! ### The invariant -/

def EntryOk (x : OrderLocks) (gs : List Goroutine) (t : String) : Prop :=
  match x.orderLocks t with
  | none => users t gs = 0 ∧ passers t gs = 0
  | some rcm => 0 < users t gs + passers t gs ∧ rcm < x.mutexes.length ∧ (x.mutex rcm).refCount = users t gs ∧
      owners t gs = (x.mutex rcm).mu.toNat

@[simp] def PcOk (x : OrderLocks) : LockPc → Prop
  | .store t => x.orderLocks t = none
  | .increment t rcm | .unlockCreate t rcm | .lockMutex t rcm | .unlockMutex t rcm | .relockCreate t rcm
  | .decrement t rcm | .test t rcm => x.orderLocks t = some rcm
  | .delete t rcm => x.orderLocks t = some rcm ∧ (x.mutex rcm).refCount = 0
  | .fatal => False
  | _ => True

structure LockInv (x : OrderLocks) (gs : List Goroutine) : Prop where
  create : holders gs = x.createLock.toNat
  entry : ∀ t, EntryOk x gs t
  injective : ∀ t t' rcm, x.orderLocks t = some rcm → x.orderLocks t' = some rcm → t = t'
  pc : ∀ (j : Nat) (c : Goroutine), gs[j]? = some c → PcOk x c.pc

lemma lockInv_start {todos : List (List String)} : LockInv (lockStart todos).1 (lockStart todos).2 := by
  have hidle : ∀ c ∈ (lockStart todos).2, c.pc = .idle := by
    intro c hc
    obtain ⟨todo, -, rfl⟩ := mem_map.mp hc
    rfl
  have hcount : ∀ p : LockPc → Bool, p .idle = false → (lockStart todos).2.countP (fun c => p c.pc) = 0 := by
    intro p hp
    rw [countP_eq_zero]
    intro c hc
    rw [hidle c hc, hp]
    decide
  constructor
  · exact hcount _ rfl
  · exact fun t => ⟨hcount _ rfl, hcount _ rfl⟩
  · intro t t' rcm h
    cases h
  · intro j c hc
    rw [hidle c (mem_of_getElem? hc)]
    trivial

lemma EntryOk.frame (h : EntryOk x gs t) (hg : gs[i]? = some g) (horder : y.orderLocks t = x.orderLocks t)
    (hlength : x.mutexes.length ≤ y.mutexes.length)
    (hmutex : ∀ rcm, x.orderLocks t = some rcm → y.mutex rcm = x.mutex rcm)
    (hcounted : g'.pc.counted t = g.pc.counted t) (hpassing : passing t g'.pc = passing t g.pc)
    (hinside : g'.pc.inside t = g.pc.inside t) : EntryOk y (gs.set i g') t := by
  have hcounts := counts_set hg g' t
  rw [hcounted, hpassing, hinside] at hcounts
  unfold EntryOk at h ⊢
  rw [horder]
  cases hrow : x.orderLocks t with
  | none =>
    rw [hrow] at h
    omega
  | some rcm =>
    rw [hrow] at h
    simp only [hmutex rcm hrow] at h ⊢
    omega

lemma PcOk.frame (h : PcOk x pc) (hfree : holdsCreate pc = false)
    (horder : ∀ t rcm, pc.counted t → x.orderLocks t = some rcm → y.orderLocks t = some rcm) : PcOk y pc := by
  cases pc with
  | lockMutex t rcm | unlockMutex t rcm | relockCreate t rcm => exact horder t rcm (decide_eq_true rfl) h
  | idle => trivial
  | lockCreate t => trivial
  | critical t => trivial
  | reload t => trivial
  | fatal => exact h
  | _ => cases hfree

lemma PcOk.frame_refCount (h : PcOk x pc) (horder : y.orderLocks = x.orderLocks)
    (hcount : ∀ rcm, (y.mutex rcm).refCount = (x.mutex rcm).refCount) : PcOk y pc := by
  cases pc <;> simp_all

lemma mutex_modifyMutex_ne {rcm' : Nat} (h : rcm' ≠ rcm) : (x.modifyMutex rcm f).mutex rcm' = x.mutex rcm' := by
  simp [OrderLocks.mutex, OrderLocks.modifyMutex, Ne.symm h]

lemma mutex_storeNew_self : (x.storeNew tradeNo).mutex x.mutexes.length = {} := by
  simp [OrderLocks.mutex, OrderLocks.storeNew]

/-! ### The steps -/

section

variable (hinv : LockInv x gs) (hg : gs[i]? = some g)

include hinv hg

lemma others_free (hholds : holdsCreate g.pc) {j : Nat} {c : Goroutine} (hj : gs[j]? = some c) (hne : j ≠ i) :
    holdsCreate c.pc = false := by
  by_contra h
  have hcount : gs.countP (fun g => holdsCreate g.pc) ≤ 1 := Nat.le_trans (Nat.le_of_eq hinv.create) (Bool.toNat_le _)
  exact hne (eq_of_countP_le_one hcount hj (by simpa using h) hg hholds)

lemma LockInv.of_step
    (hcreate : y.createLock.toNat + (holdsCreate g.pc).toNat = x.createLock.toNat + (holdsCreate g'.pc).toNat)
    (hentry : ∀ t, EntryOk y (gs.set i g') t)
    (hinjective : ∀ t t' rcm, y.orderLocks t = some rcm → y.orderLocks t' = some rcm → t = t')
    (hpc : PcOk y g'.pc) (hothers : ∀ (j : Nat) (c : Goroutine), j ≠ i → gs[j]? = some c → PcOk y c.pc) :
    LockInv y (gs.set i g') := by
  refine ⟨?_, hentry, hinjective, ?_⟩
  · have hholders : holders (gs.set i g') + (holdsCreate g.pc).toNat = holders gs + (holdsCreate g'.pc).toNat :=
      countP_set_add hg
    have := hinv.create
    omega
  · intro j c hc
    by_cases hji : j = i
    · subst hji
      obtain rfl : g' = c := by
        rw [List.getElem?_set_self (List.getElem?_eq_some_iff.mp hg).1] at hc
        exact some.inj hc
      exact hpc
    · rw [getElem?_set_ne (Ne.symm hji)] at hc
      exact hothers j c hji hc

lemma LockInv.frame (horder : y.orderLocks = x.orderLocks) (hmutexes : y.mutexes = x.mutexes)
    (hcreate : y.createLock.toNat + (holdsCreate g.pc).toNat = x.createLock.toNat + (holdsCreate g'.pc).toNat)
    (hcounts : ∀ t, g'.pc.counted t = g.pc.counted t ∧ passing t g'.pc = passing t g.pc ∧
      g'.pc.inside t = g.pc.inside t)
    (hpc : PcOk x g'.pc) : LockInv y (gs.set i g') := by
  have hmutex : ∀ rcm, y.mutex rcm = x.mutex rcm := by
    intro rcm
    unfold OrderLocks.mutex
    rw [hmutexes]
  have hkeep : ∀ {pc}, PcOk x pc → PcOk y pc := fun h => h.frame_refCount horder fun rcm => by rw [hmutex]
  apply hinv.of_step hg hcreate
  · intro t
    obtain ⟨hcounted, hpassing, hinside⟩ := hcounts t
    have hlength : x.mutexes.length ≤ y.mutexes.length := Nat.le_of_eq (congrArg length hmutexes.symm)
    exact (hinv.entry t).frame hg (congrFun horder t) hlength (fun rcm _ => hmutex rcm) hcounted hpassing hinside
  · rw [horder]
    exact hinv.injective
  · exact hkeep hpc
  · exact fun j c _ hc => hkeep (hinv.pc j c hc)

lemma LockInv.entries (hpc : orderOf? g.pc = some tradeNo) (hpc' : ∀ t, orderOf? g'.pc = some t → t = tradeNo)
    (horder : ∀ t, t ≠ tradeNo → y.orderLocks t = x.orderLocks t) (hlength : x.mutexes.length ≤ y.mutexes.length)
    (hmutex : ∀ t rcm, t ≠ tradeNo → x.orderLocks t = some rcm → y.mutex rcm = x.mutex rcm)
    (hentry : EntryOk y (gs.set i g') tradeNo) (t : String) : EntryOk y (gs.set i g') t := by
  by_cases ht : t = tradeNo
  · rw [ht]
    exact hentry
  · have haway : orderOf? g.pc ≠ some t := by
      rw [hpc]
      exact fun h => ht (some.inj h).symm
    have haway' : orderOf? g'.pc ≠ some t := fun h => ht (hpc' t h)
    obtain ⟨hcounted, hpassing, hinside⟩ := away_of_orderOf? haway
    obtain ⟨hcounted', hpassing', hinside'⟩ := away_of_orderOf? haway'
    exact (hinv.entry t).frame hg (horder t ht) hlength (fun rcm => hmutex t rcm ht) (hcounted'.trans hcounted.symm)
      (hpassing'.trans hpassing.symm) (hinside'.trans hinside.symm)

end

section Map

variable (hinv : LockInv x gs)

include hinv

lemma LockInv.entry_some (horder : x.orderLocks tradeNo = some rcm) :
    0 < users tradeNo gs + passers tradeNo gs ∧ rcm < x.mutexes.length ∧
      (x.mutex rcm).refCount = users tradeNo gs ∧ owners tradeNo gs = (x.mutex rcm).mu.toNat := by
  have h := hinv.entry tradeNo
  unfold EntryOk at h
  simp only [horder] at h
  exact h

lemma LockInv.entry_none (horder : x.orderLocks tradeNo = none) : users tradeNo gs = 0 ∧ passers tradeNo gs = 0 := by
  have h := hinv.entry tradeNo
  unfold EntryOk at h
  simp only [horder] at h
  exact h

variable (hg : gs[i]? = some g) {pc' : LockPc} (hpc : orderOf? g.pc = some tradeNo)
  (hpc' : orderOf? pc' = some tradeNo ∨ orderOf? pc' = none) (horder : x.orderLocks tradeNo = some rcm)
  (hcreate : holdsCreate pc' = holdsCreate g.pc)

include hg hpc hpc' horder hcreate

lemma LockInv.pass (hcounted : pc'.counted tradeNo = g.pc.counted tradeNo)
    (hinside : pc'.inside tradeNo = g.pc.inside tradeNo)
    (hlinked : passing tradeNo pc' ∨ (x.mutex rcm).refCount ≠ 0) (hok : PcOk x pc') :
    LockInv x (gs.set i { g with pc := pc' }) := by
  have hentry := hinv.entry_some horder
  have hcounts := counts_set hg { g with pc := pc' } tradeNo
  dsimp only at hcounts
  rw [hcounted, hinside] at hcounts
  apply hinv.of_step hg
  · rw [hcreate]
  · apply hinv.entries hg hpc
    · intro t ht
      rcases hpc' with h | h <;> simp_all
    · exact fun _ _ => rfl
    · exact Nat.le_refl _
    · exact fun _ _ _ _ => rfl
    · unfold EntryOk
      simp only [horder]
      have hpositive : 0 < users tradeNo gs ∨ 0 < (passing tradeNo pc').toNat := by
        rcases hlinked with h | h
        · exact .inr (by rw [h]; decide)
        · exact .inl (by omega)
      omega
  · exact hinv.injective
  · exact hok
  · exact fun j c _ hc => hinv.pc j c hc

lemma LockInv.modify (hcount : (∀ m, (f m).refCount = m.refCount) ∨ holdsCreate g.pc)
    (hrefCount : (f (x.mutex rcm)).refCount + (g.pc.counted tradeNo).toNat =
      (x.mutex rcm).refCount + (pc'.counted tradeNo).toNat)
    (hmu : (f (x.mutex rcm)).mu.toNat + (g.pc.inside tradeNo).toNat =
      (x.mutex rcm).mu.toNat + (pc'.inside tradeNo).toNat)
    (hlinked : 0 < (pc'.counted tradeNo).toNat + (passing tradeNo pc').toNat) (hok : PcOk (x.modifyMutex rcm f) pc') :
    LockInv (x.modifyMutex rcm f) (gs.set i { g with pc := pc' }) := by
  have hentry := hinv.entry_some horder
  have hself : (x.modifyMutex rcm f).mutex rcm = f (x.mutex rcm) := by
    simp [OrderLocks.mutex, OrderLocks.modifyMutex, hentry.2.1]
  have hlength : (x.modifyMutex rcm f).mutexes.length = x.mutexes.length := length_modify ..
  apply hinv.of_step hg
  · rw [hcreate]
    rfl
  · apply hinv.entries hg hpc
    · intro t ht
      rcases hpc' with h | h <;> simp_all
    · exact fun _ _ => rfl
    · exact Nat.le_of_eq hlength.symm
    · intro t rcm' hne ht
      apply mutex_modifyMutex_ne
      rintro rfl
      exact hne (hinv.injective t tradeNo rcm' ht horder)
    · have hcounts := counts_set hg { g with pc := pc' } tradeNo
      dsimp only at hcounts
      have horder' : (x.modifyMutex rcm f).orderLocks tradeNo = some rcm := horder
      unfold EntryOk
      simp only [horder', hself]
      omega
  · exact hinv.injective
  · exact hok
  · intro j c hne hc
    rcases hcount with hkeep | hholds
    · apply (hinv.pc j c hc).frame_refCount
      · rfl
      · intro rcm'
        by_cases hrcm : rcm' = rcm
        · rw [hrcm, hself, hkeep]
        · rw [mutex_modifyMutex_ne hrcm]
    · exact (hinv.pc j c hc).frame (others_free hinv hg hholds hc hne) fun _ _ _ h => h

end Map

section Transitions

variable (hinv : LockInv x gs) (hg : gs[i]? = some g)

include hinv hg

lemma LockInv.pcOk (hpc : g.pc = pc) : PcOk x pc := hpc ▸ hinv.pc i g hg

/-- The entry of an order that no goroutine uses is set to a pointer that no other order has, or to none. -/
lemma LockInv.relink {pc' : LockPc} {row : Option Nat} (hbusy : orderOf? g.pc = some tradeNo)
    (hpc' : ∀ t, orderOf? pc' = some t → t = tradeNo) (hholds : holdsCreate g.pc ∧ holdsCreate pc')
    (horder : y.orderLocks = Function.update x.orderLocks tradeNo row) (hcreate : y.createLock = x.createLock)
    (hlength : x.mutexes.length ≤ y.mutexes.length) (hmutex : ∀ rcm < x.mutexes.length, y.mutex rcm = x.mutex rcm)
    (hfresh : ∀ t rcm, x.orderLocks t = some rcm → row ≠ some rcm) (husers : users tradeNo gs = 0)
    (hentry : EntryOk y (gs.set i { g with pc := pc' }) tradeNo) (hok : PcOk y pc') :
    LockInv y (gs.set i { g with pc := pc' }) := by
  have hself : y.orderLocks tradeNo = row := by rw [horder, Function.update_self]
  have hother : ∀ t, t ≠ tradeNo → y.orderLocks t = x.orderLocks t := fun t ht => by
    rw [horder, Function.update_of_ne ht]
  apply hinv.of_step hg
  · rw [hcreate, hholds.1, hholds.2]
  · exact hinv.entries hg hbusy hpc' hother hlength (fun t rcm _ ht => hmutex rcm (hinv.entry_some ht).2.1) hentry
  · intro t t' rcm ht ht'
    by_cases h : t = tradeNo <;> by_cases h' : t' = tradeNo
    · rw [h, h']
    · rw [h, hself] at ht
      rw [hother t' h'] at ht'
      exact absurd ht (hfresh t' rcm ht')
    · rw [h', hself] at ht'
      rw [hother t h] at ht
      exact absurd ht' (hfresh t rcm ht)
    · rw [hother t h] at ht
      rw [hother t' h'] at ht'
      exact hinv.injective t t' rcm ht ht'
  · exact hok
  · intro j c hne hc
    apply (hinv.pc j c hc).frame (others_free hinv hg hholds.1 hc hne)
    intro t rcm hcounted ht
    rw [hother]
    · exact ht
    · rintro rfl
      have : 0 < users t gs := countP_pos_of_getElem? hc hcounted
      omega

lemma lockInv_store (hpc : g.pc = .store tradeNo) :
    LockInv (x.storeNew tradeNo) (gs.set i { g with pc := .increment tradeNo x.mutexes.length }) := by
  have hnew : (x.storeNew tradeNo).orderLocks tradeNo = some x.mutexes.length := Function.update_self ..
  have hzero := hinv.entry_none (hinv.pcOk hg hpc)
  refine hinv.relink hg (by simp [hpc]) (by simp) (by simp [hpc]) rfl rfl ?_ ?_ ?_ hzero.1 ?_ hnew
  · simp [OrderLocks.storeNew]
  · exact fun rcm hlt => by simp [OrderLocks.mutex, OrderLocks.storeNew, getElem?_append_left hlt]
  · intro t rcm ht hrcm
    have := (hinv.entry_some ht).2.1
    have := some.inj hrcm
    omega
  · have hcounts := counts_set hg { g with pc := .increment tradeNo x.mutexes.length } tradeNo
    have howners : owners tradeNo gs ≤ users tradeNo gs := countP_mono_left fun _ _ h => counted_of_inside h
    simp only [hpc, LockPc.counted, passing, LockPc.registering, LockPc.unregistering, LockPc.inside, decide_true,
      Bool.or_false, Bool.toNat_true, Bool.toNat_false] at hcounts
    have hlength : x.mutexes.length < (x.storeNew tradeNo).mutexes.length := by simp [OrderLocks.storeNew]
    unfold EntryOk
    simp only [hnew, mutex_storeNew_self, Bool.toNat_false]
    omega

lemma lockInv_delete (hpc : g.pc = .delete tradeNo rcm) :
    LockInv (x.delete tradeNo) (gs.set i { g with pc := .leaveCreate }) := by
  have hok : x.orderLocks tradeNo = some rcm ∧ (x.mutex rcm).refCount = 0 := hinv.pcOk hg hpc
  have husers : users tradeNo gs = 0 := by
    have := (hinv.entry_some hok.1).2.2.1
    omega
  have hnone : (x.delete tradeNo).orderLocks tradeNo = none := Function.update_self ..
  refine hinv.relink hg (by simp [hpc]) (by simp) (by simp [hpc]) rfl rfl (Nat.le_refl _) (fun _ _ => rfl) (by simp)
    husers ?_ trivial
  have hcounts := counts_set hg { g with pc := .leaveCreate } tradeNo
  have hpassers : passers tradeNo gs ≤ holders gs := countP_mono_left fun _ _ h => holdsCreate_of_passing h
  have hcreate := hinv.create
  have hone := Bool.toNat_le x.createLock
  simp only [hpc, LockPc.counted, passing, LockPc.registering, LockPc.unregistering, LockPc.inside, decide_true,
    Bool.false_or, Bool.or_false, Bool.toNat_true, Bool.toNat_false] at hcounts
  unfold EntryOk
  simp only [hnone]
  omega

lemma LockInv.createLock_of_holds (hholds : holdsCreate g.pc) : x.createLock = true := by
  have hpos : 0 < holders gs := countP_pos_of_getElem? hg hholds
  rw [hinv.create] at hpos
  exact Bool.toNat_eq_one.mp (Nat.le_antisymm (Bool.toNat_le _) hpos)

lemma LockInv.exists_of_counted (hcounted : g.pc.counted t) : ∃ rcm, x.orderLocks t = some rcm := by
  have hpos : 0 < users t gs := countP_pos_of_getElem? hg hcounted
  apply ne_none_iff_exists'.mp
  intro hnone
  have := hinv.entry_none hnone
  omega

lemma LockInv.mu_of_inside (horder : x.orderLocks t = some rcm) (hinside : g.pc.inside t) :
    (x.mutex rcm).mu = true := by
  have hpos : 0 < owners t gs := countP_pos_of_getElem? hg hinside
  rw [(hinv.entry_some horder).2.2.2] at hpos
  exact Bool.toNat_eq_one.mp (Nat.le_antisymm (Bool.toNat_le _) hpos)

/-- The invariant is kept by every step of a goroutine. -/
lemma lockInv_next (hnext : g.next x = some (g', y)) : LockInv y (gs.set i g') := by
  have hok := hinv.pc i g hg
  dsimp only [Goroutine.next] at hnext
  generalize hpc : g.pc = pc at hok hnext
  cases pc
  all_goals dsimp only at hnext
  case idle =>
    split at hnext
    · cases hnext
    · cases hnext
      apply hinv.frame hg <;> simp [hpc]
  case lockCreate tradeNo =>
    split at hnext
    · cases hnext
    · cases hnext
      apply hinv.frame hg <;> simp_all
  case load tradeNo =>
    split at hnext
    · next rcm horder =>
      cases hnext
      apply hinv.pass hg _ _ horder <;> simp [hpc, horder]
    · next horder =>
      cases hnext
      apply hinv.frame hg <;> simp [hpc, horder]
  case store tradeNo =>
    cases hnext
    exact lockInv_store hinv hg hpc
  case increment tradeNo rcm | decrement tradeNo rcm =>
    cases hnext
    apply hinv.modify hg _ _ hok <;> simp_all [OrderLocks.modifyMutex]
  case unlockCreate tradeNo rcm =>
    have hlocked := hinv.createLock_of_holds hg (by simp [hpc])
    rw [if_pos hlocked] at hnext
    cases hnext
    apply hinv.frame hg <;> simp_all
  case lockMutex tradeNo rcm =>
    split at hnext
    · cases hnext
    · cases hnext
      apply hinv.modify hg _ _ hok <;> simp_all
  case critical tradeNo =>
    cases hnext
    apply hinv.frame hg <;> simp [hpc]
  case reload tradeNo =>
    obtain ⟨rcm, horder⟩ := hinv.exists_of_counted hg (t := tradeNo) (by simp [hpc])
    rw [horder] at hnext
    cases hnext
    apply hinv.frame hg <;> simp [hpc, horder]
  case unlockMutex tradeNo rcm =>
    have hlocked := hinv.mu_of_inside hg hok (by simp [hpc])
    rw [if_pos hlocked] at hnext
    cases hnext
    apply hinv.modify hg _ _ hok <;> simp_all [OrderLocks.modifyMutex]
  case relockCreate tradeNo rcm =>
    split at hnext
    · cases hnext
    · cases hnext
      apply hinv.frame hg <;> simp_all
  case test tradeNo rcm =>
    split at hnext
    · cases hnext
      apply hinv.frame hg <;> simp_all
    · cases hnext
      apply hinv.pass hg _ _ hok <;> simp_all
  case delete tradeNo rcm =>
    cases hnext
    exact lockInv_delete hinv hg hpc
  case leaveCreate =>
    have hlocked := hinv.createLock_of_holds hg (by simp [hpc])
    rw [if_pos hlocked] at hnext
    cases hnext
    apply hinv.frame hg <;> simp_all
  case fatal => cases hnext

end Transitions

/-! ### Whole runs -/

section

variable (todos : List (List String)) (sched : List Nat)

/-- The invariant holds after every interleaving. -/
theorem lockInv_run : LockInv (lockRun todos sched).1 (lockRun todos sched).2 := by
  apply System.run_induction (I := fun s : OrderLocks × List Goroutine => LockInv s.1 s.2)
  · intro i _ s s' hstep hinv
    obtain ⟨g, g', x, hg, hnext, rfl⟩ := interleave_cases hstep
    exact lockInv_next hinv hg hnext
  · exact lockInv_start

lemma LockInv.isSome_iff (hinv : LockInv x gs) :
    (x.orderLocks t).isSome ↔ ∃ g ∈ gs, g.pc.counted t ∨ g.pc.registering t ∨ g.pc.unregistering t := by
  have hused : (∃ g ∈ gs, g.pc.counted t ∨ g.pc.registering t ∨ g.pc.unregistering t) ↔
      0 < users t gs ∨ 0 < passers t gs := by
    unfold users passers
    rw [countP_pos_iff, countP_pos_iff, ← exists_or]
    apply exists_congr
    intro g
    rw [← and_or_left, passing, Bool.or_eq_true]
  rw [hused]
  cases horder : x.orderLocks t with
  | none =>
    have := hinv.entry_none horder
    simp only [isSome_none, Bool.false_eq_true, false_iff]
    omega
  | some rcm =>
    have := (hinv.entry_some horder).1
    simp only [isSome_some, true_iff]
    omega

/-- In every interleaving one goroutine at a time is inside an order, and the map holds the orders in use. -/
theorem orderLock_safe (t : String) :
    (∀ (i j : Nat) (g h : Goroutine), (lockRun todos sched).2[i]? = some g → (lockRun todos sched).2[j]? = some h →
      g.pc.inside t → h.pc.inside t → i = j) ∧
    (((lockRun todos sched).1.orderLocks t).isSome ↔
      ∃ g ∈ (lockRun todos sched).2, g.pc.counted t ∨ g.pc.registering t ∨ g.pc.unregistering t) ∧
    ((∀ g ∈ (lockRun todos sched).2, g.finished) → (lockRun todos sched).1.orderLocks t = none) := by
  have hinv := lockInv_run todos sched
  refine ⟨?_, hinv.isSome_iff, ?_⟩
  · intro i j g h hg hh hgin hhin
    obtain ⟨rcm, horder⟩ := hinv.exists_of_counted hg (counted_of_inside hgin)
    have howners : (lockRun todos sched).2.countP (fun g => g.pc.inside t) ≤ 1 :=
      Nat.le_trans (Nat.le_of_eq (hinv.entry_some horder).2.2.2) (Bool.toNat_le _)
    exact eq_of_countP_le_one howners hg hgin hh hhin
  · intro hfinished
    apply not_isSome_iff_eq_none.mp
    rw [hinv.isSome_iff]
    rintro ⟨g, hg, hused⟩
    have hidle : g.pc = .idle := by
      simp_all [Goroutine.finished]
    simp [hidle] at hused

/-- An entry is stored before its first user is counted. -/
theorem orderLock_entry_before_count : ((lockRun [["T"]] [0, 0, 0, 0]).1.orderLocks "T").isSome ∧
      ∀ g ∈ (lockRun [["T"]] [0, 0, 0, 0]).2, ¬ g.pc.counted "T" := by
  decide +kernel

omit todos sched in
lemma waits_of_next (hnext : g.next x = none) :
    g.finished ∨ x.createLock ∨ (∃ t rcm, g.pc = .lockMutex t rcm ∧ (x.mutex rcm).mu) ∨ g.pc = .fatal := by
  unfold Goroutine.next at hnext
  cases hpc : g.pc <;> grind [Goroutine.finished]

omit todos sched in
lemma next_ne_none (hholds : holdsCreate g.pc ∨ g.pc.inside t) : g.next x ≠ none := by
  unfold Goroutine.next
  cases hpc : g.pc <;> grind [holdsCreate, LockPc.inside]

omit todos sched in
lemma LockInv.finished_of_stuck (hinv : LockInv x gs) (hstuck : ∀ h ∈ gs, h.next x = none) (hg : g ∈ gs) :
    g.finished := by
  obtain ⟨i, hi⟩ := mem_iff_getElem?.mp hg
  rcases waits_of_next (hstuck g hg) with hfinished | hcreate | ⟨t, rcm, hpc, hmu⟩ | hfatal
  · exact hfinished
  · have hpos : 0 < holders gs := by
      rw [hinv.create, hcreate]
      decide
    obtain ⟨h, hh, hholds⟩ := countP_pos_iff.mp hpos
    exact absurd (hstuck h hh) (next_ne_none (t := "") (.inl hholds))
  · have hpos : 0 < owners t gs := by
      rw [(hinv.entry_some (hinv.pcOk hi hpc)).2.2.2, hmu]
      decide
    obtain ⟨h, hh, hinside⟩ := countP_pos_iff.mp hpos
    exact absurd (hstuck h hh) (next_ne_none (.inr hinside))
  · exact (hinv.pcOk hi hfatal).elim

/-- A bound of the steps from a position to the next return to `idle`. -/
def stepsToIdle : LockPc → Nat
  | .lockCreate _ => 14
  | .load _ => 13
  | .store _ => 12
  | .increment .. => 11
  | .unlockCreate .. => 10
  | .lockMutex .. => 9
  | .critical _ => 8
  | .reload _ => 7
  | .unlockMutex .. => 6
  | .relockCreate .. => 5
  | .decrement .. => 4
  | .test .. => 3
  | .delete .. => 2
  | .leaveCreate => 1
  | .idle | .fatal => 0

/-- A bound of the steps that are left. -/
def stepsLeft (g : Goroutine) : Nat := 15 * g.todo.length + stepsToIdle g.pc

omit todos sched in
lemma stepsLeft_next (hg : gs[i]? = some g) (hnext : g.next x = some (g', y)) :
    ((gs.set i g').map stepsLeft).sum < (gs.map stepsLeft).sum := by
  have hsteps : stepsLeft g' < stepsLeft g := by
    unfold Goroutine.next at hnext
    cases hpc : g.pc <;> grind [stepsLeft, stepsToIdle]
  have hsum := sum_map_set_add (b := g') stepsLeft hg
  omega

/-- There is no deadlock and no endless run: each step brings the goroutines closer to their end, and when no step is
possible all of them have finished. -/
theorem orderLock_terminates :
    (∀ i y, lockSystem.step i (lockRun todos sched) = some y →
      (y.2.map stepsLeft).sum < ((lockRun todos sched).2.map stepsLeft).sum) ∧
    ((∀ i, lockSystem.step i (lockRun todos sched) = none) → ∀ g ∈ (lockRun todos sched).2, g.finished) := by
  constructor
  · intro i y hstep
    obtain ⟨g, g', x, hg, hnext, rfl⟩ := interleave_cases hstep
    exact stepsLeft_next hg hnext
  · intro hstuck g hg
    refine (lockInv_run todos sched).finished_of_stuck (fun h hh => ?_) hg
    obtain ⟨i, hi⟩ := mem_iff_getElem?.mp hh
    simpa [lockSystem, Program.interleave, hi] using hstuck i

end

end LoveApi.Proofs
