import LoveApi.UsageData
import Mathlib.Algebra.Order.BigOperators.Group.List

/-!
# What the usage statistics conserve

What is logged and what the increments add too much is what the table has gained and what is still in the maps of the
processes.
-/

namespace LoveApi.Proofs

open Program Go List Option

variable {row d : QuotaData} {rows : List QuotaData} {n : Nat} {sched : List (Nat × UsageAction)}

variable {key : QuotaKey} {cache : Table String QuotaData} {text : String}

/-! ### Amounts -/

inductive QuotaColumn
  | count
  | quota
  | tokenUsed

def QuotaColumn.of : QuotaColumn → QuotaData → Int
  | count => QuotaData.count
  | quota => QuotaData.quota
  | tokenUsed => QuotaData.tokenUsed

section Amounts

variable (column : QuotaColumn) (key : QuotaKey)

def share (row : QuotaData) : Int := if row.toQuotaKey = key then column.of row else 0

/-- What the rows have for a key. -/
def amount (rows : List QuotaData) : Int := (rows.map (share column key)).sum

/-- What the cache has for a key. -/
def cached (cache : Table String QuotaData) : Int := ((cache.row key.text).map (share column key)).getD 0

def excess (u : QuotaDataUpdate) : Int := ((u.rowsAffected : Int) - 1) * share column key u.quotaData

end Amounts

def leftEntries (p : UsageProcess) : Table String QuotaData :=
  match p.pc with
  | .idle => p.cacheQuotaData
  | .ranging left | .writing _ _ left => left

def currentEntry (p : UsageProcess) : Option QuotaData :=
  match p.pc with
  | .writing quotaData _ _ => some quotaData
  | _ => none

/-- What a process has still to write. -/
def pending (column : QuotaColumn) (key : QuotaKey) (p : UsageProcess) : Int :=
  cached column key (leftEntries p) + ((currentEntry p).map (share column key)).getD 0

section Amounts

variable {column : QuotaColumn}

lemma share_increase (d : QuotaData) (h : row.toQuotaKey = d.toQuotaKey) :
    share column key (row.increase d.count d.quota d.tokenUsed) = share column key row + share column key d := by
  unfold share
  rw [show (row.increase d.count d.quota d.tokenUsed).toQuotaKey = row.toQuotaKey from rfl, h]
  split
  · cases column <;> rfl
  · rfl

lemma amount_append (rows rows' : List QuotaData) :
    amount column key (rows ++ rows') = amount column key rows + amount column key rows' := by
  simp [amount]

lemma amount_singleton (row : QuotaData) : amount column key [row] = share column key row := by
  simp [amount]

lemma amount_increase (db : UsageDB) (d : QuotaData) : amount column key (db.increaseQuotaData d).quotaData =
      amount column key db.quotaData + (db.rowsOf d.toQuotaKey).length * share column key d := by
  unfold UsageDB.increaseQuotaData UsageDB.rowsOf amount
  induction db.quotaData with
  | nil => simp
  | cons row rows ih =>
    simp only [map_cons, sum_cons]
    rw [ih]
    by_cases h : row.toQuotaKey = d.toQuotaKey
    · rw [if_pos h, share_increase d h, filter_cons_of_pos (by simpa using h), length_cons]
      push_cast
      ring
    · rw [if_neg h, filter_cons_of_neg (by simpa using h)]
      ring

lemma cached_empty : cached column key .empty = 0 := rfl

lemma cached_of_keys_nil (h : cache.keys = []) : cached column key cache = 0 := by
  have hrow : cache.row key.text = none := by
    by_contra hsome
    have hmem := (cache.mem_keys _).mpr (isSome_iff_ne_none.mpr hsome)
    rw [h] at hmem
    cases hmem
  rw [cached, hrow]
  rfl

lemma cached_erase (column : QuotaColumn) (key : QuotaKey) (hrow : cache.row text = some row)
    (htext : row.toQuotaKey.text = text) :
    cached column key (cache.erase text) + share column key row = cached column key cache := by
  unfold cached
  rw [Table.row_erase]
  by_cases h : key.text = text
  · rw [if_pos h, h, hrow]
    simp
  · have hne : row.toQuotaKey ≠ key := fun hsame => h (hsame ▸ htext)
    rw [if_neg h, share, if_neg hne, add_zero]

lemma row_logQuotaDataCache {logged : QuotaKey} {quota tokenUsed : Int} :
    (logQuotaDataCache cache logged quota tokenUsed).row text =
      if text = logged.text then some (((cache.row text).map fun row => row.increase 1 quota tokenUsed).getD
        { logged with quota := quota, tokenUsed := tokenUsed })
      else cache.row text := by
  unfold logQuotaDataCache
  cases hrow : cache.row logged.text with
  | none =>
    dsimp only
    rw [Table.row_insert _ hrow]
    split
    · next h => rw [h, hrow]; rfl
    · rfl
  | some row =>
    dsimp only
    rw [Table.row_update]
    split
    · next h => rw [h, hrow]; rfl
    · rfl

lemma cached_log (column : QuotaColumn) (key : QuotaKey) (logged : QuotaKey) (quota tokenUsed : Int)
    (hsame : ∀ row ∈ cache.row logged.text, row.toQuotaKey = logged) :
    cached column key (logQuotaDataCache cache logged quota tokenUsed) =
      cached column key cache + share column key { logged with quota := quota, tokenUsed := tokenUsed } := by
  unfold cached
  rw [row_logQuotaDataCache]
  by_cases h : key.text = logged.text
  · rw [if_pos h, h]
    cases hrow : cache.row logged.text with
    | none => simp
    | some row => exact share_increase { logged with quota := quota, tokenUsed := tokenUsed } (hsame row hrow)
  · have hne : logged ≠ key := fun hsame => h (congrArg QuotaKey.text hsame).symm
    rw [if_neg h, share, if_neg hne, add_zero]

end Amounts

/-! ### The steps -/

structure UsageEntryOk (db : UsageDB) (d : QuotaData) : Prop where
  count : 1 ≤ d.count
  logged : ∃ e ∈ db.logged, e.toQuotaKey = d.toQuotaKey

structure ProcessOk (db : UsageDB) (p : UsageProcess) : Prop where
  entries : ∀ text d, (leftEntries p).row text = some d → d.toQuotaKey.text = text ∧ UsageEntryOk db d
  current : ∀ d ∈ currentEntry p, UsageEntryOk db d
  found : ∀ d left, p.pc = .writing d true left → db.rowsOf d.toQuotaKey ≠ []

def UpdatesOk (db : UsageDB) : Prop := ∀ u ∈ db.updates, 1 ≤ u.rowsAffected ∧ 1 ≤ u.quotaData.count

/-- No two logged keys share a text. -/
def DistinctTexts (logged : List QuotaData) : Prop :=
  ∀ d ∈ logged, ∀ e ∈ logged, d.toQuotaKey.text = e.toQuotaKey.text → d.toQuotaKey = e.toQuotaKey

def owed (column : QuotaColumn) (key : QuotaKey) (db : UsageDB) : Int :=
  amount column key db.logged + (db.updates.map (excess column key)).sum - amount column key db.quotaData

section Steps

variable {db db' : UsageDB} {p p' : UsageProcess} {a : UsageAction} {column : QuotaColumn}
variable {left : Table String QuotaData} {logged : QuotaKey} {quota tokenUsed : Int}

structure Later (db db' : UsageDB) : Prop where
  logged : db.logged <+: db'.logged
  rows : ∀ key, db.rowsOf key ≠ [] → db'.rowsOf key ≠ []

lemma Later.refl (db : UsageDB) : Later db db := ⟨prefix_rfl, fun _ h => h⟩

lemma rowsOf_ne_nil : db.rowsOf key ≠ [] ↔ ∃ row ∈ db.quotaData, row.toQuotaKey = key := by
  simp [UsageDB.rowsOf]

lemma later_increase (db : UsageDB) (d : QuotaData) : Later db (db.increaseQuotaData d) := by
  refine ⟨prefix_rfl, fun key h => ?_⟩
  rw [rowsOf_ne_nil] at h ⊢
  obtain ⟨row, hrow, hkey⟩ := h
  refine ⟨_, mem_map_of_mem hrow, ?_⟩
  split
  · exact hkey
  · exact hkey

lemma later_create (db : UsageDB) (d : QuotaData) : Later db (db.create d) := by
  refine ⟨prefix_rfl, fun key h => ?_⟩
  rw [rowsOf_ne_nil] at h ⊢
  obtain ⟨row, hrow, hkey⟩ := h
  exact ⟨row, mem_append_left _ hrow, hkey⟩

lemma UsageEntryOk.later (h : UsageEntryOk db d) (hlater : Later db db') : UsageEntryOk db' d := by
  obtain ⟨e, he, hkey⟩ := h.logged
  exact ⟨h.count, e, hlater.logged.subset he, hkey⟩

lemma ProcessOk.later (h : ProcessOk db p) (hlater : Later db db') : ProcessOk db' p where
  entries text d hrow := ⟨(h.entries text d hrow).1, (h.entries text d hrow).2.later hlater⟩
  current d hd := (h.current d hd).later hlater
  found d left hpc := hlater.rows _ (h.found d left hpc)

lemma entries_log (h : ∀ text d, cache.row text = some d → d.toQuotaKey.text = text ∧ UsageEntryOk db d)
    (hlater : Later db db') (hlogged : { logged with quota := quota, tokenUsed := tokenUsed } ∈ db'.logged) :
    ∀ text d, (logQuotaDataCache cache logged quota tokenUsed).row text = some d →
      d.toQuotaKey.text = text ∧ UsageEntryOk db' d := by
  intro text d hd
  rw [row_logQuotaDataCache] at hd
  split at hd
  · next htext =>
    cases hrow : cache.row text with
    | none =>
      rw [hrow] at hd
      cases hd
      exact ⟨htext.symm, le_rfl, _, hlogged, rfl⟩
    | some row =>
      rw [hrow] at hd
      cases hd
      obtain ⟨htext', hok⟩ := h text row hrow
      exact ⟨htext', Int.le_add_one hok.count, (hok.later hlater).logged⟩
  · obtain ⟨htext, hok⟩ := h text d hd
    exact ⟨htext, hok.later hlater⟩

structure StepOk (db : UsageDB) (p : UsageProcess) (db' : UsageDB) (p' : UsageProcess) : Prop where
  later : Later db db'
  process : ProcessOk db' p'
  updates : UpdatesOk db → UpdatesOk db'
  balance : DistinctTexts db'.logged → ∀ column key,
    pending column key p' - owed column key db' = pending column key p - owed column key db

lemma stepOk_log (h : ProcessOk db ⟨cache, .idle⟩) : StepOk db ⟨cache, .idle⟩
      { db with logged := db.logged ++ [{ logged with quota := quota, tokenUsed := tokenUsed }] }
      ⟨logQuotaDataCache cache logged quota tokenUsed, .idle⟩ := by
  set db' : UsageDB := { db with logged := db.logged ++ [{ logged with quota := quota, tokenUsed := tokenUsed }] }
  have hlater : Later db db' := ⟨prefix_append _ _, fun _ h => h⟩
  have hlast : { logged with quota := quota, tokenUsed := tokenUsed } ∈ db'.logged :=
    mem_append_right _ (mem_singleton_self _)
  refine ⟨hlater, ⟨entries_log h.entries hlater hlast, by rintro _ ⟨⟩, by rintro _ _ ⟨⟩⟩, fun hok => hok, ?_⟩
  intro hdistinct column key
  -- An entry with this text was logged under this key.
  have hsame : ∀ row ∈ cache.row logged.text, row.toQuotaKey = logged := by
    intro row hrow
    obtain ⟨htext, hok⟩ := h.entries _ row hrow
    obtain ⟨e, he, hkey⟩ := (hok.later hlater).logged
    rw [← hkey] at htext ⊢
    exact hdistinct e he _ hlast htext
  have hcached := cached_log column key logged quota tokenUsed hsame
  have howed : owed column key db' =
      owed column key db + share column key { logged with quota := quota, tokenUsed := tokenUsed } := by
    unfold owed
    rw [amount_append, amount_singleton]
    ring
  simp only [pending, leftEntries, currentEntry, hcached, howed]
  ring

lemma stepOk_find (h : ProcessOk db ⟨cache, .ranging left⟩) (hrow : left.row text = some d) :
    StepOk db ⟨cache, .ranging left⟩ db ⟨cache, .writing d (db.rowsOf d.toQuotaKey ≠ []) (left.erase text)⟩ := by
  obtain ⟨htext, hok⟩ := h.entries text d hrow
  refine ⟨Later.refl db, ⟨fun text' e he => ?_, ?_, ?_⟩, fun hok => hok, fun _ column key => ?_⟩
  · apply h.entries text' e
    rw [show (leftEntries ⟨cache, .writing d _ (left.erase text)⟩) = left.erase text from rfl, Table.row_erase] at he
    split at he
    · cases he
    · exact he
  · rintro _ ⟨⟩
    exact hok
  · intro e left' hpc
    injection hpc with hd hfound
    rw [← hd]
    exact of_decide_eq_true hfound
  · have hcached := cached_erase column key hrow htext
    simp only [pending, leftEntries, currentEntry, map_some, getD_some, map_none, getD_none]
    linarith

lemma stepOk_increase (h : ProcessOk db ⟨cache, .writing d true left⟩) :
    StepOk db ⟨cache, .writing d true left⟩ (db.increaseQuotaData d) ⟨cache, .ranging left⟩ := by
  have hlater := later_increase db d
  refine ⟨hlater, ⟨(h.later hlater).entries, by rintro _ ⟨⟩, by rintro _ _ ⟨⟩⟩, fun hok u hu => ?_,
    fun _ column key => ?_⟩
  · rcases mem_append.mp hu with hu | hu
    · exact hok u hu
    · rw [mem_singleton.mp hu]
      exact ⟨length_pos_of_ne_nil (h.found d left rfl), (h.current d rfl).count⟩
  · have howed : owed column key (db.increaseQuotaData d) = owed column key db - share column key d := by
      unfold owed
      rw [amount_increase, show (db.increaseQuotaData d).updates =
        db.updates ++ [⟨d, (db.rowsOf d.toQuotaKey).length⟩] from rfl, map_append, sum_append, map_singleton,
        sum_singleton, excess,
        show (db.increaseQuotaData d).logged = db.logged from rfl]
      ring
    simp only [pending, leftEntries, currentEntry, map_some, getD_some, map_none, getD_none, howed]
    ring

lemma stepOk_create (h : ProcessOk db ⟨cache, .writing d false left⟩) :
    StepOk db ⟨cache, .writing d false left⟩ (db.create d) ⟨cache, .ranging left⟩ := by
  have hlater := later_create db d
  refine ⟨hlater, ⟨(h.later hlater).entries, by rintro _ ⟨⟩, by rintro _ _ ⟨⟩⟩, fun hok => hok, fun _ column key => ?_⟩
  have howed : owed column key (db.create d) = owed column key db - share column key d := by
    unfold owed UsageDB.create
    rw [amount_append, amount_singleton]
    ring
  simp only [pending, leftEntries, currentEntry, map_some, getD_some, map_none, getD_none, howed]
  ring

lemma stepOk_of_step (h : ProcessOk db p) (hstep : usageStep a p db = some (p', db')) : StepOk db p db' p' := by
  unfold usageStep at hstep
  split at hstep
  · -- logQuotaData
    cases hstep
    exact stepOk_log h
  · -- saveQuotaDataCache
    cases hstep
    exact ⟨Later.refl db, ⟨h.entries, by rintro _ ⟨⟩, by rintro _ _ ⟨⟩⟩, fun hok => hok, fun _ _ _ => rfl⟩
  · -- find
    obtain ⟨d, hrow, hnext⟩ := map_eq_some_iff.mp hstep
    cases hnext
    exact stepOk_find h hrow
  · -- write
    cases hstep
    split
    · next hfound =>
      subst hfound
      exact stepOk_increase h
    · next hfound =>
      rw [Bool.not_eq_true] at hfound
      subst hfound
      exact stepOk_create h
  · -- finish
    split at hstep
    · next hleft =>
      cases hstep
      refine ⟨Later.refl db, ⟨by rintro _ _ ⟨⟩, by rintro _ ⟨⟩, by rintro _ _ ⟨⟩⟩, fun hok => hok,
        fun _ column key => ?_⟩
      simp only [pending, leftEntries, currentEntry, cached_of_keys_nil hleft, cached_empty]
    · cases hstep
  · cases hstep

end Steps

/-! ### Runs -/

/-- The table has gained, for every key and column, what was logged. -/
def Conserved (rows : List QuotaData) (db : UsageDB) : Prop :=
  ∀ key, ∀ column : QuotaColumn, amount column key db.quotaData = amount column key rows + amount column key db.logged

/-- Nothing is left to write. -/
def Flushed (p : UsageProcess) : Prop := p.cacheQuotaData.keys = [] ∧ p.pc = .idle

structure UsageInv (rows : List QuotaData) (x : UsageDB × List UsageProcess) : Prop where
  processes : ∀ p ∈ x.2, ProcessOk x.1 p
  updates : UpdatesOk x.1
  balance : DistinctTexts x.1.logged → ∀ column key,
    (x.2.map (pending column key)).sum - owed column key x.1 = amount column key rows

section Runs

variable {x y : UsageDB × List UsageProcess}

lemma usageInv_start : UsageInv rows (usageStart rows n) where
  processes p hp := by
    rw [eq_of_mem_replicate hp]
    exact ⟨by rintro _ _ ⟨⟩, by rintro _ ⟨⟩, by rintro _ _ ⟨⟩⟩
  updates u hu := by cases hu
  balance _ column key := by
    have hpending : pending column key {} = 0 := rfl
    simp [usageStart, hpending, owed, amount]

lemma UsageInv.step {a : Nat × UsageAction} (h : UsageInv rows x) (hstep : usageSystem.step a x = some y) :
    UsageInv rows y := by
  obtain ⟨p, p', db', hp, hnext, rfl⟩ := components_cases hstep
  have hok := stepOk_of_step (h.processes p (mem_of_getElem? hp)) hnext
  refine ⟨forall_mem_set h.processes (fun q hq => hq.later hok.later) hok.process, hok.updates h.updates, ?_⟩
  intro hdistinct column key
  have hbefore : DistinctTexts x.1.logged := fun d hd e he =>
    hdistinct d (hok.later.logged.subset hd) e (hok.later.logged.subset he)
  have hsum := sum_map_set_add (b := p') (pending column key) hp
  have hbalance := hok.balance hdistinct column key
  have hold := h.balance hbefore column key
  linarith

lemma amount_flushed (h : UsageInv rows x) (hdistinct : DistinctTexts x.1.logged) (hflushed : ∀ p ∈ x.2, Flushed p)
    (column : QuotaColumn) (key : QuotaKey) :
    amount column key x.1.quotaData =
      amount column key rows + amount column key x.1.logged + (x.1.updates.map (excess column key)).sum := by
  have hpending : (x.2.map (pending column key)).sum = 0 := by
    apply sum_eq_zero
    intro t ht
    obtain ⟨⟨cache, pc⟩, hp, rfl⟩ := mem_map.mp ht
    obtain ⟨hempty, hidle⟩ := hflushed _ hp
    subst hidle
    simp only [pending, leftEntries, currentEntry, cached_of_keys_nil hempty]
    rfl
  have hbalance := h.balance hdistinct column key
  unfold owed at hbalance
  linarith

lemma excess_count_nonneg (h : UpdatesOk x.1) (key : QuotaKey) : ∀ u ∈ x.1.updates, 0 ≤ excess .count key u := by
  intro u hu
  obtain ⟨hrows, hcount⟩ := h u hu
  unfold excess share
  refine mul_nonneg (by omega) ?_
  split
  · exact Int.le_trans (by decide) hcount
  · exact le_rfl

/-- If the keys that were logged have different texts, then after all processes have flushed the table has gained what
was logged if and only if every increment was an increment of one row. -/
theorem usage_conserved_iff (hx : usageSystem.run sched (usageStart rows n) = x)
    (hdistinct : DistinctTexts x.1.logged) (hflushed : ∀ p ∈ x.2, Flushed p) :
    Conserved rows x.1 ↔ ∀ u ∈ x.1.updates, u.rowsAffected = 1 := by
  have hinv : UsageInv rows x :=
    hx ▸ System.run_induction (fun _ _ _ _ hstep h => h.step hstep) usageInv_start
  constructor
  · intro h u hu
    -- The excess of the counts of the key is a sum of terms that are not negative.
    have hsum := amount_flushed hinv hdistinct hflushed .count u.quotaData.toQuotaKey
    rw [h u.quotaData.toQuotaKey .count] at hsum
    have hnonneg := excess_count_nonneg hinv.updates u.quotaData.toQuotaKey
    have hle : excess .count u.quotaData.toQuotaKey u ≤
        (x.1.updates.map (excess .count u.quotaData.toQuotaKey)).sum := by
      refine single_le_sum (fun t ht => ?_) _ (mem_map_of_mem hu)
      obtain ⟨v, hv, rfl⟩ := mem_map.mp ht
      exact hnonneg v hv
    obtain ⟨hrows, hcount⟩ := hinv.updates u hu
    have hexcess : excess .count u.quotaData.toQuotaKey u = ((u.rowsAffected : Int) - 1) * u.quotaData.count := by
      rw [excess, share, if_pos rfl]
      rfl
    have hzero : ((u.rowsAffected : Int) - 1) * 1 ≤ ((u.rowsAffected : Int) - 1) * u.quotaData.count :=
      Int.mul_le_mul_of_nonneg_left hcount (by omega)
    omega
  · intro h key column
    rw [amount_flushed hinv hdistinct hflushed]
    have hzero : (x.1.updates.map (excess column key)).sum = 0 := by
      apply sum_eq_zero
      intro t ht
      obtain ⟨u, hu, rfl⟩ := mem_map.mp ht
      rw [excess, h u hu]
      simp
    rw [hzero, add_zero]

def sampleKey : QuotaKey := ⟨1, "u", "m", 3600⟩

def logAndSave (i : Nat) : List (Nat × UsageAction) :=
  [(i, .logQuotaData sampleKey 5 7), (i, .saveQuotaDataCache), (i, .find sampleKey.text), (i, .write), (i, .finish)]

instance (p : UsageProcess) : Decidable (Flushed p) :=
  match p with
  | ⟨cache, .idle⟩ => decidable_of_iff (cache.keys = []) ⟨fun h => ⟨h, rfl⟩, And.left⟩
  | ⟨_, .ranging _⟩ => isFalse fun h => by cases h.2
  | ⟨_, .writing _ _ _⟩ => isFalse fun h => by cases h.2

instance (logged : List QuotaData) : Decidable (DistinctTexts logged) := decidableBAll _ _

theorem usage_conserved_two : Conserved [] (usageSystem.run (logAndSave 0 ++ logAndSave 1) (usageStart [] 2)).1 :=
  (usage_conserved_iff rfl (by decide +kernel) (by decide +kernel)).mpr (by decide +kernel)

/-- Two processes look for the row at the same time and both insert one, and the next request is added to both rows:
the table counts four requests, and three were logged. Besides, two keys with the same text in one process: both
requests are counted for the first one. -/
theorem usage_duplicate_counterexample :
    let sched : List (Nat × UsageAction) :=
      [(0, .logQuotaData sampleKey 5 7), (1, .logQuotaData sampleKey 5 7), (0, .saveQuotaDataCache),
        (1, .saveQuotaDataCache), (0, .find sampleKey.text), (1, .find sampleKey.text), (0, .write), (1, .write),
        (0, .finish), (1, .finish)] ++ logAndSave 0
    let x := usageSystem.run sched (usageStart [] 2)
    let y := usageSystem.run [(0, .logQuotaData ⟨1, "u", "a-b", 3600⟩ 5 7),
      (0, .logQuotaData ⟨1, "u-a", "b", 3600⟩ 5 7),
      (0, .saveQuotaDataCache), (0, .find "1-u-a-b-3600"), (0, .write), (0, .finish)] (usageStart [] 1)
    (DistinctTexts x.1.logged ∧ (∀ p ∈ x.2, Flushed p) ∧ amount .count sampleKey x.1.quotaData = 4 ∧
      amount .count sampleKey x.1.logged = 3) ∧
    (∀ p ∈ y.2, Flushed p) ∧ amount .count ⟨1, "u", "a-b", 3600⟩ y.1.quotaData = 2 ∧
      amount .count ⟨1, "u", "a-b", 3600⟩ y.1.logged = 1 ∧ amount .count ⟨1, "u-a", "b", 3600⟩ y.1.quotaData = 0 := by
  decide +kernel

end Runs

end LoveApi.Proofs
