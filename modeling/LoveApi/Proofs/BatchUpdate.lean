import LoveApi.BatchUpdate

/-!
# Conservation in the batch updater

An amount is recorded, waits in a map of the store, is in flight after a run has taken its map out, and is applied by an
update.
-/

namespace LoveApi.Proofs

open Program List Option

variable {action : BatchAction} {s : BatchState} {key value : Int} {sched : List BatchAction}

variable {stores : BatchType → Table Int Int} {pc pc' : BatchPc}

variable {s' : BatchState} {store : Table Int Int} (type : BatchType) (id : Int)

/-! ### The amounts of a map -/

omit type in
lemma storeAmount_insert (h : store.row key = none) :
    storeAmount id (store.insert key value) = storeAmount id store + if id = key then value else 0 := by
  unfold storeAmount
  rw [Table.row_insert value h]
  by_cases hid : id = key
  · simp [hid, h]
  · simp [hid]

omit type in
lemma storeAmount_update (h : store.row key = some value) {n : Int} :
    storeAmount id (store.update key (· + n)) = storeAmount id store + if id = key then n else 0 := by
  unfold storeAmount
  rw [Table.row_update]
  by_cases hid : id = key
  · simp [hid, h]
  · simp [hid]

omit type in
lemma storeAmount_erase (h : store.row key = some value) :
    storeAmount id (store.erase key) + (if id = key then value else 0) = storeAmount id store := by
  unfold storeAmount
  rw [Table.row_erase]
  by_cases hid : id = key
  · simp [hid, h]
  · simp [hid]

omit type in
lemma storeAmount_of_keys_nil (h : store.keys = []) : storeAmount id store = 0 := by
  have hrow : store.row id = none := by
    rw [← not_isSome_iff_eq_none, ← store.mem_keys, h]
    exact not_mem_nil
  rw [storeAmount, hrow, getD_none]

/-! ### What the steps do with the amounts -/

lemma stored_addNewRecord (record : BatchRecord) :
    (s.addNewRecord record).stored type id = s.stored type id + record.amount type id := by
  unfold BatchState.stored BatchState.addNewRecord BatchRecord.amount
  by_cases htype : type = record.type
  · subst htype
    dsimp only
    cases hrow : (s.batchUpdateStores record.type).row record.id with
    | none => simp [storeAmount_insert id hrow, eq_comm]
    | some value => simp [storeAmount_update id hrow, eq_comm]
  · simp [Function.update_of_ne htype, Ne.symm htype]

@[simp] lemma pc_update (record : BatchRecord) : (s.update record).pc = s.pc := by
  unfold BatchState.update
  cases record.type <;> rfl

@[simp] lemma batchUpdateStores_update {record : BatchRecord} :
    (s.update record).batchUpdateStores = s.batchUpdateStores := by
  unfold BatchState.update
  cases record.type <;> rfl

@[simp] lemma updates_update {record : BatchRecord} : (s.update record).updates = s.updates ++ [record] := by
  unfold BatchState.update
  cases record.type <;> rfl

def totalAmount (s : BatchState) : Int := s.applied type id + s.stored type id + s.pc.inFlight type id

inductive GoesOn (stores : BatchType → Table Int Int) : BatchPc → BatchPc → Prop
  | noData : GoesOn stores (.scanning []) .idle
  | empty {type types} (h : (stores type).keys = []) : GoesOn stores (.scanning (type :: types)) (.scanning types)
  | data {types} : GoesOn stores (.scanning types) (.swapping BatchType.all)
  | finished : GoesOn stores (.swapping []) .idle
  | applied {type store types} (h : store.keys = []) : GoesOn stores (.applying type store types) (.swapping types)

omit type id in
lemma step_batchUpdate (hidle : s.pc = .idle) :
    batchSystem.step .batchUpdate s = some { s with pc := .scanning BatchType.all } := by
  simp only [batchSystem, hidle]

omit type id in
lemma batchUpdate_cases (h : batchSystem.step .batchUpdate s = some s') :
    s.pc = .idle ∧ s' = { s with pc := .scanning BatchType.all } := by
  cases hpc : s.pc with
  | idle =>
    rw [step_batchUpdate hpc] at h
    exact ⟨rfl, (some.inj h).symm⟩
  | _ => simp [batchSystem, hpc] at h

omit type id in
lemma next_cases (h : s.next = some s') : (∃ pc, GoesOn s.batchUpdateStores s.pc pc ∧ s' = { s with pc := pc }) ∨
    ∃ type types, s.pc = .swapping (type :: types) ∧ s' = { s with
      batchUpdateStores := Function.update s.batchUpdateStores type .empty
      pc := .applying type (s.batchUpdateStores type) types } := by
  unfold BatchState.next at h
  cases hpc : s.pc with
  | idle => simp [hpc] at h
  | scanning types =>
    cases types with
    | nil =>
      simp only [hpc, some.injEq] at h
      exact .inl ⟨_, .noData, h.symm⟩
    | cons type types =>
      simp only [hpc] at h
      split at h
      · exact .inl ⟨_, .empty ‹_›, (some.inj h).symm⟩
      · exact .inl ⟨_, .data, (some.inj h).symm⟩
  | swapping types =>
    cases types with
    | nil =>
      simp only [hpc, some.injEq] at h
      exact .inl ⟨_, .finished, h.symm⟩
    | cons type types =>
      simp only [hpc, some.injEq] at h
      exact .inr ⟨type, types, rfl, h.symm⟩
  | applying type store types =>
    simp only [hpc] at h
    split at h
    · exact .inl ⟨_, .applied ‹_›, (some.inj h).symm⟩
    · cases h

omit type id in
lemma apply_cases (h : s.apply key = some s') :
    ∃ type store types value, s.pc = .applying type store types ∧ store.row key = some value ∧
      s' = { s with pc := .applying type (store.erase key) types }.update ⟨type, key, value⟩ := by
  unfold BatchState.apply at h
  cases hpc : s.pc with
  | applying type store types =>
    simp only [hpc, map_eq_some_iff] at h
    obtain ⟨value, hrow, rfl⟩ := h
    exact ⟨type, store, types, value, rfl, hrow, rfl⟩
  | _ => simp [hpc] at h

lemma inFlight_goesOn (h : GoesOn stores pc pc') : pc'.inFlight type id = pc.inFlight type id := by
  cases h with
  | applied hnil => simp only [BatchPc.inFlight, storeAmount_of_keys_nil id hnil, ite_self]
  | _ => rfl

lemma totalAmount_next (h : s.next = some s') : totalAmount type id s' = totalAmount type id s := by
  rcases next_cases h with ⟨pc, hgoes, rfl⟩ | ⟨type', types, hpc, rfl⟩
  · unfold totalAmount
    rw [← inFlight_goesOn type id hgoes]
    rfl
  · -- the map of the type is in flight now
    simp only [totalAmount, BatchState.stored, BatchState.applied, hpc, BatchPc.inFlight]
    by_cases htype : type = type'
    · subst htype
      rw [Function.update_self, if_pos rfl, storeAmount_of_keys_nil id rfl]
      omega
    · rw [Function.update_of_ne htype, if_neg (Ne.symm htype)]

lemma totalAmount_apply (h : s.apply key = some s') : totalAmount type id s' = totalAmount type id s := by
  obtain ⟨type', store, types, value, hpc, hrow, rfl⟩ := apply_cases h
  have herase := storeAmount_erase id hrow
  simp only [totalAmount, BatchState.stored, BatchState.applied, pc_update, batchUpdateStores_update, updates_update,
    map_append, sum_append, map_cons, map_nil, sum_cons, sum_nil, BatchRecord.amount, hpc,
    BatchPc.inFlight]
  by_cases htype : type' = type
  · simp only [htype, true_and, if_true, eq_comm (a := key)]
    omega
  · simp only [htype, false_and, if_false]
    omega

lemma totalAmount_step (h : batchSystem.step action s = some s') :
    totalAmount type id s' = totalAmount type id s + action.amount type id := by
  cases action with
  | addNewRecord record =>
    cases h
    have hstored := stored_addNewRecord (s := s) type id record
    unfold totalAmount
    change s.applied type id + _ + s.pc.inFlight type id = _ + record.amount type id
    omega
  | batchUpdate =>
    obtain ⟨hidle, rfl⟩ := batchUpdate_cases h
    simp only [totalAmount, hidle, BatchAction.amount, add_zero]
    rfl
  | next => exact (totalAmount_next type id h).trans (add_zero _).symm
  | apply key => exact (totalAmount_apply type id h).trans (add_zero _).symm

/-- A run stores and keeps exactly what it adds. -/
theorem totalAmount_run :
    totalAmount type id (batchSystem.run sched s) = totalAmount type id s + addedAmount type id sched := by
  apply System.run_sum
  · exact fun action s s' h => totalAmount_step type id h
  · intro action s h
    cases action with
    | addNewRecord record => cases h
    | _ => rfl

/-! ### A whole run of the updater -/

def typesLeft : BatchPc → List BatchType
  | .idle => []
  | .scanning types | .swapping types | .applying _ _ types => types

def Swept (stores : BatchType → Table Int Int) (pc : BatchPc) : Prop := ∀ type ∉ typesLeft pc, (stores type).keys = []

lemma mem_batchTypes : type ∈ BatchType.all := by
  cases type <;> decide

omit type id in
lemma Swept.goesOn (hswept : Swept stores pc) (h : GoesOn stores pc pc') : Swept stores pc' := by
  cases h with
  | @empty type' types hnil =>
    intro type htype
    by_cases heq : type = type'
    · rw [heq]
      exact hnil
    · exact hswept type (not_mem_cons_of_ne_of_not_mem heq htype)
  | data => exact fun type htype => absurd (mem_batchTypes type) htype
  | _ => exact hswept

omit type id in
lemma Swept.step (hadd : ∀ record, action ≠ .addNewRecord record) (h : batchSystem.step action s = some s')
    (hswept : Swept s.batchUpdateStores s.pc) :
    Swept s'.batchUpdateStores s'.pc := by
  cases action with
  | addNewRecord record => exact absurd rfl (hadd record)
  | batchUpdate =>
    obtain ⟨-, rfl⟩ := batchUpdate_cases h
    exact fun type htype => absurd (mem_batchTypes type) htype
  | next =>
    rcases next_cases h with ⟨pc, hgoes, rfl⟩ | ⟨type', types, hpc, rfl⟩
    · exact hswept.goesOn hgoes
    · intro type htype
      dsimp only
      by_cases heq : type = type'
      · rw [heq, Function.update_self]
        rfl
      · rw [Function.update_of_ne heq]
        apply hswept
        rw [hpc]
        exact not_mem_cons_of_ne_of_not_mem heq htype
  | apply key =>
    obtain ⟨type', store, types, value, hpc, hrow, rfl⟩ := apply_cases h
    rw [batchUpdateStores_update, pc_update]
    rw [hpc] at hswept
    exact hswept

omit type id in
lemma swept_run (hadd : ∀ record, BatchAction.addNewRecord record ∉ sched) (hidle : s.pc = .idle) :
    Swept (batchSystem.run (.batchUpdate :: sched) s).batchUpdateStores
      (batchSystem.run (.batchUpdate :: sched) s).pc := by
  rw [System.run, step_batchUpdate hidle, getD_some]
  apply System.run_induction (I := fun s : BatchState => Swept s.batchUpdateStores s.pc)
  · intro action haction s s' hstep hswept
    exact hswept.step (fun record h => hadd record (h ▸ haction)) hstep
  · exact fun type htype => absurd (mem_batchTypes type) htype

/-- The steps of the updater can lead to the end of its run. -/
def Finishes (s : BatchState) : Prop :=
  ∃ sched : List BatchAction, (∀ action ∈ sched, action = .next ∨ ∃ key, action = .apply key) ∧
    (batchSystem.run sched s).pc = .idle

section Finishes

omit type id

lemma Finishes.of_step (haction : action = .next ∨ ∃ key, action = .apply key)
    (hstep : batchSystem.step action s = some s') (h : Finishes s') : Finishes s := by
  obtain ⟨sched, hsched, hidle⟩ := h
  refine ⟨action :: sched, forall_mem_cons.mpr ⟨haction, hsched⟩, ?_⟩
  rw [System.run, hstep]
  exact hidle

lemma Finishes.of_next (hstep : s.next = some s') (h : Finishes s') : Finishes s := h.of_step (.inl rfl) hstep

lemma finishes_applying {type : BatchType} {types : List BatchType}
    (hnext : ∀ s : BatchState, Finishes { s with pc := .swapping types }) (n : Nat) (s : BatchState)
    (store : Table Int Int) (hpc : s.pc = .applying type store types) (hn : store.keys.length < n) : Finishes s := by
  induction n generalizing s store with
  | zero => exact absurd hn (Nat.not_lt_zero _)
  | succ n ih =>
    cases hkeys : store.keys with
    | nil =>
      have hstep : s.next = some { s with pc := .swapping types } := by simp only [BatchState.next, hpc, hkeys, if_true]
      exact .of_next hstep (hnext s)
    | cons key keys =>
      have hmem : key ∈ store.keys := by simp [hkeys]
      obtain ⟨value, hrow⟩ := isSome_iff_exists.mp ((store.mem_keys key).mp hmem)
      have hstep : s.apply key = some ({ s with pc := .applying type (store.erase key) types }.update
          ⟨type, key, value⟩) := by
        simp only [BatchState.apply, hpc, hrow, map_some]
      apply Finishes.of_step (.inr ⟨key, rfl⟩) hstep
      apply ih _ (store.erase key)
      · rw [pc_update]
      · have hlt : (store.erase key).keys.length < store.keys.length :=
          length_filter_lt_length_iff_exists.mpr ⟨key, hmem, by simp⟩
        omega

lemma finishes_swapping (types : List BatchType) (s : BatchState) : Finishes { s with pc := .swapping types } := by
  induction types generalizing s with
  | nil => exact .of_next rfl ⟨[], by simp, rfl⟩
  | cons type types ih => exact .of_next rfl (finishes_applying ih _ _ _ rfl (Nat.lt_succ_self _))

lemma finishes_scanning (types : List BatchType) (s : BatchState) : Finishes { s with pc := .scanning types } := by
  induction types generalizing s with
  | nil => exact .of_next rfl ⟨[], by simp, rfl⟩
  | cons type types ih =>
    by_cases hnil : (s.batchUpdateStores type).keys = []
    · exact .of_next (if_pos hnil) (ih s)
    · exact .of_next (if_neg hnil) (finishes_swapping _ s)

lemma batchUpdate_finishes (s : BatchState) : Finishes s := by
  cases hpc : s.pc with
  | idle => exact ⟨[], by simp, hpc⟩
  | scanning types =>
    have h := finishes_scanning types s
    rwa [← hpc] at h
  | swapping types =>
    have h := finishes_swapping types s
    rwa [← hpc] at h
  | applying type store types => exact finishes_applying (finishes_swapping types) _ s store hpc (Nat.lt_succ_self _)

end Finishes

/-! ### The tables -/

omit type in
lemma map_row_update {α : Type} (t : Table Int α) (key n : Int) (f : α → α) (column : α → Int)
    (hcolumn : ∀ a, column (f a) = column a + n) :
    ((t.update key f).row id).map column = ((t.row id).map column).map (· + if key = id then n else 0) := by
  rw [Table.row_update]
  by_cases hid : id = key
  · subst hid
    simp only [if_true, Option.map_map]
    congr 1
    funext a
    exact hcolumn a
  · rw [if_neg hid, if_neg (Ne.symm hid)]
    cases t.row id <;> simp

omit type in
lemma map_row_update_of_eq {α : Type} {t : Table Int α} {f : α → α} {column : α → Int}
    (hcolumn : ∀ a, column (f a) = column a) : ((t.update key f).row id).map column = (t.row id).map column := by
  rw [map_row_update id t key 0 f column fun a => (hcolumn a).trans (add_zero _).symm]
  cases t.row id <;> simp

lemma column_update {record : BatchRecord} :
    (s.update record).column type id = (s.column type id).map (· + record.amount type id) := by
  obtain ⟨type', key, value⟩ := record
  by_cases htype : type' = type
  · subst htype
    simp only [BatchRecord.amount, true_and]
    cases type' with
    | userQuota => exact map_row_update id s.db.users key value _ User.quota fun _ => rfl
    | tokenQuota => exact map_row_update id s.db.tokens key value _ Token.remainQuota fun _ => rfl
    | usedQuota => exact map_row_update id s.db.users key value _ User.usedQuota fun _ => rfl
    | requestCount => exact map_row_update id s.db.users key value _ User.requestCount fun _ => rfl
    | channelUsedQuota =>
      have h := map_row_update id s.channelUsedQuota key value (· + value) (fun n => n) fun _ => rfl
      simp only [Option.map_id'] at h
      exact h
  · have hother : (s.update ⟨type', key, value⟩).column type id = s.column type id := by
      cases type <;> cases type' <;> first
        | exact absurd rfl htype
        | rfl
        | exact map_row_update_of_eq id fun _ => rfl
    rw [hother]
    simp [BatchRecord.amount, htype]

lemma applied_update {record : BatchRecord} :
    (s.update record).applied type id = s.applied type id + record.amount type id := by
  simp [BatchState.applied]

lemma column_run : (batchSystem.run sched s).column type id =
      (s.column type id).map (· + ((batchSystem.run sched s).applied type id - s.applied type id)) := by
  apply System.run_induction (I := fun y : BatchState =>
    y.column type id = (s.column type id).map (· + (y.applied type id - s.applied type id)))
  · intro action _ x y hstep hx
    cases action with
    | addNewRecord record =>
      cases hstep
      exact hx
    | batchUpdate =>
      obtain ⟨-, rfl⟩ := batchUpdate_cases hstep
      exact hx
    | next =>
      rcases next_cases hstep with ⟨pc, -, rfl⟩ | ⟨type', types, -, rfl⟩
      · exact hx
      · exact hx
    | apply key =>
      obtain ⟨type', store, types, value, -, -, rfl⟩ := apply_cases hstep
      rw [column_update, applied_update]
      change Option.map _ (x.column type id) = _
      rw [hx, Option.map_map]
      congr 1
      funext n
      change n + (x.applied type id - _) + _ = n + (x.applied type id + _ - _)
      omega
  · simp

lemma column_of_drained (hpc : (batchSystem.run sched s).pc.inFlight type id = 0)
    (hstored : (batchSystem.run sched s).stored type id = 0) : (batchSystem.run sched s).column type id =
      (s.column type id).map (· + (s.stored type id + s.pc.inFlight type id + addedAmount type id sched)) := by
  have htotal := @totalAmount_run s sched type id
  unfold totalAmount at htotal
  have happlied : (batchSystem.run sched s).applied type id - s.applied type id =
      s.stored type id + s.pc.inFlight type id + addedAmount type id sched := by
    omega
  rw [column_run, happlied]

lemma addedAmount_append {after : List BatchAction} (h : ∀ record, BatchAction.addNewRecord record ∉ after) :
    addedAmount type id (sched ++ after) = addedAmount type id sched := by
  rw [addedAmount, map_append, sum_append]
  apply add_eq_left.mpr
  apply sum_eq_zero
  intro n hn
  obtain ⟨a, ha, rfl⟩ := mem_map.mp hn
  cases a with
  | addNewRecord record => exact absurd ha (h record)
  | _ => rfl

/-- Whatever has happened, the updater can get to a state in which nothing waits, and each column then holds what it
held at the start and all that has been recorded for it. -/
theorem batchUpdate_drains (s : BatchState) (sched : List BatchAction) :
    ∃ after, (∀ record, BatchAction.addNewRecord record ∉ after) ∧ ∀ type id,
      (batchSystem.run (sched ++ after) s).stored type id = 0 ∧
      (batchSystem.run (sched ++ after) s).column type id = (s.column type id).map
        (· + (s.stored type id + s.pc.inFlight type id + addedAmount type id sched)) := by
  have hno {l : List BatchAction} (h : ∀ a ∈ l, a = .next ∨ ∃ key, a = .apply key) (record) :
      .addNewRecord record ∉ l := fun hmem => by simpa using h _ hmem
  -- the run that is under way ends, and one more run takes out what has come in the meantime
  obtain ⟨before, hbefore, hidle⟩ := batchUpdate_finishes (batchSystem.run sched s)
  rw [← System.run_append] at hidle
  obtain ⟨after, hafter, hdone⟩ := batchUpdate_finishes (batchSystem.run (sched ++ before ++ [.batchUpdate]) s)
  have hnone : ∀ record, BatchAction.addNewRecord record ∉ before ++ .batchUpdate :: after := by
    simp [hno hbefore, hno hafter]
  refine ⟨_, hnone, fun type id => ?_⟩
  have hswept := swept_run (hno hafter) hidle
  rw [← System.run_append] at hswept hdone
  simp only [append_assoc, cons_append, nil_append] at hswept hdone
  rw [hdone] at hswept
  have hstored : BatchState.stored type id _ = 0 := storeAmount_of_keys_nil id (hswept type not_mem_nil)
  refine ⟨hstored, ?_⟩
  rw [column_of_drained type id (by rw [hdone]; rfl) hstored, addedAmount_append type id hnone]

/-! ### The database model -/

lemma toDB_addNewRecord {record : BatchRecord} :
    (s.addNewRecord record).toDB = s.toDB.addRecord record.type record.id record.value := by
  have hstores : (fun type id => (s.addNewRecord record).stored type id) = fun type id =>
      if type = record.type ∧ id = record.id then s.stored type id + record.value else s.stored type id := by
    funext type id
    rw [stored_addNewRecord, BatchRecord.amount]
    by_cases h : record.type = type ∧ record.id = id
    · obtain ⟨rfl, rfl⟩ := h
      simp
    · have h' : ¬ (type = record.type ∧ id = record.id) := fun h' => h ⟨h'.1.symm, h'.2.symm⟩
      rw [if_neg h, if_neg h', add_zero]
  exact congrArg (fun stores => ({ s.db with batchUpdateStores := stores } : DB)) hstores

end LoveApi.Proofs
