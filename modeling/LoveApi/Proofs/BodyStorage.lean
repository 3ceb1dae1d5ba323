import LoveApi.BodyStorage
import Mathlib.Data.List.Induction

/-!
# Storages of one body

The storage on disk refines the one in memory.
-/

namespace LoveApi.Proofs

lemma bind_of_ok {α β : Type} {x : CursorM α} {f : α → CursorM β} {r r' : Cursor} {a : α} (h : x r = (.ok a, r')) :
    (x >>= f) r = f a r' := by
  simp only [bind, ExceptT.bind, ExceptT.mk, StateT.bind, h]
  rfl

lemma bmod_position {p : Nat} (h : p < 2 ^ 63) : (p : Int).bmod (2 ^ 64) = p :=
  Int.bmod_eq_of_le (by omega) (by omega)

lemma seek_current (r : Cursor) : Cursor.seek 0 1 r = (.ok r.pos, r) := by
  simp only [Cursor.seek, Int.one_ne_zero, if_false, if_true, Int.add_zero, bmod_position r.pos_lt, Int.natCast_nonneg,
    Int.toNat_natCast]

lemma seek_start {r : Cursor} {p : Nat} (h : p < 2 ^ 63) :
    Cursor.seek p 0 r = (.ok p, { r with pos := p, pos_lt := h }) := by
  simp only [Cursor.seek, if_true, Int.zero_add, bmod_position h, Int.natCast_nonneg, Int.toNat_natCast]

lemma readFull_open (body : Body) :
    ∃ r, Cursor.readFull body.bytes.length body.open = (.ok body.bytes, r) ∧ r.toBody = body := by
  by_cases hn : body.bytes.length = 0
  · refine ⟨body.open, ?_, rfl⟩
    rw [Cursor.readFull, if_pos hn, List.length_eq_zero_iff.mp hn]
    rfl
  · have hread : Cursor.fileRead body.bytes.length body.open =
        (.ok body.bytes, (Cursor.read body.bytes.length body.open).2) := by
      simp [Cursor.fileRead, Cursor.read, Body.open, hn]
    refine ⟨(Cursor.read body.bytes.length body.open).2, ?_, by simp [Cursor.read, Body.open, hn]⟩
    rw [Cursor.readFull, if_neg hn, bind_of_ok hread, if_neg (lt_irrefl _)]
    rfl

lemma bytes_eq {d : DiskStorage} (h : d.size = d.file.bytes.length) : d.bytes d.file = (.ok d.file.bytes, d.file) := by
  obtain ⟨r, hread, hbody⟩ := readFull_open d.file.toBody
  have hstart : Cursor.seek 0 0 d.file = (.ok 0, d.file.open) := @seek_start d.file 0 (by decide)
  rw [DiskStorage.bytes, bind_of_ok (seek_current _), bind_of_ok hstart, h, bind_of_ok hread,
    bind_of_ok (seek_start d.file.pos_lt), hbody]
  rfl

def onDisk (m : MemoryStorage) : DiskStorage := ⟨m.reader, m.size, m.closed⟩

lemma onFile_onDisk {α : Type} {m : MemoryStorage} {op op' : CursorM α} {reply : α → StorageReply}
    (h : op' m.reader = op m.reader) : (onDisk m).onFile op' reply = (m.onReader op reply).map id onDisk := by
  cases hclosed : m.closed <;> simp [DiskStorage.onFile, MemoryStorage.onReader, onDisk, h, hclosed]

structure HoldsBody (body : Body) (calls : List StorageCall) (m : MemoryStorage) : Prop where
  data : m.data = body.bytes
  reader : m.reader.toBody = body
  size : m.size = body.bytes.length
  closed : .close ∈ calls → m.closed

namespace HoldsBody

variable {body : Body} {m : MemoryStorage} {calls : List StorageCall}

lemma call_onDisk (h : HoldsBody body calls m) (c : StorageCall) : (onDisk m).call c = (m.call c).map id onDisk := by
  cases c with
  | read p => exact onFile_onDisk (congrFun (if_neg p.ne_zero) m.reader)
  | seek offset whence => exact onFile_onDisk rfl
  | bytes =>
    apply onFile_onDisk
    rw [h.data, ← h.reader]
    exact @bytes_eq (onDisk m) (by rw [onDisk, h.reader, h.size])
  | size | close => rfl

lemma onReader {α : Type} (h : HoldsBody body calls m) {op : CursorM α} {reply : α → StorageReply}
    (hop : (op m.reader).2.toBody = m.reader.toBody) : HoldsBody body calls (m.onReader op reply).2 := by
  unfold MemoryStorage.onReader
  split
  · exact h
  · exact ⟨h.data, hop.trans h.reader, h.size, h.closed⟩

lemma concat (h : HoldsBody body calls m) {c : StorageCall} (hc : .close ≠ c) : HoldsBody body (calls ++ [c]) m :=
  { h with closed := fun hmem => h.closed (by simpa [hc] using hmem) }

lemma call (h : HoldsBody body calls m) (c : StorageCall) : HoldsBody body (calls ++ [c]) (m.call c).2 := by
  cases c with
  | read p =>
    apply (h.concat (c := .read p) (by simp)).onReader
    unfold Cursor.read
    split <;> rfl
  | seek offset whence =>
    apply (h.concat (c := .seek offset whence) (by simp)).onReader
    grind [Cursor.seek]
  | bytes =>
    apply (h.concat (c := .bytes) (by simp)).onReader
    rfl
  | size => exact h.concat (by simp)
  | close => exact ⟨h.data, h.reader, h.size, fun _ => rfl⟩

end HoldsBody

lemma foldl_onDisk (body : Body) (calls : List StorageCall) :
    let m := calls.foldl (fun m c => (m.call c).2) (newMemoryStorage body)
    HoldsBody body calls m ∧ calls.foldl (fun d c => (d.call c).2) (newDiskStorage body) = onDisk m := by
  induction calls using List.reverseRecOn with
  | nil => exact ⟨⟨rfl, rfl, rfl, nofun⟩, rfl⟩
  | append_singleton calls c ih =>
    obtain ⟨h, hdisk⟩ := ih
    simp only [List.foldl_append, List.foldl_cons, List.foldl_nil, hdisk, h.call_onDisk]
    exact ⟨h.call c, rfl⟩

/-- After any calls the next one has the same reply from both storages, reading all bytes moves neither, and a closed
storage gives nothing but its size. -/
theorem storages_agree (body : Body) (calls : List StorageCall) (c : StorageCall) :
    let m := calls.foldl (fun m c => (m.call c).2) (newMemoryStorage body)
    let d := calls.foldl (fun d c => (d.call c).2) (newDiskStorage body)
    (d.call c).1 = (m.call c).1 ∧ (m.call .bytes).2 = m ∧ (d.call .bytes).2 = d ∧
      (.close ∈ calls → c ≠ .size → c ≠ .close → (d.call c).1 = .error .storageClosed) := by
  intro m d
  obtain ⟨h, hdisk⟩ : HoldsBody body calls m ∧ d = onDisk m := foldl_onDisk body calls
  have hbytes : (m.call .bytes).2 = m := by
    simp only [MemoryStorage.call, MemoryStorage.onReader]
    split <;> rfl
  rw [hdisk, h.call_onDisk, h.call_onDisk]
  refine ⟨rfl, hbytes, congrArg onDisk hbytes, fun hmem hsize hclose => ?_⟩
  cases c with
  | size | close => contradiction
  | read | seek | bytes => simp [MemoryStorage.call, MemoryStorage.onReader, h.closed hmem]

lemma closed_call (m : MemoryStorage) (c : StorageCall) : (m.call c).2.closed = (m.closed || .close = c) := by
  cases c with
  | size | close => simp [MemoryStorage.call]
  | _ =>
    simp only [MemoryStorage.call, MemoryStorage.onReader]
    split <;> simp_all

lemma closed_foldl (calls : List StorageCall) (m : MemoryStorage) :
    (calls.foldl (fun m c => (m.call c).2) m).closed = (m.closed || .close ∈ calls) := by
  induction calls generalizing m with
  | nil => simp
  | cons c calls ih => simp [ih, closed_call, Bool.or_assoc]

/-- However a storage has been read, rewinding it gives the new storage back, so that another attempt reads the same
body, until the storage is closed. -/
theorem storages_rewind (body : Body) (calls : List StorageCall) :
    let m := calls.foldl (fun m c => (m.call c).2) (newMemoryStorage body)
    let d := calls.foldl (fun d c => (d.call c).2) (newDiskStorage body)
    .close ∈ calls ∨ m.call (.seek 0 0) = (.ok (.number 0), newMemoryStorage body) ∧
      d.call (.seek 0 0) = (.ok (.number 0), newDiskStorage body) := by
  intro m d
  obtain ⟨h, hdisk⟩ : HoldsBody body calls m ∧ d = onDisk m := foldl_onDisk body calls
  have hclosed : m.closed = decide (.close ∈ calls) := closed_foldl calls (newMemoryStorage body)
  refine or_iff_not_imp_left.mpr fun hopen => ?_
  have hstart : Cursor.seek 0 0 m.reader = (.ok 0, body.open) := h.reader ▸ @seek_start m.reader 0 (by decide)
  have hseek : m.call (.seek 0 0) = (.ok (.number 0), newMemoryStorage body) := by
    simp only [MemoryStorage.call, MemoryStorage.onReader, hclosed, hopen, decide_false, hstart, h.data, h.size]
    rfl
  refine ⟨hseek, ?_⟩
  rw [hdisk, h.call_onDisk, hseek]
  rfl

end LoveApi.Proofs
