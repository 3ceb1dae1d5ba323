import Mathlib.Data.PNat.Basic

/-!
# Stored request bodies

A body is held in memory or in a file, and is read through the same calls. A file is taken as exact: it gives all the
bytes it has and does not fail.
-/

namespace LoveApi

inductive StorageError
  | storageClosed | eof | unexpectedEOF | invalidWhence | negativePosition

structure Body where
  bytes : List UInt8
  length_lt : bytes.length < 2 ^ 63

/-- A `bytes.Reader` or an open file: its bytes and its position. -/
structure Cursor extends Body where
  pos : Nat
  pos_lt : pos < 2 ^ 63

abbrev CursorM := ExceptT StorageError (StateM Cursor)

namespace Cursor

/-- `bytes.Reader.Read` into a buffer of `n` bytes. -/
def read (n : Nat) : CursorM (List UInt8) := fun r =>
  if h : r.bytes.length ≤ r.pos then (.error .eof, r)
  else
    let p := (r.bytes.drop r.pos).take n
    have hp : p.length ≤ r.bytes.length - r.pos := by
      simp only [p, List.length_take, List.length_drop]
      exact min_le_right ..
    (.ok p, { r with pos := r.pos + p.length, pos_lt := by have := r.length_lt; omega })

/-- `os.File.Read`. -/
def fileRead (n : Nat) : CursorM (List UInt8) := if n = 0 then return [] else read n

/-- `Seek` of both; the sum is an `int64`. -/
def seek (offset whence : Int) : CursorM Int := fun r =>
  let base? : Option Int := if whence = 0 then some 0 else if whence = 1 then some r.pos
    else if whence = 2 then some r.bytes.length else none
  match base? with
  | none => (.error .invalidWhence, r)
  | some base =>
    let abs := (base + offset).bmod (2 ^ 64)
    have habs : abs < 2 ^ 63 := Int.bmod_lt (by decide)
    if 0 ≤ abs then (.ok abs, { r with pos := abs.toNat, pos_lt := by omega })
    else (.error .negativePosition, r)

/-- `io.ReadFull`: after a short read the next one is at the end of the file. -/
def readFull (n : Nat) : CursorM (List UInt8) := do
  if n = 0 then return []
  let data ← fileRead n
  if data.length < n then throw .unexpectedEOF
  return data

end Cursor

inductive StorageCall
  | read (p : ℕ+)
  | seek (offset whence : Int)
  | bytes
  | size
  | close
  deriving DecidableEq

inductive StorageReply
  | data (bytes : List UInt8)
  | number (n : Int)
  | done

structure MemoryStorage where
  data : List UInt8
  reader : Cursor
  size : Nat
  closed : Bool

structure DiskStorage where
  file : Cursor
  size : Nat
  closed : Bool

def Body.open (body : Body) : Cursor := { body with pos := 0, pos_lt := by decide }

def newMemoryStorage (body : Body) : MemoryStorage := ⟨body.bytes, body.open, body.bytes.length, false⟩

def newDiskStorage (body : Body) : DiskStorage := ⟨body.open, body.bytes.length, false⟩

namespace MemoryStorage

def onReader {α : Type} (m : MemoryStorage) (op : CursorM α) (reply : α → StorageReply) :
    Except StorageError StorageReply × MemoryStorage :=
  if m.closed then (.error .storageClosed, m)
  else ((op m.reader).1.map reply, { m with reader := (op m.reader).2 })

def call (m : MemoryStorage) : StorageCall → Except StorageError StorageReply × MemoryStorage
  | .read p => m.onReader (Cursor.read p) .data
  | .seek offset whence => m.onReader (Cursor.seek offset whence) .number
  | .bytes => m.onReader (return m.data) .data
  | .size => (.ok (.number m.size), m)
  | .close => (.ok .done, { m with closed := true })

end MemoryStorage

namespace DiskStorage

def bytes (d : DiskStorage) : CursorM (List UInt8) := do
  let currentPos ← Cursor.seek 0 1
  let _ ← Cursor.seek 0 0
  let data ← Cursor.readFull d.size
  let _ ← Cursor.seek currentPos 0
  return data

def onFile {α : Type} (d : DiskStorage) (op : CursorM α) (reply : α → StorageReply) :
    Except StorageError StorageReply × DiskStorage :=
  if d.closed then (.error .storageClosed, d) else ((op d.file).1.map reply, { d with file := (op d.file).2 })

def call (d : DiskStorage) : StorageCall → Except StorageError StorageReply × DiskStorage
  | .read p => d.onFile (Cursor.fileRead p) .data
  | .seek offset whence => d.onFile (Cursor.seek offset whence) .number
  | .bytes => d.onFile d.bytes .data
  | .size => (.ok (.number d.size), d)
  | .close => (.ok .done, { d with closed := true })

end DiskStorage

end LoveApi
