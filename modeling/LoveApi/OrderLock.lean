import LoveApi.Program.Transition

/-!
# The lock of an order

`LockOrder` and `UnlockOrder` keep one mutex for each trade number in use. It counts the goroutines that have asked for
it, and the last one takes it out of the map.
-/

namespace LoveApi

open Program

structure RefCountedMutex where
  mu : Bool := false
  refCount : Int := 0
deriving DecidableEq, Repr

/-- The variables that goroutines share. The map holds pointers to the mutexes that have been allocated. -/
structure OrderLocks where
  createLock : Bool := false
  orderLocks : String → Option Nat := fun _ => none
  mutexes : List RefCountedMutex := []

namespace OrderLocks

def mutex (x : OrderLocks) (rcm : Nat) : RefCountedMutex := x.mutexes.getD rcm {}

def modifyMutex (x : OrderLocks) (rcm : Nat) (f : RefCountedMutex → RefCountedMutex) : OrderLocks :=
  { x with mutexes := x.mutexes.modify rcm f }

/-- `orderLocks.Store(tradeNo, &refCountedMutex{})`. -/
def storeNew (x : OrderLocks) (tradeNo : String) : OrderLocks :=
  { x with
    orderLocks := Function.update x.orderLocks tradeNo (some x.mutexes.length)
    mutexes := x.mutexes ++ [{}] }

def delete (x : OrderLocks) (tradeNo : String) : OrderLocks :=
  { x with orderLocks := Function.update x.orderLocks tradeNo none }

end OrderLocks

/-- What a goroutine does next: nothing, a step of `LockOrder` up to the lock of the mutex, its own work, or a step of
`UnlockOrder`. A program that unlocks a mutex nobody has locked is ended by the runtime. -/
inductive LockPc
  | idle
  | lockCreate (tradeNo : String)
  | load (tradeNo : String)
  | store (tradeNo : String)
  | increment (tradeNo : String) (rcm : Nat)
  | unlockCreate (tradeNo : String) (rcm : Nat)
  | lockMutex (tradeNo : String) (rcm : Nat)
  | critical (tradeNo : String)
  | reload (tradeNo : String)
  | unlockMutex (tradeNo : String) (rcm : Nat)
  | relockCreate (tradeNo : String) (rcm : Nat)
  | decrement (tradeNo : String) (rcm : Nat)
  | test (tradeNo : String) (rcm : Nat)
  | delete (tradeNo : String) (rcm : Nat)
  | leaveCreate
  | fatal
deriving DecidableEq, Repr

structure Goroutine where
  todo : List String
  pc : LockPc := .idle
deriving DecidableEq, Repr

/-- The next step of a goroutine, unless it has finished or has to wait for a mutex. -/
def Goroutine.next (g : Goroutine) (x : OrderLocks) : Option (Goroutine × OrderLocks) :=
  let goto := fun (pc : LockPc) => { g with pc := pc }
  match g.pc with
  | .idle =>
    match g.todo with
    | [] => none
    | tradeNo :: todo => some (⟨todo, .lockCreate tradeNo⟩, x)
  | .lockCreate tradeNo =>
    if x.createLock then none else some (goto (.load tradeNo), { x with createLock := true })
  | .load tradeNo =>
    match x.orderLocks tradeNo with
    | some rcm => some (goto (.increment tradeNo rcm), x)
    | none => some (goto (.store tradeNo), x)
  | .store tradeNo => some (goto (.increment tradeNo x.mutexes.length), x.storeNew tradeNo)
  | .increment tradeNo rcm =>
    some (goto (.unlockCreate tradeNo rcm), x.modifyMutex rcm fun m => { m with refCount := m.refCount + 1 })
  | .unlockCreate tradeNo rcm =>
    if x.createLock then some (goto (.lockMutex tradeNo rcm), { x with createLock := false })
    else some (goto .fatal, x)
  | .lockMutex tradeNo rcm =>
    if (x.mutex rcm).mu then none
    else some (goto (.critical tradeNo), x.modifyMutex rcm fun m => { m with mu := true })
  | .critical tradeNo => some (goto (.reload tradeNo), x)
  | .reload tradeNo =>
    match x.orderLocks tradeNo with
    | some rcm => some (goto (.unlockMutex tradeNo rcm), x)
    | none => some (goto .idle, x)
  | .unlockMutex tradeNo rcm =>
    if (x.mutex rcm).mu then
      some (goto (.relockCreate tradeNo rcm), x.modifyMutex rcm fun m => { m with mu := false })
    else some (goto .fatal, x)
  | .relockCreate tradeNo rcm =>
    if x.createLock then none else some (goto (.decrement tradeNo rcm), { x with createLock := true })
  | .decrement tradeNo rcm =>
    some (goto (.test tradeNo rcm), x.modifyMutex rcm fun m => { m with refCount := m.refCount - 1 })
  | .test tradeNo rcm =>
    if (x.mutex rcm).refCount = 0 then some (goto (.delete tradeNo rcm), x) else some (goto .leaveCreate, x)
  | .delete tradeNo _ => some (goto .leaveCreate, x.delete tradeNo)
  | .leaveCreate =>
    if x.createLock then some (goto .idle, { x with createLock := false }) else some (goto .fatal, x)
  | .fatal => none

def lockSystem : System Nat (OrderLocks × List Goroutine) := interleave Goroutine.next

def lockStart (todos : List (List String)) : OrderLocks × List Goroutine := ({}, todos.map fun todo => { todo := todo })

def lockRun (todos : List (List String)) (sched : List Nat) : OrderLocks × List Goroutine :=
  lockSystem.run sched (lockStart todos)

namespace LockPc

variable (tradeNo : String)

@[simp] def inside : LockPc → Bool
  | critical t | reload t | unlockMutex t _ => t = tradeNo
  | _ => false

@[simp] def counted : LockPc → Bool
  | unlockCreate t _ | lockMutex t _ | critical t | reload t | unlockMutex t _ | relockCreate t _ | decrement t _ =>
    t = tradeNo
  | _ => false

@[simp] def registering : LockPc → Bool
  | increment t _ => t = tradeNo
  | _ => false

@[simp] def unregistering : LockPc → Bool
  | test t _ | delete t _ => t = tradeNo
  | _ => false

end LockPc

def Goroutine.finished (g : Goroutine) : Bool := g.todo = [] && g.pc = .idle

end LoveApi
