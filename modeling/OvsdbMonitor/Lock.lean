import OvsdbMonitor.Handler

/-!
# The lock RPCs

`Handler.Lock` and `Handler.Unlock` share the handler's `databaseLocks`, one `Locker` per lock
id, under `ch.mu`.  `Lock` looks its id up under the mutex; when no locker is registered it
calls `db.GetLock` outside the mutex and, back under the mutex, registers the new locker unless
another call registered one meanwhile, in which case it cancels its own and takes that one.  It
then calls `tryLock` outside the mutex: the lock is taken (`locked: true`), or held by another
session (`concurrency.ErrLocked`: the reply is `locked: false`, and a goroutine waits in `lock`
to send the `locked` notification), or the call fails.  `Unlock` removes the id's locker under
the mutex and cancels it outside.  `Cleanup` calls `unlock` on every registered locker.

The lock manager (`Databaser.GetLock` and the `Locker` methods) and `common.ParamsToString` are
not among the sources: what each of their calls returns is chosen by the scheduler, in the
`LockAction` that runs the step, and a locker `GetLock` returns is a new one.  `LockState`
numbers the lockers in the order `GetLock` returned them; the lock id each was got for, every
`cancel` and `unlock`, the replies and the notifications are logs kept for stating properties.
A run is any sequence of `LockAction`s, so every interleaving of the calls is a run.
-/

namespace OvsdbMonitor

/-- An error a lock-manager call returns: `concurrency.ErrLocked`, or another. -/
inductive LockErr where
  | errLocked
  | other (err : String)
  deriving DecidableEq, Repr

/-- One lock RPC, with what `common.ParamsToString` returned for its params. -/
inductive LockCall where
  | lock (id : Except String String)
  | unlock (id : Except String String)

/-- The reply of a lock RPC. -/
inductive LockReply where
  /-- `Lock`: `map[string]bool{"locked": b}` (`some b`) or `nil`, and the error -/
  | lock (locked : Option Bool) (err : Option LockErr)
  /-- `Unlock`: `ovsjson.EmptyStruct{}` and the error -/
  | unlock (err : Option LockErr)
  deriving DecidableEq, Repr

/-- The point a lock RPC has reached; a locker is named by its number. -/
inductive LockPc where
  /-- not started -/
  | entry
  /-- `Lock` found no locker registered for its id: it calls `db.GetLock` -/
  | getLock
  /-- `GetLock` returned locker `l`: `Lock` waits for the mutex to register it -/
  | register (l : Nat)
  /-- `Lock` calls `tryLock` on locker `l` -/
  | tryLock (l : Nat)
  /-- `Lock` has replied; its goroutine waits in `lock` on locker `l` -/
  | waiting (l : Nat)
  /-- `Unlock` has removed locker `l` from `databaseLocks`: it cancels it -/
  | cancel (l : Nat)
  /-- returned, and the goroutine too -/
  | done
  deriving DecidableEq, Repr

/-- The handler's lock registry, the point each lock RPC has reached, and the logs. -/
structure LockState where
  databaseLocks : GoMap String Nat
  pcs : Nat → LockPc
  /-- the lock id each locker was got for, by locker number -/
  lockers : List String
  /-- every `cancel`, in order -/
  cancelled : List Nat
  /-- every `unlock` made by `Cleanup`, in order -/
  unlocked : List Nat
  /-- every reply, with its call -/
  replies : List (Nat × LockReply)
  /-- every `locked` notification -/
  sent : List Notification

/-- `NewHandler`: no locker, no call started. -/
def LockState.init : LockState :=
  { databaseLocks := ∅, pcs := fun _ => .entry, lockers := [], cancelled := [], unlocked := [],
    replies := [], sent := [] }

namespace LockState

/-- Move call `i` to `pc`. -/
def setPc (s : LockState) (i : Nat) (pc : LockPc) : LockState :=
  { s with pcs := Function.update s.pcs i pc }

/-- Call `i` replies `r`. -/
def reply (s : LockState) (i : Nat) (r : LockReply) : LockState :=
  { s with replies := s.replies ++ [(i, r)] }

/-- Call `i` returns `r`. -/
def finish (s : LockState) (i : Nat) (r : LockReply) : LockState :=
  (s.setPc i .done).reply i r

/-- One atomic step of call `i`, which is `c`; a lock-manager call it makes returns the error
`r`, if any. -/
def callStep (s : LockState) (i : Nat) (c : LockCall) (r : Option LockErr) : LockState :=
  match c, s.pcs i with
  | .lock (.error e), .entry => s.finish i (.lock (some false) (some (.other e)))
  | .lock (.ok id), .entry =>
    match s.databaseLocks.lookup id with
    | some l => s.setPc i (.tryLock l)
    | none => s.setPc i .getLock
  | .lock (.ok id), .getLock =>
    match r with
    | some err => s.finish i (.lock none (some err))
    | none => { s.setPc i (.register s.lockers.length) with lockers := s.lockers ++ [id] }
  | .lock (.ok id), .register l =>
    match s.databaseLocks.lookup id with
    | none => { s.setPc i (.tryLock l) with databaseLocks := s.databaseLocks.insert id l }
    | some other => { s.setPc i (.tryLock other) with cancelled := s.cancelled ++ [l] }
  | .lock _, .tryLock l =>
    match r with
    | none => s.finish i (.lock (some true) none)
    | some .errLocked => (s.setPc i (.waiting l)).reply i (.lock (some false) none)
    | some err => s.finish i (.lock none (some err))
  | .lock (.ok id), .waiting _ =>
    match r with
    | none => { s.setPc i .done with sent := s.sent ++ [⟨"locked", .array [.json (.string id)]⟩] }
    | some _ => s.setPc i .done
  | .unlock (.error e), .entry => s.finish i (.unlock (some (.other e)))
  | .unlock (.ok id), .entry =>
    match s.databaseLocks.lookup id with
    | some l => { s.setPc i (.cancel l) with databaseLocks := s.databaseLocks.erase id }
    | none => { s.finish i (.unlock none) with databaseLocks := s.databaseLocks.erase id }
  | .unlock _, .cancel l => { s.finish i (.unlock none) with cancelled := s.cancelled ++ [l] }
  | _, _ => s

/-- The lock part of `Handler.Cleanup`: `unlock` every registered locker, under the mutex; the
lockers stay registered. -/
def cleanupLocks (s : LockState) : LockState :=
  { s with unlocked := s.unlocked ++ s.databaseLocks.entries.map (·.2) }

end LockState

/-- A scheduling decision. -/
inductive LockAction where
  /-- call `i` takes its next step; a lock-manager call it makes returns the error `r`, if any -/
  | call (i : Nat) (r : Option LockErr)
  /-- `Cleanup` -/
  | cleanup

/-- One step of the handler running the lock RPCs `calls`. -/
def LockState.step (calls : List LockCall) (s : LockState) : LockAction → LockState
  | .call i r => match calls[i]? with
    | some c => s.callStep i c r
    | none => s
  | .cleanup => s.cleanupLocks

/-- A run: the steps of a schedule, in order. -/
def LockState.run (calls : List LockCall) (s : LockState) (sched : List LockAction) :
    LockState :=
  sched.foldl (step calls) s

end OvsdbMonitor
