import Ddcutil.Kit.Runs
import Ddcutil.StringUtil
/-!
# DisplayLock — one thread at a time for a display

`display_lock.c` keeps a record for each io path: a mutex, and the thread that owns it.  `LockState` adds what the
threads are doing: a thread in `lock_display` tries the mutex again and again or waits for it, and between its tries
other threads run.
-/
namespace Ddc

open Kit Function

def dpathShortName : IoPath → List Byte
  | .i2c busno => if busno = 255 then ascii "NOT SET" else ascii "bus /dev/i2c-" ++ decimal busno
  | .usb hiddevDevno => ascii "usb /dev/usb/hiddev" ++ decimal hiddevDevno

def defaultOpenMaxWaitMillisec : Nat := 1000
def defaultOpenWaitIntervalMillisec : Nat := 100

variable {T : Type}

/-- **`Display_Lock_Record`**; `displayMutex` is the thread that holds the mutex. -/
structure DisplayLockRecord (T : Type) where
  ioPath : IoPath
  displayMutex : Option T
  displayMutexThread : Option T
  linuxThreadId : Int

def createDisplayLockRecord (ioPath : IoPath) : DisplayLockRecord T := ⟨ioPath, none, none, 0⟩

/-- A thread in `lock_display`: the record, whether it waits, and the time it has spent between tries. -/
structure LockAttempt where
  ndx : Nat
  wait : Bool
  totalWaitMillisec : Nat
  tryctr : Nat

inductive LockEvent (T : Type) where
  | locked (thread : T) (ioPath : IoPath)
  | lockFailed (thread : T) (ioPath : IoPath) (err : ErrorInfo)
  | unlocked (thread : T) (ioPath : IoPath)
  | unlockFailed (thread : T) (ioPath : IoPath) (err : ErrorInfo)
  | unlockedAll (thread : T) (unlockedCt : Nat)

structure LockState (T : Type) where
  lockRecords : List (DisplayLockRecord T)
  attempt : T → Option LockAttempt
  log : List (LockEvent T)

def LockState.empty : LockState T := ⟨[], fun _ => none, []⟩

/-! ## Records -/

section Records

def getDisplayLockRecordByDpath (lockRecords : List (DisplayLockRecord T)) (ioPath : IoPath) :
    Nat × List (DisplayLockRecord T) :=
  let ndx := lockRecords.findIdx fun dlr => dlr.ioPath = ioPath
  (ndx, if ndx < lockRecords.length then lockRecords else lockRecords ++ [createDisplayLockRecord ioPath])

variable [DecidableEq T]

def gMutexUnlock (self : T) (mutex : Option T) : Exec (Option T) := do
  check (mutex = some self)
  .ok none

def releaseRecord (self : T) (dlr : DisplayLockRecord T) : Exec (DisplayLockRecord T) := do
  let displayMutex ← gMutexUnlock self dlr.displayMutex
  .ok { dlr with displayMutexThread := none, linuxThreadId := 0, displayMutex := displayMutex }

def alreadyOpenError : ErrorInfo :=
  ⟨ddcrcAlreadyOpen, "lock_display", some "Attempting to lock display already locked by current thread", []⟩

def lockedError (dlr : DisplayLockRecord T) (tryctr : Nat) : ErrorInfo :=
  ⟨ddcrcLocked, "lock_display",
    some (asText (ascii "Locking failed for " ++ dpathShortName dlr.ioPath ++ ascii " after " ++ decimal tryctr ++
      ascii " tries. Locked by thread[" ++ padLeft blank 6 (decimal dlr.linuxThreadId) ++ ascii "]")), []⟩

def notOwnerError : ErrorInfo :=
  ⟨ddcrcLocked, "unlock_display", some "Attempting to unlock display lock owned by different thread", []⟩

def unlockDisplay (self : T) (dlr : DisplayLockRecord T) : Exec (Option ErrorInfo × DisplayLockRecord T) :=
  if dlr.displayMutexThread ≠ some self then .ok (some notOwnerError, dlr)
  else do
    let dlr ← releaseRecord self dlr
    .ok (none, dlr)

def unlockRecords (self : T) : List (DisplayLockRecord T) → Exec (Nat × List (DisplayLockRecord T))
  | [] => .ok (0, [])
  | dlr :: dlrs =>
    if dlr.displayMutexThread = some self then do
      let dlr ← releaseRecord self dlr
      let r ← unlockRecords self dlrs
      .ok (r.1 + 1, dlr :: r.2)
    else do
      let r ← unlockRecords self dlrs
      .ok (r.1, dlr :: r.2)

end Records

/-! ## Steps -/

inductive LockCall (T : Type) where
  | lock (thread : T) (ioPath : IoPath) (wait : Bool)
  | tryLock (thread : T)
  | unlock (thread : T) (ioPath : IoPath)
  | unlockAll (thread : T)

section Steps

variable [DecidableEq T] (threadId : T → Int)

def tryLockDisplay (s : LockState T) (self : T) (attempt : LockAttempt) (dlr : DisplayLockRecord T) : LockState T :=
  if dlr.displayMutex = none then
    let dlr := { dlr with
      displayMutex := some self
      displayMutexThread := some self
      linuxThreadId := threadId self }
    { lockRecords := s.lockRecords.set attempt.ndx dlr
      attempt := update s.attempt self none
      log := s.log ++ [.locked self dlr.ioPath] }
  else
    let attempt := { attempt with
      totalWaitMillisec := attempt.totalWaitMillisec + defaultOpenWaitIntervalMillisec
      tryctr := attempt.tryctr + 1 }
    if attempt.totalWaitMillisec < defaultOpenMaxWaitMillisec then
      { s with attempt := update s.attempt self (some attempt) }
    else
      { s with
        attempt := update s.attempt self none
        log := s.log ++ [.lockFailed self dlr.ioPath (lockedError dlr attempt.tryctr)] }

def lockStep (s : LockState T) : LockCall T → Exec (LockState T)
  | .lock self ioPath wait => do
    let (ndx, lockRecords) := getDisplayLockRecordByDpath s.lockRecords ioPath
    let dlr ← fetch lockRecords ndx
    if dlr.displayMutexThread = some self then
      .ok { s with lockRecords := lockRecords, log := s.log ++ [.lockFailed self ioPath alreadyOpenError] }
    else
      .ok { s with
        lockRecords := lockRecords
        attempt := update s.attempt self (some ⟨ndx, wait, 0, 0⟩) }
  | .tryLock self =>
    match s.attempt self with
    | none => .ok s
    | some attempt => do
      let dlr ← fetch s.lockRecords attempt.ndx
      .ok (tryLockDisplay threadId s self attempt dlr)
  | .unlock self ioPath => do
    let (ndx, lockRecords) := getDisplayLockRecordByDpath s.lockRecords ioPath
    let dlr ← fetch lockRecords ndx
    let (err, dlr) ← unlockDisplay self dlr
    .ok { s with
      lockRecords := lockRecords.set ndx dlr
      log := s.log ++ [match err with
        | none => .unlocked self ioPath
        | some err => .unlockFailed self ioPath err] }
  | .unlockAll self => do
    let (unlockedCt, lockRecords) ← unlockRecords self s.lockRecords
    .ok { s with lockRecords := lockRecords, log := s.log ++ [.unlockedAll self unlockedCt] }

/-- A thread makes one call at a time, and one that waits goes on when the mutex is free. -/
def LockCallable (s : LockState T) : LockCall T → Prop
  | .lock self _ _ => s.attempt self = none
  | .tryLock self =>
    ∃ attempt, s.attempt self = some attempt ∧
      (attempt.wait = true → ∀ dlr, s.lockRecords[attempt.ndx]? = some dlr → dlr.displayMutex = none)
  | .unlock self _ => s.attempt self = none
  | .unlockAll self => s.attempt self = none

def LockReachable : LockState T → Prop := Reachable (· = LockState.empty) LockCallable (lockStep threadId)

end Steps

end Ddc
