import Ddcutil.DisplayLock
import Ddcutil.Kit.Loop
import Mathlib.Algebra.Group.Int.Defs
/-!
# BusOpen — opening and closing an I2C bus

`i2c_open_bus` acquires three things in turn: the lock of the display, a descriptor of the device and, where
cross-instance locks are enabled, a lock on that descriptor.
-/
namespace Ddc

open Kit

def eAcces : Nat := 13
def eWouldblock : Nat := 11
def ddcrcFlocked : Status := -(rcrangeDdcStart + 31)

abbrev Errno := { errno : Nat // 0 < errno }

/-- What the calls of one try return: each `g_mutex_trylock`, `open`, and each `flock`. -/
structure OpenTry where
  trylock : Nat → Bool
  opened : Except Errno Nat
  flock : Nat → Option Errno

structure OpenFd where
  fd : Nat
  flocked : Bool
  deriving DecidableEq

/-- **What a thread holds**: the lock record of the bus, its open descriptors, and the number of `Error_Info` records
that are not freed. -/
structure BusHolder (T : Type) where
  dlr : DisplayLockRecord T
  fds : List OpenFd
  liveErrors : Nat

structure FlockSettings where
  crossInstanceLocksEnabled : Bool
  flockPollMillisec : Int
  flockMaxWaitMillisec : Int

instance (n : Int) : Decidable (isInt n) := inferInstanceAs (Decidable (_ ∧ _))

/-- A sum or product of `int` values, to which the language gives no meaning where it is no `int`. -/
def intResult (n : Int) : Exec Int := if isInt n then .ok n else .error .outOfBounds

theorem intResult_pos {n : Int} (h : isInt n) : intResult n = .ok n := if_pos h

theorem intResult_eq_ok {n m : Int} : intResult n = .ok m ↔ isInt n ∧ n = m := by
  unfold intResult
  by_cases h : isInt n
  · rw [if_pos h, Except.ok.injEq]; exact ⟨fun heq => ⟨h, heq⟩, fun heq => heq.2⟩
  · rw [if_neg h]
    exact ⟨fun heq => absurd heq.symm (Exec.ok_ne_error _ _), fun heq => absurd heq.1 h⟩

def toUint64 (n : Int) : Int := n % 2 ^ 64

mutual

def errinfoCount : ErrorInfo → Nat
  | ⟨_, _, _, causes⟩ => errinfoCounts causes + 1

def errinfoCounts : List ErrorInfo → Nat
  | [] => 0
  | cause :: causes => errinfoCount cause + errinfoCounts causes

end

def errinfoAddCause (parent cause : ErrorInfo) : ErrorInfo := { parent with causes := parent.causes ++ [cause] }

/-! ## The lock of the display -/

section Lock

variable {T : Type} [DecidableEq T] (threadId : T → Int)

structure LockTries where
  locked : Bool
  totalWaitMillisec : Nat
  tryctr : Nat

def LockTries.trying (s : LockTries) : Bool := !s.locked && decide (s.totalWaitMillisec < defaultOpenMaxWaitMillisec)

def lockTry (trylock : Nat → Bool) (s : LockTries) : Exec LockTries :=
  .ok (
    if trylock s.tryctr = true then { s with locked := true, tryctr := s.tryctr + 1 }
    else { s with
      totalWaitMillisec := s.totalWaitMillisec + defaultOpenWaitIntervalMillisec
      tryctr := s.tryctr + 1 })

def lockDisplay (fuel : Nat) (self : T) (trylock : Nat → Bool) (dlr : DisplayLockRecord T) :
    Exec (Option ErrorInfo × DisplayLockRecord T) :=
  if dlr.displayMutexThread = some self then .ok (some alreadyOpenError, dlr)
  else do
    let s ← whileLoop LockTries.trying (lockTry trylock) fuel ⟨false, 0, 0⟩
    if s.locked = true then
      .ok (none, { dlr with
        displayMutex := some self
        displayMutexThread := some self
        linuxThreadId := threadId self })
    else .ok (some (lockedError dlr s.tryctr), dlr)

end Lock

structure FlockTries where
  flockrc : Option Status
  totalWaitMillisec : Int
  flockCallCtr : Nat

def FlockTries.polling (s : FlockTries) : Bool := s.flockrc.isNone

def flockTry (c : FlockSettings) (wait : Bool) (flock : Nat → Option Errno) (s : FlockTries) : Exec FlockTries := do
  let maxWaitMillisec := if wait = true then toUint64 c.flockMaxWaitMillisec else 0
  let s' := { s with flockCallCtr := s.flockCallCtr + 1 }
  match flock s.flockCallCtr with
  | none => .ok { s' with flockrc := some 0 }
  | some errsv =>
    if toUint64 s.totalWaitMillisec > maxWaitMillisec then .ok { s' with flockrc := some ddcrcFlocked }
    else if errsv.val ≠ eWouldblock then .ok { s' with flockrc := some (-errsv.val) }
    else do
      -- the argument of usleep
      let _ ← intResult (c.flockPollMillisec * 1000)
      let totalWaitMillisec ← intResult (s.totalWaitMillisec + c.flockPollMillisec)
      .ok { s' with totalWaitMillisec := totalWaitMillisec }

def flockLockByFd (fuel : Nat) (c : FlockSettings) (wait : Bool) (flock : Nat → Option Errno) : Exec Status := do
  let s ← whileLoop FlockTries.polling (flockTry c wait flock) fuel ⟨none, 0, 0⟩
  .ok (s.flockrc.getD 0)

def closeFd : List OpenFd → Nat → List OpenFd
  | [], _ => []
  | f :: fds, fd => if f.fd = fd then fds else f :: closeFd fds fd

def setFlocked : List OpenFd → Nat → Bool → List OpenFd
  | [], _, _ => []
  | f :: fds, fd, flocked => if f.fd = fd then ⟨fd, flocked⟩ :: fds else f :: setFlocked fds fd flocked

/-! ## Opening -/

structure OpenBusState (T : Type) where
  holder : BusHolder T
  fdLoc : Int
  masterError : Option ErrorInfo
  totalWaitMillisec : Nat
  tryctr : Nat

def OpenBusState.trying {T : Type} (s : OpenBusState T) : Bool :=
  decide (s.fdLoc < 0 ∧ s.totalWaitMillisec ≤ defaultOpenMaxWaitMillisec)

section OpenBus

variable {T : Type} [DecidableEq T] (threadId : T → Int)

/-- What a try has after its three calls: its error, whether the display is locked, the descriptor, what is held, and the
time that has passed as the loop counts it. -/
structure TryEnd (T : Type) where
  curError : Option ErrorInfo
  deviceLocked : Bool
  fd : Option Nat
  holder : BusHolder T
  totalWaitMillisec : Nat

def openBusCalls (fuel : Nat) (self : T) (c : FlockSettings) (wait : Bool) (o : OpenTry) (r : BusHolder T)
    (totalWaitMillisec : Nat) : Exec (TryEnd T) := do
  -- 1) lock display within this instance
  let (curError, dlr) ← lockDisplay threadId fuel self o.trylock r.dlr
  let r := { r with dlr := dlr }
  match curError with
  | some err => .ok ⟨some err, false, none, { r with liveErrors := r.liveErrors + 1 }, totalWaitMillisec⟩
  | none =>
    -- 2) open the device
    match o.opened with
    | .error errsv =>
      .ok ⟨some (errinfoNew (-errsv.val) "i2c_open_bus_basic"), true, none, { r with liveErrors := r.liveErrors + 1 },
        -- no point in retrying
        if errsv.val = eAcces ∨ (errsv.val : Int) = eNoent then defaultOpenMaxWaitMillisec + 1 else totalWaitMillisec⟩
    | .ok fd =>
      let r := { r with fds := ⟨fd, false⟩ :: r.fds }
      -- 3) create cross-instance lock
      if c.crossInstanceLocksEnabled = true then do
        let flockrc ← flockLockByFd fuel c wait o.flock
        if flockrc ≠ 0 then
          .ok ⟨some (errinfoNew flockrc "i2c_open_bus"), true, some fd, { r with liveErrors := r.liveErrors + 1 },
            totalWaitMillisec⟩
        else .ok ⟨none, true, some fd, { r with fds := setFlocked r.fds fd true }, totalWaitMillisec⟩
      else .ok ⟨none, true, some fd, r, totalWaitMillisec⟩

def backOut (self : T) (e : TryEnd T) : Exec (BusHolder T) := do
  let r :=
    match e.fd with
    | some fd => { e.holder with fds := closeFd e.holder.fds fd }
    | none => e.holder
  if e.deviceLocked = true then do
    let (err, dlr) ← unlockDisplay self r.dlr
    check (err.isNone = true)
    .ok { r with dlr := dlr }
  else .ok r

def openBusTry (fuel : Nat) (self : T) (c : FlockSettings) (wait : Bool) (tries : Nat → OpenTry) (s : OpenBusState T) :
    Exec (OpenBusState T) := do
  let e ← openBusCalls threadId fuel self c wait (tries s.tryctr) s.holder s.totalWaitMillisec
  match e.curError with
  | none =>
    .ok { s with
      holder := e.holder
      fdLoc := match e.fd with
        | some fd => fd
        | none => -1
      tryctr := s.tryctr + 1 }
  | some curError => do
    let r ← backOut self e
    .ok {
      holder := r
      fdLoc := -1
      masterError := match s.masterError with
        | none => some curError
        | some masterError => some (errinfoAddCause masterError curError)
      totalWaitMillisec := e.totalWaitMillisec + defaultOpenWaitIntervalMillisec
      tryctr := s.tryctr + 1 }

def i2cOpenBus (fuel : Nat) (self : T) (c : FlockSettings) (wait : Bool) (tries : Nat → OpenTry) (r : BusHolder T) :
    Exec (Option ErrorInfo × Int × BusHolder T) := do
  let s ← whileLoop OpenBusState.trying (openBusTry threadId fuel self c wait tries) fuel ⟨r, -1, none, 0, 0⟩
  let (masterError, r) :=
    if 0 ≤ s.fdLoc then
      (none, match s.masterError with
        | some masterError => { s.holder with liveErrors := s.holder.liveErrors - errinfoCount masterError }
        | none => s.holder)
    else (s.masterError, s.holder)
  check (masterError.isSome = true ↔ s.fdLoc = -1)
  .ok (masterError, s.fdLoc, r)

def i2cCloseBus (self : T) (crossInstanceLocksEnabled : Bool) (flock close : Option Errno) (r : BusHolder T) (fd : Nat) :
    Exec (Status × BusHolder T) := do
  let r :=
    if crossInstanceLocksEnabled = true ∧ flock = none then { r with fds := setFlocked r.fds fd false } else r
  let result : Status :=
    match close with
    | none => 0
    | some errsv => -errsv.val
  let r := { r with fds := closeFd r.fds fd }
  check (result = 0)
  -- an error of unlocking is reported and freed
  let (_, dlr) ← unlockDisplay self r.dlr
  .ok (result, { r with dlr := dlr })

end OpenBus

end Ddc
