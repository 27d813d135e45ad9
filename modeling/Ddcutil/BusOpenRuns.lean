import Mathlib.Tactic.Linarith
import Mathlib.Tactic.Ring
import Ddcutil.BusOpen
/-!
# BusOpenRuns — what opening a bus leaves held, for all answers of the system

Each try either has all three things or has given back what it got (`openBusTry_spec`), so that the loop ends with all
of them, or with none and the errors of all tries.
-/
namespace Ddc

open Kit List Exec

/-- **Polling comes to an end**: no value that it computes is out of range, and the time it has waited exceeds the
maximum at some time. -/
def FlockEnds (c : FlockSettings) (wait : Bool) : Prop :=
  c.crossInstanceLocksEnabled = true → isInt (c.flockPollMillisec * 1000) ∧
    ∃ n : Nat, isInt (n * c.flockPollMillisec) ∧
      toUint64 (n * c.flockPollMillisec) > if wait = true then toUint64 c.flockMaxWaitMillisec else 0

/-! ## What is promised -/

section Promise

variable {T : Type} [DecidableEq T] (threadId : T → Int)

def HoldsLock (self : T) (dlr : DisplayLockRecord T) : Prop := dlr.displayMutexThread = some self

/-- The status of a try: that of the first of its calls that fails, 0 where none does. -/
def openTryStatus (fuel : Nat) (self : T) (c : FlockSettings) (wait : Bool) (o : OpenTry) (dlr : DisplayLockRecord T) :
    Exec Status := do
  let (err, _) ← lockDisplay threadId fuel self o.trylock dlr
  match err, o.opened with
  | some err, _ => .ok err.statusCode
  | none, .error errsv => .ok (-errsv.val)
  | none, .ok _ => if c.crossInstanceLocksEnabled = true then flockLockByFd fuel c wait o.flock else .ok 0

structure BusOpened (thread : T) (c : FlockSettings) (r : BusHolder T) (fd : Nat) (r' : BusHolder T) : Prop where
  wasFree : ¬ HoldsLock thread r.dlr
  locked : HoldsLock thread r'.dlr
  descriptor : r'.fds = ⟨fd, c.crossInstanceLocksEnabled⟩ :: r.fds
  noErrors : r'.liveErrors = r.liveErrors
  closes : ∀ enabled flock, ∃ r'', i2cCloseBus thread enabled flock none r' fd = .ok (0, r'') ∧ ¬ HoldsLock thread r''.dlr ∧
    r''.dlr.displayMutex = none ∧ r''.fds = r.fds ∧ r''.liveErrors = r.liveErrors

structure BusNotOpened (fuel : Nat) (thread : T) (c : FlockSettings) (wait : Bool) (tries : Nat → OpenTry)
    (r : BusHolder T) (err : ErrorInfo) (r' : BusHolder T) : Prop where
  lock : HoldsLock thread r'.dlr ↔ HoldsLock thread r.dlr
  descriptors : r'.fds = r.fds
  statuses : ∀ (i : Nat) (status : Status), ((err :: err.causes).map (·.statusCode))[i]? = some status →
    openTryStatus threadId fuel thread c wait (tries i) r.dlr = .ok status ∧ status ≠ 0
  errors : r'.liveErrors = r.liveErrors + errinfoCount err

/-- **Opening a bus is right**: for all answers of the system it ends, with the bus opened and no error, or with an error
and nothing acquired. -/
def OpenBusRight (self : T) (c : FlockSettings) (wait : Bool) : Prop :=
  ∀ (tries : Nat → OpenTry) (r : BusHolder T), ∃ fuel,
    (∃ (fd : Nat) (r' : BusHolder T), i2cOpenBus threadId fuel self c wait tries r = .ok (none, fd, r') ∧
      BusOpened self c r fd r') ∨
    ∃ err r', i2cOpenBus threadId fuel self c wait tries r = .ok (some err, -1, r') ∧
      BusNotOpened threadId fuel self c wait tries r err r'

end Promise

/-! ## Polling for the lock on the descriptor -/

variable {c : FlockSettings} {wait : Bool}

theorem flockTry_polls (flock : Nat → Option Errno) (n : Nat) {errsv : Errno} (hflock : flock n = some errsv)
    (herrno : errsv.val = eWouldblock)
    (hle : ¬ toUint64 (n * c.flockPollMillisec) > if wait = true then toUint64 c.flockMaxWaitMillisec else 0) :
    flockTry c wait flock ⟨none, n * c.flockPollMillisec, n⟩ = (do
      let _ ← intResult (c.flockPollMillisec * 1000)
      let totalWaitMillisec ← intResult (((n + 1 : Nat) : Int) * c.flockPollMillisec)
      .ok ⟨none, totalWaitMillisec, n + 1⟩) := by
  have hsum : n * c.flockPollMillisec + c.flockPollMillisec = ((n + 1 : Nat) : Int) * c.flockPollMillisec := by
    push_cast
    ring
  rw [flockTry, hflock]
  dsimp only
  rw [if_neg hle, if_neg (not_not.2 herrno), hsum]

theorem isInt_mul_of_le {n m : Nat} {poll : Int} (hle : n ≤ m) (h : isInt (m * poll)) : isInt (n * poll) := by
  have hnm : (n : Int) ≤ m := Int.ofNat_le.2 hle
  have hn : (0 : Int) ≤ n := Int.natCast_nonneg n
  obtain ⟨hlow, hhigh⟩ := h
  rcases le_total 0 poll with hpoll | hpoll
  · have hmul : n * poll ≤ m * poll := mul_le_mul_of_nonneg_right hnm hpoll
    have hpos : 0 ≤ n * poll := mul_nonneg hn hpoll
    exact ⟨le_trans (by decide) hpos, le_trans hmul hhigh⟩
  · have hmul : m * poll ≤ n * poll := mul_le_mul_of_nonpos_right hnm hpoll
    have hneg : n * poll ≤ 0 := mul_nonpos_of_nonneg_of_nonpos hn hpoll
    exact ⟨le_trans hlow hmul, le_trans hneg (by decide)⟩

theorem flockLockByFd_returns (hends : isInt (c.flockPollMillisec * 1000)) {m : Nat}
    (hrange : isInt (m * c.flockPollMillisec))
    (hexceeds : toUint64 (m * c.flockPollMillisec) > if wait = true then toUint64 c.flockMaxWaitMillisec else 0)
    (flock : Nat → Option Errno) {fuel : Nat} (hfuel : m + 1 ≤ fuel) :
    ∃ rc, flockLockByFd fuel c wait flock = .ok rc := by
  have hloop : ∀ (left n : Nat), n + left = m → ∀ fuel, left + 1 ≤ fuel → ∃ s,
      whileLoop FlockTries.polling (flockTry c wait flock) fuel ⟨none, n * c.flockPollMillisec, n⟩ = .ok s := by
    intro left
    induction left with
    | zero =>
      rintro n rfl fuel hfuel
      obtain ⟨fuel, rfl⟩ : ∃ k, fuel = k + 1 := ⟨fuel - 1, by omega⟩
      rw [Nat.add_zero] at hexceeds
      -- at this call the time is exceeded, whatever it returns
      have hturn : ∃ s, flockTry c wait flock ⟨none, n * c.flockPollMillisec, n⟩ = .ok s ∧ s.polling = false := by
        unfold flockTry
        cases flock n with
        | none => exact ⟨_, rfl, rfl⟩
        | some errsv =>
          dsimp only
          rw [if_pos hexceeds]; exact ⟨_, rfl, rfl⟩
      obtain ⟨s, hs, hdone⟩ := hturn
      exact ⟨s, whileLoop_last _ rfl hs hdone⟩
    | succ left ih =>
      rintro n rfl fuel hfuel
      obtain ⟨fuel, rfl⟩ : ∃ k, fuel = k + 1 := ⟨fuel - 1, by omega⟩
      have hfuel : left + 1 ≤ fuel := Nat.le_of_succ_le_succ hfuel
      have hturn : (∃ s, flockTry c wait flock ⟨none, n * c.flockPollMillisec, n⟩ = .ok s ∧ s.polling = false) ∨
          flockTry c wait flock ⟨none, n * c.flockPollMillisec, n⟩ =
            .ok ⟨none, ((n + 1 : Nat) : Int) * c.flockPollMillisec, n + 1⟩ := by
        cases hflock : flock n with
        | none =>
          left
          rw [flockTry, hflock]; exact ⟨_, rfl, rfl⟩
        | some errsv =>
          by_cases hgt : toUint64 (n * c.flockPollMillisec) > if wait = true then toUint64 c.flockMaxWaitMillisec else 0
          · left
            rw [flockTry, hflock]
            dsimp only
            rw [if_pos hgt]; exact ⟨_, rfl, rfl⟩
          by_cases herrno : errsv.val = eWouldblock
          · right
            have hnext : isInt (((n + 1 : Nat) : Int) * c.flockPollMillisec) := isInt_mul_of_le (by omega) hrange
            rw [flockTry_polls flock n hflock herrno hgt]
            unfold intResult
            rw [if_pos hends, ok_bind, if_pos hnext, ok_bind]
          · left
            rw [flockTry, hflock]
            dsimp only
            rw [if_neg hgt, if_pos herrno]; exact ⟨_, rfl, rfl⟩
      rcases hturn with ⟨s, hs, hdone⟩ | hs
      · exact ⟨s, whileLoop_last _ rfl hs hdone⟩
      · obtain ⟨s', hs'⟩ := ih (n + 1) (by omega) fuel hfuel
        exact ⟨s', (whileLoop_step fuel rfl hs).trans hs'⟩
  obtain ⟨s, hs⟩ := hloop m 0 (Nat.zero_add m) fuel hfuel
  refine ⟨s.flockrc.getD 0, ?_⟩
  unfold flockLockByFd
  have hzero : ((0 : Nat) : Int) * c.flockPollMillisec = 0 := by rw [Nat.cast_zero, zero_mul]
  rw [hzero] at hs
  rw [hs, ok_bind]

def alwaysFlocked : Nat → Option Errno := fun _ => some ⟨eWouldblock, by decide⟩

theorem flockLockByFd_hangs (h : ¬ FlockEnds c wait) (fuel : Nat) :
    ∃ e, flockLockByFd fuel c wait alwaysFlocked = .error e := by
  have hnever : isInt (c.flockPollMillisec * 1000) → ∀ n : Nat, isInt (n * c.flockPollMillisec) →
      ¬ toUint64 (n * c.flockPollMillisec) > if wait = true then toUint64 c.flockMaxWaitMillisec else 0 :=
    fun hsleep n hn hgt => h fun _ => ⟨hsleep, n, hn, hgt⟩
  have hmax : (0 : Int) ≤ if wait = true then toUint64 c.flockMaxWaitMillisec else 0 := by
    split
    · exact Int.emod_nonneg _ (by decide)
    · exact Int.le_refl 0
  have hloop : ∀ (fuel n : Nat), isInt (n * c.flockPollMillisec) →
      (¬ isInt (c.flockPollMillisec * 1000) → n = 0) →
      ∃ e, whileLoop FlockTries.polling (flockTry c wait alwaysFlocked) fuel ⟨none, n * c.flockPollMillisec, n⟩ = .error e := by
    intro fuel
    induction fuel with
    | zero => exact fun n _ _ => ⟨.outOfFuel, rfl⟩
    | succ fuel ih =>
      intro n hn hfirst
      have hle : ¬ toUint64 (n * c.flockPollMillisec) > if wait = true then toUint64 c.flockMaxWaitMillisec else 0 := by
        by_cases hsleep : isInt (c.flockPollMillisec * 1000)
        · exact hnever hsleep n hn
        · rw [hfirst hsleep, Nat.cast_zero, zero_mul]; exact not_lt.2 hmax
      have hturn := flockTry_polls alwaysFlocked n rfl rfl hle
      unfold intResult at hturn
      by_cases hsleep : isInt (c.flockPollMillisec * 1000)
      · rw [if_pos hsleep, ok_bind] at hturn
        by_cases hnext : isInt (((n + 1 : Nat) : Int) * c.flockPollMillisec)
        · rw [if_pos hnext, ok_bind] at hturn
          obtain ⟨e, he⟩ := ih (n + 1) hnext fun hnot => absurd hsleep hnot
          exact ⟨e, (whileLoop_step fuel rfl hturn).trans he⟩
        · rw [if_neg hnext] at hturn; exact ⟨_, whileLoop_fault fuel rfl hturn⟩
      · rw [if_neg hsleep] at hturn; exact ⟨_, whileLoop_fault fuel rfl hturn⟩
  have hzero : ((0 : Nat) : Int) * c.flockPollMillisec = 0 := by rw [Nat.cast_zero, zero_mul]
  have hint : isInt (((0 : Nat) : Int) * c.flockPollMillisec) := by
    rw [hzero]; exact ⟨by decide, by decide⟩
  obtain ⟨e, he⟩ := hloop fuel 0 hint fun _ => rfl
  rw [hzero] at he
  refine ⟨e, ?_⟩
  rw [flockLockByFd, he]; rfl

/-! ## The lock of the display -/

section Tries

variable {T : Type} [DecidableEq T] (threadId : T → Int)

variable {fuel : Nat} {self : T} {dlr : DisplayLockRecord T} {r : BusHolder T} {c : FlockSettings} {wait : Bool}

theorem lockTries_returns (trylock : Nat → Bool) (hfuel : 10 ≤ fuel) :
    ∃ s, whileLoop LockTries.trying (lockTry trylock) fuel ⟨false, 0, 0⟩ = .ok s := by
  have hloop : ∀ (left n : Nat), n + left = 10 → ∀ fuel, left ≤ fuel →
      ∃ s, whileLoop LockTries.trying (lockTry trylock) fuel ⟨false, 100 * n, n⟩ = .ok s := by
    intro left
    induction left with
    | zero =>
      rintro n rfl fuel -
      exact ⟨_, whileLoop_stop rfl fuel⟩
    | succ left ih =>
      intro n hn fuel hfuel
      obtain ⟨fuel, rfl⟩ : ∃ k, fuel = k + 1 := ⟨fuel - 1, by omega⟩
      have htrying : LockTries.trying ⟨false, 100 * n, n⟩ = true := by
        simp only [LockTries.trying, Bool.not_false, Bool.true_and, decide_eq_true_eq]
        change 100 * n < 1000
        omega
      by_cases hlocked : trylock n = true
      · have hturn : lockTry trylock ⟨false, 100 * n, n⟩ = .ok ⟨true, 100 * n, n + 1⟩ := by
          rw [lockTry, if_pos hlocked]
        exact ⟨_, whileLoop_last fuel htrying hturn rfl⟩
      · have hturn : lockTry trylock ⟨false, 100 * n, n⟩ = .ok ⟨false, 100 * (n + 1), n + 1⟩ := by
          rw [lockTry, if_neg hlocked]; rfl
        obtain ⟨s, hs⟩ := ih (n + 1) (by omega) fuel (by omega)
        exact ⟨s, (whileLoop_step fuel htrying hturn).trans hs⟩
  exact hloop 10 0 rfl fuel hfuel

/-- **Locking a display**: the thread holds it, or nothing has changed and there is an error, which depends on whether
the thread held it before. -/
theorem lockDisplay_spec (self : T) (trylock : Nat → Bool) (dlr : DisplayLockRecord T) (hfuel : 10 ≤ fuel) :
    (∃ dlr', lockDisplay threadId fuel self trylock dlr = .ok (none, dlr') ∧ ¬ HoldsLock self dlr ∧
      HoldsLock self dlr' ∧ dlr'.displayMutex = some self) ∨
    ∃ err, lockDisplay threadId fuel self trylock dlr = .ok (some err, dlr) ∧ err.statusCode ≠ 0 ∧ err.causes = [] := by
  unfold lockDisplay
  by_cases hself : dlr.displayMutexThread = some self
  · rw [if_pos hself]; exact .inr ⟨alreadyOpenError, rfl, by decide, rfl⟩
  · rw [if_neg hself]
    obtain ⟨s, hs⟩ := lockTries_returns trylock hfuel
    rw [hs, ok_bind]
    by_cases hlocked : s.locked = true
    · rw [if_pos hlocked]; exact .inl ⟨_, rfl, hself, rfl, rfl⟩
    · rw [if_neg hlocked]
      exact .inr ⟨lockedError dlr s.tryctr, rfl, (by decide : ddcrcLocked ≠ 0), rfl⟩

theorem lockDisplay_status (trylock : Nat → Bool) {dlr' : DisplayLockRecord T}
    (h : HoldsLock self dlr ↔ HoldsLock self dlr') (fuel : Nat) :
    (lockDisplay threadId fuel self trylock dlr).map (fun r => r.1.map (·.statusCode)) =
      (lockDisplay threadId fuel self trylock dlr').map (fun r => r.1.map (·.statusCode)) := by
  unfold HoldsLock at h
  unfold lockDisplay
  by_cases hself : dlr.displayMutexThread = some self
  · rw [if_pos hself, if_pos (h.1 hself)]; rfl
  · rw [if_neg hself, if_neg (mt h.2 hself)]
    cases whileLoop LockTries.trying (lockTry trylock) fuel ⟨false, 0, 0⟩ with
    | error e => rfl
    | ok s =>
      rw [ok_bind, ok_bind]
      by_cases hlocked : s.locked = true
      · rw [if_pos hlocked, if_pos hlocked]; rfl
      · rw [if_neg hlocked, if_neg hlocked]
        simp only [Except.map, Option.map_some, lockedError]

theorem unlockDisplay_own (hself : HoldsLock self dlr) (hmutex : dlr.displayMutex = some self) :
    ∃ dlr', unlockDisplay self dlr = .ok (none, dlr') ∧ ¬ HoldsLock self dlr' ∧ dlr'.displayMutex = none := by
  unfold HoldsLock at hself
  unfold unlockDisplay releaseRecord gMutexUnlock
  rw [if_neg (not_not.2 hself), check_pos hmutex]; exact ⟨_, rfl, (fun h => nomatch h), rfl⟩

/-! ## One try -/

structure TryOpened (thread : T) (c : FlockSettings) (r : BusHolder T) (fd : Nat) (r' : BusHolder T) : Prop where
  wasFree : ¬ HoldsLock thread r.dlr
  locked : HoldsLock thread r'.dlr
  mutex : r'.dlr.displayMutex = some thread
  fds : r'.fds = ⟨fd, c.crossInstanceLocksEnabled⟩ :: r.fds
  liveErrors : r'.liveErrors = r.liveErrors

structure TryFailed (thread : T) (r : BusHolder T) (status : Status) (err : ErrorInfo) (r' : BusHolder T) : Prop where
  failed : status ≠ 0
  status : err.statusCode = status
  causes : err.causes = []
  lock : HoldsLock thread r'.dlr ↔ HoldsLock thread r.dlr
  fds : r'.fds = r.fds
  liveErrors : r'.liveErrors = r.liveErrors + 1

@[simp] theorem closeFd_self (fd : Nat) (flocked : Bool) (fds : List OpenFd) :
    closeFd (⟨fd, flocked⟩ :: fds) fd = fds := if_pos rfl

@[simp] theorem setFlocked_self (fd : Nat) (flocked flocked' : Bool) (fds : List OpenFd) :
    setFlocked (⟨fd, flocked⟩ :: fds) fd flocked' = ⟨fd, flocked'⟩ :: fds := if_pos rfl

theorem backOut_locked (hself : HoldsLock self r.dlr) (hmutex : r.dlr.displayMutex = some self)
    (curError : Option ErrorInfo) (fd : Option Nat) (total : Nat) :
    ∃ dlr, ¬ HoldsLock self dlr ∧ backOut self ⟨curError, true, fd, r, total⟩ = .ok { r with
      dlr := dlr
      fds := match fd with
        | some fd => closeFd r.fds fd
        | none => r.fds } := by
  obtain ⟨dlr, hunlock, hfree, -⟩ := unlockDisplay_own hself hmutex
  refine ⟨dlr, hfree, ?_⟩
  unfold backOut
  cases fd with
  | none =>
    rw [if_pos rfl, hunlock]; rfl
  | some fd =>
    rw [if_pos rfl, hunlock]; rfl

theorem openBusCalls_spec (hfuel : 10 ≤ fuel) (self : T)
    (hflock : c.crossInstanceLocksEnabled = true → ∀ flock, ∃ rc, flockLockByFd fuel c wait flock = .ok rc)
    (o : OpenTry) (r : BusHolder T) {total : Nat} (htotal : total ≤ defaultOpenMaxWaitMillisec) :
    ∃ status, openTryStatus threadId fuel self c wait o r.dlr = .ok status ∧
      ((∃ (fd : Nat) (r' : BusHolder T),
          openBusCalls threadId fuel self c wait o r total = .ok ⟨none, true, some fd, r', total⟩ ∧
          TryOpened self c r fd r') ∨
        ∃ e err r', openBusCalls threadId fuel self c wait o r total = .ok e ∧ e.curError = some err ∧
          total ≤ e.totalWaitMillisec ∧ backOut self e = .ok r' ∧ TryFailed self r status err r') := by
  unfold openTryStatus openBusCalls
  rcases lockDisplay_spec threadId self o.trylock r.dlr hfuel with
    ⟨dlr, hlock, hfree, hself, hmutex⟩ | ⟨err, hlock, hstatus, hcauses⟩
  · rw [hlock, ok_bind, ok_bind]
    have hreleased : ∀ {dlr' : DisplayLockRecord T}, ¬ HoldsLock self dlr' → (HoldsLock self dlr' ↔ HoldsLock self r.dlr) :=
      fun h => iff_of_false h hfree
    cases o.opened with
    | error errsv =>
      have hpos : (0 : Int) < errsv.val := Int.natCast_pos.2 errsv.property
      obtain ⟨dlr', hfree', hback⟩ := backOut_locked (r := ⟨dlr, r.fds, r.liveErrors + 1⟩) hself hmutex
        (some (errinfoNew (-errsv.val) "i2c_open_bus_basic")) none
        (if errsv.val = eAcces ∨ (errsv.val : Int) = eNoent then defaultOpenMaxWaitMillisec + 1 else total)
      refine ⟨_, rfl, .inr ⟨_, _, _, rfl, rfl, ?_, hback, ⟨neg_ne_zero.2 (ne_of_gt hpos), rfl, rfl, hreleased hfree', rfl,
        rfl⟩⟩⟩
      split
      · exact Nat.le_succ_of_le htotal
      · exact Nat.le_refl total
    | ok fd =>
      dsimp only
      by_cases henabled : c.crossInstanceLocksEnabled = true
      · obtain ⟨rc, hrc⟩ := hflock henabled o.flock
        rw [if_pos henabled, if_pos henabled, hrc, ok_bind]
        refine ⟨rc, rfl, ?_⟩
        by_cases hfailed : rc ≠ 0
        · rw [if_pos hfailed]
          obtain ⟨dlr', hfree', hback⟩ := backOut_locked (r := ⟨dlr, ⟨fd, false⟩ :: r.fds, r.liveErrors + 1⟩) hself hmutex
            (some (errinfoNew rc "i2c_open_bus")) (some fd) total
          exact .inr ⟨_, _, _, rfl, rfl, Nat.le_refl _, hback, ⟨hfailed, rfl, rfl, hreleased hfree', closeFd_self .., rfl⟩⟩
        · rw [if_neg hfailed]
          refine .inl ⟨fd, _, rfl, hfree, hself, hmutex, ?_, rfl⟩
          rw [henabled]; exact setFlocked_self ..
      · rw [if_neg henabled, if_neg henabled]
        refine ⟨0, rfl, .inl ⟨fd, _, rfl, hfree, hself, hmutex, ?_, rfl⟩⟩
        rw [Bool.eq_false_iff.2 henabled]
  · rw [hlock, ok_bind, ok_bind]
    exact ⟨_, rfl, .inr ⟨_, err, _, rfl, rfl, Nat.le_refl _, rfl, ⟨hstatus, rfl, hcauses, .rfl, rfl, rfl⟩⟩⟩

theorem openTryStatus_congr (fuel : Nat) (c : FlockSettings) (wait : Bool) (o : OpenTry) {dlr' : DisplayLockRecord T}
    (h : HoldsLock self dlr ↔ HoldsLock self dlr') :
    openTryStatus threadId fuel self c wait o dlr = openTryStatus threadId fuel self c wait o dlr' := by
  have hlock := lockDisplay_status threadId o.trylock h fuel
  unfold openTryStatus
  cases h1 : lockDisplay threadId fuel self o.trylock dlr with
  | error e1 =>
    cases h2 : lockDisplay threadId fuel self o.trylock dlr' with
    | error e2 =>
      rw [h1, h2] at hlock
      cases hlock; rfl
    | ok r2 =>
      rw [h1, h2] at hlock; cases hlock
  | ok r1 =>
    cases h2 : lockDisplay threadId fuel self o.trylock dlr' with
    | error e2 =>
      rw [h1, h2] at hlock; cases hlock
    | ok r2 =>
      rw [h1, h2] at hlock
      obtain ⟨err1, dlr1⟩ := r1
      obtain ⟨err2, dlr2⟩ := r2
      have hstatus : err1.map (·.statusCode) = err2.map (·.statusCode) := Except.ok.inj hlock
      cases err1 with
      | none =>
        cases err2 with
        | none => rfl
        | some err2 => cases hstatus
      | some err1 =>
        cases err2 with
        | none => cases hstatus
        | some err2 =>
          exact congrArg Except.ok (Option.some.inj hstatus)

/-! ## All tries -/

theorem errinfoCounts_append (causes causes' : List ErrorInfo) :
    errinfoCounts (causes ++ causes') = errinfoCounts causes + errinfoCounts causes' := by
  induction causes with
  | nil => exact (Nat.zero_add _).symm
  | cons cause causes ih =>
    rw [cons_append, errinfoCounts, errinfoCounts, ih, Nat.add_assoc]

theorem errinfoCount_eq (err : ErrorInfo) : errinfoCount err = errinfoCounts err.causes + 1 := by
  obtain ⟨statusCode, func, detail, causes⟩ := err
  rw [errinfoCount]

theorem errinfoCount_addCause (parent cause : ErrorInfo) :
    errinfoCount (errinfoAddCause parent cause) = errinfoCount parent + errinfoCount cause := by
  rw [errinfoCount_eq, errinfoCount_eq]
  rw [errinfoAddCause, errinfoCounts_append, errinfoCounts, errinfoCounts]; omega

def TriesError (fuel : Nat) (self : T) (c : FlockSettings) (wait : Bool) (tries : Nat → OpenTry) (r : BusHolder T)
    (s : OpenBusState T) : Prop :=
  match s.masterError with
  | none => s.tryctr = 0 ∧ s.totalWaitMillisec = 0 ∧ s.holder.liveErrors = r.liveErrors
  | some err => err.causes.length + 1 = s.tryctr ∧
    (∀ (i : Nat) (status : Status), ((err :: err.causes).map (·.statusCode))[i]? = some status →
      openTryStatus threadId fuel self c wait (tries i) r.dlr = .ok status ∧ status ≠ 0) ∧
    s.holder.liveErrors = r.liveErrors + errinfoCount err

structure Trying (fuel : Nat) (thread : T) (c : FlockSettings) (wait : Bool) (tries : Nat → OpenTry) (r : BusHolder T)
    (s : OpenBusState T) : Prop where
  fdLoc : s.fdLoc = -1
  total : 100 * s.tryctr ≤ s.totalWaitMillisec
  lock : HoldsLock thread s.holder.dlr ↔ HoldsLock thread r.dlr
  fds : s.holder.fds = r.fds
  error : TriesError threadId fuel thread c wait tries r s

theorem Trying.failed {tries : Nat → OpenTry} {s : OpenBusState T} (h : Trying threadId fuel self c wait tries r s)
    {status : Status} (hstatus : openTryStatus threadId fuel self c wait (tries s.tryctr) s.holder.dlr = .ok status)
    {err : ErrorInfo} {r' : BusHolder T} (hfailed : TryFailed self s.holder status err r') {total : Nat}
    (htotal : s.totalWaitMillisec ≤ total) :
    Trying threadId fuel self c wait tries r ⟨r', -1, match s.masterError with
      | none => some err
      | some masterError => some (errinfoAddCause masterError err), total + defaultOpenWaitIntervalMillisec,
      s.tryctr + 1⟩ := by
  have hcount : errinfoCount err = 1 := by rw [errinfoCount_eq, hfailed.causes]; rfl
  rw [openTryStatus_congr threadId fuel c wait (tries s.tryctr) h.lock] at hstatus
  refine ⟨rfl, ?_, hfailed.lock.trans h.lock, hfailed.fds.trans h.fds, ?_⟩
  · have hold := h.total
    change 100 * (s.tryctr + 1) ≤ total + 100
    omega
  · have herror := h.error
    unfold TriesError at herror ⊢
    cases hmaster : s.masterError with
    | none =>
      rw [hmaster] at herror
      dsimp only at herror ⊢
      obtain ⟨hfirst, -, hlive⟩ := herror
      rw [hfailed.causes, hfailed.liveErrors, hlive, hcount, hfirst]
      refine ⟨rfl, fun i st hst => ?_, rfl⟩
      rw [hfirst] at hstatus
      cases i with
      | zero =>
        cases hst
        dsimp only
        rw [hfailed.status]; exact ⟨hstatus, hfailed.failed⟩
      | succ i => cases hst
    | some m =>
      rw [hmaster] at herror
      obtain ⟨hlen, hstatuses, hlive⟩ := herror
      refine ⟨?_, fun i st hst => ?_, ?_⟩
      · rw [errinfoAddCause, length_append, length_singleton, hlen]
      · have hlist : (errinfoAddCause m err :: (errinfoAddCause m err).causes).map (·.statusCode) =
            (m :: m.causes).map (·.statusCode) ++ [status] := by
          rw [errinfoAddCause, map_cons, map_append, map_cons, hfailed.status]; rfl
        rw [hlist] at hst
        by_cases hi : i < ((m :: m.causes).map (·.statusCode)).length
        · rw [getElem?_append_left hi] at hst; exact hstatuses i st hst
        · have hlast : i = s.tryctr := by
            have hbound := (List.getElem?_eq_some_iff.1 hst).1
            rw [length_append, length_singleton] at hbound
            rw [length_map, length_cons] at hi hbound; omega
          subst hlast
          rw [getElem?_append_right (Nat.le_of_not_lt hi), length_map, length_cons, hlen, Nat.sub_self] at hst
          cases hst; exact ⟨hstatus, hfailed.failed⟩
      · rw [errinfoCount_addCause, hfailed.liveErrors, hlive, hcount, Nat.add_assoc]

/-- **The loop**: it ends with the bus opened by a try after failed ones, or with all tries failed and an error. -/
theorem openBusLoop_spec (hfuel : 10 ≤ fuel) (self : T)
    (hflock : c.crossInstanceLocksEnabled = true → ∀ flock, ∃ rc, flockLockByFd fuel c wait flock = .ok rc)
    (tries : Nat → OpenTry) (r : BusHolder T) :
    ∀ (left : Nat) (s : OpenBusState T), s.tryctr + left = 11 → Trying threadId fuel self c wait tries r s →
      ∀ n, left ≤ n → ∃ s', whileLoop OpenBusState.trying (openBusTry threadId fuel self c wait tries) n s = .ok s' ∧
        ((Trying threadId fuel self c wait tries r s' ∧ s'.masterError ≠ none) ∨
          ∃ s0 fd, Trying threadId fuel self c wait tries r s0 ∧ TryOpened self c s0.holder fd s'.holder ∧
            s'.fdLoc = fd ∧ s'.masterError = s0.masterError) := by
  have hstop : ∀ s : OpenBusState T, Trying threadId fuel self c wait tries r s → s.trying = false →
      s.masterError ≠ none := by
    intro s h hdone hnone
    have herror := h.error
    rw [TriesError, hnone] at herror
    have htrying : s.trying = true := by
      rw [OpenBusState.trying, decide_eq_true_eq, h.fdLoc, herror.2.1]; exact ⟨by decide, Nat.zero_le _⟩
    exact Bool.false_ne_true (hdone.symm.trans htrying)
  intro left
  induction left with
  | zero =>
    intro s hk h n _
    have hdone : s.trying = false := by
      rw [OpenBusState.trying, decide_eq_false_iff_not]
      intro htime
      have htotal := h.total
      have hmax : s.totalWaitMillisec ≤ 1000 := htime.2
      omega
    exact ⟨s, whileLoop_stop hdone n, .inl ⟨h, hstop s h hdone⟩⟩
  | succ left ih =>
    intro s hk h n hn
    cases hdone : s.trying with
    | false => exact ⟨s, whileLoop_stop hdone n, .inl ⟨h, hstop s h hdone⟩⟩
    | true =>
      obtain ⟨n, rfl⟩ : ∃ k, n = k + 1 := ⟨n - 1, by omega⟩
      have htime : s.fdLoc < 0 ∧ s.totalWaitMillisec ≤ defaultOpenMaxWaitMillisec := of_decide_eq_true hdone
      obtain ⟨status, hstatus, hend⟩ := openBusCalls_spec threadId hfuel self hflock (tries s.tryctr) s.holder htime.2
      rcases hend with ⟨fd, r', hcalls, hopened⟩ | ⟨e, err, r', hcalls, herr, htotal, hback, hfailed⟩
      · have hturn : openBusTry threadId fuel self c wait tries s =
            .ok { s with holder := r', fdLoc := fd, tryctr := s.tryctr + 1 } := by
          rw [openBusTry, hcalls]; rfl
        have hopen : OpenBusState.trying { s with holder := r', fdLoc := (fd : Int), tryctr := s.tryctr + 1 } = false := by
          rw [OpenBusState.trying, decide_eq_false_iff_not]
          exact fun hneg => absurd hneg.1 (not_lt.2 (Int.natCast_nonneg fd))
        exact ⟨_, whileLoop_last n hdone hturn hopen, .inr ⟨s, fd, h, hopened, rfl, rfl⟩⟩
      · have hturn : openBusTry threadId fuel self c wait tries s = .ok ⟨r', -1, match s.masterError with
            | none => some err
            | some masterError => some (errinfoAddCause masterError err),
            e.totalWaitMillisec + defaultOpenWaitIntervalMillisec, s.tryctr + 1⟩ := by
          rw [openBusTry, hcalls, ok_bind, herr]
          rw [hback]; rfl
        have hnext := h.failed threadId hstatus hfailed htotal
        obtain ⟨s', hs', hres⟩ := ih _ (show s.tryctr + 1 + left = 11 by omega) hnext n (by omega)
        exact ⟨s', (whileLoop_step n hdone hturn).trans hs', hres⟩

theorem i2cCloseBus_opened {r' : BusHolder T} {fd : Nat} {n : Nat} (h : TryOpened self c r fd r') (enabled : Bool)
    (flock : Option Errno) :
    ∃ r'', i2cCloseBus self enabled flock none { r' with liveErrors := n } fd = .ok (0, r'') ∧
      ¬ HoldsLock self r''.dlr ∧ r''.dlr.displayMutex = none ∧ r''.fds = r.fds ∧ r''.liveErrors = n := by
  obtain ⟨dlr, hunlock, hfree, hmutex⟩ := unlockDisplay_own h.locked h.mutex
  unfold i2cCloseBus
  by_cases hflock : enabled = true ∧ flock = none
  · rw [if_pos hflock]
    dsimp only
    rw [check_pos rfl, ok_bind, hunlock, ok_bind, h.fds, setFlocked_self, closeFd_self]
    exact ⟨_, rfl, hfree, hmutex, rfl, rfl⟩
  · rw [if_neg hflock]
    dsimp only
    rw [check_pos rfl, ok_bind, hunlock, ok_bind, h.fds, closeFd_self]
    exact ⟨_, rfl, hfree, hmutex, rfl, rfl⟩

theorem openBusRight_of_flockEnds (self : T) (h : FlockEnds c wait) : OpenBusRight threadId self c wait := by
  intro tries r
  have hfuel : ∃ fuel, 11 ≤ fuel ∧
      (c.crossInstanceLocksEnabled = true → ∀ flock, ∃ rc, flockLockByFd fuel c wait flock = .ok rc) := by
    by_cases henabled : c.crossInstanceLocksEnabled = true
    · obtain ⟨hsleep, m, hrange, hexceeds⟩ := h henabled
      exact ⟨m + 11, by omega, fun _ flock => flockLockByFd_returns hsleep hrange hexceeds flock (by omega)⟩
    · exact ⟨11, Nat.le_refl _, fun henabled' => absurd henabled' henabled⟩
  obtain ⟨fuel, hle, hflock⟩ := hfuel
  have hstart : Trying threadId fuel self c wait tries r ⟨r, -1, none, 0, 0⟩ :=
    ⟨rfl, Nat.le_refl _, .rfl, rfl, rfl, rfl, rfl⟩
  obtain ⟨s, hs, hend⟩ := openBusLoop_spec threadId (by omega) self hflock tries r 11 _ rfl hstart fuel hle
  refine ⟨fuel, ?_⟩
  rw [i2cOpenBus, hs, ok_bind]
  rcases hend with ⟨htrying, herr⟩ | ⟨s0, fd, htrying, hopened, hfd, hmaster⟩
  · obtain ⟨err, herr⟩ := Option.ne_none_iff_exists'.1 herr
    have herror := htrying.error
    rw [TriesError, herr] at herror
    right
    rw [htrying.fdLoc, if_neg (by decide : ¬ (0 : Int) ≤ -1)]
    dsimp only
    rw [herr, check_pos (by simp), ok_bind]
    exact ⟨err, s.holder, rfl, htrying.lock, htrying.fds, herror.2.1, herror.2.2⟩
  · left
    have hnonneg : (0 : Int) ≤ fd := Int.natCast_nonneg fd
    have herror := htrying.error
    unfold TriesError at herror
    have hlive := hopened.liveErrors
    rw [hfd, if_pos hnonneg]
    have hholder : ∀ {r' : BusHolder T}, r' = { s.holder with liveErrors := r.liveErrors } → BusOpened self c r fd r' := by
      rintro _ rfl
      refine ⟨fun hself => hopened.wasFree (htrying.lock.2 hself), hopened.locked, hopened.fds.trans (by rw [htrying.fds]),
        rfl, fun enabled flock => ?_⟩
      rw [← htrying.fds]; exact i2cCloseBus_opened hopened enabled flock
    rw [hmaster]
    cases hm : s0.masterError with
    | none =>
      rw [hm] at herror
      refine ⟨fd, _, rfl, hholder ?_⟩
      rw [← herror.2.2, ← hlive]
    | some m =>
      rw [hm] at herror
      refine ⟨fd, _, rfl, hholder ?_⟩
      dsimp only
      rw [hlive, herror.2.2, Nat.add_sub_cancel]

theorem not_openBusRight_of_not_flockEnds (self : T) (h : ¬ FlockEnds c wait) :
    ¬ OpenBusRight threadId self c wait := by
  intro hright
  have henabled : c.crossInstanceLocksEnabled = true := by
    by_contra hnot
    exact h fun henabled => absurd henabled hnot
  let o : OpenTry := ⟨fun _ => true, .ok 3, alwaysFlocked⟩
  obtain ⟨fuel, hreturns⟩ := hright (fun _ => o) ⟨createDisplayLockRecord (.i2c 1), [], 0⟩
  have hfault : ∃ e, i2cOpenBus threadId fuel self c wait (fun _ => o) ⟨createDisplayLockRecord (.i2c 1), [], 0⟩ =
      .error e := by
    unfold i2cOpenBus
    cases fuel with
    | zero => exact ⟨_, rfl⟩
    | succ fuel =>
      obtain ⟨e, he⟩ := flockLockByFd_hangs h (fuel + 1)
      have hlock : lockDisplay threadId (fuel + 1) self (fun _ => true) (createDisplayLockRecord (.i2c 1)) =
          .ok (none, ⟨.i2c 1, some self, some self, threadId self⟩) := by
        unfold lockDisplay
        have hnotSelf : ¬ (createDisplayLockRecord (.i2c 1) : DisplayLockRecord T).displayMutexThread = some self :=
          fun heq => nomatch heq
        have hloop : whileLoop LockTries.trying (lockTry fun _ => true) (fuel + 1) ⟨false, 0, 0⟩ = .ok ⟨true, 0, 1⟩ :=
          whileLoop_last fuel rfl rfl rfl
        rw [if_neg hnotSelf, hloop]; rfl
      have hturn : openBusTry threadId (fuel + 1) self c wait (fun _ => o)
          ⟨⟨createDisplayLockRecord (.i2c 1), [], 0⟩, -1, none, 0, 0⟩ = .error e := by
        unfold openBusTry openBusCalls
        have hopened : o.opened = .ok 3 := rfl
        have hflock : o.flock = alwaysFlocked := rfl
        rw [hlock, ok_bind, hopened]
        dsimp only
        rw [if_pos henabled, hflock, he]; rfl
      rw [whileLoop_fault fuel rfl hturn]; exact ⟨e, rfl⟩
  obtain ⟨e, he⟩ := hfault
  rcases hreturns with ⟨fd, r', hok, -⟩ | ⟨err, r', hok, -⟩
  · rw [he] at hok; cases hok
  · rw [he] at hok; cases hok

/-- **Opening and closing a bus is right exactly where polling comes to an end.** -/
theorem openBusRight_iff (self : T) (c : FlockSettings) (wait : Bool) :
    OpenBusRight threadId self c wait ↔ FlockEnds c wait :=
  ⟨fun hright => by_contra fun h => not_openBusRight_of_not_flockEnds threadId self h hright,
    openBusRight_of_flockEnds threadId self⟩

end Tries

def noPollInterval : FlockSettings := ⟨true, 0, 3000⟩

/-- **The time waited stays 0**, and polling goes on while another process holds the lock. -/
theorem noPollInterval_not_right : ¬ OpenBusRight (T := Nat) (fun t => t) 1 noPollInterval true := by
  refine not_openBusRight_of_not_flockEnds _ _ fun h => ?_
  obtain ⟨-, n, -, hgt⟩ := h rfl
  change toUint64 (n * 0) > toUint64 3000 at hgt
  rw [mul_zero] at hgt; exact absurd hgt (by decide)

end Ddc
