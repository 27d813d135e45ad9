import Ddcutil.EdidRead
import Ddcutil.Kit.Loop
/-!
# I2cExecute — reads and writes on the I2C bus (i2c_execute.c, i2c_strategy_dispatcher.c)

A buffer is written to the bus, or read from it, by `write()` and `read()` or by `ioctl(I2C_RDWR)`.
-/
namespace Ddc

open Kit List Exec

namespace I2c

open EdidRead (Errno eInval eTimedout IoStrategyId)

/-! ## Calls to the kernel -/

/-- **What comes of a call**: -1 and an `errno`, or a number and, where something is read, the data. -/
inductive Outcome where
  | failed (errno : Errno)
  | done (n : Nat) (data : Nat → Byte)

inductive IoCall where
  | setAddr (force : Bool)
  | poll
  | write (bytes : List Byte)
  | read (ndx bytect : Nat)
  | ioctlWrite (bytes : List Byte)
  | ioctlRead (ndx bytect : Nat)

def Outcome.errnoAfter (o : Outcome) (errno : Int) : Int :=
  match o with
  | .failed e => e.val
  | .done _ _ => errno

def Outcome.rc (o : Outcome) (asked : Nat) : Int :=
  match o with
  | .failed _ => -1
  | .done n _ => (min n asked : Nat)

def Outcome.bytes (o : Outcome) (asked : Nat) : List Byte :=
  match o with
  | .failed _ => []
  | .done n data => (List.range (min n asked)).map data

def Outcome.allBytes (o : Outcome) (asked : Nat) : List Byte :=
  match o with
  | .failed _ => []
  | .done _ data => (List.range asked).map data

/-- **The outcomes of the calls of one attempt**, each by its number. -/
structure Answers where
  setAddr : Nat → Outcome
  poll : Outcome
  write : Outcome
  read : Nat → Outcome
  ioctl : Nat → Outcome

structure IoState where
  errno : Int
  calls : List (IoCall × Outcome)
  readbuf : Nat → Byte

def IoState.called (s : IoState) (call : IoCall) (o : Outcome) : IoState :=
  { s with errno := o.errnoAfter s.errno, calls := s.calls ++ [(call, o)] }

def overwrite (readbuf : Nat → Byte) (ndx : Nat) (bytes : List Byte) : Nat → Byte :=
  fun i => if ndx ≤ i then bytes.getD (i - ndx) (readbuf i) else readbuf i

/-! ## The two strategies -/

/-- What does not change: `i2c_forceable_slave_addr_flag`, whether `poll()` is used, and of the bus its number and
driver.  Between two attempts other code runs, and may leave another `errno`. -/
structure I2cSettings where
  forceableSlaveAddr : Bool
  useTimeout : Bool
  busno : Nat
  driverName : Option String
  errnoBetween : Int → Int

def i2cSetAddr0 (force : Bool) (o : Outcome) (s : IoState) : Exec (Int × IoState) := do
  let s := s.called (.setAddr force) o
  let result := match o with
    | .failed _ => -s.errno
    | .done _ _ => 0
  check (result ≤ 0)
  .ok (result, s)

def i2cSetAddr (cfg : I2cSettings) (a : Answers) (s : IoState) : Exec (Int × IoState) := do
  let r ← i2cSetAddr0 false (a.setAddr 0) s
  let r ← if r.1 = -eBusy ∧ cfg.forceableSlaveAddr = true then i2cSetAddr0 true (a.setAddr 1) r.2 else .ok r
  check (r.1 ≤ 0)
  .ok r

def pollFd (cfg : I2cSettings) (a : Answers) (s : IoState) : Option Int × IoState :=
  if cfg.useTimeout then
    let s := s.called .poll a.poll
    match a.poll with
    | .failed _ => (some (-s.errno), s)
    | .done n _ => (if n = 0 then some (-eTimedout) else none, s)
  else (none, s)

def countStatus (rc : Int) (bytect : Nat) : Int := if 0 ≤ rc then if rc = bytect then 0 else ddcrcDdcData else rc

def i2cFileioWriter (cfg : I2cSettings) (a : Answers) (pbytes : List Byte) (s : IoState) : Exec (Int × IoState) := do
  let r ← i2cSetAddr cfg a s
  if r.1 < 0 then .ok r
  else
    match pollFd cfg a r.2 with
    | (some rc, s) => .ok (rc, s)
    | (none, s) =>
      let s := s.called (.write pbytes) a.write
      match a.write with
      | .failed _ => .ok (-s.errno, s)
      | .done _ _ => .ok (countStatus (a.write.rc pbytes.length) pbytes.length, s)

def readInto (o : Outcome) (ndx bytect : Nat) (s : IoState) : Int × IoState :=
  let t := s.called (.read ndx bytect) o
  (countStatus (o.rc bytect) bytect, { t with readbuf := overwrite t.readbuf ndx (o.bytes bytect) })

def readSingleBytes (a : Answers) : Nat → Nat → IoState → Int × IoState
  | _, 0, s => (0, s)
  | ndx, left + 1, s =>
    let r := readInto (a.read ndx) ndx 1 s
    if r.1 = 0 then readSingleBytes a (ndx + 1) left r.2 else r

def errnoStatus (r : Int × IoState) : Int × IoState := if r.1 < 0 then (-r.2.errno, r.2) else r

def i2cFileioReader (cfg : I2cSettings) (a : Answers) (singleByteReads : Bool) (bytect : Nat) (s : IoState) :
    Exec (Int × IoState) := do
  let r ← i2cSetAddr cfg a s
  if r.1 < 0 then .ok r
  else if singleByteReads then .ok (errnoStatus (readSingleBytes a 0 bytect r.2))
  else
    match pollFd cfg a r.2 with
    | (some rc, s) => .ok (rc, s)
    | (none, s) => .ok (errnoStatus (readInto (a.read 0) 0 bytect s))

def msgLen (bytect : Nat) : Nat := bytect % 65536

def ioctlStatus (o : Outcome) (s : IoState) : Int :=
  match o with
  | .failed _ => -s.errno
  | .done _ _ => 0

def i2cIoctlWriter (a : Answers) (pbytes : List Byte) (s : IoState) : Int × IoState :=
  let s := s.called (.ioctlWrite (pbytes.take (msgLen pbytes.length))) (a.ioctl 0)
  (ioctlStatus (a.ioctl 0) s, s)

def i2cIoctlReader1 (o : Outcome) (ndx bytect : Nat) (s : IoState) : Int × IoState :=
  let cleared := overwrite s.readbuf ndx (List.replicate bytect 0)
  let t := s.called (.ioctlRead ndx (msgLen bytect)) o
  (ioctlStatus o t, { t with readbuf := overwrite cleared ndx (o.allBytes (msgLen bytect)) })

def ioctlSingleBytes (a : Answers) : Nat → Nat → IoState → Int × IoState
  | _, 0, s => (0, s)
  | ndx, left + 1, s =>
    let r := i2cIoctlReader1 (a.ioctl ndx) ndx 1 s
    if r.1 = 0 then ioctlSingleBytes a (ndx + 1) left r.2 else r

def i2cIoctlReader (a : Answers) (readBytewise : Bool) (bytect : Nat) (s : IoState) : Int × IoState :=
  if readBytewise then ioctlSingleBytes a 0 bytect s else i2cIoctlReader1 (a.ioctl 0) 0 bytect s

/-! ## The dispatcher -/

structure Attempt where
  strategyId : IoStrategyId
  rc : Int
  calls : List (IoCall × Outcome)
  readbuf : Nat → Byte

/-- **Every attempt that was made**, and what is left: the strategy in effect and the status that is returned. -/
structure Invocation where
  attempts : List Attempt
  strategyId : IoStrategyId
  rc : Int

def Invocation.prepend (a : Attempt) (i : Invocation) : Invocation := { i with attempts := a :: i.attempts }

def isNvidiaEinvalBug (cfg : I2cSettings) (strategyId : IoStrategyId) (rc : Int) : Bool :=
  decide (rc = -eInval) && decide (strategyId = .ioctl) && decide (cfg.driverName = some "nvidia")

def IoState.between (cfg : I2cSettings) (s : IoState) : IoState :=
  { s with errno := cfg.errnoBetween s.errno, calls := [] }

def i2cWriter (cfg : I2cSettings) (strategyId : IoStrategyId) (a : Answers) (pbytes : List Byte) (s : IoState) :
    Exec (Int × IoState) :=
  match strategyId with
  | .fileio => i2cFileioWriter cfg a pbytes s
  | .ioctl => .ok (i2cIoctlWriter a pbytes s)

def i2cReader (cfg : I2cSettings) (strategyId : IoStrategyId) (a : Answers) (readBytewise : Bool) (bytect : Nat)
    (s : IoState) : Exec (Int × IoState) :=
  match strategyId with
  | .fileio => i2cFileioReader cfg a readBytewise bytect s
  | .ioctl => .ok (i2cIoctlReader a readBytewise bytect s)

def einvalBug (cfg : I2cSettings) (strategyId : IoStrategyId) (rc : Int) : Exec Bool :=
  if rc = -eInval then do
    check ((0 : Int) ≤ cfg.busno)
    .ok (isNvidiaEinvalBug cfg strategyId rc)
  else .ok false

/-- `answers` are those of the attempts to come.  The reader asserts that the status is no error of its own after every
attempt, the writer after the last. -/
def invokeI2c (cfg : I2cSettings) (assertEach : Bool)
    (op : IoStrategyId → Answers → IoState → Exec (Int × IoState)) :
    Nat → (Nat → Answers) → IoStrategyId → IoState → Exec Invocation
  | 0, _, _, _ => .error .outOfFuel
  | fuel + 1, answers, strategyId, s => do
    let r ← op strategyId (answers 0) s
    check (assertEach = true → r.1 ≤ 0)
    let bug ← einvalBug cfg strategyId r.1
    if bug then do
      let i ← invokeI2c cfg assertEach op fuel (fun n => answers (n + 1)) .fileio (r.2.between cfg)
      .ok (i.prepend ⟨strategyId, r.1, r.2.calls, r.2.readbuf⟩)
    else do
      check (r.1 ≤ 0)
      .ok ⟨[⟨strategyId, r.1, r.2.calls, r.2.readbuf⟩], strategyId, r.1⟩

def invokeI2cWriter (cfg : I2cSettings) (pbytes : List Byte) :
    Nat → (Nat → Answers) → IoStrategyId → IoState → Exec Invocation :=
  invokeI2c cfg false fun strategyId a s => i2cWriter cfg strategyId a pbytes s

def invokeI2cReader (cfg : I2cSettings) (readBytewise : Bool) (bytect : Nat) :
    Nat → (Nat → Answers) → IoStrategyId → IoState → Exec Invocation :=
  invokeI2c cfg true fun strategyId a s => i2cReader cfg strategyId a readBytewise bytect s

/-! ## What is promised -/

def moved : IoCall × Outcome → List Byte
  | (.write bytes, .done n _) => bytes.take n
  | (.read _ bytect, o) => o.bytes bytect
  | (.ioctlWrite bytes, .done _ _) => bytes
  | (.ioctlRead _ bytect, o) => o.allBytes bytect
  | _ => []

/-- **The status with which a call ends the attempt**, if it is one that fails or falls short.  A slave address that is
busy is tried again where it may be forced. -/
def failure (cfg : I2cSettings) : IoCall × Outcome → Option Int
  | (.setAddr force, .failed e) =>
    if force = false ∧ (e.val : Int) = eBusy ∧ cfg.forceableSlaveAddr = true then none else some (-e.val)
  | (.poll, .done n _) => if n = 0 then some (-eTimedout) else none
  | (.write bytes, .done n _) => if n < bytes.length then some ddcrcDdcData else none
  | (.read _ bytect, .done n _) => if n < bytect then some ddcrcDdcData else none
  | (_, .failed e) => some (-e.val)
  | (_, .done _ _) => none

structure Passed (cfg : I2cSettings) (calls : List (IoCall × Outcome)) (bytes : List Byte) : Prop where
  going : ∀ c ∈ calls, failure cfg c = none
  transferred : calls.flatMap moved = bytes

def Stopped (cfg : I2cSettings) (calls : List (IoCall × Outcome)) (rc : Int) : Prop :=
  ∃ before c, calls = before ++ [c] ∧ (∀ d ∈ before, failure cfg d = none) ∧ failure cfg c = some rc

/-- **What is promised of an attempt**: it ends at the first call that fails or falls short, with the status of that
call, or else with 0 and all bytes transferred. -/
def WriteRight (cfg : I2cSettings) (pbytes : List Byte) (a : Attempt) : Prop :=
  a.rc = 0 ∧ Passed cfg a.calls pbytes ∨ Stopped cfg a.calls a.rc

def ReadRight (cfg : I2cSettings) (bytect : Nat) (a : Attempt) : Prop :=
  (a.rc = 0 ∧ ∃ bytes, Passed cfg a.calls bytes ∧ bytes.length = bytect ∧
    ∀ i < bytect, bytes[i]? = some (a.readbuf i)) ∨ Stopped cfg a.calls a.rc

/-- **What is promised of an invocation**: it returns the status of its only attempt, or of the second one after a
change of strategy, and every attempt is right. -/
def InvocationRight (right : Attempt → Prop) (strategyId : IoStrategyId) (outcome : Exec Invocation) : Prop :=
  ∃ i, outcome = .ok i ∧ (∀ a ∈ i.attempts, right a) ∧
    ((∃ a, i.attempts = [a] ∧ a.strategyId = strategyId ∧ i.strategyId = strategyId ∧ i.rc = a.rc) ∨
      strategyId = .ioctl ∧ ∃ a b, i.attempts = [a, b] ∧ a.strategyId = .ioctl ∧ b.strategyId = .fileio ∧
        i.strategyId = .fileio ∧ i.rc = b.rc)

/-! ## The condition -/

def Outcome.fails : Outcome → Bool
  | .failed _ => true
  | .done _ _ => false

def Outcome.short (bytect : Nat) : Outcome → Bool
  | .failed _ => false
  | .done n _ => decide (n < bytect)

def Outcome.failsWith (errno : Int) : Outcome → Bool
  | .failed e => decide ((e.val : Int) = errno)
  | .done _ _ => false

def Answers.OneByte (a : Answers) (ndx : Nat) : Prop := (a.read ndx).fails = false ∧ (a.read ndx).short 1 = false

def SetAddrOk (cfg : I2cSettings) (a : Answers) : Prop :=
  (a.setAddr 0).fails = false ∨
    (a.setAddr 0).failsWith eBusy = true ∧ cfg.forceableSlaveAddr = true ∧ (a.setAddr 1).fails = false

def PollOk (cfg : I2cSettings) (a : Answers) : Prop :=
  cfg.useTimeout = true → a.poll.fails = false ∧ a.poll.short 1 = false

def ReadsShort (cfg : I2cSettings) (a : Answers) (readBytewise : Bool) (bytect : Nat) : Prop :=
  SetAddrOk cfg a ∧
    if readBytewise then FirstBad a.OneByte (fun ndx => (a.read ndx).short 1 = true) 0 bytect
    else PollOk cfg a ∧ (a.read 0).short bytect = true

def staleErrno (a : Answers) (errno : Int) : Int := (a.setAddr 0).errnoAfter errno

/-- The reads of an attempt by `read()`: none falls short, or what is left in `errno` is the very status. -/
def FileioFine (cfg : I2cSettings) (a : Answers) (readBytewise : Bool) (bytect : Nat) (errno : Int) : Prop :=
  ReadsShort cfg a readBytewise bytect → -staleErrno a errno = ddcrcDdcData

def IoctlFine (a : Answers) (readBytewise : Bool) (bytect : Nat) : Prop :=
  readBytewise = true ∨ bytect < 65536 ∨ (a.ioctl 0).fails = true

def Einval (a : Answers) (readBytewise : Bool) (bytect : Nat) : Prop :=
  if readBytewise then
    FirstBad (fun ndx => (a.ioctl ndx).fails = false) (fun ndx => (a.ioctl ndx).failsWith eInval = true) 0 bytect
  else (a.ioctl 0).failsWith eInval = true

def MeetsEinval (cfg : I2cSettings) (a : Answers) (readBytewise : Bool) (bytect : Nat) : Prop :=
  cfg.driverName = some "nvidia" ∧ Einval a readBytewise bytect

def ReaderCondition (cfg : I2cSettings) (readBytewise : Bool) (bytect : Nat) (answers : Nat → Answers) (errno : Int) :
    IoStrategyId → Prop
  | .fileio => FileioFine cfg (answers 0) readBytewise bytect errno
  | .ioctl => IoctlFine (answers 0) readBytewise bytect ∧ (MeetsEinval cfg (answers 0) readBytewise bytect →
    FileioFine cfg (answers 1) readBytewise bytect (cfg.errnoBetween eInval))

def WriterCondition (pbytes : List Byte) (answers : Nat → Answers) : IoStrategyId → Prop
  | .fileio => True
  | .ioctl => IoctlFine (answers 0) false pbytes.length

/-! ## The calls of an attempt -/

section
variable {cfg : I2cSettings} {calls : List (IoCall × Outcome)} {bytes : List Byte} {c : IoCall × Outcome} {rc : Int}

theorem Passed.nil : Passed cfg [] [] := ⟨fun _ h => absurd h not_mem_nil, rfl⟩

theorem Passed.snoc (h : Passed cfg calls bytes) (hc : failure cfg c = none) :
    Passed cfg (calls ++ [c]) (bytes ++ moved c) where
  going d hd := by
    rcases mem_append.1 hd with hd | hd
    · exact h.going d hd
    · rw [mem_singleton.1 hd]; exact hc
  transferred := by rw [flatMap_append, h.transferred, flatMap_singleton]

theorem Passed.stop (h : Passed cfg calls bytes) (hc : failure cfg c = some rc) : Stopped cfg (calls ++ [c]) rc :=
  ⟨calls, c, rfl, h.going, hc⟩

theorem Stopped.not_passed (h : Stopped cfg calls rc) : ¬ Passed cfg calls bytes := by
  obtain ⟨before, d, rfl, -, hd⟩ := h
  intro hpassed
  have hnone := hpassed.going d (by simp)
  rw [hd] at hnone; cases hnone

theorem Stopped.unique {rc' : Int} (h : Stopped cfg calls rc) (h' : Stopped cfg calls rc') : rc = rc' := by
  obtain ⟨before, d, hcalls, -, hd⟩ := h
  obtain ⟨before', d', hcalls', -, hd'⟩ := h'
  rw [hcalls] at hcalls'
  have hlast := (append_inj' hcalls' rfl).2
  rw [← (List.cons.inj hlast).1, hd] at hd'; exact Option.some.inj hd'

end

theorem Errno.neg (e : Errno) : -(e.val : Int) < 0 := by
  have hpos := e.positive
  omega

/-- **What a call before the transfers does**: the attempt goes on, or ends with the status of the call. -/
structure Prepared (cfg : I2cSettings) (ok : Prop) (errno : Int) (s : IoState) (rc : Int) (t : IoState) : Prop where
  readbuf : t.readbuf = s.readbuf
  ends : rc = 0 ∧ ok ∧ Passed cfg t.calls [] ∧ t.errno = errno ∨ rc < 0 ∧ ¬ ok ∧ Stopped cfg t.calls rc

theorem i2cSetAddr0_failed (force : Bool) (e : Errno) (s : IoState) :
    i2cSetAddr0 force (.failed e) s = .ok (-(e.val : Int), s.called (.setAddr force) (.failed e)) := by
  have hneg : -(e.val : Int) ≤ 0 := Int.le_of_lt (Errno.neg e)
  exact congrArg (fun x : Exec Unit => x >>= fun _ => _) (check_pos hneg)

theorem failure_force (cfg : I2cSettings) (e : Errno) :
    failure cfg (.setAddr true, .failed e) = some (-(e.val : Int)) := by
  unfold failure; exact if_neg fun h => Bool.noConfusion h.1

variable {errno rc : Int} {s t : IoState} {cfg : I2cSettings} {n ndx bytect : Nat}

theorem failsWith_iff {e : Errno} : (Outcome.failed e).failsWith errno = true ↔ (e.val : Int) = errno :=
  decide_eq_true_iff

theorem i2cSetAddr_spec (cfg : I2cSettings) (a : Answers) (hs : s.calls = []) :
    ∃ rc t, i2cSetAddr cfg a s = .ok (rc, t) ∧ Prepared cfg (SetAddrOk cfg a) (staleErrno a s.errno) s rc t := by
  have hstart : Passed cfg s.calls [] := hs ▸ Passed.nil
  unfold i2cSetAddr SetAddrOk staleErrno
  cases a.setAddr 0 with
  | done n data =>
    exact ⟨_, _, rfl, rfl, .inl ⟨rfl, .inl rfl, hstart.snoc (c := (.setAddr false, .done n data)) rfl, rfl⟩⟩
  | failed e =>
    rw [i2cSetAddr0_failed, ok_bind]
    by_cases hretry : -(e.val : Int) = -eBusy ∧ cfg.forceableSlaveAddr = true
    · have hbusy : (e.val : Int) = eBusy := Int.neg_inj.1 hretry.1
      have hgoing : Passed cfg (s.called (.setAddr false) (.failed e)).calls [] :=
        hstart.snoc (c := (.setAddr false, .failed e)) (if_pos ⟨rfl, hbusy, hretry.2⟩)
      rw [if_pos hretry]
      cases a.setAddr 1 with
      | done n data =>
        refine ⟨_, _, rfl, rfl, .inl ⟨rfl, .inr ⟨failsWith_iff.2 hbusy, hretry.2, rfl⟩, ?_, rfl⟩⟩
        exact hgoing.snoc (c := (.setAddr true, .done n data)) rfl
      | failed e' =>
        rw [i2cSetAddr0_failed, ok_bind]
        dsimp only
        rw [check_pos (Int.le_of_lt (Errno.neg e'))]
        refine ⟨_, _, rfl, rfl, .inr ⟨Errno.neg e', ?_, hgoing.stop (failure_force cfg e')⟩⟩
        rintro (h | ⟨-, -, h⟩)
        · cases h
        · cases h
    · rw [if_neg hretry, ok_bind]
      dsimp only
      rw [check_pos (Int.le_of_lt (Errno.neg e))]
      refine ⟨_, _, rfl, rfl, .inr ⟨Errno.neg e, ?_, hstart.stop (if_neg fun h => hretry ⟨?_, h.2.2⟩)⟩⟩
      · rintro (h | ⟨h, hforce, -⟩)
        · cases h
        · exact hretry ⟨congrArg Neg.neg (failsWith_iff.1 h), hforce⟩
      · exact congrArg Neg.neg h.2.1

theorem pollFd_spec (cfg : I2cSettings) (a : Answers) (hs : Passed cfg s.calls []) :
    ∃ t, (pollFd cfg a s = (none, t) ∧ Prepared cfg (PollOk cfg a) s.errno s 0 t) ∨
      ∃ rc, pollFd cfg a s = (some rc, t) ∧ rc < 0 ∧ Prepared cfg (PollOk cfg a) s.errno s rc t := by
  unfold pollFd PollOk
  by_cases htimeout : cfg.useTimeout = true
  · rw [if_pos htimeout]
    cases a.poll with
    | failed e =>
      refine ⟨_, .inr ⟨-(e.val : Int), rfl, Errno.neg e, rfl, .inr ⟨Errno.neg e, ?_, hs.stop rfl⟩⟩⟩
      intro h
      cases (h htimeout).1
    | done n data =>
      by_cases hn : n = 0
      · subst hn
        refine ⟨_, .inr ⟨-eTimedout, rfl, by decide, rfl, .inr ⟨by decide, ?_, hs.stop rfl⟩⟩⟩
        intro h
        cases (h htimeout).2
      · dsimp only
        rw [if_neg hn]
        refine ⟨_, .inl ⟨rfl, rfl, .inl ⟨rfl, fun _ => ⟨rfl, decide_eq_false (by omega)⟩, ?_, rfl⟩⟩⟩
        exact hs.snoc (c := (.poll, .done n data)) (if_neg hn)
  · rw [if_neg htimeout]
    exact ⟨s, .inl ⟨rfl, rfl, .inl ⟨rfl, fun h => absurd h htimeout, hs, rfl⟩⟩⟩

theorem countStatus_done (n bytect : Nat) (data : Nat → Byte) :
    countStatus ((Outcome.done n data).rc bytect) bytect = if n < bytect then ddcrcDdcData else 0 := by
  have hpos : (0 : Int) ≤ (min n bytect : Nat) := Int.natCast_nonneg _
  change (if (0 : Int) ≤ (min n bytect : Nat) then if ((min n bytect : Nat) : Int) = bytect then 0 else ddcrcDdcData
    else ((min n bytect : Nat) : Int)) = _
  rw [if_pos hpos]
  by_cases hn : n < bytect
  · rw [if_pos hn, if_neg (by omega)]
  · rw [if_neg hn, if_pos (by omega)]

theorem ddcrcDdcData_neg : ddcrcDdcData < 0 := by decide

theorem i2cFileioWriter_right (cfg : I2cSettings) (a : Answers) (pbytes : List Byte) (hs : s.calls = []) :
    ∃ rc t, i2cFileioWriter cfg a pbytes s = .ok (rc, t) ∧ rc ≤ 0 ∧
      (rc = 0 ∧ Passed cfg t.calls pbytes ∨ Stopped cfg t.calls rc) := by
  obtain ⟨rc, t, haddr, hprepared⟩ := i2cSetAddr_spec cfg a hs
  rw [i2cFileioWriter, haddr, ok_bind]
  rcases hprepared.ends with ⟨rfl, -, hpassed, -⟩ | ⟨hneg, -, hstopped⟩
  · obtain ⟨u, ⟨hpoll, hready⟩ | ⟨rc, hpoll, hneg, hready⟩⟩ := pollFd_spec cfg a hpassed
    · rcases hready.ends with ⟨-, -, hgoing, -⟩ | ⟨hneg, -, -⟩
      · rw [hpoll]
        cases hwrite : a.write with
        | failed e => exact ⟨_, _, rfl, Int.le_of_lt (Errno.neg e), .inr (hgoing.stop rfl)⟩
        | done n data =>
          rw [countStatus_done]
          by_cases hn : n < pbytes.length
          · rw [if_pos hn]
            exact ⟨_, _, rfl, Int.le_of_lt ddcrcDdcData_neg, .inr (hgoing.stop (if_pos hn))⟩
          · rw [if_neg hn]
            have hall := hgoing.snoc (c := (.write pbytes, .done n data)) (if_neg hn)
            rw [show moved (.write pbytes, .done n data) = pbytes from take_of_length_le (by omega)] at hall
            exact ⟨_, _, rfl, Int.le_refl 0, .inl ⟨rfl, hall⟩⟩
      · exact absurd hneg (by decide)
    · rcases hready.ends with ⟨rfl, -, -, -⟩ | ⟨-, -, hstopped⟩
      · exact absurd hneg (by decide)
      · rw [hpoll]; exact ⟨_, _, rfl, Int.le_of_lt hneg, .inr hstopped⟩
  · rw [if_pos hneg]; exact ⟨_, _, rfl, Int.le_of_lt hneg, .inr hstopped⟩

/-! ## Reading into the buffer -/

/-- **The transfers so far**: nothing failed, and the bytes are in the buffer in order. -/
structure Filled (cfg : I2cSettings) (ndx : Nat) (s : IoState) : Prop where
  filled : ∃ bytes, Passed cfg s.calls bytes ∧ bytes.length = ndx ∧ ∀ i < ndx, bytes[i]? = some (s.readbuf i)

theorem Filled.zero (h : Passed cfg s.calls []) : Filled cfg 0 s :=
  ⟨[], h, rfl, fun _ hi => absurd hi (Nat.not_lt_zero _)⟩

theorem Filled.unique {m : Nat} (h : Filled cfg n s) (h' : Filled cfg m s) : n = m := by
  obtain ⟨bytes, hpassed, hlength, -⟩ := h.filled
  obtain ⟨bytes', hpassed', hlength', -⟩ := h'.filled
  rw [← hlength, ← hlength', ← hpassed.transferred, ← hpassed'.transferred]

theorem Filled.not_stopped (h : Filled cfg n s) : ¬ Stopped cfg s.calls rc := by
  obtain ⟨bytes, hpassed, -, -⟩ := h.filled
  exact fun hstop => hstop.not_passed hpassed

theorem getElem?_append_overwrite {bytes more : List Byte} {readbuf : Nat → Byte}
    (h : ∀ i < bytes.length, bytes[i]? = some (readbuf i)) :
    ∀ i < bytes.length + more.length, (bytes ++ more)[i]? = some (overwrite readbuf bytes.length more i) := by
  intro i hi
  unfold overwrite
  by_cases hlt : i < bytes.length
  · rw [getElem?_append_left hlt, if_neg (by omega), h i hlt]
  · rw [getElem?_append_right (by omega), if_pos (by omega), getD_eq_getElem?_getD,
      getElem?_eq_getElem (by omega)]
    rfl

theorem Filled.call {c : IoCall × Outcome} (h : Filled cfg ndx s) (hcalls : t.calls = s.calls ++ [c])
    (hc : failure cfg c = none) {readbuf : Nat → Byte} (hsame : ∀ i < ndx, readbuf i = s.readbuf i)
    (hbuf : t.readbuf = overwrite readbuf ndx (moved c)) : Filled cfg (ndx + (moved c).length) t := by
  obtain ⟨bytes, hpassed, rfl, hbytes⟩ := h.filled
  refine ⟨bytes ++ moved c, hcalls ▸ hpassed.snoc hc, length_append, ?_⟩
  rw [hbuf]; exact getElem?_append_overwrite fun i hi => by rw [hbytes i hi, hsame i hi]

theorem Filled.stop {c : IoCall × Outcome} (h : Filled cfg ndx s) (hc : failure cfg c = some rc) :
    Stopped cfg (s.calls ++ [c]) rc := by
  obtain ⟨bytes, hpassed, -, -⟩ := h.filled
  exact hpassed.stop hc

/-- **How a series of reads ends**: with all bytes in the buffer; at a call that fails, with its `errno`; or at one that
falls short, with the `errno` from before. -/
inductive ReadsEnd (cfg : I2cSettings) (bytect : Nat) (errno : Int) (short : Prop) (rc : Int) (t : IoState) : Prop
  | all (hrc : rc = 0) (hnot : ¬ short) (h : Filled cfg bytect t)
  | failed (hrc : rc = -1) (hnot : ¬ short) (h : t.errno > 0) (hstop : Stopped cfg t.calls (-t.errno))
  | short (hrc : rc = ddcrcDdcData) (h : short) (herrno : t.errno = errno) (hstop : Stopped cfg t.calls ddcrcDdcData)

theorem moved_read_length (h : ¬ n < bytect) (ndx : Nat) (data : Nat → Byte) :
    (moved (.read ndx bytect, .done n data)).length = bytect := by
  change ((List.range (min n bytect)).map data).length = bytect
  rw [length_map, length_range]; omega

theorem readInto_spec (h : Filled cfg ndx s) (o : Outcome) (bytect : Nat) :
    ∃ rc t, readInto o ndx bytect s = (rc, t) ∧ ReadsEnd cfg (ndx + bytect) s.errno (o.short bytect = true) rc t ∧
      (rc = 0 → o.fails = false ∧ t.errno = s.errno) ∧ (rc = -1 → o.fails = true) := by
  refine ⟨_, _, rfl, ?_⟩
  cases o with
  | failed e =>
    have hstop : Stopped cfg (s.calls ++ [(.read ndx bytect, .failed e)]) (-(e.val : Int)) := h.stop rfl
    have hrc : countStatus ((Outcome.failed e).rc bytect) bytect = -1 := rfl
    rw [hrc]
    exact ⟨.failed rfl Bool.false_ne_true (Int.natCast_pos.2 e.positive) hstop, fun h0 => absurd h0 (by decide),
      fun _ => rfl⟩
  | done n data =>
    rw [countStatus_done]
    by_cases hn : n < bytect
    · rw [if_pos hn]
      exact ⟨.short rfl (decide_eq_true hn) rfl (h.stop (if_pos hn)), fun h0 => absurd h0 (by decide),
        fun h1 => absurd h1 (by decide)⟩
    · rw [if_neg hn]
      refine ⟨.all rfl (fun hshort => hn (of_decide_eq_true hshort)) ?_, fun _ => ⟨rfl, rfl⟩,
        fun h1 => absurd h1 (by decide)⟩
      have hcall := h.call (c := (.read ndx bytect, .done n data))
        (t := { s.called (.read ndx bytect) (.done n data) with
          readbuf := overwrite s.readbuf ndx ((Outcome.done n data).bytes bytect) })
        rfl (if_neg hn) (fun _ _ => rfl) rfl
      rwa [moved_read_length hn] at hcall

theorem ReadsEnd.congr {errno' : Int} {short short' : Prop} (h : ReadsEnd cfg bytect errno short rc t)
    (herrno : errno = errno') (hiff : short ↔ short') : ReadsEnd cfg bytect errno' short' rc t := by
  subst herrno
  cases h with
  | all hrc hnot h => exact .all hrc (fun hs => hnot (hiff.2 hs)) h
  | failed hrc hnot h hstop => exact .failed hrc (fun hs => hnot (hiff.2 hs)) h hstop
  | short hrc h herrno hstop => exact .short hrc (hiff.1 h) herrno hstop

theorem readSingleBytes_spec (a : Answers) : ∀ (left ndx : Nat) {s : IoState}, Filled cfg ndx s →
    ∃ rc t, readSingleBytes a ndx left s = (rc, t) ∧
      ReadsEnd cfg (ndx + left) s.errno (FirstBad a.OneByte (fun i => (a.read i).short 1 = true) ndx left) rc t
  | 0, ndx, s, h => ⟨0, s, rfl, .all rfl (fun ⟨_, hj, _⟩ => Nat.not_lt_zero _ hj) h⟩
  | left + 1, ndx, s, h => by
    obtain ⟨rc, t, hread, hends, hgood, hfailed⟩ := readInto_spec h (a.read ndx) 1
    rw [readSingleBytes, hread]
    dsimp only
    cases hends with
    | all hrc hnot hfilled =>
      obtain ⟨hfails, herrno⟩ := hgood hrc
      obtain ⟨rc', u, hrest, hends'⟩ := readSingleBytes_spec a left (ndx + 1) hfilled
      rw [if_pos hrc, hrest, show ndx + (left + 1) = ndx + 1 + left by omega]
      exact ⟨rc', u, rfl, hends'.congr herrno (firstBad_of_good ⟨hfails, Bool.eq_false_iff.2 hnot⟩ hnot).symm⟩
    | failed hrc hnot hpos hstop =>
      rw [if_neg (by rw [hrc]; decide)]
      have hbad : ¬ a.OneByte ndx := fun hone => absurd (hone.1.symm.trans (hfailed hrc)) Bool.false_ne_true
      exact ⟨rc, t, rfl, .failed hrc (fun hfirst => hnot ((firstBad_of_not_good hbad).1 hfirst)) hpos hstop⟩
    | short hrc hshort herrno hstop =>
      rw [if_neg (by rw [hrc]; decide)]
      exact ⟨rc, t, rfl, .short hrc (firstBad_succ.2 (.inl hshort)) herrno hstop⟩

theorem errnoStatus_neg (h : rc < 0) (t : IoState) : errnoStatus (rc, t) = (-t.errno, t) := if_pos h

theorem errnoStatus_zero (t : IoState) : errnoStatus (0, t) = (0, t) := rfl

def ReadTo (cfg : I2cSettings) (bytect : Nat) (rc : Int) (t : IoState) : Prop :=
  rc = 0 ∧ Filled cfg bytect t ∨ Stopped cfg t.calls rc

theorem errnoStatus_spec {short : Prop} (h : ReadsEnd cfg bytect errno short rc t) :
    ∃ rc', errnoStatus (rc, t) = (rc', t) ∧ (ReadTo cfg bytect rc' t ↔ (short → -errno = ddcrcDdcData)) ∧
      (ReadTo cfg bytect rc' t → rc' ≤ 0) := by
  cases h with
  | all hrc hnot hfilled =>
    subst hrc
    exact ⟨0, errnoStatus_zero t, ⟨fun _ hs => absurd hs hnot, fun _ => .inl ⟨rfl, hfilled⟩⟩, fun _ => Int.le_refl 0⟩
  | failed hrc hnot hpos hstop =>
    subst hrc
    refine ⟨-t.errno, errnoStatus_neg (by decide) t, ⟨fun _ hs => absurd hs hnot, fun _ => .inr hstop⟩, fun _ => ?_⟩
    omega
  | short hrc hshort herrno hstop =>
    subst hrc herrno
    refine ⟨-t.errno, errnoStatus_neg ddcrcDdcData_neg t, ⟨?_, fun himp => .inr (himp hshort ▸ hstop)⟩, ?_⟩
    · rintro (⟨-, hfilled⟩ | hstop') _
      · exact absurd hstop hfilled.not_stopped
      · exact hstop'.unique hstop
    · rintro (⟨hzero, -⟩ | hstop')
      · exact Int.le_of_eq hzero
      · rw [hstop'.unique hstop]; exact Int.le_of_lt ddcrcDdcData_neg

theorem i2cFileioReader_spec (cfg : I2cSettings) (a : Answers) (readBytewise : Bool) (bytect : Nat)
    (hs : s.calls = []) :
    ∃ rc t, i2cFileioReader cfg a readBytewise bytect s = .ok (rc, t) ∧
      (ReadTo cfg bytect rc t ↔ FileioFine cfg a readBytewise bytect s.errno) ∧ (ReadTo cfg bytect rc t → rc ≤ 0) := by
  obtain ⟨rc, t, haddr, hprepared⟩ := i2cSetAddr_spec cfg a hs
  rw [i2cFileioReader, FileioFine, ReadsShort, haddr, ok_bind]
  rcases hprepared.ends with ⟨rfl, hok, hpassed, herrno⟩ | ⟨hneg, hnot, hstopped⟩
  · by_cases hbytewise : readBytewise = true
    · rw [if_pos hbytewise, if_pos hbytewise]
      obtain ⟨rc, u, hread, hends⟩ := readSingleBytes_spec a bytect 0 (Filled.zero hpassed)
      rw [hread]
      rw [Nat.zero_add] at hends
      obtain ⟨rc', hstatus, hiff, hneg⟩ := errnoStatus_spec hends
      rw [hstatus]
      refine ⟨rc', u, rfl, hiff.trans ?_, hneg⟩
      rw [herrno]; exact ⟨fun himp h => himp h.2, fun himp h => himp ⟨hok, h⟩⟩
    · rw [if_neg hbytewise, if_neg hbytewise]
      obtain ⟨u, ⟨hpoll, hready⟩ | ⟨rc, hpoll, hneg, hready⟩⟩ := pollFd_spec cfg a hpassed
      · rcases hready.ends with ⟨-, hpollok, hgoing, herrno'⟩ | ⟨hneg, -, -⟩
        · rw [hpoll]
          dsimp only
          obtain ⟨rc, v, hread, hends, -, -⟩ := readInto_spec (Filled.zero hgoing) (a.read 0) bytect
          rw [hread]
          rw [Nat.zero_add] at hends
          obtain ⟨rc', hstatus, hiff, hneg⟩ := errnoStatus_spec hends
          rw [hstatus]
          refine ⟨rc', v, rfl, hiff.trans ?_, hneg⟩
          rw [herrno', herrno]
          exact ⟨fun himp h => himp h.2.2, fun himp h => himp ⟨hok, hpollok, h⟩⟩
        · exact absurd hneg (by decide)
      · rcases hready.ends with ⟨rfl, -, -, -⟩ | ⟨-, hnot, hstopped⟩
        · exact absurd hneg (by decide)
        · rw [hpoll]
          exact ⟨rc, u, rfl, ⟨fun _ h => absurd h.2.1 hnot, fun _ => .inr hstopped⟩, fun _ => Int.le_of_lt hneg⟩
  · rw [if_pos hneg]
    exact ⟨rc, t, rfl, ⟨fun _ h => absurd h.1 hnot, fun _ => .inr hstopped⟩, fun _ => Int.le_of_lt hneg⟩

/-! ## Transfers by `ioctl` -/

inductive TransfersEnd (cfg : I2cSettings) (bytect : Nat) (einval : Prop) (rc : Int) (t : IoState) : Prop
  | all (hrc : rc = 0) (hnot : ¬ einval) (h : Filled cfg bytect t)
  | failed (hneg : rc < 0) (hiff : rc = -eInval ↔ einval) (herrno : t.errno = -rc) (hstop : Stopped cfg t.calls rc)

theorem moved_ioctlRead_length (n m ndx : Nat) (data : Nat → Byte) :
    (moved (.ioctlRead ndx m, .done n data)).length = m := by
  change ((List.range m).map data).length = m
  rw [length_map, length_range]

theorem i2cIoctlReader1_spec (h : Filled cfg ndx s) (o : Outcome) (bytect : Nat) :
    ∃ rc t, i2cIoctlReader1 o ndx bytect s = (rc, t) ∧ (rc = 0 ↔ o.fails = false) ∧
      TransfersEnd cfg (ndx + msgLen bytect) (o.failsWith eInval = true) rc t := by
  refine ⟨_, _, rfl, ?_⟩
  cases o with
  | failed e =>
    have hstop : Stopped cfg (s.calls ++ [(.ioctlRead ndx (msgLen bytect), .failed e)]) (-(e.val : Int)) := h.stop rfl
    have hneg := Errno.neg e
    have hzero : -(e.val : Int) = 0 ↔ (Outcome.failed e).fails = false := by
      refine ⟨fun h0 => absurd h0 (Int.ne_of_lt hneg), fun h0 => ?_⟩
      cases h0
    exact ⟨hzero, .failed hneg (Int.neg_inj.trans failsWith_iff.symm) (Int.neg_neg _).symm hstop⟩
  | done n data =>
    refine ⟨⟨fun _ => rfl, fun _ => rfl⟩, .all rfl Bool.false_ne_true ?_⟩
    have hsame : ∀ i < ndx, overwrite s.readbuf ndx (List.replicate bytect 0) i = s.readbuf i :=
      fun i hi => if_neg (by omega)
    have hcall := h.call (c := (.ioctlRead ndx (msgLen bytect), .done n data))
      (t := (i2cIoctlReader1 (.done n data) ndx bytect s).2) rfl rfl hsame rfl
    rwa [moved_ioctlRead_length] at hcall

theorem TransfersEnd.congr {einval einval' : Prop} (h : TransfersEnd cfg bytect einval rc t) (hiff : einval ↔ einval') :
    TransfersEnd cfg bytect einval' rc t := by
  cases h with
  | all hrc hnot h => exact .all hrc (fun he => hnot (hiff.2 he)) h
  | failed hneg hinval herrno hstop => exact .failed hneg (hinval.trans hiff) herrno hstop

theorem ioctlSingleBytes_spec (a : Answers) : ∀ (left ndx : Nat) {s : IoState}, Filled cfg ndx s →
    ∃ rc t, ioctlSingleBytes a ndx left s = (rc, t) ∧ TransfersEnd cfg (ndx + left)
      (FirstBad (fun i => (a.ioctl i).fails = false) (fun i => (a.ioctl i).failsWith eInval = true) ndx left) rc t
  | 0, ndx, s, h => ⟨0, s, rfl, .all rfl (fun ⟨_, hj, _⟩ => Nat.not_lt_zero _ hj) h⟩
  | left + 1, ndx, s, h => by
    obtain ⟨rc, t, hread, hzero, hends⟩ := i2cIoctlReader1_spec h (a.ioctl ndx) 1
    rw [ioctlSingleBytes, hread]
    cases hends with
    | all hrc hnot hfilled =>
      obtain ⟨rc', u, hrest, hends'⟩ := ioctlSingleBytes_spec a left (ndx + 1) hfilled
      rw [if_pos hrc, hrest, show ndx + (left + 1) = ndx + 1 + left by omega]
      exact ⟨rc', u, rfl, hends'.congr (firstBad_of_good (hzero.1 hrc) hnot).symm⟩
    | failed hneg hinval herrno hstop =>
      have hfails : ¬ (a.ioctl ndx).fails = false := fun hf => absurd (hzero.2 hf) (Int.ne_of_lt hneg)
      rw [if_neg (Int.ne_of_lt hneg)]
      have hfirst : FirstBad (fun i => (a.ioctl i).fails = false) (fun i => (a.ioctl i).failsWith eInval = true) ndx
          (left + 1) ↔ (a.ioctl ndx).failsWith eInval = true := firstBad_of_not_good hfails
      exact ⟨rc, t, rfl, .failed hneg (hinval.trans hfirst.symm) herrno hstop⟩

theorem i2cIoctlReader_spec (cfg : I2cSettings) (a : Answers) (readBytewise : Bool) (bytect : Nat) (hs : s.calls = []) :
    ∃ rc t, i2cIoctlReader a readBytewise bytect s = (rc, t) ∧ rc ≤ 0 ∧
      (ReadTo cfg bytect rc t ↔ IoctlFine a readBytewise bytect) ∧
      (rc = -eInval ↔ Einval a readBytewise bytect) ∧ (rc = -eInval → t.errno = eInval ∧ Stopped cfg t.calls rc) := by
  have hstart : Filled cfg 0 s := Filled.zero (hs ▸ Passed.nil)
  unfold i2cIoctlReader IoctlFine Einval
  by_cases hbytewise : readBytewise = true
  · rw [if_pos hbytewise, if_pos hbytewise]
    obtain ⟨rc, t, hread, hends⟩ := ioctlSingleBytes_spec a bytect 0 hstart
    rw [Nat.zero_add] at hends
    refine ⟨rc, t, hread, ?_⟩
    cases hends with
    | all hrc hnot hfilled =>
      subst hrc
      exact ⟨Int.le_refl 0, ⟨fun _ => .inl hbytewise, fun _ => .inl ⟨rfl, hfilled⟩⟩,
        ⟨fun h => absurd h (by decide), fun h => absurd h hnot⟩, fun h => absurd h (by decide)⟩
    | failed hneg hinval herrno hstop =>
      refine ⟨Int.le_of_lt hneg, ⟨fun _ => .inl hbytewise, fun _ => .inr hstop⟩, hinval, fun h => ⟨?_, hstop⟩⟩
      rw [herrno, h, Int.neg_neg]
  · rw [if_neg hbytewise, if_neg hbytewise]
    obtain ⟨rc, t, hread, hzero, hends⟩ := i2cIoctlReader1_spec hstart (a.ioctl 0) bytect
    rw [Nat.zero_add] at hends
    refine ⟨rc, t, hread, ?_⟩
    cases hends with
    | all hrc hnot hfilled =>
      have hfails := hzero.1 hrc
      subst hrc
      refine ⟨Int.le_refl 0, ⟨?_, ?_⟩, ⟨fun h => absurd h (by decide), fun h => absurd h hnot⟩,
        fun h => absurd h (by decide)⟩
      · rintro (⟨-, hall⟩ | hstop)
        · have hlength : bytect % 65536 = bytect := hfilled.unique hall
          exact .inr (.inl (by omega))
        · exact absurd hstop hfilled.not_stopped
      · rintro (hb | hlt | hfail)
        · exact absurd hb hbytewise
        · have hlength : msgLen bytect = bytect := Nat.mod_eq_of_lt hlt
          exact .inl ⟨rfl, hlength ▸ hfilled⟩
        · exact absurd (hfails.symm.trans hfail) Bool.false_ne_true
    | failed hneg hinval herrno hstop =>
      have hfails : (a.ioctl 0).fails = true := by
        cases hf : (a.ioctl 0).fails with
        | true => rfl
        | false => exact absurd (hzero.2 hf) (Int.ne_of_lt hneg)
      refine ⟨Int.le_of_lt hneg, ⟨fun _ => .inr (.inr hfails), fun _ => .inr hstop⟩, hinval, fun h => ⟨?_, hstop⟩⟩
      rw [herrno, h, Int.neg_neg]

theorem i2cIoctlWriter_spec (cfg : I2cSettings) (a : Answers) (pbytes : List Byte) (hs : s.calls = []) :
    ∃ rc t, i2cIoctlWriter a pbytes s = (rc, t) ∧ rc ≤ 0 ∧
      ((rc = 0 ∧ Passed cfg t.calls pbytes ∨ Stopped cfg t.calls rc) ↔ IoctlFine a false pbytes.length) ∧
      (rc = -eInval → Stopped cfg t.calls rc) := by
  have hstart : Passed cfg s.calls [] := hs ▸ Passed.nil
  unfold i2cIoctlWriter IoctlFine
  cases a.ioctl 0 with
  | failed e =>
    have hstop : Stopped cfg (s.calls ++ [(.ioctlWrite (pbytes.take (msgLen pbytes.length)), .failed e)])
        (-(e.val : Int)) := hstart.stop rfl
    exact ⟨_, _, rfl, Int.le_of_lt (Errno.neg e), ⟨fun _ => .inr (.inr rfl), fun _ => .inr hstop⟩, fun _ => hstop⟩
  | done n data =>
    have hpassed : Passed cfg (s.calls ++ [(.ioctlWrite (pbytes.take (msgLen pbytes.length)), .done n data)])
        (pbytes.take (msgLen pbytes.length)) := hstart.snoc rfl
    have hne : (0 : Int) ≠ -eInval := by decide
    refine ⟨0, _, rfl, Int.le_refl 0, ⟨?_, ?_⟩, fun h => absurd h hne⟩
    · rintro (⟨-, hall⟩ | hstop)
      · have hlength := congrArg List.length (hpassed.transferred.symm.trans hall.transferred)
        rw [length_take] at hlength
        have hlt : msgLen pbytes.length < 65536 := Nat.mod_lt _ (by decide)
        exact .inr (.inl (by omega))
      · exact absurd hpassed hstop.not_passed
    · rintro (h | hlt | hfail)
      · cases h
      · have htake : pbytes.take (msgLen pbytes.length) = pbytes :=
          take_of_length_le (Nat.le_of_eq (Nat.mod_eq_of_lt hlt).symm)
        rw [htake] at hpassed; exact .inl ⟨rfl, by rw [htake]; exact hpassed⟩
      · cases hfail

/-! ## The dispatcher -/

theorem einvalBug_eq (cfg : I2cSettings) (strategyId : IoStrategyId) (rc : Int) :
    einvalBug cfg strategyId rc = .ok (isNvidiaEinvalBug cfg strategyId rc) := by
  unfold einvalBug
  by_cases h : rc = -eInval
  · rw [if_pos h, check_pos (Int.natCast_nonneg cfg.busno), ok_bind]
  · rw [if_neg h, isNvidiaEinvalBug, decide_eq_false h]; rfl

section
variable {cfg : I2cSettings} {assertEach : Bool} {op : IoStrategyId → Answers → IoState → Exec (Int × IoState)}
  {answers : Nat → Answers} {strategyId : IoStrategyId} {s t : IoState} {rc : Int} {right : Attempt → Prop}

section
variable (fuel : Nat) (hop : op strategyId (answers 0) s = .ok (rc, t))
include hop

theorem invokeI2c_last (hneg : rc ≤ 0) (hbug : isNvidiaEinvalBug cfg strategyId rc = false) :
    invokeI2c cfg assertEach op (fuel + 1) answers strategyId s =
      .ok ⟨[⟨strategyId, rc, t.calls, t.readbuf⟩], strategyId, rc⟩ := by
  rw [invokeI2c, hop, ok_bind]
  rw [check_pos (fun _ => hneg), ok_bind, einvalBug_eq, ok_bind, hbug, if_neg Bool.false_ne_true,
    check_pos hneg, ok_bind]

theorem invokeI2c_assert (hpos : ¬ rc ≤ 0) :
    invokeI2c cfg assertEach op (fuel + 1) answers strategyId s = .error .assertFailed := by
  have hbug : isNvidiaEinvalBug cfg strategyId rc = false := by
    have hne : rc ≠ -eInval := fun h => hpos (by rw [h]; decide)
    rw [isNvidiaEinvalBug, decide_eq_false hne]; rfl
  rw [invokeI2c, hop, ok_bind]
  cases assertEach with
  | true =>
    rw [check_neg (fun h => hpos (h rfl))]; rfl
  | false =>
    rw [check_pos (fun h => absurd h Bool.false_ne_true), ok_bind, einvalBug_eq, ok_bind, hbug,
      if_neg Bool.false_ne_true, check_neg hpos]
    rfl

theorem invokeI2c_bug (hneg : rc ≤ 0) (hbug : isNvidiaEinvalBug cfg strategyId rc = true) : invokeI2c cfg assertEach op
    (fuel + 1) answers strategyId s = (Invocation.prepend ⟨strategyId, rc, t.calls, t.readbuf⟩) <$> invokeI2c cfg
    assertEach op fuel (fun n => answers (n + 1)) .fileio (t.between cfg) := by
  rw [invokeI2c, hop, ok_bind, check_pos (fun _ => hneg), ok_bind, einvalBug_eq, ok_bind, hbug, if_pos rfl]; rfl

end

theorem invokeI2c_attempts {fuel : Nat} {i : Invocation}
    (h : invokeI2c cfg assertEach op fuel answers strategyId s = .ok i) : i.attempts ≠ [] := by
  cases fuel with
  | zero => cases h
  | succ fuel =>
    obtain ⟨⟨rc, t⟩, -, h⟩ := bind_eq_ok.1 h
    obtain ⟨-, -, h⟩ := bind_eq_ok.1 h
    obtain ⟨bug, -, h⟩ := bind_eq_ok.1 h
    cases bug with
    | true =>
      obtain ⟨j, -, hj⟩ := bind_eq_ok.1 h
      cases hj; exact cons_ne_nil _ _
    | false =>
      obtain ⟨-, -, h⟩ := bind_eq_ok.1 h
      cases h; exact cons_ne_nil _ _

theorem invocationRight_last (fuel : Nat) (hop : op strategyId (answers 0) s = .ok (rc, t))
    (hbug : isNvidiaEinvalBug cfg strategyId rc = false) (hneg : right ⟨strategyId, rc, t.calls, t.readbuf⟩ → rc ≤ 0) :
    InvocationRight right strategyId (invokeI2c cfg assertEach op (fuel + 1) answers strategyId s) ↔
      right ⟨strategyId, rc, t.calls, t.readbuf⟩ := by
  by_cases hle : rc ≤ 0
  · rw [invokeI2c_last fuel hop hle hbug]
    constructor
    · rintro ⟨i, hi, hright, -⟩
      cases hi; exact hright _ mem_cons_self
    · intro hright
      refine ⟨_, rfl, fun a ha => ?_, .inl ⟨_, rfl, rfl, rfl, rfl⟩⟩
      rw [mem_singleton.1 ha]; exact hright
  · rw [invokeI2c_assert fuel hop hle]
    constructor
    · rintro ⟨i, hi, -⟩
      cases hi
    · exact fun hright => absurd (hneg hright) hle

theorem invocationRight_bug (fuel : Nat) (hop : op .ioctl (answers 0) s = .ok (rc, t)) (hneg : rc ≤ 0)
    (hbug : isNvidiaEinvalBug cfg .ioctl rc = true) (hright : right ⟨.ioctl, rc, t.calls, t.readbuf⟩) :
    InvocationRight right .ioctl (invokeI2c cfg assertEach op (fuel + 1) answers .ioctl s) ↔
      InvocationRight right .fileio
        (invokeI2c cfg assertEach op fuel (fun n => answers (n + 1)) .fileio (t.between cfg)) := by
  rw [invokeI2c_bug fuel hop hneg hbug]
  constructor
  · rintro ⟨i, hi, hall, hends⟩
    obtain ⟨j, hj, rfl⟩ := map_eq_ok.1 hi
    refine ⟨j, hj, fun a ha => hall a (mem_cons_of_mem _ ha), ?_⟩
    rcases hends with ⟨a, ha, -, -, -⟩ | ⟨-, a, b, hab, -, hb, hstrategy, hrc⟩
    · exact absurd (List.cons.inj ha).2 (invokeI2c_attempts hj)
    · exact .inl ⟨b, (List.cons.inj hab).2, hb, hstrategy, hrc⟩
  · rintro ⟨j, hj, hall, hends⟩
    refine ⟨_, map_eq_ok.2 ⟨j, hj, rfl⟩, ?_, ?_⟩
    · intro a ha
      rcases mem_cons.1 ha with rfl | ha
      · exact hright
      · exact hall a ha
    · rcases hends with ⟨b, hb, hfileio, hstrategy, hrc⟩ | ⟨h, -⟩
      · exact .inr ⟨rfl, _, b, congrArg (List.cons _) hb, rfl, hfileio, hstrategy, hrc⟩
      · cases h

end

theorem isNvidiaEinvalBug_fileio (cfg : I2cSettings) (rc : Int) : isNvidiaEinvalBug cfg .fileio rc = false := by
  unfold isNvidiaEinvalBug
  rw [show decide ((.fileio : IoStrategyId) = .ioctl) = false from rfl, Bool.and_false, Bool.false_and]

theorem isNvidiaEinvalBug_ioctl :
    isNvidiaEinvalBug cfg .ioctl rc = true ↔ rc = -eInval ∧ cfg.driverName = some "nvidia" := by
  unfold isNvidiaEinvalBug
  rw [show decide ((.ioctl : IoStrategyId) = .ioctl) = true from rfl, Bool.and_true, Bool.and_eq_true,
    decide_eq_true_iff, decide_eq_true_iff]

theorem readRight_iff {strategyId : IoStrategyId} :
    ReadRight cfg bytect ⟨strategyId, rc, t.calls, t.readbuf⟩ ↔ ReadTo cfg bytect rc t := by
  constructor
  · rintro (⟨hrc, hfilled⟩ | hstop)
    · exact .inl ⟨hrc, ⟨hfilled⟩⟩
    · exact .inr hstop
  · rintro (⟨hrc, hfilled⟩ | hstop)
    · exact .inl ⟨hrc, hfilled.filled⟩
    · exact .inr hstop

section
variable (cfg : I2cSettings) (fuel : Nat) (answers : Nat → Answers) {s : IoState}

theorem invokeI2cReader_fileio (readBytewise : Bool) (bytect : Nat) (hs : s.calls = []) :
    InvocationRight (ReadRight cfg bytect) .fileio
        (invokeI2cReader cfg readBytewise bytect (fuel + 1) answers .fileio s) ↔
      FileioFine cfg (answers 0) readBytewise bytect s.errno := by
  obtain ⟨rc, t, hread, hiff, hneg⟩ := i2cFileioReader_spec cfg (answers 0) readBytewise bytect hs
  have hbug := isNvidiaEinvalBug_fileio cfg rc
  rw [invokeI2cReader, invocationRight_last fuel hread hbug fun h => hneg (readRight_iff.1 h), readRight_iff, hiff]

theorem invokeI2cWriter_fileio (pbytes : List Byte) (hs : s.calls = []) :
    InvocationRight (WriteRight cfg pbytes) .fileio (invokeI2cWriter cfg pbytes (fuel + 1) answers .fileio s) := by
  obtain ⟨rc, t, hwrite, hneg, hright⟩ := i2cFileioWriter_right cfg (answers 0) pbytes hs
  rw [invokeI2cWriter, invocationRight_last fuel hwrite (isNvidiaEinvalBug_fileio cfg rc) fun _ => hneg]
  exact hright

theorem invokeI2cReader_ioctl (readBytewise : Bool) (bytect : Nat) (hs : s.calls = []) :
    InvocationRight (ReadRight cfg bytect) .ioctl
        (invokeI2cReader cfg readBytewise bytect (fuel + 2) answers .ioctl s) ↔
      ReaderCondition cfg readBytewise bytect answers s.errno .ioctl := by
  obtain ⟨rc, t, hread, hneg, hiff, heinval, hstop⟩ := i2cIoctlReader_spec cfg (answers 0) readBytewise bytect hs
  have hop : i2cReader cfg .ioctl (answers 0) readBytewise bytect s = .ok (rc, t) := congrArg Except.ok hread
  rw [ReaderCondition, MeetsEinval, ← hiff, ← heinval]
  cases hbug : isNvidiaEinvalBug cfg .ioctl rc with
  | true =>
    obtain ⟨hrc, hdriver⟩ := isNvidiaEinvalBug_ioctl.1 hbug
    obtain ⟨herrno, hstopped⟩ := hstop hrc
    rw [invokeI2cReader, invocationRight_bug (fuel + 1) hop hneg hbug (.inr hstopped)]
    have hsecond := invokeI2cReader_fileio cfg fuel (fun n => answers (n + 1)) (s := t.between cfg) readBytewise
      bytect rfl
    rw [invokeI2cReader] at hsecond
    rw [hsecond, show (t.between cfg).errno = cfg.errnoBetween eInval from congrArg cfg.errnoBetween herrno]
    exact ⟨fun h => ⟨.inr hstopped, fun _ => h⟩, fun h => h.2 ⟨hdriver, hrc⟩⟩
  | false =>
    rw [invokeI2cReader, invocationRight_last (fuel + 1) hop hbug fun _ => hneg]
    have hnot : ¬ (cfg.driverName = some "nvidia" ∧ rc = -eInval) := fun h =>
      absurd (hbug.symm.trans (isNvidiaEinvalBug_ioctl.2 h.symm)) Bool.false_ne_true
    rw [readRight_iff]; exact ⟨fun h => ⟨h, fun hbug => absurd hbug hnot⟩, fun h => h.1⟩

/-- **A write does what is promised**, except for one by `ioctl` of 65536 bytes or more that does not fail. -/
theorem invokeI2cWriter_ioctl (pbytes : List Byte) (hs : s.calls = []) :
    InvocationRight (WriteRight cfg pbytes) .ioctl (invokeI2cWriter cfg pbytes (fuel + 2) answers .ioctl s) ↔
      IoctlFine (answers 0) false pbytes.length := by
  obtain ⟨rc, t, hwrite, hneg, hiff, hstop⟩ := i2cIoctlWriter_spec cfg (answers 0) pbytes hs
  have hop : i2cWriter cfg .ioctl (answers 0) pbytes s = .ok (rc, t) := congrArg Except.ok hwrite
  cases hbug : isNvidiaEinvalBug cfg .ioctl rc with
  | true =>
    have hstopped := hstop (isNvidiaEinvalBug_ioctl.1 hbug).1
    rw [invokeI2cWriter, invocationRight_bug (fuel + 1) hop hneg hbug (.inr hstopped)]
    have hsecond := invokeI2cWriter_fileio cfg fuel (fun n => answers (n + 1)) (s := t.between cfg) pbytes rfl
    exact ⟨fun _ => hiff.1 (.inr hstopped), fun _ => hsecond⟩
  | false =>
    rw [invokeI2cWriter, invocationRight_last (fuel + 1) hop hbug fun _ => hneg]; exact hiff

/-- **Reads and writes do what is promised exactly if the condition holds**, with `errno` and the outcome of every call
as they may be: there is no failed assertion, there are two attempts at most, and each ends at the first call that fails
or falls short. -/
theorem invokeI2c_right_iff (readBytewise : Bool) (bytect : Nat) (pbytes : List Byte) (strategyId : IoStrategyId)
    (errno : Int) (readbuf : Nat → Byte) :
    (InvocationRight (ReadRight cfg bytect) strategyId
        (invokeI2cReader cfg readBytewise bytect (fuel + 2) answers strategyId ⟨errno, [], readbuf⟩) ↔
      ReaderCondition cfg readBytewise bytect answers errno strategyId) ∧
    (InvocationRight (WriteRight cfg pbytes) strategyId
        (invokeI2cWriter cfg pbytes (fuel + 2) answers strategyId ⟨errno, [], readbuf⟩) ↔
      WriterCondition pbytes answers strategyId) := by
  cases strategyId with
  | fileio =>
    refine ⟨invokeI2cReader_fileio cfg (fuel + 1) answers readBytewise bytect rfl, fun _ => trivial, fun _ => ?_⟩
    exact invokeI2cWriter_fileio cfg (fuel + 1) answers pbytes rfl
  | ioctl =>
    exact ⟨invokeI2cReader_ioctl cfg fuel answers readBytewise bytect rfl,
      invokeI2cWriter_ioctl cfg fuel answers pbytes rfl⟩

end

/-- **A `read()` that gives nothing** is taken for one that gave the byte that was asked for. -/
theorem shortRead_not_right : ¬ InvocationRight (ReadRight ⟨false, false, 0, none, id⟩ 1) .fileio
    (invokeI2cReader ⟨false, false, 0, none, id⟩ false 1 2
      (fun _ => ⟨fun _ => .done 0 fun _ => 0, .done 1 fun _ => 0, .done 0 fun _ => 0, fun _ => .done 0 fun _ => 0,
        fun _ => .done 1 fun _ => 0⟩) .fileio ⟨0, [], fun _ => 0⟩) := by
  intro h
  have hfine := (invokeI2cReader_fileio _ 1 _ false 1 rfl).1 h
  exact absurd (hfine ⟨.inl rfl, fun huse => absurd huse Bool.false_ne_true, rfl⟩) (by decide)

end I2c

end Ddc
