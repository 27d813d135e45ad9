import Ddcutil.Status
/-!
# EdidRead — the EDID read from an open I2C device

`i2c_edid.c`: `i2c_get_raw_edid_by_fd` tries a few times, through the I2C layer or by reading the device itself, with
the `read` and `write` of files or with `ioctl`.  `I2cBus` is what the kernel answers: each call gives an outcome and
a new state of the world.
-/
namespace Ddc

open Kit

namespace EdidRead

/-! ## The device -/

structure Errno where
  val : Nat
  positive : 0 < val

def Errno.status (e : Errno) : Status := -(e.val : Int)

def eInval : Int := 22
def eOpnotsupp : Int := 95
def eTimedout : Int := 110

def ddcrcInvalidEdid : Status := -(rcrangeDdcStart + 10)

/-- **The calls on an open device**: setting the slave address, by force or not, writing the byte 0, and reading.  A
read of one byte from a device, which has no end, gives the byte or fails. -/
structure I2cBus (σ : Type) where
  setAddr : Bool → σ → Option Errno × σ
  write : σ → Except Errno Nat × σ
  read : Nat → σ → Except Errno (List Byte) × σ
  ioctlWrite : σ → Option Errno × σ
  ioctlRead : Nat → σ → Except Errno (List Byte) × σ
  /-- `errno` after a call that did not fail. -/
  staleErrno : σ → Nat
  read_le : ∀ n w bytes, (read n w).1 = .ok bytes → bytes.length ≤ n
  read_one : ∀ w, (read 1 w).1 ≠ .ok []
  ioctlRead_le : ∀ n w bytes, (ioctlRead n w).1 = .ok bytes → bytes.length ≤ n

/-- `I2C_IO_Strategy_Id`; the strategy has been set. -/
inductive IoStrategyId where
  | fileio | ioctl
  deriving DecidableEq

structure EdidSettings where
  usesI2cLayer : Bool
  bytewise : Bool
  writeBeforeRead : Bool
  forceableSlaveAddr : Bool
  readSize : Nat
  admitted : readSize = 0 ∨ readSize = 128 ∨ readSize = 256
  nvidiaDriver : Bool

structure EdidIo (σ : Type) where
  world : σ
  strategy : IoStrategyId
  bytes : List Byte
  len : Nat
  attempts : List IoStrategyId

variable {σ : Type}

def answered (r : Option Errno × σ) : Status × σ :=
  match r with
  | (none, w) => (0, w)
  | (some e, w) => (e.status, w)

def i2cSetAddr (cfg : EdidSettings) (bus : I2cBus σ) (w : σ) : Status × σ :=
  match answered (bus.setAddr false w) with
  | (rc, w) =>
    if rc = -eBusy ∧ cfg.forceableSlaveAddr = true then answered (bus.setAddr true w) else (rc, w)

def isNvidiaEinvalBug (cfg : EdidSettings) (strategyId : IoStrategyId) (rc : Status) : Bool :=
  decide (rc = -eInval) && decide (strategyId = .ioctl) && cfg.nvidiaDriver

/-! ## Reading the device itself -/

def getEdidBytesDirectlyUsingIoctl (cfg : EdidSettings) (bus : I2cBus σ) (edidReadSize : Nat) (s : EdidIo σ) :
    Exec (Status × EdidIo σ) :=
  match if cfg.writeBeforeRead then answered (bus.ioctlWrite s.world) else (0, s.world) with
  | (rc, w) =>
    if rc = 0 then
      match bus.ioctlRead edidReadSize w with
      | (.error e, w) => .ok (e.status, { s with world := w })
      | (.ok data, w) => do
        let bytes ← blit s.bytes 0 data
        check (edidReadSize ≤ bytes.length)
        .ok (0, { s with world := w, bytes := bytes, len := edidReadSize })
    else .ok (rc, { s with world := w })

def readInto (bytes : List Byte) (ndx : Nat) (r : Except Errno (List Byte)) : Exec (List Byte) :=
  match r with
  | .error _ => .ok bytes
  | .ok data => blit bytes ndx data

/-- The loop of the bytewise read: the index at its end.  Each turn reads twice into the same byte, and the outcome of
the first read is dropped. -/
def readBytewise (bus : I2cBus σ) : Nat → Nat → EdidIo σ → Exec ((Status × Nat) × EdidIo σ)
  | ndx, 0, s => .ok ((0, ndx), s)
  | ndx, left + 1, s => do
    let bytes ← readInto s.bytes ndx (bus.read 1 s.world).1
    match bus.read 1 (bus.read 1 s.world).2 with
    | (.error e, w) => .ok ((e.status, ndx), { s with world := w, bytes := bytes })
    | (.ok data, w) => do
      let bytes ← blit bytes ndx data
      check (data.length = 1)
      readBytewise bus (ndx + 1) left { s with world := w, bytes := bytes }

def fileioWrite (bus : I2cBus σ) (w : σ) : Status × σ :=
  match bus.write w with
  | (.ok _, w) => (0, w)
  | (.error e, w) => (e.status, w)

def getEdidBytesDirectlyUsingFileio (cfg : EdidSettings) (bus : I2cBus σ) (edidReadSize : Nat) (s : EdidIo σ) :
    Exec (Status × EdidIo σ) :=
  match i2cSetAddr cfg bus s.world with
  | (rc, w) =>
    if rc < 0 then .ok (rc, { s with world := w })
    else
      match if cfg.writeBeforeRead then fileioWrite bus w else (rc, w) with
      | (rc, w) =>
        if rc = 0 then
          if cfg.bytewise then do
            let r ← readBytewise bus 0 edidReadSize { s with world := w }
            .ok (r.1.1, { r.2 with len := r.1.2 })
          else
            match bus.read edidReadSize w with
            | (.error e, w) => .ok (e.status, { s with world := w })
            | (.ok data, w) => do
              let bytes ← blit s.bytes 0 data
              .ok (0, { s with world := w, bytes := bytes, len := data.length })
        else .ok (rc, { s with world := w })

/-! ## The I2C layer -/

def i2cFileioWriter (cfg : EdidSettings) (bus : I2cBus σ) (s : EdidIo σ) : Exec (Status × EdidIo σ) :=
  match i2cSetAddr cfg bus s.world with
  | (rc, w) =>
    if rc < 0 then .ok (rc, { s with world := w })
    else
      match bus.write w with
      | (.error e, w) => .ok (e.status, { s with world := w })
      | (.ok n, w) => .ok (if n = 1 then 0 else ddcrcDdcData, { s with world := w })

def i2cIoctlWriter (bus : I2cBus σ) (s : EdidIo σ) : Exec (Status × EdidIo σ) :=
  match answered (bus.ioctlWrite s.world) with
  | (rc, w) => .ok (rc, { s with world := w })

/-- `i2c_fileio_reader`.  A short read is given a status that the test for failures then replaces by the `errno` of some
call before. -/
def i2cFileioReader (cfg : EdidSettings) (bus : I2cBus σ) (ndx bytect : Nat) (s : EdidIo σ) :
    Exec (Status × EdidIo σ) :=
  match i2cSetAddr cfg bus s.world with
  | (rc, w) =>
    if rc < 0 then .ok (rc, { s with world := w })
    else
      match bus.read bytect w with
      | (.error e, w) => .ok (e.status, { s with world := w })
      | (.ok data, w) => do
        let bytes ← blit s.bytes ndx data
        .ok (if data.length = bytect then 0 else -(bus.staleErrno w : Int), { s with world := w, bytes := bytes })

def i2cIoctlReader (bus : I2cBus σ) (ndx bytect : Nat) (s : EdidIo σ) : Exec (Status × EdidIo σ) := do
  let bytes ← blit s.bytes ndx (List.replicate bytect 0)
  match bus.ioctlRead bytect s.world with
  | (.error e, w) => .ok (e.status, { s with world := w, bytes := bytes })
  | (.ok data, w) => do
    let bytes ← blit bytes ndx data
    .ok (0, { s with world := w, bytes := bytes })

def i2cWriter (cfg : EdidSettings) (bus : I2cBus σ) (strategyId : IoStrategyId) (s : EdidIo σ) :
    Exec (Status × EdidIo σ) :=
  match strategyId with
  | .fileio => i2cFileioWriter cfg bus s
  | .ioctl => i2cIoctlWriter bus s

def i2cReader (cfg : EdidSettings) (bus : I2cBus σ) (ndx bytect : Nat) (strategyId : IoStrategyId) (s : EdidIo σ) :
    Exec (Status × EdidIo σ) :=
  match strategyId with
  | .fileio => i2cFileioReader cfg bus ndx bytect s
  | .ioctl => i2cIoctlReader bus ndx bytect s

/-- **`invoke_i2c_writer` and `invoke_i2c_reader`**: an operation of the strategy in effect, made again where it meets
the Nvidia bug. -/
def invokeI2c (cfg : EdidSettings) (op : IoStrategyId → EdidIo σ → Exec (Status × EdidIo σ)) :
    Nat → EdidIo σ → Exec (Status × EdidIo σ)
  | 0, _ => .error .outOfFuel
  | fuel + 1, s => do
    let r ← op s.strategy s
    check (r.1 ≤ 0)
    if isNvidiaEinvalBug cfg s.strategy r.1 then invokeI2c cfg op fuel { r.2 with strategy := .fileio } else .ok r

def readLayerBytewise (fuel : Nat) (cfg : EdidSettings) (bus : I2cBus σ) :
    Nat → Nat → EdidIo σ → Exec (Status × EdidIo σ)
  | _, 0, s => .ok (0, s)
  | ndx, left + 1, s => do
    let r ← invokeI2c cfg (i2cReader cfg bus ndx 1) fuel s
    if r.1 = 0 then readLayerBytewise fuel cfg bus (ndx + 1) left r.2 else .ok r

def writeLayer (fuel : Nat) (cfg : EdidSettings) (bus : I2cBus σ) (s : EdidIo σ) : Exec (Status × EdidIo σ) :=
  if cfg.writeBeforeRead then invokeI2c cfg (i2cWriter cfg bus) fuel s else .ok (0, s)

def readLayer (fuel : Nat) (cfg : EdidSettings) (bus : I2cBus σ) (edidReadSize : Nat) (s : EdidIo σ) :
    Exec (Status × EdidIo σ) :=
  if cfg.bytewise then readLayerBytewise fuel cfg bus 0 edidReadSize s
  else invokeI2c cfg (i2cReader cfg bus 0 edidReadSize) fuel s

def getEdidBytesUsingI2cLayer (fuel : Nat) (cfg : EdidSettings) (bus : I2cBus σ) (edidReadSize : Nat) (s : EdidIo σ) :
    Exec (Status × EdidIo σ) := do
  let r ← writeLayer fuel cfg bus s
  if r.1 = 0 then do
    let r ← readLayer fuel cfg bus edidReadSize r.2
    .ok (r.1, if r.1 = 0 then { r.2 with len := edidReadSize } else r.2)
  else .ok r

def edidChecksum (edid : List Byte) : Byte := (edid.take 128).foldl (· + ·) 0

def edidHeaderTag : List Byte := [0x00, 0xff, 0xff, 0xff, 0xff, 0xff, 0xff, 0x00]

def isValidRawEdid (edid : List Byte) (len : Nat) : Bool :=
  decide (128 ≤ len) && decide (edid.take 8 = edidHeaderTag) && decide (edidChecksum edid = 0)

def isValidRawCea861ExtensionBlock (edid : List Byte) (len : Nat) : Bool :=
  decide (128 ≤ len) && decide (edid.take 1 = [0x02]) && decide (edidChecksum edid = 0)

/-- What is done with bytes that were read: where the second block is the initial block, it is moved to the front. -/
def judgeBytes (s : EdidIo σ) : Status × EdidIo σ :=
  if s.len = 256 ∧ isValidRawCea861ExtensionBlock (s.bytes.drop 128) (s.len - 128) = false ∧
      isValidRawEdid (s.bytes.drop 128) (s.len - 128) = true then
    (0, { s with bytes := overwrite s.bytes 0 ((s.bytes.drop 128).take 128), len := 128 })
  else (if isValidRawEdid s.bytes s.len then 0 else ddcrcInvalidEdid, s)

/-! ## The tries -/

def maxEdidTries (cfg : EdidSettings) : Nat := if cfg.readSize = 0 then 4 else 2

def edidReadSize (cfg : EdidSettings) (tryctr : Nat) : Nat :=
  if cfg.readSize = 0 then if tryctr < 2 then 128 else 256 else cfg.readSize

def readEdidOnce (fuel : Nat) (cfg : EdidSettings) (bus : I2cBus σ) (curStrategyId : IoStrategyId) (size : Nat)
    (s : EdidIo σ) : Exec (Status × EdidIo σ) :=
  if cfg.usesI2cLayer then
    getEdidBytesUsingI2cLayer fuel cfg bus size { s with attempts := s.attempts ++ [curStrategyId] }
  else
    match curStrategyId with
    | .ioctl => getEdidBytesDirectlyUsingIoctl cfg bus size { s with attempts := s.attempts ++ [curStrategyId] }
    | .fileio => getEdidBytesDirectlyUsingFileio cfg bus size { s with attempts := s.attempts ++ [curStrategyId] }

def endsTries (rc : Status) : Bool :=
  decide (rc = -eNxio) || decide (rc = -eOpnotsupp) || decide (rc = -eTimedout) || decide (rc = -eBusy)

/-- **The loop of the tries**, with how many are left: its status, or none where it jumps back to `retry`. -/
def edidTries (fuel : Nat) (cfg : EdidSettings) (bus : I2cBus σ) (curStrategyId : IoStrategyId) :
    Nat → EdidIo σ → Status → Exec (Option Status × EdidIo σ)
  | 0, s, rc => .ok (some rc, s)
  | left + 1, s, rc =>
    if rc = 0 then .ok (some rc, s)
    else do
      let r ← readEdidOnce fuel cfg bus curStrategyId (edidReadSize cfg (maxEdidTries cfg - (left + 1))) s
      if !cfg.usesI2cLayer && isNvidiaEinvalBug cfg curStrategyId r.1 then
        .ok (none, { r.2 with strategy := .fileio })
      else if endsTries r.1 then .ok (some r.1, r.2)
      else do
        check (r.1 ≤ 0)
        if r.1 = 0 then edidTries fuel cfg bus curStrategyId left (judgeBytes r.2).2 (judgeBytes r.2).1
        else edidTries fuel cfg bus curStrategyId left r.2 r.1

def getRawEdidFrom (cfg : EdidSettings) (bus : I2cBus σ) : Nat → EdidIo σ → Exec (Status × EdidIo σ)
  | 0, _ => .error .outOfFuel
  | fuel + 1, s => do
    let r ← edidTries (fuel + 1) cfg bus s.strategy (maxEdidTries cfg) s (-1)
    match r.1 with
    | none => getRawEdidFrom cfg bus fuel r.2
    | some rc => .ok (rc, if rc < 0 then { r.2 with len := 0 } else r.2)

def i2cGetRawEdidByFd (fuel : Nat) (cfg : EdidSettings) (bus : I2cBus σ) (s : EdidIo σ) : Exec (Status × EdidIo σ) := do
  check (256 ≤ s.bytes.length)
  getRawEdidFrom cfg bus fuel s

end EdidRead

end Ddc
