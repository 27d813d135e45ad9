import Ddcutil.Edid
import Ddcutil.MonitorModelKey
import Ddcutil.Kit.Runs
import Mathlib.Data.List.Infix
import Mathlib.Logic.Function.Basic
/-!
# BusProbe — checking an I2C bus again and again

`i2c_check_bus` fills in the record of one bus, and `i2c_get_and_check_bus_info` calls it for a new record or for an
old one that `i2c_reset_bus_info` has cleared.
-/
namespace Ddc

open Kit

/-! ## The record -/

structure BusFlags where
  busExists : Bool
  lvdsOrEdp : Bool
  apparentLaptop : Bool
  displaylink : Bool
  sysfsKnownReliable : Bool
  initialCheckDone : Bool
  ddcDisabled : Bool
  sysfsEdid : Bool
  x50Edid : Bool
  addrX37 : Bool
  accessible : Bool
  ddcChecksIgnorable : Bool
  probed : Bool
  deriving DecidableEq

def noBusFlags : BusFlags :=
  ⟨false, false, false, false, false, false, false, false, false, false, false, false, false⟩

inductive DrmConnectorFoundBy where
  | notChecked | notFound | byBusno | byEdid
  deriving DecidableEq

/-- **`I2C_Bus_Info`**, but for the number of the bus and its functionality. -/
structure I2cBusInfo where
  flags : BusFlags
  edid : Option ParsedEdid
  driver : Option (List Byte)
  openErrno : Int
  drmConnectorName : Option (List Byte)
  drmConnectorFoundBy : DrmConnectorFoundBy
  drmConnectorId : Int

def i2cNewBusInfo : I2cBusInfo where
  flags := { noBusFlags with busExists := true }
  edid := none
  driver := none
  openErrno := 0
  drmConnectorName := none
  drmConnectorFoundBy := .notChecked
  drmConnectorId := 0

inductive X37State where
  | notRecorded | notDetected | detected
  deriving DecidableEq

abbrev X37Table : Type := List Byte → X37State

/-! ## What the system answers -/

/-- **The bus**, and the settings that a check reads: `adapterClass` is the class attribute as a number. -/
structure BusAdapter where
  deviceExists : Bool
  accessStatus : Int
  driver : Option (List Byte)
  adapterClass : Option UInt32
  isDisplaylink : Bool
  sysfsReliable : Bool
  connectorDirectories : Bool
  primitiveSysfs : Bool
  useX37DetectionTable : Bool
  ignoredMmks : List (List Byte × List Byte × Nat)

/-- **What depends on the display**: the connector with the number of the bus, the connector that has an EDID, the EDID that
a connector has, the status of opening the bus, the EDID that is read from it and the answer at slave address x37. -/
structure BusDisplay where
  connectorByBusno : Option (List Byte × Int)
  connectorByEdid : List Byte → Option (List Byte)
  connectorEdid : List Byte → Option EdidBlock
  openStatus : Int
  rawEdid : Option EdidBlock
  x37Responds : Bool

def isAdapterClassDisplayController (adapterClass : UInt32) : Bool :=
  adapterClass &&& 0xffff0000 == 0x030000 || adapterClass &&& 0xffff0000 == 0x0a0000

def BusAdapter.isVideoDriver (a : BusAdapter) : Bool := a.adapterClass.any isAdapterClassDisplayController

def isLaptopDrmConnectorName (connectorName : List Byte) : Bool :=
  decide (ascii "-eDP-" <:+: connectorName) || decide (ascii "-LVDS-" <:+: connectorName)

def isLaptopParsedEdid (edid : ParsedEdid) : Bool := edid.modelName.isEmpty && edid.serialAscii.isEmpty

def isIgnoredMmk (a : BusAdapter) (edid : ParsedEdid) : Bool :=
  a.ignoredMmks.contains (edid.mfgId, fixupModelName edid.modelName, edid.productCode)

/-! ## The check -/

section Check

variable (a : BusAdapter) (d : BusDisplay)

def takeDriver (b : I2cBusInfo) : I2cBusInfo :=
  if a.primitiveSysfs = false ∧ b.driver = none then { b with driver := a.driver } else b

def notDisplayController (b : I2cBusInfo) : Bool := !a.primitiveSysfs && b.driver.isNone && !a.isVideoDriver

def markExists (b : I2cBusInfo) : I2cBusInfo :=
  { b with
    flags := { b.flags with
      busExists := true
      displaylink := b.flags.displaylink || a.isDisplaylink
      sysfsKnownReliable := b.flags.sysfsKnownReliable || a.sysfsReliable } }

def findConnectorByBusno (b : I2cBusInfo) : I2cBusInfo :=
  match b.drmConnectorName, (if a.connectorDirectories = true then d.connectorByBusno else none) with
  | some _, _ => b
  | none, some (name, id) =>
    { b with drmConnectorName := some name, drmConnectorFoundBy := .byBusno, drmConnectorId := id }
  | none, none => { b with drmConnectorFoundBy := .notChecked }

def checksConnectorForEdid (b : I2cBusInfo) : Bool :=
  b.drmConnectorName.isSome && (b.flags.sysfsKnownReliable || b.flags.displaylink)

def parsedEdidUsingSysfs (b : I2cBusInfo) : Option ParsedEdid :=
  (b.drmConnectorName.bind d.connectorEdid).bind createParsedEdid

def takeSysfsEdid (b : I2cBusInfo) : I2cBusInfo :=
  match parsedEdidUsingSysfs d b with
  | some edid => { b with edid := some edid, flags := { b.flags with sysfsEdid := true } }
  | none => b

def parsedEdidByFd : Option ParsedEdid := d.rawEdid.bind createParsedEdid

def takeI2cEdid (b : I2cBusInfo) : Exec I2cBusInfo :=
  if b.edid.isSome = true then .error .assertFailed
  else
    match parsedEdidByFd d with
    | some edid => .ok { b with edid := some edid, flags := { b.flags with x50Edid := true } }
    | none => .ok { b with edid := none }

def setConnectorUsingEdid (b : I2cBusInfo) : I2cBusInfo :=
  match b.drmConnectorName, b.edid with
  | none, some edid =>
    if a.connectorDirectories = true then
      match d.connectorByEdid edid.bytes.bytes with
      | some name => { b with drmConnectorName := some name, drmConnectorFoundBy := .byEdid, drmConnectorId := 0 }
      | none => b
    else b
  | _, _ => b

def markNotFound (b : I2cBusInfo) : I2cBusInfo :=
  if b.drmConnectorFoundBy = .notChecked then { b with drmConnectorFoundBy := .notFound } else b

def markLaptop (b : I2cBusInfo) (edid : ParsedEdid) : Bool × I2cBusInfo :=
  match b.drmConnectorName with
  | some name =>
    if isLaptopDrmConnectorName name = true ∧ isLaptopParsedEdid edid = true then
      (true, { b with flags := { b.flags with lvdsOrEdp := true } })
    else (false, b)
  | none =>
    if isLaptopParsedEdid edid = true then (true, { b with flags := { b.flags with apparentLaptop := true } })
    else (false, b)

def isLaptopForBusinfo (b : I2cBusInfo) (edid : ParsedEdid) : Exec (Bool × I2cBusInfo) :=
  if (markLaptop b edid).1 =
      ((markLaptop b edid).2.flags.lvdsOrEdp || (markLaptop b edid).2.flags.apparentLaptop) then
    .ok (markLaptop b edid)
  else .error .assertFailed

def x37State (table : X37Table) (edid : ParsedEdid) : X37State :=
  if a.useX37DetectionTable = true then table edid.bytes.bytes else .notRecorded

def checkX37ForBusinfo (table : X37Table) (b : I2cBusInfo) (edid : ParsedEdid) : I2cBusInfo × X37Table :=
  if x37State a table edid = .detected then ({ b with flags := { b.flags with addrX37 := true } }, table)
  else
    ({ b with flags := { b.flags with
        addrX37 := b.flags.addrX37 || d.x37Responds
        ddcChecksIgnorable := false } },
      if a.useX37DetectionTable = true then
        Function.update table edid.bytes.bytes (if d.x37Responds = true then .detected else .notDetected)
      else table)

def checkSlave (table : X37Table) (edid : ParsedEdid) (laptop : Bool × I2cBusInfo) : I2cBusInfo × X37Table :=
  if laptop.1 = true then (laptop.2, table)
  else if isIgnoredMmk a edid = true then
    ({ laptop.2 with flags := { laptop.2.flags with ddcDisabled := true } }, table)
  else checkX37ForBusinfo a d table laptop.2 edid

def laptopCheck (b : I2cBusInfo) (edid : ParsedEdid) : Exec (Bool × I2cBusInfo) :=
  if b.flags.displaylink = true then .ok (false, b) else isLaptopForBusinfo b edid

def checkDisplay (table : X37Table) (b : I2cBusInfo) : Exec (I2cBusInfo × X37Table) :=
  match b.edid with
  | none => .ok (b, table)
  | some edid => do
    let laptop ← laptopCheck b edid
    .ok (checkSlave a d table edid laptop)

def markChecked (checked : I2cBusInfo × X37Table) : I2cBusInfo × X37Table :=
  ({ checked.1 with flags := { checked.1.flags with initialCheckDone := true } }, checked.2)

def checkOpenedBus (table : X37Table) (checkedConnector : Bool) (b : I2cBusInfo) : Exec (I2cBusInfo × X37Table) := do
  let b ← if checkedConnector = true then .ok b else takeI2cEdid d b
  let checked ← checkDisplay a d table (markNotFound (setConnectorUsingEdid a d b))
  .ok (markChecked checked)

def openAndCheckBus (table : X37Table) (b : I2cBusInfo) : Exec (I2cBusInfo × X37Table) :=
  if d.openStatus ≠ 0 then
    .ok ({ (if checksConnectorForEdid b = true then takeSysfsEdid d b else b) with openErrno := d.openStatus }, table)
  else
    checkOpenedBus a d table (checksConnectorForEdid b)
      { (if checksConnectorForEdid b = true then takeSysfsEdid d b else b) with
        flags := { (if checksConnectorForEdid b = true then takeSysfsEdid d b else b).flags with accessible := true } }

def markProbed (b : I2cBusInfo) : I2cBusInfo := { b with flags := { b.flags with probed := true } }

def i2cCheckBusInfo (table : X37Table) (b : I2cBusInfo) : Exec (I2cBusInfo × X37Table) :=
  if a.deviceExists = false then .ok (markProbed b, table)
  else if a.accessStatus ≠ 0 then .ok ({ markProbed b with openErrno := a.accessStatus }, table)
  else if notDisplayController a b = true then .ok (takeDriver a (markProbed b), table)
  else openAndCheckBus a d table (findConnectorByBusno a d (markExists a (takeDriver a (markProbed b))))

def resetBusInfo (b : I2cBusInfo) : I2cBusInfo :=
  { b with flags := if a.deviceExists = true then noBusFlags else b.flags, edid := none }

def getAndCheckBusInfo (table : X37Table) (businfo : Option I2cBusInfo) : Exec (I2cBusInfo × X37Table) :=
  match businfo with
  | none => i2cCheckBusInfo a d table i2cNewBusInfo
  | some b => i2cCheckBusInfo a d table (resetBusInfo a b)

end Check

/-- **The record of the bus**, the table, and the latest check: the display and what the check left. -/
structure BusProbe where
  businfo : Option I2cBusInfo
  table : X37Table
  last : Option (BusDisplay × I2cBusInfo)

def BusProbe.start : BusProbe := ⟨none, fun _ => .notRecorded, none⟩

inductive BusProbeEvent where
  | check (d : BusDisplay)
  | reset

def busProbeStep (a : BusAdapter) (s : BusProbe) : BusProbeEvent → Exec BusProbe
  | .check d => do
    let checked ← getAndCheckBusInfo a d s.table s.businfo
    .ok ⟨some checked.1, checked.2, some (d, checked.1)⟩
  | .reset => .ok { s with businfo := s.businfo.map (resetBusInfo a) }

structure I2cBusInfo.SameAs (b b' : I2cBusInfo) : Prop where
  flags : b.flags = b'.flags
  edid : b.edid = b'.edid
  openErrno : b.openErrno = b'.openErrno
  drmConnectorName : b.drmConnectorName = b'.drmConnectorName
  drmConnectorFoundBy : b.drmConnectorFoundBy = b'.drmConnectorFoundBy
  drmConnectorId : b.drmConnectorId = b'.drmConnectorId

/-- **A check returns what a first check of the display gives**, and if it is the display of the check before, what that
check gave. -/
def ProbeRight (a : BusAdapter) (s : BusProbe) : BusProbeEvent → Prop
  | .check d => ∃ s' b first, busProbeStep a s (.check d) = .ok s' ∧ s'.businfo = some b ∧
      getAndCheckBusInfo a d s.table none = .ok first ∧ b.SameAs first.1 ∧
      ∀ before, s.last = some (d, before) → b.SameAs before
  | .reset => True

structure DrmConnector where
  name : List Byte
  foundBy : DrmConnectorFoundBy
  id : Int

/-- **The connector of a display**: the one that has the number of the bus, or else the EDID that is read from it. -/
def connectorFor (a : BusAdapter) (d : BusDisplay) : Option DrmConnector :=
  if a.connectorDirectories = true then
    match d.connectorByBusno with
    | some (name, id) => some ⟨name, .byBusno, id⟩
    | none =>
      if d.openStatus = 0 then
        (parsedEdidByFd d).bind fun edid => (d.connectorByEdid edid.bytes.bytes).map fun name => ⟨name, .byEdid, 0⟩
      else none
  else none

/-- **The display can follow on the bus**: the bus does not exist, or it is accessible and that of a display controller, the
display before could be opened or this one cannot, and the display before had no connector or this one has the same; one
found by its EDID is then of no use for reading the EDID. -/
def Follows (a : BusAdapter) (before d : BusDisplay) : Prop :=
  a.deviceExists = true →
    a.accessStatus = 0 ∧ (a.primitiveSysfs = true ∨ a.isVideoDriver = true) ∧
    (before.openStatus = 0 ∨ d.openStatus ≠ 0) ∧
    ∀ connector, connectorFor a before = some connector → connectorFor a d = some connector ∧
      (connector.foundBy = .byEdid → a.isDisplaylink = false ∧ a.sysfsReliable = false)

def ProbeGuard (a : BusAdapter) (s : BusProbe) : BusProbeEvent → Prop
  | .check d => ∀ before b, s.last = some (before, b) → Follows a before d
  | .reset => True

end Ddc
