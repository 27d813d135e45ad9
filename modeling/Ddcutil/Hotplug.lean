import Ddcutil.BitSet256
import Ddcutil.DisplayRefs
/-!
# Hotplug — display references as displays come and go

`dw_hotplug_change_handler` is called with the buses that lost their EDID and those that have one now.
-/
namespace Ddc

open Kit

inductive DisplayStatusEventType where
  | connected | disconnected | ddcEnabled
  deriving DecidableEq

/-- **`DDCA_Display_Status_Event`**, emitted or put on the queue of deferred events. -/
structure DisplayStatusEvent where
  eventType : DisplayStatusEventType
  dref : Nat
  ioPath : IoPath
  deriving DecidableEq

structure DisplayWorld where
  buses : Heap BusInfo
  allI2cBuses : List Address
  allDisplayRefs : List DisplayRef
  dispnoMax : Nat
  events : List DisplayStatusEvent
  displaysToRecheck : List Nat

/-! ## Bus records -/

def findBusInfo (buses : Heap BusInfo) : List Address → Nat → Exec (Option Address)
  | [], _ => .ok none
  | a :: as, busno => do
    let curInfo ← readBusInfo buses (some a)
    if curInfo.busno = busno then .ok (some a) else findBusInfo buses as busno

/-- `i2c_reset_bus_info`: the flags are cleared where the device exists, the EDID is freed. -/
def i2cResetBusInfo (buses : Heap BusInfo) (businfo : Address) (deviceExists : Bool) : Exec (Heap BusInfo) := do
  let b ← readBusInfo buses (some businfo)
  .ok (buses.write businfo { b with
    hasEdid := false
    probed := b.probed && !deviceExists
    ddcChecksIgnorable := b.ddcChecksIgnorable && !deviceExists })

def i2cRemoveBusByBusno (s : DisplayWorld) (busno : Nat) : Exec DisplayWorld := do
  check (busno ≠ 0)
  match ← findBusInfo s.buses s.allI2cBuses busno with
  | none => .ok s
  | some a => .ok { s with buses := s.buses.free a, allI2cBuses := s.allI2cBuses.erase a }

structure BusCheck where
  hasEdid : Bool
  drmConnectorName : Option String

def i2cCheckBus (buses : Heap BusInfo) (businfo : Address) (found : BusCheck) : Exec (Heap BusInfo) := do
  let b ← readBusInfo buses (some businfo)
  check (b.busno ≠ 255)
  .ok (buses.write businfo { b with
    probed := true
    hasEdid := found.hasEdid
    drmConnectorName := b.drmConnectorName.or found.drmConnectorName })

/-- `i2c_get_and_check_bus_info`: the record of the bus, a new one where there is none. -/
def i2cGetAndCheckBusInfo (s : DisplayWorld) (busno : Nat) (deviceExists : Bool) (found : BusCheck) :
    Exec (Address × DisplayWorld) := do
  match ← findBusInfo s.buses s.allI2cBuses busno with
  | none => do
    check (busno ≠ 255)
    let buses ← i2cCheckBus (s.buses.alloc ⟨busno, false, false, false, none⟩) s.buses.next found
    .ok (s.buses.next, { s with buses := buses, allI2cBuses := s.allI2cBuses ++ [s.buses.next] })
  | some a => do
    let buses ← i2cResetBusInfo s.buses a deviceExists
    let buses ← i2cCheckBus buses a found
    .ok (a, { s with buses := buses })

/-! ## The initial checks of a display -/

/-- What the initial checks of a display find: whether its model is one to be left alone, whether its connector stays
disconnected, the error of opening its bus, and the status of reading a feature, where that is tried. -/
structure DdcCheck where
  ignoredMmk : Bool
  drmDisconnected : Bool
  openError : Option Status
  readStatus : Option Status

/-- `ddc_open_display` as the checks call it: the status of its error and what it changes. -/
def openForChecks (buses : Heap BusInfo) (dref : DisplayRef) (found : DdcCheck) : Exec (Option Status × DisplayRef) :=
  if dref.flags.removed = true then .ok (some ddcrcDisconnected, dref)
  else
    match dref.detail with
    | none => .ok (some ddcrcDisconnected, dref.markRemoved)
    | some a => do
      let businfo ← readBusInfo buses (some a)
      if found.drmDisconnected = true then .ok (some ddcrcDisconnected, dref)
      else if businfo.hasEdid = false then .ok (some ddcrcEdid, dref)
      else .ok (found.openError, dref)

def flagsOfRead (flags : DrefFlags) (psc : Status) : DrefFlags :=
  if psc = 0 ∨ psc = ddcrcReportedUnsupported ∨ psc = ddcrcDeterminedUnsupported then
    { flags with communicationWorking := true }
  else if psc = ddcrcDisconnected then { noDrefFlags with removed := true }
  else if psc = -eBusy then { flags with busy := true }
  else flags

def ddcInitialChecksByDh (flags : DrefFlags) (readStatus : Option Status) : Option Status × DrefFlags :=
  if flags.communicationChecked = true then (none, flags)
  else
    match readStatus with
    | none => (none, { flags with communicationChecked := true })
    | some psc =>
      (if psc = 0 then none else some psc,
        if psc ≠ -eBusy then { flagsOfRead flags psc with communicationChecked := true } else flagsOfRead flags psc)

/-- **`ddc_initial_checks_by_dref`**: the status of its error, the reference and the bus records after it. -/
def ddcInitialChecksByDref (skipDdcChecks : Bool) (buses : Heap BusInfo) (dref : DisplayRef) (found : DdcCheck) :
    Exec (Option Status × DisplayRef × Heap BusInfo) :=
  if found.ignoredMmk = true then
    .ok (none, { dref with flags := { dref.flags with ddcDisabled := true, communicationChecked := true } }, buses)
  else do
    let businfo ← readBusInfo buses dref.detail
    if skipDdcChecks = true ∨ businfo.ddcChecksIgnorable = true then
      .ok (none,
        { dref with flags := { dref.flags with
            communicationChecked := true, communicationWorking := true, usesDdcFlagForUnsupported := true } },
        match dref.detail with
        | none => buses
        | some a => buses.write a { businfo with ddcChecksIgnorable := true })
    else do
      let (err, dref) ← openForChecks buses dref found
      let (err, flags) :=
        match err with
        | some status => (some status, dref.flags)
        | none => ddcInitialChecksByDh dref.flags found.readStatus
      let flags := if flags.removed = true then flags else { flags with communicationChecked := true }
      let flags := if err = some (-eBusy) then { flags with busy := true } else flags
      .ok (err, { dref with flags := flags },
        match dref.detail with
        | none => buses
        | some a => buses.write a { businfo with ddcChecksIgnorable := false })

/-! ## References made and removed -/

/-- What `dw_add_display_by_businfo` returns: nothing, a reference that is left out of the list, or one in it. -/
inductive AddedDref where
  | noDref | transient
  | added (ndx : Nat)
  deriving DecidableEq

def dwAddDisplayByBusinfo (skipDdcChecks : Bool) (s : DisplayWorld) (a : Address) (found : DdcCheck)
    (creationTimestamp : Nat) (created : 0 < creationTimestamp) : Exec (AddedDref × DisplayWorld) := do
  let businfo ← readBusInfo s.buses (some a)
  check (businfo.probed = true)
  if businfo.hasEdid = false then .ok (.noDref, s)
  else do
    let (err, dref, buses) ← ddcInitialChecksByDref skipDdcChecks s.buses
      ⟨.i2c businfo.busno, noDrefFlags, 0, some a, businfo.drmConnectorName, creationTimestamp, created⟩ found
    if err = some ddcrcDisconnected then do
      check (dref.flags.removed = true)
      .ok (.transient, { s with buses := buses })
    else if dref.flags.communicationWorking = false then
      .ok (.added s.allDisplayRefs.length, { s with
        buses := buses
        allDisplayRefs := s.allDisplayRefs ++ [{ dref with dispno := dispnoInvalid }] })
    else
      .ok (.added s.allDisplayRefs.length, { s with
        buses := buses
        allDisplayRefs := s.allDisplayRefs ++ [{ dref with dispno := s.dispnoMax + 1 }]
        dispnoMax := s.dispnoMax + 1 })

def dwRemoveDisplayByBusinfo (s : DisplayWorld) (businfo : Option Address) (deviceExists : Bool) :
    Exec (Option Nat × DisplayWorld) :=
  match businfo with
  | none => .error .nullDeref
  | some a => do
    let buses ← i2cResetBusInfo s.buses a deviceExists
    let b ← readBusInfo buses (some a)
    let (result, drefs) ← getDrefByBusnoOrConnector buses s.allDisplayRefs (.byBusno b.busno) true
    match result with
    | none => .ok (none, { s with buses := buses, allDisplayRefs := drefs })
    | some ndx =>
      match drefs[ndx]? with
      | none => .error .outOfBounds
      | some dref => do
        check (dref.flags.removed = false)
        .ok (some ndx, { s with
          buses := buses
          allDisplayRefs := drefs.set ndx { dref.markRemoved with detail := none } })

/-! ## The handler -/

/-- What is found in one call: whether a bus's device exists, at each place where that is asked, what checking the bus
and its display finds, and when a reference is made. -/
structure HotplugFound where
  existsAtReset : Nat → Bool
  existsAfter : Nat → Bool
  existsAtAdd : Nat → Bool
  busCheck : Nat → BusCheck
  ddcCheck : Nat → DdcCheck
  creationTimestamp : Nat → Nat
  created : ∀ busno, 0 < creationTimestamp busno

def hotplugRemove (found : HotplugFound) (acc : Bool × DisplayWorld) (busno : Nat) : Exec (Bool × DisplayWorld) := do
  let s := acc.2
  let businfo ← findBusInfo s.buses s.allI2cBuses busno
  let (dref, s) ← dwRemoveDisplayByBusinfo s businfo (found.existsAtReset busno)
  let (eventEmitted, s) :=
    match dref with
    | none => (acc.1, s)
    | some ndx => (true, { s with events := s.events ++ [⟨.disconnected, ndx, .i2c busno⟩] })
  if found.existsAfter busno = true then .ok (eventEmitted, s)
  else do
    let s ← i2cRemoveBusByBusno s busno
    .ok (eventEmitted, s)

def needsRecheck (s : DisplayWorld) (ndx : Nat) : Bool :=
  match s.allDisplayRefs[ndx]? with
  | none => false
  | some dref => !dref.flags.communicationWorking

def hotplugAdd (skipDdcChecks recheck : Bool) (found : HotplugFound) (acc : Bool × DisplayWorld) (busno : Nat) :
    Exec (Bool × DisplayWorld) := do
  let (businfo, s) ← i2cGetAndCheckBusInfo acc.2 busno (found.existsAtAdd busno) (found.busCheck busno)
  let (dref, s) ← dwAddDisplayByBusinfo skipDdcChecks s businfo (found.ddcCheck busno)
    (found.creationTimestamp busno) (found.created busno)
  match dref with
  | .added ndx =>
    .ok (true, { s with
      displaysToRecheck := s.displaysToRecheck ++ if needsRecheck s ndx && recheck then [ndx] else []
      events := s.events ++ [⟨.connected, ndx, .i2c busno⟩] })
  | _ => .ok (false, s)

/-- **`dw_hotplug_change_handler`**: whether it says that it emitted an event; `recheck` says that the caller takes
the displays to be rechecked. -/
def dwHotplugChangeHandler (skipDdcChecks recheck : Bool) (found : HotplugFound) (removed added : BitSet256)
    (s : DisplayWorld) : Exec (Bool × DisplayWorld) := do
  let acc ← (bs256Iter removed).foldlM (hotplugRemove found) (true, s)
  (bs256Iter added).foldlM (hotplugAdd skipDdcChecks recheck found) acc

end Ddc
