import Ddcutil.Hotplug
import Ddcutil.PhantomDisplays
/-!
# DetectDisplays — detection of all displays and their numbers

`ddc_detect_all_displays`: a reference for each bus with an EDID and for each USB monitor, the check of each, the
numbers in the order of the list, the phantom filter, and the numbers again where the filter says that it found some.
-/
namespace Ddc

open Kit

structure DetectedBus where
  busno : Nat
  edid : Option DetectedEdid
  addrX37 : Bool
  accessible : Bool
  openErrno : Int

structure BusOpenError where
  ioPath : IoPath
  error : Int
  detail : Option String
  deriving DecidableEq

/-! ## The references -/

def ddcFindDeserializedDisplay (deserializedDisplays : List DetectedRef) (busno : Nat) (edidbytes : EdidBlock) :
    Option DetectedRef :=
  deserializedDisplays.find? fun cur =>
    decide (cur.ioPath = .i2c busno) && cur.pedid.any fun pedid => decide (pedid.edid.bytes.bytes = edidbytes.bytes)

/-- `copy_display_ref`, which leaves out the record behind the reference and the actual display. -/
def copyDisplayRef (dref : DetectedRef) : DetectedRef :=
  { dref with businfo := none, moninfo := none, actualDisplay := none }

def newBusDref (businfo : DetectedBus) (edid : DetectedEdid) : DetectedRef where
  ioPath := .i2c businfo.busno
  usbBus := 0
  usbDevice := 0
  flags := noDrefFlags
  pedid := some edid
  dispno := dispnoInvalid
  businfo := some businfo.busno
  moninfo := none
  actualDisplay := none

/-- The reference for a bus: a deserialized one is taken only where the slave address is active. -/
def busDrefFor (displayCachingEnabled : Bool) (deserializedDisplays : List DetectedRef) (businfo : DetectedBus)
    (edid : DetectedEdid) : DetectedRef :=
  if displayCachingEnabled = true ∧ businfo.addrX37 = true then
    match ddcFindDeserializedDisplay deserializedDisplays businfo.busno edid.edid.bytes with
    | some dref => { copyDisplayRef dref with businfo := some businfo.busno }
    | none => newBusDref businfo edid
  else newBusDref businfo edid

def usbDrefFor (curmon : UsbMonitorInfo) : DetectedRef where
  ioPath := .usb curmon.hiddevDevno
  usbBus := curmon.busnum
  usbDevice := curmon.devnum
  flags := noDrefFlags
  pedid := curmon.edid
  dispno := dispnoInvalid
  businfo := none
  moninfo := some curmon
  actualDisplay := none

structure Connected where
  buses : List DetectedBus
  usbMonitors : List UsbMonitorInfo
  usbOpenErrors : List BusOpenError
  deserializedDisplays : List DetectedRef
  displayCachingEnabled : Bool
  detectUsbDisplays : Bool
  detectPhantomDisplays : Bool

def Connected.displayList (c : Connected) : List DetectedRef :=
  c.buses.filterMap (fun businfo =>
    businfo.edid.map (busDrefFor c.displayCachingEnabled c.deserializedDisplays businfo)) ++
    if c.detectUsbDisplays = true then c.usbMonitors.map usbDrefFor else []

def Connected.busOpenErrors (c : Connected) : List BusOpenError :=
  c.buses.filterMap (fun businfo =>
    if businfo.edid.isNone = true ∧ businfo.accessible = false then
      some ⟨.i2c businfo.busno, businfo.openErrno, none⟩
    else none) ++
    if c.detectUsbDisplays = true then c.usbOpenErrors else []

/-- **`ddc_async_scan`, `ddc_non_async_scan`**: the check of the `i`-th display leaves its flags as `checks i` says. -/
def scanDisplays (checks : Nat → DrefFlags → DrefFlags) (displayList : List DetectedRef) : List DetectedRef :=
  displayList.mapIdx fun ndx dref => { dref with flags := checks ndx dref.flags }

/-! ## The numbers -/

def usable (flags : DrefFlags) : Bool := !flags.ddcDisabled && !flags.busy && flags.communicationWorking

def assignDisplayNumber (dref : DetectedRef) (dispnoMax : Nat) : DetectedRef × Nat :=
  if dref.flags.ddcDisabled = true then ({ dref with dispno := dispnoDdcDisabled }, dispnoMax)
  else if dref.flags.busy = true then ({ dref with dispno := dispnoBusy }, dispnoMax)
  else if dref.flags.communicationWorking = true then ({ dref with dispno := (dispnoMax + 1 : Nat) }, dispnoMax + 1)
  else ({ dref with dispno := dispnoInvalid }, dispnoMax)

def assignDisplayNumbers : List DetectedRef → Nat → List DetectedRef × Nat
  | [], dispnoMax => ([], dispnoMax)
  | dref :: drefs, dispnoMax =>
    let (dref, dispnoMax) := assignDisplayNumber dref dispnoMax
    let (drefs, dispnoMax) := assignDisplayNumbers drefs dispnoMax
    (dref :: drefs, dispnoMax)

def renumber : List DetectedRef → Nat → List DetectedRef
  | [], _ => []
  | dref :: drefs, nextValidDisplay =>
    if 0 < dref.dispno then { dref with dispno := nextValidDisplay } :: renumber drefs (nextValidDisplay + 1)
    else dref :: renumber drefs nextValidDisplay

structure Detection where
  displayList : List DetectedRef
  i2cOpenErrors : Option (List BusOpenError)
  dispnoMax : Nat

def ddcDetectAllDisplays (c : Connected) (checks : Nat → DrefFlags → DrefFlags) (attrs : Nat → Nat → ConnectorAttrs)
    (busName : Nat → Option String) : Exec Detection := do
  let (displayList, dispnoMax) := assignDisplayNumbers (scanDisplays checks c.displayList) 0
  let (phantomDisplaysFound, displayList) ←
    filterPhantomDisplays c.detectPhantomDisplays attrs busName displayList
  .ok ⟨if phantomDisplaysFound = true then renumber displayList 1 else displayList,
    if c.busOpenErrors ≠ [] then some c.busOpenErrors else none, dispnoMax⟩

end Ddc
