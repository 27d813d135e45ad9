import Ddcutil.DisplayRefs
import Ddcutil.Edid
/-!
# DetectedDisplays — the references that display detection makes

A reference as detection, the phantom filter and the selection of a display read it: the parsed EDID, the record of the
bus or of the USB monitor behind it, its number, and for a phantom the display that it is a phantom of.
-/
namespace Ddc

open Kit

/-- **A parsed EDID as `create_parsed_edid` makes it.** -/
structure DetectedEdid where
  edid : ParsedEdid
  parsed : createParsedEdid edid.bytes = some edid

def ParsedEdid.serialBinary (edid : ParsedEdid) : Nat :=
  (edid.bytes.byte 0x0c).toNat + 0x100 * (edid.bytes.byte 0x0d).toNat + 0x10000 * (edid.bytes.byte 0x0e).toNat +
    0x1000000 * (edid.bytes.byte 0x0f).toNat

theorem DetectedEdid.eq_of_bytes {e1 e2 : DetectedEdid} (h : e1.edid.bytes = e2.edid.bytes) : e1.edid = e2.edid := by
  have h1 := e1.parsed
  rw [h, e2.parsed] at h1; exact (Option.some.inj h1).symm

def DetectedEdid.ofBlock (edidbytes : EdidBlock) (h : edidbytes.isValidHeader = true ∧ edidbytes.checksum = 0) :
    DetectedEdid where
  edid := {
    bytes := edidbytes
    mfgId := parseMfgIdInBuffer (edidbytes.byte 8) (edidbytes.byte 9)
    productCode := (edidbytes.byte 0x0b).toNat * 256 + (edidbytes.byte 0x0a).toNat
    modelName := (getEdidDescriptorStrings edidbytes).name
    serialAscii := (getEdidDescriptorStrings edidbytes).sn
    extraDescriptorString := (getEdidDescriptorStrings edidbytes).other }
  parsed := if_pos h

/-- `Usb_Monitor_Info` with its device record: `hiddevDevno` is the number in the device's name. -/
structure UsbMonitorInfo where
  busnum : Int
  devnum : Int
  hiddevDeviceName : String
  hiddevDevno : Nat
  edid : Option DetectedEdid

/-- **`Display_Ref`** as it is detected: `businfo` and `moninfo` are `detail`, which is the bus record's number for an I2C
display and the monitor's record for a USB display; `actualDisplay` is an index in the same list. -/
structure DetectedRef where
  ioPath : IoPath
  usbBus : Int
  usbDevice : Int
  flags : DrefFlags
  pedid : Option DetectedEdid
  dispno : Int
  businfo : Option Nat
  moninfo : Option UsbMonitorInfo
  actualDisplay : Option Nat

def DetectedRef.detailBusno (dref : DetectedRef) : Exec Nat :=
  match dref.businfo with
  | some busno => .ok busno
  | none => .error .nullDeref

def plainBlock : EdidBlock :=
  ⟨[0x00, 0xff, 0xff, 0xff, 0xff, 0xff, 0xff, 0x00] ++ List.replicate 119 0 ++ [0x06], rfl⟩

def plainEdid : DetectedEdid := .ofBlock plainBlock (by decide +kernel)

def busDref (busno : Nat) (dispno : Int) : DetectedRef :=
  ⟨.i2c busno, 0, 0, { noDrefFlags with communicationWorking := decide (0 < dispno) }, some plainEdid, dispno, some busno,
    none, none⟩

end Ddc
