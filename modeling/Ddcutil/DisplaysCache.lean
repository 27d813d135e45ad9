import Ddcutil.CapabilitiesCache
import Ddcutil.DisplayRefs
import Ddcutil.Edid
import Ddcutil.Kit.Json
/-!
# DisplaysCache — display references that outlive a process

`ddc_serialize.c`: the references whose displays work are written to a JSON text, each with the numbers of its path,
its versions, its flags, its EDID in hex, its model key and its capabilities string; the next process makes references
of the text.
-/
namespace Ddc

open Kit

/-- `DDCA_IO_Path`, as the two numbers that are kept; a path that is restored may have any mode. -/
structure DpathNumbers where
  ioMode : UInt32
  busnoOrHiddev : Int32
  deriving DecidableEq

def edidSourceFieldSize : Nat := 6

structure SourcedEdid where
  edid : ParsedEdid
  edidSource : CString
  parsed : createParsedEdid edid.bytes = some edid
  edidSourceLt : edidSource.val.length < edidSourceFieldSize

def createParsedEdid2 (edidbytes : EdidBlock) (source : Option CString) : Exec (Option SourcedEdid) :=
  match hparsed : createParsedEdid edidbytes with
  | none => .ok none
  | some edid =>
    match source with
    | none => .error .assertFailed
    | some source =>
      if hlt : source.val.length < edidSourceFieldSize then
        .ok (some ⟨edid, source, by rw [(createParsedEdid_eq_some hparsed).1]; exact hparsed, hlt⟩)
      else .error .assertFailed

def mmkNew (mfgId modelName : Option CString) (productCode : UInt16) : Exec MonitorModelKey :=
  match mfgId, modelName with
  | some mfgId, some modelName =>
    if h : mfgId.val.length < edidMfgIdFieldSize ∧ modelName.val.length < edidModelNameFieldSize then
      .ok (mmkValue mfgId.val modelName.val productCode.toNat h.1 h.2 mfgId.property productCode.toNat_lt)
    else .error .assertFailed
  | _, _ => .error .assertFailed

/-- **`Display_Ref`**, as far as it is kept: `actualDisplay` is the path of the display that `actual_display` points
to. -/
structure CachedRef where
  ioPath : DpathNumbers
  usbBus : Int32
  usbDevice : Int32
  usbHiddevName : Option CString
  vcpVersionXdf : VersionSpec
  vcpVersionCmdline : VersionSpec
  flags : UInt16
  capabilitiesString : Option CString
  pedid : Option SourcedEdid
  mmid : Option MonitorModelKey
  dispno : Int32
  actualDisplay : Option DpathNumbers
  actualDisplayPath : Option DpathNumbers

def createBaseDisplayRef (ioPath : DpathNumbers) : CachedRef where
  ioPath := ioPath
  usbBus := 0
  usbDevice := 0
  usbHiddevName := none
  vcpVersionXdf := vspecUnqueried
  vcpVersionCmdline := vspecUnqueried
  flags := 0
  capabilitiesString := none
  pedid := none
  mmid := none
  dispno := 0
  actualDisplay := none
  actualDisplayPath := none

def CachedRef.isWorking (dref : CachedRef) : Bool := dref.flags &&& drefDdcCommunicationWorking != 0

/-! ## Writing -/

def serializeDpath (iopath : DpathNumbers) : Json :=
  .build [("io_mode", some (.integer iopath.ioMode.toNat)),
    ("busno_or_hiddev", some (.integer iopath.busnoOrHiddev.toInt))]

def serializeVspec (vspec : VersionSpec) : Json :=
  .build [("major", some (.integer vspec.major.toNat)), ("minor", some (.integer vspec.minor.toNat))]

def edidNode (pedid : SourcedEdid) : Json :=
  .build [("bytes", Json.ofText (hexstring2 pedid.edid.bytes.bytes)),
    ("edid_source", Json.ofText pedid.edidSource.val)]

def serializeParsedEdid : Option SourcedEdid → Exec Json
  | none => .error .nullDeref
  | some pedid => .ok (edidNode pedid)

def mmkNode (mmk : MonitorModelKey) : Json :=
  .build [("mfg_id", Json.ofText mmk.mfgId), ("model_name", Json.ofText mmk.modelName),
    ("product_code", some (.integer mmk.productCode))]

def serializeMmk : Option MonitorModelKey → Exec Json
  | none => .error .nullDeref
  | some mmk => .ok (mmkNode mmk)

def serializeActualDisplay (dref : CachedRef) : Exec (Option Json) :=
  if dref.dispno = -2 then
    match dref.actualDisplay with
    | none => .error .nullDeref
    | some iopath => .ok (some (serializeDpath iopath))
  else .ok none

def displayMembers (dref : CachedRef) (jpedid jmmid : Json) (jactual : Option Json) : List (String × Option Json) := [
  ("io_path", some (serializeDpath dref.ioPath)),
  ("usb_bus", some (.integer dref.usbBus.toInt)),
  ("usb_device", some (.integer dref.usbDevice.toInt)),
  ("usb_hiddev_name", dref.usbHiddevName.bind fun s => Json.ofText s.val),
  ("vcp_version_xdf", some (serializeVspec dref.vcpVersionXdf)),
  ("vcp_version_cmdline", some (serializeVspec dref.vcpVersionCmdline)),
  ("flags", some (.integer dref.flags.toNat)),
  ("capabilities_string", dref.capabilitiesString.bind fun s => Json.ofText s.val),
  ("pedid", some jpedid),
  ("dispno", some (.integer dref.dispno.toInt)),
  ("mmid", some jmmid),
  ("actual_display_path", jactual)]

def serializeOneDisplay (dref : CachedRef) : Exec Json := do
  let jpedid ← serializeParsedEdid dref.pedid
  let jmmid ← serializeMmk dref.mmid
  let jactual ← serializeActualDisplay dref
  .ok (.build (displayMembers dref jpedid jmmid jactual))

def displaysRoot (nodes : List Json) : Json :=
  .build [("version", some (.integer 1)), ("all_displays", some (.array nodes))]

def serializeDisplays (allDisplays : List CachedRef) : Exec (List Json) :=
  (allDisplays.filter CachedRef.isWorking).mapM serializeOneDisplay

def ddcSerializeDisplaysAndBuses (dumps : Json → List Byte) (allDisplays : List CachedRef) : Exec (List Byte) := do
  let nodes ← serializeDisplays allDisplays
  .ok (dumps (displaysRoot nodes))

/-! ## Reading -/

def deserializeDpath (jpath : Option Json) : DpathNumbers where
  ioMode := UInt32.ofInt (Json.integerValue (Json.get jpath "io_mode"))
  busnoOrHiddev := Int32.ofInt (Json.integerValue (Json.get jpath "busno_or_hiddev"))

def deserializeVspec (jpath : Option Json) : VersionSpec where
  major := UInt8.ofInt (Json.integerValue (Json.get jpath "major"))
  minor := UInt8.ofInt (Json.integerValue (Json.get jpath "minor"))

def deserializeParsedEdid (jpath : Option Json) : Exec (Option SourcedEdid) :=
  match Json.stringValue (Json.get jpath "bytes") with
  | none => .ok none
  | some sbytes => do
    check (sbytes.val.length = 256)
    match hhsToByteArray sbytes.val with
    | none => .error .assertFailed
    | some hbytes =>
      if hct : hbytes.length = 128 then
        createParsedEdid2 ⟨hbytes, hct⟩ (Json.stringValue (Json.get jpath "edid_source"))
      else .error .assertFailed

def deserializeMmid (jpath : Option Json) : Exec MonitorModelKey :=
  mmkNew (Json.stringValue (Json.get jpath "mfg_id")) (Json.stringValue (Json.get jpath "model_name"))
    (UInt16.ofInt (Json.integerValue (Json.get jpath "product_code")))

def deserializeOneDisplay (dispNode : Json) : Exec CachedRef := do
  let pedid ← deserializeParsedEdid (Json.get dispNode "pedid")
  let mmid ← deserializeMmid (Json.get dispNode "mmid")
  .ok { createBaseDisplayRef (deserializeDpath (Json.get dispNode "io_path")) with
    usbBus := Int32.ofInt (Json.integerValue (Json.get dispNode "usb_bus"))
    usbDevice := Int32.ofInt (Json.integerValue (Json.get dispNode "usb_device"))
    usbHiddevName := Json.stringValue (Json.get dispNode "usb_hiddev_name")
    vcpVersionXdf := deserializeVspec (Json.get dispNode "vcp_version_xdf")
    vcpVersionCmdline := deserializeVspec (Json.get dispNode "vcp_version_cmdline")
    flags := UInt16.ofInt (Json.integerValue (Json.get dispNode "flags"))
    capabilitiesString := Json.stringValue (Json.get dispNode "capabilities_string")
    pedid := pedid
    mmid := some mmid
    dispno := Int32.ofInt (Json.integerValue (Json.get dispNode "dispno"))
    actualDisplayPath := (Json.get dispNode "actual_display_path").map fun jpath => deserializeDpath (some jpath) }

def deserializeNodes : List Json → Exec (Option (List CachedRef))
  | [] => .ok (some [])
  | node :: nodes =>
    if node.isObject then do
      let dref ← deserializeOneDisplay node
      let restored ← deserializeNodes nodes
      .ok (restored.map (dref :: ·))
    else .ok none

inductive SerializeMode where
  | display | bus
  deriving DecidableEq

def ddcDeserializeDisplaysOrBuses (loads : List Byte → Option Json) (jstring : List Byte) (mode : SerializeMode) :
    Exec (List CachedRef) := do
  check (mode = .display)
  match loads jstring with
  | some (.object members) =>
    match members.lookup "version" with
    | some (.integer version) => do
      check (Int32.ofInt version = 1)
      match members.lookup "all_displays" with
      | some (.array dispNodes) => do
        let restored ← deserializeNodes dispNodes
        .ok (restored.getD [])
      | _ => .ok []
    | _ => .ok []
  | _ => .ok []

end Ddc
