import Ddcutil.Packet
import Ddcutil.WriteOnly
/-!
# SetVcp — setting a feature value and reading it back

The getters and setters of `ddc_vcp.c`.  A display is what its successive operations return: the status of each write
of a packet, what each `ddc_write_read_with_retry` for a VCP reply gives, and what the multi part functions give for
table values.
-/
namespace Ddc

open Kit

inductive IoMode where
  | i2c | usb
  deriving DecidableEq, Repr

inductive VcpValue where
  | cNc (mh ml sh sl : Byte)
  | t (bytes : List Byte)
  deriving DecidableEq, Repr

structure AnyVcpValue where
  opcode : Byte
  val : VcpValue
  deriving DecidableEq, Repr

/-- A display handle: `featureReadable` is whether the feature's metadata have `DDCA_READABLE`, `none` where
`dyn_get_feature_metadata_by_dh` finds none; the flag is `DREF_DDC_USES_MH_ML_SH_SL_ZERO_FOR_UNSUPPORTED`. -/
structure DisplayHandle where
  ioMode : IoMode
  featureReadable : Byte → Option Bool
  usesZeroForUnsupported : Bool

structure VcpSettings where
  altSourceAddr : Byte
  verifySetvcp : Bool
  maxSetvcpVerifyTries : Int
  maxWriteOnlyTries : MaxTries

structure VcpDisplay where
  write : Nat → Status
  read : Nat → Except ErrorInfo ParsedNontableVcpResponse
  tableWrite : Nat → Option ErrorInfo
  tableRead : Nat → Except ErrorInfo (List Byte)

inductive VcpEvent where
  | wrote (opcode : Byte) (val : VcpValue)
  | read (opcode : Byte) (result : Option AnyVcpValue)
  deriving DecidableEq, Repr

structure VcpIo where
  writes : Nat
  reads : Nat
  tableWrites : Nat
  tableReads : Nat
  events : List VcpEvent

def VcpIo.start : VcpIo := ⟨0, 0, 0, 0, []⟩

/-! ## Reading a feature -/

def valueBytesZero (r : ParsedNontableVcpResponse) : Bool := r.mh == 0 && r.ml == 0 && r.sh == 0 && r.sl == 0

def checkNontableReply (dh : DisplayHandle) (r : ParsedNontableVcpResponse) : Except ErrorInfo ParsedNontableVcpResponse :=
  let errinfo (psc : Status) (detail : String) : ErrorInfo := ⟨psc, "ddc_get_nontable_vcp_value", some detail, []⟩
  if !r.validResponse then .error (errinfo ddcrcDdcData "Invalid getvcp response")
  else if !r.supportedOpcode then .error (errinfo ddcrcReportedUnsupported "Unsupported feature")
  else if valueBytesZero r && dh.usesZeroForUnsupported then
    .error (errinfo ddcrcDeterminedUnsupported "MH=ML=SH=SL=0")
  else .ok r

def ddcGetNontableVcpValue (dh : DisplayHandle) (d : VcpDisplay) (io : VcpIo) (featureCode : Byte) :
    Exec (Except ErrorInfo ParsedNontableVcpResponse × VcpIo) := do
  let _ ← createDdcGetvcpRequestPacket featureCode
  .ok (d.read io.reads >>= checkNontableReply dh, { io with reads := io.reads + 1 })

def ddcGetTableVcpValue (d : VcpDisplay) (io : VcpIo) : Except ErrorInfo (List Byte) × VcpIo :=
  let io' := { io with tableReads := io.tableReads + 1 }
  match d.tableRead io.tableReads with
  | .ok bytes => (.ok bytes, io')
  | .error e =>
    if e.statusCode = ddcrcNullResponse ∨ e.statusCode = ddcrcAllResponsesNull then
      (.error ⟨ddcrcDeterminedUnsupported, "ddc_get_table_vcp_value", some "DDC NULL Message", [e]⟩, io')
    else (.error e, io')

def getVcpValue (dh : DisplayHandle) (d : VcpDisplay) (io : VcpIo) (featureCode : Byte) (like : VcpValue) :
    Exec (Except ErrorInfo VcpValue × VcpIo) :=
  match dh.ioMode, like with
  | .usb, .cNc .. =>
    .ok (match d.read io.reads with
      | .ok r => .ok (.cNc r.mh r.ml r.sh r.sl)
      | .error e => .error (errinfoNew e.statusCode "ddc_get_vcp_value"), { io with reads := io.reads + 1 })
  | .usb, .t _ =>
    .ok (.error ⟨ddcrcUnimplemented, "ddc_get_vcp_value", some "Table features not supported for USB connection", []⟩, io)
  | .i2c, .cNc .. => do
    let r ← ddcGetNontableVcpValue dh d io featureCode
    .ok (r.1.map fun p => .cNc p.mh p.ml p.sh p.sl, r.2)
  | .i2c, .t _ =>
    let r := ddcGetTableVcpValue d io
    .ok (r.1.map .t, r.2)

def ddcGetVcpValue (dh : DisplayHandle) (d : VcpDisplay) (io : VcpIo) (featureCode : Byte) (like : VcpValue) :
    Exec (Except ErrorInfo AnyVcpValue × VcpIo) := do
  let r ← getVcpValue dh d io featureCode like
  let valrec := r.1.map fun v => (⟨featureCode, v⟩ : AnyVcpValue)
  .ok (valrec, { r.2 with events := r.2.events ++ [.read featureCode valrec.toOption] })

def isRereadableFeature (dh : DisplayHandle) (opcode : Byte) : Bool :=
  if [0x02, 0x03, 0x60].contains opcode then false
  else
    match dh.featureReadable opcode with
    | some readable => readable
    | none => true

def isUnreadableSlValue (opcode slValue : Byte) : Bool := opcode == 0xd6 && slValue == 5

def isVerifiable (dh : DisplayHandle) (vrec : AnyVcpValue) : Bool :=
  isRereadableFeature dh vrec.opcode &&
    match vrec.val with
    | .cNc _ _ _ sl => !isUnreadableSlValue vrec.opcode sl
    | .t _ => true

def singleVcpValueEqual (vrec1 vrec2 : AnyVcpValue) : Bool :=
  vrec1.opcode == vrec2.opcode &&
    match vrec1.val, vrec2.val with
    | .cNc _ _ _ sl1, .cNc _ _ _ sl2 => sl1 == sl2
    | .t bytes1, .t bytes2 => bytes1 == bytes2
    | _, _ => false

/-! ## Setting a feature -/

def ddcSetNontableVcpValue (st : VcpSettings) (dh : DisplayHandle) (d : VcpDisplay) (io : VcpIo) (featureCode : Byte)
    (newValue : Nat) : Exec (Option ErrorInfo × VcpIo) :=
  match dh.ioMode with
  | .usb => .ok (none, { io with writes := io.writes + 1 })
  | .i2c => do
    let _ ← createDdcSetvcpRequestPacket st.altSourceAddr featureCode newValue
    let r ← ddcWriteOnlyWithRetry d.write st.maxWriteOnlyTries io.writes
    .ok (r.1, { io with writes := r.2 })

def setTableVcpValue (dh : DisplayHandle) (d : VcpDisplay) (io : VcpIo) : Option ErrorInfo × VcpIo :=
  match dh.ioMode with
  | .usb => (some ⟨ddcrcUnimplemented, "set_table_vcp_value", some "Error setting feature value", []⟩, io)
  | .i2c => (d.tableWrite io.tableWrites, { io with tableWrites := io.tableWrites + 1 })

def setVcpValue (st : VcpSettings) (dh : DisplayHandle) (d : VcpDisplay) (io : VcpIo) (vrec : AnyVcpValue) :
    Exec (Option ErrorInfo × VcpIo) := do
  let r ← match vrec.val with
    | .cNc _ _ sh sl => ddcSetNontableVcpValue st dh d io vrec.opcode (hiLoBytesToShort sh sl)
    | .t _ => .ok (setTableVcpValue dh d io)
  .ok (r.1, { r.2 with events := r.2.events ++ [.wrote vrec.opcode vrec.val] })

structure SetResult where
  excp : Option ErrorInfo
  newval : Option AnyVcpValue
  io : VcpIo

def ddcSetVcpValue (st : VcpSettings) (dh : DisplayHandle) (d : VcpDisplay) (io : VcpIo) (vrec : AnyVcpValue)
    (wantNew : Bool) : Exec SetResult := do
  let w ← setVcpValue st dh d io vrec
  if w.1.isNone && st.verifySetvcp && isVerifiable dh vrec then do
    let r ← ddcGetVcpValue dh d w.2 vrec.opcode vrec.val
    match r.1 with
    | .error e => .ok ⟨some e, none, r.2⟩
    | .ok newval =>
      let excp :=
        if singleVcpValueEqual vrec newval then none
        else some ⟨ddcrcVerify, "ddc_set_vcp_value", some "Current value does not match value set", []⟩
      .ok ⟨excp, if wantNew then some newval else none, r.2⟩
  else .ok ⟨w.1, none, w.2⟩

structure VerifyTries where
  erec : Option ErrorInfo
  done : Bool
  failures : List ErrorInfo
  io : VcpIo

def verifyTry (st : VcpSettings) (dh : DisplayHandle) (d : VcpDisplay) (vrec : AnyVcpValue) (s : VerifyTries) :
    Exec VerifyTries := do
  let r ← setVcpValue st dh d s.io vrec
  match r.1 with
  | none => .ok ⟨none, true, s.failures, r.2⟩
  | some e =>
    if e.statusCode ≠ ddcrcVerify then .ok ⟨some e, true, s.failures, r.2⟩
    else .ok ⟨some e, false, s.failures ++ [e], r.2⟩

def ddcSetVerifiedVcpValueWithRetry (st : VcpSettings) (dh : DisplayHandle) (d : VcpDisplay) (io : VcpIo)
    (vrec : AnyVcpValue) (wantNew : Bool) : Exec SetResult :=
  match vrec.val with
  | .cNc .. =>
    if st.verifySetvcp && isVerifiable dh vrec then do
      -- the setter called in the loop is ddc_set_nontable_vcp_value, which does not read the value back
      let s ← forWhile (fun s => !s.done) (verifyTry st dh d vrec) st.maxSetvcpVerifyTries.toNat ⟨none, false, [], io⟩
      let erec :=
        if errinfoStatus s.erec = ddcrcVerify then
          some ⟨ddcrcVerify, "ddc_set_verified_vcp_value_with_retry",
            some s!"Maximum setvcp verification failures ({st.maxSetvcpVerifyTries})", s.failures⟩
        else s.erec
      .ok ⟨erec, none, s.io⟩
    else ddcSetVcpValue st dh d io vrec wantNew
  | .t _ => ddcSetVcpValue st dh d io vrec wantNew

end Ddc
