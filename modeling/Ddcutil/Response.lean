import Ddcutil.Packet
/-!
# Response — creating and interpreting response packets

The constructors of `ddc_packets.c` for the bytes read from a display: the envelope (`createDdcBaseResponsePacket`),
the null message and the packet type (`createDdcResponsePacket`), and the contents (`createDdcTypedResponsePacket`).
-/
namespace Ddc

open Kit

def assertIffPacket (result : Status) (packet : Option DdcPacket) : Exec (Status × Option DdcPacket) := do
  check (result = ddcrcOk ↔ packet.isSome = true)
  .ok (result, packet)

def createDdcBaseResponsePacket (i2cResponseBytes : List Byte) : Exec (Status × Option DdcPacket) := do
  let b0 ← fetch i2cResponseBytes 0
  if b0 ≠ 0x6e then assertIffPacket ddcrcDdcData none
  else do
    let b1 ← fetch i2cResponseBytes 1
    let dataCt := (b1 &&& 0x7f).toNat
    -- whether the length is a doubled 0x6e only changes the message logged
    if dataCt > maxDdcDataSize then assertIffPacket ddcrcDdcData none
    else do
      let packet := createEmptyDdcPacket (3 + dataCt + 1)
      let type ← typeOf (i2cResponseBytes.drop 2) dataCt
      let buf ← packet.rawBytes.setByte 0 0x6f
      let buf ← buf.setByte 1 0x6e
      let src ← span i2cResponseBytes 1 (1 + dataCt + 1)
      let buf ← buf.setBytes 2 src
      let buf ← buf.setLength (3 + dataCt + 1)
      let calculatedChecksum ← ddcChecksum buf.bytes (3 + dataCt) true
      let actualChecksum ← fetch buf.bytes (3 + dataCt)
      if calculatedChecksum ≠ actualChecksum then assertIffPacket ddcrcDdcData none
      else assertIffPacket ddcrcOk (some { packet with rawBytes := buf, type := type })

def getDataLen (packet : Option DdcPacket) : Nat :=
  match packet with
  | some p => p.rawBytes.len - 4
  | none => 0

def isNullPacket (packet : Option DdcPacket) : Bool := getDataLen packet == 0

/-- The quirk test: the buffer has more than two bytes and the first two are both `0x6e`. -/
def startsWithDoubled (i2cResponseBytes : List Byte) (size : Nat) : Exec Bool :=
  if size > 2 then do
    let b0 ← fetch i2cResponseBytes 0
    if b0 = 0x6e then do
      let b1 ← fetch i2cResponseBytes 1
      .ok (b1 == 0x6e)
    else .ok false
  else .ok false

def checkPacketType (packet : Option DdcPacket) (expectedType : Byte) : Exec Status :=
  if isNullPacket packet then .ok ddcrcNullResponse
  else
    match packet with
    | none => .error .nullDeref
    | some p => do
      let b ← fetch p.rawBytes.bytes 3
      .ok (if b ≠ expectedType then ddcrcDdcData else ddcrcOk)

def createDdcResponsePacket (i2cResponseBytes : List Byte) (responseBytesBufferSize : Nat) (expectedType : Byte) :
    Exec (Status × Option DdcPacket) := do
  let doubled ← startsWithDoubled i2cResponseBytes responseBytesBufferSize
  let base ← createDdcBaseResponsePacket (if doubled then i2cResponseBytes.drop 1 else i2cResponseBytes)
  if base.1 = 0 then do
    let result ← checkPacketType base.2 expectedType
    assertIffPacket result (if result ≠ ddcrcOk then none else base.2)
  else assertIffPacket base.1 none

def interpretMultiPartReadResponse (responseType : Byte) (dataBytes : List Byte) (bytect : Nat) :
    Exec (Status × Option InterpretedMultiPartReadFragment) :=
  if bytect < 3 ∨ bytect > 35 then .ok (ddcrcDdcData, none)
  else do
    let b0 ← fetch dataBytes 0
    check (b0 = responseType)
    let offsetHiByte ← fetch dataBytes 1
    let offsetLoByte ← fetch dataBytes 2
    let readDataLength := bytect - 3
    let bytes ← span dataBytes 3 readDataLength
    if h : bytes.length ≤ maxDdcMultiPartFragmentSize then
      .ok (ddcrcOk, some ⟨responseType, hiLoBytesToShort offsetHiByte offsetLoByte, bytes,
        hiLoBytesToShort_lt _ _, h⟩)
    else .error .assertFailed

def ParsedNontableVcpResponse.zero : ParsedNontableVcpResponse := ⟨0, false, false, 0, 0, 0, 0⟩

def interpretVcpFeatureResponseStd (vcpDataBytes : List Byte) (bytect : Nat) (requestedVcpCode : Byte) :
    Exec (Status × ParsedNontableVcpResponse) :=
  if bytect ≠ 8 then .ok (ddcrcDdcData, .zero)
  else do
    let resultCode ← fetch vcpDataBytes 1
    let vcpOpcode ← fetch vcpDataBytes 2
    let parsed := { ParsedNontableVcpResponse.zero with vcpCode := vcpOpcode }
    if vcpOpcode ≠ requestedVcpCode then .ok (ddcrcDdcData, parsed)
    else if resultCode ≠ 0 then
      if resultCode = 0x01 then .ok (ddcrcOk, { parsed with validResponse := true })
      else .ok (ddcrcDdcData, parsed)
    else do
      let mh ← fetch vcpDataBytes 4
      let ml ← fetch vcpDataBytes 5
      let sh ← fetch vcpDataBytes 6
      let sl ← fetch vcpDataBytes 7
      .ok (ddcrcOk,
        { parsed with validResponse := true, supportedOpcode := true, mh := mh, ml := ml, sh := sh, sl := sl })

def interpretPacketData (packet : DdcPacket) (expectedType expectedSubtype : Byte) : Exec (Status × Option Parsed) :=
  let dataBytes := packet.rawBytes.bytes.drop 3
  let dataLen := getDataLen (some packet)
  if expectedType = ddcPacketTypeCapabilitiesResponse ∨ expectedType = ddcPacketTypeTableReadResponse then do
    let r ← interpretMultiPartReadResponse expectedType dataBytes dataLen
    .ok (r.1, r.2.map .multiPartReadFragment)
  else if expectedType = ddcPacketTypeQueryVcpResponse then do
    let r ← interpretVcpFeatureResponseStd dataBytes dataLen expectedSubtype
    .ok (r.1, some (.nontableResponse r.2))
  else .ok (ddcrcInternalError, none)

def createDdcTypedResponsePacket (i2cResponseBytes : List Byte) (responseBytesBufferSize : Nat)
    (expectedType expectedSubtype : Byte) : Exec (Status × Option DdcPacket) := do
  let r ← createDdcResponsePacket i2cResponseBytes responseBytesBufferSize expectedType
  if r.1 = 0 then
    match r.2 with
    | none => .error .assertFailed
    | some packet => do
      let parsed ← interpretPacketData packet expectedType expectedSubtype
      assertIffPacket parsed.1 (if parsed.1 ≠ ddcrcOk then none else some { packet with parsed := parsed.2 })
  else assertIffPacket r.1 none

end Ddc
