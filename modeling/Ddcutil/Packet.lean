import Ddcutil.Buffer
/-!
# Packet — DDC packets and the request builders

`ddc_packets.c`: the packet record, the checksum and the functions that build a request, under the source's names.  A
request packet is `0x6e`, the source address, a length byte, the data and the XOR of all of these (`requestBytes`);
its data start at byte 3.
-/
namespace Ddc

open Kit List Exec

def ddcPacketTypeNone : Byte := 0x00
def ddcPacketTypeQueryVcpRequest : Byte := 0x01
def ddcPacketTypeQueryVcpResponse : Byte := 0x02
def ddcPacketTypeSetVcpRequest : Byte := 0x03
def ddcPacketTypeCapabilitiesRequest : Byte := 0xf3
def ddcPacketTypeCapabilitiesResponse : Byte := 0xe3
def ddcPacketTypeTableReadRequest : Byte := 0xe2
def ddcPacketTypeTableReadResponse : Byte := 0xe4
def ddcPacketTypeTableWriteRequest : Byte := 0xe7

def maxDdcMultiPartFragmentSize : Nat := 32
def maxDdcDataSize : Nat := 35
def maxDdcPacketSize : Nat := 39

structure ParsedNontableVcpResponse where
  vcpCode : Byte
  validResponse : Bool
  supportedOpcode : Bool
  mh : Byte
  ml : Byte
  sh : Byte
  sl : Byte
  deriving DecidableEq, Repr

structure InterpretedMultiPartReadFragment where
  fragmentType : Byte
  fragmentOffset : Nat
  bytes : List Byte
  hofs : fragmentOffset < 65536
  hlen : bytes.length ≤ maxDdcMultiPartFragmentSize
  deriving DecidableEq

def InterpretedMultiPartReadFragment.fragmentLength (f : InterpretedMultiPartReadFragment) : Nat := f.bytes.length

inductive Parsed where
  | nontableResponse (r : ParsedNontableVcpResponse)
  | multiPartReadFragment (f : InterpretedMultiPartReadFragment)
  deriving DecidableEq

structure DdcPacket where
  rawBytes : Buffer
  type : Byte
  parsed : Option Parsed

def ddcChecksum (bytes : List Byte) (len : Nat) (altmode : Bool) : Exec Byte := do
  check (len ≥ 1)
  let first ← fetch bytes 0
  let rest ← span bytes 1 (len - 1)
  .ok (rest.foldl (· ^^^ ·) (if altmode then 0x50 else first))

def hiLoBytesToShort (hi lo : Byte) : Nat := hi.toNat <<< 8 ||| lo.toNat

theorem ddcChecksum_cons (b : Byte) (rest tail : List Byte) (altmode : Bool) :
    ddcChecksum (b :: (rest ++ tail)) (rest.length + 1) altmode =
      .ok (rest.foldl (· ^^^ ·) (if altmode then 0x50 else b)) := by
  unfold ddcChecksum
  rw [check_pos (by omega), fetch_of_lt (by simp), span_of_le (by simp only [length_cons, length_append]; omega)]
  simp

theorem hiLoBytesToShort_eq (hi lo : Byte) : hiLoBytesToShort hi lo = 256 * hi.toNat + lo.toNat := by
  have hlo : lo.toNat < 2 ^ 8 := lo.toNat_lt
  rw [hiLoBytesToShort, ← Nat.shiftLeft_add_eq_or_of_lt hlo, Nat.shiftLeft_eq]; omega

theorem hiLoBytesToShort_lt (hi lo : Byte) : hiLoBytesToShort hi lo < 65536 := by
  have hhi : hi.toNat < 256 := hi.toNat_lt
  have hlo : lo.toNat < 256 := lo.toNat_lt
  rw [hiLoBytesToShort_eq]; omega

theorem toNat_ofNat_and (n : Nat) : (UInt8.ofNat (n &&& 0xff)).toNat = n % 256 := by
  have h : n &&& 0xff = n % 256 := Nat.and_two_pow_sub_one_eq_mod n 8
  rw [h, UInt8.toNat_ofNat']; omega

theorem hiLoBytesToShort_split {n : Nat} (h : n < 65536) :
    hiLoBytesToShort (UInt8.ofNat ((n >>> 8) &&& 0xff)) (UInt8.ofNat (n &&& 0xff)) = n := by
  rw [hiLoBytesToShort_eq, toNat_ofNat_and, toNat_ofNat_and, Nat.shiftRight_eq_div_pow]; omega

/-! ## Building requests -/

def createEmptyDdcPacket (maxSize : Nat) : DdcPacket := ⟨Buffer.new maxSize, ddcPacketTypeNone, none⟩

def typeOf (dataBytes : List Byte) (dataBytect : Nat) : Exec Byte :=
  if dataBytect > 0 then fetch dataBytes 0 else .ok 0x00

def createDdcBaseRequestPacket (sourceAddr : Byte) (dataBytes : List Byte) (dataBytect : Nat) : Exec DdcPacket := do
  check (dataBytect ≤ 32)
  let packet := createEmptyDdcPacket (3 + dataBytect + 1)
  let buf ← packet.rawBytes.setByte 0 0x6e
  let buf ← buf.setByte 1 sourceAddr
  let buf ← buf.setByte 2 (UInt8.ofNat (dataBytect ||| 0x80))
  let data ← span dataBytes 0 dataBytect
  let buf ← buf.setBytes 3 data
  let packetSizeWoChecksum := 3 + dataBytect
  let checksum ← ddcChecksum buf.bytes packetSizeWoChecksum false
  let buf ← buf.setByte packetSizeWoChecksum checksum
  let buf ← buf.setLength (3 + dataBytect + 1)
  let type ← typeOf dataBytes dataBytect
  .ok { packet with rawBytes := buf, type := type }

def createDdcMultiPartReadRequestPacket (requestType requestSubtype : Byte) (offset : Nat) : Exec DdcPacket := do
  check (requestType = ddcPacketTypeCapabilitiesRequest ∨ requestType = ddcPacketTypeTableReadRequest)
  let ofsHiByte := UInt8.ofNat ((offset >>> 16) &&& 0xff)
  let ofsLoByte := UInt8.ofNat (offset &&& 0xff)
  if requestType = ddcPacketTypeCapabilitiesRequest then
    createDdcBaseRequestPacket 0x51 [ddcPacketTypeCapabilitiesRequest, ofsHiByte, ofsLoByte] 3
  else
    createDdcBaseRequestPacket 0x51 [ddcPacketTypeTableReadRequest, requestSubtype, ofsHiByte, ofsLoByte] 4

def updateDdcMultiPartReadRequestPacketOffset (packet : DdcPacket) (newOffset : Nat) : Exec DdcPacket := do
  check (packet.type = ddcPacketTypeCapabilitiesRequest ∨ packet.type = ddcPacketTypeTableReadRequest)
  let ofsHiByte := UInt8.ofNat ((newOffset >>> 8) &&& 0xff)
  let ofsLoByte := UInt8.ofNat (newOffset &&& 0xff)
  let pos := if packet.type = ddcPacketTypeCapabilitiesRequest then 1 else 2
  let buf ← packet.rawBytes.poke (3 + pos) ofsHiByte
  let buf ← buf.poke (3 + pos + 1) ofsLoByte
  let packetSizeWoChecksum := buf.len - 1
  let checksum ← ddcChecksum buf.bytes packetSizeWoChecksum false
  let buf ← buf.poke packetSizeWoChecksum checksum
  .ok { packet with rawBytes := buf }

def createDdcMultiPartWriteRequestPacket (requestType requestSubtype : Byte) (offset : Nat)
    (bytesToWrite : List Byte) (bytect : Nat) : Exec DdcPacket := do
  check (requestType = ddcPacketTypeTableWriteRequest)
  check (bytect + 4 ≤ 35)
  let ofsHiByte := UInt8.ofNat ((offset >>> 16) &&& 0xff)
  let ofsLoByte := UInt8.ofNat (offset &&& 0xff)
  let dataBytes :=
    [ddcPacketTypeTableWriteRequest, requestSubtype, ofsHiByte, ofsLoByte] ++ List.replicate 36 0
  let src ← span bytesToWrite 0 bytect
  let dataBytes ← blit dataBytes 4 src
  createDdcBaseRequestPacket 0x51 dataBytes (4 + bytect)

def createDdcGetvcpRequestPacket (vcpCode : Byte) : Exec DdcPacket :=
  createDdcBaseRequestPacket 0x51 [ddcPacketTypeQueryVcpRequest, vcpCode] 2

def createDdcSetvcpRequestPacket (altSourceAddr vcpCode : Byte) (newValue : Nat) : Exec DdcPacket :=
  let sourceAddr : Byte := if altSourceAddr ≠ 0 then altSourceAddr else 0x51
  createDdcBaseRequestPacket sourceAddr
    [ddcPacketTypeSetVcpRequest, vcpCode, UInt8.ofNat ((newValue >>> 8) &&& 0xff), UInt8.ofNat (newValue &&& 0xff)] 4

/-! ## What a built request holds -/

def requestBytes (sourceAddr : Byte) (data : List Byte) : List Byte :=
  let body := sourceAddr :: UInt8.ofNat (data.length ||| 0x80) :: data
  0x6e :: (body ++ [body.foldl (· ^^^ ·) 0x6e])

/-- **The packet is a request that carries `data`**, with the packet type its first byte. -/
structure Carries (packet : DdcPacket) (sourceAddr : Byte) (data : List Byte) : Prop where
  contents : packet.rawBytes.contents = requestBytes sourceAddr data
  type : packet.type = data.headD 0x00

theorem replicate_three (n : Nat) (a b c : Byte) :
    (((List.replicate (n + 3) 0).set 0 a).set 1 b).set 2 c = a :: b :: c :: List.replicate n 0 := by
  simp [replicate_succ]

theorem overwrite_three (a b c : Byte) (data : List Byte) (n : Nat) :
    overwrite (a :: b :: c :: List.replicate (data.length + n) 0) 3 data = a :: b :: c :: (data ++ List.replicate n 0) := by
  simp [overwrite, Nat.add_comm 3]

theorem take_set_after (a : Byte) (body rest : List Byte) (x : Byte) {n k : Nat} (hk : k = body.length + 1)
    (hn : n = body.length + 2) (hrest : rest ≠ []) : ((a :: (body ++ rest)).set k x).take n = a :: (body ++ [x]) := by
  subst hk hn
  cases rest with
  | nil => exact absurd rfl hrest
  | cons r rs =>
    rw [set_cons_succ, set_append_right _ _ (Nat.le_refl _), Nat.sub_self, set_cons_zero, take_succ_cons,
      take_append, take_of_length_le (Nat.le_succ _)]
    simp

/-- **`create_ddc_base_request_packet` makes the packet that carries the data**, of at most 32 bytes. -/
theorem createDdcBaseRequestPacket_ok (src : Byte) (data tail : List Byte) (h : data.length ≤ 32) :
    ∃ p, createDdcBaseRequestPacket src (data ++ tail) data.length = .ok p ∧ Carries p src data := by
  obtain ⟨b1, h1, e1, l1, s1⟩ := Buffer.setByte_of_lt (b := Buffer.new (3 + data.length + 1)) (i := 0) (x := 0x6e)
    (by rw [Buffer.new_bufferSize]; omega)
  rw [Buffer.new_bufferSize] at s1
  obtain ⟨b2, h2, e2, l2, s2⟩ := Buffer.setByte_of_lt (b := b1) (i := 1) (x := src) (by omega)
  obtain ⟨b3, h3, e3, l3, s3⟩ := Buffer.setByte_of_lt (b := b2) (i := 2) (x := UInt8.ofNat (data.length ||| 0x80))
    (by omega)
  obtain ⟨b4, h4, e4, l4, s4⟩ := Buffer.setBytes_of_le (b := b3) (i := 3) (l := data) (by omega)
  have hb4 : b4.bytes = 0x6e :: ((src :: UInt8.ofNat (data.length ||| 0x80) :: data) ++ List.replicate 17 0) := by
    have hnew : (Buffer.new (3 + data.length + 1)).bytes = List.replicate (data.length + 17 + 3) 0 :=
      congrArg (List.replicate · 0) (by omega)
    rw [e4, e3, e2, e1, hnew, replicate_three, overwrite_three]; rfl
  have hck : ddcChecksum b4.bytes (3 + data.length) false =
      .ok ((src :: UInt8.ofNat (data.length ||| 0x80) :: data).foldl (· ^^^ ·) 0x6e) := by
    have := ddcChecksum_cons 0x6e (src :: UInt8.ofNat (data.length ||| 0x80) :: data) (List.replicate 17 0) false
    rw [← hb4] at this
    rw [show 3 + data.length = (src :: UInt8.ofNat (data.length ||| 0x80) :: data).length + 1 by
      simp only [length_cons]; omega]
    exact this
  obtain ⟨b5, h5, e5, l5, s5⟩ := Buffer.setByte_of_lt (b := b4) (i := 3 + data.length)
    (x := (src :: UInt8.ofNat (data.length ||| 0x80) :: data).foldl (· ^^^ ·) 0x6e) (by omega)
  obtain ⟨b6, h6, e6, l6, s6, -⟩ := Buffer.setLength_of_le (b := b5) (n := 3 + data.length + 1) (by omega)
  have htype : typeOf (data ++ tail) data.length = .ok (data.headD 0x00) := by
    cases data with
    | nil | cons d ds => rfl
  refine ⟨⟨b6, data.headD 0x00, none⟩, ?_, ?_, rfl⟩
  · simp only [createDdcBaseRequestPacket, createEmptyDdcPacket]
    rw [check_pos h, ok_bind, h1, ok_bind, h2, ok_bind, h3, ok_bind,
      span_of_le (by simp), ok_bind, drop_zero, take_left, h4, ok_bind, hck, ok_bind, h5,
      ok_bind, h6, ok_bind, htype, ok_bind]
  · rw [Buffer.contents, l6, e6, e5, hb4]
    exact take_set_after _ _ _ _ (by simp only [length_cons]; omega) (by simp only [length_cons]; omega)
      (by simp)

def readRequestData (requestType requestSubtype : Byte) (hi lo : Byte) : List Byte :=
  if requestType = ddcPacketTypeCapabilitiesRequest then [requestType, hi, lo]
  else [requestType, requestSubtype, hi, lo]

theorem createDdcMultiPartReadRequestPacket_ok (t sub : Byte)
    (ht : t = ddcPacketTypeCapabilitiesRequest ∨ t = ddcPacketTypeTableReadRequest) :
    ∃ p, createDdcMultiPartReadRequestPacket t sub 0 = .ok p ∧ Carries p 0x51 (readRequestData t sub 0 0) := by
  rcases ht with rfl | rfl
  · exact createDdcBaseRequestPacket_ok 0x51 [ddcPacketTypeCapabilitiesRequest, 0, 0] [] (by decide)
  · exact createDdcBaseRequestPacket_ok 0x51 [ddcPacketTypeTableReadRequest, sub, 0, 0] [] (by simp)

/-- **`create_ddc_multi_part_write_request_packet` carries the feature code, bits 16 to 23 and 0 to 7 of the offset,
and the payload**, of at most 28 bytes. -/
theorem createDdcMultiPartWriteRequestPacket_ok (sub : Byte) (offset : Nat) (src : List Byte) (n : Nat) (hn : n ≤ 28)
    (hsrc : n ≤ src.length) :
    ∃ p, createDdcMultiPartWriteRequestPacket ddcPacketTypeTableWriteRequest sub offset src n = .ok p ∧
      Carries p 0x51 (ddcPacketTypeTableWriteRequest :: sub :: UInt8.ofNat ((offset >>> 16) &&& 0xff) ::
        UInt8.ofNat (offset &&& 0xff) :: src.take n) := by
  have hlen : (src.take n).length = n := length_take_of_le hsrc
  obtain ⟨p, hp, hc⟩ := createDdcBaseRequestPacket_ok 0x51
    (ddcPacketTypeTableWriteRequest :: sub :: UInt8.ofNat ((offset >>> 16) &&& 0xff) ::
        UInt8.ofNat (offset &&& 0xff) :: src.take n) (List.replicate (36 - n) 0)
    (by simp only [length_cons, hlen]; omega)
  have hblit : overwrite ([ddcPacketTypeTableWriteRequest, sub, UInt8.ofNat ((offset >>> 16) &&& 0xff),
        UInt8.ofNat (offset &&& 0xff)] ++ List.replicate 36 0) 4 (src.take n) =
      (ddcPacketTypeTableWriteRequest :: sub :: UInt8.ofNat ((offset >>> 16) &&& 0xff) ::
        UInt8.ofNat (offset &&& 0xff) :: src.take n) ++ List.replicate (36 - n) 0 := by
    rw [overwrite, hlen, drop_append, drop_of_length_le (by simp), drop_replicate]; simp
  refine ⟨p, ?_, hc⟩
  unfold createDdcMultiPartWriteRequestPacket
  rw [check_pos rfl, ok_bind, check_pos (by omega), ok_bind, span_of_le (by omega), ok_bind,
    drop_zero, blit_of_le (by simp [hlen]; omega), ok_bind, hblit]
  simp only [length_cons, hlen] at hp
  rwa [show n + 1 + 1 + 1 + 1 = 4 + n by omega] at hp

/-! ## Moving the offset of a read request -/

theorem contents_set {b b' : Buffer} {i : Nat} {x : Byte} (hb : b'.bytes = b.bytes.set i x) (hl : b'.len = b.len) :
    b'.contents = b.contents.set i x := by
  rw [Buffer.contents, Buffer.contents, hb, hl, take_set]

theorem ddcChecksum_contents (b : Buffer) {n : Nat} (h1 : 1 ≤ n) (h2 : n ≤ b.len) (alt : Bool) :
    ddcChecksum b.bytes n alt = ddcChecksum b.contents n alt := by
  have h3 := Buffer.length_contents b
  have h4 := Nat.le_trans b.hlen b.hsize
  unfold ddcChecksum
  rw [fetch_of_lt (m := b.bytes) (i := 0) (by omega), fetch_of_lt (m := b.contents) (i := 0) (by omega),
    span_of_le (by omega), span_of_le (by omega)]
  simp only [Buffer.contents, getElem_take, drop_take, take_take]
  rw [Nat.min_eq_left (by omega)]

theorem poke_offset {b : Buffer} {k m : Nat} {c : List Byte} {cs : Byte} (hi lo : Byte) (hc : b.contents = c)
    (hlen : c.length = m + 1) (hk : k + 1 < m) (hcs : ddcChecksum ((c.set k hi).set (k + 1) lo) m false = .ok cs) :
    ∃ b1 b2 b3, b.poke k hi = .ok b1 ∧ b1.poke (k + 1) lo = .ok b2 ∧ b2.len - 1 = m ∧
      ddcChecksum b2.bytes m false = .ok cs ∧ b2.poke m cs = .ok b3 ∧
      b3.contents = ((c.set k hi).set (k + 1) lo).set m cs := by
  have hb : b.len = m + 1 := by rw [← Buffer.length_contents, hc, hlen]
  have h4 := Nat.le_trans b.hlen b.hsize
  obtain ⟨b1, h1, e1, l1, s1⟩ := Buffer.poke_of_lt (b := b) (i := k) (x := hi) (by omega)
  have h5 := Nat.le_trans b1.hlen b1.hsize
  obtain ⟨b2, h2, e2, l2, s2⟩ := Buffer.poke_of_lt (b := b1) (i := k + 1) (x := lo) (by omega)
  have h6 := Nat.le_trans b2.hlen b2.hsize
  obtain ⟨b3, h3, e3, l3, s3⟩ := Buffer.poke_of_lt (b := b2) (i := m) (x := cs) (by omega)
  have hc2 : b2.contents = (c.set k hi).set (k + 1) lo := by rw [contents_set e2 l2, contents_set e1 l1, hc]
  refine ⟨b1, b2, b3, h1, h2, by omega, ?_, h3, ?_⟩
  · rw [ddcChecksum_contents b2 (by omega) (by omega), hc2, hcs]
  · rw [contents_set e3 l3, hc2]

/-- **`update_ddc_multi_part_read_request_packet_offset` makes a read request carry the new offset**, high byte
first. -/
theorem updateDdcMultiPartReadRequestPacketOffset_ok {p : DdcPacket} {t sub hi lo : Byte} (n : Nat)
    (ht : t = ddcPacketTypeCapabilitiesRequest ∨ t = ddcPacketTypeTableReadRequest)
    (hp : Carries p 0x51 (readRequestData t sub hi lo)) :
    ∃ p', updateDdcMultiPartReadRequestPacketOffset p n = .ok p' ∧
      Carries p' 0x51 (readRequestData t sub (UInt8.ofNat ((n >>> 8) &&& 0xff)) (UInt8.ofNat (n &&& 0xff))) := by
  unfold updateDdcMultiPartReadRequestPacketOffset
  generalize UInt8.ofNat ((n >>> 8) &&& 0xff) = hi'
  generalize UInt8.ofNat (n &&& 0xff) = lo'
  obtain ⟨hbuf, htype⟩ := hp
  rcases ht with rfl | rfl
  · have ht : p.type = ddcPacketTypeCapabilitiesRequest := htype
    obtain ⟨b1, b2, b3, h1, h2, hl, hck, h3, hc⟩ := poke_offset (k := 4) (m := 6) hi' lo' hbuf rfl
      (by omega) rfl
    refine ⟨{ p with rawBytes := b3 }, ?_, ?_, htype⟩
    · rw [check_pos (.inl ht), ok_bind]
      simp only [if_pos ht, h1, h2, hl, hck, h3, ok_bind]
    · exact hc
  · have ht : p.type = ddcPacketTypeTableReadRequest := htype
    have hne : ¬ p.type = ddcPacketTypeCapabilitiesRequest := by rw [ht]; decide
    obtain ⟨b1, b2, b3, h1, h2, hl, hck, h3, hc⟩ := poke_offset (k := 5) (m := 7) hi' lo' hbuf rfl
      (by omega) rfl
    refine ⟨{ p with rawBytes := b3 }, ?_, ?_, htype⟩
    · rw [check_pos (.inr ht), ok_bind]
      simp only [if_neg hne, h1, h2, hl, hck, h3, ok_bind]
    · exact hc

end Ddc
