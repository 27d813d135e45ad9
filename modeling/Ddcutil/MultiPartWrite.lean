import Ddcutil.Packet
import Ddcutil.Kit.Segments
/-!
# MultiPartWrite — writing a table value in fragments

`try_multi_part_write` of `ddc_multi_part_io.c`.  What `ddc_write_only_with_retry` returns for the `k`th packet of the
call is `write k`; the packets passed to it are kept in order.
-/
namespace Ddc

open Kit List

def writeFragments (write : Nat → Option ErrorInfo) (vcpCode : Byte) (valueToSet : Buffer) :
    Nat → Nat → Nat → List DdcPacket → Exec (Option ErrorInfo × List DdcPacket)
  | 0, _, _, _ => .error .outOfFuel
  | fuel + 1, offset, bytesRemaining, sent => do
    let maxFragmentSize := 32 - 4
    let bytectToWrite := if bytesRemaining ≤ maxFragmentSize then bytesRemaining else maxFragmentSize
    let request ← createDdcMultiPartWriteRequestPacket ddcPacketTypeTableWriteRequest vcpCode offset
      (valueToSet.bytes.drop offset) bytectToWrite
    let sent' := sent ++ [request]
    match write sent.length with
    | some ddcExcp => .ok (some ddcExcp, sent')
    | none =>
      if bytectToWrite = 0 then .ok (none, sent')
      else writeFragments write vcpCode valueToSet fuel (offset + bytectToWrite) (bytesRemaining - bytectToWrite) sent'

def tryMultiPartWrite (write : Nat → Option ErrorInfo) (vcpCode : Byte) (valueToSet : Buffer) :
    Exec (Option ErrorInfo × List DdcPacket) :=
  writeFragments write vcpCode valueToSet (valueToSet.len + 1) 0 valueToSet.len []

def packetData (p : DdcPacket) : List Byte := (p.rawBytes.contents.drop 3).dropLast

/-- **The segment a packet announces**: the big endian offset in data bytes 2 and 3, and the bytes after it. -/
def segment (p : DdcPacket) : Nat × List Byte :=
  (hiLoBytesToShort ((packetData p).getD 2 0) ((packetData p).getD 3 0), (packetData p).drop 4)

/-- The offset as `create_ddc_multi_part_write_request_packet` encodes it: bits 16 to 23 for the high byte. -/
def encodedOffset (offset : Nat) : Nat := 256 * (offset / 65536 % 256) + offset % 256

theorem packetData_of_carries {p : DdcPacket} {src : Byte} {data : List Byte} (h : Carries p src data) :
    packetData p = data := by
  rw [packetData, h.contents, requestBytes]; exact dropLast_concat

theorem encodedOffset_eq (offset : Nat) :
    hiLoBytesToShort (UInt8.ofNat ((offset >>> 16) &&& 0xff)) (UInt8.ofNat (offset &&& 0xff)) = encodedOffset offset := by
  rw [hiLoBytesToShort_eq, toNat_ofNat_and, toNat_ofNat_and, Nat.shiftRight_eq_div_pow]; rfl

theorem encodedOffset_eq_self_iff (offset : Nat) : encodedOffset offset = offset ↔ offset ≤ 255 := by
  have hhi : offset / 65536 % 256 ≤ offset / 65536 := Nat.mod_le _ _
  unfold encodedOffset; omega

/-! ## A run in which every write succeeds -/

/-- **The run lemma**: from `offset` on, the packets are the segments of the rest of the value, each under its encoded
offset. -/
theorem writeFragments_sends (code : Byte) (value : Buffer) :
    ∀ (fuel offset rem : Nat) (sent : List DdcPacket), offset + rem = value.len → rem < fuel →
      ∃ new segs, writeFragments (fun _ => none) code value fuel offset rem sent = .ok (none, sent ++ new) ∧
        Sends offset (value.contents.drop offset) segs ∧
        new.map segment = segs.map fun s => (encodedOffset s.1, s.2)
  | 0, _, _, _, _, h => absurd h (Nat.not_lt_zero _)
  | fuel + 1, offset, rem, sent, hlen, hfuel => by
    have hcl := value.length_contents
    have hbytes := Nat.le_trans value.hlen value.hsize
    obtain ⟨n, hn⟩ : ∃ n, n = if rem ≤ 32 - 4 then rem else 32 - 4 := ⟨_, rfl⟩
    have hn28 : n ≤ 28 := by rw [hn]; split <;> omega
    have hnrem : n ≤ rem := by rw [hn]; split <;> omega
    obtain ⟨p, hp, hcar⟩ := createDdcMultiPartWriteRequestPacket_ok code offset (value.bytes.drop offset) n hn28
      (by rw [length_drop]; omega)
    have hpay : (value.bytes.drop offset).take n = (value.contents.drop offset).take n := by
      rw [Buffer.contents, drop_take, take_take, Nat.min_eq_left (by omega)]
    have hseg : segment p = (encodedOffset offset, (value.contents.drop offset).take n) := by
      rw [segment, packetData_of_carries hcar, ← encodedOffset_eq, ← hpay]; rfl
    have hrun : writeFragments (fun _ => none) code value (fuel + 1) offset rem sent =
        if n = 0 then .ok (none, sent ++ [p])
        else writeFragments (fun _ => none) code value fuel (offset + n) (rem - n) (sent ++ [p]) := by
      rw [writeFragments]
      simp only [← hn, hp, Exec.ok_bind]
    by_cases hz : n = 0
    · -- only nothing remaining makes an empty packet, and it ends the loop
      have hrem : rem = 0 := by split at hn <;> omega
      have hdone : value.contents.drop offset = [] := drop_eq_nil_of_le (by omega)
      refine ⟨[p], [(offset, [])], by rw [hrun, if_pos hz], by rw [hdone]; exact Sends.nil offset, ?_⟩
      rw [map_singleton, map_singleton, hseg, hz]; rfl
    · obtain ⟨new, segs, hr, hs, hm⟩ := writeFragments_sends code value fuel (offset + n) (rem - n) (sent ++ [p])
        (by omega) (by omega)
      have htake : ((value.contents.drop offset).take n).length = n :=
        length_take_of_le (by rw [length_drop]; omega)
      refine ⟨p :: new, (offset, (value.contents.drop offset).take n) :: segs, ?_, ?_, ?_⟩
      · rw [hrun, if_neg hz, hr, append_assoc]; rfl
      · have hsplit : value.contents.drop offset =
            (value.contents.drop offset).take n ++ value.contents.drop (offset + n) := by
          rw [← drop_drop, take_append_drop]
        have hne : (value.contents.drop offset).take n ≠ [] := fun h => hz (by rw [← htake, h, length_nil])
        have hcons := Sends.cons hne (by rw [htake]; exact hs)
        rwa [← hsplit] at hcons
      · rw [map_cons, map_cons, hm, hseg]

theorem tryMultiPartWrite_sends (code : Byte) (value : Buffer) :
    ∃ sent segs, tryMultiPartWrite (fun _ => none) code value = .ok (none, sent) ∧ Sends 0 value.contents segs ∧
      sent.map segment = segs.map fun s => (encodedOffset s.1, s.2) := by
  obtain ⟨new, segs, hr, hs, hm⟩ := writeFragments_sends code value (value.len + 1) 0 value.len [] (Nat.zero_add _)
    (Nat.lt_succ_self _)
  exact ⟨new, segs, hr, hs, hm⟩

/-- **When every write succeeds the call terminates without a failed assertion, and the packets send the value exactly
when it has at most 255 bytes.** -/
theorem tryMultiPartWrite_sends_iff (code : Byte) (value : Buffer) :
    ∃ sent, tryMultiPartWrite (fun _ => none) code value = .ok (none, sent) ∧
      (Sends 0 value.contents (sent.map segment) ↔ value.len ≤ 255) := by
  obtain ⟨sent, segs, hr, hs, hm⟩ := tryMultiPartWrite_sends code value
  have hcl := value.length_contents
  refine ⟨sent, hr, fun h => ?_, fun h => ?_⟩
  · -- the closing packet's offset is the length, encoded
    have hlast := h.last_mem
    rw [hm, getLast?_map, hs.last_mem] at hlast
    simp only [Option.map_some, Option.some.injEq, Prod.mk.injEq, and_true, Nat.zero_add, hcl] at hlast
    exact (encodedOffset_eq_self_iff _).1 hlast
  · have hid : segs.map (fun s => (encodedOffset s.1, s.2)) = segs := by
      rw [map_congr_left (g := id), map_id]
      intro s hmem
      have := hs.offset_le s hmem
      rw [(encodedOffset_eq_self_iff s.1).2 (by omega)]; rfl
    rw [hm, hid]; exact hs

def longValue : Buffer where
  bytes := List.replicate 256 0
  len := 256
  bufferSize := 256
  sizeIncrement := 0
  hlen := Nat.le_refl _
  hsize := Nat.le_of_eq (length_replicate).symm

/-- **A value of 256 bytes is sent under a final offset of 0.** -/
theorem longValue_final_offset :
    ∃ sent, tryMultiPartWrite (fun _ => none) 0x73 longValue = .ok (none, sent) ∧
      (sent.map segment).getLast? = some (0, []) ∧ ¬ Sends 0 longValue.contents (sent.map segment) := by
  obtain ⟨sent, segs, hr, hs, hm⟩ := tryMultiPartWrite_sends 0x73 longValue
  have hlast : (sent.map segment).getLast? = some (0, []) := by
    rw [hm, getLast?_map, hs.last_mem, longValue.length_contents]; rfl
  refine ⟨sent, hr, hlast, fun h => ?_⟩
  have := h.last_mem
  rw [hlast, longValue.length_contents] at this; cases this

/-! ## The two encoders of a read request's offset

A multi part read builds its first request with `create_ddc_multi_part_read_request_packet` and moves the offset of the
same packet for all later ones.  The builder takes the high byte from bits 16 to 23 of the offset, the update from bits
8 to 15.
-/

/-- **A read request of a type and subtype**: one that was built, for any offset, and moved any number of times. -/
inductive ReadRequest (requestType requestSubtype : Byte) : DdcPacket → Prop where
  | built {offset : Nat} {packet : DdcPacket} (hoffset : offset < 65536)
      (h : createDdcMultiPartReadRequestPacket requestType requestSubtype offset = .ok packet) :
      ReadRequest requestType requestSubtype packet
  | moved {newOffset : Nat} {packet packet' : DdcPacket} (hbefore : ReadRequest requestType requestSubtype packet)
      (hoffset : newOffset < 65536) (h : updateDdcMultiPartReadRequestPacketOffset packet newOffset = .ok packet') :
      ReadRequest requestType requestSubtype packet'

def requestOffset (packet : DdcPacket) : Nat :=
  if packet.type = ddcPacketTypeCapabilitiesRequest then
    hiLoBytesToShort ((packetData packet).getD 1 0) ((packetData packet).getD 2 0)
  else hiLoBytesToShort ((packetData packet).getD 2 0) ((packetData packet).getD 3 0)

/-- **The two encoders agree on an offset**: neither fails, the packets are of one type and have the same bytes, checksum
included, and a display reads the offset from both. -/
structure EncodersAgree (requestType requestSubtype : Byte) (packet : DdcPacket) (offset : Nat)
    (updated created : DdcPacket) : Prop where
  updates : updateDdcMultiPartReadRequestPacketOffset packet offset = .ok updated
  creates : createDdcMultiPartReadRequestPacket requestType requestSubtype offset = .ok created
  sameType : updated.type = created.type
  sameBytes : updated.rawBytes.contents = created.rawBytes.contents
  updatedOffset : requestOffset updated = offset
  createdOffset : requestOffset created = offset

/-! ## What the packets carry -/

theorem createDdcMultiPartReadRequestPacket_carries {t : Byte} (sub : Byte) (offset : Nat)
    (ht : t = ddcPacketTypeCapabilitiesRequest ∨ t = ddcPacketTypeTableReadRequest) :
    ∃ p, createDdcMultiPartReadRequestPacket t sub offset = .ok p ∧ Carries p 0x51
      (readRequestData t sub (UInt8.ofNat ((offset >>> 16) &&& 0xff)) (UInt8.ofNat (offset &&& 0xff))) := by
  unfold createDdcMultiPartReadRequestPacket
  generalize UInt8.ofNat ((offset >>> 16) &&& 0xff) = hi
  generalize UInt8.ofNat (offset &&& 0xff) = lo
  rcases ht with rfl | rfl
  · exact createDdcBaseRequestPacket_ok 0x51 [ddcPacketTypeCapabilitiesRequest, hi, lo] [] (Nat.le_of_ble_eq_true rfl)
  · exact createDdcBaseRequestPacket_ok 0x51 [ddcPacketTypeTableReadRequest, sub, hi, lo] [] (Nat.le_of_ble_eq_true rfl)

theorem type_of_created {t sub : Byte} {offset : Nat} {p : DdcPacket}
    (h : createDdcMultiPartReadRequestPacket t sub offset = .ok p) :
    t = ddcPacketTypeCapabilitiesRequest ∨ t = ddcPacketTypeTableReadRequest := by
  obtain ⟨_, hcheck, -⟩ := Exec.bind_eq_ok.1 h
  exact check_eq_ok.1 hcheck

theorem ReadRequest.carries {t sub : Byte} {p : DdcPacket} (h : ReadRequest t sub p) :
    (t = ddcPacketTypeCapabilitiesRequest ∨ t = ddcPacketTypeTableReadRequest) ∧
      ∃ hi lo, Carries p 0x51 (readRequestData t sub hi lo) := by
  induction h with
  | built _ h =>
    have ht := type_of_created h
    obtain ⟨p, hp, hcarries⟩ := createDdcMultiPartReadRequestPacket_carries sub _ ht
    cases h.symm.trans hp
    exact ⟨ht, _, _, hcarries⟩
  | moved _ _ h ih =>
    obtain ⟨ht, hi, lo, hbefore⟩ := ih
    obtain ⟨p, hp, hcarries⟩ := updateDdcMultiPartReadRequestPacketOffset_ok _ ht hbefore
    cases h.symm.trans hp
    exact ⟨ht, _, _, hcarries⟩

theorem requestOffset_of_carries {t sub hi lo : Byte} {p : DdcPacket}
    (ht : t = ddcPacketTypeCapabilitiesRequest ∨ t = ddcPacketTypeTableReadRequest)
    (h : Carries p 0x51 (readRequestData t sub hi lo)) : requestOffset p = hiLoBytesToShort hi lo := by
  have hdata := packetData_of_carries h
  have htype := h.type
  rw [requestOffset, hdata, htype]
  rcases ht with rfl | rfl
  · rfl
  · rfl

theorem Carries.same {p q : DdcPacket} {src : Byte} {data : List Byte} (hp : Carries p src data)
    (hq : Carries q src data) : p.type = q.type ∧ p.rawBytes.contents = q.rawBytes.contents :=
  ⟨hp.type.trans hq.type.symm, hp.contents.trans hq.contents.symm⟩

/-! ## Where they agree -/

/-- **The two encoders agree exactly on offsets of one byte.** -/
theorem encodersAgree_iff {t sub : Byte} {p : DdcPacket} (h : ReadRequest t sub p) {offset : Nat}
    (hoffset : offset < 65536) : (∃ updated created, EncodersAgree t sub p offset updated created) ↔ offset ≤ 255 := by
  obtain ⟨ht, hi, lo, hcarries⟩ := h.carries
  obtain ⟨updated, hupdated, hucarries⟩ := updateDdcMultiPartReadRequestPacketOffset_ok offset ht hcarries
  obtain ⟨created, hcreated, hccarries⟩ := createDdcMultiPartReadRequestPacket_carries sub offset ht
  have hcreatedOffset : requestOffset created = encodedOffset offset :=
    (requestOffset_of_carries ht hccarries).trans (encodedOffset_eq offset)
  constructor
  · rintro ⟨updated', created', hagree⟩
    cases hcreated.symm.trans hagree.creates
    exact (encodedOffset_eq_self_iff offset).1 (hcreatedOffset.symm.trans hagree.createdOffset)
  · intro hle
    have hself := (encodedOffset_eq_self_iff offset).2 hle
    have hhi : (offset >>> 16) &&& 0xff = (offset >>> 8) &&& 0xff := by
      have h16 : offset >>> 16 = 0 := by omega
      have h8 : offset >>> 8 = 0 := by omega
      rw [h16, h8]
    rw [hhi] at hccarries
    obtain ⟨htype, hbytes⟩ := hucarries.same hccarries
    refine ⟨updated, created, hupdated, hcreated, htype, hbytes, ?_, hcreatedOffset.trans hself⟩
    exact (requestOffset_of_carries ht hucarries).trans (hiLoBytesToShort_split hoffset)

/-- The capabilities request for offset 0, moved to 32. -/
theorem encodersAgree_iff_32 : ∃ p, ReadRequest ddcPacketTypeCapabilitiesRequest 0 p ∧
    ∃ updated created, EncodersAgree ddcPacketTypeCapabilitiesRequest 0 p 32 updated created := by
  obtain ⟨p, hp, -⟩ := createDdcMultiPartReadRequestPacket_carries 0 0 (.inl rfl)
  have hrequest : ReadRequest ddcPacketTypeCapabilitiesRequest 0 p := .built (Nat.succ_pos _) hp
  exact ⟨p, hrequest, (encodersAgree_iff hrequest (by decide)).2 (by decide)⟩

/-- **For offset 256 the builder asks for the start of the value**, and the update for byte 256. -/
theorem offset256_not_agree : ∃ p, ReadRequest ddcPacketTypeTableReadRequest 0x73 p ∧
    (∃ updated created, updateDdcMultiPartReadRequestPacketOffset p 256 = .ok updated ∧
      createDdcMultiPartReadRequestPacket ddcPacketTypeTableReadRequest 0x73 256 = .ok created ∧
      requestOffset updated = 256 ∧ requestOffset created = 0) ∧
    ¬ ∃ updated created, EncodersAgree ddcPacketTypeTableReadRequest 0x73 p 256 updated created := by
  obtain ⟨p, hp, hcarries⟩ := createDdcMultiPartReadRequestPacket_carries 0x73 0 (.inr rfl)
  have hrequest : ReadRequest ddcPacketTypeTableReadRequest 0x73 p := .built (Nat.succ_pos _) hp
  obtain ⟨updated, hupdated, hucarries⟩ := updateDdcMultiPartReadRequestPacketOffset_ok 256 (.inr rfl) hcarries
  obtain ⟨created, hcreated, hccarries⟩ := createDdcMultiPartReadRequestPacket_carries 0x73 256 (.inr rfl)
  have hcreatedOffset : requestOffset created = 0 := requestOffset_of_carries (.inr rfl) hccarries
  refine ⟨p, hrequest, ⟨updated, created, hupdated, hcreated, requestOffset_of_carries (.inr rfl) hucarries,
    hcreatedOffset⟩, ?_⟩
  rintro ⟨updated', created', hagree⟩
  cases hcreated.symm.trans hagree.creates
  cases hcreatedOffset.symm.trans hagree.createdOffset

end Ddc
