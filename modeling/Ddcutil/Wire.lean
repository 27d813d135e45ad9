import Ddcutil.Kit.Parity
import Ddcutil.MultiPartWrite
import Ddcutil.ResponseFormat
import Ddcutil.WriteRead
/-!
# Wire — packets as the bytes on an I2C bus

`ddc_write_read` of `ddc_packet_io.c` down to the bytes that are written and read.  The bus is an argument: at its other
end is a monitor that keeps to the protocol, and noise may lose a write, fail a read, replace a response or change one
byte of it.
-/
namespace Ddc.Wire

open Kit List Exec

/-- What a write of bytes to address 0x37 returns and leaves, and what a read of a number of bytes does. -/
structure Bus (σ : Type) where
  write : σ → List Byte → Status × σ
  read : σ → Nat → Status × List Byte × σ

def noteZeros (rc : Status) (readbuf : List Byte) : Status :=
  if rc = 0 ∧ readbuf.all (· == 0) = true then ddcrcReadAllZero else rc

def ddcI2cWriteReadRaw {σ : Type} (bus : Bus σ) (s : σ) (request : DdcPacket) (maxReadBytes : Nat) :
    Exec (Status × List Byte × σ) := do
  let slaveAddr ← fetch request.rawBytes.bytes 0
  check (slaveAddr >>> 1 = 0x37)
  let bytes ← span request.rawBytes.bytes 1 (request.rawBytes.len - 1)
  let w := bus.write s bytes
  if w.1 = 0 then
    let r := bus.read w.2 maxReadBytes
    .ok (noteZeros r.1 r.2.1, r.2)
  else .ok (w.1, List.replicate maxReadBytes 0, w.2)

def interpretRead (psc : Status) (readbuf : List Byte) (bytesReceived : Nat) (expectedType expectedSubtype : Byte) :
    Exec (Status × Option DdcPacket) :=
  if 0 ≤ psc then createDdcTypedResponsePacket readbuf bytesReceived expectedType expectedSubtype else .ok (psc, none)

def saysUnsupported : Option DdcPacket → Bool
  | some ⟨_, type, some (.nontableResponse resp)⟩ =>
    type == ddcPacketTypeQueryVcpResponse && (resp.validResponse && !resp.supportedOpcode)
  | _ => false

def simulateNull (simulateNullMsgMeansUnsupported : Bool) (typed : Status × Option DdcPacket) : Status :=
  if typed.1 = ddcrcOk ∧ (simulateNullMsgMeansUnsupported && saysUnsupported typed.2) = true then ddcrcNullResponse
  else typed.1

/-- What `ddc_write_read` returns; its callers assert that there is a packet where there is no error. -/
def writeReadResult (psc : Status) (packet : Option DdcPacket) : Exec WriteReadResult :=
  if h : psc < 0 then .ok (.failure psc h)
  else
    match if psc = 0 then packet else none with
    | some packet => .ok (.response packet)
    | none => .error .assertFailed

def ddcWriteRead {σ : Type} (bus : Bus σ) (simulateNullMsgMeansUnsupported : Bool) (s : σ) (request : DdcPacket)
    (maxReadBytes : Nat) (expectedResponseType expectedSubtype : Byte) : Exec (WriteReadResult × σ) := do
  let raw ← ddcI2cWriteReadRaw bus s request (maxReadBytes + 1)
  let typed ← interpretRead raw.1 raw.2.1 (maxReadBytes + 1) expectedResponseType expectedSubtype
  let result ← writeReadResult (simulateNull simulateNullMsgMeansUnsupported typed) typed.2
  .ok (result, raw.2.2)

/-! ## A monitor -/

structure FeatureValue where
  mh : Byte
  ml : Byte
  sh : Byte
  sl : Byte
  deriving DecidableEq

/-- **A monitor**: its features, its capabilities string and its tables, and how many bytes of one it sends from an
offset on. -/
structure Monitor where
  features : Byte → Option FeatureValue
  capabilities : List Byte
  tables : Byte → List Byte
  fragmentSize : Nat → Nat
  hfragment : ∀ offset, 0 < fragmentSize offset ∧ fragmentSize offset ≤ maxDdcMultiPartFragmentSize

/-- The data of a request, if its length and its checksum are right. -/
def requestData (bytes : List Byte) : Option (List Byte) :=
  let data := (bytes.drop 2).dropLast
  if bytes = (requestBytes (bytes.headD 0) data).drop 1 then some data else none

def responseBytes (data : List Byte) : List Byte :=
  let body := 0x6e :: UInt8.ofNat (data.length ||| 0x80) :: data
  body ++ [body.foldl (· ^^^ ·) 0x50]

namespace Monitor

def featureReply (code : Byte) : Option FeatureValue → List Byte
  | some v => [ddcPacketTypeQueryVcpResponse, 0, code, 0, v.mh, v.ml, v.sh, v.sl]
  | none => [ddcPacketTypeQueryVcpResponse, 1, code, 0, 0, 0, 0, 0]

def fragmentReply (m : Monitor) (type : Byte) (value : List Byte) (hi lo : Byte) : List Byte :=
  let offset := hiLoBytesToShort hi lo
  type :: hi :: lo :: (value.drop offset).take (m.fragmentSize offset)

def setFeature (m : Monitor) (code sh sl : Byte) : Monitor :=
  { m with features := Function.update m.features code ((m.features code).map fun v => { v with sh := sh, sl := sl }) }

/-- A segment takes the place of what a table has from its offset on; one that would leave a gap is dropped. -/
def setTable (m : Monitor) (code : Byte) (offset : Nat) (payload : List Byte) : Monitor :=
  if offset ≤ (m.tables code).length then
    { m with tables := Function.update m.tables code ((m.tables code).take offset ++ payload) }
  else m

/-- **What a request does**: the monitor after it, and the data of the response. -/
def handle (m : Monitor) (data : List Byte) : Monitor × List Byte :=
  match data with
  | [0x01, code] => (m, featureReply code (m.features code))
  | [0x03, code, hi, lo] => (m.setFeature code hi lo, [])
  | [0xf3, hi, lo] => (m, m.fragmentReply ddcPacketTypeCapabilitiesResponse m.capabilities hi lo)
  | [0xe2, code, hi, lo] => (m, m.fragmentReply ddcPacketTypeTableReadResponse (m.tables code) hi lo)
  | 0xe7 :: code :: hi :: lo :: payload => (m.setTable code (hiLoBytesToShort hi lo) payload, [])
  | _ => (m, [])

def receive (m : Monitor) (bytes : List Byte) : Monitor × List Byte :=
  match requestData bytes with
  | some data => m.handle data
  | none => (m, [])

end Monitor

/-- What happens to a write and the read that follows it. -/
inductive Noise where
  | clear
  | writeFails (rc : Status) (neg : rc < 0) (received : Bool)
  | readFails (rc : Status) (neg : rc < 0)
  | zeros
  | nullMessage
  | changed (i : Nat) (x : Byte)

/-- The bytes that are read: those of a response, and zeros behind it. -/
def padded (n : Nat) (bytes : List Byte) : List Byte := (bytes ++ List.replicate n 0).take n

/-- **The bus between the program and a monitor**, whose state has the data of the response to be read. -/
def noisyBus (noise : Noise) : Bus (Monitor × List Byte) where
  write s bytes :=
    match noise with
    | .writeFails rc _ received => (rc, if received then s.1.receive bytes else s)
    | _ => (0, s.1.receive bytes)
  read s n :=
    match noise with
    | .readFails rc _ => (rc, List.replicate n 0, s)
    | .zeros => (0, List.replicate n 0, s)
    | .nullMessage => (0, padded n (responseBytes []), s)
    | .changed i x => (0, (padded n (responseBytes s.2)).set i x, s)
    | _ => (0, padded n (responseBytes s.2), s)

/-! ## A changed byte -/

variable {bytes data reply : List Byte} {t sub : Byte}

theorem xor_of_envelope (h : Envelope bytes data) : (bytes.take (data.length + 3)).foldl (· ^^^ ·) 0x50 = 0 := by
  obtain ⟨lb, rest, rfl, -, -⟩ := h
  have htake : (0x6e :: lb :: (data ++ (0x6e :: lb :: data).foldl (· ^^^ ·) 0x50 :: rest)).take (data.length + 3) =
      (0x6e :: lb :: data) ++ [(0x6e :: lb :: data).foldl (· ^^^ ·) 0x50] := by
    simp [take_append]
  rw [htake, foldl_append, foldl_cons, foldl_nil]; exact UInt8.xor_self

theorem data_of_envelope (h : Envelope bytes data) : data = (bytes.take (data.length + 2)).drop 2 := by
  obtain ⟨lb, rest, rfl, -, -⟩ := h
  simp

/-- **A changed byte is seen**, where the length of the data is known. -/
theorem envelope_set {i : Nat} {x : Byte} (h : Envelope bytes reply) (hset : Envelope (bytes.set i x) data)
    (hlen : data.length = reply.length) : data = reply := by
  by_cases hi : i < reply.length + 3
  · by_cases hlt : i < bytes.length
    · have hxor := xor_of_envelope hset
      rw [hlen, take_set, ← xor_of_envelope h] at hxor
      have hsame := getElem_eq_of_foldl_set (fun a b c => (UInt8.xor_left_inj c).1)
        (by rw [length_take]; omega) hxor
      rw [getElem_take] at hsame
      rw [← hsame, set_getElem_self] at hset
      exact hset.unique h
    · rw [set_eq_of_length_le (by omega)] at hset
      exact hset.unique h
  · rw [data_of_envelope hset, hlen, take_set_of_le (by omega), ← data_of_envelope h]

theorem length_byte : ∀ n < 36, (UInt8.ofNat (n ||| 0x80) &&& 0x7f).toNat = n ∧ UInt8.ofNat (n ||| 0x80) ≠ 0x6e := by
  decide

theorem envelope_responseBytes (h35 : reply.length ≤ maxDdcDataSize) (rest : List Byte) :
    Envelope (responseBytes reply ++ rest) reply :=
  ⟨UInt8.ofNat (reply.length ||| 0x80), rest, by simp [responseBytes],
    (length_byte _ (Nat.lt_succ_of_le h35)).1, h35⟩

/-- A length byte of a response that arrives as it was sent, unless it is known how long the data are. -/
def Noise.Spares (noise : Noise) (t : Byte) : Prop := t = ddcPacketTypeQueryVcpResponse ∨ ∀ x, noise ≠ .changed 1 x

/-- **Whichever byte is changed**, what is accepted are the data that were sent. -/
theorem data_of_changed {i : Nat} {x : Byte} {rest : List Byte} (hgood : GoodData t sub reply)
    (h35 : reply.length ≤ maxDdcDataSize) (hspares : (Noise.changed i x).Spares t)
    (henv : Envelope (dropQuirk ((responseBytes reply ++ rest).set i x)) data) (hdata : GoodData t sub data) :
    data = reply := by
  have hsent := envelope_responseBytes h35 rest
  obtain ⟨hlb, hne⟩ := length_byte _ (Nat.lt_succ_of_le h35)
  obtain ⟨reply', hreply⟩ : ∃ reply', reply = t :: reply' := head?_eq_some_iff.1 hgood.1
  generalize hB : responseBytes reply ++ rest = bytes at hsent henv
  obtain ⟨lb, tail, hbytes, hlb, htail⟩ : ∃ lb tail, bytes = 0x6e :: lb :: (reply ++ tail) ∧
      (lb &&& 0x7f).toNat = reply.length ∧ lb ≠ 0x6e :=
    ⟨_, _, by rw [← hB, responseBytes, append_assoc]; rfl, hlb, hne⟩
  have hsame : ∀ {y ys}, bytes.set i x = 0x6e :: y :: ys → y ≠ 0x6e →
      ((y &&& 0x7f).toNat = reply.length ∨ t = ddcPacketTypeQueryVcpResponse) → data = reply := by
    intro y ys hset hy hlen
    have hquirk : dropQuirk (bytes.set i x) = bytes.set i x := by
      rw [hset]; exact if_neg fun h => hy (by simpa using h)
    rw [hquirk] at henv
    refine envelope_set hsent henv ?_
    rcases hlen with hlen | rfl
    · obtain ⟨lb', rest', heq, hlen', -⟩ := henv
      rw [hset] at heq
      cases heq; exact hlen'.symm.trans hlen
    · have h8 := hdata.2
      have h8' := hgood.2
      rw [if_pos rfl] at h8 h8'; exact h8.1.trans h8'.1.symm
  rcases i with _ | _ | i
  · rw [hbytes, set_cons_zero] at henv
    have hquirk : dropQuirk (x :: lb :: (reply ++ tail)) = x :: lb :: (reply ++ tail) :=
      if_neg fun h => htail (by simpa using (cons_eq_cons.1 h).2)
    rw [hquirk] at henv
    obtain ⟨lb', rest', heq, -, -⟩ := id henv
    obtain rfl := (cons_eq_cons.1 heq).1
    rw [← hbytes] at henv; exact henv.unique hsent
  · have ht : t = ddcPacketTypeQueryVcpResponse := hspares.resolve_right fun h => h x rfl
    have hset : bytes.set 1 x = 0x6e :: x :: (reply ++ tail) := by rw [hbytes]; rfl
    by_cases hx : x = 0x6e
    · -- the byte behind it is then taken for the length byte, and says 2
      have hquirk : dropQuirk (bytes.set 1 x) = 0x6e :: t :: (reply' ++ tail) := by
        rw [hset, hx, hreply]; rfl
      rw [hquirk] at henv
      obtain ⟨lb', rest', heq, hlen, -⟩ := henv
      rw [← (cons_eq_cons.1 (cons_eq_cons.1 heq).2).1] at hlen
      have h8 := hdata.2
      rw [if_pos ht] at h8
      rw [ht, h8.1] at hlen
      exact absurd hlen (by decide)
    · exact hsame hset hx (.inr ht)
  · have hset : bytes.set (i + 2) x = 0x6e :: lb :: (reply ++ tail).set i x := by rw [hbytes]; rfl
    exact hsame hset htail (.inl hlb)

/-! ## One exchange -/

theorem requestData_requestBytes (src : Byte) (data : List Byte) :
    requestData ((requestBytes src data).drop 1) = some data := by
  have hbytes : ∃ body ck, requestBytes src data = 0x6e :: src :: body :: (data ++ [ck]) := ⟨_, _, rfl⟩
  obtain ⟨body, ck, hbytes⟩ := hbytes
  have hdata : (((requestBytes src data).drop 1).drop 2).dropLast = data := by rw [hbytes]; simp
  have hsrc : ((requestBytes src data).drop 1).headD 0 = src := by rw [hbytes]; rfl
  simp only [requestData, hdata, hsrc, if_true]

theorem sent_of_carries {request : DdcPacket} {src : Byte} (h : Carries request src data) :
    fetch request.rawBytes.bytes 0 = .ok 0x6e ∧
      span request.rawBytes.bytes 1 (request.rawBytes.len - 1) = .ok ((requestBytes src data).drop 1) := by
  have hle := Nat.le_trans request.rawBytes.hlen request.rawBytes.hsize
  have hlen := request.rawBytes.length_contents
  have hcontents := h.contents
  have hpos : 0 < request.rawBytes.len := by
    rw [← hlen, hcontents]; exact Nat.succ_pos _
  have htake : request.rawBytes.bytes.take request.rawBytes.len = requestBytes src data := hcontents
  constructor
  · rw [fetch_eq_ok, ← getElem?_take_of_lt hpos, htake]; rfl
  · rw [span_of_le (by omega), ← drop_take, htake]

theorem createDdcTypedResponsePacket_cases (sub : Byte) (hlen : bytes.length = 40) (ht : IsResponseType t) :
    (∃ data p, Envelope (dropQuirk bytes) data ∧ GoodData t sub data ∧ Decoded t data p.parsed ∧
      createDdcTypedResponsePacket bytes 40 t sub = .ok (ddcrcOk, some p)) ∨
    (∀ data, Envelope (dropQuirk bytes) data → ¬ GoodData t sub data) ∧
      ∃ rc < 0, createDdcTypedResponsePacket bytes 40 t sub = .ok (rc, none) := by
  obtain ⟨henv, hno⟩ := createDdcResponsePacket_spec hlen t
  unfold createDdcTypedResponsePacket
  by_cases he : ∃ data, Envelope (dropQuirk bytes) data
  · obtain ⟨data, hdata⟩ := he
    obtain ⟨p, hp, hr⟩ := henv data hdata
    obtain ⟨-, -, -, -, h35⟩ := id hdata
    rw [hr, ok_bind]
    by_cases hnil : data = []
    · refine .inr ⟨fun d hd hg => ?_, ddcrcNullResponse, by decide, by rw [if_pos hnil]; rfl⟩
      rw [hd.unique hdata, hnil] at hg; exact not_goodData_nil t sub hg
    rw [if_neg hnil]
    by_cases hd : data.head? = some t
    · rw [if_pos hd]
      obtain ⟨hgood, hbad⟩ := interpretPacketData_spec hp t sub ht hd h35
      by_cases hg : GoodData t sub data
      · obtain ⟨r, hi, hdec⟩ := hgood hg
        refine .inl ⟨data, { p with parsed := r }, hdata, hg, hdec, ?_⟩
        simp only [hi, ok_bind]; rfl
      · obtain ⟨r, hi⟩ := hbad hg
        refine .inr ⟨fun d hd' => hd'.unique hdata ▸ hg, ddcrcDdcData, by decide, ?_⟩
        simp only [hi, ok_bind]; rfl
    · rw [if_neg hd]
      exact .inr ⟨fun d hd' hg => hd (hd'.unique hdata ▸ hg.1), ddcrcDdcData, by decide, rfl⟩
  · have hno' : ∀ data, ¬ Envelope (dropQuirk bytes) data := fun d hd => he ⟨d, hd⟩
    rw [hno hno', ok_bind]
    exact .inr ⟨fun d hd => absurd hd (hno' d), ddcrcDdcData, by decide, rfl⟩

/-- **A request that a monitor answers**: the response is one of the type asked for, and the monitor stays as it is. -/
structure Answered (m : Monitor) (data : List Byte) (t sub : Byte) (reply : List Byte) : Prop where
  handle : m.handle data = (m, reply)
  type : IsResponseType t
  good : GoodData t sub reply
  fits : reply.length ≤ maxDdcDataSize

/-- The result of an exchange is a failure, or what the response says. -/
structure ResultOf (sim : Bool) (t : Byte) (reply : List Byte) (noise : Noise) (result : WriteReadResult) : Prop where
  decoded : ∀ p, result = .response p → Decoded t reply p.parsed
  clear : noise = .clear → (∃ p, result = .response p) ∨
    sim = true ∧ ∃ r, Decoded t reply (some (.nontableResponse r)) ∧ r.supportedOpcode = false

theorem writeReadResult_neg (sim : Bool) {rc : Status} (h : rc < 0) :
    writeReadResult (simulateNull sim (rc, none)) none = .ok (.failure rc h) := by
  have hrc : simulateNull sim (rc, none) = rc := if_neg fun h' => absurd h'.1 (Int.ne_of_lt h)
  rw [hrc, writeReadResult, dif_pos h]

theorem not_zeros_of_envelope (h : Envelope (dropQuirk bytes) data) : ¬ bytes.all (· == 0) = true := by
  obtain ⟨lb, rest, heq, -⟩ := h
  have hmem : (0x6e : Byte) ∈ dropQuirk bytes := heq ▸ mem_cons_self
  have hbytes : (0x6e : Byte) ∈ bytes := by
    unfold dropQuirk at hmem
    split at hmem
    · exact mem_of_mem_drop hmem
    · exact hmem
  intro hall
  exact absurd (all_eq_true.1 hall _ hbytes) (by decide)

/-- **What is made of 40 bytes** of which nothing but the reply can be accepted. -/
theorem writeReadResult_of_read (sim : Bool) {noise : Noise} (hlen : bytes.length = 40) (ht : IsResponseType t)
    (haccepts : ∀ data, Envelope (dropQuirk bytes) data → GoodData t sub data → data = reply)
    (hclear : noise = .clear → Envelope (dropQuirk bytes) reply ∧ GoodData t sub reply) :
    ∃ typed result, interpretRead (noteZeros 0 bytes) bytes 40 t sub = .ok typed ∧
      writeReadResult (simulateNull sim typed) typed.2 = .ok result ∧ ResultOf sim t reply noise result := by
  by_cases hz : bytes.all (· == 0) = true
  · have hrc : noteZeros 0 bytes = ddcrcReadAllZero := if_pos ⟨rfl, hz⟩
    rw [hrc]
    exact ⟨_, _, rfl, writeReadResult_neg sim (by decide), fun p hp => (by cases hp),
      fun hc => absurd hz (not_zeros_of_envelope (hclear hc).1)⟩
  have hrc : noteZeros 0 bytes = 0 := if_neg fun h => hz h.2
  rw [hrc, interpretRead, if_pos (Int.le_refl 0)]
  rcases createDdcTypedResponsePacket_cases sub hlen ht with ⟨data, p, henv, hg, hdec, hr⟩ | ⟨hno, rc, hneg, hr⟩
  · obtain rfl := haccepts data henv hg
    refine ⟨(ddcrcOk, some p), ?_⟩
    by_cases hsim : (sim && saysUnsupported (some p)) = true
    · have hnull : simulateNull sim (ddcrcOk, some p) = ddcrcNullResponse := if_pos ⟨rfl, hsim⟩
      refine ⟨.failure ddcrcNullResponse (by decide), hr, by rw [hnull]; rfl, fun p hp => (by cases hp),
        fun _ => .inr ?_⟩
      obtain ⟨hsim, hsays⟩ := Bool.and_eq_true_iff.1 hsim
      refine ⟨hsim, ?_⟩
      unfold saysUnsupported at hsays
      split at hsays
      · rename_i r heq
        cases heq
        simp only [Bool.and_eq_true, Bool.not_eq_true'] at hsays
        exact ⟨r, hdec, hsays.2.2⟩
      · cases hsays
    · have hok : simulateNull sim (ddcrcOk, some p) = ddcrcOk := if_neg fun h => hsim h.2
      exact ⟨.response p, hr, by rw [hok]; rfl, fun p' hp' => (by cases hp'; exact hdec), fun _ => .inl ⟨p, rfl⟩⟩
  · refine ⟨_, _, hr, writeReadResult_neg sim hneg, fun p hp => (by cases hp), fun hc => ?_⟩
    obtain ⟨henv, hg⟩ := hclear hc
    exact absurd hg (hno reply henv)

theorem padded_responseBytes (h35 : reply.length ≤ maxDdcDataSize) :
    padded 40 (responseBytes reply) = responseBytes reply ++ List.replicate (40 - (responseBytes reply).length) 0 := by
  have hlen : (responseBytes reply).length = reply.length + 3 := by simp [responseBytes]
  unfold maxDdcDataSize at h35
  rw [padded, take_append, take_of_length_le (by omega), take_replicate, Nat.min_eq_left (Nat.sub_le _ _)]

theorem length_padded (n : Nat) (bytes : List Byte) : (padded n bytes).length = n := by
  rw [padded, length_take, length_append, length_replicate]; omega

theorem dropQuirk_padded (h35 : reply.length ≤ maxDdcDataSize) :
    dropQuirk (padded 40 (responseBytes reply)) = padded 40 (responseBytes reply) := by
  rw [padded_responseBytes h35]
  exact if_neg fun h => (length_byte _ (Nat.lt_succ_of_le h35)).2 (by simpa [responseBytes] using h)

section
variable {σ : Type} {bus : Bus σ} {s s' s'' : σ} {request : DdcPacket} {src : Byte} {n : Nat} {rc : Status}

theorem ddcI2cWriteReadRaw_read (hcar : Carries request src data)
    (hwrite : bus.write s ((requestBytes src data).drop 1) = (0, s')) (hread : bus.read s' n = (rc, bytes, s'')) :
    ddcI2cWriteReadRaw bus s request n = .ok (noteZeros rc bytes, bytes, s'') := by
  obtain ⟨hfetch, hspan⟩ := sent_of_carries hcar
  rw [ddcI2cWriteReadRaw, hfetch, ok_bind, check_pos (by decide), ok_bind, hspan, ok_bind, hwrite]
  simp only [if_true, hread]

theorem ddcI2cWriteReadRaw_fails (hcar : Carries request src data)
    (hwrite : bus.write s ((requestBytes src data).drop 1) = (rc, s')) (hne : rc ≠ 0) :
    ddcI2cWriteReadRaw bus s request n = .ok (rc, List.replicate n 0, s') := by
  obtain ⟨hfetch, hspan⟩ := sent_of_carries hcar
  rw [ddcI2cWriteReadRaw, hfetch, ok_bind, check_pos (by decide), ok_bind, hspan, ok_bind, hwrite]
  simp only [if_neg hne]

theorem ddcWriteRead_fails (sim : Bool) (neg : rc < 0)
    (hraw : ddcI2cWriteReadRaw bus s request (n + 1) = .ok (rc, bytes, s')) :
    ddcWriteRead bus sim s request n t sub = .ok (.failure rc neg, s') := by
  rw [ddcWriteRead, hraw, ok_bind, interpretRead, if_neg (Int.not_le.2 neg), ok_bind, writeReadResult_neg sim neg]; rfl

end

/-- **One exchange**, whatever the noise: the monitor stays as it is, and a response that is taken says what was
sent. -/
theorem ddcWriteRead_answered {request : DdcPacket} {src : Byte} (hcar : Carries request src data) {m : Monitor}
    (h : Answered m data t sub reply) (sim : Bool) {noise : Noise} (hspares : noise.Spares t) (pending : List Byte) :
    ∃ result pending', ddcWriteRead (noisyBus noise) sim (m, pending) request maxDdcPacketSize t sub =
      .ok (result, (m, pending')) ∧ ResultOf sim t reply noise result := by
  have hreceive : m.receive ((requestBytes src data).drop 1) = (m, reply) := by
    rw [Monitor.receive, requestData_requestBytes]; exact h.handle
  have hread : ∀ bytes', bytes'.length = 40 →
      (∀ data, Envelope (dropQuirk bytes') data → GoodData t sub data → data = reply) →
      (noise = .clear → bytes' = padded 40 (responseBytes reply)) →
      (noisyBus noise).write (m, pending) ((requestBytes src data).drop 1) = (0, m, reply) →
      (noisyBus noise).read (m, reply) (maxDdcPacketSize + 1) = (0, bytes', m, reply) →
      ∃ result pending', ddcWriteRead (noisyBus noise) sim (m, pending) request maxDdcPacketSize t sub =
        .ok (result, (m, pending')) ∧ ResultOf sim t reply noise result := by
    intro bytes' hlen haccepts hclear hwrite hread
    obtain ⟨typed, result, htyped, hresult, hright⟩ := writeReadResult_of_read sim hlen h.type haccepts fun hc => by
      rw [hclear hc, dropQuirk_padded h.fits, padded_responseBytes h.fits]
      exact ⟨envelope_responseBytes h.fits _, h.good⟩
    refine ⟨result, reply, ?_, hright⟩
    rw [ddcWriteRead, ddcI2cWriteReadRaw_read hcar hwrite hread, ok_bind]
    simp only [show maxDdcPacketSize + 1 = 40 from rfl, htyped, ok_bind, hresult]
  cases noise with
  | writeFails rc neg received =>
    refine ⟨.failure rc neg, (if received then (m, reply) else (m, pending)).2, ddcWriteRead_fails sim neg
      (ddcI2cWriteReadRaw_fails hcar ?_ (Int.ne_of_lt neg)), fun p hp => (by cases hp), fun hc => (by cases hc)⟩
    simp only [noisyBus, hreceive]
    cases received <;> rfl
  | readFails rc neg =>
    have hzeros : noteZeros rc (List.replicate 40 0) = rc := if_neg fun hz => absurd hz.1 (Int.ne_of_lt neg)
    have hraw : ddcI2cWriteReadRaw (noisyBus (.readFails rc neg)) (m, pending) request 40 =
        .ok (noteZeros rc (List.replicate 40 0), List.replicate 40 0, m, reply) :=
      ddcI2cWriteReadRaw_read hcar (by simp only [noisyBus, hreceive]) rfl
    rw [hzeros] at hraw
    exact ⟨.failure rc neg, reply, ddcWriteRead_fails sim neg hraw, fun p hp => (by cases hp), fun hc => (by cases hc)⟩
  | zeros =>
    refine hread (List.replicate 40 0) rfl (fun d hd => ?_) (fun hc => (by cases hc)) ?_ rfl
    · exact absurd (by decide) (not_zeros_of_envelope hd)
    · simp only [noisyBus, hreceive]
  | nullMessage =>
    refine hread (padded 40 (responseBytes [])) (length_padded 40 _) (fun d hd hg => ?_) (fun hc => (by cases hc)) ?_
      rfl
    · rw [dropQuirk_padded (Nat.zero_le _), padded_responseBytes (Nat.zero_le _)] at hd
      rw [hd.unique (envelope_responseBytes (Nat.zero_le _) _)] at hg
      exact absurd hg (not_goodData_nil t sub)
    · simp only [noisyBus, hreceive]
  | changed i x =>
    refine hread ((padded 40 (responseBytes reply)).set i x) (by rw [length_set, length_padded]) (fun d hd hg => ?_)
      (fun hc => (by cases hc)) ?_ rfl
    · rw [padded_responseBytes h.fits] at hd
      exact data_of_changed h.good h.fits hspares hd hg
    · simp only [noisyBus, hreceive]
  | clear =>
    refine hread (padded 40 (responseBytes reply)) (length_padded 40 _) (fun d hd _ => ?_) (fun _ => rfl) ?_ rfl
    · rw [dropQuirk_padded h.fits, padded_responseBytes h.fits] at hd
      exact hd.unique (envelope_responseBytes h.fits _)
    · simp only [noisyBus, hreceive]

/-! ## The byte that is not protected -/

/-- **Which byte of a response may change without harm**: whatever it is changed to, what is accepted is what was sent.
It is any byte, except that the length byte is protected only where a response has one length. -/
theorem changedByte_harmless_iff (ht : IsResponseType t) (i : Nat) :
    (∀ sub reply x p, GoodData t sub reply → reply.length ≤ maxDdcDataSize →
      createDdcTypedResponsePacket ((padded 40 (responseBytes reply)).set i x) 40 t sub = .ok (ddcrcOk, some p) →
      Decoded t reply p.parsed) ↔ t = ddcPacketTypeQueryVcpResponse ∨ i ≠ 1 := by
  constructor
  · intro h
    by_contra hno
    obtain ⟨ht', rfl⟩ : t ≠ ddcPacketTypeQueryVcpResponse ∧ i = 1 := by
      rw [not_or, not_not] at hno; exact hno
    -- the fourth byte is the checksum of the first three, which a length byte of 3 makes a response of
    obtain ⟨c, hc⟩ : ∃ c : Byte, c = [0x6e, 0x83, t, 0, 0].foldl (· ^^^ ·) 0x50 := ⟨_, rfl⟩
    have hgood : ∀ rest, GoodData t 0 (t :: 0 :: 0 :: rest) := by
      intro rest
      exact ⟨rfl, by rw [if_neg ht']; exact Nat.le_add_left 3 _⟩
    have hlen : ((padded 40 (responseBytes [t, 0, 0, c])).set 1 0x83).length = 40 := by rw [length_set, length_padded]
    have henv : Envelope (dropQuirk ((padded 40 (responseBytes [t, 0, 0, c])).set 1 0x83)) [t, 0, 0] := by
      subst hc
      exact ⟨0x83, _, rfl, rfl, Nat.le_of_ble_eq_true rfl⟩
    rcases createDdcTypedResponsePacket_cases 0 hlen ht with ⟨data, p, hdata, -, hdec, hr⟩ | ⟨hno, -⟩
    · obtain rfl := hdata.unique henv
      have hsent := h 0 [t, 0, 0, c] 0x83 p (hgood [c]) (Nat.le_of_ble_eq_true rfl) hr
      rw [Decoded, if_neg ht'] at hdec hsent
      obtain ⟨f, hf, -, -, hempty⟩ := hdec
      obtain ⟨f', hf', -, -, hfull⟩ := hsent
      rw [hf] at hf'
      cases hf'
      rw [hempty] at hfull; cases hfull
    · exact absurd (hgood []) (hno _ henv)
  · intro hi sub reply x p hgood h35 hr
    have hlen : ((padded 40 (responseBytes reply)).set i x).length = 40 := by rw [length_set, length_padded]
    rcases createDdcTypedResponsePacket_cases sub hlen ht with ⟨data, p', henv, hdata, hdec, hr'⟩ | ⟨-, rc, -, hr'⟩
    · cases hr.symm.trans hr'
      rw [padded_responseBytes h35] at henv
      rw [← data_of_changed hgood h35 (hi.imp_right fun hi x hx => hi (by cases hx; rfl)) henv hdata]; exact hdec
    · cases hr.symm.trans hr'

theorem changedByte_harmless_vcp :
    (∀ sub reply x p, GoodData ddcPacketTypeQueryVcpResponse sub reply → reply.length ≤ maxDdcDataSize →
      createDdcTypedResponsePacket ((padded 40 (responseBytes reply)).set 1 x) 40 ddcPacketTypeQueryVcpResponse sub =
        .ok (ddcrcOk, some p) → Decoded ddcPacketTypeQueryVcpResponse reply p.parsed) ↔
      ddcPacketTypeQueryVcpResponse = ddcPacketTypeQueryVcpResponse ∨ 1 ≠ 1 :=
  changedByte_harmless_iff (.inl rfl) 1

end Ddc.Wire
