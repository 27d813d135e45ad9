import Ddcutil.Response
/-!
# ResponseFormat — exactly the responses that are accepted

The format of a response, stated on the bytes: the envelope (`Envelope`), the quirk byte (`dropQuirk`) and the
contents each packet type asks for (`GoodData`).
-/
namespace Ddc

open Kit List Exec

/-- **The bytes begin with an envelope around `data`**: `0x6e`, a length byte, the data, and the XOR of these with `0x50`
in front. -/
def Envelope (bytes data : List Byte) : Prop :=
  ∃ lenByte rest, bytes = 0x6e :: lenByte :: (data ++ (0x6e :: lenByte :: data).foldl (· ^^^ ·) 0x50 :: rest) ∧
    (lenByte &&& 0x7f).toNat = data.length ∧ data.length ≤ maxDdcDataSize

def dropQuirk (bytes : List Byte) : List Byte :=
  if bytes.take 2 = [0x6e, 0x6e] then bytes.drop 1 else bytes

def GoodData (expectedType expectedSubtype : Byte) (data : List Byte) : Prop :=
  data.head? = some expectedType ∧
    if expectedType = ddcPacketTypeQueryVcpResponse then
      data.length = 8 ∧ (data.getD 1 0 = 0 ∨ data.getD 1 0 = 1) ∧ data.getD 2 0 = expectedSubtype
    else 3 ≤ data.length

/-- **What is decoded from the data.**  A VCP reply whose result code says unsupported carries no values. -/
def Decoded (expectedType : Byte) (data : List Byte) (parsed : Option Parsed) : Prop :=
  if expectedType = ddcPacketTypeQueryVcpResponse then
    parsed = some (.nontableResponse
      (if data.getD 1 0 = 0 then
        ⟨data.getD 2 0, true, true, data.getD 4 0, data.getD 5 0, data.getD 6 0, data.getD 7 0⟩
      else ⟨data.getD 2 0, true, false, 0, 0, 0, 0⟩))
  else
    ∃ f, parsed = some (.multiPartReadFragment f) ∧ f.fragmentType = expectedType ∧
      f.fragmentOffset = 256 * (data.getD 1 0).toNat + (data.getD 2 0).toNat ∧ f.bytes = data.drop 3

variable {bytes data : List Byte} {p : DdcPacket}

theorem Envelope.unique {d d' : List Byte} (h : Envelope bytes d) (h' : Envelope bytes d') : d = d' := by
  obtain ⟨lb, rest, rfl, hn, -⟩ := h
  obtain ⟨lb', rest', heq, hn', -⟩ := h'
  simp only [List.cons.injEq, true_and] at heq
  obtain ⟨rfl, heq⟩ := heq
  exact (List.append_inj heq (hn.symm.trans hn')).1

/-! ## The envelope -/

/-- **A packet made from an envelope**: the source and destination bytes, then the envelope's own. -/
structure Framed (p : DdcPacket) (data : List Byte) : Prop where
  contents : ∃ lenByte ck, p.rawBytes.contents = 0x6f :: 0x6e :: lenByte :: (data ++ [ck])
  type : p.type = data.headD ddcPacketTypeNone
  parsed : p.parsed = none

theorem Framed.getDataLen_eq (h : Framed p data) : getDataLen (some p) = data.length := by
  obtain ⟨lb, ck, hc⟩ := h.contents
  have := congrArg List.length hc
  rw [Buffer.length_contents] at this
  simp only [length_cons, length_append, length_nil] at this
  show p.rawBytes.len - 4 = data.length
  omega

theorem Framed.data_drop (h : Framed p data) : ∃ tail, p.rawBytes.bytes.drop 3 = data ++ tail := by
  obtain ⟨lb, ck, hc⟩ := h.contents
  refine ⟨ck :: p.rawBytes.bytes.drop p.rawBytes.len, ?_⟩
  have hb : p.rawBytes.bytes = p.rawBytes.contents ++ p.rawBytes.bytes.drop p.rawBytes.len :=
    (take_append_drop _ _).symm
  have hd := congrArg (List.drop 3) hb
  rw [hc] at hd; exact hd.trans (by simp)

theorem typeOf_cons (data tail : List Byte) (n : Nat) (h : n = data.length) :
    typeOf (data ++ tail) n = .ok (data.headD ddcPacketTypeNone) := by
  subst h
  cases data with
  | nil | cons d ds => rfl

theorem overwrite_two (a b : Byte) (src : List Byte) (n : Nat) :
    overwrite (((List.replicate (src.length + n + 2) 0).set 0 a).set 1 b) 2 src = a :: b :: (src ++ List.replicate n 0) := by
  simp [replicate_succ, overwrite, Nat.add_comm 2]

theorem createDdcBaseResponsePacket_framed (lb ck : Byte) (data rest : List Byte)
    (hn : (lb &&& 0x7f).toNat = data.length) (h35 : data.length ≤ maxDdcDataSize) :
    ∃ p, Framed p data ∧ createDdcBaseResponsePacket (0x6e :: lb :: (data ++ ck :: rest)) =
      .ok (if (0x6e :: lb :: data).foldl (· ^^^ ·) 0x50 ≠ ck then (ddcrcDdcData, none) else (ddcrcOk, some p)) := by
  have hsrc : (lb :: (data ++ [ck])).length = data.length + 2 := by simp
  obtain ⟨b1, h1, e1, l1, s1⟩ := Buffer.setByte_of_lt (b := Buffer.new (3 + data.length + 1)) (i := 0) (x := 0x6f)
    (by rw [Buffer.new_bufferSize]; omega)
  rw [Buffer.new_bufferSize] at s1
  obtain ⟨b2, h2, e2, l2, s2⟩ := Buffer.setByte_of_lt (b := b1) (i := 1) (x := 0x6e) (by omega)
  obtain ⟨b3, h3, e3, l3, s3⟩ := Buffer.setBytes_of_le (b := b2) (i := 2) (l := lb :: (data ++ [ck])) (by omega)
  have hb3 : b3.bytes = 0x6f :: ((0x6e :: lb :: data) ++ ck :: List.replicate 16 0) := by
    have hnew : (Buffer.new (3 + data.length + 1)).bytes =
        List.replicate ((lb :: (data ++ [ck])).length + 16 + 2) 0 :=
      congrArg (List.replicate · 0) (by omega)
    rw [e3, e2, e1, hnew, overwrite_two]; simp
  obtain ⟨b4, h4, e4, l4, s4, -⟩ := Buffer.setLength_of_le (b := b3) (n := 3 + data.length + 1) (by omega)
  have hck : ddcChecksum b4.bytes (3 + data.length) true = .ok ((0x6e :: lb :: data).foldl (· ^^^ ·) 0x50) := by
    have := ddcChecksum_cons 0x6f (0x6e :: lb :: data) (ck :: List.replicate 16 0) true
    rw [← hb3, ← e4] at this
    rw [show 3 + data.length = (0x6e :: lb :: data).length + 1 by simp only [length_cons]; omega]
    exact this
  have hact : fetch b4.bytes (3 + data.length) = .ok ck := by
    rw [fetch_eq_ok, e4, hb3, getElem?_cons, if_neg (by omega), getElem?_append_right (by simp; omega)]
    simp only [length_cons]
    rw [show 3 + data.length - 1 - (data.length + 1 + 1) = 0 by omega]; rfl
  have hspan : span (0x6e :: lb :: (data ++ ck :: rest)) 1 (1 + data.length + 1) = .ok (lb :: (data ++ [ck])) := by
    rw [span_of_le (by simp; omega), drop_one, tail_cons,
      show lb :: (data ++ ck :: rest) = (lb :: (data ++ [ck])) ++ rest by simp,
      show 1 + data.length + 1 = (lb :: (data ++ [ck])).length by omega, take_left]
  refine ⟨⟨b4, data.headD ddcPacketTypeNone, none⟩, ⟨⟨lb, ck, ?_⟩, rfl, rfl⟩, ?_⟩
  · rw [Buffer.contents, l4, e4, hb3,
      show (0x6f :: ((0x6e :: lb :: data) ++ ck :: List.replicate 16 0) : List Byte) =
        (0x6f :: 0x6e :: lb :: (data ++ [ck])) ++ List.replicate 16 0 by simp]
    exact take_left' (by simp only [length_cons, length_append, length_nil]; omega)
  · rw [createDdcBaseResponsePacket, fetch_of_lt (by simp), ok_bind, if_neg (by simp), fetch_of_lt (by simp), ok_bind]
    simp only [getElem_cons_succ, getElem_cons_zero, hn, createEmptyDdcPacket]
    rw [if_neg (by omega), drop_succ_cons, drop_succ_cons, drop_zero, typeOf_cons data _ _ rfl,
      ok_bind, h1, ok_bind, h2, ok_bind, hspan, ok_bind, h3, ok_bind, h4, ok_bind, hck,
      ok_bind, hact, ok_bind]
    by_cases hc : (0x6e :: lb :: data).foldl (· ^^^ ·) 0x50 ≠ ck
    · rw [if_pos hc, if_pos hc]; rfl
    · rw [if_neg hc, if_neg hc]; rfl

theorem createDdcBaseResponsePacket_spec (hlen : 38 ≤ bytes.length) :
    (∀ data, Envelope bytes data → ∃ p, Framed p data ∧ createDdcBaseResponsePacket bytes = .ok (ddcrcOk, some p)) ∧
    ((∀ data, ¬ Envelope bytes data) → createDdcBaseResponsePacket bytes = .ok (ddcrcDdcData, none)) := by
  constructor
  · rintro data ⟨lb, rest, rfl, hn, h35⟩
    obtain ⟨p, hp, he⟩ := createDdcBaseResponsePacket_framed lb _ data rest hn h35
    exact ⟨p, hp, by rw [he, if_neg (by simp)]⟩
  · intro hno
    match bytes, hlen with
    | b0 :: b1 :: m, hlen =>
      simp only [length_cons] at hlen
      by_cases h0 : b0 = 0x6e
      · subst h0
        by_cases h35 : (b1 &&& 0x7f).toNat ≤ maxDdcDataSize
        · have hm : (b1 &&& 0x7f).toNat < m.length := by unfold maxDdcDataSize at h35; omega
          have hsplit : m = m.take (b1 &&& 0x7f).toNat ++ m[(b1 &&& 0x7f).toNat] :: m.drop ((b1 &&& 0x7f).toNat + 1) := by
            rw [getElem_cons_drop, take_append_drop]
          have htake : (m.take (b1 &&& 0x7f).toNat).length = (b1 &&& 0x7f).toNat := length_take_of_le (Nat.le_of_lt hm)
          obtain ⟨p, -, he⟩ := createDdcBaseResponsePacket_framed b1 m[(b1 &&& 0x7f).toNat]
            (m.take (b1 &&& 0x7f).toNat) (m.drop ((b1 &&& 0x7f).toNat + 1)) htake.symm (by rw [htake]; exact h35)
          rw [← hsplit] at he
          rw [he, if_pos]
          intro hck
          refine hno (m.take (b1 &&& 0x7f).toNat) ⟨b1, m.drop ((b1 &&& 0x7f).toNat + 1), ?_, htake.symm, by rw [htake]; exact h35⟩
          rw [hck, ← hsplit]
        · exact if_pos (Nat.lt_of_not_le h35)
      · exact if_pos h0

/-! ## The quirk byte, the null message and the type -/

theorem startsWithDoubled_eq (hlen : bytes.length = 40) :
    startsWithDoubled bytes 40 = .ok (decide (bytes.take 2 = [0x6e, 0x6e])) := by
  match bytes, hlen with
  | b0 :: b1 :: m, _ =>
    rw [startsWithDoubled, if_pos (by omega), fetch_cons_zero, ok_bind]
    by_cases h0 : b0 = 0x6e
    · simp [h0]
      rfl
    · simp [h0]

theorem length_dropQuirk (hlen : bytes.length = 40) : 38 ≤ (dropQuirk bytes).length := by
  unfold dropQuirk
  split
  · rw [length_drop]; omega
  · omega

theorem checkPacketType_framed (h : Framed p data) (t : Byte) :
    checkPacketType (some p) t =
      .ok (if data = [] then ddcrcNullResponse else if data.head? = some t then ddcrcOk else ddcrcDdcData) := by
  obtain ⟨tail, htail⟩ := h.data_drop
  rw [checkPacketType, isNullPacket, h.getDataLen_eq]
  cases data with
  | nil => rfl
  | cons d ds =>
    have hf : fetch p.rawBytes.bytes 3 = .ok d := by rw [fetch_eq_ok, ← head?_drop, htail]; rfl
    simp only [length_cons, hf, ok_bind]
    by_cases hd : d = t
    · simp [hd]
    · simp [hd]

theorem createDdcResponsePacket_spec (hlen : bytes.length = 40) (t : Byte) :
    (∀ data, Envelope (dropQuirk bytes) data →
      ∃ p, Framed p data ∧ createDdcResponsePacket bytes 40 t = .ok
        (if data = [] then (ddcrcNullResponse, none) else if data.head? = some t then (ddcrcOk, some p)
          else (ddcrcDdcData, none))) ∧
    ((∀ data, ¬ Envelope (dropQuirk bytes) data) →
      createDdcResponsePacket bytes 40 t = .ok (ddcrcDdcData, none)) := by
  obtain ⟨hgood, hbad⟩ := createDdcBaseResponsePacket_spec (length_dropQuirk hlen)
  have hquirk : (if decide (bytes.take 2 = [0x6e, 0x6e]) = true then bytes.drop 1 else bytes) = dropQuirk bytes := by
    unfold dropQuirk
    simp only [decide_eq_true_eq]
  rw [createDdcResponsePacket, startsWithDoubled_eq hlen, ok_bind, hquirk]
  constructor
  · intro data henv
    obtain ⟨p, hp, he⟩ := hgood data henv
    refine ⟨p, hp, ?_⟩
    rw [he, ok_bind, checkPacketType_framed hp, ok_bind]
    by_cases hnil : data = []
    · rw [if_pos hnil, if_pos hnil]; rfl
    · rw [if_neg hnil, if_neg hnil]
      by_cases hd : data.head? = some t
      · rw [if_pos hd, if_pos hd]; rfl
      · rw [if_neg hd, if_neg hd]; rfl
  · intro hno
    rw [hbad hno, ok_bind, if_neg (by decide)]; rfl

/-! ## The contents -/

theorem interpretMultiPartReadResponse_spec (t : Byte) (data tail : List Byte) (ht : data.head? = some t)
    (h35 : data.length ≤ maxDdcDataSize) :
    (data.length < 3 → interpretMultiPartReadResponse t (data ++ tail) data.length = .ok (ddcrcDdcData, none)) ∧
    (3 ≤ data.length → ∃ f, interpretMultiPartReadResponse t (data ++ tail) data.length = .ok (ddcrcOk, some f) ∧
      f.fragmentType = t ∧ f.fragmentOffset = 256 * (data.getD 1 0).toNat + (data.getD 2 0).toNat ∧
      f.bytes = data.drop 3) := by
  constructor
  · intro h; exact if_pos (.inl h)
  · intro h
    match data, h with
    | d0 :: d1 :: d2 :: ds, _ =>
      obtain rfl : d0 = t := by simpa using ht
      simp only [length_cons, maxDdcDataSize] at h35
      have hds : ds.length ≤ maxDdcMultiPartFragmentSize := by unfold maxDdcMultiPartFragmentSize; omega
      refine ⟨⟨d0, hiLoBytesToShort d1 d2, ds, hiLoBytesToShort_lt _ _, hds⟩, ?_, rfl, hiLoBytesToShort_eq _ _, rfl⟩
      have hspan : span (d0 :: d1 :: d2 :: (ds ++ tail)) 3 ds.length = .ok ds := by
        rw [span_of_le (by simp only [length_cons, length_append]; omega)]; simp
      unfold interpretMultiPartReadResponse
      simp only [length_cons, cons_append]
      rw [if_neg (by omega), fetch_cons_zero, ok_bind, check_pos rfl, ok_bind]
      simp only [fetch_cons_succ, fetch_cons_zero, ok_bind, Nat.reduceSubDiff, hspan]
      rw [dif_pos hds]

theorem interpretVcpFeatureResponseStd_spec (code : Byte) (data tail : List Byte) :
    (data.length = 8 ∧ (data.getD 1 0 = 0 ∨ data.getD 1 0 = 1) ∧ data.getD 2 0 = code →
      interpretVcpFeatureResponseStd (data ++ tail) data.length code = .ok (ddcrcOk,
        if data.getD 1 0 = 0 then
          ⟨data.getD 2 0, true, true, data.getD 4 0, data.getD 5 0, data.getD 6 0, data.getD 7 0⟩
        else ⟨data.getD 2 0, true, false, 0, 0, 0, 0⟩)) ∧
    (¬ (data.length = 8 ∧ (data.getD 1 0 = 0 ∨ data.getD 1 0 = 1) ∧ data.getD 2 0 = code) →
      ∃ r, interpretVcpFeatureResponseStd (data ++ tail) data.length code = .ok (ddcrcDdcData, r)) := by
  unfold interpretVcpFeatureResponseStd
  by_cases h8 : data.length = 8
  · rw [if_neg (fun h => h h8)]
    match data, h8 with
    | [d0, d1, d2, d3, d4, d5, d6, d7], _ =>
      simp only [cons_append, fetch_cons_succ, fetch_cons_zero, ok_bind, getD_cons_succ,
        getD_cons_zero, length_cons, length_nil, true_and, Nat.reduceAdd]
      constructor
      · rintro ⟨h1, rfl⟩
        rw [if_neg (fun h => h rfl)]
        rcases h1 with rfl | rfl
        · rfl
        · rfl
      · intro hno
        by_cases h2 : d2 = code
        · rw [if_neg (fun h => h h2)]
          have h1 : ¬ (d1 = 0 ∨ d1 = 1) := fun h => hno ⟨h, h2⟩
          rw [if_pos (fun h => h1 (.inl h)), if_neg (fun h => h1 (.inr h))]; exact ⟨_, rfl⟩
        · rw [if_pos h2]; exact ⟨_, rfl⟩
  · rw [if_pos h8]; exact ⟨fun h => absurd h.1 h8, fun _ => ⟨_, rfl⟩⟩

def IsResponseType (t : Byte) : Prop :=
  t = ddcPacketTypeQueryVcpResponse ∨ t = ddcPacketTypeCapabilitiesResponse ∨ t = ddcPacketTypeTableReadResponse

theorem interpretPacketData_spec (hp : Framed p data) (t code : Byte) (ht : IsResponseType t) (hd : data.head? = some t)
    (h35 : data.length ≤ maxDdcDataSize) :
    (GoodData t code data → ∃ r, interpretPacketData p t code = .ok (ddcrcOk, r) ∧ Decoded t data r) ∧
    (¬ GoodData t code data → ∃ r, interpretPacketData p t code = .ok (ddcrcDdcData, r)) := by
  obtain ⟨tail, htail⟩ := hp.data_drop
  unfold interpretPacketData GoodData Decoded
  simp only [hp.getDataLen_eq, htail]
  by_cases hv : t = ddcPacketTypeQueryVcpResponse
  · have hm : ¬ (t = ddcPacketTypeCapabilitiesResponse ∨ t = ddcPacketTypeTableReadResponse) := by
      rw [hv]; decide
    simp only [if_pos hv, if_neg hm]
    obtain ⟨hgood, hbad⟩ := interpretVcpFeatureResponseStd_spec code data tail
    constructor
    · intro h
      rw [hgood h.2]; exact ⟨_, rfl, rfl⟩
    · intro h
      obtain ⟨r, hr⟩ := hbad fun h' => h ⟨hd, h'⟩
      rw [hr]; exact ⟨_, rfl⟩
  · have hm : t = ddcPacketTypeCapabilitiesResponse ∨ t = ddcPacketTypeTableReadResponse := ht.resolve_left hv
    simp only [if_neg hv, if_pos hm]
    obtain ⟨hshort, hlong⟩ := interpretMultiPartReadResponse_spec t data tail hd h35
    constructor
    · intro h
      obtain ⟨f, hf, hdec⟩ := hlong h.2
      rw [hf]; exact ⟨_, rfl, f, rfl, hdec⟩
    · intro h
      rw [hshort (Nat.lt_of_not_le fun h3 => h ⟨hd, h3⟩)]; exact ⟨_, rfl⟩

/-- **What a status and a packet say about the bytes they were made from.** -/
structure Verdict (bytes : List Byte) (t code : Byte) (rc : Status) (packet : Option DdcPacket) : Prop where
  accepts : rc = ddcrcOk ↔ ∃ data, Envelope (dropQuirk bytes) data ∧ GoodData t code data
  packet_iff : packet.isSome = true ↔ rc = ddcrcOk
  null_iff : rc = ddcrcNullResponse ↔ Envelope (dropQuirk bytes) []
  status : rc = ddcrcOk ∨ rc = ddcrcNullResponse ∨ rc = ddcrcDdcData
  decoded : ∀ p data, packet = some p → Envelope (dropQuirk bytes) data → Decoded t data p.parsed

theorem not_goodData_nil (t code : Byte) : ¬ GoodData t code [] := fun h => by cases h.1

theorem Verdict.null (t code : Byte) (h : Envelope (dropQuirk bytes) []) :
    Verdict bytes t code ddcrcNullResponse none where
  accepts := ⟨fun h0 => absurd h0 (by decide), fun ⟨d, hd, hg⟩ => absurd (hd.unique h ▸ hg) (not_goodData_nil t code)⟩
  packet_iff := ⟨fun h0 => absurd h0 (by decide), fun h0 => absurd h0 (by decide)⟩
  null_iff := ⟨fun _ => h, fun _ => rfl⟩
  status := .inr (.inl rfl)
  decoded := fun p d h0 => by cases h0

theorem Verdict.rejected {t code : Byte} (hnil : ¬ Envelope (dropQuirk bytes) [])
    (hno : ∀ data, Envelope (dropQuirk bytes) data → ¬ GoodData t code data) :
    Verdict bytes t code ddcrcDdcData none where
  accepts := ⟨fun h0 => absurd h0 (by decide), fun ⟨d, hd, hg⟩ => absurd hg (hno d hd)⟩
  packet_iff := ⟨fun h0 => absurd h0 (by decide), fun h0 => absurd h0 (by decide)⟩
  null_iff := ⟨fun h0 => absurd h0 (by decide), fun h0 => absurd h0 hnil⟩
  status := .inr (.inr rfl)
  decoded := fun p d h0 => by cases h0

theorem Verdict.accepted {t code : Byte} (henv : Envelope (dropQuirk bytes) data) (hg : GoodData t code data)
    (hdec : Decoded t data p.parsed) :
    Verdict bytes t code ddcrcOk (some p) where
  accepts := ⟨fun _ => ⟨data, henv, hg⟩, fun _ => rfl⟩
  packet_iff := ⟨fun _ => rfl, fun _ => rfl⟩
  null_iff := ⟨fun h0 => absurd h0 (by decide),
    fun h0 => absurd (h0.unique henv ▸ hg) (not_goodData_nil t code)⟩
  status := .inl rfl
  decoded := fun q d h0 hd => by
    cases h0
    rw [hd.unique henv]; exact hdec

/-- **On 40 bytes `create_ddc_typed_response_packet` accepts exactly the well formed responses of the expected type**,
with a packet that says what the data say; a null message and everything else have a status each. -/
theorem createDdcTypedResponsePacket_verdict (bytes : List Byte) (t code : Byte) (hlen : bytes.length = 40)
    (ht : IsResponseType t) :
    ∃ rc packet, createDdcTypedResponsePacket bytes 40 t code = .ok (rc, packet) ∧ Verdict bytes t code rc packet := by
  obtain ⟨henv, hno⟩ := createDdcResponsePacket_spec hlen t
  unfold createDdcTypedResponsePacket
  by_cases he : ∃ data, Envelope (dropQuirk bytes) data
  · obtain ⟨data, hdata⟩ := he
    obtain ⟨p, hp, hr⟩ := henv data hdata
    obtain ⟨-, -, -, -, h35⟩ := id hdata
    rw [hr, ok_bind]
    by_cases hnil : data = []
    · subst hnil; exact ⟨ddcrcNullResponse, none, rfl, Verdict.null t code hdata⟩
    have hnil' : ¬ Envelope (dropQuirk bytes) [] := fun h => hnil (hdata.unique h)
    rw [if_neg hnil]
    by_cases hd : data.head? = some t
    · rw [if_pos hd]
      obtain ⟨hgood, hbad⟩ := interpretPacketData_spec hp t code ht hd h35
      by_cases hg : GoodData t code data
      · obtain ⟨r, hi, hdec⟩ := hgood hg
        refine ⟨ddcrcOk, some { p with parsed := r }, ?_, Verdict.accepted hdata hg hdec⟩
        simp only [hi, ok_bind]; rfl
      · obtain ⟨r, hi⟩ := hbad hg
        refine ⟨ddcrcDdcData, none, ?_, Verdict.rejected hnil' fun d hd' => hd'.unique hdata ▸ hg⟩
        simp only [hi, ok_bind]; rfl
    · rw [if_neg hd]
      exact ⟨ddcrcDdcData, none, rfl, Verdict.rejected hnil' fun d hd' hg => hd (hd'.unique hdata ▸ hg.1)⟩
  · have hno' : ∀ data, ¬ Envelope (dropQuirk bytes) data := fun d hd => he ⟨d, hd⟩
    rw [hno hno', ok_bind]
    exact ⟨ddcrcDdcData, none, rfl, Verdict.rejected (hno' []) fun d hd => absurd hd (hno' d)⟩

def unsupportedReply : List Byte :=
  [0x6e, 0x88, 0x02, 0x01, 0x10, 0x00, 0x00, 0x64, 0x00, 0x32, 0xf3] ++ List.replicate 29 0

theorem createDdcTypedResponsePacket_verdict_unsupported :
    ∃ rc packet, createDdcTypedResponsePacket unsupportedReply 40 0x02 0x10 = .ok (rc, packet) ∧
      Verdict unsupportedReply 0x02 0x10 rc packet :=
  createDdcTypedResponsePacket_verdict unsupportedReply 0x02 0x10 rfl (.inl rfl)

/-- **An accepted reply whose decoded values are not the ones in its data.** -/
theorem unsupportedReply_values_dropped :
    ∃ p r, createDdcTypedResponsePacket unsupportedReply 40 0x02 0x10 = .ok (ddcrcOk, some p) ∧
      p.parsed = some (.nontableResponse r) ∧
      Envelope (dropQuirk unsupportedReply) [0x02, 0x01, 0x10, 0x00, 0x00, 0x64, 0x00, 0x32] ∧
      r.ml ≠ [0x02, 0x01, 0x10, 0x00, 0x00, 0x64, 0x00, (0x32 : Byte)].getD 5 0 ∧
      r.sl ≠ [0x02, 0x01, 0x10, 0x00, 0x00, 0x64, 0x00, (0x32 : Byte)].getD 7 0 :=
  ⟨_, ⟨0x10, true, false, 0, 0, 0, 0⟩, rfl, rfl, ⟨0x88, List.replicate 29 0, rfl, rfl, by decide⟩, by decide, by decide⟩

end Ddc
