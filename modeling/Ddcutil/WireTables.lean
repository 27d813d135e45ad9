import Ddcutil.WireRuns
import Ddcutil.MultiPartWrite
import Ddcutil.TryData
/-!
# WireTables — what a monitor stores, read and written in fragments over the bus

The fragments of a multi part read are each an exchange of `Wire` with retries, and the packets of a multi part write
are each written with retries.
-/
namespace Ddc.Wire

open Kit List Exec

variable {m : Monitor} {t sub : Byte} {call : ReadCall} {f : InterpretedMultiPartReadFragment}
  {display : Display} {n : Nat}

/-! ## A fragment -/

/-- What the requests of a type and subtype read. -/
def stored (m : Monitor) (t sub : Byte) : List Byte :=
  if t = ddcPacketTypeCapabilitiesRequest then m.capabilities else m.tables sub

def responseType (t : Byte) : Byte :=
  if t = ddcPacketTypeCapabilitiesRequest then ddcPacketTypeCapabilitiesResponse else ddcPacketTypeTableReadResponse

/-- **The fragment comes from the monitor**: a call of `ddc_write_read_with_retry` with any settings and any noise that
spares the length byte made it. -/
inductive Fetched (m : Monitor) (call : ReadCall) : InterpretedMultiPartReadFragment → Prop where
  | intro {sim : Bool} {st : RetrySettings} {state : DdcState} {wcall : WriteReadCall} {noise : Nat → Noise}
      {r : WriteReadReturn} {f : InterpretedMultiPartReadFragment} (hstate : state.pdd.Sound)
      (htype : wcall.expectedResponseType = call.expectedType) (hspares : ∀ k, (noise k).Spares call.expectedType)
      (htries : TriesOn sim m noise call.request call.expectedSubtype wcall)
      (hr : ddcWriteReadWithRetry st state wcall = .ok r)
      (hf : r.packet.bind DdcPacket.parsed = some (.multiPartReadFragment f)) : Fetched m call f

/-- The call asks for a type and subtype, from some offset on. -/
structure AsksFor (t sub : Byte) (call : ReadCall) : Prop where
  type : call.expectedType = responseType t
  subtype : call.expectedSubtype = sub
  carries : ∃ hi lo, Carries call.request 0x51 (readRequestData t sub hi lo)

section
variable (ht : t = ddcPacketTypeCapabilitiesRequest ∨ t = ddcPacketTypeTableReadRequest)
include ht

theorem responseType_ne : responseType t ≠ ddcPacketTypeQueryVcpResponse := by
  rcases ht with rfl | rfl
  · decide
  · decide

theorem answered_multiPart (m : Monitor) (sub hi lo : Byte) :
    Answered m (readRequestData t sub hi lo) (responseType t) sub
      (m.fragmentReply (responseType t) (stored m t sub) hi lo) where
  handle := by
    rcases ht with rfl | rfl
    · rfl
    · rfl
  type := by
    rcases ht with rfl | rfl
    · exact .inr (.inl rfl)
    · exact .inr (.inr rfl)
  good := by
    rcases ht with rfl | rfl
    · exact ⟨rfl, Nat.le_add_left 3 _⟩
    · exact ⟨rfl, Nat.le_add_left 3 _⟩
  fits := by
    have hle := (m.hfragment (hiLoBytesToShort hi lo)).2
    have htake := length_take_le (m.fragmentSize (hiLoBytesToShort hi lo))
      ((stored m t sub).drop (hiLoBytesToShort hi lo))
    unfold maxDdcMultiPartFragmentSize at hle
    simp only [Monitor.fragmentReply, length_cons, maxDdcDataSize]; omega

/-- **A fragment is what is stored from the offset on** that the request asks for. -/
theorem Fetched.fragment (h : Fetched m call f) (hasks : AsksFor t sub call) :
    f.fragmentOffset = requestedOffset call ∧
      f.bytes = ((stored m t sub).drop (requestedOffset call)).take (m.fragmentSize (requestedOffset call)) := by
  obtain ⟨htype, rfl, hi, lo, hcar⟩ := hasks
  have hoffset : requestedOffset call = hiLoBytesToShort hi lo := by
    rw [requestedOffset, hcar.contents, hcar.type]
    rcases ht with rfl | rfl
    · rfl
    · rfl
  cases h with
  | intro hstate htype' hspares htries hr hf =>
    rw [htype] at htype' hspares
    have hanswered := answered_multiPart ht m call.expectedSubtype hi lo
    rw [← htype'] at hanswered hspares
    obtain ⟨r', hr', -, hdec, -⟩ := ddcWriteReadWithRetry_answered _ hstate hcar hanswered hspares htries
    obtain rfl := Except.ok.inj (hr.symm.trans hr')
    obtain ⟨p, hp, hparsed⟩ := Option.bind_eq_some_iff.1 hf
    have hd := hdec p hp
    rw [htype', Decoded, if_neg (responseType_ne ht)] at hd
    obtain ⟨f', hf', -, ho, hb⟩ := hd
    rw [hparsed] at hf'
    cases hf'
    rw [hoffset]
    exact ⟨ho.trans (hiLoBytesToShort_eq hi lo).symm, hb⟩

/-! ## A read in fragments -/

/-- **Every fragment that a try gets comes from the monitor**, for a request with the offset reached. -/
def OverWire (m : Monitor) (t sub : Byte) (display : Display) : Prop :=
  ∀ k f, display k = .ok f → ∃ call, AsksFor t sub call ∧ requestedOffset call = (assembled display k).length ∧
    Fetched m call f

theorem OverWire.fragment (h : OverWire m t sub display) (hf : display n = .ok f) : f.bytes =
    ((stored m t sub).drop (assembled display n).length).take (m.fragmentSize (assembled display n).length) := by
  obtain ⟨call, hasks, hoffset, hfetched⟩ := h n f hf
  rw [← hoffset]; exact (hfetched.fragment ht hasks).2

/-- **The fragments are the beginning of what is stored.** -/
theorem OverWire.assembled (h : OverWire m t sub display) :
    ∀ n, (∀ i < n, Extends display i) → assembled display n = (stored m t sub).take (assembled display n).length := by
  intro n
  induction n with
  | zero => exact fun _ => rfl
  | succ n ih =>
    intro hext
    obtain ⟨f, hf, -, -⟩ := hext n (Nat.lt_succ_self n)
    have htake : ((stored m t sub).drop (Ddc.assembled display n).length).take f.bytes.length = f.bytes := by
      rw [h.fragment ht hf, length_take, ← take_eq_take_min]
    rw [assembled_succ hf, length_append, take_add, ← ih fun i hi => hext i (Nat.lt_succ_of_lt hi), htake]

theorem OverWire.fits (h : OverWire m t sub display) (hsize : (stored m t sub).length ≤ 2046) :
    FitsAccumulator display := by
  intro k hext
  rw [h.assembled ht (k + 1) fun i hi => hext i (Nat.le_of_lt_succ hi), length_take]
  exact Nat.le_trans (Nat.min_le_right _ _) hsize

theorem OverWire.value (h : OverWire m t sub display) {value : List Byte} (hvalue : ValueOf display value) :
    value = stored m t sub := by
  obtain ⟨n, f, hext, hf, -, hnil, rfl⟩ := hvalue
  have hrest := h.fragment ht hf
  rw [hnil, eq_comm, take_eq_nil_iff] at hrest
  have hpos := (m.hfragment (Ddc.assembled display n).length).1
  rw [h.assembled ht n hext]
  exact take_of_length_le (drop_eq_nil_iff.1 (hrest.resolve_left (by omega)))

/-- **A read with its retries returns all that the monitor has, or an error alone**, whatever noise the exchanges of its
tries met. -/
theorem multiPartReadWithRetry_stored {displays : Nat → Display} (flags : WriteReadFlags) (maxTries : MaxTries)
    (hflags : flags.capabilities = true ∨ flags.tableRead = true) (hsize : (stored m t sub).length ≤ 2046)
    (hneg : ∀ k j e, displays k j = .error e → e.statusCode < 0) (hwire : ∀ k, OverWire m t sub (displays k)) :
    ∃ excp buf, multiPartReadWithRetry displays maxTries t sub flags = .ok (excp, buf) ∧
      (excp = none ↔ buf.isSome = true) ∧ ∀ b, buf = some b → b.contents = stored m t sub := by
  obtain ⟨excp, buf, hr, hiff, hvalue⟩ := multiPartReadWithRetry_value displays sub flags maxTries ht hflags
    (fun k _ => (hwire k).fits ht hsize) hneg
  refine ⟨excp, buf, hr, hiff, fun b hb => ?_⟩
  obtain ⟨k, -, hk⟩ := hvalue b hb
  exact (hwire k).value ht hk

/-! ## A read over a clear bus -/

theorem asksFor_offset (sub : Byte) (hn : n < 65536) : ∃ call, AsksFor t sub call ∧ requestedOffset call = n := by
  obtain ⟨p, -, hcar⟩ := createDdcMultiPartReadRequestPacket_ok t sub ht
  obtain ⟨p', -, hcar'⟩ := updateDdcMultiPartReadRequestPacketOffset_ok n ht hcar
  exact ⟨⟨p', responseType t, sub, ⟨false, false, false⟩⟩, ⟨rfl, rfl, _, _, hcar'⟩,
    requestedOffset_of_carries hn ht hcar'⟩

theorem fetched_clear (m : Monitor) (hasks : AsksFor t sub call) : ∃ f, Fetched m call f := by
  obtain ⟨htype, rfl, hi, lo, hcar⟩ := hasks
  obtain ⟨wcall, r, p, hwcall, htries, hr, hp, hdec⟩ := clearCall defaultTries quietDisplay_sound hcar
    (answered_multiPart ht m call.expectedSubtype hi lo)
  rw [Decoded, if_neg (responseType_ne ht)] at hdec
  obtain ⟨f, hf, -⟩ := hdec
  exact ⟨f, .intro quietDisplay_sound (hwcall.trans htype.symm) (fun k => .inr fun x hx => by cases hx) htries hr
    (by rw [hp]; exact hf)⟩

end

/-- The capabilities of `dimMonitor` are two bytes, and an empty fragment follows them. -/
theorem multiPartReadWithRetry_stored_dim : ∃ display excp buf,
    OverWire dimMonitor ddcPacketTypeCapabilitiesRequest 0 display ∧
    multiPartReadWithRetry (fun _ => display) initialMaxMultiExchangeTries ddcPacketTypeCapabilitiesRequest 0
      ⟨false, true, false⟩ = .ok (excp, buf) ∧ (excp = none ↔ buf.isSome = true) ∧
    ∀ b, buf = some b → b.contents = stored dimMonitor ddcPacketTypeCapabilitiesRequest 0 := by
  have hfetched : ∀ n < 65536, ∃ call f, AsksFor ddcPacketTypeCapabilitiesRequest 0 call ∧ requestedOffset call = n ∧
      Fetched dimMonitor call f ∧ f.bytes = ([0x28, 0x29].drop n).take 32 := by
    intro n hn
    obtain ⟨call, hasks, hoffset⟩ := asksFor_offset (.inl rfl) 0 hn
    obtain ⟨f, hf⟩ := fetched_clear (.inl rfl) dimMonitor hasks
    exact ⟨call, f, hasks, hoffset, hf, hoffset ▸ (hf.fragment (.inl rfl) hasks).2⟩
  obtain ⟨call₀, f₀, hasks₀, hoffset₀, hf₀, hbytes₀⟩ := hfetched 0 (by decide)
  obtain ⟨call₂, f₂, hasks₂, hoffset₂, hf₂, hbytes₂⟩ := hfetched 2 (by decide)
  have hassembled : ∀ k, (Ddc.assembled (fun k => .ok (if k = 0 then f₀ else f₂)) (k + 1)).length = 2 := by
    intro k
    induction k with
    | zero => rw [assembled_succ rfl, if_pos rfl, hbytes₀]; rfl
    | succ k ih => rw [assembled_succ rfl, if_neg (Nat.succ_ne_zero k), hbytes₂, length_append, ih]; rfl
  have hwire : OverWire dimMonitor ddcPacketTypeCapabilitiesRequest 0 fun k => .ok (if k = 0 then f₀ else f₂) := by
    intro k f hf
    cases hf
    cases k with
    | zero => exact ⟨call₀, hasks₀, hoffset₀, hf₀⟩
    | succ k => exact ⟨call₂, hasks₂, hoffset₂.trans (hassembled k).symm, hf₂⟩
  obtain ⟨excp, buf, hr⟩ := multiPartReadWithRetry_stored (.inl rfl) ⟨false, true, false⟩
    initialMaxMultiExchangeTries (.inl rfl) (by decide) (fun k j e he => by cases he) fun _ => hwire
  exact ⟨_, excp, buf, hwire, hr⟩

/-! ## A table that is written -/

/-- The monitors between the packets of a write, each of which is written with its retries. -/
def Written (ms : Nat → Monitor) (write : Nat → Option ErrorInfo) (sent : List DdcPacket) : Prop :=
  ∀ k p, sent[k]? = some p → ∃ noise maxTries pending pending',
    writeOnlyWithRetry noise maxTries (ms k, pending) p = .ok (write k, ms (k + 1), pending')

def withTable (m : Monitor) (code : Byte) (value : List Byte) : Monitor :=
  { m with tables := Function.update m.tables code value }

theorem setTable_withTable (m : Monitor) (code : Byte) (before payload : List Byte) :
    (withTable m code before).setTable code before.length payload = withTable m code (before ++ payload) := by
  simp [Monitor.setTable, withTable]

theorem setTable_setTable (m : Monitor) (code : Byte) (offset : Nat) (before payload : List Byte) :
    (m.setTable code offset before).setTable code offset payload = m.setTable code offset payload := by
  unfold Monitor.setTable
  by_cases h : offset ≤ (m.tables code).length
  · simp [h]
  · simp [h]

theorem writeFragments_sent {write : Nat → Option ErrorInfo} {code : Byte} {value : Buffer} {excp : Option ErrorInfo}
    {sent' : List DdcPacket} : ∀ (fuel offset rem : Nat) (sent : List DdcPacket),
      writeFragments write code value fuel offset rem sent = .ok (excp, sent') → sent <+: sent'
  | 0, _, _, _, h => by cases h
  | fuel + 1, offset, rem, sent, h => by
    rw [writeFragments] at h
    generalize (if rem ≤ 32 - 4 then rem else 32 - 4) = n at h
    obtain ⟨p, -, h⟩ := bind_eq_ok.1 h
    cases hw : write sent.length with
    | some e =>
      rw [hw] at h
      cases h; exact prefix_append sent [p]
    | none =>
      simp only [hw] at h
      by_cases hz : n = 0
      · rw [if_pos hz] at h
        cases h; exact prefix_append sent [p]
      · rw [if_neg hz] at h
        exact (prefix_append sent [p]).trans (writeFragments_sent fuel _ _ _ h)

/-- **What a write may leave**: the monitor as it was, or with the beginning of the value. -/
def LeavesPart (m : Monitor) (code : Byte) (value : List Byte) (m' : Monitor) : Prop :=
  m' = m ∨ ∃ n, m' = withTable m code (value.take n)

/-- **The run lemma**: from an offset on, up to which the monitor has the value, each packet adds its segment, and one
that fails may have added it. -/
theorem writeFragments_stores {ms : Nat → Monitor} {write : Nat → Option ErrorInfo} {code : Byte} {value : Buffer}
    (hvalue : value.len ≤ 255) {excp : Option ErrorInfo} {sent' : List DdcPacket} (hwritten : Written ms write sent') :
    ∀ (fuel offset rem : Nat) (sent : List DdcPacket), offset + rem = value.len →
      (ms sent.length).setTable code offset [] = withTable m code (value.contents.take offset) →
      LeavesPart m code value.contents (ms sent.length) →
      writeFragments write code value fuel offset rem sent = .ok (excp, sent') →
      (∀ k, sent.length ≤ k → k ≤ sent'.length → LeavesPart m code value.contents (ms k)) ∧
        (excp = none → ms sent'.length = withTable m code value.contents)
  | 0, _, _, _, _, _, _, h => by cases h
  | fuel + 1, offset, rem, sent, hsum, hms, hpart, h => by
    have hcl := value.length_contents
    have hbytes := Nat.le_trans value.hlen value.hsize
    obtain ⟨n, hn⟩ : ∃ n, n = if rem ≤ 32 - 4 then rem else 32 - 4 := ⟨_, rfl⟩
    have hn28 : n ≤ 28 := by rw [hn]; split <;> omega
    have hnrem : n ≤ rem := by rw [hn]; split <;> omega
    obtain ⟨p, hp, hcar⟩ := createDdcMultiPartWriteRequestPacket_ok code offset (value.bytes.drop offset) n hn28
      (by rw [length_drop]; omega)
    have hpay : (value.bytes.drop offset).take n = (value.contents.drop offset).take n := by
      rw [Buffer.contents, drop_take, take_take, Nat.min_eq_left (by omega)]
    have hhandle : ∀ m' : Monitor, (m'.handle (ddcPacketTypeTableWriteRequest :: code ::
        UInt8.ofNat ((offset >>> 16) &&& 0xff) :: UInt8.ofNat (offset &&& 0xff) ::
          (value.bytes.drop offset).take n)).1 = m'.setTable code offset ((value.contents.drop offset).take n) := by
      intro m'
      have hoffset := (encodedOffset_eq offset).trans ((encodedOffset_eq_self_iff offset).2 (by omega))
      rw [hpay]; exact congrArg (m'.setTable code · ((value.contents.drop offset).take n)) hoffset
    have hnext := setTable_withTable m code (value.contents.take offset) ((value.contents.drop offset).take n)
    rw [length_take_of_le (by omega), ← hms, setTable_setTable, ← take_add] at hnext
    have hpacket : sent ++ [p] <+: sent' → (ms (sent.length + 1) = ms sent.length ∨
        ms (sent.length + 1) = withTable m code (value.contents.take (offset + n))) ∧
        (write sent.length = none → ms (sent.length + 1) = withTable m code (value.contents.take (offset + n))) := by
      rintro ⟨rest, hrest⟩
      obtain ⟨noise, maxTries, pending, pending', hk⟩ := hwritten sent.length p (by rw [← hrest]; simp)
      have hleaves := writeOnlyWithRetry_leaves hcar (by rw [hhandle, hhandle, setTable_setTable]) hk
      rwa [hhandle, hnext] at hleaves
    have hlen : (sent ++ [p]).length = sent.length + 1 := length_append
    have hends : LeavesPart m code value.contents (ms (sent.length + 1)) → ∀ k, sent.length ≤ k →
        k ≤ (sent ++ [p]).length → LeavesPart m code value.contents (ms k) := by
      intro hnow k hk hk'
      rw [hlen] at hk'
      rcases Nat.eq_or_lt_of_le hk with rfl | hlt
      · exact hpart
      · rw [Nat.le_antisymm hk' hlt]; exact hnow
    rw [writeFragments] at h
    simp only [← hn, hp, ok_bind] at h
    cases hw : write sent.length with
    | some e =>
      rw [hw] at h
      cases h
      refine ⟨hends ?_, fun he => by cases he⟩
      rcases (hpacket prefix_rfl).1 with h | h
      · rw [h]; exact hpart
      · exact .inr ⟨_, h⟩
    | none =>
      simp only [hw] at h
      by_cases hz : n = 0
      · have hrem : rem = 0 := by split at hn <;> omega
        rw [if_pos hz] at h
        cases h
        have hstored := (hpacket prefix_rfl).2 hw
        refine ⟨hends (.inr ⟨_, hstored⟩), fun _ => ?_⟩
        rw [hlen, hstored, take_of_length_le (by omega)]
      · rw [if_neg hz] at h
        have hstored := (hpacket (writeFragments_sent _ _ _ _ h)).2 hw
        have hempty := setTable_withTable m code (value.contents.take (offset + n)) []
        rw [length_take_of_le (by omega), append_nil] at hempty
        obtain ⟨hparts, hdone⟩ := writeFragments_stores hvalue hwritten fuel (offset + n) (rem - n) (sent ++ [p])
          (by omega) (by rw [hlen, hstored, hempty]) (by rw [hlen]; exact .inr ⟨_, hstored⟩) h
        refine ⟨fun k hk hk' => ?_, hdone⟩
        rcases Nat.eq_or_lt_of_le hk with rfl | hlt
        · exact hpart
        · exact hparts k (by rw [hlen]; exact hlt) hk'

theorem tryMultiPartWrite_stores {ms : Nat → Monitor} {write : Nat → Option ErrorInfo} {code : Byte} {value : Buffer}
    (hvalue : value.len ≤ 255) {excp : Option ErrorInfo} {sent : List DdcPacket} (hwritten : Written ms write sent)
    (hwrite : tryMultiPartWrite write code value = .ok (excp, sent)) :
    (∀ k ≤ sent.length, LeavesPart (ms 0) code value.contents (ms k)) ∧
      (excp = none → ms sent.length = withTable (ms 0) code value.contents) := by
  have hempty : (ms 0).setTable code 0 [] = withTable (ms 0) code (value.contents.take 0) := by
    simp [Monitor.setTable, withTable]
  obtain ⟨hparts, hdone⟩ := writeFragments_stores hvalue hwritten (value.len + 1) 0 value.len [] (Nat.zero_add _) hempty
    (.inl rfl) hwrite
  exact ⟨fun k hk => hparts k (Nat.zero_le k) hk, hdone⟩

/-- **A write that fails leaves no other bytes**: at any time the monitor is as it was or has the beginning of the
value, and nothing else of it changes. -/
theorem tableWrite_leavesPart {ms : Nat → Monitor} {write : Nat → Option ErrorInfo} {code : Byte} {value : Buffer}
    (hvalue : value.len ≤ 255) {excp : Option ErrorInfo} {sent : List DdcPacket} (hwritten : Written ms write sent)
    (hwrite : tryMultiPartWrite write code value = .ok (excp, sent)) {k : Nat} (hk : k ≤ sent.length) :
    ms k = ms 0 ∨ ∃ n, ms k = withTable (ms 0) code (value.contents.take n) :=
  (tryMultiPartWrite_stores hvalue hwritten hwrite).1 k hk

def shortTable : Buffer := ⟨[5], 1, 1, 0, Nat.le_refl 1, Nat.le_refl 1⟩

/-- The first of two packets is received and its write reported as failed. -/
theorem tableWrite_leavesPart_short : ∃ ms e sent, Written ms (fun _ => some e) sent ∧
    tryMultiPartWrite (fun _ => some e) 0x73 shortTable = .ok (some e, sent) ∧
      (ms 1 = dimMonitor ∨ ∃ n, ms 1 = withTable dimMonitor 0x73 (shortTable.contents.take n)) := by
  obtain ⟨p, hp, hcar⟩ := createDdcMultiPartWriteRequestPacket_ok 0x73 0 [5] 1 (by decide) (by decide)
  have hfails : ∃ e m pending, writeOnlyWithRetry (fun _ => .writeFails (-5) (by decide) true)
      initialMaxWriteOnlyExchangeTries (dimMonitor, []) p = .ok (some e, m, pending) := by
    rw [writeOnlyWithRetry, (sent_of_carries hcar).2, ok_bind]; exact ⟨_, _, _, rfl⟩
  obtain ⟨e, m, pending, hfails⟩ := hfails
  have hsent : tryMultiPartWrite (fun _ => some e) 0x73 shortTable = .ok (some e, [p]) := by
    simp [tryMultiPartWrite, writeFragments, shortTable, hp]
  have hwritten : Written (fun k => if k = 0 then dimMonitor else m) (fun _ => some e) [p] := by
    intro k r hk
    rcases k with _ | k
    · cases hk; exact ⟨_, _, _, _, hfails⟩
    · cases hk
  exact ⟨_, e, [p], hwritten, hsent, tableWrite_leavesPart (by decide) hwritten hsent (Nat.le_refl 1)⟩

/-- **A table that is written is what is read**: once every packet has been written, whatever noise they met, the
monitor has the value and is otherwise as it was, and a read that returns a value returns this one. -/
theorem tableValue_read {ms : Nat → Monitor} {write : Nat → Option ErrorInfo} {code : Byte} {value : Buffer}
    (hvalue : value.len ≤ 255) {sent : List DdcPacket} (hwritten : Written ms write sent)
    (hwrite : tryMultiPartWrite write code value = .ok (none, sent)) :
    ms sent.length = withTable (ms 0) code value.contents ∧
      ∀ displays flags maxTries excp buf,
        (∀ k, OverWire (ms sent.length) ddcPacketTypeTableReadRequest code (displays k)) →
        multiPartReadWithRetry displays maxTries ddcPacketTypeTableReadRequest code flags = .ok (excp, some buf) →
        buf.contents = value.contents := by
  have hstored := (tryMultiPartWrite_stores hvalue hwritten hwrite).2 rfl
  refine ⟨hstored, fun displays flags maxTries excp buf hwire hread => ?_⟩
  obtain ⟨-, hbuf⟩ := multiPartReadWithRetry_reads (.inr rfl) hread
  obtain ⟨-, -, k, -, hk⟩ := hbuf buf rfl
  rw [(hwire k).value (.inr rfl) hk, hstored]
  simp [stored, withTable, ddcPacketTypeTableReadRequest, ddcPacketTypeCapabilitiesRequest]

/-- A table of one byte takes a packet for the byte and an empty one. -/
theorem tableValue_read_short : ∃ ms sent, Written ms (fun _ => none) sent ∧
    ms sent.length = withTable dimMonitor 0x73 [5] ∧
      ∀ displays flags maxTries excp buf,
        (∀ k, OverWire (ms sent.length) ddcPacketTypeTableReadRequest 0x73 (displays k)) →
        multiPartReadWithRetry displays maxTries ddcPacketTypeTableReadRequest 0x73 flags = .ok (excp, some buf) →
        buf.contents = [5] := by
  obtain ⟨p, hp, hcar⟩ := createDdcMultiPartWriteRequestPacket_ok 0x73 0 [5] 1 (by decide) (by decide)
  obtain ⟨q, hq, hcar'⟩ := createDdcMultiPartWriteRequestPacket_ok 0x73 1 [] 0 (by decide) (by decide)
  have hsent : tryMultiPartWrite (fun _ => none) 0x73 shortTable = .ok (none, [p, q]) := by
    simp [tryMultiPartWrite, writeFragments, shortTable, hp, hq]
  have hwrites : ∀ {p data} m, Carries p 0x51 data → ∃ m' pending, writeOnlyWithRetry (fun _ => .clear)
      initialMaxWriteOnlyExchangeTries (m, []) p = .ok (none, m', pending) := by
    intro p data m hcar
    rw [writeOnlyWithRetry, (sent_of_carries hcar).2, ok_bind]; exact ⟨_, _, rfl⟩
  obtain ⟨m₁, pending₁, h₁⟩ := hwrites dimMonitor hcar
  obtain ⟨m₂, pending₂, h₂⟩ := hwrites m₁ hcar'
  have hwritten : Written (fun k => if k = 0 then dimMonitor else if k = 1 then m₁ else m₂) (fun _ => none) [p, q] := by
    intro k r hk
    rcases k with _ | _ | k
    · cases hk; exact ⟨_, _, _, _, h₁⟩
    · cases hk; exact ⟨_, _, _, _, h₂⟩
    · cases hk
  exact ⟨_, [p, q], hwritten, tableValue_read (by decide) hwritten hsent⟩

end Ddc.Wire
