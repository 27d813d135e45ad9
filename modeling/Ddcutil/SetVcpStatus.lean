import Ddcutil.MultiPartWrite
import Ddcutil.SetVcpVerify
/-!
# SetVcpStatus — what a set reports of the writes under it

`ddc_set_vcp_value` without verification, `ddc_set_nontable_vcp_value`, `set_table_vcp_value` and
`multi_part_write_with_retry`, over what the layers below them report: the packet writes over I2C, each with its own
retries, and the control write over USB.
-/
namespace Ddc

open Kit List Exec

def eInval : Int := 22

/-- **What the layers below report**: each call of `ddc_write_only_with_retry` by its number, and
`set_usage_value_by_report_type_and_ucode`.  The status of an error is negative. -/
structure WriteReports where
  packet : Nat → Option ErrorInfo
  negative : ∀ k e, packet k = some e → e.statusCode < 0
  usbControl : Status

theorem ddcWriteOnlyWithRetry_negative {write : Nat → Status} {maxTries : MaxTries} {start n : Nat} {e : ErrorInfo}
    (h : ddcWriteOnlyWithRetry write maxTries start = .ok (some e, n)) : e.statusCode < 0 := by
  rcases ddcWriteOnlyWithRetry_cases write maxTries start with ⟨-, m, hr⟩ | ⟨-, ⟨e', m, hr, hst⟩ | hr⟩
  · rw [hr] at h; cases h
  · rw [hr] at h
    cases h
    rcases hst with hst | hst
    · rw [hst]; decide
    · rw [hst]; decide
  · rw [hr] at h; cases h

namespace Reported

/-! ## The functions -/

def bufferNewWithValue (bytes : List Byte) : Buffer where
  bytes := bytes ++ List.replicate 16 0
  len := bytes.length
  bufferSize := bytes.length
  sizeIncrement := 0
  hlen := Nat.le_refl _
  hsize := by rw [length_append]; exact Nat.le_add_right _ _

/-- The state of the loop of `multi_part_write_with_retry`, with the number of packets written. -/
structure WriteTries where
  rc : Status
  ddcExcp : Option ErrorInfo
  tryErrors : List (Option ErrorInfo)
  tryctr : Nat
  packets : Nat

def excpMatches (ddcExcp : Option ErrorInfo) (rc : Status) : Prop := ddcExcp.isSome ∧ rc < 0 ∨ ddcExcp = none ∧ rc = 0

instance (ddcExcp : Option ErrorInfo) (rc : Status) : Decidable (excpMatches ddcExcp rc) := by
  unfold excpMatches
  infer_instance

def multiPartTry (w : WriteReports) (vcpCode : Byte) (valueToSet : Buffer) (s : WriteTries) : Exec WriteTries := do
  let r ← tryMultiPartWrite (fun k => w.packet (s.packets + k)) vcpCode valueToSet
  check (s.tryctr < maxMaxTries)
  check (excpMatches r.1 (errinfoStatus r.1))
  .ok ⟨errinfoStatus r.1, r.1, s.tryErrors ++ [r.1], s.tryctr + 1, s.packets + r.2.length⟩

def multiPartWriteWithRetry (w : WriteReports) (maxTries : MaxTries) (start : Nat) (vcpCode : Byte)
    (valueToSet : Buffer) : Exec (Option ErrorInfo) := do
  let s ← forWhile (fun s => s.rc < 0) (multiPartTry w vcpCode valueToSet) maxTries.val ⟨-1, none, [], 0, start⟩
  check (excpMatches s.ddcExcp s.rc)
  if s.rc < 0 then
    .ok (some (errinfoNewWithCauses ddcrcRetries s.tryErrors.reduceOption "multi_part_write_with_retry"))
  else .ok s.ddcExcp

def usbSetNontableVcpValue (w : WriteReports) : Status :=
  if w.usbControl = -eInval then ddcrcReportedUnsupported else w.usbControl

def ddcSetNontableVcpValue (w : WriteReports) (altSourceAddr : Byte) (ioMode : IoMode) (start : Nat)
    (featureCode : Byte) (newValue : Nat) : Exec (Option ErrorInfo) :=
  match ioMode with
  | .usb =>
    let _ := usbSetNontableVcpValue w
    .ok none
  | .i2c => do
    let _ ← createDdcSetvcpRequestPacket altSourceAddr featureCode newValue
    .ok (w.packet start)

def setTableVcpValue (w : WriteReports) (maxTries : MaxTries) (ioMode : IoMode) (start : Nat) (featureCode : Byte)
    (bytes : List Byte) : Exec (Option ErrorInfo) :=
  match ioMode with
  | .usb => .ok (some ⟨ddcrcUnimplemented, "set_table_vcp_value", some "Error setting feature value", []⟩)
  | .i2c => multiPartWriteWithRetry w maxTries start featureCode (bufferNewWithValue bytes)

/-- `ddc_set_vcp_value` with verification off; `start` is the number of packets written before. -/
def ddcSetVcpValue (w : WriteReports) (maxTries : MaxTries) (altSourceAddr : Byte) (ioMode : IoMode) (start : Nat)
    (vrec : AnyVcpValue) : Exec (Option ErrorInfo) :=
  match vrec.val with
  | .cNc _ _ sh sl => ddcSetNontableVcpValue w altSourceAddr ioMode start vrec.opcode (hiLoBytesToShort sh sl)
  | .t bytes => setTableVcpValue w maxTries ioMode start vrec.opcode bytes

/-! ## What the layers report of a value -/

/-- The packets that a table value takes: its fragments, and an empty one at the end. -/
def packetCount (len : Nat) : Nat := (len + 27) / 28 + 1

/-- **A table value is written**: in one of the tries every packet write reports success; a try ends at its first packet
that does not. -/
inductive TableWritten (w : WriteReports) (packets : Nat) : Nat → Nat → Prop
  | written {tries start : Nat} (h : ∀ j < packets, w.packet (start + j) = none) :
      TableWritten w packets (tries + 1) start
  | retried {tries start j : Nat} (hj : j < packets) (hbefore : ∀ i < j, w.packet (start + i) = none)
      (hfail : w.packet (start + j) ≠ none) (h : TableWritten w packets tries (start + (j + 1))) :
      TableWritten w packets (tries + 1) start

/-- **The writes under a set report success.**  Over USB no table value can be written. -/
def WritesSucceed (w : WriteReports) (maxTries : MaxTries) (start : Nat) : IoMode → VcpValue → Prop
  | .usb, .cNc .. => usbSetNontableVcpValue w = 0
  | .usb, .t _ => False
  | .i2c, .cNc .. => w.packet start = none
  | .i2c, .t bytes => TableWritten w (packetCount bytes.length) maxTries.val start

def layerStatus (w : WriteReports) (start : Nat) : IoMode → VcpValue → Status
  | .usb, .cNc .. => usbSetNontableVcpValue w
  | .usb, .t _ => ddcrcUnimplemented
  | .i2c, .cNc .. => errinfoStatus (w.packet start)
  | .i2c, .t _ => ddcrcRetries

/-- **What is claimed of a set**: `NULL` exactly where the writes report success, and otherwise an error with the status
of the layer that fails. -/
def SetRight (w : WriteReports) (maxTries : MaxTries) (altSourceAddr : Byte) (ioMode : IoMode) (start : Nat)
    (vrec : AnyVcpValue) : Prop :=
  ∃ excp, ddcSetVcpValue w maxTries altSourceAddr ioMode start vrec = .ok excp ∧
    (excp = none ↔ WritesSucceed w maxTries start ioMode vrec.val) ∧
    ∀ e, excp = some e → e.statusCode = layerStatus w start ioMode vrec.val

/-! ## One try -/

theorem packetCount_step {rem : Nat} (h : rem ≠ 0) : packetCount rem = packetCount (rem - min rem 28) + 1 := by
  unfold packetCount; omega

theorem writeFragments_cases (write : Nat → Option ErrorInfo) (code : Byte) (value : Buffer) :
    ∀ (fuel offset rem : Nat) (sent : List DdcPacket), offset + rem = value.len → rem < fuel →
      ∃ r sent', writeFragments write code value fuel offset rem sent = .ok (r, sent') ∧
        ((∀ j < packetCount rem, write (sent.length + j) = none) ∧ r = none ∨
          ∃ j < packetCount rem, (∀ i < j, write (sent.length + i) = none) ∧ r ≠ none ∧
            write (sent.length + j) = r ∧ sent'.length = sent.length + (j + 1))
  | 0, _, _, _, _, h => absurd h (Nat.not_lt_zero _)
  | fuel + 1, offset, rem, sent, hlen, hfuel => by
    have hbytes := Nat.le_trans value.hlen value.hsize
    obtain ⟨n, hn⟩ : ∃ n, n = if rem ≤ 32 - 4 then rem else 32 - 4 := ⟨_, rfl⟩
    have hnmin : n = min rem 28 := by rw [hn]; split <;> omega
    obtain ⟨p, hp, -⟩ := createDdcMultiPartWriteRequestPacket_ok code offset (value.bytes.drop offset) n (by omega)
      (by rw [length_drop]; omega)
    have hpos : 0 < packetCount rem := Nat.succ_pos _
    rw [writeFragments]
    simp only [← hn, hp, ok_bind]
    cases hw : write sent.length with
    | some e => exact ⟨_, _, rfl, .inr ⟨0, hpos, fun i hi => absurd hi (Nat.not_lt_zero i), Option.some_ne_none e, hw,
        length_append⟩⟩
    | none =>
      by_cases hz : n = 0
      · have hrem : rem = 0 := by omega
        refine ⟨none, _, if_pos hz, .inl ⟨fun j hj => ?_, rfl⟩⟩
        have hj0 : j = 0 := by rw [hrem] at hj; exact Nat.lt_one_iff.1 hj
        rw [hj0]; exact hw
      · obtain ⟨r, sent', hr, hcases⟩ := writeFragments_cases write code value fuel (offset + n) (rem - n) (sent ++ [p])
          (by omega) (by omega)
        have hsent : (sent ++ [p]).length = sent.length + 1 := length_append
        have hcount : packetCount rem = packetCount (rem - n) + 1 := by
          rw [hnmin]; exact packetCount_step (by omega)
        refine ⟨r, sent', (if_neg hz).trans hr, ?_⟩
        -- the first packet is written, the others are those of the rest
        have hshift : ∀ i, sent.length + (i + 1) = (sent ++ [p]).length + i := fun i => by omega
        rcases hcases with ⟨hall, hnone⟩ | ⟨j, hj, hbefore, hne, hfail, hlength⟩
        · refine .inl ⟨fun j hj => ?_, hnone⟩
          cases j with
          | zero => exact hw
          | succ j =>
            rw [hshift]; exact hall j (by omega)
        · refine .inr ⟨j + 1, by omega, fun i hi => ?_, hne, by rw [hshift]; exact hfail, by omega⟩
          cases i with
          | zero => exact hw
          | succ i =>
            rw [hshift]; exact hbefore i (by omega)

/-! ## All tries -/

theorem not_tableWritten_zero {w : WriteReports} {packets start : Nat} : ¬ TableWritten w packets 0 start := fun h => by
  cases h

theorem multiPartTry_eq {w : WriteReports} {code : Byte} {value : Buffer} {s : WriteTries} {r : Option ErrorInfo}
    {sent : List DdcPacket} (h : s.tryctr < maxMaxTries)
    (htry : tryMultiPartWrite (fun k => w.packet (s.packets + k)) code value = .ok (r, sent))
    (hm : excpMatches r (errinfoStatus r)) :
    multiPartTry w code value s =
      .ok ⟨errinfoStatus r, r, s.tryErrors ++ [r], s.tryctr + 1, s.packets + sent.length⟩ := by
  rw [multiPartTry, htry, ok_bind, check_pos h, ok_bind, check_pos hm, ok_bind]

theorem multiPartTry_cases (w : WriteReports) (code : Byte) (value : Buffer) {s : WriteTries}
    (h : s.tryctr < maxMaxTries) :
    ∃ s', multiPartTry w code value s = .ok s' ∧ s'.tryctr = s.tryctr + 1 ∧
      ((∀ j < packetCount value.len, w.packet (s.packets + j) = none) ∧ s'.rc = 0 ∧ s'.ddcExcp = none ∨
        ∃ j < packetCount value.len, (∀ i < j, w.packet (s.packets + i) = none) ∧ w.packet (s.packets + j) ≠ none ∧
          s'.packets = s.packets + (j + 1) ∧ s'.rc < 0 ∧ s'.ddcExcp.isSome) := by
  obtain ⟨r, sent, hr, hcases⟩ := writeFragments_cases (fun k => w.packet (s.packets + k)) code value (value.len + 1) 0
    value.len [] (Nat.zero_add _) (Nat.lt_succ_self _)
  have htry : tryMultiPartWrite (fun k => w.packet (s.packets + k)) code value = .ok (r, sent) := hr
  simp only [length_nil, Nat.zero_add] at hcases
  rcases hcases with ⟨hall, rfl⟩ | ⟨j, hj, hbefore, hne, hfail, hlength⟩
  · exact ⟨_, multiPartTry_eq h htry (.inr ⟨rfl, rfl⟩), rfl, .inl ⟨hall, rfl, rfl⟩⟩
  · obtain ⟨e, rfl⟩ := Option.ne_none_iff_exists'.1 hne
    have hneg : errinfoStatus (some e) < 0 := w.negative _ e hfail
    refine ⟨_, multiPartTry_eq h htry (.inl ⟨rfl, hneg⟩), rfl,
      .inr ⟨j, hj, hbefore, ?_, congrArg (s.packets + ·) hlength, hneg, rfl⟩⟩
    rw [hfail]; exact Option.some_ne_none e

theorem tableWritten_retried_iff {w : WriteReports} {packets tries start j : Nat} (hj : j < packets)
    (hbefore : ∀ i < j, w.packet (start + i) = none) (hfail : w.packet (start + j) ≠ none) :
    TableWritten w packets (tries + 1) start ↔ TableWritten w packets tries (start + (j + 1)) := by
  constructor
  · intro h
    cases h with
    | written hall => exact absurd (hall j hj) hfail
    | @retried _ _ i hi hbefore' hfail' h =>
      have heq : i = j := by
        rcases Nat.lt_trichotomy i j with hlt | heq | hgt
        · exact absurd (hbefore i hlt) hfail'
        · exact heq
        · exact absurd (hbefore' j hgt) hfail
      exact heq ▸ h
  · exact fun h => .retried hj hbefore hfail h

theorem multiPartTries (w : WriteReports) (code : Byte) (value : Buffer) : ∀ (left : Nat) (s : WriteTries),
    s.tryctr + left ≤ maxMaxTries → s.rc < 0 →
      ∃ s', forWhile (fun s => s.rc < 0) (multiPartTry w code value) left s = .ok s' ∧
        (TableWritten w (packetCount value.len) left s.packets ∧ s'.rc = 0 ∧ s'.ddcExcp = none ∨
          ¬ TableWritten w (packetCount value.len) left s.packets ∧ s'.rc < 0 ∧
            (s.ddcExcp.isSome ∨ 0 < left → s'.ddcExcp.isSome))
  | 0, s, _, hrc =>
    ⟨s, rfl, .inr ⟨not_tableWritten_zero, hrc, fun h => h.resolve_right (Nat.lt_irrefl 0)⟩⟩
  | left + 1, s, hct, hrc => by
    have hcond : (decide (s.rc < 0)) = true := decide_eq_true hrc
    obtain ⟨s₁, hs₁, htryctr, hcases⟩ := multiPartTry_cases w code value (s := s) (by omega)
    rw [forWhile_step (c := fun s : WriteTries => decide (s.rc < 0)) left hcond hs₁]
    rcases hcases with ⟨hall, hrc₁, hexcp⟩ | ⟨j, hj, hbefore, hfail, hpackets, hrc₁, hexcp⟩
    · have hstop : (decide (s₁.rc < 0)) = false := by rw [hrc₁]; rfl
      exact ⟨s₁, forWhile_stop (c := fun s : WriteTries => decide (s.rc < 0)) hstop left,
        .inl ⟨.written hall, hrc₁, hexcp⟩⟩
    · obtain ⟨s', hs', hend⟩ := multiPartTries w code value left s₁ (by omega) hrc₁
      refine ⟨s', hs', ?_⟩
      rw [tableWritten_retried_iff hj hbefore hfail, ← hpackets]
      rcases hend with ⟨hw, hrc', hnone⟩ | ⟨hw, hrc', hsome⟩
      · exact .inl ⟨hw, hrc', hnone⟩
      · exact .inr ⟨hw, hrc', fun _ => hsome (.inl hexcp)⟩

theorem multiPartWriteWithRetry_cases (w : WriteReports) (maxTries : MaxTries) (start : Nat) (code : Byte)
    (value : Buffer) :
    TableWritten w (packetCount value.len) maxTries.val start ∧
        multiPartWriteWithRetry w maxTries start code value = .ok none ∨
      ¬ TableWritten w (packetCount value.len) maxTries.val start ∧
        ∃ e, multiPartWriteWithRetry w maxTries start code value = .ok (some e) ∧ e.statusCode = ddcrcRetries := by
  have hdummy : (-1 : Status) < 0 := by decide
  obtain ⟨s, hs, hend⟩ := multiPartTries w code value maxTries.val ⟨-1, none, [], 0, start⟩
    (by rw [Nat.zero_add]; exact maxTries.le) hdummy
  rw [multiPartWriteWithRetry, hs, ok_bind]
  rcases hend with ⟨hw, hrc, hnone⟩ | ⟨hw, hrc, hsome⟩
  · have hm : excpMatches s.ddcExcp s.rc := .inr ⟨hnone, hrc⟩
    refine .inl ⟨hw, ?_⟩
    rw [check_pos hm, ok_bind, if_neg (by rw [hrc]; exact Int.lt_irrefl 0), hnone]
  · have hm : excpMatches s.ddcExcp s.rc := .inl ⟨hsome (.inr maxTries.pos), hrc⟩
    refine .inr ⟨hw, errinfoNewWithCauses ddcrcRetries s.tryErrors.reduceOption "multi_part_write_with_retry", ?_, rfl⟩
    rw [check_pos hm, ok_bind, if_pos hrc]

/-! ## The set -/

theorem SetRight.of_result {w : WriteReports} {maxTries : MaxTries} {altSourceAddr : Byte} {ioMode : IoMode} {start : Nat}
    {vrec : AnyVcpValue} {excp : Option ErrorInfo}
    (h : ddcSetVcpValue w maxTries altSourceAddr ioMode start vrec = .ok excp) :
    SetRight w maxTries altSourceAddr ioMode start vrec ↔
      (excp = none ↔ WritesSucceed w maxTries start ioMode vrec.val) ∧
        ∀ e, excp = some e → e.statusCode = layerStatus w start ioMode vrec.val := by
  constructor
  · rintro ⟨excp', h', hright⟩
    rw [h] at h'
    cases h'; exact hright
  · exact fun hright => ⟨excp, h, hright⟩

theorem usbSetNontableVcpValue_eq_zero (w : WriteReports) : usbSetNontableVcpValue w = 0 ↔ w.usbControl = 0 := by
  unfold usbSetNontableVcpValue
  split
  · rename_i hinval
    rw [hinval]; exact ⟨fun h => absurd h (by decide), fun h => absurd h (by decide)⟩
  · exact .rfl

theorem setRight_i2c (w : WriteReports) (maxTries : MaxTries) (altSourceAddr : Byte) (start : Nat) (vrec : AnyVcpValue) :
    SetRight w maxTries altSourceAddr .i2c start vrec := by
  obtain ⟨opcode, val⟩ := vrec
  cases val with
  | cNc mh ml sh sl =>
    obtain ⟨p, hp⟩ := createDdcSetvcpRequestPacket_ok altSourceAddr opcode (hiLoBytesToShort sh sl)
    have hset : ddcSetVcpValue w maxTries altSourceAddr .i2c start ⟨opcode, .cNc mh ml sh sl⟩ =
        .ok (w.packet start) := by simp only [ddcSetVcpValue, ddcSetNontableVcpValue, hp, ok_bind]
    refine ⟨_, hset, .rfl, fun e he => ?_⟩
    simp only [layerStatus, he]; rfl
  | t bytes =>
    rcases multiPartWriteWithRetry_cases w maxTries start opcode (bufferNewWithValue bytes) with
      ⟨hw, hr⟩ | ⟨hw, e, hr, hst⟩
    · exact ⟨none, hr, ⟨fun _ => hw, fun _ => rfl⟩, fun e he => by cases he⟩
    · refine ⟨some e, hr, ⟨fun h => (by cases h), fun h => absurd h hw⟩, fun e' he => ?_⟩
      cases he; exact hst

/-- **A set reports what the writes under it report, unless it is of a non-table value over USB and the control write
fails.** -/
theorem setRight_iff (w : WriteReports) (maxTries : MaxTries) (altSourceAddr : Byte) (ioMode : IoMode) (start : Nat)
    (vrec : AnyVcpValue) :
    SetRight w maxTries altSourceAddr ioMode start vrec ↔
      ¬ (ioMode = .usb ∧ (∃ mh ml sh sl, vrec.val = .cNc mh ml sh sl) ∧ w.usbControl ≠ 0) := by
  obtain ⟨opcode, val⟩ := vrec
  cases ioMode with
  | usb =>
    cases val with
    | cNc mh ml sh sl =>
      rw [SetRight.of_result rfl]
      simp only [WritesSucceed, true_iff, usbSetNontableVcpValue_eq_zero, reduceCtorEq, false_implies, implies_true,
        and_true, true_and, ne_eq, not_and, not_not, VcpValue.cNc.injEq]
      exact ⟨fun h _ => h, fun h => h ⟨mh, ml, sh, sl, rfl, rfl, rfl, rfl⟩⟩
    | t bytes =>
      rw [SetRight.of_result rfl]
      refine ⟨fun _ => ?_, fun _ => ⟨⟨fun h => (by cases h), fun h => h.elim⟩, fun e he => ?_⟩⟩
      · rintro ⟨-, ⟨_, _, _, _, h⟩, -⟩
        cases h
      · cases he; rfl
  | i2c => exact iff_of_true (setRight_i2c w maxTries altSourceAddr start _) fun h => by cases h.1

def controlWriteFails : WriteReports where
  packet := fun _ => none
  negative := fun _ _ h => by cases h
  usbControl := -eIo

/-- **A control write that fails is reported as a success.** -/
theorem usbFailure_lost : ddcSetVcpValue controlWriteFails initialMaxWriteOnlyExchangeTries 0 .usb 0
      ⟨0x10, .cNc 0 100 0 50⟩ = .ok none ∧ usbSetNontableVcpValue controlWriteFails = -eIo ∧
    ¬ SetRight controlWriteFails initialMaxWriteOnlyExchangeTries 0 .usb 0 ⟨0x10, .cNc 0 100 0 50⟩ := by
  refine ⟨rfl, rfl, ?_⟩
  rintro ⟨excp, h, hiff, -⟩
  cases h
  have hzero : usbSetNontableVcpValue controlWriteFails = 0 := hiff.1 rfl
  exact absurd hzero (by decide)

end Reported

end Ddc
