import Ddcutil.WriteRead
/-!
# MultiPartRead — reading a capabilities string or a table value in fragments

`try_multi_part_read` and `multi_part_read_with_retry` of `ddc_multi_part_io.c`.  A display is what its successive
`ddc_write_read_with_retry` calls return: an error or an interpreted fragment.  Every call is recorded with the
request it was given.
-/
namespace Ddc

open Kit List Exec

structure ReadCall where
  request : DdcPacket
  expectedType : Byte
  expectedSubtype : Byte
  flags : WriteReadFlags

abbrev Display := Nat → Except ErrorInfo InterpretedMultiPartReadFragment

structure TryResult where
  excp : Option ErrorInfo
  accumulator : Buffer
  calls : List ReadCall

def readFragments (display : Display) (requestType requestSubtype : Byte) :
    Nat → DdcPacket → WriteReadFlags → Buffer → Nat → List ReadCall → Exec TryResult
  | 0, _, _, _, _, _ => .error .outOfFuel
  | fuel + 1, request, flags, accumulator, curOffset, calls => do
    let request ← updateDdcMultiPartReadRequestPacketOffset request curOffset
    let expectedResponseType :=
      if requestType = ddcPacketTypeCapabilitiesRequest then ddcPacketTypeCapabilitiesResponse
      else ddcPacketTypeTableReadResponse
    let calls' := calls ++ [⟨request, expectedResponseType, requestSubtype, flags⟩]
    match display calls.length with
    | .error excp => .ok ⟨some excp, accumulator, calls'⟩
    | .ok auxData =>
      if auxData.fragmentOffset ≠ curOffset then
        .ok ⟨some (errinfoNew ddcrcMultiPartReadFragment "try_multi_part_read"), accumulator, calls'⟩
      else if auxData.fragmentLength = 0 then .ok ⟨none, accumulator, calls'⟩
      else do
        let accumulator ← accumulator.append auxData.bytes
        readFragments display requestType requestSubtype fuel request { flags with allZeroResponseOk := false }
          accumulator (curOffset + auxData.fragmentLength) calls'

def tryMultiPartRead (display : Display) (requestType requestSubtype : Byte) (flags : WriteReadFlags)
    (accumulator : Buffer) : Exec TryResult := do
  let request ← createDdcMultiPartReadRequestPacket requestType requestSubtype 0
  let accumulator ← accumulator.setLength 0
  readFragments display requestType requestSubtype (accumulator.bufferSize + 1) request flags accumulator 0 []

/-! ## What a display sends, and when it fits -/

def assembled (display : Display) : Nat → List Byte
  | 0 => []
  | k + 1 => assembled display k ++ match display k with
    | .ok f => f.bytes
    | .error _ => []

/-- **The response continues the value**: a nonempty fragment whose offset is the number of bytes before it. -/
def Extends (display : Display) (k : Nat) : Prop :=
  ∃ f, display k = .ok f ∧ f.fragmentOffset = (assembled display k).length ∧ f.bytes ≠ []

/-- **The display stops in time**: the fragments before its first empty, misplaced or failed response hold at most
2046 bytes. -/
def FitsAccumulator (display : Display) : Prop :=
  ∀ k, (∀ i ≤ k, Extends display i) → (assembled display (k + 1)).length ≤ 2046

def requestedOffset (call : ReadCall) : Nat :=
  let data := (call.request.rawBytes.contents.drop 3).dropLast
  let pos := if call.request.type = ddcPacketTypeCapabilitiesRequest then 1 else 2
  hiLoBytesToShort (data.getD pos 0) (data.getD (pos + 1) 0)

/-- **A try that read what the display sent**: each request asks for the offset reached, success means that the
accumulator holds the fragments up to the first empty one, each at its place, and an error is the display's own or is
about a misplaced fragment. -/
structure ReadsFragments (display : Display) (r : TryResult) : Prop where
  offsets : ∀ k call, r.calls[k]? = some call → requestedOffset call = (assembled display k).length
  turns : ∃ n, r.calls.length = n + 1 ∧ (∀ i < n, Extends display i) ∧ (r.excp = none → ∃ f, display n = .ok f ∧
    f.fragmentOffset = (assembled display n).length ∧ f.bytes = [] ∧ r.accumulator.contents = assembled display n)
  failure : ∀ e, r.excp = some e →
    (∃ n, display n = .error e) ∨ e = errinfoNew ddcrcMultiPartReadFragment "try_multi_part_read"

variable {display : Display} {k : Nat} {call : ReadCall} {t sub : Byte} {acc : Buffer} {displays : Nat → Display}

theorem assembled_succ {f : InterpretedMultiPartReadFragment} (h : display k = .ok f) :
    assembled display (k + 1) = assembled display k ++ f.bytes := by
  rw [assembled, h]

theorem requestedOffset_of_carries {n : Nat} (hn : n < 65536)
    (ht : t = ddcPacketTypeCapabilitiesRequest ∨ t = ddcPacketTypeTableReadRequest)
    (h : Carries call.request 0x51
      (readRequestData t sub (UInt8.ofNat ((n >>> 8) &&& 0xff)) (UInt8.ofNat (n &&& 0xff)))) :
    requestedOffset call = n := by
  have hsplit := hiLoBytesToShort_split hn
  rw [requestedOffset, h.contents, h.type]
  rcases ht with rfl | rfl
  · exact hsplit
  · exact hsplit

/-! ## One turn and a run of the loop -/

structure FreshSizes (acc : Buffer) : Prop where
  size : acc.bufferSize = 2048
  increment : acc.sizeIncrement = 0

theorem freshSizes_new : FreshSizes (Buffer.new 2048) := ⟨rfl, rfl⟩

structure AtTurn (display : Display) (t sub : Byte) (k : Nat) (request : DdcPacket) (acc : Buffer)
    (calls : List ReadCall) : Prop where
  carries : ∃ hi lo, Carries request 0x51 (readRequestData t sub hi lo)
  contents : acc.contents = assembled display k
  sizes : FreshSizes acc
  fits : ∀ i ≤ k, (assembled display i).length ≤ 2046
  extended : ∀ i < k, Extends display i
  count : calls.length = k
  offsets : ∀ i call, calls[i]? = some call → requestedOffset call = (assembled display i).length

theorem AtTurn.offsets_append {request : DdcPacket} {calls : List ReadCall}
    (h : AtTurn display t sub k request acc calls) (hc : requestedOffset call = (assembled display k).length) :
    ∀ i c, (calls ++ [call])[i]? = some c → requestedOffset c = (assembled display i).length := by
  intro i c hi
  by_cases hlt : i < calls.length
  · rw [getElem?_append_left hlt] at hi; exact h.offsets i c hi
  · rw [getElem?_append_right (Nat.le_of_not_lt hlt)] at hi
    have hz : i - calls.length = 0 := by
      by_contra hne
      rw [getElem?_eq_none (by simp only [length_singleton]; omega)] at hi; cases hi
    rw [hz] at hi
    cases hi
    rw [hc, show i = k by rw [← h.count]; omega]

theorem AtTurn.reads {request : DdcPacket} {calls : List ReadCall} (h : AtTurn display t sub k request acc calls)
    (hc : requestedOffset call = (assembled display k).length) {excp : Option ErrorInfo}
    (hs : excp = none → ∃ f, display k = .ok f ∧ f.fragmentOffset = (assembled display k).length ∧ f.bytes = [])
    (hf : ∀ e, excp = some e →
      (∃ n, display n = .error e) ∨ e = errinfoNew ddcrcMultiPartReadFragment "try_multi_part_read") :
    ReadsFragments display ⟨excp, acc, calls ++ [call]⟩ where
  offsets := h.offsets_append hc
  turns := by
    refine ⟨k, by rw [length_append, h.count]; rfl, h.extended, fun he => ?_⟩
    obtain ⟨f, hf, ho, hb⟩ := hs he
    exact ⟨f, hf, ho, hb, h.contents⟩
  failure := hf

/-- **The run lemma**: from the top of the loop it either ends as it should, or the fragments overrun the accumulator
and the append's assertion fails. -/
theorem readFragments_run (display : Display) (t sub : Byte)
    (ht : t = ddcPacketTypeCapabilitiesRequest ∨ t = ddcPacketTypeTableReadRequest) :
    ∀ (fuel k : Nat) (request : DdcPacket) (flags : WriteReadFlags) (acc : Buffer) (calls : List ReadCall),
      AtTurn display t sub k request acc calls → 2047 < fuel + acc.len →
      (∃ r, readFragments display t sub fuel request flags acc acc.len calls = .ok r ∧ ReadsFragments display r ∧
        FreshSizes r.accumulator ∧ ∃ n, ¬ Extends display n ∧ ∀ i ≤ n, (assembled display i).length ≤ 2046) ∨
      (readFragments display t sub fuel request flags acc acc.len calls = .error .assertFailed ∧
        ∃ n, (∀ i ≤ n, Extends display i) ∧ 2046 < (assembled display (n + 1)).length)
  | 0, k, request, flags, acc, calls, h, hfuel => by
    have := h.fits k (Nat.le_refl k)
    have hl := acc.length_contents
    rw [h.contents] at hl; omega
  | fuel + 1, k, request, flags, acc, calls, h, hfuel => by
    have hl := acc.length_contents
    rw [h.contents] at hl
    have hfits := h.fits k (Nat.le_refl k)
    obtain ⟨hi, lo, hcar⟩ := h.carries
    obtain ⟨req', hupd, hcar'⟩ := updateDdcMultiPartReadRequestPacketOffset_ok acc.len ht hcar
    have hcall : ∀ ty fl, requestedOffset ⟨req', ty, sub, fl⟩ = (assembled display k).length := by
      intro ty fl
      rw [hl]; exact requestedOffset_of_carries (by omega) ht hcar'
    rw [readFragments]
    simp only [hupd, ok_bind, h.count]
    cases hd : display k with
    | error e =>
      refine .inl ⟨_, rfl, h.reads (hcall _ _) (fun he => by cases he)
        (fun e' he => by cases he; exact .inl ⟨k, hd⟩), h.sizes, k, ?_, h.fits⟩
      rintro ⟨f, hf, -⟩
      rw [hd] at hf; cases hf
    | ok f =>
      simp only
      by_cases hofs : f.fragmentOffset = acc.len
      · rw [if_neg (fun hne => hne hofs)]
        by_cases hemp : f.fragmentLength = 0
        · have hnil : f.bytes = [] := length_eq_zero_iff.1 hemp
          rw [if_pos hemp]
          refine .inl ⟨_, rfl, h.reads (hcall _ _) (fun _ => ⟨f, hd, by rw [hofs, hl], hnil⟩)
            (fun e he => by cases he), h.sizes, k, ?_, h.fits⟩
          rintro ⟨f', hf', -, hne⟩
          rw [hd] at hf'
          cases hf'; exact hne hnil
        · rw [if_neg hemp]
          have hext : Extends display k :=
            ⟨f, hd, by rw [hofs, hl], fun hnil => hemp (by rw [InterpretedMultiPartReadFragment.fragmentLength, hnil]; rfl)⟩
          have hall : ∀ i < k + 1, Extends display i := by
            intro i hi
            rcases Nat.lt_succ_iff_lt_or_eq.1 hi with hi | rfl
            · exact h.extended i hi
            · exact hext
          have hlen1 : (assembled display (k + 1)).length = acc.len + f.fragmentLength := by
            rw [assembled_succ hd, length_append, hl]; rfl
          by_cases hroom : acc.len + 2 + f.bytes.length ≤ acc.bufferSize
          · obtain ⟨acc', happ, hc', hl', hs', hi'⟩ := Buffer.append_of_le h.sizes.increment hroom
            rw [happ, ok_bind, show acc.len + f.fragmentLength = acc'.len from hl'.symm]
            have hroom' := h.sizes.size ▸ hroom
            refine readFragments_run display t sub ht fuel (k + 1) req' _ acc' _ ⟨⟨_, _, hcar'⟩, ?_, ⟨?_, hi'⟩, ?_, hall, ?_,
              h.offsets_append (hcall _ _)⟩ ?_
            · rw [hc', h.contents, assembled_succ hd]
            · rw [hs', h.sizes.size]
            · intro i hi
              rcases Nat.lt_or_eq_of_le hi with hi | rfl
              · exact h.fits i (by omega)
              · rw [hlen1, InterpretedMultiPartReadFragment.fragmentLength]; omega
            · rw [length_append, h.count]; rfl
            · have : f.bytes.length ≠ 0 := hemp
              omega
          · rw [Buffer.append_of_lt h.sizes.increment (by omega), error_bind]
            refine .inr ⟨rfl, k, fun i hi => hall i (by omega), ?_⟩
            rw [hlen1, InterpretedMultiPartReadFragment.fragmentLength]
            have := h.sizes.size
            omega
      · rw [if_pos hofs]
        refine .inl ⟨_, rfl, h.reads (hcall _ _) (fun he => by cases he)
          (fun e he => by cases he; exact .inr rfl), h.sizes, k, ?_, h.fits⟩
        rintro ⟨f', hf', ho', -⟩
        rw [hd] at hf'
        cases hf'; exact hofs (by rw [ho', hl])

/-- **A try on an accumulator of the right sizes**, whatever it holds: it reads what the display sends when that fits,
and fails an assertion when it does not. -/
theorem tryMultiPartRead_cases (display : Display) (sub : Byte) (flags : WriteReadFlags)
    (ht : t = ddcPacketTypeCapabilitiesRequest ∨ t = ddcPacketTypeTableReadRequest) (hacc : FreshSizes acc) :
    (FitsAccumulator display ∧ ∃ r, tryMultiPartRead display t sub flags acc = .ok r ∧ ReadsFragments display r ∧
      FreshSizes r.accumulator) ∨
    (¬ FitsAccumulator display ∧ tryMultiPartRead display t sub flags acc = .error .assertFailed) := by
  obtain ⟨p, hp, hcar⟩ := createDdcMultiPartReadRequestPacket_ok t sub ht
  obtain ⟨acc', hset, hb', hl', hs', hi'⟩ := Buffer.setLength_of_le (b := acc) (n := 0) (Nat.zero_le _)
  have hsizes : FreshSizes acc' := ⟨hs'.trans hacc.size, hi'.trans hacc.increment⟩
  have hrun : tryMultiPartRead display t sub flags acc =
      readFragments display t sub (acc'.bufferSize + 1) p flags acc' acc'.len [] := by
    rw [tryMultiPartRead, hp, ok_bind, hset, ok_bind, hl']
  have hturn : AtTurn display t sub 0 p acc' [] :=
    { carries := ⟨0, 0, hcar⟩
      contents := by rw [Buffer.contents, hl', take_zero]; rfl
      sizes := hsizes
      fits := fun i hi => by rw [Nat.le_zero.1 hi]; exact Nat.zero_le _
      extended := fun i hi => absurd hi (Nat.not_lt_zero i)
      count := rfl
      offsets := fun i call hi => by cases hi }
  rw [hrun]
  rcases readFragments_run display t sub ht (acc'.bufferSize + 1) 0 p flags acc' [] hturn
      (by have := hsizes.size; omega) with ⟨r, hr, hok, hsz, n, hstop, hfit⟩ | ⟨hr, n, hext, hover⟩
  · refine .inl ⟨fun k hk => ?_, r, hr, hok, hsz⟩
    exact hfit (k + 1) (Nat.lt_of_not_le fun hnk => hstop (hk n hnk))
  · refine .inr ⟨fun hfits => ?_, hr⟩
    have := hfits n hext
    omega

/-- **A try reads what the display sends, whatever an earlier try left in the accumulator, exactly when it fits.** -/
theorem tryMultiPartRead_reads_iff (display : Display) (t sub : Byte) (flags : WriteReadFlags) (acc : Buffer)
    (ht : t = ddcPacketTypeCapabilitiesRequest ∨ t = ddcPacketTypeTableReadRequest) (hacc : FreshSizes acc) :
    (∃ r, tryMultiPartRead display t sub flags acc = .ok r ∧ ReadsFragments display r) ↔ FitsAccumulator display := by
  rcases tryMultiPartRead_cases display sub flags ht hacc with ⟨hfit, r, hr, hok, -⟩ | ⟨hfit, hr⟩
  · exact ⟨fun _ => hfit, fun _ => ⟨r, hr, hok⟩⟩
  · refine ⟨fun ⟨r, hr', _⟩ => ?_, fun h => absurd h hfit⟩
    rw [hr] at hr'; cases hr'

def shortDisplay : Display := fun k =>
  if k = 0 then .ok ⟨0xe3, 0, [0x28, 0x61, 0x29], by decide, by decide⟩ else .ok ⟨0xe3, 3, [], by decide, by decide⟩

theorem shortDisplay_fits : FitsAccumulator shortDisplay := by
  intro k hk
  cases k with
  | zero => decide
  | succ k =>
    obtain ⟨f, hf, -, hne⟩ := hk 1 (by omega)
    cases hf; exact absurd rfl hne

theorem tryMultiPartRead_reads_short :
    ∃ r, tryMultiPartRead shortDisplay 0xf3 0x00 ⟨false, true, false⟩ (Buffer.new 2048) = .ok r ∧
      ReadsFragments shortDisplay r := by
  exact (tryMultiPartRead_reads_iff shortDisplay 0xf3 0x00 ⟨false, true, false⟩ (Buffer.new 2048) (.inl rfl)
    freshSizes_new).2 shortDisplay_fits

def endlessDisplay : Display := fun k =>
  .ok ⟨0xe3, 32 * k % 65536, List.replicate 32 0x41, Nat.mod_lt _ (by decide), by decide⟩

theorem length_assembled_endless : ∀ k, (assembled endlessDisplay k).length = 32 * k
  | 0 => rfl
  | k + 1 => by rw [assembled_succ (k := k) rfl, length_append, length_assembled_endless]; rfl

/-- **The 64th fragment of 32 bytes fails the append's assertion.** -/
theorem tryMultiPartRead_endless :
    tryMultiPartRead endlessDisplay 0xf3 0x00 ⟨false, true, false⟩ (Buffer.new 2048) = .error .assertFailed := by
  rcases tryMultiPartRead_cases endlessDisplay 0x00 ⟨false, true, false⟩ (t := 0xf3) (.inl rfl) freshSizes_new with
    ⟨hfit, -⟩ | ⟨-, hr⟩
  · have h64 := hfit 63 fun i hi => ⟨_, rfl, by rw [length_assembled_endless]; exact Nat.mod_eq_of_lt (by omega), by simp⟩
    rw [length_assembled_endless] at h64; omega
  · exact hr

/-! ## The tries of `multi_part_read_with_retry` -/

def canRetryRead (flags : WriteReadFlags) (rc : Status) (excp : Option ErrorInfo) : Bool :=
  if rc = ddcrcNullResponse ∨ rc = ddcrcAllResponsesNull ∨ errinfoAllCausesSameStatus excp ddcrcNullResponse = true then
    !flags.tableRead
  else !(rc == ddcrcReadAllZero || rc == ddcrcAllTriesZero || rc == -eBadf)

structure ReadTries where
  excp : Option ErrorInfo
  rc : Status
  canRetry : Bool
  accumulator : Buffer
  tryErrors : List ErrorInfo
  tryctr : Nat

def readTry (displays : Nat → Display) (requestType requestSubtype : Byte) (flags : WriteReadFlags) (s : ReadTries) :
    Exec ReadTries := do
  let r ← tryMultiPartRead (displays s.tryctr) requestType requestSubtype flags s.accumulator
  if s.tryctr < maxMaxTries then
    let rc := errinfoStatus r.excp
    .ok ⟨r.excp, rc, canRetryRead flags rc r.excp, r.accumulator, s.tryErrors ++ r.excp.toList, s.tryctr + 1⟩
  else .error .outOfBounds

def finishReadTries (maxTries : MaxTries) (s : ReadTries) : Exec (Option ErrorInfo × Option Buffer) := do
  check (s.rc = 0 ↔ s.excp.isNone = true)
  if s.rc < 0 then
    let rc := if s.tryctr ≥ maxTries.val then ddcrcRetries else s.rc
    .ok (some (errinfoNewWithCauses rc s.tryErrors "multi_part_read_with_retry"), none)
  else do
    check (s.excp.isSome = true ↔ False)
    .ok (s.excp, some s.accumulator)

def multiPartReadWithRetry (displays : Nat → Display) (maxTries : MaxTries) (requestType requestSubtype : Byte)
    (flags : WriteReadFlags) : Exec (Option ErrorInfo × Option Buffer) := do
  check (flags.capabilities = true ∨ flags.tableRead = true)
  let s ← forWhile (fun s => s.rc < 0 && s.canRetry) (readTry displays requestType requestSubtype flags) maxTries.val
    ⟨none, -1, true, Buffer.new 2048, [], 0⟩
  finishReadTries maxTries s

def ValueOf (display : Display) (value : List Byte) : Prop :=
  ∃ n f, (∀ i < n, Extends display i) ∧ display n = .ok f ∧ f.fragmentOffset = (assembled display n).length ∧
    f.bytes = [] ∧ value = assembled display n

/-- **What holds between tries**, with `left` of them left: the accumulator has its sizes, an error has a negative
status, and after a success the accumulator holds the value of the last try. -/
structure BetweenTries (displays : Nat → Display) (maxTries left : Nat) (s : ReadTries) : Prop where
  sizes : FreshSizes s.accumulator
  count : s.tryctr + left = maxTries
  first : s.tryctr = 0 → s.rc < 0 ∧ s.canRetry = true
  status : s.tryctr ≠ 0 → s.rc = errinfoStatus s.excp
  negative : ∀ e, s.excp = some e → e.statusCode < 0
  value : s.tryctr ≠ 0 → s.excp = none → ValueOf (displays (s.tryctr - 1)) s.accumulator.contents

theorem readTry_between (sub : Byte) (flags : WriteReadFlags) (maxTries : MaxTries)
    (ht : t = ddcPacketTypeCapabilitiesRequest ∨ t = ddcPacketTypeTableReadRequest)
    (hfit : ∀ k < maxTries.val, FitsAccumulator (displays k))
    (hneg : ∀ k j e, displays k j = .error e → e.statusCode < 0) {left : Nat} {s : ReadTries}
    (hs : BetweenTries displays maxTries.val (left + 1) s) :
    ∃ s', readTry displays t sub flags s = .ok s' ∧ BetweenTries displays maxTries.val left s' := by
  have hct := hs.count
  have hmax := maxTries.le
  rcases tryMultiPartRead_cases (displays s.tryctr) sub flags ht hs.sizes with ⟨-, r, hr, hok, hsz⟩ | ⟨hno, -⟩
  · have hneg' : ∀ e, r.excp = some e → e.statusCode < 0 := by
      intro e he
      rcases hok.failure e he with ⟨n, hn⟩ | rfl
      · exact hneg _ _ e hn
      · decide
    have hval : r.excp = none → ValueOf (displays s.tryctr) r.accumulator.contents := by
      intro he
      obtain ⟨n, -, hext, hsucc⟩ := hok.turns
      obtain ⟨f, hf, ho, hb, hc⟩ := hsucc he
      exact ⟨n, f, hext, hf, ho, hb, hc⟩
    refine ⟨_, by rw [readTry, hr, ok_bind, if_pos (by omega)], hsz, ?_, fun h => absurd h (Nat.succ_ne_zero _),
      fun _ => rfl, hneg', fun _ => hval⟩
    simp only
    omega
  · exact absurd (hfit s.tryctr (by omega)) hno

/-- **The value returned is one a single try read whole**: no bytes of another try are in it.  An error comes without a
value. -/
theorem multiPartReadWithRetry_value (displays : Nat → Display) (sub : Byte) (flags : WriteReadFlags)
    (maxTries : MaxTries) (ht : t = ddcPacketTypeCapabilitiesRequest ∨ t = ddcPacketTypeTableReadRequest)
    (hflags : flags.capabilities = true ∨ flags.tableRead = true)
    (hfit : ∀ k < maxTries.val, FitsAccumulator (displays k))
    (hneg : ∀ k j e, displays k j = .error e → e.statusCode < 0) :
    ∃ excp buf, multiPartReadWithRetry displays maxTries t sub flags = .ok (excp, buf) ∧
      (excp = none ↔ buf.isSome = true) ∧
      ∀ b, buf = some b → ∃ k < maxTries.val, ValueOf (displays k) b.contents := by
  obtain ⟨s, m, hs, hinv, hle, hend⟩ := forWhile_inv (c := fun s : ReadTries => s.rc < 0 && s.canRetry)
    (I := BetweenTries displays maxTries.val) (fun _ _ h _ => readTry_between sub flags maxTries ht hfit hneg h) maxTries.val
    ⟨none, -1, true, Buffer.new 2048, [], 0⟩
    ⟨freshSizes_new, Nat.zero_add _, fun _ => ⟨by decide, rfl⟩, fun h => absurd rfl h, fun e he => (by cases he),
      fun h => absurd rfl h⟩
  have hne : s.tryctr ≠ 0 := by
    intro h0
    have hct := hinv.count
    have hpos := maxTries.pos
    rcases hend with hm | hc
    · omega
    · obtain ⟨h1, h2⟩ := hinv.first h0
      simp [h1, h2] at hc
  have hrc := hinv.status hne
  rw [multiPartReadWithRetry, check_pos hflags, ok_bind, hs, ok_bind]
  unfold finishReadTries
  cases he : s.excp with
  | none =>
    rw [he] at hrc
    have hrc0 : s.rc = 0 := hrc
    have hct := hinv.count
    rw [check_pos (by simp [hrc0]), ok_bind, if_neg (by rw [hrc0]; decide), check_pos (by simp), ok_bind]
    refine ⟨none, some s.accumulator, rfl, by simp, fun b hb => ?_⟩
    cases hb; exact ⟨s.tryctr - 1, by omega, hinv.value hne he⟩
  | some e =>
    have hlt : s.rc < 0 := by rw [hrc, he]; exact hinv.negative e he
    rw [check_pos (by simp [Int.ne_of_lt hlt]), ok_bind, if_pos hlt]
    exact ⟨_, none, rfl, by simp, fun b hb => by cases hb⟩

/-! ## What is known of a read that returns -/

structure BetweenReads (displays : Nat → Display) (maxTries left : Nat) (s : ReadTries) : Prop where
  sizes : FreshSizes s.accumulator
  count : s.tryctr + left = maxTries
  first : s.tryctr = 0 → s.rc < 0 ∧ s.canRetry = true
  value : s.tryctr ≠ 0 → s.excp = none → s.accumulator.len ≤ 2046 ∧
    ValueOf (displays (s.tryctr - 1)) s.accumulator.contents

theorem readTry_reads (sub : Byte) (flags : WriteReadFlags) {maxTries : Nat}
    (ht : t = ddcPacketTypeCapabilitiesRequest ∨ t = ddcPacketTypeTableReadRequest) {left : Nat} {s s' : ReadTries}
    (hs : BetweenReads displays maxTries (left + 1) s) (hr : readTry displays t sub flags s = .ok s') :
    BetweenReads displays maxTries left s' := by
  obtain ⟨r, htry, hr⟩ := bind_eq_ok.1 hr
  split at hr
  · cases hr
    rcases tryMultiPartRead_cases (displays s.tryctr) sub flags ht hs.sizes with ⟨hfit, r', hr', hok, hsizes⟩ | ⟨-, hno⟩
    · rw [htry] at hr'
      cases hr'
      have hct := hs.count
      refine ⟨hsizes, by dsimp only; omega, fun h => absurd h (Nat.succ_ne_zero _), fun _ he => ?_⟩
      obtain ⟨n, -, hext, hsucc⟩ := hok.turns
      obtain ⟨f, hf, ho, hb, hc⟩ := hsucc he
      refine ⟨?_, n, f, hext, hf, ho, hb, hc⟩
      rw [← Buffer.length_contents, hc]
      cases n with
      | zero => exact Nat.zero_le _
      | succ n => exact hfit n fun i hi => hext i (Nat.lt_succ_of_le hi)
    · rw [htry] at hno; cases hno
  · cases hr

/-- **A read that returns** comes with an error or with a value that one try read whole, in the accumulator. -/
theorem multiPartReadWithRetry_reads {flags : WriteReadFlags} {maxTries : MaxTries}
    (ht : t = ddcPacketTypeCapabilitiesRequest ∨ t = ddcPacketTypeTableReadRequest) {excp : Option ErrorInfo}
    {buf : Option Buffer} (hr : multiPartReadWithRetry displays maxTries t sub flags = .ok (excp, buf)) :
    (excp = none ↔ buf.isSome = true) ∧ ∀ b, buf = some b → FreshSizes b ∧ b.len ≤ 2046 ∧
      ∃ k < maxTries.val, ValueOf (displays k) b.contents := by
  obtain ⟨-, -, hr⟩ := bind_eq_ok.1 hr
  obtain ⟨s, hloop, hr⟩ := bind_eq_ok.1 hr
  obtain ⟨m, hinv, hle, hend⟩ := forWhile_keeps (I := BetweenReads displays maxTries.val)
    (fun _ _ _ hs _ hb => readTry_reads sub flags ht hs hb) hloop
    ⟨freshSizes_new, Nat.zero_add _, fun _ => ⟨by decide, rfl⟩, fun h => absurd rfl h⟩
  have hct := hinv.count
  have hpos := maxTries.pos
  have hne : s.tryctr ≠ 0 := by
    intro h0
    rcases hend with rfl | hc
    · omega
    · obtain ⟨h1, h2⟩ := hinv.first h0
      simp [h1, h2] at hc
  obtain ⟨-, -, hr⟩ := bind_eq_ok.1 hr
  split at hr
  · cases hr; exact ⟨by simp, fun b hb => by cases hb⟩
  · obtain ⟨_, hcheck, hr⟩ := bind_eq_ok.1 hr
    cases hr
    have hnone : s.excp = none := by
      cases he : s.excp with
      | none => rfl
      | some e =>
        rw [he] at hcheck; cases hcheck
    refine ⟨by simp [hnone], fun b hb => ?_⟩
    cases hb
    obtain ⟨hlen, hvalue⟩ := hinv.value hne hnone
    exact ⟨hinv.sizes, hlen, s.tryctr - 1, by omega, hvalue⟩

end Ddc
