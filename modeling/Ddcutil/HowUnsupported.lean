import Ddcutil.SetVcpVerify
/-!
# HowUnsupported — how a monitor reports that a feature is unsupported

`check_how_unsupported_reported` reads features that no monitor has and sets the flag for what it sees.  A read whose
retries are exhausted, with errors that are not all null responses, is made once more without dynamic sleep.
-/
namespace Ddc

open Kit Exec

structure UnsupportedFlags where
  usesNullResponse : Bool
  usesMhMlShSlZero : Bool
  usesDdcFlag : Bool
  doesNotIndicate : Bool
  deriving DecidableEq

def noUnsupportedFlags : UnsupportedFlags := ⟨false, false, false, false⟩

def UnsupportedFlags.count (flags : UnsupportedFlags) : Nat :=
  [flags.usesNullResponse, flags.usesMhMlShSlZero, flags.usesDdcFlag, flags.doesNotIndicate].count true

/-- What the probes read and change: flags of the reference, the handle's mark of a test, and the setting of the display;
the reads are counted in `io`. -/
structure ProbeState where
  flags : UnsupportedFlags
  unsupportedChecked : Bool
  testingUnsupportedFeatureActive : Bool
  dynamicSleepActive : Bool
  io : VcpIo

namespace ProbeState

def handle (s : ProbeState) : DisplayHandle := ⟨.i2c, fun _ => none, s.flags.usesMhMlShSlZero⟩

def read (s : ProbeState) (d : VcpDisplay) (featureCode : Byte) :
    Exec (Except ErrorInfo ParsedNontableVcpResponse × ProbeState) := do
  let (reply, io) ← ddcGetNontableVcpValue s.handle d s.io featureCode
  .ok (reply, { s with io := io })

def endProbe (s : ProbeState) (dynamicSleepWasActive : Bool) : ProbeState :=
  { s with
    dynamicSleepActive := if dynamicSleepWasActive = true then true else s.dynamicSleepActive
    testingUnsupportedFeatureActive := false }

end ProbeState

/-- The part of `read_unsupported_feature` from its label `retry`, with the reply to be looked at. -/
def retryProbe (d : VcpDisplay) (featureCode : Byte) : Nat → Bool → Except ErrorInfo ParsedNontableVcpResponse →
    ProbeState → Exec (Option ErrorInfo × ProbeState)
  | 0, _, _, _ => .error .outOfFuel
  | _ + 1, dynamicSleepWasActive, .ok response, s =>
    if valueBytesZero response = true then
      .ok (some ⟨ddcrcDeterminedUnsupported, "read_unsupported_feature",
          some "Set DREF_DDC_USES_MH_ML_SH_SL for unsupported", []⟩,
        { s with flags := { s.flags with usesMhMlShSlZero := true } }.endProbe dynamicSleepWasActive)
    else .ok (none, s.endProbe dynamicSleepWasActive)
  | fuel + 1, dynamicSleepWasActive, .error ddcExcp, s =>
    if ddcExcp.statusCode = ddcrcRetries then
      if errinfoAllCausesSameStatus (some ddcExcp) ddcrcNullResponse = true then
        .ok (some ⟨ddcrcAllResponsesNull, "read_unsupported_feature", some "", []⟩,
          { s with flags := { s.flags with usesNullResponse := true } }.endProbe dynamicSleepWasActive)
      else if s.dynamicSleepActive = true then do
        let (reply, s) ← { s with dynamicSleepActive := false }.read d featureCode
        retryProbe d featureCode fuel true reply s
      else .ok (some ddcExcp, s.endProbe dynamicSleepWasActive)
    else .ok (some ddcExcp, s.endProbe dynamicSleepWasActive)

def readUnsupportedFeature (d : VcpDisplay) (fuel : Nat) (s : ProbeState) (featureCode : Byte) :
    Exec (Option ErrorInfo × ProbeState) := do
  let (reply, s) ← { s with testingUnsupportedFeatureActive := true }.read d featureCode
  retryProbe d featureCode fuel false reply s

def undecided (erec : Option ErrorInfo) : Bool := erec.isNone || decide (errinfoStatus erec = ddcrcRetries)

def UnsupportedFlags.ofStatus (ddcNeverUsesNullResponse : Bool) (flags : UnsupportedFlags) (psc : Status) :
    UnsupportedFlags :=
  if psc = 0 then { flags with doesNotIndicate := true }
  else if psc = ddcrcRetries then { flags with usesDdcFlag := true }
  else if psc = ddcrcDeterminedUnsupported then flags
  else if psc = ddcrcReportedUnsupported then { flags with usesDdcFlag := true }
  else if (psc = ddcrcNullResponse ∨ psc = ddcrcAllResponsesNull) ∧ ddcNeverUsesNullResponse = false then
    { flags with usesNullResponse := true }
  else flags

def probeAgain (d : VcpDisplay) (fuel : Nat) (featureCode : Byte) (r : Option ErrorInfo × ProbeState) :
    Exec (Option ErrorInfo × ProbeState) :=
  if undecided r.1 = true then readUnsupportedFeature d fuel r.2 featureCode else .ok r

/-- **`check_how_unsupported_reported`**, for an I2C display; `isInputDigital` is read from its EDID. -/
def checkHowUnsupportedReported (d : VcpDisplay) (ddcNeverUsesNullResponse isInputDigital : Bool) (fuel : Nat)
    (s : ProbeState) : Exec ProbeState := do
  let r ← readUnsupportedFeature d fuel s 0xdd
  -- 0x41 is a feature of CRTs
  let r ← if isInputDigital = true then probeAgain d fuel 0x41 r else .ok r
  let (erec, s) ← probeAgain d fuel 0x00 r
  .ok { s with
    flags := s.flags.ofStatus ddcNeverUsesNullResponse (errinfoStatus erec)
    unsupportedChecked := true }

/-! ## What is promised -/

def freshProbe (unsupportedChecked testing dynamicSleepActive : Bool) (io : VcpIo) : ProbeState :=
  ⟨noUnsupportedFlags, unsupportedChecked, testing, dynamicSleepActive, io⟩

structure HowReported (ddcNeverUsesNullResponse : Bool) (s s' : ProbeState) : Prop where
  atMostOne : s'.flags.count ≤ 1
  noNull : ddcNeverUsesNullResponse = true → s'.flags.usesNullResponse = false
  checked : s'.unsupportedChecked = true
  testing : s'.testingUnsupportedFeatureActive = false
  dynamicSleep : s'.dynamicSleepActive = s.dynamicSleepActive

def probeReply (d : VcpDisplay) (n : Nat) : Except ErrorInfo ParsedNontableVcpResponse :=
  d.read n >>= checkNontableReply ⟨.i2c, fun _ => none, false⟩

/-- What a reply shows: a value of a feature that should not exist, retries exhausted with errors of several kinds or of
null responses only, or anything else. -/
inductive ReplyKind where
  | value | mixedRetries | allNull | decisive
  deriving DecidableEq

def replyKind : Except ErrorInfo ParsedNontableVcpResponse → ReplyKind
  | .ok response => if valueBytesZero response = true then .decisive else .value
  | .error e =>
    if e.statusCode = ddcrcRetries then
      if errinfoAllCausesSameStatus (some e) ddcrcNullResponse = true then .allNull else .mixedRetries
    else .decisive

/-- How a probe ends that begins with the `n`-th read: undecided, with the number of the next read, or with a decision. -/
inductive ProbeEnd where
  | undecided (next : Nat)
  | allNull | decisive

def probeEnd (d : VcpDisplay) (dynamicSleepActive : Bool) (n : Nat) : ProbeEnd :=
  match replyKind (probeReply d n) with
  | .value => .undecided (n + 1)
  | .allNull => .allNull
  | .decisive => .decisive
  | .mixedRetries =>
    if dynamicSleepActive = true then
      match replyKind (probeReply d (n + 1)) with
      | .allNull => .allNull
      | .decisive => .decisive
      | .value | .mixedRetries => .undecided (n + 2)
    else .undecided (n + 1)

/-- **The probes come to a read whose retries were exhausted with null responses only**: of at most `probes` probes that
begin with the `n`-th read, those before it are undecided. -/
def endsInNullResponses (d : VcpDisplay) (dynamicSleepActive : Bool) : Nat → Nat → Bool
  | 0, _ => false
  | probes + 1, n =>
    match probeEnd d dynamicSleepActive n with
    | .undecided next => endsInNullResponses d dynamicSleepActive probes next
    | .allNull => true
    | .decisive => false

/-! ## One probe -/

theorem read_eq {s : ProbeState} (h : s.flags.usesMhMlShSlZero = false) (d : VcpDisplay) (featureCode : Byte) :
    s.read d featureCode = .ok (probeReply d s.io.reads, { s with io := { s.io with reads := s.io.reads + 1 } }) := by
  obtain ⟨p, hp⟩ := createDdcGetvcpRequestPacket_ok featureCode
  rw [ProbeState.read, ddcGetNontableVcpValue, probeReply, ProbeState.handle, hp, h]; rfl

def Decided (null : Bool) (r : Option ErrorInfo × ProbeState) : Prop :=
  undecided r.1 = false ∧
    if null = true then
      r.2.flags = { noUnsupportedFlags with usesNullResponse := true } ∧ errinfoStatus r.1 = ddcrcAllResponsesNull
    else r.2.flags = noUnsupportedFlags ∨
      r.2.flags = { noUnsupportedFlags with usesMhMlShSlZero := true } ∧ errinfoStatus r.1 = ddcrcDeterminedUnsupported

structure SettingsRestored (dynamicSleepActive : Bool) (s : ProbeState) : Prop where
  testing : s.testingUnsupportedFeatureActive = false
  dynamicSleep : s.dynamicSleepActive = dynamicSleepActive

theorem restored_endProbe {s : ProbeState} {dynamicSleepActive was : Bool}
    (h : (if was = true then true else s.dynamicSleepActive) = dynamicSleepActive) :
    SettingsRestored dynamicSleepActive (s.endProbe was) := ⟨rfl, h⟩

theorem retryProbe_ends {d : VcpDisplay} {code : Byte} {fuel : Nat} {was : Bool} {s : ProbeState}
    {reply : Except ErrorInfo ParsedNontableVcpResponse} {dynamicSleepActive : Bool} (hfuel : 1 ≤ fuel)
    (hflags : s.flags = noUnsupportedFlags)
    (hdyn : (if was = true then true else s.dynamicSleepActive) = dynamicSleepActive)
    (hkind : replyKind reply = .mixedRetries → s.dynamicSleepActive = false) :
    ∃ r, retryProbe d code fuel was reply s = .ok r ∧ SettingsRestored dynamicSleepActive r.2 ∧
      match replyKind reply with
      | .value | .mixedRetries => undecided r.1 = true ∧ r.2.flags = noUnsupportedFlags ∧ r.2.io.reads = s.io.reads
      | .allNull => Decided true r
      | .decisive => Decided false r := by
  obtain ⟨fuel, rfl⟩ : ∃ n, fuel = n + 1 := ⟨fuel - 1, by omega⟩
  cases reply with
  | ok response =>
    unfold retryProbe replyKind
    by_cases hzero : valueBytesZero response = true
    · simp only [if_pos hzero]
      refine ⟨_, rfl, restored_endProbe hdyn, ?_⟩
      refine ⟨rfl, .inr ⟨?_, rfl⟩⟩
      simp only [ProbeState.endProbe, hflags]
    · simp only [if_neg hzero]; exact ⟨_, rfl, restored_endProbe hdyn, rfl, hflags, rfl⟩
  | error e =>
    unfold replyKind at hkind
    unfold retryProbe replyKind
    by_cases hretries : e.statusCode = ddcrcRetries
    · simp only [if_pos hretries] at hkind ⊢
      by_cases hnull : errinfoAllCausesSameStatus (some e) ddcrcNullResponse = true
      · simp only [if_pos hnull]
        refine ⟨_, rfl, restored_endProbe hdyn, rfl, ?_, rfl⟩
        simp only [ProbeState.endProbe, hflags]
      · simp only [if_neg hnull] at hkind ⊢
        rw [hkind trivial, if_neg Bool.false_ne_true]
        refine ⟨_, rfl, restored_endProbe hdyn, ?_, hflags, rfl⟩
        simp [undecided, errinfoStatus, hretries]
    · simp only [if_neg hretries]
      refine ⟨_, rfl, restored_endProbe hdyn, ?_, .inl hflags⟩
      simp [undecided, errinfoStatus, hretries]

theorem retryProbe_again {d : VcpDisplay} {code : Byte} {fuel : Nat} {was : Bool} {s : ProbeState}
    {reply : Except ErrorInfo ParsedNontableVcpResponse} (hflags : s.flags = noUnsupportedFlags)
    (hkind : replyKind reply = .mixedRetries) (hdyn : s.dynamicSleepActive = true) :
    retryProbe d code (fuel + 1) was reply s =
      retryProbe d code fuel true (probeReply d s.io.reads)
        { s with dynamicSleepActive := false, io := { s.io with reads := s.io.reads + 1 } } := by
  cases reply with
  | ok response =>
    unfold replyKind at hkind
    dsimp only at hkind
    split at hkind <;> cases hkind
  | error e =>
    unfold replyKind at hkind
    dsimp only at hkind
    split at hkind
    · rename_i hretries
      split at hkind
      · cases hkind
      · rename_i hnull
        rw [retryProbe, if_pos hretries, if_neg hnull, if_pos hdyn]
        have hzero : s.flags.usesMhMlShSlZero = false := by rw [hflags]; rfl
        rw [read_eq (s := { s with dynamicSleepActive := false }) hzero]; rfl
    · cases hkind

theorem readUnsupportedFeature_spec {d : VcpDisplay} {fuel : Nat} (hfuel : 2 ≤ fuel) {s : ProbeState} (code : Byte)
    (hflags : s.flags = noUnsupportedFlags) :
    ∃ r, readUnsupportedFeature d fuel s code = .ok r ∧ SettingsRestored s.dynamicSleepActive r.2 ∧
      match probeEnd d s.dynamicSleepActive s.io.reads with
      | .undecided next => undecided r.1 = true ∧ r.2.flags = noUnsupportedFlags ∧ r.2.io.reads = next
      | .allNull => Decided true r
      | .decisive => Decided false r := by
  obtain ⟨fuel, rfl⟩ : ∃ n, fuel = n + 2 := ⟨fuel - 2, by omega⟩
  obtain ⟨flags, checked, testing, dyn, io⟩ := s
  subst hflags
  unfold readUnsupportedFeature probeEnd
  cases dyn with
  | false =>
    obtain ⟨r, hr, hrestored, hend⟩ := @retryProbe_ends d code (fuel + 2) false
      ⟨noUnsupportedFlags, checked, true, false, { io with reads := io.reads + 1 }⟩ (probeReply d io.reads) false
      (by omega) rfl rfl fun _ => rfl
    refine ⟨r, hr, hrestored, ?_⟩
    cases hk : replyKind (probeReply d io.reads) <;> rw [hk] at hend <;> exact hend
  | true =>
    by_cases hmixed : replyKind (probeReply d io.reads) = .mixedRetries
    · -- the probe is made again without dynamic sleep
      obtain ⟨r, hr, hrestored, hend⟩ := @retryProbe_ends d code (fuel + 1) true
        ⟨noUnsupportedFlags, checked, true, false, { io with reads := io.reads + 2 }⟩ (probeReply d (io.reads + 1)) true
        (by omega) rfl rfl fun _ => rfl
      have hagain := @retryProbe_again d code (fuel + 1) false
        ⟨noUnsupportedFlags, checked, true, true, { io with reads := io.reads + 1 }⟩ (probeReply d io.reads) rfl hmixed rfl
      refine ⟨r, hagain.trans hr, hrestored, ?_⟩
      rw [hmixed]
      cases hk : replyKind (probeReply d (io.reads + 1)) <;> rw [hk] at hend <;> exact hend
    · obtain ⟨r, hr, hrestored, hend⟩ := @retryProbe_ends d code (fuel + 2) false
        ⟨noUnsupportedFlags, checked, true, true, { io with reads := io.reads + 1 }⟩ (probeReply d io.reads) true
        (by omega) rfl rfl fun h => absurd h hmixed
      refine ⟨r, hr, hrestored, ?_⟩
      cases hk : replyKind (probeReply d io.reads) with
      | mixedRetries => exact absurd hk hmixed
      | value | allNull | decisive => rw [hk] at hend; exact hend

/-! ## All probes -/

/-- Where the probes stand, with `left` more of them to be made: `null` is whether they end in null responses. -/
structure Standing (d : VcpDisplay) (dynamicSleepActive : Bool) (left : Nat) (null : Bool)
    (r : Option ErrorInfo × ProbeState) : Prop where
  restored : SettingsRestored dynamicSleepActive r.2
  outcome : undecided r.1 = true ∧ r.2.flags = noUnsupportedFlags ∧
    endsInNullResponses d dynamicSleepActive left r.2.io.reads = null ∨ Decided null r

theorem readUnsupportedFeature_standing {d : VcpDisplay} {fuel : Nat} (hfuel : 2 ≤ fuel) {s : ProbeState} (code : Byte)
    (hflags : s.flags = noUnsupportedFlags) (left : Nat) :
    ∃ r, readUnsupportedFeature d fuel s code = .ok r ∧ Standing d s.dynamicSleepActive left
      (endsInNullResponses d s.dynamicSleepActive (left + 1) s.io.reads) r := by
  obtain ⟨r, hr, hrestored, hend⟩ := readUnsupportedFeature_spec hfuel code hflags
  refine ⟨r, hr, hrestored, ?_⟩
  rw [endsInNullResponses]
  cases hp : probeEnd d s.dynamicSleepActive s.io.reads with
  | undecided next =>
    rw [hp] at hend
    obtain ⟨hundecided, hnone, hreads⟩ := hend
    exact .inl ⟨hundecided, hnone, by rw [hreads]⟩
  | allNull =>
    rw [hp] at hend; exact .inr hend
  | decisive =>
    rw [hp] at hend; exact .inr hend

theorem probeAgain_standing {d : VcpDisplay} {fuel : Nat} (hfuel : 2 ≤ fuel) {dynamicSleepActive : Bool} {left : Nat}
    {null : Bool} {r : Option ErrorInfo × ProbeState} (code : Byte)
    (h : Standing d dynamicSleepActive (left + 1) null r) :
    ∃ r', probeAgain d fuel code r = .ok r' ∧ Standing d dynamicSleepActive left null r' := by
  unfold probeAgain
  rcases h.outcome with ⟨hundecided, hflags, hnull⟩ | hdecided
  · rw [if_pos hundecided]
    obtain ⟨r', hr', hstanding⟩ := readUnsupportedFeature_standing hfuel code hflags left
    rw [h.restored.dynamicSleep, hnull] at hstanding; exact ⟨r', hr', hstanding⟩
  · rw [if_neg (by rw [hdecided.1]; decide)]; exact ⟨r, rfl, h.restored, .inr hdecided⟩

def probeCount (isInputDigital : Bool) : Nat := if isInputDigital = true then 3 else 2

theorem ofStatus_none (never : Bool) (psc : Status) : (noUnsupportedFlags.ofStatus never psc).count ≤ 1 ∧
    (never = true → (noUnsupportedFlags.ofStatus never psc).usesNullResponse = false) := by
  unfold UnsupportedFlags.ofStatus
  split_ifs with h1 h2 h3 h4 h5
  · exact ⟨by decide, fun _ => rfl⟩
  · exact ⟨by decide, fun _ => rfl⟩
  · exact ⟨by decide, fun _ => rfl⟩
  · exact ⟨by decide, fun _ => rfl⟩
  · exact ⟨by decide, fun hnever => absurd (hnever.symm.trans h5.2) (by decide)⟩
  · exact ⟨by decide, fun _ => rfl⟩

theorem Standing.flags {d : VcpDisplay} {dynamicSleepActive null : Bool} {r : Option ErrorInfo × ProbeState}
    (h : Standing d dynamicSleepActive 0 null r) (never : Bool) :
    (r.2.flags.ofStatus never (errinfoStatus r.1)).count ≤ 1 ∧ (never = true →
      (r.2.flags.ofStatus never (errinfoStatus r.1)).usesNullResponse = null) := by
  rcases h.outcome with ⟨-, hflags, hnull⟩ | ⟨-, hdecided⟩
  · rw [hflags, ← hnull]; exact ofStatus_none never _
  · cases null with
    | true =>
      rw [hdecided.1, hdecided.2]
      cases never <;> exact ⟨by decide, fun _ => rfl⟩
    | false =>
      rcases hdecided with hflags | ⟨hflags, hstatus⟩
      · rw [hflags]; exact ofStatus_none never _
      · rw [hflags, hstatus]
        cases never <;> exact ⟨by decide, fun _ => rfl⟩

theorem checkHowUnsupportedReported_spec (d : VcpDisplay) (never isInputDigital : Bool) {fuel : Nat} (hfuel : 2 ≤ fuel)
    {s : ProbeState} (hflags : s.flags = noUnsupportedFlags) :
    ∃ s', checkHowUnsupportedReported d never isInputDigital fuel s = .ok s' ∧ s'.flags.count ≤ 1 ∧
      (never = true → s'.flags.usesNullResponse =
        endsInNullResponses d s.dynamicSleepActive (probeCount isInputDigital) s.io.reads) ∧
      s'.unsupportedChecked = true ∧ SettingsRestored s.dynamicSleepActive s' := by
  have hlast : ∀ r, Standing d s.dynamicSleepActive 1
      (endsInNullResponses d s.dynamicSleepActive (probeCount isInputDigital) s.io.reads) r →
      ∃ s', (do
        let (erec, s) ← probeAgain d fuel 0x00 r
        .ok { s with flags := s.flags.ofStatus never (errinfoStatus erec), unsupportedChecked := true } :
          Exec ProbeState) = .ok s' ∧ s'.flags.count ≤ 1 ∧ (never = true → s'.flags.usesNullResponse =
        endsInNullResponses d s.dynamicSleepActive (probeCount isInputDigital) s.io.reads) ∧
        s'.unsupportedChecked = true ∧ SettingsRestored s.dynamicSleepActive s' := by
    intro r hr
    obtain ⟨r', hr', hstanding⟩ := probeAgain_standing hfuel 0x00 hr
    rw [hr', ok_bind]
    obtain ⟨hcount, hnull⟩ := hstanding.flags never
    exact ⟨_, rfl, hcount, hnull, rfl, hstanding.restored.testing, hstanding.restored.dynamicSleep⟩
  unfold checkHowUnsupportedReported
  cases isInputDigital with
  | true =>
    obtain ⟨r, hr, hstanding⟩ := readUnsupportedFeature_standing hfuel 0xdd hflags 2
    obtain ⟨r', hr', hstanding'⟩ := probeAgain_standing hfuel 0x41 hstanding
    rw [hr, ok_bind, if_pos rfl, hr', ok_bind]; exact hlast r' hstanding'
  | false =>
    obtain ⟨r, hr, hstanding⟩ := readUnsupportedFeature_standing hfuel 0xdd hflags 1
    rw [hr, ok_bind]; exact hlast r hstanding

/-- **The check is right exactly where the null responses are not to be ignored**: for all replies, any number of retries
and any causes, it ends with what is promised of a fresh reference, if and only if null responses may mean that a feature
is unsupported, or the probes come to no read whose retries were exhausted with null responses only. -/
theorem checkHowUnsupportedReported_right_iff (d : VcpDisplay) (never isInputDigital checked testing dyn : Bool)
    (io : VcpIo) :
    (∀ fuel, 2 ≤ fuel → ∃ s',
      checkHowUnsupportedReported d never isInputDigital fuel (freshProbe checked testing dyn io) = .ok s' ∧
        HowReported never (freshProbe checked testing dyn io) s') ↔
      (never = true → endsInNullResponses d dyn (probeCount isInputDigital) io.reads = false) := by
  have hspec := fun fuel (hfuel : 2 ≤ fuel) =>
    checkHowUnsupportedReported_spec d never isInputDigital hfuel (s := freshProbe checked testing dyn io) rfl
  constructor
  · intro h hnever
    obtain ⟨s', hs', -, hnull, -⟩ := hspec 2 (Nat.le_refl 2)
    obtain ⟨t, ht, hright⟩ := h 2 (Nat.le_refl 2)
    cases hs'.symm.trans ht
    exact (hnull hnever).symm.trans (hright.noNull hnever)
  · intro hcond fuel hfuel
    obtain ⟨s', hs', hcount, hnull, hchecked, hrestored⟩ := hspec fuel hfuel
    exact ⟨s', hs', hcount, fun hnever => (hnull hnever).trans (hcond hnever), hchecked, hrestored.testing,
      hrestored.dynamicSleep⟩

def nullResponses : VcpDisplay :=
  ⟨fun _ => 0, fun _ => .error ⟨ddcrcRetries, "ddc_write_read_with_retry", none,
    List.replicate 10 (errinfoNew ddcrcNullResponse "ddc_write_read")⟩, fun _ => none, fun _ => .ok []⟩

theorem nullResponses_not_right : ¬ ∀ fuel, 2 ≤ fuel → ∃ s',
    checkHowUnsupportedReported nullResponses true true fuel (freshProbe false false true VcpIo.start) = .ok s' ∧
      HowReported true (freshProbe false false true VcpIo.start) s' := by
  intro h
  obtain ⟨s', hs', hright⟩ := h 2 (Nat.le_refl 2)
  obtain ⟨t, ht, -, hnull, -⟩ := checkHowUnsupportedReported_spec nullResponses true true (Nat.le_refl 2)
    (s := freshProbe false false true VcpIo.start) rfl
  cases hs'.symm.trans ht
  have hend : endsInNullResponses nullResponses true (probeCount true) 0 = true := by decide +kernel
  exact absurd ((hnull rfl).symm.trans (hright.noNull rfl)) (by decide)

end Ddc
