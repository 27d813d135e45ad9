import Ddcutil.HexList
import Ddcutil.SetVcpVerify
/-!
# VcpVersion — the MCCS version of a display

`ddc_vcp_version.c`: the version given on the command line, then that of a user-defined feature file, then what the
monitor reports for feature 0xDF, which is kept in the display reference.
-/
namespace Ddc

open Kit Exec

/-- **`Display_Ref`**, as far as the version reads and changes it: `dfr` is the version of the user-defined features. -/
structure VersionDref where
  ioMode : IoMode
  vcpVersionCmdline : VersionSpec
  dfr : Option VersionSpec
  vcpVersionXdf : VersionSpec
  communicationWorking : Bool
  usesZeroForUnsupported : Bool
  deriving DecidableEq

/-- What the outside answers: to the `n`-th opening of a display, to the `n`-th question for the version over USB, and to
reads; `addrX37` is whether the slave address of the bus was active. -/
structure VersionAnswers where
  openDisplay : Nat → Option ErrorInfo
  usbVesaVersion : Nat → UInt32
  display : VcpDisplay
  addrX37 : Bool

structure VersionState where
  dref : VersionDref
  opens : Nat
  usbReads : Nat
  io : VcpIo

def VersionDref.handle (dref : VersionDref) : DisplayHandle := ⟨dref.ioMode, fun _ => none, dref.usesZeroForUnsupported⟩

/-! ## The functions -/

/-- The version that is asked for over USB, or as feature 0xDF; it is unknown where the answer does not give it. -/
def askVersion (a : VersionAnswers) (s : VersionState) : Exec VersionState :=
  let dref := { s.dref with vcpVersionXdf := vspecUnknown }
  match dref.ioMode with
  | .usb =>
    let vesaVer := a.usbVesaVersion s.usbReads
    let vspec : VersionSpec :=
      if vesaVer ≠ 0 then ⟨((vesaVer >>> 8) &&& 0xff).toUInt8, (vesaVer &&& 0xff).toUInt8⟩ else dref.vcpVersionXdf
    .ok { s with dref := { dref with vcpVersionXdf := vspec }, usbReads := s.usbReads + 1 }
  | .i2c => do
    let (reply, io) ← ddcGetNontableVcpValue dref.handle a.display s.io 0xdf
    .ok (match reply with
      | .error _ =>
        { s with dref := { dref with communicationWorking := dref.communicationWorking && a.addrX37 }, io := io }
      | .ok r =>
        if r.validResponse = false then { s with dref := dref, io := io }
        else if r.supportedOpcode = false then { s with dref := dref, io := io }
        else { s with dref := { dref with vcpVersionXdf := ⟨r.sh, r.sl⟩ }, io := io })

def setVcpVersionXdfByDh (a : VersionAnswers) (s : VersionState) : Exec (VersionSpec × VersionState) := do
  let s ← askVersion a s
  check (s.dref.vcpVersionXdf ≠ vspecUnqueried)
  .ok (s.dref.vcpVersionXdf, s)

def getOverridingVcpVersion (dref : VersionDref) : VersionSpec :=
  if vcpVersionIsValid dref.vcpVersionCmdline = true then dref.vcpVersionCmdline
  else
    match dref.dfr with
    | some vspec => if vcpVersionIsValid vspec = true then vspec else vspecUnqueried
    | none => vspecUnqueried

def getSavedVcpVersion (dref : VersionDref) : VersionSpec :=
  if getOverridingVcpVersion dref = vspecUnqueried then dref.vcpVersionXdf else getOverridingVcpVersion dref

def getVcpVersionByDref (a : VersionAnswers) (s : VersionState) : Exec (VersionSpec × VersionState) := do
  let (result, s) ←
    if getSavedVcpVersion s.dref = vspecUnqueried then
      if s.dref.communicationWorking = false then .ok (vspecUnknown, s)
      else
        match a.openDisplay s.opens with
        | none => setVcpVersionXdfByDh a { s with opens := s.opens + 1 }
        | some _ => .error .nullDeref -- the handle through which the version is set is NULL
    else .ok (getSavedVcpVersion s.dref, s)
  check (result ≠ vspecUnqueried)
  .ok (result, s)

/-! ## What is promised -/

def reportedVersion (a : VersionAnswers) (s : VersionState) : VersionSpec :=
  match s.dref.ioMode with
  | .usb =>
    if a.usbVesaVersion s.usbReads = 0 then vspecUnknown
    else ⟨((a.usbVesaVersion s.usbReads >>> 8) &&& 0xff).toUInt8, (a.usbVesaVersion s.usbReads &&& 0xff).toUInt8⟩
  | .i2c =>
    match a.display.read s.io.reads >>= checkNontableReply s.dref.handle with
    | .ok r => ⟨r.sh, r.sl⟩
    | .error _ => vspecUnknown

def monitorVersion (a : VersionAnswers) (s : VersionState) : VersionSpec :=
  if s.dref.vcpVersionXdf ≠ vspecUnqueried then s.dref.vcpVersionXdf
  else if s.dref.communicationWorking = true then reportedVersion a s
  else vspecUnknown

def chosenVersion (a : VersionAnswers) (s : VersionState) : VersionSpec :=
  if vcpVersionIsValid s.dref.vcpVersionCmdline = true then s.dref.vcpVersionCmdline
  else
    match s.dref.dfr with
    | some vspec => if vcpVersionIsValid vspec = true then vspec else monitorVersion a s
    | none => monitorVersion a s

/-- **What is promised**: the version by precedence, and that it is not asked for again whatever is answered then. -/
structure VersionRight (a : VersionAnswers) (s : VersionState) (v : VersionSpec) (s' : VersionState) : Prop where
  queried : v ≠ vspecUnqueried
  chosen : v = chosenVersion a s
  again : ∀ a', getVcpVersionByDref a' s' = .ok (v, s')

structure MustAsk (dref : VersionDref) : Prop where
  cmdline : vcpVersionIsValid dref.vcpVersionCmdline = false
  dfr : ∀ vspec, dref.dfr = some vspec → vcpVersionIsValid vspec = false
  xdf : dref.vcpVersionXdf = vspecUnqueried
  working : dref.communicationWorking = true

/-! ## Where it is right -/

theorem ne_unqueried_of_valid {vspec : VersionSpec} (h : vcpVersionIsValid vspec = true) : vspec ≠ vspecUnqueried := by
  rintro rfl
  exact absurd h (by decide)

theorem getOverridingVcpVersion_eq_unqueried {dref : VersionDref} : getOverridingVcpVersion dref = vspecUnqueried ↔
    vcpVersionIsValid dref.vcpVersionCmdline = false ∧ ∀ vspec, dref.dfr = some vspec → vcpVersionIsValid vspec = false := by
  unfold getOverridingVcpVersion
  cases hcmd : vcpVersionIsValid dref.vcpVersionCmdline with
  | true => simp [ne_unqueried_of_valid hcmd]
  | false =>
    cases hdfr : dref.dfr with
    | none => simp
    | some vspec =>
      cases hvalid : vcpVersionIsValid vspec with
      | true => simp [hvalid, ne_unqueried_of_valid hvalid]
      | false => simp [hvalid]

variable (a : VersionAnswers)

theorem chosenVersion_eq (s : VersionState) :
    chosenVersion a s = if getOverridingVcpVersion s.dref =
      vspecUnqueried then monitorVersion a s else getOverridingVcpVersion s.dref := by
  unfold chosenVersion getOverridingVcpVersion
  cases hcmd : vcpVersionIsValid s.dref.vcpVersionCmdline with
  | true => simp [ne_unqueried_of_valid hcmd]
  | false =>
    cases hdfr : s.dref.dfr with
    | none => simp
    | some vspec =>
      cases hvalid : vcpVersionIsValid vspec with
      | true => simp [hvalid, ne_unqueried_of_valid hvalid]
      | false => simp [hvalid]

theorem checkNontableReply_eq_ok {dh : DisplayHandle} {r r' : ParsedNontableVcpResponse}
    (h : checkNontableReply dh r = .ok r') : r' = r ∧ r.validResponse = true ∧ r.supportedOpcode = true := by
  unfold checkNontableReply at h
  cases hvalid : r.validResponse with
  | false =>
    rw [hvalid] at h; cases h
  | true =>
    cases hsupported : r.supportedOpcode with
    | false =>
      rw [hvalid, hsupported] at h; cases h
    | true =>
      rw [hvalid, hsupported, if_neg (by decide), if_neg (by decide)] at h
      split at h
      · cases h
      · cases h; exact ⟨rfl, rfl, rfl⟩

theorem askVersion_spec (s : VersionState) :
    ∃ s', askVersion a s = .ok s' ∧ s'.dref.vcpVersionXdf = reportedVersion a s ∧
      s'.dref.vcpVersionCmdline = s.dref.vcpVersionCmdline ∧ s'.dref.dfr = s.dref.dfr := by
  obtain ⟨⟨ioMode, cmdline, dfr, xdf, working, zero⟩, opens, usbReads, io⟩ := s
  cases ioMode with
  | usb =>
    unfold askVersion reportedVersion
    refine ⟨_, rfl, ?_, rfl, rfl⟩
    by_cases hzero : a.usbVesaVersion usbReads = 0
    · rw [if_neg (not_not.2 hzero), if_pos hzero]
    · rw [if_pos hzero, if_neg hzero]
  | i2c =>
    obtain ⟨p, hp⟩ := createDdcGetvcpRequestPacket_ok 0xdf
    unfold askVersion ddcGetNontableVcpValue reportedVersion
    dsimp only [VersionDref.handle]
    rw [hp, ok_bind, ok_bind]
    cases hread : a.display.read io.reads with
    | error e => exact ⟨_, rfl, rfl, rfl, rfl⟩
    | ok r =>
      have hbind : (Except.ok r >>= checkNontableReply ⟨.i2c, fun _ => none, zero⟩) =
        checkNontableReply ⟨.i2c, fun _ => none, zero⟩ r := rfl
      rw [hbind]
      cases hcheck : checkNontableReply ⟨.i2c, fun _ => none, zero⟩ r with
      | error e => exact ⟨_, rfl, rfl, rfl, rfl⟩
      | ok r' =>
        obtain ⟨rfl, hvalid, hsupported⟩ := checkNontableReply_eq_ok hcheck
        dsimp only
        rw [hvalid, hsupported, if_neg (by decide), if_neg (by decide)]
        exact ⟨_, rfl, rfl, rfl, rfl⟩

/-- **Asking the monitor**: what it reports is kept, unless that is the value for a monitor that was not asked. -/
theorem setVcpVersionXdfByDh_spec (s : VersionState) :
    ∃ s', s'.dref.vcpVersionXdf = reportedVersion a s ∧ s'.dref.vcpVersionCmdline = s.dref.vcpVersionCmdline ∧
      s'.dref.dfr = s.dref.dfr ∧
      setVcpVersionXdfByDh a s =
      if reportedVersion a s ≠ vspecUnqueried then .ok (reportedVersion a s, s') else .error .assertFailed := by
  obtain ⟨s', hask, hxdf, hcmdline, hdfr⟩ := askVersion_spec a s
  refine ⟨s', hxdf, hcmdline, hdfr, ?_⟩
  rw [setVcpVersionXdfByDh, hask, ok_bind, hxdf]
  by_cases h : reportedVersion a s ≠ vspecUnqueried
  · rw [check_pos h, if_pos h]; rfl
  · rw [check_neg h, if_neg h]; rfl

theorem getVcpVersionByDref_saved {s : VersionState} (h : getSavedVcpVersion s.dref ≠ vspecUnqueried) (a : VersionAnswers) :
    getVcpVersionByDref a s = .ok (getSavedVcpVersion s.dref, s) := by
  rw [getVcpVersionByDref, if_neg h, ok_bind]
  dsimp only
  rw [check_pos h]; rfl

theorem getVcpVersionByDref_notWorking {s : VersionState} (h : getSavedVcpVersion s.dref = vspecUnqueried)
    (hworking : s.dref.communicationWorking = false) (a : VersionAnswers) :
    getVcpVersionByDref a s = .ok (vspecUnknown, s) := by
  rw [getVcpVersionByDref, if_pos h, if_pos hworking]; rfl

theorem getSavedVcpVersion_eq_unqueried {dref : VersionDref} : getSavedVcpVersion dref = vspecUnqueried ↔
    getOverridingVcpVersion dref = vspecUnqueried ∧ dref.vcpVersionXdf = vspecUnqueried := by
  unfold getSavedVcpVersion
  split
  · rename_i h
    simp [h]
  · rename_i h
    simp [h]

theorem mustAsk_iff {dref : VersionDref} :
    MustAsk dref ↔ getSavedVcpVersion dref = vspecUnqueried ∧ dref.communicationWorking = true := by
  rw [getSavedVcpVersion_eq_unqueried, getOverridingVcpVersion_eq_unqueried]
  exact ⟨fun h => ⟨⟨⟨h.cmdline, h.dfr⟩, h.xdf⟩, h.working⟩, fun h => ⟨h.1.1.1, h.1.1.2, h.1.2, h.2⟩⟩

theorem chosenVersion_of_unqueried {s : VersionState} (h : getSavedVcpVersion s.dref = vspecUnqueried) (a : VersionAnswers) :
    chosenVersion a s = if s.dref.communicationWorking = true then reportedVersion a s else vspecUnknown := by
  obtain ⟨hover, hxdf⟩ := getSavedVcpVersion_eq_unqueried.1 h
  rw [chosenVersion_eq, if_pos hover]
  rw [monitorVersion, hxdf]; rfl

theorem chosenVersion_of_saved {s : VersionState} (h : getSavedVcpVersion s.dref ≠ vspecUnqueried) (a : VersionAnswers) :
    chosenVersion a s = getSavedVcpVersion s.dref := by
  rw [chosenVersion_eq]
  unfold getSavedVcpVersion at h ⊢
  split
  · rename_i hover
    rw [if_pos hover] at h
    rw [monitorVersion, if_pos h]
  · rfl

theorem getSavedVcpVersion_reported {s s' : VersionState} {v : VersionSpec}
    (hsaved : getSavedVcpVersion s.dref = vspecUnqueried)
    (hcmdline : s'.dref.vcpVersionCmdline = s.dref.vcpVersionCmdline) (hdfr : s'.dref.dfr = s.dref.dfr)
    (hxdf : s'.dref.vcpVersionXdf = v) : getSavedVcpVersion s'.dref = v := by
  have hover : getOverridingVcpVersion s'.dref = getOverridingVcpVersion s.dref := by
    unfold getOverridingVcpVersion
    rw [hcmdline, hdfr]
  rw [getSavedVcpVersion, hover, if_pos (getSavedVcpVersion_eq_unqueried.1 hsaved).1, hxdf]

theorem getVcpVersionByDref_ask {s : VersionState} (h : getSavedVcpVersion s.dref = vspecUnqueried)
    (hworking : s.dref.communicationWorking = true) (a : VersionAnswers) :
    ∃ s', s'.dref.vcpVersionXdf = reportedVersion a s ∧ s'.dref.vcpVersionCmdline = s.dref.vcpVersionCmdline ∧
      s'.dref.dfr = s.dref.dfr ∧ getVcpVersionByDref a s =
        match a.openDisplay s.opens with
        | none => if reportedVersion a s ≠ vspecUnqueried then .ok (reportedVersion a s, s') else .error .assertFailed
        | some _ => .error .nullDeref := by
  obtain ⟨s', hxdf, hcmdline, hdfr, hset⟩ := setVcpVersionXdfByDh_spec a { s with opens := s.opens + 1 }
  have hsame : reportedVersion a { s with opens := s.opens + 1 } = reportedVersion a s := rfl
  rw [hsame] at hxdf hset
  refine ⟨s', hxdf, hcmdline, hdfr, ?_⟩
  rw [getVcpVersionByDref, if_pos h, if_neg (by rw [hworking]; decide)]
  cases a.openDisplay s.opens with
  | some err => rfl
  | none =>
    rw [hset]
    by_cases hrep : reportedVersion a s ≠ vspecUnqueried
    · rw [if_pos hrep, ok_bind]
      dsimp only
      rw [check_pos hrep]; rfl
    · rw [if_neg hrep]; rfl

/-- **The version of a display is right exactly where the monitor can be asked when it must be**: for every reference,
all versions given and kept, and all answers, it is returned by precedence, is a version or 0.0, and is not asked for
again, if and only if the monitor need not be asked, or the display opens and does not report 255.255. -/
theorem getVcpVersionByDref_right_iff (a : VersionAnswers) (s : VersionState) :
    (∃ v s', getVcpVersionByDref a s = .ok (v, s') ∧ VersionRight a s v s') ↔
      (MustAsk s.dref → a.openDisplay s.opens = none ∧ reportedVersion a s ≠ vspecUnqueried) := by
  by_cases hsaved : getSavedVcpVersion s.dref = vspecUnqueried
  · cases hworking : s.dref.communicationWorking with
    | false =>
      have hget := getVcpVersionByDref_notWorking hsaved hworking
      constructor
      · exact fun _ hask => absurd (hask.working.symm.trans hworking) (by decide)
      · refine fun _ => ⟨_, s, hget a, by decide, ?_, hget⟩
        rw [chosenVersion_of_unqueried hsaved, if_neg (by rw [hworking]; decide)]
    | true =>
      have hask : MustAsk s.dref := mustAsk_iff.2 ⟨hsaved, hworking⟩
      obtain ⟨s', hxdf, hcmdline, hdfr, hget⟩ := getVcpVersionByDref_ask hsaved hworking a
      constructor
      · rintro ⟨v, t, h, -⟩ -
        rw [hget] at h
        cases hopen : a.openDisplay s.opens with
        | some err =>
          rw [hopen] at h; cases h
        | none =>
          rw [hopen] at h
          refine ⟨rfl, fun hrep => ?_⟩
          rw [if_neg (not_not.2 hrep)] at h; cases h
      · intro h
        obtain ⟨hopen, hrep⟩ := h hask
        have hkept := getSavedVcpVersion_reported hsaved hcmdline hdfr hxdf
        refine ⟨_, s', ?_, hrep, ?_, fun a' => ?_⟩
        · rw [hget, hopen, if_pos hrep]
        · rw [chosenVersion_of_unqueried hsaved, if_pos hworking]
        · rw [← hkept]; exact getVcpVersionByDref_saved (hkept ▸ hrep) a'
  · have hget := getVcpVersionByDref_saved hsaved
    constructor
    · exact fun _ hask => absurd (mustAsk_iff.1 hask).1 hsaved
    · exact fun _ => ⟨_, s, hget a, hsaved, (chosenVersion_of_saved hsaved a).symm, hget⟩

def unaskedState : VersionState := ⟨⟨.i2c, vspecUnqueried, none, vspecUnqueried, true, false⟩, 0, 0, VcpIo.start⟩

def busyAnswers : VersionAnswers where
  openDisplay _ := some (errinfoNew (-eBusy) "ddc_open_display")
  usbVesaVersion _ := 0
  display := ⟨fun _ => 0, fun _ => .ok ⟨0xdf, true, true, 0, 0, 2, 1⟩, fun _ => none, fun _ => .ok []⟩
  addrX37 := true

theorem busyDisplay_not_right : ¬ ∃ v s', getVcpVersionByDref busyAnswers unaskedState = .ok (v, s') ∧
    VersionRight busyAnswers unaskedState v s' := by
  rintro ⟨v, s', h, -⟩
  cases h

end Ddc
