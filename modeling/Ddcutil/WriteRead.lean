import Ddcutil.DisplayData
import Ddcutil.Kit.Loop
import Ddcutil.Packet
/-!
# WriteRead — writing a request and reading the response, with retries

`ddc_write_read_with_retry` of `ddc_packet_io.c` for an I2C display.  What each try meets is an argument: the result
of `ddc_write_read`, whether its sleeps ran, and what `i2c_check_open_bus_alive` would find.
-/
namespace Ddc

open Kit

structure WriteReadFlags where
  allZeroResponseOk : Bool
  capabilities : Bool
  tableRead : Bool
  deriving DecidableEq, Repr

inductive WriteReadResult where
  | response (packet : DdcPacket)
  | failure (psc : Status) (neg : psc < 0)

/-- **What one try meets.**  The sleeps run when the request could be written. -/
structure TryOutcome where
  result : WriteReadResult
  slept : Bool
  busCheck : Option ErrorInfo

/-- The display as the loop sees it; a test for unsupported features ends before its finding is recorded. -/
structure ReadHandle where
  usesNullResponseForUnsupported : Bool
  testingUnsupportedFeatureActive : Bool
  exclusive : ¬ (testingUnsupportedFeatureActive = true ∧ usesNullResponseForUnsupported = true)

/-- **One call**: the display, the response asked for, and what each try meets. -/
structure WriteReadCall where
  handle : ReadHandle
  expectedResponseType : Byte
  flags : WriteReadFlags
  tries : Nat → TryOutcome
  now : Int

structure RetrySettings where
  dsa2 : Dsa2Settings
  maxTries : MaxTries
  nullMsgAdjustmentEnabled : Bool

def ddcrcNullResponseMax : Nat := 3

def ddcWriteRead (result : WriteReadResult) : Option ErrorInfo × Option DdcPacket :=
  match result with
  | .response packet => (none, some packet)
  | .failure psc _ => (some (errinfoNew psc "ddc_write_read"), none)

structure WriteReadTries where
  psc : Status
  retryable : Bool
  readAllZeroCt : Nat
  nullResponseCt : Nat
  tryErrors : List (Option ErrorInfo)
  packet : Option DdcPacket
  tryctr : Nat
  masterError : Option ErrorInfo
  state : DdcState

def addTryError (tryErrors : List (Option ErrorInfo)) (excp : Option ErrorInfo) : Exec (List (Option ErrorInfo)) :=
  if tryErrors.length < maxMaxTries then .ok (tryErrors ++ [excp]) else .error .outOfBounds

structure TryClass where
  retryable : Bool
  readAllZeroCt : Nat
  nullResponseCt : Nat
  adjustRemainingTriesForNull : Bool

def mayMeanUnsupportedFeature (call : WriteReadCall) : Bool :=
  (call.expectedResponseType == ddcPacketTypeQueryVcpResponse && call.handle.usesNullResponseForUnsupported) ||
    call.expectedResponseType == ddcPacketTypeTableReadResponse

def classifyTry (call : WriteReadCall) (psc : Status) (s : WriteReadTries) : Exec TryClass :=
  if psc = ddcrcNullResponse then do
    check (¬ (call.handle.testingUnsupportedFeatureActive = true ∧ call.handle.usesNullResponseForUnsupported = true))
    if !call.handle.testingUnsupportedFeatureActive then
      if mayMeanUnsupportedFeature call then
        .ok ⟨s.nullResponseCt + 1 ≤ ddcrcNullResponseMax, s.readAllZeroCt, s.nullResponseCt + 1, true⟩
      else .ok ⟨s.retryable, s.readAllZeroCt, s.nullResponseCt, false⟩
    else .ok ⟨true, s.readAllZeroCt, s.nullResponseCt, false⟩
  else if psc = ddcrcReadAllZero then
    .ok ⟨!call.flags.allZeroResponseOk, s.readAllZeroCt + 1, s.nullResponseCt, false⟩
  else if psc = -eIo ∨ psc = -eBadf ∨ psc = -eNxio ∨ psc = -eBusy then
    .ok ⟨false, s.readAllZeroCt, s.nullResponseCt, false⟩
  else .ok ⟨true, s.readAllZeroCt, s.nullResponseCt, false⟩

def noteTry (maxTries : MaxTries) (psc : Status) (tryctr : Nat) (cls : TryClass) (pdd : PerDisplayData) :
    Exec PerDisplayData :=
  let remainingTries : Int := maxTries.val - 1 - tryctr
  let adjustedRemainingTries : Int :=
    if cls.adjustRemainingTriesForNull then ddcrcNullResponseMax - 1 - tryctr else remainingTries
  if psc ≠ 0 ∧ cls.retryable = true ∧ 0 < remainingTries then
    pddNoteRetryableFailure pdd psc adjustedRemainingTries
  else .ok pdd

def trySleeps (st : RetrySettings) (slept : Bool) (pdd : PerDisplayData) : Exec PerDisplayData :=
  if slept then
    tunedSleepWithTrace st.nullMsgAdjustmentEnabled pdd >>= tunedSleepWithTrace st.nullMsgAdjustmentEnabled
  else .ok pdd

def writeReadTry (st : RetrySettings) (call : WriteReadCall) (s : WriteReadTries) : Exec WriteReadTries := do
  let out := call.tries s.tryctr
  let pdd ← trySleeps st out.slept s.state.pdd
  let cur := ddcWriteRead out.result
  check (cur.1.isNone ↔ cur.2.isSome)
  let psc := errinfoStatus cur.1
  let tryErrors ← addTryError s.tryErrors cur.1
  if psc < 0 then do
    let cls ← classifyTry call psc s
    if (psc = -eIo ∨ psc = -eNxio) ∧ out.busCheck.isSome then
      .ok { s with
        psc := psc
        retryable := cls.retryable
        tryErrors := tryErrors
        packet := cur.2
        masterError := out.busCheck
        state := { s.state with pdd := pdd } }
    else do
      let pdd ← noteTry st.maxTries psc s.tryctr cls pdd
      .ok ⟨psc, cls.retryable, cls.readAllZeroCt, cls.nullResponseCt, tryErrors, cur.2, s.tryctr + 1, none,
        { s.state with pdd := pdd }⟩
  else
    .ok ⟨psc, s.retryable, s.readAllZeroCt, s.nullResponseCt, tryErrors, cur.2, s.tryctr + 1, none,
      { s.state with pdd := pdd }⟩

/-- **What a call returns**: the error, the packet, the number of tries made and the state it leaves. -/
structure WriteReadReturn where
  excp : Option ErrorInfo
  packet : Option DdcPacket
  tries : Nat
  state : DdcState

def finalStatus (maxTries : MaxTries) (s : WriteReadTries) (allResponsesNullMeantUnsupported : Bool) : Status :=
  if s.retryable then ddcrcRetries
  else if s.readAllZeroCt = maxTries.val then ddcrcAllTriesZero
  else if allResponsesNullMeantUnsupported then ddcrcDeterminedUnsupported
  else if ddcrcNullResponseMax < s.nullResponseCt then ddcrcAllResponsesNull
  else s.psc

def finishWriteRead (st : RetrySettings) (call : WriteReadCall) (s : WriteReadTries) : Exec WriteReadReturn := do
  check (1 ≤ s.tryctr ∧ s.tryctr ≤ st.maxTries.val)
  let allResponsesNullMeantUnsupported : Bool :=
    (call.handle.usesNullResponseForUnsupported || call.expectedResponseType == ddcPacketTypeTableReadResponse) &&
      !call.flags.capabilities && s.nullResponseCt == s.tryctr
  let adjustedTryctr : Nat := if allResponsesNullMeantUnsupported then 1 else s.tryctr
  let pdd ← pddRecordFinal st.dsa2 s.state.dsa2Enabled s.state.pdd s.psc adjustedTryctr call.now
  let errorsFound := s.tryErrors.filterMap id
  let psc := if s.psc < 0 then finalStatus st.maxTries s allResponsesNullMeantUnsupported else s.psc
  let masterError :=
    if s.psc < 0 then some (errinfoNewWithCauses psc errorsFound "ddc_write_read_with_retry") else none
  let state ← tryDataRecordTries2 st.maxTries { s.state with pdd := pdd } psc s.tryctr
  check (masterError.isNone ↔ s.packet.isSome)
  .ok ⟨masterError, s.packet, s.tryErrors.length, state⟩

def ddcWriteReadWithRetry (st : RetrySettings) (state : DdcState) (call : WriteReadCall) : Exec WriteReadReturn := do
  let s ← forWhile (fun s => s.psc < 0 && s.retryable && s.masterError.isNone) (writeReadTry st call) st.maxTries.val
    ⟨-999, true, 0, 0, [], none, 0, none, state⟩
  match s.masterError with
  | some excp => do
    check ((some excp).isNone ↔ s.packet.isSome)
    .ok ⟨some excp, s.packet, s.tryErrors.length, s.state⟩
  | none => finishWriteRead st call s

end Ddc
