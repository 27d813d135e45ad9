import Ddcutil.Kit.Binary64
import Ddcutil.Kit.RingBuffer
import Ddcutil.Status
/-!
# Dsa2 — dynamic sleep algorithm 2

`dsa2.c`: a results table for each I2C bus holds the step that indexes the table of sleep multipliers, `curStep`
between operations and `curRetryLoopStep` within the retry loop of one operation.  The definitions carry the source's
names.
-/
namespace Ddc

open Kit

structure SuccessfulInvocation where
  epochSeconds : Int
  tryct : Int
  requiredStep : Int
  deriving DecidableEq, Repr

def maxRecentValues : Nat := 100

abbrev Cirb := RingBuffer SuccessfulInvocation

def cirbNew : Cirb := RingBuffer.blank maxRecentValues ⟨0, 0, 0⟩ (by decide)

def cirbAdd (cirb : Cirb) (value : SuccessfulInvocation) : Cirb := cirb.push value

def cirbLogicalToPhysicalIndex (cirb : Cirb) (logical : Int) : Int :=
  if logical < cirb.ct then
    if cirb.ct < cirb.size then logical else (cirb.nextpos + logical).tmod cirb.size
  else -1

def cirbGetLogical (cirb : Cirb) (logical : Int) : SuccessfulInvocation :=
  let physical := cirbLogicalToPhysicalIndex cirb logical
  if 0 ≤ physical then cirb.cells.getD physical.toNat ⟨-1, -1, 0⟩ else ⟨-1, -1, 0⟩

def cirbGetLatest (cirb : Cirb) (ct : Int) : List SuccessfulInvocation :=
  let ct := if ct < 0 then (cirb.ct : Int) else ct
  let skipct := if ct ≤ cirb.ct then cirb.ct - ct else 0
  let ct := if (cirb.ct : Int) < ct then (cirb.ct : Int) else ct
  (List.range ct.toNat).map fun (ctr : Nat) => cirbGetLogical cirb (ctr + skipct)

/-! ## Results tables -/

def steps : List Int := [0, 5, 10, 20, 30, 50, 70, 100, 130, 160, 200]

def stepLast : Int := 10

def i2cBusMax : Nat := 64

def targetMaxTries : Int := 3
def defaultInterval : Int := 3
def globalLookback : Int := 5
def minDecrementLookback : Int := 5
def targetGreatestTriesLowerBound : Int := 2
def targetAvgTriesLowerBound10 : Int := 11

def rtableFromCache : Byte := 0x01
def rtableBusDetected : Byte := 0x02
def rtableEdidVerified : Byte := 0x04

/-- **The settings of the module**, which options set before any table exists. -/
structure Dsa2Settings where
  targetGreatestTriesUpperBound : Int
  targetAvgTriesUpperBound10 : Int
  dsa2StepFloor : Int
  floorNonneg : 0 ≤ dsa2StepFloor
  floorLe : dsa2StepFloor ≤ stepLast

structure ResultsTable where
  recentValues : Cirb
  busno : Nat
  curStep : Int
  remainingInterval : Int
  curRetryLoopStep : Int
  curRetryLoopNullMsgCt : Int
  initialStep : Int
  initialLookback : Int
  curLookback : Int
  adjustmentsUp : Int
  totalStepsUp : Int
  adjustmentsDown : Int
  totalStepsDown : Int
  successfulTryCt : Int
  retryableFailureCt : Int
  highestStepCompleteLoopFailure : Int
  nullMsgMaxStepForSuccess : Int
  latestAvgTryct10 : Int
  edidChecksumByte : Byte
  state : Byte

/-- **The module's variables**: whether it is enabled, the initial step, and `results_tables[]`. -/
structure Dsa2 where
  dsa2Enabled : Bool
  initialStep : Int
  resultsTables : List (Option ResultsTable)
  length_eq : resultsTables.length = i2cBusMax + 1

def Dsa2.install (g : Dsa2) (busno : Nat) (t : Option ResultsTable) : Dsa2 where
  dsa2Enabled := g.dsa2Enabled
  initialStep := g.initialStep
  resultsTables := g.resultsTables.set busno t
  length_eq := by rw [List.length_set, g.length_eq]

theorem length_noTables : (List.replicate (i2cBusMax + 1) (none : Option ResultsTable)).length = i2cBusMax + 1 :=
  List.length_replicate

def initDsa2 (dsa2Enabled : Bool) : Dsa2 where
  dsa2Enabled := dsa2Enabled
  initialStep := 7
  resultsTables := List.replicate (i2cBusMax + 1) none
  length_eq := length_noTables

def dsa2Enable (g : Dsa2) (yesno : Bool) : Dsa2 := { g with dsa2Enabled := yesno }

def newResultsTable (initialStep : Int) (busno : Nat) : ResultsTable where
  recentValues := cirbNew
  busno := busno
  curStep := initialStep
  remainingInterval := defaultInterval
  curRetryLoopStep := 0
  curRetryLoopNullMsgCt := 0
  initialStep := initialStep
  initialLookback := globalLookback
  curLookback := globalLookback
  adjustmentsUp := 0
  totalStepsUp := 0
  adjustmentsDown := 0
  totalStepsDown := 0
  successfulTryCt := 0
  retryableFailureCt := 0
  highestStepCompleteLoopFailure := -1
  nullMsgMaxStepForSuccess := -1
  latestAvgTryct10 := 0
  edidChecksumByte := 0
  state := 0x00

def getEdidCheckbyte (busInfo : Option Byte) : Exec Byte :=
  match busInfo with
  | some checkbyte => .ok checkbyte
  | none => .error .assertFailed

def stepAt (ndx : Int) : Exec Int := if 0 ≤ ndx then fetch steps ndx.toNat else .error .outOfBounds

/-- The loop of `dsa2_multiplier_to_step`, with the number of turns it may still take. -/
def firstStepAtLeast (imult : Int) : Nat → Int → Exec Int
  | 0, _ => .error .outOfFuel
  | left + 1, ndx =>
    if ndx ≤ stepLast then
      stepAt ndx >>= fun step => if imult ≤ step then .ok ndx else firstStepAtLeast imult left (ndx + 1)
    else .ok ndx

def dsa2MultiplierToStep (settings : Dsa2Settings) (multiplier : ℚ) : Exec Int := do
  let imult := truncate (round64 (multiplier * 100))
  let ndx ← firstStepAtLeast imult (steps.length + 1) settings.dsa2StepFloor
  .ok (if stepLast < ndx then stepLast else ndx)

def dsa2ResetResultsTable (settings : Dsa2Settings) (g : Dsa2) (busno : Nat) (sleepMultiplier : ℚ)
    (busInfo : Option Byte) : Exec Dsa2 := do
  let _ ← fetch g.resultsTables busno
  let initialStep ← dsa2MultiplierToStep settings (if 0 ≤ sleepMultiplier then sleepMultiplier else 1)
  let checkbyte ← getEdidCheckbyte busInfo
  let rtable := newResultsTable g.initialStep busno
  .ok (g.install busno (some { rtable with
    initialStep := initialStep
    curStep := initialStep
    curRetryLoopStep := initialStep
    state := rtableBusDetected
    edidChecksumByte := checkbyte }))

/-- The table found, with its flags brought up to date; none when its EDID has changed since it was cached. -/
def verifyCached (found : Option ResultsTable) (busInfo : Option Byte) : Exec (Option ResultsTable) :=
  match found with
  | none => .ok none
  | some rtable =>
    let state := rtable.state ||| rtableBusDetected
    if state &&& rtableFromCache ≠ 0 ∧ state &&& rtableEdidVerified = 0 then do
      let checkbyte ← getEdidCheckbyte busInfo
      if checkbyte ≠ rtable.edidChecksumByte then .ok none
      else .ok (some { rtable with state := state ||| rtableEdidVerified })
    else .ok (some { rtable with state := state })

def createMissing (initialStep : Int) (busno : Nat) (createIfNotFound : Bool) (busInfo : Option Byte)
    (found : Option ResultsTable) : Exec (Option ResultsTable) :=
  match found with
  | some rtable => .ok (some rtable)
  | none =>
    if createIfNotFound then do
      let checkbyte ← getEdidCheckbyte busInfo
      .ok (some { newResultsTable initialStep busno with
        curStep := initialStep
        curRetryLoopStep := initialStep
        state := rtableBusDetected
        edidChecksumByte := checkbyte })
    else .ok none

/-- `dsa2_get_results_table_by_busno`; the table it returns is the one it leaves installed. -/
def dsa2GetResultsTableByBusno (g : Dsa2) (busno : Nat) (createIfNotFound : Bool) (busInfo : Option Byte) :
    Exec Dsa2 := do
  check (busno ≤ i2cBusMax)
  let found ← fetch g.resultsTables busno
  let verified ← verifyCached found busInfo
  let rtable ← createMissing g.initialStep busno createIfNotFound busInfo verified
  .ok (g.install busno rtable)

def resetStep (initialStep : Int) (rtable : ResultsTable) : ResultsTable :=
  { rtable with
    curStep := initialStep
    curRetryLoopStep := initialStep
    adjustmentsDown := 0
    adjustmentsUp := 0
    totalStepsUp := 0
    totalStepsDown := 0
    successfulTryCt := 0
    retryableFailureCt := 0 }

def dsa2ResetMultiplier (settings : Dsa2Settings) (g : Dsa2) (multiplier : ℚ) : Exec Dsa2 := do
  let initialStep ← dsa2MultiplierToStep settings multiplier
  .ok {
    dsa2Enabled := g.dsa2Enabled
    initialStep := initialStep
    resultsTables := g.resultsTables.mapIdx fun ndx t => if ndx < i2cBusMax then t.map (resetStep initialStep) else t
    length_eq := by rw [List.length_mapIdx, g.length_eq] }

/-! ## The algorithm -/

def int32 (n : Int) : Int := n.bmod (2 ^ 32)

def dsa2TooManyErrors (settings : Dsa2Settings) (mostRecentTryct highestTryct totalTryct interval : Int) :
    Exec Bool := do
  let computedAvg10 ← quot (int32 (totalTryct * 10)) interval
  .ok (targetMaxTries < mostRecentTryct || settings.targetGreatestTriesUpperBound < highestTryct ||
    settings.targetAvgTriesUpperBound10 < computedAvg10)

def dsa2TooFewErrors (highestTryct totalTryct interval : Int) : Exec Bool := do
  let computedAvg10 ← quot (int32 (totalTryct * 10)) interval
  .ok (highestTryct ≤ targetGreatestTriesLowerBound && computedAvg10 ≤ targetAvgTriesLowerBound10)

def dsa2NextRetryStep (prevStep remainingTries : Int) : Exec Int :=
  if 0 < remainingTries then do
    let remainingSteps : Int := stepLast - prevStep
    let fadj0 ← quot64 remainingSteps remainingTries
    let fadj1 ← adjusted (2 < remainingTries) remainingSteps (remainingTries - 2) fadj0
    let fadj ← adjusted (1 < remainingTries) remainingSteps (remainingTries - 1) fadj1
    let fadj2 := if 3 / 4 < fadj ∧ fadj < 1 then 1 else fadj
    .ok (min (prevStep + truncate fadj2) stepLast)
  else .ok prevStep
where
  adjusted (p : Bool) (remainingSteps tries : Int) (fadj : ℚ) : Exec ℚ :=
    if p then quot64 remainingSteps tries else .ok fadj

/-- `dsa2_adjust_for_rcnt_successes`, with the table it leaves and the step it returns. -/
def dsa2AdjustForRcntSuccesses (settings : Dsa2Settings) (rtable : ResultsTable) : Exec (ResultsTable × Int) := do
  let latestValues := cirbGetLatest rtable.recentValues 10
  let actualLookback : Int := latestValues.length
  check (0 < actualLookback)
  let maxTryct := latestValues.foldl (fun m v => if m < v.tryct then v.tryct else m) 0
  let totalTryct := latestValues.foldl (fun n v => int32 (n + v.tryct)) 0
  let mostRecent ← fetch latestValues (actualLookback - 1).toNat
  check (mostRecent.requiredStep ≤ stepLast)
  let latestAvgTryct10 ← quot (int32 (totalTryct * 10)) actualLookback
  let rtable := { rtable with latestAvgTryct10 := latestAvgTryct10 }
  let tooMany ← dsa2TooManyErrors settings mostRecent.tryct maxTryct totalTryct actualLookback
  let tooFew ← dsa2TooFewErrors maxTryct totalTryct actualLookback
  let adjusted := adjustStep rtable actualLookback mostRecent.requiredStep tooMany tooFew
  check (adjusted.2 ≤ stepLast)
  .ok adjusted
where
  /-- The adjustment itself.  The step up returns the step before it, the table keeps the one after it. -/
  adjustStep (rtable : ResultsTable) (actualLookback mostRecentStep : Int) (tooMany tooFew : Bool) :
      ResultsTable × Int :=
    if tooMany ∧ rtable.curStep < mostRecentStep then
      if rtable.curStep < stepLast then
        ({ rtable with
          curStep := rtable.curStep + 1
          totalStepsUp := rtable.totalStepsUp + 1
          adjustmentsUp := rtable.adjustmentsUp + 1 }, rtable.curStep)
      else (rtable, rtable.curStep)
    else if minDecrementLookback ≤ actualLookback ∧ tooFew ∧ 0 < rtable.curStep then
      if min rtable.nullMsgMaxStepForSuccess 3 < rtable.curStep then
        ({ rtable with
          totalStepsDown := rtable.totalStepsDown + 1
          adjustmentsDown := rtable.adjustmentsDown + 1
          curLookback := actualLookback }, rtable.curStep - 1)
      else ({ rtable with curLookback := actualLookback }, rtable.curStep)
    else (rtable, rtable.curStep)

def dsa2NoteRetryableFailure (rtable : ResultsTable) (ddcrc : Status) (remainingTries : Int) :
    Exec ResultsTable := do
  let nextStep ← dsa2NextRetryStep rtable.curRetryLoopStep remainingTries
  .ok { rtable with
    retryableFailureCt := rtable.retryableFailureCt + 1
    curRetryLoopNullMsgCt :=
      if ddcrc = ddcrcNullResponse then rtable.curRetryLoopNullMsgCt + 1 else rtable.curRetryLoopNullMsgCt
    curRetryLoopStep := nextStep }

/-- The branch of `dsa2_record_final` for a successful operation: the table and the next `cur_step`. -/
def recordSuccess (settings : Dsa2Settings) (rtable : ResultsTable) (tries now : Int) :
    Exec (ResultsTable × Int) :=
  let rtable := { rtable with
    successfulTryCt := rtable.successfulTryCt + 1
    recentValues := cirbAdd rtable.recentValues ⟨now, tries, rtable.curRetryLoopStep⟩ }
  if 0 < rtable.curRetryLoopNullMsgCt then .ok (rtable, min (rtable.curRetryLoopStep + 1) stepLast)
  else if targetMaxTries < tries then .ok (rtable, min (rtable.curRetryLoopStep + 1) stepLast)
  else if 2 < tries then
    let rtable := { rtable with remainingInterval := rtable.remainingInterval - 1 }
    if rtable.remainingInterval = 0 then
      (fun r => ({ r.1 with remainingInterval := defaultInterval }, r.2)) <$>
        dsa2AdjustForRcntSuccesses settings rtable
    else .ok (rtable, rtable.curStep)
  else
    (fun r => ({ r.1 with remainingInterval := defaultInterval }, r.2)) <$>
      dsa2AdjustForRcntSuccesses settings rtable

def recordFailure (rtable : ResultsTable) (ddcrc : Status) : ResultsTable × Int :=
  if ddcrc ≠ ddcrcAllResponsesNull then
    ({ rtable with
      highestStepCompleteLoopFailure := max rtable.highestStepCompleteLoopFailure rtable.curRetryLoopStep
      remainingInterval := defaultInterval }, min (rtable.curRetryLoopStep + 1) stepLast)
  else ({ rtable with remainingInterval := defaultInterval }, rtable.curStep)

/-- The end of `dsa2_record_final`: both steps become the next one, within the floor and the last step. -/
def settleStep (settings : Dsa2Settings) (rtable : ResultsTable) (nextCurStep : Int) : ResultsTable :=
  let nextCurStep :=
    if nextCurStep < settings.dsa2StepFloor then settings.dsa2StepFloor
    else if stepLast < nextCurStep then stepLast else nextCurStep
  let delta := nextCurStep - rtable.curStep
  { rtable with
    adjustmentsDown := if delta < 0 then rtable.adjustmentsDown + 1 else rtable.adjustmentsDown
    totalStepsDown := if delta < 0 then rtable.totalStepsDown - delta else rtable.totalStepsDown
    adjustmentsUp := if 0 < delta then rtable.adjustmentsUp + 1 else rtable.adjustmentsUp
    totalStepsUp := if 0 < delta then rtable.totalStepsUp + delta else rtable.totalStepsUp
    curStep := nextCurStep
    curRetryLoopStep := nextCurStep
    curRetryLoopNullMsgCt := 0 }

def dsa2RecordFinal (settings : Dsa2Settings) (dsa2Enabled : Bool) (rtable : ResultsTable) (ddcrc : Status)
    (tries : Int) (curLoopNullAdjustmentOccurred : Bool) (now : Int) : Exec ResultsTable :=
  if !dsa2Enabled then .ok rtable
  else do
    let rtable := { rtable with
      nullMsgMaxStepForSuccess :=
        if curLoopNullAdjustmentOccurred then max rtable.nullMsgMaxStepForSuccess rtable.curRetryLoopStep
        else rtable.nullMsgMaxStepForSuccess }
    check (rtable.curRetryLoopStep ≤ stepLast)
    check (rtable.curStep ≤ rtable.curRetryLoopStep)
    let recorded ← if ddcrc = 0 then recordSuccess settings rtable tries now else .ok (recordFailure rtable ddcrc)
    .ok (settleStep settings recorded.1 recorded.2)

def dsa2GetAdjustedSleepMult (rtable : ResultsTable) : Exec ℚ :=
  stepAt rtable.curRetryLoopStep >>= fun step => quot64 step 100

end Ddc
