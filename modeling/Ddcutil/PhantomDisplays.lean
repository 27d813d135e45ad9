import Ddcutil.DetectedDisplays
import Ddcutil.Kit.Marks
/-!
# PhantomDisplays — one monitor that shows up as several displays

`filter_phantom_displays` marks references that are another view of a display in the list.  A display without working
communication is compared with those that work; then a working display that is not on a DPMST bus with those that are.
-/
namespace Ddc

open Kit

structure ConnectorAttrs where
  device : Bool
  status : Option String
  enabled : Option String
  edid : Bool
  deriving DecidableEq

def ConnectorAttrs.unused (attrs : ConnectorAttrs) : Bool :=
  attrs.device && decide (attrs.status = some "disconnected") && decide (attrs.enabled = some "disabled") && !attrs.edid

def edidIdsMatch (e1 e2 : ParsedEdid) : Bool :=
  decide (e1.mfgId = e2.mfgId ∧ e1.modelName = e2.modelName ∧ e1.productCode = e2.productCode ∧
    e1.serialAscii = e2.serialAscii ∧ e1.serialBinary = e2.serialBinary)

def isPhantomDisplay (attrs : ConnectorAttrs) (invalidDref validDref : DetectedRef) : Exec Bool :=
  match invalidDref.pedid, validDref.pedid with
  | some e1, some e2 =>
    .ok (edidIdsMatch e1.edid e2.edid && (isI2c invalidDref.ioPath && isI2c validDref.ioPath && attrs.unused))
  | _, _ => .error .nullDeref

def drefsEdidEqual (dref1 dref2 : DetectedRef) : Bool :=
  match dref1.pedid, dref2.pedid with
  | some e1, some e2 => decide (e1.edid.bytes.bytes = e2.edid.bytes.bytes)
  | _, _ => false

def hasDuplicateEdids : List DetectedRef → Bool
  | [] => false
  | dref :: drefs => drefs.any (drefsEdidEqual dref) || hasDuplicateEdids drefs

def DetectedRef.setPhantom (actual : Nat) (dref : DetectedRef) : DetectedRef :=
  { dref with dispno := dispnoPhantom, actualDisplay := some actual }

/-! ## The two passes -/

def indicesOf (p : DetectedRef → Bool) (drefs : List DetectedRef) : List Nat :=
  (List.range drefs.length).filter fun i => drefs[i]?.any p

def isInvalidI2c (dref : DetectedRef) : Bool := isI2c dref.ioPath && decide (dref.dispno < 0)

def isValidI2c (dref : DetectedRef) : Bool := isI2c dref.ioPath && decide (0 ≤ dref.dispno)

/-- The first pass compares a display without working communication with one that works. -/
def invalidTest (attrs : Nat → Nat → ConnectorAttrs) (drefs : List DetectedRef) (p : Nat × Nat) : Exec Bool := do
  let invalidRef ← fetch drefs p.1
  let validRef ← fetch drefs p.2
  isPhantomDisplay (attrs p.1 p.2) invalidRef validRef

/-- The second pass compares a working display that is not on a DPMST bus with one that is. -/
def nonMstTest (drefs : List DetectedRef) (p : Nat × Nat) : Exec Bool := do
  let validNonMstDisplayRef ← fetch drefs p.1
  let validMstDisplayRef ← fetch drefs p.2
  .ok (drefsEdidEqual validMstDisplayRef validNonMstDisplayRef)

def splitMst (busName : Nat → Option String) (drefs : List DetectedRef) : List Nat → Exec (List Nat × List Nat)
  | [] => .ok ([], [])
  | ndx :: ndxs => do
    let dref ← fetch drefs ndx
    let busno ← dref.detailBusno
    let (mst, nonMst) ← splitMst busName drefs ndxs
    .ok (if busName busno = some "DPMST" then (ndx :: mst, nonMst) else (mst, ndx :: nonMst))

def nonMstPairs (mst nonMst : List Nat) : List (Nat × Nat) := (allPairs mst nonMst).map Prod.swap

def markInvalidDisplays (attrs : Nat → Nat → ConnectorAttrs) (invalidDisplays validDisplays : List Nat)
    (drefs : List DetectedRef) : Exec (List DetectedRef) :=
  if invalidDisplays ≠ [] ∧ validDisplays ≠ [] then
    markPass DetectedRef.setPhantom (invalidTest attrs) (allPairs invalidDisplays validDisplays) drefs
  else .ok drefs

def markNonMstDisplays (validMstDisplays validNonMstDisplays : List Nat) (drefs : List DetectedRef) :
    Exec (List DetectedRef) :=
  -- with two displays of equal EDIDs it could not be told which of them is the phantom
  if validMstDisplays ≠ [] ∧ validNonMstDisplays ≠ [] ∧
      hasDuplicateEdids (validNonMstDisplays.filterMap (drefs[·]?)) = false then
    markPass DetectedRef.setPhantom nonMstTest (nonMstPairs validMstDisplays validNonMstDisplays) drefs
  else .ok drefs

def filterPhantomDisplays (detectPhantomDisplays : Bool) (attrs : Nat → Nat → ConnectorAttrs)
    (busName : Nat → Option String) (allDisplays : List DetectedRef) : Exec (Bool × List DetectedRef) :=
  if detectPhantomDisplays = true ∧ 1 < allDisplays.length then do
    let invalidDisplays := indicesOf isInvalidI2c allDisplays
    let validDisplays := indicesOf isValidI2c allDisplays
    let drefs ← markInvalidDisplays attrs invalidDisplays validDisplays allDisplays
    let (validMstDisplays, validNonMstDisplays) ← splitMst busName drefs validDisplays
    let drefs ← markNonMstDisplays validMstDisplays validNonMstDisplays drefs
    .ok (decide (invalidDisplays ≠ []), drefs)
  else .ok (false, allDisplays)

end Ddc
