import Ddcutil.Status
/-!
# ApiResults — results that API functions return through a pointer

The functions of `libddcutil` that take a display handle or a display reference and allocate a result.
-/
namespace Ddc

open Kit

/-! ## Arguments -/

/-- What a location holds: NULL, a pointer, which may be one that the caller left there, or the explanation of an error. -/
inductive Pointee where
  | null | pointer | explanation
  deriving DecidableEq

/-- A `DDCA_Display_Handle`: NULL, a pointer to something else, or a handle with the status of its validation. -/
inductive HandleArg where
  | null | invalid
  | handle (validation : Status)
  deriving DecidableEq

/-- A `DDCA_Display_Ref`: unknown, or published with the statuses of locking and of validating it. -/
inductive DrefArg where
  | unknown
  | published (lock validation : Status)
  deriving DecidableEq

inductive PrologFinds where
  | ready | initializationFailed | quiesced
  deriving DecidableEq

/-- **A call**: `location` is `none` where the caller passes NULL, and otherwise says whether the caller left a pointer
there.  `lower` is the status of the lower layer, `isKnown` whether the feature is in the table of features and `detected`
whether displays have been detected. -/
structure ResultCall where
  finds : PrologFinds
  location : Option Bool
  dh : HandleArg
  dref : DrefArg
  lower : Status
  isKnown : Bool
  detected : Bool

abbrev ResultReturn : Type := Status × Option Pointee

def ResultCall.prior (c : ResultCall) : Option Pointee :=
  c.location.map fun holdsPointer => if holdsPointer = true then .pointer else .null

/-! ## Looking at the arguments -/

def derefLocation (location : Option Pointee) : Exec Pointee :=
  match location with
  | none => .error .nullDeref
  | some pointee => .ok pointee

def assertLocation (location : Option Bool) : Exec Unit :=
  if location = none then .error .assertFailed else .ok ()

def assertIffResult (psc : Status) (location : Option Pointee) : Exec Unit := do
  let pointee ← derefLocation location
  if psc = 0 ↔ pointee ≠ .null then .ok () else .error .assertFailed

def dhRepr : HandleArg → Exec Unit
  | .null => .ok ()
  | .invalid => .error .outOfBounds
  | .handle _ => .ok ()

def validateDdcaDisplayHandle : HandleArg → Status
  | .null | .invalid => ddcrcArg
  | .handle validation => validation

def withHandle (c : ResultCall) (action : Exec ResultReturn) : Exec ResultReturn :=
  if validateDdcaDisplayHandle c.dh = 0 then action else .ok (validateDdcaDisplayHandle c.dh, c.prior)

def validateDdcaDisplayRef : DrefArg → Status
  | .unknown => ddcrcArg
  | .published lock validation => if lock = 0 then validation else lock

def withDref (c : ResultCall) (action : Exec ResultReturn) : Exec ResultReturn :=
  if validateDdcaDisplayRef c.dref = 0 then action else .ok (validateDdcaDisplayRef c.dref, c.prior)

def resultPrologx (respectQuiesced : Bool) (c : ResultCall) (body : Exec ResultReturn) : Exec ResultReturn :=
  match c.finds with
  | .initializationFailed => .ok (ddcrcUninitialized, c.prior)
  | .quiesced => if respectQuiesced = true then .ok (ddcrcQuiesced, c.prior) else body
  | .ready => body

def resultPrecond (c : ResultCall) (body : Exec ResultReturn) : Exec ResultReturn :=
  if c.location = none then .ok (ddcrcArg, c.prior) else body

def lowerResult (lower : Status) : Pointee := if lower = 0 then .pointer else .null

/-! ## The functions -/

def tableEpilog (c : ResultCall) (returned : ResultReturn) : Exec ResultReturn := do
  dhRepr c.dh
  let _ ← derefLocation returned.2
  .ok returned

/-- What the location of `ddca_get_table_vcp_value` holds once the value has been read, or not. -/
def tableResult (c : ResultCall) : Option Pointee := if c.lower = 0 then some .pointer else c.prior

def tableAction (c : ResultCall) : Exec ResultReturn := do
  assertLocation c.location
  assertIffResult c.lower (tableResult c)
  .ok (c.lower, tableResult c)

def ddcaGetTableVcpValue (c : ResultCall) : Exec ResultReturn :=
  resultPrologx true c do
    let returned ← if c.location = none then .ok (ddcrcArg, c.prior) else withHandle c (tableAction c)
    tableEpilog c returned

def ddciGetAnyVcpValueUsingExplicitType (c : ResultCall) : Exec ResultReturn := do
  assertLocation c.location
  let returned ← withHandle { c with location := some false } (.ok (c.lower, some (lowerResult c.lower)))
  assertIffResult returned.1 returned.2
  .ok returned

def ddcaGetAnyVcpValueUsingExplicitType (c : ResultCall) : Exec ResultReturn :=
  resultPrologx true c do
    assertLocation c.location
    let returned ← ddciGetAnyVcpValueUsingExplicitType { c with location := some false }
    let _ ← derefLocation returned.2
    assertIffResult returned.1 returned.2
    .ok returned

def versionByDdcaDh : HandleArg → Exec Unit
  | .null => .error .assertFailed
  | .invalid => .error .outOfBounds
  | .handle _ => .ok ()

def valueTypeStatus (c : ResultCall) : Exec Status := do
  versionByDdcaDh c.dh
  .ok (if c.isKnown = true then 0 else ddcrcNotFound)

def ddcaGetAnyVcpValueUsingImplicitType (c : ResultCall) : Exec ResultReturn :=
  resultPrologx true c do
    assertLocation c.location
    let ddcrc ← valueTypeStatus c
    let returned ← if ddcrc = 0 then ddciGetAnyVcpValueUsingExplicitType c else .ok (ddcrc, c.prior)
    assertIffResult returned.1 returned.2
    .ok returned

/-- The status and the location where a lower layer that reports no status gave a result, or did not. -/
def parsedResult (failed lower : Status) : ResultReturn :=
  (if lower = 0 then 0 else failed, some (lowerResult lower))

def metadataResult (lower : Status) : ResultReturn := parsedResult ddcrcNotFound lower

def ddcaGetFeatureMetadataByVspec (c : ResultCall) : Exec ResultReturn :=
  resultPrologx false c do
    assertLocation c.location
    assertIffResult (parsedResult ddcrcArg c.lower).1 (parsedResult ddcrcArg c.lower).2
    .ok (parsedResult ddcrcArg c.lower)

def ddcaGetFeatureMetadataByDref (c : ResultCall) : Exec ResultReturn :=
  resultPrologx true c do
    assertLocation c.location
    let returned ← withDref c (.ok (metadataResult c.lower))
    assertIffResult returned.1 returned.2
    .ok returned

def ddcaGetFeatureMetadataByDh (c : ResultCall) : Exec ResultReturn :=
  resultPrologx true c do
    dhRepr c.dh
    resultPrecond c
      (withHandle c do
        assertIffResult (metadataResult c.lower).1 (metadataResult c.lower).2
        .ok (metadataResult c.lower))

def ddcaCapabilitiesString (c : ResultCall) : Exec ResultReturn :=
  resultPrologx true c do
    dhRepr c.dh
    resultPrecond c do
      let returned ← withHandle { c with location := some false } do
        assertIffResult c.lower (some (lowerResult c.lower))
        .ok (c.lower, some (lowerResult c.lower))
      dhRepr c.dh
      let _ ← derefLocation returned.2
      .ok returned

def ddcaGetProfileRelatedValues (c : ResultCall) : Exec ResultReturn :=
  resultPrologx true c
    (if c.location = none then .ok (ddcrcArg, c.prior)
    else
      withHandle c do
        assertIffResult c.lower (some (lowerResult c.lower))
        .ok (c.lower, some (lowerResult c.lower)))

def ddcaGetDisplayInfo (c : ResultCall) : Exec ResultReturn :=
  resultPrologx true c (resultPrecond c (withDref c (.ok (0, some .pointer))))

def formatResult (lower : Status) : ResultReturn := (lower, some (if lower = 0 then .pointer else .explanation))

def formatByDref (respectQuiesced : Bool) (c : ResultCall) : Exec ResultReturn :=
  resultPrologx respectQuiesced c do
    assertLocation c.location
    let returned ← withDref c (.ok (formatResult c.lower))
    let _ ← derefLocation returned.2
    .ok returned

def ddcaFormatAnyVcpValueByDref (c : ResultCall) : Exec ResultReturn := formatByDref false c

def ddcaFormatNonTableVcpValueByDref (c : ResultCall) : Exec ResultReturn := formatByDref true c

def ddcaFormatTableVcpValueByDref (c : ResultCall) : Exec ResultReturn := formatByDref true c

def openedResult (lower : Status) : DrefArg → ResultReturn
  | .unknown => (ddcrcInvalidDisplay, some .null)
  | .published _ validation =>
    if validation = 0 then (lower, some (lowerResult lower)) else (ddcrcInvalidDisplay, some .null)

def ddciOpenDisplay3 (c : ResultCall) : Exec ResultReturn :=
  if c.detected = false then .error .assertFailed
  else do
    assertIffResult (openedResult c.lower c.dref).1 (openedResult c.lower c.dref).2
    .ok (openedResult c.lower c.dref)

def ddcaOpenDisplay2 (c : ResultCall) : Exec ResultReturn :=
  resultPrologx true c
    (resultPrecond c do
      let returned ← ddciOpenDisplay3 c
      assertIffResult returned.1 returned.2
      .ok returned)

/-- `ddca_get_display_refs` and `ddca_get_display_info_list2`, which detect the displays themselves. -/
def ddcaGetDisplayRefs (c : ResultCall) : Exec ResultReturn :=
  resultPrologx true c (resultPrecond c (.ok (0, some .pointer)))

def ddcaParseCapabilitiesString (c : ResultCall) : Exec ResultReturn :=
  resultPrologx false c
    (resultPrecond c do
      assertIffResult (parsedResult ddcrcBadData c.lower).1 (parsedResult ddcrcBadData c.lower).2
      .ok (parsedResult ddcrcBadData c.lower))

/-- The functions that create a display identifier, which have no prologue.  `lower` is the check of their arguments. -/
def ddcaCreateDisplayIdentifier (c : ResultCall) : Exec ResultReturn :=
  resultPrecond c do
    assertIffResult (parsedResult ddcrcArg c.lower).1 (parsedResult ddcrcArg c.lower).2
    .ok (parsedResult ddcrcArg c.lower)

/-! ## What is promised -/

inductive ResultFunction where
  | getTableVcpValue | getAnyVcpValueUsingExplicitType | getAnyVcpValueUsingImplicitType
  | getFeatureMetadataByVspec | getFeatureMetadataByDref | getFeatureMetadataByDh | getCapabilitiesString
  | getProfileRelatedValues | getDisplayInfo | formatAnyVcpValueByDref | formatNonTableVcpValueByDref
  | formatTableVcpValueByDref | openDisplay2 | getDisplayRefs | parseCapabilitiesString
  | createDisplayIdentifier

def ResultFunction.call : ResultFunction → ResultCall → Exec ResultReturn
  | .getTableVcpValue => ddcaGetTableVcpValue
  | .getAnyVcpValueUsingExplicitType => ddcaGetAnyVcpValueUsingExplicitType
  | .getAnyVcpValueUsingImplicitType => ddcaGetAnyVcpValueUsingImplicitType
  | .getFeatureMetadataByVspec => ddcaGetFeatureMetadataByVspec
  | .getFeatureMetadataByDref => ddcaGetFeatureMetadataByDref
  | .getFeatureMetadataByDh => ddcaGetFeatureMetadataByDh
  | .getCapabilitiesString => ddcaCapabilitiesString
  | .getProfileRelatedValues => ddcaGetProfileRelatedValues
  | .getDisplayInfo => ddcaGetDisplayInfo
  | .formatAnyVcpValueByDref => ddcaFormatAnyVcpValueByDref
  | .formatNonTableVcpValueByDref => ddcaFormatNonTableVcpValueByDref
  | .formatTableVcpValueByDref => ddcaFormatTableVcpValueByDref
  | .openDisplay2 => ddcaOpenDisplay2
  | .getDisplayRefs => ddcaGetDisplayRefs
  | .parseCapabilitiesString => ddcaParseCapabilitiesString
  | .createDisplayIdentifier => ddcaCreateDisplayIdentifier

/-- What a call with this location ought to come to: a NULL location gives `DDCRC_ARG`, and any other holds a pointer if and
only if the status is 0. -/
def AnswersRight (location : Option Bool) (outcome : Exec ResultReturn) : Prop :=
  ∃ returned, outcome = .ok returned ∧ (location = none → returned.1 = ddcrcArg) ∧
    (location ≠ none → (returned.2 = some .pointer ↔ returned.1 = 0))

/-- **A call returns right**: it comes to an answer, so no assertion fails and nothing is read that is not there, and to the
right one. -/
def ReturnsRight (f : ResultFunction) (c : ResultCall) : Prop := AnswersRight c.location (f.call c)

/-! ## When it does -/

def ResultCall.EmptyLocation (c : ResultCall) : Prop := c.location ≠ some true

/-- **The condition on the call**, once the prologue has let it in. -/
def ReadyGuard (c : ResultCall) : ResultFunction → Prop
  | .getTableVcpValue => c.location ≠ none ∧ c.dh ≠ .invalid ∧
      (c.EmptyLocation ∨ validateDdcaDisplayHandle c.dh = 0 ∧ c.lower = 0)
  | .getAnyVcpValueUsingExplicitType => c.location ≠ none
  | .getAnyVcpValueUsingImplicitType => c.location ≠ none ∧ (∃ validation, c.dh = .handle validation) ∧
      (c.isKnown = true ∨ c.EmptyLocation)
  | .getFeatureMetadataByVspec => c.location ≠ none
  | .getFeatureMetadataByDref => c.location ≠ none ∧ (c.EmptyLocation ∨ validateDdcaDisplayRef c.dref = 0)
  | .getFeatureMetadataByDh => c.dh ≠ .invalid ∧ (c.EmptyLocation ∨ validateDdcaDisplayHandle c.dh = 0)
  | .getCapabilitiesString => c.dh ≠ .invalid
  | .getProfileRelatedValues => c.EmptyLocation ∨ validateDdcaDisplayHandle c.dh = 0
  | .getDisplayInfo => c.EmptyLocation ∨ validateDdcaDisplayRef c.dref = 0
  | .formatAnyVcpValueByDref => c.location ≠ none ∧ (c.EmptyLocation ∨ validateDdcaDisplayRef c.dref = 0)
  | .formatNonTableVcpValueByDref => c.location ≠ none ∧ (c.EmptyLocation ∨ validateDdcaDisplayRef c.dref = 0)
  | .formatTableVcpValueByDref => c.location ≠ none ∧ (c.EmptyLocation ∨ validateDdcaDisplayRef c.dref = 0)
  | .openDisplay2 => c.location = none ∨ c.detected = true
  | .getDisplayRefs | .parseCapabilitiesString | .createDisplayIdentifier => True

def ResultFunction.LetIn (f : ResultFunction) (finds : PrologFinds) : Prop :=
  match f with
  | .getFeatureMetadataByVspec => finds ≠ .initializationFailed
  | .formatAnyVcpValueByDref | .parseCapabilitiesString => finds ≠ .initializationFailed
  | .createDisplayIdentifier => True
  | _ => finds = .ready

/-- **The condition on a call.**  A call that the prologue refuses leaves the location as it is. -/
def ReturnsGuard (f : ResultFunction) (c : ResultCall) : Prop :=
  f.LetIn c.finds ∧ ReadyGuard c f ∨ ¬ f.LetIn c.finds ∧ c.location ≠ none ∧ c.EmptyLocation

end Ddc
