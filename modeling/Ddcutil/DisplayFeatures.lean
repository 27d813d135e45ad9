import Ddcutil.DisplayRefs
import Ddcutil.DynamicFeatures
import Ddcutil.HowUnsupported
/-!
# DisplayFeatures — display references and their user defined features

A display reference has a pointer to the record of its user defined features and, in its word of flags, one that says
that they were looked for.
-/
namespace Ddc

open Kit

/-! ## Definition files -/

/-- **What a search for a definition file finds**: the file of a simple name, and what reading it gives. -/
structure DefinitionFiles where
  dfrFindFeatureDefFile : List Byte → Option (List Byte)
  file : List Byte → FileRead

def loadFile (mmk : MonitorModelKey) (fqfn : List Byte) : FileRead → Exec (Option ErrorInfo × Option DynamicFeaturesRec)
  | .failed errno _ => do
    let detail ← formatted (ascii "Error reading file " ++ fqfn)
    .ok (some ⟨-errno, "file_getlines_errinfo", some (asText detail), []⟩, none)
  | .read content =>
    createDynamicFeaturesRec mmk.mfgId mmk.modelName (UInt16.ofNat mmk.productCode) (fileGetlines content) (some fqfn)

def dummyRec (mmk : MonitorModelKey) : DynamicFeaturesRec :=
  let dfr := dfrNew mmk.mfgId mmk.modelName (UInt16.ofNat mmk.productCode) none
  { dfr with flags := dfr.flags ||| dfrFlagsNotFound }

def lookForDefinition (w : DefinitionFiles) (mmk : MonitorModelKey) :
    Exec (Option ErrorInfo × Option DynamicFeaturesRec) :=
  let simpleFn := mmkString mmk
  match w.dfrFindFeatureDefFile simpleFn with
  | some fqfn => loadFile mmk fqfn (w.file fqfn)
  | none => .ok (some ⟨ddcrcNotFound, "dfr_load_by_mmk",
      some (asText (ascii "Feature definition file not found: " ++ simpleFn ++ ascii ".mccs")), []⟩, none)

def recOrDummy (mmk : MonitorModelKey) (errs : Option ErrorInfo) (dfr : Option DynamicFeaturesRec) :
    DynamicFeaturesRec :=
  if errs.isSome = true then dummyRec mmk else dfr.getD (dummyRec mmk)

def dfrLoadByMmk (w : DefinitionFiles) (mmk : MonitorModelKey) : Exec (Option ErrorInfo × DynamicFeaturesRec) := do
  let (errs, dfr) ← lookForDefinition w mmk
  check (errs.isSome = true ∧ dfr.isSome = false ∨ errs.isSome = false ∧ dfr.isSome = true)
  check (errs.isSome = true ↔ (recOrDummy mmk errs dfr).flags &&& dfrFlagsNotFound ≠ 0)
  .ok (errs, recOrDummy mmk errs dfr)

/-- **`Display_Ref`**, as far as its features go: the key of the monitor model in its EDID, its flags and the pointer to
its record. -/
structure FeaturesDref where
  ioPath : IoPath
  mmk : MonitorModelKey
  flags : DrefFlagWord
  dfr : Option Address

def FeaturesDref.featuresChecked (dref : FeaturesDref) : Prop := dref.flags &&& drefDynamicFeaturesChecked ≠ 0

instance (dref : FeaturesDref) : Decidable dref.featuresChecked := inferInstanceAs (Decidable (_ ≠ _))

def FeaturesDref.createBaseDisplayRef (ioPath : IoPath) (mmk : MonitorModelKey) : FeaturesDref := ⟨ioPath, mmk, 0, none⟩

def FeaturesDref.copyDisplayRef (dref : FeaturesDref) : FeaturesDref :=
  { dref with flags := dref.flags &&& ~~~drefDynamicFeaturesChecked, dfr := none }

abbrev WithRecs := FeaturesDref × Heap DynamicFeaturesRec

def loadFeatures (w : DefinitionFiles) (dref : FeaturesDref) (recs : Heap DynamicFeaturesRec) :
    Exec (Option ErrorInfo × WithRecs) := do
  let (errs, dfr) ← dfrLoadByMmk w dref.mmk
  .ok (errs, { dref with flags := dref.flags ||| drefDynamicFeaturesChecked, dfr := some recs.next }, recs.alloc dfr)

def dfrCheckByDref (enableDynamicFeatures : Bool) (w : DefinitionFiles) (dref : FeaturesDref)
    (recs : Heap DynamicFeaturesRec) : Exec (Option ErrorInfo × WithRecs) := do
  check (dref.featuresChecked ↔ dref.dfr.isSome = true)
  if enableDynamicFeatures = true ∧ ¬ dref.featuresChecked then loadFeatures w dref recs
  else .ok (none, dref, recs)

def dfrMetadataFor (dref : FeaturesDref) (recs : Heap DynamicFeaturesRec) (featureId : Byte) :
    Exec (Option DynFeatureMetadata) := do
  check (dref.dfr.isSome = true)
  match dref.dfr.bind recs.cells with
  | none => .error .nullDeref
  | some dfr => .ok (dfr.features.lookup featureId)

/-- What `dyn_report_cap_features` does first: features that were not looked for are. -/
def ensureLoaded (w : DefinitionFiles) (dref : FeaturesDref) (recs : Heap DynamicFeaturesRec) : Exec WithRecs :=
  if dref.featuresChecked then .ok (dref, recs) else Prod.snd <$> loadFeatures w dref recs

def dynReportCapFeatures (w : DefinitionFiles) (features : List Byte) (dref : FeaturesDref)
    (recs : Heap DynamicFeaturesRec) : Exec WithRecs := do
  let r ← ensureLoaded w dref recs
  let _ ← features.mapM (dfrMetadataFor r.1 r.2)
  .ok r

/-! ## The initial checks -/

/-- What the initial checks of a display find: whether its model is one to be left alone, whether the checks are skipped,
the error of opening it, the status of reading a feature where that is tried, and how unsupported features are
reported. -/
structure InitialChecks where
  ignoredMmk : Bool
  skipDdcChecks : Bool
  openError : Option Status
  readStatus : Option Status
  howUnsupported : UnsupportedFlags
  i2cForceBus : Bool

def flagIf (b : Bool) (flag : DrefFlagWord) : DrefFlagWord := if b = true then flag else 0

def UnsupportedFlags.word (flags : UnsupportedFlags) : DrefFlagWord :=
  flagIf flags.usesNullResponse drefDdcUsesNullResponseForUnsupported |||
    flagIf flags.usesMhMlShSlZero drefDdcUsesMhMlShSlZeroForUnsupported |||
    flagIf flags.usesDdcFlag drefDdcUsesDdcFlagForUnsupported |||
    flagIf flags.doesNotIndicate drefDdcDoesNotIndicateUnsupported

/-- What the status of reading a feature does to the flags; a display that is disconnected keeps none. -/
def readFlags (psc : Status) (flags : DrefFlagWord) : DrefFlagWord :=
  if psc = 0 ∨ psc = ddcrcReportedUnsupported ∨ psc = ddcrcDeterminedUnsupported then
    flags ||| drefDdcCommunicationWorking
  else if psc = ddcrcDisconnected then drefRemoved
  else if psc = -eBusy then flags ||| drefDdcBusy
  else flags

/-- `check_how_unsupported_reported` and, where a test asks for it, communication that counts as working. -/
def unsupportedChecked (c : InitialChecks) (flags : DrefFlagWord) : DrefFlagWord :=
  if c.i2cForceBus = true then
    flags ||| c.howUnsupported.word ||| drefUnsupportedChecked ||| drefDdcCommunicationWorking |||
      drefDdcUsesDdcFlagForUnsupported
  else flags ||| c.howUnsupported.word ||| drefUnsupportedChecked

def initialChecksByDh (c : InitialChecks) (ioPath : IoPath) (flags : DrefFlagWord) : Option Status × DrefFlagWord :=
  if flags &&& drefDdcCommunicationChecked ≠ 0 then (none, flags)
  else
    match c.readStatus with
    | none => (none, flags ||| drefDdcCommunicationChecked)
    | some psc =>
      let flags := readFlags psc flags
      let flags := if psc ≠ -eBusy then flags ||| drefDdcCommunicationChecked else flags
      (if psc = 0 then none else some psc,
        if flags &&& drefDdcCommunicationWorking ≠ 0 ∧ isI2c ioPath = true then unsupportedChecked c flags else flags)

def openAndCheck (c : InitialChecks) (dref : FeaturesDref) : Option Status × DrefFlagWord :=
  if dref.flags &&& drefRemoved ≠ 0 then (some ddcrcDisconnected, dref.flags)
  else
    match c.openError with
    | some status => (some status, dref.flags)
    | none =>
      let (err, flags) := initialChecksByDh c dref.ioPath (dref.flags ||| drefOpen)
      (err, flags &&& ~~~drefOpen)

def initialChecksByDref (c : InitialChecks) (dref : FeaturesDref) : Option Status × DrefFlagWord :=
  if c.ignoredMmk = true then (none, dref.flags ||| drefDdcDisabled ||| drefDdcCommunicationChecked)
  else if c.skipDdcChecks = true then
    (none, dref.flags ||| (drefDdcCommunicationChecked ||| drefDdcCommunicationWorking |||
      drefDdcUsesDdcFlagForUnsupported))
  else
    let (err, flags) := openAndCheck c dref
    let flags := if flags &&& drefRemoved ≠ 0 then flags else flags ||| drefDdcCommunicationChecked
    (err, if err = some (-eBusy) then flags ||| drefDdcBusy else flags)

def recheckDref (locked : Bool) (c : InitialChecks) (dref : FeaturesDref) : Option Status × FeaturesDref :=
  if locked = true then (some ddcrcLocked, dref)
  else
    let (err, flags) := initialChecksByDref c { dref with flags := 0 }
    (err, { dref with flags := flags })

/-! ## Calls -/

inductive FeaturesCall where
  | copyDisplayRef
  | dfrCheckByDref (enableDynamicFeatures : Bool) (w : DefinitionFiles)
  | dynReportCapFeatures (w : DefinitionFiles) (features : List Byte)
  | initialChecks (c : InitialChecks)
  | recheckDref (locked : Bool) (c : InitialChecks)

structure FeaturesState where
  drefs : List FeaturesDref
  recs : Heap DynamicFeaturesRec

def applyFeaturesCall (call : FeaturesCall) (dref : FeaturesDref) (recs : Heap DynamicFeaturesRec) :
    Exec (List FeaturesDref × WithRecs) :=
  match call with
  | .copyDisplayRef => .ok ([dref.copyDisplayRef], dref, recs)
  | .dfrCheckByDref enabled w => do
    let (_, r) ← dfrCheckByDref enabled w dref recs
    .ok ([], r)
  | .dynReportCapFeatures w features => do
    let r ← dynReportCapFeatures w features dref recs
    .ok ([], r)
  | .initialChecks c => .ok ([], { dref with flags := (initialChecksByDref c dref).2 }, recs)
  | .recheckDref locked c => .ok ([], (recheckDref locked c dref).2, recs)

def featuresStep (s : FeaturesState) (call : Nat × FeaturesCall) : Exec FeaturesState :=
  match s.drefs[call.1]? with
  | none => .ok s
  | some dref => do
    let (made, dref, recs) ← applyFeaturesCall call.2 dref s.recs
    .ok ⟨s.drefs.set call.1 dref ++ made, recs⟩

end Ddc
