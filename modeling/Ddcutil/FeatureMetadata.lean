import Ddcutil.DynamicFeatures
import Ddcutil.VcpFeatureCodes
import Ddcutil.VcpVersion
/-!
# FeatureMetadata — the metadata of a feature for a display

`dyn_feature_codes.c`: the user defined feature of a display comes first, then the table of features, then, where one
is asked for, a default.  The metadata are looked up for a display reference and for a handle, which leads to the same
reference.
-/
namespace Ddc

open Kit

/-! ## User defined features -/

def DynFeatureMetadata.Marked (m : DynFeatureMetadata) : Prop :=
  m.globalFeatureFlags = ddcaUserDefined ||| ddcaPersistentMetadata

def DynamicFeaturesRec.Marked (dfr : DynamicFeaturesRec) : Prop :=
  ∀ featureCode m, dfr.features.lookup featureCode = some m → m.Marked ∧ m.featureCode = featureCode

abbrev MarkedRec : Type := { dfr : DynamicFeaturesRec // dfr.Marked }

def dynGetDynamicFeatureMetadata (dfr : Option MarkedRec) (featureCode : Byte) : Option DynFeatureMetadata :=
  dfr.bind fun r => r.1.features.lookup featureCode

def dfmFromDynFeatureMetadata (dynMeta : DynFeatureMetadata) : Exec DisplayFeatureMetadata := do
  check (dynMeta.globalFeatureFlags &&& ddcaSynthetic = 0)
  check (dynMeta.globalFeatureFlags &&& ddcaSyntheticVcpFeatureTableEntry = 0)
  check (dynMeta.globalFeatureFlags &&& ddcaUserDefined ≠ 0)
  check (dynMeta.globalFeatureFlags &&& ddcaPersistentMetadata ≠ 0)
  .ok { dfmNew dynMeta.featureCode with
    featureDesc := dynMeta.featureDesc
    featureName := dynMeta.featureName
    globalFeatureFlags := dynMeta.globalFeatureFlags
    versionFeatureFlags := dynMeta.versionFeatureFlags
    vcpVersion := vspecUnqueried
    slValues := dynMeta.slValues }

/-- The formatters of a user defined feature; `extended` is that of an extended feature without names for its values, in
which the two places that choose a formatter differ. -/
def userFormatters (extended : NontableFormatter) (m : DynFeatureMetadata) (dfm : DisplayFeatureMetadata) :
    DisplayFeatureMetadata :=
  if m.versionFeatureFlags &&& ddcaSimpleNc ≠ 0 then
    if m.slValues.isSome = true then { dfm with nontableFormatterSl := some .slLookup }
    else { dfm with nontableFormatter := some .slByte }
  else if m.versionFeatureFlags &&& ddcaExtendedNc ≠ 0 then
    if m.slValues.isSome = true then { dfm with nontableFormatterSl := some .slLookupWithSh }
    else { dfm with nontableFormatter := some extended }
  else if m.versionFeatureFlags &&& ddcaStdCont ≠ 0 then { dfm with nontableFormatter := some .standardContinuous }
  else if m.versionFeatureFlags &&& ddcaTable ≠ 0 then { dfm with tableFormatter := some .default }
  else { dfm with nontableFormatter := some .debugBytes }

def userMetadata (m : DynFeatureMetadata) (vspec : VersionSpec) : Exec DisplayFeatureMetadata := do
  let dfm ← dfmFromDynFeatureMetadata m
  .ok (userFormatters .slByte m { dfm with vcpVersion := vspec })

/-! ## Features of the table -/

def vcpCreateDummyFeatureForHexid (id : Byte) : VcpFeatureTableEntry where
  code := id
  v20Name := some (if 0xe0 ≤ id then ascii "Manufacturer Specific" else ascii "Unknown feature")
  desc := some (if 0xe0 ≤ id then ascii "Feature code reserved for manufacturer use" else ascii "Undefined feature code")
  nontableFormatter := some .debugBytes
  v20Flags := ddcaRw ||| ddcaComplexNc
  vcpGlobalFlags := ddcaSyntheticVcpFeatureTableEntry ||| ddcaSynthetic

def vcpFindFeatureByHexidWDefault (id : Byte) : VcpFeatureTableEntry :=
  (vcpFindFeatureByHexid id).getD (vcpCreateDummyFeatureForHexid id)

def entryTableFormatter (pentry : VcpFeatureTableEntry) (flags : DdcaFeatureFlags) : Exec (Option TableFormatter) :=
  if pentry.tableFormatter.isSome = true then .ok pentry.tableFormatter
  else if flags &&& ddcaNormalTable ≠ 0 then .ok (some .default)
  else if flags &&& ddcaWoTable ≠ 0 then .ok none
  else .error .assertFailed

def entryNontableFormatter (pentry : VcpFeatureTableEntry) (flags : DdcaFeatureFlags) (hasValues : Bool) :
    Exec (Option NontableFormatter) :=
  if flags &&& ddcaStdCont ≠ 0 then .ok (some .standardContinuous)
  else if flags &&& ddcaSimpleNc ≠ 0 then .ok (some (if hasValues = true then .slLookup else .slByte))
  else if flags &&& ddcaExtendedNc ≠ 0 then .ok (some (if hasValues = true then .slLookupWithSh else .shSlBytes))
  else if flags &&& ddcaWoNc ≠ 0 then .ok none
  else if flags &&& (ddcaComplexCont ||| ddcaComplexNc ||| ddcaNcCont) ≠ 0 then
    .ok (some (pentry.nontableFormatter.getD .debugBytes))
  else .error .assertFailed

def entryFormatters (pentry : VcpFeatureTableEntry) (dfm : DisplayFeatureMetadata) : Exec DisplayFeatureMetadata :=
  if dfm.versionFeatureFlags &&& ddcaTable ≠ 0 then do
    let formatter ← entryTableFormatter pentry dfm.versionFeatureFlags
    .ok { dfm with tableFormatter := formatter }
  else if dfm.versionFeatureFlags &&& ddcaNonTable ≠ 0 then do
    let formatter ← entryNontableFormatter pentry dfm.versionFeatureFlags dfm.slValues.isSome
    .ok { dfm with nontableFormatter := formatter }
  else do
    check (dfm.versionFeatureFlags &&& ddcaDeprecated ≠ 0)
    .ok { dfm with nontableFormatter := some .debugBytes }

def entryMetadata (pentry : VcpFeatureTableEntry) (vspec : VersionSpec) : Exec DisplayFeatureMetadata := do
  let dfm ← extractVersionFeatureInfoFromFeatureTableEntry pentry vspec true
  entryFormatters pentry dfm

/-! ## Metadata -/

def entryFor (featureCode : Byte) (withDefault : Bool) : Option VcpFeatureTableEntry :=
  if withDefault = true then some (vcpFindFeatureByHexidWDefault featureCode) else vcpFindFeatureByHexid featureCode

def dynGetFeatureMetadataByDfrAndVspecDfm (featureCode : Byte) (dfr : Option MarkedRec) (vspec : VersionSpec)
    (withDefault : Bool) : Exec (Option DisplayFeatureMetadata) :=
  match dynGetDynamicFeatureMetadata dfr featureCode with
  | some dfrMetadata => do
    let dfm ← userMetadata dfrMetadata vspec
    .ok (some dfm)
  | none =>
    match entryFor featureCode withDefault with
    | none => .ok none
    | some pentry => do
      let dfm ← entryMetadata pentry vspec
      .ok (some dfm)

/-- **A display reference**, as far as metadata depend on it, with what the outside has been asked. -/
structure MetadataDref where
  version : VersionState
  dfr : Option MarkedRec

def MetadataDref.checkedDfr (dref : MetadataDref) (checkUdf : Bool) : Option MarkedRec :=
  if checkUdf = true then dref.dfr else none

/-- **`dyn_get_feature_metadata_by_dref`**, whose version is not that of the display. -/
def dynGetFeatureMetadataByDref (a : VersionAnswers) (featureCode : Byte) (dref : Option MetadataDref)
    (checkUdf withDefault : Bool) : Exec (Option DisplayFeatureMetadata × Option MetadataDref) :=
  match dref with
  | none => do
    let dfm ← dynGetFeatureMetadataByDfrAndVspecDfm featureCode none vspecUnknown withDefault
    .ok (dfm, none)
  | some dref => do
    let asked ← getVcpVersionByDref a dref.version
    let dfm ← dynGetFeatureMetadataByDfrAndVspecDfm featureCode (dref.checkedDfr checkUdf) vspecUnknown withDefault
    .ok (dfm, some { dref with version := asked.2 })

def getVcpVersionByDh (a : VersionAnswers) (s : VersionState) : Exec (VersionSpec × VersionState) :=
  if getSavedVcpVersion s.dref = vspecUnqueried then setVcpVersionXdfByDh a s else .ok (getSavedVcpVersion s.dref, s)

def dynGetFeatureMetadataByDh (a : VersionAnswers) (id : Byte) (dref : MetadataDref) (checkUdf withDefault : Bool) :
    Exec (Option DisplayFeatureMetadata × MetadataDref) := do
  let asked ← getVcpVersionByDh a dref.version
  let dfm ← dynGetFeatureMetadataByDfrAndVspecDfm id (dref.checkedDfr checkUdf) asked.1 withDefault
  .ok (dfm, { dref with version := asked.2 })

def MetadataAgree (a : VersionAnswers) (dref : MetadataDref) (featureCode : Byte) (checkUdf withDefault : Bool) : Prop :=
  ∃ dfm byDref byDh, dynGetFeatureMetadataByDref a featureCode (some dref) checkUdf withDefault = .ok (dfm, byDref) ∧
    dynGetFeatureMetadataByDh a featureCode dref checkUdf withDefault = .ok (dfm, byDh)

def versionOfHandle (a : VersionAnswers) (s : VersionState) : VersionSpec :=
  if getSavedVcpVersion s.dref = vspecUnqueried then reportedVersion a s else getSavedVcpVersion s.dref

def CanBeAsked (a : VersionAnswers) (s : VersionState) : Prop :=
  getSavedVcpVersion s.dref = vspecUnqueried →
    reportedVersion a s ≠ vspecUnqueried ∧ (s.dref.communicationWorking = true → a.openDisplay s.opens = none)

def MetadataDref.HasMetadata (dref : MetadataDref) (featureCode : Byte) (checkUdf withDefault : Bool) : Prop :=
  (dynGetDynamicFeatureMetadata (dref.checkedDfr checkUdf) featureCode).isSome = true ∨
    (entryFor featureCode withDefault).isSome = true

end Ddc
