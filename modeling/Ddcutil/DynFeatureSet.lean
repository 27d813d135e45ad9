import Ddcutil.FeatureMetadataRuns
/-!
# DynFeatureSet — the features of a subset

`dyn_feature_set.c`: a subset of the features of a display, by the metadata that a look-up for its reference gives, and the
older set by the entries of the table for a version.  Both ask the same function which features they show.
-/
namespace Ddc

open Kit

/-! ## Subsets and flags -/

def vcpSubsetPreset : VcpFeatureSubset := 0x00400000
def vcpSubsetScont : VcpFeatureSubset := 0x00100000
def vcpSubsetCcont : VcpFeatureSubset := 0x00080000
def vcpSubsetCont : VcpFeatureSubset := 0x00040000
def vcpSubsetSnc : VcpFeatureSubset := 0x00020000
def vcpSubsetCnc : VcpFeatureSubset := 0x00010000
def vcpSubsetNcWo : VcpFeatureSubset := 0x00008000
def vcpSubsetNcCont : VcpFeatureSubset := 0x00004000
def vcpSubsetNc : VcpFeatureSubset := 0x00002000
def vcpSubsetTable : VcpFeatureSubset := 0x00001000
def vcpSubsetXnc : VcpFeatureSubset := 0x00000800
def vcpSubsetScan : VcpFeatureSubset := 0x00000040
def vcpSubsetKnown : VcpFeatureSubset := 0x00000020
def vcpSubsetMfg : VcpFeatureSubset := 0x00000010
def vcpSubsetUdf : VcpFeatureSubset := 0x00000008
def vcpSubsetSingleFeature : VcpFeatureSubset := 0x00000002
def vcpSubsetMultiFeatures : VcpFeatureSubset := 0x00000001
def vcpSubsetNone : VcpFeatureSubset := 0x00000000

abbrev FeatureSetFlags := UInt8

def fsfShowUnsupported : FeatureSetFlags := 0x01
def fsfNotable : FeatureSetFlags := 0x02
def fsfRwOnly : FeatureSetFlags := 0x04
def fsfRoOnly : FeatureSetFlags := 0x08
def fsfWoOnly : FeatureSetFlags := 0x10
def fsfCheckUdf : FeatureSetFlags := 0x40
def fsfReadableOnly : FeatureSetFlags := fsfRwOnly ||| fsfRoOnly

def namedSubsets : List VcpFeatureSubset := [vcpSubsetColor, vcpSubsetProfile, vcpSubsetLut, vcpSubsetTv, vcpSubsetAudio,
  vcpSubsetWindow, vcpSubsetDpvl, vcpSubsetCrt]

def inSubset (subsetId : VcpFeatureSubset) (vcpSpecGroups : UInt16) (featureFlags : DdcaFeatureFlags)
    (vcpSubsets : VcpFeatureSubset) : Bool :=
  if subsetId = vcpSubsetPreset then vcpSpecGroups &&& vcpSpecPreset ≠ 0
  else if subsetId = vcpSubsetTable then featureFlags &&& ddcaTable ≠ 0
  else if subsetId = vcpSubsetCcont then featureFlags &&& ddcaComplexCont ≠ 0
  else if subsetId = vcpSubsetScont then featureFlags &&& ddcaStdCont ≠ 0
  else if subsetId = vcpSubsetCont then featureFlags &&& ddcaCont ≠ 0
  else if subsetId = vcpSubsetSnc then featureFlags &&& ddcaSimpleNc ≠ 0
  else if subsetId = vcpSubsetXnc then featureFlags &&& ddcaExtendedNc ≠ 0
  else if subsetId = vcpSubsetCnc then featureFlags &&& ddcaComplexNc ≠ 0
  else if subsetId = vcpSubsetNcCont then featureFlags &&& ddcaNcCont ≠ 0
  else if subsetId = vcpSubsetNcWo then featureFlags &&& ddcaWoNc ≠ 0
  else if subsetId = vcpSubsetNc then featureFlags &&& ddcaNc ≠ 0
  else if subsetId = vcpSubsetKnown then true
  else if subsetId ∈ namedSubsets then vcpSubsets &&& subsetId ≠ 0
  else false

/-- The access that `test_show_feature` asks for: of the flags that are set, the first decides. -/
def accessShown (subsetId : VcpFeatureSubset) (featureSetFlags : FeatureSetFlags) (featureFlags : DdcaFeatureFlags) :
    Bool :=
  if featureSetFlags &&& (fsfRwOnly ||| fsfRoOnly ||| fsfWoOnly) ≠ 0 ∧ subsetId ≠ vcpSubsetSingleFeature ∧
      subsetId ≠ vcpSubsetNone then
    if featureSetFlags &&& fsfRwOnly ≠ 0 then featureFlags &&& ddcaRw ≠ 0
    else if featureSetFlags &&& fsfRoOnly ≠ 0 then featureFlags &&& ddcaRo ≠ 0
    else if featureSetFlags &&& fsfWoOnly ≠ 0 then featureFlags &&& ddcaWo ≠ 0
    else true
  else true

def tableExcluded (featureSetFlags : FeatureSetFlags) (featureFlags : DdcaFeatureFlags) : Bool :=
  featureSetFlags &&& fsfNotable != 0 && featureFlags &&& ddcaTable != 0

def testShowFeature (subsetId : VcpFeatureSubset) (featureSetFlags : FeatureSetFlags) (vcpSpecGroups : UInt16)
    (featureFlags : DdcaFeatureFlags) (vcpSubsets : VcpFeatureSubset) : Bool :=
  let showit :=
    if tableExcluded featureSetFlags featureFlags = true then false
    else inSubset subsetId vcpSpecGroups featureFlags vcpSubsets && accessShown subsetId featureSetFlags featureFlags
  if featureSetFlags &&& fsfReadableOnly ≠ 0 ∧ featureFlags &&& ddcaReadable = 0 then false else showit

/-! ## The features of a display -/

/-- What one round of a loop keeps of the metadata that were found; a default was asked for where they are read without
looking. -/
def keptMetadata (keep : DisplayFeatureMetadata → Bool) (withDefault : Bool) :
    Option DisplayFeatureMetadata → Exec (List DisplayFeatureMetadata)
  | none => if withDefault = true then .error .nullDeref else .ok []
  | some dfm => .ok (if keep dfm = true then [dfm] else [])

def collectFeatures (a : VersionAnswers) (keep : DisplayFeatureMetadata → Bool) (checkUdf withDefault : Bool) :
    List Byte → Option MetadataDref → Exec (List DisplayFeatureMetadata × Option MetadataDref)
  | [], dref => .ok ([], dref)
  | featureCode :: featureCodes, dref => do
    let found ← dynGetFeatureMetadataByDref a featureCode dref checkUdf withDefault
    let kept ← keptMetadata keep withDefault found.1
    let rest ← collectFeatures a keep checkUdf withDefault featureCodes found.2
    .ok (kept ++ rest.1, rest.2)

def codesFrom (first : Nat) : List Byte := (List.range' first (256 - first)).map UInt8.ofNat

def udfShown (featureSetFlags : FeatureSetFlags) (featureFlags : DdcaFeatureFlags) : Bool :=
  !((featureSetFlags &&& fsfNotable != 0 && featureFlags &&& ddcaTable != 0) ||
    (featureSetFlags &&& fsfRoOnly != 0 && featureFlags &&& ddcaRo == 0) ||
    (featureSetFlags &&& fsfRwOnly != 0 && featureFlags &&& ddcaRw == 0) ||
    (featureSetFlags &&& fsfWoOnly != 0 && featureFlags &&& ddcaWo == 0))

def dynCreateDynamicFeatureFromDfrMetadata (dfrMetadata : DynFeatureMetadata) : Exec DisplayFeatureMetadata := do
  let dfm ← dfmFromDynFeatureMetadata dfrMetadata
  .ok (userFormatters .shSlBytes dfrMetadata dfm)

def DynamicFeaturesRec.metadatas (dfr : DynamicFeaturesRec) : List DynFeatureMetadata := dfr.features.entries.map Sigma.snd

def scanShown (featureSetFlags : FeatureSetFlags) (dfm : DisplayFeatureMetadata) : Bool :=
  dfm.versionFeatureFlags &&& ddcaReadable != 0 && !tableExcluded featureSetFlags dfm.versionFeatureFlags

def subsetShown (subsetId : VcpFeatureSubset) (featureSetFlags : FeatureSetFlags) (dfm : DisplayFeatureMetadata) : Bool :=
  testShowFeature subsetId featureSetFlags dfm.vcpSpecGroups dfm.versionFeatureFlags dfm.vcpSubsets

def udfFeatures (dref : Option MetadataDref) (featureSetFlags : FeatureSetFlags) : Exec (List DisplayFeatureMetadata) :=
  if featureSetFlags &&& fsfCheckUdf = 0 then .ok []
  else
    match dref.bind MetadataDref.dfr with
    | none => .ok []
    | some dfr =>
      (dfr.1.metadatas.filter fun m => udfShown featureSetFlags m.versionFeatureFlags).mapM
        dynCreateDynamicFeatureFromDfrMetadata

def dynCreateFeatureSet (a : VersionAnswers) (subsetId : VcpFeatureSubset) (dref : Option MetadataDref)
    (featureSetFlags : FeatureSetFlags) : Exec (List DisplayFeatureMetadata × Option MetadataDref) :=
  if subsetId = vcpSubsetUdf then do
    let members ← udfFeatures dref featureSetFlags
    .ok (members, dref)
  else if subsetId = vcpSubsetScan ∨ subsetId = vcpSubsetMfg then
    collectFeatures a (scanShown featureSetFlags) (featureSetFlags &&& fsfCheckUdf != 0) true
      (codesFrom (if subsetId = vcpSubsetMfg then 0xe0 else 1)) dref
  else
    collectFeatures a (subsetShown subsetId featureSetFlags) (featureSetFlags &&& fsfCheckUdf != 0) false
      (codesFrom 0) dref

def entryShown (subsetId : VcpFeatureSubset) (vcpVersion : VersionSpec) (featureSetFlags : FeatureSetFlags)
    (vcpEntry : VcpFeatureTableEntry) : Exec (Option Byte) := do
  let vflags ← getVersionSensitiveFeatureFlags vcpEntry vcpVersion
  .ok (if testShowFeature subsetId featureSetFlags vcpEntry.vcpSpecGroups vflags vcpEntry.vcpSubsets = true then
    some vcpEntry.code else none)

/-- **`create_vcp_feature_set`** of a subset other than `VCP_SUBSET_SCAN` and `VCP_SUBSET_MFG`: the codes. -/
def createVcpFeatureSet (subsetId : VcpFeatureSubset) (vcpVersion : VersionSpec) (featureSetFlags : FeatureSetFlags) :
    Exec (List Byte) := do
  check (subsetId ≠ vcpSubsetNone)
  check (subsetId ≠ vcpSubsetSingleFeature)
  let shown ← vcpCodeTable.mapM (entryShown subsetId vcpVersion featureSetFlags)
  .ok (shown.filterMap id)

end Ddc
