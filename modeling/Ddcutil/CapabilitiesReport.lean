import Ddcutil.CapabilitiesSafe
import Ddcutil.DisplayFeatures
import Ddcutil.VcpFeatureCodes
/-!
# CapabilitiesReport — what is printed of a feature in the capabilities

`dyn_report_one_cap_feature` prints a feature that `parse_capabilities` found: its name, then its values, with the
names that the feature table has for them or as they are.  The values of x72 (gamma) are a descriptor of their own.
-/
namespace Ddc

open Kit

abbrev ReportLine := Nat × List Byte

/-- **`rpt_vstring`** of a text: one that does not fit in its array is written to memory that is allocated for it. -/
def rptVstring (depth : Nat) (text : List Byte) : Exec ReportLine := do
  let buffer ← snprintf (malloc 200) 0 200 text
  if 200 ≤ text.length then do
    let buf ← snprintf (malloc (text.length + 1)) 0 (text.length + 1) text
    Prod.mk depth <$> readString buf
  else Prod.mk depth <$> readString buffer

def printed (s : Option (List Byte)) : List Byte := s.getD (ascii "(null)")

/-! ## Gamma -/

def formatAbsoluteGamma (buf : List Byte) (bufsz : Nat) (bgamma : Byte) : Exec (List Byte) := do
  let sgamma1 ← snprintf (malloc 10) 0 10 (decimalDigits (bgamma.toNat + 100))
  let sgamma1 ← readString sgamma1
  let sgamma1Left ← lsub sgamma1 (sgamma1.length - 2)
  let sgamma1Right ← substr sgamma1 (sgamma1.length - 2) 2
  snprintf buf 0 bufsz (sgamma1Left ++ ascii "." ++ sgamma1Right)

def relativeGammas : List (Byte × String) := [
  (0x00, "Display default gamma"),
  (0x01, "Default gamma - 0.1"),
  (0x02, "Default gamma - 0.2"),
  (0x03, "Default gamma - 0.3"),
  (0x04, "Default gamma - 0.4"),
  (0x05, "Default gamma - 0.5"),
  (0x06, "Default gamma - 0.6"),
  (0x07, "Default gamma - 0.7"),
  (0x08, "Default gamma - 0.8"),
  (0x09, "Default gamma - 0.9"),
  (0x0a, "Default gamma - 1.0"),
  (0x11, "Default gamma + 0.1"),
  (0x12, "Default gamma + 0.2"),
  (0x13, "Default gamma + 0.3"),
  (0x14, "Default gamma + 0.4"),
  (0x15, "Default gamma + 0.5"),
  (0x16, "Default gamma + 0.6"),
  (0x17, "Default gamma + 0.7"),
  (0x18, "Default gamma + 0.8"),
  (0x19, "Default gamma + 0.9"),
  (0x1a, "Default gamma + 1.0")]

def formatRelativeGamma (relativeGamma : Byte) : List Byte :=
  ascii ((relativeGammas.lookup relativeGamma).getD "Invalid value")

def formatGamma (relativeGamma : Bool) (rawGamma : Byte) : Exec (List Byte) :=
  if relativeGamma = true then .ok (formatRelativeGamma rawGamma)
  else do
    let bgamma ← formatAbsoluteGamma (malloc 10) 10 rawGamma
    readString bgamma

def absoluteTolerances : List (Byte × String) := [
  (0x00, "ideal"),
  (0x01, "+/- 1%"),
  (0x02, "+/- 2%"),
  (0x03, "+/- 3%"),
  (0x04, "+/- 4%"),
  (0x05, "+/- 5%"),
  (0x06, "+/- 6%"),
  (0x07, "+/- 7%"),
  (0x08, "+/- 8%"),
  (0x09, "+/- 9%")]

def absoluteToleranceDesc (tolerance : Byte) : Exec (List Byte) :=
  if 0x0a < tolerance then .ok (ascii "None specified")
  else
    match absoluteTolerances.lookup tolerance with
    | some desc => .ok (ascii desc)
    | none => do
      check (tolerance = 0x0a)
      .ok (ascii ">= 10%")

def toleranceDesc (tolerance : Byte) : Exec (List Byte) :=
  if tolerance = 0xff then .ok (ascii "None") else absoluteToleranceDesc tolerance

inductive GammaMode where
  | fullRange | limitedRange | specificPresets

def GammaMode.rangeName : GammaMode → List Byte
  | .fullRange => ascii "Full range"
  | .limitedRange => ascii "Limited range"
  | .specificPresets => ascii "Specific presets"

/-- What the third value says, with the array `specific_gammas` and how much of it is set. -/
structure GammaRange where
  gammaMode : GammaMode
  bypassSupported : Bool
  specificGammas : List Byte
  specificGammaCt : Nat

def copyPresets (bypassSupported : Bool) (bytes : List Byte) : Exec GammaRange := do
  let specificGammaCt := bytes.length - 3
  let presets ← span bytes 3 specificGammaCt
  let specificGammas ← blit (malloc 256) 0 presets
  .ok ⟨.specificPresets, bypassSupported, specificGammas, specificGammaCt⟩

def copyLimits (bypassSupported : Bool) (bytes : List Byte) : Exec GammaRange := do
  let lower ← fetch bytes 3
  let upper ← fetch bytes 4
  let specificGammas ← store (malloc 256) 0 lower
  let specificGammas ← store specificGammas 1 upper
  .ok ⟨.limitedRange, bypassSupported, specificGammas, 2⟩

/-- **The third value, and what has to follow it**; nothing for a descriptor that is not valid. -/
def gammaRange (bytes : List Byte) : Exec (Option GammaRange) := do
  let range ← fetch bytes 2
  if range = 0xff ∨ range = 0xfe then
    .ok (if bytes.length ≠ 3 then none else some ⟨.fullRange, range = 0xfe, malloc 256, 0⟩)
  else if range = 0xfd ∨ range = 0xfc then
    if bytes.length ≠ 5 then .ok none else some <$> copyLimits (range = 0xfc) bytes
  else if range = 0xfb ∨ range = 0xfa then
    if bytes.length < 4 then .ok none else some <$> copyPresets (range = 0xfa) bytes
  else .ok none

def addPreset (relativeGamma : Bool) (specificGammas : List Byte) (buf : List Byte) (ndx : Nat) : Exec (List Byte) := do
  let rawGamma ← fetch specificGammas ndx
  let sgamma ← formatGamma relativeGamma rawGamma
  let buf2 ← snprintf (malloc 100) 0 100
    ((if 0 < ndx then ascii "," else []) ++ ascii " " ++ sgamma ++ ascii " (0x" ++ hexByte false rawGamma ++ ascii ")")
  let added ← readString buf2
  .ok (buf ++ added)

def gammaValues (d0 : Nat) (relativeGamma : Bool) (bytes : List Byte) (r : GammaRange) : Exec (List ReportLine) :=
  match r.gammaMode with
  | .fullRange => .ok []
  | .limitedRange => do
    let lower ← fetch bytes 3
    let upper ← fetch bytes 4
    let sglower ← formatGamma relativeGamma lower
    let sgupper ← formatGamma relativeGamma upper
    let line ← rptVstring d0 (ascii "Lower: " ++ sglower ++ ascii " (0x" ++ hexByte false lower ++ ascii "), Upper: " ++
      sgupper ++ ascii " (0x" ++ hexByte false upper ++ ascii ")")
    .ok [line]
  | .specificPresets => do
    let buf ← (List.range r.specificGammaCt).foldlM (addPreset relativeGamma r.specificGammas) []
    let line ← rptVstring d0 (ascii "Specific presets: " ++ buf)
    .ok [line]

/-- One turn of the loop of `bva_as_string`: a byte, with its index, behind the bytes printed so far. -/
def addHexByte (allocSz : Nat) (sep buf : List Byte) (byte : Byte × Nat) : Exec (List Byte) := do
  let len ← strlen buf
  snprintf buf len (allocSz - len) ((if 0 < byte.2 then sep else []) ++ hexByte false byte.1)

def bvaAsString (bytes sep : List Byte) : Exec (List Byte) := do
  let allocSz := bytes.length * (3 + sep.length) + 1
  let buf ← bytes.zipIdx.foldlM (addHexByte allocSz sep) (calloc allocSz)
  readString buf

def invalidGammaLines (d0 : Nat) (bytes : List Byte) : Exec (List ReportLine) := do
  let buf0 ← bvaAsString bytes (ascii " ")
  let line ← rptVstring d0 (ascii "Invalid gamma descriptor: " ++ buf0)
  .ok [line]

def toleranceLines (d0 : Nat) (relativeGamma : Bool) (tolerance : Byte) (desc : List Byte) : Exec (List ReportLine) :=
  if relativeGamma = true then .ok []
  else do
    let line ← rptVstring d0 (ascii "Absolute tolerance: " ++ desc ++ ascii " (=0x" ++ hexByte false tolerance ++
      ascii ")")
    .ok [line]

def gammaLines (d0 : Nat) (bytes sNativeGamma desc : List Byte) (r : GammaRange) : Exec (List ReportLine) := do
  let tolerance ← fetch bytes 0
  let native ← fetch bytes 1
  let range ← fetch bytes 2
  let relativeGamma := decide (tolerance = 0xff)
  let first ← rptVstring d0 (r.gammaMode.rangeName ++ ascii " of " ++
    (if relativeGamma = true then ascii "relative" else ascii "absolute") ++ ascii " adjustment supported" ++
    (if r.bypassSupported = true then ascii ", display has ability to bypass gamma correction" else []) ++
    ascii " (0x" ++ hexByte false range ++ ascii ")")
  let toleranceLines ← toleranceLines d0 relativeGamma tolerance desc
  let nativeLine ← rptVstring d0 (ascii "Native gamma: " ++ sNativeGamma ++ ascii " (0x" ++ hexByte false native ++
    ascii ")")
  let values ← gammaValues d0 relativeGamma bytes r
  .ok (first :: toleranceLines ++ nativeLine :: values)

def reportGammaCapabilities (bytes : List Byte) (d0 : Nat) : Exec (List ReportLine) :=
  if bytes.length < 3 then invalidGammaLines d0 bytes
  else do
    let native ← fetch bytes 1
    let sNativeGamma ← formatAbsoluteGamma (malloc 10) 10 native
    let sNativeGamma ← readString sNativeGamma
    let r ← gammaRange bytes
    let tolerance ← fetch bytes 0
    let desc ← toleranceDesc tolerance
    match r with
    | none => invalidGammaLines d0 bytes
    | some r => gammaLines d0 bytes sNativeGamma desc r

/-! ## Other values -/

def storeBefore (mem : List Byte) (pos : Nat) (b : Byte) : Exec (List Byte) :=
  match pos with
  | 0 => .error .outOfBounds
  | pos + 1 => store mem pos b

def addHexValue (requiredSize : Nat) (s : List Byte × Nat) (hval : Byte) : Exec (List Byte × Nat) := do
  let buf0 ← snprintf s.1 s.2 (requiredSize - s.2) (hexByte true hval ++ ascii " ")
  .ok (buf0, s.2 + 3)

def valuesText (vals : List Byte) : Exec (List Byte) := do
  let requiredSize := 3 * vals.length
  let (buf0, pos) ← vals.foldlM (addHexValue requiredSize) (malloc requiredSize, 0)
  let buf0 ← storeBefore buf0 pos 0
  readString buf0

def uninterpretedLines (verbose : Bool) (depth : Nat) (vals : List Byte) : Exec (List ReportLine) := do
  let text ← valuesText vals
  let line ← rptVstring depth ((if verbose = true then ascii "Values (  parsed): " else ascii "Values: ") ++ text ++
    ascii " (interpretation unavailable)")
  .ok [line]

def interpretedLines (verbose : Bool) (depth : Nat) (featureValues : List FeatureValueEntry) (vals : List Byte) :
    Exec (List ReportLine) := do
  let lines ← vals.mapM fun hval =>
    rptVstring (depth + 1) (hexByte false hval ++ ascii ": " ++
      (slValueTableLookup featureValues hval).getD (ascii "Unrecognized value"))
  .ok ((depth, if verbose = true then ascii "Values (  parsed):" else ascii "Values:") :: lines)

def valuesLines (verbose : Bool) (depth : Nat) (featureId : Byte) (vcpVersion : VersionSpec) (vals : List Byte) :
    Exec (List ReportLine) :=
  if featureId = 0x72 then reportGammaCapabilities vals depth
  else do
    let featureValues ← findFeatureValuesForCapabilities featureId vcpVersion
    match featureValues with
    | some featureValues => interpretedLines verbose depth featureValues vals
    | none => uninterpretedLines verbose depth vals

/-! ## A feature -/

/-- **The display whose capabilities are reported**, with the records of user defined features and its VCP version. -/
structure ReportedDisplay where
  dref : FeaturesDref
  recs : Heap DynamicFeaturesRec
  vcpVersion : VersionSpec

def metadataOf (featureId : Byte) : Option ReportedDisplay → Exec (Option DynFeatureMetadata)
  | none => .ok none
  | some display => dfrMetadataFor display.dref display.recs featureId

def recordMetadata (display : ReportedDisplay) (featureCode : Byte) : Exec (Option DynFeatureMetadata) :=
  if display.dref.dfr.isSome = true then dfrMetadataFor display.dref display.recs featureCode else .ok none

def dynGetFeatureName (featureCode : Byte) : Option ReportedDisplay → Exec (Option (List Byte))
  | none => .ok (getFeatureNameByIdOnly featureCode)
  | some display => do
    let dfrMetadata ← recordMetadata display featureCode
    .ok ((dfrMetadata.bind DynFeatureMetadata.featureName).orElse
      fun _ => getFeatureNameByIdAndVcpVersion featureCode display.vcpVersion)

def udfLines (depth : Nat) (featureId : Byte) (dfrMetadata : DynFeatureMetadata) : Exec (List ReportLine) := do
  let title ← rptVstring depth (ascii "Feature: " ++ hexByte true featureId ++ ascii " (UDF:" ++
    printed dfrMetadata.featureName ++ ascii ")")
  match dfrMetadata.slValues with
  | some slValues =>
    if dfrMetadata.versionFeatureFlags &&& (ddcaSimpleNc ||| ddcaExtendedNc) ≠ 0 then do
      let lines ← slValues.mapM fun cur =>
        rptVstring (depth + 2) (hexByte false cur.valueCode ++ ascii ": " ++ cur.valueName)
      .ok (title :: (depth + 1, ascii "UDF Values:") :: lines)
    else .ok [title]
  | none => .ok [title]

def unparsedLines (verbose : Bool) (depth : Nat) (valueString : Option (List Byte)) : Exec (List ReportLine) :=
  match valueString with
  | none => .ok []
  | some s =>
    if verbose = true then do
      let line ← rptVstring depth (ascii "Values (unparsed): " ++ cstr s)
      .ok [line]
    else .ok []

def parsedLines (verbose : Bool) (depth : Nat) (featureId : Byte) (vcpVersion : VersionSpec)
    (values : Option (List Byte)) : Exec (List ReportLine) :=
  match values with
  | none => .ok []
  | some vals => valuesLines verbose depth featureId vcpVersion vals

def builtInLines (verbose : Bool) (display : Option ReportedDisplay) (vcpVersion : VersionSpec) (depth : Nat)
    (vfr : CapabilitiesFeature) : Exec (List ReportLine) := do
  let name ← dynGetFeatureName vfr.featureId display
  let title ← rptVstring depth (ascii "Feature: " ++ hexByte true vfr.featureId ++ ascii " (" ++ printed name ++
    ascii ")")
  let unparsed ← unparsedLines verbose (depth + 1) vfr.valueString
  let parsed ← parsedLines verbose (depth + 1) vfr.featureId vcpVersion vfr.values
  .ok (title :: unparsed ++ parsed)

def dynReportOneCapFeature (verbose : Bool) (display : Option ReportedDisplay) (vcpVersion : VersionSpec) (depth : Nat)
    (vfr : CapabilitiesFeature) : Exec (List ReportLine) := do
  let dfrMetadata ← metadataOf vfr.featureId display
  match dfrMetadata with
  | some dfrMetadata => udfLines depth vfr.featureId dfrMetadata
  | none => builtInLines verbose display vcpVersion depth vfr

def copyValueString (valueString : List Byte) : Exec (List Byte) := do
  let mem ← blit (malloc (valueString.length + 1)) 0 valueString
  store mem valueString.length 0

end Ddc
