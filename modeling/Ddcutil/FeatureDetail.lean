import Ddcutil.CapabilitiesReport
import Ddcutil.FeatureMetadata
/-!
# FeatureDetail — the value of a feature as text

`dyn_format_nontable_feature_detail` has the value of a feature that is not a table written to a buffer of the
caller's by the formatter in the metadata.
-/
namespace Ddc

open Kit

structure NontableVcpValue where
  vcpCode : Byte
  maxValue : Nat
  curValue : Nat
  mh : Byte
  ml : Byte
  sh : Byte
  sl : Byte

def singleVcpValueToNontableVcpValue (opcode mh ml sh sl : Byte) : NontableVcpValue where
  vcpCode := opcode
  maxValue := mh.toNat * 256 + ml.toNat
  curValue := sh.toNat * 256 + sl.toNat
  mh := mh
  ml := ml
  sh := sh
  sl := sl

def vspecV21 : VersionSpec := ⟨2, 1⟩
def vspecV30 : VersionSpec := ⟨3, 0⟩
def vspecV22 : VersionSpec := ⟨2, 2⟩

/-- **`vcp_version_le`**, which asserts that both versions are known and are not the two that do not compare. -/
def vcpVersionLe (v1 v2 : VersionSpec) : Exec Bool := do
  check (vcpVersionIsValid v1 = true ∧ vcpVersionIsValid v2 = true)
  check (¬ (v1 = vspecV22 ∧ v2 = vspecV30) ∧ ¬ (v2 = vspecV22 ∧ v1 = vspecV30))
  .ok (decide (v1.major < v2.major ∨ v1.major = v2.major ∧ v1.minor ≤ v2.minor))

def vcpVersionGt (val min : VersionSpec) : Exec Bool := do
  let le ← vcpVersionLe val min
  .ok (!le)

abbrev Detail : Type := Exec (Bool × List Byte)

abbrev FormatNormalFeatureDetailFunction : Type := NontableVcpValue → VersionSpec → List Byte → Nat → Detail

abbrev FormatNormalFeatureDetailFunction2 : Type :=
  NontableVcpValue → Option (List FeatureValueEntry) → List Byte → Nat → Detail

def writeDetail (ok : Bool) (text buffer : List Byte) (bufsz : Nat) : Detail := do
  let buffer ← snprintf buffer 0 bufsz text
  .ok (ok, buffer)

def hex02 (b : Byte) : List Byte := ascii "0x" ++ hexByte false b

def hexDigits (n : Nat) : List Byte := (Nat.toDigits 16 n).map fun c => UInt8.ofNat c.toNat

def decimal5 (n : Nat) : List Byte := padLeft blank 5 (decimalDigits n)

def slValueName (values : List FeatureValueEntry) (value : Byte) (missing : List Byte) : List Byte :=
  (slValueTableLookup values value).getD missing

def lookupValueName (featureCode : Byte) (vcpVersion : VersionSpec) (slValue : Byte) : Exec (List Byte) := do
  let valuesForFeature ← findFeatureValueTable featureCode vcpVersion
  match valuesForFeature with
  | none => .error .assertFailed
  | some values => .ok (slValueName values slValue (ascii "Invalid value"))

/-! ## Formatters of the table -/

def formatFeatureDetailDebugSlSh (codeInfo : NontableVcpValue) (_ : VersionSpec) (buffer : List Byte) (bufsz : Nat) :
    Detail :=
  writeDetail true (ascii "SL: " ++ hex02 codeInfo.sl ++ ascii " ,  SH: " ++ hex02 codeInfo.sh) buffer bufsz

def formatFeatureDetailDebugBytes (codeInfo : NontableVcpValue) (_ : VersionSpec) (buffer : List Byte) (bufsz : Nat) :
    Detail :=
  writeDetail true (ascii "mh=" ++ hex02 codeInfo.mh ++ ascii ", ml=" ++ hex02 codeInfo.ml ++ ascii ", sh=" ++
    hex02 codeInfo.sh ++ ascii ", sl=" ++ hex02 codeInfo.sl) buffer bufsz

def formatFeatureDetailSlByte (codeInfo : NontableVcpValue) (_ : VersionSpec) (buffer : List Byte) (bufsz : Nat) :
    Detail :=
  writeDetail true (ascii "Value: " ++ hex02 codeInfo.sl) buffer bufsz

def formatFeatureDetailShSlBytes (codeInfo : NontableVcpValue) (_ : VersionSpec) (buffer : List Byte) (bufsz : Nat) :
    Detail :=
  writeDetail true (ascii "Value: sh=" ++ hex02 codeInfo.sh ++ ascii " sl=" ++ hex02 codeInfo.sl) buffer bufsz

def formatFeatureDetailSlLookup (codeInfo : NontableVcpValue) (vcpVersion : VersionSpec) (buffer : List Byte)
    (bufsz : Nat) : Detail := do
  let s ← lookupValueName codeInfo.vcpCode vcpVersion codeInfo.sl
  writeDetail true (s ++ ascii " (sl=" ++ hex02 codeInfo.sl ++ ascii ")") buffer bufsz

def formatFeatureDetailSlLookupWithSh (codeInfo : NontableVcpValue) (vcpVersion : VersionSpec) (buffer : List Byte)
    (bufsz : Nat) : Detail := do
  let s ← lookupValueName codeInfo.vcpCode vcpVersion codeInfo.sl
  writeDetail true (ascii "sh=" ++ hex02 codeInfo.sh ++ ascii ", sl=" ++ hex02 codeInfo.sl ++ ascii "=" ++ s) buffer bufsz

def formatFeatureDetailStandardContinuous (codeInfo : NontableVcpValue) (_ : VersionSpec) (buffer : List Byte)
    (bufsz : Nat) : Detail :=
  writeDetail true (ascii "current value = " ++ decimal5 codeInfo.curValue ++ ascii ", max value = " ++
    decimal5 codeInfo.maxValue) buffer bufsz

def formatFeatureDetailUshort (codeInfo : NontableVcpValue) (_ : VersionSpec) (buffer : List Byte) (bufsz : Nat) :
    Detail :=
  writeDetail true (decimal5 codeInfo.curValue ++ ascii " (0x" ++ padLeft 0x30 4 (hexDigits codeInfo.curValue) ++
    ascii ")") buffer bufsz

def x02NewControlValueNames : List (Byte × String) := [
  (0x01, "No new control values"),
  (0x02, "One or more new control values have been saved"),
  (0xff, "No user controls are present")]

def formatFeatureDetailX02NewControlValue (codeInfo : NontableVcpValue) (_ : VersionSpec) (buffer : List Byte)
    (bufsz : Nat) : Detail :=
  writeDetail true (ascii ((x02NewControlValueNames.lookup codeInfo.sl).getD "<reserved code, must be ignored>") ++
    ascii " (" ++ hex02 codeInfo.sl ++ ascii ")") buffer bufsz

def formatFeatureDetailX0bColorTemperatureIncrement (codeInfo : NontableVcpValue) (_ : VersionSpec)
    (buffer : List Byte) (bufsz : Nat) : Detail :=
  if codeInfo.curValue = 0 ∨ 5000 < codeInfo.curValue then
    writeDetail true (ascii "Invalid value: " ++ decimalDigits codeInfo.curValue) buffer bufsz
  else writeDetail true (decimalDigits codeInfo.curValue ++ ascii " degree(s) Kelvin") buffer bufsz

def formatFeatureDetailX0cColorTemperatureRequest (codeInfo : NontableVcpValue) (_ : VersionSpec)
    (buffer : List Byte) (bufsz : Nat) : Detail :=
  writeDetail true (ascii "3000 + " ++ decimalDigits codeInfo.curValue ++
    ascii " * (feature 0B color temp increment) degree(s) Kelvin") buffer bufsz

def x14SlMsg (sl : Byte) : Bool × List Byte :=
  if sl = 0x00 ∨ 0xe0 ≤ sl then (false, ascii "Invalid SL value.")
  else ((slValueTableLookup x14ColorPresetAbsoluteValues sl).isSome,
    slValueName x14ColorPresetAbsoluteValues sl (ascii "Invalid SL value"))

def formatFeatureDetailX14SelectColorPreset (codeInfo : NontableVcpValue) (vcpVersion : VersionSpec)
    (buffer : List Byte) (bufsz : Nat) : Detail := do
  let le ← vcpVersionLe vcpVersion vspecV21
  if le = true then
    writeDetail (x14SlMsg codeInfo.sl).1 ((x14SlMsg codeInfo.sl).2 ++ ascii " (" ++ hex02 codeInfo.sl ++ ascii ")")
      buffer bufsz
  else
    writeDetail ((x14SlMsg codeInfo.sl).1 && (slValueTableLookup x14ColorPresetTolerances codeInfo.mh).isSome)
      ((x14SlMsg codeInfo.sl).2 ++ ascii " (" ++ hex02 codeInfo.sl ++ ascii "), Tolerance: " ++
        slValueName x14ColorPresetTolerances codeInfo.mh (ascii "Invalid MH value") ++ ascii " (" ++ hex02 codeInfo.mh ++
        ascii ")") buffer bufsz

def x62VolumeText (sl : Byte) : List Byte :=
  if sl = 0x00 then ascii "Fixed (default) level (0x00)"
  else if sl = 0xff then ascii "Mute (0xff)"
  else ascii "Volume level: " ++ decimalDigits sl.toNat ++ ascii " (00x" ++ hexByte false sl ++ ascii ")"

def formatFeatureDetailX62AudioSpeakerVolume (codeInfo : NontableVcpValue) (vcpVersion : VersionSpec)
    (buffer : List Byte) (bufsz : Nat) : Detail := do
  check (codeInfo.vcpCode = 0x62)
  let le ← vcpVersionLe vcpVersion vspecV21
  if le = true then writeDetail true (decimalDigits codeInfo.sl.toNat) buffer bufsz
  else writeDetail true (x62VolumeText codeInfo.sl) buffer bufsz

def x72Adjustments : List (Byte × String) := [
  (0x00, "White absolute adjustment"),
  (0x01, "Red absolute adjustment"),
  (0x02, "Green absolute adjustment"),
  (0x03, "Blue absolute adjustment"),
  (0x04, "White relative adjustment"),
  (0x05, "Disable all gamma correction in display")]

def x72RelativeAdjustment (sh : Byte) : List Byte :=
  if sh = 0x20 then ascii "Disable all gamma correction"
  else ascii ((relativeGammas.lookup sh).getD "Invalid SH value")

def x72AbsoluteGamma (sh : Byte) : Exec (List Byte) := do
  let sgamma ← snprintf (malloc 10) 0 10 (decimalDigits (sh.toNat + 100))
  let sgamma ← readString sgamma
  let a ← substr sgamma 0 (sgamma.length - 2)
  let b ← substr sgamma (sgamma.length - 2) 2
  let sgamma2 ← snprintf (malloc 10) 0 10 (a ++ ascii "." ++ b)
  readString sgamma2

def x72GammaText (codeInfo : NontableVcpValue) : Exec (List Byte) :=
  if codeInfo.sl ≤ 0x03 then do
    let sgamma2 ← x72AbsoluteGamma codeInfo.sh
    .ok (ascii " - Mode: " ++ ascii ((x72Adjustments.lookup codeInfo.sl).getD "Reserved, ignored") ++ ascii " (sl=" ++
      hex02 codeInfo.sl ++ ascii "), gamma=" ++ sgamma2 ++ ascii " (sh=" ++ hex02 codeInfo.sh ++ ascii ")")
  else if codeInfo.sl = 0x04 then
    .ok (ascii " - " ++ ascii ((x72Adjustments.lookup codeInfo.sl).getD "Reserved, ignored") ++ ascii " (sl=" ++
      hex02 codeInfo.sl ++ ascii ") " ++ x72RelativeAdjustment codeInfo.sh ++ ascii " (sh=" ++ hex02 codeInfo.sh ++
      ascii ")")
  else if codeInfo.sl = 0x05 then
    .ok (ascii " - Mode: gamma correction disabled (sl=" ++ hex02 codeInfo.sl ++ ascii "), sh=" ++ hex02 codeInfo.sh)
  else .ok (ascii " - Invalid sl value. sl=" ++ hex02 codeInfo.sl ++ ascii ", sh=" ++ hex02 codeInfo.sh)

def formatFeatureDetailX72Gamma (codeInfo : NontableVcpValue) (_ : VersionSpec) (buffer : List Byte) (bufsz : Nat) :
    Detail := do
  check (codeInfo.vcpCode = 0x72)
  let formattedShSl ← snprintf (malloc 20) 0 20 (hex02 codeInfo.sh ++ hexByte false codeInfo.sl)
  let formattedShSl ← readString formattedShSl
  let text ← x72GammaText codeInfo
  writeDetail true (formattedShSl ++ text) buffer bufsz

def namesOfBoth (codeInfo : NontableVcpValue) (vcpVersion : VersionSpec) (v22Sl v22Sh otherSl : List FeatureValueEntry) :
    List Byte :=
  if vcpVersion = vspecV22 then
    slValueName v22Sl codeInfo.sl (ascii "Invalid value") ++ ascii " (sl=" ++ hex02 codeInfo.sl ++ ascii "), " ++
      slValueName v22Sh codeInfo.sh (ascii "Invalid value") ++ ascii " (sh=" ++ hex02 codeInfo.sh ++ ascii ")"
  else slValueName otherSl codeInfo.sl (ascii "Invalid value") ++ ascii " (sl=" ++ hex02 codeInfo.sl ++ ascii ")"

def formatFeatureDetailX8dMuteAudioBlankScreen (codeInfo : NontableVcpValue) (vcpVersion : VersionSpec)
    (buffer : List Byte) (bufsz : Nat) : Detail := do
  check (codeInfo.vcpCode = 0x8d)
  writeDetail true (namesOfBoth codeInfo vcpVersion x8dTvAudioMuteSourceValues x8dShBlankScreenValues
    x8dTvAudioMuteSourceValues) buffer bufsz

def aroundNeutral (sl : Byte) (below atNeutral above fromNeutral : String) : List Byte :=
  if sl < 0x80 then
    decimalDigits sl.toNat ++ ascii below ++ hex02 sl ++ ascii fromNeutral ++ ascii " - " ++
      decimalDigits (0x80 - sl.toNat) ++ ascii ")"
  else if sl = 0x80 then decimalDigits sl.toNat ++ ascii atNeutral ++ hex02 sl ++ ascii ")"
  else
    decimalDigits sl.toNat ++ ascii above ++ hex02 sl ++ ascii fromNeutral ++ ascii " + " ++
      decimalDigits (sl.toNat - 0x80) ++ ascii ")"

/-- What x8f, x91 and x93 do where the version is later than 2.1, as they assert; `invalid` are the values that the
feature does not have. -/
def writeAroundNeutral (codeInfo : NontableVcpValue) (vcpVersion : VersionSpec) (invalid : Bool) (text buffer : List Byte)
    (bufsz : Nat) : Detail := do
  let gt ← vcpVersionGt vcpVersion vspecV21
  check (gt = true)
  let le ← vcpVersionLe vcpVersion vspecV21
  if le = true then writeDetail true (decimalDigits codeInfo.sl.toNat) buffer bufsz
  else if invalid = true then writeDetail false (ascii "Invalid value: " ++ hex02 codeInfo.sl) buffer bufsz
  else writeDetail true text buffer bufsz

def formatFeatureDetailX8fX91AudioTrebleBass (codeInfo : NontableVcpValue) (vcpVersion : VersionSpec)
    (buffer : List Byte) (bufsz : Nat) : Detail := do
  check (codeInfo.vcpCode = 0x8f ∨ codeInfo.vcpCode = 0x91)
  writeAroundNeutral codeInfo vcpVersion (codeInfo.sl == 0x00 || codeInfo.sl == 0xff)
    (aroundNeutral codeInfo.sl ": Decreased (" ": Neutral (" ": Increased (" " = neutral") buffer bufsz

def formatFeatureDetailX93AudioBalance (codeInfo : NontableVcpValue) (vcpVersion : VersionSpec)
    (buffer : List Byte) (bufsz : Nat) : Detail := do
  check (codeInfo.vcpCode = 0x93)
  writeAroundNeutral codeInfo vcpVersion (codeInfo.sl == 0x00 || (codeInfo.sl == 0xff && vcpVersion == vspecV22))
    (aroundNeutral codeInfo.sl ": Left channel dominates (" ": Centered (" " Right channel dominates (" " = centered")
    buffer bufsz

def NontableVcpValue.allOnes (codeInfo : NontableVcpValue) : Prop :=
  codeInfo.mh = 0xff ∧ codeInfo.ml = 0xff ∧ codeInfo.sh = 0xff ∧ codeInfo.sl = 0xff

instance (codeInfo : NontableVcpValue) : Decidable codeInfo.allOnes := inferInstanceAs (Decidable (_ ∧ _))

def writeFrequency (codeInfo : NontableVcpValue) (text buffer : List Byte) (bufsz : Nat) : Detail :=
  if codeInfo.allOnes then writeDetail true (ascii "Cannot determine frequency or out of range") buffer bufsz
  else writeDetail true text buffer bufsz

def formatFeatureDetailXacHorizontalFrequency (codeInfo : NontableVcpValue) (_ : VersionSpec) (buffer : List Byte)
    (bufsz : Nat) : Detail := do
  check (codeInfo.vcpCode = 0xac)
  writeFrequency codeInfo (decimalDigits codeInfo.curValue ++ ascii " hz") buffer bufsz

def formatFeatureDetailXaeVerticalFrequency (codeInfo : NontableVcpValue) (_ : VersionSpec) (buffer : List Byte)
    (bufsz : Nat) : Detail := do
  check (codeInfo.vcpCode = 0xae)
  writeFrequency codeInfo (decimalDigits (codeInfo.curValue / 100) ++ ascii "." ++
    padLeft 0x30 2 (decimalDigits (codeInfo.curValue % 100)) ++ ascii " hz") buffer bufsz

def formatFeatureDetailXbeLinkControl (codeInfo : NontableVcpValue) (_ : VersionSpec) (buffer : List Byte)
    (bufsz : Nat) : Detail :=
  writeDetail true (ascii "Link shutdown is " ++
    ascii (if codeInfo.sl &&& 0x01 ≠ 0 then "enabled" else "disabled") ++ ascii " (" ++ hex02 codeInfo.sl ++
    ascii ")") buffer bufsz

def usageTime (codeInfo : NontableVcpValue) (vcpVersion : VersionSpec) : Nat :=
  if 3 ≤ vcpVersion.major.toNat then codeInfo.ml.toNat * 65536 + codeInfo.sh.toNat * 256 + codeInfo.sl.toNat
  else codeInfo.sh.toNat * 256 + codeInfo.sl.toNat

def formatFeatureDetailXc0DisplayUsageTime (codeInfo : NontableVcpValue) (vcpVersion : VersionSpec)
    (buffer : List Byte) (bufsz : Nat) : Detail := do
  check (codeInfo.vcpCode = 0xc0)
  writeDetail true (ascii "Usage time (hours) = " ++ decimalDigits (usageTime codeInfo vcpVersion) ++ ascii " (0x" ++
    padLeft 0x30 6 (hexDigits (usageTime codeInfo vcpVersion)) ++ ascii ") mh=" ++ hex02 codeInfo.mh ++ ascii ", ml=" ++
    hex02 codeInfo.ml ++ ascii ", sh=" ++ hex02 codeInfo.sh ++ ascii ", sl=" ++ hex02 codeInfo.sl) buffer bufsz

def formatFeatureDetailX6cApplicationEnableKey (codeInfo : NontableVcpValue) (_ : VersionSpec) (buffer : List Byte)
    (bufsz : Nat) : Detail := do
  check (codeInfo.vcpCode = 0xc6)
  writeDetail true (hex02 codeInfo.sh ++ hexByte false codeInfo.sl) buffer bufsz

def formatFeatureDetailXc8DisplayControllerType (info : NontableVcpValue) (_ : VersionSpec) (buffer : List Byte)
    (bufsz : Nat) : Detail := do
  check (info.vcpCode = 0xc8)
  writeDetail true (ascii "Mfg: " ++ slValueName xc8DisplayControllerTypeValues info.sl (ascii "Unrecognized") ++
    ascii " (sl=" ++ hex02 info.sl ++ ascii "), controller number: mh=" ++ hex02 info.mh ++ ascii ", ml=" ++
    hex02 info.ml ++ ascii ", sh=" ++ hex02 info.sh) buffer bufsz

def formatFeatureDetailXc9XdfVersion (codeInfo : NontableVcpValue) (_ : VersionSpec) (buffer : List Byte)
    (bufsz : Nat) : Detail :=
  writeDetail true (decimalDigits codeInfo.sh.toNat ++ ascii "." ++ decimalDigits codeInfo.sl.toNat) buffer bufsz

def formatFeatureDetailXcaOsdButtonControl (info : NontableVcpValue) (vcpVersion : VersionSpec) (buffer : List Byte)
    (bufsz : Nat) : Detail :=
  writeDetail true (namesOfBoth info vcpVersion xcaV22OsdButtonSlValues xcaV22OsdButtonShValues xcaOsdValues) buffer bufsz

def formatFeatureDetailXceAuxDisplaySize (codeInfo : NontableVcpValue) (_ : VersionSpec) (buffer : List Byte)
    (bufsz : Nat) : Detail := do
  check (codeInfo.vcpCode = 0xce)
  writeDetail true (ascii "Rows=" ++ decimalDigits (codeInfo.sl.toNat / 64) ++ ascii ", characters/row=" ++
    decimalDigits (codeInfo.sl.toNat % 64) ++ ascii " (sl=" ++ hex02 codeInfo.sl ++ ascii ")") buffer bufsz

def NontableFormatter.function : NontableFormatter → FormatNormalFeatureDetailFunction
  | .debugSlSh => formatFeatureDetailDebugSlSh
  | .debugBytes => formatFeatureDetailDebugBytes
  | .slByte => formatFeatureDetailSlByte
  | .shSlBytes => formatFeatureDetailShSlBytes
  | .slLookup => formatFeatureDetailSlLookup
  | .slLookupWithSh => formatFeatureDetailSlLookupWithSh
  | .standardContinuous => formatFeatureDetailStandardContinuous
  | .ushort => formatFeatureDetailUshort
  | .x02NewControlValue => formatFeatureDetailX02NewControlValue
  | .x0bColorTemperatureIncrement => formatFeatureDetailX0bColorTemperatureIncrement
  | .x0cColorTemperatureRequest => formatFeatureDetailX0cColorTemperatureRequest
  | .x14SelectColorPreset => formatFeatureDetailX14SelectColorPreset
  | .x62AudioSpeakerVolume => formatFeatureDetailX62AudioSpeakerVolume
  | .x72Gamma => formatFeatureDetailX72Gamma
  | .x8dMuteAudioBlankScreen => formatFeatureDetailX8dMuteAudioBlankScreen
  | .x8fX91AudioTrebleBass => formatFeatureDetailX8fX91AudioTrebleBass
  | .x93AudioBalance => formatFeatureDetailX93AudioBalance
  | .xacHorizontalFrequency => formatFeatureDetailXacHorizontalFrequency
  | .xaeVerticalFrequency => formatFeatureDetailXaeVerticalFrequency
  | .xbeLinkControl => formatFeatureDetailXbeLinkControl
  | .xc0DisplayUsageTime => formatFeatureDetailXc0DisplayUsageTime
  | .x6cApplicationEnableKey => formatFeatureDetailX6cApplicationEnableKey
  | .xc8DisplayControllerType => formatFeatureDetailXc8DisplayControllerType
  | .xc9XdfVersion => formatFeatureDetailXc9XdfVersion
  | .xcaOsdButtonControl => formatFeatureDetailXcaOsdButtonControl
  | .xceAuxDisplaySize => formatFeatureDetailXceAuxDisplaySize

def dynFormatFeatureDetailSlLookup (codeInfo : NontableVcpValue) (valueTable : Option (List FeatureValueEntry))
    (buffer : List Byte) (bufsz : Nat) : Detail :=
  match valueTable with
  | some values =>
    writeDetail true (slValueName values codeInfo.sl (ascii "Unrecognized value") ++ ascii " (sl=" ++ hex02 codeInfo.sl ++
      ascii ")") buffer bufsz
  | none => writeDetail true (hex02 codeInfo.sl) buffer bufsz

def dynFormatFeatureDetailSlLookupWithSh (codeInfo : NontableVcpValue) (valueTable : Option (List FeatureValueEntry))
    (buffer : List Byte) (bufsz : Nat) : Detail :=
  match valueTable with
  | some values =>
    writeDetail true (slValueName values codeInfo.sl (ascii "Unrecognized value") ++ ascii " (sl=" ++ hex02 codeInfo.sl ++
      ascii "), sh=" ++ hex02 codeInfo.sh) buffer bufsz
  | none => writeDetail true (ascii "sh=" ++ hex02 codeInfo.sh ++ ascii ", sl=" ++ hex02 codeInfo.sl) buffer bufsz

def NontableFormatter.slFunction : NontableFormatter → FormatNormalFeatureDetailFunction2
  | .slLookup => dynFormatFeatureDetailSlLookup
  | .slLookupWithSh => dynFormatFeatureDetailSlLookupWithSh
  | _ => fun _ _ _ _ => .error .nullDeref

/-- **`dyn_format_nontable_feature_detail`**; it is a program logic error that there is no formatter. -/
def dynFormatNontableFeatureDetail (dfm : DisplayFeatureMetadata) (codeInfo : NontableVcpValue) (buffer : List Byte)
    (bufsz : Nat) : Detail := do
  let buffer ← store buffer 0 0
  match dfm.nontableFormatter, dfm.nontableFormatterSl with
  | some formatter, _ => formatter.function codeInfo dfm.vcpVersion buffer bufsz
  | none, some formatter => formatter.slFunction codeInfo dfm.slValues buffer bufsz
  | none, none => .error .assertFailed

/-- **A buffer is written**: nothing fails, not a byte goes past its end and there is a NUL in it. -/
def Written (bufsz : Nat) (r : Detail) : Prop :=
  ∃ ok buffer, r = .ok (ok, buffer) ∧ buffer.length = bufsz ∧ 0 ∈ buffer

def DisplayFeatureMetadata.ReadableNontable (dfm : DisplayFeatureMetadata) : Prop :=
  dfm.versionFeatureFlags &&& ddcaReadable ≠ 0 ∧ dfm.versionFeatureFlags &&& ddcaTable = 0

/-- **The value of a readable feature is formatted**: its metadata are found and a buffer of any contents is written. -/
def DetailWritten (featureCode : Byte) (dfr : Option MarkedRec) (vspec : VersionSpec) (withDefault : Bool)
    (mh ml sh sl : Byte) (bufsz : Nat) : Prop :=
  ∃ found, dynGetFeatureMetadataByDfrAndVspecDfm featureCode dfr vspec withDefault = .ok found ∧
    ∀ dfm, found = some dfm → dfm.ReadableNontable → ∀ buffer : List Byte, buffer.length = bufsz →
      Written bufsz (dynFormatNontableFeatureDetail dfm
        (singleVcpValueToNontableVcpValue featureCode mh ml sh sl) buffer bufsz)

/-- **The version is one that is compared but is not known**: from 2.2 or 3.0 on some features have formatters that
compare versions. -/
def ComparesUnknown (featureCode : Byte) (vspec : VersionSpec) : Prop :=
  featureCode ∈ [0x14, 0x62, 0x8f, 0x91, 0x93] ∧
    (VersionMember.v22.NotLater vspec ∨ VersionMember.v30.NotLater vspec) ∧ vspec ≠ vspecV22 ∧ vspec ≠ vspecV30

end Ddc
