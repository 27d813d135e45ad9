import Ddcutil.HexList
/-!
# VcpFeatureTable — entries of the feature table

The flags of a feature, the groups and subsets it is in, and `VCP_Feature_Table_Entry`, with its attributes for the
versions 2.0, 2.1, 3.0 and 2.2.
-/
namespace Ddc

abbrev DdcaFeatureFlags := UInt16

def ddcaRo : DdcaFeatureFlags := 0x0400
def ddcaWo : DdcaFeatureFlags := 0x0200
def ddcaRw : DdcaFeatureFlags := 0x0100
def ddcaReadable : DdcaFeatureFlags := ddcaRo ||| ddcaRw
def ddcaWritable : DdcaFeatureFlags := ddcaWo ||| ddcaRw
def ddcaStdCont : DdcaFeatureFlags := 0x0080
def ddcaComplexCont : DdcaFeatureFlags := 0x0040
def ddcaSimpleNc : DdcaFeatureFlags := 0x0020
def ddcaExtendedNc : DdcaFeatureFlags := 0x8000
def ddcaComplexNc : DdcaFeatureFlags := 0x0010
def ddcaNcCont : DdcaFeatureFlags := 0x0800
def ddcaWoNc : DdcaFeatureFlags := 0x0008
def ddcaNormalTable : DdcaFeatureFlags := 0x0004
def ddcaWoTable : DdcaFeatureFlags := 0x0002
def ddcaCont : DdcaFeatureFlags := ddcaStdCont ||| ddcaComplexCont
def ddcaNc : DdcaFeatureFlags := ddcaExtendedNc ||| ddcaSimpleNc ||| ddcaComplexNc ||| ddcaWoNc ||| ddcaNcCont
def ddcaNonTable : DdcaFeatureFlags := ddcaCont ||| ddcaNc
def ddcaTable : DdcaFeatureFlags := ddcaNormalTable ||| ddcaWoTable
def ddcaDeprecated : DdcaFeatureFlags := 0x0001

def ddcaSyntheticVcpFeatureTableEntry : DdcaFeatureFlags := 0x8000
def ddcaPersistentMetadata : DdcaFeatureFlags := 0x1000
def ddcaUserDefined : DdcaFeatureFlags := 0x4000
def ddcaSynthetic : DdcaFeatureFlags := 0x2000

def vcpSpecPreset : UInt16 := 0x80
def vcpSpecImage : UInt16 := 0x40
def vcpSpecControl : UInt16 := 0x20
def vcpSpecGeometry : UInt16 := 0x10
def vcpSpecMisc : UInt16 := 0x08
def vcpSpecAudio : UInt16 := 0x04
def vcpSpecDpvl : UInt16 := 0x02
def vcpSpecWindow : UInt16 := 0x8000

abbrev VcpFeatureSubset := UInt32

def vcpSubsetProfile : VcpFeatureSubset := 0x40000000
def vcpSubsetColor : VcpFeatureSubset := 0x20000000
def vcpSubsetLut : VcpFeatureSubset := 0x10000000
def vcpSubsetCrt : VcpFeatureSubset := 0x08000000
def vcpSubsetTv : VcpFeatureSubset := 0x04000000
def vcpSubsetAudio : VcpFeatureSubset := 0x02000000
def vcpSubsetWindow : VcpFeatureSubset := 0x01000000
def vcpSubsetDpvl : VcpFeatureSubset := 0x00800000

/-! ## Data -/

/-- `DDCA_Feature_Value_Entry`; a table of them ends with an entry without a name, which is left out here. -/
structure FeatureValueEntry where
  valueCode : Byte
  valueName : List Byte
  deriving DecidableEq

inductive NontableFormatter where
  | debugSlSh | debugBytes | slByte | shSlBytes | slLookup | slLookupWithSh | standardContinuous | ushort
  | x02NewControlValue | x0bColorTemperatureIncrement | x0cColorTemperatureRequest | x14SelectColorPreset
  | x62AudioSpeakerVolume | x72Gamma | x8dMuteAudioBlankScreen | x8fX91AudioTrebleBass | x93AudioBalance
  | xacHorizontalFrequency | xaeVerticalFrequency | xbeLinkControl | xc0DisplayUsageTime
  | x6cApplicationEnableKey | xc8DisplayControllerType | xc9XdfVersion | xcaOsdButtonControl
  | xceAuxDisplaySize
  deriving DecidableEq

inductive TableFormatter where
  | default | x73LutSize
  deriving DecidableEq

/-- **`VCP_Feature_Table_Entry`**; a field that an initializer leaves out is 0 or NULL. -/
structure VcpFeatureTableEntry where
  code : Byte
  desc : Option (List Byte) := none
  nontableFormatter : Option NontableFormatter := none
  tableFormatter : Option TableFormatter := none
  vcpGlobalFlags : DdcaFeatureFlags := 0
  vcpSpecGroups : UInt16 := 0
  vcpSubsets : VcpFeatureSubset := 0
  v20Name : Option (List Byte) := none
  v21Name : Option (List Byte) := none
  v30Name : Option (List Byte) := none
  v22Name : Option (List Byte) := none
  v20Flags : DdcaFeatureFlags := 0
  v21Flags : DdcaFeatureFlags := 0
  v30Flags : DdcaFeatureFlags := 0
  v22Flags : DdcaFeatureFlags := 0
  defaultSlValues : Option (List FeatureValueEntry) := none
  v21SlValues : Option (List FeatureValueEntry) := none
  v30SlValues : Option (List FeatureValueEntry) := none
  v22SlValues : Option (List FeatureValueEntry) := none

end Ddc
