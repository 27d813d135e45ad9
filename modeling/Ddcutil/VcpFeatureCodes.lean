import Ddcutil.VcpCodeTable
/-!
# VcpFeatureCodes — what the feature table says of a feature in a version

A `VCP_Feature_Table_Entry` has up to four sets of flags, names and value tables, for the versions 2.0, 2.1, 3.0 and
2.2; 3.0 and 2.2 both follow 2.1.
-/
namespace Ddc

open Kit

structure DisplayFeatureMetadata where
  featureCode : Byte
  vcpVersion : VersionSpec
  vcpSpecGroups : UInt16
  vcpSubsets : VcpFeatureSubset
  featureName : Option (List Byte)
  featureDesc : Option (List Byte)
  slValues : Option (List FeatureValueEntry)
  globalFeatureFlags : DdcaFeatureFlags
  versionFeatureFlags : DdcaFeatureFlags
  nontableFormatter : Option NontableFormatter
  nontableFormatterSl : Option NontableFormatter
  tableFormatter : Option TableFormatter

def dfmNew (featureCode : Byte) : DisplayFeatureMetadata where
  featureCode := featureCode
  vcpVersion := ⟨0, 0⟩
  vcpSpecGroups := 0
  vcpSubsets := 0
  featureName := none
  featureDesc := none
  slValues := none
  globalFeatureFlags := 0
  versionFeatureFlags := 0
  nontableFormatter := none
  nontableFormatterSl := none
  tableFormatter := none

/-! ## Look-ups by version -/

section

variable {α : Type} [DecidableEq α]

/-- The look-up that flags and names share; `unset` is 0 for flags and NULL for names. -/
def versionSpecific (unset v20 v21 v30 v22 : α) (vcpVersion : VersionSpec) : α :=
  let result :=
    if 3 ≤ vcpVersion.major.toNat then v30
    else if vcpVersion.major.toNat = 2 ∧ 2 ≤ vcpVersion.minor.toNat then v22
    else unset
  let result :=
    if result = unset ∧
        (3 ≤ vcpVersion.major.toNat ∨ vcpVersion.major.toNat = 2 ∧ 1 ≤ vcpVersion.minor.toNat) then v21
    else result
  if result = unset then v20 else result

/-- What is found where nothing is for the version: the first that there is for later ones. -/
def scanUp (unset v21 v30 v22 : α) : α :=
  if v21 ≠ unset then v21 else if v30 ≠ unset then v30 else v22

def versionSensitive (unset v20 v21 v30 v22 : α) (vcpVersion : VersionSpec) : α :=
  if versionSpecific unset v20 v21 v30 v22 vcpVersion = unset then scanUp unset v21 v30 v22
  else versionSpecific unset v20 v21 v30 v22 vcpVersion

end

def getVersionSpecificFeatureFlags (pvftEntry : VcpFeatureTableEntry) (vcpVersion : VersionSpec) : DdcaFeatureFlags :=
  versionSpecific 0 pvftEntry.v20Flags pvftEntry.v21Flags pvftEntry.v30Flags pvftEntry.v22Flags vcpVersion

def versionSensitiveFlags (pvftEntry : VcpFeatureTableEntry) (vcpVersion : VersionSpec) : DdcaFeatureFlags :=
  versionSensitive 0 pvftEntry.v20Flags pvftEntry.v21Flags pvftEntry.v30Flags pvftEntry.v22Flags vcpVersion

def getVersionSensitiveFeatureFlags (pvftEntry : VcpFeatureTableEntry) (vcpVersion : VersionSpec) :
    Exec DdcaFeatureFlags := do
  check (versionSensitiveFlags pvftEntry vcpVersion ≠ 0)
  .ok (versionSensitiveFlags pvftEntry vcpVersion)

def getVersionSpecificFeatureName (vfte : VcpFeatureTableEntry) (vcpVersion : VersionSpec) : Option (List Byte) :=
  versionSpecific none vfte.v20Name vfte.v21Name vfte.v30Name vfte.v22Name vcpVersion

def getVersionSensitiveFeatureName (vfte : VcpFeatureTableEntry) (vcpVersion : VersionSpec) : Option (List Byte) :=
  versionSensitive none vfte.v20Name vfte.v21Name vfte.v30Name vfte.v22Name vcpVersion

/-- `get_version_specific_sl_values`, which goes on to the table for 2.1 from 3.0 and from 2.1, but not from 2.2. -/
def getVersionSpecificSlValues (vfte : VcpFeatureTableEntry) (vcpVersion : VersionSpec) :
    Option (List FeatureValueEntry) :=
  let result :=
    if 3 ≤ vcpVersion.major.toNat then vfte.v30SlValues
    else if vcpVersion.major.toNat = 2 ∧ 2 ≤ vcpVersion.minor.toNat then vfte.v22SlValues
    else none
  let result :=
    if result = none ∧
        (3 ≤ vcpVersion.major.toNat ∨ vcpVersion.major.toNat = 2 ∧ vcpVersion.minor.toNat = 1) then vfte.v21SlValues
    else result
  if result = none then vfte.defaultSlValues else result

def getVersionSensitiveSlValues (vfte : VcpFeatureTableEntry) (vcpVersion : VersionSpec) :
    Option (List FeatureValueEntry) :=
  if getVersionSpecificSlValues vfte vcpVersion = none then
    scanUp none vfte.v21SlValues vfte.v30SlValues vfte.v22SlValues
  else getVersionSpecificSlValues vfte vcpVersion

def extractVersionFeatureInfoFromFeatureTableEntry (vfte : VcpFeatureTableEntry) (vspec : VersionSpec)
    (versionSensitive : Bool) : Exec DisplayFeatureMetadata := do
  let dfm := dfmNew vfte.code
  let flags ←
    if versionSensitive = true then getVersionSensitiveFeatureFlags vfte vspec
    else .ok (getVersionSpecificFeatureFlags vfte vspec)
  .ok { dfm with
    vcpSubsets := vfte.vcpSubsets
    vcpSpecGroups := vfte.vcpSpecGroups
    vcpVersion := vspec
    versionFeatureFlags := flags
    featureDesc := if dfm.featureDesc.isSome = true then vfte.desc else none
    featureName :=
      if versionSensitive = true then getVersionSensitiveFeatureName vfte vspec
      else getVersionSpecificFeatureName vfte vspec
    globalFeatureFlags := dfm.globalFeatureFlags ||| vfte.vcpGlobalFlags
    slValues :=
      if versionSensitive = true then getVersionSensitiveSlValues vfte vspec
      else getVersionSpecificSlValues vfte vspec }

def vcpFindFeatureByHexid (id : Byte) : Option VcpFeatureTableEntry := vcpCodeTable.find? fun entry => entry.code == id

/-! ## Look-ups by code -/

def slValueTableLookup (valueEntries : List FeatureValueEntry) (valueId : Byte) : Option (List Byte) :=
  (valueEntries.find? fun entry => entry.valueCode == valueId).map FeatureValueEntry.valueName

def getNonVersionSpecificFeatureName (vfte : VcpFeatureTableEntry) : Option (List Byte) :=
  getVersionSensitiveFeatureName vfte ⟨2, 2⟩

def getFeatureNameByIdOnly (featureId : Byte) : Option (List Byte) :=
  match vcpFindFeatureByHexid featureId with
  | some vcpEntry => getNonVersionSpecificFeatureName vcpEntry
  | none =>
    if 0xe0 ≤ featureId then some (ascii "manufacturer specific feature") else some (ascii "unrecognized feature")

def getFeatureNameByIdAndVcpVersion (featureId : Byte) (vspec : VersionSpec) : Option (List Byte) :=
  match vcpFindFeatureByHexid featureId with
  | some vcpEntry =>
    (getVersionSensitiveFeatureName vcpEntry vspec).orElse fun _ => getNonVersionSpecificFeatureName vcpEntry
  | none =>
    if 0xe0 ≤ featureId then some (ascii "Manufacturer specific feature") else some (ascii "Unrecognized feature")

/-- **`find_feature_value_table`**: feature xCA has a table although it is not of a type that has one. -/
def findFeatureValueTable (featureCode : Byte) (vcpVersion : VersionSpec) : Exec (Option (List FeatureValueEntry)) :=
  match vcpFindFeatureByHexid featureCode with
  | none => .ok none
  | some pentry => do
    let featureFlags ← getVersionSensitiveFeatureFlags pentry vcpVersion
    if featureFlags &&& (ddcaSimpleNc ||| ddcaExtendedNc) ≠ 0 ∨ featureCode = 0xca then
      .ok (getVersionSpecificSlValues pentry vcpVersion)
    else .ok none

/-- `find_feature_values_for_capabilities`, which goes round the feature table for x14. -/
def findFeatureValuesForCapabilities (featureCode : Byte) (vcpVersion : VersionSpec) :
    Exec (Option (List FeatureValueEntry)) :=
  if featureCode = 0x14 then
    if vcpVersion.major.toNat < 3 then .ok (some x14ColorPresetAbsoluteValues) else .ok none
  else findFeatureValueTable featureCode vcpVersion

/-! ## The graph of versions -/

inductive VersionMember where
  | v20 | v21 | v30 | v22
  deriving DecidableEq

def VersionMember.vspec : VersionMember → VersionSpec
  | .v20 => ⟨2, 0⟩
  | .v21 => ⟨2, 1⟩
  | .v30 => ⟨3, 0⟩
  | .v22 => ⟨2, 2⟩

/-- **A version of the table is not later than another version**: 2.2 and 3.0 follow 2.1 and not each other. -/
def VersionMember.NotLater : VersionMember → VersionSpec → Prop
  | .v20, v => 2 ≤ v.major.toNat
  | .v21, v => 3 ≤ v.major.toNat ∨ v.major.toNat = 2 ∧ 1 ≤ v.minor.toNat
  | .v30, v => 3 ≤ v.major.toNat
  | .v22, v => v.major.toNat = 2 ∧ 2 ≤ v.minor.toNat

instance : (m : VersionMember) → (v : VersionSpec) → Decidable (m.NotLater v)
  | .v20, v => inferInstanceAs (Decidable (2 ≤ v.major.toNat))
  | .v21, v => inferInstanceAs (Decidable (3 ≤ v.major.toNat ∨ v.major.toNat = 2 ∧ 1 ≤ v.minor.toNat))
  | .v30, v => inferInstanceAs (Decidable (3 ≤ v.major.toNat))
  | .v22, v => inferInstanceAs (Decidable (v.major.toNat = 2 ∧ 2 ≤ v.minor.toNat))

/-- **The latest version not later than the one asked for** for which there is an attribute. -/
structure Latest (vspec : VersionSpec) (defined : VersionMember → Prop) (m : VersionMember) : Prop where
  notLater : m.NotLater vspec
  has : defined m
  latest : ∀ m' : VersionMember, m'.NotLater vspec → defined m' → m'.NotLater m.vspec

def VcpFeatureTableEntry.flagsFor (vfte : VcpFeatureTableEntry) : VersionMember → DdcaFeatureFlags
  | .v20 => vfte.v20Flags
  | .v21 => vfte.v21Flags
  | .v30 => vfte.v30Flags
  | .v22 => vfte.v22Flags

def VcpFeatureTableEntry.nameFor (vfte : VcpFeatureTableEntry) : VersionMember → Option (List Byte)
  | .v20 => vfte.v20Name
  | .v21 => vfte.v21Name
  | .v30 => vfte.v30Name
  | .v22 => vfte.v22Name

def VcpFeatureTableEntry.slValuesFor (vfte : VcpFeatureTableEntry) : VersionMember → Option (List FeatureValueEntry)
  | .v20 => vfte.defaultSlValues
  | .v21 => vfte.v21SlValues
  | .v30 => vfte.v30SlValues
  | .v22 => vfte.v22SlValues

/-- **What is promised of the metadata**: each attribute is that of the latest version that has it, and the description is
the entry's. -/
structure FromLatest (vfte : VcpFeatureTableEntry) (vspec : VersionSpec) (dfm : DisplayFeatureMetadata) : Prop where
  flags : ∀ m, Latest vspec (fun m => vfte.flagsFor m ≠ 0) m → dfm.versionFeatureFlags = vfte.flagsFor m
  name : ∀ m, Latest vspec (fun m => vfte.nameFor m ≠ none) m → dfm.featureName = vfte.nameFor m
  slValues : ∀ m, Latest vspec (fun m => vfte.slValuesFor m ≠ none) m → dfm.slValues = vfte.slValuesFor m
  desc : dfm.featureDesc = vfte.desc

/-- The value table for 2.1 is the latest one for a version from 2.2 on, and is not what the look-up finds. -/
def SkipsV21 (vfte : VcpFeatureTableEntry) (vspec : VersionSpec) (versionSensitive : Bool) : Prop :=
  VersionMember.v22.NotLater vspec ∧ vfte.v22SlValues = none ∧ vfte.v21SlValues ≠ none ∧
    vfte.defaultSlValues ≠ vfte.v21SlValues ∧ (vfte.defaultSlValues = none → versionSensitive = false)

/-! ## What the look-ups find -/

theorem Latest.eq_unset {α : Type} {unset : α} {vspec : VersionSpec} {val : VersionMember → α} {m : VersionMember}
    (h : Latest vspec (fun m => val m ≠ unset) m) {m' : VersionMember} (hm' : m'.NotLater vspec)
    (hlate : ¬ m'.NotLater m.vspec) : val m' = unset :=
  Classical.byContradiction fun hne => hlate (h.latest m' hm' hne)

section

variable {α : Type} [DecidableEq α] {unset v20 v21 v30 v22 : α} {vspec : VersionSpec}

theorem versionSpecific_v30 (h : VersionMember.v30.NotLater vspec) :
    versionSpecific unset v20 v21 v30 v22 vspec =
      if v30 ≠ unset then v30 else if v21 ≠ unset then v21 else v20 := by
  have h3 : 3 ≤ vspec.major.toNat := h
  unfold versionSpecific
  simp only [h3, true_or, and_true, if_true]
  by_cases h30 : v30 = unset <;> by_cases h21 : v21 = unset <;> simp [h30, h21]

theorem versionSpecific_v22 (h : VersionMember.v22.NotLater vspec) :
    versionSpecific unset v20 v21 v30 v22 vspec =
      if v22 ≠ unset then v22 else if v21 ≠ unset then v21 else v20 := by
  obtain ⟨hmajor, hminor⟩ := h
  have h1 : 1 ≤ vspec.minor.toNat := by omega
  unfold versionSpecific
  simp only [hmajor, hminor, h1, and_self, or_true, and_true, if_true]
  by_cases h22 : v22 = unset <;> by_cases h21 : v21 = unset <;> simp [h22, h21]

theorem versionSpecific_v21 (h : VersionMember.v21.NotLater vspec) (h30 : ¬ VersionMember.v30.NotLater vspec)
    (h22 : ¬ VersionMember.v22.NotLater vspec) :
    versionSpecific unset v20 v21 v30 v22 vspec = if v21 ≠ unset then v21 else v20 := by
  have h3 : ¬ 3 ≤ vspec.major.toNat := h30
  have h2 : ¬ (vspec.major.toNat = 2 ∧ 2 ≤ vspec.minor.toNat) := h22
  have h1 : 3 ≤ vspec.major.toNat ∨ vspec.major.toNat = 2 ∧ 1 ≤ vspec.minor.toNat := h
  have hinner : (if unset = unset ∧
      (3 ≤ vspec.major.toNat ∨ vspec.major.toNat = 2 ∧ 1 ≤ vspec.minor.toNat) then v21 else unset) = v21 :=
    if_pos ⟨rfl, h1⟩
  unfold versionSpecific
  rw [if_neg h3, if_neg h2]
  dsimp only
  rw [hinner, ite_not]

theorem versionSpecific_v20 (h : ¬ VersionMember.v21.NotLater vspec) :
    versionSpecific unset v20 v21 v30 v22 vspec = v20 := by
  have h1 : ¬ (3 ≤ vspec.major.toNat ∨ vspec.major.toNat = 2 ∧ 1 ≤ vspec.minor.toNat) := h
  have h3 : ¬ 3 ≤ vspec.major.toNat := fun h3 => h1 (.inl h3)
  have h2 : ¬ (vspec.major.toNat = 2 ∧ 2 ≤ vspec.minor.toNat) := by omega
  have hinner : (if unset = unset ∧
      (3 ≤ vspec.major.toNat ∨ vspec.major.toNat = 2 ∧ 1 ≤ vspec.minor.toNat) then v21 else unset) = unset :=
    if_neg fun hboth => h1 hboth.2
  unfold versionSpecific
  rw [if_neg h3, if_neg h2]
  dsimp only
  rw [hinner, if_pos rfl]

theorem versionSpecific_of_latest {val : VersionMember → α} {m : VersionMember}
    (h : Latest vspec (fun m => val m ≠ unset) m) :
    versionSpecific unset (val .v20) (val .v21) (val .v30) (val .v22) vspec = val m := by
  cases m with
  | v30 => rw [versionSpecific_v30 h.notLater, if_pos h.has]
  | v22 => rw [versionSpecific_v22 h.notLater, if_pos h.has]
  | v21 =>
    by_cases h30 : VersionMember.v30.NotLater vspec
    · rw [versionSpecific_v30 h30, h.eq_unset h30 (by decide), if_neg (not_not_intro rfl), if_pos h.has]
    by_cases h22 : VersionMember.v22.NotLater vspec
    · rw [versionSpecific_v22 h22, h.eq_unset h22 (by decide), if_neg (not_not_intro rfl), if_pos h.has]
    rw [versionSpecific_v21 h.notLater h30 h22, if_pos h.has]
  | v20 =>
    by_cases h21 : VersionMember.v21.NotLater vspec
    · have hv21 : val .v21 = unset := h.eq_unset h21 (by decide)
      by_cases h30 : VersionMember.v30.NotLater vspec
      · rw [versionSpecific_v30 h30, h.eq_unset h30 (by decide), hv21, if_neg (not_not_intro rfl),
          if_neg (not_not_intro rfl)]
      by_cases h22 : VersionMember.v22.NotLater vspec
      · rw [versionSpecific_v22 h22, h.eq_unset h22 (by decide), hv21, if_neg (not_not_intro rfl),
          if_neg (not_not_intro rfl)]
      rw [versionSpecific_v21 h21 h30 h22, hv21, if_neg (not_not_intro rfl)]
    · exact versionSpecific_v20 h21

theorem versionSensitive_of_latest {val : VersionMember → α} {m : VersionMember}
    (h : Latest vspec (fun m => val m ≠ unset) m) :
    versionSensitive unset (val .v20) (val .v21) (val .v30) (val .v22) vspec = val m := by
  rw [versionSensitive, versionSpecific_of_latest h, if_neg h.has]

theorem versionSensitive_ne_unset (h : v20 ≠ unset ∨ v21 ≠ unset ∨ v30 ≠ unset ∨ v22 ≠ unset) :
    versionSensitive unset v20 v21 v30 v22 vspec ≠ unset := by
  unfold versionSensitive
  split
  · rename_i hnone
    have h20 : v20 = unset := by
      unfold versionSpecific at hnone
      dsimp only at hnone
      split_ifs at hnone <;> simp_all
    unfold scanUp
    split
    · assumption
    split
    · assumption
    · simp_all
  · assumption

end

/-! ## Value tables -/

theorem slValues_v22 (vfte : VcpFeatureTableEntry) {vspec : VersionSpec} (h : VersionMember.v22.NotLater vspec) :
    getVersionSpecificSlValues vfte vspec =
      if vfte.v22SlValues = none then vfte.defaultSlValues else vfte.v22SlValues := by
  have h2 : vspec.major.toNat = 2 ∧ 2 ≤ vspec.minor.toNat := h
  have h3 : ¬ 3 ≤ vspec.major.toNat := by omega
  have h1 : ¬ (3 ≤ vspec.major.toNat ∨ vspec.major.toNat = 2 ∧ vspec.minor.toNat = 1) := by omega
  have hinner : (if vfte.v22SlValues = none ∧
      (3 ≤ vspec.major.toNat ∨ vspec.major.toNat = 2 ∧ vspec.minor.toNat = 1) then vfte.v21SlValues
      else vfte.v22SlValues) = vfte.v22SlValues := if_neg fun hboth => h1 hboth.2
  unfold getVersionSpecificSlValues
  rw [if_neg h3, if_pos h2]
  dsimp only
  rw [hinner]

theorem slValues_eq_versionSpecific {vfte : VcpFeatureTableEntry} {vspec : VersionSpec}
    (h : ¬ VersionMember.v22.NotLater vspec) :
    getVersionSpecificSlValues vfte vspec =
      versionSpecific none vfte.defaultSlValues vfte.v21SlValues vfte.v30SlValues vfte.v22SlValues vspec := by
  have h2 : ¬ (vspec.major.toNat = 2 ∧ 2 ≤ vspec.minor.toNat) := h
  have hsame : (3 ≤ vspec.major.toNat ∨ vspec.major.toNat = 2 ∧ vspec.minor.toNat = 1) =
      (3 ≤ vspec.major.toNat ∨ vspec.major.toNat = 2 ∧ 1 ≤ vspec.minor.toNat) := by
    apply propext
    omega
  unfold getVersionSpecificSlValues versionSpecific
  simp only [hsame]

def slValuesFound (vfte : VcpFeatureTableEntry) (vspec : VersionSpec) (versionSensitive : Bool) :
    Option (List FeatureValueEntry) :=
  if versionSensitive = true then getVersionSensitiveSlValues vfte vspec else getVersionSpecificSlValues vfte vspec

theorem slValuesFound_of_specific {vfte : VcpFeatureTableEntry} {vspec : VersionSpec} {versionSensitive : Bool}
    {table : Option (List FeatureValueEntry)} (h : getVersionSpecificSlValues vfte vspec = table)
    (hsome : table ≠ none) : slValuesFound vfte vspec versionSensitive = table := by
  rw [slValuesFound, getVersionSensitiveSlValues, h, if_neg hsome, ite_self]

theorem slValuesFor_latest {vfte : VcpFeatureTableEntry} {vspec : VersionSpec} {versionSensitive : Bool}
    (hskips : ¬ SkipsV21 vfte vspec versionSensitive) {m : VersionMember}
    (h : Latest vspec (fun m => vfte.slValuesFor m ≠ none) m) :
    slValuesFound vfte vspec versionSensitive = vfte.slValuesFor m := by
  by_cases h22 : VersionMember.v22.NotLater vspec
  · have hfound := slValues_v22 vfte h22
    cases m with
    | v30 =>
      have h3 : 3 ≤ vspec.major.toNat := h.notLater
      have h2 := h22.1
      omega
    | v22 =>
      have hsome : vfte.v22SlValues ≠ none := h.has
      rw [if_neg hsome] at hfound; exact slValuesFound_of_specific hfound hsome
    | v21 =>
      have hsome : vfte.v21SlValues ≠ none := h.has
      have hnone : vfte.v22SlValues = none := h.eq_unset h22 (by decide)
      rw [if_pos hnone] at hfound
      by_cases hdefault : vfte.defaultSlValues = vfte.v21SlValues
      · rw [hdefault] at hfound; exact slValuesFound_of_specific hfound hsome
      · have hscan : vfte.defaultSlValues = none ∧ versionSensitive = true := by
          by_contra hnot
          exact hskips ⟨h22, hnone, hsome, hdefault, fun hd => Bool.eq_false_iff.2 fun hs => hnot ⟨hd, hs⟩⟩
        unfold slValuesFound getVersionSensitiveSlValues scanUp
        rw [if_pos hscan.2, hfound, if_pos hscan.1, if_pos hsome]; rfl
    | v20 =>
      have hnone : vfte.v22SlValues = none := h.eq_unset h22 (by decide)
      rw [if_pos hnone] at hfound; exact slValuesFound_of_specific hfound h.has
  · refine slValuesFound_of_specific ?_ h.has
    rw [slValues_eq_versionSpecific h22]; exact versionSpecific_of_latest h

theorem skipsV21_latest {vfte : VcpFeatureTableEntry} {vspec : VersionSpec} {versionSensitive : Bool}
    (h : SkipsV21 vfte vspec versionSensitive) : Latest vspec (fun m => vfte.slValuesFor m ≠ none) .v21 where
  notLater := .inr ⟨h.1.1, Nat.le_of_succ_le h.1.2⟩
  has := h.2.2.1
  latest := by
    intro m' hm' hdefined
    cases m' with
    | v30 =>
      have h3 : 3 ≤ vspec.major.toNat := hm'
      have h2 := h.1.1
      omega
    | v22 => exact absurd h.2.1 hdefined
    | v21 | v20 => decide

theorem slValuesFound_of_skipsV21 {vfte : VcpFeatureTableEntry} {vspec : VersionSpec} {versionSensitive : Bool}
    (h : SkipsV21 vfte vspec versionSensitive) : slValuesFound vfte vspec versionSensitive ≠ vfte.v21SlValues := by
  obtain ⟨h22, hnone, -, hdefault, hspecific⟩ := h
  have hfound := slValues_v22 vfte h22
  rw [if_pos hnone] at hfound
  by_cases hd : vfte.defaultSlValues = none
  · rw [slValuesFound, hspecific hd, if_neg Bool.false_ne_true, hfound]; exact hdefault
  · rw [slValuesFound_of_specific hfound hd]; exact hdefault

/-! ## The metadata -/

theorem versionSensitiveFlags_ne_zero {vfte : VcpFeatureTableEntry} (h : ∃ m, vfte.flagsFor m ≠ 0)
    (vspec : VersionSpec) : versionSensitiveFlags vfte vspec ≠ 0 := by
  apply versionSensitive_ne_unset
  obtain ⟨m, hm⟩ := h
  cases m with
  | v20 => exact .inl hm
  | v21 => exact .inr (.inl hm)
  | v30 => exact .inr (.inr (.inl hm))
  | v22 => exact .inr (.inr (.inr hm))

theorem getVersionSensitiveFeatureFlags_eq {vfte : VcpFeatureTableEntry} (h : ∃ m, vfte.flagsFor m ≠ 0)
    (vspec : VersionSpec) : getVersionSensitiveFeatureFlags vfte vspec = .ok (versionSensitiveFlags vfte vspec) := by
  rw [getVersionSensitiveFeatureFlags, check_pos (versionSensitiveFlags_ne_zero h vspec), Exec.ok_bind]

theorem extract_eq_ok {vfte : VcpFeatureTableEntry} (vspec : VersionSpec) (sensitive : Bool)
    (h : ∃ m, vfte.flagsFor m ≠ 0) :
    ∃ dfm, extractVersionFeatureInfoFromFeatureTableEntry vfte vspec sensitive = .ok dfm ∧
      dfm.versionFeatureFlags =
        (if sensitive = true then versionSensitiveFlags vfte vspec else getVersionSpecificFeatureFlags vfte vspec) ∧
      dfm.featureName = (if sensitive = true then getVersionSensitiveFeatureName vfte vspec
        else getVersionSpecificFeatureName vfte vspec) ∧
      dfm.slValues = slValuesFound vfte vspec sensitive ∧ dfm.featureDesc = none := by
  unfold extractVersionFeatureInfoFromFeatureTableEntry
  cases sensitive with
  | false => exact ⟨_, rfl, rfl, rfl, rfl, rfl⟩
  | true =>
    simp only [if_true, getVersionSensitiveFeatureFlags_eq h, Exec.ok_bind]
    exact ⟨_, rfl, rfl, rfl, rfl, rfl⟩

theorem flags_of_mem_vcpCodeTable {vfte : VcpFeatureTableEntry} (h : vfte ∈ vcpCodeTable) : ∃ m, vfte.flagsFor m ≠ 0 := by
  have hall : vcpCodeTable.all (fun e => e.v20Flags != 0 || e.v21Flags != 0 || e.v30Flags != 0 || e.v22Flags != 0) =
      true := by decide +kernel
  have hvfte := List.all_eq_true.1 hall vfte h
  simp only [Bool.or_eq_true, bne_iff_ne, ne_eq] at hvfte
  rcases hvfte with ((h20 | h21) | h30) | h22
  · exact ⟨.v20, h20⟩
  · exact ⟨.v21, h21⟩
  · exact ⟨.v30, h30⟩
  · exact ⟨.v22, h22⟩

theorem mem_of_vcpFindFeatureByHexid {id : Byte} {vfte : VcpFeatureTableEntry}
    (h : vcpFindFeatureByHexid id = some vfte) : vfte ∈ vcpCodeTable ∧ vfte.code = id := by
  have hcode : (vfte.code == id) = true :=
    List.find?_some (p := fun entry : VcpFeatureTableEntry => entry.code == id) (l := vcpCodeTable) h
  exact ⟨List.mem_of_find?_eq_some h, beq_iff_eq.1 hcode⟩

theorem findFeatureValueTable_eq_ok (featureCode : Byte) (vcpVersion : VersionSpec) :
    ∃ table, findFeatureValueTable featureCode vcpVersion = .ok table := by
  unfold findFeatureValueTable
  cases hfind : vcpFindFeatureByHexid featureCode with
  | none => exact ⟨_, rfl⟩
  | some pentry =>
    have hflags := flags_of_mem_vcpCodeTable (mem_of_vcpFindFeatureByHexid hfind).1
    simp only [getVersionSensitiveFeatureFlags_eq hflags, Exec.ok_bind]
    split
    · exact ⟨_, rfl⟩
    · exact ⟨_, rfl⟩

theorem findFeatureValuesForCapabilities_eq_ok (featureCode : Byte) (vcpVersion : VersionSpec) :
    ∃ table, findFeatureValuesForCapabilities featureCode vcpVersion = .ok table := by
  unfold findFeatureValuesForCapabilities
  split
  · split
    · exact ⟨_, rfl⟩
    · exact ⟨_, rfl⟩
  · exact findFeatureValueTable_eq_ok featureCode vcpVersion

/-- **The metadata are from the latest version, with the entry's description, exactly where** the entry has no
description and the table for 2.1 is not skipped. -/
theorem fromLatest_iff (vfte : VcpFeatureTableEntry) (vspec : VersionSpec) (sensitive : Bool)
    (h : ∃ m, vfte.flagsFor m ≠ 0) :
    (∃ dfm, extractVersionFeatureInfoFromFeatureTableEntry vfte vspec sensitive = .ok dfm ∧
      FromLatest vfte vspec dfm) ↔ vfte.desc = none ∧ ¬ SkipsV21 vfte vspec sensitive := by
  obtain ⟨dfm, hdfm, hflags, hname, hslValues, hdesc⟩ := extract_eq_ok vspec sensitive h
  constructor
  · rintro ⟨dfm', hdfm', hlatest⟩
    cases hdfm.symm.trans hdfm'
    refine ⟨hlatest.desc.symm.trans hdesc, fun hskips => ?_⟩
    have hv21 := hlatest.slValues .v21 (skipsV21_latest hskips)
    rw [hslValues] at hv21; exact slValuesFound_of_skipsV21 hskips hv21
  · rintro ⟨hnone, hskips⟩
    refine ⟨dfm, hdfm, ⟨fun m hm => ?_, fun m hm => ?_, fun m hm => ?_, hdesc.trans hnone.symm⟩⟩
    · rw [hflags]
      have hspecific : getVersionSpecificFeatureFlags vfte vspec = vfte.flagsFor m := versionSpecific_of_latest hm
      have hsensitive : versionSensitiveFlags vfte vspec = vfte.flagsFor m := versionSensitive_of_latest hm
      rw [hspecific, hsensitive, ite_self]
    · rw [hname]
      have hspecific : getVersionSpecificFeatureName vfte vspec = vfte.nameFor m := versionSpecific_of_latest hm
      have hsensitive : getVersionSensitiveFeatureName vfte vspec = vfte.nameFor m := versionSensitive_of_latest hm
      rw [hspecific, hsensitive, ite_self]
    · rw [hslValues]; exact slValuesFor_latest hskips hm

/-- A version of an entry without a description that has one attribute of each kind, for 2.0: a 3.1 display uses them. -/
theorem fromLatest_iff_v31 :
    (∃ dfm, extractVersionFeatureInfoFromFeatureTableEntry
        { code := 0xf0, v20Name := some (ascii "Mode"), v20Flags := ddcaRw ||| ddcaSimpleNc } ⟨3, 1⟩ true = .ok dfm ∧
      FromLatest { code := 0xf0, v20Name := some (ascii "Mode"), v20Flags := ddcaRw ||| ddcaSimpleNc } ⟨3, 1⟩ dfm) :=
  (fromLatest_iff _ ⟨3, 1⟩ true ⟨.v20, by decide⟩).2 ⟨rfl, fun h => absurd h.1 (by decide)⟩

/-- The display technology type of a 2.2 display is read with the value table for 2.0, and no entry's description is
carried over. -/
theorem xb6_not_fromLatest : ∃ vfte, vcpFindFeatureByHexid 0xb6 = some vfte ∧ vfte.desc ≠ none ∧
    (∃ m, vfte.flagsFor m ≠ 0) ∧ vfte.v21SlValues = some xb6DisplayTechnologyTypeValues ∧
    (∃ dfm, extractVersionFeatureInfoFromFeatureTableEntry vfte ⟨2, 2⟩ true = .ok dfm ∧
      dfm.featureDesc = none ∧ dfm.slValues = some xb6V20DisplayTechnologyTypeValues) ∧
    ¬ ∃ dfm, extractVersionFeatureInfoFromFeatureTableEntry vfte ⟨2, 2⟩ true = .ok dfm ∧ FromLatest vfte ⟨2, 2⟩ dfm := by
  refine ⟨_, rfl, Option.some_ne_none _, ⟨.v20, by decide⟩, rfl, ⟨_, rfl, rfl, rfl⟩, ?_⟩
  rintro ⟨dfm, hdfm, hlatest⟩
  cases hdfm
  cases hlatest.desc

end Ddc
