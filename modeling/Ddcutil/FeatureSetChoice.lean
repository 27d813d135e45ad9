import Ddcutil.FeatureList
/-!
# FeatureSetChoice — which features a set ought to have

The documentation of the flags says which features of a subset are shown.  The filters of `dyn_feature_set.c` differ
from it in three places, and the metadata that they look at are for version 0.0.
-/
namespace Ddc

open Kit List Exec

/-! ## What the documentation says -/

/-- The access that the flags ask for: of `FSF_RW_ONLY` and `FSF_RO_ONLY` together, `FSF_READABLE_ONLY`, that a feature can be
read. -/
def accessWanted (featureSetFlags : FeatureSetFlags) (featureFlags : DdcaFeatureFlags) : Bool :=
  (if featureSetFlags &&& fsfRwOnly ≠ 0 ∧ featureSetFlags &&& fsfRoOnly ≠ 0 then featureFlags &&& ddcaReadable ≠ 0
    else (featureSetFlags &&& fsfRwOnly == 0 || featureFlags &&& ddcaRw != 0) &&
      (featureSetFlags &&& fsfRoOnly == 0 || featureFlags &&& ddcaRo != 0)) &&
    (featureSetFlags &&& fsfWoOnly == 0 || featureFlags &&& ddcaWo != 0)

def ignoresNotable (subsetId : VcpFeatureSubset) : Prop := subsetId = vcpSubsetTable ∨ subsetId = vcpSubsetLut

instance (subsetId : VcpFeatureSubset) : Decidable (ignoresNotable subsetId) := inferInstanceAs (Decidable (_ ∨ _))

def featureWanted (subsetId : VcpFeatureSubset) (featureSetFlags : FeatureSetFlags) (dfm : DisplayFeatureMetadata) : Bool :=
  if subsetId = vcpSubsetUdf then
    !tableExcluded featureSetFlags dfm.versionFeatureFlags && accessWanted featureSetFlags dfm.versionFeatureFlags
  else if subsetId = vcpSubsetScan ∨ subsetId = vcpSubsetMfg then scanShown featureSetFlags dfm
  else
    inSubset subsetId dfm.vcpSpecGroups dfm.versionFeatureFlags dfm.vcpSubsets &&
      (decide (ignoresNotable subsetId) || !tableExcluded featureSetFlags dfm.versionFeatureFlags) &&
        accessWanted featureSetFlags dfm.versionFeatureFlags

def featureShown (subsetId : VcpFeatureSubset) (featureSetFlags : FeatureSetFlags) (dfm : DisplayFeatureMetadata) : Bool :=
  if subsetId = vcpSubsetUdf then udfShown featureSetFlags dfm.versionFeatureFlags
  else if subsetId = vcpSubsetScan ∨ subsetId = vcpSubsetMfg then scanShown featureSetFlags dfm
  else subsetShown subsetId featureSetFlags dfm

/-- **The metadata that are looked at** for a code, for a version: those of a user defined feature are without one. -/
def consideredMetadata (subsetId : VcpFeatureSubset) (dref : Option MetadataDref) (featureSetFlags : FeatureSetFlags)
    (vspec : VersionSpec) (featureCode : Byte) : Option DisplayFeatureMetadata :=
  if subsetId = vcpSubsetUdf then
    (dynGetDynamicFeatureMetadata (checkedDfrOf dref (featureSetFlags &&& fsfCheckUdf != 0)) featureCode).bind fun m =>
      (dynCreateDynamicFeatureFromDfrMetadata m).toOption
  else if subsetId = vcpSubsetScan ∨ subsetId = vcpSubsetMfg then
    if featureCode ∈ codesFrom (if subsetId = vcpSubsetMfg then 0xe0 else 1) then
      foundMetadata featureCode (checkedDfrOf dref (featureSetFlags &&& fsfCheckUdf != 0)) vspec true
    else none
  else foundMetadata featureCode (checkedDfrOf dref (featureSetFlags &&& fsfCheckUdf != 0)) vspec false

def displayVersion (a : VersionAnswers) : Option MetadataDref → VersionSpec
  | none => vspecUnknown
  | some dref => chosenVersion a dref.version

def Wanted (subsetId : VcpFeatureSubset) (dref : Option MetadataDref) (featureSetFlags : FeatureSetFlags)
    (vspec : VersionSpec) (featureCode : Byte) : Prop :=
  ∃ dfm, consideredMetadata subsetId dref featureSetFlags vspec featureCode = some dfm ∧
    featureWanted subsetId featureSetFlags dfm = true

def AsTable (a : VersionAnswers) (subsetId : VcpFeatureSubset) (dref : Option MetadataDref)
    (featureSetFlags : FeatureSetFlags) (members : List DisplayFeatureMetadata) : Prop :=
  ∀ codes, createVcpFeatureSet subsetId (displayVersion a dref) featureSetFlags = .ok codes →
    ∀ featureCode, (∃ dfm ∈ members, dfm.featureCode = featureCode) ↔ featureCode ∈ codes

/-- There are no user defined features, and the subset is one that `create_vcp_feature_set` selects by the same loop. -/
def ComparesTable (subsetId : VcpFeatureSubset) (dref : Option MetadataDref) : Prop :=
  dref.bind MetadataDref.dfr = none ∧ subsetId ≠ vcpSubsetScan ∧ subsetId ≠ vcpSubsetMfg ∧ subsetId ≠ vcpSubsetUdf

/-- **A set is right**: it has exactly the features that it ought to have for the version of the display, each once, and
without user defined features those of the table. -/
def FeatureSetRight (a : VersionAnswers) (subsetId : VcpFeatureSubset) (dref : Option MetadataDref)
    (featureSetFlags : FeatureSetFlags) : Prop :=
  ∃ members after, dynCreateFeatureSet a subsetId dref featureSetFlags = .ok (members, after) ∧
    (members.map DisplayFeatureMetadata.featureCode).Nodup ∧
    (∀ featureCode, (∃ dfm ∈ members, dfm.featureCode = featureCode) ↔
      Wanted subsetId dref featureSetFlags (displayVersion a dref) featureCode) ∧
    (ComparesTable subsetId dref → AsTable a subsetId dref featureSetFlags members)

/-! ## Where the filters differ from it -/

/-- **The access that is shown differs**: a feature that is only read, where readable ones are asked for, and one that is not
only written, where that is asked for as well. -/
def AccessSlips (featureSetFlags : FeatureSetFlags) (featureFlags : DdcaFeatureFlags) : Prop :=
  (featureSetFlags &&& fsfRwOnly ≠ 0 ∧ featureSetFlags &&& fsfRoOnly ≠ 0 ∧ featureFlags &&& ddcaRo ≠ 0 ∧
      featureFlags &&& ddcaRw = 0 ∧ (featureSetFlags &&& fsfWoOnly ≠ 0 → featureFlags &&& ddcaWo ≠ 0)) ∨
    (featureSetFlags &&& fsfWoOnly ≠ 0 ∧ featureFlags &&& ddcaWo = 0 ∧
      (featureSetFlags &&& fsfRwOnly ≠ 0 ∧ featureFlags &&& ddcaRw ≠ 0 ∨
        featureSetFlags &&& fsfRwOnly = 0 ∧ featureSetFlags &&& fsfRoOnly ≠ 0 ∧ featureFlags &&& ddcaRo ≠ 0))

/-- The same of a user defined feature: readable ones are asked for, and it is not both read and written and only read. -/
def UdfSlips (featureSetFlags : FeatureSetFlags) (featureFlags : DdcaFeatureFlags) : Prop :=
  featureSetFlags &&& fsfRwOnly ≠ 0 ∧ featureSetFlags &&& fsfRoOnly ≠ 0 ∧ featureFlags &&& ddcaReadable ≠ 0 ∧
    (featureFlags &&& ddcaRw = 0 ∨ featureFlags &&& ddcaRo = 0) ∧
    (featureSetFlags &&& fsfWoOnly ≠ 0 → featureFlags &&& ddcaWo ≠ 0)

/-- **The filter differs for a feature**: a table feature is dropped where `FSF_NOTABLE` is to be ignored, or the access that
is shown differs. -/
def FilterSlips (subsetId : VcpFeatureSubset) (featureSetFlags : FeatureSetFlags) (dfm : DisplayFeatureMetadata) : Prop :=
  if subsetId = vcpSubsetUdf then
    tableExcluded featureSetFlags dfm.versionFeatureFlags = false ∧ UdfSlips featureSetFlags dfm.versionFeatureFlags
  else if subsetId = vcpSubsetScan ∨ subsetId = vcpSubsetMfg then False
  else
    inSubset subsetId dfm.vcpSpecGroups dfm.versionFeatureFlags dfm.vcpSubsets = true ∧
      (tableExcluded featureSetFlags dfm.versionFeatureFlags = true ∧ ignoresNotable subsetId ∧
          accessWanted featureSetFlags dfm.versionFeatureFlags = true ∨
        tableExcluded featureSetFlags dfm.versionFeatureFlags = false ∧
          AccessSlips featureSetFlags dfm.versionFeatureFlags)

def SlipsAt (subsetId : VcpFeatureSubset) (dref : Option MetadataDref) (featureSetFlags : FeatureSetFlags)
    (featureCode : Byte) : Prop :=
  ∃ dfm, consideredMetadata subsetId dref featureSetFlags vspecUnknown featureCode = some dfm ∧
    FilterSlips subsetId featureSetFlags dfm

/-- The version matters for a code: by the metadata for 0.0 it ought to be in the set, by those for the version of the
display not, or the other way. -/
def VersionMatters (a : VersionAnswers) (subsetId : VcpFeatureSubset) (dref : Option MetadataDref)
    (featureSetFlags : FeatureSetFlags) (featureCode : Byte) : Prop :=
  ¬ (Wanted subsetId dref featureSetFlags vspecUnknown featureCode ↔
    Wanted subsetId dref featureSetFlags (displayVersion a dref) featureCode)

def shownInVersion (subsetId : VcpFeatureSubset) (featureSetFlags : FeatureSetFlags) (vfte : VcpFeatureTableEntry)
    (vspec : VersionSpec) : Bool :=
  testShowFeature subsetId featureSetFlags vfte.vcpSpecGroups (versionSensitiveFlags vfte vspec) vfte.vcpSubsets

/-- **The condition**: the version of the display can be had where it is asked for; the filter differs for a feature exactly
where the version matters as well, so that the two cancel; and without user defined features the filter shows of each entry
of the table the same for 0.0 as for the version of the display. -/
structure FeatureSetGuard (a : VersionAnswers) (subsetId : VcpFeatureSubset) (dref : Option MetadataDref)
    (featureSetFlags : FeatureSetFlags) : Prop where
  version : subsetId ≠ vcpSubsetUdf → VersionHad a dref
  features : ∀ featureCode, SlipsAt subsetId dref featureSetFlags featureCode ↔
    VersionMatters a subsetId dref featureSetFlags featureCode
  table : ComparesTable subsetId dref → subsetId ≠ vcpSubsetNone → subsetId ≠ vcpSubsetSingleFeature →
    ∀ vfte ∈ vcpCodeTable, shownInVersion subsetId featureSetFlags vfte vspecUnknown =
      shownInVersion subsetId featureSetFlags vfte (displayVersion a dref)

/-! ## The filters -/

theorem and_or_eq_zero_byte {a b c : FeatureSetFlags} : a &&& (b ||| c) = 0 ↔ a &&& b = 0 ∧ a &&& c = 0 := by
  rw [show a &&& (b ||| c) = a &&& b ||| a &&& c from UInt8.toBitVec_inj.1 BitVec.and_or_distrib_left, UInt8.or_eq_zero_iff]

variable {subsetId : VcpFeatureSubset} {featureSetFlags : FeatureSetFlags} {featureFlags : DdcaFeatureFlags}
variable {dref : Option MetadataDref} {vfte : VcpFeatureTableEntry}

theorem testShowFeature_eq_true {vcpSpecGroups : UInt16} {vcpSubsets : VcpFeatureSubset} :
    testShowFeature subsetId featureSetFlags vcpSpecGroups featureFlags vcpSubsets = true ↔
      inSubset subsetId vcpSpecGroups featureFlags vcpSubsets = true ∧ tableExcluded featureSetFlags featureFlags = false ∧
      (featureSetFlags &&& fsfRwOnly ≠ 0 → featureFlags &&& ddcaRw ≠ 0) ∧
      (featureSetFlags &&& fsfRwOnly = 0 → featureSetFlags &&& fsfRoOnly ≠ 0 → featureFlags &&& ddcaRo ≠ 0) ∧
      (featureSetFlags &&& fsfRwOnly = 0 → featureSetFlags &&& fsfRoOnly = 0 → featureSetFlags &&& fsfWoOnly ≠ 0 →
        featureFlags &&& ddcaWo ≠ 0) := by
  have hnone : inSubset vcpSubsetNone vcpSpecGroups featureFlags vcpSubsets = false := rfl
  have hsingle : inSubset vcpSubsetSingleFeature vcpSpecGroups featureFlags vcpSubsets = false := rfl
  have hreadable : featureFlags &&& ddcaReadable = 0 ↔ featureFlags &&& ddcaRo = 0 ∧ featureFlags &&& ddcaRw = 0 :=
    and_or_eq_zero
  have honly : featureSetFlags &&& fsfReadableOnly = 0 ↔
    featureSetFlags &&& fsfRwOnly = 0 ∧ featureSetFlags &&& fsfRoOnly = 0 := and_or_eq_zero_byte
  have hany : featureSetFlags &&& (fsfRwOnly ||| fsfRoOnly ||| fsfWoOnly) = 0 ↔
      (featureSetFlags &&& fsfRwOnly = 0 ∧ featureSetFlags &&& fsfRoOnly = 0) ∧ featureSetFlags &&& fsfWoOnly = 0 := by
    rw [and_or_eq_zero_byte, and_or_eq_zero_byte]
  unfold testShowFeature accessShown
  cases hin : inSubset subsetId vcpSpecGroups featureFlags vcpSubsets with
  | false => simp
  | true =>
    have hsubset : subsetId ≠ vcpSubsetSingleFeature ∧ subsetId ≠ vcpSubsetNone := by
      constructor
      · rintro rfl
        exact absurd (hsingle.symm.trans hin) Bool.false_ne_true
      · rintro rfl
        exact absurd (hnone.symm.trans hin) Bool.false_ne_true
    cases tableExcluded featureSetFlags featureFlags with
    | true => simp
    | false =>
      by_cases hrw : featureSetFlags &&& fsfRwOnly = 0 <;> by_cases hro : featureSetFlags &&& fsfRoOnly = 0 <;>
        by_cases hwo : featureSetFlags &&& fsfWoOnly = 0 <;> simp [hrw, hro, hwo, hsubset] <;> grind

theorem udfShown_eq_true :
    udfShown featureSetFlags featureFlags = true ↔ tableExcluded featureSetFlags featureFlags = false ∧
      (featureSetFlags &&& fsfRwOnly ≠ 0 → featureFlags &&& ddcaRw ≠ 0) ∧
      (featureSetFlags &&& fsfRoOnly ≠ 0 → featureFlags &&& ddcaRo ≠ 0) ∧
      (featureSetFlags &&& fsfWoOnly ≠ 0 → featureFlags &&& ddcaWo ≠ 0) := by
  unfold udfShown tableExcluded
  by_cases hrw : featureSetFlags &&& fsfRwOnly = 0 <;> by_cases hro : featureSetFlags &&& fsfRoOnly = 0 <;>
    by_cases hwo : featureSetFlags &&& fsfWoOnly = 0 <;> simp [hrw, hro, hwo] <;> grind

theorem accessWanted_eq_true :
    accessWanted featureSetFlags featureFlags = true ↔
      (featureSetFlags &&& fsfRwOnly ≠ 0 → featureFlags &&& ddcaRw ≠ 0 ∨
        featureSetFlags &&& fsfRoOnly ≠ 0 ∧ featureFlags &&& ddcaRo ≠ 0) ∧
      (featureSetFlags &&& fsfRoOnly ≠ 0 → featureFlags &&& ddcaRo ≠ 0 ∨
        featureSetFlags &&& fsfRwOnly ≠ 0 ∧ featureFlags &&& ddcaRw ≠ 0) ∧
      (featureSetFlags &&& fsfWoOnly ≠ 0 → featureFlags &&& ddcaWo ≠ 0) := by
  have hreadable : featureFlags &&& ddcaReadable = 0 ↔ featureFlags &&& ddcaRo = 0 ∧ featureFlags &&& ddcaRw = 0 :=
    and_or_eq_zero
  unfold accessWanted
  by_cases hrw : featureSetFlags &&& fsfRwOnly = 0 <;> by_cases hro : featureSetFlags &&& fsfRoOnly = 0 <;>
    by_cases hwo : featureSetFlags &&& fsfWoOnly = 0 <;> simp [hrw, hro, hwo, hreadable] <;> grind

theorem shown_iff_wanted (subsetId : VcpFeatureSubset) (featureSetFlags : FeatureSetFlags) (dfm : DisplayFeatureMetadata) :
    (featureShown subsetId featureSetFlags dfm = true ↔ featureWanted subsetId featureSetFlags dfm = true) ↔
      ¬ FilterSlips subsetId featureSetFlags dfm := by
  unfold featureShown featureWanted FilterSlips
  have hreadable : dfm.versionFeatureFlags &&& ddcaReadable = 0 ↔
      dfm.versionFeatureFlags &&& ddcaRo = 0 ∧ dfm.versionFeatureFlags &&& ddcaRw = 0 := and_or_eq_zero
  by_cases hudf : subsetId = vcpSubsetUdf
  · rw [if_pos hudf, if_pos hudf, if_pos hudf, Bool.and_eq_true, udfShown_eq_true, accessWanted_eq_true, Bool.not_eq_true']
    unfold UdfSlips
    grind
  · rw [if_neg hudf, if_neg hudf, if_neg hudf]
    by_cases hscan : subsetId = vcpSubsetScan ∨ subsetId = vcpSubsetMfg
    · rw [if_pos hscan, if_pos hscan, if_pos hscan]; exact iff_of_true .rfl not_false
    · rw [if_neg hscan, if_neg hscan, if_neg hscan, subsetShown, testShowFeature_eq_true, Bool.and_eq_true, Bool.and_eq_true,
        accessWanted_eq_true, Bool.or_eq_true, decide_eq_true_eq, Bool.not_eq_true']
      unfold AccessSlips
      grind

/-! ## Codes -/

theorem mem_codesFrom_zero (featureCode : Byte) : featureCode ∈ codesFrom 0 := by
  rw [codesFrom, mem_map]
  refine ⟨featureCode.toNat, mem_range'_1.2 ⟨Nat.zero_le _, ?_⟩, UInt8.ofNat_toNat⟩
  have hlt := featureCode.toNat_lt
  omega

theorem toOption_eq_some {α : Type} {x : Exec α} {v : α} : x.toOption = some v ↔ x = .ok v := by
  cases x with
  | error e => exact iff_of_false (fun h => by cases h) fun h => by cases h
  | ok w => exact ⟨fun h => congrArg Except.ok (Option.some.inj h), fun h => congrArg some (Except.ok.inj h)⟩

theorem memberOf_iff {featureCode : Byte} {dfm : DisplayFeatureMetadata} :
    memberOf subsetId dref featureSetFlags featureCode dfm ↔
      consideredMetadata subsetId dref featureSetFlags vspecUnknown featureCode = some dfm ∧
        featureShown subsetId featureSetFlags dfm = true := by
  unfold memberOf consideredMetadata featureShown
  by_cases hudf : subsetId = vcpSubsetUdf
  · rw [if_pos hudf, if_pos hudf, if_pos hudf, Option.bind_eq_some_iff]
    constructor
    · rintro ⟨m, hm, hshown, hcreate⟩
      obtain ⟨dfm', hdfm', -, hflags⟩ := dynCreateDynamicFeature_ok (marked_of_dynamic hm)
      cases hdfm'.symm.trans hcreate
      rw [hflags]; exact ⟨⟨m, hm, toOption_eq_some.2 hcreate⟩, hshown⟩
    · rintro ⟨⟨m, hm, hcreate⟩, hshown⟩
      have hcreate := toOption_eq_some.1 hcreate
      obtain ⟨dfm', hdfm', -, hflags⟩ := dynCreateDynamicFeature_ok (marked_of_dynamic hm)
      cases hdfm'.symm.trans hcreate
      rw [hflags] at hshown; exact ⟨m, hm, hshown, hcreate⟩
  · rw [if_neg hudf, if_neg hudf, if_neg hudf]
    by_cases hscan : subsetId = vcpSubsetScan ∨ subsetId = vcpSubsetMfg
    · rw [if_pos hscan, if_pos hscan, if_pos hscan]
      by_cases hcode : featureCode ∈ codesFrom (if subsetId = vcpSubsetMfg then 0xe0 else 1)
      · rw [if_pos hcode, and_iff_right hcode]
      · rw [if_neg hcode]; exact iff_of_false (fun h => hcode h.1) fun h => by cases h.1
    · rw [if_neg hscan, if_neg hscan, if_neg hscan]
      exact and_iff_right (mem_codesFrom_zero featureCode)

def ShownAt (subsetId : VcpFeatureSubset) (dref : Option MetadataDref) (featureSetFlags : FeatureSetFlags)
    (featureCode : Byte) : Prop :=
  ∃ dfm, consideredMetadata subsetId dref featureSetFlags vspecUnknown featureCode = some dfm ∧
    featureShown subsetId featureSetFlags dfm = true

theorem shownAt_iff (subsetId : VcpFeatureSubset) (dref : Option MetadataDref) (featureSetFlags : FeatureSetFlags)
    (featureCode : Byte) :
    (ShownAt subsetId dref featureSetFlags featureCode ↔
      Wanted subsetId dref featureSetFlags vspecUnknown featureCode) ↔
        ¬ SlipsAt subsetId dref featureSetFlags featureCode := by
  unfold ShownAt Wanted SlipsAt
  cases consideredMetadata subsetId dref featureSetFlags vspecUnknown featureCode with
  | none => simp
  | some dfm =>
    have heq : ∀ (P : DisplayFeatureMetadata → Prop), (∃ dfm', some dfm = some dfm' ∧ P dfm') ↔ P dfm := fun P =>
      ⟨fun h => by obtain ⟨_, he, hp⟩ := h; cases he; exact hp, fun h => ⟨dfm, rfl, h⟩⟩
    rw [heq, heq, heq]; exact shown_iff_wanted subsetId featureSetFlags dfm

theorem shownAt_right_iff (a : VersionAnswers) (subsetId : VcpFeatureSubset) (dref : Option MetadataDref)
    (featureSetFlags : FeatureSetFlags) (featureCode : Byte) :
    (ShownAt subsetId dref featureSetFlags featureCode ↔
      Wanted subsetId dref featureSetFlags (displayVersion a dref) featureCode) ↔
        (SlipsAt subsetId dref featureSetFlags featureCode ↔
          VersionMatters a subsetId dref featureSetFlags featureCode) := by
  have hshown := shownAt_iff subsetId dref featureSetFlags featureCode
  unfold VersionMatters
  by_cases hslips : SlipsAt subsetId dref featureSetFlags featureCode
  · have hne : ¬ (ShownAt subsetId dref featureSetFlags featureCode ↔
      Wanted subsetId dref featureSetFlags vspecUnknown featureCode) := fun h => hshown.1 h hslips
    rw [iff_true_left hslips, ← not_iff.1 fun h => hne h.symm]; exact not_iff.symm
  · rw [iff_false_left hslips, not_not, hshown.2 hslips]

/-! ## The set of the table -/

theorem codes_of_vcpCodeTable_nodup : (vcpCodeTable.map VcpFeatureTableEntry.code).Nodup := by
  have hchain : List.IsChain (· < ·) (vcpCodeTable.map fun e => e.code.toNat) := by decide +kernel
  have hnodup : ((vcpCodeTable.map VcpFeatureTableEntry.code).map UInt8.toNat).Nodup := by
    exact (isChain_iff_pairwise.1 hchain).imp Nat.ne_of_lt
  exact hnodup.of_map _

theorem vcpFindFeatureByHexid_of_mem (h : vfte ∈ vcpCodeTable) : vcpFindFeatureByHexid vfte.code = some vfte := by
  cases hfind : vcpFindFeatureByHexid vfte.code with
  | none =>
    have hne := find?_eq_none.1 hfind vfte h
    exact absurd (beq_self_eq_true vfte.code) hne
  | some e =>
    obtain ⟨hmem, hcode⟩ := mem_of_vcpFindFeatureByHexid hfind
    rw [inj_on_of_nodup_map codes_of_vcpCodeTable_nodup hmem h hcode]

theorem foundMetadata_entry {featureCode : Byte} {vspec : VersionSpec} {dfm : DisplayFeatureMetadata} :
    foundMetadata featureCode none vspec false = some dfm ↔ ∃ vfte ∈ vcpCodeTable, vfte.code = featureCode ∧
      entryMetadata vfte vspec = .ok dfm := by
  have hfound := dynMetadata_eq featureCode none vspec false
  unfold dynGetFeatureMetadataByDfrAndVspecDfm at hfound
  have hentry : entryFor featureCode false = vcpFindFeatureByHexid featureCode := rfl
  have hdynamic : dynGetDynamicFeatureMetadata none featureCode = none := rfl
  rw [hdynamic, hentry] at hfound
  cases hfind : vcpFindFeatureByHexid featureCode with
  | none =>
    rw [hfind] at hfound
    rw [← Except.ok.inj hfound]
    refine iff_of_false (fun h => by cases h) ?_
    rintro ⟨vfte, hmem, rfl, -⟩
    rw [vcpFindFeatureByHexid_of_mem hmem] at hfind; cases hfind
  | some e =>
    obtain ⟨hmem, hcode⟩ := mem_of_vcpFindFeatureByHexid hfind
    obtain ⟨dfm', hdfm', -⟩ := entryMetadata_spec (formats_of_mem_vcpCodeTable hmem) vspec
    rw [hfind] at hfound
    dsimp only at hfound
    rw [hdfm', ok_bind] at hfound
    rw [← Except.ok.inj hfound, Option.some_inj]
    constructor
    · rintro rfl
      exact ⟨e, hmem, hcode, hdfm'⟩
    · rintro ⟨vfte, hvfte, hcode', hdfm⟩
      rw [← hcode', vcpFindFeatureByHexid_of_mem hvfte] at hfind
      cases hfind; exact Except.ok.inj (hdfm'.symm.trans hdfm)

theorem shownAt_entry (h : ComparesTable subsetId dref) (featureSetFlags : FeatureSetFlags) (featureCode : Byte) :
    ShownAt subsetId dref featureSetFlags featureCode ↔ ∃ vfte ∈ vcpCodeTable, vfte.code = featureCode ∧
      shownInVersion subsetId featureSetFlags vfte vspecUnknown = true := by
  obtain ⟨hnone, hscan, hmfg, hudf⟩ := h
  have hloop : ¬ (subsetId = vcpSubsetScan ∨ subsetId = vcpSubsetMfg) := fun h => h.elim hscan hmfg
  have hdfr : ∀ checkUdf, checkedDfrOf dref checkUdf = none := by
    intro checkUdf
    cases dref with
    | none => rfl
    | some d =>
      have hd : d.dfr = none := hnone
      show d.checkedDfr checkUdf = none
      rw [MetadataDref.checkedDfr, hd, ite_self]
  unfold ShownAt consideredMetadata featureShown
  simp only [if_neg hudf, if_neg hloop, hdfr]
  have hshown : ∀ {vfte dfm}, vfte ∈ vcpCodeTable → entryMetadata vfte vspecUnknown = .ok dfm →
      subsetShown subsetId featureSetFlags dfm = shownInVersion subsetId featureSetFlags vfte vspecUnknown := by
    intro vfte dfm hmem hdfm
    obtain ⟨dfm', hdfm', -, hflags, -, hgroups, hsubsets⟩ :=
      entryMetadata_spec (formats_of_mem_vcpCodeTable hmem) vspecUnknown
    cases hdfm'.symm.trans hdfm
    rw [subsetShown, shownInVersion, hflags, hgroups, hsubsets]
  constructor
  · rintro ⟨dfm, hfound, hkeep⟩
    obtain ⟨vfte, hmem, hcode, hdfm⟩ := foundMetadata_entry.1 hfound
    rw [hshown hmem hdfm] at hkeep; exact ⟨vfte, hmem, hcode, hkeep⟩
  · rintro ⟨vfte, hmem, hcode, hkeep⟩
    obtain ⟨dfm, hdfm, -⟩ := entryMetadata_spec (formats_of_mem_vcpCodeTable hmem) vspecUnknown
    rw [← hshown hmem hdfm] at hkeep
    exact ⟨dfm, foundMetadata_entry.2 ⟨vfte, hmem, hcode, hdfm⟩, hkeep⟩

theorem entryShown_eq (h : vfte ∈ vcpCodeTable) (subsetId : VcpFeatureSubset) (vspec : VersionSpec)
    (featureSetFlags : FeatureSetFlags) :
    entryShown subsetId vspec featureSetFlags vfte =
      .ok (if shownInVersion subsetId featureSetFlags vfte vspec = true then some vfte.code else none) := by
  rw [entryShown, getVersionSensitiveFeatureFlags_eq (flags_of_mem_vcpCodeTable h), ok_bind]; rfl

/-- **What `create_vcp_feature_set` gives**: the codes of the entries that the filter shows for the version. -/
theorem createVcpFeatureSet_spec (subsetId : VcpFeatureSubset) (vspec : VersionSpec) (featureSetFlags : FeatureSetFlags) :
    (subsetId ≠ vcpSubsetNone → subsetId ≠ vcpSubsetSingleFeature →
      ∃ codes, createVcpFeatureSet subsetId vspec featureSetFlags = .ok codes) ∧
    (∀ codes, createVcpFeatureSet subsetId vspec featureSetFlags = .ok codes →
      (subsetId ≠ vcpSubsetNone ∧ subsetId ≠ vcpSubsetSingleFeature) ∧ ∀ featureCode, featureCode ∈ codes ↔
        ∃ vfte ∈ vcpCodeTable, vfte.code = featureCode ∧ shownInVersion subsetId featureSetFlags vfte vspec = true) := by
  constructor
  · intro hnone hsingle
    have heach : ∀ vfte ∈ vcpCodeTable, ∃ shown, entryShown subsetId vspec featureSetFlags vfte = .ok shown :=
      fun vfte hmem => ⟨_, entryShown_eq hmem subsetId vspec featureSetFlags⟩
    obtain ⟨shown, hshown⟩ := mapM_ok_of_forall heach
    rw [createVcpFeatureSet, check_pos hnone, ok_bind, check_pos hsingle, ok_bind, hshown]; exact ⟨_, rfl⟩
  · intro codes h
    obtain ⟨_, hnone, h⟩ := bind_eq_ok.1 h
    obtain ⟨_, hsingle, h⟩ := bind_eq_ok.1 h
    obtain ⟨shown, hshown, h⟩ := bind_eq_ok.1 h
    cases h
    refine ⟨⟨check_eq_ok.1 hnone, check_eq_ok.1 hsingle⟩, fun featureCode => ?_⟩
    rw [mem_filterMap]
    constructor
    · rintro ⟨code, hmem, rfl⟩
      obtain ⟨vfte, hvfte, hentry⟩ := mem_of_mapM_eq_ok hshown _ hmem
      rw [entryShown_eq hvfte] at hentry
      split at hentry
      · rename_i hkeep; exact ⟨vfte, hvfte, Option.some.inj (Except.ok.inj hentry), hkeep⟩
      · cases hentry
    · rintro ⟨vfte, hvfte, rfl, hkeep⟩
      obtain ⟨code, hmem, hentry⟩ := exists_of_mem_mapM hshown vfte hvfte
      rw [entryShown_eq hvfte, if_pos hkeep] at hentry
      cases hentry; exact ⟨_, hmem, rfl⟩

theorem exists_entry_iff (h : vfte ∈ vcpCodeTable) (P : VcpFeatureTableEntry → Prop) :
    (∃ e ∈ vcpCodeTable, e.code = vfte.code ∧ P e) ↔ P vfte := by
  constructor
  · rintro ⟨e, hmem, hcode, hp⟩
    rw [← inj_on_of_nodup_map codes_of_vcpCodeTable_nodup hmem h hcode]; exact hp
  · exact fun hp => ⟨vfte, h, rfl, hp⟩

theorem asTable_iff {a : VersionAnswers} {members : List DisplayFeatureMetadata} (h : ComparesTable subsetId dref)
    (hmembers : ∀ featureCode, (∃ dfm ∈ members, dfm.featureCode = featureCode) ↔
      ShownAt subsetId dref featureSetFlags featureCode) :
    AsTable a subsetId dref featureSetFlags members ↔
      (subsetId ≠ vcpSubsetNone → subsetId ≠ vcpSubsetSingleFeature →
        ∀ vfte ∈ vcpCodeTable, shownInVersion subsetId featureSetFlags vfte vspecUnknown =
          shownInVersion subsetId featureSetFlags vfte (displayVersion a dref)) := by
  obtain ⟨hreturns, hspec⟩ := createVcpFeatureSet_spec subsetId (displayVersion a dref) featureSetFlags
  constructor
  · intro htable hnone hsingle vfte hvfte
    obtain ⟨codes, hcodes⟩ := hreturns hnone hsingle
    have hcode := htable codes hcodes vfte.code
    rw [hmembers, shownAt_entry h, (hspec codes hcodes).2, exists_entry_iff hvfte, exists_entry_iff hvfte] at hcode
    exact Bool.eq_iff_iff.2 hcode
  · intro hsame codes hcodes featureCode
    obtain ⟨⟨hnone, hsingle⟩, hmem⟩ := hspec codes hcodes
    rw [hmembers, shownAt_entry h, hmem]
    refine exists_congr fun vfte => and_congr_right fun hvfte => ?_
    rw [hsame hnone hsingle vfte hvfte]

/-! ## When a set is right -/

/-- **The features of a display, or of none, are selected right exactly under the condition.** -/
theorem featureSet_right_iff (a : VersionAnswers) (subsetId : VcpFeatureSubset) (dref : Option MetadataDref)
    (featureSetFlags : FeatureSetFlags) :
    FeatureSetRight a subsetId dref featureSetFlags ↔ FeatureSetGuard a subsetId dref featureSetFlags := by
  have hshown : ∀ {members : List DisplayFeatureMetadata},
      (∀ featureCode dfm, dfm ∈ members ∧ dfm.featureCode = featureCode ↔
        memberOf subsetId dref featureSetFlags featureCode dfm) →
      ∀ featureCode, (∃ dfm ∈ members, dfm.featureCode = featureCode) ↔
        ShownAt subsetId dref featureSetFlags featureCode :=
    fun hmem featureCode => exists_congr fun dfm => (hmem featureCode dfm).trans memberOf_iff
  constructor
  · rintro ⟨members, after, hset, -, hwanted, htable⟩
    have hhad : subsetId ≠ vcpSubsetUdf → VersionHad a dref := versionHad_of_created hset
    obtain ⟨members', after', hset', hmem, -⟩ := dynCreateFeatureSet_spec hhad featureSetFlags
    cases hset'.symm.trans hset
    refine ⟨hhad, fun featureCode => ?_, fun hcompares => (asTable_iff hcompares (hshown hmem)).1 (htable hcompares)⟩
    rw [← shownAt_right_iff, ← hshown hmem]; exact hwanted featureCode
  · rintro ⟨hhad, hfeatures, htable⟩
    obtain ⟨members, after, hset, hmem, hnodup⟩ := dynCreateFeatureSet_spec hhad featureSetFlags
    refine ⟨members, after, hset, hnodup, fun featureCode => ?_,
      fun hcompares => (asTable_iff hcompares (hshown hmem)).2 (htable hcompares)⟩
    rw [hshown hmem, shownAt_right_iff]; exact hfeatures featureCode

/-- **The table features of no display, with `FSF_NOTABLE`**: there are none, where the flag ought to be ignored. -/
theorem tableSubset_not_right : ¬ FeatureSetRight busyAnswers vcpSubsetTable none fsfNotable := by
  rintro ⟨members, after, hset, -, hwanted, -⟩
  have hhad : VersionHad busyAnswers none := fun d hd => by cases hd
  obtain ⟨members', after', hset', hmem, -⟩ := dynCreateFeatureSet_spec (fun _ => hhad) fsfNotable
  cases hset'.symm.trans hset
  have hlut : (consideredMetadata vcpSubsetTable none fsfNotable vspecUnknown 0x73).any
      (featureWanted vcpSubsetTable fsfNotable) = true := by decide +kernel
  obtain ⟨dfm, hdfm, hcode⟩ := (hwanted 0x73).2 ((Option.any_eq_true _ _).1 hlut)
  obtain ⟨-, hshown⟩ := memberOf_iff.1 ((hmem 0x73 dfm).1 ⟨hdfm, hcode⟩)
  have hshown : testShowFeature vcpSubsetTable fsfNotable dfm.vcpSpecGroups dfm.versionFeatureFlags dfm.vcpSubsets = true :=
    hshown
  obtain ⟨htable, hexcluded, -⟩ := testShowFeature_eq_true.1 hshown
  have hflags : dfm.versionFeatureFlags &&& ddcaTable ≠ 0 := of_decide_eq_true htable
  unfold tableExcluded at hexcluded
  rw [bne_iff_ne.2 hflags] at hexcluded; cases hexcluded

end Ddc
