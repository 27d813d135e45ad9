import Ddcutil.FeatureMetadataRuns
/-!
# ImplicitType — reading a feature by the type that it has

`ddca_get_any_vcp_value_using_implicit_type` looks the type of a feature up in the table of features; the value that
it reads is formatted by metadata, in which user defined features come first and features of neither kind have a
default.
-/
namespace Ddc

open Kit Exec

inductive VcpValueType where
  | nonTable | table
  deriving DecidableEq

def valueTypeOf (flags : DdcaFeatureFlags) : VcpValueType := if flags &&& ddcaTable ≠ 0 then .table else .nonTable

def getValueType (a : VersionAnswers) (dref : MetadataDref) (featureCode : Byte) :
    Exec (Except Status VcpValueType × MetadataDref) := do
  let asked ← getVcpVersionByDh a dref.version
  match vcpFindFeatureByHexid featureCode with
  | none => .ok (.error ddcrcNotFound, { dref with version := asked.2 })
  | some pentry => do
    let flags ← getVersionSensitiveFeatureFlags pentry asked.1
    .ok (.ok (valueTypeOf flags), { dref with version := asked.2 })

inductive FormatStep where
  | unrecognized | notReadable | wrongType
  | formatted (dfm : DisplayFeatureMetadata)

/-- `ddci_format_any_vcp_value` up to the call of a formatter, of a value of the type given; `definition` is what the
definition file of the model gives now. -/
def formatAnyVcpValueStep (featureCode : Byte) (vspec : VersionSpec) (definition : MarkedRec) (valueType : VcpValueType) :
    Exec FormatStep := do
  let found ← dynGetFeatureMetadataByDfrAndVspecDfm featureCode (some definition) vspec true
  match found with
  | none => .ok .unrecognized
  | some dfm =>
    .ok (if dfm.versionFeatureFlags &&& ddcaReadable = 0 then .notReadable
      else if valueTypeOf dfm.versionFeatureFlags ≠ valueType then .wrongType
      else .formatted dfm)

def ddcaFormatAnyByDref (a : VersionAnswers) (dref : MetadataDref) (definition : MarkedRec) (featureCode : Byte)
    (valueType : VcpValueType) : Exec FormatStep := do
  let asked ← getVcpVersionByDref a dref.version
  formatAnyVcpValueStep featureCode asked.1 definition valueType

/-- **A feature is read by the type that it has**: there is a type to read it by, it is that of the metadata of the handle,
and a value so read is formatted then without being rejected for its type. -/
def ImplicitTypeRight (a : VersionAnswers) (dref : MetadataDref) (definition : MarkedRec) (featureCode : Byte) : Prop :=
  ∃ valueType after dfm byDh step, getValueType a dref featureCode = .ok (.ok valueType, after) ∧
    dynGetFeatureMetadataByDh a featureCode dref true true = .ok (some dfm, byDh) ∧
    valueType = valueTypeOf dfm.versionFeatureFlags ∧
    ddcaFormatAnyByDref a after definition featureCode valueType = .ok step ∧ step ≠ .wrongType

/-- **The condition**: the version can be had, the feature is in the table, and the user defined features, those loaded and
those of the file, leave it the type that it has there. -/
structure ImplicitTypeGuard (a : VersionAnswers) (dref : MetadataDref) (definition : MarkedRec) (featureCode : Byte) :
    Prop where
  version : versionOfHandle a dref.version ≠ vspecUnqueried
  known : ∃ pentry, vcpFindFeatureByHexid featureCode = some pentry ∧
    (∀ m, dynGetDynamicFeatureMetadata dref.dfr featureCode = some m →
      valueTypeOf m.versionFeatureFlags =
        valueTypeOf (versionSensitiveFlags pentry (versionOfHandle a dref.version))) ∧
    (∀ m, definition.1.features.lookup featureCode = some m → m.versionFeatureFlags &&& ddcaReadable ≠ 0 →
      valueTypeOf m.versionFeatureFlags =
        valueTypeOf (versionSensitiveFlags pentry (versionOfHandle a dref.version)))

/-! ## The two look-ups -/

variable {featureCode : Byte} {pentry : VcpFeatureTableEntry} {a : VersionAnswers} {valueType : VcpValueType}

theorem getVersionSensitiveFeatureFlags_ok (h : vcpFindFeatureByHexid featureCode = some pentry) (vspec : VersionSpec) :
    getVersionSensitiveFeatureFlags pentry vspec = .ok (versionSensitiveFlags pentry vspec) :=
  getVersionSensitiveFeatureFlags_eq (flags_of_mem_vcpCodeTable (mem_of_vcpFindFeatureByHexid h).1) vspec

theorem getValueType_eq (dref : MetadataDref) (h : versionOfHandle a dref.version ≠ vspecUnqueried)
    (hfind : vcpFindFeatureByHexid featureCode = some pentry) :
    ∃ version, getSavedVcpVersion version.dref = versionOfHandle a dref.version ∧
      getValueType a dref featureCode =
        .ok (.ok (valueTypeOf (versionSensitiveFlags pentry (versionOfHandle a dref.version))), { dref with version }) := by
  obtain ⟨version, hget, hsaved⟩ := getVcpVersionByDh_eq_ok h
  refine ⟨version, hsaved, ?_⟩
  rw [getValueType, hget, ok_bind, hfind]
  dsimp only
  rw [getVersionSensitiveFeatureFlags_ok hfind, ok_bind]

theorem getValueType_returns {dref after : MetadataDref}
    (h : getValueType a dref featureCode = .ok (.ok valueType, after)) :
    versionOfHandle a dref.version ≠ vspecUnqueried ∧ ∃ pentry, vcpFindFeatureByHexid featureCode = some pentry := by
  obtain ⟨asked, hasked, h⟩ := bind_eq_ok.1 h
  refine ⟨(getVcpVersionByDh_returns hasked).1, ?_⟩
  cases hfind : vcpFindFeatureByHexid featureCode with
  | some pentry => exact ⟨pentry, rfl⟩
  | none =>
    rw [hfind] at h; cases h

theorem featureFlags_known (h : vcpFindFeatureByHexid featureCode = some pentry) (dfr : Option MarkedRec)
    (vspec : VersionSpec) :
    featureFlags featureCode dfr vspec true =
      some (((dynGetDynamicFeatureMetadata dfr featureCode).map DynFeatureMetadata.versionFeatureFlags).getD
        (versionSensitiveFlags pentry vspec)) := by
  unfold featureFlags entryFor vcpFindFeatureByHexidWDefault
  cases dynGetDynamicFeatureMetadata dfr featureCode with
  | some m => rfl
  | none =>
    rw [if_pos rfl, h]; rfl

theorem metadataByDh_known (dref : MetadataDref) (h : versionOfHandle a dref.version ≠ vspecUnqueried)
    (hfind : vcpFindFeatureByHexid featureCode = some pentry) :
    ∃ dfm byDh, dynGetFeatureMetadataByDh a featureCode dref true true = .ok (some dfm, byDh) ∧
      dfm.versionFeatureFlags =
        ((dynGetDynamicFeatureMetadata dref.dfr featureCode).map DynFeatureMetadata.versionFeatureFlags).getD
          (versionSensitiveFlags pentry (versionOfHandle a dref.version)) := by
  obtain ⟨version, hget, -⟩ := getVcpVersionByDh_eq_ok h
  obtain ⟨found, hfound, -, hflags⟩ :=
    dynMetadata_spec featureCode (dref.checkedDfr true) (versionOfHandle a dref.version) true
  rw [featureFlags_known hfind] at hflags
  obtain ⟨dfm, rfl, hdfm⟩ := Option.map_eq_some_iff.1 hflags
  rw [dynGetFeatureMetadataByDh, hget, ok_bind, hfound, ok_bind]; exact ⟨dfm, _, rfl, hdfm⟩

theorem formatStep_known (hfind : vcpFindFeatureByHexid featureCode = some pentry) (vspec : VersionSpec)
    (definition : MarkedRec) (valueType : VcpValueType) :
    ∃ step, formatAnyVcpValueStep featureCode vspec definition valueType = .ok step ∧
      (step = .wrongType ↔
        ((definition.1.features.lookup featureCode).map DynFeatureMetadata.versionFeatureFlags).getD
            (versionSensitiveFlags pentry vspec) &&& ddcaReadable ≠ 0 ∧
          valueTypeOf (((definition.1.features.lookup featureCode).map DynFeatureMetadata.versionFeatureFlags).getD
            (versionSensitiveFlags pentry vspec)) ≠ valueType) := by
  obtain ⟨found, hfound, -, hflags⟩ := dynMetadata_spec featureCode (some definition) vspec true
  rw [featureFlags_known hfind] at hflags
  obtain ⟨dfm, rfl, hdfm⟩ := Option.map_eq_some_iff.1 hflags
  rw [formatAnyVcpValueStep, hfound, ok_bind]
  dsimp only
  rw [hdfm]
  refine ⟨_, rfl, ?_⟩
  split
  · rename_i hreadable; exact iff_of_false (fun h => by cases h) fun h => h.1 hreadable
  · rename_i hreadable
    split
    · rename_i htype; exact iff_of_true rfl ⟨hreadable, htype⟩
    · rename_i htype; exact iff_of_false (fun h => by cases h) fun h => htype h.2

theorem map_getD_eq_iff {m : Option DynFeatureMetadata} {flags : DdcaFeatureFlags} (h : valueType = valueTypeOf flags) :
    (valueType = valueTypeOf ((m.map DynFeatureMetadata.versionFeatureFlags).getD flags)) ↔
      ∀ dfr, m = some dfr → valueTypeOf dfr.versionFeatureFlags = valueTypeOf flags := by
  cases m with
  | none => exact iff_of_true h fun _ hm => by cases hm
  | some dfr =>
    rw [h]; exact ⟨fun heq _ hm => by cases hm; exact heq.symm, fun hall => (hall dfr rfl).symm⟩

theorem not_wrongType_iff {m : Option DynFeatureMetadata} {flags : DdcaFeatureFlags}
    (h : valueType = valueTypeOf flags) :
    (¬ ((m.map DynFeatureMetadata.versionFeatureFlags).getD flags &&& ddcaReadable ≠ 0 ∧
      valueTypeOf ((m.map DynFeatureMetadata.versionFeatureFlags).getD flags) ≠ valueType)) ↔
      ∀ udf, m = some udf → udf.versionFeatureFlags &&& ddcaReadable ≠ 0 →
        valueTypeOf udf.versionFeatureFlags = valueTypeOf flags := by
  cases m with
  | none => exact iff_of_true (fun hboth => hboth.2 h.symm) fun _ hm => by cases hm
  | some udf =>
    rw [not_and, h]
    exact ⟨fun hall _ hm hreadable => by cases hm; exact not_not.1 (hall hreadable),
      fun hall hreadable => not_not.2 (hall udf rfl hreadable)⟩

/-- **A feature is read by the type that it has exactly under the condition.** -/
theorem implicitType_right_iff (a : VersionAnswers) (dref : MetadataDref) (definition : MarkedRec) (featureCode : Byte) :
    ImplicitTypeRight a dref definition featureCode ↔ ImplicitTypeGuard a dref definition featureCode := by
  constructor
  · rintro ⟨valueType, after, dfm, byDh, step, htype, hdh, heq, hstep, hne⟩
    obtain ⟨hversion, pentry, hfind⟩ := getValueType_returns htype
    obtain ⟨version, hsaved, htype'⟩ := getValueType_eq dref hversion hfind
    obtain ⟨dfm', byDh', hdh', hflags⟩ := metadataByDh_known dref hversion hfind
    cases htype'.symm.trans htype
    cases hdh'.symm.trans hdh
    rw [hflags, map_getD_eq_iff rfl] at heq
    refine ⟨hversion, pentry, hfind, heq, ?_⟩
    have hget := getVcpVersionByDref_saved (by rw [hsaved]; exact hversion) a
    rw [ddcaFormatAnyByDref, hget, ok_bind, hsaved] at hstep
    obtain ⟨step', hstep', hwrong⟩ := formatStep_known hfind (versionOfHandle a dref.version) definition
      (valueTypeOf (versionSensitiveFlags pentry (versionOfHandle a dref.version)))
    cases hstep'.symm.trans hstep
    exact (not_wrongType_iff rfl).1 fun h => hne (hwrong.2 h)
  · rintro ⟨hversion, pentry, hfind, hloaded, hfile⟩
    obtain ⟨version, hsaved, htype⟩ := getValueType_eq dref hversion hfind
    obtain ⟨dfm, byDh, hdh, hflags⟩ := metadataByDh_known dref hversion hfind
    obtain ⟨step, hstep, hwrong⟩ := formatStep_known hfind (versionOfHandle a dref.version) definition
      (valueTypeOf (versionSensitiveFlags pentry (versionOfHandle a dref.version)))
    have hget := getVcpVersionByDref_saved (by rw [hsaved]; exact hversion) a
    refine ⟨_, _, dfm, byDh, step, htype, hdh, ?_, ?_, ?_⟩
    · rw [hflags]; exact (map_getD_eq_iff rfl).2 hloaded
    · rw [ddcaFormatAnyByDref, hget, ok_bind, hsaved]; exact hstep
    · exact fun h => (not_wrongType_iff rfl).2 hfile (hwrong.1 h)

def ledFeature : DynFeatureMetadata where
  featureCode := 0xe1
  vcpVersion := ⟨0, 0⟩
  globalFeatureFlags := ddcaUserDefined ||| ddcaPersistentMetadata
  versionFeatureFlags := ddcaRw ||| ddcaSimpleNc
  slValues := none
  featureName := some (ascii "Status LED")
  featureDesc := none

def ledRec : DynamicFeaturesRec :=
  { dfrNew (ascii "DEL") (ascii "U3011") 1 none with features := (∅ : AList fun _ : Byte => DynFeatureMetadata).insert 0xe1 ledFeature }

theorem ledRec_marked : ledRec.Marked := by
  intro featureCode m hm
  by_cases hkey : featureCode = 0xe1
  · rw [hkey, ledRec, AList.lookup_insert] at hm
    cases hm; exact ⟨rfl, hkey.symm⟩
  · rw [ledRec, AList.lookup_insert_ne hkey, AList.lookup_empty] at hm; cases hm

/-- **A feature known only from a definition file** has no type to read it by. -/
theorem led_not_right : ¬ ImplicitTypeRight busyAnswers { v21Dref with dfr := some ⟨ledRec, ledRec_marked⟩ }
    ⟨ledRec, ledRec_marked⟩ 0xe1 := by
  rintro ⟨valueType, after, -, -, -, htype, -⟩
  obtain ⟨-, pentry, hfind⟩ := getValueType_returns htype
  cases hfind

end Ddc
