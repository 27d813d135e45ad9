import Ddcutil.DynFeatureSetRuns
import Ddcutil.FeatureDetail
/-!
# DynFormatters — the formatters of a user defined feature

The formatters of a user defined feature are chosen in two places: where its metadata are looked up by its code and
where a feature set is made.  They agree but for an extended feature without names for its values, which the look-up by
code prints without its high byte.
-/
namespace Ddc

open Kit

structure SameFormatters (a b : DisplayFeatureMetadata) : Prop where
  nontable : a.nontableFormatter = b.nontableFormatter
  nontableSl : a.nontableFormatterSl = b.nontableFormatterSl
  table : a.tableFormatter = b.tableFormatter

def PrintSame (a b : DisplayFeatureMetadata) : Prop :=
  ∀ codeInfo buffer bufsz, dynFormatNontableFeatureDetail a codeInfo buffer bufsz =
    dynFormatNontableFeatureDetail b codeInfo buffer bufsz

/-- **A formatter is one for the type**: of a table for table features only, of named values where there are names. -/
structure DisplayFeatureMetadata.Applicable (dfm : DisplayFeatureMetadata) : Prop where
  table : dfm.tableFormatter.isSome = true → dfm.versionFeatureFlags &&& ddcaTable ≠ 0
  nontableSl : dfm.nontableFormatterSl.isSome = true → dfm.slValues.isSome = true

def DynFeatureMetadata.NamelessExtended (m : DynFeatureMetadata) : Prop :=
  m.versionFeatureFlags &&& ddcaSimpleNc = 0 ∧ m.versionFeatureFlags &&& ddcaExtendedNc ≠ 0 ∧ m.slValues = none

structure Unformatted (m : DynFeatureMetadata) (dfm : DisplayFeatureMetadata) : Prop where
  nontable : dfm.nontableFormatter = none
  nontableSl : dfm.nontableFormatterSl = none
  table : dfm.tableFormatter = none
  flags : dfm.versionFeatureFlags = m.versionFeatureFlags
  slValues : dfm.slValues = m.slValues

/-! ## One choice -/

variable {m : DynFeatureMetadata} {dfm : DisplayFeatureMetadata}

theorem userFormatters_extended (h : ¬ m.NamelessExtended) (f g : NontableFormatter) :
    userFormatters f m dfm = userFormatters g m dfm := by
  unfold userFormatters
  split
  · rfl
  · rename_i hsimple
    split
    · rename_i hextended
      split
      · rfl
      · rename_i hnone
        exact absurd ⟨not_not.1 hsimple, hextended, Option.not_isSome_iff_eq_none.1 hnone⟩ h
    · rfl

theorem userFormatters_nameless (h : m.NamelessExtended) (f : NontableFormatter) :
    (userFormatters f m dfm).nontableFormatter = some f := by
  obtain ⟨hsimple, hextended, hnone⟩ := h
  rw [userFormatters, if_neg (not_not_intro hsimple), if_pos hextended, hnone, if_neg (by decide)]

theorem userFormatters_version (f : NontableFormatter) (vspec : VersionSpec) :
    userFormatters f m { dfm with vcpVersion := vspec } = { userFormatters f m dfm with vcpVersion := vspec } := by
  unfold userFormatters
  repeat' split
  all_goals rfl

theorem userFormatters_applicable (h : Unformatted m dfm) (f : NontableFormatter) :
    (userFormatters f m dfm).Applicable := by
  have hnotable : dfm.tableFormatter.isSome ≠ true := by simp [h.table]
  have hnosl : dfm.nontableFormatterSl.isSome ≠ true := by simp [h.nontableSl]
  unfold userFormatters
  split
  · split
    · rename_i hvalues; exact ⟨fun ht => absurd ht hnotable, fun _ => h.slValues ▸ hvalues⟩
    · exact ⟨fun ht => absurd ht hnotable, fun hs => absurd hs hnosl⟩
  · split
    · split
      · rename_i hvalues; exact ⟨fun ht => absurd ht hnotable, fun _ => h.slValues ▸ hvalues⟩
      · exact ⟨fun ht => absurd ht hnotable, fun hs => absurd hs hnosl⟩
    · split
      · exact ⟨fun ht => absurd ht hnotable, fun hs => absurd hs hnosl⟩
      · split
        · rename_i htable; exact ⟨fun _ => h.flags ▸ htable, fun hs => absurd hs hnosl⟩
        · exact ⟨fun ht => absurd ht hnotable, fun hs => absurd hs hnosl⟩

def NontableFormatter.VersionFree (f : NontableFormatter) : Prop :=
  ∀ codeInfo vspec vspec' buffer bufsz, f.function codeInfo vspec buffer bufsz = f.function codeInfo vspec' buffer bufsz

theorem userFormatters_versionFree (h : Unformatted m dfm) {f : NontableFormatter} (hf : f.VersionFree) :
    ∀ g ∈ (userFormatters f m dfm).nontableFormatter, g.VersionFree := by
  have hbyte : NontableFormatter.slByte.VersionFree := fun _ _ _ _ _ => rfl
  have hcont : NontableFormatter.standardContinuous.VersionFree := fun _ _ _ _ _ => rfl
  have hdebug : NontableFormatter.debugBytes.VersionFree := fun _ _ _ _ _ => rfl
  have hnone : ∀ g ∈ dfm.nontableFormatter, g.VersionFree := by
    rw [h.nontable]; exact fun g hg => by cases hg
  have hsome : ∀ {e : NontableFormatter}, e.VersionFree → ∀ g ∈ some e, g.VersionFree := by
    rintro e he g ⟨⟩
    exact he
  unfold userFormatters
  split
  · split
    · exact hnone
    · exact hsome hbyte
  · split
    · split
      · exact hnone
      · exact hsome hf
    · split
      · exact hsome hcont
      · split
        · exact hnone
        · exact hsome hdebug

theorem printSame_of_version (h : ∀ g ∈ dfm.nontableFormatter, g.VersionFree) (vspec : VersionSpec) :
    PrintSame { dfm with vcpVersion := vspec } dfm := by
  intro codeInfo buffer bufsz
  refine congrArg _ (funext fun buffer => ?_)
  cases hf : dfm.nontableFormatter with
  | none =>
    cases dfm.nontableFormatterSl with
    | none | some f => rfl
  | some f => exact h f hf codeInfo vspec dfm.vcpVersion buffer bufsz

/-! ## The two choices -/

theorem unformatted_of_marked (h : m.Marked) : ∃ dfm, dfmFromDynFeatureMetadata m = .ok dfm ∧ Unformatted m dfm :=
  ⟨_, dfmFromDynFeatureMetadata_eq h, rfl, rfl, rfl, rfl, rfl⟩

/-- **A user defined feature is treated alike**: by its code and in a feature set it has the same formatters, prints the
same and has formatters for its type. -/
def TreatedAlike (dfr : MarkedRec) (featureCode : Byte) (m : DynFeatureMetadata) (vspec : VersionSpec)
    (withDefault : Bool) : Prop :=
  ∃ byCode inSet, dynGetFeatureMetadataByDfrAndVspecDfm featureCode (some dfr) vspec withDefault = .ok (some byCode) ∧
    dynCreateDynamicFeatureFromDfrMetadata m = .ok inSet ∧ SameFormatters byCode inSet ∧ PrintSame byCode inSet ∧
      byCode.Applicable ∧ inSet.Applicable

theorem byCode_eq {dfr : MarkedRec} {featureCode : Byte}
    (h : dynGetDynamicFeatureMetadata (some dfr) featureCode = some m)
    (hdfm : dfmFromDynFeatureMetadata m = .ok dfm) (vspec : VersionSpec) (withDefault : Bool) :
    dynGetFeatureMetadataByDfrAndVspecDfm featureCode (some dfr) vspec withDefault =
      .ok (some { userFormatters .slByte m dfm with vcpVersion := vspec }) := by
  rw [dynGetFeatureMetadataByDfrAndVspecDfm, h]
  dsimp only
  rw [userMetadata, hdfm, Exec.ok_bind, userFormatters_version, Exec.ok_bind]

theorem inSet_eq (hdfm : dfmFromDynFeatureMetadata m = .ok dfm) :
    dynCreateDynamicFeatureFromDfrMetadata m = .ok (userFormatters .shSlBytes m dfm) := by
  rw [dynCreateDynamicFeatureFromDfrMetadata, hdfm, Exec.ok_bind]

theorem not_treatedAlike {dfr : MarkedRec} {featureCode : Byte}
    (h : dynGetDynamicFeatureMetadata (some dfr) featureCode = some m) (hnameless : m.NamelessExtended)
    (vspec : VersionSpec) (withDefault : Bool) : ¬ TreatedAlike dfr featureCode m vspec withDefault := by
  obtain ⟨dfm, hdfm, -⟩ := unformatted_of_marked (marked_of_dynamic h)
  rintro ⟨byCode, inSet, hb, hi, hsame, -⟩
  rw [byCode_eq h hdfm] at hb
  rw [inSet_eq hdfm] at hi
  cases hb
  cases hi
  have hformatter : (userFormatters .slByte m dfm).nontableFormatter =
      (userFormatters .shSlBytes m dfm).nontableFormatter := hsame.nontable
  rw [userFormatters_nameless hnameless, userFormatters_nameless hnameless] at hformatter
  cases hformatter

/-- **Every user defined feature but a nameless extended one is treated alike.** -/
theorem treatedAlike_iff {dfr : MarkedRec} {featureCode : Byte} {m : DynFeatureMetadata}
    (h : dynGetDynamicFeatureMetadata (some dfr) featureCode = some m) (vspec : VersionSpec) (withDefault : Bool) :
    TreatedAlike dfr featureCode m vspec withDefault ↔ ¬ m.NamelessExtended := by
  refine ⟨fun halike hnameless => not_treatedAlike h hnameless vspec withDefault halike, fun hnamed => ?_⟩
  obtain ⟨dfm, hdfm, hplain⟩ := unformatted_of_marked (marked_of_dynamic h)
  have hsame := @userFormatters_extended m dfm hnamed .slByte .shSlBytes
  have happly := userFormatters_applicable hplain .shSlBytes
  have hfree : NontableFormatter.shSlBytes.VersionFree := fun _ _ _ _ _ => rfl
  refine ⟨_, _, byCode_eq h hdfm vspec withDefault, inSet_eq hdfm, ?_, ?_, ?_, happly⟩
  · rw [hsame]; exact ⟨rfl, rfl, rfl⟩
  · rw [hsame]; exact printSame_of_version (userFormatters_versionFree hplain hfree) vspec
  · rw [hsame]; exact ⟨happly.table, happly.nontableSl⟩

/-- A record with one feature, an extended one as a definition file gives it, with names for its values or without. -/
def oneFeature (slValues : Option (List FeatureValueEntry)) : DynFeatureMetadata where
  featureCode := 0xe5
  vcpVersion := vspecUnqueried
  globalFeatureFlags := ddcaUserDefined ||| ddcaPersistentMetadata
  versionFeatureFlags := ddcaRw ||| ddcaExtendedNc
  slValues := slValues
  featureName := some (ascii "Zones")
  featureDesc := none

def oneFeatureRec (slValues : Option (List FeatureValueEntry)) : DynamicFeaturesRec :=
  { dfrNew (ascii "ABC") (ascii "X") 1 none with features := AList.singleton 0xe5 (oneFeature slValues) }

variable (slValues : Option (List FeatureValueEntry))

theorem oneFeatureRec_marked : (oneFeatureRec slValues).Marked := by
  intro featureCode m hm
  have hmem : (⟨featureCode, m⟩ : Sigma fun _ : Byte => DynFeatureMetadata) ∈ [⟨0xe5, oneFeature slValues⟩] :=
    (AList.mem_lookup_iff (s := (oneFeatureRec slValues).features)).1 (Option.mem_def.2 hm)
  cases List.mem_singleton.1 hmem
  exact ⟨rfl, rfl⟩

theorem oneFeature_found :
    dynGetDynamicFeatureMetadata (some ⟨oneFeatureRec slValues, oneFeatureRec_marked slValues⟩) 0xe5 =
      some (oneFeature slValues) := rfl

/-- With names it is treated alike. -/
theorem treatedAlike_named :
    TreatedAlike ⟨oneFeatureRec (some []), oneFeatureRec_marked (some [])⟩ 0xe5 (oneFeature (some [])) vspecV21
      true := by
  have hnamed : ¬ (oneFeature (some [])).NamelessExtended := fun h => by cases h.2.2
  exact (treatedAlike_iff (oneFeature_found (some [])) vspecV21 true).2 hnamed

/-- Without names the high byte is lost where the feature is requested by its code. -/
theorem nameless_not_alike :
    ¬ TreatedAlike ⟨oneFeatureRec none, oneFeatureRec_marked none⟩ 0xe5 (oneFeature none) vspecV21 true := by
  have hnameless : (oneFeature none).NamelessExtended := by
    refine ⟨?_, ?_, rfl⟩
    · decide
    · decide
  exact not_treatedAlike (oneFeature_found none) hnameless vspecV21 true

end Ddc
