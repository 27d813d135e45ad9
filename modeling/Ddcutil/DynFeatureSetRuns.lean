import Ddcutil.DynFeatureSet
/-!
# DynFeatureSetRuns — what the loops over feature codes collect

Once the version of a reference has been had, it is had again, so a loop asks at most once and never fails.  What it
collects is then a question about each code alone, answered by the metadata for version 0.0.
-/
namespace Ddc

open Kit List Exec

/-! ## Metadata of a code -/

def foundMetadata (featureCode : Byte) (dfr : Option MarkedRec) (vspec : VersionSpec) (withDefault : Bool) :
    Option DisplayFeatureMetadata :=
  (dynGetFeatureMetadataByDfrAndVspecDfm featureCode dfr vspec withDefault).toOption.join

section
variable (featureCode : Byte) (dfr : Option MarkedRec) (vspec : VersionSpec)

theorem dynMetadata_eq (withDefault : Bool) :
    dynGetFeatureMetadataByDfrAndVspecDfm featureCode dfr vspec withDefault =
      .ok (foundMetadata featureCode dfr vspec withDefault) := by
  obtain ⟨found, hfound, -⟩ := dynMetadata_spec featureCode dfr vspec withDefault
  rw [foundMetadata, hfound]
  cases found <;> rfl

theorem foundMetadata_flags (withDefault : Bool) :
    (foundMetadata featureCode dfr vspec withDefault).map DisplayFeatureMetadata.versionFeatureFlags =
      featureFlags featureCode dfr vspec withDefault := by
  obtain ⟨found, hfound, -, hflags⟩ := dynMetadata_spec featureCode dfr vspec withDefault
  cases (dynMetadata_eq featureCode dfr vspec withDefault).symm.trans hfound
  exact hflags

theorem foundMetadata_isSome : (foundMetadata featureCode dfr vspec true).isSome = true := by
  have hflags := congrArg Option.isSome (foundMetadata_flags featureCode dfr vspec true)
  rw [Option.isSome_map] at hflags
  rw [hflags]
  unfold featureFlags entryFor
  cases dynGetDynamicFeatureMetadata dfr featureCode <;> rfl

end

variable {dfr : Option MarkedRec} {withDefault : Bool} {a : VersionAnswers} {dref : Option MetadataDref}
variable {keep : DisplayFeatureMetadata → Bool} {m : DynFeatureMetadata}

theorem foundMetadata_featureCode {featureCode : Byte} {vspec : VersionSpec} {dfm : DisplayFeatureMetadata}
    (h : foundMetadata featureCode dfr vspec withDefault = some dfm) : dfm.featureCode = featureCode := by
  have hfound := dynMetadata_eq featureCode dfr vspec withDefault
  rw [h] at hfound
  unfold dynGetFeatureMetadataByDfrAndVspecDfm at hfound
  cases hdynamic : dynGetDynamicFeatureMetadata dfr featureCode with
  | some m =>
    obtain ⟨r, -, hm⟩ := Option.bind_eq_some_iff.1 hdynamic
    obtain ⟨dfm', hdfm', -, -, hcode⟩ := userMetadata_spec (r.2 featureCode m hm).1 vspec
    rw [hdynamic] at hfound
    dsimp only at hfound
    rw [hdfm', ok_bind] at hfound
    cases hfound; exact hcode.trans (r.2 featureCode m hm).2
  | none =>
    rw [hdynamic] at hfound
    cases hentry : entryFor featureCode withDefault with
    | none =>
      rw [hentry] at hfound; cases hfound
    | some pentry =>
      obtain ⟨dfm', hdfm', -, -, hcode, -⟩ := entryMetadata_spec (formats_of_entryFor hentry).1 vspec
      rw [hentry] at hfound
      dsimp only at hfound
      rw [hdfm', ok_bind] at hfound
      cases hfound; exact hcode.trans (formats_of_entryFor hentry).2

/-! ## The version is had again -/

theorem getVcpVersionByDref_again {s : VersionState} {r : VersionSpec × VersionState}
    (h : getVcpVersionByDref a s = .ok r) : getVcpVersionByDref a r.2 = .ok r := by
  by_cases hsaved : getSavedVcpVersion s.dref = vspecUnqueried
  · cases hworking : s.dref.communicationWorking with
    | false =>
      have hget := getVcpVersionByDref_notWorking hsaved hworking a
      cases hget.symm.trans h
      exact hget
    | true =>
      obtain ⟨s', hxdf, hcmdline, hdfr, hget⟩ := getVcpVersionByDref_ask hsaved hworking a
      rw [hget] at h
      cases hopen : a.openDisplay s.opens with
      | some err =>
        rw [hopen] at h; cases h
      | none =>
        rw [hopen] at h
        dsimp only at h
        split at h
        · rename_i hreported
          cases h
          have hkept := getSavedVcpVersion_reported hsaved hcmdline hdfr hxdf
          rw [getVcpVersionByDref_saved (hkept ▸ hreported) a, hkept]
        · cases h
  · have hget := getVcpVersionByDref_saved hsaved a
    cases hget.symm.trans h
    exact hget

def VersionHad (a : VersionAnswers) (dref : Option MetadataDref) : Prop :=
  ∀ d, dref = some d → ∃ r, getVcpVersionByDref a d.version = .ok r

def checkedDfrOf (dref : Option MetadataDref) (checkUdf : Bool) : Option MarkedRec :=
  dref.bind fun d => d.checkedDfr checkUdf

theorem metadataByDref_spec (h : VersionHad a dref) (featureCode : Byte) (checkUdf withDefault : Bool) :
    ∃ dref', dynGetFeatureMetadataByDref a featureCode dref checkUdf withDefault =
        .ok (foundMetadata featureCode (checkedDfrOf dref checkUdf) vspecUnknown withDefault, dref') ∧
      VersionHad a dref' ∧ checkedDfrOf dref' checkUdf = checkedDfrOf dref checkUdf := by
  cases dref with
  | none =>
    refine ⟨none, ?_, h, rfl⟩
    rw [dynGetFeatureMetadataByDref, dynMetadata_eq, ok_bind]; rfl
  | some d =>
    obtain ⟨asked, hasked⟩ := h d rfl
    refine ⟨some { d with version := asked.2 }, ?_, fun d' hd' => ?_, rfl⟩
    · unfold dynGetFeatureMetadataByDref
      dsimp only
      rw [hasked, ok_bind, dynMetadata_eq, ok_bind]; rfl
    · cases hd'; exact ⟨asked, getVcpVersionByDref_again hasked⟩

theorem keptMetadata_eq {found : Option DisplayFeatureMetadata} (h : withDefault = true → found.isSome = true) :
    keptMetadata keep withDefault found = .ok (found.filter keep).toList := by
  cases found with
  | none =>
    rw [keptMetadata, if_neg fun hd => absurd (h hd) (by simp)]; rfl
  | some dfm =>
    show Except.ok (if keep dfm = true then [dfm] else []) = _
    rw [Option.filter_some]
    split <;> rfl

theorem collectFeatures_spec (keep : DisplayFeatureMetadata → Bool) (checkUdf withDefault : Bool) :
    ∀ (featureCodes : List Byte) {dref : Option MetadataDref}, VersionHad a dref →
      ∃ dref', collectFeatures a keep checkUdf withDefault featureCodes dref =
        .ok (featureCodes.filterMap fun featureCode =>
          (foundMetadata featureCode (checkedDfrOf dref checkUdf) vspecUnknown withDefault).filter keep, dref')
  | [], dref, _ => ⟨dref, rfl⟩
  | featureCode :: featureCodes, dref, h => by
    obtain ⟨dref1, hfound, hhad, hdfr⟩ := metadataByDref_spec h featureCode checkUdf withDefault
    obtain ⟨dref2, hrest⟩ := collectFeatures_spec keep checkUdf withDefault featureCodes hhad
    have hkept : keptMetadata keep withDefault
        (foundMetadata featureCode (checkedDfrOf dref checkUdf) vspecUnknown withDefault) =
        .ok ((foundMetadata featureCode (checkedDfrOf dref checkUdf) vspecUnknown withDefault).filter keep).toList := by
      refine keptMetadata_eq fun hdefault => ?_
      rw [hdefault]; exact foundMetadata_isSome featureCode _ _
    refine ⟨dref2, ?_⟩
    rw [collectFeatures, hfound, ok_bind, hkept, ok_bind, hrest, ok_bind, hdfr, filterMap_cons]
    cases (foundMetadata featureCode (checkedDfrOf dref checkUdf) vspecUnknown withDefault).filter keep <;> rfl

/-! ## Features of either kind -/

theorem dynCreateDynamicFeature_ok (h : m.Marked) :
    ∃ dfm, dynCreateDynamicFeatureFromDfrMetadata m = .ok dfm ∧ dfm.featureCode = m.featureCode ∧
      dfm.versionFeatureFlags = m.versionFeatureFlags := by
  rw [dynCreateDynamicFeatureFromDfrMetadata, dfmFromDynFeatureMetadata_eq h, ok_bind]
  exact ⟨_, rfl, userFormatters_featureCode _ _ _, userFormatters_versionFeatureFlags _ _ _⟩

theorem mem_metadatas {dfr : MarkedRec} : m ∈ dfr.1.metadatas ↔ dfr.1.features.lookup m.featureCode = some m := by
  rw [DynamicFeaturesRec.metadatas, mem_map, ← AList.mem_lookup_iff.symm.trans Option.mem_def]
  constructor
  · rintro ⟨⟨featureCode, m'⟩, hmem, rfl⟩
    have hlookup := AList.mem_lookup_iff.2 hmem
    rw [(dfr.2 featureCode m' hlookup).2]; exact hmem
  · exact fun h => ⟨_, h, rfl⟩

/-- **What a set has**: of the user defined features, of a scan, or of any other subset. -/
def memberOf (subsetId : VcpFeatureSubset) (dref : Option MetadataDref) (featureSetFlags : FeatureSetFlags)
    (featureCode : Byte) (dfm : DisplayFeatureMetadata) : Prop :=
  if subsetId = vcpSubsetUdf then
    ∃ m, dynGetDynamicFeatureMetadata (checkedDfrOf dref (featureSetFlags &&& fsfCheckUdf != 0)) featureCode = some m ∧
      udfShown featureSetFlags m.versionFeatureFlags = true ∧ dynCreateDynamicFeatureFromDfrMetadata m = .ok dfm
  else if subsetId = vcpSubsetScan ∨ subsetId = vcpSubsetMfg then
    featureCode ∈ codesFrom (if subsetId = vcpSubsetMfg then 0xe0 else 1) ∧
      foundMetadata featureCode (checkedDfrOf dref (featureSetFlags &&& fsfCheckUdf != 0)) vspecUnknown true = some dfm ∧
      scanShown featureSetFlags dfm = true
  else
    featureCode ∈ codesFrom 0 ∧
      foundMetadata featureCode (checkedDfrOf dref (featureSetFlags &&& fsfCheckUdf != 0)) vspecUnknown false = some dfm ∧
      subsetShown subsetId featureSetFlags dfm = true

theorem mem_collected {codes : List Byte} {featureCode : Byte} {dfm : DisplayFeatureMetadata} :
    (dfm ∈ codes.filterMap fun featureCode => (foundMetadata featureCode dfr vspecUnknown withDefault).filter keep) ∧
        dfm.featureCode = featureCode ↔
      featureCode ∈ codes ∧ foundMetadata featureCode dfr vspecUnknown withDefault = some dfm ∧ keep dfm = true := by
  rw [mem_filterMap]
  constructor
  · rintro ⟨⟨code, hcode, hfound⟩, rfl⟩
    obtain ⟨hfound, hkeep⟩ := Option.filter_eq_some_iff.1 hfound
    rw [foundMetadata_featureCode hfound]; exact ⟨hcode, hfound, hkeep⟩
  · rintro ⟨hcode, hfound, hkeep⟩
    exact ⟨⟨featureCode, hcode, Option.filter_eq_some_iff.2 ⟨hfound, hkeep⟩⟩, foundMetadata_featureCode hfound⟩

theorem collected_nodup {codes : List Byte} (h : codes.Nodup) :
    ((codes.filterMap fun featureCode => (foundMetadata featureCode dfr vspecUnknown withDefault).filter keep).map
      DisplayFeatureMetadata.featureCode).Nodup := by
  have hmap : (codes.filterMap fun featureCode => (foundMetadata featureCode dfr vspecUnknown withDefault).filter keep).map
      DisplayFeatureMetadata.featureCode = codes.filter fun featureCode =>
        ((foundMetadata featureCode dfr vspecUnknown withDefault).filter keep).isSome := by
    clear h
    induction codes with
    | nil => rfl
    | cons code codes ih =>
      rw [filterMap_cons, filter_cons]
      cases hfound : (foundMetadata code dfr vspecUnknown withDefault).filter keep with
      | none => exact ih
      | some dfm =>
        have hcode := foundMetadata_featureCode (Option.filter_eq_some_iff.1 hfound).1
        rw [map_cons, ih, hcode, if_pos (Option.isSome_some)]
  rw [hmap]; exact h.filter _

theorem codesFrom_nodup (first : Nat) : (codesFrom first).Nodup := by
  refine List.Nodup.map_on (fun x hx y hy h => ?_) nodup_range'
  obtain ⟨hx1, hx2⟩ := mem_range'_1.1 hx
  obtain ⟨hy1, hy2⟩ := mem_range'_1.1 hy
  have heq := congrArg UInt8.toNat h
  rw [UInt8.toNat_ofNat', UInt8.toNat_ofNat'] at heq; omega

/-! ## The user defined features -/

theorem marked_of_mem_metadatas {dfr : MarkedRec} (h : m ∈ dfr.1.metadatas) : m.Marked :=
  (dfr.2 m.featureCode m (mem_metadatas.1 h)).1

theorem metadatas_nodup (dfr : MarkedRec) : (dfr.1.metadatas.map DynFeatureMetadata.featureCode).Nodup := by
  have hkeys : dfr.1.metadatas.map DynFeatureMetadata.featureCode = dfr.1.features.keys := by
    rw [DynamicFeaturesRec.metadatas, AList.keys, List.keys, map_map]
    refine map_congr_left fun s hs => ?_
    exact (dfr.2 s.1 s.2 (AList.mem_lookup_iff.2 hs)).2
  rw [hkeys]; exact dfr.1.features.keys_nodup

theorem forall₂_codes {ms : List DynFeatureMetadata} {dfms : List DisplayFeatureMetadata}
    (h : List.Forall₂ (fun m dfm => dynCreateDynamicFeatureFromDfrMetadata m = .ok dfm) ms dfms)
    (hmarked : ∀ m ∈ ms, m.Marked) :
    dfms.map DisplayFeatureMetadata.featureCode = ms.map DynFeatureMetadata.featureCode := by
  induction h with
  | nil => rfl
  | cons hm _ ih =>
    rename_i m dfm ms dfms _
    obtain ⟨dfm', hdfm', hcode, -⟩ := dynCreateDynamicFeature_ok (hmarked m mem_cons_self)
    cases hm.symm.trans hdfm'
    rw [map_cons, map_cons, hcode, ih fun m' hm' => hmarked m' (mem_cons_of_mem _ hm')]

theorem udfFeatures_spec (dref : Option MetadataDref) (featureSetFlags : FeatureSetFlags) :
    ∃ members, udfFeatures dref featureSetFlags = .ok members ∧
      (∀ featureCode dfm, dfm ∈ members ∧ dfm.featureCode = featureCode ↔ ∃ m,
        dynGetDynamicFeatureMetadata (checkedDfrOf dref (featureSetFlags &&& fsfCheckUdf != 0)) featureCode = some m ∧
          udfShown featureSetFlags m.versionFeatureFlags = true ∧ dynCreateDynamicFeatureFromDfrMetadata m = .ok dfm) ∧
      (members.map DisplayFeatureMetadata.featureCode).Nodup := by
  have hnone : ∀ (dfr : Option MarkedRec), dfr = none → ∀ featureCode (dfm : DisplayFeatureMetadata),
      dfm ∈ ([] : List DisplayFeatureMetadata) ∧ dfm.featureCode = featureCode ↔ ∃ m,
        dynGetDynamicFeatureMetadata dfr featureCode = some m ∧ udfShown featureSetFlags m.versionFeatureFlags = true ∧
          dynCreateDynamicFeatureFromDfrMetadata m = .ok dfm := by
    rintro _ rfl featureCode dfm
    refine iff_of_false (fun h => absurd h.1 not_mem_nil) ?_
    rintro ⟨m, hm, -⟩
    cases hm
  unfold udfFeatures
  by_cases hcheck : featureSetFlags &&& fsfCheckUdf = 0
  · rw [if_pos hcheck]
    refine ⟨[], rfl, hnone _ ?_, nodup_nil⟩
    rw [hcheck]
    cases dref <;> rfl
  · have hchecked : checkedDfrOf dref (featureSetFlags &&& fsfCheckUdf != 0) = dref.bind MetadataDref.dfr := by
      rw [bne_iff_ne.2 hcheck]; rfl
    rw [if_neg hcheck, hchecked]
    cases hdfr : dref.bind MetadataDref.dfr with
    | none => exact ⟨[], rfl, hnone none rfl, nodup_nil⟩
    | some dfr =>
      have hmarked : ∀ m ∈ dfr.1.metadatas.filter fun m => udfShown featureSetFlags m.versionFeatureFlags, m.Marked :=
        fun m hm => marked_of_mem_metadatas (mem_filter.1 hm).1
      obtain ⟨members, hmembers⟩ := mapM_ok_of_forall fun m hm =>
        (dynCreateDynamicFeature_ok (hmarked m hm)).imp fun _ h => h.1
      have hforall := mapM_eq_ok.1 hmembers
      refine ⟨members, hmembers, fun featureCode dfm => ?_, ?_⟩
      · constructor
        · rintro ⟨hmem, rfl⟩
          obtain ⟨m, hm, hcreate⟩ := mem_of_mapM_eq_ok hmembers dfm hmem
          obtain ⟨hm, hshown⟩ := mem_filter.1 hm
          obtain ⟨dfm', hdfm', hcode, -⟩ := dynCreateDynamicFeature_ok (marked_of_mem_metadatas hm)
          cases hdfm'.symm.trans hcreate
          rw [hcode]; exact ⟨m, mem_metadatas.1 hm, hshown, hcreate⟩
        · rintro ⟨m, hlookup, hshown, hcreate⟩
          have hcode := (dfr.2 featureCode m hlookup).2
          have hm : m ∈ dfr.1.metadatas := by rw [mem_metadatas, hcode]; exact hlookup
          obtain ⟨dfm', hdfm', hcode', -⟩ := dynCreateDynamicFeature_ok (marked_of_mem_metadatas hm)
          cases hdfm'.symm.trans hcreate
          refine ⟨?_, hcode'.trans hcode⟩
          obtain ⟨dfm', hmem, hcreate'⟩ := exists_of_mem_mapM hmembers m (mem_filter.2 ⟨hm, hshown⟩)
          cases hcreate'.symm.trans hcreate
          exact hmem
      · rw [forall₂_codes hforall hmarked]
        exact (metadatas_nodup dfr).sublist (filter_sublist.map _)

/-! ## The members of a set -/

/-- **What `dyn_create_feature_set` gives**: no assertion fails, the members are those of the subset, and no code has two. -/
theorem dynCreateFeatureSet_spec {subsetId : VcpFeatureSubset} (h : subsetId ≠ vcpSubsetUdf → VersionHad a dref)
    (featureSetFlags : FeatureSetFlags) :
    ∃ members dref', dynCreateFeatureSet a subsetId dref featureSetFlags = .ok (members, dref') ∧
      (∀ featureCode dfm, dfm ∈ members ∧ dfm.featureCode = featureCode ↔
        memberOf subsetId dref featureSetFlags featureCode dfm) ∧
      (members.map DisplayFeatureMetadata.featureCode).Nodup := by
  unfold dynCreateFeatureSet memberOf
  by_cases hudf : subsetId = vcpSubsetUdf
  · obtain ⟨members, hmembers, hmem, hnodup⟩ := udfFeatures_spec dref featureSetFlags
    rw [if_pos hudf, hmembers]
    refine ⟨members, dref, rfl, fun featureCode dfm => ?_, hnodup⟩
    rw [if_pos hudf]; exact hmem featureCode dfm
  · have hhad := h hudf
    rw [if_neg hudf]
    by_cases hscan : subsetId = vcpSubsetScan ∨ subsetId = vcpSubsetMfg
    · rw [if_pos hscan]
      obtain ⟨dref', hcollect⟩ := collectFeatures_spec (scanShown featureSetFlags) (featureSetFlags &&& fsfCheckUdf != 0) true
        (codesFrom (if subsetId = vcpSubsetMfg then 0xe0 else 1)) hhad
      refine ⟨_, dref', hcollect, fun featureCode dfm => ?_, collected_nodup (codesFrom_nodup _)⟩
      rw [if_neg hudf, if_pos hscan]; exact mem_collected
    · rw [if_neg hscan]
      obtain ⟨dref', hcollect⟩ := collectFeatures_spec (subsetShown subsetId featureSetFlags)
        (featureSetFlags &&& fsfCheckUdf != 0) false (codesFrom 0) hhad
      refine ⟨_, dref', hcollect, fun featureCode dfm => ?_, collected_nodup (codesFrom_nodup _)⟩
      rw [if_neg hudf, if_neg hscan]; exact mem_collected

theorem versionHad_of_collected {checkUdf : Bool} {featureCodes : List Byte}
    {r : List DisplayFeatureMetadata × Option MetadataDref} (hcodes : featureCodes ≠ [])
    (h : collectFeatures a keep checkUdf withDefault featureCodes dref = .ok r) : VersionHad a dref := by
  cases featureCodes with
  | nil => exact absurd rfl hcodes
  | cons featureCode featureCodes =>
    rintro d rfl
    obtain ⟨found, hfound, -⟩ := bind_eq_ok.1 h
    obtain ⟨asked, hasked, -⟩ := bind_eq_ok.1 hfound
    exact ⟨asked, hasked⟩

theorem codesFrom_ne_nil {first : Nat} (h : first < 256) : codesFrom first ≠ [] := by
  intro hnil
  have hlength := congrArg List.length hnil
  unfold codesFrom at hlength
  rw [length_map, length_range', length_nil] at hlength; omega

theorem versionHad_of_created {subsetId : VcpFeatureSubset} {featureSetFlags : FeatureSetFlags}
    {r : List DisplayFeatureMetadata × Option MetadataDref}
    (h : dynCreateFeatureSet a subsetId dref featureSetFlags = .ok r) (hudf : subsetId ≠ vcpSubsetUdf) :
    VersionHad a dref := by
  rw [dynCreateFeatureSet, if_neg hudf] at h
  split at h
  · refine versionHad_of_collected (codesFrom_ne_nil ?_) h
    split <;> decide
  · exact versionHad_of_collected (codesFrom_ne_nil (by decide)) h

end Ddc
