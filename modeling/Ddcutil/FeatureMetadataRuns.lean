import Ddcutil.FeatureMetadata
/-!
# FeatureMetadataRuns — when a reference and a handle give the same metadata

No assertion fails on the way, whatever the version: the flags of every entry say what its formatter is, for all the
versions it has flags for.
-/
namespace Ddc

open Kit List Exec

/-! ## User defined features -/

variable {m : DynFeatureMetadata} {vfte : VcpFeatureTableEntry} {a : VersionAnswers} {featureCode : Byte}
variable {withDefault : Bool} {s : VersionState}

theorem dfmFromDynFeatureMetadata_eq (h : m.Marked) :
    dfmFromDynFeatureMetadata m = .ok { dfmNew m.featureCode with
      featureDesc := m.featureDesc
      featureName := m.featureName
      globalFeatureFlags := m.globalFeatureFlags
      versionFeatureFlags := m.versionFeatureFlags
      vcpVersion := vspecUnqueried
      slValues := m.slValues } := by
  unfold dfmFromDynFeatureMetadata
  have hsynthetic : m.globalFeatureFlags &&& ddcaSynthetic = 0 := by rw [h]; rfl
  have hentry : m.globalFeatureFlags &&& ddcaSyntheticVcpFeatureTableEntry = 0 := by rw [h]; rfl
  have huser : m.globalFeatureFlags &&& ddcaUserDefined ≠ 0 := by rw [h]; decide
  have hpersistent : m.globalFeatureFlags &&& ddcaPersistentMetadata ≠ 0 := by rw [h]; decide
  rw [check_pos hsynthetic, ok_bind, check_pos hentry, ok_bind, check_pos huser, ok_bind,
    check_pos hpersistent, ok_bind]

section
variable (extended : NontableFormatter) (m : DynFeatureMetadata) (dfm : DisplayFeatureMetadata)

@[simp] theorem userFormatters_vcpVersion : (userFormatters extended m dfm).vcpVersion = dfm.vcpVersion := by
  unfold userFormatters
  repeat' split
  all_goals rfl

@[simp] theorem userFormatters_versionFeatureFlags :
    (userFormatters extended m dfm).versionFeatureFlags = dfm.versionFeatureFlags := by
  unfold userFormatters
  repeat' split
  all_goals rfl

@[simp] theorem userFormatters_featureCode : (userFormatters extended m dfm).featureCode = dfm.featureCode := by
  unfold userFormatters
  repeat' split
  all_goals rfl

end

theorem userMetadata_spec (h : m.Marked) (vspec : VersionSpec) :
    ∃ dfm, userMetadata m vspec = .ok dfm ∧ dfm.vcpVersion = vspec ∧ dfm.versionFeatureFlags = m.versionFeatureFlags ∧
      dfm.featureCode = m.featureCode := by
  rw [userMetadata, dfmFromDynFeatureMetadata_eq h, ok_bind]
  exact ⟨_, rfl, userFormatters_vcpVersion _ _ _, userFormatters_versionFeatureFlags _ _ _, userFormatters_featureCode _ _ _⟩

/-! ## Features of the table -/

def FormatsByFlags (flags : DdcaFeatureFlags) : Prop :=
  flags &&& ddcaTable ≠ 0 ∨ flags &&& ddcaNonTable ≠ 0 ∨ flags &&& ddcaDeprecated ≠ 0

instance (flags : DdcaFeatureFlags) : Decidable (FormatsByFlags flags) :=
  inferInstanceAs (Decidable (_ ∨ _ ∨ _))

def VcpFeatureTableEntry.Formats (vfte : VcpFeatureTableEntry) : Prop :=
  (∃ m, vfte.flagsFor m ≠ 0) ∧ ∀ m, vfte.flagsFor m ≠ 0 → FormatsByFlags (vfte.flagsFor m)

theorem formats_of_mem_vcpCodeTable (h : vfte ∈ vcpCodeTable) : vfte.Formats := by
  have hall : vcpCodeTable.all (fun e => [e.v20Flags, e.v21Flags, e.v30Flags, e.v22Flags].all fun flags =>
      flags == 0 || decide (FormatsByFlags flags)) = true := by decide +kernel
  have hvfte := all_eq_true.1 (all_eq_true.1 hall vfte h)
  refine ⟨flags_of_mem_vcpCodeTable h, fun m hm => ?_⟩
  have hmem : vfte.flagsFor m ∈ [vfte.v20Flags, vfte.v21Flags, vfte.v30Flags, vfte.v22Flags] := by
    cases m <;> simp [VcpFeatureTableEntry.flagsFor]
  have hflags := hvfte _ hmem
  rw [Bool.or_eq_true, beq_iff_eq, decide_eq_true_eq] at hflags; exact hflags.resolve_left hm

theorem formats_dummy (id : Byte) : (vcpCreateDummyFeatureForHexid id).Formats := by
  have hv20 : (vcpCreateDummyFeatureForHexid id).flagsFor .v20 = ddcaRw ||| ddcaComplexNc := rfl
  refine ⟨⟨.v20, by rw [hv20]; decide⟩, fun m hm => ?_⟩
  cases m with
  | v20 =>
    rw [hv20]; decide
  | v21 | v30 | v22 => exact absurd rfl hm

theorem versionSensitive_mem {α : Type} [DecidableEq α] (unset v20 v21 v30 v22 : α) (vspec : VersionSpec) :
    versionSensitive unset v20 v21 v30 v22 vspec = unset ∨
      versionSensitive unset v20 v21 v30 v22 vspec ∈ [v20, v21, v30, v22] := by
  have hspecific : versionSpecific unset v20 v21 v30 v22 vspec = unset ∨
      versionSpecific unset v20 v21 v30 v22 vspec ∈ [v20, v21, v30, v22] := by
    unfold versionSpecific
    dsimp only
    repeat' split
    all_goals simp
  unfold versionSensitive scanUp
  repeat' split
  all_goals first
    | exact hspecific
    | exact .inr (by simp)

theorem versionSensitiveFlags_formats (h : vfte.Formats) (vspec : VersionSpec) :
    FormatsByFlags (versionSensitiveFlags vfte vspec) := by
  have hne := versionSensitiveFlags_ne_zero h.1 vspec
  have hmem := (versionSensitive_mem 0 vfte.v20Flags vfte.v21Flags vfte.v30Flags vfte.v22Flags vspec).resolve_left hne
  have hm : ∃ m, versionSensitiveFlags vfte vspec = vfte.flagsFor m := by
    simp only [mem_cons, not_mem_nil, or_false] at hmem
    rcases hmem with h20 | h21 | h30 | h22
    · exact ⟨.v20, h20⟩
    · exact ⟨.v21, h21⟩
    · exact ⟨.v30, h30⟩
    · exact ⟨.v22, h22⟩
  obtain ⟨m, hm⟩ := hm
  rw [hm] at hne ⊢; exact h.2 m hne

theorem and_or_distrib_flags (a b c : DdcaFeatureFlags) : a &&& (b ||| c) = a &&& b ||| a &&& c :=
  UInt16.toBitVec_inj.1 BitVec.and_or_distrib_left

theorem and_or_eq_zero {a b c : DdcaFeatureFlags} : a &&& (b ||| c) = 0 ↔ a &&& b = 0 ∧ a &&& c = 0 := by
  rw [and_or_distrib_flags, UInt16.or_eq_zero_iff]

section
variable (pentry : VcpFeatureTableEntry)

theorem entryTableFormatter_ok {flags : DdcaFeatureFlags} (h : flags &&& ddcaTable ≠ 0) :
    ∃ formatter, entryTableFormatter pentry flags = .ok formatter := by
  unfold entryTableFormatter
  split
  · exact ⟨_, rfl⟩
  · split
    · exact ⟨_, rfl⟩
    · rename_i hnormal
      have hwo : flags &&& ddcaWoTable ≠ 0 := fun hwo => h (and_or_eq_zero.2 ⟨not_not.1 hnormal, hwo⟩)
      rw [if_pos hwo]; exact ⟨_, rfl⟩

theorem entryNontableFormatter_ok {flags : DdcaFeatureFlags} (hasValues : Bool) (h : flags &&& ddcaNonTable ≠ 0) :
    ∃ formatter, entryNontableFormatter pentry flags hasValues = .ok formatter := by
  unfold entryNontableFormatter
  by_cases hstd : flags &&& ddcaStdCont = 0
  · rw [if_neg (not_not.2 hstd)]
    by_cases hsimple : flags &&& ddcaSimpleNc = 0
    · rw [if_neg (not_not.2 hsimple)]
      by_cases hextended : flags &&& ddcaExtendedNc = 0
      · rw [if_neg (not_not.2 hextended)]
        by_cases hwo : flags &&& ddcaWoNc = 0
        · have hcomplex : flags &&& (ddcaComplexCont ||| ddcaComplexNc ||| ddcaNcCont) ≠ 0 := by
            unfold ddcaNonTable ddcaCont ddcaNc at h
            simpa [and_or_eq_zero, hstd, hsimple, hextended, hwo] using h
          rw [if_neg (not_not.2 hwo), if_pos hcomplex]; exact ⟨_, rfl⟩
        · rw [if_pos hwo]; exact ⟨_, rfl⟩
      · rw [if_pos hextended]; exact ⟨_, rfl⟩
    · rw [if_pos hsimple]; exact ⟨_, rfl⟩
  · rw [if_pos hstd]; exact ⟨_, rfl⟩

theorem entryFormatters_spec {dfm : DisplayFeatureMetadata} (h : FormatsByFlags dfm.versionFeatureFlags) :
    ∃ dfm', entryFormatters pentry dfm = .ok dfm' ∧ dfm'.vcpVersion = dfm.vcpVersion ∧
      dfm'.versionFeatureFlags = dfm.versionFeatureFlags ∧ dfm'.featureCode = dfm.featureCode ∧
      dfm'.vcpSpecGroups = dfm.vcpSpecGroups ∧ dfm'.vcpSubsets = dfm.vcpSubsets := by
  unfold entryFormatters
  by_cases htable : dfm.versionFeatureFlags &&& ddcaTable = 0
  · rw [if_neg (not_not.2 htable)]
    by_cases hnontable : dfm.versionFeatureFlags &&& ddcaNonTable = 0
    · have hdeprecated := (h.resolve_left (not_not.2 htable)).resolve_left (not_not.2 hnontable)
      rw [if_neg (not_not.2 hnontable), check_pos hdeprecated, ok_bind]
      exact ⟨_, rfl, rfl, rfl, rfl, rfl, rfl⟩
    · obtain ⟨formatter, hformatter⟩ := entryNontableFormatter_ok pentry dfm.slValues.isSome hnontable
      rw [if_pos hnontable, hformatter, ok_bind]; exact ⟨_, rfl, rfl, rfl, rfl, rfl, rfl⟩
  · obtain ⟨formatter, hformatter⟩ := entryTableFormatter_ok pentry htable
    rw [if_pos htable, hformatter, ok_bind]; exact ⟨_, rfl, rfl, rfl, rfl, rfl, rfl⟩

end

theorem entryMetadata_spec (h : vfte.Formats) (vspec : VersionSpec) :
    ∃ dfm, entryMetadata vfte vspec = .ok dfm ∧ dfm.vcpVersion = vspec ∧
      dfm.versionFeatureFlags = versionSensitiveFlags vfte vspec ∧ dfm.featureCode = vfte.code ∧
      dfm.vcpSpecGroups = vfte.vcpSpecGroups ∧ dfm.vcpSubsets = vfte.vcpSubsets := by
  unfold entryMetadata extractVersionFeatureInfoFromFeatureTableEntry
  rw [if_pos rfl, getVersionSensitiveFeatureFlags_eq h.1, ok_bind, ok_bind]
  exact entryFormatters_spec vfte (versionSensitiveFlags_formats h vspec)

theorem formats_of_entryFor (h : entryFor featureCode withDefault = some vfte) :
    vfte.Formats ∧ vfte.code = featureCode := by
  have hfound : ∀ e, vcpFindFeatureByHexid featureCode = some e → e.Formats ∧ e.code = featureCode := fun e he =>
    ⟨formats_of_mem_vcpCodeTable (mem_of_vcpFindFeatureByHexid he).1, (mem_of_vcpFindFeatureByHexid he).2⟩
  cases withDefault with
  | false => exact hfound vfte h
  | true =>
    cases Option.some.inj h
    unfold vcpFindFeatureByHexidWDefault
    cases hfind : vcpFindFeatureByHexid featureCode with
    | some e => exact hfound e hfind
    | none => exact ⟨formats_dummy featureCode, rfl⟩

/-! ## Metadata -/

def featureFlags (featureCode : Byte) (dfr : Option MarkedRec) (vspec : VersionSpec) (withDefault : Bool) :
    Option DdcaFeatureFlags :=
  match dynGetDynamicFeatureMetadata dfr featureCode with
  | some m => some m.versionFeatureFlags
  | none => (entryFor featureCode withDefault).map fun pentry => versionSensitiveFlags pentry vspec

theorem marked_of_dynamic {dfr : Option MarkedRec} (h : dynGetDynamicFeatureMetadata dfr featureCode = some m) :
    m.Marked := by
  obtain ⟨r, -, hm⟩ := Option.bind_eq_some_iff.1 h
  exact (r.2 featureCode m hm).1

/-- **What the look-up gives**: no assertion fails, and where there is a feature its metadata are for the version given. -/
theorem dynMetadata_spec (featureCode : Byte) (dfr : Option MarkedRec) (vspec : VersionSpec) (withDefault : Bool) :
    ∃ found, dynGetFeatureMetadataByDfrAndVspecDfm featureCode dfr vspec withDefault = .ok found ∧
      (∀ dfm, found = some dfm → dfm.vcpVersion = vspec) ∧
      found.map DisplayFeatureMetadata.versionFeatureFlags = featureFlags featureCode dfr vspec withDefault := by
  unfold dynGetFeatureMetadataByDfrAndVspecDfm featureFlags
  cases hdynamic : dynGetDynamicFeatureMetadata dfr featureCode with
  | some m =>
    obtain ⟨dfm, hdfm, hversion, hflags, -⟩ := userMetadata_spec (marked_of_dynamic hdynamic) vspec
    dsimp only
    rw [hdfm, ok_bind]
    refine ⟨some dfm, rfl, fun dfm' h => ?_, congrArg some hflags⟩
    cases h; exact hversion
  | none =>
    cases hentry : entryFor featureCode withDefault with
    | none => exact ⟨none, rfl, fun dfm h => absurd h (Option.some_ne_none dfm).symm, rfl⟩
    | some pentry =>
      obtain ⟨dfm, hdfm, hversion, hflags, -⟩ := entryMetadata_spec (formats_of_entryFor hentry).1 vspec
      dsimp only
      rw [hdfm, ok_bind]
      refine ⟨some dfm, rfl, fun dfm' h => ?_, congrArg some hflags⟩
      cases h; exact hversion

/-! ## The version of a handle -/

/-- **The version of a handle** is that which is kept, or what the monitor reports, unless that is the value for a monitor
that was not asked. -/
theorem getVcpVersionByDh_spec (a : VersionAnswers) (s : VersionState) :
    ∃ s', getVcpVersionByDh a s =
        (if versionOfHandle a s ≠ vspecUnqueried then .ok (versionOfHandle a s, s') else .error .assertFailed) ∧
      (versionOfHandle a s ≠ vspecUnqueried → getSavedVcpVersion s'.dref = versionOfHandle a s) := by
  unfold getVcpVersionByDh versionOfHandle
  by_cases hsaved : getSavedVcpVersion s.dref = vspecUnqueried
  · obtain ⟨s', hxdf, hcmdline, hdfr, hset⟩ := setVcpVersionXdfByDh_spec a s
    rw [if_pos hsaved, if_pos hsaved]
    refine ⟨s', hset, fun _ => ?_⟩
    have hover : getOverridingVcpVersion s'.dref = getOverridingVcpVersion s.dref := by
      unfold getOverridingVcpVersion
      rw [hcmdline, hdfr]
    rw [getSavedVcpVersion, hover, if_pos (getSavedVcpVersion_eq_unqueried.1 hsaved).1, hxdf]
  · rw [if_neg hsaved, if_neg hsaved]; exact ⟨s, (if_pos hsaved).symm, fun _ => rfl⟩

theorem getVcpVersionByDh_eq_ok (h : versionOfHandle a s ≠ vspecUnqueried) :
    ∃ s', getVcpVersionByDh a s = .ok (versionOfHandle a s, s') ∧ getSavedVcpVersion s'.dref = versionOfHandle a s := by
  obtain ⟨s', hget, hkept⟩ := getVcpVersionByDh_spec a s
  exact ⟨s', hget.trans (if_pos h), hkept h⟩

theorem getVcpVersionByDh_returns {r : VersionSpec × VersionState} (h : getVcpVersionByDh a s = .ok r) :
    versionOfHandle a s ≠ vspecUnqueried ∧ r.1 = versionOfHandle a s := by
  obtain ⟨s', hget, -⟩ := getVcpVersionByDh_spec a s
  rw [hget] at h
  by_cases hne : versionOfHandle a s ≠ vspecUnqueried
  · rw [if_pos hne] at h
    cases h; exact ⟨hne, rfl⟩
  · rw [if_neg hne] at h; cases h

theorem versionOfHandle_ne_iff : versionOfHandle a s ≠ vspecUnqueried ↔
    (getSavedVcpVersion s.dref = vspecUnqueried → reportedVersion a s ≠ vspecUnqueried) := by
  unfold versionOfHandle
  by_cases hsaved : getSavedVcpVersion s.dref = vspecUnqueried
  · rw [if_pos hsaved]; exact ⟨fun h _ => h, fun h => h hsaved⟩
  · rw [if_neg hsaved]; exact ⟨fun _ h => absurd h hsaved, fun _ => hsaved⟩

theorem getVcpVersionByDref_returns_iff :
    (∃ r, getVcpVersionByDref a s = .ok r) ↔
      (getSavedVcpVersion s.dref = vspecUnqueried → s.dref.communicationWorking = true →
        a.openDisplay s.opens = none ∧ reportedVersion a s ≠ vspecUnqueried) := by
  by_cases hsaved : getSavedVcpVersion s.dref = vspecUnqueried
  · cases hworking : s.dref.communicationWorking with
    | false =>
      exact iff_of_true ⟨_, getVcpVersionByDref_notWorking hsaved hworking a⟩ fun _ h => absurd h Bool.false_ne_true
    | true =>
      obtain ⟨s', -, -, -, hget⟩ := getVcpVersionByDref_ask hsaved hworking a
      rw [hget]
      cases a.openDisplay s.opens with
      | some err =>
        refine iff_of_false (fun h => ?_) fun h => ?_
        · obtain ⟨_, h⟩ := h
          cases h
        · cases (h hsaved rfl).1
      | none =>
        by_cases hrep : reportedVersion a s ≠ vspecUnqueried
        · rw [if_pos hrep]; exact iff_of_true ⟨_, rfl⟩ fun _ _ => ⟨rfl, hrep⟩
        · rw [if_neg hrep]
          refine iff_of_false (fun h => ?_) fun h => hrep (h hsaved rfl).2
          obtain ⟨_, h⟩ := h
          cases h
  · exact iff_of_true ⟨_, getVcpVersionByDref_saved hsaved a⟩ fun h => absurd h hsaved

theorem canBeAsked_iff : CanBeAsked a s ↔
    (∃ r, getVcpVersionByDref a s = .ok r) ∧ versionOfHandle a s ≠ vspecUnqueried := by
  rw [getVcpVersionByDref_returns_iff, versionOfHandle_ne_iff]
  exact ⟨fun h => ⟨fun hs hw => ⟨(h hs).2 hw, (h hs).1⟩, fun hs => (h hs).1⟩,
    fun h hs => ⟨h.2 hs, fun hw => (h.1 hs hw).1⟩⟩

/-! ## The two look-ups -/

theorem hasMetadata_iff {dref : MetadataDref} {checkUdf : Bool} (vspec : VersionSpec) :
    dref.HasMetadata featureCode checkUdf withDefault ↔
      (featureFlags featureCode (dref.checkedDfr checkUdf) vspec withDefault).isSome = true := by
  unfold MetadataDref.HasMetadata featureFlags
  cases dynGetDynamicFeatureMetadata (dref.checkedDfr checkUdf) featureCode with
  | some m | none => simp

theorem metadataAgree_found {dref : MetadataDref} {checkUdf : Bool}
    (h : MetadataAgree a dref featureCode checkUdf withDefault) : CanBeAsked a dref.version ∧ ∃ found,
      dynGetFeatureMetadataByDfrAndVspecDfm featureCode (dref.checkedDfr checkUdf) vspecUnknown withDefault = .ok found ∧
      dynGetFeatureMetadataByDfrAndVspecDfm featureCode (dref.checkedDfr checkUdf) (versionOfHandle a dref.version)
        withDefault = .ok found := by
  obtain ⟨dfm, byDref, byDh, hdref, hdh⟩ := h
  obtain ⟨asked, hasked, hdref⟩ := bind_eq_ok.1 hdref
  obtain ⟨found, hfound, hdref⟩ := bind_eq_ok.1 hdref
  obtain ⟨asked', hasked', hdh⟩ := bind_eq_ok.1 hdh
  obtain ⟨found', hfound', hdh⟩ := bind_eq_ok.1 hdh
  obtain ⟨hne, hversion⟩ := getVcpVersionByDh_returns hasked'
  cases hdref
  cases hdh
  rw [hversion] at hfound'; exact ⟨canBeAsked_iff.2 ⟨⟨asked, hasked⟩, hne⟩, dfm, hfound, hfound'⟩

/-- **The reference and the handle give the same metadata exactly where** the version can be had by both and is 0.0, or
there are no metadata. -/
theorem metadataAgree_iff (a : VersionAnswers) (dref : MetadataDref) (featureCode : Byte) (checkUdf withDefault : Bool) :
    MetadataAgree a dref featureCode checkUdf withDefault ↔ CanBeAsked a dref.version ∧
      (versionOfHandle a dref.version = vspecUnknown ∨ ¬ dref.HasMetadata featureCode checkUdf withDefault) := by
  obtain ⟨found, hfound, hzero, hflags⟩ :=
    dynMetadata_spec featureCode (dref.checkedDfr checkUdf) vspecUnknown withDefault
  obtain ⟨found', hfound', hversion, hflags'⟩ :=
    dynMetadata_spec featureCode (dref.checkedDfr checkUdf) (versionOfHandle a dref.version) withDefault
  constructor
  · intro h
    obtain ⟨hasked, both, hboth, hboth'⟩ := metadataAgree_found h
    cases hfound.symm.trans hboth
    cases hfound'.symm.trans hboth'
    refine ⟨hasked, ?_⟩
    cases found with
    | some dfm => exact .inl ((hversion dfm rfl).symm.trans (hzero dfm rfl))
    | none =>
      refine .inr fun h => ?_
      rw [hasMetadata_iff, ← hflags] at h; cases h
  · rintro ⟨hasked, hsame⟩
    obtain ⟨⟨asked, hget⟩, hne⟩ := canBeAsked_iff.1 hasked
    obtain ⟨s', hget', -⟩ := getVcpVersionByDh_eq_ok hne
    have heq : found' = found := by
      rcases hsame with hunknown | hnone
      · rw [hunknown, hfound] at hfound'; exact (Except.ok.inj hfound').symm
      · -- neither version has flags
        have hnone' := hnone
        rw [hasMetadata_iff, ← hflags, Option.isSome_map, Bool.not_eq_true, Option.isSome_eq_false_iff,
          Option.isNone_iff_eq_none] at hnone
        rw [hasMetadata_iff, ← hflags', Option.isSome_map, Bool.not_eq_true,
          Option.isSome_eq_false_iff, Option.isNone_iff_eq_none] at hnone'
        rw [hnone, hnone']
    unfold MetadataAgree dynGetFeatureMetadataByDref dynGetFeatureMetadataByDh
    dsimp only
    rw [hget, hget', ok_bind, ok_bind, hfound, ok_bind, hfound', ok_bind, heq]; exact ⟨found, _, _, rfl, rfl⟩

def v21Dref : MetadataDref := ⟨⟨⟨.i2c, vspecUnqueried, none, ⟨2, 1⟩, true, false⟩, 0, 0, VcpIo.start⟩, none⟩

/-- **The scratch pad of a 2.1 display** is a write-only operation mode for its reference. -/
theorem xde_not_agree : ¬ MetadataAgree busyAnswers v21Dref 0xde true false := by
  intro h
  obtain ⟨-, found, hfound, hfound'⟩ := metadataAgree_found h
  obtain ⟨_, h0, -, hflags⟩ := dynMetadata_spec 0xde (v21Dref.checkedDfr true) vspecUnknown false
  obtain ⟨_, h1, -, hflags'⟩ := dynMetadata_spec 0xde (v21Dref.checkedDfr true)
    (versionOfHandle busyAnswers v21Dref.version) false
  cases h0.symm.trans hfound
  cases h1.symm.trans hfound'
  have hzero : featureFlags 0xde (v21Dref.checkedDfr true) vspecUnknown false = some (ddcaWo ||| ddcaWoNc) := rfl
  have hone :
      featureFlags 0xde (v21Dref.checkedDfr true) (versionOfHandle busyAnswers v21Dref.version) false =
        some (ddcaRw ||| ddcaComplexNc) := rfl
  have heq := (hzero.symm.trans hflags.symm).trans (hflags'.trans hone)
  exact absurd heq (by decide)

end Ddc
