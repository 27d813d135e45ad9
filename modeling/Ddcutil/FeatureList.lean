import Ddcutil.ApiResults
import Ddcutil.BitSet256
import Ddcutil.DynFeatureSetRuns
/-!
# FeatureList — the feature codes of a subset, as the API gives them

`ddca_get_feature_list_by_dref` validates the reference, asserts that the version of the display is one that the program
knows, and puts the codes of a feature set in a list of 256 flags.
-/
namespace Ddc

open Kit Exec

inductive FeatureSubsetId where
  | unset | known | color | profile | mfg | capabilities | scan | custom
  deriving DecidableEq

def FeatureSubsetId.subset : FeatureSubsetId → VcpFeatureSubset
  | .known => vcpSubsetKnown
  | .color => vcpSubsetColor
  | .profile => vcpSubsetProfile
  | .mfg => vcpSubsetMfg
  | .unset | .capabilities => vcpSubsetNone
  | .scan => vcpSubsetScan
  | .custom => vcpSubsetNone

def listFlags (includeTableFeatures : Bool) : FeatureSetFlags := if includeTableFeatures = true then 0 else fsfNotable

/-- `DDCA_Feature_List`, 32 bytes as a `Bit_Set_256` is, with the same operations on one flag. -/
abbrev FeatureList := BitSet256

def featureListAdd (vcplist : FeatureList) (vcpCode : Byte) : FeatureList := bs256Insert vcplist vcpCode

def featureListContains (vcplist : FeatureList) (vcpCode : Byte) : Bool := bs256Contains vcplist vcpCode

def featureListFromDynFeatureSet (members : List DisplayFeatureMetadata) : FeatureList :=
  members.foldl (fun vcplist dfm => featureListAdd vcplist dfm.featureCode) emptyBitSet256

def listAction (a : VersionAnswers) (id : FeatureSubsetId) (dref : MetadataDref) (includeTableFeatures : Bool) :
    Exec FeatureList := do
  let asked ← getVcpVersionByDref a dref.version
  check (vcpVersionIsValid asked.1 = true)
  let fset ← dynCreateFeatureSet a id.subset (some { dref with version := asked.2 }) (listFlags includeTableFeatures)
  .ok (featureListFromDynFeatureSet fset.1)

/-- **`ddca_get_feature_list_by_dref`**, of a list that the caller has: the status, and what the list then is. -/
def ddcaGetFeatureListByDref (a : VersionAnswers) (id : FeatureSubsetId) (arg : DrefArg) (dref : MetadataDref)
    (includeTableFeatures : Bool) (featureList : FeatureList) : Exec (Status × FeatureList) :=
  if validateDdcaDisplayRef arg = 0 then do
    let result ← listAction a id dref includeTableFeatures
    .ok (0, result)
  else .ok (validateDdcaDisplayRef arg, featureList)

def ListsSet (featureList : FeatureList) (members : List DisplayFeatureMetadata) : Prop :=
  ∀ vcpCode, featureListContains featureList vcpCode = true ↔ ∃ dfm ∈ members, dfm.featureCode = vcpCode

/-- **The list is right**: it has the codes of the feature set for the subset and the flags, or the reference is refused and
the list is left as it is. -/
def FeatureListRight (a : VersionAnswers) (id : FeatureSubsetId) (arg : DrefArg) (dref : MetadataDref)
    (includeTableFeatures : Bool) (featureList : FeatureList) : Prop :=
  ∃ status result, ddcaGetFeatureListByDref a id arg dref includeTableFeatures featureList = .ok (status, result) ∧
    (validateDdcaDisplayRef arg ≠ 0 → status ≠ 0 ∧ result = featureList) ∧
    (validateDdcaDisplayRef arg = 0 → status = 0 ∧ ∃ members after,
      dynCreateFeatureSet a id.subset (some dref) (listFlags includeTableFeatures) = .ok (members, after) ∧
        ListsSet result members)

theorem featureListContains_iff {vcplist : FeatureList} {vcpCode : Byte} :
    featureListContains vcplist vcpCode = true ↔ vcpCode.toNat ∈ flags vcplist := by
  rw [mem_flags, UInt8.ofNat_toNat]; exact (and_iff_right vcpCode.toNat_lt).symm

theorem featureListContains_add (vcplist : FeatureList) (added vcpCode : Byte) :
    featureListContains (featureListAdd vcplist added) vcpCode = true ↔
      added = vcpCode ∨ featureListContains vcplist vcpCode = true := by
  rw [featureListContains_iff, featureListContains_iff, featureListAdd, flags_insert, Finset.mem_insert, UInt8.toNat_inj,
    eq_comm]

theorem featureListContains_foldl (vcpCode : Byte) : ∀ (members : List DisplayFeatureMetadata) (vcplist : FeatureList),
    featureListContains (members.foldl (fun vcplist dfm => featureListAdd vcplist dfm.featureCode) vcplist) vcpCode = true ↔
      (∃ dfm ∈ members, dfm.featureCode = vcpCode) ∨ featureListContains vcplist vcpCode = true
  | [], vcplist => by simp
  | dfm :: members, vcplist => by
    rw [List.foldl_cons, featureListContains_foldl, featureListContains_add, List.exists_mem_cons_iff,
      or_left_comm, or_assoc]

theorem featureListFromDynFeatureSet_lists (members : List DisplayFeatureMetadata) :
    ListsSet (featureListFromDynFeatureSet members) members := by
  intro vcpCode
  have hempty : ¬ featureListContains emptyBitSet256 vcpCode = true := by
    rw [featureListContains_iff, flags_empty]; exact Finset.notMem_empty _
  rw [featureListFromDynFeatureSet, featureListContains_foldl, or_iff_left hempty]

/-! ## When it is right -/

theorem memberOf_version {dref : MetadataDref} (version : VersionState) (subsetId : VcpFeatureSubset)
    (featureSetFlags : FeatureSetFlags) (featureCode : Byte) (dfm : DisplayFeatureMetadata) :
    memberOf subsetId (some { dref with version := version }) featureSetFlags featureCode dfm ↔
      memberOf subsetId (some dref) featureSetFlags featureCode dfm := .rfl

/-- **The condition on a display**: it opens if its monitor must be asked, and its version is one that the program knows. -/
structure KnownVersion (a : VersionAnswers) (s : VersionState) : Prop where
  opens : MustAsk s.dref → a.openDisplay s.opens = none
  valid : vcpVersionIsValid (chosenVersion a s) = true

theorem getVcpVersionByDref_chosen {a : VersionAnswers} {s : VersionState} {r : VersionSpec × VersionState}
    (h : getVcpVersionByDref a s = .ok r) : r.1 = chosenVersion a s := by
  by_cases hsaved : getSavedVcpVersion s.dref = vspecUnqueried
  · rw [chosenVersion_of_unqueried hsaved]
    cases hworking : s.dref.communicationWorking with
    | false =>
      cases (getVcpVersionByDref_notWorking hsaved hworking a).symm.trans h
      rfl
    | true =>
      obtain ⟨s', -, -, -, hget⟩ := getVcpVersionByDref_ask hsaved hworking a
      rw [hget] at h
      cases hopen : a.openDisplay s.opens with
      | some err =>
        rw [hopen] at h; cases h
      | none =>
        rw [hopen] at h
        dsimp only at h
        split at h
        · cases h; rfl
        · cases h
  · cases (getVcpVersionByDref_saved hsaved a).symm.trans h
    exact (chosenVersion_of_saved hsaved a).symm

theorem knownVersion_iff {a : VersionAnswers} {s : VersionState} :
    (∃ r, getVcpVersionByDref a s = .ok r ∧ vcpVersionIsValid r.1 = true) ↔ KnownVersion a s := by
  constructor
  · rintro ⟨r, hr, hvalid⟩
    rw [getVcpVersionByDref_chosen hr] at hvalid
    refine ⟨fun hask => ?_, hvalid⟩
    obtain ⟨hsaved, hworking⟩ := mustAsk_iff.1 hask
    exact (getVcpVersionByDref_returns_iff.1 ⟨r, hr⟩ hsaved hworking).1
  · rintro ⟨hopens, hvalid⟩
    have hreturns : ∃ r, getVcpVersionByDref a s = .ok r := by
      refine getVcpVersionByDref_returns_iff.2 fun hsaved hworking => ⟨hopens (mustAsk_iff.2 ⟨hsaved, hworking⟩), ?_⟩
      rw [chosenVersion_of_unqueried hsaved, if_pos hworking] at hvalid
      exact ne_unqueried_of_valid hvalid
    obtain ⟨r, hr⟩ := hreturns
    refine ⟨r, hr, ?_⟩
    rw [getVcpVersionByDref_chosen hr]; exact hvalid

theorem versionHad_of_returned {a : VersionAnswers} {dref : MetadataDref} {r : VersionSpec × VersionState}
    (h : getVcpVersionByDref a dref.version = .ok r) :
    VersionHad a (some dref) ∧ VersionHad a (some { dref with version := r.2 }) := by
  refine ⟨fun d hd => ?_, fun d hd => ?_⟩
  · cases hd; exact ⟨r, h⟩
  · cases hd; exact ⟨r, getVcpVersionByDref_again h⟩

theorem listAction_lists {a : VersionAnswers} {dref : MetadataDref} (h : KnownVersion a dref.version) (id : FeatureSubsetId)
    (includeTableFeatures : Bool) : ∃ result members after, listAction a id dref includeTableFeatures = .ok result ∧
      dynCreateFeatureSet a id.subset (some dref) (listFlags includeTableFeatures) = .ok (members, after) ∧
        ListsSet result members := by
  obtain ⟨asked, hasked, hvalid⟩ := knownVersion_iff.2 h
  obtain ⟨hhad, hhad'⟩ := versionHad_of_returned hasked
  obtain ⟨members, after, hset, hmem, -⟩ := dynCreateFeatureSet_spec (fun _ => hhad) (listFlags includeTableFeatures)
  obtain ⟨members', after', hset', hmem', -⟩ := dynCreateFeatureSet_spec (fun _ => hhad') (listFlags includeTableFeatures)
  refine ⟨featureListFromDynFeatureSet members', members, after, ?_, hset, fun vcpCode => ?_⟩
  · rw [listAction, hasked, ok_bind, check_pos hvalid, ok_bind, hset', ok_bind]
  · rw [featureListFromDynFeatureSet_lists]
    refine exists_congr fun dfm => ?_
    rw [hmem', memberOf_version, hmem]

/-- **The list is right exactly where** the reference is refused or the version of the display is a known one. -/
theorem featureList_right_iff (a : VersionAnswers) (id : FeatureSubsetId) (arg : DrefArg) (dref : MetadataDref)
    (includeTableFeatures : Bool) (featureList : FeatureList) :
    FeatureListRight a id arg dref includeTableFeatures featureList ↔
      (validateDdcaDisplayRef arg = 0 → KnownVersion a dref.version) := by
  unfold FeatureListRight ddcaGetFeatureListByDref
  by_cases hvalid : validateDdcaDisplayRef arg = 0
  · rw [if_pos hvalid]
    constructor
    · rintro ⟨status, result, hcall, -⟩ -
      obtain ⟨list, hlist, -⟩ := bind_eq_ok.1 hcall
      obtain ⟨asked, hasked, hlist⟩ := bind_eq_ok.1 hlist
      obtain ⟨_, hcheck, -⟩ := bind_eq_ok.1 hlist
      exact knownVersion_iff.1 ⟨asked, hasked, check_eq_ok.1 hcheck⟩
    · intro h
      obtain ⟨result, members, after, haction, hset, hlists⟩ := listAction_lists (h hvalid) id includeTableFeatures
      rw [haction, ok_bind]
      exact ⟨0, result, rfl, fun hne => absurd hvalid hne, fun _ => ⟨rfl, members, after, hset, hlists⟩⟩
  · rw [if_neg hvalid]
    exact iff_of_true ⟨_, _, rfl, fun _ => ⟨hvalid, rfl⟩, fun h => absurd h hvalid⟩ fun h => absurd h hvalid

def v23Dref : MetadataDref := ⟨⟨⟨.i2c, vspecUnqueried, none, ⟨2, 3⟩, true, false⟩, 0, 0, VcpIo.start⟩, none⟩

/-- **The list of a display that has reported version 2.3** fails an assertion. -/
theorem v23_not_listed : ¬ FeatureListRight busyAnswers .known (.published 0 0) v23Dref true emptyBitSet256 := by
  rintro ⟨status, result, hcall, -⟩
  cases hcall

end Ddc
