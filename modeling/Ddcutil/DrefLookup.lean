import Ddcutil.DisplayRefs
/-!
# DrefLookup — when the search for a bus's reference keeps its contract

The contract: removed references are ignored, no assertion fails, the newest eligible reference is returned, and at
most one reference of the bus is left that is not marked removed.
-/
namespace Ddc

open Kit List

def OnBus (key : DrefKey) (dref : DisplayRef) : Prop := isI2c dref.ioPath = true ∧ key.matches dref = true

def Live (key : DrefKey) (dref : DisplayRef) : Prop := OnBus key dref ∧ dref.flags.removed = false

/-- **The references a search may return**: those not removed and, with `ignore_invalid`, with a display number. -/
def Eligible (key : DrefKey) (ignoreInvalid : Bool) (dref : DisplayRef) : Prop :=
  Live key dref ∧ (ignoreInvalid = true → 0 < dref.dispno)

def AtMostOne (p : DisplayRef → Prop) (drefs : List DisplayRef) : Prop :=
  ∀ (i j : Nat) (di dj : DisplayRef), drefs[i]? = some di → drefs[j]? = some dj → p di → p dj → i = j

def LookupRight (buses : Heap BusInfo) (drefs : List DisplayRef) (key : DrefKey) (ignoreInvalid : Bool) : Prop :=
  ∃ result drefs', getDrefByBusnoOrConnector buses drefs key ignoreInvalid = .ok (result, drefs') ∧
    (∀ ndx, result = some ndx → ∃ dref, drefs[ndx]? = some dref ∧ Eligible key ignoreInvalid dref ∧
      ∀ other ∈ drefs, Eligible key ignoreInvalid other → other.creationTimestamp ≤ dref.creationTimestamp) ∧
    (result = none → ∀ dref ∈ drefs, ¬ Eligible key ignoreInvalid dref) ∧
    AtMostOne (Live key) drefs'

def Newest (key : DrefKey) (drefs : List DisplayRef) (dref : DisplayRef) : Prop :=
  Live key dref ∧ ∀ other ∈ drefs, Live key other → other.creationTimestamp ≤ dref.creationTimestamp

/-- **When it keeps its promise.**  With `ignore_invalid`: at most one reference of the bus is not removed, or all that
are not have a display number and one is newer than the others.  Without: the bus has at most one reference, which is
not removed. -/
def LookupClean (buses : Heap BusInfo) (drefs : List DisplayRef) (key : DrefKey) (ignoreInvalid : Bool) : Prop :=
  ConnectorsAgree buses drefs key ignoreInvalid ∧
    if ignoreInvalid = true then
      AtMostOne (Live key) drefs ∨
        (∀ dref ∈ drefs, Live key dref → 0 < dref.dispno) ∧ AtMostOne (Newest key drefs) drefs
    else (∀ dref ∈ drefs, OnBus key dref → dref.flags.removed = false) ∧ AtMostOne (OnBus key) drefs

/-! ## What is counted -/

theorem counted_ignoring (key : DrefKey) (dref : DisplayRef) : Counted key true dref ↔ Eligible key true dref := by
  unfold Counted Eligible Live OnBus ignored
  cases isI2c dref.ioPath <;> cases dref.flags.removed <;> simp [and_comm]

theorem counted_all (key : DrefKey) (dref : DisplayRef) : Counted key false dref ↔ OnBus key dref := by
  unfold Counted OnBus ignored
  cases isI2c dref.ioPath <;> simp

variable {p : DisplayRef → Prop} {dref : DisplayRef} {drefs : List DisplayRef} {key : DrefKey} {s : DrefSearch}

theorem atMostOne_cons (hp : ¬ p dref) : AtMostOne p (dref :: drefs) ↔ AtMostOne p drefs := by
  constructor
  · intro h i j di dj hi hj hpi hpj; exact Nat.succ.inj (h (i + 1) (j + 1) di dj hi hj hpi hpj)
  · intro h i j di dj hi hj hpi hpj
    cases i with
    | zero =>
      cases hi; exact absurd hpi hp
    | succ i =>
      cases j with
      | zero =>
        cases hj; exact absurd hpj hp
      | succ j => rw [h i j di dj hi hj hpi hpj]

theorem atMostOne_cons_of_pos (hp : p dref) : AtMostOne p (dref :: drefs) ↔ ∀ other ∈ drefs, ¬ p other := by
  constructor
  · intro h other hother hpo
    obtain ⟨i, hi⟩ := mem_iff_getElem?.1 hother
    exact absurd (h 0 (i + 1) dref other rfl hi hp hpo) (Nat.succ_ne_zero i).symm
  · intro h i j di dj hi hj hpi hpj
    cases i with
    | zero =>
      cases j with
      | zero => rfl
      | succ j => exact absurd hpj (h dj (mem_of_getElem? hj))
    | succ i => exact absurd hpi (h di (mem_of_getElem? hi))

theorem countP_le_one [DecidablePred p] (drefs : List DisplayRef) :
    drefs.countP (fun dref => decide (p dref)) ≤ 1 ↔ AtMostOne p drefs := by
  induction drefs with
  | nil => exact ⟨(fun _ _ _ _ _ hi => nomatch hi), fun _ => Nat.zero_le 1⟩
  | cons dref drefs ih =>
    by_cases hp : p dref
    · rw [atMostOne_cons_of_pos hp, countP_cons_of_pos (by simpa using hp)]
      have hzero : drefs.countP (fun dref => decide (p dref)) + 1 ≤ 1 ↔
          drefs.countP (fun dref => decide (p dref)) = 0 := by omega
      rw [hzero, countP_eq_zero]
      simp only [decide_eq_true_eq]
    · rw [atMostOne_cons hp, countP_cons_of_neg (by simpa using hp), ih]

theorem Searched.count_le_one {ignoreInvalid : Bool} (hs : Searched key ignoreInvalid drefs s) :
    ¬ 1 < s.nonRemovedCt ↔ AtMostOne (Counted key ignoreInvalid) drefs := by
  rw [hs.count, Nat.not_lt, countP_le_one]

theorem Searched.result_newest {ignoreInvalid : Bool} (hs : Searched key ignoreInvalid drefs s) {ndx : Nat}
    (hndx : s.result = some ndx) :
    ∃ dref, drefs[ndx]? = some dref ∧ Counted key ignoreInvalid dref ∧
      ∀ other ∈ drefs, Counted key ignoreInvalid other → other.creationTimestamp ≤ dref.creationTimestamp := by
  obtain ⟨dref, hdref, hcounted, hts⟩ := hs.newest ndx hndx
  refine ⟨dref, hdref, hcounted, fun other hother hcounted' => ?_⟩
  rw [hts]; exact hs.highest other hother hcounted'

/-! ## The search with `ignore_invalid` -/

theorem live_repairDref {highest : Nat} :
    Live key (repairDref key true highest dref) ↔
      Live key dref ∧ (dref.dispno ≤ 0 ∨ highest ≤ dref.creationTimestamp) := by
  have hcounted : (ignored true dref = false ∧ key.matches dref = true ∧ dref.creationTimestamp < highest) ↔
      Live key dref ∧ 0 < dref.dispno ∧ dref.creationTimestamp < highest := by
    have h := counted_ignoring key dref
    unfold Counted Eligible at h
    rw [← and_assoc, h]
    simp only [true_imp_iff, and_assoc]
  unfold repairDref
  split
  · rename_i h
    rw [hcounted] at h
    constructor
    · intro hlive
      have hremoved : true = false := hlive.2
      cases hremoved
    · rintro ⟨-, hdispno | hnew⟩
      · omega
      · omega
  · rename_i h
    rw [hcounted] at h
    refine ⟨fun hlive => ⟨hlive, ?_⟩, And.left⟩
    by_cases hdispno : 0 < dref.dispno
    · right
      apply Nat.le_of_not_lt
      exact fun hold => h ⟨hlive, hdispno, hold⟩
    · omega

theorem atMostOne_map {q : DisplayRef → Prop} {f : DisplayRef → DisplayRef} (h : ∀ dref, p (f dref) ↔ q dref) :
    AtMostOne p (drefs.map f) ↔ AtMostOne q drefs := by
  unfold AtMostOne
  simp only [getElem?_map, Option.map_eq_some_iff]
  constructor
  · intro hmap i j di dj hi hj hqi hqj
    exact hmap i j _ _ ⟨di, hi, rfl⟩ ⟨dj, hj, rfl⟩ ((h di).2 hqi) ((h dj).2 hqj)
  · rintro hq i j _ _ ⟨di, hi, rfl⟩ ⟨dj, hj, rfl⟩ hpi hpj
    exact hq i j di dj hi hj ((h di).1 hpi) ((h dj).1 hpj)

theorem AtMostOne.mono {q : DisplayRef → Prop} (h : AtMostOne q drefs) (hpq : ∀ dref ∈ drefs, p dref → q dref) :
    AtMostOne p drefs := fun i j di dj hi hj hpi hpj =>
  h i j di dj hi hj (hpq di (mem_of_getElem? hi) hpi) (hpq dj (mem_of_getElem? hj) hpj)

theorem repaired_iff (hs : Searched key true drefs s) (hct : 1 < s.nonRemovedCt) :
    AtMostOne (Live key) (drefs.map (repairDref key true s.highest)) ↔
      (∀ dref ∈ drefs, Live key dref → 0 < dref.dispno) ∧ AtMostOne (Newest key drefs) drefs := by
  have hcounted : ∀ {dref : DisplayRef}, Counted key true dref ↔ Live key dref ∧ 0 < dref.dispno := by
    intro dref
    rw [counted_ignoring]; exact ⟨fun h => ⟨h.1, h.2 rfl⟩, fun h => ⟨h.1, fun _ => h.2⟩⟩
  have hresult : s.result ≠ none := by
    intro hnone
    have hzero : s.nonRemovedCt = 0 := by
      rw [hs.count, countP_eq_zero]
      intro dref hdref
      simpa using hs.not_counted hnone hdref
    omega
  obtain ⟨ndx, hndx⟩ := Option.ne_none_iff_exists'.1 hresult
  obtain ⟨new, hnew, hnewCounted, hts⟩ := hs.newest ndx hndx
  have hnewLive := hcounted.1 hnewCounted
  rw [atMostOne_map fun _ => live_repairDref]
  constructor
  · intro hone
    refine ⟨fun dref hdref hlive => ?_, hone.mono fun dref hdref hnewest => ?_⟩
    · by_contra hdispno
      obtain ⟨j, hj⟩ := mem_iff_getElem?.1 hdref
      have heq := hone j ndx dref new hj hnew ⟨hlive, .inl (by omega)⟩ ⟨hnewLive.1, .inr (Nat.le_of_eq hts.symm)⟩
      rw [heq, hnew] at hj
      cases hj; exact hdispno hnewLive.2
    · refine ⟨hnewest.1, .inr ?_⟩
      rw [← hts]; exact hnewest.2 new (mem_of_getElem? hnew) hnewLive.1
  · rintro ⟨hall, hone⟩
    refine hone.mono fun dref hdref hleft => ⟨hleft.1, fun other hother hlive => ?_⟩
    have hle := hs.highest other hother (hcounted.2 ⟨hlive, hall other hother hlive⟩)
    have hdispno := hall dref hdref hleft.1
    rcases hleft.2 with hneg | hge
    · omega
    · exact Nat.le_trans hle hge

/-! ## The contract -/

theorem lookupRight_ignoring {buses : Heap BusInfo} (hagree : ConnectorsAgree buses drefs key true) :
    LookupRight buses drefs key true ↔ AtMostOne (Live key) drefs ∨
      (∀ dref ∈ drefs, Live key dref → 0 < dref.dispno) ∧ AtMostOne (Newest key drefs) drefs := by
  obtain ⟨s, hs, hget⟩ := getDref_spec hagree
  have hfound : (∀ ndx, s.result = some ndx → ∃ dref, drefs[ndx]? = some dref ∧ Eligible key true dref ∧
      ∀ other ∈ drefs, Eligible key true other → other.creationTimestamp ≤ dref.creationTimestamp) ∧
      (s.result = none → ∀ dref ∈ drefs, ¬ Eligible key true dref) := by
    simp only [← counted_ignoring]
    exact ⟨fun ndx hndx => hs.result_newest hndx, fun hnone dref hdref => hs.not_counted hnone hdref⟩
  rw [LookupRight, hget]
  by_cases hct : 1 < s.nonRemovedCt
  · rw [if_pos hct, if_pos rfl, ← repaired_iff hs hct]
    constructor
    · rintro ⟨result, drefs', hok, -, -, hone⟩
      cases hok; exact .inr hone
    · rintro (hone | hone)
      · have hcounted : AtMostOne (Counted key true) drefs := by
          refine hone.mono fun dref _ hcounted => ?_
          rw [counted_ignoring] at hcounted; exact hcounted.1
        exact absurd hct (hs.count_le_one.2 hcounted)
      · exact ⟨_, _, rfl, hfound.1, hfound.2, hone⟩
  · rw [if_neg hct]
    constructor
    · rintro ⟨result, drefs', hok, -, -, hone⟩
      cases hok; exact .inl hone
    · rintro (hone | ⟨hall, -⟩)
      · exact ⟨_, _, rfl, hfound.1, hfound.2, hone⟩
      · refine ⟨_, _, rfl, hfound.1, hfound.2, (hs.count_le_one.1 hct).mono fun dref hdref hlive => ?_⟩
        rw [counted_ignoring]; exact ⟨hlive, fun _ => hall dref hdref hlive⟩

theorem lookupRight_all {buses : Heap BusInfo} (hagree : ConnectorsAgree buses drefs key false) :
    LookupRight buses drefs key false ↔
      (∀ dref ∈ drefs, OnBus key dref → dref.flags.removed = false) ∧ AtMostOne (OnBus key) drefs := by
  obtain ⟨s, hs, hget⟩ := getDref_spec hagree
  have heligible : ∀ dref, Eligible key false dref ↔ OnBus key dref ∧ dref.flags.removed = false := by
    unfold Eligible Live; simp
  have hcount := hs.count_le_one
  simp only [funext fun dref => propext (counted_all key dref)] at hcount
  rw [LookupRight, hget]
  by_cases hct : 1 < s.nonRemovedCt
  · rw [if_pos hct, if_neg Bool.false_ne_true]
    constructor
    · rintro ⟨result, drefs', hok, -⟩
      cases hok
    · rintro ⟨-, hone⟩
      exact absurd hct (hcount.2 hone)
  · rw [if_neg hct]
    have hone := hcount.1 hct
    constructor
    · rintro ⟨result, drefs', hok, hresult, -, -⟩
      cases hok
      refine ⟨fun dref hdref hbus => ?_, hone⟩
      cases hr : s.result with
      | none => exact absurd ((counted_all key dref).2 hbus) (hs.not_counted hr hdref)
      | some ndx =>
        -- the one reference of the bus is the result, which is eligible
        obtain ⟨new, hnew, hnewEligible, -⟩ := hresult ndx hr
        rw [heligible] at hnewEligible
        obtain ⟨j, hj⟩ := mem_iff_getElem?.1 hdref
        have heq := hone j ndx dref new hj hnew hbus hnewEligible.1
        rw [heq, hnew] at hj
        cases hj; exact hnewEligible.2
    · rintro ⟨hall, -⟩
      refine ⟨_, _, rfl, fun ndx hndx => ?_, fun hnone dref hdref hel => ?_, hone.mono fun dref _ hlive => hlive.1⟩
      · obtain ⟨new, hnew, hcounted, hmax⟩ := hs.result_newest hndx
        rw [counted_all] at hcounted
        refine ⟨new, hnew, (heligible new).2 ⟨hcounted, hall new (mem_of_getElem? hnew) hcounted⟩, ?_⟩
        exact fun other hother hel => hmax other hother ((counted_all key other).2 ((heligible other).1 hel).1)
      · exact hs.not_counted hnone hdref ((counted_all key dref).2 ((heligible dref).1 hel).1)

/-- **The search keeps its promise exactly where it is clean.** -/
theorem lookupRight_iff (buses : Heap BusInfo) (drefs : List DisplayRef) (key : DrefKey) (ignoreInvalid : Bool) :
    LookupRight buses drefs key ignoreInvalid ↔ LookupClean buses drefs key ignoreInvalid := by
  have hagree : LookupRight buses drefs key ignoreInvalid → ConnectorsAgree buses drefs key ignoreInvalid := by
    rintro ⟨result, drefs', hok, -⟩
    obtain ⟨s, hs, -⟩ := Exec.bind_eq_ok.1 hok
    exact (searchDrefs_returns drefs 0 _).1 ⟨s, hs⟩
  cases ignoreInvalid with
  | true =>
    exact ⟨fun h => ⟨hagree h, (lookupRight_ignoring (hagree h)).1 h⟩, fun h => (lookupRight_ignoring h.1).2 h.2⟩
  | false =>
    exact ⟨fun h => ⟨hagree h, (lookupRight_all (hagree h)).1 h⟩, fun h => (lookupRight_all h.1).2 h.2⟩

def pluggedInAgain : List DisplayRef :=
  [⟨.i2c 4, { noDrefFlags with communicationWorking := true, removed := true }, 1, none, none, 1, by decide⟩,
    ⟨.i2c 4, { noDrefFlags with communicationWorking := true }, 2, some 0, none, 2, by decide⟩]

/-- The reference of a display that does not communicate, left behind when the display went, and the one of a display
that came to the same bus. -/
def failedAndNew : List DisplayRef :=
  [⟨.i2c 4, { noDrefFlags with communicationChecked := true }, -1, some 0, none, 1, by decide⟩,
    ⟨.i2c 4, { noDrefFlags with communicationWorking := true }, 1, some 0, none, 2, by decide⟩]

def noBusInfos : Heap BusInfo := ⟨fun _ => none, 0, fun _ _ => rfl⟩

/-- The first search fails its assertion, the second leaves two references that are not removed. -/
theorem lookup_not_right :
    ¬ LookupRight noBusInfos pluggedInAgain (.byBusno 4) false ∧
      ¬ LookupRight noBusInfos failedAndNew (.byBusno 4) true := by
  constructor
  · rintro ⟨result, drefs', hok, -⟩
    cases hok
  · rintro ⟨result, drefs', hok, -, -, hone⟩
    cases hok; exact absurd (hone 0 1 _ _ rfl rfl ⟨⟨rfl, rfl⟩, rfl⟩ ⟨⟨rfl, rfl⟩, rfl⟩) (by decide)

end Ddc
