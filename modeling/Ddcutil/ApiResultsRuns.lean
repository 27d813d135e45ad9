import Ddcutil.ApiResults
/-!
# ApiResultsRuns — when a call returns right

A function that clears the location before it does anything else answers right whatever comes next.  The others leave
in it what the caller left there when they fail early: a stale pointer is then taken for a result, by the caller or by
the function's own assertion.
-/
namespace Ddc

open Kit Exec

/-! ## Answers -/

variable {location : Option Bool} {returned : ResultReturn} {c : ResultCall} {status lower failed : Status}
variable {body action : Exec ResultReturn}

theorem answersRight_ok :
    AnswersRight location (.ok returned) ↔ (location = none → returned.1 = ddcrcArg) ∧
      (location ≠ none → (returned.2 = some .pointer ↔ returned.1 = 0)) := by
  constructor
  · rintro ⟨other, hother, h⟩
    cases hother; exact h
  · exact fun h => ⟨returned, rfl, h⟩

theorem not_answersRight_error (location : Option Bool) (e : Fault) : ¬ AnswersRight location (.error e) := by
  rintro ⟨_, h, _⟩
  cases h

theorem answersRight_none : AnswersRight none (.ok returned) ↔ returned.1 = ddcrcArg := by
  rw [answersRight_ok]; exact ⟨fun h => h.1 rfl, fun h => ⟨fun _ => h, fun hne => absurd rfl hne⟩⟩

theorem answersRight_some {holds : Bool} :
    AnswersRight (some holds) (.ok returned) ↔ (returned.2 = some .pointer ↔ returned.1 = 0) := by
  rw [answersRight_ok]
  exact ⟨fun h => h.2 (by simp), fun h => ⟨fun hnone => absurd hnone (Option.some_ne_none holds), fun _ => h⟩⟩

theorem prior_eq_pointer : c.prior = some .pointer ↔ c.location = some true := by
  unfold ResultCall.prior
  cases c.location with
  | none => simp
  | some holds => cases holds <;> simp

theorem answersRight_left (hstatus : status ≠ 0) (hloc : c.location ≠ none) :
    AnswersRight c.location (.ok (status, c.prior)) ↔ c.EmptyLocation := by
  rw [answersRight_ok]
  constructor
  · exact fun h hprior => hstatus ((h.2 hloc).1 (prior_eq_pointer.2 hprior))
  · exact fun h => ⟨fun hnone => absurd hnone hloc, fun _ => iff_of_false (fun hp => h (prior_eq_pointer.1 hp)) hstatus⟩

theorem lowerResult_eq_pointer : lowerResult lower = .pointer ↔ lower = 0 := by
  unfold lowerResult
  split <;> simp_all

theorem lowerResult_eq_null : lowerResult lower = .null ↔ lower ≠ 0 := by
  unfold lowerResult
  split <;> simp_all

theorem answersRight_lower {holds : Bool} (h : status = 0 ↔ lower = 0) :
    AnswersRight (some holds) (.ok (status, some (lowerResult lower))) := by
  rw [answersRight_some]; exact (Option.some_inj.trans lowerResult_eq_pointer).trans h.symm

theorem parsedResult_status (h : failed ≠ 0) : (parsedResult failed lower).1 = 0 ↔ lower = 0 := by
  unfold parsedResult
  split <;> simp_all

theorem answersRight_parsed {holds : Bool} (h : failed ≠ 0) :
    AnswersRight (some holds) (.ok (parsedResult failed lower)) :=
  answersRight_lower (parsedResult_status h)

theorem assertIff_lower (h : status = 0 ↔ lower = 0) :
    assertIffResult status (some (lowerResult lower)) = .ok () := by
  rw [assertIffResult, derefLocation, ok_bind, if_pos (h.trans (by rw [ne_eq, lowerResult_eq_null, not_not]))]

theorem assertIff_parsed (h : failed ≠ 0) :
    assertIffResult (parsedResult failed lower).1 (parsedResult failed lower).2 = .ok () :=
  assertIff_lower (parsedResult_status h)

@[simp] theorem assertIff_pointer : assertIffResult 0 (some .pointer) = .ok () := rfl

theorem assertIff_left (hstatus : status ≠ 0) :
    assertIffResult status c.prior = .ok () ↔ c.location = some false := by
  unfold assertIffResult derefLocation ResultCall.prior
  cases c.location with
  | none => simp
  | some holds => cases holds <;> simp [hstatus]

theorem emptyLocation_iff (h : c.location ≠ none) : c.EmptyLocation ↔ c.location = some false := by
  unfold ResultCall.EmptyLocation
  cases hl : c.location with
  | none => exact absurd hl h
  | some holds => cases holds <;> simp

theorem assertLocation_none (h : location = none) : assertLocation location = .error .assertFailed := if_pos h

theorem assertLocation_some (h : location ≠ none) : assertLocation location = .ok () := if_neg h

/-! ## The prologue and the validations -/

theorem uninitialized_ne_zero : ddcrcUninitialized ≠ 0 := by decide

theorem quiesced_ne_zero : ddcrcQuiesced ≠ 0 := by decide

theorem answersRight_refused (hstatus : status ≠ 0) (harg : status ≠ ddcrcArg) :
    AnswersRight c.location (.ok (status, c.prior)) ↔ c.location ≠ none ∧ c.EmptyLocation := by
  by_cases hloc : c.location = none
  · rw [hloc, answersRight_none]; exact ⟨fun h => absurd h harg, fun h => absurd rfl h.1⟩
  · rw [answersRight_left hstatus hloc]; exact ⟨fun h => ⟨hloc, h⟩, fun h => h.2⟩

theorem answersRight_respecting :
    AnswersRight c.location (resultPrologx true c body) ↔
      c.finds = .ready ∧ AnswersRight c.location body ∨
        ¬ c.finds = .ready ∧ c.location ≠ none ∧ c.EmptyLocation := by
  unfold resultPrologx
  cases c.finds with
  | ready => simp
  | initializationFailed =>
    rw [answersRight_refused uninitialized_ne_zero (by decide)]; simp
  | quiesced =>
    rw [if_pos rfl, answersRight_refused quiesced_ne_zero (by decide)]; simp

theorem answersRight_not_respecting :
    AnswersRight c.location (resultPrologx false c body) ↔
      c.finds ≠ .initializationFailed ∧ AnswersRight c.location body ∨
        ¬ c.finds ≠ .initializationFailed ∧ c.location ≠ none ∧ c.EmptyLocation := by
  unfold resultPrologx
  cases c.finds with
  | ready => simp
  | initializationFailed =>
    rw [answersRight_refused uninitialized_ne_zero (by decide)]; simp
  | quiesced =>
    simp

theorem answersRight_precond :
    AnswersRight c.location (resultPrecond c body) ↔ c.location = none ∨ c.location ≠ none ∧ AnswersRight c.location body := by
  unfold resultPrecond
  by_cases hloc : c.location = none
  · rw [if_pos hloc, hloc, answersRight_none]; simp
  · simp [hloc]

theorem answersRight_assertLocation :
    AnswersRight c.location (do assertLocation c.location; body) ↔ c.location ≠ none ∧ AnswersRight c.location body := by
  by_cases hloc : c.location = none
  · rw [assertLocation_none hloc, error_bind]
    exact ⟨fun h => absurd h (not_answersRight_error _ _), fun h => absurd hloc h.1⟩
  · rw [assertLocation_some hloc, ok_bind]; exact ⟨fun h => ⟨hloc, h⟩, fun h => h.2⟩

theorem withHandle_pos (h : validateDdcaDisplayHandle c.dh = 0) : withHandle c action = action := if_pos h

theorem withHandle_neg (h : validateDdcaDisplayHandle c.dh ≠ 0) :
    withHandle c action = .ok (validateDdcaDisplayHandle c.dh, c.prior) := if_neg h

theorem withDref_pos (h : validateDdcaDisplayRef c.dref = 0) : withDref c action = action := if_pos h

theorem withDref_neg (h : validateDdcaDisplayRef c.dref ≠ 0) :
    withDref c action = .ok (validateDdcaDisplayRef c.dref, c.prior) := if_neg h

theorem answersRight_withHandle (hloc : c.location ≠ none)
    (haction : validateDdcaDisplayHandle c.dh = 0 → AnswersRight c.location action) :
    AnswersRight c.location (withHandle c action) ↔ c.EmptyLocation ∨ validateDdcaDisplayHandle c.dh = 0 := by
  by_cases h : validateDdcaDisplayHandle c.dh = 0
  · rw [withHandle_pos h]; exact ⟨fun _ => .inr h, fun _ => haction h⟩
  · rw [withHandle_neg h, answersRight_left h hloc]; exact ⟨.inl, fun hor => hor.resolve_right h⟩

theorem answersRight_withDref (hloc : c.location ≠ none) (haction : AnswersRight c.location action) :
    AnswersRight c.location (withDref c action) ↔ c.EmptyLocation ∨ validateDdcaDisplayRef c.dref = 0 := by
  by_cases h : validateDdcaDisplayRef c.dref = 0
  · rw [withDref_pos h]; exact ⟨fun _ => .inr h, fun _ => haction⟩
  · rw [withDref_neg h, answersRight_left h hloc]; exact ⟨.inl, fun hor => hor.resolve_right h⟩

theorem dhRepr_eq_ok {dh : HandleArg} : dhRepr dh = .ok () ↔ dh ≠ .invalid := by
  cases dh <;> simp [dhRepr]

theorem answersRight_dhRepr {dh : HandleArg} :
    AnswersRight location (do dhRepr dh; body) ↔ dh ≠ .invalid ∧ AnswersRight location body := by
  cases dh with
  | null => simp [dhRepr]
  | invalid => simpa [dhRepr] using not_answersRight_error location .outOfBounds
  | handle validation => simp [dhRepr]

/-! ## The functions -/

theorem location_some (h : c.location ≠ none) : ∃ holds, c.location = some holds :=
  Option.ne_none_iff_exists'.1 h

theorem explicitType_returns (hloc : c.location ≠ none) :
    ∃ returned, ddciGetAnyVcpValueUsingExplicitType c = .ok returned ∧
      assertIffResult returned.1 returned.2 = .ok () ∧ returned.2 ≠ none ∧
      (returned.2 = some .pointer ↔ returned.1 = 0) := by
  rw [ddciGetAnyVcpValueUsingExplicitType, assertLocation_some hloc, ok_bind]
  by_cases h : validateDdcaDisplayHandle c.dh = 0
  · rw [withHandle_pos (by exact h), ok_bind]
    refine ⟨(c.lower, some (lowerResult c.lower)), ?_, assertIff_lower .rfl, ?_, ?_⟩
    · rw [assertIff_lower .rfl, ok_bind]
    · exact Option.some_ne_none _
    · exact Option.some_inj.trans lowerResult_eq_pointer
  · rw [withHandle_neg (by exact h), ok_bind]
    have hassert : assertIffResult (validateDdcaDisplayHandle c.dh) (some .null) = .ok () := by
      rw [assertIffResult, derefLocation, ok_bind, if_pos (iff_of_false h (fun hne => hne rfl))]
    refine ⟨(validateDdcaDisplayHandle c.dh, some .null), ?_, hassert, ?_, ?_⟩
    · show (do assertIffResult (validateDdcaDisplayHandle c.dh) (some .null); _) = _
      rw [hassert, ok_bind]; rfl
    · exact Option.some_ne_none _
    · exact iff_of_false (by simp) h

theorem derefLocation_some {location : Option Pointee} (h : location ≠ none) :
    ∃ pointee, derefLocation location = .ok pointee := by
  obtain ⟨pointee, rfl⟩ := Option.ne_none_iff_exists'.1 h
  exact ⟨pointee, rfl⟩

theorem answersRight_of_returned (hloc : location ≠ none) (h : returned.2 = some .pointer ↔ returned.1 = 0) :
    AnswersRight location (.ok returned) :=
  answersRight_ok.2 ⟨fun hnone => absurd hnone hloc, fun _ => h⟩

theorem explicitType_right (c : ResultCall) :
    ReturnsRight .getAnyVcpValueUsingExplicitType c ↔ ReturnsGuard .getAnyVcpValueUsingExplicitType c := by
  refine answersRight_respecting.trans (or_congr (and_congr .rfl ?_) .rfl)
  rw [answersRight_assertLocation]
  refine and_iff_left_of_imp fun hloc => ?_
  obtain ⟨returned, hreturned, hassert, hsome, hright⟩ :=
    explicitType_returns (c := { c with location := some false }) (by simp)
  obtain ⟨pointee, hpointee⟩ := derefLocation_some hsome
  rw [hreturned, ok_bind, hpointee, ok_bind, hassert, ok_bind]
  exact answersRight_of_returned hloc hright

theorem implicitType_right (c : ResultCall) :
    ReturnsRight .getAnyVcpValueUsingImplicitType c ↔ ReturnsGuard .getAnyVcpValueUsingImplicitType c := by
  refine answersRight_respecting.trans (or_congr (and_congr .rfl ?_) .rfl)
  rw [answersRight_assertLocation]
  refine and_congr_right fun hloc => ?_
  unfold valueTypeStatus
  cases hdh : c.dh with
  | null => exact iff_of_false (not_answersRight_error _ _) fun h => by obtain ⟨_, h⟩ := h.1; cases h
  | invalid => exact iff_of_false (not_answersRight_error _ _) fun h => by obtain ⟨_, h⟩ := h.1; cases h
  | handle validation =>
    dsimp only [versionByDdcaDh]
    rw [ok_bind, ok_bind]
    have hhandle : ∃ v, HandleArg.handle validation = .handle v := ⟨validation, rfl⟩
    cases hknown : c.isKnown with
    | true =>
      obtain ⟨returned, hreturned, hassert, -, hright⟩ := explicitType_returns hloc
      rw [if_pos rfl, if_pos rfl, hreturned, ok_bind, hassert, ok_bind]
      exact iff_of_true (answersRight_of_returned hloc hright) ⟨hhandle, .inl rfl⟩
    | false =>
      rw [if_neg Bool.false_ne_true, if_neg (by decide), ok_bind]
      dsimp only
      have hempty := emptyLocation_iff hloc
      by_cases hprior : c.location = some false
      · rw [(assertIff_left (c := c) (by decide)).2 hprior, ok_bind, answersRight_left (by decide) hloc]
        exact iff_of_true (hempty.2 hprior) ⟨hhandle, .inr (hempty.2 hprior)⟩
      · refine iff_of_false ?_ fun h => hprior (hempty.1 (h.2.resolve_left Bool.false_ne_true))
        rintro ⟨returned, hreturned, -⟩
        obtain ⟨_, hassert, -⟩ := bind_eq_ok.1 hreturned
        exact hprior ((assertIff_left (by decide)).1 hassert)

theorem tableEpilog_eq (hdh : c.dh ≠ .invalid) (hsome : returned.2 ≠ none) : tableEpilog c returned = .ok returned := by
  obtain ⟨pointee, hpointee⟩ := derefLocation_some hsome
  rw [tableEpilog, dhRepr_eq_ok.2 hdh, ok_bind, hpointee, ok_bind]

theorem tableEpilog_returns {outcome : ResultReturn} (h : tableEpilog c returned = .ok outcome) :
    c.dh ≠ .invalid ∧ returned.2 ≠ none := by
  obtain ⟨_, hdh, h⟩ := bind_eq_ok.1 h
  obtain ⟨pointee, hpointee, -⟩ := bind_eq_ok.1 h
  refine ⟨dhRepr_eq_ok.1 hdh, fun hnone => ?_⟩
  rw [hnone] at hpointee; cases hpointee

theorem prior_ne_none (hloc : c.location ≠ none) : c.prior ≠ none := by
  obtain ⟨holds, hholds⟩ := location_some hloc
  rw [ResultCall.prior, hholds]; exact Option.some_ne_none _

theorem tableAction_right (hloc : c.location ≠ none) (hdh : c.dh ≠ .invalid) :
    AnswersRight c.location (do let returned ← tableAction c; tableEpilog c returned) ↔ c.EmptyLocation ∨ c.lower = 0 := by
  rw [tableAction, tableResult, assertLocation_some hloc, ok_bind]
  by_cases hlower : c.lower = 0
  · rw [if_pos hlower, hlower, assertIff_pointer, ok_bind, ok_bind,
      tableEpilog_eq hdh (Option.some_ne_none _)]
    exact iff_of_true (answersRight_of_returned hloc (iff_of_true rfl rfl)) (.inr rfl)
  · rw [if_neg hlower, or_iff_left hlower, emptyLocation_iff hloc]
    constructor
    · rintro ⟨returned, hreturned, -⟩
      obtain ⟨_, haction, -⟩ := bind_eq_ok.1 hreturned
      obtain ⟨_, hassert, -⟩ := bind_eq_ok.1 haction
      exact (assertIff_left hlower).1 hassert
    · intro hprior
      rw [(assertIff_left hlower).2 hprior, ok_bind, ok_bind, tableEpilog_eq hdh (prior_ne_none hloc),
        answersRight_left hlower hloc]
      exact (emptyLocation_iff hloc).2 hprior

theorem tableValue_right (c : ResultCall) : ReturnsRight .getTableVcpValue c ↔ ReturnsGuard .getTableVcpValue c := by
  refine answersRight_respecting.trans (or_congr (and_congr .rfl ?_) .rfl)
  by_cases hloc : c.location = none
  · -- the trace message reads the location whose precondition has failed
    rw [if_pos hloc, ok_bind]
    refine iff_of_false ?_ fun h => h.1 hloc
    rintro ⟨_, h, -⟩
    refine (tableEpilog_returns h).2 ?_
    rw [ResultCall.prior, hloc]; rfl
  · rw [if_neg hloc]
    by_cases hdh : c.dh = .invalid
    · refine iff_of_false ?_ fun h => h.2.1 hdh
      rintro ⟨_, h, -⟩
      obtain ⟨_, -, h⟩ := bind_eq_ok.1 h
      exact (tableEpilog_returns h).1 hdh
    · refine Iff.trans ?_ (show c.EmptyLocation ∨ validateDdcaDisplayHandle c.dh = 0 ∧ c.lower = 0 ↔ ReadyGuard c .getTableVcpValue
        from ⟨fun h => ⟨hloc, hdh, h⟩, fun h => h.2.2⟩)
      by_cases hvalid : validateDdcaDisplayHandle c.dh = 0
      · rw [withHandle_pos hvalid, tableAction_right hloc hdh, and_iff_right hvalid]
      · have hepilog : tableEpilog c (validateDdcaDisplayHandle c.dh, c.prior) = .ok (validateDdcaDisplayHandle c.dh, c.prior) :=
          tableEpilog_eq hdh (prior_ne_none hloc)
        rw [withHandle_neg hvalid, ok_bind, or_iff_left fun h => hvalid h.1, ← answersRight_left hvalid hloc, ← hepilog]

theorem metadataByVspec_right (c : ResultCall) :
    ReturnsRight .getFeatureMetadataByVspec c ↔ ReturnsGuard .getFeatureMetadataByVspec c := by
  refine answersRight_not_respecting.trans (or_congr (and_congr .rfl ?_) .rfl)
  rw [answersRight_assertLocation]
  refine and_iff_left_of_imp fun hloc => ?_
  obtain ⟨holds, hholds⟩ := location_some hloc
  rw [assertIff_parsed (by decide), ok_bind, hholds]; exact answersRight_parsed (by decide)

theorem metadataByDref_right (c : ResultCall) :
    ReturnsRight .getFeatureMetadataByDref c ↔ ReturnsGuard .getFeatureMetadataByDref c := by
  refine answersRight_respecting.trans (or_congr (and_congr .rfl ?_) .rfl)
  rw [answersRight_assertLocation]
  refine and_congr_right fun hloc => ?_
  obtain ⟨holds, hholds⟩ := location_some hloc
  have hempty := emptyLocation_iff hloc
  by_cases hvalid : validateDdcaDisplayRef c.dref = 0
  · rw [withDref_pos hvalid, ok_bind, metadataResult, assertIff_parsed (by decide), ok_bind, hholds]
    exact iff_of_true (answersRight_parsed (by decide)) (.inr hvalid)
  · rw [withDref_neg hvalid, ok_bind, or_iff_left hvalid]
    by_cases hprior : c.location = some false
    · rw [(assertIff_left hvalid).2 hprior, ok_bind, answersRight_left hvalid hloc]
    · refine iff_of_false ?_ fun h => hprior (hempty.1 h)
      rintro ⟨_, hreturned, -⟩
      obtain ⟨_, hassert, -⟩ := bind_eq_ok.1 hreturned
      exact hprior ((assertIff_left hvalid).1 hassert)

theorem emptyLocation_of_none (h : c.location = none) : c.EmptyLocation := by
  rw [ResultCall.EmptyLocation, h]; exact fun hc => by cases hc

theorem precond_validated {Valid : Prop}
    (h : c.location ≠ none → (AnswersRight c.location body ↔ c.EmptyLocation ∨ Valid)) :
    AnswersRight c.location (resultPrecond c body) ↔ c.EmptyLocation ∨ Valid := by
  rw [answersRight_precond]
  by_cases hloc : c.location = none
  · exact iff_of_true (.inl hloc) (.inl (emptyLocation_of_none hloc))
  · rw [or_iff_right hloc, and_iff_right hloc, h hloc]

theorem metadataByDh_right (c : ResultCall) :
    ReturnsRight .getFeatureMetadataByDh c ↔ ReturnsGuard .getFeatureMetadataByDh c := by
  refine answersRight_respecting.trans (or_congr (and_congr .rfl ?_) .rfl)
  rw [answersRight_dhRepr]
  refine and_congr_right fun _ => precond_validated fun hloc => answersRight_withHandle hloc fun _ => ?_
  obtain ⟨holds, hholds⟩ := location_some hloc
  rw [metadataResult, assertIff_parsed (by decide), ok_bind, hholds]
  exact answersRight_parsed (by decide)

theorem profileValues_right (c : ResultCall) :
    ReturnsRight .getProfileRelatedValues c ↔ ReturnsGuard .getProfileRelatedValues c := by
  refine answersRight_respecting.trans (or_congr (and_congr .rfl ?_) .rfl)
  refine precond_validated fun hloc => answersRight_withHandle hloc fun _ => ?_
  obtain ⟨holds, hholds⟩ := location_some hloc
  rw [assertIff_lower .rfl, ok_bind, hholds]; exact answersRight_lower .rfl

theorem displayInfo_right (c : ResultCall) : ReturnsRight .getDisplayInfo c ↔ ReturnsGuard .getDisplayInfo c := by
  refine answersRight_respecting.trans (or_congr (and_congr .rfl ?_) .rfl)
  exact precond_validated fun hloc => answersRight_withDref hloc (answersRight_of_returned hloc (iff_of_true rfl rfl))

theorem displayRefs_right (c : ResultCall) : ReturnsRight .getDisplayRefs c ↔ ReturnsGuard .getDisplayRefs c := by
  refine answersRight_respecting.trans (or_congr (and_congr .rfl ?_) .rfl)
  rw [answersRight_precond]
  refine iff_of_true ?_ trivial
  by_cases hloc : c.location = none
  · exact .inl hloc
  · exact .inr ⟨hloc, answersRight_of_returned hloc (iff_of_true rfl rfl)⟩

theorem precond_parsed (h : failed ≠ 0) :
    AnswersRight c.location
      (resultPrecond c do
        assertIffResult (parsedResult failed c.lower).1 (parsedResult failed c.lower).2
        .ok (parsedResult failed c.lower)) := by
  rw [answersRight_precond, assertIff_parsed h, ok_bind]
  by_cases hloc : c.location = none
  · exact .inl hloc
  · obtain ⟨holds, hholds⟩ := location_some hloc
    refine .inr ⟨hloc, ?_⟩
    rw [hholds]; exact answersRight_parsed h

theorem parseCapabilities_right (c : ResultCall) :
    ReturnsRight .parseCapabilitiesString c ↔ ReturnsGuard .parseCapabilitiesString c := by
  refine answersRight_not_respecting.trans (or_congr (and_congr .rfl ?_) .rfl)
  exact iff_of_true (precond_parsed (by decide)) trivial

theorem displayIdentifier_right (c : ResultCall) :
    ReturnsRight .createDisplayIdentifier c ↔ ReturnsGuard .createDisplayIdentifier c :=
  iff_of_true (precond_parsed (by decide)) (.inl ⟨trivial, trivial⟩)

theorem getCapabilitiesString_right (c : ResultCall) :
    ReturnsRight .getCapabilitiesString c ↔ ReturnsGuard .getCapabilitiesString c := by
  refine answersRight_respecting.trans (or_congr (and_congr .rfl ?_) .rfl)
  rw [answersRight_dhRepr, answersRight_precond]
  refine and_iff_left_of_imp fun hdh => ?_
  by_cases hloc : c.location = none
  · exact .inl hloc
  · refine .inr ⟨hloc, ?_⟩
    obtain ⟨holds, hholds⟩ := location_some hloc
    rw [assertIff_lower .rfl, dhRepr_eq_ok.2 hdh, ok_bind]
    by_cases hvalid : validateDdcaDisplayHandle c.dh = 0
    · rw [withHandle_pos (by exact hvalid), ok_bind, ok_bind, hholds]; exact answersRight_lower .rfl
    · rw [withHandle_neg (by exact hvalid), ok_bind, ok_bind]
      exact answersRight_of_returned hloc (iff_of_false (by simp [ResultCall.prior]) hvalid)

theorem formatValue_right (hloc : c.location ≠ none) :
    AnswersRight c.location
      (do let returned ← withDref c (.ok (formatResult c.lower)); let _ ← derefLocation returned.2; .ok returned) ↔
        c.EmptyLocation ∨ validateDdcaDisplayRef c.dref = 0 := by
  by_cases hvalid : validateDdcaDisplayRef c.dref = 0
  · rw [withDref_pos hvalid]
    refine iff_of_true (answersRight_of_returned hloc ?_) (.inr hvalid)
    unfold formatResult
    by_cases hlower : c.lower = 0
    · exact iff_of_true (congrArg some (if_pos hlower)) hlower
    · rw [if_neg hlower]; exact iff_of_false (by simp) hlower
  · obtain ⟨pointee, hpointee⟩ := derefLocation_some (prior_ne_none hloc)
    rw [withDref_neg hvalid, ok_bind, hpointee, ok_bind, answersRight_left hvalid hloc, or_iff_left hvalid]

theorem formatAny_right (c : ResultCall) :
    ReturnsRight .formatAnyVcpValueByDref c ↔ ReturnsGuard .formatAnyVcpValueByDref c := by
  refine answersRight_not_respecting.trans (or_congr (and_congr .rfl ?_) .rfl)
  rw [answersRight_assertLocation]; exact and_congr_right formatValue_right

theorem formatNonTable_right (c : ResultCall) :
    ReturnsRight .formatNonTableVcpValueByDref c ↔ ReturnsGuard .formatNonTableVcpValueByDref c := by
  refine answersRight_respecting.trans (or_congr (and_congr .rfl ?_) .rfl)
  rw [answersRight_assertLocation]; exact and_congr_right formatValue_right

theorem formatTable_right (c : ResultCall) :
    ReturnsRight .formatTableVcpValueByDref c ↔ ReturnsGuard .formatTableVcpValueByDref c := by
  refine answersRight_respecting.trans (or_congr (and_congr .rfl ?_) .rfl)
  rw [answersRight_assertLocation]; exact and_congr_right formatValue_right

theorem openedResult_right (lower : Status) (dref : DrefArg) :
    assertIffResult (openedResult lower dref).1 (openedResult lower dref).2 = .ok () ∧
      ((openedResult lower dref).2 = some .pointer ↔ (openedResult lower dref).1 = 0) := by
  have hlower : assertIffResult lower (some (lowerResult lower)) = .ok () ∧
      (some (lowerResult lower) = some .pointer ↔ lower = 0) :=
    ⟨assertIff_lower .rfl, Option.some_inj.trans lowerResult_eq_pointer⟩
  cases dref with
  | unknown =>
    have hstatus : ddcrcInvalidDisplay ≠ 0 := by decide
    refine ⟨rfl, iff_of_false ?_ hstatus⟩
    exact fun h => by cases h
  | published lock validation =>
    dsimp only [openedResult]
    split
    · exact hlower
    · exact ⟨rfl, by decide⟩

theorem openDisplay2_right (c : ResultCall) : ReturnsRight .openDisplay2 c ↔ ReturnsGuard .openDisplay2 c := by
  refine answersRight_respecting.trans (or_congr (and_congr .rfl ?_) .rfl)
  rw [answersRight_precond]
  by_cases hloc : c.location = none
  · exact iff_of_true (.inl hloc) (.inl hloc)
  · rw [or_iff_right hloc, and_iff_right hloc]
    refine Iff.trans ?_ (or_iff_right hloc).symm
    unfold ddciOpenDisplay3
    cases hdetected : c.detected with
    | false => exact iff_of_false (not_answersRight_error _ _) Bool.false_ne_true
    | true =>
      obtain ⟨hassert, hright⟩ := openedResult_right c.lower c.dref
      rw [if_neg (by decide), hassert, ok_bind, ok_bind, hassert, ok_bind]
      exact iff_of_true (answersRight_of_returned hloc hright) rfl

def removedDisplayCall : ResultCall where
  finds := .ready
  location := some true
  dh := .null
  dref := .published 0 ddcrcDisconnected
  lower := 0
  isKnown := true
  detected := true

end Ddc
