import Ddcutil.Kit.Runs
import Ddcutil.Status
/-!
# ErrorDetail — the error detail that a thread keeps

Each thread keeps at most one `DDCA_Error_Detail`, the explanation of the status of its latest API call.
-/
namespace Ddc

open Kit

/-! ## The records -/

structure ErrorDetail where
  statusCode : Status
  detail : Option String
  causes : List ErrorDetail

mutual

def errorInfoToDdcaDetail : ErrorInfo → ErrorDetail
  | ⟨statusCode, _, detail, causes⟩ => ⟨statusCode, detail, errorInfosToDdcaDetails causes⟩

def errorInfosToDdcaDetails : List ErrorInfo → List ErrorDetail
  | [] => []
  | cause :: causes => errorInfoToDdcaDetail cause :: errorInfosToDdcaDetails causes

end

mutual

def dupErrorDetail : ErrorDetail → ErrorDetail
  | ⟨statusCode, detail, causes⟩ => ⟨statusCode, detail, dupErrorDetails causes⟩

def dupErrorDetails : List ErrorDetail → List ErrorDetail
  | [] => []
  | cause :: causes => dupErrorDetail cause :: dupErrorDetails causes

end

structure SavedDetail where
  record : ErrorDetail
  id : Nat
  call : Nat

/-- **What a thread keeps**, the number of calls it has begun and of records it has saved, and those that were freed. -/
structure ThreadDetail where
  errorDetail : Option SavedDetail
  callNo : Nat
  saved : Nat
  freed : List Nat

def ThreadDetail.start : ThreadDetail := ⟨none, 0, 0, []⟩

def freeThreadErrorDetail (s : ThreadDetail) : ThreadDetail :=
  match s.errorDetail with
  | some old => { s with errorDetail := none, freed := old.id :: s.freed }
  | none => s

def saveThreadErrorDetail (s : ThreadDetail) : Option ErrorDetail → ThreadDetail
  | some record =>
    { freeThreadErrorDetail s with
      errorDetail := some ⟨record, (freeThreadErrorDetail s).saved, (freeThreadErrorDetail s).callNo⟩
      saved := (freeThreadErrorDetail s).saved + 1 }
  | none => freeThreadErrorDetail s

def ddcaGetErrorDetail (s : ThreadDetail) : Option ErrorDetail := s.errorDetail.map fun saved => dupErrorDetail saved.record

/-! ## The steps of a call -/

/-- **What a function does with the record** after its prologue: it frees it, tests that the library is initialized, tests
a precondition, fails with a status that it does not explain, or ends with the error of a lower layer.  The second kind of
`errinfo` saves `NULL` where there is none. -/
inductive DetailStep where
  | free | assertInitialized | precond | status
  | errinfo (saveNone : Bool)
  | dfrCheck | openErrors

structure StepOutcome where
  holds : Bool
  status : Status
  error : Option ErrorInfo
  openErrors : List ErrorInfo

def StepOutcome.passes : StepOutcome := ⟨true, ddcrcOk, none, []⟩

def nextOutcome (outcomes : List StepOutcome) : StepOutcome := outcomes.headD .passes

/-- How the prologue comes out: `library_initialization_failed` is set, an implicit initialization fails, or the API is
quiesced. -/
structure PrologOutcome where
  initializationFailed : Bool
  implicitInit : Option ErrorInfo
  quiesced : Bool

/-- **A function that returns a status**: whether it frees the record first, whether it has the prologue and respects
quiescing, and its steps. -/
structure StatusFunction where
  name : String
  freesFirst : Bool
  prologx : Option Bool
  steps : List DetailStep

/-- `assert(library_initialized)`, `free_thread_error_detail()` and the validation of the handle -/
def withValidatedDh3 (action : List DetailStep) : List DetailStep := [.assertInitialized, .free, .status] ++ action

def withValidatedDr4 (action : List DetailStep) : List DetailStep := [.assertInitialized, .free, .status, .status] ++ action

inductive ApiStatusFunction where
  -- api_base.c
  | ddcaInit | ddcaInit2 | ddcaStartWatchDisplays | ddcaStopWatchDisplays | ddcaGetActiveWatchClasses
  | ddcaGetDisplayWatchSettings | ddcaSetDisplayWatchSettings
  -- api_displays.c
  | ddcaCreateDispnoDisplayIdentifier | ddcaCreateBusnoDisplayIdentifier
  | ddcaCreateMfgModelSnDisplayIdentifier | ddcaCreateEdidDisplayIdentifier | ddcaCreateUsbDisplayIdentifier
  | ddcaCreateUsbHiddevDisplayIdentifier | ddcaFreeDisplayIdentifier | ddcaGetDisplayRef
  | ddcaCreateDisplayRef | ddcaRedetectDisplays | ddcaReportDisplayByDref | ddcaValidateDisplayRef
  | ddcaOpenDisplay2 | ddcaCloseDisplay | ddcaGetMccsVersionByDh | ddcaGetDisplayInfo | ddcaGetDisplayInfo2
  | ddcaGetDisplayRefs | ddcaGetDisplayInfoList2 | ddcaReportDisplayInfo | ddcaReportDisplayInfo2
  | ddcaRegisterDisplayStatusCallback | ddcaUnregisterDisplayStatusCallback | ddcaSetDisplaySleepMultiplier
  | ddcaGetCurrentDisplaySleepMultiplier
  -- api_metadata.c
  | ddcaGetFeatureListByDref | ddcaGetFeatureFlagsByVspec | ddcaGetFeatureMetadataByVspec
  | ddcaGetFeatureMetadataByDref | ddcaGetFeatureMetadataByDh | ddcaGetSimpleNcFeatureValueNameByTable
  | ddcaDfrCheckByDref | ddcaDfrCheckByDh
  -- api_feature_access.c
  | ddcaGetNonTableVcpValue | ddcaGetTableVcpValue | ddcaGetAnyVcpValueUsingExplicitType
  | ddcaGetAnyVcpValueUsingImplicitType | ddcaFormatAnyVcpValueByDref | ddcaFormatNonTableVcpValueByDref
  | ddcaFormatTableVcpValueByDref | ddcaSetNonTableVcpValue | ddcaSetTableVcpValue | ddcaSetAnyVcpValue
  | ddcaGetProfileRelatedValues | ddcaSetProfileRelatedValues
  -- api_capabilities.c
  | ddcaGetCapabilitiesString | ddcaParseCapabilitiesString | ddcaReportParsedCapabilitiesByDref
  | ddcaReportParsedCapabilitiesByDh

def ddciSetSingleVcpValue : List DetailStep := .free :: withValidatedDh3 [.errinfo true]

def ddciFormatAnyVcpValue : List DetailStep := [.free, .status]

def ApiStatusFunction.describe : ApiStatusFunction → StatusFunction
  | ddcaInit => ⟨"ddca_init", false, none, [.errinfo false]⟩
  | ddcaInit2 => ⟨"ddca_init2", false, none, [.errinfo false]⟩
  | ddcaStartWatchDisplays => ⟨"ddca_start_watch_displays", false, some true, [.errinfo false]⟩
  | ddcaStopWatchDisplays => ⟨"ddca_stop_watch_displays", false, some false, [.status]⟩
  | ddcaGetActiveWatchClasses => ⟨"ddca_get_active_watch_classes", false, some false, [.status]⟩
  | ddcaGetDisplayWatchSettings => ⟨"ddca_get_display_watch_settings", false, some false, [.status]⟩
  | ddcaSetDisplayWatchSettings => ⟨"ddca_set_display_watch_settings", false, some false, [.status]⟩
  | ddcaCreateDispnoDisplayIdentifier => ⟨"ddca_create_dispno_display_identifier", true, none, [.precond]⟩
  | ddcaCreateBusnoDisplayIdentifier => ⟨"ddca_create_busno_display_identifier", true, none, [.precond]⟩
  | ddcaCreateMfgModelSnDisplayIdentifier =>
    ⟨"ddca_create_mfg_model_sn_display_identifier", true, none, [.precond, .status]⟩
  | ddcaCreateEdidDisplayIdentifier => ⟨"ddca_create_edid_display_identifier", true, none, [.precond, .status]⟩
  | ddcaCreateUsbDisplayIdentifier => ⟨"ddca_create_usb_display_identifier", true, none, [.precond]⟩
  | ddcaCreateUsbHiddevDisplayIdentifier => ⟨"ddca_create_usb_hiddev_display_identifier", true, none, [.precond]⟩
  | ddcaFreeDisplayIdentifier => ⟨"ddca_free_display_identifier", true, none, [.status]⟩
  | ddcaGetDisplayRef => ⟨"ddca_get_display_ref", true, some true, [.assertInitialized, .precond, .status]⟩
  | ddcaCreateDisplayRef => ⟨"ddca_create_display_ref", true, some true, [.assertInitialized, .precond, .status]⟩
  | ddcaRedetectDisplays => ⟨"ddca_redetect_displays", false, some false, [.status]⟩
  | ddcaReportDisplayByDref => ⟨"ddca_report_display_by_dref", true, some true, [.assertInitialized, .status]⟩
  | ddcaValidateDisplayRef => ⟨"ddca_validate_display_ref", true, some true, [.assertInitialized, .status]⟩
  | ddcaOpenDisplay2 => ⟨"ddca_open_display2", true, some true, [.precond, .assertInitialized, .errinfo false]⟩
  | ddcaCloseDisplay => ⟨"ddca_close_display", true, some false, [.errinfo false]⟩
  | ddcaGetMccsVersionByDh => ⟨"ddca_get_mccs_version_by_dh", false, some true, [.free, .assertInitialized, .status]⟩
  | ddcaGetDisplayInfo => ⟨"ddca_get_display_info", false, some true, .precond :: withValidatedDr4 []⟩
  | ddcaGetDisplayInfo2 => ⟨"ddca_get_display_info2", false, some true, .precond :: withValidatedDr4 []⟩
  | ddcaGetDisplayRefs => ⟨"ddca_get_display_refs", true, some true, [.precond, .openErrors]⟩
  | ddcaGetDisplayInfoList2 => ⟨"ddca_get_display_info_list2", true, some true, [.precond, .openErrors]⟩
  | ddcaReportDisplayInfo => ⟨"ddca_report_display_info", false, some false, [.precond, .precond]⟩
  | ddcaReportDisplayInfo2 => ⟨"ddca_report_display_info2", false, some false, [.precond, .precond]⟩
  | ddcaRegisterDisplayStatusCallback => ⟨"ddca_register_display_status_callback", true, some true, [.status]⟩
  | ddcaUnregisterDisplayStatusCallback => ⟨"ddca_unregister_display_status_callback", true, some true, [.status]⟩
  | ddcaSetDisplaySleepMultiplier =>
    ⟨"ddca_set_display_sleep_multiplier", true, some true, [.assertInitialized, .status, .status]⟩
  | ddcaGetCurrentDisplaySleepMultiplier =>
    ⟨"ddca_get_current_display_sleep_multiplier", true, some false, [.assertInitialized, .status]⟩
  | ddcaGetFeatureListByDref => ⟨"ddca_get_feature_list_by_dref", true, some true, withValidatedDr4 []⟩
  | ddcaGetFeatureFlagsByVspec => ⟨"ddca_get_feature_flags_by_vspec", true, some false, [.precond, .status]⟩
  | ddcaGetFeatureMetadataByVspec => ⟨"ddca_get_feature_metadata_by_vspec", true, some false, [.status]⟩
  | ddcaGetFeatureMetadataByDref =>
    ⟨"ddca_get_feature_metadata_by_dref", true, some true, withValidatedDr4 [.status]⟩
  | ddcaGetFeatureMetadataByDh =>
    ⟨"ddca_get_feature_metadata_by_dh", true, some true, .precond :: withValidatedDh3 [.status]⟩
  | ddcaGetSimpleNcFeatureValueNameByTable =>
    ⟨"ddca_get_simple_nc_feature_value_name_by_table", true, some false, [.status]⟩
  | ddcaDfrCheckByDref => ⟨"ddca_dfr_check_by_dref", true, some true, withValidatedDr4 [.dfrCheck]⟩
  | ddcaDfrCheckByDh => ⟨"ddca_dfr_check_by_dh", true, some true, withValidatedDh3 [.dfrCheck]⟩
  | ddcaGetNonTableVcpValue =>
    ⟨"ddca_get_non_table_vcp_value", true, some true, .precond :: withValidatedDh3 [.errinfo false]⟩
  | ddcaGetTableVcpValue => ⟨"ddca_get_table_vcp_value", true, some true, .precond :: withValidatedDh3 [.errinfo true]⟩
  | ddcaGetAnyVcpValueUsingExplicitType =>
    ⟨"ddca_get_any_vcp_value_using_explicit_type", true, some true, withValidatedDh3 [.errinfo true]⟩
  | ddcaGetAnyVcpValueUsingImplicitType =>
    ⟨"ddca_get_any_vcp_value_using_implicit_type", true, some true, .status :: withValidatedDh3 [.errinfo true]⟩
  | ddcaFormatAnyVcpValueByDref =>
    ⟨"ddca_format_any_vcp_value_by_dref", true, some false, withValidatedDr4 ddciFormatAnyVcpValue⟩
  | ddcaFormatNonTableVcpValueByDref =>
    ⟨"ddca_format_non_table_vcp_value_by_dref", true, some true, withValidatedDr4 (.precond :: ddciFormatAnyVcpValue)⟩
  | ddcaFormatTableVcpValueByDref =>
    ⟨"ddca_format_table_vcp_value_by_dref", true, some true, withValidatedDr4 ddciFormatAnyVcpValue⟩
  | ddcaSetNonTableVcpValue => ⟨"ddca_set_non_table_vcp_value", true, some true, .free :: ddciSetSingleVcpValue⟩
  | ddcaSetTableVcpValue => ⟨"ddca_set_table_vcp_value", true, some true, ddciSetSingleVcpValue⟩
  | ddcaSetAnyVcpValue => ⟨"ddca_set_any_vcp_value", true, some true, ddciSetSingleVcpValue⟩
  | ddcaGetProfileRelatedValues =>
    ⟨"ddca_get_profile_related_values", true, some true, .precond :: withValidatedDh3 [.status]⟩
  | ddcaSetProfileRelatedValues =>
    ⟨"ddca_set_profile_related_values", true, some true, withValidatedDh3 [.errinfo false]⟩
  | ddcaGetCapabilitiesString =>
    ⟨"ddca_get_capabilities_string", true, some true, .precond :: withValidatedDh3 [.errinfo true]⟩
  | ddcaParseCapabilitiesString => ⟨"ddca_parse_capabilities_string", true, some false, [.precond, .status]⟩
  | ddcaReportParsedCapabilitiesByDref =>
    ⟨"ddca_report_parsed_capabilities_by_dref", true, some true, [.precond, .status]⟩
  | ddcaReportParsedCapabilitiesByDh => ⟨"ddca_report_parsed_capabilities_by_dh", true, some true, [.status]⟩

/-! ## Calls -/

/-- One step: the status that the call then returns, if it does.  `initialized` is false where the implicit initialization
of the call has failed. -/
def detailStep (initialized : Bool) (o : StepOutcome) (s : ThreadDetail) :
    DetailStep → Exec (Option Status × ThreadDetail)
  | .free => .ok (none, freeThreadErrorDetail s)
  | .assertInitialized => if initialized = true then .ok (none, s) else .error .assertFailed
  | .precond => .ok (if o.holds = true then none else some ddcrcArg, s)
  | .status => .ok (if o.status = ddcrcOk then none else some o.status, s)
  | .errinfo saveNone =>
    match o.error with
    | some err => .ok (some err.statusCode, saveThreadErrorDetail s (some (errorInfoToDdcaDetail err)))
    | none => .ok (some ddcrcOk, if saveNone = true then saveThreadErrorDetail s none else s)
  | .dfrCheck =>
    match o.error with
    | some err =>
      if err.statusCode = ddcrcNotFound then .ok (some ddcrcOk, s)
      else .ok (some err.statusCode, saveThreadErrorDetail s (some (errorInfoToDdcaDetail err)))
    | none => .ok (some ddcrcOk, s)
  | .openErrors =>
    match o.openErrors with
    | [] => .ok (some ddcrcOk, s)
    | err :: errs =>
      .ok (some ddcrcOk, saveThreadErrorDetail s
        (some ⟨ddcrcOther, some "Error(s) opening ddc devices", errorInfosToDdcaDetails (err :: errs)⟩))

/-- The steps up to the first that returns; a call that comes to the end of them returns 0. -/
def detailSteps (initialized : Bool) : List DetailStep → List StepOutcome → ThreadDetail → Exec (Status × ThreadDetail)
  | [], _, s => .ok (ddcrcOk, s)
  | step :: steps, outcomes, s => do
    let r ← detailStep initialized (nextOutcome outcomes) s step
    match r.1 with
    | some status => .ok (status, r.2)
    | none => detailSteps initialized steps outcomes.tail r.2

structure StatusCall where
  func : ApiStatusFunction
  prolog : PrologOutcome
  outcomes : List StepOutcome

def prologRefuses (func : StatusFunction) (o : PrologOutcome) : Option ErrorDetail :=
  match func.prologx with
  | none => none
  | some respectQuiesce =>
    if o.initializationFailed = true then
      some ⟨ddcrcUninitialized, some (func.name ++ " called after ddca_init2() or ddca_init() failure"), []⟩
    else if respectQuiesce = true ∧ o.quiesced = true then
      some ⟨ddcrcQuiesced, some ("library quiesced, " ++ func.name ++ " temporarily unavailable"), []⟩
    else none

def implicitInitError (func : StatusFunction) (o : PrologOutcome) : Option ErrorInfo :=
  match func.prologx with
  | none => none
  | some _ => if o.initializationFailed = true then none else o.implicitInit

def detailProlog (func : StatusFunction) (o : PrologOutcome) (s : ThreadDetail) : ThreadDetail :=
  match implicitInitError func o with
  | some err => saveThreadErrorDetail s (some (errorInfoToDdcaDetail err))
  | none => s

def beginCall (func : StatusFunction) (s : ThreadDetail) : ThreadDetail :=
  if func.freesFirst = true then freeThreadErrorDetail { s with callNo := s.callNo + 1 }
  else { s with callNo := s.callNo + 1 }

def statusCall (c : StatusCall) (s : ThreadDetail) : Exec (Status × ThreadDetail) :=
  match prologRefuses c.func.describe c.prolog with
  | some record => .ok (record.statusCode,
      saveThreadErrorDetail (detailProlog c.func.describe c.prolog (beginCall c.func.describe s)) (some record))
  | none =>
    detailSteps (implicitInitError c.func.describe c.prolog).isNone c.func.describe.steps c.outcomes
      (detailProlog c.func.describe c.prolog (beginCall c.func.describe s))

def statusCallStep (s : ThreadDetail) (c : StatusCall) : Exec ThreadDetail := Prod.snd <$> statusCall c s

structure FreedOnce (s : ThreadDetail) : Prop where
  nodup : s.freed.Nodup
  freed : ∀ id, id ∈ s.freed ↔ id < s.saved ∧ ∀ d, s.errorDetail = some d → d.id ≠ id

/-- **What a call keeps**: the detail that can be asked for afterwards is a copy of one created in the call, its status is
the one that the call returned if it failed, and each record is freed once. -/
structure DetailRight (status : Status) (s' : ThreadDetail) : Prop where
  fresh : ∀ detail, ddcaGetErrorDetail s' = some detail →
    ∃ d, s'.errorDetail = some d ∧ d.record = detail ∧ d.call = s'.callNo
  explains : status ≠ ddcrcOk → ∀ detail, ddcaGetErrorDetail s' = some detail → detail.statusCode = status
  freedOnce : FreedOnce s'

def clears : List DetailStep → List StepOutcome → Bool
  | [], _ => false
  | .free :: _, _ => true
  | .assertInitialized :: steps, outcomes => clears steps outcomes.tail
  | .precond :: steps, outcomes => (nextOutcome outcomes).holds && clears steps outcomes.tail
  | .status :: steps, outcomes => decide ((nextOutcome outcomes).status = ddcrcOk) && clears steps outcomes.tail
  | .errinfo saveNone :: _, outcomes => saveNone || (nextOutcome outcomes).error.isSome
  | .dfrCheck :: _, outcomes => (nextOutcome outcomes).error.any fun err => decide (err.statusCode ≠ ddcrcNotFound)
  | .openErrors :: _, outcomes => !(nextOutcome outcomes).openErrors.isEmpty

def plainFailure : List DetailStep → List StepOutcome → Option Status
  | .precond :: steps, outcomes =>
    if (nextOutcome outcomes).holds = true then plainFailure steps outcomes.tail else some ddcrcArg
  | .status :: steps, outcomes =>
    if (nextOutcome outcomes).status = ddcrcOk then plainFailure steps outcomes.tail
    else some (nextOutcome outcomes).status
  | _, _ => none

/-- **A call leaves the record of an earlier one**: there is one, the function does not free it first, the prologue saves
none, and the function does not come to a step that frees or saves one. -/
def StatusCall.LeavesOld (s : ThreadDetail) (c : StatusCall) : Prop :=
  s.errorDetail ≠ none ∧ c.func.describe.freesFirst = false ∧ prologRefuses c.func.describe c.prolog = none ∧
    implicitInitError c.func.describe c.prolog = none ∧ clears c.func.describe.steps c.outcomes = false

/-- **A call fails for another reason than the implicit initialization**, whose error is what it leaves. -/
def StatusCall.Misexplains (c : StatusCall) : Prop :=
  prologRefuses c.func.describe c.prolog = none ∧ ∃ err, implicitInitError c.func.describe c.prolog = some err ∧
    ∃ status, plainFailure c.func.describe.steps c.outcomes = some status ∧ status ≠ err.statusCode

end Ddc
