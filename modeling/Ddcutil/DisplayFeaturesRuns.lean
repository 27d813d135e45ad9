import Ddcutil.DisplayFeatures
import Ddcutil.Kit.Runs
/-!
# DisplayFeaturesRuns — when the flag of a reference says whether it has a record

The flag and the pointer to the record are set together.  The calls that write the whole word of flags are a recheck
and initial checks that find the display disconnected: they clear the flag, and the record stays.
-/
namespace Ddc

open Kit List Exec

def FeaturesDref.Flagged (dref : FeaturesDref) : Prop := dref.featuresChecked ↔ dref.dfr.isSome = true

def FeaturesState.Flagged (s : FeaturesState) : Prop := ∀ dref ∈ s.drefs, dref.Flagged

/-- **What is promised of a call**: no assertion fails, each flag says whether there is a record before and after, and
no pointer to a record is overwritten. -/
structure FeaturesCallRight (s : FeaturesState) (call : Nat × FeaturesCall) : Prop where
  before : s.Flagged
  asserts : featuresStep s call ≠ .error .assertFailed
  after : ∀ s', featuresStep s call = .ok s' → s'.Flagged
  kept : ∀ s', featuresStep s call = .ok s' → ∀ (n : Nat) (dref : FeaturesDref) (a : Address),
    s.drefs[n]? = some dref → dref.dfr = some a → ∃ dref' : FeaturesDref, s'.drefs[n]? = some dref' ∧ dref'.dfr = some a

structure InitialChecks.Disconnects (c : InitialChecks) (flags : DrefFlagWord) : Prop where
  ignored : c.ignoredMmk = false
  skipped : c.skipDdcChecks = false
  removed : flags &&& drefRemoved = 0
  opened : c.openError = none
  unchecked : flags &&& drefDdcCommunicationChecked = 0
  read : c.readStatus = some ddcrcDisconnected

def FeaturesCall.Harmless (call : FeaturesCall) (dref : FeaturesDref) : Prop :=
  match call with
  | .initialChecks c => c.Disconnects dref.flags → dref.dfr = none
  | .recheckDref locked _ => locked = false → dref.dfr = none
  | _ => True

/-- **When the promise is kept**: what writes the whole word of flags meets a reference without a record. -/
def FeaturesCallHarmless (s : FeaturesState) (call : Nat × FeaturesCall) : Prop :=
  ∀ dref, s.drefs[call.1]? = some dref → call.2.Harmless dref

/-! ## The flag -/

def SameFeaturesChecked (f g : DrefFlagWord) : Prop := g &&& drefDynamicFeaturesChecked = f &&& drefDynamicFeaturesChecked

variable (f : DrefFlagWord)

theorem SameFeaturesChecked.refl : SameFeaturesChecked f f := rfl

theorem SameFeaturesChecked.trans {f g h : DrefFlagWord} (hfg : SameFeaturesChecked f g) (hgh : SameFeaturesChecked g h) :
    SameFeaturesChecked f h := Eq.trans hgh hfg

theorem and_or_distrib_right (a b c : DrefFlagWord) : (a ||| b) &&& c = a &&& c ||| b &&& c :=
  UInt16.toBitVec_inj.1 BitVec.and_or_distrib_right

theorem SameFeaturesChecked.or {b : DrefFlagWord} (hb : b &&& drefDynamicFeaturesChecked = 0) :
    SameFeaturesChecked f (f ||| b) := by
  rw [SameFeaturesChecked, and_or_distrib_right, hb, UInt16.or_zero]

theorem SameFeaturesChecked.close : SameFeaturesChecked f (f &&& ~~~drefOpen) := by
  rw [SameFeaturesChecked, UInt16.and_assoc]; rfl

theorem word_and_checked (flags : UnsupportedFlags) : flags.word &&& drefDynamicFeaturesChecked = 0 := by
  rcases flags with ⟨_ | _, _ | _, _ | _, _ | _⟩ <;> rfl

theorem unsupportedChecked_same (c : InitialChecks) (f : DrefFlagWord) :
    SameFeaturesChecked f (unsupportedChecked c f) := by
  have hreported : SameFeaturesChecked f (f ||| c.howUnsupported.word ||| drefUnsupportedChecked) :=
    (SameFeaturesChecked.or f (word_and_checked _)).trans (.or _ rfl)
  unfold unsupportedChecked
  split
  · exact (hreported.trans (.or _ rfl)).trans (.or _ rfl)
  · exact hreported

theorem readFlags_same {psc : Status} (h : psc ≠ ddcrcDisconnected) (f : DrefFlagWord) :
    SameFeaturesChecked f (readFlags psc f) := by
  unfold readFlags
  split
  · exact .or f rfl
  · split
    · exact .or f rfl
    · exact .refl f

variable {c : InitialChecks} {dref : FeaturesDref} {r : Option ErrorInfo × Option DynamicFeaturesRec}

theorem initialChecksByDh_same {f : DrefFlagWord}
    (h : f &&& drefDdcCommunicationChecked ≠ 0 ∨ c.readStatus ≠ some ddcrcDisconnected) (ioPath : IoPath) :
    SameFeaturesChecked f (initialChecksByDh c ioPath f).2 := by
  unfold initialChecksByDh
  by_cases hchecked : f &&& drefDdcCommunicationChecked ≠ 0
  · rw [if_pos hchecked]; exact .refl f
  · rw [if_neg hchecked]
    cases hread : c.readStatus with
    | none => exact .or f rfl
    | some psc =>
      have hpsc : psc ≠ ddcrcDisconnected := fun heq => (h.resolve_left hchecked) (heq ▸ hread)
      have hcomm : SameFeaturesChecked f (if psc ≠ -eBusy then readFlags psc f ||| drefDdcCommunicationChecked
          else readFlags psc f) := by
        split
        · exact (readFlags_same hpsc f).trans (.or _ rfl)
        · exact readFlags_same hpsc f
      dsimp only
      generalize (if psc ≠ -eBusy then readFlags psc f ||| drefDdcCommunicationChecked else readFlags psc f) = g at hcomm ⊢
      split
      · exact hcomm.trans (unsupportedChecked_same c _)
      · exact hcomm

theorem initialChecksByDref_same (h : ¬ c.Disconnects dref.flags) :
    SameFeaturesChecked dref.flags (initialChecksByDref c dref).2 := by
  unfold initialChecksByDref
  by_cases hignored : c.ignoredMmk = true
  · rw [if_pos hignored]; exact (SameFeaturesChecked.or _ rfl).trans (.or _ rfl)
  · rw [if_neg hignored]
    by_cases hskip : c.skipDdcChecks = true
    · rw [if_pos hskip]; exact .or _ rfl
    · rw [if_neg hskip]
      have hopened : SameFeaturesChecked dref.flags (openAndCheck c dref).2 := by
        unfold openAndCheck
        by_cases hremoved : dref.flags &&& drefRemoved ≠ 0
        · rw [if_pos hremoved]; exact .refl _
        · rw [if_neg hremoved]
          cases hopen : c.openError with
          | some status => exact .refl _
          | none =>
            refine ((SameFeaturesChecked.or _ rfl).trans (initialChecksByDh_same ?_ dref.ioPath)).trans (.close _)
            by_contra hnot
            push Not at hnot
            refine h ⟨by simpa using hignored, by simpa using hskip, not_not.1 hremoved, hopen, ?_, hnot.2⟩
            have hzero := hnot.1
            rw [and_or_distrib_right, show drefOpen &&& drefDdcCommunicationChecked = 0 from rfl, UInt16.or_zero] at hzero
            exact hzero
      have hmarked : SameFeaturesChecked dref.flags (if (openAndCheck c dref).2 &&& drefRemoved ≠ 0 then
          (openAndCheck c dref).2 else (openAndCheck c dref).2 ||| drefDdcCommunicationChecked) := by
        split
        · exact hopened
        · exact hopened.trans (.or _ rfl)
      dsimp only
      split
      · exact hmarked.trans (.or _ rfl)
      · exact hmarked

theorem initialChecksByDref_disconnected (h : c.Disconnects dref.flags) :
    (initialChecksByDref c dref).2 = drefRemoved ||| drefDdcCommunicationChecked := by
  have hzero : ¬ (dref.flags ||| drefOpen) &&& drefDdcCommunicationChecked ≠ 0 := by
    rw [and_or_distrib_right, h.unchecked]; decide
  have hdh : initialChecksByDh c dref.ioPath (dref.flags ||| drefOpen) =
      (some ddcrcDisconnected, drefRemoved ||| drefDdcCommunicationChecked) := by
    have hread : readFlags ddcrcDisconnected (dref.flags ||| drefOpen) = drefRemoved := by
      rw [readFlags, if_neg (by decide), if_pos rfl]
    have hbusy : ddcrcDisconnected ≠ -eBusy := by decide
    have hworking : ¬ ((drefRemoved ||| drefDdcCommunicationChecked) &&& drefDdcCommunicationWorking ≠ 0 ∧
        isI2c dref.ioPath = true) := fun hw => hw.1 rfl
    rw [initialChecksByDh, if_neg hzero, h.read]
    dsimp only
    rw [hread, if_pos hbusy, if_neg hworking]; rfl
  have hopen : openAndCheck c dref = (some ddcrcDisconnected, drefRemoved ||| drefDdcCommunicationChecked) := by
    rw [openAndCheck, if_neg (not_not.2 h.removed), h.opened]
    rw [hdh]; rfl
  rw [initialChecksByDref, h.ignored, h.skipped, hopen]; rfl

/-! ## The record -/

theorem formatted_ne_assert (text : List Byte) : formatted text ≠ .error .assertFailed := by
  induction text using formatted.induct with
  | case1 => exact ok_ne_error _ _
  | case2 =>
    exact error_ne_error (by decide)
  | case3 c hc =>
    rw [formatted, if_neg hc]; exact ok_ne_error _ _
  | case4 s ih =>
    exact map_ne_error ih
  | case5 d s hd =>
    rw [formatted, if_pos rfl, if_neg hd]; exact error_ne_error (by decide)
  | case6 c d s hc ih =>
    rw [formatted, if_neg hc]; exact map_ne_error ih

variable (st : FeatureParse)

theorem report_flags (linectr : Int) (error : Option (List Byte)) :
    (st.report linectr error).frec.flags = st.frec.flags := by
  cases error <;> rfl

theorem finalizeCurrent_flags : (finalizeCurrent st).frec.flags = st.frec.flags := by
  unfold finalizeCurrent
  cases st.curFeatureMetadata <;> rfl

theorem attrWord_flags (linectr : Int) (st : FeatureParse) (word : List Byte) :
    (attrWord linectr st word).frec.flags = st.frec.flags := by
  unfold attrWord
  cases attrKeyword word <;> rfl

theorem foldl_attrWord_flags (linectr : Int) (words : List (List Byte)) : ∀ st : FeatureParse,
    (words.foldl (attrWord linectr) st).frec.flags = st.frec.flags := by
  induction words with
  | nil => exact fun st => rfl
  | cons word words ih =>
    intro st
    rw [foldl_cons, ih, attrWord_flags]

theorem fieldLine_flags (linectr : Int) (line keyword rest word : List Byte) (rest2 : Option (List Byte)) :
    (fieldLine st linectr line keyword rest word rest2).frec.flags = st.frec.flags := by
  unfold fieldLine
  cases fieldKeyword keyword with
  | productCode | mfgId | model => exact report_flags _ _ _
  | mccsVersion =>
    simp only [versionLine]
    cases versionError rest <;> rfl
  | attrs =>
    simp only [attrsLine]
    cases st.curFeatureMetadata with
    | none => rfl
    | some cur => exact foldl_attrWord_flags _ _ _
  | featureCode =>
    simp only [featureCodeLine]
    cases readFeatureCode line word rest2 with
    | error detail | ok feature => exact finalizeCurrent_flags st
  | value =>
    simp only [valueLine]
    cases readValue line word rest2 <;> rfl
  | unexpected => rfl

theorem parseLine_flags (line : List Byte × Nat) : (parseLine st line).frec.flags = st.frec.flags := by
  unfold parseLine
  cases lineContent line.1 with
  | nothing | oneWord => rfl
  | field keyword rest word rest2 => exact fieldLine_flags _ _ _ _ _ _ _

theorem foldl_parseLine_flags (lines : List (List Byte × Nat)) : ∀ st : FeatureParse,
    (lines.foldl parseLine st).frec.flags = st.frec.flags := by
  induction lines with
  | nil => exact fun st => rfl
  | cons line lines ih =>
    intro st
    rw [foldl_cons, ih, parseLine_flags]

theorem checkSeen_flags : (checkSeen st).frec.flags = st.frec.flags := by
  unfold checkSeen
  dsimp only
  split_ifs <;> rfl

theorem createDynamicFeaturesRec_ne_assert (mfgId modelName : List Byte) (productCode : UInt16)
    (lines : List (List Byte)) (filename : Option (List Byte)) :
    createDynamicFeaturesRec mfgId modelName productCode lines filename ≠ .error .assertFailed := by
  refine bind_ne_error (mapM_ne_error fun e _ => ?_) fun errors _ => ?_
  · exact bind_ne_error (formatted_ne_assert _) fun detail _ => ok_ne_error _ _
  · split
    · exact ok_ne_error _ _
    · exact bind_ne_error (formatted_ne_assert _) fun detail _ => ok_ne_error _ _

theorem createDynamicFeaturesRec_cases {mfgId modelName : List Byte} {productCode : UInt16} {lines : List (List Byte)}
    {filename : Option (List Byte)} (h : createDynamicFeaturesRec mfgId modelName productCode lines filename = .ok r) :
    (∃ err, r = (some err, none)) ∨ ∃ frec, r = (none, some frec) ∧ frec.flags = dfrFlagsNone := by
  obtain ⟨errors, -, h⟩ := bind_eq_ok.1 h
  split at h
  · cases h
    refine .inr ⟨_, rfl, ?_⟩
    rw [checkSeen_flags, finalizeCurrent_flags, foldl_parseLine_flags]; rfl
  · obtain ⟨detail, -, h⟩ := bind_eq_ok.1 h
    cases h; exact .inl ⟨_, rfl⟩

theorem loadFile_ne_assert (mmk : MonitorModelKey) (fqfn : List Byte) (file : FileRead) :
    loadFile mmk fqfn file ≠ .error .assertFailed := by
  cases file with
  | failed errno hpos => exact bind_ne_error (formatted_ne_assert _) fun detail _ => ok_ne_error _ _
  | read content => exact createDynamicFeaturesRec_ne_assert _ _ _ _ _

theorem loadFile_cases {mmk : MonitorModelKey} {fqfn : List Byte} {file : FileRead}
    (h : loadFile mmk fqfn file = .ok r) :
    (∃ err, r = (some err, none)) ∨ ∃ frec, r = (none, some frec) ∧ frec.flags = dfrFlagsNone := by
  cases file with
  | failed errno hpos =>
    obtain ⟨detail, -, h⟩ := bind_eq_ok.1 h
    cases h; exact .inl ⟨_, rfl⟩
  | read content => exact createDynamicFeaturesRec_cases h

variable (w : DefinitionFiles)

theorem lookForDefinition_ne_assert (mmk : MonitorModelKey) : lookForDefinition w mmk ≠ .error .assertFailed := by
  unfold lookForDefinition
  dsimp only
  cases w.dfrFindFeatureDefFile (mmkString mmk) with
  | none => exact ok_ne_error _ _
  | some fqfn => exact loadFile_ne_assert _ _ _

theorem lookForDefinition_cases {w : DefinitionFiles} {mmk : MonitorModelKey} (h : lookForDefinition w mmk = .ok r) :
    (∃ err, r = (some err, none)) ∨ ∃ frec, r = (none, some frec) ∧ frec.flags = dfrFlagsNone := by
  unfold lookForDefinition at h
  dsimp only at h
  cases hfind : w.dfrFindFeatureDefFile (mmkString mmk) with
  | none =>
    rw [hfind] at h
    cases h; exact .inl ⟨_, rfl⟩
  | some fqfn =>
    rw [hfind] at h; exact loadFile_cases h

theorem dfrLoadByMmk_ne_assert (mmk : MonitorModelKey) : dfrLoadByMmk w mmk ≠ .error .assertFailed := by
  refine bind_ne_error (lookForDefinition_ne_assert w mmk) fun r hr => ?_
  rcases lookForDefinition_cases hr with ⟨err, rfl⟩ | ⟨frec, rfl, hflags⟩
  · have hdummy : (some err).isSome = true ↔ (recOrDummy mmk (some err) none).flags &&& dfrFlagsNotFound ≠ 0 :=
      iff_of_true rfl (by change (dfrFlagsNone ||| dfrFlagsNotFound) &&& dfrFlagsNotFound ≠ 0; decide)
    dsimp only
    rw [check_pos (.inl ⟨rfl, rfl⟩), ok_bind, check_pos hdummy, ok_bind]; exact ok_ne_error _ _
  · have hloaded : (none : Option ErrorInfo).isSome = true ↔
        (recOrDummy mmk none (some frec)).flags &&& dfrFlagsNotFound ≠ 0 := by
      refine iff_of_false Bool.false_ne_true ?_
      change ¬ frec.flags &&& dfrFlagsNotFound ≠ 0
      rw [hflags]; decide
    dsimp only
    rw [check_pos (.inr ⟨rfl, rfl⟩), ok_bind, check_pos hloaded, ok_bind]; exact ok_ne_error _ _

/-! ## One call -/

theorem or_checked : (f ||| drefDynamicFeaturesChecked) &&& drefDynamicFeaturesChecked ≠ 0 := by
  rw [show (f ||| drefDynamicFeaturesChecked) &&& drefDynamicFeaturesChecked = drefDynamicFeaturesChecked from
    UInt16.toBitVec_inj.1 (BitVec.eq_of_getElem_eq fun i hi => by simp +contextual)]
  decide

theorem FeaturesDref.flagged_of_same (h : dref.Flagged) {flags : DrefFlagWord}
    (hsame : SameFeaturesChecked dref.flags flags) : FeaturesDref.Flagged { dref with flags := flags } := by
  unfold FeaturesDref.Flagged FeaturesDref.featuresChecked at *
  rw [hsame]; exact h

theorem loadFeatures_ok {w : DefinitionFiles} {recs : Heap DynamicFeaturesRec} {r : Option ErrorInfo × WithRecs}
    (h : loadFeatures w dref recs = .ok r) : r.2.1.Flagged ∧ r.2.1.dfr.isSome = true := by
  obtain ⟨loaded, -, h⟩ := bind_eq_ok.1 h
  cases h; exact ⟨iff_of_true (or_checked dref.flags) rfl, rfl⟩

theorem loadFeatures_ne_assert (dref : FeaturesDref) (recs : Heap DynamicFeaturesRec) :
    loadFeatures w dref recs ≠ .error .assertFailed := by
  exact bind_ne_error (dfrLoadByMmk_ne_assert w dref.mmk) fun loaded _ => ok_ne_error _ _

/-- **What is kept of a reference**: the flag says whether there is a record, and a record that is there stays. -/
structure FeaturesKept (dref dref' : FeaturesDref) : Prop where
  flagged : dref'.Flagged
  kept : ∀ a, dref.dfr = some a → dref'.dfr = some a

theorem featuresKept_of_loaded {dref' : FeaturesDref} (h : dref.Flagged) (hunchecked : ¬ dref.featuresChecked)
    (hflagged : dref'.Flagged) : FeaturesKept dref dref' where
  flagged := hflagged
  kept := by intro a ha; exact absurd (h.2 (by rw [ha]; rfl)) hunchecked

theorem dfrCheckByDref_right (h : dref.Flagged) (enabled : Bool) (w : DefinitionFiles)
    (recs : Heap DynamicFeaturesRec) :
    dfrCheckByDref enabled w dref recs ≠ .error .assertFailed ∧
      ∀ r, dfrCheckByDref enabled w dref recs = .ok r → FeaturesKept dref r.2.1 := by
  rw [dfrCheckByDref, @check_pos (dref.featuresChecked ↔ dref.dfr.isSome = true) _ h, ok_bind]
  by_cases hload : enabled = true ∧ ¬ dref.featuresChecked
  · rw [if_pos hload]
    exact ⟨loadFeatures_ne_assert w dref recs, fun r hr => featuresKept_of_loaded h hload.2 (loadFeatures_ok hr).1⟩
  · rw [if_neg hload]
    refine ⟨ok_ne_error _ _, fun r hr => ?_⟩
    cases hr; exact ⟨h, fun a ha => ha⟩

theorem dfrMetadataFor_ne_assert (h : dref.dfr.isSome = true) (recs : Heap DynamicFeaturesRec) (featureId : Byte) :
    dfrMetadataFor dref recs featureId ≠ .error .assertFailed := by
  rw [dfrMetadataFor, check_pos h, ok_bind]
  cases dref.dfr.bind recs.cells with
  | none => exact error_ne_error (by decide)
  | some dfr => exact ok_ne_error _ _

theorem ensureLoaded_right (h : dref.Flagged) (w : DefinitionFiles) (recs : Heap DynamicFeaturesRec) :
    ensureLoaded w dref recs ≠ .error .assertFailed ∧
      ∀ r, ensureLoaded w dref recs = .ok r → FeaturesKept dref r.1 ∧ r.1.dfr.isSome = true := by
  unfold ensureLoaded
  by_cases hchecked : dref.featuresChecked
  · rw [if_pos hchecked]
    refine ⟨ok_ne_error _ _, fun r hr => ?_⟩
    cases hr; exact ⟨⟨h, fun a ha => ha⟩, h.1 hchecked⟩
  · rw [if_neg hchecked]
    refine ⟨map_ne_error (loadFeatures_ne_assert w dref recs), fun r hr => ?_⟩
    cases hload : loadFeatures w dref recs with
    | error e =>
      rw [hload] at hr; cases hr
    | ok loaded =>
      rw [hload, ok_map] at hr
      cases hr
      obtain ⟨hflagged, hsome⟩ := loadFeatures_ok hload
      exact ⟨featuresKept_of_loaded h hchecked hflagged, hsome⟩

theorem dynReportCapFeatures_right (h : dref.Flagged) (w : DefinitionFiles) (features : List Byte)
    (recs : Heap DynamicFeaturesRec) :
    dynReportCapFeatures w features dref recs ≠ .error .assertFailed ∧
      ∀ r, dynReportCapFeatures w features dref recs = .ok r → FeaturesKept dref r.1 := by
  obtain ⟨hassert, hright⟩ := ensureLoaded_right h w recs
  refine ⟨bind_ne_error hassert fun r hr => ?_, fun r hr => ?_⟩
  · have hfound := fun featureId => dfrMetadataFor_ne_assert (hright r hr).2 r.2 featureId
    exact bind_ne_error (mapM_ne_error fun featureId _ => hfound featureId) fun _ _ => ok_ne_error _ _
  · obtain ⟨r', hr', hr⟩ := bind_eq_ok.1 hr
    obtain ⟨found, -, hr⟩ := bind_eq_ok.1 hr
    cases hr; exact (hright _ hr').1

theorem copyDisplayRef_flagged (dref : FeaturesDref) : dref.copyDisplayRef.Flagged := by
  refine iff_of_false (not_not.2 ?_) Bool.false_ne_true
  change dref.flags &&& ~~~drefDynamicFeaturesChecked &&& drefDynamicFeaturesChecked = 0
  rw [UInt16.and_assoc]; exact UInt16.and_zero

theorem flagged_of_clear {flags : DrefFlagWord} (hdfr : dref.dfr = none)
    (hclear : flags &&& drefDynamicFeaturesChecked = 0) : FeaturesKept dref { dref with flags := flags } where
  flagged := iff_of_false (not_not.2 hclear) (by rw [hdfr]; exact Bool.false_ne_true)
  kept := fun _ ha => ha

theorem recheckDref_clears (c : InitialChecks) (dref : FeaturesDref) :
    (recheckDref false c dref).2.flags &&& drefDynamicFeaturesChecked = 0 := by
  change (initialChecksByDref c { dref with flags := 0 }).2 &&& drefDynamicFeaturesChecked = 0
  by_cases hdisc : c.Disconnects 0
  · rw [initialChecksByDref_disconnected hdisc]; rfl
  · rw [@initialChecksByDref_same c { dref with flags := 0 } hdisc]; exact UInt16.zero_and

theorem applyFeaturesCall_right {call : FeaturesCall} (h : dref.Flagged) (hharmless : call.Harmless dref)
    (recs : Heap DynamicFeaturesRec) :
    applyFeaturesCall call dref recs ≠ .error .assertFailed ∧
      ∀ r, applyFeaturesCall call dref recs = .ok r → (∀ d ∈ r.1, d.Flagged) ∧ FeaturesKept dref r.2.1 := by
  cases call with
  | copyDisplayRef =>
    refine ⟨ok_ne_error _ _, fun r hr => ?_⟩
    cases hr
    refine ⟨fun d hd => ?_, h, fun a ha => ha⟩
    rw [mem_singleton.1 hd]; exact copyDisplayRef_flagged dref
  | dfrCheckByDref enabled w =>
    obtain ⟨hassert, hright⟩ := dfrCheckByDref_right h enabled w recs
    refine ⟨bind_ne_error hassert fun _ _ => ok_ne_error _ _, fun r hr => ?_⟩
    obtain ⟨r', hr', hr⟩ := bind_eq_ok.1 hr
    cases hr; exact ⟨fun d hd => absurd hd not_mem_nil, hright r' hr'⟩
  | dynReportCapFeatures w features =>
    obtain ⟨hassert, hright⟩ := dynReportCapFeatures_right h w features recs
    refine ⟨bind_ne_error hassert fun _ _ => ok_ne_error _ _, fun r hr => ?_⟩
    obtain ⟨r', hr', hr⟩ := bind_eq_ok.1 hr
    cases hr; exact ⟨fun d hd => absurd hd not_mem_nil, hright r' hr'⟩
  | initialChecks c =>
    refine ⟨ok_ne_error _ _, fun r hr => ?_⟩
    cases hr
    refine ⟨fun d hd => absurd hd not_mem_nil, ?_⟩
    by_cases hdisc : c.Disconnects dref.flags
    · refine flagged_of_clear (hharmless hdisc) ?_
      rw [initialChecksByDref_disconnected hdisc]; rfl
    · exact ⟨FeaturesDref.flagged_of_same h (initialChecksByDref_same hdisc), fun a ha => ha⟩
  | recheckDref locked c =>
    refine ⟨ok_ne_error _ _, fun r hr => ?_⟩
    cases hr
    refine ⟨fun d hd => absurd hd not_mem_nil, ?_⟩
    cases locked with
    | true => exact ⟨h, fun a ha => ha⟩
    | false => exact flagged_of_clear (hharmless rfl) (recheckDref_clears c dref)

theorem applyFeaturesCall_harmful {call : FeaturesCall} (hharmful : ¬ call.Harmless dref)
    (recs : Heap DynamicFeaturesRec) :
    ∃ dref', applyFeaturesCall call dref recs = .ok ([], dref', recs) ∧ ¬ dref'.Flagged := by
  have hunflagged : ∀ flags : DrefFlagWord, dref.dfr ≠ none → flags &&& drefDynamicFeaturesChecked = 0 →
      ¬ FeaturesDref.Flagged { dref with flags := flags } :=
    fun flags hdfr hclear hflagged => hflagged.2 (Option.isSome_iff_ne_none.2 hdfr) hclear
  cases call with
  | copyDisplayRef => exact absurd trivial hharmful
  | dfrCheckByDref enabled w | dynReportCapFeatures w features => exact absurd trivial hharmful
  | initialChecks c =>
    obtain ⟨hdisc, hdfr⟩ := Classical.not_imp.1 hharmful
    refine ⟨_, rfl, hunflagged _ hdfr ?_⟩
    rw [initialChecksByDref_disconnected hdisc]; rfl
  | recheckDref locked c =>
    obtain ⟨hlocked, hdfr⟩ := Classical.not_imp.1 hharmful
    subst hlocked; exact ⟨_, rfl, hunflagged _ hdfr (recheckDref_clears c dref)⟩

/-! ## Runs -/

theorem getElem?_set_append {s : List FeaturesDref} {n m : Nat} {dref' : FeaturesDref} {made : List FeaturesDref}
    (hm : s[m]? = some dref) : (s.set n dref' ++ made)[m]? = if n = m then some dref' else some dref := by
  have hlt : m < s.length := (List.getElem?_eq_some_iff.1 hm).1
  rw [getElem?_append_left (by rw [length_set]; exact hlt), getElem?_set, hm]
  by_cases hnm : n = m
  · rw [if_pos hnm, if_pos hnm, hnm, if_pos hlt]
  · rw [if_neg hnm, if_neg hnm]

theorem featuresStep_right {s : FeaturesState} (h : s.Flagged) {call : Nat × FeaturesCall}
    (hharmless : FeaturesCallHarmless s call) : FeaturesCallRight s call := by
  cases hfound : s.drefs[call.1]? with
  | none =>
    have hstep : featuresStep s call = .ok s := by rw [featuresStep, hfound]
    refine ⟨h, ?_, fun s' hs' => ?_, fun s' hs' => ?_⟩
    · rw [hstep]; exact ok_ne_error _ _
    · rw [hstep] at hs'
      cases hs'; exact h
    · rw [hstep] at hs'
      cases hs'; exact fun n dref a hn ha => ⟨dref, hn, ha⟩
  | some dref =>
    have hmem : dref ∈ s.drefs := mem_of_getElem? hfound
    obtain ⟨hassert, hright⟩ := applyFeaturesCall_right (h dref hmem) (hharmless dref hfound) s.recs
    have hstep : featuresStep s call =
        applyFeaturesCall call.2 dref s.recs >>= fun r => .ok ⟨s.drefs.set call.1 r.2.1 ++ r.1, r.2.2⟩ := by
      rw [featuresStep, hfound]
    refine ⟨h, ?_, fun s' hs' => ?_, fun s' hs' => ?_⟩
    · rw [hstep]; exact bind_ne_error hassert fun _ _ => ok_ne_error _ _
    · rw [hstep] at hs'
      obtain ⟨r, hr, hs'⟩ := bind_eq_ok.1 hs'
      cases hs'
      obtain ⟨hmade, hkept⟩ := hright r hr
      intro d hd
      rcases mem_append.1 hd with hd | hd
      · rcases mem_or_eq_of_mem_set hd with hd | rfl
        · exact h d hd
        · exact hkept.flagged
      · exact hmade d hd
    · rw [hstep] at hs'
      obtain ⟨r, hr, hs'⟩ := bind_eq_ok.1 hs'
      cases hs'
      intro n d a hn ha
      rw [getElem?_set_append hn]
      by_cases hcall : call.1 = n
      · rw [if_pos hcall]
        rw [← hcall, hfound] at hn
        cases hn; exact ⟨_, rfl, (hright r hr).2.kept a ha⟩
      · rw [if_neg hcall]; exact ⟨d, rfl, ha⟩

theorem featuresCallHarmless_of_right {s : FeaturesState} {call : Nat × FeaturesCall} (h : FeaturesCallRight s call) :
    FeaturesCallHarmless s call := by
  intro dref hfound
  by_contra hharmful
  obtain ⟨dref', happly, hunflagged⟩ := applyFeaturesCall_harmful hharmful s.recs
  have hstep : featuresStep s call = .ok ⟨s.drefs.set call.1 dref' ++ [], s.recs⟩ := by
    rw [featuresStep, hfound]
    dsimp only
    rw [happly]; rfl
  refine hunflagged (h.after _ hstep dref' ?_)
  rw [append_nil]; exact mem_set (List.getElem?_eq_some_iff.1 hfound).1 dref'

/-- **When the flag says whether there is a record**: in every run in which no recheck that gets the lock, and no
initial checks that find the display disconnected, meet a reference that has one, and in no other. -/
theorem features_flagged_iff {s : FeaturesState} (h : s.Flagged) (calls : List (Nat × FeaturesCall)) :
    AllAlong featuresStep FeaturesCallRight s calls ↔ AllAlong featuresStep FeaturesCallHarmless s calls :=
  AllAlong.congr (fun _ _ hflagged => ⟨featuresCallHarmless_of_right, featuresStep_right hflagged⟩)
    (fun _ _ s' _ hright hs' => hright.after s' hs') h

def newMonitorKey : MonitorModelKey :=
  mmkValue (ascii "GSM") (ascii "LG") 8 (by decide) (by decide) (noNul_of_all (by decide)) (by decide)

def newReference : FeaturesState where
  drefs := [.createBaseDisplayRef (.i2c 5) newMonitorKey]
  recs := ⟨fun _ => none, 0, fun _ _ => rfl⟩

def noDefinitionFiles : DefinitionFiles := ⟨fun _ => none, fun _ => .read []⟩

def workingChecks : InitialChecks := ⟨false, false, none, some 0, ⟨false, false, true, false⟩, false⟩

theorem newReference_flagged : newReference.Flagged := by
  intro dref hdref
  rw [mem_singleton.1 hdref]; exact iff_of_false (not_not.2 rfl) Bool.false_ne_true

theorem checkTwice_right : AllAlong featuresStep FeaturesCallRight newReference
    [(0, .dfrCheckByDref true noDefinitionFiles), (0, .dfrCheckByDref true noDefinitionFiles)] :=
  (features_flagged_iff newReference_flagged _).2
    ⟨fun _ _ => trivial, fun _ _ => ⟨fun _ _ => trivial, fun _ _ => trivial⟩⟩

/-- Features are looked for, the display is checked again: the flag is gone, the record is not, and the next look for
the features fails its assertion. -/
theorem recheck_not_right : ¬ AllAlong featuresStep FeaturesCallRight newReference
    [(0, .dfrCheckByDref true noDefinitionFiles), (0, .recheckDref false workingChecks),
      (0, .dfrCheckByDref true noDefinitionFiles)] := by
  rintro ⟨-, h₁⟩
  obtain ⟨-, h₂⟩ := h₁ _ rfl
  obtain ⟨hright, -⟩ := h₂ _ rfl
  exact hright.asserts rfl

end Ddc
