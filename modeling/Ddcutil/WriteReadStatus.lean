import Ddcutil.WriteReadLoop
/-!
# WriteReadStatus — how a write-read operation's tries are classified

The final status in terms of the whole sequence of tries.
-/
namespace Ddc

open Kit List

def NullMeansUnsupported (call : WriteReadCall) (k : Nat) : Prop :=
  countsAsNull call k = true ∧ call.flags.capabilities = false

def ClassifiedTooLate (maxTries : MaxTries) (call : WriteReadCall) (k : Nat) : Prop :=
  k + 1 = maxTries.val ∧ isRetryable call k = true ∧
    ((∀ j ≤ k, tryStatus call j = ddcrcReadAllZero) ∨ ∀ j ≤ k, NullMeansUnsupported call j)

theorem countP_range_eq {p : Nat → Bool} {n : Nat} : (List.range n).countP p = n ↔ ∀ j < n, p j = true := by
  have h := countP_eq_length (p := p) (l := List.range n)
  rw [length_range] at h
  rw [h]; exact ⟨fun h j hj => h j (mem_range.mpr hj), fun h j hj => h j (mem_range.mp hj)⟩

theorem zeroCt_eq_iff (call : WriteReadCall) (k : Nat) :
    zeroCt call (k + 1) = k + 1 ↔ ∀ j ≤ k, tryStatus call j = ddcrcReadAllZero := by
  rw [zeroCt, countP_range_eq]
  exact ⟨fun h j hj => of_decide_eq_true (h j (Nat.lt_succ_of_le hj)),
    fun h j hj => decide_eq_true (h j (Nat.le_of_lt_succ hj))⟩

theorem allNullMeantUnsupported_iff (call : WriteReadCall) (k : Nat) :
    allNullMeantUnsupported call k = true ↔ ∀ j ≤ k, NullMeansUnsupported call j := by
  rw [allNullMeantUnsupported, Bool.and_eq_true, Bool.and_eq_true, beq_iff_eq, nullCt, countP_range_eq]
  constructor
  · rintro ⟨⟨-, hcap⟩, hall⟩ j hj
    exact ⟨hall j (Nat.lt_succ_of_le hj), by simpa using hcap⟩
  · intro h
    have hmay : mayMeanUnsupportedFeature call = true := by
      have h0 := (h 0 (Nat.zero_le k)).1
      simp only [countsAsNull, Bool.and_eq_true] at h0; exact h0.2.2
    refine ⟨⟨?_, ?_⟩, fun j hj => (h j (Nat.le_of_lt_succ hj)).1⟩
    · rw [mayMeanUnsupportedFeature, Bool.or_eq_true, Bool.and_eq_true] at hmay
      rw [Bool.or_eq_true]; exact hmay.imp (fun h => h.2) id
    · rw [(h 0 (Nat.zero_le k)).2]; rfl

theorem countsAsNull_status {call : WriteReadCall} {k : Nat} (h : countsAsNull call k = true) :
    tryStatus call k = ddcrcNullResponse := by
  unfold countsAsNull at h
  rw [Bool.and_eq_true, decide_eq_true_eq] at h; exact h.1

theorem nullCt_le {call : WriteReadCall} : ∀ {k : Nat}, (∀ j < k, Continues call j) →
    nullCt call k ≤ ddcrcNullResponseMax
  | 0, _ => Nat.zero_le _
  | k + 1, h => by
    have hprev := nullCt_le fun j hj => h j (Nat.lt_succ_of_lt hj)
    cases hc : countsAsNull call k with
    | false =>
      rw [nullCt_succ, hc]; exact hprev
    | true =>
      have hr := (h k (Nat.lt_succ_self k)).2
      rw [isRetryable, if_pos (countsAsNull_status hc), hc] at hr
      simpa using hr

theorem nullCt_exceeded_iff {call : WriteReadCall} {k : Nat} (hbefore : ∀ j < k, Continues call j)
    (hnot : isRetryable call k = false) :
    ddcrcNullResponseMax < nullCt call (k + 1) ↔ countsAsNull call k = true := by
  have hle := nullCt_le hbefore
  constructor
  · intro hlt
    cases hc : countsAsNull call k with
    | true => rfl
    | false =>
      rw [nullCt_succ, hc] at hlt; exact absurd hlt (Nat.not_lt.mpr hle)
  · intro hc
    rw [isRetryable, if_pos (countsAsNull_status hc), hc] at hnot
    simpa using hnot

theorem settledStatus_eq {maxTries : MaxTries} {call : WriteReadCall} {k : Nat} (hlast : LastTry maxTries call k) :
    (isRetryable call k = true → settledStatus maxTries call k = ddcrcRetries) ∧
    (isRetryable call k = false →
      (k + 1 = maxTries.val → (∀ j ≤ k, tryStatus call j = ddcrcReadAllZero) →
        settledStatus maxTries call k = ddcrcAllTriesZero) ∧
      ((∀ j ≤ k, NullMeansUnsupported call j) → settledStatus maxTries call k = ddcrcDeterminedUnsupported) ∧
      (countsAsNull call k = true → ¬ (∀ j ≤ k, NullMeansUnsupported call j) →
        settledStatus maxTries call k = ddcrcAllResponsesNull) ∧
      (countsAsNull call k = false → ¬ (k + 1 = maxTries.val ∧ ∀ j ≤ k, tryStatus call j = ddcrcReadAllZero) →
        settledStatus maxTries call k = tryStatus call k)) := by
  have hin := hlast.inTries
  have hzero : zeroCt call (k + 1) = maxTries.val ↔
      k + 1 = maxTries.val ∧ ∀ j ≤ k, tryStatus call j = ddcrcReadAllZero := by
    have hle : zeroCt call (k + 1) ≤ k + 1 := by
      have := countP_le_length (p := readsAllZero call) (l := List.range (k + 1))
      rwa [length_range] at this
    rw [← zeroCt_eq_iff]; omega
  have hnull : (∀ j ≤ k, NullMeansUnsupported call j) → ¬ ∀ j ≤ k, tryStatus call j = ddcrcReadAllZero := by
    intro hall hz
    have h1 := countsAsNull_status (hall k (Nat.le_refl k)).1
    rw [hz k (Nat.le_refl k)] at h1; exact absurd h1 (by decide)
  unfold settledStatus
  refine ⟨fun hr => if_pos hr, fun hr => ?_⟩
  rw [if_neg (by rw [hr]; decide)]
  have hfour := nullCt_exceeded_iff hlast.before hr
  refine ⟨fun hmax hz => if_pos (hzero.mpr ⟨hmax, hz⟩), fun hall => ?_, fun hc hsome => ?_, fun hc hz => ?_⟩
  · rw [if_neg (fun h => hnull hall (hzero.mp h).2), if_pos ((allNullMeantUnsupported_iff call k).mpr hall)]
  · have hnz : ¬ zeroCt call (k + 1) = maxTries.val := by
      intro h
      have h1 := (hzero.mp h).2 k (Nat.le_refl k)
      rw [countsAsNull_status hc] at h1; exact absurd h1 (by decide)
    rw [if_neg hnz, if_neg (fun h => hsome ((allNullMeantUnsupported_iff call k).mp h)), if_pos (hfour.mpr hc)]
  · have hsome : ¬ allNullMeantUnsupported call k = true := by
      intro h
      have h1 := ((allNullMeantUnsupported_iff call k).mp h k (Nat.le_refl k)).1
      rw [hc] at h1; cases h1
    rw [if_neg (fun h => hz (hzero.mp h)), if_neg hsome, if_neg (fun h => absurd (hfour.mp h) (by rw [hc]; decide))]

theorem sound_keptByTries (st : RetrySettings) (call : WriteReadCall) :
    KeptByTries st call fun _ s => s.pdd.Sound where
  sleep := by
    intro k s h
    obtain ⟨pdd, hsleep, hsound, -⟩ := trySleeps_ok h st (call.tries k).slept
    exact ⟨pdd, hsleep, hsound⟩
  note := by
    intro k s h _
    obtain ⟨pdd, hnote, hsound, -⟩ := pddNoteRetryableFailure_ok h (tryStatus call k)
      (remainingAfter st.maxTries call k)
    exact ⟨pdd, hnote, hsound⟩
  quiet := fun _ _ h _ => h

/-- **What the error of a failed operation says**: its causes are the tries in order, and its status is the one the
whole sequence asks for, where the source does not come to ask too late. -/
structure Classified (maxTries : MaxTries) (call : WriteReadCall) (k : Nat) (e : ErrorInfo) : Prop where
  causes : e.causes = (List.range (k + 1)).map fun j => errinfoNew (tryStatus call j) "ddc_write_read"
  retries : isRetryable call k = true → ¬ ClassifiedTooLate maxTries call k → e.statusCode = ddcrcRetries
  allTriesZero : isRetryable call k = false → k + 1 = maxTries.val → (∀ j ≤ k, tryStatus call j = ddcrcReadAllZero) →
    e.statusCode = ddcrcAllTriesZero
  determinedUnsupported : isRetryable call k = false → (∀ j ≤ k, NullMeansUnsupported call j) →
    e.statusCode = ddcrcDeterminedUnsupported
  allResponsesNull : isRetryable call k = false → countsAsNull call k = true →
    ¬ (∀ j ≤ k, NullMeansUnsupported call j) → e.statusCode = ddcrcAllResponsesNull
  lastStatus : isRetryable call k = false → countsAsNull call k = false →
    ¬ (k + 1 = maxTries.val ∧ ∀ j ≤ k, tryStatus call j = ddcrcReadAllZero) → e.statusCode = tryStatus call k

theorem errorsFound_eq {call : WriteReadCall} : ∀ {n : Nat}, (∀ j < n, tryStatus call j < 0) →
    ((List.range n).map (tryError call)).filterMap id =
      (List.range n).map fun j => errinfoNew (tryStatus call j) "ddc_write_read"
  | 0, _ => rfl
  | n + 1, h => by
    have hlast : tryError call n = some (errinfoNew (tryStatus call n) "ddc_write_read") := by
      rcases try_cases call n with ⟨hok, -⟩ | ⟨-, herr, -⟩
      · exact absurd (h n (Nat.lt_succ_self n)) (by rw [hok]; decide)
      · exact herr
    rw [map_range_succ, map_range_succ, filterMap_append, errorsFound_eq fun j hj => h j (Nat.lt_succ_of_lt hj),
      hlast]
    rfl

/-- **How the tries of `ddc_write_read_with_retry` are classified**, for every sequence of tries and every maximum. -/
theorem ddcWriteReadWithRetry_classifies (st : RetrySettings) (state : DdcState) (call : WriteReadCall)
    (h : state.pdd.Sound) :
    ∃ k r, ddcWriteReadWithRetry st state call = .ok r ∧ LastTry st.maxTries call k ∧ r.tries = k + 1 ∧
      (r.excp = none ↔ tryStatus call k = 0) ∧ (r.packet.isSome ↔ tryStatus call k = 0) ∧
      (FindsBusDead call k → r.excp = (call.tries k).busCheck) ∧
      (tryStatus call k < 0 → ¬ FindsBusDead call k → ∃ e, r.excp = some e ∧ Classified st.maxTries call k e) := by
  obtain ⟨k, s, r, hr, hlast, hcases⟩ := ddcWriteReadWithRetry_ends (sound_keptByTries st call) (fun _ _ hs => hs) h
  refine ⟨k, r, hr, hlast, ?_⟩
  rcases hcases with ⟨hdead, -, rfl⟩ | ⟨hnotDead, -, hfinished⟩
  · have hneg : tryStatus call k ≠ 0 := by
      intro h0
      rw [FindsBusDead, h0] at hdead
      rcases hdead.1 with he | he
      · exact absurd he (by decide)
      · exact absurd he (by decide)
    have hsome : (call.tries k).busCheck ≠ none := Option.isSome_iff_ne_none.mp hdead.2
    exact ⟨rfl, ⟨fun hnone => absurd hnone hsome, fun h0 => absurd h0 hneg⟩,
      ⟨fun hp => absurd hp Bool.false_ne_true, fun h0 => absurd h0 hneg⟩, fun _ => rfl, fun _ hnot => absurd hdead hnot⟩
  · refine ⟨hfinished.tries, ?_, ?_, fun hdead => absurd hdead hnotDead, ?_⟩
    · rw [hfinished.excp]
      rcases try_cases call k with ⟨hok, -, -⟩ | ⟨hneg, -, -⟩
      · simp [hok]
      · simp [hneg, Int.ne_of_lt hneg]
    · rw [hfinished.packet]
      rcases try_cases call k with ⟨hok, -, hpacket⟩ | ⟨hneg, -, hpacket⟩
      · simp [hok, hpacket]
      · simp [hpacket, Int.ne_of_lt hneg]
    · intro hneg _
      have hfailed : ∀ j < k + 1, tryStatus call j < 0 := by
        intro j hj
        rcases Nat.lt_succ_iff_lt_or_eq.mp hj with hlt | rfl
        · exact (hlast.before j hlt).1
        · exact hneg
      obtain ⟨hretry, hfinal⟩ := settledStatus_eq hlast
      refine ⟨_, hfinished.excp.trans (if_pos hneg), errorsFound_eq hfailed, fun hr _ => hretry hr, ?_, ?_, ?_, ?_⟩
      · exact fun hr => (hfinal hr).1
      · exact fun hr => (hfinal hr).2.1
      · exact fun hr => (hfinal hr).2.2.1
      · exact fun hr => (hfinal hr).2.2.2

/-! ## Two calls -/

def TryCounters.zero : TryCounters := ⟨List.replicate (maxMaxTries + 2) 0, length_noTries⟩

def quietDisplay : DdcState where
  dsa2Enabled := false
  pdd := ⟨1, false, none, true, 0, false, .zero⟩
  tryData := .zero

def defaultTries : RetrySettings := ⟨defaultDsa2Settings, initialMaxWriteReadExchangeTries, false⟩

def plainReadHandle : ReadHandle := ⟨false, false, fun h => absurd h.1 (by decide)⟩

def tableReadCall (tries : Nat → TryOutcome) : WriteReadCall :=
  ⟨plainReadHandle, ddcPacketTypeTableReadResponse, ⟨true, false, true⟩, tries, 0⟩

def nullTry : TryOutcome := ⟨.failure ddcrcNullResponse (by decide), true, none⟩

def badDataTry : TryOutcome := ⟨.failure ddcrcDdcData (by decide), true, none⟩

def deadBusTry : TryOutcome :=
  ⟨.failure (-eIo) (by decide), false, some (errinfoNew ddcrcDisconnected "i2c_check_open_bus_alive")⟩

def nullCall : WriteReadCall := tableReadCall fun _ => nullTry

theorem ddcWriteReadWithRetry_classifies_null :
    ∃ k r, ddcWriteReadWithRetry defaultTries quietDisplay nullCall = .ok r ∧ LastTry defaultTries.maxTries nullCall k ∧
      r.tries = k + 1 ∧ ∃ e, r.excp = some e ∧ Classified defaultTries.maxTries nullCall k e := by
  have hsound : quietDisplay.pdd.Sound := ⟨fun _ h => absurd h (Option.some_ne_none _).symm, fun h => absurd h (by decide)⟩
  obtain ⟨k, r, hr, hlast, htries, -, -, -, hclass⟩ :=
    ddcWriteReadWithRetry_classifies defaultTries quietDisplay nullCall hsound
  have hneg : tryStatus nullCall k < 0 := show (ddcrcNullResponse : Int) < 0 by decide
  have hdead : ¬ FindsBusDead nullCall k := fun hd => absurd hd.2 Bool.false_ne_true
  exact ⟨k, r, hr, hlast, htries, hclass hneg hdead⟩

def deadBusCall : WriteReadCall := tableReadCall fun _ => deadBusTry

def mixedCall : WriteReadCall := tableReadCall fun k => if k = 0 then badDataTry else nullTry

/-- **An error with neither the status nor the causes of the tries**: the bus is found dead after one try that failed
with `-EIO`.  And a last try that is a null message after another failure, with a status that is not its own. -/
theorem deadBus_not_classified :
    (∃ r e, ddcWriteReadWithRetry defaultTries quietDisplay deadBusCall = .ok r ∧ r.tries = 1 ∧ r.excp = some e ∧
      tryStatus deadBusCall 0 = -eIo ∧ e.statusCode = ddcrcDisconnected ∧ e.causes = []) ∧
    ∃ r e, ddcWriteReadWithRetry defaultTries quietDisplay mixedCall = .ok r ∧ r.tries = 5 ∧ r.excp = some e ∧
      tryStatus mixedCall 4 = ddcrcNullResponse ∧ e.statusCode = ddcrcAllResponsesNull :=
  ⟨⟨_, _, rfl, rfl, rfl, rfl, rfl, rfl⟩, ⟨_, _, rfl, rfl, rfl, rfl, rfl⟩⟩

/-! ## What one operation leaves for the next

On return from an operation the per-loop retry state of its display should be closed and the operation counted once.
-/

def PerDisplayData.step (pdd : PerDisplayData) : Int :=
  match pdd.dsa2Data with
  | some rtable => rtable.curStep
  | none => 0

def Unraised (maxTries : MaxTries) (call : WriteReadCall) (step : Int) (n : Nat) : Prop :=
  ∀ j < n, Noted maxTries call j → NoteHarmless step (tryStatus call j) (remainingAfter maxTries call j)

theorem unraised_succ (maxTries : MaxTries) (call : WriteReadCall) (step : Int) (n : Nat) :
    Unraised maxTries call step (n + 1) ↔ Unraised maxTries call step n ∧
      (Noted maxTries call n → NoteHarmless step (tryStatus call n) (remainingAfter maxTries call n)) := by
  constructor
  · intro h; exact ⟨fun j hj => h j (Nat.lt_succ_of_lt hj), h n (Nat.lt_succ_self n)⟩
  · rintro ⟨h, hn⟩ j hj
    rcases Nat.lt_succ_iff_lt_or_eq.mp hj with hlt | rfl
    · exact h j hlt
    · exact hn

structure Ready (s : DdcState) : Prop where
  sound : s.pdd.Sound
  closed : s.pdd.Closed

/-- **What the tries of an operation keep** of the state it started in. -/
structure WithinOperation (maxTries : MaxTries) (call : WriteReadCall) (s0 : DdcState) (k : Nat) (s : DdcState) :
    Prop where
  sound : s.pdd.Sound
  same : SameDisplay s0.pdd s.pdd
  dsa2Enabled : s.dsa2Enabled = s0.dsa2Enabled
  tryData : s.tryData = s0.tryData
  unused : ¬ s0.pdd.UsesDsa2 → s.pdd.dsa2Data = s0.pdd.dsa2Data
  used : s0.pdd.UsesDsa2 → ∀ rtable, s.pdd.dsa2Data = some rtable →
    NotedTable s0.pdd.step (Unraised maxTries call s0.pdd.step k) rtable

theorem NotedTable.congr {step : Int} {P Q : Prop} {rtable : ResultsTable} (h : NotedTable step P rtable)
    (hiff : P ↔ Q) : NotedTable step Q rtable :=
  ⟨h.curStep, h.nullMsgCt, h.closed.trans hiff⟩

theorem Ready.withinOperation {s0 : DdcState} (h : Ready s0) (maxTries : MaxTries) (call : WriteReadCall) :
    WithinOperation maxTries call s0 0 s0 := by
  refine ⟨h.sound, SameDisplay.refl _, rfl, rfl, fun _ => rfl, fun _ rtable heq => ?_⟩
  have hclosed := h.closed.table rtable heq
  refine ⟨?_, le_of_eq hclosed.2.symm, fun _ j hj => absurd hj (Nat.not_lt_zero j), fun _ => hclosed⟩
  rw [PerDisplayData.step, heq]

variable (st : RetrySettings)

theorem withinOperation_keptByTries (call : WriteReadCall) (s0 : DdcState) :
    KeptByTries st call (WithinOperation st.maxTries call s0) where
  sleep := by
    intro k s h
    obtain ⟨pdd, hsleep, hsound, hsame, hdata⟩ := trySleeps_ok h.sound st (call.tries k).slept
    refine ⟨pdd, hsleep, hsound, h.same.trans hsame, h.dsa2Enabled, h.tryData, ?_, ?_⟩
    · exact fun hno => hdata.trans (h.unused hno)
    · exact fun huse rtable heq => h.used huse rtable (hdata ▸ heq)
  note := by
    intro k s h hnoted
    obtain ⟨pdd, hnote, hsound, hsame, hoff, hon⟩ := pddNoteRetryableFailure_ok h.sound (tryStatus call k)
      (remainingAfter st.maxTries call k)
    refine ⟨pdd, hnote, hsound, h.same.trans hsame, h.dsa2Enabled, h.tryData, ?_, ?_⟩
    · intro hno; exact (hoff fun huse => hno (h.same.usesDsa2.mp huse)).trans (h.unused hno)
    · intro huse rtable' heq
      obtain ⟨rtable, hold, hs, hrun⟩ := hon (h.same.usesDsa2.mpr huse) rtable' heq
      refine (dsa2NoteRetryableFailure_noted hs (h.used huse rtable hold) hrun).congr ?_
      rw [unraised_succ]
      exact and_congr_right' ⟨fun hharmless _ => hharmless, fun hall => hall hnoted⟩
  quiet := by
    intro k s h hquiet
    refine ⟨h.sound, h.same, h.dsa2Enabled, h.tryData, h.unused, fun huse rtable heq => ?_⟩
    refine (h.used huse rtable heq).congr ?_
    rw [unraised_succ]; exact ⟨fun hall => ⟨hall, fun hn => absurd hn hquiet⟩, fun hall => hall.1⟩

/-! ## The return of one operation -/

def RecordedOnce (s s' : DdcState) : Prop :=
  ∃ index, s.pdd.tryStats.bump index = .ok s'.pdd.tryStats ∧ s.tryData.bump index = .ok s'.tryData

structure ReturnsClosed (s : DdcState) (r : WriteReadReturn) : Prop where
  closed : r.state.pdd.Closed
  recorded : RecordedOnce s r.state

/-- **When an operation closes its display**: its last try does not find the bus dead, and where the display uses the
algorithm although the module is switched off, no failure that another try follows raises the retry step or counts a
null message. -/
structure ClosesDisplay (st : RetrySettings) (s : DdcState) (call : WriteReadCall) : Prop where
  alive : ∀ k, LastTry st.maxTries call k → ¬ FindsBusDead call k
  unraised : s.pdd.UsesDsa2 → s.dsa2Enabled = false → ∀ k, LastTry st.maxTries call k →
    Unraised st.maxTries call s.pdd.step (k + 1)

theorem bump_ne_self {c : TryCounters} {index : Nat} : c.bump index ≠ .ok c := by
  intro h
  unfold TryCounters.bump at h
  split at h
  · rename_i hlt
    have hsum := sum_modify_succ c.counters index hlt
    have heq := congrArg TryCounters.counters (Except.ok.inj h)
    dsimp only at heq
    rw [heq] at hsum; omega
  · cases h

/-- **One operation returns**: dead or not, sound; without a count when the bus was found dead, and otherwise counted
once and closed but for a table that was raised while the module was off. -/
theorem ddcWriteReadWithRetry_leaves {s : DdcState} (h : Ready s) (call : WriteReadCall) :
    ∃ k r, ddcWriteReadWithRetry st s call = .ok r ∧ LastTry st.maxTries call k ∧ r.state.pdd.Sound ∧
      (FindsBusDead call k → ¬ RecordedOnce s r.state) ∧
      (¬ FindsBusDead call k → RecordedOnce s r.state ∧ (r.state.pdd.Closed ↔
        (s.pdd.UsesDsa2 → s.dsa2Enabled = false → Unraised st.maxTries call s.pdd.step (k + 1)))) := by
  obtain ⟨k, s', r, hr, hlast, hcases⟩ := ddcWriteReadWithRetry_ends (withinOperation_keptByTries st call s)
    (fun _ _ hw => hw.sound) (h.withinOperation st.maxTries call)
  refine ⟨k, r, hr, hlast, ?_⟩
  rcases hcases with ⟨hdead, hw, rfl⟩ | ⟨halive, hw, hfinished⟩
  · refine ⟨hw.sound, fun _ => ?_, fun hnot => absurd hdead hnot⟩
    rintro ⟨index, -, htry⟩
    rw [hw.tryData] at htry; exact bump_ne_self htry
  · obtain ⟨pdd, tries, stats, tryData, index, hrecord, hstats, htry, hstate⟩ := hfinished.recorded
    obtain ⟨pdd', hrecord', hsound, hsame, hct, hadj, hon, hoff⟩ := pddRecordFinal_ok st.dsa2 s'.dsa2Enabled hw.sound
      (tryStatus call k) tries call.now
    obtain rfl : pdd = pdd' := Except.ok.inj (hrecord.symm.trans hrecord')
    rw [hstate]
    refine ⟨⟨hsound.table, hsound.present⟩, fun hdead => absurd hdead halive, fun _ => ⟨⟨index, ?_, ?_⟩, ?_⟩⟩
    · rw [← hw.same.tryStats, ← hsame.tryStats]; exact hstats
    · rw [← hw.tryData]; exact htry
    · -- what is left is the table
      have hclosed : PerDisplayData.Closed { pdd with tryStats := stats } ↔ pdd.TableClosed :=
        ⟨fun hc => hc.table, fun ht => ⟨ht, hct, hadj⟩⟩
      rw [hclosed]
      by_cases huse : s.pdd.UsesDsa2
      · have huse' : s'.pdd.UsesDsa2 := hw.same.usesDsa2.mpr huse
        cases hen : s.dsa2Enabled with
        | true =>
          have ht := hon huse' (hw.dsa2Enabled.trans hen)
          exact ⟨fun _ _ hfalse => absurd hfalse (by decide), fun _ => ht⟩
        | false =>
          have hdata := hoff fun hboth => by
            rw [hw.dsa2Enabled, hen] at hboth; exact absurd hboth.2 Bool.false_ne_true
          obtain ⟨rtable, heq⟩ := Option.isSome_iff_exists.mp (hw.sound.present huse'.2)
          have hnoted := (hw.used huse rtable heq).closed
          constructor
          · intro ht _ _; exact hnoted.mp (ht rtable (hdata.trans heq))
          · intro hall t ht
            obtain rfl : rtable = t := Option.some.inj (heq.symm.trans (hdata.symm.trans ht))
            exact hnoted.mpr (hall huse rfl)
      · have hdata : pdd.dsa2Data = s.pdd.dsa2Data :=
          (hoff fun hboth => huse (hw.same.usesDsa2.mp hboth.1)).trans (hw.unused huse)
        exact ⟨fun _ hu => absurd hu huse, fun _ t ht => h.closed.table t (hdata ▸ ht)⟩

theorem returnsClosed_iff {s : DdcState} (h : Ready s) (call : WriteReadCall) :
    (∀ r, ddcWriteReadWithRetry st s call = .ok r → ReturnsClosed s r) ↔ ClosesDisplay st s call := by
  obtain ⟨k, r, hr, hlast, -, hdead, halive⟩ := ddcWriteReadWithRetry_leaves st h call
  constructor
  · intro hall
    obtain ⟨hclosed, hrecorded⟩ := hall r hr
    have hnot : ¬ FindsBusDead call k := fun hd => hdead hd hrecorded
    refine ⟨fun k' hk' => hlast.unique hk' ▸ hnot, fun huse hoff k' hk' => ?_⟩
    rw [← hlast.unique hk']; exact (halive hnot).2.mp hclosed huse hoff
  · intro hcloses r' hr'
    obtain rfl : r = r' := Except.ok.inj (hr.symm.trans hr')
    obtain ⟨hrecorded, hiff⟩ := halive (hcloses.alive k hlast)
    exact ⟨hiff.mpr fun huse hoff => hcloses.unraised huse hoff k hlast, hrecorded⟩

/-! ## Runs -/

inductive DisplayEvent where
  | operation (st : RetrySettings) (call : WriteReadCall)
  | pddSetDynamicSleepActive (onoff : Bool)
  | pddEnableDynamicSleepAll (onoff : Bool)
  | dsa2Enable (yesno : Bool)

def displayStep (s : DdcState) : DisplayEvent → Exec DdcState
  | .operation st call => WriteReadReturn.state <$> ddcWriteReadWithRetry st s call
  | .pddSetDynamicSleepActive onoff => .ok { s with pdd := { s.pdd with dynamicSleepActive := onoff } }
  | .pddEnableDynamicSleepAll onoff => .ok { s with dsa2Enabled := onoff, pdd := { s.pdd with dsa2Enabled := onoff } }
  | .dsa2Enable yesno => .ok { s with dsa2Enabled := yesno }

/-- The events of the runs considered: operations that meet the condition, and the algorithm switched on for a display
only where it has a table. -/
def EventAllowed (s : DdcState) : DisplayEvent → Prop
  | .operation st call => ClosesDisplay st s call
  | .pddEnableDynamicSleepAll onoff => onoff = true → s.pdd.dsa2Data.isSome
  | _ => True

theorem displayStep_ready (s : DdcState) (event : DisplayEvent) (h : Ready s) (ha : EventAllowed s event) :
    ∃ s', displayStep s event = .ok s' ∧ Ready s' := by
  have hc := h.closed
  cases event with
  | operation st call =>
    obtain ⟨k, r, hr, hlast, hsound, -⟩ := ddcWriteReadWithRetry_leaves st h call
    refine ⟨r.state, ?_, hsound, ((returnsClosed_iff st h call).mpr ha r hr).closed⟩
    simp only [displayStep, hr, Exec.ok_map]
  | pddSetDynamicSleepActive onoff =>
    exact ⟨_, rfl, ⟨h.sound.table, h.sound.present⟩, ⟨hc.table, hc.nullMsgCt, hc.nullAdjustment⟩⟩
  | pddEnableDynamicSleepAll onoff =>
    exact ⟨_, rfl, ⟨h.sound.table, ha⟩, ⟨hc.table, hc.nullMsgCt, hc.nullAdjustment⟩⟩
  | dsa2Enable yesno => exact ⟨_, rfl, h.sound, hc⟩

/-- **The per-loop retry state is closed on return exactly where the last try does not find the bus dead and nothing
was raised while the module was off**, and over every run of such operations, with the switches set in between, the
display is closed in every state reached and each further operation that meets the condition returns closed. -/
theorem ddcWriteReadWithRetry_closes_iff {s : DdcState} (h : Ready s) :
    (∀ (st : RetrySettings) (call : WriteReadCall),
      (∀ r, ddcWriteReadWithRetry st s call = .ok r → ReturnsClosed s r) ↔ ClosesDisplay st s call) ∧
    ∀ s', Reachable (fun s0 => s0 = s) EventAllowed displayStep s' → s'.pdd.Closed ∧
      ∀ (st : RetrySettings) (call : WriteReadCall), ClosesDisplay st s' call →
        ∃ r, ddcWriteReadWithRetry st s' call = .ok r ∧ ReturnsClosed s' r := by
  refine ⟨fun st call => returnsClosed_iff st h call, fun s' hs => ?_⟩
  have hready : Ready s' := hs.inv (fun _ h0 => h0 ▸ h) displayStep_ready
  refine ⟨hready.closed, fun st call hcloses => ?_⟩
  obtain ⟨k, r, hr, -⟩ := ddcWriteReadWithRetry_leaves st hready call
  exact ⟨r, hr, (returnsClosed_iff st hready call).mpr hcloses r hr⟩

theorem quietDisplay_ready : Ready quietDisplay where
  sound := ⟨fun _ h => absurd h (Option.some_ne_none _).symm, fun h => absurd h (by decide)⟩
  closed := ⟨fun _ h => absurd h (Option.some_ne_none _).symm, rfl, rfl⟩

/-- Null messages only, none of which finds a dead bus, leave the display closed. -/
theorem ddcWriteReadWithRetry_closes_null :
    ∃ r, ddcWriteReadWithRetry defaultTries quietDisplay nullCall = .ok r ∧ r.tries = 4 ∧ ReturnsClosed quietDisplay r :=
  ⟨_, rfl, rfl, ((ddcWriteReadWithRetry_closes_iff quietDisplay_ready).1 defaultTries nullCall).2
    ⟨fun _ _ hd => absurd hd.2 Bool.false_ne_true, fun huse => absurd huse.2 Bool.false_ne_true⟩ _ rfl⟩

def nullThenDeadCall : WriteReadCall :=
  ⟨plainReadHandle, ddcPacketTypeQueryVcpResponse, ⟨false, false, false⟩,
    fun k => if k = 0 then nullTry else deadBusTry, 0⟩

/-- **An operation that leaves its display open and is not counted**: the null message of its first try is still counted
when the next one starts. -/
theorem deadBus_leaves_open :
    ∃ r, ddcWriteReadWithRetry defaultTries quietDisplay nullThenDeadCall = .ok r ∧ r.tries = 2 ∧
      r.state.pdd.curLoopNullMsgCt = 1 ∧ r.state.tryData = quietDisplay.tryData ∧ ¬ ReturnsClosed quietDisplay r :=
  ⟨_, rfl, rfl, rfl, rfl, fun h => absurd h.closed.nullMsgCt (by decide)⟩

end Ddc
