import Ddcutil.WriteRead
/-!
# WriteReadLoop — the try loop of a write-read operation

What the loop does, in terms of what each try meets: which failures another try follows, where it ends, and what it
has counted there.
-/
namespace Ddc

open Kit List Exec

/-! ## What a try means -/

def tryStatus (call : WriteReadCall) (k : Nat) : Status :=
  match (call.tries k).result with
  | .response _ => 0
  | .failure psc _ => psc

def countsAsNull (call : WriteReadCall) (k : Nat) : Bool :=
  decide (tryStatus call k = ddcrcNullResponse) &&
    (!call.handle.testingUnsupportedFeatureActive && mayMeanUnsupportedFeature call)

def readsAllZero (call : WriteReadCall) (k : Nat) : Bool := decide (tryStatus call k = ddcrcReadAllZero)

def nullCt (call : WriteReadCall) (n : Nat) : Nat := (List.range n).countP (countsAsNull call)

def zeroCt (call : WriteReadCall) (n : Nat) : Nat := (List.range n).countP (readsAllZero call)

/-- **A failure that may be retried**: the fourth null message that may mean unsupported may not, nor an all-zero
response where it is acceptable, nor four errors of the bus. -/
def isRetryable (call : WriteReadCall) (k : Nat) : Bool :=
  if tryStatus call k = ddcrcNullResponse then !countsAsNull call k || nullCt call (k + 1) ≤ ddcrcNullResponseMax
  else if tryStatus call k = ddcrcReadAllZero then !call.flags.allZeroResponseOk
  else if tryStatus call k = -eIo ∨ tryStatus call k = -eBadf ∨ tryStatus call k = -eNxio ∨ tryStatus call k = -eBusy
    then false
  else true

def Continues (call : WriteReadCall) (k : Nat) : Prop := tryStatus call k < 0 ∧ isRetryable call k = true

abbrev FindsBusDead (call : WriteReadCall) (k : Nat) : Prop :=
  (tryStatus call k = -eIo ∨ tryStatus call k = -eNxio) ∧ (call.tries k).busCheck.isSome

def Noted (maxTries : MaxTries) (call : WriteReadCall) (k : Nat) : Prop := Continues call k ∧ k + 1 < maxTries.val

def remainingAfter (maxTries : MaxTries) (call : WriteReadCall) (k : Nat) : Int :=
  if countsAsNull call k then ddcrcNullResponseMax - 1 - k else maxTries.val - 1 - k

def tryError (call : WriteReadCall) (k : Nat) : Option ErrorInfo := (ddcWriteRead (call.tries k).result).1

def tryPacket (call : WriteReadCall) (k : Nat) : Option DdcPacket := (ddcWriteRead (call.tries k).result).2

section
variable (call : WriteReadCall)

theorem errinfoStatus_tryError (k : Nat) : errinfoStatus (tryError call k) = tryStatus call k := by
  unfold tryError tryStatus
  cases (call.tries k).result with
  | response packet | failure psc neg => rfl

theorem tryError_isNone_iff (k : Nat) : (tryError call k).isNone ↔ (tryPacket call k).isSome := by
  unfold tryError tryPacket
  cases (call.tries k).result with
  | response packet | failure psc neg => simp [ddcWriteRead]

theorem try_cases (k : Nat) :
    (tryStatus call k = 0 ∧ tryError call k = none ∧ (tryPacket call k).isSome) ∨
    (tryStatus call k < 0 ∧ tryError call k = some (errinfoNew (tryStatus call k) "ddc_write_read") ∧
      tryPacket call k = none) := by
  unfold tryStatus tryError tryPacket
  cases (call.tries k).result with
  | response packet => exact .inl ⟨rfl, rfl, rfl⟩
  | failure psc neg => exact .inr ⟨neg, rfl, rfl⟩

theorem nullCt_succ (n : Nat) : nullCt call (n + 1) = nullCt call n + if countsAsNull call n then 1 else 0 := by
  unfold nullCt
  rw [range_succ, countP_append, countP_singleton]

theorem zeroCt_succ (n : Nat) : zeroCt call (n + 1) = zeroCt call n + if readsAllZero call n then 1 else 0 := by
  unfold zeroCt
  rw [range_succ, countP_append, countP_singleton]

end

variable {call : WriteReadCall} {k : Nat} {s : WriteReadTries} {maxTries : MaxTries} {W : Nat → DdcState → Prop}
variable {st : RetrySettings}

theorem not_continues_of_findsBusDead (h : FindsBusDead call k) : ¬ Continues call k := by
  rintro ⟨-, hr⟩
  unfold isRetryable at hr
  rcases h.1 with h | h
  · rw [h, if_neg (by decide), if_neg (by decide), if_pos (.inl rfl)] at hr; cases hr
  · rw [h, if_neg (by decide), if_neg (by decide), if_pos (.inr (.inr (.inl rfl)))] at hr; cases hr

/-! ## One turn -/

theorem classifyTry_ok (hretry : s.retryable = true) (hzero : s.readAllZeroCt = zeroCt call s.tryctr)
    (hnull : s.nullResponseCt = nullCt call s.tryctr) :
    classifyTry call (tryStatus call s.tryctr) s = .ok ⟨isRetryable call s.tryctr, zeroCt call (s.tryctr + 1),
      nullCt call (s.tryctr + 1), countsAsNull call s.tryctr⟩ := by
  rw [classifyTry, isRetryable, zeroCt_succ, nullCt_succ, hzero, hnull]
  by_cases h1 : tryStatus call s.tryctr = ddcrcNullResponse
  · have hz : readsAllZero call s.tryctr = false := by rw [readsAllZero, h1]; decide
    simp only [check_pos call.handle.exclusive, ok_bind, hz, countsAsNull, h1, decide_true,
      Bool.true_and]
    cases call.handle.testingUnsupportedFeatureActive with
    | true => simp
    | false =>
      cases mayMeanUnsupportedFeature call with
      | true => simp
      | false => simp [hretry]
  · have hc : countsAsNull call s.tryctr = false := by
      rw [countsAsNull, decide_eq_false h1, Bool.false_and]
    rw [if_neg h1, if_neg h1, hc]
    by_cases h2 : tryStatus call s.tryctr = ddcrcReadAllZero
    · simp [h2, readsAllZero]
    · have hz : readsAllZero call s.tryctr = false := decide_eq_false h2
      rw [if_neg h2, if_neg h2, hz]
      split
      · simp
      · simp

/-- **A predicate on the state that tries keep**: `W k` holds before try `k`. -/
structure KeptByTries (st : RetrySettings) (call : WriteReadCall) (W : Nat → DdcState → Prop) : Prop where
  sleep : ∀ k s, W k s → ∃ pdd, trySleeps st (call.tries k).slept s.pdd = .ok pdd ∧ W k { s with pdd := pdd }
  note : ∀ k s, W k s → Noted st.maxTries call k →
    ∃ pdd, pddNoteRetryableFailure s.pdd (tryStatus call k) (remainingAfter st.maxTries call k) = .ok pdd ∧
      W (k + 1) { s with pdd := pdd }
  quiet : ∀ k s, W k s → ¬ Noted st.maxTries call k → W (k + 1) s

structure BetweenWriteReads (maxTries : MaxTries) (call : WriteReadCall) (W : Nat → DdcState → Prop) (left : Nat)
    (s : WriteReadTries) : Prop where
  noMaster : s.masterError = none
  count : s.tryctr + left = maxTries.val
  errors : s.tryErrors = (List.range s.tryctr).map (tryError call)
  zero : s.readAllZeroCt = zeroCt call s.tryctr
  null : s.nullResponseCt = nullCt call s.tryctr
  first : s.tryctr = 0 → s.psc < 0 ∧ s.retryable = true
  before : ∀ j, j + 1 < s.tryctr → Continues call j
  last : ∀ k, s.tryctr = k + 1 → s.psc = tryStatus call k ∧ s.packet = tryPacket call k ∧ ¬ FindsBusDead call k ∧
    (s.psc < 0 → s.retryable = isRetryable call k)
  state : W s.tryctr s.state

structure LeftDeadBus (maxTries : MaxTries) (call : WriteReadCall) (W : Nat → DdcState → Prop) (k : Nat)
    (s : WriteReadTries) : Prop where
  inTries : k < maxTries.val
  before : ∀ j < k, Continues call j
  dead : FindsBusDead call k
  master : s.masterError = (call.tries k).busCheck
  packet : s.packet = none
  errors : s.tryErrors = (List.range (k + 1)).map (tryError call)
  state : W k s.state

theorem map_range_succ {α : Type} (f : Nat → α) (n : Nat) :
    (List.range (n + 1)).map f = (List.range n).map f ++ [f n] := by
  rw [range_succ, map_append]; rfl

theorem BetweenWriteReads.continued {left : Nat} (h : BetweenWriteReads maxTries call W left s)
    (hc : (s.psc < 0 && s.retryable && s.masterError.isNone) = true) :
    s.retryable = true ∧ ∀ j < s.tryctr, Continues call j := by
  simp only [Bool.and_eq_true, decide_eq_true_eq] at hc
  obtain ⟨⟨hneg, hretry⟩, -⟩ := hc
  refine ⟨hretry, fun j hj => ?_⟩
  by_cases hlt : j + 1 < s.tryctr
  · exact h.before j hlt
  · obtain ⟨hpsc, -, -, hr⟩ := h.last j (by omega)
    exact ⟨hpsc ▸ hneg, (hr hneg).symm.trans hretry⟩

theorem noted_iff (maxTries : MaxTries) (call : WriteReadCall) (hneg : tryStatus call k < 0) :
    (tryStatus call k ≠ 0 ∧ isRetryable call k = true ∧ (0 : Int) < maxTries.val - 1 - k) ↔ Noted maxTries call k := by
  constructor
  · rintro ⟨-, hr, hlt⟩
    exact ⟨⟨hneg, hr⟩, by omega⟩
  · rintro ⟨⟨-, hr⟩, hlt⟩
    exact ⟨Int.ne_of_lt hneg, hr, by omega⟩

theorem writeReadTry_ok (hW : KeptByTries st call W) {left : Nat}
    (h : BetweenWriteReads st.maxTries call W (left + 1) s)
    (hc : (s.psc < 0 && s.retryable && s.masterError.isNone) = true) :
    ∃ s', writeReadTry st call s = .ok s' ∧
      (BetweenWriteReads st.maxTries call W left s' ∨ ∃ k, LeftDeadBus st.maxTries call W k s') := by
  have hct := h.count
  have hmax := st.maxTries.le
  obtain ⟨hretry, hbefore⟩ := h.continued hc
  obtain ⟨pdd, hsleep, hstate⟩ := hW.sleep s.tryctr s.state h.state
  have hadd : addTryError s.tryErrors (tryError call s.tryctr) =
      .ok ((List.range (s.tryctr + 1)).map (tryError call)) := by
    have hlen : s.tryErrors.length < maxMaxTries := by
      rw [h.errors, length_map, length_range]; omega
    rw [addTryError, if_pos hlen, map_range_succ, h.errors]
  have hiff : (ddcWriteRead (call.tries s.tryctr).result).1.isNone ↔
      (ddcWriteRead (call.tries s.tryctr).result).2.isSome := tryError_isNone_iff call s.tryctr
  have hstatus : errinfoStatus (ddcWriteRead (call.tries s.tryctr).result).1 = tryStatus call s.tryctr :=
    errinfoStatus_tryError call s.tryctr
  unfold writeReadTry
  simp only [hsleep, check_pos hiff, ok_bind, hstatus]
  rw [show addTryError s.tryErrors (ddcWriteRead (call.tries s.tryctr).result).1 = _ from hadd, ok_bind]
  -- what every turn that stays in the loop leaves
  have hbetween : ∀ (retryable : Bool) (state : DdcState), ¬ FindsBusDead call s.tryctr →
      (tryStatus call s.tryctr < 0 → retryable = isRetryable call s.tryctr) → W (s.tryctr + 1) state →
      BetweenWriteReads st.maxTries call W left ⟨tryStatus call s.tryctr, retryable, zeroCt call (s.tryctr + 1),
        nullCt call (s.tryctr + 1), (List.range (s.tryctr + 1)).map (tryError call), tryPacket call s.tryctr,
        s.tryctr + 1, none, state⟩ := by
    intro retryable state hdead hr hw
    refine ⟨rfl, ?_, rfl, rfl, rfl, fun h0 => absurd h0 (Nat.succ_ne_zero _), ?_, ?_, hw⟩
    · dsimp only; omega
    · intro j hj; exact hbefore j (Nat.lt_of_succ_lt_succ hj)
    · intro k hk
      obtain rfl : s.tryctr = k := Nat.succ.inj hk
      exact ⟨rfl, rfl, hdead, hr⟩
  rcases try_cases call s.tryctr with ⟨hok, -, -⟩ | ⟨hneg, -, hpacket⟩
  · have hnot : ¬ tryStatus call s.tryctr < 0 := by rw [hok]; decide
    have hnull : countsAsNull call s.tryctr = false := by unfold countsAsNull; rw [hok]; rfl
    have hzero : readsAllZero call s.tryctr = false := by unfold readsAllZero; rw [hok]; rfl
    have hquiet : ¬ Noted st.maxTries call s.tryctr := fun hn => hnot hn.1.1
    have hdead : ¬ FindsBusDead call s.tryctr := by
      rw [FindsBusDead, hok]
      rintro ⟨he | he, -⟩
      · exact absurd he (by decide)
      · exact absurd he (by decide)
    rw [if_neg hnot, h.zero, h.null]
    have hend := hbetween s.retryable _ hdead (fun hlt => absurd hlt hnot) (hW.quiet _ _ hstate hquiet)
    rw [zeroCt_succ, nullCt_succ, hnull, hzero] at hend; exact ⟨_, rfl, .inl hend⟩
  · rw [if_pos hneg, classifyTry_ok hretry h.zero h.null, ok_bind]
    by_cases hdead : FindsBusDead call s.tryctr
    · refine ⟨_, if_pos hdead, .inr ⟨s.tryctr, ?_, hbefore, hdead, rfl, hpacket, rfl, hstate⟩⟩
      omega
    · rw [if_neg hdead]
      unfold noteTry
      by_cases hnoted : Noted st.maxTries call s.tryctr
      · obtain ⟨pdd', hnote, hstate'⟩ := hW.note _ _ hstate hnoted
        rw [if_pos ((noted_iff st.maxTries call hneg).mpr hnoted)]
        unfold remainingAfter at hnote
        rw [hnote, ok_bind]; exact ⟨_, rfl, .inl (hbetween _ _ hdead (fun _ => rfl) hstate')⟩
      · rw [if_neg (fun hcond => hnoted ((noted_iff st.maxTries call hneg).mp hcond)), ok_bind]
        exact ⟨_, rfl, .inl (hbetween _ _ hdead (fun _ => rfl) (hW.quiet _ _ hstate hnoted))⟩

/-! ## The end of the loop -/

/-- **Try `k` was the last**: every try before it is one that another may follow, and it is not, or none was left. -/
structure LastTry (maxTries : MaxTries) (call : WriteReadCall) (k : Nat) : Prop where
  inTries : k < maxTries.val
  before : ∀ j < k, Continues call j
  ended : k + 1 = maxTries.val ∨ ¬ Continues call k

structure LoopEnd (call : WriteReadCall) (W : Nat → DdcState → Prop) (k : Nat) (s : WriteReadTries) : Prop where
  noMaster : s.masterError = none
  tryctr : s.tryctr = k + 1
  notDead : ¬ FindsBusDead call k
  psc : s.psc = tryStatus call k
  packet : s.packet = tryPacket call k
  retry : s.psc < 0 → s.retryable = isRetryable call k
  errors : s.tryErrors = (List.range (k + 1)).map (tryError call)
  zero : s.readAllZeroCt = zeroCt call (k + 1)
  null : s.nullResponseCt = nullCt call (k + 1)
  state : W (k + 1) s.state

def loopStart (state : DdcState) : WriteReadTries := ⟨-999, true, 0, 0, [], none, 0, none, state⟩

theorem writeReadLoop_ends (hW : KeptByTries st call W) {state : DdcState} (h0 : W 0 state) :
    ∃ s k, forWhile (fun s => s.psc < 0 && s.retryable && s.masterError.isNone) (writeReadTry st call)
        st.maxTries.val (loopStart state) = .ok s ∧
      (LeftDeadBus st.maxTries call W k s ∨ LastTry st.maxTries call k ∧ LoopEnd call W k s) := by
  have hbegin : BetweenWriteReads st.maxTries call W st.maxTries.val (loopStart state) :=
    ⟨rfl, Nat.zero_add _, rfl, rfl, rfl, fun _ => ⟨show (-999 : Int) < 0 by decide, rfl⟩,
      fun j hj => absurd hj (Nat.not_lt_zero _),
      fun k hk => absurd hk (Nat.succ_ne_zero k).symm, h0⟩
  obtain ⟨s, left, hs, hinv, -, hend⟩ := forWhile_inv
    (I := fun left s => BetweenWriteReads st.maxTries call W left s ∨ ∃ k, LeftDeadBus st.maxTries call W k s)
    (fun left s h hc => by
      rcases h with h | ⟨k, hdead⟩
      · exact writeReadTry_ok hW h hc
      · -- a loop that was left takes no turn
        rw [hdead.master, Option.isNone_eq_false_iff.mpr hdead.dead.2, Bool.and_false] at hc
        cases hc)
    st.maxTries.val (loopStart state) (.inl hbegin)
  rcases hinv with h | ⟨k, hdead⟩
  · have hct := h.count
    have hpos := st.maxTries.pos
    obtain ⟨k, hk⟩ : ∃ k, s.tryctr = k + 1 := by
      cases hzero : s.tryctr with
      | succ k => exact ⟨k, rfl⟩
      | zero =>
        rcases hend with hleft | hc
        · omega
        · obtain ⟨hneg, hretry⟩ := h.first hzero
          simp [hneg, hretry, h.noMaster] at hc
    obtain ⟨hpsc, hpacket, hdead, hretry⟩ := h.last k hk
    have hended : k + 1 = st.maxTries.val ∨ ¬ Continues call k := by
      rcases hend with hleft | hc
      · exact .inl (by omega)
      · refine .inr ?_
        rintro ⟨hneg, hr⟩
        rw [← hpsc] at hneg
        rw [h.noMaster, decide_eq_true hneg, hretry hneg, hr] at hc; cases hc
    exact ⟨s, k, hs, .inr ⟨⟨by omega, fun j hj => h.before j (by omega), hended⟩,
      ⟨h.noMaster, hk, hdead, hpsc, hpacket, hretry, hk ▸ h.errors, hk ▸ h.zero, hk ▸ h.null, hk ▸ h.state⟩⟩⟩
  · exact ⟨s, k, hs, .inl hdead⟩

theorem trySleeps_ok {pdd : PerDisplayData} (h : pdd.Sound) (st : RetrySettings) (slept : Bool) :
    ∃ pdd', trySleeps st slept pdd = .ok pdd' ∧ pdd'.Sound ∧ SameDisplay pdd pdd' ∧ pdd'.dsa2Data = pdd.dsa2Data := by
  unfold trySleeps
  cases slept with
  | false => exact ⟨pdd, rfl, h, SameDisplay.refl pdd, rfl⟩
  | true =>
    have hkeep : ∀ {p p' : PerDisplayData}, p.Sound → SameDisplay p p' → p'.dsa2Data = p.dsa2Data → p'.Sound := by
      intro p p' hp hsame hdata
      exact ⟨fun t ht => hp.table t (hdata ▸ ht), fun hen => hdata ▸ hp.present (hsame.1 ▸ hen)⟩
    obtain ⟨p1, h1, hsame1, hdata1⟩ := tunedSleepWithTrace_ok h st.nullMsgAdjustmentEnabled
    have hsound1 := hkeep h hsame1 hdata1
    obtain ⟨p2, h2, hsame2, hdata2⟩ := tunedSleepWithTrace_ok hsound1 st.nullMsgAdjustmentEnabled
    refine ⟨p2, ?_, hkeep hsound1 hsame2 hdata2, hsame1.trans hsame2, hdata2.trans hdata1⟩
    rw [if_pos rfl, h1, ok_bind, h2]

theorem LastTry.unique {k' : Nat} (h : LastTry maxTries call k) (h' : LastTry maxTries call k') : k = k' := by
  have hle : ∀ {a b : Nat}, LastTry maxTries call a → LastTry maxTries call b → ¬ a < b := by
    intro a b ha hb hlt
    rcases ha.ended with hlast | hstop
    · have := hb.inTries
      omega
    · exact hstop (hb.before a hlt)
  exact Nat.le_antisymm (Nat.not_lt.mp (hle h' h)) (Nat.not_lt.mp (hle h h'))

theorem LeftDeadBus.lastTry (h : LeftDeadBus maxTries call W k s) : LastTry maxTries call k :=
  ⟨h.inTries, h.before, .inr (not_continues_of_findsBusDead h.dead)⟩

/-! ## The whole call -/

def allNullMeantUnsupported (call : WriteReadCall) (k : Nat) : Bool :=
  (call.handle.usesNullResponseForUnsupported || call.expectedResponseType == ddcPacketTypeTableReadResponse) &&
    !call.flags.capabilities && nullCt call (k + 1) == k + 1

def settledStatus (maxTries : MaxTries) (call : WriteReadCall) (k : Nat) : Status :=
  if isRetryable call k then ddcrcRetries
  else if zeroCt call (k + 1) = maxTries.val then ddcrcAllTriesZero
  else if allNullMeantUnsupported call k then ddcrcDeterminedUnsupported
  else if ddcrcNullResponseMax < nullCt call (k + 1) then ddcrcAllResponsesNull
  else tryStatus call k

/-- **What a call that did not find the bus dead returns**, from the state `s` its tries left: the operation's end is
recorded for the display, and it is counted once. -/
structure Finished (st : RetrySettings) (call : WriteReadCall) (k : Nat) (s : DdcState) (r : WriteReadReturn) :
    Prop where
  excp : r.excp = if tryStatus call k < 0 then some (errinfoNewWithCauses (settledStatus st.maxTries call k)
    (((List.range (k + 1)).map (tryError call)).filterMap id) "ddc_write_read_with_retry") else none
  packet : r.packet = tryPacket call k
  tries : r.tries = k + 1
  recorded : ∃ pdd tries stats tryData index,
    pddRecordFinal st.dsa2 s.dsa2Enabled s.pdd (tryStatus call k) tries call.now = .ok pdd ∧
    pdd.tryStats.bump index = .ok stats ∧ s.tryData.bump index = .ok tryData ∧
    r.state = { s with pdd := { pdd with tryStats := stats }, tryData := tryData }

theorem finishWriteRead_ok (hlast : LastTry st.maxTries call k) (hend : LoopEnd call W k s) (hs : s.state.pdd.Sound) :
    ∃ r, finishWriteRead st call s = .ok r ∧ Finished st call k s.state r := by
  have hcount : 1 ≤ s.tryctr ∧ s.tryctr ≤ st.maxTries.val := by
    rw [hend.tryctr]; exact ⟨Nat.succ_pos k, hlast.inTries⟩
  have hstatus : s.psc < 0 → finalStatus st.maxTries s (allNullMeantUnsupported call k) =
      settledStatus st.maxTries call k := by
    intro hneg
    rw [finalStatus, settledStatus, hend.retry hneg, hend.zero, hend.null, hend.psc]
  rw [finishWriteRead, check_pos hcount, ok_bind, hend.null, hend.tryctr]
  have hallNull : ((call.handle.usesNullResponseForUnsupported ||
      call.expectedResponseType == ddcPacketTypeTableReadResponse) && !call.flags.capabilities &&
      nullCt call (k + 1) == k + 1) = allNullMeantUnsupported call k := rfl
  simp only [hallNull]
  obtain ⟨pdd, hpdd, -⟩ := pddRecordFinal_ok st.dsa2 s.state.dsa2Enabled hs s.psc
    (if allNullMeantUnsupported call k then 1 else k + 1 : Nat) call.now
  simp only [hpdd, ok_bind]
  obtain ⟨stats, tryData, hrecord, hstats, htry⟩ := tryDataRecordTries2_ok st.maxTries { s.state with pdd := pdd }
    (if s.psc < 0 then finalStatus st.maxTries s (allNullMeantUnsupported call k) else s.psc) (Nat.succ_pos k)
    hlast.inTries
  simp only [hrecord, ok_bind, hend.errors, hend.packet]
  rw [hend.psc] at hpdd hstatus ⊢
  rcases try_cases call k with ⟨hok, -, hpacket⟩ | ⟨hneg, -, hpacket⟩
  · have hnot : ¬ tryStatus call k < 0 := by rw [hok]; decide
    rw [if_neg hnot, check_pos (by rw [hpacket]; rfl), ok_bind]
    refine ⟨_, rfl, ?_, rfl, ?_, pdd, _, stats, tryData, _, hpdd, hstats, htry, rfl⟩
    · rw [if_neg hnot]
    · simp
  · rw [if_pos hneg, check_pos (by rw [hpacket]; rfl), ok_bind]
    refine ⟨_, rfl, ?_, rfl, ?_, pdd, _, stats, tryData, _, hpdd, hstats, htry, rfl⟩
    · rw [if_pos hneg, if_pos hneg, hstatus hneg]
    · simp

/-- **`ddc_write_read_with_retry` returns**, after a last try: either it found the bus dead, and the call returns what
the check of the bus found, or the operation is finished. -/
theorem ddcWriteReadWithRetry_ends (hW : KeptByTries st call W) (hsound : ∀ k s, W k s → s.pdd.Sound) {state : DdcState}
    (h0 : W 0 state) :
    ∃ k s r, ddcWriteReadWithRetry st state call = .ok r ∧ LastTry st.maxTries call k ∧
      ((FindsBusDead call k ∧ W k s ∧ r = ⟨(call.tries k).busCheck, none, k + 1, s⟩) ∨
        (¬ FindsBusDead call k ∧ W (k + 1) s ∧ Finished st call k s r)) := by
  obtain ⟨s, k, hs, hcases⟩ := writeReadLoop_ends hW h0
  unfold ddcWriteReadWithRetry
  rw [show forWhile _ (writeReadTry st call) st.maxTries.val ⟨-999, true, 0, 0, [], none, 0, none, state⟩ = _ from hs,
    ok_bind]
  rcases hcases with hdead | ⟨hlast, hend⟩
  · obtain ⟨excp, hexcp⟩ := Option.isSome_iff_exists.mp hdead.dead.2
    refine ⟨k, s.state, ⟨(call.tries k).busCheck, none, k + 1, s.state⟩, ?_, hdead.lastTry,
      .inl ⟨hdead.dead, hdead.state, rfl⟩⟩
    rw [hdead.master, hexcp, hdead.packet, hdead.errors]
    simp [check]
  · obtain ⟨r, hr, hfinished⟩ := finishWriteRead_ok hlast hend (hsound _ _ hend.state)
    rw [hend.noMaster]; exact ⟨k, s.state, r, hr, hlast, .inr ⟨hend.notDead, hend.state, hfinished⟩⟩

end Ddc
