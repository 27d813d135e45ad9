import Ddcutil.Dsa2Steps
/-!
# Dsa2Frame — what a call does to each results table

`TableChange` lists the ways a call leaves a table: as it was, newly made, set back to a step, with a failure noted or
with an operation recorded.
-/
namespace Ddc

open Kit Exec

def AtStep (rtable : ResultsTable) : Prop :=
  0 ≤ rtable.curStep ∧ rtable.curStep ≤ stepLast ∧ rtable.curRetryLoopStep = rtable.curStep

structure SameRecord (old new : ResultsTable) : Prop where
  busno : new.busno = old.busno
  interval : new.remainingInterval = old.remainingInterval
  recent : new.recentValues = old.recentValues

inductive TableChange (call : Dsa2Call) (busno : Nat) (old : Option ResultsTable) (new : ResultsTable) : Prop
  | kept {t : ResultsTable} (hold : old = some t) (same : SameRecord t new) (hcur : new.curStep = t.curStep)
      (hretry : new.curRetryLoopStep = t.curRetryLoopStep)
  | made (hbusno : new.busno = busno) (hinterval : new.remainingInterval = defaultInterval)
      (hrecent : new.recentValues = cirbNew) (hstep : AtStep new)
  | reset {t : ResultsTable} (hold : old = some t) (same : SameRecord t new) (hstep : AtStep new)
  | noted {t : ResultsTable} (hold : old = some t) (same : SameRecord t new) (hcur : new.curStep = t.curStep)
      (hretry : t.curRetryLoopStep ≤ stepLast →
        t.curRetryLoopStep ≤ new.curRetryLoopStep ∧ new.curRetryLoopStep ≤ stepLast)
  | recorded {t : ResultsTable} {ddcrc : Status} {tries now : Int} {nullAdjustment : Bool} (hold : old = some t)
      (hcall : call = .recordFinal busno ddcrc tries nullAdjustment now) (hbusno : new.busno = t.busno)
      (hinterval : new.remainingInterval = t.remainingInterval ∨ new.remainingInterval = defaultInterval ∨
        new.remainingInterval = t.remainingInterval - 1 ∧ new.remainingInterval ≠ 0)
      (hrecent : new.recentValues = t.recentValues ∨
        new.recentValues = cirbAdd t.recentValues ⟨now, tries, t.curRetryLoopStep⟩)
      (hretry : t.curRetryLoopStep ≤ stepLast) (hstep : AtStep new)

theorem SameRecord.refl (t : ResultsTable) : SameRecord t t := ⟨rfl, rfl, rfl⟩

variable {call : Dsa2Call} {busno b : Nat} {t new rtable : ResultsTable} {g g' : Dsa2} {settings : Dsa2Settings}
variable {tries now : Int} {ddcrc : Status} {busInfo : Option Byte}

theorem TableChange.unchanged {old : Option ResultsTable} (hold : old = some t) :
    TableChange call busno old t := .kept hold (SameRecord.refl t) rfl rfl

def Dsa2.tableAt (g : Dsa2) (busno : Nat) : Option ResultsTable := g.resultsTables[busno]?.join

theorem Dsa2.tableAt_eq_some :
    g.tableAt busno = some t ↔ g.resultsTables[busno]? = some (some t) := Option.join_eq_some_iff

theorem Dsa2.mem_tables : some t ∈ g.resultsTables ↔ ∃ busno, g.tableAt busno = some t := by
  rw [List.mem_iff_getElem?]
  constructor
  · rintro ⟨busno, h⟩
    exact ⟨busno, Dsa2.tableAt_eq_some.2 h⟩
  · rintro ⟨busno, h⟩
    exact ⟨busno, Dsa2.tableAt_eq_some.1 h⟩

theorem Dsa2.le_of_tableAt (h : g.tableAt busno = some t) : busno ≤ i2cBusMax := by
  have hlt := (List.getElem?_eq_some_iff.1 (Dsa2.tableAt_eq_some.1 h)).1
  rw [g.length_eq] at hlt; exact Nat.le_of_lt_succ hlt

theorem Dsa2.tableAt_install {t : Option ResultsTable} (h : (g.install b t).tableAt busno = some new) :
    busno = b ∧ t = some new ∨ g.tableAt busno = some new := by
  rw [Dsa2.tableAt_eq_some] at h
  rw [Dsa2.install, List.getElem?_set] at h
  by_cases hb : b = busno
  · left
    rw [if_pos hb] at h
    split at h
    · exact ⟨hb.symm, Option.some.inj h⟩
    · cases h
  · right
    rw [if_neg hb] at h; exact Dsa2.tableAt_eq_some.2 h

theorem Dsa2.tableOf_eq (h : g.tableOf busno = .ok t) : g.tableAt busno = some t := by
  obtain ⟨found, hfound, h⟩ := bind_eq_ok.1 h
  cases found with
  | none => cases h
  | some t' =>
    cases h; exact Dsa2.tableAt_eq_some.2 (fetch_eq_ok.1 hfound)

/-! ## The calls on one table -/

structure SameOrigin (old new : ResultsTable) : Prop where
  busno : new.busno = old.busno
  state : new.state = old.state

theorem adjustStep_frame (rtable : ResultsTable) (actualLookback mostRecentStep : Int) (tooMany tooFew : Bool) :
    SameOrigin rtable
        (dsa2AdjustForRcntSuccesses.adjustStep rtable actualLookback mostRecentStep tooMany tooFew).1 ∧
      (dsa2AdjustForRcntSuccesses.adjustStep rtable actualLookback mostRecentStep tooMany tooFew).1.recentValues =
        rtable.recentValues := by
  unfold dsa2AdjustForRcntSuccesses.adjustStep
  split
  · split
    · exact ⟨⟨rfl, rfl⟩, rfl⟩
    · exact ⟨⟨rfl, rfl⟩, rfl⟩
  · split
    · split
      · exact ⟨⟨rfl, rfl⟩, rfl⟩
      · exact ⟨⟨rfl, rfl⟩, rfl⟩
    · exact ⟨⟨rfl, rfl⟩, rfl⟩

theorem dsa2AdjustForRcntSuccesses_frame {r : ResultsTable × Int}
    (h : dsa2AdjustForRcntSuccesses settings rtable = .ok r) :
    SameOrigin rtable r.1 ∧ r.1.recentValues = rtable.recentValues := by
  obtain ⟨-, -, h⟩ := bind_eq_ok.1 h
  obtain ⟨_, -, h⟩ := bind_eq_ok.1 h
  obtain ⟨-, -, h⟩ := bind_eq_ok.1 h
  obtain ⟨average, -, h⟩ := bind_eq_ok.1 h
  obtain ⟨_, -, h⟩ := bind_eq_ok.1 h
  obtain ⟨_, -, h⟩ := bind_eq_ok.1 h
  obtain ⟨-, -, h⟩ := bind_eq_ok.1 h
  cases h
  have hframe := adjustStep_frame { rtable with latestAvgTryct10 := average }
  exact ⟨⟨(hframe _ _ _ _).1.busno, (hframe _ _ _ _).1.state⟩, (hframe _ _ _ _).2⟩

theorem recordSuccess_frame {r : ResultsTable × Int} (h : recordSuccess settings rtable tries now = .ok r) :
    SameOrigin rtable r.1 ∧
      r.1.recentValues = cirbAdd rtable.recentValues ⟨now, tries, rtable.curRetryLoopStep⟩ ∧
      (r.1.remainingInterval = rtable.remainingInterval ∨ r.1.remainingInterval = defaultInterval ∨
        r.1.remainingInterval = rtable.remainingInterval - 1 ∧ r.1.remainingInterval ≠ 0) := by
  have hadjust : ∀ t : ResultsTable, SameOrigin rtable t →
      t.recentValues = cirbAdd rtable.recentValues ⟨now, tries, rtable.curRetryLoopStep⟩ →
      (fun r : ResultsTable × Int => ({ r.1 with remainingInterval := defaultInterval }, r.2)) <$>
        dsa2AdjustForRcntSuccesses settings t = .ok r →
      SameOrigin rtable r.1 ∧
        r.1.recentValues = cirbAdd rtable.recentValues ⟨now, tries, rtable.curRetryLoopStep⟩ ∧
        (r.1.remainingInterval = rtable.remainingInterval ∨ r.1.remainingInterval = defaultInterval ∨
          r.1.remainingInterval = rtable.remainingInterval - 1 ∧ r.1.remainingInterval ≠ 0) := by
    intro t hsame hrecent hmap
    obtain ⟨q, ha, rfl⟩ := map_eq_ok.1 hmap
    obtain ⟨hs, hr⟩ := dsa2AdjustForRcntSuccesses_frame ha
    exact ⟨⟨hs.busno.trans hsame.busno, hs.state.trans hsame.state⟩, hr.trans hrecent, .inr (.inl rfl)⟩
  unfold recordSuccess at h
  dsimp only at h
  split at h
  · cases h; exact ⟨⟨rfl, rfl⟩, rfl, .inl rfl⟩
  · split at h
    · cases h; exact ⟨⟨rfl, rfl⟩, rfl, .inl rfl⟩
    · split at h
      · split at h
        · exact hadjust _ ⟨by rfl, by rfl⟩ (by rfl) h
        · rename_i hne
          cases h; exact ⟨⟨rfl, rfl⟩, rfl, .inr (.inr ⟨rfl, hne⟩)⟩
      · exact hadjust _ ⟨by rfl, by rfl⟩ (by rfl) h

theorem recordFailure_frame (rtable : ResultsTable) (ddcrc : Status) :
    SameOrigin rtable (recordFailure rtable ddcrc).1 ∧
      (recordFailure rtable ddcrc).1.recentValues = rtable.recentValues ∧
      (recordFailure rtable ddcrc).1.remainingInterval = defaultInterval := by
  unfold recordFailure
  split
  · exact ⟨⟨rfl, rfl⟩, rfl, rfl⟩
  · exact ⟨⟨rfl, rfl⟩, rfl, rfl⟩

theorem settleStep_atStep (settings : Dsa2Settings) (rtable : ResultsTable) (next : Int) :
    AtStep (settleStep settings rtable next) := by
  obtain ⟨hge, hle, heq, -⟩ := settleStep_closed settings rtable next
  exact ⟨le_trans settings.floorNonneg hge, hle, heq⟩

theorem dsa2RecordFinal_change {dsa2Enabled : Bool} {nullAdjustment : Bool}
    (h : dsa2RecordFinal settings dsa2Enabled rtable ddcrc tries nullAdjustment now = .ok new) :
    TableChange (.recordFinal busno ddcrc tries nullAdjustment now) busno (some rtable) new := by
  cases dsa2Enabled with
  | false =>
    cases h; exact .unchanged rfl
  | true =>
    obtain ⟨_, hretry, h⟩ := bind_eq_ok.1 h
    obtain ⟨-, -, h⟩ := bind_eq_ok.1 h
    rw [check_eq_ok] at hretry
    by_cases hok : ddcrc = 0
    · rw [if_pos hok] at h
      obtain ⟨r, hrecorded, h⟩ := bind_eq_ok.1 h
      cases h
      obtain ⟨hsame, hrecent, hinterval⟩ := recordSuccess_frame hrecorded
      exact .recorded rfl rfl hsame.busno hinterval (.inr hrecent) hretry (settleStep_atStep settings _ _)
    · rw [if_neg hok] at h
      cases h
      obtain ⟨hsame, hrecent, hinterval⟩ := recordFailure_frame _ ddcrc
      exact .recorded rfl rfl hsame.busno (.inr (.inl hinterval)) (.inl hrecent) hretry
        (settleStep_atStep settings _ _)

theorem dsa2RecordFinal_state {dsa2Enabled : Bool} {nullAdjustment : Bool}
    (h : dsa2RecordFinal settings dsa2Enabled rtable ddcrc tries nullAdjustment now = .ok new) :
    new.state = rtable.state := by
  cases dsa2Enabled with
  | false =>
    cases h; rfl
  | true =>
    obtain ⟨_, -, h⟩ := bind_eq_ok.1 h
    obtain ⟨-, -, h⟩ := bind_eq_ok.1 h
    by_cases hok : ddcrc = 0
    · rw [if_pos hok] at h
      obtain ⟨r, hrecorded, h⟩ := bind_eq_ok.1 h
      cases h; exact (recordSuccess_frame hrecorded).1.state
    · rw [if_neg hok] at h
      cases h; exact (recordFailure_frame _ ddcrc).1.state

theorem dsa2NoteRetryableFailure_state {remainingTries : Int}
    (h : dsa2NoteRetryableFailure rtable ddcrc remainingTries = .ok new) : new.state = rtable.state := by
  obtain ⟨_, -, h⟩ := bind_eq_ok.1 h
  cases h; rfl

theorem dsa2NoteRetryableFailure_change {remainingTries : Int}
    (h : dsa2NoteRetryableFailure rtable ddcrc remainingTries = .ok new) :
    TableChange call busno (some rtable) new := by
  obtain ⟨n, hn, h⟩ := bind_eq_ok.1 h
  cases h
  refine .noted rfl ⟨rfl, rfl, rfl⟩ rfl fun hle => ?_
  obtain ⟨m, hm, hbounds⟩ := dsa2NextRetryStep_ok hle remainingTries
  rw [hm] at hn
  cases hn; exact hbounds

theorem verifyCached_change {found : Option ResultsTable} (h : verifyCached found busInfo = .ok (some new)) :
    TableChange call busno found new := by
  cases found with
  | none => cases h
  | some t =>
    have hflags : ∀ state : Byte, TableChange call busno (some t) { t with state := state } := fun state =>
      .kept rfl ⟨rfl, rfl, rfl⟩ rfl rfl
    unfold verifyCached at h
    dsimp only at h
    split at h
    · obtain ⟨checkbyte, -, h⟩ := bind_eq_ok.1 h
      split at h
      · cases h
      · cases h; exact hflags _
    · cases h; exact hflags _

theorem dsa2GetResultsTableByBusno_change {create : Bool} (h0 : 0 ≤ g.initialStep) (hle : g.initialStep ≤ stepLast)
    (h : dsa2GetResultsTableByBusno g b create busInfo = .ok g') (hnew : g'.tableAt busno = some new) :
    TableChange call busno (g.tableAt busno) new := by
  obtain ⟨-, -, h⟩ := bind_eq_ok.1 h
  obtain ⟨found, hfound, h⟩ := bind_eq_ok.1 h
  obtain ⟨verified, hverified, h⟩ := bind_eq_ok.1 h
  obtain ⟨t, ht, h⟩ := bind_eq_ok.1 h
  cases h
  rcases Dsa2.tableAt_install hnew with ⟨rfl, rfl⟩ | hold
  · have hat : g.tableAt busno = found := by rw [Dsa2.tableAt, fetch_eq_ok.1 hfound]; rfl
    rw [hat]
    cases verified with
    | some v =>
      cases ht; exact verifyCached_change hverified
    | none =>
      cases create with
      | false => cases ht
      | true =>
        simp only [createMissing, if_true, bind_eq_ok] at ht
        obtain ⟨checkbyte, -, ht⟩ := ht
        cases ht; exact .made rfl rfl rfl ⟨h0, hle, rfl⟩
  · exact .unchanged hold

theorem dsa2ResetResultsTable_change {sleepMultiplier : ℚ}
    (h : dsa2ResetResultsTable settings g b sleepMultiplier busInfo = .ok g') (hnew : g'.tableAt busno = some new) :
    TableChange call busno (g.tableAt busno) new := by
  obtain ⟨-, -, h⟩ := bind_eq_ok.1 h
  obtain ⟨n, hn, h⟩ := bind_eq_ok.1 h
  obtain ⟨checkbyte, -, h⟩ := bind_eq_ok.1 h
  cases h
  obtain ⟨m, hm, h0, hle⟩ := dsa2MultiplierToStep_ok settings (if 0 ≤ sleepMultiplier then sleepMultiplier else 1)
  rw [hm] at hn
  cases hn
  rcases Dsa2.tableAt_install hnew with ⟨rfl, ht⟩ | hold
  · cases ht; exact .made rfl rfl rfl ⟨h0, hle, rfl⟩
  · exact .unchanged hold

theorem dsa2ResetMultiplier_change {multiplier : ℚ} (h : dsa2ResetMultiplier settings g multiplier = .ok g')
    (hnew : g'.tableAt busno = some new) : TableChange call busno (g.tableAt busno) new := by
  obtain ⟨n, hn, h⟩ := bind_eq_ok.1 h
  cases h
  obtain ⟨m, hm, h0, hle⟩ := dsa2MultiplierToStep_ok settings multiplier
  rw [hm] at hn
  cases hn
  rw [Dsa2.tableAt_eq_some, List.getElem?_mapIdx] at hnew
  obtain ⟨old, hold, heq⟩ := Option.map_eq_some_iff.1 hnew
  have hat : g.tableAt busno = old := by rw [Dsa2.tableAt, hold]; rfl
  rw [hat]
  split at heq
  · obtain ⟨t, rfl, rfl⟩ := Option.map_eq_some_iff.1 heq
    exact .reset rfl ⟨rfl, rfl, rfl⟩ ⟨h0, hle, rfl⟩
  · exact .unchanged heq

theorem dsa2Step_change (h0 : 0 ≤ g.initialStep) (hle : g.initialStep ≤ stepLast)
    (h : dsa2Step settings g call = .ok g') (hnew : g'.tableAt busno = some new) :
    TableChange call busno (g.tableAt busno) new := by
  cases call with
  | enable yesno =>
    cases h; exact .unchanged hnew
  | resetResultsTable b m busInfo => exact dsa2ResetResultsTable_change h hnew
  | getResultsTableByBusno b create busInfo => exact dsa2GetResultsTableByBusno_change h0 hle h hnew
  | resetMultiplier m => exact dsa2ResetMultiplier_change h hnew
  | noteRetryableFailure b ddcrc remainingTries =>
    obtain ⟨t, ht, h⟩ := bind_eq_ok.1 h
    obtain ⟨t', hnote, h⟩ := bind_eq_ok.1 h
    cases h
    rcases Dsa2.tableAt_install hnew with ⟨rfl, heq⟩ | hold
    · cases heq
      rw [Dsa2.tableOf_eq ht]; exact dsa2NoteRetryableFailure_change hnote
    · exact .unchanged hold
  | recordFinal b ddcrc tries nullAdjustment now =>
    obtain ⟨t, ht, h⟩ := bind_eq_ok.1 h
    obtain ⟨t', hrecord, h⟩ := bind_eq_ok.1 h
    cases h
    rcases Dsa2.tableAt_install hnew with ⟨rfl, heq⟩ | hold
    · cases heq
      rw [Dsa2.tableOf_eq ht]; exact dsa2RecordFinal_change hrecord
    · exact .unchanged hold

theorem dsa2Step_initialStep (h : dsa2Step settings g call = .ok g') (h0 : 0 ≤ g.initialStep)
    (hle : g.initialStep ≤ stepLast) : 0 ≤ g'.initialStep ∧ g'.initialStep ≤ stepLast := by
  cases call with
  | enable yesno =>
    cases h; exact ⟨h0, hle⟩
  | resetResultsTable b m busInfo =>
    obtain ⟨_, -, h⟩ := bind_eq_ok.1 h
    obtain ⟨_, -, h⟩ := bind_eq_ok.1 h
    obtain ⟨_, -, h⟩ := bind_eq_ok.1 h
    cases h; exact ⟨h0, hle⟩
  | getResultsTableByBusno b create busInfo =>
    obtain ⟨_, -, h⟩ := bind_eq_ok.1 h
    obtain ⟨_, -, h⟩ := bind_eq_ok.1 h
    obtain ⟨_, -, h⟩ := bind_eq_ok.1 h
    obtain ⟨_, -, h⟩ := bind_eq_ok.1 h
    cases h; exact ⟨h0, hle⟩
  | resetMultiplier m =>
    obtain ⟨n, hn, h⟩ := bind_eq_ok.1 h
    cases h
    obtain ⟨n', hn', h0', hle'⟩ := dsa2MultiplierToStep_ok settings m
    rw [hn'] at hn
    cases hn; exact ⟨h0', hle'⟩
  | noteRetryableFailure b ddcrc remainingTries =>
    obtain ⟨_, -, h⟩ := bind_eq_ok.1 h
    obtain ⟨_, -, h⟩ := bind_eq_ok.1 h
    cases h; exact ⟨h0, hle⟩
  | recordFinal b ddcrc tries nullAdjustment now =>
    obtain ⟨_, -, h⟩ := bind_eq_ok.1 h
    obtain ⟨_, -, h⟩ := bind_eq_ok.1 h
    cases h; exact ⟨h0, hle⟩

end Ddc
