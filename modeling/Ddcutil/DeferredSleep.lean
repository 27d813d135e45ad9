import Ddcutil.Dsa2
import Ddcutil.Kit.Runs
/-!
# DeferredSleep — a display is not contacted too early

`tuned_sleep.c`: after an operation on a display the code sleeps, or notes in `next_i2c_io_after` when the next one
may start; `check_deferred_sleep` then sleeps for what is left.  Clock readings are nanoseconds in 64 bits, sleep
times milliseconds in an `int`.
-/
namespace Ddc

open Kit

namespace Deferred

inductive SleepEventType where
  | writeToRead | postWrite | postRead | postSaveSettings | preMultiPartRead | postCapTableSegment | special
  deriving DecidableEq

structure SleepSettings where
  deferredSleepEnabled : Bool
  suppressSePostRead : Bool
  nullMsgAdjustmentEnabled : Bool

def ddcTimeoutMillisDefault : Int := 50
def ddcTimeoutMillisPostSaveSettings : Int := 200
def ddcTimeoutMillisBetweenCapTableFragments : Int := 50

/-- `get_sleep_time`: the nominal time in milliseconds, and whether the sleep can be deferred. -/
def getSleepTime (settings : SleepSettings) (eventType : SleepEventType) (specialSleepTimeMillis : Int) : Int × Bool :=
  match eventType with
  | .writeToRead | .postWrite => (ddcTimeoutMillisDefault, settings.deferredSleepEnabled)
  | .postRead => (if settings.suppressSePostRead then 0 else ddcTimeoutMillisDefault, settings.deferredSleepEnabled)
  | .postSaveSettings => (ddcTimeoutMillisPostSaveSettings, settings.deferredSleepEnabled)
  | .preMultiPartRead => (200, false)
  | .postCapTableSegment => (ddcTimeoutMillisBetweenCapTableFragments, false)
  | .special => (specialSleepTimeMillis, false)

def effectiveMultiplier (eventType : SleepEventType) (dsaMultiplier : ℚ) : ℚ :=
  if (eventType = .postWrite ∨ eventType = .postSaveSettings) ∧ dsaMultiplier < 1 then 1 else dsaMultiplier

def nullAdjustmentMillis (curLoopNullMsgCt : Int) : Int :=
  if curLoopNullMsgCt = 1 then 25 else if curLoopNullMsgCt = 2 then 100 else 200

/-- `adjust_sleep_time`: the time to sleep, and whether time was added for null messages. -/
def adjustSleepTime (settings : SleepSettings) (dsaMultiplier : ℚ) (curLoopNullMsgCt : Int) (eventType : SleepEventType)
    (specSleepTimeMillis : Int) : Int × Bool :=
  if 0 < curLoopNullMsgCt ∧ settings.nullMsgAdjustmentEnabled = true then
    (int32 (int32 (truncate (round64 (specSleepTimeMillis * effectiveMultiplier eventType dsaMultiplier))) +
      nullAdjustmentMillis curLoopNullMsgCt), true)
  else (int32 (truncate (round64 (specSleepTimeMillis * effectiveMultiplier eventType dsaMultiplier))), false)

/-! ## Sleeps and operations -/

/-- **A call of `tuned_sleep_with_trace`**, with a multiplier that the options admit. -/
structure SleepCall where
  settings : SleepSettings
  eventType : SleepEventType
  specialSleepTimeMillis : Int
  asserted : eventType ≠ .special ∧ specialSleepTimeMillis = 0 ∨ eventType = .special ∧ 0 < specialSleepTimeMillis
  dsaMultiplier : ℚ
  admitted : 0 ≤ dsaMultiplier ∧ dsaMultiplier < 100
  curLoopNullMsgCt : Int

def SleepCall.spec (call : SleepCall) : Int × Bool :=
  getSleepTime call.settings call.eventType call.specialSleepTimeMillis

def SleepCall.adjusted (call : SleepCall) : Int × Bool :=
  adjustSleepTime call.settings call.dsaMultiplier call.curLoopNullMsgCt call.eventType call.spec.1

structure SleepState where
  clock : Nat
  nextI2cIoAfter : UInt64
  curLoopNullAdjustmentOccurred : Bool
  deriving DecidableEq

def millisToNanos (millis : Int) : Int := int32 (1000 * 1000 * millis)

/-- `tuned_sleep_with_trace`; `now` is the reading of `cur_realtime_nanosec`, or of the clock when the sleep starts. -/
def tunedSleepWithTrace (s : SleepState) (call : SleepCall) (now : UInt64) (extra : Nat) : Exec SleepState := do
  check (call.eventType ≠ .special ∧ call.specialSleepTimeMillis = 0 ∨
    call.eventType = .special ∧ 0 < call.specialSleepTimeMillis)
  if call.spec.2 then
    .ok {
      clock := now.toNat
      nextI2cIoAfter :=
        if s.nextI2cIoAfter < now + UInt64.ofInt (millisToNanos call.adjusted.1) then
          now + UInt64.ofInt (millisToNanos call.adjusted.1)
        else s.nextI2cIoAfter
      curLoopNullAdjustmentOccurred := s.curLoopNullAdjustmentOccurred || call.adjusted.2 }
  else
    .ok {
      clock := now.toNat + call.adjusted.1.toNat * 1000000 + extra
      nextI2cIoAfter := s.nextI2cIoAfter
      curLoopNullAdjustmentOccurred := s.curLoopNullAdjustmentOccurred || call.adjusted.2 }

def checkDeferredSleep (s : SleepState) (curtime : UInt64) : Int :=
  if curtime < s.nextI2cIoAfter then int32 ((s.nextI2cIoAfter - curtime) / (1000 * 1000)).toNat else 0

/-- **What happens to a display.**  An operation starts `extra` nanoseconds after the sleep before it could have
ended. -/
inductive DisplayEvent where
  | sleep (call : SleepCall) (now : UInt64) (extra : Nat)
  | io (checked : Bool) (now : UInt64) (extra : Nat)

def DisplayEvent.now : DisplayEvent → UInt64
  | .sleep _ now _ => now
  | .io _ now _ => now

def sleepStep (s : SleepState) : DisplayEvent → Exec SleepState
  | .sleep call now extra => tunedSleepWithTrace s call now extra
  | .io true now extra =>
    .ok { s with clock := now.toNat + (checkDeferredSleep s now).toNat * 1000000 + extra }
  | .io false now extra => .ok { s with clock := now.toNat + extra }

def newDisplay : SleepState := ⟨0, 0, false⟩

def NotBack (s : SleepState) (e : DisplayEvent) : Prop := s.clock ≤ e.now.toNat

/-- **What is claimed of an event**: the time noted does not decrease, lies late enough after a sleep that was deferred,
and has come when an operation starts that was checked. -/
def EventRight (s : SleepState) (e : DisplayEvent) : Prop :=
  ∃ t, sleepStep s e = .ok t ∧ s.nextI2cIoAfter ≤ t.nextI2cIoAfter ∧
    match e with
    | .sleep call now _ => call.spec.2 = true →
      millisToNanos call.adjusted.1 = 1000 * 1000 * call.adjusted.1 ∧
        now.toNat + 1000 * 1000 * call.adjusted.1 ≤ t.nextI2cIoAfter.toNat
    | .io checked _ _ => checked = true → t.nextI2cIoAfter.toNat ≤ t.clock

def SleepCall.wanted (call : SleepCall) : ℚ :=
  round64 (call.spec.1 * effectiveMultiplier call.eventType call.dsaMultiplier) +
    if 0 < call.curLoopNullMsgCt ∧ call.settings.nullMsgAdjustmentEnabled = true then
      (nullAdjustmentMillis call.curLoopNullMsgCt : ℚ)
    else 0

/-- **The condition**: a sleep that can be deferred is for less than 2148 milliseconds and ends where the clock still
counts; and a sleep before an operation lasts longer than asked by what is left over after whole milliseconds. -/
def InTime (s : SleepState) : DisplayEvent → Prop
  | .sleep call now _ => call.spec.2 = true →
    call.wanted < 2148 ∧ now.toNat + 1000 * 1000 * ⌊call.wanted⌋ < 2 ^ 64
  | .io checked now extra => checked = true → (s.nextI2cIoAfter.toNat - now.toNat) % 1000000 ≤ extra

/-! ## What a call asks for -/

theorem int32_of_range {n : Int} (hlow : -2147483648 ≤ n) (hhigh : n ≤ 2147483647) : int32 n = n :=
  Int.bmod_eq_of_le (by omega) (by omega)

theorem int32_le (n : Int) : int32 n ≤ 2147483647 := by
  have hlt : n.bmod (2 ^ 32) < (2 ^ 32 + 1) / 2 := Int.bmod_lt (by decide)
  have himax : int32 n < (2 ^ 32 + 1) / 2 := hlt
  omega

theorem deferrable_spec {call : SleepCall} (h : call.spec.2 = true) : 0 ≤ call.spec.1 ∧ call.spec.1 ≤ 200 := by
  have hdefault : (0 : Int) ≤ ddcTimeoutMillisDefault ∧ ddcTimeoutMillisDefault ≤ 200 := by decide
  have hsave : (0 : Int) ≤ ddcTimeoutMillisPostSaveSettings ∧ ddcTimeoutMillisPostSaveSettings ≤ 200 := by decide
  unfold SleepCall.spec at h ⊢
  generalize call.eventType = eventType at h ⊢
  cases eventType with
  | writeToRead | postWrite => exact hdefault
  | postRead =>
    unfold getSleepTime
    cases call.settings.suppressSePostRead with
    | false => exact hdefault
    | true => exact ⟨le_refl _, by norm_num⟩
  | postSaveSettings => exact hsave
  | preMultiPartRead | postCapTableSegment | special => cases h

theorem effectiveMultiplier_range {eventType : SleepEventType} {dsaMultiplier : ℚ}
    (h : 0 ≤ dsaMultiplier ∧ dsaMultiplier < 100) :
    0 ≤ effectiveMultiplier eventType dsaMultiplier ∧ effectiveMultiplier eventType dsaMultiplier < 100 := by
  unfold effectiveMultiplier
  split
  · exact ⟨zero_le_one, by norm_num⟩
  · exact h

theorem nullAdjustmentMillis_range (curLoopNullMsgCt : Int) :
    0 ≤ nullAdjustmentMillis curLoopNullMsgCt ∧ nullAdjustmentMillis curLoopNullMsgCt ≤ 200 := by
  unfold nullAdjustmentMillis
  split
  · decide
  · split <;> decide

theorem adjusted_eq_floor {call : SleepCall} (h : call.spec.2 = true) :
    call.adjusted.1 = ⌊call.wanted⌋ ∧ 0 ≤ ⌊call.wanted⌋ ∧ ⌊call.wanted⌋ ≤ 40201 := by
  obtain ⟨hspec0, hspec⟩ := deferrable_spec h
  obtain ⟨hmult0, hmult⟩ := @effectiveMultiplier_range call.eventType _ call.admitted
  obtain ⟨hnull0, hnull⟩ := nullAdjustmentMillis_range call.curLoopNullMsgCt
  have hspec0' : (0 : ℚ) ≤ call.spec.1 := by exact_mod_cast hspec0
  have hspec' : (call.spec.1 : ℚ) ≤ 200 := by exact_mod_cast hspec
  unfold SleepCall.adjusted adjustSleepTime SleepCall.wanted
  generalize effectiveMultiplier call.eventType call.dsaMultiplier = m at hmult0 hmult ⊢
  have hprod0 : 0 ≤ (call.spec.1 : ℚ) * m := mul_nonneg hspec0' hmult0
  have hprod : (call.spec.1 : ℚ) * m ≤ 200 * 100 := mul_le_mul hspec' hmult.le hmult0 (by norm_num)
  have hround0 : 0 ≤ round64 (call.spec.1 * m) := round64_nonneg hprod0
  have hround : round64 (call.spec.1 * m) ≤ 40001 := by linarith [round64_le hprod0]
  have hfloor0 : 0 ≤ ⌊round64 (call.spec.1 * m)⌋ := Int.floor_nonneg.mpr hround0
  have hfloor : ⌊round64 (call.spec.1 * m)⌋ ≤ 40001 := by
    have hle : ((⌊round64 (call.spec.1 * m)⌋ : ℤ) : ℚ) ≤ 40001 := le_trans (Int.floor_le _) hround
    exact_mod_cast hle
  have hint : int32 ⌊round64 (call.spec.1 * m)⌋ = ⌊round64 (call.spec.1 * m)⌋ :=
    int32_of_range (by omega) (by omega)
  rw [truncate_of_nonneg hround0, hint]
  by_cases hadd : 0 < call.curLoopNullMsgCt ∧ call.settings.nullMsgAdjustmentEnabled = true
  · rw [if_pos hadd, if_pos hadd, Int.floor_add_intCast]
    exact ⟨int32_of_range (by omega) (by omega), by omega, by omega⟩
  · rw [if_neg hadd, if_neg hadd, add_zero]; exact ⟨rfl, hfloor0, by omega⟩

theorem millisToNanos_exact_iff {millis : Int} (h : 0 ≤ millis) :
    millisToNanos millis = 1000 * 1000 * millis ↔ millis < 2148 := by
  unfold millisToNanos
  constructor
  · have hle := int32_le (1000 * 1000 * millis)
    omega
  · intro hlt; exact int32_of_range (by omega) (by omega)

/-! ## One event -/

theorem ofInt_toNat {n : Int} (h0 : 0 ≤ n) (hn : n < 2 ^ 64) : (UInt64.ofInt n).toNat = n.toNat := by
  have hlt : n.toNat < 2 ^ 64 := by omega
  rw [UInt64.ofInt, Int.emod_eq_of_lt h0 hn]; exact UInt64.toNat_ofNat_of_lt' hlt

/-- The time noted is no further ahead than the longest sleep that an `int` of nanoseconds holds. -/
def Near (s : SleepState) : Prop := s.nextI2cIoAfter.toNat ≤ s.clock + 2147483647

theorem near_newDisplay : Near newDisplay := Nat.zero_le _

theorem checkDeferredSleep_eq {s : SleepState} {now : UInt64} (hnear : Near s) (hnow : s.clock ≤ now.toNat) :
    checkDeferredSleep s now = ((s.nextI2cIoAfter.toNat - now.toNat) / 1000000 : Nat) := by
  unfold Near at hnear
  unfold checkDeferredSleep
  split
  · rename_i hlt
    have hsub : (s.nextI2cIoAfter - now).toNat = s.nextI2cIoAfter.toNat - now.toNat :=
      UInt64.toNat_sub_of_le _ _ (UInt64.le_of_lt hlt)
    have hquot : ((s.nextI2cIoAfter - now) / (1000 * 1000)).toNat =
        (s.nextI2cIoAfter.toNat - now.toNat) / 1000000 := by rw [UInt64.toNat_div, hsub]; rfl
    rw [hquot]; exact int32_of_range (by omega) (by omega)
  · rename_i hlt
    have hle : s.nextI2cIoAfter.toNat ≤ now.toNat := Nat.le_of_not_lt hlt
    rw [Nat.sub_eq_zero_of_le hle]; rfl

/-- **An operation that was checked starts in time** exactly if the sleep makes up for the fraction of a millisecond that
was not slept. -/
theorem io_inTime_iff {s : SleepState} {now : UInt64} {extra : Nat} (hnear : Near s) (hnow : s.clock ≤ now.toNat) :
    s.nextI2cIoAfter.toNat ≤ now.toNat + (checkDeferredSleep s now).toNat * 1000000 + extra ↔
      (s.nextI2cIoAfter.toNat - now.toNat) % 1000000 ≤ extra := by
  rw [checkDeferredSleep_eq hnear hnow, Int.toNat_natCast]; omega

theorem tunedSleepWithTrace_deferred (s : SleepState) {call : SleepCall} (now : UInt64) (extra : Nat)
    (h : call.spec.2 = true) : ∃ t, tunedSleepWithTrace s call now extra = .ok t ∧ t.clock = now.toNat ∧
      t.nextI2cIoAfter.toNat =
        max s.nextI2cIoAfter.toNat (now + UInt64.ofInt (millisToNanos call.adjusted.1)).toNat := by
  rw [tunedSleepWithTrace, check_pos call.asserted, Exec.ok_bind, if_pos h]
  refine ⟨_, rfl, rfl, ?_⟩
  split
  · rename_i hlt; exact (Nat.max_eq_right (Nat.le_of_lt hlt)).symm
  · rename_i hlt; exact (Nat.max_eq_left (Nat.le_of_not_lt hlt)).symm

theorem tunedSleepWithTrace_immediate (s : SleepState) {call : SleepCall} (now : UInt64) (extra : Nat)
    (h : ¬ call.spec.2 = true) : ∃ t, tunedSleepWithTrace s call now extra = .ok t ∧ now.toNat ≤ t.clock ∧
      t.nextI2cIoAfter = s.nextI2cIoAfter := by
  rw [tunedSleepWithTrace, check_pos call.asserted, Exec.ok_bind, if_neg h]; exact ⟨_, rfl, by dsimp only; omega, rfl⟩

/-- **A deferred sleep is noted late enough** exactly if it is short and the clock still counts at its end. -/
theorem deferred_inTime_iff {s : SleepState} {call : SleepCall} (now : UInt64) (extra : Nat) (h : call.spec.2 = true) :
    EventRight s (.sleep call now extra) ↔ InTime s (.sleep call now extra) := by
  obtain ⟨hadjusted, hfloor0, hfloor⟩ := adjusted_eq_floor h
  obtain ⟨t, ht, -, hnext⟩ := tunedSleepWithTrace_deferred s now extra h
  have hwanted : call.wanted < 2148 ↔ ⌊call.wanted⌋ < 2148 := by
    rw [Int.floor_lt]
    norm_num
  have hstep : EventRight s (.sleep call now extra) ↔ s.nextI2cIoAfter ≤ t.nextI2cIoAfter ∧
      (call.spec.2 = true → millisToNanos call.adjusted.1 = 1000 * 1000 * call.adjusted.1 ∧
        now.toNat + 1000 * 1000 * call.adjusted.1 ≤ t.nextI2cIoAfter.toNat) := by
    constructor
    · rintro ⟨u, hu, hright⟩
      have heq : u = t := Except.ok.inj (hu.symm.trans ht)
      rw [heq] at hright; exact hright
    · exact fun hright => ⟨t, ht, hright⟩
  have hmono : s.nextI2cIoAfter ≤ t.nextI2cIoAfter := UInt64.le_iff_toNat_le.2 (hnext ▸ Nat.le_max_left _ _)
  rw [hstep]
  simp only [InTime, h, forall_true_left, hmono, true_and]
  rw [hwanted, hadjusted, millisToNanos_exact_iff hfloor0]
  refine and_congr_right fun hlt => ?_
  have hnanos : millisToNanos ⌊call.wanted⌋ = 1000 * 1000 * ⌊call.wanted⌋ := (millisToNanos_exact_iff hfloor0).2 hlt
  have hofInt : (UInt64.ofInt (millisToNanos ⌊call.wanted⌋)).toNat = (1000 * 1000 * ⌊call.wanted⌋).toNat := by
    rw [hnanos]; exact ofInt_toNat (by omega) (by omega)
  rw [hadjusted, UInt64.toNat_add, hofInt] at hnext
  have hbound := t.nextI2cIoAfter.toNat_lt
  omega

theorem eventRight_iff {s : SleepState} {e : DisplayEvent} (hnear : Near s) (hnow : NotBack s e) :
    EventRight s e ↔ InTime s e := by
  cases e with
  | sleep call now extra =>
    by_cases hdefer : call.spec.2 = true
    · exact deferred_inTime_iff now extra hdefer
    · obtain ⟨t, ht, -, hnext⟩ := tunedSleepWithTrace_immediate s now extra hdefer
      exact ⟨fun _ h => absurd h hdefer, fun _ => ⟨t, ht, UInt64.le_of_eq hnext.symm, fun h => absurd h hdefer⟩⟩
  | io checked now extra =>
    cases checked with
    | false =>
      exact ⟨fun _ h => (by cases h), fun _ => ⟨_, rfl, UInt64.le_refl _, fun h => by cases h⟩⟩
    | true =>
      constructor
      · rintro ⟨t, ht, -, hstart⟩ -
        cases ht; exact (io_inTime_iff hnear hnow).1 (hstart rfl)
      · intro hin; exact ⟨_, rfl, UInt64.le_refl _, fun _ => (io_inTime_iff hnear hnow).2 (hin rfl)⟩

theorem near_of_inTime {s t : SleepState} {e : DisplayEvent} (hnear : Near s) (hnow : NotBack s e) (hin : InTime s e)
    (ht : sleepStep s e = .ok t) : Near t := by
  unfold Near at hnear ⊢
  cases e with
  | sleep call now extra =>
    have hnow' : s.clock ≤ now.toNat := hnow
    by_cases hdefer : call.spec.2 = true
    · obtain ⟨u, hu, hclock, hnext⟩ := tunedSleepWithTrace_deferred s now extra hdefer
      have heq : t = u := Except.ok.inj (ht.symm.trans hu)
      obtain ⟨hadjusted, hfloor0, -⟩ := adjusted_eq_floor hdefer
      obtain ⟨hlt, -⟩ := hin hdefer
      have hfloor : ⌊call.wanted⌋ < 2148 := Int.floor_lt.2 (by exact_mod_cast hlt)
      have hnanos : millisToNanos ⌊call.wanted⌋ = 1000 * 1000 * ⌊call.wanted⌋ :=
        (millisToNanos_exact_iff hfloor0).2 hfloor
      rw [hadjusted, hnanos, UInt64.toNat_add, ofInt_toNat (by omega) (by omega)] at hnext
      have hmod := Nat.mod_le (now.toNat + (1000 * 1000 * ⌊call.wanted⌋).toNat) (2 ^ 64)
      rw [heq, hclock, hnext]; exact Nat.max_le.2 ⟨by omega, by omega⟩
    · obtain ⟨u, hu, hclock, hnext⟩ := tunedSleepWithTrace_immediate s now extra hdefer
      have heq : t = u := Except.ok.inj (ht.symm.trans hu)
      rw [heq, hnext]; omega
  | io checked now extra =>
    have hnow' : s.clock ≤ now.toNat := hnow
    cases checked with
    | false =>
      cases ht
      dsimp only; omega
    | true =>
      cases ht
      dsimp only; omega

/-! ## Runs -/

/-- **In every run with a clock that does not go back, each event is right exactly if each is in time.** -/
theorem deferredSleep_right_iff {events : List DisplayEvent} (hnow : AllAlong sleepStep NotBack newDisplay events) :
    AllAlong sleepStep EventRight newDisplay events ↔ AllAlong sleepStep InTime newDisplay events := by
  have hiff : ∀ s e, Near s → NotBack s e → (EventRight s e ↔ InTime s e) :=
    fun _ _ hnear hnow => eventRight_iff hnear hnow
  have hkeep : ∀ s e t, Near s → NotBack s e → EventRight s e → sleepStep s e = .ok t → Near t :=
    fun s e _ hnear hnow hright ht => near_of_inTime hnear hnow ((hiff s e hnear hnow).1 hright) ht
  exact AllAlong.congr_of hiff hkeep near_newDisplay hnow

def afterRead (dsaMultiplier : ℚ) (admitted : 0 ≤ dsaMultiplier ∧ dsaMultiplier < 100) : SleepCall where
  settings := ⟨true, false, true⟩
  eventType := .postRead
  specialSleepTimeMillis := 0
  asserted := Or.inl ⟨by decide, rfl⟩
  dsaMultiplier := dsaMultiplier
  admitted := admitted
  curLoopNullMsgCt := 0

def readSleep : DisplayEvent := .sleep (afterRead 1 ⟨by norm_num, by norm_num⟩) 1000000000 0

theorem sleepStep_readSleep : sleepStep newDisplay readSleep = .ok ⟨1000000000, 1050000000, false⟩ := by
  decide +kernel

def readTwice (extra : Nat) : List DisplayEvent := [readSleep, .io true 1000500000 extra]

theorem notBack_readTwice (extra : Nat) : AllAlong sleepStep NotBack newDisplay (readTwice extra) := by
  have hsecond : 1000000000 ≤ (1000500000 : UInt64).toNat := by decide +kernel
  exact AllAlong.cons (Nat.zero_le _) sleepStep_readSleep ⟨hsecond, fun _ _ => trivial⟩

def longSleep : DisplayEvent := .sleep (afterRead 50 ⟨by norm_num, by norm_num⟩) 1000000000 0

/-- **The operation starts half a millisecond early** where the sleep is as long as was asked for, and the time of a long
sleep overflows. -/
theorem operation_halfMillisecond_early :
    (AllAlong sleepStep NotBack newDisplay (readTwice 0) ∧
      ¬ AllAlong sleepStep EventRight newDisplay (readTwice 0)) ∧
    AllAlong sleepStep NotBack newDisplay [longSleep] ∧ ¬ AllAlong sleepStep EventRight newDisplay [longSleep] := by
  refine ⟨⟨notBack_readTwice 0, fun h => ?_⟩, ⟨Nat.zero_le _, fun _ _ => trivial⟩, fun h => ?_⟩
  · obtain ⟨t, ht, -, hstart⟩ := (h.2 _ sleepStep_readSleep).1
    cases ht; exact absurd (hstart rfl) (by decide +kernel)
  · obtain ⟨t, -, -, hnoted⟩ := h.1
    have hexact := (hnoted rfl).1
    exact absurd hexact (by decide +kernel)

/-- **It starts in time** where the sleep is half a millisecond longer. -/
theorem operation_halfMillisecond_later : AllAlong sleepStep EventRight newDisplay (readTwice 500000) := by
  have hwanted : (afterRead 1 ⟨by norm_num, by norm_num⟩).wanted < 2148 ∧
      (1000000000 : UInt64).toNat + 1000 * 1000 * ⌊(afterRead 1 ⟨by norm_num, by norm_num⟩).wanted⌋ < 2 ^ 64 := by
    decide +kernel
  have hleft : ((1050000000 : UInt64).toNat - (1000500000 : UInt64).toNat) % 1000000 ≤ 500000 := by decide +kernel
  exact (deferredSleep_right_iff (notBack_readTwice 500000)).2
    (AllAlong.cons (fun _ => hwanted) sleepStep_readSleep ⟨fun _ => hleft, fun _ _ => trivial⟩)

end Deferred

end Ddc
