import Ddcutil.CmdParse
import Ddcutil.CmdStores
/-!
# CmdControls — what an option controls

`Loc.Controls` says, variable by variable, which parts of the parsed command an option is there to set: its field, and
its bits in the words of flags.  What the functions that parse an argument change is no more than that, but for the two
special floating point numbers.
-/
namespace Ddc.Cmd

open Kit

def flagTable : List (Nat × FlagVar) := [
  (0, .ddcFlag),
  (1, .allowUnrecognizedFeatureFlag),
  (2, .forceSlaveFlag),
  (3, .timestampTraceFlag),
  (4, .showUnsupportedFlag),
  (6, .verifyFlag),
  (7, .skipDdcChecksFlag),
  (9, .reportFreedExcpFlag),
  (10, .notableFlag),
  (11, .threadIdTraceFlag),
  (12, .nullMsgForUnsupportedFlag),
  (13, .enableHeuristicUnsupportedFlag),
  (15, .processIdTraceFlag),
  (16, .rwOnlyFlag),
  (17, .roOnlyFlag),
  (18, .woOnlyFlag),
  (20, .enableUdfFlag),
  (21, .enableUsbFlag),
  (28, .tryGetEdidFromSysfs),
  (29, .enableFlockFlag),
  (30, .deferredSleepFlag),
  (32, .x52NoFifoFlag),
  (33, .verboseStats),
  (34, .showSettingsFlag),
  (35, .enableCcFlag),
  (37, .wallTimestampTraceFlag),
  (40, .i2cIoFileioFlag),
  (41, .i2cIoIoctlFlag),
  (45, .enableDsa2Flag),
  (46, .quickFlag),
  (48, .mockDataFlag),
  (49, .profileApiFlag),
  (52, .enableCdFlag),
  (53, .traceToSyslogOnlyFlag),
  (56, .statsToSyslogOnlyFlag),
  (57, .internalStats),
  (60, .enableTfsFlag),
  (61, .tracedFunctionStackErrorsFatalFlag),
  (62, .disableApiFlag),
  (63, .enableWatchDisplays)]

def FlagVar.ControlsFlag (x : FlagVar) (k : Nat) : Prop :=
  (k, x) ∈ flagTable ∨ x = .forceFlag ∧ k = 1 ∨ (x = .verifySetFlag ∨ x = .noverifySetFlag) ∧ k = 6 ∨
    (x = .discardCachedCapabilitiesFlag ∨ x = .discardDsaCacheFlag) ∧ k = 14

/-- **The parts of the parsed command that an option with this variable is there to set.** -/
def Loc.Controls : Loc → Part → Prop
  | .flag x, .flag k => x.ControlsFlag k
  | .flag x, .flag2 k => ∃ n : Fin 32, x = .f n ∧ k = n
  | .flag x, .discardedCache k =>
    x = .discardCachedCapabilitiesFlag ∧ k = 0 ∨ x = .discardDsaCacheFlag ∧ k = 2
  | .int .dispwork, p => p = .dispno
  | .int .buswork, p => p = .busno
  | .int .hidwork, p => p = .hiddev
  | .int .edidReadSizeWork, p => p = .edidReadSize
  | .int .xeventWatchLoopMillisWork, p => p = .xeventWatchLoopMillisec
  | .int .pollWatchLoopMillisWork, p => p = .pollWatchLoopMillisec
  | .str .usbwork, p => p = .usb
  | .str .mfgIdWork, p => p = .mfgId
  | .str .modelwork, p => p = .modelName
  | .str .snwork, p => p = .serialAscii
  | .str .edidwork, p => p = .edid
  | .str .mccswork, p => p = .mccsVspec
  | .str .syslogWork, p => p = .syslogLevel
  | .str .maxtrywork, p => p = .maxTries
  | .str .sleepMultiplierWork, p => p = .sleepMultiplier ∨ p = .flag 44
  | .str .minDynamicSleepWork, p => p = .minDynamicMultiplier
  | .str .i2cSourceAddrWork, p => p = .explicitI2cSourceAddr ∨ p = .flag 58
  | .str .watchModeWork, p => p = .watchMode
  | .str .failsimFnWork, p => p = .failsimControlFn ∨ p = .flag 5
  | .str (.i n), p => p = .i n ∨ p = .flag2 (40 + n)
  | .str .fl1Work, p => p = .fl1 ∨ p = .flag2 60
  | .str .fl2Work, p => p = .fl2 ∨ p = .flag2 61
  | .str .traceDestination, p => p = .traceDestination
  | .str (.s n), p => p = .s n
  | .strs .traceClasses, p => p = .tracedGroups
  | .strs .ignoredVidPid, p => p = .ignoredUsbVidPids
  | .strs .ddcDisabled, p => p = .ddcDisabled
  | .strs .tracedApiCalls, p => p = .tracedApiCalls
  | .strs .tracedFunctions, p => p = .tracedFunctions
  | .strs .tracedCalls, p => p = .tracedCalls
  | .strs .tracedFiles, p => p = .tracedFiles
  | .outputLevel, p => p = .outputLevel
  | .statsType k, p => p = .statsType k
  | .discardedCache k, p => p = .discardedCache k ∨ p = .flag 14
  | .ignoredHiddev k, p => p = .ignoredHiddev k
  | .i2cBusCheckAsyncMin, p => p = .i2cBusCheckAsyncMin
  | .ddcCheckAsyncMin, p => p = .ddcCheckAsyncMin
  | _, _ => False

def OptionEntry.Controls (e : OptionEntry) (value : OptionValue) (p : Part) : Prop :=
  ∃ l, e.Owns value l ∧ l.Controls p

/-- **What adding an option promises**: every part that it does not control keeps its value. -/
def FrameKept (e : OptionEntry) (value : OptionValue) (c c' : ParsedCmd) : Prop :=
  ∀ p, ¬ e.Controls value p → c.get p = c'.get p

/-! ## The functions that parse an argument -/

def ArgResult.change (r : ArgResult) (c : ParsedCmd) : ParsedCmd :=
  match r with
  | .ok f => f c
  | .error _ => c

theorem framed_of_ok {r : ArgResult} {W : Part → Prop} (h : ∀ f, r = .ok f → WithinFrame ParsedCmd.get f W) :
    WithinFrame ParsedCmd.get r.change W := by
  cases r with
  | ok f => exact h f rfl
  | error msgs => exact WithinFrame.id.mono fun _ hp => hp.elim

theorem of_map_eq_ok {ε α β : Type} {x : Except ε α} {f : α → β} {y : β} (h : x.map f = .ok y) :
    ∃ a, x = .ok a ∧ f a = y := by
  cases x with
  | ok a => exact ⟨a, rfl, Except.ok.inj h⟩
  | error e => cases h

theorem framed_field {f : ParsedCmd → ParsedCmd} (p₀ : Part) (hother : ∀ p, p ≠ p₀ → ∀ c, (f c).get p = c.get p)
    (hself : ∀ c d, (f c).get p₀ = (f d).get p₀) : WithinFrame ParsedCmd.get f (· = p₀) := by
  refine .of_writes hother fun p hp c d => ?_
  subst hp; exact hself c d

theorem or_twoPow_bit (word : BitVec 64) {n : Nat} (hn : n < 64) (k : Nat) :
    (word ||| BitVec.twoPow 64 n).getLsbD k = (word.getLsbD k || decide (k = n)) := by
  rw [BitVec.getLsbD_or, BitVec.getLsbD_twoPow, decide_eq_true hn, Bool.true_and, decide_eq_decide.2 eq_comm]

theorem framed_fieldFlag {f : ParsedCmd → ParsedCmd} (p₀ : Part) {n : Nat} (hn : n < 64)
    (hflags : ∀ c, (f c).flags = c.flags ||| BitVec.twoPow 64 n)
    (hother : ∀ p, p ≠ p₀ → (∀ k, p ≠ .flag k) → ∀ c, (f c).get p = c.get p)
    (hself : ∀ c d, (f c).get p₀ = (f d).get p₀) : WithinFrame ParsedCmd.get f fun p => p = p₀ ∨ p = .flag n := by
  refine .of_writes (fun p hp c => ?_) fun p hp c d => ?_
  · by_cases hflag : ∃ k, p = .flag k
    · obtain ⟨k, rfl⟩ := hflag
      have hk : k ≠ n := fun h => hp (.inr (h ▸ rfl))
      change (f c).flags.getLsbD k = c.flags.getLsbD k
      rw [hflags, or_twoPow_bit c.flags hn, decide_eq_false hk, Bool.or_false]
    · exact hother p (fun h => hp (.inl h)) (fun k h => hflag ⟨k, h⟩) c
  · rcases hp with rfl | rfl
    · exact hself c d
    · change (f c).flags.getLsbD n = (f d).flags.getLsbD n
      rw [hflags, hflags, or_twoPow_bit c.flags hn, or_twoPow_bit d.flags hn, decide_eq_true rfl, Bool.or_true,
        Bool.or_true]

variable (s : List Byte)

theorem maxtrywork_framed : WithinFrame ParsedCmd.get (parseMaxtrywork s).change (Loc.str .maxtrywork).Controls := by
  refine framed_of_ok fun f hf => ?_
  unfold parseMaxtrywork at hf
  simp only at hf
  split at hf
  · cases hf
  · split at hf
    · cases hf
      refine ⟨fun p hp c => ?_, fun p c d h => ?_⟩
      · cases p with
        | maxTries => exact absurd rfl hp
        | _ => rfl
      · cases p with
        | maxTries => exact congrArg (List.zipWith _ · _) h
        | _ => exact h
    · cases hf

theorem mccswork_framed : WithinFrame ParsedCmd.get (parseMccswork s).change (Loc.str .mccswork).Controls := by
  refine framed_of_ok fun f hf => ?_
  unfold parseMccswork at hf
  simp only at hf
  split at hf
  · cases hf
    exact framed_field .mccsVspec (fun p hp c => by cases p <;> first | rfl | exact absurd rfl hp) fun c d => rfl
  · cases hf

theorem setSyslogLevel_framed (level : SyslogLevel) :
    WithinFrame ParsedCmd.get (fun c => { c with syslogLevel := level }) (· = .syslogLevel) :=
  framed_field .syslogLevel (fun p hp c => by cases p <;> first | rfl | exact absurd rfl hp) fun c d => rfl

theorem syslogWork_framed (work : Option (List Byte)) (parserMode : ParserMode) :
    WithinFrame ParsedCmd.get (parseSyslogWork work parserMode).change (Loc.str .syslogWork).Controls := by
  refine framed_of_ok fun f hf => ?_
  cases work with
  | none =>
    cases hf; exact setSyslogLevel_framed _
  | some sval =>
    obtain ⟨level, -, rfl⟩ := of_map_eq_ok hf
    exact setSyslogLevel_framed level

theorem i2cSourceAddrWork_framed :
    WithinFrame ParsedCmd.get (parseI2cSourceAddr s).change (Loc.str .i2cSourceAddrWork).Controls := by
  refine framed_of_ok fun f hf => ?_
  unfold parseI2cSourceAddr at hf
  split at hf
  · cases hf
  · split at hf
    · cases hf
    · cases hf
      exact framed_fieldFlag .explicitI2cSourceAddr (by decide) (fun c => rfl)
        (fun p hp hflag c => by cases p <;> first | rfl | exact absurd rfl hp | exact absurd rfl (hflag _))
        fun c d => rfl

theorem setCmdFlagI_framed (n : Fin 16) (s : List Byte) :
    WithinFrame ParsedCmd.get (setCmdFlagI n s).change (Loc.str (.i n)).Controls := by
  refine framed_of_ok fun f hf => ?_
  obtain ⟨ival, -, rfl⟩ := of_map_eq_ok hf
  have hn : 40 + (n : Nat) < 64 := by omega
  refine .of_writes (fun p hp c => ?_) fun p hp c d => ?_
  · cases p with
    | i m => exact Function.update_of_ne (fun h => hp (.inl (congrArg Part.i h))) _ _
    | flag2 k =>
      have hk : k ≠ 40 + (n : Nat) := fun h => hp (.inr (congrArg Part.flag2 h))
      change (c.flags2 ||| cmdFlag2ISet n).getLsbD k = c.flags2.getLsbD k
      rw [cmdFlag2ISet, or_twoPow_bit c.flags2 hn, decide_eq_false hk, Bool.or_false]
    | _ => rfl
  · rcases hp with rfl | rfl
    · exact update_same c.i d.i n ival
    · change (c.flags2 ||| cmdFlag2ISet n).getLsbD _ = (d.flags2 ||| cmdFlag2ISet n).getLsbD _
      rw [cmdFlag2ISet, or_twoPow_bit c.flags2 hn, or_twoPow_bit d.flags2 hn, decide_eq_true rfl, Bool.or_true,
        Bool.or_true]

theorem ignoredVidPid_framed (ids : List (List Byte)) :
    WithinFrame ParsedCmd.get (parseIgnoredVidPid ids).change (Loc.strs .ignoredVidPid).Controls := by
  refine framed_of_ok fun f hf => ?_
  unfold parseIgnoredVidPid at hf
  simp only at hf
  split at hf
  · cases hf
    exact framed_field .ignoredUsbVidPids (fun p hp c => by cases p <;> first | rfl | exact absurd rfl hp)
      fun c d => rfl
  · cases hf

theorem sleepMultiplierWork_framed :
    WithinFrame ParsedCmd.get (parseSleepMultiplierWork s).change (Loc.str .sleepMultiplierWork).Controls := by
  refine framed_of_ok fun f hf => ?_
  obtain ⟨multiplier, -, rfl⟩ := of_map_eq_ok hf
  exact framed_fieldFlag .sleepMultiplier (by decide) (fun c => rfl)
    (fun p hp hflag c => by cases p <;> first | rfl | exact absurd rfl hp | exact absurd rfl (hflag _)) fun c d => rfl

theorem minDynamicSleepWork_framed :
    WithinFrame ParsedCmd.get (parseMinDynamicSleepWork s).change (Loc.str .minDynamicSleepWork).Controls := by
  refine framed_of_ok fun f hf => ?_
  obtain ⟨multiplier, -, rfl⟩ := of_map_eq_ok hf
  exact framed_field .minDynamicMultiplier (fun p hp c => by cases p <;> first | rfl | exact absurd rfl hp)
    fun c d => rfl

theorem setWatchMode_framed (mode : DdcWatchMode) :
    WithinFrame ParsedCmd.get (fun c => { c with watchMode := mode }) (· = .watchMode) :=
  framed_field .watchMode (fun p hp c => by cases p <;> first | rfl | exact absurd rfl hp) fun c d => rfl

theorem watchModeWork_framed (useX11 : Bool) (work : Option (List Byte)) :
    WithinFrame ParsedCmd.get (parseWatchMode useX11 work).change (Loc.str .watchModeWork).Controls := by
  refine framed_of_ok fun f hf => ?_
  cases work with
  | none =>
    cases hf; exact setWatchMode_framed _
  | some sval =>
    unfold parseWatchMode at hf
    simp only at hf
    split at hf
    · cases hf; exact setWatchMode_framed _
    · cases hf

variable (work : BitVec 32)

theorem edidReadSizeWork_framed :
    WithinFrame ParsedCmd.get (parseEdidReadSize work).change (Loc.int .edidReadSizeWork).Controls := by
  refine framed_of_ok fun f hf => ?_
  unfold parseEdidReadSize at hf
  split at hf
  · cases hf
    exact framed_field .edidReadSize (fun p hp c => by cases p <;> first | rfl | exact absurd rfl hp) fun c d => rfl
  · cases hf

theorem traceClasses_framed (traceClasses : List (List Byte)) :
    WithinFrame ParsedCmd.get (parseTraceClasses traceClasses).change (Loc.strs .traceClasses).Controls := by
  refine framed_of_ok fun f hf => ?_
  unfold parseTraceClasses at hf
  simp only at hf
  split at hf
  · cases hf; exact WithinFrame.id.mono fun _ hp => hp.elim
  · split at hf
    · cases hf
      exact framed_field .tracedGroups (fun p hp c => by cases p <;> first | rfl | exact absurd rfl hp) fun c d => rfl
    · cases hf

theorem xeventWatchLoop_framed :
    WithinFrame ParsedCmd.get (parseXeventWatchLoop work).change (Loc.int .xeventWatchLoopMillisWork).Controls := by
  refine framed_of_ok fun f hf => ?_
  unfold parseXeventWatchLoop at hf
  split at hf
  · cases hf
  · cases hf
    exact framed_field .xeventWatchLoopMillisec (fun p hp c => by cases p <;> first | rfl | exact absurd rfl hp)
      fun c d => rfl

theorem pollWatchLoop_framed :
    WithinFrame ParsedCmd.get (parsePollWatchLoop work).change (Loc.int .pollWatchLoopMillisWork).Controls := by
  refine framed_of_ok fun f hf => ?_
  unfold parsePollWatchLoop at hf
  split at hf
  · cases hf
  · cases hf
    exact framed_field .pollWatchLoopMillisec (fun p hp c => by cases p <;> first | rfl | exact absurd rfl hp)
      fun c d => rfl

theorem failsimFnWork_framed (b : Build) (s : List Byte) :
    WithinFrame ParsedCmd.get (parseFailsimFn b s).change (Loc.str .failsimFnWork).Controls := by
  refine framed_of_ok fun f hf => ?_
  unfold parseFailsimFn at hf
  split at hf
  · cases hf
    exact framed_fieldFlag .failsimControlFn (by decide) (fun c => rfl)
      (fun p hp hflag c => by cases p <;> first | rfl | exact absurd rfl hp | exact absurd rfl (hflag _))
      fun c d => rfl
  · cases hf

theorem fl1_get {p : Part} (hflag : ∀ k, p ≠ .flag k) :
    SameAt ParsedCmd.get (parseFl1 s).change (parseFl1 s).change p ∧
      (p ≠ .fl1 → ∀ c, ((parseFl1 s).change c).get p = c.get p) := by
  unfold parseFl1
  cases strToFloat s with
  | none => exact ⟨fun c d h => h, fun _ c => rfl⟩
  | some x =>
    refine ⟨fun c d h => ?_, fun hp c => ?_⟩
    · cases p with
      | flag k => exact absurd rfl (hflag k)
      | fl1 => rfl
      | _ => exact h
    · cases p with
      | flag k => exact absurd rfl (hflag k)
      | fl1 => exact absurd rfl hp
      | _ => rfl

theorem fl2_get {p : Part} (hflag : ∀ k, p ≠ .flag k) :
    SameAt ParsedCmd.get (parseFl2 s).change (parseFl2 s).change p ∧
      (p ≠ .fl2 → ∀ c, ((parseFl2 s).change c).get p = c.get p) := by
  unfold parseFl2
  cases strToFloat s with
  | none => exact ⟨fun c d h => h, fun _ c => rfl⟩
  | some x =>
    refine ⟨fun c d h => ?_, fun hp c => ?_⟩
    · cases p with
      | flag k => exact absurd rfl (hflag k)
      | fl2 => rfl
      | _ => exact h
    · cases p with
      | flag k => exact absurd rfl (hflag k)
      | fl2 => exact absurd rfl hp
      | _ => rfl

end Ddc.Cmd
