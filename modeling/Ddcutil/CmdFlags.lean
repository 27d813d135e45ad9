import Ddcutil.CmdFrame
/-!
# CmdFlags — the words of flags (cmd_parser_goption.c)

Up to the special floating point numbers every bit of the two words is what was asked for (`flagAsked`, `flag2Asked`).
`--fl1` and `--fl2` then put the second word in the place of the first, and what comes after that sets one bit more and
clears no more than one.
-/
namespace Ddc.Cmd

open Kit List

/-! ## The settings -/

def flagAt (b : Build) (k : Nat) : Option FlagVar :=
  (flagTable.lookup k).filter fun x =>
    (b.enableUsb || x != .enableUsbFlag) && (b.watchDisplays || x != .enableWatchDisplays)

def newFlags : BitVec 64 := cmdFlagEnableUdf ||| cmdFlagEnableCachedCapabilities

theorem cmdFlagSettings_bit (b : Build) (k : Nat) (hk : k < 64) :
    ((cmdFlagSettings b).filter fun s => s.mask.getLsbD k).map Setting.flag = (flagAt b k).toList ∧
      (∀ s ∈ (cmdFlagSettings b).filter fun s => s.mask.getLsbD k, s.clears = true ∨ newFlags.getLsbD k = false) ∧
      (flagAt b k = none → newFlags.getLsbD k = false) := by
  have hb : ∀ usb watch : Bool, ∀ k < 64,
      ((cmdFlagSettings ⟨usb, false, watch, false, false, false⟩).filter fun s => s.mask.getLsbD k).map Setting.flag =
        (flagAt ⟨usb, false, watch, false, false, false⟩ k).toList ∧
      (∀ s ∈ (cmdFlagSettings ⟨usb, false, watch, false, false, false⟩).filter fun s => s.mask.getLsbD k,
        s.clears = true ∨ newFlags.getLsbD k = false) ∧
      (flagAt ⟨usb, false, watch, false, false, false⟩ k = none → newFlags.getLsbD k = false) := by
    decide +kernel
  exact hb b.enableUsb b.watchDisplays k hk

theorem flagTable_lt : ∀ e ∈ flagTable, e.1 < 64 := by
  decide

theorem settle_flags (b : Build) (on : FlagVar → Bool) (k : Nat) :
    (settle on (cmdFlagSettings b) newFlags).getLsbD k = (flagAt b k).elim false on := by
  by_cases hk : k < 64
  · obtain ⟨hflag, hclears, hnew⟩ := cmdFlagSettings_bit b k hk
    cases hx : flagAt b k with
    | none =>
      rw [hx] at hflag
      rw [settle_other (map_eq_nil_iff.1 hflag), hnew hx]; rfl
    | some x =>
      rw [hx] at hflag
      obtain ⟨s, hs, rfl⟩ := map_eq_singleton_iff.1 hflag
      rw [settle_bit hs]
      rw [hs] at hclears
      rcases hclears s (mem_singleton_self s) with hs | hs
      · rw [hs, Bool.not_true, Bool.false_and, Bool.or_false]; rfl
      · rw [hs, Bool.and_false, Bool.or_false]; rfl
  · have hnone : flagTable.lookup k = none := by
      rw [lookup_eq_none_iff]
      intro e he
      have hlt := flagTable_lt e he
      simp only [bne_iff_ne, ne_eq]; omega
    rw [flagAt, hnone, BitVec.getLsbD_of_ge _ _ (Nat.le_of_not_lt hk)]; rfl

theorem cmdFlag2Settings_bit : ∀ k < 64, (cmdFlag2Settings.filter fun s => s.mask.getLsbD k).map Setting.flag =
    if h : k < 32 then [.f ⟨k, h⟩] else [] := by
  decide +kernel

theorem settle_flags2 (on : FlagVar → Bool) (k : Nat) :
    (settle on cmdFlag2Settings 0).getLsbD k = if h : k < 32 then on (.f ⟨k, h⟩) else false := by
  by_cases hk : k < 64
  · have hflag := cmdFlag2Settings_bit k hk
    split
    · rename_i h
      rw [dif_pos h] at hflag
      obtain ⟨s, hs, hx⟩ := map_eq_singleton_iff.1 hflag
      rw [settle_bit hs, hx]; simp
    · rename_i h
      rw [dif_neg h] at hflag
      rw [settle_other (map_eq_nil_iff.1 hflag)]; simp
  · rw [dif_neg (by omega), BitVec.getLsbD_of_ge _ _ (Nat.le_of_not_lt hk)]

section
variable (b : Build) (v : Vars)

def Vars.discards : Bool :=
  decide (v.discardedCachesWork ≠ 0) || v.flag .discardCachedCapabilitiesFlag || v.flag .discardDsaCacheFlag

def flagAsked (k : Nat) : Bool :=
  (flagAt b k).elim false v.on || decide (k = 14) && v.discards || decide (k = 5) && (v.str .failsimFnWork).isSome ||
    decide (k = 58) && (v.str .i2cSourceAddrWork).isSome

def flag2Asked (k : Nat) : Bool :=
  (if h : k < 32 then v.flag (.f ⟨k, h⟩) else false) ||
    (List.finRange 16).any fun n => decide (k = 40 + n) && (v.str (.i n)).isSome

def floatGiven : Bool := (v.str .fl1Work).isSome || (v.str .fl2Work).isSome

def flagFloats (k : Nat) : Bool :=
  if (v.str .fl2Work).isSome then flag2Asked v k || decide (k = 61)
  else if (v.str .fl1Work).isSome then flag2Asked v k || decide (k = 60) else flagAsked b v k

def flagTaken (k : Nat) : Bool := flagFloats b v k || decide (k = 44) && (v.str .sleepMultiplierWork).isSome

end

/-! ## Stage by stage -/

section
variable {b : Build} {parserMode : ParserMode} {v : Vars} {c : ParsedCmd}

theorem discardCaches_flag (types : BitVec 8) (k : Nat) :
    (discardCaches c types).flags.getLsbD k = (c.flags.getLsbD k || decide (k = 14)) := by
  have hmask : cmdFlagDiscardCaches = BitVec.twoPow 64 14 := by decide
  rw [discardCaches, hmask, or_twoPow_bit c.flags (by decide)]

theorem setDiscardedCaches_flag (k : Nat) :
    (setDiscardedCaches v c).flags.getLsbD k = (c.flags.getLsbD k || decide (k = 14) && v.discards) := by
  unfold setDiscardedCaches Vars.discards
  by_cases hwork : v.discardedCachesWork ≠ 0
  · rw [if_pos hwork, decide_eq_true hwork]
    cases v.flag .discardCachedCapabilitiesFlag <;> cases v.flag .discardDsaCacheFlag <;> simp [discardCaches_flag]
  · rw [if_neg hwork, decide_eq_false hwork]
    cases v.flag .discardCachedCapabilitiesFlag <;> cases v.flag .discardDsaCacheFlag <;> simp [discardCaches_flag]

theorem cacheBit {k : Nat} :
    (0x01 : BitVec 8).getLsbD k = decide (k = 0) ∧ (0x04 : BitVec 8).getLsbD k = decide (k = 2) := by
  have hcap : (0x01 : BitVec 8) = BitVec.twoPow 8 0 := rfl
  have hdsa : (0x04 : BitVec 8) = BitVec.twoPow 8 2 := rfl
  rw [hcap, hdsa, BitVec.getLsbD_twoPow, BitVec.getLsbD_twoPow]
  exact ⟨decide_eq_decide.2 eq_comm, decide_eq_decide.2 eq_comm⟩

theorem setDiscardedCaches_type (h : c.discardedCacheTypes = 0) (k : Nat) :
    (setDiscardedCaches v c).discardedCacheTypes.getLsbD k = (v.discardedCachesWork.getLsbD k ||
      decide (k = 0) && v.flag .discardCachedCapabilitiesFlag || decide (k = 2) && v.flag .discardDsaCacheFlag) := by
  have hwork : (if v.discardedCachesWork ≠ 0 then discardCaches c v.discardedCachesWork else c).discardedCacheTypes =
      v.discardedCachesWork := by
    split
    · rfl
    · rename_i hzero
      rw [h, not_not.1 hzero]
  unfold setDiscardedCaches
  generalize (if v.discardedCachesWork ≠ 0 then discardCaches c v.discardedCachesWork else c) = c₁ at hwork
  rw [← hwork]
  cases v.flag .discardCachedCapabilitiesFlag <;> cases v.flag .discardDsaCacheFlag <;>
    simp only [discardCaches, if_true, if_false, Bool.false_eq_true, BitVec.getLsbD_or, cacheBit, Bool.and_true,
      Bool.and_false, Bool.or_false]

theorem setDiscardedCaches_get {p : Part} (hflag : ∀ k, p ≠ .flag k) (htype : ∀ k, p ≠ .discardedCache k) :
    (setDiscardedCaches v c).get p = c.get p := by
  have hstep : ∀ (c : ParsedCmd) types, (discardCaches c types).get p = c.get p := by
    intro c types
    cases p with
    | flag k => exact absurd rfl (hflag k)
    | discardedCache k => exact absurd rfl (htype k)
    | _ => rfl
  unfold setDiscardedCaches
  split <;> split <;> split <;> simp only [hstep]

theorem givenChange_flag {parse : List Byte → ArgResult} {n : Nat} (hn : n < 64)
    (hparse : ∀ s f, parse s = .ok f → ∀ c, (f c).flags = c.flags ||| BitVec.twoPow 64 n) {work : Option (List Byte)}
    (hok : Takes work parse) (k : Nat) :
    (givenChange work parse c).get (.flag k) = (c.get (.flag k) || decide (k = n) && work.isSome) := by
  cases work with
  | none => simp [givenChange]
  | some s =>
    obtain ⟨f, hf⟩ := hok s rfl
    change ((parse s).change c).flags.getLsbD k = (c.flags.getLsbD k || decide (k = n) && true)
    rw [hf, Bool.and_true, ← or_twoPow_bit c.flags hn, ← hparse s f hf c]; rfl

def startCmd (b : Build) (parserMode : ParserMode) (v : Vars) : ParsedCmd :=
  setDiscardedCaches v (setFlags b v (storedCmd parserMode v))

theorem startCmd_flag (k : Nat) : (startCmd b parserMode v).get (.flag k) =
    ((flagAt b k).elim false v.on || decide (k = 14) && v.discards) :=
  (setDiscardedCaches_flag k).trans (congrArg (· || _) (settle_flags b v.on k))

theorem startCmd_flag2 (k : Nat) : (startCmd b parserMode v).get (.flag2 k) =
    if h : k < 32 then v.flag (.f ⟨k, h⟩) else false :=
  (setDiscardedCaches_get (fun _ h => by cases h) fun _ h => by cases h).trans (settle_flags2 v.on k)

theorem startCmd_type (k : Nat) : (startCmd b parserMode v).get (.discardedCache k) =
    (v.discardedCachesWork.getLsbD k || decide (k = 0) && v.flag .discardCachedCapabilitiesFlag ||
      decide (k = 2) && v.flag .discardDsaCacheFlag) :=
  setDiscardedCaches_type rfl k

theorem failsimChange_flag (hok : Takes (v.str .failsimFnWork) (parseFailsimFn b)) (k : Nat) :
    (givenChange (v.str .failsimFnWork) (parseFailsimFn b) c).get (.flag k) =
      (c.get (.flag k) || decide (k = 5) && (v.str .failsimFnWork).isSome) := by
  refine givenChange_flag (by decide) (fun s f hf c => ?_) hok k
  unfold parseFailsimFn at hf
  split at hf
  · cases hf; rfl
  · cases hf

theorem setCmdFlagI_foldl (hok : ∀ n, Takes (v.str (.i n)) (setCmdFlagI n)) (l : List (Fin 16))
    (k : Nat) : ((l.foldl (fun c n => givenChange (v.str (.i n)) (setCmdFlagI n) c) c).get (.flag k) = c.get (.flag k)) ∧
      (l.foldl (fun c n => givenChange (v.str (.i n)) (setCmdFlagI n) c) c).get (.flag2 k) =
        (c.get (.flag2 k) || l.any fun n => decide (k = 40 + n) && (v.str (.i n)).isSome) := by
  induction l generalizing c with
  | nil => exact ⟨rfl, (Bool.or_false _).symm⟩
  | cons n l ih =>
    rw [foldl_cons, any_cons, ← Bool.or_assoc]
    refine ⟨ih.1.trans ?_, ih.2.trans ?_⟩
    · exact givenChange_keeps (setCmdFlagI_framed n) (fun h => by rcases h with h | h <;> cases h) _ c
    · congr 1
      cases hwork : v.str (.i n) with
      | none => simp [givenChange]
      | some s =>
        obtain ⟨f, hf⟩ := hok n s hwork
        obtain ⟨ival, -, rfl⟩ := of_map_eq_ok hf
        rw [givenChange, hf, Option.isSome_some, Bool.and_true]
        exact or_twoPow_bit c.flags2 (by omega) k

theorem i2cSourceAddr_flags (s : List Byte) (f : ParsedCmd → ParsedCmd) (h : parseI2cSourceAddr s = .ok f) (c : ParsedCmd) :
    (f c).flags = c.flags ||| BitVec.twoPow 64 58 := by
  unfold parseI2cSourceAddr at h
  split at h
  · cases h
  · split at h
    · cases h
    · cases h; rfl

theorem argumentsStart_word {p : Part} (hp : (∃ k, p = .flag k) ∨ ∃ k, p = .flag2 k) :
    ((parseSyslogWork (v.str .syslogWork) parserMode).change (givenChange (v.str .mccswork) parseMccswork
      (givenChange (v.str .maxtrywork) parseMaxtrywork c))).get p = c.get p := by
  have hmaxtry : ¬ (Loc.str .maxtrywork).Controls p := by
    rcases hp with ⟨k, rfl⟩ | ⟨k, rfl⟩ <;> exact fun h => by cases h
  have hmccs : ¬ (Loc.str .mccswork).Controls p := by
    rcases hp with ⟨k, rfl⟩ | ⟨k, rfl⟩ <;> exact fun h => by cases h
  have hsyslog : ¬ (Loc.str .syslogWork).Controls p := by
    rcases hp with ⟨k, rfl⟩ | ⟨k, rfl⟩ <;> exact fun h => by cases h
  rw [(syslogWork_framed _ _).keeps p hsyslog, givenChange_keeps mccswork_framed hmccs,
    givenChange_keeps maxtrywork_framed hmaxtry]

theorem argumentsChange_flag (haddr : Takes (v.str .i2cSourceAddrWork) parseI2cSourceAddr)
    (hi : ∀ n, Takes (v.str (.i n)) (setCmdFlagI n)) (k : Nat) :
    (argumentsChange parserMode v c).get (.flag k) =
      (c.get (.flag k) || decide (k = 58) && (v.str .i2cSourceAddrWork).isSome) := by
  rw [argumentsChange, (setCmdFlagI_foldl hi _ k).1, givenChange_flag (by decide) i2cSourceAddr_flags haddr k,
    argumentsStart_word (.inl ⟨k, rfl⟩)]

theorem argumentsChange_flag2 (hi : ∀ n, Takes (v.str (.i n)) (setCmdFlagI n)) (k : Nat) :
    (argumentsChange parserMode v c).get (.flag2 k) =
      (c.get (.flag2 k) || (List.finRange 16).any fun n => decide (k = 40 + n) && (v.str (.i n)).isSome) := by
  have haddr : ¬ (Loc.str .i2cSourceAddrWork).Controls (.flag2 k) := fun h => by rcases h with h | h <;> cases h
  rw [argumentsChange, (setCmdFlagI_foldl hi _ k).2, givenChange_keeps i2cSourceAddrWork_framed haddr,
    argumentsStart_word (.inr ⟨k, rfl⟩)]

theorem fl1_word {s : List Byte} {f : ParsedCmd → ParsedCmd} (h : parseFl1 s = .ok f) (c : ParsedCmd) (k : Nat) :
    (f c).get (.flag k) = (c.get (.flag2 k) || decide (k = 60)) ∧ (f c).get (.flag2 k) = c.get (.flag2 k) := by
  unfold parseFl1 at h
  split at h
  · cases h; exact ⟨or_twoPow_bit c.flags2 (n := 60) (by decide) k, rfl⟩
  · cases h

theorem fl2_word {s : List Byte} {f : ParsedCmd → ParsedCmd} (h : parseFl2 s = .ok f) (c : ParsedCmd) (k : Nat) :
    (f c).get (.flag k) = (c.get (.flag2 k) || decide (k = 61)) ∧ (f c).get (.flag2 k) = c.get (.flag2 k) := by
  unfold parseFl2 at h
  split at h
  · cases h; exact ⟨or_twoPow_bit c.flags2 (n := 61) (by decide) k, rfl⟩
  · cases h

theorem floatsChange_flag (hfl1 : Takes (v.str .fl1Work) parseFl1)
    (hfl2 : Takes (v.str .fl2Work) parseFl2) (k : Nat) :
    (floatsChange v c).get (.flag k) =
      if (v.str .fl2Work).isSome then c.get (.flag2 k) || decide (k = 61)
      else if (v.str .fl1Work).isSome then c.get (.flag2 k) || decide (k = 60) else c.get (.flag k) := by
  have hword : ∀ c : ParsedCmd, (givenChange (v.str .fl1Work) parseFl1 c).get (.flag2 k) = c.get (.flag2 k) ∧
      (givenChange (v.str .fl1Work) parseFl1 c).get (.flag k) =
        if (v.str .fl1Work).isSome then c.get (.flag2 k) || decide (k = 60) else c.get (.flag k) := by
    intro c
    cases hwork : v.str .fl1Work with
    | none => exact ⟨rfl, rfl⟩
    | some s =>
      obtain ⟨f, hf⟩ := hfl1 s hwork
      rw [givenChange, hf]; exact ⟨(fl1_word hf c k).2, (fl1_word hf c k).1⟩
  unfold floatsChange
  cases hwork : v.str .fl2Work with
  | none => exact (hword c).2
  | some s =>
    obtain ⟨f, hf⟩ := hfl2 s hwork
    rw [← (hword c).1, givenChange, hf]; exact (fl2_word hf _ k).1

theorem sleepMultiplier_flags (s : List Byte) (f : ParsedCmd → ParsedCmd) (h : parseSleepMultiplierWork s = .ok f)
    (c : ParsedCmd) : (f c).flags = c.flags ||| BitVec.twoPow 64 44 := by
  obtain ⟨multiplier, -, rfl⟩ := of_map_eq_ok h
  rfl

theorem tuningsChange_flag (hsleep : Takes (v.str .sleepMultiplierWork) parseSleepMultiplierWork)
    (k : Nat) : (tuningsChange b v c).get (.flag k) =
      (c.get (.flag k) || decide (k = 44) && (v.str .sleepMultiplierWork).isSome) := by
  have htrace : ¬ (Loc.strs .traceClasses).Controls (.flag k) := fun h => by cases h
  have hedid : ¬ (Loc.int .edidReadSizeWork).Controls (.flag k) := fun h => by cases h
  have hwatch : ¬ (Loc.str .watchModeWork).Controls (.flag k) := fun h => by cases h
  have hmin : ¬ (Loc.str .minDynamicSleepWork).Controls (.flag k) := fun h => by cases h
  have hvid : ¬ (Loc.strs .ignoredVidPid).Controls (.flag k) := fun h => by cases h
  rw [tuningsChange, (traceClasses_framed _).keeps _ htrace, (edidReadSizeWork_framed _).keeps _ hedid,
    (watchModeWork_framed _ _).keeps _ hwatch, givenChange_keeps minDynamicSleepWork_framed hmin,
    givenChange_flag (by decide) sleepMultiplier_flags hsleep k]
  split
  · rw [(ignoredVidPid_framed _).keeps _ hvid]
  · rfl

variable (b v) in
structure ArgumentsTaken : Prop where
  failsim : Takes (v.str .failsimFnWork) (parseFailsimFn b)
  sourceAddr : Takes (v.str .i2cSourceAddrWork) parseI2cSourceAddr
  ints : ∀ n, Takes (v.str (.i n)) (setCmdFlagI n)
  fl1 : Takes (v.str .fl1Work) parseFl1
  fl2 : Takes (v.str .fl2Work) parseFl2
  sleepMultiplier : Takes (v.str .sleepMultiplierWork) parseSleepMultiplierWork

def optionsCmd (b : Build) (parserMode : ParserMode) (v : Vars) (pdid : Option DisplayIdentifier) : ParsedCmd :=
  let c := givenChange (v.str .failsimFnWork) (parseFailsimFn b) (startCmd b parserMode v)
  watchLoopsChange b v (tuningsChange b v (floatsChange v (argumentsChange parserMode v { c with pdid := pdid })))

theorem optionsCmd_flag (h : ArgumentsTaken b v) (pdid : Option DisplayIdentifier) (k : Nat) :
    (optionsCmd b parserMode v pdid).get (.flag k) = flagTaken b v k := by
  have hstart : ∀ c : ParsedCmd, ({ c with pdid := pdid } : ParsedCmd).get (.flag k) = c.get (.flag k) := fun c => rfl
  have hstart2 : ∀ c : ParsedCmd, ({ c with pdid := pdid } : ParsedCmd).get (.flag2 k) = c.get (.flag2 k) := fun c => rfl
  have hx : ¬ (Loc.int .xeventWatchLoopMillisWork).Controls (.flag k) := fun h => by cases h
  have hpoll : ¬ (Loc.int .pollWatchLoopMillisWork).Controls (.flag k) := fun h => by cases h
  have hfailsim : ¬ (Loc.str .failsimFnWork).Controls (.flag2 k) := fun h => by rcases h with h | h <;> cases h
  unfold optionsCmd flagTaken flagFloats flagAsked flag2Asked
  rw [watchLoopsChange_keeps hx hpoll, tuningsChange_flag h.sleepMultiplier, floatsChange_flag h.fl1 h.fl2,
    argumentsChange_flag h.sourceAddr h.ints, argumentsChange_flag2 h.ints, hstart, hstart2,
    failsimChange_flag h.failsim, givenChange_keeps (failsimFnWork_framed b) hfailsim, startCmd_flag, startCmd_flag2]

/-! ## The flags in both runs -/

variable {v' : Vars}

theorem flagTable_allowUnrecognized : ∀ e ∈ flagTable, e.2 = .allowUnrecognizedFeatureFlag → e.1 = 1 := by
  decide

theorem flagTable_verify : ∀ e ∈ flagTable, e.2 = .verifyFlag → e.1 = 6 := by
  decide

theorem flagAt_mem {k : Nat} {x : FlagVar} (h : flagAt b k = some x) : (k, x) ∈ flagTable := by
  obtain ⟨l₁, l₂, hl, -⟩ := lookup_eq_some_iff.1 (Option.filter_eq_some_iff.1 h).1
  rw [hl]; exact mem_append_right l₁ mem_cons_self

theorem Vars.on_same {x : FlagVar} {k : Nat} (h : Alike v v' (.flag k)) (hx : (k, x) ∈ flagTable) : v.on x = v'.on x := by
  have hself : v.flag x = v'.flag x := h (.flag x) (.inl hx)
  cases x with
  | allowUnrecognizedFeatureFlag =>
    have hk : k = 1 := flagTable_allowUnrecognized _ hx rfl
    have hforce : v.flag .forceFlag = v'.flag .forceFlag := h (.flag .forceFlag) (.inr (.inl ⟨rfl, hk⟩))
    unfold Vars.on
    rw [hforce, hself]
  | verifyFlag =>
    have hk : k = 6 := flagTable_verify _ hx rfl
    have hset : v.flag .verifySetFlag = v'.flag .verifySetFlag :=
      h (.flag .verifySetFlag) (.inr (.inr (.inl ⟨.inl rfl, hk⟩)))
    have hno : v.flag .noverifySetFlag = v'.flag .noverifySetFlag :=
      h (.flag .noverifySetFlag) (.inr (.inr (.inl ⟨.inr rfl, hk⟩)))
    unfold Vars.on
    rw [hset, hno]
  | _ => exact hself

theorem onlyAt {k n : Nat} {x y : Bool} (h : k = n → x = y) : (decide (k = n) && x) = (decide (k = n) && y) := by
  by_cases hk : k = n
  · rw [h hk]
  · rw [decide_eq_false hk, Bool.false_and, Bool.false_and]

theorem discards_same (h : Alike v v' (.flag 14)) : v.discards = v'.discards := by
  have hwork : v.discardedCachesWork = v'.discardedCachesWork :=
    BitVec.eq_of_getLsbD_eq fun k _ => h (.discardedCache k) (.inr rfl)
  have hcap : v.flag .discardCachedCapabilitiesFlag = v'.flag .discardCachedCapabilitiesFlag :=
    h (.flag .discardCachedCapabilitiesFlag) (.inr (.inr (.inr ⟨.inl rfl, rfl⟩)))
  have hdsa : v.flag .discardDsaCacheFlag = v'.flag .discardDsaCacheFlag :=
    h (.flag .discardDsaCacheFlag) (.inr (.inr (.inr ⟨.inr rfl, rfl⟩)))
  rw [Vars.discards, Vars.discards, hwork, hcap, hdsa]

theorem flagAsked_same {k : Nat} (h : Alike v v' (.flag k)) : flagAsked b v k = flagAsked b v' k := by
  have hon : (flagAt b k).elim false v.on = (flagAt b k).elim false v'.on := by
    cases hx : flagAt b k with
    | none => rfl
    | some x => exact Vars.on_same h (flagAt_mem hx)
  have hstr : ∀ x, (Loc.str x).Controls (.flag k) → (v.str x).isSome = (v'.str x).isSome := fun x hx =>
    congrArg Option.isSome (h (.str x) hx)
  have hdiscards : (decide (k = 14) && v.discards) = (decide (k = 14) && v'.discards) :=
    onlyAt fun hk => discards_same (hk ▸ h)
  have hfailsim : (decide (k = 5) && (v.str .failsimFnWork).isSome) =
      (decide (k = 5) && (v'.str .failsimFnWork).isSome) :=
    onlyAt fun hk => hstr .failsimFnWork (.inr (congrArg Part.flag hk))
  have haddr : (decide (k = 58) && (v.str .i2cSourceAddrWork).isSome) =
      (decide (k = 58) && (v'.str .i2cSourceAddrWork).isSome) :=
    onlyAt fun hk => hstr .i2cSourceAddrWork (.inr (congrArg Part.flag hk))
  rw [flagAsked, flagAsked, hon, hdiscards, hfailsim, haddr]

theorem flag2Asked_same {k : Nat} (hf : ∀ n : Fin 32, k = n → v.flag (.f n) = v'.flag (.f n))
    (hi : ∀ n : Fin 16, k = 40 + n → (v.str (.i n)).isSome = (v'.str (.i n)).isSome) :
    flag2Asked v k = flag2Asked v' k := by
  unfold flag2Asked
  congr 1
  · split
    · exact hf _ rfl
    · rfl
  · exact congrArg (List.any _) (funext fun n => onlyAt (hi n))

theorem flag2Asked_f (n : Fin 32) : flag2Asked v n = v.flag (.f n) := by
  have hnone : ((List.finRange 16).any fun m => decide ((n : Nat) = 40 + m) && (v.str (.i m)).isSome) = false := by
    rw [any_eq_false]
    intro m _ hm
    have hn := of_decide_eq_true (Bool.and_eq_true_iff.1 hm).1
    omega
  rw [flag2Asked, dif_pos n.isLt, hnone, Bool.or_false]

theorem flag2Asked_i (n : Fin 16) : flag2Asked v (40 + n) = (v.str (.i n)).isSome := by
  rw [flag2Asked, dif_neg (by omega), Bool.false_or, Bool.eq_iff_iff, any_eq_true]
  constructor
  · rintro ⟨m, -, hm⟩
    obtain ⟨hn, hsome⟩ := Bool.and_eq_true_iff.1 hm
    obtain rfl : n = m := Fin.ext (by have := of_decide_eq_true hn; omega)
    exact hsome
  · intro hsome; exact ⟨n, mem_finRange n, by rw [hsome, decide_eq_true rfl]; rfl⟩

end

end Ddc.Cmd
