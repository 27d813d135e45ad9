import Ddcutil.CmdCommand
/-!
# CmdFrameRuns — one option more on an accepted command line (cmd_parser_goption.c)

Every part of the parsed command that is no bit of `flags` is made from the variables that are there to set it
(`accepted_same`), and a bit of `flags` is found from all of them (`accepted_flag`).
-/
namespace Ddc.Cmd

open Kit Exec

section
variable {b : Build} {parserMode : ParserMode} {v v' : Vars} {p : Part}

/-! ## The options in both runs -/

theorem storedCmd_same (hflag : ∀ k, p ≠ .flag k) (hflag2 : ∀ k, p ≠ .flag2 k) (h : Alike v v' p) :
    (setFlags b v (storedCmd parserMode v)).get p = (setFlags b v' (storedCmd parserMode v')).get p := by
  cases p with
  | flag k => exact absurd rfl (hflag k)
  | flag2 k => exact absurd rfl (hflag2 k)
  | outputLevel => exact h .outputLevel rfl
  | statsType k => exact h (.statsType k) rfl
  | ignoredHiddev k => exact h (.ignoredHiddev k) rfl
  | ddcDisabled => exact h (.strs .ddcDisabled) rfl
  | tracedApiCalls => exact h (.strs .tracedApiCalls) rfl
  | tracedFunctions => exact h (.strs .tracedFunctions) rfl
  | tracedCalls => exact h (.strs .tracedCalls) rfl
  | tracedFiles => exact h (.strs .tracedFiles) rfl
  | traceDestination => exact h (.str .traceDestination) rfl
  | s n => exact h (.str (.s n)) rfl
  | i2cBusCheckAsyncMin => exact h .i2cBusCheckAsyncMin rfl
  | ddcCheckAsyncMin => exact h .ddcCheckAsyncMin rfl
  | _ => rfl

theorem startCmd_same (hflag : ∀ k, p ≠ .flag k) (h : Alike v v' p) :
    (startCmd b parserMode v).get p = (startCmd b parserMode v').get p := by
  cases p with
  | flag k => exact absurd rfl (hflag k)
  | flag2 k =>
    rw [startCmd_flag2, startCmd_flag2]
    split
    · exact h (.flag (.f _)) ⟨_, rfl, rfl⟩
    · rfl
  | discardedCache k =>
    have hwork : v.discardedCachesWork.getLsbD k = v'.discardedCachesWork.getLsbD k := h (.discardedCache k) (.inl rfl)
    have hcap : k = 0 → v.flag .discardCachedCapabilitiesFlag = v'.flag .discardCachedCapabilitiesFlag := fun hk =>
      h (.flag .discardCachedCapabilitiesFlag) (.inl ⟨rfl, hk⟩)
    have hdsa : k = 2 → v.flag .discardDsaCacheFlag = v'.flag .discardDsaCacheFlag := fun hk =>
      h (.flag .discardDsaCacheFlag) (.inr ⟨rfl, hk⟩)
    rw [startCmd_type, startCmd_type, hwork]
    congr 1
    · by_cases hk : k = 0
      · rw [hcap hk]
      · rw [decide_eq_false hk, Bool.false_and, Bool.false_and]
    · by_cases hk : k = 2
      · rw [hdsa hk]
      · rw [decide_eq_false hk, Bool.false_and, Bool.false_and]
  | _ =>
    rw [startCmd, startCmd, setDiscardedCaches_get (by simp) (by simp), setDiscardedCaches_get (by simp) (by simp)]
    exact storedCmd_same (by simp) (by simp) h

theorem optionsCmd_same {r r' : IdentifierParse} (hflag : ∀ k, p ≠ .flag k) (h : Alike v v' p)
    (hpdid : parseDisplayIdentifier b.enableUsb (displayArgs v) = .ok r) (hok : r.parsingOk = true)
    (hpdid' : parseDisplayIdentifier b.enableUsb (displayArgs v') = .ok r') (hok' : r'.parsingOk = true) :
    (optionsCmd b parserMode v r.pdid).get p = (optionsCmd b parserMode v' r'.pdid).get p := by
  refine watchLoopsChange_same h _ _ (tuningsChange_same h _ _ (floatsChange_same hflag h _ _ ?_))
  refine argumentsChange_same h _ _ (pdid_same hpdid hok hpdid' hok' h _ _ ?_)
  exact givenChange_same h (failsimFnWork_framed b) _ _ (startCmd_same hflag h)

/-! ## Accepted command lines -/

def Accepted (b : Build) (parserMode : ParserMode) (v : Vars) (cmdAndArgs : List (List Byte)) (c : ParsedCmd) : Prop :=
  ∃ msgs, parseCommand b parserMode v cmdAndArgs = .ok (.returned (some c) msgs)

variable {cmdAndArgs : List (List Byte)} {c c' : ParsedCmd}

theorem takeArguments_ok {st : Parse} (h : (takeArguments parserMode v st).parsingOk = true) : st.parsingOk = true ∧
    (Takes (v.str .i2cSourceAddrWork) parseI2cSourceAddr) ∧
      ∀ n, Takes (v.str (.i n)) (setCmdFlagI n) := by
  obtain ⟨h, hints⟩ := (takeGiven_foldl_ok _ _ _ _).1 h
  obtain ⟨h, haddr⟩ := takeGiven_ok.1 h
  obtain ⟨h, -⟩ := take_ok.1 h
  obtain ⟨h, -⟩ := takeGiven_ok.1 h
  obtain ⟨h, -⟩ := takeGiven_ok.1 h
  exact ⟨h, haddr, fun n => hints n (List.mem_finRange n)⟩

theorem takeTunings_ok {st : Parse} (h : (takeTunings b v st).parsingOk = true) : st.parsingOk = true ∧
    Takes (v.str .sleepMultiplierWork) parseSleepMultiplierWork := by
  obtain ⟨h, -⟩ := take_ok.1 h
  obtain ⟨h, -⟩ := take_ok.1 h
  obtain ⟨h, -⟩ := take_ok.1 h
  obtain ⟨h, -⟩ := takeGiven_ok.1 h
  obtain ⟨h, hsleep⟩ := takeGiven_ok.1 h
  refine ⟨?_, hsleep⟩
  split at h
  · exact (take_ok.1 h).1
  · exact h

theorem takeWatchLoops_ok {st : Parse} (h : (takeWatchLoops b v st).parsingOk = true) : st.parsingOk = true := by
  unfold takeWatchLoops at h
  cases hwatch : b.watchDisplays <;> cases hx11 : b.useX11 <;> simp_all [take_ok]

theorem checkOptions_cmd (st : Parse) : (checkOptions b parserMode v st).cmd = st.cmd := by
  simp only [checkOptions, libddcutilOnlyOption, failIf_cmd, warnIf_cmd]

theorem parseOptions_ok {st : Parse} (h : parseOptions b parserMode v = .ok st) (hok : st.parsingOk = true) : ∃ r,
    parseDisplayIdentifier b.enableUsb (displayArgs v) = .ok r ∧ r.parsingOk = true ∧ ArgumentsTaken b v ∧
      st.cmd = tuningsChange b v (floatsChange v (argumentsChange parserMode v
        { givenChange (v.str .failsimFnWork) (parseFailsimFn b) (startCmd b parserMode v) with pdid := r.pdid })) := by
  obtain ⟨st₁, hdisplay, h⟩ := bind_eq_ok.1 h
  obtain ⟨r, hr, hdisplay⟩ := bind_eq_ok.1 hdisplay
  cases hdisplay
  cases h
  obtain ⟨hfloats, hsleep⟩ := takeTunings_ok hok
  obtain ⟨hfl1ok, hfl2⟩ := takeGiven_ok.1 hfloats
  obtain ⟨harguments, hfl1⟩ := takeGiven_ok.1 hfl1ok
  obtain ⟨hboth, haddr, hints⟩ := takeArguments_ok harguments
  obtain ⟨hfailsimok, hrok⟩ := Bool.and_eq_true_iff.1 hboth
  refine ⟨r, hr, hrok, ⟨(takeGiven_ok.1 hfailsimok).2, haddr, hints, hfl1, hfl2, hsleep⟩, ?_⟩
  rw [takeTunings_cmd, takeFloats_cmd, takeArguments_cmd, takeGiven_cmd, Parse.change, checkOptions_cmd]
  rfl

theorem accepted_options (h : Accepted b parserMode v cmdAndArgs c) : ∃ r st st',
    parseDisplayIdentifier b.enableUsb (displayArgs v) = .ok r ∧ r.parsingOk = true ∧ ArgumentsTaken b v ∧
      st.cmd = optionsCmd b parserMode v r.pdid ∧ takeCommand b parserMode cmdAndArgs st = .ok st' ∧
      st'.parsingOk = true ∧ st'.cmd = c := by
  obtain ⟨msgs, h⟩ := h
  obtain ⟨st₀, hoptions, h⟩ := bind_eq_ok.1 h
  by_cases hversion : v.flag .versionFlag = true ∧ cmdAndArgs = []
  · rw [if_pos hversion] at h; cases h
  · rw [if_neg hversion] at h
    obtain ⟨st', htake, h⟩ := bind_eq_ok.1 h
    have hreturned := (ParseEnd.returned.inj (Except.ok.inj h)).1
    split at hreturned
    · rename_i hend
      cases hreturned
      have hok : st'.parsingOk = true := by simp only [Bool.and_eq_true] at hend; exact hend.1.1
      have hst := takeWatchLoops_ok (takeCommand_ok htake hok).1
      obtain ⟨r, hr, hrok, htaken, hcmd⟩ := parseOptions_ok hoptions hst
      refine ⟨r, takeWatchLoops b v st₀, st', hr, hrok, htaken, ?_, htake, hok, rfl⟩
      rw [takeWatchLoops_cmd, hcmd, optionsCmd]
    · cases hreturned

theorem not_controls_command (l : Loc) : ¬ l.Controls .command := by
  intro h
  cases l with
  | int x => cases x <;> cases h
  | str x => cases x <;> rcases h with h | h <;> cases h
  | strs x => cases x <;> cases h
  | discardedCache k => rcases h with h | h <;> cases h
  | _ => cases h

theorem accepted_same (h : Accepted b parserMode v cmdAndArgs c) (h' : Accepted b parserMode v' cmdAndArgs c')
    (hflag : ∀ k, p ≠ .flag k) (hvars : Alike v v' p) : c.get p = c'.get p := by
  obtain ⟨r, st, end₁, hr, hrok, -, hst, htake, hok, rfl⟩ := accepted_options h
  obtain ⟨r', st', end₂, hr', hrok', -, hst', htake', hok', rfl⟩ := accepted_options h'
  have hcommand : Alike v v' .command := fun l hl => absurd hl (not_controls_command l)
  refine takeCommand_same htake hok htake' hok' ?_ ?_
  · rw [hst, hst']; exact optionsCmd_same (by simp) hcommand hr hrok hr' hrok'
  · rw [hst, hst']; exact optionsCmd_same hflag hvars hr hrok hr' hrok'

theorem accepted_flag (h : Accepted b parserMode v cmdAndArgs c) (k : Nat) : c.get (.flag k) =
    (flagTaken b v k && !(decide (k = 10) && decide (commandId b cmdAndArgs = some cmdidVcpinfo)) &&
      !(decide (k = 18) && decide (commandId b cmdAndArgs = some cmdidGetvcp))) := by
  obtain ⟨r, st, st', -, -, htaken, hst, htake, hok, rfl⟩ := accepted_options h
  rw [takeCommand_flag htake hok, hst, optionsCmd_flag htaken]

structure Unparsed (p : Part) : Prop where
  str : ∀ x, ¬ (Loc.str x).Controls p
  int : ∀ x, ¬ (Loc.int x).Controls p
  strs : ∀ x, ¬ (Loc.strs x).Controls p

theorem Unparsed.arguments (hp : Unparsed p) : (argumentsChange parserMode v c).get p = c.get p := by
  have hints : ∀ (l : List (Fin 16)) (c : ParsedCmd),
      (l.foldl (fun c n => givenChange (v.str (.i n)) (setCmdFlagI n) c) c).get p = c.get p := by
    intro l
    induction l with
    | nil => exact fun c => rfl
    | cons n l ih => exact fun c => (ih _).trans (givenChange_keeps (setCmdFlagI_framed n) (hp.str _) _ c)
  unfold argumentsChange
  rw [hints, givenChange_keeps i2cSourceAddrWork_framed (hp.str _), (syslogWork_framed _ _).keeps _ (hp.str _),
    givenChange_keeps mccswork_framed (hp.str _), givenChange_keeps maxtrywork_framed (hp.str _)]

theorem Unparsed.floats (hp : Unparsed p) (hflag : ∀ k, p ≠ .flag k) : (floatsChange v c).get p = c.get p := by
  have hfl1 : ∀ c : ParsedCmd, (givenChange (v.str .fl1Work) parseFl1 c).get p = c.get p := by
    intro c
    cases v.str .fl1Work with
    | none => rfl
    | some s => exact (fl1_get s hflag).2 (fun h => hp.str .fl1Work (.inl h)) c
  have hfl2 : ∀ c : ParsedCmd, (givenChange (v.str .fl2Work) parseFl2 c).get p = c.get p := by
    intro c
    cases v.str .fl2Work with
    | none => rfl
    | some s => exact (fl2_get s hflag).2 (fun h => hp.str .fl2Work (.inl h)) c
  exact (hfl2 _).trans (hfl1 c)

theorem Unparsed.tunings (hp : Unparsed p) : (tuningsChange b v c).get p = c.get p := by
  rw [tuningsChange, (traceClasses_framed _).keeps _ (hp.strs _), (edidReadSizeWork_framed _).keeps _ (hp.int _),
    (watchModeWork_framed _ _).keeps _ (hp.str _), givenChange_keeps minDynamicSleepWork_framed (hp.str _),
    givenChange_keeps sleepMultiplierWork_framed (hp.str _)]
  split
  · exact (ignoredVidPid_framed _).keeps _ (hp.strs _) c
  · rfl

theorem unparsed_ddcCheckAsyncMin : Unparsed .ddcCheckAsyncMin where
  str x h := by cases x <;> rcases h with h | h <;> cases h
  int x h := by cases x <;> cases h
  strs x h := by cases x <;> cases h

theorem accepted_ddcCheckAsyncMin (h : Accepted b parserMode v cmdAndArgs c) :
    c.ddcCheckAsyncMin = v.ddcCheckAsyncMin := by
  obtain ⟨r, st, st', -, -, -, hst, htake, hok, rfl⟩ := accepted_options h
  have hp := unparsed_ddcCheckAsyncMin
  have hkeep : (optionsCmd b parserMode v r.pdid).get .ddcCheckAsyncMin =
      (startCmd b parserMode v).get .ddcCheckAsyncMin := by
    rw [optionsCmd, watchLoopsChange_keeps (hp.int _) (hp.int _), hp.tunings, hp.floats (by simp), hp.arguments]
    exact givenChange_keeps (failsimFnWork_framed b) (hp.str _) _ _
  have hstart : (startCmd b parserMode v).get .ddcCheckAsyncMin = v.ddcCheckAsyncMin :=
    setDiscardedCaches_get (by simp) (by simp)
  have hcommand : st'.cmd.get .ddcCheckAsyncMin = st.cmd.get .ddcCheckAsyncMin :=
    takeCommand_keeps htake hok fun h => h
  exact hcommand.trans (hst ▸ hkeep.trans hstart)

end

end Ddc.Cmd
