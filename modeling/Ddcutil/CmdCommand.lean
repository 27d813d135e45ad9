import Ddcutil.CmdFlags
/-!
# CmdCommand — the command and its arguments (cmd_parser_goption.c)

When the options are parsed the command is looked up and its arguments are taken.  What that changes in the parsed command
depends on the command line and not on any option (`FromCommand`), and of the flags it clears no more than one
(`takeCommand_flag`).
-/
namespace Ddc.Cmd

open Kit Exec

def OfCommand : Part → Prop
  | .command | .flag _ | .discardedCache _ => True
  | _ => False

/-- **A step that looks at the command and its arguments and at nothing else.** -/
structure FromCommand (f : ParsedCmd → ParsedCmd) : Prop where
  keeps : ∀ p, ¬ OfCommand p → ∀ c, (f c).get p = c.get p
  follows : ∀ c d, c.get .command = d.get .command → ∀ p, c.get p = d.get p → (f c).get p = (f d).get p

section
variable {f g : ParsedCmd → ParsedCmd}

theorem FromCommand.id : FromCommand fun c => c := ⟨fun _ _ _ => rfl, fun _ _ _ _ hp => hp⟩

theorem FromCommand.comp (hg : FromCommand g) (hf : FromCommand f) : FromCommand fun c => g (f c) where
  keeps p hp c := (hg.keeps p hp (f c)).trans (hf.keeps p hp c)
  follows c d h p hp := hg.follows _ _ (hf.follows c d h .command h) p (hf.follows c d h p hp)

theorem command_eq {c d : ParsedCmd} (h : c.get .command = d.get .command) :
    c.parserMode = d.parserMode ∧ c.args = d.args ∧ c.cmdId = d.cmdId ∧ c.setvcpValues = d.setvcpValues ∧
      c.fref = d.fref := by
  have h' : (c.parserMode, c.args, c.cmdId, c.setvcpValues, c.fref) =
      (d.parserMode, d.args, d.cmdId, d.setvcpValues, d.fref) := h
  simpa only [Prod.mk.injEq] using h'

theorem command_of_eq {c d : ParsedCmd} (hmode : c.parserMode = d.parserMode) (hargs : c.args = d.args)
    (hcmdId : c.cmdId = d.cmdId) (hvalues : c.setvcpValues = d.setvcpValues) (hfref : c.fref = d.fref) :
    c.get .command = d.get .command := by
  change (c.parserMode, c.args, c.cmdId, c.setvcpValues, c.fref) =
    (d.parserMode, d.args, d.cmdId, d.setvcpValues, d.fref)
  rw [hmode, hargs, hcmdId, hvalues, hfref]

def onCommand (step : CmdIdType → List (List Byte) → ParsedCmd → ParsedCmd) (c : ParsedCmd) : ParsedCmd :=
  step c.cmdId c.args c

theorem FromCommand.of_const {step : CmdIdType → List (List Byte) → ParsedCmd → ParsedCmd}
    (h : ∀ cmdId args, FromCommand (step cmdId args)) : FromCommand (onCommand step) := by
  refine ⟨fun p hp c => (h c.cmdId c.args).keeps p hp c, fun c d hcd p hp => ?_⟩
  obtain ⟨-, hargs, hcmdId, -, -⟩ := command_eq hcd
  rw [onCommand, hargs, hcmdId]; exact (h _ _).follows c d hcd p hp

end

/-! ## The steps -/

def argsStep (desc : CmdDesc) (args : List (List Byte)) (c : ParsedCmd) : ParsedCmd :=
  { c with cmdId := desc.cmdId, args := args.take desc.maxArgCt }

def featuresStep (cmdId : CmdIdType) (args : List (List Byte)) (c : ParsedCmd) : ParsedCmd :=
  if cmdId = cmdidVcpinfo ∨ cmdId = cmdidGetvcp then
    match parseFeatureIdsOrSubset cmdId args with
    | .ok (some fref) => { c with fref := some fref }
    | _ => c
  else c

def notableStep (cmdId : CmdIdType) (_ : List (List Byte)) (c : ParsedCmd) : ParsedCmd :=
  if cmdId = cmdidVcpinfo then { c with flags := c.flags &&& ~~~cmdFlagNotable } else c

def discardStep (cmdId : CmdIdType) (args : List (List Byte)) (c : ParsedCmd) : ParsedCmd :=
  if cmdId = cmdidDiscardCache then
    match discardArg (args.map strdupUc) with
    | some types => { c with args := args.map strdupUc, discardedCacheTypes := types }
    | none => c
  else c

def woOnlyStep (cmdId : CmdIdType) (_ : List (List Byte)) (c : ParsedCmd) : ParsedCmd :=
  if cmdId = cmdidGetvcp then { c with flags := c.flags &&& ~~~cmdFlagWoOnly } else c

def setvcpStep (cmdId : CmdIdType) (args : List (List Byte)) (c : ParsedCmd) : ParsedCmd :=
  if cmdId = cmdidSetvcp then
    match setvcpArgs args with
    | .ok values => { c with setvcpValues := values }
    | .error _ => c
  else c

theorem FromCommand.of_command {f : ParsedCmd → ParsedCmd} (hkeeps : ∀ p, p ≠ .command → ∀ c, (f c).get p = c.get p)
    (hcommand : ∀ c d, c.get .command = d.get .command → (f c).get .command = (f d).get .command) : FromCommand f where
  keeps p hp := hkeeps p fun h => hp (h ▸ trivial)
  follows c d hcd p hp := by
    by_cases h : p = .command
    · subst h; exact hcommand c d hcd
    · rw [hkeeps p h, hkeeps p h, hp]

theorem argsStep_fromCommand (desc : CmdDesc) (args : List (List Byte)) : FromCommand (argsStep desc args) := by
  refine .of_command (fun p hp c => by cases p <;> first | rfl | exact absurd rfl hp) fun c d hcd => ?_
  obtain ⟨hmode, -, -, hvalues, hfref⟩ := command_eq hcd
  exact command_of_eq hmode rfl rfl hvalues hfref

section
variable (cmdId : CmdIdType) (args : List (List Byte))

theorem featuresStep_fromCommand : FromCommand (featuresStep cmdId args) := by
  unfold featuresStep
  split
  · split
    · refine .of_command (fun p hp c => by cases p <;> first | rfl | exact absurd rfl hp) fun c d hcd => ?_
      obtain ⟨hmode, hargs, hcmdId, hvalues, -⟩ := command_eq hcd
      exact command_of_eq hmode hargs hcmdId hvalues rfl
    · exact .id
  · exact .id

theorem setvcpStep_fromCommand : FromCommand (setvcpStep cmdId args) := by
  unfold setvcpStep
  split
  · split
    · refine .of_command (fun p hp c => by cases p <;> first | rfl | exact absurd rfl hp) fun c d hcd => ?_
      obtain ⟨hmode, hargs, hcmdId, -, hfref⟩ := command_eq hcd
      exact command_of_eq hmode hargs hcmdId rfl hfref
    · exact .id
  · exact .id

theorem discardStep_fromCommand : FromCommand (discardStep cmdId args) := by
  unfold discardStep
  split
  · split
    · refine ⟨fun p hp c => by cases p <;> first | rfl | exact absurd trivial hp, fun c d hcd p hp => ?_⟩
      obtain ⟨hmode, -, hcmdId, hvalues, hfref⟩ := command_eq hcd
      cases p with
      | command => exact command_of_eq hmode rfl hcmdId hvalues hfref
      | discardedCache k => rfl
      | _ => exact hp
    · exact .id
  · exact .id

end

theorem clearFlags_fromCommand (mask : BitVec 64) : FromCommand fun c => { c with flags := c.flags &&& ~~~mask } := by
  refine ⟨fun p hp c => by cases p <;> first | rfl | exact absurd trivial hp, fun c d hcd p hp => ?_⟩
  cases p with
  | flag k =>
    change (c.flags &&& ~~~mask).getLsbD k = (d.flags &&& ~~~mask).getLsbD k
    rw [BitVec.getLsbD_and, BitVec.getLsbD_and]; exact congrArg (· && _) hp
  | _ => exact hp

theorem notableStep_fromCommand (cmdId : CmdIdType) (args : List (List Byte)) :
    FromCommand (notableStep cmdId args) := by
  unfold notableStep
  split
  · exact clearFlags_fromCommand cmdFlagNotable
  · exact .id

theorem woOnlyStep_fromCommand (cmdId : CmdIdType) (args : List (List Byte)) :
    FromCommand (woOnlyStep cmdId args) := by
  unfold woOnlyStep
  split
  · exact clearFlags_fromCommand cmdFlagWoOnly
  · exact .id

/-! ## What is done where there is no error -/

section
variable {b : Build} {parserMode : ParserMode} {st st' : Parse} {desc : CmdDesc} {args : List (List Byte)}

theorem takeArgs_cmd : (takeArgs desc args st).cmd = argsStep desc args st.cmd := by
  rw [takeArgs, failIf_cmd, Parse.change, failIf_cmd, argsStep]

theorem takeArgs_ok (h : (takeArgs desc args st).parsingOk = true) : st.parsingOk = true :=
  (failIf_ok.1 (failIf_ok.1 h).1).1

theorem takeFeatures_ok (h : takeFeatures st = .ok st') (hok : st'.parsingOk = true) :
    st.parsingOk = true ∧ st'.cmd = onCommand featuresStep st.cmd := by
  unfold takeFeatures at h
  unfold onCommand featuresStep
  by_cases hcond : st.parsingOk = true ∧ (st.cmd.cmdId = cmdidVcpinfo ∨ st.cmd.cmdId = cmdidGetvcp)
  · rw [if_pos hcond] at h
    rw [if_pos hcond.2]
    obtain ⟨fref, hfref, h⟩ := bind_eq_ok.1 h
    rw [hfref]
    cases fref with
    | none =>
      cases h; cases hok
    | some fref =>
      cases h; exact ⟨hok, rfl⟩
  · rw [if_neg hcond] at h
    cases h
    rw [if_neg fun hid => hcond ⟨hok, hid⟩]; exact ⟨hok, rfl⟩

theorem clearNotable_ok (hok : (clearNotable st).parsingOk = true) :
    st.parsingOk = true ∧ (clearNotable st).cmd = onCommand notableStep st.cmd := by
  unfold clearNotable at hok ⊢
  unfold onCommand notableStep
  by_cases hcond : st.parsingOk = true ∧ st.cmd.cmdId = cmdidVcpinfo
  · rw [if_pos hcond, if_pos hcond.2]; exact ⟨hcond.1, rfl⟩
  · rw [if_neg hcond] at hok ⊢
    rw [if_neg fun hid => hcond ⟨hok, hid⟩]; exact ⟨hok, rfl⟩

theorem takeDiscardArgs_ok (h : takeDiscardArgs st = .ok st') (hok : st'.parsingOk = true) :
    st.parsingOk = true ∧ st'.cmd = onCommand discardStep st.cmd := by
  unfold takeDiscardArgs parseDiscardArgs at h
  unfold onCommand discardStep
  by_cases hcond : st.parsingOk = true ∧ st.cmd.cmdId = cmdidDiscardCache
  · rw [if_pos hcond] at h
    rw [if_pos hcond.2]
    obtain ⟨_, -, h⟩ := bind_eq_ok.1 h
    dsimp only at h
    cases htypes : discardArg (st.cmd.args.map strdupUc) with
    | none =>
      rw [htypes] at h
      cases h; cases hok
    | some types =>
      rw [htypes] at h
      cases h; exact ⟨hok, rfl⟩
  · rw [if_neg hcond] at h
    cases h
    rw [if_neg fun hid => hcond ⟨hok, hid⟩]; exact ⟨hok, rfl⟩

theorem and_not_of_and_eq_zero {word mask : BitVec 64} (h : word &&& mask = 0) : word &&& ~~~mask = word := by
  refine BitVec.eq_of_getLsbD_eq fun k hk => ?_
  have hbit := congrArg (fun x => x.getLsbD k) h
  simp only [BitVec.getLsbD_and, BitVec.getLsbD_not, hk, decide_true, Bool.true_and] at hbit ⊢
  cases hword : word.getLsbD k with
  | false => rfl
  | true =>
    rw [hword, Bool.true_and] at hbit
    have hzero : (0 : BitVec 64).getLsbD k = false := BitVec.getLsbD_zero
    rw [hbit, hzero]; rfl

theorem clearWoOnly_ok (hok : (clearWoOnly st).parsingOk = true) :
    st.parsingOk = true ∧ (clearWoOnly st).cmd = onCommand woOnlyStep st.cmd := by
  unfold clearWoOnly at hok ⊢
  unfold onCommand woOnlyStep
  by_cases hcond : st.parsingOk = true ∧ st.cmd.cmdId = cmdidGetvcp ∧ st.cmd.flags &&& cmdFlagWoOnly ≠ 0
  · rw [if_pos hcond, if_pos hcond.2.1]; exact ⟨hcond.1, rfl⟩
  · rw [if_neg hcond] at hok ⊢
    refine ⟨hok, ?_⟩
    split
    · rename_i hid
      have hzero : st.cmd.flags &&& cmdFlagWoOnly = 0 := not_not.1 fun hne => hcond ⟨hok, hid, hne⟩
      rw [and_not_of_and_eq_zero hzero]
    · rfl

theorem takeSetvcpArgs_ok (hok : (takeSetvcpArgs st).parsingOk = true) :
    st.parsingOk = true ∧ (takeSetvcpArgs st).cmd = onCommand setvcpStep st.cmd := by
  unfold takeSetvcpArgs at hok ⊢
  unfold onCommand setvcpStep
  by_cases hcond : st.parsingOk = true ∧ st.cmd.cmdId = cmdidSetvcp
  · rw [if_pos hcond] at hok ⊢
    rw [if_pos hcond.2]
    cases hvalues : setvcpArgs st.cmd.args with
    | error msg =>
      rw [hvalues] at hok; cases hok
    | ok values => exact ⟨hcond.1, rfl⟩
  · rw [if_neg hcond] at hok ⊢
    rw [if_neg fun hid => hcond ⟨hok, hid⟩]; exact ⟨hok, rfl⟩

def commandStep (desc : CmdDesc) (args : List (List Byte)) (c : ParsedCmd) : ParsedCmd :=
  let c := onCommand notableStep (onCommand featuresStep (argsStep desc args c))
  onCommand setvcpStep (onCommand woOnlyStep (onCommand discardStep c))

theorem commandStep_fromCommand (desc : CmdDesc) (args : List (List Byte)) : FromCommand (commandStep desc args) := by
  have hargs := argsStep_fromCommand desc args
  have hfeatures := (FromCommand.of_const featuresStep_fromCommand).comp hargs
  have hnotable := (FromCommand.of_const notableStep_fromCommand).comp hfeatures
  have hdiscard := (FromCommand.of_const discardStep_fromCommand).comp hnotable
  have hwo := (FromCommand.of_const woOnlyStep_fromCommand).comp hdiscard
  exact (FromCommand.of_const setvcpStep_fromCommand).comp hwo

theorem takeRecognized_ok (h : takeRecognized desc args st = .ok st') (hok : st'.parsingOk = true) :
    st.parsingOk = true ∧ st'.cmd = commandStep desc args st.cmd := by
  obtain ⟨st₁, hfeatures, h⟩ := bind_eq_ok.1 h
  obtain ⟨st₂, hdiscard, h⟩ := bind_eq_ok.1 h
  cases h
  have hsetvcp := takeSetvcpArgs_ok (failIf_ok.1 hok).1
  have hwo := clearWoOnly_ok hsetvcp.1
  have hdisc := takeDiscardArgs_ok hdiscard hwo.1
  have hnotable := clearNotable_ok hdisc.1
  have hfeat := takeFeatures_ok hfeatures hnotable.1
  refine ⟨takeArgs_ok hfeat.1, ?_⟩
  rw [checkExplicitDisplay, failIf_cmd, hsetvcp.2, hwo.2, hdisc.2, hnotable.2, hfeat.2, takeArgs_cmd, commandStep]

/-! ## The flags -/

theorem clear_bit (word : BitVec 64) {n : Nat} (hn : n < 64) (k : Nat) :
    (word &&& ~~~BitVec.twoPow 64 n).getLsbD k = (word.getLsbD k && !decide (k = n)) := by
  rw [BitVec.getLsbD_and, BitVec.getLsbD_not, BitVec.getLsbD_twoPow, decide_eq_true hn, Bool.true_and,
    decide_eq_decide.2 (eq_comm (a := n))]
  by_cases hk : k < 64
  · rw [decide_eq_true hk, Bool.true_and]
  · rw [BitVec.getLsbD_of_ge _ _ (Nat.le_of_not_lt hk), Bool.false_and, Bool.false_and]

section
variable (cmdId : CmdIdType) (c : ParsedCmd)

theorem notableStep_flag (k : Nat) :
    (notableStep cmdId args c).get (.flag k) =
      (c.get (.flag k) && !(decide (k = 10) && decide (cmdId = cmdidVcpinfo))) := by
  unfold notableStep
  split
  · rename_i hid
    rw [decide_eq_true hid, Bool.and_true]; exact clear_bit c.flags (n := 10) (by decide) k
  · rename_i hid
    rw [decide_eq_false hid, Bool.and_false, Bool.not_false, Bool.and_true]

theorem woOnlyStep_flag (k : Nat) :
    (woOnlyStep cmdId args c).get (.flag k) =
      (c.get (.flag k) && !(decide (k = 18) && decide (cmdId = cmdidGetvcp))) := by
  unfold woOnlyStep
  split
  · rename_i hid
    rw [decide_eq_true hid, Bool.and_true]; exact clear_bit c.flags (n := 18) (by decide) k
  · rename_i hid
    rw [decide_eq_false hid, Bool.and_false, Bool.not_false, Bool.and_true]

theorem featuresStep_keeps :
    (featuresStep cmdId args c).flags = c.flags ∧ (featuresStep cmdId args c).cmdId = c.cmdId := by
  unfold featuresStep
  split
  · split <;> exact ⟨rfl, rfl⟩
  · exact ⟨rfl, rfl⟩

theorem discardStep_keeps :
    (discardStep cmdId args c).flags = c.flags ∧ (discardStep cmdId args c).cmdId = c.cmdId := by
  unfold discardStep
  split
  · split <;> exact ⟨rfl, rfl⟩
  · exact ⟨rfl, rfl⟩

theorem setvcpStep_keeps : (setvcpStep cmdId args c).flags = c.flags := by
  unfold setvcpStep
  split
  · split <;> rfl
  · rfl

theorem notableStep_cmdId : (notableStep cmdId args c).cmdId = c.cmdId := by
  unfold notableStep
  split <;> rfl

end

theorem commandStep_flag (c : ParsedCmd) (k : Nat) : (commandStep desc args c).get (.flag k) =
    (c.get (.flag k) && !(decide (k = 10) && decide (desc.cmdId = cmdidVcpinfo)) &&
      !(decide (k = 18) && decide (desc.cmdId = cmdidGetvcp))) := by
  have hflag : ∀ {c d : ParsedCmd}, c.flags = d.flags → c.get (.flag k) = d.get (.flag k) :=
    fun h => congrArg (fun word => word.getLsbD k) h
  simp only [commandStep, onCommand]
  rw [hflag (setvcpStep_keeps _ _), woOnlyStep_flag, hflag (discardStep_keeps _ _).1, notableStep_flag,
    hflag (featuresStep_keeps _ _).1, (discardStep_keeps _ _).2, notableStep_cmdId, (featuresStep_keeps _ _).2]
  rfl

/-! ## The command of a line -/

def commandId (b : Build) (cmdAndArgs : List (List Byte)) : Option CmdIdType :=
  cmdAndArgs.head?.bind fun cmd => (findCommand b cmd).map CmdDesc.cmdId

theorem takeCommand_ok {cmdAndArgs : List (List Byte)} (h : takeCommand b parserMode cmdAndArgs st = .ok st')
    (hok : st'.parsingOk = true) : st.parsingOk = true ∧
      ((cmdAndArgs = [] ∧ st'.cmd = st.cmd) ∨ ∃ cmd args desc, cmdAndArgs = cmd :: args ∧
        findCommand b cmd = some desc ∧ st'.cmd = commandStep desc args st.cmd) := by
  unfold takeCommand at h
  cases cmdAndArgs with
  | nil =>
    cases h; exact ⟨(failIf_ok.1 hok).1, .inl ⟨rfl, failIf_cmd _ _⟩⟩
  | cons cmd args =>
    dsimp only at h
    by_cases hmode : parserMode = .libddcutil
    · rw [if_pos hmode] at h
      cases h; cases hok
    · rw [if_neg hmode] at h
      by_cases hst : st.parsingOk = true
      · rw [if_pos hst] at h
        cases hdesc : findCommand b cmd with
        | none =>
          rw [hdesc] at h
          cases h; cases hok
        | some desc =>
          rw [hdesc] at h
          exact ⟨hst, .inr ⟨cmd, args, desc, rfl, hdesc, (takeRecognized_ok h hok).2⟩⟩
      · rw [if_neg hst] at h
        cases h; exact absurd hok hst

theorem takeCommand_flag {cmdAndArgs : List (List Byte)} (h : takeCommand b parserMode cmdAndArgs st = .ok st')
    (hok : st'.parsingOk = true) (k : Nat) : st'.cmd.get (.flag k) =
      (st.cmd.get (.flag k) && !(decide (k = 10) && decide (commandId b cmdAndArgs = some cmdidVcpinfo)) &&
        !(decide (k = 18) && decide (commandId b cmdAndArgs = some cmdidGetvcp))) := by
  obtain ⟨-, ⟨rfl, hcmd⟩ | ⟨cmd, args, desc, rfl, hdesc, hcmd⟩⟩ := takeCommand_ok h hok
  · rw [hcmd]
    simp [commandId]
  · rw [hcmd, commandStep_flag]
    simp [commandId, hdesc]

theorem takeCommand_keeps {cmdAndArgs : List (List Byte)} (h : takeCommand b parserMode cmdAndArgs st = .ok st')
    (hok : st'.parsingOk = true) {p : Part} (hp : ¬ OfCommand p) : st'.cmd.get p = st.cmd.get p := by
  obtain ⟨-, ⟨-, hcmd⟩ | ⟨cmd, args, desc, -, -, hcmd⟩⟩ := takeCommand_ok h hok
  · rw [hcmd]
  · rw [hcmd, (commandStep_fromCommand desc args).keeps p hp]

theorem takeCommand_same {cmdAndArgs : List (List Byte)} {su su' : Parse}
    (h : takeCommand b parserMode cmdAndArgs st = .ok st') (hok : st'.parsingOk = true)
    (hu : takeCommand b parserMode cmdAndArgs su = .ok su') (huok : su'.parsingOk = true)
    (hcommand : st.cmd.get .command = su.cmd.get .command) {p : Part} (hp : st.cmd.get p = su.cmd.get p) :
    st'.cmd.get p = su'.cmd.get p := by
  obtain ⟨-, ⟨rfl, hcmd⟩ | ⟨cmd, args, desc, rfl, hdesc, hcmd⟩⟩ := takeCommand_ok h hok
  · obtain ⟨-, ⟨-, hcmd'⟩ | ⟨_, _, _, hnil, -, -⟩⟩ := takeCommand_ok hu huok
    · rw [hcmd, hcmd', hp]
    · cases hnil
  · obtain ⟨-, ⟨hnil, -⟩ | ⟨_, _, _, heq, hdesc', hcmd'⟩⟩ := takeCommand_ok hu huok
    · cases hnil
    · cases heq
      rw [hdesc] at hdesc'
      cases hdesc'
      rw [hcmd, hcmd']; exact (commandStep_fromCommand desc args).follows _ _ hcommand p hp

end

end Ddc.Cmd
