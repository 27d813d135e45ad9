import Ddcutil.CmdControls
/-!
# CmdFrame — what one option more changes in the parsed command (cmd_parser_goption.c)

Two command lines, one of which has one option more, are parsed side by side.
-/
namespace Ddc.Cmd

open Kit List

/-! ## Steps that are noted -/

section
variable {st : Parse} {r : ArgResult} {work : Option (List Byte)} {parse : List Byte → ArgResult}

def givenChange (work : Option (List Byte)) (parse : List Byte → ArgResult) (c : ParsedCmd) : ParsedCmd :=
  match work with
  | none => c
  | some s => (parse s).change c

def Takes (work : Option (List Byte)) (parse : List Byte → ArgResult) : Prop :=
  ∀ s, work = some s → ∃ f, parse s = .ok f

@[simp] theorem take_cmd : (st.take r).cmd = r.change st.cmd := by
  cases r <;> rfl

@[simp] theorem takeGiven_cmd : (st.takeGiven work parse).cmd = givenChange work parse st.cmd := by
  cases work with
  | none => rfl
  | some s => exact take_cmd

@[simp] theorem failIf_cmd (h : Bool) (msgs : List (List Byte)) : (st.failIf h msgs).cmd = st.cmd := by
  cases h <;> rfl

@[simp] theorem warnIf_cmd (h : Bool) (msgs : List (List Byte)) : (st.warnIf h msgs).cmd = st.cmd := by
  cases h <;> rfl

@[simp] theorem failIf_ok {h : Bool} {msgs : List (List Byte)} :
    (st.failIf h msgs).parsingOk = true ↔ st.parsingOk = true ∧ h = false := by
  cases h <;> simp [Parse.failIf, Parse.fail]

theorem take_ok : (st.take r).parsingOk = true ↔ st.parsingOk = true ∧ ∃ f, r = .ok f := by
  cases r with
  | ok f => exact ⟨fun h => ⟨h, f, rfl⟩, fun h => h.1⟩
  | error msgs =>
    constructor
    · intro h; cases h
    · rintro ⟨-, f, hf⟩
      cases hf

theorem takeGiven_ok : (st.takeGiven work parse).parsingOk = true ↔
    st.parsingOk = true ∧ Takes work parse := by
  cases work with
  | none => exact ⟨fun h => ⟨h, fun s hs => by cases hs⟩, fun h => h.1⟩
  | some s =>
    refine take_ok.trans (and_congr_right fun _ => ⟨fun h t ht => ?_, fun h => h s rfl⟩)
    cases ht; exact h

end

/-! ## Two runs -/

def Alike (v v' : Vars) (p : Part) : Prop := ∀ l : Loc, l.Controls p → v.get l = v'.get l

section
variable {v v' : Vars} {p : Part}

theorem givenChange_keeps {parse : List Byte → ArgResult} {W : Part → Prop}
    (h : ∀ s, WithinFrame ParsedCmd.get (parse s).change W) (hp : ¬ W p) (work : Option (List Byte)) (c : ParsedCmd) :
    (givenChange work parse c).get p = c.get p := by
  cases work with
  | none => rfl
  | some s => exact (h s).keeps p hp c

theorem givenChange_same {parse : List Byte → ArgResult} {x : StrVar} (h : Alike v v' p)
    (hframed : ∀ s, WithinFrame ParsedCmd.get (parse s).change (Loc.str x).Controls) :
    SameAt ParsedCmd.get (givenChange (v.str x) parse) (givenChange (v'.str x) parse) p := by
  by_cases hx : (Loc.str x).Controls p
  · have hstr : v.str x = v'.str x := h (.str x) hx
    rw [← hstr]
    cases v.str x with
    | none => exact fun c d hcd => hcd
    | some s => exact (hframed s).sameAt p
  · intro c d hcd
    rw [givenChange_keeps hframed hx, givenChange_keeps hframed hx, hcd]

theorem change_same (l : Loc) (parse : l.Value → ArgResult) (h : Alike v v' p)
    (hframed : ∀ x, WithinFrame ParsedCmd.get (parse x).change l.Controls) :
    SameAt ParsedCmd.get (parse (v.get l)).change (parse (v'.get l)).change p := by
  by_cases hl : l.Controls p
  · rw [← h l hl]; exact (hframed _).sameAt p
  · exact .of_keeps (hframed _) (hframed _) hl hl

end

/-! ## The options that are parsed -/

section
variable {b : Build} {parserMode : ParserMode} {v v' : Vars} {p : Part} {st : Parse}

def argumentsChange (parserMode : ParserMode) (v : Vars) (c : ParsedCmd) : ParsedCmd :=
  let c := givenChange (v.str .mccswork) parseMccswork (givenChange (v.str .maxtrywork) parseMaxtrywork c)
  let c := (parseSyslogWork (v.str .syslogWork) parserMode).change c
  let c := givenChange (v.str .i2cSourceAddrWork) parseI2cSourceAddr c
  (List.finRange 16).foldl (fun c n => givenChange (v.str (.i n)) (setCmdFlagI n) c) c

theorem takeGiven_foldl_cmd {α : Type} (work : α → Option (List Byte)) (parse : α → List Byte → ArgResult)
    (l : List α) (st : Parse) : (l.foldl (fun st a => st.takeGiven (work a) (parse a)) st).cmd =
      l.foldl (fun c a => givenChange (work a) (parse a) c) st.cmd := by
  induction l generalizing st with
  | nil => rfl
  | cons a l ih => rw [foldl_cons, ih, takeGiven_cmd, foldl_cons]

theorem takeGiven_foldl_ok {α : Type} (work : α → Option (List Byte)) (parse : α → List Byte → ArgResult)
    (l : List α) (st : Parse) : (l.foldl (fun st a => st.takeGiven (work a) (parse a)) st).parsingOk = true ↔
      st.parsingOk = true ∧ ∀ a ∈ l, Takes (work a) (parse a) := by
  induction l generalizing st with
  | nil => simp
  | cons a l ih => rw [foldl_cons, ih, takeGiven_ok, forall_mem_cons, and_assoc]

theorem takeArguments_cmd : (takeArguments parserMode v st).cmd = argumentsChange parserMode v st.cmd := by
  rw [takeArguments, argumentsChange, takeGiven_foldl_cmd, takeGiven_cmd, take_cmd, takeGiven_cmd, takeGiven_cmd]

theorem argumentsChange_same (h : Alike v v' p) :
    SameAt ParsedCmd.get (argumentsChange parserMode v) (argumentsChange parserMode v') p := by
  intro c d hcd
  refine SameAt.foldl (fun n => givenChange_same h (setCmdFlagI_framed n)) _ _ _ ?_
  refine givenChange_same h i2cSourceAddrWork_framed _ _ ?_
  refine change_same (.str .syslogWork) (fun work => parseSyslogWork work parserMode) h
    (fun work => syslogWork_framed work parserMode) _ _ ?_
  exact givenChange_same h mccswork_framed _ _ (givenChange_same h maxtrywork_framed _ _ hcd)

def floatsChange (v : Vars) (c : ParsedCmd) : ParsedCmd :=
  givenChange (v.str .fl2Work) parseFl2 (givenChange (v.str .fl1Work) parseFl1 c)

theorem takeFloats_cmd : (takeFloats v st).cmd = floatsChange v st.cmd := by
  rw [takeFloats, takeGiven_cmd, takeGiven_cmd, floatsChange]

theorem float_same {parse : List Byte → ArgResult} (x : StrVar) (p₀ : Part)
    (hparse : ∀ s, SameAt ParsedCmd.get (parse s).change (parse s).change p ∧
      (p ≠ p₀ → ∀ c, ((parse s).change c).get p = c.get p)) (hx : (Loc.str x).Controls p₀) (h : Alike v v' p) :
    SameAt ParsedCmd.get (givenChange (v.str x) parse) (givenChange (v'.str x) parse) p := by
  by_cases hp : p = p₀
  · subst hp
    have hstr : v.str x = v'.str x := h (.str x) hx
    rw [← hstr]
    cases v.str x with
    | none => exact fun c d hcd => hcd
    | some s => exact (hparse s).1
  · have hkeeps : ∀ work, ∀ c : ParsedCmd, (givenChange work parse c).get p = c.get p := by
      intro work c
      cases work with
      | none => rfl
      | some s => exact (hparse s).2 hp c
    intro c d hcd
    rw [hkeeps, hkeeps, hcd]

theorem floatsChange_same (hflag : ∀ k, p ≠ .flag k) (h : Alike v v' p) :
    SameAt ParsedCmd.get (floatsChange v) (floatsChange v') p := by
  intro c d hcd
  refine float_same .fl2Work .fl2 (fun s => fl2_get s hflag) (.inl rfl) h _ _ ?_
  exact float_same .fl1Work .fl1 (fun s => fl1_get s hflag) (.inl rfl) h c d hcd

def tuningsChange (b : Build) (v : Vars) (c : ParsedCmd) : ParsedCmd :=
  let c := if b.enableUsb then (parseIgnoredVidPid (v.strs .ignoredVidPid)).change c else c
  let c := givenChange (v.str .sleepMultiplierWork) parseSleepMultiplierWork c
  let c := givenChange (v.str .minDynamicSleepWork) parseMinDynamicSleepWork c
  let c := (parseWatchMode b.useX11 (v.str .watchModeWork)).change c
  let c := (parseEdidReadSize (v.int .edidReadSizeWork)).change c
  (parseTraceClasses (v.strs .traceClasses)).change c

theorem takeTunings_cmd : (takeTunings b v st).cmd = tuningsChange b v st.cmd := by
  rw [takeTunings, tuningsChange, take_cmd, take_cmd, take_cmd, takeGiven_cmd, takeGiven_cmd]
  cases b.enableUsb with
  | true => rw [if_pos rfl, if_pos rfl, take_cmd]
  | false => rw [if_neg Bool.false_ne_true, if_neg Bool.false_ne_true]

theorem tuningsChange_same (h : Alike v v' p) : SameAt ParsedCmd.get (tuningsChange b v) (tuningsChange b v') p := by
  intro c d hcd
  refine change_same (.strs .traceClasses) parseTraceClasses h traceClasses_framed _ _ ?_
  refine change_same (.int .edidReadSizeWork) parseEdidReadSize h edidReadSizeWork_framed _ _ ?_
  refine change_same (.str .watchModeWork) (parseWatchMode b.useX11) h (watchModeWork_framed b.useX11) _ _ ?_
  refine givenChange_same h minDynamicSleepWork_framed _ _ (givenChange_same h sleepMultiplierWork_framed _ _ ?_)
  cases b.enableUsb with
  | true => exact change_same (.strs .ignoredVidPid) parseIgnoredVidPid h ignoredVidPid_framed c d hcd
  | false => exact hcd

def watchLoopsChange (b : Build) (v : Vars) (c : ParsedCmd) : ParsedCmd :=
  let c := if b.watchDisplays && b.useX11 then (parseXeventWatchLoop (v.int .xeventWatchLoopMillisWork)).change c else c
  if b.watchDisplays then (parsePollWatchLoop (v.int .pollWatchLoopMillisWork)).change c else c

theorem takeWatchLoops_cmd : (takeWatchLoops b v st).cmd = watchLoopsChange b v st.cmd := by
  unfold takeWatchLoops watchLoopsChange
  cases b.watchDisplays <;> cases b.useX11 <;> simp

theorem watchLoopsChange_keeps (hx : ¬ (Loc.int .xeventWatchLoopMillisWork).Controls p)
    (hpoll : ¬ (Loc.int .pollWatchLoopMillisWork).Controls p) (c : ParsedCmd) :
    (watchLoopsChange b v c).get p = c.get p := by
  unfold watchLoopsChange
  cases b.watchDisplays with
  | false => rfl
  | true =>
    cases b.useX11 with
    | false => exact (pollWatchLoop_framed _).keeps _ hpoll c
    | true => exact ((pollWatchLoop_framed _).keeps _ hpoll _).trans ((xeventWatchLoop_framed _).keeps _ hx c)

theorem watchLoopsChange_same (h : Alike v v' p) :
    SameAt ParsedCmd.get (watchLoopsChange b v) (watchLoopsChange b v') p := by
  intro c d hcd
  have hx := change_same (.int .xeventWatchLoopMillisWork) parseXeventWatchLoop h xeventWatchLoop_framed
  have hpoll := change_same (.int .pollWatchLoopMillisWork) parsePollWatchLoop h pollWatchLoop_framed
  unfold watchLoopsChange
  cases b.watchDisplays with
  | false => exact hcd
  | true =>
    cases b.useX11 with
    | false => exact hpoll c d hcd
    | true => exact hpoll _ _ (hx c d hcd)

end

/-! ## The display in the parsed command

`pdid` is put together from eight variables, but where there is no error no more than one option is counted.  So each of
the things that it can identify a display with comes from the option of its own kind and from no other
(`part_of_pdid`).
-/

inductive DisplayKind where
  | dispno | busno | hiddev | usb | edid | monser

def kindOf : DisplayIdentifier → DisplayKind
  | .dispno _ => .dispno
  | .busno _ => .busno
  | .hiddev _ => .hiddev
  | .usb _ _ => .usb
  | .edid _ => .edid
  | .monser _ _ _ => .monser

def optionKind : DisplayOption → DisplayKind
  | .dispno _ => .dispno
  | .busno _ => .busno
  | .hiddev _ => .hiddev
  | .usb _ => .usb
  | .edid _ => .edid
  | .monitor _ _ _ => .monser

def countedNumber (option : Int → DisplayOption) (work : Int) : Option DisplayOption :=
  if 0 ≤ work then some (option work) else none

def countedMonitor (mfgId modelName serialAscii : Option (List Byte)) : Option DisplayOption :=
  if mfgId.isSome = true ∨ modelName.isSome = true ∨ serialAscii.isSome = true then
    some (.monitor mfgId modelName serialAscii) else none

def countedOption (enableUsb : Bool) (a : DisplayArgs) : DisplayKind → Option DisplayOption
  | .dispno => countedNumber .dispno a.dispwork
  | .busno => countedNumber .busno a.buswork
  | .hiddev => if enableUsb then countedNumber .hiddev a.hidwork else none
  | .usb => if enableUsb then a.usbwork.map .usb else none
  | .edid => a.edidwork.map .edid
  | .monser => countedMonitor a.mfgIdWork a.modelwork a.snwork

section
variable {enableUsb : Bool} {a : DisplayArgs} {r : IdentifierParse} {w : DisplayOption}

theorem countedNumber_eq_some {option : Int → DisplayOption} {work : Int} :
    countedNumber option work = some w ↔ w = option work ∧ 0 ≤ work := by
  unfold countedNumber
  split
  · simp_all [eq_comm]
  · simp_all

theorem mem_givenNumber_iff {option : Int → DisplayOption} {work : Int} :
    w ∈ givenNumber option work ↔ w = option work ∧ work ≠ -1 := by
  unfold givenNumber
  split
  · simp_all
  · simp_all

theorem mem_counted_iff : w ∈ a.counted enableUsb ↔ countedOption enableUsb a (optionKind w) = some w := by
  unfold DisplayArgs.counted DisplayArgs.given givenMonitor
  simp only [mem_filter, mem_append, mem_givenNumber_iff]
  -- a number below -1 is given but not counted
  have hnumber : ∀ n work : Int, (n = work ∧ work ≠ -1) ∧ 0 ≤ n ↔ n = work ∧ 0 ≤ work := by omega
  cases w with
  | dispno n =>
    simpa [optionKind, countedOption, countedNumber_eq_some, DisplayOption.counts] using hnumber n a.dispwork
  | busno n =>
    simpa [optionKind, countedOption, countedNumber_eq_some, DisplayOption.counts] using hnumber n a.buswork
  | hiddev n =>
    cases enableUsb with
    | false => simp [optionKind, countedOption, DisplayOption.counts]
    | true =>
      simpa [optionKind, countedOption, countedNumber_eq_some, DisplayOption.counts] using hnumber n a.hidwork
  | usb s => cases enableUsb <;> simp [optionKind, countedOption, DisplayOption.counts]
  | edid s => simp [optionKind, countedOption, DisplayOption.counts]
  | monitor mfgId modelName serialAscii =>
    simp only [optionKind, countedOption, countedMonitor, DisplayOption.counts]
    split <;> simp [eq_comm]

theorem countedOption_kind {kind : DisplayKind} (h : countedOption enableUsb a kind = some w) : optionKind w = kind := by
  cases kind with
  | dispno | busno => rw [(countedNumber_eq_some.1 h).1]; rfl
  | hiddev =>
    cases enableUsb with
    | false => cases h
    | true => rw [(countedNumber_eq_some.1 h).1]; rfl
  | usb =>
    cases enableUsb with
    | false => cases h
    | true =>
      obtain ⟨s, -, rfl⟩ := Option.map_eq_some_iff.1 h
      rfl
  | edid =>
    obtain ⟨s, -, rfl⟩ := Option.map_eq_some_iff.1 h
    rfl
  | monser =>
    have hmonitor : countedMonitor a.mfgIdWork a.modelwork a.snwork = some w := h
    unfold countedMonitor at hmonitor
    split at hmonitor
    · cases hmonitor; rfl
    · cases hmonitor

theorem taken_kind {pdid : DisplayIdentifier} (h : w.taken = some pdid) : kindOf pdid = optionKind w := by
  cases w with
  | usb s =>
    obtain ⟨bus, device, -, rfl⟩ := usbIdentifier_iff.1 h
    rfl
  | edid s =>
    obtain ⟨edidbytes, rfl, -⟩ := edidIdentifier_iff.1 h
    rfl
  | _ =>
    cases h; rfl

theorem accepted_pdid (h : parseDisplayIdentifier enableUsb a = .ok r) (hok : r.parsingOk = true) :
    (∀ w ∈ a.counted enableUsb, r.pdid = w.taken) ∧ (a.counted enableUsb = [] → r.pdid = none) := by
  obtain ⟨st, hst, htook⟩ := @Took.all enableUsb a (fits_of_returns h)
  rw [h] at hst
  cases hst
  have hle : st.explicitDisplaySpecCt ≤ 1 := by
    by_contra hlt
    have hfalse := (checkSpecCt_of_lt (Nat.lt_of_not_le hlt)).1
    exact absurd (hok.symm.trans hfalse) Bool.true_eq_false.mp
  rw [checkSpecCt_of_le hle, htook.pdid_eq]
  rw [htook.ct_eq] at hle
  rcases hcounted : a.counted enableUsb with _ | ⟨w, _ | ⟨w', rest⟩⟩
  · exact ⟨fun w hw => absurd hw not_mem_nil, fun _ => rfl⟩
  · refine ⟨fun w' hw' => ?_, fun hnil => by cases hnil⟩
    obtain rfl := mem_singleton.1 hw'
    cases htaken : w'.taken with
    | none => rw [filterMap_cons_none htaken]; rfl
    | some pdid => rw [filterMap_cons_some htaken]; rfl
  · rw [hcounted] at hle; exact absurd hle (by simp)

theorem part_of_pdid {α : Type} (part : Option DisplayIdentifier → α) (kind : DisplayKind)
    (hpart : ∀ pdid, kindOf pdid ≠ kind → part (some pdid) = part none)
    (h : parseDisplayIdentifier enableUsb a = .ok r) (hok : r.parsingOk = true) :
    part r.pdid = part ((countedOption enableUsb a kind).bind DisplayOption.taken) := by
  obtain ⟨hcounted, hnone⟩ := accepted_pdid h hok
  cases hwork : countedOption enableUsb a kind with
  | some w =>
    have hw : w ∈ a.counted enableUsb := mem_counted_iff.2 ((countedOption_kind hwork).symm ▸ hwork)
    rw [hcounted w hw, Option.bind_some]
  | none =>
    cases hpdid : r.pdid with
    | none => rfl
    | some pdid =>
      refine hpart pdid fun hkind => ?_
      rcases hlist : a.counted enableUsb with _ | ⟨w, rest⟩
      · rw [hnone hlist] at hpdid; cases hpdid
      · have hw : w ∈ a.counted enableUsb := hlist ▸ mem_cons_self
        rw [hcounted w hw] at hpdid
        have hsome := mem_counted_iff.1 hw
        rw [← taken_kind hpdid, hkind, hwork] at hsome; cases hsome

/-! ## Two runs -/

variable {v v' : Vars} {p : Part} {r' : IdentifierParse}

theorem part_same {α : Type} (part : Option DisplayIdentifier → α) (kind : DisplayKind) {a' : DisplayArgs}
    (hpart : ∀ pdid, kindOf pdid ≠ kind → part (some pdid) = part none)
    (h : parseDisplayIdentifier enableUsb a = .ok r) (hok : r.parsingOk = true)
    (h' : parseDisplayIdentifier enableUsb a' = .ok r') (hok' : r'.parsingOk = true)
    (hsame : countedOption enableUsb a kind = countedOption enableUsb a' kind) : part r.pdid = part r'.pdid := by
  rw [part_of_pdid part kind hpart h hok, part_of_pdid part kind hpart h' hok', hsame]

theorem monserOf_pdid (h : parseDisplayIdentifier enableUsb a = .ok r) (hok : r.parsingOk = true) :
    monserOf r.pdid = (a.mfgIdWork.getD [], a.modelwork.getD [], a.snwork.getD []) := by
  have hpart : ∀ pdid, kindOf pdid ≠ .monser → monserOf (some pdid) = monserOf none := by
    intro pdid hkind
    cases pdid <;> first | rfl | exact absurd rfl hkind
  rw [part_of_pdid monserOf .monser hpart h hok]
  change monserOf ((countedMonitor a.mfgIdWork a.modelwork a.snwork).bind DisplayOption.taken) = _
  unfold countedMonitor
  split
  · rfl
  · rename_i hgiven
    simp only [not_or, Option.not_isSome_iff_eq_none] at hgiven
    rw [hgiven.1, hgiven.2.1, hgiven.2.2]; rfl

theorem pdid_same (h : parseDisplayIdentifier enableUsb (displayArgs v) = .ok r) (hok : r.parsingOk = true)
    (h' : parseDisplayIdentifier enableUsb (displayArgs v') = .ok r') (hok' : r'.parsingOk = true)
    (hvars : Alike v v' p) :
    SameAt ParsedCmd.get (fun c => { c with pdid := r.pdid }) (fun c => { c with pdid := r'.pdid }) p := by
  intro c d hcd
  have hstr : ∀ x, (Loc.str x).Controls p → v.str x = v'.str x := fun x => hvars (.str x)
  have hint : ∀ x, (Loc.int x).Controls p → v.int x = v'.int x := fun x => hvars (.int x)
  cases p with
  | dispno =>
    refine part_same dispnoOf .dispno (fun pdid hkind => ?_) h hok h' hok' ?_
    · cases pdid <;> first | rfl | exact absurd rfl hkind
    · simp only [countedOption, displayArgs, hint .dispwork rfl]
  | busno =>
    refine part_same busnoOf .busno (fun pdid hkind => ?_) h hok h' hok' ?_
    · cases pdid <;> first | rfl | exact absurd rfl hkind
    · simp only [countedOption, displayArgs, hint .buswork rfl]
  | hiddev =>
    refine part_same hiddevOf .hiddev (fun pdid hkind => ?_) h hok h' hok' ?_
    · cases pdid <;> first | rfl | exact absurd rfl hkind
    · simp only [countedOption, displayArgs, hint .hidwork rfl]
  | usb =>
    refine part_same usbOf .usb (fun pdid hkind => ?_) h hok h' hok' ?_
    · cases pdid <;> first | rfl | exact absurd rfl hkind
    · simp only [countedOption, displayArgs, hstr .usbwork rfl]
  | edid =>
    refine part_same edidOf .edid (fun pdid hkind => ?_) h hok h' hok' ?_
    · cases pdid <;> first | rfl | exact absurd rfl hkind
    · simp only [countedOption, displayArgs, hstr .edidwork rfl]
  | mfgId =>
    change (monserOf r.pdid).1 = (monserOf r'.pdid).1
    rw [monserOf_pdid h hok, monserOf_pdid h' hok', displayArgs, displayArgs, hstr .mfgIdWork rfl]
  | modelName =>
    change (monserOf r.pdid).2.1 = (monserOf r'.pdid).2.1
    rw [monserOf_pdid h hok, monserOf_pdid h' hok', displayArgs, displayArgs, hstr .modelwork rfl]
  | serialAscii =>
    change (monserOf r.pdid).2.2 = (monserOf r'.pdid).2.2
    rw [monserOf_pdid h hok, monserOf_pdid h' hok', displayArgs, displayArgs, hstr .snwork rfl]
  | _ => exact hcd

end

end Ddc.Cmd
