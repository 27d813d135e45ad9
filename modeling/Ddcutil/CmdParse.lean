import Ddcutil.CmdArguments
/-!
# CmdParse — from the variables to the parsed command (cmd_parser_goption.c, cmd_parser_aux.c)

What `parse_command` does when the option parser has come back: the flags are set in the two words, the arguments are
parsed, and then the command.  An error does not end the function; it is noted, with its messages, and the parsed
command is freed in the end.
-/
namespace Ddc.Cmd

open Kit

structure Parse where
  cmd : ParsedCmd
  errmsgs : List (List Byte)
  parsingOk : Bool

def Parse.change (st : Parse) (f : ParsedCmd → ParsedCmd) : Parse := { st with cmd := f st.cmd }

def Parse.emit (st : Parse) (msgs : List (List Byte)) : Parse := { st with errmsgs := st.errmsgs ++ msgs }

def Parse.fail (st : Parse) (msgs : List (List Byte)) : Parse := { st.emit msgs with parsingOk := false }

def Parse.warnIf (st : Parse) (h : Bool) (msgs : List (List Byte)) : Parse := if h then st.emit msgs else st

def Parse.failIf (st : Parse) (h : Bool) (msgs : List (List Byte)) : Parse := if h then st.fail msgs else st

def Parse.take (st : Parse) : ArgResult → Parse
  | .ok f => st.change f
  | .error msgs => st.fail msgs

def Parse.takeGiven (st : Parse) (work : Option (List Byte)) (parse : List Byte → ArgResult) : Parse :=
  match work with
  | none => st
  | some s => st.take (parse s)

/-! ## The options that need no parsing -/

section
variable (b : Build) (parserMode : ParserMode) (v : Vars)

/-- **The flags as they are set in the words**: `--force` stands for another option, and `verify_flag` is found from two
options. -/
def Vars.on : FlagVar → Bool
  | .allowUnrecognizedFeatureFlag => if v.flag .forceFlag then true else v.flag .allowUnrecognizedFeatureFlag
  | .verifyFlag => if v.flag .verifySetFlag then true else if v.flag .noverifySetFlag then false else true
  | x => v.flag x

def rwoFlagCt : Nat := [v.flag .rwOnlyFlag, v.flag .roOnlyFlag, v.flag .woOnlyFlag].count true

def libddcutilOnlyOption (name : String) (val : Bool) (st : Parse) : Parse :=
  st.failIf (val && parserMode == .ddcutil) [ascii "libddcutil only option: " ++ ascii name]

def checkOptions (st : Parse) : Parse :=
  let st := st.failIf (decide (1 < rwoFlagCt v)) [ascii "Options -rw-only, --ro-only, --wo-only are mutually exclusive"]
  let st := st.warnIf (v.flag .reduceSleepsSpecified)
    [ascii "Deprecated option ignored: --enable-sleep-less, --disable-sleep-less, etc."]
  let st := st.warnIf (v.flag .timeoutI2cIoFlag) [ascii "Deprecated option ignored: --timeout-i2c-io"]
  let st := st.warnIf (v.flag .forceFlag) [ascii "Deprecated option --force:  Use --permit-unknown-feature"]
  let st := st.warnIf (v.flag .enableCdFlag) [ascii "Warning: Experimental display information caching enabled"]
  let st := st.warnIf (v.flag .asyncFlag) [ascii "Deprecated option ignored: --async.",
    ascii "Use --i2c-bus-checks-async-min (experimental) or --ddc-checks-async-min"]
  let st := st.failIf (v.flag .verifySetFlag && v.flag .noverifySetFlag)
    [ascii "Both --verify and --noverify specified"]
  let st := libddcutilOnlyOption parserMode "--trcapi" (v.strs .tracedApiCalls != []) st
  let st := libddcutilOnlyOption parserMode "--profile-api" (v.flag .profileApiFlag) st
  let st := libddcutilOnlyOption parserMode "--libddcutil-trace-file" (v.str .traceDestination).isSome st
  let st := libddcutilOnlyOption parserMode "--disable-watch-displays"
    (b.watchDisplays && !v.flag .enableWatchDisplays) st
  libddcutilOnlyOption parserMode "--disable-api" (v.flag .disableApiFlag) st

def cmdFlagSettings : List (Setting 64 FlagVar) := [
  ⟨cmdFlagVerboseStats, .verboseStats, false⟩,
  ⟨cmdFlagInternalStats, .internalStats, false⟩,
  ⟨cmdFlagDdcdata, .ddcFlag, false⟩,
  ⟨cmdFlagForceSlaveAddr, .forceSlaveFlag, false⟩,
  ⟨cmdFlagTimestampTrace, .timestampTraceFlag, false⟩,
  ⟨cmdFlagWalltimeTrace, .wallTimestampTraceFlag, false⟩,
  ⟨cmdFlagThreadIdTrace, .threadIdTraceFlag, false⟩,
  ⟨cmdFlagProcessIdTrace, .processIdTraceFlag, false⟩,
  ⟨cmdFlagVerify, .verifyFlag, false⟩,
  ⟨cmdFlagReportFreedExcp, .reportFreedExcpFlag, false⟩,
  ⟨cmdFlagNotable, .notableFlag, false⟩,
  ⟨cmdFlagShowUnsupported, .showUnsupportedFlag, false⟩,
  ⟨cmdFlagRwOnly, .rwOnlyFlag, false⟩,
  ⟨cmdFlagRoOnly, .roOnlyFlag, false⟩,
  ⟨cmdFlagWoOnly, .woOnlyFlag, false⟩,
  ⟨cmdFlagForceUnrecognizedVcpCode, .allowUnrecognizedFeatureFlag, false⟩,
  ⟨cmdFlagEnableUdf, .enableUdfFlag, true⟩] ++
  (if b.enableUsb then [⟨cmdFlagEnableUsb, .enableUsbFlag, false⟩] else []) ++ [
  ⟨cmdFlagDsa2, .enableDsa2Flag, false⟩,
  ⟨cmdFlagDeferSleeps, .deferredSleepFlag, false⟩] ++
  (if b.watchDisplays then [⟨cmdFlagWatchDisplayEvents, .enableWatchDisplays, false⟩] else []) ++ [
  ⟨cmdFlagDisableApi, .disableApiFlag, false⟩,
  ⟨cmdFlagX52NoFifo, .x52NoFifoFlag, false⟩,
  ⟨cmdFlagShowSettings, .showSettingsFlag, false⟩,
  ⟨cmdFlagI2cIoFileio, .i2cIoFileioFlag, false⟩,
  ⟨cmdFlagI2cIoIoctl, .i2cIoIoctlFlag, false⟩,
  ⟨cmdFlagQuick, .quickFlag, false⟩,
  ⟨cmdFlagMock, .mockDataFlag, false⟩,
  ⟨cmdFlagProfileApi, .profileApiFlag, false⟩,
  ⟨cmdFlagTraceToSyslogOnly, .traceToSyslogOnlyFlag, false⟩,
  ⟨cmdFlagStatsToSyslog, .statsToSyslogOnlyFlag, false⟩,
  ⟨cmdFlagNullMsgIndicatesUnsupportedFeature, .nullMsgForUnsupportedFlag, false⟩,
  ⟨cmdFlagHeuristicUnsupportedFeatures, .enableHeuristicUnsupportedFlag, false⟩,
  ⟨cmdFlagSkipDdcChecks, .skipDdcChecksFlag, false⟩,
  ⟨cmdFlagFlock, .enableFlockFlag, false⟩,
  ⟨cmdFlagEnableTracedFunctionStack, .enableTfsFlag, false⟩,
  ⟨cmdFlagTracedFunctionStackErrorsFatal, .tracedFunctionStackErrorsFatalFlag, false⟩,
  ⟨cmdFlagTryGetEdidFromSysfs, .tryGetEdidFromSysfs, true⟩,
  ⟨cmdFlagEnableCachedCapabilities, .enableCcFlag, true⟩,
  ⟨cmdFlagEnableCachedDisplays, .enableCdFlag, true⟩]

def cmdFlag2Settings : List (Setting 64 FlagVar) := (List.finRange 32).map fun n => ⟨cmdFlag2F n, .f n, false⟩

def setFlags (c : ParsedCmd) : ParsedCmd :=
  { c with
    outputLevel := v.outputLevel
    statsTypes := v.statsWork
    ignoredHiddevs := v.ignoredHiddevWork
    flags := settle v.on (cmdFlagSettings b) c.flags
    flags2 := settle v.on cmdFlag2Settings c.flags2 }

def discardCaches (c : ParsedCmd) (types : BitVec 8) : ParsedCmd :=
  { c with discardedCacheTypes := types, flags := c.flags ||| cmdFlagDiscardCaches }

def setDiscardedCaches (c : ParsedCmd) : ParsedCmd :=
  let c := if v.discardedCachesWork ≠ 0 then discardCaches c v.discardedCachesWork else c
  let c := if v.flag .discardCachedCapabilitiesFlag then discardCaches c (c.discardedCacheTypes ||| 0x01) else c
  if v.flag .discardDsaCacheFlag then discardCaches c (c.discardedCacheTypes ||| 0x04) else c

def parseFailsimFn (failsimFnWork : List Byte) : ArgResult :=
  if b.enableFailsim then
    .ok fun c => { c with flags := c.flags ||| cmdFlagEnableFailsim, failsimControlFn := some failsimFnWork }
  else .error [ascii "ddcutil not built with failure simulation support.  --failsim option invalid."]

def displayArgs : DisplayArgs where
  dispwork := (v.int .dispwork).toInt
  buswork := (v.int .buswork).toInt
  hidwork := (v.int .hidwork).toInt
  usbwork := v.str .usbwork
  edidwork := v.str .edidwork
  mfgIdWork := v.str .mfgIdWork
  modelwork := v.str .modelwork
  snwork := v.str .snwork

def takeDisplayIdentifier (st : Parse) : Exec Parse := do
  let r ← parseDisplayIdentifier b.enableUsb (displayArgs v)
  .ok ⟨{ st.cmd with pdid := r.pdid }, st.errmsgs ++ r.errmsgs, st.parsingOk && r.parsingOk⟩

def takeArguments (st : Parse) : Parse :=
  let st := st.takeGiven (v.str .maxtrywork) parseMaxtrywork
  let st := st.takeGiven (v.str .mccswork) parseMccswork
  let st := st.take (parseSyslogWork (v.str .syslogWork) parserMode)
  let st := st.takeGiven (v.str .i2cSourceAddrWork) parseI2cSourceAddr
  (List.finRange 16).foldl (fun st n => st.takeGiven (v.str (.i n)) (setCmdFlagI n)) st

def takeFloats (st : Parse) : Parse :=
  (st.takeGiven (v.str .fl1Work) parseFl1).takeGiven (v.str .fl2Work) parseFl2

def takeTunings (st : Parse) : Parse :=
  let st := if b.enableUsb then st.take (parseIgnoredVidPid (v.strs .ignoredVidPid)) else st
  let st := st.takeGiven (v.str .sleepMultiplierWork) parseSleepMultiplierWork
  let st := st.takeGiven (v.str .minDynamicSleepWork) parseMinDynamicSleepWork
  let st := st.take (parseWatchMode b.useX11 (v.str .watchModeWork))
  let st := st.take (parseEdidReadSize (v.int .edidReadSizeWork))
  st.take (parseTraceClasses (v.strs .traceClasses))

def takeWatchLoops (st : Parse) : Parse :=
  let st := if b.watchDisplays && b.useX11 then st.take (parseXeventWatchLoop (v.int .xeventWatchLoopMillisWork)) else st
  if b.watchDisplays then st.take (parsePollWatchLoop (v.int .pollWatchLoopMillisWork)) else st

/-! ## The command -/

structure CmdDesc where
  cmdId : CmdIdType
  cmdName : List Byte
  minchars : Nat
  minArgCt : Nat
  maxArgCt : Nat
  explicitDisplay : Bool

def cmdidSetvcp : CmdIdType := 0x0008
def cmdidProbe : CmdIdType := 0x8000
def cmdidDiscardCache : CmdIdType := 0x020000

def cmdinfo : List CmdDesc := [
  ⟨0x0001, ascii "detect", 3, 0, 0, false⟩,
  ⟨0x0002, ascii "capabilities", 3, 0, 0, true⟩,
  ⟨cmdidGetvcp, ascii "getvcp", 3, 1, 50, true⟩,
  ⟨cmdidSetvcp, ascii "setvcp", 3, 2, 100, true⟩,
  ⟨0x0010, ascii "listvcp", 5, 0, 0, false⟩] ++
  (if b.includeTestcases then [
    ⟨0x0020, ascii "testcase", 3, 1, 1, false⟩,
    ⟨0x0040, ascii "listtests", 5, 0, 0, false⟩] else []) ++ [
  ⟨0x0080, ascii "loadvcp", 3, 1, 1, true⟩,
  ⟨0x0100, ascii "dumpvcp", 3, 0, 1, true⟩] ++
  (if b.enableEnvcmds then [
    ⟨0x0200, ascii "interrogate", 3, 0, 0, false⟩,
    ⟨0x0400, ascii "environment", 3, 0, 0, false⟩,
    ⟨0x0800, ascii "usbenvironment", 6, 0, 0, false⟩] else []) ++ [
  ⟨cmdidVcpinfo, ascii "vcpinfo", 5, 0, 50, false⟩,
  ⟨0x2000, ascii "watch", 3, 0, 0, true⟩,
  ⟨0x4000, ascii "chkusbmon", 3, 1, 1, false⟩,
  ⟨cmdidProbe, ascii "probe", 5, 0, 0, true⟩,
  ⟨0x010000, ascii "scs", 3, 0, 0, true⟩,
  ⟨cmdidDiscardCache, ascii "discard", 4, 1, 2, false⟩,
  ⟨0x040000, ascii "traceable-functions", 2, 0, 0, false⟩,
  ⟨0x080000, ascii "noop", 2, 0, 9, false⟩,
  ⟨0x080000, ascii "c0", 2, 0, 0, false⟩,
  ⟨0x100000, ascii "c1", 2, 0, 9, false⟩,
  ⟨0x200000, ascii "c2", 2, 0, 9, false⟩,
  ⟨0x400000, ascii "c3", 2, 0, 9, false⟩,
  ⟨0x800000, ascii "c4", 2, 0, 9, false⟩]

def findCommand (cmd : List Byte) : Option CmdDesc :=
  ((cmdinfo b).filter fun desc => isAbbrev cmd desc.cmdName desc.minchars).getLast?

def takeArgs (desc : CmdDesc) (args : List (List Byte)) (st : Parse) : Parse :=
  let st := st.failIf (decide (desc.maxArgCt < args.length)) [ascii "Too many arguments"]
  let st := st.change fun c => { c with cmdId := desc.cmdId, args := args.take desc.maxArgCt }
  st.failIf (decide (args.length < desc.minArgCt)) [ascii "Missing argument(s)"]

def takeFeatures (st : Parse) : Exec Parse :=
  if st.parsingOk = true ∧ (st.cmd.cmdId = cmdidVcpinfo ∨ st.cmd.cmdId = cmdidGetvcp) then do
    match ← parseFeatureIdsOrSubset st.cmd.cmdId st.cmd.args with
    | some fref => .ok (st.change fun c => { c with fref := some fref })
    | none => .ok (st.fail [ascii "Invalid feature code(s) or subset: " ++ joinWith (ascii " ") st.cmd.args])
  else .ok st

def clearNotable (st : Parse) : Parse :=
  if st.parsingOk = true ∧ st.cmd.cmdId = cmdidVcpinfo then
    st.change fun c => { c with flags := c.flags &&& ~~~cmdFlagNotable }
  else st

def discardArg : List (List Byte) → Option (BitVec 8)
  | [arg] => if isAbbrev arg (ascii "CACHES") 5 = true then some 0xff else none
  | [arg, caches] =>
    if isAbbrev caches (ascii "CACHES") 5 = false then none
    else if isAbbrev arg (ascii "CAPABILITIES") 3 = true then some 0x01
    else if isAbbrev arg (ascii "DSA") 3 = true then some 0x04
    else if isAbbrev arg (ascii "ALL") 3 = true then some 0xff
    else none
  | _ => none

def parseDiscardArgs (st : Parse) : Exec Parse := do
  check (st.cmd.args.length = 1 ∨ st.cmd.args.length = 2)
  let args := st.cmd.args.map strdupUc
  let st := st.change fun c => { c with args := args }
  match discardArg args with
  | some types => .ok (st.change fun c => { c with discardedCacheTypes := types })
  | none => .ok (st.fail
      [ascii "Unrecognized DISCARD argument(s): " ++ args.headD [] ++ ascii " " ++ (args[1]?).getD []])

def takeDiscardArgs (st : Parse) : Exec Parse :=
  if st.parsingOk = true ∧ st.cmd.cmdId = cmdidDiscardCache then parseDiscardArgs st else .ok st

def clearWoOnly (st : Parse) : Parse :=
  if st.parsingOk = true ∧ st.cmd.cmdId = cmdidGetvcp ∧ st.cmd.flags &&& cmdFlagWoOnly ≠ 0 then
    st.change fun c => { c with flags := c.flags &&& ~~~cmdFlagWoOnly }
  else st

def setvcpArgs : List (List Byte) → Except (List Byte) (List ParsedSetvcpArgs)
  | [] => .ok []
  | code :: args =>
    match anyOneByteHexStringToByteInBuf code with
    | none => .error (ascii "Invalid feature code: " ++ code)
    | some featureCode =>
      match args with
      | [] => .error (ascii "Missing feature value")
      | value :: rest =>
        if value = ascii "+" ∨ value = ascii "-" then
          match rest with
          | [] => .error (ascii "Missing feature value")
          | amount :: rest =>
            let valueType := if value = ascii "+" then .relativePlus else .relativeMinus
            (setvcpArgs rest).map fun l => ⟨featureCode, valueType, amount⟩ :: l
        else (setvcpArgs rest).map fun l => ⟨featureCode, .absolute, value⟩ :: l

def takeSetvcpArgs (st : Parse) : Parse :=
  if st.parsingOk = true ∧ st.cmd.cmdId = cmdidSetvcp then
    match setvcpArgs st.cmd.args with
    | .ok values => st.change fun c => { c with setvcpValues := values }
    | .error msg => st.fail [msg]
  else st

def checkExplicitDisplay (desc : CmdDesc) (st : Parse) : Parse :=
  st.failIf (st.parsingOk && st.cmd.pdid.isSome && !desc.explicitDisplay)
    [desc.cmdName ++ ascii " does not support explicit display option"]

def takeRecognized (desc : CmdDesc) (args : List (List Byte)) (st : Parse) : Exec Parse := do
  let st ← takeFeatures (takeArgs desc args st)
  let st ← takeDiscardArgs (clearNotable st)
  .ok (checkExplicitDisplay desc (takeSetvcpArgs (clearWoOnly st)))

def takeCommand (cmdAndArgs : List (List Byte)) (st : Parse) : Exec Parse :=
  match cmdAndArgs with
  | [] => .ok (st.failIf (st.parsingOk && parserMode == .ddcutil) [ascii "No command specified"])
  | cmd :: args =>
    if parserMode = .libddcutil then .ok (st.fail [ascii "Unrecognized: " ++ cmd])
    else if st.parsingOk then
      match findCommand b cmd with
      | none => .ok (st.fail [ascii "Unrecognized ddcutil command: " ++ cmd])
      | some desc => takeRecognized desc args st
    else .ok st

def validateOutputLevel (c : ParsedCmd) : Bool := !(c.cmdId == cmdidProbe && c.outputLevel == .terse)

/-! ## The whole function -/

/-- How the function ends: the process exits, or the function returns a parsed command or NULL. -/
inductive ParseEnd where
  | exited
  | returned (parsedCmd : Option ParsedCmd) (errmsgs : List (List Byte))

def storedCmd : ParsedCmd :=
  { newParsedCmd parserMode with
    ddcDisabled := v.strs .ddcDisabled
    tracedApiCalls := v.strs .tracedApiCalls
    tracedFunctions := v.strs .tracedFunctions
    tracedCalls := v.strs .tracedCalls
    tracedFiles := v.strs .tracedFiles
    traceDestination := v.str .traceDestination
    s := fun n => v.str (.s n)
    i2cBusCheckAsyncMin := v.i2cBusCheckAsyncMin
    ddcCheckAsyncMin := v.ddcCheckAsyncMin }

def parseOptions : Exec Parse := do
  let st := checkOptions b parserMode v ⟨storedCmd parserMode v, [], true⟩
  let st := st.change fun c => setDiscardedCaches v (setFlags b v c)
  let st ← takeDisplayIdentifier b v (st.takeGiven (v.str .failsimFnWork) (parseFailsimFn b))
  .ok (takeTunings b v (takeFloats v (takeArguments parserMode v st)))

def parseCommand (cmdAndArgs : List (List Byte)) : Exec ParseEnd := do
  let st ← parseOptions b parserMode v
  if v.flag .versionFlag = true ∧ cmdAndArgs = [] then .ok .exited
  else
    let st ← takeCommand b parserMode cmdAndArgs (takeWatchLoops b v st)
    let ok := st.parsingOk && validateOutputLevel st.cmd
    .ok (.returned (if ok && !v.flag .parseOnlyFlag then some st.cmd else none) st.errmsgs)

end

end Ddc.Cmd
