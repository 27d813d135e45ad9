import Ddcutil.FeatureSetArgs
import Ddcutil.Kit.Frames
/-!
# CmdOptions — the options of the command line (cmd_parser_goption.c)

The tables of `parse_command` tell the option parser of GLib where to store what an option is given.
-/
namespace Ddc.Cmd

open Kit Function

structure Build where
  enableUsb : Bool
  enableFailsim : Bool
  watchDisplays : Bool
  useX11 : Bool
  includeTestcases : Bool
  enableEnvcmds : Bool

inductive ParserMode where
  | ddcutil | libddcutil
  deriving DecidableEq

inductive OutputLevel where
  | terse | normal | verbose | vv
  deriving DecidableEq

/-! ## The variables -/

inductive FlagVar where
  | ddcFlag | forceFlag | allowUnrecognizedFeatureFlag | forceSlaveFlag | showUnsupportedFlag | versionFlag
  | timestampTraceFlag | wallTimestampTraceFlag | threadIdTraceFlag | processIdTraceFlag | verifySetFlag
  | noverifySetFlag | verifyFlag | asyncFlag | reportFreedExcpFlag | notableFlag | rwOnlyFlag | roOnlyFlag
  | woOnlyFlag | enableUdfFlag | enableUsbFlag | timeoutI2cIoFlag | reduceSleepsSpecified | deferredSleepFlag
  | showSettingsFlag | i2cIoFileioFlag | i2cIoIoctlFlag | debugParseFlag | parseOnlyFlag | x52NoFifoFlag
  | enableDsa2Flag | enableTfsFlag | tracedFunctionStackErrorsFatalFlag | enableCcFlag | enableCdFlag
  | enableFlockFlag | quickFlag | mockDataFlag | profileApiFlag | nullMsgForUnsupportedFlag
  | enableHeuristicUnsupportedFlag | traceToSyslogOnlyFlag | statsToSyslogOnlyFlag | disableApiFlag
  | discardCachedCapabilitiesFlag | discardDsaCacheFlag | tryGetEdidFromSysfs | enableWatchDisplays
  | skipDdcChecksFlag | disableConfigFlag | verboseStats | internalStats
  /-- `f1_flag` is number 0. -/
  | f (n : Fin 32)
  deriving DecidableEq

inductive IntVar where
  | dispwork | buswork | hidwork | edidReadSizeWork | xeventWatchLoopMillisWork | pollWatchLoopMillisWork
  deriving DecidableEq

inductive StrVar where
  | usbwork | mfgIdWork | modelwork | snwork | edidwork | mccswork | syslogWork | maxtrywork
  | sleepMultiplierWork | minDynamicSleepWork | i2cSourceAddrWork | watchModeWork | failsimFnWork
  /-- `i1_work` is number 0. -/
  | i (n : Fin 16)
  | fl1Work | fl2Work | traceDestination
  /-- `s1` is number 0. -/
  | s (n : Fin 4)
  deriving DecidableEq

/-- The arrays of strings; all but the first two are fields of the parsed command. -/
inductive ArrayVar where
  | traceClasses | ignoredVidPid | ddcDisabled | tracedApiCalls | tracedFunctions | tracedCalls | tracedFiles
  deriving DecidableEq

/-- **What the option parser stores into**: the variables of `parse_command` and of the callbacks, and the fields of the
parsed command that are given to it. -/
structure Vars where
  flag : FlagVar → Bool
  int : IntVar → BitVec 32
  str : StrVar → Option (List Byte)
  strs : ArrayVar → List (List Byte)
  outputLevel : OutputLevel
  statsWork : BitVec 8
  discardedCachesWork : BitVec 8
  ignoredHiddevWork : BitVec 32
  i2cBusCheckAsyncMin : BitVec 16
  ddcCheckAsyncMin : BitVec 16

structure Statics where
  outputLevel : OutputLevel
  statsWork : BitVec 8
  discardedCachesWork : BitVec 8
  verboseStats : Bool
  internalStats : Bool
  ignoredHiddevWork : BitVec 32

def initialStatics : Statics := ⟨.normal, 0, 0, false, false, 0⟩

def initialFlag (st : Statics) : FlagVar → Bool
  | .notableFlag | .enableUdfFlag | .enableDsa2Flag | .enableCcFlag | .enableFlockFlag
  | .enableHeuristicUnsupportedFlag | .tryGetEdidFromSysfs | .enableWatchDisplays => true
  | .verboseStats => st.verboseStats
  | .internalStats => st.internalStats
  | _ => false

def initialInt : IntVar → BitVec 32
  | .dispwork | .buswork | .hidwork | .edidReadSizeWork => -1
  | .xeventWatchLoopMillisWork => 100
  | .pollWatchLoopMillisWork => 2000

def initialVars (st : Statics) : Vars where
  flag := initialFlag st
  int := initialInt
  str _ := none
  strs _ := []
  outputLevel := st.outputLevel
  statsWork := st.statsWork
  discardedCachesWork := st.discardedCachesWork
  ignoredHiddevWork := st.ignoredHiddevWork
  i2cBusCheckAsyncMin := -1
  ddcCheckAsyncMin := -1

def Vars.setFlag (v : Vars) (x : FlagVar) (value : Bool) : Vars := { v with flag := update v.flag x value }

/-! ## What is stored -/

/-- The type of an option's argument and where it is stored.  An option of type `G_OPTION_ARG_NONE` stores true, or with
`G_OPTION_FLAG_REVERSE` false. -/
inductive ArgData where
  | none (x : FlagVar) (reverse : Bool)
  | int (x : IntVar)
  /-- `G_OPTION_ARG_INT` with `&parsed_cmd->i2c_bus_check_async_min`, an `int16_t`. -/
  | i2cBusCheckAsyncMin | ddcCheckAsyncMin
  | string (x : StrVar)
  | strings (x : ArrayVar)
  | outputArgFunc | statsArgFunc | discardCacheArgFunc | ignoredHiddevArgFunc
  deriving DecidableEq

structure OptionEntry where
  longName : List Byte
  argData : ArgData
  deriving DecidableEq

inductive OptionValue where
  | none
  | int (n : BitVec 32)
  | text (s : List Byte)

def outputLevelOf (optionName : List Byte) : Option OutputLevel :=
  if optionName = ascii "verbose" then some .verbose
  else if optionName = ascii "terse" ∨ optionName = ascii "brief" then some .terse
  else if optionName = ascii "vv" ∨ optionName = ascii "very-verbose" then some .vv
  else none

def outputArgFunc (optionName : List Byte) : Option (Vars → Vars) :=
  (outputLevelOf optionName).map fun level v => { v with outputLevel := level }

def statsTypeOf (v2 : List Byte) : Option (BitVec 8) :=
  if v2 = ascii "ALL" then some 0xff
  else if v2 = ascii "TRY" ∨ isAbbrev v2 (ascii "TRIES") 3 = true then some 0x01
  else if isAbbrev v2 (ascii "CALLS") 3 = true then some 0x04
  else if v2 = ascii "ERRS" ∨ isAbbrev v2 (ascii "ERRORS") 3 = true then some 0x02
  else if isAbbrev v2 (ascii "ELAPSED") 3 = true ∨ isAbbrev v2 (ascii "TIME") 3 = true then some 0x08
  else if v2 = ascii "API" then some 0x10
  else none

/-- The first lines of `stats_arg_func`. -/
def noteStatsOption (optionName : List Byte) (v : Vars) : Vars :=
  if optionName = ascii "vstats" then v.setFlag .verboseStats true
  else if optionName = ascii "istats" then (v.setFlag .verboseStats true).setFlag .internalStats true
  else v

def statsArgFunc (optionName : List Byte) : Option (List Byte) → Option (Vars → Vars)
  | some value => (statsTypeOf (strdupUc value)).map fun bits v =>
    { noteStatsOption optionName v with statsWork := v.statsWork ||| bits }
  | none => some fun v => { noteStatsOption optionName v with statsWork := 0xff }

def cacheTypeOf (v2 : List Byte) : Option (BitVec 8) :=
  if v2 = ascii "ALL" then some 0xff
  else if isAbbrev v2 (ascii "CAPABILITIES") 3 = true then some 0x01
  else if v2 = ascii "DSA" ∨ isAbbrev v2 (ascii "SLEEP") 3 = true then some 0x04
  else none

def discardCacheArgFunc : Option (List Byte) → Option (Vars → Vars)
  | some value => (cacheTypeOf (strdupUc value)).map fun bits v =>
    { v with discardedCachesWork := v.discardedCachesWork ||| bits }
  | none => some fun v => { v with discardedCachesWork := 0xff }

def hiddevNumber (value : List Byte) : Option Nat :=
  match strToInt value 10 with
  | some ival => if ival < 0 ∨ 32 ≤ ival then none else some ival.toNat
  | none => none

def ignoredHiddevArgFunc (value : List Byte) : Option (Vars → Vars) :=
  (hiddevNumber value).map fun n v => { v with ignoredHiddevWork := v.ignoredHiddevWork ||| BitVec.twoPow 32 n }

/-- **What the option parser does with an option**, or `none` where the argument is refused. -/
def OptionEntry.store (e : OptionEntry) : OptionValue → Option (Vars → Vars)
  | .none =>
    match e.argData with
    | .none x reverse => some fun v => v.setFlag x (!reverse)
    | .outputArgFunc => outputArgFunc e.longName
    | .statsArgFunc => statsArgFunc e.longName none
    | .discardCacheArgFunc => discardCacheArgFunc none
    | _ => none
  | .int n =>
    match e.argData with
    | .int x => some fun v => { v with int := update v.int x n }
    -- the second half of the number goes to the field behind
    | .i2cBusCheckAsyncMin => some fun v =>
      { v with i2cBusCheckAsyncMin := n.extractLsb' 0 16, ddcCheckAsyncMin := n.extractLsb' 16 16 }
    -- here that is `watch_mode`, which is set later in any case
    | .ddcCheckAsyncMin => some fun v => { v with ddcCheckAsyncMin := n.extractLsb' 0 16 }
    | _ => none
  | .text s =>
    match e.argData with
    | .string x => some fun v => { v with str := update v.str x (some s) }
    | .strings x => some fun v => { v with strs := update v.strs x (v.strs x ++ [s]) }
    | .statsArgFunc => statsArgFunc e.longName (some s)
    | .discardCacheArgFunc => discardCacheArgFunc (some s)
    | .ignoredHiddevArgFunc => ignoredHiddevArgFunc s
    | _ => none

/-! ## The tables -/

def initialOptions : List OptionEntry := [
  ⟨ascii "verbose", .outputArgFunc⟩,
  ⟨ascii "terse", .outputArgFunc⟩,
  ⟨ascii "brief", .outputArgFunc⟩,
  ⟨ascii "vv", .outputArgFunc⟩,
  ⟨ascii "very-verbose", .outputArgFunc⟩,
  ⟨ascii "settings", .none .showSettingsFlag false⟩,
  ⟨ascii "version", .none .versionFlag false⟩,
  ⟨ascii "noconfig", .none .disableConfigFlag false⟩]

def ddcutilOnlyOptions : List OptionEntry := [
  ⟨ascii "display", .int .dispwork⟩,
  ⟨ascii "dis", .int .dispwork⟩,
  ⟨ascii "bus", .int .buswork⟩,
  ⟨ascii "hiddev", .int .hidwork⟩,
  ⟨ascii "usb", .string .usbwork⟩,
  ⟨ascii "mfg", .string .mfgIdWork⟩,
  ⟨ascii "model", .string .modelwork⟩,
  ⟨ascii "sn", .string .snwork⟩,
  ⟨ascii "edid", .string .edidwork⟩,
  ⟨ascii "show-unsupported", .none .showUnsupportedFlag false⟩,
  ⟨ascii "notable", .none .notableFlag false⟩,
  ⟨ascii "no-table", .none .notableFlag false⟩,
  ⟨ascii "show-table", .none .notableFlag true⟩,
  ⟨ascii "rw", .none .rwOnlyFlag false⟩,
  ⟨ascii "ro", .none .roOnlyFlag false⟩,
  ⟨ascii "wo", .none .woOnlyFlag false⟩]

def performanceOptions : List OptionEntry := [
  ⟨ascii "ddc", .none .ddcFlag false⟩,
  ⟨ascii "ddcdata", .none .ddcFlag false⟩,
  ⟨ascii "stats", .statsArgFunc⟩,
  ⟨ascii "vstats", .statsArgFunc⟩,
  ⟨ascii "istats", .statsArgFunc⟩,
  ⟨ascii "profile-api", .none .profileApiFlag false⟩,
  ⟨ascii "syslog", .string .syslogWork⟩,
  ⟨ascii "enable-capabilities-cache", .none .enableCcFlag false⟩,
  ⟨ascii "disable-capabilities-cache", .none .enableCcFlag true⟩,
  ⟨ascii "enable-displays-cache", .none .enableCdFlag false⟩,
  ⟨ascii "disable-displays-cache", .none .enableCdFlag true⟩,
  ⟨ascii "sleep-multiplier", .string .sleepMultiplierWork⟩,
  ⟨ascii "enable-dynamic-sleep", .none .enableDsa2Flag false⟩,
  ⟨ascii "disable-dynamic-sleep", .none .enableDsa2Flag true⟩,
  ⟨ascii "dynamic-sleep-adjustment", .none .enableDsa2Flag false⟩,
  ⟨ascii "dsa", .none .enableDsa2Flag false⟩,
  ⟨ascii "nodsa", .none .enableDsa2Flag true⟩,
  ⟨ascii "enable-dsa", .none .enableDsa2Flag false⟩,
  ⟨ascii "disable-dsa", .none .enableDsa2Flag true⟩,
  ⟨ascii "dsa2", .none .enableDsa2Flag false⟩,
  ⟨ascii "disable-dsa2", .none .enableDsa2Flag true⟩,
  ⟨ascii "min-dynamic-multiplier", .string .minDynamicSleepWork⟩,
  ⟨ascii "min-dynamic-sleep-multiplier", .string .minDynamicSleepWork⟩,
  ⟨ascii "async", .none .asyncFlag false⟩,
  ⟨ascii "i2c-bus-checks-async-min", .i2cBusCheckAsyncMin⟩,
  ⟨ascii "ddc-checks-async-min", .ddcCheckAsyncMin⟩,
  ⟨ascii "i2c-init-async-min", .i2cBusCheckAsyncMin⟩,
  ⟨ascii "ddc-init-async-min", .ddcCheckAsyncMin⟩,
  ⟨ascii "skip-ddc-checks", .none .skipDdcChecksFlag false⟩,
  ⟨ascii "lazy-sleep", .none .deferredSleepFlag false⟩,
  ⟨ascii "less-sleep", .none .reduceSleepsSpecified false⟩,
  ⟨ascii "sleep-less", .none .reduceSleepsSpecified false⟩,
  ⟨ascii "enable-sleep-less", .none .reduceSleepsSpecified false⟩,
  ⟨ascii "disable-sleep-less", .none .reduceSleepsSpecified true⟩,
  ⟨ascii "discard-caches", .discardCacheArgFunc⟩,
  ⟨ascii "discard-cache", .discardCacheArgFunc⟩,
  ⟨ascii "discard-capabilities-cache", .none .discardCachedCapabilitiesFlag false⟩,
  ⟨ascii "discard-dynamic-sleep-cache", .none .discardDsaCacheFlag false⟩,
  ⟨ascii "maxtries", .string .maxtrywork⟩,
  ⟨ascii "verify", .none .verifySetFlag false⟩,
  ⟨ascii "noverify", .none .noverifySetFlag false⟩,
  ⟨ascii "mccs", .string .mccswork⟩,
  ⟨ascii "udf", .none .enableUdfFlag false⟩,
  ⟨ascii "enable-udf", .none .enableUdfFlag false⟩,
  ⟨ascii "noudf", .none .enableUdfFlag true⟩,
  ⟨ascii "disable-udf", .none .enableUdfFlag true⟩,
  ⟨ascii "enable-heuristic-unsupported", .none .enableHeuristicUnsupportedFlag false⟩,
  ⟨ascii "disable-heuristic-unsupported", .none .enableHeuristicUnsupportedFlag true⟩,
  ⟨ascii "enable-cross-instance-locks", .none .enableFlockFlag false⟩,
  ⟨ascii "disable-cross-instance-locks", .none .enableFlockFlag true⟩,
  ⟨ascii "enable-flock", .none .enableFlockFlag false⟩,
  ⟨ascii "disable-flock", .none .enableFlockFlag true⟩,
  ⟨ascii "enable-try-get-edid-from-sysfs", .none .tryGetEdidFromSysfs false⟩,
  ⟨ascii "disable-try-get-edid-from-sysfs", .none .tryGetEdidFromSysfs true⟩]

def watchOptions (useX11 : Bool) : List OptionEntry := [
  ⟨ascii "disable-watch-displays", .none .enableWatchDisplays true⟩,
  ⟨ascii "watch-mode", .string .watchModeWork⟩] ++
  (if useX11 then [⟨ascii "xevent-watch-loop-millisec", .int .xeventWatchLoopMillisWork⟩] else []) ++
  [⟨ascii "poll-watch-loop-millisec", .int .pollWatchLoopMillisWork⟩]

def apiOptions : List OptionEntry := [
  ⟨ascii "disable-api", .none .disableApiFlag false⟩]

def usbOptions : List OptionEntry := [
  ⟨ascii "enable-usb", .none .enableUsbFlag false⟩,
  ⟨ascii "disable-usb", .none .enableUsbFlag true⟩,
  ⟨ascii "nousb", .none .enableUsbFlag true⟩,
  ⟨ascii "ignore-usb-vid-pid", .strings .ignoredVidPid⟩,
  ⟨ascii "ignore-hiddev", .ignoredHiddevArgFunc⟩]

def i2cOptions : List OptionEntry := [
  ⟨ascii "disable-ddc", .strings .ddcDisabled⟩,
  ⟨ascii "ignore-mmid", .strings .ddcDisabled⟩,
  ⟨ascii "force-slave-address", .none .forceSlaveFlag false⟩,
  ⟨ascii "use-file-io", .none .i2cIoFileioFlag false⟩,
  ⟨ascii "use-ioctl-io", .none .i2cIoIoctlFlag false⟩,
  ⟨ascii "x52-no-fifo", .none .x52NoFifoFlag false⟩,
  ⟨ascii "edid-read-size", .int .edidReadSizeWork⟩,
  ⟨ascii "i2c-source-addr", .string .i2cSourceAddrWork⟩,
  ⟨ascii "force", .none .forceFlag false⟩,
  ⟨ascii "permit-unknown-feature", .none .allowUnrecognizedFeatureFlag false⟩,
  ⟨ascii "timeout-i2c-io", .none .timeoutI2cIoFlag false⟩]

def commonOptions (b : Build) : List OptionEntry :=
  performanceOptions ++ (if b.watchDisplays then watchOptions b.useX11 else []) ++ apiOptions ++
    (if b.enableUsb then usbOptions else []) ++ i2cOptions

def tracingOptions : List OptionEntry := [
  ⟨ascii "excp", .none .reportFreedExcpFlag false⟩,
  ⟨ascii "trace", .strings .traceClasses⟩,
  ⟨ascii "trcapi", .strings .tracedApiCalls⟩,
  ⟨ascii "trcfunc", .strings .tracedFunctions⟩,
  ⟨ascii "trcfrom", .strings .tracedCalls⟩,
  ⟨ascii "trcfile", .strings .tracedFiles⟩,
  ⟨ascii "enable-traced-function-stack", .none .enableTfsFlag false⟩,
  ⟨ascii "disable-traced-function-stack", .none .enableTfsFlag true⟩,
  ⟨ascii "timestamp", .none .timestampTraceFlag false⟩,
  ⟨ascii "ts", .none .timestampTraceFlag false⟩,
  ⟨ascii "wall-timestamp", .none .wallTimestampTraceFlag false⟩,
  ⟨ascii "wts", .none .wallTimestampTraceFlag false⟩,
  ⟨ascii "thread-id", .none .threadIdTraceFlag false⟩,
  ⟨ascii "tid", .none .threadIdTraceFlag false⟩,
  ⟨ascii "process-id", .none .processIdTraceFlag false⟩,
  ⟨ascii "pid", .none .processIdTraceFlag false⟩,
  ⟨ascii "trace-to-syslog-only", .none .traceToSyslogOnlyFlag false⟩,
  ⟨ascii "libddcutil-trace-file", .string .traceDestination⟩,
  ⟨ascii "stats-to-syslog", .none .statsToSyslogOnlyFlag false⟩,
  ⟨ascii "debug-parse", .none .debugParseFlag false⟩,
  ⟨ascii "parse-only", .none .parseOnlyFlag false⟩,
  ⟨ascii "failsim", .string .failsimFnWork⟩,
  ⟨ascii "quickenv", .none .quickFlag false⟩,
  ⟨ascii "enable-mock-data", .none .mockDataFlag false⟩,
  ⟨ascii "force-null-msg-for-unsupported", .none .nullMsgForUnsupportedFlag false⟩]

def specialOptions : List OptionEntry := [
  ⟨ascii "i1", .string (.i 0)⟩,
  ⟨ascii "i2", .string (.i 1)⟩,
  ⟨ascii "i3", .string (.i 2)⟩,
  ⟨ascii "i4", .string (.i 3)⟩,
  ⟨ascii "i5", .string (.i 4)⟩,
  ⟨ascii "i6", .string (.i 5)⟩,
  ⟨ascii "i7", .string (.i 6)⟩,
  ⟨ascii "i8", .string (.i 7)⟩,
  ⟨ascii "i9", .string (.i 8)⟩,
  ⟨ascii "i10", .string (.i 9)⟩,
  ⟨ascii "i11", .string (.i 10)⟩,
  ⟨ascii "i12", .string (.i 11)⟩,
  ⟨ascii "i13", .string (.i 12)⟩,
  ⟨ascii "i14", .string (.i 13)⟩,
  ⟨ascii "i15", .string (.i 14)⟩,
  ⟨ascii "i16", .string (.i 15)⟩,
  ⟨ascii "fl1", .string .fl1Work⟩,
  ⟨ascii "fl2", .string .fl2Work⟩,
  ⟨ascii "f1", .none (.f 0) false⟩,
  ⟨ascii "f2", .none (.f 1) false⟩,
  ⟨ascii "f3", .none (.f 2) false⟩,
  ⟨ascii "f4", .none (.f 3) false⟩,
  ⟨ascii "f5", .none (.f 4) false⟩,
  ⟨ascii "f6", .none (.f 5) false⟩,
  ⟨ascii "f7", .none (.f 6) false⟩,
  ⟨ascii "f8", .none (.f 7) false⟩,
  ⟨ascii "f9", .none (.f 8) false⟩,
  ⟨ascii "f10", .none (.f 9) false⟩,
  ⟨ascii "f11", .none (.f 10) false⟩,
  ⟨ascii "f12", .none (.f 11) false⟩,
  ⟨ascii "f13", .none (.f 12) false⟩,
  ⟨ascii "f14", .none (.f 13) false⟩,
  ⟨ascii "f15", .none (.f 14) false⟩,
  ⟨ascii "f16", .none (.f 15) false⟩,
  ⟨ascii "f17", .none (.f 16) false⟩,
  ⟨ascii "f18", .none (.f 17) false⟩,
  ⟨ascii "f19", .none (.f 18) false⟩,
  ⟨ascii "f20", .none (.f 19) false⟩,
  ⟨ascii "f21", .none (.f 20) false⟩,
  ⟨ascii "f22", .none (.f 21) false⟩,
  ⟨ascii "f23", .none (.f 22) false⟩,
  ⟨ascii "f24", .none (.f 23) false⟩,
  ⟨ascii "f25", .none (.f 24) false⟩,
  ⟨ascii "f26", .none (.f 25) false⟩,
  ⟨ascii "f27", .none (.f 26) false⟩,
  ⟨ascii "f28", .none (.f 27) false⟩,
  ⟨ascii "f29", .none (.f 28) false⟩,
  ⟨ascii "f30", .none (.f 29) false⟩,
  ⟨ascii "f31", .none (.f 30) false⟩,
  ⟨ascii "f32", .none (.f 31) false⟩,
  ⟨ascii "s1", .string (.s 0)⟩,
  ⟨ascii "s2", .string (.s 1)⟩,
  ⟨ascii "s3", .string (.s 2)⟩,
  ⟨ascii "s4", .string (.s 3)⟩]

def allOptions (b : Build) (parserMode : ParserMode) : List OptionEntry :=
  initialOptions ++ (if parserMode = .ddcutil then ddcutilOnlyOptions else []) ++ commonOptions b ++ tracingOptions ++
    specialOptions

structure GivenOption where
  longName : List Byte
  value : OptionValue

def findEntry (b : Build) (parserMode : ParserMode) (longName : List Byte) : Option OptionEntry :=
  (allOptions b parserMode).find? fun e => e.longName == longName

def storeOption (b : Build) (parserMode : ParserMode) (o : GivenOption) : Option (Vars → Vars) :=
  (findEntry b parserMode o.longName).bind fun e => e.store o.value

def storeOptions (b : Build) (parserMode : ParserMode) (line : List GivenOption) (v : Vars) : Option Vars :=
  line.foldlM (fun v o => (storeOption b parserMode o).map fun change => change v) v

end Ddc.Cmd
