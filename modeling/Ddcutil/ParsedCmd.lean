import Ddcutil.AppSetvcp
import Ddcutil.CmdOptions
import Ddcutil.DisplayArgs
import Ddcutil.Kit.FlagWord
/-!
# ParsedCmd — the parsed command (parsed_cmd.c)

`ParsedCmd` is what `parse_command` makes of a command line: two words of flags, and a field for each option that takes
an argument.  `Part` names what there is to see of it, down to the single bit of a word.
-/
namespace Ddc.Cmd

open Kit

/-! ## The flags -/

def cmdFlagDdcdata : BitVec 64 := 0x0001
def cmdFlagForceUnrecognizedVcpCode : BitVec 64 := 0x0002
def cmdFlagForceSlaveAddr : BitVec 64 := 0x0004
def cmdFlagTimestampTrace : BitVec 64 := 0x0008
def cmdFlagShowUnsupported : BitVec 64 := 0x0010
def cmdFlagEnableFailsim : BitVec 64 := 0x0020
def cmdFlagVerify : BitVec 64 := 0x0040
def cmdFlagSkipDdcChecks : BitVec 64 := 0x0080
def cmdFlagReportFreedExcp : BitVec 64 := 0x0200
def cmdFlagNotable : BitVec 64 := 0x0400
def cmdFlagThreadIdTrace : BitVec 64 := 0x0800
def cmdFlagNullMsgIndicatesUnsupportedFeature : BitVec 64 := 0x1000
def cmdFlagHeuristicUnsupportedFeatures : BitVec 64 := 0x2000
def cmdFlagDiscardCaches : BitVec 64 := 0x4000
def cmdFlagProcessIdTrace : BitVec 64 := 0x8000
def cmdFlagRwOnly : BitVec 64 := 0x010000
def cmdFlagRoOnly : BitVec 64 := 0x020000
def cmdFlagWoOnly : BitVec 64 := 0x040000
def cmdFlagEnableUdf : BitVec 64 := 0x100000
def cmdFlagEnableUsb : BitVec 64 := 0x200000
def cmdFlagTryGetEdidFromSysfs : BitVec 64 := 0x10000000
def cmdFlagFlock : BitVec 64 := 0x20000000
def cmdFlagDeferSleeps : BitVec 64 := 0x40000000
def cmdFlagX52NoFifo : BitVec 64 := 0x0100000000
def cmdFlagVerboseStats : BitVec 64 := 0x0200000000
def cmdFlagShowSettings : BitVec 64 := 0x0400000000
def cmdFlagEnableCachedCapabilities : BitVec 64 := 0x0800000000
def cmdFlagWalltimeTrace : BitVec 64 := 0x2000000000
def cmdFlagI2cIoFileio : BitVec 64 := 0x010000000000
def cmdFlagI2cIoIoctl : BitVec 64 := 0x020000000000
def cmdFlagExplicitSleepMultiplier : BitVec 64 := 0x100000000000
def cmdFlagDsa2 : BitVec 64 := 0x200000000000
def cmdFlagQuick : BitVec 64 := 0x400000000000
def cmdFlagMock : BitVec 64 := 0x01000000000000
def cmdFlagProfileApi : BitVec 64 := 0x02000000000000
def cmdFlagEnableCachedDisplays : BitVec 64 := 0x10000000000000
def cmdFlagTraceToSyslogOnly : BitVec 64 := 0x20000000000000
def cmdFlagStatsToSyslog : BitVec 64 := 0x0100000000000000
def cmdFlagInternalStats : BitVec 64 := 0x0200000000000000
def cmdFlagExplicitI2cSourceAddr : BitVec 64 := 0x0400000000000000
def cmdFlagEnableTracedFunctionStack : BitVec 64 := 0x1000000000000000
def cmdFlagTracedFunctionStackErrorsFatal : BitVec 64 := 0x2000000000000000
def cmdFlagDisableApi : BitVec 64 := 0x4000000000000000
def cmdFlagWatchDisplayEvents : BitVec 64 := 0x8000000000000000

/-- `CMD_FLAG2_F1`, which is `0x00000001`, to `CMD_FLAG2_F32`, which is `0x80000000`; the first one is number 0. -/
def cmdFlag2F (n : Fin 32) : BitVec 64 := BitVec.twoPow 64 n

/-- `CMD_FLAG2_I1_SET`, which is `0x010000000000`, to `CMD_FLAG2_I16_SET`, which is `0x80000000000000`. -/
def cmdFlag2ISet (n : Fin 16) : BitVec 64 := BitVec.twoPow 64 (40 + n)

def cmdFlag2Fl1Set : BitVec 64 := 0x1000000000000000
def cmdFlag2Fl2Set : BitVec 64 := 0x2000000000000000

/-! ## The parsed command -/

inductive FloatValue where
  | finite (q : ℚ)
  | infinite (negative : Bool)
  | nan

inductive DdcWatchMode where
  | dynamic | poll | xevent | udev
  deriving DecidableEq

inductive SyslogLevel where
  | never | error | warning | notice | info | verbose | debug
  deriving DecidableEq

structure ParsedSetvcpArgs where
  featureCode : Byte
  featureValueType : SetvcpValueType
  featureValue : List Byte

structure ParsedCmd where
  parserMode : ParserMode
  args : List (List Byte)
  flags : BitVec 64
  flags2 : BitVec 64
  outputLevel : OutputLevel
  mccsVspec : VersionSpec
  cmdId : CmdIdType
  setvcpValues : List ParsedSetvcpArgs
  explicitI2cSourceAddr : Byte
  edidReadSize : Int
  ddcDisabled : List (List Byte)
  pdid : Option DisplayIdentifier
  ignoredHiddevs : BitVec 32
  ignoredUsbVidPids : List Nat
  fref : Option FeatureSetRef
  discardedCacheTypes : BitVec 8
  maxTries : List Int
  sleepMultiplier : FloatValue
  minDynamicMultiplier : FloatValue
  statsTypes : BitVec 8
  i2cBusCheckAsyncMin : BitVec 16
  ddcCheckAsyncMin : BitVec 16
  watchMode : DdcWatchMode
  xeventWatchLoopMillisec : BitVec 16
  pollWatchLoopMillisec : BitVec 16
  tracedGroups : BitVec 16
  tracedFiles : List (List Byte)
  tracedFunctions : List (List Byte)
  tracedCalls : List (List Byte)
  tracedApiCalls : List (List Byte)
  traceDestination : Option (List Byte)
  syslogLevel : SyslogLevel
  failsimControlFn : Option (List Byte)
  /-- `i1` is number 0. -/
  i : Fin 16 → Int
  /-- `s1` is number 0. -/
  s : Fin 4 → Option (List Byte)
  fl1 : FloatValue
  fl2 : FloatValue

/-- `new_parsed_cmd`; what is 0 is so from `calloc`. -/
def newParsedCmd (parserMode : ParserMode) : ParsedCmd where
  parserMode := parserMode
  args := []
  flags := cmdFlagEnableUdf ||| cmdFlagEnableCachedCapabilities
  flags2 := 0
  outputLevel := .normal
  mccsVspec := vspecUnknown
  cmdId := 0
  setvcpValues := []
  explicitI2cSourceAddr := 0
  edidReadSize := -1
  ddcDisabled := []
  pdid := none
  ignoredHiddevs := 0
  ignoredUsbVidPids := []
  fref := none
  discardedCacheTypes := 0
  maxTries := [0, 0, 0]
  sleepMultiplier := .finite 1
  minDynamicMultiplier := .finite (-1)
  statsTypes := 0
  i2cBusCheckAsyncMin := -1
  ddcCheckAsyncMin := -1
  watchMode := .dynamic
  xeventWatchLoopMillisec := 100
  pollWatchLoopMillisec := 2000
  tracedGroups := 0
  tracedFiles := []
  tracedFunctions := []
  tracedCalls := []
  tracedApiCalls := []
  traceDestination := none
  syslogLevel := .never
  failsimControlFn := none
  i := fun n => if n.val = 0 then -1 else 0
  s _ := none
  fl1 := .finite 0
  fl2 := .finite 0

/-! ## Its parts -/

/-- What there is to see of a parsed command.  A word of flags or a set of types is seen bit by bit, and an identifier
of a display by what it identifies it with. -/
inductive Part where
  | flag (k : Nat)
  | flag2 (k : Nat)
  /-- The command with its arguments, which no option sets. -/
  | command | outputLevel | mccsVspec | explicitI2cSourceAddr | edidReadSize | ddcDisabled | dispno | busno
  | hiddev | usb | edid | mfgId | modelName | serialAscii
  | ignoredHiddev (k : Nat)
  | ignoredUsbVidPids
  | discardedCache (k : Nat)
  | maxTries | sleepMultiplier | minDynamicMultiplier
  | statsType (k : Nat)
  | i2cBusCheckAsyncMin | ddcCheckAsyncMin | watchMode | xeventWatchLoopMillisec | pollWatchLoopMillisec
  | tracedGroups | tracedFiles | tracedFunctions | tracedCalls | tracedApiCalls | traceDestination
  | syslogLevel | failsimControlFn
  | i (n : Fin 16)
  | s (n : Fin 4)
  | fl1 | fl2

abbrev Part.Value : Part → Type
  | .flag _ | .flag2 _ | .ignoredHiddev _ | .discardedCache _ | .statsType _ => Bool
  | .command => ParserMode × List (List Byte) × CmdIdType × List ParsedSetvcpArgs × Option FeatureSetRef
  | .outputLevel => OutputLevel
  | .mccsVspec => VersionSpec
  | .explicitI2cSourceAddr => Byte
  | .edidReadSize => Int
  | .dispno | .busno | .hiddev => Option Int
  | .usb => Option (Int × Int)
  | .edid => Option EdidBlock
  | .mfgId | .modelName | .serialAscii => List Byte
  | .ignoredUsbVidPids => List Nat
  | .maxTries => List Int
  | .sleepMultiplier | .minDynamicMultiplier | .fl1 | .fl2 => FloatValue
  | .i2cBusCheckAsyncMin | .ddcCheckAsyncMin | .xeventWatchLoopMillisec | .pollWatchLoopMillisec
  | .tracedGroups => BitVec 16
  | .watchMode => DdcWatchMode
  | .ddcDisabled | .tracedFiles | .tracedFunctions | .tracedCalls | .tracedApiCalls => List (List Byte)
  | .syslogLevel => SyslogLevel
  | .traceDestination | .failsimControlFn | .s _ => Option (List Byte)
  | .i _ => Int

def dispnoOf : Option DisplayIdentifier → Option Int
  | some (.dispno n) => some n
  | _ => none

def busnoOf : Option DisplayIdentifier → Option Int
  | some (.busno n) => some n
  | _ => none

def hiddevOf : Option DisplayIdentifier → Option Int
  | some (.hiddev n) => some n
  | _ => none

def usbOf : Option DisplayIdentifier → Option (Int × Int)
  | some (.usb bus device) => some (bus, device)
  | _ => none

def edidOf : Option DisplayIdentifier → Option EdidBlock
  | some (.edid edidbytes) => some edidbytes
  | _ => none

def monserOf : Option DisplayIdentifier → List Byte × List Byte × List Byte
  | some (.monser mfgId modelName serialAscii) => (mfgId, modelName, serialAscii)
  | _ => ([], [], [])

def ParsedCmd.get (c : ParsedCmd) : (p : Part) → p.Value
  | .flag k => c.flags.getLsbD k
  | .flag2 k => c.flags2.getLsbD k
  | .command => (c.parserMode, c.args, c.cmdId, c.setvcpValues, c.fref)
  | .outputLevel => c.outputLevel
  | .mccsVspec => c.mccsVspec
  | .explicitI2cSourceAddr => c.explicitI2cSourceAddr
  | .edidReadSize => c.edidReadSize
  | .ddcDisabled => c.ddcDisabled
  | .dispno => dispnoOf c.pdid
  | .busno => busnoOf c.pdid
  | .hiddev => hiddevOf c.pdid
  | .usb => usbOf c.pdid
  | .edid => edidOf c.pdid
  | .mfgId => (monserOf c.pdid).1
  | .modelName => (monserOf c.pdid).2.1
  | .serialAscii => (monserOf c.pdid).2.2
  | .ignoredHiddev k => c.ignoredHiddevs.getLsbD k
  | .ignoredUsbVidPids => c.ignoredUsbVidPids
  | .discardedCache k => c.discardedCacheTypes.getLsbD k
  | .maxTries => c.maxTries
  | .sleepMultiplier => c.sleepMultiplier
  | .minDynamicMultiplier => c.minDynamicMultiplier
  | .statsType k => c.statsTypes.getLsbD k
  | .i2cBusCheckAsyncMin => c.i2cBusCheckAsyncMin
  | .ddcCheckAsyncMin => c.ddcCheckAsyncMin
  | .watchMode => c.watchMode
  | .xeventWatchLoopMillisec => c.xeventWatchLoopMillisec
  | .pollWatchLoopMillisec => c.pollWatchLoopMillisec
  | .tracedGroups => c.tracedGroups
  | .tracedFiles => c.tracedFiles
  | .tracedFunctions => c.tracedFunctions
  | .tracedCalls => c.tracedCalls
  | .tracedApiCalls => c.tracedApiCalls
  | .traceDestination => c.traceDestination
  | .syslogLevel => c.syslogLevel
  | .failsimControlFn => c.failsimControlFn
  | .i n => c.i n
  | .s n => c.s n
  | .fl1 => c.fl1
  | .fl2 => c.fl2

end Ddc.Cmd
