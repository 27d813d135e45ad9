import Ddcutil.ParsedCmd
/-!
# CmdArguments — the arguments of the options (cmd_parser_goption.c, string_util.c)

A function of `parse_command` that takes an argument either says what it changes in the parsed command or gives its error
messages.  What some of them have written by then is not modelled: after an error the parsed command is freed.
-/
namespace Ddc.Cmd

open Kit

abbrev ArgResult : Type := Except (List (List Byte)) (ParsedCmd → ParsedCmd)

/-! ## `strtof` -/

/-- The exponent of the last place of a `float`: 24 bits, and no smaller than that of the subnormals. -/
def floatUlpExponent (q : ℚ) : ℤ := max (Int.log 2 |q| - 23) (-149)

def roundFloat (q : ℚ) : FloatValue :=
  let r := roundEven (q / 2 ^ floatUlpExponent q) * (2 : ℚ) ^ floatUlpExponent q
  if |r| < 2 ^ 128 then .finite r else .infinite (decide (r < 0))

def startsWithNoCase (word s : List Byte) : Bool := (s.take word.length).map tolower == word

def scanMantissa (base : Nat) (s : List Byte) : Option (ℚ × List Byte) :=
  let whole := s.takeWhile (isDigit base)
  let rest := s.dropWhile (isDigit base)
  if rest.head? = some dot then
    let fraction := rest.tail.takeWhile (isDigit base)
    if whole = [] ∧ fraction = [] then none
    else some (digitsVal base (whole ++ fraction) / base ^ fraction.length, rest.tail.dropWhile (isDigit base))
  else if whole = [] then none
  else some (digitsVal base whole, rest)

def scanExponent (mark : Byte) (s : List Byte) : ℤ × List Byte :=
  let signed := takeSign s.tail
  let digits := signed.2.takeWhile (isDigit 10)
  if s.head?.map tolower = some mark ∧ digits ≠ [] then
    (if signed.1 then -digitsVal 10 digits else digitsVal 10 digits, signed.2.dropWhile (isDigit 10))
  else (0, s)

def scanFloat (base expBase : Nat) (mark : Byte) (s : List Byte) : Option (ℚ × List Byte) :=
  (scanMantissa base s).map fun mantissa =>
    let exponent := scanExponent mark mantissa.2
    (mantissa.1 * (expBase : ℚ) ^ exponent.1, exponent.2)

def nanChar (c : Byte) : Bool := isDigit 36 c || c == 0x5f

def dropNanChars (s : List Byte) : List Byte :=
  if s.head? = some lparen ∧ (s.tail.dropWhile nanChar).head? = some rparen then (s.tail.dropWhile nanChar).tail else s

def strtof (s : List Byte) : FloatValue × List Byte :=
  let signed := takeSign (s.dropWhile isspace)
  let t := signed.2
  let sign : ℚ := if signed.1 then -1 else 1
  if startsWithNoCase (ascii "infinity") t then (.infinite signed.1, t.drop 8)
  else if startsWithNoCase (ascii "inf") t then (.infinite signed.1, t.drop 3)
  else if startsWithNoCase (ascii "nan") t then (.nan, dropNanChars (t.drop 3))
  else
    match (if startsWithNoCase (ascii "0x") t then scanFloat 16 2 0x70 (t.drop 2) else none) <|> scanFloat 10 10 0x65 t with
    | some number => (roundFloat (sign * number.1), number.2)
    | none => (.finite 0, s)

def strToFloat (sval : List Byte) : Option FloatValue :=
  if sval = [] then none else if (strtof sval).2 = [] then some (strtof sval).1 else none

/-! ## The functions -/

def maxMaxTries : Int := 15

def scanU (token : List Byte) : Option Int := (scanD token).map Prod.fst

def maxTriesPiece (piece : List Byte) : Except (List Byte) (Option Int) :=
  let token := (strtrim piece).take 9
  if token = [] ∨ token = [dot] then .ok none
  else
    match scanU token with
    | none => .error (ascii "Invalid --maxtries value: " ++ token)
    | some ival =>
      if maxMaxTries < ival then
        .error (ascii "--maxtries value " ++ decimal ival ++ ascii " exceeds " ++ decimal maxMaxTries)
      else if ival < 0 then .error (ascii "negative --maxtries value: " ++ decimal ival)
      else .ok (some ival)

def errorOf {α β : Type} : Except α β → Option α
  | .ok _ => none
  | .error e => some e

def parseMaxtrywork (maxtrywork : List Byte) : ArgResult :=
  let pieces := (strsplit maxtrywork (ascii ",")).map maxTriesPiece
  if pieces.length ≠ 3 then .error [ascii "Option --maxtries requires 3 values"]
  else if pieces.filterMap errorOf = [] then
    .ok fun c => { c with maxTries := c.maxTries.zipWith (fun old piece => (piece.toOption.getD none).getD old) pieces }
  else .error (pieces.filterMap errorOf)

def parseMccswork (mccswork : List Byte) : ArgResult :=
  let vspec := parseVspec mccswork
  if vspec ≠ vspecUnknown ∧ vcpVersionIsValid vspec = true then .ok fun c => { c with mccsVspec := vspec }
  else .error [ascii "Invalid MCCS spec: " ++ mccswork,
    ascii "Valid MCCS versions are: " ++ ascii "1.0, 2.0, 2.1, 3.0, 2.2"]

def equalNoCase (s t : List Byte) : Bool := s.map tolower == t.map tolower

def syslogLevelTable : List (SyslogLevel × List Byte) := [
  (.debug, ascii "DEBUG"),
  (.verbose, ascii "VERBOSE"),
  (.info, ascii "INFO"),
  (.notice, ascii "NOTICE"),
  (.warning, ascii "WARN"),
  (.error, ascii "ERROR"),
  (.never, ascii "NEVER")]

def syslogLevelNameToValue (name : List Byte) : Option SyslogLevel :=
  (syslogLevelTable.find? fun entry => equalNoCase name entry.2).map Prod.fst

def parseSyslogLevel (sval : List Byte) : Except (List (List Byte)) SyslogLevel :=
  match syslogLevelNameToValue sval with
  | some level => .ok level
  | none => .error [ascii "Invalid syslog level: " ++ sval,
    ascii "Valid values are DEBUG, VERBOSE, INFO, NOTICE, WARN, ERROR, NEVER"]

def parseSyslogWork (syslogWork : Option (List Byte)) (parserMode : ParserMode) : ArgResult :=
  match syslogWork with
  | none => .ok fun c => { c with syslogLevel := if parserMode = .ddcutil then .warning else .notice }
  | some sval => (parseSyslogLevel sval).map fun level c => { c with syslogLevel := level }

def parseIntWork (sval : List Byte) : Except (List (List Byte)) Int :=
  match strToInt0 sval with
  | some n => .ok n
  | none => .error [ascii "Invalid integer or hex number: " ++ sval]

/-- Where the text is not a number the code goes on to compare a variable that is not set. -/
def parseI2cSourceAddr (sval : List Byte) : ArgResult :=
  match parseIntWork sval with
  | .error msgs => .error msgs
  | .ok ival =>
    if ival < 0 ∨ 255 < ival then .error [ascii "Source address must be a single byte value"]
    else .ok fun c =>
      { c with flags := c.flags ||| cmdFlagExplicitI2cSourceAddr, explicitI2cSourceAddr := UInt8.ofInt ival }

def setCmdFlagI (n : Fin 16) (sval : List Byte) : ArgResult :=
  (parseIntWork sval).map fun ival c =>
    { c with i := Function.update c.i n ival, flags2 := c.flags2 ||| cmdFlag2ISet n }

def parseFl1 (sval : List Byte) : ArgResult :=
  match strToFloat sval with
  | some x => .ok fun c => { c with fl1 := x, flags := c.flags2 ||| cmdFlag2Fl1Set }
  | none => .error [ascii "Invalid floating point number: " ++ sval]

def parseFl2 (sval : List Byte) : ArgResult :=
  match strToFloat sval with
  | some x => .ok fun c => { c with fl2 := x, flags := c.flags2 ||| cmdFlag2Fl2Set }
  | none => .error [ascii "Invalid floating point number: " ++ sval]

def parseColonSeparatedVidPid (val : List Byte) : Option (Nat × Nat) :=
  match strsplit val [colon] with
  | [vid, pid] =>
    if vid.length = 4 ∧ pid.length = 4 ∧ (hhs4ToUint16 vid).1 = true ∧ (hhs4ToUint16 pid).1 = true then
      some ((hhs4ToUint16 vid).2, (hhs4ToUint16 pid).2)
    else none
  | _ => none

def ignoredVidPidMax : Nat := 4

def takeVidPid (acc : List (List Byte) × List Nat) (cur : List Byte) : List (List Byte) × List Nat :=
  match parseColonSeparatedVidPid cur with
  | none => (acc.1 ++ [ascii "Invalid vid:pid value: " ++ cur], acc.2)
  | some (vid, pid) =>
    if acc.2.length < ignoredVidPidMax then (acc.1, acc.2 ++ [vid <<< 16 ||| pid])
    else (acc.1 ++ [ascii "Too many ignore-usb-vid-pid values"], acc.2)

def parseIgnoredVidPid (ignoredVidPid : List (List Byte)) : ArgResult :=
  let acc := (ignoredVidPid.take 10).foldl takeVidPid ([], [])
  if acc.1 = [] then .ok fun c => { c with ignoredUsbVidPids := acc.2 } else .error acc.1

def FloatValue.isNegative : FloatValue → Bool
  | .finite q => decide (q < 0)
  | .infinite negative => negative
  | .nan => false

def FloatValue.isAtLeast (bound : ℚ) : FloatValue → Bool
  | .finite q => decide (bound ≤ q)
  | .infinite negative => !negative
  | .nan => false

def parseSleepMultiplier (sval : List Byte) : Except (List (List Byte)) FloatValue :=
  match strToFloat sval with
  | some multiplier =>
    if multiplier.isNegative || multiplier.isAtLeast 100 then .error [ascii "Invalid sleep-multiplier: " ++ sval]
    else .ok multiplier
  | none => .error [ascii "Invalid sleep-multiplier: " ++ sval]

def parseSleepMultiplierWork (sval : List Byte) : ArgResult :=
  (parseSleepMultiplier sval).map fun multiplier c =>
    { c with sleepMultiplier := multiplier, flags := c.flags ||| cmdFlagExplicitSleepMultiplier }

def parseMinDynamicSleepWork (sval : List Byte) : ArgResult :=
  (parseSleepMultiplier sval).map fun multiplier c => { c with minDynamicMultiplier := multiplier }

def watchModeOf (useX11 : Bool) (v2 : List Byte) : Option DdcWatchMode :=
  if isAbbrev v2 (ascii "POLL") 3 = true then some .poll
  else if useX11 = true ∧ isAbbrev v2 (ascii "XEVENT") 3 = true then some .xevent
  else if isAbbrev v2 (ascii "DYNAMIC") 3 = true then some .dynamic
  else none

def defaultWatchMode (useX11 : Bool) : DdcWatchMode := if useX11 then .dynamic else .poll

def parseWatchMode (useX11 : Bool) : Option (List Byte) → ArgResult
  | none => .ok fun c => { c with watchMode := defaultWatchMode useX11 }
  | some sval =>
    match watchModeOf useX11 (strdupUc sval) with
    | some mode => .ok fun c => { c with watchMode := mode }
    | none => .error [ascii "Invalid watch-mode: " ++ sval]

def parseEdidReadSize (edidReadSizeWork : BitVec 32) : ArgResult :=
  if edidReadSizeWork.toInt ∈ [-1, 128, 0, 256] then .ok fun c => { c with edidReadSize := edidReadSizeWork.toInt }
  else .error [ascii "Invalid EDID read size: " ++ decimal edidReadSizeWork.toInt]

def traceGroupTable : List (BitVec 16 × List Byte) := [
  (0x0080, ascii "BASE"),
  (0x0040, ascii "I2C"),
  (0x0010, ascii "DDC"),
  (0x0008, ascii "USB"),
  (0x0004, ascii "TOP"),
  (0x0002, ascii "ENV"),
  (0x0001, ascii "API"),
  (0x0100, ascii "UDF"),
  (0x0200, ascii "VCP"),
  (0x0400, ascii "DDCIO"),
  (0x0800, ascii "SLEEP"),
  (0x1000, ascii "RETRY"),
  (0x2000, ascii "CONN"),
  (0x0400, ascii "SYSFS")]

def traceClassNameToValue (name : List Byte) : Option (BitVec 16) :=
  (traceGroupTable.find? fun entry => equalNoCase name entry.2).map Prod.fst

def takeTraceClass (acc : List (List Byte) × BitVec 16) (traceClass : List Byte) : List (List Byte) × BitVec 16 :=
  let token := strdupUc traceClass
  if token = ascii "ALL" ∨ token = ascii "*" then (acc.1, 0xffff)
  else
    match traceClassNameToValue token with
    | some tg => (acc.1, acc.2 ||| tg)
    | none => (acc.1 ++ [ascii "Invalid trace group: " ++ token], acc.2)

def parseTraceClasses (traceClasses : List (List Byte)) : ArgResult :=
  let acc := traceClasses.foldl takeTraceClass ([], 0)
  if traceClasses = [] then .ok fun c => c
  else if acc.1 = [] then .ok fun c => { c with tracedGroups := acc.2 }
  else .error acc.1

def parseXeventWatchLoop (work : BitVec 32) : ArgResult :=
  if work.toInt ≤ 0 then .error [ascii "--xevent-watch-loop-millisec not a positive number: " ++ decimal work.toInt]
  else .ok fun c => { c with xeventWatchLoopMillisec := work.setWidth 16 }

def parsePollWatchLoop (work : BitVec 32) : ArgResult :=
  if work.toInt ≤ 0 then .error [ascii "--poll-watch-loop-millisec not a positive number: " ++ decimal work.toInt]
  else .ok fun c => { c with pollWatchLoopMillisec := work.setWidth 16 }

end Ddc.Cmd
