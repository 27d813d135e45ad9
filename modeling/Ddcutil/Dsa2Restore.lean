import Ddcutil.Dsa2Steps
import Ddcutil.StringUtil
/-!
# Dsa2Restore — the stats file is read

`dsa2_restore_persistent_stats`: the first line of the file names a format, each further one a bus and what its
results table held.
-/
namespace Ddc

open Kit

def i2cNameToBusno (name : List Byte) : Int :=
  if strStartsWith name (ascii "i2c-") then
    let number := name.drop 4
    if number.head? = some 0x2d then -1 else (strToInt number 10).getD (-1)
  else -1

/-- `cirb_parse_and_add`, of `{tries required, step, epoch seconds}`; none where the segment is invalid. -/
def cirbParseAndAdd (cirb : Cirb) (segment : List Byte) : Option Cirb :=
  if 7 ≤ segment.length ∧ segment.head? = some 0x7b ∧ segment.getLast? = some 0x7d then
    let s := (segment.drop 1).dropLast
    match s.dropWhile (· != 0x2c) with
    | [] => none
    | _ :: behind =>
      match behind.dropWhile (· != 0x2c) with
      | [] => none
      | _ :: esec =>
        let tryct := s.takeWhile (· != 0x2c)
        let step := behind.takeWhile (· != 0x2c)
        if 0 < tryct.length ∧ 0 < step.length ∧ 0 < esec.length then do
          let tryct ← strToInt tryct 10
          let requiredStep ← strToInt step 10
          let epochSeconds ← strToLong esec 10
          some (cirbAdd cirb ⟨epochSeconds, tryct, requiredStep⟩)
        else none
  else none

/-- **The pieces of a line**: `ignored` must be numbers, and are not used. -/
structure StatsFields where
  name : List Byte
  edidChecksumByte : List Byte
  curStep : List Byte
  remainingInterval : List Byte
  ignored : List (List Byte)
  invocations : List (List Byte)

/-- The pieces by their position in a line of the format; none where there are fewer than the format's minimum. -/
def statsFields (formatId : Int) (pieces : List (List Byte)) : Option StatsFields :=
  if formatId = 1 then
    match pieces with
    | name :: check :: step :: lookback :: interval :: minOk :: failure :: rest =>
      some ⟨name, check, step, interval, [lookback, minOk, failure], rest⟩
    | _ => none
  else
    match pieces with
    | name :: check :: step :: interval :: _ :: rest => some ⟨name, check, step, interval, [], rest⟩
    | _ => none

/-- The table of a line.  A step past the last is set back to it; there is no check from below. -/
def restoreTable (initialStep : Int) (f : StatsFields) : Option ResultsTable :=
  let busno := i2cNameToBusno f.name
  if 0 ≤ busno then do
    let checksumByte ← anyOneByteHexStringToByteInBuf f.edidChecksumByte
    let step ← strToInt f.curStep 10
    let curStep := if stepLast < step then stepLast else step
    let interval ← strToInt f.remainingInterval 10
    let _ ← f.ignored.mapM fun piece => strToInt piece 10
    let recentValues ← f.invocations.foldlM cirbParseAndAdd cirbNew
    some { newResultsTable initialStep busno.toNat with
      edidChecksumByte := checksumByte
      curStep := curStep
      remainingInterval := interval
      curRetryLoopStep := curStep
      initialStep := curStep
      initialLookback := globalLookback
      recentValues := recentValues
      state := rtableFromCache }
  else none

def statsComment (curLine : List Byte) : Bool :=
  match curLine with
  | [] => true
  | c :: _ => c = 0x23 || c = 0x2a

def lineTable (formatId initialStep : Int) (curLine : List Byte) : Option ResultsTable :=
  statsFields formatId (strsplit curLine [blank]) >>= restoreTable initialStep

def statsFileError (errmsgs : List (List Byte)) (text : List Byte) : List (List Byte) := errmsgs ++ [text.take 199]

def restoreLine (formatId : Int) (acc : Dsa2 × List (List Byte)) (curLine : List Byte) :
    Exec (Dsa2 × List (List Byte)) :=
  if statsComment curLine then .ok acc
  else
    match lineTable formatId acc.1.initialStep curLine with
    | none => .ok (acc.1, statsFileError acc.2 (ascii "Invalid: " ++ curLine))
    | some rtable => do
      let _ ← store acc.1.resultsTables rtable.busno (some rtable)
      .ok (acc.1.install rtable.busno (some rtable), acc.2)

def statsFormat (formatIdLine : List Byte) : Except (List Byte) Int :=
  if strStartsWith formatIdLine (ascii "FORMAT ") then
    let sformat := formatIdLine.drop 7
    match strToInt sformat 10 with
    | none => .error (ascii "Invalid format: " ++ sformat)
    | some formatId =>
      if formatId ≠ 1 ∧ formatId ≠ 2 then .error (ascii "Invalid format: " ++ sformat) else .ok formatId
  else .error (ascii "Invalid format line: " ++ formatIdLine)

def Dsa2.clear (g : Dsa2) : Dsa2 :=
  { g with resultsTables := List.replicate (i2cBusMax + 1) none, length_eq := length_noTables }

/-- **What `file_getlines` finds** under the name of the stats file; `desc` describes the error of a read. -/
inductive StatsFile where
  | noName | missing
  | unreadable (desc : List Byte)
  | content (bytes : List Byte)

def restoreError (statsFn : List Byte) (errmsgs : List (List Byte)) : ErrorInfo where
  statusCode := ddcrcBadData
  func := "dsa2_restore_persistent_stats"
  detail := some (asText (ascii "Error(s) reading cached performance stats file " ++ statsFn))
  causes := errmsgs.map fun msg => ⟨ddcrcBadData, "dsa2_restore_persistent_stats", some (asText msg), []⟩

def restoreLines (statsFn : List Byte) (g : Dsa2) : List (List Byte) → Exec (Dsa2 × Option ErrorInfo)
  | [] => .ok (g, none)
  | formatIdLine :: body =>
    match statsFormat formatIdLine with
    | .error msg => .ok (g, some (restoreError statsFn (statsFileError [] msg)))
    | .ok formatId => do
      let read ← body.foldlM (restoreLine formatId) (g, [])
      .ok (if read.2 = [] then (read.1, none) else (read.1.clear, some (restoreError statsFn read.2)))

def dsa2RestorePersistentStats (statsFn : List Byte) (g : Dsa2) (file : StatsFile) : Exec (Dsa2 × Option ErrorInfo) :=
  match file with
  | .noName => .ok (g, some ⟨-eNoent, "dsa2_restore_persistent_stats",
      some "Unable to determine dynamic sleep stats file name", []⟩)
  | .missing => .ok (g, none)
  | .unreadable desc => .ok (g, some (restoreError statsFn (statsFileError []
      (ascii "Error  " ++ desc ++ ascii " reading stats file " ++ statsFn))))
  | .content bytes => restoreLines statsFn g (fileGetlines bytes)

end Ddc
