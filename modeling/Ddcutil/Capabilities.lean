import Ddcutil.NumberText
import Ddcutil.Kit.Loop
import Ddcutil.Kit.Window
/-!
# Capabilities — `parse_capabilities`

The capabilities string is parsed in place: every function gets a position and a length in one memory, the string and
the NUL behind it, and positions count from the string's first byte.
-/
namespace Ddc

open Kit

def lparen : Byte := 0x28
def rparen : Byte := 0x29

inductive CapsValidity where
  | valid | usable | invalid
  deriving DecidableEq, Repr

def updateValidity (validity curValidity : CapsValidity) : CapsValidity :=
  if validity = .invalid ∨ curValidity = .invalid then .invalid
  else if validity = .valid ∧ curValidity = .valid then .valid
  else .usable

def degrade (validity : CapsValidity) : CapsValidity := if validity = .valid then .usable else validity

/-! ## Messages -/

inductive SegmentFault where
  | missingName | nothingFollows
  | nothingFollowsBlanks (name : List Byte)
  | missingValue (name : List Byte)
  | noClosingParen (name : List Byte)
  | zeroLength
  deriving DecidableEq, Repr

inductive CapsMessage where
  | lacksClosingParenthesis
  | segment (fault : SegmentFault) (offset : Nat)
  | valuesNotClosed
  | invalidCode (first : Byte)
  | invalidValue (featureId : Byte) (values : List Byte)
  | commandsList (value : List Byte)
  | invalidMccsVer (value : List Byte)
  deriving DecidableEq, Repr

def SegmentFault.text : SegmentFault → List Byte
  | .missingName => ascii "Missing segment name"
  | .nothingFollows => ascii "Nothing follows segment name"
  | .nothingFollowsBlanks name => ascii "Nothing follows segment name (2) " ++ cstr name
  | .missingValue name => ascii "Missing parenthesized value for segment " ++ cstr name
  | .noClosingParen name => ascii "No closing parenthesis for segment " ++ cstr name
  | .zeroLength => ascii "zero length value"

def CapsMessage.text : CapsMessage → List Byte
  | .lacksClosingParenthesis => ascii "Capabilities string lacks closing parenthesis"
  | .segment fault offset => fault.text ++ ascii " at offset " ++ ascii (toString offset)
  | .valuesNotClosed => ascii "Value parse terminated without closing parenthesis"
  | .invalidCode first => ascii "Feature " ++ cstr [first] ++ ascii " (Invalid code)"
  | .invalidValue featureId values =>
    ascii "Invalid VCP value in list for feature x" ++
      [hexDigitLower (featureId.toNat / 16), hexDigitLower (featureId.toNat % 16)] ++ ascii ": " ++ cstr values
  | .commandsList value => ascii "Error processing commands list: " ++ cstr value
  | .invalidMccsVer value => ascii "Invalid mccs_ver: \"" ++ cstr value ++ ascii "\""

def CapsMessage.structural : CapsMessage → Bool
  | .lacksClosingParenthesis | .segment _ _ | .valuesNotClosed => true
  | _ => false

def fetchLast (mem : List Byte) : Nat → Exec Byte
  | 0 => .error .outOfBounds
  | len + 1 => fetch mem len

def rtrimLen (mem : List Byte) : Nat → Exec Nat
  | 0 => .ok 0
  | len + 1 => do
    let c ← fetchLast mem (len + 1)
    if c = blank then rtrimLen mem len else .ok (len + 1)

def ltrim (mem : List Byte) (s len : Nat) : Exec Nat := skipWhile (· == blank) mem (s + len) (len + 1) s

def closingParenLoop (mem : List Byte) (stop : Nat) : Nat → Nat → Nat → Exec (Nat × Nat)
  | 0, _, _ => .error .outOfFuel
  | fuel + 1, pos, depth =>
    if pos < stop ∧ 0 < depth then do
      let c ← fetch mem pos
      closingParenLoop mem stop fuel (pos + 1)
        (if c = lparen then depth + 1 else if c = rparen then depth - 1 else depth)
    else .ok (pos, depth)

def findClosingParen (mem : List Byte) (start stop : Nat) : Exec Nat := do
  let c ← fetch mem start
  check (c = lparen)
  let (pos, depth) ← closingParenLoop mem stop (stop - start + 1) (start + 1) 1
  return if depth = 0 then pos - 1 else pos

/-! ## The segments of the string -/

structure CapabilitiesSegment where
  nameStart : Nat
  nameLen : Nat
  valueStart : Nat
  valueLen : Nat
  remainderStart : Nat
  remainderLen : Nat
  deriving DecidableEq, Repr

/-- What `next_capabilities_segment` returns: `NULL`, a record whose pointers a failed `REQUIRE` set to `NULL` (with the
message it added), or a segment. -/
inductive NextSegment where
  | null
  | failed (msg : CapsMessage)
  | segment (seg : CapabilitiesSegment)
  deriving DecidableEq, Repr

def require (condition : Prop) [Decidable condition] (fault : SegmentFault) (position : Nat)
    (rest : Exec NextSegment) : Exec NextSegment :=
  if condition then rest else .ok (.failed (.segment fault position))

def segmentValue (mem : List Byte) (trimmedStart pos stop : Nat) : Exec NextSegment := do
  let name ← span mem trimmedStart (pos - trimmedStart)
  let c ← fetch mem pos
  require (c = lparen) (.missingValue name) pos do
    let close ← findClosingParen mem pos stop
    require (close < stop) (.noClosingParen name) close do
      require (0 < close - (pos + 1)) .zeroLength close do
        return .segment
          ⟨trimmedStart, pos - trimmedStart, pos + 1, close - (pos + 1), close + 1, stop - (close + 1)⟩

def segmentName (mem : List Byte) (trimmedStart stop : Nat) : Exec NextSegment := do
  let nameEnd ← skipWhile (fun c => c != lparen && c != blank) mem stop (stop - trimmedStart + 1) trimmedStart
  require (nameEnd < stop) .nothingFollows nameEnd do
    let name ← span mem trimmedStart (nameEnd - trimmedStart)
    let pos ← skipWhile (· == blank) mem stop (stop - nameEnd + 1) nameEnd
    require (pos < stop) (.nothingFollowsBlanks name) pos do
      segmentValue mem trimmedStart pos stop

def nextCapabilitiesSegment (mem : List Byte) (start len : Nat) : Exec NextSegment := do
  let stop := start + len
  let trimmedStart ← ltrim mem start len
  let trimmedLen := len - (trimmedStart - start)
  if trimmedLen = 0 then return .null
  let first ← fetch mem trimmedStart
  require (first ≠ lparen) .missingName trimmedStart do
    segmentName mem trimmedStart stop

/-! ## The values of the segments -/

/-- `Capabilities_Feature_Record`; `values` and `value_string` are `NULL` when no list follows the code. -/
structure CapabilitiesFeature where
  featureId : Byte
  values : Option (List Byte)
  valueString : Option (List Byte)
  validValues : Bool
  deriving DecidableEq, Repr

/-- The record, and the messages added.  Without a list `valid_values` stays as `calloc` left it. -/
def parseCapabilitiesFeature (featureId : Byte) (valueString : Option (List Byte)) :
    CapabilitiesFeature × List CapsMessage :=
  match valueString with
  | none => (⟨featureId, none, none, false⟩, [])
  | some vals =>
    let r := storeBytehexList vals
    (⟨featureId, some r.2, some vals, r.1⟩, if r.1 = true then [] else [.invalidValue featureId vals])

structure VcpResult where
  result : CapsValidity
  vcpArray : List CapabilitiesFeature
  messages : List CapsMessage
  deriving DecidableEq, Repr

def VcpResult.invalidCode (r : VcpResult) (first : Byte) : VcpResult :=
  { r with result := degrade r.result, messages := r.messages ++ [.invalidCode first] }

def VcpResult.valuesNotClosed (r : VcpResult) : VcpResult :=
  { r with result := .invalid, messages := r.messages ++ [.valuesNotClosed] }

def VcpResult.addFeature (r : VcpResult) (featureId : Option Byte) (valueString : Option (List Byte)) : VcpResult :=
  match featureId with
  | none => r
  | some id =>
    let vfr := parseCapabilitiesFeature id valueString
    { result := if vfr.1.validValues = true then r.result else degrade r.result
      vcpArray := r.vcpArray ++ [vfr.1]
      messages := r.messages ++ vfr.2 }

structure VcpLoop where
  pos : Nat
  bye : Bool
  out : VcpResult
  deriving DecidableEq, Repr

def featureCode (mem : List Byte) (st len : Nat) : Exec (Option Byte) :=
  if len = 2 then do
    let c0 ← fetch mem st
    let c1 ← fetch mem (st + 1)
    return hhcToByteInBuf c0 c1
  else return none

def vcpValues (mem : List Byte) (stop pos : Nat) (out : VcpResult) (featureId : Option Byte) : Exec VcpLoop := do
  let c ← fetch mem pos
  if c = lparen then do
    let valueEnd ← findClosingParen mem pos stop
    if valueEnd = stop then return ⟨pos, true, out.valuesNotClosed⟩
    let vals ← span mem (pos + 1) (valueEnd - (pos + 1))
    return ⟨valueEnd + 1, false, out.addFeature featureId (some vals)⟩
  else return ⟨pos, false, out.addFeature featureId none⟩

/-- One turn of the loop of `parse_vcp_segment`: a feature code and the values behind it. -/
def vcpTurn (mem : List Byte) (stop : Nat) (s : VcpLoop) : Exec VcpLoop := do
  let st ← readWhile (· == blank) mem stop (stop - s.pos + 1) s.pos
  if st = stop then return { s with pos := st, bye := true }
  let pos ← readWhile (fun c => c != blank && c != lparen) mem stop (stop - st + 1) st
  let len := if 2 < pos - st then 2 else pos - st -- codes not separated by blanks: the first two characters
  let featureId ← featureCode mem st len
  let first ← fetch mem st
  vcpValues mem stop (st + len) (if featureId = none then s.out.invalidCode first else s.out) featureId

def VcpLoop.more (stop : Nat) (s : VcpLoop) : Bool := !s.bye && decide (s.pos < stop)

def parseVcpSegment (mem : List Byte) (start len : Nat) (vcpArray : List CapabilitiesFeature)
    (messages : List CapsMessage) : Exec VcpResult := do
  let s ← whileLoop (VcpLoop.more (start + len)) (vcpTurn mem (start + len)) (len + 1)
    ⟨start, false, ⟨.valid, vcpArray, messages⟩⟩
  return s.out

def parseCmdsSegment (value : List Byte) : Option (List Byte) × List CapsMessage :=
  let r := storeBytehexList value
  if r.1 = true then (some r.2, []) else (none, [.commandsList value])

/-! ## The whole string -/

structure ParsedCapabilities where
  rawValue : List Byte
  model : Option (List Byte)
  mccsVersionString : Option (List Byte)
  parsedMccsVersion : VersionSpec
  rawCmdsSegmentSeen : Bool
  rawCmdsSegmentValid : Bool
  commands : Option (List Byte)
  rawVcpFeaturesSeen : Bool
  vcpFeatures : List CapabilitiesFeature
  capsValidity : CapsValidity
  messages : List CapsMessage
  deriving DecidableEq, Repr

def ParsedCapabilities.init (rawValue : List Byte) : ParsedCapabilities :=
  ⟨rawValue, none, none, vspecUnqueried, false, false, none, false, [], .valid, []⟩

def applyCmds (pcaps : ParsedCapabilities) (value : List Byte) : ParsedCapabilities :=
  let r := parseCmdsSegment value
  { pcaps with
    rawCmdsSegmentSeen := true
    commands := r.1
    rawCmdsSegmentValid := r.1.isSome
    capsValidity := if r.1 = none then degrade pcaps.capsValidity else pcaps.capsValidity
    messages := pcaps.messages ++ r.2 }

def applyVcp (pcaps : ParsedCapabilities) (r : VcpResult) : ParsedCapabilities :=
  { pcaps with
    rawVcpFeaturesSeen := true
    capsValidity := updateValidity pcaps.capsValidity r.result
    vcpFeatures := r.vcpArray
    messages := r.messages }

def applyMccsVer (pcaps : ParsedCapabilities) (value : List Byte) : ParsedCapabilities :=
  let vspec := parseVspec (cstr value)
  { pcaps with
    mccsVersionString := some value
    parsedMccsVersion := vspec
    capsValidity := if vspec = vspecUnknown then degrade pcaps.capsValidity else pcaps.capsValidity
    messages := if vspec = vspecUnknown then pcaps.messages ++ [.invalidMccsVer value] else pcaps.messages }

def applyModel (pcaps : ParsedCapabilities) (value : List Byte) : ParsedCapabilities :=
  { pcaps with model := some value }

def parseSegment (mem : List Byte) (seg : CapabilitiesSegment) (pcaps : ParsedCapabilities) :
    Exec ParsedCapabilities := do
  let name ← span mem seg.nameStart seg.nameLen
  let value ← span mem seg.valueStart seg.valueLen
  if name = ascii "cmds" then return applyCmds pcaps value
  else if name = ascii "vcp" ∨ name = ascii "VCP" then do
    let r ← parseVcpSegment mem seg.valueStart seg.valueLen pcaps.vcpFeatures pcaps.messages
    return applyVcp pcaps r
  else if name = ascii "mccs_ver" then return applyMccsVer pcaps value
  else if name = ascii "model" then return applyModel pcaps value
  else return pcaps

structure CapsLoop where
  bufStart : Nat
  bufLen : Nat
  stopped : Bool
  pcaps : ParsedCapabilities
  deriving DecidableEq, Repr

def capsTurn (mem : List Byte) (s : CapsLoop) : Exec CapsLoop := do
  let next ← nextCapabilitiesSegment mem s.bufStart s.bufLen
  match next with
  | .null => .error .nullDeref -- `seg->name_start` with `seg == NULL`
  | .failed msg =>
    return { s with
      stopped := true
      pcaps := { s.pcaps with capsValidity := .invalid, messages := s.pcaps.messages ++ [msg] } }
  | .segment seg =>
    let pcaps ← parseSegment mem seg s.pcaps
    return ⟨seg.remainderStart, seg.remainderLen, false, pcaps⟩

def CapsLoop.more (s : CapsLoop) : Bool := !s.stopped && decide (0 < s.bufLen)

def capsStart (mem : List Byte) (bufLen : Nat) : Exec CapsLoop := do
  let bufLen ← rtrimLen mem bufLen
  let rawValue ← span mem 0 bufLen
  let pcaps := ParsedCapabilities.init rawValue
  let first ← fetch mem 0
  if first = lparen then do
    let last ← fetchLast mem bufLen
    if last ≠ rparen then
      return ⟨0, bufLen, true,
        { pcaps with capsValidity := .invalid, messages := pcaps.messages ++ [.lacksClosingParenthesis] }⟩
    -- the first and the last byte differ, so there are two of them
    return ⟨1, bufLen - 2, false, pcaps⟩
  else return ⟨0, bufLen, false, pcaps⟩

def parseCapabilities (bytes : List Byte) : Exec ParsedCapabilities := do
  let mem := bytes ++ [0]
  let start ← capsStart mem bytes.length
  let s ← whileLoop CapsLoop.more (capsTurn mem) (bytes.length + 1) start
  return s.pcaps

end Ddc
