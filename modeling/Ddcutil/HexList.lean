import Ddcutil.Status
/-!
# HexList — numbers in text

What the capabilities parser reads from characters: `strtol` and its two users, `hhs_to_byte_in_buf` for hex bytes and
`sscanf("%hhd . %hhd")` for a version, and `store_bytehex_list` for a list of hex bytes between blanks.
-/
namespace Ddc

def ascii (s : String) : List Byte := s.toList.map fun c => UInt8.ofNat c.toNat

def blank : Byte := 0x20

def cstr (buf : List Byte) : List Byte := buf.takeWhile (· != 0)

theorem noNul_of_all {s : List Byte} (h : s.all (· != 0) = true) : ∀ c ∈ s, c ≠ 0 :=
  fun c hc => bne_iff_ne.1 (List.all_eq_true.1 h c hc)

/-! ## `strtol` -/

def isspace (c : Byte) : Bool := c == blank || (decide (0x09 ≤ c) && decide (c ≤ 0x0d))

def digitVal (c : Byte) : Option Nat :=
  if 0x30 ≤ c ∧ c ≤ 0x39 then some (c.toNat - 0x30)
  else if 0x41 ≤ c ∧ c ≤ 0x5a then some (c.toNat - 0x41 + 10)
  else if 0x61 ≤ c ∧ c ≤ 0x7a then some (c.toNat - 0x61 + 10)
  else none

def isDigit (base : Nat) (c : Byte) : Bool := (digitVal c).any fun d => decide (d < base)

def digitsVal (base : Nat) (digits : List Byte) : Nat :=
  digits.foldl (fun n c => n * base + (digitVal c).getD 0) 0

def takeSign : List Byte → Bool × List Byte
  | [] => (false, [])
  | c :: s => if c = 0x2d then (true, s) else if c = 0x2b then (false, s) else (false, c :: s)

def dropHexPrefix : List Byte → List Byte
  | 0x30 :: x :: d :: s => if (x = 0x78 ∨ x = 0x58) ∧ isDigit 16 d = true then d :: s else 0x30 :: x :: d :: s
  | s => s

def longMax : Int := 0x7fffffffffffffff
def longMin : Int := -0x8000000000000000

structure Strtol where
  value : Int
  erange : Bool
  rest : List Byte

def strtol (s : List Byte) (base : Nat) : Strtol :=
  let signed := takeSign (s.dropWhile isspace)
  let t := if base = 16 then dropHexPrefix signed.2 else signed.2
  let digits := t.takeWhile (isDigit base)
  if digits = [] then ⟨0, false, s⟩
  else
    let n : Int := if signed.1 then -digitsVal base digits else digitsVal base digits
    ⟨max longMin (min longMax n), decide (n < longMin ∨ longMax < n), t.dropWhile (isDigit base)⟩

def hhsToByteInBuf (s : List Byte) : Option Byte :=
  if s.length ≠ 2 then none
  else
    let r := strtol s 16
    if r.rest ≠ [] ∨ r.erange = true then none else some (UInt8.ofInt r.value)

def hhcToByteInBuf (c0 c1 : Byte) : Option Byte := hhsToByteInBuf (cstr [c0, c1])

def strtok (s : List Byte) : List (List Byte) := (s.splitOnP (· == blank)).filter (· ≠ [])

def tokenByte : List Byte → Option Byte
  | [c0, c1] => hhcToByteInBuf c0 c1
  | [c] => hhcToByteInBuf 0x30 c
  | _ => none

def storeToken (acc : Bool × List Byte) (tok : List Byte) : Bool × List Byte :=
  match tokenByte tok with
  | some byteVal => (acc.1, acc.2 ++ [byteVal])
  | none => (false, acc.2)

/-- `store_bytehex_list`: whether every token was a byte, and the bytes the appender was given. -/
def storeBytehexList (buf : List Byte) : Bool × List Byte := (strtok (cstr buf)).foldl storeToken (true, [])

/-! ## Versions -/

structure VersionSpec where
  major : Byte
  minor : Byte
  deriving DecidableEq, Repr

def vspecUnknown : VersionSpec := ⟨0, 0⟩
def vspecUnqueried : VersionSpec := ⟨0xff, 0xff⟩

def vcpVersionIsValid (vspec : VersionSpec) : Bool :=
  vspec == ⟨1, 0⟩ || vspec == ⟨2, 0⟩ || vspec == ⟨2, 1⟩ || vspec == ⟨3, 0⟩ || vspec == ⟨2, 2⟩

/-- `%hhd`: the number `strtol` reads, cut to a byte; no digits is a matching failure. -/
def scanHhd (s : List Byte) : Option (Byte × List Byte) :=
  let r := strtol s 10
  if r.rest = s then none else some (UInt8.ofInt r.value, r.rest)

def scanDot (s : List Byte) : Option (List Byte) :=
  match s.dropWhile isspace with
  | [] => none
  | c :: t => if c = 0x2e then some (t.dropWhile isspace) else none

def scanVspec (s : List Byte) : Option VersionSpec := do
  let (major, s) ← scanHhd s
  let s ← scanDot s
  let (minor, _) ← scanHhd s
  return ⟨major, minor⟩

def parseVspec (s : List Byte) : VersionSpec :=
  match scanVspec s with
  | none => vspecUnknown
  | some v => if v.major > 3 ∨ v.minor > 2 then vspecUnknown else v

end Ddc
