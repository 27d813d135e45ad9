import Ddcutil.SetVcpVerify
import Ddcutil.StringUtil
import Ddcutil.VcpFeatureCodes
/-!
# AppSetvcp — the command that sets a feature

`app_setvcp.c`: the value of a feature is given as text, absolute or relative to the current value.
-/
namespace Ddc

open Kit List Exec

/-! ## The command -/

inductive SetvcpValueType where
  | absolute | relativePlus | relativeMinus
  deriving DecidableEq

def vcpRange (n : Option Int) : Option Int := n.filter fun n => 0 ≤ n ∧ n ≤ 65535

/-- `parse_vcp_value`, without its messages: the value, where the conversion was successful.  The canonicalizer reads the
byte before the string where the string is empty. -/
def parseVcpValue (stringValue : List Byte) : Exec (Option Int) :=
  if stringValue = [] then .error .outOfBounds
  else .ok (vcpRange (strToInt0 (canonicalizePossibleHexValue stringValue)))

/-- **What `app_set_vcp_value` works with**: a display, a feature and what is known of it, and what the two bytes of the
value record that it does not set hold. -/
structure SetvcpCall where
  st : VcpSettings
  dh : DisplayHandle
  d : VcpDisplay
  io : VcpIo
  featureCode : Byte
  dfm : Option DisplayFeatureMetadata
  valueType : SetvcpValueType
  unsetBytes : Byte × Byte
  pscDesc : Status → String

def SetvcpCall.errinfo (psc : Status) (detail : List Byte) : ErrorInfo := ⟨psc, "app_set_vcp_value", some (asText detail), []⟩

def responseCurValue (r : ParsedNontableVcpResponse) : Int := hiLoBytesToShort r.sh r.sl

def responseMaxValue (r : ParsedNontableVcpResponse) : Int := hiLoBytesToShort r.mh r.ml

def relativeValue (valueType : SetvcpValueType) (r : ParsedNontableVcpResponse) (itemp : Int) : Int :=
  match valueType with
  | .relativePlus =>
    if responseMaxValue r < responseCurValue r + itemp then responseMaxValue r else responseCurValue r + itemp
  | _ => if responseCurValue r - itemp < 0 then 0 else responseCurValue r - itemp

namespace SetvcpCall

def valueRecord (c : SetvcpCall) (itemp : Int) : AnyVcpValue :=
  ⟨c.featureCode, .cNc c.unsetBytes.1 c.unsetBytes.2 (UInt8.ofInt (itemp / 256)) (UInt8.ofInt itemp)⟩

def setValue (c : SetvcpCall) (io : VcpIo) (vrec : AnyVcpValue) : Exec (Option ErrorInfo × VcpIo) := do
  let r ← ddcSetVerifiedVcpValueWithRetry c.st c.dh c.d io vrec false
  match r.excp with
  | none => .ok (none, r.io)
  | some e =>
    let detail :=
      if e.statusCode = ddcrcVerify then
        asText (ascii "Verification failed for feature " ++ hexByte false c.featureCode)
      else
        asText (ascii "Setting value failed for feature x" ++ hexByte true c.featureCode ++ ascii ", rc=") ++
          c.pscDesc e.statusCode
    .ok (some ⟨e.statusCode, "app_set_vcp_value", some detail, [e]⟩, r.io)

def setTable (c : SetvcpCall) (newValue : List Byte) : Exec (Option ErrorInfo × VcpIo) :=
  if c.valueType ≠ .absolute then
    .ok (some (errinfo ddcrcInvalidOperation (ascii "Relative VCP values valid only for Continuous VCP features")), c.io)
  else
    match hhsToByteArray newValue with
    | none => .ok (some (errinfo ddcrcArg (ascii "Invalid hex value")), c.io)
    | some bytes => c.setValue c.io ⟨c.featureCode, .t bytes⟩

def setRelative (c : SetvcpCall) (itemp : Int) : Exec (Option ErrorInfo × VcpIo) := do
  let (reply, io) ← ddcGetNontableVcpValue c.dh c.d c.io c.featureCode
  match reply with
  | .error e =>
    .ok (some ⟨e.statusCode, "app_set_vcp_value",
      some (asText (ascii "Getting value failed for feature " ++ hexByte false c.featureCode ++ ascii ", rc=") ++
        c.pscDesc e.statusCode), [e]⟩, io)
  | .ok parsedResponse => c.setValue io (c.valueRecord (relativeValue c.valueType parsedResponse itemp))

def setNontable (c : SetvcpCall) (dfm : DisplayFeatureMetadata) (newValue : List Byte) :
    Exec (Option ErrorInfo × VcpIo) := do
  let value ← parseVcpValue newValue
  match value with
  | none => .ok (some (errinfo ddcrcArg (ascii "Invalid VCP value: " ++ newValue)), c.io)
  | some itemp =>
    if c.valueType = .absolute then c.setValue c.io (c.valueRecord itemp)
    else if dfm.versionFeatureFlags &&& ddcaCont = 0 then
      .ok (some (errinfo ddcrcInvalidOperation (ascii "Relative VCP values valid only for Continuous VCP features")), c.io)
    else c.setRelative itemp

/-- **`app_set_vcp_value`**; `dfm` is what `dyn_get_feature_metadata_by_dh` has found. -/
def appSetVcpValue (c : SetvcpCall) (newValue : List Byte) : Exec (Option ErrorInfo × VcpIo) := do
  check (newValue ≠ [])
  match c.dfm with
  | none =>
    .ok (some (errinfo ddcrcUnknownFeature (ascii "Unrecognized VCP feature code: 0x" ++ hexByte false c.featureCode)), c.io)
  | some dfm =>
    if dfm.versionFeatureFlags &&& ddcaWritable = 0 then
      .ok (some (errinfo ddcrcInvalidOperation (ascii "Feature 0x" ++ hexByte false c.featureCode ++ ascii " (" ++
        dfm.featureName.getD (ascii "(null)") ++ ascii ") is not writable")), c.io)
    else if dfm.versionFeatureFlags &&& ddcaTable ≠ 0 then c.setTable newValue
    else c.setNontable dfm newValue

end SetvcpCall

/-! ## What is promised -/

def hexNumeral (s : List Byte) : Option (List Byte) :=
  if s.head? = some 0x78 ∨ s.head? = some 0x58 then some (s.drop 1)
  else if strStartsWith s (ascii "0x") = true ∨ strStartsWith s (ascii "0X") = true then some (s.drop 2)
  else if s.getLast? = some 0x68 ∨ s.getLast? = some 0x48 then some s.dropLast
  else none

def wholeNumber (base : Nat) (signed : Bool × List Byte) : Option Int :=
  if signed.2 ≠ [] ∧ signed.2.all (isDigit base) = true then
    some (if signed.1 then -(digitsVal base signed.2 : Int) else digitsVal base signed.2)
  else none

/-- **The number that a text denotes**: hexadecimal digits after `x` or `0x` or before `h`, otherwise a decimal number. -/
def denotedNumber (s : List Byte) : Option Int :=
  match hexNumeral s with
  | some digits => wholeNumber 16 (false, digits)
  | none => wholeNumber 10 (takeSign s)

namespace SetvcpCall

def current (c : SetvcpCall) : Except ErrorInfo ParsedNontableVcpResponse :=
  c.d.read c.io.reads >>= checkNontableReply c.dh

/-- **The value that a request asks for**, if it is one: the number itself, or the current value and the number, from 0
to the maximum, where the feature is continuous and its value can be read. -/
def requested (c : SetvcpCall) (continuous : Bool) (newValue : List Byte) : Option Int :=
  match c.valueType with
  | .absolute => vcpRange (denotedNumber newValue)
  | .relativePlus =>
    if continuous = true then do
      let n ← vcpRange (denotedNumber newValue)
      let r ← c.current.toOption
      some (min (responseCurValue r + n) (responseMaxValue r))
    else none
  | .relativeMinus =>
    if continuous = true then do
      let n ← vcpRange (denotedNumber newValue)
      let r ← c.current.toOption
      some (max (responseCurValue r - n) 0)
    else none

structure Unwritten (c : SetvcpCall) (io : VcpIo) : Prop where
  writes : io.writes = c.io.writes
  tableWrites : io.tableWrites = c.io.tableWrites
  events : io.events = c.io.events

/-- **What a request does**: a value that is asked for is the one that is set, with nothing written before; where none is
asked for there is an error and nothing is written. -/
def Fulfils (c : SetvcpCall) (value : Option Int) (outcome : Exec (Option ErrorInfo × VcpIo)) : Prop :=
  match value with
  | some v => ∃ io mh ml sh sl, c.Unwritten io ∧ (hiLoBytesToShort sh sl : Int) = v ∧
      outcome = c.setValue io ⟨c.featureCode, .cNc mh ml sh sl⟩
  | none => ∃ err io, c.Unwritten io ∧ outcome = .ok (some err, io)

def Right (c : SetvcpCall) (dfm : DisplayFeatureMetadata) (newValue : List Byte) : Prop :=
  c.Fulfils (c.requested (dfm.versionFeatureFlags &&& ddcaCont != 0) newValue) (c.appSetVcpValue newValue)

end SetvcpCall

/-- **What is promised of a text**: every request with it for a feature that can be written and is no table is right. -/
def TextRight (newValue : List Byte) : Prop :=
  ∀ (c : SetvcpCall) (dfm : DisplayFeatureMetadata), c.dfm = some dfm → dfm.versionFeatureFlags &&& ddcaWritable ≠ 0 →
    dfm.versionFeatureFlags &&& ddcaTable = 0 → c.Right dfm newValue

/-- **A text that is not read as it is written**: the empty one; a number after white space; a signed number with `0x`;
a number with a zero in front that is read in octal, and not as the same number. -/
inductive Misread (s : List Byte) : Prop where
  | empty (h : s = [])
  | space (h : s.head?.any isspace = true) (n : Int) (hn : vcpRange (strToInt0 s) = some n)
  | signedHex (h : s.head? = some 0x2d ∨ s.head? = some 0x2b) (hbase : autoBase s = 16) (n : Int)
      (hn : vcpRange (strToInt0 s) = some n)
  | octal (h : s.head?.any isspace = false) (hbase : autoBase s = 8)
      (hn : vcpRange (strToInt0 s) ≠ vcpRange (strToInt s 10))

/-! ## The number in a text -/

def signedText (base : Nat) (s : List Byte) : Bool × List Byte :=
  let signed := takeSign (s.dropWhile isspace)
  (signed.1, if base = 16 then dropHexPrefix signed.2 else signed.2)

variable {base : Nat} {s : List Byte}

theorem wholeNumber_of_not {signed : Bool × List Byte} (h : ¬ (signed.2 ≠ [] ∧ signed.2.all (isDigit base) = true)) :
    wholeNumber base signed = none := if_neg h

theorem strtol_rest (hs : s ≠ []) :
    (strtol s base).rest = [] ↔ (signedText base s).2 ≠ [] ∧ (signedText base s).2.all (isDigit base) = true := by
  unfold strtol signedText
  dsimp only
  generalize (if base = 16 then dropHexPrefix (takeSign (s.dropWhile isspace)).2
    else (takeSign (s.dropWhile isspace)).2) = t
  by_cases hdigits : t.takeWhile (isDigit base) = []
  · rw [if_pos hdigits]
    refine ⟨fun h => absurd h hs, fun ⟨hne, hall⟩ => ?_⟩
    rw [takeWhile_eq_self_iff.2 (all_eq_true.1 hall)] at hdigits; exact absurd hdigits hne
  · rw [if_neg hdigits, dropWhile_eq_nil_iff, all_eq_true]
    refine ⟨fun hall => ⟨?_, hall⟩, fun h => h.2⟩
    rintro rfl
    exact hdigits rfl

theorem strtol_value (h : (signedText base s).2.takeWhile (isDigit base) ≠ []) :
    (strtol s base).value = max longMin (min longMax
      (if (signedText base s).1 then -(digitsVal base ((signedText base s).2.takeWhile (isDigit base)) : Int)
        else digitsVal base ((signedText base s).2.takeWhile (isDigit base)))) := by
  exact congrArg Strtol.value (if_neg h)

theorem vcpRange_strToInt (hs : s ≠ []) (hx : ¬ (s.head? = some 0x78 ∨ s.head? = some 0x58)) :
    vcpRange (strToInt s base) = vcpRange (wholeNumber base (signedText base s)) := by
  rw [strToInt, strToLong, if_neg hs]
  dsimp only
  rw [if_neg hx, if_neg fun h => hx h.1]
  by_cases hrest : (strtol s base).rest = []
  · rw [if_pos hrest]
    have hwhole := (strtol_rest hs).1 hrest
    have htake : (signedText base s).2.takeWhile (isDigit base) = (signedText base s).2 :=
      takeWhile_eq_self_iff.2 (all_eq_true.1 hwhole.2)
    have hvalue := strtol_value (s := s) (htake ▸ hwhole.1)
    rw [htake] at hvalue
    rw [wholeNumber, if_pos hwhole]
    generalize (if (signedText base s).1 then -(digitsVal base (signedText base s).2 : Int)
      else digitsVal base (signedText base s).2) = n at hvalue ⊢
    have hmin : longMin = -9223372036854775808 := by decide
    have hmax : longMax = 9223372036854775807 := by decide
    have himin : intMin = -2147483648 := by decide
    have himax : intMax = 2147483647 := by decide
    unfold vcpRange
    rw [hvalue]
    by_cases hn : 0 ≤ n ∧ n ≤ 65535
    · have hclamp : max longMin (min longMax n) = n := by omega
      rw [hclamp, Option.filter_some, if_pos (decide_eq_true (by omega))]
    · rw [Option.filter_some (a := n), if_neg (by simpa using hn)]
      by_cases hint : intMin ≤ max longMin (min longMax n) ∧ max longMin (min longMax n) ≤ intMax
      · rw [Option.filter_some, if_pos (decide_eq_true hint), Option.filter_some, if_neg]
        have hclamp : max longMin (min longMax n) = n := by omega
        rw [hclamp]
        simpa using hn
      · rw [Option.filter_some, if_neg (by simpa using hint)]; rfl
  · rw [if_neg hrest, wholeNumber_of_not fun h => hrest ((strtol_rest hs).2 h)]; rfl

theorem strToInt0_eq (hx : ¬ (s.head? = some 0x78 ∨ s.head? = some 0x58)) :
    strToInt0 s = strToInt s (autoBase s) := by
  rw [strToInt0, strToLong0, if_neg hx]; rfl

theorem vcpRange_strToInt0 (hs : s ≠ []) (hx : ¬ (s.head? = some 0x78 ∨ s.head? = some 0x58)) :
    vcpRange (strToInt0 s) = vcpRange (wholeNumber (autoBase s) (signedText (autoBase s) s)) := by
  rw [strToInt0_eq hx, vcpRange_strToInt hs hx]

theorem wholeNumber_dropHexPrefix (neg : Bool) {x : Byte} (hx : x = 0x78 ∨ x = 0x58) (ds : List Byte) :
    wholeNumber 16 (neg, dropHexPrefix (0x30 :: x :: ds)) = wholeNumber 16 (neg, ds) := by
  have hdigit : isDigit 16 x = false := by rcases hx with rfl | rfl <;> decide
  have hnone : wholeNumber 16 (neg, 0x30 :: x :: ds) = none :=
    wholeNumber_of_not fun h => by simp [hdigit] at h
  cases ds with
  | nil =>
    rw [dropHexPrefix, hnone, wholeNumber_of_not fun h => h.1 rfl]
    rintro x' d s' h
    cases h
  | cons d ds =>
    rw [dropHexPrefix]
    by_cases hd : isDigit 16 d = true
    · rw [if_pos ⟨hx, hd⟩]
    · rw [if_neg fun h => hd h.2, hnone, wholeNumber_of_not fun h => by simp [hd] at h]

theorem vcpRange_canonicalHex (ds : List Byte) :
    vcpRange (strToInt0 (ascii "0x" ++ ds)) = vcpRange (wholeNumber 16 (false, ds)) := by
  have htext : ascii "0x" ++ ds = 0x30 :: 0x78 :: ds := rfl
  have hskip : (0x30 :: 0x78 :: ds).dropWhile isspace = 0x30 :: 0x78 :: ds := dropWhile_cons_of_neg (by decide)
  have hsign : takeSign (0x30 :: 0x78 :: ds) = (false, 0x30 :: 0x78 :: ds) := rfl
  have hbase : autoBase (0x30 :: 0x78 :: ds) = 16 := by rfl
  have hsigned : signedText 16 (0x30 :: 0x78 :: ds) = (false, dropHexPrefix (0x30 :: 0x78 :: ds)) := by
    rfl
  rw [htext, vcpRange_strToInt0 (cons_ne_nil _ _) (by simp), hbase, hsigned,
    wholeNumber_dropHexPrefix false (.inl rfl)]

theorem dropHexPrefix_suffix (s : List Byte) : dropHexPrefix s <:+ s := by
  unfold dropHexPrefix
  split
  · split
    · exact (suffix_cons _ _).trans (suffix_cons _ _)
    · exact suffix_refl _
  · exact suffix_refl _

theorem takeSign_suffix (s : List Byte) : (takeSign s).2 <:+ s := by
  cases s with
  | nil => exact suffix_refl _
  | cons c s =>
    rw [takeSign]
    split_ifs
    · exact suffix_cons c s
    · exact suffix_cons c s
    · exact suffix_refl _

theorem signedText_suffix (base : Nat) (s : List Byte) : (signedText base s).2 <:+ s := by
  have hskip := (takeSign_suffix (s.dropWhile isspace)).trans (dropWhile_suffix isspace)
  unfold signedText
  split
  · exact (dropHexPrefix_suffix _).trans hskip
  · exact hskip

theorem wholeNumber_of_last {c : Byte} (hlast : s.getLast? = some c) (hc : isDigit base c = false)
    {signed : Bool × List Byte} (hsuffix : signed.2 <:+ s) : wholeNumber base signed = none := by
  refine wholeNumber_of_not fun ⟨hne, hall⟩ => ?_
  have hlast' : signed.2.getLast? = some c := by
    rw [← hlast]
    obtain ⟨pre, rfl⟩ := hsuffix
    rw [getLast?_append_of_ne_nil _ hne]
  have hmem := all_eq_true.1 hall c (mem_of_getLast? hlast')
  rw [hc] at hmem; cases hmem

theorem autoBase_cases (s : List Byte) : autoBase s = 16 ∨ autoBase s = 8 ∨ autoBase s = 10 := by
  unfold autoBase
  split
  · split_ifs
    · exact .inl rfl
    · exact .inr (.inl rfl)
  · exact .inr (.inl rfl)
  · exact .inr (.inr rfl)

theorem vcpRange_of_last_h (hs : s ≠ []) (hx : ¬ (s.head? = some 0x78 ∨ s.head? = some 0x58))
    (hlast : s.getLast? = some 0x68 ∨ s.getLast? = some 0x48) :
    vcpRange (strToInt0 s) = none ∧ vcpRange (strToInt s 10) = none := by
  have hnone : ∀ base, base = 16 ∨ base = 8 ∨ base = 10 → wholeNumber base (signedText base s) = none := by
    intro base hbase
    rcases hlast with hlast | hlast
    · exact wholeNumber_of_last hlast (by rcases hbase with rfl | rfl | rfl <;> decide) (signedText_suffix base s)
    · exact wholeNumber_of_last hlast (by rcases hbase with rfl | rfl | rfl <;> decide) (signedText_suffix base s)
  constructor
  · rw [vcpRange_strToInt0 hs hx, hnone _ (autoBase_cases s)]; rfl
  · rw [vcpRange_strToInt hs hx, hnone 10 (.inr (.inr rfl))]; rfl

theorem head_eq_of_strStartsWith {x : Byte} (h : strStartsWith s [0x30, x] = true) : ∃ ds, s = 0x30 :: x :: ds := by
  obtain ⟨ds, rfl⟩ := isPrefixOf_iff_prefix.1 h
  exact ⟨ds, rfl⟩

theorem vcpRange_of_hexNumeral {digits : List Byte} (hdigits : hexNumeral s = some digits) :
    vcpRange (strToInt0 (canonicalizePossibleHexValue s)) = vcpRange (wholeNumber 16 (false, digits)) := by
  unfold hexNumeral at hdigits
  unfold canonicalizePossibleHexValue
  by_cases hx : s.head? = some 0x78 ∨ s.head? = some 0x58
  · rw [if_pos hx, Option.some.injEq] at hdigits
    rw [if_pos hx.symm, ← hdigits, vcpRange_canonicalHex]
  · rw [if_neg hx] at hdigits
    rw [if_neg fun h => hx h.symm]
    by_cases hprefix : strStartsWith s (ascii "0x") = true ∨ strStartsWith s (ascii "0X") = true
    · rw [if_pos hprefix, Option.some.injEq] at hdigits
      obtain ⟨x, hx', ds, rfl⟩ : ∃ x : Byte, (x = 0x78 ∨ x = 0x58) ∧ ∃ ds, s = 0x30 :: x :: ds := by
        rcases hprefix with h | h
        · exact ⟨0x78, .inl rfl, head_eq_of_strStartsWith h⟩
        · exact ⟨0x58, .inr rfl, head_eq_of_strStartsWith h⟩
      have hds : digits = ds := hdigits.symm
      rw [hds]
      by_cases hlast : (0x30 :: x :: ds).getLast? = some 0x48 ∨ (0x30 :: x :: ds).getLast? = some 0x68
      · rw [if_pos hlast, vcpRange_canonicalHex]
        have hxdigit : isDigit 16 x = false := by rcases hx' with rfl | rfl <;> decide
        cases ds with
        | nil => rcases hx' with rfl | rfl <;> simp at hlast
        | cons d ds =>
          have hleft : wholeNumber 16 (false, (0x30 :: x :: d :: ds).dropLast) = none :=
            wholeNumber_of_not fun h => by simp [hxdigit] at h
          have hright : wholeNumber 16 (false, d :: ds) = none := by
            have hsuffix : d :: ds <:+ 0x30 :: x :: d :: ds := (suffix_cons _ _).trans (suffix_cons _ _)
            rcases hlast with hlast | hlast
            · exact wholeNumber_of_last hlast (by decide) hsuffix
            · exact wholeNumber_of_last hlast (by decide) hsuffix
          rw [hleft, hright]
      · rw [if_neg hlast]
        by_cases hupper : strStartsWith (0x30 :: x :: ds) (ascii "0X") = true
        · rw [if_pos hupper]; exact vcpRange_canonicalHex ds
        · have hlower : x = 0x78 := by
            rcases hx' with rfl | rfl
            · rfl
            · exact absurd ( isPrefixOf_iff_prefix.2 ⟨ds, rfl⟩) hupper
          subst hlower; exact vcpRange_canonicalHex ds
    · rw [if_neg hprefix] at hdigits
      by_cases hlast : s.getLast? = some 0x68 ∨ s.getLast? = some 0x48
      · rw [if_pos hlast, Option.some.injEq] at hdigits
        rw [if_pos hlast.symm, ← hdigits, vcpRange_canonicalHex]
      · rw [if_neg hlast] at hdigits; cases hdigits

theorem canonicalize_of_hexNumeral_none (h : hexNumeral s = none) :
    canonicalizePossibleHexValue s = s ∧ ¬ (s.head? = some 0x78 ∨ s.head? = some 0x58) ∧
      ¬ (strStartsWith s (ascii "0x") = true ∨ strStartsWith s (ascii "0X") = true) := by
  unfold hexNumeral at h
  by_cases hx : s.head? = some 0x78 ∨ s.head? = some 0x58
  · rw [if_pos hx] at h; cases h
  · rw [if_neg hx] at h
    by_cases hprefix : strStartsWith s (ascii "0x") = true ∨ strStartsWith s (ascii "0X") = true
    · rw [if_pos hprefix] at h; cases h
    · rw [if_neg hprefix] at h
      by_cases hlast : s.getLast? = some 0x68 ∨ s.getLast? = some 0x48
      · rw [if_pos hlast] at h; cases h
      · refine ⟨?_, hx, hprefix⟩
        unfold canonicalizePossibleHexValue
        rw [if_neg fun h => hx h.symm, if_neg fun h => hlast h.symm, if_neg fun h => hprefix (.inr h)]

theorem not_misread_of_hexNumeral {digits : List Byte} (hs : s ≠ []) (hdigits : hexNumeral s = some digits) :
    ¬ Misread s := by
  unfold hexNumeral at hdigits
  by_cases hx : s.head? = some 0x78 ∨ s.head? = some 0x58
  · obtain ⟨x, ds, rfl⟩ := exists_cons_of_ne_nil hs
    have hx' : x = 0x78 ∨ x = 0x58 := hx.imp Option.some.inj Option.some.inj
    rintro (h | ⟨h, n, hn⟩ | ⟨h, hbase, n, hn⟩ | ⟨h, hbase, hn⟩)
    · exact hs h
    · rcases hx' with rfl | rfl <;> exact absurd h (by simp [isspace, blank])
    · rcases hx' with rfl | rfl <;> exact absurd h (by simp)
    · rcases hx' with rfl | rfl <;> exact absurd hbase (by simp [autoBase, isspace, blank, takeSign])
  · rw [if_neg hx] at hdigits
    by_cases hprefix : strStartsWith s (ascii "0x") = true ∨ strStartsWith s (ascii "0X") = true
    · obtain ⟨x, hx', ds, rfl⟩ : ∃ x : Byte, (x = 0x78 ∨ x = 0x58) ∧ ∃ ds, s = 0x30 :: x :: ds := by
        rcases hprefix with h | h
        · exact ⟨0x78, .inl rfl, head_eq_of_strStartsWith h⟩
        · exact ⟨0x58, .inr rfl, head_eq_of_strStartsWith h⟩
      rintro (h | ⟨h, n, hn⟩ | ⟨h, hbase, n, hn⟩ | ⟨h, hbase, hn⟩)
      · exact hs h
      · exact absurd h (by simp [isspace, blank])
      · exact absurd h (by simp)
      · rcases hx' with rfl | rfl <;> exact absurd hbase (by simp [autoBase, isspace, blank, takeSign])
    · rw [if_neg hprefix] at hdigits
      by_cases hlast : s.getLast? = some 0x68 ∨ s.getLast? = some 0x48
      · obtain ⟨h0, h10⟩ := vcpRange_of_last_h hs hx hlast
        rintro (h | ⟨h, n, hn⟩ | ⟨h, hbase, n, hn⟩ | ⟨h, hbase, hn⟩)
        · exact hs h
        · rw [h0] at hn; cases hn
        · rw [h0] at hn; cases hn
        · exact hn (h0.trans h10.symm)
      · rw [if_neg hlast] at hdigits; cases hdigits

theorem autoBase_eq_sixteen (h : autoBase s = 16) :
    ∃ x ds, (x = 0x78 ∨ x = 0x58) ∧ (takeSign (s.dropWhile isspace)).2 = 0x30 :: x :: ds := by
  unfold autoBase at h
  split at h
  · rename_i x ds heq
    by_cases hx : x = 0x78 ∨ x = 0x58
    · exact ⟨x, ds, hx, heq⟩
    · rw [if_neg hx] at h; cases h
  · cases h
  · cases h

theorem signedText_of_not_sixteen (hbase : base ≠ 16) (h : s.head?.any isspace = false) :
    signedText base s = takeSign s := by
  have hskip : s.dropWhile isspace = s := by
    cases s with
    | nil => rfl
    | cons c s => exact dropWhile_cons_of_neg (by simpa using h)
  unfold signedText
  rw [hskip]
  dsimp only
  rw [if_neg hbase]

theorem vcpRange_of_decimal (hs : s ≠ []) (hnone : hexNumeral s = none) :
    vcpRange (strToInt0 s) = vcpRange (wholeNumber 10 (takeSign s)) ↔ ¬ Misread s := by
  obtain ⟨-, hx, hprefix⟩ := canonicalize_of_hexNumeral_none hnone
  obtain ⟨c, t, rfl⟩ := exists_cons_of_ne_nil hs
  by_cases hspace : isspace c = true
  · -- a blank is no decimal digit
    have hdenoted : wholeNumber 10 (takeSign (c :: t)) = none := by
      have hsign : takeSign (c :: t) = (false, c :: t) := by
        rw [takeSign, if_neg (by rintro rfl; exact absurd hspace (by decide)),
          if_neg (by rintro rfl; exact absurd hspace (by decide))]
      have hdigit : isDigit 10 c = false := by
        rw [← Bool.not_eq_true]
        intro hdigit
        obtain ⟨n, hn⟩ := exists_digitVal hdigit
        rw [isspace_of_digitVal hn] at hspace; cases hspace
      rw [hsign]; exact wholeNumber_of_not fun h => by simp [hdigit] at h
    rw [hdenoted]
    constructor
    · rintro heq (h | ⟨h, n, hn⟩ | ⟨h, hbase, n, hn⟩ | ⟨h, hbase, hn⟩)
      · exact hs h
      · rw [heq] at hn; cases hn
      · rw [heq] at hn; cases hn
      · rw [head?_cons, Option.any_some, hspace] at h; cases h
    · intro hmis
      cases hread : vcpRange (strToInt0 (c :: t)) with
      | none => rfl
      | some n => exact absurd (@Misread.space (c :: t) hspace n hread) hmis
  · have hhead : (c :: t).head?.any isspace = false := by simpa using hspace
    have hten : vcpRange (strToInt (c :: t) 10) = vcpRange (wholeNumber 10 (takeSign (c :: t))) := by
      rw [vcpRange_strToInt hs hx, signedText_of_not_sixteen (by decide) hhead]
    have hskip : (c :: t).dropWhile isspace = c :: t := dropWhile_cons_of_neg hspace
    rcases autoBase_cases (c :: t) with hbase | hbase | hbase
    · -- a prefix that is not at the front follows a sign
      obtain ⟨x, ds, hx', hsigned⟩ := autoBase_eq_sixteen hbase
      rw [hskip] at hsigned
      have hdenoted : wholeNumber 10 (takeSign (c :: t)) = none := by
        have hxdigit : isDigit 10 x = false := by rcases hx' with rfl | rfl <;> decide
        exact wholeNumber_of_not fun h => by simp [hsigned, hxdigit] at h
      have hsign : (c :: t).head? = some 0x2d ∨ (c :: t).head? = some 0x2b := by
        by_contra hno
        rw [not_or] at hno
        rw [takeSign, if_neg fun h => hno.1 (congrArg some h), if_neg fun h => hno.2 (congrArg some h)] at hsigned
        refine hprefix (hx'.imp ?_ ?_)
        · rintro rfl
          exact isPrefixOf_iff_prefix.2 ⟨ds, hsigned.symm⟩
        · rintro rfl
          exact isPrefixOf_iff_prefix.2 ⟨ds, hsigned.symm⟩
      rw [hdenoted]
      constructor
      · rintro heq (h | ⟨h, n, hn⟩ | ⟨h, hbase', n, hn⟩ | ⟨h, hbase', hn⟩)
        · exact hs h
        · rw [heq] at hn; cases hn
        · rw [heq] at hn; cases hn
        · rw [hbase] at hbase'; cases hbase'
      · intro hmis
        cases hread : vcpRange (strToInt0 (c :: t)) with
        | none => rfl
        | some n => exact absurd (Misread.signedHex hsign hbase n hread) hmis
    · rw [← hten]
      constructor
      · rintro heq (h | ⟨h, n, hn⟩ | ⟨h, hbase', n, hn⟩ | ⟨h, hbase', hn⟩)
        · exact hs h
        · rw [hhead] at h; cases h
        · rw [hbase] at hbase'; cases hbase'
        · exact hn heq
      · intro hmis
        by_contra hne
        exact hmis (Misread.octal hhead hbase hne)
    · have heq : vcpRange (strToInt0 (c :: t)) = vcpRange (strToInt (c :: t) 10) := by rw [strToInt0_eq hx, hbase]
      rw [← hten]
      refine ⟨fun _ => ?_, fun _ => heq⟩
      rintro (h | ⟨h, n, hn⟩ | ⟨h, hbase', n, hn⟩ | ⟨h, hbase', hn⟩)
      · exact hs h
      · rw [hhead] at h; cases h
      · rw [hbase] at hbase'; cases hbase'
      · rw [hbase] at hbase'; cases hbase'

theorem read_iff (hs : s ≠ []) :
    vcpRange (strToInt0 (canonicalizePossibleHexValue s)) = vcpRange (denotedNumber s) ↔ ¬ Misread s := by
  unfold denotedNumber
  cases hnum : hexNumeral s with
  | some digits => exact ⟨fun _ => not_misread_of_hexNumeral hs hnum, fun _ => vcpRange_of_hexNumeral hnum⟩
  | none =>
    rw [(canonicalize_of_hexNumeral_none hnum).1]; exact vcpRange_of_decimal hs hnum

/-! ## The requests -/

theorem vcpRange_eq_some {n : Option Int} {v : Int} (h : vcpRange n = some v) : 0 ≤ v ∧ v ≤ 65535 := by
  unfold vcpRange at h
  rw [Option.filter_eq_some_iff] at h; exact of_decide_eq_true h.2

theorem hiLoBytesToShort_ofInt {v : Int} (hlow : 0 ≤ v) (hhigh : v ≤ 65535) :
    (hiLoBytesToShort (UInt8.ofInt (v / 256)) (UInt8.ofInt v) : Int) = v := by
  have hhi : ((UInt8.ofInt (v / 256)).toNat : Int) = v / 256 := by
    simp only [UInt8.ofInt, UInt8.toNat_ofNat']; omega
  have hlo : ((UInt8.ofInt v).toNat : Int) = v % 256 := by
    simp only [UInt8.ofInt, UInt8.toNat_ofNat']; omega
  rw [hiLoBytesToShort_eq]; omega

namespace SetvcpCall

variable (c : SetvcpCall)

theorem fulfils_some {io : VcpIo} (hio : c.Unwritten io) {v : Int} (hlow : 0 ≤ v) (hhigh : v ≤ 65535) :
    c.Fulfils (some v) (c.setValue io (c.valueRecord v)) :=
  ⟨io, _, _, _, _, hio, hiLoBytesToShort_ofInt hlow hhigh, rfl⟩

theorem fulfils_none {io : VcpIo} (hio : c.Unwritten io) (err : ErrorInfo) : c.Fulfils none (.ok (some err, io)) :=
  ⟨err, io, hio, rfl⟩

theorem unwritten_start : c.Unwritten c.io := ⟨rfl, rfl, rfl⟩

theorem setRelative_eq (c : SetvcpCall) (itemp : Int) : ∃ io, c.Unwritten io ∧
    c.setRelative itemp = match c.current with
      | .error e => .ok (some ⟨e.statusCode, "app_set_vcp_value",
          some (asText (ascii "Getting value failed for feature " ++ hexByte false c.featureCode ++ ascii ", rc=") ++
            c.pscDesc e.statusCode), [e]⟩, io)
      | .ok parsedResponse => c.setValue io (c.valueRecord (relativeValue c.valueType parsedResponse itemp)) := by
  obtain ⟨p, hp⟩ := createDdcGetvcpRequestPacket_ok c.featureCode
  have hread : ddcGetNontableVcpValue c.dh c.d c.io c.featureCode =
      .ok (c.current, { c.io with reads := c.io.reads + 1 }) := by rfl
  refine ⟨{ c.io with reads := c.io.reads + 1 }, ⟨rfl, rfl, rfl⟩, ?_⟩
  rw [setRelative, hread, ok_bind]

variable (r : ParsedNontableVcpResponse)

theorem relativeValue_plus (n : Int) :
    relativeValue .relativePlus r n = min (responseCurValue r + n) (responseMaxValue r) := by
  unfold relativeValue
  dsimp only
  split_ifs with h
  · omega
  · omega

theorem relativeValue_minus (n : Int) : relativeValue .relativeMinus r n = max (responseCurValue r - n) 0 := by
  unfold relativeValue
  dsimp only
  split_ifs with h
  · omega
  · omega

variable {s : List Byte}

theorem appSetVcpValue_eq {dfm : DisplayFeatureMetadata} (hdfm : c.dfm = some dfm)
    (hwritable : dfm.versionFeatureFlags &&& ddcaWritable ≠ 0) (htable : dfm.versionFeatureFlags &&& ddcaTable = 0)
    (hs : s ≠ []) : c.appSetVcpValue s = c.setNontable dfm s := by
  rw [appSetVcpValue, check_pos hs, ok_bind, hdfm]
  dsimp only
  rw [if_neg hwritable, if_neg (not_not_intro htable)]

theorem fulfils_relative {n : Int} {value : ParsedNontableVcpResponse → Int}
    (hvalue : ∀ r, relativeValue c.valueType r n = value r ∧ 0 ≤ value r ∧ value r ≤ 65535) :
    c.Fulfils (c.current.toOption.map value) (c.setRelative n) := by
  obtain ⟨io, hio, heq⟩ := c.setRelative_eq n
  rw [heq]
  cases c.current with
  | error e => exact c.fulfils_none hio _
  | ok r =>
    obtain ⟨hv, hlow, hhigh⟩ := hvalue r
    change c.Fulfils (some (value r)) (c.setValue io (c.valueRecord (relativeValue c.valueType r n)))
    rw [hv]; exact c.fulfils_some hio hlow hhigh

theorem responseValues :
    (0 ≤ responseCurValue r ∧ responseCurValue r ≤ 65535) ∧ 0 ≤ responseMaxValue r ∧ responseMaxValue r ≤ 65535 := by
  have hcur := hiLoBytesToShort_lt r.sh r.sl
  have hmax := hiLoBytesToShort_lt r.mh r.ml
  unfold responseCurValue responseMaxValue; omega

theorem right_of_read {dfm : DisplayFeatureMetadata} (hdfm : c.dfm = some dfm)
    (hwritable : dfm.versionFeatureFlags &&& ddcaWritable ≠ 0) (htable : dfm.versionFeatureFlags &&& ddcaTable = 0)
    (hs : s ≠ []) (hread : vcpRange (strToInt0 (canonicalizePossibleHexValue s)) = vcpRange (denotedNumber s)) :
    c.Right dfm s := by
  have hparse : parseVcpValue s = .ok (vcpRange (denotedNumber s)) := by
    rw [parseVcpValue, if_neg hs, hread]
  rw [Right, c.appSetVcpValue_eq hdfm hwritable htable hs]
  rw [setNontable, requested, hparse, ok_bind]
  cases hnum : vcpRange (denotedNumber s) with
  | none =>
    cases c.valueType with
    | absolute => exact c.fulfils_none c.unwritten_start _
    | relativePlus | relativeMinus => simpa using c.fulfils_none c.unwritten_start _
  | some n =>
    obtain ⟨hlow, hhigh⟩ := vcpRange_eq_some hnum
    cases hvt : c.valueType with
    | absolute =>
      exact c.fulfils_some c.unwritten_start hlow hhigh
    | relativePlus =>
      have hrelative := @fulfils_relative c n (fun r => min (responseCurValue r + n) (responseMaxValue r)) fun r => by
        have hvalues := responseValues r
        rw [hvt, relativeValue_plus]; omega
      by_cases hcont : dfm.versionFeatureFlags &&& ddcaCont = 0
      · simpa [hcont] using c.fulfils_none c.unwritten_start _
      · cases hcur : c.current <;> simpa [hcont, hcur, Except.toOption] using hrelative
    | relativeMinus =>
      have hrelative := @fulfils_relative c n (fun r => max (responseCurValue r - n) 0) fun r => by
        have hvalues := responseValues r
        rw [hvt, relativeValue_minus]; omega
      by_cases hcont : dfm.versionFeatureFlags &&& ddcaCont = 0
      · simpa [hcont] using c.fulfils_none c.unwritten_start _
      · cases hcur : c.current <;> simpa [hcont, hcur, Except.toOption] using hrelative

/-! ## A request that shows what is read -/

def plain : SetvcpCall where
  st := ⟨0, false, 1, initialMaxWriteOnlyExchangeTries⟩
  dh := ⟨.usb, fun _ => none, false⟩
  d := stuckDisplay
  io := .start
  featureCode := 0x10
  dfm := some { dfmNew 0x10 with versionFeatureFlags := ddcaRw ||| ddcaStdCont }
  valueType := .absolute
  unsetBytes := (0, 0)
  pscDesc := fun _ => ""

theorem plain_setValue (io : VcpIo) (mh ml sh sl : Byte) :
    plain.setValue io ⟨plain.featureCode, .cNc mh ml sh sl⟩ =
      .ok (none, { io with writes := io.writes + 1, events := io.events ++ [.wrote 0x10 (.cNc mh ml sh sl)] }) := rfl

theorem read_of_plain (hs : s ≠ [])
    (h : plain.Right { dfmNew 0x10 with versionFeatureFlags := ddcaRw ||| ddcaStdCont } s) :
    vcpRange (strToInt0 (canonicalizePossibleHexValue s)) = vcpRange (denotedNumber s) := by
  have hparse : parseVcpValue s = .ok (vcpRange (strToInt0 (canonicalizePossibleHexValue s))) := by
    rw [parseVcpValue, if_neg hs]
  rw [Right, plain.appSetVcpValue_eq rfl (by decide) (by decide) hs] at h
  rw [setNontable, hparse, ok_bind] at h
  change plain.Fulfils (vcpRange (denotedNumber s)) _ at h
  cases hread : vcpRange (strToInt0 (canonicalizePossibleHexValue s)) with
  | none =>
    rw [hread] at h
    cases hnum : vcpRange (denotedNumber s) with
    | none => rfl
    | some v =>
      rw [hnum] at h
      obtain ⟨io, mh, ml, sh, sl, -, -, heq⟩ := h
      cases heq
  | some k =>
    rw [hread] at h
    cases hnum : vcpRange (denotedNumber s) with
    | none =>
      rw [hnum] at h
      obtain ⟨err, io, -, heq⟩ := h
      cases heq
    | some v =>
      rw [hnum] at h
      obtain ⟨io, mh, ml, sh, sl, hio, hv, heq⟩ := h
      obtain ⟨hlow, hhigh⟩ := vcpRange_eq_some hread
      have hset : plain.setValue plain.io (plain.valueRecord k) = _ := heq
      unfold valueRecord at hset
      rw [plain_setValue, plain_setValue, hio.events, Except.ok.injEq, Prod.mk.injEq, VcpIo.mk.injEq] at hset
      have hevents := append_cancel_left hset.2.2.2.2.2
      rw [singleton_inj, VcpEvent.wrote.injEq, VcpValue.cNc.injEq] at hevents
      obtain ⟨-, -, -, hsh, hsl⟩ := hevents
      rw [← hsh, ← hsl, hiLoBytesToShort_ofInt hlow hhigh] at hv; exact congrArg some hv

end SetvcpCall

end Ddc
