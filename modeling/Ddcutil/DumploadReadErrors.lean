import Ddcutil.DumploadRead
import Ddcutil.Kit.Window
/-!
# DumploadReadErrors — which bad lines of a dump are reported

What a well-formed line is, said without the reader: a code is two hex digits, a value is a number of 16 bits, and so
on.  A bad line adds one cause to the error, which names it; the lines that add none are set apart (`unreportedLine`).
-/
namespace Ddc

open Kit List

def number16 (s : List Byte) : Option Nat :=
  let r := strtol s 10
  if s ≠ [] ∧ r.rest = [] ∧ 0 ≤ r.value ∧ r.value ≤ 65535 then some r.value.toNat else none

def hexCode (s : List Byte) : Option Byte :=
  if s.length = 2 ∧ s.all (isDigit 16) = true then some (UInt8.ofNat (digitsVal 16 s)) else none

/-- A version: digits, a dot, digits; 0.0 is none, and none is above 3 or has a minor number above 2. -/
def versionText (s : List Byte) : Option VersionSpec :=
  let major := s.takeWhile (isDigit 10)
  match s.dropWhile (isDigit 10) with
  | [] => none
  | c :: minor =>
    if c = 0x2e ∧ (major ≠ [] ∧ digitsVal 10 major ≤ 3) ∧
        ((minor ≠ [] ∧ minor.all (isDigit 10) = true) ∧ digitsVal 10 minor ≤ 2) ∧
        0 < digitsVal 10 major + digitsVal 10 minor then
      some ⟨UInt8.ofNat (digitsVal 10 major), UInt8.ofNat (digitsVal 10 minor)⟩
    else none

/-- The code and the value of a `VCP` line; `isTable` tells which features have table values. -/
def vcpGiven (isTable : Byte → Bool) (s1 : List Byte) (s2 : Option (List Byte)) : Option AnyVcpValue := do
  let s2 ← s2
  let featureId ← hexCode s1
  if isTable featureId then (hhsToByteArray s2).map (createTableVcpValueByBytes featureId)
  else (number16 s2).map (createContVcpValue featureId 0)

inductive LineForm where
  | nothing | keywordOnly
  | field (s0 s1 : List Byte) (s2 : Option (List Byte))

def lineForm (line : List Byte) : LineForm :=
  match lineWords line with
  | [] => .nothing
  | s0 :: words =>
    if isComment s0 then .nothing
    else
      match words with
      | [] => .keywordOnly
      | s1 :: words => .field s0 s1 words.head?

def freeKeywords : List (List Byte) :=
  [ascii "BUS", ascii "EDID", ascii "EDIDSTR", ascii "MFG_ID", ascii "MODEL", ascii "SN", ascii "TIMESTAMP_TEXT",
    ascii "TIMESTAMP_MILLIS"]

def badField (isTable : Byte → Bool) (s0 s1 : List Byte) (s2 : Option (List Byte)) : Bool :=
  if s0 = ascii "PRODUCT_CODE" then (number16 s1).isNone
  else if s0 = ascii "VCP_VERSION" then (versionText s1).isNone
  else if s0 = ascii "VCP" then (vcpGiven isTable s1 s2).isNone
  else !freeKeywords.contains s0

/-- **A bad line**: a keyword alone, a keyword that is none, or a bad product code, version, feature code or value. -/
def badLine (isTable : Byte → Bool) (line : List Byte) : Bool :=
  match lineForm line with
  | .nothing => false
  | .keywordOnly => true
  | .field s0 s1 s2 => badField isTable s0 s1 s2

def vcpTaken (isTable : Byte → Bool) (s1 : List Byte) (s2 : Option (List Byte)) : Option AnyVcpValue := do
  let s2 ← s2
  let featureId ← hhsToByteInBuf s1
  (readFeatureValue (isTable featureId) featureId s2).toOption

def unreportedField (isTable : Byte → Bool) (s0 s1 : List Byte) (s2 : Option (List Byte)) : Bool :=
  if s0 = ascii "PRODUCT_CODE" then (number16 s1).isNone
  else if s0 = ascii "VCP_VERSION" then (versionText s1).isNone && decide (parseVspec s1 ≠ vspecUnknown)
  else if s0 = ascii "VCP" then (vcpGiven isTable s1 s2).isNone && (vcpTaken isTable s1 s2).isSome
  else false

/-- **A bad line that adds no error**: any bad product code, and what the conversions take although it is bad, such as
the version `2.1x`, the feature code `-1` or the value `70000`. -/
def unreportedLine (isTable : Byte → Bool) (line : List Byte) : Bool :=
  match lineForm line with
  | .field s0 s1 s2 => unreportedField isTable s0 s1 s2
  | _ => false

/-! ## The reader takes well-formed fields -/

theorem strtol_of_no_digit {c : Byte} (t : List Byte) (hspace : isspace c = false) (hsign : takeSign (c :: t) = (false, c :: t))
    (hdigit : isDigit 10 c = false) : strtol (c :: t) 10 = ⟨0, false, c :: t⟩ := by
  have hskip : (c :: t).dropWhile isspace = c :: t := dropWhile_cons_of_neg (by simp [hspace])
  have hdigits : (c :: t).takeWhile (isDigit 10) = [] := takeWhile_cons_of_neg (by simp [hdigit])
  rw [strtol, hskip, hsign]
  have hbase : (if 10 = 16 then dropHexPrefix (c :: t) else c :: t) = c :: t := if_neg (by decide)
  rw [hbase, hdigits, if_pos rfl]

theorem strtol_hexPrefix {c : Byte} (t : List Byte) (h : c = 0x78 ∨ c = 0x58) :
    (strtol (c :: t) 10).rest = c :: t ∧ (strtol (0x30 :: c :: t) 10).rest = c :: t := by
  have hdigit : isDigit 10 c = false := by rcases h with rfl | rfl <;> decide
  constructor
  · have hsign : takeSign (c :: t) = (false, c :: t) := by rcases h with rfl | rfl <;> rfl
    have hspace : isspace c = false := by rcases h with rfl | rfl <;> decide
    rw [strtol_of_no_digit t hspace hsign hdigit]
  · have hr : (c :: t).dropWhile (isDigit 10) = c :: t := dropWhile_cons_of_neg (by simp [hdigit])
    have hzero : strtol ([0x30] ++ (c :: t)) 10 = ⟨0, false, c :: t⟩ :=
      strtol_digits (c :: t) (fun x hx => by rw [mem_singleton.1 hx]; rfl) hr (fun hb => absurd hb (by decide)) (by decide)
    exact congrArg Strtol.rest hzero

theorem strToLong_ten (s : List Byte) :
    strToLong s 10 = if s ≠ [] ∧ (strtol s 10).rest = [] then some (strtol s 10).value else none := by
  cases s with
  | nil => rfl
  | cons c t =>
    have hne : c :: t ≠ [] := cons_ne_nil c t
    rw [strToLong, if_neg hne]
    dsimp only
    by_cases hhex : (c :: t).head? = some 0x78 ∨ (c :: t).head? = some 0x58
    · obtain ⟨hrest, hwork⟩ := strtol_hexPrefix t (hhex.imp Option.some.inj Option.some.inj)
      have hleft : (if (strtol (0x30 :: c :: t) 10).rest = [] then some (strtol (0x30 :: c :: t) 10).value else none) =
          none :=
        if_neg (by rw [hwork]; exact hne)
      rw [if_pos hhex, hleft, ite_self, if_neg fun h => hne (hrest ▸ h.2)]
    · rw [if_neg hhex, if_neg fun h => hhex h.1]
      by_cases hrest : (strtol (c :: t) 10).rest = []
      · rw [if_pos hrest, if_pos ⟨hne, hrest⟩]
      · rw [if_neg hrest, if_neg fun h => hrest h.2]

theorem readProductCode_eq (s : List Byte) : readProductCode s = number16 s := by
  rw [readProductCode, number16, strToInt, strToLong_ten]
  generalize strtol s 10 = r
  by_cases hwhole : s ≠ [] ∧ r.rest = []
  · rw [if_pos hwhole, Option.filter_some]
    by_cases hrange : 0 ≤ r.value ∧ r.value ≤ 65535
    · have hint : intMin ≤ r.value ∧ r.value ≤ intMax :=
        ⟨Int.le_trans (by decide) hrange.1, Int.le_trans hrange.2 (by decide)⟩
      rw [if_pos (decide_eq_true hint), if_pos ⟨hwhole.1, hwhole.2, hrange⟩]; exact if_pos hrange
    · have hright : ¬ (s ≠ [] ∧ r.rest = [] ∧ 0 ≤ r.value ∧ r.value ≤ 65535) := fun h => hrange h.2.2
      split_ifs with hint
      · exact if_neg hrange
      · rfl
  · rw [if_neg hwhole, if_neg fun h => hwhole ⟨h.1, h.2.1⟩]; rfl

theorem scanHu_of_number16 {s : List Byte} {n : Nat} (h : number16 s = some n) : scanHu s = some n := by
  unfold number16 at h
  dsimp only at h
  split at h
  · rename_i hnum
    obtain ⟨hne, hrest, hlow, hhigh⟩ := hnum
    cases h
    unfold scanHu
    dsimp only
    rw [hrest, if_neg hne.symm, Int.emod_eq_of_lt hlow (by omega)]
  · cases h

theorem digitVal_of_isDigit {base : Nat} {c : Byte} (h : isDigit base c = true) : ∃ n < base, digitVal c = some n := by
  obtain ⟨n, hn⟩ := exists_digitVal h
  unfold isDigit at h
  rw [hn] at h; exact ⟨n, of_decide_eq_true h, hn⟩

theorem hhsToByteInBuf_of_hexCode {s : List Byte} {b : Byte} (h : hexCode s = some b) : hhsToByteInBuf s = some b := by
  unfold hexCode at h
  split at h
  · rename_i hcode
    cases h
    obtain ⟨hlen, hall⟩ := hcode
    obtain ⟨c0, c1, rfl⟩ := length_eq_two.1 hlen
    have hdigits := all_eq_true.1 hall
    obtain ⟨hi, hhi, h0⟩ := digitVal_of_isDigit (hdigits c0 mem_cons_self)
    obtain ⟨lo, hlo, h1⟩ := digitVal_of_isDigit (hdigits c1 (mem_cons_of_mem c0 mem_cons_self))
    have hstr : cstr [c0, c1] = [c0, c1] := by
      apply cstr_eq
      intro c hc
      obtain ⟨n, hn⟩ := exists_digitVal (hdigits c hc)
      exact ne_of_digitVal hn (by decide)
    have hval : digitsVal 16 [c0, c1] = hi * 16 + lo := by simp [digitsVal, h0, h1]
    have hhc := hhcToByteInBuf_digits h0 h1 hhi hlo
    rw [hhcToByteInBuf, hstr] at hhc
    rw [hhc, hval]
  · cases h

theorem parseVspec_of_versionText {s : List Byte} {v : VersionSpec} (h : versionText s = some v) :
    parseVspec s = v ∧ v ≠ vspecUnknown := by
  unfold versionText at h
  cases hrest : s.dropWhile (isDigit 10) with
  | nil =>
    rw [hrest] at h; cases h
  | cons c minor =>
    rw [hrest] at h
    dsimp only at h
    split at h
    · rename_i hcond
      obtain ⟨rfl, ⟨hmajor, ha⟩, ⟨⟨hminor, hall⟩, hb⟩, hpos⟩ := hcond
      cases h
      have hsplit : s = s.takeWhile (isDigit 10) ++ 0x2e :: minor := eq_of_dropWhile hrest
      have hknown : ∀ a < 4, ∀ b < 3, 0 < a + b → (⟨UInt8.ofNat a, UInt8.ofNat b⟩ : VersionSpec) ≠ vspecUnknown := by
        decide
      refine ⟨?_, hknown _ (by omega) _ (by omega) hpos⟩
      conv_lhs => rw [hsplit]
      exact parseVspec_digits ⟨hmajor, fun c hc => mem_takeWhile_imp (p := isDigit 10) hc⟩
        ⟨hminor, all_eq_true.1 hall⟩ ha hb
    · cases h

theorem vcpTaken_of_vcpGiven {isTable : Byte → Bool} {s1 : List Byte} {s2 : Option (List Byte)} {v : AnyVcpValue}
    (h : vcpGiven isTable s1 s2 = some v) : vcpTaken isTable s1 s2 = some v := by
  obtain ⟨value, hs2, hvalue⟩ := Option.bind_eq_some_iff.1 h
  obtain ⟨featureId, hcode, hfeature⟩ := Option.bind_eq_some_iff.1 hvalue
  subst hs2
  rw [vcpTaken, Option.bind_eq_bind, Option.bind_some, hhsToByteInBuf_of_hexCode hcode]
  change (readFeatureValue (isTable featureId) featureId value).toOption = some v
  unfold readFeatureValue
  cases htable : isTable featureId with
  | true =>
    rw [if_pos htable] at hfeature
    obtain ⟨bytes, hbytes, rfl⟩ := Option.map_eq_some_iff.1 hfeature
    rw [if_pos rfl, hbytes]; rfl
  | false =>
    rw [if_neg (by rw [htable]; decide)] at hfeature
    obtain ⟨n, hn, rfl⟩ := Option.map_eq_some_iff.1 hfeature
    rw [if_neg (by decide), scanHu_of_number16 hn]; rfl

/-! ## What a line does to the errors -/

def LineEffect.cause : LineEffect → Option ErrorInfo
  | .badData cause _ => some cause
  | _ => none

def LineEffect.invalid : LineEffect → Bool
  | .badData _ _ | .invalidOnly => true
  | _ => false

def LineEffect.dataAfter (data : DumploadData) : LineEffect → DumploadData
  | .badData _ data => data
  | .store data => data
  | _ => data

theorem readTurn_eq (tableFeatures : TableFeatures) (r : Reading) (line : List Byte) :
    readTurn tableFeatures r line =
      ⟨r.linectr + 1, (readLine tableFeatures r.data (r.linectr + 1) line).dataAfter r.data,
        r.causes ++ (readLine tableFeatures r.data (r.linectr + 1) line).cause.toList,
        r.validData && !(readLine tableFeatures r.data (r.linectr + 1) line).invalid⟩ := by
  unfold readTurn
  dsimp only
  cases readLine tableFeatures r.data (r.linectr + 1) line with
  | skip => simp [LineEffect.cause, LineEffect.invalid, LineEffect.dataAfter]
  | badData cause data => simp [LineEffect.cause, LineEffect.invalid, LineEffect.dataAfter]
  | invalidOnly | store data => simp [LineEffect.cause, LineEffect.invalid, LineEffect.dataAfter]

/-- **A cause names a line**: its text ends with the number and the text of the line. -/
def NamesLine (linectr : Nat) (line : List Byte) (cause : ErrorInfo) : Prop :=
  ∃ expl text, (text = line ∨ text = trimEnd line) ∧ cause = dumploadCause (expl ++ atLine linectr text)

structure Reports (linectr : Nat) (line : List Byte) (bad unreported : Bool) (e : LineEffect) : Prop where
  quiet : bad = false → e.cause = none ∧ e.invalid = false
  named : bad = true → unreported = false → e.invalid = true ∧ ∃ cause, e.cause = some cause ∧ NamesLine linectr line cause
  silent : unreported = true → e.cause = none

section Reports

variable {linectr : Nat} {line text : List Byte} {data : DumploadData}

theorem reports_good {e : LineEffect} (hcause : e.cause = none) (hinvalid : e.invalid = false) :
    Reports linectr line false false e :=
  ⟨fun _ => ⟨hcause, hinvalid⟩, fun h => absurd h (by decide), fun _ => hcause⟩

theorem reports_bad (htext : text = line ∨ text = trimEnd line) (expl : List Byte) :
    Reports linectr line true false (.badData (dumploadCause (expl ++ atLine linectr text)) data) :=
  ⟨fun h => absurd h (by decide), fun _ _ => ⟨rfl, _, rfl, expl, text, htext, rfl⟩, fun h => absurd h (by decide)⟩

theorem reports_unreported {e : LineEffect} (hcause : e.cause = none) : Reports linectr line true true e :=
  ⟨fun h => absurd h (by decide), fun _ h => absurd h (by decide), fun _ => hcause⟩

theorem readVcpLine_of_taken {tableFeatures : TableFeatures} {s1 : List Byte} {s2 : Option (List Byte)} {v : AnyVcpValue}
    (h : vcpTaken (data.isTableFeature tableFeatures) s1 s2 = some v) :
    readVcpLine tableFeatures data linectr text s1 s2 =
      .store { data with vcpValueCt := data.vcpValueCt + 1, vcpValues := data.vcpValues ++ [v] } := by
  obtain ⟨value, hs2, hvalue⟩ := Option.bind_eq_some_iff.1 h
  obtain ⟨featureId, hcode, hfeature⟩ := Option.bind_eq_some_iff.1 hvalue
  subst hs2
  rw [readVcpLine, hcode]
  dsimp only
  cases hread : readFeatureValue (data.isTableFeature tableFeatures featureId) featureId value with
  | error expl =>
    rw [hread] at hfeature; cases hfeature
  | ok valrec =>
    rw [hread] at hfeature
    cases hfeature; rfl

theorem readVcpLine_of_not_taken {tableFeatures : TableFeatures} {s1 : List Byte} {s2 : Option (List Byte)}
    (h : vcpTaken (data.isTableFeature tableFeatures) s1 s2 = none) :
    ∃ expl, readVcpLine tableFeatures data linectr text s1 s2 = dataError expl linectr text data := by
  unfold readVcpLine
  cases s2 with
  | none => exact ⟨_, rfl⟩
  | some value =>
    cases hcode : hhsToByteInBuf s1 with
    | none => exact ⟨_, rfl⟩
    | some featureId =>
      dsimp only
      cases hread : readFeatureValue (data.isTableFeature tableFeatures featureId) featureId value with
      | error expl => exact ⟨expl, rfl⟩
      | ok valrec =>
        rw [vcpTaken, Option.bind_eq_bind, Option.bind_some, hcode] at h
        change (readFeatureValue (data.isTableFeature tableFeatures featureId) featureId value).toOption = none at h
        rw [hread] at h; cases h

theorem readVcpLine_reports (htext : text = line ∨ text = trimEnd line) (tableFeatures : TableFeatures) (s1 : List Byte)
    (s2 : Option (List Byte)) :
    Reports linectr line (vcpGiven (data.isTableFeature tableFeatures) s1 s2).isNone
      ((vcpGiven (data.isTableFeature tableFeatures) s1 s2).isNone &&
        (vcpTaken (data.isTableFeature tableFeatures) s1 s2).isSome)
      (readVcpLine tableFeatures data linectr text s1 s2) := by
  cases hgiven : vcpGiven (data.isTableFeature tableFeatures) s1 s2 with
  | some v =>
    rw [readVcpLine_of_taken (vcpTaken_of_vcpGiven hgiven)]; exact reports_good rfl rfl
  | none =>
    cases htaken : vcpTaken (data.isTableFeature tableFeatures) s1 s2 with
    | some v =>
      rw [readVcpLine_of_taken htaken]; exact reports_unreported rfl
    | none =>
      obtain ⟨expl, h⟩ : ∃ expl, readVcpLine tableFeatures data linectr text s1 s2 = dataError expl linectr text data :=
        readVcpLine_of_not_taken htaken
      rw [h]; exact reports_bad htext (ascii expl)

theorem freeKeyword_reports {s0 : List Byte} (h : s0 ∈ freeKeywords) (tableFeatures : TableFeatures) (s1 rest : List Byte)
    (s2 : Option (List Byte)) :
    (readKeyword tableFeatures data linectr text s0 s1 s2 rest).cause = none ∧
      (readKeyword tableFeatures data linectr text s0 s1 s2 rest).invalid = false := by
  simp only [freeKeywords, mem_cons, not_mem_nil, or_false] at h
  rcases h with rfl | rfl | rfl | rfl | rfl | rfl | rfl | rfl
  all_goals exact ⟨rfl, rfl⟩

section
variable (tableFeatures : TableFeatures) (data : DumploadData) (linectr : Nat) (text s1 rest : List Byte)
  (s2 : Option (List Byte))

theorem readKeyword_productCode :
    readKeyword tableFeatures data linectr text (ascii "PRODUCT_CODE") s1 s2 rest =
      (number16 s1).elim .invalidOnly fun productCode => .store { data with productCode := productCode } := by
  have hbus : ascii "PRODUCT_CODE" ≠ ascii "BUS" := by decide
  rw [← readProductCode_eq, readKeyword, if_neg hbus, if_pos rfl]
  cases readProductCode s1 with
  | some n | none => rfl

theorem readKeyword_version :
    readKeyword tableFeatures data linectr text (ascii "VCP_VERSION") s1 s2 rest =
      if parseVspec s1 = vspecUnknown then
        dataError "Invalid VCP VERSION" linectr text { data with vcpVersion := parseVspec s1 }
      else .store { data with vcpVersion := parseVspec s1 } := by
  have hbus : ascii "VCP_VERSION" ≠ ascii "BUS" := by decide
  have hcode : ascii "VCP_VERSION" ≠ ascii "PRODUCT_CODE" := by decide
  have hedid : ¬ (ascii "VCP_VERSION" = ascii "EDID" ∨ ascii "VCP_VERSION" = ascii "EDIDSTR") := by decide
  have hmfg : ascii "VCP_VERSION" ≠ ascii "MFG_ID" := by decide
  have hmodel : ascii "VCP_VERSION" ≠ ascii "MODEL" := by decide
  have hsn : ascii "VCP_VERSION" ≠ ascii "SN" := by decide
  rw [readKeyword, if_neg hbus, if_neg hcode, if_neg hedid, if_neg hmfg, if_neg hmodel, if_neg hsn, if_pos rfl]

theorem readKeyword_vcp :
    readKeyword tableFeatures data linectr text (ascii "VCP") s1 s2 rest =
      readVcpLine tableFeatures data linectr text s1 s2 := rfl

end

theorem readKeyword_unknown {s0 : List Byte} (hcode : s0 ≠ ascii "PRODUCT_CODE") (hversion : s0 ≠ ascii "VCP_VERSION")
    (hvcp : s0 ≠ ascii "VCP") (hfree : s0 ∉ freeKeywords) (tableFeatures : TableFeatures) (s1 rest : List Byte)
    (s2 : Option (List Byte)) :
    readKeyword tableFeatures data linectr text s0 s1 s2 rest =
      .badData (dumploadCause (ascii "Unexpected field \"" ++ s0 ++ ascii "\"" ++ atLine linectr text)) data := by
  simp only [freeKeywords, mem_cons, not_mem_nil, or_false, not_or] at hfree
  obtain ⟨hbus, hedid, hedidstr, hmfg, hmodel, hsn, htext, hmillis⟩ := hfree
  unfold readKeyword
  rw [if_neg hbus, if_neg hcode, if_neg (not_or.2 ⟨hedid, hedidstr⟩), if_neg hmfg, if_neg hmodel, if_neg hsn,
    if_neg hversion, if_neg (not_or.2 ⟨htext, hmillis⟩), if_neg hvcp]

theorem readKeyword_reports (htext : text = line ∨ text = trimEnd line) (tableFeatures : TableFeatures)
    (s0 s1 rest : List Byte) (s2 : Option (List Byte)) :
    Reports linectr line (badField (data.isTableFeature tableFeatures) s0 s1 s2)
      (unreportedField (data.isTableFeature tableFeatures) s0 s1 s2)
      (readKeyword tableFeatures data linectr text s0 s1 s2 rest) := by
  unfold badField unreportedField
  by_cases hcode : s0 = ascii "PRODUCT_CODE"
  · subst hcode
    rw [if_pos rfl, if_pos rfl, readKeyword_productCode]
    cases number16 s1 with
    | some n => exact reports_good rfl rfl
    | none => exact reports_unreported rfl
  rw [if_neg hcode, if_neg hcode]
  by_cases hversion : s0 = ascii "VCP_VERSION"
  · subst hversion
    rw [if_pos rfl, if_pos rfl, readKeyword_version]
    cases hgiven : versionText s1 with
    | some v =>
      obtain ⟨hv, hknown⟩ := parseVspec_of_versionText hgiven
      rw [if_neg (hv ▸ hknown)]; exact reports_good rfl rfl
    | none =>
      by_cases hunknown : parseVspec s1 = vspecUnknown
      · rw [if_pos hunknown, decide_eq_false (not_not.2 hunknown)]; exact reports_bad htext _
      · rw [if_neg hunknown, decide_eq_true hunknown]; exact reports_unreported rfl
  rw [if_neg hversion, if_neg hversion]
  by_cases hvcp : s0 = ascii "VCP"
  · subst hvcp; exact readVcpLine_reports htext tableFeatures s1 s2
  rw [if_neg hvcp, if_neg hvcp]
  by_cases hfree : s0 ∈ freeKeywords
  · rw [contains_iff_mem.2 hfree]
    obtain ⟨hcause, hinvalid⟩ := freeKeyword_reports hfree tableFeatures s1 rest s2
    exact reports_good hcause hinvalid
  · rw [Bool.eq_false_iff.2 (mt contains_iff_mem.1 hfree),
      readKeyword_unknown hcode hversion hvcp hfree tableFeatures s1 rest s2]
    exact reports_bad htext _

end Reports

section
variable (tableFeatures : TableFeatures) (data : DumploadData) (linectr : Nat) (line : List Byte)

theorem readLine_eq :
    readLine tableFeatures data linectr line =
      match lineForm line with
      | .nothing => .skip
      | .keywordOnly => dataError "Invalid data" linectr line data
      | .field s0 s1 s2 => readKeyword tableFeatures data linectr (trimEnd line) s0 s1 s2 (lineRest line s0) := by
  unfold readLine lineForm
  cases lineWords line with
  | nil => rfl
  | cons s0 words =>
    dsimp only
    split_ifs with hcomment
    · rfl
    · cases words with
      | nil | cons s1 words => rfl

theorem readLine_reports : Reports linectr line (badLine (data.isTableFeature tableFeatures) line) (unreportedLine
    (data.isTableFeature tableFeatures) line) (readLine tableFeatures data linectr line) := by
  rw [readLine_eq]
  unfold badLine unreportedLine
  cases lineForm line with
  | nothing => exact reports_good rfl rfl
  | keywordOnly => exact reports_bad (.inl rfl) _
  | field s0 s1 s2 => exact readKeyword_reports (.inr rfl) tableFeatures s0 s1 (lineRest line s0) s2

end

end Ddc
