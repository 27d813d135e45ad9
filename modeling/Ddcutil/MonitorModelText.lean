import Ddcutil.Edid
import Ddcutil.Kit.Pattern
import Ddcutil.MonitorModelKey
/-!
# MonitorModelText — a monitor model key from its string

`mmk_value_from_string` matches the string with a regular expression and converts its last part.
-/
namespace Ddc

open Kit List

def isCapital (c : Byte) : Bool := decide (0x41 ≤ c) && decide (c ≤ 0x5a)

def isHyphen (c : Byte) : Bool := c == hyphen

def mmkPattern : List (Repeat Byte) :=
  [.exactly 3 isCapital, .once isHyphen, .upTo 13 (· != 0), .once isHyphen, .star (isDigit 10)]

def mmkValueChecked (mfgId modelName : List Byte) (productCode : UInt16) : Exec MonitorModelKey :=
  if h : mfgId.length < edidMfgIdFieldSize ∧ modelName.length < edidModelNameFieldSize ∧ mfgId.all (· != 0) = true then
    .ok (mmkValue mfgId modelName productCode.toNat h.1 h.2.1 (noNul_of_all h.2.2) productCode.toNat_lt)
  else .error .assertFailed

def mmkFromGroups (mfgId modelName productCodeS : List Byte) : Exec (Option MonitorModelKey) :=
  match strToInt productCodeS 10 with
  | none => .error .assertFailed
  | some ival => some <$> mmkValueChecked mfgId (fixupModelName modelName) (UInt16.ofInt ival)

def mmkValueFromString (sval : List Byte) : Exec (Option MonitorModelKey) :=
  match firstMatch mmkPattern sval with
  | some [mfgId, _, modelName, _, productCodeS] => mmkFromGroups mfgId modelName productCodeS
  | _ => .ok none

/-! ## The form of a key string -/

/-- **MFG-MODEL-CODE**, with any number of digits. -/
structure KeyForm (s mfg model code : List Byte) : Prop where
  text : s = mfg ++ hyphen :: (model ++ hyphen :: code)
  mfgLength : mfg.length = 3
  mfgCapital : ∀ c ∈ mfg, isCapital c = true
  modelLength : model.length ≤ 13
  modelString : ∀ c ∈ model, c ≠ 0
  codeDigits : ∀ c ∈ code, isDigit 10 c = true

def IsKeyText (s : List Byte) (n : Nat) : Prop :=
  ∃ mfg model code, KeyForm s mfg model code ∧ code ≠ [] ∧ digitsVal 10 code = n ∧ n ≤ 65535

variable {s code mfg model : List Byte} {edidbytes : EdidBlock} {edid : ParsedEdid}

theorem matches_mmkPattern {pieces : List (List Byte)} : Matches mmkPattern s pieces ↔
    ∃ mfg model code, pieces = [mfg, [hyphen], model, [hyphen], code] ∧ KeyForm s mfg model code := by
  constructor
  · intro h
    obtain _ | ⟨hmfg, h⟩ := h
    obtain _ | ⟨hsep₁, h⟩ := h
    obtain _ | ⟨hmodel, h⟩ := h
    obtain _ | ⟨hsep₂, h⟩ := h
    obtain _ | ⟨hcode, h⟩ := h
    obtain _ | _ := h
    obtain ⟨c₁, rfl, hc₁⟩ := takes_once.1 hsep₁
    obtain ⟨c₂, rfl, hc₂⟩ := takes_once.1 hsep₂
    obtain rfl : c₁ = hyphen := beq_iff_eq.1 hc₁
    obtain rfl : c₂ = hyphen := beq_iff_eq.1 hc₂
    refine ⟨_, _, _, rfl, ?_, ?_, hmfg.accepts, ?_, ?_, hcode.accepts⟩
    · simp
    · exact Nat.le_antisymm (hmfg.most 3 rfl) hmfg.least
    · exact hmodel.most 13 rfl
    · exact fun c hc => bne_iff_ne.1 (hmodel.accepts c hc)
  · rintro ⟨mfg, model, code, rfl, hform⟩
    have hmfg : (Repeat.exactly 3 isCapital).Takes mfg := by
      refine ⟨hform.mfgCapital, Nat.le_of_eq hform.mfgLength.symm, ?_⟩
      rintro m hm
      cases hm; exact Nat.le_of_eq hform.mfgLength
    have hsep : (Repeat.once isHyphen).Takes [hyphen] := takes_once.2 ⟨hyphen, rfl, rfl⟩
    have hmodel : (Repeat.upTo 13 fun c : Byte => c != 0).Takes model := by
      refine ⟨fun c hc => bne_iff_ne.2 (hform.modelString c hc), Nat.zero_le _, ?_⟩
      rintro m hm
      cases hm; exact hform.modelLength
    have hcode : (Repeat.star (isDigit 10)).Takes code :=
      ⟨hform.codeDigits, Nat.zero_le _, fun m hm => by cases hm⟩
    have hmatch := Matches.cons hmfg (.cons hsep (.cons hmodel (.cons hsep (.cons hcode .nil))))
    rw [hform.text]
    simpa [mmkPattern] using hmatch

theorem hyphen_notMem_digits (h : ∀ c ∈ code, isDigit 10 c = true) : hyphen ∉ code := by
  intro hmem; exact absurd (h hyphen hmem) (by decide)

theorem KeyForm.unique {mfg₁ model₁ code₁ mfg₂ model₂ code₂ : List Byte} (h₁ : KeyForm s mfg₁ model₁ code₁)
    (h₂ : KeyForm s mfg₂ model₂ code₂) : mfg₁ = mfg₂ ∧ model₁ = model₂ ∧ code₁ = code₂ := by
  have htext := h₁.text.symm.trans h₂.text
  obtain ⟨rfl, hrest⟩ := List.append_inj htext (h₁.mfgLength.trans h₂.mfgLength.symm)
  obtain ⟨rfl, rfl⟩ := append_cons_inj (hyphen_notMem_digits h₁.codeDigits) (hyphen_notMem_digits h₂.codeDigits)
    (List.cons.inj hrest).2
  exact ⟨rfl, rfl, rfl⟩

theorem mmkValueFromString_of_form (h : KeyForm s mfg model code) :
    mmkValueFromString s = mmkFromGroups mfg model code := by
  have hmatch := matches_mmkPattern.2 ⟨mfg, model, code, rfl, h⟩
  obtain ⟨pieces, hpieces⟩ := Option.isSome_iff_exists.1 hmatch.firstMatch_isSome
  obtain ⟨mfg', model', code', rfl, h'⟩ := matches_mmkPattern.1 (matches_of_firstMatch hpieces)
  obtain ⟨rfl, rfl, rfl⟩ := h.unique h'
  rw [mmkValueFromString, hpieces]

theorem mmkValueFromString_of_not_form (h : ∀ mfg model code, ¬ KeyForm s mfg model code) :
    mmkValueFromString s = .ok none := by
  unfold mmkValueFromString
  split
  · rename_i hpieces
    obtain ⟨mfg, model, code, -, hform⟩ := matches_mmkPattern.1 (matches_of_firstMatch hpieces)
    exact absurd hform (h mfg model code)
  · rfl

/-! ## The conversion of the code -/

theorem strtol_all_digits {base : Nat} {c : Byte} {ds : List Byte} (hbase : base ≠ 16)
    (hd : ∀ x ∈ c :: ds, isDigit base x = true) : (strtol (c :: ds) base).rest = [] ∧
      (strtol (c :: ds) base).value = max longMin (min longMax (digitsVal base (c :: ds))) := by
  obtain ⟨d, hdigit⟩ := exists_digitVal (hd c mem_cons_self)
  have hskip : (c :: ds).dropWhile isspace = c :: ds :=
    dropWhile_cons_of_neg (by simp [isspace_of_digitVal hdigit])
  have htake : (c :: ds).takeWhile (isDigit base) = c :: ds := takeWhile_eq_self_iff.2 hd
  have hdrop : (c :: ds).dropWhile (isDigit base) = [] := dropWhile_eq_nil_iff.2 hd
  rw [strtol, hskip, takeSign_of_digitVal hdigit]
  rw [if_neg hbase, htake, if_neg (cons_ne_nil c ds)]; exact ⟨hdrop, rfl⟩

theorem strToLong_digits {c : Byte} {ds : List Byte} (hd : ∀ x ∈ c :: ds, isDigit 10 x = true) :
    strToLong (c :: ds) 10 = some (max longMin (min longMax (digitsVal 10 (c :: ds)))) := by
  obtain ⟨hrest, hvalue⟩ := strtol_all_digits (by decide) hd
  have hhex : ¬ ((c :: ds).head? = some 0x78 ∨ (c :: ds).head? = some 0x58) := by
    rintro (h | h)
    · obtain rfl := Option.some.inj h
      exact absurd (hd _ mem_cons_self) (by decide)
    · obtain rfl := Option.some.inj h
      exact absurd (hd _ mem_cons_self) (by decide)
  rw [strToLong, if_neg (cons_ne_nil c ds)]
  dsimp only
  rw [if_neg hhex, if_neg (fun h => hhex h.1), if_pos hrest, hvalue]

theorem strToInt_digits (hne : code ≠ []) (hd : ∀ c ∈ code, isDigit 10 c = true) :
    strToInt code 10 = if (digitsVal 10 code : Int) ≤ intMax then some (digitsVal 10 code : Int) else none := by
  obtain ⟨c, ds, rfl⟩ := exists_cons_of_ne_nil hne
  rw [strToInt, strToLong_digits hd, Option.filter_some]
  generalize digitsVal 10 (c :: ds) = n
  unfold longMin longMax intMin intMax
  by_cases hn : (n : Int) ≤ 0x7fffffff
  · have hclamp : max (-0x8000000000000000) (min 0x7fffffffffffffff (n : Int)) = n := by omega
    have hrange : -0x80000000 ≤ (n : Int) ∧ (n : Int) ≤ 0x7fffffff := by omega
    rw [hclamp, if_pos hn, if_pos (decide_eq_true hrange)]
  · have hrange : ¬ (-0x80000000 ≤ max (-0x8000000000000000) (min 0x7fffffffffffffff (n : Int)) ∧
        max (-0x8000000000000000) (min 0x7fffffffffffffff (n : Int)) ≤ 0x7fffffff) := by omega
    rw [if_neg hn, if_neg (fun h => hrange (of_decide_eq_true h))]

theorem mmkFromGroups_eq (h : KeyForm s mfg model code) (hne : code ≠ []) (hcode : digitsVal 10 code ≤ 65535) :
    ∃ key, mmkFromGroups mfg model code = .ok (some key) ∧ key.mfgId = mfg ∧
      key.modelName = fixupModelName model ∧ key.productCode = digitsVal 10 code := by
  have hint : (digitsVal 10 code : Int) ≤ intMax := by unfold intMax; omega
  have hfields : mfg.length < edidMfgIdFieldSize ∧ (fixupModelName model).length < edidModelNameFieldSize ∧
      mfg.all (· != 0) = true := by
    refine ⟨?_, ?_, all_eq_true.2 fun c hc => bne_iff_ne.2 ?_⟩
    · rw [h.mfgLength]; exact Nat.lt_succ_self 3
    · rw [fixupModelName, length_map]; exact Nat.lt_succ_of_le h.modelLength
    · rintro rfl
      exact absurd (h.mfgCapital 0 hc) (by decide)
  have hword : (UInt16.ofInt (digitsVal 10 code : Int)).toNat = digitsVal 10 code := by
    simp only [UInt16.ofInt, UInt16.toNat_ofNat']; omega
  refine ⟨mmkValue mfg (fixupModelName model) (UInt16.ofInt (digitsVal 10 code)).toNat hfields.1 hfields.2.1
    (noNul_of_all hfields.2.2) (UInt16.toNat_lt _), ?_, rfl, fixupModelName_fixup model, hword⟩
  rw [mmkFromGroups, strToInt_digits hne h.codeDigits, if_pos hint]
  dsimp only
  rw [mmkValueChecked, dif_pos hfields, Exec.ok_map]

/-! ## Which strings are read right -/

/-- **What is asked of the function**: no assertion fails, a key comes of the key strings and of no others, and its
product code is the number in the string. -/
def ReadRight (s : List Byte) : Prop :=
  ∃ result, mmkValueFromString s = .ok result ∧ (result.isSome = true ↔ ∃ n, IsKeyText s n) ∧
    ∀ key, result = some key → ∀ n, IsKeyText s n → key.productCode = n

/-- The string has the form, but no product code: no digits, or a number that 16 bits do not hold. -/
def BadCode (s : List Byte) : Prop :=
  ∃ mfg model code, KeyForm s mfg model code ∧ (code = [] ∨ 65535 < digitsVal 10 code)

theorem readRight_of_not_form (h : ∀ mfg model code, ¬ KeyForm s mfg model code) : ReadRight s := by
  refine ⟨none, mmkValueFromString_of_not_form h, ?_, fun key hkey => by cases hkey⟩
  refine iff_of_false (by decide) ?_
  rintro ⟨n, mfg, model, code, hform, -⟩
  exact h mfg model code hform

theorem readRight_of_code (h : KeyForm s mfg model code) (hne : code ≠ []) (hcode : digitsVal 10 code ≤ 65535) :
    ReadRight s := by
  obtain ⟨key, hkey, -, -, hproduct⟩ := mmkFromGroups_eq h hne hcode
  refine ⟨some key, by rw [mmkValueFromString_of_form h, hkey], ?_, ?_⟩
  · exact iff_of_true rfl ⟨_, mfg, model, code, h, hne, rfl, hcode⟩
  · rintro _ ⟨⟩ n ⟨mfg', model', code', h', -, rfl, -⟩
    obtain ⟨-, -, rfl⟩ := h.unique h'
    exact hproduct

theorem not_readRight_of_badCode (h : BadCode s) : ¬ ReadRight s := by
  obtain ⟨mfg, model, code, hform, hbad⟩ := h
  have hnokey : ¬ ∃ n, IsKeyText s n := by
    rintro ⟨n, mfg', model', code', h', hne, rfl, hle⟩
    obtain ⟨-, -, rfl⟩ := hform.unique h'
    rcases hbad with hnil | hgt
    · exact hne hnil
    · omega
  rintro ⟨result, hresult, hiff, -⟩
  have hnone : result = none := by
    rw [← Option.not_isSome_iff_eq_none]; exact fun hsome => hnokey (hiff.1 hsome)
  rw [mmkValueFromString_of_form hform, hnone, mmkFromGroups] at hresult
  cases hint : strToInt code 10 with
  | none =>
    rw [hint] at hresult; cases hresult
  | some ival =>
    rw [hint] at hresult
    obtain ⟨key, -, hkey⟩ := Exec.map_eq_ok.1 hresult
    cases hkey

theorem readRight_iff (s : List Byte) : ReadRight s ↔ ¬ BadCode s := by
  refine ⟨fun hright hbad => not_readRight_of_badCode hbad hright, fun h => ?_⟩
  by_cases hform : ∃ mfg model code, KeyForm s mfg model code
  · obtain ⟨mfg, model, code, hform⟩ := hform
    refine readRight_of_code hform (fun hnil => ?_) (Nat.le_of_not_lt fun hgt => ?_)
    · exact h ⟨mfg, model, code, hform, .inl hnil⟩
    · exact h ⟨mfg, model, code, hform, .inr hgt⟩
  · exact readRight_of_not_form fun mfg model code hf => hform ⟨mfg, model, code, hf⟩

/-! ## The string of a key is read back -/

section
variable (h : createParsedEdid edidbytes = some edid)
include h

theorem mfgId_lt : edid.mfgId.length < edidMfgIdFieldSize := by
  rw [(createParsedEdid_eq_some h).2.1.1]; exact Nat.lt_succ_self 3

theorem modelName_lt : edid.modelName.length < edidModelNameFieldSize :=
  Nat.lt_succ_of_le (createParsedEdid_eq_some h).2.2.2.1.length_le

theorem mfgId_string : ∀ c ∈ edid.mfgId, c ≠ 0 := by
  unfold createParsedEdid at h
  split at h
  · cases h; exact mfgId_no_nul _ _
  · cases h

end

def mmkValueFromEdid {edidbytes : EdidBlock} {edid : ParsedEdid} (h : createParsedEdid edidbytes = some edid) :
    MonitorModelKey :=
  mmkValue edid.mfgId edid.modelName edid.productCode (mfgId_lt h) (modelName_lt h) (mfgId_string h)
    (createParsedEdid_eq_some h).2.2.1

theorem keyForm_mmkString {mmk : MonitorModelKey} (hlen : mmk.mfgId.length = 3)
    (hcapital : ∀ c ∈ mmk.mfgId, isCapital c = true) :
    KeyForm (mmkString mmk) mmk.mfgId mmk.modelName (decimal mmk.productCode) where
  text := by rw [mmkString, mmkModelIdString, mmk.modelNameFixed]
  mfgLength := hlen
  mfgCapital := hcapital
  modelLength := Nat.le_of_lt_succ mmk.modelNameLt
  modelString := by
    intro c hc
    rw [← mmk.modelNameFixed] at hc
    rcases isalnum_or_underscore hc with hc | rfl
    · rintro rfl
      exact absurd hc (by decide)
    · decide
  codeDigits := by
    intro c hc
    obtain ⟨d, hd, hdigit⟩ := mem_decimal_natCast hc
    simp [isDigit, hdigit, hd]

theorem mmkValueFromString_mmkString {mmk : MonitorModelKey} (hlen : mmk.mfgId.length = 3)
    (hcapital : ∀ c ∈ mmk.mfgId, isCapital c = true) : mmkValueFromString (mmkString mmk) = .ok (some mmk) := by
  have hform := keyForm_mmkString hlen hcapital
  have hvalue : digitsVal 10 (decimal (mmk.productCode : Int)) = mmk.productCode := by
    exact digitsVal_decimalDigits _
  have hle : digitsVal 10 (decimal (mmk.productCode : Int)) ≤ 65535 := by
    rw [hvalue]; exact Nat.le_of_lt_succ mmk.productCodeLt
  obtain ⟨key, hkey, hmfg, hmodel, hproduct⟩ := mmkFromGroups_eq hform (decimal_ne_nil _) hle
  rw [mmkValueFromString_of_form hform, hkey]
  rw [mmk.modelNameFixed] at hmodel
  rw [hvalue] at hproduct
  have hsame : key = mmk := MonitorModelKey.ext hmfg hmodel hproduct
  rw [hsame]

/-- **A string is read right exactly when it has the form with a good code or not at all**, and the string of every key
that an EDID with a manufacturer of three capital letters gives is read back as the key. -/
theorem mmkValueFromString_right_iff (s : List Byte) :
    (ReadRight s ↔ ¬ BadCode s) ∧
      ∀ (edidbytes : EdidBlock) (edid : ParsedEdid) (h : createParsedEdid edidbytes = some edid),
        (∀ c ∈ edid.mfgId, isCapital c = true) →
          mmkValueFromString (mmkString (mmkValueFromEdid h)) = .ok (some (mmkValueFromEdid h)) := by
  refine ⟨readRight_iff s, fun edidbytes edid h hcapital => ?_⟩
  exact mmkValueFromString_mmkString (createParsedEdid_eq_some h).2.1.1 hcapital

/-- No digits: the conversion fails and the assertion with it. -/
theorem emptyCode_not_readRight : ¬ ReadRight (ascii "ABC-X-") := by
  rintro ⟨result, hresult, -⟩
  cases hresult

/-- 65536 is cut to 0. -/
example : (mmkValueFromString (ascii "ABC-X-65536")).map (Option.map MonitorModelKey.productCode) =
    .ok (some 0) := by decide +kernel

end Ddc
