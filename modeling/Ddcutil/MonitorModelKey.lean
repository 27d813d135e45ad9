import Ddcutil.StringUtil
/-!
# MonitorModelKey — the key of a monitor model

`monitor_model_key.c`: a `Monitor_Model_Key` is made from the manufacturer, the model name and the product code of an
EDID.
-/
namespace Ddc

open Kit List

def isalnum (c : Byte) : Bool := (digitVal c).isSome

def hyphen : Byte := 0x2d

def underscore : Byte := 0x5f

def fixupModelName (name : List Byte) : List Byte := name.map fun c => if isalnum c then c else underscore

def edidMfgIdFieldSize : Nat := 4
def edidModelNameFieldSize : Nat := 14
def edidSerialAsciiFieldSize : Nat := 14

@[ext] structure MonitorModelKey where
  mfgId : List Byte
  modelName : List Byte
  productCode : Nat
  mfgIdLt : mfgId.length < edidMfgIdFieldSize
  modelNameLt : modelName.length < edidModelNameFieldSize
  mfgIdString : ∀ c ∈ mfgId, c ≠ 0
  modelNameFixed : fixupModelName modelName = modelName
  productCodeLt : productCode < 0x10000

instance : DecidableEq MonitorModelKey := fun _ _ => decidable_of_iff _ MonitorModelKey.ext_iff.symm

theorem fixupModelName_fixup (name : List Byte) : fixupModelName (fixupModelName name) = fixupModelName name := by
  unfold fixupModelName
  rw [map_map]
  apply map_congr_left
  intro c _
  change (if isalnum (if isalnum c then c else underscore) then _ else underscore) = _
  by_cases hc : isalnum c = true
  · rw [if_pos hc, if_pos hc]
  · rw [if_neg hc]; exact ite_self _

def mmkValue (mfgId modelName : List Byte) (productCode : Nat) (hmfg : mfgId.length < edidMfgIdFieldSize)
    (hmodel : modelName.length < edidModelNameFieldSize) (hstring : ∀ c ∈ mfgId, c ≠ 0)
    (hcode : productCode < 0x10000) : MonitorModelKey where
  mfgId := mfgId
  modelName := fixupModelName modelName
  productCode := productCode
  mfgIdLt := hmfg
  modelNameLt := by
    unfold fixupModelName
    rw [length_map]; exact hmodel
  mfgIdString := hstring
  modelNameFixed := fixupModelName_fixup modelName
  productCodeLt := hcode

def mmkModelIdString (mfg modelName : List Byte) (productCode : Nat) : List Byte :=
  mfg ++ hyphen :: (fixupModelName modelName ++ hyphen :: decimal productCode)

def mmkString (mmk : MonitorModelKey) : List Byte := mmkModelIdString mmk.mfgId mmk.modelName mmk.productCode

/-! ## The key string tells keys apart -/

theorem isalnum_or_underscore {name : List Byte} {c : Byte} (h : c ∈ fixupModelName name) :
    isalnum c = true ∨ c = underscore := by
  obtain ⟨d, -, rfl⟩ := mem_map.1 h
  by_cases hd : isalnum d = true
  · rw [if_pos hd]; exact .inl hd
  · rw [if_neg hd]; exact .inr rfl

theorem hyphen_notMem_fixup (name : List Byte) : hyphen ∉ fixupModelName name := by
  intro h
  rcases isalnum_or_underscore h with h | h
  · exact absurd h (by decide)
  · exact absurd h (by decide)

theorem mem_decimal_natCast {n : Nat} {c : Byte} (h : c ∈ decimal (n : Int)) : ∃ d, d < 10 ∧ digitVal c = some d := by
  exact digitVal_of_mem_decimalDigits h

theorem hyphen_notMem_decimal (n : Nat) : hyphen ∉ decimal (n : Int) := by
  intro h
  obtain ⟨d, -, hd⟩ := mem_decimal_natCast h
  cases hd

theorem append_cons_inj {x₁ x₂ z₁ z₂ : List Byte} {sep : Byte} (h₁ : sep ∉ z₁) (h₂ : sep ∉ z₂)
    (h : x₁ ++ sep :: z₁ = x₂ ++ sep :: z₂) : x₁ = x₂ ∧ z₁ = z₂ := by
  rcases append_eq_append_iff.1 h with ⟨c, rfl, hc⟩ | ⟨c, rfl, hc⟩
  · cases c with
    | nil =>
      cases hc; exact ⟨(append_nil x₁).symm, rfl⟩
    | cons d c =>
      cases hc; exact absurd (mem_append_right c mem_cons_self) h₁
  · cases c with
    | nil =>
      cases hc; exact ⟨append_nil x₂, rfl⟩
    | cons d c =>
      cases hc; exact absurd (mem_append_right c mem_cons_self) h₂

theorem decimal_natCast_inj {m n : Nat} (h : decimal (m : Int) = decimal (n : Int)) : m = n := by
  have hdigits : ∀ k : Nat, digitsVal 10 (decimal (k : Int)) = k := by
    intro k; exact digitsVal_decimalDigits _
  rw [← hdigits m, ← hdigits n, h]

theorem mmkString_injective {a b : MonitorModelKey} (h : mmkString a = mmkString b) : a = b := by
  unfold mmkString mmkModelIdString at h
  rw [a.modelNameFixed, b.modelNameFixed, ← cons_append, ← cons_append, ← append_assoc,
    ← append_assoc] at h
  obtain ⟨hfront, hcode⟩ := append_cons_inj (hyphen_notMem_decimal _) (hyphen_notMem_decimal _) h
  obtain ⟨hmfg, hmodel⟩ := append_cons_inj (a.modelNameFixed ▸ hyphen_notMem_fixup a.modelName)
    (b.modelNameFixed ▸ hyphen_notMem_fixup b.modelName) hfront
  have hproduct := decimal_natCast_inj hcode
  cases a
  cases hmfg
  cases hmodel
  cases hproduct; rfl

end Ddc
