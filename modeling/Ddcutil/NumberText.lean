import Ddcutil.HexList
import Mathlib.Data.List.TakeWhile
/-!
# NumberText — printed numbers, and what is read back of them

The conversions `%02x`, `%02X` and `%d`, words between separators, and the lemmas that say what `strtol`, the readers
built on it and `strtok` make of such text.
-/
namespace Ddc

open List

def hexDigitLower (n : Nat) : Byte := UInt8.ofNat (if n < 10 then 0x30 + n else 0x61 + (n - 10))

def hexDigit (upper : Bool) (n : Nat) : Byte :=
  if upper then UInt8.ofNat (if n < 10 then 0x30 + n else 0x41 + (n - 10)) else hexDigitLower n

def hexByte (upper : Bool) (b : Byte) : List Byte := [hexDigit upper (b.toNat / 16), hexDigit upper (b.toNat % 16)]

def hexstring2 (bytes : List Byte) : List Byte := bytes.flatMap (hexByte true)

def hhsToByteArray : List Byte → Option (List Byte)
  | [] => some []
  | [_] => none
  | c0 :: c1 :: s => do
    let hi ← (digitVal c0).filter (· < 16)
    let lo ← (digitVal c1).filter (· < 16)
    let rest ← hhsToByteArray s
    some (UInt8.ofNat (hi * 16 + lo) :: rest)

def joinWith (sep : List Byte) : List (List Byte) → List Byte
  | [] => []
  | w :: ws => w ++ ws.flatMap fun w' => sep ++ w'

def decimalDigits (n : Nat) : List Byte := (Nat.toDigits 10 n).map fun c => UInt8.ofNat c.toNat

def decimal (n : Int) : List Byte := if n < 0 then 0x2d :: decimalDigits n.natAbs else decimalDigits n.natAbs

def padLeft (filler : Byte) (width : Nat) (s : List Byte) : List Byte := List.replicate (width - s.length) filler ++ s

/-! ## Digits -/

theorem digitVal_hexDigit (upper : Bool) : ∀ n < 16, digitVal (hexDigit upper n) = some n := by
  cases upper <;> decide

variable {c : Byte} {n base : Nat} {s : List Byte}

section
variable (h : digitVal c = some n)
include h

theorem le_of_digitVal : 0x30 ≤ c := by
  unfold digitVal at h
  split_ifs at h with h0 h1 h2
  · exact h0.1
  · exact UInt8.le_trans (by decide) h1.1
  · exact UInt8.le_trans (by decide) h2.1

theorem lt_of_digitVal : c < 0x80 := by
  unfold digitVal at h
  split_ifs at h with h0 h1 h2
  · exact UInt8.lt_of_le_of_lt h0.2 (by decide)
  · exact UInt8.lt_of_le_of_lt h1.2 (by decide)
  · exact UInt8.lt_of_le_of_lt h2.2 (by decide)

theorem ne_of_digitVal {d : Byte} (hd : ¬ 0x30 ≤ d) : c ≠ d := by
  rintro rfl
  exact hd (le_of_digitVal h)

theorem isspace_of_digitVal : isspace c = false := by
  have hle := le_of_digitVal h
  have hblank : c ≠ blank := ne_of_digitVal h (by decide)
  have hcr : ¬ c ≤ 0x0d := fun hc => absurd (UInt8.le_trans hle hc) (by decide)
  simp [isspace, hblank, hcr]

theorem takeSign_of_digitVal (s : List Byte) : takeSign (c :: s) = (false, c :: s) := by
  rw [takeSign, if_neg (ne_of_digitVal h (by decide)), if_neg (ne_of_digitVal h (by decide))]

end

theorem exists_digitVal (h : isDigit base c = true) : ∃ n, digitVal c = some n := by
  unfold isDigit at h
  cases hc : digitVal c with
  | none => rw [hc] at h; cases h
  | some n => exact ⟨n, rfl⟩

theorem ofInt_natCast (n : Nat) : UInt8.ofInt (n : Int) = UInt8.ofNat n := by
  apply UInt8.toNat_inj.1
  simp only [UInt8.ofInt, UInt8.toNat_ofNat']; omega

def signText (neg : Bool) : List Byte := if neg then [0x2d] else []

theorem strtol_signed (neg : Bool) {ds : List Byte} (rest : List Byte) (hd : ∀ x ∈ c :: ds, isDigit base x = true)
    (hr : rest.dropWhile (isDigit base) = rest) (hp : base = 16 → dropHexPrefix (c :: ds ++ rest) = c :: ds ++ rest)
    {n : Int} (hn : n = if neg then -(digitsVal base (c :: ds) : Int) else digitsVal base (c :: ds))
    (hlow : longMin ≤ n) (hmax : n ≤ longMax) :
    strtol (signText neg ++ (c :: ds ++ rest)) base = ⟨n, false, rest⟩ := by
  obtain ⟨d, hdigit⟩ := exists_digitVal (hd c mem_cons_self)
  have hskip : (signText neg ++ (c :: ds ++ rest)).dropWhile isspace = signText neg ++ (c :: ds ++ rest) := by
    cases neg with
    | true => exact dropWhile_cons_of_neg (by decide)
    | false => exact dropWhile_cons_of_neg (by simp [isspace_of_digitVal hdigit])
  have hsign : takeSign (signText neg ++ (c :: ds ++ rest)) = (neg, c :: ds ++ rest) := by
    cases neg with
    | true => rfl
    | false => exact takeSign_of_digitVal hdigit _
  have hpre : (if base = 16 then dropHexPrefix (c :: ds ++ rest) else c :: ds ++ rest) = c :: ds ++ rest := by
    split_ifs with hb
    · exact hp hb
    · rfl
  have hnil : rest.takeWhile (isDigit base) = [] := by
    have hlen := congrArg List.length (takeWhile_append_dropWhile (p := isDigit base) (l := rest))
    rw [hr, length_append] at hlen; exact eq_nil_of_length_eq_zero (by omega)
  have htake : (c :: ds ++ rest).takeWhile (isDigit base) = c :: ds := by
    rw [takeWhile_append_of_pos hd, hnil, append_nil]
  have hdrop : (c :: ds ++ rest).dropWhile (isDigit base) = rest := by
    rw [dropWhile_append_of_pos hd, hr]
  rw [strtol, hskip, hsign]
  dsimp only
  rw [hpre, htake, hdrop, if_neg (cons_ne_nil c ds), ← hn, Int.min_eq_right hmax, Int.max_eq_right hlow]
  simp [Int.not_lt.2 hmax, Int.not_lt.2 hlow]

variable (rest : List Byte)

theorem strtol_digits {ds : List Byte} (hd : ∀ x ∈ c :: ds, isDigit base x = true)
    (hr : rest.dropWhile (isDigit base) = rest) (hp : base = 16 → dropHexPrefix (c :: ds ++ rest) = c :: ds ++ rest)
    (hmax : (digitsVal base (c :: ds) : Int) ≤ longMax) :
    strtol (c :: ds ++ rest) base = ⟨digitsVal base (c :: ds), false, rest⟩ :=
  strtol_signed false rest hd hr hp rfl (Int.le_trans (by decide) (Int.natCast_nonneg _)) hmax

theorem hhcToByteInBuf_digits {c0 c1 : Byte} {a b : Nat} (h0 : digitVal c0 = some a) (h1 : digitVal c1 = some b)
    (ha : a < 16) (hb : b < 16) : hhcToByteInBuf c0 c1 = some (UInt8.ofNat (a * 16 + b)) := by
  have hstr : cstr [c0, c1] = [c0, c1] := by
    simp [cstr, ne_of_digitVal h0 (d := 0) (by decide), ne_of_digitVal h1 (d := 0) (by decide)]
  have hval : digitsVal 16 [c0, c1] = a * 16 + b := by simp [digitsVal, h0, h1]
  have hpre : dropHexPrefix [c0, c1] = [c0, c1] := by
    unfold dropHexPrefix
    split
    · next heq => simp at heq
    · rfl
  have hd : ∀ x ∈ [c0, c1], isDigit 16 x = true := by simp [isDigit, h0, h1, ha, hb]
  have hmax : (digitsVal 16 [c0, c1] : Int) ≤ longMax := by
    have : longMax = 9223372036854775807 := by decide
    omega
  have hstrtol := strtol_digits [] hd rfl (fun _ => by rw [append_nil, hpre]) hmax
  rw [append_nil] at hstrtol
  rw [hhcToByteInBuf, hstr, hhsToByteInBuf, hstrtol, hval, ← ofInt_natCast]; rfl

theorem hhcToByteInBuf_hexByte (upper : Bool) (b : Byte) :
    hhcToByteInBuf (hexDigit upper (b.toNat / 16)) (hexDigit upper (b.toNat % 16)) = some b := by
  have hlt : b.toNat < 256 := b.toNat_lt
  rw [hhcToByteInBuf_digits (digitVal_hexDigit upper _ (by omega)) (digitVal_hexDigit upper _ (by omega)) (by omega)
    (by omega)]
  congr 1
  rw [show b.toNat / 16 * 16 + b.toNat % 16 = b.toNat by omega]; exact UInt8.ofNat_toNat

theorem mem_hexByte {upper : Bool} {b : Byte} (h : c ∈ hexByte upper b) : ∃ n, digitVal c = some n := by
  have hlt : b.toNat < 256 := b.toNat_lt
  simp only [hexByte, mem_cons, not_mem_nil, or_false] at h
  rcases h with rfl | rfl
  · exact ⟨_, digitVal_hexDigit upper _ (by omega)⟩
  · exact ⟨_, digitVal_hexDigit upper _ (by omega)⟩

theorem tokenByte_hexByte (upper : Bool) (b : Byte) : tokenByte (hexByte upper b) = some b :=
  hhcToByteInBuf_hexByte upper b

theorem hhsToByteArray_hexstring2 (bytes : List Byte) : hhsToByteArray (hexstring2 bytes) = some bytes := by
  induction bytes with
  | nil => rfl
  | cons b bytes ih =>
    have hlt : b.toNat < 256 := b.toNat_lt
    have hhi : (digitVal (hexDigit true (b.toNat / 16))).filter (· < 16) = some (b.toNat / 16) := by
      rw [digitVal_hexDigit true _ (by omega), Option.filter_some, if_pos (decide_eq_true (by omega))]
    have hlo : (digitVal (hexDigit true (b.toNat % 16))).filter (· < 16) = some (b.toNat % 16) := by
      rw [digitVal_hexDigit true _ (by omega), Option.filter_some, if_pos (decide_eq_true (by omega))]
    change hhsToByteArray (hexDigit true (b.toNat / 16) :: hexDigit true (b.toNat % 16) :: hexstring2 bytes) = _
    rw [hhsToByteArray, hhi, hlo, ih, Option.bind_eq_bind, Option.bind_some, Option.bind_eq_bind, Option.bind_some,
      Option.bind_some, show b.toNat / 16 * 16 + b.toNat % 16 = b.toNat by omega,
      UInt8.ofNat_toNat]

theorem length_hexstring2 (bytes : List Byte) : (hexstring2 bytes).length = 2 * bytes.length := by
  induction bytes with
  | nil => rfl
  | cons b bytes ih =>
    change (hexstring2 bytes).length + 1 + 1 = 2 * (bytes.length + 1)
    omega

theorem mem_hexstring2 {bytes : List Byte} (h : c ∈ hexstring2 bytes) : ∃ n, digitVal c = some n := by
  obtain ⟨b, -, hc⟩ := mem_flatMap.1 h
  exact mem_hexByte hc

/-! ## Versions -/

theorem digits_no_nul (h : ∀ c ∈ s, isDigit 10 c = true) : ∀ c ∈ s, c ≠ 0 := by
  intro c hc
  obtain ⟨n, hn⟩ := exists_digitVal (h c hc)
  exact ne_of_digitVal hn (by decide)

theorem scanHhd_digits (hne : s ≠ []) (h : ∀ c ∈ s, isDigit 10 c = true) (hr : rest.dropWhile (isDigit 10) = rest)
    (hmax : digitsVal 10 s ≤ 255) : scanHhd (s ++ rest) = some (UInt8.ofNat (digitsVal 10 s), rest) := by
  obtain ⟨c, ds, rfl⟩ := exists_cons_of_ne_nil hne
  have hlong : (digitsVal 10 (c :: ds) : Int) ≤ longMax := by
    have : longMax = 9223372036854775807 := by decide
    omega
  have hstrtol := strtol_digits rest h hr (fun hb => absurd hb (by decide)) hlong
  rw [scanHhd, hstrtol]
  dsimp only
  rw [if_neg, ofInt_natCast]
  intro heq
  have := congrArg List.length heq
  rw [length_append, length_cons] at this; omega

theorem scanVspec_digits {major minor : List Byte} (hmajor : major ≠ [] ∧ ∀ c ∈ major, isDigit 10 c = true)
    (hminor : minor ≠ [] ∧ ∀ c ∈ minor, isDigit 10 c = true) (ha : digitsVal 10 major ≤ 255)
    (hb : digitsVal 10 minor ≤ 255) :
    scanVspec (major ++ 0x2e :: minor) = some ⟨UInt8.ofNat (digitsVal 10 major), UInt8.ofNat (digitsVal 10 minor)⟩ := by
  have h1 := scanHhd_digits (0x2e :: minor) hmajor.1 hmajor.2 (by rfl) ha
  have h2 := scanHhd_digits [] hminor.1 hminor.2 rfl hb
  have hskip : minor.dropWhile isspace = minor := by
    obtain ⟨c, ds, rfl⟩ := exists_cons_of_ne_nil hminor.1
    obtain ⟨n, hn⟩ := exists_digitVal (hminor.2 c mem_cons_self)
    rw [dropWhile_cons_of_neg (by simp [isspace_of_digitVal hn])]
  have hdot : scanDot (0x2e :: minor) = some minor := by
    rw [scanDot, dropWhile_cons_of_neg (by decide)]
    simp [hskip]
  rw [append_nil] at h2
  simp only [scanVspec, h1, Option.bind_eq_bind, Option.bind_some, hdot, h2]; rfl

theorem parseVspec_digits {major minor : List Byte} (hmajor : major ≠ [] ∧ ∀ c ∈ major, isDigit 10 c = true)
    (hminor : minor ≠ [] ∧ ∀ c ∈ minor, isDigit 10 c = true) (ha : digitsVal 10 major ≤ 3) (hb : digitsVal 10 minor ≤ 2) :
    parseVspec (major ++ 0x2e :: minor) = ⟨UInt8.ofNat (digitsVal 10 major), UInt8.ofNat (digitsVal 10 minor)⟩ := by
  rw [parseVspec, scanVspec_digits hmajor hminor (by omega) (by omega)]
  have hknown : ∀ a < 4, ∀ b < 3, ¬ (UInt8.ofNat a > 3 ∨ UInt8.ofNat b > 2) := by decide
  exact if_neg (hknown _ (by omega) _ (by omega))

/-! ## Words -/

theorem mem_joinWith {sep : List Byte} {ws : List (List Byte)} (h : c ∈ joinWith sep ws) :
    c ∈ sep ∨ ∃ w ∈ ws, c ∈ w := by
  cases ws with
  | nil => cases h
  | cons w ws =>
    rcases mem_append.1 h with h | h
    · exact .inr ⟨w, mem_cons_self, h⟩
    · obtain ⟨w', hw', h⟩ := mem_flatMap.1 h
      rcases mem_append.1 h with h | h
      · exact .inl h
      · exact .inr ⟨w', mem_cons_of_mem w hw', h⟩

theorem joinWith_eq_append (sep : List Byte) {ws : List (List Byte)} (h : ws ≠ []) :
    ∃ front, ∃ w ∈ ws, joinWith sep ws = front ++ w := by
  cases ws with
  | nil => exact absurd rfl h
  | cons w ws =>
    rcases eq_nil_or_concat ws with rfl | ⟨init, last, rfl⟩
    · exact ⟨[], w, mem_cons_self, append_nil w⟩
    · refine ⟨w ++ (init.flatMap fun w' => sep ++ w') ++ sep, last, by simp, ?_⟩
      simp only [joinWith, concat_eq_append, flatMap_append, flatMap_cons, flatMap_nil,
        append_nil, append_assoc]

theorem strtok_joinWith : ∀ {ws : List (List Byte)}, (∀ w ∈ ws, w ≠ [] ∧ ∀ c ∈ w, c ≠ blank) →
    strtok (joinWith [blank] ws) = ws
  | [], _ => rfl
  | [w], h => by
    have hw := h w mem_cons_self
    have hp : ∀ c ∈ w, (c == blank) = false := fun c hc => by simpa using hw.2 c hc
    rw [joinWith, flatMap_nil, append_nil, strtok, splitOnP_eq_singleton hp]
    simp [hw.1]
  | w :: w' :: ws, h => by
    have hw := h w mem_cons_self
    have hp : ∀ c ∈ w, (c == blank) = false := fun c hc => by simpa using hw.2 c hc
    have ih := strtok_joinWith fun x hx => h x (mem_cons_of_mem w hx)
    have htext : joinWith [blank] (w :: w' :: ws) = w ++ blank :: joinWith [blank] (w' :: ws) := rfl
    rw [strtok] at ih ⊢
    rw [htext, splitOnP_append_cons_of_forall_mem hp blank (by decide),
      filter_cons_of_pos (by simpa using hw.1), ih]

theorem cstr_eq (h : ∀ c ∈ s, c ≠ 0) : cstr s = s := by
  rw [cstr, takeWhile_eq_self_iff]; exact fun c hc => by simpa using h c hc

/-! ## Decimals -/

def digitByte (d : Nat) : Byte := UInt8.ofNat (Nat.digitChar d).toNat

theorem digitVal_digitByte : ∀ d < 10, digitVal (digitByte d) = some d := by decide

theorem decimalDigits_of_lt (h : n < 10) : decimalDigits n = [digitByte n] := by
  rw [decimalDigits, Nat.toDigits_of_lt_base h]; rfl

theorem decimalDigits_of_le (h : 10 ≤ n) : decimalDigits n = decimalDigits (n / 10) ++ [digitByte (n % 10)] := by
  rw [decimalDigits, Nat.toDigits_of_base_le (by decide) h, map_append]; rfl

theorem digitsVal_append_singleton (base : Nat) (ds : List Byte) (c : Byte) :
    digitsVal base (ds ++ [c]) = digitsVal base ds * base + (digitVal c).getD 0 := by
  simp only [digitsVal, foldl_append, foldl_cons, foldl_nil]

theorem digitsVal_decimalDigits (n : Nat) : digitsVal 10 (decimalDigits n) = n := by
  induction n using Nat.strong_induction_on with
  | _ n ih =>
    rcases Nat.lt_or_ge n 10 with hlt | hge
    · rw [decimalDigits_of_lt hlt, ← nil_append [digitByte n], digitsVal_append_singleton,
        digitVal_digitByte n hlt]
      simp [digitsVal]
    · rw [decimalDigits_of_le hge, digitsVal_append_singleton, ih (n / 10) (by omega),
        digitVal_digitByte _ (Nat.mod_lt n (by decide)), Option.getD_some]
      omega

theorem digitVal_of_mem_decimalDigits (h : c ∈ decimalDigits n) : ∃ d, d < 10 ∧ digitVal c = some d := by
  induction n using Nat.strong_induction_on with
  | _ n ih =>
    rcases Nat.lt_or_ge n 10 with hlt | hge
    · rw [decimalDigits_of_lt hlt, mem_singleton] at h; exact ⟨n, hlt, h ▸ digitVal_digitByte n hlt⟩
    · rw [decimalDigits_of_le hge, mem_append, mem_singleton] at h
      have hmod : n % 10 < 10 := Nat.mod_lt n (by decide)
      rcases h with h | h
      · exact ih (n / 10) (by omega) h
      · exact ⟨n % 10, hmod, h ▸ digitVal_digitByte _ hmod⟩

theorem decimalDigits_ne_nil (n : Nat) : decimalDigits n ≠ [] := by
  rw [decimalDigits, ne_eq, map_eq_nil_iff]; exact Nat.toDigits_ne_nil

theorem decimal_eq (n : Int) : decimal n = signText (decide (n < 0)) ++ decimalDigits n.natAbs := by
  unfold decimal signText
  by_cases h : n < 0
  · rw [if_pos h, if_pos (by simpa using h)]; rfl
  · rw [if_neg h, if_neg (by simpa using h)]; rfl

theorem decimal_ne_nil (n : Int) : decimal n ≠ [] := by
  rw [decimal_eq]; exact append_ne_nil_of_right_ne_nil _ (decimalDigits_ne_nil _)

theorem mem_decimal {n : Int} (h : c ∈ decimal n) : c = 0x2d ∨ ∃ d, d < 10 ∧ digitVal c = some d := by
  rw [decimal_eq] at h
  rcases mem_append.1 h with h | h
  · left
    unfold signText at h
    split at h
    · exact mem_singleton.1 h
    · cases h
  · exact .inr (digitVal_of_mem_decimalDigits h)

theorem strtol_decimal {n : Int} (hr : rest.dropWhile (isDigit 10) = rest) (hlow : longMin ≤ n) (hmax : n ≤ longMax) :
    strtol (decimal n ++ rest) 10 = ⟨n, false, rest⟩ := by
  have hdigits : ∀ c ∈ decimalDigits n.natAbs, isDigit 10 c = true := by
    intro c hc
    obtain ⟨d, hd, hval⟩ := digitVal_of_mem_decimalDigits hc
    simp [isDigit, hval, hd]
  have hn : n = if decide (n < 0) = true then -(digitsVal 10 (decimalDigits n.natAbs) : Int)
      else digitsVal 10 (decimalDigits n.natAbs) := by
    rw [digitsVal_decimalDigits]
    split
    · rename_i h
      have := of_decide_eq_true h
      omega
    · rename_i h
      have : ¬ n < 0 := fun hlt => h (decide_eq_true hlt)
      omega
  rw [decimal_eq, append_assoc]
  cases hds : decimalDigits n.natAbs with
  | nil => exact absurd hds (decimalDigits_ne_nil _)
  | cons c ds =>
    rw [hds] at hdigits hn
    exact strtol_signed _ rest hdigits hr (fun h => absurd h (by decide)) hn hlow hmax

end Ddc
