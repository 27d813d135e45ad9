import Ddcutil.AppSetvcp
import Ddcutil.Dsa2
/-!
# StrToLong — a string converted to a `long` or an `int`, and what its target then holds

`str_to_long` writes an `x` in front as `0x` and hands the text to `strtol`, which skips white space, takes a sign in
front of a prefix, reads a leading zero as octal in base 0 and saturates; `str_to_int` stores what it gets before it
looks whether it fits.
-/
namespace Ddc

open Kit List

def workText (sval : List Byte) : List Byte :=
  if sval.head? = some 0x78 ∨ sval.head? = some 0x58 then 0x30 :: sval else sval

def strtolBase (base : Nat) (work : List Byte) : Nat := if base = 0 then autoBase work else base

def strToLongInto (sval : Option (List Byte)) (pIval : Int) (base : Nat) : Exec (Bool × Int) := do
  check (base = 0 ∨ base = 10 ∨ base = 16)
  match sval with
  | none => .ok (false, pIval)
  | some sval =>
    if sval = [] then .ok (false, pIval)
    else
      let work := workText sval
      let hasDigits := decide ((if sval.head? = some 0x78 ∨ sval.head? = some 0x58 then 2 else 0) < work.length)
      if hasDigits then
        let r := strtol work (strtolBase base work)
        if r.rest = [] then .ok (true, r.value) else .ok (false, pIval)
      else .ok (false, pIval)

/-- **`str_to_int`**; `lval` is not set before, and read only where the conversion succeeded. -/
def strToIntInto (sval : Option (List Byte)) (pIval : Int) (base : Nat) : Exec (Bool × Int) := do
  let (result, lval) ← strToLongInto sval 0 base
  if result then .ok (decide (int32 lval = lval), int32 lval) else .ok (false, pIval)

/-! ## What is documented -/

def hexMarked (s : List Byte) : Option (List Byte) :=
  if s.head? = some 0x78 ∨ s.head? = some 0x58 then some (s.drop 1)
  else if strStartsWith s (ascii "0x") = true ∨ strStartsWith s (ascii "0X") = true then some (s.drop 2)
  else none

/-- **The number that a text stands for**: in base 10 a decimal number, in base 16 hexadecimal digits, marked or not, and in
base 0 hexadecimal digits where they are marked, otherwise a decimal number. -/
def documentedNumber (base : Nat) (s : List Byte) : Option Int :=
  if base = 10 then wholeNumber 10 (takeSign s)
  else
    match hexMarked s with
    | some digits => wholeNumber 16 (false, digits)
    | none => if base = 16 then wholeNumber 16 (false, s) else wholeNumber 10 (takeSign s)

def stored (number : Option Int) (pIval : Int) : Bool × Int :=
  match number with
  | some n => (true, n)
  | none => (false, pIval)

def StrToLongRight (s : List Byte) (base : Nat) : Prop :=
  ∀ pIval, strToLongInto (some s) pIval base =
    .ok (stored ((documentedNumber base s).filter fun n => longMin ≤ n ∧ n ≤ longMax) pIval)

def StrToIntRight (s : List Byte) (base : Nat) : Prop :=
  ∀ pIval, strToIntInto (some s) pIval base =
    .ok (stored ((documentedNumber base s).filter fun n => intMin ≤ n ∧ n ≤ intMax) pIval)

def AreDigits (base : Nat) (text : List Byte) : Prop := text ≠ [] ∧ text.all (isDigit base) = true

/-- **A text that is not converted as documented**: a number after white space; a hexadecimal number with a sign; a leading
zero that makes `strtol` read another number, or none; any other number that is out of range. -/
inductive Misconverted (low high : Int) (base : Nat) (s : List Byte) : Prop where
  | space (hspace : s.head?.any isspace = true)
      (hdigits : AreDigits (strtolBase base s) (signedText (strtolBase base s) s).2)
  | signedHex (hsign : s.head? = some 0x2d ∨ s.head? = some 0x2b) (hbase : strtolBase base s = 16)
      (hdigits : AreDigits 16 (signedText 16 s).2)
  | octal (hspace : s.head?.any isspace = false) (hbase : base = 0 ∧ autoBase s = 8)
      (hne : wholeNumber 8 (takeSign s) ≠ (wholeNumber 10 (takeSign s)).filter fun n => low ≤ n ∧ n ≤ high)
  | range (hbase : ¬ (base = 0 ∧ autoBase s = 8)) (n : Int) (hn : documentedNumber base s = some n)
      (hrange : ¬ (low ≤ n ∧ n ≤ high))

/-! ## What `strtol` makes of the text -/

def strtolNumber (base : Nat) (work : List Byte) : Option Int :=
  wholeNumber (strtolBase base work) (signedText (strtolBase base work) work)

variable {base : Nat} {s : List Byte} {c : Byte}

theorem wholeNumber_isSome {signed : Bool × List Byte} :
    (∃ n, wholeNumber base signed = some n) ↔ AreDigits base signed.2 := by
  unfold wholeNumber AreDigits
  by_cases h : signed.2 ≠ [] ∧ signed.2.all (isDigit base) = true
  · rw [if_pos h]; exact ⟨fun _ => h, fun _ => ⟨_, rfl⟩⟩
  · rw [if_neg h]; exact ⟨fun ⟨n, hn⟩ => absurd hn (by simp), fun h' => absurd h' h⟩

theorem strtol_whole (hs : s ≠ []) :
    (if (strtol s base).rest = [] then some (strtol s base).value else none) =
      (wholeNumber base (signedText base s)).map fun n => max longMin (min longMax n) := by
  by_cases hrest : (strtol s base).rest = []
  · have hwhole := (strtol_rest hs).1 hrest
    have htake : (signedText base s).2.takeWhile (isDigit base) = (signedText base s).2 :=
      takeWhile_eq_self_iff.2 (all_eq_true.1 hwhole.2)
    have hvalue := strtol_value (s := s) (htake ▸ hwhole.1)
    rw [htake] at hvalue
    rw [if_pos hrest, hvalue]
    rw [wholeNumber, if_pos hwhole]; rfl
  · rw [if_neg hrest, wholeNumber_of_not fun h => hrest ((strtol_rest hs).2 h)]; rfl

theorem workText_of_marked {x : Byte} (hx : x = 0x78 ∨ x = 0x58) (ds : List Byte) :
    workText (x :: ds) = 0x30 :: x :: ds := if_pos (hx.imp (congrArg some) (congrArg some))

theorem workText_of_not (hx : ¬ (s.head? = some 0x78 ∨ s.head? = some 0x58)) : workText s = s := if_neg hx

theorem strtolNumber_marked (hbase : base = 0 ∨ base = 10 ∨ base = 16) {x : Byte} (hx : x = 0x78 ∨ x = 0x58)
    (ds : List Byte) :
    strtolNumber base (0x30 :: x :: ds) = if base = 10 then none else wholeNumber 16 (false, ds) := by
  have hskip : (0x30 :: x :: ds).dropWhile isspace = 0x30 :: x :: ds := dropWhile_cons_of_neg (by decide)
  have hauto : autoBase (0x30 :: x :: ds) = 16 := by exact if_pos hx
  have hsixteen : wholeNumber 16 (signedText 16 (0x30 :: x :: ds)) = wholeNumber 16 (false, ds) := by
    rw [← wholeNumber_dropHexPrefix false hx ds]; rfl
  unfold strtolNumber strtolBase
  rcases hbase with rfl | rfl | rfl
  · rw [if_pos rfl, hauto, hsixteen, if_neg (by decide)]
  · rw [if_neg (by decide), if_pos rfl]
    refine wholeNumber_of_not fun h => ?_
    have htext : (signedText 10 (0x30 :: x :: ds)).2 = 0x30 :: x :: ds := by rfl
    have hdigit : isDigit 10 x = false := by rcases hx with rfl | rfl <;> decide
    rw [htext] at h
    simp [hdigit] at h
  · rw [if_neg (by decide), hsixteen, if_neg (by decide)]

theorem strToLongInto_eq (hbase : base = 0 ∨ base = 10 ∨ base = 16) (s : List Byte) (pIval : Int) :
    strToLongInto (some s) pIval base =
      .ok (stored ((strtolNumber base (workText s)).map fun n => max longMin (min longMax n)) pIval) := by
  rw [strToLongInto, check_pos hbase, Exec.ok_bind]
  by_cases hs : s = []
  · rw [if_pos hs, hs]
    have hnone : strtolNumber base (workText []) = none := wholeNumber_of_not fun h => h.1 (by
      unfold signedText
      split <;> rfl)
    rw [hnone]; rfl
  · rw [if_neg hs]
    have hread : ∀ work : List Byte, work ≠ [] →
        (if (strtol work (strtolBase base work)).rest = [] then
          (Except.ok (true, (strtol work (strtolBase base work)).value) : Exec (Bool × Int)) else .ok (false, pIval)) =
        .ok (stored ((strtolNumber base work).map fun n => max longMin (min longMax n)) pIval) := by
      intro work hwork
      rw [strtolNumber, ← strtol_whole hwork]
      split <;> rfl
    by_cases hx : s.head? = some 0x78 ∨ s.head? = some 0x58
    · rw [if_pos hx]
      obtain ⟨x, ds, rfl⟩ := exists_cons_of_ne_nil hs
      have hx' : x = 0x78 ∨ x = 0x58 := hx.imp (fun h => Option.some.inj h) (fun h => Option.some.inj h)
      rw [workText_of_marked hx']
      cases ds with
      | nil =>
        rw [if_neg (by simp), strtolNumber_marked hbase hx', wholeNumber_of_not fun h => h.1 rfl, ite_self]
        rfl
      | cons d ds =>
        exact hread _ (cons_ne_nil _ _)
    · rw [if_neg hx, workText_of_not hx, if_pos (decide_eq_true (length_pos_iff.2 hs))]
      exact hread s hs

/-! ## The text that is read, and the number that it stands for -/

theorem takeSign_of_not (hsign : ¬ (c = 0x2d ∨ c = 0x2b)) (t : List Byte) : takeSign (c :: t) = (false, c :: t) := by
  rw [not_or] at hsign
  rw [takeSign, if_neg hsign.1, if_neg hsign.2]

theorem wholeNumber_of_head (hc : isDigit base c = false) (neg : Bool) (t : List Byte) :
    wholeNumber base (neg, c :: t) = none := wholeNumber_of_not fun h => by simp [hc] at h

theorem isDigit_of_isspace (h : isspace c = true) (base : Nat) : isDigit base c = false := by
  rw [← Bool.not_eq_true]
  intro hdigit
  obtain ⟨n, hn⟩ := exists_digitVal hdigit
  rw [isspace_of_digitVal hn] at h; cases h

theorem isDigit_of_sign (h : c = 0x2d ∨ c = 0x2b) (base : Nat) : isDigit base c = false := by
  rcases h with rfl | rfl <;> rfl

theorem hexMarked_of_head (hx : ¬ (c = 0x78 ∨ c = 0x58)) (h0 : c ≠ 0x30) (t : List Byte) :
    hexMarked (c :: t) = none := by
  rw [hexMarked, if_neg (by simpa using hx), if_neg]
  have hprefix : ∀ x : Byte, strStartsWith (c :: t) [0x30, x] ≠ true := by
    intro x h
    obtain ⟨ds, hds⟩ := isPrefixOf_iff_prefix.1 h
    exact h0 (List.cons.inj hds).1.symm
  rintro (h | h)
  · exact hprefix _ h
  · exact hprefix _ h

theorem documentedNumber_of_head (hx : ¬ (c = 0x78 ∨ c = 0x58)) (h0 : c ≠ 0x30) (hc : isDigit 16 c = false) (base : Nat)
    (t : List Byte) :
    documentedNumber base (c :: t) = if base = 16 then none else wholeNumber 10 (takeSign (c :: t)) := by
  rw [documentedNumber, hexMarked_of_head hx h0]
  by_cases h10 : base = 10
  · rw [if_pos h10, if_neg (by omega)]
  · rw [if_neg h10, wholeNumber_of_head hc]

theorem dropWhile_of_head (h : s.head?.any isspace = false) : s.dropWhile isspace = s := by
  cases s with
  | nil => rfl
  | cons c s => exact dropWhile_cons_of_neg (by simpa using h)

theorem documentedNumber_space (h : s.head?.any isspace = true) (base : Nat) : documentedNumber base s = none := by
  cases s with
  | nil => cases h
  | cons c t =>
    have hspace : isspace c = true := by simpa using h
    have hne : ∀ x : Byte, isspace x = false → c ≠ x := by
      rintro x hx rfl
      rw [hspace] at hx; cases hx
    have hx : ¬ (c = 0x78 ∨ c = 0x58) := not_or.2 ⟨hne _ (by decide), hne _ (by decide)⟩
    have hsign : ¬ (c = 0x2d ∨ c = 0x2b) := not_or.2 ⟨hne _ (by decide), hne _ (by decide)⟩
    rw [documentedNumber_of_head hx (hne _ (by decide)) (isDigit_of_isspace hspace 16), takeSign_of_not hsign,
      wholeNumber_of_head (isDigit_of_isspace hspace 10), ite_self]

theorem documentedNumber_signedHex (hsign : s.head? = some 0x2d ∨ s.head? = some 0x2b)
    (hbase : strtolBase base s = 16) : documentedNumber base s = none := by
  cases s with
  | nil => simp at hsign
  | cons c t =>
    have hc : c = 0x2d ∨ c = 0x2b := hsign.imp (fun h => Option.some.inj h) (fun h => Option.some.inj h)
    have hx : ¬ (c = 0x78 ∨ c = 0x58) := by rcases hc with rfl | rfl <;> decide
    have h0 : c ≠ 0x30 := by rcases hc with rfl | rfl <;> decide
    have hspace : isspace c = false := by rcases hc with rfl | rfl <;> rfl
    rw [documentedNumber_of_head hx h0 (isDigit_of_sign hc 16)]
    by_cases h16 : base = 16
    · rw [if_pos h16]
    · rw [if_neg h16]
      unfold strtolBase at hbase
      by_cases h : base = 0
      · rw [if_pos h] at hbase
        obtain ⟨x, ds, hx', hsigned⟩ := autoBase_eq_sixteen hbase
        rw [dropWhile_cons_of_neg (by rw [hspace]; exact Bool.false_ne_true)] at hsigned
        have hdigit : isDigit 10 x = false := by rcases hx' with rfl | rfl <;> decide
        exact wholeNumber_of_not fun h => by simp [hsigned, hdigit] at h
      · rw [if_neg h] at hbase; exact absurd hbase h16

theorem marked_or_not (s : List Byte) :
    (∃ x ds, (x = 0x78 ∨ x = 0x58) ∧ (s = x :: ds ∨ s = 0x30 :: x :: ds) ∧ hexMarked s = some ds ∧
      workText s = 0x30 :: x :: ds) ∨
    hexMarked s = none ∧ workText s = s ∧ ∀ x ds, (x = 0x78 ∨ x = 0x58) → s ≠ 0x30 :: x :: ds := by
  unfold hexMarked
  by_cases hx : s.head? = some 0x78 ∨ s.head? = some 0x58
  · left
    rw [if_pos hx]
    cases s with
    | nil => simp at hx
    | cons x ds =>
      have hx' : x = 0x78 ∨ x = 0x58 := hx.imp (fun h => Option.some.inj h) (fun h => Option.some.inj h)
      exact ⟨x, ds, hx', .inl rfl, rfl, workText_of_marked hx' ds⟩
  · rw [if_neg hx]
    by_cases hprefix : strStartsWith s (ascii "0x") = true ∨ strStartsWith s (ascii "0X") = true
    · left
      rw [if_pos hprefix]
      have hmarked : ∃ x ds, (x = 0x78 ∨ x = 0x58) ∧ s = 0x30 :: x :: ds := by
        rcases hprefix with h | h
        · obtain ⟨ds, hds⟩ := isPrefixOf_iff_prefix.1 h
          exact ⟨0x78, ds, .inl rfl, hds.symm⟩
        · obtain ⟨ds, hds⟩ := isPrefixOf_iff_prefix.1 h
          exact ⟨0x58, ds, .inr rfl, hds.symm⟩
      obtain ⟨x, ds, hx', rfl⟩ := hmarked
      exact ⟨x, ds, hx', .inr rfl, rfl, workText_of_not hx⟩
    · right
      rw [if_neg hprefix]
      refine ⟨rfl, workText_of_not hx, ?_⟩
      rintro x ds (rfl | rfl) rfl
      · exact hprefix (.inl ( isPrefixOf_iff_prefix.2 ⟨ds, rfl⟩))
      · exact hprefix (.inr ( isPrefixOf_iff_prefix.2 ⟨ds, rfl⟩))

theorem strtolNumber_octal (hspace : s.head?.any isspace = false) (hauto : autoBase s = 8) :
    strtolNumber 0 (workText s) = wholeNumber 8 (takeSign s) ∧ documentedNumber 0 s = wholeNumber 10 (takeSign s) := by
  rcases marked_or_not s with ⟨x, ds, hx, hs, hmarked, hwork⟩ | ⟨hmarked, hwork, hnot⟩
  · rw [autoBase, dropWhile_of_head hspace] at hauto
    rcases hs with rfl | rfl
    · have hsign : takeSign (x :: ds) = (false, x :: ds) := takeSign_of_not (by rcases hx with rfl | rfl <;> decide) ds
      rw [hsign] at hauto
      rcases hx with rfl | rfl <;> simp at hauto
    · exact absurd ((if_pos hx).symm.trans hauto) (by decide)
  · constructor
    · rw [strtolNumber, strtolBase, hwork, if_pos rfl, hauto, signedText_of_not_sixteen (by decide) hspace]
    · rw [documentedNumber, if_neg (by decide), hmarked]; exact if_neg (by decide)

theorem strtolNumber_eq (hbase : base = 0 ∨ base = 10 ∨ base = 16) (hspace : s.head?.any isspace = false)
    (hsigned : ¬ ((s.head? = some 0x2d ∨ s.head? = some 0x2b) ∧ strtolBase base s = 16))
    (hoctal : ¬ (base = 0 ∧ autoBase s = 8)) : strtolNumber base (workText s) = documentedNumber base s := by
  rcases marked_or_not s with ⟨x, ds, hx, hs, hmarked, hwork⟩ | ⟨hmarked, hwork, hnot⟩
  · rw [hwork, strtolNumber_marked hbase hx]
    rw [documentedNumber, hmarked]
    by_cases h10 : base = 10
    · rw [if_pos h10, if_pos h10]
      have hdigit : isDigit 10 x = false := by rcases hx with rfl | rfl <;> decide
      rcases hs with rfl | rfl
      · rw [takeSign_of_not (by rcases hx with rfl | rfl <;> decide), wholeNumber_of_head hdigit]
      · exact (wholeNumber_of_not fun h => by simp [takeSign, hdigit] at h).symm
    · rw [if_neg h10, if_neg h10]
  · have hten : wholeNumber 10 (signedText 10 s) = wholeNumber 10 (takeSign s) := by
      rw [signedText_of_not_sixteen (by decide) hspace]
    rw [hwork]
    rw [strtolNumber, documentedNumber, hmarked]
    rcases hbase with rfl | rfl | rfl
    · have hauto : strtolBase 0 s = autoBase s := rfl
      rw [hauto] at hsigned ⊢
      rw [if_neg (by decide), if_neg (by decide)]
      rcases autoBase_cases s with h | h | h
      · -- the mark of a base 16 that was not found in front stands behind a sign
        obtain ⟨x, ds, hx, htext⟩ := autoBase_eq_sixteen h
        rw [dropWhile_of_head hspace] at htext
        cases s with
        | nil => cases htext
        | cons c t =>
          by_cases hc : c = 0x2d ∨ c = 0x2b
          · exact absurd ⟨hc.imp (congrArg some) (congrArg some), h⟩ hsigned
          · rw [takeSign_of_not hc] at htext; exact absurd htext (hnot x ds hx)
      · exact absurd ⟨rfl, h⟩ hoctal
      · rw [h, hten]
    · exact hten
    · have hsixteen : strtolBase 16 s = 16 := rfl
      rw [hsixteen] at hsigned ⊢
      rw [if_neg (by decide), if_pos rfl]
      rw [signedText, dropWhile_of_head hspace]
      rw [if_pos rfl]
      have hsign : takeSign s = (false, s) := by
        cases s with
        | nil => rfl
        | cons c t => exact takeSign_of_not (fun hc => hsigned ⟨hc.imp (congrArg some) (congrArg some), rfl⟩) t
      have hdrop : dropHexPrefix s = s := by
        unfold dropHexPrefix
        split
        · rename_i x d ds; exact if_neg fun h => hnot x (d :: ds) h.1 rfl
        · rfl
      rw [hsign, hdrop]

/-! ## The conversions are right exactly where the text is not misconverted -/

/-- What a conversion does with the number that `strtol` finds: it stores one that is in its range, and another is neither
stored as it is nor rejected with the target unchanged. -/
structure Converts (low high : Int) (convert : Option Int → Int → Bool × Int) : Prop where
  noNumber : convert none = stored none
  fits : ∀ n, low ≤ n ∧ n ≤ high → convert (some n) = stored (some n)
  unfit : ∀ n, ¬ (low ≤ n ∧ n ≤ high) → convert (some n) ≠ stored none

theorem stored_some_ne (n : Int) : stored (some n) ≠ stored none := fun h => by
  have := congrArg Prod.fst (congrFun h 0)
  cases this

theorem stored_inj {a b : Option Int} (h : stored a = stored b) : a = b := by
  cases a with
  | none =>
    cases b with
    | none => rfl
    | some n => exact absurd h.symm (stored_some_ne n)
  | some m =>
    cases b with
    | none => exact absurd h (stored_some_ne m)
    | some n => exact congrArg some (congrArg Prod.snd (congrFun h 0))

theorem digitsVal_foldl_le {a b : Nat} (hab : a ≤ b) (digits : List Byte) : ∀ m n : Nat, m ≤ n →
    digits.foldl (fun n c => n * a + (digitVal c).getD 0) m ≤ digits.foldl (fun n c => n * b + (digitVal c).getD 0) n := by
  induction digits with
  | nil => exact fun m n h => h
  | cons c digits ih =>
    intro m n h; exact ih _ _ (Nat.add_le_add_right (Nat.mul_le_mul h hab) _)

theorem wholeNumber_octal {signed : Bool × List Byte} {v : Int} (h : wholeNumber 8 signed = some v) :
    ∃ w, wholeNumber 10 signed = some w ∧ (0 ≤ v ∧ v ≤ w ∨ w ≤ v ∧ v ≤ 0) := by
  have hdigits := wholeNumber_isSome.1 ⟨v, h⟩
  have hten : AreDigits 10 signed.2 := by
    refine ⟨hdigits.1, all_eq_true.2 fun c hc => ?_⟩
    have hc' := all_eq_true.1 hdigits.2 c hc
    unfold isDigit at hc' ⊢
    cases hval : digitVal c with
    | none => rw [hval] at hc'; cases hc'
    | some d =>
      rw [hval] at hc'
      have hd : d < 8 := by simpa using hc'
      simpa using (by omega : d < 10)
  have hle : digitsVal 8 signed.2 ≤ digitsVal 10 signed.2 := digitsVal_foldl_le (by decide) signed.2 0 0 (Nat.le_refl 0)
  refine ⟨_, if_pos hten, ?_⟩
  have hv := Option.some.inj ((if_pos hdigits).symm.trans h)
  by_cases hneg : signed.1 = true
  · rw [if_pos hneg] at hv ⊢; omega
  · rw [if_neg hneg] at hv ⊢; omega

section Right

variable {low high : Int} {convert : Option Int → Int → Bool × Int} {base : Nat} {s : List Byte}

section
variable (hconverts : Converts low high convert)
include hconverts

theorem Converts.rejects_iff (number : Option Int) : convert number = stored none ↔ number = none := by
  constructor
  · intro h
    cases number with
    | none => rfl
    | some n =>
      by_cases hn : low ≤ n ∧ n ≤ high
      · rw [hconverts.fits n hn] at h; exact absurd h (stored_some_ne n)
      · exact absurd h (hconverts.unfit n hn)
  · rintro rfl
    exact hconverts.noNumber

theorem Converts.number_iff (n : Int) :
    convert (some n) = stored ((some n).filter fun n => low ≤ n ∧ n ≤ high) ↔ low ≤ n ∧ n ≤ high := by
  by_cases hn : low ≤ n ∧ n ≤ high
  · rw [Option.filter_some, if_pos (decide_eq_true hn)]
    exact ⟨fun _ => hn, fun _ => hconverts.fits n hn⟩
  · rw [Option.filter_some, if_neg (by simpa using hn)]
    exact ⟨fun h => absurd h (hconverts.unfit n hn), fun h => absurd h hn⟩

theorem Converts.octal_iff (hlow : low ≤ 0) (hhigh : 0 ≤ high) (signed : Bool × List Byte) :
    convert (wholeNumber 8 signed) = stored ((wholeNumber 10 signed).filter fun n => low ≤ n ∧ n ≤ high) ↔
      wholeNumber 8 signed = (wholeNumber 10 signed).filter fun n => low ≤ n ∧ n ≤ high := by
  cases hdoc : (wholeNumber 10 signed).filter fun n => low ≤ n ∧ n ≤ high with
  | none => exact hconverts.rejects_iff _
  | some w =>
    obtain ⟨hten, hw⟩ := Option.filter_eq_some_iff.1 hdoc
    have hfits := of_decide_eq_true hw
    cases hnum : wholeNumber 8 signed with
    | none =>
      rw [hconverts.noNumber]; exact ⟨fun h => stored_inj h, fun h => congrArg stored h⟩
    | some v =>
      obtain ⟨w', hw', hbetween⟩ := wholeNumber_octal hnum
      rw [hten] at hw'
      obtain rfl := Option.some.inj hw'
      rw [hconverts.fits v (by omega)]; exact ⟨fun h => stored_inj h, fun h => congrArg stored h⟩

theorem Converts.right_iff (hlow : low ≤ 0) (hhigh : 0 ≤ high) (hbase : base = 0 ∨ base = 10 ∨ base = 16) :
    convert (strtolNumber base (workText s)) = stored ((documentedNumber base s).filter fun n => low ≤ n ∧ n ≤ high) ↔
      ¬ Misconverted low high base s := by
  -- where no number is meant, what is found must be no number either
  have hnone : ∀ hx : ¬ (s.head? = some 0x78 ∨ s.head? = some 0x58), documentedNumber base s = none →
      (convert (strtolNumber base (workText s)) =
          stored ((documentedNumber base s).filter fun n => low ≤ n ∧ n ≤ high) ↔
        ¬ AreDigits (strtolBase base s) (signedText (strtolBase base s) s).2) := by
    intro hx hdoc
    rw [hdoc, workText_of_not hx, ← wholeNumber_isSome]
    change convert (strtolNumber base s) = stored none ↔ ¬ ∃ n, strtolNumber base s = some n
    rw [hconverts.rejects_iff, ← Option.isSome_iff_exists, Option.not_isSome_iff_eq_none]
  have hx_of : ∀ {P : Byte → Prop}, (∀ h ∈ s.head?, P h) → ¬ P 0x78 → ¬ P 0x58 →
      ¬ (s.head? = some 0x78 ∨ s.head? = some 0x58) := by
    rintro P hP h78 h58 (h | h)
    · exact h78 (hP _ h)
    · exact h58 (hP _ h)
  cases hspace : s.head?.any isspace with
  | true =>
    have hhead : ∀ h ∈ s.head?, isspace h = true := by
      intro h hh
      rw [hh] at hspace; exact hspace
    have hdoc := documentedNumber_space hspace base
    rw [hnone (hx_of hhead (by decide) (by decide)) hdoc, not_iff_not]
    constructor
    · exact fun h => Misconverted.space hspace h
    · rintro (⟨_, h⟩ | ⟨h, -, -⟩ | ⟨h, -, -⟩ | ⟨-, n, hn, -⟩)
      · exact h
      · rcases h with h | h
        · exact absurd (hhead _ h) (by decide)
        · exact absurd (hhead _ h) (by decide)
      · rw [hspace] at h; cases h
      · rw [hdoc] at hn; cases hn
  | false =>
    by_cases hsigned : (s.head? = some 0x2d ∨ s.head? = some 0x2b) ∧ strtolBase base s = 16
    · have hdoc := documentedNumber_signedHex hsigned.1 hsigned.2
      have hhead : ∀ h ∈ s.head?, h = 0x2d ∨ h = 0x2b := by
        rintro h hh
        rw [hh] at hsigned
        exact hsigned.1.imp (fun h => Option.some.inj h) (fun h => Option.some.inj h)
      rw [hnone (hx_of hhead (by decide) (by decide)) hdoc, not_iff_not, hsigned.2]
      constructor
      · exact fun h => Misconverted.signedHex hsigned.1 hsigned.2 h
      · rintro (⟨h, -⟩ | ⟨_, _, h⟩ | ⟨_, h, -⟩ | ⟨-, n, hn, -⟩)
        · rw [hspace] at h; cases h
        · exact h
        · rw [strtolBase, if_pos h.1, h.2] at hsigned; exact absurd hsigned.2 (by decide)
        · rw [hdoc] at hn; cases hn
    · by_cases hoctal : base = 0 ∧ autoBase s = 8
      · obtain ⟨rfl, hauto⟩ := hoctal
        obtain ⟨hnum, hdoc⟩ := strtolNumber_octal hspace hauto
        rw [hnum, hdoc, hconverts.octal_iff hlow hhigh]
        constructor
        · rintro heq (⟨h, -⟩ | ⟨h, hb, -⟩ | ⟨-, -, h⟩ | ⟨h, -⟩)
          · rw [hspace] at h; cases h
          · exact hsigned ⟨h, hb⟩
          · exact h heq
          · exact h ⟨rfl, hauto⟩
        · intro h
          by_contra hne
          exact h (Misconverted.octal hspace ⟨rfl, hauto⟩ hne)
      · rw [strtolNumber_eq hbase hspace hsigned hoctal]
        have hmis : Misconverted low high base s ↔ ∃ n, documentedNumber base s = some n ∧ ¬ (low ≤ n ∧ n ≤ high) := by
          constructor
          · rintro (⟨h, -⟩ | ⟨h, hb, -⟩ | ⟨-, h, -⟩ | ⟨-, n, hn, hrange⟩)
            · rw [hspace] at h; cases h
            · exact absurd ⟨h, hb⟩ hsigned
            · exact absurd h hoctal
            · exact ⟨n, hn, hrange⟩
          · exact fun ⟨n, hn, hrange⟩ => Misconverted.range hoctal n hn hrange
        rw [hmis]
        cases hdoc : documentedNumber base s with
        | none => exact ⟨fun _ ⟨n, hn, _⟩ => absurd hn (by simp), fun _ => hconverts.noNumber⟩
        | some n =>
          rw [hconverts.number_iff]
          exact ⟨fun h ⟨m, hm, hrange⟩ => hrange (Option.some.inj hm ▸ h), fun h => not_not.1 fun hrange => h ⟨n, rfl, hrange⟩⟩

end

end Right

/-! ## `long` and `int` -/

def convertLong (number : Option Int) : Int → Bool × Int := stored (number.map fun n => max longMin (min longMax n))

def convertInt (number : Option Int) (pIval : Int) : Bool × Int :=
  match number.map fun n => max longMin (min longMax n) with
  | some n => (decide (int32 n = n), int32 n)
  | none => (false, pIval)

theorem convertLong_converts : Converts longMin longMax convertLong where
  noNumber := rfl
  fits := fun n hn => by
    rw [convertLong, Option.map_some, Int.min_eq_right hn.2, Int.max_eq_right hn.1]
  unfit := fun n _ => stored_some_ne _

theorem int32_of_int {n : Int} (hn : intMin ≤ n ∧ n ≤ intMax) : int32 n = n := by
  have hmin : intMin = -2147483648 := by decide
  have hmax : intMax = 2147483647 := by decide
  exact Int.bmod_eq_of_le (by omega) (by omega)

theorem convertInt_converts : Converts intMin intMax convertInt where
  noNumber := rfl
  fits := fun n hn => by
    have hlong : longMin ≤ n ∧ n ≤ longMax := ⟨Int.le_trans (by decide) hn.1, Int.le_trans hn.2 (by decide)⟩
    unfold convertInt
    rw [Option.map_some, Int.min_eq_right hlong.2, Int.max_eq_right hlong.1]
    dsimp only
    rw [int32_of_int hn, decide_eq_true rfl]; rfl
  unfit := fun n hn h => by
    -- the target holds an `int` then, and a target that holds another one tells
    have htarget : ∀ pIval, int32 (max longMin (min longMax n)) = pIval := fun pIval =>
      congrArg Prod.snd (congrFun h pIval)
    exact absurd ((htarget 0).symm.trans (htarget 1)) (by decide)

section
variable (hbase : base = 0 ∨ base = 10 ∨ base = 16) (s : List Byte)
include hbase

theorem strToIntInto_eq (pIval : Int) :
    strToIntInto (some s) pIval base = .ok (convertInt (strtolNumber base (workText s)) pIval) := by
  rw [strToIntInto, convertInt, strToLongInto_eq hbase, Exec.ok_bind]
  cases (strtolNumber base (workText s)).map fun n => max longMin (min longMax n) with
  | none | some n => rfl

theorem strToLongRight_iff : StrToLongRight s base ↔ ¬ Misconverted longMin longMax base s := by
  rw [← convertLong_converts.right_iff (by decide) (by decide) hbase]
  unfold StrToLongRight
  simp only [strToLongInto_eq hbase, Except.ok.injEq]; exact funext_iff.symm

theorem strToIntRight_iff : StrToIntRight s base ↔ ¬ Misconverted intMin intMax base s := by
  rw [← convertInt_converts.right_iff (by decide) (by decide) hbase]
  unfold StrToIntRight
  simp only [strToIntInto_eq hbase, Except.ok.injEq]; exact funext_iff.symm

end

/-- **The conversions do what is documented** exactly where the text is not misconverted for the type. -/
theorem strToNumberRight_iff {base : Nat} (hbase : base = 0 ∨ base = 10 ∨ base = 16) (s : List Byte) :
    (StrToLongRight s base ↔ ¬ Misconverted longMin longMax base s) ∧
      (StrToIntRight s base ↔ ¬ Misconverted intMin intMax base s) :=
  ⟨strToLongRight_iff hbase s, strToIntRight_iff hbase s⟩

theorem strToNumberRight_hex :
    (StrToLongRight (ascii "x1F") 0 ↔ ¬ Misconverted longMin longMax 0 (ascii "x1F")) ∧
      (StrToIntRight (ascii "x1F") 0 ↔ ¬ Misconverted intMin intMax 0 (ascii "x1F")) :=
  strToNumberRight_iff (.inl rfl) (ascii "x1F")

/-- In base 0 `010` is 8, not 10, and a decimal number that no `int` holds is cut to one and stored by a conversion that
fails. -/
theorem leadingZero_misconverted : ¬ StrToLongRight (ascii "010") 0 ∧ ¬ StrToIntRight (ascii "4294967297") 10 := by
  constructor
  · intro h; exact absurd (Except.ok.inj (h 0)) (by decide)
  · intro h; exact absurd (Except.ok.inj (h 0)) (by decide)

end Ddc
