import Ddcutil.CapabilitiesLex
import Ddcutil.DumploadReadErrors
/-!
# HexCodes — which texts are one byte hex codes

Feature codes, values and commands are all converted by `hhs_to_byte_in_buf`, behind the syntax of their place.  It
takes two hex digits, and also what `strtol` skips in front of one (`strayFirst`).
-/
namespace Ddc

open Kit List

/-! ## Two characters -/

def strayFirst : List Byte → Bool
  | [c, d] => (isspace c || c == 0x2b || c == 0x2d) && isDigit 16 d
  | _ => false

def unsignedText (s : List Byte) : List Byte := (takeSign (s.dropWhile isspace)).2

theorem dropHexPrefix_short : ∀ {t : List Byte}, t.length ≤ 2 → dropHexPrefix t = t
  | [], _ => rfl
  | [_], _ => by simp [dropHexPrefix]
  | [_, _], _ => by simp [dropHexPrefix]
  | _ :: _ :: _ :: _, h => by simp at h

variable (s : List Byte)

theorem length_unsignedText_le : (unsignedText s).length ≤ s.length := by
  have hskip := (dropWhile_suffix (p := isspace) (l := s)).length_le
  unfold unsignedText
  refine Nat.le_trans ?_ hskip
  cases s.dropWhile isspace with
  | nil => exact Nat.le_refl 0
  | cons c t =>
    rw [takeSign]
    split
    · exact Nat.le_succ t.length
    · split
      · exact Nat.le_succ t.length
      · exact Nat.le_refl _

theorem strtol_hex_rest :
    (strtol s 16).rest = if (dropHexPrefix (unsignedText s)).takeWhile (isDigit 16) =
      [] then s else (dropHexPrefix (unsignedText s)).dropWhile (isDigit 16) := by
  unfold strtol unsignedText
  simp only [if_true]
  split
  · rfl
  · rfl

theorem strtol_rest_eq_nil {s : List Byte} (h : s.length = 2) : (strtol s 16).rest = [] ↔
    unsignedText s ≠ [] ∧ ∀ c ∈ unsignedText s, isDigit 16 c = true := by
  have hshort : dropHexPrefix (unsignedText s) = unsignedText s :=
    dropHexPrefix_short (h ▸ length_unsignedText_le s)
  have hne : s ≠ [] := fun hs => absurd (hs ▸ h) (by decide)
  rw [strtol_hex_rest, hshort]
  split
  · rename_i hnone
    refine iff_of_false hne fun hall => ?_
    rw [takeWhile_eq_self_iff.2 hall.2] at hnone; exact hall.1 hnone
  · rename_i hsome
    rw [dropWhile_eq_nil_iff]
    refine ⟨fun hall => ⟨fun hnil => hsome ?_, hall⟩, fun hall => hall.2⟩
    rw [hnil, takeWhile_nil]

theorem hexCode_pair {c d : Byte} : hexCode [c, d] =
    if isDigit 16 c = true ∧ isDigit 16 d = true then some (UInt8.ofNat (digitsVal 16 [c, d])) else none := by
  unfold hexCode; simp

theorem digits_of_rest {c d : Byte} (h : (strtol [c, d] 16).rest = []) :
    (hexCode [c, d]).isSome = true ∨ strayFirst [c, d] = true := by
  obtain ⟨hne, hdigits⟩ := (strtol_rest_eq_nil rfl).1 h
  unfold unsignedText at hne hdigits
  have hlast : (takeSign ([d].dropWhile isspace)).2 ≠ [] →
      (∀ x ∈ (takeSign ([d].dropWhile isspace)).2, isDigit 16 x = true) → isDigit 16 d = true := by
    intro hne hdigits
    by_cases hspace : isspace d = true
    · rw [dropWhile_cons_of_pos hspace] at hne; exact absurd rfl hne
    · rw [dropWhile_cons_of_neg hspace, takeSign] at hne hdigits
      by_cases hminus : d = 0x2d
      · rw [if_pos hminus] at hne; exact absurd rfl hne
      · by_cases hplus : d = 0x2b
        · rw [if_neg hminus, if_pos hplus] at hne; exact absurd rfl hne
        · rw [if_neg hminus, if_neg hplus] at hdigits; exact hdigits d mem_cons_self
  by_cases hspace : isspace c = true
  · rw [dropWhile_cons_of_pos hspace] at hne hdigits
    have hd := hlast hne hdigits
    exact .inr (by simp [strayFirst, hspace, hd])
  · rw [dropWhile_cons_of_neg hspace, takeSign] at hne hdigits
    by_cases hminus : c = 0x2d
    · rw [if_pos hminus] at hdigits
      have hd := hdigits d mem_cons_self
      exact .inr (by simp [strayFirst, hminus, hd])
    · by_cases hplus : c = 0x2b
      · rw [if_neg hminus, if_pos hplus] at hdigits
        have hd := hdigits d mem_cons_self
        exact .inr (by simp [strayFirst, hplus, hd])
      · rw [if_neg hminus, if_neg hplus] at hdigits
        have hc := hdigits c mem_cons_self
        have hd := hdigits d (mem_cons_of_mem c mem_cons_self)
        exact .inl (by simp [hexCode_pair, hc, hd])

theorem hhsToByteInBuf_eq {s : List Byte} (h : strayFirst s = false) : hhsToByteInBuf s = hexCode s := by
  cases hcode : hexCode s with
  | some b => exact hhsToByteInBuf_of_hexCode hcode
  | none =>
    by_cases hlen : s.length = 2
    · obtain ⟨c, d, rfl⟩ := length_eq_two.1 hlen
      have hrest : (strtol [c, d] 16).rest ≠ [] := by
        intro hrest
        rcases digits_of_rest hrest with hsome | hstray
        · rw [hcode] at hsome; cases hsome
        · rw [hstray] at h; cases h
      exact if_pos (Or.inl hrest)
    · exact if_pos hlen

theorem strayFirst_pair {s : List Byte} (h : strayFirst s = true) : ∃ c d, s = [c, d] := by
  unfold strayFirst at h
  split at h
  · exact ⟨_, _, rfl⟩
  · cases h

theorem takeSign_stray {c d : Byte} (h : strayFirst [c, d] = true) :
    isDigit 16 d = true ∧ ∃ neg, takeSign ([c, d].dropWhile isspace) = (neg, [d]) := by
  simp only [strayFirst, Bool.and_eq_true, Bool.or_eq_true, beq_iff_eq] at h
  obtain ⟨hfirst, hd⟩ := h
  obtain ⟨n, hn⟩ := exists_digitVal hd
  refine ⟨hd, ?_⟩
  rcases hfirst with (hspace | rfl) | rfl
  · rw [dropWhile_cons_of_pos hspace, dropWhile_cons_of_neg (by simp [isspace_of_digitVal hn])]
    exact ⟨false, takeSign_of_digitVal hn []⟩
  · exact ⟨false, rfl⟩
  · exact ⟨true, rfl⟩

theorem hhsToByteInBuf_of_stray {s : List Byte} (h : strayFirst s = true) :
    ∃ v, hhsToByteInBuf s = some v ∧ (v < 0x10 ∨ 0xf0 < v) := by
  obtain ⟨c, d, rfl⟩ := strayFirst_pair h
  obtain ⟨hd, neg, hsign⟩ := takeSign_stray h
  obtain ⟨n, hlt, hn⟩ := digitVal_of_isDigit hd
  have hdigits : dropHexPrefix [d] = [d] := dropHexPrefix_short (Nat.le_succ 1)
  have hvalue : digitsVal 16 [d] = n := by simp [digitsVal, hn]
  have hrange : ¬ ((if neg = true then -(n : Int) else n) < longMin ∨
      longMax < if neg = true then -(n : Int) else n) := by
    unfold longMin longMax
    split <;> omega
  have hbytes : ∀ n : Nat, n < 16 → ∀ neg : Bool,
      let v := UInt8.ofInt (max longMin (min longMax (if neg = true then -(n : Int) else n)))
      v < 0x10 ∨ 0xf0 < v := by decide
  refine ⟨_, ?_, hbytes n hlt neg⟩
  unfold hhsToByteInBuf strtol
  simp [hsign, hdigits, hd, hvalue, hrange]

theorem hhcToByteInBuf_eq (c d : Byte) : hhcToByteInBuf c d = hhsToByteInBuf [c, d] := by
  unfold hhcToByteInBuf
  by_cases hc : c = 0
  · subst hc; rfl
  · by_cases hd : d = 0
    · subst hd
      have hcut : cstr [c, 0] = [c] := by simp [cstr, hc]
      have hstray : strayFirst [c, 0] = false := Bool.and_false _
      rw [hcut, hhsToByteInBuf_eq hstray, hexCode_pair, if_neg (fun h => absurd h.2 (by decide))]
      rfl
    · rw [cstr_eq (by simp [hc, hd])]

/-! ## The places of a code -/

def hhs4ToUint16 : List Byte → Bool × Nat
  | [c0, c1, c2, c3] =>
    match hhcToByteInBuf c0 c1, hhcToByteInBuf c2 c3 with
    | some hiByte, some loByte => (true, hiByte.toNat <<< 8 ||| loByte.toNat)
    | _, _ => (true, 0)
  | _ => (false, 0)

inductive CodePlace where
  | vcpSegment | valueList | cmdsSegment | dumpFile | commandLine
  deriving DecidableEq, Repr

def CodePlace.taken : CodePlace → List Byte → Option Byte
  | .vcpSegment, text => VcpItem.featureId ⟨text, .bare⟩
  | .valueList, text => tokenByte text
  | .cmdsSegment, text => tokenByte text
  | .dumpFile, text => hhsToByteInBuf text
  | .commandLine, text => anyOneByteHexStringToByteInBuf text

/-- **The texts that are to denote a byte**: two hex digits, one in a list, and those with a prefix or a suffix on the
command line. -/
inductive CodePlace.Denotes (v : Byte) : CodePlace → List Byte → Prop where
  | digits {place : CodePlace} {text : List Byte} : hexCode text = some v → Denotes v place text
  | value {c : Byte} : hexCode [0x30, c] = some v → Denotes v .valueList [c]
  | command {c : Byte} : hexCode [0x30, c] = some v → Denotes v .cmdsSegment [c]
  | zeroX {x : Byte} {text : List Byte} : x = 0x78 ∨ x = 0x58 → hexCode text = some v →
      Denotes v .commandLine (0x30 :: x :: text)
  | onlyX {x : Byte} {text : List Byte} : x = 0x78 ∨ x = 0x58 → hexCode text = some v →
      Denotes v .commandLine (x :: text)
  | suffixH {y : Byte} {text : List Byte} : y = 0x68 ∨ y = 0x48 → hexCode text = some v →
      Denotes v .commandLine (text ++ [y])

def bareCode (s : List Byte) : List Byte :=
  if strStartsWith (strdupUc s) (ascii "0X") then (strdupUc s).drop 2
  else if (strdupUc s).head? = some 0x58 then (strdupUc s).drop 1
  else if strEndsWith (strdupUc s) (ascii "H") then (strdupUc s).dropLast
  else strdupUc s

def CodePlace.converted : CodePlace → List Byte → List Byte
  | .commandLine, text => bareCode text
  | _, text => text

theorem anyOneByteHexString_eq : anyOneByteHexStringToByteInBuf s = hhsToByteInBuf (bareCode s) := by
  unfold anyOneByteHexStringToByteInBuf bareCode
  dsimp only
  split
  · rfl
  · split
    · rfl
    · split
      · rfl
      · rfl

theorem toupper_eq_zero {c : Byte} : toupper c = 0x30 → c = 0x30 :=
  forall_byte (P := fun c => toupper c = 0x30 → c = 0x30) (by decide +kernel) c

theorem toupper_eq_x {c : Byte} : toupper c = 0x58 → c = 0x78 ∨ c = 0x58 :=
  forall_byte (P := fun c => toupper c = 0x58 → c = 0x78 ∨ c = 0x58) (by decide +kernel) c

theorem toupper_eq_h {c : Byte} : toupper c = 0x48 → c = 0x68 ∨ c = 0x48 :=
  forall_byte (P := fun c => toupper c = 0x48 → c = 0x68 ∨ c = 0x48) (by decide +kernel) c

theorem digitVal_toupper (c : Byte) : digitVal (toupper c) = digitVal c :=
  forall_byte (P := fun c => digitVal (toupper c) = digitVal c) (by decide +kernel) c

theorem isDigit_toupper (c : Byte) : isDigit 16 (toupper c) = isDigit 16 c := by
  unfold isDigit
  rw [digitVal_toupper]

theorem hexCode_strdupUc : hexCode (strdupUc s) = hexCode s := by
  have hall : (strdupUc s).all (isDigit 16) = s.all (isDigit 16) := by
    rw [strdupUc, all_map]; exact congrArg s.all (funext isDigit_toupper)
  have hvalue : digitsVal 16 (strdupUc s) = digitsVal 16 s := by
    unfold digitsVal strdupUc
    rw [foldl_map]
    simp only [digitVal_toupper]
  unfold hexCode
  rw [hall, hvalue]
  simp [strdupUc]

theorem toupper_of_digit {c : Byte} (h : isDigit 16 c = true) : toupper c ≠ 0x58 ∧ toupper c ≠ 0x48 := by
  rw [← isDigit_toupper] at h
  refine ⟨fun hx => ?_, fun hh => ?_⟩
  · rw [hx] at h; exact absurd h (by decide)
  · rw [hh] at h; exact absurd h (by decide)

theorem hexCode_eq_some {s : List Byte} {v : Byte} (h : hexCode s = some v) :
    ∃ c d, s = [c, d] ∧ isDigit 16 c = true ∧ isDigit 16 d = true := by
  unfold hexCode at h
  split at h
  · rename_i hcode
    obtain ⟨c, d, rfl⟩ := length_eq_two.1 hcode.1
    have hdigits := all_eq_true.1 hcode.2
    exact ⟨c, d, rfl, hdigits c mem_cons_self, hdigits d (mem_cons_of_mem c mem_cons_self)⟩
  · cases h

theorem startsWith_zeroX {s : List Byte} (h : strStartsWith (strdupUc s) (ascii "0X") = true) :
    ∃ x t, s = 0x30 :: x :: t ∧ (x = 0x78 ∨ x = 0x58) := by
  have hmark : ascii "0X" = [0x30, 0x58] := by decide
  rw [hmark] at h
  match s, h with
  | [], h => cases h
  | [a], h => simp [strStartsWith, strdupUc] at h
  | a :: x :: t, h =>
    simp only [strStartsWith, strdupUc, map_cons, List.isPrefixOf, Bool.and_eq_true, beq_iff_eq] at h
    obtain rfl := toupper_eq_zero h.1.symm
    exact ⟨x, t, rfl, toupper_eq_x h.2.1.symm⟩

theorem endsWith_h {s : List Byte} (h : strEndsWith (strdupUc s) (ascii "H") = true) :
    ∃ t y, s = t ++ [y] ∧ (y = 0x68 ∨ y = 0x48) := by
  have hmark : ascii "H" = [0x48] := by decide
  rw [strEndsWith, hmark, isSuffixOf_iff_suffix] at h
  rcases eq_nil_or_concat s with rfl | ⟨t, y, rfl⟩
  · exact absurd h.length_le (by decide)
  · rw [strdupUc, concat_eq_append, map_append, map_singleton] at h
    obtain ⟨front, hfront⟩ := h
    obtain ⟨-, hlast⟩ := append_inj' hfront rfl
    refine ⟨t, y, concat_eq_append, toupper_eq_h ?_⟩
    exact (List.cons.inj hlast).1.symm

theorem denotes_of_bareCode {s : List Byte} {v : Byte} (h : hexCode (bareCode s) = some v) :
    CodePlace.Denotes v .commandLine s := by
  unfold bareCode at h
  split at h
  · rename_i hzero
    obtain ⟨x, t, rfl, hx⟩ := startsWith_zeroX hzero
    exact .zeroX hx ((hexCode_strdupUc t).symm.trans h)
  · split at h
    · rename_i hhead
      cases s with
      | nil => cases hhead
      | cons x t =>
        have hx := toupper_eq_x (Option.some.inj hhead)
        exact .onlyX hx ((hexCode_strdupUc t).symm.trans h)
    · split at h
      · rename_i hh
        obtain ⟨t, y, rfl, hy⟩ := endsWith_h hh
        have hlast : (strdupUc (t ++ [y])).dropLast = strdupUc t := by simp [strdupUc]
        rw [hlast] at h; exact .suffixH hy ((hexCode_strdupUc t).symm.trans h)
      · exact .digits ((hexCode_strdupUc s).symm.trans h)

theorem bareCode_of_denotes {s : List Byte} {v : Byte} (h : CodePlace.Denotes v .commandLine s) :
    hexCode (bareCode s) = some v := by
  have hzero : ascii "0X" = [0x30, 0x58] := by decide
  have hmark : ascii "H" = [0x48] := by decide
  generalize hplace : CodePlace.commandLine = place at h
  cases h with
  | digits h =>
    obtain ⟨c, d, rfl, hc, hd⟩ := hexCode_eq_some h
    have hbare : bareCode [c, d] = strdupUc [c, d] := by
      simp [bareCode, strStartsWith, strEndsWith, strdupUc, List.isSuffixOf, hzero, hmark, toupper_of_digit hc,
        (toupper_of_digit hd).1.symm, (toupper_of_digit hd).2.symm]
    rw [hbare, hexCode_strdupUc, h]
  | value | command => cases hplace
  | @zeroX x text hx h =>
    have hbare : bareCode (0x30 :: x :: text) = strdupUc text := by
      rcases hx with rfl | rfl
      · simp [bareCode, strStartsWith, strdupUc, hzero, toupper]
      · simp [bareCode, strStartsWith, strdupUc, hzero, toupper]
    rw [hbare, hexCode_strdupUc, h]
  | @onlyX x text hx h =>
    have hbare : bareCode (x :: text) = strdupUc text := by
      rcases hx with rfl | rfl
      · simp [bareCode, strStartsWith, strdupUc, hzero, toupper]
      · simp [bareCode, strStartsWith, strdupUc, hzero, toupper]
    rw [hbare, hexCode_strdupUc, h]
  | @suffixH y text hy h =>
    obtain ⟨c, d, rfl, hc, hd⟩ := hexCode_eq_some h
    have hy' : toupper y = 0x48 := by
      rcases hy with rfl | rfl
      · rfl
      · rfl
    have hbare : bareCode ([c, d] ++ [y]) = strdupUc [c, d] := by
      simp [bareCode, strStartsWith, strEndsWith, strdupUc, List.isSuffixOf, hzero, hmark, hy', toupper_of_digit hc,
        (toupper_of_digit hd).1.symm]
    rw [hbare, hexCode_strdupUc, h]

/-! ## What the callers do with them -/

theorem foldl_storeToken_eq (toks : List (List Byte)) : ∀ acc, toks.foldl storeToken acc =
    (acc.1 && toks.all fun tok => (tokenByte tok).isSome, acc.2 ++ toks.filterMap tokenByte) := by
  induction toks with
  | nil =>
    simp
  | cons tok toks ih =>
    intro acc
    rw [foldl_cons, ih, storeToken]
    cases htok : tokenByte tok with
    | none | some b => simp [htok]

theorem storeBytehexList_eq (buf : List Byte) : storeBytehexList buf =
    ((strtok (cstr buf)).all fun tok => (tokenByte tok).isSome, (strtok (cstr buf)).filterMap tokenByte) := by
  rw [storeBytehexList, foldl_storeToken_eq, Bool.true_and, nil_append]

theorem tokenByte_eq (tok : List Byte) (h : strayFirst tok = false) : tokenByte tok =
    match tok with
    | [c] => hexCode [0x30, c]
    | tok => hexCode tok := by
  match tok with
  | [] => rfl
  | [d] =>
    have hzero : strayFirst [0x30, d] = false := rfl
    rw [tokenByte, hhcToByteInBuf_eq, hhsToByteInBuf_eq hzero]
  | [c0, c1] => rw [tokenByte, hhcToByteInBuf_eq, hhsToByteInBuf_eq h]
  | _ :: _ :: _ :: _ => simp [tokenByte, hexCode]

theorem tokenByte_iff {tok : List Byte} (h : strayFirst tok = false) (v : Byte) :
    tokenByte tok = some v ↔ hexCode tok = some v ∨ ∃ d, tok = [d] ∧ hexCode [0x30, d] = some v := by
  rw [tokenByte_eq tok h]
  match tok with
  | [] => simp
  | [d] => simp [hexCode]
  | [c0, c1] => simp
  | _ :: _ :: _ :: _ => simp

theorem featureId_eq {code : List Byte} (h : strayFirst code = false) (values : ItemValues) :
    VcpItem.featureId ⟨code, values⟩ = hexCode code := by
  unfold VcpItem.featureId
  match code, h with
  | [], _ => rfl
  | [_], _ => simp [hexCode]
  | [c0, c1], h =>
    dsimp only
    rw [hhcToByteInBuf_eq, hhsToByteInBuf_eq h]
  | _ :: _ :: _ :: _, _ => simp [hexCode]

theorem fetch_of_span {mem text : List Byte} {st n : Nat} (h : Kit.span mem st n = .ok text) {i : Nat} {b : Byte}
    (hb : text[i]? = some b) : fetch mem (st + i) = .ok b := by
  unfold Kit.span at h
  split at h
  · cases h
    rw [getElem?_take, getElem?_drop] at hb
    split at hb
    · exact fetch_eq_ok.2 hb
    · cases hb
  · cases h

theorem featureCode_span {mem text : List Byte} {st : Nat} (h : span mem st text.length = .ok text) :
    featureCode mem st text.length = .ok (VcpItem.featureId ⟨text, .bare⟩) := by
  unfold featureCode VcpItem.featureId
  match text, h with
  | [], _ => rfl
  | [_], _ => rfl
  | [c0, c1], h =>
    have h0 : fetch mem st = .ok c0 := fetch_of_span (i := 0) h rfl
    have h1 : fetch mem (st + 1) = .ok c1 := fetch_of_span h rfl
    rw [h0, h1]; rfl
  | c0 :: c1 :: c2 :: text, _ =>
    rfl

theorem denotes_list_iff {place : CodePlace} (h : place = .valueList ∨ place = .cmdsSegment) {v : Byte}
    {text : List Byte} :
    place.Denotes v text ↔ hexCode text = some v ∨ ∃ d, text = [d] ∧ hexCode [0x30, d] = some v := by
  constructor
  · rintro (hcode | hcode | hcode | _ | _ | _)
    · exact .inl hcode
    · exact .inr ⟨_, rfl, hcode⟩
    · exact .inr ⟨_, rfl, hcode⟩
    all_goals rcases h with h | h <;> cases h
  · rintro (hcode | ⟨d, rfl, hcode⟩)
    · exact .digits hcode
    · rcases h with rfl | rfl
      · exact .value hcode
      · exact .command hcode

theorem denotes_digits_iff {place : CodePlace} (h : place = .vcpSegment ∨ place = .dumpFile) {v : Byte}
    {text : List Byte} : place.Denotes v text ↔ hexCode text = some v := by
  constructor
  · rintro (hcode | _ | _ | _ | _ | _)
    · exact hcode
    all_goals rcases h with h | h <;> cases h
  · exact .digits

theorem taken_iff {place : CodePlace} {text : List Byte} (h : strayFirst (place.converted text) = false) (v : Byte) :
    place.taken text = some v ↔ place.Denotes v text := by
  cases place with
  | vcpSegment =>
    change strayFirst text = false at h
    rw [CodePlace.taken, featureId_eq h, denotes_digits_iff (.inl rfl)]
  | valueList =>
    change strayFirst text = false at h
    rw [CodePlace.taken, tokenByte_iff h, denotes_list_iff (.inl rfl)]
  | cmdsSegment =>
    change strayFirst text = false at h
    rw [CodePlace.taken, tokenByte_iff h, denotes_list_iff (.inr rfl)]
  | dumpFile =>
    change strayFirst text = false at h
    rw [CodePlace.taken, hhsToByteInBuf_eq h, denotes_digits_iff (.inr rfl)]
  | commandLine =>
    change strayFirst (bareCode text) = false at h
    rw [CodePlace.taken, anyOneByteHexString_eq, hhsToByteInBuf_eq h]
    exact ⟨denotes_of_bareCode, bareCode_of_denotes⟩

theorem hhs4ToUint16_of_hexCode {a b : List Byte} {hi lo : Byte} (ha : hexCode a = some hi) (hb : hexCode b = some lo) :
    hhs4ToUint16 (a ++ b) = (true, hi.toNat * 256 + lo.toNat) := by
  obtain ⟨c0, c1, rfl, -, -⟩ := hexCode_eq_some ha
  obtain ⟨c2, c3, rfl, -, -⟩ := hexCode_eq_some hb
  have hvalue : hi.toNat <<< 8 ||| lo.toNat = hi.toNat * 256 + lo.toNat := by
    rw [← Nat.shiftLeft_add_eq_or_of_lt lo.toNat_lt, Nat.shiftLeft_eq]
  change (match hhcToByteInBuf c0 c1, hhcToByteInBuf c2 c3 with
    | some hiByte, some loByte => (true, hiByte.toNat <<< 8 ||| loByte.toNat)
    | _, _ => (true, 0)) = _
  rw [hhcToByteInBuf_eq, hhcToByteInBuf_eq, hhsToByteInBuf_of_hexCode ha, hhsToByteInBuf_of_hexCode hb, ← hvalue]

theorem hhs4ToUint16_of_length {s : List Byte} (h : s.length ≠ 4) : (hhs4ToUint16 s).1 = false := by
  unfold hhs4ToUint16
  split
  · exact absurd rfl h
  · rfl

/-- **One byte hex codes in every place**: a text is taken for one when it denotes a byte there, and as that byte; the
lists are those of their tokens.  A digit behind a sign or white space is left out, and so are four characters that are
not all digits. -/
theorem hexCodes_taken {place : CodePlace} {text : List Byte} (h : strayFirst (place.converted text) = false) :
    (∀ v, place.taken text = some v ↔ place.Denotes v text) ∧
      (∀ mem st, span mem st text.length = .ok text →
        featureCode mem st text.length = .ok (CodePlace.taken .vcpSegment text)) ∧
      (∀ featureId list, (parseCapabilitiesFeature featureId (some list)).1 =
        ⟨featureId, some ((strtok (cstr list)).filterMap (CodePlace.taken .valueList)), some list,
          (strtok (cstr list)).all fun tok => (CodePlace.taken .valueList tok).isSome⟩) ∧
      (∀ list, (parseCmdsSegment list).1 =
        if (strtok (cstr list)).all fun tok => (CodePlace.taken .cmdsSegment tok).isSome then
          some ((strtok (cstr list)).filterMap (CodePlace.taken .cmdsSegment))
        else none) ∧
      (text.length ≠ 4 → (hhs4ToUint16 text).1 = false) ∧
      ∀ a b hi lo, hexCode a = some hi → hexCode b = some lo →
        hhs4ToUint16 (a ++ b) = (true, hi.toNat * 256 + lo.toNat) := by
  refine ⟨taken_iff h, fun mem st => featureCode_span, fun featureId list => ?_, fun list => ?_,
    hhs4ToUint16_of_length, fun a b hi lo => hhs4ToUint16_of_hexCode⟩
  · rw [parseCapabilitiesFeature, storeBytehexList_eq]; rfl
  · rw [parseCmdsSegment, storeBytehexList_eq]
    split
    · rename_i hall; exact (if_pos hall).symm
    · rename_i hall; exact (if_neg hall).symm

/-- The codes of a command line, with prefix and suffix. -/
theorem hexCodes_taken_x10 : strayFirst (CodePlace.commandLine.converted (ascii "x1e")) = false ∧
    CodePlace.commandLine.taken (ascii "x1e") = some 0x1e := by
  have hstray : strayFirst (CodePlace.commandLine.converted (ascii "x1e")) = false := by decide +kernel
  have hcode : hexCode (ascii "1e") = some 0x1e := by decide +kernel
  exact ⟨hstray, ((hexCodes_taken hstray).1 0x1e).2 (.onlyX (.inl rfl) hcode)⟩

/-- In a list one digit is enough. -/
theorem oneDigit_taken : ¬ ((∃ v, CodePlace.valueList.taken (ascii "5") = some v) ↔
    ∃ v, hexCode (ascii "5") = some v) := by
  intro h
  obtain ⟨v, hv⟩ := h.1 ⟨5, by decide +kernel⟩
  cases hv

end Ddc
