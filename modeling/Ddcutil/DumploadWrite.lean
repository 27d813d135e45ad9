import Ddcutil.DumploadReadRuns
import Ddcutil.Edid
import Mathlib.Algebra.Group.Nat.Defs
/-!
# DumploadWrite — a dump is written

`dumpvcp_as_dumpload_data` collects the data of a display and `convert_dumpload_data_to_string_array` writes them, a
line for each field and each feature value.  The words that the reader finds in such lines are worked out here.
-/
namespace Ddc

open Kit List

/-! ## The lines -/

structure Tm where
  tmYear : Int
  tmMon : Int
  tmMday : Int
  tmHour : Int
  tmMin : Int
  tmSec : Int

def twoDigits (n : Int) : List Byte := padLeft 0x30 2 (decimal n)

def formatTimestamp (tm : Tm) : List Byte :=
  (padLeft blank 4 (decimal (tm.tmYear + 1900)) ++ (twoDigits (tm.tmMon + 1) ++ twoDigits tm.tmMday ++ [hyphen] ++
    twoDigits tm.tmHour ++ twoDigits tm.tmMin ++ twoDigits tm.tmSec)).take 29

/-- `VALREC_CUR_VAL`, whatever the type of the value: the third and the fourth byte of the union.  For a table value
these are bytes of the pointer `bytes`. -/
def valrecCurVal (bytes : Nat) (valrec : AnyVcpValue) : Nat :=
  match valrec.val with
  | .cNc _ _ sh sl => sh.toNat * 256 + sl.toNat
  | .t _ => bytes / 0x10000 % 256 * 256 + bytes / 0x1000000 % 256

def vcpLine (opcode : Byte) (curVal : Nat) : List Byte :=
  ascii "VCP " ++ (hexByte true opcode ++ blank :: padLeft blank 5 (decimal curVal))

/-- The codes and the numbers of the `VCP` lines; `bytesAt` tells where the bytes of each table value are. -/
def printedValues (bytesAt : Nat → Nat) (vcpValues : List AnyVcpValue) : List (Byte × Nat) :=
  vcpValues.mapIdx fun ndx vrec => (vrec.opcode, valrecCurVal (bytesAt ndx) vrec)

def versionLines (vcpVersion : VersionSpec) : List (List Byte) :=
  if vcpVersion = vspecUnknown then []
  else [ascii "VCP_VERSION " ++ (decimal vcpVersion.major.toNat ++ 0x2e :: decimal vcpVersion.minor.toNat)]

def convertDumploadDataToStringArray (localtime : Int → Tm) (bytesAt : Nat → Nat) (data : DumploadData) :
    List (List Byte) :=
  [ascii "TIMESTAMP_TEXT " ++ formatTimestamp (localtime data.timestampMillis), ascii "MFG_ID  " ++ data.mfgId,
      ascii "MODEL   " ++ data.model, ascii "PRODUCT_CODE  " ++ decimal data.productCode,
      ascii "SN      " ++ data.serialAscii, ascii "EDID    " ++ hexstring2 data.edidbytes] ++
    (versionLines data.vcpVersion ++ (printedValues bytesAt data.vcpValues).map fun p => vcpLine p.1 p.2)

/-- **`dumpvcp_as_dumpload_data`**, of a display with this EDID, this version and these values. -/
def dumpvcpAsDumploadData (edid : ParsedEdid) (vcpVersion : VersionSpec) (vset : List AnyVcpValue) (now : Int) :
    DumploadData where
  timestampMillis := now
  edidbytes := edid.bytes.bytes
  edidstr := hexstring2 edid.bytes.bytes
  mfgId := edid.mfgId
  model := edid.modelName
  serialAscii := edid.serialAscii
  productCode := edid.productCode
  vcpVersion := vcpVersion
  vcpValueCt := vset.length
  vcpValues := vset

/-! ## Words -/

theorem scanWord_skip (width : Nat) {front : List Byte} (hfront : ∀ c ∈ front, isspace c = true) (s : List Byte) :
    scanWord width (front ++ s) = scanWord width s := by
  unfold scanWord
  rw [dropWhile_append_of_pos hfront]

theorem scanWord_word {width : Nat} {word rest : List Byte} (hne : word ≠ []) (hlen : word.length ≤ width)
    (hword : ∀ c ∈ word, isspace c = false) (hrest : ∀ c ∈ rest.head?, isspace c = true) :
    scanWord width (word ++ rest) = some (word, rest) := by
  have hskip : (word ++ rest).dropWhile isspace = word ++ rest := by
    obtain ⟨c, w, rfl⟩ := exists_cons_of_ne_nil hne
    exact dropWhile_cons_of_neg (by simp [hword c mem_cons_self])
  have htake : (word ++ rest).takeWhile (fun c => !isspace c) = word := by
    cases rest with
    | nil =>
      rw [append_nil, takeWhile_eq_self_iff]; exact fun c hc => by simp [hword c hc]
    | cons c rest => exact takeWhile_stop (fun x hx => by simp [hword x hx]) (by simp [hrest c rfl])
  unfold scanWord
  dsimp only
  rw [hskip, htake, take_of_length_le hlen, if_neg hne, drop_left]

theorem scanWords_word {width : Nat} (widths : List Nat) {word : List Byte} (hne : word ≠ []) (hlen : word.length ≤ width)
    (hword : ∀ c ∈ word, isspace c = false) : scanWords (width :: widths) word = [word] := by
  have hscan : scanWord width (word ++ []) = some (word, []) := scanWord_word hne hlen hword fun c hc => by cases hc
  rw [append_nil] at hscan
  rw [scanWords, hscan]
  dsimp only
  cases widths with
  | nil => rfl
  | cons width' widths =>
    have hnone : scanWord width' [] = none := by simp [scanWord]
    rw [scanWords, hnone]

theorem scanWords_ne_nil {width : Nat} (widths : List Nat) (hwidth : 0 < width) {s : List Byte} {c : Byte} (hc : c ∈ s)
    (hspace : isspace c = false) : scanWords (width :: widths) s ≠ [] := by
  cases hskip : s.dropWhile isspace with
  | nil =>
    have := dropWhile_eq_nil_iff.1 hskip c hc
    rw [hspace] at this; cases this
  | cons d t =>
    have hd : isspace d = false := head_of_dropWhile hskip
    have hword : ((d :: t).takeWhile fun c => !isspace c).take width ≠ [] := by
      rw [takeWhile_cons_of_pos (by simp [hd])]
      obtain ⟨n, rfl⟩ := Nat.exists_eq_succ_of_ne_zero (Nat.ne_of_gt hwidth)
      exact cons_ne_nil _ _
    rw [scanWords, scanWord, hskip, if_neg hword]; exact cons_ne_nil _ _

theorem lineWords_keyword {text : List Byte} (key front : List Byte)
    (h : text = key ++ front ∧ (key ≠ [] ∧ key.length ≤ 31 ∧ key.all (fun c => !isspace c) = true) ∧
      front ≠ [] ∧ front.all isspace = true) (s : List Byte) :
    lineWords (text ++ s) = key :: scanWords [256, 15] s := by
  obtain ⟨rfl, ⟨hkey, hlen, hplain⟩, hfront, hblanks⟩ := h
  have hplain : ∀ c ∈ key, isspace c = false := fun c hc => by simpa using all_eq_true.1 hplain c hc
  have hblanks := all_eq_true.1 hblanks
  have hhead : lineHead (key ++ (front ++ s)) = key ++ (front ++ s) := by
    obtain ⟨c, key', rfl⟩ := exists_cons_of_ne_nil hkey
    refine dropWhile_cons_of_neg fun hblank => ?_
    have hc := hplain c mem_cons_self
    rw [beq_iff_eq.1 hblank] at hc; exact absurd hc (by decide)
  have hword : scanWord 31 (key ++ (front ++ s)) = some (key, front ++ s) := by
    refine scanWord_word hkey hlen hplain fun c hc => ?_
    obtain ⟨b, front', rfl⟩ := exists_cons_of_ne_nil hfront
    obtain rfl : b = c := Option.some.inj hc
    exact hblanks b mem_cons_self
  have hskip : scanWords [256, 15] (front ++ s) = scanWords [256, 15] s := by
    rw [scanWords, scanWord_skip 256 hblanks, scanWords]
  rw [append_assoc, lineWords, hhead, scanWords, hword]; exact congrArg (key :: ·) hskip

section Forms

variable {line s0 s1 : List Byte} {words : List (List Byte)} (tableFeatures : TableFeatures) (data : DumploadData)
  (linectr : Nat)

theorem readLine_field (hwords : lineWords line = s0 :: s1 :: words) (hcomment : isComment s0 = false) :
    readLine tableFeatures data linectr line =
      readKeyword tableFeatures data linectr (trimEnd line) s0 s1 words.head? (lineRest line s0) := by
  rw [readLine, hwords]
  dsimp only
  rw [hcomment, if_neg (by decide)]

end Forms

/-! ## What the reader makes of each line -/

section Lines

variable (tableFeatures : TableFeatures) (data : DumploadData) (linectr : Nat)

theorem number16_decimal {n : Nat} (h : n < 0x10000) : number16 (decimal n) = some n := by
  have hmax : (n : Int) ≤ longMax := by
    have : longMax = 9223372036854775807 := by decide
    omega
  have hlow : longMin ≤ (n : Int) := Int.le_trans (by decide) (Int.natCast_nonneg n)
  have hread := strtol_decimal [] rfl hlow hmax
  rw [append_nil] at hread
  rw [number16, hread]
  dsimp only
  rw [if_pos ⟨decimal_ne_nil _, rfl, by omega, by omega⟩, Int.toNat_natCast]

theorem length_decimalDigits_le {n k : Nat} (h : n < 10 ^ (k + 1)) : (decimalDigits n).length ≤ k + 1 := by
  induction k generalizing n with
  | zero =>
    rw [decimalDigits_of_lt (by simpa using h)]; exact Nat.le_refl 1
  | succ k ih =>
    rcases Nat.lt_or_ge n 10 with hlt | hge
    · rw [decimalDigits_of_lt hlt]; exact Nat.succ_pos _
    · rw [decimalDigits_of_le hge, length_append, length_singleton]
      have hdiv : n / 10 < 10 ^ (k + 1) := by
        rw [Nat.div_lt_iff_lt_mul (by decide)]
        rwa [Nat.pow_succ] at h
      exact Nat.succ_le_succ (ih hdiv)

theorem decimal_natCast (n : Nat) : decimal (n : Int) = decimalDigits n := by
  rw [decimal, if_neg (by omega), Int.natAbs_natCast]

theorem digit_of_mem_decimal {n : Nat} {c : Byte} (h : c ∈ decimal (n : Int)) : isDigit 10 c = true := by
  obtain ⟨d, hd, hval⟩ := digitVal_of_mem_decimalDigits h
  simp [isDigit, hval, hd]

theorem isspace_of_mem_decimal {n : Int} {c : Byte} (h : c ∈ decimal n) : isspace c = false := by
  rcases mem_decimal h with rfl | ⟨d, -, hval⟩
  · decide
  · exact isspace_of_digitVal hval

theorem exists_of_mem_timestamp (tm : Tm) : ∃ c ∈ formatTimestamp tm, isspace c = false := by
  obtain ⟨d, ds, hyear⟩ := exists_cons_of_ne_nil (decimal_ne_nil (tm.tmYear + 1900))
  refine ⟨d, ?_, isspace_of_mem_decimal (hyear ▸ mem_cons_self)⟩
  rw [formatTimestamp, padLeft, hyear, append_assoc, cons_append, take_append, length_replicate, length_cons]
  apply mem_append_right
  have hpos : 29 - (4 - (ds.length + 1)) = (28 - (4 - (ds.length + 1))) + 1 := by omega
  rw [hpos, take_succ_cons]; exact mem_cons_self

theorem readLine_timestamp (tm : Tm) :
    readLine tableFeatures data linectr (ascii "TIMESTAMP_TEXT " ++ formatTimestamp tm) = .skip := by
  obtain ⟨c, hc, hspace⟩ := exists_of_mem_timestamp tm
  have hne : scanWords [256, 15] (formatTimestamp tm) ≠ [] := scanWords_ne_nil [15] (by decide) hc hspace
  obtain ⟨s1, words, hwords⟩ := exists_cons_of_ne_nil hne
  have hline : lineWords (ascii "TIMESTAMP_TEXT " ++ formatTimestamp tm) = ascii "TIMESTAMP_TEXT" :: s1 :: words := by
    rw [lineWords_keyword (ascii "TIMESTAMP_TEXT") [blank] (by decide), hwords]
  rw [readLine_field tableFeatures data linectr hline rfl]; rfl

theorem readLine_mfgId {mfgId : List Byte} (hlen : mfgId.length = 3) (hspace : ∀ c ∈ mfgId, isspace c = false) :
    readLine tableFeatures data linectr (ascii "MFG_ID  " ++ mfgId) = .store { data with mfgId := mfgId } := by
  have hne : mfgId ≠ [] := by
    rintro rfl
    cases hlen
  have hwords : lineWords (ascii "MFG_ID  " ++ mfgId) = [ascii "MFG_ID", mfgId] := by
    rw [lineWords_keyword (ascii "MFG_ID") [blank, blank] (by decide), scanWords_word [15] hne (by omega) hspace]
  rw [readLine_field tableFeatures data linectr hwords rfl]
  change LineEffect.store { data with mfgId := mfgId.take 3 } = _
  rw [take_of_length_le (Nat.le_of_eq hlen)]

theorem readLine_productCode {n : Nat} (h : n < 0x10000) :
    readLine tableFeatures data linectr (ascii "PRODUCT_CODE  " ++ decimal n) = .store { data with productCode := n } := by
  have hlen : (decimal (n : Int)).length ≤ 256 := by
    have h5 : n < 10 ^ (4 + 1) := by omega
    exact Nat.le_trans (length_decimalDigits_le h5) (by decide)
  have hwords : lineWords (ascii "PRODUCT_CODE  " ++ decimal n) = [ascii "PRODUCT_CODE", decimal n] := by
    rw [lineWords_keyword (ascii "PRODUCT_CODE") [blank, blank] (by decide),
      scanWords_word [15] (decimal_ne_nil _) hlen fun c hc => isspace_of_mem_decimal hc]
  rw [readLine_field tableFeatures data linectr hwords rfl, readKeyword_productCode, number16_decimal h]
  rfl

theorem isspace_of_mem_hexByte {b c : Byte} (h : c ∈ hexByte true b) : isspace c = false := by
  obtain ⟨n, hn⟩ := mem_hexByte h
  exact isspace_of_digitVal hn

theorem readLine_edid {bytes : List Byte} (h : bytes.length = 128) :
    readLine tableFeatures data linectr (ascii "EDID    " ++ hexstring2 bytes) =
      .store { data with edidstr := hexstring2 bytes } := by
  have hlen : (hexstring2 bytes).length = 256 := by rw [length_hexstring2, h]
  have hne : hexstring2 bytes ≠ [] := by
    intro hnil
    rw [hnil] at hlen; cases hlen
  have hspace : ∀ c ∈ hexstring2 bytes, isspace c = false := by
    intro c hc
    obtain ⟨b, -, hc⟩ := mem_flatMap.1 hc
    exact isspace_of_mem_hexByte hc
  have hwords : lineWords (ascii "EDID    " ++ hexstring2 bytes) = [ascii "EDID", hexstring2 bytes] := by
    rw [lineWords_keyword (ascii "EDID") [blank, blank, blank, blank] (by decide),
      scanWords_word [15] hne (Nat.le_of_eq hlen) hspace]
  rw [readLine_field tableFeatures data linectr hwords rfl]
  change LineEffect.store { data with edidstr := (hexstring2 bytes).take 256 } = _
  rw [take_of_length_le (Nat.le_of_eq hlen)]

theorem trimEnd_dropWhile {s : List Byte} (htrimmed : rtrimInPlace s = s) :
    trimEnd (s.dropWhile (· == blank)) = s.dropWhile (· == blank) := by
  rw [trimEnd, rdropWhile_eq_self_iff]
  intro hne hlast
  obtain ⟨front, hfront⟩ := dropWhile_suffix (l := s) (· == blank)
  have hs : s ≠ [] := by
    rintro rfl
    exact hne rfl
  have hsame : s.getLast hs = (s.dropWhile (· == blank)).getLast hne := by
    have := getLast?_append_of_ne_nil front hne
    rw [hfront, getLast?_eq_getLast_of_ne_nil hs, getLast?_eq_getLast_of_ne_nil hne] at this
    exact Option.some.inj this
  have hspace := rdropWhile_eq_self_iff.1 htrimmed hs
  rw [hsame] at hspace
  apply hspace
  rcases Bool.or_eq_true_iff.1 hlast with h | h
  · rw [beq_iff_eq.1 h]; decide
  · rw [beq_iff_eq.1 h]; decide

theorem strlcpy_text {s : List Byte} (h : DescriptorText s) :
    strlcpy (trimEnd (s.dropWhile (· == blank))) 14 = s.dropWhile (· == blank) := by
  rw [trimEnd_dropWhile h.trimmed]
  exact take_of_length_le (Nat.le_trans (dropWhile_suffix _).length_le h.length_le)

theorem readLine_model {model : List Byte} (htext : DescriptorText model) (hne : model ≠ []) :
    readLine tableFeatures data linectr (ascii "MODEL   " ++ model) =
      .store { data with model := model.dropWhile (· == blank) } := by
  obtain ⟨c, hc, hspace⟩ := exists_of_trimmed htext.trimmed hne
  have hwordsne : scanWords [256, 15] model ≠ [] := scanWords_ne_nil [15] (by decide) hc hspace
  obtain ⟨s1, words, hwords⟩ := exists_cons_of_ne_nil hwordsne
  have hline : lineWords (ascii "MODEL   " ++ model) = ascii "MODEL" :: s1 :: words := by
    rw [lineWords_keyword (ascii "MODEL") [blank, blank, blank] (by decide), hwords]
  rw [readLine_field tableFeatures data linectr hline rfl, ← strlcpy_text htext]; rfl

theorem readLine_serialAscii {serialAscii : List Byte} (htext : DescriptorText serialAscii) (hne : serialAscii ≠ []) :
    readLine tableFeatures data linectr (ascii "SN      " ++ serialAscii) =
      .store { data with serialAscii := serialAscii.dropWhile (· == blank) } := by
  obtain ⟨c, hc, hspace⟩ := exists_of_trimmed htext.trimmed hne
  have hwordsne : scanWords [256, 15] serialAscii ≠ [] := scanWords_ne_nil [15] (by decide) hc hspace
  obtain ⟨s1, words, hwords⟩ := exists_cons_of_ne_nil hwordsne
  have hline : lineWords (ascii "SN      " ++ serialAscii) = ascii "SN" :: s1 :: words := by
    rw [lineWords_keyword (ascii "SN") [blank, blank, blank, blank, blank, blank] (by decide), hwords]
  rw [readLine_field tableFeatures data linectr hline rfl, ← strlcpy_text htext]; rfl

theorem readLine_model_empty :
    readLine tableFeatures data linectr (ascii "MODEL   " ++ []) =
      dataError "Invalid data" linectr (ascii "MODEL   ") data := rfl

theorem readLine_serialAscii_empty :
    readLine tableFeatures data linectr (ascii "SN      " ++ []) =
      dataError "Invalid data" linectr (ascii "SN      ") data := rfl

theorem parseVspec_decimal (v : VersionSpec) :
    parseVspec (decimal v.major.toNat ++ 0x2e :: decimal v.minor.toNat) =
      if v.major > 3 ∨ v.minor > 2 then vspecUnknown else v := by
  have hdigits : ∀ b : Byte, decimal b.toNat ≠ [] ∧ ∀ c ∈ decimal b.toNat, isDigit 10 c = true := fun b =>
    ⟨decimal_ne_nil _, fun c hc => digit_of_mem_decimal hc⟩
  have hval : ∀ b : Byte, digitsVal 10 (decimal b.toNat) = b.toNat := fun b => by
    rw [decimal_natCast, digitsVal_decimalDigits]
  have hle : ∀ b : Byte, digitsVal 10 (decimal b.toNat) ≤ 255 := fun b => by
    rw [hval]; exact Nat.le_of_lt_succ b.toNat_lt
  have hscan := scanVspec_digits (hdigits v.major) (hdigits v.minor) (hle v.major) (hle v.minor)
  rw [hval, hval, UInt8.ofNat_toNat, UInt8.ofNat_toNat] at hscan
  rw [parseVspec, hscan]

theorem readLine_version (v : VersionSpec) :
    let after := { data with vcpVersion := if v.major > 3 ∨ v.minor > 2 then vspecUnknown else v }
    let line := ascii "VCP_VERSION " ++ (decimal v.major.toNat ++ 0x2e :: decimal v.minor.toNat)
    readLine tableFeatures data linectr line =
      if after.vcpVersion = vspecUnknown then dataError "Invalid VCP VERSION" linectr (trimEnd line) after
      else .store after := by
  intro after line
  have hword : ∀ c ∈ decimal v.major.toNat ++ 0x2e :: decimal v.minor.toNat, isspace c = false := by
    intro c hc
    rcases mem_append.1 hc with hc | hc
    · exact isspace_of_mem_decimal hc
    · rcases mem_cons.1 hc with rfl | hc
      · decide
      · exact isspace_of_mem_decimal hc
  have hlen : (decimal v.major.toNat ++ 0x2e :: decimal v.minor.toNat).length ≤ 256 := by
    have hmajor : v.major.toNat < 10 ^ (2 + 1) := Nat.lt_trans v.major.toNat_lt (by decide)
    have hminor : v.minor.toNat < 10 ^ (2 + 1) := Nat.lt_trans v.minor.toNat_lt (by decide)
    have h1 := length_decimalDigits_le hmajor
    have h2 := length_decimalDigits_le hminor
    rw [decimal_natCast, decimal_natCast, length_append, length_cons]; omega
  have hne : decimal v.major.toNat ++ 0x2e :: decimal v.minor.toNat ≠ [] :=
    append_ne_nil_of_left_ne_nil (decimal_ne_nil _) _
  have hwords : lineWords line = [ascii "VCP_VERSION", decimal v.major.toNat ++ 0x2e :: decimal v.minor.toNat] := by
    rw [lineWords_keyword (ascii "VCP_VERSION") [blank] (by decide), scanWords_word [15] hne hlen hword]
  rw [readLine_field tableFeatures data linectr hwords rfl, readKeyword_version, parseVspec_decimal]

theorem readLine_vcp {curVal : Nat} (h : curVal < 0x10000) (opcode : Byte) :
    readLine tableFeatures data linectr (vcpLine opcode curVal) =
      readVcpLine tableFeatures data linectr (trimEnd (vcpLine opcode curVal)) (hexByte true opcode)
        (some (decimal curVal)) := by
  have hlen : (decimal (curVal : Int)).length ≤ 15 := by
    have h5 : curVal < 10 ^ (4 + 1) := by omega
    exact Nat.le_trans (length_decimalDigits_le h5) (by decide)
  have hvalue : scanWords [15] (blank :: padLeft blank 5 (decimal curVal)) = [decimal (curVal : Int)] := by
    have hpad : ∀ c ∈ blank :: List.replicate (5 - (decimal (curVal : Int)).length) blank, isspace c = true := by
      intro c hc
      rcases mem_cons.1 hc with rfl | hc
      · rfl
      · rw [eq_of_mem_replicate hc]; rfl
    have hskip : scanWord 15 (blank :: padLeft blank 5 (decimal (curVal : Int))) = scanWord 15 (decimal (curVal : Int)) :=
      scanWord_skip 15 hpad _
    have hword := scanWords_word [] (decimal_ne_nil (curVal : Int)) hlen fun c hc => isspace_of_mem_decimal hc
    rw [scanWords, hskip]; exact hword
  have hcode : scanWord 256 (hexByte true opcode ++ blank :: padLeft blank 5 (decimal curVal)) =
      some (hexByte true opcode, blank :: padLeft blank 5 (decimal curVal)) :=
    scanWord_word (cons_ne_nil _ _) (show 2 ≤ 256 by decide) (fun c hc => isspace_of_mem_hexByte hc) fun c hc => by
      cases hc; rfl
  have hwords : lineWords (vcpLine opcode curVal) = [ascii "VCP", hexByte true opcode, decimal curVal] := by
    rw [vcpLine, lineWords_keyword (ascii "VCP") [blank] (by decide), scanWords, hcode]
    exact congrArg (fun words => ascii "VCP" :: hexByte true opcode :: words) hvalue
  rw [readLine_field tableFeatures data linectr hwords rfl]; exact readKeyword_vcp _ _ _ _ _ _ _

end Lines

end Ddc
