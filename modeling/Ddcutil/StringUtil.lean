import Ddcutil.Kit.Lines
import Ddcutil.NumberText
import Mathlib.Data.List.DropRight
/-!
# StringUtil — trimming, splitting and converting text

What `string_util.c` and `file_util_base.c` do with the lines of a text file: white space is cut off their ends, a line
is split into pieces and a piece is converted to a number.  The functions on single characters are those of the C
locale.
-/
namespace Ddc

open Kit List Exec

def newline : Byte := 0x0a
def colon : Byte := 0x3a

def asText (s : List Byte) : String := String.ofList (s.map fun b => Char.ofNat b.toNat)

def strStartsWith (valueToTest start : List Byte) : Bool := start.isPrefixOf valueToTest

def strEndsWith (valueToTest ending : List Byte) : Bool := ending.isSuffixOf valueToTest

def toupper (c : Byte) : Byte := if 0x61 ≤ c ∧ c ≤ 0x7a then c - 0x20 else c

def tolower (c : Byte) : Byte := if 0x41 ≤ c ∧ c ≤ 0x5a then c + 0x20 else c

def strdupUc (s : List Byte) : List Byte := s.map toupper

def rtrimInPlace (s : List Byte) : List Byte := s.rdropWhile isspace

def strtrim (s : List Byte) : List Byte := (s.dropWhile isspace).rdropWhile isspace

/-- The lines that `file_getlines` finds in a file: each a C string without the white space at its end. -/
def fileGetlines (content : List Byte) : List (List Byte) := (lines newline content).map fun l => rtrimInPlace (cstr l)

inductive FileRead where
  | failed (errno : Nat) (h : 0 < errno)
  | read (content : List Byte)

/-- `strsplit`; every character of `delims` ends a piece, and empty pieces are dropped. -/
def strsplit (strToSplit delims : List Byte) : List (List Byte) :=
  (strToSplit.splitOnP delims.contains).filter (· ≠ [])

variable {s mem : List Byte} {c : Byte}

theorem mem_of_mem_rtrimInPlace (h : c ∈ rtrimInPlace s) : c ∈ s :=
  ( rdropWhile_prefix isspace s).subset h

theorem exists_of_trimmed (htrimmed : rtrimInPlace s = s) (hne : s ≠ []) : ∃ c ∈ s, isspace c = false := by
  refine ⟨s.getLast hne, getLast_mem hne, ?_⟩
  have := rdropWhile_eq_self_iff.1 htrimmed hne
  simpa using this

theorem mem_fileGetlines {content line : List Byte} (h : line ∈ fileGetlines content) :
    ∀ c ∈ line, c ≠ newline ∧ c ≠ 0 := by
  obtain ⟨l, hl, rfl⟩ := mem_map.1 h
  intro c hc
  have hcstr : c ∈ cstr l := List.IsPrefix.subset ( rdropWhile_prefix isspace _) hc
  refine ⟨fun heq => notMem_of_mem_lines hl (heq ▸ List.IsPrefix.subset ( takeWhile_prefix _) hcstr), ?_⟩
  have := mem_takeWhile_imp hcstr
  simpa using this

/-! ## Formats -/

def percent : Byte := 0x25

/-- **What a text makes when it is taken for a format** and there are no arguments: nothing is said of a directive that
asks for one. -/
def formatted : List Byte → Exec (List Byte)
  | [] => .ok []
  | [c] => if c = percent then .error .outOfBounds else .ok [c]
  | c :: d :: s =>
    if c = percent then if d = percent then (percent :: ·) <$> formatted s else .error .outOfBounds
    else (c :: ·) <$> formatted (d :: s)

def IsFormat (text : List Byte) : Prop := ∃ printed, formatted text = .ok printed

theorem formatted_cons (h : c ≠ percent) (s : List Byte) : formatted (c :: s) = (c :: ·) <$> formatted s := by
  cases s with
  | nil => simp only [formatted, if_neg h, ok_map]
  | cons d s => rw [formatted, if_neg h]

theorem formatted_append {a : List Byte} (h : percent ∉ a) (s : List Byte) :
    formatted (a ++ s) = (a ++ ·) <$> formatted s := by
  induction a with
  | nil => exact (id_map (formatted s)).symm
  | cons c a ih =>
    rw [cons_append, formatted_cons (fun hc => h (hc ▸ mem_cons_self)),
      ih (fun hmem => h (mem_cons_of_mem c hmem)), Functor.map_map]
    rfl

theorem isFormat_append {a : List Byte} (h : percent ∉ a) : IsFormat (a ++ s) ↔ IsFormat s := by
  unfold IsFormat
  rw [formatted_append h]
  cases formatted s with
  | error e | ok printed => simp

/-! ## Buffers -/

def malloc (size : Nat) : List Byte := List.replicate size 0xff

def calloc (size : Nat) : List Byte := List.replicate size 0

/-- **`snprintf`** of a text, at a position of memory where `room` bytes may be written. -/
def snprintf (mem : List Byte) (pos room : Nat) (text : List Byte) : Exec (List Byte) :=
  if room = 0 then .ok mem else blit mem pos (text.take (room - 1) ++ [0])

def readString (mem : List Byte) : Exec (List Byte) := if 0 ∈ mem then .ok (cstr mem) else .error .outOfBounds

def strlen (mem : List Byte) : Exec Nat := List.length <$> readString mem

theorem cstr_append {text : List Byte} (h : ∀ b ∈ text, b ≠ 0) (junk : List Byte) :
    cstr (text ++ 0 :: junk) = text := by
  rw [cstr, takeWhile_append_of_pos (fun b hb => bne_iff_ne.2 (h b hb)), takeWhile_cons_of_neg (by decide),
    append_nil]

theorem mem_zero_append (text junk : List Byte) : (0 : Byte) ∈ text ++ 0 :: junk :=
  mem_append_right text mem_cons_self

def substrCopy (s : List Byte) (startpos ct : Nat) : Exec (List Byte) := do
  let result ← blit (calloc (ct + 1)) 0 ((s.drop startpos).take ct)
  let result ← store result ct 0
  readString result

def substr (s : List Byte) (startpos ct : Nat) : Exec (List Byte) :=
  if s.length < startpos then .error .outOfBounds
  else substrCopy s startpos (if s.length < startpos + ct then s.length - startpos else ct)

def lsub (s : List Byte) (ct : Nat) : Exec (List Byte) := substr s 0 ct

theorem length_malloc (size : Nat) : (malloc size).length = size := length_replicate

theorem length_calloc (size : Nat) : (calloc size).length = size := length_replicate

theorem mem_overwrite {m src : List Byte} {i : Nat} {b : Byte} (h : b ∈ src) : b ∈ overwrite m i src :=
  mem_append_left _ (mem_append_right _ h)

theorem snprintf_eq_ok {pos room : Nat} (h : pos + room ≤ mem.length) (text : List Byte) :
    ∃ mem', snprintf mem pos room text = .ok mem' ∧ mem'.length = mem.length ∧ (0 < room → 0 ∈ mem') := by
  unfold snprintf
  by_cases hroom : room = 0
  · rw [if_pos hroom]; exact ⟨mem, rfl, rfl, fun hpos => absurd hroom (Nat.ne_of_gt hpos)⟩
  · have hlen : pos + (text.take (room - 1) ++ [0]).length ≤ mem.length := by
      rw [length_append, length_take, length_singleton]; omega
    rw [if_neg hroom, blit_of_le hlen]
    refine ⟨_, rfl, length_overwrite hlen, fun _ => ?_⟩
    exact mem_overwrite (mem_append_right _ mem_cons_self)

theorem snprintf_malloc {size : Nat} (h : 0 < size) (text : List Byte) :
    ∃ mem, snprintf (malloc size) 0 size text = .ok mem ∧ mem.length = size ∧ 0 ∈ mem := by
  have hroom : 0 + size ≤ (malloc size).length := by rw [length_malloc, Nat.zero_add]
  obtain ⟨mem, hmem, hlen, hnul⟩ := snprintf_eq_ok hroom text
  exact ⟨mem, hmem, hlen.trans (length_malloc size), hnul h⟩

theorem readString_of_mem (h : 0 ∈ mem) : readString mem = .ok (cstr mem) := if_pos h

theorem length_cstr_lt (h : 0 ∈ mem) : (cstr mem).length < mem.length := by
  induction mem with
  | nil => cases h
  | cons b mem ih =>
    by_cases hb : b = 0
    · rw [cstr, hb, takeWhile_cons_of_neg (by decide)]; exact Nat.succ_pos _
    · have hmem : 0 ∈ mem := (mem_cons.1 h).resolve_left (Ne.symm hb)
      have hcons : cstr (b :: mem) = b :: cstr mem := takeWhile_cons_of_pos (bne_iff_ne.2 hb)
      rw [hcons]; exact Nat.succ_lt_succ (ih hmem)

theorem strlen_of_mem (h : 0 ∈ mem) : strlen mem = .ok (cstr mem).length := by
  rw [strlen, readString_of_mem h, ok_map]

theorem substrCopy_eq_ok (s : List Byte) (startpos ct : Nat) : ∃ piece, substrCopy s startpos ct = .ok piece := by
  have hlen : 0 + ((s.drop startpos).take ct).length ≤ (calloc (ct + 1)).length := by
    rw [length_calloc, length_take]; omega
  have hstore : ct < (overwrite (calloc (ct + 1)) 0 ((s.drop startpos).take ct)).length := by
    rw [length_overwrite hlen, length_calloc]; exact Nat.lt_succ_self ct
  have hnul : (0 : Byte) ∈ (overwrite (calloc (ct + 1)) 0 ((s.drop startpos).take ct)).set ct 0 :=
    mem_iff_getElem.2 ⟨ct, by rwa [length_set], getElem_set_self _⟩
  rw [substrCopy, blit_of_le hlen, ok_bind, store_of_lt hstore, ok_bind, readString_of_mem hnul]; exact ⟨_, rfl⟩

theorem substr_eq_ok {startpos : Nat} (h : startpos ≤ s.length) (ct : Nat) :
    ∃ piece, substr s startpos ct = .ok piece := by
  rw [substr, if_neg (Nat.not_lt.2 h)]; exact substrCopy_eq_ok s startpos _

/-! ## Numbers -/

def intMin : Int := -0x80000000
def intMax : Int := 0x7fffffff

def isInt (n : Int) : Prop := intMin ≤ n ∧ n ≤ intMax

/-- `str_to_long`, in base 10 or 16: an `x` stands for `0x`, and a number out of range becomes the nearest `long`. -/
def strToLong (sval : List Byte) (base : Nat) : Option Int :=
  if sval = [] then none
  else
    let hex := sval.head? = some 0x78 ∨ sval.head? = some 0x58
    let work := if hex then 0x30 :: sval else sval
    if hex ∧ work.length ≤ 2 then none
    else
      let r := strtol work base
      if r.rest = [] then some r.value else none

def strToInt (sval : List Byte) (base : Nat) : Option Int :=
  (strToLong sval base).filter fun lval => intMin ≤ lval ∧ lval ≤ intMax

def autoBase (s : List Byte) : Nat :=
  match (takeSign (s.dropWhile isspace)).2 with
  | 0x30 :: x :: _ => if x = 0x78 ∨ x = 0x58 then 16 else 8
  | 0x30 :: _ => 8
  | _ => 10

def strToLong0 (sval : List Byte) : Option Int :=
  strToLong sval (autoBase (if sval.head? = some 0x78 ∨ sval.head? = some 0x58 then 0x30 :: sval else sval))

def strToInt0 (sval : List Byte) : Option Int :=
  (strToLong0 sval).filter fun lval => intMin ≤ lval ∧ lval ≤ intMax

def canonicalizePossibleHexValue (stringValue : List Byte) : List Byte :=
  if stringValue.head? = some 0x58 ∨ stringValue.head? = some 0x78 then ascii "0x" ++ stringValue.drop 1
  else if stringValue.getLast? = some 0x48 ∨ stringValue.getLast? = some 0x68 then ascii "0x" ++ stringValue.dropLast
  else if strStartsWith stringValue (ascii "0X") then ascii "0x" ++ stringValue.drop 2
  else stringValue

def anyOneByteHexStringToByteInBuf (s : List Byte) : Option Byte :=
  let suc := strdupUc s
  if strStartsWith suc (ascii "0X") then hhsToByteInBuf (suc.drop 2)
  else if suc.head? = some 0x58 then hhsToByteInBuf (suc.drop 1)
  else if strEndsWith suc (ascii "H") then hhsToByteInBuf suc.dropLast
  else hhsToByteInBuf suc

theorem strToLong_decimal {n : Int} (hlow : longMin ≤ n) (hmax : n ≤ longMax) : strToLong (decimal n) 10 = some n := by
  have hread := strtol_decimal [] rfl hlow hmax
  rw [append_nil] at hread
  have hhex : ¬ ((decimal n).head? = some 0x78 ∨ (decimal n).head? = some 0x58) := by
    have hne : ∀ x : Byte, x ∈ decimal n → digitVal x = some 33 → False := by
      intro x hx hval
      rcases mem_decimal hx with rfl | ⟨d, hd, hdigit⟩
      · exact absurd hval (by decide)
      · rw [hval] at hdigit
        cases hdigit; exact absurd hd (by decide)
    rintro (h | h)
    · exact hne _ (mem_of_mem_head? h) (by decide)
    · exact hne _ (mem_of_mem_head? h) (by decide)
  rw [strToLong, if_neg (decimal_ne_nil n)]
  dsimp only
  rw [if_neg hhex, if_neg (fun h => hhex h.1), hread]; rfl

theorem strToInt_decimal {n : Int} (hlow : intMin ≤ n) (hmax : n ≤ intMax) : strToInt (decimal n) 10 = some n := by
  have hlong := strToLong_decimal (n := n) (Int.le_trans (by decide) hlow) (Int.le_trans hmax (by decide))
  rw [strToInt, hlong]
  simp [hlow, hmax]

theorem anyOneByteHexStringToByteInBuf_hexByte (b : Byte) :
    anyOneByteHexStringToByteInBuf (hexByte false b) = some b := by
  have hdigits : ∀ a < 16, ∀ c < 16,
      anyOneByteHexStringToByteInBuf [hexDigit false a, hexDigit false c] = some (UInt8.ofNat (a * 16 + c)) := by
    decide
  have hlt : b.toNat < 256 := b.toNat_lt
  rw [hexByte, hdigits _ (by omega) _ (by omega), show b.toNat / 16 * 16 + b.toNat % 16 = b.toNat by omega]
  exact congrArg some UInt8.ofNat_toNat

theorem strsplit_blank (s : List Byte) : strsplit s [blank] = strtok s := by
  have hp : ([blank] : List Byte).contains = fun c => c == blank := by
    funext c
    by_cases hc : c = blank
    · simp [hc]
    · simp [hc]
  rw [strsplit, strtok, hp]

theorem rtrimInPlace_eq (hlast : s.getLast? = some c) (hc : isspace c = false) : rtrimInPlace s = s := by
  rw [rtrimInPlace, rdropWhile_eq_self_iff]
  intro hne
  rw [getLast?_eq_getLast_of_ne_nil hne] at hlast
  cases hlast
  simp [hc]

theorem fileGetlines_unlines {ls : List (List Byte)} (h : ∀ l ∈ ls, (∀ c ∈ l, c ≠ newline ∧ c ≠ 0) ∧ rtrimInPlace l = l) :
    fileGetlines (unlines newline ls) = ls := by
  rw [fileGetlines, lines_unlines fun l hl hmem => ((h l hl).1 newline hmem).1 rfl]
  refine (map_congr_left fun l hl => ?_).trans (map_id ls)
  rw [cstr_eq fun c hc => ((h l hl).1 c hc).2, (h l hl).2]; rfl

end Ddc
