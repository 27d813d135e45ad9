import Ddcutil.BusOpen
import Ddcutil.CapabilitiesCache
import Ddcutil.StrToLong
import Mathlib.Tactic.Linarith
/-!
# HexText — bytes written as hex digits in a buffer, and read back

`hexstring` and `hexstring2` compute the size of their buffer in `int` arithmetic and write the code of each byte and
the separator at computed places; `hhs_to_byte_array` writes a byte for each two digits into an array of half the
length of its text.
-/
namespace Ddc.HexText

open Kit List Exec

def hexstringLoop (allocSize : Nat) : List Byte → Nat → List Byte → Exec (List Byte)
  | [], _, strBuf => .ok strBuf
  | b :: bytes, i, strBuf => do
    let strBuf ← snprintf strBuf (3 * i) (allocSize - 3 * i) (hexByte false b ++ [blank])
    hexstringLoop allocSize bytes (i + 1) strBuf

def hexstring (bytes : List Byte) : Exec (List Byte) := do
  let len ← intResult bytes.length
  let size ← intResult (3 * len)
  let allocSize ← intResult (size + 1)
  let strBuf ← hexstringLoop allocSize.toNat bytes 0 (malloc allocSize.toNat)
  if 3 * len - 1 < 0 then .error .outOfBounds else store strBuf (3 * len - 1).toNat 0

/-! ## `hexstring2` -/

/-- `malloc` of a `size_t`; no object is larger than `PTRDIFF_MAX`, and what is then written is written through `NULL`. -/
def mallocSize (size : Int) : Exec (List Byte) :=
  if longMax < size then .error .nullDeref else .ok (malloc size.toNat)

def writeAt (mem : List Byte) (pos : Int) (text : List Byte) : Exec (List Byte) :=
  if pos < 0 then .error .outOfBounds else blit mem pos.toNat (text ++ [0])

def strcat (mem text : List Byte) : Exec (List Byte) := do
  let n ← strlen mem
  writeAt mem n text

def separated (sepstr : Option CString) (len : Int) (i : Nat) (buffer : List Byte) : Exec (List Byte) :=
  match sepstr with
  | some sep => if (i : Int) < len - 1 then strcat buffer sep.val else .ok buffer
  | none => .ok buffer

def hexstring2Loop (sepstr : Option CString) (uppercase : Bool) (len incr1 : Int) :
    List Byte → Nat → List Byte → Exec (List Byte)
  | [], _, buffer => .ok buffer
  | b :: bytes, i, buffer => do
    let pos ← intResult (i * incr1)
    let buffer ← writeAt buffer pos (hexByte uppercase b)
    let buffer ← separated sepstr len i buffer
    hexstring2Loop sepstr uppercase len incr1 bytes (i + 1) buffer

def sepsize (sepstr : Option CString) : Int :=
  match sepstr with
  | some sep => int32 sep.val.length
  | none => 0

def bufferFor (given : List Byte) (requiredSize : Int) : Exec (List Byte) :=
  if given.length = 0 then mallocSize requiredSize else .ok given

def emptied (len : Int) (buffer : List Byte) : Exec (List Byte) := if len = 0 then store buffer 0 0 else .ok buffer

/-- **`hexstring2`**; the memory of a buffer that is passed is of the size that is passed with it. -/
def hexstring2 (bytes : List Byte) (sepstr : Option CString) (uppercase : Bool) (buffer : Option (List Byte)) :
    Exec (List Byte) := do
  let len ← intResult bytes.length
  let hexSize ← intResult (2 * len)
  let sepSize ← intResult ((len - 1) * sepsize sepstr)
  let sum ← intResult (hexSize + sepSize)
  let size ← intResult (sum + 1)
  let requiredSize := if len = 0 then 1 else toUint64 size
  let given := buffer.getD []
  check (given.length = 0 ∨ requiredSize ≤ given.length)
  let buffer ← bufferFor given requiredSize
  let incr1 ← intResult (2 + sepsize sepstr)
  let buffer ← emptied len buffer
  let buffer ← hexstring2Loop sepstr uppercase len incr1 bytes 0 buffer
  let n ← strlen buffer
  check ((n : Int) = requiredSize - 1)
  .ok buffer

def xlatePos (ch : Byte) : Option Nat := (ascii "0123456789ABCDEF").idxOf? (toupper ch)

/-- The loop of `hhs_to_byte_array`, from the text `h` and the place `b` of the array on. -/
def hhsLoop : List Byte → Nat → List Byte → Exec (Bool × List Byte)
  | ch0 :: ch1 :: h, b, ba =>
    match xlatePos ch0, xlatePos ch1 with
    | some pos0, some pos1 => do
      let ba ← store ba b (UInt8.ofNat (pos0 * 16 + pos1))
      hhsLoop h (b + 1) ba
    | _, _ => .ok (false, ba)
  | _, _, ba => .ok (true, ba)

/-- **`hhs_to_byte_array`**: the length and the array, or none for -1.  Nothing may be written to an array whose size is
negative. -/
def hhsToByteArray (hhs : List Byte) : Exec (Option (Int × List Byte)) :=
  if hhs.length % 2 ≠ 0 then .ok none
  else do
    let bytect := int32 (hhs.length / 2 : Nat)
    let (ok, ba) ← hhsLoop hhs 0 (malloc bytect.toNat)
    if ok then .ok (some (bytect, ba)) else .ok none

/-! ## What is promised -/

def sepText (sepstr : Option CString) : List Byte := (sepstr.map Subtype.val).getD []

def HexstringRight (bytes : List Byte) : Prop :=
  ∃ buf, hexstring bytes = .ok buf ∧ readString buf = .ok (joinWith [blank] (bytes.map (hexByte false)))

def Hexstring2Right (bytes : List Byte) (sepstr : Option CString) (uppercase : Bool) : Prop :=
  ∀ buffer : Option (List Byte),
    ((buffer.getD []).length = 0 ∨
      (joinWith (sepText sepstr) (bytes.map (hexByte uppercase))).length < (buffer.getD []).length) →
    ∃ buf, hexstring2 bytes sepstr uppercase buffer = .ok buf ∧
      readString buf = .ok (joinWith (sepText sepstr) (bytes.map (hexByte uppercase)))

def RoundTrips (bytes : List Byte) (uppercase : Bool) : Prop :=
  ∃ buf text ba, hexstring2 bytes none uppercase none = .ok buf ∧ readString buf = .ok text ∧
    hhsToByteArray text = .ok (some (bytes.length, ba)) ∧ ba = bytes

def EvenHexDigits (hhs : List Byte) : Prop := hhs.length % 2 = 0 ∧ hhs.all (isDigit 16) = true

def RejectsRight (hhs : List Byte) : Prop := ¬ EvenHexDigits hhs → hhsToByteArray hhs = .ok none

/-- **The sizes that `hexstring2` computes are values of an `int`**, and the length of a separator that is used is one. -/
structure SizesFit (len : Nat) (sepstr : Option CString) : Prop where
  hexSize : isInt (2 * len)
  sepSize : isInt ((len - 1) * sepsize sepstr)
  sum : isInt (2 * len + (len - 1) * sepsize sepstr)
  size : isInt (2 * len + (len - 1) * sepsize sepstr + 1)
  incr : isInt (2 + sepsize sepstr)
  whole : 2 ≤ len → sepsize sepstr = (sepText sepstr).length

def hexPairs : List Byte → Nat
  | ch0 :: ch1 :: h => if isDigit 16 ch0 = true ∧ isDigit 16 ch1 = true then hexPairs h + 1 else 0
  | _ => 0

/-! ## Strings in memory -/

theorem blit_append {done src junk : List Byte} (h : src.length ≤ junk.length) :
    blit (done ++ junk) done.length src = .ok (done ++ (src ++ junk.drop src.length)) := by
  have hlen : done.length + src.length ≤ (done ++ junk).length := by rw [length_append]; omega
  rw [blit_of_le hlen, overwrite, take_left, drop_append, append_assoc]
  have hdrop : done.drop (done.length + src.length) = [] := drop_eq_nil_iff.2 (Nat.le_add_right _ _)
  rw [hdrop, nil_append, Nat.add_sub_cancel_left]

theorem writeAt_append {done junk text : List Byte} {pos : Int} (hpos : pos = done.length)
    (h : text.length < junk.length) :
    ∃ junk', junk'.length + text.length + 1 = junk.length ∧
      writeAt (done ++ junk) pos text = .ok (done ++ text ++ 0 :: junk') := by
  refine ⟨junk.drop (text.length + 1), ?_, ?_⟩
  · rw [length_drop]; omega
  · have hlen : (text ++ [(0 : Byte)]).length ≤ junk.length := by
      rw [length_append, length_singleton]; exact h
    rw [writeAt, if_neg (by omega), hpos, Int.toNat_natCast, blit_append hlen, length_append, length_singleton]
    simp

theorem readString_append {text : List Byte} (h : ∀ c ∈ text, c ≠ 0) (junk : List Byte) :
    readString (text ++ 0 :: junk) = .ok text := by
  rw [readString_of_mem (mem_zero_append text junk), cstr_append h junk]

theorem strlen_append {text : List Byte} (h : ∀ c ∈ text, c ≠ 0) (junk : List Byte) :
    strlen (text ++ 0 :: junk) = .ok text.length := by
  rw [strlen, readString_append h]; rfl

theorem hexByte_ne_zero {uppercase : Bool} {b : Byte} : ∀ c ∈ hexByte uppercase b, c ≠ 0 := by
  intro c hc
  obtain ⟨n, hn⟩ := mem_hexByte hc
  exact ne_of_digitVal hn (by decide)

theorem length_hexByte (uppercase : Bool) (b : Byte) : (hexByte uppercase b).length = 2 := rfl

variable (sep : List Byte)

theorem joinWith_append_sep {ws : List (List Byte)} (h : ws ≠ []) :
    joinWith sep ws ++ sep = ws.flatMap fun w => w ++ sep := by
  have htail : ∀ ws : List (List Byte), (ws.flatMap fun w => sep ++ w) ++ sep = sep ++ ws.flatMap fun w => w ++ sep := by
    intro ws
    induction ws with
    | nil => exact (append_nil sep).symm
    | cons w ws ih => rw [flatMap_cons, flatMap_cons, append_assoc, ih, append_assoc, append_assoc]
  cases ws with
  | nil => exact absurd rfl h
  | cons w ws => rw [joinWith, append_assoc, htail, flatMap_cons, append_assoc]

theorem joinWith_cons_cons (sep w w' : List Byte) (ws : List (List Byte)) :
    joinWith sep (w :: w' :: ws) = w ++ sep ++ joinWith sep (w' :: ws) := by
  simp only [joinWith, flatMap_cons, append_assoc]

def codes (sep : List Byte) (uppercase : Bool) (bytes : List Byte) : List Byte :=
  joinWith sep (bytes.map (hexByte uppercase))

theorem codes_cons_cons (uppercase : Bool) (b b' : Byte) (bytes : List Byte) :
    codes sep uppercase (b :: b' :: bytes) = hexByte uppercase b ++ sep ++ codes sep uppercase (b' :: bytes) :=
  joinWith_cons_cons sep _ _ _

theorem codes_ne_zero {sep : List Byte} (hsep : ∀ c ∈ sep, c ≠ 0) (uppercase : Bool) (bytes : List Byte) :
    ∀ c ∈ codes sep uppercase bytes, c ≠ 0 := by
  intro c hc
  cases bytes with
  | nil => cases hc
  | cons b bytes =>
    rcases mem_append.1 hc with hc | hc
    · exact hexByte_ne_zero c hc
    · obtain ⟨w, hw, hc⟩ := mem_flatMap.1 hc
      obtain ⟨b', -, rfl⟩ := mem_map.1 hw
      rcases mem_append.1 hc with hc | hc
      · exact hsep c hc
      · exact hexByte_ne_zero c hc

theorem length_codes_cons (uppercase : Bool) (b : Byte) (bytes : List Byte) :
    (codes sep uppercase (b :: bytes)).length = 2 + bytes.length * (2 + sep.length) := by
  have htail : ∀ bytes : List Byte,
      ((bytes.map (hexByte uppercase)).flatMap fun w => sep ++ w).length = bytes.length * (2 + sep.length) := by
    intro bytes
    induction bytes with
    | nil => exact (Nat.zero_mul _).symm
    | cons b bytes ih =>
      rw [map_cons, flatMap_cons, length_append, ih, length_append, length_hexByte, length_cons,
        Nat.succ_mul]
      omega
  rw [codes, map_cons, joinWith, length_append, htail, length_hexByte]

/-! ## `hexstring` is right for some bytes that are not too many -/

theorem hexstringLoop_eq {allocSize : Nat} : ∀ {bytes : List Byte} {i : Nat} {done junk : List Byte},
    done.length = 3 * i → junk.length = 3 * bytes.length + 1 → allocSize = done.length + junk.length →
    ∃ c, hexstringLoop allocSize bytes i (done ++ junk) =
      .ok (done ++ (bytes.map (hexByte false)).flatMap (fun w => w ++ [blank]) ++ [c]) := by
  intro bytes
  induction bytes with
  | nil =>
    intro i done junk hdone hjunk hsize
    obtain ⟨c, rfl⟩ := length_eq_one_iff.1 hjunk
    refine ⟨c, ?_⟩
    rw [map_nil, flatMap_nil, append_nil]; rfl
  | cons b bytes ih =>
    intro i done junk hdone hjunk hsize
    rw [length_cons] at hjunk
    have hroom : allocSize - 3 * i = junk.length := by omega
    have htext : (hexByte false b ++ [blank]).take (junk.length - 1) = hexByte false b ++ [blank] := by
      refine take_of_length_le ?_
      rw [length_append, length_hexByte, length_singleton]; omega
    have hsrc : (hexByte false b ++ [blank] ++ [(0 : Byte)]).length = 4 := rfl
    have hwrite : snprintf (done ++ junk) (3 * i) (allocSize - 3 * i) (hexByte false b ++ [blank]) =
        .ok (done ++ (hexByte false b ++ [blank]) ++ 0 :: junk.drop 4) := by
      rw [snprintf, hroom, if_neg (by omega), htext, ← hdone, blit_append (by omega), hsrc]; simp
    rw [hexstringLoop, hwrite, ok_bind]
    have hdone' : (done ++ (hexByte false b ++ [blank])).length = 3 * (i + 1) := by
      rw [length_append, hdone]; rfl
    have hjunk' : (0 :: junk.drop 4).length = 3 * bytes.length + 1 := by
      rw [length_cons, length_drop]; omega
    obtain ⟨c, hc⟩ := ih hdone' hjunk' (by omega)
    refine ⟨c, ?_⟩
    rw [hc, map_cons, flatMap_cons]
    simp only [append_assoc]

theorem hexstringRight_of {bytes : List Byte} (hne : bytes ≠ []) (hfits : isInt (3 * bytes.length + 1)) :
    HexstringRight bytes := by
  have hpos : 0 < bytes.length := length_pos_iff.2 hne
  have hmin : intMin ≤ (bytes.length : Int) := Int.le_trans (by decide) (Int.natCast_nonneg _)
  have hmin3 : intMin ≤ (3 * bytes.length : Int) := Int.le_trans hmin (by omega)
  have hmax := hfits.2
  unfold HexstringRight hexstring
  rw [intResult_pos ⟨hmin, by omega⟩, ok_bind, intResult_pos ⟨hmin3, by omega⟩, ok_bind, intResult_pos hfits,
    ok_bind]
  have hsize : (3 * (bytes.length : Int) + 1).toNat = 3 * bytes.length + 1 := by omega
  have hplace : (3 * (bytes.length : Int) - 1).toNat = 3 * bytes.length - 1 := by omega
  rw [hsize]
  obtain ⟨c, hloop⟩ := @hexstringLoop_eq (3 * bytes.length + 1) bytes 0 [] (malloc (3 * bytes.length + 1)) rfl
    (length_malloc _) (by rw [length_malloc]; exact (Nat.zero_add _).symm)
  have hcodes := length_codes_cons [blank] false
  have hwords : bytes.map (hexByte false) ≠ [] := fun h => hne (map_eq_nil_iff.1 h)
  rw [nil_append, nil_append, ← joinWith_append_sep [blank] hwords] at hloop
  rw [hloop, ok_bind, if_neg (by omega), hplace]
  have hlength : (codes [blank] false bytes).length = 3 * bytes.length - 1 := by
    obtain ⟨b, bytes', rfl⟩ := exists_cons_of_ne_nil hne
    rw [hcodes, length_singleton, length_cons]; omega
  have hsep : ∀ c ∈ [blank], c ≠ 0 := forall_mem_singleton.2 (by decide)
  refine ⟨codes [blank] false bytes ++ 0 :: [c], ?_, readString_append (codes_ne_zero hsep false bytes) [c]⟩
  rw [← hlength]
  rw [codes, append_assoc, store_of_lt (by simp)]; simp

theorem hexstringRight_iff (bytes : List Byte) :
    HexstringRight bytes ↔ bytes ≠ [] ∧ isInt (3 * bytes.length + 1) := by
  refine ⟨?_, fun h => hexstringRight_of h.1 h.2⟩
  rintro ⟨buf, hbuf, -⟩
  obtain ⟨len, hlen, hbuf⟩ := bind_eq_ok.1 hbuf
  obtain ⟨size, hsize, hbuf⟩ := bind_eq_ok.1 hbuf
  obtain ⟨allocSize, hallocSize, hbuf⟩ := bind_eq_ok.1 hbuf
  obtain ⟨-, rfl⟩ := intResult_eq_ok.1 hlen
  obtain ⟨-, rfl⟩ := intResult_eq_ok.1 hsize
  refine ⟨?_, (intResult_eq_ok.1 hallocSize).1⟩
  rintro rfl
  cases hbuf

/-! ## `hexstring2` is right where its sizes fit -/

section Join

variable {sepstr : Option CString} {uppercase : Bool}

theorem sepText_ne_zero (sepstr : Option CString) : ∀ c ∈ sepText sepstr, c ≠ 0 := by
  cases sepstr with
  | none => exact fun c hc => absurd hc not_mem_nil
  | some sep => exact sep.property

theorem separate {len : Int} {i : Nat} (hi : (i : Int) < len - 1) {text junk : List Byte} (htext : ∀ c ∈ text, c ≠ 0)
    (hroom : (sepText sepstr).length ≤ junk.length) :
    ∃ junk', junk'.length + (sepText sepstr).length = junk.length ∧
      separated sepstr len i (text ++ 0 :: junk) = .ok (text ++ sepText sepstr ++ 0 :: junk') := by
  unfold separated
  cases sepstr with
  | none => exact ⟨junk, rfl, by rw [sepText, Option.map_none, Option.getD_none, append_nil]⟩
  | some sep =>
    have hlt : sep.val.length < (0 :: junk).length := Nat.lt_succ_of_le hroom
    obtain ⟨junk', hjunk', hwrite⟩ := @writeAt_append text (0 :: junk) sep.val _ rfl hlt
    refine ⟨junk', ?_, ?_⟩
    · exact Nat.succ.inj hjunk'
    · dsimp only
      rw [if_pos hi, strcat, strlen_append htext, ok_bind]; exact hwrite

theorem hexstring2Loop_eq {len : Nat} {incr1 : Int} (hincr : 2 ≤ len → incr1 = 2 + (sepText sepstr).length)
    (hplaces : ∀ j < len, isInt (j * incr1)) : ∀ {bytes : List Byte} {i : Nat} {done junk : List Byte}, bytes ≠ [] →
      i + bytes.length = len → (done.length : Int) = i * incr1 → (∀ c ∈ done, c ≠ 0) →
      (codes (sepText sepstr) uppercase bytes).length < junk.length →
      ∃ junk', hexstring2Loop sepstr uppercase len incr1 bytes i (done ++ junk) =
        .ok (done ++ codes (sepText sepstr) uppercase bytes ++ 0 :: junk') := by
  intro bytes
  induction bytes with
  | nil => exact fun h => absurd rfl h
  | cons b rest ih =>
    intro i done junk _ hi hdone hnz hroom
    rw [length_codes_cons] at hroom
    rw [length_cons] at hi
    rw [hexstring2Loop, intResult_pos (hplaces i (by omega)), ok_bind]
    obtain ⟨junk₁, hjunk₁, hwrite⟩ := @writeAt_append done junk (hexByte uppercase b) _ hdone.symm
      (by rw [length_hexByte]; omega)
    rw [length_hexByte] at hjunk₁
    rw [hwrite, ok_bind]
    cases rest with
    | nil =>
      refine ⟨junk₁, ?_⟩
      have hlast : ¬ (i : Int) < len - 1 := by rw [length_nil] at hi; omega
      have hsep : ∀ buffer, separated sepstr len i buffer = .ok buffer := by
        intro buffer
        cases sepstr with
        | none => rfl
        | some sep => exact if_neg hlast
      rw [hsep, ok_bind]; rfl
    | cons b' rest =>
      rw [length_cons] at hi hroom
      rw [Nat.succ_mul] at hroom
      have htext : ∀ c ∈ done ++ hexByte uppercase b, c ≠ 0 := by
        intro c hc
        rcases mem_append.1 hc with hc | hc
        · exact hnz c hc
        · exact hexByte_ne_zero c hc
      obtain ⟨junk₂, hjunk₂, hsep⟩ := @separate sepstr len i (by omega) _ junk₁ htext (by omega)
      rw [hsep, ok_bind]
      have hdone' : ((done ++ hexByte uppercase b ++ sepText sepstr).length : Int) = (i + 1 : Nat) * incr1 := by
        rw [length_append, length_append, length_hexByte, Nat.cast_add, Nat.cast_add, hdone, Nat.cast_add,
          Int.add_mul, hincr (by omega)]
        omega
      have hnz' : ∀ c ∈ done ++ hexByte uppercase b ++ sepText sepstr, c ≠ 0 := by
        intro c hc
        rcases mem_append.1 hc with hc | hc
        · exact htext c hc
        · exact sepText_ne_zero sepstr c hc
      have hroom' : (codes (sepText sepstr) uppercase (b' :: rest)).length < (0 :: junk₂).length := by
        rw [length_codes_cons, length_cons]; omega
      obtain ⟨junk', hloop⟩ := ih (cons_ne_nil _ _) (by rw [length_cons]; omega) hdone' hnz' hroom'
      refine ⟨junk', ?_⟩
      rw [hloop, codes_cons_cons]
      simp only [append_assoc]

theorem size_eq {bytes : List Byte} (h : SizesFit bytes.length sepstr) (hne : bytes ≠ []) :
    2 * (bytes.length : Int) + (bytes.length - 1) * sepsize sepstr + 1 =
      (codes (sepText sepstr) uppercase bytes).length + 1 := by
  obtain ⟨b, rest, rfl⟩ := exists_cons_of_ne_nil hne
  rw [length_codes_cons]
  have hwhole := h.whole
  rw [length_cons] at hwhole ⊢
  by_cases hrest : rest.length = 0
  · rw [hrest]; simp
  · rw [hwhole (by omega)]
    push_cast
    linarith [Int.mul_add (rest.length : Int) 2 (sepText sepstr).length]

theorem toUint64_of_int {n : Int} (hlow : 0 ≤ n) (h : isInt n) : toUint64 n = n := by
  have hmax : intMax = 2147483647 := by decide
  have := h.2
  exact Int.emod_eq_of_lt hlow (by omega)

theorem hexstring2Right_of {bytes : List Byte} (h : SizesFit bytes.length sepstr) :
    Hexstring2Right bytes sepstr uppercase := by
  intro buffer hbuffer
  change _ ∨ (codes (sepText sepstr) uppercase bytes).length < _ at hbuffer
  have hmax : intMax = 2147483647 := by decide
  have hmin : intMin = -2147483648 := by decide
  have hlmax : longMax = 9223372036854775807 := by decide
  have hlen : isInt bytes.length := by
    have := h.hexSize.2
    exact ⟨by omega, by omega⟩
  rw [hexstring2, intResult_pos hlen, ok_bind, intResult_pos h.hexSize, ok_bind, intResult_pos h.sepSize, ok_bind,
    intResult_pos h.sum, ok_bind, intResult_pos h.size, ok_bind]
  dsimp only
  have hrequired : (if (bytes.length : Int) = 0 then (1 : Int)
      else toUint64 (2 * bytes.length + (bytes.length - 1) * sepsize sepstr + 1)) =
        (codes (sepText sepstr) uppercase bytes).length + 1 := by
    by_cases hnil : bytes = []
    · rw [hnil, length_nil, if_pos Nat.cast_zero]; rfl
    · have hpos := length_pos_iff.2 hnil
      have hsize := h.size
      have heq : 2 * (bytes.length : Int) + (bytes.length - 1) * sepsize sepstr + 1 =
          (codes (sepText sepstr) uppercase bytes).length + 1 := size_eq h hnil
      rw [heq] at hsize ⊢
      rw [if_neg (by omega), toUint64_of_int (by omega) hsize]
  have hcodes : ((codes (sepText sepstr) uppercase bytes).length : Int) + 1 ≤ intMax := by
    by_cases hnil : bytes = []
    · rw [hnil, hmax]; exact (by decide : (0 : Int) + 1 ≤ 2147483647)
    · rw [← size_eq h hnil]; exact h.size.2
  rw [hrequired, check_pos (by omega), ok_bind]
  -- the memory that is written to has room for the codes and the NUL
  have hmem : ∃ mem : List Byte, (codes (sepText sepstr) uppercase bytes).length < mem.length ∧
      bufferFor (buffer.getD []) ((codes (sepText sepstr) uppercase bytes).length + 1) = .ok mem := by
    unfold bufferFor
    by_cases hgiven : (buffer.getD []).length = 0
    · refine ⟨malloc ((codes (sepText sepstr) uppercase bytes).length + 1 : Int).toNat, ?_, ?_⟩
      · rw [length_malloc]; omega
      · rw [if_pos hgiven, mallocSize, if_neg (by omega)]
    · exact ⟨_, by omega, if_neg hgiven⟩
  obtain ⟨mem, hroom, hmem⟩ := hmem
  rw [hmem, ok_bind, intResult_pos h.incr, ok_bind]
  by_cases hnil : bytes = []
  · subst hnil
    obtain ⟨c, junk, rfl⟩ := exists_cons_of_length_pos (Nat.lt_of_le_of_lt (Nat.zero_le _) hroom)
    have hempty : emptied ([] : List Byte).length (c :: junk) = .ok (0 :: junk) := rfl
    rw [hempty, ok_bind]
    have hstr := strlen_append (fun c hc => absurd hc not_mem_nil) junk
    rw [nil_append] at hstr
    refine ⟨0 :: junk, ?_, readString_append (fun c hc => absurd hc not_mem_nil) junk⟩
    rw [hexstring2Loop, ok_bind, hstr, ok_bind, check_pos (by rfl), ok_bind]
  · have hpos := length_pos_iff.2 hnil
    have hkept : emptied bytes.length mem = .ok mem := if_neg (by omega)
    rw [hkept, ok_bind]
    have hincr : 2 ≤ bytes.length → 2 + sepsize sepstr = 2 + (sepText sepstr).length := fun h2 => by rw [h.whole h2]
    have hplaces : ∀ j < bytes.length, isInt (j * (2 + sepsize sepstr)) := by
      intro j hj
      by_cases hone : bytes.length = 1
      · have hj0 : j = 0 := by omega
        rw [hj0, Nat.cast_zero, Int.zero_mul]; exact ⟨by omega, by omega⟩
      · have hle : (j : Int) * (2 + sepsize sepstr) ≤ ((bytes.length : Int) - 1) * (2 + sepsize sepstr) :=
          Int.mul_le_mul_of_nonneg_right (by omega) (by omega)
        have hnonneg : 0 ≤ (j : Int) * (2 + sepsize sepstr) := Int.mul_nonneg (by omega) (by omega)
        have hsize := h.size.2
        have hmul := Int.mul_add ((bytes.length : Int) - 1) 2 (sepsize sepstr)
        exact ⟨by omega, by omega⟩
    obtain ⟨junk, hloop⟩ := @hexstring2Loop_eq sepstr uppercase bytes.length _ hincr hplaces bytes 0 [] mem hnil
      (Nat.zero_add _) (by simp) (fun c hc => absurd hc not_mem_nil) hroom
    rw [nil_append, nil_append] at hloop
    have hnz := codes_ne_zero (sepText_ne_zero sepstr) uppercase bytes
    refine ⟨_, ?_, readString_append hnz junk⟩
    rw [hloop, ok_bind, strlen_append hnz, ok_bind, check_pos (by omega), ok_bind]

theorem writeAt_fits {mem mem' text : List Byte} {pos : Int} (h : writeAt mem pos text = .ok mem') :
    mem'.length = mem.length ∧ text.length < mem.length := by
  unfold writeAt at h
  split at h
  · cases h
  · unfold blit at h
    split at h
    · rename_i hle
      cases h
      rw [length_append, length_singleton] at hle
      exact ⟨length_overwrite (by rw [length_append, length_singleton]; exact hle), by omega⟩
    · cases h

theorem sizesFit_of_ok {bytes buf : List Byte} (hbuf : hexstring2 bytes sepstr uppercase none = .ok buf) :
    SizesFit bytes.length sepstr := by
  have hlmax : longMax = 9223372036854775807 := by decide
  have hmin : intMin = -2147483648 := by decide
  obtain ⟨len, hlen, hbuf⟩ := bind_eq_ok.1 hbuf
  obtain ⟨hexSize, hhex, hbuf⟩ := bind_eq_ok.1 hbuf
  obtain ⟨sepSize, hsep, hbuf⟩ := bind_eq_ok.1 hbuf
  obtain ⟨sum, hsum, hbuf⟩ := bind_eq_ok.1 hbuf
  obtain ⟨size, hsize, hbuf⟩ := bind_eq_ok.1 hbuf
  obtain ⟨-, rfl⟩ := intResult_eq_ok.1 hlen
  obtain ⟨hexFits, rfl⟩ := intResult_eq_ok.1 hhex
  obtain ⟨sepFits, rfl⟩ := intResult_eq_ok.1 hsep
  obtain ⟨sumFits, rfl⟩ := intResult_eq_ok.1 hsum
  obtain ⟨sizeFits, rfl⟩ := intResult_eq_ok.1 hsize
  obtain ⟨_, -, hbuf⟩ := bind_eq_ok.1 hbuf
  obtain ⟨mem, hmem, hbuf⟩ := bind_eq_ok.1 hbuf
  obtain ⟨incr1, hincr, hbuf⟩ := bind_eq_ok.1 hbuf
  obtain ⟨incrFits, rfl⟩ := intResult_eq_ok.1 hincr
  refine ⟨hexFits, sepFits, sumFits, sizeFits, incrFits, fun h2 => ?_⟩
  cases bytes with
  | nil => exact absurd h2 (by decide)
  | cons b rest =>
    have hlength : ((b :: rest).length : Int) ≠ 0 := by omega
    rw [if_neg hlength] at hmem
    have hmade : (mem.length : Int) ≤ intMax := by
      change mallocSize _ = .ok mem at hmem
      unfold mallocSize at hmem
      generalize 2 * ((b :: rest).length : Int) + ((b :: rest).length - 1) * sepsize sepstr + 1 = size at sizeFits hmem
      unfold toUint64 at hmem
      by_cases hlarge : longMax < size % 2 ^ 64
      · rw [if_pos hlarge] at hmem; cases hmem
      · rw [if_neg hlarge] at hmem
        cases hmem
        rw [length_malloc]
        have := sizeFits.1
        have := sizeFits.2
        omega
    rw [emptied, if_neg hlength, ok_bind] at hbuf
    obtain ⟨buffer, hloop, -⟩ := bind_eq_ok.1 hbuf
    obtain ⟨pos, -, hloop⟩ := bind_eq_ok.1 hloop
    obtain ⟨mem₁, hwrite, hloop⟩ := bind_eq_ok.1 hloop
    obtain ⟨mem₂, hsepd, -⟩ := bind_eq_ok.1 hloop
    cases sepstr with
    | none => rfl
    | some sep =>
      -- the separator is copied behind the first code
      have hroom := (writeAt_fits hwrite).1
      unfold separated at hsepd
      dsimp only at hsepd
      rw [if_pos (by omega), strcat] at hsepd
      obtain ⟨n, -, hcat⟩ := bind_eq_ok.1 hsepd
      have hsmall := (writeAt_fits hcat).2
      exact int32_of_int ⟨by omega, by omega⟩

theorem hexstring2Right_iff (bytes : List Byte) :
    Hexstring2Right bytes sepstr uppercase ↔ SizesFit bytes.length sepstr := by
  refine ⟨fun h => ?_, hexstring2Right_of⟩
  obtain ⟨buf, hbuf, -⟩ := h none (.inl rfl)
  exact sizesFit_of_ok hbuf

end Join

/-! ## Digits are read back -/

theorem xlatePos_eq (c : Byte) : xlatePos c = (digitVal c).filter (· < 16) := by
  revert c
  exact forall_byte (by decide +kernel)

theorem xlatePos_cases (c : Byte) :
    (∃ d, xlatePos c = some d ∧ digitVal c = some d ∧ d < 16 ∧ isDigit 16 c = true) ∨
      xlatePos c = none ∧ isDigit 16 c = false := by
  rw [xlatePos_eq]
  unfold isDigit
  cases hc : digitVal c with
  | none => exact .inr ⟨rfl, rfl⟩
  | some d =>
    by_cases hd : d < 16
    · exact .inl ⟨d, by rw [Option.filter_some, if_pos (decide_eq_true hd)], rfl, hd, decide_eq_true hd⟩
    · exact .inr ⟨by rw [Option.filter_some, if_neg (by simpa using hd)], decide_eq_false hd⟩

theorem hhsLoop_ok : ∀ {hhs : List Byte} {b : Nat} {ba : List Byte}, hhs.length % 2 = 0 → b + hexPairs hhs ≤ ba.length →
    ∃ ba', hhsLoop hhs b ba = .ok (hhs.all (isDigit 16), ba')
  | [], b, ba, _, _ => ⟨ba, rfl⟩
  | [c], b, ba, heven, _ => by cases heven
  | c0 :: c1 :: h, b, ba, heven, hroom => by
    have heven' : h.length % 2 = 0 := by simp only [length_cons] at heven; omega
    rcases xlatePos_cases c0 with ⟨pos0, h0, -, -, hd0⟩ | ⟨h0, hd0⟩
    · rcases xlatePos_cases c1 with ⟨pos1, h1, -, -, hd1⟩ | ⟨h1, hd1⟩
      · rw [hexPairs, if_pos ⟨hd0, hd1⟩] at hroom
        obtain ⟨ba', hba'⟩ := @hhsLoop_ok h (b + 1) (ba.set b (UInt8.ofNat (pos0 * 16 + pos1))) heven'
          (by rw [length_set]; omega)
        refine ⟨ba', ?_⟩
        rw [hhsLoop, h0, h1]
        dsimp only
        rw [store_of_lt (by omega), ok_bind, hba', all_cons, all_cons, hd0, hd1, Bool.true_and,
          Bool.true_and]
      · refine ⟨ba, ?_⟩
        rw [hhsLoop, h0, h1, all_cons, all_cons, hd1, Bool.false_and, Bool.and_false]
    · refine ⟨ba, ?_⟩
      rw [hhsLoop, h0, all_cons, hd0, Bool.false_and]

theorem hhsLoop_error : ∀ {hhs : List Byte} {b : Nat} {ba : List Byte}, b ≤ ba.length → ba.length < b + hexPairs hhs →
    hhsLoop hhs b ba = .error .outOfBounds
  | [], b, ba, hle, hlt => absurd hlt (Nat.not_lt.2 hle)
  | [c], b, ba, hle, hlt => absurd hlt (Nat.not_lt.2 hle)
  | c0 :: c1 :: h, b, ba, hle, hlt => by
    rw [hexPairs] at hlt
    by_cases hdigits : isDigit 16 c0 = true ∧ isDigit 16 c1 = true
    · rw [if_pos hdigits] at hlt
      rcases xlatePos_cases c0 with ⟨pos0, h0, -, -, -⟩ | ⟨-, hd0⟩
      · rcases xlatePos_cases c1 with ⟨pos1, h1, -, -, -⟩ | ⟨-, hd1⟩
        · rw [hhsLoop, h0, h1]
          dsimp only
          by_cases hb : b < ba.length
          · rw [store_of_lt hb, ok_bind]
            exact hhsLoop_error (by rw [length_set]; exact hb) (by rw [length_set]; omega)
          · rw [store, if_neg hb]; rfl
        · rw [hd1] at hdigits
          cases hdigits.2
      · rw [hd0] at hdigits
        cases hdigits.1
    · rw [if_neg hdigits] at hlt; exact absurd hlt (Nat.not_lt.2 hle)

/-- **Text that is no even number of hexadecimal digits is rejected** where its leading pairs find room. -/
theorem rejectsRight_iff (hhs : List Byte) : RejectsRight hhs ↔ EvenHexDigits hhs ∨ hhs.length % 2 = 1 ∨
    hexPairs hhs ≤ (int32 (hhs.length / 2 : Nat)).toNat := by
  unfold RejectsRight
  by_cases hdigits : EvenHexDigits hhs
  · exact ⟨fun _ => .inl hdigits, fun _ h => absurd hdigits h⟩
  · unfold hhsToByteArray
    by_cases hodd : hhs.length % 2 = 1
    · rw [if_pos (by omega)]; exact ⟨fun _ => .inr (.inl hodd), fun _ _ => rfl⟩
    · have heven : hhs.length % 2 = 0 := by omega
      rw [if_neg (by omega)]
      dsimp only
      by_cases hroom : hexPairs hhs ≤ (int32 (hhs.length / 2 : Nat)).toNat
      · refine ⟨fun _ => .inr (.inr hroom), fun _ _ => ?_⟩
        obtain ⟨ba', hba'⟩ := @hhsLoop_ok hhs 0 (malloc (int32 (hhs.length / 2 : Nat)).toNat) heven
          (by rw [length_malloc, Nat.zero_add]; exact hroom)
        have hnot : hhs.all (isDigit 16) = false := by
          rw [← Bool.not_eq_true]; exact fun hall => hdigits ⟨heven, hall⟩
        rw [hba', hnot]; rfl
      · constructor
        · intro h
          have hfault := @hhsLoop_error hhs 0 (malloc (int32 (hhs.length / 2 : Nat)).toNat) (Nat.zero_le _)
            (by rw [length_malloc, Nat.zero_add]; omega)
          have hnone := h hdigits
          rw [hfault] at hnone; cases hnone
        · rintro (h | h | h)
          · exact absurd h hdigits
          · exact absurd h hodd
          · exact absurd h hroom

theorem hhsLoop_codes {uppercase : Bool} : ∀ {bytes done junk : List Byte}, junk.length = bytes.length →
    hhsLoop (codes [] uppercase bytes) done.length (done ++ junk) = .ok (true, done ++ bytes)
  | [], done, junk, h => by rw [eq_nil_of_length_eq_zero h]; rfl
  | b :: bytes, done, junk, h => by
    obtain ⟨c, junk, rfl⟩ := exists_cons_of_length_pos (h ▸ Nat.succ_pos _ : 0 < junk.length)
    have hlt := b.toNat_lt
    have htext : codes [] uppercase (b :: bytes) =
        hexDigit uppercase (b.toNat / 16) :: hexDigit uppercase (b.toNat % 16) :: codes [] uppercase bytes := by
      cases bytes with
      | nil => rfl
      | cons b' bytes => exact codes_cons_cons [] uppercase b b' bytes
    have hdigit : ∀ d < 16, xlatePos (hexDigit uppercase d) = some d := by
      intro d hd
      rw [xlatePos_eq, digitVal_hexDigit uppercase d hd, Option.filter_some, if_pos (decide_eq_true hd)]
    have hbyte : UInt8.ofNat (b.toNat / 16 * 16 + b.toNat % 16) = b := by
      rw [Nat.div_add_mod', UInt8.ofNat_toNat]
    have hset : (done ++ c :: junk).set done.length b = done ++ [b] ++ junk := by simp
    have hloop := @hhsLoop_codes uppercase bytes (done ++ [b]) junk (Nat.succ.inj h)
    rw [length_append, length_singleton, append_assoc, append_assoc] at hloop
    rw [htext, hhsLoop, hdigit _ (by omega), hdigit _ (by omega)]
    dsimp only
    rw [hbyte, store_of_lt (by simp), ok_bind, hset, append_assoc]; exact hloop

theorem sizesFit_none_iff (n : Nat) : SizesFit n none ↔ isInt (2 * n + 1) := by
  have hmax : intMax = 2147483647 := by decide
  have hmin : intMin = -2147483648 := by decide
  constructor
  · intro h
    have hsize := h.size
    change isInt (2 * (n : Int) + (n - 1) * 0 + 1) at hsize
    rwa [Int.mul_zero, Int.add_zero] at hsize
  · intro h
    have hle := h.2
    have hzero : sepsize none = 0 := rfl
    refine ⟨⟨by omega, by omega⟩, ?_, ?_, ?_, ?_, fun _ => rfl⟩
    · rw [hzero, Int.mul_zero]; exact ⟨by omega, by omega⟩
    · rw [hzero, Int.mul_zero]; exact ⟨by omega, by omega⟩
    · rw [hzero, Int.mul_zero]; exact ⟨by omega, by omega⟩
    · exact ⟨by omega, by omega⟩

theorem roundTrips_iff (bytes : List Byte) (uppercase : Bool) : RoundTrips bytes uppercase ↔ isInt (2 * bytes.length + 1) := by
  rw [← sizesFit_none_iff]
  constructor
  · rintro ⟨buf, text, ba, hbuf, -⟩
    exact sizesFit_of_ok hbuf
  · intro h
    obtain ⟨buf, hbuf, hread⟩ := @hexstring2Right_of none uppercase bytes h none (.inl rfl)
    refine ⟨buf, _, bytes, hbuf, hread, ?_, rfl⟩
    change hhsToByteArray (codes [] uppercase bytes) = _
    have hlength : (codes [] uppercase bytes).length = 2 * bytes.length := by
      cases bytes with
      | nil => rfl
      | cons b bytes =>
        rw [length_codes_cons, length_nil, length_cons]; omega
    have hmin : intMin = -2147483648 := by decide
    have hfits := h.hexSize.2
    have hct : int32 ((codes [] uppercase bytes).length / 2 : Nat) = bytes.length := by
      rw [hlength, Nat.mul_div_cancel_left _ (by decide)]; exact int32_of_int ⟨by omega, by omega⟩
    rw [hhsToByteArray, if_neg (by omega)]
    dsimp only
    rw [hct, Int.toNat_natCast]
    have hloop := @hhsLoop_codes uppercase bytes [] (malloc bytes.length) (length_malloc _)
    rw [nil_append, nil_append, length_nil] at hloop
    rw [hloop]; rfl

/-- **The hex text is right** exactly where there is something to write, and the sizes are values of an `int`; a text that
is no even number of digits is rejected exactly where its leading pairs find room in the array. -/
theorem hexText_iff (bytes : List Byte) (sepstr : Option CString) (uppercase : Bool) (hhs : List Byte) :
    (HexstringRight bytes ↔ bytes ≠ [] ∧ isInt (3 * bytes.length + 1)) ∧
      (Hexstring2Right bytes sepstr uppercase ↔ SizesFit bytes.length sepstr) ∧
      (RoundTrips bytes uppercase ↔ isInt (2 * bytes.length + 1)) ∧
      (RejectsRight hhs ↔ EvenHexDigits hhs ∨ hhs.length % 2 = 1 ∨
        hexPairs hhs ≤ (int32 (hhs.length / 2 : Nat)).toNat) :=
  ⟨hexstringRight_iff bytes, hexstring2Right_iff bytes, roundTrips_iff bytes uppercase, rejectsRight_iff hhs⟩

/-- `hexstring` of no bytes writes in front of its buffer. -/
theorem hexstring_empty : ¬ HexstringRight [] := by
  rintro ⟨buf, hbuf, -⟩
  cases hbuf

end Ddc.HexText
