import Ddcutil.Edid
import Ddcutil.Kit.Items
import Ddcutil.MonitorModelKey
/-!
# EdidRecord — the whole record of an EDID

`create_parsed_edid` with every byte that it reads and every field that it fills: the strings are arrays in which a
NUL ends the text, the numbers are put together from bytes with shifts.
-/
namespace Ddc

open Kit List Exec

def edidExtraStringFieldSize : Nat := 14
def edidDescriptorsBlocksStart : Nat := 54
def edidDescriptorBlockSize : Nat := 18

structure EdidRecord where
  marker : List Byte
  bytes : List Byte
  mfgId : List Byte
  productCode : UInt16
  modelName : List Byte
  serialBinary : UInt32
  serialAscii : List Byte
  extraDescriptorString : List Byte
  year : Nat
  isModelYear : Bool
  manufactureWeek : UInt8
  edidVersionMajor : Byte
  edidVersionMinor : Byte
  wx : UInt16
  wy : UInt16
  rx : UInt16
  ry : UInt16
  gx : UInt16
  gy : UInt16
  bx : UInt16
  by_ : UInt16
  videoInputDefinition : Byte
  supportedFeatures : Byte
  extensionFlag : UInt8
  edidSource : List Byte
  deriving DecidableEq

/-! ## The functions -/

def edidHeaderTag : List Byte := [0x00, 0xff, 0xff, 0xff, 0xff, 0xff, 0xff, 0x00]

def isValidEdidHeader (edidbytes : List Byte) : Exec Bool := do
  let start ← span edidbytes 0 8
  .ok (start == edidHeaderTag)

def edidChecksum (edidbytes : List Byte) : Exec Byte :=
  (List.range 128).foldlM (fun checksum ndx => (checksum + ·) <$> fetch edidbytes ndx) 0

/-- The loop that copies the text of a descriptor, with `left = 13 - offset`; the test for a line feed comes first, so
that the byte behind the text is read too. -/
def copyDescriptorText (edidbytes : List Byte) (textstart : Nat) :
    (left offset : Nat) → (nameslot : List Byte) → Exec (Nat × List Byte)
  | 0, offset, nameslot => do
    let _ ← fetch edidbytes (textstart + offset)
    .ok (offset, nameslot)
  | left + 1, offset, nameslot => do
    let c ← fetch edidbytes (textstart + offset)
    if c = newline then .ok (offset, nameslot)
    else do
      let nameslot ← store nameslot offset c
      copyDescriptorText edidbytes textstart left (offset + 1) nameslot

def rtrimLoop : (len : Nat) → (s : List Byte) → Exec (List Byte)
  | 0, s => .ok s
  | len + 1, s => do
    let c ← fetch s len
    if isspace c = true then do
      let s ← store s len 0
      rtrimLoop len s
    else .ok s

def fillNameslot (edidbytes : List Byte) (textstart : Nat) (nameslot : List Byte) : Exec (List Byte) := do
  let copied ← copyDescriptorText edidbytes textstart 13 0 nameslot
  let nameslot ← store copied.2 copied.1 0
  let len ← strlen nameslot
  rtrimLoop len nameslot

structure DescriptorBuffers where
  namebuf : List Byte
  snbuf : List Byte
  otherbuf : List Byte

def selectNameslot (edidbytes : List Byte) (textstart : Nat) (bufs : DescriptorBuffers) (tag : Byte) :
    Exec DescriptorBuffers :=
  if tag = 0xff then (fun snbuf => { bufs with snbuf := snbuf }) <$> fillNameslot edidbytes textstart bufs.snbuf
  else if tag = 0xfe then
    (fun otherbuf => { bufs with otherbuf := otherbuf }) <$> fillNameslot edidbytes textstart bufs.otherbuf
  else if tag = 0xfc then
    (fun namebuf => { bufs with namebuf := namebuf }) <$> fillNameslot edidbytes textstart bufs.namebuf
  else .ok bufs

def descriptorBuffersTurn (edidbytes : List Byte) (bufs : DescriptorBuffers) (descriptorNdx : Nat) :
    Exec DescriptorBuffers := do
  let descriptor := edidDescriptorsBlocksStart + descriptorNdx * edidDescriptorBlockSize
  let isString ← [0, 1, 2, 4].allM fun i => (· == 0) <$> fetch edidbytes (descriptor + i)
  if isString = true then do
    let tag ← fetch edidbytes (descriptor + 3)
    selectNameslot edidbytes (descriptor + 5) bufs tag
  else .ok bufs

def fillDescriptorBuffers (edidbytes : List Byte) (bufs : DescriptorBuffers) : Exec DescriptorBuffers := do
  let namebuf ← store bufs.namebuf 0 0
  let snbuf ← store bufs.snbuf 0 0
  let otherbuf ← store bufs.otherbuf 0 0
  (List.range 4).foldlM (descriptorBuffersTurn edidbytes) ⟨namebuf, snbuf, otherbuf⟩

/-- A coordinate: the byte at `high`, and below it the two bits of the byte at `low` that `mask` selects. -/
def tenBits (edidbytes : List Byte) (high low : Nat) (mask : Byte) (shift : Nat) : Exec UInt16 := do
  let h ← fetch edidbytes high
  let l ← fetch edidbytes low
  .ok (UInt16.ofNat (h.toNat <<< 2 ||| (l &&& mask).toNat >>> shift))

def tenBitsTimesFour (edidbytes : List Byte) (high low : Nat) (mask : Byte) (shift : Nat) : Exec UInt16 := do
  let h ← fetch edidbytes high
  let l ← fetch edidbytes low
  .ok (UInt16.ofNat (h.toNat * 4 + (l &&& mask).toNat >>> shift))

def edidProductCode (edidbytes : List Byte) : Exec UInt16 := do
  let high ← fetch edidbytes 0x0b
  let low ← fetch edidbytes 0x0a
  .ok (UInt16.ofNat (high.toNat <<< 8 ||| low.toNat))

def edidSerialBinary (edidbytes : List Byte) : Exec UInt32 := do
  let b0 ← fetch edidbytes 0x0c
  let b1 ← fetch edidbytes 0x0d
  let b2 ← fetch edidbytes 0x0e
  let b3 ← fetch edidbytes 0x0f
  .ok (UInt32.ofNat (b0.toNat ||| b1.toNat <<< 8 ||| b2.toNat <<< 16 ||| b3.toNat <<< 24))

def getEdidMfgIdInBuffer (edidbytes : List Byte) : Exec (List Byte) := do
  let b0 ← fetch edidbytes 8
  let b1 ← fetch edidbytes 9
  .ok (parseMfgIdInBuffer b0 b1 ++ [0])

def fillEdidRecord (edidbytes : List Byte) : Exec EdidRecord := do
  let bytes ← span edidbytes 0 128
  let mfgId ← getEdidMfgIdInBuffer edidbytes
  let productCode ← edidProductCode edidbytes
  let serialBinary ← edidSerialBinary edidbytes
  let strings ← fillDescriptorBuffers edidbytes
    ⟨calloc edidModelNameFieldSize, calloc edidSerialAsciiFieldSize, calloc edidExtraStringFieldSize⟩
  let byte17 ← fetch edidbytes 17
  let byte16 ← fetch edidbytes 16
  let edidVersionMajor ← fetch edidbytes 18
  let edidVersionMinor ← fetch edidbytes 19
  let rx ← tenBits edidbytes 0x1b 0x19 0xc0 6
  let ry ← tenBits edidbytes 0x1c 0x19 0x30 4
  let gx ← tenBits edidbytes 0x1d 0x19 0x0c 2
  let gy ← tenBits edidbytes 0x1e 0x19 0x03 0
  let bx ← tenBits edidbytes 0x1f 0x1a 0xc0 6
  let by_ ← tenBits edidbytes 0x20 0x1a 0x30 4
  let wx ← tenBits edidbytes 0x21 0x1a 0x0c 2
  let wy ← tenBitsTimesFour edidbytes 0x22 0x1a 0x03 0
  let videoInputDefinition ← fetch edidbytes 0x14
  let supportedFeatures ← fetch edidbytes 0x18
  let extensionFlag ← fetch edidbytes 0x7e
  .ok {
    marker := ascii "EDID"
    bytes := bytes
    mfgId := mfgId
    productCode := productCode
    modelName := strings.namebuf
    serialBinary := serialBinary
    serialAscii := strings.snbuf
    extraDescriptorString := strings.otherbuf
    year := byte17.toNat + 1990
    isModelYear := byte16 == 0xff
    manufactureWeek := byte16
    edidVersionMajor := edidVersionMajor
    edidVersionMinor := edidVersionMinor
    wx := wx
    wy := wy
    rx := rx
    ry := ry
    gx := gx
    gy := gy
    bx := bx
    by_ := by_
    videoInputDefinition := videoInputDefinition
    supportedFeatures := supportedFeatures
    extensionFlag := extensionFlag
    edidSource := calloc 6 }

def createParsedEdidRecord (edidbytes : List Byte) : Exec (Option EdidRecord) := do
  let validHeader ← isValidEdidHeader edidbytes
  if validHeader = true then do
    let checksum ← edidChecksum edidbytes
    if checksum = 0 then some <$> fillEdidRecord edidbytes else .ok none
  else .ok none

def copyParsedEdid : Option EdidRecord → Exec (Option EdidRecord)
  | none => .ok none
  | some original => do
    match ← createParsedEdidRecord original.bytes with
    | none => .error .assertFailed
    | some copy => .ok (some { copy with edidSource := original.edidSource })

/-! ## What the record is to be -/

namespace EdidBlock

variable (edidbytes : EdidBlock)

def isTextOf (tag : Byte) (ndx : Nat) : Bool :=
  ([0, 1, 2, 4].all fun i => edidbytes.byte (54 + ndx * 18 + i) == 0) && edidbytes.byte (54 + ndx * 18 + 3) == tag

/-- **The text of a descriptor**: up to its first line feed or NUL, without the white space at its end. -/
def textAt (ndx : Nat) : List Byte :=
  (((edidbytes.bytes.drop (54 + ndx * 18 + 5)).take 13).takeWhile fun c => c != newline && c != 0).rdropWhile isspace

/-- **The text of the last descriptor of a type**, which is empty where there is none. -/
def lastText (tag : Byte) : List Byte :=
  (((List.range 4).filter (edidbytes.isTextOf tag)).getLast?.map edidbytes.textAt).getD []

def coordinate (high low shift : Nat) : Nat :=
  4 * (edidbytes.byte high).toNat + (edidbytes.byte low).toNat / 2 ^ shift % 4

def mfgLetters : List Byte :=
  [10, 5, 0].map fun shift => UInt8.ofNat
    (64 + (256 * (edidbytes.byte 8).toNat + (edidbytes.byte 9).toNat) / 2 ^ shift % 32)

def Valid : Prop :=
  edidbytes.bytes.take 8 = edidHeaderTag ∧ (edidbytes.bytes.map UInt8.toNat).sum % 256 = 0

end EdidBlock

def HoldsString (array text : List Byte) : Prop := 0 ∈ array ∧ cstr array = text ∧ text.length ≤ 13

structure EdidRecord.Documents (r : EdidRecord) (edidbytes : EdidBlock) : Prop where
  marker : r.marker = ascii "EDID"
  bytes : r.bytes = edidbytes.bytes
  mfgId : HoldsString r.mfgId edidbytes.mfgLetters
  modelName : HoldsString r.modelName (edidbytes.lastText 0xfc)
  serialAscii : HoldsString r.serialAscii (edidbytes.lastText 0xff)
  extraDescriptorString : HoldsString r.extraDescriptorString (edidbytes.lastText 0xfe)
  productCode : r.productCode.toNat = littleEndian [edidbytes.byte 0x0a, edidbytes.byte 0x0b]
  serialBinary : r.serialBinary.toNat =
    littleEndian [edidbytes.byte 0x0c, edidbytes.byte 0x0d, edidbytes.byte 0x0e, edidbytes.byte 0x0f]
  year : r.year = (edidbytes.byte 17).toNat + 1990
  isModelYear : r.isModelYear = true ↔ edidbytes.byte 16 = 0xff
  manufactureWeek : r.manufactureWeek = edidbytes.byte 16
  edidVersionMajor : r.edidVersionMajor = edidbytes.byte 18
  edidVersionMinor : r.edidVersionMinor = edidbytes.byte 19
  rx : r.rx.toNat = edidbytes.coordinate 0x1b 0x19 6
  ry : r.ry.toNat = edidbytes.coordinate 0x1c 0x19 4
  gx : r.gx.toNat = edidbytes.coordinate 0x1d 0x19 2
  gy : r.gy.toNat = edidbytes.coordinate 0x1e 0x19 0
  bx : r.bx.toNat = edidbytes.coordinate 0x1f 0x1a 6
  by_ : r.by_.toNat = edidbytes.coordinate 0x20 0x1a 4
  wx : r.wx.toNat = edidbytes.coordinate 0x21 0x1a 2
  wy : r.wy.toNat = edidbytes.coordinate 0x22 0x1a 0
  videoInputDefinition : r.videoInputDefinition = edidbytes.byte 20
  supportedFeatures : r.supportedFeatures = edidbytes.byte 24
  extensionFlag : r.extensionFlag = edidbytes.byte 126

/-! ## Texts in arrays -/

theorem fetch_byte (edidbytes : EdidBlock) {i : Nat} (h : i < 128) :
    fetch edidbytes.bytes i = .ok (edidbytes.byte i) := by
  have hlt : i < edidbytes.bytes.length := edidbytes.size.symm ▸ h
  rw [fetch_of_lt hlt, EdidBlock.byte, getD_eq_getElem?_getD, getElem?_eq_getElem hlt, Option.getD_some]

theorem overwrite_nil (m : List Byte) (i : Nat) : overwrite m i [] = m := by
  rw [overwrite, append_nil]; exact take_append_drop i m

theorem overwrite_cons {m : List Byte} {i : Nat} (h : i < m.length) (b : Byte) (src : List Byte) :
    overwrite m i (b :: src) = overwrite (m.set i b) (i + 1) src := by
  have hlen : i < (m.set i b).length := by rwa [length_set]
  have htake : (m.set i b).take (i + 1) = m.take i ++ [b] := by
    rw [take_succ_eq_append_getElem hlen, getElem_set_self, take_set_of_le (Nat.le_refl i)]
  have hdrop : (m.set i b).drop (i + 1 + src.length) = m.drop (i + (b :: src).length) := by
    rw [drop_set_of_lt (by omega), length_cons]
    congr 1
    omega
  unfold overwrite
  rw [htake, hdrop]; simp

theorem copyDescriptorText_eq {edidbytes : List Byte} {textstart : Nat} : ∀ {left offset : Nat} {nameslot : List Byte},
    textstart + offset + left < edidbytes.length → offset + left < nameslot.length →
    copyDescriptorText edidbytes textstart left offset nameslot =
      .ok (offset + (((edidbytes.drop (textstart + offset)).take left).takeWhile (· != newline)).length,
        overwrite nameslot offset (((edidbytes.drop (textstart + offset)).take left).takeWhile (· != newline))) := by
  intro left
  induction left with
  | zero =>
    intro offset nameslot hread _
    rw [Nat.add_zero] at hread
    rw [copyDescriptorText, fetch_of_lt hread, ok_bind, take_zero, takeWhile_nil, overwrite_nil]
    rfl
  | succ left ih =>
    intro offset nameslot hread hslot
    have hlt : textstart + offset < edidbytes.length := by omega
    have hoffset : offset < nameslot.length := by omega
    rw [copyDescriptorText, fetch_of_lt hlt, ok_bind, drop_eq_getElem_cons hlt, take_succ_cons]
    by_cases hlf : edidbytes[textstart + offset] = newline
    · rw [if_pos hlf, takeWhile_cons_of_neg (by simp [hlf]), overwrite_nil]; rfl
    · have hread' : textstart + (offset + 1) + left < edidbytes.length := by omega
      have hslot' : offset + 1 + left < (nameslot.set offset edidbytes[textstart + offset]).length := by
        rw [length_set]; omega
      rw [if_neg hlf, store_of_lt hoffset, ok_bind, ih hread' hslot', takeWhile_cons_of_pos (by simp [hlf]),
        overwrite_cons hoffset, length_cons, Nat.add_assoc textstart]
      congr 2
      omega

theorem exists_eq_cstr_append {m : List Byte} (h : 0 ∈ m) : ∃ rest, m = cstr m ++ 0 :: rest := by
  have hstop : m.dropWhile (· != 0) ≠ [] := by
    intro hnil
    have hall := dropWhile_eq_nil_iff.1 hnil 0 h
    cases hall
  obtain ⟨c, rest, hrest⟩ := exists_cons_of_ne_nil hstop
  have hc : c = 0 := by
    have hhead := head_dropWhile_not (fun b : Byte => b != 0) hstop
    simpa [hrest] using hhead
  refine ⟨rest, ?_⟩
  conv_lhs => rw [← takeWhile_append_dropWhile (p := fun b : Byte => b != 0) (l := m)]
  rw [hrest, hc]; rfl

theorem cstr_append_zero (text junk : List Byte) : cstr (text ++ 0 :: junk) = cstr text := by
  induction text with
  | nil => rfl
  | cons b text ih =>
    unfold cstr at ih ⊢
    by_cases hb : b = 0
    · rw [cons_append, takeWhile_cons_of_neg (by simp [hb]), takeWhile_cons_of_neg (by simp [hb])]
    · rw [cons_append, takeWhile_cons_of_pos (by simp [hb]), takeWhile_cons_of_pos (by simp [hb]), ih]

theorem rtrimLoop_eq (text : List Byte) (htext : ∀ b ∈ text, b ≠ 0) : ∀ rest : List Byte,
    ∃ s, rtrimLoop text.length (text ++ 0 :: rest) = .ok s ∧ s.length = (text ++ 0 :: rest).length ∧ 0 ∈ s ∧
      cstr s = rtrimInPlace text := by
  induction text using List.reverseRecOn with
  | nil => exact fun rest => ⟨0 :: rest, rfl, rfl, mem_cons_self, rfl⟩
  | append_singleton text c ih =>
    intro rest
    have hread : fetch (text ++ [c] ++ 0 :: rest) text.length = .ok c := by
      rw [fetch_eq_ok, append_assoc, getElem?_append_right (Nat.le_refl _), Nat.sub_self]; rfl
    rw [length_append, length_singleton, rtrimLoop, hread, ok_bind]
    by_cases hspace : isspace c = true
    · have hlt : text.length < (text ++ [c] ++ 0 :: rest).length := by simp
      have hset : (text ++ [c] ++ 0 :: rest).set text.length 0 = text ++ 0 :: 0 :: rest := by
        rw [append_assoc, set_append_right _ _ (Nat.le_refl _), Nat.sub_self]; rfl
      obtain ⟨s, hs, hlen, hnul, hstr⟩ := ih (fun b hb => htext b (mem_append_left _ hb)) (0 :: rest)
      refine ⟨s, ?_, ?_, hnul, ?_⟩
      · rw [if_pos hspace, store_of_lt hlt, ok_bind, hset, hs]
      · rw [hlen]; simp
      · rw [hstr]
        unfold rtrimInPlace
        rw [rdropWhile_concat_pos _ _ _ hspace]
    · refine ⟨_, if_neg hspace, rfl, mem_zero_append _ _, ?_⟩
      rw [cstr_append htext]
      rw [rtrimInPlace, rdropWhile_concat_neg _ _ _ hspace]

theorem fillNameslot_eq {edidbytes nameslot : List Byte} {textstart : Nat} (hread : textstart + 13 < edidbytes.length)
    (hslot : nameslot.length = 14) : ∃ slot, fillNameslot edidbytes textstart nameslot = .ok slot ∧ slot.length = 14 ∧
      0 ∈ slot ∧ cstr slot =
        rtrimInPlace (cstr (((edidbytes.drop textstart).take 13).takeWhile (· != newline))) := by
  have hlen : (((edidbytes.drop textstart).take 13).takeWhile (· != newline)).length ≤ 13 :=
    Nat.le_trans ( takeWhile_prefix _).length_le (length_take_le 13 _)
  have hcopy := @copyDescriptorText_eq edidbytes textstart 13 0 nameslot hread (by omega)
  rw [Nat.add_zero, Nat.zero_add] at hcopy
  generalize ((edidbytes.drop textstart).take 13).takeWhile (· != newline) = text at hcopy hlen
  obtain ⟨b, junk, hjunk⟩ : ∃ b junk, nameslot.drop text.length = b :: junk := by
    apply exists_cons_of_ne_nil
    rw [ne_eq, drop_eq_nil_iff]; omega
  have hover : overwrite nameslot 0 text = text ++ b :: junk := by
    rw [overwrite, take_zero, nil_append, Nat.zero_add, hjunk]
  have hfull : (text ++ b :: junk).length = 14 := by rw [← hjunk, length_append, length_drop]; omega
  have hlt : text.length < (text ++ b :: junk).length := by omega
  have hset : (text ++ b :: junk).set text.length 0 = text ++ 0 :: junk := by
    rw [set_append_right _ _ (Nat.le_refl _), Nat.sub_self]; rfl
  have hnul : (0 : Byte) ∈ text ++ 0 :: junk := mem_zero_append text junk
  have hstr := cstr_append_zero text junk
  obtain ⟨rest, hrest⟩ := exists_eq_cstr_append hnul
  have hplain : ∀ c ∈ cstr (text ++ 0 :: junk), c ≠ 0 := fun c hc => by
    simpa using mem_takeWhile_imp (p := fun c : Byte => c != 0) hc
  obtain ⟨slot, hslot', hsize, hnul', htrim⟩ := rtrimLoop_eq (cstr (text ++ 0 :: junk)) hplain rest
  rw [← hrest] at hslot' hsize
  refine ⟨slot, ?_, ?_, hnul', ?_⟩
  · rw [fillNameslot, hcopy, ok_bind, hover, store_of_lt hlt, ok_bind, hset, strlen, readString_of_mem hnul,
      ok_map, ok_bind, hslot']
  · rw [hsize, ← hfull, length_append, length_append]; rfl
  · rw [htrim, hstr]

/-! ## Descriptors -/

theorem textAt_eq (edidbytes : EdidBlock) (ndx : Nat) : edidbytes.textAt ndx =
    rtrimInPlace (cstr (((edidbytes.bytes.drop (54 + ndx * 18 + 5)).take 13).takeWhile (· != newline))) := by
  rw [EdidBlock.textAt, rtrimInPlace, cstr, takeWhile_takeWhile]
  congr 2
  funext c
  exact Bool.eq_iff_iff.2 (by simp [and_comm])

theorem length_textAt_le (edidbytes : EdidBlock) (ndx : Nat) : (edidbytes.textAt ndx).length ≤ 13 := by
  refine Nat.le_trans ( rdropWhile_prefix isspace _).length_le ?_
  exact Nat.le_trans ( takeWhile_prefix _).length_le (length_take_le 13 _)

def IsStringBuffer (buf : List Byte) : Prop := buf.length = 14 ∧ 0 ∈ buf

structure DescriptorBuffers.Ready (bufs : DescriptorBuffers) : Prop where
  namebuf : IsStringBuffer bufs.namebuf
  snbuf : IsStringBuffer bufs.snbuf
  otherbuf : IsStringBuffer bufs.otherbuf

theorem allM_ok {α : Type} {f : α → Exec Bool} {p : α → Bool} : ∀ {l : List α}, (∀ a ∈ l, f a = .ok (p a)) →
    l.allM f = .ok (l.all p)
  | [], _ => rfl
  | a :: l, h => by
    rw [List.allM, h a mem_cons_self, ok_bind, all_cons]
    cases p a with
    | false => rfl
    | true => exact allM_ok fun b hb => h b (mem_cons_of_mem a hb)

def textAfter (edidbytes : EdidBlock) (tag : Byte) (text : List Byte) (ndx : Nat) : List Byte :=
  if edidbytes.isTextOf tag ndx = true then edidbytes.textAt ndx else text

section
variable (edidbytes : EdidBlock)

theorem fillNameslot_textAt {ndx : Nat} (hndx : ndx < 4) {slot : List Byte} (hslot : IsStringBuffer slot) :
    ∃ slot', fillNameslot edidbytes.bytes (54 + ndx * 18 + 5) slot = .ok slot' ∧ IsStringBuffer slot' ∧
      cstr slot' = edidbytes.textAt ndx := by
  have hread : 54 + ndx * 18 + 5 + 13 < edidbytes.bytes.length := by rw [edidbytes.size]; omega
  obtain ⟨slot', hslot', hlen, hnul, hstr⟩ := fillNameslot_eq hread hslot.1
  exact ⟨slot', hslot', ⟨hlen, hnul⟩, hstr.trans (textAt_eq edidbytes ndx).symm⟩

theorem selectNameslot_eq {bufs : DescriptorBuffers} (h : bufs.Ready) {ndx : Nat} (hndx : ndx < 4) (tag : Byte) :
    ∃ bufs', selectNameslot edidbytes.bytes (54 + ndx * 18 + 5) bufs tag = .ok bufs' ∧ bufs'.Ready ∧
      cstr bufs'.namebuf = (if tag = 0xfc then edidbytes.textAt ndx else cstr bufs.namebuf) ∧
      cstr bufs'.snbuf = (if tag = 0xff then edidbytes.textAt ndx else cstr bufs.snbuf) ∧
      cstr bufs'.otherbuf = if tag = 0xfe then edidbytes.textAt ndx else cstr bufs.otherbuf := by
  unfold selectNameslot
  by_cases hsn : tag = 0xff
  · subst hsn
    obtain ⟨slot, hslot, hready, hstr⟩ := fillNameslot_textAt edidbytes hndx h.snbuf
    rw [if_pos rfl, hslot]; exact ⟨_, rfl, ⟨h.namebuf, hready, h.otherbuf⟩, rfl, hstr, rfl⟩
  · by_cases hother : tag = 0xfe
    · subst hother
      obtain ⟨slot, hslot, hready, hstr⟩ := fillNameslot_textAt edidbytes hndx h.otherbuf
      rw [if_neg hsn, if_pos rfl, hslot]
      exact ⟨_, rfl, ⟨h.namebuf, h.snbuf, hready⟩, rfl, rfl, hstr⟩
    · by_cases hname : tag = 0xfc
      · subst hname
        obtain ⟨slot, hslot, hready, hstr⟩ := fillNameslot_textAt edidbytes hndx h.namebuf
        rw [if_neg hsn, if_neg hother, if_pos rfl, hslot]
        exact ⟨_, rfl, ⟨hready, h.snbuf, h.otherbuf⟩, hstr, rfl, rfl⟩
      · rw [if_neg hsn, if_neg hother, if_neg hname, if_neg hname, if_neg hsn, if_neg hother]
        exact ⟨bufs, rfl, h, rfl, rfl, rfl⟩

theorem descriptorBuffersTurn_eq {bufs : DescriptorBuffers} (h : bufs.Ready) {ndx : Nat} (hndx : ndx < 4) :
    ∃ bufs', descriptorBuffersTurn edidbytes.bytes bufs ndx = .ok bufs' ∧ bufs'.Ready ∧
      cstr bufs'.namebuf = textAfter edidbytes 0xfc (cstr bufs.namebuf) ndx ∧
      cstr bufs'.snbuf = textAfter edidbytes 0xff (cstr bufs.snbuf) ndx ∧
      cstr bufs'.otherbuf = textAfter edidbytes 0xfe (cstr bufs.otherbuf) ndx := by
  have hzeros : ([0, 1, 2, 4].allM fun i => (· == 0) <$> fetch edidbytes.bytes (54 + ndx * 18 + i)) =
      .ok ([0, 1, 2, 4].all fun i => edidbytes.byte (54 + ndx * 18 + i) == 0) := by
    apply allM_ok
    intro i hi
    have hle : i ≤ 4 := by
      have hall : ∀ i ∈ [0, 1, 2, 4], i ≤ 4 := by decide
      exact hall i hi
    rw [fetch_byte edidbytes (by omega), ok_map]
  have htag : fetch edidbytes.bytes (54 + ndx * 18 + 3) = .ok (edidbytes.byte (54 + ndx * 18 + 3)) :=
    fetch_byte edidbytes (by omega)
  have hturn : descriptorBuffersTurn edidbytes.bytes bufs ndx =
      if ([0, 1, 2, 4].all fun i => edidbytes.byte (54 + ndx * 18 + i) == 0) = true then
        selectNameslot edidbytes.bytes (54 + ndx * 18 + 5) bufs (edidbytes.byte (54 + ndx * 18 + 3))
      else .ok bufs := by
    unfold descriptorBuffersTurn edidDescriptorsBlocksStart edidDescriptorBlockSize
    dsimp only
    rw [hzeros, ok_bind, htag, ok_bind]
  rw [hturn]
  unfold textAfter EdidBlock.isTextOf
  cases ([0, 1, 2, 4].all fun i => edidbytes.byte (54 + ndx * 18 + i) == 0) with
  | false => exact ⟨bufs, rfl, h, rfl, rfl, rfl⟩
  | true =>
    simp only [Bool.true_and, beq_iff_eq]
    exact selectNameslot_eq edidbytes h hndx (edidbytes.byte (54 + ndx * 18 + 3))

theorem foldl_textAfter (tag : Byte) (l : List Nat) (text : List Byte) :
    l.foldl (textAfter edidbytes tag) text =
      (((l.filter (edidbytes.isTextOf tag)).getLast?).map edidbytes.textAt).getD text := by
  induction l generalizing text with
  | nil => rfl
  | cons ndx l ih =>
    rw [foldl_cons, ih, textAfter]
    by_cases h : edidbytes.isTextOf tag ndx = true
    · rw [if_pos h, filter_cons_of_pos h, getLast?_cons]
      cases (l.filter (edidbytes.isTextOf tag)).getLast? with
      | none | some last => rfl
    · rw [if_neg h, filter_cons_of_neg h]

theorem foldlM_descriptorBuffersTurn (l : List Nat) (hl : ∀ ndx ∈ l, ndx < 4) :
    ∀ {bufs : DescriptorBuffers}, bufs.Ready →
      ∃ bufs', l.foldlM (descriptorBuffersTurn edidbytes.bytes) bufs = .ok bufs' ∧ bufs'.Ready ∧
      cstr bufs'.namebuf = l.foldl (textAfter edidbytes 0xfc) (cstr bufs.namebuf) ∧
      cstr bufs'.snbuf = l.foldl (textAfter edidbytes 0xff) (cstr bufs.snbuf) ∧
      cstr bufs'.otherbuf = l.foldl (textAfter edidbytes 0xfe) (cstr bufs.otherbuf) := by
  induction l with
  | nil => exact fun h => ⟨_, rfl, h, rfl, rfl, rfl⟩
  | cons ndx l ih =>
    intro bufs h
    obtain ⟨bufs₁, hturn, h₁, hname, hsn, hother⟩ := descriptorBuffersTurn_eq edidbytes h (hl ndx mem_cons_self)
    obtain ⟨bufs₂, hrest, h₂, hname₂, hsn₂, hother₂⟩ := ih (fun i hi => hl i (mem_cons_of_mem ndx hi)) h₁
    refine ⟨bufs₂, ?_, h₂, ?_, ?_, ?_⟩
    · rw [foldlM_cons, hturn, ok_bind, hrest]
    · rw [hname₂, hname, foldl_cons]
    · rw [hsn₂, hsn, foldl_cons]
    · rw [hother₂, hother, foldl_cons]

theorem fillDescriptorBuffers_eq : ∃ bufs, fillDescriptorBuffers edidbytes.bytes ⟨calloc edidModelNameFieldSize, calloc
    edidSerialAsciiFieldSize, calloc edidExtraStringFieldSize⟩ = .ok bufs ∧ HoldsString bufs.namebuf (edidbytes.lastText
    0xfc) ∧ HoldsString bufs.snbuf (edidbytes.lastText 0xff) ∧ HoldsString bufs.otherbuf (edidbytes.lastText 0xfe) := by
  have hstart : (DescriptorBuffers.mk (calloc 14) (calloc 14) (calloc 14)).Ready :=
    ⟨⟨rfl, mem_cons_self⟩, ⟨rfl, mem_cons_self⟩, ⟨rfl, mem_cons_self⟩⟩
  obtain ⟨bufs, hfold, hready, hname, hsn, hother⟩ :=
    foldlM_descriptorBuffersTurn edidbytes (List.range 4) (fun ndx hndx => mem_range.1 hndx) hstart
  have hlast : ∀ tag, (List.range 4).foldl (textAfter edidbytes tag) (cstr (calloc 14)) = edidbytes.lastText tag :=
    fun tag => foldl_textAfter edidbytes tag (List.range 4) []
  have hlen : ∀ tag, (edidbytes.lastText tag).length ≤ 13 := by
    intro tag
    unfold EdidBlock.lastText
    cases ((List.range 4).filter (edidbytes.isTextOf tag)).getLast? with
    | none => exact Nat.zero_le 13
    | some ndx => exact length_textAt_le edidbytes ndx
  refine ⟨bufs, hfold, ?_, ?_, ?_⟩
  · exact ⟨hready.namebuf.2, hname.trans (hlast 0xfc), hlen 0xfc⟩
  · exact ⟨hready.snbuf.2, hsn.trans (hlast 0xff), hlen 0xff⟩
  · exact ⟨hready.otherbuf.2, hother.trans (hlast 0xfe), hlen 0xfe⟩

end

/-! ## Numbers -/

theorem parseMfgIdInBuffer_eq (edidbytes : EdidBlock) :
    parseMfgIdInBuffer (edidbytes.byte 8) (edidbytes.byte 9) = edidbytes.mfgLetters := by
  unfold EdidBlock.mfgLetters parseMfgIdInBuffer
  generalize edidbytes.byte 8 = b0
  generalize edidbytes.byte 9 = b1
  have hlt := b1.toNat_lt
  have hfirst : (256 * b0.toNat + b1.toNat) / 2 ^ 10 % 32 = b0.toNat / 4 % 32 := by omega
  have hmiddle : (256 * b0.toNat + b1.toNat) / 2 ^ 5 % 32 = b0.toNat % 4 * 8 + b1.toNat / 32 := by omega
  have hlast : (256 * b0.toNat + b1.toNat) / 2 ^ 0 % 32 = b1.toNat % 32 := by omega
  have hhigh : ((b0 >>> 2) &&& 0x1f) + 64 = UInt8.ofNat (64 + b0.toNat / 4 % 32) :=
    forall_byte (P := fun b => ((b >>> 2) &&& 0x1f) + 64 = UInt8.ofNat (64 + b.toNat / 4 % 32)) (by decide +kernel) b0
  have hlow : (b1 &&& 0x1f) + 64 = UInt8.ofNat (64 + b1.toNat % 32) :=
    forall_byte (P := fun b => (b &&& 0x1f) + 64 = UInt8.ofNat (64 + b.toNat % 32)) (by decide +kernel) b1
  have hleft : (b0 &&& 0x03) <<< 3 = UInt8.ofNat (b0.toNat % 4 * 8) :=
    forall_byte (P := fun b => (b &&& 0x03) <<< 3 = UInt8.ofNat (b.toNat % 4 * 8)) (by decide +kernel) b0
  have hright : (b1 >>> 5) &&& 0x07 = UInt8.ofNat (b1.toNat / 32) :=
    forall_byte (P := fun b => (b >>> 5) &&& 0x07 = UInt8.ofNat (b.toNat / 32)) (by decide +kernel) b1
  have hor : ∀ x < 4, ∀ y < 8, (UInt8.ofNat (x * 8) ||| UInt8.ofNat y) + 64 = UInt8.ofNat (64 + (x * 8 + y)) := by
    decide
  have hmid := hor (b0.toNat % 4) (Nat.mod_lt _ (by decide)) (b1.toNat / 32) (by omega)
  simp only [map_cons, map_nil, hfirst, hmiddle, hlast, hhigh, hlow, hleft, hright, hmid]

theorem getEdidMfgIdInBuffer_eq (edidbytes : EdidBlock) :
    getEdidMfgIdInBuffer edidbytes.bytes = .ok (edidbytes.mfgLetters ++ [0]) := by
  rw [getEdidMfgIdInBuffer, fetch_byte edidbytes (by decide), ok_bind, fetch_byte edidbytes (by decide),
    ok_bind, parseMfgIdInBuffer_eq]

theorem holdsString_mfgLetters (edidbytes : EdidBlock) :
    HoldsString (edidbytes.mfgLetters ++ [0]) edidbytes.mfgLetters := by
  refine ⟨mem_zero_append _ [], cstr_append ?_ [], ?_⟩
  · rw [← parseMfgIdInBuffer_eq]; exact mfgId_no_nul _ _
  · rw [EdidBlock.mfgLetters, length_map]; decide

theorem toNat_tenBits {h l mask : Byte} {shift : Nat}
    (hbits : (l &&& mask).toNat >>> shift = l.toNat / 2 ^ shift % 4) :
    (UInt16.ofNat (h.toNat <<< 2 ||| (l &&& mask).toNat >>> shift)).toNat = 4 * h.toNat + l.toNat / 2 ^ shift % 4 := by
  have hlt : l.toNat / 2 ^ shift % 4 < 2 ^ 2 := Nat.mod_lt _ (by decide)
  have hh := h.toNat_lt
  rw [hbits, ← Nat.shiftLeft_add_eq_or_of_lt hlt, Nat.shiftLeft_eq, UInt16.toNat_ofNat', Nat.mod_eq_of_lt (by omega),
    Nat.mul_comm]

section
variable (edidbytes : EdidBlock)

theorem tenBits_eq {high low : Nat} (hhigh : high < 128) (hlow : low < 128) {mask : Byte} {shift : Nat}
    (hbits : ∀ n : Fin 256, (UInt8.ofNat n.val &&& mask).toNat >>> shift = (UInt8.ofNat n.val).toNat / 2 ^ shift % 4) :
    ∃ x, tenBits edidbytes.bytes high low mask shift = .ok x ∧ x.toNat = edidbytes.coordinate high low shift := by
  have hbyte := forall_byte (P := fun l => (l &&& mask).toNat >>> shift = l.toNat / 2 ^ shift % 4) hbits
  refine ⟨_, ?_, toNat_tenBits (hbyte (edidbytes.byte low))⟩
  rw [tenBits, fetch_byte edidbytes hhigh, ok_bind, fetch_byte edidbytes hlow]; rfl

theorem tenBitsTimesFour_eq :
    ∃ x, tenBitsTimesFour edidbytes.bytes 0x22 0x1a 0x03 0 = .ok x ∧ x.toNat = edidbytes.coordinate 0x22 0x1a 0 := by
  have hbyte : ∀ l : Byte, (l &&& 0x03).toNat >>> 0 = l.toNat / 2 ^ 0 % 4 :=
    forall_byte (P := fun l => (l &&& 0x03).toNat >>> 0 = l.toNat / 2 ^ 0 % 4) (by decide +kernel)
  refine ⟨UInt16.ofNat ((edidbytes.byte 0x22).toNat * 4 + (edidbytes.byte 0x1a &&& 0x03).toNat >>> 0), ?_, ?_⟩
  · rw [tenBitsTimesFour, fetch_byte edidbytes (by decide), ok_bind, fetch_byte edidbytes (by decide)]
    rfl
  · have hh := (edidbytes.byte 0x22).toNat_lt
    rw [hbyte, UInt16.toNat_ofNat', Nat.mod_eq_of_lt (by omega), Nat.mul_comm]; rfl

theorem edidProductCode_eq :
    ∃ x, edidProductCode edidbytes.bytes = .ok x ∧
      x.toNat = littleEndian [edidbytes.byte 0x0a, edidbytes.byte 0x0b] := by
  refine ⟨UInt16.ofNat ((edidbytes.byte 0x0b).toNat <<< 8 ||| (edidbytes.byte 0x0a).toNat), ?_, ?_⟩
  · rw [edidProductCode, fetch_byte edidbytes (by decide), ok_bind, fetch_byte edidbytes (by decide)]
    rfl
  · have hvalue : (edidbytes.byte 0x0b).toNat <<< 8 ||| (edidbytes.byte 0x0a).toNat =
        littleEndian [edidbytes.byte 0x0a, edidbytes.byte 0x0b] := by
      rw [or_byte, littleEndian_cons, littleEndian_cons, littleEndian_nil, Nat.mul_zero, Nat.add_zero]
    have hlt : littleEndian [edidbytes.byte 0x0a, edidbytes.byte 0x0b] < 2 ^ 16 := by
      simpa using littleEndian_lt [edidbytes.byte 0x0a, edidbytes.byte 0x0b]
    rw [hvalue, UInt16.toNat_ofNat']; exact Nat.mod_eq_of_lt hlt

theorem edidSerialBinary_eq :
    ∃ x, edidSerialBinary edidbytes.bytes = .ok x ∧
      x.toNat =
      littleEndian [edidbytes.byte 0x0c, edidbytes.byte 0x0d, edidbytes.byte 0x0e, edidbytes.byte 0x0f] := by
  refine ⟨UInt32.ofNat ((edidbytes.byte 0x0c).toNat ||| (edidbytes.byte 0x0d).toNat <<< 8 |||
    (edidbytes.byte 0x0e).toNat <<< 16 ||| (edidbytes.byte 0x0f).toNat <<< 24), ?_, ?_⟩
  · rw [edidSerialBinary, fetch_byte edidbytes (by decide), ok_bind, fetch_byte edidbytes (by decide),
      ok_bind, fetch_byte edidbytes (by decide), ok_bind, fetch_byte edidbytes (by decide)]
    rfl
  · generalize edidbytes.byte 0x0c = b0
    generalize edidbytes.byte 0x0d = b1
    generalize edidbytes.byte 0x0e = b2
    generalize edidbytes.byte 0x0f = b3
    have hturned : b0.toNat ||| b1.toNat <<< 8 ||| b2.toNat <<< 16 ||| b3.toNat <<< 24 =
        b3.toNat <<< 24 ||| b2.toNat <<< 16 ||| b1.toNat <<< 8 ||| b0.toNat := by
      rw [Nat.or_comm, Nat.or_comm _ (b2.toNat <<< 16), Nat.or_comm b0.toNat, ← Nat.or_assoc,
        ← Nat.or_assoc]
    have hlt : littleEndian [b0, b1, b2, b3] < 2 ^ 32 := by simpa using littleEndian_lt [b0, b1, b2, b3]
    rw [hturned, or_shiftLeft_eq_littleEndian, UInt32.toNat_ofNat']; exact Nat.mod_eq_of_lt hlt

end

/-! ## Header and checksum -/

theorem toNat_foldl_add (bytes : List Byte) (checksum : Byte) :
    (bytes.foldl (· + ·) checksum).toNat = (checksum.toNat + (bytes.map UInt8.toNat).sum) % 256 := by
  induction bytes generalizing checksum with
  | nil =>
    exact (Nat.mod_eq_of_lt checksum.toNat_lt).symm
  | cons b bytes ih =>
    rw [foldl_cons, ih, UInt8.toNat_add, map_cons, sum_cons, Nat.mod_add_mod, Nat.add_assoc]

theorem edidChecksum_eq (edidbytes : EdidBlock) : edidChecksum edidbytes.bytes = .ok edidbytes.checksum := by
  have hfold : ∀ n ≤ 128, (List.range n).foldlM (fun checksum ndx => (checksum + ·) <$> fetch edidbytes.bytes ndx) 0 =
      .ok ((edidbytes.bytes.take n).foldl (· + ·) 0) := by
    intro n
    induction n with
    | zero => exact fun _ => rfl
    | succ n ih =>
      intro hn
      have hlt : n < edidbytes.bytes.length := edidbytes.size.symm ▸ hn
      rw [range_succ, foldlM_append, ih (Nat.le_of_succ_le hn), ok_bind, foldlM_cons,
        fetch_of_lt hlt, ok_map, ok_bind, take_succ_eq_append_getElem hlt, foldl_append]
      rfl
  have hall := hfold 128 (Nat.le_refl 128)
  rwa [take_of_length_le (Nat.le_of_eq edidbytes.size)] at hall

theorem checksum_eq_zero_iff (edidbytes : EdidBlock) :
    edidbytes.checksum = 0 ↔ (edidbytes.bytes.map UInt8.toNat).sum % 256 = 0 := by
  rw [← UInt8.toNat_inj, EdidBlock.checksum, toNat_foldl_add]
  show (0 + _) % 256 = 0 ↔ _
  rw [Nat.zero_add]

theorem isValidEdidHeader_eq (edidbytes : EdidBlock) :
    isValidEdidHeader edidbytes.bytes = .ok (edidbytes.bytes.take 8 == edidHeaderTag) := by
  have hle : 0 + 8 ≤ edidbytes.bytes.length := by rw [edidbytes.size]; decide
  rw [isValidEdidHeader, span_of_le hle]; rfl

/-! ## The record -/

theorem fillEdidRecord_eq (edidbytes : EdidBlock) :
    ∃ r, fillEdidRecord edidbytes.bytes = .ok r ∧ r.Documents edidbytes := by
  have hspan : span edidbytes.bytes 0 128 = .ok edidbytes.bytes := by
    have hle : 0 + 128 ≤ edidbytes.bytes.length := Nat.le_of_eq edidbytes.size.symm
    rw [span_of_le hle, drop_zero, take_of_length_le (Nat.le_of_eq edidbytes.size)]
  obtain ⟨productCode, hcode, hcodeValue⟩ := edidProductCode_eq edidbytes
  obtain ⟨serialBinary, hserial, hserialValue⟩ := edidSerialBinary_eq edidbytes
  obtain ⟨strings, hstrings, hname, hsn, hother⟩ := fillDescriptorBuffers_eq edidbytes
  have hbytes : ∀ {i : Nat}, i < 128 → fetch edidbytes.bytes i = .ok (edidbytes.byte i) := fetch_byte edidbytes
  obtain ⟨rx, hrx, hrxValue⟩ : ∃ x, tenBits edidbytes.bytes 0x1b 0x19 0xc0 6 = .ok x ∧ _ :=
    tenBits_eq edidbytes (by decide) (by decide) (by decide +kernel)
  obtain ⟨ry, hry, hryValue⟩ : ∃ x, tenBits edidbytes.bytes 0x1c 0x19 0x30 4 = .ok x ∧ _ :=
    tenBits_eq edidbytes (by decide) (by decide) (by decide +kernel)
  obtain ⟨gx, hgx, hgxValue⟩ : ∃ x, tenBits edidbytes.bytes 0x1d 0x19 0x0c 2 = .ok x ∧ _ :=
    tenBits_eq edidbytes (by decide) (by decide) (by decide +kernel)
  obtain ⟨gy, hgy, hgyValue⟩ : ∃ x, tenBits edidbytes.bytes 0x1e 0x19 0x03 0 = .ok x ∧ _ :=
    tenBits_eq edidbytes (by decide) (by decide) (by decide +kernel)
  obtain ⟨bx, hbx, hbxValue⟩ : ∃ x, tenBits edidbytes.bytes 0x1f 0x1a 0xc0 6 = .ok x ∧ _ :=
    tenBits_eq edidbytes (by decide) (by decide) (by decide +kernel)
  obtain ⟨by_, hby, hbyValue⟩ : ∃ x, tenBits edidbytes.bytes 0x20 0x1a 0x30 4 = .ok x ∧ _ :=
    tenBits_eq edidbytes (by decide) (by decide) (by decide +kernel)
  obtain ⟨wx, hwx, hwxValue⟩ : ∃ x, tenBits edidbytes.bytes 0x21 0x1a 0x0c 2 = .ok x ∧ _ :=
    tenBits_eq edidbytes (by decide) (by decide) (by decide +kernel)
  obtain ⟨wy, hwy, hwyValue⟩ := tenBitsTimesFour_eq edidbytes
  rw [fillEdidRecord, hspan, ok_bind, getEdidMfgIdInBuffer_eq, ok_bind, hcode, ok_bind, hserial,
    ok_bind, hstrings, ok_bind, hbytes (by decide), ok_bind, hbytes (by decide), ok_bind,
    hbytes (by decide), ok_bind, hbytes (by decide), ok_bind, hrx, ok_bind, hry, ok_bind, hgx,
    ok_bind, hgy, ok_bind, hbx, ok_bind, hby, ok_bind, hwx, ok_bind, hwy, ok_bind,
    hbytes (by decide), ok_bind, hbytes (by decide), ok_bind, hbytes (by decide), ok_bind]
  exact ⟨_, rfl, {
    marker := rfl
    bytes := rfl
    mfgId := holdsString_mfgLetters edidbytes
    modelName := hname
    serialAscii := hsn
    extraDescriptorString := hother
    productCode := hcodeValue
    serialBinary := hserialValue
    year := rfl
    isModelYear := beq_iff_eq
    manufactureWeek := rfl
    edidVersionMajor := rfl
    edidVersionMinor := rfl
    rx := hrxValue
    ry := hryValue
    gx := hgxValue
    gy := hgyValue
    bx := hbxValue
    by_ := hbyValue
    wx := hwxValue
    wy := hwyValue
    videoInputDefinition := rfl
    supportedFeatures := rfl
    extensionFlag := rfl }⟩

theorem createParsedEdidRecord_of_valid {edidbytes : EdidBlock} (h : edidbytes.Valid) :
    createParsedEdidRecord edidbytes.bytes = some <$> fillEdidRecord edidbytes.bytes := by
  obtain ⟨hheader, hsum⟩ := h
  have hchecksum := (checksum_eq_zero_iff edidbytes).2 hsum
  rw [createParsedEdidRecord, isValidEdidHeader_eq, ok_bind, if_pos (beq_iff_eq.2 hheader), edidChecksum_eq,
    ok_bind, if_pos hchecksum]

theorem createParsedEdidRecord_of_not_valid {edidbytes : EdidBlock} (h : ¬ edidbytes.Valid) :
    createParsedEdidRecord edidbytes.bytes = .ok none := by
  rw [createParsedEdidRecord, isValidEdidHeader_eq, ok_bind]
  by_cases hheader : (edidbytes.bytes.take 8 == edidHeaderTag) = true
  · have hchecksum : edidbytes.checksum ≠ 0 := fun hzero =>
      h ⟨beq_iff_eq.1 hheader, (checksum_eq_zero_iff edidbytes).1 hzero⟩
    rw [if_pos hheader, edidChecksum_eq, ok_bind, if_neg hchecksum]
  · exact if_neg hheader

/-- **Every block is parsed within its bounds**: there is no record exactly where the header or the checksum is wrong,
a record says what the block says, and its copy is the same whatever its source. -/
theorem createParsedEdid_documents (edidbytes : EdidBlock) :
    ∃ parsed, createParsedEdidRecord edidbytes.bytes = .ok parsed ∧ (parsed = none ↔ ¬ edidbytes.Valid) ∧
      ∀ r, parsed = some r → r.Documents edidbytes ∧ ∀ source,
        copyParsedEdid (some { r with edidSource := source }) = .ok (some { r with edidSource := source }) := by
  by_cases h : edidbytes.Valid
  · obtain ⟨r, hfill, hdocuments⟩ := fillEdidRecord_eq edidbytes
    have hcreate : createParsedEdidRecord edidbytes.bytes = .ok (some r) := by
      rw [createParsedEdidRecord_of_valid h, hfill]; rfl
    refine ⟨some r, hcreate, iff_of_false (Option.some_ne_none r) (not_not_intro h), ?_⟩
    rintro r' ⟨⟩
    refine ⟨hdocuments, fun source => ?_⟩
    have hagain : createParsedEdidRecord ({ r with edidSource := source } : EdidRecord).bytes = .ok (some r) := by
      rw [hdocuments.bytes, hcreate]
    rw [copyParsedEdid, hagain]; rfl
  · refine ⟨none, createParsedEdidRecord_of_not_valid h, iff_of_true rfl h, ?_⟩
    intro r hr; cases hr

end Ddc
