import Ddcutil.StringUtil
/-!
# Edid — the identification in an EDID

`create_parsed_edid`, as far as it names the monitor: the manufacturer in two bytes, the product code, and the model
name and the serial number in descriptors of at most 13 characters.  A descriptor that is missing leaves its string
empty.
-/
namespace Ddc

open Kit List

structure EdidBlock where
  bytes : List Byte
  size : bytes.length = 128

namespace EdidBlock

def byte (edidbytes : EdidBlock) (i : Nat) : Byte := edidbytes.bytes.getD i 0

def checksum (edidbytes : EdidBlock) : Byte := edidbytes.bytes.foldl (· + ·) 0

def isValidHeader (edidbytes : EdidBlock) : Bool :=
  edidbytes.bytes.take 8 == [0x00, 0xff, 0xff, 0xff, 0xff, 0xff, 0xff, 0x00]

def descriptor (edidbytes : EdidBlock) (descriptorNdx : Nat) : List Byte :=
  (edidbytes.bytes.drop (54 + descriptorNdx * 18)).take 18

end EdidBlock

def parseMfgIdInBuffer (b0 b1 : Byte) : List Byte :=
  [((b0 >>> 2) &&& 0x1f) + 64, (((b0 &&& 0x03) <<< 3) ||| ((b1 >>> 5) &&& 0x07)) + 64, (b1 &&& 0x1f) + 64]

/-! ## Descriptors -/

structure DescriptorStrings where
  name : List Byte
  sn : List Byte
  other : List Byte

/-- The text of a descriptor: up to a line feed, a C string, without the white space at its end. -/
def descriptorText (descriptor : List Byte) : List Byte :=
  rtrimInPlace (cstr (((descriptor.drop 5).take 13).takeWhile (· != newline)))

def descriptorTurn (strings : DescriptorStrings) (descriptor : List Byte) : DescriptorStrings :=
  if descriptor.getD 0 0 = 0 ∧ descriptor.getD 1 0 = 0 ∧ descriptor.getD 2 0 = 0 ∧ descriptor.getD 4 0 = 0 then
    if descriptor.getD 3 0 = 0xff then { strings with sn := descriptorText descriptor }
    else if descriptor.getD 3 0 = 0xfe then { strings with other := descriptorText descriptor }
    else if descriptor.getD 3 0 = 0xfc then { strings with name := descriptorText descriptor }
    else strings
  else strings

def getEdidDescriptorStrings (edidbytes : EdidBlock) : DescriptorStrings :=
  ((List.range 4).map edidbytes.descriptor).foldl descriptorTurn ⟨[], [], []⟩

structure ParsedEdid where
  bytes : EdidBlock
  mfgId : List Byte
  productCode : Nat
  modelName : List Byte
  serialAscii : List Byte
  extraDescriptorString : List Byte

def createParsedEdid (edidbytes : EdidBlock) : Option ParsedEdid :=
  if edidbytes.isValidHeader = true ∧ edidbytes.checksum = 0 then
    let strings := getEdidDescriptorStrings edidbytes
    some {
      bytes := edidbytes
      mfgId := parseMfgIdInBuffer (edidbytes.byte 8) (edidbytes.byte 9)
      productCode := (edidbytes.byte 0x0b).toNat * 256 + (edidbytes.byte 0x0a).toNat
      modelName := strings.name
      serialAscii := strings.sn
      extraDescriptorString := strings.other }
  else none

/-! ## What the strings look like -/

structure DescriptorText (s : List Byte) : Prop where
  length_le : s.length ≤ 13
  plain : ∀ c ∈ s, c ≠ newline ∧ c ≠ 0
  trimmed : rtrimInPlace s = s

theorem descriptorText_nil : DescriptorText [] := ⟨by decide, fun _ h => (nomatch h), rfl⟩

theorem descriptorText_descriptorText (descriptor : List Byte) : DescriptorText (descriptorText descriptor) := by
  refine ⟨?_, fun c hc => ?_, rdropWhile_idempotent ..⟩
  · refine Nat.le_trans ( rdropWhile_prefix isspace _).length_le ?_
    refine Nat.le_trans ( takeWhile_prefix _).length_le ?_
    refine Nat.le_trans ( takeWhile_prefix _).length_le ?_
    exact length_take_le 13 _
  · have hstr := mem_of_mem_rtrimInPlace hc
    have hnul : (c != 0) = true := mem_takeWhile_imp (p := fun b => b != 0) hstr
    have hnewline : (c != newline) = true :=
      mem_takeWhile_imp (p := fun b => b != newline) (( takeWhile_prefix _).subset hstr)
    exact ⟨bne_iff_ne.1 hnewline, bne_iff_ne.1 hnul⟩

theorem descriptorTurn_text {strings : DescriptorStrings} (hname : DescriptorText strings.name)
    (hsn : DescriptorText strings.sn) (descriptor : List Byte) :
    DescriptorText (descriptorTurn strings descriptor).name ∧ DescriptorText (descriptorTurn strings descriptor).sn := by
  have htext := descriptorText_descriptorText descriptor
  unfold descriptorTurn
  split_ifs
  · exact ⟨hname, htext⟩
  · exact ⟨hname, hsn⟩
  · exact ⟨htext, hsn⟩
  · exact ⟨hname, hsn⟩
  · exact ⟨hname, hsn⟩

theorem getEdidDescriptorStrings_text (edidbytes : EdidBlock) :
    DescriptorText (getEdidDescriptorStrings edidbytes).name ∧ DescriptorText (getEdidDescriptorStrings edidbytes).sn := by
  have hfold : ∀ (descriptors : List (List Byte)) (strings : DescriptorStrings), DescriptorText strings.name →
      DescriptorText strings.sn → DescriptorText (descriptors.foldl descriptorTurn strings).name ∧
        DescriptorText (descriptors.foldl descriptorTurn strings).sn := by
    intro descriptors
    induction descriptors with
    | nil => exact fun strings hname hsn => ⟨hname, hsn⟩
    | cons descriptor descriptors ih =>
      intro strings hname hsn
      obtain ⟨hname', hsn'⟩ := descriptorTurn_text hname hsn descriptor
      exact ih (descriptorTurn strings descriptor) hname' hsn'
  exact hfold _ _ descriptorText_nil descriptorText_nil

theorem mfgId_range (b0 b1 : Byte) : ∀ c ∈ parseMfgIdInBuffer b0 b1, ∃ n < 32, c = UInt8.ofNat n + 64 := by
  have hfive : ∀ b : Byte, b.toNat < 32 → ∃ n < 32, b + 64 = UInt8.ofNat n + 64 :=
    fun b hb => ⟨b.toNat, hb, by rw [UInt8.ofNat_toNat]⟩
  have hlow : ∀ b : Byte, (b &&& 0x1f).toNat < 32 := by
    intro b; exact Nat.and_lt_two_pow _ (n := 5) (by decide)
  have hmid : (((b0 &&& 0x03) <<< 3) ||| ((b1 >>> 5) &&& 0x07)).toNat < 32 := by
    apply Nat.or_lt_two_pow (n := 5)
    · have : b0.toNat &&& 3 < 2 ^ 2 := Nat.and_lt_two_pow _ (by decide)
      simp [Nat.shiftLeft_eq]
      omega
    · exact Nat.lt_trans (Nat.and_lt_two_pow _ (n := 3) (by decide)) (by decide)
  intro c hc
  simp only [parseMfgIdInBuffer, mem_cons, not_mem_nil, or_false] at hc
  rcases hc with rfl | rfl | rfl
  · exact hfive _ (hlow _)
  · exact hfive _ hmid
  · exact hfive _ (hlow _)

theorem mfgId_no_space (b0 b1 : Byte) : ∀ c ∈ parseMfgIdInBuffer b0 b1, isspace c = false := by
  have hall : ∀ n < 32, isspace (UInt8.ofNat n + 64) = false := by decide
  intro c hc
  obtain ⟨n, hn, rfl⟩ := mfgId_range b0 b1 c hc
  exact hall n hn

theorem mfgId_no_nul (b0 b1 : Byte) : ∀ c ∈ parseMfgIdInBuffer b0 b1, c ≠ 0 := by
  have hall : ∀ n < 32, UInt8.ofNat n + 64 ≠ 0 := by decide
  intro c hc
  obtain ⟨n, hn, rfl⟩ := mfgId_range b0 b1 c hc
  exact hall n hn

theorem createParsedEdid_eq_some {edidbytes : EdidBlock} {edid : ParsedEdid} (h : createParsedEdid edidbytes = some edid) :
    edid.bytes = edidbytes ∧ (edid.mfgId.length = 3 ∧ ∀ c ∈ edid.mfgId, isspace c = false) ∧
      edid.productCode < 0x10000 ∧ DescriptorText edid.modelName ∧ DescriptorText edid.serialAscii := by
  unfold createParsedEdid at h
  split at h
  · cases h
    obtain ⟨hname, hsn⟩ := getEdidDescriptorStrings_text edidbytes
    refine ⟨rfl, ⟨rfl, mfgId_no_space _ _⟩, ?_, hname, hsn⟩
    have hb := (edidbytes.byte 0x0b).toNat_lt
    have ha := (edidbytes.byte 0x0a).toNat_lt
    dsimp only; omega
  · cases h

end Ddc
