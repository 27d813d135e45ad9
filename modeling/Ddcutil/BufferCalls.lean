import Ddcutil.BusOpen
import Ddcutil.CapabilitiesCache
import Ddcutil.Dsa2
/-!
# BufferCalls — the buffer as its callers may use it

`Buffer` carries its invariant in its type; here the fields are the integers of the C structure, a size or a count may
be negative, and what keeps `0 <= len <= buffer_size` and the size within the allocation is to be found.
-/
namespace Ddc

open Kit List Exec

/-- The structure `Buffer`, and the memory that `bytes` points to: none where the pointer is `NULL`. -/
structure RawBuffer where
  bytes : List Byte
  len : Int
  bufferSize : Int
  sizeIncrement : UInt16

namespace RawBuffer

/-! ## The functions -/

def memcpy (mem : List Byte) (pos : Int) (src : List Byte) (n : Int) : Exec (List Byte) :=
  if pos < 0 ∨ n < 0 ∨ src.length < n then .error .outOfBounds else blit mem pos.toNat (src.take n.toNat)

def realloc (mem : List Byte) (size : Int) : List Byte :=
  if size < 0 then [] else mem.take size.toNat ++ malloc (size.toNat - mem.length)

def new (size : Int) : Exec RawBuffer := do
  let hackedSize ← intResult (size + 16)
  .ok { bytes := calloc hackedSize.toNat, len := 0, bufferSize := size, sizeIncrement := 0 }

def setSizeIncrement (buf : RawBuffer) (sizeIncrement : UInt16) : RawBuffer := { buf with sizeIncrement }

def setLength (buffer : RawBuffer) (bytect : Int) : Exec RawBuffer := do
  check (bytect ≤ buffer.bufferSize)
  .ok { buffer with len := bytect }

def put (buffer : RawBuffer) (bytes : List Byte) (bytect : Int) : Exec RawBuffer := do
  check (bytect ≤ buffer.bufferSize)
  let mem ← memcpy buffer.bytes 0 bytes bytect
  let len ← intResult (buffer.len + bytect)
  .ok { buffer with bytes := mem, len }

def setByte (buf : RawBuffer) (offset : Int) (byte : Byte) : Exec RawBuffer := do
  check (0 ≤ offset ∧ offset < buf.bufferSize)
  let mem ← store buf.bytes offset.toNat byte
  .ok { buf with bytes := mem }

def setBytes (buf : RawBuffer) (offset : Int) (bytes : List Byte) (bytect : Int) : Exec RawBuffer := do
  check (0 ≤ offset)
  let last ← intResult (offset + bytect)
  check (last ≤ buf.bufferSize)
  let mem ← memcpy buf.bytes offset bytes bytect
  .ok { buf with bytes := mem }

def extend (buf : RawBuffer) (addlSize : Int) : Exec RawBuffer := do
  let newSize ← intResult (buf.bufferSize + addlSize)
  .ok { buf with bytes := realloc buf.bytes newSize, bufferSize := newSize }

def resized (buffer : RawBuffer) (requiredSize : Int) : Exec RawBuffer :=
  if buffer.bufferSize < requiredSize ∧ 0 < buffer.sizeIncrement then do
    let larger ← intResult (buffer.bufferSize + buffer.sizeIncrement.toNat)
    buffer.extend (max requiredSize larger - buffer.bufferSize)
  else .ok buffer

def append (buffer : RawBuffer) (bytes : List Byte) (bytect : Int) : Exec RawBuffer := do
  let slack ← intResult (buffer.len + 2)
  let requiredSize ← intResult (slack + bytect)
  let buffer ← buffer.resized requiredSize
  check (requiredSize ≤ buffer.bufferSize)
  let mem ← memcpy buffer.bytes buffer.len bytes bytect
  let len ← intResult (buffer.len + bytect)
  .ok { buffer with bytes := mem, len }

def strcat (buffer : RawBuffer) (str : CString) : Exec RawBuffer :=
  let bytect := int32 (str.val.length + 1)
  if buffer.len = 0 then buffer.append (str.val ++ [0]) bytect
  else do
    let last ← if buffer.len < 1 then .error .outOfBounds else fetch buffer.bytes (buffer.len - 1).toNat
    check (last = 0)
    let buffer ← buffer.setLength (buffer.len - 1)
    buffer.append (str.val ++ [0]) bytect

def add (buffer : RawBuffer) (byte : Byte) : Exec RawBuffer := do
  let next ← intResult (buffer.len + 1)
  check (next ≤ buffer.bufferSize)
  let mem ← if buffer.len < 0 then .error .outOfBounds else store buffer.bytes buffer.len.toNat byte
  .ok { buffer with bytes := mem, len := next }

end RawBuffer

/-! ## The calls -/

inductive BufferOp where
  | setSizeIncrement (sizeIncrement : UInt16)
  | put (bytes : List Byte) (bytect : Int)
  | setLength (bytect : Int)
  | setByte (offset : Int) (byte : Byte)
  | setBytes (offset : Int) (bytes : List Byte) (bytect : Int)
  | append (bytes : List Byte) (bytect : Int)
  | strcat (str : CString)
  | add (byte : Byte)
  | extend (addlSize : Int)

def RawBuffer.apply (b : RawBuffer) : BufferOp → Exec RawBuffer
  | .setSizeIncrement sizeIncrement => .ok (b.setSizeIncrement sizeIncrement)
  | .put bytes bytect => b.put bytes bytect
  | .setLength bytect => b.setLength bytect
  | .setByte offset byte => b.setByte offset byte
  | .setBytes offset bytes bytect => b.setBytes offset bytes bytect
  | .append bytes bytect => b.append bytes bytect
  | .strcat str => b.strcat str
  | .add byte => b.add byte
  | .extend addlSize => b.extend addlSize

inductive BufferCall where
  | new (size : Int)
  | on (ndx : Nat) (op : BufferOp)

def onBuffer (buffers : List RawBuffer) (ndx : Nat) (op : BufferOp) : Exec (List RawBuffer) :=
  match buffers[ndx]? with
  | some b => (fun b' => buffers.set ndx b') <$> b.apply op
  | none => .ok buffers

def bufferStep (buffers : List RawBuffer) : BufferCall → Exec (List RawBuffer)
  | .new size => (fun b => buffers ++ [b]) <$> RawBuffer.new size
  | .on ndx op => onBuffer buffers ndx op

/-! ## What is promised -/

namespace RawBuffer

/-- **The invariant**: the length is within the size, and the size is allocated. -/
structure Sound (b : RawBuffer) : Prop where
  len_nonneg : 0 ≤ b.len
  len_le : b.len ≤ b.bufferSize
  size_le : b.bufferSize ≤ b.bytes.length

def contents (b : RawBuffer) : List Byte := b.bytes.take b.len.toNat

def Contains (b b' : RawBuffer) : BufferOp → Prop
  | .put bytes bytect => b'.contents = bytes.take bytect.toNat
  | .append bytes bytect => b'.contents = b.contents ++ bytes.take bytect.toNat
  | .add byte => b'.contents = b.contents ++ [byte]
  | _ => True

/-- **A call whose assertions pass** returns, keeps the invariant and makes the contents what it promises. -/
def OpRight (b : RawBuffer) (op : BufferOp) : Prop :=
  b.apply op = .error .assertFailed ∨ ∃ b', b.apply op = .ok b' ∧ b'.Sound ∧ b.Contains b' op

def Counts (bytes : List Byte) (bytect : Int) : Prop := 0 ≤ bytect ∧ bytect ≤ bytes.length

/-- Where an append is right: its sums are values of an `int`, and it is refused or its count is one. -/
structure AppendMeets (b : RawBuffer) (bytes : List Byte) (bytect : Int) : Prop where
  slack : isInt (b.len + 2)
  required : isInt (b.len + 2 + bytect)
  fits : b.len + 2 + bytect ≤ b.bufferSize → Counts bytes bytect
  grows : b.bufferSize < b.len + 2 + bytect → 0 < b.sizeIncrement →
    isInt (b.bufferSize + b.sizeIncrement.toNat) ∧ Counts bytes bytect

def StrcatMeets (b : RawBuffer) (str : CString) : Prop :=
  if b.len = 0 then b.AppendMeets (str.val ++ [0]) (int32 (str.val.length + 1))
  else b.bytes[(b.len - 1).toNat]? = some 0 →
    AppendMeets { b with len := b.len - 1 } (str.val ++ [0]) (int32 (str.val.length + 1))

def OpMeets (b : RawBuffer) : BufferOp → Prop
  | .setSizeIncrement _ => True
  | .put bytes bytect => bytect ≤ b.bufferSize → b.len = 0 ∧ isInt bytect ∧ Counts bytes bytect
  | .setLength bytect => 0 ≤ bytect ∨ b.bufferSize < bytect
  | .setByte _ _ => True
  | .setBytes offset bytes bytect =>
    0 ≤ offset → isInt (offset + bytect) ∧ (offset + bytect ≤ b.bufferSize → Counts bytes bytect)
  | .append bytes bytect => b.AppendMeets bytes bytect
  | .strcat str => b.StrcatMeets str
  | .add _ => isInt (b.len + 1)
  | .extend addlSize => isInt (b.bufferSize + addlSize) ∧ b.len ≤ b.bufferSize + addlSize

/-! ## What a call does to one buffer -/

theorem memcpy_of_counts {mem src : List Byte} {pos n : Int} (hpos : 0 ≤ pos) (hcounts : Counts src n)
    (hroom : pos + n ≤ mem.length) :
    memcpy mem pos src n = .ok (overwrite mem pos.toNat (src.take n.toNat)) ∧
      (overwrite mem pos.toNat (src.take n.toNat)).length = mem.length ∧
      (overwrite mem pos.toNat (src.take n.toNat)).take (pos + n).toNat = mem.take pos.toNat ++ src.take n.toNat := by
  obtain ⟨hn, hsrc⟩ := hcounts
  have hlength : (src.take n.toNat).length = n.toNat := by rw [length_take]; omega
  have hle : pos.toNat + (src.take n.toNat).length ≤ mem.length := by omega
  refine ⟨?_, length_overwrite hle, ?_⟩
  · rw [memcpy, if_neg (by omega), blit_of_le hle]
  · have htake := @take_overwrite _ mem (src.take n.toNat) pos.toNat (by omega)
    rw [← htake]
    congr 1
    omega

theorem memcpy_of_not {src : List Byte} {n : Int} (h : ¬ Counts src n) (mem : List Byte) (pos : Int) :
    memcpy mem pos src n = .error .outOfBounds := by
  unfold Counts at h; exact if_pos (by omega)

theorem intResult_of_not {n : Int} (h : ¬ isInt n) : intResult n = .error .outOfBounds := if_neg h

theorem length_realloc {mem : List Byte} {size : Int} (h : 0 ≤ size) : ((realloc mem size).length : Int) = size := by
  rw [realloc, if_neg (by omega), length_append, length_take, length_malloc]; omega

theorem take_realloc {mem : List Byte} {size : Int} {n : Nat} (h : (n : Int) ≤ size) (hmem : n ≤ mem.length) :
    (realloc mem size).take n = mem.take n := by
  rw [realloc, if_neg (by omega), take_append_of_le_length (by rw [length_take]; omega), take_take,
    Nat.min_eq_left (by omega)]

theorem length_contents {b : RawBuffer} (h : b.Sound) : (b.contents.length : Int) = b.len := by
  have h1 := h.len_nonneg
  have h2 := h.len_le
  have h3 := h.size_le
  rw [contents, length_take]; omega

section Op

variable {b b' : RawBuffer} {op : BufferOp}

theorem opRight_of_ok (h : b.apply op = .ok b') : b.OpRight op ↔ b'.Sound ∧ b.Contains b' op := by
  rw [OpRight, h]
  constructor
  · rintro (h' | ⟨b'', h', hright⟩)
    · exact absurd h' (ok_ne_error _ _)
    · cases h'; exact hright
  · exact fun hright => .inr ⟨b', rfl, hright⟩

theorem not_opRight_of_fault (h : b.apply op = .error .outOfBounds) : ¬ b.OpRight op := by
  rw [OpRight, h]
  rintro (h' | ⟨b'', h', -⟩)
  · cases h'
  · cases h'

theorem put_right_iff (hb : b.Sound) (bytes : List Byte) (bytect : Int) :
    b.OpRight (.put bytes bytect) ↔ b.OpMeets (.put bytes bytect) := by
  have hsize := hb.size_le
  have hput : b.apply (.put bytes bytect) = b.put bytes bytect := rfl
  by_cases hle : bytect ≤ b.bufferSize
  · by_cases hcounts : Counts bytes bytect
    · obtain ⟨hcopy, hlength, htake⟩ := @memcpy_of_counts b.bytes bytes 0 bytect (Int.le_refl 0) hcounts (by omega)
      by_cases hint : isInt (b.len + bytect)
      · have hok : b.apply (.put bytes bytect) = .ok { b with
            bytes := overwrite b.bytes (Int.toNat 0) (bytes.take bytect.toNat), len := b.len + bytect } := by
          rw [hput, put, check_pos hle, ok_bind, hcopy, ok_bind, intResult_pos hint, ok_bind]
        rw [opRight_of_ok hok]
        constructor
        · rintro ⟨hsound, hcontents⟩ -
          have hlength' := length_contents hsound
          rw [show contents _ = bytes.take bytect.toNat from hcontents, length_take] at hlength'
          have hcount := hcounts.1
          have hroom := hcounts.2
          have hzero : b.len = 0 := by
            change _ = b.len + bytect at hlength'
            omega
          rw [hzero, Int.zero_add] at hint; exact ⟨hzero, hint, hcounts⟩
        · intro hmeets
          have hzero := (hmeets hle).1
          have hcount := hcounts.1
          refine ⟨⟨?_, ?_, ?_⟩, ?_⟩
          · change 0 ≤ b.len + bytect
            omega
          · change b.len + bytect ≤ b.bufferSize
            omega
          · rw [hlength]; exact hsize
          · change (overwrite _ _ _).take (b.len + bytect).toNat = _
            rw [hzero, htake]; rfl
      · have hfault : b.apply (.put bytes bytect) = .error .outOfBounds := by
          rw [hput, put, check_pos hle, ok_bind, hcopy, ok_bind, intResult_of_not hint]; rfl
        refine ⟨fun h => absurd h (not_opRight_of_fault hfault), fun hmeets => ?_⟩
        obtain ⟨hzero, hint', -⟩ := hmeets hle
        rw [hzero, Int.zero_add] at hint; exact absurd hint' hint
    · have hfault : b.apply (.put bytes bytect) = .error .outOfBounds := by
        rw [hput, put, check_pos hle, ok_bind, memcpy_of_not hcounts]; rfl
      exact ⟨fun h => absurd h (not_opRight_of_fault hfault), fun hmeets => absurd (hmeets hle).2.2 hcounts⟩
  · refine ⟨fun _ h => absurd h hle, fun _ => .inl ?_⟩
    rw [hput, put, check_neg hle]; rfl

theorem setLength_right_iff (hb : b.Sound) (bytect : Int) :
    b.OpRight (.setLength bytect) ↔ b.OpMeets (.setLength bytect) := by
  have hset : b.apply (.setLength bytect) = b.setLength bytect := rfl
  by_cases hle : bytect ≤ b.bufferSize
  · have hok : b.apply (.setLength bytect) = .ok { b with len := bytect } := by
      rw [hset, setLength, check_pos hle, ok_bind]
    rw [opRight_of_ok hok]
    constructor
    · exact fun h => .inl h.1.len_nonneg
    · rintro (h | h)
      · exact ⟨⟨h, hle, hb.size_le⟩, trivial⟩
      · exact absurd hle (Int.not_le.2 h)
  · refine ⟨fun _ => .inr (Int.not_le.1 hle), fun _ => .inl ?_⟩
    rw [hset, setLength, check_neg hle]; rfl

theorem setByte_right (hb : b.Sound) (offset : Int) (byte : Byte) : b.OpRight (.setByte offset byte) := by
  have hset : b.apply (.setByte offset byte) = b.setByte offset byte := rfl
  have hsize := hb.size_le
  by_cases hin : 0 ≤ offset ∧ offset < b.bufferSize
  · refine .inr ⟨{ b with bytes := b.bytes.set offset.toNat byte }, ?_, ⟨hb.len_nonneg, hb.len_le, ?_⟩, trivial⟩
    · rw [hset, setByte, check_pos hin, ok_bind, store_of_lt (by omega), ok_bind]
    · rw [length_set]; exact hsize
  · refine .inl ?_
    rw [hset, setByte, check_neg hin]; rfl

theorem setBytes_right_iff (hb : b.Sound) (offset : Int) (bytes : List Byte) (bytect : Int) :
    b.OpRight (.setBytes offset bytes bytect) ↔ b.OpMeets (.setBytes offset bytes bytect) := by
  have hset : b.apply (.setBytes offset bytes bytect) = b.setBytes offset bytes bytect := rfl
  have hsize := hb.size_le
  by_cases hoffset : 0 ≤ offset
  · by_cases hint : isInt (offset + bytect)
    · by_cases hle : offset + bytect ≤ b.bufferSize
      · by_cases hcounts : Counts bytes bytect
        · obtain ⟨hcopy, hlength, -⟩ := @memcpy_of_counts b.bytes bytes offset bytect hoffset hcounts (by omega)
          refine ⟨fun _ _ => ⟨hint, fun _ => hcounts⟩, fun _ => .inr
            ⟨{ b with bytes := overwrite b.bytes offset.toNat (bytes.take bytect.toNat) }, ?_,
              ⟨hb.len_nonneg, hb.len_le, ?_⟩, trivial⟩⟩
          · rw [hset, setBytes, check_pos hoffset, ok_bind, intResult_pos hint, ok_bind, check_pos hle,
              ok_bind, hcopy, ok_bind]
          · rw [hlength]; exact hsize
        · have hfault : b.apply (.setBytes offset bytes bytect) = .error .outOfBounds := by
            rw [hset, setBytes, check_pos hoffset, ok_bind, intResult_pos hint, ok_bind, check_pos hle,
              ok_bind, memcpy_of_not hcounts]
            rfl
          exact ⟨fun h => absurd h (not_opRight_of_fault hfault), fun h => absurd ((h hoffset).2 hle) hcounts⟩
      · refine ⟨fun _ _ => ⟨hint, fun h => absurd h hle⟩, fun _ => .inl ?_⟩
        rw [hset, setBytes, check_pos hoffset, ok_bind, intResult_pos hint, ok_bind, check_neg hle]
        rfl
    · have hfault : b.apply (.setBytes offset bytes bytect) = .error .outOfBounds := by
        rw [hset, setBytes, check_pos hoffset, ok_bind, intResult_of_not hint]; rfl
      exact ⟨fun h => absurd h (not_opRight_of_fault hfault), fun h => absurd (h hoffset).1 hint⟩
  · refine ⟨fun _ h => absurd h hoffset, fun _ => .inl ?_⟩
    rw [hset, setBytes, check_neg hoffset]; rfl

/-! ## An append -/

theorem copy_behind (hb : b.Sound) {bytes : List Byte} {bytect : Int} (hcounts : Counts bytes bytect)
    (hroom : b.len + 2 + bytect ≤ b.bufferSize) (hint : isInt (b.len + bytect)) :
    ∃ b', (do
        let mem ← memcpy b.bytes b.len bytes bytect
        let len ← intResult (b.len + bytect)
        .ok { b with bytes := mem, len } : Exec RawBuffer) = .ok b' ∧
      b'.Sound ∧ b'.contents = b.contents ++ bytes.take bytect.toNat := by
  have hlow := hb.len_nonneg
  have hsize := hb.size_le
  have hcount := hcounts.1
  obtain ⟨hcopy, hlength, htake⟩ := @memcpy_of_counts b.bytes bytes b.len bytect hlow hcounts (by omega)
  refine ⟨{ b with bytes := overwrite b.bytes b.len.toNat (bytes.take bytect.toNat), len := b.len + bytect }, ?_,
    ⟨?_, ?_, ?_⟩, htake⟩
  · rw [hcopy, ok_bind, intResult_pos hint, ok_bind]
  · change 0 ≤ b.len + bytect
    omega
  · change b.len + bytect ≤ b.bufferSize
    omega
  · rw [hlength]; exact hsize

theorem resized_grows (hb : b.Sound) {required : Int} (hlt : b.bufferSize < required) (hinc : 0 < b.sizeIncrement)
    (hrequired : isInt required) (hlarger : isInt (b.bufferSize + b.sizeIncrement.toNat)) :
    ∃ b', b.resized required = .ok b' ∧ b'.Sound ∧ b'.contents = b.contents ∧ b'.len = b.len ∧ required ≤ b'.bufferSize := by
  have hlow := hb.len_nonneg
  have hlen := hb.len_le
  have hsize := hb.size_le
  have hnew : isInt (max required (b.bufferSize + b.sizeIncrement.toNat)) := by
    rcases Int.le_total required (b.bufferSize + b.sizeIncrement.toNat) with h | h
    · rw [Int.max_eq_right h]; exact hlarger
    · rw [Int.max_eq_left h]; exact hrequired
  have hge : required ≤ max required (b.bufferSize + b.sizeIncrement.toNat) := Int.le_max_left _ _
  generalize hsum : max required (b.bufferSize + b.sizeIncrement.toNat) = newSize at hnew hge
  have hnonneg : 0 ≤ newSize := by omega
  have hkept : (b.len.toNat : Int) ≤ newSize := by omega
  have hin : b.len.toNat ≤ b.bytes.length := by omega
  refine ⟨{ b with bytes := realloc b.bytes newSize, bufferSize := newSize }, ?_, ⟨hlow, ?_, ?_⟩, ?_, rfl, hge⟩
  · unfold resized extend
    rw [if_pos ⟨hlt, hinc⟩, intResult_pos hlarger, ok_bind, hsum,
      show b.bufferSize + (newSize - b.bufferSize) = newSize by omega, intResult_pos hnew, ok_bind]
  · change b.len ≤ newSize
    omega
  · exact Int.le_of_eq (length_realloc hnonneg).symm
  · exact take_realloc hkept hin

theorem append_of_meets (hb : b.Sound) {bytes : List Byte} {bytect : Int} (h : b.AppendMeets bytes bytect) :
    b.append bytes bytect = .error .assertFailed ∨ ∃ b', b.append bytes bytect = .ok b' ∧ b'.Sound ∧
      b'.contents = b.contents ++ bytes.take bytect.toNat := by
  have hlow := hb.len_nonneg
  have hmin : intMin = -2147483648 := by decide
  have hsum : Counts bytes bytect → isInt (b.len + bytect) := by
    intro hcounts
    have hcount := hcounts.1
    have hmax := h.required.2
    exact ⟨by omega, by omega⟩
  rw [append, intResult_pos h.slack, ok_bind, intResult_pos h.required, ok_bind]
  by_cases hle : b.len + 2 + bytect ≤ b.bufferSize
  · right
    have hkept : b.resized (b.len + 2 + bytect) = .ok b := if_neg (by omega)
    rw [hkept, ok_bind, check_pos hle, ok_bind]
    exact copy_behind hb (h.fits hle) hle (hsum (h.fits hle))
  · by_cases hinc : 0 < b.sizeIncrement
    · right
      obtain ⟨hlarger, hcounts⟩ := h.grows (by omega) hinc
      obtain ⟨b₁, hgrown, hsound, hcontents, hlen₁, hroom⟩ := resized_grows hb (by omega) hinc h.required hlarger
      rw [hgrown, ok_bind, check_pos hroom, ok_bind, ← hcontents]
      rw [← hlen₁] at hroom hsum; exact copy_behind hsound hcounts hroom (hsum hcounts)
    · left
      have hkept : b.resized (b.len + 2 + bytect) = .ok b := if_neg fun h => hinc h.2
      rw [hkept, ok_bind, check_neg hle]; rfl

theorem append_of_not_meets {bytes : List Byte} {bytect : Int} (h : ¬ b.AppendMeets bytes bytect) (hb : b.Sound) :
    b.append bytes bytect = .error .outOfBounds := by
  unfold append
  by_cases hslack : isInt (b.len + 2)
  · rw [intResult_pos hslack, ok_bind]
    by_cases hrequired : isInt (b.len + 2 + bytect)
    · rw [intResult_pos hrequired, ok_bind]
      by_cases hle : b.len + 2 + bytect ≤ b.bufferSize
      · have hkept : b.resized (b.len + 2 + bytect) = .ok b := if_neg (by omega)
        have hcounts : ¬ Counts bytes bytect := fun hcounts =>
          h ⟨hslack, hrequired, fun _ => hcounts, fun hlt => absurd hle (Int.not_le.2 hlt)⟩
        rw [hkept, ok_bind, check_pos hle, ok_bind, memcpy_of_not hcounts]; rfl
      · by_cases hinc : 0 < b.sizeIncrement
        · by_cases hlarger : isInt (b.bufferSize + b.sizeIncrement.toNat)
          · obtain ⟨b₁, hgrown, -, -, hlen₁, hroom⟩ := resized_grows hb (by omega) hinc hrequired hlarger
            have hcounts : ¬ Counts bytes bytect := fun hcounts =>
              h ⟨hslack, hrequired, fun hle' => absurd hle' hle, fun _ _ => ⟨hlarger, hcounts⟩⟩
            rw [hgrown, ok_bind, check_pos hroom, ok_bind, memcpy_of_not hcounts]; rfl
          · rw [resized, if_pos ⟨by omega, hinc⟩, intResult_of_not hlarger]; rfl
        · exact absurd ⟨hslack, hrequired, fun hle' => absurd hle' hle, fun _ hinc' => absurd hinc' hinc⟩ h
    · rw [intResult_of_not hrequired]; rfl
  · rw [intResult_of_not hslack]; rfl

theorem append_right_iff (hb : b.Sound) (bytes : List Byte) (bytect : Int) :
    b.OpRight (.append bytes bytect) ↔ b.OpMeets (.append bytes bytect) := by
  refine ⟨fun h => ?_, fun h => append_of_meets hb h⟩
  by_contra hmeets
  exact @not_opRight_of_fault b (.append bytes bytect) (append_of_not_meets hmeets hb) h

/-! ## The other calls -/

theorem strcat_right_iff (hb : b.Sound) (str : CString) : b.OpRight (.strcat str) ↔ b.OpMeets (.strcat str) := by
  have hlow := hb.len_nonneg
  have hlen := hb.len_le
  have hsize := hb.size_le
  have hstr : b.apply (.strcat str) = b.strcat str := rfl
  -- the append is all that is left to do, on the buffer without its NUL
  have hrest : ∀ b₁ : RawBuffer, b₁.Sound →
      b.apply (.strcat str) = b₁.append (str.val ++ [0]) (int32 (str.val.length + 1)) →
      (b.OpRight (.strcat str) ↔ b₁.AppendMeets (str.val ++ [0]) (int32 (str.val.length + 1))) := by
    intro b₁ hb₁ heq
    constructor
    · intro h
      by_contra hmeets
      exact not_opRight_of_fault (heq.trans (append_of_not_meets hmeets hb₁)) h
    · intro hmeets
      rw [OpRight, heq]
      rcases append_of_meets hb₁ hmeets with h | ⟨b', h, hsound, -⟩
      · exact .inl h
      · exact .inr ⟨b', h, hsound, trivial⟩
  change _ ↔ b.StrcatMeets str
  unfold StrcatMeets
  by_cases hzero : b.len = 0
  · rw [if_pos hzero]; exact hrest b hb (by rw [hstr, strcat, if_pos hzero])
  · rw [if_neg hzero]
    have hin : (b.len - 1).toNat < b.bytes.length := by omega
    have hfetch : b.strcat str = (do
        check (b.bytes[(b.len - 1).toNat] = 0)
        let buffer ← b.setLength (b.len - 1)
        buffer.append (str.val ++ [0]) (int32 (str.val.length + 1))) := by
      rw [strcat, if_neg hzero, if_neg (by omega), fetch_of_lt hin]; rfl
    rw [getElem?_eq_getElem hin, Option.some.injEq]
    by_cases hlast : b.bytes[(b.len - 1).toNat] = 0
    · have hsound : Sound { b with len := b.len - 1 } := by
        refine ⟨?_, ?_, hsize⟩
        · change 0 ≤ b.len - 1
          omega
        · change b.len - 1 ≤ b.bufferSize
          omega
      have happend : b.apply (.strcat str) =
          ({ b with len := b.len - 1 } : RawBuffer).append (str.val ++ [0]) (int32 (str.val.length + 1)) := by
        rw [hstr, hfetch, check_pos hlast, ok_bind, setLength, check_pos (by omega), ok_bind, ok_bind]
      rw [hrest _ hsound happend]; exact ⟨fun h _ => h, fun h => h hlast⟩
    · refine ⟨fun _ h => absurd h hlast, fun _ => .inl ?_⟩
      rw [hstr, hfetch, check_neg hlast]; rfl

theorem add_right_iff (hb : b.Sound) (byte : Byte) : b.OpRight (.add byte) ↔ b.OpMeets (.add byte) := by
  have hlow := hb.len_nonneg
  have hsize := hb.size_le
  have hadd : b.apply (.add byte) = b.add byte := rfl
  by_cases hint : isInt (b.len + 1)
  · refine ⟨fun _ => hint, fun _ => ?_⟩
    by_cases hle : b.len + 1 ≤ b.bufferSize
    · have hin : b.len.toNat < b.bytes.length := by omega
      refine .inr ⟨{ b with bytes := b.bytes.set b.len.toNat byte, len := b.len + 1 }, ?_, ⟨?_, hle, ?_⟩, ?_⟩
      · rw [hadd, add, intResult_pos hint, ok_bind, check_pos hle, ok_bind, if_neg (by omega),
          store_of_lt hin, ok_bind]
      · change 0 ≤ b.len + 1
        omega
      · rw [length_set]; exact hsize
      · change (b.bytes.set b.len.toNat byte).take (b.len + 1).toNat = b.bytes.take b.len.toNat ++ [byte]
        have hnext : (b.len + 1).toNat = b.len.toNat + 1 := by omega
        rw [hnext, take_add_one, take_set_of_le (Nat.le_refl _), getElem?_set_self hin]; rfl
    · refine .inl ?_
      rw [hadd, add, intResult_pos hint, ok_bind, check_neg hle]; rfl
  · have hfault : b.apply (.add byte) = .error .outOfBounds := by
      rw [hadd, add, intResult_of_not hint]; rfl
    exact ⟨fun h => absurd h (not_opRight_of_fault hfault), fun h => absurd h hint⟩

theorem extend_right_iff (hb : b.Sound) (addlSize : Int) :
    b.OpRight (.extend addlSize) ↔ b.OpMeets (.extend addlSize) := by
  have hlow := hb.len_nonneg
  have hextend : b.apply (.extend addlSize) = b.extend addlSize := rfl
  by_cases hint : isInt (b.bufferSize + addlSize)
  · have hok : b.apply (.extend addlSize) = .ok { b with
        bytes := realloc b.bytes (b.bufferSize + addlSize), bufferSize := b.bufferSize + addlSize } := by
      rw [hextend, extend, intResult_pos hint, ok_bind]
    rw [opRight_of_ok hok]
    constructor
    · exact fun h => ⟨hint, h.1.len_le⟩
    · rintro ⟨-, hle⟩
      exact ⟨⟨hlow, hle, Int.le_of_eq (length_realloc (Int.le_trans hlow hle)).symm⟩, trivial⟩
  · have hfault : b.apply (.extend addlSize) = .error .outOfBounds := by
      rw [hextend, extend, intResult_of_not hint]; rfl
    exact ⟨fun h => absurd h (not_opRight_of_fault hfault), fun h => absurd h.1 hint⟩

theorem opRight_iff (hb : b.Sound) : ∀ op, b.OpRight op ↔ b.OpMeets op
  | .setSizeIncrement _ =>
    ⟨fun _ => trivial, fun _ => .inr ⟨_, rfl, ⟨hb.len_nonneg, hb.len_le, hb.size_le⟩, trivial⟩⟩
  | .put bytes bytect => put_right_iff hb bytes bytect
  | .setLength bytect => setLength_right_iff hb bytect
  | .setByte offset byte => ⟨fun _ => trivial, fun _ => setByte_right hb offset byte⟩
  | .setBytes offset bytes bytect => setBytes_right_iff hb offset bytes bytect
  | .append bytes bytect => append_right_iff hb bytes bytect
  | .strcat str => strcat_right_iff hb str
  | .add byte => add_right_iff hb byte
  | .extend addlSize => extend_right_iff hb addlSize

end Op

theorem new_sound_iff (size : Int) : (∃ b, new size = .ok b ∧ b.Sound) ↔ 0 ≤ size ∧ isInt (size + 16) := by
  constructor
  · rintro ⟨b, hnew, hsound⟩
    obtain ⟨hackedSize, hhacked, hnew⟩ := bind_eq_ok.1 hnew
    cases hnew; exact ⟨hsound.len_le, (intResult_eq_ok.1 hhacked).1⟩
  · rintro ⟨hsize, hint⟩
    refine ⟨{ bytes := calloc (size + 16).toNat, len := 0, bufferSize := size, sizeIncrement := 0 }, ?_,
      ⟨Int.le_refl 0, hsize, ?_⟩⟩
    · rw [new, intResult_pos hint, ok_bind]
    · change size ≤ (calloc (size + 16).toNat).length
      rw [length_calloc]; omega

end RawBuffer

/-! ## Runs -/

/-- What is promised of a call: no assertion passes without the invariant of all buffers and the contents of its own. -/
def BufferStepRight (buffers : List RawBuffer) (call : BufferCall) : Prop :=
  bufferStep buffers call = .error .assertFailed ∨
    ∃ t, bufferStep buffers call = .ok t ∧ (∀ b ∈ t, b.Sound) ∧
      ∀ ndx op, call = .on ndx op → ∀ b b', buffers[ndx]? = some b → t[ndx]? = some b' → b.Contains b' op

def BufferCallMeets (buffers : List RawBuffer) : BufferCall → Prop
  | .new size => 0 ≤ size ∧ isInt (size + 16)
  | .on ndx op => ∀ b, buffers[ndx]? = some b → b.OpMeets op

theorem bufferStepRight_new_iff {buffers : List RawBuffer} (hall : ∀ b ∈ buffers, b.Sound) (size : Int) :
    BufferStepRight buffers (.new size) ↔ BufferCallMeets buffers (.new size) := by
  change _ ↔ 0 ≤ size ∧ isInt (size + 16)
  rw [← RawBuffer.new_sound_iff]
  have hstep : bufferStep buffers (.new size) = (fun b => buffers ++ [b]) <$> RawBuffer.new size := rfl
  rw [BufferStepRight, hstep]
  constructor
  · rintro (h | ⟨t, h, hsound, -⟩)
    · -- making a buffer asserts nothing
      unfold RawBuffer.new intResult at h
      split at h
      · cases h
      · cases h
    · obtain ⟨b, hb, rfl⟩ := map_eq_ok.1 h
      exact ⟨b, hb, hsound b (mem_append_right _ mem_cons_self)⟩
  · rintro ⟨b, hb, hsound⟩
    rw [hb]
    refine .inr ⟨buffers ++ [b], rfl, fun b' hb' => ?_, fun ndx op h => by cases h⟩
    rcases mem_append.1 hb' with hb' | hb'
    · exact hall b' hb'
    · rw [mem_singleton.1 hb']; exact hsound

theorem bufferStepRight_on_iff {buffers : List RawBuffer} (hall : ∀ b ∈ buffers, b.Sound) (ndx : Nat) (op : BufferOp) :
    BufferStepRight buffers (.on ndx op) ↔ BufferCallMeets buffers (.on ndx op) := by
  cases hb : buffers[ndx]? with
  | none =>
    have hstep : bufferStep buffers (.on ndx op) = .ok buffers := by
      change onBuffer buffers ndx op = _
      rw [onBuffer, hb]
    refine ⟨fun _ b hb' => absurd (hb.symm.trans hb') (by simp), fun _ => .inr ⟨buffers, hstep, hall, ?_⟩⟩
    rintro ndx' op' heq b b' hb'
    cases heq
    rw [hb] at hb'; cases hb'
  | some b =>
    have hstep : bufferStep buffers (.on ndx op) = (fun b' => buffers.set ndx b') <$> b.apply op := by
      change onBuffer buffers ndx op = _
      rw [onBuffer, hb]
    have hlt : ndx < buffers.length := (List.getElem?_eq_some_iff.1 hb).1
    have hmeets : BufferCallMeets buffers (.on ndx op) ↔ b.OpMeets op := by
      constructor
      · exact fun h => h b hb
      · intro h b' hb'
        rw [hb] at hb'; exact Option.some.inj hb' ▸ h
    rw [hmeets, ← b.opRight_iff (hall b (mem_of_getElem? hb))]
    rw [BufferStepRight, RawBuffer.OpRight, hstep]
    constructor
    · rintro (h | ⟨t, h, hsound, hcontains⟩)
      · left
        cases happly : b.apply op with
        | ok b' =>
          rw [happly] at h; cases h
        | error e =>
          rw [happly] at h; exact congrArg Except.error (Except.error.inj h)
      · right
        obtain ⟨b', hb', rfl⟩ := map_eq_ok.1 h
        exact ⟨b', hb', hsound b' (mem_set hlt b'),
          hcontains ndx op rfl b b' hb (getElem?_set_self hlt)⟩
    · rintro (h | ⟨b', hb', hsound, hcontains⟩)
      · left
        rw [h]; rfl
      · right
        refine ⟨buffers.set ndx b', by rw [hb', ok_map], fun b'' hb'' => ?_, ?_⟩
        · rcases mem_or_eq_of_mem_set hb'' with hb'' | rfl
          · exact hall b'' hb''
          · exact hsound
        · rintro ndx' op' heq b₁ b₂ h₁ h₂
          cases heq
          rw [hb] at h₁
          rw [getElem?_set_self hlt] at h₂
          cases h₁
          cases h₂; exact hcontains

/-- **Every call of a run is right exactly where every call meets its condition.** -/
theorem bufferCalls_right_iff (calls : List BufferCall) :
    AllAlong bufferStep BufferStepRight [] calls ↔ AllAlong bufferStep BufferCallMeets [] calls := by
  refine @AllAlong.congr _ _ bufferStep (fun buffers => ∀ b ∈ buffers, b.Sound) _ _ (fun buffers call hall => ?_)
    (fun buffers call t _ hright ht => ?_) _ _ (fun b hb => absurd hb not_mem_nil)
  · cases call with
    | new size => exact bufferStepRight_new_iff hall size
    | on ndx op => exact bufferStepRight_on_iff hall ndx op
  · rcases hright with h | ⟨t', h, hsound, -⟩
    · rw [ht] at h; cases h
    · rw [ht] at h
      cases h; exact hsound

/-- A value that is put into a buffer that is not empty leaves more than it. -/
theorem putTwice_not_right :
    ¬ AllAlong bufferStep BufferStepRight [] [.new 4, .on 0 (.put [1] 1), .on 0 (.put [2] 1)] := by
  intro h
  have hlast := @AllAlong.last _ _ bufferStep BufferStepRight [.new 4, .on 0 (.put [1] 1)] _ _ _ h rfl
  rcases hlast with hfail | ⟨t, ht, -, hcontains⟩
  · cases hfail
  · cases ht
    have hcontents := hcontains 0 _ rfl _ _ rfl rfl
    cases hcontents

end Ddc
