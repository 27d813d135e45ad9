import Ddcutil.EdidReadRuns
import Mathlib.Data.List.Basic
/-!
# EdidDelivery — the EDID of a display in which nothing fails

The display answers with the bytes from its offset on, and a write of 0 sets the offset back.
-/
namespace Ddc

open Kit List Exec

namespace EdidRead

/-! ## The display -/

def block (mem : UInt8 → Byte) (off n : Nat) : List Byte := (List.range' off n).map fun k => mem (UInt8.ofNat k)

@[simp] theorem length_block (mem : UInt8 → Byte) (off n : Nat) : (block mem off n).length = n := by
  rw [block, length_map, length_range']

theorem block_one_ne (mem : UInt8 → Byte) (off : Nat) :
    (Except.ok (block mem off 1) : Except Errno (List Byte)) ≠ .ok [] := by
  intro h
  have hlen := congrArg List.length (Except.ok.inj h)
  cases hlen

theorem block_le (mem : UInt8 → Byte) (n off : Nat) (bytes : List Byte)
    (h : (Except.ok (block mem off n) : Except Errno (List Byte)) = .ok bytes) : bytes.length ≤ n :=
  Nat.le_of_eq (Except.ok.inj h ▸ length_block mem off n)

def device (mem : UInt8 → Byte) : I2cBus Nat where
  setAddr _ off := (none, off)
  write _ := (.ok 1, 0)
  read n off := (.ok (block mem off n), off + n)
  ioctlWrite _ := (none, 0)
  ioctlRead n off := (.ok (block mem off n), off + n)
  staleErrno _ := 0
  read_le n off bytes h := block_le mem n off bytes h
  read_one off := block_one_ne mem off
  ioctlRead_le n off bytes h := block_le mem n off bytes h

theorem block_append (mem : UInt8 → Byte) (off n m : Nat) :
    block mem off n ++ block mem (off + n) m = block mem off (n + m) := by
  rw [block, block, block, ← map_append, range'_append_1]

theorem block_succ (mem : UInt8 → Byte) (off n : Nat) :
    block mem off (n + 1) = block mem off 1 ++ block mem (off + 1) n := by
  rw [block_append, Nat.add_comm]

@[simp] theorem i2cSetAddr_device (cfg : EdidSettings) (mem : UInt8 → Byte) (off : Nat) :
    i2cSetAddr cfg (device mem) off = (0, off) := by
  have hfree : (0 : Status) ≠ -eBusy := by decide
  unfold i2cSetAddr; exact if_neg fun h => hfree h.1

/-! ## Every other read gives the block -/

structure ReadsTo (mem : UInt8 → Byte) (ndx n : Nat) (s t : EdidIo Nat) : Prop where
  front : t.bytes.take (ndx + n) = s.bytes.take ndx ++ block mem s.world n
  length : t.bytes.length = s.bytes.length
  world : t.world = s.world + n

variable {i ndx n size : Nat} {s t : EdidIo Nat} {cfg : EdidSettings} {bytes : List Byte} {mem : UInt8 → Byte}

theorem take_front_overwrite {m src : List Byte} (h : i ≤ m.length) : (overwrite m i src).take i = m.take i := by
  have htaken : ((overwrite m i src).take (i + src.length)).take i = (m.take i ++ src).take i :=
    congrArg (List.take i) (take_overwrite h)
  have hlen : (m.take i).length = i := length_take_of_le h
  rw [take_take, Nat.min_eq_left (Nat.le_add_right _ _)] at htaken
  rw [htaken, take_append_of_le_length (Nat.le_of_eq hlen.symm), take_take, Nat.min_self]

theorem take_overwrite_block (mem : UInt8 → Byte) (off n : Nat) {m : List Byte} (h : ndx ≤ m.length) :
    (overwrite m ndx (block mem off n)).take (ndx + n) = m.take ndx ++ block mem off n := by
  have htake : (overwrite m ndx (block mem off n)).take (ndx + (block mem off n).length) =
      m.take ndx ++ block mem off n := take_overwrite h
  rwa [length_block] at htake

theorem i2cFileioReader_device (cfg : EdidSettings) (mem : UInt8 → Byte) (hle : ndx + n ≤ s.bytes.length) :
    ∃ t, i2cFileioReader cfg (device mem) ndx n s = .ok (0, t) ∧ ReadsTo mem ndx n s t := by
  have hlen := length_block mem s.world n
  have hle' : ndx + (block mem s.world n).length ≤ s.bytes.length := hlen.symm ▸ hle
  have hfront := take_overwrite_block mem s.world n (Nat.le_trans (Nat.le_add_right ndx n) hle)
  rw [i2cFileioReader, i2cSetAddr_device]
  refine ⟨{ s with world := s.world + n, bytes := overwrite s.bytes ndx (block mem s.world n) }, ?_,
    hfront, length_overwrite hle', rfl⟩
  dsimp only [device]
  rw [if_neg (Int.lt_irrefl 0), blit_of_le hle', ok_bind, if_pos hlen]

theorem i2cIoctlReader_device (mem : UInt8 → Byte) (hle : ndx + n ≤ s.bytes.length) :
    ∃ t, i2cIoctlReader (device mem) ndx n s = .ok (0, t) ∧ ReadsTo mem ndx n s t := by
  have hndx : ndx ≤ s.bytes.length := Nat.le_trans (Nat.le_add_right ndx n) hle
  have hlen := length_block mem s.world n
  obtain ⟨cleared, hcleared, hclearedLen⟩ := blit_ok s ndx (List.replicate n 0)
    (by rw [length_replicate]; exact hle)
  have hkept : cleared.take ndx = s.bytes.take ndx := by
    have heq : overwrite s.bytes ndx (List.replicate n 0) = cleared := by
      rw [blit_of_le (by rw [length_replicate]; exact hle)] at hcleared
      exact Except.ok.inj hcleared
    rw [← heq, take_front_overwrite hndx]
  have hle' : ndx + (block mem s.world n).length ≤ cleared.length := hlen.symm ▸ hclearedLen.symm ▸ hle
  have hfront := take_overwrite_block mem s.world n (hclearedLen.symm ▸ hndx)
  rw [hkept] at hfront
  unfold i2cIoctlReader
  refine ⟨{ s with world := s.world + n, bytes := overwrite cleared ndx (block mem s.world n) }, ?_,
    hfront, (length_overwrite hle').trans hclearedLen, rfl⟩
  rw [hcleared, ok_bind]
  dsimp only [device]
  rw [blit_of_le hle', ok_bind]

theorem i2cReader_device (cfg : EdidSettings) (mem : UInt8 → Byte) (strategyId : IoStrategyId)
    (hle : ndx + n ≤ s.bytes.length) :
    ∃ t, i2cReader cfg (device mem) ndx n strategyId s = .ok (0, t) ∧ ReadsTo mem ndx n s t := by
  cases strategyId with
  | fileio => exact i2cFileioReader_device cfg mem hle
  | ioctl => exact i2cIoctlReader_device mem hle

theorem invokeI2c_of_ok {σ : Type} {op : IoStrategyId → EdidIo σ → Exec (Status × EdidIo σ)} (fuel : Nat)
    {s t : EdidIo σ} (h : op s.strategy s = .ok (0, t)) : invokeI2c cfg op (fuel + 1) s = .ok (0, t) := by
  rw [invokeI2c, h, ok_bind, check_pos (Int.le_refl 0), ok_bind, isNvidiaEinvalBug_zero, if_neg Bool.false_ne_true]

theorem readLayerBytewise_device (fuel : Nat) (cfg : EdidSettings) (mem : UInt8 → Byte) :
    ∀ (left ndx : Nat) (s : EdidIo Nat), ndx + left ≤ s.bytes.length →
      ∃ t, readLayerBytewise (fuel + 1) cfg (device mem) ndx left s = .ok (0, t) ∧ ReadsTo mem ndx left s t
  | 0, ndx, s, _ => ⟨s, rfl, (append_nil _).symm, rfl, rfl⟩
  | left + 1, ndx, s, hle => by
    obtain ⟨t, ht, hread⟩ := i2cReader_device cfg mem (n := 1) s.strategy (by omega : ndx + 1 ≤ s.bytes.length)
    have hlen := hread.length
    obtain ⟨u, hu, hrest⟩ := readLayerBytewise_device fuel cfg mem left (ndx + 1) t (by omega)
    rw [readLayerBytewise, invokeI2c_of_ok fuel ht, ok_bind, if_pos rfl, hu]
    refine ⟨u, rfl, ?_, hrest.length.trans hlen, ?_⟩
    · have hfront := hrest.front
      rw [hread.front, hread.world, append_assoc, ← block_succ, Nat.add_assoc, Nat.add_comm 1 left] at hfront
      exact hfront
    · rw [hrest.world, hread.world, Nat.add_assoc, Nat.add_comm 1 left]

theorem readLayer_device (fuel : Nat) (cfg : EdidSettings) (mem : UInt8 → Byte) (hsize : size ≤ s.bytes.length) :
    ∃ t, readLayer (fuel + 1) cfg (device mem) size s = .ok (0, t) ∧ ReadsTo mem 0 size s t := by
  have hle : 0 + size ≤ s.bytes.length := by omega
  unfold readLayer
  split
  · exact readLayerBytewise_device fuel cfg mem size 0 s hle
  · obtain ⟨t, ht, hread⟩ := i2cReader_device cfg mem s.strategy hle
    exact ⟨t, invokeI2c_of_ok fuel ht, hread⟩

theorem i2cWriter_device (cfg : EdidSettings) (mem : UInt8 → Byte) (strategyId : IoStrategyId) (s : EdidIo Nat) :
    i2cWriter cfg (device mem) strategyId s = .ok (0, { s with world := 0 }) := by
  cases strategyId with
  | fileio =>
    rfl
  | ioctl => rfl

theorem writeLayer_device (fuel : Nat) (cfg : EdidSettings) (mem : UInt8 → Byte) (hs : s.world = 0) :
    writeLayer (fuel + 1) cfg (device mem) s = .ok (0, { s with world := 0 }) := by
  unfold writeLayer
  split
  · exact invokeI2c_of_ok fuel (i2cWriter_device cfg mem s.strategy s)
  · rw [← hs]

structure Got (mem : UInt8 → Byte) (size : Nat) (t : EdidIo Nat) : Prop where
  front : t.bytes.take size = block mem 0 size
  room : 256 ≤ t.bytes.length
  len : t.len = size

theorem layer_device (fuel : Nat) (cfg : EdidSettings) (mem : UInt8 → Byte) (hroom : 256 ≤ s.bytes.length)
    (hsize : size ≤ 256) (hs : s.world = 0) :
    ∃ t, getEdidBytesUsingI2cLayer (fuel + 1) cfg (device mem) size s = .ok (0, t) ∧ Got mem size t := by
  obtain ⟨t, ht, hread⟩ := readLayer_device fuel cfg mem (s := { s with world := 0 }) (Nat.le_trans hsize hroom)
  have hfront : t.bytes.take size = block mem 0 size := by
    have hfront := hread.front
    rw [Nat.zero_add, take_zero, nil_append] at hfront; exact hfront
  rw [getEdidBytesUsingI2cLayer, writeLayer_device fuel cfg mem hs, ok_bind, if_pos rfl, ht, ok_bind, if_pos rfl]
  exact ⟨_, rfl, hfront, hread.length ▸ hroom, rfl⟩

theorem got_overwrite (mem : UInt8 → Byte) (hroom : 256 ≤ s.bytes.length) (hsize : size ≤ 256)
    (hbytes : t.bytes = overwrite s.bytes 0 (block mem 0 size)) (hlen : t.len = size) :
    Got mem size t where
  front := by
    have hfront := take_overwrite_block mem 0 size (Nat.zero_le s.bytes.length)
    rw [Nat.zero_add, take_zero, nil_append] at hfront
    rw [hbytes, hfront]
  room := by
    have hle : 0 + (block mem 0 size).length ≤ s.bytes.length := by rw [length_block]; omega
    rw [hbytes, length_overwrite hle]; exact hroom
  len := hlen

theorem blit_block (mem : UInt8 → Byte) (hroom : 256 ≤ bytes.length) (hsize : size ≤ 256) :
    blit bytes 0 (block mem 0 size) = .ok (overwrite bytes 0 (block mem 0 size)) :=
  blit_of_le (by rw [length_block]; omega)

theorem ioctlDirect_device (cfg : EdidSettings) (mem : UInt8 → Byte) (hroom : 256 ≤ s.bytes.length) (hsize : size ≤ 256)
    (hs : s.world = 0) :
    ∃ t, getEdidBytesDirectlyUsingIoctl cfg (device mem) size s = .ok (0, t) ∧ Got mem size t := by
  have hwrite : (if cfg.writeBeforeRead then answered ((device mem).ioctlWrite s.world) else (0, s.world)) = (0, 0) := by
    split
    · rfl
    · rw [hs]
  have hle : 0 + (block mem 0 size).length ≤ s.bytes.length := by rw [length_block]; omega
  have hsizes : size ≤ (overwrite s.bytes 0 (block mem 0 size)).length := by
    rw [length_overwrite hle]; omega
  refine ⟨{ s with world := 0 + size, bytes := overwrite s.bytes 0 (block mem 0 size), len := size }, ?_,
    got_overwrite mem hroom hsize rfl rfl⟩
  rw [getEdidBytesDirectlyUsingIoctl, hwrite]
  dsimp only [device]
  rw [if_pos rfl, blit_block mem hroom hsize, ok_bind, check_pos hsizes, ok_bind]

theorem fileioWrite_device (cfg : EdidSettings) (mem : UInt8 → Byte) {off : Nat} (hoff : off = 0) :
    (if cfg.writeBeforeRead then fileioWrite (device mem) off else (0, off)) = (0, 0) := by
  split
  · rfl
  · rw [hoff]

theorem fileioDirect_device (cfg : EdidSettings) (mem : UInt8 → Byte) (hroom : 256 ≤ s.bytes.length)
    (hsize : size ≤ 256) (hs : s.world = 0) (hbytewise : cfg.bytewise = false) :
    ∃ t, getEdidBytesDirectlyUsingFileio cfg (device mem) size s = .ok (0, t) ∧ Got mem size t := by
  refine ⟨{ s with world := 0 + size, bytes := overwrite s.bytes 0 (block mem 0 size),
                   len := (block mem 0 size).length }, ?_, got_overwrite mem hroom hsize rfl (length_block mem 0 size)⟩
  rw [getEdidBytesDirectlyUsingFileio, i2cSetAddr_device]
  dsimp only
  rw [if_neg (Int.lt_irrefl 0), fileioWrite_device cfg mem hs, if_pos rfl, hbytewise, if_neg Bool.false_ne_true]
  dsimp only [device]
  rw [blit_block mem hroom hsize, ok_bind]

def ReadsTwice (cfg : EdidSettings) (strategyId : IoStrategyId) : Prop :=
  cfg.usesI2cLayer = false ∧ strategyId = .fileio ∧ cfg.bytewise = true

theorem readEdidOnce_device (fuel : Nat) (cfg : EdidSettings) (mem : UInt8 → Byte) {cur : IoStrategyId}
    (htwice : ¬ ReadsTwice cfg cur) (hroom : 256 ≤ s.bytes.length) (hsize : size ≤ 256) (hs : s.world = 0) :
    ∃ t, readEdidOnce (fuel + 1) cfg (device mem) cur size s = .ok (0, t) ∧ Got mem size t := by
  unfold readEdidOnce
  split
  · exact layer_device fuel cfg mem hroom hsize hs
  · rename_i hlayer
    cases cur with
    | ioctl => exact ioctlDirect_device cfg mem hroom hsize hs
    | fileio =>
      have hbytewise : cfg.bytewise = false :=
        Bool.eq_false_iff.2 fun h => htwice ⟨Bool.eq_false_iff.2 hlayer, rfl, h⟩
      exact fileioDirect_device cfg mem hroom hsize hs hbytewise

/-! ## The bytewise read of the device itself -/

def everyOther (mem : UInt8 → Byte) (off n : Nat) : List Byte :=
  (List.range' (off + 1) n 2).map fun k => mem (UInt8.ofNat k)

theorem everyOther_succ (mem : UInt8 → Byte) (off n : Nat) :
    everyOther mem off (n + 1) = block mem (off + 1) 1 ++ everyOther mem (off + 2) n := by
  rfl

theorem everyOther_get (mem : UInt8 → Byte) (off : Nat) (hi : i < n) :
    (everyOther mem off n)[i]? = some (mem (UInt8.ofNat (off + 1 + 2 * i))) := by
  rw [everyOther, getElem?_map, getElem?_range' hi, Option.map_some]

theorem readBytewise_device (mem : UInt8 → Byte) : ∀ (left ndx : Nat) (s : EdidIo Nat), ndx + left ≤ s.bytes.length →
    ∃ t, readBytewise (device mem) ndx left s = .ok ((0, ndx + left), t) ∧
      t.bytes.take (ndx + left) = s.bytes.take ndx ++ everyOther mem s.world left ∧
      t.bytes.length = s.bytes.length ∧ t.world = s.world + 2 * left
  | 0, ndx, s, _ => ⟨s, rfl, (append_nil _).symm, rfl, rfl⟩
  | left + 1, ndx, s, hle => by
    have hndx : ndx ≤ s.bytes.length := by omega
    have hfirst : ndx + (block mem s.world 1).length ≤ s.bytes.length := by rw [length_block]; omega
    have hsecond : ndx + (block mem (s.world + 1) 1).length ≤ (overwrite s.bytes ndx (block mem s.world 1)).length := by
      rw [length_overwrite hfirst, length_block]; omega
    have hlen := (length_overwrite hsecond).trans (length_overwrite hfirst)
    have hfront : (overwrite (overwrite s.bytes ndx (block mem s.world 1)) ndx
        (block mem (s.world + 1) 1)).take (ndx + 1) = s.bytes.take ndx ++ block mem (s.world + 1) 1 := by
      rw [take_overwrite_block mem (s.world + 1) 1 (Nat.le_trans (Nat.le_add_right ndx _) hsecond),
        take_front_overwrite hndx]
    obtain ⟨t, ht, hrest, htlen, hworld⟩ := readBytewise_device mem left (ndx + 1)
      { s with world := s.world + 1 + 1,
               bytes := overwrite (overwrite s.bytes ndx (block mem s.world 1)) ndx (block mem (s.world + 1) 1) }
      (by dsimp only; omega)
    refine ⟨t, ?_, ?_, htlen.trans hlen, ?_⟩
    · rw [readBytewise]
      dsimp only [device, readInto] at ht ⊢
      rw [blit_of_le hfirst, ok_bind, blit_of_le hsecond, ok_bind, check_pos (length_block mem _ 1),
        ok_bind, ht, Nat.add_assoc, Nat.add_comm 1 left]
    · rw [hfront, append_assoc, ← everyOther_succ, Nat.add_assoc, Nat.add_comm 1 left] at hrest
      exact hrest
    · rw [hworld]
      dsimp only; omega

theorem ofNat_congr {a b : Nat} (h : a % 256 = b % 256) : UInt8.ofNat a = UInt8.ofNat b := by
  rw [← UInt8.toNat_inj, UInt8.toNat_ofNat', UInt8.toNat_ofNat']; exact h

theorem edid_byte_one (hvalid : isValidRawEdid (block mem 0 128) 128 = true) : mem (UInt8.ofNat 1) = 0xff := by
  unfold isValidRawEdid at hvalid
  simp only [Bool.and_eq_true, decide_eq_true_eq] at hvalid
  have hbyte : ((block mem 0 128).take 8)[1]? = some (mem (UInt8.ofNat 1)) := by
    rw [block, getElem?_take_of_lt (by decide), getElem?_map, getElem?_range' (by decide),
      Option.map_some]
  rw [hvalid.1.2] at hbyte; exact (Option.some.inj hbyte).symm

theorem not_valid_of_head {edid : List Byte} (h : edid[0]? = some 0xff) (len : Nat) :
    isValidRawEdid edid len = false := by
  have hheader : edid.take 8 ≠ edidHeaderTag := by
    intro heq
    have hget : (edid.take 8)[0]? = some 0xff := (getElem?_take_of_lt (by decide)).trans h
    rw [heq] at hget; exact absurd hget (by decide)
  rw [isValidRawEdid, decide_eq_false hheader, Bool.and_false, Bool.false_and]

/-- **What is left in the buffer by the bytewise read** is an EDID in neither block. -/
structure Lost (s : EdidIo Nat) : Prop where
  first : s.bytes[0]? = some 0xff
  second : s.len = 256 → s.bytes[128]? = some 0xff

theorem judgeBytes_lost (h : Lost s) : judgeBytes s = (ddcrcInvalidEdid, s) := by
  have hnot : ¬ (s.len = 256 ∧ isValidRawCea861ExtensionBlock (s.bytes.drop 128) (s.len - 128) = false ∧
      isValidRawEdid (s.bytes.drop 128) (s.len - 128) = true) := by
    rintro ⟨hlen, -, hsecond⟩
    have hhead : (s.bytes.drop 128)[0]? = some 0xff := getElem?_drop.trans (h.second hlen)
    rw [not_valid_of_head hhead] at hsecond; cases hsecond
  rw [judgeBytes, if_neg hnot, not_valid_of_head h.first, if_neg Bool.false_ne_true]

theorem fileioWrite_start (cfg : EdidSettings) (mem : UInt8 → Byte) {off : Nat} (hoff : off % 256 = 0) :
    ∃ w, (if cfg.writeBeforeRead then fileioWrite (device mem) off else (0, off)) = (0, w) ∧ w % 256 = 0 := by
  split
  · exact ⟨0, rfl, rfl⟩
  · exact ⟨off, rfl, hoff⟩

theorem lost_byte (hvalid : isValidRawEdid (block mem 0 128) 128 = true) {w : Nat} (hw : w % 256 = 0)
    (hbytes : bytes.take size = everyOther mem w size) (hi : i < size) (heven : 2 * i % 256 = 0) :
    bytes[i]? = some 0xff := by
  have hoff : UInt8.ofNat (w + 1 + 2 * i) = UInt8.ofNat 1 := ofNat_congr (by omega)
  calc bytes[i]? = (bytes.take size)[i]? := (getElem?_take_of_lt hi).symm
    _ = (everyOther mem w size)[i]? := by rw [hbytes]
    _ = some (mem (UInt8.ofNat 1)) := by rw [everyOther_get mem w hi, hoff]
    _ = some 0xff := by rw [edid_byte_one hvalid]

theorem fileioDirect_twice (hbytewise : cfg.bytewise = true) (hvalid : isValidRawEdid (block mem 0 128) 128 = true)
    (hroom : 256 ≤ s.bytes.length) (hsize : size = 128 ∨ size = 256) (hs : s.world % 256 = 0) :
    ∃ t, getEdidBytesDirectlyUsingFileio cfg (device mem) size s = .ok (0, t) ∧ Lost t ∧ 256 ≤ t.bytes.length ∧
      t.world % 256 = 0 := by
  obtain ⟨w, hwrite, hw⟩ := fileioWrite_start cfg mem hs
  have hle : 0 + size ≤ s.bytes.length := by omega
  obtain ⟨t, ht, hbytes, hlen, hworld⟩ := readBytewise_device mem size 0 { s with world := w } hle
  rw [Nat.zero_add] at hbytes
  have hodd : t.bytes.take size = everyOther mem w size := hbytes
  have hnext : t.world % 256 = 0 := by
    rw [hworld]
    dsimp only; omega
  refine ⟨{ t with len := 0 + size }, ?_, ⟨?_, fun h256 => ?_⟩, ?_, hnext⟩
  · rw [getEdidBytesDirectlyUsingFileio, i2cSetAddr_device]
    dsimp only
    rw [if_neg (Int.lt_irrefl 0), hwrite, if_pos rfl, hbytewise, if_pos rfl, ht, ok_bind]
  · exact lost_byte hvalid hw hodd (by omega) rfl
  · dsimp only at h256; exact lost_byte hvalid hw hodd (by omega) rfl
  · exact hlen.symm ▸ hroom

theorem edidTries_twice (fuel : Nat) (htwice : ReadsTwice cfg .fileio)
    (hvalid : isValidRawEdid (block mem 0 128) 128 = true) :
    ∀ (left : Nat) (s : EdidIo Nat) (rc : Status), 256 ≤ s.bytes.length → s.world % 256 = 0 → rc < 0 →
      ∃ rc' t, edidTries fuel cfg (device mem) .fileio left s rc = .ok (some rc', t) ∧ rc' < 0
  | 0, s, rc, _, _, hrc => ⟨rc, s, rfl, hrc⟩
  | left + 1, s, rc, hroom, hs, hrc => by
    obtain ⟨hlayer, -, hbytewise⟩ := htwice
    obtain ⟨t, ht, hlost, hlen, hworld⟩ := fileioDirect_twice (s := { s with attempts := s.attempts ++ [.fileio] })
      hbytewise hvalid hroom (edidReadSize_cases cfg (maxEdidTries cfg - (left + 1))) hs
    have hread : readEdidOnce fuel cfg (device mem) .fileio (edidReadSize cfg (maxEdidTries cfg - (left + 1))) s =
        .ok (0, t) := by rw [readEdidOnce, hlayer, if_neg Bool.false_ne_true]; exact ht
    obtain ⟨rc', u, hu, hrc'⟩ :=
      edidTries_twice fuel ⟨hlayer, rfl, hbytewise⟩ hvalid left t ddcrcInvalidEdid hlen hworld (by decide)
    refine ⟨rc', u, ?_, hrc'⟩
    rw [edidTries, if_neg (Int.ne_of_lt hrc), hread, ok_bind]
    dsimp only
    rw [isNvidiaEinvalBug_fileio, Bool.and_false, if_neg Bool.false_ne_true, if_neg (by decide),
      check_pos (Int.le_refl 0), ok_bind, if_pos rfl, judgeBytes_lost hlost]
    exact hu

/-! ## What the display's EDID comes to -/

def Delivers (cfg : EdidSettings) (strategyId : IoStrategyId) (mem : UInt8 → Byte) : Prop :=
  ∀ (fuel : Nat) (bytes : List Byte) (len : Nat), 256 ≤ bytes.length →
    ∃ t, i2cGetRawEdidByFd (fuel + 3) cfg (device mem) ⟨0, strategyId, bytes, len, []⟩ = .ok (0, t) ∧
      t.bytes.take 128 = block mem 0 128

def OtherEdidBehind (cfg : EdidSettings) (mem : UInt8 → Byte) : Prop :=
  cfg.readSize = 256 ∧ isValidRawEdid (block mem 128 128) 128 = true ∧ block mem 128 128 ≠ block mem 0 128

theorem not_delivers_of_twice {strategyId : IoStrategyId} (htwice : ReadsTwice cfg strategyId)
    (hvalid : isValidRawEdid (block mem 0 128) 128 = true) : ¬ Delivers cfg strategyId mem := by
  intro hdelivers
  have hfileio : strategyId = .fileio := htwice.2.1
  subst hfileio
  have hroom : 256 ≤ (List.replicate 256 (0 : Byte)).length := Nat.le_of_eq length_replicate.symm
  obtain ⟨t, ht, -⟩ := hdelivers 0 (List.replicate 256 0) 0 hroom
  obtain ⟨rc, u, hu, hrc⟩ := edidTries_twice 3 htwice hvalid (maxEdidTries cfg)
    ⟨0, .fileio, List.replicate 256 0, 0, []⟩ (-1) hroom rfl (by decide)
  rw [i2cGetRawEdidByFd, check_pos hroom, ok_bind, getRawEdidFrom, hu, ok_bind] at ht
  have hzero : rc = 0 := congrArg Prod.fst (Except.ok.inj ht)
  exact absurd hzero (Int.ne_of_lt hrc)

theorem run_of_first_try (fuel : Nat) (hroom : 256 ≤ s.bytes.length)
    (hread : readEdidOnce (fuel + 3) cfg (device mem) s.strategy (edidReadSize cfg 0) s = .ok (0, t))
    (hjudged : (judgeBytes t).1 = 0) : i2cGetRawEdidByFd (fuel + 3) cfg (device mem) s = .ok (0, (judgeBytes t).2) := by
  obtain ⟨left, hleft⟩ : ∃ left, maxEdidTries cfg = left + 1 := by
    unfold maxEdidTries
    split
    · exact ⟨3, rfl⟩
    · exact ⟨1, rfl⟩
  have hstop : edidTries (fuel + 3) cfg (device mem) s.strategy left (judgeBytes t).2 (judgeBytes t).1 =
      .ok (some 0, (judgeBytes t).2) := by
    rw [hjudged]
    cases left with
    | zero => rfl
    | succ left => rw [edidTries, if_pos rfl]
  have htries : edidTries (fuel + 3) cfg (device mem) s.strategy (maxEdidTries cfg) s (-1) =
      .ok (some 0, (judgeBytes t).2) := by
    rw [hleft, edidTries, if_neg (by decide), hleft, Nat.sub_self, hread, ok_bind]
    dsimp only
    rw [isNvidiaEinvalBug_zero, Bool.and_false, if_neg Bool.false_ne_true, if_neg (by decide),
      check_pos (Int.le_refl 0), ok_bind, if_pos rfl, hstop]
  rw [i2cGetRawEdidByFd, check_pos hroom, ok_bind, getRawEdidFrom, htries, ok_bind]
  dsimp only
  rw [if_neg (Int.lt_irrefl 0)]

theorem not_cea_of_valid {edid : List Byte} {len : Nat} (h : isValidRawEdid edid len = true) :
    isValidRawCea861ExtensionBlock edid len = false := by
  unfold isValidRawEdid at h
  simp only [Bool.and_eq_true, decide_eq_true_eq] at h
  have htag : edid.take 1 ≠ [0x02] := by
    have hone : (edid.take 8).take 1 = edid.take 1 := take_take.trans (congrArg (List.take · edid) (by decide))
    rw [← hone, h.1.2]; decide
  rw [isValidRawCea861ExtensionBlock, decide_eq_false htag, Bool.and_false, Bool.false_and]

theorem Got.first_block (h : Got mem size t) (hsize : 128 ≤ size) : t.bytes.take 128 = block mem 0 128 := by
  obtain ⟨rest, rfl⟩ := Nat.exists_eq_add_of_le hsize
  have htake := congrArg (List.take 128) h.front
  rw [take_take, Nat.min_eq_left hsize, ← block_append,
    take_append_of_le_length (Nat.le_of_eq (length_block mem 0 128).symm),
    take_of_length_le (Nat.le_of_eq (length_block mem 0 128))] at htake
  exact htake

theorem Got.second_block (h : Got mem 256 t) : (t.bytes.drop 128).take 128 = block mem 128 128 := by
  have hdrop : (t.bytes.take 256).drop 128 = (t.bytes.drop 128).take 128 := drop_take
  have hblocks : block mem 0 128 ++ block mem 128 128 = block mem 0 256 := block_append mem 0 128 128
  rw [← hdrop, h.front, ← hblocks, drop_left' (length_block mem 0 128)]

theorem Got.second_valid (h : Got mem 256 t) :
    isValidRawEdid (t.bytes.drop 128) 128 = isValidRawEdid (block mem 128 128) 128 := by
  refine isValidRawEdid_congr ?_ 128
  rw [h.second_block, take_of_length_le (Nat.le_of_eq (length_block mem 128 128))]

theorem judgeBytes_first (hvalid : isValidRawEdid (block mem 0 128) 128 = true) (h : Got mem size t)
    (hsize : 128 ≤ size) (hone : ¬ (size = 256 ∧ isValidRawEdid (block mem 128 128) 128 = true)) :
    judgeBytes t = (0, t) := by
  have hfirst : isValidRawEdid t.bytes t.len = true := by
    have hsame : isValidRawEdid t.bytes 128 = true := by
      rw [← hvalid]
      refine isValidRawEdid_congr ?_ 128
      rw [h.first_block hsize, take_of_length_le (Nat.le_of_eq (length_block mem 0 128))]
    have hlen : 128 ≤ t.len := h.len.symm ▸ hsize
    unfold isValidRawEdid at hsame ⊢
    simp only [Bool.and_eq_true, decide_eq_true_eq] at hsame ⊢; exact ⟨⟨hlen, hsame.1.2⟩, hsame.2⟩
  have hnot : ¬ (t.len = 256 ∧ isValidRawCea861ExtensionBlock (t.bytes.drop 128) (t.len - 128) = false ∧
      isValidRawEdid (t.bytes.drop 128) (t.len - 128) = true) := by
    rintro ⟨hlen, -, hsecond⟩
    have h256 : size = 256 := h.len.symm.trans hlen
    subst h256
    rw [hlen] at hsecond; exact hone ⟨rfl, h.second_valid.symm.trans hsecond⟩
  rw [judgeBytes, if_neg hnot, hfirst, if_pos rfl]

theorem judgeBytes_second (h : Got mem 256 t) (hsecond : isValidRawEdid (block mem 128 128) 128 = true) :
    (judgeBytes t).1 = 0 ∧ (judgeBytes t).2.bytes.take 128 = block mem 128 128 := by
  have hblock : isValidRawEdid (t.bytes.drop 128) (t.len - 128) = true := by
    rw [h.len]; exact h.second_valid.trans hsecond
  rw [judgeBytes, if_pos ⟨h.len, not_cea_of_valid hblock, hblock⟩]
  exact ⟨rfl, (take_moved t.bytes h.room).trans h.second_block⟩

theorem edidReadSize_first (cfg : EdidSettings) : edidReadSize cfg 0 = 256 ↔ cfg.readSize = 256 := by
  unfold edidReadSize
  split
  · rename_i h
    rw [h]; decide
  · rfl

theorem run_device (fuel : Nat) {strategyId : IoStrategyId} (htwice : ¬ ReadsTwice cfg strategyId)
    (hvalid : isValidRawEdid (block mem 0 128) 128 = true) (len : Nat) (hroom : 256 ≤ bytes.length) :
    ∃ t, i2cGetRawEdidByFd (fuel + 3) cfg (device mem) ⟨0, strategyId, bytes, len, []⟩ = .ok (0, t) ∧
      t.bytes.take 128 =
        if cfg.readSize = 256 ∧ isValidRawEdid (block mem 128 128) 128 = true then block mem 128 128
        else block mem 0 128 := by
  obtain ⟨t, ht, hgot⟩ := readEdidOnce_device (fuel + 2) cfg mem (s := ⟨0, strategyId, bytes, len, []⟩) htwice hroom
    (edidReadSize_le cfg 0) rfl
  have hsize : 128 ≤ edidReadSize cfg 0 := by rcases edidReadSize_cases cfg 0 with h | h <;> omega
  by_cases hbehind : cfg.readSize = 256 ∧ isValidRawEdid (block mem 128 128) 128 = true
  · rw [(edidReadSize_first cfg).2 hbehind.1] at hgot
    obtain ⟨hzero, hfront⟩ := judgeBytes_second hgot hbehind.2
    rw [if_pos hbehind]; exact ⟨_, run_of_first_try fuel hroom ht hzero, hfront⟩
  · have hjudged := judgeBytes_first hvalid hgot hsize fun h => hbehind ⟨(edidReadSize_first cfg).1 h.1, h.2⟩
    have hrun := run_of_first_try fuel hroom ht (congrArg Prod.fst hjudged)
    rw [hjudged] at hrun
    rw [if_neg hbehind]; exact ⟨t, hrun, hgot.first_block hsize⟩

theorem delivers_iff (cfg : EdidSettings) (strategyId : IoStrategyId)
    (hvalid : isValidRawEdid (block mem 0 128) 128 = true) :
    Delivers cfg strategyId mem ↔ ¬ ReadsTwice cfg strategyId ∧ ¬ OtherEdidBehind cfg mem := by
  constructor
  · intro hdelivers
    have htwice : ¬ ReadsTwice cfg strategyId := fun h => not_delivers_of_twice h hvalid hdelivers
    refine ⟨htwice, fun hother => hother.2.2 ?_⟩
    have hroom : 256 ≤ (List.replicate 256 (0 : Byte)).length := Nat.le_of_eq length_replicate.symm
    obtain ⟨t, ht, hfront⟩ := hdelivers 0 (List.replicate 256 0) 0 hroom
    obtain ⟨u, hu, hmoved⟩ := run_device 0 htwice hvalid 0 hroom
    rw [hu] at ht
    have hsame : u = t := congrArg Prod.snd (Except.ok.inj ht)
    rw [if_pos ⟨hother.1, hother.2.1⟩, hsame, hfront] at hmoved; exact hmoved.symm
  · rintro ⟨htwice, hother⟩ fuel bytes len hroom
    obtain ⟨t, ht, hfront⟩ := run_device fuel htwice hvalid len hroom
    refine ⟨t, ht, ?_⟩
    rw [hfront]
    split
    · rename_i hbehind
      by_contra hne
      exact hother ⟨hbehind.1, hbehind.2, hne⟩
    · rfl

/-- **Reading the EDID is right** with a setting: whatever the device answers the run ends within the tries, with what it
promises, and the EDID of a display in which nothing fails is delivered. -/
def EdidReadRight (cfg : EdidSettings) (strategyId : IoStrategyId) (mem : UInt8 → Byte) : Prop :=
  (∀ (σ : Type) (bus : I2cBus σ) (fuel : Nat) (s : EdidIo σ), 256 ≤ s.bytes.length → s.strategy = strategyId →
    s.attempts = [] → ∃ rc t, i2cGetRawEdidByFd (fuel + 3) cfg bus s = .ok (rc, t) ∧ Bounded cfg rc t) ∧
  Delivers cfg strategyId mem

theorem edidRead_right_iff (cfg : EdidSettings) (strategyId : IoStrategyId) (mem : UInt8 → Byte)
    (hvalid : isValidRawEdid (block mem 0 128) 128 = true) :
    EdidReadRight cfg strategyId mem ↔ ¬ ReadsTwice cfg strategyId ∧ ¬ OtherEdidBehind cfg mem := by
  have hbounded : ∀ (σ : Type) (bus : I2cBus σ) (fuel : Nat) (s : EdidIo σ), 256 ≤ s.bytes.length →
      s.strategy = strategyId → s.attempts = [] →
      ∃ rc t, i2cGetRawEdidByFd (fuel + 3) cfg bus s = .ok (rc, t) ∧ Bounded cfg rc t :=
    fun _ bus fuel _ hroom _ hnone => i2cGetRawEdidByFd_bounded fuel cfg bus hroom hnone
  exact (and_iff_right hbounded).trans (delivers_iff cfg strategyId hvalid)

def bareEdid (k : UInt8) : Byte :=
  if k = 0 then 0x00 else if k ≤ 6 then 0xff else if k = 127 then 6 else 0x00

def bytewiseSettings : EdidSettings where
  usesI2cLayer := false
  bytewise := true
  writeBeforeRead := true
  forceableSlaveAddr := false
  readSize := 128
  admitted := .inr (.inl rfl)
  nvidiaDriver := false

/-- With `ioctl` the bytewise read is not made. -/
theorem bareEdid_read_with_ioctl : isValidRawEdid (block bareEdid 0 128) 128 = true ∧
    EdidReadRight bytewiseSettings .ioctl bareEdid := by
  have hvalid : isValidRawEdid (block bareEdid 0 128) 128 = true := by decide +kernel
  refine ⟨hvalid, (edidRead_right_iff bytewiseSettings .ioctl bareEdid hvalid).2 ⟨fun h => ?_, fun h => ?_⟩⟩
  · exact absurd h.2.1 (by decide)
  · exact absurd h.1 (by decide)

/-- With `fileio` it is, and no EDID is found. -/
theorem bareEdid_lost_bytewise : isValidRawEdid (block bareEdid 0 128) 128 = true ∧
    ¬ EdidReadRight bytewiseSettings .fileio bareEdid := by
  have hvalid : isValidRawEdid (block bareEdid 0 128) 128 = true := by decide +kernel
  exact ⟨hvalid, fun h => not_delivers_of_twice ⟨rfl, rfl, rfl⟩ hvalid h.2⟩

end EdidRead

end Ddc
