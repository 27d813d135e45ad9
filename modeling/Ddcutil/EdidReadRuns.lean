import Ddcutil.EdidRead
/-!
# EdidReadRuns — reading the EDID ends, and what it gives

Whatever the device answers, the reads end after a bounded number of tries with each strategy, success means a valid
EDID in the buffer, and a failure leaves the length 0 (`i2cGetRawEdidByFd_bounded`).
-/
namespace Ddc

open Kit List Exec

namespace EdidRead

variable {σ : Type}

/-! ## What a step of the I2C code returns -/

structure Kept (s t : EdidIo σ) : Prop where
  length : t.bytes.length = s.bytes.length
  attempts : t.attempts = s.attempts

theorem Kept.refl (s : EdidIo σ) : Kept s s := ⟨rfl, rfl⟩

variable {s t : EdidIo σ} {size : Nat} {cfg : EdidSettings} {cur : IoStrategyId} {rc : Status}

theorem Kept.trans {u : EdidIo σ} (h : Kept s t) (h' : Kept t u) : Kept s u :=
  ⟨h'.length.trans h.length, h'.attempts.trans h.attempts⟩

def Returns (s : EdidIo σ) (x : Exec (Status × EdidIo σ)) : Prop := ∃ rc t, x = .ok (rc, t) ∧ rc ≤ 0 ∧ Kept s t

theorem Returns.of_kept {x : Exec (Status × EdidIo σ)} (h : Kept s t) (hx : Returns t x) : Returns s x := by
  obtain ⟨rc, u, hu, hrc, hkept⟩ := hx
  exact ⟨rc, u, hu, hrc, h.trans hkept⟩

theorem Returns.bind {x : Exec (Status × EdidIo σ)} {f : Status × EdidIo σ → Exec (Status × EdidIo σ)}
    (hx : Returns s x) (hf : ∀ rc t, rc ≤ 0 → Kept s t → Returns s (f (rc, t))) : Returns s (x >>= f) := by
  obtain ⟨rc, t, rfl, hrc, hkept⟩ := hx
  exact hf rc t hrc hkept

theorem errno_status_le (e : Errno) : e.status ≤ 0 := by
  have hle : -(e.val : Int) ≤ 0 := by omega
  exact hle

theorem answered_le (r : Option Errno × σ) : (answered r).1 ≤ 0 := by
  obtain ⟨_ | e, w⟩ := r
  · exact Int.le_refl 0
  · exact errno_status_le e

theorem i2cSetAddr_le (cfg : EdidSettings) (bus : I2cBus σ) (w : σ) : (i2cSetAddr cfg bus w).1 ≤ 0 := by
  have hfirst := answered_le (bus.setAddr false w)
  unfold i2cSetAddr
  dsimp only
  split
  · exact answered_le _
  · exact hfirst

theorem fileioWrite_le (bus : I2cBus σ) (w : σ) : (fileioWrite bus w).1 ≤ 0 := by
  unfold fileioWrite
  split
  · exact Int.le_refl 0
  · exact errno_status_le _

theorem blit_ok (s : EdidIo σ) (ndx : Nat) (data : List Byte) (h : ndx + data.length ≤ s.bytes.length) :
    ∃ bytes, blit s.bytes ndx data = .ok bytes ∧ bytes.length = s.bytes.length :=
  ⟨_, blit_of_le h, length_overwrite h⟩

/-! ## Reading the device itself -/

theorem ioctlDirect_returns (cfg : EdidSettings) (bus : I2cBus σ) (hsize : size ≤ s.bytes.length) :
    Returns s (getEdidBytesDirectlyUsingIoctl cfg bus size s) := by
  unfold getEdidBytesDirectlyUsingIoctl
  have hwrite : (if cfg.writeBeforeRead then answered (bus.ioctlWrite s.world) else (0, s.world)).1 ≤ 0 := by
    split
    · exact answered_le _
    · exact Int.le_refl 0
  generalize (if cfg.writeBeforeRead then answered (bus.ioctlWrite s.world) else (0, s.world)) = written at hwrite ⊢
  obtain ⟨rc, w⟩ := written
  dsimp only at hwrite ⊢
  split
  · cases hread : bus.ioctlRead size w with
    | mk outcome w' =>
      cases outcome with
      | error e => exact ⟨e.status, _, rfl, errno_status_le e, rfl, rfl⟩
      | ok data =>
        have hdata : data.length ≤ size := bus.ioctlRead_le size w data (congrArg Prod.fst hread)
        obtain ⟨bytes, hbytes, hlen⟩ := blit_ok s 0 data (by omega)
        dsimp only
        rw [hbytes, ok_bind, check_pos (hlen ▸ hsize), ok_bind]
        exact ⟨0, _, rfl, Int.le_refl 0, hlen, rfl⟩
  · exact ⟨rc, _, rfl, hwrite, rfl, rfl⟩

theorem readInto_ok (bus : I2cBus σ) (bytes : List Byte) (ndx : Nat) (hndx : ndx < bytes.length) (w : σ) :
    ∃ bytes', readInto bytes ndx (bus.read 1 w).1 = .ok bytes' ∧ bytes'.length = bytes.length := by
  cases hread : (bus.read 1 w).1 with
  | error e => exact ⟨bytes, rfl, rfl⟩
  | ok data =>
    have hdata := bus.read_le 1 w data hread
    have hle : ndx + data.length ≤ bytes.length := by omega
    exact ⟨_, blit_of_le hle, length_overwrite hle⟩

theorem readBytewise_returns (bus : I2cBus σ) : ∀ (left ndx : Nat) {s : EdidIo σ}, ndx + left ≤ s.bytes.length →
    ∃ rc n t, readBytewise bus ndx left s = .ok ((rc, n), t) ∧ rc ≤ 0 ∧ Kept s t
  | 0, ndx, s, _ => ⟨0, ndx, s, rfl, Int.le_refl 0, Kept.refl s⟩
  | left + 1, ndx, s, hle => by
    obtain ⟨bytes, hbytes, hlen⟩ := readInto_ok bus s.bytes ndx (by omega) s.world
    rw [readBytewise, hbytes, ok_bind]
    cases hread : bus.read 1 (bus.read 1 s.world).2 with
    | mk outcome w =>
      cases outcome with
      | error e => exact ⟨e.status, ndx, _, rfl, errno_status_le e, hlen, rfl⟩
      | ok data =>
        have hfst : (bus.read 1 (bus.read 1 s.world).2).1 = .ok data := congrArg Prod.fst hread
        have hdata := bus.read_le 1 _ data hfst
        have hone : data.length = 1 := by
          cases data with
          | nil => exact absurd hfst (bus.read_one _)
          | cons b rest =>
            rw [length_cons] at hdata ⊢; omega
        have hle' : ndx + data.length ≤ bytes.length := by omega
        dsimp only
        rw [blit_of_le hle', ok_bind, check_pos hone, ok_bind]
        have hnext : (overwrite bytes ndx data).length = s.bytes.length := (length_overwrite hle').trans hlen
        obtain ⟨rc, n, t, ht, hrc, hkept⟩ := readBytewise_returns bus left (ndx + 1)
          (s := { s with world := w, bytes := overwrite bytes ndx data }) (by dsimp only; omega)
        exact ⟨rc, n, t, ht, hrc, hkept.length.trans hnext, hkept.attempts⟩

theorem fileioDirect_returns (cfg : EdidSettings) (bus : I2cBus σ) (hsize : size ≤ s.bytes.length) :
    Returns s (getEdidBytesDirectlyUsingFileio cfg bus size s) := by
  unfold getEdidBytesDirectlyUsingFileio
  have haddr := i2cSetAddr_le cfg bus s.world
  generalize i2cSetAddr cfg bus s.world = set at haddr ⊢
  obtain ⟨rc, w⟩ := set
  dsimp only at haddr ⊢
  split
  · exact ⟨rc, _, rfl, haddr, rfl, rfl⟩
  · have hwrite : (if cfg.writeBeforeRead then fileioWrite bus w else (rc, w)).1 ≤ 0 := by
      split
      · exact fileioWrite_le bus w
      · exact haddr
    generalize (if cfg.writeBeforeRead then fileioWrite bus w else (rc, w)) = written at hwrite ⊢
    obtain ⟨rc', w'⟩ := written
    split
    · split
      · obtain ⟨rc'', n, t, ht, hrc, hkept⟩ := readBytewise_returns bus size 0 (s := { s with world := w' })
          (by dsimp only; omega)
        rw [ht, ok_bind]; exact ⟨rc'', _, rfl, hrc, hkept.length, hkept.attempts⟩
      · cases hread : bus.read size w' with
        | mk outcome w'' =>
          cases outcome with
          | error e => exact ⟨e.status, _, rfl, errno_status_le e, rfl, rfl⟩
          | ok data =>
            have hdata := bus.read_le size w' data (congrArg Prod.fst hread)
            obtain ⟨bytes, hbytes, hlen⟩ := blit_ok s 0 data (by omega)
            dsimp only
            rw [hbytes, ok_bind]; exact ⟨0, _, rfl, Int.le_refl 0, hlen, rfl⟩
    · exact ⟨rc', _, rfl, hwrite, rfl, rfl⟩

/-! ## The I2C layer -/

theorem i2cFileioWriter_returns (cfg : EdidSettings) (bus : I2cBus σ) (s : EdidIo σ) :
    Returns s (i2cFileioWriter cfg bus s) := by
  unfold i2cFileioWriter
  have haddr := i2cSetAddr_le cfg bus s.world
  generalize i2cSetAddr cfg bus s.world = set at haddr ⊢
  obtain ⟨rc, w⟩ := set
  dsimp only at haddr ⊢
  split
  · exact ⟨rc, _, rfl, haddr, rfl, rfl⟩
  · cases hwrite : bus.write w with
    | mk outcome w' =>
      cases outcome with
      | error e => exact ⟨e.status, _, rfl, errno_status_le e, rfl, rfl⟩
      | ok n =>
        refine ⟨_, _, rfl, ?_, rfl, rfl⟩
        split
        · exact Int.le_refl 0
        · decide

theorem i2cIoctlWriter_returns (bus : I2cBus σ) (s : EdidIo σ) : Returns s (i2cIoctlWriter bus s) := by
  have hwrite := answered_le (bus.ioctlWrite s.world)
  exact ⟨_, _, rfl, hwrite, rfl, rfl⟩

theorem i2cFileioReader_returns (cfg : EdidSettings) (bus : I2cBus σ) {ndx bytect : Nat}
    (hle : ndx + bytect ≤ s.bytes.length) : Returns s (i2cFileioReader cfg bus ndx bytect s) := by
  unfold i2cFileioReader
  have haddr := i2cSetAddr_le cfg bus s.world
  generalize i2cSetAddr cfg bus s.world = set at haddr ⊢
  obtain ⟨rc, w⟩ := set
  dsimp only at haddr ⊢
  split
  · exact ⟨rc, _, rfl, haddr, rfl, rfl⟩
  · cases hread : bus.read bytect w with
    | mk outcome w' =>
      cases outcome with
      | error e => exact ⟨e.status, _, rfl, errno_status_le e, rfl, rfl⟩
      | ok data =>
        have hdata := bus.read_le bytect w data (congrArg Prod.fst hread)
        obtain ⟨bytes, hbytes, hlen⟩ := blit_ok s ndx data (by omega)
        dsimp only
        rw [hbytes, ok_bind]
        refine ⟨_, _, rfl, ?_, hlen, rfl⟩
        split
        · exact Int.le_refl 0
        · have hstale : -(bus.staleErrno w' : Int) ≤ 0 := by omega
          exact hstale

theorem i2cIoctlReader_returns (bus : I2cBus σ) {ndx bytect : Nat} (hle : ndx + bytect ≤ s.bytes.length) :
    Returns s (i2cIoctlReader bus ndx bytect s) := by
  unfold i2cIoctlReader
  obtain ⟨cleared, hcleared, hlen⟩ := blit_ok s ndx (List.replicate bytect 0)
    (by rw [length_replicate]; exact hle)
  rw [hcleared, ok_bind]
  cases hread : bus.ioctlRead bytect s.world with
  | mk outcome w =>
    cases outcome with
    | error e => exact ⟨e.status, _, rfl, errno_status_le e, hlen, rfl⟩
    | ok data =>
      have hdata := bus.ioctlRead_le bytect s.world data (congrArg Prod.fst hread)
      have hle' : ndx + data.length ≤ cleared.length := by omega
      dsimp only
      rw [blit_of_le hle', ok_bind]
      exact ⟨0, _, rfl, Int.le_refl 0, (length_overwrite hle').trans hlen, rfl⟩

def OpReturns (size : Nat) (op : IoStrategyId → EdidIo σ → Exec (Status × EdidIo σ)) : Prop :=
  ∀ strategyId s, size ≤ s.bytes.length → Returns s (op strategyId s)

theorem i2cWriter_returns (cfg : EdidSettings) (bus : I2cBus σ) : OpReturns 0 (i2cWriter cfg bus)
  | .fileio, s, _ => i2cFileioWriter_returns cfg bus s
  | .ioctl, s, _ => i2cIoctlWriter_returns bus s

theorem i2cReader_returns (cfg : EdidSettings) (bus : I2cBus σ) (ndx bytect : Nat) :
    OpReturns (ndx + bytect) (i2cReader cfg bus ndx bytect)
  | .fileio, _, hle => i2cFileioReader_returns cfg bus hle
  | .ioctl, _, hle => i2cIoctlReader_returns bus hle

theorem isNvidiaEinvalBug_fileio (cfg : EdidSettings) (rc : Status) : isNvidiaEinvalBug cfg .fileio rc = false := by
  rw [isNvidiaEinvalBug, decide_eq_false (by decide : ¬ IoStrategyId.fileio = .ioctl), Bool.and_false, Bool.false_and]

theorem isNvidiaEinvalBug_zero (cfg : EdidSettings) (strategyId : IoStrategyId) :
    isNvidiaEinvalBug cfg strategyId 0 = false := by
  rw [isNvidiaEinvalBug, decide_eq_false (by decide : ¬ (0 : Status) = -eInval), Bool.false_and, Bool.false_and]

theorem invokeI2c_fileio {op : IoStrategyId → EdidIo σ → Exec (Status × EdidIo σ)} (hop : OpReturns size op)
    (fuel : Nat) (hsize : size ≤ s.bytes.length) (hs : s.strategy = .fileio) :
    Returns s (invokeI2c cfg op (fuel + 1) s) := by
  obtain ⟨rc, t, ht, hrc, hkept⟩ := hop s.strategy s hsize
  rw [invokeI2c, ht, ok_bind, check_pos hrc, ok_bind, hs, isNvidiaEinvalBug_fileio]
  exact ⟨rc, t, rfl, hrc, hkept⟩

theorem invokeI2c_returns {op : IoStrategyId → EdidIo σ → Exec (Status × EdidIo σ)} (hop : OpReturns size op)
    (fuel : Nat) (hsize : size ≤ s.bytes.length) : Returns s (invokeI2c cfg op (fuel + 2) s) := by
  obtain ⟨rc, t, ht, hrc, hkept⟩ := hop s.strategy s hsize
  rw [invokeI2c, ht, ok_bind, check_pos hrc, ok_bind]
  have hswitched : Kept s { t with strategy := .fileio } := ⟨hkept.length, hkept.attempts⟩
  split
  · exact (invokeI2c_fileio hop fuel (hkept.length ▸ hsize) rfl).of_kept hswitched
  · exact ⟨rc, t, rfl, hrc, hkept⟩

theorem readLayerBytewise_returns (fuel : Nat) (cfg : EdidSettings) (bus : I2cBus σ) :
    ∀ (left ndx : Nat) {s : EdidIo σ}, ndx + left ≤ s.bytes.length →
      Returns s (readLayerBytewise (fuel + 2) cfg bus ndx left s)
  | 0, _, s, _ => ⟨0, s, rfl, Int.le_refl 0, Kept.refl s⟩
  | left + 1, ndx, s, hle => by
    have hone : ndx + 1 ≤ s.bytes.length := by omega
    refine (invokeI2c_returns (i2cReader_returns cfg bus ndx 1) fuel hone).bind fun rc t hrc hkept => ?_
    split
    · have hle' : ndx + 1 + left ≤ t.bytes.length := by rw [hkept.length]; omega
      exact (readLayerBytewise_returns fuel cfg bus left (ndx + 1) hle').of_kept hkept
    · exact ⟨rc, t, rfl, hrc, hkept⟩

theorem writeLayer_returns (fuel : Nat) (cfg : EdidSettings) (bus : I2cBus σ) (s : EdidIo σ) :
    Returns s (writeLayer (fuel + 2) cfg bus s) := by
  unfold writeLayer
  split
  · exact invokeI2c_returns (i2cWriter_returns cfg bus) fuel (Nat.zero_le _)
  · exact ⟨0, s, rfl, Int.le_refl 0, Kept.refl s⟩

theorem readLayer_returns (fuel : Nat) (cfg : EdidSettings) (bus : I2cBus σ) (hsize : size ≤ s.bytes.length) :
    Returns s (readLayer (fuel + 2) cfg bus size s) := by
  have hle : 0 + size ≤ s.bytes.length := by omega
  unfold readLayer
  split
  · exact readLayerBytewise_returns fuel cfg bus size 0 hle
  · exact invokeI2c_returns (i2cReader_returns cfg bus 0 size) fuel hle

theorem layer_returns (fuel : Nat) (cfg : EdidSettings) (bus : I2cBus σ) (hsize : size ≤ s.bytes.length) :
    Returns s (getEdidBytesUsingI2cLayer (fuel + 2) cfg bus size s) := by
  refine (writeLayer_returns fuel cfg bus s).bind fun rc t hrc hkept => ?_
  split
  · have hsize' : size ≤ t.bytes.length := hkept.length ▸ hsize
    refine Returns.of_kept hkept ((readLayer_returns fuel cfg bus hsize').bind fun rc' u hrc' hkept' => ?_)
    refine ⟨rc', _, rfl, hrc', ?_⟩
    split
    · exact ⟨hkept'.length, hkept'.attempts⟩
    · exact hkept'
  · exact ⟨rc, t, rfl, hrc, hkept⟩

/-! ## The tries -/

theorem edidReadSize_cases (cfg : EdidSettings) (tryctr : Nat) :
    edidReadSize cfg tryctr = 128 ∨ edidReadSize cfg tryctr = 256 := by
  unfold edidReadSize
  rcases cfg.admitted with h | h | h
  · rw [h, if_pos rfl]
    split
    · exact .inl rfl
    · exact .inr rfl
  · rw [h]; exact .inl rfl
  · rw [h]; exact .inr rfl

theorem edidReadSize_le (cfg : EdidSettings) (tryctr : Nat) : edidReadSize cfg tryctr ≤ 256 := by
  rcases edidReadSize_cases cfg tryctr with h | h <;> omega

theorem readEdidOnce_returns (fuel : Nat) (cfg : EdidSettings) (bus : I2cBus σ) (cur : IoStrategyId)
    (hsize : size ≤ s.bytes.length) :
    Returns { s with attempts := s.attempts ++ [cur] } (readEdidOnce (fuel + 2) cfg bus cur size s) := by
  unfold readEdidOnce
  split
  · exact layer_returns fuel cfg bus hsize
  · cases cur with
    | ioctl => exact ioctlDirect_returns cfg bus hsize
    | fileio => exact fileioDirect_returns cfg bus hsize

def ValidFront (s : EdidIo σ) : Prop := isValidRawEdid s.bytes 128 = true ∧ 128 ≤ s.len

theorem isValidRawEdid_congr {edid edid' : List Byte} (h : edid.take 128 = edid'.take 128) (len : Nat) :
    isValidRawEdid edid len = isValidRawEdid edid' len := by
  have hhead : edid.take 8 = edid'.take 8 := by
    have htake := congrArg (List.take 8) h
    rwa [take_take, take_take] at htake
  unfold isValidRawEdid edidChecksum
  rw [hhead, h]

theorem isValidRawEdid_len {edid : List Byte} {len : Nat} (h : isValidRawEdid edid len = true) :
    isValidRawEdid edid 128 = true ∧ 128 ≤ len := by
  unfold isValidRawEdid at h ⊢
  simp only [Bool.and_eq_true, decide_eq_true_eq] at h ⊢
  exact ⟨⟨⟨Nat.le_refl 128, h.1.2⟩, h.2⟩, h.1.1⟩

theorem take_moved (bytes : List Byte) (hlen : 256 ≤ bytes.length) :
    (overwrite bytes 0 ((bytes.drop 128).take 128)).take 128 = (bytes.drop 128).take 128 := by
  have hblock : ((bytes.drop 128).take 128).length = 128 := by rw [length_take, length_drop]; omega
  rw [overwrite, take_zero, nil_append, take_append_of_le_length (Nat.le_of_eq hblock.symm),
    take_of_length_le (Nat.le_of_eq hblock)]

theorem judgeBytes_spec (s : EdidIo σ) (hlen : 256 ≤ s.bytes.length) :
    (judgeBytes s).1 ≤ 0 ∧ ((judgeBytes s).1 = 0 → ValidFront (judgeBytes s).2) ∧ Kept s (judgeBytes s).2 := by
  unfold judgeBytes
  split
  · rename_i hswapped
    have hblock : ((s.bytes.drop 128).take 128).length ≤ 128 := length_take_le _ _
    have hvalid := (isValidRawEdid_len hswapped.2.2).1
    have htake : (overwrite s.bytes 0 ((s.bytes.drop 128).take 128)).take 128 = (s.bytes.drop 128).take 128 :=
      take_moved s.bytes hlen
    refine ⟨Int.le_refl 0, fun _ => ⟨?_, Nat.le_refl 128⟩, length_overwrite (by omega), rfl⟩
    exact (isValidRawEdid_congr htake 128).trans hvalid
  · refine ⟨?_, fun hzero => ?_, Kept.refl s⟩
    · dsimp only
      split <;> decide
    · dsimp only at hzero
      split at hzero
      · exact isValidRawEdid_len ‹_›
      · exact absurd hzero (by decide)

/-- **How the tries end**: at most `left` of them more, with a status or with a jump to `retry`. -/
structure TriesEnd (cur : IoStrategyId) (left : Nat) (s : EdidIo σ) (out : Option Status) (t : EdidIo σ) : Prop where
  tried : ∃ k, k ≤ left ∧ t.attempts = s.attempts ++ List.replicate k cur
  length : t.bytes.length = s.bytes.length
  status : ∀ rc, out = some rc → rc ≤ 0 ∧ (rc = 0 → ValidFront t)
  again : out = none → cur = .ioctl ∧ t.strategy = .fileio

theorem TriesEnd.stop {left : Nat} (hrc : rc ≤ 0) (hvalid : rc = 0 → ValidFront s) :
    TriesEnd cur left s (some rc) s where
  tried := ⟨0, Nat.zero_le left, (append_nil _).symm⟩
  length := rfl
  status _ heq := Option.some.inj heq ▸ ⟨hrc, hvalid⟩
  again heq := absurd heq (Option.some_ne_none rc)

theorem TriesEnd.after {left : Nat} {u : EdidIo σ} {out : Option Status}
    (htry : Kept { s with attempts := s.attempts ++ [cur] } t) (h : TriesEnd cur left t out u) :
    TriesEnd cur (left + 1) s out u where
  tried := by
    obtain ⟨k, hk, hattempts⟩ := h.tried
    refine ⟨k + 1, Nat.succ_le_succ hk, ?_⟩
    rw [hattempts, htry.attempts, replicate_succ, append_assoc]; rfl
  length := h.length.trans htry.length
  status := h.status
  again := h.again

theorem nvidia_bug_ioctl (h : isNvidiaEinvalBug cfg cur rc = true) : cur = .ioctl := by
  cases cur with
  | ioctl => rfl
  | fileio =>
    rw [isNvidiaEinvalBug_fileio] at h; cases h

theorem endsTries_ne_zero (h : endsTries rc = true) : rc ≠ 0 := by
  rintro rfl
  exact absurd h (by decide)

theorem edidTries_end (fuel : Nat) (cfg : EdidSettings) (bus : I2cBus σ) (cur : IoStrategyId) :
    ∀ (left : Nat) (s : EdidIo σ) (rc : Status), 256 ≤ s.bytes.length → rc ≤ 0 → (rc = 0 → ValidFront s) →
      ∃ out t, edidTries (fuel + 2) cfg bus cur left s rc = .ok (out, t) ∧ TriesEnd cur left s out t
  | 0, s, rc, _, hrc, hvalid => ⟨some rc, s, rfl, .stop hrc hvalid⟩
  | left + 1, s, rc, hlen, hrc, hvalid => by
    rw [edidTries]
    split
    · exact ⟨some rc, s, rfl, .stop hrc hvalid⟩
    · have hsize : edidReadSize cfg (maxEdidTries cfg - (left + 1)) ≤ s.bytes.length :=
        Nat.le_trans (edidReadSize_le cfg _) hlen
      obtain ⟨rc', t, ht, hrc', hkept⟩ := readEdidOnce_returns fuel cfg bus cur hsize
      have hlen' : 256 ≤ t.bytes.length := hkept.length ▸ hlen
      rw [ht, ok_bind]
      split
      · rename_i hbug
        have hcur := nvidia_bug_ioctl (Bool.and_eq_true_iff.1 hbug).2
        refine ⟨none, _, rfl, TriesEnd.after hkept ?_⟩
        exact ⟨⟨0, Nat.zero_le left, (append_nil _).symm⟩, rfl,
          fun _ heq => absurd heq.symm (Option.some_ne_none _), fun _ => ⟨hcur, rfl⟩⟩
      · split
        · rename_i hends
          exact ⟨some rc', t, rfl, TriesEnd.after hkept (.stop hrc' fun h => absurd h (endsTries_ne_zero hends))⟩
        · rw [check_pos hrc', ok_bind]
          split
          · -- bytes that were read are judged
            obtain ⟨hjudged, hfront, hmoved⟩ := judgeBytes_spec t hlen'
            obtain ⟨out, u, hu, hend⟩ := edidTries_end fuel cfg bus cur left (judgeBytes t).2 (judgeBytes t).1
              (hmoved.length ▸ hlen') hjudged hfront
            exact ⟨out, u, hu, TriesEnd.after (hkept.trans hmoved) hend⟩
          · obtain ⟨out, u, hu, hend⟩ := edidTries_end fuel cfg bus cur left t rc' hlen' hrc' fun h => absurd h ‹_›
            exact ⟨out, u, hu, TriesEnd.after hkept hend⟩

/-! ## From `retry` on -/

/-- **What `i2c_get_raw_edid_by_fd` promises of a run**, whatever was answered. -/
structure Bounded (cfg : EdidSettings) (rc : Status) (t : EdidIo σ) : Prop where
  tries : ∀ strategyId, t.attempts.count strategyId ≤ maxEdidTries cfg
  success : rc = 0 → isValidRawEdid t.bytes 128 = true ∧ 128 ≤ t.len
  failure : rc ≠ 0 → t.len = 0

theorem count_tried {out : Option Status} (h : TriesEnd cur (maxEdidTries cfg) s out t)
    (hcur : s.attempts.count cur = 0) (hbefore : ∀ strategyId, s.attempts.count strategyId ≤ maxEdidTries cfg)
    (strategyId : IoStrategyId) : t.attempts.count strategyId ≤ maxEdidTries cfg := by
  obtain ⟨k, hk, hattempts⟩ := h.tried
  rw [hattempts, count_append, count_replicate]
  by_cases heq : cur = strategyId
  · subst heq
    rw [hcur, if_pos (beq_self_eq_true cur)]; omega
  · rw [if_neg (by simpa using heq)]; exact hbefore strategyId

theorem bounded_of_end (h : TriesEnd cur (maxEdidTries cfg) s (some rc) t) (hcur : s.attempts.count cur = 0)
    (hbefore : ∀ strategyId, s.attempts.count strategyId ≤ maxEdidTries cfg) :
    Bounded cfg rc (if rc < 0 then { t with len := 0 } else t) := by
  obtain ⟨hrc, hvalid⟩ := h.status rc rfl
  have htried := count_tried h hcur hbefore
  split
  · rename_i hneg; exact ⟨htried, fun hzero => absurd hzero (Int.ne_of_lt hneg), fun _ => rfl⟩
  · rename_i hnonneg
    exact ⟨htried, hvalid, fun hne => absurd (Int.le_antisymm hrc (Int.not_lt.1 hnonneg)) hne⟩

theorem getRawEdidFrom_fileio (fuel : Nat) (cfg : EdidSettings) (bus : I2cBus σ) (hlen : 256 ≤ s.bytes.length)
    (hs : s.strategy = .fileio) (hcur : s.attempts.count .fileio = 0)
    (hbefore : ∀ strategyId, s.attempts.count strategyId ≤ maxEdidTries cfg) :
    ∃ rc t, getRawEdidFrom cfg bus (fuel + 2) s = .ok (rc, t) ∧ Bounded cfg rc t := by
  obtain ⟨out, t, ht, hend⟩ :=
    edidTries_end fuel cfg bus .fileio (maxEdidTries cfg) s (-1) hlen (by decide) fun h => absurd h (by decide)
  rw [getRawEdidFrom, hs, ht, ok_bind]
  cases out with
  | none => exact absurd (hend.again rfl).1 (by decide)
  | some rc => exact ⟨rc, _, rfl, bounded_of_end hend hcur hbefore⟩

theorem i2cGetRawEdidByFd_bounded (fuel : Nat) (cfg : EdidSettings) (bus : I2cBus σ) (hlen : 256 ≤ s.bytes.length)
    (hnone : s.attempts = []) : ∃ rc t, i2cGetRawEdidByFd (fuel + 3) cfg bus s = .ok (rc, t) ∧ Bounded cfg rc t := by
  have hcount : ∀ strategyId, s.attempts.count strategyId = 0 := fun strategyId => hnone ▸ rfl
  have hbefore : ∀ strategyId, s.attempts.count strategyId ≤ maxEdidTries cfg := fun strategyId =>
    Nat.le_trans (Nat.le_of_eq (hcount strategyId)) (Nat.zero_le _)
  obtain ⟨out, t, ht, hend⟩ := edidTries_end (fuel + 1) cfg bus s.strategy (maxEdidTries cfg) s (-1) hlen (by decide)
    fun h => absurd h (by decide)
  rw [i2cGetRawEdidByFd, check_pos hlen, ok_bind, getRawEdidFrom, ht, ok_bind]
  cases out with
  | some rc => exact ⟨rc, _, rfl, bounded_of_end hend (hcount _) hbefore⟩
  | none =>
    -- the tries so far were all made with `ioctl`
    obtain ⟨hioctl, hfileio⟩ := hend.again rfl
    have hnot : t.attempts.count .fileio = 0 := by
      obtain ⟨k, _, hattempts⟩ := hend.tried
      rw [hattempts, hnone, hioctl, nil_append, count_replicate, if_neg (by decide)]
    exact getRawEdidFrom_fileio fuel cfg bus (hend.length ▸ hlen) hfileio hnot (count_tried hend (hcount _) hbefore)

end EdidRead

end Ddc
