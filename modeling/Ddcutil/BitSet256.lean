import Mathlib.Data.Finset.Card
import Mathlib.Data.Nat.Bitwise
import Mathlib.Order.Interval.Finset.Nat
import Ddcutil.Kit.Exec
/-!
# BitSet256 — sets of bus numbers as 256 flags

`Bit_Set_256` is an array of 32 bytes.  Its operations are as the code computes them, byte by byte; `flags` is the set
of numbers it stands for, and each operation is shown to be the one on sets.  An iterator visits the flags in ascending
order, each once.
-/
namespace Ddc

open Kit

structure BitSet256 where
  bytes : Vector UInt8 32
  deriving DecidableEq

def emptyBitSet256 : BitSet256 := ⟨Vector.replicate 32 0⟩

variable (bitno : UInt8)

theorem toNat_bytendx : (bitno >>> 3).toNat = bitno.toNat / 8 := by
  exact Nat.shiftRight_eq_div_pow _ 3

theorem bytendx_lt : (bitno >>> 3).toNat < 32 := by
  have hlt := bitno.toNat_lt
  rw [toNat_bytendx]; omega

def flagbit (bitno : UInt8) : UInt8 := 1 <<< (bitno &&& 7)

def bs256Insert (bitset : BitSet256) (bitno : UInt8) : BitSet256 :=
  have := bytendx_lt bitno
  ⟨bitset.bytes.set (bitno >>> 3).toNat (bitset.bytes[(bitno >>> 3).toNat] ||| flagbit bitno)⟩

def bs256Contains (bitset : BitSet256) (bitno : UInt8) : Bool :=
  have := bytendx_lt bitno
  bitset.bytes[(bitno >>> 3).toNat] &&& flagbit bitno ≠ 0

def bs256Eq (set1 set2 : BitSet256) : Bool := set1.bytes = set2.bytes

def bs256AndNot (set1 set2 : BitSet256) : BitSet256 :=
  ⟨Vector.ofFn fun ndx => set1.bytes[ndx] &&& ~~~set2.bytes[ndx]⟩

def bitsSet (byte : UInt8) : Nat :=
  (List.range 8).foldl (fun result bitndx =>
    if byte &&& ((0x80 : UInt8) >>> UInt8.ofNat bitndx) ≠ 0 then result + 1 else result) 0

def bs256Count (bbset : BitSet256) : Nat :=
  bbset.bytes.toList.foldl (fun result byte => result + bitsSet byte) 0

def bs256FromBva (bva : List UInt8) : BitSet256 := bva.foldl bs256Insert emptyBitSet256

def bs256IterNext (bbflags : BitSet256) (start : Nat) : Option Nat :=
  (List.range' start (256 - start)).find? fun ndx => bs256Contains bbflags (UInt8.ofNat ndx)

/-- What an iterator yields from a position on; each flag it yields is later than the one before. -/
def bs256IterFrom (bbflags : BitSet256) : Nat → Nat → List Nat
  | 0, _ => []
  | fuel + 1, start =>
    match bs256IterNext bbflags start with
    | none => []
    | some ndx => ndx :: bs256IterFrom bbflags fuel (ndx + 1)

def bs256Iter (bbflags : BitSet256) : List Nat := bs256IterFrom bbflags 257 0

/-- **The set of numbers the flags stand for.** -/
def flags (bitset : BitSet256) : Finset Nat :=
  (Finset.range 256).filter fun ndx => bs256Contains bitset (UInt8.ofNat ndx)

open List

/-! ## One flag -/

theorem toNat_flagbit : (flagbit bitno).toNat = 2 ^ (bitno.toNat % 8) := by
  have hlow : (bitno &&& 7).toNat = bitno.toNat % 8 := by
    exact Nat.and_two_pow_sub_one_eq_mod bitno.toNat 3
  have hlt : bitno.toNat % 8 < 8 := Nat.mod_lt _ (by decide)
  rw [flagbit, UInt8.toNat_shiftLeft, hlow, Nat.mod_eq_of_lt hlt]
  change (1 <<< (bitno.toNat % 8)) % 2 ^ 8 = _
  rw [Nat.one_shiftLeft]; exact Nat.mod_eq_of_lt (Nat.pow_lt_pow_right (by decide) hlt)

theorem and_two_pow_ne_zero (byte mask : UInt8) {i : Nat} (hmask : mask.toNat = 2 ^ i) :
    byte &&& mask ≠ 0 ↔ byte.toNat.testBit i = true := by
  rw [ne_eq, ← UInt8.toNat_inj, UInt8.toNat_and, hmask, Nat.and_two_pow]
  cases byte.toNat.testBit i with
  | false | true => simp

theorem bs256Contains_iff (bitset : BitSet256) (bitno : UInt8) :
    bs256Contains bitset bitno = true ↔
      (bitset.bytes.toList.getD (bitno.toNat / 8) 0).toNat.testBit (bitno.toNat % 8) = true := by
  have hlt := bytendx_lt bitno
  unfold bs256Contains
  rw [decide_eq_true_eq, and_two_pow_ne_zero _ _ (toNat_flagbit bitno), ← toNat_bytendx, getD_eq_getElem?_getD,
    getElem?_eq_getElem (by simpa using hlt), Option.getD_some, Vector.getElem_toList]

theorem mem_flags {bitset : BitSet256} {ndx : Nat} :
    ndx ∈ flags bitset ↔ ndx < 256 ∧ bs256Contains bitset (UInt8.ofNat ndx) = true := by
  rw [flags, Finset.mem_filter, Finset.mem_range]

theorem mem_flags_iff_testBit {bitset : BitSet256} {ndx : Nat} (h : ndx < 256) (hbyte : ndx / 8 < 32) :
    ndx ∈ flags bitset ↔ bitset.bytes[ndx / 8].toNat.testBit (ndx % 8) = true := by
  have hndx : (UInt8.ofNat ndx).toNat = ndx := by exact Nat.mod_eq_of_lt h
  have hlt : ndx / 8 < bitset.bytes.toList.length := by rw [Vector.length_toList]; exact hbyte
  rw [mem_flags, bs256Contains_iff, hndx, getD_eq_getElem?_getD, getElem?_eq_getElem hlt, Option.getD_some,
    Vector.getElem_toList]
  exact and_iff_right h

theorem lt_of_mem_flags {bitset : BitSet256} {ndx : Nat} (h : ndx ∈ flags bitset) : ndx < 256 := (mem_flags.1 h).1

/-! ## The operations on sets -/

@[simp] theorem flags_empty : flags emptyBitSet256 = ∅ := by
  apply Finset.eq_empty_of_forall_notMem
  intro ndx h
  have hlt := lt_of_mem_flags h
  rw [mem_flags_iff_testBit hlt (by omega)] at h
  simp [emptyBitSet256] at h

theorem flags_insert (bitset : BitSet256) (bitno : UInt8) :
    flags (bs256Insert bitset bitno) = insert bitno.toNat (flags bitset) := by
  have hbit := bitno.toNat_lt
  ext ndx
  rw [Finset.mem_insert]
  by_cases hlt : ndx < 256
  · have hdiv : ndx / 8 < 32 := by omega
    rw [mem_flags_iff_testBit hlt hdiv, mem_flags_iff_testBit hlt hdiv]
    rw [bs256Insert, Vector.getElem_set]
    simp only [toNat_bytendx]
    by_cases hbyte : bitno.toNat / 8 = ndx / 8
    · rw [if_pos hbyte, UInt8.toNat_or, Nat.testBit_or, Bool.or_eq_true, toNat_flagbit, Nat.testBit_two_pow,
        decide_eq_true_eq, or_comm]
      simp only [hbyte]
      refine or_congr ?_ .rfl
      omega
    · rw [if_neg hbyte]
      refine ⟨.inr, fun h => h.resolve_left ?_⟩
      rintro rfl
      exact hbyte rfl
  · refine ⟨fun h => absurd (lt_of_mem_flags h) hlt, fun h => ?_⟩
    rcases h with rfl | h
    · exact absurd hbit hlt
    · exact absurd (lt_of_mem_flags h) hlt

theorem flags_andNot (set1 set2 : BitSet256) : flags (bs256AndNot set1 set2) = flags set1 \ flags set2 := by
  ext ndx
  rw [Finset.mem_sdiff]
  by_cases hlt : ndx < 256
  · have hdiv : ndx / 8 < 32 := by omega
    rw [mem_flags_iff_testBit hlt hdiv, mem_flags_iff_testBit hlt hdiv, mem_flags_iff_testBit hlt hdiv]
    unfold bs256AndNot
    have hnot : ∀ byte : UInt8, (~~~byte).toNat.testBit (ndx % 8) = !byte.toNat.testBit (ndx % 8) := by
      intro byte
      rw [UInt8.toNat_not]
      rw [Nat.sub_sub, Nat.add_comm, Nat.testBit_two_pow_sub_succ byte.toNat_lt, decide_eq_true (Nat.mod_lt _ (by decide)),
        Bool.true_and]
    rw [Vector.getElem_ofFn, UInt8.toNat_and, Nat.testBit_and, hnot]; simp
  · exact ⟨fun h => absurd (lt_of_mem_flags h) hlt, fun h => absurd (lt_of_mem_flags h.1) hlt⟩

theorem flags_inj {set1 set2 : BitSet256} : flags set1 = flags set2 ↔ set1 = set2 := by
  refine ⟨fun h => ?_, fun h => h ▸ rfl⟩
  obtain ⟨bytes1⟩ := set1
  congr 1
  apply Vector.ext
  intro i hi
  rw [← UInt8.toNat_inj]
  apply Nat.eq_of_testBit_eq
  intro k
  by_cases hk : k < 8
  · have hlt : 8 * i + k < 256 := by omega
    have hdiv : (8 * i + k) / 8 = i := by omega
    have hmod : (8 * i + k) % 8 = k := by omega
    have hmem := Finset.ext_iff.1 h (8 * i + k)
    rw [mem_flags_iff_testBit hlt (by omega), mem_flags_iff_testBit hlt (by omega)] at hmem
    simp only [hdiv, hmod] at hmem; exact Bool.eq_iff_iff.2 hmem
  · have hhigh : ∀ byte : UInt8, byte.toNat.testBit k = false := by
      intro byte
      apply Nat.testBit_lt_two_pow
      exact Nat.lt_of_lt_of_le byte.toNat_lt (Nat.pow_le_pow_right (by decide) (Nat.le_of_not_lt hk))
    rw [hhigh, hhigh]

theorem bs256Eq_iff (set1 set2 : BitSet256) : bs256Eq set1 set2 = true ↔ flags set1 = flags set2 := by
  rw [bs256Eq, decide_eq_true_eq, flags_inj]
  cases set1
  cases set2; simp

theorem flags_fromBva (bva : List UInt8) : flags (bs256FromBva bva) = (bva.map UInt8.toNat).toFinset := by
  have hfold : ∀ (bva : List UInt8) (bitset : BitSet256),
      flags (bva.foldl bs256Insert bitset) = (bva.map UInt8.toNat).toFinset ∪ flags bitset := by
    intro bva
    induction bva with
    | nil =>
      simp
    | cons bitno bva ih =>
      intro bitset
      rw [foldl_cons, ih, flags_insert, map_cons, toFinset_cons, Finset.insert_union,
        Finset.union_insert]
  rw [bs256FromBva, hfold, flags_empty, Finset.union_empty]

/-! ## Counting -/

theorem bitsSet_eq (byte : UInt8) : bitsSet byte = (List.range 8).countP fun r => byte.toNat.testBit r := by
  have hmask : ∀ bitndx ∈ List.range 8, ((0x80 : UInt8) >>> UInt8.ofNat bitndx).toNat = 2 ^ (7 - bitndx) := by decide
  have hperm : ((List.range 8).map fun bitndx => 7 - bitndx).Perm (List.range 8) := by decide
  have hcount : ∀ (l : List Nat) (result : Nat), (∀ bitndx ∈ l, bitndx ∈ List.range 8) →
      l.foldl (fun result bitndx =>
        if byte &&& ((0x80 : UInt8) >>> UInt8.ofNat bitndx) ≠ 0 then result + 1 else result) result =
        result + l.countP fun bitndx => byte.toNat.testBit (7 - bitndx) := by
    intro l
    induction l with
    | nil => exact fun result _ => rfl
    | cons bitndx l ih =>
      intro result hl
      have hbit := and_two_pow_ne_zero byte _ (hmask bitndx (hl bitndx mem_cons_self))
      rw [foldl_cons, ih _ fun b hb => hl b (mem_cons_of_mem _ hb), countP_cons]
      simp only [hbit]
      split <;> omega
  rw [bitsSet, hcount _ _ fun _ h => h, Nat.zero_add, ← hperm.countP_eq, countP_map]; rfl

theorem sum_bitsSet (bytes : List UInt8) :
    (bytes.map bitsSet).sum =
      (List.range (8 * bytes.length)).countP fun ndx => (bytes.getD (ndx / 8) 0).toNat.testBit (ndx % 8) := by
  induction bytes with
  | nil => rfl
  | cons byte bytes ih =>
    have hlen : 8 * (byte :: bytes).length = 8 + 8 * bytes.length := by rw [length_cons]; omega
    have hfirst : (List.range 8).countP (fun r => byte.toNat.testBit r) =
        (List.range 8).countP fun ndx => ((byte :: bytes).getD (ndx / 8) 0).toNat.testBit (ndx % 8) := rfl
    have hrest : (List.range (8 * bytes.length)).countP (fun ndx => (bytes.getD (ndx / 8) 0).toNat.testBit (ndx % 8)) =
        (List.range (8 * bytes.length)).countP
          ((fun ndx => ((byte :: bytes).getD (ndx / 8) 0).toNat.testBit (ndx % 8)) ∘ fun x => 8 + x) := by
      apply countP_congr
      intro ndx _
      have hdiv : (8 + ndx) / 8 = ndx / 8 + 1 := by omega
      have hmod : (8 + ndx) % 8 = ndx % 8 := by omega
      rw [Function.comp_apply, hdiv, hmod, getD_cons_succ]
    rw [map_cons, sum_cons, ih, bitsSet_eq, hfirst, hrest, hlen, range_add, countP_append,
      countP_map]

theorem bs256Count_eq_card (bbset : BitSet256) : bs256Count bbset = (flags bbset).card := by
  have hfold : ∀ (bytes : List UInt8) (result : Nat),
      bytes.foldl (fun result byte => result + bitsSet byte) result = result + (bytes.map bitsSet).sum := by
    intro bytes
    induction bytes with
    | nil => exact fun _ => rfl
    | cons byte bytes ih =>
      intro result
      rw [foldl_cons, ih, map_cons, sum_cons, Nat.add_assoc]
  rw [bs256Count, hfold, Nat.zero_add, sum_bitsSet, Vector.length_toList]
  change _ = ((List.range 256).filter _ : List Nat).length
  rw [← countP_eq_length_filter]
  apply countP_congr
  intro ndx hndx
  have hlt := mem_range.1 hndx
  have hnat : (UInt8.ofNat ndx).toNat = ndx := by exact Nat.mod_eq_of_lt hlt
  rw [← hnat, ← bs256Contains_iff, hnat]; exact (decide_eq_true_iff).symm

theorem bs256Count_pos (bbset : BitSet256) : 0 < bs256Count bbset ↔ flags bbset ≠ ∅ := by
  rw [bs256Count_eq_card, Finset.card_pos, Finset.nonempty_iff_ne_empty]

/-! ## Iterating -/

variable (bbflags : BitSet256)

theorem bs256IterFrom_eq (fuel : Nat) :
    ∀ {start : Nat}, 256 - start < fuel →
      bs256IterFrom bbflags fuel start =
      (List.range' start (256 - start)).filter fun ndx => bs256Contains bbflags (UInt8.ofNat ndx) := by
  induction fuel with
  | zero => exact fun h => absurd h (Nat.not_lt_zero _)
  | succ fuel ih =>
    intro start hfuel
    rw [bs256IterFrom]
    cases hnext : bs256IterNext bbflags start with
    | none =>
      rw [bs256IterNext, find?_eq_none] at hnext
      rw [filter_eq_nil_iff.2 hnext]
    | some ndx =>
      dsimp only
      rw [bs256IterNext, find?_eq_some_iff_append] at hnext
      obtain ⟨hndx, pre, post, hsplit, hpre⟩ := hnext
      obtain ⟨k, hk, -, hpost⟩ := range'_eq_append_iff.1 hsplit
      obtain ⟨hstart, hlen, hpost⟩ := range'_eq_cons_iff.1 hpost.symm
      have hrest : 256 - (ndx + 1) = 256 - start - k - 1 := by omega
      have hnil : pre.filter (fun ndx => bs256Contains bbflags (UInt8.ofNat ndx)) = [] := by
        rw [filter_eq_nil_iff]
        intro a ha
        simpa using hpre a ha
      rw [ih (by omega), hsplit, filter_append, hnil, nil_append, filter_cons, if_pos hndx, hrest, hpost]

theorem bs256Iter_eq :
    bs256Iter bbflags = (List.range 256).filter fun ndx => bs256Contains bbflags (UInt8.ofNat ndx) := by
  rw [bs256Iter, bs256IterFrom_eq bbflags 257 (by decide), range_eq_range']

theorem mem_bs256Iter {bbflags : BitSet256} {ndx : Nat} : ndx ∈ bs256Iter bbflags ↔ ndx ∈ flags bbflags := by
  rw [bs256Iter_eq, mem_filter, mem_range, mem_flags]

theorem nodup_bs256Iter : (bs256Iter bbflags).Nodup := by
  rw [bs256Iter_eq]; exact nodup_range.filter _

end Ddc
