import Ddcutil.CapabilitiesCache
import Ddcutil.StrToLong
/-!
# StringCuts — searching, trimming and cutting a string

`str_contains` looks for a segment, `trim_in_place` writes terminators behind a text, and `strsplit_maxlength` cuts a
text into pieces of a bounded length.
-/
namespace Ddc

open Kit List Exec

variable {s t rest mem : List Byte} {n p len : Nat}

/-! ## `str_contains` -/

/-- The loop of `str_contains`, from `ndx` on; a position behind the terminator may not be read. -/
def strContainsFrom (s t : List Byte) : Nat → Nat → Exec Int
  | 0, _ => .ok (-1)
  | left + 1, ndx =>
    if s.length < ndx then .error .outOfBounds
    else if strStartsWith (s.drop ndx) t then .ok ndx else strContainsFrom s t left (ndx + 1)

/-- **`str_contains`** of two strings: both lengths and their difference are cut to an `int`. -/
def strContains (valueToTest segment : List Byte) : Exec Int :=
  let seglen := int32 segment.length
  let laststart := int32 (valueToTest.length - seglen)
  strContainsFrom valueToTest segment laststart.toNat 0

def OccursAt (t s : List Byte) (n : Nat) : Prop := n ≤ s.length ∧ t <+: s.drop n

def FirstAt (t s : List Byte) (n : Nat) : Prop := OccursAt t s n ∧ ∀ m < n, ¬ OccursAt t s m

/-- **What is asked of `str_contains`**: the least position, or -1 where there is none. -/
def ContainsRight (s t : List Byte) : Prop :=
  (∃ n : Nat, FirstAt t s n ∧ strContains s t = .ok n) ∨ (∀ n, ¬ OccursAt t s n) ∧ strContains s t = .ok (-1)

theorem occursAt_iff (h : n ≤ s.length) : strStartsWith (s.drop n) t = true ↔ OccursAt t s n := by
  rw [strStartsWith, isPrefixOf_iff_prefix]; exact (and_iff_right h).symm

theorem FirstAt.unique {m : Nat} (h : FirstAt t s n) (h' : FirstAt t s m) : n = m :=
  Nat.le_antisymm (Nat.le_of_not_lt fun hlt => h.2 m hlt h'.1) (Nat.le_of_not_lt fun hlt => h'.2 n hlt h.1)

theorem strContainsFrom_found (h : FirstAt t s n) :
    ∀ {left ndx : Nat}, ndx ≤ n → n < ndx + left → strContainsFrom s t left ndx = .ok n
  | 0, ndx, hle, hlt => by omega
  | left + 1, ndx, hle, hlt => by
    have hin : ndx ≤ s.length := hle.trans h.1.1
    rw [strContainsFrom, if_neg (Nat.not_lt.2 hin)]
    rcases Nat.eq_or_lt_of_le hle with rfl | hbefore
    · rw [if_pos ((occursAt_iff hin).2 h.1)]
    · rw [if_neg fun hat => h.2 ndx hbefore ((occursAt_iff hin).1 hat)]
      exact strContainsFrom_found h hbefore (by omega)

theorem strContainsFrom_none :
    ∀ {left ndx : Nat}, (∀ m, ndx ≤ m → m < ndx + left → ¬ OccursAt t s m) → ndx + left ≤ s.length + 1 →
      strContainsFrom s t left ndx = .ok (-1)
  | 0, ndx, _, _ => rfl
  | left + 1, ndx, hnone, hin => by
    have hle : ndx ≤ s.length := by omega
    rw [strContainsFrom, if_neg (Nat.not_lt.2 hle),
      if_neg fun hat => hnone ndx (Nat.le_refl _) (by omega) ((occursAt_iff hle).1 hat)]
    exact strContainsFrom_none (fun m hm hlt => hnone m (by omega) (by omega)) (by omega)

theorem strContainsFrom_outside :
    ∀ {left ndx : Nat}, (∀ m, ¬ OccursAt t s m) → s.length + 1 < ndx + left → ndx ≤ s.length + 1 →
      strContainsFrom s t left ndx = .error .outOfBounds
  | 0, ndx, _, hout, hndx => by omega
  | left + 1, ndx, hnone, hout, hndx => by
    rw [strContainsFrom]
    by_cases hle : ndx ≤ s.length
    · rw [if_neg (Nat.not_lt.2 hle), if_neg fun hat => hnone ndx ((occursAt_iff hle).1 hat)]
      exact strContainsFrom_outside hnone (by omega) (by omega)
    · rw [if_pos (Nat.lt_of_not_le hle)]

theorem int32_sub_int32 (a b : Int) : int32 (a - int32 b) = int32 (a - b) := by
  unfold int32
  rw [Int.sub_bmod_bmod]

theorem exists_firstAt (h : OccursAt t s n) : ∃ m, FirstAt t s m := by
  classical
  have hex : ∃ m, OccursAt t s m := ⟨n, h⟩
  exact ⟨Nat.find hex, Nat.find_spec hex, fun m hm => Nat.find_min hex hm⟩

/-- **`str_contains` is right exactly when the loop comes to the first occurrence**, which the one that ends the string
never is, and, where there is none, does not pass the terminator. -/
theorem strContains_right_iff (s t : List Byte) :
    ContainsRight s t ↔
      (∀ n, FirstAt t s n → (n : Int) < int32 (s.length - t.length)) ∧
        ((∀ n, ¬ OccursAt t s n) → int32 (s.length - t.length) ≤ s.length + 1) := by
  unfold ContainsRight strContains
  dsimp only
  rw [int32_sub_int32]
  generalize int32 (s.length - t.length) = last
  by_cases hocc : ∃ n, OccursAt t s n
  · obtain ⟨n₀, h₀⟩ := hocc
    obtain ⟨n, hn⟩ := exists_firstAt h₀
    constructor
    · rintro (⟨m, hm, hm'⟩ | ⟨hnone, -⟩)
      · refine ⟨fun k hk => ?_, fun hnone => absurd h₀ (hnone n₀)⟩
        obtain rfl := hk.unique hm
        by_contra hlast
        have hmiss : strContainsFrom s t last.toNat 0 = .ok (-1) := by
          refine strContainsFrom_none (fun j _ hj => hk.2 j (by omega)) ?_
          have := hk.1.1
          omega
        rw [hmiss] at hm'
        have := Except.ok.inj hm'
        omega
      · exact absurd h₀ (hnone n₀)
    · rintro ⟨hfirst, -⟩
      have hlast := hfirst n hn
      exact .inl ⟨n, hn, strContainsFrom_found hn (Nat.zero_le n) (by omega)⟩
  · have hnone : ∀ n, ¬ OccursAt t s n := fun n hn => hocc ⟨n, hn⟩
    constructor
    · rintro (⟨m, hm, -⟩ | ⟨-, hret⟩)
      · exact absurd hm.1 (hnone m)
      · refine ⟨fun n hn => absurd hn.1 (hnone n), fun _ => ?_⟩
        by_contra hlast
        rw [strContainsFrom_outside hnone (by omega) (Nat.zero_le _)] at hret; cases hret
    · rintro ⟨-, hlast⟩
      have hle := hlast hnone
      exact .inr ⟨hnone, strContainsFrom_none (fun m _ _ => hnone m) (by omega)⟩

/-- `str_contains("abc", "c")` is -1. -/
theorem segmentAtEnd_not_right : ¬ ContainsRight (ascii "abc") (ascii "c") := by
  rintro (⟨n, -, hret⟩ | ⟨hnone, -⟩)
  · have hmiss : strContains (ascii "abc") (ascii "c") = .ok (-1) := by decide +kernel
    have := Except.ok.inj hret
    omega
  · exact hnone 2 ⟨by decide, by decide⟩

/-! ## `trim_in_place` -/

def ltrimInPlace (s : List Byte) : Nat := ((cstr s).takeWhile isspace).length

def trimLoop (p : Nat) : Nat → List Byte → Exec (List Byte)
  | 0, mem => .ok mem
  | len + 1, mem => do
    let c ← fetch mem (p + len)
    if isspace c then do
      let mem ← store mem len 0
      trimLoop p len mem
    else .ok mem

/-- **`trim_in_place`** of the string at the start of a memory: the position it returns, and the memory.  A length that
an `int` cannot hold is given no meaning. -/
def trimInPlace (mem : List Byte) : Exec (Nat × List Byte) := do
  let p := ltrimInPlace mem
  let n ← strlen (mem.drop p)
  if intMax < n then .error .outOfBounds
  else do
    let mem ← trimLoop p n mem
    .ok (p, mem)

def trailing (s : List Byte) : Nat := ((s.dropWhile isspace).rtakeWhile isspace).length

/-- **What is asked of `trim_in_place`** of a string with any memory behind it: what it returns reads as the trimmed
text, and nothing but terminators in the white space behind it is written. -/
def TrimRight (s : CString) : Prop :=
  ∀ junk : List Byte, ∃ p mem, trimInPlace (s.val ++ 0 :: junk) = .ok (p, mem) ∧
    readString (mem.drop p) = .ok (strtrim s.val) ∧ strtrim s.val = rtrimInPlace (s.val.drop (ltrimInPlace s.val)) ∧
      ∀ i, mem[i]? = (s.val ++ 0 :: junk)[i]? ∨
        mem[i]? = some 0 ∧ s.val.length - trailing s.val ≤ i ∧ i < s.val.length

def cleared (mem : List Byte) (p n : Nat) : List Byte := overwrite mem p (List.replicate n 0)

theorem cleared_zero (mem : List Byte) (p : Nat) : cleared mem p 0 = mem := by
  rw [cleared, overwrite, replicate_zero, append_nil, length_nil, Nat.add_zero, take_append_drop]

theorem getElem?_cleared (h : p + n ≤ mem.length) (i : Nat) :
    (cleared mem p n)[i]? = if p ≤ i ∧ i < p + n then some 0 else mem[i]? := by
  have hlen : (mem.take p).length = p := by rw [length_take]; omega
  rw [cleared, overwrite, length_replicate, append_assoc]
  rcases Nat.lt_or_ge i p with hlt | hge
  · rw [getElem?_append_left (by omega), getElem?_take_of_lt hlt, if_neg (by omega)]
  · rw [getElem?_append_right (by omega), hlen]
    by_cases hin : i < p + n
    · rw [getElem?_append_left (by rw [length_replicate]; omega), if_pos ⟨hge, hin⟩,
        getElem?_replicate_of_lt (by omega)]
    · rw [getElem?_append_right (by rw [length_replicate]; omega), if_neg (by omega),
        getElem?_drop, length_replicate]
      congr 1
      omega

theorem set_cleared (h : p + 1 + n ≤ mem.length) : (cleared mem (p + 1) n).set p 0 = cleared mem p (n + 1) := by
  refine ext_getElem? fun i => ?_
  rw [getElem?_set, getElem?_cleared h, getElem?_cleared (by omega)]
  have hlen : (cleared mem (p + 1) n).length = mem.length := by
    rw [cleared, length_overwrite (by rw [length_replicate]; omega)]
  grind

theorem trimLoop_clears (hroom : p + len ≤ mem.length) :
    ∀ {w : Nat}, w ≤ len → (p ≠ 0 → w ≤ p) → (∀ i, len - w ≤ i → i < len → ∃ c ∈ mem[p + i]?, isspace c = true) →
      trimLoop p len mem = trimLoop p (len - w) (cleared mem (len - w) w)
  | 0, _, _, _ => by rw [Nat.sub_zero, cleared_zero]
  | w + 1, hw, hp, hwhite => by
    rw [trimLoop_clears hroom (Nat.le_of_succ_le hw) (fun h => Nat.le_of_succ_le (hp h))
      fun i hi hlt => hwhite i (by omega) hlt]
    obtain ⟨q, rfl⟩ : ∃ q, len = q + (w + 1) := ⟨len - (w + 1), by omega⟩
    obtain ⟨c, hc, hspace⟩ := hwhite q (by omega) (by omega)
    rw [show q + (w + 1) - w = q + 1 by omega, Nat.add_sub_cancel, trimLoop]
    have hread : (cleared mem (q + 1) w)[p + q]? = some c := by
      rw [getElem?_cleared (by omega), if_neg (by omega)]; exact hc
    have hlt : q < (cleared mem (q + 1) w).length := by
      rw [cleared, length_overwrite (by rw [length_replicate]; omega)]; omega
    rw [fetch_eq_ok.2 hread, ok_bind, if_pos hspace, store_of_lt hlt, ok_bind, set_cleared (by omega)]

theorem trimLoop_stops {c : Byte} (h : mem[p + n]? = some c) (hc : isspace c = false) :
    trimLoop p (n + 1) mem = .ok mem := by
  rw [trimLoop, fetch_eq_ok.2 h, ok_bind, hc]; rfl

def turns (k m : Nat) : Nat := if k = 0 then m else min m k

theorem turns_spec (k m : Nat) : turns k m ≤ m ∧ (k = 0 → turns k m = m) ∧ (k ≠ 0 → turns k m = min m k) := by
  unfold turns
  split <;> omega

theorem trimLoop_eq (lead : List Byte) {core tail : List Byte} (junk : List Byte) (hwhite : ∀ c ∈ tail, isspace c = true)
    (hcore : ∀ h : core ≠ [], isspace (core.getLast h) = false) (htail : core = [] → tail = []) :
    trimLoop lead.length (core ++ tail).length (lead ++ (core ++ tail) ++ 0 :: junk) =
      .ok (cleared (lead ++ (core ++ tail) ++ 0 :: junk) ((core ++ tail).length - turns lead.length tail.length)
        (turns lead.length tail.length)) := by
  have hbody : ∀ i < (core ++ tail).length,
      (lead ++ (core ++ tail) ++ 0 :: junk)[lead.length + i]? = (core ++ tail)[i]? := by
    intro i hi
    rw [append_assoc, getElem?_append_right (by omega), Nat.add_sub_cancel_left, getElem?_append_left hi]
  have hlen : (core ++ tail).length = core.length + tail.length := length_append
  have hroom : lead.length + (core ++ tail).length ≤ (lead ++ (core ++ tail) ++ 0 :: junk).length := by
    simp only [length_append, length_cons]; omega
  obtain ⟨hle, hall, hmin⟩ := turns_spec lead.length tail.length
  generalize turns lead.length tail.length = w at hle hall hmin ⊢
  rw [trimLoop_clears hroom (w := w) (by omega) (by omega)]
  · generalize hq : (core ++ tail).length - w = q
    cases q with
    | zero => rfl
    | succ q =>
      by_cases hin : q + 1 ≤ lead.length + q ∧ lead.length + q < q + 1 + w
      · refine trimLoop_stops (c := 0) ?_ (by decide)
        rw [getElem?_cleared (by omega), if_pos hin]
      · have hne : core ≠ [] := by
          intro hnil
          have h₀ := congrArg List.length hnil
          have h₁ := congrArg List.length (htail hnil)
          rw [length_nil] at h₀ h₁; omega
        refine trimLoop_stops (c := core.getLast hne) ?_ (hcore hne)
        rw [getElem?_cleared (by omega), if_neg hin, hbody q (by omega), getElem?_append_left (by omega),
          getLast_eq_getElem, getElem?_eq_getElem (by omega)]
        congr 2
        omega
  · intro i hi hlt
    rw [hbody i hlt, getElem?_append_right (by omega)]
    have hin : i - core.length < tail.length := by omega
    rw [getElem?_eq_getElem hin]; exact ⟨_, rfl, hwhite _ (getElem_mem hin)⟩

theorem eq_of_readString (h : readString mem = .ok t) : ∃ junk, mem = t ++ 0 :: junk := by
  unfold readString at h
  split at h
  · rename_i hmem
    cases h
    have hne : mem.dropWhile (· != 0) ≠ [] := fun hnil => by
      simpa using dropWhile_eq_nil_iff.1 hnil 0 hmem
    have hhead := head_dropWhile_not (· != (0 : Byte)) hne
    refine ⟨(mem.dropWhile (· != 0)).tail, ?_⟩
    have hcons := cons_head_tail hne
    rw [show (mem.dropWhile (· != 0)).head hne = 0 by simpa using hhead] at hcons
    rw [hcons, cstr, takeWhile_append_dropWhile]
  · cases h

theorem exists_parts (s : List Byte) :
    ∃ core tail, s.dropWhile isspace = core ++ tail ∧ core = strtrim s ∧ tail.length = trailing s ∧
      (∀ c ∈ tail, isspace c = true) ∧ (∀ h : core ≠ [], isspace (core.getLast h) = false) ∧ (core = [] → tail = []) := by
  refine ⟨_, _, rdropWhile_append_rtakeWhile.symm, rfl, rfl, fun c => mem_rtakeWhile_imp, fun h => ?_, ?_⟩
  · simpa using rdropWhile_last_not isspace _ h
  · intro hnil
    have hall : s.dropWhile isspace = [] := by
      by_contra hne
      have hhead := rdropWhile_eq_nil_iff.1 hnil _ (head_mem hne)
      rw [head_dropWhile_not isspace hne] at hhead; cases hhead
    rw [hall]; rfl

section
variable (s : CString) (junk : List Byte)

theorem ltrimInPlace_append : ltrimInPlace (s.val ++ 0 :: junk) = (s.val.takeWhile isspace).length := by
  rw [ltrimInPlace, cstr_append s.property]

theorem strlen_behind :
    strlen ((s.val ++ 0 :: junk).drop (s.val.takeWhile isspace).length) = .ok (s.val.dropWhile isspace).length := by
  have hbody : ∀ c ∈ s.val.dropWhile isspace, c ≠ 0 := fun c hc => s.property c (dropWhile_subset _ hc)
  rw [show s.val ++ 0 :: junk = s.val.takeWhile isspace ++ (s.val.dropWhile isspace ++ 0 :: junk) by
    rw [← append_assoc, takeWhile_append_dropWhile], drop_left, strlen_of_mem (mem_zero_append _ _),
    cstr_append hbody]

theorem trimInPlace_huge (hint : intMax < ((s.val.dropWhile isspace).length : Int)) :
    trimInPlace (s.val ++ 0 :: junk) = .error .outOfBounds := by
  unfold trimInPlace
  rw [ltrimInPlace_append]
  dsimp only
  rw [strlen_behind, ok_bind, if_pos hint]

theorem trimInPlace_eq (hint : ((s.val.dropWhile isspace).length : Int) ≤ intMax) : trimInPlace (s.val ++ 0 :: junk) =
    .ok ((s.val.takeWhile isspace).length, cleared (s.val ++ 0 :: junk) ((s.val.dropWhile isspace).length - turns
    (s.val.takeWhile isspace).length (trailing s.val)) (turns (s.val.takeWhile isspace).length (trailing s.val))) := by
  obtain ⟨core, tail, hparts, -, htail, hwhite, hcore, hnil⟩ := exists_parts s.val
  have hs : s.val = s.val.takeWhile isspace ++ (core ++ tail) := by rw [← hparts, takeWhile_append_dropWhile]
  have hloop := trimLoop_eq (s.val.takeWhile isspace) junk hwhite hcore hnil
  rw [← hs, ← hparts, htail] at hloop
  unfold trimInPlace
  rw [ltrimInPlace_append]
  dsimp only
  rw [strlen_behind, ok_bind, if_neg (Int.not_lt.2 hint), hloop]; rfl

end

theorem length_parts (s : List Byte) :
    (s.takeWhile isspace).length + (s.dropWhile isspace).length = s.length ∧
      (strtrim s).length + trailing s = (s.dropWhile isspace).length := by
  constructor
  · rw [← length_append, takeWhile_append_dropWhile]
  · rw [strtrim, trailing, ← length_append, rdropWhile_append_rtakeWhile]

theorem drop_takeWhile (s : List Byte) : s.drop (s.takeWhile isspace).length = s.dropWhile isspace := by
  conv_lhs => arg 2; rw [← takeWhile_append_dropWhile (p := isspace) (l := s)]
  exact drop_left

theorem core_read_iff {lead core tail : List Byte} (junk : List Byte) (hplain : ∀ c ∈ lead ++ (core ++ tail), c ≠ 0)
    (hnil : core = [] → tail = []) :
    (∃ rest, (cleared (lead ++ (core ++ tail) ++ 0 :: junk) ((core ++ tail).length - turns lead.length tail.length)
        (turns lead.length tail.length)).drop lead.length = core ++ 0 :: rest) ↔
      lead.length = 0 ∨ tail.length = 0 ∨ tail.length = 2 * lead.length := by
  have hlen : (core ++ tail).length = core.length + tail.length := length_append
  have hpos : tail.length ≠ 0 → core.length ≠ 0 := fun h hzero =>
    h (by rw [hnil (length_eq_zero_iff.1 hzero), length_nil])
  obtain ⟨hle, hall, hmin⟩ := turns_spec lead.length tail.length
  generalize turns lead.length tail.length = w at hle hall hmin ⊢
  have hsize : (lead ++ (core ++ tail) ++ 0 :: junk).length = lead.length + (core.length + tail.length) + junk.length + 1 := by
    simp only [length_append, length_cons]; omega
  have hcore : ∀ i < core.length, (lead ++ (core ++ tail) ++ 0 :: junk)[lead.length + i]? = core[i]? := by
    intro i hi
    rw [append_assoc, getElem?_append_right (by omega), Nat.add_sub_cancel_left, append_assoc,
      getElem?_append_left hi]
  have hcell : ∀ i, ((cleared (lead ++ (core ++ tail) ++ 0 :: junk) ((core ++ tail).length - w) w).drop lead.length)[i]? =
      if (core ++ tail).length - w ≤ lead.length + i ∧ lead.length + i < (core ++ tail).length - w + w then some 0
      else (lead ++ (core ++ tail) ++ 0 :: junk)[lead.length + i]? := by
    intro i
    rw [getElem?_drop, getElem?_cleared (by omega)]
  constructor
  · rintro ⟨rest, hrest⟩
    by_contra hnot
    have hend : (if (core ++ tail).length - w ≤ lead.length + core.length ∧
        lead.length + core.length < (core ++ tail).length - w + w then some 0
        else (lead ++ (core ++ tail) ++ 0 :: junk)[lead.length + core.length]?) = some 0 := by
      rw [← hcell, hrest, getElem?_append_right (Nat.le_refl _), Nat.sub_self]; rfl
    have hlast := hcell (core.length - 1)
    have hbefore : core.length - 1 < core.length := by omega
    rw [hrest, getElem?_append_left hbefore, getElem?_eq_getElem hbefore] at hlast
    split at hlast
    · exact hplain _ (mem_append_right _ (mem_append_left _ (getElem_mem hbefore)))
        (Option.some.inj hlast)
    · split at hend
      · omega
      · have hin : lead.length + core.length < (lead ++ (core ++ tail)).length := by
          rw [length_append]; omega
        rw [getElem?_append_left hin, getElem?_eq_getElem hin] at hend
        exact hplain _ (getElem_mem hin) (Option.some.inj hend)
  · intro hcases
    refine ⟨((cleared (lead ++ (core ++ tail) ++ 0 :: junk) ((core ++ tail).length - w) w).drop lead.length).drop
      (core.length + 1), ext_getElem? fun i => ?_⟩
    rcases Nat.lt_trichotomy i core.length with hlt | rfl | hgt
    · rw [hcell, if_neg (by omega), hcore i hlt, getElem?_append_left hlt]
    · rw [hcell, getElem?_append_right (Nat.le_refl _), Nat.sub_self, getElem?_cons_zero]
      by_cases htail : tail.length = 0
      · rw [if_neg (by omega), getElem?_append_right (by rw [length_append]; omega), length_append, hlen,
          htail, Nat.add_zero, Nat.sub_self]
        rfl
      · rw [if_pos (by omega)]
    · rw [getElem?_append_right (Nat.le_of_lt hgt), show i - core.length = i - core.length - 1 + 1 by omega,
        getElem?_cons_succ]
      simp only [getElem?_drop]
      congr 1
      omega

/-- **`trim_in_place` is right exactly where** there is no leading or no trailing white space, or twice as much trailing
as leading. -/
theorem trimInPlace_right_iff (s : CString) :
    TrimRight s ↔ ((s.val.dropWhile isspace).length : Int) ≤ intMax ∧
      ((s.val.takeWhile isspace).length = 0 ∨ trailing s.val = 0 ∨
        trailing s.val = 2 * (s.val.takeWhile isspace).length) := by
  obtain ⟨hlen, hcore⟩ := length_parts s.val
  obtain ⟨core, tail, hparts, hstr, htail, -, -, hnil⟩ := exists_parts s.val
  have hs : s.val = s.val.takeWhile isspace ++ (core ++ tail) := by rw [← hparts, takeWhile_append_dropWhile]
  have hread := fun junk => core_read_iff junk (hs ▸ s.property) hnil
  rw [← hs, ← hparts, htail] at hread
  have hplain : ∀ c ∈ core, c ≠ 0 := fun c hc =>
    s.property c (hs ▸ mem_append_right _ (mem_append_left _ hc))
  constructor
  · intro h
    obtain ⟨p, mem, hcall, hval, -, -⟩ := h []
    by_cases hint : ((s.val.dropWhile isspace).length : Int) ≤ intMax
    · rw [trimInPlace_eq s [] hint] at hcall
      cases hcall
      rw [← hstr] at hval; exact ⟨hint, (hread []).1 (eq_of_readString hval)⟩
    · rw [trimInPlace_huge s [] (Int.not_le.1 hint)] at hcall; cases hcall
  · rintro ⟨hint, hcases⟩ junk
    obtain ⟨rest, hrest⟩ := (hread junk).2 hcases
    refine ⟨_, _, trimInPlace_eq s junk hint, ?_, ?_, fun i => ?_⟩
    · rw [hrest, readString_of_mem (mem_zero_append _ _), cstr_append hplain, hstr]
    · rw [ltrimInPlace, cstr_eq s.property, drop_takeWhile]; rfl
    · obtain ⟨hle, hall, hmin⟩ := turns_spec (s.val.takeWhile isspace).length (trailing s.val)
      rw [getElem?_cleared (by rw [length_append]; omega)]
      split
      · exact .inr ⟨rfl, by omega, by omega⟩
      · exact .inl rfl

/-- Of `" a "` the only letter is cleared. -/
theorem blankBothSides_not_right : ¬ TrimRight ⟨ascii " a ", noNul_of_all (by decide)⟩ := by
  intro h
  obtain ⟨p, mem, hcall, hval, -, -⟩ := h []
  have hleft : trimInPlace (ascii " a " ++ [0]) = .ok (1, [0x20, 0, 0x20, 0]) := by decide +kernel
  cases hcall; exact absurd hval (by decide +kernel)

/-! ## `strsplit_maxlength` -/

def behindDelimiter (delims rest : List Byte) : Nat → Option Nat
  | 0 => none
  | n + 1 => if rest[n]?.any delims.contains then some (n + 1) else behindDelimiter delims rest n

def pieceLength (maxPieceLength : Nat) (delims : Option (List Byte)) (rest : List Byte) : Nat :=
  if maxPieceLength < rest.length then
    match delims with
    | some delims => (behindDelimiter delims rest maxPieceLength).getD maxPieceLength
    | none => maxPieceLength
  else rest.length

def strsplitLoop (maxPieceLength : Nat) (delims : Option (List Byte)) : Nat → List Byte → Exec (List (List Byte))
  | _, [] => .ok []
  | 0, _ :: _ => .error .outOfFuel
  | fuel + 1, c :: rest => do
    let piece := cstr ((c :: rest).take (pieceLength maxPieceLength delims (c :: rest)))
    let pieces ← strsplitLoop maxPieceLength delims fuel ((c :: rest).drop piece.length)
    .ok (piece :: pieces)

def strsplitMaxlength (fuel : Nat) (strToSplit : CString) (maxPieceLength : UInt16) (delims : Option (List Byte)) :
    Exec (List (List Byte)) :=
  strsplitLoop maxPieceLength.toNat delims fuel strToSplit.val

/-- **The pieces of a text**: none is empty or longer than the maximum, they make up the text, and one that others
follow ends with a delimiter where its window has one. -/
inductive CutInto (maxPieceLength : Nat) (delims : Option (List Byte)) : List Byte → List (List Byte) → Prop where
  | done : CutInto maxPieceLength delims [] []
  | cut {piece rest : List Byte} {pieces : List (List Byte)} (nonempty : piece ≠ [])
      (length : piece.length ≤ maxPieceLength)
      (delimited : rest ≠ [] → ∀ d ∈ delims, (∃ c ∈ (piece ++ rest).take maxPieceLength, c ∈ d) →
        piece.getLast nonempty ∈ d)
      (others : CutInto maxPieceLength delims rest pieces) : CutInto maxPieceLength delims (piece ++ rest) (piece :: pieces)

variable {d : List Byte} {delims : Option (List Byte)} {max : Nat}

theorem behindDelimiter_eq_none : ∀ {n : Nat}, behindDelimiter d s n = none → ∀ c ∈ s.take n, c ∉ d
  | 0, _, c, hc => by cases hc
  | n + 1, h, c, hc => by
    rw [behindDelimiter] at h
    split at h
    · cases h
    · rename_i hnot
      rw [take_add_one, mem_append] at hc
      rcases hc with hc | hc
      · exact behindDelimiter_eq_none h c hc
      · intro hd
        rw [Option.mem_toList] at hc; exact hnot (by rw [hc]; simpa using hd)

theorem behindDelimiter_eq_some : ∀ {n k : Nat}, behindDelimiter d s n = some k →
    0 < k ∧ k ≤ n ∧ ∃ c ∈ s[k - 1]?, c ∈ d
  | n + 1, k, h => by
    rw [behindDelimiter] at h
    split at h
    · rename_i hat
      cases h
      obtain ⟨c, hc, hd⟩ := (Option.any_eq_true _ _).1 hat
      exact ⟨Nat.succ_pos n, Nat.le_refl _, c, hc, by simpa using hd⟩
    · obtain ⟨hpos, hle, hd⟩ := behindDelimiter_eq_some h
      exact ⟨hpos, Nat.le_succ_of_le hle, hd⟩

theorem pieceLength_spec (delims : Option (List Byte)) (hmax : 0 < max) (hs : s ≠ []) :
    0 < pieceLength max delims s ∧ pieceLength max delims s ≤ max ∧ pieceLength max delims s ≤ s.length := by
  have hpos := length_pos_iff.2 hs
  unfold pieceLength
  split
  · rename_i hlong
    cases delims with
    | none => exact ⟨hmax, Nat.le_refl _, Nat.le_of_lt hlong⟩
    | some d =>
      dsimp only
      cases hd : behindDelimiter d s max with
      | none => exact ⟨hmax, Nat.le_refl _, Nat.le_of_lt hlong⟩
      | some k =>
        obtain ⟨hk, hle, -⟩ := behindDelimiter_eq_some hd
        exact ⟨hk, hle, Nat.le_trans hle (by omega)⟩
  · exact ⟨hpos, by omega, Nat.le_refl _⟩

theorem pieceLength_delimited (hmore : pieceLength max (some d) s < s.length) {c : Byte}
    (hc : c ∈ s.take max) (hd : c ∈ d) : ∃ b ∈ s[pieceLength max (some d) s - 1]?, b ∈ d := by
  unfold pieceLength at hmore ⊢
  split at hmore
  · rename_i hlong
    rw [if_pos hlong]
    dsimp only
    cases hk : behindDelimiter d s max with
    | none => exact absurd hd (behindDelimiter_eq_none hk c hc)
    | some k => exact (behindDelimiter_eq_some hk).2.2
  · exact absurd hmore (Nat.lt_irrefl _)

theorem strsplitLoop_cuts (delims : Option (List Byte)) (hmax : 0 < max) :
    ∀ {fuel : Nat} {s : List Byte}, s.length ≤ fuel → (∀ c ∈ s, c ≠ 0) →
      ∃ pieces, strsplitLoop max delims fuel s = .ok pieces ∧ CutInto max delims s pieces
  | fuel, [], _, _ => ⟨[], by rw [strsplitLoop], .done⟩
  | fuel + 1, c :: rest, hfuel, hplain => by
    obtain ⟨hpos, hle, hin⟩ := pieceLength_spec delims hmax (cons_ne_nil c rest)
    generalize hs : c :: rest = s at hfuel hplain hpos hle hin
    have hpiece : cstr (s.take (pieceLength max delims s)) = s.take (pieceLength max delims s) :=
      cstr_eq fun b hb => hplain b (take_subset _ _ hb)
    have hlen : (s.take (pieceLength max delims s)).length = pieceLength max delims s := by
      rw [length_take, Nat.min_eq_left hin]
    obtain ⟨pieces, hpieces, hcut⟩ := strsplitLoop_cuts delims hmax
      (show (s.drop (pieceLength max delims s)).length ≤ fuel by rw [length_drop]; omega)
      (fun b hb => hplain b (drop_subset _ _ hb))
    refine ⟨s.take (pieceLength max delims s) :: pieces, ?_, ?_⟩
    · rw [← hs, strsplitLoop, hs, hpiece, hlen, hpieces]; rfl
    · have hne : s.take (pieceLength max delims s) ≠ [] := ne_nil_of_length_pos (by rw [hlen]; exact hpos)
      have hall := CutInto.cut hne (by rw [hlen]; exact hle) ?_ hcut
      · rwa [take_append_drop] at hall
      · rintro hmore d rfl ⟨c, hc, hd⟩
        rw [take_append_drop] at hc
        have hlt : pieceLength max (some d) s < s.length := by
          have := length_pos_iff.2 hmore
          rw [length_drop] at this; omega
        obtain ⟨b, hb, hbd⟩ := pieceLength_delimited hlt hc hd
        rw [getLast_eq_getElem, getElem_take]
        rw [Option.mem_def, List.getElem?_eq_some_iff] at hb
        obtain ⟨hlast, rfl⟩ := hb
        simpa only [hlen] using hbd

variable {pieces : List (List Byte)}

section
variable (h : CutInto max delims s pieces)
include h

theorem CutInto.flatten : pieces.flatten = s := by
  induction h with
  | done => rfl
  | cut _ _ _ _ ih => rw [flatten_cons, ih]

theorem CutInto.bounded : ∀ piece ∈ pieces, piece ≠ [] ∧ piece.length ≤ max := by
  induction h with
  | done => exact fun _ hmem => absurd hmem not_mem_nil
  | cut hne hle _ _ ih => exact forall_mem_cons.2 ⟨⟨hne, hle⟩, ih⟩

theorem CutInto.delimited_of_followed {before after : List (List Byte)} {piece : List Byte}
    (hpieces : pieces = before ++ piece :: after) (hafter : after ≠ []) (hd : d ∈ delims)
    (hwindow : ∃ c ∈ (piece ++ after.flatten).take max, c ∈ d) : ∃ c ∈ piece.getLast?, c ∈ d := by
  induction h generalizing before with
  | done => exact absurd hpieces.symm (append_ne_nil_of_right_ne_nil _ (cons_ne_nil _ _))
  | cut hne hle hdelim hothers ih =>
    rcases cons_eq_append_iff.1 hpieces with ⟨-, heq⟩ | ⟨before', -, hrest⟩
    · obtain ⟨rfl, rfl⟩ := List.cons.inj heq
      rw [hothers.flatten] at hwindow
      have hrest : ¬ after.flatten = [] := by
        obtain ⟨next, after', rfl⟩ := exists_cons_of_ne_nil hafter
        have hnext := (hothers.bounded next mem_cons_self).1
        rw [flatten_cons]; exact append_ne_nil_of_left_ne_nil hnext _
      rw [hothers.flatten] at hrest
      exact ⟨_, getLast?_eq_some_getLast hne, hdelim hrest d hd hwindow⟩
    · exact ih hrest

end

/-- **`strsplit_maxlength` ends**, after at most one turn for each byte, with the text cut into pieces. -/
theorem strsplitMaxlength_cuts (s : CString) (maxPieceLength : UInt16) (hmax : 1 ≤ maxPieceLength.toNat)
    (delims : Option (List Byte)) (fuel : Nat) (hfuel : s.val.length ≤ fuel) :
    ∃ pieces, strsplitMaxlength fuel s maxPieceLength delims = .ok pieces ∧ pieces.flatten = s.val ∧
      (∀ piece ∈ pieces, piece ≠ [] ∧ piece.length ≤ maxPieceLength.toNat) ∧
        ∀ before piece after, pieces = before ++ piece :: after → after ≠ [] → ∀ d ∈ delims,
          (∃ c ∈ (piece ++ after.flatten).take maxPieceLength.toNat, c ∈ d) → ∃ c ∈ piece.getLast?, c ∈ d := by
  obtain ⟨pieces, hpieces, hcut⟩ := strsplitLoop_cuts delims hmax hfuel s.property
  exact ⟨pieces, hpieces, hcut.flatten, hcut.bounded,
    fun _ _ _ heq hafter _ hd hwindow => hcut.delimited_of_followed heq hafter hd hwindow⟩

theorem strsplitMaxlength_cuts_blanks :
    ∃ pieces, strsplitMaxlength 5 ⟨ascii "ab cd", noNul_of_all (by decide)⟩ 4 (some (ascii " ")) = .ok pieces ∧
      pieces.flatten = ascii "ab cd" := by
  obtain ⟨pieces, hpieces, hall, -⟩ := strsplitMaxlength_cuts ⟨ascii "ab cd", noNul_of_all (by decide)⟩ 4 (by decide)
    (some (ascii " ")) 5 (by decide)
  exact ⟨pieces, hpieces, hall⟩

end Ddc
