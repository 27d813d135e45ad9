import Ddcutil.StringUtil
/-!
# Asciify — text in a buffer of the thread

`base_asciify` spells the bytes of a text that are not printable in hex, in memory that it counts beforehand.
-/
namespace Ddc

open Kit List Exec

def isBadChar (b : Byte) : Bool := b &&& 0x80 != 0 || decide (b < 32)

def isPrintable (b : Byte) : Bool := decide (32 ≤ b) && decide (b < 128)

def hexEscape (b : Byte) : List Byte := ascii "<x" ++ hexByte false b ++ ascii ">"

def asciified (s : List Byte) : List Byte := s.flatMap fun b => if isPrintable b then [b] else hexEscape b

/-! ## In new memory -/

structure AsciifyState where
  result : List Byte
  respos : Nat

def asciifyTurn (st : AsciifyState) (b : Byte) : Exec AsciifyState :=
  if isPrintable b then do
    let result ← store st.result st.respos b
    pure ⟨result, st.respos + 1⟩
  else do
    let result ← blit st.result st.respos (hexEscape b ++ [0])
    pure ⟨result, st.respos + 5⟩

def asciifyReqd (s : List Byte) : Nat := s.length + 1 + 4 * s.countP isBadChar

def baseAsciify (s : List Byte) : Exec (List Byte) :=
  if intMax < asciifyReqd s then .error .outOfBounds
  else do
    let st ← s.foldlM asciifyTurn ⟨malloc (asciifyReqd s), 0⟩
    let result ← store st.result st.respos 0
    check (st.respos = asciifyReqd s - 1)
    pure result

theorem length_hexEscape (b : Byte) : (hexEscape b).length = 5 := rfl

theorem isBadChar_eq (b : Byte) : isBadChar b = !isPrintable b :=
  forall_byte (P := fun b => isBadChar b = !isPrintable b) (by decide +kernel) b

theorem asciified_append (s t : List Byte) : asciified (s ++ t) = asciified s ++ asciified t := flatMap_append

theorem asciified_singleton (b : Byte) : asciified [b] = if isPrintable b then [b] else hexEscape b := by
  simp [asciified]

theorem length_asciified (s : List Byte) : (asciified s).length + 1 = asciifyReqd s := by
  unfold asciifyReqd
  induction s with
  | nil => rfl
  | cons b s ih =>
    rw [← singleton_append, asciified_append, asciified_singleton, length_append, length_append,
      countP_append, countP_singleton, isBadChar_eq]
    cases isPrintable b with
    | true =>
      simp
      omega
    | false =>
      simp [length_hexEscape]
      omega

theorem asciified_no_nul (s : List Byte) : ∀ b ∈ asciified s, b ≠ 0 := by
  intro b hb
  obtain ⟨d, -, hd⟩ := mem_flatMap.1 hb
  split at hd
  · rename_i hprint
    rw [mem_singleton.1 hd]
    rintro rfl
    exact absurd hprint (by decide)
  · have hall := forall_byte (P := fun d => (hexEscape d).all (· != 0) = true) (by decide +kernel) d
    exact bne_iff_ne.1 (all_eq_true.1 hall b hd)

structure AsciifyState.Holds (st : AsciifyState) (size : Nat) (text : List Byte) : Prop where
  respos : st.respos = text.length
  front : st.result.take st.respos = text
  size : st.result.length = size

variable {text s : List Byte} {t : ThreadBuffer} {n : Nat}

theorem asciifyTurn_eq_ok {st : AsciifyState} {size : Nat} {b : Byte} (h : st.Holds size text)
    (hroom : (text ++ asciified [b]).length < size) :
    ∃ st', asciifyTurn st b = .ok st' ∧ st'.Holds size (text ++ asciified [b]) := by
  rw [asciified_singleton] at hroom ⊢
  rw [length_append] at hroom
  unfold asciifyTurn
  cases hprint : isPrintable b with
  | true =>
    have hpos : st.respos < st.result.length := by rw [h.respos, h.size]; omega
    rw [if_pos rfl, if_pos rfl, store_of_lt hpos]
    refine ⟨_, rfl, ?_, ?_, ?_⟩
    · rw [length_append, h.respos, length_singleton]
    · rw [take_add_one, getElem?_set_self hpos, take_set_of_le (Nat.le_refl _), h.front]; rfl
    · rw [length_set, h.size]
  | false =>
    rw [hprint, if_neg Bool.false_ne_true, length_hexEscape] at hroom
    have hle : st.respos + (hexEscape b ++ [0]).length ≤ st.result.length := by
      rw [length_append, length_hexEscape, length_singleton, h.respos, h.size]; omega
    have hpos : st.respos ≤ st.result.length := Nat.le_trans (Nat.le_add_right _ _) hle
    have hlen : st.respos + 5 = (text ++ hexEscape b).length := by
      rw [length_append, length_hexEscape, h.respos]
    have hwritten : (overwrite st.result st.respos (hexEscape b ++ [0])).take (st.respos + 6) =
        (text ++ hexEscape b) ++ [0] := by
      have htake := @take_overwrite Byte st.result (hexEscape b ++ [0]) st.respos hpos
      rw [h.front, ← append_assoc] at htake; exact htake
    rw [if_neg Bool.false_ne_true, if_neg Bool.false_ne_true, blit_of_le hle]
    refine ⟨_, rfl, hlen, ?_, ?_⟩
    · have hmin : min (st.respos + 5) (st.respos + 6) = st.respos + 5 := by omega
      rw [← hmin, ← take_take, hwritten, hlen, take_left]
    · rw [length_overwrite hle, h.size]

theorem asciifyTurns_eq_ok {size : Nat} (s : List Byte) : ∀ {st : AsciifyState} {text : List Byte}, st.Holds size text →
    (text ++ asciified s).length < size →
      ∃ st', s.foldlM asciifyTurn st = .ok st' ∧ st'.Holds size (text ++ asciified s) := by
  induction s with
  | nil =>
    intro st text h _
    refine ⟨st, rfl, ?_⟩
    rwa [asciified, flatMap_nil, append_nil]
  | cons b s ih =>
    intro st text h hroom
    rw [← singleton_append, asciified_append, ← append_assoc] at hroom
    have hnext : (text ++ asciified [b]).length < size := by rw [length_append] at hroom; omega
    obtain ⟨st', hst', h'⟩ := asciifyTurn_eq_ok h hnext
    obtain ⟨st'', hst'', h''⟩ := ih h' hroom
    refine ⟨st'', by rw [foldlM_cons, hst', ok_bind, hst''], ?_⟩
    rwa [← singleton_append, asciified_append, ← append_assoc]

theorem baseAsciify_eq_ok (h : (asciifyReqd s : Int) ≤ intMax) : baseAsciify s = .ok (asciified s ++ [0]) := by
  have hsize := length_asciified s
  have hstart : AsciifyState.Holds ⟨malloc (asciifyReqd s), 0⟩ (asciifyReqd s) [] :=
    ⟨rfl, take_zero, length_malloc _⟩
  have hroom : ([] ++ asciified s).length < asciifyReqd s := by rw [nil_append]; omega
  obtain ⟨st, hst, hholds⟩ := asciifyTurns_eq_ok s hstart hroom
  rw [nil_append] at hholds
  have hpos : st.respos < st.result.length := by rw [hholds.respos, hholds.size]; omega
  have hassert : st.respos = asciifyReqd s - 1 := by rw [hholds.respos]; omega
  have hall : st.result.set st.respos 0 = asciified s ++ [0] := by
    have hlast : st.respos + 1 = (st.result.set st.respos 0).length := by
      rw [length_set, hholds.size, hholds.respos, hsize]
    rw [← take_length (l := st.result.set st.respos 0), ← hlast, take_add_one, getElem?_set_self hpos,
      take_set_of_le (Nat.le_refl _), hholds.front]
    rfl
  rw [baseAsciify, if_neg (Int.not_lt.2 h), hst, ok_bind, store_of_lt hpos, ok_bind, check_pos hassert, hall]
  rfl

/-! ## In the buffer of the thread -/

structure ThreadBuffer where
  buf : Option (List Byte)
  bufsz : Option Nat

def ThreadBuffer.start : ThreadBuffer := ⟨none, none⟩

def gNew (n : Nat) : Option (List Byte) := if n = 0 then none else some (malloc n)

def getThreadDynamicBuffer (t : ThreadBuffer) (requiredSize : UInt16) : ThreadBuffer :=
  match t.bufsz with
  | none => ⟨gNew requiredSize.toNat, some requiredSize.toNat⟩
  | some bufsz => if bufsz < requiredSize.toNat then ⟨gNew requiredSize.toNat, some requiredSize.toNat⟩ else t

def strcpyTo (buf : Option (List Byte)) (text : List Byte) : Exec (List Byte) :=
  match buf with
  | none => .error .nullDeref
  | some buf => blit buf 0 (text ++ [0])

def baseAsciifyT (t : ThreadBuffer) (s : List Byte) : Exec (ThreadBuffer × List Byte) := do
  let buftemp ← baseAsciify s
  let text ← readString buftemp
  let buf ← strcpyTo (getThreadDynamicBuffer t (UInt16.ofNat (s.length + 1))).buf text
  let returned ← readString buf
  pure (⟨some buf, (getThreadDynamicBuffer t (UInt16.ofNat (s.length + 1))).bufsz⟩, returned)

def asciifyRun (calls : List (List Byte)) : Exec ThreadBuffer :=
  calls.foldlM (fun t s => Prod.fst <$> baseAsciifyT t s) .start

def ThreadBuffer.allocated (t : ThreadBuffer) : Nat := t.buf.elim 0 List.length

def ThreadBuffer.Sound (t : ThreadBuffer) : Prop := ∀ n ∈ t.bufsz, n ≤ t.allocated

/-- **What is asked of a call**: it writes in the buffer only and returns the text with its bytes replaced. -/
def AsciifiedRight (t : ThreadBuffer) (s : List Byte) : Prop :=
  ∃ t', baseAsciifyT t s = .ok (t', asciified s) ∧ t'.Sound

def roomAsked (calls : List (List Byte)) : Nat := (calls.map fun s => (UInt16.ofNat (s.length + 1)).toNat).foldl max 0

variable (calls : List (List Byte))

theorem roomAsked_concat (s : List Byte) :
    roomAsked (calls ++ [s]) = max (roomAsked calls) (UInt16.ofNat (s.length + 1)).toNat := by
  simp [roomAsked]

theorem roomAsked_lt : roomAsked calls < 65536 := by
  induction calls using List.reverseRecOn with
  | nil => decide
  | append_singleton calls s ih =>
    have hlt := (UInt16.ofNat (s.length + 1)).toNat_lt
    rw [roomAsked_concat]; omega

structure ThreadBuffer.HasRoom (t : ThreadBuffer) (n : Nat) : Prop where
  allocated : t.allocated = n
  recorded : t.bufsz = some n

theorem allocated_gNew (n : Nat) : (gNew n).elim 0 List.length = n := by
  unfold gNew
  split
  · rename_i hn; exact hn.symm
  · exact length_malloc n

def ThreadBuffer.Reached (t : ThreadBuffer) (n : Nat) : Prop := t = .start ∧ n = 0 ∨ t.HasRoom n

theorem getThreadDynamicBuffer_hasRoom (h : t.Reached n) (requiredSize : UInt16) :
    (getThreadDynamicBuffer t requiredSize).HasRoom (max n requiredSize.toNat) := by
  unfold getThreadDynamicBuffer
  rcases h with ⟨rfl, rfl⟩ | h
  · exact ⟨allocated_gNew _, rfl⟩
  · rw [h.recorded]
    dsimp only
    split
    · rename_i hlt
      rw [Nat.max_eq_right (Nat.le_of_lt hlt)]; exact ⟨allocated_gNew _, rfl⟩
    · rename_i hle
      rw [Nat.max_eq_left (Nat.le_of_not_lt hle)]; exact h

theorem strcpyTo_eq_ok {buf : Option (List Byte)} (h : text.length < buf.elim 0 List.length) :
    ∃ junk, strcpyTo buf text = .ok (text ++ 0 :: junk) ∧ (text ++ 0 :: junk).length = buf.elim 0 List.length := by
  cases buf with
  | none => cases h
  | some buf =>
    have hle : 0 + (text ++ [0]).length ≤ buf.length := by
      rw [Nat.zero_add, length_append, length_singleton]; exact h
    have hwritten : overwrite buf 0 (text ++ [0]) = text ++ 0 :: buf.drop (0 + (text ++ [0]).length) := by
      simp [overwrite]
    refine ⟨buf.drop (0 + (text ++ [0]).length), ?_, ?_⟩
    · rw [strcpyTo, blit_of_le hle, hwritten]
    · rw [← hwritten, length_overwrite hle]; rfl

theorem lt_of_strcpyTo {buf : Option (List Byte)} {mem : List Byte} (h : strcpyTo buf text = .ok mem) :
    text.length < buf.elim 0 List.length ∧ mem.length = buf.elim 0 List.length := by
  cases buf with
  | none => cases h
  | some buf =>
    change blit buf 0 (text ++ [0]) = .ok mem at h
    by_cases hle : 0 + (text ++ [0]).length ≤ buf.length
    · rw [blit_of_le hle] at h
      cases h
      refine ⟨?_, length_overwrite hle⟩
      rw [Nat.zero_add, length_append, length_singleton] at hle; exact hle
    · rw [blit_of_lt (Nat.lt_of_not_le hle)] at h; cases h

theorem baseAsciifyT_eq_ok (h : t.Reached n) (hn : n < 65536)
    (hfits : (asciified s).length < max n (UInt16.ofNat (s.length + 1)).toNat) :
    ∃ t', baseAsciifyT t s = .ok (t', asciified s) ∧ t'.HasRoom (max n (UInt16.ofNat (s.length + 1)).toNat) := by
  have hroom := getThreadDynamicBuffer_hasRoom h (UInt16.ofNat (s.length + 1))
  have hint : (asciifyReqd s : Int) ≤ intMax := by
    have hlt := (UInt16.ofNat (s.length + 1)).toNat_lt
    rw [← length_asciified]
    unfold intMax; omega
  rw [← hroom.allocated] at hfits
  obtain ⟨junk, hcopy, hlen⟩ := strcpyTo_eq_ok hfits
  have hplain := asciified_no_nul s
  refine ⟨⟨some (asciified s ++ 0 :: junk), _⟩, ?_, ?_, hroom.recorded⟩
  · rw [baseAsciifyT, baseAsciify_eq_ok hint, ok_bind, readString_of_mem (mem_zero_append _ _),
      cstr_append hplain, ok_bind, hcopy, ok_bind, readString_of_mem (mem_zero_append _ _),
      cstr_append hplain]
    rfl
  · rw [← hroom.allocated]; exact hlen

theorem fits_of_baseAsciifyT {t' : ThreadBuffer} (h : t.Reached n) {returned : List Byte}
    (hcall : baseAsciifyT t s = .ok (t', returned)) :
    (asciified s).length < max n (UInt16.ofNat (s.length + 1)).toNat := by
  have hroom := getThreadDynamicBuffer_hasRoom h (UInt16.ofNat (s.length + 1))
  obtain ⟨buftemp, hbuftemp, hcall⟩ := bind_eq_ok.1 hcall
  have hint : (asciifyReqd s : Int) ≤ intMax := by
    by_contra hgt
    rw [baseAsciify, if_pos (Int.not_le.1 hgt)] at hbuftemp; cases hbuftemp
  rw [baseAsciify_eq_ok hint] at hbuftemp
  cases hbuftemp
  rw [readString_of_mem (mem_zero_append _ _), cstr_append (asciified_no_nul s), ok_bind] at hcall
  obtain ⟨mem, hmem, -⟩ := bind_eq_ok.1 hcall
  rw [← hroom.allocated]; exact (lt_of_strcpyTo hmem).1

theorem ThreadBuffer.HasRoom.sound (h : t.HasRoom n) : t.Sound := by
  intro m hm
  rw [h.recorded] at hm
  cases hm; exact Nat.le_of_eq h.allocated.symm

theorem ThreadBuffer.Reached.sound (h : t.Reached n) : t.Sound := by
  rcases h with ⟨rfl, -⟩ | h
  · exact fun m hm => by cases hm
  · exact h.sound

theorem asciifiedRight_iff (h : t.Reached n) (hn : n < 65536) (s : List Byte) :
    AsciifiedRight t s ↔ (asciified s).length < max n (UInt16.ofNat (s.length + 1)).toNat := by
  constructor
  · rintro ⟨t', hcall, -⟩
    exact fits_of_baseAsciifyT h hcall
  · intro hfits
    obtain ⟨t', hcall, hroom⟩ := baseAsciifyT_eq_ok h hn hfits
    exact ⟨t', hcall, hroom.sound⟩

/-! ## Every run of calls -/

def EachFits (calls : List (List Byte)) : Prop :=
  ∀ earlier s later, calls = earlier ++ s :: later → (asciified s).length < roomAsked (earlier ++ [s])

theorem asciifyRun_concat (s : List Byte) :
    asciifyRun (calls ++ [s]) = asciifyRun calls >>= fun t => Prod.fst <$> baseAsciifyT t s := by
  simp only [asciifyRun, foldlM_append, foldlM_cons, foldlM_nil, bind_pure]

theorem asciifyRun_reached {calls : List (List Byte)} : ∀ {t : ThreadBuffer}, asciifyRun calls = .ok t →
    t.Reached (roomAsked calls) := by
  induction calls using List.reverseRecOn with
  | nil =>
    intro t h
    cases h; exact .inl ⟨rfl, rfl⟩
  | append_singleton calls s ih =>
    intro t h
    rw [asciifyRun_concat] at h
    obtain ⟨t₁, hrun, hlast⟩ := bind_eq_ok.1 h
    obtain ⟨⟨t', returned⟩, hcall, rfl⟩ := map_eq_ok.1 hlast
    have hreached := ih hrun
    have hfits := fits_of_baseAsciifyT hreached hcall
    obtain ⟨t'', hcall', hroom⟩ := baseAsciifyT_eq_ok hreached (roomAsked_lt calls) hfits
    rw [hcall] at hcall'
    cases hcall'
    rw [roomAsked_concat]; exact .inr hroom

theorem asciifyRun_eq_ok {calls : List (List Byte)} (h : EachFits calls) : ∃ t, asciifyRun calls = .ok t := by
  induction calls using List.reverseRecOn with
  | nil => exact ⟨_, rfl⟩
  | append_singleton calls s ih =>
    have hfront : EachFits calls := by
      rintro earlier s' later rfl
      exact h earlier s' (later ++ [s]) (by rw [append_assoc, cons_append])
    obtain ⟨t, hrun⟩ := ih hfront
    have hfits := h calls s [] rfl
    rw [roomAsked_concat] at hfits
    obtain ⟨t', hcall, -⟩ := baseAsciifyT_eq_ok (asciifyRun_reached hrun) (roomAsked_lt calls) hfits
    refine ⟨t', ?_⟩
    rw [asciifyRun_concat, hrun, ok_bind, hcall]; rfl

/-- **Every call of a run is right exactly when each text, spelled out, fits** in the room that was asked for. -/
theorem asciifyRun_right_iff (calls : List (List Byte)) :
    (∀ earlier s later, calls = earlier ++ s :: later →
      ∃ t, asciifyRun earlier = .ok t ∧ t.Sound ∧ AsciifiedRight t s) ↔ EachFits calls := by
  constructor
  · intro h earlier s later hcalls
    obtain ⟨t, hrun, -, hright⟩ := h earlier s later hcalls
    rw [roomAsked_concat]
    exact (asciifiedRight_iff (asciifyRun_reached hrun) (roomAsked_lt earlier) s).1 hright
  · rintro h earlier s later rfl
    have hfront : EachFits earlier := by
      rintro front s' back rfl
      exact h front s' (back ++ s :: later) (by rw [append_assoc, cons_append])
    obtain ⟨t, hrun⟩ := asciifyRun_eq_ok hfront
    have hfits := h earlier s later rfl
    rw [roomAsked_concat] at hfits
    have hreached := asciifyRun_reached hrun
    exact ⟨t, hrun, hreached.sound, (asciifiedRight_iff hreached (roomAsked_lt earlier) s).2 hfits⟩

/-- One byte is spelled with five characters, in a buffer of two bytes. -/
theorem latin1_not_right : ¬ AsciifiedRight .start [0xe9] := by
  intro h
  have hstart : ThreadBuffer.start.Reached 0 := .inl ⟨rfl, rfl⟩
  have hfits := (asciifiedRight_iff hstart (by decide) [0xe9]).1 h
  exact absurd hfits (by decide +kernel)

end Ddc
