import Ddcutil.Kit.Items
import Ddcutil.Kit.Loop
import Mathlib.Data.List.Induction
/-!
# HidReportDescriptor — the items of a HID report descriptor (base_hid_report_descriptor.c)

`tokenizeHidReportDescriptor` cuts the bytes of a report descriptor in items.  The loop looks only at where an item
begins, so it reads past the array exactly when the last item is cut (`tokenizeHidReportDescriptor_iff`).
-/
namespace Ddc

open Kit List Exec

/-- `struct hid_report_item`, without its link: the items are a list.  `dataAlt` is the value in the member of the union
that has the item's size. -/
structure HidReportDescriptorItem where
  rawBytes : List UInt8
  btype : UInt8
  btag : UInt8
  bsizeBytect : UInt8
  data : Nat
  dataAlt : Nat
  deriving DecidableEq, Repr

def bsizeBytect (b0 : UInt8) : UInt8 := if b0 &&& 0x03 = 3 then 4 else b0 &&& 0x03

def hidItemData (b : List UInt8) (i n : Nat) : Exec Nat :=
  (List.range n).foldlM (fun data j => do
    let x ← fetch b (i + 1 + j)
    pure ((data + x.toNat <<< (8 * j)) % 2 ^ 32)) 0

def dataAltChecked (alt data : Nat) : Exec Nat := do
  check (alt = data)
  pure alt

def hidItemDataAlt (b : List UInt8) (i : Nat) (bytect : UInt8) (data : Nat) : Exec Nat :=
  if bytect = 4 then do
    let b3 ← fetch b (i + 1 + 3)
    let b2 ← fetch b (i + 1 + 2)
    let b1 ← fetch b (i + 1 + 1)
    let b0 ← fetch b (i + 1)
    dataAltChecked ((b3.toNat <<< 24 ||| b2.toNat <<< 16 ||| b1.toNat <<< 8 ||| b0.toNat) % 2 ^ 32) data
  else if bytect = 2 then do
    let b1 ← fetch b (i + 1 + 1)
    let b0 ← fetch b (i + 1)
    dataAltChecked ((b1.toNat <<< 8 ||| b0.toNat) % 2 ^ 16) data
  else if bytect = 1 then do
    let b0 ← fetch b (i + 1)
    dataAltChecked b0.toNat data
  else do
    check (bytect = 0)
    pure 0

def hidReportItemAt (b : List UInt8) (i : Nat) : Exec HidReportDescriptorItem := do
  let bi ← fetch b i
  let src ← span b i (1 + (bsizeBytect bi).toNat)
  let rawBytes ← blit (List.replicate 5 0) 0 src
  let data ← hidItemData b i (bsizeBytect bi).toNat
  let dataAlt ← hidItemDataAlt b i (bsizeBytect bi) data
  pure ⟨rawBytes, (bi &&& 0x0c) >>> 2, bi &&& ~~~0x03, bsizeBytect bi, data, dataAlt⟩

structure TokenizeState where
  i : Nat
  items : List HidReportDescriptorItem

def tokenizeTurn (b : List UInt8) (st : TokenizeState) : Exec TokenizeState := do
  let cur ← hidReportItemAt b st.i
  pure ⟨st.i + 1 + cur.bsizeBytect.toNat, st.items ++ [cur]⟩

def itemLeft (b : List UInt8) (st : TokenizeState) : Bool := st.i < b.length

def tokenizeLoop (b : List UInt8) (fuel : Nat) (st : TokenizeState) : Exec TokenizeState :=
  whileLoop (itemLeft b) (tokenizeTurn b) fuel st

def tokenizeHidReportDescriptor (b : List UInt8) : Exec (List HidReportDescriptorItem) :=
  TokenizeState.items <$> tokenizeLoop b b.length ⟨0, []⟩

def HidReportDescriptorItem.raw (item : HidReportDescriptorItem) : List UInt8 :=
  item.rawBytes.take (1 + item.bsizeBytect.toNat)

def dataBytes (b0 : UInt8) : Nat := (bsizeBytect b0).toNat

/-! ## One item -/

theorem bsizeBytect_cases (b0 : UInt8) :
    bsizeBytect b0 = 0 ∨ bsizeBytect b0 = 1 ∨ bsizeBytect b0 = 2 ∨ bsizeBytect b0 = 4 :=
  forall_byte (P := fun b => bsizeBytect b = 0 ∨ bsizeBytect b = 1 ∨ bsizeBytect b = 2 ∨ bsizeBytect b = 4)
    (by decide +kernel) b0

theorem dataBytes_le (b0 : UInt8) : dataBytes b0 ≤ 4 := by
  unfold dataBytes
  rcases bsizeBytect_cases b0 with h | h | h | h <;> rw [h] <;> decide

theorem hidItemData_eq {pre data row : List UInt8} (b0 : UInt8) (h : data.length ≤ 4) :
    hidItemData (pre ++ b0 :: (data ++ row)) pre.length data.length = .ok (littleEndian data) := by
  induction data using List.reverseRecOn generalizing row with
  | nil => rfl
  | append_singleton data x ih =>
    have hlen : data.length ≤ 3 := by rw [length_append, length_singleton] at h; omega
    have hread : fetch (pre ++ b0 :: (data ++ [x] ++ row)) (pre.length + 1 + data.length) = .ok x := by
      rw [fetch_eq_ok]
      simp [Nat.add_assoc, Nat.add_comm 1]
    have hsum : (littleEndian data + x.toNat <<< (8 * data.length)) % 2 ^ 32 = littleEndian (data ++ [x]) := by
      have hbound := littleEndian_lt (data ++ [x])
      have hpow : 256 ^ (data ++ [x]).length ≤ 256 ^ 4 := Nat.pow_le_pow_right (by decide) h
      have h256 : 2 ^ (8 * data.length) = 256 ^ data.length := by rw [Nat.pow_mul]
      rw [Nat.shiftLeft_eq, h256, Nat.mul_comm, ← littleEndian_append]
      exact Nat.mod_eq_of_lt (Nat.lt_of_lt_of_le hbound hpow)
    have hprev := @ih (x :: row) (Nat.le_succ_of_le hlen)
    unfold hidItemData at hprev ⊢
    rw [length_append, length_singleton, range_succ, foldlM_append, append_assoc,
      singleton_append, hprev, ok_bind, foldlM_cons]
    rw [append_assoc, singleton_append] at hread
    rw [hread, ok_bind, hsum]; rfl

theorem fetch_behind {pre row : List UInt8} {i : Nat} {x : UInt8} (h : row[i]? = some x) :
    fetch (pre ++ row) (pre.length + i) = .ok x := by
  rw [fetch_eq_ok, getElem?_append_right (Nat.le_add_right _ i), Nat.add_sub_cancel_left, h]

theorem dataAltChecked_eq {alt data : Nat} (h : alt = data) : dataAltChecked alt data = .ok data := by
  rw [dataAltChecked, check_pos h, h]; rfl

theorem hidItemDataAlt_eq {pre data row : List UInt8} (b0 : UInt8) (h : data.length = dataBytes b0) :
    hidItemDataAlt (pre ++ b0 :: (data ++ row)) pre.length (bsizeBytect b0) (littleEndian data) =
      .ok (littleEndian data) := by
  unfold dataBytes at h
  have hread : ∀ {i : Nat} {x : UInt8}, (b0 :: (data ++ row))[1 + i]? = some x →
      fetch (pre ++ b0 :: (data ++ row)) (pre.length + 1 + i) = .ok x := by
    intro i x hx
    rw [Nat.add_assoc]; exact fetch_behind hx
  rcases bsizeBytect_cases b0 with hct | hct | hct | hct <;> rw [hct] at h ⊢
  · obtain rfl := length_eq_zero_iff.1 h
    rfl
  · obtain ⟨d0, rfl⟩ := length_eq_one_iff.1 h
    have h0 := hread (i := 0) (x := d0) rfl
    have hvalue : d0.toNat = littleEndian [d0] := (Nat.add_zero _).symm
    rw [hidItemDataAlt, if_neg (by decide), if_neg (by decide), if_pos rfl, h0, ok_bind,
      dataAltChecked_eq hvalue]
  · obtain ⟨d0, d1, rfl⟩ := length_eq_two.1 h
    have h0 := hread (i := 0) (x := d0) rfl
    have h1 := hread (i := 1) (x := d1) rfl
    have hvalue : (d1.toNat <<< 8 ||| d0.toNat) % 2 ^ 16 = littleEndian [d0, d1] := by
      have hlt : littleEndian [d0, d1] < 2 ^ 16 := by simpa using littleEndian_lt [d0, d1]
      rw [or_byte]; exact Nat.mod_eq_of_lt hlt
    rw [hidItemDataAlt, if_neg (by decide), if_pos rfl, h1, ok_bind, h0, ok_bind,
      dataAltChecked_eq hvalue]
  · obtain ⟨d0, d1, d2, d3, rfl⟩ : ∃ d0 d1 d2 d3, data = [d0, d1, d2, d3] :=
      length_eq_four.1 h
    have h0 := hread (i := 0) (x := d0) rfl
    have h1 := hread (i := 1) (x := d1) rfl
    have h2 := hread (i := 2) (x := d2) rfl
    have h3 := hread (i := 3) (x := d3) rfl
    have hvalue : (d3.toNat <<< 24 ||| d2.toNat <<< 16 ||| d1.toNat <<< 8 ||| d0.toNat) % 2 ^ 32 =
        littleEndian [d0, d1, d2, d3] := by
      have hlt : littleEndian [d0, d1, d2, d3] < 2 ^ 32 := by simpa using littleEndian_lt [d0, d1, d2, d3]
      rw [or_shiftLeft_eq_littleEndian]; exact Nat.mod_eq_of_lt hlt
    rw [hidItemDataAlt, if_pos rfl, h3, ok_bind, h2, ok_bind, h1, ok_bind, h0, ok_bind,
      dataAltChecked_eq hvalue]

structure IsItem (b0 : UInt8) (data : List UInt8) (item : HidReportDescriptorItem) : Prop where
  raw : item.raw = b0 :: data
  data : item.data = littleEndian data
  size : item.bsizeBytect = bsizeBytect b0

theorem hidReportItemAt_whole {pre data row : List UInt8} (b0 : UInt8) (h : data.length = dataBytes b0) :
    ∃ item, hidReportItemAt (pre ++ b0 :: (data ++ row)) pre.length = .ok item ∧ IsItem b0 data item := by
  have hle : data.length ≤ 4 := h ▸ dataBytes_le b0
  have hsize : 1 + (bsizeBytect b0).toNat = (b0 :: data).length := by
    rw [length_cons, h, Nat.add_comm]; rfl
  have hfetch : fetch (pre ++ b0 :: (data ++ row)) pre.length = .ok b0 := fetch_behind (i := 0) rfl
  have hspan : span (pre ++ b0 :: (data ++ row)) pre.length (1 + (bsizeBytect b0).toNat) = .ok (b0 :: data) := by
    rw [hsize, span_of_le, drop_left, ← cons_append, take_left]
    simp only [length_append, length_cons]; omega
  have hblit : blit (List.replicate 5 (0 : UInt8)) 0 (b0 :: data) =
      .ok (overwrite (List.replicate 5 0) 0 (b0 :: data)) := by
    apply blit_of_le
    rw [length_cons, length_replicate]; omega
  have hvalue : hidItemData (pre ++ b0 :: (data ++ row)) pre.length (bsizeBytect b0).toNat =
      .ok (littleEndian data) := by
    have hdata := @hidItemData_eq pre data row b0 hle
    rwa [h] at hdata
  refine ⟨⟨overwrite (List.replicate 5 0) 0 (b0 :: data), (b0 &&& 0x0c) >>> 2, b0 &&& ~~~0x03, bsizeBytect b0,
    littleEndian data, littleEndian data⟩, ?_, ⟨?_, rfl, rfl⟩⟩
  · rw [hidReportItemAt, hfetch, ok_bind, hspan, ok_bind, hblit, ok_bind, hvalue, ok_bind,
      hidItemDataAlt_eq b0 h]
    rfl
  · have htake := @take_overwrite UInt8 (List.replicate 5 0) (b0 :: data) 0 (Nat.zero_le _)
    rw [Nat.zero_add, take_zero, nil_append] at htake
    simpa only [HidReportDescriptorItem.raw, hsize] using htake

theorem hidReportItemAt_cut {pre row : List UInt8} {b0 : UInt8} (h : row.length < dataBytes b0) :
    hidReportItemAt (pre ++ b0 :: row) pre.length = .error .outOfBounds := by
  have hfetch : fetch (pre ++ b0 :: row) pre.length = .ok b0 := fetch_behind (i := 0) rfl
  have hspan : span (pre ++ b0 :: row) pre.length (1 + (bsizeBytect b0).toNat) = .error .outOfBounds := by
    unfold dataBytes at h
    apply if_neg
    rw [length_append, length_cons]; omega
  rw [hidReportItemAt, hfetch, ok_bind, hspan]; rfl

/-! ## The loop -/

structure ItemsOf (b : List UInt8) (items : List HidReportDescriptorItem) : Prop where
  raw : (items.map HidReportDescriptorItem.raw).flatten = b
  data : ∀ item ∈ items, item.data = littleEndian item.raw.tail

theorem ItemsOf.cons {b0 : UInt8} {data row : List UInt8} {item : HidReportDescriptorItem}
    {items : List HidReportDescriptorItem} (hitem : IsItem b0 data item) (h : ItemsOf row items) :
    ItemsOf (b0 :: (data ++ row)) (item :: items) where
  raw := by rw [map_cons, flatten_cons, hitem.raw, h.raw, cons_append]
  data := by
    rintro it (_ | ⟨_, hit⟩)
    · rw [hitem.data, hitem.raw, tail_cons]
    · exact h.data it hit

theorem tokenizeLoop_stop (b : List UInt8) (fuel : Nat) (items : List HidReportDescriptorItem) :
    tokenizeLoop b fuel ⟨b.length, items⟩ = .ok ⟨b.length, items⟩ := by
  apply whileLoop_stop
  exact decide_eq_false (Nat.lt_irrefl b.length)

theorem itemLeft_of_eq {b pre row : List UInt8} {b0 : UInt8} (hb : b = pre ++ b0 :: row)
    (items : List HidReportDescriptorItem) : itemLeft b ⟨pre.length, items⟩ = true := by
  have hlt : pre.length < b.length := by rw [hb, length_append, length_cons]; omega
  exact decide_eq_true hlt

theorem tokenizeLoop_item {b pre data row : List UInt8} {b0 : UInt8} (hb : b = pre ++ b0 :: (data ++ row))
    (h : data.length = dataBytes b0) :
    ∃ item, IsItem b0 data item ∧ ∀ items fuel,
      tokenizeLoop b (fuel + 1) ⟨pre.length, items⟩ =
        tokenizeLoop b fuel ⟨(pre ++ b0 :: data).length, items ++ [item]⟩ := by
  obtain ⟨item, hat, hitem⟩ := @hidReportItemAt_whole pre data row b0 h
  have hnext : pre.length + 1 + item.bsizeBytect.toNat = (pre ++ b0 :: data).length := by
    rw [hitem.size, length_append, length_cons, h, Nat.add_assoc, Nat.add_comm 1]; rfl
  refine ⟨item, hitem, fun items fuel => ?_⟩
  have hturn : tokenizeTurn b ⟨pre.length, items⟩ = .ok ⟨(pre ++ b0 :: data).length, items ++ [item]⟩ := by
    rw [tokenizeTurn, hb, hat, ok_bind, hnext]; rfl
  exact whileLoop_step fuel (itemLeft_of_eq hb items) hturn

theorem tokenizeLoop_cutItem {b pre row : List UInt8} {b0 : UInt8} (hb : b = pre ++ b0 :: row)
    (h : row.length < dataBytes b0) (items : List HidReportDescriptorItem) (fuel : Nat) :
    tokenizeLoop b (fuel + 1) ⟨pre.length, items⟩ = .error .outOfBounds := by
  have hturn : tokenizeTurn b ⟨pre.length, items⟩ = .error .outOfBounds := by
    rw [tokenizeTurn, hb, hidReportItemAt_cut h]; rfl
  exact whileLoop_fault fuel (itemLeft_of_eq hb items) hturn

theorem tokenizeLoop_uncut (b row : List UInt8) : ∀ (pre : List UInt8) (items : List HidReportDescriptorItem)
    (fuel : Nat), b = pre ++ row → row.length ≤ fuel → Uncut dataBytes row →
      ∃ items', tokenizeLoop b fuel ⟨pre.length, items⟩ = .ok ⟨b.length, items ++ items'⟩ ∧ ItemsOf row items' := by
  induction row using item_induction dataBytes with
  | nil =>
    intro pre items fuel hb _ _
    obtain rfl : b = pre := by rw [hb, append_nil]
    refine ⟨[], ?_, rfl, fun _ h => absurd h not_mem_nil⟩
    rw [append_nil, tokenizeLoop_stop]
  | cut b0 row hlt => exact fun _ _ _ _ _ huncut => absurd huncut (not_uncut hlt)
  | item b0 data row hdata ih =>
    rintro pre items (_ | fuel) hb hfuel huncut
    · cases hfuel
    · obtain ⟨item, hitem, hstep⟩ := tokenizeLoop_item hb hdata
      have hb' : b = (pre ++ b0 :: data) ++ row := by rw [hb, append_assoc, cons_append]
      have hleft : row.length ≤ fuel := by rw [length_cons, length_append] at hfuel; omega
      obtain ⟨items', hloop, hitems⟩ :=
        ih (pre ++ b0 :: data) (items ++ [item]) fuel hb' hleft ((uncut_item hdata).1 huncut)
      refine ⟨item :: items', ?_, hitems.cons hitem⟩
      rw [hstep, hloop, append_assoc, singleton_append]

theorem tokenizeLoop_cut (b row : List UInt8) : ∀ (pre : List UInt8) (items : List HidReportDescriptorItem)
    (fuel : Nat), b = pre ++ row → row.length ≤ fuel → ¬ Uncut dataBytes row →
      tokenizeLoop b fuel ⟨pre.length, items⟩ = .error .outOfBounds := by
  induction row using item_induction dataBytes with
  | nil => exact fun _ _ _ _ _ hcut => absurd uncut_nil hcut
  | cut b0 row hlt =>
    rintro pre items (_ | fuel) hb hfuel _
    · cases hfuel
    · exact tokenizeLoop_cutItem hb hlt items fuel
  | item b0 data row hdata ih =>
    rintro pre items (_ | fuel) hb hfuel hcut
    · cases hfuel
    · obtain ⟨item, -, hstep⟩ := tokenizeLoop_item hb hdata
      have hb' : b = (pre ++ b0 :: data) ++ row := by rw [hb, append_assoc, cons_append]
      have hleft : row.length ≤ fuel := by rw [length_cons, length_append] at hfuel; omega
      rw [hstep]
      exact ih (pre ++ b0 :: data) (items ++ [item]) fuel hb' hleft fun h => hcut ((uncut_item hdata).2 h)

/-- **The items partition the array exactly when its last item is not cut**; a cut one is completed from the memory
behind the array. -/
theorem tokenizeHidReportDescriptor_iff (b : List UInt8) :
    (∃ items, tokenizeHidReportDescriptor b = .ok items ∧ ItemsOf b items) ↔ Uncut dataBytes b := by
  unfold tokenizeHidReportDescriptor
  constructor
  · rintro ⟨items, h, -⟩
    by_contra hcut
    have hloop : tokenizeLoop b b.length ⟨0, []⟩ = .error .outOfBounds :=
      tokenizeLoop_cut b b [] [] b.length rfl (Nat.le_refl _) hcut
    rw [hloop] at h; cases h
  · intro huncut
    obtain ⟨items, hloop, hitems⟩ := tokenizeLoop_uncut b b [] [] b.length rfl (Nat.le_refl _) huncut
    rw [length_nil, nil_append] at hloop; exact ⟨items, by rw [hloop, ok_map], hitems⟩

/-- One data byte is announced and none is there. -/
theorem tokenizeHidReportDescriptor_usagePage_cut :
    ¬ ∃ items, tokenizeHidReportDescriptor [0x05] = .ok items ∧ ItemsOf [0x05] items := by
  rintro ⟨items, h, -⟩
  cases h

end Ddc
