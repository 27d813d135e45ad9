import Ddcutil.HidGlobals
/-!
# HidUsages — the extended usages of collections and fields

By HID a usage of four bytes is an extended usage, and a smaller one is a usage id on the usage page in force at the
main item.
-/
namespace Ddc

open Kit List

def localsTurn (acc : List HidReportDescriptorItem) (item : HidReportDescriptorItem) : List HidReportDescriptorItem :=
  if item.btype = 0 then [] else if item.btype = 2 then acc ++ [item] else acc

def localsInForce (pre : List HidReportDescriptorItem) : List HidReportDescriptorItem := pre.foldl localsTurn []

def usageItems (locals : List HidReportDescriptorItem) : List HidReportDescriptorItem :=
  locals.filter fun item => item.btag == 0x08

def usageMinimumItem (locals : List HidReportDescriptorItem) : Option HidReportDescriptorItem :=
  (locals.filter fun item => item.btag == 0x18).getLast?

def usageMaximumItem (locals : List HidReportDescriptorItem) : Option HidReportDescriptorItem :=
  (locals.filter fun item => item.btag == 0x28).getLast?

def hidUsage (usagePage : Int) (item : HidReportDescriptorItem) : Int :=
  if item.bsizeBytect = 4 then item.data else usagePage * 65536 + item.data

def MakesCollection (items pre : List HidReportDescriptorItem) (item : HidReportDescriptorItem)
    (col : ParsedHidCollection) : Prop :=
  item.isCollection = true ∧ (∃ post, items = pre ++ item :: post) ∧ ∃ st st', hidParserRun pre = .ok st ∧
    hidParserTurn st item = .ok st' ∧ col = newCollection st.curGlobals st.curLocals item

def CollectionUsageRight (pre : List HidReportDescriptorItem) (col : ParsedHidCollection) : Prop :=
  ∀ first, (usageItems (localsInForce pre)).head? = some first →
    col.extendedUsage = hidUsage (valueInForce pre .usagePage) first

structure FieldUsagesRight (pre : List HidReportDescriptorItem) (hf : ParsedHidField) : Prop where
  usages : (hf.extendedUsages.getD []).map (fun u : Nat => (u : Int)) =
    (usageItems (localsInForce pre)).map (hidUsage (valueInForce pre .usagePage))
  minimum : ∀ item, usageMinimumItem (localsInForce pre) = some item →
    hf.minExtendedUsage = hidUsage (valueInForce pre .usagePage) item
  maximum : ∀ item, usageMaximumItem (localsInForce pre) = some item →
    hf.maxExtendedUsage = hidUsage (valueInForce pre .usagePage) item

def keptUsagePage (pre : List HidReportDescriptorItem) : Int := (hidSettings pre).1.kept .usagePage

/-- **A usage that is interpreted with the size `bsize`, or by its bits where that is 0, is the right one**: four bytes
are taken for an extended usage, or their high half has the bits of the page; fewer bytes are put on the page in force,
or are on page 0. -/
def UsageKept (pre : List HidReportDescriptorItem) (bsize : UInt8) (item : HidReportDescriptorItem) : Prop :=
  if item.bsizeBytect = 4 then
    bsize = 4 ∨ item.data &&& 0xff00 ≠ 0 ∨ (keptUsagePage pre).toNat <<< 16 ||| item.data = item.data
  else if bsize = 0 ∧ item.data &&& 0xff00 ≠ 0 then valueInForce pre .usagePage = 0
  else keptUsagePage pre = valueInForce pre .usagePage

def NonzeroUsageKept (pre : List HidReportDescriptorItem) (bsize : UInt8) (item : HidReportDescriptorItem) : Prop :=
  if item.data = 0 then item.bsizeBytect = 4 ∨ valueInForce pre .usagePage = 0 else UsageKept pre bsize item

def keptBsize (usages : List HidReportDescriptorItem) : UInt8 :=
  match usages with
  | [] => 0
  | first :: rest => if rest.all fun item => item.bsizeBytect == first.bsizeBytect then first.bsizeBytect else 0

def CollectionUsageKept (pre : List HidReportDescriptorItem) : Prop :=
  ∀ first, (usageItems (localsInForce pre)).head? = some first →
    NonzeroUsageKept pre (keptBsize (usageItems (localsInForce pre))) first

structure FieldUsagesKept (pre : List HidReportDescriptorItem) : Prop where
  usages : ∀ item ∈ usageItems (localsInForce pre), UsageKept pre 0 item
  minimum : ∀ item, usageMinimumItem (localsInForce pre) = some item → NonzeroUsageKept pre 0 item
  maximum : ∀ item, usageMaximumItem (localsInForce pre) = some item → NonzeroUsageKept pre 0 item

/-! ## One usage -/

variable {page data : Nat} {item : HidReportDescriptorItem} {bsize : UInt8}
variable {pre locals : List HidReportDescriptorItem} {st : HidParser}

theorem shift_or_of_lt {usage : Nat} (h : usage < 65536) : page <<< 16 ||| usage = page * 65536 + usage := by
  rw [← Nat.shiftLeft_add_eq_or_of_lt (i := 16) h, Nat.shiftLeft_eq]

theorem sized_lt (h : item.Sized) (hsize : item.bsizeBytect ≠ 4) : item.data < 65536 := by
  have hdata := h.data
  rcases h.size with hct | hct | hct | hct
  · rw [hct] at hdata; exact Nat.lt_of_lt_of_le hdata (by decide)
  · rw [hct] at hdata; exact Nat.lt_of_lt_of_le hdata (by decide)
  · rw [hct] at hdata; exact hdata
  · exact absurd hct hsize

theorem and_high_eq_zero (h : data < 65536) : data &&& 0xffff0000 = 0 := by
  have hshift : (0xffff0000 : Nat) = 0xffff <<< 16 := by decide
  apply Nat.eq_of_testBit_eq
  intro i
  rw [hshift, Nat.testBit_and, Nat.testBit_shiftLeft, Nat.zero_testBit]
  rcases Nat.lt_or_ge i 16 with hi | hi
  · rw [decide_eq_false (Nat.not_le.2 hi), Bool.false_and, Bool.and_false]
  · have hlt : data < 2 ^ i := Nat.lt_of_lt_of_le h (Nat.pow_le_pow_right (n := 2) (by decide) hi)
    rw [Nat.testBit_lt_two_pow hlt, Bool.false_and]

theorem extendedUsage_short (h : data < 65536) (hbsize : bsize = 1 ∨ bsize = 2) :
    extendedUsage page data bsize = page * 65536 + data := by
  have hlong : ¬ (bsize = 3 ∨ bsize = 4) := by rcases hbsize with rfl | rfl <;> decide
  rw [extendedUsage, if_neg hlong, if_pos hbsize, if_neg (not_not_intro (and_high_eq_zero h)), shift_or_of_lt h]

theorem extendedUsage_bits :
    extendedUsage page data 0 = if data &&& 0xff00 ≠ 0 then data else page <<< 16 ||| data := by
  rw [extendedUsage, if_neg (by decide), if_neg (by decide)]

section
variable (hpage : keptUsagePage pre = page) (hsized : item.Sized) (hbsize : bsize = 0 ∨ bsize = item.bsizeBytect)
include hpage hsized hbsize

theorem extendedUsage_eq_iff :
    (extendedUsage page item.data bsize : Int) = hidUsage (valueInForce pre .usagePage) item ↔
      UsageKept pre bsize item := by
  have htoNat : (keptUsagePage pre).toNat = page := by rw [hpage, Int.toNat_natCast]
  rw [hidUsage, UsageKept, htoNat, hpage]
  by_cases h4 : item.bsizeBytect = 4
  · rw [if_pos h4, if_pos h4]
    rcases hbsize with rfl | hbsize
    · rw [extendedUsage_bits, Int.natCast_inj]
      split
      · rename_i hbits; exact ⟨fun _ => .inr (.inl hbits), fun _ => rfl⟩
      · rename_i hbits
        exact ⟨fun h => .inr (.inr h), fun h => (h.resolve_left (by decide)).resolve_left hbits⟩
    · have hlong : extendedUsage page item.data bsize = item.data := if_pos (.inr (hbsize.trans h4))
      rw [hlong]; exact ⟨fun _ => .inl (hbsize.trans h4), fun _ => rfl⟩
  · have hlt := sized_lt hsized h4
    rw [if_neg h4, if_neg h4]
    by_cases h0 : bsize = 0
    · rw [h0, extendedUsage_bits]
      split
      · rename_i hbits
        rw [if_pos ⟨rfl, hbits⟩]; omega
      · rename_i hbits
        rw [if_neg fun h => hbits h.2, shift_or_of_lt hlt]; omega
    · have hown := hbsize.resolve_left h0
      have hshort : bsize = 1 ∨ bsize = 2 := by
        rcases hsized.size with hct | hct | hct | hct
        · exact absurd (hown.trans hct) h0
        · exact .inl (hown.trans hct)
        · exact .inr (hown.trans hct)
        · exact absurd hct h4
      rw [extendedUsage_short hlt hshort, if_neg fun h => h0 h.1]; omega

theorem storedUsage_eq_iff :
    ((if item.data ≠ 0 then extendedUsage page item.data bsize else 0 : Nat) : Int) =
      hidUsage (valueInForce pre .usagePage) item ↔ NonzeroUsageKept pre bsize item := by
  unfold NonzeroUsageKept
  by_cases h : item.data = 0
  · rw [if_neg (not_not_intro h), if_pos h]
    unfold hidUsage
    split
    · rename_i h4; exact ⟨fun _ => .inl h4, fun _ => by rw [h]⟩
    · rename_i h4
      rw [h, or_iff_right h4]; omega
  · rw [if_pos h, if_neg h]; exact extendedUsage_eq_iff hpage hsized hbsize

end

/-! ## The parser's usages -/

structure KeepsLocals (l : CurReportLocals) (locals : List HidReportDescriptorItem) : Prop where
  usages : l.usages.getD [] = (usageItems locals).map HidReportDescriptorItem.data
  bsize : l.usageBsizeBytect = keptBsize (usageItems locals)
  minimum : l.usageMinimum = (usageMinimumItem locals).elim 0 HidReportDescriptorItem.data
  maximum : l.usageMaximum = (usageMaximumItem locals).elim 0 HidReportDescriptorItem.data

theorem KeepsLocals.nil : KeepsLocals {} [] := ⟨rfl, rfl, rfl, rfl⟩

theorem keptBsize_concat (usages : List HidReportDescriptorItem) (item : HidReportDescriptorItem) :
    keptBsize (usages ++ [item]) =
      if usages.length = 0 then item.bsizeBytect
      else if item.bsizeBytect ≠ keptBsize usages ∧ keptBsize usages ≠ 0 then 0
      else keptBsize usages := by
  cases usages with
  | nil => rfl
  | cons first rest =>
    change (if (rest ++ [item]).all _ = true then _ else _) = _
    rw [all_append, keptBsize]
    by_cases hrest : (rest.all fun x => x.bsizeBytect == first.bsizeBytect) = true
    · rw [if_pos hrest, hrest, Bool.true_and]
      by_cases hitem : item.bsizeBytect = first.bsizeBytect
      · simp [hitem]
      · by_cases hzero : first.bsizeBytect = 0
        · simp [hzero]
        · simp [hitem, hzero]
    · simp [hrest]

theorem filter_concat_of_ne {tag : UInt8} (h : item.btag ≠ tag) :
    ((locals ++ [item]).filter fun x => x.btag == tag) = locals.filter fun x => x.btag == tag := by
  simp [filter_append, h]

theorem filter_concat_of_eq {tag : UInt8} (h : item.btag = tag) :
    ((locals ++ [item]).filter fun x => x.btag == tag) = (locals.filter fun x => x.btag == tag) ++ [item] := by
  simp [filter_append, h]

theorem localItem_keepsLocals {l : CurReportLocals} (hkeep : KeepsLocals l locals) (item : HidReportDescriptorItem) :
    KeepsLocals (localItem l item) (locals ++ [item]) := by
  have hmin := hkeep.minimum
  have hmax := hkeep.maximum
  have hus := hkeep.usages
  have hbs := hkeep.bsize
  unfold usageItems at hus hbs
  unfold localItem
  split
  · rename_i htag
    have h18 : item.btag ≠ 0x18 := by rw [htag]; decide
    have h28 : item.btag ≠ 0x28 := by rw [htag]; decide
    refine ⟨?_, ?_, ?_, ?_⟩
    · rw [usageItems, filter_concat_of_eq htag, map_append, ← hus]; rfl
    · rw [usageItems, nextUsageBsize, filter_concat_of_eq htag, keptBsize_concat, ← hbs, hus, length_map]
    · rw [usageMinimumItem, filter_concat_of_ne h18]; exact hmin
    · rw [usageMaximumItem, filter_concat_of_ne h28]; exact hmax
  rename_i h08
  have husages : usageItems (locals ++ [item]) = usageItems locals := filter_concat_of_ne h08
  split
  · rename_i htag
    have h28 : item.btag ≠ 0x28 := by rw [htag]; decide
    refine ⟨husages ▸ hkeep.usages, husages ▸ hkeep.bsize, ?_, ?_⟩
    · rw [usageMinimumItem, filter_concat_of_eq htag, getLast?_concat]; rfl
    · rw [usageMaximumItem, filter_concat_of_ne h28]; exact hmax
  rename_i h18
  have hminimum : usageMinimumItem (locals ++ [item]) = usageMinimumItem locals := by
    unfold usageMinimumItem
    rw [filter_concat_of_ne h18]
  split
  · rename_i htag
    refine ⟨husages ▸ hkeep.usages, husages ▸ hkeep.bsize, hminimum ▸ hkeep.minimum, ?_⟩
    rw [usageMaximumItem, filter_concat_of_eq htag, getLast?_concat]; rfl
  · rename_i h28
    refine ⟨husages ▸ hkeep.usages, husages ▸ hkeep.bsize, hminimum ▸ hkeep.minimum, ?_⟩
    rw [usageMaximumItem, filter_concat_of_ne h28]; exact hmax

theorem hidParserRun_keepsLocals (h : hidParserRun pre = .ok st) : KeepsLocals st.curLocals (localsInForce pre) := by
  induction pre using List.reverseRecOn generalizing st with
  | nil =>
    cases h; exact KeepsLocals.nil
  | append_singleton pre item ih =>
    obtain ⟨t, ht, hturn⟩ := hidParserRun_concat.1 h
    have hkeep := ih ht
    have hlocals : localsInForce (pre ++ [item]) = localsTurn (localsInForce pre) item := foldl_append
    rw [hlocals, localsTurn]
    rcases hidParserTurn_cases hturn with ⟨htype, u, -, rfl⟩ | ⟨htype, gs, -, rfl⟩ | ⟨htype, rfl⟩ |
      ⟨h0, -, h2, rfl⟩
    · rw [if_pos htype]; exact KeepsLocals.nil
    · rw [if_neg (by rw [htype]; decide), if_neg (by rw [htype]; decide)]; exact hkeep
    · rw [if_neg (by rw [htype]; decide), if_pos htype]; exact localItem_keepsLocals hkeep item
    · rw [if_neg h0, if_neg h2]; exact hkeep

theorem localsInForce_subset (pre : List HidReportDescriptorItem) : ∀ item ∈ localsInForce pre, item ∈ pre := by
  induction pre using List.reverseRecOn with
  | nil => exact fun item h => h
  | append_singleton pre x ih =>
    intro item h
    have hlocals : localsInForce (pre ++ [x]) = localsTurn (localsInForce pre) x := foldl_append
    rw [hlocals, localsTurn] at h
    split at h
    · exact absurd h not_mem_nil
    · split at h
      · rcases mem_append.1 h with h | h
        · exact mem_append_left _ (ih item h)
        · exact mem_append_right _ h
      · exact mem_append_left _ (ih item h)

theorem keptBsize_head {usages : List HidReportDescriptorItem} {first : HidReportDescriptorItem}
    (h : usages.head? = some first) : keptBsize usages = 0 ∨ keptBsize usages = first.bsizeBytect := by
  obtain ⟨rest, rfl⟩ := head?_eq_some_iff.1 h
  unfold keptBsize
  dsimp only
  split
  · exact .inr rfl
  · exact .inl rfl

theorem hidField_usages (g : CurReportGlobals) (l : CurReportLocals) (item : HidReportDescriptorItem) :
    (hidField g l item).extendedUsages.getD [] = (l.usages.getD []).map fun u => extendedUsage g.usagePage u 0 := by
  unfold hidField
  split
  · rfl
  · rename_i h
    rw [not_not.1 h]; rfl

structure AtItem (pre : List HidReportDescriptorItem) (st : HidParser) : Prop where
  sized : ∀ item ∈ localsInForce pre, item.Sized
  page : keptUsagePage pre = st.curGlobals.usagePage
  locals : KeepsLocals st.curLocals (localsInForce pre)

theorem AtItem.of_run {items post : List HidReportDescriptorItem} (hsized : ∀ item ∈ items, item.Sized)
    (hitems : items = pre ++ item :: post) (h : hidParserRun pre = .ok st) :
    AtItem pre st where
  sized := fun x hx => hsized x (hitems ▸ mem_append_left _ (localsInForce_subset pre x hx))
  page := ((hidParserRun_keepsSettings h).cur .usagePage).symm
  locals := hidParserRun_keepsLocals h

theorem AtItem.collection_iff (h : AtItem pre st) (item : HidReportDescriptorItem) :
    CollectionUsageRight pre (newCollection st.curGlobals st.curLocals item) ↔ CollectionUsageKept pre := by
  refine forall_congr' fun first => imp_congr_right fun hfirst => ?_
  have hmem : first ∈ localsInForce pre := mem_of_mem_filter (mem_of_mem_head? hfirst)
  have hcur : (st.curLocals.usages.getD []).headD 0 = first.data := by
    rw [h.locals.usages, headD_eq_head?_getD, head?_map, hfirst]; rfl
  rw [← storedUsage_eq_iff h.page (h.sized first hmem) (keptBsize_head hfirst), ← h.locals.bsize, ← hcur]
  rfl

theorem AtItem.range_iff (h : AtItem pre st) {found : Option HidReportDescriptorItem} {usage : Nat}
    (hfound : ∀ item ∈ found, item ∈ localsInForce pre) (husage : usage = found.elim 0 HidReportDescriptorItem.data) :
    (∀ item, found = some item →
        ((if usage ≠ 0 then extendedUsage st.curGlobals.usagePage usage 0 else 0 : Nat) : Int) =
          hidUsage (valueInForce pre .usagePage) item) ↔
      ∀ item, found = some item → NonzeroUsageKept pre 0 item := by
  refine forall_congr' fun item => imp_congr_right fun hitem => ?_
  rw [husage, hitem]; exact storedUsage_eq_iff h.page (h.sized item (hfound item hitem)) (.inl rfl)

theorem AtItem.field_iff (h : AtItem pre st) (item : HidReportDescriptorItem) :
    FieldUsagesRight pre (hidField st.curGlobals st.curLocals item) ↔ FieldUsagesKept pre := by
  have hlast : ∀ {tag : UInt8} (x : HidReportDescriptorItem),
      x ∈ ((localsInForce pre).filter fun y => y.btag == tag).getLast? → x ∈ localsInForce pre :=
    fun x hx => mem_of_mem_filter (mem_of_mem_getLast? hx)
  have husages : ((hidField st.curGlobals st.curLocals item).extendedUsages.getD []).map (fun u : Nat => (u : Int)) =
      (usageItems (localsInForce pre)).map (hidUsage (valueInForce pre .usagePage)) ↔
        ∀ x ∈ usageItems (localsInForce pre), UsageKept pre 0 x := by
    rw [hidField_usages, h.locals.usages, map_map, map_map, map_inj_left]
    refine forall_congr' fun x => imp_congr_right fun hx => ?_
    exact extendedUsage_eq_iff h.page (h.sized x (mem_of_mem_filter hx)) (.inl rfl)
  have hmin := h.range_iff (fun x hx => hlast x hx) h.locals.minimum
  have hmax := h.range_iff (fun x hx => hlast x hx) h.locals.maximum
  exact ⟨fun hr => ⟨husages.1 hr.usages, hmin.1 hr.minimum, hmax.1 hr.maximum⟩,
    fun hk => ⟨husages.2 hk.usages, hmin.2 hk.minimum, hmax.2 hk.maximum⟩⟩

/-- **The extended usages are right exactly where each usage is kept.** -/
theorem extendedUsages_iff (items : List HidReportDescriptorItem) (hsized : ∀ item ∈ items, item.Sized) :
    ((∀ pre item col, MakesCollection items pre item col → CollectionUsageRight pre col) ∧
        ∀ pre item id hf, StoresField items pre item id hf → FieldUsagesRight pre hf) ↔
      (∀ pre item col, MakesCollection items pre item col → CollectionUsageKept pre) ∧
        ∀ pre item id hf, StoresField items pre item id hf → FieldUsagesKept pre := by
  have hcol : ∀ pre item col, MakesCollection items pre item col →
      (CollectionUsageRight pre col ↔ CollectionUsageKept pre) := by
    rintro pre item col ⟨-, ⟨post, hitems⟩, st, st', hst, -, rfl⟩
    exact (AtItem.of_run hsized hitems hst).collection_iff item
  have hfield : ∀ pre item id hf, StoresField items pre item id hf → (FieldUsagesRight pre hf ↔ FieldUsagesKept pre) := by
    rintro pre item id hf ⟨-, ⟨post, hitems⟩, st, st', hst, -, -, rfl⟩
    exact (AtItem.of_run hsized hitems hst).field_iff item
  constructor
  · rintro ⟨h₁, h₂⟩
    exact ⟨fun pre item col h => (hcol pre item col h).1 (h₁ pre item col h),
      fun pre item id hf h => (hfield pre item id hf h).1 (h₂ pre item id hf h)⟩
  · rintro ⟨h₁, h₂⟩
    exact ⟨fun pre item col h => (hcol pre item col h).2 (h₁ pre item col h),
      fun pre item id hf h => (hfield pre item id hf h).2 (h₂ pre item id hf h)⟩

def extendedUsageItems : List HidReportDescriptorItem :=
  [.ofBytes 0x05 [0x81], .ofBytes 0x09 [0x01], .ofBytes 0xa1 [0x01], .ofBytes 0x0b [0x10, 0x00, 0x82, 0x00],
    .ofBytes 0xb1 [0x02]]

theorem extendedUsageItems_sized : ∀ item ∈ extendedUsageItems, item.Sized := by
  have htokens : tokenizeHidReportDescriptor
      [0x05, 0x81, 0x09, 0x01, 0xa1, 0x01, 0x0b, 0x10, 0x00, 0x82, 0x00, 0xb1, 0x02] = .ok extendedUsageItems := by
    decide +kernel
  exact tokenizeHidReportDescriptor_sized htokens

theorem extendedUsages_monitor :
    ((∀ pre item col, MakesCollection extendedUsageItems pre item col → CollectionUsageRight pre col) ∧
        ∀ pre item id hf, StoresField extendedUsageItems pre item id hf → FieldUsagesRight pre hf) ↔
      (∀ pre item col, MakesCollection extendedUsageItems pre item col → CollectionUsageKept pre) ∧
        ∀ pre item id hf, StoresField extendedUsageItems pre item id hf → FieldUsagesKept pre :=
  extendedUsages_iff extendedUsageItems extendedUsageItems_sized

/-- The pages 0x81 and 0x82 are put together: the usage is 0x00830010. -/
theorem extendedUsages_not_right :
    ¬ ((∀ pre item col, MakesCollection extendedUsageItems pre item col → CollectionUsageRight pre col) ∧
        ∀ pre item id hf, StoresField extendedUsageItems pre item id hf → FieldUsagesRight pre hf) := by
  have hrun : ∃ st, hidParserRun (extendedUsageItems.take 4) = .ok st ∧ ∃ st',
      hidParserTurn st (.ofBytes 0xb1 [0x02]) = .ok st' ∧
        (hidField st.curGlobals st.curLocals (.ofBytes 0xb1 [0x02])).extendedUsages = some [0x00830010] :=
    ⟨_, rfl, _, rfl, rfl⟩
  obtain ⟨st, hst, st', hst', husages⟩ := hrun
  rintro ⟨-, h⟩
  have hfield := h (extendedUsageItems.take 4) (.ofBytes 0xb1 [0x02]) _ _
    ⟨by decide +kernel, ⟨[], by decide +kernel⟩, st, st', hst, hst', rfl, rfl⟩
  have hright := hfield.usages
  rw [husages] at hright; exact absurd hright (by decide +kernel)

end Ddc
