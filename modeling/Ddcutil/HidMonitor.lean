import Ddcutil.HidTree
import Ddcutil.Kit.StableSort
/-!
# HidMonitor — what the report descriptor says of a monitor (hid_report_descriptor.c, base_hid_report_descriptor.c)

`getVcpCodeReports` lists the feature reports of the monitor application collection that have a VCP code and sorts
them.
-/
namespace Ddc

open Kit List Exec

/-! ## The reports with a VCP code -/

structure VcpCodeReport where
  vcpCode : UInt8
  rpt : ParsedHidReport
  deriving DecidableEq, Repr

structure VcpCodeSlot where
  address : Nat
  entry : VcpCodeReport
  deriving DecidableEq, Repr

def vcpFeatureCode (rpt : ParsedHidReport) : Option UInt8 :=
  if rpt.reportType = 3 then
    match rpt.hidFields with
    | some [f] =>
      if f.usagePage = 0x0082 ∧ f.reportSize = 8 then
        match f.extendedUsages with
        | some usages =>
          if UInt8.ofNat (usages.headD 0 &&& 0xffff) ≠ 0 then some (UInt8.ofNat (usages.headD 0 &&& 0xffff)) else none
        | none => none
      else none
    | _ => none
  else none

def slotByte (slot : VcpCodeSlot) : UInt8 := UInt8.ofNat slot.address

def compareVcpCodeReport (first second : VcpCodeSlot) : Int :=
  if slotByte first < slotByte second then -1 else if slotByte second < slotByte first then 1 else 0

/-- The reports of the monitor application collection, none if there is no such collection. -/
def monitorReports (phd : ParsedHidDescriptor) : Exec (List ParsedHidReport) := do
  let col ← getMonitorApplicationCollection phd
  match col with
  | none => pure []
  | some ndx => do
    let c ← fetch phd.collections ndx
    pure (c.reports.getD [])

def vcpCodeSlots (addr : Nat → Nat) (reports : List ParsedHidReport) : List VcpCodeSlot :=
  (reports.filterMap fun rpt => (vcpFeatureCode rpt).map fun code => VcpCodeReport.mk code rpt).mapIdx
    fun n entry => ⟨addr n, entry⟩

def getVcpCodeReports (sort : (VcpCodeSlot → VcpCodeSlot → Int) → List VcpCodeSlot → List VcpCodeSlot)
    (addr : Nat → Nat) (phd : ParsedHidDescriptor) : Exec (List VcpCodeReport) := do
  let reports ← monitorReports phd
  pure ((sort compareVcpCodeReport (vcpCodeSlots addr reports)).map VcpCodeSlot.entry)

/-- **The report is a feature report with a single 8 bit field on the page of VCP codes**, and a VCP code other than 0,
the low byte of its first usage. -/
structure HasVcpCode (rpt : ParsedHidReport) (code : UInt8) : Prop where
  feature : rpt.reportType = 3
  field : ∃ f usages, rpt.hidFields = some [f] ∧ f.usagePage = 0x82 ∧ f.reportSize = 8 ∧
    f.extendedUsages = some usages ∧ code = UInt8.ofNat (usages.headD 0)
  nonzero : code ≠ 0

/-- **Each report with a VCP code is listed once, in the order of the codes.** -/
structure ListsVcpCodes (reports : List ParsedHidReport) (listed : List VcpCodeReport) : Prop where
  once : ∃ (hasCode : ParsedHidReport → Bool) (codes : List VcpCodeReport),
    (∀ rpt, hasCode rpt = true ↔ ∃ code, HasVcpCode rpt code) ∧ codes.Perm listed ∧
      codes.map VcpCodeReport.rpt = reports.filter hasCode ∧ ∀ e ∈ codes, HasVcpCode e.rpt e.vcpCode
  ordered : listed.Pairwise fun a b => a.vcpCode ≤ b.vcpCode

theorem low_byte_and (usage : Nat) : UInt8.ofNat (usage &&& 0xffff) = UInt8.ofNat usage := by
  apply UInt8.toNat_inj.1
  rw [UInt8.toNat_ofNat', UInt8.toNat_ofNat']
  have hand := Nat.and_two_pow_sub_one_eq_mod usage 16
  change usage &&& 0xffff = usage % 65536 at hand
  omega

theorem vcpFeatureCode_eq_some {rpt : ParsedHidReport} {code : UInt8} :
    vcpFeatureCode rpt = some code ↔ HasVcpCode rpt code := by
  unfold vcpFeatureCode
  simp only [low_byte_and]
  constructor
  · intro h
    split at h
    · rename_i htype
      split at h
      · rename_i f hfields
        split at h
        · rename_i hpage
          split at h
          · rename_i usages husages
            split at h
            · rename_i hcode
              cases h; exact ⟨htype, ⟨f, usages, hfields, hpage.1, hpage.2, husages, rfl⟩, hcode⟩
            · cases h
          · cases h
        · cases h
      · cases h
    · cases h
  · rintro ⟨htype, ⟨f, usages, hfields, hpage, hsize, husages, rfl⟩, hcode⟩
    rw [if_pos htype, hfields]
    dsimp only
    rw [if_pos ⟨hpage, hsize⟩, husages]
    dsimp only
    rw [if_pos hcode]

theorem compare_nonpos_iff {a b : VcpCodeSlot} : compareVcpCodeReport a b ≤ 0 ↔ slotByte a ≤ slotByte b := by
  unfold compareVcpCodeReport
  split
  · rename_i h; exact ⟨fun _ => Nat.le_of_lt (UInt8.lt_iff_toNat_lt.1 h), fun _ => by decide⟩
  · split
    · rename_i h
      exact ⟨fun h1 => absurd h1 (by decide), fun hle => absurd hle (Nat.not_le.2 (UInt8.lt_iff_toNat_lt.1 h))⟩
    · rename_i h
      exact ⟨fun _ => Nat.not_lt.1 fun hlt => h (UInt8.lt_iff_toNat_lt.2 hlt), fun _ => Int.le_refl 0⟩

theorem compareVcpCodeReport_isComparison : IsComparison compareVcpCodeReport where
  total a b := by
    rw [compare_nonpos_iff, compare_nonpos_iff, UInt8.le_iff_toNat_le, UInt8.le_iff_toNat_le]
    exact Nat.le_total _ _
  trans a b d hab hbd := by
    rw [compare_nonpos_iff, UInt8.le_iff_toNat_le] at hab hbd ⊢; exact Nat.le_trans hab hbd

theorem vcpCodeSlots_nodup {addr : Nat → Nat} (h : Function.Injective addr) (reports : List ParsedHidReport) :
    (vcpCodeSlots addr reports).Nodup := by
  rw [vcpCodeSlots, List.Nodup, pairwise_iff_getElem]
  intro i j hi hj hij heq
  rw [getElem_mapIdx, getElem_mapIdx] at heq
  exact absurd (h (congrArg VcpCodeSlot.address heq)) (Nat.ne_of_lt hij)

theorem vcpCodeSlots_entries (addr : Nat → Nat) (reports : List ParsedHidReport) :
    (vcpCodeSlots addr reports).map VcpCodeSlot.entry =
      reports.filterMap fun rpt => (vcpFeatureCode rpt).map fun code => VcpCodeReport.mk code rpt := by
  rw [vcpCodeSlots, mapIdx_eq_zipIdx_map, map_map]; exact zipIdx_map_fst 0 _

theorem vcpFeatureCode_isSome {rpt : ParsedHidReport} :
    (vcpFeatureCode rpt).isSome = true ↔ ∃ code, HasVcpCode rpt code := by
  rw [Option.isSome_iff_exists]; exact exists_congr fun code => vcpFeatureCode_eq_some

theorem entries_once (reports : List ParsedHidReport) :
    (reports.filterMap fun rpt => (vcpFeatureCode rpt).map fun code => VcpCodeReport.mk code rpt).map
        VcpCodeReport.rpt = reports.filter (fun rpt => (vcpFeatureCode rpt).isSome) ∧
      ∀ e ∈ reports.filterMap fun rpt => (vcpFeatureCode rpt).map fun code => VcpCodeReport.mk code rpt,
        HasVcpCode e.rpt e.vcpCode := by
  constructor
  · induction reports with
    | nil => rfl
    | cons rpt reports ih =>
      rw [filterMap_cons]
      cases hcode : vcpFeatureCode rpt with
      | none =>
        rw [filter_cons, hcode, Option.isSome_none, if_neg Bool.false_ne_true]; exact ih
      | some code =>
        rw [filter_cons, hcode, Option.isSome_some, if_pos rfl, ← ih]; rfl
  · intro e he
    obtain ⟨rpt, -, hrpt⟩ := mem_filterMap.1 he
    obtain ⟨code, hcode, rfl⟩ := Option.map_eq_some_iff.1 hrpt
    exact vcpFeatureCode_eq_some.1 hcode

theorem getVcpCodeReports_eq {sort : (VcpCodeSlot → VcpCodeSlot → Int) → List VcpCodeSlot → List VcpCodeSlot}
    {addr : Nat → Nat} {phd : ParsedHidDescriptor} {reports : List ParsedHidReport} (h : monitorReports phd = .ok reports) :
    getVcpCodeReports sort addr phd =
      .ok ((sort compareVcpCodeReport (vcpCodeSlots addr reports)).map VcpCodeSlot.entry) := by
  rw [getVcpCodeReports, h]; rfl

/-- **Of two entries, the one whose address has the lower low byte is the one with the lower code**; the first one is
the one where the bytes are equal. -/
def AddressesInOrder (addr : Nat → Nat) (reports : List ParsedHidReport) : Prop :=
  (vcpCodeSlots addr reports).Pairwise fun a b =>
    if slotByte a ≤ slotByte b then a.entry.vcpCode ≤ b.entry.vcpCode else b.entry.vcpCode ≤ a.entry.vcpCode

theorem listsVcpCodes_iff {sort : (VcpCodeSlot → VcpCodeSlot → Int) → List VcpCodeSlot → List VcpCodeSlot}
    (hsort : IsStableSort sort) {addr : Nat → Nat} (haddr : Function.Injective addr) (reports : List ParsedHidReport) :
    ListsVcpCodes reports ((sort compareVcpCodeReport (vcpCodeSlots addr reports)).map VcpCodeSlot.entry) ↔
      AddressesInOrder addr reports := by
  have hperm := (hsort.perm compareVcpCodeReport (vcpCodeSlots addr reports)).map VcpCodeSlot.entry
  rw [vcpCodeSlots_entries] at hperm
  obtain ⟨hfilter, hcodes⟩ := entries_once reports
  have hpairwise := hsort.pairwise_iff compareVcpCodeReport_isComparison
    (R := fun a b => a.entry.vcpCode ≤ b.entry.vcpCode) (vcpCodeSlots_nodup haddr reports)
  simp only [compare_nonpos_iff] at hpairwise
  have hmap : ((sort compareVcpCodeReport (vcpCodeSlots addr reports)).map VcpCodeSlot.entry).Pairwise
      (fun a b => a.vcpCode ≤ b.vcpCode) ↔ (sort compareVcpCodeReport (vcpCodeSlots addr reports)).Pairwise
        fun a b => a.entry.vcpCode ≤ b.entry.vcpCode := pairwise_map
  rw [AddressesInOrder, ← hpairwise, ← hmap]
  exact ⟨fun h => h.ordered, fun h => ⟨⟨_, _, fun _ => vcpFeatureCode_isSome, hperm.symm, hfilter, hcodes⟩, h⟩⟩

theorem findMonitorControl_mem {phd : ParsedHidDescriptor} {children : List Nat} {ndx : Nat}
    (h : findMonitorControl phd children = .ok (some ndx)) : ndx ∈ children := by
  induction children with
  | nil => cases h
  | cons k children ih =>
    obtain ⟨col, -, h⟩ := bind_eq_ok.1 h
    split at h
    · cases h; exact mem_cons_self
    · exact mem_cons_of_mem k (ih h)

theorem monitorReports_returns {items : List HidReportDescriptorItem} {phd : ParsedHidDescriptor}
    (hparse : parseHidReportDescFromItemList items = .ok phd) :
    (∃ reports, monitorReports phd = .ok reports) ↔ 0 < collectionsOpened items := by
  obtain ⟨st, hst, rfl⟩ := parse_eq_ok.1 hparse
  have hinv := hidParserRun_inv hst
  constructor
  · rintro ⟨reports, h⟩
    obtain ⟨col, hcol, -⟩ := bind_eq_ok.1 h
    obtain ⟨children, hchildren, -⟩ := bind_eq_ok.1 hcol
    rw [topCollections_eq hinv] at hchildren
    by_contra hnone
    rw [if_neg hnone] at hchildren; cases hchildren
  · intro hpos
    obtain ⟨-, col, hcol⟩ := (queries_return hinv).2 hpos
    rw [monitorReports, hcol, ok_bind]
    cases col with
    | none => exact ⟨[], rfl⟩
    | some ndx =>
      rw [getMonitorApplicationCollection, topCollections_eq hinv, if_pos hpos, ok_bind] at hcol
      have hlt : ndx < st.collections.length := by
        rw [hinv.length]; exact Nat.lt_succ_of_le (childPlaces_le ndx (findMonitorControl_mem hcol))
      dsimp only
      rw [fetch_of_lt hlt]; exact ⟨_, rfl⟩

/-- **The table of VCP codes is right exactly where the descriptor has a collection and the addresses of the entries are
in the order of the codes.** -/
theorem getVcpCodeReports_iff {items : List HidReportDescriptorItem} {phd : ParsedHidDescriptor}
    (hparse : parseHidReportDescFromItemList items = .ok phd)
    {sort : (VcpCodeSlot → VcpCodeSlot → Int) → List VcpCodeSlot → List VcpCodeSlot} (hsort : IsStableSort sort)
    {addr : Nat → Nat} (haddr : Function.Injective addr) :
    (∃ reports listed, monitorReports phd = .ok reports ∧ getVcpCodeReports sort addr phd = .ok listed ∧
        ListsVcpCodes reports listed) ↔
      0 < collectionsOpened items ∧ ∀ reports, monitorReports phd = .ok reports → AddressesInOrder addr reports := by
  rw [← monitorReports_returns hparse]
  constructor
  · rintro ⟨reports, listed, hreports, hlisted, hright⟩
    refine ⟨⟨reports, hreports⟩, fun reports' hreports' => ?_⟩
    rw [hreports] at hreports'
    cases hreports'
    rw [getVcpCodeReports_eq hreports] at hlisted
    cases hlisted; exact (listsVcpCodes_iff hsort haddr reports).1 hright
  · rintro ⟨⟨reports, hreports⟩, h⟩
    exact ⟨reports, _, hreports, getVcpCodeReports_eq hreports,
      (listsVcpCodes_iff hsort haddr reports).2 (h reports hreports)⟩

def contrastFirstItems : List HidReportDescriptorItem :=
  [.ofBytes 0x05 [0x80], .ofBytes 0x09 [0x01], .ofBytes 0xa1 [0x01], .ofBytes 0x05 [0x82], .ofBytes 0x75 [0x08],
    .ofBytes 0x85 [0x01], .ofBytes 0x09 [0x12], .ofBytes 0xb1 [0x02], .ofBytes 0x85 [0x02], .ofBytes 0x09 [0x10],
    .ofBytes 0xb1 [0x02], .ofBytes 0xc0 []]

def contrastFirst : ParsedHidDescriptor :=
  (parseHidReportDescFromItemList contrastFirstItems).toOption.getD ⟨false, []⟩

theorem getVcpCodeReports_contrastFirst :
    (∃ reports listed, monitorReports contrastFirst = .ok reports ∧
        getVcpCodeReports (fun cmp l => l.mergeSort fun a b => decide (cmp a b ≤ 0)) (fun n => 32 * n) contrastFirst =
          .ok listed ∧ ListsVcpCodes reports listed) ↔
      0 < collectionsOpened contrastFirstItems ∧
        ∀ reports, monitorReports contrastFirst = .ok reports → AddressesInOrder (fun n => 32 * n) reports :=
  @getVcpCodeReports_iff contrastFirstItems contrastFirst rfl _ mergeSort_isStableSort _
    fun a b (h : 32 * a = 32 * b) => by omega

/-- With the entries one behind the other in memory the reports stay in their order. -/
theorem contrastFirst_not_sorted :
    ¬ ∃ reports listed, monitorReports contrastFirst = .ok reports ∧
        getVcpCodeReports (fun cmp l => l.mergeSort fun a b => decide (cmp a b ≤ 0)) (fun n => 32 * n) contrastFirst =
          .ok listed ∧ ListsVcpCodes reports listed := by
  rintro ⟨reports, listed, hreports, hlisted, hright⟩
  have hslots : ∃ reports, monitorReports contrastFirst = .ok reports ∧
      ∃ a b, vcpCodeSlots (fun n => 32 * n) reports = [a, b] ∧ slotByte a ≤ slotByte b ∧
        ¬ a.entry.vcpCode ≤ b.entry.vcpCode :=
    ⟨_, rfl, _, _, rfl, by decide +kernel, by decide +kernel⟩
  obtain ⟨reports', hreports', a, b, hab, hbytes, hcodes⟩ := hslots
  rw [hreports] at hreports'
  cases hreports'
  have hpair : [a, b].Pairwise fun a b => decide (compareVcpCodeReport a b ≤ 0) = true :=
    pairwise_pair.2 (decide_eq_true (compare_nonpos_iff.2 hbytes))
  rw [getVcpCodeReports_eq hreports, hab, mergeSort_of_pairwise hpair] at hlisted
  cases hlisted; exact hcodes ((pairwise_cons.1 hright.ordered).1 b.entry mem_cons_self)

/-! ## The quick test on the tokens -/

/-- The loop's state: the rest of the list from `cur_item` on, the result, and whether the loop was left. -/
structure QuickTest where
  curItem : List HidReportDescriptorItem
  isMonitor : Bool
  left : Bool

def quickTestCond (s : QuickTest) : Bool := !s.left && !s.curItem.isEmpty

def quickTestBody (s : QuickTest) : Exec QuickTest :=
  match s.curItem with
  | [] => pure s
  | item :: _ =>
    if item.btag = 0x04 then pure { s with isMonitor := if item.data = 0x80 then true else s.isMonitor, left := true }
    else pure s

def isMonitorByTokenizedHidReportDescriptor (fuel : Nat) (items : List HidReportDescriptorItem) : Exec Bool :=
  QuickTest.isMonitor <$> whileLoop quickTestCond quickTestBody fuel ⟨items, false, false⟩

def MonitorByParse (items : List HidReportDescriptorItem) : Prop :=
  ∃ phd, parseHidReportDescFromItemList items = .ok phd ∧ isMonitorByParsedHidReportDescriptor phd = .ok true

def HidReportDescriptorItem.isUsagePage (item : HidReportDescriptorItem) : Bool := item.btype == 1 && item.btag == 0x04

def FirstPageInForce (items : List HidReportDescriptorItem) : Prop :=
  ∃ pre item post page here, items = pre ++ item :: post ∧ item.isCollection = true ∧ collectionsOpened pre = 0 ∧
    pre.find? HidReportDescriptorItem.isUsagePage = some page ∧
      (hidSettings pre).1 .usagePage = some ⟨page, here⟩

/-- **The quick test returns**, and accepts what the full parse accepts on the first page. -/
structure QuickTestRight (items : List HidReportDescriptorItem) : Prop where
  returns : ∃ fuel b, isMonitorByTokenizedHidReportDescriptor fuel items = .ok b
  agrees : MonitorByParse items → FirstPageInForce items →
    ∃ fuel, isMonitorByTokenizedHidReportDescriptor fuel items = .ok true

theorem quickTest_nil (fuel : Nat) : isMonitorByTokenizedHidReportDescriptor fuel [] = .ok false := by
  rw [isMonitorByTokenizedHidReportDescriptor, whileLoop_stop rfl]; rfl

theorem quickTest_page {first : HidReportDescriptorItem} (h : first.btag = 0x04) (rest : List HidReportDescriptorItem)
    (fuel : Nat) :
    isMonitorByTokenizedHidReportDescriptor (fuel + 1) (first :: rest) = .ok (decide (first.data = 0x80)) := by
  have hbody : quickTestBody ⟨first :: rest, false, false⟩ =
      .ok ⟨first :: rest, decide (first.data = 0x80), true⟩ := by
    unfold quickTestBody
    dsimp only
    rw [if_pos h]
    by_cases hdata : first.data = 0x80
    · rfl
    · rfl
  rw [isMonitorByTokenizedHidReportDescriptor, whileLoop_last fuel rfl hbody rfl]; rfl

theorem quickTest_other {first : HidReportDescriptorItem} (h : first.btag ≠ 0x04)
    (rest : List HidReportDescriptorItem) (fuel : Nat) :
    isMonitorByTokenizedHidReportDescriptor fuel (first :: rest) = .error .outOfFuel := by
  have hbody : quickTestBody ⟨first :: rest, false, false⟩ = .ok ⟨first :: rest, false, false⟩ := if_neg h
  unfold isMonitorByTokenizedHidReportDescriptor
  induction fuel with
  | zero => rfl
  | succ fuel ih => rw [whileLoop_step fuel rfl hbody, ih]

theorem not_monitorByParse_nil : ¬ MonitorByParse [] := by
  rintro ⟨phd, hphd, h⟩
  cases hphd; cases h

/-- **The quick test is right exactly for the empty list and for one whose first item is a Usage Page**: the one of
monitors, or one that no list accepted by the full parse begins with. -/
theorem quickTestRight_iff (items : List HidReportDescriptorItem) :
    QuickTestRight items ↔ items = [] ∨ ∃ first rest, items = first :: rest ∧ first.btag = 0x04 ∧
      (first.data = 0x80 ∨ ¬ (MonitorByParse items ∧ FirstPageInForce items)) := by
  cases items with
  | nil =>
    exact ⟨fun _ => .inl rfl, fun _ =>
      ⟨⟨0, false, quickTest_nil 0⟩, fun hparse => absurd hparse not_monitorByParse_nil⟩⟩
  | cons first rest =>
    constructor
    · rintro ⟨⟨fuel, b, hreturns⟩, hagrees⟩
      by_cases htag : first.btag = 0x04
      · refine .inr ⟨first, rest, rfl, htag, ?_⟩
        by_cases hdata : first.data = 0x80
        · exact .inl hdata
        · refine .inr ?_
          rintro ⟨hparse, hpage⟩
          obtain ⟨n, hn⟩ := hagrees hparse hpage
          cases n with
          | zero => cases hn
          | succ n =>
            rw [quickTest_page htag, decide_eq_false hdata] at hn; cases hn
      · rw [quickTest_other htag] at hreturns; cases hreturns
    · rintro (hnil | ⟨first', rest', heq, htag, h⟩)
      · cases hnil
      · cases heq
        refine ⟨⟨1, _, quickTest_page htag rest 0⟩, fun hparse hpage => ⟨1, ?_⟩⟩
        rw [quickTest_page htag]
        rcases h with hdata | hnot
        · rw [decide_eq_true hdata]
        · exact absurd ⟨hparse, hpage⟩ hnot

/-- A list that begins with a Usage item. -/
theorem quickTest_usageFirst_not_right :
    ¬ QuickTestRight [.ofBytes 0x09 [0x01], .ofBytes 0x05 [0x80], .ofBytes 0xa1 [0x01], .ofBytes 0xc0 []] := by
  rintro ⟨⟨fuel, b, h⟩, -⟩
  rw [quickTest_other (by decide +kernel)] at h; cases h

end Ddc
