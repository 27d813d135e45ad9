import Ddcutil.HidReportDescriptor
import Ddcutil.Kit.Nesting
/-!
# HidParse — the interpretation of the items of a HID report descriptor (hid_report_descriptor.c)

`parseHidReportDescFromItemList` walks the items of a report descriptor.  Global items change a state that Push saves,
Local items collect what holds for the next Main item, and a Main item opens or closes a collection or stores a field
in a report.
-/
namespace Ddc

open Kit List Exec

/-- `Parsed_Hid_Field`; the 16 bit members are numbers below 65536, the signed ones integers. -/
structure ParsedHidField where
  itemFlags : Nat
  usagePage : Nat
  extendedUsages : Option (List Nat)
  minExtendedUsage : Nat
  maxExtendedUsage : Nat
  logicalMinimum : Int
  logicalMaximum : Int
  physicalMinimum : Int
  physicalMaximum : Int
  reportSize : Nat
  reportCount : Nat
  unitExponent : Nat
  unit : Nat
  deriving DecidableEq, Repr

structure ParsedHidReport where
  reportId : Nat
  reportType : UInt8
  hidFields : Option (List ParsedHidField)
  deriving DecidableEq, Repr

structure ParsedHidCollection where
  usagePage : Nat := 0
  extendedUsage : Nat := 0
  collectionType : UInt8 := 0
  isRootCollection : Bool := false
  reports : Option (List ParsedHidReport) := none
  childCollections : Option (List Nat) := none
  deriving DecidableEq, Repr

structure ParsedHidDescriptor where
  validDescriptor : Bool
  collections : List ParsedHidCollection
  deriving DecidableEq, Repr

structure CurReportGlobals where
  usagePage : Nat := 0
  logicalMinimum : Int := 0
  logicalMaximum : Int := 0
  physicalMinimum : Int := 0
  physicalMaximum : Int := 0
  unitExponent : Nat := 0
  unit : Nat := 0
  reportSize : Nat := 0
  reportId : Nat := 0
  reportCount : Nat := 0
  deriving DecidableEq, Repr

/-- `Cur_Report_Locals`: the size of the first usage, or 0 once their sizes differ, and the usages. -/
structure CurReportLocals where
  usageBsizeBytect : UInt8 := 0
  usages : Option (List Nat) := none
  usageMinimum : Nat := 0
  usageMaximum : Nat := 0
  deriving DecidableEq, Repr

/-- What the loop over the items changes.  `collectionStack` is the part in use above the root, the top first, and
`savedGlobals` the states that `cur_globals` is linked to. -/
structure HidParser where
  curGlobals : CurReportGlobals := {}
  savedGlobals : List CurReportGlobals := []
  curLocals : CurReportLocals := {}
  curCollection : Option Nat := none
  collectionStack : List Nat := []
  collections : List ParsedHidCollection := [{ isRootCollection := true }]
  validDescriptor : Bool := true
  deriving DecidableEq, Repr

/-- An extended usage value from a usage page and a usage: by the size of the usage, or for another `usageBsize` by the
bits that are set in it. -/
def extendedUsage (usagePage usage : Nat) (usageBsize : UInt8) : Nat :=
  if usageBsize = 3 ∨ usageBsize = 4 then usage
  else if usageBsize = 1 ∨ usageBsize = 2 then
    if usage &&& 0xffff0000 ≠ 0 then usagePage <<< 16 ||| (usage &&& 0x00ff)
    else usagePage <<< 16 ||| usage
  else if usage &&& 0xff00 ≠ 0 then usage
  else usagePage <<< 16 ||| usage

/-- The data as an `int32_t`, with a minus in front where the high bit of the original bytes is set. -/
def signedData (data : Nat) (bytect : UInt8) : Int :=
  if bytect = 0 then 0
  else if data &&& 1 <<< (bytect.toNat * 8 - 1) ≠ 0 then Int.bmod (-(data : Int)) 4294967296
  else Int.bmod data 4294967296

def maybeSignedData (data : Nat) (bytect : UInt8) : Exec Int := do
  check (bytect = 0 ∨ bytect = 1 ∨ bytect = 2 ∨ bytect = 4)
  pure (signedData data bytect)

def toInt16 (v : Int) : Int := Int.bmod v 65536

/-! ## Global and Local items -/

def globalItem (g : CurReportGlobals) (saved : List CurReportGlobals) (item : HidReportDescriptorItem) :
    Exec (CurReportGlobals × List CurReportGlobals) :=
  if item.btag = 0x04 then pure ({ g with usagePage := item.data % 65536 }, saved)
  else if item.btag = 0x14 then do
    let v ← maybeSignedData item.data item.bsizeBytect
    pure ({ g with logicalMinimum := toInt16 v }, saved)
  else if item.btag = 0x24 then do
    let v ← maybeSignedData item.data item.bsizeBytect
    pure ({ g with logicalMaximum := toInt16 v }, saved)
  else if item.btag = 0x34 then do
    let v ← maybeSignedData item.data item.bsizeBytect
    pure ({ g with physicalMinimum := toInt16 v }, saved)
  else if item.btag = 0x44 then do
    let v ← maybeSignedData item.data item.bsizeBytect
    pure ({ g with physicalMaximum := toInt16 v }, saved)
  else if item.btag = 0x54 then pure ({ g with unitExponent := item.data % 65536 }, saved)
  else if item.btag = 0x64 then pure ({ g with unit := item.data % 65536 }, saved)
  else if item.btag = 0x74 then pure ({ g with reportSize := item.data % 65536 }, saved)
  else if item.btag = 0x84 then pure ({ g with reportId := item.data % 65536 }, saved)
  else if item.btag = 0x94 then pure ({ g with reportCount := item.data % 65536 }, saved)
  else if item.btag = 0xa4 then pure ({}, g :: saved)     -- Push
  else if item.btag = 0xb4 then                           -- Pop
    match saved with
    | [] => pure (g, [])
    | prev :: saved => pure (prev, saved)
  else pure (g, saved)

def nextUsageBsize (l : CurReportLocals) (bytect : UInt8) : UInt8 :=
  if (l.usages.getD []).length = 0 then bytect
  else if bytect ≠ l.usageBsizeBytect ∧ l.usageBsizeBytect ≠ 0 then 0
  else l.usageBsizeBytect

def localItem (l : CurReportLocals) (item : HidReportDescriptorItem) : CurReportLocals :=
  if item.btag = 0x08 then
    { l with
      usages := some (l.usages.getD [] ++ [item.data])
      usageBsizeBytect := nextUsageBsize l item.bsizeBytect }
  else if item.btag = 0x18 then { l with usageMinimum := item.data }
  else if item.btag = 0x28 then { l with usageMaximum := item.data }
  else l

/-! ## Main items -/

def addHidCollectionChild (collections : List ParsedHidCollection) (parent newChild : Nat) :
    List ParsedHidCollection :=
  collections.modify parent fun c => { c with childCollections := some (c.childCollections.getD [] ++ [newChild]) }

def newCollection (g : CurReportGlobals) (l : CurReportLocals) (item : HidReportDescriptorItem) :
    ParsedHidCollection :=
  let curUsage := (l.usages.getD []).headD 0
  { collectionType := UInt8.ofNat item.data
    usagePage := g.usagePage
    extendedUsage := if curUsage ≠ 0 then extendedUsage g.usagePage curUsage l.usageBsizeBytect else 0
    reports := some [] }

def collectionStackSize : Nat := 10

def collectionItem (st : HidParser) (item : HidReportDescriptorItem) : Exec HidParser := do
  let cur := st.collections.length
  let collections := st.collections ++ [newCollection st.curGlobals st.curLocals item]
  let collections := addHidCollectionChild collections (st.collectionStack.headD 0) cur
  check (st.collectionStack.length < collectionStackSize - 1)
  pure { st with collections, curCollection := some cur, collectionStack := cur :: st.collectionStack }

def findHidReport (reports : List ParsedHidReport) (reportType : UInt8) (reportId : Nat) : Option Nat :=
  reports.findIdx? fun r => r.reportType == reportType && r.reportId == reportId

def addReportField (hf : ParsedHidField) (hr : ParsedHidReport) : ParsedHidReport :=
  { hr with hidFields := some (hr.hidFields.getD [] ++ [hf]) }

def addFieldToReport (reports : List ParsedHidReport) (reportType : UInt8) (reportId : Nat) (hf : ParsedHidField) :
    List ParsedHidReport :=
  match findHidReport reports reportType reportId with
  | some ndx => reports.modify ndx (addReportField hf)
  | none => reports ++ [addReportField hf ⟨reportId, reportType, none⟩]

def hidReportType (btag : UInt8) : UInt8 := if btag = 0x80 then 1 else if btag = 0x90 then 2 else 3

def hidField (g : CurReportGlobals) (l : CurReportLocals) (item : HidReportDescriptorItem) : ParsedHidField :=
  { itemFlags := item.data % 65536
    minExtendedUsage := if l.usageMinimum ≠ 0 then extendedUsage g.usagePage l.usageMinimum 0 else 0
    maxExtendedUsage := if l.usageMaximum ≠ 0 then extendedUsage g.usagePage l.usageMaximum 0 else 0
    extendedUsages :=
      if l.usages.getD [] ≠ [] then some ((l.usages.getD []).map fun u => extendedUsage g.usagePage u 0) else none
    usagePage := g.usagePage
    reportSize := g.reportSize
    reportCount := g.reportCount
    unitExponent := g.unitExponent
    unit := g.unit
    logicalMinimum := g.logicalMinimum
    logicalMaximum := g.logicalMaximum
    physicalMinimum := g.physicalMinimum
    physicalMaximum := g.physicalMaximum }

def usageRangeValid (l : CurReportLocals) : Bool := decide (l.usageMinimum = 0) == decide (l.usageMaximum = 0)

def storeHidField (st : HidParser) (item : HidReportDescriptorItem) (hc : Nat) (col : ParsedHidCollection)
    (reports : List ParsedHidReport) : HidParser :=
  { st with
    collections := st.collections.set hc
      { col with
        reports := some (addFieldToReport reports (hidReportType item.btag) st.curGlobals.reportId
          (hidField st.curGlobals st.curLocals item)) }
    validDescriptor := st.validDescriptor && usageRangeValid st.curLocals }

/-- The field goes to the collection that was opened last, whether or not it is still open. -/
def fieldItem (st : HidParser) (item : HidReportDescriptorItem) : Exec HidParser :=
  match st.curCollection with
  | none => .error .assertFailed
  | some hc => do
    let col ← fetch st.collections hc
    match col.reports with
    | none => .error .nullDeref
    | some reports => pure (storeHidField st item hc col reports)

def mainItem (st : HidParser) (item : HidReportDescriptorItem) : Exec HidParser :=
  if item.btag = 0xa0 then collectionItem st item
  else if item.btag = 0x80 ∨ item.btag = 0x90 ∨ item.btag = 0xb0 then fieldItem st item
  else if item.btag = 0xc0 then pure { st with collectionStack := st.collectionStack.tail }
  else pure st

def hidParserTurn (st : HidParser) (item : HidReportDescriptorItem) : Exec HidParser :=
  if item.btype = 0 then (fun st => { st with curLocals := {} }) <$> mainItem st item
  else if item.btype = 1 then
    (fun gs => { st with curGlobals := gs.1, savedGlobals := gs.2 }) <$>
      globalItem st.curGlobals st.savedGlobals item
  else if item.btype = 2 then pure { st with curLocals := localItem st.curLocals item }
  else pure st

def hidParserRun (items : List HidReportDescriptorItem) : Exec HidParser := items.foldlM hidParserTurn {}

def parseHidReportDescFromItemList (items : List HidReportDescriptorItem) : Exec ParsedHidDescriptor :=
  (fun st => ⟨st.validDescriptor, st.collections⟩) <$> hidParserRun items

def usbMonitorControl : Nat := 0x0080 <<< 16 ||| 0x0001

def topCollections (phd : ParsedHidDescriptor) : Exec (List Nat) := do
  let root ← fetch phd.collections 0
  match root.childCollections with
  | none => .error .nullDeref
  | some children => pure children

def findMonitorControl (phd : ParsedHidDescriptor) : List Nat → Exec (Option Nat)
  | [] => pure none
  | ndx :: children => do
    let col ← fetch phd.collections ndx
    if col.extendedUsage = usbMonitorControl then pure (some ndx) else findMonitorControl phd children

def isMonitorByParsedHidReportDescriptor (phd : ParsedHidDescriptor) : Exec Bool := do
  let children ← topCollections phd
  let found ← findMonitorControl phd children
  pure found.isSome

def getMonitorApplicationCollection (phd : ParsedHidDescriptor) : Exec (Option Nat) := do
  let children ← topCollections phd
  findMonitorControl phd children

/-! ## Kinds of items -/

def HidReportDescriptorItem.isCollection (item : HidReportDescriptorItem) : Bool :=
  item.btype == 0 && item.btag == 0xa0

def HidReportDescriptorItem.isEndCollection (item : HidReportDescriptorItem) : Bool :=
  item.btype == 0 && item.btag == 0xc0

def HidReportDescriptorItem.isField (item : HidReportDescriptorItem) : Bool :=
  item.btype == 0 && (item.btag == 0x80 || item.btag == 0x90 || item.btag == 0xb0)

structure HidReportDescriptorItem.Sized (item : HidReportDescriptorItem) : Prop where
  size : item.bsizeBytect = 0 ∨ item.bsizeBytect = 1 ∨ item.bsizeBytect = 2 ∨ item.bsizeBytect = 4
  data : item.data < 256 ^ item.bsizeBytect.toNat

def HidReportDescriptorItem.ofBytes (b0 : UInt8) (data : List UInt8) : HidReportDescriptorItem :=
  ⟨overwrite (List.replicate 5 0) 0 (b0 :: data), (b0 &&& 0x0c) >>> 2, b0 &&& ~~~0x03, Ddc.bsizeBytect b0,
    littleEndian data, littleEndian data⟩

theorem hidReportItemAt_sized {b : List UInt8} {i : Nat} {item : HidReportDescriptorItem}
    (h : hidReportItemAt b i = .ok item) : item.Sized := by
  obtain ⟨b0, hb0, -⟩ := bind_eq_ok.1 h
  obtain ⟨hi, hget⟩ := List.getElem?_eq_some_iff.1 (fetch_eq_ok.1 hb0)
  have hb : b = b.take i ++ b0 :: b.drop (i + 1) := by
    rw [← hget, getElem_cons_drop, take_append_drop]
  have hlen : (b.take i).length = i := length_take_of_le (Nat.le_of_lt hi)
  rcases Nat.lt_or_ge (b.drop (i + 1)).length (dataBytes b0) with hcut | hwhole
  · have hfault := @hidReportItemAt_cut (b.take i) _ _ hcut
    rw [← hb, hlen, h] at hfault; cases hfault
  · have hdata : ((b.drop (i + 1)).take (dataBytes b0)).length = dataBytes b0 := length_take_of_le hwhole
    obtain ⟨item', hitem', his⟩ :=
      @hidReportItemAt_whole (b.take i) _ ((b.drop (i + 1)).drop (dataBytes b0)) b0 hdata
    rw [take_append_drop, ← hb, hlen, h] at hitem'
    cases hitem'
    refine ⟨his.size ▸ bsizeBytect_cases b0, ?_⟩
    have hlt := littleEndian_lt ((b.drop (i + 1)).take (dataBytes b0))
    rw [hdata] at hlt
    rw [his.data, his.size]; exact hlt

theorem tokenizeHidReportDescriptor_sized {b : List UInt8} {items : List HidReportDescriptorItem}
    (h : tokenizeHidReportDescriptor b = .ok items) : ∀ item ∈ items, item.Sized := by
  obtain ⟨st, hst, rfl⟩ := map_eq_ok.1 h
  obtain ⟨t, ht, hend⟩ := bind_eq_ok.1 hst
  have hkeep : (∀ item ∈ (TokenizeState.mk 0 []).items, item.Sized) → ∀ item ∈ t.items, item.Sized := by
    refine forWhile_rel (R := fun s t => (∀ item ∈ s.items, item.Sized) → ∀ item ∈ t.items, item.Sized)
      (fun _ hs => hs) ?_ ?_ _ ht
    · intro s t u hst htu hs; exact htu (hst hs)
    intro s t hturn hs
    obtain ⟨cur, hcur, hnext⟩ := bind_eq_ok.1 hturn
    cases hnext
    intro item hitem
    rcases mem_append.1 hitem with hitem | hitem
    · exact hs item hitem
    · rw [mem_singleton.1 hitem]; exact hidReportItemAt_sized hcur
  have hsame : t = st := by
    split at hend
    · cases hend
    · cases hend; rfl
  exact hsame ▸ hkeep fun item hitem => absurd hitem not_mem_nil

end Ddc
