import Ddcutil.HidGlobals
import Mathlib.Data.List.MinMax
/-!
# HidTree — the collections and fields of a parsed report descriptor

By HID the Collection and End Collection items of a report descriptor are parentheses, and a field belongs to the
innermost collection that is open.
-/
namespace Ddc

open Kit List Exec

/-! ## The right tree -/

def collectionsOpened (pre : List HidReportDescriptorItem) : Nat := pre.countP HidReportDescriptorItem.isCollection

def openCollection (pre : List HidReportDescriptorItem) : Nat :=
  innermost HidReportDescriptorItem.isCollection HidReportDescriptorItem.isEndCollection pre

def openDepth (pre : List HidReportDescriptorItem) : Nat :=
  (stillOpen HidReportDescriptorItem.isCollection HidReportDescriptorItem.isEndCollection pre).length

def fieldMadeAt (p : List HidReportDescriptorItem × HidReportDescriptorItem) : ParsedHidField :=
  match hidParserRun p.1 with
  | .ok st => hidField st.curGlobals st.curLocals p.2
  | .error _ => hidField {} {} p.2

/-- The fields of a list of items that belong to the collection `c`, the type `t` and the id `i`, with what gives the
collection and the id of a field as arguments. -/
def fieldPlaces (coll : List HidReportDescriptorItem → Nat) (ident : List HidReportDescriptorItem → Int)
    (items : List HidReportDescriptorItem) (c : Nat) (t : UInt8) (i : Int) :
    List (List HidReportDescriptorItem × HidReportDescriptorItem) :=
  (places items).filter fun p =>
    p.2.isField && coll p.1 == c && hidReportType p.2.btag == t && ident p.1 == i

def childPlaces (items : List HidReportDescriptorItem) (c : Nat) : List Nat :=
  ((places items).filter fun p => p.2.isCollection && openCollection p.1 == c).map
    fun p => collectionsOpened p.1 + 1

def ParsedHidReport.key (r : ParsedHidReport) : UInt8 × Int := (r.reportType, r.reportId)

def fieldsIn (reports : List ParsedHidReport) (t : UInt8) (i : Int) : List ParsedHidField :=
  (reports.find? fun r => r.key = (t, i)).elim [] fun r => r.hidFields.getD []

def ParsedHidCollection.fieldsOf (col : ParsedHidCollection) (t : UInt8) (i : Int) : List ParsedHidField :=
  fieldsIn (col.reports.getD []) t i

/-- **The descriptor is the tree of the items**: its collections are nested as the parentheses are, a collection has one
report of a type and an id, and each field is, in the order of the items, in the report of its type and the id in force
of the innermost collection open. -/
structure IsTreeOf (items : List HidReportDescriptorItem) (phd : ParsedHidDescriptor) : Prop where
  collections : phd.collections.length = collectionsOpened items + 1
  children : ∀ c col, phd.collections[c]? = some col → col.childCollections.getD [] = childPlaces items c
  reports : ∀ (c : Nat) (col : ParsedHidCollection), phd.collections[c]? = some col → ((col.reports.getD []).map ParsedHidReport.key).Nodup
  fields : ∀ c col t i, phd.collections[c]? = some col →
    col.fieldsOf t i =
      (fieldPlaces openCollection (fun pre => valueInForce pre .reportId) items c t i).map fieldMadeAt

def HidReportDescriptorItem.isLimit (item : HidReportDescriptorItem) : Bool :=
  item.btype == 1 && (item.btag == 0x14 || item.btag == 0x24 || item.btag == 0x34 || item.btag == 0x44)

def HidReportDescriptorItem.SizeValid (item : HidReportDescriptorItem) : Prop :=
  item.bsizeBytect = 0 ∨ item.bsizeBytect = 1 ∨ item.bsizeBytect = 2 ∨ item.bsizeBytect = 4

/-- **The lists that the parser is right about**: a collection is opened, never more than nine are open, every field is
in the collection opened last, with a report id that is kept, and the limits have 0, 1, 2 or 4 bytes. -/
structure Parseable (items : List HidReportDescriptorItem) : Prop where
  collection : 0 < collectionsOpened items
  depth : ∀ p ∈ places items, p.2.isCollection = true → openDepth p.1 < 9
  inside : ∀ p ∈ places items, p.2.isField = true →
    0 < openCollection p.1 ∧ openCollection p.1 = collectionsOpened p.1
  id : ∀ p ∈ places items, p.2.isField = true → KeptInForce p.1 .reportId
  sizes : ∀ p ∈ places items, p.2.isLimit = true → p.2.SizeValid

/-! ## The reports of a collection -/

theorem addFieldToReport_cons (r : ParsedHidReport) (reports : List ParsedHidReport) (t : UInt8) (i : Nat)
    (hf : ParsedHidField) :
    addFieldToReport (r :: reports) t i hf =
      if r.key = (t, (i : Int)) then addReportField hf r :: reports else r :: addFieldToReport reports t i hf := by
  have hkey : (r.reportType == t && r.reportId == i) = decide (r.key = (t, (i : Int))) := by
    rw [ParsedHidReport.key, Bool.eq_iff_iff]
    simp [Prod.mk.injEq]
  unfold addFieldToReport findHidReport
  rw [findIdx?_cons, hkey]
  by_cases h : r.key = (t, (i : Int))
  · rw [if_pos h, decide_eq_true h]; rfl
  · rw [if_neg h, decide_eq_false h]
    cases reports.findIdx? fun r => r.reportType == t && r.reportId == i <;> rfl

variable (reports : List ParsedHidReport)

theorem fieldsIn_add (t t' : UInt8) (i : Nat) (i' : Int) (hf : ParsedHidField) :
    fieldsIn (addFieldToReport reports t i hf) t' i' = fieldsIn reports t' i' ++ if (t, (i : Int)) =
      (t', i') then [hf] else [] := by
  induction reports with
  | nil =>
    change Option.elim (match decide ((t, (i : Int)) = (t', i')) with | true => _ | false => _) _ _ = _
    by_cases h : (t, (i : Int)) = (t', i')
    · rw [decide_eq_true h, if_pos h]; rfl
    · rw [decide_eq_false h, if_neg h]; rfl
  | cons r reports ih =>
    unfold fieldsIn at ih ⊢
    rw [addFieldToReport_cons]
    by_cases hr : r.key = (t, (i : Int))
    · rw [if_pos hr, find?_cons, find?_cons]
      have hkey : (addReportField hf r).key = r.key := rfl
      rw [hkey, hr]
      by_cases h : (t, (i : Int)) = (t', i')
      · rw [decide_eq_true h, if_pos h]; rfl
      · rw [decide_eq_false h, if_neg h, append_nil]
    · rw [if_neg hr, find?_cons, find?_cons]
      by_cases h : r.key = (t', i')
      · rw [decide_eq_true h, if_neg fun heq => hr (h.trans heq.symm), append_nil]
      · rw [decide_eq_false h]; exact ih

theorem keys_add (t : UInt8) (i : Nat) (hf : ParsedHidField) :
    (addFieldToReport reports t i hf).map ParsedHidReport.key =
      if (t, (i : Int)) ∈ reports.map ParsedHidReport.key then reports.map ParsedHidReport.key
      else reports.map ParsedHidReport.key ++ [(t, (i : Int))] := by
  induction reports with
  | nil => rfl
  | cons r reports ih =>
    rw [addFieldToReport_cons, map_cons]
    by_cases hr : r.key = (t, (i : Int))
    · rw [if_pos hr, if_pos (hr ▸ mem_cons_self)]; rfl
    · rw [if_neg hr, map_cons, ih]
      by_cases h : (t, (i : Int)) ∈ reports.map ParsedHidReport.key
      · rw [if_pos h, if_pos (mem_cons_of_mem _ h)]
      · have hnot : (t, (i : Int)) ∉ r.key :: reports.map ParsedHidReport.key := by
          rintro (_ | ⟨_, hmem⟩)
          · exact hr rfl
          · exact h hmem
        rw [if_neg h, if_neg hnot, cons_append]

theorem keys_add_nodup {reports : List ParsedHidReport} (h : (reports.map ParsedHidReport.key).Nodup) (t : UInt8)
    (i : Nat) (hf : ParsedHidField) : ((addFieldToReport reports t i hf).map ParsedHidReport.key).Nodup := by
  rw [keys_add]
  split
  · exact h
  · rename_i hnot
    exact nodup_append.2 ⟨h, pairwise_singleton _ _, fun a ha b hb heq =>
      hnot (mem_singleton.1 hb ▸ heq ▸ ha)⟩

/-! ## What the parser has built -/

theorem collectionsOpened_concat (pre : List HidReportDescriptorItem) (item : HidReportDescriptorItem) :
    collectionsOpened (pre ++ [item]) = collectionsOpened pre + if item.isCollection = true then 1 else 0 := by
  unfold collectionsOpened
  rw [countP_append, countP_singleton]

variable {items pre : List HidReportDescriptorItem} {item : HidReportDescriptorItem} {st st' : HidParser}

theorem collectionsOpened_le {p : List HidReportDescriptorItem × HidReportDescriptorItem} (h : p ∈ places items) :
    collectionsOpened p.1 ≤ collectionsOpened items := by
  obtain ⟨post, rfl⟩ := mem_places.1 (show (p.1, p.2) ∈ places items from h)
  unfold collectionsOpened
  rw [countP_append]; exact Nat.le_add_right _ _

theorem openCollection_le (pre : List HidReportDescriptorItem) : openCollection pre ≤ collectionsOpened pre :=
  innermost_le pre

def keptReportId (pre : List HidReportDescriptorItem) : Int := (hidSettings pre).1.kept .reportId

theorem fieldPlaces_concat (coll : List HidReportDescriptorItem → Nat) (ident : List HidReportDescriptorItem → Int)
    (pre : List HidReportDescriptorItem) (item : HidReportDescriptorItem) (c : Nat) (t : UInt8) (i : Int) :
    fieldPlaces coll ident (pre ++ [item]) c t i = fieldPlaces coll ident pre c t i ++
      if (item.isField && coll pre == c && hidReportType item.btag == t && ident pre == i) = true then [(pre, item)]
      else [] := by
  unfold fieldPlaces
  rw [places_concat, filter_append, filter_cons, filter_nil]

theorem fieldPlaces_other {coll : List HidReportDescriptorItem → Nat} {ident : List HidReportDescriptorItem → Int}
    (h : item.isField = false) (c : Nat) (t : UInt8) (i : Int) :
    fieldPlaces coll ident (pre ++ [item]) c t i = fieldPlaces coll ident pre c t i := by
  rw [fieldPlaces_concat, h, Bool.false_and, Bool.false_and, Bool.false_and, if_neg Bool.false_ne_true,
    append_nil]

theorem childPlaces_concat (pre : List HidReportDescriptorItem) (item : HidReportDescriptorItem) (c : Nat) :
    childPlaces (pre ++ [item]) c = childPlaces pre c ++
      if (item.isCollection && openCollection pre == c) = true then [collectionsOpened pre + 1] else [] := by
  rw [childPlaces, places_concat, filter_append, filter_cons, filter_nil, map_append]
  split <;> rfl

theorem childPlaces_other (h : item.isCollection = false) (c : Nat) :
    childPlaces (pre ++ [item]) c = childPlaces pre c := by
  rw [childPlaces_concat, h, Bool.false_and, if_neg Bool.false_ne_true, append_nil]

structure HasCollection (pre : List HidReportDescriptorItem) (c : Nat) (col : ParsedHidCollection) : Prop where
  children : col.childCollections.getD [] = childPlaces pre c
  childless : col.childCollections ≠ some []
  reports : (c = 0 ∧ col.reports = none) ∨ (0 < c ∧ ∃ reports, col.reports = some reports)
  keys : ((col.reports.getD []).map ParsedHidReport.key).Nodup
  fields : ∀ t i, col.fieldsOf t i = (fieldPlaces collectionsOpened keptReportId pre c t i).map fieldMadeAt

structure ParserInv (pre : List HidReportDescriptorItem) (st : HidParser) : Prop where
  length : st.collections.length = collectionsOpened pre + 1
  stack : st.collectionStack =
    stillOpen HidReportDescriptorItem.isCollection HidReportDescriptorItem.isEndCollection pre
  cur : st.curCollection = if collectionsOpened pre = 0 then none else some (collectionsOpened pre)
  collections : ∀ c col, st.collections[c]? = some col → HasCollection pre c col

theorem ParserInv.top (h : ParserInv pre st) : st.collectionStack.headD 0 = openCollection pre := by
  rw [h.stack]; rfl

theorem HasCollection.other {c : Nat} {col : ParsedHidCollection} (h : HasCollection pre c col)
    (hcol : item.isCollection = false) (hfield : item.isField = false) : HasCollection (pre ++ [item]) c col where
  children := by rw [childPlaces_other hcol, h.children]
  childless := h.childless
  reports := h.reports
  keys := h.keys
  fields := fun t i => by rw [fieldPlaces_other hfield, h.fields]

theorem fieldPlaces_new (pre : List HidReportDescriptorItem) (t : UInt8) (i : Int) :
    fieldPlaces collectionsOpened keptReportId pre (collectionsOpened pre + 1) t i = [] := by
  rw [fieldPlaces, filter_eq_nil_iff]
  intro p hp h
  have hle := collectionsOpened_le hp
  simp only [Bool.and_eq_true, beq_iff_eq] at h; omega

theorem childPlaces_new (pre : List HidReportDescriptorItem) : childPlaces pre (collectionsOpened pre + 1) = [] := by
  rw [childPlaces, map_eq_nil_iff, filter_eq_nil_iff]
  intro p hp h
  have hle := collectionsOpened_le hp
  have hopen := openCollection_le p.1
  simp only [Bool.and_eq_true, beq_iff_eq] at h; omega

theorem isField_of_isCollection (h : item.isCollection = true) : item.isField = false := by
  unfold HidReportDescriptorItem.isCollection HidReportDescriptorItem.isField at *
  simp only [Bool.and_eq_true, beq_iff_eq] at h
  rw [h.1, h.2]; decide

/-- **A Collection item** returns with less than nine collections open, and then opens one in the innermost. -/
theorem collectionItem_eq_ok :
    collectionItem st item = .ok st' ↔ st.collectionStack.length < 9 ∧
      st' = { st with
        collections := addHidCollectionChild
          (st.collections ++ [newCollection st.curGlobals st.curLocals item]) (st.collectionStack.headD 0)
          st.collections.length
        curCollection := some st.collections.length
        collectionStack := st.collections.length :: st.collectionStack } := by
  rw [collectionItem, bind_eq_ok]
  constructor
  · rintro ⟨u, hu, h⟩
    cases h; exact ⟨check_eq_ok.1 hu, rfl⟩
  · rintro ⟨h, rfl⟩
    exact ⟨(), check_pos h, rfl⟩

theorem collectionItem_inv (hinv : ParserInv pre st) (hitem : item.isCollection = true)
    (h : collectionItem st item = .ok st') : ParserInv (pre ++ [item]) { st' with curLocals := {} } := by
  obtain ⟨-, rfl⟩ := collectionItem_eq_ok.1 h
  have hcount : collectionsOpened (pre ++ [item]) = collectionsOpened pre + 1 := by
    rw [collectionsOpened_concat, if_pos hitem]
  have hfield := isField_of_isCollection hitem
  have htop := hinv.top
  refine ⟨?_, ?_, ?_, ?_⟩
  · rw [addHidCollectionChild, length_modify, length_append, hinv.length, hcount]; rfl
  · rw [stillOpen_concat, if_pos hitem, hinv.stack, hinv.length]; rfl
  · rw [hcount, if_neg (Nat.succ_ne_zero _), hinv.length]
  · intro c col hcol
    rw [addHidCollectionChild, getElem?_modify, htop] at hcol
    obtain ⟨old, hold, hnew⟩ := Option.map_eq_some_iff.1 hcol
    have hbase : HasCollection pre c old := by
      rcases Nat.lt_trichotomy c st.collections.length with hlt | heq | hgt
      · rw [getElem?_append_left hlt] at hold; exact hinv.collections c old hold
      · rw [heq, getElem?_append_right (Nat.le_refl _), Nat.sub_self] at hold
        cases hold
        rw [heq, hinv.length]
        refine ⟨(childPlaces_new pre).symm, (fun hsome => by cases hsome), .inr ⟨Nat.succ_pos _, [], rfl⟩,
          nodup_nil, fun t i => ?_⟩
        rw [fieldPlaces_new]; rfl
      · rw [getElem?_append_right (Nat.le_of_lt hgt), getElem?_singleton, if_neg (by omega)] at hold
        cases hold
    have hfields : ∀ t i, old.fieldsOf t i =
        (fieldPlaces collectionsOpened keptReportId (pre ++ [item]) c t i).map fieldMadeAt := fun t i => by
      rw [fieldPlaces_other hfield, hbase.fields]
    by_cases hparent : openCollection pre = c
    · rw [if_pos hparent] at hnew
      subst hnew
      refine ⟨?_, ?_, hbase.reports, hbase.keys, hfields⟩
      · change old.childCollections.getD [] ++ [st.collections.length] = _
        rw [childPlaces_concat, hitem, hparent, Bool.true_and, beq_self_eq_true, if_pos rfl, hbase.children,
          hinv.length]
      · intro hsome
        exact absurd (Option.some.inj hsome) (append_ne_nil_of_right_ne_nil _ (cons_ne_nil _ _))
    · rw [if_neg hparent] at hnew
      cases hnew
      refine ⟨?_, hbase.childless, hbase.reports, hbase.keys, hfields⟩
      rw [childPlaces_concat, hitem, Bool.true_and, beq_false_of_ne hparent, if_neg Bool.false_ne_true,
        append_nil, hbase.children]

theorem isCollection_of_isField (h : item.isField = true) : item.isCollection = false := by
  cases hcol : item.isCollection with
  | false => rfl
  | true => exact absurd (isField_of_isCollection hcol) (by rw [h]; decide)

theorem isField_iff :
    item.isField = true ↔ item.btype = 0 ∧ (item.btag = 0x80 ∨ item.btag = 0x90 ∨ item.btag = 0xb0) := by
  unfold HidReportDescriptorItem.isField
  simp only [Bool.and_eq_true, Bool.or_eq_true, beq_iff_eq, or_assoc]

theorem isCollection_iff : item.isCollection = true ↔ item.btype = 0 ∧ item.btag = 0xa0 := by
  unfold HidReportDescriptorItem.isCollection
  simp only [Bool.and_eq_true, beq_iff_eq]

theorem isEndCollection_iff : item.isEndCollection = true ↔ item.btype = 0 ∧ item.btag = 0xc0 := by
  unfold HidReportDescriptorItem.isEndCollection
  simp only [Bool.and_eq_true, beq_iff_eq]

theorem fieldItem_eq_ok (hinv : ParserInv pre st) (item : HidReportDescriptorItem) :
    fieldItem st item = .ok st' ↔ 0 < collectionsOpened pre ∧ ∃ col reports,
      st.collections[collectionsOpened pre]? = some col ∧ col.reports = some reports ∧
        st' = storeHidField st item (collectionsOpened pre) col reports := by
  rw [fieldItem, hinv.cur]
  rcases Nat.eq_zero_or_pos (collectionsOpened pre) with hz | hpos
  · rw [if_pos hz, hz]; exact ⟨(fun h => by cases h), fun h => absurd h.1 (Nat.lt_irrefl 0)⟩
  · have hlt : collectionsOpened pre < st.collections.length := by
      rw [hinv.length]; exact Nat.lt_succ_self _
    have hget := getElem?_eq_getElem hlt
    obtain ⟨reports, hreports⟩ : ∃ reports, st.collections[collectionsOpened pre].reports = some reports := by
      rcases (hinv.collections _ _ hget).reports with ⟨hz, -⟩ | ⟨-, h⟩
      · omega
      · exact h
    rw [if_neg (Nat.ne_of_gt hpos)]
    dsimp only
    rw [fetch_of_lt hlt, ok_bind, hreports]
    constructor
    · intro h
      cases h; exact ⟨hpos, _, reports, hget, hreports, rfl⟩
    · rintro ⟨-, col, reports', hcol, hreports', rfl⟩
      rw [hget] at hcol
      cases hcol
      rw [hreports] at hreports'
      cases hreports'; rfl

theorem fieldMadeAt_run (h : hidParserRun pre = .ok st) (item : HidReportDescriptorItem) :
    fieldMadeAt (pre, item) = hidField st.curGlobals st.curLocals item := by
  rw [fieldMadeAt, h]

theorem fieldItem_inv (hrun : hidParserRun pre = .ok st) (hinv : ParserInv pre st) (hitem : item.isField = true)
    (h : fieldItem st item = .ok st') : ParserInv (pre ++ [item]) { st' with curLocals := {} } := by
  obtain ⟨hpos, hc, reports, hget, hreports, rfl⟩ := (fieldItem_eq_ok hinv item).1 h
  have hcollection := isCollection_of_isField hitem
  have hend : item.isEndCollection = false := by
    cases he : item.isEndCollection with
    | false => rfl
    | true =>
      obtain ⟨-, htag⟩ := isEndCollection_iff.1 he
      obtain ⟨-, htags⟩ := isField_iff.1 hitem
      rw [htag] at htags; exact absurd htags (by decide)
  have hcount : collectionsOpened (pre ++ [item]) = collectionsOpened pre := by
    rw [collectionsOpened_concat, hcollection]; rfl
  have hid : keptReportId pre = st.curGlobals.reportId := ((hidParserRun_keepsSettings hrun).cur .reportId).symm
  refine ⟨?_, ?_, ?_, ?_⟩
  · change (st.collections.set _ _).length = _
    rw [length_set, hinv.length, hcount]
  · change st.collectionStack = _
    rw [stillOpen_concat, hcollection, hend, hinv.stack]; rfl
  · change st.curCollection = _
    rw [hcount, hinv.cur]
  · intro c col hcol
    change (st.collections.set _ _)[c]? = some col at hcol
    rw [getElem?_set] at hcol
    split at hcol
    · rename_i heq
      subst heq
      have hlt : collectionsOpened pre < st.collections.length := by
        rw [hinv.length]; exact Nat.lt_succ_self _
      rw [if_pos hlt] at hcol
      cases hcol
      have hold := hinv.collections _ _ hget
      refine ⟨?_, hold.childless, .inr ⟨hpos, _, rfl⟩, ?_, fun t i => ?_⟩
      · rw [childPlaces_other hcollection]; exact hold.children
      · have hkeys := hold.keys
        rw [hreports] at hkeys; exact keys_add_nodup hkeys _ _ _
      · have hfields := hold.fields t i
        unfold ParsedHidCollection.fieldsOf at hfields ⊢
        rw [hreports] at hfields
        change fieldsIn reports t i = _ at hfields
        change fieldsIn (addFieldToReport reports _ _ _) t i = _
        rw [fieldsIn_add, hfields, fieldPlaces_concat, map_append, hitem, beq_self_eq_true, Bool.true_and,
          Bool.true_and, hid, ← fieldMadeAt_run hrun]
        by_cases hkey : (hidReportType item.btag, (st.curGlobals.reportId : Int)) = (t, i)
        · obtain ⟨rfl, rfl⟩ := Prod.mk.inj hkey
          rw [if_pos rfl, beq_self_eq_true, beq_self_eq_true, Bool.true_and, if_pos rfl]; rfl
        · have hnot : ¬ (hidReportType item.btag == t && (st.curGlobals.reportId : Int) == i) = true := by
            rw [Bool.and_eq_true, beq_iff_eq, beq_iff_eq]; exact fun h => hkey (Prod.ext h.1 h.2)
          rw [if_neg hkey, if_neg hnot]; rfl
    · rename_i hne
      have hold := hinv.collections c col hcol
      refine ⟨?_, hold.childless, hold.reports, hold.keys, fun t i => ?_⟩
      · rw [childPlaces_other hcollection]; exact hold.children
      · rw [fieldPlaces_concat, beq_false_of_ne hne, Bool.and_false, Bool.false_and, Bool.false_and,
          if_neg Bool.false_ne_true, append_nil]
        exact hold.fields t i

theorem ParserInv.other (h : ParserInv pre st) (hcollection : item.isCollection = false) (hfield : item.isField = false)
    (hcollections : st'.collections = st.collections) (hcur : st'.curCollection = st.curCollection)
    (hstack : st'.collectionStack =
      if item.isEndCollection = true then st.collectionStack.tail else st.collectionStack) :
    ParserInv (pre ++ [item]) st' := by
  have hcount : collectionsOpened (pre ++ [item]) = collectionsOpened pre := by
    rw [collectionsOpened_concat, hcollection]; rfl
  refine ⟨?_, ?_, ?_, ?_⟩
  · rw [hcollections, h.length, hcount]
  · rw [hstack, stillOpen_concat, hcollection, h.stack]; rfl
  · rw [hcur, h.cur, hcount]
  · intro c col hcol
    rw [hcollections] at hcol; exact (h.collections c col hcol).other hcollection hfield

theorem not_main (item : HidReportDescriptorItem) (h : item.btype ≠ 0) :
    item.isCollection = false ∧ item.isField = false ∧ item.isEndCollection = false := by
  have htype : (item.btype == 0) = false := beq_false_of_ne h
  unfold HidReportDescriptorItem.isCollection HidReportDescriptorItem.isField HidReportDescriptorItem.isEndCollection
  rw [htype]; exact ⟨rfl, rfl, rfl⟩

theorem mainItem_inv (hrun : hidParserRun pre = .ok st) (hinv : ParserInv pre st) (htype : item.btype = 0)
    (h : mainItem st item = .ok st') : ParserInv (pre ++ [item]) { st' with curLocals := {} } := by
  unfold mainItem at h
  split at h
  · rename_i htag; exact collectionItem_inv hinv (isCollection_iff.2 ⟨htype, htag⟩) h
  rename_i hnotcol
  have hcollection : item.isCollection = false :=
    Bool.eq_false_iff.2 fun hcol => hnotcol (isCollection_iff.1 hcol).2
  split at h
  · rename_i htag; exact fieldItem_inv hrun hinv (isField_iff.2 ⟨htype, htag⟩) h
  rename_i hnotfield
  have hfield : item.isField = false := Bool.eq_false_iff.2 fun hf => hnotfield (isField_iff.1 hf).2
  split at h
  · rename_i htag
    cases h
    refine hinv.other hcollection hfield rfl rfl ?_
    rw [if_pos (isEndCollection_iff.2 ⟨htype, htag⟩)]
  · rename_i hnotend
    cases h
    refine hinv.other hcollection hfield rfl rfl ?_
    rw [if_neg fun hend => hnotend (isEndCollection_iff.1 hend).2]

theorem hidParserTurn_inv (hrun : hidParserRun pre = .ok st) (hinv : ParserInv pre st)
    (h : hidParserTurn st item = .ok st') : ParserInv (pre ++ [item]) st' := by
  rcases hidParserTurn_cases h with ⟨htype, t, ht, rfl⟩ | ⟨htype, gs, -, rfl⟩ | ⟨htype, rfl⟩ | ⟨htype, -, -, rfl⟩
  · exact mainItem_inv hrun hinv htype ht
  · obtain ⟨h₁, h₂, h₃⟩ := not_main item (by rw [htype]; decide)
    exact hinv.other h₁ h₂ rfl rfl (by rw [h₃]; rfl)
  · obtain ⟨h₁, h₂, h₃⟩ := not_main item (by rw [htype]; decide)
    exact hinv.other h₁ h₂ rfl rfl (by rw [h₃]; rfl)
  · obtain ⟨h₁, h₂, h₃⟩ := not_main _ htype
    exact hinv.other h₁ h₂ rfl rfl (by rw [h₃]; rfl)

theorem ParserInv.nil : ParserInv [] {} where
  length := rfl
  stack := rfl
  cur := rfl
  collections := by
    rintro (_ | c) col hcol
    · cases hcol
      exact ⟨rfl, (fun hsome => by cases hsome), .inl ⟨rfl, rfl⟩, nodup_nil, fun t i => rfl⟩
    · cases hcol

theorem hidParserRun_inv (h : hidParserRun pre = .ok st) : ParserInv pre st := by
  induction pre using List.reverseRecOn generalizing st with
  | nil =>
    cases h; exact ParserInv.nil
  | append_singleton pre item ih =>
    obtain ⟨t, ht, hturn⟩ := hidParserRun_concat.1 h
    exact hidParserTurn_inv ht (ih ht) hturn

/-! ## Which lists are parsed -/

theorem bind_signed_returns {α : Type} {f : Int → α} :
    (∃ a, (do
      let v ← maybeSignedData item.data item.bsizeBytect
      pure (f v) : Exec α) = .ok a) ↔ item.SizeValid := by
  unfold maybeSignedData
  constructor
  · rintro ⟨a, h⟩
    obtain ⟨v, hv, -⟩ := bind_eq_ok.1 h
    obtain ⟨u, hu, -⟩ := bind_eq_ok.1 hv
    unfold HidReportDescriptorItem.SizeValid; exact check_eq_ok.1 hu
  · intro h
    unfold HidReportDescriptorItem.SizeValid at h
    rw [check_pos h]; exact ⟨_, rfl⟩

theorem isLimit_iff :
    item.isLimit = true ↔ item.btype = 1 ∧
      (item.btag = 0x14 ∨ item.btag = 0x24 ∨ item.btag = 0x34 ∨ item.btag = 0x44) := by
  unfold HidReportDescriptorItem.isLimit
  simp only [Bool.and_eq_true, Bool.or_eq_true, beq_iff_eq, or_assoc]

theorem globalItem_returns (g : CurReportGlobals) (saved : List CurReportGlobals) (item : HidReportDescriptorItem) :
    (∃ gs, globalItem g saved item = .ok gs) ↔
      (item.btag = 0x14 ∨ item.btag = 0x24 ∨ item.btag = 0x34 ∨ item.btag = 0x44 → item.SizeValid) := by
  unfold globalItem
  by_cases h04 : item.btag = 0x04
  · rw [if_pos h04, h04]; exact ⟨fun _ h => absurd h (by decide), fun _ => ⟨_, rfl⟩⟩
  rw [if_neg h04]
  by_cases h14 : item.btag = 0x14
  · rw [if_pos h14, bind_signed_returns]; exact ⟨fun h _ => h, fun h => h (.inl h14)⟩
  rw [if_neg h14]
  by_cases h24 : item.btag = 0x24
  · rw [if_pos h24, bind_signed_returns]; exact ⟨fun h _ => h, fun h => h (.inr (.inl h24))⟩
  rw [if_neg h24]
  by_cases h34 : item.btag = 0x34
  · rw [if_pos h34, bind_signed_returns]; exact ⟨fun h _ => h, fun h => h (.inr (.inr (.inl h34)))⟩
  rw [if_neg h34]
  by_cases h44 : item.btag = 0x44
  · rw [if_pos h44, bind_signed_returns]; exact ⟨fun h _ => h, fun h => h (.inr (.inr (.inr h44)))⟩
  refine ⟨fun _ h => ?_, fun _ => ?_⟩
  · rcases h with h | h | h | h
    · exact absurd h h14
    · exact absurd h h24
    · exact absurd h h34
    · exact absurd h h44
  · split_ifs <;> first | exact ⟨_, rfl⟩ | (cases saved <;> exact ⟨_, rfl⟩)

theorem hidParserTurn_returns (hinv : ParserInv pre st) (item : HidReportDescriptorItem) :
    (∃ st', hidParserTurn st item = .ok st') ↔
      (item.isCollection = true → openDepth pre < 9) ∧ (item.isField = true → 0 < collectionsOpened pre) ∧
        (item.isLimit = true → item.SizeValid) := by
  have hdepth : openDepth pre = st.collectionStack.length := congrArg List.length hinv.stack.symm
  by_cases h0 : item.btype = 0
  · have hlimit : item.isLimit = true → item.SizeValid := by
      intro h
      have h1 := (isLimit_iff.1 h).1
      rw [h0] at h1; exact absurd h1 (by decide)
    have hturn : (∃ st', hidParserTurn st item = .ok st') ↔ ∃ st', mainItem st item = .ok st' := by
      rw [hidParserTurn, if_pos h0]
      constructor
      · rintro ⟨st', h⟩
        obtain ⟨t, ht, -⟩ := map_eq_ok.1 h
        exact ⟨t, ht⟩
      · rintro ⟨t, ht⟩
        exact ⟨_, map_eq_ok.2 ⟨t, ht, rfl⟩⟩
    rw [hturn, isCollection_iff, isField_iff, hdepth]
    unfold mainItem
    by_cases hcol : item.btag = 0xa0
    · rw [if_pos hcol]
      constructor
      · rintro ⟨st', h⟩
        refine ⟨fun _ => (collectionItem_eq_ok.1 h).1, fun hf => ?_, hlimit⟩
        rw [hcol] at hf; exact absurd hf.2 (by decide)
      · exact fun h => ⟨_, collectionItem_eq_ok.2 ⟨h.1 ⟨h0, hcol⟩, rfl⟩⟩
    rw [if_neg hcol]
    by_cases hfield : item.btag = 0x80 ∨ item.btag = 0x90 ∨ item.btag = 0xb0
    · rw [if_pos hfield]
      constructor
      · rintro ⟨st', h⟩
        exact ⟨fun h' => absurd h'.2 hcol, fun _ => ((fieldItem_eq_ok hinv item).1 h).1, hlimit⟩
      · rintro ⟨-, h, -⟩
        have hpos := h ⟨h0, hfield⟩
        have hlt : collectionsOpened pre < st.collections.length := by
          rw [hinv.length]; exact Nat.lt_succ_self _
        have hget := getElem?_eq_getElem hlt
        rcases (hinv.collections _ _ hget).reports with ⟨hz, -⟩ | ⟨-, reports, hreports⟩
        · omega
        · exact ⟨_, (fieldItem_eq_ok hinv item).2 ⟨hpos, _, reports, hget, hreports, rfl⟩⟩
    rw [if_neg hfield]
    refine ⟨fun _ => ⟨fun h => absurd h.2 hcol, fun h => absurd h.2 hfield, hlimit⟩, fun _ => ?_⟩
    split
    · exact ⟨_, rfl⟩
    · exact ⟨_, rfl⟩
  · obtain ⟨hcol, hfield, -⟩ := not_main item h0
    rw [hcol, hfield]
    rw [hidParserTurn, if_neg h0]
    by_cases h1 : item.btype = 1
    · rw [if_pos h1]
      have hmap : (∃ st', (fun gs : CurReportGlobals × List CurReportGlobals =>
          { st with curGlobals := gs.1, savedGlobals := gs.2 }) <$>
            globalItem st.curGlobals st.savedGlobals item = .ok st') ↔
          ∃ gs, globalItem st.curGlobals st.savedGlobals item = .ok gs := by
        constructor
        · rintro ⟨st', h⟩
          obtain ⟨gs, hgs, -⟩ := map_eq_ok.1 h
          exact ⟨gs, hgs⟩
        · rintro ⟨gs, hgs⟩
          exact ⟨_, map_eq_ok.2 ⟨gs, hgs, rfl⟩⟩
      rw [hmap, globalItem_returns, isLimit_iff]
      constructor
      · exact fun h => ⟨(fun hc => by cases hc), (fun hf => by cases hf), fun hl => h hl.2⟩
      · exact fun h hl => h.2.2 ⟨h1, hl⟩
    · rw [if_neg h1]
      refine ⟨fun _ => ⟨(fun hc => by cases hc), (fun hf => by cases hf), fun hl => absurd (isLimit_iff.1 hl).1 h1⟩,
        fun _ => ?_⟩
      split
      · exact ⟨_, rfl⟩
      · exact ⟨_, rfl⟩

theorem hidParserRun_returns (items : List HidReportDescriptorItem) :
    (∃ st, hidParserRun items = .ok st) ↔ ∀ p ∈ places items,
      (p.2.isCollection = true → openDepth p.1 < 9) ∧ (p.2.isField = true → 0 < collectionsOpened p.1) ∧
        (p.2.isLimit = true → p.2.SizeValid) := by
  induction items using List.reverseRecOn with
  | nil => exact ⟨fun _ p hp => absurd hp not_mem_nil, fun _ => ⟨_, rfl⟩⟩
  | append_singleton pre item ih =>
    rw [places_concat]
    constructor
    · rintro ⟨st, h⟩ p hp
      obtain ⟨t, ht, hturn⟩ := hidParserRun_concat.1 h
      rcases mem_append.1 hp with hp | hp
      · exact ih.1 ⟨t, ht⟩ p hp
      · rw [mem_singleton.1 hp]
        exact (hidParserTurn_returns (hidParserRun_inv ht) item).1 ⟨st, hturn⟩
    · intro h
      obtain ⟨t, ht⟩ := ih.2 fun p hp => h p (mem_append_left _ hp)
      have hlast := h (pre, item) (mem_append_right _ mem_cons_self)
      obtain ⟨st, hst⟩ := (hidParserTurn_returns (hidParserRun_inv ht) item).2 hlast
      exact ⟨st, hidParserRun_concat.2 ⟨t, ht, hst⟩⟩

/-! ## The searches of the result -/

theorem childPlaces_le {c : Nat} : ∀ k ∈ childPlaces items c, k ≤ collectionsOpened items := by
  induction items using List.reverseRecOn with
  | nil => exact fun k hk => absurd hk not_mem_nil
  | append_singleton pre item ih =>
    intro k hk
    rw [childPlaces_concat] at hk
    rw [collectionsOpened_concat]
    rcases mem_append.1 hk with hk | hk
    · have := ih k hk
      omega
    · split at hk
      · rename_i h
        rw [Bool.and_eq_true] at h
        rw [mem_singleton.1 hk, if_pos h.1]
      · exact absurd hk not_mem_nil

theorem childPlaces_root_eq_nil (items : List HidReportDescriptorItem) :
    childPlaces items 0 = [] ↔ collectionsOpened items = 0 := by
  induction items using List.reverseRecOn with
  | nil => exact ⟨fun _ => rfl, fun _ => rfl⟩
  | append_singleton pre item ih =>
    rw [childPlaces_concat, collectionsOpened_concat, append_eq_nil_iff, ih]
    constructor
    · rintro ⟨hz, hitem⟩
      have hopen : openCollection pre = 0 := Nat.le_zero.1 (hz ▸ openCollection_le pre)
      rw [hopen, beq_self_eq_true, Bool.and_true] at hitem
      rw [hz]
      split
      · rename_i h
        rw [if_pos h] at hitem; cases hitem
      · rfl
    · intro h
      split at h
      · cases h
      · rename_i hitem
        refine ⟨h, ?_⟩
        rw [Bool.not_eq_true] at hitem
        rw [hitem, Bool.false_and, if_neg Bool.false_ne_true]

theorem findMonitorControl_returns (phd : ParsedHidDescriptor) {children : List Nat}
    (h : ∀ k ∈ children, k < phd.collections.length) : ∃ found, findMonitorControl phd children = .ok found := by
  induction children with
  | nil => exact ⟨none, rfl⟩
  | cons k children ih =>
    rw [findMonitorControl, fetch_of_lt (h k mem_cons_self), ok_bind]
    split
    · exact ⟨_, rfl⟩
    · exact ih fun k' hk' => h k' (mem_cons_of_mem k hk')

theorem topCollections_eq (hinv : ParserInv items st) :
    topCollections ⟨st.validDescriptor, st.collections⟩ =
      if 0 < collectionsOpened items then .ok (childPlaces items 0) else .error .nullDeref := by
  have hlt : 0 < st.collections.length := by rw [hinv.length]; exact Nat.succ_pos _
  have hroot := hinv.collections 0 _ (getElem?_eq_getElem hlt)
  have hchildren := hroot.children
  rw [topCollections, fetch_of_lt hlt, ok_bind]
  cases hsome : st.collections[0].childCollections with
  | none =>
    rw [hsome] at hchildren
    have hz : collectionsOpened items = 0 := (childPlaces_root_eq_nil items).1 hchildren.symm
    rw [hz, if_neg (Nat.lt_irrefl 0)]
  | some children =>
    rw [hsome] at hchildren
    change children = childPlaces items 0 at hchildren
    have hpos : 0 < collectionsOpened items := by
      rw [Nat.pos_iff_ne_zero]
      intro hz
      have hnil : children = [] := hchildren.trans ((childPlaces_root_eq_nil items).2 hz)
      exact hroot.childless (hsome.trans (congrArg some hnil))
    rw [if_pos hpos, hchildren]; rfl

theorem queries_return (hinv : ParserInv items st) :
    ((∃ b, isMonitorByParsedHidReportDescriptor ⟨st.validDescriptor, st.collections⟩ = .ok b) ∧
        ∃ found, getMonitorApplicationCollection ⟨st.validDescriptor, st.collections⟩ = .ok found) ↔
      0 < collectionsOpened items := by
  rw [isMonitorByParsedHidReportDescriptor, getMonitorApplicationCollection, topCollections_eq hinv]
  constructor
  · rintro ⟨-, found, h⟩
    by_contra hnone
    rw [if_neg hnone] at h; cases h
  · intro hpos
    have hchildren : ∀ k ∈ childPlaces items 0, k < st.collections.length := by
      intro k hk
      rw [hinv.length]; exact Nat.lt_succ_of_le (childPlaces_le k hk)
    obtain ⟨found, hfound⟩ :=
      findMonitorControl_returns ⟨st.validDescriptor, st.collections⟩ hchildren
    rw [if_pos hpos, ok_bind, ok_bind, hfound]; exact ⟨⟨_, rfl⟩, _, rfl⟩

/-! ## The tree -/

theorem keptReportId_range (pre : List HidReportDescriptorItem) :
    0 ≤ keptReportId pre ∧ keptReportId pre < 65536 ∧ keptReportId pre ≤ valueInForce pre .reportId := by
  unfold keptReportId HidSettings.kept valueInForce
  cases (hidSettings pre).1 .reportId with
  | none => exact ⟨Int.le_refl 0, by decide, Int.le_refl 0⟩
  | some x =>
    change 0 ≤ (if x.here then ((x.item.data % 65536 : Nat) : Int) else 0) ∧
      (if x.here then ((x.item.data % 65536 : Nat) : Int) else 0) < 65536 ∧
        (if x.here then ((x.item.data % 65536 : Nat) : Int) else 0) ≤ (x.item.data : Int)
    split <;> omega

def FieldInPlace (p : List HidReportDescriptorItem × HidReportDescriptorItem) : Prop :=
  openCollection p.1 = collectionsOpened p.1 ∧ valueInForce p.1 .reportId = keptReportId p.1

theorem exists_fieldPlaces_length_lt {p : List HidReportDescriptorItem × HidReportDescriptorItem}
    (hp : p ∈ places items) (hfield : p.2.isField = true) (hplace : ¬ FieldInPlace p) :
    ∃ q ∈ places items, ∃ t i,
      (fieldPlaces openCollection (fun pre => valueInForce pre .reportId) items (collectionsOpened q.1) t i).length <
        (fieldPlaces collectionsOpened keptReportId items (collectionsOpened q.1) t i).length := by
  classical
  let misplaced := (places items).filter fun q => q.2.isField && decide (¬ FieldInPlace q)
  let rank : List HidReportDescriptorItem × HidReportDescriptorItem → Nat :=
    fun q => collectionsOpened q.1 * 65536 + (65535 - (keptReportId q.1).toNat)
  have hne : misplaced ≠ [] := by
    have hmem : p ∈ misplaced := mem_filter.2 ⟨hp, by rw [hfield, decide_eq_true hplace]; rfl⟩
    exact ne_nil_of_mem hmem
  obtain ⟨q, hq⟩ : ∃ q, q ∈ misplaced.argmax rank :=
    Option.ne_none_iff_exists'.1 fun h => hne (argmax_eq_none.1 h)
  obtain ⟨hqmem, hqbad⟩ := mem_filter.1 (argmax_mem hq)
  rw [Bool.and_eq_true, decide_eq_true_eq] at hqbad
  refine ⟨q, hqmem, hidReportType q.2.btag, keptReportId q.1, ?_⟩
  have hsub : fieldPlaces openCollection (fun pre => valueInForce pre .reportId) items (collectionsOpened q.1)
      (hidReportType q.2.btag) (keptReportId q.1) =
      (fieldPlaces collectionsOpened keptReportId items (collectionsOpened q.1) (hidReportType q.2.btag)
        (keptReportId q.1)).filter fun r =>
          openCollection r.1 == collectionsOpened q.1 && valueInForce r.1 .reportId == keptReportId q.1 := by
    unfold fieldPlaces
    rw [filter_filter]
    refine filter_congr fun r hr => ?_
    rw [Bool.eq_iff_iff]
    simp only [Bool.and_eq_true, beq_iff_eq]
    refine ⟨?_, fun h => ⟨⟨⟨h.2.1.1.1, h.1.1⟩, h.2.1.2⟩, h.1.2⟩⟩
    rintro ⟨⟨⟨hrfield, hropen⟩, hrtype⟩, hrid⟩
    have hle := openCollection_le r.1
    have hrange := keptReportId_range r.1
    have hqrange := keptReportId_range q.1
    by_cases hr' : FieldInPlace r
    · have hcoll := hr'.1
      have hkept := hr'.2
      exact ⟨⟨hropen, hrid⟩, ⟨⟨hrfield, by omega⟩, hrtype⟩, by omega⟩
    · have hrmem : r ∈ misplaced := mem_filter.2 ⟨hr, by rw [hrfield, decide_eq_true hr']; rfl⟩
      have hrank : rank r ≤ rank q := le_of_mem_argmax hrmem hq
      change collectionsOpened r.1 * 65536 + (65535 - (keptReportId r.1).toNat) ≤
        collectionsOpened q.1 * 65536 + (65535 - (keptReportId q.1).toNat) at hrank
      exact ⟨⟨hropen, hrid⟩, ⟨⟨hrfield, by omega⟩, hrtype⟩, by omega⟩
  rw [hsub, length_filter_lt_length_iff_exists]
  refine ⟨q, ?_, fun h => hqbad.2 ?_⟩
  · rw [fieldPlaces, mem_filter]
    simp only [Bool.and_eq_true, beq_iff_eq, and_true]; exact ⟨hqmem, hqbad.1⟩
  · simp only [Bool.and_eq_true, beq_iff_eq] at h; exact h

/-- **The parsed descriptor is the tree of the items exactly where each field is where it belongs.** -/
theorem isTreeOf_iff (hinv : ParserInv items st) :
    IsTreeOf items ⟨st.validDescriptor, st.collections⟩ ↔
      ∀ p ∈ places items, p.2.isField = true → FieldInPlace p := by
  constructor
  · intro htree p hp hfield
    by_contra hplace
    obtain ⟨q, hq, t, i, hlt⟩ := exists_fieldPlaces_length_lt hp hfield hplace
    have hc : collectionsOpened q.1 < st.collections.length := by
      rw [hinv.length]; exact Nat.lt_succ_of_le (collectionsOpened_le hq)
    have hget := getElem?_eq_getElem hc
    have hright := htree.fields _ _ t i hget
    have hbuilt := (hinv.collections _ _ hget).fields t i
    have hlen := congrArg List.length (hright.symm.trans hbuilt)
    rw [length_map, length_map] at hlen; omega
  · intro h
    refine ⟨hinv.length, fun c col hcol => (hinv.collections c col hcol).children,
      fun c col hcol => (hinv.collections c col hcol).keys, fun c col t i hcol => ?_⟩
    rw [(hinv.collections c col hcol).fields t i]
    congr 1
    refine filter_congr fun p hp => ?_
    cases hfield : p.2.isField with
    | false => rfl
    | true =>
      obtain ⟨hcoll, hid⟩ := h p hp hfield
      dsimp only
      rw [hcoll, hid]

def ReportDescRight (items : List HidReportDescriptorItem) : Prop :=
  ∃ phd, parseHidReportDescFromItemList items = .ok phd ∧ IsTreeOf items phd ∧
    (∃ b, isMonitorByParsedHidReportDescriptor phd = .ok b) ∧
      ∃ found, getMonitorApplicationCollection phd = .ok found

theorem parse_eq_ok {phd : ParsedHidDescriptor} :
    parseHidReportDescFromItemList items = .ok phd ↔
      ∃ st, hidParserRun items = .ok st ∧ phd = ⟨st.validDescriptor, st.collections⟩ := by
  rw [parseHidReportDescFromItemList, map_eq_ok]
  exact ⟨fun ⟨st, hst, h⟩ => ⟨st, hst, h.symm⟩, fun ⟨st, hst, h⟩ => ⟨st, hst, h.symm⟩⟩

/-- **The parser builds the right tree, and the searches of it return, exactly for the parseable lists.** -/
theorem parseHidReportDesc_iff (items : List HidReportDescriptorItem) : ReportDescRight items ↔ Parseable items := by
  have hkept : ∀ pre, KeptInForce pre .reportId ↔ valueInForce pre .reportId = keptReportId pre := fun pre =>
    (kept_eq_iff fun h => by cases h).symm.trans eq_comm
  constructor
  · rintro ⟨phd, hparse, htree, hqueries⟩
    obtain ⟨st, hst, rfl⟩ := parse_eq_ok.1 hparse
    have hinv := hidParserRun_inv hst
    have hreturns := (hidParserRun_returns items).1 ⟨st, hst⟩
    have hplace := (isTreeOf_iff hinv).1 htree
    refine ⟨(queries_return hinv).1 hqueries, fun p hp => (hreturns p hp).1, fun p hp hfield => ?_,
      fun p hp hfield => (hkept p.1).2 (hplace p hp hfield).2, fun p hp => (hreturns p hp).2.2⟩
    have hcoll := (hplace p hp hfield).1
    exact ⟨hcoll ▸ (hreturns p hp).2.1 hfield, hcoll⟩
  · intro h
    obtain ⟨st, hst⟩ := (hidParserRun_returns items).2 fun p hp =>
      ⟨h.depth p hp, fun hfield => (h.inside p hp hfield).2 ▸ (h.inside p hp hfield).1, h.sizes p hp⟩
    have hinv := hidParserRun_inv hst
    refine ⟨_, parse_eq_ok.2 ⟨st, hst, rfl⟩, (isTreeOf_iff hinv).2 fun p hp hfield => ?_,
      (queries_return hinv).2 h.collection⟩
    exact ⟨(h.inside p hp hfield).2, (hkept p.1).1 (h.id p hp hfield)⟩

def fieldBehindInner : List HidReportDescriptorItem :=
  [.ofBytes 0xa1 [0x01], .ofBytes 0xa1 [0x02], .ofBytes 0xc0 [], .ofBytes 0xb1 [0x02], .ofBytes 0xc0 []]

/-- It is put in the inner collection, which is closed. -/
theorem fieldBehindInner_not_right : ¬ ReportDescRight fieldBehindInner := by
  rintro ⟨phd, hparse, htree, -⟩
  have hcol : ∃ col, phd.collections[1]? = some col ∧ col.fieldsOf 3 0 = [] := by
    obtain ⟨st, hst, rfl⟩ := parse_eq_ok.1 hparse
    have hrun : ∃ st, hidParserRun fieldBehindInner = .ok st ∧ ∃ col, st.collections[1]? = some col ∧
        col.fieldsOf 3 0 = [] := ⟨_, rfl, _, rfl, by decide +kernel⟩
    obtain ⟨st', hst', h⟩ := hrun
    rw [hst] at hst'
    cases hst'; exact h
  obtain ⟨col, hget, hnone⟩ := hcol
  have hlen := congrArg List.length ((htree.fields 1 col 3 0 hget).symm.trans hnone)
  exact absurd hlen (by decide +kernel)

end Ddc
