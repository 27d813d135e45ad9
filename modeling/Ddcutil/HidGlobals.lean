import Ddcutil.HidParse
import Mathlib.Data.Nat.Bitwise
/-!
# HidGlobals — the Global items in force at a main item

HID has a Global item set its value until another one does, a Push save the whole state and leave it in force, and a
Pop restore the state that the matching Push saved.
-/
namespace Ddc

open Kit List Exec

inductive HidGlobal where
  | usagePage | logicalMinimum | logicalMaximum | physicalMinimum | physicalMaximum | unit | reportSize | reportId
  | reportCount
  deriving DecidableEq, Repr

def HidGlobal.tag : HidGlobal → UInt8
  | .usagePage => 0x04
  | .logicalMinimum => 0x14
  | .logicalMaximum => 0x24
  | .physicalMinimum => 0x34
  | .physicalMaximum => 0x44
  | .unit => 0x64
  | .reportSize => 0x74
  | .reportId => 0x84
  | .reportCount => 0x94

def HidGlobal.isLimit : HidGlobal → Bool
  | .logicalMinimum | .logicalMaximum | .physicalMinimum | .physicalMaximum => true
  | _ => false

def CurReportGlobals.get (g : CurReportGlobals) : HidGlobal → Int
  | .usagePage => g.usagePage
  | .logicalMinimum => g.logicalMinimum
  | .logicalMaximum => g.logicalMaximum
  | .physicalMinimum => g.physicalMinimum
  | .physicalMaximum => g.physicalMaximum
  | .unit => g.unit
  | .reportSize => g.reportSize
  | .reportId => g.reportId
  | .reportCount => g.reportCount

def storedValue (k : HidGlobal) (item : HidReportDescriptorItem) : Int :=
  if k.isLimit then toInt16 (signedData item.data item.bsizeBytect) else (item.data % 65536 : Nat)

def twosComplement (data bytes : Nat) : Int :=
  if 2 * data < 256 ^ bytes then data else (data : Int) - (256 ^ bytes : Nat)

def hidValue (k : HidGlobal) (item : HidReportDescriptorItem) : Int :=
  if k.isLimit then twosComplement item.data item.bsizeBytect.toNat else item.data

structure HidSetting where
  item : HidReportDescriptorItem
  here : Bool

abbrev HidSettings := HidGlobal → Option HidSetting

def settingsTurn (s : HidSettings × List HidSettings) (item : HidReportDescriptorItem) :
    HidSettings × List HidSettings :=
  if item.btype ≠ 1 then s
  else if item.btag = 0xa4 then (fun k => (s.1 k).map fun x => ⟨x.item, false⟩, s.1 :: s.2)
  else if item.btag = 0xb4 then
    match s.2 with
    | [] => s
    | prev :: saved => (prev, saved)
  else (fun k => if item.btag = k.tag then some ⟨item, true⟩ else s.1 k, s.2)

def hidSettings (pre : List HidReportDescriptorItem) : HidSettings × List HidSettings :=
  pre.foldl settingsTurn (fun _ => none, [])

def valueInForce (pre : List HidReportDescriptorItem) (k : HidGlobal) : Int :=
  ((hidSettings pre).1 k).elim 0 fun x => hidValue k x.item

/-! ## What the parser keeps -/

def HidSettings.kept (s : HidSettings) (k : HidGlobal) : Int :=
  (s k).elim 0 fun x => if x.here then storedValue k x.item else 0

/-- A limit of which all is kept: it is not negative and has 15 bits, or it is the least number of its bytes, or of two
of its four. -/
def limitFits (data : Nat) (bytect : UInt8) : Prop :=
  if bytect = 1 then data ≤ 0x80
  else if bytect = 2 then data ≤ 0x8000
  else data ≤ 0x7fff ∨ data = 0xffff8000

def HidReportDescriptorItem.fits (item : HidReportDescriptorItem) (k : HidGlobal) : Prop :=
  if k.isLimit then limitFits item.data item.bsizeBytect else item.data < 65536

/-- **The value in force is kept**: no item set it, or one behind every open Push did, to a value that fits, or one
before an open Push did, to 0. -/
def KeptInForce (pre : List HidReportDescriptorItem) (k : HidGlobal) : Prop :=
  ∀ x, (hidSettings pre).1 k = some x → if x.here then x.item.fits k else x.item.data = 0

variable {data : Nat} {bytect : UInt8} {k : HidGlobal} {g g' : CurReportGlobals} {item : HidReportDescriptorItem}
variable {st st' : HidParser} {s : HidSettings × List HidSettings} {pre : List HidReportDescriptorItem}

theorem maybeSignedData_eq_ok {v : Int} (h : maybeSignedData data bytect = .ok v) : v = signedData data bytect := by
  obtain ⟨-, -, h⟩ := bind_eq_ok.1 h
  cases h; rfl

theorem HidGlobal.tag_inj {k' : HidGlobal} : k.tag = k'.tag ↔ k = k' := by
  cases k <;> cases k' <;> decide

theorem HidGlobal.tag_ne (k : HidGlobal) : k.tag ≠ 0xa4 ∧ k.tag ≠ 0xb4 := by
  cases k <;> decide

/-- What a Global item that is not Push or Pop does: it sets the value of its kind, or none that is stored. -/
def SetsValue (g g' : CurReportGlobals) (item : HidReportDescriptorItem) : Prop :=
  item.btag ≠ 0xa4 ∧ item.btag ≠ 0xb4 ∧
    ∀ k, g'.get k = if item.btag = k.tag then storedValue k item else g.get k

theorem SetsValue.of_kind (k₀ : HidGlobal) (htag : item.btag = k₀.tag)
    (hget : ∀ k, g'.get k = if k₀ = k then storedValue k item else g.get k) : SetsValue g g' item := by
  refine ⟨htag ▸ k₀.tag_ne.1, htag ▸ k₀.tag_ne.2, fun k => ?_⟩
  rw [hget, htag]
  simp only [HidGlobal.tag_inj]

theorem SetsValue.of_other (hpush : item.btag ≠ 0xa4) (hpop : item.btag ≠ 0xb4)
    (htag : ∀ k : HidGlobal, item.btag ≠ k.tag) (hget : ∀ k, g'.get k = g.get k) : SetsValue g g' item := by
  refine ⟨hpush, hpop, fun k => ?_⟩
  rw [if_neg (htag k), hget]

theorem SetsValue.of_limit {saved saved' : List CurReportGlobals} (k₀ : HidGlobal) (upd : Int → CurReportGlobals)
    (htag : item.btag = k₀.tag)
    (hget : ∀ k, (upd (toInt16 (signedData item.data item.bsizeBytect))).get k =
      if k₀ = k then storedValue k item else g.get k)
    (h : (do
      let v ← maybeSignedData item.data item.bsizeBytect
      pure (upd (toInt16 v), saved) : Exec (CurReportGlobals × List CurReportGlobals)) = .ok (g', saved')) :
    SetsValue g g' item ∧ saved' = saved := by
  obtain ⟨v, hv, h⟩ := bind_eq_ok.1 h
  cases h
  rw [maybeSignedData_eq_ok hv]; exact ⟨SetsValue.of_kind k₀ htag hget, rfl⟩

theorem globalItem_cases {saved saved' : List CurReportGlobals} (h : globalItem g saved item = .ok (g', saved')) :
    (SetsValue g g' item ∧ saved' = saved) ∨
      (item.btag = 0xa4 ∧ g' = {} ∧ saved' = g :: saved) ∨
      (item.btag = 0xb4 ∧ saved = [] ∧ g' = g ∧ saved' = []) ∨
      (item.btag = 0xb4 ∧ saved = g' :: saved') := by
  unfold globalItem at h
  by_cases h04 : item.btag = 0x04
  · rw [if_pos h04] at h
    cases h; exact .inl ⟨SetsValue.of_kind .usagePage h04 fun k => by cases k <;> rfl, rfl⟩
  rw [if_neg h04] at h
  by_cases h14 : item.btag = 0x14
  · rw [if_pos h14] at h
    exact .inl (SetsValue.of_limit .logicalMinimum (fun v => { g with logicalMinimum := v }) h14
      (fun k => by cases k <;> rfl) h)
  rw [if_neg h14] at h
  by_cases h24 : item.btag = 0x24
  · rw [if_pos h24] at h
    exact .inl (SetsValue.of_limit .logicalMaximum (fun v => { g with logicalMaximum := v }) h24
      (fun k => by cases k <;> rfl) h)
  rw [if_neg h24] at h
  by_cases h34 : item.btag = 0x34
  · rw [if_pos h34] at h
    exact .inl (SetsValue.of_limit .physicalMinimum (fun v => { g with physicalMinimum := v }) h34
      (fun k => by cases k <;> rfl) h)
  rw [if_neg h34] at h
  by_cases h44 : item.btag = 0x44
  · rw [if_pos h44] at h
    exact .inl (SetsValue.of_limit .physicalMaximum (fun v => { g with physicalMaximum := v }) h44
      (fun k => by cases k <;> rfl) h)
  rw [if_neg h44] at h
  by_cases h54 : item.btag = 0x54
  · rw [if_pos h54] at h
    cases h
    have hother : ∀ k : HidGlobal, item.btag ≠ k.tag := by
      intro k
      rw [h54]
      cases k <;> decide
    exact .inl ⟨SetsValue.of_other (h54 ▸ by decide) (h54 ▸ by decide) hother fun k => by cases k <;> rfl, rfl⟩
  rw [if_neg h54] at h
  by_cases h64 : item.btag = 0x64
  · rw [if_pos h64] at h
    cases h; exact .inl ⟨SetsValue.of_kind .unit h64 fun k => by cases k <;> rfl, rfl⟩
  rw [if_neg h64] at h
  by_cases h74 : item.btag = 0x74
  · rw [if_pos h74] at h
    cases h; exact .inl ⟨SetsValue.of_kind .reportSize h74 fun k => by cases k <;> rfl, rfl⟩
  rw [if_neg h74] at h
  by_cases h84 : item.btag = 0x84
  · rw [if_pos h84] at h
    cases h; exact .inl ⟨SetsValue.of_kind .reportId h84 fun k => by cases k <;> rfl, rfl⟩
  rw [if_neg h84] at h
  by_cases h94 : item.btag = 0x94
  · rw [if_pos h94] at h
    cases h; exact .inl ⟨SetsValue.of_kind .reportCount h94 fun k => by cases k <;> rfl, rfl⟩
  rw [if_neg h94] at h
  by_cases hpush : item.btag = 0xa4
  · rw [if_pos hpush] at h
    cases h; exact .inr (.inl ⟨hpush, rfl, rfl⟩)
  rw [if_neg hpush] at h
  by_cases hpop : item.btag = 0xb4
  · rw [if_pos hpop] at h
    cases saved with
    | nil =>
      cases h; exact .inr (.inr (.inl ⟨hpop, rfl, rfl, rfl⟩))
    | cons prev saved =>
      cases h; exact .inr (.inr (.inr ⟨hpop, rfl⟩))
  rw [if_neg hpop] at h
  cases h
  have hother : ∀ k : HidGlobal, item.btag ≠ k.tag := by
    intro k
    cases k <;> assumption
  exact .inl ⟨SetsValue.of_other hpush hpop hother fun k => rfl, rfl⟩

/-! ## The parser's state -/

structure KeepsSettings (st : HidParser) (s : HidSettings × List HidSettings) : Prop where
  cur : ∀ k, st.curGlobals.get k = s.1.kept k
  saved : List.Forall₂ (fun (g : CurReportGlobals) (s : HidSettings) => ∀ k, g.get k = s.kept k) st.savedGlobals s.2

theorem mainItem_globals (h : mainItem st item = .ok st') :
    st'.curGlobals = st.curGlobals ∧ st'.savedGlobals = st.savedGlobals ∧ st'.curLocals = st.curLocals := by
  unfold mainItem collectionItem fieldItem at h
  split at h
  · obtain ⟨-, -, h⟩ := bind_eq_ok.1 h
    cases h; exact ⟨rfl, rfl, rfl⟩
  · split at h
    · split at h
      · cases h
      · obtain ⟨col, -, h⟩ := bind_eq_ok.1 h
        split at h
        · cases h
        · cases h; exact ⟨rfl, rfl, rfl⟩
    · split at h
      · cases h; exact ⟨rfl, rfl, rfl⟩
      · cases h; exact ⟨rfl, rfl, rfl⟩

theorem hidParserTurn_cases (h : hidParserTurn st item = .ok st') :
    (item.btype = 0 ∧ ∃ t, mainItem st item = .ok t ∧ st' = { t with curLocals := {} }) ∨
      (item.btype = 1 ∧ ∃ gs, globalItem st.curGlobals st.savedGlobals item = .ok gs ∧
        st' = { st with curGlobals := gs.1, savedGlobals := gs.2 }) ∨
      (item.btype = 2 ∧ st' = { st with curLocals := localItem st.curLocals item }) ∨
      (item.btype ≠ 0 ∧ item.btype ≠ 1 ∧ item.btype ≠ 2 ∧ st' = st) := by
  unfold hidParserTurn at h
  split at h
  · rename_i h0
    obtain ⟨t, ht, rfl⟩ := map_eq_ok.1 h
    exact .inl ⟨h0, t, ht, rfl⟩
  rename_i h0
  split at h
  · rename_i h1
    obtain ⟨gs, hgs, rfl⟩ := map_eq_ok.1 h
    exact .inr (.inl ⟨h1, gs, hgs, rfl⟩)
  rename_i h1
  split at h
  · rename_i h2
    cases h; exact .inr (.inr (.inl ⟨h2, rfl⟩))
  rename_i h2
  cases h; exact .inr (.inr (.inr ⟨h0, h1, h2, rfl⟩))

theorem settingsTurn_other (h : item.btype ≠ 1) : settingsTurn s item = s := if_pos h

theorem hidParserTurn_keepsSettings (hkeep : KeepsSettings st s) (h : hidParserTurn st item = .ok st') :
    KeepsSettings st' (settingsTurn s item) := by
  rcases hidParserTurn_cases h with ⟨htype, t, ht, rfl⟩ | ⟨htype, ⟨g, saved⟩, hg, rfl⟩ | ⟨htype, rfl⟩ |
    ⟨-, htype, -, rfl⟩
  · obtain ⟨hcur, hsaved, -⟩ := mainItem_globals ht
    rw [settingsTurn_other (by rw [htype]; decide)]
    exact ⟨fun k => hcur ▸ hkeep.cur k, hsaved ▸ hkeep.saved⟩
  · rw [settingsTurn, if_neg (not_not_intro htype)]
    rcases globalItem_cases hg with ⟨⟨hpush, hpop, hset⟩, rfl⟩ | ⟨hpush, rfl, rfl⟩ | ⟨hpop, hnil, rfl, rfl⟩ |
      ⟨hpop, hcons⟩
    · rw [if_neg hpush, if_neg hpop]
      refine ⟨fun k => ?_, hkeep.saved⟩
      change _ = Option.elim (if item.btag = k.tag then some (HidSetting.mk item true) else s.1 k) 0 _
      rw [hset]
      split
      · rfl
      · exact hkeep.cur k
    · rw [if_pos hpush]
      refine ⟨fun k => ?_, List.Forall₂.cons hkeep.cur hkeep.saved⟩
      change CurReportGlobals.get {} k = (((s.1 k).map fun x => HidSetting.mk x.item false)).elim 0 _
      cases s.1 k <;> cases k <;> rfl
    · rw [if_neg (by rw [hpop]; decide), if_pos hpop]
      have hsaved := hkeep.saved
      rw [hnil, forall₂_nil_left_iff] at hsaved
      rw [hsaved]
      refine ⟨hkeep.cur, ?_⟩
      rw [hsaved]; exact List.Forall₂.nil
    · rw [if_neg (by rw [hpop]; decide), if_pos hpop]
      have hsaved := hkeep.saved
      rw [hcons] at hsaved
      obtain ⟨prev, rest, hprev, hrest, hs⟩ := forall₂_cons_left_iff.1 hsaved
      rw [hs]; exact ⟨hprev, hrest⟩
  · rw [settingsTurn_other (by rw [htype]; decide)]; exact ⟨hkeep.cur, hkeep.saved⟩
  · rw [settingsTurn_other htype]; exact hkeep

theorem hidParserRun_concat :
    hidParserRun (pre ++ [item]) = .ok st ↔ ∃ t, hidParserRun pre = .ok t ∧ hidParserTurn t item = .ok st := by
  unfold hidParserRun
  rw [foldlM_append, bind_eq_ok]
  simp only [foldlM_cons, foldlM_nil, bind_pure]

theorem hidParserRun_keepsSettings (h : hidParserRun pre = .ok st) : KeepsSettings st (hidSettings pre) := by
  induction pre using List.reverseRecOn generalizing st with
  | nil =>
    cases h
    refine ⟨fun k => ?_, List.Forall₂.nil⟩
    cases k <;> rfl
  | append_singleton pre item ih =>
    obtain ⟨t, ht, hturn⟩ := hidParserRun_concat.1 h
    have hstep := hidParserTurn_keepsSettings (ih ht) hturn
    unfold hidSettings at hstep ⊢
    rw [foldl_append]; exact hstep

/-! ## What is kept of a value -/

theorem and_sign_ne_zero {n : Nat} (h : data < 2 ^ (n + 1)) : data &&& 1 <<< n ≠ 0 ↔ 2 ^ n ≤ data := by
  rw [Nat.one_shiftLeft, Nat.and_two_pow, Nat.testBit_eq_decide_div_mod_eq]
  have hpos : 0 < 2 ^ n := Nat.two_pow_pos n
  have hq : data / 2 ^ n < 2 := Nat.div_lt_of_lt_mul h
  have hle : 2 ^ n ≤ data ↔ 1 ≤ data / 2 ^ n := by rw [Nat.le_div_iff_mul_le hpos, Nat.one_mul]
  rw [hle, Nat.mod_eq_of_lt hq]
  rcases Nat.eq_zero_or_pos (data / 2 ^ n) with hz | hz
  · simp [hz]
  · have hone : data / 2 ^ n = 1 := by omega
    simp [hone]

theorem signedData_eq {n : Nat} (hct : bytect ≠ 0) (hn : bytect.toNat * 8 - 1 = n) (h : data < 2 ^ (n + 1)) :
    signedData data bytect =
      if 2 ^ n ≤ data then Int.bmod (-(data : Int)) 4294967296 else Int.bmod data 4294967296 := by
  rw [signedData, if_neg hct, hn]; exact if_congr (and_sign_ne_zero h) rfl rfl

theorem storedLimit_eq_iff (hsize : bytect = 0 ∨ bytect = 1 ∨ bytect = 2 ∨ bytect = 4) (h : data < 256 ^ bytect.toNat) :
    toInt16 (signedData data bytect) = twosComplement data bytect.toNat ↔ limitFits data bytect := by
  unfold toInt16 twosComplement limitFits
  rcases hsize with rfl | rfl | rfl | rfl
  · obtain rfl : data = 0 := Nat.lt_one_iff.1 h
    decide
  · rw [signedData_eq (n := 7) (by decide) rfl h]
    change data < 256 at h
    change Int.bmod (if 128 ≤ data then _ else _) 65536 = (if 2 * data < 256 then (data : Int) else data - 256) ↔
      data ≤ 0x80
    simp only [Int.bmod]; omega
  · rw [signedData_eq (n := 15) (by decide) rfl h]
    change data < 65536 at h
    change Int.bmod (if 32768 ≤ data then _ else _) 65536 =
      (if 2 * data < 65536 then (data : Int) else data - 65536) ↔ data ≤ 0x8000
    simp only [Int.bmod]; omega
  · rw [signedData_eq (n := 31) (by decide) rfl h]
    change data < 4294967296 at h
    change Int.bmod (if 2147483648 ≤ data then _ else _) 65536 =
      (if 2 * data < 4294967296 then (data : Int) else data - 4294967296) ↔ data ≤ 0x7fff ∨ data = 0xffff8000
    simp only [Int.bmod]; omega

theorem storedValue_eq_iff (h : k.isLimit = true → item.Sized) :
    storedValue k item = hidValue k item ↔ item.fits k := by
  unfold storedValue hidValue HidReportDescriptorItem.fits
  split
  · rename_i hk; exact storedLimit_eq_iff (h hk).size (h hk).data
  · omega

theorem hidValue_eq_zero_iff (h : k.isLimit = true → item.Sized) : hidValue k item = 0 ↔ item.data = 0 := by
  unfold hidValue twosComplement
  split
  · rename_i hk
    have hdata := (h hk).data
    split <;> omega
  · omega

theorem settingsTurn_items {P : HidReportDescriptorItem → Prop} (hitem : P item)
    (h : (∀ k x, s.1 k = some x → P x.item) ∧ ∀ t ∈ s.2, ∀ k x, t k = some x → P x.item) :
    (∀ k x, (settingsTurn s item).1 k = some x → P x.item) ∧
      ∀ t ∈ (settingsTurn s item).2, ∀ k x, t k = some x → P x.item := by
  unfold settingsTurn
  split
  · exact h
  · split
    · refine ⟨fun k x hx => ?_, ?_⟩
      · obtain ⟨y, hy, rfl⟩ := Option.map_eq_some_iff.1 hx
        exact h.1 k y hy
      · rintro t (_ | ⟨_, ht⟩)
        · exact h.1
        · exact h.2 t ht
    · split
      · split
        · exact h
        · rename_i prev saved hs
          rw [hs] at h; exact ⟨h.2 prev mem_cons_self, fun t ht => h.2 t (mem_cons_of_mem prev ht)⟩
      · refine ⟨fun k x hx => ?_, h.2⟩
        change (if item.btag = k.tag then some (HidSetting.mk item true) else s.1 k) = some x at hx
        split at hx
        · cases hx; exact hitem
        · exact h.1 k x hx

theorem hidSettings_items {P : HidReportDescriptorItem → Prop} (h : ∀ item ∈ pre, P item) :
    (∀ k x, (hidSettings pre).1 k = some x → P x.item) ∧
      ∀ t ∈ (hidSettings pre).2, ∀ k x, t k = some x → P x.item := by
  induction pre using List.reverseRecOn with
  | nil =>
    refine ⟨fun k x hx => ?_, fun t ht => absurd ht not_mem_nil⟩
    cases hx
  | append_singleton pre item ih =>
    have hlast := h item (mem_append_right pre mem_cons_self)
    have hstep := settingsTurn_items hlast (ih fun x hx => h x (mem_append_left _ hx))
    unfold hidSettings at hstep ⊢
    rw [foldl_append]; exact hstep

theorem kept_eq_iff (h : k.isLimit = true → ∀ item ∈ pre, item.Sized) :
    (hidSettings pre).1.kept k = valueInForce pre k ↔ KeptInForce pre k := by
  have hsized : ∀ x, (hidSettings pre).1 k = some x → k.isLimit = true → x.item.Sized :=
    fun x hx hk => (hidSettings_items (h hk)).1 k x hx
  unfold HidSettings.kept valueInForce KeptInForce
  cases hx : (hidSettings pre).1 k with
  | none => exact ⟨fun _ x hx => (Option.some_ne_none x hx.symm).elim, fun _ => rfl⟩
  | some x =>
    have hx' := hsized x hx
    change (if x.here then storedValue k x.item else 0) = hidValue k x.item ↔
      ∀ y, some x = some y → if y.here then y.item.fits k else y.item.data = 0
    have hiff : ((if x.here then storedValue k x.item else 0) = hidValue k x.item) ↔
        if x.here then x.item.fits k else x.item.data = 0 := by
      split
      · exact storedValue_eq_iff hx'
      · exact eq_comm.trans (hidValue_eq_zero_iff hx')
    rw [hiff]
    constructor
    · intro hk y hy
      cases hy; exact hk
    · exact fun hk => hk x rfl

/-! ## The fields -/

/-- **The field that the main item behind `pre` stores**, and the id of the report it is stored in. -/
def StoresField (items pre : List HidReportDescriptorItem) (item : HidReportDescriptorItem) (id : Nat)
    (hf : ParsedHidField) : Prop :=
  item.isField = true ∧ (∃ post, items = pre ++ item :: post) ∧ ∃ st st', hidParserRun pre = .ok st ∧
    hidParserTurn st item = .ok st' ∧ id = st.curGlobals.reportId ∧ hf = hidField st.curGlobals st.curLocals item

structure HasValuesInForce (pre : List HidReportDescriptorItem) (id : Nat) (hf : ParsedHidField) : Prop where
  usagePage : hf.usagePage = valueInForce pre .usagePage
  reportId : id = valueInForce pre .reportId
  reportSize : hf.reportSize = valueInForce pre .reportSize
  reportCount : hf.reportCount = valueInForce pre .reportCount
  logicalMinimum : hf.logicalMinimum = valueInForce pre .logicalMinimum
  logicalMaximum : hf.logicalMaximum = valueInForce pre .logicalMaximum
  physicalMinimum : hf.physicalMinimum = valueInForce pre .physicalMinimum
  physicalMaximum : hf.physicalMaximum = valueInForce pre .physicalMaximum
  unit : hf.unit = valueInForce pre .unit

theorem hasValuesInForce_iff {l : CurReportLocals} :
    HasValuesInForce pre g.reportId (hidField g l item) ↔ ∀ k, g.get k = valueInForce pre k := by
  constructor
  · intro h k
    cases k with
    | usagePage => exact h.usagePage
    | logicalMinimum => exact h.logicalMinimum
    | logicalMaximum => exact h.logicalMaximum
    | physicalMinimum => exact h.physicalMinimum
    | physicalMaximum => exact h.physicalMaximum
    | unit => exact h.unit
    | reportSize => exact h.reportSize
    | reportId => exact h.reportId
    | reportCount => exact h.reportCount
  · exact fun h => ⟨h .usagePage, h .reportId, h .reportSize, h .reportCount, h .logicalMinimum, h .logicalMaximum,
      h .physicalMinimum, h .physicalMaximum, h .unit⟩

/-- **A field has the values in force exactly where each of them is kept.** -/
theorem hidField_inForce_iff (items : List HidReportDescriptorItem) (hsized : ∀ item ∈ items, item.Sized) :
    (∀ pre item id hf, StoresField items pre item id hf → HasValuesInForce pre id hf) ↔
      ∀ pre item id hf, StoresField items pre item id hf → ∀ k, KeptInForce pre k := by
  have hone : ∀ pre item id hf, StoresField items pre item id hf →
      (HasValuesInForce pre id hf ↔ ∀ k, KeptInForce pre k) := by
    rintro pre item id hf ⟨-, ⟨post, rfl⟩, st, st', hst, -, rfl, rfl⟩
    have hpre : ∀ x ∈ pre, x.Sized := fun x hx => hsized x (mem_append_left _ hx)
    rw [hasValuesInForce_iff]
    refine forall_congr' fun k => ?_
    rw [(hidParserRun_keepsSettings hst).cur k]; exact kept_eq_iff fun _ => hpre
  constructor
  · exact fun h pre item id hf hs => (hone pre item id hf hs).1 (h pre item id hf hs)
  · exact fun h pre item id hf hs => (hone pre item id hf hs).2 (h pre item id hf hs)

def negativeLimitItems : List HidReportDescriptorItem :=
  [.ofBytes 0xa1 [0x01], .ofBytes 0x15 [0xff], .ofBytes 0x81 [0x02]]

theorem negativeLimitItems_sized : ∀ item ∈ negativeLimitItems, item.Sized := by
  have htokens : tokenizeHidReportDescriptor [0xa1, 0x01, 0x15, 0xff, 0x81, 0x02] = .ok negativeLimitItems := by
    decide +kernel
  exact tokenizeHidReportDescriptor_sized htokens

theorem hidField_inForce_negativeLimit :
    (∀ pre item id hf, StoresField negativeLimitItems pre item id hf → HasValuesInForce pre id hf) ↔
      ∀ pre item id hf, StoresField negativeLimitItems pre item id hf → ∀ k, KeptInForce pre k :=
  hidField_inForce_iff negativeLimitItems negativeLimitItems_sized

/-- The field has the limit -255. -/
theorem hidField_negativeLimit_not_inForce :
    ¬ ∀ pre item id hf, StoresField negativeLimitItems pre item id hf → HasValuesInForce pre id hf := by
  have hrun : ∃ st, hidParserRun (negativeLimitItems.take 2) = .ok st ∧ st.curGlobals.logicalMinimum = -255 ∧
      ∃ st', hidParserTurn st (.ofBytes 0x81 [0x02]) = .ok st' :=
    ⟨_, rfl, rfl, _, rfl⟩
  obtain ⟨st, hst, hmin, st', hst'⟩ := hrun
  intro h
  have hfield := h (negativeLimitItems.take 2) (.ofBytes 0x81 [0x02]) _ _
    ⟨by decide +kernel, ⟨[], by decide +kernel⟩, st, st', hst, hst', rfl, rfl⟩
  have hlimit := hfield.logicalMinimum
  exact absurd (hmin.symm.trans hlimit) (by decide)

end Ddc
