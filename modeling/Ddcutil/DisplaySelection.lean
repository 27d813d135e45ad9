import Ddcutil.DetectedDisplays
/-!
# DisplaySelection — the display that an identifier stands for

`get_display_ref_for_display_identifier` turns the identifier into criteria and takes the first reference that satisfies
them and is no phantom; a reference with a negative number is then not returned, and no other is looked for.
-/
namespace Ddc

open Kit List Exec

/-- **`Display_Identifier`**; an empty string of a monitor is one that is not specified. -/
inductive DisplayIdentifier where
  | busno (busno : Int)
  | monser (mfgId modelName serialAscii : List Byte)
  | edid (edidbytes : EdidBlock)
  | dispno (dispno : Int)
  | usb (usbBus usbDevice : Int)
  | hiddev (hiddevDevno : Int)

structure DisplayCriteria where
  dispno : Int
  i2cBusno : Int
  hiddev : Int
  usbBusno : Int
  usbDevno : Int
  mfgId : Option (List Byte)
  modelName : Option (List Byte)
  serialAscii : Option (List Byte)
  edidbytes : Option EdidBlock

def newDisplayCriteria : DisplayCriteria := ⟨-1, -1, -1, -1, -1, none, none, none, none⟩

def DisplayIdentifier.criteria : DisplayIdentifier → DisplayCriteria
  | .busno i2cBusno => { newDisplayCriteria with i2cBusno := i2cBusno }
  | .monser mfgId modelName serialAscii =>
    { newDisplayCriteria with mfgId := some mfgId, modelName := some modelName, serialAscii := some serialAscii }
  | .edid edidbytes => { newDisplayCriteria with edidbytes := some edidbytes }
  | .dispno n => { newDisplayCriteria with dispno := n }
  | .usb usbBus usbDevice => { newDisplayCriteria with usbBusno := usbBus, usbDevno := usbDevice }
  | .hiddev hiddevDevno => { newDisplayCriteria with hiddev := hiddevDevno }

/-! ## The test of one reference -/

def usbHiddevDirectory : String := "/dev/usb"

def hiddevName (hiddev : Int) : String := usbHiddevDirectory ++ "/hiddev" ++ toString hiddev

def testHiddevName (dref : DetectedRef) (hiddev : Int) : Exec Bool :=
  if isI2c dref.ioPath = true then .ok false
  else
    match dref.moninfo with
    | some moninfo => .ok (decide (moninfo.hiddevDeviceName = hiddevName hiddev))
    | none => .error .nullDeref

def testPedid (dref : DetectedRef) (p : ParsedEdid → Bool) : Exec Bool :=
  match dref.pedid with
  | some pedid => .ok (p pedid.edid)
  | none => .error .nullDeref

def testString (dref : DetectedRef) (criterion : Option (List Byte)) (field : ParsedEdid → List Byte) : Exec Bool :=
  match criterion with
  | none => .ok true
  | some s => if s = [] then .ok true else testPedid dref fun pedid => decide (field pedid = s)

/-- **`ddc_test_display_ref_criteria`**: the first criterion that is not satisfied decides. -/
def ddcTestDisplayRefCriteria (dref : DetectedRef) (criteria : DisplayCriteria) : Exec Bool :=
  .ok (decide (¬ (0 ≤ criteria.dispno ∧ criteria.dispno ≠ dref.dispno))) <&&>
  .ok (decide (¬ (0 ≤ criteria.i2cBusno ∧
    ¬ (isI2c dref.ioPath = true ∧ (dref.ioPath.busno : Int) = criteria.i2cBusno)))) <&&>
  (if 0 ≤ criteria.hiddev then testHiddevName dref criteria.hiddev else .ok true) <&&>
  .ok (decide (¬ (0 ≤ criteria.usbBusno ∧ (isI2c dref.ioPath = true ∨ dref.usbBus ≠ criteria.usbBusno)))) <&&>
  .ok (decide (¬ (0 ≤ criteria.usbDevno ∧ (isI2c dref.ioPath = true ∨ dref.usbDevice ≠ criteria.usbDevno)))) <&&>
  .ok (decide (¬ (0 ≤ criteria.hiddev ∧ (isI2c dref.ioPath = true ∨ (dref.ioPath.busno : Int) ≠ criteria.hiddev)))) <&&>
  testString dref criteria.mfgId (·.mfgId) <&&>
  testString dref criteria.modelName (·.modelName) <&&>
  testString dref criteria.serialAscii (·.serialAscii) <&&>
  match criteria.edidbytes with
  | none => .ok true
  | some edidbytes => testPedid dref fun pedid => decide (pedid.bytes.bytes = edidbytes.bytes)

def ddcFindDisplayRefByCriteria (allDisplays : List DetectedRef) (criteria : DisplayCriteria) :
    Exec (Option DetectedRef) :=
  allDisplays.findM? fun drec => do
    let satisfied ← ddcTestDisplayRefCriteria drec criteria
    .ok (satisfied && decide (drec.dispno ≠ dispnoPhantom))

def getDisplayRefForDisplayIdentifier (allDisplays : List DetectedRef) (did : DisplayIdentifier) :
    Exec (Option DetectedRef) := do
  let result ← ddcFindDisplayRefByCriteria allDisplays did.criteria
  .ok (result.filter fun dref => decide (¬ dref.dispno < 0))

def DisplayIdentifier.Identifies (dref : DetectedRef) : DisplayIdentifier → Prop
  | .busno i2cBusno => isI2c dref.ioPath = true ∧ (dref.ioPath.busno : Int) = i2cBusno
  | .monser mfgId modelName serialAscii =>
    (mfgId ≠ [] → ∃ pedid, dref.pedid = some pedid ∧ pedid.edid.mfgId = mfgId) ∧
      (modelName ≠ [] → ∃ pedid, dref.pedid = some pedid ∧ pedid.edid.modelName = modelName) ∧
      (serialAscii ≠ [] → ∃ pedid, dref.pedid = some pedid ∧ pedid.edid.serialAscii = serialAscii)
  | .edid edidbytes => ∃ pedid, dref.pedid = some pedid ∧ pedid.edid.bytes.bytes = edidbytes.bytes
  | .dispno n => dref.dispno = n
  | .usb usbBus usbDevice => isI2c dref.ioPath = false ∧ dref.usbBus = usbBus ∧ dref.usbDevice = usbDevice
  | .hiddev hiddevDevno => isI2c dref.ioPath = false ∧ (dref.ioPath.busno : Int) = hiddevDevno

/-- The display is what the identifier asks for: it has the properties, a positive number, and was not removed. -/
structure Selectable (did : DisplayIdentifier) (dref : DetectedRef) : Prop where
  identified : did.Identifies dref
  positive : 0 < dref.dispno
  present : dref.flags.removed = false

/-- **What selection promises**: a selectable display, or none where the list has none. -/
def SelectedRight (did : DisplayIdentifier) (drefs : List DetectedRef) : Option DetectedRef → Prop
  | some dref => dref ∈ drefs ∧ Selectable did dref
  | none => ∀ dref ∈ drefs, ¬ Selectable did dref

/-! ## What the test accepts -/

def DisplayIdentifier.NullRead (dref : DetectedRef) : DisplayIdentifier → Prop
  | .monser mfgId modelName serialAscii => dref.pedid = none ∧ (mfgId ≠ [] ∨ modelName ≠ [] ∨ serialAscii ≠ [])
  | .edid _ => dref.pedid = none
  | .hiddev hiddevDevno => 0 ≤ hiddevDevno ∧ isI2c dref.ioPath = false ∧ dref.moninfo = none
  | _ => False

/-- The test accepts the display: a negative number is no criterion, and a USB device has its name as well. -/
def DisplayIdentifier.Accepts (dref : DetectedRef) : DisplayIdentifier → Prop
  | .busno i2cBusno => 0 ≤ i2cBusno → DisplayIdentifier.Identifies dref (.busno i2cBusno)
  | .dispno n => 0 ≤ n → dref.dispno = n
  | .usb usbBus usbDevice => (0 ≤ usbBus → isI2c dref.ioPath = false ∧ dref.usbBus = usbBus) ∧
      (0 ≤ usbDevice → isI2c dref.ioPath = false ∧ dref.usbDevice = usbDevice)
  | .hiddev hiddevDevno => 0 ≤ hiddevDevno → DisplayIdentifier.Identifies dref (.hiddev hiddevDevno) ∧
      ∃ moninfo, dref.moninfo = some moninfo ∧ moninfo.hiddevDeviceName = hiddevName hiddevDevno
  | did => did.Identifies dref

section Conjunction

variable {x y : Exec Bool}

theorem andM_ok_true : ((Except.ok true : Exec Bool) <&&> y) = y := rfl

theorem andM_ok_false : ((Except.ok false : Exec Bool) <&&> y) = .ok false := rfl

theorem andM_error {e : Fault} : ((Except.error e : Exec Bool) <&&> y) = .error e := rfl

theorem andM_eq_ok_true : (x <&&> y) = .ok true ↔ x = .ok true ∧ y = .ok true := by
  cases x with
  | error e => simp [andM_error]
  | ok b => cases b <;> simp [andM_ok_true, andM_ok_false]

theorem andM_stops : (∃ e, (x <&&> y) = .error e) ↔ (∃ e, x = .error e) ∨ x = .ok true ∧ ∃ e, y = .error e := by
  cases x with
  | error e => simp [andM_error]
  | ok b => cases b <;> simp [andM_ok_true, andM_ok_false]

theorem ok_decide_eq_true {p : Prop} [Decidable p] : (Except.ok (decide p) : Exec Bool) = .ok true ↔ p := by simp

theorem ok_not_stops {b : Bool} : ¬ ∃ e, (Except.ok b : Exec Bool) = .error e := by simp

end Conjunction

section Parts

variable {dref : DetectedRef}

theorem testPedid_eq_ok_true {p : ParsedEdid → Bool} :
    testPedid dref p = .ok true ↔ ∃ pedid, dref.pedid = some pedid ∧ p pedid.edid = true := by
  unfold testPedid
  cases dref.pedid <;> simp

theorem testPedid_stops {p : ParsedEdid → Bool} : (∃ e, testPedid dref p = .error e) ↔ dref.pedid = none := by
  unfold testPedid
  cases dref.pedid <;> simp

theorem testString_eq_ok_true {s : List Byte} {field : ParsedEdid → List Byte} :
    testString dref (some s) field = .ok true ↔ (s ≠ [] → ∃ pedid, dref.pedid = some pedid ∧ field pedid.edid = s) := by
  unfold testString
  by_cases hs : s = []
  · simp [hs]
  · simp [hs, testPedid_eq_ok_true]

theorem testString_stops {s : List Byte} {field : ParsedEdid → List Byte} :
    (∃ e, testString dref (some s) field = .error e) ↔ s ≠ [] ∧ dref.pedid = none := by
  unfold testString
  by_cases hs : s = []
  · simp [hs]
  · simp [hs, testPedid_stops]

theorem testHiddevName_eq_ok_true {n : Int} : testHiddevName dref n = .ok true ↔
    isI2c dref.ioPath = false ∧ ∃ moninfo, dref.moninfo = some moninfo ∧ moninfo.hiddevDeviceName = hiddevName n := by
  unfold testHiddevName
  cases isI2c dref.ioPath with
  | true => simp
  | false => cases dref.moninfo <;> simp

theorem testHiddevName_stops {n : Int} :
    (∃ e, testHiddevName dref n = .error e) ↔ isI2c dref.ioPath = false ∧ dref.moninfo = none := by
  unfold testHiddevName
  cases isI2c dref.ioPath with
  | true => simp
  | false => cases dref.moninfo <;> simp

end Parts

theorem test_eq_ok_true (dref : DetectedRef) (did : DisplayIdentifier) :
    ddcTestDisplayRefCriteria dref did.criteria = .ok true ↔ did.Accepts dref := by
  unfold ddcTestDisplayRefCriteria
  simp only [andM_eq_ok_true, ok_decide_eq_true]
  cases did with
  | busno n => simp [DisplayIdentifier.criteria, newDisplayCriteria, DisplayIdentifier.Accepts,
      DisplayIdentifier.Identifies, testString]
  | monser mfgId modelName serialAscii => simp [DisplayIdentifier.criteria, newDisplayCriteria,
      DisplayIdentifier.Accepts, DisplayIdentifier.Identifies, testString_eq_ok_true]
  | edid edidbytes => simp [DisplayIdentifier.criteria, newDisplayCriteria, DisplayIdentifier.Accepts,
      DisplayIdentifier.Identifies, testString, testPedid_eq_ok_true]
  | dispno n =>
    simp [DisplayIdentifier.criteria, newDisplayCriteria, DisplayIdentifier.Accepts, testString,
      eq_comm (a := n)]
  | usb usbBus usbDevice => simp [DisplayIdentifier.criteria, newDisplayCriteria, DisplayIdentifier.Accepts, testString]
  | hiddev n =>
    by_cases hn : 0 ≤ n
    · simp [DisplayIdentifier.criteria, newDisplayCriteria, DisplayIdentifier.Accepts, DisplayIdentifier.Identifies,
        testString, hn, testHiddevName_eq_ok_true]
      exact ⟨fun ⟨⟨hu, hname⟩, hpath⟩ => ⟨hpath, hname⟩, fun ⟨hpath, hname⟩ => ⟨⟨hpath.1, hname⟩, hpath⟩⟩
    · simp [DisplayIdentifier.criteria, newDisplayCriteria, DisplayIdentifier.Accepts, testString, hn]

theorem test_stops (dref : DetectedRef) (did : DisplayIdentifier) :
    (∃ e, ddcTestDisplayRefCriteria dref did.criteria = .error e) ↔ did.NullRead dref := by
  unfold ddcTestDisplayRefCriteria
  simp only [andM_stops, ok_decide_eq_true, ok_not_stops, false_or]
  cases did with
  | busno n => simp [DisplayIdentifier.criteria, newDisplayCriteria, DisplayIdentifier.NullRead, testString]
  | monser mfgId modelName serialAscii =>
    simp only [DisplayIdentifier.criteria, newDisplayCriteria, DisplayIdentifier.NullRead, testString_stops,
      testString_eq_ok_true]
    cases dref.pedid with
    | none => by_cases h1 : mfgId = [] <;> by_cases h2 : modelName = [] <;> simp [h1, h2]
    | some pedid => simp
  | edid edidbytes => simp [DisplayIdentifier.criteria, newDisplayCriteria, DisplayIdentifier.NullRead,
      testString, testPedid_stops]
  | dispno n => simp [DisplayIdentifier.criteria, newDisplayCriteria, DisplayIdentifier.NullRead, testString]
  | usb usbBus usbDevice => simp [DisplayIdentifier.criteria, newDisplayCriteria, DisplayIdentifier.NullRead, testString]
  | hiddev n =>
    by_cases hn : 0 ≤ n
    · simp [DisplayIdentifier.criteria, newDisplayCriteria, DisplayIdentifier.NullRead, testString, hn,
        testHiddevName_stops]
    · simp [DisplayIdentifier.criteria, newDisplayCriteria, DisplayIdentifier.NullRead, testString, hn]

/-! ## Where selection is right -/

def Taken (did : DisplayIdentifier) (dref : DetectedRef) : Prop := did.Accepts dref ∧ dref.dispno ≠ dispnoPhantom

/-- **The first is the right one**: of the displays with no taken one before them none has a NULL pointer that is
followed, and one that is taken is selectable, or has a negative number where no display is selectable.  Where none is
taken, none is selectable. -/
structure FirstIsRight (did : DisplayIdentifier) (drefs : List DetectedRef) : Prop where
  pointers : ∀ l dref r, drefs = l ++ dref :: r → (∀ d ∈ l, ¬ Taken did d) → ¬ did.NullRead dref
  taken : ∀ l dref r, drefs = l ++ dref :: r → (∀ d ∈ l, ¬ Taken did d) → Taken did dref →
    Selectable did dref ∨ dref.dispno < 0 ∧ ∀ d ∈ drefs, ¬ Selectable did d
  noneTaken : (∀ d ∈ drefs, ¬ Taken did d) → ∀ d ∈ drefs, ¬ Selectable did d

def searchTest (did : DisplayIdentifier) (dref : DetectedRef) : Exec Bool := do
  let satisfied ← ddcTestDisplayRefCriteria dref did.criteria
  .ok (satisfied && decide (dref.dispno ≠ dispnoPhantom))

theorem searchTest_eq_ok_true {did : DisplayIdentifier} {dref : DetectedRef} :
    searchTest did dref = .ok true ↔ Taken did dref := by
  rw [searchTest, Taken, bind_eq_ok, ← test_eq_ok_true]
  simp only [Except.ok.injEq, Bool.and_eq_true, decide_eq_true_eq]
  constructor
  · rintro ⟨satisfied, htest, rfl, hne⟩
    exact ⟨htest, hne⟩
  · rintro ⟨htest, hne⟩
    exact ⟨true, htest, rfl, hne⟩

theorem searchTest_stops {did : DisplayIdentifier} {dref : DetectedRef} :
    (∃ e, searchTest did dref = .error e) ↔ did.NullRead dref := by
  rw [← test_stops]
  unfold searchTest
  cases ddcTestDisplayRefCriteria dref did.criteria <;> simp

theorem Selectable.not_negative {did : DisplayIdentifier} {dref : DetectedRef} (h : Selectable did dref) :
    ¬ dref.dispno < 0 := Int.not_lt.2 (Int.le_of_lt h.positive)

/-- **Selection is right exactly where the first is the right one**: for every list of references and every identifier
it ends with a selectable display, or with none where the list has none, if and only if the list is such. -/
theorem getDisplayRefForDisplayIdentifier_right_iff (drefs : List DetectedRef) (did : DisplayIdentifier) :
    (∃ result, getDisplayRefForDisplayIdentifier drefs did = .ok result ∧ SelectedRight did drefs result) ↔
      FirstIsRight did drefs := by
  have hget : ∀ result, getDisplayRefForDisplayIdentifier drefs did = .ok result ↔ ∃ found,
      drefs.findM? (searchTest did) = .ok found ∧ found.filter (fun dref => decide (¬ dref.dispno < 0)) = result := by
    intro result
    rw [getDisplayRefForDisplayIdentifier, bind_eq_ok]
    simp only [Except.ok.injEq]; rfl
  simp only [hget]
  constructor
  · rintro ⟨result, ⟨found, hfind, rfl⟩, hright⟩
    have hreached : ∀ l dref r, drefs = l ++ dref :: r → (∀ d ∈ l, ¬ Taken did d) →
        ¬ did.NullRead dref ∧ (Taken did dref → found = some dref) := by
      rintro l dref r rfl hnone
      obtain ⟨b, hb, hfound⟩ := findM?_reached hfind fun d hd ht => hnone d hd (searchTest_eq_ok_true.1 ht)
      refine ⟨fun hnull => ?_, fun htaken => hfound ?_⟩
      · obtain ⟨e, he⟩ := searchTest_stops.2 hnull
        cases he.symm.trans hb
      · exact Except.ok.inj (hb.symm.trans (searchTest_eq_ok_true.2 htaken))
    refine ⟨fun l dref r hl hnone => (hreached l dref r hl hnone).1, fun l dref r hl hnone htaken => ?_, fun hnone => ?_⟩
    · rw [(hreached l dref r hl hnone).2 htaken] at hright
      by_cases hneg : dref.dispno < 0
      · rw [Option.filter_some_neg (by simpa using hneg)] at hright; exact .inr ⟨hneg, hright⟩
      · rw [Option.filter_some_pos (by simpa using hneg)] at hright; exact .inl hright.2
    · -- nothing is found where none is taken
      rcases findM?_cases (searchTest did) drefs with ⟨l, d, r, rfl, hfalse, e, he⟩ | ⟨l, d, r, hl, -, hd, -⟩ | ⟨-, h⟩
      · have hnull := searchTest_stops.1 ⟨e, he⟩
        exact absurd hnull (hreached l d r rfl fun b hb => hnone b (mem_append_left _ hb)).1
      · have hmem : d ∈ drefs := hl ▸ mem_append_right _ mem_cons_self
        exact absurd (searchTest_eq_ok_true.1 hd) (hnone d hmem)
      · cases hfind.symm.trans h
        exact hright
  · intro hfirst
    have hbefore : ∀ {l : List DetectedRef}, (∀ d ∈ l, searchTest did d = .ok false) → ∀ d ∈ l, ¬ Taken did d := by
      intro l hfalse d hd htaken
      cases (hfalse d hd).symm.trans (searchTest_eq_ok_true.2 htaken)
    rcases findM?_cases (searchTest did) drefs with ⟨l, d, r, hl, hfalse, e, he⟩ | ⟨l, d, r, hl, hfalse, hd, h⟩ |
        ⟨hfalse, h⟩
    · exact absurd (searchTest_stops.1 ⟨e, he⟩) (hfirst.pointers l d r hl (hbefore hfalse))
    · refine ⟨_, ⟨_, h, rfl⟩, ?_⟩
      rcases hfirst.taken l d r hl (hbefore hfalse) (searchTest_eq_ok_true.1 hd) with hsel | ⟨hneg, hnone⟩
      · rw [Option.filter_some_pos (by simpa using hsel.not_negative)]
        exact ⟨hl ▸ mem_append_right _ mem_cons_self, hsel⟩
      · rw [Option.filter_some_neg (by simpa using hneg)]; exact hnone
    · exact ⟨_, ⟨_, h, rfl⟩, hfirst.noneTaken (hbefore hfalse)⟩

def cameBack : List DetectedRef :=
  [{ busDref 5 1 with flags := { (busDref 5 1).flags with removed := true }, businfo := none }, busDref 5 2]

/-- The one that was removed is selected. -/
theorem cameBack_not_right : ¬ ∃ result, getDisplayRefForDisplayIdentifier cameBack (.busno 5) = .ok result ∧
    SelectedRight (.busno 5) cameBack result := by
  rintro ⟨result, hresult, hright⟩
  cases hresult; exact absurd hright.2.present (by decide)

end Ddc
