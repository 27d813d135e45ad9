import Ddcutil.DrefLookup
import Ddcutil.Hotplug
/-!
# HotplugSteps — what one bus that goes or comes does to the references

`HotplugInv s cur` says that `cur` gives the reference of each bus that has a display: it is the one reference of the
bus that is not removed, it points to the bus's record, and it is the reference of the last CONNECTED event.
-/
namespace Ddc

open Kit List Exec Function

/-- The reference that is connected, as the events of one bus tell it: no event may come out of turn. -/
def plugStep : Option (Option Nat) → DisplayStatusEvent → Option (Option Nat)
  | some none, ⟨.connected, dref, _⟩ => some (some dref)
  | some (some cur), ⟨.disconnected, dref, _⟩ => if cur = dref then some none else none
  | _, _ => none

def busEvents (events : List DisplayStatusEvent) (busno : Nat) : List DisplayStatusEvent :=
  events.filter fun e => e.ioPath = .i2c busno

def plugState (events : List DisplayStatusEvent) (busno : Nat) : Option (Option Nat) :=
  (busEvents events busno).foldl plugStep (some none)

theorem plugState_append (events : List DisplayStatusEvent) (e : DisplayStatusEvent) (busno : Nat) :
    plugState (events ++ [e]) busno =
      if e.ioPath = .i2c busno then plugStep (plugState events busno) e else plugState events busno := by
  rw [plugState, busEvents, filter_append, foldl_append]
  by_cases h : e.ioPath = .i2c busno
  · rw [filter_cons_of_pos (by simpa using h), if_pos h]; rfl
  · rw [filter_cons_of_neg (by simpa using h), if_neg h]; rfl

/-! ## The invariant -/

structure HotplugInv (s : DisplayWorld) (cur : Nat → Option Nat) : Prop where
  recs : ∀ a ∈ s.allI2cBuses, ∃ b, s.buses.cells a = some b ∧ (b.hasEdid = true ↔ cur b.busno ≠ none)
  distinct : ∀ a ∈ s.allI2cBuses, ∀ a' ∈ s.allI2cBuses, ∀ b b', s.buses.cells a = some b →
    s.buses.cells a' = some b' → b.busno = b'.busno → a = a'
  nodup : s.allI2cBuses.Nodup
  live : ∀ busno ndx, cur busno = some ndx → ∃ dref a b, s.allDisplayRefs[ndx]? = some dref ∧
    dref.ioPath = .i2c busno ∧ dref.flags.removed = false ∧ dref.detail = some a ∧ a ∈ s.allI2cBuses ∧
    s.buses.cells a = some b ∧ b.busno = busno
  rest : ∀ ndx dref, s.allDisplayRefs[ndx]? = some dref →
    (∃ busno, dref.ioPath = .i2c busno ∧ cur busno = some ndx) ∨ dref.flags.removed = true ∧ dref.detail = none
  events : ∀ busno, plugState s.events busno = some (cur busno)

variable {buses : Heap BusInfo} {a : Address} {b : BusInfo} {s : DisplayWorld} {cur : Nat → Option Nat}
variable {busno ndx : Nat} {dref : DisplayRef}

theorem readBusInfo_live (h : buses.cells a = some b) : readBusInfo buses (some a) = .ok b := by
  unfold readBusInfo
  dsimp only
  rw [h]

theorem findBusInfo_spec {l : List Address} (busno : Nat) (hlive : ∀ a ∈ l, ∃ b, buses.cells a = some b) :
    ∃ r, findBusInfo buses l busno = .ok r ∧
      (∀ a, r = some a → a ∈ l ∧ ∃ b, buses.cells a = some b ∧ b.busno = busno) ∧
      (r = none → ∀ a ∈ l, ∀ b, buses.cells a = some b → b.busno ≠ busno) := by
  induction l with
  | nil =>
    refine ⟨none, rfl, fun a h => ?_, fun _ _ h => absurd h not_mem_nil⟩
    cases h
  | cons a l ih =>
    obtain ⟨b, hb⟩ := hlive a mem_cons_self
    obtain ⟨r, hr, hsome, hnone⟩ := ih fun a' ha' => hlive a' (mem_cons_of_mem a ha')
    rw [findBusInfo, readBusInfo_live hb, ok_bind]
    by_cases hbus : b.busno = busno
    · rw [if_pos hbus]
      refine ⟨some a, rfl, fun a' ha' => ?_, fun h => absurd h (Option.some_ne_none a)⟩
      cases ha'; exact ⟨mem_cons_self, b, hb, hbus⟩
    · rw [if_neg hbus]
      refine ⟨r, hr, fun a' ha' => ?_, fun hr' a' ha' b' hb' => ?_⟩
      · obtain ⟨hmem, hrec⟩ := hsome a' ha'
        exact ⟨mem_cons_of_mem a hmem, hrec⟩
      · rcases mem_cons.1 ha' with rfl | ha'
        · rw [hb] at hb'
          cases hb'; exact hbus
        · exact hnone hr' a' ha' b' hb'

theorem HotplugInv.findBusInfo (hinv : HotplugInv s cur) (hcur : cur busno = some ndx) :
    ∃ dref a b, s.allDisplayRefs[ndx]? = some dref ∧ dref.detail = some a ∧ s.buses.cells a = some b ∧
      b.busno = busno ∧ a ∈ s.allI2cBuses ∧ Ddc.findBusInfo s.buses s.allI2cBuses busno = .ok (some a) := by
  obtain ⟨dref, a, b, hdref, -, -, hdetail, ha, hb, hbus⟩ := hinv.live busno ndx hcur
  obtain ⟨r, hr, hsome, hnone⟩ := findBusInfo_spec busno fun a ha => (hinv.recs a ha).imp fun _ h => h.1
  cases r with
  | none => exact absurd hbus (hnone rfl a ha b hb)
  | some a' =>
    obtain ⟨ha', b', hb', hbus'⟩ := hsome a' rfl
    cases hinv.distinct a' ha' a ha b' b hb' hb (hbus'.trans hbus.symm)
    exact ⟨dref, a, b, hdref, hdetail, hb, hbus, ha, hr⟩

theorem HotplugInv.lookup (hinv : HotplugInv s cur) (buses : Heap BusInfo) (hcur : cur busno = some ndx)
    (hdref : s.allDisplayRefs[ndx]? = some dref) (hdispno : 0 < dref.dispno) :
    getDrefByBusnoOrConnector buses s.allDisplayRefs (.byBusno busno) true = .ok (some ndx, s.allDisplayRefs) := by
  obtain ⟨search, hs, hget⟩ := getDref_spec (connectorsAgree_busno buses s.allDisplayRefs busno true)
  have hlive : ∀ i d, s.allDisplayRefs[i]? = some d → Counted (.byBusno busno) true d → i = ndx := by
    intro i d hd hcounted
    rw [counted_ignoring] at hcounted
    have hpath : d.ioPath = .i2c busno := by simpa [DrefKey.matches] using hcounted.1.1.2
    rcases hinv.rest i d hd with ⟨n, hn, hcur'⟩ | ⟨hremoved, -⟩
    · rw [hpath] at hn
      cases hn
      rw [hcur] at hcur'; exact (Option.some.inj hcur').symm
    · exact absurd (hcounted.1.2.symm.trans hremoved) Bool.false_ne_true
  have hone : AtMostOne (Counted (.byBusno busno) true) s.allDisplayRefs := fun i j di dj hi hj hpi hpj =>
    (hlive i di hi hpi).trans (hlive j dj hj hpj).symm
  have hcounted : Counted (.byBusno busno) true dref := by
    obtain ⟨d, -, -, hd, hpath, hremoved, -⟩ := hinv.live busno ndx hcur
    rw [hdref] at hd
    cases hd
    rw [counted_ignoring]
    refine ⟨⟨⟨?_, ?_⟩, hremoved⟩, fun _ => hdispno⟩
    · rw [hpath]; rfl
    · simpa [DrefKey.matches] using hpath
  rw [hget, if_neg (hs.count_le_one.2 hone)]
  cases hresult : search.result with
  | none => exact absurd hcounted (hs.not_counted hresult (mem_of_getElem? hdref))
  | some i =>
    obtain ⟨d, hd, hd', -⟩ := hs.result_newest hresult
    rw [hlive i d hd hd']

/-! ## A display goes -/

theorem i2cResetBusInfo_live (h : buses.cells a = some b) (deviceExists : Bool) :
    ∃ b', i2cResetBusInfo buses a deviceExists = .ok (buses.write a b') ∧ b'.busno = b.busno ∧ b'.hasEdid = false := by
  rw [i2cResetBusInfo, readBusInfo_live h, ok_bind]; exact ⟨_, rfl, rfl, rfl⟩

def DisplayWorld.unplug (s : DisplayWorld) (a : Address) (b : BusInfo) (ndx : Nat) (dref : DisplayRef) (busno : Nat) :
    DisplayWorld :=
  { s with
    buses := s.buses.write a b
    allDisplayRefs := s.allDisplayRefs.set ndx { dref.markRemoved with detail := none }
    events := s.events ++ [⟨.disconnected, ndx, .i2c busno⟩] }

section
variable (hinv : HotplugInv s cur)
include hinv

theorem HotplugInv.unplug (hcur : cur busno = some ndx) (hdref : s.allDisplayRefs[ndx]? = some dref) {b' : BusInfo}
    (ha : a ∈ s.allI2cBuses) (hb : s.buses.cells a = some b) (hbus : b.busno = busno) (hbus' : b'.busno = busno)
    (hedid : b'.hasEdid = false) : HotplugInv (s.unplug a b' ndx dref busno) (update cur busno none) := by
  have hlt : ndx < s.allDisplayRefs.length := (List.getElem?_eq_some_iff.1 hdref).1
  have hother : ∀ a' ∈ s.allI2cBuses, ∀ b'', a' ≠ a → s.buses.cells a' = some b'' → b''.busno ≠ busno := by
    intro a' ha' b'' hne hb'' hsame
    exact hne (hinv.distinct a' ha' a ha b'' b hb'' hb (hsame.trans hbus.symm))
  have hself : (s.buses.write a b').cells a = some b' := Heap.write_self _ hb
  refine ⟨fun a' ha' => ?_, fun a1 ha1 a2 ha2 b1 b2 hb1 hb2 hsame => ?_, hinv.nodup, fun m i hm => ?_,
    fun i d hd => ?_, fun m => ?_⟩
  · by_cases hne : a' = a
    · subst hne
      refine ⟨b', hself, ?_⟩
      rw [hbus', update_self, hedid]; simp
    · obtain ⟨b'', hb'', hiff⟩ := hinv.recs a' ha'
      refine ⟨b'', (Heap.write_other _ _ hne).trans hb'', ?_⟩
      rw [update_of_ne (hother a' ha' b'' hne hb''), hiff]
  · have hold : ∀ a' ∈ s.allI2cBuses, ∀ b'', (s.buses.write a b').cells a' = some b'' →
        ∃ c, s.buses.cells a' = some c ∧ c.busno = b''.busno := by
      intro a' _ b'' hb''
      by_cases hne : a' = a
      · subst hne
        rw [hself] at hb''
        cases hb''; exact ⟨b, hb, hbus.trans hbus'.symm⟩
      · rw [Heap.write_other _ _ hne] at hb''; exact ⟨b'', hb'', rfl⟩
    obtain ⟨c1, hc1, hn1⟩ := hold a1 ha1 b1 hb1
    obtain ⟨c2, hc2, hn2⟩ := hold a2 ha2 b2 hb2
    exact hinv.distinct a1 ha1 a2 ha2 c1 c2 hc1 hc2 (hn1.trans (hsame.trans hn2.symm))
  · by_cases hm' : m = busno
    · rw [hm', update_self] at hm; cases hm
    rw [update_of_ne hm'] at hm
    obtain ⟨d, a', b'', hd, hpath, hremoved, hdetail, ha', hb'', hn⟩ := hinv.live m i hm
    have hne : a' ≠ a := by
      rintro rfl
      rw [hb] at hb''
      cases hb''; exact hm' (hn.symm.trans hbus)
    have hi : ndx ≠ i := by
      rintro rfl
      obtain ⟨d', -, -, hd', hpath', -⟩ := hinv.live busno ndx hcur
      rw [hd] at hd'
      cases hd'
      rw [hpath] at hpath'; exact hm' (IoPath.i2c.inj hpath')
    refine ⟨d, a', b'', ?_, hpath, hremoved, hdetail, ha', (Heap.write_other _ _ hne).trans hb'', hn⟩
    exact (getElem?_set_ne hi).trans hd
  · by_cases hi : ndx = i
    · subst hi
      have hset : (s.allDisplayRefs.set ndx { dref.markRemoved with detail := none })[ndx]? = some d := hd
      rw [getElem?_set_self hlt] at hset
      cases hset; exact .inr ⟨rfl, rfl⟩
    · have hold : s.allDisplayRefs[i]? = some d := (getElem?_set_ne hi).symm.trans hd
      rcases hinv.rest i d hold with ⟨n, hn, hcur'⟩ | hgone
      · left
        refine ⟨n, hn, ?_⟩
        have hne : n ≠ busno := by
          rintro rfl
          rw [hcur] at hcur'; exact hi (Option.some.inj hcur')
        rw [update_of_ne hne, hcur']
      · exact .inr hgone
  · change plugState (s.events ++ [⟨.disconnected, ndx, .i2c busno⟩]) m = _
    rw [plugState_append]
    by_cases hm : m = busno
    · subst hm
      rw [if_pos rfl, hinv.events, hcur, update_self]; exact if_pos rfl
    · rw [if_neg fun heq => hm (IoPath.i2c.inj heq).symm, hinv.events, update_of_ne hm]

theorem HotplugInv.dropRecord (hb : s.buses.cells a = some b) (hcur : cur b.busno = none) :
    HotplugInv { s with buses := s.buses.free a, allI2cBuses := s.allI2cBuses.erase a } cur := by
  have hmem : ∀ a', a' ∈ s.allI2cBuses.erase a ↔ a' ≠ a ∧ a' ∈ s.allI2cBuses := fun a' => hinv.nodup.mem_erase_iff
  have hcells : ∀ a' ≠ a, (s.buses.free a).cells a' = s.buses.cells a' := fun a' hne => Heap.free_other _ hne
  refine ⟨fun a' ha' => ?_, fun a1 ha1 a2 ha2 b1 b2 hb1 hb2 => ?_, hinv.nodup.erase a, fun m i hm => ?_, hinv.rest,
    hinv.events⟩
  · obtain ⟨hne, ha'⟩ := (hmem a').1 ha'
    obtain ⟨b', hb', hiff⟩ := hinv.recs a' ha'
    exact ⟨b', (hcells a' hne).trans hb', hiff⟩
  · obtain ⟨hne1, ha1⟩ := (hmem a1).1 ha1
    obtain ⟨hne2, ha2⟩ := (hmem a2).1 ha2
    exact hinv.distinct a1 ha1 a2 ha2 b1 b2 ((hcells a1 hne1).symm.trans hb1) ((hcells a2 hne2).symm.trans hb2)
  · obtain ⟨d, a', b', hd, hpath, hremoved, hdetail, ha', hb', hn⟩ := hinv.live m i hm
    have hne : a' ≠ a := by
      rintro rfl
      rw [hb] at hb'
      cases hb'
      rw [hn, hm] at hcur; cases hcur
    exact ⟨d, a', b', hd, hpath, hremoved, hdetail, (hmem a').2 ⟨hne, ha'⟩, (hcells a' hne).trans hb', hn⟩

theorem i2cRemoveBusByBusno_spec (hcur : cur busno = none) (hbus : busno ≠ 0) :
    ∃ s', i2cRemoveBusByBusno s busno = .ok s' ∧ HotplugInv s' cur ∧ s'.allDisplayRefs = s.allDisplayRefs ∧
      s'.events = s.events := by
  obtain ⟨r, hr, hsome, -⟩ := findBusInfo_spec busno fun a ha => (hinv.recs a ha).imp fun _ h => h.1
  rw [i2cRemoveBusByBusno, check_pos hbus, ok_bind, hr, ok_bind]
  cases r with
  | none => exact ⟨s, rfl, hinv, rfl, rfl⟩
  | some a =>
    obtain ⟨-, b, hb, hn⟩ := hsome a rfl
    exact ⟨_, rfl, hinv.dropRecord hb (hn.symm ▸ hcur), rfl, rfl⟩

/-- **A bus that lost its display**: the bus's reference is marked removed, and the DISCONNECTED event names it. -/
theorem hotplugRemove_spec (found : HotplugFound) (emitted : Bool) (hcur : cur busno = some ndx)
    (hdispno : ∀ dref, s.allDisplayRefs[ndx]? = some dref → 0 < dref.dispno)
    (hdevice : busno = 0 → found.existsAfter busno = true) :
    ∃ s', hotplugRemove found (emitted, s) busno = .ok (true, s') ∧ HotplugInv s' (update cur busno none) ∧
      s'.events = s.events ++ [⟨.disconnected, ndx, .i2c busno⟩] ∧ ∀ i, i ≠ ndx →
      s'.allDisplayRefs[i]? = s.allDisplayRefs[i]? := by
  obtain ⟨dref, a, b, hdref, -, hb, hbus, ha, hfind⟩ := hinv.findBusInfo hcur
  obtain ⟨b', hreset, hbus', hedid⟩ := i2cResetBusInfo_live hb (found.existsAtReset busno)
  have hb' : (s.buses.write a b').cells a = some b' := Heap.write_self _ hb
  have hlookup := hinv.lookup (s.buses.write a b') hcur hdref (hdispno dref hdref)
  obtain ⟨d, -, -, hd, -, hremoved, -⟩ := hinv.live busno ndx hcur
  rw [hdref] at hd
  cases hd
  have hremove : dwRemoveDisplayByBusinfo s (some a) (found.existsAtReset busno) = .ok (some ndx, { s with
      buses := s.buses.write a b'
      allDisplayRefs := s.allDisplayRefs.set ndx { dref.markRemoved with detail := none } }) := by
    unfold dwRemoveDisplayByBusinfo
    dsimp only
    rw [hreset, ok_bind, readBusInfo_live hb', ok_bind, hbus'.trans hbus, hlookup, ok_bind]
    dsimp only
    rw [hdref]
    dsimp only
    rw [check_pos hremoved, ok_bind]
  have hunplug := hinv.unplug hcur hdref ha hb hbus (hbus'.trans hbus) hedid
  have hset : ∀ i, i ≠ ndx → (s.unplug a b' ndx dref busno).allDisplayRefs[i]? = s.allDisplayRefs[i]? := fun i hi =>
    getElem?_set_ne (Ne.symm hi)
  unfold hotplugRemove
  dsimp only
  rw [hfind, ok_bind, hremove, ok_bind]
  by_cases hexists : found.existsAfter busno = true
  · rw [if_pos hexists]; exact ⟨_, rfl, hunplug, rfl, hset⟩
  · rw [if_neg hexists]
    obtain ⟨s', hs', hinv', hrefs, hevents⟩ := i2cRemoveBusByBusno_spec hunplug
      (update_self busno none cur) fun hzero => hexists (hdevice hzero)
    refine ⟨s', ?_, hinv', hevents, fun i hi => ?_⟩
    · change (i2cRemoveBusByBusno (s.unplug a b' ndx dref busno) busno >>= _) = _
      rw [hs', ok_bind]
    · rw [hrefs]; exact hset i hi

end

/-! ## A display comes -/

/-- The world while a new display's bus is looked at: its record is `a`, the bus has no reference yet. -/
structure Joining (s : DisplayWorld) (cur : Nat → Option Nat) (busno : Nat) (a : Address) (b : BusInfo) : Prop where
  mem : a ∈ s.allI2cBuses
  cell : s.buses.cells a = some b
  bus : b.busno = busno
  others : ∀ a' ∈ s.allI2cBuses, a' ≠ a → ∃ b', s.buses.cells a' = some b' ∧ b'.busno ≠ busno ∧
    (b'.hasEdid = true ↔ cur b'.busno ≠ none)
  distinct : ∀ a' ∈ s.allI2cBuses, ∀ a'' ∈ s.allI2cBuses, ∀ b' b'', s.buses.cells a' = some b' →
    s.buses.cells a'' = some b'' → b'.busno = b''.busno → a' = a''
  nodup : s.allI2cBuses.Nodup
  free : cur busno = none
  live : ∀ m ndx, cur m = some ndx → ∃ dref a' b', s.allDisplayRefs[ndx]? = some dref ∧ dref.ioPath = .i2c m ∧
    dref.flags.removed = false ∧ dref.detail = some a' ∧ a' ∈ s.allI2cBuses ∧ s.buses.cells a' = some b' ∧ b'.busno = m
  rest : ∀ ndx dref, s.allDisplayRefs[ndx]? = some dref →
    (∃ m, dref.ioPath = .i2c m ∧ cur m = some ndx) ∨ dref.flags.removed = true ∧ dref.detail = none
  events : ∀ m, plugState s.events m = some (cur m)

theorem Joining.write {s' : DisplayWorld} (h : Joining s cur busno a b) (b' : BusInfo) (hbus : b'.busno = busno)
    (hself : s'.buses.cells a = some b') (hother : ∀ a' ≠ a, s'.buses.cells a' = s.buses.cells a')
    (hall : s'.allI2cBuses = s.allI2cBuses) (hrefs : s'.allDisplayRefs = s.allDisplayRefs)
    (hevents : s'.events = s.events) : Joining s' cur busno a b' := by
  have hold : ∀ {a' : Address} {c : BusInfo}, s'.buses.cells a' = some c →
      ∃ c', s.buses.cells a' = some c' ∧ c'.busno = c.busno := by
    intro a' c hc
    by_cases hne : a' = a
    · subst hne
      rw [hself] at hc
      cases hc; exact ⟨b, h.cell, h.bus.trans hbus.symm⟩
    · rw [hother a' hne] at hc; exact ⟨c, hc, rfl⟩
  refine ⟨hall ▸ h.mem, hself, hbus, fun a' ha' hne => ?_, fun a1 ha1 a2 ha2 b1 b2 hb1 hb2 hsame => ?_, hall ▸ h.nodup,
    h.free, fun m ndx hm => ?_, hrefs ▸ h.rest, hevents ▸ h.events⟩
  · obtain ⟨c, hc, hrest⟩ := h.others a' (hall ▸ ha') hne
    exact ⟨c, (hother a' hne).trans hc, hrest⟩
  · obtain ⟨c1, hc1, hn1⟩ := hold hb1
    obtain ⟨c2, hc2, hn2⟩ := hold hb2
    exact h.distinct a1 (hall ▸ ha1) a2 (hall ▸ ha2) c1 c2 hc1 hc2 (hn1.trans (hsame.trans hn2.symm))
  · obtain ⟨dref, a', c, hdref, hpath, hremoved, hdetail, ha', hc, hn⟩ := h.live m ndx hm
    by_cases hne : a' = a
    · subst hne
      rw [h.cell] at hc
      cases hc
      exact ⟨dref, a', b', hrefs ▸ hdref, hpath, hremoved, hdetail, hall ▸ ha', hself,
        hbus.trans (h.bus.symm.trans hn)⟩
    · exact ⟨dref, a', c, hrefs ▸ hdref, hpath, hremoved, hdetail, hall ▸ ha', (hother a' hne).trans hc, hn⟩

theorem i2cGetAndCheckBusInfo_spec (hinv : HotplugInv s cur) (hcur : cur busno = none) (hbus : busno ≠ 255)
    (deviceExists : Bool) (found : BusCheck) :
    ∃ a s' b, i2cGetAndCheckBusInfo s busno deviceExists found = .ok (a, s') ∧ Joining s' cur busno a b ∧
      b.hasEdid = found.hasEdid ∧ b.probed = true ∧ s'.allDisplayRefs = s.allDisplayRefs ∧ s'.events = s.events := by
  have hlive : ∀ a ∈ s.allI2cBuses, ∃ b, s.buses.cells a = some b := fun a ha => (hinv.recs a ha).imp fun _ h => h.1
  obtain ⟨r, hr, hsome, hnone⟩ := findBusInfo_spec busno hlive
  rw [i2cGetAndCheckBusInfo, hr, ok_bind]
  cases r with
  | none =>
    have hfresh : ∀ a ∈ s.allI2cBuses, a ≠ s.buses.next := by
      rintro a ha rfl
      obtain ⟨b, hb⟩ := hlive _ ha
      rw [s.buses.fresh _ (Nat.le_refl _)] at hb; cases hb
    have hcells : ∀ a ∈ s.allI2cBuses, ∀ x, (s.buses.alloc x).cells a = s.buses.cells a := fun a ha x =>
      Heap.alloc_other _ _ (hfresh a ha)
    have hnew := Heap.alloc_self s.buses ⟨busno, false, false, false, none⟩
    have hjoin : Joining { s with
        buses := s.buses.alloc ⟨busno, false, false, false, none⟩
        allI2cBuses := s.allI2cBuses ++ [s.buses.next] } cur busno s.buses.next ⟨busno, false, false, false, none⟩ := by
      refine ⟨mem_append_right _ mem_cons_self, hnew, rfl, fun a' ha' hne => ?_,
        fun a1 ha1 a2 ha2 b1 b2 hb1 hb2 hsame => ?_, ?_, hcur, fun m ndx hm => ?_, hinv.rest, hinv.events⟩
      · rw [mem_append, mem_singleton] at ha'
        have hold := ha'.resolve_right hne
        obtain ⟨b', hb', hiff⟩ := hinv.recs a' hold
        exact ⟨b', (hcells a' hold _).trans hb', hnone rfl a' hold b' hb', hiff⟩
      · rw [mem_append, mem_singleton] at ha1 ha2
        rcases ha1 with ha1 | rfl <;> rcases ha2 with ha2 | rfl
        · rw [hcells a1 ha1] at hb1
          rw [hcells a2 ha2] at hb2; exact hinv.distinct a1 ha1 a2 ha2 b1 b2 hb1 hb2 hsame
        · rw [hcells a1 ha1] at hb1
          rw [hnew] at hb2
          cases hb2; exact absurd hsame (hnone rfl a1 ha1 b1 hb1)
        · rw [hnew] at hb1
          rw [hcells a2 ha2] at hb2
          cases hb1; exact absurd hsame.symm (hnone rfl a2 ha2 b2 hb2)
        · rfl
      · rw [nodup_append]
        refine ⟨hinv.nodup, nodup_singleton _, fun x hx y hy => ?_⟩
        rw [mem_singleton.1 hy]; exact hfresh x hx
      · obtain ⟨dref, a', b', hdref, hpath, hremoved, hdetail, ha', hb', hn⟩ := hinv.live m ndx hm
        exact ⟨dref, a', b', hdref, hpath, hremoved, hdetail, mem_append_left _ ha', (hcells a' ha' _).trans hb', hn⟩
    rw [i2cCheckBus, readBusInfo_live hnew, ok_bind, check_pos hbus, ok_bind, ok_bind]
    refine ⟨_, _, _, rfl, hjoin.write ⟨busno, found.hasEdid, true, false, found.drmConnectorName⟩ rfl ?_ ?_ rfl rfl rfl, rfl, rfl, rfl, rfl⟩
    · exact Heap.write_self _ hnew
    · exact fun a' hne => Heap.write_other _ _ hne
  | some a =>
    dsimp only
    obtain ⟨ha, b, hb, hn⟩ := hsome a rfl
    have hjoin : Joining s cur busno a b := by
      refine ⟨ha, hb, hn, fun a' ha' hne => ?_, hinv.distinct, hinv.nodup, hcur, hinv.live, hinv.rest, hinv.events⟩
      obtain ⟨b', hb', hiff⟩ := hinv.recs a' ha'
      exact ⟨b', hb', fun hsame => hne (hinv.distinct a' ha' a ha b' b hb' hb (hsame.trans hn.symm)), hiff⟩
    obtain ⟨b', hreset, hbus', -⟩ := i2cResetBusInfo_live hb deviceExists
    have hb' : (s.buses.write a b').cells a = some b' := Heap.write_self _ hb
    rw [hreset, ok_bind]
    rw [i2cCheckBus, readBusInfo_live hb', ok_bind, check_pos (hbus'.trans hn ▸ hbus), ok_bind, ok_bind]
    refine ⟨_, _, _, rfl, hjoin.write { b' with
      probed := true
      hasEdid := found.hasEdid
      drmConnectorName := b'.drmConnectorName.or found.drmConnectorName } (hbus'.trans hn) ?_ ?_ rfl rfl rfl, rfl, rfl,
      rfl, rfl⟩
    · exact Heap.write_self _ hb'
    · exact fun a' hne => (Heap.write_other _ _ hne).trans (Heap.write_other _ _ hne)

structure StaysConnected (found : DdcCheck) : Prop where
  drm : found.drmDisconnected = false
  opening : found.openError ≠ some ddcrcDisconnected
  reading : found.readStatus ≠ some ddcrcDisconnected

theorem ddcInitialChecksByDh_removed {flags : DrefFlags} {readStatus : Option Status} (hflags : flags.removed = false)
    (h : readStatus ≠ some ddcrcDisconnected) :
    (ddcInitialChecksByDh flags readStatus).1 ≠ some ddcrcDisconnected ∧
      (ddcInitialChecksByDh flags readStatus).2.removed = false := by
  unfold ddcInitialChecksByDh
  split
  · exact ⟨(fun hnone => nomatch hnone), hflags⟩
  · cases readStatus with
    | none => exact ⟨(fun hnone => nomatch hnone), hflags⟩
    | some psc =>
      have hpsc : psc ≠ ddcrcDisconnected := fun heq => h (heq ▸ rfl)
      have hread : (flagsOfRead flags psc).removed = false := by
        unfold flagsOfRead
        split
        · exact hflags
        · split
          · exact hflags
          · exact hflags
      dsimp only
      constructor
      · split
        · exact fun hnone => nomatch hnone
        · exact fun heq => hpsc (Option.some.inj heq)
      · split
        · exact hread
        · exact hread

/-- **The initial checks of a display that stays connected**: it is not marked removed, and its bus record keeps what it
says of the bus. -/
theorem ddcInitialChecksByDref_spec (skipDdcChecks : Bool) (dref : DisplayRef) {found : DdcCheck}
    (hdetail : dref.detail = some a) (hb : buses.cells a = some b) (hedid : b.hasEdid = true)
    (hremoved : dref.flags.removed = false) (hstays : StaysConnected found) :
    ∃ err flags buses' b', ddcInitialChecksByDref skipDdcChecks buses dref found =
        .ok (err, { dref with flags := flags }, buses') ∧
      err ≠ some ddcrcDisconnected ∧ flags.removed = false ∧ buses'.cells a = some b' ∧ b'.busno = b.busno ∧
      b'.hasEdid = b.hasEdid ∧ ∀ a' ≠ a, buses'.cells a' = buses.cells a' := by
  unfold ddcInitialChecksByDref
  by_cases hmmk : found.ignoredMmk = true
  · rw [if_pos hmmk]
    exact ⟨_, _, _, b, rfl, (fun hnone => nomatch hnone), hremoved, hb, rfl, rfl, fun _ _ => rfl⟩
  rw [if_neg hmmk, hdetail, readBusInfo_live hb, ok_bind]
  split
  · exact ⟨_, _, _, _, rfl, (fun hnone => nomatch hnone), hremoved, Heap.write_self _ hb, rfl, rfl,
      fun a' hne => Heap.write_other _ _ hne⟩
  · have hopen : openForChecks buses dref found = .ok (found.openError, dref) := by
      rw [openForChecks, if_neg (Bool.eq_false_iff.1 hremoved), hdetail]
      dsimp only
      rw [readBusInfo_live hb, ok_bind, if_neg (Bool.eq_false_iff.1 hstays.drm), if_neg (by rw [hedid]; simp)]
    rw [hopen, ok_bind]
    dsimp only
    rw [hdetail]
    have hchecks := ddcInitialChecksByDh_removed hremoved hstays.reading
    cases herr : found.openError with
    | none =>
      dsimp only
      refine ⟨_, _, _, _, rfl, hchecks.1, ?_, Heap.write_self _ hb, rfl, rfl, fun a' hne => Heap.write_other _ _ hne⟩
      rw [if_neg (Bool.eq_false_iff.1 hchecks.2)]
      split
      · exact hchecks.2
      · exact hchecks.2
    | some status =>
      dsimp only
      refine ⟨_, _, _, _, rfl, herr ▸ hstays.opening, ?_, Heap.write_self _ hb, rfl, rfl,
        fun a' hne => Heap.write_other _ _ hne⟩
      rw [if_neg (Bool.eq_false_iff.1 hremoved)]
      split
      · exact hremoved
      · exact hremoved

theorem Joining.plug {s' : DisplayWorld} (h : Joining s cur busno a b) (hedid : b.hasEdid = true)
    (hbuses : s'.buses = s.buses) (hall : s'.allI2cBuses = s.allI2cBuses)
    (hrefs : s'.allDisplayRefs = s.allDisplayRefs ++ [dref])
    (hevents : s'.events = s.events ++ [⟨.connected, s.allDisplayRefs.length, .i2c busno⟩])
    (hpath : dref.ioPath = .i2c busno) (hremoved : dref.flags.removed = false) (hdetail : dref.detail = some a) :
    HotplugInv s' (update cur busno (some s.allDisplayRefs.length)) := by
  have hold : ∀ {ndx : Nat} {d : DisplayRef}, s.allDisplayRefs[ndx]? = some d → s'.allDisplayRefs[ndx]? = some d := by
    intro ndx d hd
    rw [hrefs, getElem?_append_left (List.getElem?_eq_some_iff.1 hd).1, hd]
  refine ⟨fun a' ha' => ?_, fun a1 ha1 a2 ha2 b1 b2 hb1 hb2 => ?_, hall ▸ h.nodup, fun m ndx hm => ?_,
    fun ndx d hd => ?_, fun m => ?_⟩
  · rw [hbuses]
    by_cases hne : a' = a
    · subst hne
      refine ⟨b, h.cell, ?_⟩
      rw [h.bus, update_self, hedid]; simp
    · obtain ⟨b', hb', hbus, hiff⟩ := h.others a' (hall ▸ ha') hne
      refine ⟨b', hb', ?_⟩
      rw [update_of_ne hbus, hiff]
  · rw [hbuses] at hb1 hb2; exact h.distinct a1 (hall ▸ ha1) a2 (hall ▸ ha2) b1 b2 hb1 hb2
  · rw [hbuses, hall]
    by_cases hm' : m = busno
    · subst hm'
      rw [update_self] at hm
      cases hm
      refine ⟨dref, a, b, ?_, hpath, hremoved, hdetail, h.mem, h.cell, h.bus⟩
      rw [hrefs]; exact getElem?_concat_length
    · rw [update_of_ne hm'] at hm
      obtain ⟨d, a', b', hd, hrest⟩ := h.live m ndx hm
      exact ⟨d, a', b', hold hd, hrest⟩
  · rw [hrefs] at hd
    by_cases hlt : ndx < s.allDisplayRefs.length
    · rw [getElem?_append_left hlt] at hd
      rcases h.rest ndx d hd with ⟨m, hm, hcur⟩ | hgone
      · refine .inl ⟨m, hm, ?_⟩
        have hne : m ≠ busno := by
          rintro rfl
          rw [h.free] at hcur; cases hcur
        rw [update_of_ne hne, hcur]
      · exact .inr hgone
    · have hlast : ndx = s.allDisplayRefs.length := by
        have hbound := (List.getElem?_eq_some_iff.1 hd).1
        rw [length_append, length_singleton] at hbound; omega
      subst hlast
      rw [getElem?_concat_length] at hd
      cases hd; exact .inl ⟨busno, hpath, update_self ..⟩
  · rw [hevents, plugState_append]
    by_cases hm : m = busno
    · subst hm
      rw [if_pos rfl, h.events, h.free, update_self]; rfl
    · rw [if_neg fun heq => hm (IoPath.i2c.inj heq).symm, h.events, update_of_ne hm]

/-- **A bus that has a display now**: a new reference of the bus is made, and the CONNECTED event names it. -/
theorem hotplugAdd_spec (hinv : HotplugInv s cur) (skipDdcChecks recheck : Bool) (found : HotplugFound)
    (emitted : Bool) (hcur : cur busno = none) (hbus : busno ≠ 255) (hedid : (found.busCheck busno).hasEdid = true)
    (hstays : StaysConnected (found.ddcCheck busno)) :
    ∃ s', hotplugAdd skipDdcChecks recheck found (emitted, s) busno = .ok (true, s') ∧
      HotplugInv s' (update cur busno (some s.allDisplayRefs.length)) ∧
      s'.events = s.events ++ [⟨.connected, s.allDisplayRefs.length, .i2c busno⟩] := by
  obtain ⟨a, s1, b, hget, hjoin, hb, hprobed, hrefs1, hevents1⟩ :=
    i2cGetAndCheckBusInfo_spec hinv hcur hbus (found.existsAtAdd busno) (found.busCheck busno)
  have hedid' : b.hasEdid = true := hb.trans hedid
  obtain ⟨err, flags, buses', b', hchecks, herr, hremoved, hself, hbus', hedid'', hother⟩ :=
    ddcInitialChecksByDref_spec skipDdcChecks ⟨.i2c b.busno, noDrefFlags, 0, some a, b.drmConnectorName,
      found.creationTimestamp busno, found.created busno⟩ rfl hjoin.cell hedid' rfl hstays
  have hjoin' : Joining { s1 with buses := buses' } cur busno a b' :=
    hjoin.write b' (hbus'.trans hjoin.bus) hself hother rfl rfl rfl
  have hpath : IoPath.i2c b.busno = .i2c busno := congrArg IoPath.i2c hjoin.bus
  rw [hotplugAdd, hget, ok_bind]
  dsimp only
  unfold dwAddDisplayByBusinfo
  rw [readBusInfo_live hjoin.cell, ok_bind, check_pos hprobed, ok_bind, if_neg (by rw [hedid']; simp), hchecks,
    ok_bind]
  dsimp only
  rw [if_neg herr, ← hrefs1, ← hevents1]
  split
  · refine ⟨_, rfl, ?_, rfl⟩
    exact hjoin'.plug (hedid''.trans hedid') rfl rfl rfl rfl hpath hremoved rfl
  · refine ⟨_, rfl, ?_, rfl⟩
    exact hjoin'.plug (hedid''.trans hedid') rfl rfl rfl rfl hpath hremoved rfl

end Ddc
