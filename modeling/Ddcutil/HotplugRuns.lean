import Ddcutil.HotplugSteps
import Ddcutil.Kit.Runs
/-!
# HotplugRuns — display references and events over all histories of plugging

Runs start without displays; a call removes buses that have one and adds buses that have none, each new display
staying connected while it is checked.
-/
namespace Ddc

open Kit List Exec Function

structure HotplugCallArgs where
  removed : BitSet256
  added : BitSet256
  found : HotplugFound
  recheck : Bool

structure HotplugRun where
  world : DisplayWorld
  plugged : Finset Nat

def hotplugStep (skipDdcChecks : Bool) (r : HotplugRun) (c : HotplugCallArgs) : Exec HotplugRun := do
  let (_, s) ← dwHotplugChangeHandler skipDdcChecks c.recheck c.found c.removed c.added r.world
  .ok ⟨s, r.plugged \ flags c.removed ∪ flags c.added⟩

structure NoDisplays (r : HotplugRun) : Prop where
  plugged : r.plugged = ∅
  refs : r.world.allDisplayRefs = []
  events : r.world.events = []
  recs : ∀ a ∈ r.world.allI2cBuses, ∃ b, r.world.buses.cells a = some b ∧ b.hasEdid = false
  distinct : ∀ a ∈ r.world.allI2cBuses, ∀ a' ∈ r.world.allI2cBuses, ∀ b b', r.world.buses.cells a = some b →
    r.world.buses.cells a' = some b' → b.busno = b'.busno → a = a'
  nodup : r.world.allI2cBuses.Nodup

structure HotplugCallable (r : HotplugRun) (c : HotplugCallArgs) : Prop where
  removed : flags c.removed ⊆ r.plugged
  added : Disjoint (flags c.added) r.plugged
  buses : ∀ busno ∈ flags c.removed ∪ flags c.added, busno ≤ 127
  edid : ∀ busno ∈ flags c.added, (c.found.busCheck busno).hasEdid = true
  stays : ∀ busno ∈ flags c.added, StaysConnected (c.found.ddcCheck busno)

/-- Each removed display has a display number, bus 0 keeps its device, and the call is not empty. -/
structure HotplugMeets (r : HotplugRun) (c : HotplugCallArgs) : Prop where
  dispno : ∀ busno ∈ flags c.removed, ∀ dref ∈ r.world.allDisplayRefs, dref.ioPath = .i2c busno →
    dref.flags.removed = false → 0 < dref.dispno
  device : 0 ∈ flags c.removed → c.found.existsAfter 0 = true
  nonempty : flags c.removed ≠ ∅ ∨ flags c.added ≠ ∅

/-- **References and events are right**: each bus with an EDID has one reference that is not removed, which points to the
bus's record; all others of the bus are removed and point nowhere; a bus without EDID has none; the events of each bus
are CONNECTED and DISCONNECTED in turn, naming the same reference. -/
structure DisplaysRight (s : DisplayWorld) : Prop where
  live : ∀ a ∈ s.allI2cBuses, ∀ b, s.buses.cells a = some b → b.hasEdid = true →
    ∃ (ndx : Nat) (dref : DisplayRef), s.allDisplayRefs[ndx]? = some dref ∧ dref.ioPath = .i2c b.busno ∧ dref.flags.removed = false ∧
      dref.detail = some a ∧
      ∀ (i : Nat) (other : DisplayRef), s.allDisplayRefs[i]? = some other → other.ioPath = .i2c b.busno → i ≠ ndx →
        other.flags.removed = true ∧ other.detail = none
  gone : ∀ dref ∈ s.allDisplayRefs, dref.flags.removed = false →
    ∃ a ∈ s.allI2cBuses, ∃ b, s.buses.cells a = some b ∧ b.hasEdid = true ∧ dref.ioPath = .i2c b.busno
  events : ∀ busno, plugState s.events busno ≠ none

/-- **A call is right**: no assertion fails, what it leaves is right, and it says that it emitted an event exactly where
it did. -/
def HotplugCallRight (skipDdcChecks : Bool) (r : HotplugRun) (c : HotplugCallArgs) : Prop :=
  ∃ emitted s, dwHotplugChangeHandler skipDdcChecks c.recheck c.found c.removed c.added r.world = .ok (emitted, s) ∧
    DisplaysRight s ∧ (emitted = true ↔ r.world.events.length < s.events.length)

def HotplugReachable (skipDdcChecks : Bool) : HotplugRun → Prop :=
  Reachable NoDisplays (fun r c => HotplugCallable r c ∧ HotplugMeets r c) (hotplugStep skipDdcChecks)

/-! ## The buses of a call -/

theorem hotplugRemove_all (found : HotplugFound) (l : List Nat) :
    ∀ {s : DisplayWorld} {cur : Nat → Option Nat}, HotplugInv s cur → l.Nodup →
      (∀ busno ∈ l, ∃ ndx, cur busno = some ndx ∧ ∀ dref, s.allDisplayRefs[ndx]? = some dref → 0 < dref.dispno) →
      (0 ∈ l → found.existsAfter 0 = true) →
      ∃ s' cur', l.foldlM (hotplugRemove found) (true, s) = .ok (true, s') ∧ HotplugInv s' cur' ∧
        (∀ busno, cur' busno = if busno ∈ l then none else cur busno) ∧
        s'.events.length = s.events.length + l.length := by
  induction l with
  | nil =>
    intro s cur hinv _ _ _; exact ⟨s, cur, rfl, hinv, fun busno => (if_neg not_mem_nil).symm, rfl⟩
  | cons busno l ih =>
    intro s cur hinv hnodup hlive hdevice
    obtain ⟨hnotin, hnodup⟩ := nodup_cons.1 hnodup
    obtain ⟨ndx, hcur, hdispno⟩ := hlive busno mem_cons_self
    obtain ⟨s1, hs1, hinv1, hevents1, hrefs1⟩ := hotplugRemove_spec hinv found true hcur hdispno
      fun hzero => hzero ▸ hdevice (hzero ▸ mem_cons_self)
    obtain ⟨s2, cur2, hs2, hinv2, hcur2, hevents2⟩ := ih hinv1 hnodup (fun m hm => by
      have hne : m ≠ busno := fun heq => hnotin (heq ▸ hm)
      obtain ⟨i, hi, hidispno⟩ := hlive m (mem_cons_of_mem _ hm)
      have hine : i ≠ ndx := by
        rintro rfl
        obtain ⟨d, -, -, hd, hpath, -⟩ := hinv.live m i hi
        obtain ⟨d', -, -, hd', hpath', -⟩ := hinv.live busno i hcur
        rw [hd] at hd'
        cases hd'
        rw [hpath] at hpath'; exact hne (IoPath.i2c.inj hpath')
      refine ⟨i, (update_of_ne hne ..).trans hi, fun dref hdref => ?_⟩
      rw [hrefs1 i hine] at hdref
      exact hidispno dref hdref) fun hzero => hdevice (mem_cons_of_mem _ hzero)
    refine ⟨s2, cur2, ?_, hinv2, fun m => ?_, ?_⟩
    · rw [foldlM_cons, hs1, ok_bind, hs2]
    · rw [hcur2]
      by_cases hm : m = busno
      · subst hm
        rw [if_neg hnotin, update_self, if_pos mem_cons_self]
      · rw [update_of_ne hm]
        simp only [mem_cons, hm, false_or]
    · rw [hevents2, hevents1, length_append, length_singleton, length_cons]; omega

theorem hotplugAdd_all (skipDdcChecks recheck : Bool) (found : HotplugFound) (l : List Nat) :
    ∀ {s : DisplayWorld} {cur : Nat → Option Nat}, HotplugInv s cur → l.Nodup →
      (∀ busno ∈ l, cur busno = none ∧ busno ≠ 255 ∧ (found.busCheck busno).hasEdid = true ∧
        StaysConnected (found.ddcCheck busno)) →
      ∃ s' cur', l.foldlM (hotplugAdd skipDdcChecks recheck found) (true, s) = .ok (true, s') ∧ HotplugInv s' cur' ∧
        (∀ busno, cur' busno ≠ none ↔ busno ∈ l ∨ cur busno ≠ none) ∧
        s'.events.length = s.events.length + l.length := by
  induction l with
  | nil =>
    intro s cur hinv _ _
    refine ⟨s, cur, rfl, hinv, fun busno => ?_, rfl⟩
    simp
  | cons busno l ih =>
    intro s cur hinv hnodup hnew
    obtain ⟨hnotin, hnodup⟩ := nodup_cons.1 hnodup
    obtain ⟨hcur, hbus, hedid, hstays⟩ := hnew busno mem_cons_self
    obtain ⟨s1, hs1, hinv1, hevents1⟩ := hotplugAdd_spec hinv skipDdcChecks recheck found true hcur hbus hedid hstays
    obtain ⟨s2, cur2, hs2, hinv2, hcur2, hevents2⟩ := ih hinv1 hnodup fun m hm => by
      have hne : m ≠ busno := fun heq => hnotin (heq ▸ hm)
      obtain ⟨hfree, hrest⟩ := hnew m (mem_cons_of_mem _ hm)
      exact ⟨(update_of_ne hne ..).trans hfree, hrest⟩
    refine ⟨s2, cur2, ?_, hinv2, fun m => ?_, ?_⟩
    · rw [foldlM_cons, hs1, ok_bind, hs2]
    · rw [hcur2]
      by_cases hm : m = busno
      · subst hm; simp
      · rw [update_of_ne hm]
        simp only [mem_cons, hm, false_or]
    · rw [hevents2, hevents1, length_append, length_singleton, length_cons]; omega

/-! ## Runs -/

def HotplugRunInv (r : HotplugRun) : Prop :=
  ∃ cur, HotplugInv r.world cur ∧ ∀ busno, busno ∈ r.plugged ↔ cur busno ≠ none

theorem hotplugRunInv_start {r : HotplugRun} (h : NoDisplays r) : HotplugRunInv r := by
  refine ⟨fun _ => none, ⟨fun a ha => ?_, h.distinct, h.nodup, (fun _ _ hcur => nomatch hcur), fun ndx dref hdref => ?_,
    fun busno => ?_⟩, fun busno => ?_⟩
  · obtain ⟨b, hb, hedid⟩ := h.recs a ha
    exact ⟨b, hb, by simp [hedid]⟩
  · rw [h.refs] at hdref; cases hdref
  · rw [h.events]; rfl
  · rw [h.plugged]; simp

theorem HotplugInv.right {s : DisplayWorld} {cur : Nat → Option Nat} (hinv : HotplugInv s cur) : DisplaysRight s := by
  refine ⟨fun a ha b hb hedid => ?_, fun dref hdref hremoved => ?_, fun busno => ?_⟩
  · obtain ⟨b', hb', hiff⟩ := hinv.recs a ha
    rw [hb] at hb'
    cases hb'
    obtain ⟨ndx, hcur⟩ := Option.ne_none_iff_exists'.1 (hiff.1 hedid)
    obtain ⟨dref, a', b', hdref, hpath, hremoved, hdetail, ha', hb', hbus⟩ := hinv.live _ ndx hcur
    cases hinv.distinct a' ha' a ha b' b hb' hb hbus
    refine ⟨ndx, dref, hdref, hpath, hremoved, hdetail, fun i other hother hpath' hi => ?_⟩
    rcases hinv.rest i other hother with ⟨m, hm, hcur'⟩ | hgone
    · rw [hpath'] at hm
      cases hm
      rw [hcur] at hcur'; exact absurd (Option.some.inj hcur').symm hi
    · exact hgone
  · obtain ⟨ndx, hndx⟩ := mem_iff_getElem?.1 hdref
    rcases hinv.rest ndx dref hndx with ⟨m, hm, hcur⟩ | hgone
    · obtain ⟨-, a, b, -, -, -, -, ha, hb, hbus⟩ := hinv.live m ndx hcur
      obtain ⟨b', hb', hiff⟩ := hinv.recs a ha
      rw [hb] at hb'
      cases hb'
      refine ⟨a, ha, b, hb, hiff.2 ?_, hbus.symm ▸ hm⟩
      rw [hbus, hcur]; exact Option.some_ne_none ndx
    · exact absurd (hremoved.symm.trans hgone.1) Bool.false_ne_true
  · rw [hinv.events]; exact Option.some_ne_none _

theorem hotplugHandler_spec (skipDdcChecks : Bool) {r : HotplugRun} {c : HotplugCallArgs} (hinv : HotplugRunInv r)
    (hcall : HotplugCallable r c) (hmeets : HotplugMeets r c) :
    ∃ s, dwHotplugChangeHandler skipDdcChecks c.recheck c.found c.removed c.added r.world = .ok (true, s) ∧
      HotplugRunInv ⟨s, r.plugged \ flags c.removed ∪ flags c.added⟩ ∧ r.world.events.length < s.events.length := by
  obtain ⟨cur, hinv, hplugged⟩ := hinv
  obtain ⟨s1, cur1, hs1, hinv1, hcur1, hevents1⟩ := hotplugRemove_all c.found (bs256Iter c.removed) hinv
    (nodup_bs256Iter c.removed) (fun busno hbusno => by
      rw [mem_bs256Iter] at hbusno
      obtain ⟨ndx, hcur⟩ := Option.ne_none_iff_exists'.1 ((hplugged busno).1 (hcall.removed hbusno))
      refine ⟨ndx, hcur, fun dref hdref => ?_⟩
      obtain ⟨d, -, -, hd, hpath, hremoved, -⟩ := hinv.live busno ndx hcur
      rw [hdref] at hd
      cases hd
      exact hmeets.dispno busno hbusno dref (mem_of_getElem? hdref) hpath hremoved)
    fun hzero => hmeets.device (mem_bs256Iter.1 hzero)
  obtain ⟨s2, cur2, hs2, hinv2, hcur2, hevents2⟩ := hotplugAdd_all skipDdcChecks c.recheck c.found (bs256Iter c.added)
    hinv1 (nodup_bs256Iter c.added) fun busno hbusno => by
      rw [mem_bs256Iter] at hbusno
      have hbound := hcall.buses busno (Finset.mem_union_right _ hbusno)
      have hfree : cur busno = none :=
        not_not.1 (mt (hplugged busno).2 (Finset.disjoint_left.1 hcall.added hbusno))
      refine ⟨?_, by omega, hcall.edid busno hbusno, hcall.stays busno hbusno⟩
      rw [hcur1, hfree, ite_self]
  refine ⟨s2, ?_, ⟨cur2, hinv2, fun busno => ?_⟩, ?_⟩
  · rw [dwHotplugChangeHandler, hs1, ok_bind, hs2]
  · rw [hcur2, hcur1, Finset.mem_union, Finset.mem_sdiff, mem_bs256Iter, or_comm]
    refine or_congr .rfl ?_
    simp only [mem_bs256Iter, hplugged]
    split
    · rename_i hremoved; exact ⟨fun h => absurd hremoved h.2, fun h => absurd rfl h⟩
    · rename_i hremoved; exact and_iff_left hremoved
  · have hlen : ∀ bs : BitSet256, flags bs ≠ ∅ → 0 < (bs256Iter bs).length := by
      intro bs hbs
      obtain ⟨busno, hbusno⟩ := Finset.nonempty_iff_ne_empty.2 hbs
      exact length_pos_of_mem (mem_bs256Iter.2 hbusno)
    rcases hmeets.nonempty with h | h
    · have hpos := hlen _ h
      omega
    · have hpos := hlen _ h
      omega

/-- **After every run** the references and events are right, and so is every next call. -/
theorem displaysRight_of_reachable {skipDdcChecks : Bool} {r : HotplugRun} (h : HotplugReachable skipDdcChecks r) :
    DisplaysRight r.world ∧ ∀ c, HotplugCallable r c → HotplugMeets r c → HotplugCallRight skipDdcChecks r c := by
  have hinv : HotplugRunInv r := by
    refine Reachable.inv ?_ ?_ h
    · exact fun _ hstart => hotplugRunInv_start hstart
    · intro r c hinv hcall
      obtain ⟨s, hs, hinv', -⟩ := hotplugHandler_spec skipDdcChecks hinv hcall.1 hcall.2
      refine ⟨_, ?_, hinv'⟩
      rw [hotplugStep, hs, ok_bind]
  refine ⟨?_, fun c hcall hmeets => ?_⟩
  · obtain ⟨cur, hinv, -⟩ := hinv
    exact hinv.right
  · obtain ⟨s, hs, ⟨cur, hinv', -⟩, hevents⟩ := hotplugHandler_spec skipDdcChecks hinv hcall hmeets
    exact ⟨true, s, hs, hinv'.right, fun _ => hevents, fun _ => rfl⟩

/-! ## A monitor that does not communicate -/

def foundWithStatus (psc : Status) : HotplugFound :=
  ⟨fun _ => true, fun _ => true, fun _ => true, fun _ => ⟨true, none⟩, fun _ => ⟨false, false, none, some psc⟩,
    fun _ => 1, fun _ => Nat.one_pos⟩

def noMonitors : HotplugRun := ⟨⟨noBusInfos, [], [], 0, [], []⟩, ∅⟩

def bus4 : BitSet256 := bs256Insert emptyBitSet256 4

def plugIn (psc : Status) : HotplugCallArgs := ⟨emptyBitSet256, bus4, foundWithStatus psc, true⟩

def plugOut : HotplugCallArgs := ⟨bus4, emptyBitSet256, foundWithStatus 0, true⟩

theorem noMonitors_noDisplays : NoDisplays noMonitors :=
  ⟨rfl, rfl, rfl, fun _ h => absurd h not_mem_nil, fun _ h => absurd h not_mem_nil, nodup_nil⟩

theorem plugIn_callable {psc : Status} (hpsc : psc ≠ ddcrcDisconnected) : HotplugCallable noMonitors (plugIn psc) := by
  have hnone : flags emptyBitSet256 = ∅ := flags_empty
  refine ⟨?_, Finset.disjoint_empty_right _, fun busno hbusno => ?_, fun _ _ => rfl, fun _ _ => ⟨rfl, ?_, ?_⟩⟩
  · change flags emptyBitSet256 ⊆ ∅
    rw [hnone]
  · change busno ∈ flags emptyBitSet256 ∪ flags bus4 at hbusno
    rw [bus4, flags_insert, hnone, Finset.empty_union] at hbusno
    have h4 : busno = 4 := by simpa using hbusno
    omega
  · exact fun heq => nomatch heq
  · exact fun heq => hpsc (Option.some.inj heq)

theorem plugIn_right {psc : Status} (hpsc : psc ≠ ddcrcDisconnected) :
    HotplugCallable noMonitors (plugIn psc) ∧ HotplugMeets noMonitors (plugIn psc) := by
  refine ⟨plugIn_callable hpsc, fun _ _ _ hdref => absurd hdref not_mem_nil, fun _ => rfl, .inr ?_⟩
  change flags bus4 ≠ ∅
  rw [bus4, flags_insert]; exact Finset.insert_ne_empty _ _

theorem displaysRight_noMonitors : DisplaysRight noMonitors.world ∧ HotplugCallRight false noMonitors (plugIn 0) := by
  have hstart : HotplugReachable false noMonitors := .start noMonitors_noDisplays
  have hpsc : (0 : Status) ≠ ddcrcDisconnected := by decide
  have h := displaysRight_of_reachable hstart
  exact ⟨h.1, h.2 _ (plugIn_right hpsc).1 (plugIn_right hpsc).2⟩

/-- The display is plugged in on bus 4, and unplugging it says that an event was emitted where none was. -/
def silentRemoval (r : HotplugRun) : Bool :=
  decide (r.plugged = {4}) &&
    match dwHotplugChangeHandler false plugOut.recheck plugOut.found plugOut.removed plugOut.added r.world with
    | .ok (emitted, s) => emitted && decide (s.events.length = r.world.events.length)
    | .error _ => false

/-- **A monitor that does not communicate goes silently**: no DISCONNECTED event names it, and its reference stays. -/
theorem plugOut_not_right :
    ∃ r, Reachable NoDisplays HotplugCallable (hotplugStep false) r ∧ HotplugCallable r plugOut ∧
      ¬ HotplugCallRight false r plugOut := by
  have hpsc : ddcrcRetries ≠ ddcrcDisconnected := by decide
  have hrun : (match hotplugStep false noMonitors (plugIn ddcrcRetries) with
      | .ok r => silentRemoval r
      | .error _ => false) = true := by decide +kernel
  cases hs : hotplugStep false noMonitors (plugIn ddcrcRetries) with
  | error e =>
    rw [hs] at hrun; cases hrun
  | ok r =>
    rw [hs] at hrun
    unfold silentRemoval at hrun
    rw [Bool.and_eq_true, decide_eq_true_eq] at hrun
    obtain ⟨hplugged, hsilent⟩ := hrun
    have h4 : ∀ busno, busno ∈ flags bus4 → busno = 4 := by
      intro busno hbusno
      rw [bus4, flags_insert, flags_empty] at hbusno
      simpa using hbusno
    refine ⟨r, .step (.start noMonitors_noDisplays) (plugIn_callable hpsc) hs, ⟨?_, ?_, ?_, ?_, ?_⟩, ?_⟩
    · intro busno hbusno
      rw [hplugged, h4 busno hbusno]; exact Finset.mem_singleton_self 4
    · change Disjoint (flags emptyBitSet256) r.plugged
      rw [flags_empty]; exact Finset.disjoint_empty_left _
    · intro busno hbusno
      change busno ∈ flags bus4 ∪ flags emptyBitSet256 at hbusno
      rw [flags_empty, Finset.union_empty] at hbusno
      have hbus := h4 busno hbusno
      omega
    · exact fun _ _ => rfl
    · exact fun _ _ => ⟨rfl, (fun heq => nomatch heq), fun heq => absurd (Option.some.inj heq) (by decide)⟩
    · rintro ⟨emitted, s, hok, -, hemitted⟩
      rw [hok, Bool.and_eq_true, decide_eq_true_eq] at hsilent
      have hlt := hemitted.1 hsilent.1
      omega

end Ddc
