import Ddcutil.BitSet256
import Ddcutil.Kit.Changes
/-!
# ScreenChange — the passes that look for displays that came or went

A pass compares the buses that have an EDID with those stored, waits until two scans in a row agree where a display
seems to have gone, and calls the hotplug handler with what was removed and what was added.
-/
namespace Ddc

open Kit

structure BusScan where
  attached : List UInt8
  edidExists : Nat → Bool

def i2cDetectAttachedBusesAsBitset (scan : BusScan) : BitSet256 := bs256FromBva scan.attached

def i2cFilterBusesWEdidAsBitset (scan : BusScan) (bsAllBuses : BitSet256) : BitSet256 :=
  (bs256Iter bsAllBuses).foldl (fun bsBusesWEdid bitno =>
    if scan.edidExists bitno = true then bs256Insert bsBusesWEdid (UInt8.ofNat bitno) else bsBusesWEdid) emptyBitSet256

def i2cBusesWEdidAsBitset (scan : BusScan) : BitSet256 :=
  i2cFilterBusesWEdidAsBitset scan (i2cDetectAttachedBusesAsBitset scan)

/-- **The scans of one pass**, from its first one on: two in a row agree by `last`. -/
structure Scans where
  scan : Nat → BusScan
  last : Nat
  settles : i2cBusesWEdidAsBitset (scan (last + 1)) = i2cBusesWEdidAsBitset (scan last)

def stabilizeFrom (scan : Nat → BusScan) : Nat → Nat → BitSet256 → Exec BitSet256
  | 0, _, _ => .error .outOfFuel
  | fuel + 1, k, bsPrior =>
    if bs256Eq (i2cBusesWEdidAsBitset (scan k)) bsPrior = true then .ok (i2cBusesWEdidAsBitset (scan k))
    else stabilizeFrom scan fuel (k + 1) (i2cBusesWEdidAsBitset (scan k))

def dwStabilizedBusesBs (scans : Scans) (bsPrior : BitSet256) : Exec BitSet256 :=
  stabilizeFrom scans.scan (scans.last + 1) 1 bsPrior

structure HotplugCall where
  removed : BitSet256
  added : BitSet256
  deriving DecidableEq

structure WatchState where
  attachedBuses : BitSet256
  busesWEdid : BitSet256
  deriving DecidableEq

def processScreenChangeEvent (stabilizeAddedBusesWEdid : Bool) (scans : Scans) (old : WatchState) :
    Exec (WatchState × Option HotplugCall) := do
  let bsNewAttachedBuses := i2cDetectAttachedBusesAsBitset (scans.scan 0)
  let bsNewBusesWEdid := i2cFilterBusesWEdidAsBitset (scans.scan 0) bsNewAttachedBuses
  let bsAddedBusesWEdid := bs256AndNot bsNewBusesWEdid old.busesWEdid
  let bsRemovedBusesWEdid := bs256AndNot old.busesWEdid bsNewBusesWEdid
  let (bsNewBusesWEdid, bsRemovedBusesWEdid) ←
    if 0 < bs256Count bsRemovedBusesWEdid ∨ stabilizeAddedBusesWEdid = true ∧ 0 < bs256Count bsAddedBusesWEdid then do
      let bsNewBusesWEdid ← dwStabilizedBusesBs scans bsNewBusesWEdid
      -- the added set computed here is a variable of this block, which ends with it
      .ok (bsNewBusesWEdid, bs256AndNot old.busesWEdid bsNewBusesWEdid)
    else .ok (bsNewBusesWEdid, bsRemovedBusesWEdid)
  .ok (⟨bsNewAttachedBuses, bsNewBusesWEdid⟩,
    if 0 < bs256Count bsRemovedBusesWEdid ∨ 0 < bs256Count bsAddedBusesWEdid then
      some ⟨bsRemovedBusesWEdid, bsAddedBusesWEdid⟩
    else none)

def dwI2cCheckBusChanges (scans : Scans) (bsPrevBusesWEdid : BitSet256) : Exec (BitSet256 × Option HotplugCall) := do
  let bsNewBusesWEdid := i2cBusesWEdidAsBitset (scans.scan 0)
  let bsNewBusesWEdid ←
    if bs256Eq bsPrevBusesWEdid bsNewBusesWEdid = false ∧
        0 < bs256Count (bs256AndNot bsPrevBusesWEdid bsNewBusesWEdid) then
      dwStabilizedBusesBs scans bsNewBusesWEdid
    else .ok bsNewBusesWEdid
  .ok (bsNewBusesWEdid,
    if bs256Eq bsPrevBusesWEdid bsNewBusesWEdid = false then
      some ⟨bs256AndNot bsPrevBusesWEdid bsNewBusesWEdid, bs256AndNot bsNewBusesWEdid bsPrevBusesWEdid⟩
    else none)

def Scans.seen (scans : Scans) (k : Nat) : Finset Nat := flags (i2cBusesWEdidAsBitset (scans.scan k))

variable (scans : Scans)

theorem Scans.settles_seen : ∃ k, scans.seen (k + 1) = scans.seen k :=
  ⟨scans.last, congrArg flags scans.settles⟩

def Scans.settled (scans : Scans) : Finset Nat := scans.seen (Nat.find scans.settles_seen)

def Waits (stabilizeAdded : Bool) (stored : Finset Nat) (scans : Scans) : Prop :=
  stored \ scans.seen 0 ≠ ∅ ∨ stabilizeAdded = true ∧ scans.seen 0 \ stored ≠ ∅

instance (stabilizeAdded : Bool) (stored : Finset Nat) (scans : Scans) : Decidable (Waits stabilizeAdded stored scans) :=
  inferInstanceAs (Decidable (_ ∨ _))

/-- **The set a pass is about**: the stabilized one where it waits, otherwise the one of its first scan. -/
def observed (stabilizeAdded : Bool) (stored : Finset Nat) (scans : Scans) : Finset Nat :=
  if Waits stabilizeAdded stored scans then scans.settled else scans.seen 0

def HotplugCall.change (c : HotplugCall) : Change Nat := ⟨flags c.removed, flags c.added⟩

/-! ## One pass -/

theorem stabilizeFrom_spec (fuel : Nat) :
    ∀ {k : Nat}, k ≤ Nat.find scans.settles_seen → Nat.find scans.settles_seen - k < fuel →
      ∃ bs, stabilizeFrom scans.scan fuel (k + 1) (i2cBusesWEdidAsBitset (scans.scan k)) = .ok bs ∧
      flags bs = scans.settled := by
  induction fuel with
  | zero => exact fun _ h => absurd h (Nat.not_lt_zero _)
  | succ fuel ih =>
    intro k hk hfuel
    rw [stabilizeFrom]
    by_cases heq : bs256Eq (i2cBusesWEdidAsBitset (scans.scan (k + 1))) (i2cBusesWEdidAsBitset (scans.scan k)) = true
    · rw [if_pos heq]
      refine ⟨_, rfl, ?_⟩
      have hseen : scans.seen (k + 1) = scans.seen k := (bs256Eq_iff _ _).1 heq
      have hfind : Nat.find scans.settles_seen = k := Nat.le_antisymm (Nat.find_min' _ hseen) hk
      rw [Scans.settled, hfind]; exact hseen
    · rw [if_neg heq]
      have hne : k ≠ Nat.find scans.settles_seen := by
        intro hfind
        apply heq
        rw [bs256Eq_iff, hfind]; exact Nat.find_spec scans.settles_seen
      exact ih (Nat.lt_of_le_of_ne hk hne) (by omega)

theorem dwStabilizedBusesBs_spec :
    ∃ bs, dwStabilizedBusesBs scans (i2cBusesWEdidAsBitset (scans.scan 0)) = .ok bs ∧ flags bs = scans.settled := by
  have hfind : Nat.find scans.settles_seen ≤ scans.last := Nat.find_min' _ (congrArg flags scans.settles)
  exact stabilizeFrom_spec scans _ (Nat.zero_le _) (by omega)

theorem count_or_count (set1 set2 : BitSet256) :
    (0 < bs256Count set1 ∨ 0 < bs256Count set2) ↔ ¬ (flags set1 = ∅ ∧ flags set2 = ∅) := by
  rw [bs256Count_pos, bs256Count_pos, ← not_and_or]

/-- **What the polling pass does**: it stores the set it is about and reports as removed what that set lacks, and as
added what the first scan saw. -/
theorem processScreenChangeEvent_spec (stabilizeAdded : Bool) (scans : Scans) (old : WatchState) :
    ∃ new call, processScreenChangeEvent stabilizeAdded scans old = .ok (new, call) ∧
      flags new.busesWEdid = observed stabilizeAdded (flags old.busesWEdid) scans ∧
      call.map HotplugCall.change =
        if flags old.busesWEdid \ flags new.busesWEdid = ∅ ∧ scans.seen 0 \ flags old.busesWEdid = ∅ then none
        else some ⟨flags old.busesWEdid \ flags new.busesWEdid, scans.seen 0 \ flags old.busesWEdid⟩ := by
  have hwaits : (0 < bs256Count (bs256AndNot old.busesWEdid (i2cBusesWEdidAsBitset (scans.scan 0))) ∨
      stabilizeAdded = true ∧ 0 < bs256Count (bs256AndNot (i2cBusesWEdidAsBitset (scans.scan 0)) old.busesWEdid)) ↔
      Waits stabilizeAdded (flags old.busesWEdid) scans := by
    rw [bs256Count_pos, bs256Count_pos, flags_andNot, flags_andNot]; exact .rfl
  have hcall : ∀ new : BitSet256, (if 0 < bs256Count (bs256AndNot old.busesWEdid new) ∨
      0 < bs256Count (bs256AndNot (i2cBusesWEdidAsBitset (scans.scan 0)) old.busesWEdid) then
        some (HotplugCall.mk (bs256AndNot old.busesWEdid new)
          (bs256AndNot (i2cBusesWEdidAsBitset (scans.scan 0)) old.busesWEdid)) else none).map HotplugCall.change =
      if flags old.busesWEdid \ flags new = ∅ ∧ scans.seen 0 \ flags old.busesWEdid = ∅ then none
      else some ⟨flags old.busesWEdid \ flags new, scans.seen 0 \ flags old.busesWEdid⟩ := by
    intro new
    rw [← flags_andNot]
    rw [Scans.seen, ← flags_andNot]
    split
    · rename_i h
      rw [if_neg ((count_or_count _ _).1 h)]; rfl
    · rename_i h
      rw [if_pos (not_not.1 (mt (count_or_count _ _).2 h))]; rfl
  have hfilter : i2cFilterBusesWEdidAsBitset (scans.scan 0) (i2cDetectAttachedBusesAsBitset (scans.scan 0)) =
    i2cBusesWEdidAsBitset (scans.scan 0) := rfl
  unfold processScreenChangeEvent observed
  by_cases h : Waits stabilizeAdded (flags old.busesWEdid) scans
  · obtain ⟨bs, hbs, hflags⟩ := dwStabilizedBusesBs_spec scans
    rw [if_pos h]
    refine ⟨⟨i2cDetectAttachedBusesAsBitset (scans.scan 0), bs⟩, _, ?_, hflags, hcall bs⟩
    dsimp only
    rw [hfilter, if_pos (hwaits.2 h), hbs]; rfl
  · rw [if_neg h]
    refine ⟨⟨i2cDetectAttachedBusesAsBitset (scans.scan 0), i2cBusesWEdidAsBitset (scans.scan 0)⟩, _, ?_, rfl, hcall _⟩
    dsimp only
    rw [hfilter, if_neg (mt hwaits.1 h)]; rfl

theorem dwI2cCheckBusChanges_spec (prev : BitSet256) :
    ∃ new call, dwI2cCheckBusChanges scans prev = .ok (new, call) ∧ flags new = observed false (flags prev) scans ∧
      call.map HotplugCall.change = Change.between (flags prev) (flags new) := by
  have heq : ∀ set1 set2 : BitSet256, bs256Eq set1 set2 = false ↔ flags set1 ≠ flags set2 := by
    intro set1 set2
    rw [ne_eq, ← bs256Eq_iff, Bool.not_eq_true]
  have hwaits : (bs256Eq prev (i2cBusesWEdidAsBitset (scans.scan 0)) = false ∧
      0 < bs256Count (bs256AndNot prev (i2cBusesWEdidAsBitset (scans.scan 0)))) ↔ Waits false (flags prev) scans := by
    rw [heq, bs256Count_pos, flags_andNot]
    constructor
    · exact fun h => .inl h.2
    · rintro (h | h)
      · refine ⟨fun hsame => h ?_, h⟩
        rw [Scans.seen, ← hsame, Finset.sdiff_self]
      · exact absurd h.1 Bool.false_ne_true
  have hcall : ∀ new : BitSet256, (if bs256Eq prev new = false then
      some (HotplugCall.mk (bs256AndNot prev new) (bs256AndNot new prev)) else none).map HotplugCall.change =
      Change.between (flags prev) (flags new) := by
    intro new
    unfold Change.between
    simp only [sdiff_eq_empty_both]
    split
    · rename_i h
      rw [if_neg ((heq _ _).1 h)]
      unfold HotplugCall.change
      rw [Option.map_some, flags_andNot, flags_andNot]
    · rename_i h
      rw [if_pos (not_not.1 (mt (heq _ _).2 h))]; rfl
  unfold dwI2cCheckBusChanges observed
  by_cases h : Waits false (flags prev) scans
  · obtain ⟨bs, hbs, hflags⟩ := dwStabilizedBusesBs_spec scans
    rw [if_pos h]
    refine ⟨bs, _, ?_, hflags, hcall bs⟩
    rw [if_pos (hwaits.2 h), hbs]; rfl
  · rw [if_neg h]
    refine ⟨i2cBusesWEdidAsBitset (scans.scan 0), _, ?_, rfl, hcall _⟩
    rw [if_neg (mt hwaits.1 h)]; rfl

end Ddc

/-! ## What the polling thread reports over a run

Every pass should report the changes from the stored set to the set it is about, and store that set.  It always stores
it and reports right what was removed.
-/

namespace Ddc

open Kit List Exec

def watchRun (stabilizeAdded : Bool) : WatchState → List Scans → Exec (WatchState × List (Option HotplugCall))
  | old, [] => .ok (old, [])
  | old, scans :: passes => do
    let r ← processScreenChangeEvent stabilizeAdded scans old
    let rest ← watchRun stabilizeAdded r.1 passes
    .ok (rest.1, r.2 :: rest.2)

/-- **A pass is right**: it reports the changes to the set it is about and stores that set, and the udev pass does the
same on scans it is about the same set for. -/
def PassRight (stabilizeAdded : Bool) (scans : Scans) (old : WatchState) : Prop :=
  ∃ new call, processScreenChangeEvent stabilizeAdded scans old = .ok (new, call) ∧
    flags new.busesWEdid = observed stabilizeAdded (flags old.busesWEdid) scans ∧
    call.map HotplugCall.change = Change.between (flags old.busesWEdid) (flags new.busesWEdid) ∧
    ∀ udev : Scans,
      observed false (flags old.busesWEdid) udev = observed stabilizeAdded (flags old.busesWEdid) scans →
      dwI2cCheckBusChanges udev old.busesWEdid = .ok (new.busesWEdid, call)

/-- **A run is right**: each pass is, no bus is reported added that is stored or removed that is not, and the reports
applied to the initial set give the stored one. -/
structure RunRight (stabilizeAdded : Bool) (start : WatchState) (passes : List Scans) : Prop where
  each : ∀ pre scans post s calls, passes = pre ++ scans :: post → watchRun stabilizeAdded start pre = .ok (s, calls) →
    PassRight stabilizeAdded scans s ∧
    ∀ new call, processScreenChangeEvent stabilizeAdded scans s = .ok (new, some call) →
      call.change.Fits (flags s.busesWEdid)
  stored : ∃ s calls, watchRun stabilizeAdded start passes = .ok (s, calls) ∧
    flags s.busesWEdid = (calls.map (Option.map HotplugCall.change)).foldl Change.applyReport (flags start.busesWEdid)

def Steady (stabilizeAdded : Bool) (stored : Finset Nat) (scans : Scans) : Prop :=
  Waits stabilizeAdded stored scans → scans.seen 0 \ stored = scans.settled \ stored

def storedAfter (stabilizeAdded : Bool) (stored : Finset Nat) (passes : List Scans) : Finset Nat :=
  passes.foldl (observed stabilizeAdded) stored

/-! ## One pass -/

variable (stabilizeAdded : Bool)

theorem steady_iff (stored : Finset Nat) (scans : Scans) :
    Steady stabilizeAdded stored scans ↔ scans.seen 0 \ stored = observed stabilizeAdded stored scans \ stored := by
  unfold Steady observed
  split
  · rename_i h; exact ⟨fun hsteady => hsteady h, fun heq _ => heq⟩
  · rename_i h; exact ⟨fun _ => rfl, fun _ hwaits => absurd hwaits h⟩

theorem change_inj {call1 call2 : HotplugCall} (h : call1.change = call2.change) : call1 = call2 := by
  unfold HotplugCall.change at h
  rw [Change.mk.injEq, flags_inj, flags_inj] at h
  rw [HotplugCall.mk.injEq]; exact h

theorem report_of_steady {stabilizeAdded : Bool} {scans : Scans} {old new : WatchState} {call : Option HotplugCall}
    (hsteady : Steady stabilizeAdded (flags old.busesWEdid) scans)
    (h : processScreenChangeEvent stabilizeAdded scans old = .ok (new, call)) :
    flags new.busesWEdid = observed stabilizeAdded (flags old.busesWEdid) scans ∧
      call.map HotplugCall.change = Change.between (flags old.busesWEdid) (flags new.busesWEdid) := by
  obtain ⟨new', call', hprocess, hnew, hcall⟩ := processScreenChangeEvent_spec stabilizeAdded scans old
  rw [h] at hprocess
  cases hprocess
  rw [steady_iff, ← hnew] at hsteady
  rw [hsteady] at hcall; exact ⟨hnew, hcall⟩

theorem passRight_iff (scans : Scans) (old : WatchState) :
    PassRight stabilizeAdded scans old ↔ Steady stabilizeAdded (flags old.busesWEdid) scans := by
  obtain ⟨new, call, hprocess, hnew, hcall⟩ := processScreenChangeEvent_spec stabilizeAdded scans old
  constructor
  · rintro ⟨new', call', hprocess', -, hbetween, -⟩
    rw [hprocess] at hprocess'
    cases hprocess'
    rw [hbetween] at hcall
    rw [steady_iff, ← hnew]
    unfold Change.between at hcall
    split at hcall
    · rename_i hsame
      split at hcall
      · rename_i hnone
        rw [hnone.2, hsame.2]
      · cases hcall
    · split at hcall
      · cases hcall
      · rw [Option.some.injEq, Change.mk.injEq] at hcall; exact hcall.2.symm
  · intro hsteady
    have hreport := (report_of_steady hsteady hprocess).2
    refine ⟨new, call, hprocess, hnew, hreport, fun udev hudev => ?_⟩
    obtain ⟨newU, callU, hprocessU, hnewU, hcallU⟩ := dwI2cCheckBusChanges_spec udev old.busesWEdid
    have hbuses : newU = new.busesWEdid := flags_inj.1 (hnewU.trans (hudev.trans hnew.symm))
    have hcalls : callU = call := by
      apply Option.map_injective (f := HotplugCall.change) fun _ _ => change_inj
      rw [hcallU, hbuses, hreport]
    rw [hprocessU, hbuses, hcalls]

/-! ## Runs -/

theorem watchRun_returns (passes : List Scans) :
    ∀ start : WatchState, ∃ s calls, watchRun stabilizeAdded start passes = .ok (s, calls) ∧
      flags s.busesWEdid = storedAfter stabilizeAdded (flags start.busesWEdid) passes := by
  induction passes with
  | nil => exact fun start => ⟨start, [], rfl, rfl⟩
  | cons scans passes ih =>
    intro start
    obtain ⟨new, call, hprocess, hnew, -⟩ := processScreenChangeEvent_spec stabilizeAdded scans start
    obtain ⟨s, calls, hrun, hs⟩ := ih new
    refine ⟨s, call :: calls, ?_, ?_⟩
    · rw [watchRun, hprocess, ok_bind, hrun, ok_bind]
    · rw [hs, hnew]; rfl

def observedSets (stabilizeAdded : Bool) : Finset Nat → List Scans → List (Finset Nat)
  | _, [] => []
  | stored, scans :: passes =>
    observed stabilizeAdded stored scans :: observedSets stabilizeAdded (observed stabilizeAdded stored scans) passes

theorem getLast_observedSets (stored : Finset Nat) (passes : List Scans) :
    (stored :: observedSets stabilizeAdded stored passes).getLast (cons_ne_nil _ _) =
      storedAfter stabilizeAdded stored passes := by
  induction passes generalizing stored with
  | nil => rfl
  | cons scans passes ih =>
    rw [observedSets, getLast_cons (cons_ne_nil _ _), ih]; rfl

def SteadyRun (stabilizeAdded : Bool) (stored : Finset Nat) (passes : List Scans) : Prop :=
  ∀ pre scans post, passes = pre ++ scans :: post → Steady stabilizeAdded (storedAfter stabilizeAdded stored pre) scans

theorem watchRun_follow (passes : List Scans) :
    ∀ {start s : WatchState} {calls : List (Option HotplugCall)},
      SteadyRun stabilizeAdded (flags start.busesWEdid) passes →
      watchRun stabilizeAdded start passes = .ok (s, calls) →
      calls.map (Option.map HotplugCall.change) =
        Change.follow (flags start.busesWEdid) (observedSets stabilizeAdded (flags start.busesWEdid) passes) := by
  induction passes with
  | nil =>
    intro start s calls _ h
    cases h; rfl
  | cons scans passes ih =>
    intro start s calls hsteady h
    obtain ⟨⟨new, call⟩, hprocess, h⟩ := bind_eq_ok.1 h
    obtain ⟨⟨s', calls'⟩, hrun, h⟩ := bind_eq_ok.1 h
    cases h
    obtain ⟨hnew, hreport⟩ := report_of_steady (hsteady [] scans passes rfl) hprocess
    have htail : SteadyRun stabilizeAdded (flags new.busesWEdid) passes := by
      intro pre scans' post hsplit
      rw [hnew]; exact hsteady (scans :: pre) scans' post (by rw [hsplit]; rfl)
    rw [map_cons, ih htail hrun, hreport, observedSets, Change.follow, hnew]

/-- **A run is right exactly where each of its passes is steady.** -/
theorem runRight_iff (stabilizeAdded : Bool) (start : WatchState) (passes : List Scans) :
    RunRight stabilizeAdded start passes ↔ SteadyRun stabilizeAdded (flags start.busesWEdid) passes := by
  constructor
  · intro hright pre scans post hsplit
    obtain ⟨s, calls, hrun, hs⟩ := watchRun_returns stabilizeAdded pre start
    rw [← hs, ← passRight_iff]; exact (hright.each pre scans post s calls hsplit hrun).1
  · intro hsteady
    refine ⟨fun pre scans post s calls hsplit hrun => ?_, ?_⟩
    · obtain ⟨s', calls', hrun', hs⟩ := watchRun_returns stabilizeAdded pre start
      rw [hrun] at hrun'
      cases hrun'
      have hpass := hsteady pre scans post hsplit
      rw [← hs] at hpass
      refine ⟨(passRight_iff stabilizeAdded scans s).2 hpass, fun new call hprocess => ?_⟩
      exact Change.fits_of_between (report_of_steady hpass hprocess).2.symm
    · obtain ⟨s, calls, hrun, hs⟩ := watchRun_returns stabilizeAdded passes start
      refine ⟨s, calls, hrun, ?_⟩
      rw [watchRun_follow stabilizeAdded passes hsteady hrun, Change.foldl_follow, getLast_observedSets, hs]

/-- The monitor on bus 4 is not seen in the first scan; from the second on it is, and so is a new one on bus 5. -/
def glitchAndArrival : Scans where
  scan k := ⟨[4, 5], fun _ => decide (k ≠ 0)⟩
  last := 1
  settles := rfl

def monitorOnBus4 : WatchState := ⟨emptyBitSet256, bs256Insert emptyBitSet256 4⟩

theorem glitchAndArrival_unreported :
    ∃ new, processScreenChangeEvent false glitchAndArrival monitorOnBus4 = .ok (new, none) ∧
      bs256Contains new.busesWEdid 5 = true := by
  refine ⟨⟨bs256FromBva [4, 5], bs256FromBva [4, 5]⟩, ?_, ?_⟩
  · decide +kernel
  · decide +kernel

theorem glitchAndArrival_not_right : ¬ RunRight false monitorOnBus4 [glitchAndArrival] := by
  intro hright
  obtain ⟨new, call, hprocess, -, hcall, -⟩ := (hright.each [] _ [] _ _ rfl rfl).1
  obtain ⟨new', hprocess', hfive⟩ := glitchAndArrival_unreported
  rw [hprocess] at hprocess'
  cases hprocess'
  have hsame : flags monitorOnBus4.busesWEdid = flags new.busesWEdid := Change.between_eq_none.1 hcall.symm
  have hmem : 5 ∈ flags new.busesWEdid := mem_flags.2 ⟨by decide, hfive⟩
  rw [← hsame, mem_flags] at hmem; exact absurd hmem.2 (by decide)

end Ddc
