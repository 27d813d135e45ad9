import Ddcutil.HotplugRuns
import Ddcutil.RecheckQueue
/-!
# RecheckThreads — the watch thread and the recheck thread on one list of display references

The watch thread handles the buses that lost or got a display and then puts the new displays that do not communicate
on the recheck queue, one after the other.  The recheck thread checks a queued display again, gives it a number and
says that it is enabled.
-/
namespace Ddc

open Kit

structure WatchSystem where
  world : DisplayWorld
  thread : RecheckThread

/-- **`dw_recheck_dref`**: the flags are cleared and the initial checks made again, where the reference can be locked. -/
def dwRecheckDref (skipDdcChecks : Bool) (s : DisplayWorld) (ndx : Nat) (locked : Bool) (found : DdcCheck) :
    Exec (Option Status × DisplayWorld) :=
  if locked = true then .ok (some ddcrcLocked, s)
  else
    match s.allDisplayRefs[ndx]? with
    | none => .error .outOfBounds
    | some dref => do
      let (err, dref, buses) ← ddcInitialChecksByDref skipDdcChecks s.buses { dref with flags := noDrefFlags } found
      .ok (err, { s with buses := buses, allDisplayRefs := s.allDisplayRefs.set ndx dref })

def assignDispno (s : DisplayWorld) (ndx : Nat) (err : Option Status) : DisplayWorld :=
  match s.allDisplayRefs[ndx]?, err with
  | none, _ => s
  | some dref, none =>
    { s with
      allDisplayRefs := s.allDisplayRefs.set ndx { dref with dispno := s.dispnoMax + 1 }
      dispnoMax := s.dispnoMax + 1 }
  | some dref, some status =>
    if status = ddcrcDisconnected then
      { s with allDisplayRefs := s.allDisplayRefs.set ndx { dref with dispno := dispnoRemoved } }
    else s

def emitEvent (s : DisplayWorld) (ndx : Nat) (eventType : DisplayStatusEventType) : DisplayWorld :=
  match s.allDisplayRefs[ndx]? with
  | none => s
  | some dref => { s with events := s.events ++ [⟨eventType, ndx, dref.ioPath⟩] }

/-! ## Steps -/

inductive WatchAct where
  | handle (c : HotplugCallArgs)
  | put (now : UInt64)
  | terminate
  | wake (curTimeNanos : UInt64)
  | pop
  | recheck (locked : Bool) (found : DdcCheck)
  | settle | emit

def putRecheck (s : WatchSystem) (now : UInt64) : WatchSystem :=
  match s.world.displaysToRecheck.getLast? with
  | none => s
  | some ndx =>
    ⟨{ s.world with displaysToRecheck := s.world.displaysToRecheck.dropLast }, dwPutRecheckQueue s.thread ndx now⟩

def threadStep (s : WatchSystem) (act : RecheckAct) : Exec WatchSystem := do
  let thread ← recheckStep s.thread act
  .ok { s with thread := thread }

def recheckPopped (skipDdcChecks : Bool) (s : WatchSystem) (locked : Bool) (found : DdcCheck) : Exec WatchSystem :=
  match s.thread.pos with
  | .rechecking a => do
    let rqe ← readEntry s.thread.entries a
    let (err, world) ← dwRecheckDref skipDdcChecks s.world rqe.dref locked found
    .ok ⟨world, { s.thread with pos := .returned a err }⟩
  | _ => .ok s

def settlePopped (s : WatchSystem) : Exec WatchSystem :=
  match s.thread.pos with
  | .returned a err => do
    let rqe ← readEntry s.thread.entries a
    .ok ⟨assignDispno s.world rqe.dref err, recheckSettle s.thread a err⟩
  | _ => .ok s

def emitPopped (s : WatchSystem) : Exec WatchSystem :=
  match s.thread.pos with
  | .emitting a eventType => do
    let rqe ← readEntry s.thread.entries a
    .ok ⟨emitEvent s.world rqe.dref eventType, recheckEmit s.thread a eventType⟩
  | _ => .ok s

def watchStep (skipDdcChecks : Bool) (s : WatchSystem) : WatchAct → Exec WatchSystem
  | .handle c => do
    let (_, world) ← dwHotplugChangeHandler skipDdcChecks c.recheck c.found c.removed c.added s.world
    .ok { s with world := world }
  | .put now => .ok (putRecheck s now)
  | .terminate => threadStep s .terminate
  | .wake curTimeNanos => threadStep s (.wake curTimeNanos)
  | .pop => threadStep s .pop
  | .recheck locked found => recheckPopped skipDdcChecks s locked found
  | .settle => settlePopped s
  | .emit => emitPopped s

/-- The threads have started: displays may have been detected, none was rechecked and no event emitted. -/
structure WatchStart (s : WatchSystem) : Prop where
  thread : s.thread = recheckStart
  events : s.world.events = []
  displaysToRecheck : s.world.displaysToRecheck = []

/-- **The steps in which nothing goes wrong**: the watch thread does not remove the bus of a display that the recheck
thread has given a number and not yet said to be enabled. -/
def WatchMeets (s : WatchSystem) : WatchAct → Prop
  | .handle c => ∀ a rqe dref busno, s.thread.pos = .emitting a .ddcEnabled → s.thread.entries.cells a = some rqe →
      s.world.allDisplayRefs[rqe.dref]? = some dref → busno ∈ flags c.removed → dref.ioPath ≠ .i2c busno
  | _ => True

def WatchReachable (skipDdcChecks : Bool) : WatchSystem → Prop :=
  Reachable WatchStart WatchMeets (watchStep skipDdcChecks)

def RemovedStays (s s' : DisplayWorld) : Prop :=
  ∀ (ndx : Nat) (dref : DisplayRef), s.allDisplayRefs[ndx]? = some dref → dref.flags.removed = true →
    ∃ dref', s'.allDisplayRefs[ndx]? = some dref' ∧ dref'.flags.removed = true

/-- **The references and their events are right**: a removed reference stays removed, a recheck finds a bus record, no
reference is connected or enabled after its DISCONNECTED event, and there is one such event at most. -/
structure WatchRight (skipDdcChecks : Bool) (s : WatchSystem) : Prop where
  removedStays : ∀ act s', watchStep skipDdcChecks s act = .ok s' → RemovedStays s.world s'.world
  noNullDetail : ∀ locked found, watchStep skipDdcChecks s (.recheck locked found) ≠ .error .nullDeref
  quiet : ∀ older e newer, s.world.events = older ++ e :: newer → e.eventType = .disconnected →
    ∀ e' ∈ newer, e'.dref = e.dref → e'.eventType ≠ .connected ∧ e'.eventType ≠ .ddcEnabled
  once : ∀ ndx, s.world.events.countP (fun e => e.eventType = .disconnected ∧ e.dref = ndx) ≤ 1

/-! ## What each step of the two threads does to a display that is to be rechecked

A display waits to be rechecked in the watch thread's list, on the queue, or popped by the recheck thread, and in one
of these places only (`WatchInv`).
-/

open List Exec

/-! ## The initial checks -/

theorem ddcInitialChecksByDh_disconnected {flags : DrefFlags} {readStatus : Option Status}
    (hflags : flags.removed = false) (h : (ddcInitialChecksByDh flags readStatus).2.removed = true) :
    (ddcInitialChecksByDh flags readStatus).1 = some ddcrcDisconnected := by
  unfold ddcInitialChecksByDh at h ⊢
  split at h
  · exact absurd (hflags.symm.trans h) Bool.false_ne_true
  · rename_i hchecked
    rw [if_neg hchecked]
    cases readStatus with
    | none => exact absurd (hflags.symm.trans h) Bool.false_ne_true
    | some psc =>
      have hread : (flagsOfRead flags psc).removed = true := by
        dsimp only at h
        split at h
        · exact h
        · exact h
      unfold flagsOfRead at hread
      split at hread
      · exact absurd (hflags.symm.trans hread) Bool.false_ne_true
      split at hread
      · rename_i hpsc
        rw [hpsc]; rfl
      split at hread
      · exact absurd (hflags.symm.trans hread) Bool.false_ne_true
      · exact absurd (hflags.symm.trans hread) Bool.false_ne_true

variable {a : Address} {busno : Nat} {s s' : DisplayWorld}

theorem ddcInitialChecksByDref_flags (skipDdcChecks : Bool) (buses : Heap BusInfo) (dref : DisplayRef)
    (hdetail : dref.detail = some a) (hremoved : dref.flags.removed = false) (found : DdcCheck) :
    ddcInitialChecksByDref skipDdcChecks buses dref found ≠ .error .nullDeref ∧
      ∀ err dref' buses', ddcInitialChecksByDref skipDdcChecks buses dref found = .ok (err, dref', buses') →
        dref'.dispno = dref.dispno ∧ dref'.detail = some a ∧
          (dref'.flags.removed = true → err = some ddcrcDisconnected) := by
  unfold ddcInitialChecksByDref
  by_cases hmmk : found.ignoredMmk = true
  · rw [if_pos hmmk]
    refine ⟨ok_ne_error _ _, fun err dref' buses' h => ?_⟩
    cases h; exact ⟨rfl, hdetail, fun h => absurd (hremoved.symm.trans h) Bool.false_ne_true⟩
  rw [if_neg hmmk, hdetail]
  unfold readBusInfo
  dsimp only
  cases hb : buses.cells a with
  | none =>
    refine ⟨error_ne_error (by decide), fun err dref' buses' h => ?_⟩
    cases h
  | some b =>
    rw [ok_bind]
    split
    · refine ⟨ok_ne_error _ _, fun err dref' buses' h => ?_⟩
      cases h; exact ⟨rfl, rfl, fun h => absurd (hremoved.symm.trans h) Bool.false_ne_true⟩
    · have hopen : ∃ status, openForChecks buses dref found = .ok (status, dref) := by
        rw [openForChecks, if_neg (Bool.eq_false_iff.1 hremoved), hdetail]
        dsimp only
        rw [readBusInfo_live hb, ok_bind]
        split
        · exact ⟨_, rfl⟩
        split
        · exact ⟨_, rfl⟩
        · exact ⟨_, rfl⟩
      obtain ⟨status, hopen⟩ := hopen
      rw [hopen, ok_bind]
      refine ⟨ok_ne_error _ _, fun err dref' buses' h => ?_⟩
      cases h
      refine ⟨rfl, hdetail, fun h => ?_⟩
      cases status with
      | some status =>
        dsimp only at h
        rw [if_neg (Bool.eq_false_iff.1 hremoved)] at h
        have hfalse : dref.flags.removed = true := by
          split at h
          · exact h
          · exact h
        exact absurd (hremoved.symm.trans hfalse) Bool.false_ne_true
      | none =>
        dsimp only at h ⊢
        apply ddcInitialChecksByDh_disconnected hremoved
        by_contra hdh
        have hfalse : (ddcInitialChecksByDh dref.flags found.readStatus).2.removed = true := by
          split at h
          · exact h
          · exact h
        exact hdh hfalse

/-! ## What handling one bus changes -/

structure Recheckable (dref : DisplayRef) : Prop where
  removed : dref.flags.removed = false
  dispno : dref.dispno ≤ 0
  detail : dref.detail ≠ none

def Removable (busno : Nat) (dref : DisplayRef) : Prop :=
  0 < dref.dispno ∧ dref.flags.removed = false ∧ dref.ioPath = .i2c busno

/-- **What removing a display from a bus changes**: references of that bus with a number are marked removed, and one of
them is named in the event. -/
structure RefsRemoved (busno : Nat) (s s' : DisplayWorld) : Prop where
  refs : ∀ (ndx : Nat) (dref : DisplayRef), s.allDisplayRefs[ndx]? = some dref →
    ∃ dref', s'.allDisplayRefs[ndx]? = some dref' ∧
      (dref' = dref ∨ Removable busno dref ∧ dref'.flags.removed = true)
  length : s'.allDisplayRefs.length = s.allDisplayRefs.length
  displaysToRecheck : s'.displaysToRecheck = s.displaysToRecheck
  events : s'.events = s.events ∨ ∃ (ndx : Nat) (dref dref' : DisplayRef),
    s'.events = s.events ++ [⟨.disconnected, ndx, .i2c busno⟩] ∧ s.allDisplayRefs[ndx]? = some dref ∧
    Removable busno dref ∧ s'.allDisplayRefs[ndx]? = some dref' ∧ dref'.flags.removed = true

/-- **What adding a display to a bus changes**: nothing, or one reference is added and named in the event. -/
def RefsAdded (s s' : DisplayWorld) : Prop :=
  (s'.allDisplayRefs = s.allDisplayRefs ∧ s'.displaysToRecheck = s.displaysToRecheck ∧ s'.events = s.events) ∨
  ∃ dref path, s'.allDisplayRefs = s.allDisplayRefs ++ [dref] ∧
    s'.events = s.events ++ [⟨.connected, s.allDisplayRefs.length, path⟩] ∧
    (s'.displaysToRecheck = s.displaysToRecheck ∨
      s'.displaysToRecheck = s.displaysToRecheck ++ [s.allDisplayRefs.length] ∧ Recheckable dref)

theorem counted_busno {dref : DisplayRef} : Counted (.byBusno busno) true dref ↔ Removable busno dref := by
  rw [counted_ignoring]
  constructor
  · rintro ⟨⟨⟨-, hpath⟩, hremoved⟩, hdispno⟩
    exact ⟨hdispno rfl, hremoved, of_decide_eq_true hpath⟩
  · rintro ⟨hdispno, hremoved, hpath⟩
    refine ⟨⟨⟨?_, decide_eq_true hpath⟩, hremoved⟩, fun _ => hdispno⟩
    rw [hpath]; rfl

theorem getDref_busno {buses : Heap BusInfo} {drefs drefs' : List DisplayRef} {result : Option Nat}
    (h : getDrefByBusnoOrConnector buses drefs (.byBusno busno) true = .ok (result, drefs')) :
    (∃ f : DisplayRef → DisplayRef, drefs' = drefs.map f ∧
      ∀ dref, f dref = dref ∨ Removable busno dref ∧ (f dref).flags.removed = true) ∧
    ∀ ndx, result = some ndx → ∃ dref, drefs[ndx]? = some dref ∧ Removable busno dref := by
  obtain ⟨search, hs, hget⟩ := getDref_spec (connectorsAgree_busno buses drefs busno true)
  rw [hget] at h
  have hnewest : ∀ ndx, search.result = some ndx → ∃ dref, drefs[ndx]? = some dref ∧ Removable busno dref := by
    intro ndx hndx
    obtain ⟨dref, hdref, hcounted, -⟩ := hs.newest ndx hndx
    exact ⟨dref, hdref, counted_busno.1 hcounted⟩
  split at h
  · cases h
    refine ⟨⟨_, rfl, fun dref => ?_⟩, hnewest⟩
    unfold repairDref
    split
    · rename_i hrepaired; exact .inr ⟨counted_busno.1 ⟨hrepaired.1, hrepaired.2.1⟩, rfl⟩
    · exact .inl rfl
  · cases h; exact ⟨⟨id, (map_id _).symm, fun _ => .inl rfl⟩, hnewest⟩

theorem i2cRemoveBusByBusno_refs (h : i2cRemoveBusByBusno s busno = .ok s') :
    s'.allDisplayRefs = s.allDisplayRefs ∧ s'.displaysToRecheck = s.displaysToRecheck ∧ s'.events = s.events := by
  obtain ⟨-, -, h⟩ := bind_eq_ok.1 h
  obtain ⟨r, -, h⟩ := bind_eq_ok.1 h
  cases r with
  | none =>
    cases h; exact ⟨rfl, rfl, rfl⟩
  | some a =>
    cases h; exact ⟨rfl, rfl, rfl⟩

theorem findBusInfo_busno {buses : Heap BusInfo} {l : List Address} (h : findBusInfo buses l busno = .ok (some a)) :
    ∃ b, buses.cells a = some b ∧ b.busno = busno := by
  induction l with
  | nil => cases h
  | cons c l ih =>
    obtain ⟨b, hb, h⟩ := bind_eq_ok.1 h
    split at h
    · rename_i hbusno
      cases h
      refine ⟨b, ?_, hbusno⟩
      unfold readBusInfo at hb
      dsimp only at hb
      split at hb
      · rename_i hcell
        cases hb; exact hcell
      · cases hb
    · exact ih h

theorem dwRemoveDisplayByBusinfo_changes {b : BusInfo} {deviceExists : Bool} {result : Option Nat}
    (hb : s.buses.cells a = some b) (h : dwRemoveDisplayByBusinfo s (some a) deviceExists = .ok (result, s')) :
    (∀ (ndx : Nat) (dref : DisplayRef), s.allDisplayRefs[ndx]? = some dref →
      ∃ dref', s'.allDisplayRefs[ndx]? = some dref' ∧
        (dref' = dref ∨ Removable b.busno dref ∧ dref'.flags.removed = true)) ∧
    s'.allDisplayRefs.length = s.allDisplayRefs.length ∧ s'.displaysToRecheck = s.displaysToRecheck ∧
    s'.events = s.events ∧
    ∀ ndx, result = some ndx → ∃ dref dref', s.allDisplayRefs[ndx]? = some dref ∧ Removable b.busno dref ∧
      s'.allDisplayRefs[ndx]? = some dref' ∧ dref'.flags.removed = true := by
  unfold dwRemoveDisplayByBusinfo at h
  dsimp only at h
  obtain ⟨b', hreset, hbusno, -⟩ := i2cResetBusInfo_live hb deviceExists
  rw [hreset, ok_bind, readBusInfo_live (Heap.write_self _ hb), ok_bind, hbusno] at h
  obtain ⟨⟨r, drefs⟩, hget, h⟩ := bind_eq_ok.1 h
  obtain ⟨⟨f, rfl, hf⟩, hfound⟩ := getDref_busno hget
  have hmap : ∀ (ndx : Nat) (dref : DisplayRef), s.allDisplayRefs[ndx]? = some dref →
      (s.allDisplayRefs.map f)[ndx]? = some (f dref) := by
    intro ndx dref hdref
    rw [getElem?_map, hdref, Option.map_some]
  cases r with
  | none =>
    cases h
    refine ⟨fun ndx dref hdref => ⟨f dref, hmap ndx dref hdref, hf dref⟩, length_map .., rfl, rfl,
      fun ndx hndx => nomatch hndx⟩
  | some found =>
    obtain ⟨dref, hdref, hremovable⟩ := hfound found rfl
    dsimp only at h
    rw [hmap found dref hdref] at h
    obtain ⟨-, -, h⟩ := bind_eq_ok.1 h
    cases h
    have hlt : found < (s.allDisplayRefs.map f).length := (List.getElem?_eq_some_iff.1 (hmap found dref hdref)).1
    refine ⟨fun ndx d hd => ?_, ?_, rfl, rfl, fun ndx hndx => ?_⟩
    · by_cases hndx : found = ndx
      · subst hndx
        rw [hdref] at hd
        cases hd; exact ⟨_, getElem?_set_self hlt, .inr ⟨hremovable, rfl⟩⟩
      · exact ⟨f d, (getElem?_set_ne hndx).trans (hmap ndx d hd), hf d⟩
    · rw [length_set, length_map]
    · cases hndx; exact ⟨dref, _, hdref, hremovable, getElem?_set_self hlt, rfl⟩

theorem hotplugRemove_changes {found : HotplugFound} {acc acc' : Bool × DisplayWorld}
    (h : hotplugRemove found acc busno = .ok acc') : RefsRemoved busno acc.2 acc'.2 := by
  obtain ⟨businfo, hfind, h⟩ := bind_eq_ok.1 h
  obtain ⟨⟨result, s⟩, hremove, h⟩ := bind_eq_ok.1 h
  cases businfo with
  | none => cases hremove
  | some a =>
    obtain ⟨b, hb, rfl⟩ := findBusInfo_busno hfind
    obtain ⟨hrefs, hlen, hrecheck, hevents, hresult⟩ := dwRemoveDisplayByBusinfo_changes hb hremove
    have hend : ∀ {s1 : DisplayWorld}, s1.allDisplayRefs = s.allDisplayRefs → s1.displaysToRecheck = s.displaysToRecheck →
        (s1.events = acc.2.events ∨ ∃ ndx, result = some ndx ∧
          s1.events = acc.2.events ++ [⟨.disconnected, ndx, .i2c b.busno⟩]) → RefsRemoved b.busno acc.2 s1 := by
      intro s1 hrefs1 hrecheck1 hevents1
      refine ⟨fun ndx dref hdref => ?_, ?_, hrecheck1.trans hrecheck, ?_⟩
      · rw [hrefs1]; exact hrefs ndx dref hdref
      · rw [hrefs1, hlen]
      · rcases hevents1 with hsame | ⟨ndx, hndx, hevents1⟩
        · exact .inl hsame
        · obtain ⟨dref, dref', hdref, hremovable, hdref', hremoved⟩ := hresult ndx hndx
          exact .inr ⟨ndx, dref, dref', hevents1, hdref, hremovable, hrefs1 ▸ hdref', hremoved⟩
    cases result with
    | none =>
      dsimp only at h
      split at h
      · cases h; exact hend rfl rfl (.inl hevents)
      · obtain ⟨s1, hs1, h⟩ := bind_eq_ok.1 h
        cases h
        obtain ⟨hrefs1, hrecheck1, hevents1⟩ := i2cRemoveBusByBusno_refs hs1
        exact hend hrefs1 hrecheck1 (.inl (hevents1.trans hevents))
    | some ndx =>
      dsimp only at h
      rw [hevents] at h
      split at h
      · cases h; exact hend rfl rfl (.inr ⟨ndx, rfl, rfl⟩)
      · obtain ⟨s1, hs1, h⟩ := bind_eq_ok.1 h
        cases h
        obtain ⟨hrefs1, hrecheck1, hevents1⟩ := i2cRemoveBusByBusno_refs hs1
        exact hend hrefs1 hrecheck1 (.inr ⟨ndx, rfl, hevents1⟩)

theorem i2cGetAndCheckBusInfo_refs {deviceExists : Bool} {found : BusCheck}
    (h : i2cGetAndCheckBusInfo s busno deviceExists found = .ok (a, s')) :
    s'.allDisplayRefs = s.allDisplayRefs ∧ s'.displaysToRecheck = s.displaysToRecheck ∧ s'.events = s.events := by
  obtain ⟨r, -, h⟩ := bind_eq_ok.1 h
  cases r with
  | none =>
    obtain ⟨-, -, h⟩ := bind_eq_ok.1 h
    obtain ⟨buses, -, h⟩ := bind_eq_ok.1 h
    cases h; exact ⟨rfl, rfl, rfl⟩
  | some c =>
    obtain ⟨buses, -, h⟩ := bind_eq_ok.1 h
    obtain ⟨buses', -, h⟩ := bind_eq_ok.1 h
    cases h; exact ⟨rfl, rfl, rfl⟩

theorem dwAddDisplayByBusinfo_changes {skipDdcChecks : Bool} {found : DdcCheck} {ts : Nat} {hts : 0 < ts}
    {result : AddedDref} (h : dwAddDisplayByBusinfo skipDdcChecks s a found ts hts = .ok (result, s')) :
    s'.displaysToRecheck = s.displaysToRecheck ∧ s'.events = s.events ∧
      ((∀ ndx, result ≠ .added ndx) ∧ s'.allDisplayRefs = s.allDisplayRefs ∨
      ∃ dref, result = .added s.allDisplayRefs.length ∧ s'.allDisplayRefs = s.allDisplayRefs ++ [dref] ∧
        (dref.flags.communicationWorking = false → Recheckable dref)) := by
  obtain ⟨businfo, -, h⟩ := bind_eq_ok.1 h
  obtain ⟨-, -, h⟩ := bind_eq_ok.1 h
  split at h
  · cases h
    refine ⟨rfl, rfl, .inl ⟨fun ndx heq => ?_, rfl⟩⟩
    cases heq
  obtain ⟨⟨err, dref, buses⟩, hchecks, h⟩ := bind_eq_ok.1 h
  have hspec := ddcInitialChecksByDref_flags skipDdcChecks s.buses ⟨.i2c businfo.busno, noDrefFlags, 0, some a,
    businfo.drmConnectorName, ts, hts⟩ rfl rfl found
  obtain ⟨hdispno, hdetail, hremoved⟩ := hspec.2 err dref buses hchecks
  dsimp only at h
  split at h
  · obtain ⟨-, -, h⟩ := bind_eq_ok.1 h
    cases h
    refine ⟨rfl, rfl, .inl ⟨fun ndx heq => ?_, rfl⟩⟩
    cases heq
  rename_i herr
  split at h
  · cases h
    refine ⟨rfl, rfl, .inr ⟨_, rfl, rfl, fun _ => ⟨?_, ?_, ?_⟩⟩⟩
    · exact Bool.eq_false_iff.2 (mt hremoved herr)
    · change dispnoInvalid ≤ 0
      decide
    · rw [hdetail]; exact Option.some_ne_none a
  · rename_i hworking
    cases h; exact ⟨rfl, rfl, .inr ⟨_, rfl, rfl, fun hnot => absurd hnot hworking⟩⟩

theorem hotplugAdd_changes {skipDdcChecks recheck : Bool} {found : HotplugFound} {acc acc' : Bool × DisplayWorld}
    (h : hotplugAdd skipDdcChecks recheck found acc busno = .ok acc') : RefsAdded acc.2 acc'.2 := by
  obtain ⟨⟨a, s1⟩, hget, h⟩ := bind_eq_ok.1 h
  obtain ⟨⟨result, s2⟩, hadd, h⟩ := bind_eq_ok.1 h
  obtain ⟨hrefs1, hrecheck1, hevents1⟩ := i2cGetAndCheckBusInfo_refs hget
  obtain ⟨hrecheck2, hevents2, hadded⟩ := dwAddDisplayByBusinfo_changes hadd
  rcases hadded with ⟨hnone, hrefs2⟩ | ⟨dref, rfl, hrefs2, hworking⟩
  · left
    have hsame : acc'.2 = s2 := by
      cases result with
      | noDref | transient => cases h; rfl
      | added ndx => exact absurd rfl (hnone ndx)
    rw [hsame]; exact ⟨hrefs2.trans hrefs1, hrecheck2.trans hrecheck1, hevents2.trans hevents1⟩
  · right
    cases h
    refine ⟨dref, .i2c busno, ?_, ?_, ?_⟩
    · rw [hrefs2, hrefs1]
    · rw [hevents2, hevents1, hrefs1]
    · rw [hrecheck2, hrecheck1, hrefs1]
      have hlast : s2.allDisplayRefs[acc.2.allDisplayRefs.length]? = some dref := by
        rw [hrefs2, ← hrefs1]; exact getElem?_concat_length
      rw [needsRecheck, hlast]
      by_cases hneeds : (!dref.flags.communicationWorking && recheck) = true
      · rw [if_pos hneeds]
        right
        refine ⟨rfl, hworking ?_⟩
        rw [Bool.and_eq_true, Bool.not_eq_true'] at hneeds; exact hneeds.1
      · rw [if_neg hneeds, append_nil]; exact .inl rfl

end Ddc
