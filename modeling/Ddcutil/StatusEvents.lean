import Mathlib.Data.List.TakeWhile
import Ddcutil.RecheckThreadsRuns
/-!
# StatusEvents — the flag that says that communication works

`dw_create_display_status_event` makes the record of an event from the display reference as it is then.  It compares
the type of the event with `DDCA_DISPLAY_EVENT_DDC_WORKING`, which is a flag and the number of no type.
-/
namespace Ddc

open Kit List Exec

namespace StatusEvents

/-! ## The record of an event -/

def ddcaEventDisplayConnected : Nat := 2
def ddcaEventDisplayDisconnected : Nat := 3
def ddcaEventDdcEnabled : Nat := 4

def eventTypeNumber : DisplayStatusEventType → Nat
  | .connected => ddcaEventDisplayConnected
  | .disconnected => ddcaEventDisplayDisconnected
  | .ddcEnabled => ddcaEventDdcEnabled

def ddcaDisplayEventDdcWorking : Nat := 0x08

structure StatusEventRecord where
  eventType : Nat
  ioPath : IoPath
  connectorName : String
  dref : Nat
  flags : UInt8
  deriving DecidableEq

def dwCreateDisplayStatusEvent (eventType : Nat) (connectorName : Option String) (ndx : Nat) (dref : DisplayRef) :
    Exec StatusEventRecord := do
  check (eventType = ddcaDisplayEventDdcWorking → dref.flags.communicationWorking = true)
  .ok {
    eventType := eventType
    ioPath := dref.ioPath
    connectorName := String.ofList ((connectorName.getD "").toList.take 31)
    dref := ndx
    flags :=
      if eventType = ddcaEventDisplayConnected ∧ dref.flags.communicationWorking = true ∨
          eventType = ddcaDisplayEventDdcWorking then
        UInt8.ofNat ddcaDisplayEventDdcWorking
      else 0 }

structure Emission where
  record : StatusEventRecord
  working : Bool
  deriving DecidableEq

def dwEmitDisplayStatusEvent (w : DisplayWorld) (e : DisplayStatusEvent) : Exec Emission :=
  match w.allDisplayRefs[e.dref]? with
  | none => .error .outOfBounds
  | some dref => do
    let record ← dwCreateDisplayStatusEvent (eventTypeNumber e.eventType) dref.drmConnector e.dref dref
    .ok ⟨record, dref.flags.communicationWorking⟩

/-! ## The two threads with the records -/

def noteEvents (old : DisplayWorld) (w : DisplayWorld) (emitted : List Emission) : Exec (List Emission) := do
  let new ← (w.events.drop old.events.length).mapM (dwEmitDisplayStatusEvent w)
  .ok (emitted ++ new)

structure EventSystem where
  system : WatchSystem
  emitted : List Emission

def noted (f : Bool × DisplayWorld → Nat → Exec (Bool × DisplayWorld)) (acc : (Bool × DisplayWorld) × List Emission)
    (busno : Nat) : Exec ((Bool × DisplayWorld) × List Emission) := do
  let next ← f acc.1 busno
  let emitted ← noteEvents acc.1.2 next.2 acc.2
  .ok (next, emitted)

def handleNoted (skipDdcChecks : Bool) (c : HotplugCallArgs) (s : EventSystem) : Exec EventSystem := do
  let acc ← (bs256Iter c.removed).foldlM (noted (hotplugRemove c.found)) ((true, s.system.world), s.emitted)
  let acc ← (bs256Iter c.added).foldlM (noted (hotplugAdd skipDdcChecks c.recheck c.found)) acc
  .ok ⟨{ s.system with world := acc.1.2 }, acc.2⟩

def eventStep (skipDdcChecks : Bool) (s : EventSystem) (act : WatchAct) : Exec EventSystem :=
  match act with
  | .handle c => handleNoted skipDdcChecks c s
  | .emit => do
    let system ← emitPopped s.system
    let emitted ← noteEvents s.system.world system.world s.emitted
    .ok ⟨system, emitted⟩
  | act => do
    let system ← watchStep skipDdcChecks s.system act
    .ok ⟨system, s.emitted⟩

structure EventStart (s : EventSystem) : Prop where
  system : WatchStart s.system
  emitted : s.emitted = []

/-! ## What is claimed -/

def Emission.Carries (m : Emission) : Prop := m.record.flags &&& UInt8.ofNat ddcaDisplayEventDdcWorking ≠ 0

instance (m : Emission) : Decidable m.Carries := inferInstanceAs (Decidable (_ ≠ _))

def Emission.Connects (m : Emission) : Prop := m.record.eventType = ddcaEventDisplayConnected

def Emission.Disconnects (m : Emission) (ndx : Nat) : Prop :=
  m.record.eventType = ddcaEventDisplayDisconnected ∧ m.record.dref = ndx

instance (m : Emission) (ndx : Nat) : Decidable (m.Disconnects ndx) := inferInstanceAs (Decidable (_ ∧ _))

def Emission.Enables (m : Emission) : Prop := m.record.eventType = ddcaEventDdcEnabled

def period (ndx : Nat) (emitted : List Emission) : List Emission :=
  (emitted.takeWhile fun m => ¬ m.Disconnects ndx).filter fun m => m.record.dref = ndx

/-- **What is claimed of a CONNECTED event and the events of its period**: the flag is on the CONNECTED event if
communication was known to work, else on a DDC_ENABLED event, and on one event at most. -/
structure PeriodRight (c : Emission) (during : List Emission) : Prop where
  connected : c.Carries ↔ c.working = true
  later : ∀ m ∈ during, m.Carries ↔ c.working = false ∧ m.Enables
  once : (c :: during).countP (fun m => m.Carries) ≤ 1

def FlagsRight (emitted : List Emission) : Prop :=
  ∀ older c newer, emitted = older ++ c :: newer → c.Connects → PeriodRight c (period c.record.dref newer)

/-- **What is claimed of a step**: making the records fails no assertion, and the flags are right after it. -/
structure StepRight (skipDdcChecks : Bool) (s : EventSystem) (act : WatchAct) : Prop where
  noAssertion : ∀ e, eventStep skipDdcChecks s act = .error e → watchStep skipDdcChecks s.system act = .error e
  flags : ∀ t, eventStep skipDdcChecks s act = .ok t → FlagsRight t.emitted

def ConnectedUnworking (emitted : List Emission) (ndx : Nat) : Prop :=
  ∃ older c newer, emitted = older ++ c :: newer ∧ c.Connects ∧ c.record.dref = ndx ∧ c.working = false ∧
    ∀ m ∈ newer, ¬ m.Disconnects ndx

/-- **The condition**: the recheck thread is not about to say of such a reference that communication is enabled. -/
def NotEnabledLater (s : EventSystem) : WatchAct → Prop
  | .emit => ∀ a rqe, s.system.thread.pos = .emitting a .ddcEnabled → s.system.thread.entries.cells a = some rqe →
      ¬ ConnectedUnworking s.emitted rqe.dref
  | _ => True

variable {w old : DisplayWorld} {emitted : List Emission} {m : Emission} {refs : Nat}

theorem dwEmitDisplayStatusEvent_ok {e : DisplayStatusEvent} {dref : DisplayRef}
    (hdref : w.allDisplayRefs[e.dref]? = some dref) : ∃ m, dwEmitDisplayStatusEvent w e = .ok m ∧
      m.record.eventType = eventTypeNumber e.eventType ∧ m.record.dref = e.dref ∧
      (m.Carries ↔ e.eventType = .connected ∧ m.working = true) := by
  have hnumber : eventTypeNumber e.eventType ≠ ddcaDisplayEventDdcWorking := by
    cases e.eventType <;> decide
  have hconnected : eventTypeNumber e.eventType = ddcaEventDisplayConnected ↔ e.eventType = .connected := by
    cases e.eventType <;> decide
  unfold dwEmitDisplayStatusEvent dwCreateDisplayStatusEvent
  simp only [hdref]
  rw [check_pos fun h => absurd h hnumber]
  refine ⟨_, rfl, rfl, rfl, ?_⟩
  unfold Emission.Carries
  simp only [hnumber, or_false, hconnected]
  split
  · rename_i hflag; exact ⟨fun _ => hflag, fun _ => by decide⟩
  · rename_i hflag; exact ⟨fun h => absurd rfl h, fun h => absurd h hflag⟩

/-! ## What a step adds to the records -/

structure IsRecord (w : DisplayWorld) (e : DisplayStatusEvent) (m : Emission) : Prop where
  eventType : m.record.eventType = eventTypeNumber e.eventType
  dref : m.record.dref = e.dref
  lt : e.dref < w.allDisplayRefs.length
  carries : m.Carries ↔ e.eventType = .connected ∧ m.working = true

theorem noteEvents_same (h : w.events = old.events) (emitted : List Emission) :
    noteEvents old w emitted = .ok emitted := by
  rw [noteEvents, h, drop_length, mapM_nil, pure_eq_ok, ok_bind, append_nil]

theorem noteEvents_one {e : DisplayStatusEvent} (h : w.events = old.events ++ [e]) {dref : DisplayRef}
    (hdref : w.allDisplayRefs[e.dref]? = some dref) (emitted : List Emission) :
    ∃ m, noteEvents old w emitted = .ok (emitted ++ [m]) ∧ IsRecord w e m := by
  obtain ⟨m, hm, htype, hndx, hcarries⟩ := dwEmitDisplayStatusEvent_ok hdref
  refine ⟨m, ?_, htype, hndx, (List.getElem?_eq_some_iff.1 hdref).1, hcarries⟩
  rw [noteEvents, h, drop_left, mapM_cons, hm, ok_bind, mapM_nil]; rfl

/-- **What a change of the references can add to the records**: nothing, a DISCONNECTED event, or the CONNECTED event of
a reference that is new. -/
inductive Adds (old w : DisplayWorld) (emitted : List Emission) : List Emission → Prop
  | none : Adds old w emitted emitted
  | disconnected {e : DisplayStatusEvent} {m : Emission} (htype : e.eventType = .disconnected) (hm : IsRecord w e m) :
      Adds old w emitted (emitted ++ [m])
  | connected {e : DisplayStatusEvent} {m : Emission} (htype : e.eventType = .connected)
      (hnew : e.dref = old.allDisplayRefs.length) (hm : IsRecord w e m) : Adds old w emitted (emitted ++ [m])

theorem noteEvents_removed {busno : Nat} (h : RefsRemoved busno old w) (emitted : List Emission) :
    ∃ emitted', noteEvents old w emitted = .ok emitted' ∧ Adds old w emitted emitted' := by
  rcases h.events with hsame | ⟨ndx, -, dref', hevents, -, -, hdref', -⟩
  · exact ⟨emitted, noteEvents_same hsame emitted, .none⟩
  · obtain ⟨m, hm, hrecord⟩ := noteEvents_one hevents hdref' emitted
    exact ⟨_, hm, .disconnected rfl hrecord⟩

theorem noteEvents_added (h : RefsAdded old w) (emitted : List Emission) :
    ∃ emitted', noteEvents old w emitted = .ok emitted' ∧ Adds old w emitted emitted' := by
  rcases h with ⟨-, -, hsame⟩ | ⟨dref, path, hrefs, hevents, -⟩
  · exact ⟨emitted, noteEvents_same hsame emitted, .none⟩
  · have hlast : w.allDisplayRefs[old.allDisplayRefs.length]? = some dref := by
      rw [hrefs]; exact getElem?_concat_length
    obtain ⟨m, hm, hrecord⟩ := noteEvents_one hevents hlast emitted
    exact ⟨_, hm, .connected rfl rfl hrecord⟩

theorem length_le_of_removed {busno : Nat} (h : RefsRemoved busno old w) :
    old.allDisplayRefs.length ≤ w.allDisplayRefs.length := Nat.le_of_eq h.length.symm

theorem length_le_of_added (h : RefsAdded old w) : old.allDisplayRefs.length ≤ w.allDisplayRefs.length := by
  rcases h with ⟨hrefs, -⟩ | ⟨dref, path, hrefs, -⟩
  · rw [hrefs]
  · rw [hrefs, length_append]; exact Nat.le_add_right _ _

/-! ## The periods -/

theorem period_append (ndx : Nat) (newer : List Emission) (m : Emission) :
    period ndx (newer ++ [m]) =
      if (∀ m' ∈ newer, ¬ m'.Disconnects ndx) ∧ ¬ m.Disconnects ndx ∧ m.record.dref = ndx then
        period ndx newer ++ [m]
      else period ndx newer := by
  unfold period
  by_cases hopen : ∀ m' ∈ newer, ¬ m'.Disconnects ndx
  · have hall : ∀ m' ∈ newer, decide (¬ m'.Disconnects ndx) = true := fun m' hm' => decide_eq_true (hopen m' hm')
    have hwhole : newer.takeWhile (fun m' => ¬ m'.Disconnects ndx) = newer :=
      (takeWhile_eq_self_iff).2 hall
    rw [takeWhile_append_of_pos hall, hwhole]
    by_cases hover : m.Disconnects ndx
    · have hlast : [m].takeWhile (fun m' => ¬ m'.Disconnects ndx) = [] := by
        rw [takeWhile_cons, decide_eq_false (not_not.2 hover), if_neg Bool.false_ne_true]
      have hnot : ¬ ((∀ m' ∈ newer, ¬ m'.Disconnects ndx) ∧ ¬ m.Disconnects ndx ∧ m.record.dref = ndx) :=
        fun h => h.2.1 hover
      rw [hlast, append_nil, if_neg hnot]
    · have hlast : [m].takeWhile (fun m' => ¬ m'.Disconnects ndx) = [m] := by
        rw [takeWhile_cons, decide_eq_true hover, if_pos rfl, takeWhile_nil]
      rw [hlast, filter_append]
      by_cases hndx : m.record.dref = ndx
      · rw [if_pos ⟨hopen, hover, hndx⟩, filter_singleton, decide_eq_true hndx]; rfl
      · rw [if_neg (fun h => hndx h.2.2), filter_singleton, decide_eq_false hndx]
        exact append_nil _
  · rw [if_neg (fun h => hopen h.1), takeWhile_append]
    have hshort : (newer.takeWhile fun m' => ¬ m'.Disconnects ndx).length ≠ newer.length := by
      intro hlen
      have hwhole := ( takeWhile_prefix fun m' => decide (¬ Emission.Disconnects m' ndx)).eq_of_length hlen
      exact hopen fun m' hm' => of_decide_eq_true (takeWhile_eq_self_iff.1 hwhole m' hm')
    rw [if_neg hshort]

theorem flagsRight_append :
    FlagsRight (emitted ++ [m]) ↔ (∀ older c newer, emitted = older ++ c :: newer → c.Connects →
      PeriodRight c (period c.record.dref (newer ++ [m]))) ∧ (m.Connects → PeriodRight m []) := by
  constructor
  · intro h
    refine ⟨fun older c newer hsplit hc => h older c (newer ++ [m]) ?_ hc, h emitted m [] rfl⟩
    rw [hsplit, append_assoc, cons_append]
  · rintro ⟨hbefore, hlast⟩ older c newer hsplit hc
    rcases eq_nil_or_concat' newer with rfl | ⟨front, last, rfl⟩
    · obtain ⟨-, hcons⟩ := append_inj' hsplit rfl
      cases hcons; exact hlast hc
    · rw [← cons_append, ← append_assoc] at hsplit
      obtain ⟨hemitted, hcons⟩ := append_inj' hsplit rfl
      cases hcons; exact hbefore older c front hemitted hc

theorem periodRight_of_none {c : Emission} {during : List Emission} (hc : c.Carries ↔ c.working = true)
    (hnone : ∀ m ∈ during, ¬ m.Carries) (henables : c.working = false → ∀ m ∈ during, ¬ m.Enables) :
    PeriodRight c during where
  connected := hc
  later := fun m hm => ⟨fun h => absurd h (hnone m hm), fun h => absurd h.2 (henables h.1 m hm)⟩
  once := by
    have hzero : during.countP (fun m => m.Carries) = 0 := by
      rw [countP_eq_zero]; exact fun m hm h => hnone m hm (of_decide_eq_true h)
    rw [countP_cons, hzero]
    split <;> omega

structure RecordsRight (refs : Nat) (emitted : List Emission) : Prop where
  known : ∀ m ∈ emitted, m.record.dref < refs
  flags : FlagsRight emitted

theorem recordsRight_nil (refs : Nat) : RecordsRight refs [] := by
  refine ⟨fun m hm => absurd hm not_mem_nil, fun older c newer h => ?_⟩
  cases older <;> cases h

theorem RecordsRight.known_append {refs' : Nat} (h : RecordsRight refs emitted) (hrefs : refs ≤ refs')
    (hlt : m.record.dref < refs') : ∀ m' ∈ emitted ++ [m], m'.record.dref < refs' := by
  intro m' hm'
  rcases mem_append.1 hm' with hold | hnew
  · exact lt_of_lt_of_le (h.known m' hold) hrefs
  · rw [mem_singleton.1 hnew]; exact hlt

theorem RecordsRight.append {refs' : Nat} (h : RecordsRight refs emitted) (hrefs : refs ≤ refs')
    (hlt : m.record.dref < refs') (hself : m.Connects → PeriodRight m [])
    (hperiods : ∀ c ∈ emitted, c.Connects → m.record.dref = c.record.dref → m.Disconnects c.record.dref) :
    RecordsRight refs' (emitted ++ [m]) := by
  refine ⟨h.known_append hrefs hlt, flagsRight_append.2 ⟨fun older c newer hsplit hc => ?_, hself⟩⟩
  have hmem : c ∈ emitted := hsplit ▸ mem_append_right older mem_cons_self
  rw [period_append, if_neg fun hin => hin.2.1 (hperiods c hmem hc hin.2.2)]
  exact h.flags older c newer hsplit hc

theorem periodRight_self (hcarries : m.Carries ↔ m.working = true) : PeriodRight m [] :=
  periodRight_of_none hcarries (fun _ hm => absurd hm not_mem_nil) fun _ _ hm => absurd hm not_mem_nil

theorem RecordsRight.adds {emitted' : List Emission} (h : RecordsRight old.allDisplayRefs.length emitted)
    (hrefs : old.allDisplayRefs.length ≤ w.allDisplayRefs.length) (hadds : Adds old w emitted emitted') :
    RecordsRight w.allDisplayRefs.length emitted' := by
  cases hadds with
  | none => exact ⟨fun m hm => lt_of_lt_of_le (h.known m hm) hrefs, h.flags⟩
  | @disconnected e m htype hm =>
    have hnumber : m.record.eventType = ddcaEventDisplayDisconnected := by rw [hm.eventType, htype]; rfl
    refine h.append hrefs (hm.dref ▸ hm.lt) (fun hc => ?_) fun c _ _ hdref => ⟨hnumber, hdref⟩
    exact absurd (hnumber.symm.trans hc) (by decide)
  | @connected e m htype hnew hm =>
    refine h.append hrefs (hm.dref ▸ hm.lt) (fun _ => periodRight_self ?_) fun c hc _ hdref => ?_
    · rw [hm.carries]; exact and_iff_right htype
    · -- the reference is new, so that no event was about it
      have hlt := h.known c hc
      rw [← hdref, hm.dref, hnew] at hlt; exact absurd hlt (Nat.lt_irrefl _)

theorem flagsRight_enabled_iff (h : RecordsRight refs emitted) (henables : m.Enables) (hcarries : ¬ m.Carries) :
    FlagsRight (emitted ++ [m]) ↔ ¬ ConnectedUnworking emitted m.record.dref := by
  have hnotOver : ∀ ndx, ¬ m.Disconnects ndx := fun ndx hover => absurd (henables.symm.trans hover.1) (by decide)
  rw [flagsRight_append]
  constructor
  · rintro ⟨hperiods, -⟩ ⟨older, c, newer, hsplit, hc, hndx, hworking, hopen⟩
    have hright := hperiods older c newer hsplit hc
    rw [hndx, period_append, if_pos ⟨hopen, hnotOver _, rfl⟩] at hright
    have hmem : m ∈ period m.record.dref newer ++ [m] := mem_append_right _ (mem_singleton_self m)
    exact hcarries ((hright.later m hmem).2 ⟨hworking, henables⟩)
  · intro hnot
    refine ⟨fun older c newer hsplit hc => ?_, fun hc => absurd (henables.symm.trans hc) (by decide)⟩
    have hright := h.flags older c newer hsplit hc
    rw [period_append]
    split
    · rename_i hin
      have hworking : c.working ≠ false := fun hfalse => hnot ⟨older, c, newer, hsplit, hc, hin.2.2.symm, hfalse,
        fun m' hm' => hin.2.2.symm ▸ hin.1 m' hm'⟩
      refine ⟨hright.connected, fun m' hm' => ?_, ?_⟩
      · rcases mem_append.1 hm' with hold | hnew
        · exact hright.later m' hold
        · rw [mem_singleton.1 hnew]
          exact ⟨fun hc => absurd hc hcarries, fun hc => absurd hc.1 hworking⟩
      · rw [← cons_append, countP_append, countP_singleton, if_neg (by simpa using hcarries)]
        exact hright.once
    · exact hright

/-! ## A step -/

def NotesChanges (f : Bool × DisplayWorld → Nat → Exec (Bool × DisplayWorld)) : Prop :=
  ∀ acc busno next, f acc busno = .ok next → acc.2.allDisplayRefs.length ≤ next.2.allDisplayRefs.length ∧
    ∀ emitted, ∃ emitted', noteEvents acc.2 next.2 emitted = .ok emitted' ∧ Adds acc.2 next.2 emitted emitted'

theorem notesChanges_remove (found : HotplugFound) : NotesChanges (hotplugRemove found) := fun _ _ _ h =>
  ⟨length_le_of_removed (hotplugRemove_changes h), noteEvents_removed (hotplugRemove_changes h)⟩

theorem notesChanges_add (skipDdcChecks recheck : Bool) (found : HotplugFound) :
    NotesChanges (hotplugAdd skipDdcChecks recheck found) := fun _ _ _ h =>
  ⟨length_le_of_added (hotplugAdd_changes h), noteEvents_added (hotplugAdd_changes h)⟩

theorem noted_all {f : Bool × DisplayWorld → Nat → Exec (Bool × DisplayWorld)} (hf : NotesChanges f) (l : List Nat) :
    ∀ (acc : Bool × DisplayWorld) (emitted : List Emission),
      Prod.fst <$> l.foldlM (noted f) (acc, emitted) = l.foldlM f acc ∧
      ∀ r, l.foldlM (noted f) (acc, emitted) = .ok r → RecordsRight acc.2.allDisplayRefs.length emitted →
        RecordsRight r.1.2.allDisplayRefs.length r.2 := by
  induction l with
  | nil =>
    intro acc emitted
    refine ⟨rfl, fun r h hright => ?_⟩
    cases h; exact hright
  | cons busno l ih =>
    intro acc emitted
    rw [foldlM_cons, foldlM_cons]
    cases hnext : f acc busno with
    | error e =>
      have hnoted : noted f (acc, emitted) busno = .error e := by rw [noted, hnext, error_bind]
      rw [hnoted]; exact ⟨rfl, fun r h => by cases h⟩
    | ok next =>
      obtain ⟨hlen, hnotes⟩ := hf acc busno next hnext
      obtain ⟨emitted', hemitted', hadds⟩ := hnotes emitted
      have hnoted : noted f (acc, emitted) busno = .ok (next, emitted') := by
        rw [noted, hnext, ok_bind, hemitted', ok_bind]
      rw [hnoted, ok_bind, ok_bind]
      obtain ⟨hplain, hright⟩ := ih next emitted'
      exact ⟨hplain, fun r hr h => hright r hr (h.adds hlen hadds)⟩

theorem handleNoted_spec (skipDdcChecks : Bool) (c : HotplugCallArgs) (s : EventSystem) :
    EventSystem.system <$> handleNoted skipDdcChecks c s = watchStep skipDdcChecks s.system (.handle c) ∧
    ∀ t, handleNoted skipDdcChecks c s = .ok t → RecordsRight s.system.world.allDisplayRefs.length s.emitted →
      RecordsRight t.system.world.allDisplayRefs.length t.emitted := by
  obtain ⟨hplain1, hright1⟩ := noted_all (notesChanges_remove c.found) (bs256Iter c.removed) (true, s.system.world)
    s.emitted
  have hwatch : watchStep skipDdcChecks s.system (.handle c) =
      (bs256Iter c.removed).foldlM (hotplugRemove c.found) (true, s.system.world) >>= fun acc =>
        (bs256Iter c.added).foldlM (hotplugAdd skipDdcChecks c.recheck c.found) acc >>= fun acc =>
          .ok { s.system with world := acc.2 } := bind_assoc ..
  rw [hwatch, ← hplain1]
  unfold handleNoted
  cases h1 : (bs256Iter c.removed).foldlM (noted (hotplugRemove c.found)) ((true, s.system.world), s.emitted) with
  | error e => exact ⟨rfl, fun t h => by cases h⟩
  | ok acc =>
    obtain ⟨hplain2, hright2⟩ := noted_all (notesChanges_add skipDdcChecks c.recheck c.found) (bs256Iter c.added) acc.1
      acc.2
    rw [ok_bind, ok_map, ok_bind, ← hplain2]
    cases h2 : (bs256Iter c.added).foldlM (noted (hotplugAdd skipDdcChecks c.recheck c.found)) acc with
    | error e => exact ⟨rfl, fun t h => by cases h⟩
    | ok acc' =>
      refine ⟨rfl, fun t h hright => ?_⟩
      cases h; exact hright2 acc' h2 (hright1 acc h1 hright)

end StatusEvents

end Ddc
