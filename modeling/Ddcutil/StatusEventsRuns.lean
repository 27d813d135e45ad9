import Ddcutil.StatusEvents
/-!
# StatusEventsRuns — the flag over every run of the two threads

No thread is ever about to say that a display is connected from the recheck queue, the records name references that
exist, and their flags are right until the recheck thread says that a display is enabled that was connected without
communication (`statusFlags_right_iff`).
-/
namespace Ddc

open Kit List Exec

namespace StatusEvents

/-! ## What the recheck thread is about to say -/

def NotConnecting (t : RecheckThread) : Prop := ∀ a, t.pos ≠ .emitting a .connected

theorem notConnecting_of_pos {t : RecheckThread} (h : ∀ a eventType, t.pos ≠ .emitting a eventType) : NotConnecting t :=
  fun a => h a .connected

theorem notConnecting_flush (t : RecheckThread) : NotConnecting (flushQueue t) :=
  notConnecting_of_pos fun _ _ h => by cases h

theorem notConnecting_turn {t t' : RecheckThread} {a : Address} {curTimeNanos : UInt64}
    (h : recheckTurn t a curTimeNanos = .ok t') : NotConnecting t' := by
  unfold recheckTurn at h
  split at h
  · cases h; exact notConnecting_flush t
  · obtain ⟨rqe, -, h⟩ := bind_eq_ok.1 h
    split at h
    · cases h; exact notConnecting_of_pos fun _ _ h => by cases h
    · cases h; exact notConnecting_of_pos fun _ _ h => by cases h

theorem notConnecting_pop {t t' : RecheckThread} {curTimeNanos : UInt64} (hpos : NotConnecting t)
    (h : recheckPop t curTimeNanos = .ok t') : NotConnecting t' := by
  unfold recheckPop at h
  split at h
  · split at h
    · cases h; exact notConnecting_flush _
    · cases h; exact hpos
  · exact notConnecting_turn h

theorem notConnecting_settle (t : RecheckThread) (a : Address) (err : Option Status) :
    NotConnecting (recheckSettle t a err) := by
  unfold recheckSettle
  cases err with
  | none => exact fun b h => by cases h
  | some status =>
    dsimp only
    split
    · exact fun b h => by cases h
    · exact notConnecting_of_pos fun _ _ h => by cases h

theorem notConnecting_thread {s s' : WatchSystem} {act : RecheckAct} (hpos : NotConnecting s.thread)
    (hact : act = .terminate ∨ (∃ now, act = .wake now) ∨ act = .pop) (h : threadStep s act = .ok s') :
    NotConnecting s'.thread := by
  obtain ⟨thread, hthread, rfl⟩ := threadStep_eq_ok h
  rcases hact with rfl | ⟨now, rfl⟩ | rfl
  · cases hthread; exact hpos
  · dsimp only [recheckStep] at hthread
    split at hthread
    · cases hthread
      unfold recheckWake
      split
      · exact notConnecting_flush _
      · exact notConnecting_of_pos fun _ _ h => by cases h
    · cases hthread; exact hpos
  · dsimp only [recheckStep] at hthread
    split at hthread
    · exact notConnecting_pop hpos hthread
    · cases hthread; exact hpos

/-! ## Steps that emit nothing -/

structure Quiet (s s' : WatchSystem) : Prop where
  length : s'.world.allDisplayRefs.length = s.world.allDisplayRefs.length
  notConnecting : NotConnecting s.thread → NotConnecting s'.thread

theorem quiet_put (s : WatchSystem) (now : UInt64) : Quiet s (putRecheck s now) := by
  unfold putRecheck
  split
  · exact ⟨rfl, id⟩
  · exact ⟨rfl, fun h => h⟩

theorem quiet_recheck {skipDdcChecks : Bool} {s s' : WatchSystem} {locked : Bool} {found : DdcCheck}
    (h : recheckPopped skipDdcChecks s locked found = .ok s') : Quiet s s' := by
  unfold recheckPopped at h
  split at h
  · obtain ⟨rqe, -, h⟩ := bind_eq_ok.1 h
    obtain ⟨⟨err, world⟩, hchecks, h⟩ := bind_eq_ok.1 h
    cases h
    refine ⟨?_, fun _ => notConnecting_of_pos fun _ _ h => by cases h⟩
    unfold dwRecheckDref at hchecks
    split at hchecks
    · cases hchecks; rfl
    · split at hchecks
      · cases hchecks
      · obtain ⟨⟨err', dref', buses⟩, -, hend⟩ := bind_eq_ok.1 hchecks
        cases hend; exact length_set
  · cases h; exact ⟨rfl, id⟩

theorem length_assignDispno (s : DisplayWorld) (ndx : Nat) (err : Option Status) :
    (assignDispno s ndx err).allDisplayRefs.length = s.allDisplayRefs.length := by
  unfold assignDispno
  split
  · rfl
  · exact length_set
  · split
    · exact length_set
    · rfl

theorem quiet_settle {s s' : WatchSystem} (h : settlePopped s = .ok s') : Quiet s s' := by
  unfold settlePopped at h
  split at h
  · obtain ⟨rqe, -, h⟩ := bind_eq_ok.1 h
    cases h; exact ⟨length_assignDispno _ _ _, fun _ => notConnecting_settle _ _ _⟩
  · cases h; exact ⟨rfl, id⟩

/-! ## Saying what a recheck found -/

theorem emitPopped_cases {s s' : WatchSystem} (h : emitPopped s = .ok s') :
    s'.world.allDisplayRefs = s.world.allDisplayRefs ∧ (NotConnecting s.thread → NotConnecting s'.thread) ∧
      (s'.world.events = s.world.events ∧ (∀ a rqe, s.thread.pos = .emitting a .ddcEnabled →
          s.thread.entries.cells a = some rqe → s.world.allDisplayRefs.length ≤ rqe.dref) ∨
        ∃ a rqe eventType dref, s.thread.pos = .emitting a eventType ∧ s.thread.entries.cells a = some rqe ∧
          s.world.allDisplayRefs[rqe.dref]? = some dref ∧
          s'.world.events = s.world.events ++ [⟨eventType, rqe.dref, dref.ioPath⟩]) := by
  unfold emitPopped at h
  split at h
  · rename_i a eventType hpos
    obtain ⟨rqe, hread, h⟩ := bind_eq_ok.1 h
    rw [readEntry_eq_ok] at hread
    cases h
    unfold emitEvent
    cases hdref : s.world.allDisplayRefs[rqe.dref]? with
    | none =>
      refine ⟨rfl, fun _ => notConnecting_of_pos fun _ _ h => (by cases h), .inl ⟨rfl, fun b rqe' hb hrqe' => ?_⟩⟩
      rw [hpos] at hb
      cases hb
      rw [hread] at hrqe'
      cases hrqe'; exact List.getElem?_eq_none_iff.1 hdref
    | some dref =>
      exact ⟨rfl, fun _ => notConnecting_of_pos fun _ _ h => (by cases h),
        .inr ⟨a, rqe, eventType, dref, hpos, hread, hdref, rfl⟩⟩
  · rename_i hpos
    cases h; exact ⟨rfl, id, .inl ⟨rfl, fun a _ ha => absurd ha (hpos a _)⟩⟩

structure EventInv (s : EventSystem) : Prop where
  records : RecordsRight s.system.world.allDisplayRefs.length s.emitted
  notConnecting : NotConnecting s.system.thread

theorem eventInv_start {s : EventSystem} (h : EventStart s) : EventInv s := by
  refine ⟨h.emitted ▸ recordsRight_nil _, fun a hpos => ?_⟩
  rw [h.system.thread] at hpos; cases hpos

theorem ConnectedUnworking.lt {refs : Nat} {emitted : List Emission} (h : RecordsRight refs emitted) {ndx : Nat}
    (hconnected : ConnectedUnworking emitted ndx) : ndx < refs := by
  obtain ⟨older, c, newer, rfl, -, rfl, -⟩ := hconnected
  exact h.known c (mem_append_right older mem_cons_self)

theorem noteEvents_emit {s s' : WatchSystem} (h : emitPopped s = .ok s') (emitted : List Emission) :
    ∃ emitted', noteEvents s.world s'.world emitted = .ok emitted' := by
  obtain ⟨hrefs, -, hcases⟩ := emitPopped_cases h
  rcases hcases with ⟨hsame, -⟩ | ⟨a, rqe, eventType, dref, -, -, hdref, hevents⟩
  · exact ⟨emitted, noteEvents_same hsame emitted⟩
  · obtain ⟨m, hm, -⟩ := noteEvents_one hevents (hrefs ▸ hdref) emitted
    exact ⟨_, hm⟩

theorem eventStep_system (skipDdcChecks : Bool) (s : EventSystem) (act : WatchAct) :
    EventSystem.system <$> eventStep skipDdcChecks s act = watchStep skipDdcChecks s.system act := by
  have hother : ∀ act', EventSystem.system <$> (watchStep skipDdcChecks s.system act' >>= fun system =>
      (Except.ok ⟨system, s.emitted⟩ : Exec EventSystem)) = watchStep skipDdcChecks s.system act' := by
    intro act'
    cases watchStep skipDdcChecks s.system act' <;> rfl
  cases act with
  | handle c => exact (handleNoted_spec skipDdcChecks c s).1
  | emit =>
    unfold eventStep watchStep
    cases h : emitPopped s.system with
    | error e => rfl
    | ok system =>
      obtain ⟨emitted', hemitted'⟩ := noteEvents_emit h s.emitted
      rw [ok_bind, hemitted', ok_bind, ok_map]
  | put now => exact hother (.put now)
  | terminate => exact hother .terminate
  | wake now => exact hother (.wake now)
  | pop => exact hother .pop
  | recheck locked found => exact hother (.recheck locked found)
  | settle => exact hother .settle

theorem EventInv.quiet {s : EventSystem} (h : EventInv s) {system : WatchSystem} (hquiet : Quiet s.system system) :
    EventInv ⟨system, s.emitted⟩ :=
  ⟨hquiet.length ▸ h.records, hquiet.notConnecting h.notConnecting⟩

theorem EventInv.emit {s t : EventSystem} (h : EventInv s) {skipDdcChecks : Bool}
    (hrun : eventStep skipDdcChecks s .emit = .ok t) :
    (FlagsRight t.emitted ↔ NotEnabledLater s .emit) ∧ (FlagsRight t.emitted → EventInv t) := by
  obtain ⟨system, hsystem, hrun⟩ := bind_eq_ok.1 hrun
  obtain ⟨emitted, hemitted, hrun⟩ := bind_eq_ok.1 hrun
  cases hrun
  obtain ⟨hrefs, hpos', hcases⟩ := emitPopped_cases hsystem
  have hinv : (∀ m ∈ emitted, m.record.dref < s.system.world.allDisplayRefs.length) → FlagsRight emitted →
      EventInv ⟨system, emitted⟩ := by
    intro hknown hflags
    refine ⟨?_, hpos' h.notConnecting⟩
    rw [hrefs]; exact ⟨hknown, hflags⟩
  rcases hcases with ⟨hsame, habsent⟩ | ⟨a, rqe, eventType, dref, hpos, hread, hdref, hevents⟩
  · rw [noteEvents_same hsame] at hemitted
    cases hemitted
    refine ⟨iff_of_true h.records.flags fun a rqe hpos hread hconnected => ?_, hinv h.records.known⟩
    exact absurd (hconnected.lt h.records) (Nat.not_lt_of_le (habsent a rqe hpos hread))
  · obtain ⟨m, hm, hrecord⟩ := noteEvents_one hevents (hrefs ▸ hdref) s.emitted
    rw [hm] at hemitted
    cases hemitted
    have hmdref : m.record.dref = rqe.dref := hrecord.dref
    have hlt : m.record.dref < s.system.world.allDisplayRefs.length := by
      rw [hmdref]; exact (List.getElem?_eq_some_iff.1 hdref).1
    refine ⟨?_, hinv (h.records.known_append (Nat.le_refl _) hlt)⟩
    cases eventType with
    | connected => exact absurd hpos (h.notConnecting a)
    | disconnected =>
      have hnumber : m.record.eventType = ddcaEventDisplayDisconnected := hrecord.eventType
      have hflags := (h.records.append (Nat.le_refl _) hlt (fun hc => absurd (hnumber.symm.trans hc) (by decide))
        fun c _ _ hc => ⟨hnumber, hc⟩).flags
      refine iff_of_true hflags fun b rqe' hb => ?_
      rw [hpos] at hb; cases hb
    | ddcEnabled =>
      have hcarries : ¬ m.Carries := by
        intro hc
        have htype := (hrecord.carries.1 hc).1
        cases htype
      rw [flagsRight_enabled_iff h.records hrecord.eventType hcarries, hmdref]
      constructor
      · intro hnot b rqe' hb hread'
        rw [hpos] at hb
        cases hb
        rw [hread] at hread'
        cases hread'; exact hnot
      · exact fun hmeets => hmeets a rqe hpos hread

/-- **One step**: it leaves the flags right exactly if the condition holds, and then the invariant too. -/
theorem EventInv.step {s t : EventSystem} (h : EventInv s) {skipDdcChecks : Bool} {act : WatchAct}
    (hrun : eventStep skipDdcChecks s act = .ok t) :
    (FlagsRight t.emitted ↔ NotEnabledLater s act) ∧ (FlagsRight t.emitted → EventInv t) := by
  have hother : ∀ {system : WatchSystem}, Quiet s.system system → t = ⟨system, s.emitted⟩ →
      (FlagsRight t.emitted ↔ True) ∧ (FlagsRight t.emitted → EventInv t) := by
    rintro system hquiet rfl
    exact ⟨iff_true_intro h.records.flags, fun _ => h.quiet hquiet⟩
  cases act with
  | handle c =>
    have hrecords := (handleNoted_spec skipDdcChecks c s).2 t hrun h.records
    refine ⟨iff_true_intro hrecords.flags, fun _ => ⟨hrecords, ?_⟩⟩
    obtain ⟨acc, -, hrun⟩ := bind_eq_ok.1 hrun
    obtain ⟨acc', -, hrun⟩ := bind_eq_ok.1 hrun
    cases hrun; exact h.notConnecting
  | emit => exact h.emit hrun
  | put now =>
    obtain ⟨system, hsystem, hrun⟩ := bind_eq_ok.1 hrun
    cases hsystem; exact hother (quiet_put s.system now) (Except.ok.inj hrun).symm
  | terminate =>
    obtain ⟨system, hsystem, hrun⟩ := bind_eq_ok.1 hrun
    obtain ⟨thread, -, hthread⟩ := threadStep_eq_ok hsystem
    exact hother ⟨hthread ▸ rfl, fun hpos => notConnecting_thread hpos (.inl rfl) hsystem⟩ (Except.ok.inj hrun).symm
  | wake now =>
    obtain ⟨system, hsystem, hrun⟩ := bind_eq_ok.1 hrun
    obtain ⟨thread, -, hthread⟩ := threadStep_eq_ok hsystem
    exact hother ⟨hthread ▸ rfl, fun hpos => notConnecting_thread hpos (.inr (.inl ⟨now, rfl⟩)) hsystem⟩
      (Except.ok.inj hrun).symm
  | pop =>
    obtain ⟨system, hsystem, hrun⟩ := bind_eq_ok.1 hrun
    obtain ⟨thread, -, hthread⟩ := threadStep_eq_ok hsystem
    exact hother ⟨hthread ▸ rfl, fun hpos => notConnecting_thread hpos (.inr (.inr rfl)) hsystem⟩
      (Except.ok.inj hrun).symm
  | recheck locked found =>
    obtain ⟨system, hsystem, hrun⟩ := bind_eq_ok.1 hrun
    exact hother (quiet_recheck hsystem) (Except.ok.inj hrun).symm
  | settle =>
    obtain ⟨system, hsystem, hrun⟩ := bind_eq_ok.1 hrun
    exact hother (quiet_settle hsystem) (Except.ok.inj hrun).symm

theorem EventInv.stepRight_iff {s : EventSystem} (h : EventInv s) (skipDdcChecks : Bool) (act : WatchAct) :
    StepRight skipDdcChecks s act ↔ NotEnabledLater s act := by
  have hsystem := eventStep_system skipDdcChecks s act
  constructor
  · intro hright
    cases hrun : eventStep skipDdcChecks s act with
    | ok t => exact (h.step hrun).1.1 (hright.flags t hrun)
    | error e =>
      -- the entry of a thread that is about to emit is gone
      cases act with
      | emit =>
        intro a rqe hpos hread
        rw [hrun] at hsystem
        have hread' : readEntry s.system.thread.entries a = .ok rqe := readEntry_eq_ok.2 hread
        unfold watchStep emitPopped at hsystem
        simp only [hpos, hread'] at hsystem; cases hsystem
      | handle | put | terminate | wake | pop | recheck | settle => trivial
  · intro hmeets
    refine ⟨fun e hrun => ?_, fun t hrun => (h.step hrun).1.2 hmeets⟩
    rw [← hsystem, hrun]; rfl

/-- **The flags of the status events are right along a run** exactly if the recheck thread never says of a display that
was connected without communication that it is enabled. -/
theorem statusFlags_right_iff (skipDdcChecks : Bool) {s : EventSystem} (h : EventStart s) (acts : List WatchAct) :
    AllAlong (eventStep skipDdcChecks) (StepRight skipDdcChecks) s acts ↔
      AllAlong (eventStep skipDdcChecks) NotEnabledLater s acts :=
  AllAlong.congr (fun _ act hinv => hinv.stepRight_iff skipDdcChecks act)
    (fun _ _ _ hinv hright hrun => (hinv.step hrun).2 (hright.flags _ hrun)) (eventInv_start h)

/-! ## A display whose communication works later -/

def noneEmitted : EventSystem := ⟨noWatched, []⟩

theorem noneEmitted_start : EventStart noneEmitted := ⟨noWatched_start, rfl⟩

def recordsOf (r : Exec EventSystem) : Option (List Emission) :=
  match r with
  | .ok s => some s.emitted
  | .error _ => none

theorem recordsOf_eq_some {r : Exec EventSystem} {emitted : List Emission} (h : recordsOf r = some emitted) :
    ∃ s, r = .ok s ∧ s.emitted = emitted := by
  cases r with
  | error e => cases h
  | ok s => exact ⟨s, rfl, Option.some.inj h⟩

theorem flagsRight_of_allAlong {skipDdcChecks : Bool} {s t : EventSystem} {acts : List WatchAct} {act : WatchAct}
    (h : AllAlong (eventStep skipDdcChecks) (StepRight skipDdcChecks) s (acts ++ [act]))
    (hrun : (acts ++ [act]).foldlM (eventStep skipDdcChecks) s = .ok t) : FlagsRight t.emitted := by
  rw [foldlM_append] at hrun
  obtain ⟨u, hu, hrun⟩ := bind_eq_ok.1 hrun
  obtain ⟨v, hv, hrun⟩ := bind_eq_ok.1 hrun
  have htv : v = t := Except.ok.inj hrun
  exact (h.last hu).flags t (htv ▸ hv)

def connectedEmission (working : Bool) : Emission :=
  ⟨⟨ddcaEventDisplayConnected, .i2c 4, "", 0, if working then 0x08 else 0⟩, working⟩

def enabledEmission : Emission := ⟨⟨ddcaEventDdcEnabled, .i2c 4, "", 0, 0⟩, true⟩

/-- A display is plugged in whose communication does not work at first and works when it is checked again. -/
def enabledLater : List WatchAct := .handle (plugIn ddcrcRetries) :: recheckedWorking

/-- **The flag is on neither of the two events.** -/
theorem enabled_without_flag :
    ¬ AllAlong (eventStep false) (StepRight false) noneEmitted (enabledLater ++ [.emit]) := by
  intro h
  have hrun : recordsOf ((enabledLater ++ [WatchAct.emit]).foldlM (eventStep false) noneEmitted) =
      some [connectedEmission false, enabledEmission] := by decide +kernel
  obtain ⟨t, ht, hemitted⟩ := recordsOf_eq_some hrun
  have hflags := flagsRight_of_allAlong h ht
  rw [hemitted] at hflags
  have hright := hflags [] (connectedEmission false) [enabledEmission] rfl rfl
  have hcarries := (hright.later enabledEmission (by decide)).2 ⟨rfl, rfl⟩
  exact absurd hcarries (by decide)

/-- **The flag is on the CONNECTED event** where communication works from the start. -/
theorem connected_with_flag :
    AllAlong (eventStep false) (StepRight false) noneEmitted [.handle (plugIn 0)] ∧
      recordsOf ([WatchAct.handle (plugIn 0)].foldlM (eventStep false) noneEmitted) = some [connectedEmission true] := by
  refine ⟨(statusFlags_right_iff false noneEmitted_start [.handle (plugIn 0)]).2 ⟨trivial, fun _ _ => trivial⟩, ?_⟩
  decide +kernel

end StatusEvents

end Ddc
