import Ddcutil.Kit.Pool
import Ddcutil.Kit.Runs
import Ddcutil.Status
import Mathlib.Data.Finset.Basic
/-!
# OpenDisplays — the displays a thread has open

`ddc_open_display` and `ddc_close_display` keep two collections of handles: `open_displays`, of all threads, and
`open_displays_for_thread`, an array that exists while it is not empty.  Here is one thread, and the handles are
memory that is allocated and freed.
-/
namespace Ddc

open Kit List Exec Function

/-- **`Display_Ref`**, as far as opening it reads and changes it: `detail` is the bus info, and whether that has an
EDID. -/
structure OpenDref where
  ioPath : IoPath
  removed : Bool
  detail : Option Bool
  hasPedid : Bool
  isOpen : Bool

structure HandleRecord where
  fd : Int
  dref : Nat

inductive OpenEvent where
  | opened (dh : Address)
  | closed (dh : Address)
  deriving DecidableEq

structure OpenDisplays where
  drefs : Nat → OpenDref
  handles : Heap HandleRecord
  openDisplays : Finset Address
  openDisplaysForThread : Option (List Address)
  log : List OpenEvent

/-- What the system answers when a display is opened: whether the connector stays disconnected, the file descriptor or
the error, and for USB whether there is an EDID. -/
structure OpenOutcome where
  drmDisconnected : Bool
  fd : Except Status Nat
  usbHasEdid : Bool

def addOpenDisplayForCurrentThread (openDisplaysForThread : Option (List Address)) (dh : Address) :
    Option (List Address) :=
  match openDisplaysForThread with
  | none => some [dh]
  | some dhs => some (if dh ∈ dhs then dhs else dhs ++ [dh])

def removeOpenDisplayForCurrentThread (openDisplaysForThread : Option (List Address)) (dh : Address) :
    Option (List Address) :=
  match openDisplaysForThread with
  | none => none
  | some dhs => if dhs.erase dh = [] then none else some (dhs.erase dh)

/-! ## Open and close -/

def openedDref (d : OpenDref) (hasEdid : Bool) : OpenDref :=
  { d with hasPedid := d.hasPedid || hasEdid, isOpen := true }

def openHandle (s : OpenDisplays) (dref fd : Nat) (hasEdid : Bool) : Exec (Address × OpenDisplays) := do
  check ((openedDref (s.drefs dref) hasEdid).hasPedid = true)
  let dh := s.handles.next
  .ok (dh, {
    drefs := update s.drefs dref (openedDref (s.drefs dref) hasEdid)
    handles := s.handles.alloc ⟨fd, dref⟩
    openDisplays := insert dh s.openDisplays
    openDisplaysForThread := addOpenDisplayForCurrentThread s.openDisplaysForThread dh
    log := s.log ++ [.opened dh] })

def ddcOpenDisplay (s : OpenDisplays) (dref : Nat) (outcome : OpenOutcome) :
    Exec (Except ErrorInfo Address × OpenDisplays) :=
  if (s.drefs dref).removed = true then .ok (.error (errinfoNew ddcrcDisconnected "ddc_open_display"), s)
  else
    match (s.drefs dref).detail with
    | none => .ok (.error (errinfoNew ddcrcDisconnected "ddc_open_display"),
        { s with drefs := update s.drefs dref { s.drefs dref with removed := true } })
    | some hasEdid =>
      if outcome.drmDisconnected = true then .ok (.error (errinfoNew ddcrcDisconnected "ddc_open_display"), s)
      else
        match (s.drefs dref).ioPath, outcome.fd with
        | .i2c _, .error status =>
          if hasEdid = true then
            .ok (.error (errinfoNewWithCauses status [errinfoNew status "i2c_open_bus"] "ddc_open_display"), s)
          else .ok (.error (errinfoNew ddcrcEdid "ddc_open_display"), s)
        | .i2c _, .ok fd =>
          if hasEdid = true then do
            let r ← openHandle s dref fd hasEdid
            .ok (.ok r.1, r.2)
          else .ok (.error (errinfoNew ddcrcEdid "ddc_open_display"), s)
        | .usb _, .error status => .ok (.error (errinfoNew status "ddc_open_display"), s)
        | .usb _, .ok fd => do
          let r ← openHandle s dref fd outcome.usbHasEdid
          .ok (.ok r.1, r.2)

def readHandle (handles : Heap HandleRecord) (dh : Address) : Exec HandleRecord :=
  match handles.cells dh with
  | some h => .ok h
  | none => .error .outOfBounds

def ddcCloseDisplay (s : OpenDisplays) (dh : Address) (rc : Status) : Exec (Option ErrorInfo × OpenDisplays) := do
  let h ← readHandle s.handles dh
  let err :=
    if h.fd = -1 then some (errinfoNew ddcrcInvalidOperation "ddc_close_display")
    else if rc ≠ 0 then some (errinfoNew rc "ddc_close_display")
    else none
  .ok (err, {
    drefs := update s.drefs h.dref { s.drefs h.dref with isOpen := false }
    handles := s.handles.free dh
    openDisplays := s.openDisplays.erase dh
    openDisplaysForThread := removeOpenDisplayForCurrentThread s.openDisplaysForThread dh
    log := s.log ++ [.closed dh] })

/-- The loop of `ddc_close_all_displays_for_current_thread` from an index on: its condition reads the length of the
array each time. -/
def closeFrom (rcs : Address → Status) : Nat → Nat → OpenDisplays → Exec OpenDisplays
  | 0, _, _ => .error .outOfFuel
  | fuel + 1, ndx, s =>
    match s.openDisplaysForThread with
    | none => .error .nullDeref
    | some dhs =>
      match dhs[ndx]? with
      | none => .ok s
      | some dh => do
        let r ← ddcCloseDisplay s dh (rcs dh)
        closeFrom rcs fuel (ndx + 1) r.2

def ddcCloseAllDisplaysForCurrentThread (s : OpenDisplays) (rcs : Address → Status) : Exec OpenDisplays :=
  match s.openDisplaysForThread with
  | none => .ok s
  | some dhs => closeFrom rcs (dhs.length + 1) 0 s

inductive OpenCall where
  | openDisplay (dref : Nat) (outcome : OpenOutcome)
  | closeDisplay (dh : Address) (rc : Status)
  | closeAll (rcs : Address → Status)

def openStep (s : OpenDisplays) : OpenCall → Exec OpenDisplays
  | .openDisplay dref outcome => do
    let r ← ddcOpenDisplay s dref outcome
    .ok r.2
  | .closeDisplay dh rc => do
    let r ← ddcCloseDisplay s dh rc
    .ok r.2
  | .closeAll rcs => ddcCloseAllDisplaysForCurrentThread s rcs

def openHandles (log : List OpenEvent) : Finset Address :=
  log.foldl (fun dhs e => match e with
    | .opened dh => insert dh dhs
    | .closed dh => dhs.erase dh) ∅

def OpenCallable (s : OpenDisplays) : OpenCall → Prop
  | .openDisplay _ _ => True
  | .closeDisplay dh _ => dh ∈ openHandles s.log
  | .closeAll _ => True

def noOpenDisplays (drefs : Nat → OpenDref) : OpenDisplays :=
  ⟨drefs, ⟨fun _ => none, 0, fun _ _ => rfl⟩, ∅, none, []⟩

def OpenReachable : OpenDisplays → Prop := Reachable (fun s => ∃ drefs, s = noOpenDisplays drefs) OpenCallable openStep

def threadHandles (s : OpenDisplays) : List Address := s.openDisplaysForThread.getD []

/-- **Both collections are the handles opened and not yet closed.** -/
structure HandlesAgree (s : OpenDisplays) : Prop where
  global : s.openDisplays = openHandles s.log
  nodup : (threadHandles s).Nodup
  thread : ∀ dh, dh ∈ threadHandles s ↔ dh ∈ openHandles s.log

def ClosesAll (s : OpenDisplays) (rcs : Address → Status) : Prop :=
  ∃ s' events, ddcCloseAllDisplaysForCurrentThread s rcs = .ok s' ∧ s'.log = s.log ++ events ∧
    (∀ dh ∈ openHandles s.log, events.count (.closed dh) = 1) ∧ threadHandles s' = []

/-! ## The invariant -/

structure OpenInv (s : OpenDisplays) : Prop where
  agree : HandlesAgree s
  nonempty : s.openDisplaysForThread ≠ some []
  live : ∀ dh ∈ openHandles s.log, (s.handles.cells dh).isSome = true

theorem openHandles_opened (log : List OpenEvent) (dh : Address) :
    openHandles (log ++ [.opened dh]) = insert dh (openHandles log) := by
  unfold openHandles
  rw [foldl_append, foldl_cons, foldl_nil]

theorem openHandles_closed (log : List OpenEvent) (dh : Address) :
    openHandles (log ++ [.closed dh]) = (openHandles log).erase dh := by
  unfold openHandles
  rw [foldl_append, foldl_cons, foldl_nil]

theorem threadHandles_remove (dhs : Option (List Address)) (dh : Address) :
    (removeOpenDisplayForCurrentThread dhs dh).getD [] = (dhs.getD []).erase dh := by
  unfold removeOpenDisplayForCurrentThread
  cases dhs with
  | none => rfl
  | some dhs =>
    dsimp only
    split
    · rename_i hnil; exact hnil.symm
    · rfl

variable {dh : Address} {s : OpenDisplays}

theorem threadHandles_add {dhs : Option (List Address)} (h : dh ∉ dhs.getD []) :
    (addOpenDisplayForCurrentThread dhs dh).getD [] = dhs.getD [] ++ [dh] := by
  unfold addOpenDisplayForCurrentThread
  cases dhs with
  | none => rfl
  | some dhs =>
    rw [Option.getD_some] at h
    rw [Option.getD_some, Option.getD_some, if_neg h]

section
variable (hinv : OpenInv s)
include hinv

theorem not_open_next : s.handles.next ∉ openHandles s.log := by
  intro h
  have hlive := hinv.live _ h
  rw [s.handles.fresh _ (Nat.le_refl _)] at hlive; cases hlive

theorem openHandle_spec {dref fd : Nat} {hasEdid : Bool} {r : Address × OpenDisplays}
    (h : openHandle s dref fd hasEdid = .ok r) : OpenInv r.2 := by
  have hnext := not_open_next hinv
  have hthread : s.handles.next ∉ threadHandles s := mt (hinv.agree.thread _).1 hnext
  obtain ⟨-, -, h⟩ := bind_eq_ok.1 h
  cases h
  have hadd := threadHandles_add hthread
  refine ⟨⟨?_, ?_, fun dh => ?_⟩, ?_, fun dh hdh => ?_⟩
  · rw [openHandles_opened, hinv.agree.global]
  · change ((addOpenDisplayForCurrentThread s.openDisplaysForThread s.handles.next).getD []).Nodup
    rw [hadd, nodup_append]
    refine ⟨hinv.agree.nodup, nodup_singleton _, fun a ha b hb => ?_⟩
    rw [mem_singleton.1 hb]; exact fun heq => hthread (heq ▸ ha)
  · change dh ∈ (addOpenDisplayForCurrentThread s.openDisplaysForThread s.handles.next).getD [] ↔ _
    rw [hadd, openHandles_opened, mem_append, mem_singleton, Finset.mem_insert, or_comm]
    exact or_congr .rfl (hinv.agree.thread dh)
  · intro hnil
    have hempty : (addOpenDisplayForCurrentThread s.openDisplaysForThread s.handles.next).getD [] = [] := by
      dsimp only at hnil
      rw [hnil]; rfl
    rw [hadd] at hempty; exact append_ne_nil_of_right_ne_nil _ (cons_ne_nil _ _) hempty
  · rw [openHandles_opened, Finset.mem_insert] at hdh
    rcases hdh with rfl | hdh
    · rw [Heap.alloc_self]; rfl
    · have hne : dh ≠ s.handles.next := fun heq => hnext (heq ▸ hdh)
      rw [Heap.alloc_other _ _ hne]; exact hinv.live dh hdh

theorem ddcOpenDisplay_inv {dref : Nat} {outcome : OpenOutcome} {r : Except ErrorInfo Address × OpenDisplays}
    (h : ddcOpenDisplay s dref outcome = .ok r) : OpenInv r.2 := by
  have hdrefs : ∀ drefs, OpenInv { s with drefs := drefs } := fun drefs =>
    ⟨⟨hinv.agree.global, hinv.agree.nodup, hinv.agree.thread⟩, hinv.nonempty, hinv.live⟩
  unfold ddcOpenDisplay at h
  split at h
  · cases h; exact hinv
  split at h
  · cases h; exact hdrefs _
  split at h
  · cases h; exact hinv
  split at h
  · split at h
    · cases h; exact hinv
    · cases h; exact hinv
  · split at h
    · obtain ⟨r', hr', h⟩ := bind_eq_ok.1 h
      cases h; exact openHandle_spec hinv hr'
    · cases h; exact hinv
  · cases h; exact hinv
  · obtain ⟨r', hr', h⟩ := bind_eq_ok.1 h
    cases h; exact openHandle_spec hinv hr'

theorem ddcCloseDisplay_spec (hdh : dh ∈ openHandles s.log) (rc : Status) :
    ∃ err s', ddcCloseDisplay s dh rc = .ok (err, s') ∧ OpenInv s' ∧ s'.log = s.log ++ [.closed dh] ∧
      s'.openDisplaysForThread = removeOpenDisplayForCurrentThread s.openDisplaysForThread dh := by
  obtain ⟨h, hh⟩ := Option.isSome_iff_exists.1 (hinv.live dh hdh)
  have hread : readHandle s.handles dh = .ok h := by rw [readHandle, hh]
  rw [ddcCloseDisplay, hread, ok_bind]
  refine ⟨_, _, rfl, ⟨⟨?_, ?_, fun dh' => ?_⟩, ?_, fun dh' hdh' => ?_⟩, rfl, rfl⟩
  · rw [openHandles_closed, hinv.agree.global]
  · change ((removeOpenDisplayForCurrentThread s.openDisplaysForThread dh).getD []).Nodup
    rw [threadHandles_remove]; exact hinv.agree.nodup.erase dh
  · change dh' ∈ (removeOpenDisplayForCurrentThread s.openDisplaysForThread dh).getD [] ↔ _
    rw [threadHandles_remove, openHandles_closed, Finset.mem_erase]
    refine Iff.trans ?_ (and_congr .rfl (hinv.agree.thread dh'))
    exact hinv.agree.nodup.mem_erase_iff
  · unfold removeOpenDisplayForCurrentThread
    split
    · exact fun hnil => nomatch hnil
    · split
      · exact fun hnil => nomatch hnil
      · rename_i hne; exact fun hnil => hne (Option.some.inj hnil)
  · rw [openHandles_closed, Finset.mem_erase] at hdh'
    rw [Heap.free_other _ hdh'.1]; exact hinv.live dh' hdh'.2

theorem openHandles_eq_empty : openHandles s.log = ∅ ↔ s.openDisplaysForThread = none := by
  constructor
  · intro hempty
    have hnil : threadHandles s = [] := by
      apply eq_nil_iff_forall_not_mem.2
      intro dh hdh
      rw [hinv.agree.thread, hempty] at hdh; exact Finset.notMem_empty _ hdh
    unfold threadHandles at hnil
    cases hdhs : s.openDisplaysForThread with
    | none => rfl
    | some dhs =>
      rw [hdhs, Option.getD_some] at hnil; exact absurd (hnil ▸ hdhs) hinv.nonempty
  · intro hnone
    apply Finset.eq_empty_of_forall_notMem
    intro dh hdh
    rw [← hinv.agree.thread] at hdh
    unfold threadHandles at hdh
    rw [hnone] at hdh; exact not_mem_nil hdh

end

/-! ## The loop over the array that its own body shortens -/

theorem closeFrom_round (rcs : Address → Status) (fuel : Nat) {ndx : Nat} {dhs : List Address} (hinv : OpenInv s)
    (hdhs : s.openDisplaysForThread = some dhs) (hndx : ndx < dhs.length) :
    ∃ s', closeFrom rcs (fuel + 1) ndx s = closeFrom rcs fuel (ndx + 1) s' ∧ OpenInv s' ∧
      s'.log = s.log ++ [.closed dhs[ndx]] ∧
      s'.openDisplaysForThread = removeOpenDisplayForCurrentThread (some dhs) dhs[ndx] := by
  have hmem : dhs[ndx] ∈ threadHandles s := by rw [threadHandles, hdhs]; exact getElem_mem hndx
  obtain ⟨err, s', hclose, hinv', hlog, hthread⟩ :=
    ddcCloseDisplay_spec hinv ((hinv.agree.thread _).1 hmem) (rcs dhs[ndx])
  refine ⟨s', ?_, hinv', hlog, hdhs ▸ hthread⟩
  rw [closeFrom, hdhs]
  dsimp only
  rw [getElem?_eq_getElem hndx]
  dsimp only
  rw [hclose, ok_bind]

/-- **The loop skips every other handle**: where that leaves one, it ends with about half of the array. -/
theorem closeFrom_spec (rcs : Address → Status) (fuel : Nat) :
    ∀ (ndx : Nat) {s : OpenDisplays} {dhs : List Address}, OpenInv s → s.openDisplaysForThread = some dhs →
      (dhs.length - ndx + 1) / 2 < dhs.length → dhs.length - ndx < fuel →
      ∃ s', closeFrom rcs fuel ndx s = .ok s' ∧ OpenInv s' ∧
        (threadHandles s').length = dhs.length - (dhs.length - ndx + 1) / 2 := by
  induction fuel with
  | zero =>
    omega
  | succ fuel ih =>
    intro ndx s dhs hinv hdhs hleft hfuel
    rcases Nat.lt_or_ge ndx dhs.length with hndx | hndx
    · obtain ⟨s', heq, hinv', -, hthread⟩ := closeFrom_round rcs fuel hinv hdhs hndx
      have hlen : (dhs.erase dhs[ndx]).length = dhs.length - 1 := length_erase_of_mem (getElem_mem hndx)
      have hne : dhs.erase dhs[ndx] ≠ [] := by
        intro hnil
        rw [hnil, length_nil] at hlen; omega
      have hdhs' : s'.openDisplaysForThread = some (dhs.erase dhs[ndx]) := by
        rw [hthread]; exact if_neg hne
      obtain ⟨t, ht, htinv, htlen⟩ := ih (ndx + 1) hinv' hdhs' (by omega) (by omega)
      refine ⟨t, heq.trans ht, htinv, ?_⟩
      omega
    · refine ⟨s, ?_, hinv, ?_⟩
      · rw [closeFrom, hdhs]
        dsimp only
        rw [getElem?_eq_none hndx]
      · rw [threadHandles, hdhs, Option.getD_some]; omega

theorem closeAll_one (hinv : OpenInv s) (hdhs : s.openDisplaysForThread = some [dh]) (rcs : Address → Status) :
    ddcCloseAllDisplaysForCurrentThread s rcs = .error .nullDeref := by
  rw [ddcCloseAllDisplaysForCurrentThread, hdhs]
  obtain ⟨s', heq, -, -, hthread⟩ :=
    closeFrom_round rcs 1 hinv hdhs (Nat.lt_succ_self 0)
  have hnone : s'.openDisplaysForThread = none := by
    rw [hthread]; exact if_pos (erase_cons_head dh [])
  refine heq.trans ?_
  rw [closeFrom, hnone]

theorem closeAll_several (hinv : OpenInv s) {dhs : List Address} (hdhs : s.openDisplaysForThread = some dhs)
    (hlen : 2 ≤ dhs.length) (rcs : Address → Status) :
    ∃ s', ddcCloseAllDisplaysForCurrentThread s rcs = .ok s' ∧ OpenInv s' ∧
      (threadHandles s').length = dhs.length / 2 := by
  rw [ddcCloseAllDisplaysForCurrentThread, hdhs]
  obtain ⟨s', hs', hinv', hlen'⟩ :=
    closeFrom_spec rcs (dhs.length + 1) 0 hinv hdhs (by omega) (by omega)
  refine ⟨s', hs', hinv', ?_⟩
  omega

theorem closeAll_cases (hinv : OpenInv s) (rcs : Address → Status) :
    (s.openDisplaysForThread = none ∧ ddcCloseAllDisplaysForCurrentThread s rcs = .ok s) ∨
    ddcCloseAllDisplaysForCurrentThread s rcs = .error .nullDeref ∨
    ∃ s', ddcCloseAllDisplaysForCurrentThread s rcs = .ok s' ∧ OpenInv s' ∧ threadHandles s' ≠ [] := by
  cases hdhs : s.openDisplaysForThread with
  | none =>
    refine .inl ⟨rfl, ?_⟩
    rw [ddcCloseAllDisplaysForCurrentThread, hdhs]
  | some dhs =>
    refine .inr ?_
    match dhs, hdhs with
    | [], hdhs => exact absurd hdhs hinv.nonempty
    | [_], hdhs => exact .inl (closeAll_one hinv hdhs rcs)
    | a :: b :: rest, hdhs =>
      obtain ⟨s', hs', hinv', hlen⟩ := closeAll_several hinv hdhs (Nat.le_add_left 2 _) rcs
      refine .inr ⟨s', hs', hinv', fun hnil => ?_⟩
      rw [hnil, length_cons, length_cons, length_nil] at hlen; omega

/-! ## Runs keep the collections right -/

theorem openInv_start (drefs : Nat → OpenDref) : OpenInv (noOpenDisplays drefs) :=
  ⟨⟨rfl, nodup_nil, fun _ => ⟨fun h => absurd h not_mem_nil, fun h => absurd h (Finset.notMem_empty _)⟩⟩,
    (fun h => nomatch h), fun _ h => absurd h (Finset.notMem_empty _)⟩

theorem openStep_inv {s' : OpenDisplays} {call : OpenCall} (hinv : OpenInv s) (hcall : OpenCallable s call)
    (h : openStep s call = .ok s') : OpenInv s' := by
  cases call with
  | openDisplay dref outcome =>
    obtain ⟨r, hr, h⟩ := bind_eq_ok.1 h
    cases h; exact ddcOpenDisplay_inv hinv hr
  | closeDisplay dh rc =>
    obtain ⟨r, hr, h⟩ := bind_eq_ok.1 h
    cases h
    obtain ⟨err, t, ht, htinv, -, -⟩ := ddcCloseDisplay_spec hinv hcall rc
    rw [ht] at hr
    cases hr; exact htinv
  | closeAll rcs =>
    change ddcCloseAllDisplaysForCurrentThread s rcs = .ok s' at h
    rcases closeAll_cases hinv rcs with ⟨-, hs⟩ | hs | ⟨t, hs, htinv, -⟩
    · rw [h] at hs
      cases hs; exact hinv
    · rw [h] at hs; cases hs
    · rw [h] at hs
      cases hs; exact htinv

theorem OpenReachable.inv (h : OpenReachable s) : OpenInv s := by
  refine Reachable.keeps ?_ ?_ h
  · rintro s ⟨drefs, rfl⟩
    exact openInv_start drefs
  · exact fun s call s' hinv hcall hs => openStep_inv hinv hcall hs

theorem closesAll_iff (hinv : OpenInv s) (rcs : Address → Status) : ClosesAll s rcs ↔ openHandles s.log = ∅ := by
  constructor
  · rintro ⟨s', events, hs', -, -, hnil⟩
    rcases closeAll_cases hinv rcs with ⟨hnone, -⟩ | hs | ⟨t, hs, -, hne⟩
    · exact (openHandles_eq_empty hinv).2 hnone
    · rw [hs'] at hs; cases hs
    · rw [hs'] at hs
      cases hs; exact absurd hnil hne
  · intro hempty
    have hnone := (openHandles_eq_empty hinv).1 hempty
    refine ⟨s, [], ?_, (append_nil _).symm, ?_, ?_⟩
    · rw [ddcCloseAllDisplaysForCurrentThread, hnone]
    · rw [hempty]; exact fun dh hdh => absurd hdh (Finset.notMem_empty dh)
    · rw [threadHandles, hnone]; rfl

/-- **After any calls** both collections are the handles opened and not yet closed, and closing all of them does so
exactly where there is none. -/
theorem handlesAgree_closesAll_iff {s : OpenDisplays} (h : OpenReachable s) :
    HandlesAgree s ∧ ∀ rcs, ClosesAll s rcs ↔ openHandles s.log = ∅ :=
  ⟨h.inv.agree, closesAll_iff h.inv⟩

def oneMonitor : Nat → OpenDref := fun _ => ⟨.i2c 3, false, some true, false, false⟩

def opensFine : OpenOutcome := ⟨false, .ok 5, true⟩

def oneMonitorOpen : OpenDisplays :=
  ⟨update oneMonitor 0 ⟨.i2c 3, false, some true, true, true⟩,
    (noOpenDisplays oneMonitor).handles.alloc ⟨5, 0⟩, {0}, some [0], [.opened 0]⟩

theorem oneMonitorOpen_reachable : OpenReachable oneMonitorOpen :=
  .step (i := .openDisplay 0 opensFine) (.start ⟨oneMonitor, rfl⟩) trivial rfl

theorem handlesAgree_oneMonitor :
    HandlesAgree oneMonitorOpen ∧ ∀ rcs, ClosesAll oneMonitorOpen rcs ↔ openHandles [.opened 0] = ∅ :=
  handlesAgree_closesAll_iff (s := oneMonitorOpen) oneMonitorOpen_reachable

/-- The one display is closed, and then the array read through NULL. -/
theorem closeAll_oneMonitor_faults :
    OpenReachable oneMonitorOpen ∧
    ddcCloseAllDisplaysForCurrentThread oneMonitorOpen (fun _ => 0) = .error .nullDeref ∧
    ¬ ClosesAll oneMonitorOpen (fun _ => 0) := by
  have hfault : ddcCloseAllDisplaysForCurrentThread oneMonitorOpen (fun _ => 0) = .error .nullDeref := rfl
  refine ⟨oneMonitorOpen_reachable, hfault, ?_⟩
  rintro ⟨s', events, hs', -⟩
  cases hs'

end Ddc
