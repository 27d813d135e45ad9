import Ddcutil.RecheckThreads
/-!
# RecheckThreadsRuns — the two threads over all interleavings

`WatchInv` holds after every run in which no display is removed between the number that the recheck thread gives it and
the event that says so; it is why a recheck never meets a removed reference.
-/
namespace Ddc

open Kit List Exec

/-! ## Where a display waits to be rechecked -/

def drefsOf (entries : Heap RecheckQueueEntry) (l : List Address) : List Nat :=
  l.filterMap fun a => (entries.cells a).map fun rqe => rqe.dref

theorem drefsOf_append (entries : Heap RecheckQueueEntry) (l l' : List Address) :
    drefsOf entries (l ++ l') = drefsOf entries l ++ drefsOf entries l' := filterMap_append

variable {entries : Heap RecheckQueueEntry} {a : Address} {rqe : RecheckQueueEntry} {l : List Address}
variable {s s' : WatchSystem} {events : List DisplayStatusEvent} {e : DisplayStatusEvent} {ndx busno : Nat}
variable {dref : DisplayRef} {world : DisplayWorld} {skipDdcChecks : Bool} {curTimeNanos : UInt64}

theorem drefsOf_cons (h : entries.cells a = some rqe) (l : List Address) :
    drefsOf entries (a :: l) = rqe.dref :: drefsOf entries l := by
  refine filterMap_cons_some ?_
  rw [h]; rfl

theorem drefsOf_perm (entries : Heap RecheckQueueEntry) {l' : List Address} (h : l.Perm l') :
    (drefsOf entries l).Perm (drefsOf entries l') := h.filterMap _

theorem drefsOf_sublist (entries : Heap RecheckQueueEntry) {l' : List Address} (h : l.Sublist l') :
    (drefsOf entries l).Sublist (drefsOf entries l') := h.filterMap _

theorem drefsOf_alloc (rqe : RecheckQueueEntry) (hl : ∀ a ∈ l, a < entries.next) :
    drefsOf (entries.alloc rqe) l = drefsOf entries l := by
  apply filterMap_congr
  intro a ha
  rw [Heap.alloc_other _ _ (Nat.ne_of_lt (hl a ha))]

theorem drefsOf_free (entries : Heap RecheckQueueEntry) (a : Address) (l : List Address) :
    (drefsOf (entries.free a) l).Sublist (drefsOf entries l) := by
  induction l with
  | nil => exact List.Sublist.slnil
  | cons b l ih =>
    unfold drefsOf at ih ⊢
    by_cases hb : b = a
    · subst hb
      rw [filterMap_cons_none (by rw [Heap.free_self]; rfl)]
      exact ih.trans ((sublist_cons_self b l).filterMap _)
    · rw [filterMap_cons, filterMap_cons, Heap.free_other _ hb]
      split
      · exact ih
      · exact ih.cons_cons _

def RecheckThread.queued (t : RecheckThread) : List Address := t.toCheckAgain ++ t.recheckQueue

def WatchSystem.queuedDrefs (s : WatchSystem) : List Nat :=
  s.world.displaysToRecheck ++ drefsOf s.thread.entries s.thread.queued

def WatchSystem.pending (s : WatchSystem) : List Nat :=
  drefsOf s.thread.entries s.thread.pos.held ++ s.queuedDrefs

/-! ## The invariant -/

def Unparted (events : List DisplayStatusEvent) (ndx : Nat) : Prop :=
  ∀ e ∈ events, e.eventType = .disconnected → e.dref ≠ ndx

def HeldStage : RecheckPos → DisplayRef → Prop
  | .rechecking _, dref => Recheckable dref
  | .returned _ err, dref => dref.dispno ≤ 0 ∧ (err ≠ some ddcrcDisconnected → Recheckable dref)
  | .emitting _ eventType, dref => eventType ≠ .ddcEnabled → dref.dispno ≤ 0
  | _, _ => True

structure WatchInv (s : WatchSystem) : Prop where
  nodup : s.pending.Nodup
  fresh : ∀ a ∈ s.thread.waiting, a < s.thread.entries.next
  queued : ∀ ndx ∈ s.queuedDrefs, ∃ dref, s.world.allDisplayRefs[ndx]? = some dref ∧ Recheckable dref ∧
    Unparted s.world.events ndx
  held : ∀ a ∈ s.thread.pos.held, ∀ rqe, s.thread.entries.cells a = some rqe →
    ∃ dref, s.world.allDisplayRefs[rqe.dref]? = some dref ∧ HeldStage s.thread.pos dref ∧
      Unparted s.world.events rqe.dref
  parted : ∀ ndx, ¬ Unparted s.world.events ndx →
    ∃ dref, s.world.allDisplayRefs[ndx]? = some dref ∧ (dref.flags.removed = true ∨ dref.dispno ≤ 0)
  known : ∀ e ∈ s.world.events, e.dref < s.world.allDisplayRefs.length
  ordered : s.world.events.Pairwise fun e e' => e.eventType = .disconnected → e'.dref ≠ e.dref

theorem watchInv_start (h : WatchStart s) : WatchInv s := by
  obtain ⟨world, thread⟩ := s
  obtain ⟨rfl, hevents, hrecheck⟩ := h
  have hpending : WatchSystem.queuedDrefs ⟨world, recheckStart⟩ = [] := by
    rw [WatchSystem.queuedDrefs, hrecheck]; rfl
  refine ⟨?_, fun a ha => absurd ha not_mem_nil, fun ndx hndx => ?_, fun a ha => absurd ha not_mem_nil,
    fun ndx hparted => ?_, fun e he => ?_, ?_⟩
  · rw [WatchSystem.pending, hpending]; exact nodup_nil
  · rw [hpending] at hndx; cases hndx
  · exact absurd (fun e he => absurd (hevents ▸ he) not_mem_nil) hparted
  · exact absurd (hevents ▸ he) not_mem_nil
  · rw [hevents]; exact List.Pairwise.nil

theorem unparted_append (h : Unparted events ndx) (he : e.eventType = .disconnected → e.dref ≠ ndx) :
    Unparted (events ++ [e]) ndx := by
  intro e' he'
  rcases mem_append.1 he' with he' | he'
  · exact h e' he'
  · rw [mem_singleton.1 he']; exact he

theorem Unparted.of_append (h : Unparted events ndx) (hnot : ¬ Unparted (events ++ [e]) ndx) :
    e.eventType = .disconnected ∧ e.dref = ndx := by
  by_contra hother
  refine hnot (unparted_append h fun htype hdref => hother ⟨htype, hdref⟩)

theorem ordered_append (h : events.Pairwise fun e e' => e.eventType = .disconnected → e'.dref ≠ e.dref)
    (he : Unparted events e.dref) :
    (events ++ [e]).Pairwise fun e e' => e.eventType = .disconnected → e'.dref ≠ e.dref := by
  refine pairwise_append.2 ⟨h, pairwise_singleton .., fun e' he' e'' he'' htype => ?_⟩
  rw [mem_singleton.1 he'']; exact (he e' he' htype).symm

theorem WatchInv.not_queued (h : WatchInv s) (hheld : s.thread.pos.held = [a])
    (hrqe : s.thread.entries.cells a = some rqe) : rqe.dref ∉ s.queuedDrefs := by
  have hnodup := h.nodup
  unfold WatchSystem.pending at hnodup
  rw [hheld, drefsOf_cons hrqe] at hnodup; exact (nodup_cons.1 hnodup).1

/-! ## The watch thread -/

theorem RefsRemoved.keeps {s s' : DisplayWorld} (h : RefsRemoved busno s s')
    (hdref : s.allDisplayRefs[ndx]? = some dref) (hsafe : ¬ Removable busno dref) :
    s'.allDisplayRefs[ndx]? = some dref := by
  obtain ⟨dref', hdref', rfl | ⟨hremovable, -⟩⟩ := h.refs ndx dref hdref
  · exact hdref'
  · exact absurd hremovable hsafe

theorem RefsRemoved.unparted {s s' : DisplayWorld} (h : RefsRemoved busno s s')
    (hdref : s.allDisplayRefs[ndx]? = some dref) (hsafe : ¬ Removable busno dref) (hunparted : Unparted s.events ndx) :
    Unparted s'.events ndx := by
  rcases h.events with hsame | ⟨i, d, -, hevents, hd, hremovable, -⟩
  · rw [hsame]; exact hunparted
  · rw [hevents]
    refine unparted_append hunparted fun _ hi => ?_
    dsimp only at hi
    rw [hi, hdref] at hd
    cases hd; exact hsafe hremovable

theorem Recheckable.not_removable (h : Recheckable dref) (busno : Nat) : ¬ Removable busno dref :=
  fun hremovable => absurd hremovable.1 (not_lt.2 h.dispno)

theorem HeldStage.not_removable {pos : RecheckPos} (hheld : a ∈ pos.held) (h : HeldStage pos dref)
    (hpath : pos = .emitting a .ddcEnabled → dref.ioPath ≠ .i2c busno) : ¬ Removable busno dref := by
  rintro ⟨hdispno, -, hbus⟩
  cases pos with
  | rechecking b => exact absurd hdispno (not_lt.2 h.dispno)
  | returned b err => exact absurd hdispno (not_lt.2 h.1)
  | emitting b eventType =>
    cases mem_singleton.1 hheld
    by_cases htype : eventType = .ddcEnabled
    · subst htype; exact hpath rfl hbus
    · exact absurd hdispno (not_lt.2 (h htype))
  | sleeping | popping cur | ended => cases hheld

theorem WatchInv.refsRemoved (h : WatchInv s) (hchange : RefsRemoved busno s.world world)
    (hmeets : ∀ a rqe dref, s.thread.pos = .emitting a .ddcEnabled → s.thread.entries.cells a = some rqe →
      s.world.allDisplayRefs[rqe.dref]? = some dref → dref.ioPath ≠ .i2c busno) :
    WatchInv { s with world := world } := by
  have hqueued : WatchSystem.queuedDrefs { s with world := world } = s.queuedDrefs := by
    unfold WatchSystem.queuedDrefs
    rw [hchange.displaysToRecheck]
  refine ⟨?_, h.fresh, fun ndx hndx => ?_, fun a ha rqe hrqe => ?_, fun ndx hparted => ?_, fun e he => ?_, ?_⟩
  · rw [WatchSystem.pending, hqueued]; exact h.nodup
  · rw [hqueued] at hndx
    obtain ⟨dref, hdref, hrecheckable, hunparted⟩ := h.queued ndx hndx
    have hsafe := hrecheckable.not_removable busno
    exact ⟨dref, hchange.keeps hdref hsafe, hrecheckable, hchange.unparted hdref hsafe hunparted⟩
  · obtain ⟨dref, hdref, hstage, hunparted⟩ := h.held a ha rqe hrqe
    have hsafe := hstage.not_removable ha fun hpos => hmeets a rqe dref hpos hrqe hdref
    exact ⟨dref, hchange.keeps hdref hsafe, hstage, hchange.unparted hdref hsafe hunparted⟩
  · by_cases hold : Unparted s.world.events ndx
    · rcases hchange.events with hsame | ⟨i, d, d', hevents, hd, hremovable, hd', hremoved⟩
      · exact absurd (show Unparted world.events ndx from hsame ▸ hold) hparted
      · rw [hevents] at hparted
        obtain ⟨-, hi⟩ := hold.of_append hparted
        dsimp only at hi
        rw [hi] at hd'; exact ⟨d', hd', .inl hremoved⟩
    · obtain ⟨dref, hdref, hgone⟩ := h.parted ndx hold
      obtain ⟨dref', hdref', rfl | ⟨-, hremoved⟩⟩ := hchange.refs ndx dref hdref
      · exact ⟨dref', hdref', hgone⟩
      · exact ⟨dref', hdref', .inl hremoved⟩
  · rw [hchange.length]
    rcases hchange.events with hsame | ⟨i, d, -, hevents, hd, -⟩
    · exact h.known e (hsame ▸ he)
    · rw [hevents] at he
      rcases mem_append.1 he with he | he
      · exact h.known e he
      · rw [mem_singleton.1 he]; exact (List.getElem?_eq_some_iff.1 hd).1
  · rcases hchange.events with hsame | ⟨i, d, -, hevents, hd, hremovable, -⟩
    · rw [hsame]; exact h.ordered
    · rw [hevents]
      refine ordered_append h.ordered ?_
      by_contra hparted
      obtain ⟨d', hd', hgone⟩ := h.parted i hparted
      rw [hd] at hd'
      cases hd'
      rcases hgone with hremoved | hdispno
      · exact absurd (hremovable.2.1.symm.trans hremoved) Bool.false_ne_true
      · exact absurd hremovable.1 (not_lt.2 hdispno)

theorem WatchInv.refsAdded (h : WatchInv s) (hchange : RefsAdded s.world world) :
    WatchInv { s with world := world } := by
  rcases hchange with ⟨hrefs, hrecheck, hevents⟩ | ⟨dref, path, hrefs, hevents, hrecheck⟩
  · have hqueued : WatchSystem.queuedDrefs { s with world := world } = s.queuedDrefs := by
      unfold WatchSystem.queuedDrefs
      rw [hrecheck]
    refine ⟨?_, h.fresh, ?_, ?_, ?_, ?_, ?_⟩
    · rw [WatchSystem.pending, hqueued]; exact h.nodup
    · rw [hqueued, hrefs, hevents]; exact h.queued
    · rw [hrefs, hevents]; exact h.held
    · rw [hrefs, hevents]; exact h.parted
    · rw [hrefs, hevents]; exact h.known
    · rw [hevents]; exact h.ordered
  have hlt : ∀ {ndx : Nat} {d : DisplayRef}, s.world.allDisplayRefs[ndx]? = some d →
      ndx < s.world.allDisplayRefs.length ∧ world.allDisplayRefs[ndx]? = some d := by
    intro ndx d hd
    have hlt := (List.getElem?_eq_some_iff.1 hd).1
    exact ⟨hlt, by rw [hrefs, getElem?_append_left hlt, hd]⟩
  have hevent : ∀ {ndx : Nat}, Unparted s.world.events ndx → Unparted world.events ndx := by
    intro ndx hunparted
    rw [hevents]; exact unparted_append hunparted fun heq => nomatch heq
  have hnew : Unparted s.world.events s.world.allDisplayRefs.length :=
    fun e he _ hdref => Nat.lt_irrefl _ (hdref ▸ h.known e he)
  have hlast : world.allDisplayRefs[s.world.allDisplayRefs.length]? = some dref := by
    rw [hrefs]; exact getElem?_concat_length
  have hpending : ∀ ndx ∈ s.pending, ndx < s.world.allDisplayRefs.length := by
    intro ndx hndx
    rcases mem_append.1 hndx with hndx | hndx
    · obtain ⟨a, ha, hndx⟩ := mem_filterMap.1 hndx
      obtain ⟨rqe, hrqe, rfl⟩ := Option.map_eq_some_iff.1 hndx
      obtain ⟨d, hd, -⟩ := h.held a ha rqe hrqe
      exact (hlt hd).1
    · obtain ⟨d, hd, -⟩ := h.queued ndx hndx
      exact (hlt hd).1
  refine ⟨?_, h.fresh, fun ndx hndx => ?_, fun a ha rqe hrqe => ?_, fun ndx hparted => ?_, fun e he => ?_, ?_⟩
  · unfold WatchSystem.pending WatchSystem.queuedDrefs
    rcases hrecheck with hsame | ⟨hgrown, -⟩
    · rw [hsame]; exact h.nodup
    · rw [hgrown]
      have hperm : (drefsOf s.thread.entries s.thread.pos.held ++ (s.world.displaysToRecheck ++
          [s.world.allDisplayRefs.length] ++ drefsOf s.thread.entries s.thread.queued)).Perm
          (s.world.allDisplayRefs.length :: s.pending) := by
        unfold WatchSystem.pending WatchSystem.queuedDrefs
        rw [append_assoc, singleton_append, ← append_assoc, ← append_assoc]; exact perm_middle
      rw [hperm.nodup_iff]
      exact nodup_cons.2 ⟨fun hmem => Nat.lt_irrefl _ (hpending _ hmem), h.nodup⟩
  · have hcases : ndx ∈ s.queuedDrefs ∨ ndx = s.world.allDisplayRefs.length ∧ Recheckable dref := by
      unfold WatchSystem.queuedDrefs at hndx ⊢
      rcases hrecheck with hsame | ⟨hgrown, hrecheckable⟩
      · rw [hsame] at hndx; exact .inl hndx
      · rw [hgrown] at hndx
        simp only [mem_append, mem_singleton] at hndx ⊢
        rcases hndx with (hndx | hndx) | hndx
        · exact .inl (.inl hndx)
        · exact .inr ⟨hndx, hrecheckable⟩
        · exact .inl (.inr hndx)
    rcases hcases with hndx | ⟨rfl, hrecheckable⟩
    · obtain ⟨d, hd, hrecheckable, hunparted⟩ := h.queued ndx hndx
      exact ⟨d, (hlt hd).2, hrecheckable, hevent hunparted⟩
    · exact ⟨dref, hlast, hrecheckable, hevent hnew⟩
  · obtain ⟨d, hd, hstage, hunparted⟩ := h.held a ha rqe hrqe
    exact ⟨d, (hlt hd).2, hstage, hevent hunparted⟩
  · obtain ⟨d, hd, hgone⟩ := h.parted ndx (mt hevent hparted)
    exact ⟨d, (hlt hd).2, hgone⟩
  · rw [hrefs, length_append, length_singleton]
    rw [hevents] at he
    rcases mem_append.1 he with he | he
    · exact Nat.lt_succ_of_lt (h.known e he)
    · rw [mem_singleton.1 he]; exact Nat.lt_succ_self _
  · rw [hevents]; exact ordered_append h.ordered hnew

theorem WatchInv.handle {c : HotplugCallArgs} {emitted : Bool} (h : WatchInv s) (hmeets : WatchMeets s (.handle c))
    (hrun : dwHotplugChangeHandler skipDdcChecks c.recheck c.found c.removed c.added s.world = .ok (emitted, world)) :
    WatchInv { s with world := world } := by
  -- the buses that go are not that of the display being said to be enabled, and it stays as it was
  let Kept := fun acc : Bool × DisplayWorld => WatchInv { s with world := acc.2 } ∧
    ∀ a rqe dref busno, s.thread.pos = .emitting a .ddcEnabled → s.thread.entries.cells a = some rqe →
      acc.2.allDisplayRefs[rqe.dref]? = some dref → busno ∈ flags c.removed → dref.ioPath ≠ .i2c busno
  obtain ⟨acc, hremoved, hadded⟩ := bind_eq_ok.1 hrun
  have hkept : Kept acc := by
    have hstart : Kept (true, s.world) := ⟨h, hmeets⟩
    refine foldlM_keeps Kept (fun busno hbusno acc acc' hacc hstep => ?_) hstart hremoved
    have hbus : busno ∈ flags c.removed := mem_bs256Iter.1 hbusno
    have hchange := hotplugRemove_changes hstep
    obtain ⟨hinv, hpath⟩ := hacc
    refine ⟨hinv.refsRemoved hchange fun a rqe dref hpos hrqe hdref => hpath a rqe dref busno hpos hrqe hdref hbus,
      fun a rqe dref bus' hpos hrqe hdref hbus' => ?_⟩
    have hheld : a ∈ s.thread.pos.held := by rw [hpos]; exact mem_singleton_self a
    obtain ⟨d, hd, -⟩ := hinv.held a hheld rqe hrqe
    have hsafe : ¬ Removable busno d := fun hremovable => hpath a rqe d busno hpos hrqe hd hbus hremovable.2.2
    rw [hchange.keeps hd hsafe] at hdref
    cases hdref; exact hpath a rqe dref bus' hpos hrqe hd hbus'
  have hadd := foldlM_keeps (fun acc : Bool × DisplayWorld => WatchInv { s with world := acc.2 })
    (fun _ _ acc acc' hacc hstep => hacc.refsAdded (hotplugAdd_changes hstep)) hkept.1 hadded
  exact hadd

theorem RemovedStays.handle {s s' : DisplayWorld} {c : HotplugCallArgs} {emitted : Bool}
    (hrun : dwHotplugChangeHandler skipDdcChecks c.recheck c.found c.removed c.added s = .ok (emitted, s')) :
    RemovedStays s s' := by
  obtain ⟨acc, hremoved, hadded⟩ := bind_eq_ok.1 hrun
  have hkept : RemovedStays s acc.2 := by
    refine foldlM_keeps (fun acc : Bool × DisplayWorld => RemovedStays s acc.2)
      (fun busno _ acc acc' hacc hstep ndx dref hdref hgone => ?_) (fun ndx dref hdref hgone => ⟨dref, hdref, hgone⟩) hremoved
    obtain ⟨d, hd, hgone⟩ := hacc ndx dref hdref hgone
    obtain ⟨d', hd', rfl | ⟨-, hgone'⟩⟩ := (hotplugRemove_changes hstep).refs ndx d hd
    · exact ⟨d', hd', hgone⟩
    · exact ⟨d', hd', hgone'⟩
  refine foldlM_keeps (fun acc : Bool × DisplayWorld => RemovedStays s acc.2)
    (fun busno _ acc acc' hacc hstep ndx dref hdref hgone => ?_) hkept hadded
  obtain ⟨d, hd, hgone⟩ := hacc ndx dref hdref hgone
  rcases hotplugAdd_changes hstep with ⟨hrefs, -⟩ | ⟨new, path, hrefs, -⟩
  · exact ⟨d, hrefs ▸ hd, hgone⟩
  · refine ⟨d, ?_, hgone⟩
    rw [hrefs, getElem?_append_left (List.getElem?_eq_some_iff.1 hd).1, hd]

/-! ## The recheck thread -/

theorem RecheckThread.waiting_eq (t : RecheckThread) : t.waiting = t.pos.held ++ t.queued := append_assoc ..

theorem WatchSystem.pending_perm (s : WatchSystem) :
    s.pending.Perm (s.world.displaysToRecheck ++ drefsOf s.thread.entries s.thread.waiting) := by
  rw [RecheckThread.waiting_eq, drefsOf_append]
  unfold WatchSystem.pending WatchSystem.queuedDrefs
  rw [← append_assoc, ← append_assoc]; exact perm_append_comm.append_right _

section
variable (h : WatchInv s)
include h

theorem WatchInv.thread {thread : RecheckThread}
    (hsub : (drefsOf thread.entries thread.waiting).Subperm (drefsOf s.thread.entries s.thread.waiting))
    (hfresh : ∀ a ∈ thread.waiting, a < thread.entries.next)
    (hqueued : ∀ ndx ∈ drefsOf thread.entries thread.queued, ∃ dref, s.world.allDisplayRefs[ndx]? = some dref ∧
      Recheckable dref ∧ Unparted s.world.events ndx)
    (hheld : ∀ a ∈ thread.pos.held, ∀ rqe, thread.entries.cells a = some rqe →
      ∃ dref, s.world.allDisplayRefs[rqe.dref]? = some dref ∧ HeldStage thread.pos dref ∧
        Unparted s.world.events rqe.dref) :
    WatchInv { s with thread := thread } := by
  refine ⟨?_, hfresh, fun ndx hndx => ?_, hheld, h.parted, h.known, h.ordered⟩
  · rw [(WatchSystem.pending_perm _).nodup_iff]
    obtain ⟨l, hperm, hl⟩ := (subperm_append_left s.world.displaysToRecheck).2 hsub
    rw [← hperm.nodup_iff]; exact (s.pending_perm.nodup_iff.1 h.nodup).sublist hl
  · rcases mem_append.1 hndx with hndx | hndx
    · exact h.queued ndx (mem_append_left _ hndx)
    · exact hqueued ndx hndx

theorem WatchInv.queued_of_mem (ha : a ∈ s.thread.queued) (hrqe : s.thread.entries.cells a = some rqe) :
    ∃ dref, s.world.allDisplayRefs[rqe.dref]? = some dref ∧ Recheckable dref ∧ Unparted s.world.events rqe.dref := by
  refine h.queued rqe.dref (mem_append_right _ (mem_filterMap.2 ⟨a, ha, ?_⟩))
  rw [hrqe]; rfl

theorem WatchInv.flush {thread : RecheckThread} (hentries : thread.entries = s.thread.entries)
    (hagain : thread.toCheckAgain.Sublist s.thread.toCheckAgain) :
    WatchInv { s with thread := flushQueue thread } := by
  have hsub : thread.toCheckAgain.Sublist s.thread.waiting :=
    hagain.trans ((sublist_append_right ..).trans (sublist_append_left ..))
  have hwaiting : (flushQueue thread).waiting = thread.toCheckAgain := append_nil _
  have hqueued : (flushQueue thread).queued = thread.toCheckAgain := append_nil _
  have hsame : (flushQueue thread).entries = s.thread.entries := hentries
  refine h.thread ?_ (fun a ha => ?_) (fun ndx hndx => ?_) fun a ha => absurd ha not_mem_nil
  · rw [hwaiting, hsame]; exact (drefsOf_sublist _ hsub).subperm
  · rw [hwaiting] at ha
    rw [hsame]; exact h.fresh a (hsub.subset ha)
  · rw [hqueued, hsame] at hndx
    refine h.queued ndx (mem_append_right _ ?_)
    exact (drefsOf_sublist _ (hagain.trans (sublist_append_left ..))).subset hndx

theorem WatchInv.wake (hpos : s.thread.pos = .sleeping) :
    WatchInv { s with thread := recheckWake s.thread curTimeNanos } := by
  unfold recheckWake
  split
  · exact h.flush rfl (List.Sublist.refl _)
  · have hwaiting : ({ s.thread with pos := .popping curTimeNanos } : RecheckThread).waiting = s.thread.waiting := by
      unfold RecheckThread.waiting
      rw [hpos]; rfl
    refine h.thread ?_ (fun a ha => ?_) (fun ndx hndx => ?_) fun a ha => absurd ha not_mem_nil
    · rw [hwaiting]
    · rw [hwaiting] at ha; exact h.fresh a ha
    · exact h.queued ndx (mem_append_right _ hndx)

theorem WatchInv.pop (hpos : s.thread.pos = .popping curTimeNanos) {thread : RecheckThread}
    (hrun : recheckPop s.thread curTimeNanos = .ok thread) : WatchInv { s with thread := thread } := by
  unfold recheckPop at hrun
  split at hrun
  · cases hrun
    split
    · exact h.flush rfl (nil_sublist _)
    · exact h
  rename_i a rest hpopped
  have hqueued : s.thread.queued.Perm (a :: rest) := by
    rw [← hpopped]; exact (reverse_perm _).symm.append_right _
  have hwaiting : s.thread.waiting.Perm (a :: rest) := by
    rw [RecheckThread.waiting_eq, hpos]; exact hqueued
  have hrest : ∀ ndx ∈ drefsOf s.thread.entries rest, ∃ dref, s.world.allDisplayRefs[ndx]? = some dref ∧
      Recheckable dref ∧ Unparted s.world.events ndx := by
    intro ndx hndx
    refine h.queued ndx (mem_append_right _ ?_)
    exact ((drefsOf_perm _ hqueued).mem_iff).2 ((drefsOf_sublist _ (sublist_cons_self a rest)).subset hndx)
  have hfresh : ∀ b ∈ a :: rest, b < s.thread.entries.next := fun b hb => h.fresh b (hwaiting.mem_iff.2 hb)
  unfold recheckTurn at hrun
  split at hrun
  · cases hrun; exact h.flush rfl (nil_sublist _)
  obtain ⟨rqe, hread, hrun⟩ := bind_eq_ok.1 hrun
  split at hrun
  · cases hrun
    refine h.thread ?_ (fun b hb => hfresh b (mem_cons_of_mem a hb))
      (fun ndx hndx => hrest ndx ((drefsOf_free _ a rest).subset hndx)) fun b hb => absurd hb not_mem_nil
    refine ((drefsOf_free _ a rest).trans (drefsOf_sublist _ (sublist_cons_self a rest))).subperm.trans ?_
    exact (drefsOf_perm _ hwaiting).symm.subperm
  · cases hrun
    refine h.thread (drefsOf_perm _ hwaiting).symm.subperm hfresh hrest fun b hb rqe hrqe => ?_
    cases mem_singleton.1 hb
    exact h.queued_of_mem (hqueued.mem_iff.2 mem_cons_self) hrqe

theorem WatchInv.put (now : UInt64) : WatchInv (putRecheck s now) := by
  unfold putRecheck
  split
  · exact h
  rename_i ndx hlast
  obtain ⟨init, hinit⟩ := getLast?_eq_some_iff.1 hlast
  have hdrop : s.world.displaysToRecheck.dropLast = init := by rw [hinit]; exact dropLast_concat
  have hnew : (s.thread.entries.alloc ⟨ndx, now⟩).cells s.thread.entries.next = some ⟨ndx, now⟩ := Heap.alloc_self ..
  have hheld : ∀ a ∈ s.thread.pos.held, a < s.thread.entries.next := fun a ha =>
    h.fresh a (mem_append_left _ (mem_append_left _ ha))
  have hqueued : ∀ a ∈ s.thread.queued, a < s.thread.entries.next := fun a ha => by
    refine h.fresh a ?_
    rw [RecheckThread.waiting_eq]; exact mem_append_right _ ha
  -- the display goes from the end of the one list to the end of the other
  have hmoved : (s.world.displaysToRecheck.dropLast ++ drefsOf (s.thread.entries.alloc ⟨ndx, now⟩)
      (dwPutRecheckQueue s.thread ndx now).queued).Perm s.queuedDrefs := by
    have hsplit : (dwPutRecheckQueue s.thread ndx now).queued = s.thread.queued ++ [s.thread.entries.next] :=
      (append_assoc ..).symm
    unfold WatchSystem.queuedDrefs
    rw [hsplit, drefsOf_append, drefsOf_alloc _ hqueued, drefsOf_cons hnew, hdrop, hinit, append_assoc]
    exact perm_append_comm.append_left init
  have hpending : (WatchSystem.pending ⟨{ s.world with displaysToRecheck := s.world.displaysToRecheck.dropLast },
      dwPutRecheckQueue s.thread ndx now⟩).Perm s.pending := by
    refine List.Perm.append ?_ hmoved
    exact List.Perm.of_eq (drefsOf_alloc _ hheld)
  refine ⟨hpending.nodup_iff.2 h.nodup, fun a ha => ?_, fun i hi => h.queued i (hmoved.mem_iff.1 hi),
    fun a ha rqe hrqe => ?_, h.parted, h.known, h.ordered⟩
  · rw [RecheckThread.waiting_eq] at ha
    have hnext : a < s.thread.entries.next ∨ a = s.thread.entries.next := by
      rcases mem_append.1 ha with ha | ha
      · exact .inl (hheld a ha)
      · rcases mem_append.1 ha with ha | ha
        · exact .inl (hqueued a (mem_append_left _ ha))
        · rcases mem_append.1 ha with ha | ha
          · exact .inl (hqueued a (mem_append_right _ ha))
          · exact .inr (mem_singleton.1 ha)
    rcases hnext with hlt | rfl
    · exact Nat.lt_succ_of_lt hlt
    · exact Nat.lt_succ_self _
  · refine h.held a ha rqe ?_
    rw [← hrqe]; exact (Heap.alloc_other _ _ (Nat.ne_of_lt (hheld a ha))).symm

theorem WatchInv.setHeld (hheld : s.thread.pos.held = [a]) (hrqe : s.thread.entries.cells a = some rqe)
    (dref : DisplayRef) (world : DisplayWorld) (pos : RecheckPos)
    (hrefs : world.allDisplayRefs = s.world.allDisplayRefs.set rqe.dref dref)
    (hrecheck : world.displaysToRecheck = s.world.displaysToRecheck) (hevents : world.events = s.world.events)
    (hpos : pos.held = [a]) (hstage : HeldStage pos dref) : WatchInv ⟨world, { s.thread with pos := pos }⟩ := by
  have hmem : a ∈ s.thread.pos.held := hheld ▸ mem_singleton_self a
  obtain ⟨old, hold, -, hunparted⟩ := h.held a hmem rqe hrqe
  have hother : ∀ {ndx : Nat}, ndx ≠ rqe.dref → world.allDisplayRefs[ndx]? = s.world.allDisplayRefs[ndx]? := by
    intro ndx hne
    rw [hrefs, getElem?_set_ne hne.symm]
  have hqueued : WatchSystem.queuedDrefs ⟨world, { s.thread with pos := pos }⟩ = s.queuedDrefs := by
    rw [WatchSystem.queuedDrefs, hrecheck]; rfl
  refine ⟨?_, fun b hb => ?_, fun ndx hndx => ?_, fun b hb rqe' hrqe' => ?_, fun ndx hparted => ?_, ?_, ?_⟩
  · rw [WatchSystem.pending, hqueued]
    rw [hpos, ← hheld]; exact h.nodup
  · refine h.fresh b ?_
    rw [RecheckThread.waiting_eq] at hb ⊢
    rw [hheld, ← hpos]; exact hb
  · rw [hqueued] at hndx
    have hne : ndx ≠ rqe.dref := fun heq => h.not_queued hheld hrqe (heq ▸ hndx)
    rw [hother hne, hevents]; exact h.queued ndx hndx
  · rw [hpos] at hb
    cases mem_singleton.1 hb
    rw [hrqe] at hrqe'
    cases hrqe'
    rw [hevents]
    refine ⟨dref, ?_, hstage, hunparted⟩
    rw [hrefs]; exact getElem?_set_self (List.getElem?_eq_some_iff.1 hold).1
  · rw [hevents] at hparted
    have hne : ndx ≠ rqe.dref := fun heq => hparted (heq ▸ hunparted)
    rw [hother hne]; exact h.parted ndx hparted
  · rw [hevents, hrefs, length_set]; exact h.known
  · rw [hevents]; exact h.ordered

end

theorem readEntry_eq_ok : readEntry entries a = .ok rqe ↔ entries.cells a = some rqe := by
  unfold readEntry
  cases entries.cells a with
  | none => exact ⟨(fun h => nomatch h), (fun h => nomatch h)⟩
  | some r => exact ⟨fun h => congrArg some (Except.ok.inj h), fun h => congrArg Except.ok (Option.some.inj h)⟩

theorem WatchInv.recheckPopped {locked : Bool} {found : DdcCheck} (h : WatchInv s)
    (hrun : recheckPopped skipDdcChecks s locked found = .ok s') : WatchInv s' ∧ RemovedStays s.world s'.world := by
  have hsame : RemovedStays s.world s.world := fun ndx dref hdref hgone => ⟨dref, hdref, hgone⟩
  unfold Ddc.recheckPopped at hrun
  split at hrun
  · rename_i a hpos
    have hheld : s.thread.pos.held = [a] := by rw [hpos]; rfl
    obtain ⟨rqe, hread, hrun⟩ := bind_eq_ok.1 hrun
    rw [readEntry_eq_ok] at hread
    obtain ⟨⟨err, world⟩, hchecks, hrun⟩ := bind_eq_ok.1 hrun
    cases hrun
    obtain ⟨dref, hdref, hstage, hunparted⟩ := h.held a (hheld ▸ mem_singleton_self a) rqe hread
    rw [hpos] at hstage
    have hrecheckable : Recheckable dref := hstage
    unfold dwRecheckDref at hchecks
    split at hchecks
    · cases hchecks
      refine ⟨h.setHeld hheld hread dref s.world (.returned a _) ?_ rfl rfl rfl
        ⟨hrecheckable.dispno, fun _ => hrecheckable⟩, hsame⟩
      obtain ⟨hlt, hget⟩ := List.getElem?_eq_some_iff.1 hdref
      rw [← hget, set_getElem_self]
    · rw [hdref] at hchecks
      dsimp only at hchecks
      obtain ⟨⟨err', dref', buses⟩, hchecked, hend⟩ := bind_eq_ok.1 hchecks
      cases hend
      obtain ⟨b, hdetail⟩ := Option.ne_none_iff_exists'.1 hrecheckable.detail
      obtain ⟨hdispno, hdetail', hremoved⟩ := (ddcInitialChecksByDref_flags skipDdcChecks s.world.buses
        { dref with flags := noDrefFlags } hdetail rfl found).2 err' dref' buses hchecked
      have hle : dref'.dispno ≤ 0 := hdispno ▸ hrecheckable.dispno
      refine ⟨h.setHeld hheld hread dref' _ (.returned a err') rfl rfl rfl rfl ⟨hle, fun herr => ⟨?_, hle, ?_⟩⟩,
        fun ndx d hd hgone => ?_⟩
      · exact Bool.eq_false_iff.2 (mt hremoved herr)
      · rw [hdetail']; exact Option.some_ne_none b
      · have hne : rqe.dref ≠ ndx := by
          rintro rfl
          rw [hdref] at hd
          cases hd; exact absurd (hrecheckable.removed.symm.trans hgone) Bool.false_ne_true
        exact ⟨d, (getElem?_set_ne hne).trans hd, hgone⟩
  · cases hrun; exact ⟨h, hsame⟩

theorem removedStays_set {s s' : DisplayWorld} {dref' : DisplayRef} (hdref : s.allDisplayRefs[ndx]? = some dref)
    (hrefs : s'.allDisplayRefs = s.allDisplayRefs.set ndx dref') (hflags : dref'.flags = dref.flags) :
    RemovedStays s s' := by
  intro i d hd hgone
  rw [hrefs]
  by_cases hi : ndx = i
  · subst hi
    rw [hdref] at hd
    cases hd; exact ⟨dref', getElem?_set_self (List.getElem?_eq_some_iff.1 hdref).1, hflags ▸ hgone⟩
  · exact ⟨d, (getElem?_set_ne hi).trans hd, hgone⟩

theorem WatchInv.settlePopped (h : WatchInv s) (hrun : settlePopped s = .ok s') :
    WatchInv s' ∧ RemovedStays s.world s'.world := by
  unfold Ddc.settlePopped at hrun
  split at hrun
  · rename_i a err hpos
    have hheld : s.thread.pos.held = [a] := by rw [hpos]; rfl
    obtain ⟨rqe, hread, hrun⟩ := bind_eq_ok.1 hrun
    rw [readEntry_eq_ok] at hread
    cases hrun
    obtain ⟨dref, hdref, hstage, hunparted⟩ := h.held a (hheld ▸ mem_singleton_self a) rqe hread
    rw [hpos] at hstage
    unfold assignDispno recheckSettle
    rw [hdref]
    cases err with
    | none =>
      exact ⟨h.setHeld hheld hread _ _ (.emitting a .ddcEnabled) rfl rfl rfl rfl fun hne => absurd rfl hne,
        removedStays_set hdref rfl rfl⟩
    | some status =>
      dsimp only
      by_cases hstatus : status = ddcrcDisconnected
      · rw [if_pos hstatus, if_pos hstatus]
        refine ⟨h.setHeld hheld hread _ _ (.emitting a .disconnected) rfl rfl rfl rfl fun _ => ?_,
          removedStays_set hdref rfl rfl⟩
        change dispnoRemoved ≤ 0
        decide
      · rw [if_neg hstatus, if_neg hstatus]
        refine ⟨?_, fun ndx dref hdref hgone => ⟨dref, hdref, hgone⟩⟩
        have hwaiting : RecheckThread.waiting { s.thread with
            pos := .sleeping, toCheckAgain := a :: s.thread.toCheckAgain, log := .failed a :: s.thread.log } =
            s.thread.waiting := by
          unfold RecheckThread.waiting
          rw [hheld]; rfl
        refine h.thread ?_ (fun b hb => ?_) (fun ndx hndx => ?_) fun b hb => absurd hb not_mem_nil
        · rw [hwaiting]
        · rw [hwaiting] at hb; exact h.fresh b hb
        · have hcons : ndx ∈ drefsOf s.thread.entries (a :: s.thread.queued) := hndx
          rw [drefsOf_cons hread] at hcons
          rcases mem_cons.1 hcons with rfl | hndx
          · exact ⟨dref, hdref, hstage.2 fun heq => hstatus (Option.some.inj heq), hunparted⟩
          · exact h.queued ndx (mem_append_right _ hndx)
  · cases hrun; exact ⟨h, fun ndx dref hdref hgone => ⟨dref, hdref, hgone⟩⟩

theorem WatchInv.emitPopped (h : WatchInv s) (hrun : emitPopped s = .ok s') :
    WatchInv s' ∧ s'.world.allDisplayRefs = s.world.allDisplayRefs := by
  unfold Ddc.emitPopped at hrun
  split at hrun
  · rename_i a eventType hpos
    have hheld : s.thread.pos.held = [a] := by rw [hpos]; rfl
    obtain ⟨rqe, hread, hrun⟩ := bind_eq_ok.1 hrun
    rw [readEntry_eq_ok] at hread
    cases hrun
    obtain ⟨dref, hdref, hstage, hunparted⟩ := h.held a (hheld ▸ mem_singleton_self a) rqe hread
    rw [hpos] at hstage
    rw [emitEvent, hdref]
    refine ⟨?_, rfl⟩
    have hothers : ∀ {ndx : Nat}, ndx ≠ rqe.dref → Unparted s.world.events ndx →
        Unparted (s.world.events ++ [⟨eventType, rqe.dref, dref.ioPath⟩]) ndx :=
      fun hne hndx => unparted_append hndx fun _ heq => hne heq.symm
    have hqueued : ∀ ndx ∈ s.world.displaysToRecheck ++ drefsOf (s.thread.entries.free a) s.thread.queued,
        ndx ∈ s.queuedDrefs := by
      intro ndx hndx
      rcases mem_append.1 hndx with hndx | hndx
      · exact mem_append_left _ hndx
      · exact mem_append_right _ ((drefsOf_free _ a _).subset hndx)
    refine ⟨?_, fun b hb => ?_, fun ndx hndx => ?_, fun b hb => absurd hb not_mem_nil, fun ndx hparted => ?_,
      fun e he => ?_, ordered_append h.ordered hunparted⟩
    · refine List.Nodup.sublist ?_ h.nodup
      exact ((List.Sublist.refl _).append (drefsOf_free _ a _)).trans (sublist_append_right ..)
    · refine h.fresh b ?_
      rw [RecheckThread.waiting_eq]; exact mem_append_right _ hb
    · have hmem := hqueued ndx hndx
      obtain ⟨d, hd, hrecheckable, hndxUnparted⟩ := h.queued ndx hmem
      have hne : ndx ≠ rqe.dref := fun heq => h.not_queued hheld hread (heq ▸ hmem)
      exact ⟨d, hd, hrecheckable, hothers hne hndxUnparted⟩
    · by_cases hndx : ndx = rqe.dref
      · subst hndx
        obtain ⟨htype, -⟩ := hunparted.of_append hparted
        refine ⟨dref, hdref, .inr (hstage fun heq => ?_)⟩
        rw [heq] at htype; cases htype
      · exact h.parted ndx (mt (hothers hndx) hparted)
    · rcases mem_append.1 he with he | he
      · exact h.known e he
      · rw [mem_singleton.1 he]; exact (List.getElem?_eq_some_iff.1 hdref).1
  · cases hrun; exact ⟨h, rfl⟩

/-! ## Runs -/

theorem removedStays_of_eq {s s' : DisplayWorld} (h : s'.allDisplayRefs = s.allDisplayRefs) : RemovedStays s s' :=
  fun _ dref hdref hgone => ⟨dref, h ▸ hdref, hgone⟩

theorem threadStep_eq_ok {act : RecheckAct} (h : threadStep s act = .ok s') :
    ∃ thread, recheckStep s.thread act = .ok thread ∧ s' = { s with thread := thread } := by
  obtain ⟨thread, hthread, h⟩ := bind_eq_ok.1 h
  cases h; exact ⟨thread, hthread, rfl⟩

section
variable (h : WatchInv s)
include h

theorem WatchInv.wakeStep (hrun : threadStep s (.wake curTimeNanos) = .ok s') : WatchInv s' := by
  obtain ⟨thread, hthread, rfl⟩ := threadStep_eq_ok hrun
  dsimp only [recheckStep] at hthread
  split at hthread
  · cases hthread; exact h.wake ‹_›
  · cases hthread; exact h

theorem WatchInv.popStep (hrun : threadStep s .pop = .ok s') : WatchInv s' := by
  obtain ⟨thread, hthread, rfl⟩ := threadStep_eq_ok hrun
  dsimp only [recheckStep] at hthread
  split at hthread
  · exact h.pop ‹_› hthread
  · cases hthread; exact h

theorem WatchInv.removedStays {act : WatchAct} (hrun : watchStep skipDdcChecks s act = .ok s') :
    RemovedStays s.world s'.world := by
  cases act with
  | handle c =>
    obtain ⟨⟨emitted, world⟩, hhandle, hend⟩ := bind_eq_ok.1 hrun
    cases hend; exact RemovedStays.handle hhandle
  | put now =>
    cases hrun
    refine removedStays_of_eq ?_
    unfold putRecheck
    split
    · rfl
    · rfl
  | terminate =>
    obtain ⟨thread, -, rfl⟩ := threadStep_eq_ok hrun
    exact removedStays_of_eq rfl
  | wake cur =>
    obtain ⟨thread, -, rfl⟩ := threadStep_eq_ok hrun
    exact removedStays_of_eq rfl
  | pop =>
    obtain ⟨thread, -, rfl⟩ := threadStep_eq_ok hrun
    exact removedStays_of_eq rfl
  | recheck locked found => exact (h.recheckPopped hrun).2
  | settle => exact (h.settlePopped hrun).2
  | emit => exact removedStays_of_eq (h.emitPopped hrun).2

theorem WatchInv.step {act : WatchAct} (hmeets : WatchMeets s act) (hrun : watchStep skipDdcChecks s act = .ok s') :
    WatchInv s' := by
  cases act with
  | handle c =>
    obtain ⟨⟨emitted, world⟩, hhandle, hend⟩ := bind_eq_ok.1 hrun
    cases hend; exact h.handle hmeets hhandle
  | put now =>
    cases hrun; exact h.put now
  | terminate =>
    obtain ⟨thread, hthread, rfl⟩ := threadStep_eq_ok hrun
    cases hthread; exact ⟨h.nodup, h.fresh, h.queued, h.held, h.parted, h.known, h.ordered⟩
  | wake cur => exact h.wakeStep hrun
  | pop => exact h.popStep hrun
  | recheck locked found => exact (h.recheckPopped hrun).1
  | settle => exact (h.settlePopped hrun).1
  | emit => exact (h.emitPopped hrun).1

theorem WatchInv.noNullDetail (skipDdcChecks locked : Bool) (found : DdcCheck) :
    Ddc.recheckPopped skipDdcChecks s locked found ≠ .error .nullDeref := by
  unfold Ddc.recheckPopped
  split
  · rename_i a hpos
    cases hread : readEntry s.thread.entries a with
    | error e =>
      unfold readEntry at hread
      split at hread
      · cases hread
      · cases hread; exact error_ne_error (by decide)
    | ok rqe =>
      rw [ok_bind]
      have hmem : a ∈ s.thread.pos.held := by rw [hpos]; exact mem_singleton_self a
      obtain ⟨dref, hdref, hstage, -⟩ := h.held a hmem rqe (readEntry_eq_ok.1 hread)
      rw [hpos] at hstage
      obtain ⟨b, hdetail⟩ := Option.ne_none_iff_exists'.1 hstage.detail
      have hnull := (ddcInitialChecksByDref_flags skipDdcChecks s.world.buses { dref with flags := noDrefFlags } hdetail
        rfl found).1
      unfold dwRecheckDref
      split
      · exact ok_ne_error _ _
      · rw [hdref]
        dsimp only
        cases hchecks : ddcInitialChecksByDref skipDdcChecks s.world.buses { dref with flags := noDrefFlags } found with
        | error e =>
          rw [hchecks] at hnull
          exact fun heq => hnull (congrArg Except.error (Except.error.inj heq))
        | ok r => exact ok_ne_error _ _
  · exact ok_ne_error _ _

end

theorem countP_disconnected (h : events.Pairwise fun e e' => e.eventType = .disconnected → e'.dref ≠ e.dref)
    (ndx : Nat) : events.countP (fun e => e.eventType = .disconnected ∧ e.dref = ndx) ≤ 1 := by
  induction h with
  | nil => exact Nat.zero_le 1
  | @cons e events hhead _ ih =>
    by_cases he : e.eventType = .disconnected ∧ e.dref = ndx
    · have hnone : events.countP (fun e => e.eventType = .disconnected ∧ e.dref = ndx) = 0 := by
        rw [countP_eq_zero]
        intro e' he'
        have hne := hhead e' he' he.1
        rw [he.2] at hne
        simp [hne]
      rw [countP_cons_of_pos (by simpa using he), hnone]
    · rw [countP_cons_of_neg (by simpa using he)]; exact ih

/-- **After every run** in which nothing goes wrong the references and their events are right. -/
theorem watchRight_of_reachable {skipDdcChecks : Bool} {s : WatchSystem} (h : WatchReachable skipDdcChecks s) :
    WatchRight skipDdcChecks s := by
  have hinv : WatchInv s := by
    refine Reachable.keeps ?_ ?_ h
    · exact fun _ hstart => watchInv_start hstart
    · exact fun s act s' hinv hmeets hrun => hinv.step hmeets hrun
  refine ⟨fun act s' hrun => hinv.removedStays hrun, fun locked found => hinv.noNullDetail skipDdcChecks locked found,
    fun older e newer hevents htype e' he' hdref => ?_, countP_disconnected hinv.ordered⟩
  have hordered := hinv.ordered
  rw [hevents, pairwise_append] at hordered
  exact absurd hdref ((pairwise_cons.1 hordered.2.1).1 e' he' htype)

/-! ## A display that is unplugged when its communication works again -/

def noWatched : WatchSystem := ⟨noMonitors.world, recheckStart⟩

def recheckedWorking : List WatchAct :=
  [.put 0, .wake (millisToNanos 200), .pop, .recheck false ⟨false, false, none, some 0⟩, .settle]

def eventTypes (s : WatchSystem) : List (DisplayStatusEventType × Nat) :=
  s.world.events.map fun e => (e.eventType, e.dref)

def eventsAre (r : Exec WatchSystem) (events : List (DisplayStatusEventType × Nat)) : Bool :=
  match r with
  | .ok s => decide (eventTypes s = events)
  | .error _ => false

theorem eventsAre_iff {r : Exec WatchSystem} {events : List (DisplayStatusEventType × Nat)} :
    eventsAre r events = true ↔ ∃ s, r = .ok s ∧ eventTypes s = events := by
  cases r with
  | error e => exact ⟨(fun h => nomatch h), fun ⟨_, h, _⟩ => nomatch h⟩
  | ok s =>
    rw [eventsAre, decide_eq_true_eq]; exact ⟨fun h => ⟨s, rfl, h⟩, fun ⟨t, ht, h⟩ => Except.ok.inj ht ▸ h⟩

theorem noWatched_start : WatchStart noWatched := ⟨rfl, rfl, rfl⟩

/-- The display is said to be connected and then to be enabled. -/
theorem watchRight_rechecked : ∃ s, eventTypes s = [(.connected, 0), (.ddcEnabled, 0)] ∧ WatchRight false s := by
  have hrun : eventsAre ((WatchAct.handle (plugIn ddcrcRetries) :: (recheckedWorking ++ [.emit])).foldlM
      (watchStep false) noWatched) [(.connected, 0), (.ddcEnabled, 0)] = true := by decide +kernel
  obtain ⟨s, hs, hevents⟩ := eventsAre_iff.1 hrun
  obtain ⟨s1, hs1, hs⟩ := bind_eq_ok.1 hs
  have hplugged : WatchReachable false s1 :=
    .step (i := .handle (plugIn ddcrcRetries)) (.start noWatched_start) (fun _ _ _ _ hpos => nomatch hpos) hs1
  have hreach : WatchReachable false s := by
    refine Reachable.run (fun act hact t => ?_) hplugged hs
    simp only [recheckedWorking, cons_append, nil_append, mem_cons, not_mem_nil, or_false] at hact
    rcases hact with rfl | rfl | rfl | rfl | rfl | rfl
    all_goals trivial
  exact ⟨s, hevents, watchRight_of_reachable hreach⟩

/-- **A reference is said to be enabled after it was said to be disconnected**: the display is unplugged after it was
given a number and before the event. -/
theorem unpluggedAtEnable_not_right :
    ∃ s, Reachable WatchStart (fun _ _ => True) (watchStep false) s ∧ ¬ WatchRight false s := by
  have hrun : eventsAre ((WatchAct.handle (plugIn ddcrcRetries) :: (recheckedWorking ++ [.handle plugOut, .emit])).foldlM
      (watchStep false) noWatched) [(.connected, 0), (.disconnected, 0), (.ddcEnabled, 0)] = true := by decide +kernel
  obtain ⟨s, hs, hevents⟩ := eventsAre_iff.1 hrun
  have hstart : Reachable WatchStart (fun _ _ => True) (watchStep false) noWatched := .start noWatched_start
  refine ⟨s, hstart.run (fun _ _ _ => trivial) hs, fun hright => ?_⟩
  have hlist : s.world.events.map (fun e => (e.eventType, e.dref)) = [(.connected, 0)] ++
      [(.disconnected, 0), (.ddcEnabled, 0)] := hevents
  obtain ⟨older, l, hworld, -, hl⟩ := map_eq_append_iff.1 hlist
  obtain ⟨gone, l, rfl, hgone, hl⟩ := map_eq_cons_iff.1 hl
  obtain ⟨enabled, l, rfl, henabled, -⟩ := map_eq_cons_iff.1 hl
  have hdref : enabled.dref = gone.dref := (congrArg Prod.snd henabled).trans (congrArg Prod.snd hgone).symm
  have hquiet := hright.quiet older gone _ hworld (congrArg Prod.fst hgone) enabled mem_cons_self hdref
  exact hquiet.2 (congrArg Prod.fst henabled)

end Ddc
