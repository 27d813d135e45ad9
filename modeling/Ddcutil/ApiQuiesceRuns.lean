import Ddcutil.ApiQuiesce
import Ddcutil.Kit.Mutex
/-!
# ApiQuiesceRuns — what quiescing promises, over any interleaving

The mutexes keep increments out while the API is quiesced, and everything out while `quiesce_api` waits: the number of
calls that it finds is the number that it waits for in vain.  Where it finds none, or some call does not come to its
epilogue, it does what it says.
-/
namespace Ddc

open Kit Function

variable {T : Type}

/-! ## Where a thread holds a mutex -/

def QuiescePc.holdsQuiesced : QuiescePc T → Bool
  | .incrementLocked | .incrementing | .incremented _ | .quiesceLocked _ | .quiesceTest _
  | .quiescePolling _ _ _ | .quiescePolled _ _ _ | .quiesceSetting _ _ _ | .unquiesceLocked _ _ => true
  | _ => false

def QuiescePc.holdsActive : QuiescePc T → Bool
  | .incrementing | .decrementing | .quiesceTest _ | .quiescePolling _ _ _ | .quiescePolled _ _ _ => true
  | _ => false

def QuiescePc.redetectSet : QuiescePc T → Bool
  | .quiesceStart _ => true
  | .quiesceLocked _ | .quiesceTest _ | .quiescePolling _ _ _ | .quiescePolled _ _ _ | .quiesceSetting _ _ _
  | .redetecting _ _ | .unquiesceStart _ _ | .unquiesceLocked _ _ | .redetected => true
  | _ => false

def QuiescePc.inRedetect (pc : QuiescePc T) : Prop := pc.redetectSet = true ∨ pc = .redetectTested

/-- **What a step of one thread does** to the mutexes and the counter. -/
structure QuiesceMove (s : QuiesceState T) (t : T) (s' : QuiesceState T) : Prop where
  others : ∀ u, u ≠ t → s'.pc u = s.pc u
  callNo : s'.callNo = s.callNo
  quiescedMutex : MutexStep t s.apiQuiescedMutex ((s.pc t).holdsQuiesced = true) s'.apiQuiescedMutex
    ((s'.pc t).holdsQuiesced = true)
  activeMutex : MutexStep t s.activeCallsMutex ((s.pc t).holdsActive = true) s'.activeCallsMutex
    ((s'.pc t).holdsActive = true)
  count : CountStep s.activeCalls ((s.pc t).counted = true) s'.activeCalls ((s'.pc t).counted = true)
  activeKept : (s.pc t).holdsActive = false → s'.activeCalls = s.activeCalls
  activeRises : (s.pc t).holdsQuiesced = false → s'.activeCalls ≤ s.activeCalls
  refused : s.apiQuiesced = true → (s'.pc t).counted = true → (s.pc t).counted = true
  uncounted : s'.pc t = .uncountedBody → s.pc t = .uncountedBody

section Moves

variable {s : QuiesceState T} {t : T} {a b : QuiescePc T}

theorem QuiesceMove.stay : QuiesceMove s t s where
  others := fun _ _ => rfl
  callNo := rfl
  quiescedMutex := .keep id
  activeMutex := .keep id
  count := .keep .rfl
  activeKept := fun _ => rfl
  activeRises := fun _ => Nat.le_refl _
  refused := fun _ h => h
  uncounted := id

theorem QuiesceMove.withFlags {s' : QuiesceState T} (h : QuiesceMove s t s') (quiesced active : Bool) :
    QuiesceMove s t { s' with apiQuiesced := quiesced, ddcaRedetectActive := active } :=
  ⟨h.others, h.callNo, h.quiescedMutex, h.activeMutex, h.count, h.activeKept, h.activeRises, h.refused, h.uncounted⟩

variable [DecidableEq T]

theorem pc_at_self : (s.at t b).pc t = b := by
  exact update_self t b s.pc

theorem pc_at_of_ne {u : T} (h : u ≠ t) : (s.at t b).pc u = s.pc u := by
  exact update_of_ne h b s.pc

theorem QuiesceMove.to {quiescedMutex activeMutex : Option T} {n : Nat} (hpc : s.pc t = a)
    (hq : MutexStep t s.apiQuiescedMutex (a.holdsQuiesced = true) quiescedMutex (b.holdsQuiesced = true))
    (ha : MutexStep t s.activeCallsMutex (a.holdsActive = true) activeMutex (b.holdsActive = true))
    (hc : CountStep s.activeCalls (a.counted = true) n (b.counted = true))
    (hkept : a.holdsActive = false → n = s.activeCalls) (hrises : a.holdsQuiesced = false → n ≤ s.activeCalls)
    (hrefused : s.apiQuiesced = true → b.counted = true → a.counted = true) (hu : b ≠ .uncountedBody) :
    QuiesceMove s t { s.at t b with
      apiQuiescedMutex := quiescedMutex, activeCallsMutex := activeMutex, activeCalls := n } := by
  have hself : (s.at t b).pc t = b := pc_at_self
  subst hpc
  refine ⟨fun _ h => pc_at_of_ne h, rfl, ?_, ?_, ?_, hkept, hrises, ?_, fun h => absurd (hself.symm.trans h) hu⟩
  · exact hself.symm ▸ hq
  · exact hself.symm ▸ ha
  · exact hself.symm ▸ hc
  · exact hself.symm ▸ hrefused

section
variable (hpc : s.pc t = a) (hc : b.counted = a.counted) (hu : b ≠ .uncountedBody)
include hpc hc hu

theorem QuiesceMove.at (hq : b.holdsQuiesced = a.holdsQuiesced) (ha : b.holdsActive = a.holdsActive) :
    QuiesceMove s t (s.at t b) :=
  .to hpc (.keep hq.symm.trans) (.keep ha.symm.trans) (.keep (by rw [hc])) (fun _ => rfl) (fun _ => Nat.le_refl _)
    (fun _ => hc.symm.trans) hu

theorem QuiesceMove.lockQuiesced (ha : b.holdsActive = a.holdsActive) : QuiesceMove s t (s.lockQuiesced t b) := by
  unfold QuiesceState.lockQuiesced
  split
  · rename_i hfree
    exact .to hpc (hfree ▸ .lock) (.keep ha.symm.trans) (.keep (by rw [hc])) (fun _ => rfl) (fun _ => Nat.le_refl _)
      (fun _ => hc.symm.trans) hu
  · exact .stay

theorem QuiesceMove.lockActive (hq : b.holdsQuiesced = a.holdsQuiesced) : QuiesceMove s t (s.lockActive t b) := by
  unfold QuiesceState.lockActive
  split
  · rename_i hfree
    exact .to hpc (.keep hq.symm.trans) (hfree ▸ .lock) (.keep (by rw [hc])) (fun _ => rfl) (fun _ => Nat.le_refl _)
      (fun _ => hc.symm.trans) hu
  · exact .stay

theorem QuiesceMove.unlockQuiesced (hq : a.holdsQuiesced = true) (hq' : b.holdsQuiesced = false)
    (ha : b.holdsActive = a.holdsActive) : QuiesceMove s t (s.unlockQuiesced t b) :=
  .to hpc (.unlock hq (Bool.eq_false_iff.1 hq')) (.keep ha.symm.trans) (.keep (by rw [hc])) (fun _ => rfl)
    (fun _ => Nat.le_refl _) (fun _ => hc.symm.trans) hu

end

end Moves

/-! ## The flags of the library -/

/-- **What a step does to the flags**: they are changed in `ddca_redetect_displays` only, and its test is passed by a call
of it only. -/
structure RedetectMove (s : QuiesceState T) (t : T) (s' : QuiesceState T) : Prop where
  quiescedKept : ¬ (s.pc t).inRedetect → s'.apiQuiesced = s.apiQuiesced
  activeKept : ¬ (s.pc t).inRedetect → s'.ddcaRedetectActive = s.ddcaRedetectActive
  entered : (s'.pc t).inRedetect → (s.pc t).inRedetect
  quiesced : (s'.pc t).hasQuiesced = true → s'.apiQuiesced = true ∨
    (s.pc t).hasQuiesced = true ∧ s'.apiQuiesced = s.apiQuiesced
  active : (s'.pc t).redetectSet = true → s'.ddcaRedetectActive = true ∨
    (s.pc t).redetectSet = true ∧ s'.ddcaRedetectActive = s.ddcaRedetectActive

variable {s s' : QuiesceState T} {t : T} {pc b : QuiescePc T} {e : QuiesceEvent T}

theorem RedetectMove.stay : RedetectMove s t s where
  quiescedKept := fun _ => rfl
  activeKept := fun _ => rfl
  entered := id
  quiesced := fun h => .inr ⟨h, rfl⟩
  active := fun h => .inr ⟨h, rfl⟩

theorem inRedetect_of_hasQuiesced (h : pc.hasQuiesced = true) : pc.inRedetect := by
  cases pc with
  | redetecting oops left | unquiesceStart oops left | unquiesceLocked oops left => exact .inl rfl
  | _ => cases h

/-- A thread that is at `b` after `a` is not in `ddca_redetect_displays`, or has been there before. -/
def QuiescePc.Follows (a b : QuiescePc T) : Prop :=
  (b.inRedetect → a.inRedetect) ∧ (b.hasQuiesced = true → a.hasQuiesced = true) ∧
    (b.redetectSet = true → a.redetectSet = true)

theorem follows_outside {a : QuiescePc T} (h : b.redetectSet = false) (h' : b ≠ .redetectTested) : a.Follows b := by
  have hnot : ¬ b.inRedetect := by
    rintro (hset | htested)
    · exact Bool.false_ne_true (h.symm.trans hset)
    · exact h' htested
  exact ⟨fun hin => absurd hin hnot, fun hhas => absurd (inRedetect_of_hasQuiesced hhas) hnot,
    fun hset => absurd (.inl hset) hnot⟩

theorem follows_inside {a : QuiescePc T} (h : a.redetectSet = true)
    (h' : b.hasQuiesced = true → a.hasQuiesced = true) : a.Follows b :=
  ⟨fun _ => .inl h, h', fun _ => h⟩

/-! ## The invariant -/

def QuiesceState.LeftOver (s : QuiesceState T) (oops : Bool) (left : T → Option Nat) : Prop :=
  ∀ u, (s.pc u).counted = true → oops = true ∧ left u = some (s.callNo u)

def QuiesceState.Waits (s : QuiesceState T) : QuiescePc T → Prop
  | .quiescePolling _ activeAtStart _ => s.activeCalls = activeAtStart ∧ 0 < activeAtStart
  | .quiescePolled _ activeAtStart oops => (oops = false → s.activeCalls = 0) ∧ (activeAtStart = 0 → oops = false)
  | .quiesceSetting _ activeAtStart oops => (oops = false → s.activeCalls = 0) ∧ (activeAtStart = 0 → oops = false)
  | .redetecting oops left => s.LeftOver oops left
  | .unquiesceStart oops left => s.LeftOver oops left
  | .unquiesceLocked oops left => s.LeftOver oops left
  | _ => True

structure QuiesceInv (s : QuiesceState T) : Prop where
  quiescedMutex : Guarded s.apiQuiescedMutex fun t => (s.pc t).holdsQuiesced = true
  activeMutex : Guarded s.activeCallsMutex fun t => (s.pc t).holdsActive = true
  count : Counts s.activeCalls fun t => (s.pc t).counted = true
  one : ∀ t u, (s.pc t).inRedetect → (s.pc u).inRedetect → t = u
  active : ∀ t, (s.pc t).redetectSet = true → s.ddcaRedetectActive = true
  quiesced : ∀ t, (s.pc t).hasQuiesced = true → s.apiQuiesced = true
  uncounted : ∀ t, s.pc t ≠ .uncountedBody
  waits : ∀ t, s.Waits (s.pc t)

theorem quiesce_start_inv (libraryDisabled : Bool) : QuiesceInv (QuiesceState.start libraryDisabled : QuiesceState T) where
  quiescedMutex := fun t h => by cases h
  activeMutex := fun t h => by cases h
  count := by
    obtain ⟨S, hmem, hcard⟩ := counts_none (T := T)
    exact ⟨S, fun t => (hmem t).trans (iff_of_false id Bool.false_ne_true), hcard⟩
  one := fun t u h => by
    rcases h with h | h
    · cases h
    · cases h
  active := fun t h => by cases h
  quiesced := fun t h => by cases h
  uncounted := fun t h => by cases h
  waits := fun _ => trivial

theorem QuiesceInv.leftOver (h : QuiesceInv s) {oops : Bool} (hoops : oops = false → s.activeCalls = 0) :
    s.LeftOver oops s.outstanding := by
  intro u hu
  constructor
  · by_contra hfalse
    have hcount := h.count
    rw [hoops (Bool.eq_false_iff.2 hfalse)] at hcount; exact hcount.zero u hu
  · exact if_pos hu

theorem waits_self (hpc : s'.pc t = b) (h : s'.Waits b) : s'.Waits (s'.pc t) := by
  rw [hpc]; exact h

theorem QuiesceInv.counted_of_inCall (h : QuiesceInv s) (ht : (s.pc t).inCall) : (s.pc t).counted = true := by
  rcases ht with hcounted | hbody
  · exact hcounted
  · exact absurd hbody (h.uncounted t)

theorem not_counted_of_hasQuiesced (h : pc.hasQuiesced = true) : pc.counted = false := by
  cases pc with
  | redetecting oops left | unquiesceStart oops left | unquiesceLocked oops left => rfl
  | _ => cases h

theorem quiesceMeets_go
    (h : ∀ outstanding activeAtStart oops,
    s.pc t = .quiesceSetting outstanding activeAtStart oops → activeAtStart = 0) : QuiesceMeets s (.go t) where
  counted := fun _ h => by cases h
  tested := fun _ h => by cases h
  noneActive := by
    rintro u outstanding activeAtStart oops he hpc
    cases he; exact .inl (h outstanding activeAtStart oops hpc)

theorem quiesceMeets_redetect (t : T) (h : ∀ u, s.pc u ≠ .redetectTested) :
    QuiesceMeets s (.redetect t) where
  counted := fun _ h => by cases h
  tested := fun _ _ => h
  noneActive := fun _ _ _ _ h => by cases h

theorem quiesceMeets_call (s : QuiesceState T) (t : T) : QuiesceMeets s (.call t) where
  counted := fun _ h => by cases h
  tested := fun _ h => by cases h
  noneActive := fun _ _ _ _ h => by cases h

/-! ## The steps -/

variable [DecidableEq T]

theorem quiesceGo_move (s : QuiesceState T) (t : T) : QuiesceMove s t (quiesceGo s t (s.pc t)) := by
  cases hpc : s.pc t with
  | outside => exact .stay
  | incrementStart => exact .lockQuiesced hpc rfl (by simp) rfl
  | incrementLocked => exact .lockActive hpc rfl (by simp) rfl
  | incrementing =>
    dsimp only [quiesceGo]
    split
    · exact .to hpc (.keep id) (.unlock rfl Bool.false_ne_true) (.keep .rfl) (fun h => by cases h)
        (fun _ => Nat.le_refl _) (fun _ h => h) (by simp)
    · rename_i hopen
      exact .to hpc (.keep id) (.unlock rfl Bool.false_ne_true) (.enter Bool.false_ne_true rfl) (fun h => by cases h)
        (fun h => by cases h) (fun hquiesced _ => absurd (.inl hquiesced) hopen) (by simp)
  | incremented ok =>
    cases ok with
    | true | false => exact .unlockQuiesced hpc rfl (by simp) rfl rfl rfl
  | body | uncountedBody => exact .at hpc rfl (by simp) rfl rfl
  | epilogue => exact .lockActive hpc rfl (by simp) rfl
  | decrementing =>
    refine .to hpc (.keep id) (.unlock rfl Bool.false_ne_true) (.leave rfl Bool.false_ne_true) (fun h => by cases h)
      (fun _ => ?_) (fun _ h => by cases h) (by simp)
    split <;> omega
  | redetectTested => exact (QuiesceMove.at (b := .quiesceStart s.outstanding) hpc rfl (by simp) rfl rfl).withFlags s.apiQuiesced true
  | quiesceStart outstanding => exact .lockQuiesced hpc rfl (by simp) rfl
  | quiesceLocked outstanding => exact .lockActive hpc rfl (by simp) rfl
  | quiesceTest outstanding =>
    dsimp only [quiesceGo]
    split
    · exact .at hpc rfl (by simp) rfl rfl
    · exact .at hpc rfl (by simp) rfl rfl
  | quiescePolling outstanding activeAtStart sleptNanosec =>
    dsimp only [quiesceGo, quiescePoll]
    split
    · split
      · exact .at hpc rfl (by simp) rfl rfl
      · exact .at hpc rfl (by simp) rfl rfl
    · exact .at hpc rfl (by simp) rfl rfl
  | quiescePolled outstanding activeAtStart oops =>
    exact .to hpc (.keep id) (.unlock rfl Bool.false_ne_true) (.keep .rfl) (fun h => by cases h)
        (fun _ => Nat.le_refl _) (fun _ h => h) (by simp)
  | quiesceSetting outstanding activeAtStart oops =>
    exact (QuiesceMove.unlockQuiesced (b := .redetecting oops s.outstanding) hpc rfl (by simp) rfl rfl rfl).withFlags true
      s.ddcaRedetectActive
  | redetecting oops left => exact .at hpc rfl (by simp) rfl rfl
  | unquiesceStart oops left => exact .lockQuiesced hpc rfl (by simp) rfl
  | unquiesceLocked oops left =>
    exact (QuiesceMove.unlockQuiesced (b := .redetected) hpc rfl (by simp) rfl rfl rfl).withFlags false s.ddcaRedetectActive
  | redetected => exact (QuiesceMove.at (b := .outside) hpc rfl (by simp) rfl rfl).withFlags s.apiQuiesced false

section Flags

variable {s : QuiesceState T} {t : T} {a b : QuiescePc T}

theorem RedetectMove.to {quiescedMutex activeMutex : Option T} {n : Nat} (hpc : s.pc t = a) (h : a.Follows b) :
    RedetectMove s t { s.at t b with
      apiQuiescedMutex := quiescedMutex, activeCallsMutex := activeMutex, activeCalls := n } := by
  have hself : (s.at t b).pc t = b := pc_at_self
  subst hpc
  refine ⟨fun _ => rfl, fun _ => rfl, ?_, fun hhas => .inr ⟨?_, rfl⟩, fun hset => .inr ⟨?_, rfl⟩⟩
  · exact hself.symm ▸ h.1
  · exact h.2.1 (hself ▸ hhas)
  · exact h.2.2 (hself ▸ hset)

theorem RedetectMove.lockQuiesced (hpc : s.pc t = a) (h : a.Follows b) : RedetectMove s t (s.lockQuiesced t b) := by
  unfold QuiesceState.lockQuiesced
  split
  · exact .to hpc h
  · exact .stay

theorem RedetectMove.lockActive (hpc : s.pc t = a) (h : a.Follows b) : RedetectMove s t (s.lockActive t b) := by
  unfold QuiesceState.lockActive
  split
  · exact .to hpc h
  · exact .stay

end Flags

theorem quiesceGo_flags (s : QuiesceState T) (t : T) : RedetectMove s t (quiesceGo s t (s.pc t)) := by
  cases hpc : s.pc t with
  | outside => exact .stay
  | incrementStart => exact .lockQuiesced hpc (follows_outside rfl (by simp))
  | incrementLocked => exact .lockActive hpc (follows_outside rfl (by simp))
  | incrementing =>
    dsimp only [quiesceGo]
    split
    · exact .to hpc (follows_outside (b := .incremented false) rfl (by simp))
    · exact .to hpc (follows_outside (b := .incremented true) rfl (by simp))
  | incremented ok =>
    cases ok with
    | true => exact .to hpc (follows_outside (b := .body) rfl (by simp))
    | false => exact .to hpc (follows_outside (b := .outside) rfl (by simp))
  | body => exact .to hpc (follows_outside (b := .epilogue) rfl (by simp))
  | uncountedBody | decrementing => exact .to hpc (follows_outside (b := .outside) rfl (by simp))
  | epilogue => exact .lockActive hpc (follows_outside rfl (by simp))
  | redetectTested =>
    refine ⟨fun _ => rfl, fun h => absurd (.inr hpc) h, fun _ => .inr hpc, fun h => ?_, fun _ => .inl rfl⟩
    have hnot : ((s.at t (.quiesceStart s.outstanding)).pc t).hasQuiesced = true := h
    rw [pc_at_self] at hnot; cases hnot
  | quiesceStart outstanding => exact .lockQuiesced hpc (follows_inside rfl id)
  | quiesceLocked outstanding => exact .lockActive hpc (follows_inside rfl id)
  | quiesceTest outstanding =>
    dsimp only [quiesceGo]
    split
    · exact .to hpc (follows_inside (b := .quiescePolling _ _ _) rfl id)
    · exact .to hpc (follows_inside (b := .quiescePolled _ _ _) rfl id)
  | quiescePolling outstanding activeAtStart sleptNanosec =>
    dsimp only [quiesceGo, quiescePoll]
    split
    · split
      · exact .to hpc (follows_inside (b := .quiescePolled _ _ _) rfl id)
      · exact .to hpc (follows_inside (b := .quiescePolling _ _ _) rfl id)
    · exact .to hpc (follows_inside (b := .quiescePolled _ _ _) rfl id)
  | quiescePolled outstanding activeAtStart oops =>
    exact .to hpc (follows_inside (b := .quiesceSetting _ _ _) rfl id)
  | quiesceSetting outstanding activeAtStart oops =>
    have hin : (s.pc t).inRedetect := by rw [hpc]; exact .inl rfl
    exact ⟨fun h => absurd hin h, fun _ => rfl, fun _ => hin, fun _ => .inl rfl, fun _ => .inr ⟨by rw [hpc]; rfl, rfl⟩⟩
  | redetecting oops left => exact .to hpc (follows_inside (b := .unquiesceStart _ _) rfl id)
  | unquiesceStart oops left => exact .lockQuiesced hpc (follows_inside rfl id)
  | unquiesceLocked oops left =>
    have hin : (s.pc t).inRedetect := by rw [hpc]; exact .inl rfl
    refine ⟨fun h => absurd hin h, fun _ => rfl, fun _ => hin, fun h => ?_, fun _ => .inr ⟨by rw [hpc]; rfl, rfl⟩⟩
    have hnot : ((s.at t .redetected).pc t).hasQuiesced = true := h
    rw [pc_at_self] at hnot; cases hnot
  | redetected =>
    have hin : (s.pc t).inRedetect := by rw [hpc]; exact .inl rfl
    refine ⟨fun _ => rfl, fun h => absurd hin h, fun _ => hin, fun h => ?_, fun h => ?_⟩
    · have hnot : ((s.at t .outside).pc t).hasQuiesced = true := h
      rw [pc_at_self] at hnot; cases hnot
    · have hnot : ((s.at t .outside).pc t).redetectSet = true := h
      rw [pc_at_self] at hnot; cases hnot

theorem QuiesceInv.waits_other (h : QuiesceInv s) (hmove : QuiesceMove s t s') {u : T} (hut : u ≠ t) :
    s'.Waits (s.pc u) := by
  have hwaits := h.waits u
  have hactive : (s.pc u).holdsActive = true → s'.activeCalls = s.activeCalls := by
    intro hu
    apply hmove.activeKept
    exact Bool.eq_false_iff.2 fun ht => hut (h.activeMutex.unique hu ht)
  have hleft : ∀ (oops : Bool) (left : T → Option Nat), (s.pc u).hasQuiesced = true →
      (∀ v, (s.pc v).counted = true → oops = true ∧ left v = some (s.callNo v)) →
        ∀ v, (s'.pc v).counted = true → oops = true ∧ left v = some (s'.callNo v) := by
    intro oops left hu hall v hv
    rw [hmove.callNo]
    apply hall v
    by_cases hvt : v = t
    · rw [hvt] at hv ⊢; exact hmove.refused (h.quiesced u hu) hv
    · rw [hmove.others v hvt] at hv; exact hv
  cases hpc : s.pc u with
  | quiescePolling outstanding activeAtStart sleptNanosec =>
    rw [hpc] at hwaits hactive; exact ⟨(hactive rfl).trans hwaits.1, hwaits.2⟩
  | quiescePolled outstanding activeAtStart oops =>
    rw [hpc] at hwaits hactive; exact ⟨fun hoops => (hactive rfl).trans (hwaits.1 hoops), hwaits.2⟩
  | quiesceSetting outstanding activeAtStart oops =>
    have hrise : s'.activeCalls ≤ s.activeCalls := by
      apply hmove.activeRises
      exact Bool.eq_false_iff.2 fun ht => hut (h.quiescedMutex.unique (by rw [hpc]; rfl) ht)
    rw [hpc] at hwaits; exact ⟨fun hoops => Nat.le_zero.1 (hwaits.1 hoops ▸ hrise), hwaits.2⟩
  | redetecting oops left =>
    rw [hpc] at hwaits hleft; exact hleft oops left rfl hwaits
  | unquiesceStart oops left =>
    rw [hpc] at hwaits hleft; exact hleft oops left rfl hwaits
  | unquiesceLocked oops left =>
    rw [hpc] at hwaits hleft; exact hleft oops left rfl hwaits
  | _ => trivial

/-! ## What the thread itself knows -/

theorem LeftOver.at {oops : Bool} {left : T → Option Nat} (h : s.LeftOver oops left) (hb : b.counted = false) :
    (s.at t b).LeftOver oops left := by
  intro u hu
  by_cases hut : u = t
  · rw [hut, pc_at_self, hb] at hu; cases hu
  · rw [pc_at_of_ne hut] at hu; exact h u hu

theorem QuiesceInv.waits_lockQuiesced (h : QuiesceInv s) (hb : (s.at t b).Waits b) :
    (s.lockQuiesced t b).Waits ((s.lockQuiesced t b).pc t) := by
  unfold QuiesceState.lockQuiesced
  split
  · exact waits_self (b := b) pc_at_self (by cases b <;> exact hb)
  · exact h.waits t

theorem QuiesceInv.waits_lockActive (h : QuiesceInv s) (hb : (s.at t b).Waits b) :
    (s.lockActive t b).Waits ((s.lockActive t b).pc t) := by
  unfold QuiesceState.lockActive
  split
  · exact waits_self (b := b) pc_at_self (by cases b <;> exact hb)
  · exact h.waits t

theorem QuiesceInv.waits_go (h : QuiesceInv s) (t : T) :
    (quiesceGo s t (s.pc t)).Waits ((quiesceGo s t (s.pc t)).pc t) := by
  have hwaits := h.waits t
  cases hpc : s.pc t with
  | outside => exact h.waits t
  | incrementStart => exact h.waits_lockQuiesced trivial
  | incrementLocked => exact h.waits_lockActive trivial
  | incrementing =>
    dsimp only [quiesceGo]
    split
    · exact waits_self (b := .incremented false) pc_at_self trivial
    · exact waits_self (b := .incremented true) pc_at_self trivial
  | incremented ok =>
    cases ok with
    | true => exact waits_self (b := .body) pc_at_self trivial
    | false => exact waits_self (b := .outside) pc_at_self trivial
  | body => exact waits_self (b := .epilogue) pc_at_self trivial
  | uncountedBody => exact waits_self (b := .outside) pc_at_self trivial
  | epilogue => exact h.waits_lockActive trivial
  | decrementing => exact waits_self (b := .outside) pc_at_self trivial
  | redetectTested => exact waits_self (b := .quiesceStart s.outstanding) pc_at_self trivial
  | quiesceStart outstanding => exact h.waits_lockQuiesced trivial
  | quiesceLocked outstanding => exact h.waits_lockActive trivial
  | quiesceTest outstanding =>
    dsimp only [quiesceGo]
    split
    · rename_i hpos; exact waits_self pc_at_self ⟨rfl, hpos⟩
    · rename_i hnone
      exact waits_self pc_at_self ⟨fun _ => Nat.eq_zero_of_not_pos hnone, fun _ => rfl⟩
  | quiescePolling outstanding activeAtStart sleptNanosec =>
    rw [hpc] at hwaits
    dsimp only [quiesceGo, quiescePoll]
    split
    · split
      · rename_i hzero; exact waits_self pc_at_self ⟨fun _ => hzero, fun _ => rfl⟩
      · exact waits_self pc_at_self hwaits
    · exact waits_self pc_at_self ⟨fun hoops => absurd hoops.symm Bool.false_ne_true, fun hzero => absurd hzero hwaits.2.ne'⟩
  | quiescePolled outstanding activeAtStart oops =>
    rw [hpc] at hwaits
    exact waits_self (b := .quiesceSetting outstanding activeAtStart oops) pc_at_self hwaits
  | quiesceSetting outstanding activeAtStart oops =>
    rw [hpc] at hwaits
    exact waits_self (b := .redetecting oops s.outstanding) pc_at_self
      (LeftOver.at (h.leftOver hwaits.1) (t := t) (b := .redetecting oops s.outstanding) rfl)
  | redetecting oops left =>
    rw [hpc] at hwaits
    exact waits_self pc_at_self (LeftOver.at hwaits (t := t) (b := .unquiesceStart oops left) rfl)
  | unquiesceStart oops left =>
    rw [hpc] at hwaits
    exact h.waits_lockQuiesced (LeftOver.at hwaits (t := t) (b := .unquiesceLocked oops left) rfl)
  | unquiesceLocked oops left => exact waits_self (b := .redetected) pc_at_self trivial
  | redetected => exact waits_self (b := .outside) pc_at_self trivial

/-! ## The invariant over runs -/

theorem QuiesceInv.go (h : QuiesceInv s) (t : T) : QuiesceInv (quiesceGo s t (s.pc t)) := by
  have hmove := quiesceGo_move s t
  have hflags := quiesceGo_flags s t
  have hothers := hmove.others
  have hin : ∀ u, ((quiesceGo s t (s.pc t)).pc u).inRedetect → (s.pc u).inRedetect := by
    intro u hu
    by_cases hut : u = t
    · rw [hut] at hu ⊢; exact hflags.entered hu
    · rw [hothers u hut] at hu; exact hu
  -- where another thread is in `ddca_redetect_displays`, this one is not
  have hkept : ∀ u, u ≠ t → (s.pc u).inRedetect → ¬ (s.pc t).inRedetect := fun u hut hu ht => hut (h.one u t hu ht)
  refine ⟨?_, ?_, ?_, ?_, ?_, ?_, ?_, ?_⟩
  · exact h.quiescedMutex.step (fun u hut hu => hothers u hut ▸ hu) hmove.quiescedMutex
  · exact h.activeMutex.step (fun u hut hu => hothers u hut ▸ hu) hmove.activeMutex
  · exact h.count.step (fun u hut => by rw [hothers u hut]) hmove.count
  · exact fun u v hu hv => h.one u v (hin u hu) (hin v hv)
  · intro u hu
    by_cases hut : u = t
    · rw [hut] at hu
      rcases hflags.active hu with hset | ⟨hbefore, hsame⟩
      · exact hset
      · exact hsame.trans (h.active t hbefore)
    · rw [hothers u hut] at hu
      exact (hflags.activeKept (hkept u hut (.inl hu))).trans (h.active u hu)
  · intro u hu
    by_cases hut : u = t
    · rw [hut] at hu
      rcases hflags.quiesced hu with hset | ⟨hbefore, hsame⟩
      · exact hset
      · exact hsame.trans (h.quiesced t hbefore)
    · rw [hothers u hut] at hu
      exact (hflags.quiescedKept (hkept u hut (inRedetect_of_hasQuiesced hu))).trans (h.quiesced u hu)
  · intro u hu
    by_cases hut : u = t
    · rw [hut] at hu; exact h.uncounted t (hmove.uncounted hu)
    · rw [hothers u hut] at hu; exact h.uncounted u hu
  · intro u
    by_cases hut : u = t
    · rw [hut]; exact h.waits_go t
    · rw [hothers u hut]; exact h.waits_other hmove hut

theorem Waits.begun (h : s.Waits pc) (hb : b.counted = false) :
    QuiesceState.Waits { s.at t b with callNo := update s.callNo t (s.callNo t + 1) } pc := by
  have hleft : ∀ (oops : Bool) (left : T → Option Nat), s.LeftOver oops left →
      QuiesceState.LeftOver { s.at t b with callNo := update s.callNo t (s.callNo t + 1) } oops left := by
    intro oops left hall u hu
    have hut : u ≠ t := by
      rintro rfl
      have hcounted : ((s.at u b).pc u).counted = true := hu
      rw [pc_at_self, hb] at hcounted; cases hcounted
    have hbefore : (s.pc u).counted = true := pc_at_of_ne (s := s) (b := b) hut ▸ hu
    obtain ⟨hoops, hcall⟩ := hall u hbefore
    exact ⟨hoops, hcall.trans (congrArg some (update_of_ne hut _ _).symm)⟩
  cases pc with
  | redetecting oops left => exact hleft oops left h
  | unquiesceStart oops left => exact hleft oops left h
  | unquiesceLocked oops left => exact hleft oops left h
  | _ => exact h

/-- **A thread that begins a call**, of a function that respects quiescing or of `ddca_redetect_displays`. -/
theorem QuiesceInv.enter (h : QuiesceInv s) (hpc : s.pc t = .outside) (hb : b = .incrementStart ∨ b = .redetectTested)
    (halone : b = .redetectTested → ∀ u, ¬ (s.pc u).inRedetect) :
    QuiesceInv { s.at t b with callNo := update s.callNo t (s.callNo t + 1) } := by
  have hself : (s.at t b).pc t = b := pc_at_self
  have hothers : ∀ u, u ≠ t → (s.at t b).pc u = s.pc u := fun u hut => pc_at_of_ne hut
  have hquiesced : b.holdsQuiesced = false := by rcases hb with rfl | rfl <;> rfl
  have hactive : b.holdsActive = false := by rcases hb with rfl | rfl <;> rfl
  have hcounted : b.counted = false := by rcases hb with rfl | rfl <;> rfl
  have hset : b.redetectSet = false := by rcases hb with rfl | rfl <;> rfl
  have hhas : b.hasQuiesced = false := by rcases hb with rfl | rfl <;> rfl
  have hin : ∀ u, ((s.at t b).pc u).inRedetect → u = t ∧ b = .redetectTested ∨ (s.pc u).inRedetect := by
    intro u hu
    by_cases hut : u = t
    · rw [hut, hself] at hu
      rcases hu with hu | hu
      · exact absurd (hset.symm.trans hu) Bool.false_ne_true
      · exact .inl ⟨hut, hu⟩
    · rw [hothers u hut] at hu; exact .inr hu
  refine ⟨?_, ?_, ?_, ?_, ?_, ?_, ?_, ?_⟩
  · refine h.quiescedMutex.step (t := t) (fun u hut hu => hothers u hut ▸ hu) (.keep fun hu => ?_)
    exact absurd (hquiesced.symm.trans (hself ▸ hu)) Bool.false_ne_true
  · refine h.activeMutex.step (t := t) (fun u hut hu => hothers u hut ▸ hu) (.keep fun hu => ?_)
    exact absurd (hactive.symm.trans (hself ▸ hu)) Bool.false_ne_true
  · refine h.count.step (t := t) (fun u hut => ?_) (.keep ?_)
    · rw [hothers u hut]
    · rw [hself, hpc, hcounted]; rfl
  · intro u v hu hv
    rcases hin u hu with ⟨hut, hb'⟩ | hu'
    · rcases hin v hv with ⟨hvt, -⟩ | hv'
      · exact hut.trans hvt.symm
      · exact absurd hv' (halone hb' v)
    · rcases hin v hv with ⟨-, hb'⟩ | hv'
      · exact absurd hu' (halone hb' u)
      · exact h.one u v hu' hv'
  · intro u hu
    apply h.active u
    by_cases hut : u = t
    · rw [hut] at hu; exact absurd (hset.symm.trans (hself ▸ hu)) Bool.false_ne_true
    · exact hothers u hut ▸ hu
  · intro u hu
    apply h.quiesced u
    by_cases hut : u = t
    · rw [hut] at hu; exact absurd (hhas.symm.trans (hself ▸ hu)) Bool.false_ne_true
    · exact hothers u hut ▸ hu
  · intro u hu
    apply h.uncounted u
    by_cases hut : u = t
    · rw [hut] at hu
      have hbody : b = .uncountedBody := hself ▸ hu
      rcases hb with rfl | rfl <;> cases hbody
    · exact hothers u hut ▸ hu
  · intro u
    by_cases hut : u = t
    · rw [hut]; exact waits_self hself (by rcases hb with rfl | rfl <;> trivial)
    · exact waits_self (hothers u hut) (Waits.begun (h.waits u) hcounted)

theorem enterFrom_cases (s : QuiesceState T) (t : T) (b : QuiescePc T) :
    s.pc t = .outside ∧
      s.enterFrom t b = { s.at t b with callNo := update s.callNo t (s.callNo t + 1) } ∨
    s.enterFrom t b = s := by
  unfold QuiesceState.enterFrom
  split
  · rename_i hpc; exact .inl ⟨hpc, rfl⟩
  · exact .inr rfl

theorem QuiesceInv.step (h : QuiesceInv s) (hmeets : QuiesceMeets s e) (hs : quiesceStep s e = .ok s') :
    QuiesceInv s' := by
  cases e with
  | call t =>
    cases hs
    rcases enterFrom_cases s t .incrementStart with ⟨hpc, hs⟩ | hs
    · rw [hs]; exact h.enter hpc (.inl rfl) (by simp)
    · rw [hs]; exact h
  | callUncounted t => exact absurd rfl (hmeets.counted t)
  | redetect t =>
    cases hs
    split
    · exact h
    · rename_i hinactive
      rcases enterFrom_cases s t .redetectTested with ⟨hpc, hs⟩ | hs
      · rw [hs]
        refine h.enter hpc (.inr rfl) fun _ u hu => ?_
        rcases hu with hset | htested
        · exact hinactive (h.active u hset)
        · exact hmeets.tested t rfl u htested
      · rw [hs]; exact h
  | go t =>
    cases hs; exact h.go t

theorem go_of_counted {v : T} (hs : quiesceStep s e = .ok s') (hbefore : (s.pc v).counted = false)
    (hafter : (s'.pc v).counted = true) : e = .go v := by
  have henter : ∀ (t : T) (b : QuiescePc T), b.counted = false → ((s.enterFrom t b).pc v).counted ≠ true := by
    intro t b hb hcounted
    rcases enterFrom_cases s t b with ⟨-, hs⟩ | hs
    · rw [hs] at hcounted
      by_cases hvt : v = t
      · rw [hvt] at hcounted
        have hself : (s.at t b).pc t = b := pc_at_self
        exact absurd (hb.symm.trans (hself ▸ hcounted)) Bool.false_ne_true
      · have hother : (s.at t b).pc v = s.pc v := pc_at_of_ne hvt
        exact absurd (hbefore.symm.trans (hother ▸ hcounted)) Bool.false_ne_true
    · rw [hs, hbefore] at hcounted; cases hcounted
  cases e with
  | call t =>
    cases hs; exact absurd hafter (henter t .incrementStart rfl)
  | callUncounted t =>
    cases hs; exact absurd hafter (henter t .uncountedBody rfl)
  | redetect t =>
    cases hs
    split at hafter
    · exact absurd (hbefore.symm.trans hafter) Bool.false_ne_true
    · exact absurd hafter (henter t .redetectTested rfl)
  | go t =>
    cases hs
    by_cases hvt : v = t
    · rw [hvt]
    · rw [(quiesceGo_move s t).others v hvt, hbefore] at hafter; cases hafter

theorem QuiesceInv.right (h : QuiesceInv s) (hmeets : QuiesceMeets s e) (hs : quiesceStep s e = .ok s') :
    QuiesceStepRight s e s' where
  waited := by
    rintro t outstanding activeAtStart oops rfl hpc hnone
    cases hs
    have hwaits := h.waits t
    rw [hpc] at hwaits ⊢
    have hoops : oops = false := by
      rcases hmeets.noneActive t outstanding activeAtStart oops rfl hpc with hzero | hsome
      · exact hwaits.2 hzero
      · exact absurd hsome hnone
    exact ⟨hwaits.1 hoops, hoops⟩
  refused := by
    intro v hbefore hafter u
    have hafter := (h.step hmeets hs).counted_of_inCall hafter
    have hbefore : (s.pc v).counted = false := Bool.eq_false_iff.2 fun hcounted => hbefore (.inl hcounted)
    apply Bool.eq_false_iff.2
    intro hquiesced
    have hgo := go_of_counted hs hbefore hafter
    subst hgo
    cases hs
    have huv : u ≠ v := by
      rintro rfl
      exact absurd ((not_counted_of_hasQuiesced hquiesced).symm.trans hafter) Bool.false_ne_true
    rw [(quiesceGo_move s v).others u huv] at hquiesced
    have hcounted := (quiesceGo_move s v).refused (h.quiesced u hquiesced) hafter
    exact absurd (hbefore.symm.trans hcounted) Bool.false_ne_true
  alone := by
    intro r oops left hpc v hv
    have h' := h.step hmeets hs
    have hwaits := h'.waits r
    rw [hpc] at hwaits; exact hwaits v (h'.counted_of_inCall hv)

/-- **In every run whose steps all go right, quiescing does what it promises.** -/
theorem quiesce_right (libraryDisabled : Bool) (events : List (QuiesceEvent T))
    (hmeets : AllAlong quiesceStep QuiesceMeets (.start libraryDisabled) events) :
    AllAlong quiesceStep (fun s e => ∀ s', quiesceStep s e = .ok s' → QuiesceStepRight s e s')
      (.start libraryDisabled) events :=
  hmeets.imp_of_inv (fun _ _ h hmeets _ hs => QuiesceInv.right h hmeets hs)
    (fun _ _ _ h hmeets hs => QuiesceInv.step h hmeets hs) (quiesce_start_inv libraryDisabled)

/-- Displays are redetected while no call is in progress, and a call that begins then is refused. -/
theorem redetect_right : AllAlong quiesceStep (fun s e => ∀ s', quiesceStep s e = .ok s' → QuiesceStepRight s e s')
    (QuiesceState.start false : QuiesceState Bool)
    [.redetect true, .go true, .go true, .go true, .go true, .go true, .go true,
      .call false, .go false, .go false, .go false, .go false] := by
  refine quiesce_right false _ ?_
  refine .cons (quiesceMeets_redetect true fun _ h => by cases h) rfl ?_
  -- ddca_redetect_displays, to the end of quiesce_api
  refine .cons (quiesceMeets_go fun _ _ _ h => by cases h) rfl ?_
  refine .cons (quiesceMeets_go fun _ _ _ h => by cases h) rfl ?_
  refine .cons (quiesceMeets_go fun _ _ _ h => by cases h) rfl ?_
  refine .cons (quiesceMeets_go fun _ _ _ h => by cases h) rfl ?_
  refine .cons (quiesceMeets_go fun _ _ _ h => by cases h) rfl ?_
  refine .cons (quiesceMeets_go fun _ _ _ h => by cases h; rfl) rfl ?_
  -- increment_active_api_calls
  refine .cons (quiesceMeets_call _ false) rfl ?_
  refine .cons (quiesceMeets_go fun _ _ _ h => by cases h) rfl ?_
  refine .cons (quiesceMeets_go fun _ _ _ h => by cases h) rfl ?_
  refine .cons (quiesceMeets_go fun _ _ _ h => by cases h) rfl ?_
  exact .cons (quiesceMeets_go fun _ _ _ h => by cases h) rfl trivial

def callDuringRedetect : List (QuiesceEvent Bool) :=
  [.call false] ++ List.replicate 4 (.go false) ++ [.redetect true] ++ List.replicate 4 (.go true) ++ [.go false] ++
    List.replicate 32 (.go true)

/-- `active_calls` is then still 1 when `quiesce_api` ends: what the epilogue waits for, `quiesce_api` holds. -/
theorem callDuringRedetect_not_right :
    ¬ AllAlong quiesceStep (fun s e => ∀ s', quiesceStep s e = .ok s' → QuiesceStepRight s e s')
      (QuiesceState.start false : QuiesceState Bool) (callDuringRedetect ++ [.go true]) := by
  intro hall
  obtain ⟨s, hs, outstanding, hpc, hother, hnone⟩ : ∃ s, callDuringRedetect.foldlM quiesceStep
      (QuiesceState.start false : QuiesceState Bool) = .ok s ∧ ∃ outstanding,
        s.pc true = .quiesceSetting outstanding 1 true ∧ s.pc false = .epilogue ∧ outstanding true = none :=
    ⟨_, rfl, _, rfl, rfl, rfl⟩
  have hright := AllAlong.last hall hs _ rfl
  have hdone : ¬ SomeOutstanding s outstanding := by
    rintro ⟨t, hcall, hbefore⟩
    cases t with
    | false =>
      rw [hother] at hbefore; cases hbefore
    | true =>
      rw [hnone] at hcall; cases hcall
  exact Bool.noConfusion (hright.waited true outstanding 1 true rfl hpc hdone).2

end Ddc
