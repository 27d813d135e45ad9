import Ddcutil.Kit.Runs
import Ddcutil.Status
import Mathlib.Logic.Function.Basic
import Ddcutil.Kit.Mutex
/-!
# DrefCalls — calls that lock a display reference

`WITH_VALIDATED_DR4` looks the reference up, locks its mutex with `dref_lock`, validates it, executes the action of
the function and unlocks the mutex.  `dref_lock` tries a few times and gives up.
-/
namespace Ddc

open Kit Function

def maxWaitMillisec : Nat := 1000
def firstWaitIntervalMillisec : Nat := 50

/-- **Where a call is.**  `dref0` is what the lookup has found, and `ddcrc` what `dref_lock` has returned, or 0 where it
was not called. -/
inductive DrefCallPc (R D : Type) where
  | outside
  | locking (ddcaDref : R) (dref0 : D) (waitIntervalMillisec totalElapsedMillisec : Nat)
  | locked (ddcaDref : R) (dref0 : Option D) (ddcrc : Status)
  | action (dref0 : Option D) (dref : D)
  | unlocking (dref0 : Option D) (ddcrc : Status)

structure DrefCalls (T R D : Type) where
  accessMutex : D → Option T
  pc : T → DrefCallPc R D
  lockCt : T → D → Nat
  unlockCt : T → D → Nat

variable {T R D : Type}

def DrefCalls.start : DrefCalls T R D where
  accessMutex := fun _ => none
  pc := fun _ => .outside
  lockCt := fun _ _ => 0
  unlockCt := fun _ _ => 0

/-- A thread calls a function with a reference, or goes on; `validation` is what `ddci_validate_ddca_display_ref2` finds
wrong with a reference that is published. -/
inductive DrefCallEvent (T R : Type) where
  | call (t : T) (ddcaDref : R)
  | go (t : T) (validation : Status)

def DrefCallEvent.thread : DrefCallEvent T R → T
  | .call t _ => t
  | .go t _ => t

section Steps

variable [DecidableEq T] [DecidableEq D]

def DrefCalls.at (s : DrefCalls T R D) (t : T) (pc : DrefCallPc R D) : DrefCalls T R D :=
  { s with pc := update s.pc t pc }

def countFor (ct : T → D → Nat) (t : T) (dref : D) : T → D → Nat :=
  update ct t (update (ct t) dref (ct t dref + 1))

def drefLockTurn (s : DrefCalls T R D) (t : T) (ddcaDref : R) (dref0 : D)
    (waitIntervalMillisec totalElapsedMillisec : Nat) : DrefCalls T R D :=
  if totalElapsedMillisec < maxWaitMillisec then
    if s.accessMutex dref0 = none then
      { s.at t (.locked ddcaDref (some dref0) ddcrcOk) with
        accessMutex := update s.accessMutex dref0 (some t)
        lockCt := countFor s.lockCt t dref0 }
    else
      s.at t (.locking ddcaDref dref0 (waitIntervalMillisec * 2) (totalElapsedMillisec + waitIntervalMillisec))
  else s.at t (.locked ddcaDref (some dref0) ddcrcLocked)

def validateDdcaDisplayRef2 (published : R → Option D) (ddcaDref : R) (validation : Status) : Status × Option D :=
  match published ddcaDref with
  | none => (ddcrcArg, none)
  | some dref => (validation, if validation = ddcrcOk then some dref else none)

def afterLock (published : R → Option D) (ddcaDref : R) (dref0 : Option D) (ddcrc validation : Status) :
    DrefCallPc R D :=
  if ddcrc = ddcrcOk then
    match (validateDdcaDisplayRef2 published ddcaDref validation).2 with
    | some dref => .action dref0 dref
    | none => .unlocking dref0 ddcrc
  else .unlocking dref0 ddcrc

/-- `if (dref0) dref_unlock(dref0)`.  A mutex that is not locked must not be unlocked: GLib then aborts. -/
def drefUnlock (s : DrefCalls T R D) (t : T) : Option D → Exec (DrefCalls T R D)
  | none => .ok (s.at t .outside)
  | some dref =>
    if s.accessMutex dref = none then .error .assertFailed
    else .ok { s.at t .outside with
      accessMutex := update s.accessMutex dref none
      unlockCt := countFor s.unlockCt t dref }

def drefCallGo (published : R → Option D) (s : DrefCalls T R D) (t : T) (validation : Status) :
    DrefCallPc R D → Exec (DrefCalls T R D)
  | .outside => .ok s
  | .locking ddcaDref dref0 waitIntervalMillisec totalElapsedMillisec =>
    .ok (drefLockTurn s t ddcaDref dref0 waitIntervalMillisec totalElapsedMillisec)
  | .locked ddcaDref dref0 ddcrc => .ok (s.at t (afterLock published ddcaDref dref0 ddcrc validation))
  | .action dref0 _ => .ok (s.at t (.unlocking dref0 ddcrcOk))
  | .unlocking dref0 _ => drefUnlock s t dref0

def lookupDref (published : R → Option D) (ddcaDref : R) : DrefCallPc R D :=
  match published ddcaDref with
  | none => .locked ddcaDref none ddcrcOk
  | some dref0 => .locking ddcaDref dref0 firstWaitIntervalMillisec 0

def drefCallBegin (published : R → Option D) (s : DrefCalls T R D) (t : T) (ddcaDref : R) : DrefCalls T R D :=
  match s.pc t with
  | .outside => s.at t (lookupDref published ddcaDref)
  | _ => s

def drefCallStep (published : R → Option D) (s : DrefCalls T R D) : DrefCallEvent T R → Exec (DrefCalls T R D)
  | .call t ddcaDref => .ok (drefCallBegin published s t ddcaDref)
  | .go t validation => drefCallGo published s t validation (s.pc t)

end Steps

/-! ## What is promised -/

def DrefCallPc.InAction (pc : DrefCallPc R D) (dref : D) : Prop := ∃ dref0, pc = .action dref0 dref

def DrefCallPc.LockFailed : DrefCallPc R D → Prop
  | .locked _ _ ddcrc => ddcrc ≠ ddcrcOk
  | .unlocking _ ddcrc => ddcrc ≠ ddcrcOk
  | _ => False

/-- **What a step keeps**: one thread at a time executes the action for a reference, a mutex is unlocked by the thread
that holds it and once for each time it was locked, and a call that could not lock it neither executes the action nor
touches it. -/
structure DrefStepRight (s : DrefCalls T R D) (e : DrefCallEvent T R) (s' : DrefCalls T R D) : Prop where
  exclusive : ∀ t u dref, (s'.pc t).InAction dref → (s'.pc u).InAction dref → t = u
  byHolder : ∀ t dref, s.accessMutex dref = some t → s'.accessMutex dref ≠ some t → e.thread = t
  once : ∀ t dref, s'.unlockCt t dref ≤ s'.lockCt t dref ∧ (s'.pc t = .outside → s'.unlockCt t dref = s'.lockCt t dref)
  failed : (s.pc e.thread).LockFailed ∨ (s'.pc e.thread).LockFailed →
    s'.accessMutex = s.accessMutex ∧ ∀ dref, ¬ (s'.pc e.thread).InAction dref

def UnlocksUnlocked (s : DrefCalls T R D) (e : DrefCallEvent T R) : Prop :=
  ∃ t validation dref ddcrc, e = .go t validation ∧ s.pc t = .unlocking (some dref) ddcrc ∧ ddcrc ≠ ddcrcOk

end Ddc

/-! ## When the mutex of a display reference excludes

As long as no call that failed to lock a mutex unlocks it, each mutex is held by the one call that locked it and has not
unlocked it.  The first such call breaks this.
-/

namespace Ddc

open Kit Function

variable {T R D : Type}

def DrefCallPc.holds : DrefCallPc R D → Option D
  | .locked _ dref0 ddcrc => if ddcrc = ddcrcOk then dref0 else none
  | .action dref0 _ => dref0
  | .unlocking dref0 ddcrc => if ddcrc = ddcrcOk then dref0 else none
  | _ => none

def DrefCallPc.Published (published : R → Option D) : DrefCallPc R D → Prop
  | .locking ddcaDref dref0 _ _ => published ddcaDref = some dref0
  | .locked ddcaDref dref0 _ => published ddcaDref = dref0
  | .action dref0 dref => dref0 = some dref
  | _ => True

structure DrefCallsInv (published : R → Option D) (s : DrefCalls T R D) : Prop where
  guarded : ∀ dref, Guarded (s.accessMutex dref) fun t => (s.pc t).holds = some dref
  lookedUp : ∀ t, (s.pc t).Published published
  countHeld : ∀ t dref, (s.pc t).holds = some dref → s.lockCt t dref = s.unlockCt t dref + 1
  countOther : ∀ t dref, (s.pc t).holds ≠ some dref → s.lockCt t dref = s.unlockCt t dref

theorem drefCalls_start_inv (published : R → Option D) : DrefCallsInv published (.start : DrefCalls T R D) where
  guarded := fun _ _ h => by cases h
  lookedUp := fun _ => trivial
  countHeld := fun _ _ h => by cases h
  countOther := fun _ _ _ => rfl

variable {published : R → Option D}

theorem DrefCallsInv.exclusive {s : DrefCalls T R D} (h : DrefCallsInv published s) {t u : T} {dref : D}
    (ht : (s.pc t).InAction dref) (hu : (s.pc u).InAction dref) : t = u := by
  have hholds : ∀ v, (s.pc v).InAction dref → (s.pc v).holds = some dref := by
    rintro v ⟨dref0, hpc⟩
    have hlooked := h.lookedUp v
    rw [hpc] at hlooked ⊢; exact hlooked
  exact (h.guarded dref).unique (hholds t ht) (hholds u hu)

theorem DrefCallsInv.once {s : DrefCalls T R D} (h : DrefCallsInv published s) (t : T) (dref : D) :
    s.unlockCt t dref ≤ s.lockCt t dref ∧ (s.pc t = .outside → s.unlockCt t dref = s.lockCt t dref) := by
  by_cases hholds : (s.pc t).holds = some dref
  · have hcount := h.countHeld t dref hholds
    refine ⟨by omega, fun hout => ?_⟩
    rw [hout] at hholds; cases hholds
  · have hcount := h.countOther t dref hholds
    exact ⟨hcount.ge, fun _ => hcount.symm⟩

/-! ## The steps -/

theorem afterLock_spec {ddcaDref : R} {dref0 : Option D} (ddcrc validation : Status)
    (hlooked : published ddcaDref = dref0) :
    (afterLock published ddcaDref dref0 ddcrc validation).holds = (if ddcrc = ddcrcOk then dref0 else none) ∧
      (afterLock published ddcaDref dref0 ddcrc validation).Published published := by
  rw [afterLock, validateDdcaDisplayRef2, hlooked]
  by_cases hok : ddcrc = ddcrcOk
  · rw [if_pos hok, if_pos hok]
    cases dref0 with
    | none => exact ⟨if_pos hok, trivial⟩
    | some dref =>
      dsimp only
      by_cases hvalid : validation = ddcrcOk
      · rw [if_pos hvalid]; exact ⟨rfl, rfl⟩
      · rw [if_neg hvalid]; exact ⟨if_pos hok, trivial⟩
  · rw [if_neg hok, if_neg hok]; exact ⟨if_neg hok, trivial⟩

theorem not_inAction_of_lockFailed {pc : DrefCallPc R D} (h : pc.LockFailed) (dref : D) : ¬ pc.InAction dref := by
  rintro ⟨dref0, rfl⟩
  exact h

section Steps

variable [DecidableEq T]

theorem DrefCalls.at_self (s : DrefCalls T R D) (t : T) (b : DrefCallPc R D) : (s.at t b).pc t = b := by
  exact update_self t b s.pc

variable {t : T} {published : R → Option D} {s : DrefCalls T R D} {dref0 : D} {e : DrefCallEvent T R}

theorem DrefCalls.at_of_ne (s : DrefCalls T R D) {u : T} (b : DrefCallPc R D) (h : u ≠ t) :
    (s.at t b).pc u = s.pc u := by
  exact update_of_ne h b s.pc

theorem DrefCallsInv.at (h : DrefCallsInv published s) {b : DrefCallPc R D} (hholds : b.holds = (s.pc t).holds)
    (hlooked : b.Published published) : DrefCallsInv published (s.at t b) := by
  have hsame : ∀ u, ((s.at t b).pc u).holds = (s.pc u).holds := by
    intro u
    by_cases hut : u = t
    · rw [hut, s.at_self, hholds]
    · rw [s.at_of_ne b hut]
  refine ⟨fun dref u hu => ?_, fun u => ?_, fun u dref hu => ?_, fun u dref hu => ?_⟩
  · exact h.guarded dref u ((hsame u).symm.trans hu)
  · by_cases hut : u = t
    · rw [hut, s.at_self]; exact hlooked
    · rw [s.at_of_ne b hut]; exact h.lookedUp u
  · exact h.countHeld u dref ((hsame u).symm.trans hu)
  · exact h.countOther u dref fun hsome => hu ((hsame u).trans hsome)

theorem DrefCallsInv.begin (h : DrefCallsInv published s) (t : T) (ddcaDref : R) :
    DrefCallsInv published (drefCallBegin published s t ddcaDref) := by
  unfold drefCallBegin lookupDref
  split
  · rename_i hpc
    have hnone : (s.pc t).holds = none := by rw [hpc]; rfl
    split
    · rename_i hmissing; exact h.at hnone.symm hmissing
    · rename_i dref0 hfound; exact h.at hnone.symm hfound
  · exact h

variable [DecidableEq D]

variable (ct : T → D → Nat)

theorem countFor_self (t : T) (dref : D) : countFor ct t dref t dref = ct t dref + 1 := by
  rw [countFor, update_self, update_self]

theorem countFor_of_ne_thread {u : T} (dref dref' : D) (h : u ≠ t) : countFor ct t dref u dref' = ct u dref' := by
  rw [countFor, update_of_ne h]

theorem countFor_of_ne_dref (t : T) {dref dref' : D} (h : dref' ≠ dref) :
    countFor ct t dref t dref' = ct t dref' := by
  rw [countFor, update_self, update_of_ne h]

section
variable (h : DrefCallsInv published s)
include h

theorem DrefCallsInv.lock {ddcaDref : R} (hnone : (s.pc t).holds = none)
    (hpublished : published ddcaDref = some dref0) (hfree : s.accessMutex dref0 = none) :
    DrefCallsInv published { s.at t (.locked ddcaDref (some dref0) ddcrcOk) with
      accessMutex := update s.accessMutex dref0 (some t), lockCt := countFor s.lockCt t dref0 } := by
  have hself := s.at_self t (.locked ddcaDref (some dref0) ddcrcOk)
  have hother : ∀ u, u ≠ t → (s.at t (.locked ddcaDref (some dref0) ddcrcOk)).pc u = s.pc u :=
    fun u hut => s.at_of_ne _ hut
  have hheld : ((s.at t (.locked ddcaDref (some dref0) ddcrcOk)).pc t).holds = some dref0 := by
    rw [hself]; rfl
  refine ⟨fun dref => ?_, fun u => ?_, fun u dref hu => ?_, fun u dref hu => ?_⟩
  · refine (h.guarded dref).step (t := t) (fun u hut hu => hother u hut ▸ hu) ?_
    show MutexStep t (s.accessMutex dref) _ (update s.accessMutex dref0 (some t) dref) _
    by_cases hdref : dref = dref0
    · rw [hdref, update_self, hfree]; exact .lock
    · rw [update_of_ne hdref]
      exact .keep fun hsome => absurd (Option.some.inj (hheld.symm.trans hsome)) (Ne.symm hdref)
  · by_cases hut : u = t
    · rw [hut, hself]; exact hpublished
    · rw [hother u hut]; exact h.lookedUp u
  · show countFor s.lockCt t dref0 u dref = s.unlockCt u dref + 1
    by_cases hut : u = t
    · subst hut
      have hdref : dref0 = dref := Option.some.inj (hheld.symm.trans hu)
      subst hdref
      rw [countFor_self, h.countOther u dref0 (by rw [hnone]; exact fun hsome => by cases hsome)]
    · rw [countFor_of_ne_thread _ _ _ hut]; exact h.countHeld u dref (hother u hut ▸ hu)
  · show countFor s.lockCt t dref0 u dref = s.unlockCt u dref
    by_cases hut : u = t
    · subst hut
      have hdref : dref ≠ dref0 := fun heq => hu (heq ▸ hheld)
      rw [countFor_of_ne_dref _ _ hdref]
      exact h.countOther u dref (by rw [hnone]; exact fun hsome => by cases hsome)
    · rw [countFor_of_ne_thread _ _ _ hut]
      exact h.countOther u dref fun hsome => hu ((congrArg DrefCallPc.holds (hother u hut)).trans hsome)

theorem DrefCallsInv.unlock (hheld : (s.pc t).holds = some dref0) :
    DrefCallsInv published { s.at t .outside with
      accessMutex := update s.accessMutex dref0 none, unlockCt := countFor s.unlockCt t dref0 } := by
  have hself := s.at_self t .outside
  have hother : ∀ u, u ≠ t → (s.at t .outside).pc u = s.pc u := fun u hut => s.at_of_ne _ hut
  have hnone : ((s.at t .outside).pc t).holds = none := by rw [hself]; rfl
  refine ⟨fun dref => ?_, fun u => ?_, fun u dref hu => ?_, fun u dref hu => ?_⟩
  · refine (h.guarded dref).step (t := t) (fun u hut hu => hother u hut ▸ hu) ?_
    show MutexStep t (s.accessMutex dref) _ (update s.accessMutex dref0 none dref) _
    by_cases hdref : dref = dref0
    · rw [hdref, update_self]; exact .unlock hheld fun hsome => by cases hnone.symm.trans hsome
    · rw [update_of_ne hdref]; exact .keep fun hsome => by cases hnone.symm.trans hsome
  · by_cases hut : u = t
    · rw [hut, hself]
      trivial
    · rw [hother u hut]; exact h.lookedUp u
  · show s.lockCt u dref = countFor s.unlockCt t dref0 u dref + 1
    by_cases hut : u = t
    · subst hut
      cases hnone.symm.trans hu
    · rw [countFor_of_ne_thread _ _ _ hut]; exact h.countHeld u dref (hother u hut ▸ hu)
  · show s.lockCt u dref = countFor s.unlockCt t dref0 u dref
    by_cases hut : u = t
    · subst hut
      by_cases hdref : dref = dref0
      · rw [hdref, countFor_self, h.countHeld u dref0 hheld]
      · rw [countFor_of_ne_dref _ _ hdref]
        exact h.countOther u dref fun hsome => hdref (Option.some.inj (hsome.symm.trans hheld))
    · rw [countFor_of_ne_thread _ _ _ hut]
      exact h.countOther u dref fun hsome => hu ((congrArg DrefCallPc.holds (hother u hut)).trans hsome)

theorem drefLockTurn_inv {ddcaDref : R} {waitIntervalMillisec totalElapsedMillisec : Nat}
    (hpc : s.pc t = .locking ddcaDref dref0 waitIntervalMillisec totalElapsedMillisec) :
    DrefCallsInv published (drefLockTurn s t ddcaDref dref0 waitIntervalMillisec totalElapsedMillisec) := by
  have hlooked := h.lookedUp t
  have hnone : (s.pc t).holds = none := by rw [hpc]; rfl
  rw [hpc] at hlooked
  unfold drefLockTurn
  split
  · split
    · rename_i hfree; exact h.lock hnone hlooked hfree
    · exact h.at hnone.symm hlooked
  · exact h.at hnone.symm hlooked

theorem DrefCallsInv.go {validation : Status} (hmeets : ¬ UnlocksUnlocked s (.go t validation)) :
    ∃ s', drefCallGo published s t validation (s.pc t) = .ok s' ∧ DrefCallsInv published s' := by
  have hlooked := h.lookedUp t
  cases hpc : s.pc t with
  | outside => exact ⟨s, rfl, h⟩
  | locking ddcaDref dref0 waitIntervalMillisec totalElapsedMillisec => exact ⟨_, rfl, drefLockTurn_inv h hpc⟩
  | locked ddcaDref dref0 ddcrc =>
    rw [hpc] at hlooked
    obtain ⟨hholds, hpublished⟩ := afterLock_spec ddcrc validation hlooked
    refine ⟨_, rfl, h.at (hholds.trans ?_) hpublished⟩
    rw [hpc]; rfl
  | action dref0 dref =>
    refine ⟨_, rfl, h.at (b := .unlocking dref0 ddcrcOk) ?_ trivial⟩
    rw [hpc]; rfl
  | unlocking dref0 ddcrc =>
    cases dref0 with
    | none =>
      refine ⟨_, rfl, h.at (b := .outside) ?_ trivial⟩
      rw [hpc]; exact (ite_self none).symm
    | some dref =>
      have hok : ddcrc = ddcrcOk := by
        by_contra hfailed
        exact hmeets ⟨t, validation, dref, ddcrc, rfl, hpc, hfailed⟩
      have hheld : (s.pc t).holds = some dref := by rw [hpc]; exact if_pos hok
      have hlocked : s.accessMutex dref ≠ none := by
        rw [h.guarded dref t hheld]; exact Option.some_ne_none t
      exact ⟨_, if_neg hlocked, h.unlock hheld⟩

theorem DrefCallsInv.step (hmeets : ¬ UnlocksUnlocked s e) :
    ∃ s', drefCallStep published s e = .ok s' ∧ DrefCallsInv published s' := by
  cases e with
  | call t ddcaDref => exact ⟨_, rfl, h.begin t ddcaDref⟩
  | go t validation => exact h.go hmeets

end

/-! ## What a step does to the mutexes -/

theorem DrefCallsInv.byHolder {s' : DrefCalls T R D} (h : DrefCallsInv published s) (hmeets : ¬ UnlocksUnlocked s e)
    (hs : drefCallStep published s e = .ok s') {dref : D} (hbefore : s.accessMutex dref = some t)
    (hafter : s'.accessMutex dref ≠ some t) : e.thread = t := by
  cases e with
  | call u ddcaDref =>
    cases hs
    refine absurd ?_ hafter
    rw [← hbefore]
    unfold drefCallBegin
    split <;> rfl
  | go u validation =>
    have hs : drefCallGo published s u validation (s.pc u) = .ok s' := hs
    cases hpc : s.pc u with
    | outside =>
      rw [hpc] at hs
      cases hs; exact absurd hbefore hafter
    | locking ddcaDref dref0 waitIntervalMillisec totalElapsedMillisec =>
      rw [hpc] at hs
      cases hs
      refine absurd ?_ hafter
      unfold drefLockTurn
      split
      · split
        · rename_i hfree
          have hdref : dref ≠ dref0 := by
            rintro rfl
            cases hfree.symm.trans hbefore
          exact (update_of_ne hdref _ _).trans hbefore
        · exact hbefore
      · exact hbefore
    | locked ddcaDref dref0 ddcrc =>
      rw [hpc] at hs
      cases hs; exact absurd hbefore hafter
    | action dref0 dref' =>
      rw [hpc] at hs
      cases hs; exact absurd hbefore hafter
    | unlocking dref0 ddcrc =>
      rw [hpc] at hs
      cases dref0 with
      | none =>
        cases hs; exact absurd hbefore hafter
      | some dref0 =>
        have hok : ddcrc = ddcrcOk := by
          by_contra hfailed
          exact hmeets ⟨u, validation, dref0, ddcrc, rfl, hpc, hfailed⟩
        have hheld : (s.pc u).holds = some dref0 := by rw [hpc]; exact if_pos hok
        by_cases hdref : dref = dref0
        · subst hdref; exact Option.some.inj ((h.guarded dref u hheld).symm.trans hbefore)
        · dsimp only [drefCallGo, drefUnlock] at hs
          split at hs
          · cases hs
          · cases hs; exact absurd ((update_of_ne hdref _ _).trans hbefore) hafter

theorem failed_of_not_unlocks {s' : DrefCalls T R D} (hmeets : ¬ UnlocksUnlocked s e)
    (hs : drefCallStep published s e = .ok s') (hfailed : (s.pc e.thread).LockFailed ∨ (s'.pc e.thread).LockFailed) :
    s'.accessMutex = s.accessMutex ∧ ∀ dref, ¬ (s'.pc e.thread).InAction dref := by
  cases e with
  | call t ddcaDref =>
    cases hs
    dsimp only [DrefCallEvent.thread] at *
    unfold drefCallBegin lookupDref at hfailed ⊢
    split
    · refine ⟨rfl, fun dref => ?_⟩
      rw [s.at_self]
      rintro ⟨dref0, haction⟩
      split at haction <;> cases haction
    · rename_i hpc
      refine ⟨rfl, not_inAction_of_lockFailed ?_⟩
      split at hfailed
      · rename_i hout; exact absurd hout hpc
      · exact hfailed.elim id id
  | go t validation =>
    have hs : drefCallGo published s t validation (s.pc t) = .ok s' := hs
    dsimp only [DrefCallEvent.thread] at hfailed ⊢
    cases hpc : s.pc t with
    | outside =>
      rw [hpc] at hs hfailed
      cases hs
      rw [hpc] at hfailed; exact absurd hfailed (or_self_iff.not.2 id)
    | locking ddcaDref dref0 waitIntervalMillisec totalElapsedMillisec =>
      rw [hpc] at hs hfailed
      cases hs
      have hfailed := hfailed.resolve_left id
      unfold drefLockTurn at hfailed ⊢
      split at hfailed
      · split at hfailed
        · rw [show _ = _ from s.at_self t (.locked ddcaDref (some dref0) ddcrcOk)] at hfailed
          exact absurd rfl hfailed
        · rw [s.at_self] at hfailed; exact absurd hfailed id
      · rename_i hexpired
        rw [if_neg hexpired]; exact ⟨rfl, not_inAction_of_lockFailed hfailed⟩
    | locked ddcaDref dref0 ddcrc =>
      rw [hpc] at hs hfailed
      cases hs
      refine ⟨rfl, fun dref => ?_⟩
      rw [s.at_self] at hfailed ⊢
      rintro ⟨dref', haction⟩
      rw [haction] at hfailed
      have hlocked : ddcrc ≠ ddcrcOk := hfailed.resolve_right id
      unfold afterLock at haction
      rw [if_neg hlocked] at haction; cases haction
    | action dref0 dref' =>
      rw [hpc] at hs hfailed
      cases hs
      rw [s.at_self] at hfailed; exact absurd rfl (hfailed.resolve_left id)
    | unlocking dref0 ddcrc =>
      rw [hpc] at hs hfailed
      cases dref0 with
      | none =>
        cases hs
        refine ⟨rfl, fun dref => ?_⟩
        rw [s.at_self]
        rintro ⟨dref0, haction⟩
        cases haction
      | some dref0 =>
        dsimp only [drefCallGo, drefUnlock] at hs
        split at hs
        · cases hs
        · cases hs
          have hout : (s.at t .outside).pc t = .outside := s.at_self t .outside
          have hlocked := hfailed.resolve_right (by rw [show _ = _ from hout]; exact id)
          exact absurd ⟨t, validation, dref0, ddcrc, rfl, hpc, hlocked⟩ hmeets

theorem not_right_of_unlocks (hdefect : UnlocksUnlocked s e) :
    ¬ ∃ s', drefCallStep published s e = .ok s' ∧ DrefStepRight s e s' := by
  rintro ⟨s', hs, hright⟩
  obtain ⟨t, validation, dref, ddcrc, rfl, hpc, hlocked⟩ := hdefect
  have hfailed : (s.pc t).LockFailed := by rw [hpc]; exact hlocked
  have hsame := (hright.failed (.inl hfailed)).1
  have hs : drefCallGo published s t validation (s.pc t) = .ok s' := hs
  rw [hpc] at hs
  dsimp only [drefCallGo, drefUnlock] at hs
  split at hs
  · cases hs
  · rename_i hheld
    cases hs; exact hheld ((congrFun hsame dref).symm.trans (update_self dref none s.accessMutex))

/-- **When the mutex of a reference does what it is for**: in every run in which no call comes to `dref_unlock` after
`dref_lock` has failed in it, and in no other. -/
theorem drefCalls_right_iff (published : R → Option D) (events : List (DrefCallEvent T R)) :
    AllAlong (drefCallStep published) (fun s e => ∃ s', drefCallStep published s e = .ok s' ∧ DrefStepRight s e s')
      (.start : DrefCalls T R D) events ↔
    AllAlong (drefCallStep published) (fun s e => ¬ UnlocksUnlocked s e) (.start : DrefCalls T R D) events := by
  refine AllAlong.congr_of_returns (fun s e (h : DrefCallsInv published s) => ?_) (fun s e h hmeets => h.step hmeets)
    (drefCalls_start_inv published)
  refine ⟨fun hright hdefect => not_right_of_unlocks hdefect hright, fun hmeets => ?_⟩
  obtain ⟨s', hs, h'⟩ := h.step hmeets
  exact ⟨s', hs, fun t u dref ht hu => h'.exclusive ht hu, fun t dref => h.byHolder hmeets hs, h'.once,
    failed_of_not_unlocks hmeets hs⟩

end Steps

def slowDisplay : List (DrefCallEvent Bool Unit) :=
  [.call false (), .go false 0, .go false 0, .call true ()] ++ List.replicate 7 (.go true 0)

theorem slowDisplay_not_right : ¬ AllAlong (drefCallStep some)
    (fun s e => ∃ s', drefCallStep some s e = .ok s' ∧ DrefStepRight s e s')
    (.start : DrefCalls Bool Unit Unit) (slowDisplay ++ [.go true 0]) := by
  intro hall
  obtain ⟨s, hs, hpc, hheld⟩ : ∃ s, slowDisplay.foldlM (drefCallStep some) (.start : DrefCalls Bool Unit Unit) = .ok s ∧
      s.pc true = .unlocking (some ()) ddcrcLocked ∧ s.accessMutex () = some false := ⟨_, rfl, rfl, rfl⟩
  obtain ⟨s', hs', hright⟩ := AllAlong.last hall hs
  have hs' : drefCallGo some s true 0 (s.pc true) = .ok s' := hs'
  rw [hpc] at hs'
  dsimp only [drefCallGo, drefUnlock] at hs'
  rw [hheld] at hs'
  cases hs'; exact Bool.noConfusion (hright.byHolder false () hheld fun h => by cases h)

end Ddc
