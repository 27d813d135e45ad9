import Ddcutil.Kit.Mutex
import Ddcutil.Kit.Runs
import Ddcutil.StringUtil
/-!
# CrossDisplay — operations that exclude each other across displays

`pdd_cross_display_operation_start` and `_end` make a recursive lock of a mutex and a depth that each thread has for
itself, and count how often it was locked and unlocked.
-/
namespace Ddc

open Kit Function

/-- **Where a thread is**: `displayLockDepth` is the local variable of that name, `owns` whether
`pdd_get_per_display_data` has locked `try_data_mutex` itself. -/
inductive PairPc where
  | outside | startLock | startActive | startCount | startOwner
  | startDepth (displayLockDepth : Nat)
  | endActive | endOwner | endCount | endCheck | endUnlock | endNested
  | getLock (hval : Nat) (createIfNotFound : Bool)
  | getLookup (hval : Nat) (createIfNotFound owns : Bool)
  | getCreate (hval : Nat) (owns : Bool)
  | getInsert (hval : Nat) (owns : Bool)
  | getUnlock (owns : Bool)

variable {T : Type}

/-- **The variables of the module**, the private ones of each thread, and how many pairs it has open. -/
structure PairState (T : Type) where
  crossThreadOperationMutex : Option T
  crossThreadOperationActive : Bool
  crossThreadOperationOwner : Option T
  pddLockCount : Nat
  pddUnlockCount : Nat
  tryDataMutex : Option T
  perDisplayDataHash : Nat → Bool
  pddLockDepth : T → Nat
  pddThisThreadHasLock : T → Bool
  pc : T → PairPc
  openPairs : T → Nat

def PairState.start : PairState T where
  crossThreadOperationMutex := none
  crossThreadOperationActive := false
  crossThreadOperationOwner := none
  pddLockCount := 0
  pddUnlockCount := 0
  tryDataMutex := none
  perDisplayDataHash := fun _ => false
  pddLockDepth := fun _ => 0
  pddThisThreadHasLock := fun _ => false
  pc := fun _ => .outside
  openPairs := fun _ => 0

/-! ## Steps -/

inductive PairEvent (T : Type) where
  | callStart (t : T)
  | callEnd (t : T)
  | callGet (t : T) (hval : Nat) (createIfNotFound : Bool)
  | go (t : T)

def incInt (n : Nat) : Exec Nat := if (n : Int) < intMax then .ok (n + 1) else .error .outOfBounds

section Steps

variable [DecidableEq T]

def PairState.at (s : PairState T) (t : T) (pc : PairPc) : PairState T := { s with pc := update s.pc t pc }

def PairState.setDepth (s : PairState T) (t : T) (pddLockDepth openPairs : Nat) : PairState T :=
  { s with
    pddLockDepth := update s.pddLockDepth t pddLockDepth
    openPairs := update s.openPairs t openPairs }

def pairGo (s : PairState T) (t : T) : PairPc → Exec (PairState T)
  | .outside => .ok s
  -- pdd_cross_display_operation_start
  | .startLock =>
    .ok (if s.crossThreadOperationMutex = none then
      { s.at t .startActive with crossThreadOperationMutex := some t } else s)
  | .startActive => .ok { s.at t .startCount with crossThreadOperationActive := true }
  | .startCount => do
    let pddLockCount ← incInt s.pddLockCount
    .ok { s.at t .startOwner with pddLockCount := pddLockCount }
  | .startOwner => .ok { s.at t (.startDepth 0) with crossThreadOperationOwner := some t }
  | .startDepth displayLockDepth => do
    let displayLockDepth ← incInt displayLockDepth
    .ok ((s.at t .outside).setDepth t displayLockDepth (s.openPairs t + 1))
  -- pdd_cross_display_operation_end
  | .endActive => .ok { s.at t .endOwner with crossThreadOperationActive := false }
  | .endOwner => .ok { s.at t .endCount with crossThreadOperationOwner := none }
  | .endCount => do
    let pddUnlockCount ← incInt s.pddUnlockCount
    .ok { s.at t .endCheck with pddUnlockCount := pddUnlockCount }
  | .endCheck => do
    check (s.pddLockCount = s.pddUnlockCount)
    .ok (s.at t .endUnlock)
  | .endUnlock => .ok { s.at t .outside with crossThreadOperationMutex := none }
  | .endNested => do
    check (s.pddLockCount > s.pddUnlockCount)
    .ok (s.at t .outside)
  -- pdd_get_per_display_data
  | .getLock hval createIfNotFound =>
    .ok (if s.tryDataMutex = none then
      { s.at t (.getLookup hval createIfNotFound true) with
        tryDataMutex := some t
        pddThisThreadHasLock := update s.pddThisThreadHasLock t true }
      else s)
  | .getLookup hval createIfNotFound owns =>
    .ok (s.at t (if s.perDisplayDataHash hval = false ∧ createIfNotFound = true then .getCreate hval owns
      else .getUnlock owns))
  | .getCreate hval owns => .ok ((s.at t (.getInsert hval owns)).setDepth t 0 (s.openPairs t))
  | .getInsert hval owns =>
    .ok { s.at t (.getUnlock owns) with perDisplayDataHash := update s.perDisplayDataHash hval true }
  | .getUnlock owns =>
    .ok (if owns = true ∧ s.pddThisThreadHasLock t = true then
      { s.at t .outside with
        tryDataMutex := none
        pddThisThreadHasLock := update s.pddThisThreadHasLock t false }
      else s.at t .outside)

def pairCall (s : PairState T) : PairEvent T → Exec (PairState T)
  | .callStart t => .ok (s.at t (if s.pddLockDepth t = 0 then .startLock else .startDepth (s.pddLockDepth t)))
  | .callEnd t =>
    if s.openPairs t = 0 then .ok s
    else do
      check (1 ≤ s.pddLockDepth t)
      .ok ((s.at t (if s.pddLockDepth t = 1 then .endActive else .endNested)).setDepth t (s.pddLockDepth t - 1)
        (s.openPairs t - 1))
  | .callGet t hval createIfNotFound =>
    .ok (s.at t (if s.pddThisThreadHasLock t = true then .getLookup hval createIfNotFound false
      else .getLock hval createIfNotFound))
  | .go _ => .ok s

def PairEvent.thread : PairEvent T → T
  | .callStart t => t
  | .callEnd t => t
  | .callGet t _ _ => t
  | .go t => t

def pairStep (s : PairState T) (e : PairEvent T) : Exec (PairState T) :=
  match e, s.pc e.thread with
  | .go t, pc => pairGo s t pc
  | e, .outside => pairCall s e
  | _, _ => .ok s

end Steps

/-! ## What is promised -/

def PairPc.holds : PairPc → Bool
  | .startActive | .startCount | .startOwner | .startDepth _ | .endActive | .endOwner | .endCount | .endCheck
  | .endUnlock => true
  | _ => false

/-- The thread is in the part of `start` or `end` in which it is counted as locked and not yet as unlocked. -/
def PairPc.counted : PairPc → Bool
  | .startOwner | .startDepth _ | .endActive | .endOwner | .endCount => true
  | _ => false

/-- **The thread is inside an outermost pair**, from where `start` has locked the mutex to where `end` unlocks it. -/
def PairState.Inside (s : PairState T) (t : T) : Prop := 0 < s.openPairs t ∨ (s.pc t).holds = true

def PairState.Counted (s : PairState T) (t : T) : Prop := 0 < s.openPairs t ∨ (s.pc t).counted = true

structure PairsRight (s : PairState T) : Prop where
  alone : ∀ t u, s.Inside t → s.Inside u → t = u
  mutex : ∀ t, s.crossThreadOperationMutex = some t ↔ s.Inside t
  depth : ∀ t, s.pddLockDepth t = s.openPairs t
  locked : (∃ t, s.Counted t) → s.pddLockCount = s.pddUnlockCount + 1
  unlocked : (∀ t, ¬ s.Counted t) → s.pddLockCount = s.pddUnlockCount

/-- **What is asked of a step**: no assertion fails, and the states before and after are right. -/
def PairStepRight [DecidableEq T] (s : PairState T) (e : PairEvent T) : Prop :=
  PairsRight s ∧ ∃ s', pairStep s e = .ok s' ∧ PairsRight s'

/-- **The steps that go well**: a record is made by a thread without open pairs, and the counts stay within an `int`. -/
structure PairStepMeets (s : PairState T) (e : PairEvent T) : Prop where
  created : ∀ t hval owns, e = .go t → s.pc t = .getCreate hval owns → s.openPairs t = 0
  lockCount : ∀ t, e = .go t → s.pc t = .startCount → (s.pddLockCount : Int) < intMax
  lockDepth : ∀ t displayLockDepth, e = .go t → s.pc t = .startDepth displayLockDepth →
    (displayLockDepth : Int) < intMax

/-! ## The invariant -/

def PairPc.Fits : PairPc → Nat → Prop
  | .startLock, n => n = 0
  | .startActive, n => n = 0
  | .startCount, n => n = 0
  | .startOwner, n => n = 0
  | .startDepth displayLockDepth, n => displayLockDepth = n
  | .endActive, n => n = 0
  | .endOwner, n => n = 0
  | .endCount, n => n = 0
  | .endCheck, n => n = 0
  | .endUnlock, n => n = 0
  | .endNested, n => 0 < n
  | _, _ => True

structure CrossInv (s : PairState T) : Prop where
  guarded : Guarded s.crossThreadOperationMutex s.Inside
  held : ∀ t, s.crossThreadOperationMutex = some t → s.Inside t
  counts : Counts (s.pddLockCount - s.pddUnlockCount) s.Counted
  unlockLe : s.pddUnlockCount ≤ s.pddLockCount
  lockLe : (s.pddLockCount : Int) ≤ intMax
  depth : ∀ t, s.pddLockDepth t = s.openPairs t
  fits : ∀ t, (s.pc t).Fits (s.openPairs t)

theorem PairPc.holds_of_counted {pc : PairPc} (h : pc.counted = true) : pc.holds = true := by
  cases pc <;> first | rfl | cases h

theorem PairState.Counted.inside {s : PairState T} {t : T} (h : s.Counted t) : s.Inside t :=
  h.imp id PairPc.holds_of_counted

theorem CrossInv.alone {s : PairState T} (h : CrossInv s) {t u : T} (ht : s.Inside t) (hu : s.Inside u) : t = u :=
  h.guarded.unique ht hu

theorem CrossInv.lockCount_of_counted {s : PairState T} (h : CrossInv s) {t : T} (ht : s.Counted t) :
    s.pddLockCount = s.pddUnlockCount + 1 := by
  have hone := h.counts.eq_one (fun t u ht hu => h.alone ht.inside hu.inside) ht
  omega

theorem CrossInv.lockCount_of_none {s : PairState T} (h : CrossInv s) (hnone : ∀ t, ¬ s.Counted t) :
    s.pddLockCount = s.pddUnlockCount := by
  have hzero := h.counts.eq_zero hnone
  have hle := h.unlockLe
  omega

theorem CrossInv.right {s : PairState T} (h : CrossInv s) : PairsRight s where
  alone := fun _ _ => h.alone
  mutex := fun t => ⟨h.held t, h.guarded t⟩
  depth := h.depth
  locked := fun ⟨_, ht⟩ => h.lockCount_of_counted ht
  unlocked := h.lockCount_of_none

theorem CrossInv.fitsAt {s : PairState T} (h : CrossInv s) {t : T} {pc : PairPc} (hpc : s.pc t = pc) :
    pc.Fits (s.openPairs t) := hpc ▸ h.fits t

theorem crossInv_start : CrossInv (PairState.start : PairState T) where
  guarded := by
    rintro t (h | h)
    · exact absurd h (Nat.lt_irrefl 0)
    · cases h
  held := fun t h => by cases h
  counts := by
    refine ⟨∅, fun t => iff_of_false (Finset.notMem_empty t) ?_, rfl⟩
    rintro (h | h)
    · exact absurd h (Nat.lt_irrefl 0)
    · cases h
  unlockLe := Nat.le_refl 0
  lockLe := show ((0 : Nat) : Int) ≤ intMax by decide
  depth := fun _ => rfl
  fits := fun _ => trivial

structure PairMove (s : PairState T) (t : T) (s' : PairState T) : Prop where
  others : ∀ u, u ≠ t → s'.pc u = s.pc u ∧ s'.openPairs u = s.openPairs u ∧ s'.pddLockDepth u = s.pddLockDepth u
  mutex : MutexStep t s.crossThreadOperationMutex (s.Inside t) s'.crossThreadOperationMutex (s'.Inside t)
  held : s'.crossThreadOperationMutex = some t → s'.Inside t
  heldOthers : ∀ u, u ≠ t → s'.crossThreadOperationMutex = some u → s.crossThreadOperationMutex = some u
  count : CountStep (s.pddLockCount - s.pddUnlockCount) (s.Counted t) (s'.pddLockCount - s'.pddUnlockCount)
    (s'.Counted t)
  unlockLe : s'.pddUnlockCount ≤ s'.pddLockCount
  lockLe : (s'.pddLockCount : Int) ≤ intMax
  depth : s'.pddLockDepth t = s'.openPairs t
  fits : (s'.pc t).Fits (s'.openPairs t)

section Moves

variable [DecidableEq T] {s s' : PairState T} {t : T} {pc : PairPc}

theorem CrossInv.move (h : CrossInv s) (hmove : PairMove s t s') : CrossInv s' := by
  have hinside : ∀ u, u ≠ t → (s'.Inside u ↔ s.Inside u) := by
    intro u hu
    obtain ⟨hpc, hopen, -⟩ := hmove.others u hu
    unfold PairState.Inside
    rw [hpc, hopen]
  have hcounted : ∀ u, u ≠ t → (s'.Counted u ↔ s.Counted u) := by
    intro u hu
    obtain ⟨hpc, hopen, -⟩ := hmove.others u hu
    unfold PairState.Counted
    rw [hpc, hopen]
  refine ⟨h.guarded.step (fun u hu => (hinside u hu).1) hmove.mutex, ?_, h.counts.step hcounted hmove.count,
    hmove.unlockLe, hmove.lockLe, ?_, ?_⟩
  · intro u hmutex
    by_cases hu : u = t
    · subst hu; exact hmove.held hmutex
    · exact (hinside u hu).2 (h.held u (hmove.heldOthers u hu hmutex))
  · intro u
    by_cases hu : u = t
    · subst hu; exact hmove.depth
    · obtain ⟨-, hopen, hdepth⟩ := hmove.others u hu
      rw [hopen, hdepth]; exact h.depth u
  · intro u
    by_cases hu : u = t
    · subst hu; exact hmove.fits
    · obtain ⟨hpc, hopen, -⟩ := hmove.others u hu
      rw [hopen, hpc]; exact h.fits u

theorem PairState.pc_at_self : (s.at t pc).pc t = pc := by
  exact update_self t pc s.pc

theorem PairState.pc_at_of_ne {u : T} (h : u ≠ t) : (s.at t pc).pc u = s.pc u := by
  exact update_of_ne h pc s.pc

theorem openPairs_setDepth (pddLockDepth openPairs : Nat) (u : T) :
    (s.setDepth t pddLockDepth openPairs).openPairs u = if u = t then openPairs else s.openPairs u := by
  exact update_apply s.openPairs t openPairs u

theorem pddLockDepth_setDepth (pddLockDepth openPairs : Nat) (u : T) :
    (s.setDepth t pddLockDepth openPairs).pddLockDepth u = if u = t then pddLockDepth else s.pddLockDepth u := by
  exact update_apply s.pddLockDepth t pddLockDepth u

theorem setDepth_same : (s.at t pc).setDepth t (s.pddLockDepth t) (s.openPairs t) = s.at t pc := by
  rw [PairState.setDepth, PairState.at, update_eq_self, update_eq_self]

section
variable (h : CrossInv s) (hpc : s.pc t = pc) (pc' : PairPc) (hholds : pc'.holds = pc.holds)
  (hcounted : pc'.counted = pc.counted) (hfits : pc'.Fits (s.openPairs t))
include h hpc hholds hcounted hfits

theorem CrossInv.goes (active : Bool) (owner tryMutex : Option T) (hash : Nat → Bool) (hasLock : T → Bool) :
    CrossInv { s.at t pc' with
      crossThreadOperationActive := active, crossThreadOperationOwner := owner, tryDataMutex := tryMutex,
      perDisplayDataHash := hash, pddThisThreadHasLock := hasLock } := by
  have hself : (s.at t pc').pc t = pc' := PairState.pc_at_self
  have hinside : (0 < s.openPairs t ∨ ((s.at t pc').pc t).holds = true) ↔ s.Inside t := by
    rw [hself, hholds, ← hpc]; rfl
  have hcount : (0 < s.openPairs t ∨ ((s.at t pc').pc t).counted = true) ↔ s.Counted t := by
    rw [hself, hcounted, ← hpc]; rfl
  refine h.move (t := t) ⟨fun u hu => ⟨PairState.pc_at_of_ne hu, rfl, rfl⟩, .keep hinside.1, ?_, fun _ _ hu => hu,
    .keep hcount, h.unlockLe, h.lockLe, h.depth t, ?_⟩
  · exact fun hmutex => hinside.2 (h.held t hmutex)
  · rw [hself]; exact hfits

theorem CrossInv.at : CrossInv (s.at t pc') :=
  h.goes hpc pc' hholds hcounted hfits s.crossThreadOperationActive s.crossThreadOperationOwner s.tryDataMutex
    s.perDisplayDataHash s.pddThisThreadHasLock

end

section
variable (h : CrossInv s)
include h

theorem CrossInv.lock (hpc : s.pc t = .startLock) (hfree : s.crossThreadOperationMutex = none) :
    CrossInv { s.at t .startActive with crossThreadOperationMutex := some t } := by
  have hself : (s.at t .startActive).pc t = .startActive := PairState.pc_at_self
  have hnone : s.openPairs t = 0 := h.fitsAt hpc
  refine h.move (t := t) ⟨fun u hu => ⟨PairState.pc_at_of_ne hu, rfl, rfl⟩, ?_, ?_, ?_, ?_, h.unlockLe, h.lockLe,
    h.depth t, ?_⟩
  · rw [hfree]; exact .lock
  · intro _
    refine .inr ?_
    rw [hself]; rfl
  · intro u hu hmutex; exact absurd (Option.some.inj hmutex).symm hu
  · refine .keep ?_
    unfold PairState.Counted
    rw [hself, hpc]; exact .rfl
  · rw [hself]; exact hnone

theorem CrossInv.count (hpc : s.pc t = .startCount) (hint : (s.pddLockCount : Int) < intMax) :
    CrossInv { s.at t .startOwner with pddLockCount := s.pddLockCount + 1 } := by
  have hself : (s.at t .startOwner).pc t = .startOwner := PairState.pc_at_self
  have hnone : s.openPairs t = 0 := h.fitsAt hpc
  have hin : (0 < s.openPairs t ∨ ((s.at t .startOwner).pc t).holds = true) := by
    rw [hself]; exact .inr rfl
  have hwas : s.Inside t := by rw [PairState.Inside, hpc]; exact .inr rfl
  have hout : ¬ s.Counted t := by
    rw [PairState.Counted, hpc, hnone]
    rintro (hpos | hcounted)
    · exact Nat.lt_irrefl 0 hpos
    · cases hcounted
  have hle := h.unlockLe
  refine h.move (t := t) ⟨fun u hu => ⟨PairState.pc_at_of_ne hu, rfl, rfl⟩, .keep fun _ => hwas, fun _ => hin,
    fun _ _ hu => hu, ?_, Nat.le_succ_of_le hle, ?_, h.depth t, ?_⟩
  · show CountStep _ _ (s.pddLockCount + 1 - s.pddUnlockCount) _
    rw [Nat.succ_sub hle]
    refine .enter hout ?_
    show 0 < s.openPairs t ∨ ((s.at t .startOwner).pc t).counted = true
    rw [hself]; exact .inr rfl
  · show ((s.pddLockCount + 1 : Nat) : Int) ≤ intMax
    omega
  · rw [hself]; exact hnone

theorem CrossInv.uncount (hpc : s.pc t = .endCount) :
    s.pddUnlockCount + 1 = s.pddLockCount ∧
      CrossInv { s.at t .endCheck with pddUnlockCount := s.pddUnlockCount + 1 } := by
  have hself : (s.at t .endCheck).pc t = .endCheck := PairState.pc_at_self
  have hnone : s.openPairs t = 0 := h.fitsAt hpc
  have hwas : s.Counted t := by rw [PairState.Counted, hpc]; exact .inr rfl
  have hin : (0 < s.openPairs t ∨ ((s.at t .endCheck).pc t).holds = true) := by
    rw [hself]; exact .inr rfl
  have hcounts := h.lockCount_of_counted hwas
  refine ⟨hcounts.symm, h.move (t := t) ⟨fun u hu => ⟨PairState.pc_at_of_ne hu, rfl, rfl⟩, .keep fun _ => hwas.inside,
    fun _ => hin, fun _ _ hu => hu, ?_, Nat.le_of_eq hcounts.symm, h.lockLe, h.depth t, ?_⟩⟩
  · have hout : ¬ (0 < s.openPairs t ∨ ((s.at t .endCheck).pc t).counted = true) := by
      rw [hself, hnone]
      rintro (hpos | hcounted)
      · exact Nat.lt_irrefl 0 hpos
      · cases hcounted
    have hleave := CountStep.leave (n := s.pddLockCount - s.pddUnlockCount) hwas hout
    have hdiff : (if 0 < s.pddLockCount - s.pddUnlockCount then s.pddLockCount - s.pddUnlockCount - 1
        else s.pddLockCount - s.pddUnlockCount) = s.pddLockCount - (s.pddUnlockCount + 1) := by
      rw [if_pos (by omega)]; omega
    rw [hdiff] at hleave; exact hleave
  · rw [hself]; exact hnone

theorem CrossInv.unlock (hpc : s.pc t = .endUnlock) :
    CrossInv { s.at t .outside with crossThreadOperationMutex := none } := by
  have hself : (s.at t .outside).pc t = .outside := PairState.pc_at_self
  have hnone : s.openPairs t = 0 := h.fitsAt hpc
  have hwas : s.Inside t := by rw [PairState.Inside, hpc]; exact .inr rfl
  have hout : ¬ (0 < s.openPairs t ∨ ((s.at t .outside).pc t).holds = true) := by
    rw [hself, hnone]
    rintro (hpos | hholds)
    · exact Nat.lt_irrefl 0 hpos
    · cases hholds
  refine h.move (t := t) ⟨fun u hu => ⟨PairState.pc_at_of_ne hu, rfl, rfl⟩, .unlock hwas hout, ?_, ?_, ?_, h.unlockLe,
    h.lockLe, h.depth t, ?_⟩
  · intro hmutex; cases hmutex
  · intro u _ hmutex; cases hmutex
  · refine .keep ?_
    unfold PairState.Counted
    rw [hself, hpc]; exact .rfl
  · rw [hself]
    trivial

theorem CrossInv.deepen (pc' : PairPc) (n : Nat) (hwas : s.Counted t) (hin : 0 < n ∨ pc'.counted = true)
    (hfits : pc'.Fits n) : CrossInv ((s.at t pc').setDepth t n n) := by
  have hself : (s.at t pc').pc t = pc' := PairState.pc_at_self
  have hopen : ((s.at t pc').setDepth t n n).openPairs t = n :=
    (openPairs_setDepth n n t).trans (if_pos rfl)
  have hdepth : ((s.at t pc').setDepth t n n).pddLockDepth t = n :=
    (pddLockDepth_setDepth n n t).trans (if_pos rfl)
  have hcounted : ((s.at t pc').setDepth t n n).Counted t := by
    rw [PairState.Counted, hopen]; exact hin.imp id fun hcounted => (congrArg PairPc.counted hself).trans hcounted
  refine h.move (t := t) ⟨?_, .keep fun _ => hwas.inside, fun _ => hcounted.inside, fun _ _ hu => hu,
    .keep (iff_of_true hcounted hwas), h.unlockLe, h.lockLe, hdepth.trans hopen.symm, ?_⟩
  · intro u hu
    exact ⟨PairState.pc_at_of_ne hu, (openPairs_setDepth n n u).trans (if_neg hu),
      (pddLockDepth_setDepth n n u).trans (if_neg hu)⟩
  · rw [hopen]
    show ((s.at t pc').pc t).Fits n
    rw [hself]; exact hfits

end

/-! ## Runs -/

theorem incInt_of_lt {n : Nat} (h : (n : Int) < intMax) : incInt n = .ok (n + 1) := if_pos h

theorem lt_of_incInt {n m : Nat} (h : incInt n = .ok m) : (n : Int) < intMax := by
  by_contra hge
  rw [incInt, if_neg hge] at h; cases h

theorem CrossInv.go (h : CrossInv s) (hpc : s.pc t = pc) (hmeets : PairStepMeets s (.go t)) :
    ∃ s', pairGo s t pc = .ok s' ∧ CrossInv s' := by
  have hfits := h.fitsAt hpc
  cases pc with
  | outside => exact ⟨s, rfl, h⟩
  | startLock =>
    refine ⟨_, rfl, ?_⟩
    split
    · exact h.lock hpc ‹_›
    · exact h
  | startActive => exact ⟨_, rfl, h.goes hpc .startCount rfl rfl hfits _ _ _ _ _⟩
  | startCount =>
    have hint := hmeets.lockCount t rfl hpc
    refine ⟨_, ?_, h.count hpc hint⟩
    rw [pairGo, incInt_of_lt hint]; rfl
  | startOwner => exact ⟨_, rfl, h.goes hpc (.startDepth 0) rfl rfl hfits.symm _ _ _ _ _⟩
  | startDepth displayLockDepth =>
    have hint := hmeets.lockDepth t displayLockDepth rfl hpc
    have hwas : s.Counted t := by rw [PairState.Counted, hpc]; exact .inr rfl
    refine ⟨_, ?_, h.deepen .outside (s.openPairs t + 1) hwas (.inl (Nat.succ_pos _)) trivial⟩
    rw [pairGo, incInt_of_lt hint, show displayLockDepth = s.openPairs t from hfits]; rfl
  | endActive => exact ⟨_, rfl, h.goes hpc .endOwner rfl rfl hfits _ _ _ _ _⟩
  | endOwner => exact ⟨_, rfl, h.goes hpc .endCount rfl rfl hfits _ _ _ _ _⟩
  | endCount =>
    obtain ⟨hcounts, hinv⟩ := h.uncount hpc
    have hle := h.lockLe
    have hint : (s.pddUnlockCount : Int) < intMax := by omega
    refine ⟨_, ?_, hinv⟩
    rw [pairGo, incInt_of_lt hint]; rfl
  | endCheck =>
    have hin : s.Inside t := by rw [PairState.Inside, hpc]; exact .inr rfl
    -- the thread is the only one inside, and no longer counted
    have hnone : ∀ u, ¬ s.Counted u := by
      intro u hu
      obtain rfl := h.alone hu.inside hin
      rcases hu with hpos | hcounted
      · rw [show s.openPairs u = 0 from hfits] at hpos; exact Nat.lt_irrefl 0 hpos
      · rw [hpc] at hcounted; cases hcounted
    refine ⟨_, ?_, h.at hpc .endUnlock rfl rfl hfits⟩
    rw [pairGo, check_pos (h.lockCount_of_none hnone)]; rfl
  | endUnlock => exact ⟨_, rfl, h.unlock hpc⟩
  | endNested =>
    have hcounts := h.lockCount_of_counted (t := t) (.inl hfits)
    refine ⟨_, ?_, h.at hpc .outside rfl rfl trivial⟩
    rw [pairGo, check_pos (hcounts ▸ Nat.lt_succ_self _)]; rfl
  | getLock hval createIfNotFound =>
    refine ⟨_, rfl, ?_⟩
    split
    · exact h.goes hpc (.getLookup hval createIfNotFound true) rfl rfl trivial _ _ _ _ _
    · exact h
  | getLookup hval createIfNotFound owns =>
    refine ⟨_, rfl, ?_⟩
    split
    · exact h.at hpc (.getCreate hval owns) rfl rfl trivial
    · exact h.at hpc (.getUnlock owns) rfl rfl trivial
  | getCreate hval owns =>
    have hnone := hmeets.created t hval owns rfl hpc
    have hdepth : s.pddLockDepth t = 0 := (h.depth t).trans hnone
    refine ⟨_, rfl, ?_⟩
    have hsame : (s.at t (.getInsert hval owns)).setDepth t 0 (s.openPairs t) = s.at t (.getInsert hval owns) := by
      rw [← hdepth]; exact setDepth_same
    rw [hsame]; exact h.at hpc (.getInsert hval owns) rfl rfl trivial
  | getInsert hval owns => exact ⟨_, rfl, h.goes hpc (.getUnlock owns) rfl rfl trivial _ _ _ _ _⟩
  | getUnlock owns =>
    refine ⟨_, rfl, ?_⟩
    split
    · exact h.goes hpc .outside rfl rfl trivial _ _ _ _ _
    · exact h.at hpc .outside rfl rfl trivial

theorem CrossInv.callStart (h : CrossInv s) (hpc : s.pc t = .outside) :
    ∃ s', pairCall s (.callStart t) = .ok s' ∧ CrossInv s' := by
  refine ⟨_, rfl, ?_⟩
  have hdepth := h.depth t
  by_cases hzero : s.pddLockDepth t = 0
  · rw [if_pos hzero]; exact h.at hpc .startLock rfl rfl (hdepth.symm.trans hzero)
  · rw [if_neg hzero, ← setDepth_same, hdepth]
    rw [hdepth] at hzero
    have hpos := Nat.pos_of_ne_zero hzero
    exact h.deepen (.startDepth (s.openPairs t)) (s.openPairs t) (.inl hpos) (.inl hpos) rfl

theorem CrossInv.callEnd (h : CrossInv s) : ∃ s', pairCall s (.callEnd t) = .ok s' ∧ CrossInv s' := by
  unfold pairCall
  dsimp only
  by_cases hzero : s.openPairs t = 0
  · rw [if_pos hzero]; exact ⟨s, rfl, h⟩
  · have hpos := Nat.pos_of_ne_zero hzero
    rw [if_neg hzero, h.depth, check_pos (Nat.one_le_iff_ne_zero.2 hzero), Exec.ok_bind]
    refine ⟨_, rfl, ?_⟩
    by_cases hone : s.openPairs t = 1
    · rw [if_pos hone, hone]; exact h.deepen .endActive 0 (.inl hpos) (.inr rfl) rfl
    · rw [if_neg hone]
      have hleft : 0 < s.openPairs t - 1 := by omega
      exact h.deepen .endNested (s.openPairs t - 1) (.inl hpos) (.inl hleft) hleft

theorem CrossInv.step (h : CrossInv s) {e : PairEvent T} (hmeets : PairStepMeets s e) :
    ∃ s', pairStep s e = .ok s' ∧ CrossInv s' := by
  cases e with
  | go t => exact h.go rfl hmeets
  | callStart t =>
    cases hpc : s.pc t with
    | outside =>
      have hstep : pairStep s (.callStart t) = pairCall s (.callStart t) := by
        simp only [pairStep, PairEvent.thread, hpc]
      rw [hstep]; exact h.callStart hpc
    | _ => exact ⟨s, by simp only [pairStep, PairEvent.thread, hpc], h⟩
  | callEnd t =>
    cases hpc : s.pc t with
    | outside =>
      have hstep : pairStep s (.callEnd t) = pairCall s (.callEnd t) := by simp only [pairStep, PairEvent.thread, hpc]
      rw [hstep]; exact h.callEnd
    | _ => exact ⟨s, by simp only [pairStep, PairEvent.thread, hpc], h⟩
  | callGet t hval createIfNotFound =>
    cases hpc : s.pc t with
    | outside =>
      refine ⟨s.at t (if s.pddThisThreadHasLock t = true then .getLookup hval createIfNotFound false
        else .getLock hval createIfNotFound), by simp only [pairStep, PairEvent.thread, hpc, pairCall], ?_⟩
      split
      · exact h.at hpc (.getLookup hval createIfNotFound false) rfl rfl trivial
      · exact h.at hpc (.getLock hval createIfNotFound) rfl rfl trivial
    | _ => exact ⟨s, by simp only [pairStep, PairEvent.thread, hpc], h⟩

theorem PairStepRight.meets {e : PairEvent T} (hright : PairStepRight s e) : PairStepMeets s e := by
  obtain ⟨-, s', hs', hright'⟩ := hright
  refine ⟨?_, ?_, ?_⟩
  · rintro t hval owns rfl hpc
    have hgo : pairStep s (.go t) = pairGo s t (s.pc t) := rfl
    rw [hgo, hpc] at hs'
    cases hs'
    have hdepth := hright'.depth t
    rw [openPairs_setDepth, pddLockDepth_setDepth, if_pos rfl, if_pos rfl] at hdepth
    exact hdepth.symm
  · rintro t rfl hpc
    have hgo : pairStep s (.go t) = pairGo s t (s.pc t) := rfl
    rw [hgo, hpc] at hs'
    obtain ⟨_, hcount, -⟩ := Exec.bind_eq_ok.1 hs'
    exact lt_of_incInt hcount
  · rintro t displayLockDepth rfl hpc
    have hgo : pairStep s (.go t) = pairGo s t (s.pc t) := rfl
    rw [hgo, hpc] at hs'
    obtain ⟨_, hdepth, -⟩ := Exec.bind_eq_ok.1 hs'
    exact lt_of_incInt hdepth

end Moves

/-- **In every interleaving the lock is right in every step exactly where no record is made inside a pair** and the
counts stay within an `int`. -/
theorem crossDisplay_right_iff [DecidableEq T] (l : List (PairEvent T)) :
    AllAlong pairStep PairStepRight PairState.start l ↔ AllAlong pairStep PairStepMeets PairState.start l := by
  refine AllAlong.congr_of_returns (fun s e (hinv : CrossInv s) => ⟨PairStepRight.meets, fun hmeets => ?_⟩)
    (fun s e hinv hmeets => hinv.step hmeets) crossInv_start
  obtain ⟨s', hs', hinv'⟩ := hinv.step hmeets
  exact ⟨hinv.right, s', hs', hinv'.right⟩

def recordInsidePair : List (PairEvent Unit) :=
  [.callStart (), .go (), .go (), .go (), .go (), .go (), .callGet () 4 true, .go (), .go ()]

/-- A thread that makes a record inside a pair has lost its depth, and fails the assertion when it ends the pair. -/
theorem recordInsidePair_not_right :
    ¬ AllAlong pairStep PairStepRight PairState.start (recordInsidePair ++ [.go ()]) ∧
      (recordInsidePair ++ [PairEvent.go (), .go (), .go (), .callEnd ()]).foldlM pairStep PairState.start =
        .error .assertFailed := by
  refine ⟨fun h => ?_, rfl⟩
  obtain ⟨-, s', hs', hright⟩ := AllAlong.last h rfl
  cases hs'
  have hdepth := hright.depth ()
  cases hdepth

end Ddc
