import Ddcutil.Hotplug
import Ddcutil.Kit.Runs
/-!
# RecheckQueue — the queue of displays whose communication is checked again

`dw_put_recheck_queue` puts a display reference on the queue with the time at which it did so.
-/
namespace Ddc

open Kit

structure RecheckQueueEntry where
  dref : Nat
  initialTsNanos : UInt64
  deriving DecidableEq

inductive RecheckLogged where
  | failed (a : Address)
  | emitted (eventType : DisplayStatusEventType) (a : Address)
  | gaveUp (a : Address)
  | freed (a : Address)
  deriving DecidableEq

inductive RecheckPos where
  | sleeping
  | popping (curTimeNanos : UInt64)
  | rechecking (rqe : Address)
  | returned (rqe : Address) (err : Option Status)
  | emitting (rqe : Address) (eventType : DisplayStatusEventType)
  | ended
  deriving DecidableEq

structure RecheckThread where
  entries : Heap RecheckQueueEntry
  recheckQueue : List Address
  toCheckAgain : List Address
  terminateWatchThread : Bool
  pos : RecheckPos
  log : List RecheckLogged

def readEntry (entries : Heap RecheckQueueEntry) (a : Address) : Exec RecheckQueueEntry :=
  match entries.cells a with
  | some rqe => .ok rqe
  | none => .error .outOfBounds

def dwPutRecheckQueue (t : RecheckThread) (dref : Nat) (now : UInt64) : RecheckThread :=
  { t with
    entries := t.entries.alloc ⟨dref, now⟩
    recheckQueue := t.recheckQueue ++ [t.entries.next] }

/-! ## The loop of the thread -/

def maxSleepTimeNanos : UInt64 := 3000 * 1000000

def tooOld (curTimeNanos : UInt64) (rqe : RecheckQueueEntry) : Prop :=
  curTimeNanos > rqe.initialTsNanos + maxSleepTimeNanos

instance (curTimeNanos : UInt64) (rqe : RecheckQueueEntry) : Decidable (tooOld curTimeNanos rqe) :=
  inferInstanceAs (Decidable (_ > _))

def flushQueue (t : RecheckThread) : RecheckThread := { t with recheckQueue := [], pos := .ended }

def dwFreeRecheckQueueEntry (t : RecheckThread) (a : Address) : RecheckThread :=
  { t with entries := t.entries.free a, log := .freed a :: t.log }

def recheckWake (t : RecheckThread) (curTimeNanos : UInt64) : RecheckThread :=
  if t.terminateWatchThread = true then flushQueue t else { t with pos := .popping curTimeNanos }

def recheckTurn (t : RecheckThread) (a : Address) (curTimeNanos : UInt64) : Exec RecheckThread :=
  if t.terminateWatchThread = true then .ok (flushQueue t)
  else do
    let rqe ← readEntry t.entries a
    if tooOld curTimeNanos rqe then
      .ok (dwFreeRecheckQueueEntry { t with pos := .sleeping, log := .gaveUp a :: t.log } a)
    else .ok { t with pos := .rechecking a }

def recheckPop (t : RecheckThread) (curTimeNanos : UInt64) : Exec RecheckThread :=
  -- each entry is taken from the head of the one queue and pushed to the front of the other
  match t.toCheckAgain.reverse ++ t.recheckQueue with
  | [] => .ok (if t.terminateWatchThread = true then flushQueue { t with toCheckAgain := [] } else t)
  | a :: rest =>
    recheckTurn { t with recheckQueue := rest, toCheckAgain := [] } a curTimeNanos

def recheckSettle (t : RecheckThread) (a : Address) (err : Option Status) : RecheckThread :=
  match err with
  | none => { t with pos := .emitting a .ddcEnabled }
  | some status =>
    if status = ddcrcDisconnected then { t with pos := .emitting a .disconnected }
    else { t with pos := .sleeping, toCheckAgain := a :: t.toCheckAgain, log := .failed a :: t.log }

def recheckEmit (t : RecheckThread) (a : Address) (eventType : DisplayStatusEventType) : RecheckThread :=
  dwFreeRecheckQueueEntry { t with pos := .sleeping, log := .emitted eventType a :: t.log } a

/-! ## Steps -/

/-- What can happen: the watch thread puts a reference on the queue, `terminate_watch_thread` is set, or the recheck
thread goes on, with the time it reads or the error that checking the display returned. -/
inductive RecheckAct where
  | put (dref : Nat) (now : UInt64)
  | terminate
  | wake (curTimeNanos : UInt64)
  | pop
  | recheckReturns (err : Option Status)
  | settle | emit
  deriving DecidableEq

def recheckStep (t : RecheckThread) : RecheckAct → Exec RecheckThread
  | .put dref now => .ok (dwPutRecheckQueue t dref now)
  | .terminate => .ok { t with terminateWatchThread := true }
  | .wake curTimeNanos =>
    match t.pos with
    | .sleeping => .ok (recheckWake t curTimeNanos)
    | _ => .ok t
  | .pop =>
    match t.pos with
    | .popping curTimeNanos => recheckPop t curTimeNanos
    | _ => .ok t
  | .recheckReturns err =>
    match t.pos with
    | .rechecking a => .ok { t with pos := .returned a err }
    | _ => .ok t
  | .settle =>
    match t.pos with
    | .returned a err => .ok (recheckSettle t a err)
    | _ => .ok t
  | .emit =>
    match t.pos with
    | .emitting a eventType => .ok (recheckEmit t a eventType)
    | _ => .ok t

def recheckStart : RecheckThread :=
  ⟨⟨fun _ => none, 0, fun _ _ => rfl⟩, [], [], false, .sleeping, []⟩

/-! ## What becomes of the entries of the recheck queue, over all runs

Every entry that was put on the queue waits, or has one outcome and was freed once (`Ledger`).
-/

open List

def settles (a : Address) : RecheckLogged → Bool
  | .emitted _ b => a = b
  | .gaveUp b => a = b
  | _ => false

/-- **The queue is right**: an entry has at most one outcome, is given up only after a recheck, is freed once, with its
outcome and in any case before the thread has ended; and where a failed entry waits, no entry that waits for its first
recheck is too old for it. -/
structure RecheckRight (t : RecheckThread) : Prop where
  once : ∀ a, t.log.countP (settles a) ≤ 1
  patient : ∀ newer a older, t.log = newer ++ .gaveUp a :: older → .failed a ∈ older
  freed : ∀ a, t.log.count (.freed a) = t.log.countP (settles a)
  allFreed : t.pos = .ended → ∀ a < t.entries.next, t.log.count (.freed a) = 1
  fair : ∀ curTimeNanos, t.pos = .popping curTimeNanos →
    (∃ a ∈ t.toCheckAgain ++ t.recheckQueue, .failed a ∈ t.log) →
    ∀ a ∈ t.recheckQueue, .failed a ∉ t.log → ∀ rqe, t.entries.cells a = some rqe → ¬ tooOld curTimeNanos rqe

def NothingQueued (t : RecheckThread) : Prop := t.recheckQueue = [] ∧ t.toCheckAgain = []

/-- **The clock is not read too late** for an entry that waits for its first recheck, and nothing waits when the thread
finds that it has to end. -/
def RecheckMeets (t : RecheckThread) : RecheckAct → Prop
  | .put dref now => t.pos ≠ .ended ∧ ∀ curTimeNanos, t.pos = .popping curTimeNanos → ¬ tooOld curTimeNanos ⟨dref, now⟩
  | .wake curTimeNanos => t.pos = .sleeping →
    if t.terminateWatchThread = true then NothingQueued t
    else ∀ a ∈ t.recheckQueue, .failed a ∉ t.log → ∀ rqe, t.entries.cells a = some rqe → ¬ tooOld curTimeNanos rqe
  | .pop => t.terminateWatchThread = true → (∃ curTimeNanos, t.pos = .popping curTimeNanos) → NothingQueued t
  | _ => True

/-! ## The entries that wait, and those that have their outcome -/

/-- **An entry waits and is live, or has one outcome and was freed once.** -/
structure Ledger (entries : Heap RecheckQueueEntry) (log : List RecheckLogged) (waiting : List Address) : Prop where
  nodup : waiting.Nodup
  live : ∀ a ∈ waiting, a < entries.next ∧ ∃ rqe, entries.cells a = some rqe
  waits : ∀ a, (a ∈ waiting ∨ entries.next ≤ a) → log.countP (settles a) = 0 ∧ log.count (.freed a) = 0
  closed : ∀ a < entries.next, a ∉ waiting → log.countP (settles a) = 1 ∧ log.count (.freed a) = 1

theorem Ledger.perm {entries : Heap RecheckQueueEntry} {log : List RecheckLogged} {waiting waiting' : List Address}
    (h : Ledger entries log waiting) (hperm : waiting.Perm waiting') : Ledger entries log waiting' :=
  ⟨hperm.nodup_iff.1 h.nodup, fun a ha => h.live a (hperm.mem_iff.2 ha),
    fun a ha => h.waits a (ha.imp_left hperm.mem_iff.2),
    fun a ha hnot => h.closed a ha fun hmem => hnot (hperm.mem_iff.1 hmem)⟩

theorem Ledger.put {entries : Heap RecheckQueueEntry} {log : List RecheckLogged} {waiting : List Address}
    (h : Ledger entries log waiting) (rqe : RecheckQueueEntry) :
    Ledger (entries.alloc rqe) log (entries.next :: waiting) := by
  have hnew : entries.next ∉ waiting := fun hmem => Nat.lt_irrefl _ (h.live _ hmem).1
  refine ⟨nodup_cons.2 ⟨hnew, h.nodup⟩, fun a ha => ?_, fun a ha => ?_, fun a ha hnot => ?_⟩
  · rcases mem_cons.1 ha with rfl | ha
    · exact ⟨Nat.lt_succ_self _, rqe, Heap.alloc_self entries rqe⟩
    · obtain ⟨hlt, old, hold⟩ := h.live a ha
      exact ⟨Nat.lt_succ_of_lt hlt, old, (Heap.alloc_other entries rqe (Nat.ne_of_lt hlt)).trans hold⟩
  · apply h.waits
    rw [mem_cons] at ha
    rcases ha with (rfl | ha) | ha
    · exact .inr (Nat.le_refl _)
    · exact .inl ha
    · exact .inr (Nat.le_of_succ_le ha)
  · rw [mem_cons, not_or] at hnot
    exact h.closed a (Nat.lt_of_le_of_ne (Nat.le_of_lt_succ ha) hnot.1) hnot.2

theorem Ledger.failed {entries : Heap RecheckQueueEntry} {log : List RecheckLogged} {waiting : List Address}
    (h : Ledger entries log waiting) (a : Address) : Ledger entries (.failed a :: log) waiting := by
  have hcounts : ∀ b, (RecheckLogged.failed a :: log).countP (settles b) = log.countP (settles b) ∧
      (RecheckLogged.failed a :: log).count (.freed b) = log.count (.freed b) := by
    intro b; exact ⟨countP_cons_of_neg (by simp [settles]), count_cons_of_ne (by simp)⟩
  refine ⟨h.nodup, h.live, fun b hb => ?_, fun b hb hnot => ?_⟩
  · exact h.waits b hb
  · exact h.closed b hb hnot

theorem Ledger.settle {entries : Heap RecheckQueueEntry} {log : List RecheckLogged} {a : Address}
    {waiting : List Address} (h : Ledger entries log (a :: waiting)) {outcome : RecheckLogged}
    (houtcome : ∀ b, settles b outcome = decide (b = a)) (hnotFreed : ∀ b, outcome ≠ .freed b) :
    Ledger (entries.free a) (.freed a :: outcome :: log) waiting := by
  obtain ⟨hnotin, hnodup⟩ := nodup_cons.1 h.nodup
  have hother : ∀ b, b ≠ a → (RecheckLogged.freed a :: outcome :: log).countP (settles b) = log.countP (settles b) ∧
      (RecheckLogged.freed a :: outcome :: log).count (.freed b) = log.count (.freed b) := by
    intro b hb
    constructor
    · rw [countP_cons_of_neg (by simp [settles]), countP_cons_of_neg (by simp [houtcome, hb])]
    · rw [count_cons_of_ne (by simpa using Ne.symm hb), count_cons_of_ne (hnotFreed b)]
  have hself := h.waits a (.inl mem_cons_self)
  refine ⟨hnodup, fun b hb => ?_, fun b hb => ?_, fun b hb hnot => ?_⟩
  · have hne : b ≠ a := fun heq => hnotin (heq ▸ hb)
    obtain ⟨hlt, rqe, hrqe⟩ := h.live b (mem_cons_of_mem a hb)
    exact ⟨hlt, rqe, (Heap.free_other entries hne).trans hrqe⟩
  · have hne : b ≠ a := by
      rintro rfl
      rcases hb with hb | hb
      · exact hnotin hb
      · exact absurd (h.live b mem_cons_self).1 (Nat.not_lt.2 hb)
    rw [(hother b hne).1, (hother b hne).2]; exact h.waits b (hb.imp_left (mem_cons_of_mem a))
  · by_cases hne : b = a
    · subst hne
      constructor
      · rw [countP_cons_of_neg (by simp [settles]), countP_cons_of_pos (by simp [houtcome]), hself.1]
      · rw [count_cons_self, count_cons_of_ne (hnotFreed b), hself.2]
    · rw [(hother b hne).1, (hother b hne).2]
      exact h.closed b hb fun hmem => (mem_cons.1 hmem).elim hne hnot

/-! ## The invariant -/

def RecheckPos.held : RecheckPos → List Address
  | .rechecking a => [a]
  | .returned a _ => [a]
  | .emitting a _ => [a]
  | _ => []

def RecheckThread.waiting (t : RecheckThread) : List Address := t.pos.held ++ t.toCheckAgain ++ t.recheckQueue

structure RecheckInv (t : RecheckThread) : Prop where
  ledger : Ledger t.entries t.log t.waiting
  again : ∀ a ∈ t.toCheckAgain, .failed a ∈ t.log
  patient : ∀ newer a older, t.log = newer ++ .gaveUp a :: older → .failed a ∈ older
  fair : ∀ curTimeNanos, t.pos = .popping curTimeNanos → ∀ a ∈ t.recheckQueue, .failed a ∉ t.log →
    ∀ rqe, t.entries.cells a = some rqe → ¬ tooOld curTimeNanos rqe
  ended : t.pos = .ended → NothingQueued t

theorem recheckInv_start : RecheckInv recheckStart := by
  refine ⟨⟨nodup_nil, fun _ h => absurd h not_mem_nil, fun _ _ => ⟨rfl, rfl⟩, fun a h => absurd h (Nat.not_lt_zero a)⟩,
    fun _ h => absurd h not_mem_nil, fun newer a older h => ?_, (fun _ h => nomatch h), (fun h => nomatch h)⟩
  cases newer <;> cases h

theorem RecheckInv.right {t : RecheckThread} (h : RecheckInv t) : RecheckRight t := by
  have hcounts : ∀ a, t.log.countP (settles a) ≤ 1 ∧ t.log.count (.freed a) = t.log.countP (settles a) := by
    intro a
    by_cases hopen : a ∈ t.waiting ∨ t.entries.next ≤ a
    · obtain ⟨hsettled, hfreed⟩ := h.ledger.waits a hopen
      rw [hsettled, hfreed]; exact ⟨Nat.zero_le 1, rfl⟩
    · rw [not_or] at hopen
      obtain ⟨hsettled, hfreed⟩ := h.ledger.closed a (Nat.lt_of_not_le hopen.2) hopen.1
      rw [hsettled, hfreed]; exact ⟨Nat.le_refl 1, rfl⟩
  refine ⟨fun a => (hcounts a).1, h.patient, fun a => (hcounts a).2, fun hended a ha => ?_, fun cur hpos _ => h.fair cur hpos⟩
  obtain ⟨hqueue, hagain⟩ := h.ended hended
  refine (h.ledger.closed a ha ?_).2
  rw [RecheckThread.waiting, hended, hqueue, hagain]; exact not_mem_nil

theorem patient_cons {log : List RecheckLogged} {logged : RecheckLogged}
    (h : ∀ newer a older, log = newer ++ .gaveUp a :: older → .failed a ∈ older)
    (hlogged : ∀ a, logged = .gaveUp a → .failed a ∈ log) (newer : List RecheckLogged) (a : Address)
    (older : List RecheckLogged) (heq : logged :: log = newer ++ .gaveUp a :: older) : .failed a ∈ older := by
  cases newer with
  | nil =>
    obtain ⟨rfl, rfl⟩ := List.cons.inj heq
    exact hlogged a rfl
  | cons _ newer =>
    obtain ⟨-, hrest⟩ := List.cons.inj heq
    exact h newer a older hrest

/-! ## Steps -/

theorem RecheckInv.put {t : RecheckThread} (h : RecheckInv t) {dref : Nat} {now : UInt64}
    (hmeets : RecheckMeets t (.put dref now)) : RecheckInv (dwPutRecheckQueue t dref now) := by
  obtain ⟨hnotEnded, htime⟩ := hmeets
  refine ⟨?_, h.again, h.patient, fun cur hpos a ha hfailed rqe hrqe => ?_, fun hended => absurd hended hnotEnded⟩
  · refine (h.ledger.put ⟨dref, now⟩).perm ?_
    unfold RecheckThread.waiting dwPutRecheckQueue
    rw [← append_assoc]; exact perm_append_singleton .. |>.symm
  · change (t.entries.alloc ⟨dref, now⟩).cells a = some rqe at hrqe
    rcases mem_append.1 ha with ha | ha
    · have hlt := (h.ledger.live a (mem_append_right _ ha)).1
      rw [Heap.alloc_other _ _ (Nat.ne_of_lt hlt)] at hrqe
      exact h.fair cur hpos a ha hfailed rqe hrqe
    · rw [mem_singleton.1 ha, Heap.alloc_self] at hrqe
      cases hrqe; exact htime cur hpos

theorem RecheckInv.move {t : RecheckThread} (h : RecheckInv t) {pos : RecheckPos} (hheld : pos.held = t.pos.held)
    (hpopping : ∀ cur, pos ≠ .popping cur) (hended : pos = .ended → NothingQueued t) :
    RecheckInv { t with pos := pos } := by
  refine ⟨?_, h.again, h.patient, fun cur hpos => absurd hpos (hpopping cur), hended⟩
  have hledger := h.ledger
  unfold RecheckThread.waiting at hledger ⊢
  rw [← hheld] at hledger; exact hledger

theorem flushQueue_nothing {t : RecheckThread} (h : NothingQueued t) : flushQueue t = { t with pos := .ended } := by
  rw [flushQueue, ← h.1]

theorem RecheckInv.wake {t : RecheckThread} (h : RecheckInv t) {curTimeNanos : UInt64} (hpos : t.pos = .sleeping)
    (hmeets : RecheckMeets t (.wake curTimeNanos)) : RecheckInv (recheckWake t curTimeNanos) := by
  have htime := hmeets hpos
  unfold recheckWake
  by_cases hterm : t.terminateWatchThread = true
  · rw [if_pos hterm] at htime ⊢
    rw [flushQueue_nothing htime]
    exact h.move (hpos ▸ rfl) (fun _ heq => nomatch heq) fun _ => htime
  · rw [if_neg hterm] at htime ⊢
    refine ⟨?_, h.again, h.patient, fun cur hcur => ?_, fun heq => nomatch heq⟩
    · have hledger := h.ledger
      unfold RecheckThread.waiting at hledger ⊢
      rw [hpos] at hledger; exact hledger
    · cases hcur; exact htime

theorem RecheckInv.pop {t : RecheckThread} (h : RecheckInv t) {curTimeNanos : UInt64}
    (hpos : t.pos = .popping curTimeNanos) (hmeets : RecheckMeets t .pop) :
    ∃ t', recheckPop t curTimeNanos = .ok t' ∧ RecheckInv t' := by
  have hnothing : t.terminateWatchThread = true → NothingQueued t := fun hterm => hmeets hterm ⟨_, hpos⟩
  unfold recheckPop
  split
  · rename_i hempty
    obtain ⟨hagain, hqueue⟩ := append_eq_nil_iff.1 hempty
    have hsame : ({ t with toCheckAgain := [] } : RecheckThread) = t := by
      rw [← reverse_eq_nil_iff.1 hagain]
    by_cases hterm : t.terminateWatchThread = true
    · rw [if_pos hterm, hsame, flushQueue_nothing (hnothing hterm)]
      exact ⟨_, rfl, h.move (hpos ▸ rfl) (fun _ heq => nomatch heq) fun _ => hnothing hterm⟩
    · rw [if_neg hterm]; exact ⟨t, rfl, h⟩
  · rename_i a rest hpopped
    have hterm : ¬ t.terminateWatchThread = true := by
      intro hterm
      obtain ⟨hqueue, hagain⟩ := hnothing hterm
      rw [hqueue, hagain] at hpopped; cases hpopped
    have hperm : t.waiting.Perm (a :: rest) := by
      rw [RecheckThread.waiting, hpos, ← hpopped]; exact (reverse_perm _).symm.append_right _
    have hledger := h.ledger.perm hperm
    obtain ⟨-, rqe, hrqe⟩ := hledger.live a mem_cons_self
    have hread : readEntry t.entries a = .ok rqe := by rw [readEntry, hrqe]
    rw [recheckTurn, if_neg hterm, hread, Exec.ok_bind]
    by_cases hold : tooOld curTimeNanos rqe
    · rw [if_pos hold]
      -- an entry that waits for its first recheck is not too old
      have hfailed : RecheckLogged.failed a ∈ t.log := by
        by_contra hfailed
        have hmem : a ∈ t.toCheckAgain.reverse ++ t.recheckQueue := hpopped ▸ mem_cons_self
        rcases mem_append.1 hmem with hmem | hmem
        · exact hfailed (h.again a (mem_reverse.1 hmem))
        · exact h.fair _ hpos a hmem hfailed rqe hrqe hold
      refine ⟨_, rfl, hledger.settle (fun b => rfl) (fun b heq => nomatch heq), (fun _ hb => absurd hb not_mem_nil),
        patient_cons (patient_cons h.patient fun b hb => ?_) (fun b hb => nomatch hb), (fun _ heq => nomatch heq),
        (fun heq => nomatch heq)⟩
      cases hb; exact hfailed
    · rw [if_neg hold]
      exact ⟨_, rfl, hledger, (fun _ hb => absurd hb not_mem_nil), h.patient, (fun _ heq => nomatch heq),
        (fun heq => nomatch heq)⟩

theorem RecheckInv.settle {t : RecheckThread} (h : RecheckInv t) {a : Address} {err : Option Status}
    (hpos : t.pos = .returned a err) : RecheckInv (recheckSettle t a err) := by
  have hheld : t.pos.held = [a] := by rw [hpos]; rfl
  unfold recheckSettle
  cases err with
  | none => exact h.move hheld.symm (fun _ heq => nomatch heq) (fun heq => nomatch heq)
  | some status =>
    dsimp only
    by_cases hstatus : status = ddcrcDisconnected
    · rw [if_pos hstatus]
      exact h.move hheld.symm (fun _ heq => nomatch heq) (fun heq => nomatch heq)
    · rw [if_neg hstatus]
      refine ⟨?_, fun b hb => ?_, patient_cons h.patient (fun b hb => nomatch hb), (fun _ heq => nomatch heq),
        (fun heq => nomatch heq)⟩
      · have hledger := h.ledger.failed a
        unfold RecheckThread.waiting at hledger ⊢
        rw [hheld] at hledger; exact hledger
      · rcases mem_cons.1 hb with rfl | hb
        · exact mem_cons_self
        · exact mem_cons_of_mem _ (h.again b hb)

theorem RecheckInv.emit {t : RecheckThread} (h : RecheckInv t) {a : Address} {eventType : DisplayStatusEventType}
    (hpos : t.pos = .emitting a eventType) : RecheckInv (recheckEmit t a eventType) := by
  have hheld : t.pos.held = [a] := by rw [hpos]; rfl
  refine ⟨?_, fun b hb => ?_, patient_cons (patient_cons h.patient fun b hb => nomatch hb) (fun b hb => nomatch hb),
    (fun _ heq => nomatch heq), (fun heq => nomatch heq)⟩
  · have hledger := h.ledger
    unfold RecheckThread.waiting at hledger
    rw [hheld] at hledger; exact hledger.settle (fun b => rfl) fun b heq => nomatch heq
  · exact mem_cons_of_mem _ (mem_cons_of_mem _ (h.again b hb))

theorem RecheckInv.step {t : RecheckThread} (h : RecheckInv t) {act : RecheckAct} (hmeets : RecheckMeets t act) :
    ∃ t', recheckStep t act = .ok t' ∧ RecheckInv t' := by
  cases act with
  | put dref now => exact ⟨_, rfl, h.put hmeets⟩
  | terminate => exact ⟨_, rfl, ⟨h.ledger, h.again, h.patient, h.fair, h.ended⟩⟩
  | wake cur =>
    dsimp only [recheckStep]
    split
    · exact ⟨_, rfl, h.wake ‹_› hmeets⟩
    · exact ⟨t, rfl, h⟩
  | pop =>
    dsimp only [recheckStep]
    split
    · exact h.pop ‹_› hmeets
    · exact ⟨t, rfl, h⟩
  | recheckReturns err =>
    dsimp only [recheckStep]
    split
    · rename_i a hpos
      exact ⟨_, rfl, h.move (hpos ▸ rfl) (fun _ heq => nomatch heq) fun heq => nomatch heq⟩
    · exact ⟨t, rfl, h⟩
  | settle =>
    dsimp only [recheckStep]
    split
    · exact ⟨_, rfl, h.settle ‹_›⟩
    · exact ⟨t, rfl, h⟩
  | emit =>
    dsimp only [recheckStep]
    split
    · exact ⟨_, rfl, h.emit ‹_›⟩
    · exact ⟨t, rfl, h⟩

/-! ## Runs -/

def RecheckReachable : RecheckThread → Prop := Reachable (fun t => t = recheckStart) RecheckMeets recheckStep

def millisToNanos (millis : UInt64) : UInt64 := millis * 1000000

def twoDisplays : List RecheckAct :=
  [.put 0 0, .put 1 0, .wake (millisToNanos 200), .pop, .recheckReturns (some ddcrcRetries), .settle,
    .wake (millisToNanos 3200), .pop, .wake (millisToNanos 3400), .pop]

end Ddc
