import Ddcutil.Kit.Runs
import Mathlib.Logic.Function.Basic
/-!
# WatchLifecycle — starting and stopping the watch and recheck threads

`dw_start_watch_displays` starts a watch thread and a recheck thread, `dw_stop_watch_displays` tells them to stop
through one flag that the next start clears again, and `dw_redetect_displays` does both.  The threads are numbered by
their start.
-/
namespace Ddc

open Kit

inductive WatchMode where
  | poll | xevent
  deriving DecidableEq

/-- **Where a watch thread is** in `dw_watch_display_connections`; `putting` are the displays it has still to put on the
queue. -/
inductive WatchPc where
  | starting | loopTop | sleeping | slept | waitingEvent | checking
  | putting (rechecks : Nat)
  | ended
  deriving DecidableEq

/-- **Where a recheck thread is** in `dw_recheck_displays_func`; a request is the start of the watch thread that made it. -/
inductive RecheckPc where
  | created | loopTop | sleeping | popTest | popping
  | ready (rqe : Option Nat)
  | handling (rqe : Nat)
  | afterLoop | flushing | ended
  deriving DecidableEq

/-- **The two threads of one start**, with the queue that the recheck thread made.  `told` is whether they were told to
stop, `inCheck` and `inRecheck` whether they were then handling a screen change or a request that is not yet handled. -/
structure WatchPair where
  watch : WatchPc
  mode : WatchMode
  recheck : RecheckPc
  queue : List Nat
  toCheckAgain : List Nat
  told : Bool
  inCheck : Bool
  inRecheck : Bool

def noPair : WatchPair := ⟨.ended, .poll, .ended, [], [], false, false, false⟩

/-- Where the client is: it calls no function, or waits for a thread that it stopped, or is in `dw_redetect_displays` about
to stop or to start the threads. -/
inductive WatchClient where
  | idle | stopping
  | joinWatch (n : Nat) (restart : Option UInt8)
  | joinRecheck (n : Nat) (restart : Option UInt8)
  | restarting (classes : UInt8)
  deriving DecidableEq

/-- The variables of `dw_main.c` and `dw_recheck.c` and the threads; `recheckQueue` is the start whose recheck thread made
the queue. -/
structure WatchLife where
  terminateWatchThread : Bool
  watchThread : Option Nat
  activeClasses : UInt8
  recheckQueue : Option Nat
  starts : Nat
  pairs : Nat → WatchPair
  client : WatchClient

def WatchLife.start : WatchLife := ⟨false, none, 0, none, 0, fun _ => noPair, .idle⟩

def WatchLife.set (s : WatchLife) (n : Nat) (p : WatchPair) : WatchLife :=
  { s with pairs := Function.update s.pairs n p }

/-! ## The client -/

def watchableClasses (classes : UInt8) : Bool := classes &&& 3 != 0

def startsWatch (canWatch : Bool) (s : WatchLife) (classes : UInt8) : Bool :=
  canWatch && watchableClasses classes && s.watchThread.isNone

def dwStartWatchDisplays (s : WatchLife) (classes : UInt8) (mode : WatchMode) : WatchLife :=
  { s.set s.starts ⟨.starting, mode, .created, [], [], false, false, false⟩ with
    terminateWatchThread := false
    watchThread := some s.starts
    activeClasses := classes
    starts := s.starts + 1 }

def WatchPc.handles : WatchPc → Bool
  | .waitingEvent | .checking => true
  | _ => false

def RecheckPc.handles : RecheckPc → Bool
  | .handling _ => true
  | _ => false

def tellToStop (s : WatchLife) (n : Nat) : WatchLife :=
  { s.set n { s.pairs n with
      told := true
      inCheck := (s.pairs n).watch.handles
      inRecheck := (s.pairs n).recheck.handles } with
    terminateWatchThread := true }

/-- **`dw_stop_watch_displays`**, up to waiting for the threads; `restart` are the classes for `dw_redetect_displays`. -/
def dwStopWatchDisplays (s : WatchLife) (n : Nat) (wait : Bool) (restart : Option UInt8) : WatchLife :=
  if wait = true then { tellToStop s n with client := .joinWatch n restart }
  else { tellToStop s n with watchThread := none }

def clientStep (canWatch : Bool) (s : WatchLife) (mode : WatchMode) : WatchClient → Exec WatchLife
  | .idle => .ok s
  | .stopping =>
    match s.watchThread with
    -- assert(rc == DDCRC_OK)
    | none => .error .assertFailed
    | some n => .ok (dwStopWatchDisplays s n true (some s.activeClasses))
  | .joinWatch n restart =>
    if (s.pairs n).watch = .ended then .ok { s with client := .joinRecheck n restart } else .ok s
  | .joinRecheck n restart =>
    if (s.pairs n).recheck = .ended then
      .ok { s with watchThread := none, client := restart.elim .idle .restarting }
    else .ok s
  | .restarting classes =>
    if startsWatch canWatch s classes = true then .ok { dwStartWatchDisplays s classes mode with client := .idle }
    -- assert(!err)
    else .error .assertFailed

/-! ## The threads -/

def putOnQueue (s : WatchLife) (rqe : Nat) : WatchLife :=
  match s.recheckQueue with
  | none => s
  | some q => s.set q { s.pairs q with queue := (s.pairs q).queue ++ [rqe] }

def WatchLife.setWatch (s : WatchLife) (n : Nat) (watch : WatchPc) : WatchLife :=
  s.set n { s.pairs n with watch := watch }

def watchThreadStep (s : WatchLife) (n : Nat) (found : Bool) (rechecks : Nat) : WatchPc → WatchLife
  | .starting => s.setWatch n .loopTop
  | .loopTop =>
    if s.terminateWatchThread = true then s.setWatch n .ended
    else s.setWatch n (if (s.pairs n).mode = .poll then .sleeping else .slept)
  | .sleeping => s.setWatch n .slept
  | .slept =>
    if s.terminateWatchThread = true then s.setWatch n .loopTop
    else s.setWatch n (if (s.pairs n).mode = .poll then .checking else .waitingEvent)
  | .waitingEvent => s.setWatch n (if found = true then .checking else .loopTop)
  -- process_screen_change_event
  | .checking => s.set n { s.pairs n with watch := .putting rechecks, inCheck := false }
  | .putting 0 => s.setWatch n .loopTop
  | .putting (rechecks + 1) => (putOnQueue s n).setWatch n (.putting rechecks)
  | .ended => s

def WatchLife.setRecheck (s : WatchLife) (n : Nat) (recheck : RecheckPc) : WatchLife :=
  s.set n { s.pairs n with recheck := recheck }

def popRequest (s : WatchLife) (n q : Nat) : WatchLife :=
  match (s.pairs n).toCheckAgain.reverse ++ (s.pairs q).queue with
  | [] => s.setRecheck n .popTest
  | rqe :: rest =>
    ((s.set n { s.pairs n with toCheckAgain := [] }).set q
      { (s.set n { s.pairs n with toCheckAgain := [] }).pairs q with queue := rest }).setRecheck n (.ready (some rqe))

def flushRequest (s : WatchLife) (n q : Nat) : WatchLife :=
  match (s.pairs q).queue with
  | [] => s.setRecheck n .ended
  | _ :: rest => s.set q { s.pairs q with queue := rest }

def recheckThreadStep (s : WatchLife) (n : Nat) (again : Bool) : RecheckPc → Exec WatchLife
  -- init_recheck_queue
  | .created => .ok { s.set n { s.pairs n with recheck := .loopTop, queue := [] } with recheckQueue := some n }
  | .loopTop => .ok (s.setRecheck n (if s.terminateWatchThread = true then .afterLoop else .sleeping))
  | .sleeping => .ok (s.setRecheck n .popTest)
  | .popTest => .ok (s.setRecheck n (if s.terminateWatchThread = true then .ready none else .popping))
  | .popping =>
    match s.recheckQueue with
    | none => .error .nullDeref
    | some q => .ok (popRequest s n q)
  | .ready rqe =>
    if s.terminateWatchThread = true then .ok (s.setRecheck n .afterLoop)
    else
      match rqe with
      | none => .error .nullDeref
      | some rqe => .ok (s.setRecheck n (.handling rqe))
  -- dw_recheck_dref
  | .handling rqe =>
    .ok (s.set n { s.pairs n with
      recheck := .loopTop
      inRecheck := false
      toCheckAgain := if again = true then rqe :: (s.pairs n).toCheckAgain else (s.pairs n).toCheckAgain })
  | .afterLoop => .ok (s.setRecheck n (if s.terminateWatchThread = true then .flushing else .ended))
  | .flushing =>
    match s.recheckQueue with
    | none => .error .nullDeref
    | some q => .ok (flushRequest s n q)
  | .ended => .ok s

/-- The client calls a function or goes on with the one it is in, or a thread goes on; `found` is whether an event was found
and `rechecks` are the displays to recheck, `again` is whether the display is to be checked once more. -/
inductive WatchLifeEvent where
  | start (classes : UInt8) (mode : WatchMode)
  | stop (wait : Bool)
  | redetect
  | client (mode : WatchMode)
  | watch (n : Nat) (found : Bool) (rechecks : Nat)
  | recheck (n : Nat) (again : Bool)

def watchLifeStep (canWatch : Bool) (s : WatchLife) : WatchLifeEvent → Exec WatchLife
  | .start classes mode =>
    if s.client = .idle ∧ startsWatch canWatch s classes = true then .ok (dwStartWatchDisplays s classes mode) else .ok s
  | .stop wait =>
    match s.watchThread with
    | none => .ok s
    | some n => if s.client = .idle then .ok (dwStopWatchDisplays s n wait none) else .ok s
  | .redetect => if s.client = .idle ∧ s.watchThread.isSome = true then .ok { s with client := .stopping } else .ok s
  | .client mode => clientStep canWatch s mode s.client
  | .watch n found rechecks => .ok (watchThreadStep s n found rechecks (s.pairs n).watch)
  | .recheck n again => recheckThreadStep s n again (s.pairs n).recheck

def WatchLife.watches (s : WatchLife) (n : Nat) : Prop := (s.pairs n).watch ≠ .ended ∧ (s.pairs n).told = false

def WatchLife.rechecks (s : WatchLife) (n : Nat) : Prop := (s.pairs n).recheck ≠ .ended ∧ (s.pairs n).told = false

/-- **What a step keeps**: a start leaves one pair of threads that were not told to stop, the new one; a thread that was told
handles only what it was in, and leaves its loop where the loop begins; a request is put on the queue of its own start,
and handled or freed by that start's recheck thread. -/
structure WatchLifeKeeps (s : WatchLife) (e : WatchLifeEvent) (s' : WatchLife) : Prop where
  started : s'.starts = s.starts + 1 → ∀ n, (s'.watches n ↔ n = s.starts) ∧ (s'.rechecks n ↔ n = s.starts)
  watchQuiet : ∀ n found rechecks, e = .watch n found rechecks → (s.pairs n).told = true →
    (s.pairs n).watch = .checking → (s.pairs n).inCheck = true
  recheckQuiet : ∀ n again rqe, e = .recheck n again → (s.pairs n).told = true →
    (s.pairs n).recheck = .handling rqe → (s.pairs n).inRecheck = true
  watchEnds : ∀ n found rechecks, e = .watch n found rechecks → (s.pairs n).told = true →
    (s.pairs n).watch = .loopTop → (s'.pairs n).watch = .ended
  recheckEnds : ∀ n again, e = .recheck n again → (s.pairs n).told = true →
    (s.pairs n).recheck = .loopTop → (s'.pairs n).recheck = .afterLoop
  put : ∀ n found rechecks k, e = .watch n found rechecks → (s.pairs n).watch = .putting (k + 1) → s.recheckQueue = some n
  handled : ∀ n again rqe, e = .recheck n again → (s.pairs n).recheck = .handling rqe → rqe = n
  flushed : ∀ n again q rqe, e = .recheck n again → (s.pairs n).recheck = .flushing → s.recheckQueue = some q →
    rqe ∈ (s.pairs q).queue → rqe = n

def WatchLifeRight (canWatch : Bool) (s : WatchLife) (e : WatchLifeEvent) : Prop :=
  ∃ s', watchLifeStep canWatch s e = .ok s' ∧ WatchLifeKeeps s e s'

def WatchLife.AllEnded (s : WatchLife) : Prop := ∀ n, (s.pairs n).watch = .ended ∧ (s.pairs n).recheck = .ended

/-- **The condition on a step**: the threads are started when those of the starts before have ended, and a display is put on
the queue when the recheck thread has made it. -/
def WatchLifeGuard (canWatch : Bool) (s : WatchLife) : WatchLifeEvent → Prop
  | .start classes _ => s.client = .idle → startsWatch canWatch s classes = true → s.AllEnded
  | .watch n _ _ => ∀ k, (s.pairs n).watch = .putting (k + 1) → (s.pairs n).recheck ≠ .created
  | _ => True

end Ddc
