import Ddcutil.Kit.Runs
import Mathlib.Logic.Function.Basic
/-!
# ApiQuiesce — quiescing the API and calls of other threads

`quiesce_api` keeps calls from starting and waits for those that have not ended.  A call locks two mutexes to be
counted and one of them to be counted no more; `quiesce_api` holds both while it waits.
-/
namespace Ddc

open Kit

def pollMaxMillisec : Nat := 3000
def pollIntervalMillisec : Nat := 100

/-- **Where a thread is**: outside the API, in a function that respects quiescing, in one that does not, or in
`ddca_redetect_displays`.  `outstanding` are the calls not yet counted out when `quiesce_api` started and `left` those
when it ended, `activeAtStart` is `active_calls` when it had locked the mutexes. -/
inductive QuiescePc (T : Type) where
  | outside | incrementStart | incrementLocked | incrementing
  | incremented (ok : Bool)
  | body | uncountedBody | epilogue | decrementing | redetectTested
  | quiesceStart (outstanding : T → Option Nat)
  | quiesceLocked (outstanding : T → Option Nat)
  | quiesceTest (outstanding : T → Option Nat)
  | quiescePolling (outstanding : T → Option Nat) (activeAtStart sleptNanosec : Nat)
  | quiescePolled (outstanding : T → Option Nat) (activeAtStart : Nat) (oops : Bool)
  | quiesceSetting (outstanding : T → Option Nat) (activeAtStart : Nat) (oops : Bool)
  | redetecting (oops : Bool) (left : T → Option Nat)
  | unquiesceStart (oops : Bool) (left : T → Option Nat)
  | unquiesceLocked (oops : Bool) (left : T → Option Nat)
  | redetected

variable {T : Type} [DecidableEq T]

structure QuiesceState (T : Type) where
  apiQuiescedMutex : Option T
  activeCallsMutex : Option T
  apiQuiesced : Bool
  libraryDisabled : Bool
  activeCalls : Nat
  ddcaRedetectActive : Bool
  pc : T → QuiescePc T
  callNo : T → Nat

def QuiesceState.start (libraryDisabled : Bool) : QuiesceState T where
  apiQuiescedMutex := none
  activeCallsMutex := none
  apiQuiesced := false
  libraryDisabled := libraryDisabled
  activeCalls := 0
  ddcaRedetectActive := false
  pc := fun _ => .outside
  callNo := fun _ => 0

def QuiescePc.counted : QuiescePc T → Bool
  | .incremented ok => ok
  | .body | .epilogue | .decrementing => true
  | _ => false

def QuiescePc.beforeEpilogue : QuiescePc T → Bool
  | .incremented ok => ok
  | .body => true
  | _ => false

def QuiesceState.outstanding (s : QuiesceState T) (t : T) : Option Nat :=
  if (s.pc t).counted = true then some (s.callNo t) else none

/-! ## Steps -/

inductive QuiesceEvent (T : Type) where
  | call (t : T)
  | callUncounted (t : T)
  | redetect (t : T)
  | go (t : T)

def QuiesceState.at (s : QuiesceState T) (t : T) (pc : QuiescePc T) : QuiesceState T :=
  { s with pc := Function.update s.pc t pc }

def QuiesceState.lockQuiesced (s : QuiesceState T) (t : T) (pc : QuiescePc T) : QuiesceState T :=
  if s.apiQuiescedMutex = none then { s.at t pc with apiQuiescedMutex := some t } else s

def QuiesceState.lockActive (s : QuiesceState T) (t : T) (pc : QuiescePc T) : QuiesceState T :=
  if s.activeCallsMutex = none then { s.at t pc with activeCallsMutex := some t } else s

def QuiesceState.unlockQuiesced (s : QuiesceState T) (t : T) (pc : QuiescePc T) : QuiesceState T :=
  { s.at t pc with apiQuiescedMutex := none }

def QuiesceState.unlockActive (s : QuiesceState T) (t : T) (pc : QuiescePc T) : QuiesceState T :=
  { s.at t pc with activeCallsMutex := none }

def quiescePoll (s : QuiesceState T) (t : T) (outstanding : T → Option Nat) (activeAtStart sleptNanosec : Nat) :
    QuiesceState T :=
  if sleptNanosec < pollMaxMillisec * 1000 then
    if s.activeCalls = 0 then s.at t (.quiescePolled outstanding activeAtStart false)
    else s.at t (.quiescePolling outstanding activeAtStart (sleptNanosec + pollIntervalMillisec * 1000))
  else s.at t (.quiescePolled outstanding activeAtStart true)

def quiesceGo (s : QuiesceState T) (t : T) : QuiescePc T → QuiesceState T
  | .outside => s
  -- increment_active_api_calls
  | .incrementStart => s.lockQuiesced t .incrementLocked
  | .incrementLocked => s.lockActive t .incrementing
  | .incrementing =>
    if s.apiQuiesced = true ∨ s.libraryDisabled = true then s.unlockActive t (.incremented false)
    else { s.unlockActive t (.incremented true) with activeCalls := s.activeCalls + 1 }
  | .incremented ok => s.unlockQuiesced t (if ok = true then .body else .outside)
  | .body => s.at t .epilogue
  | .uncountedBody => s.at t .outside
  -- decrement_active_api_calls
  | .epilogue => s.lockActive t .decrementing
  | .decrementing =>
    { s.unlockActive t .outside with
      activeCalls := if 0 < s.activeCalls then s.activeCalls - 1 else s.activeCalls }
  -- ddca_redetect_displays and quiesce_api
  | .redetectTested => { s.at t (.quiesceStart s.outstanding) with ddcaRedetectActive := true }
  | .quiesceStart outstanding => s.lockQuiesced t (.quiesceLocked outstanding)
  | .quiesceLocked outstanding => s.lockActive t (.quiesceTest outstanding)
  | .quiesceTest outstanding =>
    if 0 < s.activeCalls then s.at t (.quiescePolling outstanding s.activeCalls 0)
    else s.at t (.quiescePolled outstanding s.activeCalls false)
  | .quiescePolling outstanding activeAtStart sleptNanosec => quiescePoll s t outstanding activeAtStart sleptNanosec
  | .quiescePolled outstanding activeAtStart oops =>
    s.unlockActive t (.quiesceSetting outstanding activeAtStart oops)
  | .quiesceSetting _ _ oops => { s.unlockQuiesced t (.redetecting oops s.outstanding) with apiQuiesced := true }
  -- dw_redetect_displays and unquiesce_api
  | .redetecting oops left => s.at t (.unquiesceStart oops left)
  | .unquiesceStart oops left => s.lockQuiesced t (.unquiesceLocked oops left)
  | .unquiesceLocked _ _ => { s.unlockQuiesced t .redetected with apiQuiesced := false }
  | .redetected => { s.at t .outside with ddcaRedetectActive := false }

def QuiesceState.enterFrom (s : QuiesceState T) (t : T) (pc : QuiescePc T) : QuiesceState T :=
  match s.pc t with
  | .outside => { s.at t pc with callNo := Function.update s.callNo t (s.callNo t + 1) }
  | _ => s

/-- **One step of a thread.**  `ddca_redetect_displays` returns at once where it is active. -/
def quiesceStep (s : QuiesceState T) : QuiesceEvent T → Exec (QuiesceState T)
  | .call t => .ok (s.enterFrom t .incrementStart)
  | .callUncounted t => .ok (s.enterFrom t .uncountedBody)
  | .redetect t => .ok (if s.ddcaRedetectActive = true then s else s.enterFrom t .redetectTested)
  | .go t => .ok (quiesceGo s t (s.pc t))

def SomeOutstanding (s : QuiesceState T) (outstanding : T → Option Nat) : Prop :=
  ∃ t, outstanding t = some (s.callNo t) ∧ (s.pc t).beforeEpilogue = true

def QuiescePc.hasQuiesced : QuiescePc T → Bool
  | .redetecting _ _ | .unquiesceStart _ _ | .unquiesceLocked _ _ => true
  | _ => false

def QuiescePc.inCall (pc : QuiescePc T) : Prop := pc.counted = true ∨ pc = .uncountedBody

/-- **What a step of a thread keeps.**  Where it ends `quiesce_api` and no outstanding call is before its epilogue,
`active_calls` is 0 and no error reported; a call that passes the prologue does so where no thread has quiesced the
API. -/
structure QuiesceStepRight (s : QuiesceState T) (e : QuiesceEvent T) (s' : QuiesceState T) : Prop where
  waited : ∀ t outstanding activeAtStart oops, e = .go t →
    s.pc t = .quiesceSetting outstanding activeAtStart oops → ¬ SomeOutstanding s outstanding →
      s'.activeCalls = 0 ∧ oops = false
  refused : ∀ t, ¬ (s.pc t).inCall → (s'.pc t).inCall → ∀ u, (s'.pc u).hasQuiesced = false
  /-- While displays are detected, a call in progress is one still outstanding when the limit expired. -/
  alone : ∀ r oops left, s'.pc r = .redetecting oops left → ∀ t, (s'.pc t).inCall →
    oops = true ∧ left t = some (s'.callNo t)

/-- **The steps in which nothing goes wrong**: every function that is called respects quiescing;
`ddca_redetect_displays` is not called between another thread's test that it is not active and its setting; and where
`quiesce_api` ends, `active_calls` was 0 when it had locked the mutexes, or an outstanding call is before its epilogue. -/
structure QuiesceMeets (s : QuiesceState T) (e : QuiesceEvent T) : Prop where
  counted : ∀ t, e ≠ .callUncounted t
  tested : ∀ t, e = .redetect t → ∀ u, s.pc u ≠ .redetectTested
  noneActive : ∀ t outstanding activeAtStart oops, e = .go t →
    s.pc t = .quiesceSetting outstanding activeAtStart oops → activeAtStart = 0 ∨ SomeOutstanding s outstanding

end Ddc
