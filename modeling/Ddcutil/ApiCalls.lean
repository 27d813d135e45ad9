import Ddcutil.Kit.Runs
import Ddcutil.Status
/-!
# ApiCalls — what the library counts of the API calls in progress

The functions of the API begin and end with macros.
-/
namespace Ddc

open Kit

variable {T : Type} [DecidableEq T]

/-- **A function of the API**: whether it respects quiescing, and whether it has preconditions of the kind
`API_PRECOND_W_EPILOG`. -/
structure ApiFunction where
  name : String
  respectQuiesce : Bool
  precondWEpilog : Bool

/-- **A call that has passed the prologue and not returned**, with the depth that its thread had before it and whether the
function itself is traced. -/
structure ApiCall (T : Type) where
  thread : T
  func : ApiFunction
  traced : Bool
  depthBefore : Int

structure ApiState (T : Type) where
  libraryInitializationFailed : Bool
  libraryDisabled : Bool
  apiQuiesced : Bool
  activeCalls : Nat
  maxActiveCalls : Nat
  traceApiCallDepth : T → Int
  calls : List (ApiCall T)

def ApiState.idle (libraryInitializationFailed : Bool) : ApiState T where
  libraryInitializationFailed := libraryInitializationFailed
  libraryDisabled := false
  apiQuiesced := false
  activeCalls := 0
  maxActiveCalls := 0
  traceApiCallDepth := fun _ => 0
  calls := []

def incrementActiveApiCalls (s : ApiState T) : Bool × ApiState T :=
  if s.apiQuiesced = true ∨ s.libraryDisabled = true then (false, s)
  else (true, { s with activeCalls := s.activeCalls + 1, maxActiveCalls := max s.maxActiveCalls (s.activeCalls + 1) })

def decrementActiveApiCalls (s : ApiState T) : ApiState T :=
  if 0 < s.activeCalls then { s with activeCalls := s.activeCalls - 1 } else s

def ApiState.setDepth (s : ApiState T) (thread : T) (depth : Int) : ApiState T :=
  { s with traceApiCallDepth := Function.update s.traceApiCallDepth thread depth }

def ApiCall.counted (c : ApiCall T) : Bool := decide (0 < c.depthBefore) || c.traced

def ApiState.enter (s : ApiState T) (thread : T) (func : ApiFunction) (traced : Bool) : ApiState T :=
  let depth := s.traceApiCallDepth thread
  { s.setDepth thread (if 0 < depth ∨ traced = true then depth + 1 else depth) with
    calls := ⟨thread, func, traced, depth⟩ :: s.calls }

def apiPrologx (thread : T) (func : ApiFunction) (traced : Bool) (s : ApiState T) : Option Status × ApiState T :=
  if s.libraryInitializationFailed = true then (some ddcrcUninitialized, s)
  else if func.respectQuiesce = true then
    let (ok, s) := incrementActiveApiCalls s
    if ok = true then (none, s.enter thread func traced) else (some ddcrcQuiesced, s)
  else (none, s.enter thread func traced)

def takeCall (thread : T) : List (ApiCall T) → Option (ApiCall T × List (ApiCall T))
  | [] => none
  | c :: calls =>
    if c.thread = thread then some (c, calls) else (takeCall thread calls).map fun r => (r.1, c :: r.2)

/-- **`API_PRECOND_W_EPILOG`** of a precondition that does not hold, in a call `c` that returns. -/
def apiPrecondWEpilog (c : ApiCall T) (calls : List (ApiCall T)) (s : ApiState T) : ApiState T :=
  { s.setDepth c.thread (s.traceApiCallDepth c.thread - 1) with calls := calls }

def apiEpilog (c : ApiCall T) (calls : List (ApiCall T)) (s : ApiState T) : ApiState T :=
  let depth := s.traceApiCallDepth c.thread
  let s := s.setDepth c.thread (if 0 < depth then depth - 1 else depth)
  let s := if c.func.respectQuiesce = true then decrementActiveApiCalls s else s
  { s with calls := calls }

/-- **What the threads do.**  A precondition is one of the kind `API_PRECOND_W_EPILOG`; every other way out of a function
ends in its epilogue. -/
inductive ApiEvent (T : Type) where
  | prologue (thread : T) (func : ApiFunction) (traced : Bool)
  | preconditionFailed (thread : T)
  | epilogue (thread : T)
  | setQuiesced (quiesced : Bool)
  | setDisabled (disabled : Bool)

/-- **One step of a thread**; a thread without a call in progress does not leave one. -/
def apiStep (s : ApiState T) : ApiEvent T → Exec (ApiState T)
  | .prologue thread func traced => .ok (apiPrologx thread func traced s).2
  | .preconditionFailed thread =>
    match takeCall thread s.calls with
    | some (c, calls) => .ok (if c.func.precondWEpilog = true then apiPrecondWEpilog c calls s else s)
    | none => .ok s
  | .epilogue thread =>
    match takeCall thread s.calls with
    | some (c, calls) => .ok (apiEpilog c calls s)
    | none => .ok s
  | .setQuiesced quiesced => .ok { s with apiQuiesced := quiesced }
  | .setDisabled disabled => .ok { s with libraryDisabled := disabled }

/-! ## What is promised -/

/-- **The call that a step ends**: its thread, the depth before it and whether it was counted in `active_calls`. -/
def callEnded (s : ApiState T) : ApiEvent T → Option (T × Int × Bool)
  | .prologue thread func traced =>
    (apiPrologx thread func traced s).1.map fun _ => (thread, s.traceApiCallDepth thread, false)
  | .preconditionFailed thread =>
    match takeCall thread s.calls with
    | some (c, _) =>
      if c.func.precondWEpilog = true then some (c.thread, c.depthBefore, c.func.respectQuiesce) else none
    | none => none
  | .epilogue thread => (takeCall thread s.calls).map fun r => (r.1.thread, r.1.depthBefore, r.1.func.respectQuiesce)
  | .setQuiesced _ | .setDisabled _ => none

/-- **The counts are right**: `active_calls` is the number of calls in progress that respect quiescing, so it is 0 where
there are none, and no depth is negative. -/
structure ApiState.Balanced (s : ApiState T) : Prop where
  active : s.activeCalls = s.calls.countP fun c => c.func.respectQuiesce
  idle : s.calls = [] → s.activeCalls = 0
  depth : ∀ thread, 0 ≤ s.traceApiCallDepth thread

/-- **A step leaves the counts right**, and where it ends a call, `active_calls` is decremented once if the call was
counted, and the depth is what it was before the call. -/
structure StepBalanced (s : ApiState T) (e : ApiEvent T) (s' : ApiState T) : Prop where
  balanced : s'.Balanced
  decremented : ∀ thread depth counted, callEnded s e = some (thread, depth, counted) →
    s.activeCalls = s'.activeCalls + if counted = true then 1 else 0
  restored : ∀ thread depth counted, callEnded s e = some (thread, depth, counted) →
    s'.traceApiCallDepth thread = depth

/-- **A precondition fails that returns without an epilogue**, in a call that is counted in `active_calls` or is not
counted in the depth. -/
def PreconditionLeaks (s : ApiState T) (e : ApiEvent T) : Prop :=
  ∃ thread c calls, e = .preconditionFailed thread ∧ takeCall thread s.calls = some (c, calls) ∧
    c.func.precondWEpilog = true ∧ (c.func.respectQuiesce = true ∨ c.counted = false)

end Ddc

/-! ## The counts over any interleaving

The depth of a thread is what its nested calls make of it, each on top of the depth before it; with the count of the
calls in progress this is kept by every step but a precondition that returns without the epilogue.
-/

namespace Ddc

open Kit List Function

variable {T : Type}

def ApiCall.depthAfter (c : ApiCall T) : Int := if c.counted = true then c.depthBefore + 1 else c.depthBefore

def Stacked : List (ApiCall T) → Int → Prop
  | [], depth => 0 ≤ depth
  | c :: calls, depth => depth = c.depthAfter ∧ Stacked calls c.depthBefore

theorem Stacked.nonneg : ∀ {calls : List (ApiCall T)} {depth : Int}, Stacked calls depth → 0 ≤ depth
  | [], _, h => h
  | c :: calls, depth, h => by
    have hbefore := h.2.nonneg
    rw [h.1, ApiCall.depthAfter]
    split
    · exact Int.le_trans hbefore (Int.le_add_of_nonneg_right (by decide))
    · exact hbefore

variable [DecidableEq T]

/-! ## The latest call of a thread -/

def callsOf (thread : T) (calls : List (ApiCall T)) : List (ApiCall T) := calls.filter fun c => c.thread = thread

theorem callsOf_cons_self (c : ApiCall T) (calls : List (ApiCall T)) :
    callsOf c.thread (c :: calls) = c :: callsOf c.thread calls :=
  filter_cons_of_pos (decide_eq_true rfl)

theorem callsOf_cons_of_ne {thread : T} {c : ApiCall T} (h : c.thread ≠ thread) (calls : List (ApiCall T)) :
    callsOf thread (c :: calls) = callsOf thread calls :=
  filter_cons_of_neg fun h' => h (of_decide_eq_true h')

theorem takeCall_spec {thread : T} {c : ApiCall T} : ∀ {calls rest : List (ApiCall T)},
    takeCall thread calls = some (c, rest) → c.thread = thread ∧ callsOf thread calls = c :: callsOf thread rest ∧
      (∀ other, other ≠ thread → callsOf other calls = callsOf other rest) ∧
      ∀ p : ApiCall T → Bool, calls.countP p = rest.countP p + if p c = true then 1 else 0
  | [], _, h => by cases h
  | d :: calls, rest, h => by
    unfold takeCall at h
    by_cases hd : d.thread = thread
    · rw [if_pos hd] at h
      cases h
      refine ⟨hd, ?_, fun other hother => ?_, fun p => countP_cons⟩
      · rw [← hd]; exact callsOf_cons_self c calls
      · exact callsOf_cons_of_ne (fun heq => hother (heq.symm.trans hd)) calls
    · rw [if_neg hd] at h
      obtain ⟨⟨c', rest'⟩, hr, heq⟩ := Option.map_eq_some_iff.1 h
      cases heq
      obtain ⟨hthread, hself, hothers, hcount⟩ := takeCall_spec hr
      refine ⟨hthread, ?_, fun other hother => ?_, fun p => ?_⟩
      · rw [callsOf_cons_of_ne hd, callsOf_cons_of_ne hd, hself]
      · by_cases hdo : d.thread = other
        · rw [← hdo, callsOf_cons_self, callsOf_cons_self, hdo, hothers other hother]
        · rw [callsOf_cons_of_ne hdo, callsOf_cons_of_ne hdo, hothers other hother]
      · rw [countP_cons, countP_cons, hcount, Nat.add_right_comm]

structure ApiState.Inv (s : ApiState T) : Prop where
  active : s.activeCalls = s.calls.countP fun c => c.func.respectQuiesce
  stacked : ∀ thread, Stacked (callsOf thread s.calls) (s.traceApiCallDepth thread)

theorem ApiState.Inv.toBalanced {s : ApiState T} (h : s.Inv) : s.Balanced where
  active := h.active
  idle := by
    intro hcalls
    rw [h.active, hcalls]; rfl
  depth := fun thread => (h.stacked thread).nonneg

theorem ApiState.idle_inv (failed : Bool) : (ApiState.idle failed : ApiState T).Inv where
  active := rfl
  stacked := fun _ => Int.le_refl 0

/-! ## Prologues -/

theorem ApiState.Inv.enter {s : ApiState T} (h : s.Inv) {thread : T} {func : ApiFunction} (traced : Bool) (n : Nat)
    (max : Nat) (hn : n = s.activeCalls + if func.respectQuiesce = true then 1 else 0) :
    ({ s with activeCalls := n, maxActiveCalls := max }.enter thread func traced).Inv where
  active := by
    show n = (⟨thread, func, traced, s.traceApiCallDepth thread⟩ :: s.calls).countP fun c => c.func.respectQuiesce
    rw [countP_cons, ← h.active, hn]
  stacked := by
    intro other
    show Stacked (callsOf other (⟨thread, func, traced, s.traceApiCallDepth thread⟩ :: s.calls))
      (update s.traceApiCallDepth thread _ other)
    by_cases hother : other = thread
    · subst hother
      rw [callsOf_cons_self ⟨other, func, traced, s.traceApiCallDepth other⟩, update_self]
      refine ⟨?_, h.stacked other⟩
      simp only [ApiCall.depthAfter, ApiCall.counted, Bool.or_eq_true, decide_eq_true_eq]
    · rw [callsOf_cons_of_ne (fun heq => hother heq.symm), update_of_ne hother]
      exact h.stacked other

theorem apiPrologx_inv {s : ApiState T} (h : s.Inv) (thread : T) (func : ApiFunction) (traced : Bool) :
    (apiPrologx thread func traced s).2.Inv ∧
      (∀ status, (apiPrologx thread func traced s).1 = some status → (apiPrologx thread func traced s).2 = s) := by
  unfold apiPrologx
  by_cases hfailed : s.libraryInitializationFailed = true
  · rw [if_pos hfailed]; exact ⟨h, fun _ _ => rfl⟩
  rw [if_neg hfailed]
  by_cases hrespect : func.respectQuiesce = true
  · rw [if_pos hrespect]
    unfold incrementActiveApiCalls
    by_cases hquiesced : s.apiQuiesced = true ∨ s.libraryDisabled = true
    · rw [if_pos hquiesced]; exact ⟨h, fun _ _ => rfl⟩
    · rw [if_neg hquiesced]
      refine ⟨h.enter traced _ _ ?_, fun status hstatus => by cases hstatus⟩
      rw [if_pos hrespect]
  · rw [if_neg hrespect]
    refine ⟨h.enter traced s.activeCalls s.maxActiveCalls ?_, fun status hstatus => by cases hstatus⟩
    rw [if_neg hrespect]; rfl

/-! ## Ends of calls -/

/-- **Where a call ends, the rest of the counts is right** if `active_calls` and the depth of its thread are. -/
theorem ApiState.Inv.endCall {s s' : ApiState T} (h : s.Inv) {thread : T} {c : ApiCall T} {calls : List (ApiCall T)}
    (htake : takeCall thread s.calls = some (c, calls)) (hcalls : s'.calls = calls)
    (hactive : s.activeCalls = s'.activeCalls + if c.func.respectQuiesce = true then 1 else 0)
    (hdepth : s'.traceApiCallDepth = update s.traceApiCallDepth thread c.depthBefore) : s'.Inv where
  active := by
    have hcount := (takeCall_spec htake).2.2.2 fun c => c.func.respectQuiesce
    rw [hcalls]
    have hbefore := h.active
    omega
  stacked := by
    intro other
    obtain ⟨-, hself, hothers, -⟩ := takeCall_spec htake
    rw [hcalls, hdepth]
    by_cases hother : other = thread
    · rw [hother, update_self]
      have hstack := h.stacked thread
      rw [hself] at hstack; exact hstack.2
    · rw [update_of_ne hother, ← hothers other hother]; exact h.stacked other

theorem ApiState.Inv.depth_eq {s : ApiState T} (h : s.Inv) {thread : T} {c : ApiCall T} {calls : List (ApiCall T)}
    (htake : takeCall thread s.calls = some (c, calls)) :
    s.traceApiCallDepth thread = c.depthAfter ∧ 0 ≤ c.depthBefore := by
  have hstack := h.stacked thread
  rw [(takeCall_spec htake).2.1] at hstack; exact ⟨hstack.1, hstack.2.nonneg⟩

theorem apiEpilog_eq {s : ApiState T} (h : s.Inv) {thread : T} {c : ApiCall T} {calls : List (ApiCall T)}
    (htake : takeCall thread s.calls = some (c, calls)) :
    (apiEpilog c calls s).calls = calls ∧
      s.activeCalls = (apiEpilog c calls s).activeCalls + (if c.func.respectQuiesce = true then 1 else 0) ∧
      (apiEpilog c calls s).traceApiCallDepth = update s.traceApiCallDepth thread c.depthBefore := by
  obtain ⟨hthread, -, -, hcount⟩ := takeCall_spec htake
  obtain ⟨hdepth, hbefore⟩ := h.depth_eq htake
  have hback : (if 0 < s.traceApiCallDepth c.thread then s.traceApiCallDepth c.thread - 1
      else s.traceApiCallDepth c.thread) = c.depthBefore := by
    rw [hthread, hdepth, ApiCall.depthAfter]
    by_cases hcounted : c.counted = true
    · rw [if_pos hcounted, if_pos (by omega), Int.add_sub_cancel]
    · have hzero : ¬ 0 < c.depthBefore := fun hpos =>
        hcounted (by rw [ApiCall.counted, decide_eq_true hpos, Bool.true_or])
      rw [if_neg hcounted, if_neg hzero]
  have hactive : c.func.respectQuiesce = true → 0 < s.activeCalls := by
    intro hrespect
    rw [h.active, hcount, if_pos hrespect]; exact Nat.succ_pos _
  unfold apiEpilog
  dsimp only
  rw [hback, hthread]
  by_cases hrespect : c.func.respectQuiesce = true
  · have hpos : 0 < (s.setDepth thread c.depthBefore).activeCalls := hactive hrespect
    rw [if_pos hrespect, decrementActiveApiCalls, if_pos hpos, if_pos hrespect]
    exact ⟨rfl, (Nat.sub_add_cancel hpos).symm, rfl⟩
  · rw [if_neg hrespect, if_neg hrespect]; exact ⟨rfl, rfl, rfl⟩

theorem apiEpilog_balanced {s : ApiState T} (h : s.Inv) {thread : T} {c : ApiCall T} {calls : List (ApiCall T)}
    (htake : takeCall thread s.calls = some (c, calls)) : (apiEpilog c calls s).Inv := by
  obtain ⟨hcalls, hactive, hdepth⟩ := apiEpilog_eq h htake
  exact h.endCall htake hcalls hactive hdepth

theorem apiPrecondWEpilog_inv_iff {s : ApiState T} (h : s.Inv) {thread : T} {c : ApiCall T}
    {calls : List (ApiCall T)} (htake : takeCall thread s.calls = some (c, calls)) :
    (c.func.respectQuiesce = false ∧ c.counted = true ↔ (apiPrecondWEpilog c calls s).Balanced ∧
      (apiPrecondWEpilog c calls s).traceApiCallDepth thread = c.depthBefore) ∧
    (c.func.respectQuiesce = false ∧ c.counted = true → (apiPrecondWEpilog c calls s).Inv) := by
  obtain ⟨hthread, -, -, hcount⟩ := takeCall_spec htake
  obtain ⟨hdepth, hbefore⟩ := h.depth_eq htake
  have hlater : (apiPrecondWEpilog c calls s).traceApiCallDepth =
      update s.traceApiCallDepth thread (s.traceApiCallDepth thread - 1) := by
    rw [← hthread]; rfl
  have hinv : c.func.respectQuiesce = false ∧ c.counted = true → (apiPrecondWEpilog c calls s).Inv := by
    rintro ⟨hrespect, hcounted⟩
    refine h.endCall htake rfl ?_ ?_
    · rw [hrespect]; rfl
    · rw [hlater, hdepth, ApiCall.depthAfter, if_pos hcounted, Int.add_sub_cancel]
  refine ⟨⟨fun hc => ⟨(hinv hc).toBalanced, ?_⟩, ?_⟩, hinv⟩
  · rw [hlater, update_self, hdepth, ApiCall.depthAfter, if_pos hc.2, Int.add_sub_cancel]
  · rintro ⟨hbalanced, hrestored⟩
    constructor
    · have hactive : s.activeCalls = calls.countP fun c => c.func.respectQuiesce := hbalanced.active
      rw [h.active, hcount] at hactive
      by_contra hrespect
      rw [if_pos (Bool.of_not_eq_false hrespect)] at hactive; omega
    · rw [hlater, update_self, hdepth, ApiCall.depthAfter] at hrestored
      by_contra hcounted
      rw [if_neg hcounted] at hrestored; omega

/-! ## Runs -/

theorem ApiState.Inv.stepBalanced {s s' : ApiState T} {e : ApiEvent T} (h : s'.Inv) (hend : callEnded s e = none) :
    StepBalanced s e s' where
  balanced := h.toBalanced
  decremented := by
    intro thread depth counted heq
    rw [hend] at heq; cases heq
  restored := by
    intro thread depth counted heq
    rw [hend] at heq; cases heq

theorem prologue_balanced {s : ApiState T} (h : s.Inv) (thread : T) (func : ApiFunction) (traced : Bool) :
    StepBalanced s (.prologue thread func traced) (apiPrologx thread func traced s).2 := by
  obtain ⟨hinv, hrefused⟩ := apiPrologx_inv h thread func traced
  cases hstatus : (apiPrologx thread func traced s).1 with
  | none => exact hinv.stepBalanced (by rw [callEnded, hstatus, Option.map_none])
  | some status =>
    have hsame := hrefused status hstatus
    have hend : callEnded s (.prologue thread func traced) = some (thread, s.traceApiCallDepth thread, false) := by
      rw [callEnded, hstatus, Option.map_some]
    refine ⟨hinv.toBalanced, fun t depth counted heq => ?_, fun t depth counted heq => ?_⟩
    · rw [hend] at heq
      cases heq
      rw [hsame]; rfl
    · rw [hend] at heq
      cases heq
      rw [hsame]

theorem epilogue_balanced {s : ApiState T} (h : s.Inv) {thread : T} {c : ApiCall T} {calls : List (ApiCall T)}
    (htake : takeCall thread s.calls = some (c, calls)) :
    StepBalanced s (.epilogue thread) (apiEpilog c calls s) := by
  obtain ⟨-, hactive, hdepth⟩ := apiEpilog_eq h htake
  have hthread := (takeCall_spec htake).1
  have hend : callEnded s (.epilogue thread) = some (c.thread, c.depthBefore, c.func.respectQuiesce) := by
    rw [callEnded, htake, Option.map_some]
  refine ⟨(apiEpilog_balanced h htake).toBalanced, fun t depth counted heq => ?_, fun t depth counted heq => ?_⟩
  · rw [hend] at heq
    cases heq; exact hactive
  · rw [hend] at heq
    cases heq
    rw [hdepth, hthread, update_self]

theorem precondition_balanced_iff {s : ApiState T} (h : s.Inv) {thread : T} {c : ApiCall T} {calls : List (ApiCall T)}
    (htake : takeCall thread s.calls = some (c, calls)) (hprecond : c.func.precondWEpilog = true) :
    StepBalanced s (.preconditionFailed thread) (apiPrecondWEpilog c calls s) ↔
      c.func.respectQuiesce = false ∧ c.counted = true := by
  obtain ⟨hiff, -⟩ := apiPrecondWEpilog_inv_iff h htake
  have hthread := (takeCall_spec htake).1
  have hend : callEnded s (.preconditionFailed thread) = some (c.thread, c.depthBefore, c.func.respectQuiesce) := by
    rw [callEnded, htake]; exact if_pos hprecond
  constructor
  · intro hstep
    have hrestored := hstep.restored c.thread c.depthBefore c.func.respectQuiesce hend
    rw [hthread] at hrestored; exact hiff.2 ⟨hstep.balanced, hrestored⟩
  · intro hc
    obtain ⟨hbalanced, hrestored⟩ := hiff.1 hc
    refine ⟨hbalanced, fun t depth counted heq => ?_, fun t depth counted heq => ?_⟩
    · rw [hend] at heq
      cases heq
      rw [hc.1]; rfl
    · rw [hend] at heq
      cases heq
      rw [hthread]; exact hrestored

theorem preconditionLeaks_iff {s : ApiState T} {thread : T} {c : ApiCall T} {calls : List (ApiCall T)}
    (htake : takeCall thread s.calls = some (c, calls)) (hprecond : c.func.precondWEpilog = true) :
    PreconditionLeaks s (.preconditionFailed thread) ↔ ¬ (c.func.respectQuiesce = false ∧ c.counted = true) := by
  rw [not_and_or, Bool.not_eq_false, Bool.not_eq_true]
  constructor
  · rintro ⟨t, c', calls', heq, htake', -, hleak⟩
    cases heq
    rw [htake] at htake'
    cases htake'; exact hleak
  · exact fun hleak => ⟨thread, c, calls, rfl, htake, hprecond, hleak⟩

/-- **A step leaves the counts right exactly where no precondition leaks**, and then it keeps the invariant. -/
theorem apiStep_spec {s s' : ApiState T} (h : s.Inv) {e : ApiEvent T} (hstep : apiStep s e = .ok s') :
    (StepBalanced s e s' ↔ ¬ PreconditionLeaks s e) ∧ (¬ PreconditionLeaks s e → s'.Inv) := by
  have hkept : s'.Inv → StepBalanced s e s' → (∀ thread, e ≠ .preconditionFailed thread) →
      (StepBalanced s e s' ↔ ¬ PreconditionLeaks s e) ∧ (¬ PreconditionLeaks s e → s'.Inv) := by
    intro hinv hbalanced hne
    refine ⟨iff_of_true hbalanced ?_, fun _ => hinv⟩
    rintro ⟨thread, -, -, heq, -⟩
    exact hne thread heq
  cases e with
  | prologue thread func traced =>
    cases hstep
    exact hkept (apiPrologx_inv h thread func traced).1 (prologue_balanced h thread func traced) fun _ h' => by cases h'
  | epilogue thread =>
    dsimp only [apiStep] at hstep
    cases htake : takeCall thread s.calls with
    | none =>
      rw [htake] at hstep
      cases hstep
      exact hkept h (h.stepBalanced (by rw [callEnded, htake, Option.map_none])) fun _ h' => by cases h'
    | some r =>
      rw [htake] at hstep
      cases hstep
      exact hkept (apiEpilog_balanced h htake) (epilogue_balanced h htake) fun _ h' => by cases h'
  | setQuiesced quiesced =>
    cases hstep
    have hinv : ({ s with apiQuiesced := quiesced } : ApiState T).Inv := ⟨h.active, h.stacked⟩
    exact hkept hinv (hinv.stepBalanced rfl) fun _ h' => by cases h'
  | setDisabled disabled =>
    cases hstep
    have hinv : ({ s with libraryDisabled := disabled } : ApiState T).Inv := ⟨h.active, h.stacked⟩
    exact hkept hinv (hinv.stepBalanced rfl) fun _ h' => by cases h'
  | preconditionFailed thread =>
    dsimp only [apiStep] at hstep
    cases htake : takeCall thread s.calls with
    | none =>
      rw [htake] at hstep
      cases hstep
      refine ⟨iff_of_true (h.stepBalanced (by rw [callEnded, htake])) ?_, fun _ => h⟩
      rintro ⟨t, c, calls, heq, htake', -⟩
      cases heq
      rw [htake] at htake'; cases htake'
    | some r =>
      obtain ⟨c, calls⟩ := r
      rw [htake] at hstep
      by_cases hprecond : c.func.precondWEpilog = true
      · dsimp only at hstep
        rw [if_pos hprecond] at hstep
        cases hstep
        rw [precondition_balanced_iff h htake hprecond, preconditionLeaks_iff htake hprecond, not_not]
        exact ⟨.rfl, (apiPrecondWEpilog_inv_iff h htake).2⟩
      · dsimp only at hstep
        rw [if_neg hprecond] at hstep
        cases hstep
        have hend : callEnded s (.preconditionFailed thread) = none := by
          rw [callEnded, htake]; exact if_neg hprecond
        refine ⟨iff_of_true (h.stepBalanced hend) ?_, fun _ => h⟩
        rintro ⟨t, c', calls', heq, htake', hprecond', -⟩
        cases heq
        rw [htake] at htake'
        cases htake'; exact hprecond hprecond'

/-- **Along any run, the counts are right exactly as long as no precondition leaks.** -/
theorem apiCalls_balanced_iff (failed : Bool) (events : List (ApiEvent T)) :
    AllAlong apiStep (fun s e => ∀ s', apiStep s e = .ok s' → StepBalanced s e s') (ApiState.idle failed) events ↔
      AllAlong apiStep (fun s e => ¬ PreconditionLeaks s e) (ApiState.idle failed) events := by
  refine (AllAlong.congr ?_ ?_ (ApiState.idle_inv failed)).symm
  · intro s e h
    have hok : ∃ s', apiStep s e = .ok s' := by
      unfold apiStep
      split
      · exact ⟨_, rfl⟩
      · split <;> exact ⟨_, rfl⟩
      · split <;> exact ⟨_, rfl⟩
      · exact ⟨_, rfl⟩
      · exact ⟨_, rfl⟩
    obtain ⟨s', hs'⟩ := hok
    refine ⟨fun hleak t ht => (apiStep_spec h ht).1.2 hleak, fun hall => ?_⟩
    exact (apiStep_spec h hs').1.1 (hall s' hs')
  · exact fun s e s' h hleak hs' => (apiStep_spec h hs').2 hleak

def ddcaGetCapabilitiesString : ApiFunction := ⟨"ddca_get_capabilities_string", true, true⟩

/-- A call with a NULL location: it returns, and is counted from then on. -/
theorem nullLocation_not_balanced : ¬ AllAlong apiStep (fun s e => ∀ s', apiStep s e = .ok s' → StepBalanced s e s')
    (ApiState.idle false : ApiState Nat) [.prologue 0 ddcaGetCapabilitiesString false, .preconditionFailed 0] := by
  rintro ⟨-, hrest⟩
  obtain ⟨hsecond, -⟩ := hrest _ rfl
  have hactive := (hsecond _ rfl).balanced.idle rfl
  exact absurd hactive (by decide)

end Ddc
