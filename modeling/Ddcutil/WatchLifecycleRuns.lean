import Ddcutil.WatchLifecycle
/-!
# WatchLifecycleRuns — when starting and stopping the threads is right

Where the threads are only started after those of the start before have ended, there is one pair of threads, the flag
is what that pair was told, and the queue is the one that its recheck thread made.
-/
namespace Ddc

open Kit List Function

variable {canWatch : Bool} {s s' : WatchLife} {n : Nat}

theorem set_pairs_same (s : WatchLife) (n : Nat) (p : WatchPair) : (s.set n p).pairs n = p := by
  exact update_self n p s.pairs

theorem set_pairs_other (s : WatchLife) {n m : Nat} (h : m ≠ n) (p : WatchPair) : (s.set n p).pairs m = s.pairs m := by
  exact update_of_ne h p s.pairs

theorem set_set (s : WatchLife) (n : Nat) (p p' : WatchPair) : (s.set n p).set n p' = s.set n p' := by
  unfold WatchLife.set
  rw [update_idem]

/-! ## The invariant -/

/-- **The pair of the latest start**: the flag is what it was told, and its requests are its own. -/
structure PairInv (terminate : Bool) (recheckQueue : Option Nat) (n : Nat) (p : WatchPair) : Prop where
  told : p.told = terminate
  inCheck : p.told = true → p.watch.handles = true → p.inCheck = true
  inRecheck : p.told = true → p.recheck.handles = true → p.inRecheck = true
  queue : p.recheck ≠ .created → recheckQueue = some n
  queued : ∀ rqe ∈ p.queue, rqe = n
  toCheckAgain : ∀ rqe ∈ p.toCheckAgain, rqe = n
  ready : ∀ rqe, p.recheck = .ready (some rqe) → rqe = n
  handling : ∀ rqe, p.recheck = .handling rqe → rqe = n
  nothing : p.recheck = .ready none → terminate = true

/-- The classes with which `dw_redetect_displays` starts the threads again can be watched for. -/
def Restartable (canWatch : Bool) (restart : Option UInt8) : Prop :=
  ∀ classes, restart = some classes → canWatch = true ∧ watchableClasses classes = true

def ClientInv (canWatch : Bool) (s : WatchLife) : WatchClient → Prop
  | .idle => True
  | .stopping => s.watchThread ≠ none
  | .joinWatch n restart => s.watchThread = some n ∧ Restartable canWatch restart
  | .joinRecheck n restart => s.watchThread = some n ∧ (s.pairs n).watch = .ended ∧ Restartable canWatch restart
  | .restarting classes => s.watchThread = none ∧ s.AllEnded ∧ Restartable canWatch (some classes)

structure LifeInv (canWatch : Bool) (s : WatchLife) : Prop where
  ended : ∀ n, n + 1 ≠ s.starts → (s.pairs n).watch = .ended ∧ (s.pairs n).recheck = .ended
  latest : ∀ n, n + 1 = s.starts → PairInv s.terminateWatchThread s.recheckQueue n (s.pairs n)
  current : ∀ n, s.watchThread = some n → n + 1 = s.starts ∧ Restartable canWatch (some s.activeClasses)
  client : ClientInv canWatch s s.client

theorem life_start_inv : LifeInv canWatch .start where
  ended := fun _ _ => ⟨rfl, rfl⟩
  latest := fun _ h => absurd h (Nat.succ_ne_zero _)
  current := fun _ h => by cases h
  client := trivial

variable {p : WatchPair} {recheckQueue : Option Nat} {terminate : Bool}

theorem LifeInv.set (h : LifeInv canWatch s) (hn : n + 1 = s.starts)
    (hwatch : (s.pairs n).watch = .ended → p.watch = .ended)
    (hrecheck : (s.pairs n).recheck = .ended → p.recheck = .ended)
    (hpair : PairInv s.terminateWatchThread recheckQueue n p) :
    LifeInv canWatch { s.set n p with recheckQueue := recheckQueue } where
  ended := by
    intro m hm
    have hne : m ≠ n := fun hc => hm (hc ▸ hn)
    rw [set_pairs_other s hne]; exact h.ended m hm
  latest := by
    intro m hm
    have hsame : m = n := Nat.succ.inj (hm.trans hn.symm)
    rw [hsame, set_pairs_same]; exact hpair
  current := h.current
  client := by
    have hclient := h.client
    show ClientInv canWatch { s.set n p with recheckQueue := recheckQueue } s.client
    cases hpos : s.client with
    | idle => trivial
    | stopping =>
      rw [hpos] at hclient; exact hclient
    | joinWatch m restart =>
      rw [hpos] at hclient; exact hclient
    | joinRecheck m restart =>
      rw [hpos] at hclient
      obtain ⟨hcurrent, hended, hrestart⟩ := hclient
      have hsame : m = n := Nat.succ.inj ((h.current m hcurrent).1.trans hn.symm)
      refine ⟨hcurrent, ?_, hrestart⟩
      rw [hsame, set_pairs_same]; exact hwatch (hsame ▸ hended)
    | restarting classes =>
      rw [hpos] at hclient
      obtain ⟨hnone, hended, hrestart⟩ := hclient
      refine ⟨hnone, fun m => ?_, hrestart⟩
      by_cases hm : m = n
      · rw [hm, set_pairs_same]; exact ⟨hwatch (hended n).1, hrecheck (hended n).2⟩
      · rw [set_pairs_other s hm]; exact hended m

/-! ## The watch thread -/

theorem PairInv.setWatch (h : PairInv terminate recheckQueue n p) {watch : WatchPc}
    (hcheck : terminate = true → watch.handles = true → p.inCheck = true) :
    PairInv terminate recheckQueue n { p with watch := watch } :=
  { h with inCheck := fun htold hhandles => hcheck (h.told ▸ htold) hhandles }

theorem put_eq (hqueue : s.recheckQueue = some n) (watch : WatchPc) :
    (putOnQueue s n).setWatch n watch =
      s.set n { s.pairs n with queue := (s.pairs n).queue ++ [n], watch := watch } := by
  rw [putOnQueue, WatchLife.setWatch, hqueue]
  rw [set_set, set_pairs_same]

theorem LifeInv.watchStep (h : LifeInv canWatch s) {found : Bool} {rechecks : Nat}
    (hguard : WatchLifeGuard canWatch s (.watch n found rechecks)) :
    LifeInv canWatch (watchThreadStep s n found rechecks (s.pairs n).watch) := by
  by_cases hn : n + 1 = s.starts
  · have hpair := h.latest n hn
    have hset : ∀ watch, (s.pairs n).watch ≠ .ended →
        (s.terminateWatchThread = true → watch.handles = true → (s.pairs n).inCheck = true) →
          LifeInv canWatch (s.setWatch n watch) := by
      intro watch hne hcheck
      exact h.set hn (fun hended => absurd hended hne) id (hpair.setWatch hcheck)
    cases hpos : (s.pairs n).watch with
    | starting => exact hset _ (by simp [hpos]) fun _ hhandles => by cases hhandles
    | loopTop =>
      show LifeInv canWatch (if s.terminateWatchThread = true then s.setWatch n .ended else s.setWatch n _)
      split
      · exact hset _ (by simp [hpos]) fun _ hhandles => by cases hhandles
      · rename_i hterminate; exact hset _ (by simp [hpos]) fun hc => absurd hc hterminate
    | sleeping => exact hset _ (by simp [hpos]) fun _ hhandles => by cases hhandles
    | slept =>
      show LifeInv canWatch (if s.terminateWatchThread = true then s.setWatch n .loopTop else s.setWatch n _)
      split
      · exact hset _ (by simp [hpos]) fun _ hhandles => by cases hhandles
      · rename_i hterminate; exact hset _ (by simp [hpos]) fun hc => absurd hc hterminate
    | waitingEvent =>
      refine hset _ (by simp [hpos]) fun hterminate _ => ?_
      exact hpair.inCheck (hpair.told.trans hterminate) (by rw [hpos]; rfl)
    | checking =>
      refine h.set hn (fun hended => absurd hended (by simp [hpos])) id ?_
      exact { hpair with inCheck := fun _ hhandles => absurd hhandles Bool.false_ne_true }
    | putting k =>
      cases k with
      | zero => exact hset _ (by simp [hpos]) fun _ hhandles => by cases hhandles
      | succ k =>
        have hqueue := hpair.queue (hguard k hpos)
        show LifeInv canWatch ((putOnQueue s n).setWatch n (.putting k))
        rw [put_eq hqueue]
        refine h.set hn (fun hended => absurd hended (by simp [hpos])) id ?_
        refine { hpair with
          inCheck := fun _ hhandles => absurd hhandles Bool.false_ne_true
          queued := fun rqe hmem => ?_ }
        rcases mem_append.1 hmem with hmem | hmem
        · exact hpair.queued rqe hmem
        · exact mem_singleton.1 hmem
    | ended => exact h
  · rw [(h.ended n hn).1]; exact h

/-! ## The recheck thread -/

theorem PairInv.setRecheck (h : PairInv terminate recheckQueue n p) (hcreated : p.recheck ≠ .created)
    {recheck : RecheckPc} (hcheck : terminate = true → recheck.handles = true → p.inRecheck = true)
    (hready : ∀ rqe, recheck = .ready (some rqe) → rqe = n) (hhandling : ∀ rqe, recheck = .handling rqe → rqe = n)
    (hnothing : recheck = .ready none → terminate = true) :
    PairInv terminate recheckQueue n { p with recheck := recheck } where
  told := h.told
  inCheck := h.inCheck
  inRecheck := fun htold hhandles => hcheck (h.told ▸ htold) hhandles
  queue := fun _ => h.queue hcreated
  queued := h.queued
  toCheckAgain := h.toCheckAgain
  ready := hready
  handling := hhandling
  nothing := hnothing

theorem popRequest_self (s : WatchLife) (n : Nat) :
    popRequest s n n =
      match (s.pairs n).toCheckAgain.reverse ++ (s.pairs n).queue with
      | [] => s.setRecheck n .popTest
      | rqe :: rest =>
        s.set n { s.pairs n with toCheckAgain := [], queue := rest, recheck := .ready (some rqe) } := by
  unfold popRequest WatchLife.setRecheck
  cases (s.pairs n).toCheckAgain.reverse ++ (s.pairs n).queue with
  | nil => rfl
  | cons rqe rest =>
    dsimp only
    rw [set_set, set_set, set_pairs_same, set_pairs_same]

theorem LifeInv.recheckStep (h : LifeInv canWatch s) (again : Bool) :
    ∃ s', recheckThreadStep s n again (s.pairs n).recheck = .ok s' ∧ LifeInv canWatch s' ∧ s'.starts = s.starts := by
  by_cases hn : n + 1 = s.starts
  · have hpair := h.latest n hn
    have hset : ∀ recheck, (s.pairs n).recheck ≠ .ended → (s.pairs n).recheck ≠ .created →
        (s.terminateWatchThread = true → recheck.handles = true → (s.pairs n).inRecheck = true) →
        (∀ rqe, recheck = .ready (some rqe) → rqe = n) → (∀ rqe, recheck = .handling rqe → rqe = n) →
        (recheck = .ready none → s.terminateWatchThread = true) → LifeInv canWatch (s.setRecheck n recheck) := by
      intro recheck hne hcreated hcheck hready hhandling hnothing
      exact h.set hn id (fun hended => absurd hended hne) (hpair.setRecheck hcreated hcheck hready hhandling hnothing)
    have hplain : ∀ recheck, (s.pairs n).recheck ≠ .ended → (s.pairs n).recheck ≠ .created →
        recheck = .loopTop ∨ recheck = .sleeping ∨ recheck = .popTest ∨ recheck = .popping ∨ recheck = .afterLoop ∨
          recheck = .flushing ∨ recheck = .ended → LifeInv canWatch (s.setRecheck n recheck) := by
      intro recheck hne hcreated hrecheck
      refine hset recheck hne hcreated ?_ ?_ ?_ ?_
      all_goals rcases hrecheck with rfl | rfl | rfl | rfl | rfl | rfl | rfl
      all_goals simp [RecheckPc.handles]
    cases hpos : (s.pairs n).recheck with
    | created =>
      refine ⟨_, rfl, ?_, rfl⟩
      refine h.set hn id (fun hended => absurd hended (by simp [hpos])) ?_
      exact ⟨hpair.told, hpair.inCheck, fun _ hhandles => (by cases hhandles), fun _ => rfl,
        fun _ hmem => absurd hmem not_mem_nil, hpair.toCheckAgain, fun _ hready => (by cases hready),
        fun _ hhandling => (by cases hhandling), fun hnothing => (by cases hnothing)⟩
    | loopTop =>
      refine ⟨_, rfl, hplain _ (by simp [hpos]) (by simp [hpos]) ?_, rfl⟩
      split
      · simp
      · simp
    | sleeping => exact ⟨_, rfl, hplain _ (by simp [hpos]) (by simp [hpos]) (by simp), rfl⟩
    | popTest =>
      cases hterminate : s.terminateWatchThread with
      | true =>
        refine ⟨s.setRecheck n (.ready none), ?_, ?_, rfl⟩
        · show Except.ok (s.setRecheck n (if s.terminateWatchThread = true then .ready none else .popping)) = _
          rw [if_pos hterminate]
        · refine hset _ (by simp [hpos]) (by simp [hpos]) (fun _ hhandles => by cases hhandles) (fun _ hc => by cases hc)
            (fun _ hc => by cases hc) fun _ => hterminate
      | false =>
        refine ⟨s.setRecheck n .popping, ?_, hplain _ (by simp [hpos]) (by simp [hpos]) (by simp), rfl⟩
        show Except.ok (s.setRecheck n (if s.terminateWatchThread = true then .ready none else .popping)) = _
        rw [if_neg (by simp [hterminate])]
    | popping =>
      have hqueue := hpair.queue (by simp [hpos])
      refine ⟨popRequest s n n, ?_, ?_, ?_⟩
      · rw [recheckThreadStep, hqueue]
      · rw [popRequest_self]
        have hown : ∀ rqe ∈ (s.pairs n).toCheckAgain.reverse ++ (s.pairs n).queue, rqe = n := by
          intro rqe hmem
          rcases mem_append.1 hmem with hmem | hmem
          · exact hpair.toCheckAgain rqe (mem_reverse.1 hmem)
          · exact hpair.queued rqe hmem
        split
        · exact hplain _ (by simp [hpos]) (by simp [hpos]) (by simp)
        · rename_i rqe rest hlist
          rw [hlist] at hown
          refine h.set hn id (fun hended => absurd hended (by simp [hpos])) ?_
          refine ⟨hpair.told, hpair.inCheck, fun _ hhandles => (by cases hhandles), fun _ => hqueue,
            fun rqe' hmem => hown rqe' (mem_cons_of_mem rqe hmem), fun _ hmem => absurd hmem not_mem_nil,
            fun rqe' hready => ?_, fun _ hhandling => (by cases hhandling), fun hnothing => (by cases hnothing)⟩
          cases hready; exact hown _ mem_cons_self
      · rw [popRequest_self]
        split
        · rfl
        · rfl
    | ready rqe =>
      cases hterminate : s.terminateWatchThread with
      | true =>
        refine ⟨s.setRecheck n .afterLoop, ?_, hplain _ (by simp [hpos]) (by simp [hpos]) (by simp), rfl⟩
        dsimp only [recheckThreadStep]
        rw [if_pos hterminate]
      | false =>
        cases rqe with
        | none =>
          have hnothing := hpair.nothing hpos
          rw [hterminate] at hnothing; cases hnothing
        | some rqe =>
          refine ⟨s.setRecheck n (.handling rqe), ?_, ?_, rfl⟩
          · dsimp only [recheckThreadStep]
            rw [if_neg (by simp [hterminate])]
          · refine hset _ (by simp [hpos]) (by simp [hpos]) (fun hc => ?_) (fun _ hc => by cases hc)
              (fun rqe' hc => ?_) fun hc => by cases hc
            · rw [hterminate] at hc; cases hc
            · cases hc; exact hpair.ready rqe hpos
    | handling rqe =>
      refine ⟨_, rfl, ?_, rfl⟩
      refine h.set hn id (fun hended => absurd hended (by simp [hpos])) ?_
      refine ⟨hpair.told, hpair.inCheck, fun _ hhandles => (by cases hhandles), fun _ => hpair.queue (by simp [hpos]),
        hpair.queued, fun rqe' hmem => ?_, fun _ hready => (by cases hready), fun _ hhandling => (by cases hhandling),
        fun hnothing => (by cases hnothing)⟩
      split at hmem
      · rcases mem_cons.1 hmem with rfl | hmem
        · exact hpair.handling _ hpos
        · exact hpair.toCheckAgain rqe' hmem
      · exact hpair.toCheckAgain rqe' hmem
    | afterLoop =>
      refine ⟨_, rfl, hplain _ (by simp [hpos]) (by simp [hpos]) ?_, rfl⟩
      split
      · simp
      · simp
    | flushing =>
      have hqueue := hpair.queue (by simp [hpos])
      refine ⟨flushRequest s n n, ?_, ?_, ?_⟩
      · rw [recheckThreadStep, hqueue]
      · unfold flushRequest
        split
        · exact hplain _ (by simp [hpos]) (by simp [hpos]) (by simp)
        · rename_i rqe rest hlist
          refine h.set hn id (fun hended => absurd hended (by simp [hpos])) ?_
          exact { hpair with queued := fun rqe' hmem => hpair.queued rqe' (hlist ▸ mem_cons_of_mem rqe hmem) }
      · unfold flushRequest
        split
        · rfl
        · rfl
    | ended => exact ⟨s, rfl, h, rfl⟩
  · rw [(h.ended n hn).2]; exact ⟨s, rfl, h, rfl⟩

/-! ## The client -/

theorem PairInv.tell (h : PairInv terminate recheckQueue n p) :
    PairInv true recheckQueue n
      { p with told := true, inCheck := p.watch.handles, inRecheck := p.recheck.handles } where
  told := rfl
  inCheck := fun _ hhandles => hhandles
  inRecheck := fun _ hhandles => hhandles
  queue := h.queue
  queued := h.queued
  toCheckAgain := h.toCheckAgain
  ready := h.ready
  handling := h.handling
  nothing := fun _ => rfl

theorem LifeInv.tell (h : LifeInv canWatch s) (hn : s.watchThread = some n) :
    (∀ m, m + 1 ≠ s.starts → ((tellToStop s n).pairs m).watch = .ended ∧ ((tellToStop s n).pairs m).recheck = .ended) ∧
      ∀ m, m + 1 = s.starts → PairInv true s.recheckQueue m ((tellToStop s n).pairs m) := by
  have hlatest := (h.current n hn).1
  refine ⟨fun m hm => ?_, fun m hm => ?_⟩
  · have hne : m ≠ n := fun hc => hm (hc ▸ hlatest)
    show ((s.set n _).pairs m).watch = .ended ∧ ((s.set n _).pairs m).recheck = .ended
    rw [set_pairs_other s hne]; exact h.ended m hm
  · have hsame : m = n := Nat.succ.inj (hm.trans hlatest.symm)
    show PairInv true s.recheckQueue m ((s.set n _).pairs m)
    rw [hsame, set_pairs_same]; exact (h.latest n hlatest).tell

theorem LifeInv.stop (h : LifeInv canWatch s) (hn : s.watchThread = some n) (wait : Bool) {restart : Option UInt8}
    (hrestart : Restartable canWatch restart) (hidle : wait = false → s.client = .idle) :
    LifeInv canWatch (dwStopWatchDisplays s n wait restart) := by
  obtain ⟨hended, hlatest⟩ := h.tell hn
  cases wait with
  | true => exact ⟨hended, hlatest, h.current, hn, hrestart⟩
  | false =>
    refine ⟨hended, hlatest, fun _ hnone => (by cases hnone), ?_⟩
    show ClientInv canWatch _ s.client
    rw [hidle rfl]
    trivial

theorem startWatch_inv {classes : UInt8} (hstarts : startsWatch canWatch s classes = true) (hended : s.AllEnded)
    (mode : WatchMode) : LifeInv canWatch { dwStartWatchDisplays s classes mode with client := .idle } := by
  have hclasses : Restartable canWatch (some classes) := by
    rintro _ ⟨⟩
    unfold startsWatch at hstarts
    rw [Bool.and_eq_true, Bool.and_eq_true] at hstarts; exact hstarts.1
  refine ⟨fun m hm => ?_, fun m hm => ?_, fun m hm => ?_, trivial⟩
  · have hne : m ≠ s.starts := fun hc => hm (congrArg (· + 1) hc)
    show ((s.set s.starts _).pairs m).watch = .ended ∧ ((s.set s.starts _).pairs m).recheck = .ended
    rw [set_pairs_other s hne]; exact hended m
  · have hsame : m = s.starts := Nat.succ.inj hm
    show PairInv false s.recheckQueue m ((s.set s.starts _).pairs m)
    rw [hsame, set_pairs_same]
    exact ⟨rfl, fun htold => (by cases htold), fun htold => (by cases htold), fun hc => absurd rfl hc,
      fun _ hmem => absurd hmem not_mem_nil, fun _ hmem => absurd hmem not_mem_nil,
      fun _ hc => (by cases hc), fun _ hc => (by cases hc), fun hc => (by cases hc)⟩
  · cases hm; exact ⟨rfl, hclasses⟩

theorem start_leaves (hended : s.AllEnded) (classes : UInt8) (mode : WatchMode) (client : WatchClient) :
    ∀ n, ({ dwStartWatchDisplays s classes mode with client := client }.watches n ↔ n = s.starts) ∧
      ({ dwStartWatchDisplays s classes mode with client := client }.rechecks n ↔ n = s.starts) := by
  intro n
  show ((((s.set s.starts _).pairs n).watch ≠ .ended ∧ ((s.set s.starts _).pairs n).told = false) ↔ n = s.starts) ∧
    ((((s.set s.starts _).pairs n).recheck ≠ .ended ∧ ((s.set s.starts _).pairs n).told = false) ↔ n = s.starts)
  by_cases hn : n = s.starts
  · rw [hn, set_pairs_same]; simp
  · rw [set_pairs_other s hn]
    simp [hended n, hn]

theorem LifeInv.goOn (h : LifeInv canWatch s) {watchThread : Option Nat} {client : WatchClient}
    (hthread : watchThread = s.watchThread ∨ watchThread = none)
    (hclient : ClientInv canWatch { s with watchThread := watchThread, client := client } client) :
    LifeInv canWatch { s with watchThread := watchThread, client := client } where
  ended := h.ended
  latest := h.latest
  current := by
    intro m hm
    rcases hthread with rfl | rfl
    · exact h.current m hm
    · cases hm
  client := hclient

theorem LifeInv.clientStep (h : LifeInv canWatch s) (mode : WatchMode) :
    ∃ s', Ddc.clientStep canWatch s mode s.client = .ok s' ∧ LifeInv canWatch s' ∧
      (s'.starts = s.starts + 1 → ∀ n, (s'.watches n ↔ n = s.starts) ∧ (s'.rechecks n ↔ n = s.starts)) := by
  have hclient := h.client
  have hno : ∀ {t : WatchLife} {p : Prop}, t.starts = s.starts → t.starts = s.starts + 1 → p :=
    fun hsame hnext => absurd (hsame.symm.trans hnext) (Nat.succ_ne_self _).symm
  cases hpos : s.client with
  | idle => exact ⟨s, rfl, h, hno rfl⟩
  | stopping =>
    rw [hpos] at hclient
    cases hthread : s.watchThread with
    | none => exact absurd hthread hclient
    | some n =>
      refine ⟨dwStopWatchDisplays s n true (some s.activeClasses), ?_, ?_, hno rfl⟩
      · dsimp only [Ddc.clientStep]
        rw [hthread]
      · exact h.stop hthread true (h.current n hthread).2 fun hc => by cases hc
  | joinWatch n restart =>
    rw [hpos] at hclient
    obtain ⟨hthread, hrestart⟩ := hclient
    by_cases hended : (s.pairs n).watch = .ended
    · refine ⟨{ s with client := .joinRecheck n restart }, if_pos hended, ?_, hno rfl⟩
      exact h.goOn (.inl rfl) ⟨hthread, hended, hrestart⟩
    · exact ⟨s, if_neg hended, h, hno rfl⟩
  | joinRecheck n restart =>
    rw [hpos] at hclient
    obtain ⟨hthread, hwatch, hrestart⟩ := hclient
    by_cases hended : (s.pairs n).recheck = .ended
    · refine ⟨{ s with watchThread := none, client := restart.elim .idle .restarting }, if_pos hended, ?_, hno rfl⟩
      apply h.goOn (.inr rfl)
      cases restart with
      | none => trivial
      | some classes =>
        refine ⟨rfl, fun m => ?_, hrestart⟩
        by_cases hm : m + 1 = s.starts
        · have hsame : m = n := Nat.succ.inj (hm.trans (h.current n hthread).1.symm)
          rw [hsame]; exact ⟨hwatch, hended⟩
        · exact h.ended m hm
    · exact ⟨s, if_neg hended, h, hno rfl⟩
  | restarting classes =>
    rw [hpos] at hclient
    obtain ⟨hnone, hended, hrestart⟩ := hclient
    have hstarts : startsWatch canWatch s classes = true := by
      obtain ⟨hcan, hclasses⟩ := hrestart classes rfl
      simp [startsWatch, hcan, hclasses, hnone]
    exact ⟨_, if_pos hstarts, startWatch_inv hstarts hended mode, fun _ => start_leaves hended classes mode .idle⟩

/-! ## Runs -/

theorem setWatch_starts (s : WatchLife) (n : Nat) (found : Bool) (rechecks : Nat) (watch : WatchPc) :
    (watchThreadStep s n found rechecks watch).starts = s.starts := by
  cases watch with
  | putting k =>
    cases k with
    | zero => rfl
    | succ k =>
      show (putOnQueue s n).starts = s.starts
      unfold putOnQueue
      split
      · rfl
      · rfl
  | loopTop =>
    show (if s.terminateWatchThread = true then s.setWatch n .ended else s.setWatch n _).starts = s.starts
    split
    · rfl
    · rfl
  | slept =>
    show (if s.terminateWatchThread = true then s.setWatch n .loopTop else s.setWatch n _).starts = s.starts
    split
    · rfl
    · rfl
  | _ => rfl

section
variable (h : LifeInv canWatch s)
include h

theorem LifeInv.latest_of_watch (hne : (s.pairs n).watch ≠ .ended) :
    PairInv s.terminateWatchThread s.recheckQueue n (s.pairs n) := by
  by_cases hn : n + 1 = s.starts
  · exact h.latest n hn
  · exact absurd (h.ended n hn).1 hne

theorem LifeInv.latest_of_recheck (hne : (s.pairs n).recheck ≠ .ended) :
    PairInv s.terminateWatchThread s.recheckQueue n (s.pairs n) := by
  by_cases hn : n + 1 = s.starts
  · exact h.latest n hn
  · exact absurd (h.ended n hn).2 hne

theorem LifeInv.watchKeeps {found : Bool} {rechecks : Nat}
    (hguard : WatchLifeGuard canWatch s (.watch n found rechecks)) :
    WatchLifeKeeps s (.watch n found rechecks) (watchThreadStep s n found rechecks (s.pairs n).watch) where
  started := by
    intro hnext
    rw [setWatch_starts] at hnext; exact absurd hnext (Nat.succ_ne_self _).symm
  watchQuiet := by
    rintro _ _ _ ⟨⟩ htold hpos
    exact (h.latest_of_watch (by simp [hpos])).inCheck htold (by rw [hpos]; rfl)
  recheckQuiet := fun _ _ _ he => by cases he
  watchEnds := by
    rintro _ _ _ ⟨⟩ htold hpos
    have hterminate := (h.latest_of_watch (by simp [hpos])).told.symm.trans htold
    rw [hpos]
    dsimp only [watchThreadStep]
    rw [if_pos hterminate]; exact congrArg WatchPair.watch (set_pairs_same s n _)
  recheckEnds := fun _ _ he => by cases he
  put := by
    rintro _ _ _ k ⟨⟩ hpos
    exact (h.latest_of_watch (by simp [hpos])).queue (hguard k hpos)
  handled := fun _ _ _ he => by cases he
  flushed := fun _ _ _ _ he => by cases he

theorem LifeInv.recheckKeeps {again : Bool} {t : WatchLife}
    (ht : recheckThreadStep s n again (s.pairs n).recheck = .ok t) (hstarts : t.starts = s.starts) :
    WatchLifeKeeps s (.recheck n again) t where
  started := fun hnext => absurd (hstarts.symm.trans hnext) (Nat.succ_ne_self _).symm
  watchQuiet := fun _ _ _ he => by cases he
  recheckQuiet := by
    rintro _ _ rqe ⟨⟩ htold hpos
    exact (h.latest_of_recheck (by simp [hpos])).inRecheck htold (by rw [hpos]; rfl)
  watchEnds := fun _ _ _ he => by cases he
  recheckEnds := by
    rintro _ _ ⟨⟩ htold hpos
    have hterminate := (h.latest_of_recheck (by simp [hpos])).told.symm.trans htold
    rw [hpos] at ht
    dsimp only [recheckThreadStep] at ht
    rw [if_pos hterminate] at ht
    cases ht; exact congrArg WatchPair.recheck (set_pairs_same s n _)
  put := fun _ _ _ _ he => by cases he
  handled := by
    rintro _ _ rqe ⟨⟩ hpos
    exact (h.latest_of_recheck (by simp [hpos])).handling rqe hpos
  flushed := by
    rintro _ _ q rqe ⟨⟩ hpos hq hmem
    have hpair := h.latest_of_recheck (n := n) (by simp [hpos])
    have hqueue := hpair.queue (by simp [hpos])
    rw [hq] at hqueue
    cases hqueue; exact hpair.queued rqe hmem

end

theorem clientKeeps {e : WatchLifeEvent} {t : WatchLife} (hwatch : ∀ n found rechecks, e ≠ .watch n found rechecks)
    (hrecheck : ∀ n again, e ≠ .recheck n again)
    (hstarted : t.starts = s.starts + 1 → ∀ n, (t.watches n ↔ n = s.starts) ∧ (t.rechecks n ↔ n = s.starts)) :
    WatchLifeKeeps s e t where
  started := hstarted
  watchQuiet := fun n found rechecks he => absurd he (hwatch n found rechecks)
  recheckQuiet := fun n again _ he => absurd he (hrecheck n again)
  watchEnds := fun n found rechecks he => absurd he (hwatch n found rechecks)
  recheckEnds := fun n again he => absurd he (hrecheck n again)
  put := fun n found rechecks _ he => absurd he (hwatch n found rechecks)
  handled := fun n again _ he => absurd he (hrecheck n again)
  flushed := fun n again _ _ he => absurd he (hrecheck n again)

theorem LifeInv.step (h : LifeInv canWatch s) {e : WatchLifeEvent} (hguard : WatchLifeGuard canWatch s e) :
    ∃ t, watchLifeStep canWatch s e = .ok t ∧ LifeInv canWatch t ∧ WatchLifeKeeps s e t := by
  have hsame : s.starts = s.starts + 1 → ∀ n, (s.watches n ↔ n = s.starts) ∧ (s.rechecks n ↔ n = s.starts) :=
    fun hnext => absurd hnext (Nat.succ_ne_self _).symm
  cases e with
  | start classes mode =>
    by_cases hcall : s.client = .idle ∧ startsWatch canWatch s classes = true
    · have hended := hguard hcall.1 hcall.2
      have hidle : { dwStartWatchDisplays s classes mode with client := WatchClient.idle } =
          dwStartWatchDisplays s classes mode := by rw [← hcall.1]; rfl
      refine ⟨dwStartWatchDisplays s classes mode, if_pos hcall, hidle ▸ startWatch_inv hcall.2 hended mode, ?_⟩
      exact clientKeeps (fun _ _ _ he => by cases he) (fun _ _ he => by cases he)
        fun _ => start_leaves hended classes mode s.client
    · refine ⟨s, if_neg hcall, h, clientKeeps (fun _ _ _ he => by cases he) (fun _ _ he => by cases he) hsame⟩
  | stop wait =>
    unfold watchLifeStep
    cases hthread : s.watchThread with
    | none => exact ⟨s, rfl, h, clientKeeps (fun _ _ _ he => by cases he) (fun _ _ he => by cases he) hsame⟩
    | some n =>
      by_cases hidle : s.client = .idle
      · refine ⟨dwStopWatchDisplays s n wait none, if_pos hidle, h.stop hthread wait (fun _ hc => by cases hc) fun _ => hidle,
          clientKeeps (fun _ _ _ he => by cases he) (fun _ _ he => by cases he) fun hnext => ?_⟩
        have hstarts : (dwStopWatchDisplays s n wait none).starts = s.starts := by
          unfold dwStopWatchDisplays
          split
          · rfl
          · rfl
        exact absurd (hstarts.symm.trans hnext) (Nat.succ_ne_self _).symm
      · exact ⟨s, if_neg hidle, h, clientKeeps (fun _ _ _ he => by cases he) (fun _ _ he => by cases he) hsame⟩
  | redetect =>
    by_cases hcall : s.client = .idle ∧ s.watchThread.isSome = true
    · refine ⟨{ s with client := .stopping }, if_pos hcall, ?_,
        clientKeeps (fun _ _ _ he => by cases he) (fun _ _ he => by cases he)
          fun hnext => absurd hnext (Nat.succ_ne_self _).symm⟩
      exact h.goOn (.inl rfl) (Option.isSome_iff_ne_none.1 hcall.2)
    · exact ⟨s, if_neg hcall, h, clientKeeps (fun _ _ _ he => by cases he) (fun _ _ he => by cases he) hsame⟩
  | client mode =>
    obtain ⟨t, ht, hinv, hstarted⟩ := h.clientStep mode
    exact ⟨t, ht, hinv, clientKeeps (fun _ _ _ he => by cases he) (fun _ _ he => by cases he) hstarted⟩
  | watch n found rechecks => exact ⟨_, rfl, h.watchStep hguard, h.watchKeeps hguard⟩
  | recheck n again =>
    obtain ⟨t, ht, hinv, hstarts⟩ := h.recheckStep (n := n) again
    exact ⟨t, ht, hinv, h.recheckKeeps ht hstarts⟩

/-- **In every run whose steps meet the condition**, every step is right. -/
theorem watchLife_right (canWatch : Bool) (events : List WatchLifeEvent)
    (hguard : AllAlong (watchLifeStep canWatch) (WatchLifeGuard canWatch) .start events) :
    AllAlong (watchLifeStep canWatch) (WatchLifeRight canWatch) .start events := by
  refine hguard.imp_of_inv (fun s e (h : LifeInv canWatch s) hguard => ?_) (fun s e s' h hguard hs => ?_) life_start_inv
  · obtain ⟨t, ht, -, hkeeps⟩ := h.step hguard
    exact ⟨t, ht, hkeeps⟩
  · obtain ⟨t, ht, hinv, -⟩ := h.step hguard
    rw [ht] at hs
    cases hs; exact hinv

theorem watchLife_right_restarted : AllAlong (watchLifeStep true) (WatchLifeRight true) .start
    [.start 2 .poll, .watch 0 false 0, .recheck 0 false, .stop true, .watch 0 false 0, .recheck 0 false, .recheck 0 false,
      .recheck 0 false, .client .poll, .client .poll, .start 2 .poll] := by
  refine watchLife_right true _ ?_
  refine .cons (fun _ _ n => ⟨rfl, rfl⟩) rfl ?_
  refine .cons (fun k (hk : WatchPc.starting = .putting (k + 1)) => by cases hk) rfl ?_
  refine .cons trivial rfl (.cons trivial rfl ?_)
  refine .cons (fun k (hk : WatchPc.loopTop = .putting (k + 1)) => by cases hk) rfl ?_
  refine .cons trivial rfl (.cons trivial rfl (.cons trivial rfl (.cons trivial rfl (.cons trivial rfl ?_))))
  refine .cons (fun _ _ n => ?_) rfl trivial
  cases n with
  | zero | succ n => exact ⟨rfl, rfl⟩

/-- **A stop that does not wait, and a start**: the thread that was told to stop handles the next screen change. -/
theorem restart_not_right : ¬ AllAlong (watchLifeStep true) (WatchLifeRight true) .start
    [.start 2 .poll, .watch 0 false 0, .watch 0 false 0, .stop false, .start 2 .poll, .watch 0 false 0, .watch 0 false 0,
      .watch 0 false 0] := by
  intro h
  obtain ⟨-, h⟩ := h
  obtain ⟨-, h⟩ := h _ rfl
  obtain ⟨-, h⟩ := h _ rfl
  obtain ⟨-, h⟩ := h _ rfl
  obtain ⟨-, h⟩ := h _ rfl
  obtain ⟨-, h⟩ := h _ rfl
  obtain ⟨-, h⟩ := h _ rfl
  obtain ⟨⟨t, -, hkeeps⟩, -⟩ := h _ rfl
  exact absurd (hkeeps.watchQuiet 0 false 0 rfl rfl rfl) Bool.false_ne_true

end Ddc
