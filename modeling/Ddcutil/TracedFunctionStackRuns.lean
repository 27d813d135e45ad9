import Ddcutil.TracedFunctionStackSound
/-!
# TracedFunctionStackRuns — what holds until a stack is freed, and that freeing all of them never succeeds

While no thread frees its stack, each stack holds the names pushed and not yet popped.  A stack that is freed leaves its
entry and the thread variable as they were; and the release of all stacks frees the first entry that it finds twice.
-/
namespace Ddc.Tfs

open Kit List Exec Function

variable {T : Type}

/-! ## What a thread's stack holds -/

variable {s s' : TfsState T} {t : T} {e : Option (List CString)} {r : TfsRun T} {c : TfsCall T}
variable {calls : List (TfsCall T)}

theorem Holds.of_none (ht : s.tracedFunctionStack t = none) {names : List CString} :
    Holds s t names ↔ names = [] := by
  rw [Holds, ht]

theorem Follows.valid (h : Follows s t e) (hvalid : s.tracedFunctionStackInvalid t = false) :
    ∃ names, e = some names ∧ Holds s t names := by
  cases e with
  | none =>
    unfold Follows at h
    rw [hvalid] at h; cases h
  | some names => exact ⟨names, rfl, h.2⟩

theorem Follows.invalid (h : Follows s t e) (hinvalid : s.tracedFunctionStackInvalid t = true) : e = none := by
  cases e with
  | none => rfl
  | some names =>
    have hvalid := h.1
    rw [hinvalid] at hvalid; cases hvalid

theorem OwnStep.follows {u : T} (h : OwnStep s s' t) (hu : u ≠ t) (hf : Follows s u e) : Follows s' u e := by
  cases e with
  | none => exact (h.flags u hu).trans hf
  | some names => exact ⟨(h.flags u hu).trans hf.1, h.others u hu names hf.2⟩

theorem OwnStep.refl (h : Sound s) (t : T) : OwnStep s s t :=
  ⟨h, rfl, fun _ _ _ hh => hh, fun _ _ => rfl⟩

theorem OwnStep.trans_of {s₁ : TfsState T} (hothers : ∀ u, u ≠ t → ∀ names, Holds s u names → Holds s₁ u names)
    (hflags : s₁.tracedFunctionStackInvalid = s.tracedFunctionStackInvalid) (h : OwnStep s₁ s' t) {u : T} (hu : u ≠ t)
    (hf : Follows s u e) : Follows s' u e := by
  refine h.follows hu ?_
  cases e with
  | none => exact (congrFun hflags u).trans hf
  | some names => exact ⟨(congrFun hflags u).trans hf.1, hothers u hu names hf.2⟩

theorem Sound.of_flags (h : Sound s) (flags : T → Bool) : Sound { s with tracedFunctionStackInvalid := flags } :=
  ⟨h.queue, h.names, h.apart, h.owner, h.single, h.initial, ⟨h.list.nodup, h.list.entries, h.list.queues, h.list.once⟩⟩

/-! ## A stack that is freed -/

theorem freeTracedFunctionStack_leaves (h : Sound s) {a : Address} (ht : s.tracedFunctionStack t = some a)
    (hfree : freeTracedFunctionStack s a = .ok s') : ¬ OneEntryEach s' := by
  obtain ⟨l, hl⟩ := h.queue t a ht
  obtain ⟨e, he, u, i, hentry⟩ := h.list.queues a l hl
  rw [freeTracedFunctionStack, queueAt_of hl, ok_bind] at hfree
  obtain ⟨h₁, hreleased, hfree⟩ := bind_eq_ok.1 hfree
  obtain ⟨h₂, hgone, hfree⟩ := bind_eq_ok.1 hfree
  rw [Heap.release_eq_ok hgone] at hfree
  cases hall : s.allTracedFunctionStacks with
  | none =>
    rw [hall] at he; exact absurd he not_mem_nil
  | some all =>
    rw [hall] at hfree he
    have hnotin : a ∉ all := by
      intro hmem
      obtain ⟨stack, u', i', l', hentry', -⟩ := h.list.entries a (by rw [hall]; exact hmem)
      rw [hl] at hentry'; cases hentry'
    unfold ptrArrayRemove at hfree
    dsimp only at hfree
    rw [if_neg hnotin, ok_bind] at hfree
    cases hfree
    intro hone
    obtain ⟨stack, u', i', l', hentry', hqueue⟩ := hone.entries e he
    -- the entry that is live is the one that was there, of the queue that is freed
    have hold := Heap.cells_of_releaseAll hreleased (Heap.cells_of_free hentry')
    rw [hentry] at hold
    cases hold
    rw [Heap.free_self] at hqueue; cases hqueue

theorem freeAllLoop_faults (n : Nat) (s s' : TfsState T) : freeAllLoop (n + 1) s ≠ .ok s' := by
  intro h
  obtain ⟨entry, -, h⟩ := bind_eq_ok.1 h
  obtain ⟨⟨stack, t, i⟩, -, h⟩ := bind_eq_ok.1 h
  obtain ⟨s₁, -, h⟩ := bind_eq_ok.1 h
  obtain ⟨h₁, hfreed, h⟩ := bind_eq_ok.1 h
  obtain ⟨⟨stack', t', i'⟩, -, hfreed⟩ := bind_eq_ok.1 hfreed
  obtain ⟨h₀, -, hfreed⟩ := bind_eq_ok.1 hfreed
  have hgone : h₁.cells entry = none := by rw [Heap.release_eq_ok hfreed, Heap.free_self]
  rw [Heap.release_of_freed hgone] at h
  obtain ⟨h₂, hagain, -⟩ := bind_eq_ok.1 h
  cases hagain

structure Idle (r : TfsRun T) : Prop where
  heap : r.state.heap = emptyHeap
  all : r.state.allTracedFunctionStacks = none
  stack : ∀ t, r.state.tracedFunctionStack t = none

theorem Idle.freesNone (h : Idle r) (c : TfsCall T) : FreesNone r c := by
  cases c with
  | freeCurrent t => exact h.stack t
  | push t f | pop t f | reset t => trivial

variable [DecidableEq T]

def TfsCall.thread : TfsCall T → T
  | .push t _ => t
  | .pop t _ => t
  | .reset t => t
  | .freeCurrent t => t

theorem expected_other (hc : c.thread ≠ t) (past : List (TfsCall T)) : expected t (c :: past) = expected t past := by
  cases c with
  | push u f => exact if_neg hc
  | pop u f => exact if_neg fun h => hc h.1
  | reset u | freeCurrent u => exact if_neg hc

theorem hasStack_other (hc : c.thread ≠ t) (past : List (TfsCall T)) : hasStack t (c :: past) = hasStack t past := by
  cases c with
  | push u f => exact if_neg hc
  | pop u f | reset u => rfl
  | freeCurrent u => exact if_neg hc

/-- **The memory is sound**, each thread's stack follows the calls, and the threads that have one are those that pushed. -/
structure Inv (r : TfsRun T) : Prop where
  sound : Sound r.state
  follows : ∀ t, Follows r.state t (expected t r.past)
  stack : ∀ t, (r.state.tracedFunctionStack t).isSome = hasStack t r.past

theorem Inv.next (h : Inv r) (hs : Sound s') (hothers : ∀ u, u ≠ c.thread → ∀ e, Follows r.state u e → Follows s' u e)
    (hown : Follows s' c.thread (expected c.thread (c :: r.past)))
    (hvars : ∀ u, u ≠ c.thread → s'.tracedFunctionStack u = r.state.tracedFunctionStack u)
    (hvar : (s'.tracedFunctionStack c.thread).isSome = hasStack c.thread (c :: r.past)) : Inv ⟨s', c :: r.past⟩ where
  sound := hs
  follows := by
    intro u
    by_cases hu : u = c.thread
    · subst hu; exact hown
    · rw [expected_other fun heq => hu heq.symm]; exact hothers u hu _ (h.follows u)
  stack := by
    intro u
    by_cases hu : u = c.thread
    · subst hu; exact hvar
    · rw [hasStack_other fun heq => hu heq.symm, hvars u hu]; exact h.stack u

theorem Inv.own (h : Inv r) (hstep : OwnStep r.state s' c.thread)
    (hown : Follows s' c.thread (expected c.thread (c :: r.past)))
    (hvar : hasStack c.thread (c :: r.past) = (r.state.tracedFunctionStack c.thread).isSome) : Inv ⟨s', c :: r.past⟩ :=
  h.next hstep.sound (fun _ hu _ hf => hstep.follows hu hf) hown (fun u _ => congrFun hstep.threads u)
    (by rw [hstep.threads, hvar])

/-! ## Each call keeps the invariant -/

theorem Inv.push (h : Inv r) (t : T) (funcname : CString) :
    ∃ s', pushTracedFunction r.state t funcname = .ok s' ∧ Inv ⟨s', .push t funcname :: r.past⟩ := by
  have hexpected : expected t (.push t funcname :: r.past) = (expected t r.past).map (funcname :: ·) := if_pos rfl
  have hstack : hasStack t (.push t funcname :: r.past) = true := if_pos rfl
  cases ht : r.state.tracedFunctionStack t with
  | some a =>
    obtain ⟨s', hpush, hstep, hflag, hholds⟩ := pushName_ok h.sound ht funcname
    refine ⟨s', ?_, h.own (c := .push t funcname) hstep ?_ ?_⟩
    · rw [pushTracedFunction, ht]; exact hpush
    · change Follows s' t (expected t _)
      rw [hexpected]
      have hfollows := h.follows t
      cases he : expected t r.past with
      | none =>
        rw [he] at hfollows; exact hflag.trans hfollows
      | some names =>
        rw [he] at hfollows; exact ⟨hflag.trans hfollows.1, hholds names hfollows.2⟩
    · change hasStack t _ = _
      rw [hstack]
      change true = (r.state.tracedFunctionStack t).isSome
      rw [ht]; rfl
  | none =>
    have hsound := h.sound.newStack ht funcname
    have hnew : (newTracedFunctionStack r.state t funcname).tracedFunctionStack t = some r.state.heap.next :=
      update_self ..
    obtain ⟨s', hpush, hstep, hflag, hholds⟩ := pushName_ok hsound hnew funcname
    refine ⟨s', ?_, h.next (c := .push t funcname) hstep.sound ?_ ?_ ?_ ?_⟩
    · rw [pushTracedFunction, ht]; exact hpush
    · intro u hu e hf
      exact OwnStep.trans_of (fun u hu names hh => Sound.holds_newStack hu funcname hh) rfl hstep hu hf
    · change Follows s' t (expected t _)
      rw [hexpected]
      have hfollows := h.follows t
      cases he : expected t r.past with
      | none =>
        rw [he] at hfollows; exact hflag.trans hfollows
      | some names =>
        rw [he] at hfollows
        obtain rfl := (Holds.of_none ht).1 hfollows.2
        refine ⟨hflag.trans hfollows.1, hholds [] ?_⟩
        rw [Holds, hnew]; exact ⟨[], (Sound.newStack_cells r.state t funcname rfl).1, List.Forall₂.nil⟩
    · intro u hu
      rw [hstep.threads]; exact update_of_ne hu ..
    · change (s'.tracedFunctionStack t).isSome = hasStack t _
      rw [hstack, hstep.threads, hnew]; rfl

theorem Inv.pop (h : Inv r) (t : T) (funcname : CString) :
    ∃ s', popTracedFunction r.state t funcname = .ok s' ∧ Inv ⟨s', .pop t funcname :: r.past⟩ := by
  cases hvalid : r.state.tracedFunctionStackInvalid t with
  | true =>
    have hnone := (h.follows t).invalid hvalid
    refine ⟨r.state, if_pos hvalid, h.own (c := .pop t funcname) (OwnStep.refl h.sound t) ?_ (h.stack t).symm⟩
    have hexpected : expected t (.pop t funcname :: r.past) = none := by
      rw [expected, hnone]
      split <;> rfl
    change Follows r.state t (expected t _)
    rw [hexpected]; exact hvalid
  | false =>
    have hnot : ¬ r.state.tracedFunctionStackInvalid t = true := by
      rw [hvalid]; exact Bool.false_ne_true
    obtain ⟨names, he, hholds⟩ := (h.follows t).valid hvalid
    cases ht : r.state.tracedFunctionStack t with
    | none =>
      have hno : hasStack t r.past = false := by rw [← h.stack, ht]; rfl
      refine ⟨r.state, ?_, h.own (c := .pop t funcname) (OwnStep.refl h.sound t) ?_ (h.stack t).symm⟩
      · rw [popTracedFunction, if_neg hnot, ht]
        rw [listTracedFunctionStacks_ok h.sound, ok_bind]
      · have hexpected : expected t (.pop t funcname :: r.past) = expected t r.past :=
          if_neg fun hand => Bool.false_ne_true (hno.symm.trans hand.2)
        change Follows r.state t (expected t _)
        rw [hexpected]; exact h.follows t
    | some a =>
      have hyes : hasStack t r.past = true := by rw [← h.stack, ht]; rfl
      obtain ⟨s', hpop, hstep, hfollows⟩ := pop_ok h.sound ht hvalid hholds funcname
      refine ⟨s', hpop, h.own (c := .pop t funcname) hstep ?_ (h.stack t).symm⟩
      have hexpected : expected t (.pop t funcname :: r.past) =
          if names.head? = some funcname then some names.tail else none := by
        change (if t = t ∧ hasStack t r.past = true then (expected t r.past).bind _ else _) = _
        rw [if_pos ⟨rfl, hyes⟩, he]; rfl
      change Follows s' t (expected t _)
      rw [hexpected]; exact hfollows

theorem Inv.reset (h : Inv r) (t : T) :
    ∃ s', resetCurrentTracedFunctionStack r.state t = .ok s' ∧ Inv ⟨s', .reset t :: r.past⟩ := by
  have hexpected : expected t (.reset t :: r.past) = some [] := if_pos rfl
  cases ht : r.state.tracedFunctionStack t with
  | none =>
    refine ⟨{ r.state with
      tracedFunctionStackInvalid := update r.state.tracedFunctionStackInvalid t false }, ?_, ?_⟩
    · rw [resetCurrentTracedFunctionStack, ht]
    · refine h.own (c := .reset t) ⟨h.sound.of_flags _, rfl, fun _ _ _ hh => hh, fun u hu => update_of_ne hu ..⟩
        ?_ (h.stack t).symm
      change Follows _ t (expected t _)
      rw [hexpected]; exact ⟨update_self .., (Holds.of_none ht).2 rfl⟩
  | some a =>
    obtain ⟨s', hreset, hstep, hfollows⟩ := reset_ok h.sound ht
    refine ⟨s', hreset, h.own (c := .reset t) hstep ?_ (h.stack t).symm⟩
    change Follows s' t (expected t _)
    rw [hexpected]; exact hfollows

theorem Inv.freeNone (h : Inv r) (ht : r.state.tracedFunctionStack t = none) :
    freeCurrentTracedFunctionStack r.state t = .ok r.state ∧ Inv ⟨r.state, .freeCurrent t :: r.past⟩ := by
  constructor
  · rw [freeCurrentTracedFunctionStack, ht]
  · refine h.own (c := .freeCurrent t) (OwnStep.refl h.sound t) ?_ ?_
    · have hexpected : expected t (.freeCurrent t :: r.past) = (expected t r.past).map fun _ => [] := if_pos rfl
      change Follows r.state t (expected t _)
      rw [hexpected]
      have hfollows := h.follows t
      cases he : expected t r.past with
      | none =>
        rw [he] at hfollows; exact hfollows
      | some names =>
        rw [he] at hfollows; exact ⟨hfollows.1, (Holds.of_none ht).2 rfl⟩
    · change hasStack t (.freeCurrent t :: r.past) = (r.state.tracedFunctionStack t).isSome
      rw [ht]; exact if_pos rfl

theorem tfsStep_of (h : r.state.apply c = .ok s') : tfsStep r c = .ok ⟨s', c :: r.past⟩ := by
  rw [tfsStep, h]; rfl

theorem Inv.step (h : Inv r) (hc : FreesNone r c) :
    ∃ s', tfsStep r c = .ok ⟨s', c :: r.past⟩ ∧ Inv ⟨s', c :: r.past⟩ := by
  cases c with
  | push t f =>
    obtain ⟨s', hs, hinv⟩ := h.push t f
    exact ⟨s', tfsStep_of hs, hinv⟩
  | pop t f =>
    obtain ⟨s', hs, hinv⟩ := h.pop t f
    exact ⟨s', tfsStep_of hs, hinv⟩
  | reset t =>
    obtain ⟨s', hs, hinv⟩ := h.reset t
    exact ⟨s', tfsStep_of hs, hinv⟩
  | freeCurrent t =>
    obtain ⟨hs, hinv⟩ := h.freeNone hc
    exact ⟨r.state, tfsStep_of hs, hinv⟩

/-! ## Runs -/

theorem Inv.stepRight_iff (h : Inv r) (c : TfsCall T) : TfsStepRight r c ↔ FreesNone r c := by
  constructor
  · rintro ⟨r', hstep, -, hone⟩
    cases c with
    | push t f | pop t f | reset t => trivial
    | freeCurrent t =>
      by_contra hnot
      obtain ⟨a, ht⟩ := Option.ne_none_iff_exists'.1 hnot
      obtain ⟨s', hfree, rfl⟩ := map_eq_ok.1 hstep
      change freeCurrentTracedFunctionStack r.state t = .ok s' at hfree
      unfold freeCurrentTracedFunctionStack at hfree
      rw [ht] at hfree; exact freeTracedFunctionStack_leaves h.sound ht hfree hone
  · intro hc
    obtain ⟨s', hs, hinv⟩ := h.step hc
    exact ⟨_, hs, hinv.follows, hinv.sound.list⟩

theorem Inv.start : Inv (TfsRun.start (T := T)) where
  sound := {
    queue := fun t a h => by cases h
    names := fun a l h => by cases h
    apart := fun a b l m n h => by cases h
    owner := fun a l h => by cases h
    single := fun t u a h => by cases h
    initial := fun e he => absurd he not_mem_nil
    list := {
      nodup := nodup_nil
      entries := fun e he => absurd he not_mem_nil
      queues := fun a l h => by cases h
      once := fun e he => absurd he not_mem_nil } }
  follows := fun t => ⟨rfl, rfl⟩
  stack := fun t => rfl

theorem hasStack_kept (h : Inv r) (hc : FreesNone r c) (ht : hasStack t r.past = true) :
    hasStack t (c :: r.past) = true := by
  by_cases hu : c.thread = t
  · cases c with
    | push u f => exact if_pos hu
    | pop u f | reset u => exact ht
    | freeCurrent u =>
      rw [← hu, ← h.stack] at ht
      change (r.state.tracedFunctionStack u).isSome = true at ht
      rw [hc] at ht; cases ht
  · rw [hasStack_other hu, ht]

/-- The invariant of a run that frees no stack: once a name was pushed, there is a stack. -/
structure Unfreed (r : TfsRun T) : Prop where
  inv : Inv r
  pushed : (∃ c ∈ r.past, IsPush c) → ∃ t, hasStack t r.past = true

theorem Unfreed.step (h : Unfreed r) (hc : FreesNone r c) :
    ∃ s', tfsStep r c = .ok ⟨s', c :: r.past⟩ ∧ Unfreed ⟨s', c :: r.past⟩ := by
  obtain ⟨s', hs, hinv⟩ := h.inv.step hc
  refine ⟨s', hs, hinv, ?_⟩
  rintro ⟨c', hmem, hpush⟩
  rcases mem_cons.1 hmem with rfl | hmem
  · cases c' with
    | push t f => exact ⟨t, if_pos rfl⟩
    | pop t f | reset t | freeCurrent t => exact hpush.elim
  · obtain ⟨t, ht⟩ := h.pushed ⟨c', hmem, hpush⟩
    exact ⟨t, hasStack_kept h.inv hc ht⟩

theorem Unfreed.run : ∀ {r : TfsRun T}, Unfreed r → AllAlong tfsStep FreesNone r calls →
    ∃ r', calls.foldlM tfsStep r = .ok r' ∧ Unfreed r' ∧ r'.past = calls.reverse ++ r.past := by
  induction calls with
  | nil => exact fun h _ => ⟨_, rfl, h, rfl⟩
  | cons c calls ih =>
    rintro r h ⟨hc, hrest⟩
    obtain ⟨s', hs, hnext⟩ := h.step hc
    obtain ⟨r', hr, hend, hpast⟩ := ih hnext (hrest _ hs)
    refine ⟨r', ?_, hend, ?_⟩
    · rw [foldlM_cons, hs, ok_bind]; exact hr
    · rw [hpast, reverse_cons, append_assoc]; rfl

theorem allAlong_right_iff (h : Inv r) :
    AllAlong tfsStep TfsStepRight r calls ↔ AllAlong tfsStep FreesNone r calls := by
  refine AllAlong.congr_of_returns (fun r c h => h.stepRight_iff c) (fun r c h hc => ?_) h
  obtain ⟨s', hs, hinv⟩ := h.step hc
  exact ⟨_, hs, hinv⟩

/-! ## The release of all stacks -/

theorem freeAll_faults (h : Inv r) (ht : hasStack t r.past = true) (s' : TfsState T) :
    freeAllTracedFunctionStacks r.state ≠ .ok s' := by
  rw [← h.stack] at ht
  obtain ⟨a, ha⟩ := Option.isSome_iff_exists.1 ht
  obtain ⟨l, hl⟩ := h.sound.queue t a ha
  obtain ⟨e, he, u, i, -⟩ := h.sound.list.queues a l hl
  unfold freeAllTracedFunctionStacks
  cases hall : r.state.allTracedFunctionStacks with
  | none =>
    rw [hall] at he; exact absurd he not_mem_nil
  | some all =>
    rw [hall] at he
    cases all with
    | nil => exact absurd he not_mem_nil
    | cons e' rest =>
      intro hfree
      obtain ⟨s₁, hloop, -⟩ := map_eq_ok.1 hfree
      exact freeAllLoop_faults rest.length r.state s₁ hloop

theorem Idle.step {r' : TfsRun T} (h : Idle r) (hc : ¬ IsPush c) (hs : tfsStep r c = .ok r') : Idle r' := by
  obtain ⟨s', happly, rfl⟩ := map_eq_ok.1 hs
  cases c with
  | push t f => exact absurd trivial hc
  | pop t f =>
    change popTracedFunction r.state t f = .ok s' at happly
    rw [popTracedFunction, h.stack] at happly
    split at happly
    · cases happly; exact ⟨h.heap, h.all, h.stack⟩
    · obtain ⟨-, -, happly⟩ := bind_eq_ok.1 happly
      cases happly; exact ⟨h.heap, h.all, h.stack⟩
  | reset t =>
    change resetCurrentTracedFunctionStack r.state t = .ok s' at happly
    rw [resetCurrentTracedFunctionStack, h.stack] at happly
    cases happly; exact ⟨h.heap, h.all, h.stack⟩
  | freeCurrent t =>
    change freeCurrentTracedFunctionStack r.state t = .ok s' at happly
    rw [freeCurrentTracedFunctionStack, h.stack] at happly
    cases happly; exact ⟨h.heap, h.all, h.stack⟩

theorem Idle.run : ∀ {r : TfsRun T}, Idle r → (∀ c ∈ calls, ¬ IsPush c) →
    AllAlong tfsStep FreesNone r calls ∧ ∀ r', calls.foldlM tfsStep r = .ok r' → Idle r' := by
  induction calls with
  | nil =>
    intro r h _
    refine ⟨trivial, fun r' hr => ?_⟩
    cases hr; exact h
  | cons c calls ih =>
    intro r h hnone
    have hc := hnone c mem_cons_self
    have hrest : ∀ c ∈ calls, ¬ IsPush c := fun c' hc' => hnone c' (mem_cons_of_mem c hc')
    refine ⟨⟨h.freesNone c, fun t ht => (ih (h.step hc ht) hrest).1⟩, fun r' hr => ?_⟩
    obtain ⟨r₁, h₁, hr⟩ := bind_eq_ok.1 hr
    exact (ih (h.step hc h₁) hrest).2 r' hr

/-- **Which runs are right**: one that ends with the release of all stacks exactly if no thread pushes a name; until then,
exactly while no thread frees a stack that it has. -/
theorem tracedFunctionStacks_right_iff (calls : List (TfsCall T)) :
    (TfsRunRight calls ↔ ∀ c ∈ calls, ¬ IsPush c) ∧
      (AllAlong tfsStep TfsStepRight TfsRun.start calls ↔ AllAlong tfsStep FreesNone TfsRun.start calls) := by
  refine ⟨⟨?_, fun hnone => ?_⟩, allAlong_right_iff Inv.start⟩
  · rintro ⟨hright, r, s', hr, hfree, -⟩ c hc hpush
    have hstart : Unfreed (TfsRun.start (T := T)) := ⟨Inv.start, fun ⟨_, hmem, _⟩ => absurd hmem not_mem_nil⟩
    obtain ⟨r', hr', hend, hpast⟩ := hstart.run ((allAlong_right_iff Inv.start).1 hright)
    rw [hr] at hr'
    cases hr'
    have hmem : c ∈ r.past := by rw [hpast]; exact mem_append_left _ (mem_reverse.2 hc)
    obtain ⟨t, ht⟩ := hend.pushed ⟨c, hmem, hpush⟩
    exact freeAll_faults hend.inv ht s' hfree
  · have hidle : Idle (TfsRun.start (T := T)) := ⟨rfl, rfl, fun _ => rfl⟩
    have hstart : Unfreed (TfsRun.start (T := T)) := ⟨Inv.start, fun ⟨_, hmem, _⟩ => absurd hmem not_mem_nil⟩
    obtain ⟨hfrees, hend⟩ := hidle.run hnone
    obtain ⟨r, hr, -, -⟩ := hstart.run hfrees
    have hlast := hend r hr
    refine ⟨(allAlong_right_iff Inv.start).2 hfrees, r, r.state, hr, ?_, fun a => ?_⟩
    · rw [freeAllTracedFunctionStacks, hlast.all]
    · rw [hlast.heap]; rfl

def nameF : CString := ⟨[102], forall_mem_singleton.2 (by decide)⟩

/-- One name that is pushed: the release of all stacks frees the entry of its stack twice. -/
theorem onePush_not_right : ¬ TfsRunRight [TfsCall.push () nameF] := by
  rintro ⟨-, r, s', hr, hfree, -⟩
  obtain ⟨s₁, hs, hinv⟩ := Inv.start.push () nameF
  have hstep : tfsStep TfsRun.start (TfsCall.push () nameF) = .ok ⟨s₁, [.push () nameF]⟩ := tfsStep_of hs
  have hrun : [TfsCall.push () nameF].foldlM tfsStep TfsRun.start = .ok ⟨s₁, [.push () nameF]⟩ := by
    rw [foldlM_cons, hstep, ok_bind]; rfl
  rw [hr] at hrun
  cases hrun; exact freeAll_faults hinv (t := ()) rfl s' hfree

end Ddc.Tfs
