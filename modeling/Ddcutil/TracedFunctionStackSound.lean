import Ddcutil.TracedFunctionStack
/-!
# TracedFunctionStackSound — the invariant of the memory, and what each call does where it holds

The queues own their names, and each queue has its thread and its entry.  A call concerns the stack of its own thread: what
the others hold does not change, and the names are pushed, popped and dropped as the calls say.
-/
namespace Ddc.Tfs

open Kit List Exec Function

variable {T : Type}

abbrev TfsState.all (s : TfsState T) : List Address := s.allTracedFunctionStacks.getD []

/-- **The invariant of the memory**: each thread variable points to a queue of its own, the queues own their names, and
each has its entry. -/
structure Sound (s : TfsState T) : Prop where
  queue : ∀ t a, s.tracedFunctionStack t = some a → ∃ l, s.heap.cells a = some (.queue l)
  names : ∀ a l, s.heap.cells a = some (.queue l) → l.Nodup ∧ ∀ n ∈ l, ∃ f, s.heap.cells n = some (.name f)
  apart : ∀ a b l m n, s.heap.cells a = some (.queue l) → s.heap.cells b = some (.queue m) → n ∈ l → n ∈ m → a = b
  owner : ∀ a l, s.heap.cells a = some (.queue l) → ∃ t, s.tracedFunctionStack t = some a
  single : ∀ t u a, s.tracedFunctionStack t = some a → s.tracedFunctionStack u = some a → t = u
  initial : ∀ e ∈ s.all, ∀ stack t i, s.heap.cells e = some (.entry stack t i) →
    (∃ f, s.heap.cells i = some (.name f)) ∧ ∀ a l, s.heap.cells a = some (.queue l) → i ∉ l
  list : OneEntryEach s

namespace Sound

variable {s : TfsState T}

/-! ## A thread's own stack changes -/

structure Changes (h h' : Heap (TfsObject T)) (a : Address) (l l' : List Address) : Prop where
  before : h.cells a = some (.queue l)
  after : h'.cells a = some (.queue l')
  nodup : l'.Nodup
  names : ∀ n ∈ l', ∃ f, h'.cells n = some (.name f)
  kept : ∀ b, b ≠ a → b ∉ l → ∀ x, h.cells b = some x → h'.cells b = some x
  old : ∀ b m, b ≠ a → h'.cells b = some (.queue m) → h.cells b = some (.queue m)
  taken : ∀ n ∈ l', n ∈ l ∨ h.cells n = none

theorem not_name (h : Sound s) {a b : Address} {l : List Address} {x : TfsObject T} (ha : s.heap.cells a = some (.queue l))
    (hb : s.heap.cells b = some x) (hx : ∀ f, x ≠ .name f) : b ∉ l := by
  intro hmem
  obtain ⟨f, hf⟩ := (h.names a l ha).2 b hmem
  rw [hb] at hf; exact hx f (Option.some.inj hf)

section Change

variable {h' : Heap (TfsObject T)} {a : Address} {l l' : List Address} {valid : T → Bool}

theorem kept_queue (h : Sound s) (c : Changes s.heap h' a l l') {b : Address} {m : List Address} (hne : b ≠ a)
    (hb : s.heap.cells b = some (.queue m)) :
    h'.cells b = some (.queue m) ∧ ∀ n ∈ m, ∀ x, s.heap.cells n = some x → h'.cells n = some x := by
  refine ⟨c.kept b hne (h.not_name c.before hb fun f hf => by cases hf) _ hb, fun n hn x hx => ?_⟩
  refine c.kept n ?_ (fun hmem => hne (h.apart b a m l n hb c.before hn hmem)) x hx
  rintro rfl
  exact h.not_name hb c.before (fun f hf => by cases hf) hn

variable {t : T}

theorem kept_entry (h : Sound s) (c : Changes s.heap h' a l l') {e stack : Address} {i : Address}
    (he : s.heap.cells e = some (.entry stack t i)) : h'.cells e = some (.entry stack t i) := by
  refine c.kept e ?_ (h.not_name c.before he fun f hf => by cases hf) _ he
  rintro rfl
  rw [c.before] at he; cases he

theorem entry_iff (h : Sound s) (c : Changes s.heap h' a l l') {e : Address} (he : e ∈ s.all) {stack : Address}
    {i : Address} : h'.cells e = some (.entry stack t i) ↔ s.heap.cells e = some (.entry stack t i) := by
  refine ⟨fun he' => ?_, h.kept_entry c⟩
  obtain ⟨stack', t', i', _, hentry, -⟩ := h.list.entries e he
  rw [h.kept_entry c hentry] at he'
  rw [hentry]; exact he'

theorem queue_iff (h : Sound s) (c : Changes s.heap h' a l l') {b : Address} :
    (∃ m, h'.cells b = some (.queue m)) ↔ ∃ m, s.heap.cells b = some (.queue m) := by
  by_cases hb : b = a
  · subst hb; exact ⟨fun _ => ⟨l, c.before⟩, fun _ => ⟨l', c.after⟩⟩
  · exact ⟨fun ⟨m, hm⟩ => ⟨m, c.old b m hb hm⟩, fun ⟨m, hm⟩ => ⟨m, (h.kept_queue c hb hm).1⟩⟩

theorem change (h : Sound s) (c : Changes s.heap h' a l l') :
    Sound { s with heap := h', tracedFunctionStackInvalid := valid } where
  queue := fun t b hb => (h.queue_iff c).2 (h.queue t b hb)
  names := by
    intro b m hb
    by_cases hba : b = a
    · subst hba
      obtain rfl := TfsObject.queue.inj (Option.some.inj (c.after.symm.trans hb))
      exact ⟨c.nodup, c.names⟩
    · have hold := c.old b m hba hb
      refine ⟨(h.names b m hold).1, fun n hn => ?_⟩
      obtain ⟨f, hf⟩ := (h.names b m hold).2 n hn
      exact ⟨f, (h.kept_queue c hba hold).2 n hn _ hf⟩
  apart := by
    -- a name of the changed queue was one of it, or is new
    have hone : ∀ b m n, b ≠ a → h'.cells b = some (.queue m) → n ∈ l' → n ∉ m := by
      intro b m n hba hb hn hm
      have hold := c.old b m hba hb
      rcases c.taken n hn with hl | hnone
      · exact hba (h.apart b a m l n hold c.before hm hl)
      · obtain ⟨f, hf⟩ := (h.names b m hold).2 n hm
        rw [hnone] at hf; cases hf
    intro b d m k n hb hd hm hk
    by_cases hba : b = a
    · by_cases hda : d = a
      · rw [hba, hda]
      · subst hba
        obtain rfl := TfsObject.queue.inj (Option.some.inj (c.after.symm.trans hb))
        exact absurd hk (hone d k n hda hd hm)
    · by_cases hda : d = a
      · subst hda
        obtain rfl := TfsObject.queue.inj (Option.some.inj (c.after.symm.trans hd))
        exact absurd hm (hone b m n hba hb hk)
      · exact h.apart b d m k n (c.old b m hba hb) (c.old d k hda hd) hm hk
  owner := by
    intro b m hb
    obtain ⟨m', hm'⟩ := (h.queue_iff c).1 ⟨m, hb⟩
    exact h.owner b m' hm'
  single := h.single
  initial := by
    intro e he stack t i hentry
    have hold := (h.entry_iff c he).1 hentry
    obtain ⟨⟨f, hf⟩, hnot⟩ := h.initial e he stack t i hold
    refine ⟨⟨f, c.kept i ?_ (hnot a l c.before) _ hf⟩, fun b m hb hmem => ?_⟩
    · rintro rfl
      rw [c.before] at hf; cases hf
    · by_cases hba : b = a
      · subst hba
        obtain rfl := TfsObject.queue.inj (Option.some.inj (c.after.symm.trans hb))
        rcases c.taken i hmem with hl | hnone
        · exact hnot b l c.before hl
        · rw [hnone] at hf; cases hf
      · exact hnot b m (c.old b m hba hb) hmem
  list := {
    nodup := h.list.nodup
    entries := by
      intro e he
      obtain ⟨stack, t, i, l₀, hentry, hqueue⟩ := h.list.entries e he
      obtain ⟨m, hm⟩ := (h.queue_iff c).2 ⟨l₀, hqueue⟩
      exact ⟨stack, t, i, m, h.kept_entry c hentry, hm⟩
    queues := by
      intro stack m hm
      obtain ⟨m', hm'⟩ := (h.queue_iff c).1 ⟨m, hm⟩
      obtain ⟨e, he, t, i, hentry⟩ := h.list.queues stack m' hm'
      exact ⟨e, he, t, i, h.kept_entry c hentry⟩
    once := by
      intro e he e' he' stack t i t' i' hentry hentry'
      exact h.list.once e he e' he' stack t i t' i' ((h.entry_iff c he).1 hentry) ((h.entry_iff c he').1 hentry') }

theorem holds_other (h : Sound s) (c : Changes s.heap h' a l l') {u : T} (ht : s.tracedFunctionStack t = some a)
    (hu : u ≠ t) {names : List CString} (hholds : Holds s u names) :
    Holds { s with heap := h', tracedFunctionStackInvalid := valid } u names := by
  unfold Holds at hholds ⊢
  cases hcur : s.tracedFunctionStack u with
  | none =>
    rw [hcur] at hholds; exact hholds
  | some b =>
    rw [hcur] at hholds
    obtain ⟨pointers, hqueue, hnames⟩ := hholds
    have hba : b ≠ a := by
      rintro rfl
      exact hu (h.single u t b hcur ht)
    obtain ⟨hkept, hcells⟩ := h.kept_queue c hba hqueue
    have hmem := (forall₂_and_left (p := (· ∈ pointers)) pointers names).2 ⟨fun n hn => hn, hnames⟩
    exact ⟨pointers, hkept, hmem.imp fun n f hn => hcells n hn.1 _ hn.2⟩

end Change

/-! ## A new stack -/

section New

variable [DecidableEq T]

theorem ne_behind {b n : Nat} (h : b ≤ n) (k : Nat) : b ≠ n + k + 1 := by omega

theorem lt_of_three {b n : Nat} (h : b < n + 3) (h0 : b ≠ n) (h1 : b ≠ n + 1) (h2 : b ≠ n + 2) : b < n := by omega

theorem newStack_cells (s : TfsState T) (t : T) (funcname : CString) {h' : Heap (TfsObject T)}
    (heq : (newTracedFunctionStack s t funcname).heap = h') :
    h'.cells s.heap.next = some (.queue []) ∧ h'.cells (s.heap.next + 1) = some (.name funcname) ∧
      h'.cells (s.heap.next + 2) = some (.entry s.heap.next t (s.heap.next + 1)) ∧
      ∀ b < s.heap.next, h'.cells b = s.heap.cells b := by
  subst heq
  have hlt : ∀ n : Nat, n ≠ n + 1 := fun n => Nat.ne_of_lt (Nat.lt_succ_self n)
  refine ⟨?_, ?_, ?_, fun b hb => ?_⟩
  · change (((s.heap.alloc (.queue [])).alloc (.name funcname)).alloc _).cells s.heap.next = _
    rw [Heap.alloc_other _ _ (ne_behind (Nat.le_refl s.heap.next) 1), Heap.alloc_other _ _ (hlt s.heap.next),
      Heap.alloc_self]
  · change (((s.heap.alloc (.queue [])).alloc (.name funcname)).alloc _).cells (s.heap.next + 1) = _
    rw [Heap.alloc_other _ _ (hlt (s.heap.next + 1))]; exact Heap.alloc_self _ _
  · exact Heap.alloc_self _ _
  · change (((s.heap.alloc (.queue [])).alloc (.name funcname)).alloc _).cells b = _
    rw [Heap.alloc_other _ _ (ne_behind (Nat.le_of_lt hb) 1), Heap.alloc_other _ _ (ne_behind (Nat.le_of_lt hb) 0),
      Heap.alloc_other _ _ (Nat.ne_of_lt hb)]

theorem newStack_live (s : TfsState T) (t : T) (funcname : CString) {h' : Heap (TfsObject T)}
    (heq : (newTracedFunctionStack s t funcname).heap = h') {b : Address} {x : TfsObject T} (hb : h'.cells b = some x) :
    b = s.heap.next ∧ x = .queue [] ∨ b = s.heap.next + 1 ∧ x = .name funcname ∨
      b = s.heap.next + 2 ∧ x = .entry s.heap.next t (s.heap.next + 1) ∨ b < s.heap.next ∧ s.heap.cells b = some x := by
  obtain ⟨h0, h1, h2, hold⟩ := newStack_cells s t funcname heq
  have hnext : h'.next = s.heap.next + 3 := by subst heq; rfl
  have hlt := Heap.lt_next hb
  by_cases hb0 : b = s.heap.next
  · subst hb0; exact .inl ⟨rfl, (Option.some.inj (h0.symm.trans hb)).symm⟩
  · by_cases hb1 : b = s.heap.next + 1
    · subst hb1; exact .inr (.inl ⟨rfl, (Option.some.inj (h1.symm.trans hb)).symm⟩)
    · by_cases hb2 : b = s.heap.next + 2
      · subst hb2; exact .inr (.inr (.inl ⟨rfl, (Option.some.inj (h2.symm.trans hb)).symm⟩))
      · have hbold : b < s.heap.next := lt_of_three (hnext ▸ hlt) hb0 hb1 hb2
        exact .inr (.inr (.inr ⟨hbold, (hold b hbold).symm.trans hb⟩))

theorem newStack_queue (s : TfsState T) (t : T) (funcname : CString) {h' : Heap (TfsObject T)}
    (heq : (newTracedFunctionStack s t funcname).heap = h') {b : Address} {l : List Address}
    (hb : h'.cells b = some (.queue l)) :
    b = s.heap.next ∧ l = [] ∨ b < s.heap.next ∧ s.heap.cells b = some (.queue l) := by
  rcases newStack_live s t funcname heq hb with ⟨h, hx⟩ | ⟨-, hx⟩ | ⟨-, hx⟩ | h
  · exact .inl ⟨h, TfsObject.queue.inj hx⟩
  · cases hx
  · cases hx
  · exact .inr h

theorem newStack_entry (s : TfsState T) (t : T) (funcname : CString) {h' : Heap (TfsObject T)}
    (heq : (newTracedFunctionStack s t funcname).heap = h') {e stack : Address} {u : T} {i : Address}
    (he : h'.cells e = some (.entry stack u i)) :
    e = s.heap.next + 2 ∧ stack = s.heap.next ∧ i = s.heap.next + 1 ∨
      e < s.heap.next ∧ s.heap.cells e = some (.entry stack u i) := by
  rcases newStack_live s t funcname heq he with ⟨-, hx⟩ | ⟨-, hx⟩ | ⟨h, hx⟩ | h
  · cases hx
  · cases hx
  · cases hx; exact .inl ⟨h, rfl, rfl⟩
  · exact .inr h

theorem newStack (h : Sound s) {t : T} (ht : s.tracedFunctionStack t = none) (funcname : CString) :
    Sound (newTracedFunctionStack s t funcname) := by
  generalize heq : (newTracedFunctionStack s t funcname).heap = h'
  obtain ⟨h0, h1, h2, hold⟩ := newStack_cells s t funcname heq
  have hkept : ∀ {b : Address} {x : TfsObject T}, s.heap.cells b = some x → h'.cells b = some x := by
    intro b x hb
    rw [hold b (Heap.lt_next hb)]; exact hb
  have hmem : ∀ e, e ∈ (newTracedFunctionStack s t funcname).all ↔ e ∈ s.all ∨ e = s.heap.next + 2 := by
    intro e
    change e ∈ s.all ++ [s.heap.next + 2] ↔ _
    rw [mem_append, mem_singleton]
  have hlive : ∀ e ∈ s.all, e < s.heap.next := by
    intro e he
    obtain ⟨stack, u, i, l, hentry, -⟩ := h.list.entries e he
    exact Heap.lt_next hentry
  have hold_all : ∀ {e : Address}, e ∈ (newTracedFunctionStack s t funcname).all → e < s.heap.next → e ∈ s.all :=
    fun he hlt => ((hmem _).1 he).resolve_right (ne_behind (Nat.le_of_lt hlt) 1)
  have hvar : ∀ u a, (newTracedFunctionStack s t funcname).tracedFunctionStack u = some a →
      u = t ∧ a = s.heap.next ∨ u ≠ t ∧ s.tracedFunctionStack u = some a := by
    intro u a hu
    change update s.tracedFunctionStack t (some s.heap.next) u = some a at hu
    by_cases hut : u = t
    · rw [hut, update_self] at hu; exact .inl ⟨hut, (Option.some.inj hu).symm⟩
    · rw [update_of_ne hut] at hu; exact .inr ⟨hut, hu⟩
  have hqueue : ∀ {u : T} {a : Address}, s.tracedFunctionStack u = some a → a < s.heap.next := by
    intro u a hu
    obtain ⟨l, hl⟩ := h.queue u a hu
    exact Heap.lt_next hl
  rw [← heq] at h0 h1 h2 hkept
  exact {
    queue := by
      intro u a hu
      rcases hvar u a hu with ⟨-, rfl⟩ | ⟨-, hu⟩
      · exact ⟨[], h0⟩
      · obtain ⟨l, hl⟩ := h.queue u a hu
        exact ⟨l, hkept hl⟩
    names := by
      intro a l ha
      rcases newStack_queue s t funcname rfl ha with ⟨-, rfl⟩ | ⟨-, hl⟩
      · exact ⟨nodup_nil, fun n hn => absurd hn not_mem_nil⟩
      · refine ⟨(h.names a l hl).1, fun n hn => ?_⟩
        obtain ⟨f, hf⟩ := (h.names a l hl).2 n hn
        exact ⟨f, hkept hf⟩
    apart := by
      intro a b l m n ha hb hl hm
      rcases newStack_queue s t funcname rfl ha with ⟨-, rfl⟩ | ⟨-, ha⟩
      · exact absurd hl not_mem_nil
      · rcases newStack_queue s t funcname rfl hb with ⟨-, rfl⟩ | ⟨-, hb⟩
        · exact absurd hm not_mem_nil
        · exact h.apart a b l m n ha hb hl hm
    owner := by
      intro a l ha
      rcases newStack_queue s t funcname rfl ha with ⟨rfl, -⟩ | ⟨-, ha⟩
      · exact ⟨t, update_self ..⟩
      · obtain ⟨u, hu⟩ := h.owner a l ha
        refine ⟨u, ?_⟩
        change update s.tracedFunctionStack t (some s.heap.next) u = some a
        rw [update_of_ne, hu]
        rintro rfl
        rw [ht] at hu; cases hu
    single := by
      intro u v a hu hv
      rcases hvar u a hu with ⟨rfl, rfl⟩ | ⟨-, hu⟩
      · rcases hvar v _ hv with ⟨rfl, -⟩ | ⟨-, hv⟩
        · rfl
        · exact absurd (hqueue hv) (Nat.lt_irrefl _)
      · rcases hvar v a hv with ⟨-, rfl⟩ | ⟨-, hv⟩
        · exact absurd (hqueue hu) (Nat.lt_irrefl _)
        · exact h.single u v a hu hv
    initial := by
      intro e he stack u i hentry
      rcases newStack_entry s t funcname rfl hentry with ⟨rfl, rfl, rfl⟩ | ⟨hlt, hentry⟩
      · refine ⟨⟨funcname, h1⟩, fun a l ha hmem => ?_⟩
        rcases newStack_queue s t funcname rfl ha with ⟨-, rfl⟩ | ⟨-, ha⟩
        · exact not_mem_nil hmem
        · obtain ⟨f, hf⟩ := (h.names a l ha).2 _ hmem
          exact absurd (Heap.lt_next hf) (Nat.not_lt.2 (Nat.le_succ _))
      · obtain ⟨⟨f, hf⟩, hnot⟩ := h.initial e (hold_all he hlt) stack u i hentry
        refine ⟨⟨f, hkept hf⟩, fun a l ha hmem => ?_⟩
        rcases newStack_queue s t funcname rfl ha with ⟨-, rfl⟩ | ⟨-, ha⟩
        · exact not_mem_nil hmem
        · exact hnot a l ha hmem
    list := {
      nodup := by
        refine nodup_append.2 ⟨h.list.nodup, nodup_singleton _, fun e he e' he' => ?_⟩
        rw [mem_singleton.1 he']; exact ne_behind (Nat.le_of_lt (hlive e he)) 1
      entries := by
        intro e he
        rcases (hmem e).1 he with he | rfl
        · obtain ⟨stack, u, i, l, hentry, hl⟩ := h.list.entries e he
          exact ⟨stack, u, i, l, hkept hentry, hkept hl⟩
        · exact ⟨_, t, _, [], h2, h0⟩
      queues := by
        intro stack l hl
        rcases newStack_queue s t funcname rfl hl with ⟨rfl, -⟩ | ⟨-, hl⟩
        · exact ⟨s.heap.next + 2, (hmem _).2 (.inr rfl), t, _, h2⟩
        · obtain ⟨e, he, u, i, hentry⟩ := h.list.queues stack l hl
          exact ⟨e, (hmem e).2 (.inl he), u, i, hkept hentry⟩
      once := by
        intro e he e' he' stack u i u' i' hentry hentry'
        rcases newStack_entry s t funcname rfl hentry with ⟨rfl, rfl, -⟩ | ⟨hlt, hentry⟩
        · rcases newStack_entry s t funcname rfl hentry' with ⟨rfl, -⟩ | ⟨hlt', hentry'⟩
          · rfl
          · obtain ⟨stack', u'', i'', l, hentry'', hl⟩ := h.list.entries e' (hold_all he' hlt')
            rw [hentry'] at hentry''
            cases hentry''; exact absurd (Heap.lt_next hl) (Nat.lt_irrefl _)
        · obtain ⟨stack', u'', i'', l, hentry'', hl⟩ := h.list.entries e (hold_all he hlt)
          rw [hentry] at hentry''
          cases hentry''
          rcases newStack_entry s t funcname rfl hentry' with ⟨-, rfl, -⟩ | ⟨hlt', hentry'⟩
          · exact absurd (Heap.lt_next hl) (Nat.lt_irrefl _)
          · exact h.list.once e (hold_all he hlt) e' (hold_all he' hlt') stack u i u' i' hentry hentry' } }

theorem holds_newStack {t u : T} (hu : u ≠ t) (funcname : CString) {names : List CString}
    (hholds : Holds s u names) : Holds (newTracedFunctionStack s t funcname) u names := by
  obtain ⟨-, -, -, hold⟩ := newStack_cells s t funcname rfl
  have hvar : (newTracedFunctionStack s t funcname).tracedFunctionStack u = s.tracedFunctionStack u :=
    update_of_ne hu ..
  unfold Holds at hholds ⊢
  rw [hvar]
  cases hcur : s.tracedFunctionStack u with
  | none =>
    rw [hcur] at hholds; exact hholds
  | some a =>
    rw [hcur] at hholds
    obtain ⟨pointers, hqueue, hnames⟩ := hholds
    refine ⟨pointers, ?_, hnames.imp fun n f hn => ?_⟩
    · rw [hold a (Heap.lt_next hqueue)]; exact hqueue
    · rw [hold n (Heap.lt_next hn)]; exact hn

end New

end Sound

/-! ## What each call does -/

section Calls

variable {s : TfsState T}

variable {h : Heap (TfsObject T)} {a : Address} {t : T}

theorem queueAt_of {l : List Address} (ha : h.cells a = some (.queue l)) : queueAt h a = .ok l := by
  rw [queueAt, Heap.read_of_live ha, ok_bind]

theorem nameAt_of {f : CString} (ha : h.cells a = some (.name f)) : nameAt h a = .ok f := by
  rw [nameAt, Heap.read_of_live ha, ok_bind]

theorem entryAt_of {stack : Address} {i : Address} (ha : h.cells a = some (.entry stack t i)) :
    entryAt h a = .ok (stack, t, i) := by
  rw [entryAt, Heap.read_of_live ha, ok_bind]

theorem popped_changes (h : Sound s) {p : Address} {rest : List Address}
    (hl : s.heap.cells a = some (.queue (p :: rest))) :
    Sound.Changes s.heap ((s.heap.write a (.queue rest)).free p) a (p :: rest) rest ∧
      (∃ f, s.heap.cells p = some (.name f) ∧ (s.heap.write a (.queue rest)).cells p = some (.name f)) ∧
      ∀ n ∈ rest, ∀ x, s.heap.cells n = some x → (s.heap.write a (.queue rest)).cells n = some x ∧
        ((s.heap.write a (.queue rest)).free p).cells n = some x := by
  obtain ⟨hnodup, hnames⟩ := h.names a _ hl
  obtain ⟨hp, hrest⟩ := nodup_cons.1 hnodup
  have hne : ∀ n ∈ p :: rest, n ≠ a := by
    rintro n hn rfl
    exact h.not_name hl hl (fun f hf => by cases hf) hn
  have hpa := hne p mem_cons_self
  have hkept : ∀ n ∈ rest, ∀ x, s.heap.cells n = some x → (s.heap.write a (.queue rest)).cells n = some x ∧
      ((s.heap.write a (.queue rest)).free p).cells n = some x := by
    intro n hn x hx
    have hna := hne n (mem_cons_of_mem p hn)
    have hnp : n ≠ p := by
      rintro rfl
      exact hp hn
    rw [Heap.free_other _ hnp, Heap.write_other _ _ hna]; exact ⟨hx, hx⟩
  refine ⟨?_, ?_, hkept⟩
  · exact {
      before := hl
      after := by rw [Heap.free_other _ hpa.symm, Heap.write_self _ hl]
      nodup := hrest
      names := by
        intro n hn
        obtain ⟨f, hf⟩ := hnames n (mem_cons_of_mem p hn)
        exact ⟨f, (hkept n hn _ hf).2⟩
      kept := by
        intro b hba hbl x hx
        rw [Heap.free_other _ (ne_of_not_mem_cons hbl), Heap.write_other _ _ hba, hx]
      old := by
        intro b m hba hb
        have hb' := Heap.cells_of_free hb
        rwa [Heap.write_other _ _ hba] at hb'
      taken := fun n hn => .inl (mem_cons_of_mem p hn) }
  · obtain ⟨f, hf⟩ := hnames p mem_cons_self
    exact ⟨f, hf, by rw [Heap.write_other _ _ hpa, hf]⟩

theorem reportMismatch_ok {rest : List Address} (hlive : ∀ n ∈ rest, ∃ f, h.cells n = some (.name f)) :
    reportMismatch h rest = .ok () := by
  have hread : ∀ n ∈ rest, ∃ f, nameAt h n = .ok f := by
    intro n hn
    obtain ⟨f, hf⟩ := hlive n hn
    exact ⟨f, nameAt_of hf⟩
  obtain ⟨texts, htexts⟩ := mapM_ok_of_forall hread
  have hhead : ∀ n ∈ rest.head?.toList, ∃ f, nameAt h n = .ok f := fun n hn =>
    hread n (mem_of_mem_head? (Option.mem_toList.1 hn))
  obtain ⟨ahead, hahead⟩ := mapM_ok_of_forall hhead
  rw [reportMismatch, hahead, ok_bind, htexts, ok_bind]

theorem listTracedFunctionStacks_ok (h : Sound s) : listTracedFunctionStacks s = .ok () := by
  refine bind_eq_ok.2 ((mapM_ok_of_forall fun e he => ?_).imp fun texts htexts => ⟨htexts, rfl⟩)
  obtain ⟨stack, t, i, l, hentry, -⟩ := h.list.entries e he
  obtain ⟨⟨f, hf⟩, -⟩ := h.initial e he stack t i hentry
  refine ⟨f, ?_⟩
  rw [entryAt_of hentry, ok_bind]; exact nameAt_of hf

variable [DecidableEq T]

/-- A state after a call of a thread that has a stack: only that stack and the flag of the thread change. -/
structure OwnStep (s s' : TfsState T) (t : T) : Prop where
  sound : Sound s'
  threads : s'.tracedFunctionStack = s.tracedFunctionStack
  others : ∀ u, u ≠ t → ∀ names, Holds s u names → Holds s' u names
  flags : ∀ u, u ≠ t → s'.tracedFunctionStackInvalid u = s.tracedFunctionStackInvalid u

theorem ownStep_of_changes (h : Sound s) (ht : s.tracedFunctionStack t = some a) {h' : Heap (TfsObject T)}
    {l l' : List Address} (c : Sound.Changes s.heap h' a l l') (flag : Bool) :
    OwnStep s { s with
      heap := h', tracedFunctionStackInvalid := update s.tracedFunctionStackInvalid t flag } t where
  sound := h.change c
  threads := rfl
  others := fun _ hu _ hholds => h.holds_other c ht hu hholds
  flags := fun _ hu => update_of_ne hu ..

theorem pushName_ok (h : Sound s) (ht : s.tracedFunctionStack t = some a) (funcname : CString) :
    ∃ s', pushName s t funcname = .ok s' ∧ OwnStep s s' t ∧
      s'.tracedFunctionStackInvalid t = s.tracedFunctionStackInvalid t ∧
      ∀ names, Holds s t names → Holds s' t (funcname :: names) := by
  obtain ⟨l, hl⟩ := h.queue t a ht
  have hane : a ≠ s.heap.next := Nat.ne_of_lt (Heap.lt_next hl)
  have hqueue : (s.heap.alloc (.name funcname)).cells a = some (.queue l) := by
    rw [Heap.alloc_other _ _ hane, hl]
  have hcells : ∀ b, b ≠ a → b ≠ s.heap.next →
      ((s.heap.alloc (.name funcname)).write a (.queue (s.heap.next :: l))).cells b = s.heap.cells b := by
    intro b hba hbn
    rw [Heap.write_other _ _ hba, Heap.alloc_other _ _ hbn]
  have hnew : ((s.heap.alloc (.name funcname)).write a (.queue (s.heap.next :: l))).cells s.heap.next =
      some (.name funcname) := by rw [Heap.write_other _ _ hane.symm, Heap.alloc_self]
  have hname : ∀ n ∈ l, ∀ x, s.heap.cells n = some x →
      ((s.heap.alloc (.name funcname)).write a (.queue (s.heap.next :: l))).cells n = some x := by
    intro n hn x hx
    have hna : n ≠ a := by
      rintro rfl
      exact h.not_name hl hl (fun f hf => by cases hf) hn
    rw [hcells n hna (Nat.ne_of_lt (Heap.lt_next hx)), hx]
  have hfresh : s.heap.next ∉ l := by
    intro hmem
    obtain ⟨f, hf⟩ := (h.names a l hl).2 _ hmem
    exact Nat.lt_irrefl _ (Heap.lt_next hf)
  have hchanges : Sound.Changes s.heap ((s.heap.alloc (.name funcname)).write a (.queue (s.heap.next :: l))) a l
      (s.heap.next :: l) := {
    before := hl
    after := Heap.write_self _ hqueue
    nodup := nodup_cons.2 ⟨hfresh, (h.names a l hl).1⟩
    names := by
      intro n hn
      rcases mem_cons.1 hn with rfl | hn
      · exact ⟨funcname, hnew⟩
      · obtain ⟨f, hf⟩ := (h.names a l hl).2 n hn
        exact ⟨f, hname n hn _ hf⟩
    kept := fun b hba _ x hx => by rw [hcells b hba (Nat.ne_of_lt (Heap.lt_next hx)), hx]
    old := by
      intro b m hba hb
      by_cases hbn : b = s.heap.next
      · rw [hbn, hnew] at hb; cases hb
      · rwa [hcells b hba hbn] at hb
    taken := by
      intro n hn
      rcases mem_cons.1 hn with rfl | hn
      · exact .inr (s.heap.fresh _ (Nat.le_refl _))
      · exact .inl hn }
  refine ⟨_, ?_, ownStep_of_changes h ht hchanges (s.tracedFunctionStackInvalid t), update_self .., ?_⟩
  · rw [pushName, ht]
    dsimp only
    rw [queueAt_of hqueue, ok_bind, update_eq_self]
  · intro names hholds
    unfold Holds at hholds ⊢
    rw [ht] at hholds ⊢
    obtain ⟨pointers, hpointers, hnames⟩ := hholds
    obtain rfl := TfsObject.queue.inj (Option.some.inj (hl.symm.trans hpointers))
    have hmem := (forall₂_and_left (p := (· ∈ l)) l names).2 ⟨fun n hn => hn, hnames⟩
    exact ⟨s.heap.next :: l, hchanges.after, List.Forall₂.cons hnew (hmem.imp fun n f hn => hname n hn.1 _ hn.2)⟩

/-- **A pop of a valid stack**: the name that matches the top is gone; another marks the stack invalid. -/
theorem pop_ok (h : Sound s) (ht : s.tracedFunctionStack t = some a) (hvalid : s.tracedFunctionStackInvalid t = false)
    {names : List CString} (hholds : Holds s t names) (funcname : CString) :
    ∃ s', popTracedFunction s t funcname = .ok s' ∧ OwnStep s s' t ∧
      Follows s' t (if names.head? = some funcname then some names.tail else none) := by
  rw [Holds, ht] at hholds
  obtain ⟨pointers, hl, hnames⟩ := hholds
  rw [popTracedFunction, if_neg (by rw [hvalid]; exact Bool.false_ne_true), ht]
  dsimp only
  rw [queueAt_of hl, ok_bind]
  cases hnames with
  | nil =>
    refine ⟨_, rfl, ?_, ?_⟩
    · have hsame : Sound.Changes s.heap s.heap a [] [] := {
        before := hl
        after := hl
        nodup := nodup_nil
        names := fun n hn => absurd hn not_mem_nil
        kept := fun _ _ _ _ hx => hx
        old := fun _ _ _ hb => hb
        taken := fun n hn => absurd hn not_mem_nil }
      exact ownStep_of_changes h ht hsame true
    · exact update_self ..
  | @cons p text rest texts hp hrest =>
    obtain ⟨hchanges, ⟨f, hf, hread⟩, hkept⟩ := popped_changes h hl
    obtain rfl := TfsObject.name.inj (Option.some.inj (hp.symm.trans hf))
    dsimp only
    rw [nameAt_of hread, ok_bind]
    by_cases hmatch : text = funcname
    · rw [if_pos hmatch, Heap.release_of_live hread, ok_bind, head?_cons, if_pos (congrArg some hmatch)]
      have hown := ownStep_of_changes h ht hchanges (s.tracedFunctionStackInvalid t)
      rw [update_eq_self] at hown
      refine ⟨_, rfl, hown, hvalid, ?_⟩
      rw [Holds, ht]
      have hmem := (forall₂_and_left (p := (· ∈ rest)) rest texts).2 ⟨fun n hn => hn, hrest⟩
      exact ⟨rest, hchanges.after, hmem.imp fun n f hn => (hkept n hn.1 _ hn.2).2⟩
    · have hlive : ∀ n ∈ rest, ∃ f, (s.heap.write a (.queue rest)).cells n = some (.name f) := by
        intro n hn
        obtain ⟨f, hf⟩ := (h.names a _ hl).2 n (mem_cons_of_mem p hn)
        exact ⟨f, (hkept n hn _ hf).1⟩
      rw [if_neg hmatch, reportMismatch_ok hlive, ok_bind, Heap.release_of_live hread, ok_bind,
        head?_cons, if_neg fun heq => hmatch (Option.some.inj heq)]
      exact ⟨_, rfl, ownStep_of_changes h ht hchanges true, update_self ..⟩

theorem reset_ok (h : Sound s) (ht : s.tracedFunctionStack t = some a) :
    ∃ s', resetCurrentTracedFunctionStack s t = .ok s' ∧ OwnStep s s' t ∧ Follows s' t (some []) := by
  obtain ⟨l, hl⟩ := h.queue t a ht
  obtain ⟨hnodup, hnames⟩ := h.names a l hl
  have hlive : ∀ n ∈ l.reverse, ∃ x, s.heap.cells n = some x := by
    intro n hn
    obtain ⟨f, hf⟩ := hnames n (mem_reverse.1 hn)
    exact ⟨_, hf⟩
  obtain ⟨h₁, hreleased, hgone, hkept⟩ := Heap.releaseAll_of_live (nodup_reverse.2 hnodup) hlive
  have hnotin : a ∉ l := h.not_name hl hl fun f hf => by cases hf
  have hqueue : h₁.cells a = some (.queue l) := by
    rw [hkept a fun hmem => hnotin (mem_reverse.1 hmem), hl]
  have hchanges : Sound.Changes s.heap (h₁.write a (.queue [])) a l [] := {
    before := hl
    after := Heap.write_self _ hqueue
    nodup := nodup_nil
    names := fun n hn => absurd hn not_mem_nil
    kept := by
      intro b hba hbl x hx
      rw [Heap.write_other _ _ hba, hkept b fun hmem => hbl (mem_reverse.1 hmem), hx]
    old := by
      intro b m hba hb
      rw [Heap.write_other _ _ hba] at hb; exact Heap.cells_of_releaseAll hreleased hb
    taken := fun n hn => absurd hn not_mem_nil }
  refine ⟨_, ?_, ownStep_of_changes h ht hchanges false, update_self .., ?_⟩
  · rw [resetCurrentTracedFunctionStack, ht]
    dsimp only
    rw [queueAt_of hl, ok_bind, hreleased, ok_bind]
  · rw [Holds, ht]; exact ⟨[], hchanges.after, List.Forall₂.nil⟩

end Calls

end Ddc.Tfs
