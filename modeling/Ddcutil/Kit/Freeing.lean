import Ddcutil.Kit.Pool
/-!
# Freeing — memory that must not be used once it is freed

A read through a pointer to what is freed, and a second `free` of it, are faults.  A list of pointers is freed without one
where each is live and none is there twice, and then exactly these are gone.
-/
namespace Kit.Heap

open List

variable {α : Type}

def read (h : Heap α) (a : Address) : Exec α :=
  match h.cells a with
  | some x => .ok x
  | none => .error .outOfBounds

def release (h : Heap α) (a : Address) : Exec (Heap α) := if (h.cells a).isSome then .ok (h.free a) else .error .outOfBounds

def releaseAll (h : Heap α) (l : List Address) : Exec (Heap α) := l.foldlM release h

theorem read_of_live {h : Heap α} {a : Address} {x : α} (ha : h.cells a = some x) : h.read a = .ok x := by
  rw [read, ha]

theorem release_of_live {h : Heap α} {a : Address} {x : α} (ha : h.cells a = some x) : h.release a = .ok (h.free a) :=
  if_pos (by rw [ha]; rfl)

theorem release_of_freed {h : Heap α} {a : Address} (ha : h.cells a = none) : h.release a = .error .outOfBounds :=
  if_neg (by rw [ha]; exact Bool.false_ne_true)

theorem release_eq_ok {h h' : Heap α} {a : Address} (hr : h.release a = .ok h') : h' = h.free a := by
  unfold release at hr
  split at hr
  · cases hr; rfl
  · cases hr

theorem cells_of_free {h : Heap α} {a b : Address} {x : α} (hb : (h.free a).cells b = some x) : h.cells b = some x := by
  by_cases hba : b = a
  · rw [hba, free_self] at hb; cases hb
  · rwa [free_other h hba] at hb

theorem cells_of_releaseAll {l : List Address} : ∀ {h h' : Heap α}, h.releaseAll l = .ok h' → ∀ {b : Address} {x : α},
    h'.cells b = some x → h.cells b = some x := by
  induction l with
  | nil =>
    intro h h' hr b x hb
    cases hr; exact hb
  | cons a l ih =>
    intro h h' hr b x hb
    obtain ⟨h₁, h₁eq, hr⟩ := Exec.bind_eq_ok.1 hr
    have hb₁ := ih hr hb
    rw [release_eq_ok h₁eq] at hb₁; exact cells_of_free hb₁

theorem releaseAll_of_live {l : List Address} : ∀ {h : Heap α}, l.Nodup → (∀ a ∈ l, ∃ x, h.cells a = some x) →
    ∃ h', h.releaseAll l = .ok h' ∧ (∀ a ∈ l, h'.cells a = none) ∧ ∀ b, b ∉ l → h'.cells b = h.cells b := by
  induction l with
  | nil => exact fun _ _ => ⟨_, rfl, fun a ha => absurd ha not_mem_nil, fun _ _ => rfl⟩
  | cons a l ih =>
    intro h hnodup hlive
    obtain ⟨hnotin, hnodup⟩ := nodup_cons.1 hnodup
    obtain ⟨x, hx⟩ := hlive a mem_cons_self
    have hlive' : ∀ b ∈ l, ∃ y, (h.free a).cells b = some y := by
      intro b hb
      rw [free_other h fun hba : b = a => hnotin (hba ▸ hb)]; exact hlive b (mem_cons_of_mem a hb)
    obtain ⟨h', hr, hgone, hkept⟩ := ih hnodup hlive'
    refine ⟨h', ?_, fun b hb => ?_, fun b hb => ?_⟩
    · rw [releaseAll, foldlM_cons, release_of_live hx, Exec.ok_bind]; exact hr
    · rcases mem_cons.1 hb with rfl | hb
      · rw [hkept _ hnotin, free_self]
      · exact hgone b hb
    · rw [mem_cons, not_or] at hb
      rw [hkept b hb.2, free_other h hb.1]

end Kit.Heap
