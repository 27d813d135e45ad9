import Mathlib.Logic.Function.Basic
import Ddcutil.Kit.Exec
/-!
# Pool — a table of pointers that owns what it points to

`Heap α` is memory that is allocated and freed: an address is handed out once, so a pointer that outlives what it
pointed to is seen as such.  `Pool α` is an array of pointers into a heap of its own, each NULL or the only owner of a
live cell; its fields say so.
-/
namespace Kit

open Function

abbrev Address := Nat

/-- **Memory that is allocated and freed**: no address from `next` on is in use. -/
structure Heap (α : Type) where
  cells : Address → Option α
  next : Address
  fresh : ∀ a, next ≤ a → cells a = none

namespace Heap

variable {α : Type}

def alloc (h : Heap α) (x : α) : Heap α where
  cells := update h.cells h.next (some x)
  next := h.next + 1
  fresh := fun a ha => by rw [update_of_ne (Nat.ne_of_gt ha), h.fresh a (Nat.le_of_succ_le ha)]

def free (h : Heap α) (a : Address) : Heap α where
  cells := update h.cells a none
  next := h.next
  fresh := fun b hb => by
    by_cases hne : b = a
    · rw [hne, update_self]
    · rw [update_of_ne hne, h.fresh b hb]

def freePointer (h : Heap α) : Option Address → Heap α
  | some a => h.free a
  | none => h

def write (h : Heap α) (a : Address) (x : α) : Heap α where
  cells := update h.cells a ((h.cells a).map fun _ => x)
  next := h.next
  fresh := fun b hb => by
    by_cases hne : b = a
    · rw [hne, update_self, ← hne, h.fresh b hb, Option.map_none]
    · rw [update_of_ne hne, h.fresh b hb]

variable {a b : Address}

theorem lt_next {h : Heap α} {x : α} (ha : h.cells a = some x) : a < h.next := by
  apply Nat.lt_of_not_le
  intro hle
  rw [h.fresh a hle] at ha; cases ha

section
variable (h : Heap α)

@[simp] theorem alloc_self (x : α) : (h.alloc x).cells h.next = some x := update_self ..

theorem alloc_other (x : α) (ha : a ≠ h.next) : (h.alloc x).cells a = h.cells a :=
  update_of_ne ha ..

@[simp] theorem free_self (a : Address) : (h.free a).cells a = none := update_self ..

theorem free_other (hb : b ≠ a) : (h.free a).cells b = h.cells b :=
  update_of_ne hb ..

theorem freePointer_other {p : Option Address} (hb : p ≠ some b) : (h.freePointer p).cells b = h.cells b := by
  cases p with
  | none => rfl
  | some a => exact free_other h fun heq => hb (heq ▸ rfl)

theorem next_freePointer (p : Option Address) : (h.freePointer p).next = h.next := by
  cases p <;> rfl

theorem write_self {x y : α} (ha : h.cells a = some x) : (h.write a y).cells a = some y := by
  change update h.cells a ((h.cells a).map fun _ => y) a = some y
  rw [update_self, ha, Option.map_some]

theorem write_other (y : α) (hb : b ≠ a) : (h.write a y).cells b = h.cells b :=
  update_of_ne hb ..

end

end Heap

/-- **An array of pointers, each NULL or the only owner of a live cell.** -/
structure Pool (α : Type) where
  slots : Nat → Option Address
  heap : Heap α
  live : ∀ i a, slots i = some a → (heap.cells a).isSome
  owned : ∀ i j a, slots i = some a → slots j = some a → i = j

namespace Pool

variable {α : Type}

def value (p : Pool α) (i : Nat) : Option α := (p.slots i).bind p.heap.cells

def deref (p : Pool α) (a : Option Address) : Option α := a.bind p.heap.cells

variable {p : Pool α} {i : Nat} {a : Address}

theorem slots_lt (h : p.slots i = some a) : a < p.heap.next := by
  obtain ⟨x, hx⟩ := Option.isSome_iff_exists.1 (p.live i a h)
  exact Heap.lt_next hx

def discard (p : Pool α) (i : Nat) : Pool α where
  slots := update p.slots i none
  heap := p.heap.freePointer (p.slots i)
  live := fun j a h => by
    by_cases hj : j = i
    · rw [hj, update_self] at h; cases h
    rw [update_of_ne hj] at h
    rw [Heap.freePointer_other _ fun hi => hj (p.owned j i a h hi)]; exact p.live j a h
  owned := fun j k a hj hk => by
    by_cases hji : j = i
    · rw [hji, update_self] at hj; cases hj
    by_cases hki : k = i
    · rw [hki, update_self] at hk; cases hk
    rw [update_of_ne hji] at hj
    rw [update_of_ne hki] at hk; exact p.owned j k a hj hk

def create (p : Pool α) (i : Nat) (x : α) : Pool α where
  slots := update p.slots i (some p.heap.next)
  heap := p.heap.alloc x
  live := fun j a h => by
    by_cases hj : j = i
    · rw [hj, update_self] at h
      cases h
      rw [Heap.alloc_self]; rfl
    · rw [update_of_ne hj] at h
      rw [Heap.alloc_other _ _ (Nat.ne_of_lt (slots_lt h))]; exact p.live j a h
  owned := fun j k a hj hk => by
    by_cases hji : j = i
    · by_cases hki : k = i
      · rw [hji, hki]
      · rw [hji, update_self] at hj
        rw [update_of_ne hki] at hk
        cases hj; exact absurd (slots_lt hk) (Nat.lt_irrefl _)
    · rw [update_of_ne hji] at hj
      by_cases hki : k = i
      · rw [hki, update_self] at hk
        cases hk; exact absurd (slots_lt hj) (Nat.lt_irrefl _)
      · rw [update_of_ne hki] at hk; exact p.owned j k a hj hk

def write (p : Pool α) (a : Address) (x : α) : Pool α where
  slots := p.slots
  heap := p.heap.write a x
  live := fun j b h => by
    by_cases hb : b = a
    · obtain ⟨y, hy⟩ := Option.isSome_iff_exists.1 (p.live j b h)
      rw [hb] at hy ⊢
      rw [Heap.write_self _ hy]; rfl
    · rw [Heap.write_other _ _ hb]; exact p.live j b h
  owned := p.owned

section
variable (p : Pool α)

@[simp] theorem slots_discard_self (i : Nat) : (p.discard i).slots i = none := update_self ..

theorem slots_discard_other {j : Nat} (h : j ≠ i) : (p.discard i).slots j = p.slots j :=
  update_of_ne h ..

@[simp] theorem slots_create_self (i : Nat) (x : α) : (p.create i x).slots i = some p.heap.next :=
  update_self ..

theorem slots_create_other {j : Nat} (x : α) (h : j ≠ i) : (p.create i x).slots j = p.slots j :=
  update_of_ne h ..

@[simp] theorem slots_write (a : Address) (x : α) : (p.write a x).slots = p.slots := rfl

end

theorem deref_slot {a : Option Address} (h : p.slots i = a) : p.deref a = p.value i := by
  rw [value, h, deref]

theorem value_of_slot (h : p.slots i = some a) : ∃ x, p.value i = some x := by
  rw [value, h, Option.bind_some]; exact Option.isSome_iff_exists.1 (p.live i a h)

theorem slot_of_value {x : α} (h : p.value i = some x) :
    ∃ a, p.slots i = some a ∧ p.heap.cells a = some x := Option.bind_eq_some_iff.1 h

theorem value_discard (p : Pool α) (i : Nat) : (p.discard i).value = update p.value i none := by
  funext j
  by_cases hj : j = i
  · rw [hj, update_self, value, slots_discard_self]; rfl
  rw [update_of_ne hj, value, value, slots_discard_other p hj]
  cases hsj : p.slots j with
  | none => rfl
  | some a => exact Heap.freePointer_other _ fun hsi => hj (p.owned j i a hsj hsi)

theorem value_create (p : Pool α) (i : Nat) (x : α) : (p.create i x).value = update p.value i (some x) := by
  funext j
  by_cases hj : j = i
  · rw [hj, update_self, value, slots_create_self]; exact Heap.alloc_self _ _
  rw [update_of_ne hj, value, value, slots_create_other p x hj]
  cases hsj : p.slots j with
  | none => rfl
  | some a => exact Heap.alloc_other _ _ (Nat.ne_of_lt (slots_lt hsj))

theorem value_write (h : p.slots i = some a) (x : α) : (p.write a x).value = update p.value i (some x) := by
  funext j
  by_cases hj : j = i
  · rw [hj, update_self, value, slots_write, h]
    obtain ⟨y, hy⟩ := Option.isSome_iff_exists.1 (p.live i a h)
    exact Heap.write_self _ hy
  rw [update_of_ne hj, value, value, slots_write]
  cases hsj : p.slots j with
  | none => rfl
  | some b => exact Heap.write_other _ _ fun heq => hj (p.owned j i a (heq ▸ hsj) h)

theorem deref_replaced (p : Pool α) (x : α) (h : p.slots i = some a) :
    ((p.discard i).create i x).deref (some a) = none := by
  have hheap : (p.discard i).heap = p.heap.free a := congrArg p.heap.freePointer h
  change ((p.discard i).heap.alloc x).cells a = none
  rw [hheap, Heap.alloc_other (p.heap.free a) x (Nat.ne_of_lt (slots_lt h)), Heap.free_self]

/-! ## Changes at one entry -/

/-- **A change at one entry**: no pointer handed out before gets into another entry, and only what that entry pointed to
changes. -/
structure ChangesOnly (i : Nat) (p p' : Pool α) : Prop where
  next : p.heap.next ≤ p'.heap.next
  slots : ∀ j a, a < p.heap.next → p'.slots j = some a → p.slots j = some a
  cells : ∀ a, a < p.heap.next → p.slots i ≠ some a → p'.heap.cells a = p.heap.cells a

theorem ChangesOnly.refl (i : Nat) (p : Pool α) : ChangesOnly i p p where
  next := Nat.le_refl _
  slots := fun _ _ _ h => h
  cells := fun _ _ _ => rfl

theorem ChangesOnly.trans {p' p'' : Pool α} (h : ChangesOnly i p p') (h' : ChangesOnly i p' p'') :
    ChangesOnly i p p'' where
  next := Nat.le_trans h.next h'.next
  slots := fun j a ha hj => h.slots j a ha (h'.slots j a (Nat.lt_of_lt_of_le ha h.next) hj)
  cells := by
    intro a ha hi
    rw [h'.cells a (Nat.lt_of_lt_of_le ha h.next) fun hi' => hi (h.slots i a ha hi'), h.cells a ha hi]

theorem changesOnly_discard (p : Pool α) (i : Nat) : ChangesOnly i p (p.discard i) where
  next := Nat.le_of_eq (Heap.next_freePointer ..).symm
  slots := by
    intro j a _ hj
    by_cases hji : j = i
    · rw [hji, slots_discard_self] at hj; cases hj
    · rw [← slots_discard_other p hji, hj]
  cells := fun a _ hi => Heap.freePointer_other p.heap hi

theorem changesOnly_create (p : Pool α) (i : Nat) (x : α) : ChangesOnly i p (p.create i x) where
  next := Nat.le_succ _
  slots := by
    intro j a ha hj
    by_cases hji : j = i
    · rw [hji, slots_create_self] at hj
      cases hj; exact absurd ha (Nat.lt_irrefl _)
    · rw [← slots_create_other p x hji, hj]
  cells := fun a ha _ => Heap.alloc_other p.heap x (Nat.ne_of_lt ha)

theorem changesOnly_write (h : p.slots i = some a) (x : α) :
    ChangesOnly i p (p.write a x) where
  next := Nat.le_refl _
  slots := fun _ _ _ h => h
  cells := fun _ _ hi => Heap.write_other p.heap x fun hb => hi (hb ▸ h)

end Pool

end Kit
