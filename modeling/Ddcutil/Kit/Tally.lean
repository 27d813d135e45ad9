import Mathlib.Data.List.Count
/-!
# Tally — counting what was recorded since the last reset

A history is a list of steps, the newest first; some of them are resets and some record a value.  The values recorded
since the last reset are counted by key, and over all keys the counts add up to their number.
-/
namespace Kit

open List

variable {α β κ : Type}

def since (isReset : α → Bool) (recorded : α → Option β) (history : List α) : List β :=
  (history.takeWhile fun a => !isReset a).filterMap recorded

section Since

variable {isReset : α → Bool} {recorded : α → Option β} {a : α} (history : List α)

theorem since_reset (h : isReset a = true) : since isReset recorded (a :: history) = [] := by
  rw [since, takeWhile_cons_of_neg (by rw [h]; exact Bool.false_ne_true)]; rfl

theorem since_recorded (h : isReset a = false) {b : β} (hr : recorded a = some b) :
    since isReset recorded (a :: history) = b :: since isReset recorded history := by
  unfold since
  rw [takeWhile_cons_of_pos (by rw [h]; rfl), filterMap_cons_some hr]

theorem since_other (h : isReset a = false) (hr : recorded a = none) :
    since isReset recorded (a :: history) = since isReset recorded history := by
  unfold since
  rw [takeWhile_cons_of_pos (by rw [h]; rfl), filterMap_cons_none hr]

end Since

def sumOver (f : κ → Nat) : List κ → Nat
  | [] => 0
  | k :: keys => f k + sumOver f keys

theorem sumOver_add (f g : κ → Nat) (keys : List κ) :
    sumOver (fun k => f k + g k) keys = sumOver f keys + sumOver g keys := by
  induction keys with
  | nil => rfl
  | cons k keys ih =>
    simp only [sumOver, ih]; omega

theorem sumOver_zero {f : κ → Nat} {keys : List κ} (h : ∀ k ∈ keys, f k = 0) : sumOver f keys = 0 := by
  induction keys with
  | nil => rfl
  | cons k keys ih =>
    rw [sumOver, h k mem_cons_self, ih fun k' hk' => h k' (mem_cons_of_mem k hk')]

variable [DecidableEq κ]

theorem sumOver_single {a : κ} {keys : List κ} (hnodup : keys.Nodup) (hmem : a ∈ keys) :
    sumOver (fun k => if a = k then 1 else 0) keys = 1 := by
  induction keys with
  | nil => cases hmem
  | cons k keys ih =>
    obtain ⟨hk, hnodup⟩ := nodup_cons.1 hnodup
    rw [sumOver]
    by_cases ha : a = k
    · have hzero : sumOver (fun k => if a = k then 1 else 0) keys = 0 := by
        refine sumOver_zero fun k' hk' => if_neg ?_
        rintro rfl
        exact hk (ha ▸ hk')
      rw [if_pos ha, hzero]
    · rw [if_neg ha, ih hnodup ((mem_cons.1 hmem).resolve_left ha)]

theorem sumOver_count {keys : List κ} (hnodup : keys.Nodup) {l : List κ} (hall : ∀ a ∈ l, a ∈ keys) :
    sumOver (fun k => l.count k) keys = l.length := by
  induction l with
  | nil => exact sumOver_zero fun k _ => count_nil
  | cons a l ih =>
    have hcount : (fun k => (a :: l).count k) = fun k => l.count k + if a = k then 1 else 0 := by
      funext k
      rw [count_cons]
      simp only [beq_iff_eq]
    rw [hcount, sumOver_add, ih fun b hb => hall b (mem_cons_of_mem a hb),
      sumOver_single hnodup (hall a mem_cons_self), length_cons]

end Kit
