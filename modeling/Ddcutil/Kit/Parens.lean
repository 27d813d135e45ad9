import Mathlib.Data.List.Basic
import Mathlib.Tactic.Common
/-!
# Parens — the parenthesis that closes

`splitClose opn cls depth text` cuts `text`, which begins behind an opening parenthesis, at the parenthesis that
closes it, with `depth` more of them open on the way.
-/
namespace Kit

open List

variable {α : Type} {opn cls : α}

def splitClose [DecidableEq α] (opn cls : α) : Nat → List α → Option (List α × List α)
  | _, [] => none
  | depth, c :: text =>
    if c = opn then (splitClose opn cls (depth + 1) text).map fun r => (c :: r.1, r.2)
    else if c = cls then
      match depth with
      | 0 => some ([], text)
      | depth + 1 => (splitClose opn cls depth text).map fun r => (c :: r.1, r.2)
    else (splitClose opn cls depth text).map fun r => (c :: r.1, r.2)

/-- **The parentheses of the text match.** -/
inductive Balanced (opn cls : α) : List α → Prop where
  | nil : Balanced opn cls []
  | char {c : α} {text : List α} : c ≠ opn → c ≠ cls → Balanced opn cls text → Balanced opn cls (c :: text)
  | group {inner text : List α} : Balanced opn cls inner → Balanced opn cls text →
      Balanced opn cls (opn :: (inner ++ cls :: text))

theorem Balanced.append {a b : List α} (ha : Balanced opn cls a) (hb : Balanced opn cls b) :
    Balanced opn cls (a ++ b) := by
  induction ha with
  | nil => exact hb
  | char ho hc _ ih => exact .char ho hc ih
  | group hi _ _ ih =>
    rw [cons_append, append_assoc, cons_append]; exact .group hi ih

theorem Balanced.of_forall {text : List α} (h : ∀ c ∈ text, c ≠ opn ∧ c ≠ cls) : Balanced opn cls text := by
  induction text with
  | nil => exact .nil
  | cons c text ih =>
    have hc := h c mem_cons_self
    exact .char hc.1 hc.2 (ih fun x hx => h x (mem_cons_of_mem c hx))

/-- With `depth` parentheses still open, the cut closes each of them behind a balanced text of its own. -/
def Closes (opn cls : α) : Nat → List α → Prop
  | 0, text => Balanced opn cls text
  | depth + 1, text => ∃ a b, text = a ++ cls :: b ∧ Balanced opn cls a ∧ Closes opn cls depth b

theorem Closes.char {c : α} (ho : c ≠ opn) (hc : c ≠ cls) : ∀ {depth : Nat} {text : List α},
    Closes opn cls depth text → Closes opn cls depth (c :: text)
  | 0, _, h => Balanced.char ho hc h
  | depth + 1, _, ⟨a, b, hab, ha, hb⟩ => ⟨c :: a, b, by rw [hab, cons_append], Balanced.char ho hc ha, hb⟩

theorem Closes.opened : ∀ {depth : Nat} {text : List α}, Closes opn cls (depth + 1) text →
    Closes opn cls depth (opn :: text)
  | 0, _, ⟨a, b, hab, ha, hb⟩ => by rw [hab]; exact Balanced.group ha hb
  | depth + 1, _, ⟨a, b, hab, ha, a', b', hab', ha', hb'⟩ =>
    ⟨opn :: (a ++ cls :: a'), b', by rw [hab, hab', cons_append, append_assoc, cons_append],
      Balanced.group ha ha', hb'⟩

section SplitClose

variable [DecidableEq α]

theorem splitClose_open (depth : Nat) (text : List α) : splitClose opn cls depth (opn :: text) =
    (splitClose opn cls (depth + 1) text).map fun r => (opn :: r.1, r.2) := by
  simp [splitClose]

theorem splitClose_close_zero (hne : opn ≠ cls) (text : List α) :
    splitClose opn cls 0 (cls :: text) = some ([], text) := by
  simp [splitClose, hne.symm]

theorem splitClose_close_succ (hne : opn ≠ cls) (depth : Nat) (text : List α) :
    splitClose opn cls (depth + 1) (cls :: text) =
      (splitClose opn cls depth text).map fun r => (cls :: r.1, r.2) := by
  simp [splitClose, hne.symm]

theorem splitClose_char {c : α} (ho : c ≠ opn) (hc : c ≠ cls) (depth : Nat) (text : List α) :
    splitClose opn cls depth (c :: text) = (splitClose opn cls depth text).map fun r => (c :: r.1, r.2) := by
  simp [splitClose, ho, hc]

theorem splitClose_balanced_append (hne : opn ≠ cls) {a : List α} (ha : Balanced opn cls a) :
    ∀ (depth : Nat) (text : List α), splitClose opn cls depth (a ++ text) =
      (splitClose opn cls depth text).map fun r => (a ++ r.1, r.2) := by
  induction ha with
  | nil =>
    intro depth text
    cases h : splitClose opn cls depth text <;> simp [h]
  | @char c a ho hc _ ih =>
    intro depth text
    rw [cons_append, splitClose_char ho hc, ih, Option.map_map]; rfl
  | @group inner a _ _ ihi iha =>
    intro depth text
    rw [cons_append, splitClose_open, append_assoc, ihi, cons_append, splitClose_close_succ hne, iha]
    simp only [Option.map_map, Function.comp_def, append_assoc, cons_append]

theorem splitClose_append (hne : opn ≠ cls) {a : List α} (ha : Balanced opn cls a) (rest : List α) :
    splitClose opn cls 0 (a ++ cls :: rest) = some (a, rest) := by
  rw [splitClose_balanced_append hne ha, splitClose_close_zero hne, Option.map_some, append_nil]

theorem splitClose_eq_some : ∀ {text : List α} {depth : Nat} {v rest : List α},
    splitClose opn cls depth text = some (v, rest) → text = v ++ cls :: rest ∧ Closes opn cls depth v
  | c :: text, depth, v, rest, h => by
    by_cases ho : c = opn
    · rw [ho, splitClose_open, Option.map_eq_some_iff] at h
      obtain ⟨⟨v', rest'⟩, hs, heq⟩ := h
      obtain ⟨rfl, rfl⟩ := Prod.mk.inj heq
      obtain ⟨ht, hc⟩ := splitClose_eq_some hs
      exact ⟨by rw [ho, ht, cons_append], hc.opened⟩
    · by_cases hc : c = cls
      · rw [hc] at ho h
        cases depth with
        | zero =>
          rw [splitClose_close_zero (Ne.symm ho)] at h
          obtain ⟨rfl, rfl⟩ := Prod.mk.inj (Option.some.inj h)
          exact ⟨by rw [hc, nil_append], Balanced.nil⟩
        | succ depth =>
          rw [splitClose_close_succ (Ne.symm ho), Option.map_eq_some_iff] at h
          obtain ⟨⟨v', rest'⟩, hs, heq⟩ := h
          obtain ⟨rfl, rfl⟩ := Prod.mk.inj heq
          obtain ⟨ht, hcl⟩ := splitClose_eq_some hs
          exact ⟨by rw [hc, ht, cons_append], [], v', rfl, Balanced.nil, hcl⟩
      · rw [splitClose_char ho hc, Option.map_eq_some_iff] at h
        obtain ⟨⟨v', rest'⟩, hs, heq⟩ := h
        obtain ⟨rfl, rfl⟩ := Prod.mk.inj heq
        obtain ⟨ht, hcl⟩ := splitClose_eq_some hs
        exact ⟨by rw [ht, cons_append], hcl.char ho hc⟩

theorem splitClose_zero_eq_some (hne : opn ≠ cls) {text v rest : List α} :
    splitClose opn cls 0 text = some (v, rest) ↔ text = v ++ cls :: rest ∧ Balanced opn cls v := by
  constructor
  · intro h; exact splitClose_eq_some h
  · rintro ⟨rfl, hv⟩
    exact splitClose_append hne hv rest

end SplitClose

end Kit
