import Mathlib.Data.List.Forall2
import Mathlib.Tactic.Common
/-!
# Exec — C code that may fault

`Exec α` is the outcome of a piece of C code: its value, or the fault that stops it.  A fault is a failed assertion or
an access the language gives no meaning to, so "no fault" is a result to be proved and not an assumption.
-/
namespace Kit

open List

inductive Fault where
  | assertFailed | nullDeref | outOfBounds | divByZero | outOfFuel
  deriving DecidableEq, Repr

/-- **The outcome of a piece of C code.** -/
abbrev Exec (α : Type) := Except Fault α

namespace Exec

@[simp] theorem ok_bind {α β : Type} (a : α) (f : α → Exec β) : (Except.ok a >>= f) = f a := rfl

@[simp] theorem error_bind {α β : Type} (e : Fault) (f : α → Exec β) :
    ((Except.error e : Exec α) >>= f) = .error e := rfl

@[simp] theorem pure_eq_ok {α : Type} (a : α) : (pure a : Exec α) = .ok a := rfl

theorem ok_ne_error {α : Type} (a : α) (e : Fault) : (Except.ok a : Exec α) ≠ .error e := by
  intro h; cases h

theorem error_ne_error {α : Type} {e e' : Fault} (h : e ≠ e') : (Except.error e : Exec α) ≠ .error e' :=
  fun heq => h (Except.error.inj heq)

@[simp] theorem ok_map {α β : Type} (f : α → β) (a : α) : f <$> (Except.ok a : Exec α) = .ok (f a) := rfl

theorem bind_eq_ok {α β : Type} {x : Exec α} {f : α → Exec β} {b : β} :
    (x >>= f) = .ok b ↔ ∃ a, x = .ok a ∧ f a = .ok b := by
  cases x with
  | error e | ok a => simp

theorem bind_ne_error {α β : Type} {x : Exec α} {f : α → Exec β} {e : Fault} (hx : x ≠ .error e)
    (hf : ∀ a, x = .ok a → f a ≠ .error e) : (x >>= f) ≠ .error e := by
  cases x with
  | error e' => exact fun h => hx (congrArg Except.error (Except.error.inj h))
  | ok a => exact hf a rfl

theorem foldlM_keeps {α β : Type} {f : β → α → Exec β} (Inv : β → Prop) {l : List α}
    (hstep : ∀ a ∈ l, ∀ b b', Inv b → f b a = .ok b' → Inv b') :
    ∀ {b b' : β}, Inv b → l.foldlM f b = .ok b' → Inv b' := by
  induction l with
  | nil =>
    intro b b' hb h
    cases h; exact hb
  | cons a l ih =>
    intro b b' hb h
    obtain ⟨c, hc, h⟩ := bind_eq_ok.1 h
    exact ih (fun a' ha' => hstep a' (mem_cons_of_mem a ha')) (hstep a mem_cons_self b c hb hc) h

theorem foldlM_returns {α β : Type} {f : β → α → Exec β} (Inv : β → Prop) {l : List α}
    (hstep : ∀ a ∈ l, ∀ b, Inv b → ∃ b', f b a = .ok b' ∧ Inv b') :
    ∀ {b : β}, Inv b → ∃ b', l.foldlM f b = .ok b' ∧ Inv b' := by
  induction l with
  | nil => exact fun hb => ⟨_, rfl, hb⟩
  | cons a l ih =>
    intro b hb
    obtain ⟨c, hc, hinv⟩ := hstep a mem_cons_self b hb
    rw [foldlM_cons, hc, ok_bind]; exact ih (fun a' ha' => hstep a' (mem_cons_of_mem a ha')) hinv

theorem foldlM_each {α β : Type} {f : β → α → Exec β} {l : List α} :
    ∀ {b b' : β}, l.foldlM f b = .ok b' → ∀ a ∈ l, ∃ c c', f c a = .ok c' := by
  induction l with
  | nil =>
    intro b b' _ a ha; cases ha
  | cons a l ih =>
    intro b b' h a' ha'
    obtain ⟨c, hc, h⟩ := bind_eq_ok.1 h
    rcases mem_cons.1 ha' with rfl | ha'
    · exact ⟨b, c, hc⟩
    · exact ih h a' ha'

theorem mapM_eq_ok {α β : Type} {f : α → Exec β} {l : List α} :
    ∀ {bs : List β}, l.mapM f = .ok bs ↔ List.Forall₂ (fun a b => f a = .ok b) l bs := by
  induction l with
  | nil =>
    intro bs
    rw [forall₂_nil_left_iff, mapM_nil, pure_eq_ok, Except.ok.injEq]; exact eq_comm
  | cons a l ih =>
    intro bs
    rw [mapM_cons]
    constructor
    · intro h
      obtain ⟨b, hb, h⟩ := bind_eq_ok.1 h
      obtain ⟨bs', hbs', h⟩ := bind_eq_ok.1 h
      cases h; exact (ih.1 hbs').cons hb
    · intro h
      obtain ⟨b, bs', hb, hbs', rfl⟩ := forall₂_cons_left_iff.1 h
      rw [hb, ok_bind, ih.2 hbs', ok_bind]; rfl

theorem mapM_ok_of_forall {α β : Type} {f : α → Exec β} {l : List α} (h : ∀ a ∈ l, ∃ b, f a = .ok b) :
    ∃ bs, l.mapM f = .ok bs := by
  induction l with
  | nil => exact ⟨[], rfl⟩
  | cons a l ih =>
    obtain ⟨b, hb⟩ := h a mem_cons_self
    obtain ⟨bs, hbs⟩ := ih fun a' ha' => h a' (mem_cons_of_mem a ha')
    exact ⟨b :: bs, mapM_eq_ok.2 ((mapM_eq_ok.1 hbs).cons hb)⟩

theorem map_eq_ok {α β : Type} {x : Exec α} {f : α → β} {b : β} : f <$> x = .ok b ↔ ∃ a, x = .ok a ∧ f a = b := by
  constructor
  · intro h
    cases x with
    | error e => cases h
    | ok a =>
      cases h; exact ⟨a, rfl, rfl⟩
  · rintro ⟨a, rfl, rfl⟩
    rfl

theorem map_ne_error {α β : Type} {x : Exec α} {f : α → β} {e : Fault} (hx : x ≠ .error e) : f <$> x ≠ .error e := by
  cases x with
  | error e' => exact fun h => hx (congrArg Except.error (Except.error.inj h))
  | ok a => exact ok_ne_error (f a) e

theorem mapM_ne_error {α β : Type} {f : α → Exec β} {l : List α} {e : Fault} (h : ∀ a ∈ l, f a ≠ .error e) :
    l.mapM f ≠ .error e := by
  induction l with
  | nil => exact ok_ne_error [] e
  | cons a l ih =>
    rw [mapM_cons]
    refine bind_ne_error (h a mem_cons_self) fun b _ => ?_
    refine bind_ne_error (ih fun a' ha' => h a' (mem_cons_of_mem a ha')) fun bs _ => ?_
    exact ok_ne_error _ e

theorem mem_of_mapM_eq_ok {α β : Type} {f : α → Exec β} {l : List α} {bs : List β} (h : l.mapM f = .ok bs) :
    ∀ b ∈ bs, ∃ a ∈ l, f a = .ok b := by
  intro b hb
  obtain ⟨n, hn, rfl⟩ := mem_iff_getElem.1 hb
  have hforall := mapM_eq_ok.1 h
  have hlt : n < l.length := hforall.length_eq ▸ hn
  exact ⟨l[n], getElem_mem hlt, List.Forall₂.get hforall hlt hn⟩

theorem exists_of_mem_mapM {α β : Type} {f : α → Exec β} {l : List α} {bs : List β} (h : l.mapM f = .ok bs) :
    ∀ a ∈ l, ∃ b ∈ bs, f a = .ok b := by
  intro a ha
  obtain ⟨n, hn, rfl⟩ := mem_iff_getElem.1 ha
  have hforall := mapM_eq_ok.1 h
  have hlt : n < bs.length := hforall.length_eq ▸ hn
  exact ⟨bs[n], getElem_mem hlt, List.Forall₂.get hforall hn hlt⟩

/-- **A list that is written and read back element by element** comes back as it was exactly where each element does. -/
theorem mapM_mapM_iff {α β γ : Type} (write : α → Exec β) (read : β → Exec γ) (Same : α → γ → Prop) (l : List α) :
    (∃ bs cs, l.mapM write = .ok bs ∧ bs.mapM read = .ok cs ∧ List.Forall₂ Same l cs) ↔
      ∀ a ∈ l, ∃ b c, write a = .ok b ∧ read b = .ok c ∧ Same a c := by
  induction l with
  | nil => exact ⟨fun _ a ha => absurd ha not_mem_nil, fun _ => ⟨[], [], rfl, rfl, List.Forall₂.nil⟩⟩
  | cons a l ih =>
    rw [forall_mem_cons, ← ih]
    constructor
    · rintro ⟨bs, cs, hbs, hcs, hsame⟩
      rw [mapM_cons] at hbs
      obtain ⟨b, hb, hbs⟩ := bind_eq_ok.1 hbs
      obtain ⟨bs', hbs', hbs⟩ := bind_eq_ok.1 hbs
      cases hbs
      rw [mapM_cons] at hcs
      obtain ⟨c, hc, hcs⟩ := bind_eq_ok.1 hcs
      obtain ⟨cs', hcs', hcs⟩ := bind_eq_ok.1 hcs
      cases hcs
      obtain ⟨hac, hsame⟩ := forall₂_cons.1 hsame
      exact ⟨⟨b, c, hb, hc, hac⟩, bs', cs', hbs', hcs', hsame⟩
    · rintro ⟨⟨b, c, hb, hc, hac⟩, bs, cs, hbs, hcs, hsame⟩
      refine ⟨b :: bs, c :: cs, ?_, ?_, hsame.cons hac⟩
      · rw [mapM_cons, hb, ok_bind, hbs, ok_bind]; rfl
      · rw [mapM_cons, hc, ok_bind, hcs, ok_bind]; rfl

/-- **Where a search ends**: at the first element whose test stops or holds, or at the end of the list. -/
theorem findM?_cases {α : Type} (p : α → Exec Bool) (l : List α) :
    (∃ l₁ a l₂, l = l₁ ++ a :: l₂ ∧ (∀ b ∈ l₁, p b = .ok false) ∧ ∃ e, p a = .error e) ∨
      (∃ l₁ a l₂, l = l₁ ++ a :: l₂ ∧ (∀ b ∈ l₁, p b = .ok false) ∧ p a = .ok true ∧ l.findM? p = .ok (some a)) ∨
      (∀ b ∈ l, p b = .ok false) ∧ l.findM? p = .ok none := by
  induction l with
  | nil => exact .inr (.inr ⟨fun _ h => absurd h not_mem_nil, rfl⟩)
  | cons a l ih =>
    rw [List.findM?]
    cases ha : p a with
    | error e => exact .inl ⟨[], a, l, rfl, fun _ h => absurd h not_mem_nil, e, ha⟩
    | ok found =>
      cases found with
      | true => exact .inr (.inl ⟨[], a, l, rfl, fun _ h => absurd h not_mem_nil, ha, rfl⟩)
      | false =>
        have hcons : ∀ {l₁ : List α}, (∀ b ∈ l₁, p b = .ok false) → ∀ b ∈ a :: l₁, p b = .ok false := by
          rintro l₁ h b (_ | ⟨_, hb⟩)
          · exact ha
          · exact h b hb
        rcases ih with ⟨l₁, b, l₂, rfl, h₁, hb⟩ | ⟨l₁, b, l₂, rfl, h₁, hb, hfind⟩ | ⟨hall, hfind⟩
        · exact .inl ⟨a :: l₁, b, l₂, rfl, hcons h₁, hb⟩
        · exact .inr (.inl ⟨a :: l₁, b, l₂, rfl, hcons h₁, hb, hfind⟩)
        · exact .inr (.inr ⟨hcons hall, hfind⟩)

/-- **What a search that ended reached**: an element with none before it that the test holds of is tested, and found
where the test holds of it. -/
theorem findM?_reached {α : Type} {p : α → Exec Bool} {l₁ : List α} {a : α} {l₂ : List α} {x : Option α}
    (h : (l₁ ++ a :: l₂).findM? p = .ok x) (hnone : ∀ b ∈ l₁, p b ≠ .ok true) :
    ∃ found, p a = .ok found ∧ (found = true → x = some a) := by
  induction l₁ with
  | nil =>
    obtain ⟨found, hfound, h⟩ := bind_eq_ok.1 h
    refine ⟨found, hfound, fun ht => ?_⟩
    rw [ht] at h
    cases h; rfl
  | cons b l₁ ih =>
    obtain ⟨found, hfound, h⟩ := bind_eq_ok.1 h
    cases found with
    | true => exact absurd hfound (hnone b mem_cons_self)
    | false => exact ih h fun b' hb' => hnone b' (mem_cons_of_mem _ hb')

end Exec

/-! ## Assertions and checked memory -/

def check (p : Prop) [Decidable p] : Exec Unit :=
  if p then .ok () else .error .assertFailed

theorem check_pos {p : Prop} [Decidable p] (h : p) : check p = .ok () := if_pos h

theorem check_neg {p : Prop} [Decidable p] (h : ¬ p) : check p = .error .assertFailed := if_neg h

@[simp] theorem check_eq_ok {p : Prop} [Decidable p] {u : Unit} : check p = .ok u ↔ p := by
  unfold check
  split <;> simp_all

def fetch {α : Type} (m : List α) (i : Nat) : Exec α :=
  match m[i]? with
  | some a => .ok a
  | none => .error .outOfBounds

def store {α : Type} (m : List α) (i : Nat) (a : α) : Exec (List α) :=
  if i < m.length then .ok (m.set i a) else .error .outOfBounds

def span {α : Type} (m : List α) (i n : Nat) : Exec (List α) :=
  if i + n ≤ m.length then .ok ((m.drop i).take n) else .error .outOfBounds

def overwrite {α : Type} (m : List α) (i : Nat) (src : List α) : List α :=
  m.take i ++ src ++ m.drop (i + src.length)

def blit {α : Type} (m : List α) (i : Nat) (src : List α) : Exec (List α) :=
  if i + src.length ≤ m.length then .ok (overwrite m i src) else .error .outOfBounds

@[simp] theorem fetch_cons_zero {α : Type} (a : α) (m : List α) : fetch (a :: m) 0 = .ok a := rfl

@[simp] theorem fetch_cons_succ {α : Type} (a : α) (m : List α) (i : Nat) : fetch (a :: m) (i + 1) = fetch m i := rfl

theorem fetch_of_lt {α : Type} {m : List α} {i : Nat} (h : i < m.length) : fetch m i = .ok m[i] := by
  simp [fetch, h]

theorem fetch_eq_ok {α : Type} {m : List α} {i : Nat} {a : α} : fetch m i = .ok a ↔ m[i]? = some a := by
  unfold fetch
  cases m[i]? with
  | none | some b => simp

theorem store_of_lt {α : Type} {m : List α} {i : Nat} {a : α} (h : i < m.length) :
    store m i a = .ok (m.set i a) := if_pos h

theorem span_of_le {α : Type} {m : List α} {i n : Nat} (h : i + n ≤ m.length) :
    span m i n = .ok ((m.drop i).take n) := if_pos h

theorem blit_of_le {α : Type} {m src : List α} {i : Nat} (h : i + src.length ≤ m.length) :
    blit m i src = .ok (overwrite m i src) := if_pos h

theorem blit_of_lt {α : Type} {m src : List α} {i : Nat} (h : m.length < i + src.length) :
    blit m i src = .error .outOfBounds := if_neg (Nat.not_le.2 h)

theorem length_overwrite {α : Type} {m src : List α} {i : Nat} (h : i + src.length ≤ m.length) :
    (overwrite m i src).length = m.length := by
  simp only [overwrite, length_append, length_take, length_drop]; omega

theorem take_overwrite {α : Type} {m src : List α} {i : Nat} (h : i ≤ m.length) :
    (overwrite m i src).take (i + src.length) = m.take i ++ src := by
  have hlen : (m.take i ++ src).length = i + src.length := by
    rw [length_append, length_take, Nat.min_eq_left h]
  rw [overwrite, ← hlen, take_left]

theorem forall_byte {P : UInt8 → Prop} (h : ∀ n : Fin 256, P (UInt8.ofNat n.val)) (b : UInt8) : P b := by
  have hb := h ⟨b.toNat, b.toNat_lt⟩
  rwa [UInt8.ofNat_toNat] at hb

end Kit
