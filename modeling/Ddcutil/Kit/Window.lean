import Ddcutil.Kit.Exec
/-!
# Window — scanning memory between two positions

C text code works on a position and an end in one memory.  `Window mem pos stop text post` says what that means: from
`pos` on the memory holds `text`, which ends at `stop`, and after it `post`.
-/
namespace Kit

open List

variable {α : Type}

structure Window (mem : List α) (pos stop : Nat) (text post : List α) : Prop where
  drop : mem.drop pos = text ++ post
  length : pos + text.length = stop
  inside : stop ≤ mem.length

namespace Window

variable {mem text front post : List α} {pos stop : Nat} {a : α}

theorem all (mem post : List α) : Window (mem ++ post) 0 mem.length mem post where
  drop := rfl
  length := Nat.zero_add _
  inside := by rw [length_append]; omega

theorem fetch_of_drop {rest : List α} (h : mem.drop pos = a :: rest) : fetch mem pos = .ok a := by
  have hget : (mem.drop pos)[0]? = some a := by rw [h, getElem?_cons_zero]
  rw [getElem?_drop] at hget; exact fetch_eq_ok.2 hget

theorem fetch_cons (w : Window mem pos stop (a :: text) post) : fetch mem pos = .ok a := fetch_of_drop w.drop

theorem fetch_end (w : Window mem pos stop [] (a :: post)) : fetch mem pos = .ok a := fetch_of_drop w.drop

theorem skip (w : Window mem pos stop (front ++ text) post) :
    Window mem (pos + front.length) stop text post where
  drop := by rw [← drop_drop, w.drop, append_assoc, drop_left]
  length := by rw [← w.length, length_append]; omega
  inside := w.inside

theorem next (w : Window mem pos stop (a :: text) post) : Window mem (pos + 1) stop text post := by
  rw [← singleton_append] at w; exact w.skip

theorem first (w : Window mem pos stop (front ++ text) post) :
    Window mem pos (pos + front.length) front (text ++ post) where
  drop := by rw [w.drop, append_assoc]
  length := rfl
  inside := by
    have hs := w.length
    have hi := w.inside
    rw [length_append] at hs; omega

theorem span_first (w : Window mem pos stop (front ++ text) post) : span mem pos front.length = .ok front := by
  have hd : mem.drop pos = front ++ (text ++ post) := w.first.drop
  rw [span_of_le w.first.inside, hd, take_left]

section
variable (w : Window mem pos stop text post)
include w

theorem span_all : span mem pos text.length = .ok text := by
  rw [← append_nil text] at w; exact w.span_first

theorem pos_eq : pos = stop - text.length := by
  have := w.length
  omega

theorem suffix {rest : List α} (h : rest <:+ text) : Window mem (stop - rest.length) stop rest post := by
  obtain ⟨front, rfl⟩ := h
  have w' := w.skip
  rwa [w'.pos_eq] at w'

theorem lt_iff : pos < stop ↔ text ≠ [] := by
  have := w.length
  rw [← length_pos_iff]; omega

end

theorem lt_of_cons (w : Window mem pos stop (a :: text) post) : pos < stop := w.lt_iff.2 (cons_ne_nil a text)

theorem not_lt_of_nil (w : Window mem pos stop [] post) : ¬ pos < stop := fun h => w.lt_iff.1 h rfl

end Window

/-! ## Scans -/

def skipWhile (p : α → Bool) (mem : List α) (stop : Nat) : Nat → Nat → Exec Nat
  | 0, _ => .error .outOfFuel
  | fuel + 1, pos =>
    if pos < stop then do
      let c ← fetch mem pos
      if p c then skipWhile p mem stop fuel (pos + 1) else .ok pos
    else .ok pos

def readWhile (p : α → Bool) (mem : List α) (stop : Nat) : Nat → Nat → Exec Nat
  | 0, _ => .error .outOfFuel
  | fuel + 1, pos => do
    let c ← fetch mem pos
    if p c && decide (pos < stop) then readWhile p mem stop fuel (pos + 1) else .ok pos

variable {p : α → Bool} {mem post : List α} {stop : Nat} {b : α}

theorem skipWhile_window : ∀ {text : List α} {pos fuel : Nat}, Window mem pos stop text post → text.length < fuel →
    skipWhile p mem stop fuel pos = .ok (pos + (text.takeWhile p).length)
  | [], pos, fuel + 1, w, _ => by rw [skipWhile, if_neg w.not_lt_of_nil]; rfl
  | c :: text, pos, fuel + 1, w, hf => by
    rw [skipWhile, if_pos w.lt_of_cons, w.fetch_cons, Exec.ok_bind, takeWhile_cons]
    cases hp : p c with
    | false => rfl
    | true =>
      rw [if_pos rfl, if_pos rfl, skipWhile_window w.next (Nat.lt_of_succ_lt_succ hf), length_cons]
      congr 1
      omega

theorem readWhile_window : ∀ {text : List α} {pos fuel : Nat}, Window mem pos stop text (b :: post) →
    text.length < fuel → readWhile p mem stop fuel pos = .ok (pos + (text.takeWhile p).length)
  | [], pos, fuel + 1, w, _ => by
    rw [readWhile, w.fetch_end, Exec.ok_bind, decide_eq_false w.not_lt_of_nil, Bool.and_false]; rfl
  | c :: text, pos, fuel + 1, w, hf => by
    rw [readWhile, w.fetch_cons, Exec.ok_bind, decide_eq_true w.lt_of_cons, Bool.and_true, takeWhile_cons]
    cases hp : p c with
    | false => rfl
    | true =>
      rw [if_pos rfl, if_pos rfl, readWhile_window w.next (Nat.lt_of_succ_lt_succ hf), length_cons]
      congr 1
      omega

theorem Window.dropWhile {text : List α} {pos : Nat} (p : α → Bool) (w : Window mem pos stop text post) :
    Window mem (pos + (text.takeWhile p).length) stop (text.dropWhile p) post := by
  rw [← takeWhile_append_dropWhile (p := p) (l := text)] at w; exact w.skip

section Stop

variable {front rest text : List α} {c : α}

theorem takeWhile_stop (hf : ∀ x ∈ front, p x = true) (hc : p c = false) :
    (front ++ c :: rest).takeWhile p = front := by
  rw [takeWhile_append_of_pos hf, takeWhile_cons_of_neg (by simp [hc]), append_nil]

theorem dropWhile_stop (hf : ∀ x ∈ front, p x = true) (hc : p c = false) :
    (front ++ c :: rest).dropWhile p = c :: rest := by
  rw [dropWhile_append_of_pos hf, dropWhile_cons_of_neg (by simp [hc])]

theorem head_of_dropWhile (h : text.dropWhile p = c :: rest) : p c = false := by
  have := head_dropWhile_not p (l := text)
  simpa [h] using this

theorem eq_of_dropWhile (h : text.dropWhile p = c :: rest) : text = text.takeWhile p ++ c :: rest := by
  rw [← h, takeWhile_append_dropWhile]

end Stop

end Kit
