import Mathlib.Data.List.AList
import Mathlib.Data.List.Induction
import Mathlib.Tactic.Common
/-!
# Lines — records in a text file, and what a loop over them leaves

A text file is the concatenation of its lines, each ended by the separator; `lines` takes it apart, and a last piece
without a separator is a line too.
-/
namespace Kit

open List

section Lines

variable {α : Type} [DecidableEq α]

def lines (sep : α) : List α → List (List α)
  | [] => []
  | c :: s =>
    if c = sep then [] :: lines sep s
    else
      match lines sep s with
      | [] => [[c]]
      | l :: ls => (c :: l) :: ls

def unlines (sep : α) (ls : List (List α)) : List α := ls.flatMap (· ++ [sep])

theorem lines_append_sep {sep : α} : ∀ {l : List α}, sep ∉ l → ∀ s, lines sep (l ++ sep :: s) = l :: lines sep s
  | [], _, s => by rw [nil_append, lines, if_pos rfl]
  | c :: l, h, s => by
    have hc : c ≠ sep := fun heq => h (heq ▸ mem_cons_self)
    have hl : sep ∉ l := fun hmem => h (mem_cons_of_mem c hmem)
    rw [cons_append, lines, if_neg hc, lines_append_sep hl s]

theorem lines_unlines {sep : α} : ∀ {ls : List (List α)}, (∀ l ∈ ls, sep ∉ l) → lines sep (unlines sep ls) = ls
  | [], _ => rfl
  | l :: ls, h => by
    have ih := lines_unlines fun l' hmem => h l' (mem_cons_of_mem l hmem)
    have htext : unlines sep (l :: ls) = l ++ sep :: unlines sep ls := by
      simp only [unlines, flatMap_cons, append_assoc, singleton_append]
    rw [htext, lines_append_sep (h l mem_cons_self), ih]

theorem notMem_of_mem_lines {sep : α} : ∀ {s l : List α}, l ∈ lines sep s → sep ∉ l
  | [], _, h => by cases h
  | c :: s, l, h => by
    unfold lines at h
    by_cases hc : c = sep
    · rw [if_pos hc] at h
      rcases mem_cons.1 h with rfl | h
      · exact not_mem_nil
      · exact notMem_of_mem_lines h
    · rw [if_neg hc] at h
      have hne : sep ∉ [c] := fun hmem => hc (mem_singleton.1 hmem).symm
      cases hls : lines sep s with
      | nil =>
        rw [hls] at h
        rw [mem_singleton.1 h]; exact hne
      | cons l' ls =>
        rw [hls] at h
        rcases mem_cons.1 h with rfl | h
        · have hl' : sep ∉ l' := notMem_of_mem_lines (hls ▸ mem_cons_self)
          intro hmem
          rcases mem_cons.1 hmem with heq | hmem
          · exact hc heq.symm
          · exact hl' hmem
        · exact notMem_of_mem_lines (hls ▸ mem_cons_of_mem l' h)

theorem lines_append_of_last {sep : α} : ∀ {s : List α} {c : α}, s.getLast? = some c → c ≠ sep → ∀ t : List α,
    lines sep (s ++ sep :: t) = lines sep s ++ lines sep t
  | [], c, h, _, t => by cases h
  | [a], c, h, hc, t => by
    cases h
    have ha : sep ∉ [a] := fun hmem => hc (mem_singleton.1 hmem).symm
    have hline : lines sep [a] = [[a]] := if_neg hc
    rw [lines_append_sep ha, hline]; rfl
  | a :: a' :: s, c, h, hc, t => by
    have ih := @lines_append_of_last sep (a' :: s) c (by rwa [getLast?_cons_cons] at h) hc t
    have hstep : ∀ u : List α, lines sep (a :: u) =
        if a = sep then [] :: lines sep u else match lines sep u with | [] => [[a]] | l :: ls => (a :: l) :: ls :=
      fun u => rfl
    rw [cons_append, hstep, hstep, ih]
    by_cases ha : a = sep
    · rw [if_pos ha, if_pos ha]; rfl
    · rw [if_neg ha, if_neg ha]
      have hne : lines sep (a' :: s) ≠ [] := by
        rw [lines]
        split
        · exact cons_ne_nil _ _
        · split <;> exact cons_ne_nil _ _
      obtain ⟨l, ls, hls⟩ := exists_cons_of_ne_nil hne
      rw [hls]; rfl

theorem lines_eq_cons {sep : α} {s : List α} (h : s ≠ []) :
    lines sep s = s.takeWhile (· ≠ sep) :: lines sep (s.drop ((s.takeWhile (· ≠ sep)).length + 1)) := by
  induction s with
  | nil => exact absurd rfl h
  | cons a s ih =>
    rw [lines]
    by_cases ha : a = sep
    · rw [if_pos ha, takeWhile_cons_of_neg (by simpa using ha)]; rfl
    · rw [if_neg ha, takeWhile_cons_of_pos (by simpa using ha), length_cons, drop_succ_cons]
      cases s with
      | nil => rfl
      | cons a' s =>
        rw [ih (cons_ne_nil a' s)]

end Lines

/-! ## The last one for a key -/

section LastFor

variable {α β κ : Type} [DecidableEq κ]

def lastFor (key : α → κ) (k : κ) (as : List α) : Option α := (as.filter fun a => key a = k).getLast?

theorem lastFor_append_singleton (key : α → κ) (k : κ) (as : List α) (a : α) :
    lastFor key k (as ++ [a]) = if key a = k then some a else lastFor key k as := by
  unfold lastFor
  rw [filter_append]
  split
  · rename_i h
    rw [filter_cons_of_pos (by simpa using h), filter_nil, getLast?_concat]
  · rename_i h
    rw [filter_cons_of_neg (by simpa using h), filter_nil, append_nil]

theorem lastFor_mem {key : α → κ} {k : κ} {as : List α} {a : α} (h : lastFor key k as = some a) :
    a ∈ as ∧ key a = k := by
  have hmem := mem_filter.1 (mem_of_getLast? h)
  exact ⟨hmem.1, by simpa using hmem.2⟩

theorem lastFor_eq_none {key : α → κ} {k : κ} {as : List α} : lastFor key k as = none ↔ ∀ a ∈ as, key a ≠ k := by
  unfold lastFor; simp

theorem lastFor_congr {κ' : Type} [DecidableEq κ'] {key : α → κ} {key' : α → κ'} {k : κ} {k' : κ'} {as : List α}
    (h : ∀ a ∈ as, (key a = k ↔ key' a = k')) : lastFor key k as = lastFor key' k' as := by
  unfold lastFor
  rw [filter_congr fun a ha => decide_eq_decide.2 (h a ha)]

theorem lastFor_of_nodup {key : α → κ} {as : List α} (h : (as.map key).Nodup) {a : α} (ha : a ∈ as) :
    lastFor key (key a) as = some a := by
  cases hlast : lastFor key (key a) as with
  | none => exact absurd rfl (lastFor_eq_none.1 hlast a ha)
  | some b =>
    obtain ⟨hb, hkey⟩ := lastFor_mem hlast
    exact congrArg some (inj_on_of_nodup_map h hb ha hkey)

/-- **Records inserted one after another**: each key has the last value given for it, or the one it had. -/
theorem lookup_foldl_insert (key : α → κ) (val : α → β) (k : κ) : ∀ (as : List α) (t : AList fun _ : κ => β),
    (as.foldl (fun t a => t.insert (key a) (val a)) t).lookup k =
      match lastFor key k as with
      | some a => some (val a)
      | none => t.lookup k := by
  intro as
  induction as using List.reverseRecOn with
  | nil => exact fun t => rfl
  | append_singleton as a ih =>
    intro t
    rw [foldl_append, foldl_cons, foldl_nil, lastFor_append_singleton]
    by_cases hk : key a = k
    · rw [if_pos hk, ← hk, AList.lookup_insert]
    · rw [if_neg hk, AList.lookup_insert_ne (Ne.symm hk), ih]

theorem length_foldl_set (key : α → Nat) (val : α → β) : ∀ (as : List α) (m : List β),
    (as.foldl (fun m a => m.set (key a) (val a)) m).length = m.length
  | [], _ => rfl
  | a :: as, m => by rw [foldl_cons, length_foldl_set, length_set]

/-- **Cells written one after another**: each holds the last value written to it, or the one it had. -/
theorem getElem?_foldl_set (key : α → Nat) (val : α → β) (k : Nat) : ∀ (as : List α) (m : List β),
    (as.foldl (fun m a => m.set (key a) (val a)) m)[k]? =
      if k < m.length then
        match lastFor key k as with
        | some a => some (val a)
        | none => m[k]?
      else none := by
  intro as
  induction as using List.reverseRecOn with
  | nil =>
    intro m
    split
    · rfl
    · rename_i h; exact getElem?_eq_none (Nat.le_of_not_lt h)
  | append_singleton as a ih =>
    intro m
    rw [foldl_append, foldl_cons, foldl_nil, getElem?_set, length_foldl_set, ih,
      lastFor_append_singleton]
    by_cases hk : key a = k
    · subst hk
      rw [if_pos rfl, if_pos rfl]
    · rw [if_neg hk, if_neg hk]

end LastFor

end Kit
