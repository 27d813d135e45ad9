import Mathlib.Data.List.Induction
import Ddcutil.Kit.Exec
/-!
# Marks — marking the entries of a list, the last mark of an entry winning

A pass over a list marks entries by their index, each mark with a value; an entry that is marked again has the later
value.
-/
namespace Kit

open List

variable {α β : Type}

def marked (mark : β → α → α) (marks : List (Nat × β)) (l : List α) : List α :=
  marks.foldl (fun l m => l.modify m.1 (mark m.2)) l

def lastMark (marks : List (Nat × β)) (i : Nat) : Option β := marks.reverse.lookup i

variable (mark : β → α → α)

@[simp] theorem marked_nil (l : List α) : marked mark [] l = l := rfl

theorem marked_append (xs ys : List (Nat × β)) (l : List α) :
    marked mark (xs ++ ys) l = marked mark ys (marked mark xs l) := foldl_append

theorem lastMark_append (xs ys : List (Nat × β)) (i : Nat) :
    lastMark (xs ++ ys) i = (lastMark ys i).or (lastMark xs i) := by
  unfold lastMark
  rw [reverse_append, lookup_append]

theorem lastMark_concat (marks : List (Nat × β)) (m : Nat × β) (i : Nat) :
    lastMark (marks ++ [m]) i = if i = m.1 then some m.2 else lastMark marks i := by
  obtain ⟨n, b⟩ := m
  unfold lastMark
  by_cases h : i = n
  · simp [h]
  · have hne : (i == n) = false := beq_false_of_ne h
    simp [lookup_cons, hne, h]

theorem lastMark_eq_none {marks : List (Nat × β)} {i : Nat} : lastMark marks i = none ↔ ∀ m ∈ marks, m.1 ≠ i := by
  rw [lastMark, lookup_eq_none_iff]
  simp only [mem_reverse, bne_iff_ne, ne_eq, eq_comm (a := i)]

theorem mem_of_lastMark {marks : List (Nat × β)} {i : Nat} {b : β} (h : lastMark marks i = some b) : (i, b) ∈ marks := by
  obtain ⟨l, r, hl, -⟩ := lookup_eq_some_iff.1 h
  rw [← mem_reverse, hl]; exact mem_append_right _ mem_cons_self

theorem getElem?_marked {mark : β → α → α} (hmark : ∀ b b' a, mark b' (mark b a) = mark b' a)
    (marks : List (Nat × β)) (l : List α) (i : Nat) :
    (marked mark marks l)[i]? = l[i]?.map fun a => (lastMark marks i).elim a fun b => mark b a := by
  induction marks using List.reverseRecOn with
  | nil => simp [lastMark]
  | append_singleton marks m ih =>
    rw [marked_append, lastMark_concat]
    change ((marked mark marks l).modify m.1 (mark m.2))[i]? = _
    rw [getElem?_modify, ih]
    cases l[i]? with
    | none => rfl
    | some a =>
      simp only [Option.map_some, Option.map_eq_map]
      by_cases h : m.1 = i
      · rw [if_pos h, if_pos h.symm]
        cases lastMark marks i with
        | none => rfl
        | some b => exact congrArg some (hmark b m.2 a)
      · rw [if_neg h, if_neg (Ne.symm h)]

@[simp] theorem length_marked (marks : List (Nat × β)) (l : List α) : (marked mark marks l).length = l.length := by
  induction marks generalizing l with
  | nil => rfl
  | cons m marks ih => exact (ih _).trans (length_modify ..)

theorem lastMark_eq_some {marks : List (Nat × Nat)} (hgrow : marks.Pairwise fun p q => p.1 = q.1 → p.2 < q.2)
    {i j : Nat} : lastMark marks i = some j ↔ (i, j) ∈ marks ∧ ∀ k, (i, k) ∈ marks → k ≤ j := by
  induction marks using List.reverseRecOn generalizing j with
  | nil => simp [lastMark]
  | append_singleton marks m ih =>
    obtain ⟨hgrow, -, hlast⟩ := pairwise_append.1 hgrow
    have hlast : ∀ p ∈ marks, p.1 = m.1 → p.2 < m.2 := fun p hp => hlast p hp m mem_cons_self
    rw [lastMark_concat]
    simp only [mem_append, mem_singleton]
    split
    · rename_i him
      constructor
      · rintro h
        cases h
        refine ⟨.inr (Prod.ext him rfl), fun k hk => ?_⟩
        rcases hk with hk | hk
        · exact Nat.le_of_lt (hlast _ hk him)
        · exact Nat.le_of_eq (congrArg Prod.snd hk)
      · rintro ⟨hj | hj, hmax⟩
        · have hle := hmax m.2 (.inr (Prod.ext him rfl))
          exact absurd (hlast _ hj him) (Nat.not_lt.2 hle)
        · rw [← hj]
    · rename_i him
      have hne : ∀ k, (i, k) ≠ m := fun k hk => him (congrArg Prod.fst hk)
      rw [ih hgrow]
      simp only [hne, or_false]

/-! ## Marking by a test -/

/-- **A pass that marks by a test**: the test reads the list as the marks before it left it. -/
def markPass (mark : β → α → α) (test : List α → Nat × β → Exec Bool) (pairs : List (Nat × β)) (l : List α) :
    Exec (List α) :=
  pairs.foldlM (fun l p => do
    let found ← test l p
    .ok (if found = true then l.modify p.1 (mark p.2) else l)) l

def holds : Exec Bool → Bool
  | .ok b => b
  | .error _ => false

theorem markPass_cons (mark : β → α → α) (test : List α → Nat × β → Exec Bool) (p : Nat × β) (pairs : List (Nat × β))
    (l : List α) : markPass mark test (p :: pairs) l = (do
      let found ← test l p
      markPass mark test pairs (if found = true then l.modify p.1 (mark p.2) else l)) := by
  rw [markPass, foldlM_cons]
  cases test l p <;> rfl

theorem markPass_eq_ok {mark : β → α → α} {test : List α → Nat × β → Exec Bool}
    (hkeep : ∀ l i b p, test (l.modify i (mark b)) p = test l p) (pairs : List (Nat × β)) {l l' : List α} :
    markPass mark test pairs l = .ok l' ↔
      (∀ p ∈ pairs, ∃ found, test l p = .ok found) ∧ l' = marked mark (pairs.filter fun p => holds (test l p)) l := by
  induction pairs generalizing l with
  | nil =>
    constructor
    · intro h
      cases h; exact ⟨fun _ h => absurd h not_mem_nil, rfl⟩
    · rintro ⟨-, rfl⟩
      rfl
  | cons p pairs ih =>
    rw [markPass_cons, Exec.bind_eq_ok]
    -- the marks that `p` may make leave the test as it was
    have hsame : ∀ found : Bool, ∀ q, test (if found = true then l.modify p.1 (mark p.2) else l) q = test l q := by
      intro found q
      cases found with
      | false => rfl
      | true => exact hkeep l p.1 p.2 q
    have hrest : ∀ found : Bool, test l p = .ok found →
        marked mark ((p :: pairs).filter fun q => holds (test l q)) l =
          marked mark (pairs.filter fun q => holds (test l q))
            (if found = true then l.modify p.1 (mark p.2) else l) := by
      intro found hfound
      cases found with
      | false => rw [filter_cons_of_neg (by simp [hfound, holds])]; rfl
      | true => rw [filter_cons_of_pos (by simp [hfound, holds])]; rfl
    constructor
    · rintro ⟨found, hfound, h⟩
      rw [ih] at h
      simp only [hsame] at h
      refine ⟨fun q hq => ?_, (hrest found hfound).symm ▸ h.2⟩
      rcases mem_cons.1 hq with rfl | hq
      · exact ⟨found, hfound⟩
      · exact h.1 q hq
    · rintro ⟨htests, rfl⟩
      obtain ⟨found, hfound⟩ := htests p mem_cons_self
      refine ⟨found, hfound, ?_⟩
      rw [ih]
      simp only [hsame]; exact ⟨fun q hq => htests q (mem_cons_of_mem _ hq), hrest found hfound⟩

def allPairs (is js : List Nat) : List (Nat × Nat) := is.flatMap fun i => js.map fun j => (i, j)

theorem mem_allPairs {is js : List Nat} {i j : Nat} : (i, j) ∈ allPairs is js ↔ i ∈ is ∧ j ∈ js := by
  unfold allPairs
  simp only [mem_flatMap, mem_map, Prod.mk.injEq]
  constructor
  · rintro ⟨a, ha, b, hb, rfl, rfl⟩
    exact ⟨ha, hb⟩
  · rintro ⟨hi, hj⟩
    exact ⟨i, hi, j, hj, rfl, rfl⟩

theorem pairwise_allPairs {is js : List Nat} (his : is.Nodup) (hjs : js.Pairwise (· < ·)) :
    (allPairs is js).Pairwise fun p q => p.1 = q.1 → p.2 < q.2 := by
  rw [allPairs, pairwise_flatMap]
  constructor
  · intro i _
    rw [pairwise_map]; exact hjs.imp fun h => fun (_ : i = i) => h
  · refine his.imp fun hne p hp q hq heq => ?_
    obtain ⟨b, -, rfl⟩ := mem_map.1 hp
    obtain ⟨c, -, rfl⟩ := mem_map.1 hq
    exact absurd heq hne

end Kit
