import Mathlib.Data.List.Induction
import Mathlib.Data.List.Nodup
import Mathlib.Tactic.Common
/-!
# Outline — lines that enclose the deeper lines after them

A line of an outline stands at a depth and, where it is well formed, says a key and a value.  Its path is the keys of
the lines that enclose it, one at each smaller depth, and its own.
-/
namespace Kit.Outline

open List

structure Line (κ ν : Type) where
  depth : Nat
  /-- What the line says, where it is well formed. -/
  entry : Option (κ × ν)
  /-- What a reader makes of the line. -/
  reads : Option (κ × ν)

structure Node (κ ν : Type) where
  level : Nat
  parent : Option Nat
  key : κ
  value : ν
deriving DecidableEq, Repr

section Entries

variable {κ ν : Type}

/-! ## What an outline says -/

def under (path : List κ) (l : Line κ ν) : List κ :=
  if path.length < l.depth then path
  else
    match l.entry with
    | some e => path.take l.depth ++ [e.1]
    | none => path.take l.depth

def entryOf (path : List κ) (l : Line κ ν) : List (List κ × ν) :=
  if path.length < l.depth then []
  else
    match l.entry with
    | some e => [(path.take l.depth ++ [e.1], e.2)]
    | none => []

/-- **The entries of an outline**: the path and the value of each well formed line that is enclosed by such lines. -/
def entries (path : List κ) : List (Line κ ν) → List (List κ × ν)
  | [] => []
  | l :: ls => entryOf path l ++ entries (under path l) ls

theorem entries_append (ls ms : List (Line κ ν)) : ∀ path : List κ,
    entries path (ls ++ ms) = entries path ls ++ entries (ls.foldl under path) ms := by
  induction ls with
  | nil => exact fun _ => rfl
  | cons l ls ih =>
    intro path
    rw [cons_append, entries, ih, entries, append_assoc]; rfl

theorem entries_top {l : Line κ ν} (h : l.depth = 0) (path : List κ) (ls : List (Line κ ν)) :
    entries path (l :: ls) = entries [] (l :: ls) := by
  have hentry : entryOf path l = entryOf [] l := by simp [entryOf, h]
  have hunder : under path l = under [] l := by simp [under, h]
  rw [entries, hentry, hunder, entries]

theorem entries_of_top_none {ls : List (Line κ ν)} (h : ∀ l ∈ ls, l.depth = 0 → l.entry = none) :
    entries [] ls = [] ∧ ls.foldl under [] = [] := by
  induction ls with
  | nil => exact ⟨rfl, rfl⟩
  | cons l ls ih =>
    have hl : entryOf [] l = [] ∧ under [] l = [] := by
      rcases Nat.eq_zero_or_pos l.depth with h0 | h0
      · simp [entryOf, under, h l mem_cons_self h0]
      · simp [entryOf, under, h0]
    obtain ⟨he, hu⟩ := ih fun m hm => h m (mem_cons_of_mem l hm)
    rw [entries, foldl_cons, hl.1, hl.2]; exact ⟨he, hu⟩

theorem entries_of_none {ls : List (Line κ ν)} (h : ∀ l ∈ ls, l.entry = none) : ∀ path : List κ, entries path ls = [] := by
  induction ls with
  | nil => exact fun _ => rfl
  | cons l ls ih =>
    intro path
    have hl : entryOf path l = [] := by simp [entryOf, h l mem_cons_self]
    rw [entries, hl, ih (fun m hm => h m (mem_cons_of_mem l hm)), append_nil]

theorem under_of_entries_nil {ls : List (Line κ ν)} (h : entries [] ls = []) : ls.foldl under [] = [] := by
  induction ls with
  | nil => rfl
  | cons l ls ih =>
    obtain ⟨hl, hls⟩ := append_eq_nil_iff.1 h
    have hunder : under [] l = [] := by
      unfold entryOf at hl
      unfold under
      split_ifs at hl ⊢ with hdeep
      · rfl
      · cases hs : l.entry with
        | none => simp
        | some e =>
          rw [hs] at hl; cases hl
    rw [hunder] at hls
    rw [foldl_cons, hunder, ih hls]

theorem entries_flat {ls : List (Line κ ν)} (h : ∀ l ∈ ls, l.depth = 0) : ∀ path : List κ,
    entries path ls = ls.filterMap fun l => l.entry.map fun e => ([e.1], e.2) := by
  induction ls with
  | nil => exact fun _ => rfl
  | cons l ls ih =>
    intro path
    have h0 := h l mem_cons_self
    rw [entries, ih fun m hm => h m (mem_cons_of_mem l hm)]
    cases hs : l.entry with
    | none | some e => simp [entryOf, h0, hs]

structure Lays (nodes : List (Node κ ν)) (es : List (List κ × ν)) : Prop where
  length : nodes.length = es.length
  entry : ∀ i (n : Node κ ν), nodes[i]? = some n → ∃ path, es[i]? = some (path ++ [n.key], n.value) ∧
    (n.parent = none → path = []) ∧ ∀ j, n.parent = some j → j < i ∧ ∃ v, es[j]? = some (path, v)

theorem Lays.node {nodes : List (Node κ ν)} {es : List (List κ × ν)} (h : Lays nodes es) {i : Nat} {path : List κ} {k : κ} {v : ν}
    (he : es[i]? = some (path ++ [k], v)) :
    ∃ n, nodes[i]? = some n ∧ n.key = k ∧ n.value = v ∧ (n.parent = none → path = []) ∧
      ∀ j, n.parent = some j → j < i ∧ ∃ v, es[j]? = some (path, v) := by
  have hlt : i < nodes.length := h.length ▸ (List.getElem?_eq_some_iff.1 he).1
  obtain ⟨path', hentry, hparent⟩ := h.entry i _ (getElem?_eq_getElem hlt)
  rw [he] at hentry
  have heq := Option.some.inj hentry
  obtain ⟨hpath, hkey⟩ := append_inj' (congrArg Prod.fst heq) rfl
  refine ⟨_, getElem?_eq_getElem hlt, (List.cons.inj hkey).1.symm, (congrArg Prod.snd heq).symm, ?_⟩
  rw [hpath]; exact hparent

theorem Lays.path_ne_nil {nodes : List (Node κ ν)} {es : List (List κ × ν)} (h : Lays nodes es) {i : Nat} {v : ν} : es[i]? ≠ some ([], v) := by
  intro he
  have hlt : i < nodes.length := h.length ▸ (List.getElem?_eq_some_iff.1 he).1
  obtain ⟨path, hentry, -⟩ := h.entry i _ (getElem?_eq_getElem hlt)
  rw [he] at hentry
  exact append_ne_nil_of_right_ne_nil path (cons_ne_nil _ _) (congrArg Prod.fst (Option.some.inj hentry)).symm

/-! ## A reader that goes through the lines once -/

structure Build (κ ν : Type) where
  nodes : List (Node κ ν)
  cursor : List Nat

/-- A line that is not enclosed is passed over; one that the reader cannot read is too, and clears the cursor from its
depth on where `clears` has it so. -/
def lay (clears : Nat → Bool) (s : Build κ ν) (l : Line κ ν) : Build κ ν :=
  if s.cursor.length < l.depth then s
  else
    match l.reads with
    | some e =>
      ⟨s.nodes ++ [⟨l.depth, (s.cursor.take l.depth).getLast?, e.1, e.2⟩], s.cursor.take l.depth ++ [s.nodes.length]⟩
    | none => if clears l.depth then ⟨s.nodes, s.cursor.take l.depth⟩ else s

section Lay

variable {clears : Nat → Bool} {s : Build κ ν} {l : Line κ ν}

theorem lay_of_lt (h : s.cursor.length < l.depth) : lay clears s l = s := if_pos h

theorem lay_some (h : l.depth ≤ s.cursor.length) {e : κ × ν} (hr : l.reads = some e) :
    lay clears s l =
      ⟨s.nodes ++ [⟨l.depth, (s.cursor.take l.depth).getLast?, e.1, e.2⟩], s.cursor.take l.depth ++ [s.nodes.length]⟩ := by
  rw [lay, if_neg (Nat.not_lt.2 h), hr]

theorem lay_none (hr : l.reads = none) (hclears : clears l.depth = false) : lay clears s l = s := by
  rw [lay, hr, hclears]; exact ite_self s

theorem lay_clear (h : l.depth ≤ s.cursor.length) (hr : l.reads = none) (hclears : clears l.depth = true) :
    lay clears s l = ⟨s.nodes, s.cursor.take l.depth⟩ := by
  rw [lay, if_neg (Nat.not_lt.2 h), hr, hclears]; rfl

end Lay

/-- **The reader takes well formed lines only, under the lines that enclose them**: `enclosing` lines enclose the next one
and `cursor` nodes are on the cursor.  A line that has no node to be added to may stand at the depths of `orphan`. -/
def Tidy (clears : Nat → Bool) (orphan : Nat → Prop) (enclosing cursor : Nat) : List (Line κ ν) → Prop
  | [] => True
  | l :: ls =>
    if cursor < l.depth then orphan l.depth ∧ Tidy clears orphan enclosing cursor ls
    else
      match l.reads with
      | some e => l.depth ≤ enclosing ∧ l.entry = some e ∧ Tidy clears orphan (l.depth + 1) (l.depth + 1) ls
      | none => Tidy clears orphan (min enclosing l.depth) (if clears l.depth then l.depth else cursor) ls

instance decidableTidy (clears : Nat → Bool) (orphan : Nat → Prop) [DecidablePred orphan] [DecidableEq κ] [DecidableEq ν] :
    ∀ (enclosing cursor : Nat) (ls : List (Line κ ν)), Decidable (Tidy clears orphan enclosing cursor ls)
  | _, _, [] => .isTrue trivial
  | enclosing, cursor, l :: ls =>
    if hdeep : cursor < l.depth then
      have := decidableTidy clears orphan enclosing cursor ls
      decidable_of_iff (orphan l.depth ∧ Tidy clears orphan enclosing cursor ls) (by rw [Tidy, if_pos hdeep])
    else
      match hr : l.reads with
      | some e =>
        have := decidableTidy clears orphan (l.depth + 1) (l.depth + 1) ls
        decidable_of_iff
          (l.depth ≤ enclosing ∧ l.entry = some e ∧ Tidy clears orphan (l.depth + 1) (l.depth + 1) ls)
          (by rw [Tidy, if_neg hdeep, hr])
      | none =>
        have := decidableTidy clears orphan (min enclosing l.depth) (if clears l.depth then l.depth else cursor) ls
        decidable_of_iff
          (Tidy clears orphan (min enclosing l.depth) (if clears l.depth then l.depth else cursor) ls)
          (by rw [Tidy, if_neg hdeep, hr])

theorem Tidy.tail {clears : Nat → Bool} {orphan : Nat → Prop} {enclosing : Nat} {s : Build κ ν} {l : Line κ ν}
    {ls : List (Line κ ν)} (h : Tidy clears orphan enclosing s.cursor.length (l :: ls)) :
    ∃ enclosing', Tidy clears orphan enclosing' (lay clears s l).cursor.length ls := by
  rw [Tidy] at h
  by_cases hdeep : s.cursor.length < l.depth
  · rw [if_pos hdeep] at h
    rw [lay_of_lt hdeep]; exact ⟨enclosing, h.2⟩
  · rw [if_neg hdeep] at h
    have hle := Nat.le_of_not_lt hdeep
    cases hr : l.reads with
    | some e =>
      rw [hr] at h
      refine ⟨l.depth + 1, ?_⟩
      rw [lay_some hle hr, length_append, length_take, Nat.min_eq_left hle]; exact h.2.2
    | none =>
      rw [hr] at h
      refine ⟨min enclosing l.depth, ?_⟩
      cases hclears : clears l.depth with
      | true =>
        rw [hclears, if_pos rfl] at h
        rw [lay_clear hle hr hclears, length_take, Nat.min_eq_left hle]; exact h
      | false =>
        rw [hclears, if_neg Bool.false_ne_true] at h
        rwa [lay_none hr hclears]

theorem Tidy.orphan {clears : Nat → Bool} {orphan : Nat → Prop} {enclosing cursor : Nat} {l : Line κ ν}
    {ls : List (Line κ ν)} (h : Tidy clears orphan enclosing cursor (l :: ls)) (hdeep : cursor < l.depth) :
    orphan l.depth := by
  rw [Tidy, if_pos hdeep] at h; exact h.1

theorem Tidy.entry {clears : Nat → Bool} {orphan : Nat → Prop} {enclosing cursor : Nat} {l : Line κ ν}
    {ls : List (Line κ ν)} (h : Tidy clears orphan enclosing cursor (l :: ls)) (hdeep : l.depth ≤ cursor) {e : κ × ν}
    (hr : l.reads = some e) : l.entry = some e := by
  rw [Tidy, if_neg (Nat.not_lt.2 hdeep), hr] at h; exact h.2.1

structure Follows (s : Build κ ν) (path : List κ) (es : List (List κ × ν)) : Prop where
  lays : Lays s.nodes es
  length : path.length ≤ s.cursor.length
  node : ∀ m j, m < path.length → s.cursor[m]? = some j → ∃ v, es[j]? = some (path.take (m + 1), v)

theorem follows_nil : Follows (⟨[], []⟩ : Build κ ν) [] [] where
  lays := ⟨rfl, fun i n h => by simp at h⟩
  length := Nat.le_refl 0
  node m j hm := absurd hm (Nat.not_lt_zero m)

theorem Follows.take {s : Build κ ν} {path : List κ} {es : List (List κ × ν)} (h : Follows s path es) {n : Nat}
    {cursor : List Nat} (hcursor : cursor = s.cursor ∨ cursor = s.cursor.take n) :
    Follows ⟨s.nodes, cursor⟩ (path.take n) es where
  lays := h.lays
  length := by
    have := h.length
    rcases hcursor with rfl | rfl
    · simp only [length_take]; omega
    · simp only [length_take]; omega
  node m j hm hj := by
    rw [length_take] at hm
    have hget : s.cursor[m]? = some j := by
      rcases hcursor with rfl | rfl
      · exact hj
      · rwa [getElem?_take_of_lt (by omega)] at hj
    obtain ⟨v, hv⟩ := h.node m j (by omega) hget
    rw [take_take, Nat.min_eq_left (by omega)]; exact ⟨v, hv⟩

theorem Lays.snoc {nodes : List (Node κ ν)} {es : List (List κ × ν)} (h : Lays nodes es) {n : Node κ ν} {path : List κ}
    (htop : n.parent = none → path = [])
    (hbelow : ∀ j, n.parent = some j → j < nodes.length ∧ ∃ v, es[j]? = some (path, v)) :
    Lays (nodes ++ [n]) (es ++ [(path ++ [n.key], n.value)]) where
  length := by rw [length_append, length_append, h.length]; rfl
  entry i m hm := by
    rcases Nat.lt_trichotomy i nodes.length with hlt | rfl | hgt
    · rw [getElem?_append_left hlt] at hm
      obtain ⟨path', hentry, htop', hbelow'⟩ := h.entry i m hm
      refine ⟨path', ?_, htop', fun j hj => ?_⟩
      · rw [getElem?_append_left (h.length ▸ hlt), hentry]
      · obtain ⟨hji, v, hv⟩ := hbelow' j hj
        exact ⟨hji, v, by rw [getElem?_append_left (by have := h.length; omega), hv]⟩
    · rw [getElem?_concat_length] at hm
      cases hm
      refine ⟨path, by rw [h.length, getElem?_concat_length], htop, fun j hj => ?_⟩
      obtain ⟨hji, v, hv⟩ := hbelow j hj
      exact ⟨hji, v, by rw [getElem?_append_left (by have := h.length; omega), hv]⟩
    · rw [getElem?_eq_none (by rw [length_append, length_singleton]; omega)] at hm; cases hm

theorem Follows.add {s : Build κ ν} {path : List κ} {es : List (List κ × ν)} (h : Follows s path es) {d : Nat}
    (hd : d ≤ path.length) (e : κ × ν) :
    Follows ⟨s.nodes ++ [⟨d, (s.cursor.take d).getLast?, e.1, e.2⟩], s.cursor.take d ++ [s.nodes.length]⟩
      (path.take d ++ [e.1]) (es ++ [(path.take d ++ [e.1], e.2)]) where
  lays := by
    have hlen := h.length
    refine h.lays.snoc (fun hnone => ?_) (fun j hj => ?_)
    · have hcursor := getLast?_eq_none_iff.1 hnone
      have := congrArg List.length hcursor
      rw [length_take, length_nil] at this; exact length_eq_zero_iff.1 (by rw [length_take]; omega)
    · have hget : s.cursor[d - 1]? = some j ∧ d ≠ 0 := by
        cases d with
        | zero => simp at hj
        | succ d =>
          rw [getLast?_eq_getElem?, length_take, Nat.min_eq_left (by omega),
            getElem?_take_of_lt (by omega)] at hj
          exact ⟨hj, Nat.succ_ne_zero d⟩
      obtain ⟨v, hv⟩ := h.node (d - 1) j (by omega) hget.1
      rw [Nat.sub_add_cancel (by omega)] at hv
      exact ⟨h.lays.length ▸ (List.getElem?_eq_some_iff.1 hv).1, v, hv⟩
  length := by
    have := h.length
    simp only [length_append, length_take, length_cons, length_nil]; omega
  node m j hm hj := by
    have hlen := h.length
    simp only [length_append, length_take, length_cons, length_nil] at hm
    rcases Nat.lt_or_ge m d with hlt | hge
    · rw [getElem?_append_left (by rw [length_take]; omega), getElem?_take_of_lt hlt] at hj
      obtain ⟨v, hv⟩ := h.node m j (by omega) hj
      refine ⟨v, ?_⟩
      rw [getElem?_append_left (List.getElem?_eq_some_iff.1 hv).1, hv,
        take_append_of_le_length (by rw [length_take]; omega), take_take, Nat.min_eq_left (by omega)]
    · have hmd : m = (s.cursor.take d).length := by rw [length_take]; omega
      rw [hmd, getElem?_concat_length] at hj
      cases hj
      refine ⟨e.2, ?_⟩
      have hall : (path.take d ++ [e.1]).length ≤ m + 1 := by
        simp only [length_append, length_take, length_cons, length_nil]; omega
      rw [h.lays.length, getElem?_concat_length, take_of_length_le hall]

variable {clears : Nat → Bool} {orphan : Nat → Prop}

theorem follows_lay (ls : List (Line κ ν)) : ∀ {s : Build κ ν} {path : List κ} {es : List (List κ × ν)},
    Follows s path es → (∀ l ∈ ls, ∀ e, l.entry = some e → l.reads = some e) →
    Tidy clears orphan path.length s.cursor.length ls → Lays (ls.foldl (lay clears) s).nodes (es ++ entries path ls) := by
  induction ls with
  | nil =>
    intro s path es h _ _
    rw [entries, append_nil]; exact h.lays
  | cons l ls ih =>
    intro s path es h hreads htidy
    have hl := hreads l mem_cons_self
    have hls := fun m hm => hreads m (mem_cons_of_mem l hm)
    have hlen := h.length
    rw [Tidy] at htidy
    rw [foldl_cons, entries, ← append_assoc]
    by_cases hdeep : s.cursor.length < l.depth
    · rw [if_pos hdeep] at htidy
      rw [lay_of_lt hdeep, entryOf, if_pos (by omega), under, if_pos (by omega), append_nil]
      exact ih h hls htidy.2
    · rw [if_neg hdeep] at htidy
      cases hr : l.reads with
      | some e =>
        rw [hr] at htidy
        obtain ⟨hd, he, htidy⟩ := htidy
        have hunder : under path l = path.take l.depth ++ [e.1] := by rw [under, if_neg (by omega), he]
        have hentry : entryOf path l = [(path.take l.depth ++ [e.1], e.2)] := by rw [entryOf, if_neg (by omega), he]
        rw [lay_some (Nat.le_of_not_lt hdeep) hr, hunder, hentry]
        refine ih (h.add hd e) hls ?_
        simp only [length_append, length_take, length_cons, length_nil]
        rw [Nat.min_eq_left hd, Nat.min_eq_left (Nat.le_of_not_lt hdeep)]; exact htidy
      | none =>
        rw [hr] at htidy
        have hnone : l.entry = none := by
          cases he : l.entry with
          | none => rfl
          | some e => rw [hl e he] at hr; cases hr
        have hunder : under path l = path.take l.depth := by
          rw [under, hnone]
          split_ifs with hlt
          · exact (take_of_length_le (Nat.le_of_lt hlt)).symm
          · rfl
        have hentry : entryOf path l = [] := by simp [entryOf, hnone]
        rw [hunder, hentry, append_nil]
        rw [Nat.min_comm, ← length_take] at htidy
        cases hclears : clears l.depth with
        | true =>
          rw [hclears, if_pos rfl] at htidy
          rw [lay_clear (Nat.le_of_not_lt hdeep) hr hclears]
          refine ih (h.take (.inr rfl)) hls ?_
          rwa [length_take (i := l.depth) (l := s.cursor), Nat.min_eq_left (Nat.le_of_not_lt hdeep)]
        | false =>
          rw [hclears, if_neg Bool.false_ne_true] at htidy
          rw [lay_none hr hclears]; exact ih (h.take (.inl rfl)) hls htidy

end Entries

variable {κ ν : Type} [DecidableEq κ]

def first (es : List (List κ × ν)) (path : List κ) : Option Nat := es.findIdx? fun e => decide (e.1 = path)

def named (es : List (List κ × ν)) (path : List κ) : Option ν := (es.find? fun e => decide (e.1 = path)).map Prod.snd

def FirstEnclosed (es : List (List κ × ν)) : Prop :=
  ∀ path k i j v, first es (path ++ [k]) = some i → j < i → es[j]? = some (path, v) → first es path = some j

theorem first_eq_some {es : List (List κ × ν)} {path : List κ} {i : Nat} :
    first es path = some i ↔ (∃ v, es[i]? = some (path, v)) ∧ ∀ j < i, ∀ v, es[j]? ≠ some (path, v) := by
  rw [first, findIdx?_eq_some_iff_getElem]
  constructor
  · rintro ⟨hlt, hpath, hbefore⟩
    refine ⟨⟨es[i].2, List.getElem?_eq_some_iff.2 ⟨hlt, Prod.ext (of_decide_eq_true hpath) rfl⟩⟩, fun j hj v hv => ?_⟩
    obtain ⟨hjlt, hv⟩ := List.getElem?_eq_some_iff.1 hv
    exact hbefore j hj (decide_eq_true (congrArg Prod.fst hv))
  · rintro ⟨⟨v, hv⟩, hbefore⟩
    obtain ⟨hlt, hv⟩ := List.getElem?_eq_some_iff.1 hv
    refine ⟨hlt, decide_eq_true (congrArg Prod.fst hv), fun j hj hpath => hbefore j hj es[j].2 ?_⟩
    exact List.getElem?_eq_some_iff.2 ⟨Nat.lt_trans hj hlt, Prod.ext (of_decide_eq_true hpath) rfl⟩

theorem firstEnclosed_of_nodup {es : List (List κ × ν)} (h : (es.map Prod.fst).Nodup) : FirstEnclosed es := by
  intro path k i j v _ _ hv
  refine first_eq_some.2 ⟨⟨v, hv⟩, fun j' hj' v' hv' => ?_⟩
  have hget : ∀ {m : Nat} {w : ν}, es[m]? = some (path, w) → (es.map Prod.fst)[m]? = some path := fun hm => by
    rw [getElem?_map, hm]; rfl
  obtain ⟨hlt, hp⟩ := List.getElem?_eq_some_iff.1 (hget hv)
  obtain ⟨hlt', hp'⟩ := List.getElem?_eq_some_iff.1 (hget hv')
  exact Nat.ne_of_lt hj' ((List.Nodup.getElem_inj_iff h).1 (hp'.trans hp.symm))

theorem exists_first {es : List (List κ × ν)} {path : List κ} {i : Nat} {v : ν} (h : es[i]? = some (path, v)) :
    ∃ j ≤ i, first es path = some j := by
  obtain ⟨hlt, hi⟩ := List.getElem?_eq_some_iff.1 h
  cases hfirst : first es path with
  | none =>
    have hno := findIdx?_eq_none_iff.1 hfirst es[i] (getElem_mem hlt)
    rw [hi] at hno
    simp at hno
  | some j =>
    exact ⟨j, Nat.le_of_not_lt fun hji => (first_eq_some.1 hfirst).2 i hji v h, rfl⟩

theorem named_eq_first (es : List (List κ × ν)) (path : List κ) :
    named es path = (first es path).bind fun i => es[i]?.map Prod.snd := by
  unfold named first
  induction es with
  | nil => rfl
  | cons e es ih =>
    rw [find?_cons, findIdx?_cons]
    cases decide (e.1 = path) with
    | true => rfl
    | false => simp [ih, Option.bind_map, Function.comp_def]

/-! ## A tree of nodes -/

def child (nodes : List (Node κ ν)) (parent : Option Nat) (k : κ) : Option Nat :=
  nodes.findIdx? fun n => decide (n.parent = parent ∧ n.key = k)

def descend (nodes : List (Node κ ν)) : Option Nat → List κ → Option Nat
  | parent, [] => parent
  | parent, k :: ks => (child nodes parent k).bind fun i => descend nodes (some i) ks

def valuesBelow (nodes : List (Node κ ν)) : Option Nat → List κ → List ν
  | _, [] => []
  | parent, k :: ks =>
    match child nodes parent k with
    | none => []
    | some i => (nodes[i]?.map Node.value).toList ++ valuesBelow nodes (some i) ks

theorem child_eq_some {nodes : List (Node κ ν)} {parent : Option Nat} {k : κ} {i : Nat} :
    child nodes parent k = some i ↔ (∃ n, nodes[i]? = some n ∧ n.parent = parent ∧ n.key = k) ∧
      ∀ j < i, ∀ n, nodes[j]? = some n → ¬ (n.parent = parent ∧ n.key = k) := by
  rw [child, findIdx?_eq_some_iff_getElem]
  constructor
  · rintro ⟨hlt, hn, hbefore⟩
    refine ⟨⟨nodes[i], getElem?_eq_getElem hlt, of_decide_eq_true hn⟩, fun j hj n hget hn => ?_⟩
    obtain ⟨hjlt, rfl⟩ := List.getElem?_eq_some_iff.1 hget
    exact hbefore j hj (decide_eq_true hn)
  · rintro ⟨⟨n, hget, hn⟩, hbefore⟩
    obtain ⟨hlt, rfl⟩ := List.getElem?_eq_some_iff.1 hget
    refine ⟨hlt, decide_eq_true hn, fun j hj hnj => ?_⟩
    exact hbefore j hj _ (getElem?_eq_getElem (Nat.lt_trans hj hlt)) (of_decide_eq_true hnj)

theorem descend_snoc (nodes : List (Node κ ν)) (k : κ) : ∀ {ks : List κ} (parent : Option Nat), ks ≠ [] →
    descend nodes parent (ks ++ [k]) = (descend nodes parent ks).bind fun i => child nodes (some i) k := by
  intro ks
  induction ks with
  | nil => exact fun _ h => absurd rfl h
  | cons k' ks ih =>
    intro parent _
    rw [cons_append, descend, descend, Option.bind_assoc]
    congr 1
    funext i
    cases ks with
    | nil => simp [descend]
    | cons k'' ks => exact ih (some i) (cons_ne_nil k'' ks)

theorem valuesBelow_getElem? (nodes : List (Node κ ν)) : ∀ (ks : List κ) (parent : Option Nat) (m : Nat), m < ks.length →
    (valuesBelow nodes parent ks)[m]? =
      (descend nodes parent (ks.take (m + 1))).bind fun i => nodes[i]?.map Node.value := by
  intro ks
  induction ks with
  | nil => exact fun _ _ h => absurd h (Nat.not_lt_zero _)
  | cons k ks ih =>
    intro parent m hm
    rw [valuesBelow, take_succ_cons, descend]
    cases hchild : child nodes parent k with
    | none => rfl
    | some i =>
      obtain ⟨⟨n, hn, -⟩, -⟩ := child_eq_some.1 hchild
      cases m with
      | zero => simp [hn, descend]
      | succ m => simpa [hn] using ih (some i) m (Nat.lt_of_succ_lt_succ hm)

/-! ## Lookup in the tree of an outline -/

section Lookup

variable {nodes : List (Node κ ν)} {es : List (List κ × ν)}

section
variable (h : Lays nodes es)
include h

theorem Lays.child_none (k : κ) : child nodes none k = first es [k] := by
  have hiff : ∀ i : Nat, (∃ n : Node κ ν, nodes[i]? = some n ∧ n.parent = none ∧ n.key = k) ↔
      ∃ v : ν, es[i]? = some ([k], v) := by
    intro i
    constructor
    · rintro ⟨n, hn, hparent, rfl⟩
      obtain ⟨path, hentry, htop, -⟩ := h.entry i n hn
      rw [htop hparent] at hentry; exact ⟨_, hentry⟩
    · rintro ⟨v, hv⟩
      have hentry : es[i]? = some ([] ++ [k], v) := hv
      obtain ⟨n, hn, hkey, -, -, hbelow⟩ := h.node hentry
      refine ⟨n, hn, ?_, hkey⟩
      cases hparent : n.parent with
      | none => rfl
      | some j =>
        obtain ⟨-, v', hv'⟩ := hbelow j hparent
        exact absurd hv' h.path_ne_nil
  apply Option.ext
  intro i
  rw [child_eq_some, first_eq_some, hiff]
  refine and_congr_right fun _ => forall₂_congr fun j _ => ?_
  constructor
  · intro hno v hv
    obtain ⟨n, hn, hkey⟩ := (hiff j).2 ⟨v, hv⟩
    exact hno n hn hkey
  · intro hno n hn hkey
    obtain ⟨v, hv⟩ := (hiff j).1 ⟨n, hn, hkey⟩
    exact hno v hv

theorem Lays.parent_of_first (hfirst : FirstEnclosed es) {path : List κ} (hpath : path ≠ []) {k : κ} {i : Nat}
    (hi : first es (path ++ [k]) = some i) :
    ∃ n j, nodes[i]? = some n ∧ n.parent = some j ∧ n.key = k ∧ first es path = some j := by
  obtain ⟨⟨v, hv⟩, -⟩ := first_eq_some.1 hi
  obtain ⟨n, hn, hkey, -, htop, hbelow⟩ := h.node hv
  cases hparent : n.parent with
  | none => exact absurd (htop hparent) hpath
  | some j =>
    obtain ⟨hji, v', hv'⟩ := hbelow j hparent
    exact ⟨n, j, hn, hparent, hkey, hfirst path k i j v' hi hji hv'⟩

theorem Lays.child_some (hfirst : FirstEnclosed es) {path : List κ} (hpath : path ≠ []) (k : κ) :
    ((first es path).bind fun j => child nodes (some j) k) = first es (path ++ [k]) := by
  have hentry : ∀ {i j : Nat} {n : Node κ ν}, nodes[i]? = some n → n.parent = some j → n.key = k →
      first es path = some j → ∃ v, es[i]? = some (path ++ [k], v) := by
    intro i j n hn hparent hkey hj
    obtain ⟨path', hentry, -, hbelow⟩ := h.entry i n hn
    obtain ⟨-, v', hv'⟩ := hbelow j hparent
    obtain ⟨⟨v, hv⟩, -⟩ := first_eq_some.1 hj
    rw [hv] at hv'
    have hpaths : path = path' := congrArg Prod.fst (Option.some.inj hv')
    rw [← hpaths, hkey] at hentry; exact ⟨_, hentry⟩
  apply Option.ext
  intro i
  rw [Option.bind_eq_some_iff]
  constructor
  · rintro ⟨j, hj, hchild⟩
    obtain ⟨⟨n, hn, hparent, hkey⟩, hbefore⟩ := child_eq_some.1 hchild
    obtain ⟨v, hv⟩ := hentry hn hparent hkey hj
    obtain ⟨i₀, hle, hi₀⟩ := exists_first hv
    obtain ⟨n₀, j₀, hn₀, hparent₀, hkey₀, hj₀⟩ := h.parent_of_first hfirst hpath hi₀
    rw [hj] at hj₀
    cases hj₀
    rcases Nat.lt_or_eq_of_le hle with hlt | rfl
    · exact absurd ⟨hparent₀, hkey₀⟩ (hbefore i₀ hlt n₀ hn₀)
    · exact hi₀
  · intro hi
    obtain ⟨n, j, hn, hparent, hkey, hj⟩ := h.parent_of_first hfirst hpath hi
    refine ⟨j, hj, child_eq_some.2 ⟨⟨n, hn, hparent, hkey⟩, fun i' hlt n' hn' hsame => ?_⟩⟩
    obtain ⟨v, hv⟩ := hentry hn' hsame.1 hsame.2 hj
    exact (first_eq_some.1 hi).2 i' hlt v hv

theorem Lays.descend_eq (hfirst : FirstEnclosed es) {path : List κ} (hpath : path ≠ []) :
    descend nodes none path = first es path := by
  induction path using List.reverseRecOn with
  | nil => exact absurd rfl hpath
  | append_singleton path k ih =>
    rcases eq_or_ne path [] with rfl | hne
    · rw [nil_append, descend, ← h.child_none]; exact Option.bind_fun_some _
    · rw [descend_snoc nodes k none hne, ih hne, h.child_some hfirst hne]

/-- **What is found at each level on the way down is what the outline has for that much of the path.** -/
theorem Lays.valuesBelow_eq (hfirst : FirstEnclosed es) {path : List κ} {m : Nat} (hm : m < path.length) :
    (valuesBelow nodes none path)[m]? = named es (path.take (m + 1)) := by
  have hne : path.take (m + 1) ≠ [] := by
    intro hnil
    rcases take_eq_nil_iff.1 hnil with hzero | rfl
    · exact Nat.succ_ne_zero m hzero
    · exact Nat.not_lt_zero m hm
  rw [valuesBelow_getElem? nodes path none m hm, h.descend_eq hfirst hne, named_eq_first]
  cases hi : first es (path.take (m + 1)) with
  | none => rfl
  | some i =>
    obtain ⟨⟨v, hv⟩, -⟩ := first_eq_some.1 hi
    obtain ⟨n, hn⟩ : ∃ n, nodes[i]? = some n :=
      ⟨_, getElem?_eq_getElem (h.length ▸ (List.getElem?_eq_some_iff.1 hv).1)⟩
    obtain ⟨path', hentry, -⟩ := h.entry i n hn
    simp [hn, hentry]

end

end Lookup

end Kit.Outline
