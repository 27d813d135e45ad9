import Mathlib.Data.List.TakeWhile
import Mathlib.Tactic.Common
/-!
# Pattern — an anchored regular expression without alternatives

A pattern is a row of `Repeat`s: characters of one class, at least so many and at most so many of them.
-/
namespace Kit

open List

structure Repeat (α : Type) where
  accepts : α → Bool
  least : Nat
  most : Option Nat

namespace Repeat

variable {α : Type}

def once (accepts : α → Bool) : Repeat α := ⟨accepts, 1, some 1⟩

def exactly (n : Nat) (accepts : α → Bool) : Repeat α := ⟨accepts, n, some n⟩

def upTo (n : Nat) (accepts : α → Bool) : Repeat α := ⟨accepts, 0, some n⟩

def star (accepts : α → Bool) : Repeat α := ⟨accepts, 0, none⟩

structure Takes (r : Repeat α) (piece : List α) : Prop where
  accepts : ∀ a ∈ piece, r.accepts a = true
  least : r.least ≤ piece.length
  most : ∀ m ∈ r.most, piece.length ≤ m

def longest (r : Repeat α) (s : List α) : Nat :=
  r.most.elim (s.takeWhile r.accepts).length fun m => min m (s.takeWhile r.accepts).length

theorem longest_le (r : Repeat α) (s : List α) : r.longest s ≤ (s.takeWhile r.accepts).length := by
  unfold longest
  cases r.most with
  | none => exact Nat.le_refl _
  | some m => exact Nat.min_le_right _ _

theorem Takes.le_longest {r : Repeat α} {piece : List α} (h : r.Takes piece) (s : List α) :
    piece.length ≤ r.longest (piece ++ s) := by
  have hrun : piece.length ≤ ((piece ++ s).takeWhile r.accepts).length := by
    rw [takeWhile_append_of_pos h.accepts, length_append]; exact Nat.le_add_right _ _
  unfold longest
  cases hmost : r.most with
  | none => exact hrun
  | some m => exact Nat.le_min.2 ⟨h.most m hmost, hrun⟩

theorem takes_take {r : Repeat α} {s : List α} {k : Nat} (hleast : r.least ≤ k) (hk : k ≤ r.longest s) :
    r.Takes (s.take k) := by
  have hrun := Nat.le_trans hk (r.longest_le s)
  have hlen : (s.take k).length = k :=
    length_take_of_le (Nat.le_trans hrun ( takeWhile_prefix r.accepts).length_le)
  refine ⟨fun a ha => ?_, hlen.symm ▸ hleast, fun m hm => ?_⟩
  · have hpre : s.take k <+: s.takeWhile r.accepts := by
      refine prefix_of_prefix_length_le ( take_prefix k s) ( takeWhile_prefix r.accepts) ?_
      rw [hlen]; exact hrun
    exact mem_takeWhile_imp (hpre.subset ha)
  · rw [hlen]
    unfold longest at hk
    rw [hm] at hk; exact Nat.le_trans hk (Nat.min_le_left _ _)

end Repeat

variable {α : Type}

theorem takes_once {accepts : α → Bool} {piece : List α} :
    (Repeat.once accepts).Takes piece ↔ ∃ a, piece = [a] ∧ accepts a = true := by
  constructor
  · intro h
    obtain ⟨a, rfl⟩ := length_eq_one_iff.1 (Nat.le_antisymm (h.most 1 rfl) h.least)
    exact ⟨a, rfl, h.accepts a mem_cons_self⟩
  · rintro ⟨a, rfl, ha⟩
    refine ⟨?_, Nat.le_refl 1, ?_⟩
    · rintro b (_ | ⟨_, hb⟩)
      · exact ha
      · cases hb
    · rintro m hm
      cases hm; exact Nat.le_refl 1

/-- **A way to cut the text by the pattern.** -/
inductive Matches : List (Repeat α) → List α → List (List α) → Prop where
  | nil : Matches [] [] []
  | cons {r : Repeat α} {rs : List (Repeat α)} {piece s : List α} {pieces : List (List α)} : r.Takes piece →
      Matches rs s pieces → Matches (r :: rs) (piece ++ s) (piece :: pieces)

def searchDown {β : Type} (search : Nat → Option β) (least : Nat) : Nat → Option β
  | 0 => if least = 0 then search 0 else none
  | k + 1 => if least ≤ k + 1 then (search (k + 1)).or (searchDown search least k) else none

def firstMatch : List (Repeat α) → List α → Option (List (List α))
  | [], s => if s.isEmpty then some [] else none
  | r :: rs, s => searchDown (fun k => (firstMatch rs (s.drop k)).map (s.take k :: ·)) r.least (r.longest s)

theorem searchDown_eq_some {β : Type} {search : Nat → Option β} {least : Nat} {b : β} : ∀ {k : Nat},
    searchDown search least k = some b → ∃ n, least ≤ n ∧ n ≤ k ∧ search n = some b
  | 0, h => by
    unfold searchDown at h
    split at h
    · rename_i hleast; exact ⟨0, Nat.le_of_eq hleast, Nat.le_refl 0, h⟩
    · cases h
  | k + 1, h => by
    unfold searchDown at h
    split at h
    · rename_i hleast
      rcases Option.or_eq_some_iff.1 h with h | ⟨-, h⟩
      · exact ⟨k + 1, hleast, Nat.le_refl _, h⟩
      · obtain ⟨n, hn, hle, hsearch⟩ := searchDown_eq_some h
        exact ⟨n, hn, Nat.le_succ_of_le hle, hsearch⟩
    · cases h

theorem searchDown_isSome {β : Type} {search : Nat → Option β} {least n : Nat} (hleast : least ≤ n)
    (hsearch : (search n).isSome = true) : ∀ {k : Nat}, n ≤ k → (searchDown search least k).isSome = true
  | 0, hk => by
    obtain rfl := Nat.le_zero.1 hk
    rw [searchDown, if_pos (Nat.le_zero.1 hleast)]; exact hsearch
  | k + 1, hk => by
    rw [searchDown, if_pos (Nat.le_trans hleast hk), Option.isSome_or, Bool.or_eq_true]
    rcases Nat.lt_or_ge k n with hlt | hle
    · obtain rfl : n = k + 1 := Nat.le_antisymm hk hlt
      exact .inl hsearch
    · exact .inr (searchDown_isSome hleast hsearch hle)

theorem matches_of_firstMatch : ∀ {rs : List (Repeat α)} {s : List α} {pieces : List (List α)},
    firstMatch rs s = some pieces → Matches rs s pieces
  | [], s, pieces, h => by
    unfold firstMatch at h
    split at h
    · rename_i hs
      cases h
      obtain rfl := List.isEmpty_iff.1 hs
      exact .nil
    · cases h
  | r :: rs, s, pieces, h => by
    obtain ⟨k, hleast, hk, hsearch⟩ := searchDown_eq_some h
    obtain ⟨rest, hrest, rfl⟩ := Option.map_eq_some_iff.1 hsearch
    have hcons := Matches.cons (Repeat.takes_take hleast hk) (matches_of_firstMatch hrest)
    rwa [take_append_drop] at hcons

theorem Matches.firstMatch_isSome {rs : List (Repeat α)} {s : List α} {pieces : List (List α)}
    (h : Matches rs s pieces) : (firstMatch rs s).isSome = true := by
  induction h with
  | nil => rfl
  | @cons r rs piece s pieces htakes _ ih =>
    refine searchDown_isSome htakes.least ?_ (htakes.le_longest s)
    rw [Option.isSome_map, drop_left]; exact ih

/-! ## A pattern that need not reach the end -/

theorem searchDown_greatest {β : Type} {search : Nat → Option β} {b : β} : ∀ {k : Nat},
    searchDown search 0 k = some b → ∃ n, n ≤ k ∧ search n = some b ∧ ∀ m, n < m → m ≤ k → search m = none
  | 0, h => by exact ⟨0, Nat.le_refl 0, h, fun m hlt hle => absurd hlt (Nat.not_lt.2 hle)⟩
  | k + 1, h => by
    rcases Option.or_eq_some_iff.1 h with h | ⟨hnone, h⟩
    · exact ⟨k + 1, Nat.le_refl _, h, fun m hlt hle => absurd hlt (Nat.not_lt.2 hle)⟩
    · obtain ⟨n, hn, hsearch, hgreatest⟩ := searchDown_greatest h
      refine ⟨n, Nat.le_succ_of_le hn, hsearch, fun m hlt hle => ?_⟩
      rcases Nat.lt_or_eq_of_le hle with hle | rfl
      · exact hgreatest m hlt (Nat.le_of_lt_succ hle)
      · exact hnone

def longestMatch (rs : List (Repeat α)) (s : List α) : Option (List (List α)) :=
  searchDown (fun n => firstMatch rs (s.take n)) 0 s.length

theorem longestMatch_eq_some {rs : List (Repeat α)} {s : List α} {pieces : List (List α)}
    (h : longestMatch rs s = some pieces) : ∃ front rest, s = front ++ rest ∧ Matches rs front pieces ∧
      ∀ front' rest' pieces', s = front' ++ rest' → Matches rs front' pieces' → front'.length ≤ front.length := by
  obtain ⟨n, hn, hsearch, hgreatest⟩ := searchDown_greatest h
  refine ⟨s.take n, s.drop n, (take_append_drop n s).symm, matches_of_firstMatch hsearch, ?_⟩
  rintro front rest pieces' rfl hmatch
  rw [length_take_of_le hn]
  by_contra hlt
  have hnone := hgreatest front.length (Nat.not_le.1 hlt) (by rw [length_append]; exact Nat.le_add_right _ _)
  have hsome := hmatch.firstMatch_isSome
  rw [take_left] at hnone
  rw [hnone] at hsome; cases hsome

theorem Matches.longestMatch_isSome {rs : List (Repeat α)} {front : List α} {pieces : List (List α)}
    (h : Matches rs front pieces) (rest : List α) : (longestMatch rs (front ++ rest)).isSome = true := by
  refine searchDown_isSome (Nat.zero_le front.length) ?_ (by rw [length_append]; exact Nat.le_add_right _ _)
  rw [take_left]; exact h.firstMatch_isSome

end Kit
