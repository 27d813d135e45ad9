import Mathlib.Data.List.Basic
import Mathlib.Tactic.Common
/-!
# Segments — a value sent as consecutive pieces

A segment is an offset and a payload.  Segments are consecutive from a start when each begins where the payloads before
it end; a value is sent when consecutive nonempty segments carry it and one empty segment at its length closes them.
-/
namespace Kit

open List

variable {α : Type}

def Consecutive : Nat → List (Nat × List α) → Prop
  | _, [] => True
  | start, seg :: segs => seg.1 = start ∧ Consecutive (start + seg.2.length) segs

def payloads (segs : List (Nat × List α)) : List α := segs.flatMap Prod.snd

/-- **The segments send the value**, from offset `start` on, and say once at the end that it is complete. -/
structure Sends (start : Nat) (value : List α) (segs : List (Nat × List α)) : Prop where
  consecutive : Consecutive start segs
  payloads : payloads segs = value
  closed : ∃ front, segs = front ++ [(start + value.length, [])] ∧ ∀ s ∈ front, s.2 ≠ []

theorem Sends.nil (start : Nat) : Sends start ([] : List α) [(start, [])] where
  consecutive := ⟨rfl, trivial⟩
  payloads := rfl
  closed := ⟨[], rfl, fun s hs => by cases hs⟩

theorem Sends.cons {start : Nat} {p value : List α} {segs : List (Nat × List α)} (hp : p ≠ [])
    (h : Sends (start + p.length) value segs) : Sends start (p ++ value) ((start, p) :: segs) where
  consecutive := ⟨rfl, h.consecutive⟩
  payloads := by rw [← h.payloads]; rfl
  closed := by
    obtain ⟨front, rfl, hf⟩ := h.closed
    refine ⟨(start, p) :: front, ?_, ?_⟩
    · rw [length_append, Nat.add_assoc]; rfl
    · intro s hs
      rcases mem_cons.1 hs with rfl | hs
      · exact hp
      · exact hf s hs

theorem Consecutive.offset_le : ∀ {start : Nat} {segs : List (Nat × List α)}, Consecutive start segs →
    ∀ s ∈ segs, s.1 ≤ start + (Kit.payloads segs).length
  | _, [], _, s, hs => by cases hs
  | start, seg :: segs, h, s, hs => by
    have hlen : (Kit.payloads (seg :: segs)).length = seg.2.length + (Kit.payloads segs).length := by
      simp [Kit.payloads]
    rcases mem_cons.1 hs with rfl | hs
    · rw [h.1]; omega
    · have := h.2.offset_le s hs
      omega

theorem Sends.offset_le {start : Nat} {value : List α} {segs : List (Nat × List α)} (h : Sends start value segs) :
    ∀ s ∈ segs, s.1 ≤ start + value.length := by
  have := h.consecutive.offset_le
  rwa [h.payloads] at this

theorem Sends.last_mem {start : Nat} {value : List α} {segs : List (Nat × List α)} (h : Sends start value segs) :
    segs.getLast? = some (start + value.length, []) := by
  obtain ⟨front, rfl, -⟩ := h.closed
  exact getLast?_concat

end Kit
