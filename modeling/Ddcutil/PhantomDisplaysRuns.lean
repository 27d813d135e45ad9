import Mathlib.Logic.Relation
import Ddcutil.PhantomDisplays
/-!
# PhantomDisplaysRuns — what the phantom filter leaves, for all lists of references

The tests read nothing that a mark changes, so that both passes are determined by the references at the start
(`filterPhantomDisplays_eq_ok`).
-/
namespace Ddc

open Kit List

variable (attrs : Nat → Nat → ConnectorAttrs) (busName : Nat → Option String)

def onMst (dref : DetectedRef) : Bool := dref.businfo.any fun busno => decide (busName busno = some "DPMST")

def isValidMst (dref : DetectedRef) : Bool := isValidI2c dref && onMst busName dref

def isValidNonMst (dref : DetectedRef) : Bool := isValidI2c dref && !onMst busName dref

/-- The first pass finds the `i`-th, which does not work, to be a phantom of the `j`-th. -/
def InvalidPhantomOf (drefs : List DetectedRef) (i j : Nat) : Prop :=
  ∃ di dj, drefs[i]? = some di ∧ drefs[j]? = some dj ∧ isInvalidI2c di = true ∧ isValidI2c dj = true ∧
    isPhantomDisplay (attrs i j) di dj = .ok true

/-- The second pass finds the `i`-th, which is not on a DPMST bus, to be a phantom of the `j`-th: their EDIDs are equal,
and no two displays that are not on a DPMST bus have equal EDIDs. -/
def NonMstPhantomOf (drefs : List DetectedRef) (i j : Nat) : Prop :=
  (∃ di dj, drefs[i]? = some di ∧ drefs[j]? = some dj ∧ isValidNonMst busName di = true ∧ isValidMst busName dj = true ∧
    drefsEdidEqual dj di = true) ∧ hasDuplicateEdids (drefs.filter (isValidNonMst busName)) = false

def FoundSame (drefs : List DetectedRef) (i j : Nat) : Prop :=
  InvalidPhantomOf attrs drefs i j ∨ NonMstPhantomOf busName drefs i j

def IdsMatch (dref1 dref2 : DetectedRef) : Prop :=
  ∃ e1 e2, dref1.pedid = some e1 ∧ dref2.pedid = some e2 ∧ edidIdsMatch e1.edid e2.edid = true

/-- **What the filter promises** of the references before and after it and of its result. -/
structure PhantomsRight (before after : List DetectedRef) (phantomDisplaysFound : Bool) : Prop where
  actual : ∀ (i : Nat) dref, after[i]? = some dref → dref.dispno = dispnoPhantom → ∃ j actual, dref.actualDisplay = some j ∧
    after[j]? = some actual ∧ IdsMatch dref actual ∧ 0 < actual.dispno ∧ actual.dispno ≠ dispnoPhantom
  working : ∀ i j, FoundSame attrs busName before i j → ∃ m b a, Relation.EqvGen (FoundSame attrs busName before) i m ∧
    before[m]? = some b ∧ after[m]? = some a ∧ 0 < b.dispno ∧ a.dispno = b.dispno
  unmarked : ∀ (i : Nat) b a, before[i]? = some b → after[i]? = some a → a.dispno ≠ dispnoPhantom → a.dispno = b.dispno
  result : phantomDisplaysFound = true ↔ ∃ dref ∈ after, dref.dispno = dispnoPhantom

/-! ## The tests -/

theorem fetch_modify {α : Type} (l : List α) (i k : Nat) (f : α → α) :
    fetch (l.modify i f) k = (do
      let a ← fetch l k
      .ok (if i = k then f a else a)) := by
  unfold fetch
  rw [getElem?_modify]
  cases l[k]? with
  | none | some a => rfl

section
variable (drefs : List DetectedRef) (i actual : Nat) (p : Nat × Nat)

theorem invalidTest_modify :
    invalidTest attrs (drefs.modify i (DetectedRef.setPhantom actual)) p = invalidTest attrs drefs p := by
  unfold invalidTest
  rw [fetch_modify, fetch_modify]
  cases fetch drefs p.1 with
  | error e => rfl
  | ok di =>
    cases fetch drefs p.2 with
    | error e => rfl
    | ok dj =>
      split <;> split <;> rfl

theorem nonMstTest_modify : nonMstTest (drefs.modify i (DetectedRef.setPhantom actual)) p = nonMstTest drefs p := by
  unfold nonMstTest
  rw [fetch_modify, fetch_modify]
  cases fetch drefs p.1 with
  | error e => rfl
  | ok di =>
    cases fetch drefs p.2 with
    | error e => rfl
    | ok dj =>
      split <;> split <;> rfl

end

variable {drefs : List DetectedRef} {i j : Nat} {di dj : DetectedRef}

theorem invalidTest_eq (hi : drefs[i]? = some di) (hj : drefs[j]? = some dj) :
    invalidTest attrs drefs (i, j) = isPhantomDisplay (attrs i j) di dj := by
  rw [invalidTest, fetch_eq_ok.2 hi, fetch_eq_ok.2 hj]; rfl

theorem nonMstTest_eq (hi : drefs[i]? = some di) (hj : drefs[j]? = some dj) :
    nonMstTest drefs (i, j) = .ok (drefsEdidEqual dj di) := by
  rw [nonMstTest, fetch_eq_ok.2 hi, fetch_eq_ok.2 hj]; rfl

theorem isPhantomDisplay_returns {a : ConnectorAttrs} :
    (∃ found, isPhantomDisplay a di dj = .ok found) ↔ di.pedid ≠ none ∧ dj.pedid ≠ none := by
  unfold isPhantomDisplay
  cases di.pedid with
  | none => simp
  | some e1 =>
    cases dj.pedid with
    | none | some e2 => simp

theorem idsMatch_of_isPhantomDisplay {a : ConnectorAttrs} (h : isPhantomDisplay a di dj = .ok true) :
    IdsMatch di dj := by
  unfold isPhantomDisplay at h
  split at h
  · rename_i e1 e2 h1 h2
    have hids := (Bool.and_eq_true_iff.1 (Except.ok.inj h)).1
    exact ⟨e1, e2, h1, h2, hids⟩
  · cases h

theorem idsMatch_of_edidEqual (h : drefsEdidEqual dj di = true) : IdsMatch di dj := by
  unfold drefsEdidEqual at h
  split at h
  · rename_i e1 e2 h1 h2
    have hbytes : e1.edid.bytes = e2.edid.bytes := by
      cases hb1 : e1.edid.bytes
      cases hb2 : e2.edid.bytes
      simpa [hb1, hb2] using h
    have hedid := DetectedEdid.eq_of_bytes hbytes
    refine ⟨e2, e1, h2, h1, ?_⟩
    rw [hedid]; exact decide_eq_true ⟨rfl, rfl, rfl, rfl, rfl⟩
  · cases h

/-! ## The lists of indices -/

theorem mem_indicesOf {p : DetectedRef → Bool} :
    i ∈ indicesOf p drefs ↔ ∃ dref, drefs[i]? = some dref ∧ p dref = true := by
  rw [indicesOf, mem_filter, mem_range]
  constructor
  · rintro ⟨hi, hp⟩
    rw [getElem?_eq_getElem hi] at hp ⊢; exact ⟨_, rfl, hp⟩
  · rintro ⟨dref, hdref, hp⟩
    refine ⟨(List.getElem?_eq_some_iff.1 hdref).1, ?_⟩
    rw [hdref]; exact hp

section
variable (p : DetectedRef → Bool) (drefs : List DetectedRef)

theorem indicesOf_sorted : (indicesOf p drefs).Pairwise (· < ·) :=
  pairwise_lt_range.filter _

theorem indicesOf_concat (dref : DetectedRef) :
    indicesOf p (drefs ++ [dref]) = indicesOf p drefs ++ if p dref = true then [drefs.length] else [] := by
  rw [indicesOf, length_append, length_singleton, range_succ, filter_append]
  congr 1
  · refine filter_congr fun i hi => ?_
    rw [getElem?_append_left (mem_range.1 hi)]
  · rw [filter_singleton, getElem?_concat_length, Option.any_some]
    cases p dref <;> rfl

theorem filterMap_indicesOf : (indicesOf p drefs).filterMap (drefs[·]?) = drefs.filter p := by
  induction drefs using List.reverseRecOn with
  | nil => rfl
  | append_singleton drefs dref ih =>
    rw [indicesOf_concat, filterMap_append, filter_append, filter_singleton]
    congr 1
    · rw [← ih]
      refine filterMap_congr fun i hi => ?_
      obtain ⟨d, hd, -⟩ := mem_indicesOf.1 hi
      exact getElem?_append_left (List.getElem?_eq_some_iff.1 hd).1
    · cases p dref with
      | false => rfl
      | true =>
        change [drefs.length].filterMap _ = [dref]
        rw [filterMap_cons, getElem?_concat_length]; rfl

end

theorem indicesOf_filter (p q : DetectedRef → Bool) (drefs : List DetectedRef) :
    (indicesOf p drefs).filter (fun i => drefs[i]?.any q) = indicesOf (fun dref => p dref && q dref) drefs := by
  rw [indicesOf, filter_filter]
  refine filter_congr fun i _ => ?_
  cases drefs[i]? with
  | none => rfl
  | some dref => exact Bool.and_comm ..

theorem indicesOf_ne_nil {p : DetectedRef → Bool} : indicesOf p drefs ≠ [] ↔ ∃ dref ∈ drefs, p dref = true := by
  constructor
  · intro h
    obtain ⟨i, hi⟩ := exists_mem_of_ne_nil _ h
    obtain ⟨dref, hdref, hp⟩ := mem_indicesOf.1 hi
    exact ⟨dref, mem_of_getElem? hdref, hp⟩
  · rintro ⟨dref, hmem, hp⟩
    obtain ⟨i, hi⟩ := getElem?_of_mem hmem
    exact ne_nil_of_mem (mem_indicesOf.2 ⟨dref, hi, hp⟩)

/-! ## The split by the name of the bus -/

theorem splitMst_congr {drefs' : List DetectedRef} {ndxs : List Nat} (h : ∀ i ∈ ndxs, drefs'[i]? = drefs[i]?) :
    splitMst busName drefs' ndxs = splitMst busName drefs ndxs := by
  induction ndxs with
  | nil => rfl
  | cons ndx ndxs ih =>
    have hfetch : fetch drefs' ndx = fetch drefs ndx := by
      unfold fetch
      rw [h ndx mem_cons_self]
    rw [splitMst, splitMst, hfetch, ih fun i hi => h i (mem_cons_of_mem _ hi)]

theorem splitMst_eq_ok {ndxs : List Nat} {mst nonMst : List Nat} :
    splitMst busName drefs ndxs = .ok (mst, nonMst) ↔
      (∀ i ∈ ndxs, ∃ dref, drefs[i]? = some dref ∧ dref.businfo ≠ none) ∧
        mst = ndxs.filter (fun i => drefs[i]?.any (onMst busName)) ∧
        nonMst = ndxs.filter (fun i => drefs[i]?.any fun dref => !onMst busName dref) := by
  induction ndxs generalizing mst nonMst with
  | nil => simp [splitMst, eq_comm]
  | cons ndx ndxs ih =>
    rw [splitMst]
    simp only [Exec.bind_eq_ok, fetch_eq_ok]
    constructor
    · rintro ⟨dref, hdref, busno, hbusno, ⟨m, n⟩, hrest, heq⟩
      obtain ⟨hall, rfl, rfl⟩ := ih.1 hrest
      have hbus : dref.businfo = some busno := by
        unfold DetectedRef.detailBusno at hbusno
        split at hbusno
        · rename_i h
          rw [h, Except.ok.inj hbusno]
        · cases hbusno
      refine ⟨fun i hi => ?_, ?_⟩
      · rcases mem_cons.1 hi with rfl | hi
        · exact ⟨dref, hdref, hbus ▸ Option.some_ne_none busno⟩
        · exact hall i hi
      · by_cases hmst : busName busno = some "DPMST"
        · rw [if_pos hmst] at heq
          cases heq
          simp [hdref, onMst, hbus, hmst]
        · rw [if_neg hmst] at heq
          cases heq
          simp [hdref, onMst, hbus, hmst]
    · rintro ⟨hall, rfl, rfl⟩
      obtain ⟨dref, hdref, hbus⟩ := hall ndx mem_cons_self
      obtain ⟨busno, hbus⟩ := Option.ne_none_iff_exists'.1 hbus
      refine ⟨dref, hdref, busno, by simp [DetectedRef.detailBusno, hbus], _,
        ih.2 ⟨fun i hi => hall i (mem_cons_of_mem _ hi), rfl, rfl⟩, ?_⟩
      by_cases hmst : busName busno = some "DPMST"
      · simp [hdref, onMst, hbus, hmst]
      · simp [hdref, onMst, hbus, hmst]

/-! ## What the filter computes -/

structure PointersSet (drefs : List DetectedRef) : Prop where
  detail : ∀ dref ∈ drefs, isValidI2c dref = true → dref.businfo ≠ none
  pedid : (∃ dref ∈ drefs, isInvalidI2c dref = true) → (∃ dref ∈ drefs, isValidI2c dref = true) →
    ∀ dref ∈ drefs, isI2c dref.ioPath = true → dref.pedid ≠ none

def invalidMarks (drefs : List DetectedRef) : List (Nat × Nat) :=
  (allPairs (indicesOf isInvalidI2c drefs) (indicesOf isValidI2c drefs)).filter fun p => holds (invalidTest attrs drefs p)

def nonMstMarks (drefs : List DetectedRef) : List (Nat × Nat) :=
  if hasDuplicateEdids (drefs.filter (isValidNonMst busName)) = false then
    (nonMstPairs (indicesOf (isValidMst busName) drefs) (indicesOf (isValidNonMst busName) drefs)).filter fun p =>
      holds (nonMstTest drefs p)
  else []

theorem holds_eq_true {x : Exec Bool} : holds x = true ↔ x = .ok true := by
  cases x with
  | error e | ok b => simp [holds]

theorem mem_invalidMarks : (i, j) ∈ invalidMarks attrs drefs ↔ InvalidPhantomOf attrs drefs i j := by
  rw [invalidMarks, InvalidPhantomOf, mem_filter, mem_allPairs, mem_indicesOf, mem_indicesOf, holds_eq_true]
  constructor
  · rintro ⟨⟨⟨di, hdi, hinvalid⟩, dj, hdj, hvalid⟩, htest⟩
    exact ⟨di, dj, hdi, hdj, hinvalid, hvalid, (invalidTest_eq attrs hdi hdj).symm.trans htest⟩
  · rintro ⟨di, dj, hdi, hdj, hinvalid, hvalid, htest⟩
    exact ⟨⟨⟨di, hdi, hinvalid⟩, dj, hdj, hvalid⟩, (invalidTest_eq attrs hdi hdj).trans htest⟩

theorem mem_nonMstPairs {mst nonMst : List Nat} : (i, j) ∈ nonMstPairs mst nonMst ↔ i ∈ nonMst ∧ j ∈ mst := by
  rw [nonMstPairs, mem_map]
  constructor
  · rintro ⟨p, hp, heq⟩
    cases heq; exact (mem_allPairs.1 hp).symm
  · rintro ⟨hi, hj⟩
    exact ⟨(j, i), mem_allPairs.2 ⟨hj, hi⟩, rfl⟩

theorem mem_nonMstMarks : (i, j) ∈ nonMstMarks busName drefs ↔ NonMstPhantomOf busName drefs i j := by
  unfold nonMstMarks NonMstPhantomOf
  by_cases hdup : hasDuplicateEdids (drefs.filter (isValidNonMst busName)) = false
  · rw [if_pos hdup, mem_filter, mem_nonMstPairs, mem_indicesOf, mem_indicesOf, holds_eq_true]
    constructor
    · rintro ⟨⟨⟨di, hdi, hnon⟩, dj, hdj, hmst⟩, htest⟩
      rw [nonMstTest_eq hdi hdj] at htest
      exact ⟨⟨di, dj, hdi, hdj, hnon, hmst, Except.ok.inj htest⟩, hdup⟩
    · rintro ⟨⟨di, dj, hdi, hdj, hnon, hmst, htest⟩, -⟩
      refine ⟨⟨⟨di, hdi, hnon⟩, dj, hdj, hmst⟩, ?_⟩
      rw [nonMstTest_eq hdi hdj, htest]
  · rw [if_neg hdup]; exact ⟨fun h => absurd h not_mem_nil, fun h => absurd h.2 hdup⟩

theorem invalidMarks_sorted (drefs : List DetectedRef) :
    (invalidMarks attrs drefs).Pairwise fun p q => p.1 = q.1 → p.2 < q.2 :=
  (pairwise_allPairs ((indicesOf_sorted _ drefs).imp fun h => Nat.ne_of_lt h) (indicesOf_sorted _ drefs)).filter _

theorem markInvalidDisplays_eq_ok {drefs' : List DetectedRef} :
    markInvalidDisplays attrs (indicesOf isInvalidI2c drefs) (indicesOf isValidI2c drefs) drefs = .ok drefs' ↔
    ((∃ dref ∈ drefs, isInvalidI2c dref = true) → (∃ dref ∈ drefs, isValidI2c dref = true) →
      ∀ dref ∈ drefs, isI2c dref.ioPath = true → dref.pedid ≠ none) ∧
      drefs' = marked DetectedRef.setPhantom (invalidMarks attrs drefs) drefs := by
  unfold markInvalidDisplays
  split
  · rename_i hboth
    rw [markPass_eq_ok (invalidTest_modify attrs)]
    refine and_congr_left fun _ => ?_
    constructor
    · intro htests hinvalid hvalid dref hdref hi2c
      obtain ⟨k, hk⟩ := getElem?_of_mem hdref
      by_cases hneg : dref.dispno < 0
      · -- it is compared with a display that works
        obtain ⟨j, hj⟩ := exists_mem_of_ne_nil _ hboth.2
        have hi : k ∈ indicesOf isInvalidI2c drefs := mem_indicesOf.2 ⟨dref, hk, by simp [isInvalidI2c, hi2c, hneg]⟩
        obtain ⟨dj, hdj, -⟩ := mem_indicesOf.1 hj
        have hfound := htests (k, j) (mem_allPairs.2 ⟨hi, hj⟩)
        rw [invalidTest_eq attrs hk hdj] at hfound; exact (isPhantomDisplay_returns.1 hfound).1
      · obtain ⟨i, hi⟩ := exists_mem_of_ne_nil _ hboth.1
        have hj : k ∈ indicesOf isValidI2c drefs :=
          mem_indicesOf.2 ⟨dref, hk, by simp [isValidI2c, hi2c, Int.not_lt.1 hneg]⟩
        obtain ⟨di, hdi, -⟩ := mem_indicesOf.1 hi
        have hfound := htests (i, k) (mem_allPairs.2 ⟨hi, hj⟩)
        rw [invalidTest_eq attrs hdi hk] at hfound; exact (isPhantomDisplay_returns.1 hfound).2
    · rintro hpedid ⟨i, j⟩ hp
      obtain ⟨hi, hj⟩ := mem_allPairs.1 hp
      obtain ⟨di, hdi, hinvalid⟩ := mem_indicesOf.1 hi
      obtain ⟨dj, hdj, hvalid⟩ := mem_indicesOf.1 hj
      have hset := hpedid (indicesOf_ne_nil.1 hboth.1) (indicesOf_ne_nil.1 hboth.2)
      rw [invalidTest_eq attrs hdi hdj]
      exact isPhantomDisplay_returns.2
        ⟨hset di (mem_of_getElem? hdi) (Bool.and_eq_true_iff.1 hinvalid).1,
          hset dj (mem_of_getElem? hdj) (Bool.and_eq_true_iff.1 hvalid).1⟩
  · rename_i hnone
    have hmarks : invalidMarks attrs drefs = [] := by
      refine eq_nil_iff_forall_not_mem.2 fun ⟨i, j⟩ hmem => hnone ?_
      obtain ⟨hi, hj⟩ := mem_allPairs.1 (mem_filter.1 hmem).1
      exact ⟨ne_nil_of_mem hi, ne_nil_of_mem hj⟩
    rw [hmarks, marked_nil, Except.ok.injEq, eq_comm (a := drefs)]
    constructor
    · exact fun h => ⟨fun hinvalid hvalid => absurd ⟨indicesOf_ne_nil.2 hinvalid, indicesOf_ne_nil.2 hvalid⟩ hnone, h⟩
    · exact fun h => h.2

theorem setPhantom_setPhantom (b b' : Nat) (dref : DetectedRef) : (dref.setPhantom b).setPhantom b' = dref.setPhantom b' := rfl

theorem marked_invalidMarks_valid (hi : i ∈ indicesOf isValidI2c drefs) :
    (marked DetectedRef.setPhantom (invalidMarks attrs drefs) drefs)[i]? = drefs[i]? := by
  have hlast : lastMark (invalidMarks attrs drefs) i = none := by
    refine lastMark_eq_none.2 ?_
    rintro ⟨k, j⟩ hmem rfl
    obtain ⟨di, -, hdi, -, hinvalid, -⟩ := (mem_invalidMarks attrs).1 hmem
    obtain ⟨dref, hdref, hvalid⟩ := mem_indicesOf.1 hi
    cases hdi.symm.trans hdref
    have hlt := of_decide_eq_true (Bool.and_eq_true_iff.1 hinvalid).2
    have hle := of_decide_eq_true (Bool.and_eq_true_iff.1 hvalid).2
    omega
  rw [getElem?_marked setPhantom_setPhantom, hlast]; exact Option.map_id' ..

theorem markNonMstDisplays_eq (drefs : List DetectedRef) :
    markNonMstDisplays (indicesOf (isValidMst busName) drefs) (indicesOf (isValidNonMst busName) drefs)
        (marked DetectedRef.setPhantom (invalidMarks attrs drefs) drefs) =
      .ok (marked DetectedRef.setPhantom (invalidMarks attrs drefs ++ nonMstMarks busName drefs) drefs) := by
  set drefs' := marked DetectedRef.setPhantom (invalidMarks attrs drefs) drefs with hdrefs'
  have hsame : ∀ {p : DetectedRef → Bool}, (∀ dref, p dref = true → isValidI2c dref = true) →
      ∀ i ∈ indicesOf p drefs, drefs'[i]? = drefs[i]? := by
    intro p hp i hi
    obtain ⟨dref, hdref, hpd⟩ := mem_indicesOf.1 hi
    exact marked_invalidMarks_valid attrs (mem_indicesOf.2 ⟨dref, hdref, hp dref hpd⟩)
  have hmst := hsame (p := isValidMst busName) fun dref h => (Bool.and_eq_true_iff.1 h).1
  have hnonMst := hsame (p := isValidNonMst busName) fun dref h => (Bool.and_eq_true_iff.1 h).1
  have hdups : (indicesOf (isValidNonMst busName) drefs).filterMap (drefs'[·]?) =
      drefs.filter (isValidNonMst busName) := by
    rw [← filterMap_indicesOf]; exact filterMap_congr hnonMst
  rw [marked_append, ← hdrefs']
  rw [markNonMstDisplays, nonMstMarks, hdups]
  split
  · rename_i hboth
    rw [if_pos hboth.2.2, markPass_eq_ok nonMstTest_modify]
    have htest : ∀ p ∈ nonMstPairs (indicesOf (isValidMst busName) drefs) (indicesOf (isValidNonMst busName) drefs),
        ∃ found, nonMstTest drefs' p = .ok found ∧ nonMstTest drefs p = .ok found := by
      rintro ⟨i, j⟩ hp
      obtain ⟨hi, hj⟩ := mem_nonMstPairs.1 hp
      obtain ⟨di, hdi, -⟩ := mem_indicesOf.1 hi
      obtain ⟨dj, hdj, -⟩ := mem_indicesOf.1 hj
      exact ⟨_, nonMstTest_eq ((hnonMst i hi).trans hdi) ((hmst j hj).trans hdj), nonMstTest_eq hdi hdj⟩
    refine ⟨fun p hp => (htest p hp).imp fun _ h => h.1, congrArg (marked _ · drefs') ?_⟩
    refine filter_congr fun p hp => ?_
    obtain ⟨found, h', h⟩ := htest p hp
    rw [h, h']
  · rename_i hnone
    split
    · rename_i hdup
      -- one of the two lists is empty, and there is nothing to compare
      have hnil : nonMstPairs (indicesOf (isValidMst busName) drefs) (indicesOf (isValidNonMst busName) drefs) = [] := by
        refine eq_nil_iff_forall_not_mem.2 fun ⟨i, j⟩ hmem => hnone ?_
        obtain ⟨hi, hj⟩ := mem_nonMstPairs.1 hmem
        exact ⟨ne_nil_of_mem hj, ne_nil_of_mem hi, hdup⟩
      rw [hnil]; rfl
    · rfl

/-- **What the filter computes** where it acts: the marks of the first pass, then those of the second. -/
theorem filterPhantomDisplays_eq_ok {after : List DetectedRef} {found : Bool} (hlen : 1 < drefs.length) :
    filterPhantomDisplays true attrs busName drefs = .ok (found, after) ↔
      PointersSet drefs ∧ (found = true ↔ ∃ dref ∈ drefs, isInvalidI2c dref = true) ∧
        after = marked DetectedRef.setPhantom (invalidMarks attrs drefs ++ nonMstMarks busName drefs) drefs := by
  have hsplit : ∀ mst nonMst,
      splitMst busName (marked DetectedRef.setPhantom (invalidMarks attrs drefs) drefs) (indicesOf isValidI2c drefs) =
          .ok (mst, nonMst) ↔
        (∀ dref ∈ drefs, isValidI2c dref = true → dref.businfo ≠ none) ∧ mst = indicesOf (isValidMst busName) drefs ∧
          nonMst = indicesOf (isValidNonMst busName) drefs := by
    intro mst nonMst
    rw [splitMst_congr busName fun i hi => marked_invalidMarks_valid attrs hi, splitMst_eq_ok]
    refine and_congr ?_ ?_
    · constructor
      · intro h dref hdref hvalid
        obtain ⟨i, hi⟩ := getElem?_of_mem hdref
        obtain ⟨d, hd, hset⟩ := h i (mem_indicesOf.2 ⟨dref, hi, hvalid⟩)
        cases hd.symm.trans hi
        exact hset
      · intro h i hi
        obtain ⟨dref, hdref, hvalid⟩ := mem_indicesOf.1 hi
        exact ⟨dref, hdref, h dref (mem_of_getElem? hdref) hvalid⟩
    · rw [indicesOf_filter, indicesOf_filter]; rfl
  rw [filterPhantomDisplays, if_pos ⟨rfl, hlen⟩]
  simp only [Exec.bind_eq_ok, markInvalidDisplays_eq_ok]
  constructor
  · rintro ⟨drefs', ⟨hpedid, rfl⟩, ⟨mst, nonMst⟩, hmst, drefs', hmarks, h⟩
    obtain ⟨hdetail, rfl, rfl⟩ := (hsplit mst nonMst).1 hmst
    rw [markNonMstDisplays_eq] at hmarks
    cases hmarks
    cases h; exact ⟨⟨hdetail, hpedid⟩, by rw [decide_eq_true_iff, indicesOf_ne_nil], rfl⟩
  · rintro ⟨⟨hdetail, hpedid⟩, hfound, rfl⟩
    have hresult : decide (indicesOf isInvalidI2c drefs ≠ []) = found := by
      rw [Bool.eq_iff_iff, decide_eq_true_iff, indicesOf_ne_nil, hfound]
    exact ⟨_, ⟨hpedid, rfl⟩, _, (hsplit _ _).2 ⟨hdetail, rfl, rfl⟩, _, markNonMstDisplays_eq attrs busName drefs,
      by rw [hresult]⟩

/-! ## Who is marked, and with what -/

def phantomMarks (drefs : List DetectedRef) : List (Nat × Nat) := invalidMarks attrs drefs ++ nonMstMarks busName drefs

theorem mem_phantomMarks : (i, j) ∈ phantomMarks attrs busName drefs ↔ FoundSame attrs busName drefs i j := by
  rw [phantomMarks, FoundSame, mem_append, mem_invalidMarks, mem_nonMstMarks]

def afterMarks (drefs : List DetectedRef) : List DetectedRef :=
  marked DetectedRef.setPhantom (phantomMarks attrs busName drefs) drefs

section After

variable {attrs busName} {drefs : List DetectedRef}

theorem getElem?_afterMarks (i : Nat) : (afterMarks attrs busName drefs)[i]? =
    drefs[i]?.map fun dref => (lastMark (phantomMarks attrs busName drefs) i).elim dref dref.setPhantom :=
  getElem?_marked setPhantom_setPhantom _ _ _

variable {i j : Nat} {dref : DetectedRef}

theorem afterMarks_of_not_found (h : ∀ j, ¬ FoundSame attrs busName drefs i j) :
    (afterMarks attrs busName drefs)[i]? = drefs[i]? := by
  have hlast : lastMark (phantomMarks attrs busName drefs) i = none := by
    refine lastMark_eq_none.2 ?_
    rintro ⟨k, j⟩ hmem rfl
    exact h j ((mem_phantomMarks attrs busName).1 hmem)
  rw [getElem?_afterMarks, hlast]; exact Option.map_id' ..

theorem afterMarks_cases (h : (afterMarks attrs busName drefs)[i]? = some dref) :
    ∃ before, drefs[i]? = some before ∧
      (dref = before ∧ (∀ j, ¬ FoundSame attrs busName drefs i j) ∨
        ∃ j, dref = before.setPhantom j ∧ lastMark (phantomMarks attrs busName drefs) i = some j) := by
  rw [getElem?_afterMarks] at h
  obtain ⟨before, hbefore, rfl⟩ := Option.map_eq_some_iff.1 h
  refine ⟨before, hbefore, ?_⟩
  cases hlast : lastMark (phantomMarks attrs busName drefs) i with
  | none => exact .inl ⟨rfl, fun j hj => lastMark_eq_none.1 hlast (i, j) ((mem_phantomMarks attrs busName).2 hj) rfl⟩
  | some j => exact .inr ⟨j, rfl, rfl⟩

theorem afterMarks_of_found (h : FoundSame attrs busName drefs i j) :
    ∃ before k, drefs[i]? = some before ∧ (afterMarks attrs busName drefs)[i]? = some (before.setPhantom k) := by
  obtain ⟨before, hbefore⟩ : ∃ before, drefs[i]? = some before := by
    rcases h with ⟨di, -, hdi, -⟩ | ⟨⟨di, -, hdi, -⟩, -⟩ <;> exact ⟨di, hdi⟩
  cases hlast : lastMark (phantomMarks attrs busName drefs) i with
  | none => exact absurd rfl (lastMark_eq_none.1 hlast (i, j) ((mem_phantomMarks attrs busName).2 h))
  | some k => exact ⟨before, k, hbefore, by rw [getElem?_afterMarks, hbefore, hlast]; rfl⟩

theorem not_invalid_of_valid (h : isValidI2c dref = true) : isInvalidI2c dref = false := by
  have hle := of_decide_eq_true (Bool.and_eq_true_iff.1 h).2
  rw [isInvalidI2c, decide_eq_false (Int.not_lt.2 hle), Bool.and_false]

theorem mst_not_found (hi : drefs[i]? = some dref) (hmst : isValidMst busName dref = true) (j : Nat) :
    ¬ FoundSame attrs busName drefs i j := by
  obtain ⟨hvalid, honmst⟩ := Bool.and_eq_true_iff.1 hmst
  rintro (⟨di, -, hdi, -, hinvalid, -⟩ | ⟨⟨di, -, hdi, -, hnon, -⟩, -⟩)
  · cases hdi.symm.trans hi
    rw [not_invalid_of_valid hvalid] at hinvalid; exact Bool.false_ne_true hinvalid
  · cases hdi.symm.trans hi
    have h := (Bool.and_eq_true_iff.1 hnon).2
    rw [honmst] at h; exact Bool.false_ne_true h

theorem valid_found_iff (hi : drefs[i]? = some dref) (hvalid : isValidI2c dref = true) :
    FoundSame attrs busName drefs i j ↔ NonMstPhantomOf busName drefs i j := by
  refine ⟨fun h => h.resolve_left ?_, .inr⟩
  rintro ⟨di, -, hdi, -, hinvalid, -⟩
  cases hdi.symm.trans hi
  rw [not_invalid_of_valid hvalid] at hinvalid; exact Bool.false_ne_true hinvalid

theorem lastMark_invalid (hi : drefs[i]? = some dref) (hinvalid : isInvalidI2c dref = true) :
    lastMark (phantomMarks attrs busName drefs) i = some j ↔
      InvalidPhantomOf attrs drefs i j ∧ ∀ k, InvalidPhantomOf attrs drefs i k → k ≤ j := by
  have hnone : lastMark (nonMstMarks busName drefs) i = none := by
    refine lastMark_eq_none.2 ?_
    rintro ⟨k, m⟩ hmem rfl
    obtain ⟨⟨di, -, hdi, -, hnon, -⟩, -⟩ := (mem_nonMstMarks busName).1 hmem
    cases hdi.symm.trans hi
    have := not_invalid_of_valid (Bool.and_eq_true_iff.1 hnon).1
    rw [hinvalid] at this; exact Bool.false_ne_true this.symm
  rw [phantomMarks, lastMark_append, hnone, Option.none_or, lastMark_eq_some (invalidMarks_sorted attrs drefs)]
  simp only [mem_invalidMarks]

end After

/-! ## Where the filter is right -/

/-- **One monitor is found once**: the display that is last in the list of those that one without working communication
is found to be a phantom of is not itself found to be a phantom; and where there is a display without working
communication, some display is found to be a phantom, and only there. -/
structure FoundOnce (drefs : List DetectedRef) : Prop where
  pointers : PointersSet drefs
  last : ∀ i j, InvalidPhantomOf attrs drefs i j → (∀ k, InvalidPhantomOf attrs drefs i k → k ≤ j) →
    ∀ m, ¬ NonMstPhantomOf busName drefs j m
  result : (∃ dref ∈ drefs, isInvalidI2c dref = true) ↔ ∃ i j, FoundSame attrs busName drefs i j

def NumbersAssigned (drefs : List DetectedRef) : Prop :=
  ∀ dref ∈ drefs, dref.dispno ≠ dispnoPhantom ∧ dref.dispno ≠ 0

instance (drefs : List DetectedRef) : Decidable (NumbersAssigned drefs) :=
  inferInstanceAs (Decidable (∀ dref ∈ drefs, _ ∧ _))

section Right

variable {attrs busName} {drefs : List DetectedRef}

variable {i : Nat} {dref : DetectedRef}

section
variable (hnumbers : NumbersAssigned drefs)
include hnumbers

theorem pos_of_valid (hi : drefs[i]? = some dref) (hvalid : isValidI2c dref = true) : 0 < dref.dispno := by
  have hle := of_decide_eq_true (Bool.and_eq_true_iff.1 hvalid).2
  have hne := (hnumbers dref (mem_of_getElem? hi)).2
  omega

theorem afterMarks_phantom (h : (afterMarks attrs busName drefs)[i]? = some dref)
    (hphantom : dref.dispno = dispnoPhantom) :
    ∃ before j, drefs[i]? = some before ∧ dref = before.setPhantom j ∧
      lastMark (phantomMarks attrs busName drefs) i = some j := by
  obtain ⟨before, hbefore, ⟨rfl, -⟩ | ⟨j, hdref, hlast⟩⟩ := afterMarks_cases h
  · exact absurd hphantom (hnumbers dref (mem_of_getElem? hbefore)).1
  · exact ⟨before, j, hbefore, hdref, hlast⟩

theorem afterMarks_working {j : Nat} (h : FoundSame attrs busName drefs i j) :
    ∃ m b a, Relation.EqvGen (FoundSame attrs busName drefs) i m ∧ drefs[m]? = some b ∧
      (afterMarks attrs busName drefs)[m]? = some a ∧ 0 < b.dispno ∧ a.dispno = b.dispno := by
  have hij : Relation.EqvGen (FoundSame attrs busName drefs) i j := .rel _ _ h
  -- the display that the `j`-th is found to be a phantom of, where it is
  have hmst : ∀ m, NonMstPhantomOf busName drefs j m ∨ NonMstPhantomOf busName drefs i m ∧ j = m →
      ∃ b, drefs[m]? = some b ∧ (afterMarks attrs busName drefs)[m]? = some b ∧ 0 < b.dispno := by
    intro m hm
    obtain ⟨dm, hdm, hvalid⟩ : ∃ dm, drefs[m]? = some dm ∧ isValidMst busName dm = true := by
      rcases hm with ⟨⟨-, dm, -, hdm, -, hvalid, -⟩, -⟩ | ⟨⟨⟨-, dm, -, hdm, -, hvalid, -⟩, -⟩, -⟩ <;>
        exact ⟨dm, hdm, hvalid⟩
    exact ⟨dm, hdm, (afterMarks_of_not_found (mst_not_found hdm hvalid)).trans hdm,
      pos_of_valid hnumbers hdm (Bool.and_eq_true_iff.1 hvalid).1⟩
  rcases h with h | h
  · obtain ⟨-, dj, -, hdj, -, hvalid, -⟩ := id h
    by_cases hfound : ∃ m, NonMstPhantomOf busName drefs j m
    · obtain ⟨m, hm⟩ := hfound
      obtain ⟨b, hb, ha, hpos⟩ := hmst m (.inl hm)
      exact ⟨m, b, b, .trans _ _ _ hij (.rel _ _ (.inr hm)), hb, ha, hpos, rfl⟩
    · have hsame : (afterMarks attrs busName drefs)[j]? = drefs[j]? :=
        afterMarks_of_not_found fun m hm => hfound ⟨m, (valid_found_iff hdj hvalid).1 hm⟩
      exact ⟨j, dj, dj, hij, hdj, hsame.trans hdj, pos_of_valid hnumbers hdj hvalid, rfl⟩
  · obtain ⟨b, hb, ha, hpos⟩ := hmst j (.inr ⟨h, rfl⟩)
    exact ⟨j, b, b, hij, hb, ha, hpos, rfl⟩

theorem exists_phantom_iff :
    (∃ dref ∈ afterMarks attrs busName drefs, dref.dispno = dispnoPhantom) ↔
      ∃ i j, FoundSame attrs busName drefs i j := by
  constructor
  · rintro ⟨dref, hmem, hphantom⟩
    obtain ⟨i, hi⟩ := getElem?_of_mem hmem
    obtain ⟨-, j, -, -, hlast⟩ := afterMarks_phantom hnumbers hi hphantom
    exact ⟨i, j, (mem_phantomMarks attrs busName).1 (mem_of_lastMark hlast)⟩
  · rintro ⟨i, j, h⟩
    obtain ⟨before, k, -, hafter⟩ := afterMarks_of_found h
    exact ⟨_, mem_of_getElem? hafter, rfl⟩

end

theorem FoundOnce.actual (honce : FoundOnce attrs busName drefs) (hnumbers : NumbersAssigned drefs)
    (h : (afterMarks attrs busName drefs)[i]? = some dref) (hphantom : dref.dispno = dispnoPhantom) :
    ∃ j actual, dref.actualDisplay = some j ∧ (afterMarks attrs busName drefs)[j]? = some actual ∧
      IdsMatch dref actual ∧ 0 < actual.dispno ∧ actual.dispno ≠ dispnoPhantom := by
  obtain ⟨before, j, hbefore, rfl, hlast⟩ := afterMarks_phantom hnumbers h hphantom
  -- the pedid of the marked reference is that of the reference before
  have hids : ∀ {dj}, IdsMatch before dj → IdsMatch (before.setPhantom j) dj := id
  rcases (mem_phantomMarks attrs busName).1 (mem_of_lastMark hlast) with hfound | hfound
  · obtain ⟨di, dj, hdi, hdj, hinvalid, hvalid, htest⟩ := id hfound
    cases hdi.symm.trans hbefore
    have hmax := ((lastMark_invalid hbefore hinvalid).1 hlast).2
    have hsame : (afterMarks attrs busName drefs)[j]? = drefs[j]? :=
      afterMarks_of_not_found fun m hm => honce.last i j hfound hmax m ((valid_found_iff hdj hvalid).1 hm)
    have hpos := pos_of_valid hnumbers hdj hvalid
    exact ⟨j, dj, rfl, hsame.trans hdj, hids (idsMatch_of_isPhantomDisplay htest), hpos,
      (hnumbers dj (mem_of_getElem? hdj)).1⟩
  · obtain ⟨⟨di, dj, hdi, hdj, -, hmst, hequal⟩, -⟩ := hfound
    cases hdi.symm.trans hbefore
    have hsame : (afterMarks attrs busName drefs)[j]? = drefs[j]? := afterMarks_of_not_found (mst_not_found hdj hmst)
    have hpos := pos_of_valid hnumbers hdj (Bool.and_eq_true_iff.1 hmst).1
    exact ⟨j, dj, rfl, hsame.trans hdj, hids (idsMatch_of_edidEqual hequal), hpos,
      (hnumbers dj (mem_of_getElem? hdj)).1⟩

theorem FoundOnce.right (honce : FoundOnce attrs busName drefs) (hnumbers : NumbersAssigned drefs) {found : Bool}
    (hfound : found = true ↔ ∃ dref ∈ drefs, isInvalidI2c dref = true) :
    PhantomsRight attrs busName drefs (afterMarks attrs busName drefs) found where
  actual _ _ h hphantom := honce.actual hnumbers h hphantom
  working _ _ h := afterMarks_working hnumbers h
  unmarked i b a hb ha hne := by
    obtain ⟨before, hbefore, ⟨rfl, -⟩ | ⟨j, rfl, -⟩⟩ := afterMarks_cases ha
    · cases hb.symm.trans hbefore
      rfl
    · exact absurd rfl hne
  result := by rw [hfound, honce.result, exists_phantom_iff hnumbers]

theorem PhantomsRight.foundOnce (hnumbers : NumbersAssigned drefs) (hpointers : PointersSet drefs) {found : Bool}
    (hfound : found = true ↔ ∃ dref ∈ drefs, isInvalidI2c dref = true)
    (hright : PhantomsRight attrs busName drefs (afterMarks attrs busName drefs) found) :
    FoundOnce attrs busName drefs where
  pointers := hpointers
  last i j hij hmax m hm := by
    obtain ⟨di, -, hdi, -, hinvalid, -⟩ := id hij
    have hlast : lastMark (phantomMarks attrs busName drefs) i = some j := (lastMark_invalid hdi hinvalid).2 ⟨hij, hmax⟩
    have hi : (afterMarks attrs busName drefs)[i]? = some (di.setPhantom j) := by
      rw [getElem?_afterMarks, hdi, hlast]; rfl
    obtain ⟨k, actual, hk, hactual, -, -, hne⟩ := hright.actual i _ hi rfl
    cases hk
    -- the second pass has marked the display that the first took for the real one
    have hfound : FoundSame attrs busName drefs j m := .inr hm
    obtain ⟨before, k, -, hafter⟩ := afterMarks_of_found hfound
    cases hactual.symm.trans hafter
    exact hne rfl
  result := by rw [← hfound, hright.result, exists_phantom_iff hnumbers]

theorem phantomsRight_same (hnumbers : NumbersAssigned drefs) : PhantomsRight attrs busName drefs drefs false where
  actual i dref h hphantom := absurd hphantom (hnumbers dref (mem_of_getElem? h)).1
  working i j h := by
    obtain ⟨dj, hdj, hvalid⟩ : ∃ dj, drefs[j]? = some dj ∧ isValidI2c dj = true := by
      rcases h with ⟨-, dj, -, hdj, -, hvalid, -⟩ | ⟨⟨-, dj, -, hdj, -, hmst, -⟩, -⟩
      · exact ⟨dj, hdj, hvalid⟩
      · exact ⟨dj, hdj, (Bool.and_eq_true_iff.1 hmst).1⟩
    exact ⟨j, dj, dj, .rel _ _ h, hdj, hdj, pos_of_valid hnumbers hdj hvalid, rfl⟩
  unmarked i b a hb ha _ := by
    cases hb.symm.trans ha
    rfl
  result := by
    refine ⟨fun h => absurd h Bool.false_ne_true, ?_⟩
    rintro ⟨dref, hmem, hphantom⟩
    exact absurd hphantom (hnumbers dref hmem).1

end Right

/-- **The phantom filter is right exactly where one monitor is found once**: for all lists of references and all answers
of sysfs it returns with what it promises, if and only if it does not act or the list is such. -/
theorem filterPhantomDisplays_right_iff (detectPhantomDisplays : Bool) (attrs : Nat → Nat → ConnectorAttrs)
    (busName : Nat → Option String) (drefs : List DetectedRef) (hnumbers : NumbersAssigned drefs) :
    (∃ found after, filterPhantomDisplays detectPhantomDisplays attrs busName drefs = .ok (found, after) ∧
      PhantomsRight attrs busName drefs after found) ↔
      (detectPhantomDisplays = true → 1 < drefs.length → FoundOnce attrs busName drefs) := by
  by_cases hacts : detectPhantomDisplays = true ∧ 1 < drefs.length
  · obtain ⟨rfl, hlen⟩ := hacts
    constructor
    · rintro ⟨found, after, h, hright⟩ - -
      obtain ⟨hpointers, hfound, rfl⟩ := (filterPhantomDisplays_eq_ok attrs busName hlen).1 h
      exact hright.foundOnce hnumbers hpointers hfound
    · intro honce
      have honce := honce rfl hlen
      have hfound : decide (∃ dref ∈ drefs, isInvalidI2c dref = true) = true ↔ ∃ dref ∈ drefs, isInvalidI2c dref = true :=
        decide_eq_true_iff
      exact ⟨_, _, (filterPhantomDisplays_eq_ok attrs busName hlen).2 ⟨honce.pointers, hfound, rfl⟩,
        honce.right hnumbers hfound⟩
  · have hsame : filterPhantomDisplays detectPhantomDisplays attrs busName drefs = .ok (false, drefs) := if_neg hacts
    constructor
    · exact fun _ hdetect hlen => absurd ⟨hdetect, hlen⟩ hacts
    · exact fun _ => ⟨false, drefs, hsame, phantomsRight_same hnumbers⟩

/-! ## Two views of one monitor -/

def workingAndUnused : List DetectedRef := [busDref 3 1, busDref 4 (-1)]

theorem workingAndUnused_numbers : NumbersAssigned workingAndUnused := by decide

def unusedAttrs : ConnectorAttrs := ⟨true, some "disconnected", some "disabled", false⟩

theorem workingAndUnused_right : ∃ found after,
    filterPhantomDisplays true (fun _ _ => unusedAttrs) (fun _ => none) workingAndUnused = .ok (found, after) ∧
      PhantomsRight (fun _ _ => unusedAttrs) (fun _ => none) workingAndUnused after found := by
  refine (filterPhantomDisplays_right_iff true (fun _ _ => unusedAttrs) (fun _ => none) workingAndUnused
    workingAndUnused_numbers).2 fun _ _ => ⟨⟨?_, ?_⟩, ?_, ?_⟩
  · simp [workingAndUnused, busDref]
  · simp [workingAndUnused, busDref]
  · rintro i j - - m ⟨⟨-, dm, -, hdm, -, hmst, -⟩, -⟩
    have hmem := mem_of_getElem? hdm
    simp only [workingAndUnused, mem_cons, not_mem_nil, or_false] at hmem
    rcases hmem with rfl | rfl <;> exact absurd hmst (by decide)
  · refine ⟨fun _ => ⟨1, 0, .inl ⟨_, _, rfl, rfl, by decide, by decide, ?_⟩⟩, fun _ => ⟨_, mem_cons_of_mem _
      mem_cons_self, by decide⟩⟩
    simp [isPhantomDisplay, edidIdsMatch, busDref, isI2c, unusedAttrs, ConnectorAttrs.unused]

def mstTwins : List DetectedRef := [busDref 3 1, busDref 4 2]

def mstBusName (busno : Nat) : Option String := if busno = 4 then some "DPMST" else none

/-- The filter marks the first of the two, and its result is that it found none. -/
theorem mstTwins_not_right : NumbersAssigned mstTwins ∧ ¬ ∃ found after,
    filterPhantomDisplays true (fun _ _ => unusedAttrs) mstBusName mstTwins = .ok (found, after) ∧
      PhantomsRight (fun _ _ => unusedAttrs) mstBusName mstTwins after found := by
  have hnumbers : NumbersAssigned mstTwins := by decide
  refine ⟨hnumbers, ?_⟩
  rintro ⟨found, after, h, hright⟩
  obtain ⟨hpointers, hfound, rfl⟩ := (filterPhantomDisplays_eq_ok _ mstBusName (by decide)).1 h
  have hsame : FoundSame (fun _ _ => unusedAttrs) mstBusName mstTwins 0 1 :=
    .inr ⟨⟨_, _, rfl, rfl, by decide, by decide, by simp [drefsEdidEqual, busDref]⟩, by decide⟩
  have hinvalid : ¬ ∃ dref ∈ mstTwins, isInvalidI2c dref = true := by decide
  exact hinvalid ((hright.foundOnce hnumbers hpointers hfound).result.2 ⟨0, 1, hsame⟩)

end Ddc
