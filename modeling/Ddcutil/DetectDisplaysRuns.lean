import Ddcutil.DetectDisplays
import Ddcutil.PhantomDisplaysRuns
/-!
# DetectDisplaysRuns — the display numbers after detection

The first assignment numbers the usable displays 1 to the greatest number given, which is how many there are
(`assignDisplayNumbers_spec`).
-/
namespace Ddc

open Kit List Exec

def isCounted (dref : DetectedRef) : Bool := usable dref.flags && decide (dref.dispno ≠ dispnoPhantom)

def stateNumber (flags : DrefFlags) : Int :=
  if flags.ddcDisabled = true then dispnoDdcDisabled else if flags.busy = true then dispnoBusy else dispnoInvalid

def DetectedRef.unnumbered (dref : DetectedRef) : DetectedRef := { dref with dispno := 0, actualDisplay := none }

/-- **The numbers after detection** of the displays `scanned`, with `k` those that count. -/
structure NumbersRight (scanned : List DetectedRef) (d : Detection) (k : Nat) : Prop where
  displays : d.displayList.map DetectedRef.unnumbered = scanned.map DetectedRef.unnumbered
  counted : d.displayList.countP isCounted = k
  positive : (d.displayList.map (·.dispno)).filter (0 < ·) = (List.range' 1 k).map ((↑) : Nat → Int)
  others : ∀ dref ∈ d.displayList, isCounted dref = false →
    dref.dispno = dispnoPhantom ∨ dref.dispno = stateNumber dref.flags
  max : d.dispnoMax = k
  next : ∀ (skip : Bool) (s : DisplayWorld) (a : Address) (found : DdcCheck) (ts : Nat) (hts : 0 < ts) (ndx : Nat) s' dref,
    s.dispnoMax = d.dispnoMax → dwAddDisplayByBusinfo skip s a found ts hts = .ok (.added ndx, s') →
      s'.allDisplayRefs[ndx]? = some dref → 0 < dref.dispno → dref.dispno = k + 1

/-! ## The first assignment -/

def positiveNumbers (drefs : List DetectedRef) : List Int := (drefs.map (·.dispno)).filter (0 < ·)

theorem positiveNumbers_cons (dref : DetectedRef) (drefs : List DetectedRef) : positiveNumbers (dref :: drefs) =
    if 0 < dref.dispno then dref.dispno :: positiveNumbers drefs else positiveNumbers drefs := by
  unfold positiveNumbers
  rw [map_cons, filter_cons]
  simp only [decide_eq_true_eq]

/-- **A reference as it is numbered**: usable displays have a positive number, the others that of their state. -/
structure Numbered (dref : DetectedRef) : Prop where
  works : usable dref.flags = true → 0 < dref.dispno
  state : usable dref.flags = false → dref.dispno = stateNumber dref.flags

theorem stateNumber_neg (flags : DrefFlags) : stateNumber flags < 0 ∧ stateNumber flags ≠ dispnoPhantom := by
  unfold stateNumber
  split_ifs <;> decide

theorem Numbered.not_phantom {dref : DetectedRef} (h : Numbered dref) : dref.dispno ≠ dispnoPhantom ∧ dref.dispno ≠ 0 := by
  cases hu : usable dref.flags with
  | true =>
    have hpos := h.works hu
    have hphantom : dispnoPhantom < 0 := by decide
    omega
  | false =>
    have hneg := stateNumber_neg dref.flags
    rw [h.state hu]; omega

theorem assignDisplayNumber_spec (dref : DetectedRef) (dispnoMax : Nat) :
    assignDisplayNumber dref dispnoMax =
      if usable dref.flags = true then ({ dref with dispno := (dispnoMax + 1 : Nat) }, dispnoMax + 1)
      else ({ dref with dispno := stateNumber dref.flags }, dispnoMax) := by
  unfold assignDisplayNumber usable stateNumber
  cases dref.flags.ddcDisabled <;> cases dref.flags.busy <;> cases dref.flags.communicationWorking <;> rfl

/-- **What the first assignment does**: it counts the usable displays, which have the numbers after `dispnoMax`. -/
theorem assignDisplayNumbers_spec (drefs : List DetectedRef) : ∀ dispnoMax : Nat,
    (∀ dref ∈ (assignDisplayNumbers drefs dispnoMax).1, Numbered dref) ∧
      (assignDisplayNumbers drefs dispnoMax).1.map DetectedRef.unnumbered = drefs.map DetectedRef.unnumbered ∧
      positiveNumbers (assignDisplayNumbers drefs dispnoMax).1 =
        (List.range' (dispnoMax + 1) (drefs.countP fun dref => usable dref.flags)).map ((↑) : Nat → Int) ∧
      (assignDisplayNumbers drefs dispnoMax).2 = dispnoMax + drefs.countP fun dref => usable dref.flags := by
  induction drefs with
  | nil => exact fun _ => ⟨fun _ h => absurd h not_mem_nil, rfl, rfl, rfl⟩
  | cons dref drefs ih =>
    intro dispnoMax
    rw [assignDisplayNumbers, assignDisplayNumber_spec, countP_cons]
    cases hu : usable dref.flags with
    | true =>
      obtain ⟨hnum, hsame, hpos, hmax⟩ := ih (dispnoMax + 1)
      simp only [if_true]
      have hnew : (0 : Int) < (dispnoMax + 1 : Nat) := by omega
      refine ⟨?_, ?_, ?_, ?_⟩
      · rintro d (_ | ⟨_, hd⟩)
        · exact ⟨fun _ => hnew, fun h => absurd (hu.symm.trans h) (by decide)⟩
        · exact hnum d hd
      · rw [map_cons, hsame, map_cons]; rfl
      · rw [positiveNumbers_cons, if_pos hnew, hpos, range'_succ, map_cons]
      · omega
    | false =>
      obtain ⟨hnum, hsame, hpos, hmax⟩ := ih dispnoMax
      simp only [Bool.false_eq_true, if_false, Nat.add_zero]
      refine ⟨?_, ?_, ?_, hmax⟩
      · rintro d (_ | ⟨_, hd⟩)
        · exact ⟨fun h => absurd (hu.symm.trans h) (by decide), fun _ => rfl⟩
        · exact hnum d hd
      · rw [map_cons, hsame, map_cons]; rfl
      · rw [positiveNumbers_cons, if_neg (Int.not_lt.2 (Int.le_of_lt (stateNumber_neg dref.flags).1)), hpos]

/-! ## The second assignment -/

theorem renumber_spec (drefs : List DetectedRef) : ∀ nextValidDisplay : Nat, 0 < nextValidDisplay →
    (renumber drefs nextValidDisplay).map DetectedRef.unnumbered = drefs.map DetectedRef.unnumbered ∧
      (renumber drefs nextValidDisplay).map isCounted = drefs.map isCounted ∧
      positiveNumbers (renumber drefs nextValidDisplay) =
        (List.range' nextValidDisplay (positiveNumbers drefs).length).map ((↑) : Nat → Int) ∧
      ∀ dref ∈ renumber drefs nextValidDisplay, dref ∈ drefs ∨
        ∃ d ∈ drefs, 0 < d.dispno ∧ isCounted dref = isCounted d := by
  induction drefs with
  | nil => exact fun _ _ => ⟨rfl, rfl, rfl, fun _ h => absurd h not_mem_nil⟩
  | cons dref drefs ih =>
    intro next hnext
    rw [renumber, positiveNumbers_cons]
    by_cases hpos : 0 < dref.dispno
    · rw [if_pos hpos, if_pos hpos]
      obtain ⟨hsame, hcounted, hrange, hmem⟩ := ih (next + 1) (Nat.succ_pos next)
      have hphantom : dispnoPhantom < 0 := by decide
      have hfirst : (0 : Int) < next := by omega
      have hsameCount : isCounted { dref with dispno := (next : Int) } = isCounted dref := by
        have hnew : ¬ (next : Int) = dispnoPhantom := by omega
        have hold : ¬ dref.dispno = dispnoPhantom := by omega
        simp [isCounted, hnew, hold]
      refine ⟨?_, ?_, ?_, ?_⟩
      · rw [map_cons, hsame, map_cons]; rfl
      · rw [map_cons, hcounted, map_cons, hsameCount]
      · rw [positiveNumbers_cons, if_pos hfirst, hrange, length_cons, range'_succ,
          map_cons]
      · rintro d (_ | ⟨_, hd⟩)
        · exact .inr ⟨dref, mem_cons_self, hpos, hsameCount⟩
        · rcases hmem d hd with hd | ⟨d', hd', h⟩
          · exact .inl (mem_cons_of_mem _ hd)
          · exact .inr ⟨d', mem_cons_of_mem _ hd', h⟩
    · rw [if_neg hpos, if_neg hpos]
      obtain ⟨hsame, hcounted, hrange, hmem⟩ := ih next hnext
      refine ⟨?_, ?_, ?_, ?_⟩
      · rw [map_cons, hsame, map_cons]
      · rw [map_cons, hcounted, map_cons]
      · rw [positiveNumbers_cons, if_neg hpos, hrange]
      · rintro d (_ | ⟨_, hd⟩)
        · exact .inl mem_cons_self
        · rcases hmem d hd with hd | ⟨d', hd', h⟩
          · exact .inl (mem_cons_of_mem _ hd)
          · exact .inr ⟨d', mem_cons_of_mem _ hd', h⟩

/-! ## Two views of one monitor -/

variable (busName : Nat → Option String)

def worksOnMst (dref : DetectedRef) : Bool := isI2c dref.ioPath && usable dref.flags && onMst busName dref

def worksOffMst (dref : DetectedRef) : Bool := isI2c dref.ioPath && usable dref.flags && !onMst busName dref

/-- **One monitor works on a DPMST bus and on another bus**, and no two displays that work off a DPMST bus have equal
EDIDs. -/
def MstTwin (drefs : List DetectedRef) : Prop :=
  (∃ di ∈ drefs, ∃ dj ∈ drefs, worksOffMst busName di = true ∧ worksOnMst busName dj = true ∧
    drefsEdidEqual dj di = true) ∧ hasDuplicateEdids (drefs.filter (worksOffMst busName)) = false

theorem hasDuplicateEdids_map (drefs : List DetectedRef) :
    hasDuplicateEdids (drefs.map DetectedRef.unnumbered) = hasDuplicateEdids drefs := by
  induction drefs with
  | nil => rfl
  | cons dref drefs ih =>
    rw [map_cons, hasDuplicateEdids, hasDuplicateEdids, ih, any_map]; rfl

theorem mstTwin_map (drefs : List DetectedRef) :
    MstTwin busName (drefs.map DetectedRef.unnumbered) ↔ MstTwin busName drefs := by
  refine and_congr ?_ ?_
  · simp only [mem_map, exists_exists_and_eq_and]; rfl
  · rw [filter_map, hasDuplicateEdids_map]; rfl

theorem mstTwin_congr {drefs drefs' : List DetectedRef}
    (h : drefs.map DetectedRef.unnumbered = drefs'.map DetectedRef.unnumbered) :
    MstTwin busName drefs ↔ MstTwin busName drefs' := by
  rw [← mstTwin_map, h, mstTwin_map]

theorem Numbered.isValidI2c_eq {dref : DetectedRef} (h : Numbered dref) :
    isValidI2c dref = (isI2c dref.ioPath && usable dref.flags) := by
  unfold isValidI2c
  cases hu : usable dref.flags with
  | true => rw [decide_eq_true (Int.le_of_lt (h.works hu))]
  | false =>
    have hneg := (stateNumber_neg dref.flags).1
    rw [← h.state hu] at hneg
    rw [decide_eq_false (Int.not_le.2 hneg)]

theorem exists_nonMstPhantomOf {drefs : List DetectedRef} (hnum : ∀ dref ∈ drefs, Numbered dref) :
    (∃ i j, NonMstPhantomOf busName drefs i j) ↔ MstTwin busName drefs := by
  have hoff : ∀ dref ∈ drefs, isValidNonMst busName dref = worksOffMst busName dref := by
    intro dref hdref
    rw [isValidNonMst, worksOffMst, (hnum dref hdref).isValidI2c_eq]
  have hon : ∀ dref ∈ drefs, isValidMst busName dref = worksOnMst busName dref := by
    intro dref hdref
    rw [isValidMst, worksOnMst, (hnum dref hdref).isValidI2c_eq]
  unfold NonMstPhantomOf MstTwin
  rw [filter_congr hoff]
  constructor
  · rintro ⟨i, j, ⟨di, dj, hdi, hdj, hnon, hmst, hequal⟩, hdup⟩
    have hi := mem_of_getElem? hdi
    have hj := mem_of_getElem? hdj
    exact ⟨⟨di, hi, dj, hj, (hoff di hi).symm.trans hnon, (hon dj hj).symm.trans hmst, hequal⟩, hdup⟩
  · rintro ⟨⟨di, hi, dj, hj, hnon, hmst, hequal⟩, hdup⟩
    obtain ⟨i, hdi⟩ := getElem?_of_mem hi
    obtain ⟨j, hdj⟩ := getElem?_of_mem hj
    exact ⟨i, j, ⟨di, dj, hdi, hdj, (hoff di hi).trans hnon, (hon dj hj).trans hmst, hequal⟩, hdup⟩

/-! ## The phantom filter on numbered displays -/

def Linked (dref : DetectedRef) : Prop := isI2c dref.ioPath = true → dref.businfo ≠ none ∧ dref.pedid ≠ none

theorem linked_displayList (c : Connected) : ∀ dref ∈ c.displayList, Linked dref := by
  intro dref hdref
  rcases mem_append.1 hdref with hbus | husb
  · obtain ⟨businfo, -, h⟩ := mem_filterMap.1 hbus
    obtain ⟨edid, -, rfl⟩ := Option.map_eq_some_iff.1 h
    intro _
    unfold busDrefFor
    split
    · split
      · rename_i found hfound
        have hmatch := find?_some hfound
        refine ⟨Option.some_ne_none _, fun hnone => ?_⟩
        have hnone : found.pedid = none := hnone
        rw [hnone, Option.any_none, Bool.and_false] at hmatch; exact Bool.false_ne_true hmatch
      · exact ⟨Option.some_ne_none _, Option.some_ne_none _⟩
    · exact ⟨Option.some_ne_none _, Option.some_ne_none _⟩
  · split at husb
    · obtain ⟨curmon, -, rfl⟩ := mem_map.1 husb
      exact fun h => absurd h (by simp [usbDrefFor, isI2c])
    · exact absurd husb not_mem_nil

theorem linked_scanDisplays (checks : Nat → DrefFlags → DrefFlags) {drefs : List DetectedRef}
    (h : ∀ dref ∈ drefs, Linked dref) : ∀ dref ∈ scanDisplays checks drefs, Linked dref := by
  intro dref hdref
  obtain ⟨i, hi, rfl⟩ := mem_mapIdx.1 hdref
  exact h drefs[i] (getElem_mem hi)

theorem linked_congr {drefs drefs' : List DetectedRef}
    (hsame : drefs'.map DetectedRef.unnumbered = drefs.map DetectedRef.unnumbered) (h : ∀ dref ∈ drefs, Linked dref) :
    ∀ dref ∈ drefs', Linked dref := by
  intro dref hdref
  obtain ⟨d, hd, heq⟩ := mem_map.1 (hsame ▸ mem_map_of_mem (f := DetectedRef.unnumbered) hdref)
  have hlinked : Linked d.unnumbered := h d hd
  rw [heq] at hlinked; exact hlinked

/-- **What the filter leaves of numbered displays**: some are marked, and a usable one is among them exactly where one
monitor works twice. -/
structure Filtered (detectPhantomDisplays : Bool) (drefs after : List DetectedRef) : Prop where
  length_eq : after.length = drefs.length
  marked : ∀ (i : Nat) b a, drefs[i]? = some b → after[i]? = some a → a = b ∨ ∃ j, a = b.setPhantom j
  usable_iff : (∃ (i : Nat) (b : DetectedRef) (j : Nat), drefs[i]? = some b ∧ usable b.flags = true ∧
    after[i]? = some (b.setPhantom j)) ↔ detectPhantomDisplays = true ∧ MstTwin busName drefs

theorem MstTwin.length {drefs : List DetectedRef} (h : MstTwin busName drefs) : 1 < drefs.length := by
  obtain ⟨⟨di, hi, dj, hj, hoff, hon, -⟩, -⟩ := h
  rcases drefs with _ | ⟨d, _ | ⟨d', drefs⟩⟩
  · exact absurd hi not_mem_nil
  · rw [mem_singleton] at hi hj
    subst hi hj
    have h1 := (Bool.and_eq_true_iff.1 hoff).2
    rw [(Bool.and_eq_true_iff.1 hon).2] at h1; exact absurd h1 (by decide)
  · exact Nat.succ_lt_succ (Nat.succ_pos _)

theorem filter_numbered (detectPhantomDisplays : Bool) (attrs : Nat → Nat → ConnectorAttrs) {drefs : List DetectedRef}
    (hnum : ∀ dref ∈ drefs, Numbered dref) (hlinked : ∀ dref ∈ drefs, Linked dref) :
    ∃ found after, filterPhantomDisplays detectPhantomDisplays attrs busName drefs = .ok (found, after) ∧
      Filtered busName detectPhantomDisplays drefs after := by
  have hneverSame : ∀ (b : DetectedRef) (j : Nat), usable b.flags = true → b ∈ drefs → b ≠ b.setPhantom j := by
    intro b j hu hb heq
    have hphantom : b.dispno = dispnoPhantom := (congrArg DetectedRef.dispno heq).trans rfl
    exact (hnum b hb).not_phantom.1 hphantom
  by_cases hacts : detectPhantomDisplays = true ∧ 1 < drefs.length
  · obtain ⟨rfl, hlen⟩ := hacts
    have hpointers : PointersSet drefs :=
      ⟨fun d hd hvalid => (hlinked d hd (Bool.and_eq_true_iff.1 hvalid).1).1, fun _ _ d hd hi2c => (hlinked d hd hi2c).2⟩
    have hfound : decide (∃ dref ∈ drefs, isInvalidI2c dref = true) = true ↔ ∃ dref ∈ drefs, isInvalidI2c dref = true :=
      decide_eq_true_iff
    refine ⟨_, afterMarks attrs busName drefs,
      (filterPhantomDisplays_eq_ok attrs busName hlen).2 ⟨hpointers, hfound, rfl⟩, length_marked .., ?_, ?_⟩
    · intro i b a hb ha
      obtain ⟨before, hbefore, ⟨rfl, -⟩ | ⟨j, rfl, -⟩⟩ := afterMarks_cases ha
      · cases hb.symm.trans hbefore
        exact .inl rfl
      · cases hb.symm.trans hbefore
        exact .inr ⟨j, rfl⟩
    · rw [← exists_nonMstPhantomOf busName hnum]
      constructor
      · rintro ⟨i, b, j, hb, hu, ha⟩
        obtain ⟨before, hbefore, ⟨heq, -⟩ | ⟨k, -, hlast⟩⟩ := afterMarks_cases ha
        · cases hb.symm.trans hbefore
          exact absurd heq.symm (hneverSame b j hu (mem_of_getElem? hb))
        · rcases (mem_phantomMarks attrs busName).1 (mem_of_lastMark hlast) with hinv | hnon
          · obtain ⟨di, -, hdi, -, hinvalid, -⟩ := hinv
            cases hdi.symm.trans hb
            have hneg := of_decide_eq_true (Bool.and_eq_true_iff.1 hinvalid).2
            have hpos := (hnum b (mem_of_getElem? hb)).works hu
            omega
          · exact ⟨rfl, i, k, hnon⟩
      · rintro ⟨-, i, j, hnon⟩
        obtain ⟨⟨di, -, hdi, -, hvalid, -⟩, -⟩ := id hnon
        have hfoundSame : FoundSame attrs busName drefs i j := .inr hnon
        obtain ⟨before, k, hbefore, hafter⟩ := afterMarks_of_found hfoundSame
        cases hbefore.symm.trans hdi
        refine ⟨i, di, k, hdi, ?_, hafter⟩
        have hi2c := (Bool.and_eq_true_iff.1 hvalid).1
        rw [(hnum di (mem_of_getElem? hdi)).isValidI2c_eq] at hi2c
        exact (Bool.and_eq_true_iff.1 hi2c).2
  · refine ⟨false, drefs, if_neg hacts, rfl, ?_, ?_⟩
    · intro i b a hb ha
      cases hb.symm.trans ha
      exact .inl rfl
    · constructor
      · rintro ⟨i, b, j, hb, hu, ha⟩
        exact absurd (Option.some.inj (hb.symm.trans ha)) (hneverSame b j hu (mem_of_getElem? hb))
      · rintro ⟨hdetect, htwin⟩
        exact absurd ⟨hdetect, htwin.length⟩ hacts

/-! ## Counting -/

theorem countP_lt {α : Type} {p q : α → Bool} {l : List α} (hle : ∀ a ∈ l, p a = true → q a = true)
    (hlt : ∃ a ∈ l, q a = true ∧ p a = false) : l.countP p < l.countP q := by
  obtain ⟨a, ha, hq, hp⟩ := hlt
  obtain ⟨l₁, l₂, rfl⟩ := append_of_mem ha
  have h₁ := countP_mono_left fun b hb => hle b (mem_append_left _ hb)
  have h₂ := countP_mono_left fun b hb => hle b (mem_append_right _ (mem_cons_of_mem _ hb))
  rw [countP_append, countP_append, countP_cons_of_neg (by simp [hp]), countP_cons_of_pos hq]; omega

section Filtered

variable {busName} {detectPhantomDisplays : Bool} {drefs after : List DetectedRef}

theorem Filtered.unnumbered (h : Filtered busName detectPhantomDisplays drefs after) :
    after.map DetectedRef.unnumbered = drefs.map DetectedRef.unnumbered := by
  refine ext_getElem (by rw [length_map, length_map, h.length_eq]) fun i hi hi' => ?_
  rw [length_map] at hi hi'
  rw [getElem_map, getElem_map]
  rcases h.marked i _ _ (getElem?_eq_getElem hi') (getElem?_eq_getElem hi) with heq | ⟨j, heq⟩ <;> rw [heq]
  rfl

theorem Filtered.countP_zip (h : Filtered busName detectPhantomDisplays drefs after) (p q : DetectedRef → Bool) :
    (drefs.zip after).countP (fun x => p x.1) = drefs.countP p ∧ (drefs.zip after).countP (fun x => q x.2) = after.countP q := by
  have h1 : (drefs.zip after).map Prod.fst = drefs := map_fst_zip (Nat.le_of_eq h.length_eq.symm)
  have h2 : (drefs.zip after).map Prod.snd = after := map_snd_zip (Nat.le_of_eq h.length_eq)
  constructor
  · conv_rhs => rw [← h1]
    rw [countP_map]; rfl
  · conv_rhs => rw [← h2]
    rw [countP_map]; rfl

theorem isCounted_setPhantom (dref : DetectedRef) (j : Nat) : isCounted (dref.setPhantom j) = false := by
  simp [isCounted, DetectedRef.setPhantom]

theorem Numbered.isCounted_eq {dref : DetectedRef} (h : Numbered dref) : isCounted dref = usable dref.flags := by
  rw [isCounted, decide_eq_true h.not_phantom.1, Bool.and_true]

section
variable (h : Filtered busName detectPhantomDisplays drefs after) (hnum : ∀ dref ∈ drefs, Numbered dref)
include h hnum

theorem Filtered.same (hnone : ¬ (detectPhantomDisplays = true ∧ MstTwin busName drefs)) :
    positiveNumbers after = positiveNumbers drefs ∧
      after.countP isCounted = drefs.countP fun dref => usable dref.flags := by
  have hcase : ∀ (i : Nat) b a, drefs[i]? = some b → after[i]? = some a →
      a = b ∨ usable b.flags = false ∧ ∃ j, a = b.setPhantom j := by
    intro i b a hb ha
    rcases h.marked i b a hb ha with heq | ⟨j, rfl⟩
    · exact .inl heq
    · cases hu : usable b.flags with
      | true => exact absurd (h.usable_iff.1 ⟨i, b, j, hb, hu, ha⟩) hnone
      | false => exact .inr ⟨rfl, j, rfl⟩
  -- a display that is not usable has no positive number before or after
  have hmap : ∀ {γ : Type} (f g : DetectedRef → γ), (∀ dref ∈ drefs, f dref = g dref) →
      (∀ dref ∈ drefs, ∀ j, usable dref.flags = false → f (dref.setPhantom j) = g dref) → after.map f = drefs.map g := by
    intro γ f g hfg hmarked
    refine ext_getElem (by rw [length_map, length_map, h.length_eq]) fun i hi hi' => ?_
    rw [length_map] at hi hi'
    rw [getElem_map, getElem_map]
    rcases hcase i _ _ (getElem?_eq_getElem hi') (getElem?_eq_getElem hi) with heq | ⟨hu, j, heq⟩
    · rw [heq]; exact hfg _ (getElem_mem hi')
    · rw [heq]; exact hmarked _ (getElem_mem hi') j hu
  constructor
  · have hclamp : ∀ l : List DetectedRef, positiveNumbers l = (l.map fun d => max d.dispno 0).filter (0 < ·) := by
      intro l
      induction l with
      | nil => rfl
      | cons d l ih =>
        rw [positiveNumbers_cons, ih, map_cons, filter_cons]
        by_cases hpos : 0 < d.dispno
        · simp [hpos, Int.le_of_lt hpos]
        · simp [hpos]
    rw [hclamp, hclamp, hmap (fun d => max d.dispno 0) (fun d => max d.dispno 0) (fun _ _ => rfl)]
    intro dref hdref j hu
    have hneg : dref.dispno < 0 := (hnum dref hdref).state hu ▸ (stateNumber_neg dref.flags).1
    rw [Int.max_eq_right (Int.le_of_lt hneg)]; rfl
  · have hcounted := hmap isCounted (fun d => usable d.flags) (fun d hd => (hnum d hd).isCounted_eq)
      fun d _ j hu => (isCounted_setPhantom d j).trans hu.symm
    have := congrArg (List.countP id) hcounted
    rwa [countP_map, countP_map] at this

theorem Filtered.fewer (htwin : detectPhantomDisplays = true ∧ MstTwin busName drefs) :
    after.countP isCounted < drefs.countP fun dref => usable dref.flags := by
  obtain ⟨hbefore, hafter⟩ := h.countP_zip (fun dref => usable dref.flags) isCounted
  rw [← hbefore, ← hafter]
  refine countP_lt ?_ ?_
  · rintro ⟨b, a⟩ hmem hcounted
    obtain ⟨i, hi⟩ := getElem?_of_mem hmem
    obtain ⟨hb, ha⟩ := getElem?_zip_eq_some.1 hi
    rcases h.marked i b a hb ha with rfl | ⟨j, rfl⟩
    · exact ((hnum a (mem_of_getElem? hb)).isCounted_eq).symm.trans hcounted
    · exact absurd ((isCounted_setPhantom b j).symm.trans hcounted) (by decide)
  · obtain ⟨i, b, j, hb, hu, ha⟩ := h.usable_iff.2 htwin
    exact ⟨(b, b.setPhantom j), mem_of_getElem? (getElem?_zip_eq_some.2 ⟨hb, ha⟩), hu, isCounted_setPhantom b j⟩

theorem Filtered.numbers {a : DetectedRef} (ha : a ∈ after) :
    (0 < a.dispno → isCounted a = true) ∧
      (isCounted a = false → a.dispno = dispnoPhantom ∨ a.dispno = stateNumber a.flags) := by
  obtain ⟨i, hi⟩ := getElem?_of_mem ha
  have hlen : i < drefs.length := h.length_eq ▸ (List.getElem?_eq_some_iff.1 hi).1
  have hb := getElem?_eq_getElem hlen
  rcases h.marked i _ a hb hi with rfl | ⟨j, rfl⟩
  · have hn := hnum _ (mem_of_getElem? hb)
    rw [hn.isCounted_eq]
    refine ⟨fun hpos => ?_, fun hu => .inr (hn.state hu)⟩
    cases hu : usable drefs[i].flags with
    | true => rfl
    | false =>
      have hneg := (stateNumber_neg drefs[i].flags).1
      rw [← hn.state hu] at hneg; omega
  · exact ⟨fun hpos => absurd hpos (by decide : ¬ 0 < dispnoPhantom), fun _ => .inl rfl⟩

end

end Filtered

theorem dwAddDisplayByBusinfo_dispno {skip : Bool} {s s' : DisplayWorld} {a : Address} {found : DdcCheck} {ts : Nat}
    {hts : 0 < ts} {ndx : Nat} {dref : DisplayRef}
    (h : dwAddDisplayByBusinfo skip s a found ts hts = .ok (.added ndx, s')) (hdref : s'.allDisplayRefs[ndx]? = some dref) :
    dref.dispno = dispnoInvalid ∨ dref.dispno = s.dispnoMax + 1 := by
  obtain ⟨businfo, -, h⟩ := bind_eq_ok.1 h
  obtain ⟨-, -, h⟩ := bind_eq_ok.1 h
  split at h
  · cases h
  · obtain ⟨⟨err, d, buses⟩, -, h⟩ := bind_eq_ok.1 h
    dsimp only at h
    split at h
    · obtain ⟨-, -, h⟩ := bind_eq_ok.1 h
      cases h
    · split at h
      · cases h
        rw [getElem?_concat_length] at hdref
        cases hdref; exact .inl rfl
      · cases h
        rw [getElem?_concat_length] at hdref
        cases hdref; exact .inr rfl

/-! ## Where the numbers are right -/

/-- **The display numbers are right exactly where no monitor works twice**, once on a DPMST bus and once on another:
for all buses, USB monitors and cached displays, all outcomes of the checks and all answers of sysfs, and whatever the
setting, if and only if phantoms are not looked for or there is no such monitor among the displays as they were checked. -/
theorem ddcDetectAllDisplays_numbers_iff (c : Connected) (checks : Nat → DrefFlags → DrefFlags)
    (attrs : Nat → Nat → ConnectorAttrs) (busName : Nat → Option String) :
    (∃ d k, ddcDetectAllDisplays c checks attrs busName = .ok d ∧
      NumbersRight (scanDisplays checks c.displayList) d k) ↔
      ¬ (c.detectPhantomDisplays = true ∧ MstTwin busName (scanDisplays checks c.displayList)) := by
  obtain ⟨hnum, hsame, hpositive, hmax⟩ := assignDisplayNumbers_spec (scanDisplays checks c.displayList) 0
  have hlinked := linked_congr hsame (linked_scanDisplays checks (linked_displayList c))
  rw [← mstTwin_congr busName hsame]
  -- the number of usable displays is the same before and after they are numbered
  have hcount : (scanDisplays checks c.displayList).countP (fun dref => usable dref.flags) =
      (assignDisplayNumbers (scanDisplays checks c.displayList) 0).1.countP fun dref => usable dref.flags := by
    have := congrArg (List.countP fun dref => usable dref.flags) hsame
    rw [countP_map, countP_map] at this; exact this.symm
  rw [hcount] at hpositive hmax
  rw [Nat.zero_add] at hmax
  set numbered := assignDisplayNumbers (scanDisplays checks c.displayList) 0 with hnumbered
  obtain ⟨found, after, hfilter, hfiltered⟩ :=
    filter_numbered busName c.detectPhantomDisplays attrs hnum hlinked
  obtain ⟨hrunn, hrcounted, hrpositive, hrmem⟩ := renumber_spec after 1 Nat.one_pos
  set renumbered := if found = true then renumber after 1 else after with hrenumbered
  have hresult : ddcDetectAllDisplays c checks attrs busName =
      .ok ⟨renumbered, if c.busOpenErrors ≠ [] then some c.busOpenErrors else none, numbered.2⟩ := by
    unfold ddcDetectAllDisplays
    dsimp only
    rw [hfilter]; rfl
  have hcounted : renumbered.countP isCounted = after.countP isCounted := by
    rw [hrenumbered]
    split
    · have := congrArg (List.countP id) hrcounted
      rwa [countP_map, countP_map] at this
    · rfl
  constructor
  · rintro ⟨d, k, hd, hright⟩ htwin
    rw [hresult] at hd
    cases hd
    have hfewer := hfiltered.fewer hnum htwin
    have hk := hright.counted
    have hm := hright.max
    dsimp only at hk hm
    omega
  · intro hnone
    obtain ⟨hpositives, hcountEq⟩ := hfiltered.same hnum hnone
    refine ⟨_, after.countP isCounted, hresult, ?_, hcounted, ?_, ?_, ?_, ?_⟩
    · rw [← hsame, ← hfiltered.unnumbered, hrenumbered]
      split
      · exact hrunn
      · rfl
    · have hafter : positiveNumbers after = (List.range' 1 (after.countP isCounted)).map ((↑) : Nat → Int) := by
        rw [hpositives, hpositive, hcountEq]
      change positiveNumbers renumbered = _
      rw [hrenumbered]
      split
      · rw [hrpositive, hafter, length_map, length_range']
      · exact hafter
    · intro dref hdref hnot
      have hcases : dref ∈ after ∨ ∃ d ∈ after, 0 < d.dispno ∧ isCounted dref = isCounted d := by
        rw [hrenumbered] at hdref
        split at hdref
        · exact hrmem dref hdref
        · exact .inl hdref
      rcases hcases with hmem | ⟨d, hd, hpos, heq⟩
      · exact (hfiltered.numbers hnum hmem).2 hnot
      · have := (hfiltered.numbers hnum hd).1 hpos
        rw [← heq, hnot] at this; exact absurd this Bool.false_ne_true
    · exact hmax.trans hcountEq.symm
    · intro skip s a found ts hts ndx s' dref hs hadd hdref hpos
      rcases dwAddDisplayByBusinfo_dispno hadd hdref with hinvalid | hnext
      · rw [hinvalid] at hpos; exact absurd hpos (by decide)
      · rw [hnext, hs, hcountEq]; exact congrArg (fun n : Nat => (n : Int) + 1) hmax

def twinBuses : Connected where
  buses := [⟨3, some plainEdid, true, true, 0⟩, ⟨4, some plainEdid, true, true, 0⟩]
  usbMonitors := []
  usbOpenErrors := []
  deserializedDisplays := []
  displayCachingEnabled := false
  detectUsbDisplays := false
  detectPhantomDisplays := true

def allWork (_ : Nat) (flags : DrefFlags) : DrefFlags :=
  { flags with communicationChecked := true, communicationWorking := true }

/-- With bus 4 a DPMST bus one display counts, and the greatest number given is 2. -/
theorem twinBuses_not_right : ¬ ∃ d k,
    ddcDetectAllDisplays twinBuses allWork (fun _ _ => unusedAttrs) mstBusName = .ok d ∧
      NumbersRight (scanDisplays allWork twinBuses.displayList) d k := by
  have hrun : (match ddcDetectAllDisplays twinBuses allWork (fun _ _ => unusedAttrs) mstBusName with
      | .ok d => decide (d.displayList.countP isCounted = 1 ∧ d.dispnoMax = 2)
      | .error _ => false) = true := by decide +kernel
  rintro ⟨d, k, hd, hright⟩
  rw [hd] at hrun
  obtain ⟨hcount, hmax⟩ := of_decide_eq_true hrun
  have hk := hright.counted
  have hm := hright.max
  omega

end Ddc
