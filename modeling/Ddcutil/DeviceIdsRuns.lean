import Ddcutil.DeviceIdLoads
import Mathlib.Data.List.Chain
/-!
# DeviceIdsRuns — a pci.ids or usb.ids file is loaded, and its ids are looked up

Where a file keeps the rules below, it is loaded without a fault and each lookup finds the name that the text has for the
ids.  The rules are about the lines that the loaders lose, take for others, or have no room for.
-/
namespace Ddc.DevId

open Kit Kit.Outline List Exec

/-! ## Segments -/

/-- **A segment**: a line that is not under another one, and the lines up to the next such line with another first word. -/
structure Segment where
  head : Line
  tail : List Line
  isHead_head : isHead head = true
  quiet_tail : Quiet (firstWord head) tail

def Segment.tag (s : Segment) : List Byte := firstWord s.head

def Segment.lines (s : Segment) : List Line := s.head :: s.tail

def Segment.part (s : Segment) : List Line := s.lines.takeWhile (inSimple s.tag)

def Segment.lost (s : Segment) : List Line := s.lines.dropWhile (inSimple s.tag)

def simpleTags : List (List Byte) := [hidTag, rTag, hccTag]

/-- **A simple segment that is loaded as it is**: what is read is well formed, what is left is not, and the word that the
reading stopped at fits the buffer. -/
structure SimpleRegular (s : Segment) : Prop where
  wellFormed : ∀ aLine ∈ s.part, simpleIgnored aLine = false →
    (Section.simple s.tag).entry (tabct aLine) (body aLine) ≠ none
  short : ∀ aLine, s.lost.head? = some aLine → (firstWord aLine).length < maxTagSize
  nothingLost : ∀ aLine ∈ s.lost, (Section.simple s.tag).entry (tabct aLine) (body aLine) = none

instance (s : Segment) : Decidable (SimpleRegular s) :=
  decidable_of_iff
    ((∀ aLine ∈ s.part, simpleIgnored aLine = false → (Section.simple s.tag).entry (tabct aLine) (body aLine) ≠ none) ∧
      (∀ aLine ∈ s.lost.head?, (firstWord aLine).length < maxTagSize) ∧
      ∀ aLine ∈ s.lost, (Section.simple s.tag).entry (tabct aLine) (body aLine) = none)
    ⟨fun h => ⟨h.1, h.2.1, h.2.2⟩, fun h => ⟨h.wellFormed, h.short, h.nothingLost⟩⟩

structure UsagesRegular (s : Segment) : Prop where
  tidy : Tidy usagesClears usagesOrphan 0 0 (Section.usages.outline s.lines)
  first : FirstEnclosed (Section.usages.entries s.lines)

structure SegmentRegular (s : Segment) : Prop where
  short : s.tag.length < maxTagSize
  simple : s.tag ∈ simpleTags → SimpleRegular s
  usages : s.tag = hutTag → UsagesRegular s

/-- The first line behind the usages is lost, so it must not be one of a simple segment. -/
def FollowsWell (s s' : Segment) : Prop := s.tag ≠ s'.tag ∧ (s.tag = hutTag → s'.tag ∉ simpleTags)

instance : DecidableRel FollowsWell := fun s s' =>
  inferInstanceAs (Decidable (s.tag ≠ s'.tag ∧ (s.tag = hutTag → s'.tag ∉ simpleTags)))

structure SegmentsRegular (segs : List Segment) : Prop where
  chain : segs.IsChain FollowsWell
  usagesOnce : segs.Pairwise fun s s' => s.tag = hutTag → s'.tag ≠ hutTag
  each : ∀ s ∈ segs, SegmentRegular s

variable {s : Segment} {segs : List Segment}

theorem SegmentsRegular.tail (h : SegmentsRegular (s :: segs)) : SegmentsRegular segs :=
  ⟨h.chain.tail, (pairwise_cons.1 h.usagesOnce).2, fun s' hs' => h.each s' (mem_cons_of_mem s hs')⟩

/-! ## One segment -/

def lastOf {α : Type} (tag : List Byte) (view : Segment → α) (segs : List Segment) (start : Option α) : Option α :=
  segs.foldl (fun found s => if s.tag = tag then some (view s) else found) start

def Segment.usageNodes (s : Segment) : List MlmNode :=
  ((Section.usages.outline s.lines).foldl (lay usagesClears) ⟨[], []⟩).nodes

structure Loaded (stale : Nat) (segs : List Segment) (t t' : Tables) : Prop where
  usb : t'.usbVendorsMlm = t.usbVendorsMlm
  hid : t'.hidDescriptorTypes = lastOf hidTag (fun s => simpleTable stale s.part) segs t.hidDescriptorTypes
  r : t'.hidDescriptorItemTypes = lastOf rTag (fun s => simpleTable stale s.part) segs t.hidDescriptorItemTypes
  hcc : t'.hidCountryCodes = lastOf hccTag (fun s => simpleTable stale s.part) segs t.hidCountryCodes
  hut : t'.hidUsagesTable.map MultiLevelMap.nodes =
    lastOf hutTag Segment.usageNodes segs (t.hidUsagesTable.map MultiLevelMap.nodes)

theorem loaded_nil (stale : Nat) (t : Tables) : Loaded stale [] t t := ⟨rfl, rfl, rfl, rfl, rfl⟩

theorem Loaded.cons {stale : Nat} {t t' t'' : Tables} (h : Loaded stale [s] t t') (h' : Loaded stale segs t' t'') :
    Loaded stale (s :: segs) t t'' where
  usb := h'.usb.trans h.usb
  hid := by rw [h'.hid, h.hid]; rfl
  r := by rw [h'.r, h.r]; rfl
  hcc := by rw [h'.hcc, h.hcc]; rfl
  hut := by rw [h'.hut, h.hut]; rfl

theorem lastOf_one {α : Type} {tag : List Byte} {view : Segment → α} {start : Option α} :
    lastOf tag view [s] start = if s.tag = tag then some (view s) else start := rfl

theorem Segment.quiet_lines (s : Segment) : Quiet s.tag s.lines := by
  intro aLine hmem hhead
  rcases mem_cons.1 hmem with rfl | htail
  · rfl
  · exact s.quiet_tail aLine htail hhead

theorem Segment.lines_eq (s : Segment) : s.lines = s.part ++ s.lost := (takeWhile_append_dropWhile ..).symm

theorem Segment.tag_ne_nil (s : Segment) : s.tag ≠ [] := firstWord_ne_nil (isHead_rtrim s.isHead_head).1

theorem length_le_flatMap_lines (segs : List Segment) : segs.length ≤ (segs.flatMap Segment.lines).length := by
  induction segs with
  | nil => exact Nat.le_refl 0
  | cons s segs ih =>
    rw [flatMap_cons, length_append, Segment.lines, length_cons, length_cons]; omega

theorem Segment.part_ne_nil (s : Segment) : s.part ≠ [] := by
  have hin : inSimple s.tag s.head = true := by simp [inSimple, Segment.tag]
  rw [Segment.part, Segment.lines, takeWhile_cons_of_pos hin]; exact cons_ne_nil _ _

section One

variable (stale : Nat) {allLines more : List Line} {pos : Nat} {s : Segment} (h : SegmentRegular s)
  (hdrop : allLines.drop pos = s.lines ++ more)
  (hstop : ∀ aLine, more.head? = some aLine →
    isHead aLine = true ∧ firstWord aLine ≠ s.tag ∧ (firstWord aLine).length < maxTagSize)

include h hdrop hstop

theorem simpleSegment_loaded (hsimple : SimpleRegular s) :
    ∃ n junk, loadSimpleIdSegment stale allLines s.tag pos = .ok (simpleTable stale s.part, n) ∧
      allLines.drop n = junk ++ more ∧ Quiet s.tag junk := by
  rw [s.lines_eq, append_assoc] at hdrop
  obtain ⟨n, junk, hload, hrest, hjunk⟩ := loadSimpleIdSegment_eq stale h.short hdrop s.part_ne_nil
    (fun aLine hmem => mem_takeWhile_imp hmem) fun aLine hhead => by
      cases hlost : s.lost with
      | nil =>
        rw [hlost, nil_append] at hhead
        obtain ⟨hhead, hword, hlen⟩ := hstop aLine hhead
        exact ⟨by simp [inSimple, isHead_simpleIgnored hhead, hword], hlen⟩
      | cons l lost =>
        rw [hlost, cons_append] at hhead
        cases hhead
        refine ⟨?_, hsimple.short aLine (by rw [hlost]; rfl)⟩
        have hdropped : s.lines.dropWhile (inSimple s.tag) = aLine :: lost := hlost
        have hnot := head_dropWhile_not (inSimple s.tag) (l := s.lines) (by rw [hdropped]; exact cons_ne_nil _ _)
        simpa only [hdropped, head_cons] using hnot
  refine ⟨n, junk ++ s.lost, hload, by rw [hrest, append_assoc], fun aLine hmem => ?_⟩
  refine s.quiet_lines aLine ?_
  rw [s.lines_eq]
  rcases mem_append.1 hmem with hmem | hmem
  · exact mem_append_left _ (hjunk aLine hmem)
  · exact mem_append_right _ hmem

/-- **What loading a segment leaves**, and what is then still to be read; the line behind the usages is not. -/
theorem loadSegment_loaded (t : Tables) :
    ∃ t' n junk, loadSegment stale allLines t s.tag pos = .ok (t', n) ∧ Loaded stale [s] t t' ∧
      allLines.drop n = junk ++ (if s.tag = hutTag then more.tail else more) ∧ Quiet s.tag junk := by
  unfold loadSegment
  by_cases hhid : s.tag = hidTag
  · obtain ⟨n, junk, hload, hrest, hquiet⟩ := simpleSegment_loaded stale h hdrop hstop (h.simple (by rw [hhid]; decide))
    rw [if_pos hhid, hload, ok_bind, if_neg (by rw [hhid]; decide)]
    refine ⟨_, n, junk, rfl, ?_, hrest, hquiet⟩
    constructor <;> simp only [lastOf_one, hhid] <;> rfl
  rw [if_neg hhid]
  by_cases hr : s.tag = rTag
  · obtain ⟨n, junk, hload, hrest, hquiet⟩ := simpleSegment_loaded stale h hdrop hstop (h.simple (by rw [hr]; decide))
    rw [if_pos hr, hload, ok_bind, if_neg (by rw [hr]; decide)]
    refine ⟨_, n, junk, rfl, ?_, hrest, hquiet⟩
    constructor <;> simp only [lastOf_one, hr] <;> rfl
  rw [if_neg hr]
  by_cases hhcc : s.tag = hccTag
  · obtain ⟨n, junk, hload, hrest, hquiet⟩ := simpleSegment_loaded stale h hdrop hstop (h.simple (by rw [hhcc]; decide))
    rw [if_pos hhcc, hload, ok_bind, if_neg (by rw [hhcc]; decide)]
    refine ⟨_, n, junk, rfl, ?_, hrest, hquiet⟩
    constructor <;> simp only [lastOf_one, hhcc] <;> rfl
  rw [if_neg hhcc]
  by_cases hhut : s.tag = hutTag
  · have hregular := h.usages hhut
    rw [hhut] at hstop
    obtain ⟨map, n, hload, hrest, hnodes⟩ :=
      loadMultiLevelSegment_eq hdrop (hhut ▸ s.quiet_lines) hregular.tidy hstop
    rw [if_pos hhut, hhut, hload, ok_bind, if_pos rfl]
    refine ⟨_, n, [], rfl, ?_, hrest, fun l hl => by cases hl⟩
    constructor
    · rfl
    · simp only [lastOf_one, hhut]; rfl
    · simp only [lastOf_one, hhut]; rfl
    · simp only [lastOf_one, hhut]; rfl
    · rw [lastOf_one, if_pos hhut]; exact congrArg some hnodes
  · rw [if_neg hhut, if_neg hhut]
    refine ⟨t, pos, s.lines, rfl, ?_, hdrop, s.quiet_lines⟩
    constructor
    · rfl
    · rw [lastOf_one, if_neg hhid]
    · rw [lastOf_one, if_neg hr]
    · rw [lastOf_one, if_neg hhcc]
    · rw [lastOf_one, if_neg hhut]

end One

/-! ## All segments -/

theorem Segment.tail_cases (s : Segment) :
    (∀ aLine ∈ s.tail, isHead aLine = false) ∨
      ∃ junk s', s.tail = junk ++ Segment.lines s' ∧ (∀ aLine ∈ junk, isHead aLine = false) ∧ s'.tag = s.tag := by
  have hsplit : s.tail = s.tail.takeWhile (fun l => !isHead l) ++ s.tail.dropWhile fun l => !isHead l :=
    (takeWhile_append_dropWhile ..).symm
  have hjunk : ∀ aLine ∈ s.tail.takeWhile (fun l => !isHead l), isHead aLine = false := fun aLine hmem => by
    simpa using mem_takeWhile_imp hmem
  cases hrest : s.tail.dropWhile fun l => !isHead l with
  | nil =>
    rw [hrest, append_nil] at hsplit
    left
    rw [hsplit]; exact hjunk
  | cons head rest =>
    have hmem : ∀ aLine ∈ head :: rest, aLine ∈ s.tail := fun aLine hmem => by
      rw [hsplit, hrest]; exact mem_append_right _ hmem
    have hhead : isHead head = true := by
      have hnot := head_dropWhile_not (fun l => !isHead l) (l := s.tail) (by rw [hrest]; exact cons_ne_nil _ _)
      simp only [hrest, head_cons] at hnot
      simpa using hnot
    have hword : firstWord head = s.tag := s.quiet_tail head (hmem head mem_cons_self) hhead
    right
    refine ⟨_, ⟨head, rest, hhead, fun aLine hl hl' => ?_⟩, hsplit.trans (by rw [hrest]; rfl), hjunk, hword⟩
    rw [hword]; exact s.quiet_tail aLine (hmem aLine (mem_cons_of_mem head hl)) hl'

theorem Quiet.append {tag : List Byte} {text text' : List Line} (h : Quiet tag text)
    (h' : ∀ aLine ∈ text', isHead aLine = false) : Quiet tag (text ++ text') := by
  intro aLine hmem hhead
  rcases mem_append.1 hmem with hmem | hmem
  · exact h aLine hmem hhead
  · rw [h' aLine hmem] at hhead; cases hhead

theorem SegmentsRegular.replace {s' : Segment} (h : SegmentsRegular (s :: segs)) (hsame : s'.tag = s.tag)
    (hsimple : s.tag ∉ simpleTags) (hhut : s.tag ≠ hutTag) : SegmentsRegular (s' :: segs) where
  chain := by
    have hchain := isChain_cons.1 h.chain
    refine isChain_cons.2 ⟨fun s₂ hs₂ => ?_, hchain.2⟩
    have hfollows := hchain.1 s₂ hs₂
    exact ⟨hsame ▸ hfollows.1, fun heq => absurd (hsame ▸ heq) hhut⟩
  usagesOnce := pairwise_cons.2 ⟨fun _ _ heq => absurd (hsame ▸ heq) hhut, (pairwise_cons.1 h.usagesOnce).2⟩
  each s₂ hs₂ := by
    rcases mem_cons.1 hs₂ with rfl | hs₂
    · exact ⟨hsame ▸ (h.each s mem_cons_self).short, fun hmem => absurd (hsame ▸ hmem) hsimple,
        fun heq => absurd (hsame ▸ heq) hhut⟩
    · exact h.each s₂ (mem_cons_of_mem s hs₂)

theorem head_flatMap_lines {aLine : Line} (h : (segs.flatMap Segment.lines).head? = some aLine) :
    ∃ s segs', segs = s :: segs' ∧ aLine = s.head := by
  cases segs with
  | nil => cases h
  | cons s segs => exact ⟨s, segs, rfl, (Option.some.inj h).symm⟩

theorem loaded_cons_other {stale : Nat} {t t' : Tables} (hsimple : s.tag ∉ simpleTags) (hhut : s.tag ≠ hutTag) :
    Loaded stale (s :: segs) t t' ↔ Loaded stale segs t t' := by
  have hskip : ∀ {α : Type} {tag : List Byte} (view : Segment → α) (start : Option α), s.tag ≠ tag →
      lastOf tag view (s :: segs) start = lastOf tag view segs start := fun view start hne => by
    unfold lastOf
    rw [foldl_cons, if_neg hne]
  have hhid : s.tag ≠ hidTag := fun h => hsimple (by rw [h]; decide)
  have hr : s.tag ≠ rTag := fun h => hsimple (by rw [h]; decide)
  have hhcc : s.tag ≠ hccTag := fun h => hsimple (by rw [h]; decide)
  constructor
  · intro h
    exact ⟨h.usb, h.hid.trans (hskip _ _ hhid), h.r.trans (hskip _ _ hr), h.hcc.trans (hskip _ _ hhcc),
      h.hut.trans (hskip _ _ hhut)⟩
  · intro h
    exact ⟨h.usb, h.hid.trans (hskip _ _ hhid).symm, h.r.trans (hskip _ _ hr).symm, h.hcc.trans (hskip _ _ hhcc).symm,
      h.hut.trans (hskip _ _ hhut).symm⟩

section Turn

variable (stale : Nat) {allLines junk : List Line} {n : Nat} {tag : List Byte} (htag : tag.length < maxTagSize)
  (hquiet : Quiet tag junk) (t : Tables)

include htag hquiet

theorem segmentLoop_end (hdrop : allLines.drop n = junk) (fuel : Nat) :
    ∃ s', whileLoop (moreLines allLines) (segmentTurn stale allLines) (fuel + 1) ⟨t, n, tag⟩ =
      .ok s' ∧ s'.tables = t := by
  have hlen := congrArg List.length hdrop
  rw [length_drop] at hlen
  by_cases hlt : n < allLines.length
  · have hturn : segmentTurn stale allLines ⟨t, n, tag⟩ = .ok ⟨t, n + junk.length, tag⟩ := by
      unfold segmentTurn findNextSegmentStart
      rw [hdrop, ← append_nil junk, findNextFrom_quiet htag [] junk hquiet, append_nil, findNextFrom,
        ok_bind, if_pos (by dsimp only; omega)]
    have hmore : moreLines allLines ⟨t, n, tag⟩ = true := decide_eq_true hlt
    have hend : moreLines allLines ⟨t, n + junk.length, tag⟩ = false := decide_eq_false (by dsimp only; omega)
    rw [whileLoop_step fuel hmore hturn, whileLoop_stop hend]; exact ⟨_, rfl, rfl⟩
  · have hend : moreLines allLines ⟨t, n, tag⟩ = false := decide_eq_false hlt
    rw [whileLoop_stop hend]; exact ⟨_, rfl, rfl⟩

theorem segmentTurn_loaded {s : Segment} {segs : List Segment} (h : SegmentsRegular (s :: segs))
    (hdrop : allLines.drop n = junk ++ (s :: segs).flatMap Segment.lines) (hne : s.tag ≠ tag) :
    ∃ t' n' junk', moreLines allLines ⟨t, n, tag⟩ = true ∧
      segmentTurn stale allLines ⟨t, n, tag⟩ = .ok ⟨t', n', s.tag⟩ ∧
      Loaded stale [s] t t' ∧ Quiet s.tag junk' ∧
      allLines.drop n' =
        junk' ++ if s.tag = hutTag then (segs.flatMap Segment.lines).tail else segs.flatMap Segment.lines := by
  have hs := h.each s mem_cons_self
  have hlen := congrArg List.length hdrop
  rw [flatMap_cons] at hdrop hlen
  simp only [length_drop, length_append, Segment.lines, length_cons] at hlen
  have hdrop' : allLines.drop (n + junk.length) = s.lines ++ segs.flatMap Segment.lines := by
    rw [← drop_drop, hdrop, drop_left]
  obtain ⟨t', n', junk', hload, hloaded, hrest, hquiet'⟩ := loadSegment_loaded stale hs hdrop' (fun aLine haLine => by
    obtain ⟨s₂, segs₂, rfl, rfl⟩ := head_flatMap_lines haLine
    have hfollows := (isChain_cons_cons.1 h.chain).1
    exact ⟨s₂.isHead_head, fun heq => hfollows.1 heq.symm,
      (h.each s₂ (mem_cons_of_mem s mem_cons_self)).short⟩) t
  refine ⟨t', n', junk', decide_eq_true (by dsimp only; omega), ?_, hloaded, hquiet', hrest⟩
  rw [segmentTurn, findNextSegmentStart, hdrop, findNextFrom_quiet htag _ junk hquiet, Segment.lines, cons_append,
    findNextFrom_head s.isHead_head hne hs.short, ok_bind, if_neg (by dsimp only; omega)]
  rw [← Segment.tag, hload, ok_bind]

end Turn

theorem segments_run (stale : Nat) (allLines : List Line) : ∀ (m : Nat) {segs : List Segment}, segs.length < m →
    SegmentsRegular segs → ∀ {fuel n : Nat} {t : Tables} {tag : List Byte} {junk : List Line}, segs.length < fuel →
    allLines.drop n = junk ++ segs.flatMap Segment.lines → Quiet tag junk → tag.length < maxTagSize →
    (∀ s, segs.head? = some s → s.tag ≠ tag) →
    ∃ s', whileLoop (moreLines allLines) (segmentTurn stale allLines) fuel ⟨t, n, tag⟩ = .ok s' ∧
      Loaded stale segs t s'.tables := by
  intro m
  induction m with
  | zero => exact fun hm => absurd hm (Nat.not_lt_zero _)
  | succ m ih =>
    intro segs hm h fuel n t tag junk hfuel hdrop hquiet htag hhead
    obtain ⟨fuel, rfl⟩ := Nat.exists_eq_succ_of_ne_zero (Nat.ne_of_gt (Nat.lt_of_le_of_lt (Nat.zero_le _) hfuel))
    cases segs with
    | nil =>
      rw [flatMap_nil, append_nil] at hdrop
      obtain ⟨s', hs', htables⟩ := segmentLoop_end stale htag hquiet t hdrop fuel
      exact ⟨s', hs', by rw [htables]; exact loaded_nil stale t⟩
    | cons s segs =>
      rw [length_cons] at hm hfuel
      obtain ⟨t', n', junk', hmore, hturn, hloaded, hquiet', hrest⟩ :=
        segmentTurn_loaded stale htag hquiet t h hdrop (hhead s rfl)
      have hshort := (h.each s mem_cons_self).short
      rw [whileLoop_step fuel hmore hturn]
      suffices hgoal : ∃ s', whileLoop (moreLines allLines) (segmentTurn stale allLines) fuel
          ⟨t', n', s.tag⟩ = .ok s' ∧ Loaded stale segs t' s'.tables by
        obtain ⟨s', hs', hloaded'⟩ := hgoal
        exact ⟨s', hs', hloaded.cons hloaded'⟩
      by_cases hhut : s.tag = hutTag
      · rw [if_pos hhut] at hrest
        cases segs with
        | nil =>
          have hlt : ([] : List Segment).length < m := Nat.lt_of_succ_lt_succ hm
          exact ih hlt h.tail (Nat.lt_of_succ_lt_succ hfuel) hrest hquiet' hshort fun s₂ hs₂ => by cases hs₂
        | cons s₂ segs =>
          -- the first line of the segment behind the usages is lost, which is none of the four
          have hfollows := (isChain_cons_cons.1 h.chain).1
          have hsimple := hfollows.2 hhut
          have hother : s₂.tag ≠ hutTag := fun heq => hfollows.1 (hhut.trans heq.symm)
          rw [length_cons] at hm hfuel
          rw [flatMap_cons, Segment.lines, cons_append, tail_cons] at hrest
          simp only [loaded_cons_other hsimple hother]
          rcases s₂.tail_cases with hnone | ⟨junk₂, s₂', htail, hnone, hsame⟩
          · rw [← append_assoc] at hrest
            refine ih (by omega) h.tail.tail (by omega) hrest (hquiet'.append hnone) hshort fun s₃ hs₃ => ?_
            rw [hhut]
            exact (pairwise_cons.1 h.usagesOnce).1 s₃ (mem_cons_of_mem s₂ (mem_of_mem_head? hs₃)) hhut
          · rw [htail, append_assoc, ← append_assoc, ← flatMap_cons] at hrest
            have hlt : (s₂' :: segs).length < fuel := by rw [length_cons]; omega
            obtain ⟨s', hs', hloaded'⟩ := ih (by rw [length_cons]; omega) (h.tail.replace hsame hsimple hother) hlt
              hrest (hquiet'.append hnone) hshort fun s₃ hs₃ => by
                cases hs₃
                rw [hsame]; exact fun heq => hfollows.1 heq.symm
            exact ⟨s', hs', (loaded_cons_other (hsame ▸ hsimple) (hsame ▸ hother)).1 hloaded'⟩
      · rw [if_neg hhut] at hrest
        refine ih (Nat.le_of_succ_le_succ hm) h.tail (by omega) hrest hquiet' hshort fun s₂ hs₂ => ?_
        cases segs with
        | nil => cases hs₂
        | cons s₃ segs =>
          cases hs₂; exact fun heq => (isChain_cons_cons.1 h.chain).1.1 heq.symm

end Ddc.DevId
