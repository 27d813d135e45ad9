import Ddcutil.CapabilitiesLex
/-!
# CapabilitiesSafe — what each part of a capabilities string adds

Every part of the string has messages of its own and a verdict of its own (`VcpItem.messages`, `VcpItem.verdict`,
`Seg.messages`, `Seg.verdict`).  The parser appends the messages and keeps the worst verdict, so the record it returns
is read off the parts.
-/
namespace Ddc

open Kit List

/-! ## The worst of several verdicts -/

variable (v : CapsValidity)

@[simp] theorem updateValidity_valid_left : updateValidity .valid v = v := by
  cases v <;> rfl

@[simp] theorem updateValidity_valid_right : updateValidity v .valid = v := by
  cases v <;> rfl

@[simp] theorem updateValidity_invalid_right : updateValidity v .invalid = .invalid := by
  cases v <;> rfl

theorem updateValidity_assoc (u v w : CapsValidity) :
    updateValidity (updateValidity u v) w = updateValidity u (updateValidity v w) := by
  cases u <;> cases v <;> cases w <;> rfl

theorem updateValidity_eq_valid {u v : CapsValidity} : updateValidity u v = .valid ↔ u = .valid ∧ v = .valid := by
  cases u <;> cases v <;> simp [updateValidity]

theorem updateValidity_eq_invalid {u v : CapsValidity} :
    updateValidity u v = .invalid ↔ u = .invalid ∨ v = .invalid := by
  cases u <;> cases v <;> simp [updateValidity]

theorem degrade_eq : degrade v = updateValidity v .usable := by
  cases v <;> rfl

def worst (vs : List CapsValidity) : CapsValidity := vs.foldr updateValidity .valid

@[simp] theorem worst_nil : worst [] = .valid := rfl

@[simp] theorem worst_cons (vs : List CapsValidity) : worst (v :: vs) = updateValidity v (worst vs) := rfl

theorem worst_eq_valid {vs : List CapsValidity} : worst vs = .valid ↔ ∀ v ∈ vs, v = .valid := by
  induction vs with
  | nil => simp
  | cons v vs ih => rw [worst_cons, updateValidity_eq_valid, ih, forall_mem_cons]

theorem worst_eq_invalid {vs : List CapsValidity} : worst vs = .invalid ↔ .invalid ∈ vs := by
  induction vs with
  | nil => simp
  | cons v vs ih => rw [worst_cons, updateValidity_eq_invalid, ih, mem_cons, eq_comm]

/-! ## Feature codes -/

def VcpItem.feature (item : VcpItem) : Option CapabilitiesFeature :=
  match item.featureId, item.values with
  | some id, .bare => some (parseCapabilitiesFeature id none).1
  | some id, .list values => some (parseCapabilitiesFeature id (some values)).1
  | _, _ => none

def VcpItem.messages (item : VcpItem) : List CapsMessage :=
  (if item.featureId = none then [.invalidCode item.first] else []) ++
    match item.featureId, item.values with
    | _, .notClosed => [.valuesNotClosed]
    | some id, .list values => (parseCapabilitiesFeature id (some values)).2
    | _, _ => []

def VcpItem.verdict (item : VcpItem) : CapsValidity :=
  match item.featureId, item.values with
  | _, .notClosed => .invalid
  | none, _ => .usable
  | some _, .bare => .usable
  | some _, .list values => if (storeBytehexList values).1 = true then .valid else .usable

theorem applyItem_eq (r : VcpResult) (item : VcpItem) : applyItem r item =
    ⟨updateValidity r.result item.verdict, r.vcpArray ++ item.feature.toList, r.messages ++ item.messages⟩ := by
  unfold applyItem VcpItem.verdict VcpItem.feature VcpItem.messages
  cases item.featureId with
  | none =>
    cases item.values <;>
      simp [ItemValues.apply, VcpResult.invalidCode, VcpResult.valuesNotClosed, VcpResult.addFeature, degrade_eq]
  | some id =>
    cases item.values with
    | bare => simp [ItemValues.apply, VcpResult.addFeature, parseCapabilitiesFeature, degrade_eq]
    | notClosed => simp [ItemValues.apply, VcpResult.valuesNotClosed]
    | list values =>
      cases h : (storeBytehexList values).1 <;>
        simp [ItemValues.apply, VcpResult.addFeature, parseCapabilitiesFeature, degrade_eq, h]

theorem foldl_applyItem_eq : ∀ (items : List VcpItem) (r : VcpResult), items.foldl applyItem r =
    ⟨updateValidity r.result (worst (items.map VcpItem.verdict)), r.vcpArray ++ items.filterMap VcpItem.feature,
      r.messages ++ items.flatMap VcpItem.messages⟩
  | [], r => by simp
  | item :: items, r => by
    rw [foldl_cons, foldl_applyItem_eq, applyItem_eq]
    cases h : item.feature <;> simp [h, updateValidity_assoc]

/-! ## Segments -/

def Seg.messages (s : Seg) : List CapsMessage :=
  if s.name = ascii "cmds" then (parseCmdsSegment s.value).2
  else if s.IsVcp then (lexItems s.value).flatMap VcpItem.messages
  else if s.name = ascii "mccs_ver" then
    if parseVspec (cstr s.value) = vspecUnknown then [.invalidMccsVer s.value] else []
  else []

def Seg.verdict (s : Seg) : CapsValidity :=
  if s.name = ascii "cmds" then if (parseCmdsSegment s.value).1 = none then .usable else .valid
  else if s.IsVcp then worst ((lexItems s.value).map VcpItem.verdict)
  else if s.name = ascii "mccs_ver" then if parseVspec (cstr s.value) = vspecUnknown then .usable else .valid
  else .valid

variable (p : ParsedCapabilities)

theorem applySegment_messages (s : Seg) : (applySegment p s).messages = p.messages ++ s.messages := by
  unfold applySegment Seg.messages applyItems
  split_ifs <;> simp [applyCmds, applyVcp, applyMccsVer, applyModel, foldl_applyItem_eq, *]

theorem applySegment_capsValidity (s : Seg) :
    (applySegment p s).capsValidity = updateValidity p.capsValidity s.verdict := by
  unfold applySegment Seg.verdict applyItems
  split_ifs <;> simp [applyCmds, applyVcp, applyMccsVer, applyModel, foldl_applyItem_eq, degrade_eq, *]

theorem foldl_applySegment_messages : ∀ (segs : List Seg) (p : ParsedCapabilities),
    (segs.foldl applySegment p).messages = p.messages ++ segs.flatMap Seg.messages
  | [], p => by simp
  | s :: segs, p => by
    rw [foldl_cons, foldl_applySegment_messages, applySegment_messages, flatMap_cons, append_assoc]

theorem foldl_applySegment_capsValidity : ∀ (segs : List Seg) (p : ParsedCapabilities),
    (segs.foldl applySegment p).capsValidity = updateValidity p.capsValidity (worst (segs.map Seg.verdict))
  | [], p => by simp
  | s :: segs, p => by
    rw [foldl_cons, foldl_applySegment_capsValidity, applySegment_capsValidity, map_cons, worst_cons,
      updateValidity_assoc]

def Seg.features (s : Seg) : List CapabilitiesFeature :=
  if s.IsVcp then (lexItems s.value).filterMap VcpItem.feature else []

theorem applySegment_vcpFeatures (s : Seg) : (applySegment p s).vcpFeatures = p.vcpFeatures ++ s.features := by
  unfold applySegment Seg.features
  by_cases hcmds : s.name = ascii "cmds"
  · have hvcp : ¬ s.IsVcp := by rw [Seg.IsVcp, hcmds]; decide
    rw [if_pos hcmds, if_neg hvcp, append_nil]; rfl
  rw [if_neg hcmds]
  by_cases hvcp : s.IsVcp
  · rw [if_pos hvcp, if_pos hvcp, applyItems, foldl_applyItem_eq]; rfl
  rw [if_neg hvcp, if_neg hvcp, append_nil]
  split
  · rfl
  split
  · rfl
  · rfl

theorem foldl_applySegment_vcpFeatures : ∀ (segs : List Seg) (p : ParsedCapabilities),
    (segs.foldl applySegment p).vcpFeatures = p.vcpFeatures ++ segs.flatMap Seg.features
  | [], p => by simp
  | s :: segs, p => by
    rw [foldl_cons, foldl_applySegment_vcpFeatures, applySegment_vcpFeatures, flatMap_cons,
      append_assoc]

theorem applySegment_rawValue (p : ParsedCapabilities) (s : Seg) (raw : List Byte) :
    applySegment { p with rawValue := raw } s = { applySegment p s with rawValue := raw } := by
  unfold applySegment
  split_ifs <;> rfl

theorem foldl_applySegment_rawValue : ∀ (segs : List Seg) (p : ParsedCapabilities) (raw : List Byte),
    segs.foldl applySegment { p with rawValue := raw } = { segs.foldl applySegment p with rawValue := raw }
  | [], _, _ => rfl
  | s :: segs, p, raw => by
    rw [foldl_cons, foldl_cons, applySegment_rawValue, foldl_applySegment_rawValue]

/-! ## A structural message for every invalid verdict -/

theorem VcpItem.structural_of_invalid {item : VcpItem} (h : item.verdict = .invalid) :
    ∃ m ∈ item.messages, m.structural = true := by
  have hv : item.values = .notClosed := by
    unfold VcpItem.verdict at h
    split at h
    · assumption
    · cases h
    · cases h
    · split_ifs at h
  refine ⟨.valuesNotClosed, ?_, rfl⟩
  rw [VcpItem.messages, hv]; simp

theorem Seg.structural_of_invalid {s : Seg} (h : s.verdict = .invalid) : ∃ m ∈ s.messages, m.structural = true := by
  unfold Seg.verdict at h
  unfold Seg.messages
  split_ifs at h ⊢ with hcmds hvcp hver
  obtain ⟨item, hmem, hitem⟩ := mem_map.1 (worst_eq_invalid.1 h)
  obtain ⟨m, hm, hs⟩ := item.structural_of_invalid hitem
  exact ⟨m, mem_flatMap.2 ⟨item, hmem, hm⟩, hs⟩

end Ddc

/-! ## When `parse_capabilities` returns

`Spaced segs text` says that `text` spells the segments `segs` with any number of blanks in front of each.  Blanks
there change nothing.
-/

namespace Ddc

open Kit List

/-- **The text spells the segments**, with any number of blanks in front of each. -/
inductive Spaced : List Seg → List Byte → Prop where
  | nil : Spaced [] []
  | cons {s : Seg} {segs : List Seg} {pad text : List Byte} : (∀ c ∈ pad, isBlank c = true) → s.WellFormed →
      Spaced segs text → Spaced (s :: segs) (pad ++ (s.render ++ text))

theorem Spaced.plain : ∀ {segs : List Seg}, (∀ s ∈ segs, s.WellFormed) → Spaced segs (segs.flatMap Seg.render)
  | [], _ => .nil
  | s :: segs, h => by
    have hs := forall_mem_cons.1 h
    have hpad : ∀ c ∈ ([] : List Byte), isBlank c = true := fun c hc => by cases hc
    exact .cons hpad hs.1 (Spaced.plain hs.2)

variable {segs : List Seg} {text bytes : List Byte}

theorem Spaced.wellFormed (h : Spaced segs text) : ∀ s ∈ segs, s.WellFormed := by
  induction h with
  | nil => exact fun s hs => by cases hs
  | cons _ hs _ ih => exact forall_mem_cons.2 ⟨hs, ih⟩

theorem Spaced.lexSegments_append (h : Spaced segs text) (tail : List Byte) :
    lexSegments (text ++ tail) = (segs ++ (lexSegments tail).1, (lexSegments tail).2) := by
  induction h with
  | nil => rfl
  | @cons s segs pad text hpad hs _ ih =>
    have hseg : lexSegment (pad ++ (s.render ++ text) ++ tail) = .seg s (text ++ tail) :=
      lexSegment_eq_seg.2 ⟨hs, pad, hpad, by rw [append_assoc, append_assoc]⟩
    rw [lexSegments_seg hseg, ih, cons_append]

theorem lexSegments_blanks {tail : List Byte} (hne : tail ≠ []) (h : ∀ c ∈ tail, isBlank c = true) :
    lexSegments tail = ([], .blanks) := lexSegments_blank hne (lexSegment_eq_blank.2 h)

theorem Spaced.lexSegments_eq (h : Spaced segs text) : lexSegments text = (segs, .done) := by
  have := h.lexSegments_append []
  rwa [append_nil, lexSegments_nil, append_nil] at this

theorem spaced_of_blanks : ∀ {text : List Byte}, (lexSegments text).2 = .blanks →
    ∃ segs front tail, text = front ++ tail ∧ Spaced segs front ∧ tail ≠ [] ∧ ∀ c ∈ tail, isBlank c = true := by
  intro text
  induction text using lexSegments.induct with
  | case1 =>
    intro h
    rw [lexSegments_nil] at h; cases h
  | case2 text hne hl => exact fun _ => ⟨[], [], text, rfl, .nil, hne, lexSegment_eq_blank.1 hl⟩
  | case3 text hne f left hl =>
    intro h
    rw [lexSegments_fault hne hl] at h; cases h
  | case4 text hne s rest hl ih =>
    intro h
    rw [lexSegments_seg hl] at h
    obtain ⟨hs, pad, hpad, rfl⟩ := lexSegment_eq_seg.1 hl
    obtain ⟨segs, front, tail, rfl, hfront, htail⟩ := ih h
    exact ⟨s :: segs, pad ++ (s.render ++ front), tail, by simp only [append_assoc], .cons hpad hs hfront, htail⟩

/-- **The string's own parentheses end in blanks** behind its last segment, or hold nothing else. -/
def BlankTail (bytes : List Byte) : Prop :=
  ∃ segs text tail, Spaced segs text ∧ tail ≠ [] ∧ (∀ c ∈ tail, isBlank c = true) ∧
    rtrim bytes = lparen :: (text ++ tail ++ [rparen])

theorem lexSegments_rtrim_ne_blanks (bytes : List Byte) : (lexSegments (rtrim bytes)).2 ≠ .blanks := by
  intro h
  obtain ⟨segs, front, tail, heq, -, hne, htail⟩ := spaced_of_blanks h
  obtain ⟨l, x, rfl⟩ := (eq_nil_or_concat' tail).resolve_left hne
  rw [← append_assoc] at heq
  have hlast := rdropWhile_last_not isBlank bytes (by rw [rtrim] at heq; rw [heq]; simp)
  refine hlast ?_
  rw [rtrim] at heq
  rw [getLast_congr _ (by simp) heq, getLast_append_singleton]
  exact htail x (mem_append_right l mem_cons_self)

theorem applyText_eq_ok (h : (lexSegments text).2 ≠ .blanks) (stop : Nat) (raw : List Byte) :
    ∃ p, applyText stop (ParsedCapabilities.init raw) text = .ok p ∧
      (p.capsValidity = .invalid → ∃ m ∈ p.messages, m.structural = true) := by
  unfold applyText
  cases hend : (lexSegments text).2 with
  | blanks => exact absurd hend h
  | fault f left => exact ⟨_, rfl, fun _ => ⟨_, mem_append_right _ mem_cons_self, rfl⟩⟩
  | done =>
    refine ⟨_, rfl, fun hinv => ?_⟩
    rw [foldl_applySegment_capsValidity] at hinv
    rw [foldl_applySegment_messages]
    have hworst : worst ((lexSegments text).1.map Seg.verdict) = .invalid := by
      rwa [show (ParsedCapabilities.init raw).capsValidity = .valid from rfl, updateValidity_valid_left] at hinv
    obtain ⟨s, hmem, hs⟩ := mem_map.1 (worst_eq_invalid.1 hworst)
    obtain ⟨m, hm, hst⟩ := s.structural_of_invalid hs
    exact ⟨m, mem_append_right _ (mem_flatMap.2 ⟨s, hmem, hm⟩), hst⟩

theorem lexSegments_inner_ne_blanks {inner : List Byte} (h : ¬ BlankTail bytes)
    (ho : outer (rtrim bytes) = .parens inner) : (lexSegments inner).2 ≠ .blanks := by
  intro hend
  obtain ⟨segs, text, tail, rfl, hsp, hne, htail⟩ := spaced_of_blanks hend
  exact h ⟨segs, text, tail, hsp, hne, htail, eq_of_outer_parens ho⟩

theorem capsResult_eq_ok (h : ¬ BlankTail bytes) : ∃ p, capsResult bytes = .ok p ∧
    (p.capsValidity = .invalid → ∃ m ∈ p.messages, m.structural = true) := by
  unfold capsResult
  cases ho : outer (rtrim bytes) with
  | unclosed => exact ⟨_, rfl, fun _ => ⟨_, mem_append_right _ mem_cons_self, rfl⟩⟩
  | parens inner => exact applyText_eq_ok (lexSegments_inner_ne_blanks h ho) _ _
  | bare text =>
    rw [← eq_of_outer_bare ho]; exact applyText_eq_ok (lexSegments_rtrim_ne_blanks bytes) _ _

theorem capsResult_blankTail (h : BlankTail bytes) : capsResult bytes = .error .nullDeref := by
  obtain ⟨segs, text, tail, hsp, hne, htail, ht⟩ := h
  unfold capsResult applyText
  rw [ht, outer_parens]
  dsimp only
  rw [hsp.lexSegments_append, lexSegments_blanks hne htail]; rfl

theorem rtrim_parens (inner : List Byte) : rtrim (lparen :: (inner ++ [rparen])) = lparen :: (inner ++ [rparen]) := by
  rw [rtrim, ← cons_append, rdropWhile_concat, if_neg (by decide)]

theorem capsResult_spaced (h : Spaced segs text) :
    capsResult (lparen :: (text ++ [rparen])) =
      .ok (segs.foldl applySegment (ParsedCapabilities.init (lparen :: (text ++ [rparen])))) := by
  unfold capsResult applyText
  rw [rtrim_parens, outer_parens]
  dsimp only
  rw [h.lexSegments_eq]; rfl

def HandledSafely (bytes : List Byte) : Prop :=
  ∃ pcaps, parseCapabilities bytes = .ok pcaps ∧
    (pcaps.capsValidity = .invalid → ∃ m ∈ pcaps.messages, m.structural = true)

/-- However the string spaces well-formed segments inside its parentheses, the record is that of the string without
these blanks: only the raw value, a copy of the string, differs. -/
def IgnoresBlanks (bytes : List Byte) : Prop :=
  ∀ segs text tail, Spaced segs text → (∀ c ∈ tail, isBlank c = true) →
    bytes = lparen :: (text ++ tail ++ [rparen]) →
      ∃ pcaps, parseCapabilities (lparen :: (segs.flatMap Seg.render ++ [rparen])) = .ok pcaps ∧
        parseCapabilities bytes = .ok { pcaps with rawValue := bytes }

/-- **`parse_capabilities` returns, and blanks do not matter to it, exactly when the string has no blanks behind its last
segment.** -/
theorem parseCapabilities_safe_iff (bytes : List Byte) :
    HandledSafely bytes ∧ IgnoresBlanks bytes ↔ ¬ BlankTail bytes := by
  constructor
  · rintro ⟨⟨pcaps, hok, -⟩, -⟩ htail
    rw [parseCapabilities_eq, capsResult_blankTail htail] at hok; cases hok
  · intro h
    refine ⟨?_, fun segs text tail hsp htail hbytes => ?_⟩
    · obtain ⟨pcaps, hok, hinv⟩ := capsResult_eq_ok h
      exact ⟨pcaps, by rw [parseCapabilities_eq, hok], hinv⟩
    · have hnil : tail = [] := by
        by_contra hne
        refine h ⟨segs, text, tail, hsp, hne, htail, ?_⟩
        rw [hbytes, rtrim_parens]
      rw [hnil, append_nil] at hbytes
      refine ⟨_, by rw [parseCapabilities_eq, capsResult_spaced (Spaced.plain hsp.wellFormed)], ?_⟩
      rw [hbytes, parseCapabilities_eq, capsResult_spaced hsp, ← foldl_applySegment_rawValue]; rfl

/-- A blank behind the last segment: `next_capabilities_segment` returns `NULL`. -/
theorem blankTail_not_safe :
    ¬ (HandledSafely (ascii "(prot(monitor) )") ∧ IgnoresBlanks (ascii "(prot(monitor) )")) := by
  rintro ⟨⟨pcaps, h, -⟩, -⟩
  cases h

end Ddc
