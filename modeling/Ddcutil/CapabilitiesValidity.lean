import Ddcutil.CapabilitiesSafe
import Ddcutil.HexCodes
/-!
# CapabilitiesValidity — the validity and the messages

`Malformed bytes m` says that a part of the string is malformed and that `m` is the message about it.  The record's
messages are exactly these, each degrades the validity, and the validity never improves.
-/
namespace Ddc

open Kit List Exec

def Outer.body : Outer → Option (Nat × List Byte)
  | .unclosed => none
  | .parens inner => some (1 + inner.length, inner)
  | .bare text => some (text.length, text)

def capsSegments (bytes : List Byte) : List Seg :=
  match (outer (rtrim bytes)).body with
  | none => []
  | some (_, text) => (lexSegments text).1

def vcpItems (bytes : List Byte) : List VcpItem :=
  ((capsSegments bytes).filter fun s => decide s.IsVcp).flatMap fun s => lexItems s.value

/-- **A part of the string is malformed**, and this is the message about it. -/
inductive Malformed (bytes : List Byte) : CapsMessage → Prop where
  | unclosed : outer (rtrim bytes) = .unclosed → Malformed bytes .lacksClosingParenthesis
  | segment {stop : Nat} {text left : List Byte} {f : SegmentFault} : (outer (rtrim bytes)).body = some (stop, text) →
      (lexSegments text).2 = .fault f left → Malformed bytes (.segment f (stop - left.length))
  | commands {s : Seg} : s ∈ capsSegments bytes → s.name = ascii "cmds" → (storeBytehexList s.value).1 = false →
      Malformed bytes (.commandsList s.value)
  | mccsVer {s : Seg} : s ∈ capsSegments bytes → s.name = ascii "mccs_ver" →
      parseVspec (cstr s.value) = vspecUnknown → Malformed bytes (.invalidMccsVer s.value)
  | code {item : VcpItem} : item ∈ vcpItems bytes → item.featureId = none → Malformed bytes (.invalidCode item.first)
  | values {item : VcpItem} {id : Byte} {values : List Byte} : item ∈ vcpItems bytes → item.featureId = some id →
      item.values = .list values → (storeBytehexList values).1 = false → Malformed bytes (.invalidValue id values)
  | notClosed {item : VcpItem} : item ∈ vcpItems bytes → item.values = .notClosed → Malformed bytes .valuesNotClosed

def VcpItem.Bare (item : VcpItem) : Prop := item.featureId ≠ none ∧ item.values = .bare

def OnlyBareFeatures (bytes : List Byte) : Prop :=
  (∀ m, ¬ Malformed bytes m) ∧ ∃ item ∈ vcpItems bytes, item.Bare

/-! ## One item, one segment -/

variable {item : VcpItem} {m : CapsMessage} {s : Seg} {bytes : List Byte} {p : ParsedCapabilities}

theorem VcpItem.mem_messages : m ∈ item.messages ↔
    (item.featureId = none ∧ m = .invalidCode item.first) ∨ (item.values = .notClosed ∧ m = .valuesNotClosed) ∨
      ∃ id values, item.featureId = some id ∧ item.values = .list values ∧ (storeBytehexList values).1 = false ∧
        m = .invalidValue id values := by
  unfold VcpItem.messages
  cases hid : item.featureId with
  | none => cases hv : item.values <;> simp
  | some id =>
    cases hv : item.values with
    | bare | notClosed => simp
    | list values => cases h : (storeBytehexList values).1 <;> simp [parseCapabilitiesFeature, h]

theorem VcpItem.verdict_eq_valid : item.verdict = .valid ↔ item.messages = [] ∧ ¬ item.Bare := by
  unfold VcpItem.verdict VcpItem.messages VcpItem.Bare
  cases hid : item.featureId with
  | none => cases hv : item.values <;> simp
  | some id =>
    cases hv : item.values with
    | bare | notClosed => simp
    | list values => cases h : (storeBytehexList values).1 <;> simp [parseCapabilitiesFeature, h]

theorem VcpItem.invalid_of_structural (hm : m ∈ item.messages) (hs : m.structural = true) :
    item.verdict = .invalid := by
  have hv : item.values = .notClosed := by
    rcases VcpItem.mem_messages.1 hm with ⟨-, rfl⟩ | ⟨hv, -⟩ | ⟨id, values, -, -, -, rfl⟩
    · cases hs
    · exact hv
    · cases hs
  rw [VcpItem.verdict, hv]

theorem not_isVcp_of_cmds (h : s.name = ascii "cmds") : ¬ s.IsVcp := by
  rw [Seg.IsVcp, h]; decide

theorem not_isVcp_of_mccsVer (h : s.name = ascii "mccs_ver") : ¬ s.IsVcp := by
  rw [Seg.IsVcp, h]; decide

theorem not_mccsVer_of_cmds (h : s.name = ascii "cmds") : ¬ s.name = ascii "mccs_ver" := by
  rw [h]; decide

theorem Seg.mem_messages : m ∈ s.messages ↔
    (s.name = ascii "cmds" ∧ (storeBytehexList s.value).1 = false ∧ m = .commandsList s.value) ∨
      (s.IsVcp ∧ ∃ item ∈ lexItems s.value, m ∈ item.messages) ∨
      (s.name = ascii "mccs_ver" ∧ parseVspec (cstr s.value) = vspecUnknown ∧ m = .invalidMccsVer s.value) := by
  unfold Seg.messages
  by_cases hcmds : s.name = ascii "cmds"
  · simp only [eq_true hcmds, eq_false (not_isVcp_of_cmds hcmds), eq_false (not_mccsVer_of_cmds hcmds), if_true]
    cases h : (storeBytehexList s.value).1 <;> simp [parseCmdsSegment, h]
  · by_cases hvcp : s.IsVcp
    · have hver : ¬ s.name = ascii "mccs_ver" := fun h => not_isVcp_of_mccsVer h hvcp
      simp only [eq_false hcmds, eq_true hvcp, eq_false hver, if_true, if_false]; simp
    · by_cases hver : s.name = ascii "mccs_ver"
      · simp only [eq_false hcmds, eq_false hvcp, eq_true hver, if_true, if_false]
        by_cases hu : parseVspec (cstr s.value) = vspecUnknown <;> simp [hu]
      · simp only [eq_false hcmds, eq_false hvcp, eq_false hver, if_false]; simp

theorem Seg.verdict_eq_valid : s.verdict = .valid ↔
    s.messages = [] ∧ ¬ (s.IsVcp ∧ ∃ item ∈ lexItems s.value, item.Bare) := by
  unfold Seg.verdict Seg.messages
  by_cases hcmds : s.name = ascii "cmds"
  · have hvcp := not_isVcp_of_cmds hcmds
    rw [if_pos hcmds, if_pos hcmds]
    cases h : (storeBytehexList s.value).1 <;> simp [parseCmdsSegment, h, hvcp]
  · rw [if_neg hcmds, if_neg hcmds]
    by_cases hvcp : s.IsVcp
    · rw [if_pos hvcp, if_pos hvcp, worst_eq_valid, forall_mem_map, flatMap_eq_nil_iff]
      simp only [VcpItem.verdict_eq_valid]
      constructor
      · intro h
        refine ⟨fun item hi => (h item hi).1, ?_⟩
        rintro ⟨-, item, hi, hbare⟩
        exact (h item hi).2 hbare
      · exact fun h item hi => ⟨h.1 item hi, fun hbare => h.2 ⟨hvcp, item, hi, hbare⟩⟩
    · split_ifs <;> simp [hvcp]

theorem Seg.invalid_of_structural (hm : m ∈ s.messages) (hs : m.structural = true) : s.verdict = .invalid := by
  rcases Seg.mem_messages.1 hm with ⟨-, -, rfl⟩ | ⟨hvcp, item, hi, hmi⟩ | ⟨-, -, rfl⟩
  · cases hs
  · have hcmds : ¬ s.name = ascii "cmds" := fun h => not_isVcp_of_cmds h hvcp
    rw [Seg.verdict, if_neg hcmds, if_pos hvcp, worst_eq_invalid, mem_map]
    exact ⟨item, hi, item.invalid_of_structural hmi hs⟩
  · cases hs

/-! ## The whole record -/

def SegmentsEnd.messages (stop : Nat) : SegmentsEnd → List CapsMessage
  | .fault f left => [.segment f (stop - left.length)]
  | _ => []

def endMessages (bytes : List Byte) : List CapsMessage :=
  match (outer (rtrim bytes)).body with
  | none => [.lacksClosingParenthesis]
  | some (stop, text) => (lexSegments text).2.messages stop

def SegmentsEnd.verdict : SegmentsEnd → CapsValidity
  | .fault _ _ => .invalid
  | _ => .valid

def endVerdict (bytes : List Byte) : CapsValidity :=
  match (outer (rtrim bytes)).body with
  | none => .invalid
  | some (_, text) => (lexSegments text).2.verdict

theorem endVerdict_eq_valid : endVerdict bytes = .valid ↔ endMessages bytes = [] := by
  unfold endVerdict endMessages
  cases (outer (rtrim bytes)).body with
  | none => simp
  | some q =>
    cases h : (lexSegments q.2).2 <;> simp [SegmentsEnd.verdict, SegmentsEnd.messages, h]

theorem endVerdict_of_mem (h : m ∈ endMessages bytes) : endVerdict bytes = .invalid := by
  unfold endVerdict
  unfold endMessages at h
  cases hb : (outer (rtrim bytes)).body with
  | none => rfl
  | some q =>
    cases hend : (lexSegments q.2).2 <;> simp_all [SegmentsEnd.verdict, SegmentsEnd.messages]

theorem capsResult_verdict (h : capsResult bytes = .ok p) :
    p.messages = (capsSegments bytes).flatMap Seg.messages ++ endMessages bytes ∧
      p.capsValidity = updateValidity (worst ((capsSegments bytes).map Seg.verdict))
        (endVerdict bytes) := by
  have htext : ∀ {stop : Nat} {text : List Byte}, (outer (rtrim bytes)).body = some (stop, text) →
      applyText stop (ParsedCapabilities.init (rtrim bytes)) text = .ok p →
        p.messages = (capsSegments bytes).flatMap Seg.messages ++ endMessages bytes ∧
          p.capsValidity = updateValidity (worst ((capsSegments bytes).map Seg.verdict))
            (endVerdict bytes) := by
    intro stop text hbody hp
    unfold applyText at hp
    rw [capsSegments, endMessages, endVerdict, hbody]
    dsimp only
    cases hend : (lexSegments text).2 with
    | blanks =>
      rw [hend] at hp; cases hp
    | done =>
      rw [hend] at hp
      cases hp
      rw [foldl_applySegment_messages, foldl_applySegment_capsValidity]
      simp [ParsedCapabilities.init, SegmentsEnd.messages, SegmentsEnd.verdict]
    | fault f left =>
      rw [hend] at hp
      cases hp
      simp [applyFault, foldl_applySegment_messages, ParsedCapabilities.init, SegmentsEnd.messages, SegmentsEnd.verdict]
  unfold capsResult at h
  cases ho : outer (rtrim bytes) with
  | unclosed =>
    rw [ho] at h
    cases h
    rw [capsSegments, endMessages, endVerdict, ho]; exact ⟨rfl, rfl⟩
  | parens inner =>
    rw [ho] at h; exact htext (by rw [ho]; rfl) h
  | bare text =>
    rw [ho] at h; exact htext (by rw [ho]; rfl) h

theorem mem_vcpItems : item ∈ vcpItems bytes ↔ ∃ s ∈ capsSegments bytes, s.IsVcp ∧ item ∈ lexItems s.value := by
  unfold vcpItems
  simp only [mem_flatMap, mem_filter, decide_eq_true_eq, and_assoc]

theorem mem_endMessages : m ∈ endMessages bytes ↔
    (outer (rtrim bytes) = .unclosed ∧ m = .lacksClosingParenthesis) ∨
      ∃ stop text left f, (outer (rtrim bytes)).body = some (stop, text) ∧ (lexSegments text).2 = .fault f left ∧
        m = .segment f (stop - left.length) := by
  unfold endMessages
  cases ho : outer (rtrim bytes) with
  | unclosed => simp [Outer.body]
  | parens inner => cases h : (lexSegments inner).2 <;> simp [Outer.body, SegmentsEnd.messages, h]
  | bare text => cases h : (lexSegments text).2 <;> simp [Outer.body, SegmentsEnd.messages, h]

theorem malformed_iff : Malformed bytes m ↔ m ∈ (capsSegments bytes).flatMap Seg.messages ++ endMessages bytes := by
  rw [mem_append, mem_flatMap]
  constructor
  · intro h
    cases h with
    | unclosed ho => exact .inr (mem_endMessages.2 (.inl ⟨ho, rfl⟩))
    | segment hb hend => exact .inr (mem_endMessages.2 (.inr ⟨_, _, _, _, hb, hend, rfl⟩))
    | commands hs hn hv => exact .inl ⟨_, hs, Seg.mem_messages.2 (.inl ⟨hn, hv, rfl⟩)⟩
    | mccsVer hs hn hv => exact .inl ⟨_, hs, Seg.mem_messages.2 (.inr (.inr ⟨hn, hv, rfl⟩))⟩
    | code hi hid =>
      obtain ⟨s, hs, hvcp, hmem⟩ := mem_vcpItems.1 hi
      exact .inl ⟨s, hs, Seg.mem_messages.2 (.inr (.inl ⟨hvcp, _, hmem,
        VcpItem.mem_messages.2 (.inl ⟨hid, rfl⟩)⟩))⟩
    | values hi hid hv hok =>
      obtain ⟨s, hs, hvcp, hmem⟩ := mem_vcpItems.1 hi
      exact .inl ⟨s, hs, Seg.mem_messages.2 (.inr (.inl ⟨hvcp, _, hmem,
        VcpItem.mem_messages.2 (.inr (.inr ⟨_, _, hid, hv, hok, rfl⟩))⟩))⟩
    | notClosed hi hv =>
      obtain ⟨s, hs, hvcp, hmem⟩ := mem_vcpItems.1 hi
      exact .inl ⟨s, hs, Seg.mem_messages.2 (.inr (.inl ⟨hvcp, _, hmem,
        VcpItem.mem_messages.2 (.inr (.inl ⟨hv, rfl⟩))⟩))⟩
  · rintro (⟨s, hs, hm⟩ | hm)
    · rcases Seg.mem_messages.1 hm with ⟨hn, hv, rfl⟩ | ⟨hvcp, item, hi, hm⟩ | ⟨hn, hv, rfl⟩
      · exact .commands hs hn hv
      · have hitem : item ∈ vcpItems bytes := mem_vcpItems.2 ⟨s, hs, hvcp, hi⟩
        rcases VcpItem.mem_messages.1 hm with ⟨hid, rfl⟩ | ⟨hv, rfl⟩ | ⟨id, values, hid, hv, hok, rfl⟩
        · exact .code hitem hid
        · exact .notClosed hitem hv
        · exact .values hitem hid hv hok
      · exact .mccsVer hs hn hv
    · rcases mem_endMessages.1 hm with ⟨ho, rfl⟩ | ⟨stop, text, left, f, hb, hend, rfl⟩
      · exact .unclosed ho
      · exact .segment hb hend

theorem capsResult_valid_iff (h : capsResult bytes = .ok p) :
    p.capsValidity = .valid ↔ p.messages = [] ∧ ¬ ∃ item ∈ vcpItems bytes, item.Bare := by
  obtain ⟨hm, hv⟩ := capsResult_verdict h
  rw [hm, hv, updateValidity_eq_valid, worst_eq_valid, forall_mem_map, endVerdict_eq_valid, append_eq_nil_iff,
    flatMap_eq_nil_iff]
  simp only [Seg.verdict_eq_valid, mem_vcpItems]
  constructor
  · rintro ⟨hs, hend⟩
    exact ⟨⟨fun s hmem => (hs s hmem).1, hend⟩, fun ⟨item, ⟨s, hmem, hvcp, hi⟩, hb⟩ =>
      (hs s hmem).2 ⟨hvcp, item, hi, hb⟩⟩
  · rintro ⟨⟨hs, hend⟩, hb⟩
    exact ⟨fun s hmem => ⟨hs s hmem, fun ⟨hvcp, item, hi, hbare⟩ => hb ⟨item, ⟨s, hmem, hvcp, hi⟩, hbare⟩⟩, hend⟩

theorem capsResult_structural (h : capsResult bytes = .ok p) (hm : m ∈ p.messages) (hs : m.structural = true) :
    p.capsValidity = .invalid := by
  obtain ⟨hmsg, hv⟩ := capsResult_verdict h
  rw [hv, updateValidity_eq_invalid]
  rw [hmsg, mem_append, mem_flatMap] at hm
  rcases hm with ⟨s, hmem, hm⟩ | hm
  · exact .inl (worst_eq_invalid.2 (mem_map.2 ⟨s, hmem, s.invalid_of_structural hm hs⟩))
  · exact .inr (endVerdict_of_mem hm)

/-! ## The validity along a run -/

def CapsValidity.rank : CapsValidity → Nat
  | .valid => 0
  | .usable => 1
  | .invalid => 2

theorem rank_le_updateValidity (u v : CapsValidity) : u.rank ≤ (updateValidity u v).rank := by
  cases u <;> cases v <;> decide

theorem rank_le_invalid (v : CapsValidity) : v.rank ≤ CapsValidity.invalid.rank := by
  cases v <;> decide

theorem rank_le_degrade (v : CapsValidity) : v.rank ≤ (degrade v).rank := by
  rw [degrade_eq]; exact rank_le_updateValidity v .usable

def capsRun (bytes : List Byte) (turns : Nat) : Exec CapsLoop := do
  let start ← capsStart (bytes ++ [0]) bytes.length
  forWhile CapsLoop.more (capsTurn (bytes ++ [0])) turns start

theorem parseSegment_rank {mem : List Byte} {seg : CapabilitiesSegment} {q : ParsedCapabilities}
    (h : parseSegment mem seg p = .ok q) : p.capsValidity.rank ≤ q.capsValidity.rank := by
  obtain ⟨name, -, h⟩ := bind_eq_ok.1 h
  obtain ⟨value, -, h⟩ := bind_eq_ok.1 h
  split_ifs at h with hcmds hvcp hver hmodel
  · cases h
    unfold applyCmds
    dsimp only
    split_ifs
    · exact rank_le_degrade _
    · exact Nat.le_refl _
  · obtain ⟨r, -, h⟩ := bind_eq_ok.1 h
    cases h; exact rank_le_updateValidity _ _
  · cases h
    unfold applyMccsVer
    dsimp only
    split_ifs
    · exact rank_le_degrade _
    · exact Nat.le_refl _
  · cases h; exact Nat.le_refl _
  · cases h; exact Nat.le_refl _

theorem capsTurn_rank {mem : List Byte} {s t : CapsLoop} (h : capsTurn mem s = .ok t) :
    s.pcaps.capsValidity.rank ≤ t.pcaps.capsValidity.rank := by
  obtain ⟨next, -, h⟩ := bind_eq_ok.1 h
  cases next with
  | null => cases h
  | failed msg =>
    cases h; exact rank_le_invalid _
  | segment seg =>
    obtain ⟨q, hq, h⟩ := bind_eq_ok.1 h
    cases h; exact parseSegment_rank hq

theorem capsRun_rank {j k : Nat} {s t : CapsLoop} (hjk : j ≤ k) (hs : capsRun bytes j = .ok s)
    (ht : capsRun bytes k = .ok t) : s.pcaps.capsValidity.rank ≤ t.pcaps.capsValidity.rank := by
  obtain ⟨n, rfl⟩ := Nat.exists_eq_add_of_le hjk
  unfold capsRun at hs ht
  obtain ⟨start, hstart, hs⟩ := bind_eq_ok.1 hs
  rw [hstart, ok_bind, forWhile_add, hs, ok_bind] at ht
  exact forWhile_rel (R := fun s t => s.pcaps.capsValidity.rank ≤ t.pcaps.capsValidity.rank)
    (fun s => Nat.le_refl _) Nat.le_trans capsTurn_rank n ht

/-! ## The claim -/

/-- What a caller relies on: the record is valid exactly when it has no message, every malformed part has its message
and degrades the validity, a string without malformed parts is valid, and no segment improves the validity. -/
def JudgedFaithfully (bytes : List Byte) : Prop :=
  (∃ p, parseCapabilities bytes = .ok p ∧ (p.capsValidity = .valid ↔ p.messages = []) ∧
    (∀ m, Malformed bytes m →
      m ∈ p.messages ∧ p.capsValidity ≠ .valid ∧ (m.structural = true → p.capsValidity = .invalid)) ∧
    ((∀ m, ¬ Malformed bytes m) → p.capsValidity = .valid)) ∧
  ∀ j k s t, j ≤ k → capsRun bytes j = .ok s → capsRun bytes k = .ok t →
    s.pcaps.capsValidity.rank ≤ t.pcaps.capsValidity.rank

end Ddc

/-! ## Whether a monitor supports table features

`parsed_capabilities_supports_table_commands` looks for the two commands of a table read among those of the record,
which are those of the last `cmds` segment.  It finds them where they are, and answers no all the same.
-/

namespace Ddc

open Kit List

def tableCommandsDeclared (pcaps : ParsedCapabilities) : Bool :=
  pcaps.rawCmdsSegmentSeen && pcaps.commands.any fun commands => commands.contains 0xe2 && commands.contains 0xe4

def parsedCapabilitiesSupportsTableCommands : Option ParsedCapabilities → Bool
  | none => false
  | some pcaps =>
    if tableCommandsDeclared pcaps = true then false -- `result = false`, as it is already
    else false

/-- **A `cmds` segment of the string lists both commands**, each a word of two hex digits. -/
def ListsTableCommands (bytes : List Byte) : Prop :=
  ∃ s ∈ capsSegments bytes, s.name = ascii "cmds" ∧
    (∃ word ∈ strtok (cstr s.value), hexCode word = some 0xe2) ∧
    ∃ word ∈ strtok (cstr s.value), hexCode word = some 0xe4

/-! ## The commands of the record -/

def Seg.isCmds (s : Seg) : Bool := s.name == ascii "cmds"

def commandsOf (segs : List Seg) : Bool × Option (List Byte) :=
  match segs.reverse.find? Seg.isCmds with
  | none => (false, none)
  | some s => (true, (parseCmdsSegment s.value).1)

theorem applySegment_commands (p : ParsedCapabilities) (s : Seg) :
    ((applySegment p s).rawCmdsSegmentSeen, (applySegment p s).commands) =
      if s.isCmds = true then (true, (parseCmdsSegment s.value).1) else (p.rawCmdsSegmentSeen, p.commands) := by
  unfold applySegment
  by_cases hcmds : s.name = ascii "cmds"
  · have hseg : s.isCmds = true := beq_iff_eq.2 hcmds
    rw [if_pos hcmds, if_pos hseg]; rfl
  · have hseg : ¬ s.isCmds = true := fun h => hcmds (beq_iff_eq.1 h)
    rw [if_neg hcmds, if_neg hseg]
    split
    · rfl
    · split
      · rfl
      · split
        · rfl
        · rfl

theorem foldl_applySegment_commands (raw : List Byte) (segs : List Seg) :
    ((segs.foldl applySegment (ParsedCapabilities.init raw)).rawCmdsSegmentSeen,
      (segs.foldl applySegment (ParsedCapabilities.init raw)).commands) = commandsOf segs := by
  induction segs using List.reverseRecOn with
  | nil => rfl
  | append_singleton segs s ih =>
    rw [foldl_append, foldl_cons, foldl_nil, applySegment_commands, ih, commandsOf, commandsOf,
      reverse_append, reverse_singleton, singleton_append, find?_cons]
    cases s.isCmds with
    | false | true => rfl

theorem applyText_commands {stop : Nat} {raw text : List Byte} {p : ParsedCapabilities}
    (h : applyText stop (ParsedCapabilities.init raw) text = .ok p) :
    (p.rawCmdsSegmentSeen, p.commands) = commandsOf (lexSegments text).1 := by
  unfold applyText at h
  cases hend : (lexSegments text).2 with
  | done =>
    rw [hend] at h
    cases h; exact foldl_applySegment_commands raw _
  | blanks =>
    rw [hend] at h; cases h
  | fault f left =>
    rw [hend] at h
    cases h; exact foldl_applySegment_commands raw _

theorem capsResult_commands {bytes : List Byte} {p : ParsedCapabilities} (h : capsResult bytes = .ok p) :
    (p.rawCmdsSegmentSeen, p.commands) = commandsOf (capsSegments bytes) := by
  unfold capsResult at h
  unfold capsSegments
  cases ho : outer (rtrim bytes) with
  | unclosed =>
    rw [ho] at h
    cases h; rfl
  | parens inner =>
    rw [ho] at h; exact applyText_commands h
  | bare text =>
    rw [ho] at h; exact applyText_commands h

/-! ## What is found, and what is answered -/

theorem tokenByte_iff_hexCode {v : Byte} (hlow : 0x10 ≤ v.toNat) (hhigh : v.toNat ≤ 0xf0) (word : List Byte) :
    tokenByte word = some v ↔ hexCode word = some v := by
  cases hstray : strayFirst word with
  | false =>
    rw [tokenByte_iff hstray]
    refine or_iff_left ?_
    rintro ⟨d, rfl, hd⟩
    obtain ⟨a, b, heq, -, hdigit⟩ := hexCode_eq_some hd
    cases heq
    obtain ⟨n, hlt, hn⟩ := digitVal_of_isDigit hdigit
    have hzero : digitVal 0x30 = some 0 := rfl
    have hvalue : digitsVal 16 [0x30, d] = n := by simp [digitsVal, hn, hzero]
    rw [hexCode_pair, if_pos ⟨rfl, hdigit⟩, hvalue, Option.some.injEq] at hd
    rw [← hd, UInt8.toNat_ofNat'] at hlow; omega
  | true =>
    obtain ⟨w, hw, hend⟩ := hhsToByteInBuf_of_stray hstray
    obtain ⟨c, d, rfl⟩ := strayFirst_pair hstray
    have htoken : tokenByte [c, d] = some w := by rw [tokenByte, hhcToByteInBuf_eq, hw]
    rw [htoken]
    have hne : w ≠ v := by
      rintro rfl
      rcases hend with hend | hend
      · have hlt : w.toNat < 0x10 := hend
        omega
      · have hlt : 0xf0 < w.toNat := hend
        omega
    refine iff_of_false (fun hv => hne (Option.some.inj hv)) fun hcode => hne ?_
    rw [hhsToByteInBuf_of_hexCode hcode] at hw; exact (Option.some.inj hw).symm

theorem mem_storeBytehexList {v : Byte} (hlow : 0x10 ≤ v.toNat) (hhigh : v.toNat ≤ 0xf0) (list : List Byte) :
    v ∈ (storeBytehexList list).2 ↔ ∃ word ∈ strtok (cstr list), hexCode word = some v := by
  rw [storeBytehexList_eq, mem_filterMap]
  simp only [tokenByte_iff_hexCode hlow hhigh]

theorem tableCommandsDeclared_iff {bytes : List Byte} {p : ParsedCapabilities} (h : capsResult bytes = .ok p) :
    tableCommandsDeclared p = true ↔ ∃ s, (capsSegments bytes).reverse.find? Seg.isCmds = some s ∧
      (storeBytehexList s.value).1 = true ∧ 0xe2 ∈ (storeBytehexList s.value).2 ∧
      0xe4 ∈ (storeBytehexList s.value).2 := by
  have hcommands := capsResult_commands h
  unfold commandsOf at hcommands
  cases hlast : (capsSegments bytes).reverse.find? Seg.isCmds with
  | none =>
    rw [hlast] at hcommands
    obtain ⟨hseen, -⟩ := Prod.mk.inj hcommands
    simp [tableCommandsDeclared, hseen]
  | some s =>
    rw [hlast] at hcommands
    obtain ⟨hseen, hlist⟩ := Prod.mk.inj hcommands
    cases hok : (storeBytehexList s.value).1 with
    | false | true => simp [tableCommandsDeclared, hseen, hlist, parseCmdsSegment, hok]

theorem listsTableCommands_of_declared {bytes : List Byte} {p : ParsedCapabilities} (h : capsResult bytes = .ok p)
    (hdeclared : tableCommandsDeclared p = true) : ListsTableCommands bytes := by
  obtain ⟨s, hlast, -, he2, he4⟩ := (tableCommandsDeclared_iff h).1 hdeclared
  have hmem : s ∈ capsSegments bytes := mem_reverse.1 (mem_of_find?_eq_some hlast)
  have hcmds : s.isCmds = true := find?_some hlast
  exact ⟨s, hmem, beq_iff_eq.1 hcmds, (mem_storeBytehexList (by decide) (by decide) s.value).1 he2,
    (mem_storeBytehexList (by decide) (by decide) s.value).1 he4⟩

theorem supportsTableCommands_eq_false (pcaps : Option ParsedCapabilities) :
    parsedCapabilitiesSupportsTableCommands pcaps = false := by
  cases pcaps with
  | none => rfl
  | some pcaps => exact ite_self false

/-- **The answer is right exactly for the strings that do not list both commands**: it is always no.  A string with
blanks behind its last segment has no parse. -/
theorem supportsTableCommands_iff (bytes : List Byte) :
    (∃ pcaps, parseCapabilities bytes = .ok pcaps ∧
      (parsedCapabilitiesSupportsTableCommands (some pcaps) = true ↔ ListsTableCommands bytes)) ↔
      ¬ ListsTableCommands bytes ∧ ¬ BlankTail bytes := by
  rw [parseCapabilities_eq]
  constructor
  · rintro ⟨pcaps, hok, hanswer⟩
    rw [supportsTableCommands_eq_false] at hanswer
    refine ⟨fun hlists => Bool.false_ne_true (hanswer.2 hlists), fun htail => ?_⟩
    rw [capsResult_blankTail htail] at hok; cases hok
  · rintro ⟨hlists, htail⟩
    obtain ⟨pcaps, hok, -⟩ := capsResult_eq_ok htail
    refine ⟨pcaps, hok, fun hyes => ?_, fun h => absurd h hlists⟩
    rw [supportsTableCommands_eq_false] at hyes; cases hyes

/-- Both commands are listed, and the record has them. -/
theorem tableCommands_not_answered :
    ¬ ∃ pcaps, parseCapabilities (ascii "(cmds(01 E2 E4))") = .ok pcaps ∧
      (parsedCapabilitiesSupportsTableCommands (some pcaps) = true ↔ ListsTableCommands (ascii "(cmds(01 E2 E4))")) := by
  have hdeclared : (parseCapabilities (ascii "(cmds(01 E2 E4))")).map tableCommandsDeclared = .ok true := by decide
  rintro ⟨pcaps, hok, hanswer⟩
  rw [hok] at hdeclared
  rw [parseCapabilities_eq] at hok
  have hyes := hanswer.2 (listsTableCommands_of_declared hok (Except.ok.inj hdeclared))
  rw [supportsTableCommands_eq_false] at hyes; cases hyes

end Ddc
