import Ddcutil.Capabilities
import Ddcutil.Kit.Parens
import Mathlib.Data.List.DropRight
/-!
# CapabilitiesLex — the parts of a capabilities string

The same parser as functions of the text alone, in two phases: `lexSegments` and `lexItems` cut the text into its parts,
and `applySegment` and `applyItem` say what one part does to the result.  The scanner in memory computes exactly these.
-/
namespace Ddc

open Kit List Exec

/-! ## Segments -/

def isBlank (c : Byte) : Bool := c == blank

def isNameChar (c : Byte) : Bool := c != lparen && c != blank

structure Seg where
  name : List Byte
  value : List Byte
  deriving DecidableEq, Repr

/-- What stands at the front of a text: blanks only, a fault with the text from its position on, or a segment. -/
inductive LexedSegment where
  | blank
  | fault (fault : SegmentFault) (left : List Byte)
  | seg (seg : Seg) (rest : List Byte)
  deriving DecidableEq, Repr

def lexValue (name text : List Byte) : LexedSegment :=
  match splitClose lparen rparen 0 text with
  | none => .fault (.noClosingParen name) []
  | some ([], rest) => .fault .zeroLength (rparen :: rest)
  | some (c :: value, rest) => .seg ⟨name, c :: value⟩ rest

def lexGap (name text : List Byte) : LexedSegment :=
  match text.dropWhile isBlank with
  | [] => .fault (.nothingFollowsBlanks name) []
  | c :: rest =>
    if c = lparen then lexValue (name ++ text.takeWhile isBlank) rest
    else .fault (.missingValue (name ++ text.takeWhile isBlank)) (c :: rest)

def lexName (text : List Byte) : LexedSegment :=
  match text.dropWhile isNameChar with
  | [] => .fault .nothingFollows []
  | c :: rest => lexGap (text.takeWhile isNameChar) (c :: rest)

def lexSegment (text : List Byte) : LexedSegment :=
  match text.dropWhile isBlank with
  | [] => .blank
  | c :: rest => if c = lparen then .fault .missingName (c :: rest) else lexName (c :: rest)

def LexedSegment.place (stop : Nat) : LexedSegment → NextSegment
  | .blank => .null
  | .fault f left => .failed (.segment f (stop - left.length))
  | .seg s rest => .segment
    ⟨stop - (s.name.length + 1 + s.value.length + 1 + rest.length), s.name.length,
      stop - (s.value.length + 1 + rest.length), s.value.length, stop - rest.length, rest.length⟩

/-! ## The scanner finds these segments -/

section Scanner

variable {mem text post : List Byte} {pos stop : Nat}

/-- How the loop of `find_closing_paren` ends, behind the closing parenthesis or at the end. -/
def ClosedAt (pos stop : Nat) (cut : Option (List Byte × List Byte)) (r : Nat × Nat) : Prop :=
  match cut with
  | some (v, _) => r = (pos + v.length + 1, 0)
  | none => r.1 = stop ∧ r.2 ≠ 0

theorem ClosedAt.cons {cut : Option (List Byte × List Byte)} {r : Nat × Nat} (c : Byte)
    (h : ClosedAt (pos + 1) stop cut r) : ClosedAt pos stop (cut.map fun q => (c :: q.1, q.2)) r := by
  cases cut with
  | none => exact h
  | some q =>
    simp only [ClosedAt, Option.map_some, length_cons] at h ⊢
    rw [h]
    congr 1
    omega

theorem closingParenLoop_window : ∀ {text : List Byte} {pos fuel : Nat} (depth : Nat), Window mem pos stop text post →
    text.length < fuel → ∃ r, closingParenLoop mem stop fuel pos (depth + 1) = .ok r ∧
      ClosedAt pos stop (splitClose lparen rparen depth text) r
  | [], pos, fuel + 1, depth, w, _ =>
    ⟨(pos, depth + 1), by rw [closingParenLoop, if_neg fun h => w.not_lt_of_nil h.1], w.length, Nat.succ_ne_zero depth⟩
  | c :: text, pos, fuel + 1, depth, w, hf => by
    have hcond : pos < stop ∧ 0 < depth + 1 := ⟨w.lt_of_cons, Nat.succ_pos depth⟩
    have hfuel : text.length < fuel := Nat.lt_of_succ_lt_succ hf
    rw [closingParenLoop, if_pos hcond, w.fetch_cons, ok_bind]
    by_cases ho : c = lparen
    · obtain ⟨r, hr, hs⟩ := closingParenLoop_window (depth + 1) w.next hfuel
      rw [if_pos ho, ho, splitClose_open]; exact ⟨r, hr, hs.cons lparen⟩
    · by_cases hc : c = rparen
      · rw [if_neg ho, if_pos hc, hc]
        cases depth with
        | zero =>
          cases fuel with
          | zero => exact absurd hfuel (Nat.not_lt_zero _)
          | succ fuel =>
            exact ⟨(pos + 1, 0), by rw [closingParenLoop, if_neg fun h => absurd h.2 (by decide)], rfl⟩
        | succ depth =>
          obtain ⟨r, hr, hs⟩ := closingParenLoop_window depth w.next hfuel
          exact ⟨r, hr, hs.cons rparen⟩
      · obtain ⟨r, hr, hs⟩ := closingParenLoop_window depth w.next hfuel
        rw [if_neg ho, if_neg hc, splitClose_char ho hc]; exact ⟨r, hr, hs.cons c⟩

theorem findClosingParen_window (w : Window mem pos stop (lparen :: text) post) : findClosingParen mem pos stop =
    .ok (match splitClose lparen rparen 0 text with | some (v, _) => pos + 1 + v.length | none => stop) := by
  have hlen : text.length < stop - pos + 1 := by
    have := w.length
    rw [length_cons] at this; omega
  obtain ⟨r, hr, hs⟩ := closingParenLoop_window 0 w.next hlen
  rw [findClosingParen, w.fetch_cons, ok_bind, check_pos rfl, ok_bind, hr, ok_bind]
  cases h : splitClose lparen rparen 0 text with
  | none =>
    rw [h] at hs
    simp [hs.1, hs.2]
  | some q =>
    rw [h] at hs
    simp only [ClosedAt] at hs
    simp [hs]

theorem ltrim_window (w : Window mem pos stop text post) :
    ltrim mem pos text.length = .ok (pos + (text.takeWhile isBlank).length) := by
  rw [ltrim, w.length]; exact skipWhile_window w (Nat.lt_succ_self _)

theorem require_pos {condition : Prop} [Decidable condition] {fault : SegmentFault} {position : Nat}
    {rest : Exec NextSegment} (h : condition) : require condition fault position rest = rest := if_pos h

theorem require_neg {condition : Prop} [Decidable condition] {fault : SegmentFault} {position : Nat}
    {rest : Exec NextSegment} (h : ¬ condition) :
    require condition fault position rest = .ok (.failed (.segment fault position)) := if_neg h

variable {name : List Byte} {start : Nat}

theorem segmentValue_window (w0 : Window mem start stop (name ++ lparen :: text) post) :
    segmentValue mem start (start + name.length) stop = .ok ((lexValue name text).place stop) := by
  have w := w0.skip
  have hstop := w.length
  rw [length_cons] at hstop
  rw [segmentValue, Nat.add_sub_cancel_left, w0.span_first, ok_bind, w.fetch_cons, ok_bind,
    require_pos rfl, findClosingParen_window w, ok_bind, lexValue]
  cases h : splitClose lparen rparen 0 text with
  | none =>
    rw [require_neg (Nat.lt_irrefl stop)]; rfl
  | some q =>
    obtain ⟨v, rest⟩ := q
    have hl := congrArg List.length ((splitClose_zero_eq_some (by decide)).1 h).1
    rw [length_append, length_cons] at hl
    rw [require_pos (show start + name.length + 1 + v.length < stop by omega)]
    cases v with
    | nil =>
      rw [require_neg (by simp)]
      simp only [LexedSegment.place, length_nil, length_cons] at hl ⊢
      congr 4
      omega
    | cons c v =>
      rw [require_pos (by simp)]
      simp only [LexedSegment.place, length_cons, pure, Except.pure] at hl ⊢
      congr 3 <;> omega

theorem segmentName_window (w : Window mem start stop text post) :
    segmentName mem start stop = .ok ((lexName text).place stop) := by
  have hscan : skipWhile (fun c => c != lparen && c != blank) mem stop (stop - start + 1) start =
      .ok (start + (text.takeWhile isNameChar).length) := by
    apply skipWhile_window w
    have := w.length
    omega
  have w1 := w.dropWhile isNameChar
  rw [segmentName, hscan, ok_bind, lexName]
  cases hr : text.dropWhile isNameChar with
  | nil =>
    rw [hr] at w1
    rw [require_neg w1.not_lt_of_nil, ← w1.length]; rfl
  | cons c rest =>
    have hsplit : text = text.takeWhile isNameChar ++ c :: rest := by
      rw [← hr, takeWhile_append_dropWhile]
    rw [hr] at w1
    rw [hsplit] at w
    rw [require_pos w1.lt_of_cons, Nat.add_sub_cancel_left, w.span_first, ok_bind]
    generalize text.takeWhile isNameChar = name at *
    have hgap : skipWhile (· == blank) mem stop (stop - (start + name.length) + 1) (start + name.length) =
        .ok (start + name.length + ((c :: rest).takeWhile isBlank).length) := by
      apply skipWhile_window w1
      have := w1.length
      omega
    have w2 := w1.dropWhile isBlank
    rw [hgap, ok_bind]
    change _ = Except.ok ((lexGap name (c :: rest)).place stop)
    unfold lexGap
    cases hv : (c :: rest).dropWhile isBlank with
    | nil =>
      rw [hv] at w2
      rw [require_neg w2.not_lt_of_nil, ← w2.length]; rfl
    | cons d value =>
      have hsplit2 : name ++ c :: rest = (name ++ (c :: rest).takeWhile isBlank) ++ d :: value := by
        rw [append_assoc, ← hv, takeWhile_append_dropWhile]
      rw [hv] at w2
      rw [hsplit2] at w
      rw [require_pos w2.lt_of_cons, Nat.add_assoc, ← length_append]
      dsimp only
      by_cases hd : d = lparen
      · subst hd
        rw [segmentValue_window w, if_pos rfl]
      · rw [segmentValue, Nat.add_sub_cancel_left, w.span_first, ok_bind, w.skip.fetch_cons, ok_bind,
          require_neg hd, if_neg hd, w.skip.pos_eq]
        rfl

theorem nextCapabilitiesSegment_window (w : Window mem pos stop text post) :
    nextCapabilitiesSegment mem pos text.length = .ok ((lexSegment text).place stop) := by
  have hlen : text.length = (text.takeWhile isBlank).length + (text.dropWhile isBlank).length := by
    rw [← length_append, takeWhile_append_dropWhile]
  have w1 := w.dropWhile isBlank
  simp only [nextCapabilitiesSegment, ltrim_window w, ok_bind, Nat.add_sub_cancel_left, w.length]
  rw [lexSegment]
  cases ht : text.dropWhile isBlank with
  | nil =>
    rw [ht, length_nil] at hlen
    rw [if_pos (by omega)]; rfl
  | cons c rest =>
    rw [ht, length_cons] at hlen
    rw [ht] at w1
    rw [if_neg (by omega), w1.fetch_cons, ok_bind]
    dsimp only
    by_cases hc : c = lparen
    · rw [require_neg (not_not_intro hc), if_pos hc, w1.pos_eq]; rfl
    · rw [require_pos hc, if_neg hc, segmentName_window w1]

end Scanner

/-! ## Feature codes -/

def isCodeChar (c : Byte) : Bool := c != blank && c != lparen

inductive ItemValues where
  | bare
  | list (values : List Byte)
  | notClosed
  deriving DecidableEq, Repr

structure VcpItem where
  code : List Byte
  values : ItemValues
  deriving DecidableEq, Repr

def lexValues : List Byte → ItemValues × List Byte
  | [] => (.bare, [])
  | c :: text =>
    if c = lparen then
      match splitClose lparen rparen 0 text with
      | some (values, rest) => (.list values, rest)
      | none => (.notClosed, [])
    else (.bare, c :: text)

def codeLen (text : List Byte) : Nat :=
  if 2 < (text.takeWhile isCodeChar).length then 2 else (text.takeWhile isCodeChar).length

def lexCode (text : List Byte) : VcpItem × List Byte :=
  (⟨text.take (codeLen text), (lexValues (text.drop (codeLen text))).1⟩, (lexValues (text.drop (codeLen text))).2)

def lexItem (text : List Byte) : Option (VcpItem × List Byte) :=
  match text.dropWhile isBlank with
  | [] => none
  | c :: rest => some (lexCode (c :: rest))

def VcpItem.featureId (item : VcpItem) : Option Byte :=
  match item.code with
  | [c0, c1] => hhcToByteInBuf c0 c1
  | _ => none

def VcpItem.first (item : VcpItem) : Byte := item.code.headD lparen

def ItemValues.apply (r : VcpResult) (featureId : Option Byte) : ItemValues → VcpResult
  | .bare => r.addFeature featureId none
  | .list values => r.addFeature featureId (some values)
  | .notClosed => r.valuesNotClosed

def applyItem (r : VcpResult) (item : VcpItem) : VcpResult :=
  item.values.apply (if item.featureId = none then r.invalidCode item.first else r) item.featureId

section ItemScanner

variable {mem text post : List Byte} {pos stop : Nat} {b : Byte}

/-- What a turn leaves: it is at the rest of the text, or it is done and no text is left. -/
def VcpLoop.At (stop : Nat) (rest : List Byte) (out : VcpResult) (s : VcpLoop) : Prop :=
  s.out = out ∧ (s.bye = false ∧ s.pos + rest.length = stop ∨ s.bye = true ∧ rest = [])

theorem vcpValues_window (hb : b ≠ lparen) (w : Window mem pos stop text (b :: post)) (out : VcpResult)
    (featureId : Option Byte) : ∃ s, vcpValues mem stop pos out featureId = .ok s ∧
      s.At stop (lexValues text).2 ((lexValues text).1.apply out featureId) := by
  cases text with
  | nil =>
    refine ⟨⟨pos, false, out.addFeature featureId none⟩, ?_, rfl, .inl ⟨rfl, w.length⟩⟩
    rw [vcpValues, w.fetch_end, ok_bind, if_neg hb]; rfl
  | cons c text =>
    rw [vcpValues, w.fetch_cons, ok_bind, lexValues]
    by_cases hc : c = lparen
    · subst hc
      rw [if_pos rfl, if_pos rfl, findClosingParen_window w, ok_bind]
      cases h : splitClose lparen rparen 0 text with
      | none => exact ⟨_, if_pos rfl, rfl, .inr ⟨rfl, rfl⟩⟩
      | some q =>
        obtain ⟨v, rest⟩ := q
        have htext := ((splitClose_zero_eq_some (by decide)).1 h).1
        have hstop := w.length
        rw [htext, length_cons, length_append, length_cons] at hstop
        rw [htext] at w
        refine ⟨⟨pos + 1 + v.length + 1, false, out.addFeature featureId (some v)⟩, ?_, rfl, .inl ⟨rfl, ?_⟩⟩
        · have hne : pos + 1 + v.length ≠ stop := by omega
          rw [if_neg hne, Nat.add_sub_cancel_left, w.next.span_first]; rfl
        · change pos + 1 + v.length + 1 + rest.length = stop
          omega
    · rw [if_neg hc, if_neg hc]; exact ⟨_, rfl, rfl, .inl ⟨rfl, w.length⟩⟩

theorem featureCode_window {code : List Byte} (w : Window mem pos stop (code ++ text) post) (hlen : code.length ≤ 2)
    (values : ItemValues) : featureCode mem pos code.length = .ok (VcpItem.featureId ⟨code, values⟩) := by
  unfold featureCode VcpItem.featureId
  match code with
  | [] => rfl
  | [_] => rfl
  | [c0, c1] =>
    have hlen2 : [c0, c1].length = 2 := rfl
    rw [if_pos hlen2, w.fetch_cons, ok_bind, w.next.fetch_cons]; rfl
  | _ :: _ :: _ :: _ => simp at hlen

theorem codeLen_le_two (text : List Byte) : codeLen text ≤ 2 := by
  unfold codeLen
  split <;> omega

theorem codeLen_le_length (text : List Byte) : codeLen text ≤ text.length := by
  have := ( takeWhile_prefix (p := isCodeChar) (l := text)).length_le
  unfold codeLen
  split <;> omega

theorem length_take_codeLen (text : List Byte) : (text.take (codeLen text)).length = codeLen text := by
  rw [length_take, Nat.min_eq_left (codeLen_le_length text)]

variable {c : Byte} {rest : List Byte}

theorem codeLen_pos (rest : List Byte) (h : isCodeChar c = true) : 0 < codeLen (c :: rest) := by
  rw [codeLen, takeWhile_cons, if_pos h, length_cons]
  split <;> omega

theorem codeLen_zero (h : ¬ isCodeChar c = true) : codeLen (c :: rest) = 0 := by
  rw [codeLen, takeWhile_cons, if_neg h]; rfl

theorem eq_lparen_of_not_codeChar (hb : isBlank c = false) (hc : ¬ isCodeChar c = true) : c = lparen := by
  simp only [isCodeChar, isBlank, Bool.and_eq_true, bne_iff_ne, beq_eq_false_iff_ne] at hc hb
  exact not_not.1 fun h => hc ⟨hb, h⟩

theorem first_lexCode (hb : isBlank c = false) : (lexCode (c :: rest)).1.first = c := by
  unfold VcpItem.first lexCode
  by_cases hc : isCodeChar c = true
  · obtain ⟨n, hn⟩ := Nat.exists_eq_succ_of_ne_zero (Nat.ne_of_gt (codeLen_pos rest hc))
    rw [hn, take_succ_cons, headD_cons]
  · rw [codeLen_zero hc, take_zero, headD_nil, eq_lparen_of_not_codeChar hb hc]

theorem vcpTurn_window (hb : b ≠ lparen) (w : Window mem pos stop text (b :: post)) (out : VcpResult) :
    ∃ s, vcpTurn mem stop ⟨pos, false, out⟩ = .ok s ∧
      match lexItem text with
      | none => s.At stop [] out
      | some (item, rest) => s.At stop rest (applyItem out item) := by
  have hscan : readWhile (· == blank) mem stop (stop - pos + 1) pos =
      .ok (pos + (text.takeWhile isBlank).length) := by
    apply readWhile_window w
    have := w.length
    omega
  have w1 := w.dropWhile isBlank
  rw [vcpTurn, hscan, ok_bind, lexItem]
  generalize pos + (text.takeWhile isBlank).length = st at w1 ⊢
  cases ht : text.dropWhile isBlank with
  | nil =>
    rw [ht] at w1; exact ⟨⟨st, true, out⟩, if_pos w1.length, rfl, .inr ⟨rfl, rfl⟩⟩
  | cons c rest =>
    dsimp only
    have hfirst : (lexCode (c :: rest)).1.first = c := first_lexCode (head_of_dropWhile ht)
    rw [ht] at w1
    have hrun : readWhile (fun c => c != blank && c != lparen) mem stop (stop - st + 1) st =
        .ok (st + ((c :: rest).takeWhile isCodeChar).length) := by
      apply readWhile_window w1
      have := w1.length
      omega
    have hst : ¬ st = stop := Nat.ne_of_lt w1.lt_of_cons
    have hc := w1.fetch_cons
    generalize c :: rest = code at *
    rw [← take_append_drop (codeLen code) code] at w1
    have hid := featureCode_window w1 (by rw [length_take_codeLen]; exact codeLen_le_two code)
      (lexValues (code.drop (codeLen code))).1
    have wval := w1.skip
    rw [length_take_codeLen] at hid wval
    obtain ⟨s, hs, hat⟩ := vcpValues_window hb wval
      (if (lexCode code).1.featureId = none then out.invalidCode c else out) (lexCode code).1.featureId
    refine ⟨s, ?_, ?_⟩
    · rw [if_neg hst, hrun, ok_bind, Nat.add_sub_cancel_left]
      change (featureCode mem st (codeLen code) >>= _) = _
      rw [hid, ok_bind, hc, ok_bind]; exact hs
    · rw [← hfirst] at hat; exact hat

/-! ## The loop reads all items -/

theorem splitClose_suffix {v : List Byte} (h : splitClose lparen rparen 0 text = some (v, rest)) : rest <:+ text := by
  rw [((splitClose_zero_eq_some (by decide)).1 h).1]
  exact (suffix_cons rparen rest).trans (suffix_append v (rparen :: rest))

theorem lexValues_suffix (text : List Byte) : (lexValues text).2 <:+ text := by
  cases text with
  | nil => exact suffix_refl _
  | cons c text =>
    rw [lexValues]
    split
    · cases h : splitClose lparen rparen 0 text with
      | none => exact nil_suffix
      | some q => exact (splitClose_suffix h).trans (suffix_cons c text)
    · exact suffix_refl _

theorem lexItem_suffix {text : List Byte} {item : VcpItem} (h : lexItem text = some (item, rest)) :
    rest <:+ text := by
  unfold lexItem at h
  cases ht : text.dropWhile isBlank with
  | nil => rw [ht] at h; cases h
  | cons c code =>
    rw [ht] at h
    have hsuf : (lexCode (c :: code)).2 <:+ c :: code := (lexValues_suffix _).trans (drop_suffix _ _)
    rw [Option.some.inj h, ← ht] at hsuf; exact hsuf.trans (dropWhile_suffix _)

theorem length_lexCode_lt (rest : List Byte) (hb : isBlank c = false) :
    (lexCode (c :: rest)).2.length < (c :: rest).length := by
  unfold lexCode
  by_cases hc : isCodeChar c = true
  · have hle := (lexValues_suffix ((c :: rest).drop (codeLen (c :: rest)))).length_le
    have hpos := codeLen_pos rest hc
    rw [length_drop] at hle; exact Nat.lt_of_le_of_lt hle (Nat.sub_lt (Nat.succ_pos _) hpos)
  · rw [codeLen_zero hc, drop_zero, eq_lparen_of_not_codeChar hb hc, lexValues, if_pos rfl]
    cases h : splitClose lparen rparen 0 rest with
    | none => exact Nat.succ_pos _
    | some q =>
      have htext := congrArg List.length ((splitClose_zero_eq_some (by decide)).1 h).1
      rw [length_append, length_cons] at htext
      rw [length_cons]
      dsimp only; omega

theorem length_lexItem_lt {text : List Byte} {item : VcpItem} (h : lexItem text = some (item, rest)) :
    rest.length < text.length := by
  have hsplit := congrArg List.length (takeWhile_append_dropWhile (p := isBlank) (l := text))
  rw [length_append] at hsplit
  unfold lexItem at h
  cases ht : text.dropWhile isBlank with
  | nil => rw [ht] at h; cases h
  | cons c code =>
    rw [ht] at h hsplit
    have hlt := length_lexCode_lt code (head_of_dropWhile ht)
    rw [Option.some.inj h] at hlt
    dsimp only at hlt; omega

end ItemScanner

def lexItems (text : List Byte) : List VcpItem :=
  match _h : lexItem text with
  | none => []
  | some (item, rest) => item :: lexItems rest
termination_by text.length
decreasing_by exact length_lexItem_lt _h

variable {text rest mem post t : List Byte} {stop : Nat} {s : Seg}

theorem lexItems_none (h : lexItem text = none) : lexItems text = [] := by
  rw [lexItems]
  split <;> simp_all

theorem lexItems_some {item : VcpItem} (h : lexItem text = some (item, rest)) :
    lexItems text = item :: lexItems rest := by
  rw [lexItems]
  split <;> simp_all

@[simp] theorem lexItems_nil : lexItems [] = [] := lexItems_none rfl

def applyItems (text : List Byte) (r : VcpResult) : VcpResult := (lexItems text).foldl applyItem r

theorem vcpLoop_window {b : Byte} (hb : b ≠ lparen) :
    ∀ (fuel : Nat) {text : List Byte} {pos : Nat}, Window mem pos stop text (b :: post) → text.length < fuel →
      ∀ out, ∃ s, whileLoop (VcpLoop.more stop) (vcpTurn mem stop) fuel ⟨pos, false, out⟩ = .ok s ∧
        s.out = applyItems text out
  | fuel + 1, text, pos, w, hf, out => by
    by_cases ht : text = []
    · subst ht
      refine ⟨⟨pos, false, out⟩, whileLoop_stop ?_ _, by rw [applyItems, lexItems_nil]; rfl⟩
      simp [VcpLoop.more, w.not_lt_of_nil]
    · have hmore : VcpLoop.more stop ⟨pos, false, out⟩ = true := by
        simp [VcpLoop.more, w.lt_iff.2 ht]
      obtain ⟨⟨pos', bye', out'⟩, hs, hat⟩ := vcpTurn_window hb w out
      rw [whileLoop_step fuel hmore hs, applyItems]
      cases hl : lexItem text with
      | none =>
        rw [hl] at hat
        obtain ⟨rfl, hend⟩ := hat
        refine ⟨_, whileLoop_stop ?_ _, by rw [lexItems_none hl]; rfl⟩
        rcases hend with ⟨rfl, rfl⟩ | ⟨rfl, -⟩
        · simp [VcpLoop.more]
        · simp [VcpLoop.more]
      | some q =>
        obtain ⟨item, rest⟩ := q
        rw [hl] at hat
        obtain ⟨rfl, hend⟩ := hat
        rw [lexItems_some hl, foldl_cons]
        rcases hend with ⟨rfl, hpos⟩ | ⟨rfl, rfl⟩
        · have hpos' : pos' = stop - rest.length := Nat.eq_sub_of_add_eq hpos
          have hlt := length_lexItem_lt hl
          rw [hpos']
          exact vcpLoop_window hb fuel (w.suffix (lexItem_suffix hl)) (by omega) (applyItem out item)
        · exact ⟨_, whileLoop_stop (by simp [VcpLoop.more]) _, by rw [lexItems_nil]; rfl⟩

theorem parseVcpSegment_window {pos : Nat} {b : Byte} (hb : b ≠ lparen) (w : Window mem pos stop text (b :: post))
    (vcpArray : List CapabilitiesFeature) (messages : List CapsMessage) :
    parseVcpSegment mem pos text.length vcpArray messages = .ok (applyItems text ⟨.valid, vcpArray, messages⟩) := by
  obtain ⟨s, hs, hout⟩ := vcpLoop_window hb (text.length + 1) w (Nat.lt_succ_self _) ⟨.valid, vcpArray, messages⟩
  rw [parseVcpSegment, w.length, hs, ← hout]; rfl

/-! ## The segments of a text -/

/-- **A well-formed segment**: a name without blanks and parentheses, blanks behind it, and a value that is not empty and
whose parentheses match. -/
structure Seg.WellFormed (s : Seg) : Prop where
  name : ∃ word gap, s.name = word ++ gap ∧ word ≠ [] ∧ (∀ c ∈ word, isNameChar c = true) ∧
    ∀ c ∈ gap, isBlank c = true
  value_ne_nil : s.value ≠ []
  balanced : Balanced lparen rparen s.value

def Seg.render (s : Seg) : List Byte := s.name ++ lparen :: (s.value ++ [rparen])

theorem lexValue_eq_seg {name : List Byte} : lexValue name text = .seg s rest ↔
    s.name = name ∧ s.value ≠ [] ∧ Balanced lparen rparen s.value ∧ text = s.value ++ rparen :: rest := by
  constructor
  · intro h
    unfold lexValue at h
    split at h
    · cases h
    · cases h
    · next c v r hcut =>
      cases h
      obtain ⟨ht, hb⟩ := (splitClose_zero_eq_some (by decide)).1 hcut
      exact ⟨rfl, cons_ne_nil c v, hb, ht⟩
  · rintro ⟨rfl, hne, hb, rfl⟩
    obtain ⟨name, value⟩ := s
    obtain ⟨c, v, rfl⟩ := exists_cons_of_ne_nil hne
    rw [lexValue, splitClose_append (by decide) hb]

theorem lexGap_eq_seg {name : List Byte} : lexGap name text = .seg s rest ↔
    ∃ gap, (∀ c ∈ gap, isBlank c = true) ∧ s.name = name ++ gap ∧ s.value ≠ [] ∧ Balanced lparen rparen s.value ∧
      text = gap ++ lparen :: (s.value ++ rparen :: rest) := by
  constructor
  · intro h
    unfold lexGap at h
    cases hd : text.dropWhile isBlank with
    | nil =>
      rw [hd] at h; cases h
    | cons c r =>
      rw [hd] at h
      dsimp only at h
      by_cases hc : c = lparen
      · rw [if_pos hc, lexValue_eq_seg] at h
        refine ⟨text.takeWhile isBlank, fun x hx => mem_takeWhile_imp hx, h.1, h.2.1, h.2.2.1, ?_⟩
        rw [← h.2.2.2, ← hc]; exact eq_of_dropWhile hd
      · rw [if_neg hc] at h; cases h
  · rintro ⟨gap, hgap, hname, hne, hb, rfl⟩
    rw [lexGap, dropWhile_stop hgap (by decide), takeWhile_stop hgap (by decide)]
    exact lexValue_eq_seg.2 ⟨hname, hne, hb, rfl⟩

theorem isNameChar_of_gap {gap : List Byte} (rest : List Byte) (hgap : ∀ c ∈ gap, isBlank c = true) :
    ∃ c r, gap ++ lparen :: rest = c :: r ∧ isNameChar c = false := by
  cases gap with
  | nil => exact ⟨lparen, rest, rfl, by decide⟩
  | cons c gap =>
    exact ⟨c, gap ++ lparen :: rest, rfl, by simp_all [isBlank, isNameChar]⟩

theorem lexName_eq_seg : lexName text = .seg s rest ↔
    ∃ word gap, (∀ c ∈ word, isNameChar c = true) ∧ (∀ c ∈ gap, isBlank c = true) ∧ s.name = word ++ gap ∧
      s.value ≠ [] ∧ Balanced lparen rparen s.value ∧ text = word ++ (gap ++ lparen :: (s.value ++ rparen :: rest)) := by
  constructor
  · intro h
    unfold lexName at h
    cases hd : text.dropWhile isNameChar with
    | nil =>
      rw [hd] at h; cases h
    | cons c r =>
      rw [hd] at h
      obtain ⟨gap, hgap, hname, hne, hb, hr⟩ := lexGap_eq_seg.1 h
      refine ⟨text.takeWhile isNameChar, gap, fun x hx => mem_takeWhile_imp hx, hgap, hname, hne, hb, ?_⟩
      rw [← hr]; exact eq_of_dropWhile hd
  · rintro ⟨word, gap, hword, hgap, hname, hne, hb, rfl⟩
    obtain ⟨c, r, hcr, hc⟩ := isNameChar_of_gap (s.value ++ rparen :: rest) hgap
    rw [hcr, lexName, dropWhile_stop hword hc, takeWhile_stop hword hc]
    dsimp only
    rw [← hcr]; exact lexGap_eq_seg.2 ⟨gap, hgap, hname, hne, hb, rfl⟩

theorem lexSegment_eq_seg : lexSegment text = .seg s rest ↔
    s.WellFormed ∧ ∃ pad, (∀ c ∈ pad, isBlank c = true) ∧ text = pad ++ (s.render ++ rest) := by
  constructor
  · intro h
    unfold lexSegment at h
    cases hd : text.dropWhile isBlank with
    | nil =>
      rw [hd] at h; cases h
    | cons c r =>
      rw [hd] at h
      dsimp only at h
      by_cases hc : c = lparen
      · rw [if_pos hc] at h; cases h
      · rw [if_neg hc, lexName_eq_seg] at h
        obtain ⟨word, gap, hword, hgap, hname, hne, hb, hr⟩ := h
        refine ⟨⟨⟨word, gap, hname, ?_, hword, hgap⟩, hne, hb⟩, text.takeWhile isBlank,
          fun x hx => mem_takeWhile_imp hx, ?_⟩
        · rintro rfl
          obtain ⟨c', r', hcr, hn⟩ := isNameChar_of_gap (s.value ++ rparen :: rest) hgap
          have hb' := head_of_dropWhile hd
          simp_all [isBlank, isNameChar]
        · have htext := eq_of_dropWhile hd
          rw [hr] at htext
          rw [Seg.render, hname]
          simpa only [append_assoc, cons_append, nil_append] using htext
  · rintro ⟨⟨⟨word, gap, hname, hword0, hword, hgap⟩, hne, hb⟩, pad, hpad, rfl⟩
    obtain ⟨c, w, rfl⟩ := exists_cons_of_ne_nil hword0
    have hcb : isBlank c = false := by simp_all [isBlank, isNameChar]
    have hcl : c ≠ lparen := by simp_all [isNameChar]
    have htext : s.render ++ rest = c :: (w ++ (gap ++ lparen :: (s.value ++ rparen :: rest))) := by
      rw [Seg.render, hname]
      simp only [append_assoc, cons_append, nil_append]
    rw [htext, lexSegment, dropWhile_stop hpad hcb]
    dsimp only
    rw [if_neg hcl, lexName_eq_seg]; exact ⟨c :: w, gap, hword, hgap, hname, hne, hb, rfl⟩

theorem lexSegment_eq_blank : lexSegment text = .blank ↔ ∀ c ∈ text, isBlank c = true := by
  rw [← dropWhile_eq_nil_iff]
  unfold lexSegment
  cases hd : text.dropWhile isBlank with
  | nil => simp
  | cons c r =>
    have hname : lexName (c :: r) ≠ .blank := by
      unfold lexName lexGap lexValue
      repeat' split
      all_goals simp
    by_cases hc : c = lparen
    · simp [hc]
    · simp [hc, hname]

theorem lexSegment_suffix (h : lexSegment text = .seg s rest) : rest <:+ text := by
  obtain ⟨-, pad, -, rfl⟩ := lexSegment_eq_seg.1 h
  rw [← append_assoc]; exact suffix_append _ rest

theorem length_lexSegment_lt (h : lexSegment text = .seg s rest) : rest.length < text.length := by
  obtain ⟨-, pad, -, rfl⟩ := lexSegment_eq_seg.1 h
  simp only [Seg.render, length_append, length_cons]; omega

inductive SegmentsEnd where
  | done | blanks
  | fault (fault : SegmentFault) (left : List Byte)
  deriving DecidableEq, Repr

def lexSegments (text : List Byte) : List Seg × SegmentsEnd :=
  if text = [] then ([], .done)
  else
    match _h : lexSegment text with
    | .blank => ([], .blanks)
    | .fault f left => ([], .fault f left)
    | .seg s rest => (s :: (lexSegments rest).1, (lexSegments rest).2)
termination_by text.length
decreasing_by all_goals exact length_lexSegment_lt _h

@[simp] theorem lexSegments_nil : lexSegments [] = ([], .done) := by
  rw [lexSegments, if_pos rfl]

theorem lexSegments_blank (hne : text ≠ []) (h : lexSegment text = .blank) : lexSegments text = ([], .blanks) := by
  rw [lexSegments, if_neg hne]
  split <;> simp_all

theorem lexSegments_fault {left : List Byte} {f : SegmentFault} (hne : text ≠ [])
    (h : lexSegment text = .fault f left) : lexSegments text = ([], .fault f left) := by
  rw [lexSegments, if_neg hne]
  split <;> simp_all

theorem lexSegments_seg (h : lexSegment text = .seg s rest) :
    lexSegments text = (s :: (lexSegments rest).1, (lexSegments rest).2) := by
  have hne : text ≠ [] := by
    rintro rfl
    cases h
  rw [lexSegments, if_neg hne]
  split <;> simp_all

/-! ## What the parts do to the result -/

def Seg.IsVcp (s : Seg) : Prop := s.name = ascii "vcp" ∨ s.name = ascii "VCP"

instance (s : Seg) : Decidable s.IsVcp := inferInstanceAs (Decidable (s.name = ascii "vcp" ∨ s.name = ascii "VCP"))

def applySegment (pcaps : ParsedCapabilities) (s : Seg) : ParsedCapabilities :=
  if s.name = ascii "cmds" then applyCmds pcaps s.value
  else if s.IsVcp then
    applyVcp pcaps (applyItems s.value ⟨.valid, pcaps.vcpFeatures, pcaps.messages⟩)
  else if s.name = ascii "mccs_ver" then applyMccsVer pcaps s.value
  else if s.name = ascii "model" then applyModel pcaps s.value
  else pcaps

def applyFault (pcaps : ParsedCapabilities) (msg : CapsMessage) : ParsedCapabilities :=
  { pcaps with capsValidity := .invalid, messages := pcaps.messages ++ [msg] }

def SegmentsEnd.apply (stop : Nat) (pcaps : ParsedCapabilities) : SegmentsEnd → Exec ParsedCapabilities
  | .done => .ok pcaps
  | .blanks => .error .nullDeref
  | .fault f left => .ok (applyFault pcaps (.segment f (stop - left.length)))

def applyText (stop : Nat) (pcaps : ParsedCapabilities) (text : List Byte) : Exec ParsedCapabilities :=
  (lexSegments text).2.apply stop ((lexSegments text).1.foldl applySegment pcaps)

section Segments

variable {mem text post : List Byte} {pos stop : Nat}

theorem parseSegment_window {rest : List Byte} {s : Seg} (w : Window mem pos stop text post)
    (h : lexSegment text = .seg s rest) (pcaps : ParsedCapabilities) :
    parseSegment mem ⟨stop - (s.name.length + 1 + s.value.length + 1 + rest.length), s.name.length,
      stop - (s.value.length + 1 + rest.length), s.value.length, stop - rest.length, rest.length⟩ pcaps =
      .ok (applySegment pcaps s) := by
  obtain ⟨-, pad, -, htext⟩ := lexSegment_eq_seg.1 h
  have hname : s.name ++ lparen :: (s.value ++ rparen :: rest) <:+ text := by
    rw [htext, Seg.render, append_assoc, cons_append, append_assoc]; exact suffix_append pad _
  have hvalue : s.value ++ rparen :: rest <:+ text :=
    ((suffix_cons lparen _).trans (suffix_append s.name _)).trans hname
  have wname := w.suffix hname
  have wvalue := w.suffix hvalue
  rw [length_append, length_cons, length_append, length_cons] at wname
  rw [length_append, length_cons] at wvalue
  have hn := wname.span_first
  have hv := wvalue.span_first
  rw [show stop - (s.name.length + (s.value.length + (rest.length + 1) + 1)) =
    stop - (s.name.length + 1 + s.value.length + 1 + rest.length) by omega] at hn
  rw [show stop - (s.value.length + (rest.length + 1)) = stop - (s.value.length + 1 + rest.length) by omega] at hv wvalue
  have hvcp := parseVcpSegment_window (by decide) wvalue.first pcaps.vcpFeatures pcaps.messages
  rw [parseSegment, hn, ok_bind, hv, ok_bind, hvcp]
  unfold applySegment
  by_cases hcmds : s.name = ascii "cmds"
  · rw [if_pos hcmds, if_pos hcmds]; rfl
  · rw [if_neg hcmds, if_neg hcmds]
    by_cases hname : s.IsVcp
    · rw [if_pos hname, if_pos (show s.name = ascii "vcp" ∨ s.name = ascii "VCP" from hname)]; rfl
    · rw [if_neg hname, if_neg (show ¬ (s.name = ascii "vcp" ∨ s.name = ascii "VCP") from hname)]
      split_ifs <;> rfl

theorem capsLoop_window : ∀ (fuel : Nat) {text : List Byte} {pos : Nat}, Window mem pos stop text post →
    text.length < fuel → ∀ pcaps,
      (whileLoop CapsLoop.more (capsTurn mem) fuel ⟨pos, text.length, false, pcaps⟩).map CapsLoop.pcaps =
        applyText stop pcaps text
  | fuel + 1, text, pos, w, hf, pcaps => by
    by_cases ht : text = []
    · subst ht
      rw [whileLoop_stop (by rfl), applyText, lexSegments_nil]; rfl
    · have hmore : CapsLoop.more ⟨pos, text.length, false, pcaps⟩ = true := by
        simp [CapsLoop.more, length_pos_iff.2 ht]
      have hnext := nextCapabilitiesSegment_window w
      cases hl : lexSegment text with
      | blank =>
        rw [hl] at hnext
        have hturn : capsTurn mem ⟨pos, text.length, false, pcaps⟩ = .error .nullDeref := by
          rw [capsTurn, hnext]; rfl
        rw [whileLoop_fault fuel hmore hturn, applyText, lexSegments_blank ht hl]; rfl
      | fault f left =>
        rw [hl] at hnext
        have hturn : capsTurn mem ⟨pos, text.length, false, pcaps⟩ =
            .ok ⟨pos, text.length, true, applyFault pcaps (.segment f (stop - left.length))⟩ := by
          rw [capsTurn, hnext]; rfl
        rw [whileLoop_step fuel hmore hturn, whileLoop_stop (by rfl), applyText, lexSegments_fault ht hl]
        rfl
      | seg s rest =>
        rw [hl] at hnext
        have hturn : capsTurn mem ⟨pos, text.length, false, pcaps⟩ =
            .ok ⟨stop - rest.length, rest.length, false, applySegment pcaps s⟩ := by
          rw [capsTurn, hnext, ok_bind]
          dsimp only [LexedSegment.place]
          rw [parseSegment_window w hl]; rfl
        have hlt := length_lexSegment_lt hl
        rw [whileLoop_step fuel hmore hturn, capsLoop_window fuel (w.suffix (lexSegment_suffix hl)) (by omega), applyText,
          applyText, lexSegments_seg hl, foldl_cons]

end Segments

/-! ## The whole string -/

def rtrim (bytes : List Byte) : List Byte := bytes.rdropWhile isBlank

inductive Outer where
  | unclosed
  | parens (inner : List Byte)
  | bare (text : List Byte)
  deriving DecidableEq, Repr

def outer : List Byte → Outer
  | [] => .bare []
  | c :: text =>
    if c = lparen then if text.getLast? = some rparen then .parens text.dropLast else .unclosed
    else .bare (c :: text)

def capsResult (bytes : List Byte) : Exec ParsedCapabilities :=
  let pcaps := ParsedCapabilities.init (rtrim bytes)
  match outer (rtrim bytes) with
  | .unclosed => .ok (applyFault pcaps .lacksClosingParenthesis)
  | .parens inner => applyText (1 + inner.length) pcaps inner
  | .bare text => applyText text.length pcaps text

theorem rtrimLen_eq (post bytes : List Byte) : rtrimLen (bytes ++ post) bytes.length = .ok (rtrim bytes).length := by
  induction bytes using List.reverseRecOn generalizing post with
  | nil => rfl
  | append_singleton l x ih =>
    have hfetch : fetch (l ++ [x] ++ post) l.length = .ok x := by
      rw [fetch_eq_ok, append_assoc, getElem?_append_right (Nat.le_refl _), Nat.sub_self]; rfl
    rw [length_append, length_singleton, rtrimLen, fetchLast, hfetch, ok_bind, rtrim,
      rdropWhile_concat]
    by_cases hx : x = blank
    · rw [if_pos hx, if_pos (by rw [hx]; rfl), append_assoc]; exact ih ([x] ++ post)
    · have hx' : ¬ isBlank x = true := by simpa [isBlank] using hx
      rw [if_neg hx, if_neg hx', length_append, length_singleton]

variable (bytes : List Byte)

theorem rtrim_append : ∃ tail, bytes = rtrim bytes ++ tail ∧ ∀ c ∈ tail, isBlank c = true := by
  induction bytes using List.reverseRecOn with
  | nil => exact ⟨[], rfl, fun c hc => by cases hc⟩
  | append_singleton l x ih =>
    rw [rtrim, rdropWhile_concat]
    by_cases hx : isBlank x = true
    · obtain ⟨tail, heq, htail⟩ := ih
      rw [if_pos hx]
      refine ⟨tail ++ [x], ?_, ?_⟩
      · conv => lhs; rw [heq]
        rw [append_assoc]; rfl
      · intro c hc
        rcases mem_append.1 hc with hc | hc
        · exact htail c hc
        · rw [mem_singleton.1 hc]; exact hx
    · rw [if_neg hx]; exact ⟨[], (append_nil _).symm, fun c hc => by cases hc⟩

theorem rtrim_window :
    ∃ b post, b ≠ lparen ∧ Window (bytes ++ [0]) 0 (rtrim bytes).length (rtrim bytes) (b :: post) := by
  obtain ⟨tail, heq, htail⟩ := rtrim_append bytes
  have hmem : bytes ++ [0] = rtrim bytes ++ (tail ++ [0]) := by rw [← append_assoc, ← heq]
  rw [hmem]
  cases tail with
  | nil => exact ⟨0, [], by decide, Window.all _ _⟩
  | cons c tail =>
    have hc : c = blank := by simpa [isBlank] using htail c mem_cons_self
    exact ⟨c, tail ++ [0], by rw [hc]; decide, Window.all _ _⟩

theorem rtrim_length_le : (rtrim bytes).length ≤ bytes.length :=
  ( rdropWhile_prefix isBlank bytes).length_le

def Outer.start (t : List Byte) : Outer → CapsLoop
  | .unclosed => ⟨0, t.length, true, applyFault (ParsedCapabilities.init t) .lacksClosingParenthesis⟩
  | .parens inner => ⟨1, inner.length, false, ParsedCapabilities.init t⟩
  | .bare text => ⟨0, text.length, false, ParsedCapabilities.init t⟩

theorem fetchLast_window {c : Byte} (w : Window mem 0 stop (t ++ [c]) post) :
    fetchLast mem (t ++ [c]).length = .ok c := by
  have hlast := w.skip.fetch_cons
  rw [Nat.zero_add] at hlast
  rw [length_append, length_singleton, fetchLast, hlast]

theorem capsStart_eq : capsStart (bytes ++ [0]) bytes.length = .ok ((outer (rtrim bytes)).start (rtrim bytes)) := by
  obtain ⟨b, post, hb, w⟩ := rtrim_window bytes
  rw [capsStart, rtrimLen_eq, ok_bind, w.span_all, ok_bind]
  generalize rtrim bytes = t at *
  cases t with
  | nil =>
    rw [w.fetch_end, ok_bind, if_neg hb]; rfl
  | cons c text =>
    rw [w.fetch_cons, ok_bind]
    by_cases hc : c = lparen
    · rw [if_pos hc, outer, if_pos hc]
      cases text using List.reverseRecOn with
      | nil =>
        have hlast : fetchLast (bytes ++ [0]) [c].length = .ok c := fetchLast_window (t := []) w
        rw [hlast, ok_bind, if_pos (by rw [hc]; decide)]; rfl
      | append_singleton l x =>
        have hlast : fetchLast (bytes ++ [0]) (c :: (l ++ [x])).length = .ok x := fetchLast_window (t := c :: l) w
        rw [hlast, ok_bind, getLast?_concat, dropLast_concat]
        by_cases hx : x = rparen
        · rw [if_neg (not_not_intro hx), if_pos (congrArg some hx)]
          simp [Outer.start]
        · rw [if_pos hx, if_neg fun h => hx (Option.some.inj h)]; rfl
    · rw [if_neg hc, outer, if_neg hc]; rfl

theorem eq_of_outer_parens {inner : List Byte} (h : outer t = .parens inner) : t = lparen :: (inner ++ [rparen]) := by
  unfold outer at h
  split at h
  · cases h
  · next c text =>
    split_ifs at h with hc hlast
    cases h
    rw [hc, dropLast_append_getLast? rparen hlast]

theorem eq_of_outer_bare (h : outer t = .bare text) : t = text := by
  unfold outer at h
  split at h
  · cases h; rfl
  · split_ifs at h
    cases h; rfl

theorem outer_parens (inner : List Byte) : outer (lparen :: (inner ++ [rparen])) = .parens inner := by
  rw [outer, if_pos rfl, getLast?_concat, if_pos rfl, dropLast_concat]

theorem parseCapabilities_eq : parseCapabilities bytes = capsResult bytes := by
  obtain ⟨b, post, hb, w⟩ := rtrim_window bytes
  have hle := rtrim_length_le bytes
  have hrun : ∀ {text post : List Byte} {pos stop : Nat}, Window (bytes ++ [0]) pos stop text post →
      text.length ≤ bytes.length → ∀ pcaps, (whileLoop CapsLoop.more (capsTurn (bytes ++ [0])) (bytes.length + 1)
        ⟨pos, text.length, false, pcaps⟩).map CapsLoop.pcaps = applyText stop pcaps text :=
    fun w hlen pcaps => capsLoop_window _ w (Nat.lt_succ_of_le hlen) pcaps
  have hmap : ∀ x : Exec CapsLoop, (x >>= fun s => pure s.pcaps) = x.map CapsLoop.pcaps := fun x => by cases x <;> rfl
  unfold parseCapabilities capsResult
  dsimp only
  rw [capsStart_eq, ok_bind, hmap]
  cases ho : outer (rtrim bytes) with
  | unclosed => exact congrArg _ (whileLoop_stop rfl _)
  | parens inner =>
    have ht := eq_of_outer_parens ho
    rw [ht] at w hle
    have wi := w.next.first
    rw [length_cons, length_append] at hle; exact hrun wi (by omega) _
  | bare text =>
    have ht := eq_of_outer_bare ho
    rw [ht] at w hle ⊢; exact hrun w hle _

end Ddc
