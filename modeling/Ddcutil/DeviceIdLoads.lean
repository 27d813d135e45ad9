import Ddcutil.DeviceIds
import Mathlib.Data.List.TakeDrop
/-!
# DeviceIdLoads — what each loader of device_id_util.c makes of its lines

The loader of the vendors and the one of the usages keep the nodes of the enclosing lines in an array, one for each level;
each fills its map as a reader of the outline does.  The first does so for any lines.
-/
namespace Ddc.DevId

open Kit Kit.Outline List Exec

/-! ## A map that is being filled -/

/-- **The map and the array of nodes are the tree and the cursor of a reader.** -/
structure Shows (levels : Nat) (s : Filling) (b : Build Nat Name) : Prop where
  nodes : s.map.nodes = b.nodes
  levels_eq : s.map.levels = levels
  detail : s.map.levelDetail.length = levels
  room : levels ≤ s.curNode.length
  depth : b.cursor.length ≤ levels
  cur : ∀ k < s.curNode.length, s.curNode[k]? = some b.cursor[k]?
  level : ∀ k p, b.cursor[k]? = some p → ∃ n : MlmNode, b.nodes[p]? = some n ∧ n.level = k

theorem shows_create (levelDetail : List MlmLevel) {size : Nat} (h : levelDetail.length ≤ size) :
    Shows levelDetail.length ⟨mlmCreate levelDetail, List.replicate size none⟩ ⟨[], []⟩ where
  nodes := rfl
  levels_eq := rfl
  detail := rfl
  room := by rwa [length_replicate]
  depth := Nat.zero_le _
  cur k hk := by
    rw [length_replicate] at hk
    simp [hk]
  level k p hp := by simp at hp

theorem clearNodes_eq (n : Nat) : ∀ (start : Nat) (xs : List (Option Nat)), start + n ≤ xs.length →
    ∃ ys, (List.range' start n).foldlM (fun nodes lvl => store nodes lvl none) xs = (.ok ys : Exec _) ∧
      ys.length = xs.length ∧ ∀ k < xs.length, ys[k]? = if start ≤ k ∧ k < start + n then some none else xs[k]? := by
  induction n with
  | zero =>
    intro start xs _
    refine ⟨xs, rfl, rfl, fun k _ => ?_⟩
    rw [if_neg (by omega)]
  | succ n ih =>
    intro start xs h
    have hset : start < xs.length := by omega
    obtain ⟨ys, hys, hlen, hget⟩ := ih (start + 1) (xs.set start none) (by rw [length_set]; omega)
    rw [length_set] at hlen hget
    refine ⟨ys, ?_, hlen, fun k hk => ?_⟩
    · rw [range'_succ, foldlM_cons, store_of_lt hset, ok_bind, hys]
    · rw [hget k hk, getElem?_set]
      rcases eq_or_ne start k with rfl | hne
      · rw [if_neg (by omega), if_pos rfl, if_pos hk, if_pos (by omega)]
      · rw [if_neg hne]
        by_cases hin : start + 1 ≤ k ∧ k < start + 1 + n
        · rw [if_pos hin, if_pos (by omega)]
        · rw [if_neg hin, if_neg (by omega)]

theorem countEntry_ok (map : MultiLevelMap) (level : Nat) (h : level < map.levelDetail.length) :
    ∃ map', countEntry map level = .ok map' ∧ map'.nodes = map.nodes ∧ map'.levels = map.levels ∧
      map'.levelDetail.length = map.levelDetail.length := by
  rw [countEntry, fetch_of_lt h, ok_bind, store_of_lt h, ok_bind]; exact ⟨_, rfl, rfl, rfl, length_set⟩

section Shows

variable {levels : Nat} {s : Filling} {b : Build Nat Name} (h : Shows levels s b)

include h

theorem Shows.counted (level : Nat) (hlevel : level < levels) :
    ∃ map', countEntry s.map level = .ok map' ∧ Shows levels ⟨map', s.curNode⟩ b := by
  obtain ⟨map', hmap, hnodes, hlevels, hdetail⟩ := countEntry_ok s.map level (h.detail ▸ hlevel)
  exact ⟨map', hmap, hnodes.trans h.nodes, hlevels.trans h.levels_eq, hdetail.trans h.detail, h.room, h.depth, h.cur,
    h.level⟩

theorem Shows.newLevel {d : Nat} (hd : d ≤ b.cursor.length) : newLevel s.map (b.cursor.take d).getLast? = .ok d := by
  have hlen := h.depth
  cases d with
  | zero => rfl
  | succ d =>
    have hlt : d < b.cursor.length := hd
    have hlast : (b.cursor.take (d + 1)).getLast? = some b.cursor[d] := by
      rw [getLast?_take, if_neg (Nat.succ_ne_zero d), Nat.add_sub_cancel, getElem?_eq_getElem hlt, Option.some_or]
    obtain ⟨n, hn, hlevel⟩ := h.level d _ (getElem?_eq_getElem hlt)
    rw [hlast, DevId.newLevel, fetch_eq_ok.2 (h.nodes ▸ hn), ok_bind, hlevel]
    split_ifs
    · rfl
    · rw [fetch_of_lt (by rw [h.detail]; omega), ok_bind]

theorem Shows.addNode {d : Nat} (hd : d < levels) (hcur : d ≤ b.cursor.length) (e : Nat × Name) :
    ∃ s', addNode s d (b.cursor.take d).getLast? e = .ok s' ∧
      Shows levels s' ⟨b.nodes ++ [⟨d, (b.cursor.take d).getLast?, e.1, e.2⟩], b.cursor.take d ++ [b.nodes.length]⟩ := by
  have hroom := h.room
  obtain ⟨map', hmap, hnodes, hlevels, hdetail⟩ := countEntry_ok s.map d (h.detail.symm ▸ hd)
  obtain ⟨ys, hys, hlen, hget⟩ := clearNodes_eq (levels - (d + 1)) (d + 1)
    (s.curNode.set d (some b.nodes.length)) (by rw [length_set]; omega)
  rw [length_set] at hlen hget
  unfold DevId.addNode mlmAddNode clearNodes
  rw [h.newLevel hcur, ok_bind, hmap, ok_bind, ok_bind, h.nodes]
  rw [store_of_lt (by omega), ok_bind, h.levels_eq, hys, ok_bind]
  refine ⟨_, rfl, rfl, hlevels.trans h.levels_eq, hdetail.trans h.detail, ?_, ?_, fun k hk => ?_, fun k p hp => ?_⟩
  · dsimp only; omega
  · simp only [length_append, length_take, length_cons, length_nil]; omega
  · rw [hget k (hlen ▸ hk), getElem?_set]
    rcases Nat.lt_trichotomy k d with hlt | rfl | hgt
    · rw [if_neg (by omega), if_neg (by omega), h.cur k (hlen ▸ hk), getElem?_append_left (by simp; omega),
        getElem?_take_of_lt hlt]
    · rw [if_neg (by omega), if_pos rfl, if_pos (by omega)]
      have hlast := getElem?_concat_length (l := b.cursor.take k) (a := b.nodes.length)
      rw [length_take, Nat.min_eq_left hcur] at hlast
      rw [hlast]
    · have hnone : (b.cursor.take d ++ [b.nodes.length])[k]? = none := by
        rw [getElem?_eq_none]
        simp only [length_append, length_take, length_cons, length_nil]; omega
      rw [hnone]
      by_cases hin : d + 1 ≤ k ∧ k < d + 1 + (levels - (d + 1))
      · rw [if_pos hin]
      · rw [if_neg hin, if_neg (by omega), h.cur k (hlen ▸ hk), getElem?_eq_none (by have := h.depth; omega)]
  · rcases Nat.lt_or_ge k d with hlt | hge
    · rw [getElem?_append_left (by simp; omega), getElem?_take_of_lt hlt] at hp
      obtain ⟨n, hn, hlevel⟩ := h.level k p hp
      exact ⟨n, by rw [getElem?_append_left (List.getElem?_eq_some_iff.1 hn).1, hn], hlevel⟩
    · have hk : k = (b.cursor.take d).length := by
        have := (List.getElem?_eq_some_iff.1 hp).1
        simp only [length_append, length_take, length_cons, length_nil] at this ⊢; omega
      rw [hk, getElem?_concat_length] at hp
      cases hp
      refine ⟨_, getElem?_concat_length, ?_⟩
      rw [hk, length_take, Nat.min_eq_left hcur]

theorem Shows.fetch {d : Nat} (hd : d < levels) : fetch s.curNode d = .ok b.cursor[d]? :=
  fetch_eq_ok.2 (h.cur d (Nat.lt_of_lt_of_le hd h.room))

theorem Shows.cleared {d : Nat} (hd : d ≤ levels) :
    ∃ curNode, clearNodes s.curNode d s.map.levels = .ok curNode ∧
      Shows levels ⟨s.map, curNode⟩ ⟨b.nodes, b.cursor.take d⟩ := by
  have hroom := h.room
  have hdepth := h.depth
  obtain ⟨ys, hys, hlen, hget⟩ := clearNodes_eq (levels - d) d s.curNode (by omega)
  rw [h.levels_eq]
  refine ⟨ys, hys, h.nodes, h.levels_eq, h.detail, by dsimp only; omega, ?_, fun k hk => ?_, fun k p hp => ?_⟩
  · rw [length_take]; omega
  · rw [hget k (hlen ▸ hk), getElem?_take]
    rcases Nat.lt_or_ge k d with hlt | hge
    · rw [if_neg (by omega), if_pos hlt, h.cur k (hlen ▸ hk)]
    · rw [if_neg (Nat.not_lt.2 hge)]
      by_cases hin : d ≤ k ∧ k < d + (levels - d)
      · rw [if_pos hin]
      · rw [if_neg hin, h.cur k (hlen ▸ hk), getElem?_eq_none (by omega)]
  · rw [getElem?_take] at hp
    split_ifs at hp
    exact h.level k p hp

end Shows

/-! ## Vendors, devices and what is under them -/

def idsClears (level : Nat) : Bool := decide (level = 0)

theorem Shows.deviceLine {s : Filling} {b : Build Nat Name} (h : Shows 3 s b) {d : Nat} (h0 : d ≠ 0) (h3 : d < 3)
    (entry reads : Option (Nat × Name)) :
    ∃ s', deviceLine s d reads = .ok s' ∧ Shows 3 s' (lay idsClears b ⟨d, entry, reads⟩) := by
  have hclears : idsClears d = false := decide_eq_false h0
  rw [DevId.deviceLine, h.fetch (by omega), ok_bind]
  by_cases hdeep : b.cursor.length < d
  · rw [lay_of_lt hdeep, getElem?_eq_none (by omega)]; exact ⟨s, rfl, h⟩
  · have hle := Nat.le_of_not_lt hdeep
    have hlt : d - 1 < b.cursor.length := by omega
    rw [getElem?_eq_getElem hlt]
    cases reads with
    | none =>
      rw [lay_none rfl hclears]; exact ⟨s, rfl, h⟩
    | some e =>
      have hlast : (b.cursor.take d).getLast? = some b.cursor[d - 1] := by
        rw [getLast?_take, if_neg h0, getElem?_eq_getElem hlt, Option.some_or]
      obtain ⟨s', hs', hshows⟩ := h.addNode h3 hle e
      rw [lay_some hle rfl]
      rw [hlast] at hs'; exact ⟨s', hs', hshows⟩

theorem Shows.idLine {s : Filling} {b : Build Nat Name} (h : Shows 3 s b) (idType : DeviceIdType) (aLine : Line) :
    ∃ s', idLine idType s (tabct aLine) (body aLine) = .ok s' ∧
      Shows 3 s' (lay idsClears b ((Section.ids idType).line aLine)) := by
  unfold Section.line
  generalize body aLine = text
  rcases tabct aLine with _ | _ | _ | level
  · cases hread : scanIdName text with
    | none =>
      obtain ⟨curNode, hclear, hshows⟩ := h.cleared (Nat.zero_le 3)
      refine ⟨⟨s.map, curNode⟩, ?_, ?_⟩
      · rw [DevId.idLine, hread, hclear, ok_bind]
      · rw [lay_clear (Nat.zero_le _) hread rfl]; exact hshows
    | some e =>
      obtain ⟨s', hs', hshows⟩ := h.addNode (by decide) (Nat.zero_le _) e
      refine ⟨s', by rw [DevId.idLine, hread]; exact hs', ?_⟩
      rw [lay_some (Nat.zero_le _) hread]; exact hshows
  · exact h.deviceLine (by decide) (by decide) _ _
  · exact h.deviceLine (by decide) (by decide) _ _
  · exact ⟨s, rfl, by rwa [lay_none rfl rfl]⟩

/-! ## The end of the section -/

def closes (idType : DeviceIdType) (aLine : Line) : Bool :=
  decide (idType = .usb ∧ (body aLine).head? = some letterC)

def endsIds (idType : DeviceIdType) (aLine : Line) : Bool :=
  !ignored aLine && (closes idType aLine || isLastVendor (tabct aLine) (body aLine))

def beforeEnd (idType : DeviceIdType) (text : List Line) : List Line := text.takeWhile fun aLine => !endsIds idType aLine

def fromEnd (idType : DeviceIdType) (text : List Line) : List Line := text.dropWhile fun aLine => !endsIds idType aLine

def idsLines (idType : DeviceIdType) (text : List Line) : List Line :=
  beforeEnd idType text ++ ((fromEnd idType text).take 1).filter fun aLine => !closes idType aLine

theorem loadDeviceIdsFrom_done (idType : DeviceIdType) (text : List Line) (n : Nat) (s : Filling) :
    loadDeviceIdsFrom idType text n true s = .ok (s, n) := by
  cases text with
  | nil | cons aLine text => rfl

theorem loadDeviceIdsFrom_shows (idType : DeviceIdType) (text : List Line) : ∀ {n : Nat} {s : Filling} {b : Build Nat Name},
    Shows 3 s b →
    ∃ s', loadDeviceIdsFrom idType text n false s =
        .ok (s', n + (beforeEnd idType text).length + min 1 (fromEnd idType text).length) ∧
      Shows 3 s' (((Section.ids idType).outline (idsLines idType text)).foldl (lay idsClears) b) := by
  induction text with
  | nil => exact fun h => ⟨_, rfl, h⟩
  | cons aLine text ih =>
    intro n s b h
    unfold loadDeviceIdsFrom
    by_cases hends : endsIds idType aLine = true
    · have hbefore : beforeEnd idType (aLine :: text) = [] := takeWhile_cons_of_neg (by simp [hends])
      have hfrom : fromEnd idType (aLine :: text) = aLine :: text := dropWhile_cons_of_neg (by simp [hends])
      rw [idsLines, hbefore, hfrom, nil_append, take_succ_cons, take_zero, length_cons,
        Nat.min_eq_left (Nat.succ_pos _)]
      obtain ⟨hignored, hend⟩ := Bool.and_eq_true_iff.1 hends
      have hignored : ignored aLine = false := by simpa using hignored
      rw [hignored, if_neg Bool.false_ne_true]
      cases hcloses : closes idType aLine with
      | true =>
        rw [if_pos (of_decide_eq_true hcloses), loadDeviceIdsFrom_done]
        exact ⟨s, rfl, by simpa [hcloses, Section.outline] using h⟩
      | false =>
        rw [hcloses, Bool.false_or] at hend
        obtain ⟨s', hs', hshows⟩ := h.idLine idType aLine
        rw [if_neg (of_decide_eq_false hcloses), hs', ok_bind, hend, loadDeviceIdsFrom_done]
        exact ⟨s', rfl, by simpa [hcloses, hignored, Section.outline] using hshows⟩
    · have hbefore : beforeEnd idType (aLine :: text) = aLine :: beforeEnd idType text :=
        takeWhile_cons_of_pos (by simp [hends])
      have hfrom : fromEnd idType (aLine :: text) = fromEnd idType text := dropWhile_cons_of_pos (by simp [hends])
      have hlines : idsLines idType (aLine :: text) = aLine :: idsLines idType text := by
        rw [idsLines, hbefore, hfrom]; rfl
      have hplace : n + (aLine :: beforeEnd idType text).length + min 1 (fromEnd idType text).length =
          n + 1 + (beforeEnd idType text).length + min 1 (fromEnd idType text).length := by
        rw [length_cons]; omega
      rw [hbefore, hfrom, hlines, hplace]
      cases hignored : ignored aLine with
      | true =>
        rw [if_pos rfl, (Section.ids idType).outline_ignored hignored]; exact ih h
      | false =>
        have hno : closes idType aLine = false ∧ isLastVendor (tabct aLine) (body aLine) = false := by
          simpa [endsIds, hignored] using hends
        obtain ⟨s', hs', hshows⟩ := h.idLine idType aLine
        rw [if_neg Bool.false_ne_true, if_neg (of_decide_eq_false hno.1), hs', ok_bind, hno.2,
          (Section.ids idType).outline_cons hignored, foldl_cons]
        exact ih hshows

/-! ## The segments of usb.ids, as they are found and loaded

A segment is a line without tabs and the lines after it, up to the next one without tabs that begins with another word.
The loaders of the two kinds of segment end differently: on the line that ended the segment, or behind it.
-/

/-! ## Lines that begin with a tag -/

def firstWord (aLine : Line) : List Byte := ((rtrimInPlace aLine).dropWhile isspace).takeWhile isWordChar

def afterWord (aLine : Line) : List Byte := ((rtrimInPlace aLine).dropWhile isspace).dropWhile isWordChar

def isHead (aLine : Line) : Bool := !ignored aLine && decide (tabct aLine = 0)

variable {aLine : Line} {tag : List Byte}

theorem body_of_tabct (h : tabct aLine = 0) : body aLine = rtrimInPlace aLine := by
  rw [body, h, drop_zero]

theorem firstWord_ne_nil (hne : rtrimInPlace aLine ≠ []) : firstWord aLine ≠ [] := by
  obtain ⟨c, hc, hspace⟩ := exists_of_trimmed (s := rtrimInPlace aLine) (rdropWhile_idempotent ..) hne
  have hskip : (rtrimInPlace aLine).dropWhile isspace ≠ [] := by
    intro hskip
    rw [dropWhile_eq_nil_iff] at hskip
    rw [hskip c hc] at hspace; cases hspace
  have hhead := head_dropWhile_not isspace hskip
  obtain ⟨d, rest, hd⟩ := exists_cons_of_ne_nil hskip
  simp only [hd, head_cons] at hhead
  rw [firstWord, hd, takeWhile_cons_of_pos (by simp [isWordChar, hhead])]; exact cons_ne_nil _ _

theorem scanTag_firstWord (hne : rtrimInPlace aLine ≠ []) (hlen : (firstWord aLine).length < maxTagSize) :
    scanTag (rtrimInPlace aLine) = .ok (firstWord aLine, afterWord aLine) := by
  change (if firstWord aLine = [] then (.error .assertFailed : Exec (List Byte × List Byte))
    else if (firstWord aLine).length < maxTagSize then .ok (firstWord aLine, afterWord aLine)
    else .error .outOfBounds) = _
  rw [if_neg (firstWord_ne_nil hne), if_pos hlen]

section Heads

variable {aLine : Line} (h : isHead aLine = true)

include h

theorem isHead_ignored : ignored aLine = false := by
  simpa using (Bool.and_eq_true_iff.1 h).1

theorem isHead_tabct : tabct aLine = 0 := of_decide_eq_true (Bool.and_eq_true_iff.1 h).2

theorem isHead_rtrim : rtrimInPlace aLine ≠ [] ∧ (rtrimInPlace aLine).head? ≠ some hash := by
  have hignored := of_decide_eq_false (isHead_ignored h)
  rw [body_of_tabct (isHead_tabct h)] at hignored; exact not_or.1 hignored

theorem isHead_simpleIgnored : simpleIgnored aLine = false := decide_eq_false (not_or.2 (isHead_rtrim h))

theorem scanTag_head (hlen : (firstWord aLine).length < maxTagSize) :
    scanTag (body aLine) = .ok (firstWord aLine, afterWord aLine) := by
  rw [body_of_tabct (isHead_tabct h)]; exact scanTag_firstWord (isHead_rtrim h).1 hlen

end Heads

def Quiet (tag : List Byte) (text : List Line) : Prop := ∀ aLine ∈ text, isHead aLine = true → firstWord aLine = tag

instance (tag : List Byte) (text : List Line) : Decidable (Quiet tag text) :=
  inferInstanceAs (Decidable (∀ aLine ∈ text, isHead aLine = true → firstWord aLine = tag))

theorem findNextFrom_quiet (htag : tag.length < maxTagSize) (more : List Line) (text : List Line) :
    ∀ {n : Nat}, Quiet tag text → findNextFrom (text ++ more) n tag = findNextFrom more (n + text.length) tag := by
  induction text with
  | nil => exact fun _ => rfl
  | cons aLine text ih =>
    intro n hquiet
    have htext : Quiet tag text := fun l hl => hquiet l (mem_cons_of_mem aLine hl)
    rw [cons_append, findNextFrom, length_cons, Nat.add_comm text.length, ← Nat.add_assoc, ← ih htext]
    cases hignored : ignored aLine with
    | true => rw [if_pos rfl]
    | false =>
      rw [if_neg Bool.false_ne_true]
      split_ifs with htab
      · have hhead : isHead aLine = true := by simp [isHead, hignored, htab]
        have hword := hquiet aLine mem_cons_self hhead
        rw [scanTag_head hhead (hword ▸ htag), ok_bind, if_pos hword]
      · rfl

theorem findNextFrom_head (hhead : isHead aLine = true) (hne : firstWord aLine ≠ tag)
    (hlen : (firstWord aLine).length < maxTagSize) (n : Nat) (more : List Line) :
    findNextFrom (aLine :: more) n tag = .ok (n, firstWord aLine) := by
  rw [findNextFrom, isHead_ignored hhead, if_neg Bool.false_ne_true, if_pos (isHead_tabct hhead),
    scanTag_head hhead hlen, ok_bind, if_neg hne]

/-! ## Simple segments -/

def inSimple (tag : List Byte) (aLine : Line) : Bool := simpleIgnored aLine || decide (firstWord aLine = tag)

def simpleTable (stale : Nat) (text : List Line) : SimpleIdTable :=
  (text.filter fun aLine => !simpleIgnored aLine).map fun aLine => simpleEntry stale (afterWord aLine)

variable (stale : Nat)

theorem simpleTable_cons (aLine : Line) (text : List Line) :
    simpleTable stale (aLine :: text) =
      if simpleIgnored aLine then simpleTable stale text else simpleEntry stale (afterWord aLine) :: simpleTable stale text := by
  cases h : simpleIgnored aLine with
  | true | false => simp [simpleTable, h]

theorem loadSimpleFrom_part (htag : tag.length < maxTagSize) (more : List Line) (text : List Line) :
    ∀ {n : Nat} {table : SimpleIdTable}, (∀ aLine ∈ text, inSimple tag aLine = true) →
      loadSimpleFrom stale tag (text ++ more) n table =
      loadSimpleFrom stale tag more (n + text.length) (table ++ simpleTable stale text) := by
  induction text with
  | nil =>
    intro n table _
    rw [nil_append, show simpleTable stale [] = [] from rfl, append_nil]; rfl
  | cons aLine text ih =>
    intro n table hin
    have htext := fun l hl => hin l (mem_cons_of_mem aLine hl)
    have hplace : n + (aLine :: text).length = n + 1 + text.length := by rw [length_cons]; omega
    rw [cons_append, loadSimpleFrom, simpleTable_cons, hplace]
    cases hignored : simpleIgnored aLine with
    | true =>
      exact ih htext
    | false =>
      have hword : firstWord aLine = tag := by
        have := hin aLine mem_cons_self
        rw [inSimple, hignored, Bool.false_or] at this; exact of_decide_eq_true this
      have hne : rtrimInPlace aLine ≠ [] := (not_or.1 (of_decide_eq_false hignored)).1
      rw [if_neg Bool.false_ne_true, if_neg Bool.false_ne_true, scanTag_firstWord hne (hword ▸ htag), ok_bind,
        if_pos hword, ih htext, append_assoc, singleton_append]

theorem loadSimpleFrom_stop (hin : inSimple tag aLine = false) (hlen : (firstWord aLine).length < maxTagSize)
    (n : Nat) (table : SimpleIdTable) (more : List Line) :
    loadSimpleFrom stale tag (aLine :: more) n table = .ok (table, n + 1) := by
  obtain ⟨hignored, hword⟩ := Bool.or_eq_false_iff.1 hin
  have hne : rtrimInPlace aLine ≠ [] := (not_or.1 (of_decide_eq_false hignored)).1
  rw [loadSimpleFrom, hignored, if_neg Bool.false_ne_true, scanTag_firstWord hne hlen, ok_bind,
    if_neg (of_decide_eq_false hword)]

/-- **The loader of simple segments ends on the line that ended the segment**, or on the last line of the file. -/
theorem loadSimpleIdSegment_eq {allLines text more : List Line} {pos : Nat} (htag : tag.length < maxTagSize)
    (hdrop : allLines.drop pos = text ++ more) (hne : text ≠ []) (hin : ∀ aLine ∈ text, inSimple tag aLine = true)
    (hstop : ∀ aLine, more.head? = some aLine → inSimple tag aLine = false ∧ (firstWord aLine).length < maxTagSize) :
    ∃ n junk, loadSimpleIdSegment stale allLines tag pos = .ok (simpleTable stale text, n) ∧
      allLines.drop n = junk ++ more ∧ ∀ aLine ∈ junk, aLine ∈ text := by
  have hlen := congrArg List.length hdrop
  have hpos : 0 < text.length := length_pos_of_ne_nil hne
  rw [length_drop, length_append] at hlen
  rw [loadSimpleIdSegment, hdrop, loadSimpleFrom_part stale htag more text hin, nil_append]
  cases more with
  | nil =>
    rw [length_nil] at hlen
    refine ⟨allLines.length - 1, [text.getLast hne], ?_, ?_, fun l hl => ?_⟩
    · rw [loadSimpleFrom, ok_bind, if_pos (by omega), show pos + text.length - 1 = allLines.length - 1 by omega]
    · have hplace : pos + (text.length - 1) = allLines.length - 1 := by omega
      rw [← hplace, ← drop_drop, hdrop, append_nil, append_nil, drop_length_sub_one hne]
    · rw [mem_singleton.1 hl]; exact getLast_mem hne
  | cons aLine more =>
    rw [length_cons] at hlen
    obtain ⟨hout, hshort⟩ := hstop aLine rfl
    refine ⟨pos + text.length, [], ?_, ?_, fun l hl => by cases hl⟩
    · rw [loadSimpleFrom_stop stale hout hshort, ok_bind, if_pos (by omega)]; rfl
    · rw [← drop_drop, hdrop, drop_left]; rfl

/-! ## The usages -/

def usagesClears (_level : Nat) : Bool := false

def usagesOrphan (level : Nat) : Prop := level < 2

instance : DecidablePred usagesOrphan := fun level => inferInstanceAs (Decidable (level < 2))

theorem reads_usages_head (hhead : isHead aLine = true) (hword : firstWord aLine = hutTag) :
    (Section.usages.line aLine).reads = scanIdName (afterWord aLine) := by
  have hlen : (firstWord aLine).length < maxTagSize := by rw [hword]; decide
  rw [Section.line, isHead_tabct hhead]
  change scanTagged hutTag (body aLine) = _
  rw [scanTagged, scanTag_head hhead hlen]; exact if_pos hword

theorem Shows.usagePage {s : Filling} {b : Build Nat Name} (h : Shows 2 s b) (hhead : isHead aLine = true)
    (hword : firstWord aLine = hutTag) :
    ∃ s', usagePage s (scanIdName (afterWord aLine)) = .ok s' ∧
      Shows 2 s' (lay usagesClears b (Section.usages.line aLine)) := by
  have hreads := reads_usages_head hhead hword
  have hdepth : (Section.usages.line aLine).depth = 0 := isHead_tabct hhead
  cases hscan : scanIdName (afterWord aLine) with
  | none =>
    rw [lay_none (hreads.trans hscan) rfl]; exact ⟨s, rfl, h⟩
  | some e =>
    obtain ⟨map', hmap, hcounted⟩ := h.counted 0 (by decide)
    obtain ⟨s', hs', hshows⟩ := hcounted.addNode (d := 0) (by decide) (Nat.zero_le _) e
    refine ⟨s', ?_, ?_⟩
    · unfold DevId.usagePage
      dsimp only
      rw [hmap, ok_bind]; exact hs'
    · rw [lay_some (by rw [hdepth]; exact Nat.zero_le _) (hreads.trans hscan), hdepth]; exact hshows

theorem Shows.usageLine {s : Filling} {b : Build Nat Name} (h : Shows 2 s b) (htab : tabct aLine ≠ 0) {enclosing : Nat}
    {ls : List (Outline.Line Nat Name)}
    (htidy : Tidy usagesClears usagesOrphan enclosing b.cursor.length (Section.usages.line aLine :: ls)) :
    ∃ s', usageLine s (tabct aLine) (body aLine) = .ok s' ∧
      Shows 2 s' (lay usagesClears b (Section.usages.line aLine)) := by
  have hreads : (Section.usages.line aLine).reads = scanIdName (body aLine) := by
    unfold Section.line
    obtain ⟨level, hlevel⟩ := Nat.exists_eq_succ_of_ne_zero htab
    rw [hlevel]; rfl
  have hcur := h.depth
  unfold DevId.usageLine
  by_cases hdeep : b.cursor.length < tabct aLine
  · have horphan : tabct aLine < 2 := htidy.orphan hdeep
    rw [h.fetch (by omega), ok_bind, getElem?_eq_none (by omega), lay_of_lt hdeep]
    rw [fetch_of_lt (by rw [h.detail]; exact horphan), ok_bind]; exact ⟨s, rfl, h⟩
  · have hle := Nat.le_of_not_lt hdeep
    have hlt : tabct aLine - 1 < b.cursor.length := by omega
    rw [h.fetch (by omega), ok_bind, getElem?_eq_getElem hlt]
    cases hscan : scanIdName (body aLine) with
    | none =>
      rw [lay_none (hreads.trans hscan) rfl]; exact ⟨s, rfl, h⟩
    | some e =>
      have hentry : Section.usages.entry (tabct aLine) (body aLine) = some e := htidy.entry hle (hreads.trans hscan)
      have hlevel : tabct aLine < 2 := by
        by_contra hge
        obtain ⟨level, hlevel⟩ := Nat.exists_eq_add_of_le (Nat.le_of_not_lt hge)
        rw [hlevel, Nat.add_comm] at hentry; cases hentry
      have hlast : (b.cursor.take (tabct aLine)).getLast? = some b.cursor[tabct aLine - 1] := by
        rw [getLast?_take, if_neg htab, getElem?_eq_getElem hlt, Option.some_or]
      obtain ⟨map', hmap, hcounted⟩ := h.counted _ hlevel
      obtain ⟨s', hs', hshows⟩ := hcounted.addNode hlevel hle e
      rw [hlast] at hs'
      rw [lay_some hle (hreads.trans hscan)]
      refine ⟨s', ?_, hshows⟩
      dsimp only
      rw [hmap, ok_bind]; exact hs'

theorem loadMultiLevelFrom_part (more : List Line) (text : List Line) : ∀ {n enclosing : Nat} {s : Filling}
    {b : Build Nat Name}, Shows 2 s b → Quiet hutTag text →
    Tidy usagesClears usagesOrphan enclosing b.cursor.length (Section.usages.outline text) →
    ∃ s', loadMultiLevelFrom hutTag (text ++ more) n s = loadMultiLevelFrom hutTag more (n + text.length) s' ∧
      Shows 2 s' ((Section.usages.outline text).foldl (lay usagesClears) b) := by
  induction text with
  | nil => exact fun h _ _ => ⟨_, rfl, h⟩
  | cons aLine text ih =>
    intro n enclosing s b h hquiet htidy
    have htext : Quiet hutTag text := fun l hl => hquiet l (mem_cons_of_mem aLine hl)
    have hplace : n + (aLine :: text).length = n + 1 + text.length := by rw [length_cons]; omega
    rw [cons_append, loadMultiLevelFrom, hplace]
    cases hignored : ignored aLine with
    | true =>
      rw [Section.usages.outline_ignored hignored] at htidy ⊢; exact ih h htext htidy
    | false =>
      rw [Section.usages.outline_cons hignored] at htidy ⊢
      obtain ⟨enclosing', htail⟩ := htidy.tail
      by_cases htab : tabct aLine = 0
      · have hhead : isHead aLine = true := by simp [isHead, hignored, htab]
        have hword := hquiet aLine mem_cons_self hhead
        obtain ⟨s', hs', hshows⟩ := h.usagePage hhead hword
        rw [if_pos htab, scanTag_head hhead (by rw [hword]; decide), ok_bind, if_pos hword, hs', ok_bind]
        exact ih hshows htext htail
      · obtain ⟨s', hs', hshows⟩ := h.usageLine htab htidy
        rw [if_neg htab, hs', ok_bind]; exact ih hshows htext htail

theorem loadMultiLevelSegment_eq {allLines text more : List Line} {pos : Nat} (hdrop : allLines.drop pos = text ++ more)
    (hquiet : Quiet hutTag text) (htidy : Tidy usagesClears usagesOrphan 0 0 (Section.usages.outline text))
    (hstop : ∀ aLine, more.head? = some aLine →
      isHead aLine = true ∧ firstWord aLine ≠ hutTag ∧ (firstWord aLine).length < maxTagSize) :
    ∃ map n, loadMultiLevelSegment hutTag allLines pos = .ok (map, n) ∧ allLines.drop n = more.tail ∧
      map.nodes = ((Section.usages.outline text).foldl (lay usagesClears) ⟨[], []⟩).nodes := by
  have hcreate : Shows 2 ⟨mlmCreate hutLevelDesc, List.replicate curNodesSize none⟩ ⟨[], []⟩ :=
    shows_create hutLevelDesc (by decide)
  obtain ⟨s', hs', hshows⟩ := loadMultiLevelFrom_part more text (n := pos) hcreate hquiet htidy
  have hdrop' : allLines.drop (pos + text.length) = more := by rw [← drop_drop, hdrop, drop_left]
  rw [loadMultiLevelSegment, hdrop, hs']
  cases more with
  | nil => exact ⟨s'.map, pos + text.length, rfl, hdrop', hshows.nodes⟩
  | cons aLine more =>
    obtain ⟨hhead, hword, hlen⟩ := hstop aLine rfl
    refine ⟨s'.map, pos + text.length + 1, ?_, ?_, hshows.nodes⟩
    · rw [loadMultiLevelFrom, isHead_ignored hhead, if_neg Bool.false_ne_true, if_pos (isHead_tabct hhead),
        scanTag_head hhead hlen, ok_bind, if_neg hword]
      rfl
    · rw [← drop_drop, hdrop', drop_one]

end Ddc.DevId
