import Ddcutil.Dsa2RestoreSafe
import Ddcutil.Kit.Window
/-!
# Dsa2Save — the stats file is written, and what reading it gives back

`dsa2_save_persistent_stats` writes a line for each bus below `I2C_BUS_MAX` that has a table.  A line is words between
blanks, and each word is one that the reader's conversion takes back to the value it was printed from.
-/
namespace Ddc

open Kit List

def statsHeader : List (List Byte) :=
  [ascii "FORMAT 2", ascii "* DEV  /dev/i2c device", ascii "* EC   EDID check sum byte", ascii "* C    current step",
    ascii "* I    interval remaining", ascii "* L    current lookback", ascii "* DEV EC C I L Values",
    ascii "* Values \x7btries required, step, epoch seconds\x7d"]

def statsInvocation (si : SuccessfulInvocation) : List Byte :=
  ascii "\x7b" ++ (decimal si.tryct ++ ascii "," ++ decimal si.requiredStep ++ ascii "," ++ decimal si.epochSeconds) ++
    ascii "\x7d"

/-- The line of a table: `"i2c-%d %02x %d %d %d"`, then `" {%d,%d,%jd}"` for each success from the oldest on. -/
def statsLine (rtable : ResultsTable) : List Byte :=
  ascii "i2c-" ++ decimal rtable.busno ++ ascii " " ++ hexByte false rtable.edidChecksumByte ++ ascii " " ++
    decimal rtable.curStep ++ ascii " " ++ decimal rtable.remainingInterval ++ ascii " " ++ decimal rtable.curLookback ++
    (List.range rtable.recentValues.ct).flatMap fun (k : Nat) =>
      ascii " " ++ statsInvocation (cirbGetLogical rtable.recentValues k)

def savedTables (g : Dsa2) : List ResultsTable := (g.resultsTables.take i2cBusMax).filterMap id

def statsText (g : Dsa2) : List Byte := unlines newline (statsHeader ++ (savedTables g).map statsLine)

/-- `dsa2_save_persistent_stats`, by whether the file has a name and what opening it for writing gives; the status
and the content of the file written. -/
def dsa2SavePersistentStats (g : Dsa2) (hasName : Bool) (openErrno : Int) : Status × Option (List Byte) :=
  if !hasName then (-eNoent, none) else if openErrno ≠ 0 then (-openErrno, none) else (0, some (statsText g))

def isLong (n : Int) : Prop := longMin ≤ n ∧ n ≤ longMax

/-- **A table whose fields are values of their C types**, installed for its own bus. -/
structure ResultsTable.InRange (rtable : ResultsTable) (busno : Nat) : Prop where
  busno_eq : rtable.busno = busno
  curStep : intMin ≤ rtable.curStep ∧ rtable.curStep ≤ stepLast
  retryStep : intMin ≤ rtable.curRetryLoopStep ∧ rtable.curRetryLoopStep ≤ stepLast
  interval : isInt rtable.remainingInterval
  size : rtable.recentValues.size = maxRecentValues
  recent : ∀ v ∈ rtable.recentValues.contents, isInt v.tryct ∧ isInt v.requiredStep ∧ isLong v.epochSeconds

/-! ## Words -/

def statsWords (rtable : ResultsTable) : List (List Byte) :=
  [ascii "i2c-" ++ decimal rtable.busno, hexByte false rtable.edidChecksumByte, decimal rtable.curStep,
    decimal rtable.remainingInterval, decimal rtable.curLookback] ++ rtable.recentValues.contents.map statsInvocation

theorem map_cirbGetLogical (cirb : Cirb) :
    (List.range cirb.ct).map (fun (k : Nat) => cirbGetLogical cirb k) = cirb.contents := by
  have hlen := cirb.length_contents
  apply ext_getElem?
  intro i
  rw [getElem?_map]
  rcases Nat.lt_or_ge i cirb.ct with hlt | hge
  · rw [getElem?_range hlt, Option.map_some, cirbGetLogical_of_lt cirb hlt]
  · rw [getElem?_eq_none (by rw [length_range]; exact hge), getElem?_eq_none (by rw [hlen]; exact hge)]
    rfl

theorem statsLine_eq (rtable : ResultsTable) : statsLine rtable = joinWith [blank] (statsWords rtable) := by
  have hvalues : (List.range rtable.recentValues.ct).flatMap (fun (k : Nat) =>
      ascii " " ++ statsInvocation (cirbGetLogical rtable.recentValues k)) =
      (rtable.recentValues.contents.map statsInvocation).flatMap fun w => [blank] ++ w := by
    rw [← map_cirbGetLogical, map_map, flatMap_map]; rfl
  have hblank : ascii " " = [blank] := rfl
  rw [statsLine, hvalues, hblank]
  simp only [statsWords, joinWith, cons_append, nil_append, flatMap_cons, append_assoc]

def wordChar (c : Byte) : Bool := decide (0x21 ≤ c)

theorem ne_of_wordChar {c d : Byte} (h : wordChar c = true) (hd : wordChar d = false) : c ≠ d := by
  rintro rfl
  rw [h] at hd; cases hd

theorem wordChar_of_digitVal {c : Byte} {n : Nat} (h : digitVal c = some n) : wordChar c = true :=
  decide_eq_true (UInt8.le_trans (by decide) (le_of_digitVal h))

theorem isspace_of_wordChar {c : Byte} (h : wordChar c = true) : isspace c = false := by
  have hle : 0x21 ≤ c := of_decide_eq_true h
  have hblank : c ≠ blank := ne_of_wordChar h (by decide)
  have hcr : ¬ c ≤ 0x0d := fun hc => absurd (UInt8.le_trans hle hc) (by decide)
  simp [isspace, hblank, hcr]

theorem all_decimal (n : Int) : (decimal n).all wordChar = true := by
  rw [all_eq_true]
  intro c hc
  rcases mem_decimal hc with rfl | ⟨d, -, hd⟩
  · decide
  · exact wordChar_of_digitVal hd

theorem all_hexByte (upper : Bool) (b : Byte) : (hexByte upper b).all wordChar = true := by
  rw [all_eq_true]
  intro c hc
  obtain ⟨n, hn⟩ := mem_hexByte hc
  exact wordChar_of_digitVal hn

theorem all_statsInvocation (si : SuccessfulInvocation) : (statsInvocation si).all wordChar = true := by
  have hopen : (ascii "\x7b").all wordChar = true := by decide
  have hcomma : (ascii ",").all wordChar = true := by decide
  have hclose : (ascii "\x7d").all wordChar = true := by decide
  simp only [statsInvocation, all_append, all_decimal, hopen, hcomma, hclose, Bool.and_true]

theorem statsWords_spec {rtable : ResultsTable} {w : List Byte} (h : w ∈ statsWords rtable) :
    w ≠ [] ∧ ∀ c ∈ w, wordChar c = true := by
  have hname : (ascii "i2c-").all wordChar = true := by decide
  rw [← all_eq_true]
  simp only [statsWords, mem_append, mem_cons, not_mem_nil, or_false, mem_map] at h
  rcases h with (rfl | rfl | rfl | rfl | rfl) | ⟨si, -, rfl⟩
  · refine ⟨append_ne_nil_of_right_ne_nil _ (decimal_ne_nil _), ?_⟩
    rw [all_append, hname, all_decimal]; rfl
  · exact ⟨cons_ne_nil _ _, all_hexByte _ _⟩
  · exact ⟨decimal_ne_nil _, all_decimal _⟩
  · exact ⟨decimal_ne_nil _, all_decimal _⟩
  · exact ⟨decimal_ne_nil _, all_decimal _⟩
  · exact ⟨cons_ne_nil _ _, all_statsInvocation si⟩

theorem statsWords_ne_nil (rtable : ResultsTable) : statsWords rtable ≠ [] := cons_ne_nil _ _

theorem strsplit_statsLine (rtable : ResultsTable) : strsplit (statsLine rtable) [blank] = statsWords rtable := by
  rw [strsplit_blank, statsLine_eq]
  apply strtok_joinWith
  intro w hw
  obtain ⟨hne, hchars⟩ := statsWords_spec hw
  exact ⟨hne, fun c hc => ne_of_wordChar (hchars c hc) (by decide)⟩

theorem statsLine_spec (rtable : ResultsTable) :
    (∀ c ∈ statsLine rtable, c ≠ newline ∧ c ≠ 0) ∧ rtrimInPlace (statsLine rtable) = statsLine rtable := by
  rw [statsLine_eq]
  constructor
  · intro c hc
    rcases mem_joinWith hc with hc | ⟨w, hw, hc⟩
    · rw [mem_singleton] at hc
      subst hc; exact ⟨by decide, by decide⟩
    · have hchar := (statsWords_spec hw).2 c hc
      exact ⟨ne_of_wordChar hchar (by decide), ne_of_wordChar hchar (by decide)⟩
  · obtain ⟨front, w, hw, htext⟩ := joinWith_eq_append [blank] (statsWords_ne_nil rtable)
    obtain ⟨hne, hchars⟩ := statsWords_spec hw
    have hlast : (front ++ w).getLast? = some (w.getLast hne) := by
      rw [getLast?_append, getLast?_eq_getLast_of_ne_nil hne]; rfl
    rw [htext]; exact rtrimInPlace_eq hlast (isspace_of_wordChar (hchars _ (getLast_mem hne)))

/-! ## Words are read back -/

theorem i2cNameToBusno_decimal {busno : Nat} (h : busno ≤ i2cBusMax) :
    i2cNameToBusno (ascii "i2c-" ++ decimal busno) = busno := by
  have hle : (busno : Int) ≤ 64 := by exact_mod_cast h
  have hread : strToInt (decimal busno) 10 = some busno :=
    strToInt_decimal (Int.le_trans (by decide) (Int.natCast_nonneg busno)) (Int.le_trans hle (by decide))
  have hstart : strStartsWith (ascii "i2c-" ++ decimal busno) (ascii "i2c-") = true :=
    isPrefixOf_iff_prefix.2 (prefix_append _ _)
  have hdrop : (ascii "i2c-" ++ decimal busno).drop 4 = decimal busno := drop_left' rfl
  have hsign : (decimal busno).head? ≠ some 0x2d := by
    intro hhead
    obtain ⟨d, -, hd⟩ := digitVal_of_mem_decimalDigits (mem_of_mem_head? hhead)
    exact absurd hd (by decide +revert)
  rw [i2cNameToBusno, if_pos hstart, hdrop]
  rw [if_neg hsign, hread]; rfl

theorem decimal_noComma (n : Int) : ∀ c ∈ decimal n, (c != 0x2c) = true := by
  intro c hc
  rcases mem_decimal hc with rfl | ⟨d, -, hd⟩
  · decide
  · simpa using ne_of_digitVal hd (d := 0x2c) (by decide)

theorem cirbParseAndAdd_statsInvocation (cirb : Cirb) {si : SuccessfulInvocation} (htries : isInt si.tryct)
    (hstep : isInt si.requiredStep) (hseconds : isLong si.epochSeconds) :
    cirbParseAndAdd cirb (statsInvocation si) = some (cirbAdd cirb si) := by
  have htext : statsInvocation si = 0x7b :: ((decimal si.tryct ++ 0x2c :: (decimal si.requiredStep ++ 0x2c ::
      decimal si.epochSeconds)) ++ [0x7d]) := by
    have hopen : ascii "\x7b" = [0x7b] := rfl
    have hcomma : ascii "," = [0x2c] := rfl
    have hclose : ascii "\x7d" = [0x7d] := rfl
    simp only [statsInvocation, hopen, hcomma, hclose, append_assoc, cons_append, nil_append]
  have hpos : ∀ n : Int, 0 < (decimal n).length := fun n => length_pos_iff.2 (decimal_ne_nil n)
  have ht := hpos si.tryct
  have hr := hpos si.requiredStep
  have he := hpos si.epochSeconds
  have hshape : 7 ≤ (statsInvocation si).length ∧ (statsInvocation si).head? = some 0x7b ∧
      (statsInvocation si).getLast? = some 0x7d := by
    rw [htext]
    refine ⟨?_, rfl, ?_⟩
    · simp only [length_cons, length_append, length_nil]; omega
    · rw [← cons_append, getLast?_concat]
  have hbody : ((statsInvocation si).drop 1).dropLast =
      decimal si.tryct ++ 0x2c :: (decimal si.requiredStep ++ 0x2c :: decimal si.epochSeconds) := by
    rw [htext, drop_succ_cons, drop_zero, dropLast_concat]
  rw [cirbParseAndAdd, if_pos hshape, hbody]
  dsimp only
  rw [dropWhile_stop (decimal_noComma _) (by decide), takeWhile_stop (decimal_noComma _) (by decide)]
  dsimp only
  rw [dropWhile_stop (decimal_noComma _) (by decide), takeWhile_stop (decimal_noComma _) (by decide)]
  dsimp only
  rw [if_pos ⟨ht, hr, he⟩, strToInt_decimal htries.1 htries.2, strToInt_decimal hstep.1 hstep.2,
    strToLong_decimal hseconds.1 hseconds.2]
  rfl

theorem foldlM_cirbParseAndAdd : ∀ {sis : List SuccessfulInvocation} (cirb : Cirb),
    (∀ v ∈ sis, isInt v.tryct ∧ isInt v.requiredStep ∧ isLong v.epochSeconds) →
    (sis.map statsInvocation).foldlM cirbParseAndAdd cirb = some (sis.foldl cirbAdd cirb)
  | [], _, _ => rfl
  | si :: sis, cirb, h => by
    obtain ⟨htries, hstep, hseconds⟩ := h si mem_cons_self
    rw [map_cons, foldlM_cons, cirbParseAndAdd_statsInvocation cirb htries hstep hseconds]
    exact foldlM_cirbParseAndAdd (cirbAdd cirb si) fun v hv => h v (mem_cons_of_mem si hv)

def restoredTable (initialStep : Int) (rtable : ResultsTable) : ResultsTable :=
  { newResultsTable initialStep rtable.busno with
    edidChecksumByte := rtable.edidChecksumByte
    curStep := rtable.curStep
    remainingInterval := rtable.remainingInterval
    curRetryLoopStep := rtable.curStep
    initialStep := rtable.curStep
    initialLookback := globalLookback
    recentValues := rtable.recentValues.contents.foldl cirbAdd cirbNew
    state := rtableFromCache }

theorem lineTable_statsLine (initialStep : Int) {rtable : ResultsTable} {busno : Nat} (h : rtable.InRange busno)
    (hbus : busno ≤ i2cBusMax) : lineTable 2 initialStep (statsLine rtable) = some (restoredTable initialStep rtable) := by
  have hname := i2cNameToBusno_decimal (h.busno_eq ▸ hbus : rtable.busno ≤ i2cBusMax)
  have hstep : strToInt (decimal rtable.curStep) 10 = some rtable.curStep :=
    strToInt_decimal h.curStep.1 (Int.le_trans h.curStep.2 (by decide))
  have hinterval : strToInt (decimal rtable.remainingInterval) 10 = some rtable.remainingInterval :=
    strToInt_decimal h.interval.1 h.interval.2
  have hle : ¬ stepLast < rtable.curStep := Int.not_lt.2 h.curStep.2
  rw [lineTable, strsplit_statsLine]
  show restoreTable initialStep ⟨ascii "i2c-" ++ decimal rtable.busno, hexByte false rtable.edidChecksumByte,
    decimal rtable.curStep, decimal rtable.remainingInterval, [],
    rtable.recentValues.contents.map statsInvocation⟩ = _
  rw [restoreTable, hname, if_pos (Int.natCast_nonneg _), anyOneByteHexStringToByteInBuf_hexByte, hstep, hinterval,
    foldlM_cirbParseAndAdd cirbNew h.recent, Int.toNat_natCast]
  simp only [mapM_nil, Option.bind_eq_bind, Option.bind_some, Option.pure_def, if_neg hle]; rfl

/-! ## The file is read back -/

theorem lastFor_filterMap : ∀ {m : List (Option ResultsTable)},
    (∀ (i : Nat) (t : ResultsTable), m[i]? = some (some t) → t.busno = i) → ∀ busno : Nat,
    lastFor ResultsTable.busno busno (m.filterMap id) = m[busno]?.join := by
  intro m
  induction m using List.reverseRecOn with
  | nil => exact fun _ _ => rfl
  | append_singleton m o ih =>
    intro h busno
    have hm : ∀ (i : Nat) (t : ResultsTable), m[i]? = some (some t) → t.busno = i := fun i t ht =>
      h i t (by rw [getElem?_append_left (List.getElem?_eq_some_iff.1 ht).1, ht])
    have hlast : (m ++ [o])[m.length]? = some o := by rw [getElem?_concat_length]
    have hend : ∀ b, m.length < b → (m ++ [o])[b]? = none := fun b hb =>
      getElem?_eq_none (by rw [length_append]; exact hb)
    rw [filterMap_append]
    cases o with
    | none =>
      have hnone : [(none : Option ResultsTable)].filterMap id = [] := rfl
      rw [hnone, append_nil, ih hm busno]
      rcases Nat.lt_trichotomy busno m.length with hlt | rfl | hgt
      · rw [getElem?_append_left hlt]
      · rw [hlast, getElem?_eq_none (Nat.le_refl _)]; rfl
      · rw [getElem?_eq_none (Nat.le_of_lt hgt), hend busno hgt]
    | some t =>
      have hbusno := h m.length t hlast
      have hone : [some t].filterMap id = [t] := rfl
      rw [hone, lastFor_append_singleton, ih hm busno, hbusno]
      rcases Nat.lt_trichotomy busno m.length with hlt | rfl | hgt
      · rw [if_neg (Nat.ne_of_gt hlt), getElem?_append_left hlt]
      · rw [if_pos rfl, hlast]; rfl
      · rw [if_neg (Nat.ne_of_lt hgt), getElem?_eq_none (Nat.le_of_lt hgt),
          hend busno hgt]

/-- **A state whose tables hold values of their C types**, each at the number of its own bus. -/
def Dsa2.InRange (g : Dsa2) : Prop := ∀ busno rtable, g.tableAt busno = some rtable → rtable.InRange busno

theorem mem_savedTables {g : Dsa2} (hg : g.InRange) {t : ResultsTable} (h : t ∈ savedTables g) :
    t.InRange t.busno ∧ t.busno ≤ i2cBusMax := by
  obtain ⟨o, ho, hid⟩ := mem_filterMap.1 h
  cases hid
  obtain ⟨busno, hat⟩ := Dsa2.mem_tables.1 (mem_of_mem_take ho)
  have ht := hg busno t hat
  have heq := ht.busno_eq
  subst heq; exact ⟨ht, Dsa2.le_of_tableAt hat⟩

theorem lastFor_savedTables {g : Dsa2} (hg : g.InRange) (busno : Nat) :
    lastFor ResultsTable.busno busno (savedTables g) = if busno < i2cBusMax then g.tableAt busno else none := by
  have hkeys : ∀ (i : Nat) (t : ResultsTable), (g.resultsTables.take i2cBusMax)[i]? = some (some t) → t.busno = i := by
    intro i t hi
    rw [getElem?_take] at hi
    split at hi
    · exact (hg i t (Dsa2.tableAt_eq_some.2 hi)).busno_eq
    · cases hi
  rw [savedTables, lastFor_filterMap hkeys, getElem?_take]
  split
  · rfl
  · rfl

theorem lastFor_map (f : ResultsTable → ResultsTable) (hf : ∀ t, (f t).busno = t.busno) (busno : Nat)
    (ts : List ResultsTable) :
    lastFor ResultsTable.busno busno (ts.map f) = (lastFor ResultsTable.busno busno ts).map f := by
  have hkey : (fun t => decide ((f t).busno = busno)) = fun t => decide (t.busno = busno) := by
    funext t
    rw [hf]
  unfold lastFor
  rw [filter_map, getLast?_map]
  simp only [Function.comp_def, hkey]

theorem fileGetlines_statsText (g : Dsa2) : fileGetlines (statsText g) = statsHeader ++ (savedTables g).map statsLine := by
  have hheader : statsHeader.all (fun l => l.all (fun c => c != newline && c != 0) && rtrimInPlace l == l) = true := by
    decide
  apply fileGetlines_unlines
  intro l hl
  rcases mem_append.1 hl with hl | hl
  · have hline := all_eq_true.1 hheader l hl
    simp only [Bool.and_eq_true, all_eq_true, bne_iff_ne, beq_iff_eq] at hline; exact hline
  · obtain ⟨t, -, rfl⟩ := mem_map.1 hl
    exact statsLine_spec t

theorem read_savedTables (initialStep : Int) : ∀ {ts : List ResultsTable},
    (∀ t ∈ ts, t.InRange t.busno ∧ t.busno ≤ i2cBusMax) →
    readTables 2 initialStep (ts.map statsLine) = ts.map (restoredTable initialStep) ∧
      badLines 2 initialStep (ts.map statsLine) = []
  | [], _ => ⟨rfl, rfl⟩
  | t :: ts, h => by
    obtain ⟨hrange, hbus⟩ := h t mem_cons_self
    have hline := lineTable_statsLine initialStep hrange hbus
    have hcomment : statsComment (statsLine t) = false := rfl
    obtain ⟨ihread, ihbad⟩ := read_savedTables initialStep fun u hu => h u (mem_cons_of_mem t hu)
    rw [map_cons, map_cons, readTables_cons _ hcomment, badLines_cons _ hcomment, hline, ihread, ihbad]
    exact ⟨rfl, if_neg (Option.some_ne_none _)⟩

/-- **What the file of a state restores** where there are no tables: those of all buses but the last. -/
theorem dsa2RestorePersistentStats_statsText {g h : Dsa2} (hg : g.InRange) (hempty : ∀ busno, h.tableAt busno = none)
    (statsFn : List Byte) :
    ∃ g', dsa2RestorePersistentStats statsFn h (.content (statsText g)) = .ok (g', none) ∧
      ∀ busno, g'.tableAt busno =
        if busno < i2cBusMax then (g.tableAt busno).map (restoredTable h.initialStep) else none := by
  have hcomments : (statsHeader.drop 1).all statsComment = true := by decide
  have hskip : ∀ {ls : List (List Byte)}, ls.all statsComment = true → ∀ body : List (List Byte),
      readTables 2 h.initialStep (ls ++ body) = readTables 2 h.initialStep body ∧
        badLines 2 h.initialStep (ls ++ body) = badLines 2 h.initialStep body := by
    intro ls hls body
    have hnone : ls.filter (fun l => !statsComment l) = [] :=
      filter_eq_nil_iff.2 fun l hl => by simp [all_eq_true.1 hls l hl]
    rw [readTables, badLines, filter_append, hnone, nil_append]; exact ⟨rfl, rfl⟩
  have hlines : fileGetlines (statsText g) =
      ascii "FORMAT 2" :: (statsHeader.drop 1 ++ (savedTables g).map statsLine) := fileGetlines_statsText g
  have hformat : statsFormat (ascii "FORMAT 2") = .ok 2 := by rfl
  obtain ⟨hread, hbad⟩ := read_savedTables h.initialStep fun t ht => mem_savedTables hg ht
  obtain ⟨hskipread, hskipbad⟩ := hskip hcomments ((savedTables g).map statsLine)
  rw [hread] at hskipread
  rw [hbad] at hskipbad
  have hbus : ∀ t ∈ readTables 2 h.initialStep (statsHeader.drop 1 ++ (savedTables g).map statsLine),
      t.busno ≤ i2cBusMax := by
    rw [hskipread]
    intro t ht
    obtain ⟨u, hu, rfl⟩ := mem_map.1 ht
    exact (mem_savedTables hg hu).2
  obtain ⟨errs, hrestore, hiff⟩ := restoreLines_read statsFn (g := h) hformat hbus
  rw [if_pos (hiff.2 hskipbad), hskipread] at hrestore
  refine ⟨h.installAll ((savedTables g).map (restoredTable h.initialStep)), ?_, ?_⟩
  · rw [← hlines] at hrestore; exact hrestore
  · intro busno
    by_cases hle : busno ≤ i2cBusMax
    · rw [tableAt_installAll h _ hle, lastFor_map (restoredTable h.initialStep) (fun _ => rfl), lastFor_savedTables hg]
      split_ifs with hlt
      · cases g.tableAt busno with
        | none => exact hempty busno
        | some t => rfl
      · exact hempty busno
    · rw [if_neg fun hlt => hle (Nat.le_of_lt hlt)]
      cases hat : (h.installAll ((savedTables g).map (restoredTable h.initialStep))).tableAt busno with
      | none => rfl
      | some t => exact absurd (Dsa2.le_of_tableAt hat) hle

/-- **What a stored table keeps**: the step, the interval, the check byte and the successes, the oldest first. -/
structure SameStats (rtable rtable' : ResultsTable) : Prop where
  curStep : rtable'.curStep = rtable.curStep
  interval : rtable'.remainingInterval = rtable.remainingInterval
  checkbyte : rtable'.edidChecksumByte = rtable.edidChecksumByte
  recent : rtable'.recentValues.contents = rtable.recentValues.contents

theorem sameStats_restoredTable (initialStep : Int) {rtable : ResultsTable} {busno : Nat} (h : rtable.InRange busno) :
    SameStats rtable (restoredTable initialStep rtable) where
  curStep := rfl
  interval := rfl
  checkbyte := rfl
  recent := by
    have hle : rtable.recentValues.contents.length ≤ maxRecentValues := by
      rw [RingBuffer.length_contents, ← h.size]; exact rtable.recentValues.ctLe
    have hroom : cirbNew.ct + rtable.recentValues.contents.length ≤ cirbNew.cells.length := by
      have hct : cirbNew.ct = 0 := rfl
      have hsize : cirbNew.cells.length = maxRecentValues := length_replicate
      omega
    have hpush := RingBuffer.contents_foldl_push rtable.recentValues.contents cirbNew hroom
    exact hpush

/-! ## Saving and restoring in any run

A run makes calls of the module and restores stats files.  `Dsa2.InRange` is its invariant: every table holds values of
their C types, so every saved table is restored as it was.
-/

inductive StatsCall where
  | call (c : Dsa2Call)
  | restore (statsFn : List Byte) (file : StatsFile)

def statsStep (settings : Dsa2Settings) (g : Dsa2) : StatsCall → Exec Dsa2
  | .call c => dsa2Step settings g c
  | .restore statsFn file => Prod.fst <$> dsa2RestorePersistentStats statsFn g file

/-- What an operation records are an `int` and a `time_t`, and the interval it counts down is no smallest `int`. -/
def Recordable (g : Dsa2) : Dsa2Call → Prop
  | .recordFinal busno _ tries _ now =>
    isInt tries ∧ isLong now ∧ ∀ rtable, g.tableAt busno = some rtable → intMin < rtable.remainingInterval
  | _ => True

def StatsCallable (g : Dsa2) : StatsCall → Prop
  | .call c => Dsa2Callable g c ∧ Recordable g c
  | .restore _ _ => True

def StatsReachable (settings : Dsa2Settings) : Dsa2 → Prop :=
  Reachable (fun g => ∃ dsa2Enabled, g = initDsa2 dsa2Enabled) StatsCallable (statsStep settings)

/-! ## Values of their C types -/

theorem strToInt_isInt {s : List Byte} {base : Nat} {n : Int} (h : strToInt s base = some n) : isInt n := by
  have := (Option.filter_eq_some_iff.1 h).2
  simpa [isInt] using this

theorem strToLong_isLong {s : List Byte} {base : Nat} {n : Int} (h : strToLong s base = some n) : isLong n := by
  have hclamp : ∀ m : Int, isLong (max longMin (min longMax m)) := fun m =>
    ⟨Int.le_max_left _ _, Int.max_le.2 ⟨by decide, Int.min_le_left _ _⟩⟩
  have hzero : isLong 0 := ⟨by decide, by decide⟩
  have hstrtol : ∀ work : List Byte, isLong (strtol work base).value := by
    intro work
    unfold strtol
    dsimp only
    generalize (if base = 16 then dropHexPrefix (takeSign (work.dropWhile isspace)).2
      else (takeSign (work.dropWhile isspace)).2) = t
    split
    · exact hzero
    · exact hclamp _
  unfold strToLong at h
  dsimp only at h
  split_ifs at h
  · cases h; exact hstrtol _
  · cases h; exact hstrtol _

theorem cirbParseAndAdd_eq {cirb cirb' : Cirb} {segment : List Byte} (h : cirbParseAndAdd cirb segment = some cirb') :
    ∃ v : SuccessfulInvocation, cirb' = cirbAdd cirb v ∧ isInt v.tryct ∧ isInt v.requiredStep ∧
      isLong v.epochSeconds := by
  unfold cirbParseAndAdd at h
  split at h
  · dsimp only at h
    split at h
    · cases h
    · split at h
      · cases h
      · split at h
        · simp only [Option.bind_eq_bind, Option.bind_eq_some_iff, Option.some.injEq] at h
          obtain ⟨tryct, htryct, step, hstep, seconds, hseconds, rfl⟩ := h
          exact ⟨⟨seconds, tryct, step⟩, rfl, strToInt_isInt htryct, strToInt_isInt hstep, strToLong_isLong hseconds⟩
        · cases h
  · cases h

def CirbInRange (cirb : Cirb) : Prop :=
  cirb.size = maxRecentValues ∧ ∀ v ∈ cirb.contents, isInt v.tryct ∧ isInt v.requiredStep ∧ isLong v.epochSeconds

theorem CirbInRange.new : CirbInRange cirbNew := by
  refine ⟨length_replicate, fun v hv => ?_⟩
  cases hv

theorem CirbInRange.add {cirb : Cirb} (h : CirbInRange cirb) {v : SuccessfulInvocation} (htries : isInt v.tryct)
    (hstep : isInt v.requiredStep) (hseconds : isLong v.epochSeconds) : CirbInRange (cirbAdd cirb v) := by
  refine ⟨length_set.trans h.1, fun u hu => ?_⟩
  rcases RingBuffer.mem_contents_push hu with hold | rfl
  · exact h.2 u hold
  · exact ⟨htries, hstep, hseconds⟩

theorem CirbInRange.foldlM : ∀ {segments : List (List Byte)} {cirb cirb' : Cirb}, CirbInRange cirb →
    segments.foldlM cirbParseAndAdd cirb = some cirb' → CirbInRange cirb'
  | [], cirb, cirb', h, heq => by cases heq; exact h
  | segment :: segments, cirb, cirb', h, heq => by
    obtain ⟨cirb1, hadd, heq⟩ := Option.bind_eq_some_iff.1 heq
    obtain ⟨v, rfl, htries, hstep, hseconds⟩ := cirbParseAndAdd_eq hadd
    exact CirbInRange.foldlM (h.add htries hstep hseconds) heq

theorem ResultsTable.InRange.of {rtable : ResultsTable} {busno : Nat} (hbusno : rtable.busno = busno)
    (hcur : intMin ≤ rtable.curStep ∧ rtable.curStep ≤ stepLast)
    (hretry : intMin ≤ rtable.curRetryLoopStep ∧ rtable.curRetryLoopStep ≤ stepLast)
    (hinterval : isInt rtable.remainingInterval) (hcirb : CirbInRange rtable.recentValues) : rtable.InRange busno :=
  ⟨hbusno, hcur, hretry, hinterval, hcirb.1, hcirb.2⟩

theorem restoreTable_inRange {initialStep : Int} {f : StatsFields} {t : ResultsTable}
    (h : restoreTable initialStep f = some t) : t.InRange t.busno := by
  unfold restoreTable at h
  dsimp only at h
  split at h
  · simp only [Option.bind_eq_bind, Option.bind_eq_some_iff, Option.some.injEq] at h
    obtain ⟨_, -, step, hstep, interval, hinterval, _, -, recent, hrecent, rfl⟩ := h
    have hcur : intMin ≤ (if stepLast < step then stepLast else step) ∧
        (if stepLast < step then stepLast else step) ≤ stepLast := by
      split
      · exact ⟨by decide, Int.le_refl _⟩
      · rename_i hle; exact ⟨(strToInt_isInt hstep).1, Int.not_lt.1 hle⟩
    exact .of rfl hcur hcur (strToInt_isInt hinterval) (CirbInRange.new.foldlM hrecent)
  · cases h

/-! ## What a run keeps -/

theorem AtStep.range {rtable : ResultsTable} (h : AtStep rtable) :
    (intMin ≤ rtable.curStep ∧ rtable.curStep ≤ stepLast) ∧
      intMin ≤ rtable.curRetryLoopStep ∧ rtable.curRetryLoopStep ≤ stepLast := by
  obtain ⟨h0, hle, heq⟩ := h
  have hmin : intMin ≤ rtable.curStep := Int.le_trans (by decide) h0
  exact ⟨⟨hmin, hle⟩, heq ▸ hmin, heq ▸ hle⟩

structure Dsa2.Savable (g : Dsa2) : Prop where
  initialNonneg : 0 ≤ g.initialStep
  initialAtMost : g.initialStep ≤ stepLast
  tables : g.InRange

theorem dsa2Step_inRange {settings : Dsa2Settings} {g g' : Dsa2} {call : Dsa2Call} (hg : g.Savable)
    (hc : Recordable g call) (h : dsa2Step settings g call = .ok g') : g'.InRange := by
  intro busno rtable hat
  rcases dsa2Step_change hg.initialNonneg hg.initialAtMost h hat with
    ⟨hold, same, hcur, hretry⟩ | ⟨hbusno, hinterval, hrecent, hstep⟩ | ⟨hold, same, hstep⟩ |
    ⟨hold, same, hcur, hretry⟩ | ⟨hold, hcall, hbusno, hinterval, hrecent, hretry, hstep⟩
  · have ht := hg.tables busno _ hold
    exact .of (same.busno.trans ht.busno_eq) (hcur ▸ ht.curStep) (hretry ▸ ht.retryStep)
      (same.interval ▸ ht.interval) (same.recent ▸ ⟨ht.size, ht.recent⟩)
  · have hdefault : isInt defaultInterval := ⟨by decide, by decide⟩
    exact .of hbusno hstep.range.1 hstep.range.2 (hinterval ▸ hdefault) (hrecent ▸ CirbInRange.new)
  · have ht := hg.tables busno _ hold
    exact .of (same.busno.trans ht.busno_eq) hstep.range.1 hstep.range.2 (same.interval ▸ ht.interval)
      (same.recent ▸ ⟨ht.size, ht.recent⟩)
  · have ht := hg.tables busno _ hold
    obtain ⟨hge, hle⟩ := hretry ht.retryStep.2
    exact .of (same.busno.trans ht.busno_eq) (hcur ▸ ht.curStep) ⟨Int.le_trans ht.retryStep.1 hge, hle⟩
      (same.interval ▸ ht.interval) (same.recent ▸ ⟨ht.size, ht.recent⟩)
  · subst hcall
    have ht := hg.tables busno _ hold
    obtain ⟨htries, hnow, hmin⟩ := hc
    have hlt := hmin _ hold
    have hrange : isInt rtable.remainingInterval := by
      have hle := ht.interval.2
      rcases hinterval with heq | heq | ⟨heq, -⟩
      · exact heq ▸ ht.interval
      · exact heq ▸ ⟨by decide, by decide⟩
      · exact ⟨by omega, by omega⟩
    have hcirb : CirbInRange rtable.recentValues := by
      rcases hrecent with heq | heq
      · exact heq ▸ ⟨ht.size, ht.recent⟩
      · have hstep' : isInt _ := ⟨ht.retryStep.1, Int.le_trans ht.retryStep.2 (by decide)⟩
        exact heq ▸ CirbInRange.add ⟨ht.size, ht.recent⟩ htries hstep' hnow
    exact .of (hbusno.trans ht.busno_eq) hstep.range.1 hstep.range.2 hrange hcirb

theorem dsa2RestorePersistentStats_tableAt {statsFn : List Byte} {g g' : Dsa2} {file : StatsFile}
    (h : Prod.fst <$> dsa2RestorePersistentStats statsFn g file = .ok g') :
    g'.initialStep = g.initialStep ∧ ∀ busno rtable, g'.tableAt busno = some rtable →
      g.tableAt busno = some rtable ∨
        rtable.busno = busno ∧ ∃ f, restoreTable g.initialStep f = some rtable := by
  have hsame : (Except.ok g : Exec Dsa2) = .ok g' → g'.initialStep = g.initialStep ∧ ∀ busno rtable, g'.tableAt busno = some rtable →
        g.tableAt busno = some rtable ∨
          rtable.busno = busno ∧ ∃ f, restoreTable g.initialStep f = some rtable := by
    intro heq
    cases heq; exact ⟨rfl, fun busno rtable hat => .inl hat⟩
  cases file with
  | noName | missing | unreadable desc => exact hsame h
  | content bytes =>
    replace h : Prod.fst <$> restoreLines statsFn g (fileGetlines bytes) = .ok g' := h
    cases hlines : fileGetlines bytes with
    | nil =>
      rw [hlines] at h; exact hsame h
    | cons formatIdLine body =>
      rw [hlines] at h
      cases hformat : statsFormat formatIdLine with
      | error msg =>
        simp only [restoreLines, hformat] at h; exact hsame h
      | ok formatId =>
        have hbus : ∀ t ∈ readTables formatId g.initialStep body, t.busno ≤ i2cBusMax := by
          intro t ht
          by_contra hgt
          have hfault := foldlM_restoreLine_fault (Nat.lt_of_not_le hgt) [] ht
          simp only [restoreLines, hformat, hfault, Exec.error_bind] at h; cases h
        obtain ⟨errs, hread, -⟩ := restoreLines_read statsFn hformat hbus
        rw [hread] at h
        have hstep := installAll_initialStep (readTables formatId g.initialStep body) g
        split at h
        · cases h
          refine ⟨hstep, fun busno rtable hat => ?_⟩
          rw [tableAt_installAll g _ (Dsa2.le_of_tableAt hat)] at hat
          cases hlast : lastFor ResultsTable.busno busno (readTables formatId g.initialStep body) with
          | none =>
            rw [hlast] at hat; exact .inl hat
          | some t =>
            rw [hlast] at hat
            cases hat
            obtain ⟨hmem, hbusno⟩ := lastFor_mem hlast
            obtain ⟨l, -, hl⟩ := mem_filterMap.1 hmem
            obtain ⟨f, -, hf⟩ := Option.bind_eq_some_iff.1 hl
            exact .inr ⟨hbusno, f, hf⟩
        · cases h
          refine ⟨hstep, fun busno rtable hat => ?_⟩
          cases eq_of_mem_replicate (Dsa2.mem_tables.2 ⟨busno, hat⟩)

theorem StatsReachable.savable {settings : Dsa2Settings} {g : Dsa2} (h : StatsReachable settings g) : g.Savable := by
  have hstart : ∀ g, (∃ dsa2Enabled, g = initDsa2 dsa2Enabled) → g.Savable := by
    rintro _ ⟨dsa2Enabled, rfl⟩
    refine ⟨Int.le.intro 7 rfl, Int.le.intro 3 rfl, fun busno rtable hat => ?_⟩
    cases eq_of_mem_replicate (Dsa2.mem_tables.2 ⟨busno, hat⟩)
  have hkeep : ∀ g c g', g.Savable → StatsCallable g c → statsStep settings g c = .ok g' → g'.Savable := by
    intro g c g' hg hc hstep
    cases c with
    | call c =>
      have hsteps := dsa2Step_initialStep hstep hg.initialNonneg hg.initialAtMost
      exact ⟨hsteps.1, hsteps.2, dsa2Step_inRange hg hc.2 hstep⟩
    | restore statsFn file =>
      obtain ⟨hinit, htables⟩ := dsa2RestorePersistentStats_tableAt hstep
      refine ⟨hinit ▸ hg.initialNonneg, hinit ▸ hg.initialAtMost, fun busno rtable hat => ?_⟩
      rcases htables busno rtable hat with hold | ⟨rfl, f, hf⟩
      · exact hg.tables busno rtable hold
      · exact restoreTable_inRange hf
  exact h.keeps hstart hkeep

/-! ## The round trip -/

/-- **The saved file gives the tables back**: restored where there are none, each bus that had a table has one with the
same stored fields, and no other bus has one. -/
def RoundTrips (g : Dsa2) : Prop :=
  ∀ (h : Dsa2) (statsFn : List Byte), (∀ busno, h.tableAt busno = none) →
    ∃ g', dsa2RestorePersistentStats statsFn h (.content (statsText g)) = .ok (g', none) ∧
      ∀ busno, Option.Rel SameStats (g.tableAt busno) (g'.tableAt busno)

theorem RoundTrips.last_none {g : Dsa2} (hg : g.InRange) (htrip : RoundTrips g) : g.tableAt i2cBusMax = none := by
  have hempty : ∀ busno, (initDsa2 true).tableAt busno = none := by
    intro busno
    cases hat : (initDsa2 true).tableAt busno with
    | none => rfl
    | some rtable => cases eq_of_mem_replicate (Dsa2.mem_tables.2 ⟨busno, hat⟩)
  obtain ⟨g', hrun, hrel⟩ := htrip (initDsa2 true) [] hempty
  obtain ⟨g'', hrun', htables⟩ := dsa2RestorePersistentStats_statsText hg hempty []
  rw [hrun] at hrun'
  cases hrun'
  have hlast := hrel i2cBusMax
  rw [htables, if_neg (Nat.lt_irrefl _)] at hlast
  cases hat : g.tableAt i2cBusMax with
  | none => rfl
  | some rtable =>
    rw [hat] at hlast; cases hlast

/-- **Which states come back from the file**: in every run, those without a table for the last bus. -/
theorem dsa2SavePersistentStats_roundTrips_iff (settings : Dsa2Settings) (g : Dsa2)
    (hg : StatsReachable settings g) : RoundTrips g ↔ g.tableAt i2cBusMax = none := by
  have hrange := hg.savable.tables
  constructor
  · exact fun htrip => htrip.last_none hrange
  · intro hnone h statsFn hempty
    obtain ⟨g', hrun, htables⟩ := dsa2RestorePersistentStats_statsText hrange hempty statsFn
    refine ⟨g', hrun, fun busno => ?_⟩
    rw [htables]
    split
    · cases hat : g.tableAt busno with
      | none => exact .none
      | some rtable => exact .some (sameStats_restoredTable h.initialStep (hrange busno rtable hat))
    · rename_i hge
      cases hat : g.tableAt busno with
      | none => exact .none
      | some rtable =>
        have hbus : busno = i2cBusMax := Nat.le_antisymm (Dsa2.le_of_tableAt hat) (Nat.le_of_not_lt hge)
        subst hbus
        rw [hnone] at hat; cases hat

def firstTable (busno : Nat) : ResultsTable :=
  { newResultsTable 7 busno with
    curRetryLoopStep := 7
    state := rtableBusDetected
    edidChecksumByte := 0x55 }

theorem firstTable_reachable {busno : Nat} (h : busno ≤ i2cBusMax) :
    StatsReachable defaultDsa2Settings ((initDsa2 true).install busno (some (firstTable busno))) := by
  have hstart : StatsReachable defaultDsa2Settings (initDsa2 true) := Reachable.start ⟨true, rfl⟩
  have hnone : fetch (initDsa2 true).resultsTables busno = .ok none := by
    rw [fetch_eq_ok]; exact getElem?_replicate_of_lt (Nat.lt_succ_of_le h)
  refine Reachable.step (i := .call (.getResultsTableByBusno busno true (some 0x55))) hstart ⟨⟨h, rfl⟩, trivial⟩ ?_
  show dsa2GetResultsTableByBusno (initDsa2 true) busno true (some 0x55) = _
  rw [dsa2GetResultsTableByBusno, check_pos h, hnone]; rfl

/-- The table of bus 3 comes back. -/
theorem dsa2SavePersistentStats_roundTrips_first : RoundTrips ((initDsa2 true).install 3 (some (firstTable 3))) :=
  (dsa2SavePersistentStats_roundTrips_iff defaultDsa2Settings _ (firstTable_reachable (by decide))).2 rfl

/-- The table of bus 64 does not. -/
theorem lastBus_not_restored : ∃ g, StatsReachable defaultDsa2Settings g ∧ ¬ RoundTrips g := by
  refine ⟨_, firstTable_reachable (Nat.le_refl i2cBusMax), fun htrip => ?_⟩
  cases htrip.last_none (firstTable_reachable (Nat.le_refl i2cBusMax)).savable.tables

end Ddc
