import Ddcutil.Kit.Loop
import Ddcutil.Kit.Outline
import Ddcutil.StringUtil
import Mathlib.Algebra.Group.Nat.Defs
/-!
# DeviceIds — the names of PCI and USB ids (device_id_util.c, multi_level_map.c)

A `pci.ids` or `usb.ids` file is loaded once, line by line, into tables that are then looked up by id.
-/
namespace Ddc.DevId

open Kit Kit.Outline

abbrev Line := List Byte
abbrev Name := List Byte

/-! ## multi_level_map.c -/

abbrev MlmNode := Outline.Node Nat Name

structure MlmLevel where
  initialSize : Nat
  totalEntries : Nat

structure MultiLevelMap where
  levels : Nat
  nodes : List MlmNode
  levelDetail : List MlmLevel

def mlmCreate (levelDetail : List MlmLevel) : MultiLevelMap := ⟨levelDetail.length, [], levelDetail⟩

def newLevel (map : MultiLevelMap) : Option Nat → Exec Nat
  | none => .ok 0
  | some p => do
    let parent ← fetch map.nodes p
    if map.nodes.any fun n => decide (n.parent = some p) then .ok (parent.level + 1)
    else do
      let _ ← fetch map.levelDetail parent.level
      .ok (parent.level + 1)

def countEntry (map : MultiLevelMap) (level : Nat) : Exec MultiLevelMap := do
  let detail ← fetch map.levelDetail level
  let levelDetail ← store map.levelDetail level { detail with totalEntries := detail.totalEntries + 1 }
  .ok { map with levelDetail := levelDetail }

def mlmAddNode (map : MultiLevelMap) (parent : Option Nat) (key : Nat) (value : Name) : Exec (MultiLevelMap × Nat) := do
  let level ← newLevel map parent
  let counted ← countEntry map level
  .ok ({ counted with nodes := map.nodes ++ [⟨level, parent, key, value⟩] }, map.nodes.length)

def mltMaxLevels : Nat := 4

def mlmGetNames2 (mlm : Option MultiLevelMap) (ids : List Nat) : Exec (List Name) := do
  check (1 ≤ ids.length ∧ ids.length ≤ mltMaxLevels)
  match mlm with
  | none => .error .nullDeref
  | some map => .ok (valuesBelow map.nodes none ids)

abbrev SimpleIdTable := List (Nat × Option Name)

def getSimpleIdName (simpleTable : Option SimpleIdTable) (id : Nat) : Exec (Option Name) :=
  match simpleTable with
  | none => .error .nullDeref
  | some table => .ok ((table.find? fun curEntry => decide (curEntry.1 = id)).bind Prod.snd)

/-! ## The fields of a line -/

def tab : Byte := 0x09
def hash : Byte := 0x23

def tabct (aLine : Line) : Nat := (aLine.takeWhile (· == tab)).length

def body (aLine : Line) : List Byte := rtrimInPlace (aLine.drop (tabct aLine))

def ignored (aLine : Line) : Bool := decide (body aLine = [] ∨ (body aLine).head? = some hash)

def maxTagSize : Nat := 40

/-- `%s` into a buffer of 40 bytes, at the start of a line that is not blank: the word, and what follows it. -/
def scanTag (s : List Byte) : Exec (List Byte × List Byte) :=
  let t := s.dropWhile isspace
  let word := t.takeWhile fun c => !isspace c
  if word = [] then .error .assertFailed
  else if word.length < maxTagSize then .ok (word, t.dropWhile fun c => !isspace c)
  else .error .outOfBounds

def ulongMax : Nat := 0xffffffffffffffff

def gushort (negative : Bool) (n : Nat) : Nat :=
  if ulongMax < n then 0xffff else if negative then ((-(n : Int)) % 0x10000).toNat else n % 0x10000

def hexPrefixed (s : List Byte) : Bool := decide (s.take 2 = [0x30, 0x78] ∨ s.take 2 = [0x30, 0x58])

def scanHx (width : Nat) (s : List Byte) : Option (Nat × List Byte) :=
  let t := s.dropWhile isspace
  let field := t.take width
  let signed := takeSign field
  let digits := if hexPrefixed signed.2 then signed.2.drop 2 else signed.2
  let number := digits.takeWhile (isDigit 16)
  if number = [] then none
  else
    let left := (digits.dropWhile (isDigit 16)).length
    some (gushort signed.1 (digitsVal 16 number), t.drop (field.length - left))

def scanName (s : List Byte) : Option Name :=
  let name := (s.dropWhile isspace).takeWhile (· != newline)
  if name = [] then none else some name

def scanIdName (s : List Byte) : Option (Nat × Name) :=
  match scanHx 4 s with
  | none => none
  | some id => (scanName id.2).map fun name => (id.1, name)

def scanSubsystem (s : List Byte) : Option (Nat × Name) :=
  match scanHx 4 s with
  | none => none
  | some subvendor =>
    match scanHx 4 subvendor.2 with
    | none => none
    | some subdevice => (scanName subdevice.2).map fun name => (subvendor.1 <<< 16 ||| subdevice.1, name)

/-! ## Vendors, devices and what is under them -/

inductive DeviceIdType where
  | pci | usb
deriving DecidableEq

structure Filling where
  map : MultiLevelMap
  curNode : List (Option Nat)

def clearNodes (curNode : List (Option Nat)) (start levels : Nat) : Exec (List (Option Nat)) :=
  (List.range' start (levels - start)).foldlM (fun nodes lvl => store nodes lvl none) curNode

def addNode (s : Filling) (tabct : Nat) (parent : Option Nat) (e : Nat × Name) : Exec Filling := do
  let added ← mlmAddNode s.map parent e.1 e.2
  let curNode ← store s.curNode tabct (some added.2)
  let curNode ← clearNodes curNode (tabct + 1) s.map.levels
  .ok ⟨added.1, curNode⟩

def idLevels (idType : DeviceIdType) : List MlmLevel :=
  match idType with
  | .pci => [⟨10000, 0⟩, ⟨20, 0⟩, ⟨5, 0⟩]
  | .usb => [⟨5000, 0⟩, ⟨20, 0⟩, ⟨10, 0⟩]

def maxLevels : Nat := 5

def scanThirdLevel (idType : DeviceIdType) (s : List Byte) : Option (Nat × Name) :=
  match idType with
  | .pci => scanSubsystem s
  | .usb => scanIdName s

def deviceLine (s : Filling) (tabct : Nat) (scanned : Option (Nat × Name)) : Exec Filling := do
  let parent ← fetch s.curNode (tabct - 1)
  match parent, scanned with
  | some p, some e => addNode s tabct (some p) e
  | _, _ => .ok s

def idLine (idType : DeviceIdType) (s : Filling) (tabct : Nat) (s' : List Byte) : Exec Filling :=
  match tabct with
  | 0 =>
    match scanIdName s' with
    | none => do
      let curNode ← clearNodes s.curNode 0 s.map.levels
      .ok { s with curNode := curNode }
    | some e => addNode s 0 none e
  | 1 => deviceLine s 1 (scanIdName s')
  | 2 => deviceLine s 2 (scanThirdLevel idType s')
  | _ => .ok s

def isLastVendor (tabct : Nat) (s : List Byte) : Bool :=
  decide (tabct = 0) && (scanIdName s).any fun e => decide (e.1 = 0xffff)

def letterC : Byte := 0x43

def loadDeviceIdsFrom (idType : DeviceIdType) : List Line → Nat → Bool → Filling → Exec (Filling × Nat)
  | [], linendx, _, s => .ok (s, linendx)
  | aLine :: rest, linendx, deviceIdsDone, s =>
    if deviceIdsDone then .ok (s, linendx)
    else if ignored aLine then loadDeviceIdsFrom idType rest (linendx + 1) false s
    -- the "hacky test for end of id section", at any depth
    else if idType = .usb ∧ (body aLine).head? = some letterC then loadDeviceIdsFrom idType rest (linendx + 1) true s
    else do
      let s' ← idLine idType s (tabct aLine) (body aLine)
      loadDeviceIdsFrom idType rest (linendx + 1) (isLastVendor (tabct aLine) (body aLine)) s'

def loadDeviceIds (idType : DeviceIdType) (allLines : List Line) : Exec (MultiLevelMap × Nat) := do
  check (0 < allLines.length)
  let r ← loadDeviceIdsFrom idType allLines 0 false ⟨mlmCreate (idLevels idType), List.replicate maxLevels none⟩
  .ok (r.1.map, r.2)

/-! ## The tagged segments -/

def simpleIgnored (aLine : Line) : Bool :=
  decide (rtrimInPlace aLine = [] ∨ (rtrimInPlace aLine).head? = some hash)

/-- The entry for the fields behind the tag.  The id of a line that has none is what the stack held. -/
def simpleEntry (stale : Nat) (s : List Byte) : Nat × Option Name :=
  match scanHx s.length s with
  | none => (stale, none)
  | some id => (id.1, scanName id.2)

def loadSimpleFrom (stale : Nat) (segmentTag : List Byte) : List Line → Nat → SimpleIdTable → Exec (SimpleIdTable × Nat)
  | [], curPos, table => .ok (table, curPos)
  | aLine :: rest, curPos, table =>
    if simpleIgnored aLine then loadSimpleFrom stale segmentTag rest (curPos + 1) table
    else do
      let atag ← scanTag (rtrimInPlace aLine)
      if atag.1 = segmentTag then
        loadSimpleFrom stale segmentTag rest (curPos + 1) (table ++ [simpleEntry stale atag.2])
      else .ok (table, curPos + 1)

def loadSimpleIdSegment (stale : Nat) (allLines : List Line) (segmentTag : List Byte) (curPos : Nat) :
    Exec (SimpleIdTable × Nat) := do
  let r ← loadSimpleFrom stale segmentTag (allLines.drop curPos) curPos []
  .ok (r.1, if r.2 ≤ allLines.length then r.2 - 1 else r.2)

def usagePage (s : Filling) (scanned : Option (Nat × Name)) : Exec Filling :=
  match scanned with
  | none => .ok s
  | some e => do
    let map ← countEntry s.map 0
    addNode ⟨map, s.curNode⟩ 0 none e

/-- An intermediate or leaf node.  `cur_entry` is only ever set to `NULL`: what is left of that is that the level exists. -/
def usageLine (s : Filling) (tabct : Nat) (s' : List Byte) : Exec Filling := do
  let parent ← fetch s.curNode (tabct - 1)
  match parent with
  | none => do
    let _ ← fetch s.map.levelDetail tabct
    .ok s
  | some p =>
    match scanIdName s' with
    | none => .ok s
    | some e => do
      let map ← countEntry s.map tabct
      addNode ⟨map, s.curNode⟩ tabct (some p) e

def loadMultiLevelFrom (segmentTag : List Byte) : List Line → Nat → Filling → Exec (Filling × Nat)
  | [], linendx, s => .ok (s, linendx)
  | aLine :: rest, linendx, s =>
    if ignored aLine then loadMultiLevelFrom segmentTag rest (linendx + 1) s
    else if tabct aLine = 0 then do
      let curTag ← scanTag (body aLine)
      if curTag.1 = segmentTag then do
        let s' ← usagePage s (scanIdName curTag.2)
        loadMultiLevelFrom segmentTag rest (linendx + 1) s'
      else .ok (s, linendx + 1)
    else do
      let s' ← usageLine s (tabct aLine) (body aLine)
      loadMultiLevelFrom segmentTag rest (linendx + 1) s'

def hutLevelDesc : List MlmLevel := [⟨20, 0⟩, ⟨20, 0⟩]

def curNodesSize : Nat := 8

/-- **`load_multi_level_segment`**, with a new map: the map, and where it has come to. -/
def loadMultiLevelSegment (segmentTag : List Byte) (allLines : List Line) (curpos : Nat) :
    Exec (MultiLevelMap × Nat) := do
  let r ← loadMultiLevelFrom segmentTag (allLines.drop curpos) curpos
    ⟨mlmCreate hutLevelDesc, List.replicate curNodesSize none⟩
  .ok (r.1.map, r.2)

def findNextFrom : List Line → Nat → List Byte → Exec (Nat × List Byte)
  | [], curNdx, segmentTag => .ok (curNdx, segmentTag)
  | aLine :: rest, curNdx, segmentTag =>
    if ignored aLine then findNextFrom rest (curNdx + 1) segmentTag
    else if tabct aLine = 0 then do
      let atag ← scanTag (body aLine)
      if atag.1 = segmentTag then findNextFrom rest (curNdx + 1) segmentTag else .ok (curNdx, atag.1)
    else findNextFrom rest (curNdx + 1) segmentTag

def findNextSegmentStart (lines : List Line) (curNdx : Nat) (segmentTag : List Byte) : Exec (Nat × List Byte) :=
  findNextFrom (lines.drop curNdx) curNdx segmentTag

/-! ## A file -/

structure Tables where
  pciVendorsMlm : Option MultiLevelMap
  usbVendorsMlm : Option MultiLevelMap
  hidDescriptorTypes : Option SimpleIdTable
  hidDescriptorItemTypes : Option SimpleIdTable
  hidCountryCodes : Option SimpleIdTable
  hidUsagesTable : Option MultiLevelMap

def noTables : Tables := ⟨none, none, none, none, none, none⟩

def hidTag : List Byte := ascii "HID"
def rTag : List Byte := ascii "R"
def hccTag : List Byte := ascii "HCC"
def hutTag : List Byte := ascii "HUT"

def loadSegment (stale : Nat) (allLines : List Line) (t : Tables) (tagbuf : List Byte) (linendx : Nat) :
    Exec (Tables × Nat) :=
  if tagbuf = hidTag then do
    let r ← loadSimpleIdSegment stale allLines tagbuf linendx
    .ok ({ t with hidDescriptorTypes := some r.1 }, r.2)
  else if tagbuf = rTag then do
    let r ← loadSimpleIdSegment stale allLines tagbuf linendx
    .ok ({ t with hidDescriptorItemTypes := some r.1 }, r.2)
  else if tagbuf = hccTag then do
    let r ← loadSimpleIdSegment stale allLines tagbuf linendx
    .ok ({ t with hidCountryCodes := some r.1 }, r.2)
  else if tagbuf = hutTag then do
    let r ← loadMultiLevelSegment tagbuf allLines linendx
    .ok ({ t with hidUsagesTable := some r.1 }, r.2)
  else .ok (t, linendx)

structure SegmentScan where
  tables : Tables
  linendx : Nat
  tagbuf : List Byte

def moreLines (allLines : List Line) (s : SegmentScan) : Bool := decide (s.linendx < allLines.length)

def segmentTurn (stale : Nat) (allLines : List Line) (s : SegmentScan) : Exec SegmentScan := do
  let next ← findNextSegmentStart allLines s.linendx s.tagbuf
  if allLines.length ≤ next.1 then .ok ⟨s.tables, next.1, next.2⟩
  else do
    let r ← loadSegment stale allLines s.tables next.2 next.1
    .ok ⟨r.1, r.2, next.2⟩

/-- **`load_file_lines`**; `stale` is what the stack holds where `load_simple_id_segment` keeps an id. -/
def loadFileLines (stale : Nat) (idType : DeviceIdType) (allLines : List Line) (t : Tables) : Exec Tables := do
  check (0 < allLines.length)
  let ids ← loadDeviceIds idType allLines
  match idType with
  | .pci => .ok { t with pciVendorsMlm := some ids.1 }
  | .usb => do
    let s ← whileLoop (moreLines allLines) (segmentTurn stale allLines) (allLines.length + 1)
      ⟨{ t with usbVendorsMlm := some ids.1 }, ids.2 - 1, []⟩
    .ok s.tables

def loadIdFile (stale : Nat) (idType : DeviceIdType) (file : Option (List Byte)) (t : Tables) : Exec Tables :=
  let allLines := (file.map fileGetlines).getD []
  if 0 < allLines.length then loadFileLines stale idType allLines t
  else
    match idType with
    | .pci => .ok { t with pciVendorsMlm := some (mlmCreate (idLevels .pci)) }
    | .usb => .ok { t with usbVendorsMlm := some (mlmCreate (idLevels .usb)) }

/-! ## What the text of pci.ids and usb.ids says

A section of such a file is an outline: a well formed line is the tabs of its level, a tag where the section has one,
one to four hexadecimal digits (two such numbers for a subsystem, exactly four digits for a vendor) and a name, with
white space between.
-/

open List

/-! ## Well formed lines -/

def isWordChar (c : Byte) : Bool := !isspace c

def word (s : List Byte) : List Byte := s.takeWhile isWordChar

def behind (s : List Byte) : List Byte := (s.dropWhile isWordChar).dropWhile isspace

def idOf (w : List Byte) : Option Nat :=
  if w ≠ [] ∧ w.length ≤ 4 ∧ w.all (isDigit 16) = true then some (digitsVal 16 w) else none

def nameOf (s : List Byte) : Option Name := if s = [] then none else some s

def idName (s : List Byte) : Option (Nat × Name) :=
  match idOf (word s) with
  | none => none
  | some id => (nameOf (behind s)).map fun name => (id, name)

def vendor (s : List Byte) : Option (Nat × Name) := if (word s).length = 4 then idName s else none

def subsystem (s : List Byte) : Option (Nat × Name) :=
  match idOf (word s) with
  | none => none
  | some subvendor =>
    match idOf (word (behind s)) with
    | none => none
    | some subdevice => (nameOf (behind (behind s))).map fun name => (subvendor * 0x10000 + subdevice, name)

def tagged (tag s : List Byte) : Option (Nat × Name) := if word s = tag then idName (behind s) else none

inductive Section where
  | ids (idType : DeviceIdType)
  /-- A segment with one level: `HID`, `R` or `HCC`. -/
  | simple (tag : List Byte)
  /-- The segment `HUT`. -/
  | usages

def Section.entry : Section → Nat → List Byte → Option (Nat × Name)
  | .ids _, 0, s => vendor s
  | .ids _, 1, s => idName s
  | .ids .pci, 2, s => subsystem s
  | .ids .usb, 2, s => idName s
  | .simple tag, 0, s => tagged tag s
  | .usages, 0, s => tagged hutTag s
  | .usages, 1, s => idName s
  | _, _, _ => none

def scanTagged (tag s : List Byte) : Option (Nat × Name) :=
  match scanTag s with
  | .ok atag => if atag.1 = tag then scanIdName atag.2 else none
  | .error _ => none

def Section.reads : Section → Nat → List Byte → Option (Nat × Name)
  | .ids _, 0, s => scanIdName s
  | .ids _, 1, s => scanIdName s
  | .ids idType, 2, s => scanThirdLevel idType s
  | .usages, 0, s => scanTagged hutTag s
  | .usages, _ + 1, s => scanIdName s
  | _, _, _ => none

def Section.line (sec : Section) (aLine : Line) : Outline.Line Nat Name :=
  ⟨tabct aLine, sec.entry (tabct aLine) (body aLine), sec.reads (tabct aLine) (body aLine)⟩

def Section.outline (sec : Section) (text : List Line) : List (Outline.Line Nat Name) :=
  (text.filter fun aLine => !ignored aLine).map sec.line

variable (sec : Section)

theorem Section.outline_ignored {aLine : Line} (h : ignored aLine = true) (text : List Line) :
    sec.outline (aLine :: text) = sec.outline text := by
  simp [Section.outline, h]

theorem Section.outline_cons {aLine : Line} (h : ignored aLine = false) (text : List Line) :
    sec.outline (aLine :: text) = sec.line aLine :: sec.outline text := by
  simp [Section.outline, h]

theorem Section.outline_append (text text' : List Line) :
    sec.outline (text ++ text') = sec.outline text ++ sec.outline text' := by
  simp [Section.outline]

/-- **The ids and the name of each well formed line of a section**, with the ids of the lines that enclose it. -/
def Section.entries (sec : Section) (text : List Line) : List (List Nat × Name) := Outline.entries [] (sec.outline text)

/-- **The name that a text has for a path of ids in a section**: that of its first well formed line. -/
def Section.nameAt (sec : Section) (text : List Line) (ids : List Nat) : Option Name := named (sec.entries text) ids

/-! ## They are scanned for what they are -/

theorem dropWhile_isWordChar_head (s : List Byte) :
    s.dropWhile isWordChar = [] ∨ ∃ c rest, s.dropWhile isWordChar = c :: rest ∧ isspace c = true := by
  cases h : s.dropWhile isWordChar with
  | nil => exact .inl rfl
  | cons c rest =>
    have hc := head_dropWhile_not isWordChar (l := s) (by rw [h]; exact cons_ne_nil c rest)
    simp only [h, head_cons] at hc; exact .inr ⟨c, rest, rfl, by simpa [isWordChar] using hc⟩

theorem isDigit_of_isspace {c : Byte} (h : isspace c = true) : isDigit 16 c = false := by
  cases hd : isDigit 16 c with
  | false => rfl
  | true =>
    obtain ⟨n, hn⟩ := exists_digitVal hd
    rw [isspace_of_digitVal hn] at h; cases h

theorem digitsVal_lt {base : Nat} {w : List Byte} (h : ∀ c ∈ w, isDigit base c = true) :
    digitsVal base w < base ^ w.length := by
  induction w using List.reverseRecOn with
  | nil => exact Nat.one_pos
  | append_singleton w c ih =>
    rw [digitsVal_append_singleton, length_append, length_singleton, Nat.pow_succ]
    have hw := ih fun d hd => h d (mem_append_left [c] hd)
    have hc := h c (mem_append_right w mem_cons_self)
    unfold isDigit at hc
    cases hn : digitVal c with
    | none => rw [hn] at hc; cases hc
    | some n =>
      rw [hn] at hc
      have hlt : n < base := of_decide_eq_true hc
      have := Nat.mul_le_mul_right base (Nat.succ_le_of_lt hw)
      rw [Nat.succ_mul] at this
      rw [Option.getD_some]; omega

theorem hexPrefixed_digits {w r : List Byte} (hw : ∀ c ∈ w, isDigit 16 c = true)
    (hr : ∀ c, r.head? = some c → isspace c = true) : hexPrefixed (w ++ r) = false := by
  have hno : ∀ (a b : Byte) (l : List Byte), isDigit 16 b = true ∨ isspace b = true → hexPrefixed (a :: b :: l) = false := by
    intro a b l hb
    have h0 : b ≠ 0x78 := by
      rintro rfl
      revert hb
      decide
    have h1 : b ≠ 0x58 := by
      rintro rfl
      revert hb
      decide
    simp [hexPrefixed, h0, h1]
  have hone : ∀ a : Byte, hexPrefixed [a] = false := fun a => by simp [hexPrefixed]
  cases w with
  | nil =>
    cases r with
    | nil => rfl
    | cons a r =>
      have ha : a ≠ 0x30 := by
        rintro rfl
        exact absurd (hr _ rfl) (by decide)
      simp [hexPrefixed, ha]
  | cons a w =>
    cases w with
    | cons b w => exact hno a b (w ++ r) (.inl (hw b (mem_cons_of_mem a mem_cons_self)))
    | nil =>
      cases r with
      | nil => exact hone a
      | cons b r => exact hno a b r (.inr (hr b rfl))

theorem scanHx_of_idOf {width : Nat} {s : List Byte} {id : Nat} (hwidth : (word s).length ≤ width)
    (h : idOf (word s) = some id) : scanHx width s = some (id, s.dropWhile isWordChar) := by
  unfold idOf at h
  split_ifs at h with hw
  obtain ⟨hne, hlen, hall⟩ := hw
  have hdigits := all_eq_true.1 hall
  have hs : s = word s ++ s.dropWhile isWordChar := (takeWhile_append_dropWhile ..).symm
  have hhead := dropWhile_isWordChar_head s
  generalize s.dropWhile isWordChar = rest at hs hhead ⊢
  generalize word s = w at *
  subst hs
  have hspace : ∀ n c, (rest.take n).head? = some c → isspace c = true := by
    intro n c hc
    rcases hhead with rfl | ⟨c', rest', rfl, hc'⟩
    · simp at hc
    · cases n with
      | zero => simp at hc
      | succ n =>
        cases hc; exact hc'
  have hstop : ∀ n, (rest.take n).takeWhile (isDigit 16) = [] ∧ (rest.take n).dropWhile (isDigit 16) = rest.take n := by
    intro n
    cases hrest : rest.take n with
    | nil => exact ⟨rfl, rfl⟩
    | cons c r =>
      have hc : ¬ isDigit 16 c = true := by
        rw [isDigit_of_isspace (hspace n c (by rw [hrest]; rfl))]; exact Bool.false_ne_true
      exact ⟨takeWhile_cons_of_neg hc, dropWhile_cons_of_neg hc⟩
  obtain ⟨c, w', rfl⟩ := exists_cons_of_ne_nil hne
  obtain ⟨n, hn⟩ := exists_digitVal (hdigits c mem_cons_self)
  have hskip : (c :: w' ++ rest).dropWhile isspace = c :: w' ++ rest :=
    dropWhile_cons_of_neg (by rw [isspace_of_digitVal hn]; exact Bool.false_ne_true)
  have hfield : (c :: w' ++ rest).take width = c :: w' ++ rest.take (width - (c :: w').length) := by
    rw [take_append, take_of_length_le hwidth]
  have hsmall : digitsVal 16 (c :: w') < 0x10000 :=
    Nat.lt_of_lt_of_le (digitsVal_lt hdigits) (Nat.pow_le_pow_right (by decide) hlen)
  unfold scanHx
  dsimp only
  rw [hskip, hfield, cons_append, takeSign_of_digitVal hn, ← cons_append, hexPrefixed_digits hdigits (hspace _),
    if_neg Bool.false_ne_true, takeWhile_append_of_pos hdigits, dropWhile_append_of_pos hdigits,
    (hstop _).1, (hstop _).2, append_nil, if_neg hne, length_append, Nat.add_sub_cancel, drop_left]
  rw [gushort, if_neg (by unfold ulongMax; omega), if_neg Bool.false_ne_true, Nat.mod_eq_of_lt hsmall]
  exact congrArg (fun n => some (n, rest)) (Option.some.inj h)

theorem length_word_le {s : List Byte} {id : Nat} (h : idOf (word s) = some id) : (word s).length ≤ 4 ∧ id < 0x10000 := by
  unfold idOf at h
  split_ifs at h with hw
  cases h
  exact ⟨hw.2.1, Nat.lt_of_lt_of_le (digitsVal_lt (all_eq_true.1 hw.2.2)) (Nat.pow_le_pow_right (by decide) hw.2.1)⟩

theorem scanHx_dropWhile (width : Nat) (s : List Byte) : scanHx width (s.dropWhile isspace) = scanHx width s := by
  unfold scanHx
  rw [dropWhile_idempotent]

theorem scanIdName_dropWhile (s : List Byte) : scanIdName (s.dropWhile isspace) = scanIdName s := by
  unfold scanIdName
  rw [scanHx_dropWhile]

theorem mem_of_mem_behind {s : List Byte} {c : Byte} (h : c ∈ behind s) : c ∈ s :=
  (dropWhile_suffix isWordChar).subset ((dropWhile_suffix isspace).subset h)

section Scan

variable {s : List Byte} (hs : newline ∉ s)

include hs

theorem scanName_word : scanName (s.dropWhile isWordChar) = nameOf (behind s) := by
  have hall : (behind s).takeWhile (· != newline) = behind s := by
    rw [takeWhile_eq_self_iff]
    intro c hc
    have hne : c ≠ newline := fun heq => hs (heq ▸ mem_of_mem_behind hc)
    simpa using hne
  unfold scanName nameOf
  change (if (behind s).takeWhile (· != newline) = [] then none else some ((behind s).takeWhile (· != newline))) = _
  rw [hall]

theorem scanIdName_of_idName {e : Nat × Name} (h : idName s = some e) : scanIdName s = some e := by
  unfold idName at h
  unfold scanIdName
  cases hid : idOf (word s) with
  | none => rw [hid] at h; cases h
  | some id =>
    rw [hid] at h
    rw [scanHx_of_idOf (length_word_le hid).1 hid]
    dsimp only at h ⊢
    rwa [scanName_word hs]

theorem scanSubsystem_of_subsystem {e : Nat × Name} (h : subsystem s = some e) : scanSubsystem s = some e := by
  have hbehind : newline ∉ behind s := fun hmem => hs (mem_of_mem_behind hmem)
  unfold subsystem at h
  unfold scanSubsystem
  cases hid : idOf (word s) with
  | none => rw [hid] at h; cases h
  | some subvendor =>
    rw [hid] at h
    rw [scanHx_of_idOf (length_word_le hid).1 hid]
    cases hid' : idOf (word (behind s)) with
    | none => rw [hid'] at h; cases h
    | some subdevice =>
      rw [hid'] at h
      have hscan : scanHx 4 (s.dropWhile isWordChar) = some (subdevice, (behind s).dropWhile isWordChar) := by
        rw [← scanHx_dropWhile]; exact scanHx_of_idOf (length_word_le hid').1 hid'
      dsimp only
      rw [hscan]
      dsimp only
      rw [scanName_word hbehind, ← Nat.shiftLeft_add_eq_or_of_lt (length_word_le hid').2, Nat.shiftLeft_eq]
      exact h

theorem simpleEntry_of_idName (stale : Nat) {e : Nat × Name} (h : idName (behind s) = some e) :
    simpleEntry stale (s.dropWhile isWordChar) = (e.1, some e.2) := by
  have hbehind : newline ∉ behind s := fun hmem => hs (mem_of_mem_behind hmem)
  unfold idName at h
  cases hid : idOf (word (behind s)) with
  | none => rw [hid] at h; cases h
  | some id =>
    rw [hid] at h
    have hwidth : (word (behind s)).length ≤ (s.dropWhile isWordChar).length :=
      Nat.le_trans ( takeWhile_prefix isWordChar).length_le (dropWhile_suffix isspace).length_le
    have hscan : scanHx (s.dropWhile isWordChar).length (s.dropWhile isWordChar) =
        some (id, (behind s).dropWhile isWordChar) := by
      rw [← scanHx_dropWhile]; exact scanHx_of_idOf hwidth hid
    rw [simpleEntry, hscan]
    dsimp only
    rw [scanName_word hbehind]
    obtain ⟨name, hname, rfl⟩ := Option.map_eq_some_iff.1 h
    rw [hname]

end Scan

theorem scanTag_word {s : List Byte} (hne : word s ≠ []) (hlen : (word s).length < maxTagSize) :
    scanTag s = .ok (word s, s.dropWhile isWordChar) := by
  have hskip : s.dropWhile isspace = s := by
    cases s with
    | nil => rfl
    | cons c s =>
      refine dropWhile_cons_of_neg fun hc => hne ?_
      exact takeWhile_cons_of_neg (by simp [isWordChar, hc])
  rw [scanTag, hskip]
  change (if word s = [] then (.error .assertFailed : Exec (List Byte × List Byte))
    else if (word s).length < maxTagSize then .ok (word s, s.dropWhile isWordChar) else .error .outOfBounds) = _
  rw [if_neg hne, if_pos hlen]

theorem scanTagged_of_tagged {s tag : List Byte} (hs : newline ∉ s) (hne : tag ≠ []) (hlen : tag.length < maxTagSize)
    {e : Nat × Name} (h : tagged tag s = some e) : scanTagged tag s = some e := by
  unfold tagged at h
  split_ifs at h with hword
  subst hword
  rw [scanTagged, scanTag_word hne hlen]
  dsimp only
  rw [if_pos rfl, ← scanIdName_dropWhile]
  exact scanIdName_of_idName (fun hmem => hs (mem_of_mem_behind hmem)) h

theorem Section.reads_of_entry {sec : Section} (hsec : ∀ tag, sec ≠ .simple tag) {level : Nat} {s : List Byte}
    (hs : newline ∉ s) {e : Nat × Name} (h : sec.entry level s = some e) : sec.reads level s = some e := by
  cases sec with
  | simple tag => exact absurd rfl (hsec tag)
  | usages =>
    rcases level with _ | _ | level
    · exact scanTagged_of_tagged hs (by decide) (by decide) h
    · exact scanIdName_of_idName hs h
    · cases h
  | ids idType =>
    rcases level with _ | _ | _ | level
    · have h : vendor s = some e := h
      unfold vendor at h
      split_ifs at h
      exact scanIdName_of_idName hs h
    · exact scanIdName_of_idName hs h
    · cases idType with
      | pci => exact scanSubsystem_of_subsystem hs h
      | usb => exact scanIdName_of_idName hs h
    · cases idType with
      | pci | usb => cases h

end Ddc.DevId
