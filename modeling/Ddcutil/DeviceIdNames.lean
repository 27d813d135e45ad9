import Ddcutil.DeviceIdsRuns
/-!
# DeviceIdNames — what is looked up is what the text has

A file that keeps the rules is loaded without a fault, and then each lookup in a table finds the name of the first well
formed line for the ids; a file that breaks one need not be.
-/
namespace Ddc.DevId

open Kit Kit.Outline List Exec

/-! ## The rules -/

/-- **The vendors' section is loaded as it is**: no line is taken that is not well formed or that a malformed line
encloses, a vendor or device that repeats brings nothing new, and no line of the section follows the line that ends it. -/
structure IdsRegular (idType : DeviceIdType) (text : List Line) : Prop where
  tidy : Tidy idsClears (fun _ => True) 0 0 ((Section.ids idType).outline (idsLines idType text))
  first : FirstEnclosed ((Section.ids idType).entries text)
  whole : (Section.ids idType).entries (idsLines idType text) = (Section.ids idType).entries text

def Once (tag : List Byte) (segs : List Segment) : Prop := segs.countP (fun s => decide (s.tag = tag)) = 1

/-- **What follows in usb.ids is loaded as it is**: it is made of segments, each of the four tags has one, and no well
formed line of theirs stands before the line that ends the vendors' section. -/
structure TailRegular (text gap : List Line) (segs : List Segment) : Prop where
  split : fromEnd .usb text = gap ++ segs.flatMap Segment.lines
  gap_under : ∀ aLine ∈ gap, isHead aLine = false
  chain : segs.IsChain FollowsWell
  each : ∀ s ∈ segs, SegmentRegular s
  simpleOnce : ∀ tag ∈ simpleTags, Once tag segs
  usagesOnce : Once hutTag segs
  simpleAfter : ∀ tag ∈ simpleTags, (Section.simple tag).entries (beforeEnd .usb text) = []
  usagesAfter : Section.usages.entries (beforeEnd .usb text) = []

def Regular (idType : DeviceIdType) (text : List Line) : Prop :=
  IdsRegular idType text ∧ (idType = .usb → ∃ gap segs, TailRegular text gap segs)

variable {tag : List Byte} {segs : List Segment} {text gap : List Line} {aLine : Line}

theorem Once.split (h : Once tag segs) :
    ∃ before s after, segs = before ++ s :: after ∧ s.tag = tag ∧ ∀ s' ∈ before ++ after, s'.tag ≠ tag := by
  unfold Once at h
  induction segs with
  | nil => cases h
  | cons s segs ih =>
    rw [countP_cons] at h
    by_cases htag : s.tag = tag
    · rw [if_pos (decide_eq_true htag)] at h
      have hnone := countP_eq_zero.1 (Nat.succ.inj h)
      exact ⟨[], s, segs, rfl, htag, fun s' hs' heq => hnone s' hs' (decide_eq_true heq)⟩
    · rw [if_neg (by simpa using htag), Nat.add_zero] at h
      obtain ⟨before, s', after, rfl, hs', hother⟩ := ih h
      refine ⟨s :: before, s', after, rfl, hs', fun s'' hs'' => ?_⟩
      rcases mem_cons.1 hs'' with rfl | hs''
      · exact htag
      · exact hother s'' hs''

/-- **A map has what the text has for any ids**: the name at each level, and none from the first on that is not there. -/
def LooksUp (mlm : Option MultiLevelMap) (sec : Section) (text : List Line) : Prop :=
  ∀ ids : List Nat, 1 ≤ ids.length → ids.length ≤ mltMaxLevels → ∃ names, mlmGetNames2 mlm ids = .ok names ∧
    ∀ k < ids.length, names[k]? = sec.nameAt text (ids.take (k + 1))

def SimpleLooksUp (table : Option SimpleIdTable) (tag : List Byte) (text : List Line) : Prop :=
  ∀ id : Nat, getSimpleIdName table id = .ok ((Section.simple tag).nameAt text [id])

structure UsbLooksUp (t : Tables) (text : List Line) : Prop where
  vendors : LooksUp t.usbVendorsMlm (.ids .usb) text
  hid : SimpleLooksUp t.hidDescriptorTypes hidTag text
  r : SimpleLooksUp t.hidDescriptorItemTypes rTag text
  hcc : SimpleLooksUp t.hidCountryCodes hccTag text
  usages : LooksUp t.hidUsagesTable .usages text

def Right (stale : Nat) (idType : DeviceIdType) (content : List Byte) : Prop :=
  ∃ t, loadIdFile stale idType (some content) noTables = .ok t ∧
    (idType = .pci → LooksUp t.pciVendorsMlm (.ids .pci) (fileGetlines content)) ∧
    (idType = .usb → UsbLooksUp t (fileGetlines content))

/-! ## Maps -/

theorem lines_reads {sec : Section} (hsec : ∀ tag, sec ≠ .simple tag) (htext : ∀ aLine ∈ text, newline ∉ aLine) :
    ∀ l ∈ sec.outline text, ∀ e, l.entry = some e → l.reads = some e := by
  intro l hl e he
  obtain ⟨aLine, hmem, rfl⟩ := mem_map.1 hl
  refine Section.reads_of_entry hsec (fun hnew => ?_) he
  exact htext aLine (mem_of_mem_filter hmem) ((drop_suffix _ aLine).subset (mem_of_mem_rtrimInPlace hnew))

theorem looksUp_of_lay {sec : Section} (hsec : ∀ tag, sec ≠ .simple tag) {clears : Nat → Bool} {orphan : Nat → Prop}
    {read : List Line} (hread : ∀ aLine ∈ read, newline ∉ aLine) (htidy : Tidy clears orphan 0 0 (sec.outline read))
    (hentries : sec.entries read = sec.entries text) (hfirst : FirstEnclosed (sec.entries text)) {map : MultiLevelMap}
    (hnodes : map.nodes = ((sec.outline read).foldl (lay clears) ⟨[], []⟩).nodes) : LooksUp (some map) sec text := by
  have hlays := follows_lay (sec.outline read) follows_nil (lines_reads hsec hread) htidy
  rw [nil_append, ← hnodes] at hlays
  change Lays map.nodes (sec.entries read) at hlays
  rw [hentries] at hlays
  intro ids hpos hle
  refine ⟨valuesBelow map.nodes none ids, ?_, fun k hk => hlays.valuesBelow_eq hfirst hk⟩
  rw [mlmGetNames2, check_pos ⟨hpos, hle⟩, ok_bind]

theorem mem_idsLines {idType : DeviceIdType} (h : aLine ∈ idsLines idType text) : aLine ∈ text := by
  rcases mem_append.1 h with hmem | hmem
  · exact ( takeWhile_prefix _).subset hmem
  · exact (dropWhile_suffix _).subset (mem_of_mem_take (mem_of_mem_filter hmem))

theorem loadDeviceIds_looksUp {idType : DeviceIdType} (hne : 0 < text.length) (htext : ∀ aLine ∈ text, newline ∉ aLine)
    (h : IdsRegular idType text) :
    ∃ map, loadDeviceIds idType text =
        .ok (map, (beforeEnd idType text).length + min 1 (fromEnd idType text).length) ∧
      LooksUp (some map) (.ids idType) text := by
  have hcreate : Shows 3 ⟨mlmCreate (idLevels idType), List.replicate maxLevels none⟩ ⟨[], []⟩ := by
    cases idType with
    | pci => exact shows_create (idLevels .pci) (by decide)
    | usb => exact shows_create (idLevels .usb) (by decide)
  obtain ⟨s', hs', hshows⟩ := loadDeviceIdsFrom_shows idType text (n := 0) hcreate
  refine ⟨s'.map, ?_, looksUp_of_lay (fun tag heq => by cases heq) (fun l hl => htext l (mem_idsLines hl)) h.tidy h.whole
    h.first hshows.nodes⟩
  rw [loadDeviceIds, check_pos hne, ok_bind, hs', ok_bind, Nat.zero_add]

/-! ## The entries of a segment -/

theorem firstWord_of_word (htab : tabct aLine = 0) (hne : word (body aLine) ≠ []) :
    firstWord aLine = word (body aLine) ∧ afterWord aLine = (body aLine).dropWhile isWordChar := by
  rw [body_of_tabct htab] at hne ⊢
  have hskip : (rtrimInPlace aLine).dropWhile isspace = rtrimInPlace aLine := by
    cases hline : rtrimInPlace aLine with
    | nil => rfl
    | cons c s =>
      refine dropWhile_cons_of_neg fun hc => hne ?_
      rw [hline]; exact takeWhile_cons_of_neg (by simp [isWordChar, hc])
  rw [firstWord, afterWord, hskip]; exact ⟨rfl, rfl⟩

def Tagged (sec : Section) (tag : List Byte) : Prop := ∀ s e, sec.entry 0 s = some e → word s = tag

theorem tagged_simple (tag : List Byte) : Tagged (.simple tag) tag := by
  intro s e h
  have h : tagged tag s = some e := h
  unfold tagged at h
  split_ifs at h with hword
  exact hword

theorem tagged_usages : Tagged .usages hutTag := tagged_simple hutTag

theorem entries_segments (sec : Section) (segs : List Segment) : ∀ path : List Nat,
    Outline.entries path (sec.outline (segs.flatMap Segment.lines)) = segs.flatMap fun s => sec.entries s.lines := by
  induction segs with
  | nil => exact fun _ => rfl
  | cons s segs ih =>
    intro path
    have hhead : sec.outline s.lines = sec.line s.head :: sec.outline s.tail :=
      sec.outline_cons (isHead_ignored s.isHead_head) s.tail
    have htop : Outline.entries path (sec.outline s.lines) = sec.entries s.lines := by
      rw [Section.entries, hhead]; exact entries_top (isHead_tabct s.isHead_head) path _
    rw [flatMap_cons, Section.outline_append, entries_append, htop, ih, flatMap_cons]

section TaggedSection

variable {sec : Section} {tag : List Byte} (hsec : Tagged sec tag) (hne : tag ≠ [])

include hsec hne

theorem entries_untagged (text : List Line) (h : ∀ aLine ∈ text, isHead aLine = true → firstWord aLine ≠ tag) :
    sec.entries text = [] ∧ (sec.outline text).foldl under [] = [] := by
  refine entries_of_top_none fun l hl h0 => ?_
  obtain ⟨aLine, hmem, rfl⟩ := mem_map.1 hl
  obtain ⟨hmem, hignored⟩ := mem_filter.1 hmem
  have htab : tabct aLine = 0 := h0
  have hhead : isHead aLine = true := by rw [isHead, hignored, htab]; rfl
  cases hentry : (sec.line aLine).entry with
  | none => rfl
  | some e =>
    have hentry : sec.entry (tabct aLine) (body aLine) = some e := hentry
    rw [htab] at hentry
    have hword := hsec _ _ hentry
    exact absurd ((firstWord_of_word htab (hword ▸ hne)).1.trans hword) (h aLine hmem hhead)

theorem entries_once {text gap : List Line} {segs : List Segment} (h : TailRegular text gap segs)
    (hbefore : sec.entries (beforeEnd .usb text) = []) {before after : List Segment} {s : Segment}
    (hsegs : segs = before ++ s :: after) (hother : ∀ s' ∈ before ++ after, s'.tag ≠ tag) :
    sec.entries text = sec.entries s.lines := by
  have hnone : ∀ s' ∈ before ++ after, sec.entries s'.lines = [] := fun s' hs' =>
    (entries_untagged hsec hne s'.lines fun aLine hmem hhead => by
      rw [s'.quiet_lines aLine hmem hhead]
      exact hother s' hs').1
  have hflat : ∀ {segs' : List Segment}, (∀ s' ∈ segs', s' ∈ before ++ after) →
      (segs'.flatMap fun s' => sec.entries s'.lines) = [] := fun hsub =>
    flatMap_eq_nil_iff.2 fun s' hs' => hnone s' (hsub s' hs')
  have hgap := entries_untagged hsec hne gap fun aLine hmem hhead => by
    rw [h.gap_under aLine hmem] at hhead; cases hhead
  have htext : text = beforeEnd .usb text ++ (gap ++ segs.flatMap Segment.lines) := by
    rw [← h.split]; exact (takeWhile_append_dropWhile ..).symm
  rw [htext, Section.entries, Section.outline_append, Section.outline_append, entries_append, entries_append]
  change sec.entries (beforeEnd .usb text) ++ _ = _
  rw [hbefore, under_of_entries_nil hbefore, hgap.2, nil_append]
  change sec.entries gap ++ _ = _
  rw [hgap.1, nil_append, entries_segments, hsegs, flatMap_append, flatMap_cons,
    hflat fun s' hs' => mem_append_left after hs', hflat fun s' hs' => mem_append_right before hs',
    nil_append, append_nil]

end TaggedSection

/-! ## Simple tables -/

theorem ignored_of_simpleIgnored (h : simpleIgnored aLine = true) : ignored aLine = true := by
  refine decide_eq_true ?_
  rcases of_decide_eq_true h with hblank | hcomment
  · left
    rw [body, rtrimInPlace, rdropWhile_eq_nil_iff]
    intro c hc; exact rdropWhile_eq_nil_iff.1 hblank c ((drop_suffix _ aLine).subset hc)
  · right
    have htab : tabct aLine = 0 := by
      obtain ⟨rest, hrest⟩ := head?_eq_some_iff.1 hcomment
      obtain ⟨front, hfront⟩ := rdropWhile_prefix isspace aLine
      rw [← rtrimInPlace, hrest] at hfront
      rw [tabct, ← hfront]; rfl
    rw [body_of_tabct htab]; exact hcomment

theorem simpleEntry_of_entry (stale : Nat) (hne : tag ≠ []) (hline : newline ∉ aLine) {e : Nat × Name}
    (h : (Section.simple tag).entry (tabct aLine) (body aLine) = some e) :
    tabct aLine = 0 ∧ simpleEntry stale (afterWord aLine) = (e.1, some e.2) := by
  have htab : tabct aLine = 0 := by
    cases htab : tabct aLine with
    | zero => rfl
    | succ level =>
      rw [htab] at h; cases h
  rw [htab] at h
  have h : tagged tag (body aLine) = some e := h
  unfold tagged at h
  split_ifs at h with hword
  refine ⟨htab, ?_⟩
  rw [(firstWord_of_word htab (hword ▸ hne)).2]
  refine simpleEntry_of_idName (fun hnew => hline ?_) stale h
  exact (drop_suffix _ aLine).subset (mem_of_mem_rtrimInPlace hnew)

section
variable (stale : Nat) (hne : tag ≠ []) (htext : ∀ aLine ∈ text, newline ∉ aLine)
include hne htext

theorem find?_simpleTable
    (h : ∀ aLine ∈ text, simpleIgnored aLine = false → (Section.simple tag).entry (tabct aLine) (body aLine) ≠ none) :
    (∀ l ∈ (Section.simple tag).outline text, l.depth = 0) ∧
      ∀ id : Nat, ((simpleTable stale text).find? fun curEntry => decide (curEntry.1 = id)).bind Prod.snd =
      named (((Section.simple tag).outline text).filterMap fun l => l.entry.map fun e => ([e.1], e.2)) [id] := by
  induction text with
  | nil => exact ⟨fun l hl => absurd hl not_mem_nil, fun _ => rfl⟩
  | cons aLine text ih =>
    obtain ⟨hdepth, hfind⟩ := ih (fun l hl => htext l (mem_cons_of_mem aLine hl))
      fun l hl => h l (mem_cons_of_mem aLine hl)
    cases hsimple : simpleIgnored aLine with
    | true =>
      rw [(Section.simple tag).outline_ignored (ignored_of_simpleIgnored hsimple)]
      simp only [simpleTable_cons, hsimple, if_pos]; exact ⟨hdepth, hfind⟩
    | false =>
      obtain ⟨e, he⟩ := Option.ne_none_iff_exists'.1 (h aLine mem_cons_self hsimple)
      obtain ⟨htab, hentry⟩ := simpleEntry_of_entry stale hne (htext aLine mem_cons_self) he
      have hignored : ignored aLine = false := by rw [ignored, body_of_tabct htab]; exact hsimple
      rw [(Section.simple tag).outline_cons hignored]
      refine ⟨fun l hl => ?_, fun id => ?_⟩
      · rcases mem_cons.1 hl with rfl | hl
        · exact htab
        · exact hdepth l hl
      · have hline : ((Section.simple tag).line aLine).entry = some e := he
        rw [simpleTable_cons, hsimple, if_neg Bool.false_ne_true, hentry, filterMap_cons, hline, Option.map_some]
        unfold named at hfind ⊢
        rw [find?_cons, find?_cons]
        by_cases hid : e.1 = id
        · simp [hid]
        · simp only [hid, List.cons.injEq, and_true, decide_false]; exact hfind id

theorem simple_looksUp {s : Segment} (htag : s.tag = tag) (hs : SimpleRegular s)
    (hmem : ∀ aLine ∈ s.lines, aLine ∈ text)
    (hentries : (Section.simple tag).entries text = (Section.simple tag).entries s.lines) :
    SimpleLooksUp (some (simpleTable stale s.part)) tag text := by
  subst htag
  have hpart : ∀ aLine ∈ s.part, newline ∉ aLine := fun aLine h =>
    htext aLine (hmem aLine (by rw [s.lines_eq]; exact mem_append_left _ h))
  obtain ⟨hdepth, hfind⟩ := find?_simpleTable stale hne hpart hs.wellFormed
  have hlost : ∀ l ∈ (Section.simple s.tag).outline s.lost, l.entry = none := fun l hl => by
    obtain ⟨aLine, haLine, rfl⟩ := mem_map.1 hl
    exact hs.nothingLost aLine (mem_of_mem_filter haLine)
  have hall : (Section.simple s.tag).entries s.lines =
      ((Section.simple s.tag).outline s.part).filterMap fun l => l.entry.map fun e => ([e.1], e.2) := by
    rw [s.lines_eq, Section.entries, Section.outline_append, entries_append, entries_of_none hlost, append_nil,
      entries_flat hdepth]
  intro id
  rw [getSimpleIdName, Section.nameAt, hentries, hall]; exact congrArg Except.ok (hfind id)

end

/-! ## A file -/

theorem lastOf_once {α : Type} (view : Segment → α) {before after : List Segment} {s : Segment}
    (hsegs : segs = before ++ s :: after) (htag : s.tag = tag) (hother : ∀ s' ∈ before ++ after, s'.tag ≠ tag)
    (start : Option α) : lastOf tag view segs start = some (view s) := by
  have hskip : ∀ (segs' : List Segment) (start : Option α), (∀ s' ∈ segs', s'.tag ≠ tag) → lastOf tag view segs' start = start := by
    intro segs'
    induction segs' with
    | nil => exact fun _ _ => rfl
    | cons s' segs' ih =>
      intro start h
      rw [lastOf, foldl_cons, if_neg (h s' mem_cons_self)]
      exact ih start fun s'' hs'' => h s'' (mem_cons_of_mem s' hs'')
  rw [hsegs, lastOf, foldl_append, foldl_cons, if_pos htag]
  exact hskip after _ fun s' hs' => hother s' (mem_append_right before hs')

theorem TailRegular.segments (h : TailRegular text gap segs) : SegmentsRegular segs := by
  refine ⟨h.chain, ?_, h.each⟩
  obtain ⟨before, s, after, hsegs, -, hother⟩ := h.usagesOnce.split
  have hvacuous : ∀ segs' : List Segment, (∀ s' ∈ segs', s'.tag ≠ hutTag) →
      segs'.Pairwise fun s s' => s.tag = hutTag → s'.tag ≠ hutTag := fun segs' hno =>
    pairwise_of_forall_mem_list fun s hs s' _ heq => absurd heq (hno s hs)
  have hbefore := fun s' hs' => hother s' (mem_append_left after hs')
  have hafter := fun s' hs' => hother s' (mem_append_right before hs')
  rw [hsegs]
  refine pairwise_append.2 ⟨hvacuous before hbefore, pairwise_cons.2 ⟨fun s' hs' _ => hafter s' hs',
    hvacuous after hafter⟩, fun s' hs' _ _ heq => absurd heq (hbefore s' hs')⟩

theorem TailRegular.looksUp (stale : Nat) (h : TailRegular text gap segs) (htext : ∀ aLine ∈ text, newline ∉ aLine)
    {t t' : Tables} (hloaded : Loaded stale segs t t') (hvendors : LooksUp t.usbVendorsMlm (.ids .usb) text) :
    UsbLooksUp t' text := by
  have hlines : ∀ {s : Segment}, s ∈ segs → ∀ aLine ∈ s.lines, aLine ∈ text := fun hs aLine hmem => by
    refine (dropWhile_suffix fun aLine => !endsIds .usb aLine).subset ?_
    change aLine ∈ fromEnd .usb text
    rw [h.split]; exact mem_append_right gap (mem_flatMap.2 ⟨_, hs, hmem⟩)
  have hsimple : ∀ {tag : List Byte} {table : Option SimpleIdTable} (start : Option SimpleIdTable), tag ∈ simpleTags →
      tag ≠ [] → table = lastOf tag (fun s => simpleTable stale s.part) segs start → SimpleLooksUp table tag text := by
    intro tag table start htag hne htable
    obtain ⟨before, s, after, hsegs, hstag, hother⟩ := (h.simpleOnce tag htag).split
    have hs : s ∈ segs := hsegs ▸ mem_append_right before mem_cons_self
    rw [htable, lastOf_once _ hsegs hstag hother]
    exact simple_looksUp stale hne htext hstag ((h.each s hs).simple (hstag ▸ htag)) (hlines hs)
      (entries_once (tagged_simple tag) hne h (h.simpleAfter tag htag) hsegs hother)
  refine ⟨by rw [hloaded.usb]; exact hvendors, hsimple _ (by decide) (by decide) hloaded.hid,
    hsimple _ (by decide) (by decide) hloaded.r, hsimple _ (by decide) (by decide) hloaded.hcc, ?_⟩
  obtain ⟨before, s, after, hsegs, hstag, hother⟩ := h.usagesOnce.split
  have hs : s ∈ segs := hsegs ▸ mem_append_right before mem_cons_self
  have hregular := (h.each s hs).usages hstag
  have hhut := hloaded.hut
  rw [lastOf_once _ hsegs hstag hother] at hhut
  obtain ⟨map, hmap, hnodes⟩ := Option.map_eq_some_iff.1 hhut
  have hentries := entries_once tagged_usages (by decide) h h.usagesAfter hsegs hother
  rw [hmap]
  exact looksUp_of_lay (fun tag heq => by cases heq) (fun aLine hmem => htext aLine (hlines hs aLine hmem)) hregular.tidy
    hentries.symm (hentries ▸ hregular.first) hnodes

theorem looksUp_empty (idType : DeviceIdType) : LooksUp (some (mlmCreate (idLevels idType))) (.ids idType) [] := by
  have hread : ∀ aLine ∈ ([] : List Line), newline ∉ aLine := fun aLine hmem => absurd hmem not_mem_nil
  have htidy : Tidy idsClears (fun _ => True) 0 0 ((Section.ids idType).outline []) := trivial
  exact looksUp_of_lay (fun tag heq => by cases heq) hread htidy rfl (firstEnclosed_of_nodup nodup_nil) rfl

theorem TailRegular.run (stale : Nat) (h : TailRegular text gap segs) (t : Tables) :
    ∃ s', whileLoop (moreLines text) (segmentTurn stale text) (text.length + 1)
        ⟨t, (beforeEnd .usb text).length + min 1 (fromEnd .usb text).length - 1, []⟩ = .ok s' ∧
      Loaded stale segs t s'.tables := by
  obtain ⟨before, s, after, hsegs, -, -⟩ := h.usagesOnce.split
  have htext : text = beforeEnd .usb text ++ fromEnd .usb text := (takeWhile_append_dropWhile ..).symm
  have hlen := congrArg List.length htext
  have hsplit := congrArg List.length h.split
  have hle := length_le_flatMap_lines segs
  have hpos : 0 < segs.length := length_pos_of_mem (hsegs ▸ mem_append_right before mem_cons_self)
  rw [length_append] at hlen hsplit
  have hplace : (beforeEnd .usb text).length + min 1 (fromEnd .usb text).length - 1 = (beforeEnd .usb text).length := by
    omega
  have hdrop : text.drop (beforeEnd .usb text).length = gap ++ segs.flatMap Segment.lines := by
    rw [← h.split]; exact (congrArg (List.drop _) htext).trans drop_left
  rw [hplace]
  refine segments_run stale text (segs.length + 1) (Nat.lt_succ_self _) h.segments (by omega) hdrop (fun aLine hmem hhead => ?_)
    (by decide) fun s' _ => s'.tag_ne_nil
  rw [h.gap_under aLine hmem] at hhead; cases hhead

/-- **Every file that keeps the rules is loaded, and what is looked up is what it has**, whatever was on the stack. -/
theorem deviceIds_right (stale : Nat) (idType : DeviceIdType) (content : List Byte)
    (h : Regular idType (fileGetlines content)) : Right stale idType content := by
  obtain ⟨hids, htail⟩ := h
  have htext : ∀ aLine ∈ fileGetlines content, newline ∉ aLine := fun aLine hmem hnew =>
    (mem_fileGetlines hmem newline hnew).1 rfl
  unfold Right loadIdFile
  rw [Option.map_some, Option.getD_some]
  generalize fileGetlines content = text at *
  by_cases hne : 0 < text.length
  · obtain ⟨map, hload, hlooks⟩ := loadDeviceIds_looksUp hne htext hids
    rw [if_pos hne]
    rw [loadFileLines, check_pos hne, ok_bind, hload, ok_bind]
    cases idType with
    | pci => exact ⟨_, rfl, fun _ => hlooks, fun heq => by cases heq⟩
    | usb =>
      obtain ⟨gap, segs, hregular⟩ := htail rfl
      obtain ⟨s', hs', hloaded⟩ := hregular.run stale { noTables with usbVendorsMlm := some map }
      rw [hs', ok_bind]
      exact ⟨_, rfl, (fun heq => by cases heq), fun _ => hregular.looksUp stale htext hloaded hlooks⟩
  · have hnil : text = [] := length_eq_zero_iff.1 (Nat.eq_zero_of_not_pos hne)
    subst hnil
    cases idType with
    | pci => exact ⟨_, rfl, fun _ => looksUp_empty .pci, fun heq => by cases heq⟩
    | usb =>
      obtain ⟨gap, segs, hregular⟩ := htail rfl
      obtain ⟨before, s, after, rfl, -, -⟩ := hregular.usagesOnce.split
      have hsplit := congrArg List.length hregular.split
      rw [length_append, flatMap_append, flatMap_cons, length_append, length_append, Segment.lines,
        length_cons] at hsplit
      have hzero : (fromEnd .usb ([] : List Line)).length = 0 := rfl
      omega

def smallUsbIds : List Byte :=
  ascii "1d6b  Linux\n\t0002  Hub\n\nC 00  Interface\nHID 21  HID\nR 04  Page\nHCC 00  None\nHUT 01  Desktop\n\t030  X\n"

def smallSegments : List Segment :=
  [⟨ascii "C 00  Interface", [], by decide +kernel, by decide +kernel⟩,
    ⟨ascii "HID 21  HID", [], by decide +kernel, by decide +kernel⟩,
    ⟨ascii "R 04  Page", [], by decide +kernel, by decide +kernel⟩,
    ⟨ascii "HCC 00  None", [], by decide +kernel, by decide +kernel⟩,
    ⟨ascii "HUT 01  Desktop", [ascii "\t030  X"], by decide +kernel, by decide +kernel⟩]

theorem smallSegments_each : ∀ s ∈ smallSegments, SegmentRegular s := by
  have hshort : ∀ s ∈ smallSegments, s.tag.length < maxTagSize := by decide +kernel
  have hsimple : ∀ s ∈ smallSegments, s.tag ∈ simpleTags → SimpleRegular s := by decide +kernel
  have htidy : ∀ s ∈ smallSegments, s.tag = hutTag →
      Tidy usagesClears usagesOrphan 0 0 (Section.usages.outline s.lines) := by decide +kernel
  have hnodup : ∀ s ∈ smallSegments, s.tag = hutTag → ((Section.usages.entries s.lines).map Prod.fst).Nodup := by
    decide +kernel
  exact fun s hs => ⟨hshort s hs, hsimple s hs, fun hhut => ⟨htidy s hs hhut, firstEnclosed_of_nodup (hnodup s hs hhut)⟩⟩

theorem smallUsbIds_regular : Regular .usb (fileGetlines smallUsbIds) := by
  have hnodup : (((Section.ids .usb).entries (fileGetlines smallUsbIds)).map Prod.fst).Nodup := by decide +kernel
  refine ⟨⟨by decide +kernel, firstEnclosed_of_nodup hnodup, by decide +kernel⟩, fun _ => ⟨[], smallSegments, ?_⟩⟩
  have honce : (∀ tag ∈ simpleTags, Once tag smallSegments) ∧ Once hutTag smallSegments := by
    unfold Once
    decide +kernel
  exact ⟨by decide +kernel, fun l hl => absurd hl not_mem_nil, by decide +kernel, smallSegments_each, honce.1, honce.2,
    by decide +kernel, by decide +kernel⟩

/-- The rules can be kept. -/
theorem deviceIds_right_small : Right 0 .usb smallUsbIds := deviceIds_right 0 .usb smallUsbIds smallUsbIds_regular

def lostUsbIds : List Byte :=
  ascii "1d6b  Linux\nC 00  Interface\nHID 21  HID\nR 04  Page\nHUT 01  Desktop\nHCC 00  None\nHCC 01  Arabic\n"

/-- **The first line behind the usages is lost**, here that of a country code. -/
theorem lostUsbIds_not_right : ¬ Right 0 .usb lostUsbIds := by
  rintro ⟨t, hload, -, hlooks⟩
  have hlookup := (hlooks rfl).hcc 0
  have hname : (Section.simple hccTag).nameAt (fileGetlines lostUsbIds) [0] = some (ascii "None") := by decide +kernel
  have hrun : (loadIdFile 0 .usb (some lostUsbIds) noTables >>= fun t => getSimpleIdName t.hidCountryCodes 0) = .ok none := by
    decide +kernel
  rw [hload, ok_bind, hlookup, hname] at hrun; cases hrun

end Ddc.DevId
