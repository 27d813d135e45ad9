import Ddcutil.CapabilitiesCache
import Ddcutil.Kit.Window
/-!
# CapabilitiesCacheRuns — which stored strings come back

A new process reads the string last stored for each model exactly when every string was stored in a table that had
been made, as a line that the trimming and the search for a colon leave as it is (`PlainLine`).
-/
namespace Ddc

open Kit List Exec

/-! ## Lines that come back -/

structure PlainLine (key value : List Byte) : Prop where
  keyStart : ∀ c, key.head? = some c → isspace c = false ∧ c ≠ 0x2a ∧ c ≠ 0x23
  keyChars : ∀ c ∈ key, c ≠ newline ∧ c ≠ 0 ∧ c ≠ colon
  valueChars : ∀ c ∈ value, c ≠ newline ∧ c ≠ 0
  valueEnd : rtrimInPlace value = value

variable {s : CapsStore} {value key dataFileName : List Byte} {c : Byte} {order : HashOrder}

theorem rtrimInPlace_append_cons {s : List Byte} (hc : isspace c = false) (hvalue : rtrimInPlace value = value) :
    rtrimInPlace (s ++ c :: value) = s ++ c :: value := by
  unfold rtrimInPlace at hvalue ⊢
  rw [rdropWhile_eq_self_iff] at hvalue ⊢
  intro hne
  by_cases hempty : value = []
  · subst hempty
    simp [hc]
  · have hlast : (s ++ c :: value).getLast hne = value.getLast hempty := by
      rw [getLast_append_of_ne_nil _ (cons_ne_nil c value), getLast_cons hempty]
    rw [hlast]; exact hvalue hempty

theorem isspace_colon : isspace colon = false := by decide

theorem PlainLine.read (h : PlainLine key value) : capsLine (key ++ colon :: value) = .entry key value := by
  have hstart : (key ++ colon :: value).dropWhile isspace = key ++ colon :: value := by
    cases key with
    | nil => rw [nil_append, dropWhile_cons_of_neg (by decide)]
    | cons c key =>
      have hc := (h.keyStart c rfl).1
      rw [cons_append, dropWhile_cons_of_neg (by rw [hc]; decide)]
  have htrim : strtrim (key ++ colon :: value) = key ++ colon :: value := by
    rw [strtrim, hstart]; exact rtrimInPlace_append_cons isspace_colon h.valueEnd
  have hkey : ∀ c ∈ key, (c != colon) = true := fun c hc => bne_iff_ne.2 (h.keyChars c hc).2.2
  have hnot : ¬ (key ++ colon :: value = [] ∨ (key ++ colon :: value).head? = some 0x2a ∨
      (key ++ colon :: value).head? = some 0x23) := by
    cases key with
    | nil => simp [colon]
    | cons c key =>
      have hc := h.keyStart c rfl
      simp [hc.2.1, hc.2.2]
  rw [capsLine, htrim, if_neg hnot, if_pos (mem_append_right key mem_cons_self), takeWhile_append_of_pos hkey,
    dropWhile_append_of_pos hkey, takeWhile_cons_of_neg (by simp), dropWhile_cons_of_neg (by simp),
    append_nil, drop_one, tail_cons]

theorem mem_of_mem_strtrim {s : List Byte} (h : c ∈ strtrim s) : c ∈ s :=
  List.IsSuffix.subset (dropWhile_suffix isspace) (List.IsPrefix.subset ( rdropWhile_prefix isspace _) h)

theorem head_strtrim {s : List Byte} (h : (strtrim s).head? = some c) : isspace c = false := by
  obtain ⟨rest, hrest⟩ := head?_eq_some_iff.1 h
  obtain ⟨behind, hbehind⟩ := rdropWhile_prefix isspace (s.dropWhile isspace)
  have hfront : s.dropWhile isspace = c :: (rest ++ behind) := by
    rw [← hbehind, ← cons_append]; exact congrArg (· ++ behind) hrest
  exact head_of_dropWhile hfront

theorem plainLine_of_capsLine {line : List Byte} (hline : ∀ c ∈ line, c ≠ newline ∧ c ≠ 0)
    (h : capsLine line = .entry key value) : PlainLine key value := by
  unfold capsLine at h
  by_cases hskip : strtrim line = [] ∨ (strtrim line).head? = some 0x2a ∨ (strtrim line).head? = some 0x23
  · rw [if_pos hskip] at h; cases h
  by_cases hcolon : colon ∈ strtrim line
  · rw [if_neg hskip, if_pos hcolon] at h
    cases hrest : (strtrim line).dropWhile (· != colon) with
    | nil =>
      have hall := dropWhile_eq_nil_iff.1 hrest colon hcolon
      exact absurd hall (by decide)
    | cons d rest =>
      rw [hrest] at h
      cases h
      have hd : d = colon := by simpa using head_of_dropWhile hrest
      subst hd
      have hsplit := eq_of_dropWhile hrest
      have hmem : ∀ c ∈ strtrim line, c ≠ newline ∧ c ≠ 0 := fun c hc => hline c (mem_of_mem_strtrim hc)
      refine ⟨fun c hc => ?_, fun c hc => ?_, fun c hc => ?_, ?_⟩
      · have hhead : (strtrim line).head? = some c := by
          obtain ⟨tail, htail⟩ := head?_eq_some_iff.1 hc
          rw [hsplit, htail]; rfl
        refine ⟨head_strtrim hhead, fun heq => hskip ?_, fun heq => hskip ?_⟩
        · exact .inr (.inl (heq ▸ hhead))
        · exact .inr (.inr (heq ▸ hhead))
      · have hc' := hmem c (List.IsPrefix.subset ( takeWhile_prefix _) hc)
        have hne : (c != colon) = true := mem_takeWhile_imp (p := fun d => d != colon) hc
        exact ⟨hc'.1, hc'.2, bne_iff_ne.1 hne⟩
      · apply hmem c
        rw [hsplit]; exact mem_append_right _ (mem_cons_of_mem colon hc)
      · have htrimmed : rtrimInPlace (strtrim line) = strtrim line := rdropWhile_idempotent ..
        unfold rtrimInPlace at htrimmed ⊢
        rw [rdropWhile_eq_self_iff] at htrimmed ⊢
        intro hne
        change rest ≠ [] at hne
        change ¬ isspace (rest.getLast hne) = true
        have hlast : (strtrim line).getLast? = rest.getLast? := by
          rw [hsplit, getLast?_append_cons, getLast?_cons, getLast?_eq_getLast_of_ne_nil hne]; rfl
        have hfull : strtrim line ≠ [] := fun hnil => hskip (.inl hnil)
        rw [getLast?_eq_getLast_of_ne_nil hne, getLast?_eq_getLast_of_ne_nil hfull] at hlast
        rw [← Option.some.inj hlast]; exact htrimmed hfull
  · rw [if_neg hskip, if_neg hcolon] at h; cases h

/-! ## Files -/

def fileTable (dataFileName : List Byte) (file : Option (List Byte)) : CapsTable :=
  (loadPersistentCapabilitiesFile dataFileName true file).1

def lineFaults (lines : List (List Byte)) : List ErrorInfo := (lines.zipIdx 1).filterMap capsFault

theorem fileTable_valid (dataFileName : List Byte) {content : List Byte} (h : lineFaults (fileGetlines content) = []) :
    loadPersistentCapabilitiesFile dataFileName true (some content) =
      (insertLines ∅ (fileGetlines content), none, some content) := by
  unfold lineFaults at h
  rw [loadPersistentCapabilitiesFile, if_pos rfl]
  dsimp only
  rw [h]

theorem fileTable_invalid (dataFileName : List Byte) {content : List Byte}
    (h : lineFaults (fileGetlines content) ≠ []) :
    (loadPersistentCapabilitiesFile dataFileName true (some content)).1 = ∅ ∧
      (loadPersistentCapabilitiesFile dataFileName true (some content)).2.2 = none := by
  rw [loadPersistentCapabilitiesFile, if_pos rfl]
  dsimp only
  split
  · rename_i hnil; exact absurd hnil h
  · exact ⟨rfl, rfl⟩

theorem lookup_insertLines (lines : List (List Byte)) (key : List Byte) :
    (insertLines ∅ lines).lookup key = (lastFor Prod.fst key (lines.filterMap capsEntry)).map Prod.snd := by
  rw [insertLines, lookup_foldl_insert]
  cases lastFor Prod.fst key (lines.filterMap capsEntry) with
  | none | some e => rfl

theorem plainLine_of_fileTable {file : Option (List Byte)} (h : (fileTable dataFileName file).lookup key = some value) :
    PlainLine key value := by
  unfold fileTable at h
  cases file with
  | none => cases h
  | some content =>
    by_cases hfaults : lineFaults (fileGetlines content) = []
    · rw [fileTable_valid dataFileName hfaults, lookup_insertLines] at h
      obtain ⟨e, he, rfl⟩ := Option.map_eq_some_iff.1 h
      obtain ⟨hmem, rfl⟩ := lastFor_mem he
      obtain ⟨line, hline, hentry⟩ := mem_filterMap.1 hmem
      unfold capsEntry at hentry
      split at hentry
      · rename_i k v hread
        cases hentry; exact plainLine_of_capsLine (mem_fileGetlines hline) hread
      · cases hentry
    · rw [(fileTable_invalid dataFileName hfaults).1] at h; cases h

theorem fileTable_load (dataFileName : List Byte) (file : Option (List Byte)) :
    fileTable dataFileName (loadPersistentCapabilitiesFile dataFileName true file).2.2 =
      fileTable dataFileName file := by
  cases file with
  | none => rfl
  | some content =>
    by_cases hfaults : lineFaults (fileGetlines content) = []
    · rw [fileTable_valid dataFileName hfaults]
    · obtain ⟨hempty, hdeleted⟩ := fileTable_invalid dataFileName hfaults
      rw [hdeleted]; exact hempty.symm

theorem fileTable_capsText (dataFileName : List Byte) (order : HashOrder) {table : CapsTable}
    (h : ∀ key value, table.lookup key = some value → PlainLine key value) (key : List Byte) :
    (fileTable dataFileName (some (capsText order (some table)))).lookup key = table.lookup key := by
  have hmem : ∀ e : List Byte × List Byte, e ∈ order.iterate table ↔ table.lookup e.1 = some e.2 := by
    intro e
    rw [(order.perm table).mem_iff, mem_map, ← Option.mem_def, AList.mem_lookup_iff]
    constructor
    · rintro ⟨e', he', rfl⟩
      exact he'
    · exact fun he => ⟨⟨e.1, e.2⟩, he, rfl⟩
  have hplain : ∀ e ∈ order.iterate table, PlainLine e.1 e.2 := fun e he => h e.1 e.2 ((hmem e).1 he)
  let line := fun e : List Byte × List Byte => e.1 ++ colon :: e.2
  have hlines : fileGetlines (capsText order (some table)) = (order.iterate table).map line := by
    apply fileGetlines_unlines
    intro l hl
    obtain ⟨e, he, rfl⟩ := mem_map.1 hl
    have hp := hplain e he
    refine ⟨fun c hc => ?_, rtrimInPlace_append_cons isspace_colon hp.valueEnd⟩
    rcases mem_append.1 hc with hc | hc
    · exact ⟨(hp.keyChars c hc).1, (hp.keyChars c hc).2.1⟩
    · rcases mem_cons.1 hc with rfl | hc
      · exact ⟨by decide, by decide⟩
      · exact hp.valueChars c hc
  have hfaults : lineFaults (fileGetlines (capsText order (some table))) = [] := by
    rw [hlines]
    apply filterMap_eq_nil_iff.2
    intro l hl
    obtain ⟨e, he, hline⟩ := mem_map.1 (fst_mem_of_mem_zipIdx hl)
    rw [capsFault, ← hline, (hplain e he).read]
  have hentries : ((order.iterate table).map line).filterMap capsEntry = order.iterate table := by
    rw [filterMap_map]
    refine (filterMap_congr fun e he => ?_).trans filterMap_some
    change capsEntry (e.1 ++ colon :: e.2) = some e
    rw [capsEntry, (hplain e he).read]
  have hnodup : ((order.iterate table).map Prod.fst).Nodup := by
    have hkeys : (table.entries.map fun e => (e.1, e.2)).map Prod.fst = table.keys := by
      rw [map_map]; rfl
    rw [((order.perm table).map Prod.fst).nodup_iff, hkeys]; exact table.keys_nodup
  rw [fileTable, fileTable_valid dataFileName hfaults, lookup_insertLines, hlines, hentries]
  cases hfound : table.lookup key with
  | some value =>
    have hlast := lastFor_of_nodup hnodup ((hmem (key, value)).2 hfound)
    rw [hlast]; rfl
  | none =>
    have hnone : lastFor Prod.fst key (order.iterate table) = none := by
      rw [lastFor_eq_none]
      intro e he hkey
      rw [← hkey, (hmem e).1 he] at hfound; cases hfound
    rw [hnone]; rfl

/-! ## The invariant -/

theorem nonUniqueModelId_eq_false (mmk : MonitorModelKey) : nonUniqueModelId mmk = false := by
  have hnames : ∀ name ∈ genericNames, fixupModelName name ≠ name := by decide
  have hgeneric : genericModelName mmk.modelName = false := by
    apply Bool.eq_false_iff.2
    intro h; exact hnames _ (contains_iff_mem.1 h) mmk.modelNameFixed
  rw [nonUniqueModelId, hgeneric, Bool.false_and]

structure Remembers (dataFileName : List Byte) (s : CapsStore) : Prop where
  file : ∀ mmk, (fileTable dataFileName s.file).lookup (mmkString mmk) = s.lastStored mmk
  table : ∀ table, s.process.capabilitiesHash = some table →
    (∀ mmk, table.lookup (mmkString mmk) = s.lastStored mmk) ∧
      ∀ key value, table.lookup key = some value → PlainLine key value

def getInNewProcess (dataFileName : List Byte) (s : CapsStore) (mmk : MonitorModelKey) : Option (List Byte) :=
  (getPersistentCapabilities dataFileName (newProcess true) s.file mmk).1

theorem getInNewProcess_eq (dataFileName : List Byte) (s : CapsStore) (mmk : MonitorModelKey) :
    getInNewProcess dataFileName s mmk = (fileTable dataFileName s.file).lookup (mmkString mmk) := by
  rw [getInNewProcess, getPersistentCapabilities, newProcess, if_pos rfl, nonUniqueModelId_eq_false]; rfl

/-- **Every model's string comes back**: in a new process, and in this one while caching is on. -/
def ReadsBack (dataFileName : List Byte) (s : CapsStore) : Prop :=
  ∀ mmk, getInNewProcess dataFileName s mmk = s.lastStored mmk ∧
    (s.process.capabilitiesCacheEnabled = true →
      (getPersistentCapabilities dataFileName s.process s.file mmk).1 = s.lastStored mmk)

/-- **What keeps the strings**: while caching is on, a string is stored only after a look-up has made the table, and with
its key on a line that keeps both. -/
def KeepsStrings (s : CapsStore) : CapsCall → Prop
  | .set mmk capabilities => s.process.capabilitiesCacheEnabled = true →
    s.process.capabilitiesHash.isSome ∧ PlainLine (mmkString mmk) capabilities.val
  | _ => True

def CacheRun (dataFileName : List Byte) (order : HashOrder) : CapsStore → Prop :=
  Reachable (fun s => ∃ capabilitiesCacheEnabled, s = ⟨newProcess capabilitiesCacheEnabled, none, []⟩) KeepsStrings
    (capsStep dataFileName order)

theorem Remembers.readsBack (h : Remembers dataFileName s) : ReadsBack dataFileName s := by
  intro mmk
  refine ⟨(getInNewProcess_eq dataFileName s mmk).trans (h.file mmk), fun hon => ?_⟩
  rw [getPersistentCapabilities, if_pos hon, nonUniqueModelId_eq_false, if_neg (by decide)]
  cases hhash : s.process.capabilitiesHash with
  | none => exact h.file mmk
  | some table => exact (h.table table hhash).1 mmk

theorem lastStored_append (s : CapsStore) (process : CapsProcess) (file : Option (List Byte))
    (mmk mmk' : MonitorModelKey) (capabilities : CString) :
    CapsStore.lastStored ⟨process, file, s.stored ++ [(mmk, capabilities)]⟩ mmk' =
      if mmk = mmk' then some capabilities.val else s.lastStored mmk' := by
  rw [CapsStore.lastStored, lastFor_append_singleton]
  split
  · rfl
  · rfl

theorem Remembers.set (h : Remembers dataFileName s) {table : CapsTable}
    (htable : s.process.capabilitiesHash = some table) {mmk : MonitorModelKey} {capabilities : CString}
    (hplain : PlainLine (mmkString mmk) capabilities.val) (order : HashOrder) (process : CapsProcess)
    (hprocess : process.capabilitiesHash = some (table.insert (mmkString mmk) capabilities.val)) :
    Remembers dataFileName ⟨process, some (capsText order (some (table.insert (mmkString mmk) capabilities.val))),
      s.stored ++ [(mmk, capabilities)]⟩ := by
  obtain ⟨hlookup, hall⟩ := h.table table htable
  have hlookup' : ∀ mmk', (table.insert (mmkString mmk) capabilities.val).lookup (mmkString mmk') =
      if mmk = mmk' then some capabilities.val else s.lastStored mmk' := by
    intro mmk'
    by_cases heq : mmk = mmk'
    · rw [if_pos heq, heq, AList.lookup_insert]
    · have hne : mmkString mmk' ≠ mmkString mmk := fun hkey => heq (mmkString_injective hkey.symm)
      rw [if_neg heq, AList.lookup_insert_ne hne, hlookup]
  have hall' : ∀ key value, (table.insert (mmkString mmk) capabilities.val).lookup key = some value →
      PlainLine key value := by
    intro key value hfound
    by_cases hkey : key = mmkString mmk
    · rw [hkey, AList.lookup_insert] at hfound
      cases hfound
      rw [hkey]; exact hplain
    · rw [AList.lookup_insert_ne hkey] at hfound; exact hall key value hfound
  constructor
  · intro mmk'
    rw [lastStored_append, fileTable_capsText dataFileName order hall', hlookup']
  · intro t ht
    rw [hprocess] at ht
    cases ht
    exact ⟨fun mmk' => (hlookup' mmk').trans (lastStored_append s _ _ mmk mmk' capabilities).symm, hall'⟩

theorem capsStep_remembers {s' : CapsStore} {call : CapsCall} (h : Remembers dataFileName s)
    (hcond : KeepsStrings s call) (hrun : capsStep dataFileName order s call = .ok s') : Remembers dataFileName s' := by
  cases call with
  | enable newval =>
    cases hrun; exact ⟨h.file, h.table⟩
  | restart =>
    cases hrun; exact ⟨h.file, fun table htable => nomatch htable⟩
  | get mmk =>
    cases hrun
    unfold getPersistentCapabilities
    split
    · rw [nonUniqueModelId_eq_false, if_neg (by decide)]
      split
      · exact ⟨h.file, h.table⟩
      · refine ⟨fun mmk' => ?_, fun table htable => ?_⟩
        · rw [fileTable_load]; exact h.file mmk'
        · cases htable; exact ⟨h.file, fun key value => plainLine_of_fileTable⟩
    · exact ⟨h.file, h.table⟩
  | set mmk capabilities =>
    cases hrun
    unfold setPersistentCapabilities
    by_cases hon : s.process.capabilitiesCacheEnabled = true
    · obtain ⟨hmade, hplain⟩ := hcond hon
      obtain ⟨table, htable⟩ := Option.isSome_iff_exists.1 hmade
      simp only [if_pos hon, nonUniqueModelId_eq_false, if_neg Bool.false_ne_true, htable, Option.map_some]
      exact h.set htable hplain order _ rfl
    · simp only [if_neg hon]; exact ⟨h.file, h.table⟩

theorem CacheRun.remembers (h : CacheRun dataFileName order s) : Remembers dataFileName s := by
  refine Reachable.keeps (fun s hstart => ?_) (fun s call s' hinv hcond hrun => ?_) h
  · obtain ⟨capabilitiesCacheEnabled, rfl⟩ := hstart
    exact ⟨fun mmk => rfl, fun table htable => nomatch htable⟩
  · exact capsStep_remembers hinv hcond hrun

theorem readsBack_iff_keepsStrings {s' : CapsStore} {call : CapsCall} (h : Remembers dataFileName s)
    (hrun : capsStep dataFileName order s call = .ok s') : ReadsBack dataFileName s' ↔ KeepsStrings s call := by
  refine ⟨fun hreads => ?_, fun hcond => (capsStep_remembers h hcond hrun).readsBack⟩
  cases call with
  | set mmk capabilities =>
    intro hon
    have hback := (hreads mmk).1
    rw [getInNewProcess_eq] at hback
    cases hrun
    unfold setPersistentCapabilities at hback
    simp only [if_pos hon, nonUniqueModelId_eq_false, if_neg Bool.false_ne_true] at hback
    rw [lastStored_append, if_pos rfl] at hback
    refine ⟨?_, plainLine_of_fileTable hback⟩
    cases hhash : s.process.capabilitiesHash with
    | some table => rfl
    | none =>
      rw [hhash] at hback; cases hback
  | _ => trivial

/-- A model whose name, as its key has it, is generic, and whose product code is not set. -/
def AmbiguousKey (mmk : MonitorModelKey) : Prop :=
  mmk.modelName ∈ genericNames.map fixupModelName ∧ (mmk.productCode = 0 ∨ mmk.productCode = 0x0101)

theorem lastStored_eq_none {mmk : MonitorModelKey} : s.lastStored mmk = none ↔ ∀ p ∈ s.stored, p.1 ≠ mmk := by
  rw [CapsStore.lastStored, Option.map_eq_none_iff, lastFor_eq_none]

/-- **In a run that meets the condition every stored string comes back**, and nothing else does.  A further call keeps
this exactly when it meets the condition.  A model with an ambiguous key is found only when a string was stored for
one. -/
theorem capabilitiesCache_readsBack (dataFileName : List Byte) (order : HashOrder) {s : CapsStore}
    (h : CacheRun dataFileName order s) :
    ReadsBack dataFileName s ∧
      (∀ call s', capsStep dataFileName order s call = .ok s' → (ReadsBack dataFileName s' ↔ KeepsStrings s call)) ∧
      ((∀ mmk, AmbiguousKey mmk → getInNewProcess dataFileName s mmk = none) ↔
        ∀ p ∈ s.stored, ¬ AmbiguousKey p.1) := by
  have hinv := h.remembers
  have hreads := hinv.readsBack
  refine ⟨hreads, fun call s' hrun => readsBack_iff_keepsStrings hinv hrun, ?_⟩
  constructor
  · intro hnone p hp hambiguous
    have hlast := hnone p.1 hambiguous
    rw [(hreads p.1).1, lastStored_eq_none] at hlast; exact hlast p hp rfl
  · intro hstored mmk hambiguous
    rw [(hreads mmk).1, lastStored_eq_none]
    intro p hp heq; exact hstored p hp (heq ▸ hambiguous)

/-! ## A monitor -/

def entryOrder : HashOrder := ⟨fun table => table.entries.map fun e => (e.1, e.2), fun _ => List.Perm.refl _⟩

def sampleMonitor : MonitorModelKey :=
  mmkValue (ascii "DEL") (ascii "U30") 7 (by decide) (by decide) (noNul_of_all (by decide)) (by decide)

def sampleCapabilities : CString := ⟨ascii "(vcp(10 12))", noNul_of_all (by decide)⟩

def cachingOn : CapsStore := ⟨newProcess true, none, []⟩

theorem sample_plainLine : PlainLine (mmkString sampleMonitor) sampleCapabilities.val := by
  have hkey : ((ascii "DEL-U30-7").all fun c => c != newline && c != 0 && c != colon) = true := by decide
  have hvalue : (sampleCapabilities.val.all fun c => c != newline && c != 0) = true := by decide
  refine ⟨fun c hc => ?_, fun c hc => ?_, fun c hc => ?_, by decide⟩
  · cases hc; decide
  · simpa [and_assoc] using all_eq_true.1 hkey c hc
  · simpa using all_eq_true.1 hvalue c hc

/-- A run: the string of a monitor is looked for, stored and read in a new process. -/
theorem capabilitiesCache_readsBack_sample :
    ∃ s, [CapsCall.get sampleMonitor, .set sampleMonitor sampleCapabilities, .restart].foldlM
        (capsStep (ascii "capabilities") entryOrder) cachingOn = .ok s ∧
      ReadsBack (ascii "capabilities") s := by
  let step := capsStep (ascii "capabilities") entryOrder
  have hget : ∃ s, step cachingOn (.get sampleMonitor) = .ok s ∧ s.process.capabilitiesHash.isSome := ⟨_, rfl, rfl⟩
  obtain ⟨s₁, hget, hmade⟩ := hget
  have hset : ∃ s, step s₁ (.set sampleMonitor sampleCapabilities) = .ok s := ⟨_, rfl⟩
  obtain ⟨s₂, hset⟩ := hset
  have hrestart : ∃ s, step s₂ .restart = .ok s := ⟨_, rfl⟩
  obtain ⟨s₃, hrestart⟩ := hrestart
  have hgetKeeps : KeepsStrings cachingOn (.get sampleMonitor) := trivial
  have hsetKeeps : KeepsStrings s₁ (.set sampleMonitor sampleCapabilities) := fun _ => ⟨hmade, sample_plainLine⟩
  have hrestartKeeps : KeepsStrings s₂ .restart := trivial
  have hreach : CacheRun (ascii "capabilities") entryOrder s₃ :=
    .step (.step (.step (.start ⟨true, rfl⟩) hgetKeeps hget) hsetKeeps hset) hrestartKeeps hrestart
  refine ⟨s₃, ?_, (capabilitiesCache_readsBack (ascii "capabilities") entryOrder hreach).1⟩
  change step cachingOn (.get sampleMonitor) >>= _ = _
  rw [hget, ok_bind]
  change step s₁ (.set sampleMonitor sampleCapabilities) >>= _ = _
  rw [hset, ok_bind]
  change step s₂ .restart >>= _ = _
  rw [hrestart, ok_bind]; rfl

def twoLines : CString := ⟨ascii "(vcp(10\n12))", noNul_of_all (by decide)⟩

/-- A string of two lines is stored, and does not come back; nor does one stored before any look-up. -/
theorem twoLines_not_readBack :
    (∃ s, [CapsCall.get sampleMonitor, .set sampleMonitor twoLines].foldlM
        (capsStep (ascii "capabilities") entryOrder) cachingOn = .ok s ∧ ¬ ReadsBack (ascii "capabilities") s) ∧
      ∃ s, [CapsCall.set sampleMonitor sampleCapabilities].foldlM (capsStep (ascii "capabilities") entryOrder)
        cachingOn = .ok s ∧ ¬ ReadsBack (ascii "capabilities") s := by
  let step := capsStep (ascii "capabilities") entryOrder
  have hstart : Remembers (ascii "capabilities") cachingOn :=
    ⟨fun mmk => rfl, fun table htable => nomatch htable⟩
  constructor
  · have hget : ∃ s, step cachingOn (.get sampleMonitor) = .ok s ∧ s.process.capabilitiesCacheEnabled = true :=
      ⟨_, rfl, rfl⟩
    obtain ⟨s₁, hget, hon⟩ := hget
    have hset : ∃ s, step s₁ (.set sampleMonitor twoLines) = .ok s := ⟨_, rfl⟩
    obtain ⟨s₂, hset⟩ := hset
    have hcond : KeepsStrings cachingOn (.get sampleMonitor) := trivial
    refine ⟨s₂, ?_, fun hreads => ?_⟩
    · change step cachingOn (.get sampleMonitor) >>= _ = _
      rw [hget, ok_bind]
      change step s₁ (.set sampleMonitor twoLines) >>= _ = _
      rw [hset, ok_bind]; rfl
    · have hkeeps := (readsBack_iff_keepsStrings (capsStep_remembers hstart hcond hget) hset).1 hreads
      exact ((hkeeps hon).2.valueChars newline (by decide)).1 rfl
  · have hset : ∃ s, step cachingOn (.set sampleMonitor sampleCapabilities) = .ok s := ⟨_, rfl⟩
    obtain ⟨s₁, hset⟩ := hset
    refine ⟨s₁, ?_, fun hreads => ?_⟩
    · change step cachingOn (.set sampleMonitor sampleCapabilities) >>= _ = _
      rw [hset, ok_bind]; rfl
    · have hkeeps := (readsBack_iff_keepsStrings hstart hset).1 hreads
      cases (hkeeps rfl).1

end Ddc
