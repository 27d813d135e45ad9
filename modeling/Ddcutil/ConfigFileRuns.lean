import Ddcutil.ConfigFile
/-!
# ConfigFileRuns — when the options of a configuration file are put in front of the arguments

What a configuration file says is stated of its lines, each with the section that it is in (`inSections`): the values
of a key are those of its lines in that section, and a line out of place is an error.
-/
namespace Ddc

open Kit List Exec

/-! ## What a file says -/

def inSections : Option (List Byte) → List (List Byte) → List (Option (List Byte) × IniLine)
  | _, [] => []
  | cur, l :: ls =>
    match iniLine (trimmedLine l) with
    | .segment segName => inSections (some segName) ls
    | line => (cur, line) :: inSections cur ls

def IsMisplaced : Option (List Byte) × IniLine → Prop
  | (_, .invalid) => True
  | (none, .kv _ _) => True
  | _ => False

def valueFor (segment key : List Byte) : Option (List Byte) × IniLine → Option (List Byte)
  | (some s, .kv k value) => if s = segment ∧ k = key then some value else none
  | _ => none

def valuesFor (segment key : List Byte) (lines : List (Option (List Byte) × IniLine)) : List (List Byte) :=
  lines.filterMap (valueFor segment key)

def joined (values : List (List Byte)) : Option (List Byte) :=
  if values = [] then none else some ([blank].intercalate values)

def ConfigWorld.fileFor (w : ConfigWorld) (application : Application) : Option FileRead :=
  (w.findXdgConfigFile application.configName).map w.file

def ConfigWorld.Absent (w : ConfigWorld) (application : Application) : Prop :=
  w.fileFor application = none ∨ ∃ h, w.fileFor application = some (.failed 2 h)

def ConfigWorld.Unusable (w : ConfigWorld) (application : Application) : Prop :=
  (∃ errno h, w.fileFor application = some (.failed errno h) ∧ errno ≠ 2) ∨
    ∃ content, w.fileFor application = some (.read content) ∧
      ∃ line ∈ inSections none (fileGetlines content), IsMisplaced line

def ConfigWorld.options (w : ConfigWorld) (application : Application) (segment : List Byte) : Option (List Byte) :=
  match w.fileFor application with
  | some (.read content) => joined (valuesFor segment (ascii "options") (inSections none (fileGetlines content)))
  | _ => none

def ConfigWorld.globalOptions (w : ConfigWorld) (application : Application) : Option (List Byte) :=
  w.options application (ascii "global")

def ConfigWorld.applicationOptions (w : ConfigWorld) (application : Application) : Option (List Byte) :=
  w.options application application.text

def WordsOf (w : ConfigWorld) : Option (List Byte) → List (List Byte) → Prop
  | none, words => words = []
  | some s, words => w.wordexp s = some words

/-- **What is promised of the new arguments**: the words of the options stand between the command and its arguments, or
there is an error and the arguments are as they were. -/
def ConfigRight (w : ConfigWorld) (application : Application) (argv : List (List Byte)) (r : Exec AppliedConfig) : Prop :=
  ∃ a, r = .ok a ∧
    ((a.result = 0 ∧ ∃ globalWords applicationWords, WordsOf w (w.globalOptions application) globalWords ∧
        WordsOf w (w.applicationOptions application) applicationWords ∧
        a.newArgv = argv.take 1 ++ globalWords ++ applicationWords ++ argv.drop 1) ∨
      a.result < 0 ∧ a.newArgv = argv) ∧
    (w.Absent application → a.result = 0 ∧ a.newArgv = argv) ∧
    (w.Unusable application → a.result < 0 ∧ a.errmsgs ≠ [])

def combinedOptions (globalOptions applicationOptions : Option (List Byte)) : List Byte :=
  strtrim (globalOptions.getD [] ++ blank :: applicationOptions.getD [])

def WordsApart (w : ConfigWorld) (application : Application) (argv : List (List Byte)) : Prop :=
  ∃ globalWords applicationWords, WordsOf w (w.globalOptions application) globalWords ∧
    WordsOf w (w.applicationOptions application) applicationWords ∧
    w.wordexp (combinedOptions (w.globalOptions application) (w.applicationOptions application)) =
      some (globalWords ++ applicationWords) ∧
    (argv = [] → globalWords ++ applicationWords = [])

def ConfigSound (w : ConfigWorld) (application : Application) (argv : List (List Byte)) : Prop :=
  match w.fileFor application with
  | none => True
  | some (.failed errno _) => errno = 2
  | some (.read content) =>
    (∀ l ∈ fileGetlines content, iniLine (trimmedLine l) = .invalid → IsFormat (trimmedLine l)) ∧
      ((∀ line ∈ inSections none (fileGetlines content), ¬ IsMisplaced line) → WordsApart w application argv)

/-! ## The lines -/

theorem percent_notMem_decimal (n : Int) : percent ∉ decimal n := by
  intro h
  rcases mem_decimal h with h | ⟨d, -, h⟩
  · exact absurd h (by decide)
  · cases h

theorem isFormat_invalidMsg (curSegment : Option (List Byte)) (n : Nat) (trimmed : List Byte) :
    IsFormat (invalidMsg curSegment n trimmed) ↔ IsFormat trimmed := by
  have hline : percent ∉ lineNumberText n := by
    rw [lineNumberText, mem_append]; exact fun h => h.elim (by decide) (percent_notMem_decimal n)
  unfold invalidMsg
  cases curSegment with
  | none =>
    rw [isFormat_append]
    rw [mem_append]; exact fun h => h.elim hline (by decide)
  | some segment =>
    rw [isFormat_append]
    rw [mem_append]; exact fun h => h.elim hline (by decide)

def joinValue (old : Option (List Byte)) (value : List Byte) : Option (List Byte) :=
  some ((old.map (· ++ [blank])).getD [] ++ value)

theorem foldl_joinValue_some (values : List (List Byte)) (old : List Byte) :
    values.foldl joinValue (some old) = some ([blank].intercalate (old :: values)) := by
  induction values generalizing old with
  | nil => rw [foldl_nil, intercalate_singleton]
  | cons value values ih =>
    rw [foldl_cons, joinValue, ih]
    simp only [Option.map_some, Option.getD_some]
    cases values with
    | nil => simp only [intercalate_singleton, intercalate_cons_cons]
    | cons v vs => simp only [intercalate_cons_cons, append_assoc]

theorem foldl_joinValue (values : List (List Byte)) : values.foldl joinValue none = joined values := by
  cases values with
  | nil => rfl
  | cons value values =>
    rw [foldl_cons, joinValue, foldl_joinValue_some, joined, if_neg (cons_ne_nil _ _)]; rfl

theorem lookup_addValue (t : IniHash) (key value key' : List Byte) :
    (addValue t key value).lookup key' = if key' = key then joinValue (t.lookup key) value else t.lookup key' := by
  unfold addValue
  cases hlookup : t.lookup key with
  | none =>
    by_cases hkey : key' = key
    · rw [if_pos hkey, hkey]; exact AList.lookup_insert t
    · rw [if_neg hkey]; exact AList.lookup_insert_ne hkey
  | some oldValue =>
    by_cases hkey : key' = key
    · rw [if_pos hkey, hkey]
      simp only [joinValue, Option.map_some, Option.getD_some, append_assoc, singleton_append]
      exact AList.lookup_insert t
    · rw [if_neg hkey]; exact AList.lookup_insert_ne hkey

theorem fullKey_inj {segment key segment' key' : List Byte} (hsegment : slash ∉ segment) (hkey : slash ∉ key) :
    fullKey segment key = fullKey segment' key' ↔ segment = segment' ∧ key = key' := by
  unfold fullKey
  rw [append_cons_inj_of_notMem hsegment hkey]
  tauto

theorem valuesFor_append (segment key : List Byte) (a b : List (Option (List Byte) × IniLine)) :
    valuesFor segment key (a ++ b) = valuesFor segment key a ++ valuesFor segment key b := filterMap_append

/-- **What reading lines does**: the values go behind those that are there, and a line that is misplaced is counted and
makes a message. -/
structure LinesRead (st st' : IniState) (lines : List (Option (List Byte) × IniLine)) : Prop where
  table : ∀ segment key, slash ∉ segment → slash ∉ key →
    st'.iniFileHash.lookup (fullKey segment key) =
      (valuesFor segment key lines).foldl joinValue (st.iniFileHash.lookup (fullKey segment key))
  errorCt : st'.errorCt = 0 ↔ st.errorCt = 0 ∧ ∀ line ∈ lines, ¬ IsMisplaced line
  errmsgs : st.errmsgs.length = st.errorCt → st'.errmsgs.length = st'.errorCt

variable (st : IniState)

theorem LinesRead.nil : LinesRead st st [] where
  table := fun _ _ _ _ => rfl
  errorCt := ⟨fun h => ⟨h, fun _ hline => absurd hline not_mem_nil⟩, fun h => h.1⟩
  errmsgs := id

theorem LinesRead.append {st st' st'' : IniState} {a b : List (Option (List Byte) × IniLine)}
    (h : LinesRead st st' a) (h' : LinesRead st' st'' b) : LinesRead st st'' (a ++ b) where
  table := by
    intro segment key hsegment hkey
    rw [h'.table segment key hsegment hkey, h.table segment key hsegment hkey, valuesFor_append, foldl_append]
  errorCt := by rw [h'.errorCt, h.errorCt, forall_mem_append, and_assoc]
  errmsgs := fun hlen => h'.errmsgs (h.errmsgs hlen)

theorem LinesRead.emitErrorMsg (text : List Byte) {line : Option (List Byte) × IniLine}
    (hmisplaced : IsMisplaced line) (hvalue : ∀ segment key, valueFor segment key line = none) :
    LinesRead st (emitErrorMsg st text) [line] where
  table := by
    intro segment key _ _
    rw [valuesFor, filterMap_cons_none (hvalue segment key)]; rfl
  errorCt := by
    refine ⟨fun h => absurd h (Nat.succ_ne_zero _), fun h => ?_⟩
    exact absurd hmisplaced (h.2 line mem_cons_self)
  errmsgs := by
    intro h
    change (st.errmsgs ++ [text.take 99]).length = st.errorCt + 1
    rw [length_append, h, length_singleton]

theorem LinesRead.addValue (st : IniState) (s k value : List Byte) :
    LinesRead st { st with iniFileHash := addValue st.iniFileHash (fullKey s k) value } [(some s, .kv k value)] where
  table := by
    intro segment key hsegment hkey
    rw [lookup_addValue, valuesFor, filterMap_cons, valueFor]
    by_cases hhere : s = segment ∧ k = key
    · rw [if_pos hhere, if_pos ((fullKey_inj hsegment hkey).2 ⟨hhere.1.symm, hhere.2.symm⟩), hhere.1, hhere.2]
      rfl
    · rw [if_neg hhere, if_neg]
      · rfl
      · intro heq
        obtain ⟨h₁, h₂⟩ := (fullKey_inj hsegment hkey).1 heq
        exact hhere ⟨h₁.symm, h₂.symm⟩
  errorCt := by
    refine ⟨fun h => ⟨h, ?_⟩, fun h => h.1⟩
    intro line hline
    rw [mem_singleton.1 hline]; exact id
  errmsgs := id

theorem readIniLine_ok {l : List Byte} (n : Nat)
    (hformat : iniLine (trimmedLine l) = .invalid → IsFormat (trimmedLine l)) :
    ∃ st' here, readIniLine st (l, n) = .ok st' ∧ LinesRead st st' here ∧
      ∀ ls, inSections st.curSegment (l :: ls) = here ++ inSections st'.curSegment ls := by
  cases hline : iniLine (trimmedLine l) with
  | comment =>
    refine ⟨st, [(st.curSegment, .comment)], ?_, ?_, fun ls => ?_⟩
    · simp only [readIniLine, hline]
    · refine ⟨fun _ _ _ _ => ?_, ⟨fun h => ⟨h, ?_⟩, fun h => h.1⟩, id⟩
      · cases st.curSegment <;> rfl
      · intro line hmem
        rw [mem_singleton.1 hmem]
        cases st.curSegment <;> exact id
    · simp only [inSections, hline, singleton_append]
  | segment segName =>
    refine ⟨{ st with curSegment := some segName }, [], ?_, ?_, fun ls => ?_⟩
    · simp only [readIniLine, hline]
    · exact ⟨(LinesRead.nil st).table, (LinesRead.nil st).errorCt, id⟩
    · simp only [inSections, hline, nil_append]
  | kv key value =>
    cases hcur : st.curSegment with
    | none =>
      refine ⟨_, [(none, .kv key value)], ?_, LinesRead.emitErrorMsg st
        (lineNumberText n ++ ascii ": Invalid before section header: " ++ trimmedLine l) trivial fun _ _ => rfl, ?_⟩
      · simp only [readIniLine, hline, hcur]
      · intro ls
        simp only [inSections, hline, emitErrorMsg, hcur, singleton_append]
    | some segment =>
      refine ⟨_, [(some segment, .kv key value)], ?_, LinesRead.addValue st segment key value, fun ls => ?_⟩
      · simp only [readIniLine, hline, hcur]
      · simp only [inSections, hline, hcur, singleton_append]
  | invalid =>
    obtain ⟨text, htext⟩ := (isFormat_invalidMsg st.curSegment n (trimmedLine l)).2 (hformat hline)
    have hmisplaced : IsMisplaced (st.curSegment, .invalid) := by cases st.curSegment <;> exact trivial
    refine ⟨emitErrorMsg st text, [(st.curSegment, .invalid)], ?_, LinesRead.emitErrorMsg st text hmisplaced ?_, ?_⟩
    · simp only [readIniLine, hline, htext, ok_bind]
    · intro segment key
      cases st.curSegment <;> rfl
    · intro ls
      simp only [inSections, hline, emitErrorMsg, singleton_append]

theorem isFormat_of_readIniLine {st st' : IniState} {line : List Byte × Nat} (h : readIniLine st line = .ok st')
    (hline : iniLine (trimmedLine line.1) = .invalid) : IsFormat (trimmedLine line.1) := by
  simp only [readIniLine, hline] at h
  obtain ⟨text, htext, -⟩ := bind_eq_ok.1 h
  exact (isFormat_invalidMsg _ _ _).1 ⟨text, htext⟩

theorem foldlM_readIniLine (lines : List (List Byte)) : ∀ (n : Nat) (st : IniState),
    (∀ l ∈ lines, iniLine (trimmedLine l) = .invalid → IsFormat (trimmedLine l)) →
    ∃ st', (lines.zipIdx n).foldlM readIniLine st = .ok st' ∧ LinesRead st st' (inSections st.curSegment lines) := by
  induction lines with
  | nil => exact fun n st _ => ⟨st, rfl, LinesRead.nil st⟩
  | cons l ls ih =>
    intro n st hformat
    obtain ⟨st₁, here, hstep, hread, hsections⟩ := readIniLine_ok st n (hformat l mem_cons_self)
    obtain ⟨st₂, hrun, hrest⟩ := ih (n + 1) st₁ fun l' hl' => hformat l' (mem_cons_of_mem l hl')
    refine ⟨st₂, ?_, ?_⟩
    · rw [zipIdx_cons, foldlM_cons, hstep, ok_bind, hrun]
    · rw [hsections]; exact hread.append hrest

/-! ## The file -/

variable {content : List Byte} {w : ConfigWorld} {application : Application}

theorem iniFileLoad_read (strerror : Nat → List Byte) (iniFileName : List Byte)
    (hformat : ∀ l ∈ fileGetlines content, iniLine (trimmedLine l) = .invalid → IsFormat (trimmedLine l)) :
    ((∃ line ∈ inSections none (fileGetlines content), IsMisplaced line) ∧
        ∃ errmsgs, iniFileLoad strerror iniFileName (.read content) = .ok (-eBadmsg, errmsgs, none) ∧ errmsgs ≠ []) ∨
      (∀ line ∈ inSections none (fileGetlines content), ¬ IsMisplaced line) ∧
        ∃ errmsgs iniFile, iniFileLoad strerror iniFileName (.read content) = .ok (0, errmsgs, some iniFile) ∧
          ∀ segment key, slash ∉ segment → slash ∉ key → iniFile.hashTable.lookup (fullKey segment key) =
            joined (valuesFor segment key (inSections none (fileGetlines content))) := by
  obtain ⟨st, hrun, hread⟩ := foldlM_readIniLine (fileGetlines content) 1 ⟨none, ∅, 0, []⟩ hformat
  have hlen : st.errmsgs.length = st.errorCt := hread.errmsgs rfl
  by_cases hct : st.errorCt = 0
  · refine .inr ⟨(hread.errorCt.1 hct).2, st.errmsgs, ⟨iniFileName, st.iniFileHash⟩, ?_, ?_⟩
    · simp only [iniFileLoad, hrun, ok_bind]
      rw [if_neg (by omega)]
    · intro segment key hsegment hkey
      rw [← foldl_joinValue]; exact hread.table segment key hsegment hkey
  · refine .inl ⟨?_, st.errmsgs, ?_, ?_⟩
    · by_contra hnone
      push Not at hnone
      exact hct (hread.errorCt.2 ⟨rfl, hnone⟩)
    · simp only [iniFileLoad, hrun, ok_bind]
      rw [if_pos (by omega)]
    · intro hnil
      rw [hnil] at hlen; exact hct hlen.symm

theorem isFormat_of_iniFileLoad {strerror : Nat → List Byte} {iniFileName : List Byte}
    {r : Int × List (List Byte) × Option ParsedIniFile} (h : iniFileLoad strerror iniFileName (.read content) = .ok r) :
    ∀ l ∈ fileGetlines content, iniLine (trimmedLine l) = .invalid → IsFormat (trimmedLine l) := by
  intro l hl hline
  obtain ⟨st, hrun, -⟩ := bind_eq_ok.1 h
  have hmem : l ∈ ((fileGetlines content).zipIdx 1).map Prod.fst := by rwa [zipIdx_map_fst]
  obtain ⟨line, hline', rfl⟩ := mem_map.1 hmem
  obtain ⟨c, c', hstep⟩ := foldlM_each hrun line hline'
  exact isFormat_of_readIniLine hstep hline

theorem lookup_global {t : IniHash} : t.lookup ((fullKey (ascii "global") (ascii "options")).map tolower) =
    t.lookup (fullKey (ascii "global") (ascii "options")) := by
  rw [show (fullKey (ascii "global") (ascii "options")).map tolower = fullKey (ascii "global") (ascii "options") by decide]

theorem lookup_application {t : IniHash} (application : Application) :
    t.lookup ((fullKey application.text (ascii "options")).map tolower) =
      t.lookup (fullKey application.text (ascii "options")) := by
  have hlower : (fullKey application.text (ascii "options")).map tolower =
      fullKey application.text (ascii "options") := by cases application <;> decide
  rw [hlower]

theorem slash_notMem_text (application : Application) : slash ∉ application.text := by cases application <;> decide

theorem takeWhile_isSome {α : Type} (l : List α) : (l.map some ++ [none]).takeWhile Option.isSome = l.map some := by
  rw [takeWhile_append_of_pos]
  · rw [takeWhile_cons_of_neg Bool.false_ne_true, append_nil]
  · intro x hx
    obtain ⟨a, -, rfl⟩ := mem_map.1 hx
    rfl

theorem mergeCommandTokens_eq_ok {argv tokens newArgv : List (List Byte)} :
    mergeCommandTokens argv tokens = .ok newArgv ↔
      (argv = [] → tokens = []) ∧ newArgv = argv.take 1 ++ tokens ++ argv.drop 1 := by
  unfold mergeCommandTokens
  by_cases hnil : tokens = []
  · rw [if_pos hnil, hnil, append_nil, take_append_drop, Except.ok.injEq, eq_comm]
    exact ⟨fun h => ⟨fun _ => rfl, h⟩, fun h => h.2⟩
  · rw [if_neg hnil]
    cases argv with
    | nil =>
      rw [if_pos (by simp)]
      exact ⟨fun h => (ok_ne_error _ _ h.symm).elim, fun h => absurd (h.1 rfl) hnil⟩
    | cons command arguments =>
      have hcells : (command :: arguments).head? :: tokens.map some ++ (command :: arguments).tail.map some ++ [none] =
          (command :: tokens ++ arguments).map some ++ [none] := by simp
      have hlength : tokens.length + (command :: arguments).length + 1 - 1 =
          ntsaLength ((command :: tokens ++ arguments).map some ++ [none]) := by
        rw [ntsaLength, takeWhile_isSome, length_map, length_append, length_cons, length_cons]
        omega
      rw [hcells, if_neg (by simp), check_pos hlength, ok_bind, ntsaStrings, takeWhile_isSome, filterMap_map,
        Except.ok.injEq, eq_comm]
      simp

/-! ## Reading the options -/

section Reading

variable {w : ConfigWorld} {application : Application}

theorem exists_configFn {file : FileRead} (h : w.fileFor application = some file) :
    ∃ configFn, w.findXdgConfigFile application.configName = some configFn ∧ w.file configFn = file :=
  Option.map_eq_some_iff.1 h

theorem readDdcutilConfigFile_absent (h : w.Absent application) :
    ∃ configFn, readDdcutilConfigFile w application = .ok ⟨-eNoent, configFn, none, []⟩ := by
  unfold readDdcutilConfigFile
  rcases h with h | ⟨hpos, h⟩
  · rw [Option.map_eq_none_iff.1 h]; exact ⟨none, rfl⟩
  · obtain ⟨configFn, hfind, hfile⟩ := exists_configFn h
    refine ⟨some configFn, ?_⟩
    simp only [hfind, hfile]; rfl

theorem readDdcutilConfigFile_failed {errno : Nat} {hpos : 0 < errno}
    (h : w.fileFor application = some (.failed errno hpos)) (hne : errno ≠ 2) :
    ∃ configFn errmsgs, readDdcutilConfigFile w application = .ok ⟨errno, configFn, none, errmsgs⟩ := by
  obtain ⟨configFn, hfind, hfile⟩ := exists_configFn h
  have hnoent : ¬ (errno : Int) = eNoent := by rw [eNoent]; omega
  have hiff : (errno : Int) = 0 ↔ (none : Option ParsedIniFile).isSome = true :=
    iff_of_false (by omega) Bool.false_ne_true
  refine ⟨some configFn, [(ascii "Error reading configuration file " ++ configFn ++ ascii ": " ++
    w.strerror errno).take 99], ?_⟩
  unfold readDdcutilConfigFile
  simp only [hfind, hfile, iniFileLoad, if_neg hnoent, ok_bind, assertIff]
  rw [check_pos hiff, ok_bind]

theorem readDdcutilConfigFile_read {content : List Byte} (h : w.fileFor application = some (.read content))
    (hformat : ∀ l ∈ fileGetlines content, iniLine (trimmedLine l) = .invalid → IsFormat (trimmedLine l)) :
    ((∃ line ∈ inSections none (fileGetlines content), IsMisplaced line) ∧
        ∃ configFn errmsgs, readDdcutilConfigFile w application = .ok ⟨-eBadmsg, configFn, none, errmsgs⟩ ∧
          errmsgs ≠ []) ∨
      (∀ line ∈ inSections none (fileGetlines content), ¬ IsMisplaced line) ∧
        ∃ configFn errmsgs, readDdcutilConfigFile w application = .ok ⟨0, configFn,
          some (combinedOptions (w.globalOptions application) (w.applicationOptions application)), errmsgs⟩ := by
  obtain ⟨configFn, hfind, hfile⟩ := exists_configFn h
  unfold readDdcutilConfigFile
  simp only [hfind, hfile]
  rcases iniFileLoad_read w.strerror configFn hformat with ⟨hbad, errmsgs, hload, hne⟩ | ⟨hgood, errmsgs, f, hload, htable⟩
  · refine .inl ⟨hbad, some configFn, errmsgs, ?_, hne⟩
    simp only [hload, ok_bind, assertIff]
    rw [check_pos (by decide), ok_bind]
  · refine .inr ⟨hgood, some configFn, errmsgs, ?_⟩
    have hglobal : iniFileGetValue f (ascii "global") (ascii "options") = w.globalOptions application := by
      rw [iniFileGetValue, lookup_global, htable _ _ (by decide) (by decide), ConfigWorld.globalOptions,
        ConfigWorld.options, h]
    have happlication : iniFileGetValue f application.text (ascii "options") = w.applicationOptions application := by
      rw [iniFileGetValue, lookup_application, htable _ _ (slash_notMem_text application) (by decide),
        ConfigWorld.applicationOptions, ConfigWorld.options, h]
    simp only [hload, ok_bind, assertIff, hglobal, happlication]; rfl

theorem isFormat_of_readDdcutilConfigFile {content : List Byte} {r : ReadConfig}
    (hread : w.fileFor application = some (.read content)) (h : readDdcutilConfigFile w application = .ok r) :
    ∀ l ∈ fileGetlines content, iniLine (trimmedLine l) = .invalid → IsFormat (trimmedLine l) := by
  obtain ⟨configFn, hfind, hfile⟩ := exists_configFn hread
  unfold readDdcutilConfigFile at h
  simp only [hfind, hfile] at h
  obtain ⟨loaded, hload, -⟩ := bind_eq_ok.1 h
  exact isFormat_of_iniFileLoad hload

/-! ## Applying them -/

theorem applyConfigFile_of_neg {read : ReadConfig} (hread : readDdcutilConfigFile w application = .ok read)
    (hneg : read.result < 0) (hnone : read.untokenizedOptionString = none) (argv : List (List Byte)) :
    applyConfigFile w application argv = .ok ⟨if read.result = -eNoent then 0 else read.result, argv.length, argv,
      read.untokenizedOptionString, read.configFn, read.errmsgs⟩ := by
  have hzero : ¬ read.result = 0 := by omega
  unfold applyConfigFile
  rw [hread, ok_bind, assertIff, check_pos (iff_of_false hzero (by rw [hnone]; exact Bool.false_ne_true)),
    ok_bind]
  by_cases hnoent : read.result = -eNoent
  · rw [if_pos hnoent, if_pos hnoent]
  · rw [if_neg hnoent, if_pos hneg, if_neg hnoent]

theorem applyConfigFile_of_pos {read : ReadConfig} (hread : readDdcutilConfigFile w application = .ok read)
    (hpos : 0 < read.result) (hnone : read.untokenizedOptionString = none) (argv : List (List Byte)) :
    applyConfigFile w application argv = .error .nullDeref := by
  have hzero : ¬ read.result = 0 := by omega
  have hnoent : ¬ read.result = -eNoent := by rw [eNoent]; omega
  unfold applyConfigFile
  rw [hread, ok_bind, assertIff, check_pos (iff_of_false hzero (by rw [hnone]; exact Bool.false_ne_true)),
    ok_bind, if_neg hnoent, if_neg (by omega), hnone]
  rfl

theorem applyConfigFile_of_zero {configFn : Option (List Byte)} {options : List Byte} {errmsgs : List (List Byte)}
    (hread : readDdcutilConfigFile w application = .ok ⟨0, configFn, some options, errmsgs⟩) {argv : List (List Byte)}
    {a : AppliedConfig} :
    applyConfigFile w application argv = .ok a ↔
      ∃ words, w.wordexp options = some words ∧ (argv = [] → words = []) ∧
        a = ⟨0, (argv.take 1 ++ words ++ argv.drop 1).length, argv.take 1 ++ words ++ argv.drop 1, some options,
          configFn, errmsgs⟩ := by
  rw [applyConfigFile, hread, ok_bind]
  dsimp only
  rw [assertIff, check_pos (by simp), ok_bind, if_neg (by decide), if_neg (by decide)]
  simp only [tokenizeOptionsLine]
  cases w.wordexp options with
  | none => simp
  | some words =>
    simp only [ok_bind, Option.some.injEq, exists_eq_left']
    rw [bind_eq_ok]
    constructor
    · rintro ⟨newArgv, hmerge, ha⟩
      cases ha
      obtain ⟨hempty, rfl⟩ := mergeCommandTokens_eq_ok.1 hmerge
      exact ⟨hempty, rfl⟩
    · rintro ⟨hempty, rfl⟩
      exact ⟨_, mergeCommandTokens_eq_ok.2 ⟨hempty, rfl⟩, rfl⟩

end Reading

theorem not_absent (hfile : w.fileFor application = some (.read content)) : ¬ w.Absent application := by
  rintro (h | ⟨hpos, h⟩)
  · rw [hfile] at h; cases h
  · rw [hfile] at h; cases h

theorem options_eq_none (h : ∀ content, w.fileFor application ≠ some (.read content)) (segment : List Byte) :
    w.options application segment = none := by
  unfold ConfigWorld.options
  split
  · rename_i content hfile; exact absurd hfile (h content)
  · rfl

theorem configRight_of_absent (habsent : w.Absent application) (argv : List (List Byte)) :
    ConfigRight w application argv (applyConfigFile w application argv) := by
  have hnone : ∀ content, w.fileFor application ≠ some (.read content) :=
    fun _ hfile => not_absent hfile habsent
  have husable : ¬ w.Unusable application := by
    rintro (⟨errno, hpos, hfile, hne⟩ | ⟨content, hfile, -⟩)
    · rcases habsent with h | ⟨hpos', h⟩
      · rw [hfile] at h; cases h
      · rw [hfile] at h
        cases h; exact hne rfl
    · exact hnone content hfile
  obtain ⟨configFn, hread⟩ := readDdcutilConfigFile_absent habsent
  rw [applyConfigFile_of_neg hread (show -eNoent < 0 by decide) rfl]
  refine ⟨_, rfl, .inl ⟨rfl, [], [], ?_, ?_, ?_⟩, fun _ => ⟨rfl, rfl⟩, fun h => absurd h husable⟩
  · rw [ConfigWorld.globalOptions, options_eq_none hnone]; rfl
  · rw [ConfigWorld.applicationOptions, options_eq_none hnone]; rfl
  · rw [append_nil, append_nil, take_append_drop]

theorem wordsApart_iff {configFn : Option (List Byte)} {errmsgs : List (List Byte)}
    (hfile : w.fileFor application = some (.read content))
    (hgood : ∀ line ∈ inSections none (fileGetlines content), ¬ IsMisplaced line)
    (hread : readDdcutilConfigFile w application = .ok ⟨0, configFn,
      some (combinedOptions (w.globalOptions application) (w.applicationOptions application)), errmsgs⟩)
    (argv : List (List Byte)) :
    ConfigRight w application argv (applyConfigFile w application argv) ↔ WordsApart w application argv := by
  have husable : ¬ w.Unusable application := by
    rintro (⟨errno, hpos, h, -⟩ | ⟨content', h, line, hline, hmisplaced⟩)
    · rw [hfile] at h; cases h
    · rw [hfile] at h
      cases h; exact hgood line hline hmisplaced
  constructor
  · rintro ⟨a, ha, hright, -, -⟩
    obtain ⟨words, hwords, hempty, rfl⟩ := (applyConfigFile_of_zero hread).1 ha
    obtain ⟨-, g, s, hg, hs, hargv⟩ | ⟨hneg, -⟩ := hright
    · have hsplit : words = g ++ s := by
        rw [append_assoc _ g s] at hargv; exact append_cancel_left (append_cancel_right hargv)
      exact ⟨g, s, hg, hs, hwords.trans (congrArg some hsplit), fun hnil => hsplit ▸ hempty hnil⟩
    · exact absurd hneg (Int.lt_irrefl 0)
  · rintro ⟨g, s, hg, hs, hwords, hempty⟩
    refine ⟨_, (applyConfigFile_of_zero hread).2 ⟨g ++ s, hwords, hempty, rfl⟩, .inl ⟨rfl, g, s, hg, hs, ?_⟩,
      fun h => absurd h (not_absent hfile), fun h => absurd h husable⟩
    rw [append_assoc _ g s]

/-- **When the options are put in front of the arguments**: the file can be read or is not there, every line that is
nothing at all is a format and, where no line is an error, the text of all options has the words of the two parts. -/
theorem configRight_iff (w : ConfigWorld) (application : Application) (argv : List (List Byte)) :
    ConfigRight w application argv (applyConfigFile w application argv) ↔ ConfigSound w application argv := by
  unfold ConfigSound
  cases hfile : w.fileFor application with
  | none => exact iff_of_true (configRight_of_absent (.inl hfile) argv) trivial
  | some file =>
    cases file with
    | failed errno hpos =>
      by_cases hne : errno = 2
      · subst hne; exact iff_of_true (configRight_of_absent (.inr ⟨hpos, hfile⟩) argv) rfl
      · obtain ⟨configFn, errmsgs, hread⟩ := readDdcutilConfigFile_failed hfile hne
        rw [applyConfigFile_of_pos hread (Int.natCast_pos.2 hpos) rfl]
        exact iff_of_false (fun h => ok_ne_error _ _ h.choose_spec.1.symm) hne
    | read content =>
      by_cases hformat : ∀ l ∈ fileGetlines content, iniLine (trimmedLine l) = .invalid → IsFormat (trimmedLine l)
      · rcases readDdcutilConfigFile_read hfile hformat with ⟨hbad, configFn, errmsgs, hread, hne⟩ |
          ⟨hgood, configFn, errmsgs, hread⟩
        · refine iff_of_true ?_ ⟨hformat, fun hgood => ?_⟩
          · rw [applyConfigFile_of_neg hread (show -eBadmsg < 0 by decide) rfl]
            have hneg : -eBadmsg < 0 := by decide
            exact ⟨_, rfl, .inr ⟨hneg, rfl⟩, fun h => absurd h (not_absent hfile), fun _ => ⟨hneg, hne⟩⟩
          · obtain ⟨line, hline, hmisplaced⟩ := hbad
            exact absurd hmisplaced (hgood line hline)
        · rw [wordsApart_iff hfile hgood hread]
          exact ⟨fun h => ⟨hformat, fun _ => h⟩, fun h => h.2 hgood⟩
      · refine iff_of_false ?_ fun h => hformat h.1
        rintro ⟨a, ha, -⟩
        obtain ⟨read, hread, -⟩ := bind_eq_ok.1 ha
        exact hformat (isFormat_of_readDdcutilConfigFile hfile hread)

def unreadableConfig : ConfigWorld where
  findXdgConfigFile := some
  file := fun _ => .failed 13 (Nat.succ_pos 12)
  strerror := fun _ => ascii "Permission denied"
  wordexp := fun s => some (strtok s)

/-- The error comes back as a positive number, which `apply_config_file` takes for none. -/
theorem unreadableConfig_not_right : ¬ ConfigRight unreadableConfig .ddcutil [ascii "ddcutil", ascii "detect"]
    (applyConfigFile unreadableConfig .ddcutil [ascii "ddcutil", ascii "detect"]) := by
  rintro ⟨a, ha, -⟩
  cases ha

end Ddc
