import Ddcutil.BusOpen
import Ddcutil.CapabilitiesCache
import Ddcutil.Dsa2
import Ddcutil.SimpleIniFile
/-!
# XdgUtil — a file searched for in the XDG directories

`find_xdg_data_file` and `find_xdg_config_file` look for a file in the home directory and then in the directories of
the search path, which an iterator cuts out of a list between colons.
-/
namespace Ddc.Xdg

open Kit List Exec

/-! ## The directories -/

abbrev Env := List Byte → Option CString

/-- `xdg_home_dir`: the value of the variable, or a directory in the user's home, with a slash at its end. -/
def homeDir (env : Env) (envvarName homeSubdirName : List Byte) : Option (List Byte) :=
  match (env envvarName).filter fun v => v.val ≠ [] with
  | some xdgHome => some (if xdgHome.val.getLast? = some slash then xdgHome.val else xdgHome.val ++ [slash])
  | none =>
    match (env (ascii "HOME")).filter fun v => v.val ≠ [] with
    | some home => some (home.val ++ [slash] ++ homeSubdirName ++ [slash])
    | none => none

def dirs (env : Env) (envvarName defaultDirs : List Byte) : List Byte :=
  match (env envvarName).filter fun v => v.val ≠ [] with
  | some xdgDirs => xdgDirs.val
  | none => defaultDirs

def dataHomeDir (env : Env) : Option (List Byte) := homeDir env (ascii "XDG_DATA_HOME") (ascii ".local/share")

def configHomeDir (env : Env) : Option (List Byte) := homeDir env (ascii "XDG_CONFIG_HOME") (ascii ".config")

def dataDirs (env : Env) : List Byte := dirs env (ascii "XDG_DATA_DIRS") (ascii "/usr/local/share/:/usr/share")

def configDirs (env : Env) : List Byte := dirs env (ascii "XDG_CONFIG_DIRS") (ascii "/etc/xdg")

def joinedPath (homeDir : Option (List Byte)) (dirs : List Byte) : List Byte :=
  match homeDir with
  | some homeDir => homeDir ++ colon :: dirs
  | none => dirs

def dataPath (env : Env) : List Byte := joinedPath (dataHomeDir env) (dataDirs env)

def configPath (env : Env) : List Byte := joinedPath (configHomeDir env) (configDirs env)

/-! ## The search -/

structure IterState where
  iterStart : Nat
  iterEnd : Nat

def dirsIterInit (dirList : List Byte) : IterState := ⟨0, dirList.length⟩

/-- **`xdg_dirs_iter_next`**: the text up to the next colon, as far as an `int` counts it; a negative count is a huge one
to `memcpy`. -/
def dirsIterNext (dirList : List Byte) (state : IterState) : Exec (Option (List Byte) × IterState) :=
  if state.iterEnd ≤ state.iterStart then .ok (none, state)
  else do
    let word := (dirList.drop state.iterStart).takeWhile (· ≠ colon)
    let len := int32 word.length
    let _ ← intResult (len + 1)
    if len < 0 then .error .outOfBounds
    else .ok (some (word.take len.toNat), ⟨state.iterStart + word.length + 1, state.iterEnd⟩)

def withoutSlash (nextDir : List Byte) : Exec (List Byte) := do
  let buf := nextDir ++ [0]
  let lastndx := int32 ((nextDir.length : Int) - 1)
  let last ← if lastndx < 0 then .error .outOfBounds else fetch buf lastndx.toNat
  if last = slash then do
    let buf ← store buf lastndx.toNat 0
    readString buf
  else readString buf

def fqfn (application simpleFn dir : List Byte) : List Byte := dir ++ [slash] ++ application ++ [slash] ++ simpleFn

def findLoop (regularFileExists : List Byte → Bool) (application simpleFn path : List Byte) :
    Nat → IterState → Exec (Option (List Byte))
  | 0, _ => .error .outOfFuel
  | fuel + 1, iterState => do
    let (nextDir, iterState) ← dirsIterNext path iterState
    match nextDir with
    | none => .ok none
    | some nextDir => do
      let dir ← withoutSlash nextDir
      if regularFileExists (fqfn application simpleFn dir) then .ok (some (fqfn application simpleFn dir))
      else findLoop regularFileExists application simpleFn path fuel iterState

def findXdgPathFile (regularFileExists : List Byte → Bool) (path application simpleFn : List Byte) :
    Exec (Option (List Byte)) :=
  findLoop regularFileExists application simpleFn path (path.length + 1) (dirsIterInit path)

def findXdgDataFile (env : Env) (regularFileExists : List Byte → Bool) (application simpleFn : List Byte) :
    Exec (Option (List Byte)) :=
  findXdgPathFile regularFileExists (dataPath env) application simpleFn

def findXdgConfigFile (env : Env) (regularFileExists : List Byte → Bool) (application simpleFn : List Byte) :
    Exec (Option (List Byte)) :=
  findXdgPathFile regularFileExists (configPath env) application simpleFn

/-- **The directories in their order**: the components of the home directory, then those of the search path. -/
def directories (homeDir : Option (List Byte)) (dirs : List Byte) : List (List Byte) :=
  (homeDir.map (lines colon)).getD [] ++ lines colon dirs

def lessSlash (dir : List Byte) : List Byte := if dir.getLast? = some slash then dir.dropLast else dir

/-- **The file in the first directory that has it**; an empty component is no directory. -/
def firstFile (regularFileExists : List Byte → Bool) (application simpleFn : List Byte) (components : List (List Byte)) :
    Option (List Byte) :=
  ((components.filter (· ≠ [])).map fun dir => fqfn application simpleFn (lessSlash dir)).find? regularFileExists

def Has (regularFileExists : List Byte → Bool) (application simpleFn dir : List Byte) : Prop :=
  dir ≠ [] ∧ regularFileExists (fqfn application simpleFn (lessSlash dir)) = true

/-- **Every component that is reached is a directory** whose length an `int` counts, with the NUL; a component is reached
where none before it has the file. -/
def Reaches (has : List Byte → Prop) (components : List (List Byte)) : Prop :=
  ∀ pre dir post, components = pre ++ dir :: post → (∀ d ∈ pre, ¬ has d) → dir ≠ [] ∧ (dir.length : Int) < intMax

theorem homeDir_slash {env : Env} {name sub home : List Byte} (h : homeDir env name sub = some home) :
    home.getLast? = some slash := by
  unfold homeDir at h
  split at h
  · cases h
    split
    · assumption
    · exact getLast?_concat
  · split at h
    · cases h; exact getLast?_concat
    · cases h

theorem lines_joinedPath {env : Env} {name sub : List Byte} (dirs : List Byte) :
    lines colon (joinedPath (homeDir env name sub) dirs) = directories (homeDir env name sub) dirs := by
  cases h : homeDir env name sub with
  | none => rfl
  | some home => exact lines_append_of_last (homeDir_slash h) (by decide) dirs

theorem int32_length {n : Nat} (h : (n : Int) ≤ intMax) : int32 n = n := by
  have hmax : intMax = 2147483647 := by decide
  exact Int.bmod_eq_of_le (by omega) (by omega)

theorem int32_wraps {n : Nat} (h : intMax < n) (hlt : n < 4294967296) : int32 n < 0 := by
  have hmax : intMax = 2147483647 := by decide
  have hbmod : int32 n = (n : Int) - 4294967296 := by
    rw [int32, ← Int.sub_bmod_right]; exact Int.bmod_eq_of_le (by omega) (by omega)
  omega

theorem withoutSlash_eq {dir : List Byte} (hne : dir ≠ []) (hnul : ∀ c ∈ dir, c ≠ 0) (hlen : (dir.length : Int) < intMax) :
    withoutSlash dir = .ok (lessSlash dir) := by
  obtain ⟨front, last, rfl⟩ := eq_nil_or_concat dir |>.resolve_left hne
  rw [concat_eq_append] at hnul hlen ⊢
  rw [length_append, length_singleton] at hlen
  have hndx : int32 (((front ++ [last]).length : Int) - 1) = front.length := by
    rw [length_append, length_singleton, Nat.cast_add, Nat.cast_one, Int.add_sub_cancel]
    exact int32_length (by omega)
  have hread : ∀ text : List Byte, (∀ c ∈ text, c ≠ 0) → ∀ junk, readString (text ++ 0 :: junk) = .ok text := by
    intro text htext junk
    rw [readString_of_mem (mem_zero_append text junk), cstr_append htext junk]
  have hfetch : fetch (front ++ [last] ++ [0]) front.length = .ok last := by
    rw [fetch_eq_ok, append_assoc, getElem?_append_right (Nat.le_refl _), Nat.sub_self]; rfl
  rw [withoutSlash, lessSlash, hndx, if_neg (by omega), Int.toNat_natCast, hfetch, ok_bind, getLast?_concat]
  dsimp only
  by_cases hslash : last = slash
  · rw [if_pos hslash, if_pos (congrArg some hslash), store_of_lt (by simp), ok_bind, dropLast_concat]
    have hset : (front ++ [last] ++ [0]).set front.length 0 = front ++ 0 :: [0] := by simp
    rw [hset]; exact hread front (fun c hc => hnul c (mem_append_left _ hc)) [0]
  · rw [if_neg hslash, if_neg fun h => hslash (Option.some.inj h)]
    exact hread (front ++ [last]) hnul []

/-! ## The search is right where the components that are reached are directories -/

section Search

variable {regularFileExists : List Byte → Bool} {application simpleFn path : List Byte}

theorem firstFile_cons_has {dir : List Byte} (h : Has regularFileExists application simpleFn dir)
    (components : List (List Byte)) : firstFile regularFileExists application simpleFn (dir :: components) =
      some (fqfn application simpleFn (lessSlash dir)) := by
  rw [firstFile, filter_cons_of_pos (by simpa using h.1), map_cons, find?_cons_of_pos h.2]

theorem firstFile_cons_not {dir : List Byte} (h : ¬ Has regularFileExists application simpleFn dir)
    (components : List (List Byte)) : firstFile regularFileExists application simpleFn (dir :: components) =
      firstFile regularFileExists application simpleFn components := by
  unfold firstFile
  by_cases hne : dir = []
  · rw [filter_cons_of_neg (by simpa using hne)]
  · rw [filter_cons_of_pos (by simpa using hne), map_cons, find?_cons_of_neg fun hex => h ⟨hne, hex⟩]

theorem Reaches.head {has : List Byte → Prop} {dir : List Byte} {rest : List (List Byte)} (h : Reaches has (dir :: rest)) :
    dir ≠ [] ∧ (dir.length : Int) < intMax := h [] dir rest rfl fun _ hd => absurd hd not_mem_nil

theorem Reaches.tail {has : List Byte → Prop} {dir : List Byte} {rest : List (List Byte)} (h : Reaches has (dir :: rest))
    (hnot : ¬ has dir) : Reaches has rest := by
  intro pre d post heq hpre
  refine h (dir :: pre) d post (by rw [heq, cons_append]) fun d' hd' => ?_
  rcases mem_cons.1 hd' with rfl | hd'
  · exact hnot
  · exact hpre d' hd'

theorem Reaches.cons {has : List Byte → Prop} {dir : List Byte} {rest : List (List Byte)}
    (hhead : dir ≠ [] ∧ (dir.length : Int) < intMax) (htail : ¬ has dir → Reaches has rest) : Reaches has (dir :: rest) := by
  intro pre d post heq hpre
  cases pre with
  | nil =>
    obtain ⟨rfl, -⟩ := List.cons.inj heq
    exact hhead
  | cons d' pre =>
    obtain ⟨rfl, hrest⟩ := List.cons.inj heq
    exact htail (hpre dir mem_cons_self) pre d post hrest fun d' hd' => hpre d' (mem_cons_of_mem dir hd')

theorem dirsIterNext_eq {state : IterState} (hstart : state.iterStart < path.length) (hend : state.iterEnd = path.length)
    {dir : List Byte} {rest : List (List Byte)} (hlines : lines colon (path.drop state.iterStart) = dir :: rest)
    (hlen : (dir.length : Int) < intMax) :
    dirsIterNext path state = .ok (some dir, ⟨state.iterStart + dir.length + 1, state.iterEnd⟩) ∧
      lines colon (path.drop (state.iterStart + dir.length + 1)) = rest := by
  have hne : path.drop state.iterStart ≠ [] := fun h => absurd (drop_eq_nil_iff.1 h) (by omega)
  rw [lines_eq_cons hne] at hlines
  obtain ⟨hdir, hrest⟩ := List.cons.inj hlines
  have hmin : intMin = -2147483648 := by decide
  constructor
  · unfold dirsIterNext
    dsimp only
    rw [if_neg (by omega), hdir, int32_length (Int.le_of_lt hlen), intResult_pos ⟨by omega, by omega⟩, ok_bind,
      if_neg (by omega), Int.toNat_natCast, take_length]
  · rw [hdir, drop_drop] at hrest
    congr 2

theorem exists_lines_cons {text : List Byte} (h : text ≠ []) :
    ∃ dir rest, lines colon text = dir :: rest ∧ text.takeWhile (· ≠ colon) = dir :=
  ⟨_, _, lines_eq_cons h, rfl⟩

theorem lines_drop_nil {n : Nat} (h : path.length ≤ n) : lines colon (path.drop n) = [] := by
  rw [drop_eq_nil_iff.2 h]; rfl

/-- **The loop finds the file in the first directory that has it**, where the components it reaches are directories. -/
theorem findLoop_eq (hnul : ∀ c ∈ path, c ≠ 0) : ∀ {fuel : Nat} {state : IterState}, state.iterEnd = path.length →
    0 < fuel → path.length < state.iterStart + fuel →
    Reaches (Has regularFileExists application simpleFn) (lines colon (path.drop state.iterStart)) →
    findLoop regularFileExists application simpleFn path fuel state =
      .ok (firstFile regularFileExists application simpleFn (lines colon (path.drop state.iterStart))) := by
  intro fuel
  induction fuel with
  | zero => exact fun _ hpos => absurd hpos (Nat.lt_irrefl 0)
  | succ fuel ih =>
    intro state hend _ hfuel hreach
    by_cases hdone : path.length ≤ state.iterStart
    · have hnext : dirsIterNext path state = .ok (none, state) := if_pos (by omega)
      rw [findLoop, hnext, ok_bind, lines_drop_nil hdone]; rfl
    · have hne : path.drop state.iterStart ≠ [] := fun h => hdone (drop_eq_nil_iff.1 h)
      obtain ⟨dir, rest, hlines, hdir⟩ := exists_lines_cons hne
      rw [hlines] at hreach ⊢
      obtain ⟨hdirne, hlen⟩ := hreach.head
      obtain ⟨hnext, hrest⟩ := dirsIterNext_eq (by omega) hend hlines hlen
      have hdirnul : ∀ c ∈ dir, c ≠ 0 := by
        intro c hc
        rw [← hdir] at hc; exact hnul c (mem_of_mem_drop ((takeWhile_sublist _).mem hc))
      rw [findLoop, hnext, ok_bind]
      dsimp only
      rw [withoutSlash_eq hdirne hdirnul hlen, ok_bind]
      by_cases hhas : regularFileExists (fqfn application simpleFn (lessSlash dir)) = true
      · rw [if_pos hhas, firstFile_cons_has ⟨hdirne, hhas⟩]
      · have hnot : ¬ Has regularFileExists application simpleFn dir := fun h => hhas h.2
        rw [if_neg hhas, firstFile_cons_not hnot, ← hrest]
        exact ih hend (by omega) (by dsimp only; omega) (by rw [hrest]; exact hreach.tail hnot)

theorem dir_of_ok {dir : List Byte} {state state' : IterState} {found : List Byte} {trimmed : List Byte}
    (hdir : (path.drop state.iterStart).takeWhile (· ≠ colon) = dir) (hshort : dir.length < 4294967296)
    (hlt : state.iterStart < state.iterEnd) (hnext : dirsIterNext path state = .ok (some found, state'))
    (htrim : withoutSlash found = .ok trimmed) : dir ≠ [] ∧ (dir.length : Int) < intMax := by
  rw [dirsIterNext, if_neg (by omega), hdir] at hnext
  obtain ⟨size, hsize, hnext⟩ := bind_eq_ok.1 hnext
  obtain ⟨hint, -⟩ := intResult_eq_ok.1 hsize
  by_cases hneg : int32 dir.length < 0
  · rw [if_pos hneg] at hnext; cases hnext
  · rw [if_neg hneg] at hnext
    obtain rfl := Option.some.inj (Prod.mk.inj (Except.ok.inj hnext)).1
    have hlen : int32 dir.length = dir.length := by
      by_cases hle : (dir.length : Int) ≤ intMax
      · exact int32_length hle
      · exact absurd (int32_wraps (Int.not_le.1 hle) hshort) hneg
    constructor
    · intro hnil
      rw [hnil] at htrim; cases htrim
    · have := hint.2
      omega

theorem reaches_of_ok (hnul : ∀ c ∈ path, c ≠ 0) {found : Option (List Byte)} : ∀ {fuel : Nat} {state : IterState}, state.iterEnd = path.length →
    (∀ dir ∈ lines colon (path.drop state.iterStart), dir.length < 4294967296) →
    findLoop regularFileExists application simpleFn path fuel state = .ok found →
    Reaches (Has regularFileExists application simpleFn) (lines colon (path.drop state.iterStart)) := by
  intro fuel
  induction fuel with
  | zero =>
    intro state _ _ h; cases h
  | succ fuel ih =>
    intro state hend hshort h
    by_cases hdone : path.length ≤ state.iterStart
    · rw [lines_drop_nil hdone]
      intro pre dir post heq _
      exact absurd heq.symm (append_ne_nil_of_right_ne_nil _ (cons_ne_nil _ _))
    · have hne : path.drop state.iterStart ≠ [] := fun h => hdone (drop_eq_nil_iff.1 h)
      obtain ⟨dir, rest, hlines, hdir⟩ := exists_lines_cons hne
      obtain ⟨⟨nextDir, state'⟩, hnext, hturn⟩ := bind_eq_ok.1 h
      cases nextDir with
      | none =>
        rw [dirsIterNext, if_neg (by omega)] at hnext
        obtain ⟨_, -, hnext⟩ := bind_eq_ok.1 hnext
        split at hnext <;> cases hnext
      | some nextDir =>
        obtain ⟨trimmed, htrim, hrun⟩ := bind_eq_ok.1 hturn
        rw [hlines] at hshort ⊢
        obtain ⟨hdirne, hlen⟩ := dir_of_ok hdir (hshort dir mem_cons_self) (by omega) hnext htrim
        refine Reaches.cons ⟨hdirne, hlen⟩ fun hnot => ?_
        have hdirnul : ∀ c ∈ dir, c ≠ 0 := by
          intro c hc
          rw [← hdir] at hc; exact hnul c (mem_of_mem_drop ((takeWhile_sublist _).mem hc))
        obtain ⟨hnext', hrest⟩ := dirsIterNext_eq (by omega) hend hlines hlen
        rw [hnext'] at hnext
        cases hnext
        rw [withoutSlash_eq hdirne hdirnul hlen] at htrim
        cases htrim
        rw [if_neg fun hex => hnot ⟨hdirne, hex⟩] at hrun
        rw [← hrest]
        refine @ih ⟨state.iterStart + dir.length + 1, state.iterEnd⟩ hend (fun dir' hdir' => hshort dir' (mem_cons_of_mem dir ?_)) hrun
        rw [← hrest]; exact hdir'

theorem findXdgPathFile_right (hnul : ∀ c ∈ path, c ≠ 0) :
    (Reaches (Has regularFileExists application simpleFn) (lines colon path) →
      findXdgPathFile regularFileExists path application simpleFn =
        .ok (firstFile regularFileExists application simpleFn (lines colon path))) ∧
    ((∀ dir ∈ lines colon path, dir.length < 4294967296) →
      findXdgPathFile regularFileExists path application simpleFn =
        .ok (firstFile regularFileExists application simpleFn (lines colon path)) →
      Reaches (Has regularFileExists application simpleFn) (lines colon path)) :=
  ⟨fun hreach => findLoop_eq hnul rfl (Nat.succ_pos _) (by omega) hreach,
    fun hshort h => @reaches_of_ok _ _ _ path hnul _ _ (dirsIterInit path) rfl hshort h⟩

end Search

/-! ## The two searches -/

theorem ascii_ne_zero {s : String} (h : (ascii s).all (· != 0) = true) : ∀ c ∈ ascii s, c ≠ 0 := noNul_of_all h

theorem joinedPath_ne_zero {env : Env} {name sub dirsName defaultDirs : List Byte} (hsub : ∀ c ∈ sub, c ≠ 0)
    (hdefault : ∀ c ∈ defaultDirs, c ≠ 0) :
    ∀ c ∈ joinedPath (homeDir env name sub) (dirs env dirsName defaultDirs), c ≠ 0 := by
  have hslash : slash ≠ 0 := by decide
  have hdirs : ∀ c ∈ dirs env dirsName defaultDirs, c ≠ 0 := by
    unfold dirs
    split
    · rename_i v _; exact v.property
    · exact hdefault
  have hhome : ∀ home, homeDir env name sub = some home → ∀ c ∈ home, c ≠ 0 := by
    intro home h c hc
    unfold homeDir at h
    split at h
    · rename_i v _
      cases h
      split at hc
      · exact v.property c hc
      · rcases mem_append.1 hc with hc | hc
        · exact v.property c hc
        · rw [mem_singleton.1 hc]; exact hslash
    · split at h
      · rename_i v _
        cases h
        simp only [mem_append, mem_singleton] at hc
        rcases hc with ((hc | rfl) | hc) | rfl
        · exact v.property c hc
        · exact hslash
        · exact hsub c hc
        · exact hslash
      · cases h
  unfold joinedPath
  split
  · rename_i home h
    intro c hc
    rcases mem_append.1 hc with hc | hc
    · exact hhome home h c hc
    · rcases mem_cons.1 hc with rfl | hc
      · decide
      · exact hdirs c hc
  · exact hdirs

def Right (regularFileExists : List Byte → Bool) (application simpleFn : List Byte) (components : List (List Byte))
    (outcome : Exec (Option (List Byte))) : Prop :=
  outcome = .ok (firstFile regularFileExists application simpleFn components)

def Short (components : List (List Byte)) : Prop := ∀ dir ∈ components, dir.length < 4294967296

/-- **The searches are right where each component that they reach is a directory**, and among components of lengths below
2^32 nowhere else. -/
theorem findXdgFile_right (env : Env) (regularFileExists : List Byte → Bool) (application simpleFn : List Byte) :
    ((Reaches (Has regularFileExists application simpleFn) (directories (dataHomeDir env) (dataDirs env)) →
        Right regularFileExists application simpleFn (directories (dataHomeDir env) (dataDirs env))
          (findXdgDataFile env regularFileExists application simpleFn)) ∧
      (Reaches (Has regularFileExists application simpleFn) (directories (configHomeDir env) (configDirs env)) →
        Right regularFileExists application simpleFn (directories (configHomeDir env) (configDirs env))
          (findXdgConfigFile env regularFileExists application simpleFn))) ∧
    (Short (directories (dataHomeDir env) (dataDirs env)) →
      Right regularFileExists application simpleFn (directories (dataHomeDir env) (dataDirs env))
        (findXdgDataFile env regularFileExists application simpleFn) →
      Reaches (Has regularFileExists application simpleFn) (directories (dataHomeDir env) (dataDirs env))) ∧
    (Short (directories (configHomeDir env) (configDirs env)) →
      Right regularFileExists application simpleFn (directories (configHomeDir env) (configDirs env))
        (findXdgConfigFile env regularFileExists application simpleFn) →
      Reaches (Has regularFileExists application simpleFn) (directories (configHomeDir env) (configDirs env))) := by
  have hdata := @findXdgPathFile_right regularFileExists application simpleFn (dataPath env)
    (joinedPath_ne_zero (ascii_ne_zero (by decide)) (ascii_ne_zero (by decide)))
  have hconfig := @findXdgPathFile_right regularFileExists application simpleFn (configPath env)
    (joinedPath_ne_zero (ascii_ne_zero (by decide)) (ascii_ne_zero (by decide)))
  have hdataLines : lines colon (dataPath env) = directories (dataHomeDir env) (dataDirs env) := lines_joinedPath _
  have hconfigLines : lines colon (configPath env) = directories (configHomeDir env) (configDirs env) :=
    lines_joinedPath _
  rw [hdataLines] at hdata
  rw [hconfigLines] at hconfig; exact ⟨⟨hdata.1, hconfig.1⟩, hdata.2, hconfig.2⟩

def emptyComponents : Env := fun name => if name = ascii "XDG_DATA_DIRS" then some ⟨[colon], noNul_of_all rfl⟩ else none

/-- The character in front of an empty component is looked at, and taken for the last of it. -/
theorem emptyComponent_not_right : ¬ Right (fun _ => false) (ascii "ddcutil") (ascii "ddcutilrc")
    (directories (dataHomeDir emptyComponents) (dataDirs emptyComponents))
    (findXdgDataFile emptyComponents (fun _ => false) (ascii "ddcutil") (ascii "ddcutilrc")) := by
  have hpath : dataPath emptyComponents = [colon] := by decide
  have hnext := (@dirsIterNext_eq [colon] ⟨0, 1⟩ Nat.zero_lt_one rfl [] [] rfl (by decide)).1
  have hfault : findXdgPathFile (fun _ => false) [colon] (ascii "ddcutil") (ascii "ddcutilrc") = .error .outOfBounds := by
    change findLoop _ _ _ [colon] 2 ⟨0, 1⟩ = _
    rw [findLoop, hnext, ok_bind]; rfl
  intro h
  unfold Right findXdgDataFile at h
  rw [hpath, hfault] at h; cases h

end Ddc.Xdg
