import Ddcutil.CapabilitiesCacheRuns
import Ddcutil.Kit.Mutex
/-!
# CapabilitiesThreads — the capabilities cache under its mutex

`get_persistent_capabilities` unlocks the mutex for a model key that is not unique although it has not locked it, and
`set_persistent_capabilites` inserts into a table that only `get_persistent_capabilities` makes.
-/
namespace Ddc

open Kit Function

/-- `Monitor_Model_Key` with any values, also such as no function that makes one leaves. -/
structure ModelKeyFields where
  mfgId : List Byte
  modelName : List Byte
  productCode : Nat

def MonitorModelKey.fields (mmk : MonitorModelKey) : ModelKeyFields := ⟨mmk.mfgId, mmk.modelName, mmk.productCode⟩

def ModelKeyFields.nonUnique (mmk : ModelKeyFields) : Bool :=
  genericModelName mmk.modelName && (mmk.productCode == 0 || mmk.productCode == 0x0101)

def ModelKeyFields.string (mmk : ModelKeyFields) : List Byte :=
  mmkModelIdString mmk.mfgId mmk.modelName mmk.productCode

inductive CapsOp where
  | get (mmk : ModelKeyFields)
  | set (mmk : ModelKeyFields) (capabilities : CString)
  | enable (newval : Bool)

/-- **Where a thread is**; `result` and `old` are what it will return. -/
inductive CapsPc where
  | outside
  | getTest (mmk : ModelKeyFields)
  | getNonUnique
  | getLock (mmk : ModelKeyFields)
  | getLoad (mmk : ModelKeyFields)
  | getLookup (mmk : ModelKeyFields)
  | getUnlock (result : Option (List Byte))
  | setLock (mmk : ModelKeyFields) (capabilities : CString)
  | setTest (mmk : ModelKeyFields) (capabilities : CString)
  | setInsert (mmk : ModelKeyFields) (capabilities : CString)
  | setUnlock
  | enableLock (newval : Bool)
  | enableSet (newval : Bool)
  | enableUnlock (old : Bool)

def CapsPc.holds : CapsPc → Bool
  | .getLoad _ | .getLookup _ | .getUnlock _ | .setTest _ _ | .setInsert _ _ | .setUnlock | .enableSet _
  | .enableUnlock _ => true
  | _ => false

def CapsPc.unlocks : CapsPc → Bool
  | .getNonUnique | .getUnlock _ | .setUnlock | .enableUnlock _ => true
  | _ => false

theorem CapsPc.holds_of_unlocks {pc : CapsPc} (h : pc.unlocks = true) (hunique : pc ≠ .getNonUnique) :
    pc.holds = true := by
  cases pc with
  | getNonUnique => exact absurd rfl hunique
  | getUnlock result | setUnlock | enableUnlock old => rfl
  | _ => cases h

def CapsPc.usesTable : CapsPc → Bool
  | .getLookup _ | .setInsert _ _ => true
  | _ => false

variable {T : Type}

/-- **The variables of the module and its threads**: `locked` and `unlocked` count what a thread did to the mutex in its
latest call, and `loads` the look-ups that have gone past the loading. -/
structure CapsThreads (T : Type) where
  process : CapsProcess
  file : Option (List Byte)
  mutex : Option T
  pc : T → CapsPc
  locked : T → Nat
  unlocked : T → Nat
  loads : Nat

def CapsThreads.start (capabilitiesCacheEnabled : Bool) (file : Option (List Byte)) : CapsThreads T where
  process := newProcess capabilitiesCacheEnabled
  file := file
  mutex := none
  pc := fun _ => .outside
  locked := fun _ => 0
  unlocked := fun _ => 0
  loads := 0

/-! ## Steps -/

inductive CapsEvent (T : Type) where
  | call (t : T) (op : CapsOp)
  | go (t : T)
  | changeFile (file : Option (List Byte))

def loadCapabilities (dataFileName : Option (List Byte)) (capabilitiesCacheEnabled : Bool) (file : Option (List Byte)) :
    CapsTable × Option ErrorInfo × Option (List Byte) :=
  match dataFileName with
  | some fn => loadPersistentCapabilitiesFile fn capabilitiesCacheEnabled file
  | none =>
    (∅, if capabilitiesCacheEnabled then some ⟨-eNoent, "load_persistent_capabilities_file",
      some "Unable to determine capabilities cache file name", []⟩ else none, file)

def CapsThreads.load (s : CapsThreads T) (dataFileName : Option (List Byte)) : CapsThreads T :=
  match s.process.capabilitiesHash with
  | some _ => s
  | none =>
    let loaded := loadCapabilities dataFileName s.process.capabilitiesCacheEnabled s.file
    { s with process := ⟨s.process.capabilitiesCacheEnabled, some loaded.1⟩, file := loaded.2.2 }

def savedFile (dataFileName : Option (List Byte)) (order : HashOrder) (hash : Option CapsTable)
    (file : Option (List Byte)) : Option (List Byte) :=
  match dataFileName with
  | some _ => some (capsText order hash)
  | none => file

/-- Inserting into a table that does not exist does nothing; the file is saved all the same. -/
def CapsThreads.insert (s : CapsThreads T) (dataFileName : Option (List Byte)) (order : HashOrder)
    (mmk : ModelKeyFields) (capabilities : CString) : CapsThreads T :=
  { s with
    process := { s.process with capabilitiesHash :=
      s.process.capabilitiesHash.map fun table => table.insert mmk.string capabilities.val },
    file := savedFile dataFileName order
      (s.process.capabilitiesHash.map fun table => table.insert mmk.string capabilities.val) s.file }

section
variable (s : CapsThreads T) (dataFileName : Option (List Byte))

theorem isSome_load : (s.load dataFileName).process.capabilitiesHash.isSome = true := by
  unfold CapsThreads.load
  cases h : s.process.capabilitiesHash with
  | none => rfl
  | some table =>
    rw [h]; rfl

theorem load_eq :
    s.load dataFileName =
      { s with process := (s.load dataFileName).process, file := (s.load dataFileName).file } := by
  unfold CapsThreads.load
  cases s.process.capabilitiesHash with
  | none | some table => rfl

end

section Steps

variable [DecidableEq T]

def CapsThreads.at (s : CapsThreads T) (t : T) (pc : CapsPc) : CapsThreads T :=
  { s with pc := update s.pc t pc }

def CapsThreads.lock (s : CapsThreads T) (t : T) (pc : CapsPc) : CapsThreads T :=
  if s.mutex = none then
    { s.at t pc with mutex := some t, locked := update s.locked t (s.locked t + 1) }
  else s

def CapsThreads.unlock (s : CapsThreads T) (t : T) : CapsThreads T :=
  { s.at t .outside with mutex := none, unlocked := update s.unlocked t (s.unlocked t + 1) }

def capsGo (dataFileName : Option (List Byte)) (order : HashOrder) (s : CapsThreads T) (t : T) :
    CapsPc → Exec (CapsThreads T)
  | .outside => .ok s
  -- get_persistent_capabilities
  | .getTest mmk =>
    .ok (s.at t (if s.process.capabilitiesCacheEnabled = true then
      if mmk.nonUnique = true then .getNonUnique else .getLock mmk
    else .outside))
  | .getNonUnique => .ok (s.unlock t)
  | .getLock mmk => .ok (s.lock t (.getLoad mmk))
  | .getLoad mmk => .ok { (s.load dataFileName).at t (.getLookup mmk) with loads := s.loads + 1 }
  | .getLookup mmk =>
    match s.process.capabilitiesHash with
    | some table => .ok (s.at t (.getUnlock (table.lookup mmk.string)))
    | none => .error .assertFailed
  | .getUnlock _ => .ok (s.unlock t)
  -- set_persistent_capabilites
  | .setLock mmk capabilities => .ok (s.lock t (.setTest mmk capabilities))
  | .setTest mmk capabilities =>
    .ok (s.at t (if s.process.capabilitiesCacheEnabled = true ∧ mmk.nonUnique = false then
      .setInsert mmk capabilities else .setUnlock))
  | .setInsert mmk capabilities => .ok ((s.insert dataFileName order mmk capabilities).at t .setUnlock)
  | .setUnlock => .ok (s.unlock t)
  -- enable_capabilities_cache
  | .enableLock newval => .ok (s.lock t (.enableSet newval))
  | .enableSet newval =>
    .ok { s.at t (.enableUnlock s.process.capabilitiesCacheEnabled) with
      process := { s.process with capabilitiesCacheEnabled := newval } }
  | .enableUnlock _ => .ok (s.unlock t)

def CapsOp.entry : CapsOp → CapsPc
  | .get mmk => .getTest mmk
  | .set mmk capabilities => .setLock mmk capabilities
  | .enable newval => .enableLock newval

def CapsThreads.enter (s : CapsThreads T) (t : T) (op : CapsOp) : CapsThreads T :=
  match s.pc t with
  | .outside =>
    { s.at t op.entry with locked := update s.locked t 0, unlocked := update s.unlocked t 0 }
  | _ => s

def capsThreadsStep (dataFileName : Option (List Byte)) (order : HashOrder) (s : CapsThreads T) :
    CapsEvent T → Exec (CapsThreads T)
  | .call t op => .ok (s.enter t op)
  | .go t => capsGo dataFileName order s t (s.pc t)
  | .changeFile file => .ok { s with file := file }

end Steps

/-- **What is asked of a step**: no assertion fails, the mutex is unlocked by the thread that holds it and that has
locked it once more often than unlocked it, the table that is used exists, and a thread that is back from a call has
unlocked the mutex as often as locked it. -/
structure CapsStepRight [DecidableEq T] (dataFileName : Option (List Byte)) (order : HashOrder) (s : CapsThreads T)
    (e : CapsEvent T) : Prop where
  returns : ∃ s', capsThreadsStep dataFileName order s e = .ok s'
  unlocks : ∀ t, e = .go t → (s.pc t).unlocks = true → s.mutex = some t ∧ s.locked t = s.unlocked t + 1
  usesTable : ∀ t, e = .go t → (s.pc t).usesTable = true → s.process.capabilitiesHash.isSome = true
  balanced : ∀ s', capsThreadsStep dataFileName order s e = .ok s' → ∀ t, s'.pc t = .outside →
    s'.locked t = s'.unlocked t

/-- **The steps that go well**: no look-up of a key that is not unique found the cache enabled, and a string is inserted
only after some look-up has loaded the file. -/
structure CapsStepMeets (s : CapsThreads T) (e : CapsEvent T) : Prop where
  unique : ∀ t, e = .go t → s.pc t ≠ .getNonUnique
  afterLoad : ∀ t mmk capabilities, e = .go t → s.pc t = .setInsert mmk capabilities → 0 < s.loads

/-! ## The invariant -/

/-- **What every run keeps**: the mutex guards, each thread has locked it once more often than unlocked it while it
holds it, and the table exists from the first load on. -/
structure CapsInv (s : CapsThreads T) : Prop where
  guarded : Guarded s.mutex fun t => (s.pc t).holds = true
  counts : ∀ t, s.locked t = s.unlocked t + (s.pc t).holds.toNat
  made : s.process.capabilitiesHash.isSome = true ↔ 0 < s.loads
  looked : ∀ t mmk, s.pc t = .getLookup mmk → s.process.capabilitiesHash.isSome = true

structure CapsMove (s : CapsThreads T) (t : T) (s' : CapsThreads T) : Prop where
  others : ∀ u, u ≠ t → s'.pc u = s.pc u ∧ s'.locked u = s.locked u ∧ s'.unlocked u = s.unlocked u
  mutex : MutexStep t s.mutex ((s.pc t).holds = true) s'.mutex ((s'.pc t).holds = true)
  count : s'.locked t = s'.unlocked t + (s'.pc t).holds.toNat
  kept : s.process.capabilitiesHash.isSome = true → s'.process.capabilitiesHash.isSome = true
  made : s'.process.capabilitiesHash.isSome = true ↔ 0 < s'.loads
  looked : ∀ mmk, s'.pc t = .getLookup mmk → s'.process.capabilitiesHash.isSome = true

theorem CapsInv.move {s s' : CapsThreads T} {t : T} (h : CapsInv s) (hmove : CapsMove s t s') : CapsInv s' where
  guarded := by
    refine h.guarded.step (fun u hu hin => ?_) hmove.mutex
    rwa [(hmove.others u hu).1] at hin
  counts := by
    intro u
    by_cases hu : u = t
    · rw [hu]; exact hmove.count
    · obtain ⟨hpc, hlocked, hunlocked⟩ := hmove.others u hu
      rw [hpc, hlocked, hunlocked]; exact h.counts u
  made := hmove.made
  looked := by
    intro u mmk hpc
    by_cases hu : u = t
    · subst hu; exact hmove.looked mmk hpc
    · rw [(hmove.others u hu).1] at hpc; exact hmove.kept (h.looked u mmk hpc)

theorem capsInv_start (capabilitiesCacheEnabled : Bool) (file : Option (List Byte)) :
    CapsInv (CapsThreads.start capabilitiesCacheEnabled file : CapsThreads T) where
  guarded := fun _ h => absurd h Bool.false_ne_true
  counts := fun _ => rfl
  made := iff_of_false Bool.false_ne_true (Nat.lt_irrefl 0)
  looked := fun _ _ h => CapsPc.noConfusion h

section Moves

variable [DecidableEq T] {s : CapsThreads T} {t : T} {pc pc' : CapsPc}

@[simp] theorem CapsThreads.pc_at_self : (s.at t pc).pc t = pc := by
  exact update_self t pc s.pc

theorem CapsThreads.pc_at_of_ne {u : T} (h : u ≠ t) : (s.at t pc).pc u = s.pc u := by
  exact update_of_ne h pc s.pc

section
variable (h : CapsInv s) (hpc : s.pc t = pc)
include h hpc

theorem CapsInv.goes (pc' : CapsPc) (hholds : pc'.holds = pc.holds)
    {process : CapsProcess} (file : Option (List Byte)) {loads : Nat}
    (hkept : s.process.capabilitiesHash.isSome = true → process.capabilitiesHash.isSome = true)
    (hmade : process.capabilitiesHash.isSome = true ↔ 0 < loads)
    (hlooked : ∀ mmk, pc' = .getLookup mmk → process.capabilitiesHash.isSome = true) :
    CapsInv { s.at t pc' with process := process, file := file, loads := loads } := by
  have hself : (s.at t pc').pc t = pc' := CapsThreads.pc_at_self
  refine h.move (t := t) ⟨fun u hu => ⟨CapsThreads.pc_at_of_ne hu, rfl, rfl⟩, ?_, ?_, hkept, hmade, ?_⟩
  · rw [hself, hpc, hholds]; exact .keep id
  · rw [hself, hholds, ← hpc]; exact h.counts t
  · intro mmk hlook; exact hlooked mmk (hself.symm.trans hlook)

theorem CapsInv.at (hholds : pc'.holds = pc.holds) (hlooked : ∀ mmk, pc' ≠ .getLookup mmk) : CapsInv (s.at t pc') :=
  h.goes hpc pc' hholds s.file id h.made fun mmk hmmk => absurd hmmk (hlooked mmk)

theorem CapsInv.lock (hout : pc.holds = false) (hin : pc'.holds = true) (hlooked : ∀ mmk, pc' ≠ .getLookup mmk) :
    CapsInv (s.lock t pc') := by
  unfold CapsThreads.lock
  split
  · rename_i hfree
    have hself : (s.at t pc').pc t = pc' := CapsThreads.pc_at_self
    refine h.move (t := t) ⟨?_, ?_, ?_, id, h.made, ?_⟩
    · exact fun u hu => ⟨CapsThreads.pc_at_of_ne hu, update_of_ne hu _ _, rfl⟩
    · rw [hfree]; exact .lock
    · show update s.locked t (s.locked t + 1) t = s.unlocked t + ((s.at t pc').pc t).holds.toNat
      rw [update_self, hself, hin, h.counts, hpc, hout]; rfl
    · exact fun mmk hlook => absurd (hself.symm.trans hlook) (hlooked mmk)
  · exact h

end

theorem CapsInv.unlock (h : CapsInv s) (hin : (s.pc t).holds = true) : CapsInv (s.unlock t) := by
  have hself : (s.at t .outside).pc t = .outside := CapsThreads.pc_at_self
  refine h.move (t := t) ⟨?_, ?_, ?_, id, h.made, ?_⟩
  · exact fun u hu => ⟨CapsThreads.pc_at_of_ne hu, rfl, update_of_ne hu _ _⟩
  · refine .unlock hin ?_
    show ¬ ((s.at t .outside).pc t).holds = true
    rw [hself]; exact Bool.false_ne_true
  · show s.locked t = update s.unlocked t (s.unlocked t + 1) t + ((s.at t .outside).pc t).holds.toNat
    rw [update_self, hself, h.counts, hin]; rfl
  · exact fun mmk hlook => absurd (hself.symm.trans hlook) CapsPc.noConfusion

theorem CapsInv.enter (h : CapsInv s) (op : CapsOp) : CapsInv (s.enter t op) := by
  unfold CapsThreads.enter
  split
  · have hself : (s.at t op.entry).pc t = op.entry := CapsThreads.pc_at_self
    have hholds : op.entry.holds = false := by cases op <;> rfl
    refine h.move (t := t) ⟨?_, ?_, ?_, id, h.made, ?_⟩
    · exact fun u hu => ⟨CapsThreads.pc_at_of_ne hu, update_of_ne hu _ _, update_of_ne hu _ _⟩
    · rw [hself, hholds]; exact .keep fun hfalse => absurd hfalse Bool.false_ne_true
    · show update s.locked t 0 t = update s.unlocked t 0 t + ((s.at t op.entry).pc t).holds.toNat
      rw [update_self, update_self, hself, hholds]; rfl
    · intro mmk hlook
      rw [show _ = op.entry from hself] at hlook
      cases op <;> cases hlook
  · exact h

end Moves

/-! ## Runs -/

section Runs

variable [DecidableEq T] {dataFileName : Option (List Byte)} {order : HashOrder} {s : CapsThreads T}

theorem CapsInv.go (h : CapsInv s) {t : T} {pc : CapsPc} (hpc : s.pc t = pc) (hunique : pc ≠ .getNonUnique) :
    ∃ s', capsGo dataFileName order s t pc = .ok s' ∧ CapsInv s' := by
  cases pc with
  | outside => exact ⟨s, rfl, h⟩
  | getTest mmk =>
    refine ⟨_, rfl, h.at hpc ?_ ?_⟩
    · split
      · split <;> rfl
      · rfl
    · intro mmk'
      split
      · split <;> exact CapsPc.noConfusion
      · exact CapsPc.noConfusion
  | getNonUnique => exact absurd rfl hunique
  | getLock mmk => exact ⟨_, rfl, h.lock hpc rfl rfl fun _ => CapsPc.noConfusion⟩
  | getLoad mmk =>
    refine ⟨_, rfl, ?_⟩
    have hmade := isSome_load s dataFileName
    have hloaded := h.goes hpc (.getLookup mmk) rfl (s.load dataFileName).file (fun _ => hmade)
      (iff_of_true hmade (Nat.succ_pos s.loads)) fun _ _ => hmade
    rw [load_eq]; exact hloaded
  | getLookup mmk =>
    obtain ⟨table, htable⟩ := Option.isSome_iff_exists.1 (h.looked t mmk hpc)
    rw [capsGo, htable]; exact ⟨_, rfl, h.at hpc rfl fun _ => CapsPc.noConfusion⟩
  | getUnlock result => exact ⟨_, rfl, h.unlock (by rw [hpc]; rfl)⟩
  | setLock mmk capabilities => exact ⟨_, rfl, h.lock hpc rfl rfl fun _ => CapsPc.noConfusion⟩
  | setTest mmk capabilities =>
    refine ⟨_, rfl, h.at hpc ?_ ?_⟩
    · split <;> rfl
    · intro mmk'
      split <;> exact CapsPc.noConfusion
  | setInsert mmk capabilities =>
    refine ⟨_, rfl, ?_⟩
    have hsame : (s.process.capabilitiesHash.map fun table => table.insert mmk.string capabilities.val).isSome =
        s.process.capabilitiesHash.isSome := Option.isSome_map
    refine h.goes hpc .setUnlock rfl _ (fun hmade => hsame.trans hmade) ?_ fun _ => CapsPc.noConfusion
    refine Iff.trans ?_ h.made
    exact Eq.congr_left hsame
  | setUnlock => exact ⟨_, rfl, h.unlock (by rw [hpc]; rfl)⟩
  | enableLock newval => exact ⟨_, rfl, h.lock hpc rfl rfl fun _ => CapsPc.noConfusion⟩
  | enableSet newval =>
    exact ⟨_, rfl, h.goes hpc (.enableUnlock s.process.capabilitiesCacheEnabled) rfl s.file id h.made
      fun _ => CapsPc.noConfusion⟩
  | enableUnlock old => exact ⟨_, rfl, h.unlock (by rw [hpc]; rfl)⟩

theorem CapsInv.step (h : CapsInv s) (dataFileName : Option (List Byte)) (order : HashOrder) {e : CapsEvent T}
    (hmeets : CapsStepMeets s e) : ∃ s', capsThreadsStep dataFileName order s e = .ok s' ∧ CapsInv s' := by
  cases e with
  | call t op => exact ⟨_, rfl, h.enter op⟩
  | go t => exact h.go rfl (hmeets.unique t rfl)
  | changeFile file => exact ⟨_, rfl, h.guarded, h.counts, h.made, h.looked⟩

theorem CapsInv.right (h : CapsInv s) {e : CapsEvent T} (hmeets : CapsStepMeets s e) :
    CapsStepRight dataFileName order s e := by
  obtain ⟨s', hs', hinv⟩ := h.step dataFileName order hmeets
  refine ⟨⟨s', hs'⟩, ?_, ?_, ?_⟩
  · intro t he hunlocks
    have hholds : (s.pc t).holds = true := CapsPc.holds_of_unlocks hunlocks (hmeets.unique t he)
    refine ⟨h.guarded t hholds, ?_⟩
    rw [h.counts, hholds]; rfl
  · intro t he huses
    cases hpc : s.pc t with
    | getLookup mmk => exact h.looked t mmk hpc
    | setInsert mmk capabilities => exact h.made.2 (hmeets.afterLoad t mmk capabilities he hpc)
    | _ =>
      rw [hpc] at huses; cases huses
  · intro s'' hs'' t hout
    rw [hs'] at hs''
    cases hs''
    rw [hinv.counts, hout]; rfl

theorem CapsInv.meets (h : CapsInv s) {e : CapsEvent T} (hright : CapsStepRight dataFileName order s e) :
    CapsStepMeets s e where
  unique := by
    intro t he hpc
    have hcounts := h.counts t
    rw [(hright.unlocks t he (by rw [hpc]; rfl)).2, hpc] at hcounts
    exact absurd hcounts (Nat.succ_ne_self (s.unlocked t))
  afterLoad := by
    intro t mmk capabilities he hpc; exact h.made.1 (hright.usesTable t he (by rw [hpc]; rfl))

end Runs

/-- **In every interleaving the mutex and the table are used right in every step exactly where each step goes well.** -/
theorem capabilitiesThreads_right_iff [DecidableEq T] (dataFileName : Option (List Byte)) (order : HashOrder)
    (capabilitiesCacheEnabled : Bool) (file : Option (List Byte)) (l : List (CapsEvent T)) :
    AllAlong (capsThreadsStep dataFileName order) (CapsStepRight dataFileName order)
        (CapsThreads.start capabilitiesCacheEnabled file) l ↔
      AllAlong (capsThreadsStep dataFileName order) CapsStepMeets (CapsThreads.start capabilitiesCacheEnabled file)
        l := by
  refine AllAlong.congr_of_returns (fun s e (hinv : CapsInv s) => ⟨hinv.meets, hinv.right⟩) ?_
    (capsInv_start capabilitiesCacheEnabled file)
  exact fun s e hinv hmeets => hinv.step dataFileName order hmeets

def genericMonitor : ModelKeyFields := ⟨ascii "GSM", ascii "LG UltraFine", 0⟩

/-- A string stored before any look-up goes into a table that does not exist, and a look-up for a key with a generic
name unlocks a mutex that nobody has locked. -/
theorem storedFirst_not_right :
    ¬ AllAlong (capsThreadsStep (some (ascii "capabilities")) entryOrder)
        (CapsStepRight (some (ascii "capabilities")) entryOrder) (CapsThreads.start true none : CapsThreads Unit)
        [.call () (.set sampleMonitor.fields sampleCapabilities), .go (), .go (), .go ()] ∧
      ¬ AllAlong (capsThreadsStep (some (ascii "capabilities")) entryOrder)
        (CapsStepRight (some (ascii "capabilities")) entryOrder) (CapsThreads.start true none : CapsThreads Unit)
        [.call () (.get genericMonitor), .go (), .go ()] := by
  constructor
  · rintro ⟨-, h⟩
    obtain ⟨-, h⟩ := h _ rfl
    obtain ⟨-, h⟩ := h _ rfl
    obtain ⟨hright, -⟩ := h _ rfl
    have hmade := hright.usesTable () rfl rfl
    cases hmade
  · rintro ⟨-, h⟩
    obtain ⟨-, h⟩ := h _ rfl
    obtain ⟨hright, -⟩ := h _ rfl
    have hheld := (hright.unlocks () rfl rfl).1
    cases hheld

end Ddc
