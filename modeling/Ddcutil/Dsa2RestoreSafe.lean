import Ddcutil.Dsa2Frame
import Ddcutil.Dsa2Restore
/-!
# Dsa2RestoreSafe — which stats files leave tables the algorithm can run on

The loop over the lines stores, for each bus, the table of its last line; a line for a bus past the array faults and an
invalid line empties all tables at the end.  What is not checked is that a step or an interval is at least 0 and 1.
-/
namespace Ddc

open Kit List Exec

/-! ## The loop over the lines -/

def readTables (formatId initialStep : Int) (body : List (List Byte)) : List ResultsTable :=
  (body.filter fun l => !statsComment l).filterMap (lineTable formatId initialStep)

def badLines (formatId initialStep : Int) (body : List (List Byte)) : List (List Byte) :=
  (body.filter fun l => !statsComment l).filter fun l => (lineTable formatId initialStep l).isNone

def Dsa2.installAll (g : Dsa2) (ts : List ResultsTable) : Dsa2 :=
  ts.foldl (fun g t => g.install t.busno (some t)) g

section Lines

variable {formatId : Int} {body : List (List Byte)} {l : List Byte} {g : Dsa2}

section
variable (initialStep : Int)

theorem readTables_comment (h : statsComment l = true) :
    readTables formatId initialStep (l :: body) = readTables formatId initialStep body := by
  unfold readTables
  rw [filter_cons_of_neg (by simpa using h)]

theorem badLines_comment (h : statsComment l = true) :
    badLines formatId initialStep (l :: body) = badLines formatId initialStep body := by
  unfold badLines
  rw [filter_cons_of_neg (by simpa using h)]

theorem readTables_cons (h : statsComment l = false) :
    readTables formatId initialStep (l :: body) =
      (lineTable formatId initialStep l).toList ++ readTables formatId initialStep body := by
  rw [readTables, filter_cons_of_pos (by simpa using h), filterMap_cons]
  cases lineTable formatId initialStep l with
  | none | some t => rfl

theorem badLines_cons (h : statsComment l = false) :
    badLines formatId initialStep (l :: body) = if lineTable formatId initialStep l =
      none then l :: badLines formatId initialStep body else badLines formatId initialStep body := by
  unfold badLines
  rw [filter_cons_of_pos (by simpa using h), filter_cons]
  simp only [Option.isNone_iff_eq_none]

end

theorem restoreLine_comment (acc : Dsa2 × List (List Byte)) (h : statsComment l = true) :
    restoreLine formatId acc l = .ok acc := if_pos h

theorem restoreLine_none {acc : Dsa2 × List (List Byte)} (h : statsComment l = false)
    (ht : lineTable formatId acc.1.initialStep l = none) :
    restoreLine formatId acc l = .ok (acc.1, statsFileError acc.2 (ascii "Invalid: " ++ l)) := by
  simp only [restoreLine, h, Bool.false_eq_true, if_false, ht]

theorem restoreLine_some {acc : Dsa2 × List (List Byte)} {t : ResultsTable} (h : statsComment l = false)
    (ht : lineTable formatId acc.1.initialStep l = some t) (hbus : t.busno ≤ i2cBusMax) :
    restoreLine formatId acc l = .ok (acc.1.install t.busno (some t), acc.2) := by
  have hlt : t.busno < acc.1.resultsTables.length := by
    rw [acc.1.length_eq]; exact Nat.lt_succ_of_le hbus
  simp only [restoreLine, h, Bool.false_eq_true, if_false, ht, store_of_lt hlt, ok_bind]

theorem restoreLine_fault {acc : Dsa2 × List (List Byte)} {t : ResultsTable} (h : statsComment l = false)
    (ht : lineTable formatId acc.1.initialStep l = some t) (hbus : i2cBusMax < t.busno) :
    restoreLine formatId acc l = .error .outOfBounds := by
  have hlt : ¬ t.busno < acc.1.resultsTables.length := by rw [acc.1.length_eq]; omega
  simp only [restoreLine, h, Bool.false_eq_true, if_false, ht, store, if_neg hlt, error_bind]

theorem foldlM_restoreLine_ok : ∀ {body : List (List Byte)} {g : Dsa2} (errs : List (List Byte)),
    (∀ t ∈ readTables formatId g.initialStep body, t.busno ≤ i2cBusMax) →
    ∃ errs', body.foldlM (restoreLine formatId) (g, errs) =
        .ok (g.installAll (readTables formatId g.initialStep body), errs') ∧
      (errs' = [] ↔ errs = [] ∧ badLines formatId g.initialStep body = [])
  | [], g, errs, _ => ⟨errs, rfl, by simp [badLines]⟩
  | l :: body, g, errs, h => by
    rw [foldlM_cons]
    by_cases hc : statsComment l = true
    · rw [readTables_comment _ hc] at h
      rw [restoreLine_comment _ hc, readTables_comment _ hc, badLines_comment _ hc]
      exact foldlM_restoreLine_ok errs h
    · have hc' : statsComment l = false := by simpa using hc
      rw [readTables_cons _ hc'] at h
      rw [readTables_cons _ hc', badLines_cons _ hc']
      cases ht : lineTable formatId g.initialStep l with
      | none =>
        rw [ht] at h
        obtain ⟨errs', hfold, hiff⟩ := foldlM_restoreLine_ok (statsFileError errs (ascii "Invalid: " ++ l)) h
        rw [restoreLine_none hc' ht]
        refine ⟨errs', hfold, ?_⟩
        rw [hiff]
        simp [statsFileError]
      | some t =>
        rw [ht] at h
        have hbus : t.busno ≤ i2cBusMax := h t (mem_append_left _ (mem_singleton_self t))
        obtain ⟨errs', hfold, hiff⟩ := foldlM_restoreLine_ok (g := g.install t.busno (some t)) errs
          fun u hu => h u (mem_append_right _ hu)
        rw [restoreLine_some hc' ht hbus]
        refine ⟨errs', hfold, ?_⟩
        rw [hiff, if_neg (Option.some_ne_none t)]; rfl

theorem foldlM_restoreLine_fault {t : ResultsTable} (hbus : i2cBusMax < t.busno) :
    ∀ {body : List (List Byte)} {g : Dsa2} (errs : List (List Byte)), t ∈ readTables formatId g.initialStep body →
    body.foldlM (restoreLine formatId) (g, errs) = .error .outOfBounds
  | l :: body, g, errs, h => by
    rw [foldlM_cons]
    by_cases hc : statsComment l = true
    · rw [readTables_comment _ hc] at h
      rw [restoreLine_comment _ hc]; exact foldlM_restoreLine_fault hbus errs h
    · have hc' : statsComment l = false := by simpa using hc
      rw [readTables_cons _ hc'] at h
      cases hu : lineTable formatId g.initialStep l with
      | none =>
        rw [hu] at h
        rw [restoreLine_none hc' hu]; exact foldlM_restoreLine_fault hbus _ h
      | some u =>
        rw [hu] at h
        by_cases hle : u.busno ≤ i2cBusMax
        · rw [restoreLine_some hc' hu hle]
          rcases mem_append.1 h with h | h
          · cases mem_singleton.1 h
            exact absurd hbus (Nat.not_lt.2 hle)
          · exact foldlM_restoreLine_fault (g := g.install u.busno (some u)) hbus errs h
        · rw [restoreLine_fault hc' hu (Nat.lt_of_not_le hle)]; rfl

theorem resultsTables_installAll : ∀ (ts : List ResultsTable) (g : Dsa2),
    (g.installAll ts).resultsTables = ts.foldl (fun m t => m.set t.busno (some t)) g.resultsTables
  | [], _ => rfl
  | t :: ts, g => resultsTables_installAll ts (g.install t.busno (some t))

theorem tableAt_installAll (g : Dsa2) (ts : List ResultsTable) {busno : Nat} (hbus : busno ≤ i2cBusMax) :
    (g.installAll ts).tableAt busno =
      match lastFor ResultsTable.busno busno ts with
      | some t => some t
      | none => g.tableAt busno := by
  have hlt : busno < g.resultsTables.length := by rw [g.length_eq]; exact Nat.lt_succ_of_le hbus
  rw [Dsa2.tableAt, resultsTables_installAll, getElem?_foldl_set, if_pos hlt]
  cases lastFor ResultsTable.busno busno ts with
  | none | some t => rfl

end Lines

/-! ## Tables the algorithm can run on -/

structure ResultsTable.Runnable (rtable : ResultsTable) (busno : Nat) : Prop where
  busno_eq : rtable.busno = busno
  inArray : busno ≤ i2cBusMax
  nonneg : 0 ≤ rtable.curStep
  atMost : rtable.curStep ≤ stepLast
  settled : rtable.curRetryLoopStep = rtable.curStep
  interval : 0 < rtable.remainingInterval

/-- **A state the module can be in** when the file is read: its tables are sound and count down to the next look. -/
structure Dsa2.Running (g : Dsa2) : Prop where
  sound : g.Sound
  interval : ∀ busno rtable, g.tableAt busno = some rtable → 0 < rtable.remainingInterval

def Restored (g g' : Dsa2) (busno : Nat) (rtable : ResultsTable) : Prop :=
  g'.tableAt busno = some rtable ∧ g.tableAt busno ≠ some rtable

def LaterSafe (settings : Dsa2Settings) (g' : Dsa2) : Prop :=
  ∀ g, Reachable (· = g') Dsa2Callable (dsa2Step settings) g →
    (∀ rtable, some rtable ∈ g.resultsTables → ∃ m, dsa2GetAdjustedSleepMult rtable = .ok m) ∧
    ∀ call, Dsa2Callable g call → ∃ g'', dsa2Step settings g call = .ok g''

/-- **Reading the file is safe**: it returns, each restored table is runnable or an error is returned and none is
installed, and no later call faults. -/
def RestoresSafely (settings : Dsa2Settings) (statsFn : List Byte) (g : Dsa2) (file : StatsFile) : Prop :=
  ∃ g' err, dsa2RestorePersistentStats statsFn g file = .ok (g', err) ∧
    ((∀ busno rtable, Restored g g' busno rtable → rtable.Runnable busno) ∨
      err.isSome ∧ ∀ busno rtable, ¬ Restored g g' busno rtable) ∧
    LaterSafe settings g'

/-- **The condition on the lines**, under a first line that names a format: no line is for a bus past the array, and
unless some line is invalid, the last line of each bus has a step of at least 0 and an interval of at least 1. -/
def RunnableLines (initialStep : Int) : List (List Byte) → Prop
  | [] => True
  | formatIdLine :: body =>
    ∀ formatId, statsFormat formatIdLine = .ok formatId →
      (∀ t ∈ readTables formatId initialStep body, t.busno ≤ i2cBusMax) ∧
      (badLines formatId initialStep body = [] →
        ∀ busno t, lastFor ResultsTable.busno busno (readTables formatId initialStep body) = some t →
          0 ≤ t.curStep ∧ 0 < t.remainingInterval)

def RunnableStats (g : Dsa2) : StatsFile → Prop
  | .content bytes => RunnableLines g.initialStep (fileGetlines bytes)
  | _ => True

theorem restoreTable_spec {initialStep : Int} {f : StatsFields} {t : ResultsTable}
    (h : restoreTable initialStep f = some t) : t.curStep ≤ stepLast ∧ t.curRetryLoopStep = t.curStep := by
  unfold restoreTable at h
  dsimp only at h
  split at h
  · simp only [Option.bind_eq_bind, Option.bind_eq_some_iff, Option.some.injEq] at h
    obtain ⟨_, -, step, -, _, -, _, -, _, -, rfl⟩ := h
    refine ⟨?_, rfl⟩
    split
    · exact Int.le_refl _
    · rename_i hle; exact Int.not_lt.1 hle
  · cases h

theorem mem_readTables {formatId initialStep : Int} {body : List (List Byte)} {t : ResultsTable}
    (h : t ∈ readTables formatId initialStep body) : t.curStep ≤ stepLast ∧ t.curRetryLoopStep = t.curStep := by
  obtain ⟨l, -, hl⟩ := mem_filterMap.1 h
  obtain ⟨f, -, hf⟩ := Option.bind_eq_some_iff.1 hl
  exact restoreTable_spec hf

theorem initDsa2_running (dsa2Enabled : Bool) : (initDsa2 dsa2Enabled).Running where
  sound := initDsa2_sound dsa2Enabled
  interval := by
    intro busno rtable hat
    cases eq_of_mem_replicate (Dsa2.mem_tables.2 ⟨busno, hat⟩)

theorem laterSafe_of_sound (settings : Dsa2Settings) {g : Dsa2} (h : g.Sound) : LaterSafe settings g := by
  intro g' hreach
  have hstart : ∀ s, s = g → s.Sound := by
    rintro s rfl
    exact h
  obtain ⟨hinv, hcalls⟩ := Reachable.safe hstart (dsa2Step_ok settings) hreach
  exact ⟨fun rtable hmem => dsa2GetAdjustedSleepMult_ok (hinv.tables rtable hmem), hcalls⟩

theorem installAll_initialStep : ∀ (ts : List ResultsTable) (g : Dsa2), (g.installAll ts).initialStep = g.initialStep
  | [], _ => rfl
  | t :: ts, g => installAll_initialStep ts (g.install t.busno (some t))

theorem Dsa2.Sound.installAll : ∀ {ts : List ResultsTable} {g : Dsa2}, g.Sound →
    (∀ busno t, lastFor ResultsTable.busno busno ts = some t → t.Sound) → (g.installAll ts).Sound := by
  intro ts g h hts
  have hinit := installAll_initialStep ts g
  refine ⟨hinit ▸ h.initialNonneg, hinit ▸ h.initialAtMost, ?_⟩
  intro rtable hmem
  obtain ⟨busno, hat⟩ := Dsa2.mem_tables.1 hmem
  rw [tableAt_installAll g ts (Dsa2.le_of_tableAt hat)] at hat
  cases hlast : lastFor ResultsTable.busno busno ts with
  | some t =>
    rw [hlast] at hat
    cases hat; exact hts busno rtable hlast
  | none =>
    rw [hlast] at hat; exact h.tables rtable (Dsa2.mem_tables.2 ⟨busno, hat⟩)

theorem restoresSafely_of_same {settings : Dsa2Settings} {statsFn : List Byte} {g g' : Dsa2} {file : StatsFile}
    {err : Option ErrorInfo} (hrun : dsa2RestorePersistentStats statsFn g file = .ok (g', err)) (hsound : g'.Sound)
    (hsame : ∀ busno rtable, g'.tableAt busno = some rtable → g.tableAt busno = some rtable) : RestoresSafely settings statsFn g file :=
  ⟨g', err, hrun, .inl fun busno rtable h => absurd (hsame busno rtable h.1) h.2, laterSafe_of_sound settings hsound⟩

theorem restoreLines_read (statsFn : List Byte) {g : Dsa2} {formatIdLine : List Byte} {body : List (List Byte)}
    {formatId : Int} (hformat : statsFormat formatIdLine = .ok formatId)
    (h : ∀ t ∈ readTables formatId g.initialStep body, t.busno ≤ i2cBusMax) :
    ∃ errs, restoreLines statsFn g (formatIdLine :: body) =
        .ok (if errs = [] then (g.installAll (readTables formatId g.initialStep body), none)
          else ((g.installAll (readTables formatId g.initialStep body)).clear, some (restoreError statsFn errs))) ∧
      (errs = [] ↔ badLines formatId g.initialStep body = []) := by
  obtain ⟨errs, hfold, hiff⟩ := foldlM_restoreLine_ok (g := g) [] h
  refine ⟨errs, ?_, by simpa using hiff⟩
  simp only [restoreLines, hformat, hfold, ok_bind]

theorem restoreLines_safe_iff (settings : Dsa2Settings) (statsFn : List Byte) {g : Dsa2} (hg : g.Running)
    {bytes : List Byte} :
    RestoresSafely settings statsFn g (.content bytes) ↔ RunnableLines g.initialStep (fileGetlines bytes) := by
  have hrun : dsa2RestorePersistentStats statsFn g (.content bytes) = restoreLines statsFn g (fileGetlines bytes) := rfl
  unfold RunnableLines
  cases hlines : fileGetlines bytes with
  | nil =>
    rw [hlines] at hrun
    exact ⟨fun _ => trivial, fun _ => restoresSafely_of_same hrun hg.sound fun _ _ h => h⟩
  | cons formatIdLine body =>
    rw [hlines] at hrun
    dsimp only
    cases hformat : statsFormat formatIdLine with
    | error msg =>
      simp only [restoreLines, hformat] at hrun
      refine ⟨fun _ _ h => ?_, fun _ => restoresSafely_of_same hrun hg.sound fun _ _ h => h⟩
      cases h
    | ok formatId =>
      constructor
      · rintro ⟨g', err, hok, hrestored, -⟩ formatId' heq
        cases heq
        rw [hrun] at hok
        have hbus : ∀ t ∈ readTables formatId g.initialStep body, t.busno ≤ i2cBusMax := by
          intro t ht
          by_contra hgt
          have hfault := foldlM_restoreLine_fault (Nat.lt_of_not_le hgt) [] ht
          simp only [restoreLines, hformat, hfault, error_bind] at hok; cases hok
        refine ⟨hbus, fun hbad busno t hlast => ?_⟩
        obtain ⟨errs, hread, hiff⟩ := restoreLines_read statsFn hformat hbus
        rw [hread, if_pos (hiff.2 hbad)] at hok
        cases hok
        obtain ⟨hmem, rfl⟩ := lastFor_mem hlast
        have hat := tableAt_installAll g (readTables formatId g.initialStep body) (hbus t hmem)
        rw [hlast] at hat
        by_cases hold : g.tableAt t.busno = some t
        · exact ⟨(hg.sound.tables t (Dsa2.mem_tables.2 ⟨_, hold⟩)).nonneg, hg.interval _ t hold⟩
        · rcases hrestored with hrunnable | ⟨herr, -⟩
          · have ht := hrunnable t.busno t ⟨hat, hold⟩
            exact ⟨ht.nonneg, ht.interval⟩
          · cases herr
      · intro hcond
        obtain ⟨hbus, hlast⟩ := hcond formatId rfl
        obtain ⟨errs, hread, hiff⟩ := restoreLines_read statsFn hformat hbus
        rw [hread] at hrun
        by_cases herrs : errs = []
        · rw [if_pos herrs] at hrun
          have hsteps := hlast (hiff.1 herrs)
          refine ⟨_, _, hrun, .inl ?_, laterSafe_of_sound settings (hg.sound.installAll ?_)⟩
          · rintro busno rtable ⟨hat, hne⟩
            have hle : busno ≤ i2cBusMax := Dsa2.le_of_tableAt hat
            rw [tableAt_installAll g _ hle] at hat
            cases hl : lastFor ResultsTable.busno busno (readTables formatId g.initialStep body) with
            | none =>
              rw [hl] at hat; exact absurd hat hne
            | some t =>
              rw [hl] at hat
              cases hat
              obtain ⟨hmem, hbusno⟩ := lastFor_mem hl
              obtain ⟨hatMost, hsettled⟩ := mem_readTables hmem
              obtain ⟨hnonneg, hinterval⟩ := hsteps busno rtable hl
              exact ⟨hbusno, hle, hnonneg, hatMost, hsettled, hinterval⟩
          · intro busno t hl
            obtain ⟨hatMost, hsettled⟩ := mem_readTables (lastFor_mem hl).1
            exact sound_of_step (hsteps busno t hl).1 hatMost rfl hsettled
        · rw [if_neg herrs] at hrun
          have hnone : ∀ rtable, some rtable ∉ (g.installAll (readTables formatId g.initialStep body)).clear.resultsTables := by
            intro rtable hmem
            cases eq_of_mem_replicate hmem
          have hstep := installAll_initialStep (readTables formatId g.initialStep body) g
          have hsound : (g.installAll (readTables formatId g.initialStep body)).clear.Sound :=
            ⟨hstep ▸ hg.sound.initialNonneg, hstep ▸ hg.sound.initialAtMost, fun rtable h => absurd h (hnone rtable)⟩
          exact restoresSafely_of_same hrun hsound fun busno rtable h =>
            absurd (Dsa2.mem_tables.2 ⟨busno, h⟩) (hnone rtable)

/-- **Which stats files are read safely.** -/
theorem dsa2RestorePersistentStats_safe_iff (settings : Dsa2Settings) (statsFn : List Byte) (g : Dsa2)
    (hg : g.Running) (file : StatsFile) : RestoresSafely settings statsFn g file ↔ RunnableStats g file := by
  cases file with
  | noName => exact ⟨fun _ => trivial, fun _ => restoresSafely_of_same rfl hg.sound fun _ _ h => h⟩
  | missing => exact ⟨fun _ => trivial, fun _ => restoresSafely_of_same rfl hg.sound fun _ _ h => h⟩
  | unreadable desc => exact ⟨fun _ => trivial, fun _ => restoresSafely_of_same rfl hg.sound fun _ _ h => h⟩
  | content bytes => exact restoreLines_safe_iff settings statsFn hg

/-- The file of one bus, read at startup. -/
theorem dsa2RestorePersistentStats_safe_startup :
    RestoresSafely defaultDsa2Settings (ascii "stats") (initDsa2 true)
      (.content (ascii "FORMAT 2\ni2c-3 5a 3 3 5\n")) := by
  have hsteps : ∀ t ∈ readTables 2 7 [ascii "i2c-3 5a 3 3 5"],
      t.busno ≤ i2cBusMax ∧ 0 ≤ t.curStep ∧ 0 < t.remainingInterval := by decide
  refine (dsa2RestorePersistentStats_safe_iff defaultDsa2Settings (ascii "stats") (initDsa2 true)
    (initDsa2_running true) (.content (ascii "FORMAT 2\ni2c-3 5a 3 3 5\n"))).2 ?_
  intro formatId hformat
  cases hformat
  exact ⟨fun t ht => (hsteps t ht).1, fun _ busno t hlast => (hsteps t (lastFor_mem hlast).1).2⟩

/-- A line for bus 65 is stored past the array. -/
theorem strayBus_not_safe :
    ¬ RestoresSafely defaultDsa2Settings (ascii "stats") (initDsa2 true)
      (.content (ascii "FORMAT 2\ni2c-65 5a 3 3 5\n")) := by
  rintro ⟨g', err, hok, -⟩
  cases hok

end Ddc
