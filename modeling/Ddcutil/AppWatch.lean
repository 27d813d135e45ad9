import Ddcutil.FeatureDetailRuns
/-!
# AppWatch — changes that the monitor reports (app_watch.c)

`appReadChanges` asks feature x02 whether there are changed features and feature x52 for their codes, shows the features
and writes 1 to x02 as a reset.  Up to version 2.1 a single code is read from x52; from then on x52 is a queue that is
read until the code 0.
-/
namespace Ddc

open Kit List Exec

abbrev VcpReply := Except ErrorInfo ParsedNontableVcpResponse

/-- What the monitor answers: its version, and to a read of x02 and to the `n`th of x52.  What comes of showing a
feature makes no difference. -/
structure ChangesDisplay where
  vspec : VersionSpec
  x02 : VcpReply
  x52 : Nat → VcpReply

/-- The replies of x52, the features that were shown, and the features that were written with their values. -/
structure WatchLog where
  x52Reads : List VcpReply
  shown : List Byte
  writes : List (Byte × Nat)

structure ChangesRead where
  result : Option ErrorInfo
  changesReported : Bool
  log : WatchLog

def resetVcpX02 (log : WatchLog) : WatchLog := { log with writes := log.writes ++ [(0x02, 1)] }

def x52Error (e : ErrorInfo) : ErrorInfo :=
  if e.statusCode = ddcrcReportedUnsupported ∨ e.statusCode = ddcrcDeterminedUnsupported then
    ⟨e.statusCode, "show_changed_feature",
      some ("Feature x02 (New Control Value) reports that changed VCP feature values exist, " ++
        "but feature x52 (Active Control) is unsupported"), []⟩
  else ⟨e.statusCode, "show_changed_feature", some "Error reading feature x02", [e]⟩

/-- The error of the read, or the code that was read; a feature is shown if the code is not 0. -/
def showChangedFeature (d : ChangesDisplay) (log : WatchLog) : Except ErrorInfo Byte × WatchLog :=
  match d.x52 log.x52Reads.length with
  | .error e => (.error (x52Error e), { log with x52Reads := log.x52Reads ++ [.error e] })
  | .ok r =>
    (.ok r.sl, { log with
      x52Reads := log.x52Reads ++ [.ok r], shown := if r.sl ≠ 0 then log.shown ++ [r.sl] else log.shown })

def maxChanges : Nat := 20

def readChangesFifo (d : ChangesDisplay) : Nat → Bool → WatchLog → ChangesRead
  | 0, changesReported, log => ⟨none, changesReported, resetVcpX02 log⟩
  | left + 1, changesReported, log =>
    match showChangedFeature d log with
    | (.error e, log) => ⟨some e, changesReported, log⟩
    | (.ok changedFeatureId, log) =>
      if changedFeatureId = 0 then ⟨none, true, resetVcpX02 log⟩ else readChangesFifo d left true log

def readSingleChange (d : ChangesDisplay) (log : WatchLog) : ChangesRead :=
  match showChangedFeature d log with
  | (.error e, log) => ⟨some e, false, resetVcpX02 log⟩
  | (.ok _, log) => ⟨none, true, resetVcpX02 log⟩

def readNewControlValues (d : ChangesDisplay) (forceNoFifo : Bool) : Exec ChangesRead := do
  let le ← vcpVersionLe d.vspec vspecV21
  .ok (if le || forceNoFifo then readSingleChange d ⟨[], [], []⟩ else readChangesFifo d maxChanges false ⟨[], [], []⟩)

def appReadChanges (d : ChangesDisplay) (forceNoFifo : Bool) : Exec ChangesRead :=
  match d.x02 with
  | .error e =>
    .ok ⟨some ⟨e.statusCode, "app_read_changes", some "Error reading feature x02", [e]⟩, false, ⟨[], [], []⟩⟩
  | .ok r =>
    if r.sl = 0xff then
      .ok ⟨some ⟨ddcrcDeterminedUnsupported, "app_read_changes",
        some "Feature x02 (New Control Value) reports No User Controls", []⟩, false, ⟨[], [], []⟩⟩
    else if r.sl = 0x01 then .ok ⟨none, false, ⟨[], [], []⟩⟩
    else if r.sl ≠ 0x02 then
      -- the format ends in a directive that is not complete
      .ok ⟨some ⟨ddcrcDeterminedUnsupported, "app_read_changes",
        some "Feature x02 (New Control Value) reports unexpected value", []⟩, false, ⟨[], [], []⟩⟩
    else readNewControlValues d forceNoFifo

/-! ## What is promised -/

def changedCode : VcpReply → Option Byte
  | .error _ => none
  | .ok r => if r.sl ≠ 0 then some r.sl else none

/-- **The replies are those of x52 from its first on**, the features with their codes were shown, and no read comes
after an error or the code 0. -/
structure WatchLog.Follows (d : ChangesDisplay) (log : WatchLog) : Prop where
  replies : ∀ n < log.x52Reads.length, log.x52Reads[n]? = some (d.x52 n)
  shown : log.shown = log.x52Reads.filterMap changedCode
  stops : ∀ before r after, log.x52Reads = before ++ r :: after → changedCode r = none → after = []

def NewControlValues (d : ChangesDisplay) : Prop := ∃ r, d.x02 = .ok r ∧ r.sl = 0x02

open Classical in
structure ChangesRight (d : ChangesDisplay) (w : ChangesRead) : Prop where
  follows : w.log.Follows d
  bounded : w.log.x52Reads.length ≤ maxChanges
  reset : w.log.writes = if NewControlValues d then [(0x02, 1)] else []
  reported : w.changesReported = true ↔ w.log.shown ≠ []

def SingleChange (d : ChangesDisplay) (forceNoFifo : Bool) : Prop :=
  vcpVersionLe d.vspec vspecV21 = .ok true ∨ forceNoFifo = true

def VcpReply.IsError (r : VcpReply) : Prop := ∃ e, r = .error e

def NoChange (r : VcpReply) : Prop := ∃ p, r = .ok p ∧ p.sl = 0

/-- **The condition**: where there are new control values, the version is one of those that are known, the first code is
not 0, and a queue is not cut short by an error. -/
structure ChangesReadable (d : ChangesDisplay) (forceNoFifo : Bool) : Prop where
  version : vcpVersionIsValid d.vspec = true
  first : ¬ NoChange (d.x52 0)
  queue : ¬ SingleChange d forceNoFifo →
    ¬ FirstBad (fun n => changedCode (d.x52 n) ≠ none) (fun n => VcpReply.IsError (d.x52 n)) 0 maxChanges

/-! ## One read of x52 -/

theorem WatchLog.Follows.nil (d : ChangesDisplay) (writes : List (Byte × Nat)) :
    WatchLog.Follows d ⟨[], [], writes⟩ where
  replies _ h := absurd h (Nat.not_lt_zero _)
  shown := rfl
  stops before r after h _ := absurd h.symm (append_ne_nil_of_right_ne_nil before (cons_ne_nil r after))

structure WatchLog.Going (d : ChangesDisplay) (log : WatchLog) (n : Nat) : Prop where
  follows : log.Follows d
  length : log.x52Reads.length = n
  codes : ∀ r ∈ log.x52Reads, changedCode r ≠ none
  writes : log.writes = []

theorem WatchLog.Going.start (d : ChangesDisplay) : WatchLog.Going d ⟨[], [], []⟩ 0 :=
  ⟨.nil d [], rfl, fun _ h => absurd h not_mem_nil, rfl⟩

theorem showChangedFeature_log (d : ChangesDisplay) (log : WatchLog) :
    (showChangedFeature d log).2 = ⟨log.x52Reads ++ [d.x52 log.x52Reads.length],
      log.shown ++ (changedCode (d.x52 log.x52Reads.length)).toList, log.writes⟩ := by
  unfold showChangedFeature changedCode
  cases d.x52 log.x52Reads.length with
  | error e => simp
  | ok r =>
    by_cases hcode : r.sl ≠ 0
    · simp [hcode]
    · simp [hcode]

variable {d : ChangesDisplay} {log : WatchLog} {r : ParsedNontableVcpResponse}

theorem WatchLog.Going.read {n : Nat} (h : log.Going d n) :
    (showChangedFeature d log).2.Follows d ∧ (showChangedFeature d log).2.x52Reads.length = n + 1 ∧
      (showChangedFeature d log).2.writes = [] ∧
      (changedCode (d.x52 n) ≠ none → (showChangedFeature d log).2.Going d (n + 1)) := by
  rw [showChangedFeature_log, h.length]
  have hlength : (log.x52Reads ++ [d.x52 n]).length = n + 1 := by rw [length_append, h.length]; rfl
  have hfollows : WatchLog.Follows d
      ⟨log.x52Reads ++ [d.x52 n], log.shown ++ (changedCode (d.x52 n)).toList, log.writes⟩ := by
    refine ⟨fun m hm => ?_, ?_, fun before r after heq hend => ?_⟩
    · rw [hlength] at hm
      by_cases hlt : m < n
      · rw [getElem?_append_left (by rw [h.length]; exact hlt)]
        exact h.follows.replies m (by rw [h.length]; exact hlt)
      · obtain rfl : m = n := by omega
        rw [getElem?_append_right (by rw [h.length]), h.length, Nat.sub_self]; rfl
    · rw [filterMap_append, h.follows.shown]
      cases hc : changedCode (d.x52 n) with
      | none | some code => simp [hc]
    · rcases eq_nil_or_concat after with rfl | ⟨more, last, rfl⟩
      · rfl
      · have hmem : r ∈ log.x52Reads := by
          have hinit : log.x52Reads = before ++ r :: more := by
            rw [concat_eq_append, ← cons_append, ← append_assoc] at heq
            exact (append_inj' heq rfl).1
          rw [hinit]; simp
        exact absurd hend (h.codes r hmem)
  refine ⟨hfollows, hlength, h.writes, fun hcode => ⟨hfollows, hlength, fun r hr => ?_, h.writes⟩⟩
  rcases mem_append.1 hr with hr | hr
  · exact h.codes r hr
  · rw [mem_singleton.1 hr]; exact hcode

theorem showChangedFeature_error {e : ErrorInfo} (h : d.x52 log.x52Reads.length = .error e) :
    (showChangedFeature d log).1 = .error (x52Error e) := by
  rw [showChangedFeature, h]

theorem showChangedFeature_ok (h : d.x52 log.x52Reads.length = .ok r) : (showChangedFeature d log).1 = .ok r.sl := by
  rw [showChangedFeature, h]

/-! ## The queue -/

structure QueueRead (d : ChangesDisplay) (n left : Nat) (w : ChangesRead) : Prop where
  follows : w.log.Follows d
  bounded : w.log.x52Reads.length ≤ n + left
  reported : w.changesReported = true
  shown : w.log.shown ≠ []
  reset : w.log.writes = [(0x02, 1)] ↔
    ¬ FirstBad (fun n => changedCode (d.x52 n) ≠ none) (fun n => VcpReply.IsError (d.x52 n)) n left

theorem WatchLog.Going.shown_ne_nil {n : Nat} (h : log.Going d (n + 1)) : log.shown ≠ [] := by
  cases hreads : log.x52Reads with
  | nil =>
    have hlength := h.length
    rw [hreads] at hlength; cases hlength
  | cons r reads =>
    have hcode := h.codes r (by rw [hreads]; exact mem_cons_self)
    rw [h.follows.shown, hreads]
    cases hc : changedCode r with
    | none => exact absurd hc hcode
    | some code => simp [hc]

theorem WatchLog.Follows.reset (h : log.Follows d) : (resetVcpX02 log).Follows d := ⟨h.replies, h.shown, h.stops⟩

theorem resetVcpX02_writes (h : log.writes = []) : (resetVcpX02 log).writes = [(0x02, 1)] := by
  rw [resetVcpX02, h]; rfl

theorem changedCode_ok_ne : changedCode (.ok r) ≠ none ↔ r.sl ≠ 0 := by
  unfold changedCode
  by_cases hcode : r.sl ≠ 0
  · simp [hcode]
  · simp [hcode]

theorem not_isError_ok (r : ParsedNontableVcpResponse) : ¬ VcpReply.IsError (.ok r) := by
  rintro ⟨e, he⟩
  cases he

theorem showChangedFeature_shown_ne (h : log.shown ≠ []) : (showChangedFeature d log).2.shown ≠ [] := by
  rw [showChangedFeature_log]; exact append_ne_nil_of_left_ne_nil h _

theorem readChangesFifo_spec : ∀ (left n : Nat) {log : WatchLog}, log.Going d (n + 1) →
    QueueRead d (n + 1) left (readChangesFifo d left true log)
  | 0, n, log, h => by
    refine ⟨h.follows.reset, Nat.le_of_eq h.length, rfl, h.shown_ne_nil, fun _ => ?_, fun _ => ?_⟩
    · rintro ⟨j, hj, -⟩
      exact Nat.not_lt_zero j hj
    · exact resetVcpX02_writes h.writes
  | left + 1, n, log, h => by
    obtain ⟨hfollows, hlength, hwrites, hgoing⟩ := h.read
    have hshown := showChangedFeature_shown_ne (d := d) h.shown_ne_nil
    unfold readChangesFifo
    cases hreply : d.x52 (n + 1) with
    | error e =>
      have hread : d.x52 log.x52Reads.length = .error e := by rw [h.length]; exact hreply
      have hfirst := showChangedFeature_error hread
      have hbad : FirstBad (fun n => changedCode (d.x52 n) ≠ none) (fun n => VcpReply.IsError (d.x52 n)) (n + 1)
          (left + 1) := firstBad_succ.2 (.inl ⟨e, hreply⟩)
      generalize showChangedFeature d log = r at *
      obtain ⟨reply, log'⟩ := r
      cases hfirst
      refine ⟨hfollows, Nat.le_trans (Nat.le_of_eq hlength) (by omega), rfl, hshown, fun hreset => ?_,
        fun hnot => absurd hbad hnot⟩
      exact absurd (hwrites.symm.trans hreset) (cons_ne_nil _ _).symm
    | ok r =>
      have hread : d.x52 log.x52Reads.length = .ok r := by rw [h.length]; exact hreply
      have hfirst := showChangedFeature_ok hread
      have hnotError : ¬ VcpReply.IsError (d.x52 (n + 1)) := by rw [hreply]; exact not_isError_ok r
      by_cases hcode : r.sl = 0
      · have hnot : ¬ FirstBad (fun n => changedCode (d.x52 n) ≠ none) (fun n => VcpReply.IsError (d.x52 n)) (n + 1)
            (left + 1) := by
          have hgood : ¬ changedCode (d.x52 (n + 1)) ≠ none := by
            rw [hreply]; exact fun hgood => changedCode_ok_ne.1 hgood hcode
          rw [firstBad_of_not_good hgood]; exact hnotError
        generalize showChangedFeature d log = shown at *
        obtain ⟨reply, log'⟩ := shown
        cases hfirst
        dsimp only at hlength ⊢
        rw [if_pos hcode]
        refine ⟨hfollows.reset, ?_, rfl, hshown, fun _ => hnot, fun _ => resetVcpX02_writes hwrites⟩
        change log'.x52Reads.length ≤ _
        omega
      · have hgood : changedCode (d.x52 (n + 1)) ≠ none := by
          rw [hreply]; exact changedCode_ok_ne.2 hcode
        have hrest := readChangesFifo_spec left (n + 1) (hgoing hgood)
        generalize showChangedFeature d log = shown at *
        obtain ⟨reply, log'⟩ := shown
        cases hfirst
        have hbounded := hrest.bounded
        dsimp only at hbounded ⊢
        rw [if_neg hcode]
        refine ⟨hrest.follows, by omega, hrest.reported, hrest.shown, hrest.reset.trans ?_⟩
        exact not_congr (firstBad_of_good hgood hnotError).symm

/-! ## The whole -/

theorem newControlValues_iff (h : d.x02 = .ok r) : NewControlValues d ↔ r.sl = 0x02 := by
  constructor
  · rintro ⟨r', hr', hvalue⟩
    rw [h] at hr'
    cases hr'; exact hvalue
  · exact fun hvalue => ⟨r, h, hvalue⟩

theorem changesRight_nothing (h : ¬ NewControlValues d) (result : Option ErrorInfo) :
    ChangesRight d ⟨result, false, ⟨[], [], []⟩⟩ where
  follows := .nil d []
  bounded := Nat.zero_le _
  reset := (if_neg h).symm
  reported := ⟨fun h => absurd h Bool.false_ne_true, fun h => absurd rfl h⟩

theorem readSingleChange_log (d : ChangesDisplay) (log : WatchLog) :
    (readSingleChange d log).log = resetVcpX02 (showChangedFeature d log).2 := by
  unfold readSingleChange
  obtain ⟨reply, log'⟩ := showChangedFeature d log
  cases reply with
  | error e | ok code => rfl

theorem readSingleChange_reported (d : ChangesDisplay) (log : WatchLog) :
    (readSingleChange d log).changesReported = (d.x52 log.x52Reads.length).isOk := by
  unfold readSingleChange
  cases hreply : d.x52 log.x52Reads.length with
  | error e =>
    have hfirst := showChangedFeature_error hreply
    generalize showChangedFeature d log = shown at hfirst ⊢
    obtain ⟨reply, log'⟩ := shown
    cases hfirst; rfl
  | ok r =>
    have hfirst := showChangedFeature_ok hreply
    generalize showChangedFeature d log = shown at hfirst ⊢
    obtain ⟨reply, log'⟩ := shown
    cases hfirst; rfl

theorem readSingleChange_iff (h : NewControlValues d) :
    ChangesRight d (readSingleChange d ⟨[], [], []⟩) ↔ ¬ NoChange (d.x52 0) := by
  obtain ⟨hfollows, hlength, hwrites, -⟩ := (WatchLog.Going.start d).read
  have hlog := readSingleChange_log d ⟨[], [], []⟩
  have hreported := readSingleChange_reported d ⟨[], [], []⟩
  have hshown : (readSingleChange d ⟨[], [], []⟩).log.shown = (changedCode (d.x52 0)).toList := by
    rw [hlog, resetVcpX02, showChangedFeature_log]; rfl
  have hright : ChangesRight d (readSingleChange d ⟨[], [], []⟩) ↔
      ((d.x52 0).isOk = true ↔ (changedCode (d.x52 0)).toList ≠ []) := by
    rw [← hshown, show (d.x52 0).isOk = _ from hreported.symm]
    refine ⟨fun hr => hr.reported, fun hr => ⟨?_, ?_, ?_, hr⟩⟩
    · rw [hlog]; exact hfollows.reset
    · rw [hlog]; exact Nat.le_trans (Nat.le_of_eq hlength) (by decide)
    · rw [hlog, resetVcpX02_writes hwrites, if_pos h]
  rw [hright]
  cases d.x52 0 with
  | error e =>
    refine ⟨fun _ => ?_, fun _ => ⟨fun hok => absurd hok Bool.false_ne_true, fun hne => absurd rfl hne⟩⟩
    rintro ⟨p, hp, -⟩
    cases hp
  | ok r =>
    unfold changedCode
    by_cases hcode : r.sl ≠ 0
    · simp only [if_pos hcode, Option.toList_some]
      refine ⟨fun _ => ?_, fun _ => ⟨fun _ => cons_ne_nil _ _, fun _ => rfl⟩⟩
      rintro ⟨p, hp, hzero⟩
      cases hp; exact hcode hzero
    · simp only [if_neg hcode, Option.toList_none]
      refine ⟨fun hr => absurd rfl (hr.1 rfl), fun hnot => absurd ⟨r, rfl, not_not.1 hcode⟩ hnot⟩

theorem readChangesFifo_iff (h : NewControlValues d) :
    ChangesRight d (readChangesFifo d maxChanges false ⟨[], [], []⟩) ↔ ¬ NoChange (d.x52 0) ∧
      ¬ FirstBad (fun n => changedCode (d.x52 n) ≠ none) (fun n => VcpReply.IsError (d.x52 n)) 0 maxChanges := by
  obtain ⟨hfollows, hlength, hwrites, hgoing⟩ := (WatchLog.Going.start d).read
  have hlog := showChangedFeature_log d ⟨[], [], []⟩
  rw [maxChanges, readChangesFifo, firstBad_succ]
  cases hreply : d.x52 0 with
  | error e =>
    have hfirst := @showChangedFeature_error d ⟨[], [], []⟩ e hreply
    generalize showChangedFeature d ⟨[], [], []⟩ = shown at *
    obtain ⟨reply, log'⟩ := shown
    cases hfirst
    refine ⟨fun hr => ?_, fun hr => absurd (.inl ⟨e, rfl⟩) hr.2⟩
    have hreset := hr.reset
    rw [if_pos h] at hreset; exact absurd (hwrites.symm.trans hreset) (cons_ne_nil _ _).symm
  | ok r =>
    have hfirst := @showChangedFeature_ok d ⟨[], [], []⟩ r hreply
    have hshown : (showChangedFeature d ⟨[], [], []⟩).2.shown = (changedCode (.ok r)).toList := by
      rw [hlog, show d.x52 (⟨[], [], []⟩ : WatchLog).x52Reads.length = .ok r from hreply]; rfl
    have hnotError : ¬ VcpReply.IsError (.ok r) := not_isError_ok r
    by_cases hcode : r.sl = 0
    · generalize showChangedFeature d ⟨[], [], []⟩ = shown at *
      obtain ⟨reply, log'⟩ := shown
      cases hfirst
      dsimp only at hshown ⊢
      rw [if_pos hcode]
      refine ⟨fun hr => absurd ?_ (hr.reported.1 rfl), fun hr => absurd ⟨r, rfl, hcode⟩ hr.1⟩
      change log'.shown = []
      rw [hshown, changedCode, if_neg (not_not_intro hcode)]; rfl
    · have hgood : changedCode (.ok r) ≠ none := changedCode_ok_ne.2 hcode
      have hqueue := readChangesFifo_spec 19 0 (hgoing (by rw [hreply]; exact hgood))
      generalize showChangedFeature d ⟨[], [], []⟩ = shown at *
      obtain ⟨reply, log'⟩ := shown
      cases hfirst
      dsimp only at hqueue ⊢
      rw [if_neg hcode]
      have hfirstCode : ¬ NoChange (.ok r) := by
        rintro ⟨p, hp, hzero⟩
        cases hp; exact hcode hzero
      constructor
      · intro hr
        have hreset := hr.reset
        rw [if_pos h] at hreset
        refine ⟨hfirstCode, ?_⟩
        rintro (hbad | ⟨-, hbad⟩)
        · exact hnotError hbad
        · exact hqueue.reset.1 hreset hbad
      · rintro ⟨-, hnot⟩
        have hreset := hqueue.reset.2 fun hbad => hnot (.inr ⟨hgood, hbad⟩)
        exact ⟨hqueue.follows, hqueue.bounded, by rw [if_pos h]; exact hreset,
          fun _ => hqueue.shown, fun _ => hqueue.reported⟩

theorem vcpVersionLe_returns {v : VersionSpec} (h : vcpVersionIsValid v = true) :
    ∃ le, vcpVersionLe v vspecV21 = .ok le := by
  have hvalid : vcpVersionIsValid v = true ∧ vcpVersionIsValid vspecV21 = true := ⟨h, by decide⟩
  have hcomparable : ¬ (v = vspecV22 ∧ vspecV21 = vspecV30) ∧ ¬ (vspecV21 = vspecV22 ∧ v = vspecV30) :=
    ⟨fun hv => absurd hv.2 (by decide), fun hv => absurd hv.1 (by decide)⟩
  rw [vcpVersionLe, check_pos hvalid, ok_bind, check_pos hcomparable, ok_bind]; exact ⟨_, rfl⟩

theorem readNewControlValues_iff (h : NewControlValues d) (forceNoFifo : Bool) :
    (∃ w, readNewControlValues d forceNoFifo = .ok w ∧ ChangesRight d w) ↔ ChangesReadable d forceNoFifo := by
  unfold readNewControlValues
  cases hle : vcpVersionLe d.vspec vspecV21 with
  | error e =>
    constructor
    · rintro ⟨w, hw, -⟩
      cases hw
    · intro hreadable
      obtain ⟨le, hok⟩ := vcpVersionLe_returns hreadable.version
      exact absurd (hok.symm.trans hle) (ok_ne_error le e)
  | ok le =>
    have hvalid : vcpVersionIsValid d.vspec = true := by
      cases hv : vcpVersionIsValid d.vspec with
      | true => rfl
      | false => exact absurd (hle.symm.trans (vcpVersionLe_error hv)) (ok_ne_error le _)
    have hiff : SingleChange d forceNoFifo ↔ (le || forceNoFifo) = true := by
      rw [SingleChange, hle, Bool.or_eq_true]
      exact or_congr_left ⟨fun heq => Except.ok.inj heq, fun heq => congrArg Except.ok heq⟩
    have hreturns : ∀ w, (∃ w', (Except.ok w : Exec ChangesRead) = .ok w' ∧ ChangesRight d w') ↔ ChangesRight d w := by
      intro w
      constructor
      · rintro ⟨w', hw, hr⟩
        exact Except.ok.inj hw ▸ hr
      · exact fun hr => ⟨w, rfl, hr⟩
    rw [ok_bind]
    by_cases hsingle : (le || forceNoFifo) = true
    · rw [if_pos hsingle, hreturns, readSingleChange_iff h]
      exact ⟨fun hfirst => ⟨hvalid, hfirst, fun hnot => absurd (hiff.2 hsingle) hnot⟩, fun hr => hr.first⟩
    · rw [if_neg hsingle, hreturns, readChangesFifo_iff h]
      exact ⟨fun hr => ⟨hvalid, hr.1, fun _ => hr.2⟩, fun hr => ⟨hr.first, hr.queue fun hs => hsingle (hiff.1 hs)⟩⟩

/-- **Changes are read as promised exactly if there are none, or the condition holds.** -/
theorem appReadChanges_iff (d : ChangesDisplay) (forceNoFifo : Bool) :
    (∃ w, appReadChanges d forceNoFifo = .ok w ∧ ChangesRight d w) ↔
      (NewControlValues d → ChangesReadable d forceNoFifo) := by
  unfold appReadChanges
  cases hx02 : d.x02 with
  | error e =>
    have hnone : ¬ NewControlValues d := by
      rintro ⟨r, hr, -⟩
      rw [hx02] at hr; cases hr
    exact ⟨fun _ h => absurd h hnone, fun _ => ⟨_, rfl, changesRight_nothing hnone _⟩⟩
  | ok r =>
    dsimp only
    have hnew := newControlValues_iff hx02
    by_cases hff : r.sl = 0xff
    · have hnone : ¬ NewControlValues d := fun h => absurd (hff.symm.trans (hnew.1 h)) (by decide)
      rw [if_pos hff]
      exact ⟨fun _ h => absurd h hnone, fun _ => ⟨_, rfl, changesRight_nothing hnone _⟩⟩
    rw [if_neg hff]
    by_cases h01 : r.sl = 0x01
    · have hnone : ¬ NewControlValues d := fun h => absurd (h01.symm.trans (hnew.1 h)) (by decide)
      rw [if_pos h01]
      exact ⟨fun _ h => absurd h hnone, fun _ => ⟨_, rfl, changesRight_nothing hnone _⟩⟩
    rw [if_neg h01]
    by_cases h02 : r.sl = 0x02
    · rw [if_neg (not_not_intro h02)]
      have h := hnew.2 h02
      rw [forall_prop_of_true h]; exact readNewControlValues_iff h forceNoFifo
    · have hnone : ¬ NewControlValues d := fun h => h02 (hnew.1 h)
      rw [if_pos h02]
      exact ⟨fun _ h => absurd h hnone, fun _ => ⟨_, rfl, changesRight_nothing hnone _⟩⟩

def failingQueue : ChangesDisplay where
  vspec := vspecV22
  x02 := .ok ⟨0x02, true, true, 0, 0xff, 0, 0x02⟩
  x52 n := if n = 0 then .ok ⟨0x52, true, true, 0, 0xff, 0, 0x10⟩ else .error (errinfoNew (-eIo) "ddc_write_read")

/-- **It leaves x02 as it was**: the change is shown and the reset is not made. -/
theorem failingQueue_not_right : ¬ ∃ w, appReadChanges failingQueue false = .ok w ∧ ChangesRight failingQueue w := by
  rintro ⟨w, hw, hright⟩
  have hreset := hright.reset
  rw [if_pos ⟨_, rfl, rfl⟩] at hreset
  cases hw; cases hreset

end Ddc
