import Ddcutil.DeferredSleep
import Ddcutil.Kit.Tally
import Mathlib.Data.List.AList
/-!
# ExecutionStats — counting calls, sleeps and status codes (execution_stats.c)

Each counter is an `int` under one of several locks.  The calls are cut into their locked sections, and threads take
turns section by section; the history says which sections were executed, the newest first.  The texts of the reports and
the elapsed times are left out.
-/
namespace Ddc.Stats

open Kit
open Deferred (SleepEventType)

inductive IoEventType where
  | fileioWrite | fileioRead | ioctlWrite | ioctlRead | open | close | other
  deriving DecidableEq

def sleepEventIds : List SleepEventType :=
  [.writeToRead, .postWrite, .postRead, .postSaveSettings, .preMultiPartRead, .postCapTableSegment, .special]

structure IoEventTypeStats where
  callNanosec : UInt64
  callCount : Int32

/-- **`Status_Code_Counts`**: a key of the hash table is a status code, which comes back from a pointer as it was. -/
structure StatusCodeCounts where
  errorCountsHash : AList fun _ : Int32 => Int32
  totalStatusCounts : Int32

inductive StatusTable where
  | primary | retryable
  deriving DecidableEq

structure ExecutionStats where
  ioEventStats : IoEventType → IoEventTypeStats
  errorCodeCounts : StatusTable → StatusCodeCounts
  sleepEventCtsById : SleepEventType → Int32
  totalSleepEventCt : Int32

def newStatusCodeCounts : StatusCodeCounts := ⟨∅, 0⟩

def initExecutionStats : ExecutionStats := ⟨fun _ => ⟨0, 0⟩, fun _ => newStatusCodeCounts, fun _ => 0, 0⟩

/-! ## The locked sections -/

namespace StatusCodeCounts

def lookup (pcounts : StatusCodeCounts) (rc : Int32) : Int32 := (pcounts.errorCountsHash.lookup rc).getD 0

def logAny (pcounts : StatusCodeCounts) (rc : Int32) : Exec StatusCodeCounts := do
  let ct := pcounts.lookup rc
  let pcounts : StatusCodeCounts := ⟨pcounts.errorCountsHash.insert rc (ct + 1), pcounts.totalStatusCounts + 1⟩
  check (pcounts.lookup rc = ct + 1)
  .ok pcounts

def reset (_ : StatusCodeCounts) : StatusCodeCounts := ⟨∅, 0⟩

end StatusCodeCounts

inductive LockedSection where
  | recordSleep (eventType : SleepEventType)
  | logIo (eventType : IoEventType) (elapsedNanos : UInt64)
  | logStatus (table : StatusTable) (rc : Int32)
  | resetSleeps
  | resetStatuses (table : StatusTable)
  | resetIo
  deriving DecidableEq

namespace ExecutionStats

def resetSleepEventCounts (s : ExecutionStats) : ExecutionStats := { s with sleepEventCtsById := fun _ => 0 }

def recordSleepEvent (s : ExecutionStats) (eventType : SleepEventType) : ExecutionStats :=
  { s with
    sleepEventCtsById := fun id =>
      if id = eventType then s.sleepEventCtsById id + 1 else s.sleepEventCtsById id
    totalSleepEventCt := s.totalSleepEventCt + 1 }

def logIoCall (s : ExecutionStats) (eventType : IoEventType) (elapsedNanos : UInt64) : ExecutionStats :=
  { s with ioEventStats := fun id =>
      if id = eventType then ⟨(s.ioEventStats id).callNanosec + elapsedNanos, (s.ioEventStats id).callCount + 1⟩
      else s.ioEventStats id }

def resetIoEventStats (s : ExecutionStats) : ExecutionStats := { s with ioEventStats := fun _ => ⟨0, 0⟩ }

def setTable (s : ExecutionStats) (table : StatusTable) (pcounts : StatusCodeCounts) : ExecutionStats :=
  { s with errorCodeCounts := fun t => if t = table then pcounts else s.errorCodeCounts t }

def exec (s : ExecutionStats) : LockedSection → Exec ExecutionStats
  | .recordSleep eventType => .ok (s.recordSleepEvent eventType)
  | .logIo eventType elapsedNanos => .ok (s.logIoCall eventType elapsedNanos)
  | .logStatus table rc => do
    let pcounts ← (s.errorCodeCounts table).logAny rc
    .ok (s.setTable table pcounts)
  | .resetSleeps => .ok s.resetSleepEventCounts
  | .resetStatuses table => .ok (s.setTable table (s.errorCodeCounts table).reset)
  | .resetIo => .ok s.resetIoEventStats

end ExecutionStats

inductive Call where
  | recordSleepEvent (eventType : SleepEventType)
  | logIoCall (eventType : IoEventType) (startTimeNanos endTimeNanos : UInt64)
  | logStatusCode (rc : Int32)
  | logRetryableStatusCode (rc : Int32)
  | resetExecutionStats

def Call.sections : Call → List LockedSection
  | .recordSleepEvent eventType => [.recordSleep eventType]
  | .logIoCall eventType startTimeNanos endTimeNanos => [.logIo eventType (endTimeNanos - startTimeNanos)]
  | .logStatusCode rc => [.logStatus .primary rc]
  | .logRetryableStatusCode rc => [.logStatus .retryable rc]
  | .resetExecutionStats => [.resetSleeps, .resetStatuses .primary, .resetStatuses .retryable, .resetIo]

structure Threads where
  stats : ExecutionStats
  todo : Nat → List LockedSection
  history : List LockedSection

def Threads.start (calls : Nat → List Call) : Threads := ⟨initExecutionStats, fun t => (calls t).flatMap Call.sections, []⟩

def Threads.goOn (s : Threads) (t : Nat) : Exec Threads :=
  match s.todo t with
  | [] => .ok s
  | next :: rest => do
    let stats ← s.stats.exec next
    .ok ⟨stats, fun u => if u = t then rest else s.todo u, next :: s.history⟩

def StatusCodeCounts.summed (pcounts : StatusCodeCounts) (keys : List Int32) : Int32 :=
  keys.foldl (fun summedCt key => summedCt + pcounts.lookup key) 0

/-- `report_specific_status_counts`: the codes with their counts, the greatest code first, and the total. -/
def reportSpecificStatusCounts (pcounts : StatusCodeCounts) : Exec (List (Int32 × Int32) × Int32) := do
  let keys := pcounts.errorCountsHash.keys.mergeSort fun a b => decide (b ≤ a)
  check (pcounts.summed keys = pcounts.totalStatusCounts)
  .ok (keys.map fun key => (key, pcounts.lookup key), pcounts.totalStatusCounts)

def getTrueIoErrorCount (pcounts : StatusCodeCounts) : Exec Int32 := do
  let summedCt := pcounts.summed pcounts.errorCountsHash.keys
  check (summedCt = pcounts.totalStatusCounts)
  .ok summedCt

/-- `report_all_status_counts` and `report_execution_stats`: the two tables and the number of errors, the number of
sleeps and the counts by type. -/
def reportAll (s : ExecutionStats) : Exec (List (List (Int32 × Int32) × Int32) × Int32 × Int32 × List Int32) := do
  let primary ← reportSpecificStatusCounts (s.errorCodeCounts .primary)
  let retryable ← reportSpecificStatusCounts (s.errorCodeCounts .retryable)
  let ioErrors ← getTrueIoErrorCount (s.errorCodeCounts .primary)
  .ok ([primary, retryable], ioErrors, s.totalSleepEventCt, sleepEventIds.map s.sleepEventCtsById)

/-! ## What is promised -/

def LockedSection.sleepRecorded : LockedSection → Option SleepEventType
  | .recordSleep eventType => some eventType
  | _ => none

def LockedSection.statusLogged (table : StatusTable) : LockedSection → Option Int32
  | .logStatus t rc => if t = table then some rc else none
  | _ => none

def sleepsSince (history : List LockedSection) : List SleepEventType :=
  since (fun a => decide (a = .resetSleeps)) LockedSection.sleepRecorded history

def loggedSince (table : StatusTable) (history : List LockedSection) : List Int32 :=
  since (fun a => decide (a = .resetStatuses table)) (LockedSection.statusLogged table) history

def sumOfInts : List Int → Int
  | [] => 0
  | n :: l => n + sumOfInts l

/-- **What is promised of the statistics**, after what was executed. -/
structure StatsRight (s : ExecutionStats) (history : List LockedSection) : Prop where
  sleeps : s.totalSleepEventCt.toInt = (sleepsSince history).length
  sleepsByType : s.totalSleepEventCt.toInt = sumOfInts (sleepEventIds.map fun id => (s.sleepEventCtsById id).toInt)
  statuses : ∀ table rc, ((s.errorCodeCounts table).lookup rc).toInt = (loggedSince table history).count rc
  statusTotal : ∀ table, (s.errorCodeCounts table).totalStatusCounts.toInt =
    sumOfInts ((s.errorCodeCounts table).errorCountsHash.keys.map fun rc => ((s.errorCodeCounts table).lookup rc).toInt)
  reports : ∃ report, reportAll s = .ok report

/-- **Counters that are current**: no sleep event came before the last reset, and each number fits an `int`. -/
structure HistoryFits (history : List LockedSection) : Prop where
  current : ∀ newer older, history = newer ++ .resetSleeps :: older → sleepsSince older = []
  sleeps : (sleepsSince history).length < 2147483648
  statuses : ∀ table, (loggedSince table history).length < 2147483648

/-- **What is promised of a run**: the statistics are right in every state that it reaches. -/
def RunRight (calls : Nat → List Call) (schedule : List Nat) : Prop :=
  StatsRight (Threads.start calls).stats (Threads.start calls).history ∧
    AllAlong Threads.goOn (fun s t => ∃ s', s.goOn t = .ok s' ∧ StatsRight s'.stats s'.history) (Threads.start calls) schedule

def RunFits (calls : Nat → List Call) (schedule : List Nat) : Prop :=
  AllAlong Threads.goOn (fun s t => ∀ s', s.goOn t = .ok s' → HistoryFits s'.history) (Threads.start calls) schedule

/-! ## The totals and the counts agree over all runs

What every locked section keeps (`Counted`): each count is the number of times its event was recorded since the last
reset, as an `int`.  The total of the sleep events is not in it: `reset_sleep_event_counts` leaves it as it is.
-/

open Kit List Exec
open Deferred (SleepEventType)

theorem toInt_ofNat {n : Nat} (h : n < 2147483648) : (Int32.ofNat n).toInt = n :=
  Int32.toInt_ofNat_of_lt (show n < 2 ^ 31 by omega)

theorem lt_of_toInt {x : Int32} {n : Nat} (h : x.toInt = n) : n < 2147483648 := by
  have hlt := Int32.toInt_lt x
  omega

theorem ofNat_succ (n : Nat) : Int32.ofNat n + 1 = Int32.ofNat (n + 1) := by
  rw [Int32.ofNat_add]; rfl

theorem foldl_eq {pcounts : StatusCodeCounts} {f : Int32 → Nat} {keys : List Int32}
    (h : ∀ key ∈ keys, pcounts.lookup key = Int32.ofNat (f key)) : ∀ n : Nat,
    keys.foldl (fun summedCt key => summedCt + pcounts.lookup key) (Int32.ofNat n) = Int32.ofNat (n + sumOver f keys) := by
  induction keys with
  | nil => exact fun n => rfl
  | cons key keys ih =>
    intro n
    rw [foldl_cons, h key mem_cons_self, ← Int32.ofNat_add,
      ih (fun key' hkey' => h key' (mem_cons_of_mem key hkey')), sumOver, Nat.add_assoc]

theorem sumOfInts_eq {κ : Type} {f : κ → Int} {g : κ → Nat} {keys : List κ} (h : ∀ k ∈ keys, f k = g k) :
    sumOfInts (keys.map f) = sumOver g keys := by
  induction keys with
  | nil => rfl
  | cons k keys ih =>
    rw [map_cons, sumOfInts, sumOver, h k mem_cons_self, ih fun k' hk' => h k' (mem_cons_of_mem k hk'),
      Int.natCast_add]

/-! ## One table -/

structure TableCounts (pcounts : StatusCodeCounts) (logged : List Int32) : Prop where
  count : ∀ rc, pcounts.lookup rc = Int32.ofNat (logged.count rc)
  total : pcounts.totalStatusCounts = Int32.ofNat logged.length
  keys : ∀ rc ∈ logged, rc ∈ pcounts.errorCountsHash.keys

theorem tableCounts_new : TableCounts newStatusCodeCounts [] :=
  ⟨fun _ => rfl, rfl, fun _ h => absurd h not_mem_nil⟩

namespace TableCounts

variable {pcounts : StatusCodeCounts} {logged : List Int32}

section
variable (h : TableCounts pcounts logged)
include h

theorem logAny (rc : Int32) : ∃ pcounts', pcounts.logAny rc = .ok pcounts' ∧ TableCounts pcounts' (rc :: logged) := by
  unfold StatusCodeCounts.logAny
  have hnew : (⟨pcounts.errorCountsHash.insert rc (pcounts.lookup rc + 1), pcounts.totalStatusCounts + 1⟩ :
      StatusCodeCounts).lookup rc = pcounts.lookup rc + 1 := by
    rw [StatusCodeCounts.lookup, AList.lookup_insert]; rfl
  dsimp only
  rw [check_pos hnew, ok_bind]
  refine ⟨_, rfl, fun rc' => ?_, ?_, fun rc' hmem => ?_⟩
  · by_cases hrc : rc' = rc
    · subst hrc
      rw [hnew, h.count, ofNat_succ, count_cons_self]
    · rw [count_cons_of_ne (Ne.symm hrc), ← h.count]
      unfold StatusCodeCounts.lookup
      rw [AList.lookup_insert_ne hrc]
  · rw [h.total, ofNat_succ, length_cons]
  · rw [AList.keys_insert]
    by_cases hrc : rc' = rc
    · rw [hrc]; exact mem_cons_self
    · refine mem_cons_of_mem rc ((mem_erase_of_ne hrc).2 (h.keys rc' ?_))
      exact (mem_cons.1 hmem).resolve_left hrc

theorem summed {keys : List Int32} (hperm : keys.Perm pcounts.errorCountsHash.keys) :
    pcounts.summed keys = pcounts.totalStatusCounts := by
  have hnodup : keys.Nodup := hperm.nodup_iff.2 pcounts.errorCountsHash.keys_nodup
  have hsum : pcounts.summed keys = Int32.ofNat (0 + sumOver (fun rc => logged.count rc) keys) :=
    foldl_eq (fun key _ => h.count key) 0
  rw [sumOver_count hnodup fun rc hrc => hperm.mem_iff.2 (h.keys rc hrc), Nat.zero_add] at hsum
  rw [h.total]; exact hsum

theorem report : ∃ report, reportSpecificStatusCounts pcounts = .ok report := by
  unfold reportSpecificStatusCounts
  dsimp only
  rw [check_pos (h.summed (mergeSort_perm _ _)), ok_bind]; exact ⟨_, rfl⟩

theorem errorCount : ∃ n, getTrueIoErrorCount pcounts = .ok n := by
  unfold getTrueIoErrorCount
  dsimp only
  rw [check_pos (h.summed (List.Perm.refl _)), ok_bind]; exact ⟨_, rfl⟩

theorem right_iff :
    (∀ rc, (pcounts.lookup rc).toInt = logged.count rc) ∧
      pcounts.totalStatusCounts.toInt =
      sumOfInts (pcounts.errorCountsHash.keys.map fun rc => (pcounts.lookup rc).toInt) ↔
      logged.length < 2147483648 := by
  have hsum : sumOver (fun rc => logged.count rc) pcounts.errorCountsHash.keys = logged.length :=
    sumOver_count pcounts.errorCountsHash.keys_nodup h.keys
  constructor
  · rintro ⟨hcount, htotal⟩
    rw [sumOfInts_eq fun rc _ => hcount rc, hsum] at htotal; exact lt_of_toInt htotal
  · intro hlt
    have hcount : ∀ rc, (pcounts.lookup rc).toInt = logged.count rc := fun rc => by
      rw [h.count]; exact toInt_ofNat (Nat.lt_of_le_of_lt count_le_length hlt)
    refine ⟨hcount, ?_⟩
    rw [sumOfInts_eq fun rc _ => hcount rc, hsum, h.total, toInt_ofNat hlt]

end

end TableCounts

/-! ## What every section keeps -/

structure Counted (s : ExecutionStats) (history : List LockedSection) : Prop where
  sleeps : ∀ id, s.sleepEventCtsById id = Int32.ofNat ((sleepsSince history).count id)
  statuses : ∀ table, TableCounts (s.errorCodeCounts table) (loggedSince table history)

theorem counted_init : Counted initExecutionStats [] := ⟨fun _ => rfl, fun _ => tableCounts_new⟩

def LockedSection.leavesSleeps : LockedSection → Bool
  | .recordSleep _ | .resetSleeps => false
  | _ => true

theorem sleepsSince_other {next : LockedSection} (h : next.leavesSleeps = true) (history : List LockedSection) :
    sleepsSince (next :: history) = sleepsSince history := by
  cases next with
  | recordSleep | resetSleeps => cases h
  | logIo | logStatus | resetStatuses | resetIo => exact since_other history rfl rfl

theorem sleepsSince_record (eventType : SleepEventType) (history : List LockedSection) :
    sleepsSince (.recordSleep eventType :: history) = eventType :: sleepsSince history :=
  since_recorded history rfl rfl

theorem sleepsSince_reset (history : List LockedSection) : sleepsSince (.resetSleeps :: history) = [] :=
  since_reset history rfl

theorem loggedSince_log (table : StatusTable) (rc : Int32) (history : List LockedSection) :
    loggedSince table (.logStatus table rc :: history) = rc :: loggedSince table history :=
  since_recorded history rfl (if_pos rfl)

theorem loggedSince_reset (table : StatusTable) (history : List LockedSection) :
    loggedSince table (.resetStatuses table :: history) = [] :=
  since_reset history (decide_eq_true rfl)

theorem loggedSince_other {table : StatusTable} {next : LockedSection} (hlog : ∀ rc, next ≠ .logStatus table rc)
    (hreset : next ≠ .resetStatuses table) (history : List LockedSection) :
    loggedSince table (next :: history) = loggedSince table history := by
  refine since_other history (decide_eq_false hreset) ?_
  cases next with
  | logStatus t rc =>
    have ht : t ≠ table := fun ht => hlog rc (by rw [ht])
    exact if_neg ht
  | _ => rfl

theorem Counted.exec {s : ExecutionStats} {history : List LockedSection} (h : Counted s history) (next : LockedSection) :
    ∃ s', s.exec next = .ok s' ∧ Counted s' (next :: history) ∧
      s'.totalSleepEventCt = match next with
        | .recordSleep _ => s.totalSleepEventCt + 1
        | _ => s.totalSleepEventCt := by
  have hsleeps : ∀ {next}, LockedSection.leavesSleeps next = true →
      ∀ id, s.sleepEventCtsById id = Int32.ofNat ((sleepsSince (next :: history)).count id) := by
    intro next hnext id
    rw [sleepsSince_other hnext, h.sleeps]
  have htables : ∀ {next : LockedSection}, (∀ table rc, next ≠ .logStatus table rc) →
      (∀ table, next ≠ .resetStatuses table) →
      ∀ table, TableCounts (s.errorCodeCounts table) (loggedSince table (next :: history)) := by
    intro next hlog hreset table
    rw [loggedSince_other (hlog table) (hreset table)]; exact h.statuses table
  cases next with
  | recordSleep eventType =>
    refine ⟨_, rfl, ⟨fun id => ?_, htables (fun _ _ => by simp) (fun _ => by simp)⟩, rfl⟩
    rw [sleepsSince_record]
    change (if id = eventType then s.sleepEventCtsById id + 1 else s.sleepEventCtsById id) = _
    by_cases hid : id = eventType
    · rw [if_pos hid, hid, h.sleeps, ofNat_succ, count_cons_self]
    · rw [if_neg hid, h.sleeps, count_cons_of_ne (Ne.symm hid)]
  | logIo eventType elapsedNanos =>
    exact ⟨_, rfl, ⟨hsleeps rfl, htables (fun _ _ => by simp) (fun _ => by simp)⟩, rfl⟩
  | logStatus table rc =>
    obtain ⟨pcounts', hlog, hcounts⟩ := (h.statuses table).logAny rc
    have hexec : s.exec (.logStatus table rc) = .ok (s.setTable table pcounts') := by
      change ((s.errorCodeCounts table).logAny rc >>= _) = _
      rw [hlog]; rfl
    refine ⟨_, hexec, ⟨hsleeps rfl, fun t => ?_⟩, rfl⟩
    change TableCounts (if t = table then pcounts' else s.errorCodeCounts t) _
    by_cases ht : t = table
    · subst ht
      rw [if_pos rfl, loggedSince_log]; exact hcounts
    · rw [if_neg ht, loggedSince_other (fun rc' heq => ht (by cases heq; rfl)) (by simp)]
      exact h.statuses t
  | resetSleeps =>
    refine ⟨_, rfl, ⟨fun id => ?_, htables (fun _ _ => by simp) (fun _ => by simp)⟩, rfl⟩
    rfl
  | resetStatuses table =>
    refine ⟨_, rfl, ⟨hsleeps rfl, fun t => ?_⟩, rfl⟩
    change TableCounts (if t = table then ⟨∅, 0⟩ else s.errorCodeCounts t) _
    by_cases ht : t = table
    · subst ht
      rw [if_pos rfl, loggedSince_reset]; exact tableCounts_new
    · rw [if_neg ht, loggedSince_other (by simp) (fun heq => ht (by cases heq; rfl))]
      exact h.statuses t
  | resetIo => exact ⟨_, rfl, ⟨hsleeps rfl, htables (fun _ _ => by simp) (fun _ => by simp)⟩, rfl⟩

theorem Counted.reports {s : ExecutionStats} {history : List LockedSection} (h : Counted s history) :
    ∃ report, reportAll s = .ok report := by
  obtain ⟨primary, hprimary⟩ := (h.statuses .primary).report
  obtain ⟨retryable, hretryable⟩ := (h.statuses .retryable).report
  obtain ⟨ioErrors, hioErrors⟩ := (h.statuses .primary).errorCount
  rw [reportAll, hprimary, ok_bind, hretryable, ok_bind, hioErrors, ok_bind]; exact ⟨_, rfl⟩

/-! ## Where the statistics are right -/

theorem Counted.right_iff {s : ExecutionStats} {history : List LockedSection} (h : Counted s history) :
    StatsRight s history ↔ s.totalSleepEventCt.toInt = (sleepsSince history).length ∧
      ∀ table, (loggedSince table history).length < 2147483648 := by
  constructor
  · rintro ⟨hsleeps, -, hstatuses, htotal, -⟩
    exact ⟨hsleeps, fun table => (h.statuses table).right_iff.1 ⟨hstatuses table, htotal table⟩⟩
  · rintro ⟨hsleeps, hlen⟩
    have hall : ∀ id ∈ sleepsSince history, id ∈ sleepEventIds := by
      intro id _
      cases id <;> decide
    have hcounts : ∀ id ∈ sleepEventIds, (s.sleepEventCtsById id).toInt = (sleepsSince history).count id := by
      intro id _
      rw [h.sleeps]; exact toInt_ofNat (Nat.lt_of_le_of_lt count_le_length (lt_of_toInt hsleeps))
    refine ⟨hsleeps, ?_, fun table => ((h.statuses table).right_iff.2 (hlen table)).1,
      fun table => ((h.statuses table).right_iff.2 (hlen table)).2, h.reports⟩
    rw [sumOfInts_eq hcounts, sumOver_count (by decide) hall, hsleeps]

theorem historyFits_cons {next : LockedSection} {history : List LockedSection} (h : HistoryFits history) :
    HistoryFits (next :: history) ↔ (next = .resetSleeps → sleepsSince history = []) ∧
      (sleepsSince (next :: history)).length < 2147483648 ∧
      ∀ table, (loggedSince table (next :: history)).length < 2147483648 := by
  constructor
  · rintro ⟨hcurrent, hsleeps, hstatuses⟩
    refine ⟨?_, hsleeps, hstatuses⟩
    rintro rfl
    exact hcurrent [] history rfl
  · rintro ⟨hnext, hsleeps, hstatuses⟩
    refine ⟨fun newer older heq => ?_, hsleeps, hstatuses⟩
    cases newer with
    | nil =>
      cases heq; exact hnext rfl
    | cons a newer =>
      cases heq; exact h.current newer older rfl

structure Current (s : Threads) : Prop where
  counted : Counted s.stats s.history
  total : s.stats.totalSleepEventCt = Int32.ofNat (sleepsSince s.history).length
  fits : HistoryFits s.history

theorem current_start (calls : Nat → List Call) : Current (Threads.start calls) :=
  ⟨counted_init, rfl, fun newer older h => by simp [Threads.start] at h, (by decide : 0 < 2147483648),
    fun _ => (by decide : 0 < 2147483648)⟩

theorem Current.right {s : Threads} (h : Current s) : StatsRight s.stats s.history := by
  rw [h.counted.right_iff, h.total]; exact ⟨toInt_ofNat h.fits.sleeps, h.fits.statuses⟩

theorem Current.exec {s : Threads} (h : Current s) (next : LockedSection) (todo : Nat → List LockedSection) :
    ∃ stats, s.stats.exec next = .ok stats ∧
      (StatsRight stats (next :: s.history) ↔ HistoryFits (next :: s.history)) ∧
      (HistoryFits (next :: s.history) → Current ⟨stats, todo, next :: s.history⟩) := by
  obtain ⟨stats, hexec, hcounted, htotal⟩ := h.counted.exec next
  refine ⟨stats, hexec, ?_⟩
  rw [hcounted.right_iff, historyFits_cons h.fits]
  have hlen := toInt_ofNat h.fits.sleeps
  by_cases hreset : next = .resetSleeps
  · subst hreset
    have hstats : stats.totalSleepEventCt = Int32.ofNat (sleepsSince s.history).length := htotal.trans h.total
    rw [hstats, hlen, sleepsSince_reset]
    constructor
    · constructor
      · rintro ⟨hnone, hstatuses⟩
        exact ⟨fun _ => eq_nil_of_length_eq_zero (by simpa using hnone), by decide, hstatuses⟩
      · rintro ⟨hnone, -, hstatuses⟩
        rw [hnone rfl]; exact ⟨rfl, hstatuses⟩
    · rintro ⟨hnone, hsleeps, hstatuses⟩
      refine ⟨hcounted, ?_, (historyFits_cons h.fits).2 ⟨hnone, by exact hsleeps, hstatuses⟩⟩
      rw [hstats, hnone rfl, sleepsSince_reset]
  · have hstats : stats.totalSleepEventCt = Int32.ofNat (sleepsSince (next :: s.history)).length := by
      cases next with
      | recordSleep eventType =>
        rw [sleepsSince_record, length_cons, ← ofNat_succ, ← h.total]; exact htotal
      | resetSleeps => exact absurd rfl hreset
      | logIo => exact htotal.trans (h.total.trans (by rw [sleepsSince_other rfl]))
      | logStatus => exact htotal.trans (h.total.trans (by rw [sleepsSince_other rfl]))
      | resetStatuses | resetIo => exact htotal.trans (h.total.trans (by rw [sleepsSince_other rfl]))
    constructor
    · constructor
      · rintro ⟨hsleeps, hstatuses⟩
        exact ⟨fun heq => absurd heq hreset, lt_of_toInt hsleeps, hstatuses⟩
      · rintro ⟨-, hsleeps, hstatuses⟩
        rw [hstats]; exact ⟨toInt_ofNat hsleeps, hstatuses⟩
    · intro hfits; exact ⟨hcounted, hstats, (historyFits_cons h.fits).2 hfits⟩

theorem Current.goOn {s : Threads} (h : Current s) (t : Nat) :
    ((∃ s', s.goOn t = .ok s' ∧ StatsRight s'.stats s'.history) ↔ ∀ s', s.goOn t = .ok s' → HistoryFits s'.history) ∧
      ((∀ s', s.goOn t = .ok s' → HistoryFits s'.history) → ∃ s', s.goOn t = .ok s' ∧ Current s') := by
  unfold Threads.goOn
  cases s.todo t with
  | nil =>
    refine ⟨iff_of_true ⟨s, rfl, h.right⟩ fun s' hs' => ?_, fun _ => ⟨s, rfl, h⟩⟩
    cases hs'; exact h.fits
  | cons next rest =>
    obtain ⟨stats, hexec, hiff, hkeep⟩ := h.exec next fun u => if u = t then rest else s.todo u
    dsimp only
    rw [hexec, ok_bind]
    refine ⟨⟨?_, fun hfits => ⟨_, rfl, hiff.2 (hfits _ rfl)⟩⟩, fun hfits => ⟨_, rfl, hkeep (hfits _ rfl)⟩⟩
    rintro ⟨s', hs', hright⟩ s'' hs''
    cases hs'
    cases hs''; exact hiff.1 hright

/-- **The statistics are right in every state of a run exactly where the counters are current in every state**: no reset
comes after a sleep event, and each number fits an `int`. -/
theorem statsRun_right_iff (calls : Nat → List Call) (schedule : List Nat) : RunRight calls schedule ↔ RunFits calls schedule := by
  have hstart := current_start calls
  rw [RunRight, RunFits, and_iff_right hstart.right]
  exact AllAlong.congr_of_returns (fun s t hs => (Current.goOn hs t).1) (fun s t hs => (Current.goOn hs t).2) hstart

/-- A sleep event, then a reset: the total is still 1. -/
theorem reset_keeps_total : ¬ RunRight
    (fun t => if t = 0 then [.recordSleepEvent .special, .resetExecutionStats] else []) [0, 0] := by
  rintro ⟨-, -, h⟩
  obtain ⟨⟨s, hs, hright⟩, -⟩ := h _ rfl
  cases hs
  have hsleeps := hright.sleeps
  revert hsleeps
  decide

end Ddc.Stats
