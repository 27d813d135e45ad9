import Ddcutil.DisplayLock
import Mathlib.Data.Set.Insert
/-!
# DisplayLockRules — the recorded owner is the holder

What the threads have acquired and not yet given back is read off the results of their calls (`held`).  In every state
they reach, the records say the same: one record for each path, and in it the thread that holds the mutex.
-/
namespace Ddc

open Kit List Exec

variable {T : Type}

/-! ## The locks by the results of the calls -/

def LockEvent.apply (held : Set (T × IoPath)) : LockEvent T → Set (T × IoPath)
  | .locked thread ioPath => insert (thread, ioPath) held
  | .lockFailed _ _ _ => held
  | .unlocked thread ioPath => held \ {(thread, ioPath)}
  | .unlockFailed _ _ _ => held
  | .unlockedAll thread _ => {lock ∈ held | lock.1 ≠ thread}

def held (log : List (LockEvent T)) : Set (T × IoPath) := log.foldl LockEvent.apply ∅

theorem held_append_singleton (log : List (LockEvent T)) (e : LockEvent T) : held (log ++ [e]) = e.apply (held log) := by
  unfold held
  rw [foldl_append, foldl_cons, foldl_nil]

def Owns (lockRecords : List (DisplayLockRecord T)) (thread : T) (ioPath : IoPath) : Prop :=
  ∃ dlr ∈ lockRecords, dlr.ioPath = ioPath ∧ dlr.displayMutexThread = some thread

/-- **The owner in a record is the thread that holds its mutex**, or nobody. -/
structure OwnerAgrees (threadId : T → Int) (dlr : DisplayLockRecord T) : Prop where
  owner : dlr.displayMutexThread = dlr.displayMutex
  tid : dlr.linuxThreadId = dlr.displayMutex.elim 0 threadId

/-- **What the records keep**: one for each path, and each with its holder as the owner. -/
structure RecordsInv (threadId : T → Int) (lockRecords : List (DisplayLockRecord T)) : Prop where
  paths : (lockRecords.map DisplayLockRecord.ioPath).Nodup
  owners : ∀ dlr ∈ lockRecords, OwnerAgrees threadId dlr

/-- **The invariant**: the owners in the records are the threads that hold locks by the results of the calls. -/
structure LockInv (threadId : T → Int) (s : LockState T) : Prop where
  records : RecordsInv threadId s.lockRecords
  attempts : ∀ thread attempt, s.attempt thread = some attempt → attempt.ndx < s.lockRecords.length
  held : ∀ thread ioPath, (thread, ioPath) ∈ held s.log ↔ Owns s.lockRecords thread ioPath

/-! ## Records -/

section Records

variable {threadId : T → Int} {lockRecords : List (DisplayLockRecord T)} {dlr : DisplayLockRecord T} {ndx : Nat}

theorem agrees_create (ioPath : IoPath) : OwnerAgrees threadId (createDisplayLockRecord ioPath) := ⟨rfl, rfl⟩

theorem owns_append_create (ioPath : IoPath) (thread : T) (ioPath' : IoPath) :
    Owns (lockRecords ++ [createDisplayLockRecord ioPath]) thread ioPath' ↔ Owns lockRecords thread ioPath' := by
  constructor
  · rintro ⟨dlr, hdlr, hpath, howner⟩
    rcases mem_append.1 hdlr with hdlr | hdlr
    · exact ⟨dlr, hdlr, hpath, howner⟩
    · rw [mem_singleton.1 hdlr] at howner; cases howner
  · rintro ⟨dlr, hdlr, hpath, howner⟩
    exact ⟨dlr, mem_append_left _ hdlr, hpath, howner⟩

theorem eq_of_paths (hpaths : (lockRecords.map DisplayLockRecord.ioPath).Nodup) (hdlr : lockRecords[ndx]? = some dlr)
    {dlr' : DisplayLockRecord T} (hdlr' : dlr' ∈ lockRecords) (hpath : dlr'.ioPath = dlr.ioPath) : dlr' = dlr :=
  inj_on_of_nodup_map hpaths hdlr' (mem_of_getElem? hdlr) hpath

theorem paths_set (hdlr : lockRecords[ndx]? = some dlr) {dlr' : DisplayLockRecord T} (hpath : dlr'.ioPath = dlr.ioPath) :
    (lockRecords.set ndx dlr').map DisplayLockRecord.ioPath = lockRecords.map DisplayLockRecord.ioPath := by
  rw [map_set]
  apply ext_getElem?
  intro i
  rw [getElem?_set]
  split
  · rename_i hi
    subst hi
    have hlt := (List.getElem?_eq_some_iff.1 hdlr).1
    rw [length_map, if_pos hlt, getElem?_map, hdlr, Option.map_some, hpath]
  · rfl

theorem owns_set (hpaths : (lockRecords.map DisplayLockRecord.ioPath).Nodup) (hdlr : lockRecords[ndx]? = some dlr)
    {dlr' : DisplayLockRecord T} (hpath : dlr'.ioPath = dlr.ioPath) (thread : T) (ioPath : IoPath) :
    Owns (lockRecords.set ndx dlr') thread ioPath ↔
      if ioPath = dlr.ioPath then dlr'.displayMutexThread = some thread else Owns lockRecords thread ioPath := by
  have hlt := (List.getElem?_eq_some_iff.1 hdlr).1
  have hpaths' : ((lockRecords.set ndx dlr').map DisplayLockRecord.ioPath).Nodup := by rwa [paths_set hdlr hpath]
  have hself : (lockRecords.set ndx dlr')[ndx]? = some dlr' := by rw [getElem?_set_self hlt]
  have hother : ∀ d, d.ioPath ≠ dlr.ioPath → (d ∈ lockRecords.set ndx dlr' ↔ d ∈ lockRecords) := by
    intro d hd
    constructor
    · intro h
      rcases mem_or_eq_of_mem_set h with h | rfl
      · exact h
      · exact absurd hpath hd
    · intro h
      obtain ⟨i, hi⟩ := mem_iff_getElem?.1 h
      have hne : ndx ≠ i := by
        rintro rfl
        rw [hdlr] at hi
        cases hi; exact hd rfl
      exact mem_iff_getElem?.2 ⟨i, by rw [getElem?_set_ne hne, hi]⟩
  split
  · rename_i hsame
    subst hsame
    constructor
    · rintro ⟨d, hd, hdpath, howner⟩
      rwa [eq_of_paths hpaths' hself hd (hdpath.trans hpath.symm)] at howner
    · exact fun howner => ⟨dlr', mem_of_getElem? hself, hpath, howner⟩
  · rename_i hne
    constructor
    · rintro ⟨d, hd, rfl, howner⟩
      exact ⟨d, (hother d hne).1 hd, rfl, howner⟩
    · rintro ⟨d, hd, rfl, howner⟩
      exact ⟨d, (hother d hne).2 hd, rfl, howner⟩

theorem getDisplayLockRecordByDpath_spec (lockRecords : List (DisplayLockRecord T)) (ioPath : IoPath) :
    ∃ dlr, (getDisplayLockRecordByDpath lockRecords ioPath).2[(getDisplayLockRecordByDpath lockRecords ioPath).1]? =
        some dlr ∧ dlr.ioPath = ioPath ∧
      ((getDisplayLockRecordByDpath lockRecords ioPath).2 = lockRecords ∨
        (getDisplayLockRecordByDpath lockRecords ioPath).2 = lockRecords ++ [createDisplayLockRecord ioPath] ∧
          dlr = createDisplayLockRecord ioPath ∧ ∀ d ∈ lockRecords, d.ioPath ≠ ioPath) := by
  unfold getDisplayLockRecordByDpath
  dsimp only
  by_cases hfound : lockRecords.findIdx (fun dlr => dlr.ioPath = ioPath) < lockRecords.length
  · rw [if_pos hfound]
    refine ⟨lockRecords[lockRecords.findIdx fun dlr => dlr.ioPath = ioPath], getElem?_eq_getElem hfound, ?_,
      .inl rfl⟩
    have := findIdx_getElem (w := hfound)
    simpa using this
  · rw [if_neg hfound]
    have hall : ∀ d ∈ lockRecords, d.ioPath ≠ ioPath := by
      intro d hd heq; exact hfound (findIdx_lt_length_of_exists ⟨d, hd, by simpa using heq⟩)
    have hlen : lockRecords.findIdx (fun dlr => dlr.ioPath = ioPath) = lockRecords.length :=
      Nat.le_antisymm findIdx_le_length (Nat.le_of_not_lt hfound)
    rw [hlen]
    exact ⟨createDisplayLockRecord ioPath, getElem?_concat_length, rfl, .inr ⟨rfl, rfl, hall⟩⟩

theorem owns_of_getElem (hpaths : (lockRecords.map DisplayLockRecord.ioPath).Nodup) (hdlr : lockRecords[ndx]? = some dlr)
    (thread : T) : Owns lockRecords thread dlr.ioPath ↔ dlr.displayMutexThread = some thread := by
  constructor
  · rintro ⟨d, hd, hpath, howner⟩
    rwa [eq_of_paths hpaths hdlr hd hpath] at howner
  · exact fun howner => ⟨dlr, mem_of_getElem? hdlr, rfl, howner⟩

theorem RecordsInv.found (hinv : RecordsInv threadId lockRecords) (ioPath : IoPath) :
    RecordsInv threadId (getDisplayLockRecordByDpath lockRecords ioPath).2 ∧
      lockRecords.length ≤ (getDisplayLockRecordByDpath lockRecords ioPath).2.length ∧
      ∀ thread ioPath', Owns (getDisplayLockRecordByDpath lockRecords ioPath).2 thread ioPath' ↔
        Owns lockRecords thread ioPath' := by
  obtain ⟨dlr, -, -, hsame | ⟨hnew, -, hall⟩⟩ := getDisplayLockRecordByDpath_spec lockRecords ioPath
  · rw [hsame]; exact ⟨hinv, Nat.le_refl _, fun _ _ => .rfl⟩
  · rw [hnew]
    refine ⟨⟨?_, fun d hd => ?_⟩, ?_, fun thread ioPath' => owns_append_create ioPath thread ioPath'⟩
    · rw [map_append, map_singleton, nodup_append]
      refine ⟨hinv.paths, nodup_singleton _, fun path hpath path' hpath' => ?_⟩
      obtain ⟨d, hd, rfl⟩ := mem_map.1 hpath
      rw [mem_singleton.1 hpath']; exact hall d hd
    · rcases mem_append.1 hd with hd | hd
      · exact hinv.owners d hd
      · rw [mem_singleton.1 hd]; exact agrees_create ioPath
    · rw [length_append]; exact Nat.le_add_right _ _

theorem RecordsInv.set (hinv : RecordsInv threadId lockRecords) (hdlr : lockRecords[ndx]? = some dlr)
    {dlr' : DisplayLockRecord T} (hpath : dlr'.ioPath = dlr.ioPath) (hagrees : OwnerAgrees threadId dlr') :
    RecordsInv threadId (lockRecords.set ndx dlr') := by
  refine ⟨?_, fun d hd => ?_⟩
  · rw [paths_set hdlr hpath]; exact hinv.paths
  · rcases mem_or_eq_of_mem_set hd with hd | rfl
    · exact hinv.owners d hd
    · exact hagrees

def released (dlr : DisplayLockRecord T) : DisplayLockRecord T := createDisplayLockRecord dlr.ioPath

variable [DecidableEq T] {self : T}

theorem releaseRecord_owner (hagrees : OwnerAgrees threadId dlr) (howner : dlr.displayMutexThread = some self) :
    releaseRecord self dlr = .ok (released dlr) := by
  rw [releaseRecord, gMutexUnlock, check_pos (hagrees.owner ▸ howner)]; rfl

def releasedBy (self : T) (dlr : DisplayLockRecord T) : DisplayLockRecord T :=
  if dlr.displayMutexThread = some self then released dlr else dlr

theorem unlockRecords_spec (howners : ∀ dlr ∈ lockRecords, OwnerAgrees threadId dlr) :
    unlockRecords self lockRecords =
      .ok (lockRecords.countP fun dlr => dlr.displayMutexThread = some self, lockRecords.map (releasedBy self)) := by
  induction lockRecords with
  | nil => rfl
  | cons dlr dlrs ih =>
    have hrest := ih fun d hd => howners d (mem_cons_of_mem dlr hd)
    rw [unlockRecords, map_cons]
    by_cases howner : dlr.displayMutexThread = some self
    · rw [if_pos howner, releaseRecord_owner (howners dlr mem_cons_self) howner, ok_bind, hrest, ok_bind,
        countP_cons_of_pos (by simpa using howner), releasedBy, if_pos howner]
    · rw [if_neg howner, hrest, ok_bind, countP_cons_of_neg (by simpa using howner), releasedBy, if_neg howner]

theorem ioPath_releasedBy (self : T) (dlr : DisplayLockRecord T) : (releasedBy self dlr).ioPath = dlr.ioPath := by
  unfold releasedBy
  split
  · rfl
  · rfl

theorem releasedBy_owner (thread : T) :
    (releasedBy self dlr).displayMutexThread = some thread ↔ dlr.displayMutexThread = some thread ∧ thread ≠ self := by
  unfold releasedBy
  split
  · rename_i howner
    constructor
    · exact fun h => nomatch h
    · rintro ⟨h, hne⟩
      rw [howner] at h; exact absurd (Option.some.inj h).symm hne
  · rename_i howner
    constructor
    · exact fun h => ⟨h, fun heq => howner (heq ▸ h)⟩
    · exact And.left

theorem RecordsInv.releasedBy (hinv : RecordsInv threadId lockRecords) (self : T) :
    RecordsInv threadId (lockRecords.map (Ddc.releasedBy self)) := by
  refine ⟨?_, fun d hd => ?_⟩
  · have hmap : lockRecords.map (DisplayLockRecord.ioPath ∘ Ddc.releasedBy self) =
        lockRecords.map DisplayLockRecord.ioPath := map_congr_left fun dlr _ => ioPath_releasedBy self dlr
    rw [map_map, hmap]; exact hinv.paths
  · obtain ⟨dlr, hdlr, rfl⟩ := mem_map.1 hd
    unfold Ddc.releasedBy
    split
    · exact agrees_create dlr.ioPath
    · exact hinv.owners dlr hdlr

theorem owns_releasedBy (thread : T) (ioPath : IoPath) :
    Owns (lockRecords.map (releasedBy self)) thread ioPath ↔ Owns lockRecords thread ioPath ∧ thread ≠ self := by
  constructor
  · rintro ⟨d, hd, hpath, howner⟩
    obtain ⟨dlr, hdlr, rfl⟩ := mem_map.1 hd
    obtain ⟨howner', hne⟩ := (releasedBy_owner thread).1 howner
    exact ⟨⟨dlr, hdlr, ioPath_releasedBy self dlr ▸ hpath, howner'⟩, hne⟩
  · rintro ⟨⟨dlr, hdlr, hpath, howner⟩, hne⟩
    exact ⟨releasedBy self dlr, mem_map_of_mem hdlr, (ioPath_releasedBy self dlr).trans hpath,
      (releasedBy_owner thread).2 ⟨howner, hne⟩⟩

end Records

/-! ## Steps -/

section Steps

variable [DecidableEq T] {threadId : T → Int} {s : LockState T}

theorem attempts_update {n : Nat} {attempt : T → Option LockAttempt} {self : T} {new : Option LockAttempt}
    (hold : ∀ thread a, attempt thread = some a → a.ndx < n) (hnew : ∀ a, new = some a → a.ndx < n) :
    ∀ thread a, Function.update attempt self new thread = some a → a.ndx < n := by
  intro thread a h
  by_cases hself : thread = self
  · subst hself
    rw [Function.update_self] at h; exact hnew a h
  · rw [Function.update_of_ne hself] at h; exact hold thread a h

theorem lockStep_lock (hinv : LockInv threadId s) (self : T) (ioPath : IoPath) (wait : Bool) :
    ∃ s', lockStep threadId s (.lock self ioPath wait) = .ok s' ∧ LockInv threadId s' := by
  obtain ⟨hrecords, hlen, howns⟩ := hinv.records.found ioPath
  obtain ⟨dlr, hdlr, -, -⟩ := getDisplayLockRecordByDpath_spec s.lockRecords ioPath
  have hndx := (List.getElem?_eq_some_iff.1 hdlr).1
  unfold lockStep
  dsimp only
  rw [fetch_eq_ok.2 hdlr, ok_bind]
  have hattempts : ∀ thread a, s.attempt thread = some a →
      a.ndx < (getDisplayLockRecordByDpath s.lockRecords ioPath).2.length :=
    fun thread a h => Nat.lt_of_lt_of_le (hinv.attempts thread a h) hlen
  split
  · refine ⟨_, rfl, hrecords, hattempts, fun thread ioPath' => ?_⟩
    rw [held_append_singleton, howns]; exact hinv.held thread ioPath'
  · refine ⟨_, rfl, hrecords, ?_, fun thread ioPath' => ?_⟩
    · apply attempts_update hattempts
      rintro a ⟨⟩
      exact hndx
    · rw [howns]; exact hinv.held thread ioPath'

theorem lockStep_tryLock (hinv : LockInv threadId s) (self : T) :
    ∃ s', lockStep threadId s (.tryLock self) = .ok s' ∧ LockInv threadId s' := by
  unfold lockStep
  dsimp only
  cases hattempt : s.attempt self with
  | none => exact ⟨s, rfl, hinv⟩
  | some attempt =>
    have hndx := hinv.attempts self attempt hattempt
    have hdlr : s.lockRecords[attempt.ndx]? = some s.lockRecords[attempt.ndx] := getElem?_eq_getElem hndx
    generalize s.lockRecords[attempt.ndx] = dlr at hdlr
    dsimp only
    rw [fetch_eq_ok.2 hdlr, ok_bind]
    refine ⟨_, rfl, ?_⟩
    unfold tryLockDisplay
    by_cases hfree : dlr.displayMutex = none
    · rw [if_pos hfree]
      refine ⟨hinv.records.set hdlr rfl ⟨rfl, rfl⟩, ?_, fun thread ioPath => ?_⟩
      · rw [length_set]; exact attempts_update hinv.attempts fun a h => nomatch h
      · have hnobody : dlr.displayMutexThread = none :=
          (hinv.records.owners dlr (mem_of_getElem? hdlr)).owner.trans hfree
        have hheld := hinv.held thread ioPath
        have hpath : (⟨dlr.ioPath, some self, some self, threadId self⟩ : DisplayLockRecord T).ioPath = dlr.ioPath := rfl
        have howns := owns_set hinv.records.paths hdlr hpath thread ioPath
        rw [held_append_singleton, howns]
        change (thread, ioPath) ∈ insert (self, dlr.ioPath) (held s.log) ↔ _
        rw [Set.mem_insert_iff, Prod.mk.injEq]
        split
        · rename_i hpath
          subst hpath
          rw [owns_of_getElem hinv.records.paths hdlr, hnobody] at hheld
          constructor
          · rintro (⟨rfl, -⟩ | hmem)
            · rfl
            · exact nomatch hheld.1 hmem
          · exact fun h => .inl ⟨(Option.some.inj h).symm, rfl⟩
        · rename_i hpath
          rw [← hheld]
          constructor
          · rintro (⟨-, heq⟩ | hmem)
            · exact absurd heq hpath
            · exact hmem
          · exact .inr
    · rw [if_neg hfree]
      dsimp only
      split
      · have hnew : ∀ a : LockAttempt, some { attempt with
            totalWaitMillisec := attempt.totalWaitMillisec + defaultOpenWaitIntervalMillisec
            tryctr := attempt.tryctr + 1 } = some a → a.ndx < s.lockRecords.length := by
          rintro a ⟨⟩
          exact hndx
        exact ⟨hinv.records, attempts_update hinv.attempts hnew, hinv.held⟩
      · refine ⟨hinv.records, attempts_update hinv.attempts (fun a h => nomatch h), fun thread ioPath => ?_⟩
        rw [held_append_singleton]; exact hinv.held thread ioPath

theorem lockStep_unlock_other {self : T} {ioPath : IoPath} (h : ¬ Owns s.lockRecords self ioPath) :
    lockStep threadId s (.unlock self ioPath) =
      .ok { s with
        lockRecords := (getDisplayLockRecordByDpath s.lockRecords ioPath).2
        log := s.log ++ [.unlockFailed self ioPath notOwnerError] } := by
  obtain ⟨dlr, hdlr, hpath, hfound⟩ := getDisplayLockRecordByDpath_spec s.lockRecords ioPath
  have hother : dlr.displayMutexThread ≠ some self := by
    intro howner
    rcases hfound with hsame | ⟨-, rfl, -⟩
    · rw [hsame] at hdlr; exact h ⟨dlr, mem_of_getElem? hdlr, hpath, howner⟩
    · cases howner
  have hset : (getDisplayLockRecordByDpath s.lockRecords ioPath).2.set
      (getDisplayLockRecordByDpath s.lockRecords ioPath).1 dlr = (getDisplayLockRecordByDpath s.lockRecords ioPath).2 := by
    obtain ⟨hlt, hget⟩ := List.getElem?_eq_some_iff.1 hdlr
    rw [← hget, set_getElem_self]
  unfold lockStep
  dsimp only
  rw [fetch_eq_ok.2 hdlr, ok_bind, unlockDisplay, if_pos hother, ok_bind, hset]

section
variable (hinv : LockInv threadId s)
include hinv

theorem lockStep_unlock_owner {self : T} {ioPath : IoPath} (h : Owns s.lockRecords self ioPath) :
    ∃ s', lockStep threadId s (.unlock self ioPath) = .ok s' ∧ LockInv threadId s' := by
  obtain ⟨dlr, hdlr, hpath, hfound⟩ := getDisplayLockRecordByDpath_spec s.lockRecords ioPath
  have hsame : (getDisplayLockRecordByDpath s.lockRecords ioPath).2 = s.lockRecords := by
    rcases hfound with hsame | ⟨-, -, hall⟩
    · exact hsame
    · obtain ⟨d, hd, hdpath, -⟩ := h
      exact absurd hdpath (hall d hd)
  rw [hsame] at hdlr
  subst hpath
  have howner := (owns_of_getElem hinv.records.paths hdlr self).1 h
  have hrelease := releaseRecord_owner (hinv.records.owners dlr (mem_of_getElem? hdlr)) howner
  unfold lockStep
  dsimp only
  rw [hsame, fetch_eq_ok.2 hdlr, ok_bind, unlockDisplay, if_neg (not_not.2 howner), hrelease, ok_bind,
    ok_bind]
  refine ⟨_, rfl, hinv.records.set hdlr rfl (agrees_create dlr.ioPath), ?_, fun thread ioPath => ?_⟩
  · rw [length_set]; exact hinv.attempts
  · have hheld := hinv.held thread ioPath
    have hnobody : (released dlr).ioPath = dlr.ioPath := rfl
    rw [held_append_singleton, owns_set hinv.records.paths hdlr hnobody]
    change (thread, ioPath) ∈ held s.log \ {(self, dlr.ioPath)} ↔ _
    rw [Set.mem_sdiff, Set.mem_singleton_iff, Prod.mk.injEq, hheld]
    split
    · rename_i hpath
      subst hpath
      rw [owns_of_getElem hinv.records.paths hdlr, howner]
      constructor
      · rintro ⟨hthread, hne⟩
        exact absurd ⟨(Option.some.inj hthread).symm, rfl⟩ hne
      · exact fun h => nomatch h
    · rename_i hne; exact ⟨And.left, fun h => ⟨h, fun heq => hne heq.2⟩⟩

theorem lockStep_unlock (self : T) (ioPath : IoPath) :
    ∃ s', lockStep threadId s (.unlock self ioPath) = .ok s' ∧ LockInv threadId s' := by
  by_cases h : Owns s.lockRecords self ioPath
  · exact lockStep_unlock_owner hinv h
  · obtain ⟨hrecords, hlen, howns⟩ := hinv.records.found ioPath
    refine ⟨_, lockStep_unlock_other h, hrecords, fun thread a ha => ?_, fun thread ioPath' => ?_⟩
    · exact Nat.lt_of_lt_of_le (hinv.attempts thread a ha) hlen
    · rw [held_append_singleton, howns]; exact hinv.held thread ioPath'

theorem lockStep_unlockAll (self : T) :
    ∃ s', lockStep threadId s (.unlockAll self) = .ok s' ∧ LockInv threadId s' := by
  unfold lockStep
  dsimp only
  rw [unlockRecords_spec hinv.records.owners, ok_bind]
  refine ⟨_, rfl, hinv.records.releasedBy self, ?_, fun thread ioPath => ?_⟩
  · rw [length_map]; exact hinv.attempts
  · rw [held_append_singleton, owns_releasedBy, ← hinv.held]; exact .rfl

theorem LockInv.step (call : LockCall T) : ∃ s', lockStep threadId s call = .ok s' ∧ LockInv threadId s' := by
  cases call with
  | lock self ioPath wait => exact lockStep_lock hinv self ioPath wait
  | tryLock self => exact lockStep_tryLock hinv self
  | unlock self ioPath => exact lockStep_unlock hinv self ioPath
  | unlockAll self => exact lockStep_unlockAll hinv self

end

omit [DecidableEq T] in
theorem LockInv.empty : LockInv threadId (LockState.empty : LockState T) where
  records := ⟨nodup_nil, fun _ h => nomatch h⟩
  attempts := fun _ _ h => nomatch h
  held := by
    intro thread ioPath
    constructor
    · exact fun h => absurd h (Set.notMem_empty _)
    · rintro ⟨_, h, -⟩
      cases h

theorem LockInv.reachable (h : LockReachable threadId s) : LockInv threadId s :=
  Reachable.inv (fun _ hs => hs ▸ LockInv.empty) (fun _ call hinv _ => hinv.step call) h

end Steps

/-! ## The rules -/

section Rules

variable [DecidableEq T] {threadId : T → Int}

structure LockRules (threadId : T → Int) (s : LockState T) : Prop where
  onePerPath : (s.lockRecords.map DisplayLockRecord.ioPath).Nodup
  owner : ∀ dlr ∈ s.lockRecords, dlr.displayMutexThread = dlr.displayMutex
  ownerHeld : ∀ thread ioPath, Owns s.lockRecords thread ioPath ↔ (thread, ioPath) ∈ held s.log
  secondLock : ∀ self ioPath wait, Owns s.lockRecords self ioPath →
    lockStep threadId s (.lock self ioPath wait) =
      .ok { s with log := s.log ++ [.lockFailed self ioPath alreadyOpenError] }
  unlockByOther : ∀ self ioPath, ¬ Owns s.lockRecords self ioPath →
    ∃ lockRecords, lockStep threadId s (.unlock self ioPath) =
        .ok { s with lockRecords := lockRecords, log := s.log ++ [.unlockFailed self ioPath notOwnerError] } ∧
      (lockRecords = s.lockRecords ∨ lockRecords = s.lockRecords ++ [createDisplayLockRecord ioPath])
  releasedAll : ∀ thread, (∀ ioPath, (thread, ioPath) ∉ held s.log) →
    ∀ dlr ∈ s.lockRecords, dlr.displayMutexThread ≠ some thread
  noFault : ∀ call, ∃ s', lockStep threadId s call = .ok s'

theorem lockStep_lock_owner {s : LockState T} (hinv : LockInv threadId s) {self : T} {ioPath : IoPath}
    (h : Owns s.lockRecords self ioPath) (wait : Bool) :
    lockStep threadId s (.lock self ioPath wait) =
      .ok { s with log := s.log ++ [.lockFailed self ioPath alreadyOpenError] } := by
  obtain ⟨dlr, hdlr, rfl, hfound⟩ := getDisplayLockRecordByDpath_spec s.lockRecords ioPath
  have hsame : (getDisplayLockRecordByDpath s.lockRecords dlr.ioPath).2 = s.lockRecords := by
    rcases hfound with hsame | ⟨-, -, hall⟩
    · exact hsame
    · obtain ⟨d, hd, hdpath, -⟩ := h
      exact absurd hdpath (hall d hd)
  rw [hsame] at hdlr
  have howner := (owns_of_getElem hinv.records.paths hdlr self).1 h
  unfold lockStep
  dsimp only
  rw [hsame, fetch_eq_ok.2 hdlr, ok_bind, if_pos howner]

/-- **Display locks**: in every state that threads reach, in any order of their calls and of the tries within them,
the records follow the rules. -/
theorem lockRules_of_reachable {s : LockState T} (h : LockReachable threadId s) : LockRules threadId s := by
  have hinv := LockInv.reachable h
  refine ⟨hinv.records.paths, fun dlr hdlr => (hinv.records.owners dlr hdlr).owner,
    fun thread ioPath => (hinv.held thread ioPath).symm, fun self ioPath wait howns => lockStep_lock_owner hinv howns wait, fun self ioPath hother => ?_,
    fun thread hnone dlr hdlr howner => ?_, fun call => ?_⟩
  · refine ⟨_, lockStep_unlock_other hother, ?_⟩
    obtain ⟨dlr, -, -, hsame | ⟨hnew, -, -⟩⟩ := getDisplayLockRecordByDpath_spec s.lockRecords ioPath
    · exact .inl hsame
    · exact .inr hnew
  · exact hnone dlr.ioPath ((hinv.held thread dlr.ioPath).2 ⟨dlr, hdlr, rfl, howner⟩)
  · obtain ⟨s', hs', -⟩ := hinv.step call
    exact ⟨s', hs'⟩

theorem LockReachable.next {s s' : LockState T} (h : LockReachable threadId s) (call : LockCall T)
    (hc : LockCallable s call) (hs : lockStep threadId s call = .ok s') : LockReachable threadId s' :=
  Reachable.step h hc hs

/-- One thread locks a display, and another that asks for it goes on trying. -/
theorem lockRules_twoThreads :
    ∃ s : LockState Nat, s.log.length = 1 ∧ Owns s.lockRecords 1 (.i2c 4) ∧ (s.attempt 2).isSome = true ∧
      LockRules Int.ofNat s := by
  have h0 : LockReachable Int.ofNat LockState.empty := Reachable.start rfl
  have h1 := h0.next (.lock 1 (.i2c 4) true) rfl rfl
  have h2 := h1.next (.tryLock 1) ⟨_, rfl, fun _ _ hdlr => by cases hdlr; rfl⟩ rfl
  have h3 := h2.next (.lock 2 (.i2c 4) false) rfl rfl
  have h4 := h3.next (.tryLock 2) ⟨_, rfl, fun hwait => nomatch hwait⟩ rfl
  exact ⟨_, rfl, ⟨_, mem_cons_self, rfl, rfl⟩, rfl, lockRules_of_reachable h4⟩

end Rules

end Ddc
