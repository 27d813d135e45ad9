import Ddcutil.AppSetvcp
import Ddcutil.DeferredSleep
/-!
# Failsim — failures that are simulated (failsim.c)

A control file names functions whose calls are to fail.  Each line gives a function, a status code and an occurrence:
`7` is the seventh call and `*7` every seventh.  The numbers are read by `strtol()` and kept as `int`.
-/
namespace Ddc

open Kit List Exec

def asterisk : Byte := 0x2a

/-! ## The table -/

inductive FsimCallOccType where
  | recurring | single
  deriving DecidableEq, Repr

structure FsimCallOccRec where
  callOccType : FsimCallOccType
  occno : Int
  rc : Int
  deriving DecidableEq, Repr

structure FsimFuncRec where
  callct : Int
  callOccRecs : List FsimCallOccRec

abbrev FsimTable := List Byte → Option FsimFuncRec

namespace FsimTable

def new : FsimTable := fun _ => none

def put (fst : FsimTable) (funcname : List Byte) (frec : FsimFuncRec) : FsimTable :=
  fun name => if name = funcname then some frec else fst name

@[simp] theorem put_self (fst : FsimTable) (funcname : List Byte) (frec : FsimFuncRec) :
    fst.put funcname frec funcname = some frec := if_pos rfl

theorem put_ne (fst : FsimTable) {funcname name : List Byte} (frec : FsimFuncRec) (h : name ≠ funcname) :
    fst.put funcname frec name = fst name := if_neg h

end FsimTable

structure Failsim where
  fst : Option FsimTable
  failsimEnabled : Bool

def fsimGetOrCreateFuncRec (fst : FsimTable) (funcname : List Byte) : FsimFuncRec := (fst funcname).getD ⟨0, []⟩

def fsimAddError (fst : FsimTable) (funcname : List Byte) (occ : FsimCallOccRec) : FsimTable :=
  let frec := fsimGetOrCreateFuncRec fst funcname
  fst.put funcname ⟨frec.callct, frec.callOccRecs ++ [occ]⟩

/-! ## Loading -/

abbrev CInt := { n : Int // isInt n }

structure FsimNames where
  nameToNumber : Option (List Byte → Option CInt)
  unmodulatedNameToNumber : Option (List Byte → Option CInt)

/-- Whether a name is one of a modulated status code, and the name without what says so. -/
def rcName (rcString : List Byte) : Bool × List Byte :=
  if strStartsWith rcString (ascii "modulated:") then (true, rcString.drop 10)
  else if strStartsWith rcString (ascii "base:") then (false, rcString.drop 5)
  else (true, rcString)

def FsimNames.find (names : FsimNames) (isModulated : Bool) (name : List Byte) : Option Int :=
  if name = [] then none
  else
    match if isModulated then names.nameToNumber else names.unmodulatedNameToNumber with
    | some f => (f name).map Subtype.val
    | none => none

def evalFsimRc (names : FsimNames) (rcString : List Byte) : Option Int :=
  let answer := strtol rcString 10
  if answer.rest = [] then some (int32 answer.value)
  else if rcString = ascii "true" then some 1
  else if rcString = ascii "false" then some 0
  else names.find (rcName rcString).1 (rcName rcString).2

def occdefOf (piece : List Byte) : FsimCallOccType × List Byte :=
  if piece.head? = some asterisk then (.recurring, piece.drop 1) else (.single, piece)

def occnoOf (occdef : List Byte) : Option Int :=
  if occdef = [] then none
  else
    let n := strtol occdef 10
    if n.rest ≠ [] then none else some (int32 n.value)

def controlLine (names : FsimNames) (trimmedLine : List Byte) : Option (List Byte × FsimCallOccRec) :=
  match strsplit trimmedLine [blank] with
  | [funcname, status, occurrence] => do
    let fsimRc ← evalFsimRc names status
    let occno ← occnoOf (occdefOf occurrence).2
    some (funcname, ⟨(occdefOf occurrence).1, occno, fsimRc⟩)
  | _ => none

def isControlComment (trimmedLine : List Byte) : Bool :=
  trimmedLine = [] || trimmedLine.head? = some 0x23 || trimmedLine.head? = some asterisk

structure FsimLoading where
  ok : Bool
  fst : FsimTable
  errmsgs : List (List Byte)

def loadControlLine (names : FsimNames) (st : FsimLoading) (aline : List Byte) : FsimLoading :=
  if isControlComment (strtrim aline) then st
  else
    match controlLine names (strtrim aline) with
    | some (funcname, occ) => { st with fst := fsimAddError st.fst funcname occ }
    | none => { st with ok := false, errmsgs := st.errmsgs ++ [ascii "Invalid control file line: " ++ aline] }

def fsimLoadControlFromGptrarray (names : FsimNames) (fs : Failsim) (lines : List (List Byte)) :
    Bool × List (List Byte) × Failsim :=
  let st := lines.foldl (loadControlLine names) ⟨true, FsimTable.new, []⟩
  (st.ok, st.errmsgs, ⟨some st.fst, fs.failsimEnabled || st.ok⟩)

structure FailsimResult where
  forceFailure : Bool
  failureValue : Int
  deriving DecidableEq, Repr

def callOccurs (callct : Int) (occRec : FsimCallOccRec) : Exec Bool :=
  match occRec.callOccType with
  | .recurring => if occRec.occno = 0 then .error .divByZero else .ok (callct.tmod occRec.occno = 0)
  | .single => .ok (callct = occRec.occno)

def failsimResult : Option FsimCallOccRec → FailsimResult
  | some occRec => ⟨true, occRec.rc⟩
  | none => ⟨false, 0⟩

def fsimCheckFailure (fs : Failsim) (funcname : List Byte) : Exec (FailsimResult × Failsim) :=
  match fs.fst with
  | none => .ok (⟨false, 0⟩, fs)
  | some fst =>
    match fst funcname with
    | none => .ok (⟨false, 0⟩, fs)
    | some frec => do
      let callct := int32 (frec.callct + 1)
      let occRec ← frec.callOccRecs.findM? (callOccurs callct)
      .ok (failsimResult occRec, { fs with fst := some (fst.put funcname ⟨callct, frec.callOccRecs⟩) })

def fsimChecks : Failsim → List (List Byte) → Exec (List FailsimResult × Failsim)
  | fs, [] => .ok ([], fs)
  | fs, funcname :: calls => do
    let (result, fs) ← fsimCheckFailure fs funcname
    let (results, fs) ← fsimChecks fs calls
    .ok (result :: results, fs)

/-! ## What a control file asks for -/

def writtenNumber (s : List Byte) : Option Int := wholeNumber 10 (signedText 10 s)

structure ControlEntry where
  funcname : List Byte
  recurring : Bool
  occurrence : Int
  statusCode : Int

def writtenStatus (names : FsimNames) (s : List Byte) : Option Int :=
  match writtenNumber s with
  | some n => some n
  | none =>
    if s = ascii "true" then some 1
    else if s = ascii "false" then some 0
    else names.find (rcName s).1 (rcName s).2

/-- **What a line says**, if it is no comment and has three words with a status code and an occurrence. -/
def controlEntry (names : FsimNames) (aline : List Byte) : Option ControlEntry :=
  if isControlComment (strtrim aline) then none
  else
    match strsplit (strtrim aline) [blank] with
    | [funcname, status, occurrence] => do
      let statusCode ← writtenStatus names status
      let n ← writtenNumber (if occurrence.head? = some asterisk then occurrence.drop 1 else occurrence)
      some ⟨funcname, occurrence.head? = some asterisk, n, statusCode⟩
    | _ => none

/-- **The `k`th call is one that an occurrence is for**: it is the `n`th, or `n` divides its number. -/
def AppliesTo (recurring : Bool) (n : Int) (k : Nat) : Prop := if recurring then n ∣ (k : Int) else (k : Int) = n

instance (recurring : Bool) (n : Int) (k : Nat) : Decidable (AppliesTo recurring n k) :=
  inferInstanceAs (Decidable (if recurring = true then n ∣ (k : Int) else (k : Int) = n))

def entriesFor (names : FsimNames) (lines : List (List Byte)) (funcname : List Byte) : List ControlEntry :=
  (lines.filterMap (controlEntry names)).filter fun e => e.funcname = funcname

/-- **What is asked for at the `k`th call for a function**: the status code of the first line that the call is one for,
and no failure if there is none. -/
def askedFor (entries : List ControlEntry) (k : Nat) : FailsimResult :=
  match entries.find? fun e => AppliesTo e.recurring e.occurrence k with
  | some e => ⟨true, e.statusCode⟩
  | none => ⟨false, 0⟩

/-- **What is promised**: after a load that accepted the file, whatever was loaded before, the calls return, and the
`k`th call for a function gives what the file asks for. -/
def ChecksRight (names : FsimNames) (lines calls : List (List Byte)) : Prop :=
  ∀ fs errmsgs fs', fsimLoadControlFromGptrarray names fs lines = (true, errmsgs, fs') →
    ∃ results fs'', fsimChecks fs' calls = .ok (results, fs'') ∧ results.length = calls.length ∧
      ∀ before funcname after, calls = before ++ funcname :: after →
        results[before.length]? = some (askedFor (entriesFor names lines funcname) (before.count funcname + 1))

def keptInt (n : Int) : Int := int32 (max longMin (min longMax n))

/-- **A line is taken for another at the `k`th call**: there is a division by 0, or the number that is kept is one that
the call is for and the number that is written is not. -/
def ControlEntry.MisreadAt (e : ControlEntry) (k : Nat) : Prop :=
  (e.recurring = true ∧ keptInt e.occurrence = 0) ∨
    (AppliesTo e.recurring (keptInt e.occurrence) k ∧ ¬ AppliesTo e.recurring e.occurrence k)

/-- **The condition at the `k`th call for a function**: the count is an `int`, no line up to the first that the call is
for is misread, and the status code of that one is an `int`. -/
structure ReadAsWritten (entries : List ControlEntry) (k : Nat) : Prop where
  count : (k : Int) ≤ intMax
  upToFirst : ∀ before e after, entries = before ++ e :: after →
    (∀ e' ∈ before, ¬ AppliesTo e'.recurring e'.occurrence k) →
      ¬ e.MisreadAt k ∧ (AppliesTo e.recurring e.occurrence k → isInt e.statusCode)

def ControlEntry.kept (e : ControlEntry) : FsimCallOccRec :=
  ⟨if e.recurring then .recurring else .single, keptInt e.occurrence, keptInt e.statusCode⟩

/-! ## The numbers -/

variable {n : Int} {s funcname : List Byte} {fst : FsimTable} {entries : List ControlEntry} {k : Nat}
variable {calls : List (List Byte)}

theorem keptInt_of_isInt (h : isInt n) : keptInt n = n := by
  have hlong : max longMin (min longMax n) = n := by
    have hlow : longMin ≤ n := Int.le_trans (by decide) h.1
    have hhigh : n ≤ longMax := Int.le_trans h.2 (by decide)
    omega
  rw [keptInt, hlong]; exact Deferred.int32_of_range h.1 h.2

theorem strtol_of_whole (h : writtenNumber s = some n) :
    (strtol s 10).rest = [] ∧ int32 (strtol s 10).value = keptInt n := by
  by_cases hs : s = []
  · subst hs; cases h
  · unfold writtenNumber wholeNumber at h
    by_cases hwhole : (signedText 10 s).2 ≠ [] ∧ (signedText 10 s).2.all (isDigit 10) = true
    · rw [if_pos hwhole] at h
      have htake : (signedText 10 s).2.takeWhile (isDigit 10) = (signedText 10 s).2 :=
        takeWhile_eq_self_iff.2 (all_eq_true.1 hwhole.2)
      have hvalue := strtol_value (htake ▸ hwhole.1)
      rw [htake, Option.some.inj h] at hvalue
      refine ⟨(strtol_rest hs).2 hwhole, ?_⟩
      rw [hvalue]; rfl
    · rw [if_neg hwhole] at h; cases h

theorem strtol_of_not_whole (hs : s ≠ []) (h : writtenNumber s = none) : (strtol s 10).rest ≠ [] := by
  intro hrest
  unfold writtenNumber wholeNumber at h
  rw [if_pos ((strtol_rest hs).1 hrest)] at h; cases h

variable (names : FsimNames)

theorem FsimNames.find_kept (isModulated : Bool) (name : List Byte) :
    names.find isModulated name = (names.find isModulated name).map keptInt := by
  unfold FsimNames.find
  by_cases hname : name = []
  · rw [if_pos hname]; rfl
  · rw [if_neg hname]
    generalize (if isModulated then names.nameToNumber else names.unmodulatedNameToNumber) = f
    cases f with
    | none => rfl
    | some f =>
      dsimp only
      cases f name with
      | none => rfl
      | some n => exact congrArg some (keptInt_of_isInt n.2).symm

theorem evalFsimRc_eq (hs : s ≠ []) : evalFsimRc names s = (writtenStatus names s).map keptInt := by
  unfold evalFsimRc writtenStatus
  cases h : writtenNumber s with
  | some n =>
    obtain ⟨hrest, hvalue⟩ := strtol_of_whole h
    rw [if_pos hrest, hvalue]; rfl
  | none =>
    rw [if_neg (strtol_of_not_whole hs h)]
    by_cases htrue : s = ascii "true"
    · rw [if_pos htrue]; rfl
    · rw [if_neg htrue]
      by_cases hfalse : s = ascii "false"
      · rw [if_pos hfalse]; rfl
      · rw [if_neg hfalse]; exact names.find_kept _ _

theorem occnoOf_eq (s : List Byte) : occnoOf s = (writtenNumber s).map keptInt := by
  unfold occnoOf
  by_cases hs : s = []
  · subst hs; rfl
  · rw [if_neg hs]
    cases h : writtenNumber s with
    | some n =>
      obtain ⟨hrest, hvalue⟩ := strtol_of_whole h
      rw [if_neg (not_not_intro hrest), hvalue]; rfl
    | none =>
      rw [if_pos (strtol_of_not_whole hs h)]; rfl

theorem controlLine_eq {aline : List Byte} (h : isControlComment (strtrim aline) = false) :
    controlLine names (strtrim aline) = (controlEntry names aline).map fun e => (e.funcname, e.kept) := by
  rw [controlLine, controlEntry, if_neg (Bool.eq_false_iff.1 h)]
  have hpieces : ∀ piece ∈ strsplit (strtrim aline) [blank], piece ≠ [] := fun piece hp =>
    of_decide_eq_true (mem_filter.1 hp).2
  generalize strsplit (strtrim aline) [blank] = pieces at hpieces ⊢
  match pieces with
  | [] => rfl
  | [_] => rfl
  | [_, _] => rfl
  | _ :: _ :: _ :: _ :: _ => rfl
  | [funcname, status, occurrence] =>
    dsimp only
    rw [evalFsimRc_eq names (hpieces status (by simp)), occnoOf_eq]
    unfold occdefOf
    by_cases hstar : occurrence.head? = some asterisk
    · cases writtenStatus names status with
      | none => rfl
      | some statusCode =>
        cases hn : writtenNumber occurrence.tail with
        | none => simp [hstar, hn]
        | some n => simp [hstar, hn, ControlEntry.kept]
    · cases writtenStatus names status with
      | none => rfl
      | some statusCode =>
        cases hn : writtenNumber occurrence with
        | none => simp [hstar, hn]
        | some n => simp [hstar, hn, ControlEntry.kept]

/-! ## The table after a load -/

def recordFor (entries : List ControlEntry) (callct : Int) : Option FsimFuncRec :=
  if entries = [] then none else some ⟨callct, entries.map ControlEntry.kept⟩

def FsimTable.Holds (fst : FsimTable) (entries : List ControlEntry) (calls : List (List Byte)) : Prop :=
  ∀ funcname, fst funcname = recordFor (entries.filter fun e => e.funcname = funcname) (calls.count funcname)

theorem FsimTable.Holds.add (h : fst.Holds entries []) (e : ControlEntry) :
    (fsimAddError fst e.funcname e.kept).Holds (entries ++ [e]) [] := by
  intro funcname
  rw [filter_append]
  unfold fsimAddError fsimGetOrCreateFuncRec
  by_cases hname : funcname = e.funcname
  · subst hname
    rw [put_self, h, filter_singleton, decide_eq_true rfl]
    unfold recordFor
    by_cases hnone : (entries.filter fun e' => e'.funcname = e.funcname) = []
    · simp [hnone]
    · simp [hnone]
  · rw [put_ne _ _ hname, h, filter_singleton, decide_eq_false (Ne.symm hname)]; simp

theorem holds_loadControlLine {st : FsimLoading} (h : st.fst.Holds entries []) (aline : List Byte) :
    (loadControlLine names st aline).fst.Holds (entries ++ (controlEntry names aline).toList) [] := by
  unfold loadControlLine
  cases hcomment : isControlComment (strtrim aline) with
  | true =>
    rw [if_pos rfl, controlEntry, if_pos hcomment]
    simpa using h
  | false =>
    rw [if_neg Bool.false_ne_true, controlLine_eq names hcomment]
    cases controlEntry names aline with
    | none => simpa using h
    | some e => exact h.add e

theorem holds_load (lines : List (List Byte)) :
    ∀ {st : FsimLoading} {entries : List ControlEntry}, st.fst.Holds entries [] →
      (lines.foldl (loadControlLine names) st).fst.Holds (entries ++ lines.filterMap (controlEntry names)) [] := by
  induction lines with
  | nil => exact fun h => by simpa using h
  | cons aline lines ih =>
    intro st entries h
    have hrest := ih (holds_loadControlLine names h aline)
    cases hentry : controlEntry names aline with
    | none | some e => simpa [hentry] using hrest

/-! ## A call -/

theorem keptInt_of_appliesTo {recurring : Bool} (h : AppliesTo recurring n k) (hpos : 0 < k)
    (hmax : (k : Int) ≤ intMax) : keptInt n = n := by
  have himin : intMin = -2147483648 := by decide
  have himax : intMax = 2147483647 := by decide
  refine keptInt_of_isInt ?_
  unfold isInt
  cases recurring with
  | true =>
    have hle := Int.natAbs_le_of_dvd_ne_zero h (by omega)
    omega
  | false =>
    have heq : (k : Int) = n := h
    omega

theorem readAsWritten_of_ints (hmax : (k : Int) ≤ intMax)
    (h : ∀ e ∈ entries, isInt e.occurrence ∧ isInt e.statusCode ∧ (e.recurring = true → e.occurrence ≠ 0)) :
    ReadAsWritten entries k where
  count := hmax
  upToFirst before e after heq _ := by
    obtain ⟨hocc, hstatus, hzero⟩ := h e (by rw [heq]; simp)
    refine ⟨?_, fun _ => hstatus⟩
    rw [ControlEntry.MisreadAt, keptInt_of_isInt hocc]
    rintro (⟨hrec, h0⟩ | ⟨hkept, hnot⟩)
    · exact hzero hrec h0
    · exact hnot hkept

theorem callOccurs_kept {e : ControlEntry} (hpos : 0 < k) (hmax : (k : Int) ≤ intMax) (h : ¬ e.MisreadAt k) :
    callOccurs k e.kept = .ok (decide (AppliesTo e.recurring e.occurrence k)) := by
  have happlies : AppliesTo e.recurring (keptInt e.occurrence) k ↔ AppliesTo e.recurring e.occurrence k := by
    constructor
    · exact fun hkept => by_contra fun hnot => h (.inr ⟨hkept, hnot⟩)
    · intro hwritten
      rw [keptInt_of_appliesTo hwritten hpos hmax]; exact hwritten
  rw [← decide_eq_decide.2 happlies]
  obtain ⟨funcname, recurring, occurrence, statusCode⟩ := e
  cases recurring with
  | true =>
    have hzero : keptInt occurrence ≠ 0 := fun hz => h (.inl ⟨rfl, hz⟩)
    change (if keptInt occurrence = 0 then _ else _) = _
    rw [if_neg hzero]; exact congrArg Except.ok (decide_eq_decide.2 Int.dvd_iff_tmod_eq_zero.symm)
  | false => rfl

theorem ReadAsWritten.tail {e : ControlEntry} (h : ReadAsWritten (e :: entries) k)
    (hnot : ¬ AppliesTo e.recurring e.occurrence k) : ReadAsWritten entries k where
  count := h.count
  upToFirst before e' after heq hbefore := by
    refine h.upToFirst (e :: before) e' after (by rw [heq, cons_append]) fun e'' he => ?_
    rcases mem_cons.1 he with rfl | he
    · exact hnot
    · exact hbefore e'' he

theorem findM?_kept (hpos : 0 < k) : ∀ {entries : List ControlEntry}, ReadAsWritten entries k →
    (failsimResult <$> (entries.map ControlEntry.kept).findM? (callOccurs k)) = .ok (askedFor entries k) := by
  intro entries
  induction entries with
  | nil => exact fun _ => rfl
  | cons e entries ih =>
    intro h
    obtain ⟨hread, hstatus⟩ := h.upToFirst [] e entries rfl fun _ hmem => absurd hmem not_mem_nil
    rw [map_cons, List.findM?, callOccurs_kept hpos h.count hread, ok_bind]
    rw [askedFor, find?_cons]
    by_cases happlies : AppliesTo e.recurring e.occurrence k
    · rw [decide_eq_true happlies]
      change Except.ok (⟨true, keptInt e.statusCode⟩ : FailsimResult) = _
      rw [keptInt_of_isInt (hstatus happlies)]
    · rw [decide_eq_false happlies]; exact ih (h.tail happlies)

theorem count_append_self (calls : List (List Byte)) (funcname : List Byte) :
    (calls ++ [funcname]).count funcname = calls.count funcname + 1 := by
  rw [count_append, count_singleton_self]

theorem count_append_of_ne (calls : List (List Byte)) {name : List Byte} (h : name ≠ funcname) :
    (calls ++ [funcname]).count name = calls.count name := by
  rw [count_append, count_singleton, if_neg (fun heq => h (eq_of_beq heq).symm), Nat.add_zero]

theorem FsimTable.Holds.call_unknown (h : fst.Holds entries calls) (hnone : fst funcname = none) :
    fst.Holds entries (calls ++ [funcname]) ∧ entries.filter (fun e => e.funcname = funcname) = [] := by
  have hentries : entries.filter (fun e => e.funcname = funcname) = [] := by
    have hrecord := h funcname
    rw [hnone] at hrecord
    unfold recordFor at hrecord
    by_contra hne
    rw [if_neg hne] at hrecord; cases hrecord
  refine ⟨fun name => ?_, hentries⟩
  by_cases hname : name = funcname
  · subst hname
    rw [hnone, hentries]; rfl
  · rw [h, count_append_of_ne calls hname]

theorem FsimTable.Holds.call_known (h : fst.Holds entries calls) {frec : FsimFuncRec}
    (hsome : fst funcname = some frec) :
    (fst.put funcname ⟨((calls.count funcname + 1 : Nat) : Int), frec.callOccRecs⟩).Holds entries
        (calls ++ [funcname]) ∧
      frec = ⟨calls.count funcname, (entries.filter fun e => e.funcname = funcname).map ControlEntry.kept⟩ := by
  have hrecord := h funcname
  rw [hsome] at hrecord
  unfold recordFor at hrecord
  by_cases hnone : (entries.filter fun e => e.funcname = funcname) = []
  · rw [if_pos hnone] at hrecord; cases hrecord
  · rw [if_neg hnone] at hrecord
    cases hrecord
    refine ⟨fun name => ?_, rfl⟩
    by_cases hname : name = funcname
    · subst hname
      rw [put_self, count_append_self, recordFor, if_neg hnone]
    · rw [put_ne _ _ hname, h, count_append_of_ne calls hname]

theorem fsimCheckFailure_right {fs : Failsim} (hfst : fs.fst = some fst) (hholds : fst.Holds entries calls)
    (h : ReadAsWritten (entries.filter fun e => e.funcname = funcname) (calls.count funcname + 1)) :
    ∃ fs' fst', fsimCheckFailure fs funcname =
        .ok (askedFor (entries.filter fun e => e.funcname = funcname) (calls.count funcname + 1), fs') ∧
      fs'.fst = some fst' ∧ fst'.Holds entries (calls ++ [funcname]) := by
  rw [fsimCheckFailure, hfst]
  dsimp only
  cases hrec : fst funcname with
  | none =>
    obtain ⟨hholds', hentries⟩ := hholds.call_unknown hrec
    rw [hentries]; exact ⟨fs, fst, rfl, hfst, hholds'⟩
  | some frec =>
    obtain ⟨hholds', hfrec⟩ := hholds.call_known hrec
    have hcount : int32 (frec.callct + 1) = ((calls.count funcname + 1 : Nat) : Int) := by
      have himax : intMax = 2147483647 := by decide
      have hle := h.count
      rw [hfrec]
      change int32 ((calls.count funcname : Int) + 1) = ((calls.count funcname + 1 : Nat) : Int)
      rw [Deferred.int32_of_range (by omega) (by omega), Int.natCast_add]; rfl
    have hfind := findM?_kept (Nat.succ_pos _) h
    obtain ⟨found, hfound, hresult⟩ := map_eq_ok.1 hfind
    dsimp only
    rw [hcount]
    rw [hfrec] at hholds' ⊢
    rw [hfound, ok_bind, hresult]; exact ⟨_, _, rfl, rfl, hholds'⟩

theorem fsimChecks_right :
    ∀ {fs : Failsim} {fst : FsimTable} {done : List (List Byte)}, fs.fst = some fst → fst.Holds entries done →
      (∀ before funcname after, calls = before ++ funcname :: after →
        ReadAsWritten (entries.filter fun e => e.funcname = funcname) ((done ++ before).count funcname + 1)) →
      ∃ results fs', fsimChecks fs calls = .ok (results, fs') ∧ results.length = calls.length ∧
        ∀ before funcname after, calls = before ++ funcname :: after → results[before.length]? =
          some (askedFor (entries.filter fun e => e.funcname = funcname) ((done ++ before).count funcname + 1)) := by
  induction calls with
  | nil =>
    refine fun {fs} _ _ _ _ _ => ⟨[], fs, rfl, rfl, fun before funcname after heq => ?_⟩
    exact absurd heq.symm (append_ne_nil_of_right_ne_nil before (cons_ne_nil funcname after))
  | cons call calls ih =>
    intro fs fst done hfst hholds hread
    have hfirst := hread [] call calls rfl
    rw [append_nil] at hfirst
    obtain ⟨fs', fst', hcheck, hfst', hholds'⟩ := fsimCheckFailure_right hfst hholds hfirst
    obtain ⟨results, fs'', hrun, hlength, hresults⟩ := ih hfst' hholds' fun before funcname after heq => by
      rw [append_assoc]; exact hread (call :: before) funcname after (by rw [heq, cons_append])
    refine ⟨askedFor (entries.filter fun e => e.funcname = call) (done.count call + 1) :: results, fs'', ?_,
      congrArg Nat.succ hlength, ?_⟩
    · rw [fsimChecks, hcheck, ok_bind]
      dsimp only
      rw [hrun]; rfl
    · intro before funcname after heq
      cases before with
      | nil =>
        cases heq
        rw [append_nil]; rfl
      | cons first before =>
        cases heq
        have hnext := hresults before funcname after rfl
        rw [append_assoc] at hnext; exact hnext

/-- **After a load that is accepted the calls give what the file asks for**, as long as each call meets the condition:
there is no division by 0, and nothing that was loaded before matters. -/
theorem fsimChecks_readAsWritten (names : FsimNames) (lines calls : List (List Byte))
    (h : ∀ before funcname after, calls = before ++ funcname :: after →
      ReadAsWritten (entriesFor names lines funcname) (before.count funcname + 1)) : ChecksRight names lines calls := by
  intro fs errmsgs fs' hload
  have hholds := @holds_load names lines ⟨true, FsimTable.new, []⟩ [] fun _ => rfl
  have hfs := (Prod.mk.inj (Prod.mk.inj hload).2).2
  subst hfs; exact @fsimChecks_right _ calls _ _ [] rfl hholds h

/-- The file is accepted and the calls are counted for each function. -/
theorem fsimChecks_ddcVerify :
    (fsimLoadControlFromGptrarray ⟨none, none⟩ ⟨none, false⟩
        [ascii "# verification", ascii "ddc_verify -3 3", ascii "ddc_verify 0 *2"]).1 = true ∧
      ChecksRight ⟨none, none⟩ [ascii "# verification", ascii "ddc_verify -3 3", ascii "ddc_verify 0 *2"]
        [ascii "ddc_verify", ascii "ddc_open", ascii "ddc_verify", ascii "ddc_verify"] := by
  refine ⟨rfl, ?_⟩
  refine fsimChecks_readAsWritten _ _ _ fun before funcname after heq => readAsWritten_of_ints ?_ fun e he => ?_
  · have hcount : before.count funcname ≤ before.length := count_le_length
    have hlength := congrArg List.length heq
    rw [length_append, length_cons] at hlength
    have himax : intMax = 2147483647 := by decide
    simp only [length_cons, length_nil] at hlength; omega
  · have hmem := (mem_filter.1 he).1
    rcases mem_cons.1 hmem with rfl | hmem
    · exact ⟨⟨by decide, by decide⟩, ⟨by decide, by decide⟩, fun h => absurd h Bool.false_ne_true⟩
    · rw [mem_singleton.1 hmem]
      exact ⟨⟨by decide, by decide⟩, ⟨by decide, by decide⟩, fun _ => by decide⟩

/-- **An occurrence of `*0`** makes the first call divide by 0. -/
theorem everyZeroth_not_right : ¬ ChecksRight ⟨none, none⟩ [ascii "ddc_verify false *0"] [ascii "ddc_verify"] := by
  intro h
  obtain ⟨results, fs'', hrun, -⟩ := h ⟨none, false⟩ _ _ rfl
  cases hrun

end Ddc
