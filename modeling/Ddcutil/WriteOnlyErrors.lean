import Ddcutil.Kit.Pool
import Ddcutil.TryData
import Ddcutil.WriteOnly
import Mathlib.Data.List.Nodup
/-!
# WriteOnlyErrors — who owns the errors of the tries

`ddc_write_only_with_retry` again, with its errors in memory.  An `Error_Info` owns its causes; each try makes one or
none, and what comes after the loop hands them to the error that is returned or frees them.
-/
namespace Ddc

open Kit List Exec

/-! ## Errors in memory -/

structure ErrorRecord where
  statusCode : Status
  func : String
  causes : List Address

structure ErrorMemory where
  heap : Heap ErrorRecord
  freed : List Address

namespace ErrorMemory

def read (m : ErrorMemory) (a : Address) : Exec ErrorRecord :=
  match m.heap.cells a with
  | some erec => .ok erec
  | none => .error .outOfBounds

def errinfoNew (m : ErrorMemory) (statusCode : Status) (func : String) : Address × ErrorMemory :=
  (m.heap.next, { m with heap := m.heap.alloc ⟨statusCode, func, []⟩ })

def errinfoAddCause (m : ErrorMemory) (parent : Address) (cause : Option Address) : Exec ErrorMemory :=
  match cause with
  | none => .error .assertFailed
  | some c => do
    let erec ← m.read parent
    let _ ← m.read c
    .ok { m with heap := m.heap.write parent { erec with causes := erec.causes ++ [c] } }

def errinfoNewWithCauses (m : ErrorMemory) (statusCode : Status) (causes : List (Option Address)) (func : String) :
    Exec (Address × ErrorMemory) := do
  let result := m.errinfoNew statusCode func
  let m ← causes.foldlM (fun m cause => m.errinfoAddCause result.1 cause) result.2
  .ok (result.1, m)

/-- `errinfo_free`, which frees the causes first; `depth` bounds how deep they are nested. -/
def errinfoFree : Nat → ErrorMemory → Option Address → Exec ErrorMemory
  | _, m, none => .ok m
  | 0, _, some _ => .error .outOfFuel
  | depth + 1, m, some a => do
    let erec ← m.read a
    let m ← (erec.causes.map some).foldlM (errinfoFree depth) m
    .ok { heap := m.heap.free a, freed := m.freed ++ [a] }

def baseErrinfoFree (m : ErrorMemory) (erec : Option Address) : Exec ErrorMemory := errinfoFree m.heap.next m erec

end ErrorMemory

/-! ## The writes -/

/-- **What the successive writes of a packet return**: 0 or a negative errno. -/
structure PacketWrites where
  outcome : Nat → Status
  nonpos : ∀ n, outcome n ≤ 0

namespace InMemory

def ddcWriteOnly (m : ErrorMemory) (psc : Status) : Option Address × ErrorMemory :=
  if psc ≠ 0 then
    let excp := m.errinfoNew psc "ddc_write_only"
    (some excp.1, excp.2)
  else (none, m)

structure WriteTries where
  psc : Status
  retryable : Bool
  tryErrors : List (Option Address)
  tryctr : Nat
  memory : ErrorMemory

def statusOf (m : ErrorMemory) (curExcp : Option Address) : Exec Status :=
  match curExcp with
  | some a => do
    let erec ← m.read a
    .ok erec.statusCode
  | none => .ok 0

def writeTry (w : PacketWrites) (start : Nat) (s : WriteTries) : Exec WriteTries := do
  let written := ddcWriteOnly s.memory (w.outcome (start + s.tryctr))
  let psc ← statusOf written.2 written.1
  if s.tryctr < maxMaxTries then
    .ok ⟨psc, if psc = -eBusy then false else s.retryable, s.tryErrors ++ [written.1], s.tryctr + 1, written.2⟩
  else .error .outOfBounds

structure WriteOutcome where
  excp : Option Address
  psc : Status
  memory : ErrorMemory

def finishWriteTries (s : WriteTries) : Exec WriteOutcome :=
  if s.psc < 0 then
    if s.retryable then do
      let excp ← s.memory.errinfoNewWithCauses ddcrcRetries s.tryErrors "ddc_write_only_with_retry"
      .ok ⟨some excp.1, ddcrcRetries, excp.2⟩
    else do
      check (s.tryctr = 1)
      let excp ← fetch s.tryErrors 0
      .ok ⟨excp, s.psc, s.memory⟩
  else do
    -- the errors of all tries but the last
    let memory ← (s.tryErrors.take (s.tryctr - 1)).foldlM ErrorMemory.baseErrinfoFree s.memory
    .ok ⟨none, s.psc, memory⟩

variable {δ : Type}

structure WriteOnlyResult (δ : Type) where
  excp : Option Address
  tryErrors : List (Option Address)
  writes : Nat
  memory : ErrorMemory
  stats : TryData δ

def ddcWriteOnlyWithRetry [DecidableEq δ] (w : PacketWrites) (start : Nat) (dh : δ) (memory : ErrorMemory)
    (stats : TryData δ) : Exec (WriteOnlyResult δ) := do
  let s ← forWhile (fun s => s.psc < 0 && s.retryable) (writeTry w start)
    (stats.tryData .writeOnlyTriesOp).maxtries.val ⟨-999, true, [], 0, memory⟩
  let done ← finishWriteTries s
  let stats ← tryDataRecord stats dh .writeOnlyTriesOp done.psc s.tryctr
  .ok ⟨done.excp, s.tryErrors, s.tryctr, done.memory, stats⟩

def tryRecord (psc : Status) : ErrorRecord := ⟨psc, "ddc_write_only", []⟩

/-- **What is claimed of a call that returns.**  The last write is the one with number `writes - 1` of the call. -/
structure RightResult (w : PacketWrites) (start maxTries : Nat) (memory : ErrorMemory) (r : WriteOnlyResult δ) : Prop where
  some_write : 1 ≤ r.writes
  writes_le : r.writes ≤ maxTries
  success : r.excp = none ↔ w.outcome (start + (r.writes - 1)) = 0
  notRetryable : w.outcome (start + (r.writes - 1)) = -eBusy → r.tryErrors[r.writes - 1]? = some r.excp ∧
    ∃ a, r.excp = some a ∧ r.memory.heap.cells a = some (tryRecord (-eBusy))
  exhausted : Retried (w.outcome (start + (r.writes - 1))) → r.writes = maxTries ∧ ∃ a causes, r.excp = some a ∧
    r.memory.heap.cells a = some ⟨ddcrcRetries, "ddc_write_only_with_retry", causes⟩ ∧
      causes.map r.memory.heap.cells = (List.range maxTries).map fun j => some (tryRecord (w.outcome (start + j)))
  owned : ∀ j, j + 1 < r.writes → ∃ a, r.tryErrors[j]? = some (some a) ∧
    ((∃ e erec, r.excp = some e ∧ r.memory.heap.cells e = some erec ∧ a ∈ erec.causes) ∨
      r.memory.freed.count a = memory.freed.count a + 1)

def NoLateBusy (w : PacketWrites) (start maxTries : Nat) : Prop :=
  ∀ k, 1 ≤ k → k < maxTries → (∀ j < k, Retried (w.outcome (start + j))) → w.outcome (start + k) ≠ -eBusy

/-! ## The loop -/

/-- **What holds between tries**, with `left` of them left: the errors are in memory one after the other. -/
structure Trying (w : PacketWrites) (start : Nat) (memory : ErrorMemory) (tries left : Nat) (s : WriteTries) : Prop where
  count : s.tryctr + left = tries
  first : s.tryctr = 0 → s.psc < 0 ∧ s.retryable = true
  retried : ∀ j, j + 1 < s.tryctr → Retried (w.outcome (start + j))
  last : ∀ k, s.tryctr = k + 1 →
    s.psc = w.outcome (start + k) ∧ s.retryable = decide (w.outcome (start + k) ≠ -eBusy)
  tryErrors : s.tryErrors = (List.range s.tryctr).map fun j =>
    if w.outcome (start + j) = 0 then none else some (memory.heap.next + j)
  next : s.psc < 0 → s.memory.heap.next = memory.heap.next + s.tryctr
  cells : ∀ j < s.tryctr, w.outcome (start + j) ≠ 0 →
    s.memory.heap.cells (memory.heap.next + j) = some (tryRecord (w.outcome (start + j)))
  freed : s.memory.freed = memory.freed

theorem ddcWriteOnly_zero (m : ErrorMemory) : ddcWriteOnly m 0 = (none, m) := rfl

theorem ddcWriteOnly_of_ne (m : ErrorMemory) {psc : Status} (h : psc ≠ 0) :
    ddcWriteOnly m psc = (some m.heap.next, { m with heap := m.heap.alloc (tryRecord psc) }) := if_pos h

theorem statusOf_ddcWriteOnly (m : ErrorMemory) (psc : Status) :
    statusOf (ddcWriteOnly m psc).2 (ddcWriteOnly m psc).1 = .ok psc := by
  by_cases h : psc = 0
  · subst h; rfl
  · rw [ddcWriteOnly_of_ne m h, statusOf, ErrorMemory.read, Heap.alloc_self]; rfl

variable {s : WriteTries} {w : PacketWrites} {start tries k : Nat} {memory m : ErrorMemory}

theorem writeTry_eq (w : PacketWrites) (start : Nat) (h : s.tryctr < maxMaxTries) :
    writeTry w start s = .ok ⟨w.outcome (start + s.tryctr),
      if w.outcome (start + s.tryctr) = -eBusy then false else s.retryable,
      s.tryErrors ++ [(ddcWriteOnly s.memory (w.outcome (start + s.tryctr))).1], s.tryctr + 1,
      (ddcWriteOnly s.memory (w.outcome (start + s.tryctr))).2⟩ := by
  rw [writeTry, statusOf_ddcWriteOnly, ok_bind, if_pos h]

theorem writeTry_trying {left : Nat} {maxTries : MaxTries} (hs : Trying w start memory maxTries.val (left + 1) s)
    (hc : (s.psc < 0 && s.retryable) = true) :
    ∃ s', writeTry w start s = .ok s' ∧ Trying w start memory maxTries.val left s' := by
  have hct := hs.count
  have hmax := maxTries.le
  rw [Bool.and_eq_true, decide_eq_true_eq] at hc
  obtain ⟨hneg, hretry⟩ := hc
  have hnext := hs.next hneg
  refine ⟨_, writeTry_eq w start (by omega), ?_⟩
  refine ⟨by simp only; omega, fun h => absurd h (Nat.succ_ne_zero _), ?_, ?_, ?_, ?_, ?_, ?_⟩
  · intro j hj
    by_cases hlt : j + 1 < s.tryctr
    · exact hs.retried j hlt
    · obtain ⟨hp, hr⟩ := hs.last j (by simp only at hj; omega)
      rw [hp] at hneg
      rw [hr, decide_eq_true_eq] at hretry; exact ⟨hneg, hretry⟩
  · intro k hk
    obtain rfl : s.tryctr = k := Nat.succ.inj hk
    by_cases hb : w.outcome (start + s.tryctr) = -eBusy
    · simp [hb]
    · simp [hb, hretry]
  · rw [range_succ, map_append, ← hs.tryErrors, map_singleton]
    by_cases hz : w.outcome (start + s.tryctr) = 0
    · rw [if_pos hz, hz, ddcWriteOnly_zero]
    · rw [if_neg hz, ddcWriteOnly_of_ne _ hz, hnext]
  · intro hlt
    rw [ddcWriteOnly_of_ne _ (Int.ne_of_lt hlt)]; exact congrArg (· + 1) hnext
  · intro j hj hne
    by_cases hz : w.outcome (start + s.tryctr) = 0
    · have hlt : j < s.tryctr := Nat.lt_of_le_of_ne (Nat.le_of_lt_succ hj) fun heq => hne (heq ▸ hz)
      rw [hz, ddcWriteOnly_zero]; exact hs.cells j hlt hne
    · rw [ddcWriteOnly_of_ne _ hz]
      by_cases heq : j = s.tryctr
      · rw [heq, ← hnext]; exact Heap.alloc_self ..
      · have hlt : j < s.tryctr := Nat.lt_of_le_of_ne (Nat.le_of_lt_succ hj) heq
        refine (Heap.alloc_other _ _ ?_).trans (hs.cells j hlt hne)
        rw [hnext]; exact Nat.ne_of_lt (Nat.add_lt_add_left hlt _)
  · by_cases hz : w.outcome (start + s.tryctr) = 0
    · rw [hz, ddcWriteOnly_zero]; exact hs.freed
    · rw [ddcWriteOnly_of_ne _ hz]; exact hs.freed

/-- **Where the loop ends**: at try `k`, with every try before it retried. -/
structure LoopEnd (w : PacketWrites) (start : Nat) (memory : ErrorMemory) (tries k : Nat) (s : WriteTries) : Prop where
  tryctr : s.tryctr = k + 1
  lt : k < tries
  retried : ∀ j < k, Retried (w.outcome (start + j))
  psc : s.psc = w.outcome (start + k)
  retryable : s.retryable = decide (w.outcome (start + k) ≠ -eBusy)
  stop : Retried (w.outcome (start + k)) → k + 1 = tries
  tryErrors : s.tryErrors = (List.range (k + 1)).map fun j =>
    if w.outcome (start + j) = 0 then none else some (memory.heap.next + j)
  next : s.psc < 0 → s.memory.heap.next = memory.heap.next + (k + 1)
  cells : ∀ j < k + 1, w.outcome (start + j) ≠ 0 →
    s.memory.heap.cells (memory.heap.next + j) = some (tryRecord (w.outcome (start + j)))
  freed : s.memory.freed = memory.freed

theorem loop_ends (w : PacketWrites) (start : Nat) (memory : ErrorMemory) (maxTries : MaxTries) :
    ∃ s k, forWhile (fun s : WriteTries => s.psc < 0 && s.retryable) (writeTry w start) maxTries.val
      ⟨-999, true, [], 0, memory⟩ = .ok s ∧ LoopEnd w start memory maxTries.val k s := by
  have hdummy : (-999 : Status) < 0 := by decide
  obtain ⟨s, m, hs, hinv, -, hend⟩ := forWhile_inv (c := fun s : WriteTries => s.psc < 0 && s.retryable)
    (I := Trying w start memory maxTries.val) (fun _ _ h hc => writeTry_trying h hc) maxTries.val
    ⟨-999, true, [], 0, memory⟩
    ⟨Nat.zero_add _, fun _ => ⟨hdummy, rfl⟩, fun j hj => absurd hj (Nat.not_lt_zero _),
      fun k hk => absurd hk (Nat.succ_ne_zero k).symm, rfl, fun _ => rfl, fun j hj => absurd hj (Nat.not_lt_zero j), rfl⟩
  have hct := hinv.count
  have hpos := maxTries.pos
  obtain ⟨k, hk⟩ : ∃ k, s.tryctr = k + 1 := by
    cases h0 : s.tryctr with
    | zero =>
      rcases hend with hm | hc
      · omega
      · obtain ⟨h1, h2⟩ := hinv.first h0
        simp [h1, h2] at hc
    | succ k => exact ⟨k, rfl⟩
  obtain ⟨hpsc, hretry⟩ := hinv.last k hk
  refine ⟨s, k, hs, hk, by omega, fun j hj => hinv.retried j (by omega), hpsc, hretry, ?_, hk ▸ hinv.tryErrors,
    hk ▸ hinv.next, hk ▸ hinv.cells, hinv.freed⟩
  rintro ⟨hneg, hnb⟩
  rcases hend with hm | hc
  · omega
  · simp [hpsc, hretry, hneg, hnb] at hc

/-! ## What comes after it -/

theorem LoopEnd.tryErrors_of_failed {n : Nat} (h : LoopEnd w start memory tries k s) (hn : n ≤ k + 1)
    (hfail : ∀ j < n, w.outcome (start + j) ≠ 0) :
    s.tryErrors.take n = ((List.range n).map (memory.heap.next + ·)).map some := by
  rw [h.tryErrors, ← map_take, take_range, Nat.min_eq_left hn, map_map]
  apply map_congr_left
  intro j hj; exact if_neg (hfail j (mem_range.1 hj))

theorem foldlM_baseErrinfoFree : ∀ (l : List Address) (m : ErrorMemory), l.Nodup →
    (∀ a ∈ l, ∃ psc, m.heap.cells a = some (tryRecord psc)) →
      ∃ m', (l.map some).foldlM ErrorMemory.baseErrinfoFree m = .ok m' ∧ m'.freed = m.freed ++ l
  | [], m, _, _ => ⟨m, rfl, (append_nil _).symm⟩
  | a :: l, m, hnodup, hlive => by
    obtain ⟨hnot, hnodup⟩ := nodup_cons.1 hnodup
    obtain ⟨psc, ha⟩ := hlive a mem_cons_self
    have hfree : ErrorMemory.baseErrinfoFree m (some a) = .ok ⟨m.heap.free a, m.freed ++ [a]⟩ := by
      obtain ⟨depth, hdepth⟩ := Nat.exists_eq_succ_of_ne_zero (Nat.ne_of_gt (Nat.zero_lt_of_lt (Heap.lt_next ha)))
      rw [ErrorMemory.baseErrinfoFree, hdepth, ErrorMemory.errinfoFree, ErrorMemory.read, ha]; rfl
    obtain ⟨m', hm', hfreed⟩ := foldlM_baseErrinfoFree l ⟨m.heap.free a, m.freed ++ [a]⟩ hnodup fun b hb => by
      obtain ⟨psc', hb'⟩ := hlive b (mem_cons_of_mem a hb)
      have hne : b ≠ a := fun heq => hnot (heq ▸ hb)
      exact ⟨psc', (Heap.free_other _ hne).trans hb'⟩
    refine ⟨m', ?_, by rw [hfreed, append_assoc]; rfl⟩
    rw [map_cons, foldlM_cons, hfree, ok_bind, hm']

theorem foldlM_errinfoAddCause {parent : Address} : ∀ (l : List Address) (m : ErrorMemory) (erec : ErrorRecord),
    m.heap.cells parent = some erec → (∀ a ∈ l, a ≠ parent ∧ ∃ c, m.heap.cells a = some c) →
      ∃ m', (l.map some).foldlM (fun m cause => m.errinfoAddCause parent cause) m = .ok m' ∧
        m'.heap.cells parent = some { erec with causes := erec.causes ++ l } ∧
          (∀ b, b ≠ parent → m'.heap.cells b = m.heap.cells b) ∧ m'.freed = m.freed
  | [], m, erec, hp, _ => ⟨m, rfl, by rw [hp, append_nil], fun _ _ => rfl, rfl⟩
  | a :: l, m, erec, hp, hl => by
    obtain ⟨ha, c, hc⟩ := hl a mem_cons_self
    have hadd : m.errinfoAddCause parent (some a) =
        .ok { m with heap := m.heap.write parent { erec with causes := erec.causes ++ [a] } } := by
      rw [ErrorMemory.errinfoAddCause, ErrorMemory.read, hp, ok_bind, ErrorMemory.read, hc]; rfl
    have hother : ∀ b, b ≠ parent →
        (m.heap.write parent { erec with causes := erec.causes ++ [a] }).cells b = m.heap.cells b := fun b hb =>
      Heap.write_other _ _ hb
    obtain ⟨m', hm', hcell, hrest, hfreed⟩ := foldlM_errinfoAddCause l
      { m with heap := m.heap.write parent { erec with causes := erec.causes ++ [a] } }
      { erec with causes := erec.causes ++ [a] } (Heap.write_self _ hp) fun b hb => by
        obtain ⟨hne, c', hc'⟩ := hl b (mem_cons_of_mem a hb)
        exact ⟨hne, c', (hother b hne).trans hc'⟩
    refine ⟨m', ?_, ?_, fun b hb => (hrest b hb).trans (hother b hb), hfreed⟩
    · rw [map_cons, foldlM_cons, hadd, ok_bind, hm']
    · rw [hcell, append_assoc]; rfl

theorem errinfoNewWithCauses_ok {l : List Address} (psc : Status) (func : String)
    (hl : ∀ a ∈ l, ∃ c, m.heap.cells a = some c) :
    ∃ m', m.errinfoNewWithCauses psc (l.map some) func = .ok (m.heap.next, m') ∧
      m'.heap.cells m.heap.next = some ⟨psc, func, l⟩ ∧ (∀ a ∈ l, m'.heap.cells a = m.heap.cells a) ∧
        m'.freed = m.freed := by
  have hne : ∀ a ∈ l, a ≠ m.heap.next := by
    intro a ha
    obtain ⟨c, hc⟩ := hl a ha
    exact Nat.ne_of_lt (Heap.lt_next hc)
  have hother : ∀ a ∈ l, (m.heap.alloc ⟨psc, func, []⟩).cells a = m.heap.cells a := fun a ha =>
    Heap.alloc_other _ _ (hne a ha)
  obtain ⟨m', hm', hcell, hrest, hfreed⟩ := foldlM_errinfoAddCause l (m.errinfoNew psc func).2 ⟨psc, func, []⟩
    (Heap.alloc_self ..) fun a ha => by
      obtain ⟨c, hc⟩ := hl a ha
      exact ⟨hne a ha, c, (hother a ha).trans hc⟩
  refine ⟨m', ?_, hcell, fun a ha => (hrest a (hne a ha)).trans (hother a ha), hfreed⟩
  rw [ErrorMemory.errinfoNewWithCauses]
  have hresult : (m.errinfoNew psc func).1 = m.heap.next := rfl
  rw [hresult] at *
  rw [hm', ok_bind]

def errorAddresses (memory : ErrorMemory) (n : Nat) : List Address := (List.range n).map (memory.heap.next + ·)

theorem nodup_errorAddresses (memory : ErrorMemory) (n : Nat) : (errorAddresses memory n).Nodup :=
  List.Nodup.map (fun _ _ h => Nat.add_left_cancel h) nodup_range

theorem mem_errorAddresses {n : Nat} {a : Address} :
    a ∈ errorAddresses memory n ↔ ∃ j < n, memory.heap.next + j = a := by
  simp only [errorAddresses, mem_map, mem_range]

section
variable (h : LoopEnd w start memory tries k s)
include h

theorem finish_success (hz : w.outcome (start + k) = 0) :
    ∃ m, finishWriteTries s = .ok ⟨none, 0, m⟩ ∧ m.freed = memory.freed ++ errorAddresses memory k := by
  have hfail : ∀ j < k, w.outcome (start + j) ≠ 0 := fun j hj => Int.ne_of_lt (h.retried j hj).1
  have hpsc : s.psc = 0 := h.psc.trans hz
  obtain ⟨m, hm, hfreed⟩ := foldlM_baseErrinfoFree (errorAddresses memory k) s.memory (nodup_errorAddresses memory k) <| by
    intro a ha
    obtain ⟨j, hj, rfl⟩ := mem_errorAddresses.1 ha
    exact ⟨_, h.cells j (Nat.lt_succ_of_lt hj) (hfail j hj)⟩
  refine ⟨m, ?_, by rw [hfreed, h.freed]⟩
  have htake : s.tryErrors.take (s.tryctr - 1) = (errorAddresses memory k).map some := by
    rw [h.tryctr]; exact h.tryErrors_of_failed (Nat.le_succ k) hfail
  rw [finishWriteTries, if_neg (by rw [hpsc]; exact Int.lt_irrefl 0), htake, hm, ok_bind, hpsc]

theorem finish_exhausted (hr : Retried (w.outcome (start + k))) :
    ∃ m a, finishWriteTries s = .ok ⟨some a, ddcrcRetries, m⟩ ∧
      m.heap.cells a = some ⟨ddcrcRetries, "ddc_write_only_with_retry", errorAddresses memory (k + 1)⟩ ∧
        ∀ j < k + 1, m.heap.cells (memory.heap.next + j) = some (tryRecord (w.outcome (start + j))) := by
  have hfail : ∀ j < k + 1, w.outcome (start + j) ≠ 0 := by
    intro j hj
    rcases Nat.lt_succ_iff_lt_or_eq.1 hj with hlt | rfl
    · exact Int.ne_of_lt (h.retried j hlt).1
    · exact Int.ne_of_lt hr.1
  have hall : s.tryErrors = (errorAddresses memory (k + 1)).map some := by
    rw [← take_of_length_le (l := s.tryErrors) (i := k + 1) (by rw [h.tryErrors]; simp)]
    exact h.tryErrors_of_failed (Nat.le_refl _) hfail
  have hcells : ∀ a ∈ errorAddresses memory (k + 1), ∃ c, s.memory.heap.cells a = some c := by
    intro a ha
    obtain ⟨j, hj, rfl⟩ := mem_errorAddresses.1 ha
    exact ⟨_, h.cells j hj (hfail j hj)⟩
  obtain ⟨m, hm, hcell, hrest, -⟩ := errinfoNewWithCauses_ok ddcrcRetries "ddc_write_only_with_retry" hcells
  refine ⟨m, s.memory.heap.next, ?_, hcell, fun j hj => ?_⟩
  · have hretry : s.retryable = true := by rw [h.retryable, decide_eq_true_eq]; exact hr.2
    rw [finishWriteTries, if_pos (by rw [h.psc]; exact hr.1), if_pos hretry, hall, hm, ok_bind]
  · rw [hrest _ (mem_errorAddresses.2 ⟨j, hj, rfl⟩)]; exact h.cells j hj (hfail j hj)

theorem finish_busy (hb : w.outcome (start + k) = -eBusy) :
    finishWriteTries s = if k = 0 then .ok ⟨some memory.heap.next, -eBusy, s.memory⟩ else .error .assertFailed := by
  have hneg : s.psc < 0 := by rw [h.psc, hb]; decide
  have hretry : s.retryable = false := by rw [h.retryable, hb]; rfl
  rw [finishWriteTries, if_pos hneg, hretry, if_neg Bool.false_ne_true, h.tryctr]
  by_cases hk : k = 0
  · subst hk
    have hne : w.outcome (start + 0) ≠ 0 := by rw [hb]; decide
    have htry : s.tryErrors = [some memory.heap.next] := by
      rw [h.tryErrors, range_succ, range_zero, nil_append, map_singleton, if_neg hne]; rfl
    rw [check_pos rfl, ok_bind, htry, fetch_cons_zero, ok_bind, if_pos rfl, h.psc, hb]
  · rw [check_neg fun h1 => hk (Nat.succ.inj h1), if_neg hk]; rfl

end

/-! ## The call -/

section
variable (h : LoopEnd w start memory tries k s)
include h

theorem LoopEnd.noLateBusy_iff : NoLateBusy w start tries ↔ (w.outcome (start + k) = -eBusy → k = 0) := by
  constructor
  · intro hno hb
    by_cases hk : k = 0
    · exact hk
    · exact absurd hb (hno k (Nat.pos_of_ne_zero hk) h.lt h.retried)
  · intro hk i hi hlt hall hb
    -- the loop ends at the first write that is not retried
    rcases Nat.lt_trichotomy i k with hik | rfl | hik
    · exact (h.retried i hik).2 hb
    · exact Nat.ne_of_gt hi (hk hb)
    · exact absurd (h.stop (hall k hik)) (by omega)

theorem rightResult_success (hz : w.outcome (start + k) = 0)
    (hfreed : m.freed = memory.freed ++ errorAddresses memory k) (stats : TryData δ) :
    RightResult w start tries memory ⟨none, s.tryErrors, s.tryctr, m, stats⟩ := by
  have hsub : s.tryctr - 1 = k := by rw [h.tryctr]; rfl
  refine ⟨by simp only [h.tryctr]; omega, by simp only [h.tryctr]; exact h.lt, ?_, ?_, ?_, ?_⟩
  · simp only [hsub, hz]
  · simp only [hsub, hz]; exact fun hb => absurd hb (by decide)
  · simp only [hsub, hz]; exact fun hr => absurd hr.1 (Int.lt_irrefl 0)
  · intro j hj
    have hjk : j < k := by
      simp only at hj
      omega
    have hmem : memory.heap.next + j ∈ errorAddresses memory k := mem_errorAddresses.2 ⟨j, hjk, rfl⟩
    refine ⟨memory.heap.next + j, ?_, .inr ?_⟩
    · rw [h.tryErrors, getElem?_map, getElem?_range (Nat.lt_succ_of_lt hjk), Option.map_some,
        if_neg (Int.ne_of_lt (h.retried j hjk).1)]
    · simp only [hfreed, count_append, count_eq_one_of_mem (nodup_errorAddresses memory k) hmem]

theorem rightResult_exhausted {a : Address} (hr : Retried (w.outcome (start + k)))
    (hcell : m.heap.cells a = some ⟨ddcrcRetries, "ddc_write_only_with_retry", errorAddresses memory (k + 1)⟩)
    (hcauses : ∀ j < k + 1, m.heap.cells (memory.heap.next + j) = some (tryRecord (w.outcome (start + j))))
    (stats : TryData δ) : RightResult w start tries memory ⟨some a, s.tryErrors, s.tryctr, m, stats⟩ := by
  have hsub : s.tryctr - 1 = k := by rw [h.tryctr]; rfl
  have htries := h.stop hr
  refine ⟨by simp only [h.tryctr]; omega, by simp only [h.tryctr]; exact h.lt, ?_, ?_, ?_, ?_⟩
  · simp only [hsub, reduceCtorEq, false_iff]; exact Int.ne_of_lt hr.1
  · simp only [hsub]; exact fun hb => absurd hb hr.2
  · intro _
    refine ⟨h.tryctr.trans htries, a, errorAddresses memory (k + 1), rfl, hcell, ?_⟩
    rw [errorAddresses, map_map, ← htries]
    exact map_congr_left fun j hj => hcauses j (mem_range.1 hj)
  · intro j hj
    have hjk : j < k := by
      simp only at hj
      omega
    refine ⟨memory.heap.next + j, ?_, .inl ⟨a, _, rfl, hcell, ?_⟩⟩
    · rw [h.tryErrors, getElem?_map, getElem?_range (Nat.lt_succ_of_lt hjk), Option.map_some,
        if_neg (Int.ne_of_lt (h.retried j hjk).1)]
    · exact mem_errorAddresses.2 ⟨j, Nat.lt_succ_of_lt hjk, rfl⟩

end

theorem rightResult_busy (h : LoopEnd w start memory tries 0 s) (hb : w.outcome (start + 0) = -eBusy)
    (stats : TryData δ) :
    RightResult w start tries memory ⟨some memory.heap.next, s.tryErrors, s.tryctr, s.memory, stats⟩ := by
  have hsub : s.tryctr - 1 = 0 := by rw [h.tryctr]
  have hne : w.outcome (start + 0) ≠ 0 := by rw [hb]; decide
  refine ⟨by simp only [h.tryctr]; omega, by simp only [h.tryctr]; exact h.lt, ?_, ?_, ?_, ?_⟩
  · simp only [hsub, reduceCtorEq, false_iff]; exact hne
  · intro _
    simp only [hsub]
    refine ⟨?_, _, rfl, ?_⟩
    · rw [h.tryErrors, getElem?_map, getElem?_range (Nat.succ_pos 0), Option.map_some, if_neg hne]
      rfl
    · rw [← hb]; exact h.cells 0 (Nat.succ_pos 0) hne
  · simp only [hsub, hb]; exact fun hr => absurd rfl hr.2
  · intro j hj
    simp only at hj
    omega

variable [DecidableEq δ]

/-- **The call does what is claimed exactly where no later try than the first finds the bus busy**, whatever the writes
return, and whatever was recorded and is in memory before. -/
theorem ddcWriteOnlyWithRetry_right_iff (w : PacketWrites) (start : Nat) (dh : δ) (memory : ErrorMemory)
    (stats : TryData δ) :
    (∃ r, ddcWriteOnlyWithRetry w start dh memory stats = .ok r ∧
      RightResult w start (stats.tryData .writeOnlyTriesOp).maxtries.val memory r) ↔
    NoLateBusy w start (stats.tryData .writeOnlyTriesOp).maxtries.val := by
  obtain ⟨s, k, hs, hend⟩ := loop_ends w start memory (stats.tryData .writeOnlyTriesOp).maxtries
  have hrecord : ∀ psc, ∃ stats', tryDataRecord stats dh .writeOnlyTriesOp psc s.tryctr = .ok stats' := by
    intro psc
    have hvalid : psc = 0 → 0 < s.tryctr ∧ s.tryctr ≤ (stats.tryData .writeOnlyTriesOp).maxtries.val := fun _ =>
      ⟨hend.tryctr ▸ Nat.succ_pos k, hend.tryctr ▸ hend.lt⟩
    obtain ⟨hlt, hok⟩ := tryDataRecord_ok stats dh .writeOnlyTriesOp hvalid
    exact ⟨_, hok⟩
  rw [hend.noLateBusy_iff]
  rw [ddcWriteOnlyWithRetry, hs, ok_bind]
  rcases Int.lt_or_eq_of_le (w.nonpos (start + k)) with hneg | hz
  · by_cases hb : w.outcome (start + k) = -eBusy
    · rw [finish_busy hend hb]
      by_cases hk : k = 0
      · subst hk
        obtain ⟨stats', hstats⟩ := hrecord (-eBusy)
        rw [if_pos rfl, ok_bind, hstats, ok_bind]
        exact ⟨fun _ _ => rfl, fun _ => ⟨_, rfl, rightResult_busy hend hb stats'⟩⟩
      · rw [if_neg hk, error_bind]
        refine ⟨fun h => ?_, fun h => absurd (h hb) hk⟩
        obtain ⟨r, hr, -⟩ := h
        cases hr
    · obtain ⟨m, a, hfin, hcell, hcauses⟩ := finish_exhausted hend ⟨hneg, hb⟩
      obtain ⟨stats', hstats⟩ := hrecord ddcrcRetries
      rw [hfin, ok_bind, hstats, ok_bind]
      exact ⟨fun _ h => absurd h hb, fun _ => ⟨_, rfl, rightResult_exhausted hend ⟨hneg, hb⟩ hcell hcauses stats'⟩⟩
  · obtain ⟨m, hfin, hfreed⟩ := finish_success hend hz
    obtain ⟨stats', hstats⟩ := hrecord 0
    rw [hfin, ok_bind, hstats, ok_bind]
    refine ⟨fun _ h => absurd (hz.symm.trans h) (by decide), fun _ => ⟨_, rfl, rightResult_success hend hz hfreed stats'⟩⟩

def busyAfterOne : PacketWrites where
  outcome := fun n => if n = 0 then -eIo else -eBusy
  nonpos := fun n => by split <;> decide

/-- **A bus that is busy at the second try fails an assertion.** -/
theorem secondTryBusy_asserts :
    ddcWriteOnlyWithRetry busyAfterOne 0 () ⟨⟨fun _ => none, 0, fun _ _ => rfl⟩, []⟩ (TryData.init defaultMaxtries) =
      .error .assertFailed := by rfl

end InMemory

end Ddc
