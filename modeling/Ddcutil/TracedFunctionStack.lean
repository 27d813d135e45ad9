import Ddcutil.CapabilitiesCache
import Ddcutil.Kit.Freeing
/-!
# TracedFunctionStack — the names of the functions that each thread is in

`traced_function_stack.c`: a thread's stack is a queue of copied names that its thread variable points to.  When it is
made an entry for it is added to a list of all stacks, which owns its entries: it frees the one that is removed from
it.
-/
namespace Ddc.Tfs

open Kit Function

inductive TfsObject (T : Type) where
  | queue (names : List Address)
  | entry (tracedFunctionStack : Address) (threadId : T) (initialFunction : Address)
  | name (text : CString)

variable {T : Type}

def queueAt (h : Heap (TfsObject T)) (a : Address) : Exec (List Address) := do
  match ← h.read a with
  | .queue names => .ok names
  | _ => .error .outOfBounds

def entryAt (h : Heap (TfsObject T)) (a : Address) : Exec (Address × T × Address) := do
  match ← h.read a with
  | .entry tracedFunctionStack threadId initialFunction => .ok (tracedFunctionStack, threadId, initialFunction)
  | _ => .error .outOfBounds

def nameAt (h : Heap (TfsObject T)) (a : Address) : Exec CString := do
  match ← h.read a with
  | .name text => .ok text
  | _ => .error .outOfBounds

structure TfsState (T : Type) where
  heap : Heap (TfsObject T)
  allTracedFunctionStacks : Option (List Address)
  tracedFunctionStack : T → Option Address
  tracedFunctionStackInvalid : T → Bool

def emptyHeap : Heap (TfsObject T) := ⟨fun _ => none, 0, fun _ _ => rfl⟩

def TfsState.start : TfsState T := ⟨emptyHeap, none, fun _ => none, fun _ => false⟩

def freeTracedFunctionStacksEntry (h : Heap (TfsObject T)) (entry : Address) : Exec (Heap (TfsObject T)) := do
  let (_, _, initialFunction) ← entryAt h entry
  let h ← h.release initialFunction
  h.release entry

def ptrArrayRemove (h : Heap (TfsObject T)) (all : List Address) (pointer : Address) :
    Exec (Heap (TfsObject T) × List Address) :=
  if pointer ∈ all then (fun h => (h, all.erase pointer)) <$> freeTracedFunctionStacksEntry h pointer else .ok (h, all)

def listTracedFunctionStacks (s : TfsState T) : Exec Unit := do
  let _ ← (s.allTracedFunctionStacks.getD []).mapM fun entry => do
    let (_, _, initialFunction) ← entryAt s.heap entry
    nameAt s.heap initialFunction
  .ok ()

/-! ## The calls -/

section Calls

variable [DecidableEq T]

def newTracedFunctionStack (s : TfsState T) (t : T) (funcname : CString) : TfsState T :=
  let result := s.heap.next
  let h := s.heap.alloc (.queue [])
  let initialFunction := h.next
  let h := h.alloc (.name funcname)
  let entry := h.next
  { s with
    heap := h.alloc (.entry result t initialFunction)
    allTracedFunctionStacks := some (s.allTracedFunctionStacks.getD [] ++ [entry])
    tracedFunctionStack := update s.tracedFunctionStack t (some result) }

def pushName (s : TfsState T) (t : T) (funcname : CString) : Exec (TfsState T) :=
  match s.tracedFunctionStack t with
  | none => .error .nullDeref
  | some stack => do
    let name := s.heap.next
    let h := s.heap.alloc (.name funcname)
    let names ← queueAt h stack
    .ok { s with heap := h.write stack (.queue (name :: names)) }

def pushTracedFunction (s : TfsState T) (t : T) (funcname : CString) : Exec (TfsState T) :=
  match s.tracedFunctionStack t with
  | none => pushName (newTracedFunctionStack s t funcname) t funcname
  | some _ => pushName s t funcname

/-- What is read to report a name that was not expected: the next one, and all that are left. -/
def reportMismatch (h : Heap (TfsObject T)) (rest : List Address) : Exec Unit := do
  let _ ← rest.head?.toList.mapM (nameAt h)
  let _ ← rest.mapM (nameAt h)
  .ok ()

def popTracedFunction (s : TfsState T) (t : T) (funcname : CString) : Exec (TfsState T) :=
  if s.tracedFunctionStackInvalid t = true then .ok s
  else
    match s.tracedFunctionStack t with
    | none => do
      listTracedFunctionStacks s
      .ok s
    | some stack => do
      match ← queueAt s.heap stack with
      | [] => .ok { s with tracedFunctionStackInvalid := update s.tracedFunctionStackInvalid t true }
      | poppedFunc :: rest => do
        let h := s.heap.write stack (.queue rest)
        let text ← nameAt h poppedFunc
        if text = funcname then do
          let h ← h.release poppedFunc
          .ok { s with heap := h }
        else do
          reportMismatch h rest
          let h ← h.release poppedFunc
          .ok { s with
            heap := h, tracedFunctionStackInvalid := update s.tracedFunctionStackInvalid t true }

def resetCurrentTracedFunctionStack (s : TfsState T) (t : T) : Exec (TfsState T) := do
  let valid := update s.tracedFunctionStackInvalid t false
  match s.tracedFunctionStack t with
  | none => .ok { s with tracedFunctionStackInvalid := valid }
  | some stack => do
    let names ← queueAt s.heap stack
    let h ← s.heap.releaseAll names.reverse
    .ok { s with heap := h.write stack (.queue []), tracedFunctionStackInvalid := valid }

/-- `free_traced_function_stack`: the queue is freed with its names, and then looked for in the list of entries. -/
def freeTracedFunctionStack (s : TfsState T) (stack : Address) : Exec (TfsState T) := do
  let names ← queueAt s.heap stack
  let h ← s.heap.releaseAll names
  let h ← h.release stack
  match s.allTracedFunctionStacks with
  | none => .ok { s with heap := h }
  | some all => do
    let (h, all) ← ptrArrayRemove h all stack
    .ok { s with heap := h, allTracedFunctionStacks := some all }

def freeCurrentTracedFunctionStack (s : TfsState T) (t : T) : Exec (TfsState T) :=
  match s.tracedFunctionStack t with
  | none => .ok s
  | some stack => freeTracedFunctionStack s stack

/-- The loop of `free_all_traced_function_stacks`, over so many entries, from the last on. -/
def freeAllLoop : Nat → TfsState T → Exec (TfsState T)
  | 0, s => .ok s
  | ndx + 1, s => do
    let entry ← fetch (s.allTracedFunctionStacks.getD []) ndx
    let (stack, _, _) ← entryAt s.heap entry
    let s ← freeTracedFunctionStack s stack
    -- the element is removed, for which the list frees it, and then freed
    let h ← freeTracedFunctionStacksEntry s.heap entry
    let h ← h.release entry
    freeAllLoop ndx
      { s with heap := h, allTracedFunctionStacks := s.allTracedFunctionStacks.map fun all => all.eraseIdx ndx }

def freeAllTracedFunctionStacks (s : TfsState T) : Exec (TfsState T) :=
  match s.allTracedFunctionStacks with
  | none => .ok s
  | some all => (fun s => { s with allTracedFunctionStacks := none }) <$> freeAllLoop all.length s

inductive TfsCall (T : Type) where
  | push (t : T) (funcname : CString)
  | pop (t : T) (funcname : CString)
  | reset (t : T)
  | freeCurrent (t : T)

def TfsState.apply (s : TfsState T) : TfsCall T → Exec (TfsState T)
  | .push t funcname => pushTracedFunction s t funcname
  | .pop t funcname => popTracedFunction s t funcname
  | .reset t => resetCurrentTracedFunctionStack s t
  | .freeCurrent t => freeCurrentTracedFunctionStack s t

/-! ## What is promised -/

def hasStack (t : T) : List (TfsCall T) → Bool
  | [] => false
  | .push u _ :: past => if u = t then true else hasStack t past
  | .freeCurrent u :: past => if u = t then false else hasStack t past
  | _ :: past => hasStack t past

/-- **The names pushed and not yet popped** since the last reset or free, the newest first; none where a pop did not match
the top and there was no reset since. -/
def expected (t : T) : List (TfsCall T) → Option (List CString)
  | [] => some []
  | .push u funcname :: past => if u = t then (expected t past).map (funcname :: ·) else expected t past
  | .pop u funcname :: past =>
    if u = t ∧ hasStack t past = true then
      (expected t past).bind fun names => if names.head? = some funcname then some names.tail else none
    else expected t past
  | .reset u :: past => if u = t then some [] else expected t past
  | .freeCurrent u :: past => if u = t then (expected t past).map fun _ => [] else expected t past

def Holds (s : TfsState T) (t : T) (names : List CString) : Prop :=
  match s.tracedFunctionStack t with
  | none => names = []
  | some stack => ∃ pointers, s.heap.cells stack = some (.queue pointers) ∧
      List.Forall₂ (fun pointer text => s.heap.cells pointer = some (.name text)) pointers names

def Follows (s : TfsState T) (t : T) : Option (List CString) → Prop
  | some names => s.tracedFunctionStackInvalid t = false ∧ Holds s t names
  | none => s.tracedFunctionStackInvalid t = true

/-- **The list holds exactly one entry for each stack that there is**, and no other. -/
structure OneEntryEach (s : TfsState T) : Prop where
  nodup : (s.allTracedFunctionStacks.getD []).Nodup
  entries : ∀ e ∈ s.allTracedFunctionStacks.getD [], ∃ stack t initial pointers,
    s.heap.cells e = some (.entry stack t initial) ∧ s.heap.cells stack = some (.queue pointers)
  queues : ∀ stack pointers, s.heap.cells stack = some (.queue pointers) →
    ∃ e ∈ s.allTracedFunctionStacks.getD [], ∃ t initial, s.heap.cells e = some (.entry stack t initial)
  once : ∀ e ∈ s.allTracedFunctionStacks.getD [], ∀ e' ∈ s.allTracedFunctionStacks.getD [], ∀ stack t initial t' initial',
    s.heap.cells e = some (.entry stack t initial) → s.heap.cells e' = some (.entry stack t' initial') → e = e'

structure TfsRun (T : Type) where
  state : TfsState T
  past : List (TfsCall T)

def TfsRun.start : TfsRun T := ⟨TfsState.start, []⟩

def tfsStep (r : TfsRun T) (c : TfsCall T) : Exec (TfsRun T) := (fun s => ⟨s, c :: r.past⟩) <$> r.state.apply c

/-- **What is promised of a call**: it uses nothing that is freed, each thread's stack follows the calls, and there is one
entry for each stack. -/
def TfsStepRight (r : TfsRun T) (c : TfsCall T) : Prop :=
  ∃ r', tfsStep r c = .ok r' ∧ (∀ t, Follows r'.state t (expected t r'.past)) ∧ OneEntryEach r'.state

/-- **What is promised of a run that ends with the release of all stacks**: its calls are right, and then nothing is left
that was allocated. -/
def TfsRunRight (calls : List (TfsCall T)) : Prop :=
  AllAlong tfsStep TfsStepRight TfsRun.start calls ∧
    ∃ r s', calls.foldlM tfsStep TfsRun.start = .ok r ∧ freeAllTracedFunctionStacks r.state = .ok s' ∧
      ∀ a, s'.heap.cells a = none

def FreesNone (r : TfsRun T) : TfsCall T → Prop
  | .freeCurrent t => r.state.tracedFunctionStack t = none
  | _ => True

def IsPush : TfsCall T → Prop
  | .push _ _ => True
  | _ => False

end Calls

end Ddc.Tfs
