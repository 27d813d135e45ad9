import Ddcutil.Kit.Runs
import Mathlib.Algebra.GroupWithZero.Nat
import Mathlib.Logic.Function.Basic
/-!
# PublishedRefs — the table of published display references

A client of the API knows a display reference by its `dref_id`, a number drawn when the reference is created, and the
library looks it up in `published_dref_hash`.
-/
namespace Ddc

open Kit Function

/-- `Display_Ref`, as far as it is published and freed; `draw` is which of the numbers drawn its `dref_id` was. -/
structure RefRecord where
  drefId : UInt32
  draw : Nat
  transient : Bool
  isOpen : Bool
  removed : Bool
  freed : Bool

/-- **The references and the table**, the number of ids drawn, and the ids that were ever published, up to now and up to
the latest discard. -/
structure PublishedRefs where
  heap : Nat → RefRecord
  created : Nat
  maxDrefId : UInt32
  publishedDrefHash : UInt32 → Option Nat
  allDisplayRefs : Option (List Nat)
  deserializedDisplays : List Nat
  drawn : Nat
  everPublished : UInt32 → Bool
  retired : UInt32 → Bool

def PublishedRefs.start : PublishedRefs where
  heap := fun _ => ⟨0, 0, false, false, false, false⟩
  created := 0
  maxDrefId := 0
  publishedDrefHash := fun _ => none
  allDisplayRefs := none
  deserializedDisplays := []
  drawn := 0
  everPublished := fun _ => false
  retired := fun _ => false

/-! ## The functions of `displays.c` -/

def nextDrefId (s : PublishedRefs) : UInt32 × PublishedRefs :=
  (s.maxDrefId + 1, { s with maxDrefId := s.maxDrefId + 1, drawn := s.drawn + 1 })

def PublishedRefs.put (s : PublishedRefs) (r : Nat) (record : RefRecord) : PublishedRefs :=
  { s with heap := update s.heap r record }

def createBaseRef (s : PublishedRefs) : PublishedRefs :=
  { (nextDrefId s).2.put s.created ⟨(nextDrefId s).1, s.drawn + 1, false, false, false, false⟩ with
    created := s.created + 1 }

def fillCopy (s : PublishedRefs) (copy original : Nat) : PublishedRefs :=
  (nextDrefId s).2.put copy ⟨(nextDrefId s).1, s.drawn + 1, (s.heap original).transient, (s.heap original).isOpen,
    (s.heap original).removed, false⟩

def copyRef (s : PublishedRefs) (original : Nat) : PublishedRefs := fillCopy (createBaseRef s) s.created original

def addPublishedDrefId (s : PublishedRefs) (r : Nat) : PublishedRefs :=
  { s with
    publishedDrefHash := update s.publishedDrefHash (s.heap r).drefId (some r)
    everPublished := update s.everPublished (s.heap r).drefId true }

def deletePublishedDrefId (s : PublishedRefs) (drefId : UInt32) : PublishedRefs :=
  { s with publishedDrefHash := update s.publishedDrefHash drefId none }

def freeDisplayRef (s : PublishedRefs) (r : Nat) : Exec PublishedRefs :=
  if (s.heap r).freed = true then .error .assertFailed
  else if (s.heap r).transient = true ∧ (s.heap r).isOpen = false then
    .ok (deletePublishedDrefId (s.put r { s.heap r with freed := true }) (s.heap r).drefId)
  else .ok s

def drefFromPublishedDdcaDref (s : PublishedRefs) (ddcaDref : UInt32) : Option Nat := s.publishedDrefHash ddcaDref

/-! ## Detecting and discarding -/

inductive DetectedSource where
  | fresh
  | cached (ndx : Nat)

def detectRef (s : PublishedRefs) : DetectedSource → PublishedRefs
  | .fresh => createBaseRef s
  | .cached ndx =>
    match s.deserializedDisplays[ndx]? with
    | some original => copyRef s original
    | none => createBaseRef s

def detectAllRefs (s : PublishedRefs) : List DetectedSource → List Nat × PublishedRefs
  | [] => ([], s)
  | source :: sources =>
    (s.created :: (detectAllRefs (detectRef s source) sources).1,
      (detectAllRefs (detectRef s source) sources).2)

def ddcEnsureDisplaysDetected (s : PublishedRefs) (sources : List DetectedSource) (publishAllDisplayRefs : Bool) :
    PublishedRefs :=
  match s.allDisplayRefs with
  | some _ => s
  | none =>
    (if publishAllDisplayRefs = true then (detectAllRefs s sources).1 else []).foldl addPublishedDrefId
      { (detectAllRefs s sources).2 with allDisplayRefs := some (detectAllRefs s sources).1 }

/-- `ddc_close_all_displays`; a reference may be marked open that no handle has opened. -/
def ddcCloseAllDisplays (s : PublishedRefs) (unclosed : List Nat) : PublishedRefs :=
  { s with heap := fun r => { s.heap r with isOpen := (s.heap r).isOpen && unclosed.contains r } }

def resetPublishedDrefHash (s : PublishedRefs) : PublishedRefs :=
  { s with publishedDrefHash := fun _ => none, retired := s.everPublished }

def markTransient (s : PublishedRefs) (refs : List Nat) : PublishedRefs :=
  { s with heap := fun r => { s.heap r with transient := (s.heap r).transient || refs.contains r } }

def ddcDiscardDetectedDisplays (s : PublishedRefs) (unclosed : List Nat) : Exec PublishedRefs :=
  match s.allDisplayRefs with
  | none => .ok (resetPublishedDrefHash (ddcCloseAllDisplays s unclosed))
  | some refs => do
    let freed ← refs.foldlM freeDisplayRef (markTransient (resetPublishedDrefHash (ddcCloseAllDisplays s unclosed)) refs)
    .ok { freed with allDisplayRefs := none }

def restoreDisplays (s : PublishedRefs) : Nat → PublishedRefs
  | 0 => s
  | n + 1 =>
    { createBaseRef (restoreDisplays s n) with
      deserializedDisplays := (restoreDisplays s n).deserializedDisplays ++ [(restoreDisplays s n).created] }

/-- `dw_add_display_by_businfo` and what the hotplug handler does with its reference: one whose display has gone away
again is left transient, another is added to the list and published. -/
def dwAddDisplay (s : PublishedRefs) (disconnected : Bool) : Exec PublishedRefs :=
  if disconnected = true then
    .ok ((createBaseRef s).put s.created { (createBaseRef s).heap s.created with removed := true, transient := true })
  else
    match s.allDisplayRefs with
    | none => .error .nullDeref
    | some refs => .ok (addPublishedDrefId { createBaseRef s with allDisplayRefs := some (refs ++ [s.created]) } s.created)

/-! ## Steps -/

inductive PublishedEvent where
  | restoreCache (n : Nat)
  | ensureDetected (sources : List DetectedSource) (publishAllDisplayRefs : Bool)
  | discard (unclosed : List Nat)
  | publish (r : Nat)
  | watchAdd (disconnected : Bool)
  | watchRemove (r : Nat)
  | recheck (r : Nat)
  | createTransient
  | copy (r : Nat)
  | free (r : Nat)
  | openDisplay (r : Nat)
  | closeDisplay (r : Nat)

def PublishedRefs.Live (s : PublishedRefs) (r : Nat) : Prop := r < s.created ∧ (s.heap r).freed = false

instance (s : PublishedRefs) (r : Nat) : Decidable (s.Live r) := inferInstanceAs (Decidable (_ ∧ _))

def PublishedRefs.listed (s : PublishedRefs) (r : Nat) : Bool := s.allDisplayRefs.any fun refs => refs.contains r

def withLive (s : PublishedRefs) (r : Nat) (s' : PublishedRefs) : Exec PublishedRefs :=
  if s.Live r then .ok s' else .error .nullDeref

def withListed (s : PublishedRefs) (r : Nat) (s' : PublishedRefs) : Exec PublishedRefs :=
  if s.listed r = true then .ok s' else .ok s

def publishedStep (s : PublishedRefs) : PublishedEvent → Exec PublishedRefs
  | .restoreCache n => .ok (restoreDisplays s n)
  | .ensureDetected sources publishAllDisplayRefs => .ok (ddcEnsureDisplaysDetected s sources publishAllDisplayRefs)
  | .discard unclosed => ddcDiscardDetectedDisplays s unclosed
  | .publish r => withListed s r (addPublishedDrefId s r)
  | .watchAdd disconnected => dwAddDisplay s disconnected
  | .watchRemove r => withListed s r (s.put r { s.heap r with removed := true })
  | .recheck r => withListed s r (s.put r { s.heap r with transient := false, isOpen := false, removed := false })
  | .createTransient => .ok ((createBaseRef s).put s.created { (createBaseRef s).heap s.created with transient := true })
  | .copy r => withLive s r (copyRef s r)
  | .free r => if r < s.created then freeDisplayRef s r else .error .nullDeref
  | .openDisplay r => withLive s r (s.put r { s.heap r with isOpen := true })
  | .closeDisplay r => withLive s r (s.put r { s.heap r with isOpen := false })

/-- **What holds of the table**: what an id resolves to exists and has that id, no two references ever have the same one,
and one published before a discard resolves to nothing. -/
structure PublishedRight (s : PublishedRefs) : Prop where
  resolves : ∀ drefId r, drefFromPublishedDdcaDref s drefId = some r → s.Live r ∧ (s.heap r).drefId = drefId
  distinct : ∀ r r', r < s.created → r' < s.created → (s.heap r).drefId = (s.heap r').drefId → r = r'
  retired : ∀ drefId, s.retired drefId = true → drefFromPublishedDdcaDref s drefId = none

def DetectedSource.ids (s : PublishedRefs) : DetectedSource → Nat
  | .fresh => 1
  | .cached ndx => if ndx < s.deserializedDisplays.length then 2 else 1

def idsDrawn (s : PublishedRefs) : PublishedEvent → Nat
  | .restoreCache n => n
  | .ensureDetected sources _ => if s.allDisplayRefs = none then (sources.map (DetectedSource.ids s)).sum else 0
  | .watchAdd _ | .createTransient => 1
  | .copy _ => 2
  | _ => 0

end Ddc
