import Ddcutil.Kit.Runs
import Ddcutil.MonitorModelKey
/-!
# CapabilitiesCache — capabilities strings that outlive a process

`persistent_capabilities.c`: a hash table from the key string of a monitor model to its capabilities string, made when
it is first looked at and read from a cache file then, and written to the file as lines `key:string` after each
change.
-/
namespace Ddc

open Kit

abbrev CString := { s : List Byte // ∀ c ∈ s, c ≠ 0 }

abbrev CapsTable := AList fun _ : List Byte => List Byte

/-- **The order in which a hash table is walked**: every entry once, in an order of its own. -/
structure HashOrder where
  iterate : CapsTable → List (List Byte × List Byte)
  perm : ∀ table, (iterate table).Perm (table.entries.map fun e => (e.1, e.2))

/-! ## The file -/

inductive CapsLine where
  | ignored
  | noColon (aline : List Byte)
  | entry (key value : List Byte)
  deriving DecidableEq, Repr

def capsLine (line : List Byte) : CapsLine :=
  let aline := strtrim line
  if aline = [] ∨ aline.head? = some 0x2a ∨ aline.head? = some 0x23 then .ignored
  else if colon ∈ aline then
    .entry (aline.takeWhile (· != colon)) ((aline.dropWhile (· != colon)).drop 1)
  else .noColon aline

def capsEntry (line : List Byte) : Option (List Byte × List Byte) :=
  match capsLine line with
  | .entry key value => some (key, value)
  | _ => none

def capsFault (line : List Byte × Nat) : Option ErrorInfo :=
  match capsLine line.1 with
  | .noColon aline => some ⟨ddcrcBadData, "load_persistent_capabilities_file",
      some (asText (ascii "Line " ++ decimal line.2 ++ ascii ", No colon in " ++ aline)), []⟩
  | _ => none

def insertLines (table : CapsTable) (lines : List (List Byte)) : CapsTable :=
  (lines.filterMap capsEntry).foldl (fun t e => t.insert e.1 e.2) table

/-- **`load_persistent_capabilities_file` where there is no hash table yet**: the table it makes, its errors and what it
leaves of the file, which an error deletes. -/
def loadPersistentCapabilitiesFile (dataFileName : List Byte) (capabilitiesCacheEnabled : Bool)
    (file : Option (List Byte)) : CapsTable × Option ErrorInfo × Option (List Byte) :=
  if capabilitiesCacheEnabled then
    match file with
    | none => (∅, some ⟨-eNoent, "file_getlines_errinfo", some (asText (ascii "Error reading file " ++ dataFileName)), []⟩,
        none)
    | some content =>
      let lines := fileGetlines content
      match (lines.zipIdx 1).filterMap capsFault with
      | [] => (insertLines ∅ lines, none, some content)
      | causes => (∅, some ⟨ddcrcBadData, "load_persistent_capabilities_file", some "Invalid capabilities file", causes⟩,
          none)
  else (∅, none, file)

def capsText (order : HashOrder) (capabilitiesHash : Option CapsTable) : List Byte :=
  match capabilitiesHash with
  | some table => unlines newline ((order.iterate table).map fun e => e.1 ++ colon :: e.2)
  | none => []

/-! ## The functions of the interface -/

def genericNames : List (List Byte) :=
  [ascii "LG IPS FULLHD", ascii "LG UltraFine", ascii "LG Ultrawide", ascii "LG UltraWide", ascii "Samsung Syncmaster"]

def genericModelName (modelName : List Byte) : Bool := genericNames.contains modelName

def nonUniqueModelId (mmk : MonitorModelKey) : Bool :=
  genericModelName mmk.modelName && (mmk.productCode == 0 || mmk.productCode == 0x0101)

/-- **A process that uses the cache**: its switch, and its hash table once made. -/
structure CapsProcess where
  capabilitiesCacheEnabled : Bool
  capabilitiesHash : Option CapsTable

def newProcess (capabilitiesCacheEnabled : Bool) : CapsProcess := ⟨capabilitiesCacheEnabled, none⟩

def getPersistentCapabilities (dataFileName : List Byte) (p : CapsProcess) (file : Option (List Byte))
    (mmk : MonitorModelKey) : Option (List Byte) × CapsProcess × Option (List Byte) :=
  if p.capabilitiesCacheEnabled then
    if nonUniqueModelId mmk then (none, p, file)
    else
      match p.capabilitiesHash with
      | some table => (table.lookup (mmkString mmk), p, file)
      | none =>
        let loaded := loadPersistentCapabilitiesFile dataFileName true file
        (loaded.1.lookup (mmkString mmk), { p with capabilitiesHash := some loaded.1 }, loaded.2.2)
  else (none, p, file)

/-- `set_persistent_capabilites`.  Inserting into a table that was not made yet does nothing, and the file is written all
the same. -/
def setPersistentCapabilities (order : HashOrder) (p : CapsProcess) (file : Option (List Byte))
    (mmk : MonitorModelKey) (capabilities : CString) : CapsProcess × Option (List Byte) :=
  if p.capabilitiesCacheEnabled then
    if nonUniqueModelId mmk then (p, file)
    else
      let hash := p.capabilitiesHash.map fun table => table.insert (mmkString mmk) capabilities.val
      ({ p with capabilitiesHash := hash }, some (capsText order hash))
  else (p, file)

/-- **A process, the file and what was stored** while caching was on, the oldest first. -/
structure CapsStore where
  process : CapsProcess
  file : Option (List Byte)
  stored : List (MonitorModelKey × CString)

inductive CapsCall where
  | enable (newval : Bool)
  | get (mmk : MonitorModelKey)
  | set (mmk : MonitorModelKey) (capabilities : CString)
  | restart

def capsStep (dataFileName : List Byte) (order : HashOrder) (s : CapsStore) : CapsCall → Exec CapsStore
  | .enable newval => .ok { s with process := { s.process with capabilitiesCacheEnabled := newval } }
  | .get mmk =>
    let got := getPersistentCapabilities dataFileName s.process s.file mmk
    .ok { s with process := got.2.1, file := got.2.2 }
  | .set mmk capabilities =>
    let left := setPersistentCapabilities order s.process s.file mmk capabilities
    .ok {
      process := left.1
      file := left.2
      stored := if s.process.capabilitiesCacheEnabled then s.stored ++ [(mmk, capabilities)] else s.stored }
  | .restart => .ok { s with process := newProcess false }

def CapsStore.lastStored (s : CapsStore) (mmk : MonitorModelKey) : Option (List Byte) :=
  (lastFor Prod.fst mmk s.stored).map fun p => p.2.val

end Ddc
