import Ddcutil.BitSet256
import Ddcutil.DynFeatureSet
import Ddcutil.HexCodes
/-!
# FeatureSetArgs — the features of a command line

`parse_feature_ids_or_subset` takes one subset name or any number of feature codes.  It keeps whether the last value was
a code and not whether all were, so a list with a bad value in front is accepted without it
(`parseFeatureIdsOrSubset_right_iff`).
-/
namespace Ddc

open Kit List Exec

/-! ## The table of subsets -/

abbrev CmdIdType : Type := UInt32

def cmdidGetvcp : CmdIdType := 0x0004
def cmdidVcpinfo : CmdIdType := 0x1000

inductive FeatureCommand where
  | getvcp | vcpinfo
  deriving DecidableEq, Repr

def FeatureCommand.cmdId : FeatureCommand → CmdIdType
  | .getvcp => cmdidGetvcp
  | .vcpinfo => cmdidVcpinfo

structure FeatureSubsetTableEntry where
  subsetId : VcpFeatureSubset
  validCommands : CmdIdType
  minChars : Nat
  subsetName : List Byte
  deriving DecidableEq

def bothCommands : CmdIdType := cmdidGetvcp ||| cmdidVcpinfo

def subsetTable : List FeatureSubsetTableEntry := [
  -- special handling
  ⟨vcpSubsetKnown, bothCommands, 3, ascii "KNOWN"⟩,
  ⟨vcpSubsetKnown, bothCommands, 3, ascii "ALL"⟩,
  ⟨vcpSubsetKnown, bothCommands, 3, ascii "MCCS"⟩,
  ⟨vcpSubsetScan, cmdidGetvcp, 3, ascii "SCAN"⟩,
  ⟨vcpSubsetMfg, cmdidGetvcp, 3, ascii "MANUFACTURER"⟩,
  ⟨vcpSubsetMfg, cmdidGetvcp, 3, ascii "MFG"⟩,
  ⟨vcpSubsetUdf, bothCommands, 3, ascii "UDF"⟩,
  ⟨vcpSubsetUdf, bothCommands, 3, ascii "USER"⟩,
  -- ddcutil defined groups
  ⟨vcpSubsetProfile, bothCommands, 3, ascii "PROFILE"⟩,
  ⟨vcpSubsetColor, bothCommands, 3, ascii "COLOR"⟩,
  ⟨vcpSubsetLut, bothCommands, 3, ascii "LUT"⟩,
  -- by MCCS spec group
  ⟨vcpSubsetCrt, bothCommands, 3, ascii "CRT"⟩,
  ⟨vcpSubsetAudio, bothCommands, 3, ascii "AUDIO"⟩,
  ⟨vcpSubsetWindow, bothCommands, 3, ascii "WINDOW"⟩,
  ⟨vcpSubsetTv, bothCommands, 2, ascii "TV"⟩,
  ⟨vcpSubsetDpvl, bothCommands, 3, ascii "DPVL"⟩,
  ⟨vcpSubsetPreset, cmdidVcpinfo, 3, ascii "PRESET"⟩,
  -- by feature type
  ⟨vcpSubsetTable, bothCommands, 3, ascii "TABLE"⟩,
  ⟨vcpSubsetScont, bothCommands, 3, ascii "SCONT"⟩,
  ⟨vcpSubsetCcont, bothCommands, 3, ascii "CCONT"⟩,
  ⟨vcpSubsetCont, bothCommands, 3, ascii "CONT"⟩,
  ⟨vcpSubsetSnc, bothCommands, 3, ascii "SNC"⟩,
  ⟨vcpSubsetXnc, bothCommands, 3, ascii "XNC"⟩,
  ⟨vcpSubsetCnc, bothCommands, 3, ascii "CNC"⟩,
  ⟨vcpSubsetNcWo, cmdidVcpinfo, 4, ascii "NC_WO"⟩,
  ⟨vcpSubsetNcCont, bothCommands, 4, ascii "NC_CONT"⟩,
  ⟨vcpSubsetNc, bothCommands, 2, ascii "NC"⟩]

def isAbbrev (value longname : List Byte) (minchars : Nat) : Bool :=
  decide (minchars ≤ value.length) && decide (value.length ≤ longname.length) &&
    longname.take value.length == value

def findSubset (name : List Byte) (cmdId : CmdIdType) : Exec VcpFeatureSubset := do
  check (cmdId = cmdidGetvcp ∨ cmdId = cmdidVcpinfo)
  match subsetTable.find? fun entry => isAbbrev (strdupUc name) entry.subsetName entry.minChars with
  | none => pure vcpSubsetNone
  | some entry => pure (if cmdId &&& entry.validCommands ≠ 0 then entry.subsetId else vcpSubsetNone)

structure FeatureSetRef where
  subset : VcpFeatureSubset
  features : BitSet256
  deriving DecidableEq

def parseFeatureIdOrSubset (cmdId : CmdIdType) (val : List Byte) : Exec (Option FeatureSetRef) := do
  let subsetId ← findSubset val cmdId
  if subsetId ≠ vcpSubsetNone then pure (some ⟨subsetId, emptyBitSet256⟩)
  else
    match anyOneByteHexStringToByteInBuf val with
    | some featureHexid => pure (some ⟨vcpSubsetSingleFeature, bs256Insert emptyBitSet256 featureHexid⟩)
    | none => pure none

def featureIdTurn (acc : Bool × BitSet256) (val : List Byte) : Bool × BitSet256 :=
  match anyOneByteHexStringToByteInBuf val with
  | some featureHexid => (true, bs256Insert acc.2 featureHexid)
  | none => (false, acc.2)

def parseFeatureIds (cmdId : CmdIdType) (vals : List (List Byte)) : Exec (Option FeatureSetRef) := do
  check (cmdId = cmdidGetvcp ∨ cmdId = cmdidVcpinfo)
  let acc := vals.foldl featureIdTurn (false, emptyBitSet256)
  pure (if acc.1 = true then some ⟨vcpSubsetMultiFeatures, acc.2⟩ else none)

def parseFeatureIdsOrSubset (cmdId : CmdIdType) : List (List Byte) → Exec (Option FeatureSetRef)
  | [] => parseFeatureIdOrSubset cmdId (ascii "ALL")
  | [val] => parseFeatureIdOrSubset cmdId val
  | vals => parseFeatureIds cmdId vals

/-! ## What is given -/

/-- **The value names a subset that the command takes**, in full or abbreviated, in any case. -/
def NamesSubset (cmd : FeatureCommand) (val : List Byte) (subsetId : VcpFeatureSubset) : Prop :=
  ∃ entry ∈ subsetTable, isAbbrev (strdupUc val) entry.subsetName entry.minChars = true ∧
    cmd.cmdId &&& entry.validCommands ≠ 0 ∧ entry.subsetId = subsetId

def GivenSubset (cmd : FeatureCommand) (vals : List (List Byte)) (subsetId : VcpFeatureSubset) : Prop :=
  vals = [] ∧ subsetId = vcpSubsetKnown ∨ ∃ val, vals = [val] ∧ NamesSubset cmd val subsetId

def GivenCodes (vals : List (List Byte)) (codes : List Byte) : Prop :=
  vals ≠ [] ∧ List.Forall₂ (fun val code => CodePlace.Denotes code .commandLine val) vals codes

/-- **What is asked of the function**: a reference comes of one subset or of codes and of nothing else, it denotes the
subset or the set of the codes, and the order of codes does not matter. -/
def ParsedRight (cmd : FeatureCommand) (vals : List (List Byte)) : Prop :=
  ∃ fsref, parseFeatureIdsOrSubset cmd.cmdId vals = .ok fsref ∧
    (fsref.isSome = true ↔ (∃ subsetId, GivenSubset cmd vals subsetId) ∨ ∃ codes, GivenCodes vals codes) ∧
    (∀ ref, fsref = some ref →
      (∀ subsetId, GivenSubset cmd vals subsetId → ref = ⟨subsetId, emptyBitSet256⟩) ∧
      ∀ codes, GivenCodes vals codes → flags ref.features = (codes.map UInt8.toNat).toFinset ∧
        ref.subset = if vals.length = 1 then vcpSubsetSingleFeature else vcpSubsetMultiFeatures) ∧
    ∀ codes, GivenCodes vals codes → ∀ vals', vals'.Perm vals →
      parseFeatureIdsOrSubset cmd.cmdId vals' = parseFeatureIdsOrSubset cmd.cmdId vals

def NotTaken (val : List Byte) : Prop :=
  (∀ code, ¬ CodePlace.Denotes code .commandLine val) ∧ strayFirst (bareCode val) = false

/-- **Where the values are parsed right**: one value is no digit behind a sign or white space; of more, all are codes or
the last one is none. -/
def ValuesClear : List (List Byte) → Prop
  | [] => True
  | [val] => strayFirst (bareCode val) = false
  | vals => (∃ codes, GivenCodes vals codes) ∨ ∀ val ∈ vals.getLast?, NotTaken val

/-! ## Names -/

theorem isAbbrev_iff {value longname : List Byte} {minchars : Nat} : isAbbrev value longname minchars = true ↔
    minchars ≤ value.length ∧ value.length ≤ longname.length ∧ longname.take value.length = value := by
  simp [isAbbrev, and_assoc]

theorem abbrev_unique {us : List Byte} {entry entry' : FeatureSubsetTableEntry} (h : entry ∈ subsetTable)
    (h' : entry' ∈ subsetTable) (ha : isAbbrev us entry.subsetName entry.minChars = true)
    (ha' : isAbbrev us entry'.subsetName entry'.minChars = true) : entry = entry' := by
  have htable : ∀ e ∈ subsetTable, ∀ e' ∈ subsetTable, max e.minChars e'.minChars ≤ e.subsetName.length →
      max e.minChars e'.minChars ≤ e'.subsetName.length →
        e.subsetName.take (max e.minChars e'.minChars) = e'.subsetName.take (max e.minChars e'.minChars) → e = e' := by
    decide +kernel
  obtain ⟨hmin, hlen, htake⟩ := isAbbrev_iff.1 ha
  obtain ⟨hmin', hlen', htake'⟩ := isAbbrev_iff.1 ha'
  have hmax : max entry.minChars entry'.minChars ≤ us.length := Nat.max_le.2 ⟨hmin, hmin'⟩
  refine htable entry h entry' h' (Nat.le_trans hmax hlen) (Nat.le_trans hmax hlen') ?_
  have hfront := congrArg (List.take (max entry.minChars entry'.minChars)) (htake.trans htake'.symm)
  rwa [take_take, take_take, Nat.min_eq_left hmax] at hfront

theorem subsetId_ne_none {entry : FeatureSubsetTableEntry} (h : entry ∈ subsetTable) :
    entry.subsetId ≠ vcpSubsetNone := by
  have htable : ∀ e ∈ subsetTable, e.subsetId ≠ vcpSubsetNone := by decide
  exact htable entry h

theorem cmdId_checked (cmd : FeatureCommand) : cmd.cmdId = cmdidGetvcp ∨ cmd.cmdId = cmdidVcpinfo := by
  cases cmd with
  | getvcp => exact .inl rfl
  | vcpinfo => exact .inr rfl

theorem findSubset_spec (cmd : FeatureCommand) (val : List Byte) : ∃ subsetId, findSubset val cmd.cmdId = .ok subsetId ∧
    (subsetId ≠ vcpSubsetNone → NamesSubset cmd val subsetId) ∧ ∀ id, NamesSubset cmd val id → subsetId = id := by
  rw [findSubset, check_pos (cmdId_checked cmd), ok_bind]
  cases hfind : subsetTable.find? fun entry => isAbbrev (strdupUc val) entry.subsetName entry.minChars with
  | none =>
    refine ⟨_, rfl, fun h => absurd rfl h, ?_⟩
    rintro id ⟨entry, hmem, habbrev, -⟩
    exact absurd habbrev (find?_eq_none.1 hfind entry hmem)
  | some entry =>
    have hmem := mem_of_find?_eq_some hfind
    have habbrev : isAbbrev (strdupUc val) entry.subsetName entry.minChars = true := by
      simpa using (find?_eq_some_iff_append.1 hfind).1
    refine ⟨_, rfl, fun h => ?_, ?_⟩
    · by_cases hcmd : cmd.cmdId &&& entry.validCommands ≠ 0
      · rw [if_pos hcmd]; exact ⟨entry, hmem, habbrev, hcmd, rfl⟩
      · rw [if_neg hcmd] at h; exact absurd rfl h
    · rintro id ⟨entry', hmem', habbrev', hcmd, rfl⟩
      obtain rfl := abbrev_unique hmem hmem' habbrev habbrev'
      exact if_pos hcmd

theorem strdupUc_strdupUc (s : List Byte) : strdupUc (strdupUc s) = strdupUc s := by
  have htwice : ∀ b : Byte, toupper (toupper b) = toupper b :=
    forall_byte (P := fun b => toupper (toupper b) = toupper b) (by decide +kernel)
  unfold strdupUc
  rw [map_map]; exact map_congr_left fun b _ => htwice b

variable {cmd : FeatureCommand} {val codes : List Byte} {id : VcpFeatureSubset} {vals : List (List Byte)}

theorem notTaken_of_namesSubset {subsetId : VcpFeatureSubset} (h : NamesSubset cmd val subsetId) : NotTaken val := by
  have htable : ∀ e ∈ subsetTable, ∀ k < 13, e.minChars ≤ k → k ≤ e.subsetName.length →
      hexCode (bareCode (e.subsetName.take k)) = none ∧ strayFirst (bareCode (e.subsetName.take k)) = false := by
    decide +kernel
  have hlong : ∀ e ∈ subsetTable, e.subsetName.length < 13 := by decide +kernel
  obtain ⟨entry, hmem, habbrev, -⟩ := h
  obtain ⟨hmin, hlen, htake⟩ := isAbbrev_iff.1 habbrev
  have hbare : bareCode val = bareCode (entry.subsetName.take (strdupUc val).length) := by
    rw [htake]
    unfold bareCode
    rw [strdupUc_strdupUc]
  obtain ⟨hcode, hstray⟩ := htable entry hmem _ (Nat.lt_of_le_of_lt hlen (hlong entry hmem)) hmin hlen
  rw [← hbare] at hcode hstray
  refine ⟨fun code hdenotes => ?_, hstray⟩
  rw [bareCode_of_denotes hdenotes] at hcode; cases hcode

/-! ## Codes -/

theorem taken_of_denotes {code : Byte} (h : CodePlace.Denotes code .commandLine val) :
    anyOneByteHexStringToByteInBuf val = some code := by
  rw [anyOneByteHexString_eq]; exact hhsToByteInBuf_of_hexCode (bareCode_of_denotes h)

theorem not_taken_iff : anyOneByteHexStringToByteInBuf val = none ↔ NotTaken val := by
  rw [anyOneByteHexString_eq]
  constructor
  · intro h
    have hstray : strayFirst (bareCode val) = false := by
      rw [← Bool.not_eq_true]
      intro hstray
      obtain ⟨v, hv, -⟩ := hhsToByteInBuf_of_stray hstray
      rw [h] at hv; cases hv
    refine ⟨fun code hdenotes => ?_, hstray⟩
    rw [hhsToByteInBuf_of_hexCode (bareCode_of_denotes hdenotes)] at h; cases h
  · rintro ⟨hcode, hstray⟩
    rw [hhsToByteInBuf_eq hstray]
    cases h : hexCode (bareCode val) with
    | none => rfl
    | some code => exact absurd (denotes_of_bareCode h) (hcode code)

theorem not_denotes_of_stray (h : strayFirst (bareCode val) = true) (code : Byte) :
    ¬ CodePlace.Denotes code .commandLine val := by
  intro hdenotes
  obtain ⟨c, d, hcd, hc, -⟩ := hexCode_eq_some (bareCode_of_denotes hdenotes)
  rw [hcd] at h
  obtain ⟨n, hn⟩ := exists_digitVal hc
  have hplus : c ≠ 0x2b := ne_of_digitVal hn (by decide)
  have hminus : c ≠ 0x2d := ne_of_digitVal hn (by decide)
  simp [strayFirst, isspace_of_digitVal hn, hplus, hminus] at h

theorem givenCodes_singleton : GivenCodes [val] codes ↔
    ∃ code, codes = [code] ∧ CodePlace.Denotes code .commandLine val := by
  constructor
  · rintro ⟨-, h⟩
    obtain ⟨code, rest, hcode, hrest, rfl⟩ := forall₂_cons_left_iff.1 h
    cases hrest; exact ⟨code, rfl, hcode⟩
  · rintro ⟨code, rfl, hcode⟩
    exact ⟨cons_ne_nil val [], .cons hcode .nil⟩

/-! ## One value -/

theorem parse_of_namesSubset {subsetId : VcpFeatureSubset} (h : NamesSubset cmd val subsetId) :
    parseFeatureIdOrSubset cmd.cmdId val = .ok (some ⟨subsetId, emptyBitSet256⟩) := by
  obtain ⟨id, hfind, -, hnamed⟩ := findSubset_spec cmd val
  obtain rfl := hnamed subsetId h
  obtain ⟨entry, hmem, -, -, hid⟩ := h
  have hne : id ≠ vcpSubsetNone := hid ▸ subsetId_ne_none hmem
  rw [parseFeatureIdOrSubset, hfind, ok_bind, if_pos hne]; rfl

theorem parse_of_not_named (h : ∀ id, ¬ NamesSubset cmd val id) :
    parseFeatureIdOrSubset cmd.cmdId val = .ok ((anyOneByteHexStringToByteInBuf val).map fun featureHexid =>
      ⟨vcpSubsetSingleFeature, bs256Insert emptyBitSet256 featureHexid⟩) := by
  obtain ⟨id, hfind, hnames, -⟩ := findSubset_spec cmd val
  have hnone : ¬ id ≠ vcpSubsetNone := fun hne => h id (hnames hne)
  rw [parseFeatureIdOrSubset, hfind, ok_bind, if_neg hnone]
  cases anyOneByteHexStringToByteInBuf val with
  | none | some featureHexid => rfl

theorem namesSubset_unique {id' : VcpFeatureSubset} (h : NamesSubset cmd val id) (h' : NamesSubset cmd val id') :
    id = id' := by
  obtain ⟨subsetId, -, -, hnamed⟩ := findSubset_spec cmd val
  exact (hnamed id h).symm.trans (hnamed id' h')

theorem givenSubset_singleton : GivenSubset cmd [val] id ↔ NamesSubset cmd val id := by
  constructor
  · rintro (⟨h, -⟩ | ⟨val', h, hnames⟩)
    · cases h
    · cases h; exact hnames
  · exact fun h => .inr ⟨val, rfl, h⟩

theorem parsedRight_nil (cmd : FeatureCommand) : ParsedRight cmd [] := by
  have hall : NamesSubset cmd (ascii "ALL") vcpSubsetKnown := by
    refine ⟨⟨vcpSubsetKnown, bothCommands, 3, ascii "ALL"⟩, by decide, by decide, ?_, rfl⟩
    cases cmd with
    | getvcp | vcpinfo => decide
  have hcodes : ∀ codes, ¬ GivenCodes [] codes := fun codes h => h.1 rfl
  refine ⟨_, parse_of_namesSubset hall, ?_, ?_, fun codes h => absurd h (hcodes codes)⟩
  · exact iff_of_true rfl (.inl ⟨vcpSubsetKnown, .inl ⟨rfl, rfl⟩⟩)
  · rintro ref ⟨⟩
    refine ⟨?_, fun codes h => absurd h (hcodes codes)⟩
    rintro id (⟨-, rfl⟩ | ⟨val, h, -⟩)
    · rfl
    · cases h

theorem parsedRight_of_named (h : NamesSubset cmd val id) : ParsedRight cmd [val] := by
  have hcodes : ∀ codes, ¬ GivenCodes [val] codes := by
    intro codes hcodes
    obtain ⟨code, -, hcode⟩ := givenCodes_singleton.1 hcodes
    exact (notTaken_of_namesSubset h).1 code hcode
  refine ⟨_, parse_of_namesSubset h, ?_, ?_, fun codes hgiven => absurd hgiven (hcodes codes)⟩
  · exact iff_of_true rfl (.inl ⟨id, givenSubset_singleton.2 h⟩)
  · rintro ref ⟨⟩
    refine ⟨fun id' h' => ?_, fun codes hgiven => absurd hgiven (hcodes codes)⟩
    rw [namesSubset_unique h (givenSubset_singleton.1 h')]

theorem parsedRight_of_not_named (h : ∀ id, ¬ NamesSubset cmd val id) (hstray : strayFirst (bareCode val) = false) :
    ParsedRight cmd [val] := by
  have htaken : ∀ code, CodePlace.Denotes code .commandLine val ↔ anyOneByteHexStringToByteInBuf val = some code := by
    intro code
    rw [anyOneByteHexString_eq, hhsToByteInBuf_eq hstray]
    exact ⟨bareCode_of_denotes, denotes_of_bareCode⟩
  refine ⟨_, parse_of_not_named h, ?_, ?_, ?_⟩
  · rw [Option.isSome_map, Option.isSome_iff_exists]
    constructor
    · rintro ⟨code, hcode⟩
      exact .inr ⟨[code], givenCodes_singleton.2 ⟨code, rfl, (htaken code).2 hcode⟩⟩
    · rintro (⟨id, hid⟩ | ⟨codes, hcodes⟩)
      · exact absurd (givenSubset_singleton.1 hid) (h id)
      · obtain ⟨code, -, hcode⟩ := givenCodes_singleton.1 hcodes
        exact ⟨code, (htaken code).1 hcode⟩
  · intro ref href
    refine ⟨fun id hid => absurd (givenSubset_singleton.1 hid) (h id), ?_⟩
    intro codes hcodes
    obtain ⟨code, rfl, hcode⟩ := givenCodes_singleton.1 hcodes
    rw [(htaken code).1 hcode] at href
    obtain rfl := Option.some.inj href
    exact ⟨flags_fromBva [code], (if_pos rfl).symm⟩
  · intro codes _ vals' hperm
    rw [perm_singleton.1 hperm]

theorem parsedRight_value_iff (cmd : FeatureCommand) (val : List Byte) :
    ParsedRight cmd [val] ↔ strayFirst (bareCode val) = false := by
  by_cases hnamed : ∃ id, NamesSubset cmd val id
  · obtain ⟨id, h⟩ := hnamed
    exact iff_of_true (parsedRight_of_named h) (notTaken_of_namesSubset h).2
  · have h : ∀ id, ¬ NamesSubset cmd val id := fun id hid => hnamed ⟨id, hid⟩
    refine ⟨?_, parsedRight_of_not_named h⟩
    rintro ⟨fsref, hparse, hgiven, -⟩
    rw [← Bool.not_eq_true]
    intro hstray
    obtain ⟨v, hv, -⟩ := hhsToByteInBuf_of_stray hstray
    have hfsref := hparse.symm.trans (parse_of_not_named h)
    rw [anyOneByteHexString_eq, hv] at hfsref
    obtain rfl := Except.ok.inj hfsref
    rcases hgiven.1 rfl with ⟨id, hid⟩ | ⟨codes, hcodes⟩
    · exact h id (givenSubset_singleton.1 hid)
    · obtain ⟨code, -, hcode⟩ := givenCodes_singleton.1 hcodes
      exact not_denotes_of_stray hstray code hcode

/-! ## Two or more -/

theorem foldl_featureIdTurn (vals : List (List Byte)) (acc : Bool × BitSet256) : vals.foldl featureIdTurn acc =
    ((vals.getLast?.map fun val => (anyOneByteHexStringToByteInBuf val).isSome).getD acc.1,
      (vals.filterMap anyOneByteHexStringToByteInBuf).foldl bs256Insert acc.2) := by
  induction vals generalizing acc with
  | nil => rfl
  | cons val vals ih =>
    -- a turn sets the flag afresh, so only a list of one keeps it
    have hflag : (vals.getLast?.map fun val => (anyOneByteHexStringToByteInBuf val).isSome).getD
        (anyOneByteHexStringToByteInBuf val).isSome =
          ((val :: vals).getLast?.map fun val => (anyOneByteHexStringToByteInBuf val).isSome).getD acc.1 := by
      cases vals with
      | nil => rfl
      | cons val' vals =>
        rfl
    rw [foldl_cons, ih, ← hflag]
    unfold featureIdTurn
    cases h : anyOneByteHexStringToByteInBuf val with
    | none =>
      rw [filterMap_cons_none h]; rfl
    | some code =>
      rw [filterMap_cons_some h]; rfl

theorem parse_of_two (cmd : FeatureCommand) (h : 2 ≤ vals.length) (hlast : vals.getLast? = some val) :
    parseFeatureIdsOrSubset cmd.cmdId vals =
      .ok (if (anyOneByteHexStringToByteInBuf val).isSome = true then
        some ⟨vcpSubsetMultiFeatures, bs256FromBva (vals.filterMap anyOneByteHexStringToByteInBuf)⟩ else none) := by
  have hparse : parseFeatureIdsOrSubset cmd.cmdId vals = parseFeatureIds cmd.cmdId vals := by
    match vals, h with
    | _ :: _ :: _, _ => rfl
  rw [hparse, parseFeatureIds, check_pos (cmdId_checked cmd), ok_bind, foldl_featureIdTurn, hlast]
  rfl

theorem taken_of_givenCodes (h : GivenCodes vals codes) :
    (∀ val ∈ vals, (anyOneByteHexStringToByteInBuf val).isSome = true) ∧
      vals.filterMap anyOneByteHexStringToByteInBuf = codes := by
  obtain ⟨-, h⟩ := h
  induction h with
  | nil => exact ⟨fun val hval => absurd hval not_mem_nil, rfl⟩
  | cons hcode _ ih =>
    have htaken := taken_of_denotes hcode
    refine ⟨forall_mem_cons.2 ⟨by rw [htaken]; rfl, ih.1⟩, ?_⟩
    rw [filterMap_cons_some htaken, ih.2]

theorem parse_of_all_taken (cmd : FeatureCommand) (h : 2 ≤ vals.length)
    (htaken : ∀ val ∈ vals, (anyOneByteHexStringToByteInBuf val).isSome = true) :
    parseFeatureIdsOrSubset cmd.cmdId vals =
      .ok (some ⟨vcpSubsetMultiFeatures, bs256FromBva (vals.filterMap anyOneByteHexStringToByteInBuf)⟩) := by
  have hne : vals ≠ [] := ne_nil_of_length_pos (Nat.lt_of_lt_of_le Nat.zero_lt_two h)
  rw [parse_of_two cmd h (getLast?_eq_some_getLast hne), if_pos (htaken _ (getLast_mem hne))]

section
variable (h : 2 ≤ vals.length)
include h

theorem not_givenSubset_of_two (id : VcpFeatureSubset) : ¬ GivenSubset cmd vals id := by
  rintro (⟨rfl, -⟩ | ⟨val, rfl, -⟩)
  · exact absurd h (by decide)
  · exact absurd h (Nat.not_succ_le_self 1)

theorem parsedRight_of_codes (hcodes : GivenCodes vals codes) : ParsedRight cmd vals := by
  obtain ⟨htaken, hmap⟩ := taken_of_givenCodes hcodes
  have hparse := parse_of_all_taken cmd h htaken
  have hunique : ∀ codes', GivenCodes vals codes' → codes' = codes := by
    intro codes' hcodes'; exact (taken_of_givenCodes hcodes').2.symm.trans hmap
  refine ⟨_, hparse, iff_of_true rfl (.inr ⟨codes, hcodes⟩), ?_, ?_⟩
  · rintro ref ⟨⟩
    refine ⟨fun id hid => absurd hid (not_givenSubset_of_two h id), ?_⟩
    intro codes' hcodes'
    rw [hunique codes' hcodes', hmap]
    have hlen : vals.length ≠ 1 := by omega
    exact ⟨flags_fromBva codes, (if_neg hlen).symm⟩
  · intro codes' _ vals' hperm
    rw [hparse, parse_of_all_taken cmd (hperm.length_eq ▸ h) fun val hval => htaken val (hperm.mem_iff.1 hval)]
    have hset : bs256FromBva (vals'.filterMap anyOneByteHexStringToByteInBuf) =
        bs256FromBva (vals.filterMap anyOneByteHexStringToByteInBuf) := by
      rw [← flags_inj, flags_fromBva, flags_fromBva]
      exact toFinset_eq_of_perm _ _ ((hperm.filterMap _).map _)
    rw [hset]

theorem parsedRight_of_last_not_taken (hlast : vals.getLast? = some val) (hval : NotTaken val) :
    ParsedRight cmd vals := by
  have hnone := not_taken_iff.2 hval
  have hcodes : ∀ codes, ¬ GivenCodes vals codes := by
    intro codes hcodes
    have hsome := (taken_of_givenCodes hcodes).1 val (mem_of_getLast? hlast)
    rw [hnone] at hsome; cases hsome
  refine ⟨none, ?_, ?_, ?_, fun codes hgiven => absurd hgiven (hcodes codes)⟩
  · rw [parse_of_two cmd h hlast, hnone]; rfl
  · refine iff_of_false Bool.false_ne_true ?_
    rintro (⟨id, hid⟩ | ⟨codes, hgiven⟩)
    · exact not_givenSubset_of_two h id hid
    · exact hcodes codes hgiven
  · intro ref href; cases href

theorem not_parsedRight_of_last_taken (hlast : vals.getLast? = some val) (hval : ¬ NotTaken val)
    (hcodes : ∀ codes, ¬ GivenCodes vals codes) : ¬ ParsedRight cmd vals := by
  rintro ⟨fsref, hparse, hgiven, -⟩
  have hsome : (anyOneByteHexStringToByteInBuf val).isSome = true :=
    Option.isSome_iff_ne_none.2 fun hnone => hval (not_taken_iff.1 hnone)
  rw [parse_of_two cmd h hlast, if_pos hsome] at hparse
  obtain rfl := Except.ok.inj hparse
  rcases hgiven.1 rfl with ⟨id, hid⟩ | ⟨codes, hgiven⟩
  · exact not_givenSubset_of_two h id hid
  · exact hcodes codes hgiven

end

/-- **Values are parsed right exactly where one value is no digit behind a sign**, and of more all are codes or the last
one is none. -/
theorem parseFeatureIdsOrSubset_right_iff (cmd : FeatureCommand) (vals : List (List Byte)) :
    ParsedRight cmd vals ↔ ValuesClear vals := by
  match vals with
  | [] => exact iff_of_true (parsedRight_nil cmd) trivial
  | [val] => exact parsedRight_value_iff cmd val
  | val₁ :: val₂ :: vals =>
    have h : 2 ≤ (val₁ :: val₂ :: vals).length := Nat.le_add_left 2 vals.length
    have hlast := getLast?_eq_some_getLast (cons_ne_nil val₁ (val₂ :: vals))
    constructor
    · intro hright
      by_cases hcodes : ∃ codes, GivenCodes (val₁ :: val₂ :: vals) codes
      · exact .inl hcodes
      · refine .inr fun val hval => ?_
        by_contra hnot
        exact not_parsedRight_of_last_taken h hval hnot (fun codes hgiven => hcodes ⟨codes, hgiven⟩) hright
    · rintro (⟨codes, hcodes⟩ | hval)
      · exact parsedRight_of_codes h hcodes
      · exact parsedRight_of_last_not_taken h hlast (hval _ hlast)

/-- A value that is no code is let through in front of one. -/
theorem badValue_let_through : ¬ ∀ (cmd : FeatureCommand) (vals : List (List Byte)), ParsedRight cmd vals := by
  intro h
  have hten : ¬ NotTaken (ascii "10") := fun hval => absurd (not_taken_iff.2 hval) (by decide)
  have htwo : 2 ≤ [ascii "zz", ascii "10"].length := Nat.le_refl 2
  refine not_parsedRight_of_last_taken htwo rfl hten ?_ (h .getvcp [ascii "zz", ascii "10"])
  intro codes hcodes
  have hsome := (taken_of_givenCodes hcodes).1 (ascii "zz") mem_cons_self
  cases hsome

end Ddc
