import Ddcutil.DumploadReadErrors
/-!
# DumploadReadRuns — the errors and the data of a whole dump

A dump is read right when it gives either the data exactly as its lines state them, or one cause for each bad line, in
their order.  That is so if and only if no bad line goes unreported and, where no line is bad, the identifying texts
fit the fields they are copied to.
-/
namespace Ddc

open Kit List

def perLine {α : Type} (tableFeatures : TableFeatures) (g : Nat → (Byte → Bool) → List Byte → Option α)
    (lines : List (List Byte)) : List α :=
  (List.range lines.length).filterMap fun i =>
    lines[i]?.bind (g i ((readLines tableFeatures (lines.take i)).data.isTableFeature tableFeatures))

def badNumbers (tableFeatures : TableFeatures) (lines : List (List Byte)) : List Nat :=
  perLine tableFeatures (fun i isTable line => if badLine isTable line then some i else none) lines

def unreportedNumbers (tableFeatures : TableFeatures) (lines : List (List Byte)) : List Nat :=
  perLine tableFeatures (fun i isTable line => if unreportedLine isTable line then some i else none) lines

def NamesIn (lines : List (List Byte)) (i : Nat) (cause : ErrorInfo) : Prop :=
  ∃ line, lines[i]? = some line ∧ NamesLine (i + 1) line cause

def lastOf {α : Type} (read : List Byte → Option α) (lines : List (List Byte)) : Option α :=
  (lines.filterMap read).getLast?

/-! ## The data as the lines state them -/

structure TextField where
  keywords : List (List Byte)
  size : Nat
  allWords : Bool
  get : DumploadData → List Byte

def textFields : List TextField :=
  [⟨[ascii "EDID", ascii "EDIDSTR"], 257, false, DumploadData.edidstr⟩,
    ⟨[ascii "MFG_ID"], edidMfgIdFieldSize, false, DumploadData.mfgId⟩,
    ⟨[ascii "MODEL"], edidModelNameFieldSize, true, DumploadData.model⟩,
    ⟨[ascii "SN"], edidSerialAsciiFieldSize, true, DumploadData.serialAscii⟩]

def behindKeyword (line : List Byte) : List Byte :=
  strtrim ((line.dropWhile isspace).dropWhile fun c => !isspace c)

def TextField.given (f : TextField) (line : List Byte) : Option (List Byte) :=
  match lineForm line with
  | .field s0 _ _ =>
    if s0 ∈ f.keywords then
      some (if f.allWords then behindKeyword line else (behindKeyword line).takeWhile fun c => !isspace c)
    else none
  | _ => none

def TextField.taken (f : TextField) (line : List Byte) : Option (List Byte) :=
  match lineForm line with
  | .field s0 s1 _ =>
    if s0 ∈ f.keywords then some (strlcpy (if f.allWords then lineRest line s0 else s1) f.size) else none
  | _ => none

def productCodeGiven (line : List Byte) : Option Nat :=
  match lineForm line with
  | .field s0 s1 _ => if s0 = ascii "PRODUCT_CODE" then number16 s1 else none
  | _ => none

def versionGiven (line : List Byte) : Option VersionSpec :=
  match lineForm line with
  | .field s0 s1 _ => if s0 = ascii "VCP_VERSION" then versionText s1 else none
  | _ => none

def valueGiven (isTable : Byte → Bool) (line : List Byte) : Option (Option AnyVcpValue) :=
  match lineForm line with
  | .field s0 s1 s2 => if s0 = ascii "VCP" then some (vcpGiven isTable s1 s2) else none
  | _ => none

/-- **The record holds what the lines give**: each identification field the last line for it, the values all of them. -/
structure AsGiven (tableFeatures : TableFeatures) (lines : List (List Byte)) (data : DumploadData) : Prop where
  texts : ∀ f ∈ textFields, f.get data = (lastOf f.given lines).getD []
  productCode : data.productCode = (lastOf productCodeGiven lines).getD 0
  vcpVersion : data.vcpVersion = (lastOf versionGiven lines).getD ⟨2, 0⟩
  values : data.vcpValues.map some = perLine tableFeatures (fun _ => valueGiven) lines
  count : data.vcpValueCt = data.vcpValues.length

def TextsKept (lines : List (List Byte)) : Prop :=
  ∀ f ∈ textFields, (lastOf f.taken lines).getD [] = (lastOf f.given lines).getD []

/-- **A dump read right**: no error and the record as given, or an error whose causes are the bad lines. -/
def ReadsRight (tableFeatures : TableFeatures) (lines : List (List Byte)) : Prop :=
  (∃ data, createDumploadDataFromGPtrArray tableFeatures lines = .ok (none, some data) ∧
      badNumbers tableFeatures lines = [] ∧ AsGiven tableFeatures lines data) ∨
    ∃ err, createDumploadDataFromGPtrArray tableFeatures lines = .ok (some err, none) ∧
      badNumbers tableFeatures lines ≠ [] ∧ List.Forall₂ (NamesIn lines) (badNumbers tableFeatures lines) err.causes

/-! ## One more line -/

section OneMore

variable (tableFeatures : TableFeatures) (lines : List (List Byte)) (line : List Byte)

theorem readLines_append_singleton :
    readLines tableFeatures (lines ++ [line]) = readTurn tableFeatures (readLines tableFeatures lines) line := by
  unfold readLines
  rw [foldl_append, foldl_cons, foldl_nil]

theorem linectr_readLines : (readLines tableFeatures lines).linectr = lines.length := by
  induction lines using List.reverseRecOn with
  | nil => rfl
  | append_singleton lines line ih =>
    rw [readLines_append_singleton, readTurn_eq, length_append, ← ih]; rfl

theorem perLine_append_singleton {α : Type} (g : Nat → (Byte → Bool) → List Byte → Option α) :
    perLine tableFeatures g (lines ++ [line]) = perLine tableFeatures g lines ++
      (g lines.length ((readLines tableFeatures lines).data.isTableFeature tableFeatures) line).toList := by
  rw [perLine, length_append, length_singleton, range_succ, filterMap_append]
  congr 1
  · apply filterMap_congr
    intro i hi
    have hlt : i < lines.length := mem_range.1 hi
    rw [getElem?_append_left hlt, take_append_of_le_length (Nat.le_of_lt hlt)]
  · rw [filterMap_cons, filterMap_nil, getElem?_concat_length, take_left, Option.bind_some]
    cases g lines.length ((readLines tableFeatures lines).data.isTableFeature tableFeatures) line with
    | none | some a => rfl

theorem lastOf_append_singleton {α : Type} (read : List Byte → Option α) :
    lastOf read (lines ++ [line]) = (read line).or (lastOf read lines) := by
  unfold lastOf
  rw [filterMap_append, filterMap_cons, filterMap_nil]
  cases read line with
  | none => rw [append_nil, Option.none_or]
  | some a => rw [getLast?_concat, Option.some_or]

end OneMore

/-! ## The errors of a run -/

theorem badLine_of_unreportedLine {isTable : Byte → Bool} {line : List Byte} (h : unreportedLine isTable line = true) :
    badLine isTable line = true := by
  unfold unreportedLine at h
  unfold badLine
  cases hform : lineForm line with
  | nothing =>
    rw [hform] at h; cases h
  | keywordOnly => rfl
  | field s0 s1 s2 =>
    rw [hform] at h
    change unreportedField isTable s0 s1 s2 = true at h
    change badField isTable s0 s1 s2 = true
    unfold unreportedField at h
    unfold badField
    by_cases hcode : s0 = ascii "PRODUCT_CODE"
    · rw [if_pos hcode] at h ⊢; exact h
    rw [if_neg hcode] at h ⊢
    by_cases hversion : s0 = ascii "VCP_VERSION"
    · rw [if_pos hversion] at h ⊢; exact (Bool.and_eq_true_iff.1 h).1
    rw [if_neg hversion] at h ⊢
    by_cases hvcp : s0 = ascii "VCP"
    · rw [if_pos hvcp] at h ⊢; exact (Bool.and_eq_true_iff.1 h).1
    · rw [if_neg hvcp] at h; cases h

section Errors

variable (tableFeatures : TableFeatures)

theorem length_badNumbers (lines : List (List Byte)) :
    (badNumbers tableFeatures lines).length =
      (readLines tableFeatures lines).causes.length + (unreportedNumbers tableFeatures lines).length := by
  induction lines using List.reverseRecOn with
  | nil => rfl
  | append_singleton lines line ih =>
    have hreports := readLine_reports tableFeatures (readLines tableFeatures lines).data
      ((readLines tableFeatures lines).linectr + 1) line
    unfold badNumbers unreportedNumbers at ih ⊢
    rw [perLine_append_singleton, perLine_append_singleton, readLines_append_singleton, readTurn_eq]
    simp only [length_append]
    rw [ih]
    cases hun : unreportedLine ((readLines tableFeatures lines).data.isTableFeature tableFeatures) line with
    | true =>
      rw [badLine_of_unreportedLine hun, hreports.silent hun]
      simp
      omega
    | false =>
      cases hbad : badLine ((readLines tableFeatures lines).data.isTableFeature tableFeatures) line with
      | false =>
        rw [(hreports.quiet hbad).1]; simp
      | true =>
        obtain ⟨-, cause, hcause, -⟩ := hreports.named hbad hun
        rw [hcause]
        simp
        omega

theorem causes_readLines {lines : List (List Byte)} (h : unreportedNumbers tableFeatures lines = []) :
    List.Forall₂ (NamesIn lines) (badNumbers tableFeatures lines) (readLines tableFeatures lines).causes ∧
      (readLines tableFeatures lines).validData = decide ((readLines tableFeatures lines).causes.length = 0) := by
  induction lines using List.reverseRecOn with
  | nil => exact ⟨List.Forall₂.nil, rfl⟩
  | append_singleton lines line ih =>
    have hreports := readLine_reports tableFeatures (readLines tableFeatures lines).data
      ((readLines tableFeatures lines).linectr + 1) line
    rw [unreportedNumbers, perLine_append_singleton, append_eq_nil_iff] at h
    obtain ⟨hnames, hvalid⟩ := ih h.1
    have hnames' : List.Forall₂ (NamesIn (lines ++ [line])) (badNumbers tableFeatures lines)
        (readLines tableFeatures lines).causes := by
      apply hnames.imp
      rintro i cause ⟨l, hl, hname⟩
      refine ⟨l, ?_, hname⟩
      rw [getElem?_append_left (List.getElem?_eq_some_iff.1 hl).1, hl]
    have hun : unreportedLine ((readLines tableFeatures lines).data.isTableFeature tableFeatures) line = false := by
      by_contra hun
      rw [Bool.not_eq_false] at hun
      rw [if_pos hun] at h
      cases h.2
    unfold badNumbers at hnames' ⊢
    rw [perLine_append_singleton, readLines_append_singleton, readTurn_eq]
    cases hbad : badLine ((readLines tableFeatures lines).data.isTableFeature tableFeatures) line with
    | false =>
      obtain ⟨hcause, hinvalid⟩ := hreports.quiet hbad
      rw [hcause, hinvalid]
      simp only [Bool.false_eq_true, if_false, Option.toList_none, append_nil, Bool.not_false, Bool.and_true]
      exact ⟨hnames', hvalid⟩
    | true =>
      obtain ⟨hinvalid, cause, hcause, hname⟩ := hreports.named hbad hun
      rw [hcause, hinvalid]
      simp only [if_true, Option.toList_some, Bool.not_true, Bool.and_false]
      constructor
      · refine rel_append hnames' (List.Forall₂.cons ⟨line, ?_, ?_⟩ List.Forall₂.nil)
        · exact getElem?_concat_length
        · rwa [linectr_readLines] at hname
      · apply (decide_eq_false _).symm
        rw [length_append, length_singleton]; exact Nat.succ_ne_zero _

end Errors

/-! ## The data of a run -/

section Data

variable (tableFeatures : TableFeatures)

theorem dataAfter_readKeyword (data : DumploadData) (linectr : Nat) (line s0 s1 : List Byte) (s2 : Option (List Byte))
    (rest : List Byte) :
    (readKeyword tableFeatures data linectr line s0 s1 s2 rest).dataAfter data =
      let value := if s0 = ascii "VCP" then vcpTaken (data.isTableFeature tableFeatures) s1 s2 else none
      { data with
        productCode := if s0 = ascii "PRODUCT_CODE" then (number16 s1).getD data.productCode else data.productCode
        edidstr := if s0 = ascii "EDID" ∨ s0 = ascii "EDIDSTR" then strlcpy s1 257 else data.edidstr
        mfgId := if s0 = ascii "MFG_ID" then strlcpy s1 edidMfgIdFieldSize else data.mfgId
        model := if s0 = ascii "MODEL" then strlcpy rest edidModelNameFieldSize else data.model
        serialAscii := if s0 = ascii "SN" then strlcpy rest edidSerialAsciiFieldSize else data.serialAscii
        vcpVersion := if s0 = ascii "VCP_VERSION" then parseVspec s1 else data.vcpVersion
        vcpValueCt := value.elim data.vcpValueCt fun _ => data.vcpValueCt + 1
        vcpValues := value.elim data.vcpValues fun v => data.vcpValues ++ [v] } := by
  by_cases hcode : s0 = ascii "PRODUCT_CODE"
  · subst hcode
    rw [readKeyword_productCode]
    cases number16 s1 with
    | some n | none => rfl
  by_cases hversion : s0 = ascii "VCP_VERSION"
  · subst hversion
    rw [readKeyword_version]
    by_cases hunknown : parseVspec s1 = vspecUnknown
    · rw [if_pos hunknown]; rfl
    · rw [if_neg hunknown]; rfl
  by_cases hvcp : s0 = ascii "VCP"
  · subst hvcp
    rw [readKeyword_vcp, if_pos rfl]
    cases htaken : vcpTaken (data.isTableFeature tableFeatures) s1 s2 with
    | some v =>
      rw [readVcpLine_of_taken htaken]; rfl
    | none =>
      obtain ⟨expl, h⟩ : ∃ expl, readVcpLine tableFeatures data linectr line s1 s2 = dataError expl linectr line data :=
        readVcpLine_of_not_taken htaken
      rw [h]; rfl
  by_cases hfree : s0 ∈ freeKeywords
  · simp only [freeKeywords, mem_cons, not_mem_nil, or_false] at hfree
    rcases hfree with rfl | rfl | rfl | rfl | rfl | rfl | rfl | rfl
    all_goals rfl
  · rw [readKeyword_unknown hcode hversion hvcp hfree]
    simp only [freeKeywords, mem_cons, not_mem_nil, or_false, not_or] at hfree
    obtain ⟨-, hedid, hedidstr, hmfg, hmodel, hsn, -, -⟩ := hfree
    rw [if_neg hvcp, if_neg hcode, if_neg (not_or.2 ⟨hedid, hedidstr⟩), if_neg hmfg, if_neg hmodel, if_neg hsn,
      if_neg hversion]
    rfl

variable {α : Type} {line : List Byte} {lines : List (List Byte)}

theorem field_readLines {get : DumploadData → α} {read : List Byte → Option α}
    (hturn : ∀ data linectr line,
      get ((readLine tableFeatures data linectr line).dataAfter data) = (read line).getD (get data))
    (lines : List (List Byte)) :
    get (readLines tableFeatures lines).data = (lastOf read lines).getD (get dumploadDefaults) := by
  induction lines using List.reverseRecOn with
  | nil => rfl
  | append_singleton lines line ih =>
    rw [readLines_append_singleton, readTurn_eq, lastOf_append_singleton]
    refine (hturn _ _ line).trans ?_
    cases read line with
    | none => exact ih
    | some a => rfl

theorem field_readLine {get : DumploadData → α} {readField : List Byte → List Byte → List Byte → Option α}
    (hfield : ∀ data linectr line s0 s1 s2 rest,
      get ((readKeyword tableFeatures data linectr line s0 s1 s2 rest).dataAfter data) =
        (readField s0 s1 rest).getD (get data))
    (data : DumploadData) (linectr : Nat) (line : List Byte) :
    get ((readLine tableFeatures data linectr line).dataAfter data) =
      (match lineForm line with
        | .field s0 s1 _ => readField s0 s1 (lineRest line s0)
        | _ => none).getD (get data) := by
  rw [readLine_eq]
  cases lineForm line with
  | nothing | keywordOnly => rfl
  | field s0 s1 s2 => exact hfield data linectr (trimEnd line) s0 s1 s2 (lineRest line s0)

theorem ite_some_getD {p : Prop} [Decidable p] (a b : α) :
    (if p then some a else none).getD b = if p then a else b := by
  split_ifs with h
  · rfl
  · rfl

theorem text_readLines {f : TextField} (hf : f ∈ textFields) (lines : List (List Byte)) :
    f.get (readLines tableFeatures lines).data = (lastOf f.taken lines).getD [] := by
  have hturn : ∀ data linectr line s0 s1 s2 rest,
      f.get ((readKeyword tableFeatures data linectr line s0 s1 s2 rest).dataAfter data) =
        (if s0 ∈ f.keywords then some (strlcpy (if f.allWords then rest else s1) f.size) else none).getD
          (f.get data) := by
    intro data linectr line s0 s1 s2 rest
    rw [dataAfter_readKeyword, ite_some_getD]
    simp only [textFields, mem_cons, not_mem_nil, or_false] at hf
    rcases hf with rfl | rfl | rfl | rfl
    · simp only [mem_cons, not_mem_nil, or_false]; rfl
    · simp only [mem_cons, not_mem_nil, or_false]; rfl
    · simp only [mem_cons, not_mem_nil, or_false]; rfl
    · simp only [mem_cons, not_mem_nil, or_false]; rfl
  have hstart : f.get dumploadDefaults = [] := by
    simp only [textFields, mem_cons, not_mem_nil, or_false] at hf
    rcases hf with rfl | rfl | rfl | rfl
    all_goals rfl
  rw [← hstart]; exact field_readLines tableFeatures (field_readLine tableFeatures hturn) lines

theorem productCode_readLines (lines : List (List Byte)) :
    (readLines tableFeatures lines).data.productCode = (lastOf productCodeGiven lines).getD 0 := by
  have hturn : ∀ data linectr line s0 s1 s2 rest,
      ((readKeyword tableFeatures data linectr line s0 s1 s2 rest).dataAfter data).productCode =
        (if s0 = ascii "PRODUCT_CODE" then number16 s1 else none).getD data.productCode := by
    intro data linectr line s0 s1 s2 rest
    rw [dataAfter_readKeyword]
    by_cases hcode : s0 = ascii "PRODUCT_CODE"
    · simp only [if_pos hcode]
    · simp only [if_neg hcode, Option.getD_none]
  exact field_readLines tableFeatures (field_readLine tableFeatures hturn) lines

def versionTaken (line : List Byte) : Option VersionSpec :=
  match lineForm line with
  | .field s0 s1 _ => if s0 = ascii "VCP_VERSION" then some (parseVspec s1) else none
  | _ => none

theorem version_readLines (lines : List (List Byte)) :
    (readLines tableFeatures lines).data.vcpVersion = (lastOf versionTaken lines).getD ⟨2, 0⟩ := by
  have hturn : ∀ data linectr line s0 s1 s2 rest,
      ((readKeyword tableFeatures data linectr line s0 s1 s2 rest).dataAfter data).vcpVersion =
        (if s0 = ascii "VCP_VERSION" then some (parseVspec s1) else none).getD data.vcpVersion := by
    intro data linectr line s0 s1 s2 rest
    rw [dataAfter_readKeyword, ite_some_getD]
  exact field_readLines tableFeatures (field_readLine tableFeatures hturn) lines

theorem versionTaken_eq {isTable : Byte → Bool} (h : badLine isTable line = false) :
    versionTaken line = versionGiven line := by
  unfold badLine at h
  unfold versionTaken versionGiven
  cases hform : lineForm line with
  | nothing | keywordOnly => rfl
  | field s0 s1 s2 =>
    rw [hform] at h
    change badField isTable s0 s1 s2 = false at h
    dsimp only
    by_cases hversion : s0 = ascii "VCP_VERSION"
    · rw [badField, if_neg (by rw [hversion]; decide), if_pos hversion] at h
      obtain ⟨v, hv⟩ := Option.isSome_iff_exists.1 (Option.isNone_eq_false_iff.1 h)
      rw [hv, (parseVspec_of_versionText hv).1]
    · rw [if_neg hversion, if_neg hversion]

theorem values_readLine {data : DumploadData} (h : badLine (data.isTableFeature tableFeatures) line = false)
    (linectr : Nat) :
    let after := (readLine tableFeatures data linectr line).dataAfter data
    after.vcpValues.map some =
        data.vcpValues.map some ++ (valueGiven (data.isTableFeature tableFeatures) line).toList ∧
      (data.vcpValueCt = data.vcpValues.length → after.vcpValueCt = after.vcpValues.length) := by
  unfold badLine at h
  rw [valueGiven, readLine_eq]
  cases hform : lineForm line with
  | nothing => exact ⟨(append_nil _).symm, id⟩
  | keywordOnly =>
    rw [hform] at h; cases h
  | field s0 s1 s2 =>
    rw [hform] at h
    change badField (data.isTableFeature tableFeatures) s0 s1 s2 = false at h
    dsimp only
    rw [dataAfter_readKeyword]
    by_cases hvcp : s0 = ascii "VCP"
    · rw [if_pos hvcp, if_pos hvcp]
      rw [badField, if_neg (by rw [hvcp]; decide), if_neg (by rw [hvcp]; decide), if_pos hvcp] at h
      obtain ⟨v, hv⟩ := Option.isSome_iff_exists.1 (Option.isNone_eq_false_iff.1 h)
      rw [hv, vcpTaken_of_vcpGiven hv]
      simp only [Option.elim_some, Option.toList_some, map_append, map_cons, map_nil, length_append,
        length_singleton, true_and]
      exact congrArg (· + 1)
    · rw [if_neg hvcp, if_neg hvcp]; exact ⟨(append_nil _).symm, id⟩

theorem badNumbers_append_singleton (h : badNumbers tableFeatures (lines ++ [line]) = []) :
    badNumbers tableFeatures lines = [] ∧
      badLine ((readLines tableFeatures lines).data.isTableFeature tableFeatures) line = false := by
  unfold badNumbers at h ⊢
  rw [perLine_append_singleton, append_eq_nil_iff] at h
  refine ⟨h.1, ?_⟩
  by_contra hbad
  rw [Bool.not_eq_false] at hbad
  rw [if_pos hbad] at h
  cases h.2

section
variable (h : badNumbers tableFeatures lines = [])
include h

theorem values_readLines :
    (readLines tableFeatures lines).data.vcpValues.map some = perLine tableFeatures (fun _ => valueGiven) lines ∧
      (readLines tableFeatures lines).data.vcpValueCt = (readLines tableFeatures lines).data.vcpValues.length := by
  induction lines using List.reverseRecOn with
  | nil => exact ⟨rfl, rfl⟩
  | append_singleton lines line ih =>
    obtain ⟨hlines, hline⟩ := badNumbers_append_singleton tableFeatures h
    obtain ⟨hvalues, hcount⟩ := ih hlines
    obtain ⟨hmore, hmorecount⟩ := values_readLine tableFeatures hline ((readLines tableFeatures lines).linectr + 1)
    rw [readLines_append_singleton, readTurn_eq, perLine_append_singleton, ← hvalues]
    exact ⟨hmore, hmorecount hcount⟩

theorem versions_of_no_bad : lastOf versionTaken lines = lastOf versionGiven lines := by
  induction lines using List.reverseRecOn with
  | nil => rfl
  | append_singleton lines line ih =>
    obtain ⟨hlines, hline⟩ := badNumbers_append_singleton tableFeatures h
    rw [lastOf_append_singleton, lastOf_append_singleton, ih hlines, versionTaken_eq hline]

theorem asGiven_iff : AsGiven tableFeatures lines (readLines tableFeatures lines).data ↔ TextsKept lines := by
  constructor
  · intro hgiven f hf
    have htext := hgiven.texts f hf
    rwa [text_readLines tableFeatures hf] at htext
  · intro hkept
    obtain ⟨hvalues, hcount⟩ := values_readLines tableFeatures h
    refine ⟨fun f hf => ?_, productCode_readLines tableFeatures lines, ?_, hvalues, hcount⟩
    · rw [text_readLines tableFeatures hf, hkept f hf]
    · rw [version_readLines, versions_of_no_bad tableFeatures h]

end

end Data

/-! ## Both together -/

theorem createDumploadDataFromGPtrArray_of_unreported {tableFeatures : TableFeatures} {lines : List (List Byte)}
    (h : unreportedNumbers tableFeatures lines = []) :
    createDumploadDataFromGPtrArray tableFeatures lines =
      .ok (if (readLines tableFeatures lines).causes.length = 0 then (none, some (readLines tableFeatures lines).data)
        else (some ⟨ddcrcBadData, "create_dumpload_data_from_g_ptr_array", none, (readLines tableFeatures lines).causes⟩,
          none)) := by
  have hvalid := (causes_readLines tableFeatures h).2
  unfold createDumploadDataFromGPtrArray
  dsimp only
  rw [check_pos, Exec.ok_bind]
  rw [hvalid]
  by_cases hnone : (readLines tableFeatures lines).causes.length = 0
  · exact .inl ⟨decide_eq_true hnone, hnone⟩
  · exact .inr ⟨decide_eq_false hnone, Nat.pos_of_ne_zero hnone⟩

theorem readLines_of_create {tableFeatures : TableFeatures} {lines : List (List Byte)}
    {r : Option ErrorInfo × Option DumploadData} (h : createDumploadDataFromGPtrArray tableFeatures lines = .ok r) :
    r = if (readLines tableFeatures lines).causes.length = 0 then (none, some (readLines tableFeatures lines).data)
      else (some ⟨ddcrcBadData, "create_dumpload_data_from_g_ptr_array", none, (readLines tableFeatures lines).causes⟩,
        none) := by
  obtain ⟨-, -, hr⟩ := Exec.bind_eq_ok.1 h
  exact (Except.ok.inj hr).symm

end Ddc
