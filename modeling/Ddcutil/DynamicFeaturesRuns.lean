import Ddcutil.DynamicFeatures
/-!
# DynamicFeaturesRuns — what a feature definition file is read as

A file is taken apart into the features it defines, each a `FEATURE_CODE` line and the lines up to the next.  What is
promised of the record is stated of these; the proof follows the parser line by line and says what it holds after any
number of them.
-/
namespace Ddc

open Kit List Exec

/-! ## The features of a file -/

abbrev NumberedLine := List Byte × Nat

def featureHead (line : List Byte) : Option (List Byte × Option (List Byte)) :=
  match lineContent line with
  | .field keyword _ word rest2 => if fieldKeyword keyword = .featureCode then some (word, rest2) else none
  | _ => none

def preamble (lines : List NumberedLine) : List NumberedLine := lines.takeWhile fun l => (featureHead l.1).isNone

/-- **What a file says of one feature**: the words of its first line and the lines up to the next feature.  The lines
before the first feature are kept with it. -/
structure FeatureBlock where
  before : List NumberedLine
  head : NumberedLine
  code : List Byte
  name : Option (List Byte)
  body : List NumberedLine

def laterBlocks : List NumberedLine → List FeatureBlock
  | [] => []
  | l :: ls =>
    match featureHead l.1 with
    | none => laterBlocks ls
    | some (code, name) => ⟨[], l, code, name, preamble ls⟩ :: laterBlocks ls

def withBefore (before : List NumberedLine) : List FeatureBlock → List FeatureBlock
  | [] => []
  | b :: bs => { b with before := before } :: bs

def featureBlocks (lines : List NumberedLine) : List FeatureBlock := withBefore (preamble lines) (laterBlocks lines)

def FeatureBlock.number (b : FeatureBlock) : Option Int := strToInt (canonicalizePossibleHexValue b.code) 16

/-! ## Attributes -/

inductive Attr where
  | rw | ro | wo | c | ccont | nc | xnc | t
  deriving DecidableEq

def attrOfWord (word : List Byte) : Option Attr :=
  if word = ascii "RW" then some .rw
  else if word = ascii "RO" then some .ro
  else if word = ascii "WO" then some .wo
  else if word = ascii "C" then some .c
  else if word = ascii "CCONT" then some .ccont
  else if word = ascii "NC" then some .nc
  else if word = ascii "SNC" then some .nc
  else if word = ascii "XNC" then some .xnc
  else if word = ascii "T" then some .t
  else none

def Attr.isAccess : Attr → Bool
  | .rw | .ro | .wo => true
  | _ => false

def Attr.accessBit : Attr → DdcaFeatureFlags
  | .ro => ddcaRo
  | .wo => ddcaWo
  | _ => ddcaRw

def Attr.typeBit (type access : Attr) (hasValues : Bool) : DdcaFeatureFlags :=
  match type with
  | .c => ddcaStdCont
  | .ccont => ddcaComplexCont
  | .xnc => ddcaExtendedNc
  | .t => if access = .wo then ddcaWoTable else ddcaNormalTable
  | _ => if access = .wo ∧ hasValues = true then ddcaWoNc else ddcaSimpleNc

def attrsWords (line : List Byte) : List (List Byte) :=
  match lineContent line with
  | .field keyword rest _ _ => if fieldKeyword keyword = .attrs then allWords rest else []
  | _ => []

def declaredAttrs (body : List NumberedLine) : List Attr := body.flatMap fun l => (attrsWords l.1).filterMap attrOfWord

def valueWords (line : List Byte) : Option (List Byte × Option (List Byte)) :=
  match lineContent line with
  | .field keyword _ word rest2 => if fieldKeyword keyword = .value then some (word, rest2) else none
  | _ => none

def writtenBase (s : List Byte) : Nat := if autoBase s = 16 then 16 else 10

def writtenValue (word : List Byte) : Option Int :=
  strToInt (canonicalizePossibleHexValue word) (writtenBase (canonicalizePossibleHexValue word))

def givenValue (value : List Byte × Option (List Byte)) : Option Int × Option (List Byte) :=
  (writtenValue value.1, value.2)

def valueLines (body : List NumberedLine) : List (List Byte × Option (List Byte)) := body.filterMap fun l => valueWords l.1

/-! ## What is promised -/

/-- **A feature definition file**, and the monitor it is read for. -/
structure DefinitionFile where
  mfgId : List Byte
  modelName : List Byte
  productCode : UInt16
  lines : List (List Byte)
  filename : Option (List Byte)

def DefinitionFile.numbered (d : DefinitionFile) : List NumberedLine := d.lines.zipIdx 1

def DefinitionFile.blocks (d : DefinitionFile) : List FeatureBlock := featureBlocks d.numbered

/-- What makes a file an error: a code that is no byte, two accesses or two types for a feature, a value before the first
feature. -/
def DefinitionFile.Contradictory (d : DefinitionFile) : Prop :=
  (∃ b ∈ d.blocks, ∃ n, b.number = some n ∧ ¬ (0 ≤ n ∧ n ≤ 255)) ∨
    (∃ b ∈ d.blocks, ∃ a ∈ declaredAttrs b.body, ∃ a' ∈ declaredAttrs b.body, a ≠ a' ∧ a.isAccess = a'.isAccess) ∨
    valueLines (preamble d.numbered) ≠ []

def accessMask : DdcaFeatureFlags := ddcaRw ||| ddcaRo ||| ddcaWo

def typeMask : DdcaFeatureFlags := ddcaCont ||| ddcaNc ||| ddcaTable

/-- **A feature is what its lines say**: its code, its access, its type and its values. -/
structure MatchesBlock (f : DynFeatureMetadata) (b : FeatureBlock) : Prop where
  code : b.number = some (f.featureCode.toNat : Int)
  attrs : ∃ access type : Attr,
    (access ∈ declaredAttrs b.body ∧ access.isAccess = true ∨
      access = .rw ∧ ∀ a ∈ declaredAttrs b.body, a.isAccess = false) ∧
    type ∈ declaredAttrs b.body ∧ type.isAccess = false ∧
    f.versionFeatureFlags &&& accessMask = access.accessBit ∧
    f.versionFeatureFlags &&& typeMask = type.typeBit access f.slValues.isSome
  values : (valueLines b.body).map givenValue =
    (f.slValues.getD []).map fun e => (some (e.valueCode.toNat : Int), some e.valueName)

/-- **What is promised of the outcome**: an error and no record, or no error and a record that is what the file says. -/
def DefinitionRight (d : DefinitionFile) (r : Exec (Option ErrorInfo × Option DynamicFeaturesRec)) : Prop :=
  (∃ err, r = .ok (some err, none)) ∨
    ∃ frec, r = .ok (none, some frec) ∧ ¬ d.Contradictory ∧
      ∀ code f, frec.features.lookup code = some f →
        f.featureCode = code ∧
          ∃ b, lastFor FeatureBlock.number (some (code.toNat : Int)) d.blocks = some b ∧ MatchesBlock f b

/-! ## The errors of a file -/

def Attr.flag : Attr → DdcaFeatureFlags
  | .rw => ddcaRw
  | .ro => ddcaRo
  | .wo => ddcaWo
  | .c => ddcaStdCont
  | .ccont => ddcaComplexCont
  | .nc => ddcaSimpleNc
  | .xnc => ddcaExtendedNc
  | .t => ddcaTable

def Attr.isValueless : Attr → Bool
  | .c | .ccont | .t => true
  | _ => false

def errorText {α : Type} : Except (List Byte) α → List (List Byte)
  | .error detail => [detail]
  | .ok _ => []

def fieldErrors (d : DefinitionFile) (started : Bool) (line keyword rest word : List Byte)
    (rest2 : Option (List Byte)) : List (List Byte) :=
  match fieldKeyword keyword with
  | .productCode => (productCodeError d.productCode word).toList
  | .mfgId => (mfgIdError d.mfgId word).toList
  | .model => (modelError d.modelName rest).toList
  | .mccsVersion => (versionError rest).toList
  | .attrs =>
    if started = true then
      ((allWords rest).filter (attrOfWord · = none)).map fun word => ascii "Invalid attribute " ++ quoted word
    else [ascii "ATTRS before FEATURE_CODE"]
  | .featureCode => errorText (readFeatureCode line word rest2)
  | .value => errorText (readValue line word rest2)
  | .unexpected => [ascii "Unexpected field " ++ quoted keyword]

def lineErrors (d : DefinitionFile) (started : Bool) (l : NumberedLine) : List FeatureError :=
  (match lineContent l.1 with
    | .nothing => []
    | .oneWord => [ascii "Invalid data " ++ quoted l.1]
    | .field keyword rest word rest2 => fieldErrors d started l.1 keyword rest word rest2).map
      fun detail => ⟨"create_dynamic_features_rec", l.2, detail⟩

def linesErrors (d : DefinitionFile) : Bool → List NumberedLine → List FeatureError
  | _, [] => []
  | started, l :: ls => lineErrors d started l ++ linesErrors d (started || (featureHead l.1).isSome) ls

def lineEntries (line : List Byte) : List FeatureValueEntry :=
  match valueWords line with
  | some (word, rest2) => (readValue line word rest2).toOption.toList
  | none => []

def valueEntries (body : List NumberedLine) : List FeatureValueEntry := body.flatMap fun l => lineEntries l.1

def FeatureBlock.misplaced (b : FeatureBlock) : Bool :=
  !(valueEntries (b.before ++ b.body)).isEmpty && (declaredAttrs b.body).any Attr.isValueless

def hasKeyword (keyword : FieldKeyword) (line : List Byte) : Bool :=
  match lineContent line with
  | .field word _ _ _ => fieldKeyword word = keyword
  | _ => false

def missingError (seen : Bool) (detail : List Byte) : List FeatureError :=
  if seen = true then [] else [⟨"create_dynamic_features_rec", -1, detail⟩]

def DefinitionFile.has (d : DefinitionFile) (keyword : FieldKeyword) : Bool :=
  d.numbered.any fun l => hasKeyword keyword l.1

def DefinitionFile.errors (d : DefinitionFile) : List FeatureError :=
  linesErrors d false d.numbered ++ (if d.blocks.any FeatureBlock.misplaced = true then [misplacedError] else []) ++
    (missingError (!d.blocks.isEmpty) (ascii "No feature codes defined") ++
      missingError (d.has .mfgId) (ascii "Missing MFG_ID") ++
      missingError (d.has .model) (ascii "Missing MODEL_NAME") ++
      missingError (d.has .productCode) (ascii "Missing PRODUCT_CODE"))

/-- **An error can be returned**: no text of it asks for an argument where it is used as a format. -/
structure DefinitionFile.Printable (d : DefinitionFile) : Prop where
  causes : ∀ e ∈ d.errors, IsFormat (finalDetail d.filename e)
  master : IsFormat (masterDetail d.filename)

/-- **A file without errors is read right**: there is no value before the first feature, codes are bytes, no feature
declares two accesses or two types, and each that is kept declares `RW`, a type other than `T` and no value that is read
in octal as another. -/
structure DefinitionFile.Plain (d : DefinitionFile) : Prop where
  consistent : ¬ d.Contradictory
  kept : ∀ b, lastFor FeatureBlock.number b.number d.blocks = some b →
    Attr.rw ∈ declaredAttrs b.body ∧ (∃ type ∈ declaredAttrs b.body, type.isAccess = false ∧ type ≠ .t) ∧
      ∀ v ∈ valueLines b.body, strToInt0 (canonicalizePossibleHexValue v.1) = writtenValue v.1

/-! ## One line -/

theorem attrKeyword_eq (word : List Byte) : attrKeyword word = (attrOfWord word).map Attr.flag := by
  unfold attrKeyword attrOfWord
  simp only [apply_ite (Option.map Attr.flag), Option.map_some, Option.map_none]; rfl

def withAttrs (attrs : List Attr) (cur : DynFeatureMetadata) : DynFeatureMetadata :=
  { cur with versionFeatureFlags := attrs.foldl (fun flags a => flags ||| a.flag) cur.versionFeatureFlags }

theorem withAttrs_append (as bs : List Attr) (cur : DynFeatureMetadata) :
    withAttrs (as ++ bs) cur = withAttrs bs (withAttrs as cur) := by
  simp only [withAttrs, foldl_append]

theorem map_withAttrs_nil (cur : Option DynFeatureMetadata) : cur.map (withAttrs []) = cur := by
  cases cur <;> rfl

def addEntries (values : Option (List FeatureValueEntry)) (entries : List FeatureValueEntry) :
    Option (List FeatureValueEntry) :=
  if entries = [] then values else some (values.getD [] ++ entries)

theorem addEntries_append (values : Option (List FeatureValueEntry)) (es es' : List FeatureValueEntry) :
    addEntries values (es ++ es') = addEntries (addEntries values es) es' := by
  unfold addEntries
  by_cases hes : es = []
  · simp [hes]
  · by_cases hes' : es' = []
    · simp [hes']
    · simp [hes, hes']

structure ReadsFor (d : DefinitionFile) (frec : DynamicFeaturesRec) : Prop where
  mfgId : frec.mfgId = d.mfgId
  modelName : frec.modelName = d.modelName
  productCode : frec.productCode = d.productCode

structure PlainLineEffect (d : DefinitionFile) (l : NumberedLine) (st st' : FeatureParse) : Prop where
  readsFor : ReadsFor d st'.frec
  features : st'.frec.features = st.frec.features
  cur : st'.curFeatureMetadata = st.curFeatureMetadata.map (withAttrs ((attrsWords l.1).filterMap attrOfWord))
  values : st'.curFeatureValues = addEntries st.curFeatureValues (lineEntries l.1)
  errors : st'.errors = st.errors ++ lineErrors d st.curFeatureMetadata.isSome l
  mfgIdSeen : st'.mfgIdSeen = (st.mfgIdSeen || hasKeyword .mfgId l.1)
  modelNameSeen : st'.modelNameSeen = (st.modelNameSeen || hasKeyword .model l.1)
  productCodeSeen : st'.productCodeSeen = (st.productCodeSeen || hasKeyword .productCode l.1)

theorem FeatureParse.report_eq (st : FeatureParse) (linectr : Int) (error : Option (List Byte)) :
    st.report linectr error =
      { st with errors := st.errors ++ error.toList.map fun e => ⟨"create_dynamic_features_rec", linectr, e⟩ } := by
  cases error with
  | none => simp [FeatureParse.report]
  | some e => rfl

theorem foldl_attrWord (linectr : Int) : ∀ (words : List (List Byte)) (st : FeatureParse),
    words.foldl (attrWord linectr) st = { st with
      curFeatureMetadata := st.curFeatureMetadata.map (withAttrs (words.filterMap attrOfWord))
      errors := st.errors ++ ((words.filter (attrOfWord · = none)).map fun word =>
        ⟨"create_dynamic_features_rec", linectr, ascii "Invalid attribute " ++ quoted word⟩) }
  | [], st => by simp [map_withAttrs_nil]
  | word :: words, st => by
    rw [foldl_cons, foldl_attrWord]
    rw [attrWord, attrKeyword_eq]
    cases ha : attrOfWord word with
    | none => simp [ha, FeatureParse.addError]
    | some a =>
      simp only [Option.map_some, filterMap_cons, ha, Option.map_map, filter_cons]; rfl

variable {d : DefinitionFile} {l : NumberedLine} {st : FeatureParse} {code : List Byte} {name : Option (List Byte)}
variable {ls : List NumberedLine} {b : FeatureBlock}

theorem parseLine_effect (hreads : ReadsFor d st.frec) (hhead : featureHead l.1 = none) :
    PlainLineEffect d l st (parseLine st l) := by
  have hsame : ∀ st' : FeatureParse, st'.frec = st.frec → st'.curFeatureMetadata = st.curFeatureMetadata →
      st'.curFeatureValues = st.curFeatureValues → (attrsWords l.1).filterMap attrOfWord = [] → lineEntries l.1 = [] →
      st'.errors = st.errors ++ lineErrors d st.curFeatureMetadata.isSome l →
      st'.mfgIdSeen = (st.mfgIdSeen || hasKeyword .mfgId l.1) →
      st'.modelNameSeen = (st.modelNameSeen || hasKeyword .model l.1) →
      st'.productCodeSeen = (st.productCodeSeen || hasKeyword .productCode l.1) → PlainLineEffect d l st st' := by
    intro st' hfrec hcur hvalues hattrs hentries herrors h1 h2 h3
    refine ⟨hfrec ▸ hreads, congrArg _ hfrec, ?_, ?_, herrors, h1, h2, h3⟩
    · rw [hcur, hattrs, map_withAttrs_nil]
    · rw [hvalues, hentries]; rfl
  obtain ⟨hmfg, hmodel, hcode⟩ := hreads
  unfold parseLine
  cases hc : lineContent l.1 with
  | nothing =>
    apply hsame <;> simp [attrsWords, lineEntries, valueWords, hasKeyword, lineErrors, hc]
  | oneWord =>
    apply hsame <;> simp [attrsWords, lineEntries, valueWords, hasKeyword, lineErrors, hc, FeatureParse.addError]
  | field keyword rest word rest2 =>
    dsimp only
    unfold fieldLine
    cases hk : fieldKeyword keyword with
    | productCode =>
      dsimp only [productCodeLine]
      rw [FeatureParse.report_eq]
      apply hsame <;> simp [attrsWords, lineEntries, valueWords, hasKeyword, lineErrors, fieldErrors, hc, hk, hcode]
    | mfgId =>
      dsimp only [mfgIdLine]
      rw [FeatureParse.report_eq]
      apply hsame <;> simp [attrsWords, lineEntries, valueWords, hasKeyword, lineErrors, fieldErrors, hc, hk, hmfg]
    | model =>
      dsimp only [modelLine]
      rw [FeatureParse.report_eq]
      apply hsame <;> simp [attrsWords, lineEntries, valueWords, hasKeyword, lineErrors, fieldErrors, hc, hk, hmodel]
    | mccsVersion =>
      dsimp only [versionLine]
      cases hv : versionError rest with
      | some detail =>
        apply hsame <;>
          simp [attrsWords, lineEntries, valueWords, hasKeyword, lineErrors, fieldErrors, hc, hk, hv, FeatureParse.addError]
      | none =>
        refine ⟨⟨hmfg, hmodel, hcode⟩, rfl, ?_, ?_, ?_, ?_, ?_, ?_⟩ <;>
          simp [attrsWords, lineEntries, valueWords, hasKeyword, lineErrors, fieldErrors, hc, hk, hv, addEntries,
            map_withAttrs_nil]
    | attrs =>
      dsimp only [attrsLine]
      cases hcur : st.curFeatureMetadata with
      | none =>
        refine ⟨⟨hmfg, hmodel, hcode⟩, rfl, ?_, ?_, ?_, ?_, ?_, ?_⟩ <;>
          simp [attrsWords, lineEntries, valueWords, hasKeyword, lineErrors, fieldErrors, hc, hk, hcur, addEntries,
            FeatureParse.addError]
      | some cur =>
        rw [foldl_attrWord]
        refine ⟨⟨hmfg, hmodel, hcode⟩, rfl, ?_, ?_, ?_, ?_, ?_, ?_⟩ <;>
          simp [attrsWords, lineEntries, valueWords, hasKeyword, lineErrors, fieldErrors, hc, hk, hcur, addEntries]
    | featureCode => simp [featureHead, hc, hk] at hhead
    | value =>
      dsimp only [valueLine]
      cases hv : readValue l.1 word rest2 with
      | error detail =>
        apply hsame <;>
          simp [attrsWords, lineEntries, valueWords, hasKeyword, lineErrors, fieldErrors, hc, hk, hv, errorText,
            Except.toOption, FeatureParse.addError]
      | ok entry =>
        refine ⟨⟨hmfg, hmodel, hcode⟩, rfl, ?_, ?_, ?_, ?_, ?_, ?_⟩ <;>
          simp [attrsWords, lineEntries, valueWords, hasKeyword, lineErrors, fieldErrors, hc, hk, hv, addEntries,
            map_withAttrs_nil, errorText, Except.toOption]
    | unexpected =>
      apply hsame <;>
        simp [attrsWords, lineEntries, valueWords, hasKeyword, lineErrors, fieldErrors, hc, hk, FeatureParse.addError]

def headMetadata (line code : List Byte) (name : Option (List Byte)) : DynFeatureMetadata :=
  match readFeatureCode line code name with
  | .error _ => newMetadata
  | .ok (featureId, featureName) =>
    { newMetadata with featureCode := UInt8.ofInt featureId, featureName := some featureName }

/-- **What a `FEATURE_CODE` line does**: the feature before it is put in the record. -/
structure HeadEffect (d : DefinitionFile) (l : NumberedLine) (code : List Byte) (name : Option (List Byte))
    (st st' : FeatureParse) : Prop where
  readsFor : ReadsFor d st'.frec
  features : st'.frec.features = (finalizeCurrent st).frec.features
  cur : st'.curFeatureMetadata = some (headMetadata l.1 code name)
  values : st'.curFeatureValues = (finalizeCurrent st).curFeatureValues
  errors : ∀ started, st'.errors = (finalizeCurrent st).errors ++ lineErrors d started l
  mfgIdSeen : st'.mfgIdSeen = (st.mfgIdSeen || hasKeyword .mfgId l.1)
  modelNameSeen : st'.modelNameSeen = (st.modelNameSeen || hasKeyword .model l.1)
  productCodeSeen : st'.productCodeSeen = (st.productCodeSeen || hasKeyword .productCode l.1)

structure FinalizeFrame (d : DefinitionFile) (st st' : FeatureParse) : Prop where
  readsFor : ReadsFor d st'.frec
  mfgIdSeen : st'.mfgIdSeen = st.mfgIdSeen
  modelNameSeen : st'.modelNameSeen = st.modelNameSeen
  productCodeSeen : st'.productCodeSeen = st.productCodeSeen

theorem finalizeCurrent_frame (hreads : ReadsFor d st.frec) : FinalizeFrame d st (finalizeCurrent st) := by
  unfold finalizeCurrent
  cases st.curFeatureMetadata with
  | none => exact ⟨hreads, rfl, rfl, rfl⟩
  | some cur => exact ⟨⟨hreads.mfgId, hreads.modelName, hreads.productCode⟩, rfl, rfl, rfl⟩

theorem featureHead_eq_some {line : List Byte} (h : featureHead line = some (code, name)) :
    ∃ keyword rest, lineContent line = .field keyword rest code name ∧ fieldKeyword keyword = .featureCode := by
  unfold featureHead at h
  cases hc : lineContent line with
  | nothing | oneWord => simp [hc] at h
  | field keyword rest word rest2 =>
    by_cases hk : fieldKeyword keyword = .featureCode
    · simp only [hc, hk, if_true, Option.some.injEq, Prod.mk.injEq] at h
      obtain ⟨rfl, rfl⟩ := h
      exact ⟨keyword, rest, rfl, hk⟩
    · simp [hc, hk] at h

theorem parseLine_head (hreads : ReadsFor d st.frec) (hhead : featureHead l.1 = some (code, name)) :
    HeadEffect d l code name st (parseLine st l) := by
  obtain ⟨keyword, rest, hc, hk⟩ := featureHead_eq_some hhead
  obtain ⟨hframe, h1, h2, h3⟩ := finalizeCurrent_frame hreads
  rw [parseLine, hc]
  dsimp only
  rw [fieldLine, hk]
  dsimp only [featureCodeLine]
  cases hread : readFeatureCode l.1 code name with
  | error detail =>
    refine ⟨hframe, rfl, ?_, rfl, ?_, ?_, ?_, ?_⟩ <;>
      simp [FeatureParse.addError, headMetadata, hread, lineErrors, fieldErrors, errorText, hc, hk, hasKeyword, h1, h2, h3]
  | ok read =>
    refine ⟨hframe, rfl, ?_, rfl, ?_, ?_, ?_, ?_⟩ <;>
      simp [headMetadata, hread, lineErrors, fieldErrors, errorText, hc, hk, hasKeyword, h1, h2, h3]

/-! ## All lines -/

abbrev FeatureDraft := DynFeatureMetadata × Option (List FeatureValueEntry)

def FeatureDraft.Misplaced (p : FeatureDraft) : Prop :=
  p.2 ≠ none ∧ valuesMisplaced (accessFinalized p.1.versionFeatureFlags) = true

def FeatureBlock.draft (b : FeatureBlock) : FeatureDraft :=
  (withAttrs (declaredAttrs b.body) (headMetadata b.head.1 b.code b.name), addEntries none (valueEntries (b.before ++ b.body)))

def insertDrafts (drafts : List FeatureDraft) (table : AList fun _ : Byte => DynFeatureMetadata) :
    AList fun _ : Byte => DynFeatureMetadata :=
  drafts.foldl (fun t p => t.insert p.1.featureCode (finalMetadata p.1 p.2)) table

/-- **What the rest of the lines and the end of the file do**: they put some features in the record. -/
structure Finalizes (d : DefinitionFile) (st : FeatureParse) (ls : List NumberedLine) (drafts : List FeatureDraft)
    (fin : FeatureParse) : Prop where
  features : fin.frec.features = insertDrafts drafts st.frec.features
  errors : ∀ e, e ∈ fin.errors ↔ e ∈ st.errors ∨ e ∈ linesErrors d st.curFeatureMetadata.isSome ls ∨
    e = misplacedError ∧ ∃ p ∈ drafts, FeatureDraft.Misplaced p
  mfgIdSeen : fin.mfgIdSeen = (st.mfgIdSeen || ls.any fun l => hasKeyword .mfgId l.1)
  modelNameSeen : fin.modelNameSeen = (st.modelNameSeen || ls.any fun l => hasKeyword .model l.1)
  productCodeSeen : fin.productCodeSeen = (st.productCodeSeen || ls.any fun l => hasKeyword .productCode l.1)

theorem Finalizes.cons {st' fin : FeatureParse} (h : PlainLineEffect d l st st') (hhead : featureHead l.1 = none)
    {drafts : List FeatureDraft} (hrest : Finalizes d st' ls drafts fin) : Finalizes d st (l :: ls) drafts fin where
  features := by rw [hrest.features, h.features]
  errors e := by
    have hsome : st'.curFeatureMetadata.isSome = st.curFeatureMetadata.isSome := by rw [h.cur, Option.isSome_map]
    rw [hrest.errors, h.errors, linesErrors, hhead, hsome, mem_append, mem_append, Option.isSome_none,
      Bool.or_false]
    simp only [or_assoc]
  mfgIdSeen := by rw [hrest.mfgIdSeen, h.mfgIdSeen, any_cons, Bool.or_assoc]
  modelNameSeen := by rw [hrest.modelNameSeen, h.modelNameSeen, any_cons, Bool.or_assoc]
  productCodeSeen := by rw [hrest.productCodeSeen, h.productCodeSeen, any_cons, Bool.or_assoc]

def FeatureParse.pending (st : FeatureParse) : List FeatureDraft :=
  match st.curFeatureMetadata with
  | none => []
  | some cur => [(cur, st.curFeatureValues)]

theorem Finalizes.nil (d : DefinitionFile) (st : FeatureParse) : Finalizes d st [] st.pending (finalizeCurrent st) := by
  unfold FeatureParse.pending finalizeCurrent
  cases hcur : st.curFeatureMetadata with
  | none => refine ⟨rfl, fun e => ?_, ?_, ?_, ?_⟩ <;> simp [linesErrors]
  | some cur =>
    refine ⟨rfl, fun e => ?_, ?_, ?_, ?_⟩
    · have hmis : FeatureDraft.Misplaced (cur, st.curFeatureValues) ↔
          st.curFeatureValues ≠ none ∧ valuesMisplaced (accessFinalized cur.versionFeatureFlags) = true := .rfl
      dsimp only [finalizeFeature]
      split
      · rename_i h
        simp [linesErrors, hmis, h.1, h.2]
      · simp only [linesErrors, not_mem_nil, mem_singleton, false_or, exists_eq_left, hmis]
        tauto
    all_goals simp [finalizeFeature]

theorem Finalizes.head {st' fin : FeatureParse} (h : HeadEffect d l code name st st')
    (hhead : featureHead l.1 = some (code, name)) {drafts : List FeatureDraft} (hrest : Finalizes d st' ls drafts fin) :
    Finalizes d st (l :: ls) (st.pending ++ drafts) fin where
  features := by
    rw [hrest.features, h.features, (Finalizes.nil d st).features, insertDrafts, insertDrafts, insertDrafts,
      foldl_append]
  errors e := by
    have hpending := (Finalizes.nil d st).errors e
    simp only [linesErrors, not_mem_nil, false_or] at hpending
    simp only [hrest.errors, h.errors st.curFeatureMetadata.isSome, linesErrors, hhead, h.cur, Option.isSome_some,
      Bool.or_true, mem_append, hpending, or_and_right, exists_or]
    simp only [and_or_left, or_assoc, or_left_comm]
  mfgIdSeen := by rw [hrest.mfgIdSeen, h.mfgIdSeen, any_cons, Bool.or_assoc]
  modelNameSeen := by rw [hrest.modelNameSeen, h.modelNameSeen, any_cons, Bool.or_assoc]
  productCodeSeen := by rw [hrest.productCodeSeen, h.productCodeSeen, any_cons, Bool.or_assoc]

theorem preamble_cons_of_none (h : featureHead l.1 = none) (ls : List NumberedLine) :
    preamble (l :: ls) = l :: preamble ls := by
  unfold preamble
  rw [takeWhile_cons_of_pos (by simp [h])]

theorem preamble_cons_of_some {head : List Byte × Option (List Byte)} (h : featureHead l.1 = some head)
    (ls : List NumberedLine) : preamble (l :: ls) = [] := by
  rw [preamble, takeWhile_cons_of_neg (by simp [h])]

theorem laterBlocks_cons_of_none (h : featureHead l.1 = none) (ls : List NumberedLine) :
    laterBlocks (l :: ls) = laterBlocks ls := by
  rw [laterBlocks, h]

theorem laterBlocks_cons_of_some (h : featureHead l.1 = some (code, name)) (ls : List NumberedLine) :
    laterBlocks (l :: ls) = ⟨[], l, code, name, preamble ls⟩ :: laterBlocks ls := by
  rw [laterBlocks, h]

theorem finalizes_started : ∀ (ls : List NumberedLine) {st : FeatureParse}, ReadsFor d st.frec →
    ∀ {cur : DynFeatureMetadata}, st.curFeatureMetadata = some cur →
      Finalizes d st ls
        ((withAttrs (declaredAttrs (preamble ls)) cur, addEntries st.curFeatureValues (valueEntries (preamble ls))) ::
          (laterBlocks ls).map FeatureBlock.draft)
        (finalizeCurrent (ls.foldl parseLine st))
  | [], st, _, cur, hcur => by
    have h := Finalizes.nil d st
    rw [FeatureParse.pending, hcur] at h; exact h
  | l :: ls, st, hreads, cur, hcur => by
    cases hhead : featureHead l.1 with
    | none =>
      have heffect := parseLine_effect hreads hhead
      have ih := finalizes_started ls heffect.readsFor (heffect.cur.trans (congrArg _ hcur))
      have h := Finalizes.cons heffect hhead ih
      rw [heffect.values, ← addEntries_append, ← withAttrs_append] at h
      rw [preamble_cons_of_none hhead, laterBlocks_cons_of_none hhead]; exact h
    | some head =>
      have heffect := parseLine_head hreads hhead
      have ih := finalizes_started ls heffect.readsFor heffect.cur
      have h := Finalizes.head heffect hhead ih
      have hvalues : (finalizeCurrent st).curFeatureValues = none := by rw [finalizeCurrent, hcur]
      rw [heffect.values, hvalues, FeatureParse.pending, hcur] at h
      rw [preamble_cons_of_some hhead, laterBlocks_cons_of_some hhead]; exact h

theorem finalizes_preamble : ∀ (ls before : List NumberedLine) {st : FeatureParse},
    ReadsFor d st.frec → st.curFeatureMetadata = none → st.curFeatureValues = addEntries none (valueEntries before) →
      Finalizes d st ls ((withBefore (before ++ preamble ls) (laterBlocks ls)).map FeatureBlock.draft)
        (finalizeCurrent (ls.foldl parseLine st))
  | [], before, st, _, hcur, _ => by
    have h := Finalizes.nil d st
    rw [FeatureParse.pending, hcur] at h; exact h
  | l :: ls, before, st, hreads, hcur, hvalues => by
    cases hhead : featureHead l.1 with
    | none =>
      have heffect := parseLine_effect hreads hhead
      have hentries : (parseLine st l).curFeatureValues = addEntries none (valueEntries (before ++ [l])) := by
        rw [heffect.values, hvalues, ← addEntries_append]
        simp [valueEntries]
      have ih := finalizes_preamble ls (before ++ [l]) heffect.readsFor (heffect.cur.trans (congrArg _ hcur)) hentries
      have h := Finalizes.cons heffect hhead ih
      rw [append_assoc] at h
      rw [preamble_cons_of_none hhead, laterBlocks_cons_of_none hhead]; exact h
    | some head =>
      have heffect := parseLine_head hreads hhead
      have hstarted := finalizes_started ls heffect.readsFor heffect.cur
      have h := Finalizes.head heffect hhead hstarted
      have hfinal : (finalizeCurrent st).curFeatureValues = addEntries none (valueEntries before) := by
        rw [finalizeCurrent, hcur]; exact hvalues
      rw [heffect.values, hfinal, ← addEntries_append, FeatureParse.pending, hcur] at h
      rw [preamble_cons_of_some hhead, laterBlocks_cons_of_some hhead, append_nil]
      have hdraft : FeatureBlock.draft ⟨before, l, head.1, head.2, preamble ls⟩ =
          (withAttrs (declaredAttrs (preamble ls)) (headMetadata l.1 head.1 head.2),
            addEntries none (valueEntries before ++ valueEntries (preamble ls))) := by
        unfold FeatureBlock.draft valueEntries
        rw [flatMap_append]
      rw [withBefore, map_cons, hdraft]; exact h

/-! ## Flags -/

def attrBits (rw ro wo c ccont nc xnc t : Bool) : DdcaFeatureFlags :=
  (if rw then ddcaRw else 0) ||| (if ro then ddcaRo else 0) ||| (if wo then ddcaWo else 0) |||
    (if c then ddcaStdCont else 0) ||| (if ccont then ddcaComplexCont else 0) ||| (if nc then ddcaSimpleNc else 0) |||
    (if xnc then ddcaExtendedNc else 0) ||| (if t then ddcaTable else 0)

def bitsOf (attrs : List Attr) : DdcaFeatureFlags :=
  attrBits (attrs.contains .rw) (attrs.contains .ro) (attrs.contains .wo) (attrs.contains .c) (attrs.contains .ccont)
    (attrs.contains .nc) (attrs.contains .xnc) (attrs.contains .t)

theorem attrBits_or (a : Attr) : ∀ rw ro wo c ccont nc xnc t : Bool,
    attrBits rw ro wo c ccont nc xnc t ||| a.flag =
      attrBits (rw || a == .rw) (ro || a == .ro) (wo || a == .wo) (c || a == .c) (ccont || a == .ccont) (nc || a == .nc)
        (xnc || a == .xnc) (t || a == .t) := by cases a <;> decide +kernel

variable (attrs : List Attr)

theorem foldl_flags : attrs.foldl (fun flags a => flags ||| a.flag) 0 = bitsOf attrs := by
  induction attrs using List.reverseRecOn with
  | nil => rfl
  | append_singleton attrs a ih =>
    have hcontains : ∀ a' : Attr, (attrs ++ [a]).contains a' = (attrs.contains a' || a == a') := by
      intro a'
      cases a <;> cases a' <;> simp
    rw [foldl_append, foldl_cons, foldl_nil, ih, bitsOf, bitsOf, attrBits_or]
    simp only [hcontains]

theorem tableFinalized_eq (flags : DdcaFeatureFlags) : tableFinalized flags = flags := by
  have hzero : ddcaNormalTable &&& ddcaWo = 0 := by decide
  rw [tableFinalized, UInt16.and_assoc, hzero, UInt16.and_zero, if_neg (fun h => h rfl)]

theorem accessFinalized_complexNc : ∀ rw ro wo c ccont nc xnc t : Bool,
    accessFinalized (attrBits rw ro wo c ccont nc xnc t) &&& ddcaComplexNc = 0 := by decide

theorem accessFinalized_misplaced : ∀ rw ro wo c ccont nc xnc t : Bool,
    valuesMisplaced (accessFinalized (attrBits rw ro wo c ccont nc xnc t)) = (c || ccont || t) := by decide

theorem accessFinalized_access : ∀ rw ro wo c ccont nc xnc t : Bool,
    (accessFinalized (attrBits rw ro wo c ccont nc xnc t) &&& accessMask = ddcaRw ↔ rw = true ∧ ro = false ∧ wo = false) ∧
    accessFinalized (attrBits rw ro wo c ccont nc xnc t) &&& accessMask ≠ ddcaRo ∧
    accessFinalized (attrBits rw ro wo c ccont nc xnc t) &&& accessMask ≠ ddcaWo := by decide

theorem accessFinalized_type : ∀ rw ro wo c ccont nc xnc t : Bool,
    accessFinalized (attrBits rw ro wo c ccont nc xnc t) &&& typeMask = attrBits false false false c ccont nc xnc t := by
  decide

theorem bitsOf_access :
    (accessFinalized (bitsOf attrs) &&& accessMask = ddcaRw ↔ Attr.rw ∈ attrs ∧ Attr.ro ∉ attrs ∧ Attr.wo ∉ attrs) ∧
      accessFinalized (bitsOf attrs) &&& accessMask ≠ ddcaRo ∧
      accessFinalized (bitsOf attrs) &&& accessMask ≠ ddcaWo := by
  have h := accessFinalized_access (attrs.contains .rw) (attrs.contains .ro) (attrs.contains .wo) (attrs.contains .c)
    (attrs.contains .ccont) (attrs.contains .nc) (attrs.contains .xnc) (attrs.contains .t)
  rw [← bitsOf] at h
  simpa using h

theorem attrs_right {attrs : List Attr} (hsingle : ∀ a ∈ attrs, ∀ a' ∈ attrs, a.isAccess = a'.isAccess → a = a')
    (hasValues : Bool) :
    (∃ access type : Attr,
      (access ∈ attrs ∧ access.isAccess = true ∨ access = .rw ∧ ∀ a ∈ attrs, a.isAccess = false) ∧
      type ∈ attrs ∧ type.isAccess = false ∧
      accessFinalized (bitsOf attrs) &&& accessMask = access.accessBit ∧
      accessFinalized (bitsOf attrs) &&& typeMask = type.typeBit access hasValues) ↔
    Attr.rw ∈ attrs ∧ ∃ type ∈ attrs, type.isAccess = false ∧ type ≠ .t := by
  obtain ⟨hrw, hro, hwo⟩ := bitsOf_access attrs
  have htype : accessFinalized (bitsOf attrs) &&& typeMask =
      attrBits false false false (attrs.contains .c) (attrs.contains .ccont) (attrs.contains .nc) (attrs.contains .xnc)
        (attrs.contains .t) := accessFinalized_type _ _ _ _ _ _ _ _
  have honly : ∀ {a b : Attr}, a ∈ attrs → a.isAccess = b.isAccess → a ≠ b → attrs.contains b = false := by
    intro a b ha hab hne
    rw [← Bool.not_eq_true, contains_iff_mem]; exact fun hb => hne (hsingle a ha b hb hab)
  constructor
  · rintro ⟨access, type, -, hmem, hkind, hbit, htbit⟩
    have hdeclared : Attr.rw ∈ attrs := by
      cases access with
      | ro => exact absurd hbit hro
      | wo => exact absurd hbit hwo
      | _ => exact (hrw.1 hbit).1
    refine ⟨hdeclared, type, hmem, hkind, ?_⟩
    rintro rfl
    have h1 := honly hmem (b := .c) rfl (by decide)
    have h2 := honly hmem (b := .ccont) rfl (by decide)
    have h3 := honly hmem (b := .nc) rfl (by decide)
    have h4 := honly hmem (b := .xnc) rfl (by decide)
    rw [htype, h1, h2, h3, h4, contains_iff_mem.2 hmem] at htbit
    unfold Attr.typeBit at htbit
    split_ifs at htbit <;> exact absurd htbit (by decide)
  · rintro ⟨hdeclared, type, hmem, hkind, hne⟩
    have hbit : accessFinalized (bitsOf attrs) &&& accessMask = ddcaRw := by
      refine hrw.2 ⟨hdeclared, ?_, ?_⟩
      · exact fun h => absurd (hsingle _ hdeclared _ h rfl) (by decide)
      · exact fun h => absurd (hsingle _ hdeclared _ h rfl) (by decide)
    refine ⟨.rw, type, .inl ⟨hdeclared, rfl⟩, hmem, hkind, hbit, ?_⟩
    have hcontains : ∀ b : Attr, b.isAccess = false → attrs.contains b = (type == b) := by
      intro b hb
      by_cases heq : type = b
      · rw [← heq, contains_iff_mem.2 hmem, beq_self_eq_true]
      · rw [honly hmem (hkind.trans hb.symm) heq, beq_eq_false_iff_ne.2 heq]
    rw [htype, hcontains .c rfl, hcontains .ccont rfl, hcontains .nc rfl, hcontains .xnc rfl, hcontains .t rfl]
    cases type with
    | rw | ro | wo => cases hkind
    | t => exact absurd rfl hne
    | c | ccont | nc | xnc => cases hasValues <;> rfl

/-! ## One feature -/

theorem headMetadata_flags (line code : List Byte) (name : Option (List Byte)) :
    (headMetadata line code name).versionFeatureFlags = 0 ∧ (headMetadata line code name).slValues = none := by
  unfold headMetadata
  cases readFeatureCode line code name <;> exact ⟨rfl, rfl⟩

theorem FeatureBlock.draft_flags (b : FeatureBlock) :
    b.draft.1.versionFeatureFlags = bitsOf (declaredAttrs b.body) := by
  rw [FeatureBlock.draft, withAttrs, (headMetadata_flags _ _ _).1, foldl_flags]

theorem bitsOf_misplaced : valuesMisplaced (accessFinalized (bitsOf attrs)) = attrs.any Attr.isValueless := by
  rw [bitsOf, accessFinalized_misplaced, Bool.eq_iff_iff]
  simp only [Bool.or_eq_true, contains_iff_mem, any_eq_true]
  constructor
  · rintro ((h | h) | h)
    · exact ⟨_, h, rfl⟩
    · exact ⟨_, h, rfl⟩
    · exact ⟨_, h, rfl⟩
  · rintro ⟨a, ha, hvalueless⟩
    cases a with
    | c => exact .inl (.inl ha)
    | ccont => exact .inl (.inr ha)
    | t => exact .inr ha
    | _ => cases hvalueless

theorem FeatureBlock.misplaced_iff (b : FeatureBlock) : b.draft.Misplaced ↔ b.misplaced = true := by
  rw [FeatureDraft.Misplaced, FeatureBlock.misplaced, b.draft_flags, bitsOf_misplaced, Bool.and_eq_true]
  unfold FeatureBlock.draft addEntries
  by_cases h : valueEntries (b.before ++ b.body) = []
  · simp [h]
  · simp [h]

def FeatureBlock.feature (b : FeatureBlock) : DynFeatureMetadata := finalMetadata b.draft.1 b.draft.2

theorem FeatureBlock.feature_flags (b : FeatureBlock) :
    b.feature.versionFeatureFlags = accessFinalized (bitsOf (declaredAttrs b.body)) := by
  have hcomplex : valuesFinalized (accessFinalized (bitsOf (declaredAttrs b.body))) =
      accessFinalized (bitsOf (declaredAttrs b.body)) := by
    rw [valuesFinalized, bitsOf, accessFinalized_complexNc, if_neg (fun h => h rfl)]
  unfold FeatureBlock.feature finalMetadata
  cases b.draft.2 with
  | none =>
    rw [tableFinalized_eq, b.draft_flags]
  | some values =>
    dsimp only
    rw [tableFinalized_eq, b.draft_flags, hcomplex]

theorem FeatureBlock.feature_code (b : FeatureBlock) : b.feature.featureCode = b.draft.1.featureCode := by
  unfold FeatureBlock.feature finalMetadata
  cases b.draft.2 <;> rfl

theorem FeatureBlock.feature_values (b : FeatureBlock) :
    b.feature.slValues.getD [] = valueEntries (b.before ++ b.body) := by
  have hnone : b.draft.1.slValues = none := (headMetadata_flags _ _ _).2
  have hdraft : b.draft.2 = addEntries none (valueEntries (b.before ++ b.body)) := rfl
  unfold FeatureBlock.feature finalMetadata
  rw [hdraft]
  by_cases h : valueEntries (b.before ++ b.body) = []
  · rw [h]
    simp only [addEntries, if_true, hnone, Option.getD_none]
  · simp only [addEntries, h, if_false, Option.getD_none, nil_append, Option.getD_some]

/-! ## Lines without errors -/

theorem lineErrors_of_mem : ∀ {ls : List NumberedLine} {started : Bool},
    linesErrors d started ls = [] → ∀ l ∈ ls, ∃ started, lineErrors d started l = []
  | l' :: ls, started, h, l, hl => by
    rw [linesErrors, append_eq_nil_iff] at h
    rcases mem_cons.1 hl with rfl | hl
    · exact ⟨started, h.1⟩
    · exact lineErrors_of_mem h.2 l hl

theorem readFeatureCode_of_lineErrors {started : Bool} (h : lineErrors d started l = [])
    (hhead : featureHead l.1 = some (code, name)) :
    ∃ n nm, readFeatureCode l.1 code name = .ok (n, nm) ∧ strToInt (canonicalizePossibleHexValue code) 16 = some n := by
  obtain ⟨keyword, rest, hc, hk⟩ := featureHead_eq_some hhead
  unfold lineErrors at h
  simp only [hc, fieldErrors, hk, map_eq_nil_iff] at h
  unfold readFeatureCode at h ⊢
  cases name with
  | none => simp [errorText] at h
  | some name =>
    cases hn : strToInt (canonicalizePossibleHexValue code) 16 with
    | none => simp [errorText, hn] at h
    | some n => exact ⟨n, name, rfl, rfl⟩

theorem readValue_of_lineErrors {started : Bool} (h : lineErrors d started l = [])
    {value : List Byte × Option (List Byte)} (hvalue : valueWords l.1 = some value) :
    ∃ entry, lineEntries l.1 = [entry] ∧
      (strToInt0 (canonicalizePossibleHexValue value.1), value.2) =
        (some (entry.valueCode.toNat : Int), some entry.valueName) := by
  have hentries : lineEntries l.1 = (readValue l.1 value.1 value.2).toOption.toList := by
    rw [lineEntries, hvalue]
  have herror : errorText (readValue l.1 value.1 value.2) = [] := by
    unfold valueWords at hvalue
    unfold lineErrors at h
    cases hc : lineContent l.1 with
    | nothing | oneWord => simp [hc] at hvalue
    | field keyword rest word rest2 =>
      by_cases hk : fieldKeyword keyword = .value
      · simp only [hc, hk, if_true, Option.some.injEq] at hvalue
        subst hvalue
        simp only [hc, fieldErrors, hk, map_eq_nil_iff] at h; exact h
      · simp [hc, hk] at hvalue
  obtain ⟨word, rest2⟩ := value
  rw [hentries]
  unfold readValue at herror ⊢
  cases rest2 with
  | none => simp [errorText] at herror
  | some name =>
    cases hn : strToInt0 (canonicalizePossibleHexValue word) with
    | none => simp [errorText, hn] at herror
    | some n =>
      by_cases hrange : n < 0 ∨ 255 < n
      · simp [errorText, hn, hrange] at herror
      · refine ⟨⟨UInt8.ofInt n, name⟩, ?_, ?_⟩
        · simp only [hrange, if_false]; rfl
        · have hn256 : ((UInt8.ofInt n).toNat : Int) = n := by
            simp only [UInt8.ofInt, UInt8.toNat_ofNat']; omega
          rw [hn256]

theorem lineEntries_of_not_value {line : List Byte} (h : valueWords line = none) : lineEntries line = [] := by
  rw [lineEntries, h]

theorem map_valueEntries : ∀ {body : List NumberedLine},
    (∀ l ∈ body, ∃ started, lineErrors d started l = []) →
      (valueEntries body).map (fun e => (some (e.valueCode.toNat : Int), some e.valueName)) =
        (valueLines body).map fun v => (strToInt0 (canonicalizePossibleHexValue v.1), v.2)
  | [], _ => rfl
  | l :: body, h => by
    have ih := map_valueEntries fun l' hl' => h l' (mem_cons_of_mem l hl')
    have hcons : valueEntries (l :: body) = lineEntries l.1 ++ valueEntries body := flatMap_cons
    rw [hcons, map_append, ih]
    cases hvalue : valueWords l.1 with
    | none =>
      have hlines : valueLines (l :: body) = valueLines body := filterMap_cons_none hvalue
      rw [lineEntries_of_not_value hvalue, hlines]; rfl
    | some value =>
      obtain ⟨started, herrors⟩ := h l mem_cons_self
      obtain ⟨entry, hentry, heq⟩ := readValue_of_lineErrors herrors hvalue
      have hlines : valueLines (l :: body) = value :: valueLines body := filterMap_cons_some hvalue
      rw [hentry, hlines, map_cons, map_cons, heq]; rfl

/-! ## The blocks of a file -/

theorem preamble_subset (ls : List NumberedLine) : ∀ l ∈ preamble ls, l ∈ ls :=
  fun _ hl => (takeWhile_sublist _).subset hl

structure BlockOf (ls : List NumberedLine) (b : FeatureBlock) : Prop where
  head : b.head ∈ ls
  isHead : featureHead b.head.1 = some (b.code, b.name)
  body : ∀ l ∈ b.body, l ∈ ls

theorem blockOf_laterBlocks : ∀ {ls : List NumberedLine}, ∀ b ∈ laterBlocks ls, BlockOf ls b
  | [], b, hb => by cases hb
  | l :: ls, b, hb => by
    have hlater : ∀ b ∈ laterBlocks ls, BlockOf (l :: ls) b := by
      intro b hb
      obtain ⟨h1, h2, h3⟩ := blockOf_laterBlocks b hb
      exact ⟨mem_cons_of_mem l h1, h2, fun l' hl' => mem_cons_of_mem l (h3 l' hl')⟩
    cases hhead : featureHead l.1 with
    | none =>
      rw [laterBlocks_cons_of_none hhead] at hb; exact hlater b hb
    | some head =>
      rw [laterBlocks_cons_of_some hhead] at hb
      rcases mem_cons.1 hb with rfl | hb
      · exact ⟨mem_cons_self, hhead, fun l' hl' => mem_cons_of_mem l (preamble_subset ls l' hl')⟩
      · exact hlater b hb

theorem laterBlocks_before : ∀ {ls : List NumberedLine}, ∀ b ∈ laterBlocks ls, b.before = []
  | [], b, hb => by cases hb
  | l :: ls, b, hb => by
    cases hhead : featureHead l.1 with
    | none =>
      rw [laterBlocks_cons_of_none hhead] at hb; exact laterBlocks_before b hb
    | some head =>
      rw [laterBlocks_cons_of_some hhead] at hb
      rcases mem_cons.1 hb with rfl | hb
      · rfl
      · exact laterBlocks_before b hb

theorem mem_featureBlocks (h : b ∈ featureBlocks ls) : BlockOf ls b ∧ (b.before = [] ∨ b.before = preamble ls) := by
  unfold featureBlocks at h
  have hof : ∀ b ∈ laterBlocks ls, BlockOf ls b := blockOf_laterBlocks
  have hbefore : ∀ b ∈ laterBlocks ls, b.before = [] := laterBlocks_before
  cases hlater : laterBlocks ls with
  | nil =>
    rw [hlater] at h; cases h
  | cons b' bs =>
    rw [hlater] at h hof hbefore
    rcases mem_cons.1 h with rfl | h
    · obtain ⟨h1, h2, h3⟩ := hof b' mem_cons_self
      exact ⟨⟨h1, h2, h3⟩, .inr rfl⟩
    · exact ⟨hof b (mem_cons_of_mem _ h), .inl (hbefore b (mem_cons_of_mem _ h))⟩

/-! ## The whole file -/

def DefinitionFile.start (d : DefinitionFile) : FeatureParse := startParse d.mfgId d.modelName d.productCode d.filename

def DefinitionFile.parsed (d : DefinitionFile) : FeatureParse := finalizeCurrent (d.numbered.foldl parseLine d.start)

def DefinitionFile.create (d : DefinitionFile) : Exec (Option ErrorInfo × Option DynamicFeaturesRec) :=
  createDynamicFeaturesRec d.mfgId d.modelName d.productCode d.lines d.filename

theorem finalizes_parsed (d : DefinitionFile) :
    Finalizes d d.start d.numbered (d.blocks.map FeatureBlock.draft) d.parsed :=
  finalizes_preamble d.numbered [] ⟨rfl, rfl, rfl⟩ rfl rfl

theorem parsed_lookup (d : DefinitionFile) (code : Byte) :
    d.parsed.frec.features.lookup code =
      (lastFor (fun b : FeatureBlock => b.feature.featureCode) code d.blocks).map FeatureBlock.feature := by
  have hfold : d.parsed.frec.features = d.blocks.foldl (fun t b => t.insert b.feature.featureCode b.feature) ∅ := by
    rw [(finalizes_parsed d).features, insertDrafts, foldl_map]
    simp only [FeatureBlock.feature_code]; rfl
  rw [hfold, lookup_foldl_insert]
  cases lastFor (fun b : FeatureBlock => b.feature.featureCode) code d.blocks with
  | none | some b => rfl

theorem parsed_keys (d : DefinitionFile) : d.parsed.frec.features.keys = [] ↔ d.blocks = [] := by
  rw [eq_nil_iff_forall_not_mem, eq_nil_iff_forall_not_mem]
  have hkey : ∀ code, code ∈ d.parsed.frec.features.keys ↔ ∃ b ∈ d.blocks, b.feature.featureCode = code := by
    intro code
    rw [← AList.mem_keys, ← AList.lookup_isSome, parsed_lookup, Option.isSome_map, ← Option.ne_none_iff_isSome, Ne,
      lastFor_eq_none]
    push Not
    rfl
  constructor
  · exact fun h b hb => h _ ((hkey _).2 ⟨b, hb, rfl⟩)
  · intro h code hcode
    obtain ⟨b, hb, -⟩ := (hkey code).1 hcode
    exact h b hb

theorem addError_unless (st : FeatureParse) (seen : Bool) (detail : List Byte) :
    (if seen = true then st else st.addError (-1) detail) =
      { st with errors := st.errors ++ missingError seen detail } := by
  cases seen with
  | true =>
    rw [if_pos rfl, missingError, if_pos rfl, append_nil]
  | false => rfl

theorem checkSeen_eq (st : FeatureParse) :
    checkSeen st = { st with
      errors := st.errors ++ missingError (!st.frec.features.keys.isEmpty) (ascii "No feature codes defined") ++
        missingError st.mfgIdSeen (ascii "Missing MFG_ID") ++ missingError st.modelNameSeen (ascii "Missing MODEL_NAME") ++
        missingError st.productCodeSeen (ascii "Missing PRODUCT_CODE") } := by
  have hkeys : (if st.frec.features.keys = [] then st.addError (-1) (ascii "No feature codes defined") else st) =
      { st with
        errors := st.errors ++ missingError (!st.frec.features.keys.isEmpty) (ascii "No feature codes defined") } := by
    rw [← addError_unless]
    cases st.frec.features.keys <;> rfl
  rw [checkSeen, hkeys, addError_unless, addError_unless, addError_unless]

theorem mem_errors (d : DefinitionFile) (e : FeatureError) : e ∈ (checkSeen d.parsed).errors ↔ e ∈ d.errors := by
  have hparsed := finalizes_parsed d
  have hmfg : d.parsed.mfgIdSeen = d.has .mfgId := hparsed.mfgIdSeen
  have hmodel : d.parsed.modelNameSeen = d.has .model := hparsed.modelNameSeen
  have hcode : d.parsed.productCodeSeen = d.has .productCode := hparsed.productCodeSeen
  have herrors := hparsed.errors e
  have hmisplaced : (∃ p ∈ d.blocks.map FeatureBlock.draft, FeatureDraft.Misplaced p) ↔
      d.blocks.any FeatureBlock.misplaced = true := by
    simp only [mem_map, exists_exists_and_eq_and, FeatureBlock.misplaced_iff, any_eq_true]
  rw [hmisplaced] at herrors
  have hkeys : (!d.parsed.frec.features.keys.isEmpty) = !d.blocks.isEmpty := by
    rw [Bool.not_inj_iff, Bool.eq_iff_iff, List.isEmpty_iff, List.isEmpty_iff, parsed_keys]
  have hsingle : e ∈ (if d.blocks.any FeatureBlock.misplaced = true then [misplacedError] else []) ↔
      e = misplacedError ∧ d.blocks.any FeatureBlock.misplaced = true := by
    by_cases hany : d.blocks.any FeatureBlock.misplaced = true
    · rw [if_pos hany, mem_singleton]; exact (and_iff_left hany).symm
    · rw [if_neg hany]; exact ⟨fun he => absurd he not_mem_nil, fun he => absurd he.2 hany⟩
  rw [checkSeen_eq]
  rw [append_assoc, append_assoc, append_assoc, ← append_assoc (missingError _ _) (missingError _ _),
    ← append_assoc (missingError _ _ ++ missingError _ _)]
  rw [hkeys, hmfg, hmodel, hcode, mem_append, herrors, DefinitionFile.errors]
  rw [@mem_append _ e (_ ++ _) (_ ++ _), @mem_append _ e (linesErrors d false d.numbered), hsingle]
  have hstart : d.start.errors = [] := rfl
  have hstarted : d.start.curFeatureMetadata.isSome = false := rfl
  rw [hstart, hstarted]
  simp only [not_mem_nil, false_or]

theorem errors_eq_nil (d : DefinitionFile) : (checkSeen d.parsed).errors = [] ↔ d.errors = [] := by
  rw [eq_nil_iff_forall_not_mem, eq_nil_iff_forall_not_mem]
  exact forall_congr' fun e => not_congr (mem_errors d e)

/-! ## The outcome -/

theorem newFeatureError_ok {filename : Option (List Byte)} {e : FeatureError} (h : IsFormat (finalDetail filename e)) :
    ∃ err, newFeatureError filename e = .ok err := by
  obtain ⟨printed, hprinted⟩ := h
  rw [newFeatureError, hprinted]; exact ⟨_, rfl⟩

theorem isFormat_of_ok {filename : Option (List Byte)} {e : FeatureError} {err : ErrorInfo}
    (h : newFeatureError filename e = .ok err) : IsFormat (finalDetail filename e) := by
  obtain ⟨printed, hprinted, -⟩ := bind_eq_ok.1 h
  exact ⟨printed, hprinted⟩

theorem mapM_newFeatureError (filename : Option (List Byte)) (errors : List FeatureError) :
    (∃ errs, errors.mapM (newFeatureError filename) = .ok errs) ↔ ∀ e ∈ errors, IsFormat (finalDetail filename e) := by
  constructor
  · rintro ⟨errs, h⟩ e he
    obtain ⟨n, hn, rfl⟩ := mem_iff_getElem.1 he
    have hforall := mapM_eq_ok.1 h
    have hlt : n < errs.length := hforall.length_eq ▸ hn
    exact isFormat_of_ok (List.Forall₂.get hforall hn hlt)
  · exact fun h => mapM_ok_of_forall fun e he => newFeatureError_ok (h e he)

theorem create_eq (d : DefinitionFile) :
    d.create = (do
      let errors ← (checkSeen d.parsed).errors.mapM (newFeatureError d.filename)
      if errors = [] then .ok (none, some d.parsed.frec)
      else do
        let detail ← formatted (masterDetail d.filename)
        .ok (some ⟨ddcrcConfigError, "create_dynamic_features_rec", some (asText detail), errors⟩, none)) := by
  have hfrec : (checkSeen d.parsed).frec = d.parsed.frec := by rw [checkSeen_eq]
  rw [← hfrec]; rfl

theorem create_of_no_errors (h : d.errors = []) : d.create = .ok (none, some d.parsed.frec) := by
  rw [create_eq, (errors_eq_nil d).2 h]; rfl

theorem create_of_errors (h : d.errors ≠ []) :
    (∀ frec, d.create ≠ .ok (none, some frec)) ∧ ((∃ err, d.create = .ok (some err, none)) ↔ d.Printable) := by
  have hne : (checkSeen d.parsed).errors ≠ [] := fun hnil => h ((errors_eq_nil d).1 hnil)
  have hmade : ∀ errs, (checkSeen d.parsed).errors.mapM (newFeatureError d.filename) = .ok errs → errs ≠ [] := by
    rintro errs herrs rfl
    exact hne (forall₂_nil_right_iff.1 (mapM_eq_ok.1 herrs))
  have hcauses : (∀ e ∈ (checkSeen d.parsed).errors, IsFormat (finalDetail d.filename e)) ↔
      ∀ e ∈ d.errors, IsFormat (finalDetail d.filename e) := by simp only [mem_errors]
  rw [create_eq]
  refine ⟨fun frec hok => ?_, fun hok => ?_, fun hprint => ?_⟩
  · obtain ⟨errs, herrs, hok⟩ := bind_eq_ok.1 hok
    rw [if_neg (hmade errs herrs)] at hok
    obtain ⟨detail, -, hok⟩ := bind_eq_ok.1 hok
    cases hok
  · obtain ⟨err, hok⟩ := hok
    obtain ⟨errs, herrs, hok⟩ := bind_eq_ok.1 hok
    rw [if_neg (hmade errs herrs)] at hok
    obtain ⟨detail, hdetail, -⟩ := bind_eq_ok.1 hok
    exact ⟨hcauses.1 ((mapM_newFeatureError _ _).1 ⟨errs, herrs⟩), detail, hdetail⟩
  · obtain ⟨errs, herrs⟩ := (mapM_newFeatureError _ _).2 (hcauses.2 hprint.causes)
    obtain ⟨detail, hdetail⟩ := hprint.master
    rw [herrs, ok_bind, if_neg (hmade errs herrs), hdetail, ok_bind]; exact ⟨_, rfl⟩

/-! ## A record -/

section
variable (h : d.errors = [])
include h

theorem feature_code_of_number (hb : b ∈ d.blocks) :
    ∃ n, b.number = some n ∧ b.feature.featureCode = UInt8.ofInt n := by
  have hlines : linesErrors d false d.numbered = [] := by
    exact (append_eq_nil_iff.1 (append_eq_nil_iff.1 h).1).1
  obtain ⟨⟨hmem, hhead, -⟩, -⟩ := mem_featureBlocks hb
  obtain ⟨started, herrors⟩ := lineErrors_of_mem hlines b.head hmem
  obtain ⟨n, nm, hread, hnumber⟩ := readFeatureCode_of_lineErrors herrors hhead
  refine ⟨n, hnumber, ?_⟩
  have hcode : b.draft.1.featureCode = (headMetadata b.head.1 b.code b.name).featureCode := rfl
  rw [b.feature_code, hcode]
  rw [headMetadata, hread]

theorem feature_values_eq (hpreamble : valueLines (preamble d.numbered) = []) (hb : b ∈ d.blocks) :
    (b.feature.slValues.getD []).map (fun e => (some (e.valueCode.toNat : Int), some e.valueName)) =
      (valueLines b.body).map fun v => (strToInt0 (canonicalizePossibleHexValue v.1), v.2) := by
  have hlines : linesErrors d false d.numbered = [] := by
    exact (append_eq_nil_iff.1 (append_eq_nil_iff.1 h).1).1
  obtain ⟨⟨-, -, hbody⟩, hbefore⟩ := mem_featureBlocks hb
  have hnone : valueEntries b.before = [] := by
    rcases hbefore with hbefore | hbefore
    · rw [hbefore]; rfl
    · have hmap := @map_valueEntries d b.before fun l hl =>
        lineErrors_of_mem hlines l (preamble_subset _ l (hbefore ▸ hl))
      rw [hbefore, hpreamble] at hmap
      rw [hbefore]; exact map_eq_nil_iff.1 hmap
  have happend : valueEntries (b.before ++ b.body) = valueEntries b.before ++ valueEntries b.body := flatMap_append
  rw [b.feature_values, happend, hnone, nil_append]
  exact map_valueEntries fun l hl => lineErrors_of_mem hlines l (hbody l hl)

theorem matchesBlock_iff (hconsistent : ¬ d.Contradictory) (hb : b ∈ d.blocks)
    (hnumber : b.number = some (b.feature.featureCode.toNat : Int)) :
    MatchesBlock b.feature b ↔
      Attr.rw ∈ declaredAttrs b.body ∧ (∃ type ∈ declaredAttrs b.body, type.isAccess = false ∧ type ≠ .t) ∧
      ∀ v ∈ valueLines b.body, strToInt0 (canonicalizePossibleHexValue v.1) = writtenValue v.1 := by
  have hsingle : ∀ a ∈ declaredAttrs b.body, ∀ a' ∈ declaredAttrs b.body, a.isAccess = a'.isAccess → a = a' := by
    intro a ha a' ha' heq
    by_contra hne
    exact hconsistent (.inr (.inl ⟨b, hb, a, ha, a', ha', hne, heq⟩))
  have hpreamble : valueLines (preamble d.numbered) = [] := by
    by_contra hne
    exact hconsistent (.inr (.inr hne))
  have hattrs := attrs_right hsingle b.feature.slValues.isSome
  have hvalues := feature_values_eq h hpreamble hb
  have hgiven : (valueLines b.body).map givenValue =
      (valueLines b.body).map (fun v => (strToInt0 (canonicalizePossibleHexValue v.1), v.2)) ↔
      ∀ v ∈ valueLines b.body, strToInt0 (canonicalizePossibleHexValue v.1) = writtenValue v.1 := by
    rw [map_inj_left]
    simp only [givenValue, Prod.mk.injEq, and_true]; exact forall₂_congr fun v _ => eq_comm
  rw [← and_assoc, ← hattrs, ← hgiven]
  constructor
  · rintro ⟨-, hmatch, hsl⟩
    rw [b.feature_flags] at hmatch; exact ⟨hmatch, hsl.trans hvalues⟩
  · rintro ⟨hmatch, hsl⟩
    rw [← b.feature_flags] at hmatch; exact ⟨hnumber, hmatch, hsl.trans hvalues.symm⟩

theorem number_eq (hconsistent : ¬ d.Contradictory) (hb : b ∈ d.blocks) :
    b.number = some (b.feature.featureCode.toNat : Int) := by
  obtain ⟨n, hn, hcode⟩ := feature_code_of_number h hb
  have hrange : 0 ≤ n ∧ n ≤ 255 := by
    by_contra hout
    exact hconsistent (.inl ⟨b, hb, n, hn, hout⟩)
  have htoNat : ((UInt8.ofInt n).toNat : Int) = n := by
    simp only [UInt8.ofInt, UInt8.toNat_ofNat']; omega
  rw [hn, hcode, htoNat]

theorem lookup_eq (hconsistent : ¬ d.Contradictory) (code : Byte) :
    d.parsed.frec.features.lookup code =
      (lastFor FeatureBlock.number (some (code.toNat : Int)) d.blocks).map FeatureBlock.feature := by
  rw [parsed_lookup]
  refine congrArg _ (lastFor_congr fun b hb => ?_)
  rw [number_eq h hconsistent hb, Option.some.injEq, Int.natCast_inj, UInt8.toNat_inj]

end

/-- **A feature definition file is read right** exactly where it has errors that can all be printed, or it has none, does
not contradict itself and each feature that is kept declares `RW`, a type other than `T` and no value that octal makes
another. -/
theorem definitionRight_iff (d : DefinitionFile) :
    DefinitionRight d d.create ↔ (d.errors = [] → d.Plain) ∧ (d.errors ≠ [] → d.Printable) := by
  by_cases h : d.errors = []
  · have hcreate := create_of_no_errors h
    have hrecord : DefinitionRight d d.create ↔ ¬ d.Contradictory ∧
        ∀ code f, d.parsed.frec.features.lookup code = some f → f.featureCode = code ∧
          ∃ b, lastFor FeatureBlock.number (some (code.toNat : Int)) d.blocks = some b ∧ MatchesBlock f b := by
      rw [hcreate]
      constructor
      · rintro (⟨err, hok⟩ | ⟨frec, hok, hright⟩)
        · cases hok
        · cases hok; exact hright
      · exact fun hright => .inr ⟨_, rfl, hright⟩
    rw [hrecord]
    have hgoal : ((d.errors = [] → d.Plain) ∧ (d.errors ≠ [] → d.Printable)) ↔ d.Plain := by simp [h]
    rw [hgoal]
    constructor
    · rintro ⟨hconsistent, hfeatures⟩
      refine ⟨hconsistent, fun b hkept => ?_⟩
      obtain ⟨hb, -⟩ := lastFor_mem hkept
      have hnumber := number_eq h hconsistent hb
      rw [hnumber] at hkept
      have hlookup := lookup_eq h hconsistent b.feature.featureCode
      rw [hkept, Option.map_some] at hlookup
      obtain ⟨-, b', hb', hmatch⟩ := hfeatures _ _ hlookup
      rw [hkept, Option.some.injEq] at hb'
      subst hb'; exact (matchesBlock_iff h hconsistent hb hnumber).1 hmatch
    · rintro ⟨hconsistent, hkept⟩
      refine ⟨hconsistent, fun code f hf => ?_⟩
      rw [lookup_eq h hconsistent, Option.map_eq_some_iff] at hf
      obtain ⟨b, hlast, rfl⟩ := hf
      obtain ⟨hb, hkey⟩ := lastFor_mem hlast
      have hnumber := number_eq h hconsistent hb
      have hcode : b.feature.featureCode = code := by
        rw [hkey, Option.some.injEq, Int.natCast_inj, UInt8.toNat_inj] at hnumber
        exact hnumber.symm
      rw [← hkey] at hlast
      exact ⟨hcode, b, hkey ▸ hlast, (matchesBlock_iff h hconsistent hb hnumber).2 (hkept b hlast)⟩
  · obtain ⟨hnone, hiff⟩ := create_of_errors h
    have hgoal : ((d.errors = [] → d.Plain) ∧ (d.errors ≠ [] → d.Printable)) ↔ d.Printable := by simp [h]
    rw [hgoal, ← hiff]
    constructor
    · rintro (herr | ⟨frec, hok, -⟩)
      · exact herr
      · exact absurd hok (hnone frec)
    · exact .inl

def readOnlyFile : DefinitionFile where
  mfgId := ascii "DEL"
  modelName := ascii "U3011"
  productCode := 0x4065
  lines := [ascii "MFG_ID DEL", ascii "MODEL U3011", ascii "PRODUCT_CODE 16485", ascii "FEATURE_CODE x10 Brightness",
    ascii "ATTRS RO C"]
  filename := some (ascii "DEL-U3011-16485.mccs")

/-- A feature that is declared read only is both read only and readable and writable. -/
theorem readOnlyFile_not_right : ¬ DefinitionRight readOnlyFile readOnlyFile.create := by
  have hcreate : readOnlyFile.create = .ok (none, some readOnlyFile.parsed.frec) :=
    create_of_no_errors (List.isEmpty_iff.1 (by decide +kernel))
  have hflags : (readOnlyFile.parsed.frec.features.lookup 0x10).map DynFeatureMetadata.versionFeatureFlags =
      some (ddcaRo ||| ddcaRw ||| ddcaStdCont) := by decide +kernel
  obtain ⟨f, hf, hflags⟩ := Option.map_eq_some_iff.1 hflags
  rintro (⟨err, herr⟩ | ⟨frec, hok, -, hright⟩)
  · cases herr
  · cases hok
    obtain ⟨-, b, -, hmatch⟩ := hright _ f hf
    obtain ⟨access, type, -, -, -, hbit, -⟩ := hmatch.attrs
    rw [hflags] at hbit
    cases access <;> exact absurd hbit (by decide)

end Ddc
