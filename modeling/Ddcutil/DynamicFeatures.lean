import Ddcutil.MonitorModelKey
import Ddcutil.VcpFeatureTable
/-!
# DynamicFeatures — the parser of feature definition files

`create_dynamic_features_rec` reads the lines of a file that describes the features of one monitor model.
-/
namespace Ddc

open Kit

structure Tokenized where
  word : Option (List Byte)
  rest : Option (List Byte)

def firstWord (s : List Byte) : Tokenized :=
  let s := s.dropWhile isspace
  if s = [] then ⟨none, none⟩
  else
    let rest := (s.dropWhile (! isspace ·)).dropWhile isspace
    ⟨some (s.takeWhile (! isspace ·)), if rest = [] then none else some rest⟩

def allWords (s : List Byte) : List (List Byte) := (s.splitOnP isspace).filter (· ≠ [])

structure DynFeatureMetadata where
  featureCode : Byte
  vcpVersion : VersionSpec
  globalFeatureFlags : DdcaFeatureFlags
  versionFeatureFlags : DdcaFeatureFlags
  slValues : Option (List FeatureValueEntry)
  featureName : Option (List Byte)
  featureDesc : Option (List Byte)

def dfrFlagsNone : UInt8 := 0
def dfrFlagsNotFound : UInt8 := 1

structure DynamicFeaturesRec where
  mfgId : List Byte
  modelName : List Byte
  productCode : UInt16
  filename : Option (List Byte)
  vspec : VersionSpec
  flags : UInt8
  features : AList fun _ : Byte => DynFeatureMetadata

def dfrNew (mfgId modelName : List Byte) (productCode : UInt16) (filename : Option (List Byte)) : DynamicFeaturesRec where
  mfgId := mfgId
  modelName := modelName
  productCode := productCode
  filename := filename
  vspec := vspecUnknown
  flags := dfrFlagsNone
  features := ∅

structure FeatureError where
  caller : String
  linectr : Int
  detail : List Byte

def finalDetail (filename : Option (List Byte)) (e : FeatureError) : List Byte :=
  let detail := e.detail.take 199
  match filename with
  | none => detail
  | some filename =>
    if 0 < e.linectr then (detail ++ ascii " at line " ++ decimal e.linectr).take 299
    else (detail ++ ascii " in file " ++ filename).take 299

def newFeatureError (filename : Option (List Byte)) (e : FeatureError) : Exec ErrorInfo := do
  let detail ← formatted (finalDetail filename e)
  .ok ⟨ddcrcConfigError, e.caller, some (asText detail), []⟩

/-! ## The parser -/

structure FeatureParse where
  frec : DynamicFeaturesRec
  mfgIdSeen : Bool
  modelNameSeen : Bool
  productCodeSeen : Bool
  curFeatureMetadata : Option DynFeatureMetadata
  curFeatureValues : Option (List FeatureValueEntry)
  errors : List FeatureError

/-- `ADD_ERROR` in `create_dynamic_features_rec`; the error is made when all are known. -/
def FeatureParse.addError (st : FeatureParse) (linectr : Int) (detail : List Byte) : FeatureParse :=
  { st with errors := st.errors ++ [⟨"create_dynamic_features_rec", linectr, detail⟩] }

def quoted (s : List Byte) : List Byte := ascii "\"" ++ s ++ ascii "\""

def attrKeyword (keyword : List Byte) : Option DdcaFeatureFlags :=
  if keyword = ascii "RW" then some ddcaRw
  else if keyword = ascii "RO" then some ddcaRo
  else if keyword = ascii "WO" then some ddcaWo
  else if keyword = ascii "C" then some ddcaStdCont
  else if keyword = ascii "CCONT" then some ddcaComplexCont
  else if keyword = ascii "NC" then some ddcaSimpleNc
  else if keyword = ascii "SNC" then some ddcaSimpleNc
  else if keyword = ascii "XNC" then some ddcaExtendedNc
  else if keyword = ascii "T" then some ddcaTable
  else none

def switchBits (flags oldBit newBit : DdcaFeatureFlags) : DdcaFeatureFlags := flags &&& ~~~oldBit ||| newBit

def accessFinalized (flags : DdcaFeatureFlags) : DdcaFeatureFlags :=
  if flags &&& (ddcaRw ||| ddcaRo ||| ddcaWo) ≠ 0 then flags ||| ddcaRw else flags

def valuesFinalized (flags : DdcaFeatureFlags) : DdcaFeatureFlags :=
  if flags &&& ddcaComplexNc ≠ 0 then
    if flags &&& ddcaWo ≠ 0 then switchBits flags ddcaComplexNc ddcaWoNc
    else switchBits flags ddcaComplexNc ddcaSimpleNc
  else flags

def tableFinalized (flags : DdcaFeatureFlags) : DdcaFeatureFlags :=
  if flags &&& ddcaNormalTable &&& ddcaWo ≠ 0 then switchBits flags ddcaNormalTable ddcaWoTable else flags

def valuesMisplaced (flags : DdcaFeatureFlags) : Bool :=
  flags &&& ddcaComplexNc == 0 && flags &&& (ddcaComplexCont ||| ddcaStdCont ||| ddcaTable) != 0

def finalMetadata (cur : DynFeatureMetadata) (curFeatureValues : Option (List FeatureValueEntry)) : DynFeatureMetadata :=
  match curFeatureValues with
  | none => { cur with versionFeatureFlags := tableFinalized (accessFinalized cur.versionFeatureFlags) }
  | some values => { cur with
      slValues := some values
      versionFeatureFlags := tableFinalized (valuesFinalized (accessFinalized cur.versionFeatureFlags)) }

def misplacedError : FeatureError :=
  ⟨"finalize_feature", -1, ascii "Feature values specified for Continuous or Table feature"⟩

def finalizeFeature (st : FeatureParse) (cur : DynFeatureMetadata) : FeatureParse :=
  { st with
    frec := { st.frec with
      features := st.frec.features.insert cur.featureCode (finalMetadata cur st.curFeatureValues) }
    errors :=
      if st.curFeatureValues ≠ none ∧ valuesMisplaced (accessFinalized cur.versionFeatureFlags) = true then
        st.errors ++ [misplacedError]
      else st.errors }

/-- The current feature is put in the record, and there are no values yet for another. -/
def finalizeCurrent (st : FeatureParse) : FeatureParse :=
  match st.curFeatureMetadata with
  | none => st
  | some cur => { finalizeFeature st cur with curFeatureValues := none }

def attrWord (linectr : Int) (st : FeatureParse) (word : List Byte) : FeatureParse :=
  match attrKeyword word with
  | some flag =>
    { st with curFeatureMetadata := st.curFeatureMetadata.map fun cur =>
        { cur with versionFeatureFlags := cur.versionFeatureFlags ||| flag } }
  | none => st.addError linectr (ascii "Invalid attribute " ++ quoted word)

def attrsLine (st : FeatureParse) (linectr : Int) (rest : List Byte) : FeatureParse :=
  match st.curFeatureMetadata with
  | none => st.addError linectr (ascii "ATTRS before FEATURE_CODE")
  | some _ => (allWords rest).foldl (attrWord linectr) st

def newMetadata : DynFeatureMetadata where
  featureCode := 0
  vcpVersion := ⟨0, 0⟩
  globalFeatureFlags := ddcaUserDefined ||| ddcaPersistentMetadata
  versionFeatureFlags := 0
  slValues := none
  featureName := none
  featureDesc := none

def readFeatureCode (line featureCode : List Byte) (featureName : Option (List Byte)) :
    Except (List Byte) (Int × List Byte) :=
  match featureName with
  | none => .error (ascii "Invalid VCP data " ++ quoted line)
  | some featureName =>
    match strToInt (canonicalizePossibleHexValue featureCode) 16 with
    | none => .error (ascii "Invalid feature code " ++ quoted featureCode)
    | some featureId => .ok (featureId, featureName)

def featureCodeLine (st : FeatureParse) (linectr : Int) (line featureCode : List Byte)
    (featureName : Option (List Byte)) : FeatureParse :=
  let st := { finalizeCurrent st with curFeatureMetadata := some newMetadata }
  match readFeatureCode line featureCode featureName with
  | .error detail => st.addError linectr detail
  | .ok (featureId, featureName) =>
    { st with curFeatureMetadata := some { newMetadata with
        featureCode := UInt8.ofInt featureId, featureName := some featureName } }

def readValue (line word : List Byte) (rest : Option (List Byte)) : Except (List Byte) FeatureValueEntry :=
  match rest with
  | none => .error (ascii "Missing feature value data " ++ quoted line)
  | some name =>
    match strToInt0 (canonicalizePossibleHexValue word) with
    | none => .error (ascii "Invalid feature value " ++ quoted word)
    | some featureValue =>
      if featureValue < 0 ∨ 255 < featureValue then .error (ascii "Invalid feature value " ++ quoted word)
      else .ok ⟨UInt8.ofInt featureValue, name⟩

def valueLine (st : FeatureParse) (linectr : Int) (line word : List Byte) (rest : Option (List Byte)) : FeatureParse :=
  match readValue line word rest with
  | .error detail => st.addError linectr detail
  | .ok entry => { st with curFeatureValues := some (st.curFeatureValues.getD [] ++ [entry]) }

def productCodeError (productCode : UInt16) (word : List Byte) : Option (List Byte) :=
  match strToInt word 10 with
  | none => some (ascii "Invalid product_code " ++ quoted word)
  | some ival =>
    if ival ≠ productCode.toNat then
      some (ascii "Unexpected product_code " ++ decimal ival ++ ascii ", expected " ++ decimal productCode.toNat)
    else none

def mfgIdError (mfgId word : List Byte) : Option (List Byte) :=
  if word ≠ mfgId then
    some (ascii "Unexpected manufacturer id " ++ quoted word ++ ascii ", expected " ++ quoted mfgId)
  else none

def fixupModelField (s : List Byte) : List Byte :=
  fixupModelName (s.take edidModelNameFieldSize) ++ s.drop edidModelNameFieldSize

def modelError (modelName rest : List Byte) : Option (List Byte) :=
  if fixupModelField rest ≠ modelName then
    some (ascii "Unexpected model name " ++ quoted rest ++ ascii ", expected " ++ quoted modelName)
  else none

def versionError (rest : List Byte) : Option (List Byte) :=
  if vcpVersionIsValid (parseVspec rest) = true then none else some (ascii "Invalid MCCS version: " ++ quoted rest)

def FeatureParse.report (st : FeatureParse) (linectr : Int) (error : Option (List Byte)) : FeatureParse :=
  match error with
  | some detail => st.addError linectr detail
  | none => st

def productCodeLine (st : FeatureParse) (linectr : Int) (word : List Byte) : FeatureParse :=
  { st with productCodeSeen := true }.report linectr (productCodeError st.frec.productCode word)

def mfgIdLine (st : FeatureParse) (linectr : Int) (word : List Byte) : FeatureParse :=
  { st with mfgIdSeen := true }.report linectr (mfgIdError st.frec.mfgId word)

def modelLine (st : FeatureParse) (linectr : Int) (rest : List Byte) : FeatureParse :=
  { st with modelNameSeen := true }.report linectr (modelError st.frec.modelName rest)

def versionLine (st : FeatureParse) (linectr : Int) (rest : List Byte) : FeatureParse :=
  match versionError rest with
  | some detail => st.addError linectr detail
  | none => { st with frec := { st.frec with vspec := parseVspec rest } }

inductive FieldKeyword where
  | productCode | mfgId | model | mccsVersion | attrs | featureCode | value | unexpected
  deriving DecidableEq

def fieldKeyword (word : List Byte) : FieldKeyword :=
  if word = ascii "PRODUCT_CODE" then .productCode
  else if word = ascii "MFG_ID" then .mfgId
  else if word = ascii "MODEL" then .model
  else if word = ascii "MCCS_VERSION" ∨ word = ascii "VCP_VERSION" then .mccsVersion
  else if word = ascii "ATTRS" then .attrs
  else if word = ascii "FEATURE_CODE" then .featureCode
  else if word = ascii "VALUE" then .value
  else .unexpected

def fieldLine (st : FeatureParse) (linectr : Int) (line keyword rest word : List Byte) (rest2 : Option (List Byte)) :
    FeatureParse :=
  match fieldKeyword keyword with
  | .productCode => productCodeLine st linectr word
  | .mfgId => mfgIdLine st linectr word
  | .model => modelLine st linectr rest
  | .mccsVersion => versionLine st linectr rest
  | .attrs => attrsLine st linectr rest
  | .featureCode => featureCodeLine st linectr line word rest2
  | .value => valueLine st linectr line word rest2
  | .unexpected => st.addError linectr (ascii "Unexpected field " ++ quoted keyword)

def isCommentWord (word : List Byte) : Bool := word.head? == some 0x2a || word.head? == some 0x23

/-- **What a line is**: nothing to read, a word by itself, or a first word, what follows it, and the same of that. -/
inductive LineContent where
  | nothing | oneWord
  | field (keyword rest word : List Byte) (rest2 : Option (List Byte))

def lineContent (line : List Byte) : LineContent :=
  match (firstWord line).word with
  | none => .nothing
  | some keyword =>
    if isCommentWord keyword = true then .nothing
    else
      match (firstWord line).rest with
      | none => .oneWord
      | some rest =>
        match (firstWord rest).word with
        | none => .oneWord
        | some word => .field keyword rest word (firstWord rest).rest

def parseLine (st : FeatureParse) (line : List Byte × Nat) : FeatureParse :=
  match lineContent line.1 with
  | .nothing => st
  | .oneWord => st.addError line.2 (ascii "Invalid data " ++ quoted line.1)
  | .field keyword rest word rest2 => fieldLine st line.2 line.1 keyword rest word rest2

def checkSeen (st : FeatureParse) : FeatureParse :=
  let st := if st.frec.features.keys = [] then st.addError (-1) (ascii "No feature codes defined") else st
  let st := if st.mfgIdSeen = true then st else st.addError (-1) (ascii "Missing MFG_ID")
  let st := if st.modelNameSeen = true then st else st.addError (-1) (ascii "Missing MODEL_NAME")
  if st.productCodeSeen = true then st else st.addError (-1) (ascii "Missing PRODUCT_CODE")

def startParse (mfgId modelName : List Byte) (productCode : UInt16) (filename : Option (List Byte)) : FeatureParse where
  frec := dfrNew mfgId modelName productCode filename
  mfgIdSeen := false
  modelNameSeen := false
  productCodeSeen := false
  curFeatureMetadata := none
  curFeatureValues := none
  errors := []

def masterDetail (filename : Option (List Byte)) : List Byte :=
  ascii "Error(s) processing monitor definition file: " ++ filename.getD (ascii "(null)")

def createDynamicFeaturesRec (mfgId modelName : List Byte) (productCode : UInt16) (lines : List (List Byte))
    (filename : Option (List Byte)) : Exec (Option ErrorInfo × Option DynamicFeaturesRec) := do
  let st := checkSeen (finalizeCurrent ((lines.zipIdx 1).foldl parseLine (startParse mfgId modelName productCode filename)))
  let errors ← st.errors.mapM (newFeatureError filename)
  if errors = [] then .ok (none, some st.frec)
  else do
    let detail ← formatted (masterDetail filename)
    .ok (some ⟨ddcrcConfigError, "create_dynamic_features_rec", some (asText detail), errors⟩, none)

end Ddc
