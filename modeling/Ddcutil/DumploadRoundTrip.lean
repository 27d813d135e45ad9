import Ddcutil.DumploadWrite
/-!
# DumploadRoundTrip — which dumps are read back

The lines written for a display are read back as the same dump if and only if the model and the serial number have a
text that does not begin with a blank, the version is one that the reader takes, and no value has a table.
-/
namespace Ddc

open Kit List

def featureValue (valrec : AnyVcpValue) : Byte × (Nat ⊕ List Byte) :=
  match valrec.val with
  | .cNc _ _ sh sl => (valrec.opcode, .inl (sh.toNat * 256 + sl.toNat))
  | .t bytes => (valrec.opcode, .inr bytes)

structure SameDump (data data' : DumploadData) : Prop where
  mfgId : data'.mfgId = data.mfgId
  model : data'.model = data.model
  serialAscii : data'.serialAscii = data.serialAscii
  productCode : data'.productCode = data.productCode
  edidstr : data'.edidstr = data.edidstr
  vcpVersion : data'.vcpVersion = data.vcpVersion
  vcpValues : data'.vcpValues.map featureValue = data.vcpValues.map featureValue

def DumpReadsBack (tableFeatures : TableFeatures) (localtime : Int → Tm) (bytesAt : Nat → Nat) (data : DumploadData) : Prop :=
  ∃ data', createDumploadDataFromGPtrArray tableFeatures (convertDumploadDataToStringArray localtime bytesAt data) =
    .ok (none, some data') ∧ SameDump data data'

def TextKept (s : List Byte) : Prop := s ≠ [] ∧ s.head? ≠ some blank

def VersionKept (v : VersionSpec) : Prop := v ≠ vspecUnknown ∧ ¬ (v.major > 3 ∨ v.minor > 2)

def ValueKept (isTable : Byte → Bool) (valrec : AnyVcpValue) : Prop :=
  (∃ mh ml sh sl, valrec.val = .cNc mh ml sh sl) ∧ isTable valrec.opcode = false

structure DumpKept (tableFeatures : TableFeatures) (data : DumploadData) : Prop where
  model : TextKept data.model
  serialAscii : TextKept data.serialAscii
  vcpVersion : VersionKept data.vcpVersion
  vcpValues : ∀ valrec ∈ data.vcpValues, ValueKept (data.isTableFeature tableFeatures) valrec

/-! ## Turns of the loop -/

section Turns

variable {tableFeatures : TableFeatures} {r : Reading} {line : List Byte}

theorem readTurn_store {data : DumploadData} (h : readLine tableFeatures r.data (r.linectr + 1) line = .store data) :
    readTurn tableFeatures r line = ⟨r.linectr + 1, data, r.causes, r.validData⟩ := by
  unfold readTurn
  dsimp only
  rw [h]

theorem readTurn_skip (h : readLine tableFeatures r.data (r.linectr + 1) line = .skip) :
    readTurn tableFeatures r line = ⟨r.linectr + 1, r.data, r.causes, r.validData⟩ := by
  unfold readTurn
  dsimp only
  rw [h]

theorem readTurn_badData {data : DumploadData} {cause : ErrorInfo}
    (h : readLine tableFeatures r.data (r.linectr + 1) line = .badData cause data) :
    readTurn tableFeatures r line = ⟨r.linectr + 1, data, r.causes ++ [cause], false⟩ := by
  unfold readTurn
  dsimp only
  rw [h]

theorem causes_foldl (lines : List (List Byte)) (r : Reading) :
    ∃ causes, (lines.foldl (readTurn tableFeatures) r).causes = r.causes ++ causes := by
  induction lines generalizing r with
  | nil => exact ⟨[], (append_nil _).symm⟩
  | cons line lines ih =>
    obtain ⟨causes, h⟩ := ih (readTurn tableFeatures r line)
    rw [readTurn_eq] at h
    rw [foldl_cons, readTurn_eq, h]; exact ⟨_, append_assoc ..⟩

theorem causes_of_foldl {lines : List (List Byte)} (h : (lines.foldl (readTurn tableFeatures) r).causes = []) :
    r.causes = [] := by
  obtain ⟨causes, heq⟩ : ∃ causes, (lines.foldl (readTurn tableFeatures) r).causes = r.causes ++ causes :=
    causes_foldl lines r
  rw [heq] at h; exact (append_eq_nil_iff.1 h).1

theorem causes_ne_nil_of_mem {lines : List (List Byte)} (hline : line ∈ lines)
    (hbad : ∀ data linectr, ∃ cause data', readLine tableFeatures data linectr line = .badData cause data') :
    (lines.foldl (readTurn tableFeatures) r).causes ≠ [] := by
  obtain ⟨front, behind, rfl⟩ := append_of_mem hline
  rw [foldl_append, foldl_cons]
  intro h
  obtain ⟨cause, data', hread⟩ := hbad (front.foldl (readTurn tableFeatures) r).data
    ((front.foldl (readTurn tableFeatures) r).linectr + 1)
  have hnone := causes_of_foldl h
  rw [readTurn_badData hread] at hnone
  exact append_ne_nil_of_right_ne_nil _ (cons_ne_nil cause []) hnone

end Turns

/-! ## The identification -/

structure FromDisplay (data : DumploadData) : Prop where
  mfgId : data.mfgId.length = 3 ∧ ∀ c ∈ data.mfgId, isspace c = false
  productCode : data.productCode < 0x10000
  model : DescriptorText data.model
  serialAscii : DescriptorText data.serialAscii
  edidbytes : data.edidbytes.length = 128
  edidstr : data.edidstr = hexstring2 data.edidbytes

theorem fromDisplay_of_edid {edidbytes : EdidBlock} {edid : ParsedEdid} (h : createParsedEdid edidbytes = some edid)
    (vcpVersion : VersionSpec) (vset : List AnyVcpValue) (now : Int) :
    FromDisplay (dumpvcpAsDumploadData edid vcpVersion vset now) := by
  obtain ⟨hbytes, hmfg, hcode, hmodel, hserial⟩ := createParsedEdid_eq_some h
  exact ⟨hmfg, hcode, hmodel, hserial, edid.bytes.size, rfl⟩

def headerLines (localtime : Int → Tm) (data : DumploadData) : List (List Byte) :=
  [ascii "TIMESTAMP_TEXT " ++ formatTimestamp (localtime data.timestampMillis), ascii "MFG_ID  " ++ data.mfgId,
      ascii "MODEL   " ++ data.model, ascii "PRODUCT_CODE  " ++ decimal data.productCode,
      ascii "SN      " ++ data.serialAscii, ascii "EDID    " ++ hexstring2 data.edidbytes] ++ versionLines data.vcpVersion

/-- The data behind the lines of the identification: blanks in front of a text are gone, and no version is 2.0. -/
def headerData (data : DumploadData) : DumploadData :=
  { dumploadDefaults with
    mfgId := data.mfgId
    model := data.model.dropWhile (· == blank)
    productCode := data.productCode
    serialAscii := data.serialAscii.dropWhile (· == blank)
    edidstr := hexstring2 data.edidbytes
    vcpVersion := if data.vcpVersion = vspecUnknown then ⟨2, 0⟩ else data.vcpVersion }

section Header

variable (tableFeatures : TableFeatures) (localtime : Int → Tm) {data : DumploadData}

theorem header_read (hdisplay : FromDisplay data) (hmodel : data.model ≠ []) (hserial : data.serialAscii ≠ [])
    (hversion : ¬ (data.vcpVersion.major > 3 ∨ data.vcpVersion.minor > 2)) :
    (headerLines localtime data).foldl (readTurn tableFeatures) startReading =
      ⟨(headerLines localtime data).length, headerData data, [], true⟩ := by
  have hlines : ∀ lines, [ascii "TIMESTAMP_TEXT " ++ formatTimestamp (localtime data.timestampMillis),
      ascii "MFG_ID  " ++ data.mfgId, ascii "MODEL   " ++ data.model, ascii "PRODUCT_CODE  " ++ decimal data.productCode,
      ascii "SN      " ++ data.serialAscii, ascii "EDID    " ++ hexstring2 data.edidbytes] ++ lines =
        (ascii "TIMESTAMP_TEXT " ++ formatTimestamp (localtime data.timestampMillis)) ::
          (ascii "MFG_ID  " ++ data.mfgId) :: (ascii "MODEL   " ++ data.model) ::
          (ascii "PRODUCT_CODE  " ++ decimal data.productCode) :: (ascii "SN      " ++ data.serialAscii) ::
          (ascii "EDID    " ++ hexstring2 data.edidbytes) :: lines := fun _ => rfl
  unfold headerLines
  rw [hlines, foldl_cons, readTurn_skip (readLine_timestamp tableFeatures _ _ _), foldl_cons,
    readTurn_store (readLine_mfgId tableFeatures _ _ hdisplay.mfgId.1 hdisplay.mfgId.2), foldl_cons,
    readTurn_store (readLine_model tableFeatures _ _ hdisplay.model hmodel), foldl_cons,
    readTurn_store (readLine_productCode tableFeatures _ _ hdisplay.productCode), foldl_cons,
    readTurn_store (readLine_serialAscii tableFeatures _ _ hdisplay.serialAscii hserial), foldl_cons,
    readTurn_store (readLine_edid tableFeatures _ _ hdisplay.edidbytes)]
  unfold versionLines headerData
  by_cases hunknown : data.vcpVersion = vspecUnknown
  · rw [if_pos hunknown, if_pos hunknown]; rfl
  · rw [if_neg hunknown, if_neg hunknown, foldl_cons, foldl_nil]
    rw [readTurn_store]
    · rfl
    · dsimp only
      have hline := readLine_version tableFeatures
        { dumploadDefaults with
          mfgId := data.mfgId
          model := data.model.dropWhile (· == blank)
          productCode := data.productCode
          serialAscii := data.serialAscii.dropWhile (· == blank)
          edidstr := hexstring2 data.edidbytes } (startReading.linectr + 1 + 1 + 1 + 1 + 1 + 1 + 1) data.vcpVersion
      rw [if_neg hversion] at hline
      dsimp only at hline
      rw [if_neg hunknown] at hline; exact hline

theorem header_clean (h : ((headerLines localtime data).foldl (readTurn tableFeatures) startReading).causes = []) :
    data.model ≠ [] ∧ data.serialAscii ≠ [] ∧ ¬ (data.vcpVersion.major > 3 ∨ data.vcpVersion.minor > 2) := by
  refine ⟨fun hmodel => ?_, fun hserial => ?_, fun hversion => ?_⟩
  · have hmem : ascii "MODEL   " ++ [] ∈ headerLines localtime data := by
      rw [← hmodel]
      simp [headerLines]
    exact causes_ne_nil_of_mem hmem (fun data' linectr => ⟨_, _, readLine_model_empty tableFeatures data' linectr⟩) h
  · have hmem : ascii "SN      " ++ [] ∈ headerLines localtime data := by
      rw [← hserial]
      simp [headerLines]
    exact causes_ne_nil_of_mem hmem
      (fun data' linectr => ⟨_, _, readLine_serialAscii_empty tableFeatures data' linectr⟩) h
  · have hknown : data.vcpVersion ≠ vspecUnknown := by
      intro hunknown
      rw [hunknown] at hversion; exact absurd hversion (by decide)
    have hmem : ascii "VCP_VERSION " ++
        (decimal data.vcpVersion.major.toNat ++ 0x2e :: decimal data.vcpVersion.minor.toNat) ∈
          headerLines localtime data := by
      rw [headerLines, versionLines, if_neg hknown]; exact mem_append_right _ mem_cons_self
    refine causes_ne_nil_of_mem hmem (fun data' linectr => ?_) h
    have hline := readLine_version tableFeatures data' linectr data.vcpVersion
    rw [if_pos hversion] at hline; exact ⟨_, _, hline⟩

end Header

/-! ## The values -/

section Values

variable {tableFeatures : TableFeatures} {isTable : Byte → Bool}

def readPair (isTable : Byte → Bool) (p : Byte × Nat) : Option AnyVcpValue :=
  vcpTaken isTable (hexByte true p.1) (some (decimal p.2))

variable {r : Reading} {p : Byte × Nat} {vset : List AnyVcpValue}

theorem readTurn_vcp (hp : p.2 < 0x10000) {v : AnyVcpValue}
    (h : readPair (r.data.isTableFeature tableFeatures) p = some v) :
    readTurn tableFeatures r (vcpLine p.1 p.2) =
      ⟨r.linectr + 1, { r.data with vcpValueCt := r.data.vcpValueCt + 1, vcpValues := r.data.vcpValues ++ [v] },
        r.causes, r.validData⟩ := by
  apply readTurn_store
  rw [readLine_vcp tableFeatures _ _ hp]; exact readVcpLine_of_taken h

theorem readTurn_vcp_none (hp : p.2 < 0x10000) (h : readPair (r.data.isTableFeature tableFeatures) p = none) :
    (readTurn tableFeatures r (vcpLine p.1 p.2)).causes ≠ [] := by
  obtain ⟨expl, hread⟩ : ∃ expl, readVcpLine tableFeatures r.data (r.linectr + 1) (trimEnd (vcpLine p.1 p.2))
      (hexByte true p.1) (some (decimal p.2)) =
        dataError expl (r.linectr + 1) (trimEnd (vcpLine p.1 p.2)) r.data := readVcpLine_of_not_taken h
  rw [readTurn_badData ((readLine_vcp tableFeatures _ _ hp p.1).trans hread)]
  exact append_ne_nil_of_right_ne_nil _ (cons_ne_nil _ [])

theorem values_read {pairs : List (Byte × Nat)} (hpairs : ∀ p ∈ pairs, p.2 < 0x10000)
    (htable : r.data.isTableFeature tableFeatures = isTable) {vs : List AnyVcpValue}
    (h : pairs.map (readPair isTable) = vs.map some) :
    (pairs.map fun p => vcpLine p.1 p.2).foldl (readTurn tableFeatures) r =
      ⟨r.linectr + vs.length,
        { r.data with vcpValueCt := r.data.vcpValueCt + vs.length, vcpValues := r.data.vcpValues ++ vs },
        r.causes, r.validData⟩ := by
  induction pairs generalizing r vs with
  | nil =>
    cases vs with
    | nil =>
      rw [append_nil]; rfl
    | cons v vs => cases h
  | cons p pairs ih =>
    cases vs with
    | nil => cases h
    | cons v vs =>
      rw [map_cons, map_cons, List.cons.injEq] at h
      have hread : readPair (r.data.isTableFeature tableFeatures) p = some v := htable ▸ h.1
      have hturn := readTurn_vcp (hpairs p mem_cons_self) hread
      have htable' : (readTurn tableFeatures r (vcpLine p.1 p.2)).data.isTableFeature tableFeatures = isTable := by
        rw [hturn]; exact htable
      rw [map_cons, foldl_cons, ih (fun q hq => hpairs q (mem_cons_of_mem p hq)) htable' h.2, hturn]
      simp only [length_cons, append_assoc, cons_append, nil_append, Nat.add_assoc,
        Nat.add_comm 1]

theorem values_clean {pairs : List (Byte × Nat)} (hpairs : ∀ p ∈ pairs, p.2 < 0x10000)
    (htable : r.data.isTableFeature tableFeatures = isTable)
    (h : ((pairs.map fun p => vcpLine p.1 p.2).foldl (readTurn tableFeatures) r).causes = []) :
    ∃ vs : List AnyVcpValue, pairs.map (readPair isTable) = vs.map some := by
  induction pairs generalizing r with
  | nil => exact ⟨[], rfl⟩
  | cons p pairs ih =>
    rw [map_cons, foldl_cons] at h
    have hp := hpairs p mem_cons_self
    cases hread : readPair (r.data.isTableFeature tableFeatures) p with
    | none => exact absurd (causes_of_foldl h) (readTurn_vcp_none hp hread)
    | some v =>
      have htable' : (readTurn tableFeatures r (vcpLine p.1 p.2)).data.isTableFeature tableFeatures = isTable := by
        rw [readTurn_vcp hp hread]; exact htable
      obtain ⟨vs, hvs⟩ := ih (fun q hq => hpairs q (mem_cons_of_mem p hq)) htable' h
      refine ⟨v :: vs, ?_⟩
      rw [map_cons, map_cons, hvs, ← htable, hread]

theorem valrecCurVal_lt (bytes : Nat) (valrec : AnyVcpValue) : valrecCurVal bytes valrec < 0x10000 := by
  unfold valrecCurVal
  cases valrec.val with
  | cNc mh ml sh sl =>
    have hsh := sh.toNat_lt
    have hsl := sl.toNat_lt
    dsimp only; omega
  | t bytes' =>
    dsimp only; omega

theorem hhsToByteInBuf_hexByte (b : Byte) : hhsToByteInBuf (hexByte true b) = some b := by
  have hplain : ∀ c ∈ hexByte true b, c ≠ 0 := by
    intro c hc
    obtain ⟨n, hn⟩ := mem_hexByte hc
    exact ne_of_digitVal hn (by decide)
  have hread := hhcToByteInBuf_hexByte true b
  change hhsToByteInBuf (cstr (hexByte true b)) = some b at hread
  rwa [cstr_eq hplain] at hread

theorem readPair_eq (hp : p.2 < 0x10000) :
    readPair isTable p =
      if isTable p.1 then (hhsToByteArray (decimal p.2)).map (createTableVcpValueByBytes p.1)
      else some (createContVcpValue p.1 0 p.2) := by
  rw [readPair, vcpTaken, Option.bind_eq_bind, Option.bind_some, hhsToByteInBuf_hexByte]
  change (readFeatureValue (isTable p.1) p.1 (decimal p.2)).toOption = _
  unfold readFeatureValue
  cases htable : isTable p.1 with
  | true =>
    cases hhsToByteArray (decimal p.2) with
    | none | some bytes => rfl
  | false =>
    rw [if_neg (by decide), if_neg (by decide), scanHu_of_number16 (number16_decimal hp)]; rfl

theorem featureValue_createCont {n : Nat} (h : n < 0x10000) (opcode : Byte) :
    featureValue (createContVcpValue opcode 0 n) = (opcode, .inl n) := by
  unfold featureValue createContVcpValue
  dsimp only
  rw [UInt8.toNat_ofNat', UInt8.toNat_ofNat']
  have : n / 256 % 2 ^ 8 * 256 + n % 256 % 2 ^ 8 = n := by omega
  rw [this]

theorem readPair_kept {valrec : AnyVcpValue} (h : ValueKept isTable valrec) (bytes : Nat) :
    ∃ v, readPair isTable (valrec.opcode, valrecCurVal bytes valrec) = some v ∧ featureValue v = featureValue valrec := by
  obtain ⟨⟨mh, ml, sh, sl, hval⟩, htable⟩ := h
  have hlt := valrecCurVal_lt bytes valrec
  refine ⟨createContVcpValue valrec.opcode 0 (valrecCurVal bytes valrec), ?_, ?_⟩
  · rw [readPair_eq hlt, htable, if_neg (by decide)]
  · rw [featureValue_createCont hlt]
    rw [featureValue, valrecCurVal, hval]

theorem kept_of_readPair {valrec v : AnyVcpValue} (h : readPair isTable (valrec.opcode, valrecCurVal 0 valrec) = some v)
    (hsame : featureValue v = featureValue valrec) : ValueKept isTable valrec := by
  have hlt := valrecCurVal_lt 0 valrec
  rw [readPair_eq hlt] at h
  cases htable : isTable valrec.opcode with
  | false =>
    rw [htable, if_neg (by decide)] at h
    cases h
    unfold featureValue at hsame
    cases hval : valrec.val with
    | cNc mh ml sh sl => exact ⟨⟨mh, ml, sh, sl, hval⟩, htable⟩
    | t bytes =>
      rw [hval] at hsame; cases hsame
  | true =>
    rw [htable, if_pos rfl] at h
    obtain ⟨bytes, hbytes, rfl⟩ := Option.map_eq_some_iff.1 h
    cases hval : valrec.val with
    | cNc mh ml sh sl =>
      unfold featureValue at hsame
      rw [hval] at hsame; cases hsame
    | t bytes' =>
      have hnone : hhsToByteArray (decimal ((0 : Nat) : Int)) = none := by decide
      unfold valrecCurVal at hbytes
      rw [hval] at hbytes; exact absurd (hnone.symm.trans hbytes) (by simp)

def pairOf (valrec : AnyVcpValue) : Byte × Nat := (valrec.opcode, valrecCurVal 0 valrec)

theorem printedValues_eq {bytesAt : Nat → Nat}
    (h : ∀ ndx, ∀ valrec ∈ vset, valrecCurVal (bytesAt ndx) valrec = valrecCurVal 0 valrec) :
    printedValues bytesAt vset = vset.map pairOf := by
  unfold printedValues
  apply ext_getElem
  · rw [length_mapIdx, length_map]
  · intro i h1 h2
    rw [getElem_mapIdx, getElem_map, h i _ (getElem_mem _)]; rfl

theorem pairOf_lt : ∀ p ∈ vset.map pairOf, p.2 < 0x10000 := by
  intro p hp
  obtain ⟨valrec, -, rfl⟩ := mem_map.1 hp
  exact valrecCurVal_lt 0 valrec

theorem values_kept (h : ∀ valrec ∈ vset, ValueKept isTable valrec) :
    ∃ vs : List AnyVcpValue, (vset.map pairOf).map (readPair isTable) = vs.map some ∧
      vs.map featureValue = vset.map featureValue := by
  induction vset with
  | nil => exact ⟨[], rfl, rfl⟩
  | cons valrec vset ih =>
    obtain ⟨v, hread, hsame⟩ := readPair_kept (h valrec mem_cons_self) 0
    obtain ⟨vs, hvs, hsames⟩ := ih fun v hv => h v (mem_cons_of_mem valrec hv)
    refine ⟨v :: vs, ?_, ?_⟩
    · rw [map_cons, map_cons, map_cons, hvs]; exact congrArg (· :: _) hread
    · rw [map_cons, map_cons, hsame, hsames]

theorem kept_of_values {vs : List AnyVcpValue} (h : (vset.map pairOf).map (readPair isTable) = vs.map some)
    (hsame : vs.map featureValue = vset.map featureValue) : ∀ valrec ∈ vset, ValueKept isTable valrec := by
  induction vset generalizing vs with
  | nil => exact fun _ hv => nomatch hv
  | cons valrec vset ih =>
    cases vs with
    | nil => cases h
    | cons v vs =>
      rw [map_cons, map_cons, map_cons, List.cons.injEq] at h
      rw [map_cons, map_cons, List.cons.injEq] at hsame
      intro valrec' hmem
      rcases mem_cons.1 hmem with rfl | hmem
      · exact kept_of_readPair h.1 hsame.1
      · exact ih h.2 hsame.2 valrec' hmem

end Values

/-! ## The whole dump -/

theorem dropWhile_blank_eq_self {s : List Byte} (h : s.head? ≠ some blank) : s.dropWhile (· == blank) = s := by
  cases s with
  | nil => rfl
  | cons c s => exact dropWhile_cons_of_neg fun hc => h (congrArg some (beq_iff_eq.1 hc))

theorem head_of_dropWhile_blank {s : List Byte} (h : s.dropWhile (· == blank) = s) : s.head? ≠ some blank := by
  intro hhead
  obtain ⟨t, rfl⟩ := head?_eq_some_iff.1 hhead
  have := head_of_dropWhile h
  exact absurd this (by decide)

theorem convert_eq (localtime : Int → Tm) (bytesAt : Nat → Nat) (data : DumploadData) :
    convertDumploadDataToStringArray localtime bytesAt data =
      headerLines localtime data ++ (printedValues bytesAt data.vcpValues).map fun p => vcpLine p.1 p.2 :=
  (append_assoc ..).symm

section RoundTrip

variable {tableFeatures : TableFeatures} {localtime : Int → Tm} {data : DumploadData}

theorem isTableFeature_headerData (hmodel : data.model.head? ≠ some blank) (hversion : data.vcpVersion ≠ vspecUnknown) :
    (headerData data).isTableFeature tableFeatures = data.isTableFeature tableFeatures := by
  unfold DumploadData.isTableFeature headerData
  rw [dropWhile_blank_eq_self hmodel, if_neg hversion]

def readBack (data : DumploadData) (vs : List AnyVcpValue) : DumploadData :=
  { headerData data with
    vcpValueCt := (headerData data).vcpValueCt + vs.length
    vcpValues := (headerData data).vcpValues ++ vs }

theorem readLines_dump (hdisplay : FromDisplay data) (hmodel : data.model ≠ []) (hserial : data.serialAscii ≠ [])
    (hversion : ¬ (data.vcpVersion.major > 3 ∨ data.vcpVersion.minor > 2)) {bytesAt : Nat → Nat}
    (hprinted : printedValues bytesAt data.vcpValues = data.vcpValues.map pairOf) {vs : List AnyVcpValue}
    (hvs : (data.vcpValues.map pairOf).map (readPair ((headerData data).isTableFeature tableFeatures)) = vs.map some) :
    readLines tableFeatures (convertDumploadDataToStringArray localtime bytesAt data) =
      ⟨(headerLines localtime data).length + vs.length, readBack data vs, [], true⟩ := by
  rw [convert_eq, hprinted]
  rw [readLines, foldl_append, header_read tableFeatures localtime hdisplay hmodel hserial hversion]
  exact values_read pairOf_lt rfl hvs

theorem dumpReadsBack_of_kept (hdisplay : FromDisplay data) (hkept : DumpKept tableFeatures data)
    (bytesAt : Nat → Nat) : DumpReadsBack tableFeatures localtime bytesAt data := by
  obtain ⟨vs, hvs, hsame⟩ := values_kept hkept.vcpValues
  have hprinted : printedValues bytesAt data.vcpValues = data.vcpValues.map pairOf := by
    apply printedValues_eq
    intro ndx valrec hvalrec
    obtain ⟨⟨mh, ml, sh, sl, hval⟩, -⟩ := hkept.vcpValues valrec hvalrec
    unfold valrecCurVal
    rw [hval]
  rw [← isTableFeature_headerData hkept.model.2 hkept.vcpVersion.1] at hvs
  have hread : readLines tableFeatures (convertDumploadDataToStringArray localtime bytesAt data) = _ :=
    readLines_dump hdisplay hkept.model.1 hkept.serialAscii.1 hkept.vcpVersion.2 hprinted hvs
  refine ⟨readBack data vs, ?_, ?_⟩
  · rw [createDumploadDataFromGPtrArray, hread]; rfl
  · exact {
      mfgId := rfl
      model := dropWhile_blank_eq_self hkept.model.2
      serialAscii := dropWhile_blank_eq_self hkept.serialAscii.2
      productCode := rfl
      edidstr := hdisplay.edidstr.symm
      vcpVersion := if_neg hkept.vcpVersion.1
      vcpValues := hsame }

theorem kept_of_dumpReadsBack (hdisplay : FromDisplay data)
    (h : DumpReadsBack tableFeatures localtime (fun _ => 0) data) : DumpKept tableFeatures data := by
  obtain ⟨data', hcreate, hsame⟩ := h
  have hresult := readLines_of_create hcreate
  have hprinted : printedValues (fun _ => 0) data.vcpValues = data.vcpValues.map pairOf :=
    printedValues_eq fun _ _ _ => rfl
  split_ifs at hresult with hcauses
  swap
  · cases hresult
  have hclean := eq_nil_of_length_eq_zero hcauses
  rw [convert_eq, hprinted, readLines, foldl_append] at hclean
  obtain ⟨hmodel, hserial, hversion⟩ := header_clean tableFeatures localtime (causes_of_foldl hclean)
  rw [header_read tableFeatures localtime hdisplay hmodel hserial hversion] at hclean
  obtain ⟨vs, hvs⟩ := values_clean pairOf_lt rfl hclean
  have hread : readLines tableFeatures (convertDumploadDataToStringArray localtime (fun _ => 0) data) = _ :=
    readLines_dump hdisplay hmodel hserial hversion hprinted hvs
  rw [hread] at hresult
  cases hresult
  have hhead : data.model.head? ≠ some blank := head_of_dropWhile_blank hsame.model
  have hknown : data.vcpVersion ≠ vspecUnknown := by
    intro hunknown
    have hv := hsame.vcpVersion
    change (if data.vcpVersion = vspecUnknown then (⟨2, 0⟩ : VersionSpec) else data.vcpVersion) = data.vcpVersion at hv
    rw [if_pos hunknown, hunknown] at hv; exact absurd hv (by decide)
  rw [isTableFeature_headerData hhead hknown] at hvs
  exact ⟨⟨hmodel, hhead⟩, ⟨hserial, head_of_dropWhile_blank hsame.serialAscii⟩, ⟨hknown, hversion⟩,
    kept_of_values hvs hsame.vcpValues⟩

end RoundTrip

/-- **The round trip of a dump**: wherever the bytes of table values are, the lines written for a display are read back
as the same dump, if and only if its texts, its version and its values are of the kind that survives. -/
theorem dumpReadsBack_iff {edidbytes : EdidBlock} {edid : ParsedEdid} (h : createParsedEdid edidbytes = some edid)
    (tableFeatures : TableFeatures) (localtime : Int → Tm) (vcpVersion : VersionSpec) (vset : List AnyVcpValue)
    (now : Int) :
    (∀ bytesAt, DumpReadsBack tableFeatures localtime bytesAt (dumpvcpAsDumploadData edid vcpVersion vset now)) ↔
      DumpKept tableFeatures (dumpvcpAsDumploadData edid vcpVersion vset now) := by
  have hdisplay := fromDisplay_of_edid h vcpVersion vset now
  exact ⟨fun hreads => kept_of_dumpReadsBack hdisplay (hreads fun _ => 0),
    fun hkept bytesAt => dumpReadsBack_of_kept hdisplay hkept bytesAt⟩

/-! ## Two displays -/

def edidHeader : List Byte := [0x00, 0xff, 0xff, 0xff, 0xff, 0xff, 0xff, 0x00]

def namedEdid : EdidBlock where
  bytes := edidHeader ++ [0x10, 0xac, 0x42, 0x41] ++ List.replicate 42 0 ++
    ([0, 0, 0, 0xfc, 0] ++ ascii "U2720Q" ++ [newline] ++ List.replicate 6 blank) ++
    ([0, 0, 0, 0xff, 0] ++ ascii "ABC123" ++ [newline] ++ List.replicate 6 blank) ++ List.replicate 37 0 ++ [0x6b]
  size := rfl

def bareEdid : EdidBlock where
  bytes := edidHeader ++ List.replicate 119 0 ++ [0x06]
  size := rfl

def namedParsedEdid : ParsedEdid := ⟨namedEdid, ascii "DEL", 0x4142, ascii "U2720Q", ascii "ABC123", []⟩

def bareParsedEdid : ParsedEdid := ⟨bareEdid, ascii "@@@", 0, [], [], []⟩

set_option maxRecDepth 4000 in
theorem createParsedEdid_named : createParsedEdid namedEdid = some namedParsedEdid := rfl

set_option maxRecDepth 4000 in
theorem createParsedEdid_bare : createParsedEdid bareEdid = some bareParsedEdid := rfl

theorem dumpReadsBack_named :
    DumpReadsBack (fun _ _ _ _ _ => false) (fun _ => ⟨126, 0, 2, 3, 4, 5⟩) (fun _ => 0)
      (dumpvcpAsDumploadData namedParsedEdid ⟨2, 1⟩ [⟨0x10, .cNc 0 100 0 50⟩, ⟨0x12, .cNc 0 100 1 44⟩] 0) := by
  refine (dumpReadsBack_iff createParsedEdid_named _ _ _ _ _).2 ?_ fun _ => 0
  refine ⟨⟨by decide, by decide⟩, ⟨by decide, by decide⟩, ⟨by decide, by decide⟩, fun valrec hvalrec => ?_⟩
  change valrec ∈ [(⟨0x10, .cNc 0 100 0 50⟩ : AnyVcpValue), ⟨0x12, .cNc 0 100 1 44⟩] at hvalrec
  simp only [mem_cons, not_mem_nil, or_false] at hvalrec
  rcases hvalrec with rfl | rfl
  · exact ⟨⟨_, _, _, _, rfl⟩, rfl⟩
  · exact ⟨⟨_, _, _, _, rfl⟩, rfl⟩

/-- Without a descriptor for the model the line `MODEL` has no value, and the reader rejects it. -/
theorem bareEdid_not_readBack :
    createParsedEdid bareEdid = some bareParsedEdid ∧
      ¬ DumpReadsBack (fun _ _ _ _ _ => false) (fun _ => ⟨126, 0, 2, 3, 4, 5⟩) (fun _ => 0)
        (dumpvcpAsDumploadData bareParsedEdid ⟨2, 1⟩ [] 0) := by
  refine ⟨createParsedEdid_bare, fun hreads => ?_⟩
  have hkept := kept_of_dumpReadsBack (fromDisplay_of_edid createParsedEdid_bare ⟨2, 1⟩ [] 0) hreads
  exact hkept.model.1 rfl

end Ddc
