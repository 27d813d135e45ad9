import Ddcutil.CapabilitiesCacheRuns
import Ddcutil.DetectedDisplays
import Ddcutil.DisplaysCache
/-!
# DisplaysCacheRuns — which references come back, and which texts can be restored

The writer leaves out a string that is not UTF-8 and follows `actual_display` of every phantom; the reader asserts
what it expects of an EDID and of a model key, where it might have skipped the record.
-/
namespace Ddc

open Kit List Exec

def CachedRef.actualPath (dref : CachedRef) : Option DpathNumbers := dref.actualDisplay.or dref.actualDisplayPath

/-- **What a restored reference has in common** with the one that was stored. -/
structure SameRef (dref restored : CachedRef) : Prop where
  ioPath : restored.ioPath = dref.ioPath
  flags : restored.flags = dref.flags
  vcpVersionXdf : restored.vcpVersionXdf = dref.vcpVersionXdf
  vcpVersionCmdline : restored.vcpVersionCmdline = dref.vcpVersionCmdline
  edidBytes : restored.pedid.map (·.edid.bytes) = dref.pedid.map (·.edid.bytes)
  mmid : restored.mmid = dref.mmid
  capabilitiesString : restored.capabilitiesString = dref.capabilitiesString
  dispno : restored.dispno = dref.dispno
  actualPath : restored.actualPath = dref.actualPath

def DisplaysComeBack (dumps : Json → List Byte) (loads : List Byte → Option Json) (allDisplays : List CachedRef) : Prop :=
  ∃ jstring restored, ddcSerializeDisplaysAndBuses dumps allDisplays = .ok jstring ∧
    ddcDeserializeDisplaysOrBuses loads jstring .display = .ok restored ∧
      List.Forall₂ SameRef (allDisplays.filter CachedRef.isWorking) restored

/-- **A reference that comes back as it was**: it has an EDID and a model key, its strings are UTF-8, a phantom points to
the display that it is a phantom of, and no other reference keeps such a display. -/
structure Storable (dref : CachedRef) : Prop where
  pedid : ∃ pedid, dref.pedid = some pedid ∧ IsUtf8 pedid.edidSource.val
  mmid : ∃ mmk, dref.mmid = some mmk ∧ IsUtf8 mmk.mfgId
  capabilitiesString : ∀ s, dref.capabilitiesString = some s → IsUtf8 s.val
  phantom : dref.dispno = -2 → dref.actualDisplay ≠ none
  noPhantom : dref.dispno ≠ -2 → dref.actualPath = none

def RestorableEdid (jpath : Option Json) : Prop :=
  ∀ sbytes, Json.stringValue (Json.get jpath "bytes") = some sbytes → sbytes.val.length = 256 ∧
    ∃ edidbytes : EdidBlock, hhsToByteArray sbytes.val = some edidbytes.bytes ∧ (createParsedEdid edidbytes ≠ none →
      ∃ source, Json.stringValue (Json.get jpath "edid_source") = some source ∧
        source.val.length < edidSourceFieldSize)

def RestorableMmid (jpath : Option Json) : Prop :=
  ∃ mfgId modelName, Json.stringValue (Json.get jpath "mfg_id") = some mfgId ∧
    Json.stringValue (Json.get jpath "model_name") = some modelName ∧ mfgId.val.length < edidMfgIdFieldSize ∧
      modelName.val.length < edidModelNameFieldSize

structure RestorableNode (node : Json) : Prop where
  pedid : RestorableEdid (Json.get node "pedid")
  mmid : RestorableMmid (Json.get node "mmid")

/-- **A text that can be restored**: where it is an object with a version, that is 1, and each record of its displays, up
to the first that is no object, can be restored. -/
def RestorableText (loads : List Byte → Option Json) (jstring : List Byte) : Prop :=
  ∀ members version, loads jstring = some (.object members) → members.lookup "version" = some (.integer version) →
    Int32.ofInt version = 1 ∧ ∀ dispNodes, members.lookup "all_displays" = some (.array dispNodes) →
      ∀ node ∈ dispNodes.takeWhile Json.isObject, RestorableNode node

/-! ## Numbers, versions and strings -/

theorem uint8_ofInt_toNat (n : UInt8) : UInt8.ofInt (n.toNat : Int) = n := by
  rw [ofInt_natCast, UInt8.ofNat_toNat]

theorem uint16_ofInt_toNat (n : UInt16) : UInt16.ofInt (n.toNat : Int) = n := by
  have hlt := n.toNat_lt
  have hmod : ((n.toNat : Int) % 2 ^ 16).toNat = n.toNat := by omega
  rw [UInt16.ofInt, hmod, UInt16.ofNat_toNat]

theorem uint32_ofInt_toNat (n : UInt32) : UInt32.ofInt (n.toNat : Int) = n := by
  have hlt := n.toNat_lt
  have hmod : ((n.toNat : Int) % 2 ^ 32).toNat = n.toNat := by omega
  rw [UInt32.ofInt, hmod, UInt32.ofNat_toNat]

theorem dpathKeys_nodup : ["io_mode", "busno_or_hiddev"].Nodup := by decide

theorem vspecKeys_nodup : ["major", "minor"].Nodup := by decide

theorem edidKeys_nodup : ["bytes", "edid_source"].Nodup := by decide

theorem mmkKeys_nodup : ["mfg_id", "model_name", "product_code"].Nodup := by decide

theorem displayKeys_nodup : ["io_path", "usb_bus", "usb_device", "usb_hiddev_name", "vcp_version_xdf",
    "vcp_version_cmdline", "flags", "capabilities_string", "pedid", "dispno", "mmid", "actual_display_path"].Nodup := by
  decide

theorem deserializeDpath_serializeDpath (iopath : DpathNumbers) :
    deserializeDpath (some (serializeDpath iopath)) = iopath := by
  have hmode : Json.get (some (serializeDpath iopath)) "io_mode" = some (.integer iopath.ioMode.toNat) :=
    Json.get_build (i := 0) dpathKeys_nodup rfl
  have hbusno : Json.get (some (serializeDpath iopath)) "busno_or_hiddev" = some (.integer iopath.busnoOrHiddev.toInt) :=
    Json.get_build (i := 1) dpathKeys_nodup rfl
  rw [deserializeDpath, hmode, hbusno, Json.integerValue, Json.integerValue, uint32_ofInt_toNat, Int32.ofInt_toInt]

theorem deserializeVspec_serializeVspec (vspec : VersionSpec) :
    deserializeVspec (some (serializeVspec vspec)) = vspec := by
  have hmajor : Json.get (some (serializeVspec vspec)) "major" = some (.integer vspec.major.toNat) :=
    Json.get_build (i := 0) vspecKeys_nodup rfl
  have hminor : Json.get (some (serializeVspec vspec)) "minor" = some (.integer vspec.minor.toNat) :=
    Json.get_build (i := 1) vspecKeys_nodup rfl
  rw [deserializeVspec, hmajor, hminor, Json.integerValue, Json.integerValue, uint8_ofInt_toNat, uint8_ofInt_toNat]

theorem isUtf8_fixup (name : List Byte) : IsUtf8 (fixupModelName name) := by
  refine isUtf8_of_ascii fun c hc => ?_
  rcases isalnum_or_underscore hc with hc | rfl
  · obtain ⟨n, hn⟩ := Option.isSome_iff_exists.1 hc
    exact lt_of_digitVal hn
  · decide

theorem isUtf8_hexstring2 (bytes : List Byte) : IsUtf8 (hexstring2 bytes) := by
  refine isUtf8_of_ascii fun c hc => ?_
  obtain ⟨n, hn⟩ := mem_hexstring2 hc
  exact lt_of_digitVal hn

/-! ## An EDID and a model key -/

theorem createParsedEdid2_none {edidbytes : EdidBlock} (h : createParsedEdid edidbytes = none) (source : Option CString) :
    createParsedEdid2 edidbytes source = .ok none := by
  unfold createParsedEdid2
  split
  · rfl
  · rename_i hsome
    cases h.symm.trans hsome

theorem createParsedEdid2_bytes {edid : ParsedEdid} (hparsed : createParsedEdid edid.bytes = some edid)
    (source : Option CString) : createParsedEdid2 edid.bytes source = match source with
      | none => .error .assertFailed
      | some source =>
        if hlt : source.val.length < edidSourceFieldSize then .ok (some ⟨edid, source, hparsed, hlt⟩)
        else .error .assertFailed := by
  unfold createParsedEdid2
  split
  · rename_i hnone
    cases hparsed.symm.trans hnone
  · rename_i edid hsome
    cases hparsed.symm.trans hsome
    rfl

theorem deserializeParsedEdid_edidNode (pedid : SourcedEdid) : deserializeParsedEdid (some (edidNode pedid)) =
    if IsUtf8 pedid.edidSource.val then .ok (some pedid) else .error .assertFailed := by
  have hnul : ∀ c ∈ hexstring2 pedid.edid.bytes.bytes, c ≠ 0 := by
    intro c hc
    obtain ⟨n, hn⟩ := mem_hexstring2 hc
    exact ne_of_digitVal hn (by decide)
  have hbytes : Json.stringValue (Json.get (some (edidNode pedid)) "bytes") = some ⟨_, hnul⟩ := by
    have hget : Json.get (some (edidNode pedid)) "bytes" = Json.ofText (hexstring2 pedid.edid.bytes.bytes) :=
      Json.get_build (i := 0) edidKeys_nodup rfl
    rw [hget]; exact (Json.stringValue_ofText ⟨_, hnul⟩).trans (if_pos (isUtf8_hexstring2 _))
  have hsource : Json.stringValue (Json.get (some (edidNode pedid)) "edid_source") =
      if IsUtf8 pedid.edidSource.val then some pedid.edidSource else none := by
    have hget : Json.get (some (edidNode pedid)) "edid_source" = Json.ofText pedid.edidSource.val :=
      Json.get_build (i := 1) edidKeys_nodup rfl
    rw [hget, Json.stringValue_ofText]
  have hlen : (hexstring2 pedid.edid.bytes.bytes).length = 256 := by
    rw [length_hexstring2, pedid.edid.bytes.size]
  rw [deserializeParsedEdid, hbytes, hsource]
  dsimp only
  rw [check_pos hlen, ok_bind, hhsToByteArray_hexstring2]
  dsimp only
  rw [dif_pos pedid.edid.bytes.size, createParsedEdid2_bytes]
  by_cases hutf8 : IsUtf8 pedid.edidSource.val
  · rw [if_pos hutf8, if_pos hutf8]; exact dif_pos pedid.edidSourceLt
  · rw [if_neg hutf8, if_neg hutf8]

theorem deserializeMmid_mmkNode (mmk : MonitorModelKey) : deserializeMmid (some (mmkNode mmk)) =
    if IsUtf8 mmk.mfgId then .ok mmk else .error .assertFailed := by
  have hmodelUtf8 : IsUtf8 mmk.modelName := mmk.modelNameFixed ▸ isUtf8_fixup mmk.modelName
  have hmodelString : ∀ c ∈ mmk.modelName, c ≠ 0 := by
    intro c hc
    rcases isalnum_or_underscore (mmk.modelNameFixed.symm ▸ hc) with hc | rfl
    · obtain ⟨n, hn⟩ := Option.isSome_iff_exists.1 hc
      exact ne_of_digitVal hn (by decide)
    · decide
  have hmfg : Json.stringValue (Json.get (some (mmkNode mmk)) "mfg_id") =
      if IsUtf8 mmk.mfgId then some ⟨mmk.mfgId, mmk.mfgIdString⟩ else none := by
    have hget : Json.get (some (mmkNode mmk)) "mfg_id" = Json.ofText mmk.mfgId :=
      Json.get_build (i := 0) mmkKeys_nodup rfl
    rw [hget]; exact Json.stringValue_ofText ⟨mmk.mfgId, mmk.mfgIdString⟩
  have hmodel : Json.stringValue (Json.get (some (mmkNode mmk)) "model_name") = some ⟨mmk.modelName, hmodelString⟩ := by
    have hget : Json.get (some (mmkNode mmk)) "model_name" = Json.ofText mmk.modelName :=
      Json.get_build (i := 1) mmkKeys_nodup rfl
    rw [hget]
    exact (Json.stringValue_ofText ⟨mmk.modelName, hmodelString⟩).trans (if_pos hmodelUtf8)
  have hproduct : Json.get (some (mmkNode mmk)) "product_code" = some (.integer mmk.productCode) :=
    Json.get_build (i := 2) mmkKeys_nodup rfl
  have hcode : (UInt16.ofInt (mmk.productCode : Int)).toNat = mmk.productCode := by
    have hlt := mmk.productCodeLt
    rw [UInt16.ofInt, UInt16.toNat_ofNat']; omega
  rw [deserializeMmid, hmfg, hmodel, hproduct, Json.integerValue]
  by_cases hutf8 : IsUtf8 mmk.mfgId
  · rw [if_pos hutf8, if_pos hutf8]
    have hlt : mmk.mfgId.length < edidMfgIdFieldSize ∧ mmk.modelName.length < edidModelNameFieldSize :=
      ⟨mmk.mfgIdLt, mmk.modelNameLt⟩
    refine (dif_pos hlt).trans (congrArg Except.ok ?_)
    obtain ⟨mfgId, modelName, productCode, hmfgLt, hmodelLt, hstring, hfixed, hcodeLt⟩ := mmk
    simp only [mmkValue, MonitorModelKey.mk.injEq, true_and]; exact ⟨hfixed, hcode⟩
  · rw [if_neg hutf8, if_neg hutf8]; rfl

/-! ## A reference -/

def restoredRef (dref : CachedRef) (pedid : SourcedEdid) (mmk : MonitorModelKey) (jactual : Option Json) : CachedRef where
  ioPath := dref.ioPath
  usbBus := dref.usbBus
  usbDevice := dref.usbDevice
  usbHiddevName := dref.usbHiddevName.filter fun s => IsUtf8 s.val
  vcpVersionXdf := dref.vcpVersionXdf
  vcpVersionCmdline := dref.vcpVersionCmdline
  flags := dref.flags
  capabilitiesString := dref.capabilitiesString.filter fun s => IsUtf8 s.val
  pedid := some pedid
  mmid := some mmk
  dispno := dref.dispno
  actualDisplay := none
  actualDisplayPath := jactual.map fun jpath => deserializeDpath (some jpath)

theorem stringValue_bind_ofText (s : Option CString) :
    Json.stringValue (s.bind fun s => Json.ofText s.val) = s.filter fun s => IsUtf8 s.val := by
  cases s with
  | none => rfl
  | some s =>
    rw [Option.bind_some, Json.stringValue_ofText, Option.filter_some]
    by_cases hutf8 : IsUtf8 s.val
    · rw [if_pos hutf8, if_pos (decide_eq_true hutf8)]
    · rw [if_neg hutf8, if_neg (by rw [decide_eq_true_iff]; exact hutf8)]

theorem deserializeOneDisplay_build (dref : CachedRef) (pedid : SourcedEdid) (mmk : MonitorModelKey)
    (jactual : Option Json) :
    deserializeOneDisplay (.build (displayMembers dref (edidNode pedid) (mmkNode mmk) jactual)) =
      if IsUtf8 pedid.edidSource.val ∧ IsUtf8 mmk.mfgId then .ok (restoredRef dref pedid mmk jactual)
      else .error .assertFailed := by
  have hget : ∀ {i : Nat} {key : String} {value : Option Json},
      (displayMembers dref (edidNode pedid) (mmkNode mmk) jactual)[i]? = some (key, value) →
      Json.get (some (.build (displayMembers dref (edidNode pedid) (mmkNode mmk) jactual))) key = value :=
    fun hmember => Json.get_build displayKeys_nodup hmember
  unfold deserializeOneDisplay
  rw [hget (i := 0) rfl, hget (i := 1) rfl, hget (i := 2) rfl, hget (i := 3) rfl, hget (i := 4) rfl, hget (i := 5) rfl,
    hget (i := 6) rfl, hget (i := 7) rfl, hget (i := 8) rfl, hget (i := 9) rfl, hget (i := 10) rfl, hget (i := 11) rfl,
    deserializeParsedEdid_edidNode, deserializeMmid_mmkNode]
  by_cases hsource : IsUtf8 pedid.edidSource.val
  · rw [if_pos hsource, ok_bind]
    by_cases hmfg : IsUtf8 mmk.mfgId
    · rw [if_pos hmfg, ok_bind, if_pos ⟨hsource, hmfg⟩, deserializeDpath_serializeDpath,
        stringValue_bind_ofText, stringValue_bind_ofText, deserializeVspec_serializeVspec,
        deserializeVspec_serializeVspec]
      simp only [Json.integerValue, Int32.ofInt_toInt, uint16_ofInt_toNat]; rfl
    · have hboth : ¬ (IsUtf8 pedid.edidSource.val ∧ IsUtf8 mmk.mfgId) := fun h => hmfg h.2
      rw [if_neg hmfg, if_neg hboth]; rfl
  · have hboth : ¬ (IsUtf8 pedid.edidSource.val ∧ IsUtf8 mmk.mfgId) := fun h => hsource h.1
    rw [if_neg hsource, if_neg hboth]; rfl

theorem serializeOneDisplay_eq_ok {dref : CachedRef} {node : Json} : serializeOneDisplay dref = .ok node ↔
    ∃ pedid mmk jactual, dref.pedid = some pedid ∧ dref.mmid = some mmk ∧ serializeActualDisplay dref = .ok jactual ∧
      node = .build (displayMembers dref (edidNode pedid) (mmkNode mmk) jactual) := by
  unfold serializeOneDisplay
  cases hpedid : dref.pedid with
  | none =>
    refine ⟨fun h => ?_, fun ⟨_, _, _, h, _⟩ => ?_⟩
    · cases h
    · cases h
  | some pedid =>
    cases hmmid : dref.mmid with
    | none =>
      refine ⟨fun h => ?_, fun ⟨_, _, _, _, h, _⟩ => ?_⟩
      · cases h
      · cases h
    | some mmk =>
      rw [serializeParsedEdid, ok_bind, serializeMmk, ok_bind, bind_eq_ok]
      constructor
      · rintro ⟨jactual, hactual, h⟩
        exact ⟨pedid, mmk, jactual, rfl, rfl, hactual, (Except.ok.inj h).symm⟩
      · rintro ⟨pedid', mmk', jactual, hpedid', hmmid', hactual, rfl⟩
        cases hpedid'
        cases hmmid'; exact ⟨jactual, hactual, rfl⟩

theorem serializeActualDisplay_eq_ok {dref : CachedRef} {jactual : Option Json} :
    serializeActualDisplay dref = .ok jactual ↔ if dref.dispno = -2 then
      ∃ iopath, dref.actualDisplay = some iopath ∧ jactual = some (serializeDpath iopath) else jactual = none := by
  unfold serializeActualDisplay
  by_cases hphantom : dref.dispno = -2
  · rw [if_pos hphantom, if_pos hphantom]
    cases dref.actualDisplay with
    | none =>
      refine ⟨fun h => ?_, fun ⟨_, h, _⟩ => ?_⟩
      · cases h
      · cases h
    | some iopath =>
      constructor
      · intro h; exact ⟨iopath, rfl, (Except.ok.inj h).symm⟩
      · rintro ⟨iopath', hiopath', rfl⟩
        cases hiopath'; rfl
  · rw [if_neg hphantom, if_neg hphantom]
    exact ⟨fun h => (Except.ok.inj h).symm, fun h => congrArg Except.ok h.symm⟩

theorem actualPath_restored_iff {dref : CachedRef} {jactual : Option Json}
    (h : serializeActualDisplay dref = .ok jactual) :
    jactual.map (fun jpath => deserializeDpath (some jpath)) = dref.actualPath ↔
      (dref.dispno ≠ -2 → dref.actualPath = none) := by
  rw [serializeActualDisplay_eq_ok] at h
  by_cases hphantom : dref.dispno = -2
  · rw [if_pos hphantom] at h
    obtain ⟨iopath, hiopath, rfl⟩ := h
    refine ⟨fun _ hne => absurd hphantom hne, fun _ => ?_⟩
    rw [Option.map_some, deserializeDpath_serializeDpath, CachedRef.actualPath, hiopath, Option.some_or]
  · rw [if_neg hphantom] at h
    rw [h, Option.map_none]; exact ⟨fun hpath _ => hpath.symm, fun hnone => (hnone hphantom).symm⟩

theorem filter_eq_self_iff {α : Type} {p : α → Bool} {x : Option α} : x.filter p = x ↔ ∀ a, x = some a → p a = true := by
  cases x with
  | none => exact ⟨fun _ a h => (nomatch h), fun _ => rfl⟩
  | some a => simp [Option.filter_some]

theorem comesBack_iff (dref : CachedRef) : (∃ node restored, serializeOneDisplay dref = .ok node ∧
    deserializeOneDisplay node = .ok restored ∧ SameRef dref restored) ↔ Storable dref := by
  constructor
  · rintro ⟨node, restored, hwrite, hread, hsame⟩
    obtain ⟨pedid, mmk, jactual, hpedid, hmmid, hactual, rfl⟩ := serializeOneDisplay_eq_ok.1 hwrite
    rw [deserializeOneDisplay_build] at hread
    by_cases hutf8 : IsUtf8 pedid.edidSource.val ∧ IsUtf8 mmk.mfgId
    · rw [if_pos hutf8] at hread
      cases hread
      refine ⟨⟨pedid, hpedid, hutf8.1⟩, ⟨mmk, hmmid, hutf8.2⟩, fun s hs => ?_, fun hphantom => ?_,
        (actualPath_restored_iff hactual).1 hsame.actualPath⟩
      · exact of_decide_eq_true (filter_eq_self_iff.1 hsame.capabilitiesString s hs)
      · rw [serializeActualDisplay_eq_ok, if_pos hphantom] at hactual
        obtain ⟨iopath, hiopath, -⟩ := hactual
        rw [hiopath]; exact Option.some_ne_none iopath
    · rw [if_neg hutf8] at hread; cases hread
  · rintro ⟨⟨pedid, hpedid, hsource⟩, ⟨mmk, hmmid, hmfg⟩, hcaps, hphantom, hnoPhantom⟩
    have hactual : ∃ jactual, serializeActualDisplay dref = .ok jactual := by
      unfold serializeActualDisplay
      by_cases h : dref.dispno = -2
      · obtain ⟨iopath, hiopath⟩ := Option.ne_none_iff_exists'.1 (hphantom h)
        rw [if_pos h, hiopath]; exact ⟨_, rfl⟩
      · rw [if_neg h]; exact ⟨_, rfl⟩
    obtain ⟨jactual, hactual⟩ := hactual
    refine ⟨_, restoredRef dref pedid mmk jactual, serializeOneDisplay_eq_ok.2
      ⟨pedid, mmk, jactual, hpedid, hmmid, hactual, rfl⟩, ?_, ?_⟩
    · rw [deserializeOneDisplay_build, if_pos ⟨hsource, hmfg⟩]
    · refine ⟨rfl, rfl, rfl, rfl, ?_, hmmid.symm, ?_, rfl, (actualPath_restored_iff hactual).2 hnoPhantom⟩
      · rw [hpedid]; rfl
      · exact filter_eq_self_iff.2 fun s hs => decide_eq_true (hcaps s hs)

/-! ## All references -/

theorem deserializeNodes_eq {nodes : List Json} (h : ∀ node ∈ nodes, node.isObject = true) :
    deserializeNodes nodes = some <$> nodes.mapM deserializeOneDisplay := by
  induction nodes with
  | nil => rfl
  | cons node nodes ih =>
    rw [deserializeNodes, if_pos (h node mem_cons_self), ih fun n hn => h n (mem_cons_of_mem node hn),
      mapM_cons]
    cases deserializeOneDisplay node with
    | error e => rfl
    | ok dref => cases nodes.mapM deserializeOneDisplay <;> rfl

theorem isObject_of_serializeDisplays {allDisplays : List CachedRef} {nodes : List Json}
    (h : serializeDisplays allDisplays = .ok nodes) : ∀ node ∈ nodes, node.isObject = true := by
  intro node hnode
  obtain ⟨dref, -, hwrite⟩ := mem_of_mapM_eq_ok h node hnode
  obtain ⟨_, _, _, -, -, -, rfl⟩ := serializeOneDisplay_eq_ok.1 hwrite
  rfl

theorem ddcDeserialize_displaysRoot {loads : List Byte → Option Json} {jstring : List Byte} {nodes : List Json}
    (hload : loads jstring = some (displaysRoot nodes)) (h : ∀ node ∈ nodes, node.isObject = true) :
    ddcDeserializeDisplaysOrBuses loads jstring .display = nodes.mapM deserializeOneDisplay := by
  rw [ddcDeserializeDisplaysOrBuses, check_pos rfl, ok_bind, hload]
  change (do
    check (Int32.ofInt 1 = 1)
    let restored ← deserializeNodes nodes
    .ok (restored.getD []) : Exec (List CachedRef)) = _
  rw [check_pos (by decide), ok_bind, deserializeNodes_eq h]
  cases nodes.mapM deserializeOneDisplay <;> rfl

theorem displaysComeBack_iff {dumps : Json → List Byte} {loads : List Byte → Option Json} {allDisplays : List CachedRef}
    (hload : ∀ nodes, serializeDisplays allDisplays = .ok nodes →
      loads (dumps (displaysRoot nodes)) = some (displaysRoot nodes)) :
    DisplaysComeBack dumps loads allDisplays ↔ ∀ dref ∈ allDisplays, dref.isWorking = true → Storable dref := by
  have hall : (∀ dref ∈ allDisplays, dref.isWorking = true → Storable dref) ↔
      ∀ dref ∈ allDisplays.filter CachedRef.isWorking, Storable dref := by
    simp only [mem_filter, and_imp]
  rw [hall, ← forall₂_congr fun dref _ => comesBack_iff dref, ← mapM_mapM_iff]
  constructor
  · rintro ⟨jstring, restored, hwrite, hread, hsame⟩
    obtain ⟨nodes, hnodes, hjstring⟩ := bind_eq_ok.1 hwrite
    cases hjstring
    rw [ddcDeserialize_displaysRoot (hload nodes hnodes) (isObject_of_serializeDisplays hnodes)] at hread
    exact ⟨nodes, restored, hnodes, hread, hsame⟩
  · rintro ⟨nodes, restored, hnodes, hread, hsame⟩
    refine ⟨dumps (displaysRoot nodes), restored, bind_eq_ok.2 ⟨nodes, hnodes, rfl⟩, ?_, hsame⟩
    rw [ddcDeserialize_displaysRoot (hload nodes hnodes) (isObject_of_serializeDisplays hnodes)]
    exact hread

/-! ## Any text -/

theorem createParsedEdid2_ok_iff (edidbytes : EdidBlock) (source : Option CString) :
    (∃ pedid, createParsedEdid2 edidbytes source = .ok pedid) ↔ (createParsedEdid edidbytes ≠ none →
      ∃ s, source = some s ∧ s.val.length < edidSourceFieldSize) := by
  cases hparsed : createParsedEdid edidbytes with
  | none =>
    rw [createParsedEdid2_none hparsed]; exact ⟨fun _ h => absurd rfl h, fun _ => ⟨none, rfl⟩⟩
  | some edid =>
    have hbytes : edid.bytes = edidbytes := (createParsedEdid_eq_some hparsed).1
    subst hbytes
    rw [createParsedEdid2_bytes hparsed]
    cases source with
    | none =>
      refine ⟨fun ⟨pedid, h⟩ => (nomatch h), fun h => ?_⟩
      obtain ⟨s, hs, -⟩ := h (Option.some_ne_none edid)
      cases hs
    | some source =>
      dsimp only
      by_cases hlt : source.val.length < edidSourceFieldSize
      · rw [dif_pos hlt]; exact ⟨fun _ _ => ⟨source, rfl, hlt⟩, fun _ => ⟨_, rfl⟩⟩
      · rw [dif_neg hlt]
        refine ⟨fun ⟨pedid, h⟩ => (nomatch h), fun h => ?_⟩
        obtain ⟨s, hs, hslt⟩ := h (Option.some_ne_none edid)
        cases hs; exact absurd hslt hlt

theorem deserializeParsedEdid_ok_iff (jpath : Option Json) :
    (∃ pedid, deserializeParsedEdid jpath = .ok pedid) ↔ RestorableEdid jpath := by
  unfold deserializeParsedEdid RestorableEdid
  cases Json.stringValue (Json.get jpath "bytes") with
  | none => exact ⟨fun _ _ h => (nomatch h), fun _ => ⟨none, rfl⟩⟩
  | some sbytes =>
    dsimp only
    constructor
    · rintro ⟨pedid, h⟩ _ hsbytes
      cases hsbytes
      obtain ⟨_, hlen, h⟩ := bind_eq_ok.1 h
      refine ⟨check_eq_ok.1 hlen, ?_⟩
      cases hhex : hhsToByteArray sbytes.val with
      | none =>
        rw [hhex] at h; cases h
      | some hbytes =>
        rw [hhex] at h
        dsimp only at h
        by_cases hct : hbytes.length = 128
        · rw [dif_pos hct] at h
          exact ⟨⟨hbytes, hct⟩, rfl, (createParsedEdid2_ok_iff _ _).1 ⟨pedid, h⟩⟩
        · rw [dif_neg hct] at h; cases h
    · intro h
      obtain ⟨hlen, edidbytes, hhex, hsource⟩ := h sbytes rfl
      obtain ⟨pedid, hpedid⟩ := (createParsedEdid2_ok_iff _ _).2 hsource
      refine ⟨pedid, ?_⟩
      rw [check_pos hlen, ok_bind, hhex]
      dsimp only
      rw [dif_pos edidbytes.size]; exact hpedid

theorem deserializeMmid_ok_iff (jpath : Option Json) :
    (∃ mmk, deserializeMmid jpath = .ok mmk) ↔ RestorableMmid jpath := by
  unfold deserializeMmid RestorableMmid mmkNew
  cases Json.stringValue (Json.get jpath "mfg_id") with
  | none => exact ⟨fun ⟨_, h⟩ => (nomatch h), fun ⟨_, _, h, _⟩ => (nomatch h)⟩
  | some mfgId =>
    cases Json.stringValue (Json.get jpath "model_name") with
    | none => exact ⟨fun ⟨_, h⟩ => (nomatch h), fun ⟨_, _, _, h, _⟩ => (nomatch h)⟩
    | some modelName =>
      dsimp only
      by_cases hlt : mfgId.val.length < edidMfgIdFieldSize ∧ modelName.val.length < edidModelNameFieldSize
      · rw [dif_pos hlt]; exact ⟨fun _ => ⟨mfgId, modelName, rfl, rfl, hlt⟩, fun _ => ⟨_, rfl⟩⟩
      · rw [dif_neg hlt]
        refine ⟨fun ⟨_, h⟩ => (nomatch h), ?_⟩
        rintro ⟨mfgId', modelName', hmfg, hmodel, hlt'⟩
        cases hmfg
        cases hmodel; exact absurd hlt' hlt

theorem deserializeOneDisplay_ok_iff (node : Json) :
    (∃ dref, deserializeOneDisplay node = .ok dref) ↔ RestorableNode node := by
  constructor
  · rintro ⟨dref, h⟩
    obtain ⟨pedid, hpedid, h⟩ := bind_eq_ok.1 h
    obtain ⟨mmk, hmmk, -⟩ := bind_eq_ok.1 h
    exact ⟨(deserializeParsedEdid_ok_iff _).1 ⟨pedid, hpedid⟩, (deserializeMmid_ok_iff _).1 ⟨mmk, hmmk⟩⟩
  · rintro ⟨hpedid, hmmid⟩
    obtain ⟨pedid, hpedid⟩ := (deserializeParsedEdid_ok_iff _).2 hpedid
    obtain ⟨mmk, hmmk⟩ := (deserializeMmid_ok_iff _).2 hmmid
    exact ⟨_, bind_eq_ok.2 ⟨pedid, hpedid, bind_eq_ok.2 ⟨mmk, hmmk, rfl⟩⟩⟩

theorem deserializeNodes_ok_iff (nodes : List Json) :
    (∃ restored, deserializeNodes nodes = .ok restored) ↔ ∀ node ∈ nodes.takeWhile Json.isObject, RestorableNode node := by
  induction nodes with
  | nil => exact ⟨fun _ _ h => absurd h not_mem_nil, fun _ => ⟨some [], rfl⟩⟩
  | cons node nodes ih =>
    rw [deserializeNodes, takeWhile_cons]
    cases hobject : node.isObject with
    | false => exact ⟨fun _ _ h => absurd h not_mem_nil, fun _ => ⟨none, rfl⟩⟩
    | true =>
      rw [if_pos rfl, if_pos rfl, forall_mem_cons, ← ih, ← deserializeOneDisplay_ok_iff]
      constructor
      · rintro ⟨restored, h⟩
        obtain ⟨dref, hdref, h⟩ := bind_eq_ok.1 h
        obtain ⟨rest, hrest, -⟩ := bind_eq_ok.1 h
        exact ⟨⟨dref, hdref⟩, rest, hrest⟩
      · rintro ⟨⟨dref, hdref⟩, rest, hrest⟩
        exact ⟨_, bind_eq_ok.2 ⟨dref, hdref, bind_eq_ok.2 ⟨rest, hrest, rfl⟩⟩⟩

theorem ddcDeserialize_ok_iff (loads : List Byte → Option Json) (jstring : List Byte) :
    (∃ restored, ddcDeserializeDisplaysOrBuses loads jstring .display = .ok restored) ↔ RestorableText loads jstring := by
  rw [ddcDeserializeDisplaysOrBuses, RestorableText, check_pos rfl, ok_bind]
  split
  · rename_i members hroot
    split
    · rename_i version hversion
      constructor
      · rintro ⟨restored, h⟩ _ _ hroot' hversion'
        cases hroot.symm.trans hroot'
        cases hversion.symm.trans hversion'
        obtain ⟨_, hone, h⟩ := bind_eq_ok.1 h
        refine ⟨check_eq_ok.1 hone, fun dispNodes hnodes => ?_⟩
        rw [hnodes] at h
        obtain ⟨rest, hrest, -⟩ := bind_eq_ok.1 h
        exact (deserializeNodes_ok_iff dispNodes).1 ⟨rest, hrest⟩
      · intro h
        obtain ⟨hone, hall⟩ := h members version hroot hversion
        rw [check_pos hone, ok_bind]
        split
        · rename_i dispNodes hnodes
          obtain ⟨rest, hrest⟩ := (deserializeNodes_ok_iff dispNodes).2 (hall dispNodes hnodes)
          rw [hrest]; exact ⟨_, rfl⟩
        · exact ⟨[], rfl⟩
    · rename_i hnone
      exact ⟨fun _ members' version hroot' hversion => by
        cases hroot.symm.trans hroot'
        exact absurd hversion (hnone version), fun _ => ⟨[], rfl⟩⟩
  · rename_i hnone
    exact ⟨fun _ members version hroot => absurd hroot (hnone members), fun _ => ⟨[], rfl⟩⟩

/-- **What the displays cache is right about**: the working references come back, in their order and with all that is kept
of them, exactly where each is storable; and a text is restored without a failed assertion exactly where it can be
restored.  Of the library it is assumed that it reads back what it wrote of these references. -/
theorem displaysCache_right_iff (dumps : Json → List Byte) (loads : List Byte → Option Json)
    (allDisplays : List CachedRef) (jstring : List Byte)
    (hload : ∀ nodes, serializeDisplays allDisplays = .ok nodes →
      loads (dumps (displaysRoot nodes)) = some (displaysRoot nodes)) :
    (DisplaysComeBack dumps loads allDisplays ↔ ∀ dref ∈ allDisplays, dref.isWorking = true → Storable dref) ∧
      ((∃ restored, ddcDeserializeDisplaysOrBuses loads jstring .display = .ok restored) ↔
        RestorableText loads jstring) :=
  ⟨displaysComeBack_iff hload, ddcDeserialize_ok_iff loads jstring⟩

/-! ## A display on bus 4 -/

def keptEdid : SourcedEdid := ⟨plainEdid.edid, ⟨ascii "I2C", noNul_of_all (by decide)⟩, plainEdid.parsed, by decide⟩

def keptRef : CachedRef :=
  { createBaseDisplayRef ⟨0, 4⟩ with
    flags := drefDdcCommunicationWorking
    capabilitiesString := some sampleCapabilities
    pedid := some keptEdid
    mmid := some sampleMonitor
    dispno := 1 }

def keptNode : Json := .build (displayMembers keptRef (edidNode keptEdid) (mmkNode sampleMonitor) none)

def keptText : List Byte :=
  joinWith [newline] [
    ascii "\x7b",
    ascii "   \"version\": 1,",
    ascii "   \"all_displays\": [",
    ascii "      \x7b",
    ascii "         \"io_path\": \x7b",
    ascii "            \"io_mode\": 0,",
    ascii "            \"busno_or_hiddev\": 4",
    ascii "         \x7d,",
    ascii "         \"usb_bus\": 0,",
    ascii "         \"usb_device\": 0,",
    ascii "         \"vcp_version_xdf\": \x7b",
    ascii "            \"major\": 255,",
    ascii "            \"minor\": 255",
    ascii "         \x7d,",
    ascii "         \"vcp_version_cmdline\": \x7b",
    ascii "            \"major\": 255,",
    ascii "            \"minor\": 255",
    ascii "         \x7d,",
    ascii "         \"flags\": 2,",
    ascii "         \"capabilities_string\": \"(vcp(10 12))\",",
    ascii "         \"pedid\": \x7b",
    ascii "            \"bytes\": \"" ++ hexstring2 plainBlock.bytes ++ ascii "\",",
    ascii "            \"edid_source\": \"I2C\"",
    ascii "         \x7d,",
    ascii "         \"dispno\": 1,",
    ascii "         \"mmid\": \x7b",
    ascii "            \"mfg_id\": \"DEL\",",
    ascii "            \"model_name\": \"U30\",",
    ascii "            \"product_code\": 7",
    ascii "         \x7d",
    ascii "      \x7d",
    ascii "   ]",
    ascii "\x7d"]

def keptDumps (_ : Json) : List Byte := keptText

def keptLoads (jstring : List Byte) : Option Json := if jstring = keptText then some (displaysRoot [keptNode]) else none

theorem keptRef_comesBack : DisplaysComeBack keptDumps keptLoads [keptRef] ∧
    ∃ restored, ddcDeserializeDisplaysOrBuses keptLoads [] .display = .ok restored := by
  have hload : ∀ nodes, serializeDisplays [keptRef] = .ok nodes →
      keptLoads (keptDumps (displaysRoot nodes)) = some (displaysRoot nodes) := by
    intro nodes h
    cases (rfl : serializeDisplays [keptRef] = .ok [keptNode]).symm.trans h
    exact if_pos rfl
  have hright := displaysCache_right_iff keptDumps keptLoads [keptRef] [] hload
  refine ⟨hright.1.2 fun dref hdref _ => ?_, hright.2.2 fun members version hroot => ?_⟩
  · cases mem_singleton.1 hdref
    have hcaps : IsUtf8 (ascii "(vcp(10 12))") := by decide +kernel
    have hsource : IsUtf8 (ascii "I2C") := by decide +kernel
    have hmfg : IsUtf8 (ascii "DEL") := by decide +kernel
    exact ⟨⟨keptEdid, rfl, hsource⟩, ⟨sampleMonitor, rfl, hmfg⟩, fun s hs => by cases hs; exact hcaps,
      fun h => absurd h (by decide), fun _ => rfl⟩
  · have hnone : keptLoads [] = none := if_neg (by decide +kernel)
    cases hnone.symm.trans hroot

def laterText : List Byte :=
  joinWith [newline] [ascii "\x7b", ascii "   \"version\": 2,", ascii "   \"all_displays\": []", ascii "\x7d"]

def laterLoads (jstring : List Byte) : Option Json :=
  if jstring = laterText then some (.object [("version", .integer 2), ("all_displays", .array [])]) else none

theorem laterText_not_restored :
    ¬ ∀ jstring, ∃ restored, ddcDeserializeDisplaysOrBuses laterLoads jstring .display = .ok restored := by
  intro h
  obtain ⟨restored, h⟩ := h laterText
  cases h

end Ddc
