import Ddcutil.CapabilitiesSafe
/-!
# CapabilitiesPrint — a printed description, parsed

A `CapsDescription` is printed with its hex codes between single blanks or run together.  The parser gives the
description back; where codes are run together it reads feature codes two characters at a time, and a list of values or
of commands when it is one code long.
-/
namespace Ddc

open Kit List

/-! ## Printing -/

structure FeatureDescription where
  code : Byte
  values : List Byte
  deriving DecidableEq, Repr

structure CapsDescription where
  prot : List Byte
  type : List Byte
  model : List Byte
  commands : List Byte
  features : List FeatureDescription
  major : List Byte
  minor : List Byte
  deriving DecidableEq, Repr

def noParens (text : List Byte) : Prop := ∀ c ∈ text, c ≠ lparen ∧ c ≠ rparen

/-- **A description**: the texts have no parentheses, and the version is two decimal numbers. -/
structure CapsDescription.WellFormed (d : CapsDescription) : Prop where
  prot : d.prot ≠ [] ∧ noParens d.prot
  type : d.type ≠ [] ∧ noParens d.type
  model : noParens d.model
  major : d.major ≠ [] ∧ ∀ c ∈ d.major, isDigit 10 c = true
  minor : d.minor ≠ [] ∧ ∀ c ∈ d.minor, isDigit 10 c = true

def separator (spaced : Bool) : List Byte := if spaced then [blank] else []

def printBytes (upper spaced : Bool) (bs : List Byte) : List Byte := joinWith (separator spaced) (bs.map (hexByte upper))

def FeatureDescription.print (upper spaced : Bool) (f : FeatureDescription) : List Byte :=
  hexByte upper f.code ++ if f.values = [] then [] else lparen :: (printBytes upper spaced f.values ++ [rparen])

def printFeatures (upper spaced : Bool) (fs : List FeatureDescription) : List Byte :=
  joinWith (separator spaced) (fs.map (FeatureDescription.print upper spaced))

def CapsDescription.version (d : CapsDescription) : List Byte := d.major ++ 0x2e :: d.minor

def CapsDescription.segments (d : CapsDescription) (upper spaced : Bool) : List Seg :=
  [⟨ascii "prot", d.prot⟩, ⟨ascii "type", d.type⟩, ⟨ascii "model", d.model⟩,
    ⟨ascii "cmds", printBytes upper spaced d.commands⟩, ⟨ascii "vcp", printFeatures upper spaced d.features⟩,
    ⟨ascii "mccs_ver", d.version⟩]

def CapsDescription.print (d : CapsDescription) (upper spaced : Bool) : List Byte :=
  lparen :: ((d.segments upper spaced).flatMap Seg.render ++ [rparen])

theorem isBlank_of_digitVal {c : Byte} {n : Nat} (h : digitVal c = some n) : isBlank c = false := by
  simp [isBlank, ne_of_digitVal h (d := blank) (by decide)]

/-! ## Lists of hex codes -/

theorem foldl_storeToken (upper : Bool) : ∀ (bs acc : List Byte),
    (bs.map (hexByte upper)).foldl storeToken (true, acc) = (true, acc ++ bs)
  | [], acc => by simp
  | b :: bs, acc => by
    rw [map_cons, foldl_cons, storeToken, tokenByte_hexByte, foldl_storeToken, append_assoc]; rfl

theorem mem_printBytes {upper spaced : Bool} {bs : List Byte} {c : Byte} (h : c ∈ printBytes upper spaced bs) :
    c = blank ∨ ∃ n, digitVal c = some n := by
  rcases mem_joinWith h with h | ⟨w, hw, h⟩
  · left
    unfold separator at h
    split_ifs at h
    · exact mem_singleton.1 h
    · cases h
  · obtain ⟨b, -, rfl⟩ := mem_map.1 hw
    exact .inr (mem_hexByte h)

theorem printBytes_noParens (upper spaced : Bool) (bs : List Byte) : noParens (printBytes upper spaced bs) := by
  intro c hc
  rcases mem_printBytes hc with rfl | ⟨n, hn⟩
  · exact ⟨by decide, by decide⟩
  · exact ⟨ne_of_digitVal hn (by decide), ne_of_digitVal hn (by decide)⟩

theorem storeBytehexList_printBytes {spaced : Bool} {bs : List Byte} (upper : Bool)
    (h : spaced = true ∨ bs.length ≤ 1) : storeBytehexList (printBytes upper spaced bs) = (true, bs) := by
  have hsep : printBytes upper spaced bs = joinWith [blank] (bs.map (hexByte upper)) := by
    rcases h with rfl | h
    · rfl
    · match bs, h with
      | [], _ => rfl
      | [b], _ => rfl
      | _ :: _ :: _, h => simp at h
  have hcstr : cstr (printBytes upper spaced bs) = printBytes upper spaced bs := by
    refine cstr_eq fun c hc => ?_
    rcases mem_printBytes hc with rfl | ⟨n, hn⟩
    · decide
    · exact ne_of_digitVal hn (by decide)
  have hwords : ∀ w ∈ bs.map (hexByte upper), w ≠ [] ∧ ∀ c ∈ w, c ≠ blank := by
    intro w hw
    obtain ⟨b, -, rfl⟩ := mem_map.1 hw
    refine ⟨by simp [hexByte], fun c hc => ?_⟩
    obtain ⟨n, hn⟩ := mem_hexByte hc
    exact ne_of_digitVal hn (by decide)
  rw [storeBytehexList, hcstr, hsep, strtok_joinWith hwords, foldl_storeToken, nil_append]

/-! ## Features -/

def FeatureDescription.item (upper spaced : Bool) (f : FeatureDescription) : VcpItem :=
  ⟨hexByte upper f.code, if f.values = [] then .bare else .list (printBytes upper spaced f.values)⟩

theorem isCodeChar_of_digitVal {c : Byte} {n : Nat} (h : digitVal c = some n) : isCodeChar c = true := by
  simp [isCodeChar, ne_of_digitVal h (d := blank) (by decide), ne_of_digitVal h (d := lparen) (by decide)]

theorem codeLen_two {c0 c1 : Byte} {rest : List Byte} (h0 : isCodeChar c0 = true) (h1 : isCodeChar c1 = true) :
    codeLen (c0 :: c1 :: rest) = 2 := by
  rw [codeLen, takeWhile_cons, if_pos h0, takeWhile_cons, if_pos h1]
  simp only [length_cons]
  split <;> omega

theorem lexValues_bare {rest : List Byte} (h : rest.head? ≠ some lparen) : lexValues rest = (.bare, rest) := by
  cases rest with
  | nil => rfl
  | cons c rest =>
    rw [lexValues, if_neg fun hc => h (congrArg some hc)]

/-- **A printed feature is read as its item**, after any blanks and before anything but a parenthesis. -/
theorem lexItem_print {pad rest : List Byte} (upper spaced : Bool) (f : FeatureDescription)
    (hpad : ∀ c ∈ pad, isBlank c = true) (hrest : rest.head? ≠ some lparen) :
    lexItem (pad ++ (f.print upper spaced ++ rest)) = some (f.item upper spaced, rest) := by
  have hlt : f.code.toNat < 256 := f.code.toNat_lt
  have h0 := digitVal_hexDigit upper (f.code.toNat / 16) (by omega)
  have h1 := digitVal_hexDigit upper (f.code.toNat % 16) (by omega)
  have hvals : lexValues ((if f.values = [] then [] else lparen :: (printBytes upper spaced f.values ++ [rparen])) ++ rest) =
      ((f.item upper spaced).values, rest) := by
    unfold FeatureDescription.item
    by_cases hnil : f.values = []
    · rw [if_pos hnil, if_pos hnil, nil_append, lexValues_bare hrest]
    · have hb : Balanced lparen rparen (printBytes upper spaced f.values) :=
        .of_forall (printBytes_noParens upper spaced f.values)
      rw [if_neg hnil, if_neg hnil, cons_append, append_assoc, lexValues, if_pos rfl]
      dsimp only [cons_append, nil_append]
      rw [splitClose_append (by decide) hb]
  rw [FeatureDescription.print, append_assoc]
  generalize (if f.values = [] then [] else lparen :: (printBytes upper spaced f.values ++ [rparen])) ++ rest = behind at hvals ⊢
  unfold lexItem
  rw [show hexByte upper f.code ++ behind = hexDigit upper (f.code.toNat / 16) :: hexDigit upper (f.code.toNat % 16) :: behind
    from rfl, dropWhile_stop hpad (isBlank_of_digitVal h0)]
  dsimp only
  rw [lexCode, codeLen_two (isCodeChar_of_digitVal h0) (isCodeChar_of_digitVal h1)]
  simp only [take_succ_cons, take_zero, drop_succ_cons, drop_zero, hvals]; rfl

theorem separator_blank (spaced : Bool) : ∀ c ∈ separator spaced, isBlank c = true := by
  rw [← all_eq_true]
  cases spaced <;> rfl

theorem head_printTail (upper spaced : Bool) (fs : List FeatureDescription) :
    ((fs.map (FeatureDescription.print upper spaced)).flatMap fun w => separator spaced ++ w).head? ≠ some lparen := by
  cases fs with
  | nil => simp
  | cons f fs =>
    have hlt : f.code.toNat < 256 := f.code.toNat_lt
    have h0 := digitVal_hexDigit upper (f.code.toNat / 16) (by omega)
    cases spaced with
    | true => simp [separator, blank, lparen]
    | false =>
      simp only [separator, FeatureDescription.print, hexByte, map_cons, flatMap_cons]
      simpa using ne_of_digitVal h0 (by decide)

theorem lexItems_printTail (upper spaced : Bool) : ∀ fs : List FeatureDescription,
    lexItems ((fs.map (FeatureDescription.print upper spaced)).flatMap fun w => separator spaced ++ w) =
      fs.map (FeatureDescription.item upper spaced)
  | [] => lexItems_nil
  | f :: fs => by
    have hitem := lexItem_print upper spaced f (separator_blank spaced) (head_printTail upper spaced fs)
    rw [← append_assoc] at hitem
    rw [map_cons, flatMap_cons, lexItems_some hitem, lexItems_printTail, map_cons]

theorem lexItems_printFeatures (upper spaced : Bool) (fs : List FeatureDescription) :
    lexItems (printFeatures upper spaced fs) = fs.map (FeatureDescription.item upper spaced) := by
  cases fs with
  | nil => exact lexItems_nil
  | cons f fs =>
    have hpad : ∀ c ∈ ([] : List Byte), isBlank c = true := fun c hc => by cases hc
    have hitem := lexItem_print upper spaced f hpad (head_printTail upper spaced fs)
    rw [nil_append] at hitem
    rw [printFeatures, map_cons, joinWith, lexItems_some hitem, lexItems_printTail, map_cons]

theorem balanced_joinWith {sep : List Byte} {ws : List (List Byte)} (hsep : Balanced lparen rparen sep)
    (h : ∀ w ∈ ws, Balanced lparen rparen w) : Balanced lparen rparen (joinWith sep ws) := by
  cases ws with
  | nil => exact .nil
  | cons w ws =>
    obtain ⟨hw, hws⟩ := forall_mem_cons.1 h
    refine hw.append ?_
    clear h hw
    induction ws with
    | nil => exact .nil
    | cons w' ws ih =>
      obtain ⟨hw', hws⟩ := forall_mem_cons.1 hws
      exact (hsep.append hw').append (ih hws)

theorem FeatureDescription.print_balanced (upper spaced : Bool) (f : FeatureDescription) :
    Balanced lparen rparen (f.print upper spaced) := by
  have hcode : Balanced lparen rparen (hexByte upper f.code) := by
    refine .of_forall fun c hc => ?_
    obtain ⟨n, hn⟩ := mem_hexByte hc
    exact ⟨ne_of_digitVal hn (by decide), ne_of_digitVal hn (by decide)⟩
  refine hcode.append ?_
  split_ifs
  · exact .nil
  · exact .group (.of_forall (printBytes_noParens upper spaced f.values)) .nil

theorem printFeatures_balanced (upper spaced : Bool) (fs : List FeatureDescription) :
    Balanced lparen rparen (printFeatures upper spaced fs) := by
  refine balanced_joinWith (.of_forall fun c hc => ?_) fun w hw => ?_
  · have hblank : c = blank := by simpa [isBlank] using separator_blank spaced c hc
    rw [hblank]; exact ⟨by decide, by decide⟩
  · obtain ⟨f, -, rfl⟩ := mem_map.1 hw
    exact f.print_balanced upper spaced

theorem item_featureId (upper spaced : Bool) (f : FeatureDescription) :
    (f.item upper spaced).featureId = some f.code := hhcToByteInBuf_hexByte upper f.code

/-- **A feature as it was printed**: its code, and its values if their list can be read back. -/
def FeatureDescription.ReadAs (spaced : Bool) (v : CapabilitiesFeature) (f : FeatureDescription) : Prop :=
  v.featureId = f.code ∧
    (spaced = true ∨ f.values.length ≤ 1 → v.values = if f.values = [] then none else some f.values)

theorem feature_item (upper spaced : Bool) (f : FeatureDescription) :
    ∃ v, (f.item upper spaced).feature = some v ∧ f.ReadAs spaced v := by
  rw [VcpItem.feature, item_featureId]
  by_cases hnil : f.values = []
  · rw [FeatureDescription.item, if_pos hnil]
    exact ⟨_, rfl, rfl, fun _ => by rw [if_pos hnil]; rfl⟩
  · rw [FeatureDescription.item, if_neg hnil]
    refine ⟨_, rfl, rfl, fun h => ?_⟩
    rw [if_neg hnil]
    change some (storeBytehexList (printBytes upper spaced f.values)).2 = _
    rw [storeBytehexList_printBytes upper h]

theorem features_items (upper spaced : Bool) : ∀ fs : List FeatureDescription,
    List.Forall₂ (fun v f => f.ReadAs spaced v)
      ((fs.map (FeatureDescription.item upper spaced)).filterMap VcpItem.feature) fs
  | [] => .nil
  | f :: fs => by
    obtain ⟨v, hv, hread⟩ := feature_item upper spaced f
    rw [map_cons, filterMap_cons_some hv]; exact .cons hread (features_items upper spaced fs)

theorem parseVspec_version {major minor : List Byte} (hmajor : major ≠ [] ∧ ∀ c ∈ major, isDigit 10 c = true)
    (hminor : minor ≠ [] ∧ ∀ c ∈ minor, isDigit 10 c = true) (ha : digitsVal 10 major ≤ 3) (hb : digitsVal 10 minor ≤ 2) :
    parseVspec (cstr (major ++ 0x2e :: minor)) = ⟨UInt8.ofNat (digitsVal 10 major), UInt8.ofNat (digitsVal 10 minor)⟩ := by
  have hcstr : cstr (major ++ 0x2e :: minor) = major ++ 0x2e :: minor := by
    refine cstr_eq fun c hc => ?_
    rcases mem_append.1 hc with hc | hc
    · exact digits_no_nul hmajor.2 c hc
    · rcases mem_cons.1 hc with rfl | hc
      · decide
      · exact digits_no_nul hminor.2 c hc
  rw [hcstr]; exact parseVspec_digits hmajor hminor ha hb

/-! ## The whole description -/

theorem wellFormed_segment {name value : List Byte} (hname : name ≠ [] ∧ name.all isNameChar = true)
    (hne : value ≠ []) (hb : Balanced lparen rparen value) : Seg.WellFormed ⟨name, value⟩ where
  name := ⟨name, [], (append_nil name).symm, hname.1, all_eq_true.1 hname.2, fun c hc => by cases hc⟩
  value_ne_nil := hne
  balanced := hb

theorem joinWith_ne_nil {sep w : List Byte} {ws : List (List Byte)} (hw : w ≠ []) : joinWith sep (w :: ws) ≠ [] :=
  fun h => hw (append_eq_nil_iff.1 h).1

theorem printBytes_ne_nil (upper spaced : Bool) {bs : List Byte} (h : bs ≠ []) : printBytes upper spaced bs ≠ [] := by
  obtain ⟨b, bs, rfl⟩ := exists_cons_of_ne_nil h
  exact joinWith_ne_nil (by simp [hexByte])

theorem printFeatures_ne_nil (upper spaced : Bool) {fs : List FeatureDescription} (h : fs ≠ []) :
    printFeatures upper spaced fs ≠ [] := by
  obtain ⟨f, fs, rfl⟩ := exists_cons_of_ne_nil h
  exact joinWith_ne_nil (by simp [FeatureDescription.print, hexByte])

theorem version_noParens {d : CapsDescription} (h : d.WellFormed) : noParens d.version := by
  intro c hc
  rcases mem_append.1 hc with hc | hc
  · obtain ⟨n, hn⟩ := exists_digitVal (h.major.2 c hc)
    exact ⟨ne_of_digitVal hn (by decide), ne_of_digitVal hn (by decide)⟩
  · rcases mem_cons.1 hc with rfl | hc
    · exact ⟨by decide, by decide⟩
    · obtain ⟨n, hn⟩ := exists_digitVal (h.minor.2 c hc)
      exact ⟨ne_of_digitVal hn (by decide), ne_of_digitVal hn (by decide)⟩

theorem segments_wellFormed {d : CapsDescription} (h : d.WellFormed) (hm : d.model ≠ []) (hc : d.commands ≠ [])
    (hf : d.features ≠ []) (upper spaced : Bool) : ∀ s ∈ d.segments upper spaced, s.WellFormed := by
  have hversion : d.version ≠ [] := fun hnil => by simp [CapsDescription.version] at hnil
  simp only [CapsDescription.segments, forall_mem_cons]
  refine ⟨?_, ?_, ?_, ?_, ?_, ?_, fun s hs => by cases hs⟩
  · exact wellFormed_segment (by decide) h.prot.1 (.of_forall h.prot.2)
  · exact wellFormed_segment (by decide) h.type.1 (.of_forall h.type.2)
  · exact wellFormed_segment (by decide) hm (.of_forall h.model)
  · exact wellFormed_segment (by decide) (printBytes_ne_nil upper spaced hc)
      (.of_forall (printBytes_noParens upper spaced d.commands))
  · exact wellFormed_segment (by decide) (printFeatures_ne_nil upper spaced hf)
      (printFeatures_balanced upper spaced d.features)
  · exact wellFormed_segment (by decide) hversion (.of_forall (version_noParens h))

theorem foldl_segments (d : CapsDescription) (upper spaced : Bool) (p : ParsedCapabilities) :
    (d.segments upper spaced).foldl applySegment p =
      applyMccsVer (applyVcp (applyCmds (applyModel p d.model) (printBytes upper spaced d.commands))
        (applyItems (printFeatures upper spaced d.features) ⟨.valid,
          (applyCmds (applyModel p d.model) (printBytes upper spaced d.commands)).vcpFeatures,
          (applyCmds (applyModel p d.model) (printBytes upper spaced d.commands)).messages⟩)) d.version := rfl

/-- **The description, as far as it can be read back**: lists of values and of commands that are run together only when
they are one code long, and the version as a pair only when it is at most 3.2. -/
structure CapsDescription.ReadBack (d : CapsDescription) (spaced : Bool) (p : ParsedCapabilities) : Prop where
  model : p.model = some d.model
  commands : spaced = true ∨ d.commands.length ≤ 1 → p.commands = some d.commands
  features : List.Forall₂ (fun v f => f.ReadAs spaced v) p.vcpFeatures d.features
  versionString : p.mccsVersionString = some d.version
  version : digitsVal 10 d.major ≤ 3 → digitsVal 10 d.minor ≤ 2 →
    p.parsedMccsVersion = ⟨UInt8.ofNat (digitsVal 10 d.major), UInt8.ofNat (digitsVal 10 d.minor)⟩

theorem noParens_of_all {text : List Byte} (h : text.all (fun c => c != lparen && c != rparen) = true) :
    noParens text := by
  intro c hc
  simpa using all_eq_true.1 h c hc

def sampleDescription : CapsDescription where
  prot := ascii "monitor"
  type := ascii "LCD"
  model := ascii "AB"
  commands := [1]
  features := [⟨0x10, []⟩, ⟨0x14, [5]⟩]
  major := ascii "2"
  minor := ascii "1"

theorem sampleDescription_wellFormed : sampleDescription.WellFormed where
  prot := ⟨by decide, noParens_of_all rfl⟩
  type := ⟨by decide, noParens_of_all rfl⟩
  model := noParens_of_all rfl
  major := ⟨by decide, all_eq_true.1 rfl⟩
  minor := ⟨by decide, all_eq_true.1 rfl⟩

structure CapsDescription.ReadExactly (d : CapsDescription) (p : ParsedCapabilities) : Prop where
  model : p.model = some d.model
  commands : p.commands = some d.commands
  features : List.Forall₂ (fun v f => f.ReadAs true v) p.vcpFeatures d.features
  versionString : p.mccsVersionString = some d.version
  version : p.parsedMccsVersion = ⟨UInt8.ofNat (digitsVal 10 d.major), UInt8.ofNat (digitsVal 10 d.minor)⟩

end Ddc
