import Ddcutil.FeatureDetail
import Ddcutil.FeatureMetadataRuns
/-!
# FeatureDetailRuns — which values are formatted

A formatter writes the buffer where it is one for the feature, where the names that it looks up are there, and where
it does not compare a version that is not known.
-/
namespace Ddc

open Kit List Exec

/-! ## Versions -/

variable {v w vspec : VersionSpec} {e : VcpFeatureTableEntry}

theorem vcpVersionLe_error (h : vcpVersionIsValid v = false) : vcpVersionLe v vspecV21 = .error .assertFailed := by
  have hvalid : ¬ (vcpVersionIsValid v = true ∧ vcpVersionIsValid vspecV21 = true) := fun hv =>
    absurd (h.symm.trans hv.1) Bool.false_ne_true
  rw [vcpVersionLe, check_neg hvalid]; rfl

theorem eq_of_valid_later (h : VersionMember.v22.NotLater v ∨ VersionMember.v30.NotLater v)
    (hvalid : vcpVersionIsValid v = true) : v = vspecV22 ∨ v = vspecV30 := by
  unfold vcpVersionIsValid at hvalid
  simp only [Bool.or_eq_true, beq_iff_eq] at hvalid
  rcases hvalid with (((rfl | rfl) | rfl) | rfl) | rfl
  · exact absurd h (by decide)
  · exact absurd h (by decide)
  · exact absurd h (by decide)
  · exact .inr rfl
  · exact .inl rfl

/-- **Two versions that flags and tables of values are looked up alike for.** -/
structure Alike (v w : VersionSpec) : Prop where
  v21 : VersionMember.v21.NotLater v ↔ VersionMember.v21.NotLater w
  v30 : VersionMember.v30.NotLater v ↔ VersionMember.v30.NotLater w
  v22 : VersionMember.v22.NotLater v ↔ VersionMember.v22.NotLater w

theorem alike_member (v : VersionSpec) : ∃ m : VersionMember, Alike v m.vspec := by
  have hiff : ∀ {p q : Prop}, p → q → (p ↔ q) := fun hp hq => ⟨fun _ => hq, fun _ => hp⟩
  have hnot : ∀ {p q : Prop}, ¬ p → ¬ q → (p ↔ q) := fun hp hq => ⟨fun h => absurd h hp, fun h => absurd h hq⟩
  by_cases h30 : VersionMember.v30.NotLater v
  · have h3 : 3 ≤ v.major.toNat := h30
    have h22 : ¬ VersionMember.v22.NotLater v := fun h => by
      have h2 := h.1
      omega
    exact ⟨.v30, hiff (.inl h3) (by decide), hiff h30 (by decide), hnot h22 (by decide)⟩
  by_cases h22 : VersionMember.v22.NotLater v
  · have h21 : VersionMember.v21.NotLater v := .inr ⟨h22.1, Nat.le_of_succ_le h22.2⟩
    exact ⟨.v22, hiff h21 (by decide), hnot h30 (by decide), hiff h22 (by decide)⟩
  by_cases h21 : VersionMember.v21.NotLater v
  · exact ⟨.v21, hiff h21 (by decide), hnot h30 (by decide), hnot h22 (by decide)⟩
  · exact ⟨.v20, hnot h21 (by decide), hnot h30 (by decide), hnot h22 (by decide)⟩

theorem Alike.versionSpecific_eq {α : Type} [DecidableEq α] (h : Alike v w) (unset v20 v21 v30 v22 : α) :
    versionSpecific unset v20 v21 v30 v22 v = versionSpecific unset v20 v21 v30 v22 w := by
  by_cases h30 : VersionMember.v30.NotLater v
  · rw [versionSpecific_v30 h30, versionSpecific_v30 (h.v30.1 h30)]
  by_cases h22 : VersionMember.v22.NotLater v
  · rw [versionSpecific_v22 h22, versionSpecific_v22 (h.v22.1 h22)]
  by_cases h21 : VersionMember.v21.NotLater v
  · rw [versionSpecific_v21 h21 h30 h22,
      versionSpecific_v21 (h.v21.1 h21) (fun hw => h30 (h.v30.2 hw)) fun hw => h22 (h.v22.2 hw)]
  · rw [versionSpecific_v20 h21, versionSpecific_v20 fun hw => h21 (h.v21.2 hw)]

section
variable (h : Alike v w) (e : VcpFeatureTableEntry)
include h

theorem Alike.flags_eq : versionSensitiveFlags e v = versionSensitiveFlags e w := by
  unfold versionSensitiveFlags versionSensitive
  rw [h.versionSpecific_eq]

theorem Alike.specificValues_eq : getVersionSpecificSlValues e v = getVersionSpecificSlValues e w := by
  by_cases h22 : VersionMember.v22.NotLater v
  · rw [slValues_v22 e h22, slValues_v22 e (h.v22.1 h22)]
  · rw [slValues_eq_versionSpecific h22, slValues_eq_versionSpecific fun hw => h22 (h.v22.2 hw), h.versionSpecific_eq]

theorem Alike.sensitiveValues_eq : getVersionSensitiveSlValues e v = getVersionSensitiveSlValues e w := by
  unfold getVersionSensitiveSlValues
  rw [h.specificValues_eq]

end

/-! ## Formatters -/

section

variable {bufsz : Nat} {buffer : List Byte}

theorem writeDetail_written (hlen : buffer.length = bufsz) (h : 0 < bufsz) (ok : Bool) (text : List Byte) :
    Written bufsz (writeDetail ok text buffer bufsz) := by
  have hroom : 0 + bufsz ≤ buffer.length := by omega
  obtain ⟨buffer', hbuffer, hlen', hnul⟩ := snprintf_eq_ok hroom text
  rw [writeDetail, hbuffer, ok_bind]; exact ⟨ok, buffer', rfl, hlen'.trans hlen, hnul h⟩

variable {α : Type} {v : VersionSpec}

theorem written_of_ok {x : Exec α} {a : α} (hx : x = .ok a) {f : α → Detail} (h : Written bufsz (f a)) :
    Written bufsz (x >>= f) := by
  rw [hx, ok_bind]; exact h

theorem not_written_of_error {x : Exec α} {e : Fault} (hx : x = .error e) {f : α → Detail} :
    ¬ Written bufsz (x >>= f) := by
  rw [hx]
  rintro ⟨_, _, h, -⟩
  cases h

theorem not_written_bind {x : Exec α} {f : α → Detail} (h : ∀ a, ¬ Written bufsz (f a)) :
    ¬ Written bufsz (x >>= f) := by
  rintro ⟨ok, buffer, hok, hwritten⟩
  obtain ⟨a, -, ha⟩ := bind_eq_ok.1 hok
  exact h a ⟨ok, buffer, ha, hwritten⟩

theorem x0b_written (hlen : buffer.length = bufsz) (h : 0 < bufsz) (codeInfo : NontableVcpValue) (v : VersionSpec) :
    Written bufsz (formatFeatureDetailX0bColorTemperatureIncrement codeInfo v buffer bufsz) := by
  unfold formatFeatureDetailX0bColorTemperatureIncrement
  split
  · exact writeDetail_written hlen h _ _
  · exact writeDetail_written hlen h _ _

theorem x72AbsoluteGamma_eq_ok (sh : Byte) : ∃ text, x72AbsoluteGamma sh = .ok text := by
  unfold x72AbsoluteGamma
  obtain ⟨sgamma, hsgamma, -, hnul⟩ := snprintf_malloc (Nat.succ_pos 9) (decimalDigits (sh.toNat + 100))
  obtain ⟨a, ha⟩ := substr_eq_ok (Nat.zero_le (cstr sgamma).length) ((cstr sgamma).length - 2)
  obtain ⟨b, hb⟩ := substr_eq_ok (Nat.sub_le (cstr sgamma).length 2) 2
  obtain ⟨sgamma2, hsgamma2, -, hend⟩ := snprintf_malloc (Nat.succ_pos 9) (a ++ ascii "." ++ b)
  rw [hsgamma, ok_bind, readString_of_mem hnul, ok_bind, ha, ok_bind, hb, ok_bind, hsgamma2,
    ok_bind, readString_of_mem hend]
  exact ⟨_, rfl⟩

theorem x72GammaText_eq_ok (codeInfo : NontableVcpValue) : ∃ text, x72GammaText codeInfo = .ok text := by
  obtain ⟨sgamma2, hsgamma2⟩ := x72AbsoluteGamma_eq_ok codeInfo.sh
  rw [x72GammaText, hsgamma2, ok_bind]
  repeat' split
  all_goals exact ⟨_, rfl⟩

section
variable (hlen : buffer.length = bufsz) (h : 0 < bufsz)
include hlen h

theorem x72_written {codeInfo : NontableVcpValue} (hcode : codeInfo.vcpCode = 0x72) (v : VersionSpec) :
    Written bufsz (formatFeatureDetailX72Gamma codeInfo v buffer bufsz) := by
  obtain ⟨formatted, hformatted, -, hnul⟩ :=
    snprintf_malloc (Nat.succ_pos 19) (hex02 codeInfo.sh ++ hexByte false codeInfo.sl)
  obtain ⟨text, htext⟩ := x72GammaText_eq_ok codeInfo
  unfold formatFeatureDetailX72Gamma
  rw [check_pos hcode, ok_bind, hformatted, ok_bind, readString_of_mem hnul, ok_bind, htext, ok_bind]
  exact writeDetail_written hlen h _ _

theorem writeAroundNeutral_written (hv : v = vspecV22 ∨ v = vspecV30) (codeInfo : NontableVcpValue) (invalid : Bool)
    (text : List Byte) : Written bufsz (writeAroundNeutral codeInfo v invalid text buffer bufsz) := by
  have hle : vcpVersionLe v vspecV21 = .ok false := by rcases hv with rfl | rfl <;> rfl
  have hgt : vcpVersionGt v vspecV21 = .ok true := by rw [vcpVersionGt, hle]; rfl
  refine written_of_ok hgt (written_of_ok (check_pos rfl) (written_of_ok hle ?_))
  rw [if_neg Bool.false_ne_true]
  split
  · exact writeDetail_written hlen h _ _
  · exact writeDetail_written hlen h _ _

theorem writeFrequency_written (codeInfo : NontableVcpValue) (text : List Byte) :
    Written bufsz (writeFrequency codeInfo text buffer bufsz) := by
  unfold writeFrequency
  split
  · exact writeDetail_written hlen h _ _
  · exact writeDetail_written hlen h _ _

end

theorem lookupValueName_eq_ok {featureCode : Byte} {values : List FeatureValueEntry}
    (h : findFeatureValueTable featureCode v = .ok (some values)) (sl : Byte) :
    lookupValueName featureCode v sl = .ok (slValueName values sl (ascii "Invalid value")) := by
  rw [lookupValueName, h, ok_bind]

def NontableFormatter.isFor : NontableFormatter → Byte → Bool
  | .x62AudioSpeakerVolume, featureCode => featureCode == 0x62
  | .x72Gamma, featureCode => featureCode == 0x72
  | .x8dMuteAudioBlankScreen, featureCode => featureCode == 0x8d
  | .x8fX91AudioTrebleBass, featureCode => featureCode == 0x8f || featureCode == 0x91
  | .x93AudioBalance, featureCode => featureCode == 0x93
  | .xacHorizontalFrequency, featureCode => featureCode == 0xac
  | .xaeVerticalFrequency, featureCode => featureCode == 0xae
  | .xc0DisplayUsageTime, featureCode => featureCode == 0xc0
  | .x6cApplicationEnableKey, featureCode => featureCode == 0xc6
  | .xc8DisplayControllerType, featureCode => featureCode == 0xc8
  | .xceAuxDisplaySize, featureCode => featureCode == 0xce
  | _, _ => true

def NontableFormatter.looksUp (f : NontableFormatter) : Bool := f == .slLookup || f == .slLookupWithSh

def NontableFormatter.compares (f : NontableFormatter) : Bool :=
  f == .x14SelectColorPreset || f == .x62AudioSpeakerVolume || f == .x8fX91AudioTrebleBass || f == .x93AudioBalance

theorem function_written (hlen : buffer.length = bufsz) (h : 0 < bufsz) {f : NontableFormatter}
    {codeInfo : NontableVcpValue} (hfor : f.isFor codeInfo.vcpCode = true)
    (hnames : f.looksUp = true → ∃ values, findFeatureValueTable codeInfo.vcpCode v = .ok (some values))
    (hversion : f.compares = true → v = vspecV22 ∨ v = vspecV30) :
    Written bufsz (f.function codeInfo v buffer bufsz) := by
  have hwrite : ∀ ok text, Written bufsz (writeDetail ok text buffer bufsz) := writeDetail_written hlen h
  have hle : f.compares = true → vcpVersionLe v vspecV21 = .ok false := fun hcompares => by
    rcases hversion hcompares with rfl | rfl <;> rfl
  cases f with
  | debugSlSh | debugBytes | slByte | shSlBytes | standardContinuous | ushort | x02NewControlValue
  | x0cColorTemperatureRequest | xbeLinkControl | xc9XdfVersion | xcaOsdButtonControl => exact hwrite _ _
  | slLookup | slLookupWithSh =>
    obtain ⟨values, hvalues⟩ := hnames rfl
    exact written_of_ok (lookupValueName_eq_ok hvalues codeInfo.sl) (hwrite _ _)
  | x0bColorTemperatureIncrement => exact x0b_written hlen h codeInfo v
  | x14SelectColorPreset => exact written_of_ok (hle rfl) (hwrite _ _)
  | x62AudioSpeakerVolume => exact written_of_ok (check_pos (beq_iff_eq.1 hfor)) (written_of_ok (hle rfl) (hwrite _ _))
  | x72Gamma => exact x72_written hlen h (beq_iff_eq.1 hfor) v
  | x8fX91AudioTrebleBass =>
    have hcode : codeInfo.vcpCode = 0x8f ∨ codeInfo.vcpCode = 0x91 := by
      simpa only [NontableFormatter.isFor, Bool.or_eq_true, beq_iff_eq] using hfor
    exact written_of_ok (check_pos hcode) (writeAroundNeutral_written hlen h (hversion rfl) _ _ _)
  | x93AudioBalance =>
    exact written_of_ok (check_pos (beq_iff_eq.1 hfor)) (writeAroundNeutral_written hlen h (hversion rfl) _ _ _)
  | xacHorizontalFrequency | xaeVerticalFrequency =>
    exact written_of_ok (check_pos (beq_iff_eq.1 hfor)) (writeFrequency_written hlen h _ _)
  | x8dMuteAudioBlankScreen | xc0DisplayUsageTime | x6cApplicationEnableKey | xc8DisplayControllerType
  | xceAuxDisplaySize => exact written_of_ok (check_pos (beq_iff_eq.1 hfor)) (hwrite _ _)

theorem function_not_written {f : NontableFormatter} (hcompares : f.compares = true) (hv : vcpVersionIsValid v = false)
    (codeInfo : NontableVcpValue) (buffer : List Byte) :
    ¬ Written bufsz (f.function codeInfo v buffer bufsz) := by
  have hle := vcpVersionLe_error hv
  have hgt : vcpVersionGt v vspecV21 = .error .assertFailed := by rw [vcpVersionGt, hle]; rfl
  cases f with
  | x14SelectColorPreset => exact not_written_of_error hle
  | x62AudioSpeakerVolume => exact not_written_bind fun _ => not_written_of_error hle
  | x8fX91AudioTrebleBass | x93AudioBalance => exact not_written_bind fun _ => not_written_of_error hgt
  | _ => cases hcompares

end

/-! ## The formatter that is chosen -/

def chosenFormatter (e : VcpFeatureTableEntry) (flags : DdcaFeatureFlags) (hasValues : Bool) :
    Exec (Option NontableFormatter) :=
  if flags &&& ddcaNonTable ≠ 0 then entryNontableFormatter e flags hasValues else .ok (some .debugBytes)

/-- A formatter suits an entry in a version: it is for the feature, its names are found, and it compares versions exactly
where the feature is one of five and the version is from 2.2 or 3.0 on. -/
def suits (e : VcpFeatureTableEntry) (v : VersionSpec) (f : NontableFormatter) : Bool :=
  f.isFor e.code &&
    (!f.looksUp || ((getVersionSpecificSlValues e v).isSome &&
      versionSensitiveFlags e v &&& (ddcaSimpleNc ||| ddcaExtendedNc) != 0)) &&
    (f.compares == ([0x14, 0x62, 0x8f, 0x91, 0x93].contains e.code &&
      decide (VersionMember.v22.NotLater v ∨ VersionMember.v30.NotLater v)))

/-- **An entry has a formatter that suits it** in a version in which it can be read and is not of a table. -/
def suited (e : VcpFeatureTableEntry) (v : VersionSpec) : Bool :=
  versionSensitiveFlags e v &&& ddcaReadable == 0 || versionSensitiveFlags e v &&& ddcaTable != 0 ||
    match chosenFormatter e (versionSensitiveFlags e v) (getVersionSensitiveSlValues e v).isSome with
    | .ok (some f) => suits e v f
    | _ => false

theorem suited_of_alike (h : Alike v w) (e : VcpFeatureTableEntry) : suited e v = suited e w := by
  unfold suited suits
  simp only [h.flags_eq e, h.sensitiveValues_eq e, h.specificValues_eq e, h.v22, h.v30]

theorem suited_of_mem (h : e ∈ vcpCodeTable) (v : VersionSpec) : suited e v = true := by
  have hall : vcpCodeTable.all (fun e => suited e ⟨2, 0⟩ && suited e ⟨2, 1⟩ && suited e ⟨3, 0⟩ && suited e ⟨2, 2⟩) =
      true := by decide +kernel
  have he := all_eq_true.1 hall e h
  simp only [Bool.and_eq_true] at he
  obtain ⟨m, hm⟩ := alike_member v
  rw [suited_of_alike hm]
  cases m with
  | v20 => exact he.1.1.1
  | v21 => exact he.1.1.2
  | v30 => exact he.1.2
  | v22 => exact he.2

theorem five_readable {featureCode : Byte} (hcode : featureCode ∈ [0x14, 0x62, 0x8f, 0x91, 0x93])
    (hv : VersionMember.v22.NotLater v ∨ VersionMember.v30.NotLater v) :
    ∃ e, vcpFindFeatureByHexid featureCode = some e ∧ versionSensitiveFlags e v &&& ddcaReadable ≠ 0 ∧
      versionSensitiveFlags e v &&& ddcaTable = 0 := by
  have hall : ∀ featureCode ∈ [0x14, 0x62, 0x8f, 0x91, 0x93], ∃ e, vcpFindFeatureByHexid featureCode = some e ∧
      ∀ w ∈ [vspecV22, vspecV30], versionSensitiveFlags e w &&& ddcaReadable ≠ 0 ∧
        versionSensitiveFlags e w &&& ddcaTable = 0 := by
    intro c hc
    simp only [mem_cons, not_mem_nil, or_false] at hc
    rcases hc with rfl | rfl | rfl | rfl | rfl
    all_goals exact ⟨_, rfl, by decide +kernel⟩
  obtain ⟨e, he, hflags⟩ := hall featureCode hcode
  obtain ⟨m, hm⟩ := alike_member v
  have hmem : m.vspec ∈ [vspecV22, vspecV30] := by
    cases m with
    | v22 => exact mem_cons_self
    | v30 => exact mem_cons_of_mem _ mem_cons_self
    | v20 | v21 =>
      rcases hv with hv | hv
      · exact absurd (hm.v22.1 hv) (by decide)
      · exact absurd (hm.v30.1 hv) (by decide)
  refine ⟨e, he, ?_⟩
  rw [hm.flags_eq]; exact hflags _ hmem

/-! ## The detail -/

section

variable {bufsz : Nat} {buffer : List Byte} {dfm : DisplayFeatureMetadata}

variable {f : NontableFormatter}

section
variable (hlen : buffer.length = bufsz) (h : 0 < bufsz)
include hlen h

theorem detail_formatter (hf : dfm.nontableFormatter = some f) (codeInfo : NontableVcpValue) :
    dynFormatNontableFeatureDetail dfm codeInfo buffer bufsz =
      f.function codeInfo dfm.vcpVersion (buffer.set 0 0) bufsz := by
  have hpos : 0 < buffer.length := by omega
  rw [dynFormatNontableFeatureDetail, store_of_lt hpos, ok_bind, hf]

theorem detail_formatterSl (hnone : dfm.nontableFormatter = none) (hf : dfm.nontableFormatterSl = some f)
    (codeInfo : NontableVcpValue) :
    dynFormatNontableFeatureDetail dfm codeInfo buffer bufsz =
      f.slFunction codeInfo dfm.slValues (buffer.set 0 0) bufsz := by
  have hpos : 0 < buffer.length := by omega
  rw [dynFormatNontableFeatureDetail, store_of_lt hpos, ok_bind, hnone, hf]

theorem slFunction_written (hf : f.looksUp = true) (codeInfo : NontableVcpValue)
    (values : Option (List FeatureValueEntry)) : Written bufsz (f.slFunction codeInfo values buffer bufsz) := by
  cases f with
  | slLookup | slLookupWithSh => cases values <;> exact writeDetail_written hlen h _ _
  | _ => cases hf

end

theorem userFormatters_spec (m : DynFeatureMetadata) (hflags : m.versionFeatureFlags &&& ddcaTable = 0)
    (hnone : dfm.nontableFormatter = none) :
    (∃ f ∈ [.slByte, .standardContinuous, .debugBytes], (userFormatters .slByte m dfm).nontableFormatter = some f) ∨
      (userFormatters .slByte m dfm).nontableFormatter = none ∧
        ∃ f, (userFormatters .slByte m dfm).nontableFormatterSl = some f ∧ f.looksUp = true := by
  unfold userFormatters
  split
  · split
    · exact .inr ⟨hnone, _, rfl, rfl⟩
    · exact .inl ⟨_, mem_cons_self, rfl⟩
  · split
    · split
      · exact .inr ⟨hnone, _, rfl, rfl⟩
      · exact .inl ⟨_, mem_cons_self, rfl⟩
    · split
      · exact .inl ⟨.standardContinuous, by decide, rfl⟩
      · rw [if_neg (not_not.2 hflags)]; exact .inl ⟨.debugBytes, by decide, rfl⟩

theorem userMetadata_written {m : DynFeatureMetadata} (hm : m.Marked) {vspec : VersionSpec}
    (hdfm : userMetadata m vspec = .ok dfm) (hflags : dfm.versionFeatureFlags &&& ddcaTable = 0)
    (hlen : buffer.length = bufsz) (h : 0 < bufsz) (codeInfo : NontableVcpValue) :
    Written bufsz (dynFormatNontableFeatureDetail dfm codeInfo buffer bufsz) := by
  have hset : (buffer.set 0 0).length = bufsz := by rw [length_set, hlen]
  rw [userMetadata, dfmFromDynFeatureMetadata_eq hm, ok_bind] at hdfm
  have hbase : ∃ base : DisplayFeatureMetadata, dfm = userFormatters .slByte m base ∧
      base.nontableFormatter = none ∧ base.versionFeatureFlags = m.versionFeatureFlags :=
    ⟨_, (Except.ok.inj hdfm).symm, rfl, rfl⟩
  obtain ⟨base, rfl, hnone, hbase⟩ := hbase
  rw [userFormatters_versionFeatureFlags, hbase] at hflags
  rcases userFormatters_spec m hflags hnone with ⟨f, hf, hformatter⟩ | ⟨hnone, f, hformatter, hlooks⟩
  · rw [detail_formatter hlen h hformatter]
    simp only [mem_cons, not_mem_nil, or_false] at hf
    rcases hf with rfl | rfl | rfl
    all_goals exact writeDetail_written hset h _ _
  · rw [detail_formatterSl hlen h hnone hformatter]
    exact slFunction_written hset h hlooks codeInfo _

theorem entryMetadata_formatter {e : VcpFeatureTableEntry} (he : e.Formats) {vspec : VersionSpec}
    (hdfm : entryMetadata e vspec = .ok dfm) (hflags : dfm.versionFeatureFlags &&& ddcaTable = 0) :
    dfm.vcpVersion = vspec ∧ dfm.versionFeatureFlags = versionSensitiveFlags e vspec ∧
      chosenFormatter e (versionSensitiveFlags e vspec) (getVersionSensitiveSlValues e vspec).isSome =
        .ok dfm.nontableFormatter := by
  obtain ⟨dfm', hdfm', hversion, hsensitive, -⟩ := entryMetadata_spec he vspec
  cases hdfm.symm.trans hdfm'
  refine ⟨hversion, hsensitive, ?_⟩
  rw [hsensitive] at hflags
  unfold entryMetadata extractVersionFeatureInfoFromFeatureTableEntry at hdfm
  rw [if_pos rfl, getVersionSensitiveFeatureFlags_eq he.1, ok_bind, ok_bind] at hdfm
  rw [entryFormatters, if_neg (not_not.2 hflags)] at hdfm
  unfold chosenFormatter
  split
  · rename_i hnontable
    rw [if_pos hnontable] at hdfm
    obtain ⟨formatter, hformatter, hdfm⟩ := bind_eq_ok.1 hdfm
    cases hdfm; exact hformatter
  · rename_i hnontable
    rw [if_neg hnontable] at hdfm
    obtain ⟨_, -, hdfm⟩ := bind_eq_ok.1 hdfm
    cases hdfm; rfl

end

theorem findFeatureValueTable_of_flags (hfind : vcpFindFeatureByHexid e.code = some e) (he : e ∈ vcpCodeTable)
    (h : versionSensitiveFlags e vspec &&& (ddcaSimpleNc ||| ddcaExtendedNc) ≠ 0) :
    findFeatureValueTable e.code vspec = .ok (getVersionSpecificSlValues e vspec) := by
  rw [findFeatureValueTable, hfind]
  dsimp only
  rw [getVersionSensitiveFeatureFlags_eq (formats_of_mem_vcpCodeTable he).1, ok_bind, if_pos (.inl h)]

theorem entryMetadata_written_iff (he : e ∈ vcpCodeTable) (hfind : vcpFindFeatureByHexid e.code = some e)
    {dfm : DisplayFeatureMetadata} (hdfm : entryMetadata e vspec = .ok dfm) (hreadable : dfm.ReadableNontable)
    {bufsz : Nat} (h : 0 < bufsz) {buffer : List Byte} (hlen : buffer.length = bufsz) (mh ml sh sl : Byte) :
    Written bufsz (dynFormatNontableFeatureDetail dfm (singleVcpValueToNontableVcpValue e.code mh ml sh sl) buffer bufsz) ↔
      ¬ ComparesUnknown e.code vspec := by
  have hset : (buffer.set 0 0).length = bufsz := by rw [length_set, hlen]
  obtain ⟨hversion, hflags, hchosen⟩ := entryMetadata_formatter (formats_of_mem_vcpCodeTable he) hdfm hreadable.2
  have hsuited := suited_of_mem he vspec
  obtain ⟨hread, htable⟩ := hreadable
  rw [hflags] at hread htable
  unfold suited at hsuited
  rw [beq_eq_false_iff_ne.2 hread, Bool.false_or, bne_eq_false_iff_eq.2 htable, Bool.false_or, hchosen] at hsuited
  cases hformatter : dfm.nontableFormatter with
  | none =>
    rw [hformatter] at hsuited; cases hsuited
  | some f =>
    rw [hformatter] at hsuited
    simp only [suits, Bool.and_eq_true, Bool.or_eq_true, Bool.not_eq_true', beq_iff_eq, bne_iff_ne, ne_eq] at hsuited
    obtain ⟨⟨hfor, hnames⟩, hcompares⟩ := hsuited
    rw [detail_formatter hlen h hformatter, hversion]
    constructor
    · rintro hwritten ⟨hcode, hlater, h22, h30⟩
      have hf : f.compares = true := by
        rw [hcompares, contains_iff_mem.2 hcode, decide_eq_true hlater]; rfl
      have hvalid : vcpVersionIsValid vspec = false := Bool.eq_false_iff.2 fun hvalid =>
        (eq_of_valid_later hlater hvalid).elim h22 h30
      exact function_not_written hf hvalid _ _ hwritten
    · intro hknown
      refine function_written hset h hfor (fun hlooks => ?_) fun hf => ?_
      · have hvalues := hnames.resolve_left fun hnot => absurd (hnot.symm.trans hlooks) Bool.false_ne_true
        obtain ⟨values, hsome⟩ := Option.isSome_iff_exists.1 hvalues.1
        exact ⟨values, (findFeatureValueTable_of_flags hfind he hvalues.2).trans (congrArg Except.ok hsome)⟩
      · rw [hcompares, Bool.and_eq_true, decide_eq_true_eq, contains_iff_mem] at hf
        by_contra hneither
        rw [not_or] at hneither; exact hknown ⟨hf.1, hf.2, hneither.1, hneither.2⟩

theorem dummyMetadata_written {id : Byte} {dfm : DisplayFeatureMetadata}
    (hdfm : entryMetadata (vcpCreateDummyFeatureForHexid id) vspec = .ok dfm) (hreadable : dfm.ReadableNontable)
    {bufsz : Nat} (h : 0 < bufsz) {buffer : List Byte} (hlen : buffer.length = bufsz) (codeInfo : NontableVcpValue) :
    Written bufsz (dynFormatNontableFeatureDetail dfm codeInfo buffer bufsz) := by
  have hset : (buffer.set 0 0).length = bufsz := by rw [length_set, hlen]
  obtain ⟨-, -, hchosen⟩ := entryMetadata_formatter (formats_dummy id) hdfm hreadable.2
  have hflags : versionSensitiveFlags (vcpCreateDummyFeatureForHexid id) vspec = ddcaRw ||| ddcaComplexNc := by
    obtain ⟨m, hm⟩ := alike_member vspec
    rw [hm.flags_eq]
    cases m <;> rfl
  rw [hflags] at hchosen
  have hformatter : dfm.nontableFormatter = some .debugBytes := (Except.ok.inj hchosen).symm
  rw [detail_formatter hlen h hformatter]; exact writeDetail_written hset h _ _

/-- **Every value of every readable feature is formatted exactly where** the feature is user defined, or its formatter
does not compare a version that is not known. -/
theorem detailWritten_iff (featureCode : Byte) (dfr : Option MarkedRec) (vspec : VersionSpec) (withDefault : Bool)
    (mh ml sh sl : Byte) {bufsz : Nat} (h : 0 < bufsz) :
    DetailWritten featureCode dfr vspec withDefault mh ml sh sl bufsz ↔
      ¬ (dynGetDynamicFeatureMetadata dfr featureCode = none ∧ ComparesUnknown featureCode vspec) := by
  obtain ⟨found, hfound, -⟩ := dynMetadata_spec featureCode dfr vspec withDefault
  have hcases := hfound
  unfold dynGetFeatureMetadataByDfrAndVspecDfm at hcases
  cases hdynamic : dynGetDynamicFeatureMetadata dfr featureCode with
  | some m =>
    rw [hdynamic] at hcases
    obtain ⟨dfm, hdfm, hcases⟩ := bind_eq_ok.1 hcases
    cases hcases
    refine ⟨fun _ hnone => absurd hnone.1 (Option.some_ne_none m), fun _ => ⟨some dfm, hfound, ?_⟩⟩
    intro dfm' hsome hreadable buffer hlen
    cases hsome; exact userMetadata_written (marked_of_dynamic hdynamic) hdfm hreadable.2 hlen h _
  | none =>
    rw [hdynamic] at hcases
    cases hfind : vcpFindFeatureByHexid featureCode with
    | some e =>
      obtain ⟨he, rfl⟩ := mem_of_vcpFindFeatureByHexid hfind
      have hentry : entryFor e.code withDefault = some e := by
        rw [entryFor, vcpFindFeatureByHexidWDefault, hfind]; exact ite_self _
      rw [hentry] at hcases
      obtain ⟨dfm, hdfm, hcases⟩ := bind_eq_ok.1 hcases
      cases hcases
      constructor
      · rintro ⟨found, hfound', hall⟩ ⟨-, hcompares⟩
        cases hfound.symm.trans hfound'
        have hreadable : dfm.ReadableNontable := by
          obtain ⟨e', he', hreadable⟩ := five_readable hcompares.1 hcompares.2.1
          cases hfind.symm.trans he'
          obtain ⟨dfm', hdfm', -, hflags, -⟩ := entryMetadata_spec (formats_of_mem_vcpCodeTable he) vspec
          cases hdfm.symm.trans hdfm'
          rw [DisplayFeatureMetadata.ReadableNontable, hflags]; exact hreadable
        have hlen := length_calloc bufsz
        exact (entryMetadata_written_iff he hfind hdfm hreadable h hlen mh ml sh sl).1
          (hall dfm rfl hreadable (calloc bufsz) hlen) hcompares
      · intro hknown
        refine ⟨some dfm, hfound, fun dfm' hsome hreadable buffer hlen => ?_⟩
        cases hsome
        exact (entryMetadata_written_iff he hfind hdfm hreadable h hlen mh ml sh sl).2 fun hcompares =>
          hknown ⟨rfl, hcompares⟩
    | none =>
      constructor
      · rintro - ⟨-, hcode, hlater, -⟩
        obtain ⟨e, he, -⟩ := five_readable hcode hlater
        exact absurd (he.symm.trans hfind) (Option.some_ne_none e)
      · intro _
        refine ⟨found, hfound, fun dfm hsome hreadable buffer hlen => ?_⟩
        cases withDefault with
        | false =>
          rw [entryFor, if_neg Bool.false_ne_true, hfind] at hcases
          cases hcases; cases hsome
        | true =>
          rw [entryFor, vcpFindFeatureByHexidWDefault, if_pos rfl, hfind] at hcases
          obtain ⟨dfm', hdfm, hcases⟩ := bind_eq_ok.1 hcases
          cases hcases
          cases hsome; exact dummyMetadata_written hdfm hreadable h hlen _

/-- The speaker volume of a display with version 2.2. -/
theorem detailWritten_iff_v22 : DetailWritten 0x62 none vspecV22 true 0 100 0 50 200 :=
  (detailWritten_iff 0x62 none vspecV22 true 0 100 0 50 (Nat.succ_pos 199)).2 fun h => h.2.2.2.1 rfl

/-- **A display that reports version 2.3**: the formatter of its speaker volume asserts that the version is known. -/
theorem speakerVolume_not_written : ∃ dfm,
    dynGetFeatureMetadataByDfrAndVspecDfm 0x62 none ⟨2, 3⟩ true = .ok (some dfm) ∧ dfm.ReadableNontable ∧
      dynFormatNontableFeatureDetail dfm (singleVcpValueToNontableVcpValue 0x62 0 100 0 50) (calloc 200) 200 =
        .error .assertFailed ∧
      ¬ DetailWritten 0x62 none ⟨2, 3⟩ true 0 100 0 50 200 := by
  have hfails : ∀ dfm : DisplayFeatureMetadata, dfm.nontableFormatter = some .x62AudioSpeakerVolume →
      dfm.vcpVersion = ⟨2, 3⟩ → dynFormatNontableFeatureDetail dfm (singleVcpValueToNontableVcpValue 0x62 0 100 0 50)
        (calloc 200) 200 = .error .assertFailed := fun dfm hformatter hversion => by
    rw [detail_formatter (length_calloc 200) (Nat.succ_pos 199) hformatter, hversion]; rfl
  refine ⟨_, rfl, ⟨by decide, by decide⟩, hfails _ rfl rfl, ?_⟩
  rintro ⟨found, hfound, hall⟩
  cases hfound
  obtain ⟨ok, buffer, hok, -⟩ := hall _ rfl ⟨by decide, by decide⟩ (calloc 200) (length_calloc 200)
  cases (hfails _ rfl rfl).symm.trans hok

end Ddc
