import Ddcutil.CapabilitiesReport
import Ddcutil.CapabilitiesValidity
/-!
# CapabilitiesReportSafe — where the report of the capabilities writes

Texts that go to arrays of fixed size are cut off there.  What is left are the two buffers that the number of values
decides on: the array of gamma presets holds 256 of them, and the buffer for values without names ends in front of
itself where there are none.
-/
namespace Ddc

open Kit List Exec

/-! ## Texts -/

theorem rptVstring_eq_ok (depth : Nat) (text : List Byte) : ∃ line, rptVstring depth text = .ok line := by
  unfold rptVstring
  obtain ⟨buffer, hbuffer, -, hnul⟩ := snprintf_malloc (Nat.succ_pos 199) text
  obtain ⟨buf, hbuf, -, hnul'⟩ := snprintf_malloc (Nat.succ_pos text.length) text
  rw [hbuffer, ok_bind]
  split
  · rw [hbuf, ok_bind, readString_of_mem hnul']; exact ⟨_, rfl⟩
  · rw [readString_of_mem hnul]; exact ⟨_, rfl⟩

theorem formatAbsoluteGamma_eq_ok (bgamma : Byte) :
    ∃ mem, formatAbsoluteGamma (malloc 10) 10 bgamma = .ok mem ∧ 0 ∈ mem := by
  unfold formatAbsoluteGamma
  obtain ⟨sgamma1, hsgamma1, -, hnul⟩ := snprintf_malloc (Nat.succ_pos 9) (decimalDigits (bgamma.toNat + 100))
  obtain ⟨left, hleft⟩ := substr_eq_ok (Nat.zero_le (cstr sgamma1).length) ((cstr sgamma1).length - 2)
  obtain ⟨right, hright⟩ := substr_eq_ok (Nat.sub_le (cstr sgamma1).length 2) 2
  obtain ⟨mem, hmem, -, hend⟩ := snprintf_malloc (Nat.succ_pos 9) (left ++ ascii "." ++ right)
  rw [hsgamma1, ok_bind, readString_of_mem hnul, ok_bind, lsub, hleft, ok_bind, hright, ok_bind]
  exact ⟨mem, hmem, hend⟩

theorem formatGamma_eq_ok (relativeGamma : Bool) (rawGamma : Byte) :
    ∃ text, formatGamma relativeGamma rawGamma = .ok text := by
  unfold formatGamma
  obtain ⟨mem, hmem, hnul⟩ := formatAbsoluteGamma_eq_ok rawGamma
  split
  · exact ⟨_, rfl⟩
  · rw [hmem, ok_bind, readString_of_mem hnul]; exact ⟨_, rfl⟩

theorem absoluteToleranceDesc_eq_ok (tolerance : Byte) : ∃ desc, absoluteToleranceDesc tolerance = .ok desc := by
  unfold absoluteToleranceDesc
  split
  · exact ⟨_, rfl⟩
  · rename_i hle
    have hcases := forall_byte (P := fun b => ¬ (0x0a < b) → (absoluteTolerances.lookup b).isSome = true ∨ b = 0x0a)
      (by decide +kernel) tolerance
    rcases hcases hle with hsome | hlast
    · obtain ⟨desc, hdesc⟩ := Option.isSome_iff_exists.1 hsome
      rw [hdesc]; exact ⟨_, rfl⟩
    · rw [hlast]; exact ⟨_, rfl⟩

theorem addHexByte_eq_ok {allocSz : Nat} {buf : List Byte} (hnul : 0 ∈ buf) (hlen : buf.length = allocSz)
    (sep : List Byte) (byte : Byte × Nat) :
    ∃ buf', addHexByte allocSz sep buf byte = .ok buf' ∧ 0 ∈ buf' ∧ buf'.length = allocSz := by
  have hlt : (cstr buf).length < allocSz := hlen ▸ length_cstr_lt hnul
  have hroom : (cstr buf).length + (allocSz - (cstr buf).length) ≤ buf.length := by omega
  obtain ⟨mem, hmem, hsame, hend⟩ := snprintf_eq_ok hroom ((if 0 < byte.2 then sep else []) ++ hexByte false byte.1)
  rw [addHexByte, strlen_of_mem hnul, ok_bind]; exact ⟨mem, hmem, hend (by omega), hsame.trans hlen⟩

theorem bvaAsString_eq_ok (bytes sep : List Byte) : ∃ text, bvaAsString bytes sep = .ok text := by
  unfold bvaAsString
  generalize hsize : bytes.length * (3 + sep.length) + 1 = allocSz
  have hinit : 0 ∈ calloc allocSz ∧ (calloc allocSz).length = allocSz :=
    ⟨mem_replicate.2 ⟨by omega, rfl⟩, length_calloc allocSz⟩
  obtain ⟨buf, hbuf, hnul, -⟩ := foldlM_returns (fun buf : List Byte => 0 ∈ buf ∧ buf.length = allocSz)
    (fun byte (_ : byte ∈ bytes.zipIdx) _ hinv => addHexByte_eq_ok hinv.1 hinv.2 sep byte) hinit
  dsimp only
  rw [hbuf, ok_bind, readString_of_mem hnul]; exact ⟨_, rfl⟩

theorem invalidGammaLines_eq_ok (d0 : Nat) (bytes : List Byte) : ∃ lines, invalidGammaLines d0 bytes = .ok lines := by
  obtain ⟨text, htext⟩ := bvaAsString_eq_ok bytes (ascii " ")
  obtain ⟨line, hline⟩ := rptVstring_eq_ok d0 (ascii "Invalid gamma descriptor: " ++ text)
  rw [invalidGammaLines, htext, ok_bind, hline]; exact ⟨_, rfl⟩

/-! ## Gamma -/

def GammaFits (vals : List Byte) : Prop := vals[2]? = some 0xfb ∨ vals[2]? = some 0xfa → vals.length ≤ 259

instance (vals : List Byte) : Decidable (GammaFits vals) := inferInstanceAs (Decidable (_ → _))

structure GammaRange.Set (r : GammaRange) (bytes : List Byte) : Prop where
  inArray : r.specificGammaCt ≤ r.specificGammas.length
  bounds : r.gammaMode = .limitedRange → bytes.length = 5

variable {bytes : List Byte} {display : Option ReportedDisplay}

theorem copyLimits_eq_ok (h : bytes.length = 5) (bypassSupported : Bool) :
    ∃ r, copyLimits bypassSupported bytes = .ok r ∧ r.Set bytes := by
  have h3 : 3 < bytes.length := by omega
  have h4 : 4 < bytes.length := by omega
  have hlower : 0 < (malloc 256).length := by rw [length_malloc]; omega
  have hupper : 1 < ((malloc 256).set 0 bytes[3]).length := by rw [length_set, length_malloc]; omega
  rw [copyLimits, fetch_of_lt h3, ok_bind, fetch_of_lt h4, ok_bind, store_of_lt hlower, ok_bind,
    store_of_lt hupper, ok_bind]
  refine ⟨_, rfl, ⟨?_, fun _ => h⟩⟩
  rw [length_set, length_set, length_malloc]
  show 2 ≤ 256
  decide

theorem copyPresets_eq_ok (h3 : 3 ≤ bytes.length) (h : bytes.length ≤ 259) (bypassSupported : Bool) :
    ∃ r, copyPresets bypassSupported bytes = .ok r ∧ r.Set bytes := by
  have hlen : ((bytes.drop 3).take (bytes.length - 3)).length = bytes.length - 3 := by
    rw [length_take, length_drop, Nat.min_self]
  have hspan : 3 + (bytes.length - 3) ≤ bytes.length := by omega
  have hroom : 0 + ((bytes.drop 3).take (bytes.length - 3)).length ≤ (malloc 256).length := by
    rw [hlen, length_malloc]; omega
  unfold copyPresets
  dsimp only
  rw [span_of_le hspan, ok_bind, blit_of_le hroom, ok_bind]
  refine ⟨_, rfl, ⟨?_, fun hmode => by cases hmode⟩⟩
  rw [length_overwrite hroom, length_malloc]
  show bytes.length - 3 ≤ 256
  omega

theorem copyPresets_outOfBounds (h : 259 < bytes.length) (bypassSupported : Bool) :
    copyPresets bypassSupported bytes = .error .outOfBounds := by
  have hspan : 3 + (bytes.length - 3) ≤ bytes.length := by omega
  have hroom : (malloc 256).length < 0 + ((bytes.drop 3).take (bytes.length - 3)).length := by
    rw [length_malloc, length_take, length_drop]; omega
  unfold copyPresets
  dsimp only
  rw [span_of_le hspan, ok_bind, blit_of_lt hroom, error_bind]

theorem gammaRange_eq_ok (h3 : 3 ≤ bytes.length) (h : GammaFits bytes) :
    ∃ r, gammaRange bytes = .ok r ∧ ∀ r', r = some r' → r'.Set bytes := by
  have h2 : 2 < bytes.length := h3
  rw [gammaRange, fetch_of_lt h2, ok_bind]
  by_cases hfull : bytes[2] = 0xff ∨ bytes[2] = 0xfe
  · rw [if_pos hfull]
    refine ⟨_, rfl, fun r' hr' => ?_⟩
    split at hr'
    · cases hr'
    · cases hr'; exact ⟨Nat.zero_le _, fun hmode => by cases hmode⟩
  rw [if_neg hfull]
  by_cases hlimited : bytes[2] = 0xfd ∨ bytes[2] = 0xfc
  · rw [if_pos hlimited]
    by_cases h5 : bytes.length = 5
    · obtain ⟨r, hr, hset⟩ := copyLimits_eq_ok h5 (bytes[2] = 0xfc)
      rw [if_neg (not_not_intro h5), hr]
      exact ⟨some r, rfl, fun r' hr' => Option.some.inj hr' ▸ hset⟩
    · rw [if_pos h5]; exact ⟨none, rfl, fun r' hr' => by cases hr'⟩
  rw [if_neg hlimited]
  by_cases hpresets : bytes[2] = 0xfb ∨ bytes[2] = 0xfa
  · rw [if_pos hpresets]
    have hle : bytes.length ≤ 259 := by
      apply h
      rw [getElem?_eq_getElem h2, Option.some_inj, Option.some_inj]; exact hpresets
    obtain ⟨r, hr, hset⟩ := copyPresets_eq_ok h3 hle (bytes[2] = 0xfa)
    by_cases h4 : bytes.length < 4
    · rw [if_pos h4]; exact ⟨none, rfl, fun r' hr' => by cases hr'⟩
    · rw [if_neg h4, hr]; exact ⟨some r, rfl, fun r' hr' => Option.some.inj hr' ▸ hset⟩
  · rw [if_neg hpresets]; exact ⟨none, rfl, fun r' hr' => by cases hr'⟩

theorem gammaRange_outOfBounds (h : ¬ GammaFits bytes) : gammaRange bytes = .error .outOfBounds := by
  obtain ⟨hthird, hlong⟩ := Classical.not_imp.1 h
  have h2 : 2 < bytes.length := by omega
  rw [getElem?_eq_getElem h2, Option.some_inj, Option.some_inj] at hthird
  have hfull : ¬ (bytes[2] = 0xff ∨ bytes[2] = 0xfe) := by
    rcases hthird with hthird | hthird <;> rw [hthird] <;> decide
  have hlimited : ¬ (bytes[2] = 0xfd ∨ bytes[2] = 0xfc) := by
    rcases hthird with hthird | hthird <;> rw [hthird] <;> decide
  have h4 : ¬ bytes.length < 4 := by omega
  rw [gammaRange, fetch_of_lt h2, ok_bind, if_neg hfull, if_neg hlimited, if_pos hthird, if_neg h4,
    copyPresets_outOfBounds (Nat.lt_of_not_le hlong)]
  rfl

theorem addPreset_eq_ok {specificGammas : List Byte} {ndx : Nat} (h : ndx < specificGammas.length)
    (relativeGamma : Bool) (buf : List Byte) : ∃ buf', addPreset relativeGamma specificGammas buf ndx = .ok buf' := by
  unfold addPreset
  obtain ⟨sgamma, hsgamma⟩ := formatGamma_eq_ok relativeGamma specificGammas[ndx]
  obtain ⟨buf2, hbuf2, -, hnul⟩ := snprintf_malloc (Nat.succ_pos 99) ((if 0 < ndx then ascii "," else []) ++ ascii " " ++
    sgamma ++ ascii " (0x" ++ hexByte false specificGammas[ndx] ++ ascii ")")
  rw [fetch_of_lt h, ok_bind, hsgamma, ok_bind, hbuf2, ok_bind, readString_of_mem hnul]
  exact ⟨_, rfl⟩

theorem gammaValues_eq_ok {r : GammaRange} (h : r.Set bytes) (d0 : Nat) (relativeGamma : Bool) :
    ∃ lines, gammaValues d0 relativeGamma bytes r = .ok lines := by
  unfold gammaValues
  cases hmode : r.gammaMode with
  | fullRange => exact ⟨_, rfl⟩
  | limitedRange =>
    have h5 := h.bounds hmode
    have h3 : 3 < bytes.length := by omega
    have h4 : 4 < bytes.length := by omega
    obtain ⟨sglower, hsglower⟩ := formatGamma_eq_ok relativeGamma bytes[3]
    obtain ⟨sgupper, hsgupper⟩ := formatGamma_eq_ok relativeGamma bytes[4]
    obtain ⟨line, hline⟩ := rptVstring_eq_ok d0 (ascii "Lower: " ++ sglower ++ ascii " (0x" ++ hexByte false bytes[3] ++
      ascii "), Upper: " ++ sgupper ++ ascii " (0x" ++ hexByte false bytes[4] ++ ascii ")")
    rw [fetch_of_lt h3, ok_bind, fetch_of_lt h4, ok_bind, hsglower, ok_bind, hsgupper, ok_bind,
      hline]
    exact ⟨_, rfl⟩
  | specificPresets =>
    obtain ⟨buf, hbuf, -⟩ := foldlM_returns (fun _ : List Byte => True)
      (fun ndx (hndx : ndx ∈ List.range r.specificGammaCt) buf _ =>
        (addPreset_eq_ok (Nat.lt_of_lt_of_le (mem_range.1 hndx) h.inArray) relativeGamma buf).imp
          fun _ hbuf => ⟨hbuf, trivial⟩) (b := []) trivial
    obtain ⟨line, hline⟩ := rptVstring_eq_ok d0 (ascii "Specific presets: " ++ buf)
    rw [hbuf, ok_bind, hline]; exact ⟨_, rfl⟩

theorem toleranceLines_eq_ok (d0 : Nat) (relativeGamma : Bool) (tolerance : Byte) (desc : List Byte) :
    ∃ lines, toleranceLines d0 relativeGamma tolerance desc = .ok lines := by
  unfold toleranceLines
  obtain ⟨line, hline⟩ := rptVstring_eq_ok d0 (ascii "Absolute tolerance: " ++ desc ++ ascii " (=0x" ++
    hexByte false tolerance ++ ascii ")")
  split
  · exact ⟨_, rfl⟩
  · rw [hline]; exact ⟨_, rfl⟩

theorem gammaLines_eq_ok {r : GammaRange} (h3 : 3 ≤ bytes.length) (h : r.Set bytes) (d0 : Nat)
    (sNativeGamma desc : List Byte) : ∃ lines, gammaLines d0 bytes sNativeGamma desc r = .ok lines := by
  have h0 : 0 < bytes.length := by omega
  have h1 : 1 < bytes.length := by omega
  have h2 : 2 < bytes.length := h3
  obtain ⟨tolerance, htolerance⟩ := toleranceLines_eq_ok d0 (decide (bytes[0] = 0xff)) bytes[0] desc
  obtain ⟨values, hvalues⟩ := gammaValues_eq_ok h d0 (decide (bytes[0] = 0xff))
  obtain ⟨native, hnative⟩ := rptVstring_eq_ok d0 (ascii "Native gamma: " ++ sNativeGamma ++ ascii " (0x" ++
    hexByte false bytes[1] ++ ascii ")")
  rw [gammaLines, fetch_of_lt h0, ok_bind, fetch_of_lt h1, ok_bind, fetch_of_lt h2, ok_bind]
  obtain ⟨first, hfirst⟩ := rptVstring_eq_ok d0 (r.gammaMode.rangeName ++ ascii " of " ++
    (if decide (bytes[0] = 0xff) = true then ascii "relative" else ascii "absolute") ++
    ascii " adjustment supported" ++
    (if r.bypassSupported = true then ascii ", display has ability to bypass gamma correction" else []) ++
    ascii " (0x" ++ hexByte false bytes[2] ++ ascii ")")
  dsimp only
  rw [hfirst, ok_bind, htolerance, ok_bind, hnative, ok_bind, hvalues]; exact ⟨_, rfl⟩

theorem reportGammaCapabilities_eq_ok (h : GammaFits bytes) (d0 : Nat) :
    ∃ lines, reportGammaCapabilities bytes d0 = .ok lines := by
  unfold reportGammaCapabilities
  by_cases hshort : bytes.length < 3
  · rw [if_pos hshort]; exact invalidGammaLines_eq_ok d0 bytes
  have h0 : 0 < bytes.length := by omega
  have h1 : 1 < bytes.length := by omega
  obtain ⟨native, hnative, hnul⟩ := formatAbsoluteGamma_eq_ok bytes[1]
  obtain ⟨r, hr, hset⟩ := gammaRange_eq_ok (Nat.le_of_not_lt hshort) h
  obtain ⟨desc, hdesc⟩ : ∃ desc, toleranceDesc bytes[0] = .ok desc := by
    unfold toleranceDesc
    split
    · exact ⟨_, rfl⟩
    · exact absoluteToleranceDesc_eq_ok bytes[0]
  rw [if_neg hshort, fetch_of_lt h1, ok_bind, hnative, ok_bind, readString_of_mem hnul, ok_bind, hr,
    ok_bind, fetch_of_lt h0, ok_bind, hdesc, ok_bind]
  cases r with
  | none => exact invalidGammaLines_eq_ok d0 bytes
  | some r => exact gammaLines_eq_ok (Nat.le_of_not_lt hshort) (hset r rfl) d0 (cstr native) desc

theorem reportGammaCapabilities_outOfBounds (h : ¬ GammaFits bytes) (d0 : Nat) :
    reportGammaCapabilities bytes d0 = .error .outOfBounds := by
  have hlong : ¬ bytes.length ≤ 259 := (Classical.not_imp.1 h).2
  have h1 : 1 < bytes.length := by omega
  obtain ⟨native, hnative, hnul⟩ := formatAbsoluteGamma_eq_ok bytes[1]
  unfold reportGammaCapabilities
  rw [if_neg (by omega), fetch_of_lt h1, ok_bind, hnative, ok_bind, readString_of_mem hnul, ok_bind,
    gammaRange_outOfBounds h, error_bind]

/-! ## Other values -/

theorem foldlM_addHexValue {requiredSize : Nat} : ∀ {vals buf : List Byte} {pos : Nat}, buf.length = requiredSize →
    pos + 3 * vals.length ≤ requiredSize →
      ∃ buf', vals.foldlM (addHexValue requiredSize) (buf, pos) = .ok (buf', pos + 3 * vals.length) ∧
        buf'.length = requiredSize
  | [], buf, pos, hlen, _ => ⟨buf, rfl, hlen⟩
  | hval :: vals, buf, pos, hlen, hpos => by
    rw [length_cons] at hpos ⊢
    obtain ⟨mem, hmem, hsame, -⟩ := snprintf_eq_ok (show pos + (requiredSize - pos) ≤ buf.length by omega)
      (hexByte true hval ++ ascii " ")
    obtain ⟨buf', hbuf', hlen'⟩ := foldlM_addHexValue (hsame.trans hlen) (show pos + 3 + 3 * vals.length ≤ requiredSize by omega)
    have hstep : addHexValue requiredSize (buf, pos) hval = .ok (mem, pos + 3) := by
      rw [addHexValue, hmem, ok_bind]
    rw [foldlM_cons, hstep, ok_bind, hbuf']
    exact ⟨buf', by rw [Nat.mul_succ, Nat.add_assoc, Nat.add_comm 3], hlen'⟩

theorem valuesText_eq_ok {vals : List Byte} (h : vals ≠ []) : ∃ text, valuesText vals = .ok text := by
  have hpos : 0 < vals.length := length_pos_iff.2 h
  have hroom : 0 + 3 * vals.length ≤ 3 * vals.length := Nat.le_of_eq (Nat.zero_add _)
  obtain ⟨buf, hbuf, hlen⟩ := foldlM_addHexValue (length_malloc (3 * vals.length)) hroom
  obtain ⟨last, hlast⟩ : ∃ last, 0 + 3 * vals.length = last + 1 := ⟨3 * vals.length - 1, by omega⟩
  have hstore : last < buf.length := by omega
  have hnul : (0 : Byte) ∈ buf.set last 0 :=
    mem_iff_getElem.2 ⟨last, by rwa [length_set], getElem_set_self _⟩
  unfold valuesText
  dsimp only
  rw [hbuf, hlast, ok_bind]
  dsimp only [storeBefore]
  rw [store_of_lt hstore, ok_bind, readString_of_mem hnul]; exact ⟨_, rfl⟩

variable (verbose : Bool)

theorem interpretedLines_eq_ok (depth : Nat) (featureValues : List FeatureValueEntry) (vals : List Byte) :
    ∃ lines, interpretedLines verbose depth featureValues vals = .ok lines := by
  obtain ⟨lines, hlines⟩ := mapM_ok_of_forall (l := vals) fun hval _ =>
    rptVstring_eq_ok (depth + 1) (hexByte false hval ++ ascii ": " ++
      (slValueTableLookup featureValues hval).getD (ascii "Unrecognized value"))
  rw [interpretedLines, hlines]; exact ⟨_, rfl⟩

theorem uninterpretedLines_eq_ok {vals : List Byte} (h : vals ≠ []) (verbose : Bool) (depth : Nat) :
    ∃ lines, uninterpretedLines verbose depth vals = .ok lines := by
  obtain ⟨text, htext⟩ := valuesText_eq_ok h
  obtain ⟨line, hline⟩ := rptVstring_eq_ok depth
    ((if verbose = true then ascii "Values (  parsed): " else ascii "Values: ") ++ text ++
      ascii " (interpretation unavailable)")
  rw [uninterpretedLines, htext, ok_bind, hline]; exact ⟨_, rfl⟩

/-- **The values of a feature fit**: presets in their array, and values without a table are not missing. -/
def ValuesFit (featureId : Byte) (vcpVersion : VersionSpec) (vals : List Byte) : Prop :=
  if featureId = 0x72 then GammaFits vals
  else vals = [] → findFeatureValuesForCapabilities featureId vcpVersion ≠ .ok none

/-- **The values of a feature are reported where they fit**, and written out of bounds where they do not. -/
theorem valuesLines_cases (depth : Nat) (featureId : Byte) (vcpVersion : VersionSpec) (vals : List Byte) :
    (ValuesFit featureId vcpVersion vals → ∃ lines, valuesLines verbose depth featureId vcpVersion vals = .ok lines) ∧
    (¬ ValuesFit featureId vcpVersion vals →
      valuesLines verbose depth featureId vcpVersion vals = .error .outOfBounds) := by
  unfold ValuesFit valuesLines
  by_cases hgamma : featureId = 0x72
  · rw [if_pos hgamma, if_pos hgamma]
    exact ⟨fun h => reportGammaCapabilities_eq_ok h depth, fun h => reportGammaCapabilities_outOfBounds h depth⟩
  rw [if_neg hgamma, if_neg hgamma]
  obtain ⟨table, htable⟩ := findFeatureValuesForCapabilities_eq_ok featureId vcpVersion
  rw [htable, ok_bind]
  cases table with
  | some featureValues =>
    exact ⟨fun _ => interpretedLines_eq_ok verbose depth featureValues vals, fun h => absurd (fun _ h' => by cases h') h⟩
  | none =>
    refine ⟨fun h => uninterpretedLines_eq_ok (fun hnil => h hnil rfl) verbose depth, fun h => ?_⟩
    rw [(Classical.not_imp.1 h).1]; rfl

/-! ## A feature -/

theorem unparsedLines_eq_ok (depth : Nat) (valueString : Option (List Byte)) :
    ∃ lines, unparsedLines verbose depth valueString = .ok lines := by
  unfold unparsedLines
  cases valueString with
  | none => exact ⟨_, rfl⟩
  | some s =>
    obtain ⟨line, hline⟩ := rptVstring_eq_ok depth (ascii "Values (unparsed): " ++ cstr s)
    dsimp only
    split
    · rw [hline]; exact ⟨_, rfl⟩
    · exact ⟨_, rfl⟩

def NotUserDefined (display : Option ReportedDisplay) (featureId : Byte) : Prop := metadataOf featureId display = .ok none

theorem dynGetFeatureName_eq_ok {featureId : Byte} (h : NotUserDefined display featureId) :
    ∃ name, dynGetFeatureName featureId display = .ok name := by
  cases display with
  | none => exact ⟨_, rfl⟩
  | some display =>
    have hmeta : recordMetadata display featureId = .ok none := by
      unfold recordMetadata
      split
      · exact h
      · rfl
    unfold dynGetFeatureName
    dsimp only
    rw [hmeta]; exact ⟨_, rfl⟩

theorem dynReportOneCapFeature_safe_iff {vfr : CapabilitiesFeature} (h : NotUserDefined display vfr.featureId)
    (verbose : Bool) (vcpVersion : VersionSpec) (depth : Nat) :
    dynReportOneCapFeature verbose display vcpVersion depth vfr ≠ .error .outOfBounds ↔
      ∀ vals, vfr.values = some vals → ValuesFit vfr.featureId vcpVersion vals := by
  obtain ⟨name, hname⟩ := dynGetFeatureName_eq_ok h
  obtain ⟨title, htitle⟩ := rptVstring_eq_ok depth (ascii "Feature: " ++ hexByte true vfr.featureId ++ ascii " (" ++
    printed name ++ ascii ")")
  obtain ⟨unparsed, hunparsed⟩ := unparsedLines_eq_ok verbose (depth + 1) vfr.valueString
  have hmeta : metadataOf vfr.featureId display = .ok none := h
  rw [dynReportOneCapFeature, hmeta, ok_bind]
  dsimp only [builtInLines]
  rw [hname, ok_bind, htitle, ok_bind, hunparsed, ok_bind]
  cases hvalues : vfr.values with
  | none => exact iff_of_true (ok_ne_error _ _) fun vals hvals => by cases hvals
  | some vals =>
    obtain ⟨hfit, hnofit⟩ := valuesLines_cases verbose (depth + 1) vfr.featureId vcpVersion vals
    dsimp only [parsedLines]
    by_cases hvals : ValuesFit vfr.featureId vcpVersion vals
    · obtain ⟨lines, hlines⟩ := hfit hvals
      rw [hlines]
      exact iff_of_true (ok_ne_error _ _) fun vals' hvals' => Option.some.inj hvals' ▸ hvals
    · rw [hnofit hvals]; exact iff_of_false (fun hne => hne rfl) fun hall => hvals (hall vals rfl)

theorem copyValueString_eq_ok (valueString : List Byte) : ∃ mem, copyValueString valueString = .ok mem := by
  have hroom : 0 + valueString.length ≤ (malloc (valueString.length + 1)).length := by
    rw [length_malloc]; omega
  have hstore : valueString.length < (overwrite (malloc (valueString.length + 1)) 0 valueString).length := by
    rw [length_overwrite hroom, length_malloc]; omega
  rw [copyValueString, blit_of_le hroom, ok_bind, store_of_lt hstore]; exact ⟨_, rfl⟩

/-! ## The whole string -/

theorem flatMap_features (segs : List Seg) : segs.flatMap Seg.features =
    ((segs.filter fun s => s.IsVcp).flatMap fun s => lexItems s.value).filterMap VcpItem.feature := by
  induction segs with
  | nil => rfl
  | cons s segs ih =>
    rw [flatMap_cons, ih, Seg.features]
    by_cases hvcp : s.IsVcp
    · have hfilter : (s :: segs).filter (fun s => s.IsVcp) = s :: segs.filter fun s => s.IsVcp :=
        filter_cons_of_pos (decide_eq_true hvcp)
      rw [if_pos hvcp, hfilter, flatMap_cons, filterMap_append]
    · have hfilter : (s :: segs).filter (fun s => s.IsVcp) = segs.filter fun s => s.IsVcp :=
        filter_cons_of_neg (fun h => hvcp (of_decide_eq_true h))
      rw [if_neg hvcp, hfilter, nil_append]

theorem applyText_vcpFeatures {stop : Nat} {raw text : List Byte} {pcaps : ParsedCapabilities}
    (h : applyText stop (ParsedCapabilities.init raw) text = .ok pcaps) :
    pcaps.vcpFeatures = (lexSegments text).1.flatMap Seg.features := by
  have hfold := foldl_applySegment_vcpFeatures (lexSegments text).1 (ParsedCapabilities.init raw)
  unfold applyText at h
  cases hend : (lexSegments text).2 with
  | done =>
    rw [hend] at h
    cases h; exact hfold
  | blanks =>
    rw [hend] at h; cases h
  | fault f left =>
    rw [hend] at h
    cases h; exact hfold

theorem vcpFeatures_eq {pcaps : ParsedCapabilities} (h : parseCapabilities bytes = .ok pcaps) :
    pcaps.vcpFeatures = (vcpItems bytes).filterMap VcpItem.feature := by
  rw [parseCapabilities_eq] at h
  unfold capsResult at h
  unfold vcpItems capsSegments
  cases ho : outer (rtrim bytes) with
  | unclosed =>
    rw [ho] at h
    cases h; rfl
  | parens inner =>
    rw [ho] at h; exact (applyText_vcpFeatures h).trans (flatMap_features _)
  | bare text =>
    rw [ho] at h; exact (applyText_vcpFeatures h).trans (flatMap_features _)

theorem parseCapabilities_ne_outOfBounds (bytes : List Byte) : parseCapabilities bytes ≠ .error .outOfBounds := by
  rw [parseCapabilities_eq]
  by_cases htail : BlankTail bytes
  · rw [capsResult_blankTail htail]; exact error_ne_error (by decide)
  · obtain ⟨pcaps, hok, -⟩ := capsResult_eq_ok htail
    rw [hok]; exact ok_ne_error _ _

/-- **The parser and the report of each feature that is not user defined write inside their buffers.** -/
structure ReportedInside (verbose : Bool) (display : Option ReportedDisplay) (vcpVersion : VersionSpec) (depth : Nat)
    (bytes : List Byte) : Prop where
  parsed : parseCapabilities bytes ≠ .error .outOfBounds
  copied : ∀ pcaps, parseCapabilities bytes = .ok pcaps → ∀ vfr ∈ pcaps.vcpFeatures, ∀ s, vfr.valueString = some s →
    copyValueString s ≠ .error .outOfBounds
  reported : ∀ pcaps, parseCapabilities bytes = .ok pcaps → ∀ vfr ∈ pcaps.vcpFeatures,
    NotUserDefined display vfr.featureId →
      dynReportOneCapFeature verbose display vcpVersion depth vfr ≠ .error .outOfBounds

/-- **The list behind a code fits**, where the code is that of a feature that is not user defined. -/
def VcpItem.Fits (display : Option ReportedDisplay) (vcpVersion : VersionSpec) (item : VcpItem) : Prop :=
  ∀ id list, item.featureId = some id → item.values = .list list → NotUserDefined display id →
    ValuesFit id vcpVersion (storeBytehexList list).2

theorem VcpItem.fits_iff {vcpVersion : VersionSpec} {item : VcpItem} :
    item.Fits display vcpVersion ↔ ∀ vfr, item.feature = some vfr → NotUserDefined display vfr.featureId →
      ∀ vals, vfr.values = some vals → ValuesFit vfr.featureId vcpVersion vals := by
  unfold VcpItem.Fits VcpItem.feature
  cases hid : item.featureId with
  | none => exact iff_of_true (fun id list h => by cases h) (fun vfr h => by cases h)
  | some id =>
    cases hvalues : item.values with
    | bare =>
      refine iff_of_true (fun id' list _ h => by cases h) (fun vfr h hudf vals hvals => ?_)
      cases h; cases hvals
    | notClosed => exact iff_of_true (fun id' list _ h => by cases h) (fun vfr h => by cases h)
    | list list =>
      constructor
      · intro h vfr hvfr hudf vals hvals
        cases hvfr
        cases hvals; exact h id list rfl rfl hudf
      · intro h id' list' hid' hlist hudf
        cases hid'
        cases hlist; exact h _ rfl hudf _ rfl

/-- **Capabilities are parsed and reported inside the buffers exactly where** the string makes the parser stop at a
`NULL` segment, or the list behind each code fits. -/
theorem reportedInside_iff (verbose : Bool) (display : Option ReportedDisplay) (vcpVersion : VersionSpec) (depth : Nat)
    (bytes : List Byte) : ReportedInside verbose display vcpVersion depth bytes ↔
      BlankTail bytes ∨ ∀ item ∈ vcpItems bytes, item.Fits display vcpVersion := by
  constructor
  · intro h
    by_cases htail : BlankTail bytes
    · exact .inl htail
    obtain ⟨pcaps, hok, -⟩ := capsResult_eq_ok htail
    rw [← parseCapabilities_eq] at hok
    refine .inr fun item hitem => VcpItem.fits_iff.2 fun vfr hvfr hudf => ?_
    have hmem : vfr ∈ pcaps.vcpFeatures := by
      rw [vcpFeatures_eq hok]; exact mem_filterMap.2 ⟨item, hitem, hvfr⟩
    exact (dynReportOneCapFeature_safe_iff hudf verbose vcpVersion depth).1 (h.reported pcaps hok vfr hmem hudf)
  · intro h
    refine ⟨parseCapabilities_ne_outOfBounds bytes, fun pcaps hok vfr hmem s _ => ?_, fun pcaps hok vfr hmem hudf => ?_⟩
    · obtain ⟨mem, hmem'⟩ := copyValueString_eq_ok s
      rw [hmem']; exact ok_ne_error _ _
    · rcases h with htail | hfits
      · rw [parseCapabilities_eq, capsResult_blankTail htail] at hok; cases hok
      · rw [vcpFeatures_eq hok] at hmem
        obtain ⟨item, hitem, hvfr⟩ := mem_filterMap.1 hmem
        exact (dynReportOneCapFeature_safe_iff hudf verbose vcpVersion depth).2
          (VcpItem.fits_iff.1 (hfits item hitem) vfr hvfr hudf)

/-- Brightness with an empty list: it has no value table, and the NUL is written in front of the buffer. -/
theorem emptyList_not_inside : ¬ ReportedInside false none ⟨2, 1⟩ 1 (ascii "(vcp(10()))") := by
  intro h
  have hparsed : (ParsedCapabilities.vcpFeatures <$> parseCapabilities (ascii "(vcp(10()))")) =
      .ok [⟨0x10, some [], some [], true⟩] := by decide
  cases hok : parseCapabilities (ascii "(vcp(10()))") with
  | error e =>
    rw [hok] at hparsed; cases hparsed
  | ok pcaps =>
    rw [hok] at hparsed
    have hmem : (⟨0x10, some [], some [], true⟩ : CapabilitiesFeature) ∈ pcaps.vcpFeatures := by
      rw [Except.ok.inj hparsed]; exact mem_cons_self
    exact h.reported pcaps hok _ hmem rfl (by decide +kernel)

end Ddc
