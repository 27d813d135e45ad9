import Ddcutil.StrToLong
/-!
# VspecText — a version and its text (vcp_version.c)

`parse_vspec` is one call of `sscanf`, which allows signs, cuts its numbers to bytes and reads no further than the
second one.
-/
namespace Ddc.Vspec

open Kit List

variable {s t sign digits rest : List Byte} {v : VersionSpec} {b : Byte}

def formatVspec (vspec : VersionSpec) : List Byte :=
  if vspec = vspecUnqueried then ascii "Unqueried"
  else if vspec = vspecUnknown then ascii "Unknown"
  else (decimal vspec.major.toNat ++ 0x2e :: decimal vspec.minor.toNat).take 19

/-- **What `%hhd` takes of a text**: white space, a sign, and the digits up to the first byte that is none. -/
structure Scans (s sign digits rest : List Byte) : Prop where
  text : ∃ blanks : List Byte, blanks.all isspace = true ∧ s = blanks ++ (sign ++ (digits ++ rest))
  sign : sign = [] ∨ sign = [0x2b] ∨ sign = [0x2d]
  digits : AreDigits 10 digits
  rest : rest.dropWhile (isDigit 10) = rest

def cutNumber (sign digits : List Byte) : Byte :=
  UInt8.ofInt (max longMin (min longMax (if sign = [0x2d] then -digitsVal 10 digits else digitsVal 10 digits)))

def Taken (s : List Byte) (v : VersionSpec) : Prop :=
  ∃ sign₁ digits₁ blanks t sign₂ digits₂ rest, Scans s sign₁ digits₁ (blanks ++ 0x2e :: t) ∧
    blanks.all isspace = true ∧ Scans t sign₂ digits₂ rest ∧ v = ⟨cutNumber sign₁ digits₁, cutNumber sign₂ digits₂⟩

/-- **The whole text is the two numbers**, with a point between them and white space around each. -/
def Denotes (s : List Byte) (v : VersionSpec) : Prop :=
  ∃ digits₁ blanks t digits₂ rest, Scans s [] digits₁ (blanks ++ 0x2e :: t) ∧ blanks.all isspace = true ∧
    Scans t [] digits₂ rest ∧ rest.all isspace = true ∧ digitsVal 10 digits₁ = v.major.toNat ∧
      digitsVal 10 digits₂ = v.minor.toNat

def VspecRight (s : List Byte) : Prop :=
  (parseVspec s = vspecUnknown ∨ vcpVersionIsValid (parseVspec s) = true) ∧
    ∀ v, vcpVersionIsValid v = true → (parseVspec s = v ↔ Denotes s v)

section
variable (h : AreDigits 10 digits) (hsign : sign = [] ∨ sign = [0x2b] ∨ sign = [0x2d])
include h hsign

theorem takeSign_eq : takeSign (sign ++ (digits ++ rest)) = (decide (sign = [0x2d]), digits ++ rest) := by
  obtain ⟨c, ds, rfl⟩ := exists_cons_of_ne_nil h.1
  obtain ⟨n, hn⟩ := exists_digitVal (all_eq_true.1 h.2 c mem_cons_self)
  rcases hsign with rfl | rfl | rfl
  · exact takeSign_of_digitVal hn _
  · rfl
  · rfl

theorem dropWhile_signed : (sign ++ (digits ++ rest)).dropWhile isspace = sign ++ (digits ++ rest) := by
  obtain ⟨c, ds, rfl⟩ := exists_cons_of_ne_nil h.1
  obtain ⟨n, hn⟩ := exists_digitVal (all_eq_true.1 h.2 c mem_cons_self)
  rcases hsign with rfl | rfl | rfl
  · exact dropWhile_cons_of_neg (by simp [isspace_of_digitVal hn])
  · rfl
  · rfl

end

theorem Scans.dropWhile (h : Scans s sign digits rest) : s.dropWhile isspace = sign ++ (digits ++ rest) := by
  obtain ⟨blanks, hblanks, rfl⟩ := h.text
  rw [dropWhile_append_of_pos (all_eq_true.1 hblanks), dropWhile_signed h.digits h.sign]

theorem takeWhile_digits (h : AreDigits 10 digits) (hrest : rest.dropWhile (isDigit 10) = rest) :
    (digits ++ rest).takeWhile (isDigit 10) = digits ∧ (digits ++ rest).dropWhile (isDigit 10) = rest := by
  have hall := all_eq_true.1 h.2
  have hnone : rest.takeWhile (isDigit 10) = [] := by
    have := congrArg List.length (takeWhile_append_dropWhile (p := isDigit 10) (l := rest))
    rw [hrest, length_append] at this; exact length_eq_zero_iff.1 (by omega)
  rw [takeWhile_append_of_pos hall, dropWhile_append_of_pos hall, hnone, append_nil]
  exact ⟨rfl, hrest⟩

theorem scanHhd_scans (h : Scans s sign digits rest) : scanHhd s = some (cutNumber sign digits, rest) := by
  obtain ⟨htake, hdrop⟩ := takeWhile_digits h.digits h.rest
  have hne : rest ≠ s := by
    obtain ⟨blanks, -, rfl⟩ := h.text
    intro heq
    have := congrArg List.length heq
    have hpos := length_pos_iff.2 h.digits.1
    simp only [length_append] at this; omega
  rw [scanHhd, strtol, h.dropWhile, takeSign_eq h.digits h.sign]
  simp [htake, hdrop, h.digits.1, hne, cutNumber]

theorem scans_of_scanHhd (h : scanHhd s = some (b, rest)) :
    ∃ sign digits, Scans s sign digits rest ∧ b = cutNumber sign digits := by
  unfold scanHhd strtol at h
  simp only [show (10 : Nat) ≠ 16 by decide, if_false] at h
  generalize hsigned : takeSign (s.dropWhile isspace) = signed at h
  by_cases hdigits : signed.2.takeWhile (isDigit 10) = []
  · simp [hdigits] at h
  · obtain ⟨sign, hsign, hneg, htext⟩ : ∃ sign : List Byte, (sign = [] ∨ sign = [0x2b] ∨ sign = [0x2d]) ∧
        signed.1 = decide (sign = [0x2d]) ∧ s.dropWhile isspace = sign ++ signed.2 := by
      cases hs : s.dropWhile isspace with
      | nil =>
        rw [hs] at hsigned
        subst hsigned; exact ⟨[], .inl rfl, rfl, rfl⟩
      | cons c t =>
        rw [hs, takeSign] at hsigned
        split at hsigned
        · rename_i hc
          subst hsigned hc
          exact ⟨[0x2d], .inr (.inr rfl), rfl, rfl⟩
        · split at hsigned
          · rename_i hc
            subst hsigned hc
            exact ⟨[0x2b], .inr (.inl rfl), rfl, rfl⟩
          · subst hsigned; exact ⟨[], .inl rfl, rfl, rfl⟩
    simp only [if_neg hdigits] at h
    split at h
    · cases h
    · cases h
      refine ⟨sign, signed.2.takeWhile (isDigit 10), ⟨⟨s.takeWhile isspace, all_takeWhile, ?_⟩, hsign,
        ⟨hdigits, all_takeWhile⟩, dropWhile_idempotent _ _⟩, ?_⟩
      · rw [takeWhile_append_dropWhile, ← htext, takeWhile_append_dropWhile]
      · rw [cutNumber, hneg]; simp

theorem scanDot_eq_some : scanDot s = some t ↔
    ∃ blanks u : List Byte, blanks.all isspace = true ∧ s = blanks ++ 0x2e :: u ∧ t = u.dropWhile isspace := by
  unfold scanDot
  constructor
  · intro h
    cases hs : s.dropWhile isspace with
    | nil => rw [hs] at h; cases h
    | cons c u =>
      rw [hs] at h
      dsimp only at h
      split at h
      · rename_i hc
        cases h
        refine ⟨s.takeWhile isspace, u, all_takeWhile, ?_, rfl⟩
        rw [← hc, ← hs, takeWhile_append_dropWhile]
      · cases h
  · rintro ⟨blanks, u, hblanks, rfl, rfl⟩
    rw [dropWhile_append_of_pos (all_eq_true.1 hblanks), dropWhile_cons_of_neg (by decide)]; rfl

theorem Scans.behindBlanks (h : Scans s sign digits rest) : Scans (s.dropWhile isspace) sign digits rest :=
  ⟨⟨[], rfl, h.dropWhile⟩, h.sign, h.digits, h.rest⟩

theorem Scans.ofBehind (h : Scans (s.dropWhile isspace) sign digits rest) : Scans s sign digits rest := by
  refine ⟨⟨s.takeWhile isspace, all_takeWhile, ?_⟩, h.sign, h.digits, h.rest⟩
  have hdrop := h.dropWhile
  rw [dropWhile_idempotent] at hdrop
  rw [← hdrop, takeWhile_append_dropWhile]

theorem scanVspec_iff : scanVspec s = some v ↔ Taken s v := by
  unfold scanVspec
  constructor
  · intro h
    obtain ⟨⟨major, s'⟩, hmajor, h⟩ := Option.bind_eq_some_iff.1 h
    obtain ⟨t, hdot, h⟩ := Option.bind_eq_some_iff.1 h
    obtain ⟨⟨minor, rest⟩, hminor, h⟩ := Option.bind_eq_some_iff.1 h
    cases h
    obtain ⟨blanks, u, hblanks, rfl, rfl⟩ := scanDot_eq_some.1 hdot
    obtain ⟨sign₁, digits₁, h₁, rfl⟩ := scans_of_scanHhd hmajor
    obtain ⟨sign₂, digits₂, h₂, rfl⟩ := scans_of_scanHhd hminor
    exact ⟨sign₁, digits₁, blanks, u, sign₂, digits₂, rest, h₁, hblanks, h₂.ofBehind, rfl⟩
  · rintro ⟨sign₁, digits₁, blanks, u, sign₂, digits₂, rest, h₁, hblanks, h₂, rfl⟩
    simp only [scanHhd_scans h₁, scanDot_eq_some.2 ⟨blanks, u, hblanks, rfl, rfl⟩, scanHhd_scans h₂.behindBlanks,
      Option.bind_eq_bind, Option.bind_some, Option.pure_def]

theorem cutNumber_unsigned (h : digitsVal 10 digits = b.toNat) : cutNumber [] digits = b := by
  have hlt := b.toNat_lt
  have hlow : longMin ≤ 0 := by decide
  have hmax : (256 : Int) ≤ longMax := by decide
  rw [cutNumber, if_neg (by decide), h, Int.min_eq_right (by omega), Int.max_eq_right (by omega), ofInt_natCast,
    UInt8.ofNat_toNat]

theorem Denotes.taken (h : Denotes s v) : Taken s v := by
  obtain ⟨digits₁, blanks, t, digits₂, rest, h₁, hblanks, h₂, -, hmajor, hminor⟩ := h
  refine ⟨[], digits₁, blanks, t, [], digits₂, rest, h₁, hblanks, h₂, ?_⟩
  rw [cutNumber_unsigned hmajor, cutNumber_unsigned hminor]

theorem known_inRange (h : vcpVersionIsValid v = true) : ¬ (v.major > 3 ∨ v.minor > 2) ∧ v ≠ vspecUnknown := by
  simp only [vcpVersionIsValid, Bool.or_eq_true, beq_iff_eq] at h
  rcases h with (((rfl | rfl) | rfl) | rfl) | rfl <;> decide

/-- **The texts for which `parse_vspec` is right**: those that denote a known version, and those whose beginning the
format does not take as a version that passes the test of the range. -/
def KnownOrRefused (s : List Byte) : Prop :=
  (∃ v, vcpVersionIsValid v = true ∧ Denotes s v) ∨
    ∀ v, Taken s v → (v.major > 3 ∨ v.minor > 2) ∨ v = vspecUnknown

theorem vspecRight_iff (s : List Byte) : VspecRight s ↔ KnownOrRefused s := by
  have hparse : ∀ {v}, Taken s v → parseVspec s = if v.major > 3 ∨ v.minor > 2 then vspecUnknown else v := by
    intro v h
    rw [parseVspec, scanVspec_iff.2 h]
  constructor
  · rintro ⟨hkind, hdenotes⟩
    by_cases hloose : ∀ v, Taken s v → (v.major > 3 ∨ v.minor > 2) ∨ v = vspecUnknown
    · exact .inr hloose
    · push Not at hloose
      obtain ⟨v, htaken, hrange, hne⟩ := hloose
      have heq : parseVspec s = v := by rw [hparse htaken, if_neg (by simpa using hrange)]
      rw [heq] at hkind
      have hvalid := hkind.resolve_left hne
      exact .inl ⟨v, hvalid, (hdenotes v hvalid).1 heq⟩
  · have hof : ∀ {v}, vcpVersionIsValid v = true → Denotes s v → parseVspec s = v := fun hvalid h => by
      rw [hparse h.taken, if_neg (known_inRange hvalid).1]
    rintro (⟨v, hvalid, hv⟩ | hloose)
    · have heq := hof hvalid hv
      refine ⟨.inr (heq ▸ hvalid), fun w hw => ⟨fun h => ?_, hof hw⟩⟩
      rwa [← h, heq]
    · have hunknown : parseVspec s = vspecUnknown := by
        cases hscan : scanVspec s with
        | none => rw [parseVspec, hscan]
        | some v =>
          have htaken := scanVspec_iff.1 hscan
          rw [hparse htaken]
          split
          · rfl
          · rename_i hrange; exact (hloose v htaken).resolve_left hrange
      refine ⟨.inl hunknown, fun w hw => ⟨fun h => ?_, hof hw⟩⟩
      exact absurd (h.symm.trans hunknown) (known_inRange hw).2

/-- **`parse_vspec` is right exactly of these texts, and of every text that `format_vspec` makes.** -/
theorem parseVspec_right_iff (s : List Byte) (v : VersionSpec) :
    (VspecRight s ↔ KnownOrRefused s) ∧
      (vcpVersionIsValid v = true ∨ v = vspecUnknown → parseVspec (formatVspec v) = v) := by
  refine ⟨vspecRight_iff s, fun h => ?_⟩
  simp only [vcpVersionIsValid, Bool.or_eq_true, beq_iff_eq] at h
  rcases h with ((((rfl | rfl) | rfl) | rfl) | rfl) | rfl <;> decide +kernel

/-- `3.1` comes back as version 3.1. -/
theorem version31_not_right : ¬ VspecRight (ascii "3.1") := by
  rintro ⟨hkind, -⟩
  exact absurd hkind (by decide +kernel)

end Ddc.Vspec
