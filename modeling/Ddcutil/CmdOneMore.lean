import Ddcutil.CmdFrameRuns
/-!
# CmdOneMore — what is promised of one option more (cmd_parser_goption.c)

Two accepted command lines differ in one option.
-/
namespace Ddc.Cmd

open Kit

def StoresAsyncMin (b : Build) (parserMode : ParserMode) (o : GivenOption) : Prop :=
  ∃ e, findEntry b parserMode o.longName = some e ∧
    (e.argData = .i2cBusCheckAsyncMin ∨ e.argData = .ddcCheckAsyncMin)

/-- **The bit is set or cleared in any case** when the floating point numbers are parsed: there is a sleep multiplier, or
the command is one that does not take the flag. -/
def Settled (b : Build) (cmdAndArgs : List (List Byte)) (v : Vars) (k : Nat) : Prop :=
  (k = 44 ∧ (v.str .sleepMultiplierWork).isSome = true) ∨
    (k = 10 ∧ commandId b cmdAndArgs = some cmdidVcpinfo) ∨ (k = 18 ∧ commandId b cmdAndArgs = some cmdidGetvcp)

/-- **When one option more changes only what it controls.**  `w` is what is stored by the options before it, `post` are the
options behind it, and `v` is what is stored without it. -/
def FrameCondition (b : Build) (parserMode : ParserMode) (cmdAndArgs : List (List Byte)) (post : List GivenOption)
    (w v : Vars) (e : OptionEntry) (value : OptionValue) : Prop :=
  match e.argData, value with
  -- the bit of the special flag comes into `flags`, unless it is there
  | .none (.f n) _, _ => floatGiven v = true → v.flag (.f n) = true ∨ Settled b cmdAndArgs v n
  | .string (.i n), _ => floatGiven v = true → (v.str (.i n)).isSome = true ∨ Settled b cmdAndArgs v (40 + n)
  -- the first number: the two words are the same, but for the bit of the number itself
  | .string .fl1Work, _ =>
    floatGiven v = true ∨ ∀ k, Settled b cmdAndArgs v k ∨ flagAsked b v k = (flag2Asked v k || decide (k = 60))
  | .string .fl2Work, _ => (v.str .fl2Work).isSome = true
  | .i2cBusCheckAsyncMin, .int n =>
    (∃ o ∈ post, StoresAsyncMin b parserMode o) ∨ w.ddcCheckAsyncMin = n.extractLsb' 16 16
  | _, _ => True

section
variable {b : Build} {parserMode : ParserMode} {cmdAndArgs : List (List Byte)} {pre post : List GivenOption}
  {w v v' : Vars} {c c' : ParsedCmd} {e : OptionEntry} {value : OptionValue} {change : Vars → Vars}

def SameFlags (e : OptionEntry) (value : OptionValue) (c c' : ParsedCmd) : Prop :=
  ∀ k, ¬ e.Controls value (.flag k) → c.get (.flag k) = c'.get (.flag k)

/-! ## A bit of `flags` -/

theorem settled_bool : ∀ x x' s t u : Bool,
    ((x || s) && !t && !u) = ((x' || s) && !t && !u) ↔ (s = true ∨ t = true ∨ u = true) ∨ x = x' := by
  decide

theorem accepted_flag_iff (h : Accepted b parserMode v cmdAndArgs c) (h' : Accepted b parserMode v' cmdAndArgs c')
    {k : Nat} (hsleep : k = 44 → (v.str .sleepMultiplierWork).isSome = (v'.str .sleepMultiplierWork).isSome) :
    c.get (.flag k) = c'.get (.flag k) ↔ Settled b cmdAndArgs v k ∨ flagFloats b v k = flagFloats b v' k := by
  rw [accepted_flag h, accepted_flag h', flagTaken, flagTaken, ← onlyAt hsleep, settled_bool]
  simp only [Settled, Bool.and_eq_true, decide_eq_true_eq]

theorem Settled.bit {k : Nat} (h : Settled b cmdAndArgs v k) : k = 44 ∨ k = 10 ∨ k = 18 :=
  h.imp And.left (Or.imp And.left And.left)

theorem flagTable_special : ∀ e ∈ flagTable, ∀ n : Fin 32, e.2 ≠ .f n := by
  decide

theorem flag2Asked_of_ge {k : Nat} (hk : 56 ≤ k) : flag2Asked v k = false := by
  have hnone : ((List.finRange 16).any fun m => decide (k = 40 + m) && (v.str (.i m)).isSome) = false := by
    rw [List.any_eq_false]
    intro m _ hm
    have hn := of_decide_eq_true (Bool.and_eq_true_iff.1 hm).1
    omega
  rw [flag2Asked, dif_neg (by omega), hnone, Bool.or_false]

theorem flagAsked_fatal (h : v.flag .tracedFunctionStackErrorsFatalFlag = false) : flagAsked b v 61 = false := by
  have hat : flagAt b 61 = some .tracedFunctionStackErrorsFatalFlag := by
    unfold flagAt
    cases b.enableUsb <;> cases b.watchDisplays <;> decide
  have hon : v.on .tracedFunctionStackErrorsFatalFlag = false := h
  rw [flagAsked, hat, Option.elim_some, hon]; rfl

theorem flagFloats_fl2 (h : (v.str .fl2Work).isSome = true) (k : Nat) :
    flagFloats b v k = (flag2Asked v k || decide (k = 61)) := by
  rw [flagFloats, h]; rfl

theorem flagFloats_fl1 (h : (v.str .fl2Work).isSome = false) (h1 : (v.str .fl1Work).isSome = true) (k : Nat) :
    flagFloats b v k = (flag2Asked v k || decide (k = 60)) := by
  rw [flagFloats, h, h1]; rfl

theorem flagFloats_none (h : (v.str .fl2Work).isSome = false) (h1 : (v.str .fl1Work).isSome = false) (k : Nat) :
    flagFloats b v k = flagAsked b v k := by
  rw [flagFloats, h, h1]; rfl

theorem flagFloats_of_given (h : floatGiven v = true) {k : Nat} (h60 : k ≠ 60) (h61 : k ≠ 61) :
    flagFloats b v k = flag2Asked v k := by
  rw [flagFloats, decide_eq_false h60, decide_eq_false h61, Bool.or_false]
  cases hgiven2 : (v.str .fl2Work).isSome with
  | true => rfl
  | false =>
    rw [floatGiven, hgiven2, Bool.or_false] at h
    rw [h]; rfl

/-! ## What an option writes -/

theorem asyncMin_controls (hdata : e.argData = .i2cBusCheckAsyncMin) : ¬ e.Controls value .ddcCheckAsyncMin := by
  rintro ⟨l, howns, hl⟩
  rw [OptionEntry.Owns, hdata] at howns
  obtain rfl : l = .i2cBusCheckAsyncMin := howns
  cases hl

theorem float_controls {x : StrVar} (hx : x = .fl1Work ∨ x = .fl2Work) (hdata : e.argData = .string x) (k : Nat) :
    ¬ e.Controls value (.flag k) := by
  rintro ⟨l, howns, hl⟩
  rw [OptionEntry.Owns, hdata] at howns
  subst howns
  rcases hx with rfl | rfl
  · rcases hl with hl | hl <;> cases hl
  · rcases hl with hl | hl <;> cases hl

theorem writes_ddcCheckAsyncMin : e.Writes value .ddcCheckAsyncMin ↔
    e.argData = .i2cBusCheckAsyncMin ∨ e.argData = .ddcCheckAsyncMin := by
  obtain ⟨name, argData⟩ := e
  unfold OptionEntry.Writes OptionEntry.Owns
  cases argData <;> simp

theorem store_asyncMin (hdata : e.argData = .i2cBusCheckAsyncMin ∨ e.argData = .ddcCheckAsyncMin)
    (hstore : e.store value = some change) (u u' : Vars) :
    (change u).get .ddcCheckAsyncMin = (change u').get .ddcCheckAsyncMin := by
  obtain ⟨name, argData⟩ := e
  rcases hdata with rfl | rfl
  · cases value with
    | int n =>
      cases hstore; rfl
    | _ => cases hstore
  · cases value with
    | int n =>
      cases hstore; rfl
    | _ => cases hstore

theorem ddcCheckAsyncMin_iff {n : BitVec 32} (hdata : e.argData = .i2cBusCheckAsyncMin)
    (hstore : e.store (.int n) = some change) (hpost : storeOptions b parserMode post w = some v)
    (hpost' : storeOptions b parserMode post (change w) = some v') : v.ddcCheckAsyncMin = v'.ddcCheckAsyncMin ↔
      (∃ o ∈ post, StoresAsyncMin b parserMode o) ∨ w.ddcCheckAsyncMin = n.extractLsb' 16 16 := by
  have hchange : (change w).ddcCheckAsyncMin = n.extractLsb' 16 16 := by
    obtain ⟨name, argData⟩ := e
    obtain rfl : argData = .i2cBusCheckAsyncMin := hdata
    cases hstore; rfl
  by_cases hex : ∃ o ∈ post, StoresAsyncMin b parserMode o
  · refine iff_of_true ?_ (.inl hex)
    obtain ⟨o, ho, e', he', hdata'⟩ := hex
    refine storeOptions_overwrites (l := .ddcCheckAsyncMin) hpost hpost' ho fun change' hchange' u u' => ?_
    obtain ⟨_, hfind, hstore', -⟩ := storeOption_framed hchange'
    rw [he'] at hfind
    cases hfind; exact store_asyncMin hdata' hstore' u u'
  · rw [or_iff_right hex, ← hchange]
    have hkeeps : ∀ o ∈ post, ∀ e, findEntry b parserMode o.longName = some e →
        ¬ e.Writes o.value .ddcCheckAsyncMin := fun o ho e he hwrites =>
      hex ⟨o, ho, e, he, writes_ddcCheckAsyncMin.1 hwrites⟩
    have hv : v.ddcCheckAsyncMin = w.ddcCheckAsyncMin := storeOptions_keeps (l := .ddcCheckAsyncMin) hpost hkeeps
    have hv' : v'.ddcCheckAsyncMin = (change w).ddcCheckAsyncMin :=
      storeOptions_keeps (l := .ddcCheckAsyncMin) hpost' hkeeps
    rw [hv, hv']

section

variable (hstore : e.store value = some change) (hpost : storeOptions b parserMode post w = some v)
  (hpost' : storeOptions b parserMode post (change w) = some v')
include hstore hpost hpost'

theorem stored_same {l : Loc} (hl : ¬ e.Writes value l) : v.get l = v'.get l :=
  storeOptions_follows hpost hpost' ((store_framed hstore).keeps l hl w).symm

theorem alike_of_not_controls {p : Part} (hp : ¬ e.Controls value p)
    (hasync : e.argData = .i2cBusCheckAsyncMin → p ≠ .ddcCheckAsyncMin) : Alike v v' p := by
  intro l hl
  refine stored_same hstore hpost hpost' fun hwrites => ?_
  rcases hwrites with howns | ⟨hdata, rfl⟩
  · exact hp ⟨l, howns, hl⟩
  · exact hasync hdata hl

theorem special_same :
    (∀ n, (∀ reverse, e.argData ≠ .none (.f n) reverse) → v.flag (.f n) = v'.flag (.f n)) ∧
      ∀ x, e.argData ≠ .string x → v.str x = v'.str x := by
  refine ⟨fun n hn => ?_, fun x hx => ?_⟩
  · refine stored_same (l := .flag (.f n)) hstore hpost hpost' fun hwrites => ?_
    rcases writes_flag hwrites with ⟨reverse, hdata⟩ | h | h
    · exact hn reverse hdata
    · cases h
    · cases h
  · exact stored_same (l := .str x) hstore hpost hpost' fun hwrites => hx (writes_str hwrites)

theorem float_flag2 {x : StrVar} (hx : x = .fl1Work ∨ x = .fl2Work) (hdata : e.argData = .string x) (k : Nat) :
    flag2Asked v k = flag2Asked v' k := by
  obtain ⟨hflag, hstr⟩ := special_same hstore hpost hpost'
  refine flag2Asked_same (fun n _ => hflag n (by simp [hdata])) fun n _ => ?_
  rcases hx with rfl | rfl
  · rw [hstr (.i n) (by simp [hdata])]
  · rw [hstr (.i n) (by simp [hdata])]

theorem sleep_same {k : Nat} (hk : ¬ e.Controls value (.flag k)) :
    k = 44 → (v.str .sleepMultiplierWork).isSome = (v'.str .sleepMultiplierWork).isSome := by
  rintro rfl
  have halike : Alike v v' (.flag 44) := alike_of_not_controls hstore hpost hpost' hk fun _ h => by cases h
  exact congrArg Option.isSome (halike (.str .sleepMultiplierWork) (.inr rfl))

variable (h : Accepted b parserMode v cmdAndArgs c) (h' : Accepted b parserMode v' cmdAndArgs c')
include h h'

theorem frameKept_iff_flags :
    FrameKept e value c c' ↔
      SameFlags e value c c' ∧ (e.argData = .i2cBusCheckAsyncMin → v.ddcCheckAsyncMin = v'.ddcCheckAsyncMin) := by
  constructor
  · intro hkept
    refine ⟨fun k => hkept (.flag k), fun hdata => ?_⟩
    rw [← accepted_ddcCheckAsyncMin h, ← accepted_ddcCheckAsyncMin h']
    exact hkept .ddcCheckAsyncMin (asyncMin_controls hdata)
  · rintro ⟨hflags, hddc⟩ p hp
    by_cases hflag : ∃ k, p = .flag k
    · obtain ⟨k, rfl⟩ := hflag
      exact hflags k hp
    · by_cases hasync : e.argData = .i2cBusCheckAsyncMin ∧ p = .ddcCheckAsyncMin
      · obtain ⟨hdata, rfl⟩ := hasync
        change c.ddcCheckAsyncMin = c'.ddcCheckAsyncMin
        rw [accepted_ddcCheckAsyncMin h, accepted_ddcCheckAsyncMin h', hddc hdata]
      · exact accepted_same h h' (fun k hk => hflag ⟨k, hk⟩)
          (alike_of_not_controls hstore hpost hpost' hp fun hdata hp => hasync ⟨hdata, hp⟩)

theorem flag_same (hfl1 : (v.str .fl1Work).isSome = (v'.str .fl1Work).isSome)
    (hfl2 : (v.str .fl2Work).isSome = (v'.str .fl2Work).isSome) {k : Nat} (hk : ¬ e.Controls value (.flag k))
    (hword : floatGiven v = true → flag2Asked v k = flag2Asked v' k) : c.get (.flag k) = c'.get (.flag k) := by
  refine (accepted_flag_iff h h' (sleep_same hstore hpost hpost' hk)).2 (.inr ?_)
  have hasked : flagAsked b v k = flagAsked b v' k :=
    flagAsked_same (alike_of_not_controls hstore hpost hpost' hk fun _ h => by cases h)
  unfold flagFloats
  unfold floatGiven at hword
  rw [← hfl1, ← hfl2, hasked]
  cases hgiven2 : (v.str .fl2Work).isSome with
  | true => rw [hword (by rw [hgiven2, Bool.or_true])]
  | false =>
    cases hgiven1 : (v.str .fl1Work).isSome with
    | true => rw [hword (by rw [hgiven1, Bool.true_or])]
    | false => rfl

/-! ## The special options -/

theorem special_iff {m : Nat} (hm : m ≠ 60 ∧ m ≠ 61) (hcontrols : ¬ e.Controls value (.flag m))
    (hfl1 : v.str .fl1Work = v'.str .fl1Work) (hfl2 : v.str .fl2Work = v'.str .fl2Work)
    (hset : flag2Asked v' m = true) (hother : ∀ k, k ≠ m → flag2Asked v k = flag2Asked v' k) :
    SameFlags e value c c' ↔ (floatGiven v = true → flag2Asked v m = true ∨ Settled b cmdAndArgs v m) := by
  have hsleep := fun {k} => sleep_same (k := k) hstore hpost hpost'
  constructor
  · intro hkept hgiven
    have hgiven' : floatGiven v' = true := by rw [floatGiven, ← hfl1, ← hfl2]; exact hgiven
    rcases (accepted_flag_iff h h' (hsleep hcontrols)).1 (hkept m hcontrols) with hsettled | hsame
    · exact .inr hsettled
    · rw [flagFloats_of_given hgiven hm.1 hm.2, flagFloats_of_given hgiven' hm.1 hm.2] at hsame
      exact .inl (hsame.trans hset)
  · intro hcond k hk
    by_cases hkm : k = m
    · subst hkm
      by_cases hsettled : Settled b cmdAndArgs v k
      · exact (accepted_flag_iff h h' (hsleep hk)).2 (.inl hsettled)
      · refine flag_same hstore hpost hpost' h h' (by rw [hfl1]) (by rw [hfl2]) hk fun hgiven => ?_
        exact ((hcond hgiven).resolve_right hsettled).trans hset.symm
    · exact flag_same hstore hpost hpost' h h' (by rw [hfl1]) (by rw [hfl2]) hk fun _ => hother k hkm

theorem specialFlag_iff {n : Fin 32} {reverse : Bool} (hdata : e.argData = .none (.f n) reverse)
    (hmem : e ∈ allOptions b parserMode) :
    SameFlags e value c c' ↔ (floatGiven v = true → v.flag (.f n) = true ∨ Settled b cmdAndArgs v n) := by
  obtain ⟨hflag, hstr⟩ := special_same hstore hpost hpost'
  have hset : v'.flag (.f n) = true :=
    storeOptions_special hpost' (store_set (allOptions_plain hmem) hdata hstore w)
  have hcontrols : ∀ k, ¬ e.Controls value (.flag k) := by
    rintro k ⟨l, howns, hl⟩
    rw [OptionEntry.Owns, hdata] at howns
    subst howns
    rcases hl with hl | ⟨hl, -⟩ | ⟨hl | hl, -⟩ | ⟨hl | hl, -⟩
    · exact flagTable_special _ hl n rfl
    · cases hl
    · cases hl
    · cases hl
    · cases hl
    · cases hl
  rw [← flag2Asked_f]
  refine special_iff hstore hpost hpost' h h' (by omega) (hcontrols n) (hstr _ (by simp [hdata])) (hstr _ (by simp [hdata]))
    ((flag2Asked_f n).trans hset) fun k hk => flag2Asked_same (fun m hm => hflag m fun r hr => hk ?_) fun m _ => ?_
  · rw [hdata] at hr
    cases hr; exact hm
  · rw [hstr (.i m) (by simp [hdata])]

theorem specialInt_iff {n : Fin 16} (hdata : e.argData = .string (.i n)) :
    SameFlags e value c c' ↔
      (floatGiven v = true → (v.str (.i n)).isSome = true ∨ Settled b cmdAndArgs v (40 + n)) := by
  obtain ⟨hflag, hstr⟩ := special_same hstore hpost hpost'
  have hset : (v'.str (.i n)).isSome = true := storeOptions_isSome hpost' (store_given hdata hstore w)
  have hcontrols : ∀ k, ¬ e.Controls value (.flag k) := by
    rintro k ⟨l, howns, hl⟩
    rw [OptionEntry.Owns, hdata] at howns
    subst howns
    rcases hl with hl | hl <;> cases hl
  rw [← flag2Asked_i]
  refine special_iff hstore hpost hpost' h h' (by omega) (hcontrols _) (hstr _ (by simp [hdata])) (hstr _ (by simp [hdata]))
    ((flag2Asked_i n).trans hset) fun k hk => flag2Asked_same (fun m _ => hflag m (by simp [hdata])) fun m hm => ?_
  have hne : m ≠ n := fun hmn => hk (hmn ▸ hm)
  rw [hstr (.i m) (by simp [hdata, hne.symm])]

theorem float_flag_iff {x : StrVar} (hx : x = .fl1Work ∨ x = .fl2Work) (hdata : e.argData = .string x) (k : Nat) :
    c.get (.flag k) = c'.get (.flag k) ↔ Settled b cmdAndArgs v k ∨ flagFloats b v k = flagFloats b v' k :=
  accepted_flag_iff h h' (sleep_same hstore hpost hpost' (float_controls hx hdata k))

theorem specialFl1_iff (hdata : e.argData = .string .fl1Work) :
    SameFlags e value c c' ↔
      (floatGiven v = true ∨ ∀ k, Settled b cmdAndArgs v k ∨ flagAsked b v k = (flag2Asked v k || decide (k = 60))) := by
  obtain ⟨-, hstr⟩ := special_same hstore hpost hpost'
  have hfl1 : (v'.str .fl1Work).isSome = true := storeOptions_isSome hpost' (store_given hdata hstore w)
  have hfl2 : v.str .fl2Work = v'.str .fl2Work := hstr .fl2Work (by simp [hdata])
  have hword := float_flag2 hstore hpost hpost' (.inl rfl) hdata
  have hcontrols : ∀ k, ¬ e.Controls value (.flag k) := float_controls (.inl rfl) hdata
  have hiff := float_flag_iff hstore hpost hpost' h h' (.inl rfl) hdata
  cases hgiven2 : (v.str .fl2Work).isSome with
  | true =>
    refine iff_of_true (fun k _ => (hiff k).2 (.inr ?_)) (.inl (by rw [floatGiven, hgiven2, Bool.or_true]))
    rw [flagFloats_fl2 hgiven2, flagFloats_fl2 (hfl2 ▸ hgiven2), hword]
  | false =>
    have hgiven2' : (v'.str .fl2Work).isSome = false := hfl2 ▸ hgiven2
    cases hgiven1 : (v.str .fl1Work).isSome with
    | true =>
      refine iff_of_true (fun k _ => (hiff k).2 (.inr ?_)) (.inl (by rw [floatGiven, hgiven1, Bool.true_or]))
      rw [flagFloats_fl1 hgiven2 hgiven1, flagFloats_fl1 hgiven2' hfl1, hword]
    | false =>
      have hnot : ¬ floatGiven v = true := by
        rw [floatGiven, hgiven1, hgiven2]; exact Bool.false_ne_true
      rw [or_iff_right hnot]
      refine forall_congr' fun k => ?_
      rw [forall_prop_of_true (hcontrols k), hiff, flagFloats_none hgiven2 hgiven1, flagFloats_fl1 hgiven2' hfl1,
        hword]

theorem specialFl2_iff {st : Statics} (hline : storeOptions b parserMode (pre ++ post) (initialVars st) = some v)
    (hdata : e.argData = .string .fl2Work) : SameFlags e value c c' ↔ (v.str .fl2Work).isSome = true := by
  have hfl2 : (v'.str .fl2Work).isSome = true := storeOptions_isSome hpost' (store_given hdata hstore w)
  have hword := float_flag2 hstore hpost hpost' (.inr rfl) hdata
  have hcontrols : ∀ k, ¬ e.Controls value (.flag k) := float_controls (.inr rfl) hdata
  have hiff := float_flag_iff hstore hpost hpost' h h' (.inr rfl) hdata
  cases hgiven2 : (v.str .fl2Work).isSome with
  | true =>
    refine iff_of_true (fun k _ => (hiff k).2 (.inr ?_)) rfl
    rw [flagFloats_fl2 hgiven2, flagFloats_fl2 hfl2, hword]
  | false =>
    refine iff_of_false (fun hkept => ?_) Bool.false_ne_true
    cases hgiven1 : (v.str .fl1Work).isSome with
    | true =>
      -- bit 60 was that of the first number
      rcases (hiff 60).1 (hkept 60 (hcontrols 60)) with hsettled | hsame
      · rcases hsettled.bit with h | h | h <;> cases h
      · rw [flagFloats_fl1 hgiven2 hgiven1, flagFloats_fl2 hfl2, ← hword, flag2Asked_of_ge (by decide)] at hsame
        exact absurd hsame (by decide)
    | false =>
      -- bit 61 is that of an option that there is not
      rcases (hiff 61).1 (hkept 61 (hcontrols 61)) with hsettled | hsame
      · rcases hsettled.bit with h | h | h <;> cases h
      · rw [flagFloats_none hgiven2 hgiven1, flagFloats_fl2 hfl2, ← hword, flag2Asked_of_ge (by decide),
          flagAsked_fatal (storeOptions_fatal hline)] at hsame
        exact absurd hsame (by decide)

theorem plain_flags (hf : ∀ n reverse, e.argData ≠ .none (.f n) reverse) (hi : ∀ n, e.argData ≠ .string (.i n))
    (hfl1 : e.argData ≠ .string .fl1Work) (hfl2 : e.argData ≠ .string .fl2Work) : SameFlags e value c c' := by
  intro k hk
  obtain ⟨hflag, hstr⟩ := special_same hstore hpost hpost'
  refine flag_same hstore hpost hpost' h h' (by rw [hstr _ hfl1]) (by rw [hstr _ hfl2]) hk fun _ => ?_
  exact flag2Asked_same (fun n _ => hflag n (hf n)) fun n _ => by rw [hstr _ (hi n)]

end

/-! ## One option more -/

/-- **One option more changes only what it controls exactly if the condition holds.** -/
theorem frameKept_iff (st : Statics) (pre post : List GivenOption) {o : GivenOption}
    (hline : storeOptions b parserMode pre (initialVars st) = some w)
    (hwithout : storeOptions b parserMode (pre ++ post) (initialVars st) = some v)
    (hwith : storeOptions b parserMode (pre ++ o :: post) (initialVars st) = some v')
    (he : findEntry b parserMode o.longName = some e) (h : Accepted b parserMode v cmdAndArgs c)
    (h' : Accepted b parserMode v' cmdAndArgs c') :
    FrameKept e o.value c c' ↔ FrameCondition b parserMode cmdAndArgs post w v e o.value := by
  obtain ⟨w', e', change, hw', he', hstore, hpost, hpost'⟩ := storeOptions_insert hwithout hwith
  rw [hline] at hw'
  cases hw'
  rw [he] at he'
  cases he'
  have hmem : e ∈ allOptions b parserMode := List.mem_of_find?_eq_some he
  rw [frameKept_iff_flags hstore hpost hpost' h h']
  unfold FrameCondition
  cases hdata : e.argData with
  | none x reverse =>
    cases x with
    | f n =>
      rw [and_iff_left fun h => by cases h]
      exact specialFlag_iff hstore hpost hpost' h h' hdata hmem
    | _ =>
      refine iff_of_true ⟨?_, fun h => by cases h⟩ trivial
      exact plain_flags hstore hpost hpost' h h' (by simp [hdata]) (by simp [hdata]) (by simp [hdata]) (by simp [hdata])
  | string x =>
    cases x with
    | i n =>
      rw [and_iff_left fun h => by cases h]; exact specialInt_iff hstore hpost hpost' h h' hdata
    | fl1Work =>
      rw [and_iff_left fun h => by cases h]; exact specialFl1_iff hstore hpost hpost' h h' hdata
    | fl2Work =>
      rw [and_iff_left fun h => by cases h]
      exact specialFl2_iff hstore hpost hpost' h h' hwithout hdata
    | _ =>
      refine iff_of_true ⟨?_, fun h => by cases h⟩ trivial
      exact plain_flags hstore hpost hpost' h h' (by simp [hdata]) (by simp [hdata]) (by simp [hdata]) (by simp [hdata])
  | i2cBusCheckAsyncMin =>
    have hflags := plain_flags hstore hpost hpost' h h' (by simp [hdata]) (by simp [hdata]) (by simp [hdata])
      (by simp [hdata])
    rw [and_iff_right hflags, forall_prop_of_true rfl]
    cases hvalue : o.value with
    | int n =>
      rw [hvalue] at hstore; exact ddcCheckAsyncMin_iff hdata hstore hpost hpost'
    | _ =>
      obtain ⟨name, argData⟩ := e
      obtain rfl : argData = .i2cBusCheckAsyncMin := hdata
      rw [hvalue] at hstore; cases hstore
  | _ =>
    refine iff_of_true ⟨?_, fun h => by cases h⟩ trivial
    exact plain_flags hstore hpost hpost' h h' (by simp [hdata]) (by simp [hdata]) (by simp [hdata]) (by simp [hdata])

end

def plainBuild : Build := ⟨false, false, false, false, false, false⟩

theorem exists_accepted {b : Build} {parserMode : ParserMode} {v : Vars} {cmdAndArgs : List (List Byte)}
    (h : (match parseCommand b parserMode v cmdAndArgs with
      | .ok (.returned c _) => c.isSome
      | _ => false) = true) : ∃ c, Accepted b parserMode v cmdAndArgs c := by
  split at h
  · rename_i c msgs hend
    obtain ⟨c, rfl⟩ := Option.isSome_iff_exists.1 h
    exact ⟨c, msgs, hend⟩
  · cases h

theorem detect_accepted : ∃ c, Accepted plainBuild .ddcutil (initialVars initialStatics) [ascii "detect"] c :=
  exists_accepted (by decide +kernel)

/-- `ddcutil detect`, and the same with `--ddc`. -/
theorem frameKept_ddc : ∃ c c', Accepted plainBuild .ddcutil (initialVars initialStatics) [ascii "detect"] c ∧
    Accepted plainBuild .ddcutil ((initialVars initialStatics).setFlag .ddcFlag true) [ascii "detect"] c' ∧
    (FrameKept ⟨ascii "ddc", .none .ddcFlag false⟩ .none c c' ↔
      FrameCondition plainBuild .ddcutil [ascii "detect"] [] (initialVars initialStatics) (initialVars initialStatics)
        ⟨ascii "ddc", .none .ddcFlag false⟩ .none) := by
  obtain ⟨c, hc⟩ := detect_accepted
  obtain ⟨c', hc'⟩ : ∃ c, Accepted plainBuild .ddcutil ((initialVars initialStatics).setFlag .ddcFlag true)
      [ascii "detect"] c := exists_accepted (by decide +kernel)
  exact ⟨c, c', hc, hc', frameKept_iff initialStatics [] [] (o := ⟨ascii "ddc", .none⟩) rfl rfl rfl rfl hc hc'⟩

/-- **With `--fl1 1.0` it is lost that a value is verified after it is set**, among other flags. -/
theorem fl1_not_frameKept : ∃ v' c c',
    storeOptions plainBuild .ddcutil [⟨ascii "fl1", .text (ascii "1.0")⟩] (initialVars initialStatics) = some v' ∧
    Accepted plainBuild .ddcutil (initialVars initialStatics) [ascii "detect"] c ∧
    Accepted plainBuild .ddcutil v' [ascii "detect"] c' ∧
    ¬ FrameKept ⟨ascii "fl1", .string .fl1Work⟩ (.text (ascii "1.0")) c c' := by
  obtain ⟨c, hc⟩ := detect_accepted
  let v' : Vars := { initialVars initialStatics with
    str := Function.update (fun _ => none) .fl1Work (some (ascii "1.0")) }
  obtain ⟨c', hc'⟩ : ∃ c', Accepted plainBuild .ddcutil v' [ascii "detect"] c' := exists_accepted (by decide +kernel)
  have he : findEntry plainBuild .ddcutil (ascii "fl1") = some ⟨ascii "fl1", .string .fl1Work⟩ := by decide +kernel
  have hv' : storeOptions plainBuild .ddcutil [⟨ascii "fl1", .text (ascii "1.0")⟩] (initialVars initialStatics) =
      some v' := by rfl
  refine ⟨v', c, c', hv', hc, hc', fun hkept => ?_⟩
  have hverify := hkept (.flag 6) (float_controls (.inl rfl) rfl 6)
  rw [accepted_flag hc, accepted_flag hc'] at hverify
  revert hverify
  decide +kernel

end Ddc.Cmd
