import Ddcutil.CmdOptions
/-!
# CmdStores — what an option stores

`Loc` names the variables one by one, and the words of types bit by bit.
-/
namespace Ddc.Cmd

open Kit List Function

inductive Loc where
  | flag (x : FlagVar)
  | int (x : IntVar)
  | str (x : StrVar)
  | strs (x : ArrayVar)
  | outputLevel
  | statsType (k : Nat)
  | discardedCache (k : Nat)
  | ignoredHiddev (k : Nat)
  | i2cBusCheckAsyncMin | ddcCheckAsyncMin

abbrev Loc.Value : Loc → Type
  | .flag _ | .statsType _ | .discardedCache _ | .ignoredHiddev _ => Bool
  | .int _ => BitVec 32
  | .str _ => Option (List Byte)
  | .strs _ => List (List Byte)
  | .outputLevel => OutputLevel
  | .i2cBusCheckAsyncMin | .ddcCheckAsyncMin => BitVec 16

def Vars.get (v : Vars) : (l : Loc) → l.Value
  | .flag x => v.flag x
  | .int x => v.int x
  | .str x => v.str x
  | .strs x => v.strs x
  | .outputLevel => v.outputLevel
  | .statsType k => v.statsWork.getLsbD k
  | .discardedCache k => v.discardedCachesWork.getLsbD k
  | .ignoredHiddev k => v.ignoredHiddevWork.getLsbD k
  | .i2cBusCheckAsyncMin => v.i2cBusCheckAsyncMin
  | .ddcCheckAsyncMin => v.ddcCheckAsyncMin

def typesOf (typeOf : List Byte → Option (BitVec 8)) : OptionValue → BitVec 8
  | .text s => (typeOf (strdupUc s)).getD 0
  | _ => 0xff

def OptionEntry.Owns (e : OptionEntry) (value : OptionValue) (l : Loc) : Prop :=
  match e.argData with
  | .none x _ => l = .flag x
  | .int x => l = .int x
  | .i2cBusCheckAsyncMin => l = .i2cBusCheckAsyncMin
  | .ddcCheckAsyncMin => l = .ddcCheckAsyncMin
  | .string x => l = .str x
  | .strings x => l = .strs x
  | .outputArgFunc => l = .outputLevel
  | .statsArgFunc => (∃ k, (typesOf statsTypeOf value).getLsbD k = true ∧ l = .statsType k) ∨
      (e.longName = ascii "vstats" ∨ e.longName = ascii "istats") ∧ l = .flag .verboseStats ∨
      e.longName = ascii "istats" ∧ l = .flag .internalStats
  | .discardCacheArgFunc => ∃ k, (typesOf cacheTypeOf value).getLsbD k = true ∧ l = .discardedCache k
  | .ignoredHiddevArgFunc => ∃ s k, value = .text s ∧ hiddevNumber s = some k ∧ l = .ignoredHiddev k

def OptionEntry.Writes (e : OptionEntry) (value : OptionValue) (l : Loc) : Prop :=
  e.Owns value l ∨ e.argData = .i2cBusCheckAsyncMin ∧ l = .ddcCheckAsyncMin

/-! ## One option -/

theorem update_same {α β : Type} [DecidableEq α] (f g : α → β) (a : α) (b : β) : update f a b a = update g a b a :=
  (update_self a b f).trans (update_self a b g).symm

theorem setFlag_framed (x : FlagVar) (value : Bool) :
    WithinFrame Vars.get (fun v => v.setFlag x value) (· = .flag x) := by
  refine .of_writes (fun l hl v => ?_) fun l hl v w => ?_
  · cases l with
    | flag y => exact update_of_ne (fun hy => hl (congrArg Loc.flag hy)) _ _
    | _ => rfl
  · subst hl; exact update_same v.flag w.flag x value

theorem setInt_framed (x : IntVar) (n : BitVec 32) :
    WithinFrame Vars.get (fun v => { v with int := update v.int x n }) (· = .int x) := by
  refine .of_writes (fun l hl v => ?_) fun l hl v w => ?_
  · cases l with
    | int y => exact update_of_ne (fun hy => hl (congrArg Loc.int hy)) _ _
    | _ => rfl
  · subst hl; exact update_same v.int w.int x n

theorem setStr_framed (x : StrVar) (s : List Byte) :
    WithinFrame Vars.get (fun v => { v with str := update v.str x (some s) }) (· = .str x) := by
  refine .of_writes (fun l hl v => ?_) fun l hl v w => ?_
  · cases l with
    | str y => exact update_of_ne (fun hy => hl (congrArg Loc.str hy)) _ _
    | _ => rfl
  · subst hl; exact update_same v.str w.str x (some s)

theorem addStr_framed (x : ArrayVar) (s : List Byte) :
    WithinFrame Vars.get (fun v => { v with strs := update v.strs x (v.strs x ++ [s]) }) (· = .strs x) where
  keeps l hl v := by
    cases l with
    | strs y => exact update_of_ne (fun hy => hl (congrArg Loc.strs hy)) _ _
    | _ => rfl
  follows l v w h := by
    cases l with
    | strs y =>
      by_cases hy : y = x
      · subst hy
        have hself : ∀ v : Vars, update v.strs y (v.strs y ++ [s]) y = v.strs y ++ [s] := fun v =>
          update_self _ _ _
        exact (hself v).trans ((congrArg (· ++ [s]) h).trans (hself w).symm)
      · exact (update_of_ne hy _ _).trans (Eq.trans h (update_of_ne hy _ _).symm)
    | _ => exact h

theorem setOutputLevel_framed (level : OutputLevel) :
    WithinFrame Vars.get (fun v => { v with outputLevel := level }) (· = .outputLevel) := by
  refine .of_writes (fun l hl v => ?_) fun l hl v w => ?_
  · cases l with
    | outputLevel => exact absurd rfl hl
    | _ => rfl
  · subst hl; rfl

theorem addStats_framed (bits : BitVec 8) : WithinFrame Vars.get (fun v => { v with statsWork := v.statsWork ||| bits })
    fun l => ∃ k, bits.getLsbD k = true ∧ l = .statsType k := by
  refine .of_writes (fun l hl v => ?_) fun l hl v w => ?_
  · cases l with
    | statsType k =>
      cases hk : bits.getLsbD k with
      | true => exact absurd ⟨k, hk, rfl⟩ hl
      | false => simp [Vars.get, hk]
    | _ => rfl
  · obtain ⟨k, hk, rfl⟩ := hl
    simp [Vars.get, hk]

theorem addCaches_framed (bits : BitVec 8) :
    WithinFrame Vars.get (fun v => { v with discardedCachesWork := v.discardedCachesWork ||| bits })
      fun l => ∃ k, bits.getLsbD k = true ∧ l = .discardedCache k := by
  refine .of_writes (fun l hl v => ?_) fun l hl v w => ?_
  · cases l with
    | discardedCache k =>
      cases hk : bits.getLsbD k with
      | true => exact absurd ⟨k, hk, rfl⟩ hl
      | false => simp [Vars.get, hk]
    | _ => rfl
  · obtain ⟨k, hk, rfl⟩ := hl
    simp [Vars.get, hk]

theorem or_allOnes (word : BitVec 8) : (0xff : BitVec 8) = word ||| 0xff := by
  have hones : (0xff : BitVec 8) = BitVec.allOnes 8 := rfl
  rw [hones, BitVec.or_allOnes]

theorem addHiddev_framed (n : Nat) (hn : n < 32) :
    WithinFrame Vars.get (fun v => { v with ignoredHiddevWork := v.ignoredHiddevWork ||| BitVec.twoPow 32 n })
      (· = .ignoredHiddev n) := by
  refine .of_writes (fun l hl v => ?_) fun l hl v w => ?_
  · cases l with
    | ignoredHiddev k =>
      have hk : n ≠ k := fun h => hl (h ▸ rfl)
      simp [Vars.get, BitVec.getLsbD_twoPow, hk]
    | _ => rfl
  · subst hl
    simp [Vars.get, hn]

theorem noteStatsOption_framed (name : List Byte) : WithinFrame Vars.get (noteStatsOption name) fun l =>
    (name = ascii "vstats" ∨ name = ascii "istats") ∧ l = .flag .verboseStats ∨
      name = ascii "istats" ∧ l = .flag .internalStats := by
  by_cases hv : name = ascii "vstats"
  · have heq : noteStatsOption name = fun v => v.setFlag .verboseStats true := by
      funext v
      exact if_pos hv
    rw [heq]; exact (setFlag_framed .verboseStats true).mono fun l hl => .inl ⟨.inl hv, hl⟩
  · by_cases hi : name = ascii "istats"
    · have heq : noteStatsOption name = fun v => (v.setFlag .verboseStats true).setFlag .internalStats true := by
        funext v
        exact (if_neg hv).trans (if_pos hi)
      rw [heq]
      refine ((setFlag_framed .internalStats true).comp (setFlag_framed .verboseStats true)).mono fun l hl => ?_
      rcases hl with hl | hl
      · exact .inl ⟨.inr hi, hl⟩
      · exact .inr ⟨hi, hl⟩
    · have heq : noteStatsOption name = fun v => v := by
        funext v
        exact (if_neg hv).trans (if_neg hi)
      rw [heq]; exact WithinFrame.id.mono fun _ h => h.elim

theorem hiddevNumber_lt {value : List Byte} {n : Nat} (h : hiddevNumber value = some n) : n < 32 := by
  unfold hiddevNumber at h
  cases hval : strToInt value 10 with
  | none =>
    rw [hval] at h; cases h
  | some ival =>
    simp only [hval] at h
    split at h
    · cases h
    · cases h; omega

theorem noteStatsOption_statsWork (name : List Byte) (v : Vars) : (noteStatsOption name v).statsWork = v.statsWork := by
  unfold noteStatsOption
  split
  · rfl
  · split <;> rfl

variable {value : OptionValue} {e : OptionEntry} {change : Vars → Vars}

theorem statsArgFunc_framed (he : e.argData = .statsArgFunc) {bits : BitVec 8}
    (hbits : typesOf statsTypeOf value = bits)
    (h : ∀ v, change v = { noteStatsOption e.longName v with statsWork := v.statsWork ||| bits }) :
    WithinFrame Vars.get change (e.Writes value) := by
  have heq : change = fun v =>
      (fun v => { v with statsWork := v.statsWork ||| bits }) (noteStatsOption e.longName v) := by
    funext v
    dsimp only
    rw [h, noteStatsOption_statsWork]
  rw [heq]
  refine ((addStats_framed bits).comp (noteStatsOption_framed e.longName)).mono fun l hl => .inl ?_
  rw [OptionEntry.Owns, he, hbits]; exact hl.symm

theorem discardCacheArgFunc_framed (he : e.argData = .discardCacheArgFunc) {bits : BitVec 8}
    (hbits : typesOf cacheTypeOf value = bits)
    (h : ∀ v, change v = { v with discardedCachesWork := v.discardedCachesWork ||| bits }) :
    WithinFrame Vars.get change (e.Writes value) := by
  have heq : change = fun v => { v with discardedCachesWork := v.discardedCachesWork ||| bits } := funext h
  rw [heq]
  refine (addCaches_framed bits).mono fun l hl => .inl ?_
  rw [OptionEntry.Owns, he, hbits]; exact hl

theorem setI2cBusCheckAsyncMin_framed (x y : BitVec 16) :
    WithinFrame Vars.get (fun v => { v with i2cBusCheckAsyncMin := x, ddcCheckAsyncMin := y })
      fun l => l = .i2cBusCheckAsyncMin ∨ l = .ddcCheckAsyncMin := by
  refine .of_writes (fun l hl v => ?_) fun l hl v w => ?_
  · cases l with
    | i2cBusCheckAsyncMin => exact absurd (.inl rfl) hl
    | ddcCheckAsyncMin => exact absurd (.inr rfl) hl
    | _ => rfl
  · rcases hl with rfl | rfl
    · rfl
    · rfl

theorem setDdcCheckAsyncMin_framed (y : BitVec 16) :
    WithinFrame Vars.get (fun v => { v with ddcCheckAsyncMin := y }) (· = .ddcCheckAsyncMin) := by
  refine .of_writes (fun l hl v => ?_) fun l hl v w => ?_
  · cases l with
    | ddcCheckAsyncMin => exact absurd rfl hl
    | _ => rfl
  · subst hl; rfl

theorem store_framed (h : e.store value = some change) : WithinFrame Vars.get change (e.Writes value) := by
  obtain ⟨name, argData⟩ := e
  cases argData with
  | none x reverse =>
    cases value with
    | none =>
      cases h; exact (setFlag_framed x _).mono fun l hl => .inl hl
    | int n | text s => cases h
  | int x =>
    cases value with
    | none => cases h
    | int n =>
      cases h; exact (setInt_framed x n).mono fun l hl => .inl hl
    | text s => cases h
  | i2cBusCheckAsyncMin =>
    cases value with
    | none => cases h
    | int n =>
      cases h
      exact (setI2cBusCheckAsyncMin_framed _ _).mono fun l hl => hl.imp id fun hl => ⟨rfl, hl⟩
    | text s => cases h
  | ddcCheckAsyncMin =>
    cases value with
    | none => cases h
    | int n =>
      cases h; exact (setDdcCheckAsyncMin_framed _).mono fun l hl => .inl hl
    | text s => cases h
  | string x =>
    cases value with
    | none | int n => cases h
    | text s =>
      cases h; exact (setStr_framed x s).mono fun l hl => .inl hl
  | strings x =>
    cases value with
    | none | int n => cases h
    | text s =>
      cases h; exact (addStr_framed x s).mono fun l hl => .inl hl
  | outputArgFunc =>
    cases value with
    | none =>
      obtain ⟨level, -, rfl⟩ := Option.map_eq_some_iff.1 h
      exact (setOutputLevel_framed level).mono fun l hl => .inl hl
    | int n | text s => cases h
  | statsArgFunc =>
    cases value with
    | none =>
      cases h
      refine statsArgFunc_framed rfl rfl fun v => ?_
      rw [or_allOnes]; rfl
    | int n => cases h
    | text s =>
      obtain ⟨bits, hbits, rfl⟩ := Option.map_eq_some_iff.1 h
      exact statsArgFunc_framed rfl (congrArg (·.getD 0) hbits) fun v => rfl
  | discardCacheArgFunc =>
    cases value with
    | none =>
      cases h
      refine discardCacheArgFunc_framed rfl rfl fun v => ?_
      rw [or_allOnes]; rfl
    | int n => cases h
    | text s =>
      obtain ⟨bits, hbits, rfl⟩ := Option.map_eq_some_iff.1 h
      exact discardCacheArgFunc_framed rfl (congrArg (·.getD 0) hbits) fun v => rfl
  | ignoredHiddevArgFunc =>
    cases value with
    | none | int n => cases h
    | text s =>
      obtain ⟨n, hn, rfl⟩ := Option.map_eq_some_iff.1 h
      exact (addHiddev_framed n (hiddevNumber_lt hn)).mono fun l hl => .inl ⟨s, n, rfl, hn, hl⟩

/-! ## A command line -/

section
variable {b : Build} {parserMode : ParserMode} {line pre post : List GivenOption} {u v w v' : Vars}

variable {o : GivenOption} {change : Vars → Vars} {l : Loc} {e : OptionEntry} {value : OptionValue} {x : StrVar}
variable {n : Fin 32}

theorem storeOption_framed (h : storeOption b parserMode o = some change) :
    ∃ e, findEntry b parserMode o.longName = some e ∧ e.store o.value = some change ∧
      WithinFrame Vars.get change (e.Writes o.value) := by
  obtain ⟨e, he, hstore⟩ := Option.bind_eq_some_iff.1 h
  exact ⟨e, he, hstore, store_framed hstore⟩

theorem storeOptions_cons : storeOptions b parserMode (o :: line) u = some v ↔
    ∃ change, storeOption b parserMode o = some change ∧ storeOptions b parserMode line (change u) = some v := by
  unfold storeOptions
  rw [foldlM_cons]
  cases h : storeOption b parserMode o with
  | none | some change => simp

section
variable (h : storeOptions b parserMode line u = some v)
include h

theorem storeOptions_follows (h' : storeOptions b parserMode line w = some v') (huw : u.get l = w.get l) :
    v.get l = v'.get l := by
  induction line generalizing u w with
  | nil =>
    cases h
    cases h'; exact huw
  | cons o line ih =>
    obtain ⟨change, hchange, h⟩ := storeOptions_cons.1 h
    obtain ⟨change', hchange', h'⟩ := storeOptions_cons.1 h'
    rw [hchange] at hchange'
    cases hchange'
    obtain ⟨e, -, -, hframed⟩ := storeOption_framed hchange
    exact ih h h' (hframed.follows l u w huw)

theorem storeOptions_overwrites (h' : storeOptions b parserMode line w = some v') (ho : o ∈ line)
    (hover : ∀ change, storeOption b parserMode o = some change → ∀ u w : Vars, (change u).get l = (change w).get l) :
    v.get l = v'.get l := by
  induction line generalizing u w with
  | nil => exact absurd ho not_mem_nil
  | cons o' line ih =>
    obtain ⟨change, hchange, hrest⟩ := storeOptions_cons.1 h
    obtain ⟨change', hchange', hrest'⟩ := storeOptions_cons.1 h'
    rw [hchange] at hchange'
    cases hchange'
    rcases mem_cons.1 ho with rfl | ho
    · exact storeOptions_follows hrest hrest' (hover change hchange u w)
    · exact ih hrest hrest' ho

theorem storeOptions_keeps
    (hline : ∀ o ∈ line, ∀ e, findEntry b parserMode o.longName = some e → ¬ e.Writes o.value l) :
    v.get l = u.get l := by
  induction line generalizing u with
  | nil =>
    cases h; rfl
  | cons o line ih =>
    obtain ⟨change, hchange, h⟩ := storeOptions_cons.1 h
    obtain ⟨e, he, -, hframed⟩ := storeOption_framed hchange
    rw [ih h fun o' ho' => hline o' (mem_cons_of_mem o ho'), hframed.keeps l (hline o mem_cons_self e he)]

theorem storeOptions_preserves {I : Vars → Prop}
    (hstep : ∀ e ∈ allOptions b parserMode, ∀ value change, e.store value = some change → ∀ v, I v → I (change v))
    (hu : I u) : I v := by
  induction line generalizing u with
  | nil =>
    cases h; exact hu
  | cons o line ih =>
    obtain ⟨change, hchange, h⟩ := storeOptions_cons.1 h
    obtain ⟨e, he, hstore, -⟩ := storeOption_framed hchange
    exact ih h (hstep e (mem_of_find?_eq_some he) o.value change hstore u hu)

end

theorem storeOptions_insert (h : storeOptions b parserMode (pre ++ post) u = some v)
    (h' : storeOptions b parserMode (pre ++ o :: post) u = some v') :
    ∃ w e change, storeOptions b parserMode pre u = some w ∧ findEntry b parserMode o.longName = some e ∧
      e.store o.value = some change ∧ storeOptions b parserMode post w = some v ∧
      storeOptions b parserMode post (change w) = some v' := by
  unfold storeOptions at h h'
  rw [foldlM_append] at h h'
  obtain ⟨w, hw, hv⟩ := Option.bind_eq_some_iff.1 h
  obtain ⟨w', hw', hv'⟩ := Option.bind_eq_some_iff.1 h'
  rw [hw] at hw'
  cases hw'
  obtain ⟨change, hchange, hv'⟩ := storeOptions_cons.1 hv'
  obtain ⟨e, he, hstore, -⟩ := storeOption_framed hchange
  exact ⟨w, e, change, hw, he, hstore, hv, hv'⟩

/-! ## Variables that keep what they were given -/

/-- No entry stores false in a special flag, and none stores a flag that is found from others or is never set. -/
def ArgData.plain : ArgData → Bool
  | .none (.f _) reverse => !reverse
  | .none .verifyFlag _ | .none .tracedFunctionStackErrorsFatalFlag _ => false
  | _ => true

theorem watchOptions_plain (useX11 : Bool) : (watchOptions useX11).all (fun e => e.argData.plain) = true := by
  cases useX11 <;> rfl

theorem allOptions_plain (h : e ∈ allOptions b parserMode) : e.argData.plain = true := by
  have hall : (allOptions b parserMode).all (fun e => e.argData.plain) = true := by
    unfold allOptions commonOptions
    simp only [all_append, Bool.and_eq_true]
    refine ⟨⟨⟨⟨rfl, ?_⟩, ⟨⟨⟨rfl, ?_⟩, rfl⟩, ?_⟩, rfl⟩, rfl⟩, rfl⟩
    · split <;> rfl
    · split
      · exact watchOptions_plain b.useX11
      · rfl
    · split <;> rfl
  exact all_eq_true.1 hall e h

theorem writes_str (h : e.Writes value (.str x)) : e.argData = .string x := by
  obtain ⟨name, argData⟩ := e
  rcases h with h | ⟨-, h⟩
  · cases argData <;> simp_all [OptionEntry.Owns]
  · cases h

theorem writes_flag {x : FlagVar} (h : e.Writes value (.flag x)) :
    (∃ reverse, e.argData = .none x reverse) ∨ x = .verboseStats ∨ x = .internalStats := by
  obtain ⟨name, argData⟩ := e
  rcases h with h | ⟨-, h⟩
  · cases argData <;> simp_all [OptionEntry.Owns]
    rcases h with h | h
    · exact .inl h.2
    · exact .inr h.2
  · cases h

theorem store_setFlag {x : FlagVar} {reverse : Bool} (hdata : e.argData = .none x reverse)
    (h : e.store value = some change) : change = fun v => v.setFlag x (!reverse) := by
  obtain ⟨name, argData⟩ := e
  obtain rfl : argData = .none x reverse := hdata
  cases value with
  | none =>
    cases h; rfl
  | int n | text s => cases h

theorem store_setStr (hdata : e.argData = .string x) (h : e.store value = some change) :
    ∃ s, change = fun v => { v with str := update v.str x (some s) } := by
  obtain ⟨name, argData⟩ := e
  obtain rfl : argData = .string x := hdata
  cases value with
  | none | int n => cases h
  | text s =>
    cases h; exact ⟨s, rfl⟩

theorem store_given (hdata : e.argData = .string x) (h : e.store value = some change) (v : Vars) :
    ((change v).str x).isSome = true := by
  obtain ⟨s, rfl⟩ := store_setStr hdata h
  exact congrArg Option.isSome (update_self x (some s) v.str)

theorem store_isSome (h : e.store value = some change) {v : Vars} (hv : (v.str x).isSome = true) :
    ((change v).str x).isSome = true := by
  by_cases hx : e.Writes value (.str x)
  · exact store_given (writes_str hx) h v
  · have hkeep : (change v).str x = v.str x := (store_framed h).keeps (.str x) hx v
    rw [hkeep]; exact hv

theorem store_set (hplain : e.argData.plain = true) {reverse : Bool} (hdata : e.argData = .none (.f n) reverse)
    (h : e.store value = some change) (v : Vars) : (change v).flag (.f n) = true := by
  rw [hdata] at hplain
  obtain rfl : reverse = false := by simpa [ArgData.plain] using hplain
  rw [store_setFlag hdata h]; exact update_self (FlagVar.f n) true v.flag

theorem store_special (hplain : e.argData.plain = true) (h : e.store value = some change) {v : Vars}
    (hv : v.flag (.f n) = true) : (change v).flag (.f n) = true := by
  by_cases hx : e.Writes value (.flag (.f n))
  · rcases writes_flag hx with ⟨reverse, hdata⟩ | hx | hx
    · exact store_set hplain hdata h v
    · cases hx
    · cases hx
  · exact ((store_framed h).keeps (.flag (.f n)) hx v).trans hv

theorem store_fatal (hplain : e.argData.plain = true) (h : e.store value = some change) (v : Vars) :
    (change v).flag .tracedFunctionStackErrorsFatalFlag = v.flag .tracedFunctionStackErrorsFatalFlag := by
  refine (store_framed h).keeps (.flag .tracedFunctionStackErrorsFatalFlag) (fun hx => ?_) v
  rcases writes_flag hx with ⟨reverse, hdata⟩ | hx | hx
  · rw [hdata] at hplain; cases hplain
  · cases hx
  · cases hx

theorem storeOptions_isSome (h : storeOptions b parserMode line u = some v) (hu : (u.str x).isSome = true) :
    (v.str x).isSome = true :=
  storeOptions_preserves (I := fun v => (v.str x).isSome = true) h
    (fun _ _ _ _ hstore _ hv => store_isSome hstore hv) hu

theorem storeOptions_special (h : storeOptions b parserMode line u = some v) (hu : u.flag (.f n) = true) :
    v.flag (.f n) = true :=
  storeOptions_preserves (I := fun v => v.flag (.f n) = true) h
    (fun _ he _ _ hstore _ hv => store_special (allOptions_plain he) hstore hv) hu

theorem storeOptions_fatal {st : Statics} (h : storeOptions b parserMode line (initialVars st) = some v) :
    v.flag .tracedFunctionStackErrorsFatalFlag = false := by
  refine storeOptions_preserves (I := fun v => v.flag .tracedFunctionStackErrorsFatalFlag = false) h ?_ rfl
  intro e he value change hstore v hv; exact (store_fatal (allOptions_plain he) hstore v).trans hv

end

end Ddc.Cmd
