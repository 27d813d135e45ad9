import Ddcutil.SetVcpStatus
import Ddcutil.SetvcpArgs
/-!
# SetvcpRuns — setting the features that were given, one after another (app_setvcp.c)

`app_setvcp` over what an individual setting does: whatever comes of the settings, they are made in order up to the
first that fails, and its status is what the command returns.
-/
namespace Ddc

open Kit List Exec
open Ddc.Cmd

/-! ## The command -/

/-- **An individual setting**, of a feature from the state of the display: it is given the source address, and whether
unrecognized features are to be forced.  An error has a status. -/
structure Setting (σ : Type) where
  set : Byte → Bool → σ → ParsedSetvcpArgs → Exec (Option ErrorInfo × σ)
  status : ∀ addr force w psv e w', set addr force w psv = .ok (some e, w') → e.statusCode ≠ 0

structure SetvcpState (σ : Type) where
  altSourceAddr : Byte
  world : σ
  ferr : List String

def setvcpReport (causesString : ErrorInfo → String) (e : ErrorInfo) : List String :=
  [e.detail.getD "(null)" ++ "\n",
    match e.causes with
    | [cause] =>
      if e.statusCode = ddcrcRetries ∧ cause.statusCode = ddcrcRetries ∧ cause.causes ≠ [] then
        "   Try errors: DDCRC_RETRIES(" ++ causesString cause ++ ")\n"
      else "    Try errors: " ++ causesString e ++ "\n"
    | _ => "    Try errors: " ++ causesString e ++ "\n"]

section Command

variable {σ : Type} (setting : Setting σ) (causesString : ErrorInfo → String) (parsedCmd : ParsedCmd)

def sourceAddr (altSourceAddr : Byte) : Byte :=
  if parsedCmd.flags &&& cmdFlagExplicitI2cSourceAddr ≠ 0 then parsedCmd.explicitI2cSourceAddr else altSourceAddr

def forceUnrecognized : Bool := parsedCmd.flags &&& cmdFlagForceUnrecognizedVcpCode != 0

def appSetvcpLoop : List ParsedSetvcpArgs → SetvcpState σ → Exec (Status × SetvcpState σ)
  | [], st => .ok (0, st)
  | cur :: rest, st => do
    let addr := sourceAddr parsedCmd st.altSourceAddr
    let (ddcExcp, world) ← setting.set addr (forceUnrecognized parsedCmd) st.world cur
    match ddcExcp with
    | none => appSetvcpLoop rest ⟨addr, world, st.ferr⟩
    | some e => .ok (errinfoStatus (some e), ⟨addr, world, st.ferr ++ setvcpReport causesString e⟩)

def appSetvcp (st : SetvcpState σ) : Exec (Status × SetvcpState σ) :=
  appSetvcpLoop setting causesString parsedCmd parsedCmd.setvcpValues st

end Command

inductive Made {σ : Type} (set : σ → ParsedSetvcpArgs → Exec (Option ErrorInfo × σ)) :
    σ → List (ParsedSetvcpArgs × Option ErrorInfo) → σ → Prop
  | none (w : σ) : Made set w [] w
  | cons {w w' w'' : σ} {psv : ParsedSetvcpArgs} {excp : Option ErrorInfo}
      {made : List (ParsedSetvcpArgs × Option ErrorInfo)} (h : set w psv = .ok (excp, w')) (rest : Made set w' made w'') :
      Made set w ((psv, excp) :: made) w''

/-- **What the command returns of the settings made**: all were made and succeeded, or all but the last succeeded and its
status is returned. -/
inductive Returned (values : List ParsedSetvcpArgs) : List (ParsedSetvcpArgs × Option ErrorInfo) → Status → Prop
  | succeeded {made : List (ParsedSetvcpArgs × Option ErrorInfo)} (hall : made.map Prod.fst = values)
      (hnone : ∀ p ∈ made, p.2 = none) : Returned values made 0
  | failed (made : List (ParsedSetvcpArgs × Option ErrorInfo)) {psv : ParsedSetvcpArgs} {e : ErrorInfo}
      ( hprefix : made.map Prod.fst ++ [psv] <+: values) (hnone : ∀ p ∈ made, p.2 = none) (hstatus : e.statusCode ≠ 0) :
      Returned values (made ++ [(psv, some e)]) e.statusCode

/-- **What is promised of the values that were recorded**: whatever comes of the individual settings, the command makes
them in order, none after a failure, and returns the status of the failed one, or 0 if there is none; it returns where
each setting does. -/
def SettingsRight (values : List ParsedSetvcpArgs) : Prop :=
  ∀ (σ : Type) (setting : Setting σ) (causesString : ErrorInfo → String) (parsedCmd : ParsedCmd) (st : SetvcpState σ),
    parsedCmd.setvcpValues = values →
      (∀ rc st', appSetvcp setting causesString parsedCmd st = .ok (rc, st') → ∃ made,
        Made (setting.set (sourceAddr parsedCmd st.altSourceAddr) (forceUnrecognized parsedCmd)) st.world made st'.world ∧
          Returned values made rc ∧ (rc = 0 ↔ made.map Prod.fst = values ∧ ∀ p ∈ made, p.2 = none)) ∧
      ((∀ addr force w psv, ∃ r, setting.set addr force w psv = .ok r) →
        ∃ r, appSetvcp setting causesString parsedCmd st = .ok r)

/-! ## The settings are made in order -/

section Order

variable {σ : Type} {setting : Setting σ} {causesString : ErrorInfo → String} {parsedCmd : ParsedCmd}

theorem sourceAddr_sourceAddr (addr : Byte) :
    sourceAddr parsedCmd (sourceAddr parsedCmd addr) = sourceAddr parsedCmd addr := by
  unfold sourceAddr
  by_cases h : parsedCmd.flags &&& cmdFlagExplicitI2cSourceAddr ≠ 0
  · rw [if_pos h, if_pos h]
  · rw [if_neg h, if_neg h]

theorem Returned.cons {values : List ParsedSetvcpArgs} {made : List (ParsedSetvcpArgs × Option ErrorInfo)} {rc : Status}
    (h : Returned values made rc) (psv : ParsedSetvcpArgs) : Returned (psv :: values) ((psv, none) :: made) rc := by
  have hnone : ∀ {l : List (ParsedSetvcpArgs × Option ErrorInfo)}, (∀ p ∈ l, p.2 = none) →
      ∀ p ∈ (psv, none) :: l, p.2 = none := by
    intro l hl p hp
    rcases mem_cons.1 hp with rfl | hp
    · rfl
    · exact hl p hp
  cases h with
  | succeeded hall hmade =>
    apply Returned.succeeded
    · rw [map_cons, hall]
    · exact hnone hmade
  | failed made hprefix hmade hstatus =>
    refine Returned.failed ((psv, none) :: made) ?_ (hnone hmade) hstatus
    exact (prefix_cons_inj psv).2 hprefix

theorem appSetvcpLoop_made {values : List ParsedSetvcpArgs} : ∀ {st st' : SetvcpState σ} {rc : Status},
    appSetvcpLoop setting causesString parsedCmd values st = .ok (rc, st') → ∃ made,
      Made (setting.set (sourceAddr parsedCmd st.altSourceAddr) (forceUnrecognized parsedCmd)) st.world made st'.world ∧
        Returned values made rc := by
  induction values with
  | nil =>
    rintro st st' rc h
    cases h; exact ⟨[], .none _, .succeeded rfl fun p hp => absurd hp not_mem_nil⟩
  | cons cur rest ih =>
    intro st st' rc h
    obtain ⟨⟨ddcExcp, world⟩, hset, h⟩ := bind_eq_ok.1 h
    cases ddcExcp with
    | none =>
      obtain ⟨made, hmade, hret⟩ := ih h
      rw [sourceAddr_sourceAddr] at hmade
      exact ⟨(cur, none) :: made, .cons hset hmade, hret.cons cur⟩
    | some e =>
      cases h
      refine ⟨[(cur, some e)], .cons hset (.none _), ?_⟩
      refine Returned.failed [] ?_ (fun p hp => absurd hp not_mem_nil) (setting.status _ _ _ _ _ _ hset)
      exact (prefix_cons_inj cur).2 nil_prefix

theorem appSetvcpLoop_returns (hset : ∀ addr force w psv, ∃ r, setting.set addr force w psv = .ok r)
    (values : List ParsedSetvcpArgs) :
    ∀ st : SetvcpState σ, ∃ r, appSetvcpLoop setting causesString parsedCmd values st = .ok r := by
  induction values with
  | nil => exact fun st => ⟨_, rfl⟩
  | cons cur rest ih =>
    intro st
    obtain ⟨⟨ddcExcp, world⟩, hr⟩ := hset (sourceAddr parsedCmd st.altSourceAddr) (forceUnrecognized parsedCmd) st.world cur
    rw [appSetvcpLoop, hr, ok_bind]
    cases ddcExcp with
    | none => exact ih _
    | some e => exact ⟨_, rfl⟩

end Order

theorem Returned.eq_zero_iff {values : List ParsedSetvcpArgs} {made : List (ParsedSetvcpArgs × Option ErrorInfo)}
    {rc : Status} (h : Returned values made rc) : rc = 0 ↔ made.map Prod.fst = values ∧ ∀ p ∈ made, p.2 = none := by
  cases h with
  | succeeded hall hnone => exact iff_of_true rfl ⟨hall, hnone⟩
  | @failed made psv e hprefix hnone hstatus =>
    refine iff_of_false hstatus fun h => ?_
    have hlast := h.2 (psv, some e) (mem_append_right made mem_cons_self)
    cases hlast

theorem settingsRight (values : List ParsedSetvcpArgs) : SettingsRight values := by
  rintro σ setting causesString parsedCmd st rfl
  refine ⟨fun rc st' h => ?_, fun h => appSetvcpLoop_returns h _ st⟩
  obtain ⟨made, hmade, hret⟩ := appSetvcpLoop_made h
  exact ⟨made, hmade, hret, hret.eq_zero_iff⟩

/-! ## `app_set_vcp_value` is such a setting -/

structure HasStatuses (d : VcpDisplay) : Prop where
  read : ∀ k e, d.read k = .error e → e.statusCode ≠ 0
  tableWrite : ∀ k e, d.tableWrite k = some e → e.statusCode ≠ 0
  tableRead : ∀ k e, d.tableRead k = .error e → e.statusCode ≠ 0

theorem checkNontableReply_status {dh : DisplayHandle} {r : ParsedNontableVcpResponse} {e : ErrorInfo}
    (h : checkNontableReply dh r = .error e) : e.statusCode ≠ 0 := by
  unfold checkNontableReply at h
  split_ifs at h
  · cases h; decide
  · cases h; decide
  · cases h; decide

section Statuses

variable {st : VcpSettings} {dh : DisplayHandle} {d : VcpDisplay} {io io' : VcpIo} {e : ErrorInfo} (hd : HasStatuses d)

include hd in
theorem read_status {k : Nat} (h : (d.read k >>= checkNontableReply dh) = .error e) : e.statusCode ≠ 0 := by
  cases hr : d.read k with
  | error e' =>
    rw [hr] at h
    cases h; exact hd.read k e hr
  | ok reply =>
    rw [hr] at h; exact checkNontableReply_status h

theorem setNontable_status {code : Byte} {value : Nat}
    (h : ddcSetNontableVcpValue st dh d io code value = .ok (some e, io')) : e.statusCode ≠ 0 := by
  unfold ddcSetNontableVcpValue at h
  cases hmode : dh.ioMode with
  | usb =>
    rw [hmode] at h; cases h
  | i2c =>
    rw [hmode] at h
    obtain ⟨_, -, h⟩ := bind_eq_ok.1 h
    obtain ⟨⟨r, n⟩, hwrite, h⟩ := bind_eq_ok.1 h
    cases h; exact Int.ne_of_lt (ddcWriteOnlyWithRetry_negative hwrite)

include hd

theorem setTable_status (h : setTableVcpValue dh d io = (some e, io')) : e.statusCode ≠ 0 := by
  unfold setTableVcpValue at h
  cases hmode : dh.ioMode with
  | usb =>
    rw [hmode] at h
    cases h; decide
  | i2c =>
    rw [hmode] at h; exact hd.tableWrite _ e (Prod.mk.inj h).1

theorem setVcpValue_status {vrec : AnyVcpValue} (h : setVcpValue st dh d io vrec = .ok (some e, io')) :
    e.statusCode ≠ 0 := by
  unfold setVcpValue at h
  cases hval : vrec.val with
  | cNc mh ml sh sl =>
    rw [hval] at h
    obtain ⟨⟨excp, io₁⟩, hset, h⟩ := bind_eq_ok.1 h
    cases h; exact setNontable_status hset
  | t bytes =>
    rw [hval] at h
    obtain ⟨⟨excp, io₁⟩, hset, h⟩ := bind_eq_ok.1 h
    cases h; exact setTable_status hd (Except.ok.inj hset)

theorem getVcpValue_status {code : Byte} {like : VcpValue}
    (h : getVcpValue dh d io code like = .ok (.error e, io')) : e.statusCode ≠ 0 := by
  unfold getVcpValue at h
  split at h
  · cases hr : d.read io.reads with
    | ok r =>
      rw [hr] at h; cases h
    | error e' =>
      rw [hr] at h
      cases h; exact hd.read _ e' hr
  · cases h; decide
  · obtain ⟨⟨reply, io₁⟩, hget, h⟩ := bind_eq_ok.1 h
    cases hget
    cases hr : d.read io.reads >>= checkNontableReply dh with
    | ok r =>
      rw [hr] at h; cases h
    | error e' =>
      rw [hr] at h
      cases h; exact read_status hd hr
  · unfold ddcGetTableVcpValue at h
    cases hr : d.tableRead io.tableReads with
    | ok bytes =>
      rw [hr] at h; cases h
    | error e' =>
      rw [hr] at h
      dsimp only at h
      split_ifs at h
      · cases h; exact (by decide : ddcrcDeterminedUnsupported ≠ 0)
      · cases h; exact hd.tableRead _ e hr

theorem ddcSetVcpValue_status {vrec : AnyVcpValue} {wantNew : Bool} {r : SetResult}
    (h : ddcSetVcpValue st dh d io vrec wantNew = .ok r) (he : r.excp = some e) : e.statusCode ≠ 0 := by
  obtain ⟨⟨excp, io₁⟩, hset, h⟩ := bind_eq_ok.1 h
  by_cases hverify : (excp.isNone && st.verifySetvcp && isVerifiable dh vrec) = true
  · rw [if_pos hverify] at h
    obtain ⟨⟨reply, io₂⟩, hget, h⟩ := bind_eq_ok.1 h
    obtain ⟨⟨value, io₃⟩, hvalue, hget⟩ := bind_eq_ok.1 hget
    cases hget
    cases value with
    | error e' =>
      cases h
      cases he; exact getVcpValue_status hd hvalue
    | ok value =>
      cases h
      dsimp only at he
      split_ifs at he
      cases he; decide
  · rw [if_neg hverify] at h
    cases h
    cases he; exact setVcpValue_status hd hset

theorem verifyTry_status {vrec : AnyVcpValue} {s t : VerifyTries} (h : verifyTry st dh d vrec s = .ok t)
    (he : t.erec = some e) : e.statusCode ≠ 0 := by
  obtain ⟨⟨excp, io₁⟩, hset, h⟩ := bind_eq_ok.1 h
  cases excp with
  | none =>
    cases h; cases he
  | some e' =>
    have herec : t.erec = some e' := by
      dsimp only at h
      split_ifs at h
      · cases h; rfl
      · cases h; rfl
    cases herec.symm.trans he
    exact setVcpValue_status hd hset

theorem verified_status {vrec : AnyVcpValue} {wantNew : Bool} {r : SetResult}
    (h : ddcSetVerifiedVcpValueWithRetry st dh d io vrec wantNew = .ok r) (he : r.excp = some e) : e.statusCode ≠ 0 := by
  unfold ddcSetVerifiedVcpValueWithRetry at h
  split at h
  · split_ifs at h with hverify
    · obtain ⟨s, hloop, h⟩ := bind_eq_ok.1 h
      have hkeeps := forWhile_rel (R := fun s t : VerifyTries =>
        (∀ e, s.erec = some e → e.statusCode ≠ 0) → ∀ e, t.erec = some e → e.statusCode ≠ 0)
        (fun _ hs => hs) (fun hst htu hs => htu (hst hs)) (fun ht _ _ he => verifyTry_status hd ht he) _ hloop
      cases h
      split_ifs at he
      · cases he; exact (by decide : ddcrcVerify ≠ 0)
      · exact hkeeps (fun _ h => by cases h) e he
    · exact ddcSetVcpValue_status hd h he
  · exact ddcSetVcpValue_status hd h he

end Statuses

namespace SetvcpCall

variable {c : SetvcpCall} {io' : VcpIo} {e : ErrorInfo} (hd : HasStatuses c.d)
include hd

theorem setValue_status {io : VcpIo} {vrec : AnyVcpValue} (h : c.setValue io vrec = .ok (some e, io')) :
    e.statusCode ≠ 0 := by
  obtain ⟨r, hset, h⟩ := bind_eq_ok.1 h
  cases hexcp : r.excp with
  | none =>
    rw [hexcp] at h; cases h
  | some e' =>
    rw [hexcp] at h
    cases h; exact verified_status (e := e') hd hset hexcp

theorem setRelative_status {itemp : Int} (h : c.setRelative itemp = .ok (some e, io')) : e.statusCode ≠ 0 := by
  obtain ⟨⟨reply, io₁⟩, hget, h⟩ := bind_eq_ok.1 h
  cases hget
  cases hr : c.d.read c.io.reads >>= checkNontableReply c.dh with
  | error e' =>
    simp only [hr] at h
    cases h; exact read_status (e := e') hd hr
  | ok r =>
    simp only [hr] at h; exact setValue_status hd h

theorem setNontable_status {dfm : DisplayFeatureMetadata} {newValue : List Byte}
    (h : c.setNontable dfm newValue = .ok (some e, io')) : e.statusCode ≠ 0 := by
  obtain ⟨value, -, h⟩ := bind_eq_ok.1 h
  cases value with
  | none =>
    cases h; exact (by decide : ddcrcArg ≠ 0)
  | some itemp =>
    split_ifs at h
    · exact setValue_status hd h
    · cases h; decide
    · exact setRelative_status hd h

theorem setTable_status {newValue : List Byte} (h : c.setTable newValue = .ok (some e, io')) : e.statusCode ≠ 0 := by
  unfold setTable at h
  split_ifs at h
  · cases h; decide
  · cases hbytes : hhsToByteArray newValue with
    | none =>
      rw [hbytes] at h
      cases h; decide
    | some bytes =>
      rw [hbytes] at h; exact setValue_status hd h

theorem appSetVcpValue_status {newValue : List Byte} (h : c.appSetVcpValue newValue = .ok (some e, io')) :
    e.statusCode ≠ 0 := by
  obtain ⟨_, -, h⟩ := bind_eq_ok.1 h
  cases hdfm : c.dfm with
  | none =>
    rw [hdfm] at h
    cases h; exact (by decide : ddcrcUnknownFeature ≠ 0)
  | some dfm =>
    rw [hdfm] at h
    dsimp only at h
    split_ifs at h
    · cases h; exact (by decide : ddcrcInvalidOperation ≠ 0)
    · exact setTable_status hd h
    · exact setNontable_status hd h

end SetvcpCall

/-- The call for one of the values; `dfm` is `dyn_get_feature_metadata_by_dh`, by the feature code and whether a default
is wanted. -/
def SetvcpCall.forValue (c : SetvcpCall) (dfm : Byte → Bool → Option DisplayFeatureMetadata) (addr : Byte) (force : Bool)
    (io : VcpIo) (psv : ParsedSetvcpArgs) : SetvcpCall :=
  { c with
    st := { c.st with altSourceAddr := addr }
    io := io
    featureCode := psv.featureCode
    valueType := psv.featureValueType
    dfm := dfm psv.featureCode (force || decide (0xe0 ≤ psv.featureCode)) }

def SetvcpCall.setting (c : SetvcpCall) (hd : HasStatuses c.d) (dfm : Byte → Bool → Option DisplayFeatureMetadata) :
    Setting VcpIo where
  set addr force io psv := (c.forValue dfm addr force io psv).appSetVcpValue psv.featureValue
  status addr force io psv _ _ h := SetvcpCall.appSetVcpValue_status (c := c.forValue dfm addr force io psv) hd h

def SetvcpRight (args : List (List Byte)) : Prop :=
  SetvcpArgsRight args ∧ ∀ s, parseSetvcpArgs args = .ok s → s.parsingOk = true → SettingsRight s.setvcpValues

/-- **The arguments are read and the settings are made right exactly where no digit behind a sign or white space stands
for a feature code.** -/
theorem setvcpRight_iff (args : List (List Byte)) : SetvcpRight args ↔ ¬ StrayCode args := by
  rw [← setvcpArgsRight_iff]
  exact ⟨And.left, fun h => ⟨h, fun s _ _ => settingsRight s.setvcpValues⟩⟩

/-- `setvcp +5 10` sets the feature x05. -/
theorem signedCode_taken : ¬ SetvcpRight [ascii "+5", ascii "10"] := by
  rw [SetvcpRight, setvcpArgsRight_iff]
  rintro ⟨h, -⟩
  refine h ⟨[[ascii "+5", ascii "10"]], [⟨5, .absolute, ascii "10"⟩], ⟨rfl, .cons ?_ .nil⟩, _, mem_cons_self,
    ascii "+5", rfl, by decide⟩
  exact .absolute (by unfold TakenForCode; decide +kernel) (by decide) (by decide)

end Ddc
