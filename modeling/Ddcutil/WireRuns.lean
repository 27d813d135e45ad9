import Ddcutil.MultiPartRead
import Ddcutil.VcpVersion
import Ddcutil.Wire
import Ddcutil.WriteReadStatus
/-!
# WireRuns — what the program learns of a monitor and does to it, whatever the noise

Reads and writes with their retries over the bus of `Wire`.  What is read is what the monitor has, or an error; what is
set is what is read afterwards.
-/
namespace Ddc.Wire

open Kit List Exec

variable {m m' : Monitor} {data reply : List Byte} {t sub code : Byte} {request : DdcPacket} {sim : Bool}
  {noise : Nat → Noise}

/-! ## A read with its retries -/

/-- **Each try is an exchange with the monitor**, with noise of its own. -/
def TriesOn (sim : Bool) (m : Monitor) (noise : Nat → Noise) (request : DdcPacket) (sub : Byte) (call : WriteReadCall) :
    Prop :=
  ∀ k, ∃ pending pending', ddcWriteRead (noisyBus (noise k)) sim (m, pending) request maxDdcPacketSize
    call.expectedResponseType sub = .ok ((call.tries k).result, (m, pending'))

theorem ddcWriteReadWithRetry_answered (st : RetrySettings) {state : DdcState} (hstate : state.pdd.Sound)
    {call : WriteReadCall} {src : Byte} (hcar : Carries request src data)
    (h : Answered m data call.expectedResponseType sub reply)
    (hspares : ∀ k, (noise k).Spares call.expectedResponseType)
    (htries : TriesOn sim m noise request sub call) :
    ∃ r, ddcWriteReadWithRetry st state call = .ok r ∧ (r.excp = none ↔ r.packet.isSome = true) ∧
      (∀ p, r.packet = some p → Decoded call.expectedResponseType reply p.parsed) ∧
      (noise 0 = .clear → sim = false → r.packet.isSome = true) := by
  have htry : ∀ k, ResultOf sim call.expectedResponseType reply (noise k) (call.tries k).result := by
    intro k
    obtain ⟨pending, pending', hk⟩ := htries k
    obtain ⟨result, pending'', hr, hresult⟩ := ddcWriteRead_answered hcar h sim (hspares k) pending
    rw [hk] at hr
    cases hr; exact hresult
  have hpacket : ∀ k p, tryPacket call k = some p → (call.tries k).result = .response p := by
    intro k p hp
    unfold tryPacket at hp
    cases hres : (call.tries k).result with
    | response packet => rw [hres] at hp; cases hp; rfl
    | failure psc neg => rw [hres] at hp; cases hp
  obtain ⟨k, s, r, hr, hlast, hcases⟩ := ddcWriteReadWithRetry_ends (sound_keptByTries st call) (fun _ _ hs => hs)
    hstate
  have hfirst : noise 0 = .clear → sim = false → ∃ p, k = 0 ∧ tryPacket call k = some p := by
    intro hclear hsim
    obtain ⟨p, hp⟩ := ((htry 0).clear hclear).resolve_right fun h' => by rw [hsim] at h'; cases h'.1
    have hz : tryStatus call 0 = 0 := by rw [tryStatus, hp]
    have hk : k = 0 := by
      by_contra hne
      have := (hlast.before 0 (Nat.pos_of_ne_zero hne)).1
      rw [hz] at this; exact absurd this (by decide)
    refine ⟨p, hk, ?_⟩
    rw [hk, tryPacket, hp]; rfl
  refine ⟨r, hr, ?_⟩
  rcases hcases with ⟨hdead, -, rfl⟩ | ⟨-, -, hfinished⟩
  · have hsome : (call.tries k).busCheck ≠ none := Option.isSome_iff_ne_none.1 hdead.2
    refine ⟨iff_of_false hsome Bool.false_ne_true, fun p hp => (by cases hp), fun hclear hsim => ?_⟩
    obtain ⟨p, rfl, hp⟩ := hfirst hclear hsim
    have hz : tryStatus call 0 = 0 := by rw [tryStatus, hpacket 0 p hp]
    rcases hdead.1 with he | he
    · rw [hz] at he; exact absurd he (by decide)
    · rw [hz] at he; exact absurd he (by decide)
  · rw [hfinished.packet, hfinished.excp]
    refine ⟨?_, fun p hp => (htry k).decoded p (hpacket k p hp), fun hclear hsim => ?_⟩
    · rcases try_cases call k with ⟨hok, -, hp⟩ | ⟨hneg, -, hp⟩
      · rw [hok, if_neg (by decide), hp]; simp
      · rw [if_pos hneg, hp]; simp
    · obtain ⟨p, -, hp⟩ := hfirst hclear hsim
      rw [hp]; rfl

/-- **On a clear bus the first try succeeds**, where it is not null messages that say unsupported. -/
theorem clearCall (st : RetrySettings) {state : DdcState} (hstate : state.pdd.Sound) {src : Byte}
    (hcar : Carries request src data) (h : Answered m data t sub reply) :
    ∃ call r p, call.expectedResponseType = t ∧ TriesOn false m (fun _ => .clear) request sub call ∧
      ddcWriteReadWithRetry st state call = .ok r ∧ r.packet = some p ∧ Decoded t reply p.parsed := by
  have hspares : Noise.clear.Spares t := .inr fun x hx => by cases hx
  obtain ⟨result, pending, hresult, -⟩ := ddcWriteRead_answered hcar h false hspares []
  have htries : TriesOn false m (fun _ => .clear) request sub
      ⟨plainReadHandle, t, ⟨false, false, false⟩, fun _ => ⟨result, true, none⟩, 0⟩ := fun _ => ⟨[], pending, hresult⟩
  obtain ⟨r, hr, -, hdec, hclear⟩ := ddcWriteReadWithRetry_answered st hstate hcar h (fun _ => hspares) htries
  obtain ⟨p, hp⟩ := Option.isSome_iff_exists.1 (hclear rfl rfl)
  exact ⟨_, r, p, rfl, htries, hr, hp, hdec p hp⟩

theorem answered_getvcp (m : Monitor) (code : Byte) :
    Answered m [ddcPacketTypeQueryVcpRequest, code] ddcPacketTypeQueryVcpResponse code
      (Monitor.featureReply code (m.features code)) where
  handle := rfl
  type := .inl rfl
  good := by
    cases m.features code with
    | none => exact ⟨rfl, rfl, .inr rfl, rfl⟩
    | some v => exact ⟨rfl, rfl, .inl rfl, rfl⟩
  fits := by
    cases m.features code with
    | none | some v => exact (by decide : 8 ≤ 35)

theorem carries_getvcp (h : createDdcGetvcpRequestPacket code = .ok request) :
    Carries request 0x51 [ddcPacketTypeQueryVcpRequest, code] := by
  obtain ⟨p, hp, hcar⟩ := createDdcBaseRequestPacket_ok 0x51 [ddcPacketTypeQueryVcpRequest, code] [] (by simp)
  obtain rfl := Except.ok.inj (hp.symm.trans h); exact hcar

/-! ## A packet that is only written -/

/-- The writes of the first `n` tries. -/
def writes (noise : Nat → Noise) (bytes : List Byte) (n : Nat) (s : Monitor × List Byte) : Monitor × List Byte :=
  (List.range n).foldl (fun s k => ((noisyBus (noise k)).write s bytes).2) s

/-- `ddc_write_only_with_retry` on the bus. -/
def writeOnlyWithRetry (noise : Nat → Noise) (maxTries : MaxTries) (s : Monitor × List Byte) (request : DdcPacket) :
    Exec (Option ErrorInfo × Monitor × List Byte) := do
  let bytes ← Kit.span request.rawBytes.bytes 1 (request.rawBytes.len - 1)
  let r ← ddcWriteOnlyWithRetry (fun k => ((noisyBus (noise k)).write s bytes).1) maxTries 0
  .ok (r.1, writes noise bytes r.2 s)

theorem ddcWriteOnlyWithRetry_last {write : Nat → Status} {maxTries : MaxTries} {n : Nat}
    (h : ddcWriteOnlyWithRetry write maxTries 0 = .ok (none, n)) : ∃ k < n, 0 ≤ write k := by
  obtain ⟨s, hs, h⟩ := bind_eq_ok.1 h
  obtain ⟨excp, hexcp, h⟩ := bind_eq_ok.1 h
  cases h
  obtain ⟨s', m, hs', hinv, -, hend⟩ := forWhile_inv (c := fun s : WriteTries => s.psc < 0 && s.retryable)
    (I := BetweenWrites write 0 maxTries.val) (fun _ _ h hc => writeTry_between h hc) maxTries.val
    ⟨-999, true, [], 0⟩
    ⟨Nat.zero_add _, fun _ => ⟨by decide, rfl, rfl⟩, fun j hj => absurd hj (Nat.not_lt_zero _),
      fun k hk => absurd hk (Nat.succ_ne_zero k).symm, fun h => absurd h (Nat.succ_ne_zero 0).symm⟩
  obtain rfl := Except.ok.inj (hs.symm.trans hs')
  have hpsc : ¬ s.psc < 0 := by
    intro hneg
    rw [finishWriteTries, if_pos hneg] at hexcp
    split_ifs at hexcp
    · cases hexcp
    · obtain ⟨_, -, hexcp⟩ := bind_eq_ok.1 hexcp
      obtain ⟨_, -, hexcp⟩ := bind_eq_ok.1 hexcp
      cases hexcp
  cases hk : s.tryctr with
  | zero => exact absurd (hinv.first hk).1 hpsc
  | succ k =>
    rw [(hinv.last k hk).1, Nat.zero_add] at hpsc
    exact ⟨k, by omega, Int.not_lt.1 hpsc⟩

theorem write_status (noise : Noise) (s s' : Monitor × List Byte) (bytes : List Byte) :
    ((noisyBus noise).write s bytes).1 = ((noisyBus noise).write s' bytes).1 := by
  cases noise with
  | clear | writeFails | readFails | zeros | nullMessage | changed => rfl

theorem write_leaves (noise : Noise) (s : Monitor × List Byte) (src : Byte) (data : List Byte) :
    let w := (noisyBus noise).write s ((requestBytes src data).drop 1)
    (w.2.1 = s.1 ∨ w.2.1 = (s.1.handle data).1) ∧ (0 ≤ w.1 → w.2.1 = (s.1.handle data).1) := by
  have hreceive : s.1.receive ((requestBytes src data).drop 1) = s.1.handle data := by
    rw [Monitor.receive, requestData_requestBytes]
  cases noise with
  | writeFails rc neg received =>
    refine ⟨?_, fun h => absurd neg (Int.not_lt.2 h)⟩
    cases received with
    | true => exact .inr (congrArg Prod.fst hreceive)
    | false => exact .inl rfl
  | clear | readFails | zeros | nullMessage | changed =>
    exact ⟨.inr (congrArg Prod.fst hreceive), fun _ => congrArg Prod.fst hreceive⟩

/-- **A request that changes nothing when it is repeated** has been handled once the writes succeed, and otherwise has
been handled or not. -/
theorem writes_leaves {src : Byte} (hagain : ((m.handle data).1.handle data).1 = (m.handle data).1)
    (pending : List Byte) (n : Nat) :
    let s := writes noise ((requestBytes src data).drop 1) n (m, pending)
    (s.1 = m ∨ s.1 = (m.handle data).1) ∧
      ((∃ k < n, 0 ≤ ((noisyBus (noise k)).write (m, pending) ((requestBytes src data).drop 1)).1) →
        s.1 = (m.handle data).1) := by
  induction n with
  | zero => exact ⟨.inl rfl, fun h => absurd h.choose_spec.1 (Nat.not_lt_zero _)⟩
  | succ n ih =>
    have hsucc : writes noise ((requestBytes src data).drop 1) (n + 1) (m, pending) = ((noisyBus (noise n)).write
        (writes noise ((requestBytes src data).drop 1) n (m, pending)) ((requestBytes src data).drop 1)).2 := by
      rw [writes, range_succ, foldl_append]; rfl
    obtain ⟨hstate, hdone⟩ := ih
    obtain ⟨hwrite, hreceived⟩ := write_leaves (noise n)
      (writes noise ((requestBytes src data).drop 1) n (m, pending)) src data
    have hhandled : ((writes noise ((requestBytes src data).drop 1) n (m, pending)).1.handle data).1 =
        (m.handle data).1 := by
      rcases hstate with h | h
      · rw [h]
      · rw [h, hagain]
    rw [hhandled] at hwrite hreceived
    simp only [hsucc]
    constructor
    · rcases hwrite with h | h
      · rw [h]; exact hstate
      · exact .inr h
    · rintro ⟨k, hk, hstatus⟩
      rcases Nat.lt_succ_iff_lt_or_eq.1 hk with hlt | rfl
      · rcases hwrite with h | h
        · rw [h]; exact hdone ⟨k, hlt, hstatus⟩
        · exact h
      · rw [write_status _ _ (writes noise ((requestBytes src data).drop 1) k (m, pending))] at hstatus
        exact hreceived hstatus

theorem writeOnlyWithRetry_leaves {src : Byte} (hcar : Carries request src data) {maxTries : MaxTries}
    (hagain : ((m.handle data).1.handle data).1 = (m.handle data).1) {pending pending' : List Byte}
    {excp : Option ErrorInfo}
    (h : writeOnlyWithRetry noise maxTries (m, pending) request = .ok (excp, m', pending')) :
    (m' = m ∨ m' = (m.handle data).1) ∧ (excp = none → m' = (m.handle data).1) := by
  rw [writeOnlyWithRetry, (sent_of_carries hcar).2, ok_bind] at h
  obtain ⟨⟨excp', n⟩, hr, h⟩ := bind_eq_ok.1 h
  obtain ⟨hstate, hdone⟩ := @writes_leaves m data noise src hagain pending n
  obtain ⟨hexcp, hs⟩ := Prod.mk.inj (Except.ok.inj h)
  obtain rfl : excp' = excp := hexcp
  simp only [hs] at hstate hdone
  exact ⟨hstate, fun hnone => hdone (ddcWriteOnlyWithRetry_last (hnone ▸ hr))⟩

/-! ## Features that are set and read -/

def setvcpData (code : Byte) (newValue : Nat) : List Byte :=
  [ddcPacketTypeSetVcpRequest, code, UInt8.ofNat ((newValue >>> 8) &&& 0xff), UInt8.ofNat (newValue &&& 0xff)]

theorem carries_setvcp {alt : Byte} {n : Nat} (h : createDdcSetvcpRequestPacket alt code n = .ok request) :
    ∃ src, Carries request src (setvcpData code n) := by
  obtain ⟨p, hp, hcar⟩ := createDdcBaseRequestPacket_ok (if alt ≠ 0 then alt else 0x51) (setvcpData code n) [] (by
    simp [setvcpData])
  obtain rfl := Except.ok.inj (hp.symm.trans h); exact ⟨_, hcar⟩

theorem setFeature_again (m : Monitor) (code sh sl : Byte) :
    (m.setFeature code sh sl).setFeature code sh sl = m.setFeature code sh sl := by
  simp [Monitor.setFeature, Function.comp_def]

inductive FeatureCall where
  | get (code : Byte)
  | set (altSourceAddr code : Byte) (newValue : Nat)

inductive FeatureReply where
  | value (r : ParsedNontableVcpResponse)
  | done
  | failed

/-- What `ddc_get_nontable_vcp_value` makes of what `ddc_write_read_with_retry` returns. -/
def getReply (dh : DisplayHandle) (r : WriteReadReturn) : FeatureReply :=
  match r.packet.bind DdcPacket.parsed with
  | some (.nontableResponse resp) =>
    match checkNontableReply dh resp with
    | .ok resp => .value resp
    | .error _ => .failed
  | _ => .failed

/-- **One call**, with any settings of the retries and any noise: the monitor before it, its reply, the monitor
after. -/
inductive FeatureStep (sim : Bool) : Monitor → FeatureCall → FeatureReply → Monitor → Prop where
  | get {m : Monitor} {code : Byte} {request : DdcPacket} {st : RetrySettings} {state : DdcState} {call : WriteReadCall}
      {noise : Nat → Noise} {r : WriteReadReturn} (dh : DisplayHandle)
      (hrequest : createDdcGetvcpRequestPacket code = .ok request) (hstate : state.pdd.Sound)
      (htype : call.expectedResponseType = ddcPacketTypeQueryVcpResponse)
      (htries : TriesOn sim m noise request code call) (hr : ddcWriteReadWithRetry st state call = .ok r) :
      FeatureStep sim m (.get code) (getReply dh r) m
  | set {m m' : Monitor} {alt code : Byte} {newValue : Nat} {request : DdcPacket} {noise : Nat → Noise}
      {maxTries : MaxTries} {pending pending' : List Byte} {excp : Option ErrorInfo}
      (hrequest : createDdcSetvcpRequestPacket alt code newValue = .ok request)
      (hr : writeOnlyWithRetry noise maxTries (m, pending) request = .ok (excp, m', pending')) :
      FeatureStep sim m (.set alt code newValue) (if excp.isNone then .done else .failed) m'

/-- The calls of a run with their replies. -/
inductive FeatureRun (sim : Bool) : Monitor → List (FeatureCall × FeatureReply) → Monitor → Prop where
  | nil (m : Monitor) : FeatureRun sim m [] m
  | cons {m m₁ m' : Monitor} {c : FeatureCall} {reply : FeatureReply} {l : List (FeatureCall × FeatureReply)}
      (h : FeatureStep sim m c reply m₁) (hrest : FeatureRun sim m₁ l m') : FeatureRun sim m ((c, reply) :: l) m'

/-- **The values that features have now.** -/
def current (m : Monitor) (code : Byte) : Option Nat := (m.features code).map fun v => hiLoBytesToShort v.sh v.sl

def setValue (cur : Byte → Option Nat) (code : Byte) (newValue : Nat) : Byte → Option Nat :=
  Function.update cur code ((cur code).map fun _ => newValue % 65536)

/-- **What a call may do to a map of values**: a value that is read is the one it has, one that was set it has, and
after an error it is the same or the value has been set. -/
def Allowed (cur cur' : Byte → Option Nat) : FeatureCall → FeatureReply → Prop
  | .get code, .value r => cur' = cur ∧ r.vcpCode = code ∧ cur code = some (hiLoBytesToShort r.sh r.sl)
  | .set _ code newValue, .done => cur' = setValue cur code newValue
  | .get _, .failed => cur' = cur
  | .set _ code newValue, .failed => cur' = cur ∨ cur' = setValue cur code newValue
  | _, _ => False

def AllowedRun : (Byte → Option Nat) → List (FeatureCall × FeatureReply) → (Byte → Option Nat) → Prop
  | cur, [], cur' => cur' = cur
  | cur, (c, reply) :: l, cur' => ∃ cur₁, Allowed cur cur₁ c reply ∧ AllowedRun cur₁ l cur'

theorem current_setFeature (m : Monitor) (code : Byte) (newValue : Nat) :
    current (m.setFeature code (UInt8.ofNat ((newValue >>> 8) &&& 0xff)) (UInt8.ofNat (newValue &&& 0xff))) =
      setValue (current m) code newValue := by
  have hvalue : hiLoBytesToShort (UInt8.ofNat ((newValue >>> 8) &&& 0xff)) (UInt8.ofNat (newValue &&& 0xff)) =
      newValue % 65536 := by
    rw [hiLoBytesToShort_eq, toNat_ofNat_and, toNat_ofNat_and, Nat.shiftRight_eq_div_pow]; omega
  funext c
  by_cases hc : c = code
  · subst hc
    simp only [current, setValue, Monitor.setFeature, Function.update_self, Option.map_map, Function.comp_def, hvalue]
  · simp only [current, setValue, Monitor.setFeature, Function.update_of_ne hc]

theorem getReply_allowed {r : WriteReadReturn} (dh : DisplayHandle)
    (hdec : ∀ p, r.packet = some p → Decoded ddcPacketTypeQueryVcpResponse
      (Monitor.featureReply code (m.features code)) p.parsed) :
    Allowed (current m) (current m) (.get code) (getReply dh r) := by
  cases hp : r.packet with
  | none => unfold getReply; rw [hp]; rfl
  | some p =>
    have hparsed := hdec p hp
    rw [Decoded, if_pos rfl] at hparsed
    unfold getReply
    rw [hp, Option.bind_some, hparsed]
    cases hv : m.features code with
    | none => rfl
    | some v =>
      cases hc : checkNontableReply dh ⟨code, true, true, v.mh, v.ml, v.sh, v.sl⟩ with
      | error e => simp [Monitor.featureReply, hc, Allowed]
      | ok resp =>
        obtain ⟨rfl, -, -⟩ := checkNontableReply_eq_ok hc
        simp [Monitor.featureReply, hc, Allowed, current, hv]

/-- **One call** does what it may do. -/
theorem step_allowed {c : FeatureCall} {reply : FeatureReply} (h : FeatureStep sim m c reply m') :
    Allowed (current m) (current m') c reply := by
  cases h with
  | @get code request st state call noise r dh hrequest hstate htype htries hr =>
    have hcar := carries_getvcp hrequest
    have hanswered := answered_getvcp m code
    rw [← htype] at hanswered
    obtain ⟨r', hr', -, hdec, -⟩ := ddcWriteReadWithRetry_answered st hstate hcar hanswered (fun _ => .inl htype) htries
    obtain rfl := Except.ok.inj (hr.symm.trans hr')
    rw [htype] at hdec
    exact getReply_allowed dh hdec
  | @set _ alt code newValue request noise maxTries pending pending' excp hrequest hr =>
    obtain ⟨src, hcar⟩ := carries_setvcp hrequest
    have hagain : ((m.handle (setvcpData code newValue)).1.handle (setvcpData code newValue)).1 =
        (m.handle (setvcpData code newValue)).1 := setFeature_again m _ _ _
    have hset : current (m.handle (setvcpData code newValue)).1 = setValue (current m) code newValue :=
      current_setFeature m code newValue
    obtain ⟨hleft, hdone⟩ := writeOnlyWithRetry_leaves hcar hagain hr
    cases excp with
    | none => rw [hdone rfl]; exact hset
    | some e =>
      rcases hleft with rfl | rfl
      · exact .inl rfl
      · exact .inr hset

/-- **Whatever is set and read in whatever order**, with any retries and any noise, a value that is read is the one that
the monitor has: the last one that was set. -/
theorem featureRun_allowed {l : List (FeatureCall × FeatureReply)} (h : FeatureRun sim m l m') :
    AllowedRun (current m) l (current m') := by
  induction h with
  | nil m => rfl
  | cons h _ ih => exact ⟨_, step_allowed h, ih⟩

theorem quietDisplay_sound : quietDisplay.pdd.Sound :=
  ⟨fun _ h => absurd h (Option.some_ne_none _).symm, fun h => absurd h (by decide)⟩

/-- A monitor whose brightness is 30 of 100. -/
def dimMonitor : Monitor :=
  ⟨fun code => if code = 0x10 then some ⟨0, 100, 0, 30⟩ else none, [0x28, 0x29], fun _ => [], fun _ => 32,
    fun _ => by decide⟩

/-- **On a clear bus a value is read exactly where the monitor has one**, but for zeros that stand for an unsupported
feature. -/
theorem value_of_clear {st : RetrySettings} {state : DdcState} {call : WriteReadCall} (dh : DisplayHandle)
    (hrequest : createDdcGetvcpRequestPacket code = .ok request) (hstate : state.pdd.Sound)
    (htype : call.expectedResponseType = ddcPacketTypeQueryVcpResponse)
    (htries : TriesOn false m noise request code call) (hclear : noise 0 = .clear) :
    ∃ r, ddcWriteReadWithRetry st state call = .ok r ∧ r.excp = none ∧
      ∀ resp, getReply dh r = .value resp ↔
        ∃ v, m.features code = some v ∧ ¬ (v = ⟨0, 0, 0, 0⟩ ∧ dh.usesZeroForUnsupported = true) ∧
          resp = ⟨code, true, true, v.mh, v.ml, v.sh, v.sl⟩ := by
  have hanswered := answered_getvcp m code
  rw [← htype] at hanswered
  obtain ⟨r, hr, hexcp, hdec, hsome⟩ := ddcWriteReadWithRetry_answered st hstate (carries_getvcp hrequest) hanswered
    (fun _ => .inl htype) htries
  obtain ⟨p, hp⟩ := Option.isSome_iff_exists.1 (hsome hclear rfl)
  refine ⟨r, hr, hexcp.2 (hsome hclear rfl), fun resp => ?_⟩
  have hparsed := hdec p hp
  rw [htype, Decoded, if_pos rfl] at hparsed
  cases hv : m.features code with
  | none =>
    have hgot : getReply dh r = .failed := by
      unfold getReply
      rw [hp, Option.bind_some, hparsed, hv]; rfl
    rw [hgot]
    exact iff_of_false (fun h => by cases h) fun h => by cases h.choose_spec.1
  | some v =>
    obtain ⟨mh, ml, sh, sl⟩ := v
    by_cases hzero : (⟨mh, ml, sh, sl⟩ : FeatureValue) = ⟨0, 0, 0, 0⟩ ∧ dh.usesZeroForUnsupported = true
    · have hgot : getReply dh r = .failed := by
        unfold getReply
        rw [hp, Option.bind_some, hparsed, hv, hzero.1]
        simp [Monitor.featureReply, checkNontableReply, valueBytesZero, hzero.2]
      rw [hgot]
      refine iff_of_false (fun h => by cases h) fun h => ?_
      obtain ⟨v, hsome, hno, -⟩ := h
      exact hno (Option.some.inj hsome ▸ hzero)
    · have hzero' : ¬ ((((mh = 0 ∧ ml = 0) ∧ sh = 0) ∧ sl = 0) ∧ dh.usesZeroForUnsupported = true) := by
        rintro ⟨⟨⟨⟨rfl, rfl⟩, rfl⟩, rfl⟩, huses⟩
        exact hzero ⟨rfl, huses⟩
      have hgot : getReply dh r = .value ⟨code, true, true, mh, ml, sh, sl⟩ := by
        unfold getReply
        rw [hp, Option.bind_some, hparsed, hv]
        simp [Monitor.featureReply, checkNontableReply, valueBytesZero, hzero']
      rw [hgot]
      constructor
      · intro h
        cases h; exact ⟨_, rfl, hzero, rfl⟩
      · rintro ⟨v, hsome, -, rfl⟩
        cases hsome; rfl

theorem value_of_clear_brightness : ∃ call r,
    ddcWriteReadWithRetry defaultTries quietDisplay call = .ok r ∧ r.excp = none ∧
    ∀ resp, getReply ⟨.i2c, fun _ => none, false⟩ r = .value resp ↔
      ∃ v, dimMonitor.features 0x10 = some v ∧ ¬ (v = ⟨0, 0, 0, 0⟩ ∧ false = true) ∧
        resp = ⟨0x10, true, true, v.mh, v.ml, v.sh, v.sl⟩ := by
  obtain ⟨get, hget⟩ := createDdcGetvcpRequestPacket_ok 0x10
  obtain ⟨call, -, -, htype, htries, -⟩ := clearCall defaultTries quietDisplay_sound (carries_getvcp hget)
    (answered_getvcp dimMonitor 0x10)
  exact ⟨call, value_of_clear _ hget quietDisplay_sound htype htries rfl⟩

/-- Its brightness is set to 80 and read. -/
theorem featureRun_allowed_brightness : ∃ reply m',
    FeatureRun false dimMonitor [(.set 0 0x10 80, .done), (.get 0x10, reply)] m' ∧
    AllowedRun (current dimMonitor) [(.set 0 0x10 80, .done), (.get 0x10, reply)] (current m') := by
  obtain ⟨set, hset⟩ := createDdcSetvcpRequestPacket_ok 0 0x10 80
  obtain ⟨get, hget⟩ := createDdcGetvcpRequestPacket_ok 0x10
  obtain ⟨src, hcar⟩ := carries_setvcp hset
  have hwrite : ∃ m' pending, writeOnlyWithRetry (fun _ => .clear) initialMaxWriteOnlyExchangeTries
      (dimMonitor, []) set = .ok (none, m', pending) := by
    rw [writeOnlyWithRetry, (sent_of_carries hcar).2, ok_bind]; exact ⟨_, _, rfl⟩
  obtain ⟨m', pending, hwrite⟩ := hwrite
  obtain ⟨call, r, p, htype, htries, hr, -, -⟩ := clearCall defaultTries quietDisplay_sound (carries_getvcp hget)
    (answered_getvcp m' 0x10)
  have hrun : FeatureRun false dimMonitor
      [(.set 0 0x10 80, .done), (.get 0x10, getReply ⟨.i2c, fun _ => none, false⟩ r)] m' :=
    .cons (.set hset hwrite) (.cons (.get _ hget quietDisplay_sound htype htries hr) (.nil m'))
  exact ⟨_, m', hrun, featureRun_allowed hrun⟩

end Ddc.Wire
