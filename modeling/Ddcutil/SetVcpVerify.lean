import Ddcutil.SetVcp
/-!
# SetVcpVerify — what a verified set has read

A set is verified when its success means that the feature was read after its last write, and that the value read is the
one set (`Verifies`).  `ddc_set_vcp_value` is verified; `ddc_set_verified_vcp_value_with_retry` is so only where it cannot
succeed.
-/
namespace Ddc

open Kit Exec

def VcpEvent.isWriteOf (opcode : Byte) : VcpEvent → Bool
  | .wrote op _ => op == opcode
  | .read _ _ => false

/-- **A set that is verified**: success comes with an equal value read after the last write, which is the value handed
back, and there are no more writes than tries. -/
structure Verifies (vrec : AnyVcpValue) (maxTries : Int) (wantNew : Bool) (r : SetResult) : Prop where
  read : r.excp = none → ∃ pre v post, r.io.events = pre ++ .read vrec.opcode (some v) :: post ∧
    (∀ e ∈ post, e.isWriteOf vrec.opcode = false) ∧ singleVcpValueEqual vrec v = true ∧ (wantNew = true → r.newval = some v)
  writes : ((r.io.events.filter (VcpEvent.isWriteOf vrec.opcode)).length : Int) ≤ maxTries

theorem createDdcGetvcpRequestPacket_ok (code : Byte) : ∃ p, createDdcGetvcpRequestPacket code = .ok p := by
  obtain ⟨p, hp, -⟩ := createDdcBaseRequestPacket_ok 0x51 [ddcPacketTypeQueryVcpRequest, code] [] (by simp)
  exact ⟨p, hp⟩

theorem createDdcSetvcpRequestPacket_ok (alt code : Byte) (n : Nat) :
    ∃ p, createDdcSetvcpRequestPacket alt code n = .ok p := by
  obtain ⟨p, hp, -⟩ := createDdcBaseRequestPacket_ok (if alt ≠ 0 then alt else 0x51)
    [ddcPacketTypeSetVcpRequest, code, UInt8.ofNat ((n >>> 8) &&& 0xff), UInt8.ofNat (n &&& 0xff)] [] (by simp)
  exact ⟨p, hp⟩

/-- Whether a write of a non-table value succeeds: always over USB, whose status is dropped. -/
def SetSucceeds (st : VcpSettings) (dh : DisplayHandle) (d : VcpDisplay) (writes : Nat) : Prop :=
  dh.ioMode = .usb ∨ WriteSucceeds d.write writes st.maxWriteOnlyTries.val

/-- **A setter of a non-table value makes one write and no read**; its error never asks for another verification. -/
theorem setVcpValue_nontable (st : VcpSettings) (dh : DisplayHandle) (d : VcpDisplay) (io : VcpIo)
    (op mh ml sh sl : Byte) :
    (SetSucceeds st dh d io.writes ∧ ∃ io', setVcpValue st dh d io ⟨op, .cNc mh ml sh sl⟩ = .ok (none, io') ∧
      io'.events = io.events ++ [.wrote op (.cNc mh ml sh sl)]) ∨
    (¬ SetSucceeds st dh d io.writes ∧
      ((∃ e io', setVcpValue st dh d io ⟨op, .cNc mh ml sh sl⟩ = .ok (some e, io') ∧ e.statusCode ≠ ddcrcVerify ∧
        io'.events = io.events ++ [.wrote op (.cNc mh ml sh sl)]) ∨
      setVcpValue st dh d io ⟨op, .cNc mh ml sh sl⟩ = .error .assertFailed)) := by
  obtain ⟨p, hp⟩ := createDdcSetvcpRequestPacket_ok st.altSourceAddr op (hiLoBytesToShort sh sl)
  unfold setVcpValue SetSucceeds ddcSetNontableVcpValue
  cases dh.ioMode with
  | usb => exact .inl ⟨.inl rfl, _, rfl, rfl⟩
  | i2c =>
    simp only [hp, ok_bind, reduceCtorEq, false_or]
    rcases ddcWriteOnlyWithRetry_cases d.write st.maxWriteOnlyTries io.writes with ⟨hok, n, hr⟩ | ⟨hno, ⟨e, n, hr, hst⟩ | hr⟩
    · rw [hr]; exact .inl ⟨hok, _, rfl, rfl⟩
    · refine .inr ⟨hno, .inl ⟨e, ?_⟩⟩
      rw [hr]
      refine ⟨_, rfl, ?_, rfl⟩
      rcases hst with h | h
      · rw [h]; decide
      · rw [h]; decide
    · rw [hr]; exact .inr ⟨hno, .inr rfl⟩

/-! ## `ddc_set_verified_vcp_value_with_retry` is verified only where it cannot succeed -/

theorem not_verifies_of_no_read {vrec : AnyVcpValue} {maxTries : Int} {wantNew : Bool} {r : SetResult}
    (hn : r.excp = none) (hno : ∀ op x, .read op x ∉ r.io.events) : ¬ Verifies vrec maxTries wantNew r := by
  intro h
  obtain ⟨pre, v, post, he, -⟩ := h.read hn
  exact hno vrec.opcode (some v) (by rw [he]; simp)

theorem verifyLoop_cases (st : VcpSettings) (dh : DisplayHandle) (d : VcpDisplay) (op mh ml sh sl : Byte) (n : Nat) :
    let loop := forWhile (fun s => !s.done) (verifyTry st dh d ⟨op, .cNc mh ml sh sl⟩) (n + 1) ⟨none, false, [], .start⟩
    (SetSucceeds st dh d 0 ∧ ∃ io, loop = .ok ⟨none, true, [], io⟩ ∧ io.events = [.wrote op (.cNc mh ml sh sl)]) ∨
    (¬ SetSucceeds st dh d 0 ∧
      ((∃ e io, loop = .ok ⟨some e, true, [], io⟩ ∧ e.statusCode ≠ ddcrcVerify ∧
        io.events = [.wrote op (.cNc mh ml sh sl)]) ∨ loop = .error .assertFailed)) := by
  rcases setVcpValue_nontable st dh d .start op mh ml sh sl with ⟨hok, io', hs, he⟩ | ⟨hno, ⟨e, io', hs, hst, he⟩ | hs⟩
  · refine .inl ⟨hok, io', ?_, he⟩
    have ht : verifyTry st dh d ⟨op, .cNc mh ml sh sl⟩ ⟨none, false, [], .start⟩ = .ok ⟨none, true, [], io'⟩ := by
      rw [verifyTry, hs, ok_bind]
    rw [forWhile_step n rfl ht, forWhile_stop rfl]
  · refine .inr ⟨hno, .inl ⟨e, io', ?_, hst, he⟩⟩
    have ht : verifyTry st dh d ⟨op, .cNc mh ml sh sl⟩ ⟨none, false, [], .start⟩ = .ok ⟨some e, true, [], io'⟩ := by
      rw [verifyTry, hs, ok_bind]; exact if_pos hst
    rw [forWhile_step n rfl ht, forWhile_stop rfl]
  · refine .inr ⟨hno, .inr ?_⟩
    have ht : verifyTry st dh d ⟨op, .cNc mh ml sh sl⟩ ⟨none, false, [], .start⟩ = .error .assertFailed := by
      rw [verifyTry, hs, error_bind]
    exact forWhile_fault n rfl ht

/-- **The retry loop verifies exactly where no write can succeed**: an I2C display, at least one try, and a write that
fails on every try of its own. -/
theorem ddcSetVerifiedVcpValueWithRetry_verifies_iff (st : VcpSettings) (dh : DisplayHandle) (d : VcpDisplay)
    (op mh ml sh sl : Byte) (wantNew : Bool) (hv : st.verifySetvcp = true)
    (hver : isVerifiable dh ⟨op, .cNc mh ml sh sl⟩ = true) :
    (∀ r, ddcSetVerifiedVcpValueWithRetry st dh d .start ⟨op, .cNc mh ml sh sl⟩ wantNew = .ok r →
      Verifies ⟨op, .cNc mh ml sh sl⟩ st.maxSetvcpVerifyTries wantNew r) ↔
    dh.ioMode = .i2c ∧ 1 ≤ st.maxSetvcpVerifyTries ∧ ¬ WriteSucceeds d.write 0 st.maxWriteOnlyTries.val := by
  have hcond : (st.verifySetvcp && isVerifiable dh ⟨op, .cNc mh ml sh sl⟩) = true := by rw [hv, hver]; rfl
  unfold ddcSetVerifiedVcpValueWithRetry
  simp only [if_pos hcond]
  by_cases hmax : 1 ≤ st.maxSetvcpVerifyTries
  · obtain ⟨n, hn⟩ : ∃ n, st.maxSetvcpVerifyTries.toNat = n + 1 :=
      ⟨st.maxSetvcpVerifyTries.toNat - 1, by omega⟩
    have hset : (dh.ioMode = .i2c ∧ 1 ≤ st.maxSetvcpVerifyTries ∧ ¬ WriteSucceeds d.write 0 st.maxWriteOnlyTries.val) ↔
        ¬ SetSucceeds st dh d 0 := by
      unfold SetSucceeds
      cases dh.ioMode with
      | usb => simp
      | i2c => simp [hmax]
    rw [hn, hset]
    rcases verifyLoop_cases st dh d op mh ml sh sl n with ⟨hok, io, hl, he⟩ | ⟨hno, ⟨e, io, hl, hst, he⟩ | hl⟩
    · rw [hl, ok_bind]
      refine ⟨fun h => absurd (h _ rfl) (not_verifies_of_no_read rfl fun op x hx => ?_), fun h => absurd hok h⟩
      simp [he] at hx
    · rw [hl, ok_bind]
      refine ⟨fun _ => hno, fun _ r hr => ?_⟩
      have hst' : ¬ errinfoStatus (some e) = ddcrcVerify := hst
      simp only [if_neg hst'] at hr
      cases hr
      refine ⟨fun h0 => absurd h0 (Option.some_ne_none e), ?_⟩
      simp [he, VcpEvent.isWriteOf, hmax]
    · rw [hl, error_bind]; exact ⟨fun _ => hno, fun _ r hr => by cases hr⟩
  · have h0 : st.maxSetvcpVerifyTries.toNat = 0 := by omega
    rw [h0]
    refine ⟨fun h => absurd (h _ rfl) (not_verifies_of_no_read rfl fun op x hx => by cases hx), fun h => absurd h.2.1 hmax⟩

def plainHandle : DisplayHandle := ⟨.i2c, fun _ => none, false⟩

def verifySettings : VcpSettings := ⟨0, true, 1, initialMaxWriteOnlyExchangeTries⟩

def stuckDisplay : VcpDisplay where
  write := fun _ => 0
  read := fun _ => .ok ⟨0x10, true, true, 0, 100, 0, 50⟩
  tableWrite := fun _ => none
  tableRead := fun _ => .ok []

def busyDisplay : VcpDisplay := { stuckDisplay with write := fun _ => -eBusy }

theorem ddcSetVerifiedVcpValueWithRetry_busy :
    ∃ r, ddcSetVerifiedVcpValueWithRetry verifySettings plainHandle busyDisplay .start ⟨0x10, .cNc 0 0 0 30⟩ true = .ok r ∧
      errinfoStatus r.excp ≠ 0 ∧ Verifies ⟨0x10, .cNc 0 0 0 30⟩ 1 true r :=
  ⟨_, rfl, by decide, (ddcSetVerifiedVcpValueWithRetry_verifies_iff verifySettings plainHandle busyDisplay 0x10 0 0 0 30
    true rfl rfl).2 ⟨rfl, by decide, fun ⟨_, _, hk, _⟩ => absurd (show (0 : Int) ≤ -eBusy from hk) (by decide)⟩ _ rfl⟩

/-- **Brightness set to 30 on a display that stays at 50 is reported as verified**, with no read made. -/
theorem ddcSetVerifiedVcpValueWithRetry_stuck :
    ∃ r, ddcSetVerifiedVcpValueWithRetry verifySettings plainHandle stuckDisplay .start ⟨0x10, .cNc 0 0 0 30⟩ true = .ok r ∧
      r.excp = none ∧ r.newval = none ∧ r.io.events = [.wrote 0x10 (.cNc 0 0 0 30)] ∧
      ¬ Verifies ⟨0x10, .cNc 0 0 0 30⟩ 1 true r :=
  ⟨_, rfl, rfl, rfl, rfl, not_verifies_of_no_read rfl fun op x hx => by
    rcases List.mem_cons.1 hx with h | h
    · cases h
    · cases h⟩

end Ddc
