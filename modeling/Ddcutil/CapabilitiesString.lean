import Ddcutil.CapabilitiesCacheRuns
import Ddcutil.EdidRecord
import Ddcutil.MultiPartRead
/-!
# CapabilitiesString — the capabilities string of a display, from its reference, the cache or the display

`ddc_get_capabilities_string` keeps the string in the display reference; `get_capabilities_into_buffer` trims what the
display sent and puts a NUL behind it.
-/
namespace Ddc

open Kit List Exec Function

def isPadding (ch : Byte) : Bool := ch == blank || ch == 0

def trimmedLength (bytes : List Byte) : Nat → Exec Nat
  | 0 => .ok 0
  | len + 1 => do
    let ch ← fetch bytes len
    if isPadding ch = true then trimmedLength bytes len else .ok (len + 1)

def terminateCapabilities (capBuffer : Buffer) : Exec Buffer := do
  let len ← trimmedLength capBuffer.bytes capBuffer.len
  let capBuffer ← capBuffer.setByte len 0
  capBuffer.setLength (len + 1)

def capabilitiesFlags : WriteReadFlags := ⟨false, true, false⟩

def capabilitiesReply (displays : Nat → Display) (maxTries : MaxTries) : Exec (Option ErrorInfo × Option Buffer) :=
  multiPartReadWithRetry displays maxTries ddcPacketTypeCapabilitiesRequest 0 capabilitiesFlags

def getCapabilitiesIntoBuffer (displays : Nat → Display) (maxTries : MaxTries) :
    Exec (Option ErrorInfo × Option Buffer) := do
  let (ddcExcp, capBuffer) ← capabilitiesReply displays maxTries
  check (capBuffer.isSome = true ↔ ddcExcp = none)
  match ddcExcp, capBuffer with
  | none, some capBuffer => do
    let capBuffer ← terminateCapabilities capBuffer
    .ok (none, some capBuffer)
  | ddcExcp, capBuffer => .ok (ddcExcp, capBuffer)

/-! ## From the reference, the cache or the display -/

theorem ne_zero_of_mem_cstr {s : List Byte} {c : Byte} (h : c ∈ cstr s) : c ≠ 0 := by
  have := mem_takeWhile_imp h
  simpa using this

def strdupBytes (bytes : List Byte) : Exec CString :=
  if 0 ∈ bytes then .ok ⟨cstr bytes, fun _ h => ne_zero_of_mem_cstr h⟩ else .error .outOfBounds

def lookUpPersistentCapabilities (dataFileName : List Byte) (p : CapsProcess) (file : Option (List Byte))
    (mmk : MonitorModelKey) : Exec (Option (List Byte) × CapsProcess × Option (List Byte)) :=
  if p.capabilitiesCacheEnabled = true ∧ nonUniqueModelId mmk = true then .error .assertFailed
  else .ok (getPersistentCapabilities dataFileName p file mmk)

inductive CapsPath where
  | i2c
  | usb (synthesized : CString)

structure CapsWorld (D : Type) where
  path : D → CapsPath
  mmid : D → MonitorModelKey
  capabilitiesString : D → Option (List Byte)
  process : CapsProcess
  file : Option (List Byte)

structure CapsResult where
  ddcExcp : Option ErrorInfo
  capsLoc : Option (List Byte)
  readDisplay : Bool

section World

variable {D : Type} [DecidableEq D]

def CapsWorld.setString (w : CapsWorld D) (d : D) (s : Option (List Byte)) : CapsWorld D :=
  { w with capabilitiesString := update w.capabilitiesString d s }

def CapsWorld.keepRead (w : CapsWorld D) (order : HashOrder) (d : D) (s : CString) : CapsWorld D :=
  { w with
    capabilitiesString := update w.capabilitiesString d (some s.val)
    process := (setPersistentCapabilities order w.process w.file (w.mmid d) s).1
    file := (setPersistentCapabilities order w.process w.file (w.mmid d) s).2 }

def readCapabilities (order : HashOrder) (w : CapsWorld D) (d : D) (displays : Nat → Display) (maxTries : MaxTries) :
    Exec (Option ErrorInfo × CapsWorld D) := do
  let (ddcExcp, pcapsBuffer) ← getCapabilitiesIntoBuffer displays maxTries
  match ddcExcp, pcapsBuffer with
  | none, none => .error .nullDeref
  | none, some pcapsBuffer => do
    let s ← strdupBytes pcapsBuffer.bytes
    .ok (none, w.keepRead order d s)
  | some ddcExcp, _ => .ok (some ddcExcp, w)

def CapsWorld.keepFound (w : CapsWorld D) (d : D) (found : Option (List Byte) × CapsProcess × Option (List Byte)) :
    CapsWorld D :=
  { w with
    capabilitiesString := update w.capabilitiesString d found.1
    process := found.2.1
    file := found.2.2 }

def findCapabilities (dataFileName : List Byte) (order : HashOrder) (w : CapsWorld D) (d : D)
    (displays : Nat → Display) (maxTries : MaxTries) : Exec (Option ErrorInfo × CapsWorld D × Bool) := do
  let found ← lookUpPersistentCapabilities dataFileName w.process w.file (w.mmid d)
  match found.1 with
  | some _ => .ok (none, w.keepFound d found, false)
  | none => (fun p => (p.1, p.2, true)) <$> readCapabilities order (w.keepFound d found) d displays maxTries

def provideCapabilities (dataFileName : List Byte) (order : HashOrder) (w : CapsWorld D) (d : D)
    (displays : Nat → Display) (maxTries : MaxTries) : Exec (Option ErrorInfo × CapsWorld D × Bool) :=
  match w.capabilitiesString d with
  | some _ => .ok (none, w, false)
  | none =>
    match w.path d with
    | .usb synthesized => .ok (none, w.setString d (some synthesized.val), false)
    | .i2c => findCapabilities dataFileName order w d displays maxTries

def ddcGetCapabilitiesString (dataFileName : List Byte) (order : HashOrder) (w : CapsWorld D) (d : D)
    (displays : Nat → Display) (maxTries : MaxTries) : Exec (CapsResult × CapsWorld D) := do
  let (ddcExcp, w, readDisplay) ← provideCapabilities dataFileName order w d displays maxTries
  check ((w.capabilitiesString d).isSome = true ↔ ddcExcp = none)
  .ok (⟨ddcExcp, w.capabilitiesString d, readDisplay⟩, w)

inductive WorldEvent (D : Type) where
  | get (d : D) (displays : Nat → Display) (maxTries : MaxTries)
  | enable (newval : Bool)

def worldEvent (dataFileName : List Byte) (order : HashOrder) (w : CapsWorld D) : WorldEvent D → Exec (CapsWorld D)
  | .get d displays maxTries => Prod.snd <$> ddcGetCapabilitiesString dataFileName order w d displays maxTries
  | .enable newval => .ok { w with process := { w.process with capabilitiesCacheEnabled := newval } }

/-- **The string of a reply**: up to its first NUL and, where none stands before the last byte that is no blank and no NUL,
without the blanks and NULs at its end. -/
def replyString (reply : List Byte) : List Byte :=
  if 0 ∈ reply.rdropWhile isPadding then cstr reply else reply.rdropWhile isPadding

structure CapsCallRight (dataFileName : List Byte) (order : HashOrder) (w : CapsWorld D) (d : D)
    (displays : Nat → Display) (maxTries : MaxTries) (r : CapsResult) (w' : CapsWorld D) : Prop where
  set : r.capsLoc.isSome = true ↔ r.ddcExcp = none
  fresh : r.readDisplay = true → ∀ s, r.capsLoc = some s →
    ∃ reply, capabilitiesReply displays maxTries = .ok (none, some reply) ∧ s = replyString reply.contents
  later : ∀ s, r.capsLoc = some s → ∀ (events : List (WorldEvent D)) (w'' : CapsWorld D),
    events.foldlM (worldEvent dataFileName order) w' = .ok w'' → ∀ displays' maxTries',
      ddcGetCapabilitiesString dataFileName order w'' d displays' maxTries' = .ok (⟨none, some s, false⟩, w'')

end World

/-! ## The string that is read -/

theorem trimmedLength_eq (bytes : List Byte) : ∀ n ≤ bytes.length,
    trimmedLength bytes n = .ok ((bytes.take n).rdropWhile isPadding).length
  | 0, _ => by rfl
  | n + 1, h => by
    rw [trimmedLength, fetch_of_lt h, ok_bind, take_add_one, getElem?_eq_getElem h]
    dsimp only [Option.toList]
    rw [rdropWhile_concat]
    by_cases hpad : isPadding bytes[n] = true
    · rw [if_pos hpad, if_pos hpad, trimmedLength_eq bytes n (Nat.le_of_succ_le h)]
    · rw [if_neg hpad, if_neg hpad, length_append, length_take_of_le (Nat.le_of_succ_le h)]; rfl

theorem cstr_trimmed (reply : List Byte) : cstr (reply.rdropWhile isPadding) = replyString reply := by
  unfold replyString
  by_cases h : 0 ∈ reply.rdropWhile isPadding
  · rw [if_pos h]
    obtain ⟨rest, hrest⟩ := rdropWhile_prefix isPadding reply
    obtain ⟨front, back, hsplit⟩ := append_of_mem h
    conv_rhs => rw [← hrest]
    rw [hsplit, append_assoc, cons_append, cstr_append_zero, cstr_append_zero]
  · rw [if_neg h]
    refine cstr_eq fun c hc hzero => h ?_
    rwa [← hzero]

theorem terminateCapabilities_ok {b : Buffer} (hsizes : FreshSizes b) (hlen : b.len ≤ 2046) :
    ∃ b' s, terminateCapabilities b = .ok b' ∧ strdupBytes b'.bytes = .ok s ∧ s.val = replyString b.contents := by
  have hbytes : b.len ≤ b.bytes.length := Nat.le_trans b.hlen b.hsize
  have hprefix : b.contents.rdropWhile isPadding <+: b.bytes :=
    ( rdropWhile_prefix isPadding b.contents).trans ( take_prefix b.len b.bytes)
  have hm : (b.contents.rdropWhile isPadding).length ≤ b.len :=
    b.length_contents ▸ ( rdropWhile_prefix isPadding b.contents).length_le
  have hroom : (b.contents.rdropWhile isPadding).length < b.bufferSize := by
    have := hsizes.size
    omega
  obtain ⟨b₁, hset, hbytes₁, -, hsize₁⟩ := Buffer.setByte_of_lt (x := 0) hroom
  obtain ⟨b₂, hlength, hbytes₂, -, -⟩ := Buffer.setLength_of_le
    (b := b₁) (n := (b.contents.rdropWhile isPadding).length + 1) (by rw [hsize₁]; exact hroom)
  have hterminated : b₂.bytes = b.contents.rdropWhile isPadding ++
      0 :: b.bytes.drop ((b.contents.rdropWhile isPadding).length + 1) := by
    rw [hbytes₂, hbytes₁, set_eq_take_append_cons_drop, if_pos (Nat.lt_of_lt_of_le hroom b.hsize),
      ← prefix_iff_eq_take.1 hprefix]
  have hzero : (0 : Byte) ∈ b₂.bytes := by rw [hterminated]; exact mem_zero_append _ _
  refine ⟨b₂, ⟨cstr b₂.bytes, fun _ h => ne_zero_of_mem_cstr h⟩, ?_, if_pos hzero, ?_⟩
  · rw [terminateCapabilities, trimmedLength_eq b.bytes b.len hbytes, ok_bind]
    change (b.setByte (b.contents.rdropWhile isPadding).length 0 >>= _) = _
    rw [hset, ok_bind]; exact hlength
  · dsimp only
    rw [hterminated, cstr_append_zero, cstr_trimmed]

/-- **What comes of the read of a display that returns**: an error, or a buffer with the string of a reply. -/
theorem getCapabilitiesIntoBuffer_ok {displays : Nat → Display} {maxTries : MaxTries}
    (hread : ∃ out, capabilitiesReply displays maxTries = .ok out) :
    (∃ e, getCapabilitiesIntoBuffer displays maxTries = .ok (some e, none)) ∨
    ∃ b s reply, getCapabilitiesIntoBuffer displays maxTries = .ok (none, some b) ∧ strdupBytes b.bytes = .ok s ∧
      capabilitiesReply displays maxTries = .ok (none, some reply) ∧ s.val = replyString reply.contents := by
  obtain ⟨⟨excp, buf⟩, hout⟩ := hread
  obtain ⟨hiff, hvalue⟩ := multiPartReadWithRetry_reads (.inl rfl) hout
  rw [getCapabilitiesIntoBuffer, hout, ok_bind]
  cases excp with
  | some e =>
    left
    cases buf with
    | none => exact ⟨e, rfl⟩
    | some b => exact absurd (hiff.2 rfl) (Option.some_ne_none e)
  | none =>
    right
    cases buf with
    | none => exact absurd (hiff.1 rfl) Bool.false_ne_true
    | some b =>
      obtain ⟨hsizes, hlen, -⟩ := hvalue b rfl
      obtain ⟨b', s, hterminate, hdup, hs⟩ := terminateCapabilities_ok hsizes hlen
      dsimp only
      rw [hterminate, ok_bind]; exact ⟨b', s, b, rfl, hdup, rfl, hs⟩

theorem lookUpPersistentCapabilities_eq (dataFileName : List Byte) (p : CapsProcess) (file : Option (List Byte))
    (mmk : MonitorModelKey) : lookUpPersistentCapabilities dataFileName p file mmk =
      .ok (getPersistentCapabilities dataFileName p file mmk) := by
  refine if_neg fun h => ?_
  rw [nonUniqueModelId_eq_false] at h
  cases h.2

/-! ## The string of a reference -/

section Runs

variable {D : Type} [DecidableEq D] {dataFileName : List Byte} {order : HashOrder} {w w' : CapsWorld D} {d : D}

variable {s : List Byte} {d' : D} {displays : Nat → Display} {maxTries : MaxTries} {e : Option ErrorInfo}

theorem getString_of_some (h : w.capabilitiesString d = some s) (displays : Nat → Display) (maxTries : MaxTries) :
    ddcGetCapabilitiesString dataFileName order w d displays maxTries = .ok (⟨none, some s, false⟩, w) := by
  rw [ddcGetCapabilitiesString, provideCapabilities, h]
  dsimp only
  rw [ok_bind, h, check_pos (by simp), ok_bind]

theorem setString_other (hne : d' ≠ d) (h : w.capabilitiesString d = some s) (t : Option (List Byte)) :
    (w.setString d' t).capabilitiesString d = some s := by
  change update w.capabilitiesString d' t d = some s
  rw [update_of_ne hne.symm, h]

theorem readCapabilities_keeps (hne : d' ≠ d) (h : w.capabilitiesString d = some s)
    (hr : readCapabilities order w d' displays maxTries = .ok (e, w')) : w'.capabilitiesString d = some s := by
  obtain ⟨⟨excp, buf⟩, -, hr⟩ := bind_eq_ok.1 hr
  cases excp with
  | some e =>
    cases hr; exact h
  | none =>
    cases buf with
    | none => cases hr
    | some b =>
      obtain ⟨t, -, hr⟩ := bind_eq_ok.1 hr
      cases hr; exact setString_other hne h (some t.val)

theorem provideCapabilities_keeps (h : w.capabilitiesString d = some s) {io : Bool}
    (hr : provideCapabilities dataFileName order w d' displays maxTries = .ok (e, w', io)) :
    w'.capabilitiesString d = some s := by
  unfold provideCapabilities at hr
  cases hd : w.capabilitiesString d' with
  | some t =>
    rw [hd] at hr
    cases hr; exact h
  | none =>
    have hne : d' ≠ d := by
      rintro rfl
      rw [hd] at h; cases h
    rw [hd] at hr
    cases hpath : w.path d' with
    | usb t =>
      rw [hpath] at hr
      cases hr; exact setString_other hne h (some t.val)
    | i2c =>
      rw [hpath] at hr
      obtain ⟨found, -, hr⟩ := bind_eq_ok.1 hr
      have hkept : (w.keepFound d' found).capabilitiesString d = some s := setString_other hne h found.1
      cases hfound : found.1 with
      | some t =>
        rw [hfound] at hr
        cases hr; exact hkept
      | none =>
        rw [hfound] at hr
        obtain ⟨⟨e', w₁⟩, hread, hr⟩ := map_eq_ok.1 hr
        cases hr; exact readCapabilities_keeps hne hkept hread

theorem worldEvent_keeps (h : w.capabilitiesString d = some s) {event : WorldEvent D}
    (hr : worldEvent dataFileName order w event = .ok w') : w'.capabilitiesString d = some s := by
  cases event with
  | enable newval =>
    cases hr; exact h
  | get d' displays maxTries =>
    obtain ⟨⟨r, w₁⟩, hget, rfl⟩ := map_eq_ok.1 hr
    obtain ⟨⟨e, w₂, io⟩, hprovide, hget⟩ := bind_eq_ok.1 hget
    obtain ⟨-, -, hget⟩ := bind_eq_ok.1 hget
    cases hget; exact provideCapabilities_keeps h hprovide

theorem worldEvents_keep {events : List (WorldEvent D)} : ∀ {w w' : CapsWorld D},
    w.capabilitiesString d = some s → events.foldlM (worldEvent dataFileName order) w = .ok w' →
      w'.capabilitiesString d = some s := by
  induction events with
  | nil =>
    intro w w' h hr
    cases hr; exact h
  | cons event events ih =>
    intro w w' h hr
    obtain ⟨w₁, hevent, hr⟩ := bind_eq_ok.1 hr
    exact ih (worldEvent_keeps h hevent) hr

theorem callRight_of {io : Bool}
    (hprovide : provideCapabilities dataFileName order w d displays maxTries = .ok (e, w', io))
    (hset : (w'.capabilitiesString d).isSome = true ↔ e = none)
    (hfresh : io = true → ∀ s, w'.capabilitiesString d = some s →
      ∃ reply, capabilitiesReply displays maxTries = .ok (none, some reply) ∧ s = replyString reply.contents) :
    ∃ r w', ddcGetCapabilitiesString dataFileName order w d displays maxTries = .ok (r, w') ∧
      CapsCallRight dataFileName order w d displays maxTries r w' := by
  refine ⟨⟨e, w'.capabilitiesString d, io⟩, w', ?_, hset, hfresh, ?_⟩
  · rw [ddcGetCapabilitiesString, hprovide, ok_bind]
    dsimp only
    rw [check_pos hset, ok_bind]
  · intro s hs events w'' hevents displays' maxTries'
    exact getString_of_some (worldEvents_keep hs hevents) displays' maxTries'

/-- **A call for an I2C display is right**, whatever the cache holds and the display sent. -/
theorem capabilitiesString_right (dataFileName : List Byte) (order : HashOrder) {w : CapsWorld D} {d : D}
    (hpath : w.path d = .i2c) {displays : Nat → Display} {maxTries : MaxTries}
    (hread : ∃ out, capabilitiesReply displays maxTries = .ok out) :
    ∃ r w', ddcGetCapabilitiesString dataFileName order w d displays maxTries = .ok (r, w') ∧
      CapsCallRight dataFileName order w d displays maxTries r w' := by
  cases hd : w.capabilitiesString d with
  | some s =>
    have hprovide : provideCapabilities dataFileName order w d displays maxTries = .ok (none, w, false) := by
      rw [provideCapabilities, hd]
    exact callRight_of hprovide (by simp [hd]) fun h => absurd h Bool.false_ne_true
  | none =>
    have hprovide : provideCapabilities dataFileName order w d displays maxTries =
        findCapabilities dataFileName order w d displays maxTries := by
      rw [provideCapabilities, hd]
      rw [hpath]
    have hlook := lookUpPersistentCapabilities_eq dataFileName w.process w.file (w.mmid d)
    generalize getPersistentCapabilities dataFileName w.process w.file (w.mmid d) = found at hlook
    have hself : (w.keepFound d found).capabilitiesString d = found.1 := update_self ..
    rw [findCapabilities, hlook, ok_bind] at hprovide
    cases hfound : found.1 with
    | some s =>
      rw [hfound] at hprovide hself
      exact callRight_of hprovide (by simp [hself]) fun h => absurd h Bool.false_ne_true
    | none =>
      rw [hfound] at hprovide hself
      rcases getCapabilitiesIntoBuffer_ok hread with ⟨e, hbuffer⟩ | ⟨b, s, reply, hbuffer, hdup, hreply, hs⟩
      · have hcaps : readCapabilities order (w.keepFound d found) d displays maxTries =
            .ok (some e, w.keepFound d found) := by rw [readCapabilities, hbuffer, ok_bind]
        rw [hcaps] at hprovide
        refine callRight_of hprovide (by simp [hself]) fun _ s hs => ?_
        rw [hself] at hs; cases hs
      · have hcaps : readCapabilities order (w.keepFound d found) d displays maxTries =
            .ok (none, (w.keepFound d found).keepRead order d s) := by
          rw [readCapabilities, hbuffer, ok_bind]
          dsimp only
          rw [hdup, ok_bind]
        have hstring : ((w.keepFound d found).keepRead order d s).capabilitiesString d = some s.val :=
          update_self ..
        rw [hcaps] at hprovide
        refine callRight_of hprovide (by simp [hstring]) fun _ s' hs' => ?_
        rw [hstring] at hs'
        cases hs'; exact ⟨reply, hreply, hs⟩

end Runs

def freshWorld (mmk : MonitorModelKey) : CapsWorld Unit := ⟨fun _ => .i2c, fun _ => mmk, fun _ => none, newProcess true, none⟩

theorem capabilitiesString_right_short :
    ∃ r w', ddcGetCapabilitiesString (ascii "cache") entryOrder (freshWorld sampleMonitor) () (fun _ => shortDisplay)
        initialMaxWriteReadExchangeTries = .ok (r, w') ∧
      CapsCallRight (ascii "cache") entryOrder (freshWorld sampleMonitor) () (fun _ => shortDisplay)
        initialMaxWriteReadExchangeTries r w' := by
  refine capabilitiesString_right (ascii "cache") entryOrder rfl ?_
  obtain ⟨excp, buf, hread, -, -⟩ := multiPartReadWithRetry_value (fun _ => shortDisplay) 0 capabilitiesFlags
    initialMaxWriteReadExchangeTries (.inl rfl) (.inl rfl) (fun _ _ => shortDisplay_fits) fun k j e h => by
      unfold shortDisplay at h
      split at h <;> cases h
  exact ⟨_, hread⟩

end Ddc
