import Ddcutil.BusProbe
/-!
# BusProbeRuns — when a bus can be checked again

A reset clears the flags and the EDID, so a check is one of a new record unless the driver, the connector or the error that
is left over has a say in it.  They have none exactly where the display before can be followed by the next.
-/
namespace Ddc

open Kit

variable {a : BusAdapter} {d : BusDisplay} {t : X37Table}

/-! ## What the checks with the EDID leave alone -/

/-- **The rest of the record**, which the checks for a laptop and for slave address x37 do not touch. -/
structure SameElsewhere (b b' : I2cBusInfo) : Prop where
  busExists : b'.flags.busExists = b.flags.busExists
  accessible : b'.flags.accessible = b.flags.accessible
  x50Edid : b'.flags.x50Edid = b.flags.x50Edid
  driver : b'.driver = b.driver
  openErrno : b'.openErrno = b.openErrno
  drmConnectorName : b'.drmConnectorName = b.drmConnectorName
  drmConnectorFoundBy : b'.drmConnectorFoundBy = b.drmConnectorFoundBy
  drmConnectorId : b'.drmConnectorId = b.drmConnectorId

theorem SameElsewhere.refl (b : I2cBusInfo) : SameElsewhere b b := ⟨rfl, rfl, rfl, rfl, rfl, rfl, rfl, rfl⟩

variable {b before : I2cBusInfo} {name : List Byte} {openErrno : Int} {d₀ : BusDisplay} {c : I2cBusInfo × X37Table}
variable {table₀ : X37Table} {s : BusProbe}

theorem SameElsewhere.trans {b' b'' : I2cBusInfo} (h : SameElsewhere b b') (h' : SameElsewhere b' b'') :
    SameElsewhere b b'' where
  busExists := h'.busExists.trans h.busExists
  accessible := h'.accessible.trans h.accessible
  x50Edid := h'.x50Edid.trans h.x50Edid
  driver := h'.driver.trans h.driver
  openErrno := h'.openErrno.trans h.openErrno
  drmConnectorName := h'.drmConnectorName.trans h.drmConnectorName
  drmConnectorFoundBy := h'.drmConnectorFoundBy.trans h.drmConnectorFoundBy
  drmConnectorId := h'.drmConnectorId.trans h.drmConnectorId

theorem checkX37_elsewhere (b : I2cBusInfo) (edid : ParsedEdid) :
    SameElsewhere b (checkX37ForBusinfo a d t b edid).1 := by
  unfold checkX37ForBusinfo
  split
  · exact ⟨rfl, rfl, rfl, rfl, rfl, rfl, rfl, rfl⟩
  · exact ⟨rfl, rfl, rfl, rfl, rfl, rfl, rfl, rfl⟩

theorem checkSlave_elsewhere (edid : ParsedEdid) (laptop : Bool × I2cBusInfo) :
    SameElsewhere laptop.2 (checkSlave a d t edid laptop).1 := by
  unfold checkSlave
  split
  · exact .refl _
  · split
    · exact ⟨rfl, rfl, rfl, rfl, rfl, rfl, rfl, rfl⟩
    · exact checkX37_elsewhere _ _

theorem markLaptop_elsewhere (b : I2cBusInfo) (edid : ParsedEdid) : SameElsewhere b (markLaptop b edid).2 := by
  unfold markLaptop
  split <;> split
  all_goals exact ⟨rfl, rfl, rfl, rfl, rfl, rfl, rfl, rfl⟩

section
variable (hlvds : b.flags.lvdsOrEdp = false) (happarent : b.flags.apparentLaptop = false)
include hlvds happarent

theorem laptopCheck_returns (edid : ParsedEdid) :
    ∃ laptop, laptopCheck b edid = .ok laptop ∧ SameElsewhere b laptop.2 := by
  unfold laptopCheck
  split
  · exact ⟨_, rfl, .refl b⟩
  · have hsame : (markLaptop b edid).1 =
        ((markLaptop b edid).2.flags.lvdsOrEdp || (markLaptop b edid).2.flags.apparentLaptop) := by
      unfold markLaptop
      split <;> split
      all_goals simp [hlvds, happarent]
    rw [isLaptopForBusinfo, if_pos hsame]; exact ⟨_, rfl, markLaptop_elsewhere b edid⟩

theorem checkDisplay_returns : ∃ checked, checkDisplay a d t b = .ok checked ∧ SameElsewhere b checked.1 := by
  unfold checkDisplay
  split
  · exact ⟨_, rfl, .refl b⟩
  · obtain ⟨laptop, hlaptop, hsame⟩ := laptopCheck_returns hlvds happarent ‹_›
    rw [hlaptop]; exact ⟨_, rfl, hsame.trans (checkSlave_elsewhere _ laptop)⟩

end

/-! ## The record when the bus is opened -/

def knownDriver (a : BusAdapter) : Option (List Byte) := if a.primitiveSysfs = true then none else a.driver

def recordOnBus (a : BusAdapter) (openErrno : Int) (name : Option (List Byte)) (foundBy : DrmConnectorFoundBy)
    (id : Int) : I2cBusInfo where
  flags := { noBusFlags with
    busExists := true
    displaylink := a.isDisplaylink
    sysfsKnownReliable := a.sysfsReliable
    probed := true }
  edid := none
  driver := knownDriver a
  openErrno := openErrno
  drmConnectorName := name
  drmConnectorFoundBy := foundBy
  drmConnectorId := id

theorem takeDriver_known (b : I2cBusInfo) (h : b.driver = none ∨ b.driver = knownDriver a) :
    takeDriver a b = { b with driver := knownDriver a } := by
  unfold takeDriver
  cases hprimitive : a.primitiveSysfs with
  | true =>
    have hnone : knownDriver a = none := if_pos hprimitive
    rw [hnone, or_self] at h
    rw [if_neg (by simp), hnone, ← h]
  | false =>
    have hsome : knownDriver a = a.driver := if_neg (by simp [hprimitive])
    rw [hsome] at h ⊢
    by_cases hb : b.driver = none
    · rw [if_pos ⟨rfl, hb⟩]
    · rw [if_neg fun hc => hb hc.2, ← h.resolve_left hb]

theorem onBus_new : markExists a (takeDriver a (markProbed i2cNewBusInfo)) = recordOnBus a 0 none .notChecked 0 := by
  rw [takeDriver_known _ (.inl rfl)]
  simp [markExists, markProbed, i2cNewBusInfo, recordOnBus, noBusFlags]

theorem onBus_reset (hexists : a.deviceExists = true) (hdriver : b.driver = none ∨ b.driver = knownDriver a) :
    markExists a (takeDriver a (markProbed (resetBusInfo a b))) =
      recordOnBus a b.openErrno b.drmConnectorName b.drmConnectorFoundBy b.drmConnectorId := by
  rw [takeDriver_known (markProbed (resetBusInfo a b)) hdriver]
  simp [markExists, markProbed, resetBusInfo, recordOnBus, noBusFlags, hexists]

def busnoConnector (a : BusAdapter) (d : BusDisplay) : Option (List Byte × Int) :=
  if a.connectorDirectories = true then d.connectorByBusno else none

theorem find_known (openErrno : Int) (name : List Byte) (foundBy : DrmConnectorFoundBy) (id : Int) :
    findConnectorByBusno a d (recordOnBus a openErrno (some name) foundBy id) =
      recordOnBus a openErrno (some name) foundBy id := rfl

theorem find_unknown (openErrno : Int) (foundBy : DrmConnectorFoundBy) (id : Int) :
    findConnectorByBusno a d (recordOnBus a openErrno none foundBy id) =
      match busnoConnector a d with
      | some connector => recordOnBus a openErrno (some connector.1) .byBusno connector.2
      | none => recordOnBus a openErrno none .notChecked id := by
  unfold findConnectorByBusno busnoConnector recordOnBus
  cases (if a.connectorDirectories = true then d.connectorByBusno else none) with
  | none | some connector => rfl

/-! ## What a check leaves -/

theorem takeSysfsEdid_elsewhere (b : I2cBusInfo) : SameElsewhere b (takeSysfsEdid d b) := by
  unfold takeSysfsEdid
  split
  · exact ⟨rfl, rfl, rfl, rfl, rfl, rfl, rfl, rfl⟩
  · exact .refl b

theorem takeSysfsEdid_flags (b : I2cBusInfo) : (takeSysfsEdid d b).flags.lvdsOrEdp = b.flags.lvdsOrEdp ∧
    (takeSysfsEdid d b).flags.apparentLaptop = b.flags.apparentLaptop ∧
    (takeSysfsEdid d b).flags.ddcChecksIgnorable = b.flags.ddcChecksIgnorable := by
  unfold takeSysfsEdid
  split
  · exact ⟨rfl, rfl, rfl⟩
  · exact ⟨rfl, rfl, rfl⟩

theorem openAndCheck_fails (hopen : d.openStatus ≠ 0) (b : I2cBusInfo) :
    ∃ b', openAndCheckBus a d t b = .ok ({ b' with openErrno := d.openStatus }, t) ∧ SameElsewhere b b' := by
  rw [openAndCheckBus, if_pos hopen]
  split
  · exact ⟨_, rfl, takeSysfsEdid_elsewhere b⟩
  · exact ⟨_, rfl, .refl b⟩

def withEdid (d : BusDisplay) (b : I2cBusInfo) : I2cBusInfo :=
  if checksConnectorForEdid b = true then
    { takeSysfsEdid d b with flags := { (takeSysfsEdid d b).flags with accessible := true } }
  else
    { b with
      edid := parsedEdidByFd d
      flags := { b.flags with
        accessible := true
        x50Edid := b.flags.x50Edid || (parsedEdidByFd d).isSome } }

theorem openAndCheck_opens (hopen : d.openStatus = 0) (hedid : b.edid = none) :
    openAndCheckBus a d t b =
      (checkDisplay a d t (markNotFound (setConnectorUsingEdid a d (withEdid d b)))).map markChecked := by
  rw [openAndCheckBus, checkOpenedBus, withEdid, if_neg (not_not_intro hopen)]
  split
  · rfl
  · rw [takeI2cEdid, if_neg (by simp [hedid])]
    cases hparsed : parsedEdidByFd d with
    | none =>
      simp only [Option.isSome_none, Bool.or_false]; rfl
    | some edid =>
      simp only [Option.isSome_some, Bool.or_true]; rfl

structure OpenedRecord (a : BusAdapter) (d : BusDisplay) (b r : I2cBusInfo) : Prop where
  busExists : r.flags.busExists = b.flags.busExists
  accessible : r.flags.accessible = true
  x50Edid : r.flags.x50Edid = (b.flags.x50Edid || !checksConnectorForEdid b && (parsedEdidByFd d).isSome)
  driver : r.driver = b.driver
  openErrno : r.openErrno = b.openErrno
  laptop : r.flags.lvdsOrEdp = b.flags.lvdsOrEdp ∧ r.flags.apparentLaptop = b.flags.apparentLaptop
  ignorable : r.flags.ddcChecksIgnorable = b.flags.ddcChecksIgnorable

theorem withEdid_opened (b : I2cBusInfo) : OpenedRecord a d b (withEdid d b) := by
  have hkept := takeSysfsEdid_elsewhere (d := d) b
  obtain ⟨hlvds, happarent, hignorable⟩ := takeSysfsEdid_flags (d := d) b
  unfold withEdid
  split
  · rename_i hchecks
    exact ⟨hkept.busExists, rfl, by simp [hchecks, hkept.x50Edid], hkept.driver, hkept.openErrno, ⟨hlvds, happarent⟩,
      hignorable⟩
  · rename_i hchecks; exact ⟨rfl, rfl, by simp [hchecks], rfl, rfl, ⟨rfl, rfl⟩, rfl⟩

theorem withEdid_connector (b : I2cBusInfo) : (withEdid d b).drmConnectorName = b.drmConnectorName ∧
    (withEdid d b).drmConnectorFoundBy = b.drmConnectorFoundBy ∧ (withEdid d b).drmConnectorId = b.drmConnectorId := by
  have hkept := takeSysfsEdid_elsewhere (d := d) b
  unfold withEdid
  split
  · exact ⟨hkept.drmConnectorName, hkept.drmConnectorFoundBy, hkept.drmConnectorId⟩
  · exact ⟨rfl, rfl, rfl⟩

theorem setConnector_known (h : b.drmConnectorName = some name) : setConnectorUsingEdid a d b = b := by
  rw [setConnectorUsingEdid, h]

theorem setConnector_opened {r : I2cBusInfo} (h : OpenedRecord a d b r) :
    OpenedRecord a d b (setConnectorUsingEdid a d r) := by
  unfold setConnectorUsingEdid
  split
  · split
    · split
      · exact ⟨h.busExists, h.accessible, h.x50Edid, h.driver, h.openErrno, h.laptop, h.ignorable⟩
      · exact h
    · exact h
  · exact h

theorem markNotFound_opened {r : I2cBusInfo} (h : OpenedRecord a d b r) : OpenedRecord a d b (markNotFound r) := by
  unfold markNotFound
  split
  · exact ⟨h.busExists, h.accessible, h.x50Edid, h.driver, h.openErrno, h.laptop, h.ignorable⟩
  · exact h

def beforeChecks (a : BusAdapter) (d : BusDisplay) (b : I2cBusInfo) : I2cBusInfo :=
  markNotFound (setConnectorUsingEdid a d (withEdid d b))

theorem openAndCheck_spec (hopen : d.openStatus = 0) (hedid : b.edid = none) (hlvds : b.flags.lvdsOrEdp = false)
    (happarent : b.flags.apparentLaptop = false) :
    ∃ checked, openAndCheckBus a d t b = .ok checked ∧ SameElsewhere (beforeChecks a d b) checked.1 ∧
      OpenedRecord a d b (beforeChecks a d b) := by
  have hopened := markNotFound_opened (setConnector_opened (withEdid_opened (a := a) (d := d) b))
  obtain ⟨checked, hchecked, hsame⟩ := checkDisplay_returns (a := a) (d := d) (t := t)
    (b := beforeChecks a d b) (hopened.laptop.1.trans hlvds) (hopened.laptop.2.trans happarent)
  refine ⟨markChecked checked, ?_, ⟨hsame.busExists, hsame.accessible, hsame.x50Edid, hsame.driver, hsame.openErrno,
    hsame.drmConnectorName, hsame.drmConnectorFoundBy, hsame.drmConnectorId⟩, hopened⟩
  rw [openAndCheck_opens hopen hedid]
  unfold beforeChecks at hchecked
  rw [hchecked]; rfl

/-! ## The connector -/

def I2cBusInfo.connector (b : I2cBusInfo) : Option DrmConnector :=
  b.drmConnectorName.map fun name => ⟨name, b.drmConnectorFoundBy, b.drmConnectorId⟩

theorem SameElsewhere.connector {b' : I2cBusInfo} (h : SameElsewhere b b') : b'.connector = b.connector := by
  unfold I2cBusInfo.connector
  rw [h.drmConnectorName, h.drmConnectorFoundBy, h.drmConnectorId]

def edidConnector (a : BusAdapter) (d : BusDisplay) : Option DrmConnector :=
  if a.connectorDirectories = true ∧ d.openStatus = 0 then
    (parsedEdidByFd d).bind fun edid => (d.connectorByEdid edid.bytes.bytes).map fun name => ⟨name, .byEdid, 0⟩
  else none

theorem connectorFor_eq : connectorFor a d =
    match busnoConnector a d with
    | some connector => some ⟨connector.1, .byBusno, connector.2⟩
    | none => edidConnector a d := by
  unfold connectorFor busnoConnector edidConnector
  cases a.connectorDirectories with
  | false => rfl
  | true =>
    cases d.connectorByBusno with
    | none => simp
    | some connector => rfl

theorem foundBy_of_edidConnector {connector : DrmConnector} (h : edidConnector a d = some connector) :
    d.openStatus = 0 ∧ ∃ edid, parsedEdidByFd d = some edid ∧ a.connectorDirectories = true ∧
      d.connectorByEdid edid.bytes.bytes = some connector.name ∧ connector = ⟨connector.name, .byEdid, 0⟩ := by
  unfold edidConnector at h
  split at h
  · rename_i hopen
    obtain ⟨edid, hparsed, h⟩ := Option.bind_eq_some_iff.1 h
    obtain ⟨name, hname, rfl⟩ := Option.map_eq_some_iff.1 h
    exact ⟨hopen.2, edid, hparsed, hopen.1, hname, rfl⟩
  · cases h

theorem beforeChecks_known (h : b.drmConnectorName = some name) (hfound : b.drmConnectorFoundBy ≠ .notChecked) :
    (beforeChecks a d b).connector = b.connector := by
  obtain ⟨hname, hfoundBy, hid⟩ := withEdid_connector (d := d) b
  rw [beforeChecks, markNotFound, setConnector_known (hname.trans h), if_neg fun hc => hfound (hfoundBy.symm.trans hc)]
  unfold I2cBusInfo.connector
  rw [hname, hfoundBy, hid]

theorem beforeChecks_unknown (hopen : d.openStatus = 0) (openErrno id : Int) :
    (beforeChecks a d (recordOnBus a openErrno none .notChecked id)).connector = edidConnector a d ∧
      (edidConnector a d = none → (beforeChecks a d (recordOnBus a openErrno none .notChecked id)).drmConnectorId = id) := by
  have hnot : checksConnectorForEdid (recordOnBus a openErrno none .notChecked id) = false := rfl
  unfold beforeChecks withEdid edidConnector setConnectorUsingEdid markNotFound recordOnBus
  unfold recordOnBus at hnot
  rw [hnot]
  cases hparsed : parsedEdidByFd d with
  | none => simp [I2cBusInfo.connector]
  | some edid =>
    cases hdirs : a.connectorDirectories with
    | false => simp [I2cBusInfo.connector]
    | true =>
      cases hfound : d.connectorByEdid edid.bytes.bytes with
      | none | some name => simp [I2cBusInfo.connector, hfound, hopen]

/-! ## The first check -/

structure Reaches (a : BusAdapter) : Prop where
  deviceExists : a.deviceExists = true
  access : a.accessStatus = 0
  video : a.primitiveSysfs = true ∨ a.isVideoDriver = true

theorem check_reaches (hexists : a.deviceExists = true) (haccess : a.accessStatus = 0)
    (hdriver : notDisplayController a b = false) : i2cCheckBusInfo a d t b =
      openAndCheckBus a d t (findConnectorByBusno a d (markExists a (takeDriver a (markProbed b)))) := by
  rw [i2cCheckBusInfo, if_neg (by simp [hexists]), if_neg (not_not_intro haccess), if_neg (by simp [hdriver])]

theorem Reaches.controller (h : Reaches a) (b : I2cBusInfo) : notDisplayController a b = false := by
  unfold notDisplayController
  rcases h.video with hprimitive | hvideo
  · simp [hprimitive]
  · simp [hvideo]

theorem Reaches.first (h : Reaches a) : getAndCheckBusInfo a d t none =
    openAndCheckBus a d t (findConnectorByBusno a d (recordOnBus a 0 none .notChecked 0)) := by
  show i2cCheckBusInfo a d t i2cNewBusInfo = _
  rw [check_reaches h.deviceExists h.access (h.controller _), onBus_new]

/-- **What a first check leaves** when it gets as far as opening the bus. -/
structure FirstRecord (a : BusAdapter) (d : BusDisplay) (r : I2cBusInfo) : Prop where
  driver : r.driver = knownDriver a
  openErrno : r.openErrno = d.openStatus
  connector : r.connector = connectorFor a d
  noConnector : r.drmConnectorName = none → r.drmConnectorId = 0
  x50Edid : edidConnector a d ≠ none → busnoConnector a d = none → r.flags.x50Edid = true

theorem connector_eq_none : b.connector = none ↔ b.drmConnectorName = none := by
  rw [I2cBusInfo.connector, Option.map_eq_none_iff]

theorem Reaches.first_spec (h : Reaches a) (d : BusDisplay) (t : X37Table) :
    ∃ first, getAndCheckBusInfo a d t none = .ok first ∧ FirstRecord a d first.1 := by
  rw [h.first, find_unknown]
  have hconnector := connectorFor_eq (a := a) (d := d)
  by_cases hopen : d.openStatus = 0
  · cases hbusno : busnoConnector a d with
    | some connector =>
      rw [hbusno] at hconnector
      obtain ⟨checked, hchecked, hsame, hopened⟩ := openAndCheck_spec (a := a) (t := t) hopen
        (b := recordOnBus a 0 (some connector.1) .byBusno connector.2) rfl rfl rfl
      have hkept : checked.1.connector = connectorFor a d := by
        rw [hsame.connector, beforeChecks_known rfl (by simp [recordOnBus]), hconnector]; rfl
      refine ⟨checked, hchecked, hsame.driver.trans hopened.driver, ?_, hkept, fun hnone => ?_, fun _ hnone => ?_⟩
      · rw [hsame.openErrno, hopened.openErrno, hopen]; rfl
      · rw [connector_eq_none.2 hnone, hconnector] at hkept; cases hkept
      · exact absurd (hbusno.symm.trans hnone) (by simp)
    | none =>
      rw [hbusno] at hconnector
      obtain ⟨checked, hchecked, hsame, hopened⟩ := openAndCheck_spec (a := a) (t := t) hopen
        (b := recordOnBus a 0 none .notChecked 0) rfl rfl rfl
      obtain ⟨hedid, hid⟩ := beforeChecks_unknown (a := a) hopen 0 0
      have hkept : checked.1.connector = connectorFor a d := (hsame.connector.trans hedid).trans hconnector.symm
      refine ⟨checked, hchecked, hsame.driver.trans hopened.driver, ?_, hkept, fun hnone => ?_, fun hsome _ => ?_⟩
      · rw [hsame.openErrno, hopened.openErrno, hopen]; rfl
      · rw [hsame.drmConnectorId]
        apply hid
        rw [connector_eq_none.2 hnone, hconnector] at hkept; exact hkept.symm
      · rw [hsame.x50Edid, hopened.x50Edid]
        obtain ⟨connector, hfound⟩ := Option.ne_none_iff_exists'.1 hsome
        obtain ⟨-, edid, hparsed, -⟩ := foundBy_of_edidConnector hfound
        rw [hparsed]; rfl
  · have hno : edidConnector a d = none := if_neg fun hc => hopen hc.2
    cases hbusno : busnoConnector a d with
    | some connector =>
      rw [hbusno] at hconnector
      obtain ⟨b', hfails, hsame⟩ := openAndCheck_fails (a := a) (t := t) hopen
        (recordOnBus a 0 (some connector.1) .byBusno connector.2)
      have hkept : b'.connector = connectorFor a d := hsame.connector.trans hconnector.symm
      refine ⟨_, hfails, hsame.driver, rfl, hkept, fun hnone => ?_, fun hsome _ => absurd hno hsome⟩
      have hnone : b'.connector = none := connector_eq_none.2 hnone
      rw [hnone, hconnector] at hkept; cases hkept
    | none =>
      rw [hbusno, hno] at hconnector
      obtain ⟨b', hfails, hsame⟩ := openAndCheck_fails (a := a) (t := t) hopen
        (recordOnBus a 0 none .notChecked 0)
      refine ⟨_, hfails, hsame.driver, rfl, hsame.connector.trans hconnector.symm, fun _ => hsame.drmConnectorId,
        fun hsome _ => absurd hno hsome⟩

/-! ## The next check -/

section
variable (h : openErrno = 0 ∨ d.openStatus ≠ 0)
include h

theorem openAndCheck_openErrno (name : Option (List Byte)) (foundBy : DrmConnectorFoundBy) (id : Int) :
    openAndCheckBus a d t (recordOnBus a openErrno name foundBy id) =
      openAndCheckBus a d t (recordOnBus a 0 name foundBy id) := by
  rcases h with rfl | hopen
  · rfl
  · have hchecks : checksConnectorForEdid (recordOnBus a openErrno name foundBy id) =
        checksConnectorForEdid (recordOnBus a 0 name foundBy id) := rfl
    have hparsed : parsedEdidUsingSysfs d (recordOnBus a openErrno name foundBy id) =
        parsedEdidUsingSysfs d (recordOnBus a 0 name foundBy id) := rfl
    unfold openAndCheckBus takeSysfsEdid
    rw [if_pos hopen, if_pos hopen, hchecks, hparsed]
    split
    · split
      · rfl
      · rfl
    · rfl

theorem again_unknown (foundBy : DrmConnectorFoundBy) :
    openAndCheckBus a d t (findConnectorByBusno a d (recordOnBus a openErrno none foundBy 0)) =
      openAndCheckBus a d t (findConnectorByBusno a d (recordOnBus a 0 none .notChecked 0)) := by
  rw [find_unknown, find_unknown]
  cases busnoConnector a d with
  | none | some connector => exact openAndCheck_openErrno h _ _ _

theorem again_known (connector : DrmConnector) (hconnector : connectorFor a d = some connector) (hedid :
    connector.foundBy = .byEdid → a.isDisplaylink = false ∧ a.sysfsReliable = false) : openAndCheckBus a d t
    (findConnectorByBusno a d (recordOnBus a openErrno (some connector.name) connector.foundBy connector.id)) =
    openAndCheckBus a d t (findConnectorByBusno a d (recordOnBus a 0 none .notChecked 0)) := by
  rw [find_known, find_unknown]
  rw [connectorFor_eq] at hconnector
  cases hbusno : busnoConnector a d with
  | some found =>
    rw [hbusno] at hconnector
    cases hconnector; exact openAndCheck_openErrno h _ _ _
  | none =>
    rw [hbusno] at hconnector
    obtain ⟨hopen, edid, hparsed, hdirs, hname, hsame⟩ := foundBy_of_edidConnector hconnector
    rw [hsame] at hedid ⊢
    obtain ⟨hlink, hreliable⟩ := hedid rfl
    rw [openAndCheck_openErrno h, openAndCheck_opens hopen rfl, openAndCheck_opens hopen rfl]
    have hbefore : setConnectorUsingEdid a d (withEdid d (recordOnBus a 0 (some connector.name) .byEdid 0)) =
        setConnectorUsingEdid a d (withEdid d (recordOnBus a 0 none .notChecked 0)) := by
      simp [setConnectorUsingEdid, withEdid, checksConnectorForEdid, recordOnBus, hlink, hreliable, hparsed, hdirs, hname]
    rw [hbefore]

end

def LeftAs (a : BusAdapter) (before b : I2cBusInfo) : Prop := b = before ∨ b = resetBusInfo a before

theorem reset_reset (b : I2cBusInfo) : resetBusInfo a (resetBusInfo a b) = resetBusInfo a b := by
  unfold resetBusInfo
  cases a.deviceExists with
  | false | true => rfl

theorem LeftAs.reset_eq (h : LeftAs a before b) : resetBusInfo a b = resetBusInfo a before := by
  rcases h with rfl | rfl
  · rfl
  · exact reset_reset before

theorem Reaches.again (h : Reaches a) (hleft : LeftAs a before b) (hdriver : before.driver = knownDriver a) :
    getAndCheckBusInfo a d t (some b) =
      openAndCheckBus a d t (findConnectorByBusno a d
        (recordOnBus a before.openErrno before.drmConnectorName before.drmConnectorFoundBy before.drmConnectorId)) := by
  show i2cCheckBusInfo a d t (resetBusInfo a b) = _
  rw [hleft.reset_eq, check_reaches h.deviceExists h.access (h.controller _), onBus_reset h.deviceExists (.inr hdriver)]

theorem connector_of_name (h : b.drmConnectorName = some name) :
    b.connector = some ⟨name, b.drmConnectorFoundBy, b.drmConnectorId⟩ := by
  rw [I2cBusInfo.connector, h]; rfl

theorem Reaches.again_eq_first (h : Reaches a) {d : BusDisplay} (hbefore : FirstRecord a d₀ before)
    (hleft : LeftAs a before b) (hfollows : Follows a d₀ d) :
    getAndCheckBusInfo a d t (some b) = getAndCheckBusInfo a d t none := by
  obtain ⟨-, -, herrno, hconnector⟩ := hfollows h.deviceExists
  rw [← hbefore.openErrno] at herrno
  rw [h.again hleft hbefore.driver, h.first]
  cases hname : before.drmConnectorName with
  | none =>
    rw [hbefore.noConnector hname]; exact again_unknown herrno _
  | some name =>
    obtain ⟨hsame, hedid⟩ := hconnector _ (hbefore.connector.symm.trans (connector_of_name hname))
    exact again_known herrno ⟨name, before.drmConnectorFoundBy, before.drmConnectorId⟩ hsame hedid

/-! ## Checking the same display again -/

theorem checkX37_again (h : b.flags.ddcChecksIgnorable = false) (edid : ParsedEdid) :
    (checkX37ForBusinfo a d (checkX37ForBusinfo a d t b edid).2 b edid).1 = (checkX37ForBusinfo a d t b edid).1 := by
  unfold checkX37ForBusinfo x37State
  cases a.useX37DetectionTable with
  | false => rfl
  | true =>
    by_cases hdetected : t edid.bytes.bytes = .detected
    · simp [hdetected]
    · cases hresponds : d.x37Responds with
      | false => simp [hdetected]
      | true => simp [hdetected, ← h]

theorem checkSlave_again {edid : ParsedEdid} {laptop : Bool × I2cBusInfo}
    (h : laptop.2.flags.ddcChecksIgnorable = false) :
    (checkSlave a d (checkSlave a d t edid laptop).2 edid laptop).1 = (checkSlave a d t edid laptop).1 := by
  unfold checkSlave
  split
  · rfl
  · split
    · rfl
    · exact checkX37_again h edid

theorem laptopCheck_ignorable {edid : ParsedEdid} {laptop : Bool × I2cBusInfo} (h : laptopCheck b edid = .ok laptop) :
    laptop.2.flags.ddcChecksIgnorable = b.flags.ddcChecksIgnorable := by
  unfold laptopCheck isLaptopForBusinfo at h
  split at h
  · cases h; rfl
  · split at h
    · cases h
      unfold markLaptop
      split <;> split
      all_goals rfl
    · cases h

theorem checkDisplay_again (h : b.flags.ddcChecksIgnorable = false) {checked : I2cBusInfo × X37Table}
    (hchecked : checkDisplay a d t b = .ok checked) :
    ∃ again, checkDisplay a d checked.2 b = .ok again ∧ again.1 = checked.1 := by
  unfold checkDisplay at hchecked ⊢
  split at hchecked
  · cases hchecked; exact ⟨_, rfl, rfl⟩
  · obtain ⟨laptop, hlaptop, hchecked⟩ := Exec.bind_eq_ok.1 hchecked
    cases hchecked
    rw [hlaptop]; exact ⟨_, rfl, checkSlave_again ((laptopCheck_ignorable hlaptop).trans h)⟩

theorem openAndCheck_again (hedid : b.edid = none) (h : b.flags.ddcChecksIgnorable = false)
    {checked : I2cBusInfo × X37Table} (hchecked : openAndCheckBus a d t b = .ok checked) :
    ∃ again, openAndCheckBus a d checked.2 b = .ok again ∧ again.1 = checked.1 := by
  by_cases hopen : d.openStatus = 0
  · have hignorable := (markNotFound_opened (setConnector_opened (withEdid_opened (a := a) (d := d) b))).ignorable.trans h
    rw [openAndCheck_opens hopen hedid] at hchecked ⊢
    cases hdisplay : checkDisplay a d t (markNotFound (setConnectorUsingEdid a d (withEdid d b))) with
    | error e =>
      rw [hdisplay] at hchecked; cases hchecked
    | ok displayed =>
      rw [hdisplay] at hchecked
      cases hchecked
      obtain ⟨again, hagain, hsame⟩ := checkDisplay_again hignorable hdisplay
      refine ⟨markChecked again, ?_, ?_⟩
      · show Except.map markChecked (checkDisplay a d displayed.2 _) = _
        rw [hagain]; rfl
      · unfold markChecked
        rw [hsame]
  · unfold openAndCheckBus at hchecked ⊢
    rw [if_pos hopen] at hchecked ⊢
    cases hchecked; exact ⟨_, rfl, rfl⟩

theorem find_clears (b : I2cBusInfo) : (findConnectorByBusno a d b).edid = b.edid ∧
    (findConnectorByBusno a d b).flags = b.flags := by
  unfold findConnectorByBusno
  split
  · exact ⟨rfl, rfl⟩
  · exact ⟨rfl, rfl⟩
  · exact ⟨rfl, rfl⟩

/-- **A first check of the same display** gives the same record again, with the table that the first one left. -/
theorem firstCheck_again {first : I2cBusInfo × X37Table} (hfirst : getAndCheckBusInfo a d t none = .ok first) :
    ∃ again, getAndCheckBusInfo a d first.2 none = .ok again ∧ again.1 = first.1 := by
  have hfirst : i2cCheckBusInfo a d t i2cNewBusInfo = .ok first := hfirst
  show ∃ again, i2cCheckBusInfo a d first.2 i2cNewBusInfo = .ok again ∧ again.1 = first.1
  unfold i2cCheckBusInfo at hfirst ⊢
  split at hfirst
  · rename_i hgone
    cases hfirst
    rw [if_pos hgone]; exact ⟨_, rfl, rfl⟩
  · rename_i hexists
    rw [if_neg hexists]
    split at hfirst
    · rename_i hdenied
      cases hfirst
      rw [if_pos hdenied]; exact ⟨_, rfl, rfl⟩
    · rename_i haccess
      rw [if_neg haccess]
      split at hfirst
      · rename_i hother
        cases hfirst
        rw [if_pos hother]; exact ⟨_, rfl, rfl⟩
      · rename_i hvideo
        rw [if_neg hvideo]
        obtain ⟨hedid, hflags⟩ := find_clears (a := a) (d := d) (recordOnBus a 0 none .notChecked 0)
        rw [onBus_new] at hfirst ⊢
        exact openAndCheck_again hedid (congrArg BusFlags.ddcChecksIgnorable hflags) hfirst

/-! ## The other direction -/

structure OpenLeaves (d : BusDisplay) (b c : I2cBusInfo) : Prop where
  openErrno : c.openErrno = if d.openStatus = 0 then b.openErrno else d.openStatus
  accessible : d.openStatus = 0 → c.flags.accessible = true
  x50Edid : d.openStatus = 0 → c.flags.x50Edid = (!checksConnectorForEdid b && (parsedEdidByFd d).isSome)
  known : ∀ name, b.drmConnectorName = some name → b.drmConnectorFoundBy ≠ .notChecked → c.connector = b.connector

section
variable (openErrno : Int) (name : Option (List Byte)) (foundBy : DrmConnectorFoundBy) (id : Int)

theorem openAndCheck_leaves :
    ∃ checked, openAndCheckBus a d t (recordOnBus a openErrno name foundBy id) = .ok checked ∧
      OpenLeaves d (recordOnBus a openErrno name foundBy id) checked.1 := by
  by_cases hopen : d.openStatus = 0
  · obtain ⟨checked, hchecked, hsame, hopened⟩ := openAndCheck_spec (a := a) (t := t) hopen
      (b := recordOnBus a openErrno name foundBy id) rfl rfl rfl
    refine ⟨checked, hchecked, ?_, fun _ => hsame.accessible.trans hopened.accessible, fun _ => ?_, fun c hname hfound => ?_⟩
    · rw [if_pos hopen]; exact hsame.openErrno.trans hopened.openErrno
    · exact hsame.x50Edid.trans hopened.x50Edid
    · exact hsame.connector.trans (beforeChecks_known hname hfound)
  · obtain ⟨b', hfails, hsame⟩ := openAndCheck_fails (a := a) (t := t) hopen
      (recordOnBus a openErrno name foundBy id)
    refine ⟨_, hfails, ?_, fun h => absurd h hopen, fun h => absurd h hopen, fun _ _ _ => hsame.connector⟩
    rw [if_neg hopen]

theorem find_leaves :
    ∃ checked, openAndCheckBus a d t (findConnectorByBusno a d (recordOnBus a openErrno name foundBy id)) =
      .ok checked ∧ checked.1.openErrno = (if d.openStatus = 0 then openErrno else d.openStatus) ∧
      (d.openStatus = 0 → checked.1.flags.accessible = true) := by
  have hleaves : ∀ name foundBy id, ∃ checked, openAndCheckBus a d t (recordOnBus a openErrno name foundBy id) =
      .ok checked ∧ checked.1.openErrno = (if d.openStatus = 0 then openErrno else d.openStatus) ∧
      (d.openStatus = 0 → checked.1.flags.accessible = true) := by
    intro name foundBy id
    obtain ⟨checked, hchecked, hleaves⟩ := openAndCheck_leaves (a := a) (d := d) (t := t) openErrno name foundBy id
    exact ⟨checked, hchecked, hleaves.openErrno, hleaves.accessible⟩
  cases name with
  | some name => exact hleaves _ _ _
  | none =>
    rw [find_unknown]
    cases busnoConnector a d with
    | some connector | none => exact hleaves _ _ _

end

theorem exists_of_again (hexists : a.deviceExists = true) (hleft : LeftAs a before b)
    (hc : getAndCheckBusInfo a d t (some b) = .ok c) (hbus : c.1.flags.busExists = true) :
    a.accessStatus = 0 ∧ notDisplayController a before = false := by
  have hc : i2cCheckBusInfo a d t (resetBusInfo a b) = .ok c := hc
  rw [hleft.reset_eq] at hc
  have hno : (markProbed (resetBusInfo a before)).flags.busExists = false := by
    simp [markProbed, resetBusInfo, hexists, noBusFlags]
  rw [i2cCheckBusInfo, if_neg (by simp [hexists])] at hc
  split at hc
  · cases hc; exact absurd (hno.symm.trans hbus) Bool.false_ne_true
  · rename_i haccess
    refine ⟨not_not.1 haccess, ?_⟩
    split at hc
    · cases hc
      have htaken : (takeDriver a (markProbed (resetBusInfo a before))).flags.busExists = false := by
        unfold takeDriver
        split
        · exact hno
        · exact hno
      exact absurd (htaken.symm.trans hbus) Bool.false_ne_true
    · rename_i hvideo; exact Bool.eq_false_iff.2 hvideo

theorem first_busExists {first : I2cBusInfo × X37Table} (hfirst : getAndCheckBusInfo a d t none = .ok first)
    (h : a.accessStatus = 0 → notDisplayController a i2cNewBusInfo = true) :
    first.1.flags.busExists = true ∧ first.1.flags.accessible = false ∧ (a.accessStatus = 0 → first.1.openErrno = 0) := by
  have hfirst : i2cCheckBusInfo a d t i2cNewBusInfo = .ok first := hfirst
  unfold i2cCheckBusInfo at hfirst
  split at hfirst
  · cases hfirst; exact ⟨rfl, rfl, fun _ => rfl⟩
  · split at hfirst
    · rename_i hdenied
      cases hfirst; exact ⟨rfl, rfl, fun haccess => absurd haccess hdenied⟩
    · rename_i haccess
      rw [if_pos (h (not_not.1 haccess))] at hfirst
      cases hfirst
      unfold takeDriver
      split
      · exact ⟨rfl, rfl, fun _ => rfl⟩
      · exact ⟨rfl, rfl, fun _ => rfl⟩

theorem first_takes {first : I2cBusInfo × X37Table} (hexists : a.deviceExists = true) (haccess : a.accessStatus = 0)
    (hno : notDisplayController a i2cNewBusInfo = true) (hfirst : getAndCheckBusInfo a d t none = .ok first) :
    first.1.driver = knownDriver a := by
  have hfirst : i2cCheckBusInfo a d t i2cNewBusInfo = .ok first := hfirst
  rw [i2cCheckBusInfo, if_neg (by simp [hexists]), if_neg (not_not_intro haccess), if_pos hno] at hfirst
  cases hfirst
  rw [takeDriver_known (markProbed i2cNewBusInfo) (.inl rfl)]

theorem reaches_of_same (hexists : a.deviceExists = true)
    (hbefore : getAndCheckBusInfo a d₀ table₀ none = .ok (before, t)) (hleft : LeftAs a before b)
    {first : I2cBusInfo × X37Table} (hc : getAndCheckBusInfo a d t (some b) = .ok c)
    (hfirst : getAndCheckBusInfo a d t none = .ok first) (hsame : c.1.SameAs first.1) : Reaches a := by
  by_cases haccess : a.accessStatus = 0
  · by_cases hvideo : a.primitiveSysfs = true ∨ a.isVideoDriver = true
    · exact ⟨hexists, haccess, hvideo⟩
    · exfalso
      rw [not_or, Bool.not_eq_true, Bool.not_eq_true] at hvideo
      have hno : notDisplayController a i2cNewBusInfo = true := by
        simp [notDisplayController, hvideo, i2cNewBusInfo]
      obtain ⟨hbus, hnot, hzero⟩ := first_busExists hfirst fun _ => hno
      have hagain := (exists_of_again hexists hleft hc (hsame.flags ▸ hbus)).2
      have hc : i2cCheckBusInfo a d t (resetBusInfo a b) = .ok c := hc
      rw [hleft.reset_eq, check_reaches hexists haccess (b := resetBusInfo a before) hagain,
        onBus_reset hexists (.inr (first_takes hexists haccess hno hbefore))] at hc
      obtain ⟨checked, hchecked, herrno, haccessible⟩ := find_leaves (a := a) (d := d) (t := t)
        before.openErrno before.drmConnectorName before.drmConnectorFoundBy before.drmConnectorId
      rw [hc] at hchecked
      cases hchecked
      by_cases hopen : d.openStatus = 0
      · rw [← hsame.flags, haccessible hopen] at hnot; cases hnot
      · rw [if_neg hopen, hsame.openErrno, hzero haccess] at herrno; exact hopen herrno.symm
  · exfalso
    obtain ⟨hbus, -, -⟩ := first_busExists hfirst fun h => absurd h haccess
    exact haccess (exists_of_again hexists hleft hc (hsame.flags ▸ hbus)).1

theorem foundBy_of_connectorFor {connector : DrmConnector} (h : connectorFor a d = some connector) :
    connector.foundBy ≠ .notChecked := by
  rw [connectorFor_eq] at h
  cases hbusno : busnoConnector a d with
  | some found =>
    rw [hbusno] at h
    cases h; simp
  | none =>
    rw [hbusno] at h
    obtain ⟨-, -, -, -, -, hsame⟩ := foundBy_of_edidConnector h
    rw [hsame]; simp

theorem edidConnector_of_foundBy {connector : DrmConnector} (h : connectorFor a d = some connector)
    (hfound : connector.foundBy = .byEdid) : busnoConnector a d = none ∧ edidConnector a d = some connector := by
  rw [connectorFor_eq] at h
  cases hbusno : busnoConnector a d with
  | some found =>
    rw [hbusno] at h
    cases h; cases hfound
  | none =>
    rw [hbusno] at h; exact ⟨rfl, h⟩

theorem follows_of_same (hbefore : getAndCheckBusInfo a d₀ table₀ none = .ok (before, t)) (hleft : LeftAs a before b)
    {first : I2cBusInfo × X37Table} (hc : getAndCheckBusInfo a d t (some b) = .ok c)
    (hfirst : getAndCheckBusInfo a d t none = .ok first) (hsame : c.1.SameAs first.1) : Follows a d₀ d := by
  intro hexists
  have hreaches := reaches_of_same hexists hbefore hleft hc hfirst hsame
  obtain ⟨r₀, hr₀, hrecord₀⟩ := hreaches.first_spec d₀ table₀
  obtain ⟨r, hr, hrecord⟩ := hreaches.first_spec d t
  rw [hbefore] at hr₀
  rw [hfirst] at hr
  cases hr₀
  cases hr
  rw [hreaches.again hleft hrecord₀.driver] at hc
  refine ⟨hreaches.access, hreaches.video, ?_, fun connector hconnector => ?_⟩
  · obtain ⟨checked, hchecked, herrno, -⟩ := find_leaves (a := a) (d := d) (t := t) before.openErrno
      before.drmConnectorName before.drmConnectorFoundBy before.drmConnectorId
    rw [hc] at hchecked
    cases hchecked
    by_cases hopen : d.openStatus = 0
    · rw [if_pos hopen, hsame.openErrno, hrecord.openErrno, hrecord₀.openErrno, hopen] at herrno
      exact .inl herrno.symm
    · exact .inr hopen
  · have hknown : before.connector = some connector := hrecord₀.connector.trans hconnector
    obtain ⟨name, hname, hfields⟩ := Option.map_eq_some_iff.1 hknown
    have hfoundBy : before.drmConnectorFoundBy = connector.foundBy := by rw [← hfields]
    have hnot : before.drmConnectorFoundBy ≠ .notChecked := by
      rw [hfoundBy]; exact foundBy_of_connectorFor hconnector
    rw [hname, find_known] at hc
    obtain ⟨checked, hchecked, hleaves⟩ := openAndCheck_leaves (a := a) (d := d) (t := t) before.openErrno
      (some name) before.drmConnectorFoundBy before.drmConnectorId
    rw [hc] at hchecked
    cases hchecked
    have hstays : connectorFor a d = some connector := by
      rw [← hrecord.connector, ← hknown]
      unfold I2cBusInfo.connector
      rw [← hsame.drmConnectorName, ← hsame.drmConnectorFoundBy, ← hsame.drmConnectorId]
      have hkept := hleaves.known name rfl hnot
      unfold I2cBusInfo.connector at hkept
      rw [hkept, hname]; rfl
    refine ⟨hstays, fun hedid => ?_⟩
    obtain ⟨hbusno, hfound⟩ := edidConnector_of_foundBy hstays hedid
    obtain ⟨hopen, edid, hparsed, -⟩ := foundBy_of_edidConnector hfound
    have hx50 := hleaves.x50Edid hopen
    rw [hsame.flags, hrecord.x50Edid (by rw [hfound]; simp) hbusno, hparsed] at hx50
    have hchecks : (a.sysfsReliable || a.isDisplaylink) = false := by
      simpa [checksConnectorForEdid, recordOnBus] using hx50.symm
    rw [Bool.or_eq_false_iff] at hchecks; exact ⟨hchecks.2, hchecks.1⟩

/-! ## Runs -/

structure ProbeInv (a : BusAdapter) (s : BusProbe) : Prop where
  unchecked : s.last = none → s.businfo = none
  checked : ∀ d₀ before, s.last = some (d₀, before) →
    (∃ table₀, getAndCheckBusInfo a d₀ table₀ none = .ok (before, s.table)) ∧
      ∃ b, s.businfo = some b ∧ LeftAs a before b

theorem probe_start_inv : ProbeInv a .start where
  unchecked := fun _ => rfl
  checked := fun _ _ h => by cases h

theorem I2cBusInfo.SameAs.refl (b : I2cBusInfo) : b.SameAs b := ⟨rfl, rfl, rfl, rfl, rfl, rfl⟩

theorem first_returns (a : BusAdapter) (d : BusDisplay) (t : X37Table) :
    ∃ first, getAndCheckBusInfo a d t none = .ok first := by
  by_cases hexists : a.deviceExists = true
  · by_cases haccess : a.accessStatus = 0
    · cases hvideo : notDisplayController a i2cNewBusInfo with
      | false =>
        show ∃ first, i2cCheckBusInfo a d t i2cNewBusInfo = .ok first
        rw [check_reaches hexists haccess hvideo, onBus_new]
        obtain ⟨first, hfirst, -⟩ := find_leaves (a := a) (d := d) (t := t) 0 none .notChecked 0
        exact ⟨first, hfirst⟩
      | true =>
        show ∃ first, i2cCheckBusInfo a d t i2cNewBusInfo = .ok first
        rw [i2cCheckBusInfo, if_neg (by simp [hexists]), if_neg (not_not_intro haccess), if_pos hvideo]
        exact ⟨_, rfl⟩
    · show ∃ first, i2cCheckBusInfo a d t i2cNewBusInfo = .ok first
      rw [i2cCheckBusInfo, if_neg (by simp [hexists]), if_pos haccess]; exact ⟨_, rfl⟩
  · show ∃ first, i2cCheckBusInfo a d t i2cNewBusInfo = .ok first
    rw [i2cCheckBusInfo, if_pos (Bool.eq_false_iff.2 hexists)]; exact ⟨_, rfl⟩

theorem again_eq_first (hbefore : getAndCheckBusInfo a d₀ table₀ none = .ok (before, t)) (hleft : LeftAs a before b)
    (hfollows : Follows a d₀ d) : getAndCheckBusInfo a d t (some b) = getAndCheckBusInfo a d t none := by
  by_cases hexists : a.deviceExists = true
  · obtain ⟨haccess, hvideo, -⟩ := hfollows hexists
    have hreaches : Reaches a := ⟨hexists, haccess, hvideo⟩
    obtain ⟨first, hfirst, hrecord⟩ := hreaches.first_spec d₀ table₀
    rw [hbefore] at hfirst
    cases hfirst; exact hreaches.again_eq_first hrecord hleft hfollows
  · have hgone : a.deviceExists = false := Bool.eq_false_iff.2 hexists
    have hbefore : i2cCheckBusInfo a d₀ table₀ i2cNewBusInfo = .ok (before, t) := hbefore
    show i2cCheckBusInfo a d t (resetBusInfo a b) = i2cCheckBusInfo a d t i2cNewBusInfo
    rw [hleft.reset_eq]
    unfold i2cCheckBusInfo at hbefore ⊢
    rw [if_pos hgone] at hbefore
    cases hbefore
    simp [resetBusInfo, hgone, markProbed, i2cNewBusInfo, noBusFlags]

theorem probeStep_check :
    getAndCheckBusInfo a d s.table s.businfo = .ok c →
      busProbeStep a s (.check d) = .ok ⟨some c.1, c.2, some (d, c.1)⟩ := by
  intro hc
  unfold busProbeStep
  dsimp only
  rw [hc]; rfl

theorem ProbeInv.check_eq (h : ProbeInv a s) (hguard : ProbeGuard a s (.check d)) :
    getAndCheckBusInfo a d s.table s.businfo = getAndCheckBusInfo a d s.table none := by
  cases hlast : s.last with
  | none => rw [h.unchecked hlast]
  | some last =>
    obtain ⟨d₀, before⟩ := last
    obtain ⟨⟨table₀, hbefore⟩, b, hb, hleft⟩ := h.checked d₀ before hlast
    rw [hb]; exact again_eq_first hbefore hleft (hguard d₀ before hlast)

theorem ProbeInv.right (h : ProbeInv a s) (hguard : ProbeGuard a s (.check d)) : ProbeRight a s (.check d) := by
  obtain ⟨first, hfirst⟩ := first_returns a d s.table
  refine ⟨_, first.1, first, probeStep_check ((h.check_eq hguard).trans hfirst), rfl, hfirst, .refl _,
    fun before hlast => ?_⟩
  obtain ⟨⟨table₀, hbefore⟩, -⟩ := h.checked d before hlast
  obtain ⟨again, hagain, hsame⟩ := firstCheck_again hbefore
  rw [hfirst] at hagain
  cases hagain
  rw [hsame]; exact .refl _

theorem ProbeInv.guard (h : ProbeInv a s) (hright : ProbeRight a s (.check d)) : ProbeGuard a s (.check d) := by
  intro d₀ before hlast
  obtain ⟨⟨table₀, hbefore⟩, b, hb, hleft⟩ := h.checked d₀ before hlast
  obtain ⟨s', c, first, hs, hc, hfirst, hsame, -⟩ := hright
  obtain ⟨checked, hchecked, hs⟩ := Exec.bind_eq_ok.1 hs
  cases hs
  cases hc
  rw [hb] at hchecked; exact follows_of_same hbefore hleft hchecked hfirst hsame

theorem ProbeInv.step {s' : BusProbe} (h : ProbeInv a s) {e : BusProbeEvent} (hguard : ProbeGuard a s e)
    (hs : busProbeStep a s e = .ok s') : ProbeInv a s' := by
  cases e with
  | check d =>
    obtain ⟨first, hfirst⟩ := first_returns a d s.table
    rw [probeStep_check ((h.check_eq hguard).trans hfirst)] at hs
    cases hs
    refine ⟨fun hnone => (by cases hnone), fun d₀ before hlast => ?_⟩
    cases hlast; exact ⟨⟨s.table, hfirst⟩, first.1, rfl, .inl rfl⟩
  | reset =>
    cases hs
    refine ⟨fun hnone => ?_, fun d₀ before hlast => ?_⟩
    · rw [h.unchecked hnone]; rfl
    · obtain ⟨hbefore, b, hb, hleft⟩ := h.checked d₀ before hlast
      refine ⟨hbefore, resetBusInfo a b, ?_, .inr hleft.reset_eq⟩
      rw [hb]; rfl

/-- **In every run of checks and resets of one bus**, each check is right if and only if each display can follow the one
before. -/
theorem probe_right_iff (a : BusAdapter) (events : List BusProbeEvent) :
    AllAlong (busProbeStep a) (ProbeRight a) .start events ↔ AllAlong (busProbeStep a) (ProbeGuard a) .start events := by
  refine (AllAlong.congr (fun s e (h : ProbeInv a s) => ?_) (fun s e s' h => h.step) probe_start_inv).symm
  cases e with
  | check d => exact ⟨h.right, h.guard⟩
  | reset => exact .rfl

def smbusAdapter : BusAdapter where
  deviceExists := true
  accessStatus := 0
  driver := some (ascii "i801_smbus")
  adapterClass := some 0x0c0500
  isDisplaylink := false
  sysfsReliable := false
  connectorDirectories := true
  primitiveSysfs := false
  useX37DetectionTable := true
  ignoredMmks := []

def noDisplay : BusDisplay where
  connectorByBusno := none
  connectorByEdid := fun _ => none
  connectorEdid := fun _ => none
  openStatus := 0
  rawEdid := none
  x37Responds := false

/-- **The class of the adapter is not looked at again.** -/
theorem smbus_not_right :
    ¬ AllAlong (busProbeStep smbusAdapter) (ProbeRight smbusAdapter) .start [.check noDisplay, .check noDisplay] := by
  rintro ⟨-, hrest⟩
  obtain ⟨⟨s', b, first, hs, hb, hfirst, hsame, -⟩, -⟩ := hrest _ rfl
  cases hs
  cases hb
  cases hfirst; exact absurd hsame.flags (by decide)

end Ddc
