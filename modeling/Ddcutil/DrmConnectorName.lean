import Ddcutil.MonitorModelText
import Ddcutil.SimpleIniFile
import Mathlib.Data.Prod.Lex
/-!
# DrmConnectorName — card number, type and number of a DRM connector, from its name in sysfs

`parse_sys_drm_connector_name` matches a name with a regular expression and converts two of its parts, which is
asserted; `extract_cardno` looks at one character of a device name; and the state of a connector is found by what the
first has read among those that were recorded with what the second has.
-/
namespace Ddc.Drm

open Kit List

def connectorTypeLookupTable : List (UInt32 × List Byte) :=
  [(0, ascii "unknown"), (1, ascii "VGA"), (2, ascii "DVII"), (3, ascii "DVID"), (4, ascii "DVIA"),
    (5, ascii "Composite"), (6, ascii "Svideo"), (7, ascii "LVDS"), (8, ascii "Component"), (9, ascii "DIN"),
    (10, ascii "DP"), (11, ascii "HDMI"), (11, ascii "HDMIA"), (12, ascii "HDMIB"), (13, ascii "TV"), (14, ascii "eDP"),
    (15, ascii "Virtual"), (16, ascii "DSI"), (17, ascii "DPI"), (18, ascii "WRITEBACK"), (19, ascii "SPI"),
    (20, ascii "USB")]

def vntFindId (table : List (UInt32 × List Byte)) (s : List Byte) (defaultId : Int) : Int :=
  match table.find? fun cur => decide (s.map tolower = cur.2.map tolower) with
  | some cur => cur.1.toNat
  | none => defaultId

def lookupDrmConnectorType (name : List Byte) : Int := vntFindId connectorTypeLookupTable name (-1)

structure DrmConnectorIdentifier where
  cardno : Int
  connectorId : Int
  connectorType : Int
  connectorTypeId : Int
deriving DecidableEq

def dciCmp (dci1 dci2 : DrmConnectorIdentifier) : Int :=
  if dci1.cardno < dci2.cardno then -1
  else if dci2.cardno < dci1.cardno then 1
  else if dci1.connectorType < dci2.connectorType then -1
  else if dci2.connectorType < dci1.connectorType then 1
  else if dci1.connectorTypeId < dci2.connectorTypeId then -1
  else if dci2.connectorTypeId < dci1.connectorTypeId then 1
  else 0

def drmConnectorPattern : List (Repeat Byte) :=
  [.once (· == 0x63), .once (· == 0x61), .once (· == 0x72), .once (· == 0x64), .once (isDigit 10), .once isHyphen,
    .star fun _ => true, .once isHyphen, ⟨isDigit 10, 1, none⟩]

def identifierFromGroups (cardnoS connectorType connectorTypeIdS : List Byte) : Exec DrmConnectorIdentifier :=
  match strToInt cardnoS 10 with
  | none => .error .assertFailed
  | some cardno =>
    match strToInt connectorTypeIdS 10 with
    | none => .error .assertFailed
    | some connectorTypeId => .ok ⟨cardno, -1, lookupDrmConnectorType connectorType, connectorTypeId⟩

def parseSysDrmConnectorName (drmConnector : List Byte) : Exec DrmConnectorIdentifier :=
  match longestMatch drmConnectorPattern drmConnector with
  | some [_, _, _, _, cardnoS, _, connectorType, _, connectorTypeIdS] =>
    identifierFromGroups cardnoS connectorType connectorTypeIdS
  | _ => .ok ⟨-1, -1, -1, -1⟩

def sysDrmConnectorNameCmp0 (s1 s2 : Option (List Byte)) : Exec Int :=
  match s1, s2 with
  | none, some _ => .ok (-1)
  | none, none => .ok 0
  | some _, none => .ok 1
  | some s1, some s2 => do
    let dci1 ← parseSysDrmConnectorName s1
    let dci2 ← parseSysDrmConnectorName s2
    .ok (dciCmp dci1 dci2)

/-- `g_path_get_basename`: what follows the last slash, and what precedes the slashes at the end. -/
def pathGetBasename (path : List Byte) : List Byte :=
  if path = [] then ascii "."
  else
    match path.reverse.dropWhile (· == slash) with
    | [] => [slash]
    | stripped => (stripped.takeWhile (· != slash)).reverse

def extractCardno (devname : Option (List Byte)) : Int :=
  match devname with
  | none => -1
  | some devname =>
    match pathGetBasename devname with
    | 0x63 :: 0x61 :: 0x72 :: 0x64 :: c :: _ => if isDigit 10 c = true then (c.toNat : Int) - 0x30 else -1
    | _ => -1

structure DrmConnectorState where
  cardno : Int
  connectorId : Int
  connectorType : UInt32
  connectorTypeId : UInt32

def isStateOf (cid : DrmConnectorIdentifier) (cur : DrmConnectorState) : Bool :=
  decide (cur.cardno = cid.cardno) &&
    if 0 ≤ cid.connectorId then decide (cid.connectorId = cur.connectorId)
    else decide (0 ≤ cid.connectorType ∧ 0 ≤ cid.connectorTypeId) &&
      decide (UInt32.ofInt cid.connectorType = cur.connectorType ∧ UInt32.ofInt cid.connectorTypeId = cur.connectorTypeId)

def findDrmConnectorState (states : List DrmConnectorState) (cid : DrmConnectorIdentifier) : Option DrmConnectorState :=
  states.find? (isStateOf cid)

/-! ## What is promised -/

structure Connector (libdrm : List Byte → Option UInt32) where
  card : Nat
  typeName : List Byte
  type : UInt32
  known : libdrm typeName = some type
  number : Nat

section Connectors

variable {libdrm : List Byte → Option UInt32}

def cardName (card : Nat) : List Byte := ascii "card" ++ decimalDigits card

def Connector.name (c : Connector libdrm) : List Byte :=
  cardName c.card ++ hyphen :: (c.typeName ++ hyphen :: decimalDigits c.number)

def Connector.identifier (c : Connector libdrm) : DrmConnectorIdentifier := ⟨c.card, -1, c.type.toNat, c.number⟩

def Connector.key (c : Connector libdrm) : Nat ×ₗ Nat ×ₗ Nat := toLex (c.card, toLex (c.type.toNat, c.number))

def Connector.recorded (dir : List Byte) (ids : Connector libdrm → Int) (c : Connector libdrm) : DrmConnectorState :=
  ⟨extractCardno (some (dir ++ slash :: cardName c.card)), ids c, c.type, UInt32.ofNat c.number⟩

def Orders {α : Type} [LT α] (r : Int) (a b : α) : Prop := (r < 0 ↔ a < b) ∧ (0 < r ↔ b < a) ∧ (r = 0 ↔ a = b)

/-- **What is promised of the connectors of a system**: both readers read a connector's name as what it is, names are
ordered as connectors are and equal only for the same one, and the state that is found is the one that was recorded for
it. -/
structure NamesRight (dir : List Byte) (ids : Connector libdrm → Int) (cs : List (Connector libdrm)) : Prop where
  read : ∀ c ∈ cs, parseSysDrmConnectorName c.name = .ok c.identifier ∧
    extractCardno (some (dir ++ slash :: cardName c.card)) = c.card
  ordered : ∀ c ∈ cs, ∀ d ∈ cs, ∃ r, sysDrmConnectorNameCmp0 (some c.name) (some d.name) = .ok r ∧
    Orders r c.key d.key ∧ (r = 0 → c = d)
  found : ∀ l ⊆ cs, ∀ c ∈ cs, ∃ cid, parseSysDrmConnectorName c.name = .ok cid ∧
    (c ∈ l → findDrmConnectorState (l.map (Connector.recorded dir ids)) cid = some (c.recorded dir ids)) ∧
    (c ∉ l → findDrmConnectorState (l.map (Connector.recorded dir ids)) cid = none)

/-- **A connector whose name can be read**: one digit for the card, a number that an `int` holds, and a type that is in the
table, whatever the case of its letters. -/
def Connector.Readable (c : Connector libdrm) : Prop :=
  c.card < 10 ∧ (c.number : Int) ≤ intMax ∧ lookupDrmConnectorType c.typeName = c.type.toNat

end Connectors

structure NameForm (s : List Byte) (digit : Byte) (connectorType number : List Byte) : Prop where
  text : s = ascii "card" ++ digit :: hyphen :: (connectorType ++ hyphen :: number)
  card_digit : isDigit 10 digit = true
  number_ne : number ≠ []
  number_digits : ∀ c ∈ number, isDigit 10 c = true

structure NoNumber (rest : List Byte) : Prop where
  head : ∀ c r, rest = c :: r → isDigit 10 c = false
  behind : ∀ a c r, rest = a ++ hyphen :: c :: r → isDigit 10 c = false

/-- **A string with a number that no `int` holds** where the number of a connector stands: behind the last hyphen that has a
digit behind it. -/
def NumberTooLarge (s : List Byte) : Prop :=
  ∃ front rest digit connectorType number, s = front ++ rest ∧ NameForm front digit connectorType number ∧
    NoNumber rest ∧ intMax < (digitsVal 10 number : Int)

/-! ## The expression -/

variable {s number : List Byte} {digit : Byte}

theorem matches_drmConnectorPattern {pieces : List (List Byte)} :
    Matches drmConnectorPattern s pieces ↔ ∃ digit connectorType number,
      pieces = [[0x63], [0x61], [0x72], [0x64], [digit], [hyphen], connectorType, [hyphen], number] ∧
        NameForm s digit connectorType number := by
  constructor
  · intro h
    obtain _ | ⟨h0, h⟩ := h
    obtain _ | ⟨h1, h⟩ := h
    obtain _ | ⟨h2, h⟩ := h
    obtain _ | ⟨h3, h⟩ := h
    obtain _ | ⟨h4, h⟩ := h
    obtain _ | ⟨hsep₁, h⟩ := h
    obtain _ | ⟨htype, h⟩ := h
    obtain _ | ⟨hsep₂, h⟩ := h
    obtain _ | ⟨hnumber, h⟩ := h
    obtain _ | _ := h
    obtain ⟨c, rfl, hc⟩ := takes_once.1 h0
    obtain ⟨a, rfl, ha⟩ := takes_once.1 h1
    obtain ⟨r, rfl, hr⟩ := takes_once.1 h2
    obtain ⟨d, rfl, hd⟩ := takes_once.1 h3
    obtain ⟨digit, rfl, hdigit⟩ := takes_once.1 h4
    obtain ⟨c₁, rfl, hc₁⟩ := takes_once.1 hsep₁
    obtain ⟨c₂, rfl, hc₂⟩ := takes_once.1 hsep₂
    obtain rfl := beq_iff_eq.1 hc
    obtain rfl := beq_iff_eq.1 ha
    obtain rfl := beq_iff_eq.1 hr
    obtain rfl := beq_iff_eq.1 hd
    obtain rfl : c₁ = hyphen := beq_iff_eq.1 hc₁
    obtain rfl : c₂ = hyphen := beq_iff_eq.1 hc₂
    refine ⟨_, _, _, rfl, ?_, hdigit, length_pos_iff.1 hnumber.least, hnumber.accepts⟩
    rw [append_nil]; rfl
  · rintro ⟨digit, connectorType, number, rfl, hform⟩
    have hsep : (Repeat.once isHyphen).Takes [hyphen] := takes_once.2 ⟨hyphen, rfl, rfl⟩
    have hletter : ∀ c : Byte, (Repeat.once (· == c)).Takes [c] := fun c => takes_once.2 ⟨c, rfl, beq_self_eq_true c⟩
    have htype : (Repeat.star fun _ : Byte => true).Takes connectorType :=
      ⟨fun _ _ => rfl, Nat.zero_le _, fun m hm => by cases hm⟩
    have hnumber : (⟨isDigit 10, 1, none⟩ : Repeat Byte).Takes number :=
      ⟨hform.number_digits, length_pos_iff.2 hform.number_ne, fun m hm => by cases hm⟩
    have hmatch := Matches.cons (hletter 0x63) (.cons (hletter 0x61) (.cons (hletter 0x72) (.cons (hletter 0x64)
      (.cons (takes_once.2 ⟨digit, rfl, hform.card_digit⟩) (.cons hsep (.cons htype (.cons hsep (.cons hnumber .nil))))))))
    rw [hform.text]
    rw [append_nil] at hmatch; exact hmatch

theorem NameForm.unique {d₁ d₂ : Byte} {type₁ number₁ type₂ number₂ : List Byte} (h₁ : NameForm s d₁ type₁ number₁)
    (h₂ : NameForm s d₂ type₂ number₂) : d₁ = d₂ ∧ type₁ = type₂ ∧ number₁ = number₂ := by
  have htext := append_cancel_left (h₁.text.symm.trans h₂.text)
  have hdigit := (List.cons.inj htext).1
  obtain ⟨rfl, rfl⟩ := append_cons_inj (hyphen_notMem_digits h₁.number_digits) (hyphen_notMem_digits h₂.number_digits)
    (List.cons.inj (List.cons.inj htext).2).2
  exact ⟨hdigit, rfl, rfl⟩

theorem NameForm.longest {front rest : List Byte} (hrest : NoNumber rest) {front' rest' : List Byte}
    (hsame : front ++ rest = front' ++ rest') {d' : Byte} {type' number' : List Byte}
    (h' : NameForm front' d' type' number') : front'.length ≤ front.length := by
  by_contra hlt
  rw [Nat.not_le] at hlt
  -- what the longer front adds
  obtain ⟨x, hx⟩ := prefix_of_prefix_length_le (prefix_append front rest)
    (hsame ▸ prefix_append front' rest') (Nat.le_of_lt hlt)
  have hrest_eq : rest = x ++ rest' := by
    rw [← hx, append_assoc] at hsame; exact append_cancel_left hsame
  have hxne : x ≠ [] := by
    rintro rfl
    rw [← hx, append_nil] at hlt; exact Nat.lt_irrefl _ hlt
  have hend : front ++ x = (ascii "card" ++ d' :: hyphen :: type') ++ hyphen :: number' := by
    rw [hx, h'.text]; simp
  rcases append_eq_append_iff.1 hend with ⟨a, -, ha⟩ | ⟨a, -, ha⟩
  · -- the last hyphen is among what is added
    obtain ⟨c, r, hnumber⟩ := exists_cons_of_ne_nil h'.number_ne
    have hdigit := hrest.behind a c (r ++ rest') (by rw [hrest_eq, ha, hnumber]; simp)
    rw [h'.number_digits c (by rw [hnumber]; exact mem_cons_self)] at hdigit; cases hdigit
  · -- or all that is added are digits of the number
    obtain ⟨c, r, hc⟩ := exists_cons_of_ne_nil hxne
    have hdigit := hrest.head c (r ++ rest') (by rw [hrest_eq, hc]; rfl)
    cases a with
    | nil =>
      rw [nil_append, hc] at ha
      obtain ⟨rfl, rfl⟩ := List.cons.inj ha
      obtain ⟨c', r', hnumber⟩ := exists_cons_of_ne_nil h'.number_ne
      have hbehind := hrest.behind [] c' (r' ++ rest') (by rw [hrest_eq, hc, hnumber]; rfl)
      rw [h'.number_digits c' (by rw [hnumber]; exact mem_cons_self)] at hbehind; cases hbehind
    | cons y a =>
      have hnumber : number' = a ++ x := (List.cons.inj ha).2
      rw [h'.number_digits c (by rw [hnumber, hc]; exact mem_append_right a mem_cons_self)] at hdigit
      cases hdigit

theorem parse_of_form {front rest : List Byte} {connectorType : List Byte}
    (h : NameForm front digit connectorType number) (hrest : NoNumber rest) :
    parseSysDrmConnectorName (front ++ rest) = identifierFromGroups [digit] connectorType number := by
  have hmatch := matches_drmConnectorPattern.2 ⟨digit, connectorType, number, rfl, h⟩
  obtain ⟨pieces, hpieces⟩ := Option.isSome_iff_exists.1 (hmatch.longestMatch_isSome rest)
  obtain ⟨front', rest', hsame, hmatch', hgreatest⟩ := longestMatch_eq_some hpieces
  obtain ⟨digit', type', number', rfl, h'⟩ := matches_drmConnectorPattern.1 hmatch'
  have hlength : front'.length = front.length :=
    Nat.le_antisymm (NameForm.longest hrest hsame h') (hgreatest front rest _ rfl hmatch)
  obtain ⟨rfl, rfl⟩ := List.append_inj hsame hlength.symm
  obtain ⟨rfl, rfl, rfl⟩ := h.unique h'
  rw [parseSysDrmConnectorName, hpieces]

theorem parse_of_no_form
    (h : ∀ front rest digit connectorType number, s = front ++ rest → ¬ NameForm front digit connectorType number) :
    parseSysDrmConnectorName s = .ok ⟨-1, -1, -1, -1⟩ := by
  unfold parseSysDrmConnectorName
  split
  · rename_i hpieces
    obtain ⟨front, rest, hsame, hmatch, -⟩ := longestMatch_eq_some hpieces
    obtain ⟨digit, connectorType, number, -, hform⟩ := matches_drmConnectorPattern.1 hmatch
    exact absurd hform (h front rest digit connectorType number hsame)
  · rfl

theorem form_or_not (s : List Byte) : (∃ front rest digit connectorType number, s = front ++ rest ∧
      NameForm front digit connectorType number ∧ NoNumber rest) ∨
    ∀ front rest digit connectorType number, s = front ++ rest → ¬ NameForm front digit connectorType number := by
  by_cases hform : ∃ front rest digit connectorType number, s = front ++ rest ∧
      NameForm front digit connectorType number
  · left
    obtain ⟨front₀, rest₀, digit₀, type₀, number₀, rfl, hform₀⟩ := hform
    have hsome := (matches_drmConnectorPattern.2 ⟨_, _, _, rfl, hform₀⟩).longestMatch_isSome rest₀
    obtain ⟨pieces, hpieces⟩ := Option.isSome_iff_exists.1 hsome
    obtain ⟨front, rest, hsame, hmatch, hgreatest⟩ := longestMatch_eq_some hpieces
    obtain ⟨digit, connectorType, number, -, h⟩ := matches_drmConnectorPattern.1 hmatch
    refine ⟨front, rest, digit, connectorType, number, hsame, h, ⟨fun c r hr => ?_, fun a c r hr => ?_⟩⟩
    · -- another digit would make the front longer
      rw [← Bool.not_eq_true]
      intro hdigit
      have hlonger : NameForm (front ++ [c]) digit connectorType (number ++ [c]) := by
        refine ⟨by rw [h.text]; simp, h.card_digit, by simp, fun x hx => ?_⟩
        rcases mem_append.1 hx with hx | hx
        · exact h.number_digits x hx
        · rw [mem_singleton.1 hx]; exact hdigit
      have hle := hgreatest (front ++ [c]) r _ (by rw [hsame, hr]; simp)
        (matches_drmConnectorPattern.2 ⟨_, _, _, rfl, hlonger⟩)
      rw [length_append] at hle; exact absurd hle (Nat.not_le.2 (Nat.lt_succ_self _))
    · -- and so would one behind a hyphen
      rw [← Bool.not_eq_true]
      intro hdigit
      have hlonger : NameForm (front ++ a ++ [hyphen, c]) digit (connectorType ++ hyphen :: number ++ a) [c] := by
        refine ⟨by rw [h.text]; simp, h.card_digit, cons_ne_nil _ _, fun x hx => ?_⟩
        rw [mem_singleton.1 hx]; exact hdigit
      have hle := hgreatest (front ++ a ++ [hyphen, c]) r _ (by rw [hsame, hr]; simp)
        (matches_drmConnectorPattern.2 ⟨_, _, _, rfl, hlonger⟩)
      rw [length_append, length_append, Nat.add_assoc] at hle
      exact absurd hle (Nat.not_le.2 (Nat.lt_add_of_pos_right (Nat.succ_pos _)))
  · right
    intro front rest digit connectorType number hs h
    exact hform ⟨front, rest, digit, connectorType, number, hs, h⟩

/-! ## The conversions -/

theorem strToInt_digit (h : isDigit 10 digit = true) : strToInt [digit] 10 = some (digitsVal 10 [digit] : Int) := by
  have hdigits : ∀ c ∈ [digit], isDigit 10 c = true := by
    intro c hc
    rw [mem_singleton.1 hc]; exact h
  obtain ⟨n, hn⟩ := exists_digitVal h
  rw [isDigit, hn] at h
  have hlt : n < 10 := of_decide_eq_true h
  have hval : digitsVal 10 [digit] = n := by rw [digitsVal, foldl_cons, foldl_nil, hn]; simp
  rw [strToInt_digits (cons_ne_nil _ _) hdigits, hval, if_pos]
  unfold intMax; omega

section
variable (hdigit : isDigit 10 digit = true) (connectorType : List Byte) (hne : number ≠ [])
  (hdigits : ∀ c ∈ number, isDigit 10 c = true)
include hdigit hne hdigits

theorem identifierFromGroups_of_fits (hfits : (digitsVal 10 number : Int) ≤ intMax) :
    identifierFromGroups [digit] connectorType number =
      .ok ⟨digitsVal 10 [digit], -1, lookupDrmConnectorType connectorType, digitsVal 10 number⟩ := by
  rw [identifierFromGroups, strToInt_digit hdigit, strToInt_digits hne hdigits, if_pos hfits]

theorem identifierFromGroups_of_large (hlarge : intMax < (digitsVal 10 number : Int)) :
    identifierFromGroups [digit] connectorType number = .error .assertFailed := by
  rw [identifierFromGroups, strToInt_digit hdigit, strToInt_digits hne hdigits, if_neg (Int.not_le.2 hlarge)]

end

theorem parse_returns_iff (s : List Byte) : (∃ dci, parseSysDrmConnectorName s = .ok dci) ↔ ¬ NumberTooLarge s := by
  constructor
  · rintro ⟨dci, hparse⟩ ⟨front, rest, digit, connectorType, number, rfl, hform, hrest, hlarge⟩
    rw [parse_of_form hform hrest,
      identifierFromGroups_of_large hform.card_digit connectorType hform.number_ne hform.number_digits hlarge] at hparse
    cases hparse
  · intro hnot
    rcases form_or_not s with ⟨front, rest, digit, connectorType, number, rfl, hform, hrest⟩ | hnone
    · have hfits : (digitsVal 10 number : Int) ≤ intMax := by
        rw [← Int.not_lt]
        exact fun hlarge => hnot ⟨front, rest, digit, connectorType, number, rfl, hform, hrest, hlarge⟩
      exact ⟨_, (parse_of_form hform hrest).trans
        (identifierFromGroups_of_fits hform.card_digit connectorType hform.number_ne hform.number_digits hfits)⟩
    · exact ⟨_, parse_of_no_form hnone⟩

/-! ## The two readers, on the names of connectors -/

theorem isDigit_decimalDigits (n : Nat) : ∀ c ∈ decimalDigits n, isDigit 10 c = true := by
  intro c hc
  obtain ⟨d, hd, hval⟩ := digitVal_of_mem_decimalDigits hc
  rw [isDigit, hval]; exact decide_eq_true hd

theorem decimalDigits_two {n : Nat} (h : 10 ≤ n) : ∃ c d r, decimalDigits n = c :: d :: r ∧ isDigit 10 d = true := by
  have hdigits := isDigit_decimalDigits n
  rw [decimalDigits_of_le h] at hdigits ⊢
  obtain ⟨c, ds, hc⟩ := exists_cons_of_ne_nil (decimalDigits_ne_nil (n / 10))
  rw [hc] at hdigits ⊢
  cases ds with
  | nil => exact ⟨c, _, [], rfl, hdigits _ (by simp)⟩
  | cons d ds => exact ⟨c, d, _, rfl, hdigits d (by simp)⟩

section Connectors

variable {libdrm : List Byte → Option UInt32}

variable {c : Connector libdrm}

theorem form_of_name (hcard : c.card < 10) :
    NameForm c.name (digitByte c.card) c.typeName (decimalDigits c.number) := by
  refine ⟨?_, ?_, decimalDigits_ne_nil c.number, isDigit_decimalDigits c.number⟩
  · rw [Connector.name, cardName, decimalDigits_of_lt hcard, append_assoc]; rfl
  · exact isDigit_decimalDigits c.card _ (by rw [decimalDigits_of_lt hcard]; exact mem_singleton_self _)

theorem NoNumber.nil : NoNumber [] where
  head := fun _ _ h => by cases h
  behind := fun a _ _ h => absurd h.symm (append_ne_nil_of_right_ne_nil a (cons_ne_nil _ _))

theorem parse_name (hcard : c.card < 10) :
    parseSysDrmConnectorName c.name = identifierFromGroups [digitByte c.card] c.typeName (decimalDigits c.number) := by
  have h := parse_of_form (form_of_name hcard) NoNumber.nil
  rwa [append_nil] at h

theorem parse_name_of_le (hcard : 10 ≤ c.card) : parseSysDrmConnectorName c.name = .ok ⟨-1, -1, -1, -1⟩ := by
  refine parse_of_no_form fun front rest digit connectorType number hs hform => ?_
  obtain ⟨d₀, d₁, r, hdigits, hd⟩ := decimalDigits_two hcard
  rw [Connector.name, cardName, hform.text, hdigits, append_assoc, append_assoc] at hs
  have htail := (List.cons.inj (append_cancel_left hs)).2
  rw [(List.cons.inj htail).1] at hd; cases hd

theorem digitsVal_digitByte {n : Nat} (h : n < 10) : digitsVal 10 [digitByte n] = n := by
  rw [← decimalDigits_of_lt h, digitsVal_decimalDigits]

theorem parse_name_iff (c : Connector libdrm) : parseSysDrmConnectorName c.name = .ok c.identifier ↔ c.Readable := by
  rcases Nat.lt_or_ge c.card 10 with hcard | hcard
  · rw [parse_name hcard]
    have hdigit := (form_of_name hcard).card_digit
    have hnumber := isDigit_decimalDigits c.number
    have hval := digitsVal_decimalDigits c.number
    by_cases hfits : (c.number : Int) ≤ intMax
    · rw [identifierFromGroups_of_fits hdigit c.typeName (decimalDigits_ne_nil _) hnumber (by rw [hval]; exact hfits), hval,
        digitsVal_digitByte hcard]
      unfold Connector.identifier
      constructor
      · intro h; exact ⟨hcard, hfits, (DrmConnectorIdentifier.mk.inj (Except.ok.inj h)).2.2.1⟩
      · rintro ⟨-, -, htype⟩
        rw [htype]
    · rw [identifierFromGroups_of_large hdigit c.typeName (decimalDigits_ne_nil _) hnumber
        (by rw [hval]; exact Int.not_le.1 hfits)]
      constructor
      · intro h; cases h
      · exact fun h => absurd h.2.1 hfits
  · rw [parse_name_of_le hcard]
    constructor
    · intro h
      have hneg : (-1 : Int) = (c.card : Int) := (DrmConnectorIdentifier.mk.inj (Except.ok.inj h)).1
      omega
    · exact fun h => absurd h.1 (Nat.not_lt.2 hcard)

theorem pathGetBasename_of (dir : List Byte) {base : List Byte} (hne : base ≠ []) (hslash : slash ∉ base) :
    pathGetBasename (dir ++ slash :: base) = base := by
  obtain ⟨x, r, hrev⟩ := exists_cons_of_ne_nil (reverse_ne_nil_iff.2 hne)
  have hmem : ∀ c ∈ x :: r, (c != slash) = true := by
    intro c hc
    rw [← hrev, mem_reverse] at hc; exact bne_iff_ne.2 fun h => hslash (h ▸ hc)
  have hx : ¬ (x == slash) = true := by
    intro h
    have := hmem x mem_cons_self
    rw [bne, h] at this; cases this
  have hstripped : (dir ++ slash :: base).reverse.dropWhile (· == slash) = x :: (r ++ slash :: dir.reverse) := by
    rw [reverse_append, reverse_cons, hrev, append_assoc, cons_append]
    exact dropWhile_cons_of_neg hx
  rw [pathGetBasename, if_neg (by simp), hstripped]
  dsimp only
  rw [← cons_append, takeWhile_append_of_pos hmem, takeWhile_cons_of_neg (by simp), append_nil, ← hrev,
    reverse_reverse]

theorem slash_notMem_cardName (card : Nat) : slash ∉ cardName card := by
  intro h
  rcases mem_append.1 h with h | h
  · exact absurd h (by decide)
  · exact absurd (isDigit_decimalDigits card slash h) (by decide)

theorem extractCardno_of_lt (dir : List Byte) {card : Nat} (hcard : card < 10) :
    extractCardno (some (dir ++ slash :: cardName card)) = card := by
  have hdigit : ∀ n < 10, isDigit 10 (digitByte n) = true ∧ ((digitByte n).toNat : Int) - 0x30 = n := by decide
  unfold extractCardno
  dsimp only
  rw [pathGetBasename_of dir (by simp [cardName, decimalDigits_ne_nil]) (slash_notMem_cardName card)]
  rw [cardName, decimalDigits_of_lt hcard]
  change (if isDigit 10 (digitByte card) = true then _ else _) = _
  rw [if_pos (hdigit card hcard).1, (hdigit card hcard).2]

/-! ## The order of names -/

theorem dciCmp_orders (c d : Connector libdrm) : Orders (dciCmp c.identifier d.identifier) c.key d.key := by
  have hlt : ∀ c d : Connector libdrm, c.key < d.key ↔ c.card < d.card ∨
      c.card = d.card ∧ (c.type.toNat < d.type.toNat ∨ c.type.toNat = d.type.toNat ∧ c.number < d.number) := by
    intro c d
    unfold Connector.key
    rw [Prod.Lex.toLex_lt_toLex, Prod.Lex.toLex_lt_toLex]
  have heq : c.key = d.key ↔ c.card = d.card ∧ c.type.toNat = d.type.toNat ∧ c.number = d.number := by
    unfold Connector.key
    rw [toLex_inj, Prod.mk.injEq, toLex_inj, Prod.mk.injEq]
  rw [Orders, hlt, hlt, heq]
  unfold dciCmp Connector.identifier
  dsimp only
  by_cases h₁ : (c.card : Int) < d.card
  · exact ⟨by omega, by omega, by omega⟩
  by_cases h₂ : (d.card : Int) < c.card
  · exact ⟨by omega, by omega, by omega⟩
  by_cases h₃ : (c.type.toNat : Int) < d.type.toNat
  · exact ⟨by omega, by omega, by omega⟩
  by_cases h₄ : (d.type.toNat : Int) < c.type.toNat
  · exact ⟨by omega, by omega, by omega⟩
  by_cases h₅ : (c.number : Int) < d.number
  · exact ⟨by omega, by omega, by omega⟩
  by_cases h₆ : (d.number : Int) < c.number
  · exact ⟨by omega, by omega, by omega⟩
  exact ⟨by omega, by omega, by omega⟩

theorem key_inj (hinj : ∀ a b t, libdrm a = some t → libdrm b = some t → a = b) {d : Connector libdrm}
    (h : c.key = d.key) : c = d := by
  unfold Connector.key at h
  rw [toLex_inj, Prod.mk.injEq, toLex_inj, Prod.mk.injEq] at h
  obtain ⟨hcard, htype, hnumber⟩ := h
  have htype := UInt32.toNat_inj.1 htype
  have hname := hinj c.typeName d.typeName c.type c.known (htype ▸ d.known)
  cases c
  cases hcard
  cases htype
  cases hnumber
  cases hname; rfl

/-! ## The state that is found -/

theorem uint32_ofInt_eq_iff {n : Nat} (h : n < 4294967296) {u : UInt32} : UInt32.ofInt (n : Int) = u ↔ n = u.toNat := by
  have hnat : (UInt32.ofInt (n : Int)).toNat = n := by
    simp only [UInt32.ofInt, UInt32.toNat_ofNat']; omega
  rw [← UInt32.toNat_inj, hnat]

section
variable (hinj : ∀ a b t, libdrm a = some t → libdrm b = some t → a = b) (dir : List Byte)
  (ids : Connector libdrm → Int)
include hinj

theorem isStateOf_recorded {d : Connector libdrm} (hc : c.Readable) (hd : d.Readable) :
    isStateOf c.identifier (d.recorded dir ids) = true ↔ d = c := by
  have hmax : intMax = 2147483647 := by decide
  have hcn : c.number < 4294967296 := by
    have := hc.2.1
    omega
  have hdn : (UInt32.ofNat d.number).toNat = d.number := by
    have := hd.2.1
    exact Nat.mod_eq_of_lt (by omega)
  have hnot : ¬ (0 : Int) ≤ -1 := by decide
  unfold isStateOf Connector.identifier Connector.recorded
  rw [extractCardno_of_lt dir hd.1, if_neg hnot, Bool.and_eq_true, Bool.and_eq_true, decide_eq_true_iff, decide_eq_true_iff,
    decide_eq_true_iff, uint32_ofInt_eq_iff c.type.toNat_lt, uint32_ofInt_eq_iff hcn, hdn]
  constructor
  · rintro ⟨hcard, -, htype, hnumber⟩
    refine key_inj hinj ?_
    unfold Connector.key
    rw [Int.natCast_inj.1 hcard, htype, hnumber]
  · rintro rfl
    exact ⟨rfl, ⟨Int.natCast_nonneg _, Int.natCast_nonneg _⟩, rfl, rfl⟩

theorem find_recorded {l : List (Connector libdrm)} (hl : ∀ d ∈ l, d.Readable) (hc : c.Readable) :
    (c ∈ l → findDrmConnectorState (l.map (Connector.recorded dir ids)) c.identifier = some (c.recorded dir ids)) ∧
      (c ∉ l → findDrmConnectorState (l.map (Connector.recorded dir ids)) c.identifier = none) := by
  rw [findDrmConnectorState, find?_map]
  constructor
  · intro hmem
    cases hfind : l.find? (isStateOf c.identifier ∘ Connector.recorded dir ids) with
    | none => exact absurd ((isStateOf_recorded hinj dir ids hc hc).2 rfl) (find?_eq_none.1 hfind c hmem)
    | some d =>
      have hd := hl d (mem_of_find?_eq_some hfind)
      have hfound := find?_some hfind
      rw [(isStateOf_recorded hinj dir ids hc hd).1 hfound]; rfl
  · intro hnot
    have hnone : l.find? (isStateOf c.identifier ∘ Connector.recorded dir ids) = none := by
      refine find?_eq_none.2 fun d hd h => hnot ?_
      rw [← (isStateOf_recorded hinj dir ids hc (hl d hd)).1 h]; exact hd
    rw [hnone]; rfl

end

/-! ## Which names are right -/

/-- **The names of connectors are right exactly where each can be read**, and the reader of names returns on every string but
those with a number that no `int` holds. -/
theorem drmConnectorNames_right_iff (hinj : ∀ a b t, libdrm a = some t → libdrm b = some t → a = b) (dir : List Byte)
    (ids : Connector libdrm → Int) (cs : List (Connector libdrm)) (s : List Byte) :
    (NamesRight dir ids cs ↔ ∀ c ∈ cs, c.Readable) ∧
      ((∃ dci, parseSysDrmConnectorName s = .ok dci) ↔ ¬ NumberTooLarge s) := by
  refine ⟨⟨fun h c hc => (parse_name_iff c).1 (h.read c hc).1, fun h => ⟨?_, ?_, ?_⟩⟩, parse_returns_iff s⟩
  · intro c hc; exact ⟨(parse_name_iff c).2 (h c hc), extractCardno_of_lt dir (h c hc).1⟩
  · intro c hc d hd
    have horders := dciCmp_orders c d
    refine ⟨dciCmp c.identifier d.identifier, ?_, horders, fun hzero => key_inj hinj (horders.2.2.1 hzero)⟩
    unfold sysDrmConnectorNameCmp0
    dsimp only
    rw [(parse_name_iff c).2 (h c hc), Exec.ok_bind, (parse_name_iff d).2 (h d hd), Exec.ok_bind]
  · intro l hl c hc
    exact ⟨c.identifier, (parse_name_iff c).2 (h c hc), find_recorded hinj dir ids (fun d hd => h d (hl hd)) (h c hc)⟩

end Connectors

def twoTypes (name : List Byte) : Option UInt32 :=
  if name = ascii "DP" then some 10 else if name = ascii "HDMI-A" then some 11 else none

theorem twoTypes_inj (a b : List Byte) (t : UInt32) (ha : twoTypes a = some t) (hb : twoTypes b = some t) : a = b := by
  have hone : ∀ name, twoTypes name = some t → name = ascii "DP" ∧ t = 10 ∨ name = ascii "HDMI-A" ∧ t = 11 := by
    intro name h
    unfold twoTypes at h
    split at h
    · rename_i hname; exact .inl ⟨hname, (Option.some.inj h).symm⟩
    · split at h
      · rename_i hname; exact .inr ⟨hname, (Option.some.inj h).symm⟩
      · cases h
  rcases hone a ha with ⟨rfl, rfl⟩ | ⟨rfl, rfl⟩
  · rcases hone b hb with ⟨rfl, -⟩ | ⟨-, h⟩
    · rfl
    · cases h
  · rcases hone b hb with ⟨-, h⟩ | ⟨rfl, -⟩
    · cases h
    · rfl

def displayPort (card number : Nat) : Connector twoTypes := ⟨card, ascii "DP", 10, rfl, number⟩

def hdmiA (card number : Nat) : Connector twoTypes := ⟨card, ascii "HDMI-A", 11, rfl, number⟩

theorem drmConnectorNames_right_displayPort :
    (NamesRight (ascii "/dev/dri") (fun _ => 83) [displayPort 0 1] ↔ ∀ c ∈ [displayPort 0 1], c.Readable) ∧
      ((∃ dci, parseSysDrmConnectorName (ascii "card0-DP-1") = .ok dci) ↔ ¬ NumberTooLarge (ascii "card0-DP-1")) :=
  drmConnectorNames_right_iff twoTypes_inj (ascii "/dev/dri") (fun _ => 83) [displayPort 0 1] (ascii "card0-DP-1")

/-- `card10-DP-1` is not read, `card0-HDMI-A-1` is read without its type, and an assertion fails for a great number. -/
theorem drmConnectorNames_not_right :
    ¬ NamesRight (ascii "/dev/dri") (fun _ => 83) [displayPort 10 1] ∧
      ¬ NamesRight (ascii "/dev/dri") (fun _ => 83) [hdmiA 0 1] ∧
      ¬ ∃ dci, parseSysDrmConnectorName (displayPort 0 4294967296).name = .ok dci := by
  refine ⟨fun h => ?_, fun h => ?_, fun h => ?_⟩
  · have hreadable := (parse_name_iff _).1 (h.read _ mem_cons_self).1
    exact absurd hreadable.1 (Nat.lt_irrefl 10)
  · have hreadable := (parse_name_iff _).1 (h.read _ mem_cons_self).1
    exact absurd hreadable.2.2 (by decide)
  · refine (parse_returns_iff _).1 h ⟨_, [], _, _, _, (append_nil _).symm, form_of_name (by decide), NoNumber.nil, ?_⟩
    decide

end Ddc.Drm
