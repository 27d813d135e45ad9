import Ddcutil.CmdParse
/-!
# SetvcpArgs — the arguments of the command that sets features (cmd_parser_goption.c)

The loop of `parse_setvcp_args` with its position, and the groups that it is to find: a feature code, perhaps a sign,
and a value.
-/
namespace Ddc.Cmd

open Kit List Exec

/-! ## The loop -/

structure SetvcpScan where
  parsingOk : Bool
  argpos : Nat
  setvcpValues : List ParsedSetvcpArgs
  errmsgs : List (List Byte)

namespace SetvcpScan

def next (s : SetvcpScan) : SetvcpScan := { s with argpos := s.argpos + 1 }

def fail (s : SetvcpScan) (msg : List Byte) : SetvcpScan :=
  { s with parsingOk := false, errmsgs := s.errmsgs ++ [msg] }

def record (s : SetvcpScan) (psv : ParsedSetvcpArgs) : SetvcpScan :=
  { s with argpos := s.argpos + 1, setvcpValues := s.setvcpValues ++ [psv] }

def takeSigned (args : List (List Byte)) (featureCode : Byte) (valueType : SetvcpValueType) (s : SetvcpScan) :
    Exec SetvcpScan :=
  if args.length ≤ s.argpos then .ok (s.fail (ascii "Missing feature value"))
  else do
    let value ← fetch args s.argpos
    .ok (s.record ⟨featureCode, valueType, value⟩)

def takeValue (args : List (List Byte)) (featureCode : Byte) (s : SetvcpScan) : Exec SetvcpScan :=
  if args.length ≤ s.argpos then .ok (s.fail (ascii "Missing feature value"))
  else do
    let arg ← fetch args s.argpos
    if arg = ascii "+" then s.next.takeSigned args featureCode .relativePlus
    else if arg = ascii "-" then s.next.takeSigned args featureCode .relativeMinus
    else .ok (s.record ⟨featureCode, .absolute, arg⟩)

def turn (args : List (List Byte)) (s : SetvcpScan) : Exec SetvcpScan := do
  let code ← fetch args s.argpos
  match anyOneByteHexStringToByteInBuf code with
  | none => .ok (s.fail (ascii "Invalid feature code: " ++ code))
  | some featureCode => s.next.takeValue args featureCode

def more (args : List (List Byte)) (s : SetvcpScan) : Bool := s.parsingOk && decide (s.argpos < args.length)

end SetvcpScan

def parseSetvcpArgs (args : List (List Byte)) : Exec SetvcpScan :=
  whileLoop (SetvcpScan.more args) (SetvcpScan.turn args) args.length ⟨true, 0, [], []⟩

/-- **A group**: a feature code, a sign or none, and a value.  A sign behind a code is never the value. -/
inductive SetvcpGroup (IsCode : List Byte → Byte → Prop) : List (List Byte) → ParsedSetvcpArgs → Prop
  | absolute {code value : List Byte} {featureCode : Byte} (hcode : IsCode code featureCode) (hplus : value ≠ ascii "+")
      (hminus : value ≠ ascii "-") : SetvcpGroup IsCode [code, value] ⟨featureCode, .absolute, value⟩
  | plus {code value : List Byte} {featureCode : Byte} (hcode : IsCode code featureCode) :
      SetvcpGroup IsCode [code, ascii "+", value] ⟨featureCode, .relativePlus, value⟩
  | minus {code value : List Byte} {featureCode : Byte} (hcode : IsCode code featureCode) :
      SetvcpGroup IsCode [code, ascii "-", value] ⟨featureCode, .relativeMinus, value⟩

def AreGroups (IsCode : List Byte → Byte → Prop) (args : List (List Byte)) (groups : List (List (List Byte)))
    (values : List ParsedSetvcpArgs) : Prop :=
  args = groups.flatten ∧ List.Forall₂ (SetvcpGroup IsCode) groups values

def IsFeatureCode (code : List Byte) (featureCode : Byte) : Prop := CodePlace.Denotes featureCode .commandLine code

def TakenForCode (code : List Byte) (featureCode : Byte) : Prop := anyOneByteHexStringToByteInBuf code = some featureCode

/-- **What is promised of the arguments**: the loop ends; they are accepted exactly where they are groups, and then the
groups are what is recorded. -/
structure SetvcpArgsRight (args : List (List Byte)) : Prop where
  ends : ∃ s, parseSetvcpArgs args = .ok s
  accepted : ∀ s, parseSetvcpArgs args = .ok s →
    (s.parsingOk = true ↔ ∃ groups values, AreGroups IsFeatureCode args groups values)
  recorded : ∀ s, parseSetvcpArgs args = .ok s → s.parsingOk = true →
    ∃ groups, AreGroups IsFeatureCode args groups s.setvcpValues

/-- **A digit behind a sign or white space stands for a feature code**, in arguments that are groups otherwise. -/
def StrayCode (args : List (List Byte)) : Prop :=
  ∃ groups values, AreGroups TakenForCode args groups values ∧
    ∃ group ∈ groups, ∃ code, group.head? = some code ∧ strayFirst (bareCode code) = true

/-! ## The loop finds the groups -/

variable {C D : List Byte → Byte → Prop} {g args : List (List Byte)} {v : ParsedSetvcpArgs}
variable {groups : List (List (List Byte))} {values : List ParsedSetvcpArgs}

theorem SetvcpGroup.imp {group : List (List Byte)} {psv : ParsedSetvcpArgs} (h : SetvcpGroup C group psv)
    (himp : ∀ code v, group.head? = some code → C code v → D code v) : SetvcpGroup D group psv := by
  cases h with
  | absolute hcode hplus hminus => exact .absolute (himp _ _ rfl hcode) hplus hminus
  | plus hcode => exact .plus (himp _ _ rfl hcode)
  | minus hcode => exact .minus (himp _ _ rfl hcode)

theorem SetvcpGroup.append_inj {g' : List (List Byte)} {v' : ParsedSetvcpArgs} {rest rest' : List (List Byte)}
    (h : SetvcpGroup C g v) (h' : SetvcpGroup D g' v') (heq : g ++ rest = g' ++ rest') : g = g' ∧ rest = rest' := by
  have hsigns : ascii "+" ≠ ascii "-" := by decide
  cases h with
  | absolute hcode hplus hminus =>
    cases h' with
    | absolute => simpa [and_assoc] using heq
    | plus =>
      simp only [cons_append, nil_append, List.cons.injEq] at heq; exact absurd heq.2.1 hplus
    | minus =>
      simp only [cons_append, nil_append, List.cons.injEq] at heq; exact absurd heq.2.1 hminus
  | plus hcode =>
    cases h' with
    | absolute _ hplus =>
      simp only [cons_append, nil_append, List.cons.injEq] at heq; exact absurd heq.2.1.symm hplus
    | plus => simpa [and_assoc] using heq
    | minus =>
      simp only [cons_append, nil_append, List.cons.injEq] at heq; exact absurd heq.2.1 hsigns
  | minus hcode =>
    cases h' with
    | absolute _ _ hminus =>
      simp only [cons_append, nil_append, List.cons.injEq] at heq; exact absurd heq.2.1.symm hminus
    | plus =>
      simp only [cons_append, nil_append, List.cons.injEq] at heq; exact absurd heq.2.1.symm hsigns
    | minus => simpa [and_assoc] using heq

theorem SetvcpGroup.ne_nil (h : SetvcpGroup C g v) : g ≠ [] := by
  cases h with
  | absolute | plus | minus => exact cons_ne_nil _ _

theorem AreGroups.groups_unique :
    ∀ {args : List (List Byte)} {groups' : List (List (List Byte))} {values values' : List ParsedSetvcpArgs},
      AreGroups C args groups values → AreGroups D args groups' values' → groups = groups' := by
  induction groups with
  | nil =>
    rintro args groups' values values' ⟨rfl, -⟩ ⟨heq, h'⟩
    cases h' with
    | nil => rfl
    | cons hg =>
      exact absurd (append_eq_nil_iff.1 heq.symm).1 hg.ne_nil
  | cons g groups ih =>
    rintro args groups' values values' ⟨rfl, h⟩ ⟨heq, h'⟩
    cases h with
    | cons hg hrest =>
      cases h' with
      | nil =>
        exact absurd (append_eq_nil_iff.1 heq).1 hg.ne_nil
      | cons hg' hrest' =>
        obtain ⟨rfl, hflat⟩ := hg.append_inj hg' heq
        rw [ih ⟨rfl, hrest⟩ ⟨hflat, hrest'⟩]

theorem AreGroups.cons (hg : SetvcpGroup C g v) (h : AreGroups C args groups values) :
    AreGroups C (g ++ args) (g :: groups) (v :: values) :=
  ⟨by rw [flatten_cons, h.1], .cons hg h.2⟩

theorem AreGroups.first (h : AreGroups C args groups values) (hne : args ≠ []) :
    ∃ g v rest groups' values', args = g ++ rest ∧ groups = g :: groups' ∧ values = v :: values' ∧ SetvcpGroup C g v ∧
      AreGroups C rest groups' values' := by
  obtain ⟨rfl, hall⟩ := h
  cases hall with
  | nil => exact absurd rfl hne
  | cons hg hrest => exact ⟨_, _, _, _, _, flatten_cons, rfl, rfl, hg, rfl, hrest⟩

theorem SetvcpGroup.value_unique {v' : ParsedSetvcpArgs} (h : SetvcpGroup TakenForCode g v)
    (h' : SetvcpGroup TakenForCode g v') : v = v' := by
  have hcode : ∀ {code : List Byte} {a b : Byte}, TakenForCode code a → TakenForCode code b → a = b :=
    fun ha hb => Option.some.inj (ha.symm.trans hb)
  have hsigns : ascii "+" ≠ ascii "-" := by decide
  cases h with
  | absolute ha =>
    cases h' with
    | absolute hb => rw [hcode ha hb]
  | plus ha =>
    generalize hsign : ascii "+" = sign at h'
    cases h' with
    | plus hb => rw [hcode ha hb]
    | minus => exact absurd hsign hsigns
  | minus ha =>
    generalize hsign : ascii "-" = sign at h'
    cases h' with
    | plus => exact absurd hsign.symm hsigns
    | minus hb => rw [hcode ha hb]

theorem areGroups_append_iff (hg : SetvcpGroup TakenForCode g v) :
    (∃ groups, AreGroups TakenForCode (g ++ args) groups values) ↔
      ∃ values', values = v :: values' ∧ ∃ groups, AreGroups TakenForCode args groups values' := by
  constructor
  · rintro ⟨groups, h⟩
    have hne : g ++ args ≠ [] := fun hnil => hg.ne_nil (append_eq_nil_iff.1 hnil).1
    obtain ⟨g', v', rest, groups', values', heq, -, rfl, hg', hrest⟩ := h.first hne
    obtain ⟨rfl, rfl⟩ := hg.append_inj hg' heq
    rw [hg.value_unique hg']; exact ⟨values', rfl, groups', hrest⟩
  · rintro ⟨values', rfl, groups, h⟩
    exact ⟨g :: groups, .cons hg h⟩

/-! ## The recursion over the arguments -/

theorem setvcpArgs_append (hg : SetvcpGroup TakenForCode g v) (rest : List (List Byte)) :
    setvcpArgs (g ++ rest) = (setvcpArgs rest).map (v :: ·) := by
  have hplus : ascii "+" = ascii "+" ∨ ascii "+" = ascii "-" := .inl rfl
  have hminus : ascii "-" = ascii "+" ∨ ascii "-" = ascii "-" := .inr rfl
  have hsigns : ascii "-" ≠ ascii "+" := by decide
  cases hg with
  | @absolute code value featureCode hcode hp hm =>
    change setvcpArgs (code :: value :: rest) = _
    rw [setvcpArgs, show anyOneByteHexStringToByteInBuf code = some featureCode from hcode]
    exact if_neg (not_or.2 ⟨hp, hm⟩)
  | @plus code value featureCode hcode =>
    change setvcpArgs (code :: ascii "+" :: value :: rest) = _
    rw [setvcpArgs, show anyOneByteHexStringToByteInBuf code = some featureCode from hcode]
    refine (if_pos hplus).trans ?_
    rw [if_pos rfl]
  | @minus code value featureCode hcode =>
    change setvcpArgs (code :: ascii "-" :: value :: rest) = _
    rw [setvcpArgs, show anyOneByteHexStringToByteInBuf code = some featureCode from hcode]
    refine (if_pos hminus).trans ?_
    rw [if_neg hsigns]

theorem setvcpArgs_of_no_group (hne : args ≠ []) (h : ∀ g v rest, args = g ++ rest → ¬ SetvcpGroup TakenForCode g v) :
    ∃ msg, setvcpArgs args = .error msg := by
  match args, hne with
  | code :: rest, _ =>
    cases hcode : anyOneByteHexStringToByteInBuf code with
    | none => exact ⟨_, by rw [setvcpArgs, hcode]⟩
    | some featureCode =>
      match rest with
      | [] => exact ⟨_, by rw [setvcpArgs, hcode]⟩
      | value :: rest =>
        by_cases hplus : value = ascii "+"
        · subst hplus
          match rest with
          | [] => exact ⟨_, by rw [setvcpArgs, hcode]; exact if_pos (.inl rfl)⟩
          | amount :: rest => exact absurd (.plus hcode) (h [code, ascii "+", amount] _ rest rfl)
        · by_cases hminus : value = ascii "-"
          · subst hminus
            match rest with
            | [] => exact ⟨_, by rw [setvcpArgs, hcode]; exact if_pos (.inr rfl)⟩
            | amount :: rest => exact absurd (.minus hcode) (h [code, ascii "-", amount] _ rest rfl)
          · exact absurd (.absolute hcode hplus hminus) (h [code, value] _ rest rfl)

theorem args_cases (args : List (List Byte)) : args = [] ∨ (∃ g v rest, args = g ++ rest ∧ SetvcpGroup TakenForCode g v) ∨
    args ≠ [] ∧ ∀ g v rest, args = g ++ rest → ¬ SetvcpGroup TakenForCode g v := by
  by_cases hne : args = []
  · exact .inl hne
  · by_cases hgroup : ∃ g v rest, args = g ++ rest ∧ SetvcpGroup TakenForCode g v
    · exact .inr (.inl hgroup)
    · exact .inr (.inr ⟨hne, fun g v rest heq hg => hgroup ⟨g, v, rest, heq, hg⟩⟩)

/-- **The recursion over the arguments gives the values of the groups**, of codes that the conversion takes. -/
theorem setvcpArgs_iff (args : List (List Byte)) : ∀ values : List ParsedSetvcpArgs,
    setvcpArgs args = .ok values ↔ ∃ groups, AreGroups TakenForCode args groups values := by
  induction hlen : args.length using Nat.strongRecOn generalizing args with
  | ind n ih =>
    intro values
    rcases args_cases args with rfl | ⟨g, v, rest, rfl, hg⟩ | ⟨hne, hnone⟩
    · constructor
      · rintro ⟨⟩
        exact ⟨[], rfl, .nil⟩
      · rintro ⟨groups, heq, hall⟩
        cases hall with
        | nil => rfl
        | cons hg =>
          exact absurd (append_eq_nil_iff.1 heq.symm).1 hg.ne_nil
    · have hlt : rest.length < n := by
        have hpos := length_pos_of_ne_nil hg.ne_nil
        rw [length_append] at hlen; omega
      rw [setvcpArgs_append hg, areGroups_append_iff hg]
      cases hrest : setvcpArgs rest with
      | error msg =>
        refine iff_of_false (fun h => by cases h) ?_
        rintro ⟨values', -, hgroups⟩
        rw [← ih rest.length hlt rest rfl, hrest] at hgroups; cases hgroups
      | ok values' =>
        have hvalues := ih rest.length hlt rest rfl
        rw [hrest] at hvalues
        constructor
        · rintro ⟨⟩
          exact ⟨values', rfl, (hvalues values').1 rfl⟩
        · rintro ⟨values'', rfl, hgroups⟩
          cases (hvalues values'').2 hgroups
          rfl
    · obtain ⟨msg, hmsg⟩ := setvcpArgs_of_no_group hne hnone
      rw [hmsg]
      refine iff_of_false (fun h => by cases h) ?_
      rintro ⟨groups, h⟩
      obtain ⟨g, v, rest, -, -, heq, -, -, hg, -⟩ := h.first hne
      exact hnone g v rest heq hg

/-! ## The loop over the positions -/

section Position

variable {args rest : List (List Byte)} {i : Nat} {arg : List Byte}

theorem fetch_of_drop (h : args.drop i = arg :: rest) : fetch args i = .ok arg := by
  apply fetch_eq_ok.2
  rw [← Nat.add_zero i, ← getElem?_drop, h]; rfl

theorem lt_of_drop (h : args.drop i = arg :: rest) : i < args.length := by
  have hlen := congrArg List.length h
  rw [length_drop, length_cons] at hlen; omega

theorem drop_succ_of_drop (h : args.drop i = arg :: rest) : args.drop (i + 1) = rest := by
  rw [← drop_drop, h]; rfl

end Position

namespace SetvcpScan

variable {args rest : List (List Byte)} {s : SetvcpScan}

/-! What each part of a turn does, by what stands at the position. -/

theorem turn_of_code {code : List Byte} {featureCode : Byte} (h : args.drop s.argpos = code :: rest)
    (hcode : TakenForCode code featureCode) : s.turn args = s.next.takeValue args featureCode := by
  rw [turn, fetch_of_drop h, ok_bind, hcode]

theorem turn_of_not_code {code : List Byte} (h : args.drop s.argpos = code :: rest)
    (hcode : anyOneByteHexStringToByteInBuf code = none) :
    s.turn args = .ok (s.fail (ascii "Invalid feature code: " ++ code)) := by
  rw [turn, fetch_of_drop h, ok_bind, hcode]

theorem takeValue_of_nil (h : args.drop s.argpos = []) (featureCode : Byte) :
    s.takeValue args featureCode = .ok (s.fail (ascii "Missing feature value")) :=
  if_pos (drop_eq_nil_iff.1 h)

theorem takeSigned_of_nil (h : args.drop s.argpos = []) (featureCode : Byte) (valueType : SetvcpValueType) :
    s.takeSigned args featureCode valueType = .ok (s.fail (ascii "Missing feature value")) :=
  if_pos (drop_eq_nil_iff.1 h)

theorem takeSigned_of_cons {value : List Byte} (h : args.drop s.argpos = value :: rest) (featureCode : Byte)
    (valueType : SetvcpValueType) :
    s.takeSigned args featureCode valueType = .ok (s.record ⟨featureCode, valueType, value⟩) := by
  rw [takeSigned, if_neg (Nat.not_le.2 (lt_of_drop h)), fetch_of_drop h, ok_bind]

theorem takeValue_of_plus (h : args.drop s.argpos = ascii "+" :: rest) (featureCode : Byte) :
    s.takeValue args featureCode = s.next.takeSigned args featureCode .relativePlus := by
  rw [takeValue, if_neg (Nat.not_le.2 (lt_of_drop h)), fetch_of_drop h, ok_bind, if_pos rfl]

theorem takeValue_of_minus (h : args.drop s.argpos = ascii "-" :: rest) (featureCode : Byte) :
    s.takeValue args featureCode = s.next.takeSigned args featureCode .relativeMinus := by
  have hsigns : ascii "-" ≠ ascii "+" := by decide
  rw [takeValue, if_neg (Nat.not_le.2 (lt_of_drop h)), fetch_of_drop h, ok_bind, if_neg hsigns, if_pos rfl]

theorem takeValue_of_value {value : List Byte} (h : args.drop s.argpos = value :: rest) (hplus : value ≠ ascii "+")
    (hminus : value ≠ ascii "-") (featureCode : Byte) :
    s.takeValue args featureCode = .ok (s.record ⟨featureCode, .absolute, value⟩) := by
  rw [takeValue, if_neg (Nat.not_le.2 (lt_of_drop h)), fetch_of_drop h, ok_bind, if_neg hplus, if_neg hminus]

theorem turn_of_group {g : List (List Byte)} {v : ParsedSetvcpArgs} (hg : SetvcpGroup TakenForCode g v)
    (h : args.drop s.argpos = g ++ rest) :
    s.turn args = .ok { s with argpos := s.argpos + g.length, setvcpValues := s.setvcpValues ++ [v] } := by
  cases hg with
  | absolute hcode hplus hminus =>
    rw [turn_of_code h hcode, takeValue_of_value (drop_succ_of_drop h) hplus hminus]; rfl
  | plus hcode =>
    have hsign := drop_succ_of_drop h
    rw [turn_of_code h hcode, takeValue_of_plus hsign, takeSigned_of_cons (drop_succ_of_drop hsign)]
    rfl
  | minus hcode =>
    have hsign := drop_succ_of_drop h
    rw [turn_of_code h hcode, takeValue_of_minus hsign, takeSigned_of_cons (drop_succ_of_drop hsign)]
    rfl

theorem turn_of_no_group (hne : args.drop s.argpos ≠ [])
    (h : ∀ g v rest, args.drop s.argpos = g ++ rest → ¬ SetvcpGroup TakenForCode g v) :
    ∃ t msg, s.turn args = .ok t ∧ t.parsingOk = false ∧ setvcpArgs (args.drop s.argpos) = .error msg ∧
      t.errmsgs = s.errmsgs ++ [msg] := by
  generalize hrest : args.drop s.argpos = l at *
  match l, hne with
  | code :: rest, _ =>
    cases hcode : anyOneByteHexStringToByteInBuf code with
    | none => exact ⟨_, _, turn_of_not_code hrest hcode, rfl, by rw [setvcpArgs, hcode], rfl⟩
    | some featureCode =>
      have hvalue := drop_succ_of_drop hrest
      match rest with
      | [] =>
        refine ⟨_, _, (turn_of_code hrest hcode).trans (takeValue_of_nil hvalue featureCode), rfl, ?_, rfl⟩
        rw [setvcpArgs, hcode]
      | value :: rest =>
        by_cases hplus : value = ascii "+"
        · subst hplus
          match rest with
          | [] =>
            refine ⟨_, _, (turn_of_code hrest hcode).trans ((takeValue_of_plus hvalue featureCode).trans
              (takeSigned_of_nil (drop_succ_of_drop hvalue) featureCode .relativePlus)), rfl, ?_, rfl⟩
            rw [setvcpArgs, hcode]; exact if_pos (.inl rfl)
          | amount :: rest => exact absurd (.plus hcode) (h [code, ascii "+", amount] _ rest rfl)
        · by_cases hminus : value = ascii "-"
          · subst hminus
            match rest with
            | [] =>
              refine ⟨_, _, (turn_of_code hrest hcode).trans ((takeValue_of_minus hvalue featureCode).trans
                (takeSigned_of_nil (drop_succ_of_drop hvalue) featureCode .relativeMinus)), rfl, ?_, rfl⟩
              rw [setvcpArgs, hcode]; exact if_pos (.inr rfl)
            | amount :: rest => exact absurd (.minus hcode) (h [code, ascii "-", amount] _ rest rfl)
          · exact absurd (.absolute hcode hplus hminus) (h [code, value] _ rest rfl)

/-- **What the loop comes to** from a position: the values behind it, or the message. -/
def Ends (s t : SetvcpScan) : Except (List Byte) (List ParsedSetvcpArgs) → Prop
  | .ok values => t.parsingOk = true ∧ t.setvcpValues = s.setvcpValues ++ values ∧ t.errmsgs = s.errmsgs
  | .error msg => t.parsingOk = false ∧ t.errmsgs = s.errmsgs ++ [msg]

theorem loop_ends (args : List (List Byte)) : ∀ (fuel : Nat) (s : SetvcpScan), s.parsingOk = true →
    args.length ≤ s.argpos + fuel → ∃ t,
      whileLoop (more args) (turn args) fuel s = .ok t ∧ Ends s t (setvcpArgs (args.drop s.argpos)) := by
  intro fuel
  induction fuel with
  | zero =>
    intro s hok hfuel
    have hstop : more args s = false := by
      rw [more, hok, Bool.true_and, decide_eq_false_iff_not]; omega
    refine ⟨s, whileLoop_stop hstop 0, ?_⟩
    rw [show args.drop s.argpos = [] from drop_eq_nil_iff.2 hfuel, setvcpArgs]
    exact ⟨hok, (append_nil _).symm, rfl⟩
  | succ fuel ih =>
    intro s hok hfuel
    rcases args_cases (args.drop s.argpos) with hnil | ⟨g, v, rest, hrest, hg⟩ | ⟨hne, hnone⟩
    · have hstop : more args s = false := by
        rw [more, hok, Bool.true_and, decide_eq_false_iff_not]
        exact Nat.not_lt.2 (drop_eq_nil_iff.1 hnil)
      refine ⟨s, whileLoop_stop hstop _, ?_⟩
      rw [hnil, setvcpArgs]; exact ⟨hok, (append_nil _).symm, rfl⟩
    · have hgo : more args s = true := by
        rw [more, hok, Bool.true_and, decide_eq_true_eq]
        by_contra hle
        rw [drop_eq_nil_iff.2 (Nat.not_lt.1 hle)] at hrest
        exact hg.ne_nil (append_eq_nil_iff.1 hrest.symm).1
      have hdrop : args.drop (s.argpos + g.length) = rest := by rw [← drop_drop, hrest, drop_left]
      have hpos := length_pos_of_ne_nil hg.ne_nil
      obtain ⟨t, ht, hends⟩ := ih { s with argpos := s.argpos + g.length, setvcpValues := s.setvcpValues ++ [v] } hok
        (show args.length ≤ s.argpos + g.length + fuel by omega)
      refine ⟨t, (whileLoop_step fuel hgo (turn_of_group hg hrest)).trans ht, ?_⟩
      rw [hrest, setvcpArgs_append hg]
      rw [hdrop] at hends
      cases hvalues : setvcpArgs rest with
      | error msg =>
        rw [hvalues] at hends; exact hends
      | ok values =>
        rw [hvalues] at hends
        obtain ⟨htrue, hall, hmsgs⟩ := hends
        exact ⟨htrue, by rw [hall, append_assoc]; rfl, hmsgs⟩
    · have hgo : more args s = true := by
        rw [more, hok, Bool.true_and, decide_eq_true_eq]
        by_contra hle
        exact hne (drop_eq_nil_iff.2 (Nat.not_lt.1 hle))
      obtain ⟨t, msg, ht, hfalse, hmsg, hmsgs⟩ := turn_of_no_group hne hnone
      have hstop : more args t = false := by rw [more, hfalse, Bool.false_and]
      refine ⟨t, whileLoop_last fuel hgo ht hstop, ?_⟩
      rw [hmsg]; exact ⟨hfalse, hmsgs⟩

end SetvcpScan

theorem parseSetvcpArgs_ends (args : List (List Byte)) :
    ∃ t, parseSetvcpArgs args = .ok t ∧ SetvcpScan.Ends ⟨true, 0, [], []⟩ t (setvcpArgs args) :=
  SetvcpScan.loop_ends args args.length ⟨true, 0, [], []⟩ rfl (by omega)

/-! ## Where the arguments are read right -/

theorem taken_of_isFeatureCode {code : List Byte} {featureCode : Byte} (h : IsFeatureCode code featureCode) :
    TakenForCode code featureCode := taken_of_denotes h

theorem isFeatureCode_of_taken {code : List Byte} {featureCode : Byte} (h : TakenForCode code featureCode)
    (hstray : strayFirst (bareCode code) = false) : IsFeatureCode code featureCode :=
  (@taken_iff .commandLine code hstray featureCode).1 h

theorem AreGroups.imp (h : AreGroups C args groups values)
    (himp : ∀ g ∈ groups, ∀ code v, g.head? = some code → C code v → D code v) : AreGroups D args groups values := by
  obtain ⟨rfl, hall⟩ := h
  refine ⟨rfl, ?_⟩
  induction hall with
  | nil => exact .nil
  | cons hg _ ih =>
    exact .cons (hg.imp (himp _ mem_cons_self)) (ih fun g hmem => himp g (mem_cons_of_mem _ hmem))

theorem setvcpArgsRight_iff (args : List (List Byte)) : SetvcpArgsRight args ↔ ¬ StrayCode args := by
  obtain ⟨t, ht, hends⟩ := parseSetvcpArgs_ends args
  have hvalues := setvcpArgs_iff args
  constructor
  · rintro ⟨-, haccepted, -⟩ ⟨groups, values, hgroups, group, hmem, code, hhead, hstray⟩
    rw [(hvalues values).2 ⟨groups, hgroups⟩] at hends
    obtain ⟨groups', values', hgroups'⟩ := (haccepted t ht).1 hends.1
    rw [hgroups.groups_unique hgroups'] at hmem
    obtain ⟨v, hv⟩ : ∃ v, SetvcpGroup IsFeatureCode group v := by
      obtain ⟨n, hn, rfl⟩ := mem_iff_getElem.1 hmem
      exact ⟨_, List.Forall₂.get hgroups'.2 hn (hgroups'.2.length_eq ▸ hn)⟩
    cases hv with
    | absolute hcode =>
      cases hhead; exact not_denotes_of_stray hstray _ hcode
    | plus hcode =>
      cases hhead; exact not_denotes_of_stray hstray _ hcode
    | minus hcode =>
      cases hhead; exact not_denotes_of_stray hstray _ hcode
  · intro hstray
    have hcodes : ∀ {groups : List (List (List Byte))} {values : List ParsedSetvcpArgs},
        AreGroups TakenForCode args groups values → AreGroups IsFeatureCode args groups values := by
      intro groups values h
      refine h.imp fun g hmem code v hhead htaken => isFeatureCode_of_taken htaken ?_
      rw [← Bool.not_eq_true]; exact fun hs => hstray ⟨groups, values, h, g, hmem, code, hhead, hs⟩
    refine ⟨⟨t, ht⟩, fun s hs => ?_, fun s hs hok => ?_⟩
    · rw [ht] at hs
      cases hs
      cases hres : setvcpArgs args with
      | ok values =>
        rw [hres] at hends
        obtain ⟨groups, hgroups⟩ := (hvalues values).1 hres
        exact iff_of_true hends.1 ⟨groups, values, hcodes hgroups⟩
      | error msg =>
        rw [hres] at hends
        refine iff_of_false (by rw [hends.1]; exact Bool.false_ne_true) ?_
        rintro ⟨groups, values, hgroups⟩
        have hok := (hvalues values).2 ⟨groups, hgroups.imp fun _ _ _ _ _ h => taken_of_isFeatureCode h⟩
        rw [hres] at hok; cases hok
    · rw [ht] at hs
      cases hs
      cases hres : setvcpArgs args with
      | ok values =>
        rw [hres] at hends
        obtain ⟨groups, hgroups⟩ := (hvalues values).1 hres
        rw [hends.2.1]; exact ⟨groups, hcodes hgroups⟩
      | error msg =>
        rw [hres] at hends
        rw [hends.1] at hok; cases hok

end Ddc.Cmd
