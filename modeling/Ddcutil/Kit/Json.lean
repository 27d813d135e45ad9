import Mathlib.Data.List.TakeWhile
import Mathlib.Tactic.Common
/-!
# Json — the values of a JSON text, as C code builds and reads them

An object takes no member without a value, and a text that is not UTF-8 has no value; a member that is missing, or of
another kind, is read as 0 or as nothing.
-/
namespace Kit

open List

/-- **The values of a JSON text.**  Nothing here reads a real number. -/
inductive Json where
  | null
  | boolean (b : Bool)
  | integer (n : Int)
  | real
  | string (s : List UInt8)
  | array (elements : List Json)
  | object (members : List (String × Json))

def IsUtf8 (s : List UInt8) : Prop := s.toByteArray.IsValidUTF8

instance (s : List UInt8) : Decidable (IsUtf8 s) := inferInstanceAs (Decidable s.toByteArray.IsValidUTF8)

theorem utf8EncodeChar_ascii {c : UInt8} (h : c < 0x80) : String.utf8EncodeChar (Char.ofNat c.toNat) = [c] := by
  have hall : ∀ n < 0x80, String.utf8EncodeChar (Char.ofNat n) = [UInt8.ofNat n] := by decide
  have hc := hall c.toNat (UInt8.lt_iff_toNat_lt.1 h)
  rwa [UInt8.ofNat_toNat] at hc

theorem isUtf8_of_ascii {s : List UInt8} (h : ∀ c ∈ s, c < 0x80) : IsUtf8 s := by
  refine ⟨s.map fun c => Char.ofNat c.toNat, ?_⟩
  rw [List.utf8Encode, flatMap_map]
  congr 1
  induction s with
  | nil => rfl
  | cons c s ih =>
    rw [flatMap_cons, utf8EncodeChar_ascii (h c mem_cons_self),
      ← ih fun c' hc' => h c' (mem_cons_of_mem c hc')]
    rfl

namespace Json

def ofText (s : List UInt8) : Option Json := if IsUtf8 s then some (.string s) else none

def setMember (key : String) (value : Json) : List (String × Json) → List (String × Json)
  | [] => [(key, value)]
  | m :: members => if m.1 = key then (key, value) :: members else m :: setMember key value members

def setNew (members : List (String × Json)) (key : String) : Option Json → List (String × Json)
  | none => members
  | some value => setMember key value members

def get (j : Option Json) (key : String) : Option Json :=
  match j with
  | some (.object members) => members.lookup key
  | _ => none

def integerValue : Option Json → Int
  | some (.integer n) => n
  | _ => 0

def stringValue : Option Json → Option { s : List UInt8 // ∀ c ∈ s, c ≠ 0 }
  | some (.string s) =>
    some ⟨s.takeWhile (· != 0), fun _ hc => bne_iff_ne.1 (mem_takeWhile_imp (p := fun b => b != 0) hc)⟩
  | _ => none

def build (members : List (String × Option Json)) : Json :=
  .object (members.foldl (fun o m => setNew o m.1 m.2) [])

def isObject : Json → Bool
  | .object _ => true
  | _ => false

/-! ## What was set is read -/

theorem lookup_cons_eq (name : String) (value : Json) (members : List (String × Json)) (key : String) :
    List.lookup key ((name, value) :: members) = if key = name then some value else members.lookup key := by
  rw [lookup_cons]
  by_cases hkey : key = name
  · rw [beq_iff_eq.2 hkey, if_pos hkey]
  · rw [beq_eq_false_iff_ne.2 hkey, if_neg hkey]

theorem lookup_setMember (key k : String) (value : Json) (members : List (String × Json)) :
    (setMember key value members).lookup k = if k = key then some value else members.lookup k := by
  induction members with
  | nil =>
    rw [setMember, lookup_cons_eq]
  | cons m members ih =>
    obtain ⟨name, old⟩ := m
    rw [setMember]
    by_cases hname : name = key
    · rw [if_pos hname, lookup_cons_eq, lookup_cons_eq, hname]
      by_cases hk : k = key
      · rw [if_pos hk, if_pos hk]
      · rw [if_neg hk, if_neg hk, if_neg hk]
    · rw [if_neg hname, lookup_cons_eq, lookup_cons_eq, ih]
      by_cases hk : k = name
      · rw [if_pos hk, if_pos hk, if_neg (hk ▸ hname)]
      · rw [if_neg hk, if_neg hk]

theorem lookup_setNew (members : List (String × Json)) (key k : String) (value : Option Json) :
    (setNew members key value).lookup k = if k = key then value.or (members.lookup key) else members.lookup k := by
  cases value with
  | none =>
    rw [setNew, Option.none_or]; exact (ite_eq_right_iff.2 fun hk => by rw [hk]).symm
  | some value =>
    exact lookup_setMember key k value members

theorem lookup_foldl_setNew_of_notMem {members : List (String × Option Json)} {key : String}
    (h : key ∉ members.map Prod.fst) : ∀ o : List (String × Json),
    (members.foldl (fun o m => setNew o m.1 m.2) o).lookup key = o.lookup key := by
  induction members with
  | nil => exact fun o => rfl
  | cons m members ih =>
    intro o
    rw [map_cons, mem_cons, not_or] at h
    rw [foldl_cons, ih h.2, lookup_setNew, if_neg h.1]

theorem lookup_foldl_setNew {members : List (String × Option Json)} (hnodup : (members.map Prod.fst).Nodup) {key : String}
    {value : Option Json} (hmem : (key, value) ∈ members) : ∀ o : List (String × Json), o.lookup key = none →
    (members.foldl (fun o m => setNew o m.1 m.2) o).lookup key = value := by
  induction members with
  | nil => exact absurd hmem not_mem_nil
  | cons m members ih =>
    intro o ho
    rw [map_cons, nodup_cons] at hnodup
    rw [foldl_cons]
    rcases mem_cons.1 hmem with rfl | hmem
    · rw [lookup_foldl_setNew_of_notMem hnodup.1, lookup_setNew, if_pos rfl, ho, Option.or_none]
    · refine ih hnodup.2 hmem _ ?_
      have hne : key ≠ m.1 := by
        rintro rfl
        exact hnodup.1 (mem_map.2 ⟨_, hmem, rfl⟩)
      rw [lookup_setNew, if_neg hne, ho]

/-- **A member of an object that was built is read as its value**, where no two members have one name. -/
theorem get_build {members : List (String × Option Json)} {i : Nat} {key : String} {value : Option Json}
    (hnodup : (members.map Prod.fst).Nodup) (hmember : members[i]? = some (key, value)) :
    get (some (build members)) key = value :=
  lookup_foldl_setNew hnodup (mem_of_getElem? hmember) [] rfl

theorem stringValue_ofText (s : { s : List UInt8 // ∀ c ∈ s, c ≠ 0 }) :
    stringValue (ofText s.val) = if IsUtf8 s.val then some s else none := by
  unfold ofText
  by_cases hutf8 : IsUtf8 s.val
  · rw [if_pos hutf8, if_pos hutf8]
    exact congrArg some (Subtype.ext (takeWhile_eq_self_iff.2 fun c hc => bne_iff_ne.2 (s.property c hc)))
  · rw [if_neg hutf8, if_neg hutf8]; rfl

end Json

end Kit
