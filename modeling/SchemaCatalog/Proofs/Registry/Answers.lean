import SchemaCatalog.RegistryPath
import SchemaCatalog.Proofs.Json.Range
import SchemaCatalog.Proofs.Json.Values
import Mathlib.Tactic.SplitIfs

/-!
# Ids in answers of the registry

An answer is an object, in any spelling, and the id is its last member of the asked name.

* `RegistryPath.HoldsId`: which id an object holds.
* `RegistryPath.id_exact`: **an answer gives the id that its object holds and no other, and a text
  that is no object gives none**.
-/

namespace SchemaCatalog.Json

variable {name : String} {v : Json} {ms : List (String × Json)}

theorem lookupLast_eq_none_iff : lookupLast name ms = none ↔ ∀ m ∈ ms, m.1 ≠ name := by
  induction ms with
  | nil => simp [lookupLast]
  | cons m ms ih => simp [lookupLast, ih, and_comm]

theorem lookupLast_eq_some_iff : lookupLast name ms = some v ↔
    ∃ before after, ms = before ++ (name, v) :: after ∧ ∀ m ∈ after, m.1 ≠ name := by
  induction ms with
  | nil => simp [lookupLast]
  | cons m ms ih =>
    obtain ⟨n, w⟩ := m
    rw [lookupLast, Option.or_eq_some_iff, ih, lookupLast_eq_none_iff]
    constructor
    · rintro (⟨before, after, rfl, hlast⟩ | ⟨hlast, hfirst⟩)
      · exact ⟨(n, w) :: before, after, rfl, hlast⟩
      · split_ifs at hfirst with heq
        cases hfirst
        exact ⟨[], ms, by rw [heq, List.nil_append], hlast⟩
    · rintro ⟨before, after, heq, hlast⟩
      cases before with
      | nil =>
        cases heq
        exact .inr ⟨hlast, if_pos rfl⟩
      | cons m before =>
        cases heq
        exact .inl ⟨before, after, rfl, hlast⟩

end SchemaCatalog.Json

namespace SchemaCatalog.RegistryPath

open Json (Spells InRange Literal Quoted maxDepth)

variable {name body : String} {id : SchemaId} {ms : List (String × Json)}

/-- The last member called `name` is an integer without a sign, and `id` is its value. -/
def HoldsId (ms : List (String × Json)) (name : String) (id : SchemaId) : Prop :=
  ∃ before n after, ms = before ++ (name, Json.number (.natural n)) :: after ∧
    (∀ m ∈ after, m.1 ≠ name) ∧ n.toNat = id.val.toNat

theorem ofNat?_eq_some_iff {n : Nat} : SchemaId.ofNat? n = some id ↔ n = id.val.toNat := by
  refine ⟨fun h => (SchemaId.val_of_ofNat? h).symm, ?_⟩
  rintro rfl
  rw [SchemaId.ofNat?, if_pos id.val.toNat_lt, UInt32.ofNat_toNat]

theorem asUInt64?_eq_some_iff {v : Json} {n : UInt64} :
    v.asUInt64? = some n ↔ v = .number (.natural n) := by
  constructor
  · intro h
    unfold Json.asUInt64? at h
    split at h
    · cases h
      rfl
    · cases h
  · rintro rfl
    rfl

theorem idIn_of_object (h : Spells InRange maxDepth (.element (.object ms)) body.toList) :
    idIn body name = some id ↔ HoldsId ms name id := by
  rw [idIn, Json.parse_eq_some_iff.2 h]
  simp only [Json.member?, Option.bind_eq_bind, Option.bind_some, Option.bind_eq_some_iff,
    Json.lookupLast_eq_some_iff, asUInt64?_eq_some_iff, ofNat?_eq_some_iff]
  constructor
  · rintro ⟨_, ⟨before, after, hms, hlast⟩, n, rfl, hn⟩
    exact ⟨before, n, after, hms, hlast, hn⟩
  · rintro ⟨before, n, after, hms, hlast, hn⟩
    exact ⟨_, ⟨before, after, hms, hlast⟩, n, rfl, hn⟩

theorem exists_object_of_idIn (h : idIn body name = some id) :
    ∃ ms, Spells InRange maxDepth (.element (.object ms)) body.toList := by
  obtain ⟨v, hparse, h⟩ := Option.bind_eq_some_iff.1 h
  obtain ⟨_, hmember, -⟩ := Option.bind_eq_some_iff.1 h
  cases v with
  | object ms => exact ⟨ms, Json.parse_eq_some_iff.1 hparse⟩
  | _ => cases hmember

/-- **An answer gives the id that its object holds and no other.** The object may be spelled in any
way that the grammar has, as long as its numbers are in range. These are all up to
`Binary64.decimalBound` with an exponent below `2 ^ 31`. A text that spells no object gives none. -/
theorem id_exact (name body : String) :
    (∀ ms, Spells InRange maxDepth (.element (.object ms)) body.toList →
      ∀ id, idIn body name = some id ↔ HoldsId ms name id) ∧
    ((∀ ms, ¬Spells InRange maxDepth (.element (.object ms)) body.toList) →
      idIn body name = none) ∧
    ∀ l : Literal, l.magnitude ≤ Binary64.decimalBound → l.power ≤ 2147483647 → InRange l := by
  refine ⟨fun ms h id => idIn_of_object h, fun h => ?_,
    fun l hle hpower => Literal.inRange_of_magnitude_le hle hpower⟩
  refine Option.eq_none_iff_forall_ne_some.2 fun id hid => ?_
  obtain ⟨ms, hms⟩ := exists_object_of_idIn hid
  exact h ms hms

example : idIn " \x7b\"globalId\":-1, \"global\\u0049d\" : 7, \"x\":[1.5e3]\x7d\n" "globalId" =
    some ⟨7⟩ := by
  decide +kernel

/-! ## At the end of the range -/

/-- An object with a number near the end of the range before its id. -/
def nearEnd : String := "\x7b\"x\":17976931348623157000e289,\"globalId\":5\x7d"

def nearEndMembers : List (String × Json) :=
  [("x", .number (.real "17976931348623157000e289")), ("globalId", .number (.natural 5))]

theorem quoted_plain {cs : List Char}
    (h : cs.all fun c => decide (32 ≤ c.toNat ∧ c ≠ '"' ∧ c ≠ '\\')) : Quoted cs cs := by
  induction cs with
  | nil => exact .nil
  | cons c cs ih =>
    rw [List.all_cons, Bool.and_eq_true, decide_eq_true_iff] at h
    obtain ⟨⟨hprint, hquote, hback⟩, hcs⟩ := h
    exact .plain hprint hquote hback (ih hcs)

theorem key_plain
    (h : name.toList.all fun c => decide (32 ≤ c.toNat ∧ c ≠ '"' ∧ c ≠ '\\')) :
    Json.Key name ('"' :: (name.toList ++ '"' :: [':'])) := by
  have hkey := Json.Key.mk (a := []) (b := []) nofun (quoted_plain h) nofun
  rwa [String.ofList_toList] at hkey

theorem element_bare {ok : Literal → Prop} {d : Nat} {v : Json} {s : List Char}
    (h : Spells ok d (.value v) s) : Spells ok d (.element v) s := by
  have helement := Spells.element (a := []) (b := []) nofun h nofun
  rwa [List.nil_append, List.append_nil] at helement

theorem spelled_nearLargest : Json.Number.Spelled Literal.WithinDoubles
    (.real "17976931348623157000e289") "17976931348623157000e289".toList := by
  have hdigits (n : Nat) (c : Char) (hc : c ∈ Nat.toDigits 10 n) : c.isDigit = true :=
    Nat.isDigit_of_mem_toDigits (by omega) (by omega) hc
  have hliteral : Literal.nearLargest.Spelled
      (Nat.toDigits 10 17976931348623157000 ++ ([] ++ 'e' :: Nat.toDigits 10 289)) :=
    .unsigned (Json.whole_toDigits _) .absent
      (.unsigned (.inl rfl) ⟨Nat.toDigits_ne_nil, hdigits 289⟩)
  have hshown : Nat.toDigits 10 17976931348623157000 ++ ([] ++ 'e' :: Nat.toDigits 10 289) =
      "17976931348623157000e289".toList := by decide +kernel
  have htext : Literal.nearLargest.text = "17976931348623157000e289" := by decide +kernel
  rw [hshown] at hliteral
  rw [← htext]
  refine .real hliteral (fun n heq => ?_) (fun n _ _ heq => ?_) Literal.withinDoubles_nearLargest
  · have hmem : 'e' ∈ "17976931348623157000e289".toList := by decide +kernel
    exact absurd (hdigits _ _ (heq ▸ hmem)) (by decide)
  · have hhead : "17976931348623157000e289".toList.head? = some '1' := by decide +kernel
    rw [← htext, heq] at hhead
    exact absurd (Option.some.inj hhead) (by decide)

theorem spells_nearEnd :
    Spells Literal.WithinDoubles maxDepth (.element (.object nearEndMembers)) nearEnd.toList := by
  have hx : Json.Key "x" _ := key_plain (by decide +kernel)
  have hid : Json.Key "globalId" _ := key_plain (by decide +kernel)
  have hfive : Spells Literal.WithinDoubles 126 (.value (.number (.natural 5))) _ :=
    .number (.natural 5)
  have h := element_bare (.object (.member hx (element_bare (.number spelled_nearLargest))
    (.lastMember hid (element_bare hfive))))
  have hshown : nearEnd.toList =
      '\x7b' :: ('"' :: ("x".toList ++ ['"', ':']) ++ ("17976931348623157000e289".toList ++
        ',' :: ('"' :: ("globalId".toList ++ ['"', ':']) ++ Nat.toDigits 10 5)) ++ ['\x7d']) := by
    decide +kernel
  rw [hshown]
  exact h

/-- The largest double is not the end of the range: numbers short of it are refused, and with them
an object that holds an id. -/
theorem id_lost_near_largest :
    Spells Literal.WithinDoubles maxDepth (.element (.object nearEndMembers)) nearEnd.toList ∧
      HoldsId nearEndMembers "globalId" ⟨5⟩ ∧ idIn nearEnd "globalId" = none := by
  refine ⟨spells_nearEnd, ⟨[_], 5, [], rfl, nofun, rfl⟩, ?_⟩
  decide +kernel

end SchemaCatalog.RegistryPath
