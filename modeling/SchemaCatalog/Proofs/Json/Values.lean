import SchemaCatalog.Proofs.Json.Texts
import SchemaCatalog.Proofs.Json.Numbers
import Mathlib.Data.List.DropRight

/-!
# Reading values

A value is read wherever the grammar writes it, and nowhere else. What follows decides where a
number ends, so a value on its own is read in front of any text that no number goes on with
(`Json.NumberEnd`), and one with blanks around it in front of a comma or a closing bracket
(`Json.Closing`).

* `Json.reads_of_spells`: what the grammar writes is read, whatever comes after it.
* `Json.sound`: what is read is written by the grammar.
* `Json.parse_eq_some_iff`: **a whole text is read as the value it is written for**.
-/

namespace SchemaCatalog.Json

variable {fuel d : Nat} {s t r b : List Char} {v : Json} {vs : List Json}
  {ms : List (String × Json)}

theorem enclosed_append (a z : Char) (s r : List Char) :
    a :: (s ++ [z]) ++ r = a :: (s ++ z :: r) := by
  rw [List.cons_append, List.append_assoc, List.singleton_append]

/-! ## One step of a reader -/

theorem skipBlanks_skipBlanks (s : List Char) : skipBlanks (skipBlanks s) = skipBlanks s :=
  List.dropWhile_idempotent isBlank s

theorem readValue_skipBlanks (s : List Char) :
    readValue fuel d (skipBlanks s) = readValue fuel d s := by
  cases fuel with
  | zero => rfl
  | succ fuel => rw [readValue, readValue, skipBlanks_skipBlanks]

theorem readItems_skipBlanks (s : List Char) :
    readItems fuel d (skipBlanks s) = readItems fuel d s := by
  cases fuel with
  | zero => rfl
  | succ fuel => rw [readItems, readItems, readValue_skipBlanks]

theorem readMembers_skipBlanks (s : List Char) :
    readMembers fuel d (skipBlanks s) = readMembers fuel d s := by
  cases fuel with
  | zero => rfl
  | succ fuel => rw [readMembers, readMembers, skipBlanks_skipBlanks]

theorem readItems_bracket (s : List Char) : readItems fuel d (']' :: s) = none := by
  cases fuel with
  | zero => rfl
  | succ fuel =>
    cases fuel with
    | zero => rfl
    | succ fuel => rfl

theorem readMembers_brace (s : List Char) : readMembers fuel d ('\x7d' :: s) = none := by
  cases fuel with
  | zero => rfl
  | succ fuel => rfl

theorem readValue_string (s : List Char) :
    readValue (fuel + 1) d ('"' :: s) =
      (readString s).map fun q => (string (String.ofList q.1), q.2) := rfl

theorem readValue_null (s : List Char) :
    readValue (fuel + 1) d ('n' :: 'u' :: 'l' :: 'l' :: s) = some (null, s) := rfl

theorem readValue_true (s : List Char) :
    readValue (fuel + 1) d ('t' :: 'r' :: 'u' :: 'e' :: s) = some (bool true, s) := rfl

theorem readValue_false (s : List Char) :
    readValue (fuel + 1) d ('f' :: 'a' :: 'l' :: 's' :: 'e' :: s) = some (bool false, s) := rfl

theorem readValue_bracket (s : List Char) :
    readValue (fuel + 1) (d + 1) ('[' :: s) =
      match skipBlanks s with
      | ']' :: rest => some (array [], rest)
      | rest => (readItems fuel d rest).map fun q => (array q.1, q.2) := rfl

theorem readValue_brace (s : List Char) :
    readValue (fuel + 1) (d + 1) ('\x7b' :: s) =
      match skipBlanks s with
      | '\x7d' :: rest => some (object [], rest)
      | rest => (readMembers fuel d rest).map fun q => (object q.1, q.2) := rfl

theorem readValue_emptyArray (hb : Blank b) (s : List Char) :
    readValue (fuel + 1) (d + 1) ('[' :: (b ++ ']' :: s)) = some (array [], s) := by
  rw [readValue_bracket, skipBlanks_append hb]
  rfl

theorem readValue_array (h : readItems fuel d s = some (vs, r)) :
    readValue (fuel + 1) (d + 1) ('[' :: s) = some (array vs, r) := by
  rw [readValue_bracket]
  split
  · next heq =>
    rw [← readItems_skipBlanks, heq, readItems_bracket] at h
    cases h
  · rw [readItems_skipBlanks, h, Option.map_some]

theorem readValue_emptyObject (hb : Blank b) (s : List Char) :
    readValue (fuel + 1) (d + 1) ('\x7b' :: (b ++ '\x7d' :: s)) = some (object [], s) := by
  rw [readValue_brace, skipBlanks_append hb]
  rfl

theorem readValue_object (h : readMembers fuel d s = some (ms, r)) :
    readValue (fuel + 1) (d + 1) ('\x7b' :: s) = some (object ms, r) := by
  rw [readValue_brace]
  split
  · next heq =>
    rw [← readMembers_skipBlanks, heq, readMembers_brace] at h
    cases h
  · rw [readMembers_skipBlanks, h, Option.map_some]

theorem readValue_number {l : Literal} {n : Number} (hs : l.Spelled s) (hn : l.value? = some n)
    (hr : NumberEnd r) : readValue (fuel + 1) d (s ++ r) = some (number n, r) := by
  obtain ⟨c, s, rfl, hc⟩ := Literal.exists_cons_of_spelled hs
  have hblank : isBlank c = false := by
    refine Bool.eq_false_iff.2 fun hb => ?_
    have hmem := isBlank_iff.1 hb
    simp only [List.mem_cons, List.not_mem_nil, or_false] at hmem
    obtain rfl | rfl | rfl | rfl := hmem <;> exact absurd hc (by decide)
  have hread := Literal.read_append hs hr
  rw [List.cons_append] at hread ⊢
  rw [readValue, skipBlanks_cons hblank]
  split
  case h_1 heq => cases heq
  case h_8 =>
    rw [hread]
    simp only [hn, Option.bind_eq_bind, Option.bind_some, Option.pure_def]
  all_goals
    next heq =>
    cases heq
    exact absurd hc (by decide)

theorem readItems_succ (s : List Char) :
    readItems (fuel + 1) d s = (readValue fuel d s).bind fun q =>
      match skipBlanks q.2 with
      | ']' :: rest => some ([q.1], rest)
      | ',' :: rest => (readItems fuel d rest).bind fun p => some (q.1 :: p.1, p.2)
      | _ => none := rfl

theorem readItems_last (h : readValue fuel d s = some (v, b ++ ']' :: r)) (hb : Blank b) :
    readItems (fuel + 1) d s = some ([v], r) := by
  rw [readItems_succ, h, Option.bind_some, skipBlanks_append hb]
  rfl

theorem readItems_cons (h : readValue fuel d s = some (v, b ++ ',' :: t)) (hb : Blank b)
    (ht : readItems fuel d t = some (vs, r)) : readItems (fuel + 1) d s = some (v :: vs, r) := by
  rw [readItems_succ, h, Option.bind_some, skipBlanks_append hb]
  show (readItems fuel d t).bind _ = _
  rw [ht, Option.bind_some]

/-- What the reader of members does after a name and its colon. -/
def readMember (fuel d : Nat) (name : String) (s : List Char) :
    Option (List (String × Json) × List Char) :=
  (readValue fuel d s).bind fun q =>
    match skipBlanks q.2 with
    | '\x7d' :: rest => some ([(name, q.1)], rest)
    | ',' :: rest => (readMembers fuel d rest).bind fun p => some ((name, q.1) :: p.1, p.2)
    | _ => none

theorem readMembers_quote (s : List Char) :
    readMembers (fuel + 1) d ('"' :: s) = (readString s).bind fun q =>
      match skipBlanks q.2 with
      | ':' :: rest => readMember fuel d (String.ofList q.1) rest
      | _ => none := rfl

theorem readMembers_key {name : String} (hk : Key name t) (s : List Char) :
    readMembers (fuel + 1) d (t ++ s) = readMember fuel d name s := by
  obtain ⟨ha, hs, hb⟩ := hk
  simp only [List.append_assoc, List.cons_append, List.nil_append]
  rw [← readMembers_skipBlanks, skipBlanks_append ha, readMembers_skipBlanks, readMembers_quote,
    readString_of_quoted hs, Option.bind_some, skipBlanks_append hb]
  rfl

theorem readMember_last {name : String} (h : readValue fuel d s = some (v, b ++ '\x7d' :: r))
    (hb : Blank b) : readMember fuel d name s = some ([(name, v)], r) := by
  rw [readMember, h, Option.bind_some, skipBlanks_append hb]
  rfl

theorem readMember_cons {name : String} (h : readValue fuel d s = some (v, b ++ ',' :: t))
    (hb : Blank b) (ht : readMembers fuel d t = some (ms, r)) :
    readMember fuel d name s = some ((name, v) :: ms, r) := by
  rw [readMember, h, Option.bind_some, skipBlanks_append hb]
  show (readMembers fuel d t).bind _ = _
  rw [ht, Option.bind_some]

/-! ## What the grammar writes is read -/

/-- What may stand after an element: nothing, a comma or a closing bracket. -/
def Closing (s : List Char) : Prop := ∀ c ∈ s.head?, c ∈ [',', ']', '\x7d']

theorem numberEnd_append (hb : Blank b) (hr : Closing r) : NumberEnd (b ++ r) := by
  have hhead (c : Char) (hc : (b ++ r).head? = some c) :
      c ∈ [' ', '\n', '\r', '\t', ',', ']', '\x7d'] := by
    cases b with
    | nil => exact List.mem_append_right [' ', '\n', '\r', '\t'] (hr c hc)
    | cons c' b =>
      cases hc
      exact List.mem_append_left [',', ']', '\x7d'] (hb _ List.mem_cons_self)
  refine ⟨fun c hc => ?_, fun hc => ?_, fun hc => ?_, fun hc => ?_⟩
  · have hmem := hhead c hc
    simp only [List.mem_cons, List.not_mem_nil, or_false] at hmem
    obtain rfl | rfl | rfl | rfl | rfl | rfl | rfl := hmem <;> rfl
  all_goals exact absurd (hhead _ hc) (by decide)

/-- How the reader takes the text `s` of a node, whatever comes after it. Each level and each item
takes two steps and at least one character, so twice the length is fuel enough. -/
def Reads (d : Nat) (s : List Char) : Node → Prop
  | .value v => ∀ fuel r, 2 * s.length ≤ fuel → NumberEnd r →
      readValue (fuel + 1) d (s ++ r) = some (v, r)
  | .element v => ∀ fuel r, 2 * s.length ≤ fuel → Closing r →
      ∃ b, Blank b ∧ readValue (fuel + 1) d (s ++ r) = some (v, b ++ r)
  | .items vs => ∀ fuel r, 2 * s.length ≤ fuel →
      readItems (fuel + 2) d (s ++ ']' :: r) = some (vs, r)
  | .members ms => ∀ fuel r, 2 * s.length ≤ fuel →
      readMembers (fuel + 2) d (s ++ '\x7d' :: r) = some (ms, r)

theorem reads_of_spells {n : Node} (h : Spells InRange d n s) : Reads d s n := by
  induction h with
  | null =>
    intro fuel r _ _
    exact readValue_null r
  | true =>
    intro fuel r _ _
    exact readValue_true r
  | false =>
    intro fuel r _ _
    exact readValue_false r
  | number h =>
    intro fuel r _ hr
    obtain ⟨l, hl, hv⟩ := spelled_iff.1 h
    exact readValue_number hl hv hr
  | string h =>
    intro fuel r _ _
    rw [enclosed_append, readValue_string, readString_of_quoted h, Option.map_some]
  | emptyArray hb =>
    intro fuel r _ _
    rw [enclosed_append]
    exact readValue_emptyArray hb r
  | array _ ih =>
    intro fuel r hfuel _
    rw [List.length_cons, List.length_append, List.length_singleton] at hfuel
    obtain ⟨fuel, rfl⟩ : ∃ f, fuel = f + 2 := ⟨fuel - 2, by omega⟩
    rw [enclosed_append]
    exact readValue_array (ih fuel r (by omega))
  | emptyObject hb =>
    intro fuel r _ _
    rw [enclosed_append]
    exact readValue_emptyObject hb r
  | object _ ih =>
    intro fuel r hfuel _
    rw [List.length_cons, List.length_append, List.length_singleton] at hfuel
    obtain ⟨fuel, rfl⟩ : ∃ f, fuel = f + 2 := ⟨fuel - 2, by omega⟩
    rw [enclosed_append]
    exact readValue_object (ih fuel r (by omega))
  | @element d v a s b ha _ hb ih =>
    intro fuel r hfuel hr
    rw [List.length_append, List.length_append] at hfuel
    refine ⟨b, hb, ?_⟩
    rw [List.append_assoc, List.append_assoc, ← readValue_skipBlanks, skipBlanks_append ha,
      readValue_skipBlanks]
    exact ih fuel (b ++ r) (by omega) (numberEnd_append hb hr)
  | lastItem _ ih =>
    intro fuel r hfuel
    obtain ⟨b, hb, hread⟩ := ih fuel (']' :: r) hfuel (by simp [Closing])
    exact readItems_last hread hb
  | @item d v vs s t _ _ ih iht =>
    intro fuel r hfuel
    rw [List.length_append, List.length_cons] at hfuel
    obtain ⟨b, hb, hread⟩ := ih fuel (',' :: (t ++ ']' :: r)) (by omega) (by simp [Closing])
    obtain ⟨fuel, rfl⟩ : ∃ f, fuel = f + 1 := ⟨fuel - 1, by omega⟩
    rw [List.append_assoc]
    exact readItems_cons hread hb (iht fuel r (by omega))
  | @lastMember d name v k s hk _ ih =>
    intro fuel r hfuel
    rw [List.length_append] at hfuel
    obtain ⟨b, hb, hread⟩ := ih fuel ('\x7d' :: r) (by omega) (by simp [Closing])
    rw [List.append_assoc, readMembers_key hk]
    exact readMember_last hread hb
  | @member d name v ms k s t hk _ _ ih iht =>
    intro fuel r hfuel
    rw [List.length_append, List.length_append, List.length_cons] at hfuel
    obtain ⟨b, hb, hread⟩ := ih fuel (',' :: (t ++ '\x7d' :: r)) (by omega) (by simp [Closing])
    obtain ⟨fuel, rfl⟩ : ∃ f, fuel = f + 1 := ⟨fuel - 1, by omega⟩
    rw [List.append_assoc, List.append_assoc, readMembers_key hk]
    exact readMember_cons hread hb (iht fuel r (by omega))

/-! ## What is read is written by the grammar -/

theorem eq_append_of_dropWord {w : List Char} (h : dropWord w s = some r) : s = w ++ r := by
  fun_induction dropWord w s with
  | case1 s =>
    cases h
    rfl
  | case2 w ws s ih => rw [ih h, List.cons_append]
  | case3 => cases h
  | case4 => cases h

theorem of_map_dropWord {w : List Char} {v' : Json}
    (h : (dropWord w s).map (fun t => (v, t)) = some (v', r)) : v = v' ∧ s = w ++ r := by
  obtain ⟨t, hword, heq⟩ := Option.map_eq_some_iff.1 h
  cases heq
  exact ⟨rfl, eq_append_of_dropWord hword⟩

/-- What the readers take with so much fuel is written by the grammar. -/
structure Sound (fuel : Nat) : Prop where
  value {d : Nat} {s r : List Char} {v : Json} (h : readValue fuel d s = some (v, r)) :
    ∃ b w, Blank b ∧ Spells InRange d (.value v) w ∧ s = b ++ (w ++ r)
  items {d : Nat} {s r : List Char} {vs : List Json} (h : readItems fuel d s = some (vs, r)) :
    ∃ w, Spells InRange d (.items vs) w ∧ s = w ++ ']' :: r
  members {d : Nat} {s r : List Char} {ms : List (String × Json)}
    (h : readMembers fuel d s = some (ms, r)) :
    ∃ w, Spells InRange d (.members ms) w ∧ s = w ++ '\x7d' :: r

theorem Sound.element (hsound : Sound fuel) (h : readValue fuel d s = some (v, r)) :
    ∃ w, Spells InRange d (.element v) w ∧ s = w ++ skipBlanks r := by
  obtain ⟨a, w, ha, hw, rfl⟩ := hsound.value h
  obtain ⟨b, hb, hr⟩ := exists_blank r
  refine ⟨_, .element ha hw hb, ?_⟩
  rw [List.append_assoc, List.append_assoc, ← hr]

theorem exists_spells_of_readArray (hsound : Sound fuel)
    (h : readValue (fuel + 1) d ('[' :: s) = some (v, r)) :
    ∃ w, Spells InRange d (.value v) w ∧ '[' :: s = w ++ r := by
  cases d with
  | zero => cases h
  | succ d =>
    rw [readValue_bracket] at h
    split at h
    · next rest heq =>
      cases h
      obtain ⟨b, hb, hs⟩ := exists_blank s
      refine ⟨_, .emptyArray hb, ?_⟩
      rw [enclosed_append, ← heq, ← hs]
    · rw [readItems_skipBlanks] at h
      obtain ⟨⟨vs, r'⟩, hread, heq⟩ := Option.map_eq_some_iff.1 h
      cases heq
      obtain ⟨w, hw, rfl⟩ := hsound.items hread
      exact ⟨_, .array hw, (enclosed_append ..).symm⟩

theorem exists_spells_of_readObject (hsound : Sound fuel)
    (h : readValue (fuel + 1) d ('\x7b' :: s) = some (v, r)) :
    ∃ w, Spells InRange d (.value v) w ∧ '\x7b' :: s = w ++ r := by
  cases d with
  | zero => cases h
  | succ d =>
    rw [readValue_brace] at h
    split at h
    · next rest heq =>
      cases h
      obtain ⟨b, hb, hs⟩ := exists_blank s
      refine ⟨_, .emptyObject hb, ?_⟩
      rw [enclosed_append, ← heq, ← hs]
    · rw [readMembers_skipBlanks] at h
      obtain ⟨⟨ms, r'⟩, hread, heq⟩ := Option.map_eq_some_iff.1 h
      cases heq
      obtain ⟨w, hw, rfl⟩ := hsound.members hread
      exact ⟨_, .object hw, (enclosed_append ..).symm⟩

theorem exists_spells_of_readValue (hsound : Sound fuel)
    (h : readValue (fuel + 1) d s = some (v, r)) :
    ∃ b w, Blank b ∧ Spells InRange d (.value v) w ∧ s = b ++ (w ++ r) := by
  obtain ⟨b, hb, hs⟩ := exists_blank s
  suffices hw : ∃ w, Spells InRange d (.value v) w ∧ skipBlanks s = w ++ r by
    obtain ⟨w, hw, heq⟩ := hw
    exact ⟨b, w, hb, hw, heq ▸ hs⟩
  rw [readValue] at h
  generalize skipBlanks s = t at h
  split at h
  · cases h
  · obtain ⟨⟨cs, r'⟩, hread, heq⟩ := Option.map_eq_some_iff.1 h
    cases heq
    obtain ⟨w, hw, rfl⟩ := quoted_of_readString hread
    exact ⟨_, .string hw, (enclosed_append ..).symm⟩
  · exact exists_spells_of_readArray hsound h
  · exact exists_spells_of_readObject hsound h
  · obtain ⟨rfl, rfl⟩ := of_map_dropWord h
    exact ⟨_, .null, rfl⟩
  · obtain ⟨rfl, rfl⟩ := of_map_dropWord h
    exact ⟨_, .true, rfl⟩
  · obtain ⟨rfl, rfl⟩ := of_map_dropWord h
    exact ⟨_, .false, rfl⟩
  · simp only [Option.bind_eq_bind, Option.bind_eq_some_iff, Prod.exists, Option.pure_def,
      Option.some.injEq, Prod.mk.injEq] at h
    obtain ⟨l, r', hread, n, hn, rfl, rfl⟩ := h
    obtain ⟨w, hw, rfl⟩ := Literal.spelled_of_read hread
    exact ⟨w, .number (spelled_iff.2 ⟨l, hw, hn⟩), rfl⟩

theorem exists_spells_of_readItems (hsound : Sound fuel)
    (h : readItems (fuel + 1) d s = some (vs, r)) :
    ∃ w, Spells InRange d (.items vs) w ∧ s = w ++ ']' :: r := by
  obtain ⟨⟨v, t⟩, hread, hnext⟩ := Option.bind_eq_some_iff.1 (readItems_succ s ▸ h)
  obtain ⟨w, hw, rfl⟩ := hsound.element hread
  split at hnext
  · next rest heq =>
    cases hnext
    exact ⟨w, .lastItem hw, by rw [heq]⟩
  · next rest heq =>
    obtain ⟨⟨vs', r'⟩, hrest, heq'⟩ := Option.bind_eq_some_iff.1 hnext
    cases heq'
    obtain ⟨w', hw', rfl⟩ := hsound.items hrest
    exact ⟨_, .item hw hw', by rw [heq, List.append_assoc, List.cons_append]⟩
  · cases hnext

theorem exists_spells_of_readMember {name : String} {k : List Char} (hsound : Sound fuel)
    (hk : Key name k) (h : readMember fuel d name s = some (ms, r)) :
    ∃ w, Spells InRange d (.members ms) (k ++ w) ∧ s = w ++ '\x7d' :: r := by
  obtain ⟨⟨v, t⟩, hread, hnext⟩ := Option.bind_eq_some_iff.1 h
  obtain ⟨w, hw, rfl⟩ := hsound.element hread
  split at hnext
  · next rest heq =>
    cases hnext
    exact ⟨w, .lastMember hk hw, by rw [heq]⟩
  · next rest heq =>
    obtain ⟨⟨ms', r'⟩, hrest, heq'⟩ := Option.bind_eq_some_iff.1 hnext
    cases heq'
    obtain ⟨w', hw', rfl⟩ := hsound.members hrest
    exact ⟨_, .member hk hw hw', by rw [heq, List.append_assoc, List.cons_append]⟩
  · cases hnext

theorem exists_spells_of_readMembers (hsound : Sound fuel)
    (h : readMembers (fuel + 1) d s = some (ms, r)) :
    ∃ w, Spells InRange d (.members ms) w ∧ s = w ++ '\x7d' :: r := by
  obtain ⟨a, ha, hs⟩ := exists_blank s
  rw [readMembers] at h
  generalize skipBlanks s = t at h hs
  subst hs
  split at h
  · next t =>
    change readMembers (fuel + 1) d ('"' :: t) = some (ms, r) at h
    rw [readMembers_quote] at h
    obtain ⟨⟨cs, t'⟩, hread, hnext⟩ := Option.bind_eq_some_iff.1 h
    obtain ⟨w, hw, rfl⟩ := quoted_of_readString hread
    split at hnext
    · next rest heq =>
      obtain ⟨b, hb, ht'⟩ := exists_blank t'
      obtain ⟨w', hw', rfl⟩ := exists_spells_of_readMember hsound (.mk ha hw hb) hnext
      refine ⟨_, hw', ?_⟩
      rw [ht', heq]
      simp only [List.append_assoc, List.cons_append, List.nil_append]
    · cases hnext
  · cases h

theorem sound (fuel : Nat) : Sound fuel := by
  induction fuel with
  | zero => exact ⟨nofun, nofun, nofun⟩
  | succ fuel ih =>
    exact ⟨exists_spells_of_readValue ih, exists_spells_of_readItems ih,
      exists_spells_of_readMembers ih⟩

/-! ## Whole texts -/

/-- **A text is read as the value it is written for**, and a text that is written for none is
refused. -/
theorem parse_eq_some_iff : parse s = some v ↔ Spells InRange maxDepth (.element v) s := by
  constructor
  · intro h
    obtain ⟨⟨v', r⟩, hread, hend⟩ := Option.bind_eq_some_iff.1 h
    change (if (skipBlanks r).isEmpty then some v' else none) = some v at hend
    split_ifs at hend with hempty
    cases hend
    obtain ⟨w, hw, heq⟩ := (sound _).element hread
    rw [List.isEmpty_iff.1 hempty, List.append_nil] at heq
    exact heq ▸ hw
  · intro h
    obtain ⟨b, hb, hread⟩ := reads_of_spells h (2 * s.length + 1) [] (by omega) nofun
    rw [List.append_nil, List.append_nil] at hread
    have hend : skipBlanks b = [] := List.dropWhile_eq_nil_iff.2 fun c hc => isBlank_iff.2 (hb c hc)
    rw [parse, hread, Option.bind_eq_bind, Option.bind_some]
    exact if_pos (List.isEmpty_iff.2 hend)

end SchemaCatalog.Json
