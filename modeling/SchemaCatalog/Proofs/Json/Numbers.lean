import SchemaCatalog.Proofs.Json.Grammar
import Mathlib.Data.List.TakeWhile
import Mathlib.Tactic.IntervalCases
import Mathlib.Tactic.SplitIfs

/-!
# Reading numbers

A literal ends where no character can go on with it (`Json.NumberEnd`), and up to there it is read
in one way only. So a number is written as the literals that have it as their value.

* `Json.Literal.read_append`, `Json.Literal.spelled_of_read`: a literal is read as it is written.
* `Json.Literal.spelled_unique`: no text is written for two literals.
* `Json.spelled_iff`: the spellings of a number.
-/

namespace SchemaCatalog.Json

variable {s t r w rest : List Char}

/-! ## Runs of digits -/

/-- A text that does not go on with a digit. -/
def NoDigit (s : List Char) : Prop := ∀ c ∈ s.head?, c.isDigit = false

/-- A text that no number goes on with. -/
structure NumberEnd (s : List Char) : Prop where
  noDigit : NoDigit s
  noPoint : s.head? ≠ some '.'
  noExponent : s.head? ≠ some 'e' ∧ s.head? ≠ some 'E'

theorem takeWhile_digits (hs : ∀ c ∈ s, c.isDigit = true) (hr : NoDigit rest) :
    (s ++ rest).takeWhile Char.isDigit = s := by
  rw [List.takeWhile_append_of_pos hs]
  cases rest with
  | nil => exact List.append_nil s
  | cons c r => rw [List.takeWhile_cons_of_neg (by simp [hr c rfl]), List.append_nil]

theorem dropWhile_digits (hs : ∀ c ∈ s, c.isDigit = true) (hr : NoDigit rest) :
    (s ++ rest).dropWhile Char.isDigit = rest := by
  rw [List.dropWhile_append_of_pos hs]
  cases rest with
  | nil => rfl
  | cons c r => exact List.dropWhile_cons_of_neg (by simp [hr c rfl])

theorem digits_takeWhile (h : (s.takeWhile Char.isDigit).isEmpty = false) :
    Digits (s.takeWhile Char.isDigit) :=
  ⟨by simpa [List.isEmpty_eq_false_iff] using h, fun _ hc => List.mem_takeWhile_imp hc⟩

theorem isEmpty_of_digits (h : Digits s) : s.isEmpty = false :=
  List.isEmpty_eq_false_iff.2 h.1

theorem isDigit_of_append_eq_cons {c : Char} (h : Digits s) (heq : s ++ t = c :: r) :
    c.isDigit = true := by
  obtain ⟨d, ds, rfl⟩ := List.exists_cons_of_ne_nil h.1
  cases heq
  exact h.2 _ List.mem_cons_self

/-! ## The parts of a literal -/

namespace Literal

theorem readWhole_append (hw : Whole w) (hr : NoDigit rest) :
    readWhole (w ++ rest) = some (w, rest) := by
  cases hw with
  | zero =>
    cases rest with
    | nil => rfl
    | cons c r =>
      have hc : c.isDigit = false := hr c rfl
      simp [readWhole, hc]
  | @digits c s hc h =>
    rw [readWhole, takeWhile_digits h.2 hr, dropWhile_digits h.2 hr, isEmpty_of_digits h]
    · rfl
    · rintro r heq
      exact hc (List.cons.inj heq).1

theorem whole_of_readWhole (h : readWhole s = some (w, r)) : Whole w ∧ s = w ++ r := by
  revert h
  fun_cases readWhole s with
  | case1 => exact fun h => nomatch h
  | case2 rest =>
    rintro ⟨⟩
    exact ⟨.zero, rfl⟩
  | case3 => exact fun h => nomatch h
  | case4 s hzero hempty =>
    rintro ⟨⟩
    have hsplit : s = s.takeWhile Char.isDigit ++ s.dropWhile Char.isDigit :=
      List.takeWhile_append_dropWhile.symm
    have hdigits : Digits (s.takeWhile Char.isDigit) := digits_takeWhile (by simpa using hempty)
    refine ⟨?_, hsplit⟩
    obtain ⟨c, ds, heq⟩ := List.exists_cons_of_ne_nil hdigits.1
    rw [heq] at hsplit hdigits ⊢
    exact .digits (fun hc => hzero _ (hc ▸ hsplit)) hdigits

theorem readFraction_append {f : Option (List Char)} (hf : Fraction f s) (hr : NoDigit rest)
    (hdot : rest.head? ≠ some '.') : readFraction (s ++ rest) = some (f, rest) := by
  cases hf with
  | absent =>
    rw [List.nil_append, readFraction]
    rintro r rfl
    exact hdot rfl
  | present h =>
    rw [List.cons_append, readFraction, takeWhile_digits h.2 hr, dropWhile_digits h.2 hr,
      isEmpty_of_digits h]
    rfl

theorem fraction_of_readFraction {f : Option (List Char)} (h : readFraction s = some (f, r)) :
    ∃ w, Fraction f w ∧ s = w ++ r := by
  revert h
  fun_cases readFraction s with
  | case1 => exact fun h => nomatch h
  | case2 s hempty =>
    rintro ⟨⟩
    refine ⟨_, .present (digits_takeWhile (by simpa using hempty)), ?_⟩
    rw [List.cons_append, List.takeWhile_append_dropWhile]
  | case3 =>
    rintro ⟨⟩
    exact ⟨[], .absent, rfl⟩

theorem readExponentDigits_append (negative : Bool) (h : Digits s) (hr : NoDigit rest) :
    readExponentDigits negative (s ++ rest) = some (some (negative, s), rest) := by
  rw [readExponentDigits, takeWhile_digits h.2 hr, dropWhile_digits h.2 hr, isEmpty_of_digits h]
  rfl

theorem digits_of_readExponentDigits {negative : Bool} {x : Option (Bool × List Char)}
    (h : readExponentDigits negative s = some (x, r)) :
    ∃ w, Digits w ∧ x = some (negative, w) ∧ s = w ++ r := by
  rw [readExponentDigits] at h
  split_ifs at h with hempty
  cases h
  exact ⟨_, digits_takeWhile (by simpa using hempty), rfl, List.takeWhile_append_dropWhile.symm⟩

theorem readExponent_append {x : Option (Bool × List Char)} (hx : Exponent x s)
    (hr : NoDigit rest) (hend : rest.head? ≠ some 'e' ∧ rest.head? ≠ some 'E') :
    readExponent (s ++ rest) = some (x, rest) := by
  cases hx with
  | absent =>
    cases rest with
    | nil => rfl
    | cons c r =>
      simp only [List.head?_cons, ne_eq, Option.some.injEq] at hend
      simp [readExponent, hend]
  | unsigned he h =>
    rw [List.cons_append, readExponent, if_pos he, readExponentDigits_append _ h hr]
    · rintro r heq
      exact absurd (isDigit_of_append_eq_cons h heq) (by decide)
    · rintro r heq
      exact absurd (isDigit_of_append_eq_cons h heq) (by decide)
  | plus he h =>
    rw [List.cons_append, List.cons_append, readExponent, if_pos he,
      readExponentDigits_append _ h hr]
  | minus he h =>
    rw [List.cons_append, List.cons_append, readExponent, if_pos he,
      readExponentDigits_append _ h hr]

theorem exponent_of_readExponent {x : Option (Bool × List Char)}
    (h : readExponent s = some (x, r)) : ∃ w, Exponent x w ∧ s = w ++ r := by
  revert h
  fun_cases readExponent s with
  | case1 c he rest =>
    intro h
    obtain ⟨w, hw, rfl, rfl⟩ := digits_of_readExponentDigits h
    exact ⟨_, .plus he hw, rfl⟩
  | case2 c he rest =>
    intro h
    obtain ⟨w, hw, rfl, rfl⟩ := digits_of_readExponentDigits h
    exact ⟨_, .minus he hw, rfl⟩
  | case3 c he rest =>
    intro h
    obtain ⟨w, hw, rfl, rfl⟩ := digits_of_readExponentDigits h
    exact ⟨_, .unsigned he hw, rfl⟩
  | case4 =>
    rintro ⟨⟩
    exact ⟨[], .absent, rfl⟩
  | case5 =>
    rintro ⟨⟩
    exact ⟨[], .absent, rfl⟩

/-! ## Literals -/

theorem noDigit_exponent {x : Option (Bool × List Char)} (hx : Exponent x t) (hr : NumberEnd rest) :
    NoDigit (t ++ rest) ∧ (t ++ rest).head? ≠ some '.' := by
  cases hx with
  | absent => exact ⟨hr.noDigit, hr.noPoint⟩
  | unsigned he | plus he | minus he => obtain rfl | rfl := he <;> simp [NoDigit]

theorem noDigit_fraction {f : Option (List Char)} (hf : Fraction f s) (hr : NoDigit rest) :
    NoDigit (s ++ rest) := by
  cases hf with
  | absent => exact hr
  | present => simp [NoDigit]

/-- Reads a literal after its sign. -/
def readUnsigned (negative : Bool) (s : List Char) : Option (Literal × List Char) := do
  let (whole, s) ← readWhole s
  let (fraction, s) ← readFraction s
  let (exponent, s) ← readExponent s
  return (⟨negative, whole, fraction, exponent⟩, s)

theorem read_minus (s : List Char) : read ('-' :: s) = readUnsigned true s := rfl

theorem read_unsigned (h : s.head? ≠ some '-') : read s = readUnsigned false s := by
  rw [read]
  · rfl
  · rintro r rfl
    exact h rfl

theorem readUnsigned_append {f : Option (List Char)} {x : Option (Bool × List Char)}
    (negative : Bool) (hw : Whole w) (hf : Fraction f s) (hx : Exponent x t)
    (hr : NumberEnd rest) :
    readUnsigned negative (w ++ (s ++ (t ++ rest))) = some (⟨negative, w, f, x⟩, rest) := by
  obtain ⟨hdigit, hpoint⟩ := noDigit_exponent hx hr
  simp only [readUnsigned, readWhole_append hw (noDigit_fraction hf hdigit),
    readFraction_append hf hdigit hpoint, readExponent_append hx hr.noDigit hr.noExponent,
    Option.bind_eq_bind, Option.bind_some, Option.pure_def]

theorem of_readUnsigned {negative : Bool} {l : Literal}
    (h : readUnsigned negative s = some (l, r)) :
    ∃ w f x v t, Whole w ∧ Fraction f v ∧ Exponent x t ∧ l = ⟨negative, w, f, x⟩ ∧
      s = w ++ (v ++ (t ++ r)) := by
  simp only [readUnsigned, Option.bind_eq_bind, Option.bind_eq_some_iff, Prod.exists,
    Option.pure_def, Option.some.injEq, Prod.mk.injEq] at h
  obtain ⟨w, s₁, hwhole, f, s₂, hfraction, x, s₃, hexponent, rfl, rfl⟩ := h
  obtain ⟨hw, rfl⟩ := whole_of_readWhole hwhole
  obtain ⟨v, hf, rfl⟩ := fraction_of_readFraction hfraction
  obtain ⟨t, hx, rfl⟩ := exponent_of_readExponent hexponent
  exact ⟨w, f, x, v, t, hw, hf, hx, rfl, rfl⟩

theorem isDigit_of_whole {c : Char} (hw : Whole w) (hc : (w ++ t).head? = some c) :
    c.isDigit = true := by
  cases hw with
  | zero =>
    cases hc
    rfl
  | digits _ h =>
    cases hc
    exact h.2 _ List.mem_cons_self

theorem read_append {l : Literal} (hl : l.Spelled s) (hr : NumberEnd rest) :
    read (s ++ rest) = some (l, rest) := by
  cases hl with
  | unsigned hw hf hx =>
    rw [List.append_assoc, List.append_assoc, read_unsigned, readUnsigned_append _ hw hf hx hr]
    intro hminus
    exact absurd (isDigit_of_whole hw hminus) (by decide)
  | minus hw hf hx =>
    rw [List.cons_append, List.append_assoc, List.append_assoc, read_minus,
      readUnsigned_append _ hw hf hx hr]

theorem exists_cons_of_spelled {l : Literal} (hl : l.Spelled s) :
    ∃ c t, s = c :: t ∧ (c = '-' ∨ c.isDigit = true) := by
  cases hl with
  | unsigned hw =>
    cases hw with
    | zero => exact ⟨_, _, rfl, .inr rfl⟩
    | digits _ h => exact ⟨_, _, rfl, .inr (h.2 _ List.mem_cons_self)⟩
  | minus => exact ⟨_, _, rfl, .inl rfl⟩

theorem spelled_of_read {l : Literal} (h : read s = some (l, r)) :
    ∃ w, l.Spelled w ∧ s = w ++ r := by
  by_cases hminus : s.head? = some '-'
  · obtain ⟨s', rfl⟩ := List.head?_eq_some_iff.1 hminus
    rw [read_minus] at h
    obtain ⟨w, f, x, v, t, hw, hf, hx, rfl, rfl⟩ := of_readUnsigned h
    exact ⟨_, .minus hw hf hx, by simp⟩
  · rw [read_unsigned hminus] at h
    obtain ⟨w, f, x, v, t, hw, hf, hx, rfl, rfl⟩ := of_readUnsigned h
    exact ⟨_, .unsigned hw hf hx, by simp⟩

theorem spelled_unique {l l' : Literal} (h : l.Spelled s) (h' : l'.Spelled s) : l = l' := by
  have hend : NumberEnd [] := ⟨nofun, nofun, nofun, nofun⟩
  have hread := (read_append h hend).symm.trans (read_append h' hend)
  exact congrArg Prod.fst (Option.some.inj hread)

end Literal

/-! ## The values of literals -/

theorem head?_toDigits {n : Nat} (hn : 0 < n) : (Nat.toDigits 10 n).head? ≠ some '0' := by
  induction n using Nat.strongRecOn with
  | ind n ih =>
    by_cases hlt : n < 10
    · rw [Nat.toDigits_of_lt_base hlt]
      simpa using hn.ne'
    · rw [Nat.toDigits_of_base_le (by omega) (by omega), List.head?_append,
        List.head?_eq_some_head Nat.toDigits_ne_nil, Option.some_or,
        ← List.head?_eq_some_head Nat.toDigits_ne_nil]
      exact ih (n / 10) (by omega) (by omega)

theorem whole_toDigits (n : Nat) : Whole (Nat.toDigits 10 n) := by
  obtain rfl | hn := Nat.eq_zero_or_pos n
  · rw [Nat.toDigits_zero]
    exact .zero
  · have hdigit (c : Char) (hc : c ∈ Nat.toDigits 10 n) : c.isDigit = true :=
      Nat.isDigit_of_mem_toDigits (by omega) (by omega) hc
    have hhead := head?_toDigits hn
    obtain ⟨c, ds, heq⟩ := List.exists_cons_of_ne_nil (Nat.toDigits_ne_nil (n := n) (b := 10))
    rw [heq] at hdigit hhead ⊢
    exact .digits (by simpa using hhead) ⟨List.cons_ne_nil c ds, hdigit⟩

theorem digitChar_sub {c : Char} (hc : c.isDigit = true) :
    c.toNat - '0'.toNat < 10 ∧ (c.toNat - '0'.toNat).digitChar = c := by
  obtain ⟨hlo, hhi⟩ := Char.isDigit_iff_toNat.1 hc
  have hval : Char.ofNat c.toNat = c := Char.ofNat_toNat c
  rw [show '0'.toNat = 48 from rfl] at hlo ⊢
  rw [show '9'.toNat = 57 from rfl] at hhi
  refine ⟨by omega, ?_⟩
  rw [← hval]
  generalize c.toNat = n at hlo hhi
  interval_cases n <;> rfl

theorem toDigits_ofDigitChars {n : Nat} (hn : 0 < n) (hs : ∀ c ∈ s, c.isDigit = true) :
    Nat.toDigits 10 (Nat.ofDigitChars 10 s n) = Nat.toDigits 10 n ++ s := by
  induction s generalizing n with
  | nil => simp
  | cons c s ih =>
    obtain ⟨hc, hs⟩ := List.forall_mem_cons.1 hs
    obtain ⟨hlt, hchar⟩ := digitChar_sub hc
    rw [Nat.ofDigitChars_cons, ih (by omega) hs, ← Nat.toDigits_append_toDigits (by omega) hn hlt,
      Nat.toDigits_of_lt_base hlt, hchar, List.append_assoc, List.singleton_append]

theorem toDigits_of_whole (hw : Whole w) : Nat.toDigits 10 (Nat.ofDigitChars 10 w 0) = w := by
  cases hw with
  | zero => rfl
  | @digits c s hc h =>
    obtain ⟨hdigit, hs⟩ := List.forall_mem_cons.1 h.2
    obtain ⟨hlt, hchar⟩ := digitChar_sub hdigit
    have hpos : 0 < c.toNat - '0'.toNat := by
      refine Nat.pos_of_ne_zero fun hzero => hc ?_
      rw [← hchar, hzero]
      rfl
    rw [Nat.ofDigitChars_cons, Nat.mul_zero, Nat.zero_add, toDigits_ofDigitChars hpos hs,
      Nat.toDigits_of_lt_base hlt, hchar, List.singleton_append]

/-- The literal of an integer. -/
def Literal.integer (negative : Bool) (n : Nat) : Literal :=
  ⟨negative, Nat.toDigits 10 n, none, none⟩

theorem spelled_natural (n : Nat) : (Literal.integer false n).Spelled (Nat.toDigits 10 n) := by
  have h := Literal.Spelled.unsigned (whole_toDigits n) .absent .absent
  rwa [List.append_nil, List.append_nil] at h

theorem spelled_negative (n : Nat) :
    (Literal.integer true n).Spelled ('-' :: Nat.toDigits 10 n) := by
  have h := Literal.Spelled.minus (whole_toDigits n) .absent .absent
  rwa [List.append_nil, List.append_nil] at h

theorem eq_natural_of_spelled (hl : (⟨false, w, none, none⟩ : Literal).Spelled s) :
    s = Nat.toDigits 10 (Nat.ofDigitChars 10 w 0) := by
  cases hl with
  | unsigned hw hf hx =>
    cases hf
    cases hx
    rw [toDigits_of_whole hw, List.append_nil, List.append_nil]

theorem eq_negative_of_spelled (hl : (⟨true, w, none, none⟩ : Literal).Spelled s) :
    s = '-' :: Nat.toDigits 10 (Nat.ofDigitChars 10 w 0) := by
  cases hl with
  | minus hw hf hx =>
    cases hf
    cases hx
    rw [toDigits_of_whole hw, List.append_nil, List.append_nil]

theorem value?_natural (n : UInt64) :
    (Literal.integer false n.toNat).value? = some (.natural n) := by
  have hle : n.toNat ≤ Literal.maxSignificand := Nat.le_of_lt_succ n.toNat_lt
  rw [Literal.value?, Literal.integer, Nat.ofDigitChars_ten_toDigits, UInt64.ofNat_toNat]
  exact if_pos ⟨rfl, rfl, rfl, hle⟩

theorem value?_negative {n : Nat} (hpos : 1 ≤ n) (hle : n ≤ Nat.pow 2 63) :
    (Literal.integer true n).value? = some (.negative n) := by
  rw [Literal.value?, Literal.integer, Nat.ofDigitChars_ten_toDigits,
    if_neg (fun h => Bool.noConfusion h.2.2.1)]
  exact if_pos ⟨rfl, rfl, rfl, by omega, hle⟩

/-- A literal that the reader counts as within the range of doubles. -/
def InRange (l : Literal) : Prop := l.inRange = true

theorem value?_real {l : Literal} (hl : l.Spelled s)
    (hnat : ∀ n : UInt64, s ≠ Nat.toDigits 10 n.toNat)
    (hneg : ∀ n, 1 ≤ n → n ≤ Nat.pow 2 63 → s ≠ '-' :: Nat.toDigits 10 n) :
    l.value? = if l.inRange then some (.real l.text) else none := by
  obtain ⟨negative, w, f, x⟩ := l
  rw [Literal.value?, if_neg, if_neg]
  · rintro ⟨hf, hx, rfl, hne, hle⟩
    obtain rfl := Option.isNone_iff_eq_none.1 hf
    obtain rfl := Option.isNone_iff_eq_none.1 hx
    exact hneg _ (Nat.one_le_iff_ne_zero.2 hne) hle (eq_negative_of_spelled hl)
  · rintro ⟨hf, hx, rfl, hle⟩
    obtain rfl := Option.isNone_iff_eq_none.1 hf
    obtain rfl := Option.isNone_iff_eq_none.1 hx
    refine hnat (UInt64.ofNat (Nat.ofDigitChars 10 w 0)) ?_
    rw [UInt64.toNat_ofNat_of_lt' (Nat.lt_succ_of_le hle)]
    exact eq_natural_of_spelled hl

/-- A number is written as the literals that have it as their value. -/
theorem spelled_iff {n : Number} :
    n.Spelled InRange s ↔ ∃ l : Literal, l.Spelled s ∧ l.value? = some n := by
  constructor
  · rintro (n | ⟨hpos, hle⟩ | ⟨hl, hnat, hneg, hok⟩)
    · exact ⟨_, spelled_natural n.toNat, value?_natural n⟩
    · exact ⟨_, spelled_negative _, value?_negative hpos hle⟩
    · exact ⟨_, hl, (value?_real hl hnat hneg).trans (if_pos hok)⟩
  · rintro ⟨l, hl, hv⟩
    by_cases hnat : ∃ n : UInt64, s = Nat.toDigits 10 n.toNat
    · obtain ⟨m, rfl⟩ := hnat
      rw [Literal.spelled_unique hl (spelled_natural m.toNat), value?_natural] at hv
      cases hv
      exact .natural m
    by_cases hneg : ∃ n, 1 ≤ n ∧ n ≤ Nat.pow 2 63 ∧ s = '-' :: Nat.toDigits 10 n
    · obtain ⟨m, hpos, hle, rfl⟩ := hneg
      rw [Literal.spelled_unique hl (spelled_negative m), value?_negative hpos hle] at hv
      cases hv
      exact .negative hpos hle
    · simp only [not_exists, not_and] at hnat hneg
      rw [value?_real hl hnat hneg] at hv
      split_ifs at hv with hok
      cases hv
      exact .real hl hnat hneg hok

end SchemaCatalog.Json
