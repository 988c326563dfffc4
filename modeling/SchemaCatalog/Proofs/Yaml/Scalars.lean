import SchemaCatalog.Yaml.Plain
import SchemaCatalog.Yaml.Quoted
import Mathlib.Data.List.TakeWhile

/-!
# Scalars of one line

* `Yaml.IsPrintable`: a visible character of ASCII, or a space.
* `Yaml.IsWord`: a text that needs no quotes. `Yaml.readPlain_key`, `Yaml.readPlain_line`,
  `Yaml.readPlain_end`: it is read as it stands, in front of a colon and at the end of a line.
* `Yaml.Quotable`: a text that needs no escapes between double quotes.
* **`Yaml.readDoubleQuoted_of_quotable`**: it is read as it stands, too.
-/

namespace SchemaCatalog.Yaml

variable {s rest : List Char} {x : Char} {c : Cursor} {g : Gap} {margin fuel : Nat}

/-! ## Characters -/

/-- A visible character of ASCII, or a space. -/
def IsPrintable (x : Char) : Prop := 0x20 ≤ x.toNat ∧ x.toNat ≤ 0x7E

instance (x : Char) : Decidable (IsPrintable x) :=
  inferInstanceAs (Decidable (0x20 ≤ x.toNat ∧ x.toNat ≤ 0x7E))

theorem isBreak_of_isPrintable (hx : IsPrintable x) : isBreak x = false := by
  obtain ⟨hfirst, hlast⟩ := hx
  have hfeed : x ≠ '\n' := by
    rintro rfl
    exact absurd hfirst (by decide)
  have hreturn : x ≠ '\r' := by
    rintro rfl
    exact absurd hfirst (by decide)
  have hnext : x.toNat ≠ 0x85 ∧ x.toNat ≠ 0x2028 ∧ x.toNat ≠ 0x2029 := by omega
  simp [isBreak, hfeed, hreturn, hnext]

theorem isAllowed_of_isPrintable (hx : IsPrintable x) : isAllowed x = true := by
  simp [isAllowed, hx.1, hx.2]

/-! ## Words -/

/-- A letter, a digit or an underscore. -/
def isSimple (x : Char) : Bool := x.isAlphanum || x = '_'

/-- A text without quotes that is nothing but a text. -/
structure IsWord (s : List Char) : Prop where
  ne_nil : s ≠ []
  simple : ∀ x ∈ s, isSimple x = true

instance (s : List Char) : Decidable (IsWord s) :=
  decidable_of_iff (s ≠ [] ∧ s.all isSimple = true)
    ⟨fun h => ⟨h.1, List.all_eq_true.1 h.2⟩, fun h => ⟨h.ne_nil, List.all_eq_true.2 h.simple⟩⟩

theorem ne_of_isSimple {y : Char} (hx : isSimple x = true) (hy : isSimple y = false) : x ≠ y := by
  rintro rfl
  rw [hx] at hy
  cases hy

theorem isBlank_of_isSimple (hx : isSimple x = true) : isBlank x = false := by
  have hspace : x ≠ ' ' := ne_of_isSimple hx (by decide)
  have htab : x ≠ '\t' := ne_of_isSimple hx (by decide)
  simp [isBlank, hspace, htab]

theorem isPrintable_of_isSimple (hx : isSimple x = true) : IsPrintable x := by
  have hranges : (((decide (x.val ≥ 'A'.val ∧ x.val ≤ 'Z'.val) ||
      (decide (x.val ≥ 'a'.val) && decide (x.val ≤ 'z'.val))) ||
      (decide (x.val ≥ '0'.val) && decide (x.val ≤ '9'.val))) || decide (x = '_')) = true := hx
  simp only [ge_iff_le, UInt32.le_iff_toNat_le, Bool.or_eq_true, Bool.and_eq_true,
    decide_eq_true_eq] at hranges
  obtain (((⟨hfirst, hlast⟩ | ⟨hfirst, hlast⟩) | ⟨hfirst, hlast⟩) | rfl) := hranges
  · exact ⟨le_trans (by decide) hfirst, le_trans hlast (by decide)⟩
  · exact ⟨le_trans (by decide) hfirst, le_trans hlast (by decide)⟩
  · exact ⟨le_trans (by decide) hfirst, le_trans hlast (by decide)⟩
  · exact ⟨by decide, by decide⟩

theorem isBreak_of_isSimple (hx : isSimple x = true) : isBreak x = false :=
  isBreak_of_isPrintable (isPrintable_of_isSimple hx)

theorem IsWord.exists_cons (hs : IsWord s) : ∃ x t, s = x :: t ∧ isSimple x = true := by
  obtain ⟨x, t, rfl⟩ := List.exists_cons_of_ne_nil hs.ne_nil
  exact ⟨x, t, rfl, hs.simple x List.mem_cons_self⟩

theorem atDocumentMark_of_isSimple (hx : isSimple x = true) (s : List Char) :
    atDocumentMark (x :: s) = false := by
  have hdash : x ≠ '-' := ne_of_isSimple hx (by decide)
  have hpoint : x ≠ '.' := ne_of_isSimple hx (by decide)
  unfold atDocumentMark
  split
  · next h => exact absurd (List.cons.inj h).1 hdash
  · next h => exact absurd (List.cons.inj h).1 hpoint
  · rfl

/-! ## Gaps -/

/-- Nothing is skipped where a text goes on. -/
theorem readBlanks_of_next (h : ∀ y ∈ c.rest.head?, isBlank y = false ∧ isBreak y = false) :
    readBlanks margin fuel g c = some (g, c) := by
  cases fuel with
  | zero => rfl
  | succ fuel =>
    rw [readBlanks]
    cases hrest : c.rest with
    | nil => rfl
    | cons y t =>
      obtain ⟨hblank, hbreak⟩ := h y (by rw [hrest]; rfl)
      simp [hblank, hbreak]

theorem readBlanks_of_line (hc : c.rest = '\n' :: rest)
    (hrest : ∀ y ∈ rest.head?, isBlank y = false ∧ isBreak y = false) :
    readBlanks margin (fuel + 1) .none c = some (⟨[], ['\n'], [], true⟩, c.skipLine) := by
  have hskip : c.skipLine.rest = rest := by rw [Cursor.skipLine, hc]; rfl
  have hbreak : c.lineBreak = ['\n'] := by rw [Cursor.lineBreak, hc]; rfl
  rw [readBlanks, hc]
  simp only [hbreak, Gap.none]
  exact readBlanks_of_next (by rwa [hskip])

theorem readBlanks_of_blanks {blanks : List Char} (hs : ∀ y ∈ s, isBlank y = true)
    (hc : c.rest = s ++ rest) (hrest : ∀ y ∈ rest.head?, isBlank y = false ∧ isBreak y = false)
    (hfuel : s.length ≤ fuel) :
    readBlanks margin fuel ⟨blanks, [], [], false⟩ c =
      some (⟨blanks ++ s, [], [], false⟩, c.skipN s.length) := by
  induction s generalizing fuel c blanks with
  | nil =>
    rw [readBlanks_of_next (by rwa [hc]), List.append_nil]
    rfl
  | cons y s ih =>
    obtain ⟨fuel, rfl⟩ := Nat.exists_eq_add_of_le' hfuel
    have hblank := hs y List.mem_cons_self
    have hskip : c.skip.rest = s ++ rest := by rw [Cursor.skip, hc]; rfl
    have htail : readBlanks margin (fuel + s.length) ⟨blanks ++ [y], [], [], false⟩ c.skip =
        some (⟨blanks ++ [y] ++ s, [], [], false⟩, c.skip.skipN s.length) :=
      ih (fun z hz => hs z (List.mem_cons_of_mem y hz)) hskip (Nat.le_add_left _ _)
    rw [List.length_cons, ← Nat.add_assoc, readBlanks, hc, List.cons_append]
    simp only [hblank, Bool.false_eq_true, false_and, if_false, if_true, htail]
    simp [Cursor.skip, Cursor.skipN, Nat.add_comm, Nat.add_left_comm]

/-! ## Without quotes -/

theorem splitPiece_append (hs : ∀ x ∈ s, isSimple x = true)
    (hrest : splitPiece false rest = some ([], rest)) :
    splitPiece false (s ++ rest) = some (s, rest) := by
  induction s with
  | nil => exact hrest
  | cons x s ih =>
    have hx := hs x List.mem_cons_self
    have hcolon : x ≠ ':' := ne_of_isSimple hx (by decide)
    have htail := ih fun y hy => hs y (List.mem_cons_of_mem x hy)
    rw [List.cons_append, splitPiece, htail, isBlank_of_isSimple hx, isBreak_of_isSimple hx]
    simp [hcolon]

theorem skipTo_append (hc : c.rest = s ++ rest) : c.skipTo rest = c.skipN s.length := by
  rw [Cursor.skipTo, hc, List.length_append, Nat.add_sub_cancel]

/-- Whether a word starts here, the reading of one begins. -/
theorem not_ends_of_isWord (hs : IsWord s) (hc : c.rest = s ++ rest) :
    ¬ ((c.column = 0 ∧ atDocumentMark c.rest = true) ∨ c.rest.head? = some '#') := by
  obtain ⟨x, t, rfl, hx⟩ := hs.exists_cons
  rw [hc, List.cons_append, atDocumentMark_of_isSimple hx]
  have hhash : x ≠ '#' := ne_of_isSimple hx (by decide)
  simp [hhash]

theorem readPlain_key (hs : IsWord s) (hc : c.rest = s ++ ':' :: ' ' :: rest) :
    readPlain false margin (fuel + 1) .none c = some ⟨s, false, c.skipN s.length⟩ := by
  have hpiece : splitPiece false c.rest = some (s, ':' :: ' ' :: rest) := by
    rw [hc]
    exact splitPiece_append hs.simple rfl
  rw [readPlain, if_neg (not_ends_of_isWord hs hc), hpiece]
  simp [hs.ne_nil, skipTo_append hc, Gap.none, Gap.text, atBlankOrEnd, isBlank, isBreak]

theorem readPlain_end (hs : IsWord s) (hc : c.rest = s) :
    readPlain false margin (fuel + 1) .none c = some ⟨s, false, c.skipN s.length⟩ := by
  have hnil : c.rest = s ++ [] := by rw [hc, List.append_nil]
  have hpiece : splitPiece false c.rest = some (s, []) := by
    rw [hnil]
    exact splitPiece_append hs.simple rfl
  rw [readPlain, if_neg (not_ends_of_isWord hs hnil), hpiece]
  simp [hs.ne_nil, skipTo_append hnil, Gap.none, Gap.text]

/-- A word at the end of a line, where the next line is not indented. -/
theorem readPlain_line (hs : IsWord s) (hc : c.rest = s ++ '\n' :: rest)
    (hrest : ∀ y ∈ rest.head?, isBlank y = false ∧ isBreak y = false) :
    readPlain false 1 (fuel + 2) .none c = some ⟨s, true, (c.skipN s.length).skipLine⟩ := by
  have hpiece : splitPiece false c.rest = some (s, '\n' :: rest) := by
    rw [hc]
    exact splitPiece_append hs.simple rfl
  have hend : (c.skipN s.length).rest = '\n' :: rest := by
    rw [Cursor.skipN, hc, List.drop_left]
  have hcolumn : (c.skipN s.length).skipLine.column = 0 := by rw [Cursor.skipLine, hend]; rfl
  rw [readPlain, if_neg (not_ends_of_isWord hs hc), hpiece]
  have hblanks : readBlanks 1 (fuel + 1) .none (c.skipN s.length) =
      some (⟨[], ['\n'], [], true⟩, (c.skipN s.length).skipLine) := readBlanks_of_line hend hrest
  have hnone : Gap.none.text = [] := rfl
  simp [hs.ne_nil, skipTo_append hc, atBlankOrEnd, isBlank, isBreak, hblanks, hcolumn, hnone]

/-! ## In double quotes -/

/-- A text that stands for itself between double quotes. -/
def Quotable (s : List Char) : Prop := ∀ x ∈ s, x ≠ '"' ∧ x ≠ '\\' ∧ isBreak x = false

theorem splitDoublePiece_cons (hx : x ≠ '\\') (s : List Char) :
    splitDoublePiece (x :: s) =
      if x = '"' || isBlank x || isBreak x then some ([], x :: s)
      else (splitDoublePiece s).map fun r => (x :: r.1, r.2) := by
  rw [splitDoublePiece]
  · simp [hx]
  all_goals simp_all

theorem splitDoublePiece_append (hs : Quotable s) (hsolid : ∀ x ∈ s, isBlank x = false)
    (hrest : splitDoublePiece rest = some ([], rest)) :
    splitDoublePiece (s ++ rest) = some (s, rest) := by
  induction s with
  | nil => exact hrest
  | cons x s ih =>
    obtain ⟨hquote, hslash, hbreak⟩ := hs x List.mem_cons_self
    have htail := ih (fun y hy => hs y (List.mem_cons_of_mem x hy))
      fun y hy => hsolid y (List.mem_cons_of_mem x hy)
    rw [List.cons_append, splitDoublePiece_cons hslash, htail, hsolid x List.mem_cons_self, hbreak]
    simp [hquote]

theorem readDoubleQuoted_of_solid (hs : Quotable s) (hsolid : ∀ x ∈ s, isBlank x = false)
    (hc : c.rest = s ++ '"' :: rest) (hcolumn : c.column ≠ 0) :
    readDoubleQuoted (fuel + 1) c = some (s, c.skipN (s.length + 1)) := by
  have hpiece : splitDoublePiece c.rest = some (s, '"' :: rest) := by
    rw [hc]
    exact splitDoublePiece_append hs hsolid (splitDoublePiece_cons (by decide) rest)
  rw [readDoubleQuoted, if_neg (fun h => hcolumn h.1), hpiece]
  simp [skipTo_append hc, Cursor.skip, Cursor.skipN, Nat.add_assoc]

theorem readDoubleQuoted_of_blanks {blanks : List Char} (hs : Quotable s)
    (hsolid : ∀ x ∈ s, isBlank x = false) (hblanks : ∀ x ∈ blanks, isBlank x = true)
    (hne : blanks ≠ []) (hc : c.rest = s ++ (blanks ++ rest))
    (hrest : ∀ y ∈ rest.head?, isBlank y = false ∧ isBreak y = false) (hcolumn : c.column ≠ 0)
    (hfuel : blanks.length ≤ fuel) :
    readDoubleQuoted (fuel + 1) c =
      (readDoubleQuoted fuel (c.skipN (s.length + blanks.length))).map
        fun r => (s ++ blanks ++ r.1, r.2) := by
  obtain ⟨y, t, rfl⟩ := List.exists_cons_of_ne_nil hne
  have hc' : c.rest = s ++ y :: (t ++ rest) := hc
  have hy := hblanks y List.mem_cons_self
  have hne' : y ≠ '\\' ∧ y ≠ '"' := by
    constructor <;> rintro rfl <;> exact absurd hy (by decide)
  have hpiece : splitDoublePiece c.rest = some (s, y :: (t ++ rest)) := by
    rw [hc']
    refine splitDoublePiece_append hs hsolid ?_
    rw [splitDoublePiece_cons hne'.1, hy]
    simp
  have hskip : (c.skipN s.length).rest = y :: t ++ rest := by rw [Cursor.skipN, hc, List.drop_left]
  have hgap : readBlanks 0 fuel .none (c.skipN s.length) =
      some (⟨y :: t, [], [], false⟩, (c.skipN s.length).skipN (y :: t).length) :=
    readBlanks_of_blanks hblanks hskip hrest hfuel
  have htwice : (c.skipN s.length).skipN (y :: t).length =
      c.skipN (s.length + (y :: t).length) := by
    simp [Cursor.skipN, Nat.add_assoc]
  rw [htwice] at hgap
  rw [readDoubleQuoted, if_neg (fun h => hcolumn h.1), hpiece]
  simp only [Option.bind_eq_bind, Option.bind_some, skipTo_append hc']
  split
  · next h => cases h
  · next h => exact absurd (List.cons.inj h).1 hne'.2
  · next z _ _ h =>
    obtain rfl : y = z := (List.cons.inj h).1
    rw [if_neg hne'.1, hgap, Option.bind_some]
    cases readDoubleQuoted fuel (c.skipN (s.length + (y :: t).length)) <;> simp [Gap.text]

/-- A text with blanks starts with a piece without any, and at least one of them after it. -/
theorem exists_blanks (h : ¬ ∀ x ∈ s, isBlank x = false) :
    ∃ piece blanks more, s = piece ++ (blanks ++ more) ∧ (∀ x ∈ piece, isBlank x = false) ∧
      (∀ x ∈ blanks, isBlank x = true) ∧ blanks ≠ [] ∧ ∀ y ∈ more.head?, isBlank y = false := by
  induction s with
  | nil => exact absurd nofun h
  | cons x s ih =>
    cases hx : isBlank x with
    | false =>
      have hrest : ¬ ∀ y ∈ s, isBlank y = false := fun hs => h (List.forall_mem_cons.2 ⟨hx, hs⟩)
      obtain ⟨piece, blanks, more, rfl, hpiece, hmore⟩ := ih hrest
      exact ⟨x :: piece, blanks, more, rfl, List.forall_mem_cons.2 ⟨hx, hpiece⟩, hmore⟩
    | true =>
      refine ⟨[], x :: s.takeWhile isBlank, s.dropWhile isBlank, ?_, nofun, ?_,
        List.cons_ne_nil _ _, ?_⟩
      · rw [List.nil_append, List.cons_append, List.takeWhile_append_dropWhile]
      · exact List.forall_mem_cons.2 ⟨hx, fun y hy => List.mem_takeWhile_imp hy⟩
      · intro y hy
        have hhead := List.head?_dropWhile_not isBlank s
        rw [hy] at hhead
        exact hhead

/-- **A text is read as it stands up to the closing quote.** -/
theorem readDoubleQuoted_of_quotable (hs : Quotable s) (hc : c.rest = s ++ '"' :: rest)
    (hcolumn : c.column ≠ 0) (hfuel : s.length < fuel) :
    readDoubleQuoted fuel c = some (s, c.skipN (s.length + 1)) := by
  -- one round reads the characters up to the next blank, and all blanks after them
  induction hn : s.length using Nat.strong_induction_on generalizing s c fuel with
  | _ n ih =>
    subst hn
    obtain ⟨fuel, rfl⟩ := Nat.exists_eq_add_of_le' (Nat.one_le_of_lt hfuel)
    by_cases hsolid : ∀ x ∈ s, isBlank x = false
    · exact readDoubleQuoted_of_solid hs hsolid hc hcolumn
    · obtain ⟨piece, blanks, more, rfl, hpiece, hblanks, hne, hmore⟩ := exists_blanks hsolid
      have hsplit : Quotable piece ∧ Quotable more := by
        constructor <;> intro x hx <;> exact hs x (by simp [hx])
      have hrest : c.rest = piece ++ (blanks ++ (more ++ '"' :: rest)) := by
        rw [hc, List.append_assoc, List.append_assoc]
      have hnext : ∀ y ∈ (more ++ '"' :: rest).head?, isBlank y = false ∧ isBreak y = false := by
        intro y hy
        cases more with
        | nil =>
          obtain rfl := Option.some.inj hy
          decide
        | cons z more =>
          obtain rfl := Option.some.inj hy
          exact ⟨hmore z rfl, (hsplit.2 z List.mem_cons_self).2.2⟩
      have hpos := List.length_pos_iff.2 hne
      simp only [List.length_append] at hfuel
      have hskip : (c.skipN (piece.length + blanks.length)).rest = more ++ '"' :: rest := by
        rw [Cursor.skipN, hrest, ← List.append_assoc, ← List.length_append, List.drop_left]
      have hcolumn' : (c.skipN (piece.length + blanks.length)).column ≠ 0 := by
        simp only [Cursor.skipN]
        omega
      rw [readDoubleQuoted_of_blanks hsplit.1 hpiece hblanks hne hrest hnext hcolumn (by omega),
        ih more.length (by simp only [List.length_append]; omega) hsplit.2 hskip hcolumn' (by omega)
          rfl]
      simp [Cursor.skipN, Nat.add_assoc]

end SchemaCatalog.Yaml
