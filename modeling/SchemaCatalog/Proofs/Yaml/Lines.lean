import SchemaCatalog.Yaml.Lexer
import SchemaCatalog.Proofs.Yaml.Scalars

/-!
# Texts of lines

A text of lines that are not indented, each with a key and a value, is cut into the tokens of a
block mapping.

* `Yaml.Line`: a key with a value, written as it stands or between double quotes.
* `Yaml.document`: lines one below the other.
* `Lexer.idle`: the state between two tokens outside of brackets. `Lexer.step_key`,
  `Lexer.step_colon`, `Lexer.step_value`: the three tokens of a line.
* `Lexer.Between`: the state between two lines. `Lexer.run_line`: a line leads from one to the next.
* **`Yaml.tokens_document`**: the tokens of a text of lines.
-/

namespace SchemaCatalog.Yaml

/-! ## Lines -/

/-- A key with a value, which may stand between double quotes. -/
structure Line where
  key : List Char
  text : List Char
  quoted : Bool
  deriving DecidableEq, Repr

namespace Line

/-- How the value is written. -/
def style (l : Line) : Style := if l.quoted then .doubleQuoted else .plain

def value (l : Line) : List Char := if l.quoted then '"' :: (l.text ++ ['"']) else l.text

/-- The whole line without its end. -/
def written (l : Line) : List Char := l.key ++ ':' :: ' ' :: l.value

def tokens (l : Line) : List Token :=
  [.key, .scalar (String.ofList l.key) .plain, .value, .scalar (String.ofList l.text) l.style]

/-- Key and value stand for themselves as they are written. -/
structure Legible (l : Line) : Prop where
  key : IsWord l.key
  short : l.key.length ≤ 1024
  text : if l.quoted then Quotable l.text else IsWord l.text

end Line

/-- Lines one below the other. The last line end may be missing. -/
def document (closed : Bool) : List Line → List Char
  | [] => []
  | l :: ls => l.written ++ if ls.isEmpty && !closed then [] else '\n' :: document closed ls

theorem document_head {closed : Bool} {ls : List Line} (hls : ∀ l ∈ ls, l.Legible) :
    ∀ x ∈ (document closed ls).head?, isSimple x = true := by
  intro x hx
  cases ls with
  | nil => cases hx
  | cons l ls =>
    obtain ⟨y, t, hkey, hy⟩ := (hls l List.mem_cons_self).key.exists_cons
    rw [document, Line.written, hkey] at hx
    obtain rfl := Option.some.inj hx
    exact hy

theorem document_ne_nil {closed : Bool} (l : Line) (ls : List Line) :
    document closed (l :: ls) ≠ [] := by
  simp [document, Line.written]

theorem of_mem_document {closed : Bool} {ls : List Line} {x : Char} (hx : x ∈ document closed ls) :
    x = '\n' ∨ ∃ l ∈ ls, x ∈ l.written := by
  induction ls with
  | nil => cases hx
  | cons l ls ih =>
    rw [document, List.mem_append] at hx
    obtain hx | hx := hx
    · exact .inr ⟨l, List.mem_cons_self, hx⟩
    · split_ifs at hx
      · cases hx
      · obtain rfl | hx := List.mem_cons.1 hx
        · exact .inl rfl
        · exact (ih hx).imp id fun ⟨l', hl', hx⟩ => ⟨l', List.mem_cons_of_mem l hl', hx⟩

variable {c : Cursor} {T : Array Token} {opened allowed closed : Bool} {key rest : List Char}
  {x : Char} {fuel : Nat} {l l' : Lexer}

/-! ## Gaps in front of tokens -/

/-- A token may start with this character. -/
def Solid (x : Char) : Prop :=
  x ≠ ' ' ∧ x ≠ '\t' ∧ x ≠ '#' ∧ isBreak x = false ∧ x ≠ Char.ofNat 0xFEFF

instance (x : Char) : Decidable (Solid x) :=
  inferInstanceAs (Decidable
    (x ≠ ' ' ∧ x ≠ '\t' ∧ x ≠ '#' ∧ isBreak x = false ∧ x ≠ Char.ofNat 0xFEFF))

theorem solid_of_isSimple (hx : isSimple x = true) : Solid x :=
  ⟨ne_of_isSimple hx (by decide), ne_of_isSimple hx (by decide), ne_of_isSimple hx (by decide),
    isBreak_of_isSimple hx, ne_of_isSimple hx (by decide)⟩

namespace Lexer

theorem skipGap_of_solid (hl : l.cursor.rest = x :: rest) (hx : Solid x) : skipGap fuel l = l := by
  obtain ⟨hspace, htab, hhash, hbreak, hmark⟩ := hx
  cases fuel with
  | zero => rfl
  | succ fuel =>
    simp [skipGap, hl, Cursor.skipWhile, hspace, htab, hhash, hbreak, hmark, moveTo, Cursor.skipN]
    rw [← hl]

theorem skipGap_of_nil (hl : l.cursor.rest = []) : skipGap fuel l = l := by
  cases fuel with
  | zero => rfl
  | succ fuel =>
    simp [skipGap, hl, Cursor.skipWhile, moveTo, Cursor.skipN]
    rw [← hl]

theorem skipGap_of_space (hl : l.cursor.rest = ' ' :: x :: rest) (hx : Solid x) :
    skipGap (fuel + 1) l = l.moveTo l.cursor.skip := by
  obtain ⟨hspace, htab, hhash, hbreak, -⟩ := hx
  simp [skipGap, hl, Cursor.skipWhile, hspace, htab, hhash, hbreak, moveTo, Cursor.skipN,
    Cursor.skip]

/-! ## States -/

/-- The state between two tokens outside of brackets, where nothing can be a key. The mapping may be
`opened` already. -/
def idle (c : Cursor) (opened allowed : Bool) (T : Array Token) : Lexer :=
  ⟨c, 0, if opened then 0 else -1, if opened then [-1] else [], allowed, [none], T, false⟩

/-- The state after a word that started at `c` and may be a key. -/
def named (c : Cursor) (opened : Bool) (T : Array Token) (key : List Char) : Lexer :=
  { idle (c.skipN key.length) opened false (T.push (.scalar (String.ofList key) .plain)) with
    keys := [some ⟨opened, T.size, c⟩] }

theorem skipGap_of_line (hc : c.rest = '\n' :: rest) :
    skipGap (fuel + 1) (idle c opened false T) = skipGap fuel (idle c.skipLine opened true T) := by
  simp [skipGap, idle, hc, Cursor.skipWhile, Cursor.skipN, moveTo, allowKey, inFlow, isBreak]
  rw [← hc]

theorem dropStale_idle : (idle c opened allowed T).dropStale = some (idle c opened allowed T) := rfl

theorem dropStale_named (hshort : key.length ≤ 1024) :
    (named c opened T key).dropStale = some (named c opened T key) := by
  have hnear : ¬ c.index + 1024 < c.index + key.length := by omega
  simp [dropStale, named, idle, Cursor.skipN, hnear]

theorem closeBlocks_of_le {column : Int} (h : l.indent ≤ column) : l.closeBlocks column = l := by
  have hunwind : unwind column l.indent l.outer = (0, l.indent, l.outer) := by
    cases l.outer with
    | nil => rfl
    | cons i outer => rw [unwind, if_neg (by omega)]
  unfold closeBlocks
  split
  · rfl
  · simp [hunwind]

/-- A mapping of lines that are not indented need not be closed. -/
theorem indent_le (opened : Bool) (n : Nat) : (if opened then 0 else -1 : Int) ≤ n := by
  cases opened <;> simp

/-! ## The tokens of a line -/

/-- The next token is read after the gap in front of it. -/
theorem step_of_gap (hgap : skipGap (l.cursor.rest.length + 1) l = l')
    (hl : l'.cursor.rest = x :: rest) (hstale : l'.dropStale = some l')
    (hindent : l'.indent ≤ l'.cursor.column) : l.step = l'.readToken x rest := by
  rw [step, hgap, hstale]
  simp [closeBlocks_of_le hindent, hl]

/-- At the end of the text the run is finished. -/
theorem step_of_end (hgap : skipGap (l.cursor.rest.length + 1) l = l') (hl : l'.cursor.rest = [])
    (hstale : l'.dropStale = some l') (hindent : l'.indent ≤ l'.cursor.column) :
    l.step = l'.finish := by
  rw [step, hgap, hstale]
  simp [closeBlocks_of_le hindent, hl]

theorem readToken_of_isSimple (hx : isSimple x = true) (rest : List Char) :
    l.readToken x rest = l.plainScalar := by
  have hne : ∀ {y}, isSimple y = false → x ≠ y := ne_of_isSimple hx
  have hdash : x ≠ '-' := hne (by decide)
  have hmark : x ≠ '?' := hne (by decide)
  have hcolon : x ≠ ':' := hne (by decide)
  have hbar : x ≠ '|' := hne (by decide)
  have hangle : x ≠ '>' := hne (by decide)
  have hstarts : startsPlain l.inFlow x rest = true := by
    have hothers : ∀ y ∈ [',', '[', ']', '\x7b', '\x7d', '#', '&', '*', '!', '|', '>', '\x27', '"',
        '%', '@', '\x60'], x ≠ y := by
      refine fun y hy => hne ?_
      revert y
      simp only [List.forall_mem_cons, List.not_mem_nil, false_imp_iff, implies_true, and_true]
      decide
    simp only [List.forall_mem_cons, List.not_mem_nil, false_imp_iff, implies_true] at hothers
    simp [startsPlain, hdash, hmark, hcolon, isBlank_of_isSimple hx, isBreak_of_isSimple hx,
      isFlowIndicator, hothers]
  rw [readToken, if_neg (fun h => hne (by decide) h.2), atDocumentMark_of_isSimple hx]
  · simp [hdash, hmark, hcolon, hbar, hangle, hstarts]
  all_goals exact hne (by decide)

/-- The key of a line is a word that may be a key. -/
theorem step_key (hkey : IsWord key) (hc : c.rest = key ++ ':' :: ' ' :: rest)
    (hcolumn : c.column = 0) :
    (idle c opened true T).step = some (named c opened T key) := by
  obtain ⟨x, t, rfl, hx⟩ := hkey.exists_cons
  rw [step_of_gap (x := x) (skipGap_of_solid hc (solid_of_isSimple hx)) hc dropStale_idle
    (indent_le opened _), readToken_of_isSimple hx, plainScalar]
  cases opened <;>
    simp [noteKey, dropKey, idle, named, hcolumn, inFlow, readPlain_key hkey hc, allowKey, moveTo,
      emit]

theorem insertIdx_append (T U : Array Token) (t : Token) :
    (T ++ U).insertIdxIfInBounds T.size t = T ++ #[t] ++ U := by
  have hlist : ∀ l l' : List Token, (l ++ l').insertIdx l.length t = l ++ t :: l' := by
    intro l l'
    induction l with
    | nil => rfl
    | cons x l ih => simp [ih]
  have hle : T.size ≤ (T ++ U).size := by simp
  apply Array.toList_inj.1
  rw [Array.insertIdxIfInBounds, dif_pos hle, Array.toList_insertIdx]
  simp [← Array.length_toList, hlist]

/-- The token of a mapping that is not opened yet. -/
def opening (opened : Bool) : Array Token := if opened then #[] else #[.blockMappingStart]

theorem openBlock_idle (c : Cursor) (opened allowed : Bool) (T U : Array Token) :
    (idle c opened allowed (T ++ U)).openBlock 0 T.size .blockMappingStart =
      idle c true allowed (T ++ opening opened ++ U) := by
  cases opened with
  | true => simp [openBlock, idle, opening]
  | false =>
    simp only [opening, Bool.false_eq_true, if_false]
    rw [← insertIdx_append]
    rfl

theorem step_colon (hc : (c.skipN key.length).rest = ':' :: ' ' :: rest) (hcolumn : c.column = 0)
    (hshort : key.length ≤ 1024) :
    (named c opened T key).step = some (idle (c.skipN (key.length + 1)) true false
      (T ++ opening opened ++ #[.key, .scalar (String.ofList key) .plain, .value])) := by
  have hsolid : Solid ':' := by decide
  have hread : (named c opened T key).readToken ':' (' ' :: rest) =
      (named c opened T key).keyValue := by
    simp [readToken, atBlankOrEnd, isBlank, atDocumentMark]
  have hkey : (T.push (.scalar (String.ofList key) .plain)).insertIdxIfInBounds T.size .key =
      T ++ #[.key, .scalar (String.ofList key) .plain] := by
    rw [Array.push_eq_append, insertIdx_append, Array.append_assoc]
    rfl
  have hvalue : (named c opened T key).keyValue =
      some ((((idle (c.skipN key.length) opened false
        ((T.push (.scalar (String.ofList key) .plain)).insertIdxIfInBounds T.size .key)).openBlock
          c.column T.size .blockMappingStart).allowKey false).take 1 .value) := rfl
  have hskip : (c.skipN key.length).skipN 1 = c.skipN (key.length + 1) := by
    simp [Cursor.skipN, Nat.add_assoc]
  rw [step_of_gap (x := ':') (skipGap_of_solid hc hsolid) hc (dropStale_named hshort)
    (indent_le opened _), hread, hvalue, hkey, hcolumn, openBlock_idle]
  simp [take, allowKey, moveTo, emit, idle, hskip]

/-- The state between two lines, where `rest` is left: the line end was read with a value without
quotes, or is still to be read. -/
inductive Between (rest : List Char) (T : Array Token) : Lexer → Prop
  | start {c : Cursor} (hc : c.rest = rest) (hcolumn : c.column = 0) :
    Between rest T (idle c true true T)
  | broken {c : Cursor} (hc : c.rest = '\n' :: rest) : Between rest T (idle c true false T)
  | ended {c : Cursor} (hc : c.rest = []) (hrest : rest = []) : Between rest T (idle c true false T)

/-- The end of a line, or of the text. -/
inductive Ending (rest : List Char) : List Char → Prop
  | line (hrest : ∀ y ∈ rest.head?, isBlank y = false ∧ isBreak y = false) :
    Ending rest ('\n' :: rest)
  | text (hrest : rest = []) : Ending rest []

variable {ending : List Char} {line : Line}

theorem ending_document {ls : List Line} (hls : ∀ l ∈ ls, l.Legible) :
    Ending (document closed ls)
      (if ls.isEmpty && !closed then [] else '\n' :: document closed ls) := by
  split_ifs with h
  · have hnil : ls = [] := by simpa using (Bool.and_eq_true_iff.1 h).1
    rw [hnil]
    exact .text rfl
  · refine .line fun y hy => ?_
    have hy := document_head hls y hy
    exact ⟨isBlank_of_isSimple hy, isBreak_of_isSimple hy⟩

theorem Between.of_ending (hend : Ending rest ending) (hc : c.rest = ending) :
    Between rest T (idle c true false T) := by
  cases hend with
  | line => exact .broken hc
  | text hrest => exact .ended hc hrest

theorem step_of_space (hc : c.rest = ' ' :: x :: rest) (hx : Solid x) :
    (idle c opened allowed T).step = (idle c.skip opened allowed T).readToken x rest := by
  have hskip : c.skip.rest = x :: rest := by rw [Cursor.skip, hc]; rfl
  exact step_of_gap (skipGap_of_space (l := idle c opened allowed T) hc hx) hskip dropStale_idle
    (indent_le opened _)

theorem step_quoted {s : List Char} (hs : Quotable s)
    (hc : c.rest = ' ' :: '"' :: (s ++ '"' :: ending)) (hend : Ending rest ending) :
    ∃ l', (idle c true false T).step = some l' ∧
      Between rest (T.push (.scalar (String.ofList s) .doubleQuoted)) l' := by
  have hsolid : Solid '"' := by decide
  have hskip : c.skip.skip.rest = s ++ '"' :: ending := by
    rw [Cursor.skip, Cursor.skip, hc]
    rfl
  have htoken : (idle c.skip true false T).readToken '"' (s ++ '"' :: ending) =
      (idle c.skip true false T).quotedScalar .doubleQuoted := by
    simp [readToken, atDocumentMark]
  have hread : readDoubleQuoted (c.skip.skip.rest.length + 1) c.skip.skip =
      some (s, c.skip.skip.skipN (s.length + 1)) := by
    refine readDoubleQuoted_of_quotable hs hskip (Nat.succ_ne_zero _) ?_
    rw [hskip, List.length_append]
    omega
  refine ⟨idle (c.skip.skip.skipN (s.length + 1)) true false
    (T.push (.scalar (String.ofList s) .doubleQuoted)), ?_, .of_ending hend ?_⟩
  · rw [step_of_space hc hsolid, htoken]
    simp [quotedScalar, noteKey, idle, hread, allowKey, moveTo, emit]
  · rw [Cursor.skipN, hskip]
    simp

theorem step_word {s : List Char} (hs : IsWord s) (hc : c.rest = ' ' :: (s ++ ending))
    (hend : Ending rest ending) :
    ∃ l', (idle c true false T).step = some l' ∧
      Between rest (T.push (.scalar (String.ofList s) .plain)) l' := by
  obtain ⟨x, t, rfl, hx⟩ := hs.exists_cons
  have hskip : c.skip.rest = x :: t ++ ending := by rw [Cursor.skip, hc]; rfl
  rw [step_of_space (x := x) hc (solid_of_isSimple hx), readToken_of_isSimple hx]
  cases hend with
  | line hrest =>
    have hread : readPlain false 1 (c.skip.rest.length + 1) .none c.skip =
        some ⟨x :: t, true, (c.skip.skipN (x :: t).length).skipLine⟩ := by
      have hlength : c.skip.rest.length + 1 = t.length + rest.length + 1 + 2 := by
        rw [hskip, List.length_append, List.length_cons, List.length_cons]
        omega
      rw [hlength]
      exact readPlain_line hs hskip hrest
    have hbreak : (c.skip.skipN (x :: t).length).rest = '\n' :: rest := by
      rw [Cursor.skipN, hskip, List.drop_left]
    refine ⟨idle (c.skip.skipN (x :: t).length).skipLine true true
      (T.push (.scalar (String.ofList (x :: t)) .plain)), ?_, .start ?_ ?_⟩
    · simp [plainScalar, noteKey, idle, inFlow, hread, allowKey, moveTo, emit]
    · rw [Cursor.skipLine, hbreak]
      rfl
    · rw [Cursor.skipLine, hbreak]
      rfl
  | text hrest =>
    rw [List.append_nil] at hskip
    have hread : readPlain false 1 (c.skip.rest.length + 1) .none c.skip =
        some ⟨x :: t, false, c.skip.skipN (x :: t).length⟩ := readPlain_end hs hskip
    refine ⟨idle (c.skip.skipN (x :: t).length) true false
      (T.push (.scalar (String.ofList (x :: t)) .plain)), ?_, .ended ?_ hrest⟩
    · simp [plainScalar, noteKey, idle, inFlow, hread, allowKey, moveTo, emit]
    · rw [Cursor.skipN, hskip, List.drop_length]

theorem step_value (hl : line.Legible) (hc : c.rest = ' ' :: (line.value ++ ending))
    (hend : Ending rest ending) :
    ∃ l', (idle c true false T).step = some l' ∧
      Between rest (T.push (.scalar (String.ofList line.text) line.style)) l' := by
  have htext := hl.text
  rw [Line.value] at hc
  rw [Line.style]
  split_ifs at hc htext ⊢ with hquoted
  · rw [List.cons_append, List.append_assoc, List.singleton_append] at hc
    exact step_quoted htext hc hend
  · exact step_word htext hc hend

/-! ## Lines -/

theorem run_of_step (hended : l.ended = false) (hstale : l.dropStale = some l)
    (hstep : l.step = some l') : run (fuel + 1) l = run fuel l' := by
  rw [run, hended, if_neg Bool.false_ne_true, hstale]
  simp [hstep]

/-- **A line leads from one gap between lines to the next.** -/
theorem run_line (fuel : Nat) (hl : line.Legible) (hstep : l.step = (idle c opened true T).step)
    (hended : l.ended = false) (hstale : l.dropStale = some l)
    (hc : c.rest = line.written ++ ending) (hcolumn : c.column = 0) (hend : Ending rest ending) :
    ∃ l', Between rest (T ++ opening opened ++ line.tokens.toArray) l' ∧
      run (fuel + 3) l = run fuel l' := by
  have hrest : c.rest = line.key ++ ':' :: ' ' :: (line.value ++ ending) := by
    rw [hc, Line.written, List.append_assoc]
    rfl
  have hcolon : (c.skipN line.key.length).rest = ':' :: ' ' :: (line.value ++ ending) := by
    rw [Cursor.skipN, hrest, List.drop_left]
  have hvalue : (c.skipN (line.key.length + 1)).rest = ' ' :: (line.value ++ ending) := by
    rw [Cursor.skipN, hrest, ← List.drop_drop, List.drop_left]
    rfl
  obtain ⟨l', hlast, hbetween⟩ := step_value (T := T ++ opening opened ++
    #[.key, .scalar (String.ofList line.key) .plain, .value]) hl hvalue hend
  refine ⟨l', ?_, ?_⟩
  · have htokens : T ++ opening opened ++ line.tokens.toArray =
        (T ++ opening opened ++ #[Token.key, Token.scalar (String.ofList line.key) .plain,
          Token.value]).push (.scalar (String.ofList line.text) line.style) := by
      simp [Line.tokens]
    rwa [htokens]
  · rw [run_of_step hended hstale (hstep.trans (step_key hl.key hrest hcolumn)),
      run_of_step rfl (dropStale_named hl.short) (step_colon hcolon hcolumn hl.short),
      run_of_step rfl dropStale_idle hlast]

namespace Between

theorem ended_eq (h : Between rest T l) : l.ended = false := by
  cases h <;> rfl

theorem dropStale_eq (h : Between rest T l) : l.dropStale = some l := by
  cases h <;> rfl

/-- The line end that is still to be read is skipped. -/
theorem exists_idle (h : Between rest T l) :
    ∃ c allowed, c.rest = rest ∧ (rest ≠ [] → allowed = true ∧ c.column = 0) ∧
      l.step = (idle c true allowed T).step := by
  cases h with
  | @start c hc hcolumn => exact ⟨c, true, hc, fun _ => ⟨rfl, hcolumn⟩, rfl⟩
  | @broken c hc =>
    have hline : c.skipLine.rest = rest ∧ c.skipLine.column = 0 := by
      rw [Cursor.skipLine, hc]
      exact ⟨rfl, rfl⟩
    refine ⟨c.skipLine, true, hline.1, fun _ => ⟨rfl, hline.2⟩, ?_⟩
    have hlength : c.rest.length = c.skipLine.rest.length + 1 := by
      rw [hline.1, hc, List.length_cons]
    have hgap : skipGap (c.rest.length + 1) (idle c true false T) =
        skipGap c.rest.length (idle c.skipLine true true T) := skipGap_of_line hc
    rw [step, step]
    show ((skipGap (c.rest.length + 1) (idle c true false T)).dropStale.bind _) =
      ((skipGap (c.skipLine.rest.length + 1) (idle c.skipLine true true T)).dropStale.bind _)
    rw [hgap, hlength]
  | @ended c hc hrest => exact ⟨c, false, hc.trans hrest.symm, fun hne => absurd hrest hne, rfl⟩

theorem run_end (h : Between [] T l) :
    run (fuel + 2) l = T.toList ++ [.blockEnd, .streamEnd] := by
  obtain ⟨c, allowed, hc, -, hstep⟩ := h.exists_idle
  have hend : (idle c true allowed T).step =
      some { idle c false allowed ((T.push .blockEnd).push .streamEnd) with ended := true } := by
    rw [step_of_end (l := idle c true allowed T) (skipGap_of_nil hc) hc dropStale_idle
      (indent_le true c.column)]
    simp [finish, closeBlocks, idle, inFlow, unwind, dropKey, emit]
  rw [run_of_step h.ended_eq h.dropStale_eq (hstep.trans hend)]
  simp [run, idle]

end Between

theorem run_document {ls : List Line} (hls : ∀ l ∈ ls, l.Legible)
    (h : Between (document closed ls) T l) (hfuel : 3 * ls.length + 2 ≤ fuel) :
    run fuel l = T.toList ++ ls.flatMap Line.tokens ++ [.blockEnd, .streamEnd] := by
  induction ls generalizing fuel l T with
  | nil =>
    obtain ⟨fuel, rfl⟩ := Nat.exists_eq_add_of_le' hfuel
    have hend : run (fuel + 2) l = T.toList ++ [.blockEnd, .streamEnd] := h.run_end
    exact hend.trans (by simp)
  | cons line ls ih =>
    obtain ⟨fuel, rfl⟩ := Nat.exists_eq_add_of_le' hfuel
    obtain ⟨hline, htail⟩ := List.forall_mem_cons.1 hls
    obtain ⟨c, allowed, hc, hstart, hstep⟩ := h.exists_idle
    obtain ⟨rfl, hcolumn⟩ := hstart (document_ne_nil line ls)
    have hsum : fuel + (3 * (line :: ls).length + 2) = fuel + (3 * ls.length + 2) + 3 := by
      rw [List.length_cons]
      omega
    obtain ⟨l', hbetween, hrun⟩ := run_line (fuel + (3 * ls.length + 2)) hline hstep
      h.ended_eq h.dropStale_eq hc hcolumn (ending_document htail)
    rw [hsum, hrun, ih htail hbetween (Nat.le_add_left _ _)]
    simp [opening]

end Lexer

theorem length_document_ge (closed : Bool) {ls : List Line} (hls : ∀ l ∈ ls, l.Legible) :
    3 * ls.length ≤ (document closed ls).length := by
  induction ls with
  | nil => exact Nat.zero_le _
  | cons l ls ih =>
    obtain ⟨hl, htail⟩ := List.forall_mem_cons.1 hls
    have hkey := List.length_pos_iff.2 hl.key.ne_nil
    have hrest : (document closed ls).length ≤
        (if ls.isEmpty && !closed then [] else '\n' :: document closed ls).length := by
      split_ifs with h
      · have hnil : ls = [] := by simpa using (Bool.and_eq_true_iff.1 h).1
        rw [hnil]
        exact Nat.le_refl _
      · exact Nat.le_succ _
    have hsum := ih htail
    rw [document, Line.written]
    simp only [List.length_append, List.length_cons]
    omega

/-- **A text of lines is cut into the tokens of one block mapping.** -/
theorem tokens_document (l : Line) (ls : List Line) (hls : ∀ l' ∈ l :: ls, l'.Legible)
    (hallowed : ∀ x ∈ document closed (l :: ls), isAllowed x = true) :
    tokens (document closed (l :: ls)) =
      .streamStart :: .blockMappingStart :: (l :: ls).flatMap Line.tokens ++
        [.blockEnd, .streamEnd] := by
  obtain ⟨hl, htail⟩ := List.forall_mem_cons.1 hls
  have hlength := length_document_ge closed hls
  obtain ⟨fuel, hfuel⟩ : ∃ fuel, (document closed (l :: ls)).length + 2 = fuel + 3 ∧
      3 * ls.length + 2 ≤ fuel := by
    rw [List.length_cons] at hlength
    exact ⟨(document closed (l :: ls)).length - 1, by omega, by omega⟩
  have hstep : (Lexer.start (document closed (l :: ls))).step =
      (Lexer.idle (.start (document closed (l :: ls))) false true #[.streamStart]).step := rfl
  obtain ⟨l', hbetween, hrun⟩ := Lexer.run_line fuel hl hstep rfl rfl rfl rfl
    (Lexer.ending_document htail)
  rw [tokens, if_pos (List.all_eq_true.2 hallowed), hfuel.1, hrun,
    Lexer.run_document htail hbetween hfuel.2]
  simp [Lexer.opening]

end SchemaCatalog.Yaml
