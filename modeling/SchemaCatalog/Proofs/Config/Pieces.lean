import SchemaCatalog.Config.Placeholder
import Mathlib.Data.List.Infix
import Mathlib.Data.List.TakeWhile

/-!
# Placeholders are filled in once

A placeholder ends at its first closing brace, so there is at most one at the front of a text, and
no choice is left in how it is read.

* `Placeholder.IsName`, `Placeholder.Written`: names, and the two forms of a placeholder.
* `Placeholder.read_eq_some_iff`: a placeholder is read exactly where one is written.
* `Placeholder.Piece`: a part of a text, with what it is written as and what is filled in for it.
* `Placeholder.expand_of_written`, `Placeholder.expand_append_of_plain`: one step of the pass.
* **`Placeholder.expand_pieces`**: the whole pass.
-/

namespace SchemaCatalog.Placeholder

/-! ## Written placeholders -/

/-- A name is a letter or an underscore with letters, digits and underscores behind it. -/
def IsName (s : List Char) : Prop :=
  ∃ c t, s = c :: t ∧ isNameStart c = true ∧ ∀ d ∈ t, isNameChar d = true

/-- How a placeholder is written. -/
inductive Written : Placeholder → List Char → Prop
  | bare {name : List Char} (hname : IsName name) :
    Written ⟨String.ofList name, []⟩ ('$' :: '\x7b' :: (name ++ ['\x7d']))
  | withDefault {name fallback : List Char} (hname : IsName name) (hopen : '\x7d' ∉ fallback) :
    Written ⟨String.ofList name, fallback⟩
      ('$' :: '\x7b' :: (name ++ ':' :: '-' :: (fallback ++ ['\x7d'])))

variable {p : Placeholder} {s t w r d : List Char} {c : Char}

theorem readFallback_brace (r : List Char) : readFallback ('\x7d' :: r) = some ([], r) := rfl

theorem readFallback_default (hopen : '\x7d' ∉ d) (r : List Char) :
    readFallback (':' :: '-' :: (d ++ '\x7d' :: r)) = some (d, r) := by
  have hall : ∀ c ∈ d, decide (c ≠ '\x7d') = true := fun c hc =>
    decide_eq_true fun h => hopen (h ▸ hc)
  rw [readFallback, List.dropWhile_append_of_pos hall, List.takeWhile_append_of_pos hall]
  simp

/-- After a name comes a character that is no part of it. -/
theorem read_name {name : List Char} (hname : IsName name) (hc : isNameChar c = false)
    (r : List Char) :
    read ('$' :: '\x7b' :: (name ++ c :: r)) =
      (readFallback (c :: r)).map fun q => (⟨String.ofList name, q.1⟩, q.2) := by
  obtain ⟨b, t, rfl, hb, ht⟩ := hname
  rw [List.cons_append, read, if_pos hb, List.dropWhile_append_of_pos ht,
    List.takeWhile_append_of_pos ht, List.dropWhile_cons_of_neg (by simp [hc]),
    List.takeWhile_cons_of_neg (by simp [hc]), List.append_nil]
  cases readFallback (c :: r) <;> rfl

theorem read_of_written (h : Written p w) (r : List Char) : read (w ++ r) = some (p, r) := by
  cases h with
  | bare hname =>
    simp only [List.cons_append, List.append_assoc, List.nil_append]
    rw [read_name hname (by decide), readFallback_brace]
    rfl
  | withDefault hname hopen =>
    simp only [List.cons_append, List.append_assoc, List.nil_append]
    rw [read_name hname (by decide), readFallback_default hopen]
    rfl

theorem eq_of_readFallback (h : readFallback s = some (d, r)) :
    s = '\x7d' :: r ∧ d = [] ∨ s = ':' :: '-' :: (d ++ '\x7d' :: r) ∧ '\x7d' ∉ d := by
  unfold readFallback at h
  split at h
  · cases h
    exact .inl ⟨rfl, rfl⟩
  · next t =>
    have hsplit := List.takeWhile_append_dropWhile (p := fun c => decide (c ≠ '\x7d')) (l := t)
    split at h
    · next b rest hdrop =>
      cases h
      have hb : b = '\x7d' := by
        have hstop := List.head?_dropWhile_not (fun c => decide (c ≠ '\x7d')) t
        rw [hdrop] at hstop
        simpa using hstop
      refine .inr ⟨?_, fun hmem => ?_⟩
      · rw [hdrop, hb] at hsplit
        rw [hsplit]
      · simpa using List.mem_takeWhile_imp hmem
    · cases h
  · cases h

theorem written_of_read (h : read s = some (p, r)) : ∃ w, Written p w ∧ s = w ++ r := by
  unfold read at h
  split at h
  · next c t =>
    split_ifs at h with hc
    have hname : IsName (c :: t.takeWhile isNameChar) :=
      ⟨c, _, rfl, hc, fun d hd => List.mem_takeWhile_imp hd⟩
    have hsplit := List.takeWhile_append_dropWhile (p := isNameChar) (l := t)
    split at h
    · next fallback rest hread =>
      cases h
      obtain ⟨hs, rfl⟩ | ⟨hs, hopen⟩ := eq_of_readFallback hread
      · refine ⟨_, .bare hname, ?_⟩
        rw [hs] at hsplit
        simp only [List.cons_append, List.append_assoc, List.nil_append, hsplit]
      · refine ⟨_, .withDefault hname hopen, ?_⟩
        rw [hs] at hsplit
        simp only [List.cons_append, List.append_assoc, List.nil_append, hsplit]
    · cases h
  · cases h

/-- A placeholder is read exactly where one is written. -/
theorem read_eq_some_iff : read s = some (p, r) ↔ ∃ w, Written p w ∧ s = w ++ r :=
  ⟨written_of_read, fun ⟨_, hw, hs⟩ => hs ▸ read_of_written hw r⟩

/-! ## One step of the pass -/

variable (env : String → Option String)

theorem expand_of_read (h : read s = some (p, r)) : expand env s = p.value env ++ expand env r := by
  rw [expand]
  split
  · next q rest hread =>
    rw [h] at hread
    cases hread
    rfl
  · next hread =>
    rw [h] at hread
    cases hread

theorem expand_cons_of_read (h : read (c :: s) = none) :
    expand env (c :: s) = c :: expand env s := by
  rw [expand]
  split
  · next hread =>
    rw [h] at hread
    cases hread
  · rfl

theorem expand_nil : expand env [] = [] := by
  rw [expand]
  rfl

theorem expand_of_written (h : Written p w) (r : List Char) :
    expand env (w ++ r) = p.value env ++ expand env r :=
  expand_of_read env (read_of_written h r)

theorem read_eq_none_of_ne (h : c ≠ '$') (s : List Char) : read (c :: s) = none := by
  rw [read]
  rintro d t hs
  exact h (List.cons.inj hs).1

theorem expand_append_of_plain (h : '$' ∉ t) (s : List Char) :
    expand env (t ++ s) = t ++ expand env s := by
  induction t with
  | nil => rfl
  | cons c t ih =>
    obtain ⟨hc, ht⟩ := List.ne_and_not_mem_of_not_mem_cons h
    rw [List.cons_append, expand_cons_of_read env (read_eq_none_of_ne (Ne.symm hc) _), ih ht,
      List.cons_append]

/-- Whether a placeholder is written anywhere in a text. -/
def Occurs (s : List Char) : Prop := ∃ p w, Written p w ∧ w <:+: s

theorem expand_of_not_occurs (h : ¬ Occurs s) : expand env s = s := by
  induction s with
  | nil => exact expand_nil env
  | cons c s ih =>
    have hread : read (c :: s) = none := by
      refine Option.eq_none_iff_forall_ne_some.2 fun ⟨p, r⟩ hread => ?_
      obtain ⟨w, hw, hs⟩ := written_of_read hread
      exact h ⟨p, w, hw, [], r, by rw [hs, List.nil_append]⟩
    have hrest : ¬ Occurs s := fun ⟨p, w, hw, hin⟩ => h ⟨p, w, hw, List.infix_cons hin⟩
    rw [expand_cons_of_read env hread, ih hrest]

/-! ## The whole pass -/

/-- A part of a text: a text without a dollar sign, or a placeholder of either form. -/
inductive Piece
  | text (s : List Char) (plain : '$' ∉ s)
  | bare (name : List Char) (hname : IsName name)
  | withDefault (name fallback : List Char) (hname : IsName name) (hopen : '\x7d' ∉ fallback)

namespace Piece

def written : Piece → List Char
  | text s _ => s
  | bare name _ => '$' :: '\x7b' :: (name ++ ['\x7d'])
  | withDefault name fallback _ _ =>
    '$' :: '\x7b' :: (name ++ ':' :: '-' :: (fallback ++ ['\x7d']))

/-- What stands in the place of a piece: a text itself, a variable's value if it is set, else the
default, else nothing. -/
def filled (env : String → Option String) : Piece → List Char
  | text s _ => s
  | bare name _ => ((env (String.ofList name)).map String.toList).getD []
  | withDefault name fallback _ _ => ((env (String.ofList name)).map String.toList).getD fallback

end Piece

theorem value_eq (p : Placeholder) :
    p.value env = ((env p.name).map String.toList).getD p.fallback := by
  rw [value]
  cases env p.name <;> rfl

theorem expand_written_append (q : Piece) (s : List Char) :
    expand env (q.written ++ s) = q.filled env ++ expand env s := by
  cases q with
  | text t plain => exact expand_append_of_plain env plain s
  | bare name hname =>
    rw [Piece.written, expand_of_written env (.bare hname), value_eq, Piece.filled]
  | withDefault name fallback hname hopen =>
    rw [Piece.written, expand_of_written env (.withDefault hname hopen), value_eq, Piece.filled]

/-- **Placeholders are filled in once, from left to right.** In a text made of pieces every
placeholder gives way to what stands for it, which is not looked at again, and all else stays. A
text in which no placeholder is written stays as it is. -/
theorem expand_pieces (env : String → Option String) :
    (∀ pieces : List Piece,
      expand env (pieces.flatMap Piece.written) = pieces.flatMap (Piece.filled env)) ∧
    ∀ s, ¬ Occurs s → expand env s = s := by
  refine ⟨fun pieces => ?_, fun s h => expand_of_not_occurs env h⟩
  induction pieces with
  | nil => exact expand_nil env
  | cons q pieces ih => rw [List.flatMap_cons, List.flatMap_cons, expand_written_append, ih]

end SchemaCatalog.Placeholder
