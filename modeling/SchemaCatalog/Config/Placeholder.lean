/-!
# Placeholders

A placeholder is a name in braces after a dollar sign; after the name `:-` and a default may follow.

* `Placeholder.read`: a placeholder at the front of a text.
* `Placeholder.expand`: a text with its placeholders filled in, in one pass from left to right. What
  is filled in is not looked at again.
-/

namespace SchemaCatalog

/-- The name of a variable to be filled in, and what stands in for one that is not set. -/
structure Placeholder where
  name : String
  fallback : List Char
  deriving DecidableEq, Repr

namespace Placeholder

def isNameStart (c : Char) : Bool := c.isAlpha || c = '_'

def isNameChar (c : Char) : Bool := c.isAlphanum || c = '_'

/-- Reads the rest of a placeholder after its name. -/
def readFallback : List Char → Option (List Char × List Char)
  | '\x7d' :: rest => some ([], rest)
  | ':' :: '-' :: s =>
    match s.dropWhile (· ≠ '\x7d') with
    | _ :: rest => some (s.takeWhile (· ≠ '\x7d'), rest)
    | [] => none
  | _ => none

/-- Reads a placeholder at the front of a text. -/
def read : List Char → Option (Placeholder × List Char)
  | '$' :: '\x7b' :: c :: s =>
    if isNameStart c then
      match readFallback (s.dropWhile isNameChar) with
      | some (fallback, rest) =>
        some (⟨String.ofList (c :: s.takeWhile isNameChar), fallback⟩, rest)
      | none => none
    else none
  | _ => none

/-- What is filled in. -/
def value (p : Placeholder) (env : String → Option String) : List Char :=
  match env p.name with
  | some v => v.toList
  | none => p.fallback

theorem length_dropWhile_le (p : Char → Bool) (s : List Char) : (s.dropWhile p).length ≤ s.length :=
  (List.dropWhile_sublist p).length_le

theorem length_of_readFallback {s d r : List Char} (h : readFallback s = some (d, r)) :
    r.length < s.length := by
  unfold readFallback at h
  split at h
  · cases h
    simp
  · rename_i t
    have := length_dropWhile_le (· ≠ '\x7d') t
    split at h
    · rename_i heq
      cases h
      rw [heq] at this
      simp only [List.length_cons] at this ⊢
      omega
    · cases h
  · cases h

theorem length_of_read {s r : List Char} {p : Placeholder} (h : read s = some (p, r)) :
    r.length < s.length := by
  unfold read at h
  split at h
  · rename_i t
    split at h
    · split at h
      · rename_i heq
        cases h
        have := length_of_readFallback heq
        have := length_dropWhile_le isNameChar t
        simp only [List.length_cons]
        omega
      · cases h
    · cases h
  · cases h

/-- Fills in the placeholders of a text. -/
def expand (env : String → Option String) (s : List Char) : List Char :=
  match _h : read s with
  | some (p, rest) => p.value env ++ expand env rest
  | none =>
    match s with
    | [] => []
    | c :: cs => c :: expand env cs
termination_by s.length
decreasing_by
  · exact length_of_read ‹_›
  · simp

def names (s : List Char) : List String :=
  match _h : read s with
  | some (p, rest) => p.name :: names rest
  | none =>
    match s with
    | [] => []
    | _ :: cs => names cs
termination_by s.length
decreasing_by
  · exact length_of_read ‹_›
  · simp

end Placeholder

end SchemaCatalog
