import SchemaCatalog.Text.CombiningClass
import SchemaCatalog.Text.Decomposition

/-!
# Composed form of texts

Texts that look the same have the same composed form: each character is taken apart, marks are put
in the order of their classes, and characters are put together again as far as possible.

* `Text.composed`: the composed form.
-/

namespace SchemaCatalog.Text

/-- A run of marks in the order of their classes. -/
def inOrder (run : List Char) : List Char :=
  run.mergeSort fun a b => decide (combiningClass a ≤ combiningClass b)

/-- Puts runs of marks in the order of their classes; marks of one class keep their order. -/
def sortMarks : List Char → List Char → List Char
  | run, [] => inOrder run
  | run, c :: cs =>
    if combiningClass c = 0 then inOrder run ++ c :: sortMarks [] cs
    else sortMarks (run ++ [c]) cs

/-- Puts characters together. `first` is the last one without a class, `between` what stands after
it, in reverse order, and `last` the class of the last one of these. A character cannot pass another
of its class. -/
def joinAfter (first : Char) (between : List Char) (last : Nat) : List Char → List Char
  | [] => first :: between.reverse
  | c :: cs =>
    let k := combiningClass c
    let joined := if between.isEmpty ∨ last < k then compose? first c else none
    match joined with
    | some d => joinAfter d between last cs
    | none =>
      if k = 0 then first :: between.reverse ++ joinAfter c [] 0 cs
      else joinAfter first (c :: between) k cs

/-- Puts the characters of a text together. -/
def join : List Char → List Char
  | [] => []
  | c :: cs => if combiningClass c = 0 then joinAfter c [] 0 cs else c :: join cs

/-- The composed form of a text. -/
def composed (s : List Char) : List Char := join (sortMarks [] (s.flatMap decompose))

end SchemaCatalog.Text
