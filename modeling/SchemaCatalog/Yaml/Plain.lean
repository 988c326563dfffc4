import SchemaCatalog.Yaml.Cursor

/-!
# Scalars without quotes

* `Yaml.readPlain`: a scalar that ends at an indicator, a comment or a line that is not indented
  enough.
-/

namespace SchemaCatalog.Yaml

/-- A comma, bracket or brace. -/
def isFlowIndicator (c : Char) : Bool :=
  c = ',' || c = '[' || c = ']' || c = '\x7b' || c = '\x7d'

/-- Splits the piece up to a blank or an indicator off the front of a text; `inFlow` says that it is
between brackets. There a colon in front of an indicator is refused. -/
def splitPiece (inFlow : Bool) : List Char → Option (List Char × List Char)
  | [] => some ([], [])
  | c :: cs =>
    if isBlank c || isBreak c then some ([], c :: cs)
    else if inFlow && c = ':' && cs.head?.any fun d => isFlowIndicator d || d = '?' then
      none
    else if (c = ':' && atBlankOrEnd cs) || (inFlow && isFlowIndicator c) then some ([], c :: cs)
    else (splitPiece inFlow cs).map fun r => (c :: r.1, r.2)

/-- A scalar that was read, whether a line end follows it, and the place after the gap. -/
structure PlainText where
  text : List Char
  broken : Bool
  cursor : Cursor
  deriving Repr

/-- Reads the pieces of a scalar. `margin` is the column that further lines have to reach, and `gap`
what stands before the next piece; it only counts if there is one. -/
def readPlain (inFlow : Bool) (margin : Nat) : Nat → Gap → Cursor → Option PlainText
  | 0, gap, c => some ⟨[], gap.broken, c⟩
  | fuel + 1, gap, c =>
    if (c.column = 0 ∧ atDocumentMark c.rest) ∨ c.rest.head? = some '#' then
      some ⟨[], gap.broken, c⟩
    else do
      let (piece, rest) ← splitPiece inFlow c.rest
      let (front, gap) := if piece.isEmpty then ([], gap) else (gap.text ++ piece, .none)
      let c := c.skipTo rest
      if atBlankOrEnd rest = false ∨ rest.isEmpty then return ⟨front, gap.broken, c⟩
      let (gap, c) ← readBlanks margin fuel gap c
      if inFlow = false ∧ c.column < margin then return ⟨front, gap.broken, c⟩
      let r ← readPlain inFlow margin fuel gap c
      return { r with text := front ++ r.text }

end SchemaCatalog.Yaml
