/-!
# Places in a YAML text

* `Yaml.Cursor`: what is left of a text, and where that starts.
* `Cursor.skip`, `Cursor.skipLine`, `Cursor.skipWhile`: the moves.
* `Yaml.readBlanks`: blanks and line ends between the pieces of a scalar.
-/

namespace SchemaCatalog.Yaml

/-! ## Characters -/

def isBlank (c : Char) : Bool := c = ' ' || c = '\t'

/-- A character that ends a line. -/
def isBreak (c : Char) : Bool :=
  c = '\n' || c = '\r' || c.toNat = 0x85 || c.toNat = 0x2028 || c.toNat = 0x2029

/-- Whether a text is at its end, a blank or a line end. -/
def atBlankOrEnd : List Char → Bool
  | [] => true
  | c :: _ => isBlank c || isBreak c

/-- Whether a text is at its end or a line end. -/
def atBreakOrEnd : List Char → Bool
  | [] => true
  | c :: _ => isBreak c

def isWord (c : Char) : Bool := c.isAlphanum || c = '-' || c = '_'

/-- Whether a character may stand in a YAML text. -/
def isAllowed (c : Char) : Bool :=
  let n := c.toNat
  n = 0x09 || n = 0x0A || n = 0x0D || (0x20 ≤ n && n ≤ 0x7E) || n = 0x85 ||
  (0xA0 ≤ n && n ≤ 0xD7FF) || (0xE000 ≤ n && n ≤ 0xFFFD) || 0x10000 ≤ n

/-- Whether three dashes or three points stand here on their own. -/
def atDocumentMark : List Char → Bool
  | '-' :: '-' :: '-' :: rest => atBlankOrEnd rest
  | '.' :: '.' :: '.' :: rest => atBlankOrEnd rest
  | _ => false

/-! ## Moves -/

/-- A place in a text: what is left from here on, the number of characters and lines before it, and
the number of characters before it in this line. -/
structure Cursor where
  rest : List Char
  index : Nat
  line : Nat
  column : Nat
  deriving DecidableEq, Repr

namespace Cursor

def start (s : List Char) : Cursor := ⟨s, 0, 0, 0⟩

/-- The place after one character within a line. -/
def skip (c : Cursor) : Cursor := ⟨c.rest.drop 1, c.index + 1, c.line, c.column + 1⟩

/-- The place after `n` characters within a line. -/
def skipN (n : Nat) (c : Cursor) : Cursor := ⟨c.rest.drop n, c.index + n, c.line, c.column + n⟩

/-- The place further on in this line where `rest` is left. -/
def skipTo (c : Cursor) (rest : List Char) : Cursor := c.skipN (c.rest.length - rest.length)

/-- The place after a line end, if there is one here; a carriage return takes a line feed with
it. -/
def skipLine (c : Cursor) : Cursor :=
  match c.rest with
  | '\r' :: '\n' :: r => ⟨r, c.index + 2, c.line + 1, 0⟩
  | b :: r => if isBreak b then ⟨r, c.index + 1, c.line + 1, 0⟩ else c
  | [] => c

/-- The place after all characters of a kind, which are within a line. -/
def skipWhile (p : Char → Bool) (c : Cursor) : Cursor :=
  c.skipN (c.rest.takeWhile p).length

/-- The line end here as it counts in a text: separators of lines and paragraphs stay, all others
are line feeds. -/
def lineBreak (c : Cursor) : List Char :=
  match c.rest with
  | b :: _ => if b.toNat = 0x2028 ∨ b.toNat = 0x2029 then [b] else if isBreak b then ['\n'] else []
  | [] => []

end Cursor

/-! ## Gaps -/

/-- Blanks and line ends between two pieces of a scalar: the blanks before the first line end, that
line end, and those after it. -/
structure Gap where
  blanks : List Char
  first : List Char
  more : List Char
  broken : Bool
  deriving DecidableEq, Repr

namespace Gap

def none : Gap := ⟨[], [], [], false⟩

/-- What a gap counts for in the text: a single line end is a space, and of several the first is
dropped. -/
def text (g : Gap) : List Char :=
  if g.broken then
    if g.first = ['\n'] then if g.more.isEmpty then [' '] else g.more
    else g.first ++ g.more
  else g.blanks

end Gap

/-- Reads blanks and line ends. In a scalar without quotes a tab may not stand left of column
`margin` after a line end. -/
def readBlanks (margin : Nat) : Nat → Gap → Cursor → Option (Gap × Cursor)
  | 0, g, c => some (g, c)
  | fuel + 1, g, c =>
    match c.rest with
    | [] => some (g, c)
    | b :: _ =>
      if isBlank b then
        if g.broken ∧ c.column < margin ∧ b = '\t' then .none
        else
          let g := if g.broken then g else { g with blanks := g.blanks ++ [b] }
          readBlanks margin fuel g c.skip
      else if isBreak b then
        readBlanks margin fuel
          (if g.broken then { g with more := g.more ++ c.lineBreak }
           else ⟨[], c.lineBreak, g.more, true⟩) c.skipLine
      else some (g, c)

end SchemaCatalog.Yaml
