import SchemaCatalog.Yaml.Block
import SchemaCatalog.Yaml.Plain
import SchemaCatalog.Yaml.Quoted
import SchemaCatalog.Yaml.Tag

/-!
# Cutting a YAML text into tokens

* `Yaml.Lexer`: the state between two tokens: the place, the open indentations, and for each bracket
  level the token that may yet turn out to be a key.
* `Lexer.step`: reads the next token.
* `Yaml.tokens`: all tokens of a text.
-/

namespace SchemaCatalog.Yaml

/-- A token after which a colon may come or has to, which makes it a key; `number` tokens come
before it. -/
structure PossibleKey where
  required : Bool
  number : Nat
  place : Cursor
  deriving Repr

/-- The state between two tokens: the place in the text, the number of open brackets and braces, the
column of the innermost block, `-1` outside of all, the columns of those around it, whether a key
may start here, the possible key of each bracket level, the innermost first, the tokens so far, and
whether the end of the text was told. -/
structure Lexer where
  cursor : Cursor
  depth : Nat
  indent : Int
  outer : List Int
  keyAllowed : Bool
  keys : List (Option PossibleKey)
  tokens : Array Token
  ended : Bool
  deriving Repr

namespace Lexer

def start (s : List Char) : Lexer := ⟨.start s, 0, -1, [], true, [none], #[.streamStart], false⟩

/-- Whether the place is between brackets. -/
def inFlow (l : Lexer) : Bool := l.depth ≠ 0

def emit (l : Lexer) (t : Token) : Lexer := { l with tokens := l.tokens.push t }

def moveTo (l : Lexer) (c : Cursor) : Lexer := { l with cursor := c }

/-- Says whether a key may start next. -/
def allowKey (l : Lexer) (b : Bool) : Lexer := { l with keyAllowed := b }

/-! ## Indentation -/

/-- Opens a block at a column that is further right than the innermost block. Its token is added as
token number `number`. -/
def openBlock (l : Lexer) (column number : Nat) (t : Token) : Lexer :=
  if l.inFlow = false ∧ l.indent < column then
    { l with
      indent := column
      outer := l.indent :: l.outer
      tokens := l.tokens.insertIdxIfInBounds number t }
  else l

/-- The block around the innermost one, and the number of blocks to close until the indentation is
at most `column`. -/
def unwind (column : Int) : Int → List Int → Nat × Int × List Int
  | indent, [] => (0, indent, [])
  | indent, i :: outer =>
    if column < indent then
      let r := unwind column i outer
      (r.1 + 1, r.2)
    else (0, indent, i :: outer)

/-- Closes all blocks that are further right than `column`. -/
def closeBlocks (l : Lexer) (column : Int) : Lexer :=
  if l.inFlow then l
  else
    let (n, indent, outer) := unwind column l.indent l.outer
    { l with indent, outer, tokens := l.tokens ++ Array.replicate n Token.blockEnd }

/-! ## Possible keys -/

/-- Gives up possible keys on earlier lines and those more than 1024 characters back; fails for one
that had to be a key. -/
def dropStale (l : Lexer) : Option Lexer := do
  let keys ← l.keys.mapM fun k =>
    match k with
    | none => some none
    | some k =>
      if k.place.line < l.cursor.line ∨ k.place.index + 1024 < l.cursor.index then
        if k.required then .none else some none
      else some (some k)
  return { l with keys }

/-- Gives up the possible key of this bracket level; fails if it had to be a key. -/
def dropKey (l : Lexer) : Option Lexer :=
  match l.keys with
  | some k :: keys => if k.required then none else some { l with keys := none :: keys }
  | _ => some l

/-- Notes that the next token may be a key. It has to be one if it starts a line of the innermost
block. -/
def noteKey (l : Lexer) : Option Lexer :=
  if l.keyAllowed then do
    let required := !l.inFlow && l.indent = l.cursor.column
    let l ← l.dropKey
    return { l with keys := some ⟨required, l.tokens.size, l.cursor⟩ :: l.keys.drop 1 }
  else some l

/-! ## Blanks and comments -/

/-- Moves over blanks, comments and line ends. Outside brackets a key may start after a line end,
and where one may start a tab is not skipped. -/
def skipGap : Nat → Lexer → Lexer
  | 0, l => l
  | fuel + 1, l =>
    let c := l.cursor
    let c := if c.index = 0 ∧ c.rest.head? = some (Char.ofNat 0xFEFF) then c.skip else c
    let c := c.skipWhile fun x => x = ' ' || ((l.inFlow || !l.keyAllowed) && x = '\t')
    let c := if c.rest.head? = some '#' then c.skipWhile fun x => !isBreak x else c
    if (c.rest.head?.map isBreak).getD false then
      skipGap fuel ((l.moveTo c.skipLine).allowKey (l.keyAllowed || !l.inFlow))
    else l.moveTo c

/-! ## Tokens -/

/-- Adds a token of `n` characters. -/
def take (l : Lexer) (n : Nat) (t : Token) : Lexer := (l.moveTo (l.cursor.skipN n)).emit t

def finish (l : Lexer) : Option Lexer := do
  let l ← (l.closeBlocks (-1)).dropKey
  return { l.emit .streamEnd with ended := true }

def readDirective (l : Lexer) : Option Lexer := do
  let l ← (l.closeBlocks (-1)).dropKey
  let (t, c) ← Yaml.readDirective l.cursor
  return ((l.allowKey false).moveTo c).emit t

/-- Three dashes or points. -/
def documentMark (l : Lexer) (t : Token) : Option Lexer := do
  let l ← (l.closeBlocks (-1)).dropKey
  return (l.allowKey false).take 3 t

def openFlow (l : Lexer) (t : Token) : Option Lexer := do
  let l ← l.noteKey
  return { (l.allowKey true).take 1 t with depth := l.depth + 1, keys := none :: l.keys }

def closeFlow (l : Lexer) (t : Token) : Option Lexer := do
  let l ← l.dropKey
  let keys := if l.inFlow then l.keys.drop 1 else l.keys
  return { (l.allowKey false).take 1 t with depth := l.depth - 1, keys }

def flowEntry (l : Lexer) : Option Lexer := do
  let l ← l.dropKey
  return (l.allowKey true).take 1 .flowEntry

def blockEntry (l : Lexer) : Option Lexer := do
  if l.inFlow = false ∧ l.keyAllowed = false then .none
  let l ← (l.openBlock l.cursor.column l.tokens.size .blockSequenceStart).dropKey
  return (l.allowKey true).take 1 .blockEntry

/-- A question mark in front of a key. -/
def explicitKey (l : Lexer) : Option Lexer := do
  if l.inFlow = false ∧ l.keyAllowed = false then .none
  let l ← (l.openBlock l.cursor.column l.tokens.size .blockMappingStart).dropKey
  return (l.allowKey (!l.inFlow)).take 1 .key

/-- A colon. If a possible key stands before it, that is a key. -/
def keyValue (l : Lexer) : Option Lexer :=
  match l.keys with
  | some k :: keys =>
    let l := { l with keys := none :: keys, tokens := l.tokens.insertIdxIfInBounds k.number .key }
    let l := l.openBlock k.place.column k.number .blockMappingStart
    some ((l.allowKey false).take 1 .value)
  | _ =>
    if l.inFlow = false ∧ l.keyAllowed = false then none
    else
      let l := l.openBlock l.cursor.column l.tokens.size .blockMappingStart
      some ((l.allowKey (!l.inFlow)).take 1 .value)

/-- Whether a name of an anchor may end here. -/
def endsName (s : List Char) : Bool :=
  atBlankOrEnd s ||
    (s.head?.map fun c => ['?', ':', ',', ']', '\x7d', '%', '@', '\x60'].contains c).getD false

/-- An anchor or a reference to one. -/
def name (l : Lexer) (t : String → Token) : Option Lexer := do
  let l ← l.noteKey
  let c := l.cursor.skip
  let word := c.rest.takeWhile isWord
  let c := c.skipN word.length
  if word.isEmpty ∨ endsName c.rest = false then .none
  return ((l.allowKey false).moveTo c).emit (t (String.ofList word))

def readTag (l : Lexer) : Option Lexer := do
  let l ← l.noteKey
  let (t, c) ← Yaml.readTag l.inFlow l.cursor
  return ((l.allowKey false).moveTo c).emit t

def blockScalar (l : Lexer) (style : Style) : Option Lexer := do
  let l ← l.dropKey
  let (text, c) ← readBlock (style = .folded) l.indent l.cursor.skip
  return ((l.allowKey true).moveTo c).emit (.scalar (String.ofList text) style)

def quotedScalar (l : Lexer) (style : Style) : Option Lexer := do
  let l ← l.noteKey
  let c := l.cursor.skip
  let fuel := c.rest.length + 1
  let (text, c) ← if style = .singleQuoted then readSingleQuoted fuel c else readDoubleQuoted fuel c
  return ((l.allowKey false).moveTo c).emit (.scalar (String.ofList text) style)

/-- A scalar without quotes. A key may start after it if it ends with its line. -/
def plainScalar (l : Lexer) : Option Lexer := do
  let l ← l.noteKey
  let c := l.cursor
  let r ← readPlain l.inFlow (l.indent + 1).toNat (c.rest.length + 1) .none c
  return ((l.allowKey r.broken).moveTo r.cursor).emit (.scalar (String.ofList r.text) .plain)

/-- Whether a scalar without quotes may start with `c` in front of `rest`. -/
def startsPlain (inFlow : Bool) (c : Char) (rest : List Char) : Bool :=
  if c = '-' then !((rest.head?.map isBlank).getD false)
  else if c = '?' || c = ':' then !inFlow && !atBlankOrEnd rest
  else !(isBlank c || isBreak c || isFlowIndicator c ||
    ['#', '&', '*', '!', '|', '>', '\x27', '"', '%', '@', '\x60'].contains c)

/-- Reads a token that starts with `c` in front of `rest`. -/
def readToken (l : Lexer) (c : Char) (rest : List Char) : Option Lexer :=
  if l.cursor.column = 0 ∧ c = '%' then l.readDirective
  else if l.cursor.column = 0 ∧ atDocumentMark (c :: rest) then
    l.documentMark (if c = '-' then .documentStart else .documentEnd)
  else
    match c with
    | '[' => l.openFlow .flowSequenceStart
    | '\x7b' => l.openFlow .flowMappingStart
    | ']' => l.closeFlow .flowSequenceEnd
    | '\x7d' => l.closeFlow .flowMappingEnd
    | ',' => l.flowEntry
    | '*' => l.name .alias
    | '&' => l.name .anchor
    | '!' => l.readTag
    | '\x27' => l.quotedScalar .singleQuoted
    | '"' => l.quotedScalar .doubleQuoted
    | _ =>
      if c = '-' ∧ atBlankOrEnd rest then l.blockEntry
      else if c = '?' ∧ (l.inFlow ∨ atBlankOrEnd rest) then l.explicitKey
      else if c = ':' ∧ (l.inFlow ∨ atBlankOrEnd rest) then l.keyValue
      else if c = '|' ∧ l.inFlow = false then l.blockScalar .literal
      else if c = '>' ∧ l.inFlow = false then l.blockScalar .folded
      else if startsPlain l.inFlow c rest then l.plainScalar
      else none

/-- Reads the next token, with the ends of the blocks before it. -/
def step (l : Lexer) : Option Lexer := do
  let l ← (skipGap (l.cursor.rest.length + 1) l).dropStale
  let l := l.closeBlocks l.cursor.column
  match l.cursor.rest with
  | [] => l.finish
  | c :: rest => l.readToken c rest

/-! ## All tokens -/

/-- The tokens of which it is settled that no key token stands in front of them. -/
def settled (l : Lexer) : List Token :=
  (l.tokens.toList).take ((l.keys.filterMap id).foldl (fun n k => min n k.number) l.tokens.size)

/-- Reads on to the end of the text, or until a token cannot be read. -/
def run : Nat → Lexer → List Token
  | 0, l => l.settled
  | fuel + 1, l =>
    if l.ended then l.tokens.toList
    else
      match l.dropStale with
      | none => l.settled
      | some l =>
        match l.step with
        | some l => run fuel l
        | none => l.settled

end Lexer

/-- The tokens of a text. If some token cannot be read, the tokens before it, and then the last one
is not `streamEnd`. -/
def tokens (s : List Char) : List Token :=
  if s.all isAllowed then Lexer.run (s.length + 2) (.start s) else [.streamStart]

end SchemaCatalog.Yaml
