import SchemaCatalog.Json.Basic
import SchemaCatalog.Text.Hex

/-!
# Writing JSON

* `Json.quote`: a text in quotes with its escapes.
* `Json.render`: a value without any blanks.
-/

namespace SchemaCatalog.Json

def escapeChar (c : Char) : List Char :=
  if c = '"' then ['\\', '"']
  else if c = '\\' then ['\\', '\\']
  else if c = '\n' then ['\\', 'n']
  else if c = '\r' then ['\\', 'r']
  else if c = '\t' then ['\\', 't']
  else if c.toNat < 32 then
    ['\\', 'u', '0', '0', Hex.digit (c.toNat / 16), Hex.digit (c.toNat % 16)]
  else [c]

def quote (s : List Char) : List Char :=
  '"' :: s.flatMap escapeChar ++ ['"']

namespace Number

def render : Number → List Char
  | natural n => Nat.toDigits 10 n.toNat
  | negative n => '-' :: Nat.toDigits 10 n
  | real literal => literal.toList

end Number

mutual

def render : Json → List Char
  | null => ['n', 'u', 'l', 'l']
  | bool true => ['t', 'r', 'u', 'e']
  | bool false => ['f', 'a', 'l', 's', 'e']
  | number n => n.render
  | string s => quote s.toList
  | array items => '[' :: renderItems items ++ [']']
  | object members => '\x7b' :: renderMembers members ++ ['\x7d']

/-- The items of a list with commas between them. -/
def renderItems : List Json → List Char
  | [] => []
  | [v] => render v
  | v :: w :: rest => render v ++ ',' :: renderItems (w :: rest)

/-- The members of an object with commas between them. -/
def renderMembers : List (String × Json) → List Char
  | [] => []
  | [(n, v)] => quote n.toList ++ ':' :: render v
  | (n, v) :: m :: rest => quote n.toList ++ ':' :: render v ++ ',' :: renderMembers (m :: rest)

end

end SchemaCatalog.Json
