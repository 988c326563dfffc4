import SchemaCatalog.Text.Percent

/-!
# Escapes in the parts of a URL

Each part of a URL has its own set of ASCII characters that are percent-encoded; controls and
everything outside ASCII are encoded in all of them.

* `Url.escape`: a text with the characters of a set encoded.
* `Url.inFragment`, `Url.inPath`, `Url.inUserinfo`, `Url.inQuery`, `Url.inSpecialQuery`: the sets.
-/

namespace SchemaCatalog.Url

/-- A text in which the characters of `set`, controls and characters outside ASCII are encoded. -/
def escape (set : Char → Bool) (s : List Char) : List Char :=
  s.flatMap fun c =>
    if c.toNat < 0x20 ∨ 0x7F ≤ c.toNat ∨ set c then
      (String.utf8EncodeChar c).flatMap Percent.escapeByte
    else [c]

/-- Only controls. -/
def inControls (_ : Char) : Bool := false

def inFragment (c : Char) : Bool :=
  c = ' ' || c = '"' || c = '<' || c = '>' || c = '\x60'

def inPath (c : Char) : Bool :=
  inFragment c || c = '#' || c = '?' || c = '\x7b' || c = '\x7d'

/-- The characters encoded in a name or a password. -/
def inUserinfo (c : Char) : Bool :=
  inPath c || c = '/' || c = ':' || c = ';' || c = '=' || c = '@' || c = '[' || c = '\\' ||
  c = ']' || c = '^' || c = '|'

def inQuery (c : Char) : Bool :=
  c = ' ' || c = '"' || c = '#' || c = '<' || c = '>'

/-- The characters encoded in the query of a scheme with a host. -/
def inSpecialQuery (c : Char) : Bool := inQuery c || c = '\x27'

end SchemaCatalog.Url
