/-!
# Width of ids in envelopes

* `IdEncoding`: eight bytes or, in the older form, four.
* `IdEncoding.ofText?`: reads a name in any letter case.
* `IdEncoding.ofVariant?`: reads a name as a configuration spells it.
-/

namespace SchemaCatalog

/-- How wide the id in an envelope is: eight bytes, or four. -/
inductive IdEncoding
  | wide
  | legacy
  deriving DecidableEq, Repr

namespace IdEncoding

def name : IdEncoding → String
  | wide => "default"
  | legacy => "legacy"

/-- The spellings that a configuration may use. -/
def spellings : List (String × IdEncoding) := [("default", wide), ("legacy", legacy)]

def ofVariant? (s : String) : Option IdEncoding := spellings.lookup s

/-- The encoding with this name in any letter case. No letter outside ASCII has one of the letters
of the two names as its lower case, so that the case of ASCII letters decides. -/
def ofText? (s : String) : Option IdEncoding :=
  ofVariant? (String.ofList (s.toList.map Char.toLower))

/-- What is said about a text that names no encoding. -/
def unknownMessage (s : String) : String := s!"Configuration error: Unknown id encoding: {s}"

def width : IdEncoding → Nat
  | wide => 8
  | legacy => 4

end IdEncoding

end SchemaCatalog
