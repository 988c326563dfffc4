import SchemaCatalog.Text.Hex

/-!
# Numbers in a base

* `Digits.number?`: the number that digits spell in a base of at most sixteen. Letters count in
  either case.
-/

namespace SchemaCatalog.Digits

def value? (base : Nat) (c : Char) : Option Nat := (Hex.value? c.toNat).filter (· < base)

/-- The number that digits spell, the most significant one first; no digits spell zero. -/
def number? (base : Nat) (s : List Char) : Option Nat :=
  (s.mapM (value? base)).map fun ds => ds.foldl (fun n d => base * n + d) 0

end SchemaCatalog.Digits
