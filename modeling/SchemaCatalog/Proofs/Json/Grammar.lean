import SchemaCatalog.Json.Number
import SchemaCatalog.Text.Hex

/-!
# The grammar of JSON

Which texts are written for a value, told without any reader. A value may be written in many ways:
with blanks between its tokens, with characters as escapes, with an exponent in either case.

* `Json.Blank`: insignificant white space.
* `Json.Quoted`: a text between quotes, each character as it is or as an escape. Characters beyond
  the first 65536 are escaped as a pair, so no half of a pair stands alone.
* `Json.Literal.Spelled`: a number literal. `Json.Number.Spelled`: the numbers that literals stand
  for, as long as a condition on literals is met.
* `Json.Spells`: values, up to a depth.
-/

namespace SchemaCatalog.Json

/-- White space that may stand between tokens. -/
def Blank (s : List Char) : Prop := ∀ c ∈ s, c ∈ [' ', '\n', '\r', '\t']

/-! ## Texts -/

def HexDigit (c : Char) (v : Nat) : Prop := v < 16 ∧ (c = Hex.digit v ∨ c = Hex.upperDigit v)

inductive FourDigits : List Char → Nat → Prop
  | mk {a b c d : Char} {i j k l n : Nat} (ha : HexDigit a i) (hb : HexDigit b j)
      (hc : HexDigit c k) (hd : HexDigit d l) (hn : n = 4096 * i + 256 * j + 16 * k + l) :
    FourDigits [a, b, c, d] n

/-- The characters with an escape of one letter. -/
inductive ShortEscape : Char → Char → Prop
  | quote : ShortEscape '"' '"'
  | backslash : ShortEscape '\\' '\\'
  | slash : ShortEscape '/' '/'
  | backspace : ShortEscape 'b' (Char.ofNat 8)
  | formFeed : ShortEscape 'f' (Char.ofNat 12)
  | newline : ShortEscape 'n' '\n'
  | carriageReturn : ShortEscape 'r' '\r'
  | tab : ShortEscape 't' '\t'

def highHalf (c : Char) : Nat := 0xD800 + (c.toNat - 0x10000) / 0x400

def lowHalf (c : Char) : Nat := 0xDC00 + (c.toNat - 0x10000) % 0x400

/-- What is written between the quotes of a text. -/
inductive Quoted : List Char → List Char → Prop
  | nil : Quoted [] []
  | plain {c : Char} {cs s : List Char} (hprint : 32 ≤ c.toNat) (hquote : c ≠ '"')
      (hback : c ≠ '\\') (h : Quoted cs s) : Quoted (c :: cs) (c :: s)
  | short {e c : Char} {cs s : List Char} (he : ShortEscape e c) (h : Quoted cs s) :
    Quoted (c :: cs) ('\\' :: e :: s)
  | unit {c : Char} {w cs s : List Char} (hw : FourDigits w c.toNat) (h : Quoted cs s) :
    Quoted (c :: cs) ('\\' :: 'u' :: (w ++ s))
  | pair {c : Char} {w w' cs s : List Char} (hc : 0x10000 ≤ c.toNat)
      (hw : FourDigits w (highHalf c)) (hw' : FourDigits w' (lowHalf c)) (h : Quoted cs s) :
    Quoted (c :: cs) ('\\' :: 'u' :: (w ++ '\\' :: 'u' :: (w' ++ s)))

/-! ## Numbers -/

def Digits (s : List Char) : Prop := s ≠ [] ∧ ∀ c ∈ s, c.isDigit = true

/-- The digits before the point, without a leading zero. -/
inductive Whole : List Char → Prop
  | zero : Whole ['0']
  | digits {c : Char} {s : List Char} (hc : c ≠ '0') (h : Digits (c :: s)) : Whole (c :: s)

inductive Fraction : Option (List Char) → List Char → Prop
  | absent : Fraction none []
  | present {s : List Char} (h : Digits s) : Fraction (some s) ('.' :: s)

inductive Exponent : Option (Bool × List Char) → List Char → Prop
  | absent : Exponent none []
  | unsigned {e : Char} {s : List Char} (he : e = 'e' ∨ e = 'E') (h : Digits s) :
    Exponent (some (false, s)) (e :: s)
  | plus {e : Char} {s : List Char} (he : e = 'e' ∨ e = 'E') (h : Digits s) :
    Exponent (some (false, s)) (e :: '+' :: s)
  | minus {e : Char} {s : List Char} (he : e = 'e' ∨ e = 'E') (h : Digits s) :
    Exponent (some (true, s)) (e :: '-' :: s)

/-- A literal as it is written. -/
inductive Literal.Spelled : Literal → List Char → Prop
  | unsigned {w s t : List Char} {f : Option (List Char)} {x : Option (Bool × List Char)}
      (hw : Whole w) (hf : Fraction f s) (hx : Exponent x t) :
    Literal.Spelled ⟨false, w, f, x⟩ (w ++ (s ++ t))
  | minus {w s t : List Char} {f : Option (List Char)} {x : Option (Bool × List Char)}
      (hw : Whole w) (hf : Fraction f s) (hx : Exponent x t) :
    Literal.Spelled ⟨true, w, f, x⟩ ('-' :: (w ++ (s ++ t)))

/-- A number as it is written. An integer that fits 64 bits is written in its decimal digits, and
any other literal is a real number, which has to meet the condition `ok`. -/
inductive Number.Spelled (ok : Literal → Prop) : Number → List Char → Prop
  | natural (n : UInt64) : Number.Spelled ok (.natural n) (Nat.toDigits 10 n.toNat)
  | negative {n : Nat} (hpos : 1 ≤ n) (hle : n ≤ Nat.pow 2 63) :
    Number.Spelled ok (.negative n) ('-' :: Nat.toDigits 10 n)
  | real {l : Literal} {s : List Char} (hl : l.Spelled s)
      (hnat : ∀ n : UInt64, s ≠ Nat.toDigits 10 n.toNat)
      (hneg : ∀ n, 1 ≤ n → n ≤ Nat.pow 2 63 → s ≠ '-' :: Nat.toDigits 10 n) (hok : ok l) :
    Number.Spelled ok (.real l.text) s

/-! ## Values -/

/-- The name of a member with the colon after it. -/
inductive Key : String → List Char → Prop
  | mk {a b cs s : List Char} (ha : Blank a) (hs : Quoted cs s) (hb : Blank b) :
    Key (String.ofList cs) (a ++ '"' :: (s ++ '"' :: (b ++ [':'])))

/-- The parts of a value that the grammar tells apart: a value on its own, one with blanks around
it, and the items of a list or members of an object, at least one. -/
inductive Node
  | value (v : Json)
  | element (v : Json)
  | items (vs : List Json)
  | members (ms : List (String × Json))

/-- How values are written, with at most `d` levels of lists and objects inside one another and with
real numbers that meet the condition `ok`. -/
inductive Spells (ok : Literal → Prop) : Nat → Node → List Char → Prop
  | null {d : Nat} : Spells ok d (.value null) ['n', 'u', 'l', 'l']
  | true {d : Nat} : Spells ok d (.value (bool Bool.true)) ['t', 'r', 'u', 'e']
  | false {d : Nat} : Spells ok d (.value (bool Bool.false)) ['f', 'a', 'l', 's', 'e']
  | number {d : Nat} {n : Number} {s : List Char} (h : n.Spelled ok s) :
    Spells ok d (.value (number n)) s
  | string {d : Nat} {cs s : List Char} (h : Quoted cs s) :
    Spells ok d (.value (string (String.ofList cs))) ('"' :: (s ++ ['"']))
  | emptyArray {d : Nat} {b : List Char} (hb : Blank b) :
    Spells ok (d + 1) (.value (array [])) ('[' :: (b ++ [']']))
  | array {d : Nat} {vs : List Json} {s : List Char} (h : Spells ok d (.items vs) s) :
    Spells ok (d + 1) (.value (array vs)) ('[' :: (s ++ [']']))
  | emptyObject {d : Nat} {b : List Char} (hb : Blank b) :
    Spells ok (d + 1) (.value (object [])) ('\x7b' :: (b ++ ['\x7d']))
  | object {d : Nat} {ms : List (String × Json)} {s : List Char}
      (h : Spells ok d (.members ms) s) :
    Spells ok (d + 1) (.value (object ms)) ('\x7b' :: (s ++ ['\x7d']))
  | element {d : Nat} {v : Json} {a s b : List Char} (ha : Blank a)
      (h : Spells ok d (.value v) s) (hb : Blank b) : Spells ok d (.element v) (a ++ (s ++ b))
  | lastItem {d : Nat} {v : Json} {s : List Char} (h : Spells ok d (.element v) s) :
    Spells ok d (.items [v]) s
  | item {d : Nat} {v : Json} {vs : List Json} {s t : List Char} (h : Spells ok d (.element v) s)
      (ht : Spells ok d (.items vs) t) : Spells ok d (.items (v :: vs)) (s ++ ',' :: t)
  | lastMember {d : Nat} {name : String} {v : Json} {k s : List Char} (hk : Key name k)
      (h : Spells ok d (.element v) s) : Spells ok d (.members [(name, v)]) (k ++ s)
  | member {d : Nat} {name : String} {v : Json} {ms : List (String × Json)} {k s t : List Char}
      (hk : Key name k) (h : Spells ok d (.element v) s) (ht : Spells ok d (.members ms) t) :
    Spells ok d (.members ((name, v) :: ms)) (k ++ (s ++ ',' :: t))

end SchemaCatalog.Json
