import SchemaCatalog.Binary64
import SchemaCatalog.Text.Digits
import SchemaCatalog.Text.Quoted
import SchemaCatalog.Yaml.Event

/-!
# What scalars stand for

* `Yaml.Value`: null, a truth value, a number or a text.
* `Value.ofPlain`: what a scalar without quotes stands for.
* `Yaml.unsigned?`: an integer of 64 bits without a sign.
* `Yaml.Mismatch`: what stands in a text where something else is expected.
-/

namespace SchemaCatalog.Yaml

/-- What a scalar stands for. An integer has at most 128 bits; a float has a fraction or an
exponent, or is infinity. -/
inductive Value
  | null
  | bool (b : Bool)
  | integer (negative : Bool) (magnitude : Nat)
  | float (negative : Bool) (magnitude : Binary64)
  | nan
  | text (s : String)
  deriving DecidableEq, Repr

/-! ## Words -/

def isNull (s : String) : Bool := ["null", "Null", "NULL", "~"].contains s

def bool? (s : String) : Option Bool :=
  if ["true", "True", "TRUE"].contains s then some true
  else if ["false", "False", "FALSE"].contains s then some false
  else none

/-! ## Integers -/

def splitSign : List Char → Bool × List Char
  | '-' :: s => (true, s)
  | '+' :: s => (false, s)
  | s => (false, s)

/-- The number that at least one digit spells. -/
def digits? (base : Nat) (s : List Char) : Option Nat :=
  if s.isEmpty then none else Digits.number? base s

/-- The number that digits spell, with a mark in front for bases other than ten. A decimal number
has no zero in front. -/
def magnitude? : List Char → Option Nat
  | '0' :: 'x' :: s => digits? 16 s
  | '0' :: 'o' :: s => digits? 8 s
  | '0' :: 'b' :: s => digits? 2 s
  | '0' :: c :: s => if (c :: s).all Char.isDigit then none else digits? 10 ('0' :: c :: s)
  | s => digits? 10 s

def integer? (s : List Char) : Option (Bool × Nat) :=
  let (negative, digits) := splitSign s
  (magnitude? digits).map fun n => (negative, n)

/-- The integer of 64 bits that a text without a minus sign spells. -/
def unsigned? (s : String) : Option UInt64 :=
  match integer? s.toList with
  | some (false, n) => if n < Nat.pow 2 64 then some (UInt64.ofNat n) else none
  | _ => none

def fits (negative : Bool) (n : Nat) : Bool :=
  if negative then n ≤ Nat.pow 2 127 else n < Nat.pow 2 128

/-! ## Numbers with a fraction -/

/-- The exponent after the digits of a number. -/
def exponent? : List Char → Option Int
  | [] => some 0
  | e :: s =>
    if e = 'e' ∨ e = 'E' then
      let (negative, digits) := splitSign s
      (digits? 10 digits).map fun n => if negative then -(n : Int) else n
    else none

/-- The number that decimal digits with a point and an exponent spell; all but one digit may be
missing. -/
def decimal? (s : List Char) : Option Binary64 :=
  let whole := s.takeWhile Char.isDigit
  let s := s.dropWhile Char.isDigit
  let (fraction, s) :=
    match s with
    | '.' :: s => (s.takeWhile Char.isDigit, s.dropWhile Char.isDigit)
    | s => ([], s)
  match digits? 10 (whole ++ fraction), exponent? s with
  | some n, some e => some (Binary64.ofDecimal n (e - fraction.length))
  | _, _ => none

/-- The finite number, the infinity or the absence of a number that a text spells. -/
def float? (s : String) : Option Value :=
  let (negative, rest) := splitSign s.toList
  if [".inf", ".Inf", ".INF"].contains (String.ofList rest) then some (.float negative .infinite)
  else if [".nan", ".NaN", ".NAN"].contains s then some .nan
  else
    match decimal? rest with
    | some m => if m.isFinite then some (.float negative m) else none
    | none => none

/-! ## Values -/

/-- Whether a text is a decimal number with a zero too many in front. -/
def hasLeadingZero (s : List Char) : Bool :=
  match (splitSign s).2 with
  | '0' :: c :: s => (c :: s).all Char.isDigit
  | _ => false

/-- The integer of at most 128 bits that a text spells. -/
def wideInteger? (s : String) : Option Value :=
  match integer? s.toList with
  | some (negative, n) => if fits negative n then some (.integer negative n) else none
  | none => none

/-- What a scalar without quotes and without a tag stands for. -/
def Value.ofPlain (s : String) : Value :=
  if s = "" ∨ isNull s then .null
  else
    match bool? s, wideInteger? s with
    | some b, _ => .bool b
    | none, some n => n
    | none, none => if hasLeadingZero s.toList then .text s else (float? s).getD (.text s)

def Value.name : Value → String
  | null => "unit value"
  | bool b => "boolean \x60" ++ (if b then "true" else "false") ++ "\x60"
  | integer negative n =>
    let sign := if negative ∧ n ≠ 0 then "-" else ""
    let limit := if negative then Nat.pow 2 63 else Nat.pow 2 64 - 1
    let width := if n ≤ limit then "" else if negative then " as i128" else " as u128"
    "integer \x60" ++ sign ++ toString n ++ "\x60" ++ width
  | float negative m => "floating point \x60" ++ (if negative then "-" else "") ++ m.text ++ "\x60"
  | nan => "floating point \x60NaN\x60"
  | text s => "string " ++ Quoted.text s

/-! ## Mismatches -/

/-- What stands in a text where something else is expected: a value of another type, or another
value. -/
inductive Mismatch
  | type (found expected : String)
  | value (found expected : String)
  deriving DecidableEq, Repr

namespace Mismatch

def message : Mismatch → String
  | type found expected => "invalid type: " ++ found ++ ", expected " ++ expected
  | value found expected => "invalid value: " ++ found ++ ", expected " ++ expected

/-- A value of another type than `expected`. -/
def ofValue (expected : String) (v : Value) : Mismatch := type v.name expected

/-- A text that is not what its tag promises. -/
def ofTag (promised text : String) : Mismatch := value (Value.text text).name promised

/-- A scalar where something else is expected. A tag for a truth value, a number or nothing decides
how the text is read. -/
def ofScalar (expected : String) (tag : Option String) (text : String) (style : Style) : Mismatch :=
  let promise (v : Option Value) (promised : String) : Mismatch :=
    match v with
    | some v => ofValue expected v
    | none => ofTag promised text
  match tag with
  | some "tag:yaml.org,2002:bool" => promise ((bool? text).map .bool) "a boolean"
  | some "tag:yaml.org,2002:int" => promise (wideInteger? text) "an integer"
  | some "tag:yaml.org,2002:float" => promise (float? text) "a float"
  | some "tag:yaml.org,2002:null" => promise (if isNull text then some .null else none) "null"
  | _ =>
    let plain := style = .plain && (tag.map (·.startsWith "!")).getD true
    ofValue expected (if plain then Value.ofPlain text else .text text)

/-- The start of a node where something else is expected. -/
def ofEvent (expected : String) : Event → Mismatch
  | .scalar tag text style => ofScalar expected tag text style
  | .sequenceStart _ => type "sequence" expected
  | _ => type "map" expected

end Mismatch

end SchemaCatalog.Yaml
