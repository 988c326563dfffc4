import SchemaCatalog.Config.Basic
import SchemaCatalog.Url.Reader

/-!
# Limits on configurations

* `Config.Violation`: a field whose value is not allowed.
* `Config.violations`: all of them, in the order of the names of their fields.
-/

namespace SchemaCatalog.Config

/-- A field whose value is not allowed: an address that is no URL, a text with too few or too many
characters, or a number that is too small or too large. -/
inductive Violation
  | url (value : String)
  | length (field : Field) (value : String) (least most : Nat)
  | range (field : Field) (value : UInt64) (least most : Nat)
  deriving DecidableEq, Repr

namespace Violation

def field : Violation → Field
  | url _ => .url
  | length f _ _ _ => f
  | range f _ _ _ => f

/-- The name of the rule that the value breaks. -/
def code : Violation → String
  | url _ => "url"
  | length _ _ _ _ => "length"
  | range _ _ _ _ => "range"

end Violation

/-- The violation by a text whose number of characters has to be from `least` to `most`. -/
def checkLength (f : Field) (s : String) (least most : Nat) : List Violation :=
  if least ≤ s.length ∧ s.length ≤ most then [] else [.length f s least most]

/-- The violation by a number that has to be from `least` to `most`. -/
def checkRange (f : Field) (n : UInt64) (least most : Nat) : List Violation :=
  if least ≤ n.toNat ∧ n.toNat ≤ most then [] else [.range f n least most]

/-- The violation by a text that has to be a URL. -/
def checkUrl (s : String) : List Violation := if Url.isValid s then [] else [.url s]

/-- All fields whose values are not allowed. -/
def violations (c : Config) : List Violation :=
  checkRange .cacheCapacity c.cacheCapacity 1 1048576 ++
  checkLength .groupId c.groupId 1 255 ++
  checkRange .maxAgeSecs c.maxAgeSecs 1 86400 ++
  checkRange .requestTimeoutMs c.requestTimeoutMs 100 300000 ++
  checkRange .retryInitialDelayMs c.retryInitialDelayMs 1 3600000 ++
  checkUrl c.url

end SchemaCatalog.Config
