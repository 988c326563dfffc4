import SchemaCatalog.Config.Limits
import SchemaCatalog.Config.Placeholder
import SchemaCatalog.Config.Reading
import SchemaCatalog.Text.Utf8

/-!
# Loading configurations

* `Config.LoadError`: why a configuration cannot be used.
* `Config.load`: fills in placeholders, reads the YAML text and checks the limits.
* `Config.loadFile`: the same for what a file turns out to hold.
-/

namespace SchemaCatalog.Config

inductive FileContent
  | bytes (bs : List UInt8)
  | missing
  | directory
  deriving DecidableEq, Repr

/-- Why a file cannot be read as a text. -/
inductive FileError
  | missing
  | directory
  | notText
  deriving DecidableEq, Repr

def FileError.message : FileError → String
  | missing => "No such file or directory (os error 2)"
  | directory => "Is a directory (os error 21)"
  | notText => "stream did not contain valid UTF-8"

/-- Why a configuration cannot be used. -/
inductive LoadError
  | file (e : FileError)
  | yaml (e : ReadError)
  | limits (vs : List Violation)
  deriving DecidableEq, Repr

/-- The wording of an error, where it is settled. -/
def LoadError.message : LoadError → Option String
  | file e => some ("IO error: " ++ e.message)
  | yaml e => e.message.map ("YAML error: " ++ ·)
  | limits _ => none

/-- The configuration in a YAML text, where `env` gives the values of variables. -/
def load (env : String → Option String) (text : String) : Except LoadError Config := do
  let expanded := Placeholder.expand env text.toList
  let c ← (ofDocument (Yaml.Document.read expanded)).mapError .yaml
  match c.violations with
  | [] => return c
  | vs => throw (.limits vs)

/-- The configuration in a file. -/
def loadFile (env : String → Option String) : FileContent → Except LoadError Config
  | .missing => .error (.file .missing)
  | .directory => .error (.file .directory)
  | .bytes bs =>
    match Text.ofUtf8? bs with
    | some text => load env text
    | none => .error (.file .notText)

end SchemaCatalog.Config
