import SchemaCatalog.Catalog.Scheduler
import SchemaCatalog.CommandLine.Basic
import SchemaCatalog.Config.Loading
import SchemaCatalog.Text.Blank

/-!
# Running commands

* `Outcome`: what a run prints, and its exit code.
* `Command.run`: runs a command, given its file, the environment and the registry.
* `CommandLine.run`: the same for the words after the program's name.
-/

namespace SchemaCatalog

/-- What a run prints, and its exit code. -/
structure Outcome where
  exit : UInt8
  stdout : String
  stderr : String
  deriving DecidableEq, Repr

namespace Outcome

def success (s : String) : Outcome := ⟨0, s, ""⟩

def failure (s : String) : Outcome := ⟨1, "", "Error: " ++ s ++ "\n"⟩

/-- A run that does no command. -/
def stopped : Arguments.Stop → Outcome
  | .misused => ⟨2, "", ""⟩
  | .help => ⟨0, "", ""⟩
  | .version => ⟨0, "rivven-catalog 0.1.0\n", ""⟩

end Outcome

/-! ## Inspecting records -/

/-- The wording of a refusal of hexadecimal digits. -/
def Hex.DecodeError.message : Hex.DecodeError → String
  | .oddLength => "Odd number of digits"
  | .invalidDigit code index =>
    s!"Invalid character {Quoted.char (Char.ofNat code.toNat)} at position {index}"

namespace Command

def inspectText (e : IdEncoding) (record : List UInt8) : String :=
  let (id, payload) := Envelope.split e record
  let head :=
    match id with
    | some id => s!"schema id:      {id.text}\nenvelope bytes: {Envelope.length e}\n"
    | none => "schema id:      none\n"
  head ++ s!"payload bytes:  {payload.length}\n"

def runInspect (e : IdEncoding) (record : String) : Outcome :=
  match Hex.decode (Text.utf8 (Text.trimmed record)) with
  | .ok bs => .success (inspectText e bs)
  | .error err => .failure ("Record is not valid hex\n\nCaused by:\n    " ++ err.message)

/-! ## Lookups -/

/-- What comes of a job on a handler of its own. -/
def lookUp (registry : Registry) (c : Config) (job : Job) : Option JobResult :=
  let s := Scheduler.start [.ofHandlers [.ofConfig 0 c .log]]
  let (n, s) := { s with registry }.spawn 0 0 job
  (s.await n).result? n

/-- The file that a command reads. -/
def file? : Command → Option String
  | resolveId file _ | resolveSchema file _ => some file
  | inspect _ _ => none

def run (env : String → Option String) (content : String → Config.FileContent) (registry : Registry)
    (command : Command) : Outcome :=
  let withConfig (file : String) (f : Config → Outcome) : Outcome :=
    match Config.loadFile env (content file) with
    | .ok c => f c
    | .error _ => .failure ("Failed to load config from " ++ file)
  match command with
  | inspect e record => runInspect e record
  | resolveId file key =>
    withConfig file fun c =>
      match lookUp registry c (.id key) with
      | some (.id (some id)) => .success (id.text ++ "\n")
      | _ => .failure s!"Unable to resolve {key.subject} version {key.version}"
  | resolveSchema file id =>
    withConfig file fun c =>
      match lookUp registry c (.content id) with
      | some (.content (some s)) => .success (s ++ "\n")
      | _ => .failure s!"Unable to fetch schema id {id.text}"

end Command

/-- Runs the command that the words after the program's name spell. -/
def CommandLine.run (env : String → Option String) (content : String → Config.FileContent)
    (registry : Registry) (words : List String) : Outcome :=
  match Command.ofWords words with
  | .ok command => command.run env content registry
  | .error stop => .stopped stop

end SchemaCatalog
