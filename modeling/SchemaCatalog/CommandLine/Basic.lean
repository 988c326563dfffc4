import SchemaCatalog.CommandLine.Arguments
import SchemaCatalog.IdEncoding
import SchemaCatalog.Key
import SchemaCatalog.RegistryPath

/-!
# Commands

* `Command`: what the program can be asked to do.
* `Command.ofWords`: the command that the words after the program's name spell.
-/

namespace SchemaCatalog

/-- What the program can be asked to do: resolve a subject at a version or fetch the content of a
schema, with the configuration in a file, or take a record apart that is given as hexadecimal
digits. -/
inductive Command
  | resolveId (config : String) (key : Key)
  | resolveSchema (config : String) (id : SchemaId)
  | inspect (encoding : IdEncoding) (record : String)
  deriving DecidableEq, Repr

namespace Command

open Arguments

/-! ## Options -/

/-- How much is logged. -/
def logLevel : OptionSpec := ⟨"log-level", none, fun _ => true⟩

def config : OptionSpec := ⟨"config", some 'c', fun s => s ≠ ""⟩

def subject : OptionSpec := ⟨"subject", some 's', fun _ => true⟩

/-- The version, the newest one if it is left out. -/
def version : OptionSpec := ⟨"version", some 'v', fun _ => true⟩

/-- The number that decimal digits spell after a plus sign or none. -/
def decimal? (s : String) : Option Nat :=
  let digits :=
    match s.toList with
    | '+' :: cs => cs
    | cs => cs
  if digits.isEmpty ∨ digits.all Char.isDigit = false then none
  else some (Nat.ofDigitChars 10 digits 0)

/-- The id that a text spells. A zero may have a minus sign. -/
def schemaId? (s : String) : Option SchemaId :=
  match s.toList with
  | '-' :: cs =>
    if cs.isEmpty ∨ cs.all (· = '0') = false then none else SchemaId.ofNat? 0
  | _ => (decimal? s).bind SchemaId.ofNat?

def id : OptionSpec := ⟨"id", some 'i', fun s => (schemaId? s).isSome⟩

def encoding : OptionSpec := ⟨"encoding", some 'e', fun s => (IdEncoding.ofText? s).isSome⟩

/-! ## Commands -/

def names : List String := ["resolve-id", "resolve-schema", "inspect"]

/-- The words in front of a command. -/
def outer : Spec := ⟨[logLevel], true, 0, "help" :: names⟩

/-- Reads the words after a command. -/
def ofNamed (name : String) (words : List String) : Except Stop Command :=
  let missing {α : Type} (a : Option α) : Except Stop α :=
    match a with
    | some a => .ok a
    | none => .error .misused
  if name = "resolve-id" then do
    let f ← Arguments.read ⟨[config, subject, version, logLevel], false, 0, []⟩ words
    let file ← missing (f.value? config.long)
    let artifact ← missing (f.value? subject.long)
    return .resolveId file ⟨artifact, (f.value? version.long).getD RegistryPath.latest⟩
  else if name = "resolve-schema" then do
    let f ← Arguments.read ⟨[config, id, logLevel], false, 0, []⟩ words
    let file ← missing (f.value? config.long)
    return .resolveSchema file (← missing ((f.value? id.long).bind schemaId?))
  else if name = "inspect" then do
    let f ← Arguments.read ⟨[encoding, logLevel], false, 1, []⟩ words
    let record ← missing f.positionals.head?
    return .inspect (((f.value? encoding.long).bind IdEncoding.ofText?).getD .wide) record
  else
    throw <|
      match words with
      | [] => .help
      | [w] => if outer.commands.contains w then .help else .misused
      | _ => .misused

/-- The command that words spell. -/
def ofWords (words : List String) : Except Stop Command := do
  match (← Arguments.read outer words).command with
  | some (name, rest) => ofNamed name rest
  | none => throw .misused

end Command

end SchemaCatalog
