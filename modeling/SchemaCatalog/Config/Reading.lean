import SchemaCatalog.Config.Basic
import SchemaCatalog.Yaml.Document
import SchemaCatalog.Yaml.Scalar

/-!
# Reading configurations from YAML

A configuration is a mapping whose keys are the names of fields. Unknown keys are passed over.

* `Config.ReadError`: why a document is no configuration.
* `Config.ofDocument`: the configuration that a document holds.
-/

namespace SchemaCatalog.Config

open Yaml

/-- Why a document is no configuration. `path` is the key at whose value something is wrong. A text
that holds more than one document is unreadable, too. -/
inductive ReadError
  | unreadable
  | missingField (field : Field)
  | duplicateField (field : Field)
  | unknownVariant (path : Option String) (found : String) (choices : List String)
  | mismatch (path : Option String) (what : Mismatch)
  deriving DecidableEq, Repr

namespace ReadError

/-- A name in backticks. -/
def quoted (s : String) : String := "\x60" ++ s ++ "\x60"

/-- The choices in a message: a pair is joined by "or". -/
def choiceText : List String → String
  | [a, b] => quoted a ++ " or " ++ quoted b
  | cs => "one of " ++ ", ".intercalate (cs.map quoted)

/-- A message about the value of a key. -/
def at? (path : Option String) (s : String) : String :=
  match path with
  | some p => p ++ ": " ++ s
  | none => s

/-- The message, if there is a settled one. -/
def message : ReadError → Option String
  | unreadable => none
  | missingField f => some ("missing field " ++ quoted f.name)
  | duplicateField f => some ("duplicate field " ++ quoted f.name)
  | unknownVariant path s cs =>
    some (at? path ("unknown variant " ++ quoted s ++ ", expected " ++ choiceText cs))
  | mismatch path m => some (at? path m.message)

end ReadError

/-! ## Values -/

/-- The first event of the node that an event stands for. -/
def resolve (d : Document) : Yaml.Event → Option Yaml.Event
  | .alias n => (d.anchors.place? n).bind fun i => d.events[i]?
  | e => some e

/-- A text; every scalar is one. -/
def readText (path : String) : Yaml.Event → Except ReadError String
  | .scalar _ s _ => .ok s
  | e => .error (.mismatch (some path) (.ofEvent "a string" e))

/-- Whether a scalar may spell a number: without quotes, or as a block with the tag of integers. -/
def mayBeInteger (tag : Option String) : Style → Bool
  | .plain => true
  | .literal => tag == some "tag:yaml.org,2002:int"
  | _ => false

/-- A number of 64 bits without a sign; `expected` is its name in messages. -/
def readUnsigned (expected path : String) (e : Yaml.Event) : Except ReadError UInt64 :=
  let refused := .error (.mismatch (some path) (.ofEvent expected e))
  match e with
  | .scalar tag s style =>
    match mayBeInteger tag style, unsigned? s with
    | true, some n => .ok n
    | _, _ => refused
  | _ => refused

/-- The name after the exclamation mark of a tag. -/
def tagName? (tag : Option String) : Option String :=
  tag.bind fun t =>
    match t.toList with
    | '!' :: name => some (String.ofList name)
    | _ => none

def choose {α : Type} (choices : List (String × α)) (path : Option String) (s : String) :
    Except ReadError α :=
  match choices.lookup s with
  | some a => .ok a
  | none => .error (.unknownVariant path s (choices.map Prod.fst))

/-- A choice as a text, or as a tag in front of nothing. -/
def readChoice {α : Type} (choices : List (String × α)) (path : String) (e : Yaml.Event) :
    Except ReadError α :=
  match e with
  | .scalar tag s style =>
    match tagName? tag with
    | none => choose choices (some path) s
    | some name => do
      let a ← choose choices none name
      if style = .plain ∧ (s = "" ∨ isNull s) then return a
      else throw (.mismatch (some path) (.ofTag "null" s))
  | .sequenceStart tag | .mappingStart tag =>
    match tagName? tag with
    | none => .error (.mismatch (some path) (.ofEvent "a YAML tag starting with '!'" e))
    | some name => do
      let _ ← choose choices none name
      throw (.mismatch (some path) (.ofEvent "unit" e))
  | _ => .error .unreadable

def readSetting (f : Field) (path : String) (e : Yaml.Event) : Except ReadError Setting :=
  match f with
  | .url => Setting.url <$> readText path e
  | .groupId => Setting.groupId <$> readText path e
  | .useId => Setting.useId <$> readChoice UseId.spellings path e
  | .idEncoding => Setting.idEncoding <$> readChoice IdEncoding.spellings path e
  | .maxAgeSecs => Setting.maxAgeSecs <$> readUnsigned "u64" path e
  | .retryInitialDelayMs => Setting.retryInitialDelayMs <$> readUnsigned "u64" path e
  | .requestTimeoutMs => Setting.requestTimeoutMs <$> readUnsigned "u64" path e
  | .cacheCapacity => Setting.cacheCapacity <$> readUnsigned "usize" path e

/-! ## Mappings -/

/-- The events after the first node; `depth` is the number of open lists and mappings. -/
def skipNode : Nat → List Yaml.Event → Option (List Yaml.Event)
  | _, [] => none
  | depth, e :: es =>
    match e with
    | .sequenceStart _ | .mappingStart _ => skipNode (depth + 1) es
    | .sequenceEnd | .mappingEnd => if depth ≤ 1 then some es else skipNode (depth - 1) es
    | _ => if depth = 0 then some es else skipNode depth es

/-- The text of a key, and the path to its value. The path to the value of an alias is not told. -/
def readKey (d : Document) (e : Yaml.Event) : Except ReadError (String × String) :=
  match resolve d e with
  | none => .error .unreadable
  | some (.scalar _ s _) => .ok (s, match e with | .alias _ => "?" | _ => s)
  | some e => .error (.mismatch none (.ofEvent "field identifier" e))

/-- Reads keys and values up to the end of the mapping. -/
def readFields (d : Document) : Nat → List Setting → List Yaml.Event → Except ReadError (List Setting)
  | 0, _, _ => .error .unreadable
  | _ + 1, _, [] => .error .unreadable
  | _ + 1, done, .mappingEnd :: _ => .ok done
  | fuel + 1, done, k :: es => do
    let (key, path) ← readKey d k
    match Field.ofName? key with
    | none =>
      match skipNode 0 es with
      | some es => readFields d fuel done es
      | none => throw .unreadable
    | some f =>
      if done.any fun s => s.field == f then throw (.duplicateField f)
      else
        match es with
        | [] => throw .unreadable
        | v :: es =>
          match resolve d v with
          | none => throw .unreadable
          | some v =>
            let s ← readSetting f path v
            readFields d fuel (done ++ [s]) es

/-- The settings of a document. A document without content has none. -/
def readSettings (d : Document) : Except ReadError (List Setting) :=
  match d.events with
  | [] => if d.sound then .ok [] else .error .unreadable
  | .mappingStart _ :: es => readFields d (es.length + 1) [] es
  | .scalar tag s style :: _ =>
    if s = "" ∧ style = .plain then .ok []
    else .error (.mismatch none (.ofScalar "struct CatalogConfig" tag s style))
  | e :: _ => .error (.mismatch none (.ofEvent "struct CatalogConfig" e))

def ofDocument (d : Document) : Except ReadError Config := do
  match ofSettings? (← readSettings d) with
  | none => throw (.missingField .url)
  | some c => if d.sound then return c else throw .unreadable

end SchemaCatalog.Config
