import SchemaCatalog.Key
import SchemaCatalog.SchemaId

/-!
# Events

What a catalog reports: the first failure of a streak, the recovery that ends it, and the first time
a stale id is served.

* `Event`, `Event.kind`, `Event.isFailure`, `Event.text`.
* `EventSink.logs`: what each kind of receiver writes to the log.
-/

namespace SchemaCatalog

/-- What happened. What is retrieved had failed before; for a stale version an earlier id is served
in place of the one that could not be resolved. -/
inductive Event.Fact
  | unretrievableSchema (id : SchemaId)
  | retrievedSchema (id : SchemaId)
  | unretrievableVersion (key : Key)
  | staleVersion (key : Key) (id : SchemaId)
  | retrievedVersion (key : Key)
  deriving DecidableEq, Repr

structure Event where
  catalogId : UInt64
  fact : Event.Fact
  deriving DecidableEq, Repr

namespace Event

/-- The stable name of an event. -/
def kind (e : Event) : String :=
  match e.fact with
  | .unretrievableSchema _ => "UNRETRIEVABLE_SCHEMA_ID"
  | .retrievedSchema _ => "RETRIEVED_SCHEMA_ID"
  | .unretrievableVersion _ => "UNRETRIEVABLE_SCHEMA_SUBJECT_VERSION"
  | .staleVersion _ _ => "UNRETRIEVABLE_SCHEMA_SUBJECT_VERSION_STALE_SCHEMA"
  | .retrievedVersion _ => "RETRIEVED_SCHEMA_SUBJECT_VERSION"

def isFailure (e : Event) : Bool :=
  match e.fact with
  | .unretrievableSchema _ | .unretrievableVersion _ | .staleVersion _ _ => true
  | .retrievedSchema _ | .retrievedVersion _ => false

def text (e : Event) : String :=
  match e.fact with
  | .unretrievableSchema id => s!"Unable to fetch schema id {id.text}"
  | .retrievedSchema id => s!"Fetched schema id {id.text} after earlier failures"
  | .unretrievableVersion key => s!"Unable to resolve {key.subject} version {key.version}"
  | .staleVersion key id =>
    s!"Unable to resolve {key.subject} version {key.version}, using stale schema id {id.text}"
  | .retrievedVersion key => s!"Resolved {key.subject} version {key.version} after earlier failures"

end Event

inductive LogLevel
  | warn
  | info
  deriving DecidableEq, Repr

namespace LogLevel

def name : LogLevel → String
  | warn => "WARN"
  | info => "INFO"

end LogLevel

/-- A line in the log, with the catalog that writes it, the name of the event, and a sentence for
it. -/
structure LogLine where
  level : LogLevel
  catalogId : UInt64
  kind : String
  message : String
  deriving DecidableEq, Repr

/-- Who receives the events of a catalog: a list kept for later inspection, nobody, or the log. -/
inductive EventSink
  | record
  | discard
  | log
  deriving DecidableEq, Repr

namespace EventSink

/-- The log line for an event. -/
def line (e : Event) : LogLine :=
  ⟨if e.isFailure then .warn else .info, e.catalogId, e.kind, e.text⟩

/-- The events that a receiver keeps. -/
def kept (sink : EventSink) (es : List Event) : List Event :=
  if sink = record then es else []

/-- The lines that a receiver writes. -/
def logs (sink : EventSink) (es : List Event) : List LogLine :=
  if sink = log then es.map line else []

end EventSink

end SchemaCatalog
