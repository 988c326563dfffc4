import SchemaCatalog.Catalog.Handler

/-!
# Lookups

A lookup asks a handler for the content of a schema or for the id of a subject at a version. Each of
its turns is a single step, during which no other lookup takes a turn.

* `Lookup.start`: looks at the handler's own entries and then claims a flight. A leader asks the
  registry and sets the time at which it gives the request up.
* `Lookup.receive`: the leader has the registry's answer, or knows that there is none.
* `Lookup.expire`: the leader's time is over. A reply that is there by then counts.
* `Lookup.resume`: a follower finds its flight settled.
* `Lookup.abandon`: the lookup is given up.
-/

namespace SchemaCatalog

inductive Question
  | content (id : SchemaId)
  | id (key : Key)
  deriving DecidableEq, Repr

/-- What is answered; nothing if it cannot be told now. -/
inductive Answer
  | content (s : Option String)
  | id (id : Option SchemaId)
  deriving DecidableEq, Repr

/-- How far a lookup is. A leader has asked the registry and waits until `deadline`; a follower waits
for what another lookup has asked for. -/
inductive Progress
  | leadContent (id : SchemaId) (flight : Nat) (previous : Option CachedSchema) (deadline : Instant)
  | leadId (key : Key) (flight : Nat) (previous : Option Mapping) (deadline : Instant)
  | followContent (id : SchemaId) (flight : Nat)
  | followId (key : Key) (flight : Nat)
  | answered (a : Answer)
  | cancelled
  deriving DecidableEq, Repr

namespace Progress

/-- When the lookup gives up its request. -/
def deadline? : Progress → Option Instant
  | leadContent _ _ _ deadline | leadId _ _ _ deadline => some deadline
  | _ => none

/-- Whether the time of its request is over. -/
def isDue (now : Instant) (p : Progress) : Bool := p.deadline?.any fun d => d.nanos ≤ now.nanos

def answer? : Progress → Option Answer
  | answered a => some a
  | _ => none

end Progress

/-- What a turn leads to: the shared cache, the handler and the lookup after it, the path for which
the registry is asked, and the events in their order. -/
structure Turn where
  cache : SharedCache
  handler : Handler
  progress : Progress
  request : Option String
  events : List Event
  deriving Repr

namespace Lookup

/-- Answers with content that is known. -/
def tellContent (cache : SharedCache) (h : Handler) (id : SchemaId) (known : Option CachedSchema)
    (events : List Event) : Turn :=
  let (h, s) := h.keepContent id known
  ⟨cache, h, .answered (.content s), none, events⟩

def tellId (cache : SharedCache) (h : Handler) (key : Key) (known : Option Mapping)
    (events : List Event) : Turn :=
  let (h, id) := h.keepId key known
  ⟨cache, h, .answered (.id id), none, events⟩

/-- Waits for a flight, unless it is settled. -/
def followContent (cache : SharedCache) (h : Handler) (id : SchemaId) (flight : Nat) : Turn :=
  match cache.schemas.poll flight with
  | some known => tellContent cache h id known []
  | none => ⟨cache, h, .followContent id flight, none, []⟩

def followId (cache : SharedCache) (h : Handler) (key : Key) (flight : Nat) : Turn :=
  match cache.ids.poll flight with
  | some known => tellId cache h key known []
  | none => ⟨cache, h, .followId key flight, none, []⟩

/-- Asks for the content of a schema. -/
def startContent (now : Instant) (cache : SharedCache) (h : Handler) (id : SchemaId) : Turn :=
  match h.ownContent id with
  | (some s, h) => ⟨cache, h, .answered (.content (some s)), none, []⟩
  | (none, h) =>
    match cache.schemas.claim id CachedSchema.refreshable with
    | (.lead flight previous, schemas) =>
      ⟨{ cache with schemas }, h, .leadContent id flight previous (h.giveUpAt now),
        some (h.contentPath id), []⟩
    | (.follow flight, schemas) => followContent { cache with schemas } h id flight

def startId (now : Instant) (cache : SharedCache) (h : Handler) (key : Key) : Turn :=
  match h.ownId now key with
  | (some id, h) => ⟨cache, h, .answered (.id id), none, []⟩
  | (none, h) =>
    match cache.ids.claim key fun m => m.refreshable now h.config.maxAge with
    | (.lead flight previous, ids) =>
      ⟨{ cache with ids }, h, .leadId key flight previous (h.giveUpAt now), some (h.idPath key), []⟩
    | (.follow flight, ids) => followId { cache with ids } h key flight

def start (now : Instant) (cache : SharedCache) (h : Handler) : Question → Turn
  | .content id => startContent now cache h id
  | .id key => startId now cache h key

/-- The turn of a leader that has the registry's answer, or knows that there is none. -/
def receive (now : Instant) (cache : SharedCache) (h : Handler) (p : Progress)
    (body : Option String) : Turn :=
  match p with
  | .leadContent id flight previous _ =>
    let (known, events) := h.contentAttempt id previous body
    let cache := { cache with schemas := cache.schemas.complete flight known }
    tellContent cache h id (some known) events
  | .leadId key flight previous _ =>
    let (known, events) := h.idAttempt now key previous body
    let cache := { cache with ids := cache.ids.complete flight known }
    tellId cache h key (some known) events
  | p => ⟨cache, h, p, none, []⟩

/-- The turn of a leader whose timer runs off: it goes on without an answer. -/
def expire (now : Instant) (cache : SharedCache) (h : Handler) (p : Progress) : Turn :=
  if p.isDue now then receive now cache h p none else ⟨cache, h, p, none, []⟩

/-- The turn of a follower: it answers if its flight is settled. -/
def resume (cache : SharedCache) (h : Handler) (p : Progress) : Turn :=
  match p with
  | .followContent id flight => followContent cache h id flight
  | .followId key flight => followId cache h key flight
  | p => ⟨cache, h, p, none, []⟩

/-- Gives a lookup up. The flight of a leader falls back to what it had replaced. -/
def abandon (cache : SharedCache) (h : Handler) (p : Progress) : Turn :=
  match p with
  | .leadContent _ flight previous _ =>
    ⟨{ cache with schemas := cache.schemas.cancel flight previous }, h, .cancelled, none, []⟩
  | .leadId _ flight previous _ =>
    ⟨{ cache with ids := cache.ids.cancel flight previous }, h, .cancelled, none, []⟩
  | .answered a => ⟨cache, h, .answered a, none, []⟩
  | _ => ⟨cache, h, .cancelled, none, []⟩

end Lookup

end SchemaCatalog
