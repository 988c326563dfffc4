import SchemaCatalog.Config.Basic
import SchemaCatalog.Envelope
import SchemaCatalog.Event
import SchemaCatalog.Flight
import SchemaCatalog.Lru
import SchemaCatalog.Mapping
import SchemaCatalog.RegistryPath
import SchemaCatalog.Text.Quoted

/-!
# Handlers

* `SharedCache`: what handlers of one catalog have learned together.
* `Handler`: a handler with what it keeps for itself: schemas by id, and ids by the checksum of
  subject and version, each with the pair that it belongs to.
* `Handler.contentAttempt`, `Handler.idAttempt`: what an answer of the registry, or its absence,
  makes of what was known before, and which events it causes.
-/

namespace SchemaCatalog

/-- What handlers of one catalog have learned together: the attempts to fetch schemas, and those to
resolve subjects at versions. -/
structure SharedCache where
  schemas : FlightTable SchemaId CachedSchema
  ids : FlightTable Key Mapping
  deriving Repr

namespace SharedCache

def empty : SharedCache := ⟨.empty, .empty⟩

def describe (c : SharedCache) : String :=
  s!"CatalogCache \x7b schemas: {c.schemas.size}, ids: {c.ids.size} \x7d"

end SharedCache

/-- A handler of the catalog with number `catalogId`, and the schemas and ids that it keeps for
itself. -/
structure Handler where
  catalogId : UInt64
  config : Config
  sink : EventSink
  schemas : Lru SchemaId String
  ids : Lru UInt32 (Key × Mapping)
  deriving Repr

namespace Handler

/-- A handler that has not answered anything yet. -/
def ofConfig (catalogId : UInt64) (config : Config) (sink : EventSink) : Handler :=
  ⟨catalogId, config, sink, .empty config.cacheCapacity.toNat, .empty config.cacheCapacity.toNat⟩

def policy (h : Handler) : RetryPolicy := ⟨h.config.retryInitialDelay, h.config.maxAge⟩

/-- When a request that is sent now is given up. -/
def giveUpAt (h : Handler) (now : Instant) : Instant := now.after h.config.requestTimeout

def contentPath (h : Handler) (id : SchemaId) : String := RegistryPath.schema h.config.useId id

def idPath (h : Handler) (key : Key) : String :=
  RegistryPath.version h.config.groupId key.subject key.version

def describe (h : Handler) (cache : SharedCache) : String :=
  s!"ApicurioCatalog \x7b catalog_id: {h.catalogId}, url: {Quoted.text h.config.url}, " ++
  s!"group_id: {Quoted.text h.config.groupId}, " ++
  s!"id_codec: {Envelope.describe h.config.idEncoding}, " ++
  s!"cache: {cache.describe} \x7d"

/-! ## Attempts -/

/-- What is known about a schema after an attempt. Its first failure and its recovery are
reported. -/
def contentAttempt (h : Handler) (id : SchemaId) (previous : Option CachedSchema)
    (body : Option String) : CachedSchema × List Event :=
  let retry := (previous.map CachedSchema.retry).getD .initial
  match body with
  | some s =>
    let (retry, recovered) := retry.succeed
    (⟨some s, retry⟩, if recovered then [⟨h.catalogId, .retrievedSchema id⟩] else [])
  | none =>
    let (retry, first) := retry.fail
    (⟨none, retry⟩, if first then [⟨h.catalogId, .unretrievableSchema id⟩] else [])

/-- What is known about a subject at a version after an attempt. An answer without an id is a
failure. The first failure of a streak is reported, with the stale id that is served from now on,
and so is the recovery. -/
def idAttempt (h : Handler) (now : Instant) (key : Key) (previous : Option Mapping)
    (body : Option String) : Mapping × List Event :=
  let retry := (previous.map Mapping.retry).getD .initial
  match body.bind fun b => RegistryPath.idIn b h.config.useId.memberName with
  | some id =>
    (.resolved id now, if retry.succeed.2 then [⟨h.catalogId, .retrievedVersion key⟩] else [])
  | none =>
    let (retry, first) := retry.fail
    let stale : List Event :=
      match previous.bind Mapping.id with
      | some id => [⟨h.catalogId, .staleVersion key id⟩]
      | none => []
    let delay := h.policy.nextDelay ((previous.map Mapping.retryAfter).getD .zero)
    (.failed previous retry delay now,
      if first then ⟨h.catalogId, .unretrievableVersion key⟩ :: stale else [])

/-! ## Own entries -/

/-- Keeps the content of a schema, if there is any, and answers with it. -/
def keepContent (h : Handler) (id : SchemaId) (known : Option CachedSchema) :
    Handler × Option String :=
  match known.bind CachedSchema.content with
  | some s => ({ h with schemas := h.schemas.insert id s }, some s)
  | none => (h, none)

/-- Keeps the id of a subject at a version, if there is one, and answers with it. -/
def keepId (h : Handler) (key : Key) (known : Option Mapping) : Handler × Option SchemaId :=
  match known with
  | some m =>
    match m.id with
    | some id => ({ h with ids := h.ids.insert key.checksum (key, m) }, some id)
    | none => (h, none)
  | none => (h, none)

/-- The content that the handler keeps. -/
def ownContent (h : Handler) (id : SchemaId) : Option String × Handler :=
  let (s, schemas) := h.schemas.get id
  (s, { h with schemas })

/-- The fresh id that the handler keeps. An entry counts for its own pair only; the inner option is
the id of the entry. -/
def ownId (h : Handler) (now : Instant) (key : Key) : Option (Option SchemaId) × Handler :=
  let (entry, ids) := h.ids.get key.checksum
  let h := { h with ids }
  match entry with
  | some (k, m) =>
    if k.isFor key.subject key.version && !m.expired now h.config.maxAge then (some m.id, h)
    else (none, h)
  | none => (none, h)

end Handler

end SchemaCatalog
