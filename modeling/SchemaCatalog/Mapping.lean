import SchemaCatalog.Retry
import SchemaCatalog.SchemaId

/-!
# What is known about a key

* `CachedSchema`: the content of a schema, or the failures to fetch it.
* `Mapping`: the id of a subject at a version, or the failures to resolve it. A failure keeps an
  earlier id as a stale answer.
* `Mapping.refreshable`: when the registry may be asked again.
-/

namespace SchemaCatalog

/-- What is known about a schema id: its text, once that has been fetched, and the failures so far.
-/
structure CachedSchema where
  content : Option String
  retry : RetryState
  deriving DecidableEq, Repr

namespace CachedSchema

/-- Only a schema without content is ever fetched again. -/
def refreshable (c : CachedSchema) : Bool := c.content.isNone

end CachedSchema

/-- What is known about a subject at a version. It was created at the last success or, without any,
at the first failure. It holds the id of the last success, the failures since then, and the pause
after the last attempt, which is zero after a success. -/
structure Mapping where
  createdAt : Instant
  attemptedAt : Instant
  id : Option SchemaId
  retry : RetryState
  retryAfter : Duration
  deriving DecidableEq, Repr

namespace Mapping

def resolved (id : SchemaId) (now : Instant) : Mapping :=
  ⟨now, now, some id, .initial, .zero⟩

def failed (previous : Option Mapping) (retry : RetryState) (retryAfter : Duration)
    (now : Instant) : Mapping where
  createdAt := (previous.map createdAt).getD now
  attemptedAt := now
  id := previous.bind Mapping.id
  retry := retry
  retryAfter := retryAfter

/-- Whether the last success is at least `maxAge` old. -/
def expired (m : Mapping) (now : Instant) (maxAge : Duration) : Bool :=
  decide (maxAge.nanos ≤ now.since m.createdAt)

/-- Whether the pause after the last attempt is over. -/
def retryAllowed (m : Mapping) (now : Instant) : Bool :=
  decide (m.retryAfter.nanos ≤ now.since m.attemptedAt)

/-- Whether the registry may be asked again. -/
def refreshable (m : Mapping) (now : Instant) (maxAge : Duration) : Bool :=
  m.retryAllowed now && (m.id.isNone || m.expired now maxAge)

def isStale (m : Mapping) (now : Instant) (maxAge : Duration) : Bool :=
  m.id.isSome && m.expired now maxAge

end Mapping

end SchemaCatalog
