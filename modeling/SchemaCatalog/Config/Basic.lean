import SchemaCatalog.Duration
import SchemaCatalog.IdEncoding
import SchemaCatalog.UseId

/-!
# Configuration

* `Config`: where the registry is, which group and ids are used, and the limits of time and space.
* `Config.withMaxAge` and its like: changes to a configuration. They take durations, which are
  rounded down to the unit of the field and raised to the least value allowed.
* `Setting`: a field with its value. `Config.ofSettings?`: the configuration that settings make up.
-/

namespace SchemaCatalog

/-- What a catalog has to know. -/
structure Config where
  url : String
  groupId : String := "default"
  useId : UseId := .globalId
  idEncoding : IdEncoding := .wide
  maxAgeSecs : UInt64 := 300
  retryInitialDelayMs : UInt64 := 1000
  requestTimeoutMs : UInt64 := 10000
  cacheCapacity : UInt64 := 1024
  deriving DecidableEq, Repr

namespace Config

/-- The configuration for a registry on this machine. -/
def standard : Config :=
  ⟨"http://localhost:8080", "default", .globalId, .wide, 300, 1000, 10000, 1024⟩

/-- The configuration for the registry at `url`. -/
def ofUrl (url : String) : Config := { standard with url }

/-! ## Changes -/

/-- The word nearest to `n`. -/
def clamp (n : Nat) : UInt64 := UInt64.ofNat (min n (Nat.pow 2 64 - 1))

def withGroupId (c : Config) (groupId : String) : Config := { c with groupId }

def withUseId (c : Config) (useId : UseId) : Config := { c with useId }

def withIdEncoding (c : Config) (idEncoding : IdEncoding) : Config := { c with idEncoding }

/-- Ids stay fresh for `d`, at least a second. -/
def withMaxAge (c : Config) (d : Duration) : Config := { c with maxAgeSecs := clamp (max d.secs 1) }

/-- The first delay is `d`, at least a millisecond. -/
def withRetryInitialDelay (c : Config) (d : Duration) : Config :=
  { c with retryInitialDelayMs := clamp (max d.millis 1) }

/-- A request may take `d`, at least a hundred milliseconds. -/
def withRequestTimeout (c : Config) (d : Duration) : Config :=
  { c with requestTimeoutMs := clamp (max d.millis 100) }

/-- A handler keeps `n` entries. -/
def withCacheCapacity (c : Config) (n : UInt64) : Config := { c with cacheCapacity := n }

/-! ## Durations -/

def maxAge (c : Config) : Duration := .ofSecs c.maxAgeSecs

def retryInitialDelay (c : Config) : Duration := .ofMillis c.retryInitialDelayMs

def requestTimeout (c : Config) : Duration := .ofMillis c.requestTimeoutMs

end Config

/-! ## Fields -/

inductive Field
  | url
  | groupId
  | useId
  | idEncoding
  | maxAgeSecs
  | retryInitialDelayMs
  | requestTimeoutMs
  | cacheCapacity
  deriving DecidableEq, Repr

namespace Field

def name : Field → String
  | url => "url"
  | groupId => "group_id"
  | useId => "use_id"
  | idEncoding => "id_encoding"
  | maxAgeSecs => "max_age_secs"
  | retryInitialDelayMs => "retry_initial_delay_ms"
  | requestTimeoutMs => "request_timeout_ms"
  | cacheCapacity => "cache_capacity"

def all : List Field :=
  [url, groupId, useId, idEncoding, maxAgeSecs, retryInitialDelayMs, requestTimeoutMs,
    cacheCapacity]

def ofName? (s : String) : Option Field := all.find? fun f => f.name == s

end Field

/-- A field with its value. -/
inductive Setting
  | url (s : String)
  | groupId (s : String)
  | useId (u : UseId)
  | idEncoding (e : IdEncoding)
  | maxAgeSecs (n : UInt64)
  | retryInitialDelayMs (n : UInt64)
  | requestTimeoutMs (n : UInt64)
  | cacheCapacity (n : UInt64)
  deriving DecidableEq, Repr

namespace Setting

def field : Setting → Field
  | url _ => .url
  | groupId _ => .groupId
  | useId _ => .useId
  | idEncoding _ => .idEncoding
  | maxAgeSecs _ => .maxAgeSecs
  | retryInitialDelayMs _ => .retryInitialDelayMs
  | requestTimeoutMs _ => .requestTimeoutMs
  | cacheCapacity _ => .cacheCapacity

end Setting

namespace Config

/-- The configuration with one field set. -/
def set (c : Config) : Setting → Config
  | .url url => { c with url }
  | .groupId groupId => { c with groupId }
  | .useId useId => { c with useId }
  | .idEncoding idEncoding => { c with idEncoding }
  | .maxAgeSecs maxAgeSecs => { c with maxAgeSecs }
  | .retryInitialDelayMs retryInitialDelayMs => { c with retryInitialDelayMs }
  | .requestTimeoutMs requestTimeoutMs => { c with requestTimeoutMs }
  | .cacheCapacity cacheCapacity => { c with cacheCapacity }

/-- The configuration that settings make up. The address has to be among them. -/
def ofSettings? (ss : List Setting) : Option Config :=
  if ss.any fun s => s.field == .url then some (ss.foldl set standard) else none

end Config

end SchemaCatalog
