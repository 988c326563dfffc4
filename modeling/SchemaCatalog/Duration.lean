/-!
# Durations and instants

* `Duration`: a whole number of nanoseconds below `2^64` seconds; sums and products stop at the
  largest one.
* `Instant`: nanoseconds since the start of a clock.
* `Instant.since`: elapsed time, zero when the clock has not reached the start yet.
* `Instant.after`: the instant at which a time that was set is over.
-/

namespace SchemaCatalog

/-- The nanoseconds of the longest duration, `2^64 - 1` seconds and `999999999` nanoseconds. -/
def Duration.maxNanos : Nat := 18446744073709551615999999999

/-- A length of time in nanoseconds. -/
structure Duration where
  nanos : Nat
  nanos_le : nanos ≤ Duration.maxNanos
  deriving DecidableEq, Repr

namespace Duration

/-- The duration of `n` nanoseconds, or the longest one. -/
def ofNanos (n : Nat) : Duration := ⟨min n maxNanos, Nat.min_le_right _ _⟩

def zero : Duration := ofNanos 0

def ofSecs (s : UInt64) : Duration := ofNanos (s.toNat * 1000000000)

def ofMillis (ms : UInt64) : Duration := ofNanos (ms.toNat * 1000000)

/-- The duration of `s` seconds and `n` nanoseconds. -/
def ofParts (s n : Nat) : Duration := ofNanos (s * 1000000000 + n)

/-- The whole seconds, rounded down. -/
def secs (d : Duration) : Nat := d.nanos / 1000000000

def subsecNanos (d : Duration) : Nat := d.nanos % 1000000000

/-- The whole milliseconds, rounded down. -/
def millis (d : Duration) : Nat := d.nanos / 1000000

/-- Twice as long, or the longest duration. -/
def double (d : Duration) : Duration := ofNanos (2 * d.nanos)

def min (d e : Duration) : Duration := if d.nanos ≤ e.nanos then d else e

theorem ext_nanos {d e : Duration} (h : d.nanos = e.nanos) : d = e := by
  cases d; cases e; cases h; rfl

@[simp] theorem nanos_ofNanos (n : Nat) : (ofNanos n).nanos = Min.min n maxNanos := rfl

theorem nanos_min (d e : Duration) : (min d e).nanos = Min.min d.nanos e.nanos := by
  unfold min
  split <;> omega

end Duration

/-- A reading of a clock, in nanoseconds since its start. -/
structure Instant where
  nanos : Nat
  deriving DecidableEq, Repr

namespace Instant

def ofMillis (ms : Nat) : Instant := ⟨ms * 1000000⟩

/-- The first whole milliseconds that are not before it. -/
def ceilMillis (t : Instant) : Nat := (t.nanos + 999999) / 1000000

/-- The nanoseconds from `earlier` to `now`, zero if `now` comes first. -/
def since (now earlier : Instant) : Nat := now.nanos - earlier.nanos

/-- The instant that is `d` later. -/
def after (start : Instant) (d : Duration) : Instant := ⟨start.nanos + d.nanos⟩

end Instant

end SchemaCatalog
