import SchemaCatalog.Duration

/-!
# Failure streaks and backoff

* `RetryState`: the number of failures since the last success; `fail` and `succeed` tell whether a
  streak begins or ends.
* `RetryPolicy.nextDelay`: the pause after one more failure, doubled each time and capped.
-/

namespace SchemaCatalog

/-- The length of the running failure streak: the failures since the last success, at most `2^32 -
1`. -/
structure RetryState where
  attempts : UInt32
  deriving DecidableEq, Repr

namespace RetryState

def initial : RetryState := ⟨0⟩

def isFailing (s : RetryState) : Bool := s.attempts != 0

/-- One more failure; the flag tells whether it opens a streak. The count stops at its largest
value. -/
def fail (s : RetryState) : RetryState × Bool :=
  (⟨if s.attempts = 4294967295 then s.attempts else s.attempts + 1⟩, s.attempts == 0)

/-- A success; the flag tells whether it ends a streak. -/
def succeed (s : RetryState) : RetryState × Bool :=
  (initial, s.attempts != 0)

theorem attempts_fail_ne_zero (s : RetryState) : s.fail.1.attempts ≠ 0 := by
  unfold fail
  split
  · next h => rw [h]; decide
  · next h =>
    intro h0
    have h1 : s.attempts.toNat ≠ 4294967295 := fun h2 => h (UInt32.toNat_inj.1 h2)
    have h3 := congrArg UInt32.toNat h0
    simp only [UInt32.toNat_add] at h3
    have := s.attempts.toNat_lt
    have h4 : (1 : UInt32).toNat = 1 := rfl
    have h5 : (0 : UInt32).toNat = 0 := rfl
    omega

end RetryState

/-- How long to wait before asking again: `base` after the first failure, and at most `maxAge`,
which is also how long an id stays fresh. -/
structure RetryPolicy where
  base : Duration
  maxAge : Duration
  deriving DecidableEq, Repr

namespace RetryPolicy

/-- The pause after one more failure: `base` if there was none before, else twice the one before,
and never more than `maxAge`. -/
def nextDelay (p : RetryPolicy) (previous : Duration) : Duration :=
  (if previous.nanos = 0 then p.base else previous.double).min p.maxAge

/-- The pause after `k` failures in a row. -/
def delayAfter (p : RetryPolicy) : Nat → Duration
  | 0 => .zero
  | k + 1 => p.nextDelay (p.delayAfter k)

end RetryPolicy

end SchemaCatalog
