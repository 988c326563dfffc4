import SchemaCatalog.Proofs.Retry.Delay
import Mathlib.Logic.Function.Iterate

/-!
# Pauses in closed form

A clock keeps a duration in two fields, whole seconds of 64 bits and the nanoseconds beyond them.
Doubling carries from the second field to the first, and gives the longest duration if the seconds
do not fit any more. Reckoned in this way the pauses are the same as on the whole number of
nanoseconds, because what is lost at the longest duration lies beyond every limit.

* `Duration.Parts`: the two fields. `Duration.parts_double`, `Duration.parts_min`: doubling and the
  shorter one of two, reckoned field by field.
* `RetryPolicy.parts_iterate`: the pauses reckoned field by field.
* `RetryPolicy.delayAfter_eq_iterate`: the pause after `k` failures is the `k`-th of them.
* **`RetryPolicy.backoff_closed_form`**: every pause in closed form.
-/

namespace SchemaCatalog

namespace Duration

/-! ## Seconds and nanoseconds -/

/-- A duration in two fields, whole seconds and the nanoseconds beyond them. -/
structure Parts where
  secs : Nat
  nanos : Nat
  deriving DecidableEq, Repr

def parts (d : Duration) : Parts := ⟨d.secs, d.subsecNanos⟩

namespace Parts

def longest : Parts := ⟨18446744073709551615, 999999999⟩

def total (d : Parts) : Nat := d.secs * 1000000000 + d.nanos

/-- Twice as long. A full second of nanoseconds is carried, and seconds that do not fit into 64 bits
give the longest duration. -/
def double (d : Parts) : Parts :=
  let carry := 2 * d.nanos / 1000000000
  if 2 * d.secs + carry ≤ longest.secs then ⟨2 * d.secs + carry, 2 * d.nanos % 1000000000⟩
  else longest

def min (d e : Parts) : Parts :=
  if d.secs < e.secs ∨ d.secs = e.secs ∧ d.nanos ≤ e.nanos then d else e

end Parts

variable (d e : Duration)

theorem subsecNanos_lt : d.subsecNanos < 1000000000 := Nat.mod_lt _ (by decide)

theorem total_parts : d.parts.total = d.nanos := Nat.div_add_mod' d.nanos 1000000000

theorem ofNanos_of_le {n : Nat} (h : maxNanos ≤ n) : ofNanos n = ofNanos maxNanos :=
  ext_nanos (by rw [nanos_ofNanos, nanos_ofNanos, Nat.min_eq_right h, Nat.min_self])

theorem parts_ofNanos {s n : Nat} (hs : s ≤ Parts.longest.secs) (hn : n < 1000000000) :
    (ofNanos (s * 1000000000 + n)).parts = ⟨s, n⟩ := by
  have hle : s * 1000000000 + n ≤ maxNanos := by
    simp only [Parts.longest, maxNanos] at *
    omega
  rw [parts, secs, subsecNanos, nanos_ofNanos, Nat.min_eq_left hle, Parts.mk.injEq]
  constructor <;> omega

theorem parts_double : d.double.parts = d.parts.double := by
  have hd := total_parts d
  have hlt := subsecNanos_lt d
  simp only [parts, Parts.total] at hd
  have hsum : 2 * d.nanos =
      (2 * d.secs + 2 * d.subsecNanos / 1000000000) * 1000000000 +
        2 * d.subsecNanos % 1000000000 := by omega
  rw [double, hsum, Parts.double]
  split_ifs with h
  · exact parts_ofNanos h (Nat.mod_lt _ (by decide))
  · have hmax : maxNanos = Parts.longest.total := rfl
    have hbeyond : maxNanos ≤ 2 * d.nanos := by
      simp only [parts, Parts.longest, maxNanos] at h ⊢
      omega
    rw [← hsum, ofNanos_of_le hbeyond, hmax]
    exact parts_ofNanos (Nat.le_refl _) (by decide)

theorem parts_min : (d.min e).parts = d.parts.min e.parts := by
  have hd := total_parts d
  have he := total_parts e
  have hltd := subsecNanos_lt d
  have hlte := subsecNanos_lt e
  simp only [parts, Parts.total] at hd he
  rw [min, Parts.min, apply_ite parts]
  refine if_congr ?_ rfl rfl
  simp only [parts]
  omega

end Duration

namespace RetryPolicy

/-! ## The pauses -/

variable (p : RetryPolicy)

/-- `nextDelay` reckoned field by field. -/
def nextParts (previous : Duration.Parts) : Duration.Parts :=
  (if previous = ⟨0, 0⟩ then p.base.parts else previous.double).min p.maxAge.parts

theorem parts_nextDelay (d : Duration) : (p.nextDelay d).parts = p.nextParts d.parts := by
  have hzero : d.nanos = 0 ↔ d.parts = ⟨0, 0⟩ := by
    rw [Duration.parts, Duration.Parts.mk.injEq, Duration.secs, Duration.subsecNanos]
    omega
  rw [nextDelay, Duration.parts_min, nextParts, apply_ite Duration.parts, Duration.parts_double]
  simp only [hzero]

/-- The pauses are the same, whether they are reckoned field by field or not. -/
theorem parts_iterate (k : Nat) :
    p.nextParts^[k] ⟨0, 0⟩ = (p.nextDelay^[k] .zero).parts :=
  ((Function.Semiconj.iterate_right (f := Duration.parts) p.parts_nextDelay k) .zero).symm

theorem delayAfter_eq_iterate (k : Nat) : p.delayAfter k = p.nextDelay^[k] .zero := by
  induction k with
  | zero => rfl
  | succ k ih => rw [delayAfter, ih, Function.iterate_succ_apply']

theorem nanos_iterate_succ (k : Nat) :
    (p.nextDelay^[k + 1] .zero).nanos = min (p.base.nanos * 2 ^ k) p.maxAge.nanos := by
  rw [← delayAfter_eq_iterate, nanos_delayAfter_succ]

theorem nanos_iterate_le (k : Nat) : (p.nextDelay^[k] .zero).nanos ≤ p.maxAge.nanos := by
  cases k with
  | zero => exact Nat.zero_le _
  | succ k =>
    rw [nanos_iterate_succ]
    exact Nat.min_le_right _ _

theorem nanos_iterate_mono : Monotone fun k => (p.nextDelay^[k] .zero).nanos := by
  refine monotone_nat_of_le_succ fun k => ?_
  cases k with
  | zero => exact Nat.zero_le _
  | succ k =>
    have hpow : p.base.nanos * 2 ^ k ≤ p.base.nanos * 2 ^ (k + 1) :=
      Nat.mul_le_mul_left _ (Nat.pow_le_pow_right (by decide) (Nat.le_succ k))
    simp only [nanos_iterate_succ]
    exact min_le_min_right _ hpow

/-- **The pauses in closed form.** The `k`-th failure in a row is followed by a pause of
`base * 2 ^ (k - 1)`, or of `maxAge` if that is shorter, to the nanosecond. The seconds and
nanoseconds of it are those that doubling with carry and with a longest duration gives. The pauses
never shrink, never exceed `maxAge`, and once they have reached it stay there. -/
theorem backoff_closed_form (p : RetryPolicy) :
    (∀ k, 1 ≤ k →
      (p.nextDelay^[k] .zero).nanos = min (p.base.nanos * 2 ^ (k - 1)) p.maxAge.nanos) ∧
    (∀ k, p.nextParts^[k] ⟨0, 0⟩ =
      ⟨(p.nextDelay^[k] .zero).secs, (p.nextDelay^[k] .zero).subsecNanos⟩) ∧
    (∀ j k, j ≤ k → (p.nextDelay^[j] .zero).nanos ≤ (p.nextDelay^[k] .zero).nanos) ∧
    (∀ k, (p.nextDelay^[k] .zero).nanos ≤ p.maxAge.nanos) ∧
    ∀ j k, j ≤ k → p.nextDelay^[j] .zero = p.maxAge → p.nextDelay^[k] .zero = p.maxAge := by
  refine ⟨fun k hk => ?_, p.parts_iterate, fun j k hjk => p.nanos_iterate_mono hjk,
    p.nanos_iterate_le, fun j k hjk hj => ?_⟩
  · obtain ⟨k, rfl⟩ := Nat.exists_eq_add_of_le' hk
    exact p.nanos_iterate_succ k
  · have hmono := p.nanos_iterate_mono hjk
    simp only [hj] at hmono
    exact Duration.ext_nanos (Nat.le_antisymm (p.nanos_iterate_le k) hmono)

end RetryPolicy

end SchemaCatalog
