import SchemaCatalog.Mapping
import Mathlib.Tactic.Ring

/-!
# Streaks, pauses and ages

* `RetryState.isFailing_fail`, `RetryState.fail_snd`: a streak begins with its first failure only,
  however long it gets.
* `RetryPolicy.nanos_delayAfter_succ`: the pause doubles with each failure, up to the limit.
  `RetryPolicy.delayAfter_fail`: the pause goes with the count, though the count stops.
* `Instant.since_mono`: elapsed time never shrinks. `Mapping.expired_mono`,
  `Mapping.retryAllowed_mono`, `Mapping.refreshable_mono`, `Mapping.isStale_mono`: what has expired
  stays so, and what may be refreshed may be refreshed from then on.
-/

namespace SchemaCatalog

namespace RetryState

variable (s : RetryState)

theorem isFailing_fail : s.fail.1.isFailing = true := bne_iff_ne.2 s.attempts_fail_ne_zero

theorem fail_snd : s.fail.2 = !s.isFailing := by
  show (s.attempts == 0) = !(s.attempts != 0)
  rw [bne, Bool.not_not]

theorem toNat_attempts_fail : s.fail.1.attempts.toNat = min (s.attempts.toNat + 1) 4294967295 := by
  have hlt := s.attempts.toNat_lt
  have hmax : s.attempts = 4294967295 ↔ s.attempts.toNat = 4294967295 := UInt32.toNat_inj.symm
  rw [fail]
  split_ifs with h
  · rw [hmax.1 h]
    rfl
  · rw [hmax] at h
    show (s.attempts + 1).toNat = _
    rw [UInt32.toNat_add]
    show (s.attempts.toNat + 1) % 4294967296 = _
    omega

end RetryState

namespace RetryPolicy

variable (p : RetryPolicy)

theorem nanos_nextDelay (d : Duration) :
    (p.nextDelay d).nanos =
      min (if d.nanos = 0 then p.base.nanos else 2 * d.nanos) p.maxAge.nanos := by
  have hle := p.maxAge.nanos_le
  rw [nextDelay, Duration.nanos_min]
  split
  · rfl
  · rw [Duration.double, Duration.nanos_ofNanos]
    omega

theorem nanos_delayAfter_succ (k : Nat) :
    (p.delayAfter (k + 1)).nanos = min (p.base.nanos * 2 ^ k) p.maxAge.nanos := by
  induction k with
  | zero =>
    have hzero : (p.delayAfter 0).nanos = 0 := by simp [delayAfter, Duration.zero]
    rw [delayAfter, nanos_nextDelay, if_pos hzero, Nat.pow_zero, Nat.mul_one]
  | succ k ih =>
    have hdouble : p.base.nanos * 2 ^ (k + 1) = 2 * (p.base.nanos * 2 ^ k) := by ring
    rw [delayAfter, nanos_nextDelay, ih, hdouble]
    by_cases hzero : min (p.base.nanos * 2 ^ k) p.maxAge.nanos = 0
    · -- a pause of zero comes from a zero base or a zero limit
      rw [if_pos hzero]
      obtain hbase | hage : p.base.nanos * 2 ^ k = 0 ∨ p.maxAge.nanos = 0 := by omega
      · have : p.base.nanos = 0 :=
          (Nat.mul_eq_zero.1 hbase).resolve_right (Nat.pos_iff_ne_zero.1 (Nat.two_pow_pos k))
        omega
      · omega
    · rw [if_neg hzero]
      omega

/-- After so many failures the pause is at its limit, unless the base is zero. -/
theorem delayAfter_succ_of_le {k : Nat} (hk : 95 ≤ k) : p.delayAfter (k + 1) = p.delayAfter k := by
  obtain ⟨k, rfl⟩ := Nat.exists_eq_add_of_le' (Nat.le_trans (by decide : 1 ≤ 95) hk)
  apply Duration.ext_nanos
  rw [nanos_delayAfter_succ, nanos_delayAfter_succ]
  obtain hbase | hbase := Nat.eq_zero_or_pos p.base.nanos
  · rw [hbase, Nat.zero_mul, Nat.zero_mul]
  · have hreached : ∀ {j}, 94 ≤ j → p.maxAge.nanos ≤ p.base.nanos * 2 ^ j := by
      intro j hj
      calc p.maxAge.nanos ≤ Duration.maxNanos := p.maxAge.nanos_le
        _ ≤ 2 ^ 94 := by decide
        _ ≤ 2 ^ j := Nat.pow_le_pow_right (by decide) hj
        _ ≤ p.base.nanos * 2 ^ j := Nat.le_mul_of_pos_left _ hbase
    rw [Nat.min_eq_right (hreached (by omega)), Nat.min_eq_right (hreached (by omega))]

/-- The pause is the one that the count calls for, also where the count has stopped. -/
theorem delayAfter_fail (s : RetryState) :
    p.delayAfter s.fail.1.attempts.toNat = p.delayAfter (s.attempts.toNat + 1) := by
  have hlt := s.attempts.toNat_lt
  rw [s.toNat_attempts_fail]
  obtain hle | hmax : s.attempts.toNat + 1 ≤ 4294967295 ∨ s.attempts.toNat = 4294967295 := by omega
  · rw [Nat.min_eq_left hle]
  · rw [Nat.min_eq_right (by omega), hmax,
      p.delayAfter_succ_of_le (k := 4294967295) (by decide)]

end RetryPolicy

theorem Instant.since_mono {now later : Instant} (hle : now.nanos ≤ later.nanos)
    (earlier : Instant) : now.since earlier ≤ later.since earlier :=
  Nat.sub_le_sub_right hle earlier.nanos

namespace Mapping

variable {m m' : Mapping} {now later : Instant} {maxAge : Duration}

theorem expired_mono (h : m.expired now maxAge = true) (hle : now.nanos ≤ later.nanos) :
    m.expired later maxAge = true :=
  decide_eq_true ((of_decide_eq_true h).trans (Instant.since_mono hle m.createdAt))

theorem retryAllowed_mono (h : m.retryAllowed now = true) (hle : now.nanos ≤ later.nanos) :
    m.retryAllowed later = true :=
  decide_eq_true ((of_decide_eq_true h).trans (Instant.since_mono hle m.attemptedAt))

theorem refreshable_mono (h : m.refreshable now maxAge = true) (hle : now.nanos ≤ later.nanos) :
    m.refreshable later maxAge = true := by
  rw [refreshable, Bool.and_eq_true, Bool.or_eq_true] at h ⊢
  obtain ⟨hallowed, hold⟩ := h
  exact ⟨retryAllowed_mono hallowed hle, hold.imp_right fun hexp => expired_mono hexp hle⟩

theorem isStale_mono (h : m.isStale now maxAge = true) (hle : now.nanos ≤ later.nanos) :
    m.isStale later maxAge = true := by
  rw [isStale, Bool.and_eq_true] at h ⊢
  exact ⟨h.1, expired_mono h.2 hle⟩

theorem expired_congr (h : m.createdAt = m'.createdAt) :
    m.expired now maxAge = m'.expired now maxAge := by
  rw [expired, expired, h]

/-- An id is only refreshed once it has expired. -/
theorem expired_of_refreshable (h : m.refreshable now maxAge = true) (hid : m.id.isSome) :
    m.expired now maxAge = true := by
  rw [refreshable, Bool.and_eq_true, Bool.or_eq_true] at h
  obtain hnone | hexp := h.2
  · rw [Option.isNone_iff_eq_none.1 hnone] at hid
    cases hid
  · exact hexp

end Mapping

end SchemaCatalog
