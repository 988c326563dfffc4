import SchemaCatalog.Proofs.Retry.Backoff
import Mathlib.Data.Nat.Find

/-!
# When a mapping may be refreshed

Each check of a mapping asks whether enough time has passed since an instant. Elapsed time is zero
up to that instant and never shrinks, so a check that holds once holds from then on, and there is
one instant at which a mapping opens for another attempt. It is the end of the pause or, for an id,
the end of its freshness if that comes later.

* `Instant.Lasting`: what holds once holds from then on.
  `Instant.Lasting.existsUnique_first`: it holds from one instant on.
* `Duration.Parts.sub`: a difference with a borrowed second. `Instant.le_sub_parts`: the checks are
  the same on seconds and nanoseconds.
* `Mapping.opening`: the end of the pause and of the freshness. `Mapping.refreshable_iff`: a mapping
  may be refreshed from that instant on.
* **`Mapping.refresh_opens_once`**: one opening instant, also where the clock is behind a mapping.
-/

namespace SchemaCatalog

/-! ## What lasts -/

namespace Instant

/-- What holds at an instant holds at every later one. -/
def Lasting (p : Instant → Bool) : Prop :=
  ∀ now later : Instant, now.nanos ≤ later.nanos → p now = true → p later = true

/-- What lasts, and holds at all, holds from one instant on. -/
theorem Lasting.existsUnique_first {p : Instant → Bool} (hp : Lasting p) (hsome : ∃ t, p t = true) :
    ∃! first : Instant, ∀ now : Instant, p now = true ↔ first.nanos ≤ now.nanos := by
  have hex : ∃ n, p ⟨n⟩ = true := by
    obtain ⟨t, ht⟩ := hsome
    exact ⟨t.nanos, ht⟩
  refine ⟨⟨Nat.find hex⟩, fun now => ⟨fun h => Nat.find_min' hex h, fun hle => ?_⟩, ?_⟩
  · exact hp ⟨Nat.find hex⟩ now hle (Nat.find_spec hex)
  · intro first hfirst
    have hle : first.nanos ≤ Nat.find hex := (hfirst ⟨Nat.find hex⟩).1 (Nat.find_spec hex)
    have hge : Nat.find hex ≤ first.nanos := Nat.find_min' hex ((hfirst first).2 (Nat.le_refl _))
    exact congrArg Instant.mk (Nat.le_antisymm hle hge)

def latest (s t : Instant) : Instant := ⟨max s.nanos t.nanos⟩

theorem le_since_iff {now start : Instant} {d : Duration} (h : start.nanos ≤ now.nanos) :
    d.nanos ≤ now.since start ↔ (start.after d).nanos ≤ now.nanos :=
  Nat.le_sub_iff_add_le' h

end Instant

/-! ## Seconds and nanoseconds -/

namespace Duration.Parts

/-- Whether the first one is not longer, the seconds compared first. -/
def le (d e : Parts) : Bool := decide (d.secs < e.secs ∨ d.secs = e.secs ∧ d.nanos ≤ e.nanos)

/-- The difference, zero if the second one is longer. A second is borrowed where the nanoseconds
alone do not suffice. -/
def sub (d e : Parts) : Parts :=
  if e.le d then
    if e.nanos ≤ d.nanos then ⟨d.secs - e.secs, d.nanos - e.nanos⟩
    else ⟨d.secs - e.secs - 1, d.nanos + 1000000000 - e.nanos⟩
  else ⟨0, 0⟩

variable {d e : Parts}

theorem le_eq (hd : d.nanos < 1000000000) (he : e.nanos < 1000000000) :
    d.le e = decide (d.total ≤ e.total) := by
  rw [le, decide_eq_decide, total, total]
  omega

theorem nanos_sub_lt (hd : d.nanos < 1000000000) : (d.sub e).nanos < 1000000000 := by
  unfold sub
  split_ifs with h hnanos
  · exact Nat.lt_of_le_of_lt (Nat.sub_le d.nanos e.nanos) hd
  · show d.nanos + 1000000000 - e.nanos < 1000000000
    omega
  · exact Nat.zero_lt_succ _

theorem total_sub (hd : d.nanos < 1000000000) (he : e.nanos < 1000000000) :
    (d.sub e).total = d.total - e.total := by
  have hle : e.le d = true ↔ e.total ≤ d.total := by rw [le_eq he hd, decide_eq_true_iff]
  rw [sub, apply_ite total, apply_ite total]
  simp only [total] at hle ⊢
  split_ifs with h hnanos <;> rw [hle] at h
  · omega
  · -- the second that is borrowed is there, because `e` is not longer
    omega
  · omega

end Duration.Parts

namespace Instant

open Duration (Parts)

def parts (t : Instant) : Parts := ⟨t.nanos / 1000000000, t.nanos % 1000000000⟩

variable (now start : Instant)

theorem nanos_parts_lt : now.parts.nanos < 1000000000 := Nat.mod_lt _ (by decide)

theorem total_parts : now.parts.total = now.nanos := Nat.div_add_mod' now.nanos 1000000000

/-- The checks are the same, whether they are reckoned field by field or not. -/
theorem le_sub_parts (d : Duration) :
    d.parts.le (now.parts.sub start.parts) = decide (d.nanos ≤ now.since start) := by
  have hnow := nanos_parts_lt now
  have hstart := nanos_parts_lt start
  have hd : d.parts.nanos < 1000000000 := d.subsecNanos_lt
  rw [Parts.le_eq hd (Parts.nanos_sub_lt hnow), Parts.total_sub hnow hstart, d.total_parts,
    total_parts, total_parts, since]

end Instant

/-! ## The checks of a mapping -/

namespace Mapping

open Instant (Lasting)

variable (m : Mapping) (maxAge : Duration) {now : Instant}

/-- The end of the pause after the last attempt or, for an id, the end of its freshness if that
comes later. -/
def opening : Instant :=
  match m.id with
  | none => m.attemptedAt.after m.retryAfter
  | some _ => (m.attemptedAt.after m.retryAfter).latest (m.createdAt.after maxAge)

theorem retryAllowed_iff (h : m.attemptedAt.nanos ≤ now.nanos) :
    m.retryAllowed now = true ↔ (m.attemptedAt.after m.retryAfter).nanos ≤ now.nanos := by
  rw [retryAllowed, decide_eq_true_iff, Instant.le_since_iff h]

theorem expired_iff (h : m.createdAt.nanos ≤ now.nanos) :
    m.expired now maxAge = true ↔ (m.createdAt.after maxAge).nanos ≤ now.nanos := by
  rw [expired, decide_eq_true_iff, Instant.le_since_iff h]

theorem refreshable_iff (ha : m.attemptedAt.nanos ≤ now.nanos)
    (hc : m.createdAt.nanos ≤ now.nanos) :
    m.refreshable now maxAge = true ↔ (m.opening maxAge).nanos ≤ now.nanos := by
  rw [refreshable, Bool.and_eq_true, Bool.or_eq_true, m.retryAllowed_iff ha, m.expired_iff maxAge hc,
    opening]
  cases m.id with
  | none => exact and_iff_left (Or.inl rfl)
  | some id =>
    rw [Instant.latest, Nat.max_le, Option.isNone_some]
    simp only [Bool.false_eq_true, false_or]

theorem exists_refreshable : ∃ now, m.refreshable now maxAge = true := by
  obtain ⟨n, hopen, ha, hc⟩ : ∃ n, (m.opening maxAge).nanos ≤ n ∧ m.attemptedAt.nanos ≤ n ∧
      m.createdAt.nanos ≤ n :=
    ⟨(m.opening maxAge).nanos + m.attemptedAt.nanos + m.createdAt.nanos, by omega, by omega,
      by omega⟩
  exact ⟨⟨n⟩, (m.refreshable_iff maxAge ha hc).2 hopen⟩

theorem lasting_refreshable : Lasting (m.refreshable · maxAge) :=
  fun _ _ hle h => refreshable_mono h hle

theorem isStale_of_refreshable (h : m.refreshable now maxAge = true) (hid : m.id.isSome) :
    m.isStale now maxAge = true := by
  rw [isStale, hid, expired_of_refreshable h hid, Bool.and_self]

/-- **A mapping opens for another attempt at one instant.** Each check that holds at an instant
holds at every later one, also where the clock is behind the mapping, so that there is one first
instant at which it may be refreshed. From the last attempt and the creation on this is the end of
the pause or, for an id, the end of its freshness if that comes later, both ends included. An id
that is not stale is never refreshed. The checks on seconds and nanoseconds, compared field by field
after a difference with a borrowed second, are the same. -/
theorem refresh_opens_once (m : Mapping) (maxAge : Duration) :
    (Lasting (m.refreshable · maxAge) ∧ Lasting (m.expired · maxAge) ∧ Lasting m.retryAllowed ∧
      Lasting (m.isStale · maxAge)) ∧
    (∃! first : Instant, ∀ now : Instant,
      m.refreshable now maxAge = true ↔ first.nanos ≤ now.nanos) ∧
    (∀ now : Instant, m.attemptedAt.nanos ≤ now.nanos → m.createdAt.nanos ≤ now.nanos →
      (m.refreshable now maxAge = true ↔ (m.opening maxAge).nanos ≤ now.nanos)) ∧
    (m.id.isSome → ∀ now : Instant, m.isStale now maxAge = false →
      m.refreshable now maxAge = false) ∧
    ∀ now : Instant,
      m.expired now maxAge = maxAge.parts.le (now.parts.sub m.createdAt.parts) ∧
      m.retryAllowed now = m.retryAfter.parts.le (now.parts.sub m.attemptedAt.parts) := by
  refine ⟨⟨m.lasting_refreshable maxAge, fun _ _ hle h => expired_mono h hle,
    fun _ _ hle h => retryAllowed_mono h hle, fun _ _ hle h => isStale_mono h hle⟩,
    (m.lasting_refreshable maxAge).existsUnique_first (m.exists_refreshable maxAge),
    fun now => m.refreshable_iff maxAge, fun hid now hfresh => ?_, fun now => ⟨?_, ?_⟩⟩
  · rw [Bool.eq_false_iff] at hfresh ⊢
    exact fun h => hfresh (m.isStale_of_refreshable maxAge h hid)
  · rw [Instant.le_sub_parts, expired]
  · rw [Instant.le_sub_parts, retryAllowed]

/-- An id that was found at 1 s. An attempt at 20 s failed and calls for a pause of 2 s. -/
def keptId : Mapping :=
  .failed (some (.resolved ⟨42⟩ (.ofMillis 1000))) RetryState.initial.fail.1 (.ofSecs 2)
    (.ofMillis 20000)

/-- The id stays fresh until 11 s, which is before the failed attempt. The mapping opens at 22 s,
and not a nanosecond earlier. -/
theorem refresh_opens_once_keptId :
    (keptId.attemptedAt.nanos ≤ 21999999999 ∧ keptId.createdAt.nanos ≤ 21999999999 ∧
      keptId.opening (.ofSecs 10) = .ofMillis 22000 ∧
      keptId.refreshable ⟨21999999999⟩ (.ofSecs 10) = false ∧
      keptId.refreshable ⟨22000000000⟩ (.ofSecs 10) = true) ∧
    keptId.id.isSome ∧ keptId.isStale (.ofMillis 10999) (.ofSecs 10) = false ∧
      keptId.refreshable (.ofMillis 10999) (.ofSecs 10) = false := by
  obtain ⟨-, -, hopen, hfresh, -⟩ := refresh_opens_once keptId (.ofSecs 10)
  refine ⟨⟨by decide, by decide, by decide, ?_, ?_⟩, by decide, by decide, ?_⟩
  · rw [Bool.eq_false_iff, ne_eq, hopen ⟨21999999999⟩ (by decide) (by decide)]
    decide
  · exact (hopen ⟨22000000000⟩ (by decide) (by decide)).2 (by decide)
  · exact hfresh (by decide) (.ofMillis 10999) (by decide)

end Mapping

end SchemaCatalog
