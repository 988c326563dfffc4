import SchemaCatalog.Proofs.Retry.Delay
import Mathlib.Data.List.Induction

/-!
# A mapping sums up its history

Each attempt to resolve a pair replaces the mapping of the pair by a new one, which is made from the
one before. Whatever the order of successes and failures, the last mapping says what a reader of the
whole history would say.

* `Trial`: how an attempt ended. `Trial.streak`: the failures at the end of a history.
* `Memory`: the mapping of a pair with the running streak. `Memory.take`: one more attempt.
* `Memory.toNat_attempts_after`: the count is that of the streak, as far as it can be held.
* `Trial.Summary`: what a mapping says about a history. `Memory.id_after`,
  `Memory.createdAt_after`: what a failure keeps of the mapping before.
* **`Memory.history_summarised`**: the mapping after a history sums it up, and a streak is reported
  when it begins and when it ends.
-/

namespace SchemaCatalog

/-! ## Histories -/

/-- How an attempt to resolve a pair ended, and when. After a failure the next one has to wait. -/
inductive Trial
  | found (id : SchemaId) (ended : Instant)
  | lost (pause : Duration) (ended : Instant)

namespace Trial

def ended : Trial → Instant
  | found _ now | lost _ now => now

/-- How long the next one has to wait. -/
def pause : Trial → Duration
  | found _ _ => .zero
  | lost d _ => d

def isLost : Trial → Bool
  | found _ _ => false
  | lost _ _ => true

/-- The id that was found, and when. -/
def found? : Trial → Option (SchemaId × Instant)
  | found id now => some (id, now)
  | lost _ _ => none

def lastFound? (l : List Trial) : Option (SchemaId × Instant) := (l.filterMap found?).getLast?

def firstLost? (l : List Trial) : Option Trial := l.find? isLost

/-- The failures since the last success. -/
def streak (l : List Trial) : Nat := (l.reverse.takeWhile isLost).length

variable (l : List Trial) (t : Trial) (id : SchemaId) (d : Duration) (now : Instant)

@[simp] theorem streak_found : streak (l ++ [found id now]) = 0 := by simp [streak, isLost]

@[simp] theorem streak_lost : streak (l ++ [lost d now]) = streak l + 1 := by
  unfold streak
  rw [List.reverse_concat, List.takeWhile_cons_of_pos rfl, List.length_cons]

@[simp] theorem lastFound?_found : lastFound? (l ++ [found id now]) = some (id, now) := by
  simp [lastFound?, found?]

@[simp] theorem lastFound?_lost : lastFound? (l ++ [lost d now]) = lastFound? l := by
  simp [lastFound?, found?]

@[simp] theorem firstLost?_lost :
    firstLost? (l ++ [lost d now]) = (firstLost? l).or (some (lost d now)) := by
  simp [firstLost?, isLost]

/-- What a mapping says about the history of its pair: the id of the last success, the instant of
that or, without any, of the first failure, the last attempt, the failures since the last success as
far as 32 bits go, and the pause of the last attempt. -/
structure Summary (l : List Trial) (m : Mapping) : Prop where
  id_eq : m.id = (lastFound? l).map Prod.fst
  createdAt_eq : some m.createdAt =
    ((lastFound? l).map Prod.snd).or ((firstLost? l).map ended)
  attemptedAt_eq : some m.attemptedAt = l.getLast?.map ended
  attempts_eq : m.retry.attempts.toNat = min (streak l) (2 ^ 32 - 1)
  retryAfter_eq : some m.retryAfter = l.getLast?.map pause

end Trial

/-! ## What is remembered -/

open Trial (streak lastFound? firstLost? Summary)

/-- What is remembered of a pair: its mapping, once there was an attempt, and the running streak. -/
structure Memory where
  mapping : Option Mapping
  retry : RetryState

namespace Memory

/-- There was no attempt yet. -/
def blank : Memory := ⟨none, .initial⟩

/-- One more attempt. A success resets the streak; a failure is counted first, and then put down on
top of the mapping before. -/
def take (s : Memory) : Trial → Memory
  | .found id now => ⟨some (.resolved id now), s.retry.succeed.1⟩
  | .lost pause now => ⟨some (.failed s.mapping s.retry.fail.1 pause now), s.retry.fail.1⟩

def after (l : List Trial) : Memory := l.foldl take blank

variable (l : List Trial) (t : Trial)

theorem after_concat : after (l ++ [t]) = (after l).take t := by
  simp [after]

/-- The count is that of the streak, as far as it can be held. -/
theorem toNat_attempts_after :
    (after l).retry.attempts.toNat = min (streak l) (2 ^ 32 - 1) := by
  induction l using List.reverseRecOn with
  | nil => rfl
  | append_singleton l t ih =>
    rw [after_concat]
    cases t with
    | found id now =>
      rw [Trial.streak_found]
      rfl
    | lost pause now =>
      show (after l).retry.fail.1.attempts.toNat = _
      rw [RetryState.toNat_attempts_fail, ih, Trial.streak_lost]
      omega

/-- A streak is running exactly if the count is not zero, also where the count has stopped. -/
theorem isFailing_after : (after l).retry.isFailing = true ↔ streak l ≠ 0 := by
  have hcount := toNat_attempts_after l
  have hzero : (after l).retry.attempts = 0 ↔ (after l).retry.attempts.toNat = 0 :=
    UInt32.toNat_inj.symm
  unfold RetryState.isFailing
  rw [bne_iff_ne, ne_eq, hzero, hcount]
  omega

theorem mapping_after_eq_none : (after l).mapping = none ↔ l = [] := by
  induction l using List.reverseRecOn with
  | nil => exact iff_of_true rfl rfl
  | append_singleton l t ih =>
    rw [after_concat]
    cases t <;> simp [take]

theorem retry_of_mapping_after {m : Mapping} (h : (after l).mapping = some m) :
    m.retry = (after l).retry := by
  induction l using List.reverseRecOn with
  | nil => cases h
  | append_singleton l t ih =>
    rw [after_concat] at h ⊢
    cases t <;> cases h <;> rfl

theorem id_after : (after l).mapping.bind Mapping.id = (lastFound? l).map Prod.fst := by
  induction l using List.reverseRecOn with
  | nil => rfl
  | append_singleton l t ih =>
    rw [after_concat]
    cases t with
    | found id now =>
      rw [Trial.lastFound?_found]
      rfl
    | lost pause now =>
      rw [Trial.lastFound?_lost]
      exact ih

theorem createdAt_after :
    (after l).mapping.map Mapping.createdAt =
      ((lastFound? l).map Prod.snd).or ((firstLost? l).map Trial.ended) := by
  induction l using List.reverseRecOn with
  | nil => rfl
  | append_singleton l t ih =>
    rw [after_concat]
    cases t with
    | found id now =>
      rw [Trial.lastFound?_found]
      rfl
    | lost pause now =>
      show some (((after l).mapping.map Mapping.createdAt).getD now) = _
      rw [ih, Trial.lastFound?_lost, Trial.firstLost?_lost, Option.map_or, ← Option.or_assoc,
        Option.map_some, Option.or_some]
      rfl

theorem attemptedAt_after :
    (after l).mapping.map Mapping.attemptedAt = l.getLast?.map Trial.ended := by
  induction l using List.reverseRecOn with
  | nil => rfl
  | append_singleton l t ih =>
    rw [after_concat, List.getLast?_concat]
    cases t <;> rfl

theorem retryAfter_after :
    (after l).mapping.map Mapping.retryAfter = l.getLast?.map Trial.pause := by
  induction l using List.reverseRecOn with
  | nil => rfl
  | append_singleton l t ih =>
    rw [after_concat, List.getLast?_concat]
    cases t <;> rfl

theorem summary_of_mapping_after {m : Mapping} (h : (after l).mapping = some m) :
    Summary l m where
  id_eq := by rw [← id_after, h, Option.bind_some]
  createdAt_eq := by rw [← createdAt_after, h, Option.map_some]
  attemptedAt_eq := by rw [← attemptedAt_after, h, Option.map_some]
  attempts_eq := by rw [retry_of_mapping_after l h, toNat_attempts_after]
  retryAfter_eq := by rw [← retryAfter_after, h, Option.map_some]

/-- **A mapping sums up its history.** After any history there is a mapping, unless there was no
attempt yet, and it says what the history says. The next failure is reported as the begin of a
streak exactly if no streak is running, and the next success as the end of one exactly if a streak
is running, however long it has become. -/
theorem history_summarised (l : List Trial) :
    ((after l).mapping = none ↔ l = []) ∧
    (∀ m, (after l).mapping = some m → Summary l m) ∧
    ((after l).retry.fail.2 = true ↔ streak l = 0) ∧
    ((after l).retry.succeed.2 = true ↔ streak l ≠ 0) := by
  have hrunning := isFailing_after l
  refine ⟨mapping_after_eq_none l, fun m => summary_of_mapping_after l, ?_, hrunning⟩
  rw [RetryState.fail_snd, Bool.not_eq_true', ← Bool.not_eq_true, hrunning, not_not]

/-- A success and two failures after it, and before it a failure that no longer counts. -/
example :
    (after [.lost (.ofSecs 1) ⟨1⟩, .found ⟨7⟩ ⟨2⟩, .lost (.ofSecs 1) ⟨3⟩,
      .lost (.ofSecs 2) ⟨4⟩]).mapping = some ⟨⟨2⟩, ⟨4⟩, some ⟨7⟩, ⟨2⟩, .ofSecs 2⟩ := by
  decide

end Memory

end SchemaCatalog
