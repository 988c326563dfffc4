import SchemaCatalog.Proofs.Retry.Delay
import SchemaCatalog.Proofs.Run.Attempts

/-!
# What a mapping remembers

The last mapping of a pair sums up all attempts about it.

* `Attempt.streak`: the failures at the end of a list of attempts.
* `Handler.idAttempt_of_found`, `Handler.idAttempt_of_lost`: the two ends of an attempt.
* `Mapping.after`: what is known after a list of attempts. `Mapping.id_after`: the id of the last
  success; `Mapping.attemptedAt_after`: the end of the last attempt; `Mapping.failing_after`,
  `Mapping.pause_after`: the streak, and the pause that it calls for.
-/

namespace SchemaCatalog

/-! ## Streaks -/

namespace Attempt

/-- The failures at the end of a list of attempts. -/
def streak (l : List Attempt) : Nat := (l.reverse.takeWhile fun t => t.id?.isNone).length

variable (l : List Attempt) {t : Attempt}

theorem streak_concat_of_some {id : SchemaId} (h : t.id? = some id) : streak (l ++ [t]) = 0 := by
  rw [streak, List.reverse_concat, List.takeWhile_cons, h]
  rfl

theorem streak_concat_of_none (h : t.id? = none) : streak (l ++ [t]) = streak l + 1 := by
  rw [streak, List.reverse_concat, List.takeWhile_cons, h]
  rfl

end Attempt

/-! ## The two ends of an attempt -/

namespace Mapping

def failing (known : Option Mapping) : Bool := ((known.map retry).getD .initial).isFailing

/-- The pause that is to be kept. -/
def pause (known : Option Mapping) : Duration := (known.map retryAfter).getD .zero

end Mapping

namespace Handler

variable (h : Handler) (now : Instant) (key : Key) (prev : Option Mapping) {body : Option String}

theorem idAttempt_of_found {id : SchemaId}
    (hid : (body.bind fun b => RegistryPath.idIn b h.config.useId.memberName) = some id) :
    h.idAttempt now key prev body =
      (.resolved id now,
        if Mapping.failing prev then [⟨h.catalogId, .retrievedVersion key⟩] else []) := by
  rw [idAttempt, hid]
  rfl

theorem idAttempt_of_lost
    (hid : (body.bind fun b => RegistryPath.idIn b h.config.useId.memberName) = none) :
    h.idAttempt now key prev body =
      (.failed prev ((prev.map Mapping.retry).getD .initial).fail.1
        (h.policy.nextDelay (Mapping.pause prev)) now,
        if Mapping.failing prev then []
        else ⟨h.catalogId, .unretrievableVersion key⟩ ::
          match prev.bind Mapping.id with
          | some id => [⟨h.catalogId, .staleVersion key id⟩]
          | none => []) := by
  rw [idAttempt, hid]
  dsimp only
  rw [RetryState.fail_snd, Mapping.failing]
  cases ((prev.map Mapping.retry).getD .initial).isFailing <;> rfl

end Handler

namespace Mapping

def after (key : Key) (l : List Attempt) : Option Mapping := (ids.trail key l).getLast?

variable {key : Key} {l : List Attempt} {t : Attempt} {m : Mapping}

theorem after_concat :
    after key (l ++ [t]) = some (t.handler.idAttempt t.ended key (after key l) t.body).1 := by
  rw [after, Direction.trail_concat, List.getLast?_concat]
  rfl

theorem after_concat_of_some {id : SchemaId} (h : t.id? = some id) :
    after key (l ++ [t]) = some (.resolved id t.ended) := by
  rw [after_concat, t.handler.idAttempt_of_found _ _ _ h]

theorem after_concat_of_none (h : t.id? = none) :
    after key (l ++ [t]) =
      some (.failed (after key l) (((after key l).map retry).getD .initial).fail.1
        (t.handler.policy.nextDelay (pause (after key l))) t.ended) := by
  rw [after_concat, t.handler.idAttempt_of_lost _ _ _ h]

/-! ## The summary -/

theorem id_after (key : Key) (l : List Attempt) :
    (after key l).bind id = (l.filterMap Attempt.id?).getLast? := by
  induction l using List.reverseRecOn with
  | nil => rfl
  | append_singleton l t ih =>
    rw [List.filterMap_append]
    cases h : t.id? with
    | some n =>
      rw [after_concat_of_some h, List.filterMap_cons_some h, List.filterMap_nil,
        List.getLast?_concat]
      rfl
    | none =>
      rw [after_concat_of_none h, List.filterMap_cons_none h, List.filterMap_nil, List.append_nil,
        ← ih]
      rfl

theorem attemptedAt_after (h : after key l = some m) :
    ∃ t, l.getLast? = some t ∧ t.ended = m.attemptedAt := by
  induction l using List.reverseRecOn with
  | nil => cases h
  | append_singleton l t ih =>
    refine ⟨t, List.getLast?_concat, ?_⟩
    cases ht : t.id? with
    | some n => rw [after_concat_of_some ht] at h; cases h; rfl
    | none => rw [after_concat_of_none ht] at h; cases h; rfl

theorem after_eq_none : after key l = none ↔ l = [] := by
  rw [after, List.getLast?_eq_none_iff, ← List.length_eq_zero_iff, Direction.length_trail,
    List.length_eq_zero_iff]

theorem failing_after (key : Key) (l : List Attempt) :
    failing (after key l) = decide (Attempt.streak l ≠ 0) := by
  induction l using List.reverseRecOn with
  | nil => rfl
  | append_singleton l t ih =>
    cases h : t.id? with
    | some n => rw [after_concat_of_some h, Attempt.streak_concat_of_some l h]; rfl
    | none =>
      rw [after_concat_of_none h, Attempt.streak_concat_of_none l h, decide_eq_true (by omega)]
      exact RetryState.isFailing_fail _

theorem pause_after {p : RetryPolicy} (key : Key) (hl : ∀ t ∈ l, t.handler.policy = p) :
    pause (after key l) = p.delayAfter (Attempt.streak l) := by
  induction l using List.reverseRecOn with
  | nil => rfl
  | append_singleton l t ih =>
    have ht := hl t (List.mem_append_right _ (List.mem_singleton_self _))
    cases h : t.id? with
    | some n => rw [after_concat_of_some h, Attempt.streak_concat_of_some l h]; rfl
    | none =>
      rw [after_concat_of_none h, Attempt.streak_concat_of_none l h, ht,
        ih fun t ht => hl t (List.mem_append_left _ ht)]
      rfl

theorem createdAt_after (h : after key l = some m) (hs : Attempt.streak l = 0) :
    m.createdAt = m.attemptedAt ∧ m.id.isSome := by
  induction l using List.reverseRecOn with
  | nil => cases h
  | append_singleton l t ih =>
    cases ht : t.id? with
    | some n => rw [after_concat_of_some ht] at h; cases h; exact ⟨rfl, rfl⟩
    | none => rw [Attempt.streak_concat_of_none l ht] at hs; cases hs

/-- During a streak an id is as old as in the mapping before. -/
theorem exists_before_after (h : after key l = some m) (hs : Attempt.streak l ≠ 0)
    (hid : m.id.isSome) :
    ∃ l' t m', l = l' ++ [t] ∧ after key l' = some m' ∧ m'.id.isSome ∧
      m'.createdAt = m.createdAt := by
  induction l using List.reverseRecOn with
  | nil => cases h
  | append_singleton l t ih =>
    cases ht : t.id? with
    | some n => exact absurd (Attempt.streak_concat_of_some l ht) hs
    | none =>
      rw [after_concat_of_none ht, Option.some.injEq] at h
      subst h
      cases hm : after key l with
      | none => rw [hm] at hid; cases hid
      | some m' =>
        rw [hm] at hid
        exact ⟨l, t, m', rfl, hm, hid, rfl⟩

/-- An id is as old as the attempt that found it. All attempts since then have failed. -/
theorem exists_found_after {n : SchemaId} (h : after key l = some m) (hn : m.id = some n) :
    ∃ before t lost, l = before ++ t :: lost ∧ t.id? = some n ∧ t.ended = m.createdAt ∧
      ∀ t' ∈ lost, t'.id? = none := by
  induction l using List.reverseRecOn generalizing m with
  | nil => cases h
  | append_singleton l t ih =>
    cases ht : t.id? with
    | some n' =>
      rw [after_concat_of_some ht, Option.some.injEq] at h
      subst h
      exact ⟨l, t, [], rfl, ht.trans hn, rfl, nofun⟩
    | none =>
      rw [after_concat_of_none ht, Option.some.injEq] at h
      subst h
      obtain ⟨m', hm', hid⟩ := Option.bind_eq_some_iff.1 hn
      obtain ⟨before, t', lost, rfl, hfound, hended, hlost⟩ := ih hm' hid
      refine ⟨before, t', lost ++ [t], by simp, hfound, ?_, ?_⟩
      · rw [hended, hm']
        rfl
      · intro t'' ht''
        obtain hold | hnew := List.mem_append.1 ht''
        · exact hlost t'' hold
        · rw [List.mem_singleton.1 hnew, ht]

/-- An id of a mapping, be it the last one or not, was found by an attempt. -/
theorem exists_found_of_mem {n : SchemaId} (hm : m ∈ ids.trail key l) (hn : m.id = some n) :
    ∃ t ∈ l, t.id? = some n ∧ t.ended = m.createdAt := by
  obtain ⟨l', hprefix, hlast⟩ := Direction.exists_prefix_of_mem_trail hm
  obtain ⟨before, t, lost, rfl, hfound, hended, -⟩ := exists_found_after hlast hn
  exact ⟨t, hprefix.subset (List.mem_append_right _ List.mem_cons_self), hfound, hended⟩

/-- The pause is no longer than ids stay fresh. -/
theorem retryAfter_after_le {maxAge : Duration}
    (hl : ∀ t ∈ l, t.handler.config.maxAge = maxAge) (h : after key l = some m) :
    m.retryAfter.nanos ≤ maxAge.nanos := by
  obtain rfl | ⟨l, t, rfl⟩ := List.eq_nil_or_concat l
  · cases h
  · rw [List.concat_eq_append] at h hl
    have hage := hl t (List.mem_append_right _ (List.mem_singleton_self _))
    cases ht : t.id? with
    | some n =>
      rw [after_concat_of_some ht, Option.some.injEq] at h
      subst h
      exact Nat.zero_le _
    | none =>
      rw [after_concat_of_none ht, Option.some.injEq] at h
      subst h
      rw [← hage]
      show (t.handler.policy.nextDelay _).nanos ≤ _
      rw [RetryPolicy.nanos_nextDelay]
      exact Nat.min_le_right _ _

theorem lost_of_retryAfter (h : after key l = some m) (hp : m.retryAfter.nanos ≠ 0) :
    ∃ t ∈ l, t.id? = none ∧ t.ended = m.attemptedAt := by
  obtain rfl | ⟨l, t, rfl⟩ := List.eq_nil_or_concat l
  · cases h
  · rw [List.concat_eq_append] at h ⊢
    refine ⟨t, List.mem_append_right _ (List.mem_singleton_self _), ?_⟩
    cases ht : t.id? with
    | some n =>
      rw [after_concat_of_some ht, Option.some.injEq] at h
      subst h
      exact absurd rfl hp
    | none =>
      rw [after_concat_of_none ht, Option.some.injEq] at h
      subst h
      exact ⟨rfl, rfl⟩

end Mapping

end SchemaCatalog
