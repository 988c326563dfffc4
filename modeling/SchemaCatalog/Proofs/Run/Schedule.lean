import SchemaCatalog.Proofs.Run.Mappings

/-!
# When ids are asked for

* `RetryPolicy.wait`: how long to wait after the last attempt.
* `Run.expired_of_outdated`: a value that was replaced has expired.
* `Run.refreshable_iff`: the last value may be refreshed exactly when the wait is over.
* **`Run.id_request_schedule`**: the registry is asked for an id exactly if nobody is asking and the
  wait is over.
-/

namespace SchemaCatalog

/-- How long to wait after an attempt that ends a streak of `k` failures, in nanoseconds. -/
def RetryPolicy.wait (p : RetryPolicy) : Nat → Nat
  | 0 => p.maxAge.nanos
  | k + 1 => min (p.base.nanos * 2 ^ k) p.maxAge.nanos

namespace Run

variable {r : Run} {now : Instant} {a : Group.Action} {key : Key} {m : Mapping} {i : Nat}
  {h : Handler} {p : RetryPolicy}

/-! ## Values that were replaced -/

/-- All handlers follow one policy. -/
def Follows (r : Run) (p : RetryPolicy) : Prop := ∀ u ∈ r.setups, u.handler.policy = p

theorem Follows.maxAge_of_handler (hp : r.Follows p) (hi : r.group.handlers[i]? = some h) :
    h.config.maxAge = p.maxAge :=
  congrArg RetryPolicy.maxAge (hp _ (setup_mem hi))

theorem expired_of_outdated (hp : r.Follows p) (ordered : (r.next now a).Ordered)
    (hm : ids.Outdated r key m) (hid : m.id.isSome) : m.expired now p.maxAge = true := by
  obtain ⟨x, hx, u, hu, hr⟩ := hm
  have hage : u.config.maxAge = p.maxAge := congrArg RetryPolicy.maxAge (hp u hu)
  have hexp : m.expired x.1 p.maxAge = true := by
    rw [← hage]
    exact Mapping.expired_of_refreshable hr hid
  exact Mapping.expired_mono hexp (((r.ordered_next now a).1 ordered).2 x hx)

theorem last_of_fresh (hp : r.Follows p) (ordered : (r.next now a).Ordered)
    (hm : m ∈ ids.values r key) (hid : m.id.isSome) (hfresh : m.expired now p.maxAge = false) :
    Mapping.after key (r.attempts (.id key)) = some m := by
  apply Traffic.getLast?_of_notMem_dropLast hm
  intro hd
  have ho := (ids_complete.sound r).spent.replaced key m hd
  rw [expired_of_outdated hp ordered ho hid] at hfresh
  cases hfresh

/-- A failure is only reached once the id from before has expired. -/
theorem expired_of_streak (hp : r.Follows p) (ordered : (r.next now a).Ordered)
    (hm : Mapping.after key (r.attempts (.id key)) = some m)
    (hs : Attempt.streak (r.attempts (.id key)) ≠ 0) (hid : m.id.isSome) :
    m.expired now p.maxAge = true := by
  obtain ⟨l, t, m', hl, hm', hid', hc⟩ := Mapping.exists_before_after hm hs hid
  have hmem : m' ∈ (ids.values r key).dropLast := by
    have hv : ids.values r key = ids.trail key (l ++ [t]) := congrArg (ids.trail key) hl
    rw [hv, Direction.trail_concat, List.dropLast_concat]
    exact List.mem_of_getLast? hm'
  have ho := (ids_complete.sound r).spent.replaced key m' hmem
  rw [← Mapping.expired_congr hc]
  exact expired_of_outdated hp ordered ho hid'

/-! ## The wait -/

theorem Follows.policy_of_attempt (hp : r.Follows p) {t : Attempt}
    (ht : t ∈ r.attempts (.id key)) : t.handler.policy = p := by
  have hu := (ids_complete.origin_of_attempt r ht).1
  show t.handler.setup.handler.policy = p
  exact hp t.handler.setup hu

/-- The last value may be refreshed exactly when the wait is over. -/
theorem refreshable_iff (hp : r.Follows p) (ordered : (r.next now a).Ordered)
    (hm : Mapping.after key (r.attempts (.id key)) = some m) {t : Attempt}
    (ht : (r.attempts (.id key)).getLast? = some t) :
    m.refreshable now p.maxAge = true ↔
      p.wait (Attempt.streak (r.attempts (.id key))) ≤ now.since t.ended := by
  obtain ⟨t', ht', hended⟩ := Mapping.attemptedAt_after hm
  obtain rfl : t' = t := Option.some.inj (ht'.symm.trans ht)
  have hpause : m.retryAfter = p.delayAfter (Attempt.streak (r.attempts (.id key))) := by
    have hall : ∀ t ∈ r.attempts (.id key), t.handler.policy = p :=
      fun t ht => hp.policy_of_attempt ht
    have h := Mapping.pause_after key hall
    rw [hm] at h
    exact h
  cases hk : Attempt.streak (r.attempts (.id key)) with
  | zero =>
    -- after a success only the age counts
    obtain ⟨hc, hid⟩ := Mapping.createdAt_after hm hk
    rw [hk] at hpause
    rw [Mapping.refreshable, Mapping.retryAllowed, Mapping.expired, hpause, hc, hended,
      Option.isNone_eq_false_iff.2 hid]
    simp [RetryPolicy.wait, RetryPolicy.delayAfter, Duration.zero]
  | succ k =>
    -- during a streak only the pause counts, since the age is past
    have hage : (m.id.isNone || m.expired now p.maxAge) = true := by
      cases hid : m.id with
      | none => rfl
      | some n =>
        rw [expired_of_streak hp ordered hm (by omega) (Option.isSome_of_eq_some hid)]
        exact Bool.or_true _
    rw [hk] at hpause
    rw [Mapping.refreshable, hage, Bool.and_true, Mapping.retryAllowed, hpause, hended,
      RetryPolicy.nanos_delayAfter_succ, decide_eq_true_iff, RetryPolicy.wait]

theorem effect_start_id (now : Instant) (key : Key) (hi : r.group.handlers[i]? = some h) :
    (r.moment now (.start i (.id key))).effect =
      ⟨(ids.start now r.group.cache h key).request,
        (ids.start now r.group.cache h key).events⟩ := by
  rw [Moment.effect, moment, Group.step_start_id now key hi]
  rfl

theorem not_refreshable_of_own (hp : r.Follows p) (ordered : (r.next now a).Ordered)
    (hi : r.group.handlers[i]? = some h) (hown : (ids.own now h key).1 ≠ none) :
    ∃ m, Mapping.after key (r.attempts (.id key)) = some m ∧
      m.refreshable now p.maxAge = false := by
  obtain ⟨b, hb⟩ := Option.ne_none_iff_exists'.1 hown
  obtain ⟨id, hid, -⟩ := Option.map_eq_some_iff.1 hb
  have hbacked : h.IdsFrom (ids.values r) :=
    (ids_complete.sound r).backed h (List.mem_of_getElem? hi)
  obtain ⟨m, hm, -, hsome, hfresh⟩ := hbacked.of_own hid
  rw [hp.maxAge_of_handler hi] at hfresh
  refine ⟨m, last_of_fresh hp ordered hm hsome hfresh, ?_⟩
  rw [Mapping.refreshable, hfresh, Option.isNone_eq_false_iff.2 hsome]
  exact Bool.and_false _

/-- **The registry is asked for an id exactly if nobody is asking and the wait is over.** As only a
lookup that starts asks at all (`Moment.opens?_of_request`), this accounts for every request. -/
theorem id_request_schedule (r : Run) (base maxAge : Duration)
    (shared : ∀ u ∈ r.setups, u.config.retryInitialDelay = base ∧ u.config.maxAge = maxAge)
    (key : Key) (s : Instant) (i : Nat) (h : Handler) (hi : r.group.handlers[i]? = some h)
    (ordered : (r.next s (.start i (.id key))).Ordered) :
    (r.moment s (.start i (.id key))).effect.request.isSome ↔
      r.group.cache.ids.standing key ≠ .pending ∧
        (r.attempts (.id key) = [] ∨
          ∃ t, (r.attempts (.id key)).getLast? = some t ∧
            (RetryPolicy.mk base maxAge).wait (Attempt.streak (r.attempts (.id key))) ≤
              s.since t.ended) := by
  have hp : r.Follows ⟨base, maxAge⟩ := by
    intro u hu
    obtain ⟨hb, hm⟩ := shared u hu
    show RetryPolicy.mk u.config.retryInitialDelay u.config.maxAge = _
    rw [hb, hm]
  have hage : h.config.maxAge = maxAge := hp.maxAge_of_handler hi
  have hr := ids_complete.sound r
  rw [effect_start_id s key hi, Direction.isSome_request_start]
  have hstand : r.group.cache.ids.standing key ≠ .pending → ∀ m,
      r.group.cache.ids.standing key = .ready m ↔
        Mapping.after key (r.attempts (.id key)) = some m :=
    fun hfree _ => hr.traffic.standing_eq_ready_iff hfree
  have hgood : ∀ m, ids.replaceable s h m = m.refreshable s maxAge := by
    intro m
    show m.refreshable s h.config.maxAge = _
    rw [hage]
  constructor
  · rintro ⟨-, hfree, hold⟩
    refine ⟨hfree, ?_⟩
    cases hm : Mapping.after key (r.attempts (.id key)) with
    | none => exact Or.inl (Mapping.after_eq_none.1 hm)
    | some m =>
      obtain ⟨t, ht, -⟩ := Mapping.attemptedAt_after hm
      have href := hold m ((hstand hfree m).2 hm)
      rw [hgood] at href
      exact Or.inr ⟨t, ht, (refreshable_iff hp ordered hm ht).1 href⟩
  · rintro ⟨hfree, hwait⟩
    have href : ∀ m, Mapping.after key (r.attempts (.id key)) = some m →
        m.refreshable s maxAge = true := by
      intro m hm
      obtain hnone | ⟨t, ht, hle⟩ := hwait
      · rw [Mapping.after_eq_none.2 hnone] at hm
        cases hm
      · exact (refreshable_iff hp ordered hm ht).2 hle
    refine ⟨?_, hfree, fun m hm => (hgood m).trans (href m ((hstand hfree m).1 hm))⟩
    by_contra hown
    obtain ⟨m, hm, hnot⟩ := not_refreshable_of_own hp ordered hi hown
    rw [href m hm] at hnot
    cases hnot

/-- A handler fails to resolve a pair. -/
def lostOnce : Run where
  setups := [⟨1, .standard, .record⟩]
  schedule := [(.ofMillis 0, .start 0 (.id ⟨"a", "1"⟩)), (.ofMillis 5, .receive 0 none)]

theorem id_request_schedule_lostOnce :
    (lostOnce.moment (.ofMillis 1005) (.start 0 (.id ⟨"a", "1"⟩))).effect.request.isSome := by
  obtain ⟨h, hi⟩ : ∃ h, lostOnce.group.handlers[0]? = some h :=
    Option.isSome_iff_exists.1 (by decide)
  have ordered : (lostOnce.next (.ofMillis 1005) (.start 0 (.id ⟨"a", "1"⟩))).Ordered := by
    unfold Ordered
    decide
  refine (id_request_schedule lostOnce (.ofMillis 1000) (.ofSecs 300) (by decide) ⟨"a", "1"⟩
    (.ofMillis 1005) 0 h hi ordered).2 ⟨by decide, Or.inr ⟨_, rfl, ?_⟩⟩
  decide +kernel

end Run

end SchemaCatalog
