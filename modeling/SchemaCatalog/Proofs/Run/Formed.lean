import SchemaCatalog.Proofs.Flight.Session
import SchemaCatalog.Proofs.Run.Clock
import SchemaCatalog.Proofs.Run.Schedule

/-!
# What caches hold

The fields of what is learned about a key depend on each other, and what handlers keep for
themselves agrees with what they share.

* `Mapping.Formed`, `CachedSchema.Formed`: what holds of the fields. `Mapping.formed_failed`: a
  failure keeps it.
* `Run.formed_of_mem`: it holds of every mapping that an attempt came to.
* `Traffic.Settled`: flights have settled on values that attempts came to.
* `Run.forall_handlers`: what looking at own entries and keeping more of them do not change.
* `SharedCache.Formed`, `Handler.Agrees`: what holds of the shared cache, and of a handler.
* **`Run.cache_formed`**: both hold after every run.
-/

namespace SchemaCatalog

/-! ## Fields -/

/-- A schema has content exactly if its last attempt did not fail. -/
def CachedSchema.Formed (v : CachedSchema) : Prop := v.retry.attempts = 0 ↔ v.content.isSome

theorem Handler.formed_contentAttempt (h : Handler) (id : SchemaId) (prev : Option CachedSchema)
    (body : Option String) : (h.contentAttempt id prev body).1.Formed := by
  cases body with
  | some s => exact iff_of_true rfl rfl
  | none => exact iff_of_false (RetryState.attempts_fail_ne_zero _) Bool.false_ne_true

namespace Mapping

/-- The fields of a mapping fit together, where handlers follow `p`. -/
structure Formed (p : RetryPolicy) (m : Mapping) : Prop where
  ordered : m.createdAt.nanos ≤ m.attemptedAt.nanos
  found : m.retry.attempts = 0 →
    m.id.isSome ∧ m.createdAt = m.attemptedAt ∧ m.retryAfter = .zero
  lost : m.retry.attempts ≠ 0 →
    m.retryAfter.nanos = min (p.base.nanos * 2 ^ (m.retry.attempts.toNat - 1)) p.maxAge.nanos ∧
      (m.id = none ∨ p.maxAge.nanos ≤ m.attemptedAt.since m.createdAt)

variable {p : RetryPolicy} {m : Mapping} {prev : Option Mapping} {now : Instant}

theorem formed_resolved (p : RetryPolicy) (id : SchemaId) (now : Instant) :
    (resolved id now).Formed p where
  ordered := Nat.le_refl _
  found _ := ⟨rfl, rfl, rfl⟩
  lost hne := absurd rfl hne

theorem Formed.retryAfter_eq (h : m.Formed p) :
    m.retryAfter = p.delayAfter m.retry.attempts.toNat := by
  by_cases hzero : m.retry.attempts = 0
  · rw [(h.found hzero).2.2, hzero]
    rfl
  · have hpos : m.retry.attempts.toNat ≠ 0 := fun h0 => hzero (UInt32.toNat_inj.1 h0)
    apply Duration.ext_nanos
    rw [(h.lost hzero).1, ← RetryPolicy.nanos_delayAfter_succ, Nat.sub_add_cancel (by omega)]

/-- **A failure keeps the fields fitting** if the id before, should there be one, has expired. -/
theorem formed_failed (hprev : ∀ m, prev = some m → m.Formed p ∧
      m.attemptedAt.nanos ≤ now.nanos ∧ (m.id.isSome → m.expired now p.maxAge = true)) :
    (failed prev ((prev.map retry).getD .initial).fail.1 (p.nextDelay (pause prev)) now).Formed p
    where
  ordered := by
    cases prev with
    | none => exact Nat.le_refl _
    | some m =>
      obtain ⟨hm, hle, -⟩ := hprev m rfl
      exact Nat.le_trans hm.ordered hle
  found h := absurd h (RetryState.attempts_fail_ne_zero _)
  lost hne := by
    have hpause : pause prev = p.delayAfter ((prev.map retry).getD .initial).attempts.toNat := by
      cases prev with
      | none => rfl
      | some m => exact (hprev m rfl).1.retryAfter_eq
    generalize hstate : (prev.map retry).getD .initial = state at hpause hne
    have hpos : state.fail.1.attempts.toNat ≠ 0 := fun h0 => hne (UInt32.toNat_inj.1 h0)
    refine ⟨?_, ?_⟩
    · calc (p.nextDelay (pause prev)).nanos
          = (p.delayAfter (state.attempts.toNat + 1)).nanos := by
            rw [hpause, RetryPolicy.delayAfter]
        _ = (p.delayAfter (state.fail.1.attempts.toNat - 1 + 1)).nanos := by
            rw [Nat.sub_add_cancel (by omega), p.delayAfter_fail]
        _ = _ := p.nanos_delayAfter_succ _
    · cases prev with
      | none => exact .inl rfl
      | some m =>
        cases hid : m.id with
        | none => exact .inl hid
        | some n =>
          have hexp := (hprev m rfl).2.2 (Option.isSome_of_eq_some hid)
          exact .inr (of_decide_eq_true hexp)

end Mapping

/-! ## Values of a run -/

namespace Run

variable {r : Run} {now : Instant} {a : Group.Action} {key : Key} {m : Mapping} {p : RetryPolicy}

theorem formed_of_mem_contents {id : SchemaId} {v : CachedSchema} (hv : v ∈ contents.values r id) :
    v.Formed := by
  obtain ⟨l, -, hlast⟩ := Direction.exists_prefix_of_mem_trail hv
  obtain rfl | ⟨l, t, rfl⟩ := List.eq_nil_or_concat l
  · cases hlast
  · rw [List.concat_eq_append, Direction.trail_concat, List.getLast?_concat,
      Option.some.injEq] at hlast
    subst hlast
    exact t.handler.formed_contentAttempt id _ t.body

theorem formed_attempt (hp : r.Follows p) (ordered : (r.next now a).Ordered)
    (hold : ∀ m ∈ ids.values r key, m.Formed p) {t : Attempt}
    (ht : (r.moment now a).endsOn? (ids.ask key) = some t) :
    (t.handler.idAttempt t.ended key (ids.values r key).getLast? t.body).1.Formed p := by
  have hr := ids_complete.sound r
  obtain ⟨i, f, prev, d, hcall, hi, hended, -⟩ := ids_complete.lead_of_endsOn? ht
  have hpart : (ids.traffic r).part t.call = some (.lead key f prev) :=
    (Direction.traffic_part_of_call hcall).trans (ids.part?_lead key f prev d)
  have hpolicy : t.handler.policy = p := by
    have hset : t.handler.setup.handler.policy = p := hp t.handler.setup (setup_mem hi)
    exact hset
  have hprev : prev = (ids.values r key).getLast? :=
    hr.traffic.lead_previous t.call key f prev hpart
  rw [← hprev, hended]
  cases hid : t.body.bind fun b => RegistryPath.idIn b t.handler.config.useId.memberName with
  | some n =>
    rw [t.handler.idAttempt_of_found now key prev hid]
    exact Mapping.formed_resolved p n now
  | none =>
    rw [t.handler.idAttempt_of_lost now key prev hid, hpolicy]
    refine Mapping.formed_failed ?_
    rintro m rfl
    have hlast : Mapping.after key (r.attempts (.id key)) = some m := hprev.symm
    obtain ⟨t', ht', hattempted⟩ := Mapping.attemptedAt_after hlast
    refine ⟨hold m (List.mem_of_getLast? hlast), ?_, fun hsome => ?_⟩
    · rw [← hattempted]
      refine ids_complete.attempts_le ordered (k := key) ?_
      rw [r.attempts_next]
      exact List.mem_append_left _ (List.mem_of_getLast? ht')
    · -- the leader could replace the id when it started, and the clock has gone on since
      exact expired_of_outdated hp ordered (hr.spent.replacing t.call key f m hpart) hsome

/-- **The values of a pair are formed.** -/
theorem formed_of_mem (hp : r.Follows p) (ordered : r.Ordered) (hm : m ∈ ids.values r key) :
    m.Formed p := by
  induction r using Run.induction generalizing m with
  | start us => cases hm
  | next r now a ih =>
    have hp' : r.Follows p := hp
    have hold : ∀ m ∈ ids.values r key, m.Formed p := fun m =>
      ih hp' ((r.ordered_next now a).1 ordered).1
    cases ht : (r.moment now a).endsOn? (ids.ask key) with
    | none =>
      rw [Direction.values_next_of_none ht] at hm
      exact hold m hm
    | some t =>
      rw [Direction.values_next_of_some ht, List.mem_append, List.mem_singleton] at hm
      obtain hm | rfl := hm
      · exact hold m hm
      · exact formed_attempt hp' ordered hold ht

end Run

/-! ## Flights that have settled -/

namespace Traffic

variable {κ α : Type} [DecidableEq κ] {s s' : Traffic κ α} {spent : κ → α → Prop}

open Function (update)

/-- Every flight that has settled has done so on a value of some key. -/
def Settled (s : Traffic κ α) : Prop := ∀ f a, s.table.flight f = .ready a → ∃ k, a ∈ s.values k

omit [DecidableEq κ] in
theorem Settled.settle (hs : s.Settled) {f : Nat} {st : Flight α} {values : κ → List α}
    (grown : ∀ k, s.values k ⊆ values k) (learned : ∀ a, st = .ready a → ∃ k, a ∈ values k)
    (part : Nat → Option (Part κ α)) : Settled ⟨s.table.settle f st, part, values⟩ := by
  intro f' a hf
  have hold : s.table.flight f' = .ready a → ∃ k, a ∈ values k := fun h =>
    (hs f' a h).imp fun k hk => grown k hk
  by_cases hff : f' = f
  · subst hff
    by_cases hlt : f' < s.table.flights.length
    · rw [FlightTable.flight_settle_self hlt] at hf
      exact learned a hf
    · rw [FlightTable.settle, List.set_eq_of_length_le (Nat.le_of_not_lt hlt)] at hf
      exact hold hf
  · rw [FlightTable.flight_settle_of_ne hff] at hf
    exact hold hf

theorem Settled.move (h : s.Sound) (hs : s.Settled) (hm : Move spent s s') : s'.Settled := by
  cases hm with
  | @lead c k idle free gone =>
    intro f a hf
    obtain hlt | rfl | hlt := Nat.lt_trichotomy f s.table.flights.length
    · rw [FlightTable.flight_launch_of_lt hlt] at hf
      exact hs f a hf
    · rw [FlightTable.flight_launch_self] at hf
      cases hf
    · have hnone : (s.table.launch k).flights[f]? = none :=
        List.getElem?_eq_none (by rw [FlightTable.length_launch]; omega)
      rw [FlightTable.flight, hnone] at hf
      cases hf
  | join idle current pending => exact hs
  | leave led => exact hs
  | @complete c k f prev a led =>
    refine hs.settle (fun k' => ?_) ?_ _
    · by_cases hk : k' = k
      · subst hk
        rw [Function.update_self]
        exact List.subset_append_left _ _
      · rw [Function.update_of_ne hk]
        exact List.Subset.refl _
    · rintro b ⟨⟩
      refine ⟨k, ?_⟩
      rw [Function.update_self]
      exact List.mem_append_right _ (List.mem_singleton_self a)
  | @cancel c k f prev led =>
    refine hs.settle (fun k' => List.Subset.refl _) ?_ _
    intro b hb
    have hprev := h.lead_previous c k f prev led
    cases prev with
    | none => cases hb
    | some a =>
      cases hb
      exact ⟨k, List.mem_of_getLast? hprev.symm⟩

end Traffic

/-- **Flights settle on values of the run.** -/
theorem Direction.Complete.settled {κ α : Type} [DecidableEq κ] {D : Direction κ α}
    (hD : D.Complete) (r : Run) : (D.traffic r).Settled := by
  induction r using Run.induction with
  | start us =>
    rw [traffic_start]
    intro f a hf
    cases hf
  | next r now a ih =>
    obtain hm | hm := hD now r.group a
    · exact ih.move (hD.sound r).traffic ((hD.sound r).traffic_move hm rfl)
    · rw [traffic_away hm]
      exact ih

/-! ## Own entries -/

section

variable {P : Handler → Prop}

theorem Direction.Moves.forall_handlers {κ α : Type} [DecidableEq κ] {D : Direction κ α}
    {now : Instant} {g : Group} {a : Group.Action} {x : Group × Group.Effect}
    (hm : D.Moves now g a x) (own : ∀ h k, P h → P (D.own now h k).2)
    (keep : ∀ h k known, P h → P (D.keep h k known)) (hg : ∀ h ∈ g.handlers, P h) :
    ∀ h ∈ x.1.handlers, P h := by
  have hset : ∀ {i : Nat} {h h' : Handler}, g.handlers[i]? = some h → (P h → P h') →
      ∀ y ∈ g.handlers.set i h', P y := by
    intro i h h' hi hh y hy
    obtain hy | rfl := List.mem_or_eq_of_mem_set hy
    · exact hg y hy
    · exact hh (hg h (List.mem_of_getElem? hi))
  cases hm with
  | own hi | lead hi | join hi => exact hset hi (own _ _)
  | learn hi => exact hset hi fun hh => keep _ _ _ (own _ _ hh)
  | hear _ hi | finish _ _ hi => exact hset hi (keep _ _ _)
  | cancel _ hi | leave _ hi => exact hset hi id

/-- What holds of a new handler holds after every run, if neither looking at own entries nor keeping
more of them changes it. -/
theorem Run.forall_handlers (r : Run) (start : ∀ u, P (Setup.handler u))
    (ownContent : ∀ h id, P h → P (h.ownContent id).2)
    (keepContent : ∀ h id known, P h → P (h.keepContent id known).1)
    (ownId : ∀ now h key, P h → P (h.ownId now key).2)
    (keepId : ∀ h key known, P h → P (h.keepId key known).1) : ∀ h ∈ r.group.handlers, P h := by
  induction r using Run.induction with
  | start us =>
    intro h hh
    obtain ⟨u, -, rfl⟩ := List.mem_map.1 hh
    exact start u
  | next r now a ih =>
    rw [r.group_next]
    obtain hm | hm | hm := r.group.step_moves now a
    · exact hm.forall_handlers ownContent keepContent ih
    · exact hm.forall_handlers (ownId now) keepId ih
    · rw [hm.step]
      exact ih

end

namespace Handler

/-- Ids are kept under the checksums of their own pairs. -/
def Filed (h : Handler) : Prop := ∀ e ∈ h.ids.entries, e.1 = e.2.1.checksum

theorem Filed.keepId {h : Handler} (hh : h.Filed) (key : Key) (known : Option Mapping) :
    (h.keepId key known).1.Filed := by
  unfold Handler.keepId
  split
  · split
    · intro e he
      obtain rfl | he := Lru.mem_of_mem_insert he
      · rfl
      · exact hh e he
    · exact hh
  · exact hh

theorem Filed.ownId {h : Handler} (hh : h.Filed) (now : Instant) (key : Key) :
    (h.ownId now key).2.Filed := by
  rw [ids_ownId]
  exact fun e he => hh e (Lru.mem_of_mem_get he)

/-- What a handler keeps for itself agrees with the shared cache: ids stand under the checksums of
their pairs, those that have not expired `now` are the ones that are shared, and so is every
content. -/
structure Agrees (cache : SharedCache) (maxAge : Duration) (now : Instant) (h : Handler) :
    Prop where
  filed : ∀ e ∈ h.ids.entries, e.1 = e.2.1.checksum
  found : ∀ e ∈ h.ids.entries, e.2.2.id.isSome
  fresh : ∀ e ∈ h.ids.entries, e.2.2.expired now maxAge = false →
    cache.ids.peek e.2.1 = some e.2.2
  content : ∀ e ∈ h.schemas.entries,
    ∃ v, cache.schemas.peek e.1 = some v ∧ v.content = some e.2

end Handler

/-- What a shared cache has settled on is formed, where handlers follow `p`. -/
structure SharedCache.Formed (p : RetryPolicy) (cache : SharedCache) : Prop where
  ids : ∀ f m, cache.ids.flight f = .ready m → m.Formed p
  schemas : ∀ f v, cache.schemas.flight f = .ready v → v.Formed

namespace Run

variable {r : Run} {now : Instant} {h : Handler} {p : RetryPolicy}

theorem filed (r : Run) : ∀ h ∈ r.group.handlers, h.Filed :=
  r.forall_handlers (fun _ _ he => by cases he) (fun _ _ hh => hh)
    (fun _ _ _ hh => by unfold Handler.keepContent; split <;> exact hh)
    (fun now _ key hh => hh.ownId now key) (fun _ key known hh => hh.keepId key known)

theorem peek_ids_of_fresh (hp : r.Follows p) (late : ∀ x ∈ r.schedule, x.1.nanos ≤ now.nanos)
    (hh : h ∈ r.group.handlers) {e : UInt32 × Key × Mapping} (he : e ∈ h.ids.entries)
    (hfresh : e.2.2.expired now p.maxAge = false) :
    r.group.cache.ids.peek e.2.1 = some e.2.2 := by
  have hr := ids_complete.sound r
  obtain ⟨hmem, hsome⟩ := hr.backed h hh e he
  have hkept : ¬ ids.Outdated r e.2.1 e.2.2 := by
    rintro ⟨x, hx, u, hu, hold⟩
    have hage : u.config.maxAge = p.maxAge := congrArg RetryPolicy.maxAge (hp u hu)
    have hexp : e.2.2.expired x.1 p.maxAge = true := by
      rw [← hage]
      exact Mapping.expired_of_refreshable hold hsome
    rw [Mapping.expired_mono hexp (late x hx)] at hfresh
    cases hfresh
  have hstanding : r.group.cache.ids.standing e.2.1 = .ready e.2.2 :=
    hr.standing_of_kept hmem hkept
  rw [FlightTable.peek_eq, hstanding, Flight.value?]

theorem peek_schemas_of_own (hh : h ∈ r.group.handlers) {e : SchemaId × String}
    (he : e ∈ h.schemas.entries) :
    ∃ v, r.group.cache.schemas.peek e.1 = some v ∧ v.content = some e.2 := by
  have hr := contents_complete.sound r
  obtain ⟨v, hmem, hcontent⟩ := hr.backed h hh e he
  have hkept : ¬ contents.Outdated r e.1 v := by
    rintro ⟨x, -, u, -, hold⟩
    have hnone : v.content.isNone = true := hold
    rw [hcontent] at hnone
    cases hnone
  have hstanding : r.group.cache.schemas.standing e.1 = .ready v := hr.standing_of_kept hmem hkept
  refine ⟨v, ?_, hcontent⟩
  rw [FlightTable.peek_eq, hstanding, Flight.value?]

/-- **What caches hold is well formed after every run.** -/
theorem cache_formed (r : Run) (base maxAge : Duration)
    (shared : ∀ u ∈ r.setups, u.config.retryInitialDelay = base ∧ u.config.maxAge = maxAge)
    (ordered : r.Ordered) (now : Instant) (late : ∀ x ∈ r.schedule, x.1.nanos ≤ now.nanos) :
    r.group.cache.Formed ⟨base, maxAge⟩ ∧
      ∀ h ∈ r.group.handlers, h.Agrees r.group.cache maxAge now := by
  have hp : r.Follows ⟨base, maxAge⟩ := by
    intro u hu
    obtain ⟨hb, hm⟩ := shared u hu
    show RetryPolicy.mk u.config.retryInitialDelay u.config.maxAge = _
    rw [hb, hm]
  refine ⟨⟨fun f m hf => ?_, fun f v hf => ?_⟩, fun h hh => ⟨r.filed h hh, fun e he => ?_,
    fun e he => peek_ids_of_fresh hp late hh he, fun e he => peek_schemas_of_own hh he⟩⟩
  · obtain ⟨key, hm⟩ := ids_complete.settled r f m hf
    exact formed_of_mem hp ordered hm
  · obtain ⟨id, hv⟩ := contents_complete.settled r f v hf
    exact formed_of_mem_contents hv
  · exact ((ids_complete.sound r).backed h hh e he).2

/-- A handler finds an id and the content of it, and keeps both. Much later another one asks for the
id again, and the registry is silent. -/
def bothKept : Run where
  setups := [⟨1, .standard, .record⟩, ⟨2, .standard, .record⟩]
  schedule :=
    [(.ofMillis 0, .start 0 (.id ⟨"a", "1"⟩)),
      (.ofMillis 1000, .receive 0 (some "\x7b\"globalId\":1\x7d")),
      (.ofMillis 2000, .start 0 (.content ⟨1⟩)),
      (.ofMillis 3000, .receive 1 (some "s")),
      (.ofMillis 400000, .start 1 (.id ⟨"a", "1"⟩)),
      (.ofMillis 401000, .receive 2 none)]

theorem cache_formed_bothKept :
    (bothKept.group.handlers.map fun h => (h.ids.size, h.schemas.size)) = [(1, 1), (1, 0)] ∧
      bothKept.group.cache.Formed ⟨.ofMillis 1000, .ofSecs 300⟩ ∧
      ∀ h ∈ bothKept.group.handlers,
        h.Agrees bothKept.group.cache (.ofSecs 300) (.ofMillis 401000) := by
  have ordered : bothKept.Ordered := by
    unfold Ordered
    decide
  refine ⟨by decide +kernel, ?_⟩
  exact cache_formed bothKept (.ofMillis 1000) (.ofSecs 300) (by decide) ordered
    (.ofMillis 401000) (by decide)

end Run

end SchemaCatalog
