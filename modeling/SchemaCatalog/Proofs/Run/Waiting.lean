import SchemaCatalog.Proofs.Run.Clock

/-!
# What followers wait for

A follower waits for a flight of its own key that was pending when it came. The flight is settled by
an attempt that ends after that, unless its leader is given up.

* `Direction.GivenUp`: the leader of a flight was given up.
* `Direction.Awaited`: what has become of a flight since somebody began to wait for it.
* `Direction.Complete.flight_next`: how a step settles a flight.
* `Direction.Complete.follow_next`: how a lookup comes to follow.
* **`Direction.Complete.awaited`**: what has become of the flight of a follower.
-/

namespace SchemaCatalog

namespace Direction

variable {κ α : Type} (D : Direction κ α)

/-- The leader of flight `f` of `k` was given up. -/
def GivenUp (r : Run) (k : κ) (f : Nat) (prev : Option α) : Prop :=
  ∃ m ∈ r.past, ∃ c d, m.action = .cancel c ∧ m.before.progress? c = some (D.lead k f prev d)

/-- What has become of flight `f` of `k`, for which somebody waits since `t₀`. -/
inductive Awaited (r : Run) (k : κ) (f : Nat) (t₀ : Instant) : Prop
  | pending (h : (D.table r.group.cache).flight f = .pending)
  | ended (before : List Attempt) (t : Attempt) (rest : List Attempt) (v : α)
      (attempts : r.attempts (D.ask k) = before ++ t :: rest) (since : t₀.nanos ≤ t.ended.nanos)
      (value : (D.trail k (before ++ [t])).getLast? = some v)
      (h : (D.table r.group.cache).flight f = .ready v)
  | restored (prev : Option α) (gone : D.GivenUp r k f prev)
      (h : (D.table r.group.cache).flight f = .restored prev)

section

variable [DecidableEq κ] {D} {r : Run} {now : Instant} {a : Group.Action} {c c' i : Nat} {k : κ}
  {f : Nat} {t₀ : Instant}

omit [DecidableEq κ] in
theorem GivenUp.next {prev : Option α} (h : D.GivenUp r k f prev) :
    D.GivenUp (r.next now a) k f prev := by
  obtain ⟨m, hm, hgone⟩ := h
  exact ⟨m, by rw [r.past_next]; exact List.mem_append_left _ hm, hgone⟩

/-- **A flight is settled by its leader only**: by the end of its attempt, or by giving up. -/
theorem Complete.flight_next (hD : D.Complete) (hf : f < (D.table r.group.cache).flights.length) :
    (D.table (r.next now a).group.cache).flight f = (D.table r.group.cache).flight f ∨
      ∃ c k prev, D.part r.group c = some (.lead k f prev) ∧
        ((∃ t, (r.moment now a).endsOn? (D.ask k) = some t ∧ t.ended = now ∧
            (D.table (r.next now a).group.cache).flight f =
              .ready (D.attempt t.ended t.handler k prev t.body).1) ∨
          D.GivenUp (r.next now a) k f prev ∧
            (D.table (r.next now a).group.cache).flight f = .restored prev) := by
  have hr := (hD.sound r).traffic
  have hpart : ∀ {c i : Nat} {p : Progress}, r.group.calls[c]? = some ⟨i, p⟩ →
      D.part r.group c = D.part? p := fun hc => traffic_part_of_call hc
  obtain hm | hm := hD now r.group a
  · have hnow : r.moment now a ∈ (r.next now a).past := by
      rw [r.past_next]
      exact List.mem_append_right _ (List.mem_singleton_self _)
    rw [r.group_next]
    generalize r.group.step now a = x at hm
    cases hm with
    | own hi | join hi | learn hi | hear hc | leave hc => exact Or.inl rfl
    | lead hi =>
      left
      rw [Group.cache_put, D.table_withTable, FlightTable.flight_launch_of_lt hf]
    | @finish a c i h k f' prev d body heard hc hi =>
      rw [Group.cache_put, D.table_withTable]
      by_cases hff : f = f'
      · subst hff
        refine Or.inr ⟨c, k, prev, (hpart hc).trans (D.part?_lead k f prev d), Or.inl ?_⟩
        exact ⟨_, (D.endsOn?_finish heard hc hi k).trans (if_pos rfl), rfl,
          FlightTable.flight_settle_self hf⟩
      · exact Or.inl (FlightTable.flight_settle_of_ne hff)
    | @cancel c i h k f' prev d hc hi =>
      rw [Group.cache_put, D.table_withTable]
      by_cases hff : f = f'
      · subst hff
        refine Or.inr ⟨c, k, prev, (hpart hc).trans (D.part?_lead k f prev d), Or.inr ?_⟩
        exact ⟨⟨_, hnow, c, d, rfl, Group.progress?_of_call hc⟩, FlightTable.flight_settle_self hf⟩
      · exact Or.inl (FlightTable.flight_settle_of_ne hff)
  · left
    rw [r.group_next, hm.table]

/-- A lookup follows from before, or it comes to follow a pending flight now. -/
theorem Complete.follow_next (hD : D.Complete)
    (hc : D.part (r.next now a).group c = some (.follow k f)) :
    D.part r.group c = some (.follow k f) ∨
      (D.table (r.next now a).group.cache).flight f = .pending := by
  rw [r.group_next] at hc ⊢
  obtain hm | hm := hD now r.group a
  · generalize r.group.step now a = x at hm hc ⊢
    cases hm with
    | own | learn => exact Or.inl (part_of_part_put (Nat.le_refl _) (by simp [D.part?_answered]) hc)
    | lead => exact Or.inl (part_of_part_put (Nat.le_refl _) (by simp [D.part?_lead]) hc)
    | hear hc' | finish _ hc' =>
      exact Or.inl (part_of_part_put (Group.le_length_of_call hc') (by simp [D.part?_answered]) hc)
    | cancel hc' | leave hc' =>
      exact Or.inl (part_of_part_put (Group.le_length_of_call hc') (by simp [D.part?_cancelled]) hc)
    | join hi missed current pending =>
      rw [part_put (Nat.le_refl _), D.part?_follow] at hc
      obtain ⟨-, he⟩ | ⟨-, hc'⟩ := Traffic.eq_or_of_update_some hc
      · obtain ⟨rfl, rfl⟩ := Part.follow.inj he
        exact Or.inr pending
      · exact Or.inl hc'
  · left
    rw [part, ← hm.part c]
    exact hc

theorem Complete.awaited_next (hD : D.Complete) (ordered : (r.next now a).Ordered)
    (hc : D.part r.group c = some (.follow k f)) (ht : r.startedAt[c]? = some t₀)
    (h : D.Awaited r k f t₀) : D.Awaited (r.next now a) k f t₀ := by
  have hr := (hD.sound r).traffic
  obtain hsame | ⟨c', k', prev, hlead, hend⟩ := hD.flight_next (a := a) (hr.follow_lt c k f hc)
  · cases h with
    | pending h => exact .pending (hsame.trans h)
    | ended before t rest v attempts since value h =>
      refine .ended before t (rest ++ ((r.moment now a).endsOn? (D.ask k)).toList) v ?_ since value
        (hsame.trans h)
      rw [r.attempts_next, attempts, List.append_assoc, List.cons_append]
    | restored prev gone h => exact .restored prev gone.next (hsame.trans h)
  · -- the flight was pending, so its leader works on the key of the follower
    have hpending := hr.lead_pending c' k' f prev hlead
    obtain rfl : k' = k := hr.lawful.current_inj _ _ f (hr.lead_current c' k' f prev hlead)
      (hr.follow_current c k f hc hpending)
    obtain ⟨t, hon, hended, hvalue⟩ | ⟨gone, hvalue⟩ := hend
    · refine .ended (r.attempts (D.ask k')) t [] _ ?_ ?_ ?_ hvalue
      · rw [r.attempts_next, hon, Option.toList_some]
      · rw [hended]
        have hlt : c < r.group.calls.length := by
          rw [← r.length_startedAt]
          exact (List.getElem?_eq_some_iff.1 ht).1
        exact Run.startedAt_le ordered ((Run.startedAt_of_lt hlt).trans ht)
      · rw [trail_concat, List.getLast?_concat, hr.lead_previous c' k' f prev hlead]
        rfl
    · exact .restored prev gone hvalue

/-- **What a follower waits for** is pending, or was settled by an attempt that has ended since the
follower came, or its leader was given up. -/
theorem Complete.awaited (hD : D.Complete) (r : Run) (ordered : r.Ordered)
    (hc : D.part r.group c = some (.follow k f)) (ht : r.startedAt[c]? = some t₀) :
    D.Awaited r k f t₀ := by
  induction r using Run.induction with
  | start us => cases hc
  | next r now a ih =>
    obtain hold | hpending := hD.follow_next hc
    · have hlt : c < r.group.calls.length := by
        by_contra hge
        have hnone : D.part r.group c = none := by
          rw [part, Group.progress?_eq_none (Nat.le_of_not_lt hge), Option.bind_none]
        rw [hnone] at hold
        cases hold
      rw [Run.startedAt_of_lt hlt] at ht
      exact hD.awaited_next ordered hold ht (ih ((r.ordered_next now a).1 ordered).1 hold ht)
    · exact .pending hpending

end

end Direction

end SchemaCatalog
