import SchemaCatalog.Proofs.Run.Attempts

/-!
# Lookups and attempts in time

* `Run.Ages`: all handlers keep ids fresh equally long.
* `Run.startedAt`: when each lookup has started.
* `Run.startedAt_le`: lookups start no later than now.
* `Direction.Complete.attempts_sorted`: attempts come to their end one after the other.
-/

namespace SchemaCatalog

namespace Run

variable (r : Run) (now : Instant) (a : Group.Action)

/-- All handlers keep ids fresh for `maxAge`. -/
def Ages (r : Run) (maxAge : Duration) : Prop := ∀ u ∈ r.setups, u.config.maxAge = maxAge

/-- When each lookup has started, in the order of start. -/
def startedAt : List Instant := r.past.filterMap fun m => m.opens?.map fun _ => m.now

theorem startedAt_next :
    (r.next now a).startedAt =
      r.startedAt ++ ((r.moment now a).opens?.map fun _ => now).toList := by
  rw [startedAt, past_next, List.filterMap_append, List.filterMap_eq_flatMap_toList _ [_],
    List.flatMap_singleton, startedAt]
  rfl

theorem length_startedAt : r.startedAt.length = r.group.calls.length := by
  rw [← r.length_started]
  induction r using Run.induction with
  | start us => rfl
  | next r now a ih =>
    rw [startedAt_next, started_next, List.length_append, List.length_append, ih]
    cases (r.moment now a).opens? <;> rfl

variable {r now a} {c i : Nat} {t₀ : Instant} {maxAge : Duration} {key : Key} {h : Handler}
  {t : Attempt}

theorem Ages.of_handler (hages : r.Ages maxAge) (hi : r.group.handlers[i]? = some h) :
    h.config.maxAge = maxAge := by
  have hage : h.setup.config.maxAge = maxAge := hages h.setup (setup_mem hi)
  exact hage

theorem Ages.of_attempt (hages : r.Ages maxAge) (ht : t ∈ r.attempts (.id key)) :
    t.handler.config.maxAge = maxAge := by
  have hage : t.handler.setup.config.maxAge = maxAge :=
    hages t.handler.setup (ids_complete.origin_of_attempt r ht).1
  exact hage

theorem startedAt_of_lt (hc : c < r.group.calls.length) :
    (r.next now a).startedAt[c]? = r.startedAt[c]? := by
  rw [startedAt_next, List.getElem?_append_left (by rwa [length_startedAt])]

theorem startedAt_new (ht : (r.next now a).startedAt[r.group.calls.length]? = some t₀) :
    t₀ = now := by
  rw [startedAt_next, List.getElem?_append_right (Nat.le_of_eq r.length_startedAt)] at ht
  obtain ⟨_, -, rfl⟩ := Option.map_eq_some_iff.1 (Option.mem_toList.1 (List.mem_of_getElem? ht))
  rfl

theorem exists_schedule_of_startedAt (ht : t₀ ∈ r.startedAt) : ∃ x ∈ r.schedule, x.1 = t₀ := by
  induction r using Run.induction with
  | start us => cases ht
  | next r now a ih =>
    rw [startedAt_next] at ht
    obtain hold | hnew := List.mem_append.1 ht
    · obtain ⟨x, hx, rfl⟩ := ih hold
      exact ⟨x, List.mem_append_left _ hx, rfl⟩
    · obtain ⟨_, -, rfl⟩ := Option.map_eq_some_iff.1 (Option.mem_toList.1 hnew)
      exact ⟨(now, a), List.mem_append_right _ (List.mem_singleton_self _), rfl⟩

theorem le_of_mem_schedule (ordered : (r.next now a).Ordered) {x : Instant × Group.Action}
    (hx : x ∈ (r.next now a).schedule) : x.1.nanos ≤ now.nanos := by
  obtain hold | hnew := List.mem_append.1 hx
  · exact ((r.ordered_next now a).1 ordered).2 x hold
  · obtain rfl := List.mem_singleton.1 hnew
    exact Nat.le_refl _

theorem startedAt_le (ordered : (r.next now a).Ordered)
    (ht : (r.next now a).startedAt[c]? = some t₀) : t₀.nanos ≤ now.nanos := by
  obtain ⟨x, hx, rfl⟩ := exists_schedule_of_startedAt (List.mem_of_getElem? ht)
  exact le_of_mem_schedule ordered hx

end Run

namespace Direction

variable {κ α : Type} [DecidableEq κ] {D : Direction κ α}

theorem Complete.attempts_le (hD : D.Complete) {r : Run} {now : Instant} {a : Group.Action}
    (ordered : (r.next now a).Ordered) {k : κ} {t : Attempt}
    (ht : t ∈ (r.next now a).attempts (D.ask k)) : t.ended.nanos ≤ now.nanos := by
  obtain ⟨-, x, hx, hended⟩ := hD.origin_of_attempt _ ht
  rw [← hended]
  exact Run.le_of_mem_schedule ordered hx

/-- Attempts come to their end one after the other. -/
theorem Complete.attempts_sorted (hD : D.Complete) (r : Run) (ordered : r.Ordered) (k : κ) :
    (r.attempts (D.ask k)).Pairwise fun t t' => t.ended.nanos ≤ t'.ended.nanos := by
  induction r using Run.induction with
  | start us => exact List.Pairwise.nil
  | next r now a ih =>
    have hle := fun t => hD.attempts_le ordered (k := k) (t := t)
    rw [r.attempts_next] at hle ⊢
    cases ht : (r.moment now a).endsOn? (D.ask k) with
    | none =>
      rw [Option.toList_none, List.append_nil]
      exact ih ((r.ordered_next now a).1 ordered).1
    | some t =>
      obtain ⟨-, -, -, -, -, -, hended, -⟩ := hD.lead_of_endsOn? ht
      rw [Option.toList_some, List.pairwise_append]
      refine ⟨ih ((r.ordered_next now a).1 ordered).1, List.pairwise_singleton _ _, ?_⟩
      intro t₁ h₁ t₂ h₂
      rw [List.mem_singleton.1 h₂, hended]
      exact hle t₁ (List.mem_append_left _ h₁)

end Direction

end SchemaCatalog
