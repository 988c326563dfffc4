import SchemaCatalog.Proofs.Run.Requests
import SchemaCatalog.Proofs.Run.Sound

/-!
# Requests, attempts and events of a run

* `Direction.isSome_request_start`: when a lookup that starts asks the registry.
* `Direction.Complete.standing_eq_pending_iff`: a key is pending while a lookup waits for the
  registry.
* `Direction.Complete.endsOn?_eq_none`: attempts end only while their key is pending.
* `Direction.Complete.events_moment`: a step reports what the attempt that it ends makes of the last
  value, and nothing else.
-/

namespace SchemaCatalog

namespace Direction

variable {κ α : Type} {D : Direction κ α}

/-! ## Values and attempts -/

theorem length_trail (k : κ) (l : List Attempt) : (D.trail k l).length = l.length := by
  induction l using List.reverseRecOn with
  | nil => rfl
  | append_singleton l t ih => rw [trail_concat, List.length_append, List.length_append, ih]; rfl

theorem exists_prefix_of_mem_trail {k : κ} {l : List Attempt} {v : α} (hv : v ∈ D.trail k l) :
    ∃ l', l' <+: l ∧ (D.trail k l').getLast? = some v := by
  induction l using List.reverseRecOn with
  | nil => cases hv
  | append_singleton l t ih =>
    rw [trail_concat, List.mem_append, List.mem_singleton] at hv
    obtain hold | rfl := hv
    · obtain ⟨l', hl', hlast⟩ := ih hold
      exact ⟨l', hl'.trans (List.prefix_append l [t]), hlast⟩
    · exact ⟨l ++ [t], List.prefix_refl _, by rw [trail_concat, List.getLast?_concat]⟩

theorem values_subset_extend (r : Run) (k : κ) (s : List (Instant × Group.Action)) :
    D.values r k ⊆ D.values (r.extend s) k := by
  refine Run.extend_induction (P := fun r' => D.values r k ⊆ D.values r' k)
    (List.Subset.refl _) ?_ s
  intro s now a ih
  exact List.Subset.trans ih (values_subset_next k)

section

variable [DecidableEq κ] {r : Run} {now : Instant} {a : Group.Action}

/-! ## Requests -/

theorem isSome_request_start (D : Direction κ α) {cache : SharedCache} {h : Handler} {k : κ} :
    (D.start now cache h k).request.isSome ↔
      (D.own now h k).1 = none ∧ (D.table cache).standing k ≠ .pending ∧
        ∀ v, (D.table cache).standing k = .ready v → D.replaceable now h v = true := by
  cases hown : (D.own now h k).1 with
  | some b => simp [D.start_of_own hown]
  | none =>
    cases hs : (D.table cache).standing k with
    | pending =>
      obtain ⟨f, hc, hf⟩ :=
        FlightTable.exists_current_of_standing (t := D.table cache) (k := k) (by simp [hs])
      simp [D.start_of_pending hown hc (hf.trans hs)]
    | ready v =>
      cases hv : D.replaceable now h v with
      | false => simp [D.start_of_kept hown hs hv, tell, hv]
      | true =>
        rw [D.start_of_free hown (by simp [hs]) (by simp [hs, hv])]
        simp [hv]
    | abandoned =>
      rw [D.start_of_free hown (by simp [hs]) (by simp [hs])]
      simp

/-! ## Ends of attempts -/

theorem Complete.lead_of_endsOn? (hD : D.Complete) {k : κ} {t : Attempt}
    (ht : (r.moment now a).endsOn? (D.ask k) = some t) :
    ∃ i f prev d, r.group.calls[t.call]? = some ⟨i, D.lead k f prev d⟩ ∧
      r.group.handlers[i]? = some t.handler ∧ t.ended = now ∧
        r.group.heard? now a = some (t.call, t.body) := by
  obtain hm | hm := hD now r.group a
  · generalize r.group.step now a = x at hm
    cases hm with
    | @finish a c i h k' f prev d body heard hc hi =>
      rw [Run.moment, D.endsOn?_finish heard hc hi] at ht
      split at ht
      · next hk =>
        cases ht
        subst hk
        exact ⟨i, f, prev, d, hc, hi, rfl, heard⟩
      · cases ht
    | _ => cases ht
  · have hends : (r.moment now a).endsOn? (D.ask k) = none := hm.ends k
    rw [hends] at ht
    cases ht

theorem Complete.endsOn?_eq_none (hD : D.Complete) {k : κ}
    (hk : (D.table r.group.cache).standing k ≠ .pending) :
    (r.moment now a).endsOn? (D.ask k) = none := by
  cases ht : (r.moment now a).endsOn? (D.ask k) with
  | none => rfl
  | some t =>
    obtain ⟨i, f, prev, d, hc, -⟩ := hD.lead_of_endsOn? ht
    exact absurd ((hD.sound r).traffic.standing_of_lead
      ((traffic_part_of_call hc).trans (D.part?_lead k f prev d))) hk

/-- A key is pending exactly as long as some lookup has asked for it and waits. -/
theorem Complete.standing_eq_pending_iff (hD : D.Complete) (r : Run) (k : κ) :
    (D.table r.group.cache).standing k = .pending ↔
      ∃ n p, r.group.progress? n = some p ∧ p.asks? = some (D.ask k) := by
  have hr := (hD.sound r).traffic
  constructor
  · intro hk
    obtain ⟨n, f, prev, hn⟩ := hr.exists_lead hk
    obtain ⟨p, hp, hpart⟩ := Option.bind_eq_some_iff.1 hn
    obtain ⟨d, rfl⟩ := D.lead_of_part? p k f prev hpart
    exact ⟨n, _, hp, D.asks?_lead k f prev d⟩
  · rintro ⟨n, p, hp, hasks⟩
    obtain ⟨f, prev, d, rfl⟩ := D.lead_of_asks? p k hasks
    have hn : (D.traffic r).part n = some (.lead k f prev) := by
      show (r.group.progress? n).bind D.part? = _
      rw [hp, Option.bind_some, D.part?_lead]
    exact hr.standing_of_lead hn

/-- Attempts are made by handlers of the run, and end at one of its instants. -/
theorem Complete.origin_of_attempt (hD : D.Complete) (r : Run) {k : κ} {t : Attempt}
    (ht : t ∈ r.attempts (D.ask k)) :
    t.handler.setup ∈ r.setups ∧ ∃ x ∈ r.schedule, x.1 = t.ended := by
  induction r using Run.induction with
  | start us => cases ht
  | next r now a ih =>
    rw [r.attempts_next] at ht
    obtain hold | hnew := List.mem_append.1 ht
    · obtain ⟨hu, x, hx, he⟩ := ih hold
      exact ⟨hu, x, List.mem_append_left _ hx, he⟩
    · obtain ⟨i, f, prev, d, -, hi, he, -⟩ := hD.lead_of_endsOn? (Option.mem_toList.1 hnew)
      exact ⟨Run.setup_mem (r := r) hi, (now, a),
        List.mem_append_right _ (List.mem_singleton_self _), he.symm⟩

/-- **A step reports what the attempt that it ends makes of the last value, and nothing else.** -/
theorem Complete.events_moment (hD : D.Complete) (r : Run) (now : Instant) (a : Group.Action)
    (k : κ) :
    (r.moment now a).events (D.ask k) =
      match (r.moment now a).endsOn? (D.ask k) with
      | some t => (D.attempt t.ended t.handler k (D.values r k).getLast? t.body).2
      | none => [] := by
  obtain hm | hm := hD now r.group a
  · unfold Moment.events Moment.effect
    simp only [Run.moment]
    generalize r.group.step now a = x at hm
    cases hm with
    | @finish a c i h k' f prev d body heard hc hi =>
      have habout := D.event_about now h k' prev body
      rw [D.endsOn?_finish heard hc hi]
      by_cases hk : k = k'
      · subst hk
        have hprev : prev = (D.values r k).getLast? := (hD.sound r).traffic.lead_previous c k f prev
          ((traffic_part_of_call hc).trans (D.part?_lead k f prev d))
        subst hprev
        rw [if_pos rfl]
        exact List.filter_eq_self.2 fun e he => decide_eq_true (habout e he).1
      · rw [if_neg hk]
        refine List.filter_eq_nil_iff.2 fun e he h' => hk ?_
        exact D.ask_inj k k' ((of_decide_eq_true h').symm.trans (habout e he).1)
    | _ => rfl
  · have hends : (r.moment now a).endsOn? (D.ask k) = none := hm.ends k
    rw [hends]
    exact List.filter_eq_nil_iff.2 fun e he h' => hm.events k e he (of_decide_eq_true h')

theorem Complete.attempt_of_event (hD : D.Complete) {k : κ} {e : Event}
    (he : e ∈ (r.moment now a).events (D.ask k)) :
    ∃ t, (r.moment now a).ends? = some (D.ask k, t) ∧ e.catalogId = t.handler.catalogId := by
  rw [hD.events_moment] at he
  cases ht : (r.moment now a).endsOn? (D.ask k) with
  | none => rw [ht] at he; cases he
  | some t =>
    rw [ht] at he
    exact ⟨t, Moment.endsOn?_eq_some.1 ht, (D.event_about _ _ _ _ _ e he).2⟩

end

end Direction

end SchemaCatalog
