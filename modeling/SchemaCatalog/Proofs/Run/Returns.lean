import SchemaCatalog.Proofs.Run.Waiting

/-!
# How a lookup comes to its answer

* `Direction.Returns`: the four ways in which a step answers a lookup.
* **`Direction.Complete.returns`**: there are no others.
-/

namespace SchemaCatalog

open Function (update_apply)

namespace Direction

variable {κ α : Type} (D : Direction κ α)

/-- How a step answers lookup `c` about `k`: it starts, and is answered by its handler or learns a
value that is still good; it hears what the flight came to for which it waits; or the attempt that
it leads comes to its end. -/
inductive Returns [DecidableEq κ] (r : Run) (now : Instant) (a : Group.Action) (c : Nat) (k : κ) :
    Answer → Prop
  | own {i : Nat} {h : Handler} {b : Answer} (new : c = r.group.calls.length)
      (hi : r.group.handlers[i]? = some h) (owned : (D.own now h k).1 = some b) :
      Returns r now a c k b
  | learn {i : Nat} {h : Handler} {v : α} (new : c = r.group.calls.length)
      (hi : r.group.handlers[i]? = some h)
      (ready : (D.table r.group.cache).standing k = .ready v)
      (good : D.replaceable now h v = false) : Returns r now a c k (D.answer (some v))
  | hear {f : Nat} {known : Option α} (follows : r.group.progress? c = some (D.follow k f))
      (told : (D.table r.group.cache).poll f = some known) : Returns r now a c k (D.answer known)
  | finish {f : Nat} {prev : Option α} {d : Instant} {t : Attempt}
      (leads : r.group.progress? c = some (D.lead k f prev d))
      (ends : (r.moment now a).endsOn? (D.ask k) = some t) (ended : t.ended = now) :
      Returns r now a c k (D.answer (some (D.attempt t.ended t.handler k prev t.body).1))

section

variable [DecidableEq κ] {D} {r : Run} {now : Instant} {a : Group.Action} {c i j : Nat} {k k' : κ}
  {b : Answer}

omit [DecidableEq κ] in
theorem ne_answered {p : Progress} {q : Question} (hp : p.about? = some q) : p ≠ .answered b := by
  rintro rfl
  cases hp

omit [DecidableEq κ] in
theorem eq_of_opens (hc : (r.next now a).started[r.group.calls.length]? = some (i, D.ask k))
    (ho : (r.moment now a).opens? = some (j, D.ask k')) : k' = k := by
  rw [r.started_next, ho, ← r.length_started, Option.toList_some, List.getElem?_concat_length,
    Option.some.injEq, Prod.mk.injEq] at hc
  exact D.ask_inj k' k hc.2

/-- A lookup that was started before is about what it is at. -/
theorem Complete.eq_of_about (hD : D.Complete) {p : Progress}
    (hc : (r.next now a).started[c]? = some (i, D.ask k)) (hcall : r.group.calls[c]? = some ⟨j, p⟩)
    (hp : p.about? = some (D.ask k')) : k' = k := by
  have hlt : c < r.started.length := by
    rw [r.length_started]
    exact (List.getElem?_eq_some_iff.1 hcall).1
  rw [r.started_next, List.getElem?_append_left hlt] at hc
  obtain ⟨p', hcall', hfits⟩ := (hD.sound r).fits c i k hc
  rw [hcall, Option.some.injEq, Call.mk.injEq] at hcall'
  obtain ⟨-, rfl⟩ := hcall'
  exact D.ask_inj k' k (hfits.about? hp)

/-- **Each answer comes from an own entry, from a value that is still good, from the flight that the
lookup waits for, or from the attempt that it leads.** -/
theorem Complete.returns (hD : D.Complete) (hc : (r.next now a).started[c]? = some (i, D.ask k))
    (running : r.group.progress? c ≠ some (.answered b))
    (answered : (r.next now a).group.progress? c = some (.answered b)) :
    D.Returns r now a c k b := by
  have hput : ∀ {c' i : Nat} {cache : SharedCache} {h : Handler} {p : Progress},
      c' ≤ r.group.calls.length →
      (r.group.put c' i cache h p).progress? c = some (.answered b) → c = c' ∧ p = .answered b := by
    intro c' i cache h p hle hp
    rw [Group.progress?_put hle, update_apply] at hp
    split at hp
    · next hcc => exact ⟨hcc, Option.some.inj hp⟩
    · exact absurd hp running
  obtain hm | hm := hD now r.group a
  · rw [r.group_next] at answered
    generalize r.group.step now a = x at hm answered
    cases hm with
    | @own i' h k' b' hi owned =>
      obtain ⟨rfl, hp⟩ := hput (Nat.le_refl _) answered
      cases hp
      obtain rfl := eq_of_opens hc (Moment.opens?_eq_some.2 ⟨rfl, h, hi⟩)
      exact .own rfl hi owned
    | @learn i' h k' v hi missed ready good =>
      obtain ⟨rfl, hp⟩ := hput (Nat.le_refl _) answered
      cases hp
      obtain rfl := eq_of_opens hc (Moment.opens?_eq_some.2 ⟨rfl, h, hi⟩)
      exact .learn rfl hi ready good
    | lead hi =>
      obtain ⟨-, hp⟩ := hput (Nat.le_refl _) answered
      exact absurd hp (ne_answered (D.about?_lead _ _ _ _))
    | join hi =>
      obtain ⟨-, hp⟩ := hput (Nat.le_refl _) answered
      exact absurd hp (ne_answered (D.about?_follow _ _))
    | @hear c' i' h k' f known hcall hi told =>
      obtain ⟨rfl, hp⟩ := hput (Group.le_length_of_call hcall) answered
      cases hp
      obtain rfl := hD.eq_of_about hc hcall (D.about?_follow k' f)
      exact .hear (Group.progress?_of_call hcall) told
    | @finish a c' i' h k' f prev d body heard hcall hi =>
      obtain ⟨rfl, hp⟩ := hput (Group.le_length_of_call hcall) answered
      cases hp
      obtain rfl := hD.eq_of_about hc hcall (D.about?_lead k' f prev d)
      exact .finish (Group.progress?_of_call hcall)
        ((D.endsOn?_finish heard hcall hi k').trans (if_pos rfl)) rfl
    | cancel hcall =>
      obtain ⟨-, hp⟩ := hput (Group.le_length_of_call hcall) answered
      cases hp
    | leave hcall =>
      obtain ⟨-, hp⟩ := hput (Group.le_length_of_call hcall) answered
      cases hp
  · -- a step elsewhere neither starts the lookup nor touches it
    exfalso
    by_cases hlt : c < r.started.length
    · rw [r.started_next, List.getElem?_append_left hlt] at hc
      obtain ⟨p, hcall, hfits⟩ := (hD.sound r).fits c i k hc
      have hstays := hm.calls c _ hcall fun q hq => ⟨k, hfits.about? hq⟩
      rw [r.group_next, Group.progress?_of_call hstays] at answered
      exact running ((Group.progress?_of_call hcall).trans answered)
    · rw [r.started_next, List.getElem?_append_right (Nat.le_of_not_lt hlt)] at hc
      have ho := Option.mem_toList.1 (List.mem_of_getElem? hc)
      exact hm.opens i k ho

end

end Direction

end SchemaCatalog
