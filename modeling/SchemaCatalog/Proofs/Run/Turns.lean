import SchemaCatalog.Proofs.Run.Waiting

/-!
# Turns of a lookup

A lookup changes in its own turns only. So a leader leads until it hears from the registry or is
given up, and a follower follows until it hears what its flight came to or is given up.

* `Group.getElem?_calls_step`: a step leaves the lookups alone whose turn it is not.
* `Run.exists_handler`: every lookup has its handler.
* `Direction.Guided`: lookups take their turns in the way of their direction.
* `Direction.Led`, `Direction.Followed`: how a leader and a follower go on.
* `Direction.Begun`: how a lookup begins.
* **`Direction.Guided.led`**, **`Direction.Guided.followed`**, **`Direction.Guided.begun`**: there are
  no other ways.
-/

namespace SchemaCatalog

/-! ## Whose turn it is -/

namespace Group

variable {g : Group} {now : Instant} {a : Action} {c c' i : Nat} {p : Progress} {h : Handler}

theorem getElem?_calls_takeTurn (hne : c' ≠ c) (turn : Handler → Progress → Turn) :
    (g.takeTurn c' turn).1.calls[c]? = g.calls[c]? := by
  unfold takeTurn
  split
  · split
    · simp [after, List.getElem?_set_ne hne]
    · rfl
  · rfl

theorem getElem?_calls_step (hc : c < g.calls.length) (ha : a.call? ≠ some c) :
    (g.step now a).1.calls[c]? = g.calls[c]? := by
  cases a with
  | start i q =>
    cases hi : g.handlers[i]? <;> simp [step, hi, after, List.getElem?_append_left hc]
  | _ => exact getElem?_calls_takeTurn (fun he => ha (congrArg some he)) _

theorem lt_of_progress? (hp : g.progress? c = some p) : c < g.calls.length := by
  by_contra hge
  rw [progress?_eq_none (Nat.le_of_not_lt hge)] at hp
  cases hp

theorem progress?_step (hc : c < g.calls.length) (ha : a.call? ≠ some c) :
    (g.step now a).1.progress? c = g.progress? c := by
  rw [progress?, getElem?_calls_step hc ha, progress?]

theorem progress?_turned (hc : c ≤ g.calls.length) (t : Turn) :
    (g.turned c i t).1.progress? c = some t.progress := by
  rw [turned, progress?_put hc, Function.update_self]

end Group

/-! ## Handlers of lookups -/

namespace Run

variable {r : Run} {now : Instant} {a : Group.Action} {c : Nat} {p : Progress}

theorem length_handlers (r : Run) : r.group.handlers.length = r.setups.length := by
  rw [← r.setups_group, List.length_map]

theorem lt_of_mem_started {x : Nat × Question} (hx : x ∈ r.started) : x.1 < r.setups.length := by
  induction r using Run.induction with
  | start us => cases hx
  | next r now a ih =>
    rw [r.started_next, List.mem_append, Option.mem_toList] at hx
    obtain hold | hnew := hx
    · exact ih hold
    · obtain ⟨-, h, hi⟩ := Moment.opens?_eq_some.1 hnew
      rw [setups_next, ← r.length_handlers]
      exact (List.getElem?_eq_some_iff.1 hi).1

theorem handler_of_lt {i : Nat} (hi : i < r.setups.length) : ∃ h, r.group.handlers[i]? = some h := by
  rw [← r.length_handlers] at hi
  exact ⟨_, List.getElem?_eq_getElem hi⟩

theorem exists_handler {call : Call} (hc : r.group.calls[c]? = some call) :
    ∃ h, r.group.handlers[call.handler]? = some h := by
  have hmem : call.handler ∈ r.started.map Prod.fst := by
    rw [r.handlers_started]
    exact List.mem_map_of_mem (List.mem_of_getElem? hc)
  obtain ⟨x, hx, hxi⟩ := List.mem_map.1 hmem
  rw [← hxi]
  exact handler_of_lt (lt_of_mem_started hx)

theorem exists_call (hp : r.group.progress? c = some p) :
    ∃ i h, r.group.calls[c]? = some ⟨i, p⟩ ∧ r.group.handlers[i]? = some h := by
  obtain ⟨⟨i, p'⟩, hc, rfl⟩ := Option.map_eq_some_iff.1 hp
  obtain ⟨h, hi⟩ := exists_handler hc
  exact ⟨i, h, hc, hi⟩

theorem progress?_stays (hp : r.group.progress? c = some p) (hover : p.about? = none) :
    (r.next now a).group.progress? c = some p := by
  obtain ⟨i, h, hc, -⟩ := exists_call hp
  rw [r.group_next]
  exact Group.progress?_of_call (Group.call_stays hc hover)

end Run

/-! ## Turns in a direction -/

section

variable {κ α : Type} [DecidableEq κ]

/-- Lookups take their turns in the way of their direction. -/
structure Direction.Guided (D : Direction κ α) : Prop where
  complete : D.Complete
  start : ∀ now cache h k, Lookup.start now cache h (D.ask k) = D.start now cache h k
  receive_lead : ∀ now cache h k f prev d body,
    Lookup.receive now cache h (D.lead k f prev d) body = D.finish now cache h k f prev body
  receive_follow : ∀ now cache h k f body,
    Lookup.receive now cache h (D.follow k f) body = ⟨cache, h, D.follow k f, none, []⟩
  resume_lead : ∀ cache h k f prev d,
    Lookup.resume cache h (D.lead k f prev d) = ⟨cache, h, D.lead k f prev d, none, []⟩
  resume_follow : ∀ cache h k f, Lookup.resume cache h (D.follow k f) = D.await cache h k f
  abandon_lead : ∀ cache h k f prev d, Lookup.abandon cache h (D.lead k f prev d) =
    ⟨D.withTable cache ((D.table cache).cancel f prev), h, .cancelled, none, []⟩
  abandon_follow : ∀ cache h k f,
    Lookup.abandon cache h (D.follow k f) = ⟨cache, h, .cancelled, none, []⟩

theorem contents_guided : contents.Guided where
  complete := contents_complete
  start now cache h id := Lookup.startContent_eq now cache h id
  receive_lead := Lookup.receive_leadContent
  receive_follow _ _ _ _ _ _ := rfl
  resume_lead _ _ _ _ _ _ := rfl
  resume_follow := Lookup.followContent_eq
  abandon_lead _ _ _ _ _ _ := rfl
  abandon_follow _ _ _ _ := rfl

theorem ids_guided : ids.Guided where
  complete := ids_complete
  start now cache h key := Lookup.startId_eq now cache h key
  receive_lead := Lookup.receive_leadId
  receive_follow _ _ _ _ _ _ := rfl
  resume_lead _ _ _ _ _ _ := rfl
  resume_follow := Lookup.followId_eq
  abandon_lead _ _ _ _ _ _ := rfl
  abandon_follow _ _ _ _ := rfl

namespace Direction

section

variable (D : Direction κ α) (r : Run) (now : Instant) (a : Group.Action) (c : Nat) (k : κ) (f : Nat)
  (prev : Option α) (d : Instant)

/-- How a leader of flight `f` of `k` goes on. -/
inductive Led : Prop
  | stays (h : (r.next now a).group.progress? c = some (D.lead k f prev d))
  | finishes (t : Attempt) (ends : (r.moment now a).endsOn? (D.ask k) = some t)
      (flight : (D.table (r.next now a).group.cache).flight f =
        .ready (D.attempt t.ended t.handler k prev t.body).1)
      (h : (r.next now a).group.progress? c =
        some (.answered (D.answer (some (D.attempt t.ended t.handler k prev t.body).1))))
  | cancels (gone : a = .cancel c)
      (flight : (D.table (r.next now a).group.cache).flight f = .restored prev)
      (h : (r.next now a).group.progress? c = some .cancelled)

/-- How a follower of flight `f` of `k` goes on. -/
inductive Followed : Prop
  | stays (h : (r.next now a).group.progress? c = some (D.follow k f))
  | hears (known : Option α) (told : (D.table r.group.cache).poll f = some known)
      (h : (r.next now a).group.progress? c = some (.answered (D.answer known)))
  | cancels (h : (r.next now a).group.progress? c = some .cancelled)

/-- Lookup `c` leads an attempt about `k`, or waits for one that is under way. -/
inductive Waits : Prop
  | leads (f : Nat) (prev : Option α) (d : Instant)
      (h : r.group.progress? c = some (D.lead k f prev d))
  | follows (f : Nat) (h : r.group.progress? c = some (D.follow k f))
      (pending : (D.table r.group.cache).flight f = .pending)

/-- How a lookup about `k` on handler `i` begins. -/
inductive Begun (i : Nat) : Prop
  | own (h : Handler) (b : Answer) (hi : r.group.handlers[i]? = some h)
      (owned : (D.own now h k).1 = some b)
      (answered : (r.next now (.start i (D.ask k))).group.progress? r.group.calls.length =
        some (.answered b))
  | learn (v : α) (ready : (D.table r.group.cache).standing k = .ready v)
      (answered : (r.next now (.start i (D.ask k))).group.progress? r.group.calls.length =
        some (.answered (D.answer (some v))))
  | waits (h : D.Waits (r.next now (.start i (D.ask k))) r.group.calls.length k)

end

variable {D : Direction κ α} {r : Run} {now : Instant} {a : Group.Action} {c i : Nat} {k : κ} {f : Nat}
  {prev known : Option α} {d : Instant} {h : Handler}

/-! ## Leaders -/

omit [DecidableEq κ] in
theorem part_of_lead (hp : r.group.progress? c = some (D.lead k f prev d)) :
    D.part r.group c = some (.lead k f prev) := by
  rw [part, hp, Option.bind_some, D.part?_lead]

omit [DecidableEq κ] in
theorem part_of_follow (hp : r.group.progress? c = some (D.follow k f)) :
    D.part r.group c = some (.follow k f) := by
  rw [part, hp, Option.bind_some, D.part?_follow]

omit [DecidableEq κ] in
theorem progress?_of_part_lead (hc : D.part r.group c = some (.lead k f prev)) :
    ∃ d, r.group.progress? c = some (D.lead k f prev d) := by
  obtain ⟨p, hp, hpart⟩ := Option.bind_eq_some_iff.1 hc
  obtain ⟨d, rfl⟩ := D.lead_of_part? p k f prev hpart
  exact ⟨d, hp⟩

theorem Guided.lt_of_lead (hD : D.Guided) (hp : r.group.progress? c = some (D.lead k f prev d)) :
    f < (D.table r.group.cache).flights.length := by
  have hr := (hD.complete.sound r).traffic
  exact hr.lawful.current_lt k f (hr.lead_current c k f prev (part_of_lead hp))

/-- A leader that hears from the registry, or that its time is over, comes to the end of its
attempt. -/
theorem Guided.finishes_of_heard (hD : D.Guided)
    (hp : r.group.progress? c = some (D.lead k f prev d)) {body : Option String}
    (heard : r.group.heard? now a = some (c, body)) :
    ∃ t, (r.moment now a).endsOn? (D.ask k) = some t ∧
      (D.table (r.next now a).group.cache).flight f =
        .ready (D.attempt t.ended t.handler k prev t.body).1 ∧
      (r.next now a).group.progress? c =
        some (.answered (D.answer (some (D.attempt t.ended t.handler k prev t.body).1))) := by
  obtain ⟨i, h, hc, hi⟩ := Run.exists_call hp
  have hstep : r.group.step now a =
      r.group.turned c i (D.finish now r.group.cache h k f prev body) := by
    rw [Group.step_of_heard heard, Group.step, Group.takeTurn_eq hc hi, hD.receive_lead]
  refine ⟨⟨c, h, now, body⟩, (D.endsOn?_finish heard hc hi k).trans (if_pos rfl), ?_, ?_⟩
  · rw [r.group_next, hstep, Group.turned, Group.cache_put, finish, tell, D.table_withTable]
    exact FlightTable.flight_settle_self (hD.lt_of_lead hp)
  · rw [r.group_next, hstep, Group.progress?_turned (Group.le_length_of_call hc)]
    rfl

/-- A leader that is given up lets its flight fall back to what it had replaced. -/
theorem Guided.restored_of_cancel (hD : D.Guided)
    (hp : r.group.progress? c = some (D.lead k f prev d)) (now : Instant) :
    (D.table (r.next now (.cancel c)).group.cache).flight f = .restored prev ∧
      (r.next now (.cancel c)).group.progress? c = some .cancelled := by
  obtain ⟨i, h, hc, hi⟩ := Run.exists_call hp
  have hstep : r.group.step now (.cancel c) = r.group.turned c i
      ⟨D.withTable r.group.cache ((D.table r.group.cache).cancel f prev), h, .cancelled, none, []⟩ := by
    rw [Group.step, Group.takeTurn_eq hc hi, hD.abandon_lead]
  rw [r.group_next, hstep]
  constructor
  · rw [Group.turned, Group.cache_put, D.table_withTable]
    exact FlightTable.flight_settle_self (hD.lt_of_lead hp)
  · rw [Group.progress?_turned (Group.le_length_of_call hc)]

/-- **A leader leads until it hears from the registry or its timer, or is given up.** -/
theorem Guided.led (hD : D.Guided) (hp : r.group.progress? c = some (D.lead k f prev d))
    (now : Instant) (a : Group.Action) : D.Led r now a c k f prev d := by
  have finishes : ∀ {body : Option String}, r.group.heard? now a = some (c, body) →
      D.Led r now a c k f prev d := by
    intro body heard
    obtain ⟨t, ends, flight, h⟩ := hD.finishes_of_heard hp heard
    exact .finishes t ends flight h
  by_cases ha : a.call? = some c
  · cases a with
    | start i q => cases ha
    | receive c' body =>
      obtain rfl : c' = c := Option.some.inj ha
      exact finishes rfl
    | expire c' =>
      obtain rfl : c' = c := Option.some.inj ha
      cases hd : r.group.isDue now c' with
      | true => exact finishes (Group.heard?_expire hd)
      | false =>
        refine .stays ?_
        rw [r.group_next, (Group.rests_expire now hd).step, hp]
    | cancel c' =>
      obtain rfl : c' = c := Option.some.inj ha
      obtain ⟨flight, h⟩ := hD.restored_of_cancel hp now
      exact .cancels rfl flight h
    | resume c' =>
      obtain rfl : c' = c := Option.some.inj ha
      obtain ⟨i, h, hc, hi⟩ := Run.exists_call hp
      refine .stays ?_
      rw [r.group_next, Group.step, Group.takeTurn_eq hc hi, hD.resume_lead,
        Group.progress?_turned (Group.le_length_of_call hc)]
  · refine .stays ?_
    rw [r.group_next, Group.progress?_step (Group.lt_of_progress? hp) ha, hp]

/-! ## Followers -/

theorem Guided.followed_resume (hD : D.Guided) (hp : r.group.progress? c = some (D.follow k f)) :
    D.Followed r now (.resume c) c k f := by
  obtain ⟨i, h, hc, hi⟩ := Run.exists_call hp
  have hstep : r.group.step now (.resume c) =
      r.group.turned c i (D.await r.group.cache h k f) := by
    rw [Group.step, Group.takeTurn_eq hc hi, hD.resume_follow]
  have hafter : (r.next now (.resume c)).group.progress? c =
      some (D.await r.group.cache h k f).progress := by
    rw [r.group_next, hstep, Group.progress?_turned (Group.le_length_of_call hc)]
  cases hpoll : (D.table r.group.cache).poll f with
  | none =>
    refine .stays ?_
    simp only [hafter, await, hpoll]
  | some known =>
    refine .hears known hpoll ?_
    simp only [hafter, await, hpoll, tell]

/-- **A follower follows until it hears what its flight came to or is given up.** -/
theorem Guided.followed (hD : D.Guided) (hp : r.group.progress? c = some (D.follow k f))
    (now : Instant) (a : Group.Action) : D.Followed r now a c k f := by
  by_cases ha : a.call? = some c
  · obtain ⟨i, h, hc, hi⟩ := Run.exists_call hp
    have hle := Group.le_length_of_call hc
    cases a with
    | start i q => cases ha
    | resume c' =>
      obtain rfl : c' = c := Option.some.inj ha
      exact hD.followed_resume hp
    | receive c' body =>
      obtain rfl : c' = c := Option.some.inj ha
      refine .stays ?_
      rw [r.group_next, Group.step, Group.takeTurn_eq hc hi, hD.receive_follow,
        Group.progress?_turned hle]
    | expire c' =>
      obtain rfl : c' = c := Option.some.inj ha
      refine .stays ?_
      have hd : r.group.isDue now c' = false := by
        rw [Group.isDue, hp, Option.any_some, Progress.isDue, D.deadline?_follow, Option.any_none]
      rw [r.group_next, (Group.rests_expire now hd).step, hp]
    | cancel c' =>
      obtain rfl : c' = c := Option.some.inj ha
      refine .cancels ?_
      rw [r.group_next, Group.step, Group.takeTurn_eq hc hi, hD.abandon_follow,
        Group.progress?_turned hle]
  · refine .stays ?_
    rw [r.group_next, Group.progress?_step (Group.lt_of_progress? hp) ha, hp]

theorem Guided.answered_resume (hD : D.Guided) (hp : r.group.progress? c = some (D.follow k f))
    (told : (D.table r.group.cache).poll f = some known) (now : Instant) :
    (r.next now (.resume c)).group.progress? c = some (.answered (D.answer known)) := by
  obtain ⟨i, h, hc, hi⟩ := Run.exists_call hp
  rw [r.group_next, Group.step, Group.takeTurn_eq hc hi, hD.resume_follow,
    Group.progress?_turned (Group.le_length_of_call hc)]
  simp only [await, told, tell]

/-- Who follows a pending flight goes on to follow it, unless it is given up. -/
theorem Guided.follow_next (hD : D.Guided) (hp : r.group.progress? c = some (D.follow k f))
    (pending : (D.table r.group.cache).flight f = .pending) (now : Instant) (a : Group.Action) :
    (r.next now a).group.progress? c = some (D.follow k f) ∨
      (r.next now a).group.progress? c = some .cancelled := by
  cases hD.followed hp now a with
  | stays h => exact Or.inl h
  | hears known told h =>
    rw [FlightTable.poll, pending] at told
    cases told
  | cancels h => exact Or.inr h

/-! ## Beginnings -/

/-- **A lookup is answered at once, or leads, or waits for a pending flight.** -/
theorem Guided.begun (hD : D.Guided) (hi : r.group.handlers[i]? = some h) : D.Begun r now k i := by
  have hstep : r.group.step now (.start i (D.ask k)) =
      r.group.turned r.group.calls.length i (D.start now r.group.cache h k) := by
    rw [Group.step_start hi, hD.start]
  have hafter : (r.next now (.start i (D.ask k))).group.progress? r.group.calls.length =
      some (D.start now r.group.cache h k).progress := by
    rw [r.group_next, hstep, Group.progress?_turned (Nat.le_refl _)]
  cases hown : (D.own now h k).1 with
  | some b =>
    rw [D.start_of_own hown] at hafter
    exact .own h b hi hown hafter
  | none =>
    by_cases hs : (D.table r.group.cache).standing k = .pending
    · obtain ⟨f, hc, hf⟩ :=
        FlightTable.exists_current_of_standing (t := D.table r.group.cache) (k := k) (by simp [hs])
      rw [hs] at hf
      rw [D.start_of_pending hown hc hf] at hstep hafter
      refine .waits (.follows f hafter ?_)
      rw [r.group_next, hstep]
      exact hf
    · by_cases hkept : ∃ v, (D.table r.group.cache).standing k = .ready v ∧
          D.replaceable now h v = false
      · obtain ⟨v, ready, good⟩ := hkept
        rw [D.start_of_kept hown ready good] at hafter
        exact .learn v ready hafter
      · have hold : ∀ v, (D.table r.group.cache).standing k = .ready v →
            D.replaceable now h v = true := by
          intro v hv
          by_contra hgood
          exact hkept ⟨v, hv, Bool.eq_false_iff.2 hgood⟩
        rw [D.start_of_free hown hs hold] at hafter
        exact .waits (.leads _ _ _ hafter)

end Direction

end

end SchemaCatalog
