import SchemaCatalog.Proofs.Run.Direction

/-!
# What a step can do

* `Group.put`: a group after a turn of one lookup.
* `Direction.Moves`: everything that a step can do in a direction.
* **`Group.step_moves`**: each step is a move in one direction, or changes nothing.
* `Direction.Away`: a step that does not touch a direction.
* **`contents_complete`**, **`ids_complete`**: seen from either direction, each step is a move in it,
  or does not touch it.
-/

namespace SchemaCatalog

open Function (update update_apply)

namespace Group

variable {g : Group} {c i : Nat} {cache : SharedCache} {h : Handler} {p : Progress}

/-! ## Turns -/

/-- The group after a turn of lookup `c`, on handler `i`. A new lookup has the next number. -/
def put (g : Group) (c i : Nat) (cache : SharedCache) (h : Handler) (p : Progress) : Group :=
  ⟨cache, g.handlers.set i h,
    if c < g.calls.length then g.calls.set c ⟨i, p⟩ else g.calls ++ [⟨i, p⟩]⟩

@[simp] theorem cache_put : (g.put c i cache h p).cache = cache := rfl

theorem progress?_eq_none (hc : g.calls.length ≤ c) : g.progress? c = none := by
  rw [progress?, List.getElem?_eq_none hc, Option.map_none]

theorem progress?_of_call (hc : g.calls[c]? = some ⟨i, p⟩) : g.progress? c = some p := by
  rw [progress?, hc, Option.map_some]

theorem le_length_of_call {call : Call} (hc : g.calls[c]? = some call) : c ≤ g.calls.length :=
  Nat.le_of_lt (List.getElem?_eq_some_iff.1 hc).1

theorem getElem?_calls_put (hc : c ≤ g.calls.length) (c' : Nat) :
    (g.put c i cache h p).calls[c']? = if c' = c then some ⟨i, p⟩ else g.calls[c']? := by
  by_cases hlt : c < g.calls.length
  · rw [put, if_pos hlt, List.getElem?_set]
    simp only [hlt, if_true, eq_comm]
  · obtain rfl : c = g.calls.length := by omega
    rw [put, if_neg hlt]
    obtain hc' | rfl | hc' := Nat.lt_trichotomy c' g.calls.length
    · rw [List.getElem?_append_left hc', if_neg (by omega)]
    · rw [List.getElem?_concat_length, if_pos rfl]
    · rw [if_neg (by omega), List.getElem?_eq_none (by simp; omega),
        List.getElem?_eq_none (Nat.le_of_lt hc')]

theorem progress?_put (hc : c ≤ g.calls.length) :
    (g.put c i cache h p).progress? = update g.progress? c (some p) := by
  funext c'
  rw [progress?, getElem?_calls_put hc, update_apply]
  split <;> rfl

theorem put_self (hc : g.calls[c]? = some ⟨i, p⟩) (hi : g.handlers[i]? = some h) :
    g.put c i g.cache h p = g := by
  obtain ⟨hlt, hget⟩ := List.getElem?_eq_some_iff.1 hc
  obtain ⟨hlt', hget'⟩ := List.getElem?_eq_some_iff.1 hi
  rw [put, if_pos hlt, ← hget, List.set_getElem_self, ← hget', List.set_getElem_self]

/-- The group and what is seen after a turn. -/
def turned (g : Group) (c i : Nat) (t : Turn) : Group × Effect :=
  (g.put c i t.cache t.handler t.progress, ⟨t.request, t.events⟩)

theorem step_start {now : Instant} {q : Question} (hi : g.handlers[i]? = some h) :
    g.step now (.start i q) = g.turned g.calls.length i (Lookup.start now g.cache h q) := by
  simp only [step, hi, after, turned, put, Nat.lt_irrefl, if_false]

theorem takeTurn_eq {turn : Handler → Progress → Turn} (hc : g.calls[c]? = some ⟨i, p⟩)
    (hi : g.handlers[i]? = some h) : g.takeTurn c turn = g.turned c i (turn h p) := by
  obtain ⟨hlt, -⟩ := List.getElem?_eq_some_iff.1 hc
  simp only [takeTurn, hc, hi, after, turned, put, hlt, if_true]

theorem turned_rest (hc : g.calls[c]? = some ⟨i, p⟩) (hi : g.handlers[i]? = some h) :
    g.turned c i ⟨g.cache, h, p, none, []⟩ = (g, .none) := by
  simp only [turned, put_self hc hi, Effect.none]

end Group

/-! ## Moves in a direction -/

section

variable {κ α : Type} [DecidableEq κ]

/-- What a step can do in a direction. A lookup that starts is answered by its handler (`own`),
starts a flight and asks the registry (`lead`), joins a pending flight (`join`), or learns a value
that is still good (`learn`). A follower hears what its flight came to (`hear`), or gives up
(`leave`). A leader comes to the end of its attempt (`finish`), or gives up (`cancel`). -/
inductive Direction.Moves (D : Direction κ α) (now : Instant) (g : Group) :
    Group.Action → Group × Group.Effect → Prop
  | own {i : Nat} {h : Handler} {k : κ} {a : Answer} (hi : g.handlers[i]? = some h)
      (owned : (D.own now h k).1 = some a) :
      Moves D now g (.start i (D.ask k))
        (g.put g.calls.length i g.cache (D.own now h k).2 (.answered a), .none)
  | lead {i : Nat} {h : Handler} {k : κ} (hi : g.handlers[i]? = some h)
      (missed : (D.own now h k).1 = none) (free : (D.table g.cache).standing k ≠ .pending)
      (old : ∀ a, (D.table g.cache).standing k = .ready a → D.replaceable now h a = true) :
      Moves D now g (.start i (D.ask k))
        (g.put g.calls.length i (D.withTable g.cache ((D.table g.cache).launch k)) (D.own now h k).2
          (D.lead k (D.table g.cache).flights.length ((D.table g.cache).standing k).value?
            (h.giveUpAt now)),
        ⟨some (D.path h k), []⟩)
  | join {i : Nat} {h : Handler} {k : κ} {f : Nat} (hi : g.handlers[i]? = some h)
      (missed : (D.own now h k).1 = none) (current : (D.table g.cache).current? k = some f)
      (pending : (D.table g.cache).flight f = .pending) :
      Moves D now g (.start i (D.ask k))
        (g.put g.calls.length i g.cache (D.own now h k).2 (D.follow k f), .none)
  | learn {i : Nat} {h : Handler} {k : κ} {a : α} (hi : g.handlers[i]? = some h)
      (missed : (D.own now h k).1 = none) (ready : (D.table g.cache).standing k = .ready a)
      (good : D.replaceable now h a = false) :
      Moves D now g (.start i (D.ask k))
        (g.put g.calls.length i g.cache (D.keep (D.own now h k).2 k (some a))
          (.answered (D.answer (some a))), .none)
  | hear {c i : Nat} {h : Handler} {k : κ} {f : Nat} {known : Option α}
      (hc : g.calls[c]? = some ⟨i, D.follow k f⟩) (hi : g.handlers[i]? = some h)
      (told : (D.table g.cache).poll f = some known) :
      Moves D now g (.resume c)
        (g.put c i g.cache (D.keep h k known) (.answered (D.answer known)), .none)
  | finish {a : Group.Action} {c i : Nat} {h : Handler} {k : κ} {f : Nat} {prev : Option α}
      {d : Instant} {body : Option String} (heard : g.heard? now a = some (c, body))
      (hc : g.calls[c]? = some ⟨i, D.lead k f prev d⟩) (hi : g.handlers[i]? = some h) :
      Moves D now g a
        (g.put c i
          (D.withTable g.cache ((D.table g.cache).complete f (D.attempt now h k prev body).1))
          (D.keep h k (some (D.attempt now h k prev body).1))
          (.answered (D.answer (some (D.attempt now h k prev body).1))),
        ⟨none, (D.attempt now h k prev body).2⟩)
  | cancel {c i : Nat} {h : Handler} {k : κ} {f : Nat} {prev : Option α} {d : Instant}
      (hc : g.calls[c]? = some ⟨i, D.lead k f prev d⟩) (hi : g.handlers[i]? = some h) :
      Moves D now g (.cancel c)
        (g.put c i (D.withTable g.cache ((D.table g.cache).cancel f prev)) h .cancelled, .none)
  | leave {c i : Nat} {h : Handler} {k : κ} {f : Nat} (hc : g.calls[c]? = some ⟨i, D.follow k f⟩)
      (hi : g.handlers[i]? = some h) :
      Moves D now g (.cancel c) (g.put c i g.cache h .cancelled, .none)

theorem Direction.Moves.setups {D : Direction κ α} {now : Instant} {g : Group} {a : Group.Action}
    {x : Group × Group.Effect} (hm : D.Moves now g a x) :
    x.1.handlers.map Handler.setup = g.handlers.map Handler.setup := by
  have hset : ∀ {i : Nat} {h h' : Handler}, g.handlers[i]? = some h → h'.setup = h.setup →
      (g.handlers.set i h').map Handler.setup = g.handlers.map Handler.setup := by
    intro i h h' hi hs
    obtain ⟨hlt, hget⟩ := List.getElem?_eq_some_iff.1 hi
    have hlt' : i < (g.handlers.map Handler.setup).length := by simpa using hlt
    have hh : h'.setup = (g.handlers.map Handler.setup)[i] := by simp [hs, hget]
    rw [List.map_set, hh, List.set_getElem_self]
  cases hm with
  | own hi | lead hi | join hi => exact hset hi (D.setup_own ..)
  | learn hi => exact hset hi ((D.setup_keep ..).trans (D.setup_own ..))
  | hear _ hi | finish _ _ hi => exact hset hi (D.setup_keep ..)
  | cancel _ hi | leave _ hi => exact hset hi rfl

/-- A leader ends its attempt in the same way, whoever tells it. -/
theorem Direction.Moves.of_heard {D : Direction κ α} {now : Instant} {g : Group} {a : Group.Action}
    {c : Nat} {body : Option String} {x : Group × Group.Effect}
    (hm : D.Moves now g (.receive c body) x) (heard : g.heard? now a = some (c, body)) :
    D.Moves now g a x := by
  cases hm with
  | finish heard' hc hi =>
    cases heard'
    exact .finish heard hc hi

theorem Direction.endsOn?_finish (D : Direction κ α) {now : Instant} {a : Group.Action} {g : Group}
    {c i : Nat} {h : Handler} {k : κ} {f : Nat} {prev : Option α} {d : Instant}
    {body : Option String} (heard : g.heard? now a = some (c, body))
    (hc : g.calls[c]? = some ⟨i, D.lead k f prev d⟩) (hi : g.handlers[i]? = some h) (k' : κ) :
    (⟨now, g, a⟩ : Moment).endsOn? (D.ask k') =
      if k' = k then some ⟨c, h, now, body⟩ else none := by
  rw [Moment.endsOn?, Moment.ends?_of_heard heard hc (D.asks?_lead k f prev d) hi,
    Option.bind_some]
  by_cases hk : k' = k
  · rw [if_pos hk, if_pos (by rw [hk])]
  · rw [if_neg hk, if_neg fun h => hk (D.ask_inj k' k h.symm)]

namespace Direction

variable (D : Direction κ α)

/-! ## The four ways of a first turn -/

section

variable {now : Instant} {cache : SharedCache} {h : Handler} {k : κ}

theorem start_of_own {a : Answer} (owned : (D.own now h k).1 = some a) :
    D.start now cache h k = ⟨cache, (D.own now h k).2, .answered a, none, []⟩ := by
  rcases hown : D.own now h k with ⟨_ | b, h'⟩ <;> rw [hown] at owned
  · cases owned
  · cases owned
    simp only [start, hown]

theorem start_of_lead {f : Nat} {prev : Option α} {t : FlightTable κ α}
    (missed : (D.own now h k).1 = none)
    (claimed : (D.table cache).claim k (D.replaceable now h) = (.lead f prev, t)) :
    D.start now cache h k =
      ⟨D.withTable cache t, (D.own now h k).2, D.lead k f prev (h.giveUpAt now), some (D.path h k),
        []⟩ := by
  have hdeadline := Handler.giveUpAt_of_setup (D.setup_own now h k) now
  have hpath : D.path (D.own now h k).2 k = D.path h k := D.path_of_setup _ _ _ (D.setup_own ..)
  have hold := D.replaceable_of_setup now _ _ (D.setup_own now h k)
  rcases hown : D.own now h k with ⟨_ | b, h'⟩ <;> rw [hown] at missed hpath hold hdeadline
  · simp only [start, hown, hold, hpath, hdeadline, claimed]
  · cases missed

theorem start_of_follow {f : Nat} (missed : (D.own now h k).1 = none)
    (claimed : (D.table cache).claim k (D.replaceable now h) = (.follow f, D.table cache)) :
    D.start now cache h k = D.await cache (D.own now h k).2 k f := by
  have hold := D.replaceable_of_setup now _ _ (D.setup_own now h k)
  rcases hown : D.own now h k with ⟨_ | b, h'⟩ <;> rw [hown] at missed hold
  · simp only [start, hown, hold, claimed, D.withTable_table]
  · cases missed

theorem start_of_free (missed : (D.own now h k).1 = none)
    (free : (D.table cache).standing k ≠ .pending)
    (old : ∀ a, (D.table cache).standing k = .ready a → D.replaceable now h a = true) :
    D.start now cache h k =
      ⟨D.withTable cache ((D.table cache).launch k), (D.own now h k).2,
        D.lead k (D.table cache).flights.length ((D.table cache).standing k).value?
          (h.giveUpAt now),
        some (D.path h k), []⟩ := by
  rw [D.start_of_lead missed (FlightTable.claim_of_free free old)]

theorem start_of_pending {f : Nat} (missed : (D.own now h k).1 = none)
    (current : (D.table cache).current? k = some f)
    (pending : (D.table cache).flight f = .pending) :
    D.start now cache h k = ⟨cache, (D.own now h k).2, D.follow k f, none, []⟩ := by
  have hpoll : (D.table cache).poll f = none := by rw [FlightTable.poll, pending]; rfl
  rw [D.start_of_follow missed (FlightTable.claim_of_pending current pending)]
  simp only [await, hpoll]

theorem start_of_kept {a : α} (missed : (D.own now h k).1 = none)
    (ready : (D.table cache).standing k = .ready a) (good : D.replaceable now h a = false) :
    D.start now cache h k = D.tell cache (D.own now h k).2 k (some a) [] := by
  obtain ⟨f, hc, hf⟩ :=
    FlightTable.exists_current_of_standing (t := D.table cache) (k := k) (by simp [ready])
  rw [ready] at hf
  have hpoll : (D.table cache).poll f = some (some a) := by rw [FlightTable.poll, hf]; rfl
  rw [D.start_of_follow missed (FlightTable.claim_of_kept hc hf good)]
  simp only [await, hpoll]

end

/-! ## Turns are moves -/

variable {g : Group} {now : Instant} {c i : Nat} {h : Handler} {k : κ}

theorem moves_start (hi : g.handlers[i]? = some h) :
    D.Moves now g (.start i (D.ask k)) (g.turned g.calls.length i (D.start now g.cache h k)) := by
  cases hown : (D.own now h k).1 with
  | some a =>
    rw [D.start_of_own hown]
    exact .own hi hown
  | none =>
    cases hs : (D.table g.cache).standing k with
    | pending =>
      obtain ⟨f, hc, hf⟩ :=
        FlightTable.exists_current_of_standing (t := D.table g.cache) (k := k) (by simp [hs])
      rw [hs] at hf
      rw [D.start_of_pending hown hc hf]
      exact .join hi hown hc hf
    | ready a =>
      cases hr : D.replaceable now h a with
      | false =>
        rw [D.start_of_kept hown hs hr]
        exact .learn hi hown hs hr
      | true =>
        have hfree : (D.table g.cache).standing k ≠ .pending := by simp [hs]
        have hold : ∀ b, (D.table g.cache).standing k = .ready b →
            D.replaceable now h b = true := by
          intro b hb
          rw [hs] at hb
          cases hb
          exact hr
        rw [D.start_of_free hown hfree hold]
        exact .lead hi hown hfree hold
    | abandoned =>
      have hfree : (D.table g.cache).standing k ≠ .pending := by simp [hs]
      have hold : ∀ b, (D.table g.cache).standing k = .ready b → D.replaceable now h b = true := by
        intro b hb
        rw [hs] at hb
        cases hb
      rw [D.start_of_free hown hfree hold]
      exact .lead hi hown hfree hold

theorem moves_await (now : Instant) {f : Nat} (hc : g.calls[c]? = some ⟨i, D.follow k f⟩)
    (hi : g.handlers[i]? = some h) :
    D.Moves now g (.resume c) (g.turned c i (D.await g.cache h k f)) ∨
      g.turned c i (D.await g.cache h k f) = (g, .none) := by
  cases hp : (D.table g.cache).poll f with
  | none =>
    refine Or.inr ?_
    simp only [await, hp]
    exact Group.turned_rest hc hi
  | some known =>
    refine Or.inl ?_
    simp only [await, hp]
    exact .hear hc hi hp

end Direction

end

/-! ## Steps are moves -/

namespace Group

/-- Nothing happens. -/
structure Rests (g : Group) (now : Instant) (a : Action) : Prop where
  step : g.step now a = (g, .none)
  opens? : (⟨now, g, a⟩ : Moment).opens? = none
  ends? : (⟨now, g, a⟩ : Moment).ends? = none

/-- What a step can be. -/
def Moved (g : Group) (now : Instant) (a : Action) : Prop :=
  contents.Moves now g a (g.step now a) ∨ ids.Moves now g a (g.step now a) ∨ g.Rests now a

variable {g : Group} (now : Instant) {c i : Nat} {h : Handler}

theorem step_start_content (id : SchemaId) (hi : g.handlers[i]? = some h) :
    g.step now (.start i (.content id)) =
      g.turned g.calls.length i (contents.start now g.cache h id) := by
  rw [step_start hi, Lookup.start, Lookup.startContent_eq now]

theorem step_start_id (key : Key) (hi : g.handlers[i]? = some h) :
    g.step now (.start i (.id key)) = g.turned g.calls.length i (ids.start now g.cache h key) := by
  rw [step_start hi, Lookup.start, Lookup.startId_eq]

theorem moved_start (i : Nat) (q : Question) : g.Moved now (.start i q) := by
  cases hi : g.handlers[i]? with
  | none => exact Or.inr (Or.inr ⟨by simp [step, hi], by simp [Moment.opens?, hi], rfl⟩)
  | some h =>
    unfold Moved
    cases q with
    | content id =>
      left
      rw [step_start_content now id hi]
      exact contents.moves_start hi
    | id key =>
      right; left
      rw [step_start_id now key hi]
      exact ids.moves_start hi

theorem moved_receive (c : Nat) (body : Option String) : g.Moved now (.receive c body) := by
  cases hc : g.calls[c]? with
  | none =>
    exact Or.inr (Or.inr ⟨by simp [step, takeTurn, hc], rfl, by simp [Moment.ends?, heard?, hc]⟩)
  | some call =>
    obtain ⟨i, p⟩ := call
    cases hi : g.handlers[i]? with
    | none =>
      refine Or.inr (Or.inr ⟨by simp [step, takeTurn, hc, hi], rfl, ?_⟩)
      cases hp : p.asks? <;> simp [Moment.ends?, heard?, hc, hi, hp]
    | some h =>
      have hstep : g.step now (.receive c body) =
          g.turned c i (Lookup.receive now g.cache h p body) := by rw [step, takeTurn_eq hc hi]
      cases p with
      | leadContent id f prev d =>
        left
        rw [hstep, Lookup.receive_leadContent]
        exact .finish rfl hc hi
      | leadId key f prev d =>
        right; left
        rw [hstep, Lookup.receive_leadId]
        exact .finish rfl hc hi
      | _ =>
        right; right
        exact ⟨hstep.trans (turned_rest hc hi), rfl,
          by simp [Moment.ends?, heard?, hc, Progress.asks?]⟩

/-- A timer that runs off is an attempt without an answer. -/
theorem step_expire_of_due (hd : g.isDue now c) :
    g.step now (.expire c) = g.step now (.receive c none) := by
  cases hc : g.calls[c]? with
  | none => simp [step, takeTurn, hc]
  | some call =>
    have hp : call.progress.isDue now := by simpa [isDue, progress?, hc] using hd
    cases hi : g.handlers[call.handler]? <;> simp [step, takeTurn, hc, hi, Lookup.expire, hp]

theorem heard?_expire {now : Instant} (hd : g.isDue now c) :
    g.heard? now (.expire c) = some (c, none) :=
  if_pos hd

theorem call?_of_heard {now : Instant} {a : Action} {body : Option String}
    (heard : g.heard? now a = some (c, body)) : a.call? = some c := by
  cases a with
  | receive c' body' =>
    cases heard
    rfl
  | expire c' =>
    obtain ⟨-, he⟩ := Option.ite_none_right_eq_some.1 heard
    cases he
    rfl
  | start i q | resume c' | cancel c' => cases heard

theorem step_of_heard {now : Instant} {a : Action} {body : Option String}
    (heard : g.heard? now a = some (c, body)) : g.step now a = g.step now (.receive c body) := by
  cases a with
  | receive c' body' =>
    cases heard
    rfl
  | expire c' =>
    cases hd : g.isDue now c' with
    | true =>
      rw [heard?_expire hd] at heard
      cases heard
      exact step_expire_of_due now hd
    | false => simp [heard?, hd] at heard
  | start i q | resume c' | cancel c' => cases heard

theorem Rests.of_heard {now : Instant} {a : Action} {body : Option String}
    (hr : g.Rests now (.receive c body)) (heard : g.heard? now a = some (c, body)) :
    g.Rests now a :=
  ⟨(step_of_heard heard).trans hr.step, Moment.opens?_of_heard heard,
    (Moment.ends?_congr heard).trans hr.ends?⟩

/-- A timer does nothing before its time is over. -/
theorem rests_expire (hd : g.isDue now c = false) : g.Rests now (.expire c) := by
  refine ⟨?_, rfl, Moment.ends?_of_silent (by simp [heard?, hd])⟩
  cases hc : g.calls[c]? with
  | none => simp [step, takeTurn, hc]
  | some call =>
    obtain ⟨i, p⟩ := call
    have hp : p.isDue now = false := by simpa [isDue, progress?, hc] using hd
    cases hi : g.handlers[i]? with
    | none => simp [step, takeTurn, hc, hi]
    | some h =>
      rw [step, takeTurn_eq hc hi, Lookup.expire, hp]
      exact turned_rest hc hi

theorem moved_expire (c : Nat) : g.Moved now (.expire c) := by
  cases hd : g.isDue now c with
  | false => exact Or.inr (Or.inr (rests_expire now hd))
  | true =>
    have heard := heard?_expire hd
    unfold Moved
    rw [step_of_heard heard]
    obtain hm | hm | hm := moved_receive now (g := g) c none
    · exact Or.inl (hm.of_heard heard)
    · exact Or.inr (Or.inl (hm.of_heard heard))
    · exact Or.inr (Or.inr (hm.of_heard heard))

theorem moved_resume (c : Nat) : g.Moved now (.resume c) := by
  cases hc : g.calls[c]? with
  | none => exact Or.inr (Or.inr ⟨by simp [step, takeTurn, hc], rfl, rfl⟩)
  | some call =>
    obtain ⟨i, p⟩ := call
    cases hi : g.handlers[i]? with
    | none => exact Or.inr (Or.inr ⟨by simp [step, takeTurn, hc, hi], rfl, rfl⟩)
    | some h =>
      have hstep : g.step now (.resume c) = g.turned c i (Lookup.resume g.cache h p) :=
        takeTurn_eq hc hi
      cases p with
      | followContent id f =>
        rw [Lookup.resume, Lookup.followContent_eq] at hstep
        obtain hm | hm := contents.moves_await now hc hi
        · exact Or.inl (hstep ▸ hm)
        · exact Or.inr (Or.inr ⟨hstep.trans hm, rfl, rfl⟩)
      | followId key f =>
        rw [Lookup.resume, Lookup.followId_eq] at hstep
        obtain hm | hm := ids.moves_await now hc hi
        · exact Or.inr (Or.inl (hstep ▸ hm))
        · exact Or.inr (Or.inr ⟨hstep.trans hm, rfl, rfl⟩)
      | _ => exact Or.inr (Or.inr ⟨hstep.trans (turned_rest hc hi), rfl, rfl⟩)

theorem moved_cancel (c : Nat) : g.Moved now (.cancel c) := by
  cases hc : g.calls[c]? with
  | none => exact Or.inr (Or.inr ⟨by simp [step, takeTurn, hc], rfl, rfl⟩)
  | some call =>
    obtain ⟨i, p⟩ := call
    cases hi : g.handlers[i]? with
    | none => exact Or.inr (Or.inr ⟨by simp [step, takeTurn, hc, hi], rfl, rfl⟩)
    | some h =>
      have hstep : g.step now (.cancel c) = g.turned c i (Lookup.abandon g.cache h p) :=
        takeTurn_eq hc hi
      cases p with
      | leadContent id f prev d => exact Or.inl (hstep ▸ .cancel hc hi)
      | leadId key f prev d => exact Or.inr (Or.inl (hstep ▸ .cancel hc hi))
      | followContent id f => exact Or.inl (hstep ▸ .leave hc hi)
      | followId key f => exact Or.inr (Or.inl (hstep ▸ .leave hc hi))
      | _ => exact Or.inr (Or.inr ⟨hstep.trans (turned_rest hc hi), rfl, rfl⟩)

/-- **Each step is a move in one direction, or changes nothing.** -/
theorem step_moves (g : Group) (a : Action) : g.Moved now a := by
  cases a with
  | start i q => exact moved_start now i q
  | receive c body => exact moved_receive now c body
  | expire c => exact moved_expire now c
  | resume c => exact moved_resume now c
  | cancel c => exact moved_cancel now c

end Group

/-! ## The other direction -/

section

variable {κ α κ' α' : Type}

/-- Two directions that do not meet. -/
structure Direction.Apart (D : Direction κ α) (D' : Direction κ' α') : Prop where
  table : ∀ c t, D.table (D'.withTable c t) = D.table c
  ask : ∀ k k', D.ask k ≠ D'.ask k'
  own : ∀ values now h k, D.Backed values h → D.Backed values (D'.own now h k).2
  keep : ∀ values h k known, D.Backed values h → D.Backed values (D'.keep h k known)

theorem contents_apart_ids : contents.Apart ids where
  table _ _ := rfl
  ask _ _ h := by cases h
  own values now h key hh := by
    show ((h.ownId now key).2).ContentsFrom values
    rw [Handler.ids_ownId]
    exact hh
  keep values h key known hh := by
    show ((h.keepId key known).1).ContentsFrom values
    unfold Handler.keepId
    split
    · split <;> exact hh
    · exact hh

theorem ids_apart_contents : ids.Apart contents where
  table _ _ := rfl
  ask _ _ h := by cases h
  own _ _ _ _ hh := hh
  keep values h id known hh := by
    show ((h.keepContent id known).1).IdsFrom values
    unfold Handler.keepContent
    split <;> exact hh

/-- A step that does not touch a direction. -/
structure Direction.Away (D : Direction κ α) (now : Instant) (g : Group) (a : Group.Action)
    (x : Group × Group.Effect) : Prop where
  table : D.table x.1.cache = D.table g.cache
  calls : ∀ (c : Nat) (call : Call), g.calls[c]? = some call →
    (∀ q, call.progress.about? = some q → ∃ k, q = D.ask k) → x.1.calls[c]? = some call
  part : ∀ c, (x.1.progress? c).bind D.part? = (g.progress? c).bind D.part?
  backed : ∀ values, (∀ h ∈ g.handlers, D.Backed values h) → ∀ h ∈ x.1.handlers, D.Backed values h
  opens : ∀ i k, (⟨now, g, a⟩ : Moment).opens? ≠ some (i, D.ask k)
  ends : ∀ k, (⟨now, g, a⟩ : Moment).endsOn? (D.ask k) = none
  events : ∀ k, ∀ e ∈ x.2.events, e.fact.about ≠ D.ask k

theorem Group.Rests.away {D : Direction κ α} {now : Instant} {g : Group} {a : Group.Action}
    (hr : g.Rests now a) : D.Away now g a (g.step now a) where
  table := by rw [hr.step]
  calls c call hc _ := by rw [hr.step]; exact hc
  part c := by rw [hr.step]
  backed values hh := by rw [hr.step]; exact hh
  opens i k := by rw [hr.opens?]; nofun
  ends k := by rw [Moment.endsOn?, hr.ends?]; rfl
  events k e he := by rw [hr.step] at he; cases he

namespace Direction

variable {D : Direction κ α} {D' : Direction κ' α'} {g : Group} {now : Instant} {c i : Nat}
  {cache : SharedCache} {h h' : Handler} {p p' : Progress} {k : κ'} {a : Group.Action}
  {e : Group.Effect} {x : Group × Group.Effect}

theorem about?_of_part? {part : Part κ α} (hp : D.part? p = some part) :
    ∃ k, p.about? = some (D.ask k) := by
  cases part with
  | lead k f prev =>
    obtain ⟨d, rfl⟩ := D.lead_of_part? p k f prev hp
    exact ⟨k, D.about?_lead k f prev d⟩
  | follow k f => exact ⟨k, by rw [D.follow_of_part? p k f hp, D.about?_follow]⟩

theorem Apart.part?_eq_none (hD : D.Apart D') (hp : p.about? = some (D'.ask k)) :
    D.part? p = none := by
  cases hpart : D.part? p with
  | none => rfl
  | some part =>
    obtain ⟨k', hk'⟩ := D.about?_of_part? hpart
    rw [hp, Option.some.injEq] at hk'
    exact absurd hk'.symm (hD.ask k' k)

theorem backed_set (hi : g.handlers[i]? = some h) {values : κ → List α}
    (hh : D.Backed values h → D.Backed values h') (hg : ∀ h ∈ g.handlers, D.Backed values h) :
    ∀ x ∈ g.handlers.set i h', D.Backed values x := by
  intro x hx
  obtain hx | rfl := List.mem_or_eq_of_mem_set hx
  · exact hg x hx
  · exact hh (hg h (List.mem_of_getElem? hi))

theorem Apart.away_start (hD : D.Apart D') (hi : g.handlers[i]? = some h)
    (ht : D.table cache = D.table g.cache) (hp : D.part? p = none)
    (hh : ∀ values, D.Backed values h → D.Backed values h') (he : e.events = []) :
    D.Away now g (.start i (D'.ask k)) (g.put g.calls.length i cache h' p, e) where
  table := ht
  calls c call hc _ := by
    obtain ⟨hlt, -⟩ := List.getElem?_eq_some_iff.1 hc
    rw [Group.getElem?_calls_put (Nat.le_refl _), if_neg (by omega)]
    exact hc
  part c := by
    rw [Group.progress?_put (Nat.le_refl _), update_apply]
    split
    · next hc => rw [hc, Group.progress?_eq_none (Nat.le_refl _)]; exact hp
    · rfl
  backed values hg := backed_set hi (hh values) hg
  opens i' k' ho := by
    simp only [Moment.opens?, hi, Option.isSome_some, if_true, Option.some.injEq,
      Prod.mk.injEq] at ho
    exact hD.ask k' k ho.2.symm
  ends _ := rfl
  events _ x hx := by rw [he] at hx; cases hx

theorem Apart.away_turn (hD : D.Apart D') (hc : g.calls[c]? = some ⟨i, p⟩)
    (hi : g.handlers[i]? = some h) (hp : p.about? = some (D'.ask k))
    (ho : (⟨now, g, a⟩ : Moment).opens? = none)
    (hend : ∀ k, (⟨now, g, a⟩ : Moment).endsOn? (D.ask k) = none)
    (ht : D.table cache = D.table g.cache) (hp' : D.part? p' = none)
    (hh : ∀ values, D.Backed values h → D.Backed values h')
    (he : ∀ x ∈ e.events, x.fact.about = D'.ask k) :
    D.Away now g a (g.put c i cache h' p', e) := by
  have hle : c ≤ g.calls.length := Group.le_length_of_call hc
  constructor
  case table => exact ht
  case calls =>
    intro c' call hc' hq
    rw [Group.getElem?_calls_put hle, if_neg]
    · exact hc'
    · rintro rfl
      rw [hc, Option.some.injEq] at hc'
      subst hc'
      obtain ⟨k', hk'⟩ := hq _ hp
      exact hD.ask k' k hk'.symm
  case part =>
    intro c'
    rw [Group.progress?_put hle, update_apply]
    split
    · next hcc => rw [hcc, Group.progress?_of_call hc, Option.bind_some, Option.bind_some, hp',
        hD.part?_eq_none hp]
    · rfl
  case backed =>
    intro values hg
    exact backed_set hi (hh values) hg
  case opens =>
    intro i' k' h'
    rw [ho] at h'
    cases h'
  case ends => exact hend
  case events =>
    intro k' x hx hx'
    exact hD.ask k' k (hx'.symm.trans (he x hx))

variable [DecidableEq κ']

/-- **A move in one direction leaves the other one alone.** -/
theorem Moves.away (hD : D.Apart D') (hm : D'.Moves now g a x) : D.Away now g a x := by
  cases hm with
  | own hi owned =>
    exact hD.away_start hi rfl (D.part?_answered _) (fun values => hD.own values _ _ _) rfl
  | lead hi missed free old =>
    exact hD.away_start hi (hD.table _ _) (hD.part?_eq_none (D'.about?_lead _ _ _ _))
      (fun values => hD.own values _ _ _) rfl
  | join hi missed current pending =>
    exact hD.away_start hi rfl (hD.part?_eq_none (D'.about?_follow _ _))
      (fun values => hD.own values _ _ _) rfl
  | learn hi missed ready good =>
    exact hD.away_start hi rfl (D.part?_answered _)
      (fun values hh => hD.keep values _ _ _ (hD.own values _ _ _ hh)) rfl
  | hear hc hi told =>
    exact hD.away_turn hc hi (D'.about?_follow _ _) rfl (fun _ => rfl) rfl (D.part?_answered _)
      (fun values => hD.keep values _ _ _) (by nofun)
  | @finish a c i h k f prev d body heard hc hi =>
    refine hD.away_turn hc hi (D'.about?_lead _ _ _ _) (Moment.opens?_of_heard heard) (fun k' => ?_)
      (hD.table _ _) (D.part?_answered _) (fun values => hD.keep values _ _ _)
      (fun x hx => (D'.event_about _ _ _ _ _ x hx).1)
    rw [Moment.endsOn?, Moment.ends?_of_heard heard hc (D'.asks?_lead k f prev d) hi,
      Option.bind_some, if_neg (fun h => hD.ask k' k h.symm)]
  | cancel hc hi =>
    exact hD.away_turn hc hi (D'.about?_lead _ _ _ _) rfl (fun _ => rfl) (hD.table _ _)
      D.part?_cancelled (fun _ hh => hh) (by nofun)
  | leave hc hi =>
    exact hD.away_turn hc hi (D'.about?_follow _ _) rfl (fun _ => rfl) rfl D.part?_cancelled
      (fun _ hh => hh) (by nofun)

end Direction

/-- Every step is a move in the direction, or stays away from it. -/
def Direction.Complete [DecidableEq κ] (D : Direction κ α) : Prop :=
  ∀ now g a, D.Moves now g a (g.step now a) ∨ D.Away now g a (g.step now a)

theorem contents_complete : contents.Complete := by
  intro now g a
  obtain hm | hm | hm := g.step_moves now a
  · exact Or.inl hm
  · exact Or.inr (hm.away contents_apart_ids)
  · exact Or.inr hm.away

theorem ids_complete : ids.Complete := by
  intro now g a
  obtain hm | hm | hm := g.step_moves now a
  · exact Or.inr (hm.away ids_apart_contents)
  · exact Or.inl hm
  · exact Or.inr hm.away

theorem Group.call_stays {g : Group} {now : Instant} {a : Group.Action} {c : Nat} {call : Call}
    (hc : g.calls[c]? = some call) (hp : call.progress.about? = none) :
    (g.step now a).1.calls[c]? = some call := by
  have hq : ∀ {γ : Type} (ask : γ → Question) (q : Question), call.progress.about? = some q →
      ∃ k, q = ask k := by
    intro γ ask q hq
    rw [hp] at hq
    cases hq
  obtain hm | hm | hm := g.step_moves now a
  · exact (hm.away ids_apart_contents).calls c call hc (hq _)
  · exact (hm.away contents_apart_ids).calls c call hc (hq _)
  · rw [hm.step]
    exact hc

end

end SchemaCatalog
