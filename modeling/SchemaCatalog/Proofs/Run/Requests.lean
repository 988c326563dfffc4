import SchemaCatalog.Proofs.Run.Basic

/-!
# Requests to the registry

Any step could ask the registry for something. It turns out that a lookup asks in its first turn only,
so each lookup has one request at most.

* `Request`, `Run.sent`: the requests of all steps.
* `Run.requests`: those of lookups about a question. `Run.paths`: those of one lookup.
* **`Moment.opens?_of_request`**: only a lookup that starts asks the registry.
* `Run.requests_next_of_quiet`, `Run.paths_start`: what a step adds.
-/

namespace SchemaCatalog

/-- A request to the registry: the lookup that has sent it, the path, and when it was sent. -/
structure Request where
  call : Nat
  path : String
  sent : Instant
  deriving DecidableEq, Repr

/-! ## Who asks -/

namespace Lookup

variable (now : Instant) (cache : SharedCache) (h : Handler) (p : Progress)

theorem request_receive (body : Option String) :
    (receive now cache h p body).request = none := by
  cases p <;> rfl

theorem request_expire : (expire now cache h p).request = none := by
  unfold expire
  split
  · exact request_receive now cache h p none
  · rfl

theorem request_resume : (resume cache h p).request = none := by
  cases p with
  | followContent id f =>
    simp only [resume, followContent]
    split <;> rfl
  | followId key f =>
    simp only [resume, followId]
    split <;> rfl
  | _ => rfl

theorem request_abandon : (abandon cache h p).request = none := by
  cases p <;> rfl

end Lookup

theorem Group.request_takeTurn (g : Group) (c : Nat) {turn : Handler → Progress → Turn}
    (hturn : ∀ h p, (turn h p).request = none) : (g.takeTurn c turn).2.request = none := by
  unfold takeTurn
  split
  · split
    · exact hturn _ _
    · rfl
  · rfl

namespace Moment

/-- **Only a lookup that starts asks the registry.** -/
theorem opens?_of_request {m : Moment} (h : m.effect.request.isSome) : m.opens?.isSome := by
  obtain ⟨now, g, a⟩ := m
  have quiet : ∀ {c : Nat} {turn : Handler → Progress → Turn},
      (∀ h p, (turn h p).request = none) → (g.takeTurn c turn).2.request.isSome = false :=
    fun hturn => by rw [g.request_takeTurn _ hturn]; rfl
  cases a with
  | start i q =>
    cases hi : g.handlers[i]? with
    | none => simp [effect, Group.step, hi, Group.Effect.none] at h
    | some h' => simp [opens?, hi]
  | receive c body =>
    simp [effect, Group.step, quiet fun h p => Lookup.request_receive now _ h p body] at h
  | expire c => simp [effect, Group.step, quiet fun h p => Lookup.request_expire now _ h p] at h
  | resume c => simp [effect, Group.step, quiet fun h p => Lookup.request_resume _ h p] at h
  | cancel c => simp [effect, Group.step, quiet fun h p => Lookup.request_abandon _ h p] at h

/-- The lookup that takes a turn; one that starts has the next number. -/
def actor (m : Moment) : Nat := m.action.call?.getD m.before.calls.length

/-- The request that is sent in it. -/
def sends? (m : Moment) : Option Request := m.effect.request.map fun path => ⟨m.actor, path, m.now⟩

end Moment

namespace Run

/-- The requests of all steps, in this order. -/
def sent (r : Run) : List Request := r.past.filterMap Moment.sends?

def question? (r : Run) (c : Nat) : Option Question := (r.started[c]?).map Prod.snd

/-- The requests of lookups about `q`. -/
def requests (r : Run) (q : Question) : List Request :=
  r.sent.filter fun x => r.question? x.call = some q

/-- The paths for which a lookup has asked. -/
def paths (r : Run) (c : Nat) : List String :=
  (r.sent.filter fun x => x.call = c).map Request.path

variable {r : Run} {now : Instant} {a : Group.Action} {c i : Nat} {q : Question} {x : Request}

theorem sent_next (r : Run) (now : Instant) (a : Group.Action) :
    (r.next now a).sent = r.sent ++ ((r.moment now a).sends?).toList := by
  rw [sent, past_next, List.filterMap_append, List.filterMap_eq_flatMap_toList _ [_],
    List.flatMap_singleton, sent]

theorem mem_sent_next :
    x ∈ (r.next now a).sent ↔ x ∈ r.sent ∨ (r.moment now a).sends? = some x := by
  rw [sent_next, List.mem_append, Option.mem_toList]

theorem sends?_eq_some (hs : (r.moment now a).sends? = some x) :
    ∃ i, ∃ q h, a = .start i q ∧ r.group.handlers[i]? = some h ∧ x.call = r.group.calls.length ∧
      x.sent = now ∧ (r.moment now a).effect.request = some x.path := by
  obtain ⟨path, hpath, rfl⟩ := Option.map_eq_some_iff.1 hs
  have hsome : (r.moment now a).effect.request.isSome := by rw [hpath]; rfl
  obtain ⟨⟨i, q⟩, hopens⟩ := Option.isSome_iff_exists.1 (Moment.opens?_of_request hsome)
  obtain ⟨rfl, h, hi⟩ := Moment.opens?_eq_some.1 hopens
  exact ⟨i, q, h, rfl, hi, rfl, rfl, hpath⟩

theorem sends?_start {path : String}
    (hpath : (r.moment now (.start i q)).effect.request = some path) :
    (r.moment now (.start i q)).sends? = some ⟨r.group.calls.length, path, now⟩ := by
  rw [Moment.sends?, hpath]
  rfl

theorem length_calls_next :
    (r.next now a).group.calls.length =
      r.group.calls.length + ((r.moment now a).opens?).toList.length := by
  rw [← length_started, ← length_started, started_next, List.length_append]

theorem opens?_start {h : Handler} (hi : r.group.handlers[i]? = some h) (now : Instant)
    (q : Question) : (r.moment now (.start i q)).opens? = some (i, q) :=
  Moment.opens?_eq_some.2 ⟨rfl, h, hi⟩

theorem lt_of_sent (hx : x ∈ r.sent) : x.call < r.group.calls.length := by
  induction r using Run.induction with
  | start us => cases hx
  | next r now a ih =>
    rw [length_calls_next]
    obtain hold | hnew := mem_sent_next.1 hx
    · exact Nat.lt_add_right _ (ih hold)
    · obtain ⟨i, q, h, rfl, hi, hcall, -⟩ := sends?_eq_some hnew
      rw [opens?_start hi, hcall]
      exact Nat.lt_succ_self _

/-- Each lookup sends one request at most, and requests are in the order of their lookups. -/
theorem sent_sorted (r : Run) : r.sent.Pairwise fun x y => x.call < y.call := by
  induction r using Run.induction with
  | start us => exact List.Pairwise.nil
  | next r now a ih =>
    rw [sent_next, List.pairwise_append]
    refine ⟨ih, ?_, ?_⟩
    · cases (r.moment now a).sends? <;> simp
    · intro x hx y hy
      obtain ⟨-, -, -, -, -, hcall, -⟩ := sends?_eq_some (Option.mem_toList.1 hy)
      rw [hcall]
      exact lt_of_sent hx

/-! ## What a step adds -/

theorem question?_of_lt (hc : c < r.group.calls.length) :
    (r.next now a).question? c = r.question? c := by
  rw [question?, started_next, List.getElem?_append_left (by rwa [length_started]), question?]

theorem question?_start {h : Handler} (hi : r.group.handlers[i]? = some h) (now : Instant)
    (q : Question) : (r.next now (.start i q)).question? r.group.calls.length = some q := by
  rw [question?, started_next, opens?_start hi, ← length_started, Option.toList_some,
    List.getElem?_concat_length, Option.map_some]

/-- A step that does not start a lookup about `q` with a request adds no request about `q`. -/
theorem requests_next_of_quiet
    (quiet : ∀ i, a = .start i q → (r.moment now a).effect.request = none) :
    (r.next now a).requests q = r.requests q := by
  have hold : r.sent.filter (fun x => (r.next now a).question? x.call = some q) =
      r.sent.filter fun x => r.question? x.call = some q :=
    List.filter_congr fun x hx => by rw [question?_of_lt (lt_of_sent hx)]
  have hnew : ((r.moment now a).sends?).toList.filter
      (fun x => (r.next now a).question? x.call = some q) = [] := by
    refine List.filter_eq_nil_iff.2 fun x hx hq => ?_
    obtain ⟨i, q', h, rfl, hi, hcall, -, hpath⟩ := sends?_eq_some (Option.mem_toList.1 hx)
    have hq' : q' = q := by
      rw [hcall, question?_start hi] at hq
      exact Option.some.inj (of_decide_eq_true hq)
    rw [quiet i (by rw [hq'])] at hpath
    cases hpath
  rw [requests, sent_next, List.filter_append, hold, hnew, List.append_nil, requests]

theorem paths_of_le (hc : r.group.calls.length ≤ c) : r.paths c = [] := by
  have hnone : r.sent.filter (fun x => x.call = c) = [] :=
    List.filter_eq_nil_iff.2 fun x hx he => by
      have := lt_of_sent hx
      have := of_decide_eq_true he
      omega
  rw [paths, hnone, List.map_nil]

/-- A lookup asks for nothing more once it has started. -/
theorem paths_of_lt (hc : c < r.group.calls.length) : (r.next now a).paths c = r.paths c := by
  have hnew : ((r.moment now a).sends?).toList.filter (fun x => x.call = c) = [] := by
    refine List.filter_eq_nil_iff.2 fun x hx he => ?_
    obtain ⟨-, -, -, -, -, hcall, -⟩ := sends?_eq_some (Option.mem_toList.1 hx)
    have := of_decide_eq_true he
    omega
  rw [paths, sent_next, List.filter_append, hnew, List.append_nil, paths]

theorem paths_start (r : Run) (now : Instant) (i : Nat) (q : Question) :
    (r.next now (.start i q)).paths r.group.calls.length =
      ((r.moment now (.start i q)).effect.request).toList := by
  have hold : (r.sent.filter fun x => x.call = r.group.calls.length).map Request.path = [] :=
    paths_of_le (Nat.le_refl _)
  rw [paths, sent_next, List.filter_append, List.map_append, hold, List.nil_append]
  cases hpath : (r.moment now (.start i q)).effect.request with
  | none => simp [Moment.sends?, hpath]
  | some path => simp [sends?_start hpath]

end Run

end SchemaCatalog
