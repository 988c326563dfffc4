import SchemaCatalog.Catalog.Group
import Mathlib.Data.List.Basic
import Mathlib.Data.List.Induction

/-!
# Runs of handlers with one shared cache

* `Setup`, `Run`: what handlers are made from, and a run of them, which is any list of timed
  actions.
* `Group.heard?`: what a lookup hears in a step, from the registry or from its timer.
* `Moment`: one step of a run. `Run.past`: the steps so far.
* `Run.started`: the lookups started so far.
* `Attempt`, `Run.attempts`: the attempts to answer a question that came to their end; an attempt
  that was given up is not among them.
* `Run.events`: what was reported about a question.
-/

namespace SchemaCatalog

structure Setup where
  catalogId : UInt64
  config : Config
  sink : EventSink
  deriving DecidableEq, Repr

def Setup.handler (u : Setup) : Handler := .ofConfig u.catalogId u.config u.sink

/-- What a handler was made from. -/
def Handler.setup (h : Handler) : Setup := ⟨h.catalogId, h.config, h.sink⟩

/-- What a lookup has asked the registry. -/
def Progress.asks? : Progress → Option Question
  | leadContent id _ _ _ => some (.content id)
  | leadId key _ _ _ => some (.id key)
  | _ => none

/-- What a lookup that is not over is about. -/
def Progress.about? : Progress → Option Question
  | leadContent id _ _ _ | followContent id _ => some (.content id)
  | leadId key _ _ _ | followId key _ => some (.id key)
  | _ => none

def Event.Fact.about : Event.Fact → Question
  | unretrievableSchema id | retrievedSchema id => .content id
  | unretrievableVersion key | staleVersion key _ | retrievedVersion key => .id key

/-- An attempt that came to its end: the lookup that led it with its handler, when it ended, and what
the registry answered, if it did in time. -/
structure Attempt where
  call : Nat
  handler : Handler
  ended : Instant
  body : Option String

def Attempt.id? (a : Attempt) : Option SchemaId :=
  a.body.bind fun b => RegistryPath.idIn b a.handler.config.useId.memberName

/-! ## Timers -/

namespace Group

def Action.call? : Action → Option Nat
  | start _ _ => none
  | receive c _ | expire c | resume c | cancel c => some c

def deadline? (g : Group) (c : Nat) : Option Instant := (g.progress? c).bind Progress.deadline?

/-- Whether the time of the request of lookup `c` is over. -/
def isDue (g : Group) (now : Instant) (c : Nat) : Bool := (g.progress? c).any (Progress.isDue now)

theorem isDue_eq (g : Group) (now : Instant) (c : Nat) :
    g.isDue now c = (g.deadline? c).any fun d => d.nanos ≤ now.nanos := by
  rw [isDue, deadline?]
  cases g.progress? c <;> rfl

/-- What a lookup hears: what the registry has answered, or that its time is over. -/
def heard? (g : Group) (now : Instant) : Action → Option (Nat × Option String)
  | .receive c body => some (c, body)
  | .expire c => if g.isDue now c then some (c, none) else none
  | _ => none

end Group

/-! ## Moments -/

/-- A step of a run: when it happens, the group before it, and what happens. -/
structure Moment where
  now : Instant
  before : Group
  action : Group.Action

namespace Moment

/-- What the world sees of it. -/
def effect (m : Moment) : Group.Effect := (m.before.step m.now m.action).2

/-- The lookup that it starts: its handler and what is asked. -/
def opens? (m : Moment) : Option (Nat × Question) :=
  match m.action with
  | .start i q => if (m.before.handlers[i]?).isSome then some (i, q) else none
  | _ => none

/-- The attempt that it ends, with the question that was asked. -/
def ends? (m : Moment) : Option (Question × Attempt) := do
  let (c, body) ← m.before.heard? m.now m.action
  let call ← m.before.calls[c]?
  let q ← call.progress.asks?
  let h ← m.before.handlers[call.handler]?
  some (q, ⟨c, h, m.now, body⟩)

/-- The attempt on `q` that it ends. -/
def endsOn? (m : Moment) (q : Question) : Option Attempt :=
  m.ends?.bind fun e => if e.1 = q then some e.2 else none

/-- What it reports about `q`. -/
def events (m : Moment) (q : Question) : List Event :=
  m.effect.events.filter fun e => e.fact.about = q

theorem endsOn?_eq_some {m : Moment} {q : Question} {t : Attempt} :
    m.endsOn? q = some t ↔ m.ends? = some (q, t) := by
  rw [endsOn?, Option.bind_eq_some_iff]
  constructor
  · rintro ⟨e, he, hq⟩
    split at hq
    · next hq' => cases hq; exact he.trans (by rw [← hq'])
    · cases hq
  · intro he
    exact ⟨(q, t), he, if_pos rfl⟩

theorem opens?_eq_some {m : Moment} {i : Nat} {q : Question} :
    m.opens? = some (i, q) ↔ m.action = .start i q ∧ ∃ h, m.before.handlers[i]? = some h := by
  obtain ⟨now, g, a⟩ := m
  cases a with
  | start j p =>
    simp only [opens?, Group.Action.start.injEq, ← Option.isSome_iff_exists]
    split
    · next h =>
      rw [Option.some.injEq, Prod.mk.injEq]
      exact ⟨fun he => ⟨he, he.1 ▸ h⟩, And.left⟩
    · next h =>
      refine ⟨nofun, ?_⟩
      rintro ⟨⟨rfl, rfl⟩, h'⟩
      exact absurd h' h
  | _ => simp [opens?]

theorem opens?_of_heard {now : Instant} {a : Group.Action} {g : Group} {x : Nat × Option String}
    (heard : g.heard? now a = some x) : (⟨now, g, a⟩ : Moment).opens? = none := by
  cases a with
  | start i q => cases heard
  | _ => rfl

theorem ends?_of_heard {now : Instant} {a : Group.Action} {g : Group} {c i : Nat} {p : Progress}
    {q : Question} {h : Handler} {body : Option String} (heard : g.heard? now a = some (c, body))
    (hc : g.calls[c]? = some ⟨i, p⟩) (hp : p.asks? = some q) (hi : g.handlers[i]? = some h) :
    (⟨now, g, a⟩ : Moment).ends? = some (q, ⟨c, h, now, body⟩) := by
  simp [ends?, heard, hc, hp, hi]

theorem ends?_congr {now : Instant} {a b : Group.Action} {g : Group}
    (h : g.heard? now a = g.heard? now b) :
    (⟨now, g, a⟩ : Moment).ends? = (⟨now, g, b⟩ : Moment).ends? := by
  simp only [ends?, h]

theorem ends?_of_silent {now : Instant} {a : Group.Action} {g : Group}
    (silent : g.heard? now a = none) : (⟨now, g, a⟩ : Moment).ends? = none := by
  simp [ends?, silent]

end Moment

def Group.replay (g : Group) (s : List (Instant × Group.Action)) : Group :=
  s.foldl (fun g x => (g.step x.1 x.2).1) g

def Group.moments (g : Group) : List (Instant × Group.Action) → List Moment
  | [] => []
  | x :: s => ⟨x.1, g, x.2⟩ :: Group.moments (g.step x.1 x.2).1 s

theorem Group.replay_concat (g : Group) (s : List (Instant × Group.Action)) (now : Instant)
    (a : Group.Action) : g.replay (s ++ [(now, a)]) = ((g.replay s).step now a).1 := by
  rw [Group.replay, List.foldl_append]
  rfl

theorem Group.moments_concat (g : Group) (s : List (Instant × Group.Action)) (now : Instant)
    (a : Group.Action) : g.moments (s ++ [(now, a)]) = g.moments s ++ [⟨now, g.replay s, a⟩] := by
  induction s generalizing g with
  | nil => rfl
  | cons x s ih =>
    rw [List.cons_append, Group.moments, Group.moments, ih, List.cons_append]
    rfl

/-- A turn leaves every lookup on its handler. -/
theorem Group.handlers_takeTurn (g : Group) (c : Nat) (turn : Handler → Progress → Turn) :
    (g.takeTurn c turn).1.calls.map Call.handler = g.calls.map Call.handler := by
  unfold Group.takeTurn
  split
  · next call hc =>
    split
    · obtain ⟨hlt, hget⟩ := List.getElem?_eq_some_iff.1 hc
      have hlt' : c < (g.calls.map Call.handler).length := by simpa using hlt
      have hh : call.handler = (g.calls.map Call.handler)[c] := by simp [hget]
      simp only [Group.after, List.map_set, hh, List.set_getElem_self]
    · rfl
  · rfl

/-! ## Runs -/

/-- A run of handlers that start with empty caches. Its actions come in any order, and those that do
not fit change nothing. -/
structure Run where
  setups : List Setup
  schedule : List (Instant × Group.Action)

namespace Run

def origin (r : Run) : Group := .ofHandlers (r.setups.map Setup.handler)

def group (r : Run) : Group := r.origin.replay r.schedule

def past (r : Run) : List Moment := r.origin.moments r.schedule

def next (r : Run) (now : Instant) (a : Group.Action) : Run :=
  { r with schedule := r.schedule ++ [(now, a)] }

def extend (r : Run) (s : List (Instant × Group.Action)) : Run :=
  { r with schedule := r.schedule ++ s }

/-- The clock never goes back. -/
def Ordered (r : Run) : Prop := r.schedule.Pairwise fun x y => x.1.nanos ≤ y.1.nanos

/-- The lookups in the order of their start: handler and question. -/
def started (r : Run) : List (Nat × Question) := r.past.filterMap Moment.opens?

/-- The attempts on `q` that came to their end, in this order. -/
def attempts (r : Run) (q : Question) : List Attempt := r.past.filterMap fun m => m.endsOn? q

/-- What was reported about `q`, in this order. -/
def events (r : Run) (q : Question) : List Event := r.past.flatMap fun m => m.events q

variable (r : Run) (now : Instant) (a : Group.Action)

/-- The next step. -/
def moment : Moment := ⟨now, r.group, a⟩

theorem group_next : (r.next now a).group = (r.group.step now a).1 :=
  Group.replay_concat _ _ _ _

theorem past_next : (r.next now a).past = r.past ++ [r.moment now a] :=
  Group.moments_concat _ _ _ _

theorem started_next :
    (r.next now a).started = r.started ++ ((r.moment now a).opens?).toList := by
  rw [started, past_next, List.filterMap_append, List.filterMap_eq_flatMap_toList _ [_],
    List.flatMap_singleton, started]

theorem attempts_next (q : Question) :
    (r.next now a).attempts q = r.attempts q ++ ((r.moment now a).endsOn? q).toList := by
  rw [attempts, past_next, List.filterMap_append, List.filterMap_eq_flatMap_toList _ [_],
    List.flatMap_singleton, attempts]

theorem events_next (q : Question) :
    (r.next now a).events q = r.events q ++ (r.moment now a).events q := by
  rw [events, past_next, List.flatMap_append, List.flatMap_singleton, events]

theorem extend_nil : r.extend [] = r := by
  rw [extend, List.append_nil]

theorem extend_concat (s : List (Instant × Group.Action)) :
    r.extend (s ++ [(now, a)]) = (r.extend s).next now a := by
  rw [extend, extend, next, List.append_assoc]

theorem ordered_next :
    (r.next now a).Ordered ↔ r.Ordered ∧ ∀ x ∈ r.schedule, x.1.nanos ≤ now.nanos := by
  simp [Ordered, next, List.pairwise_append]

theorem setups_next : (r.next now a).setups = r.setups := rfl

theorem induction {P : Run → Prop} (start : ∀ us, P ⟨us, []⟩)
    (next : ∀ r now a, P r → P (r.next now a)) (r : Run) : P r := by
  obtain ⟨us, s⟩ := r
  induction s using List.reverseRecOn with
  | nil => exact start us
  | append_singleton s x ih => exact next ⟨us, s⟩ x.1 x.2 ih

theorem extend_induction {P : Run → Prop} {r : Run} (start : P r)
    (next : ∀ s now a, P (r.extend s) → P ((r.extend s).next now a))
    (s : List (Instant × Group.Action)) : P (r.extend s) := by
  induction s using List.reverseRecOn with
  | nil => rwa [extend_nil]
  | append_singleton s x ih =>
    rw [extend_concat]
    exact next s x.1 x.2 ih

/-- Lookups are numbered in the order of their start. -/
theorem handlers_started (r : Run) : r.started.map Prod.fst = r.group.calls.map Call.handler := by
  induction r using Run.induction with
  | start us => rfl
  | next r now a ih =>
    rw [started_next, group_next, List.map_append, ih]
    cases a with
    | start i q =>
      cases hi : r.group.handlers[i]? <;> simp [Moment.opens?, moment, Group.step, Group.after, hi]
    | _ => simp [Moment.opens?, moment, Group.step, Group.handlers_takeTurn]

theorem length_started (r : Run) : r.started.length = r.group.calls.length := by
  simpa using congrArg List.length r.handlers_started

end Run

end SchemaCatalog
