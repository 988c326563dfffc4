import SchemaCatalog.Catalog.Lookup

/-!
# Handlers with one shared cache

* `Group`: handlers with their shared cache, and every lookup ever started on one of them.
* `Group.Action`: what can happen next: a lookup starts, hears from the registry, runs out of time,
  resumes or is given up.
* `Group.step`: what it leads to. An action that does not fit the lookup changes nothing.
-/

namespace SchemaCatalog

structure Call where
  handler : Nat
  progress : Progress
  deriving DecidableEq, Repr

/-- Handlers with one shared cache, and all lookups in the order of their start. -/
structure Group where
  cache : SharedCache
  handlers : List Handler
  calls : List Call
  deriving Repr

namespace Group

/-- Handlers that have not learned anything yet. -/
def ofHandlers (handlers : List Handler) : Group := ⟨.empty, handlers, []⟩

/-- What can happen next. A leader hears from the registry, or its timer runs off; a follower looks
at its flight. -/
inductive Action
  | start (handler : Nat) (question : Question)
  | receive (call : Nat) (body : Option String)
  | expire (call : Nat)
  | resume (call : Nat)
  | cancel (call : Nat)
  deriving DecidableEq, Repr

/-- What the world sees of a step: the path for which the registry is asked, and the events in their
order. -/
structure Effect where
  request : Option String
  events : List Event
  deriving DecidableEq, Repr

def Effect.none : Effect := ⟨.none, []⟩

/-- Takes over the cache and the handler after a turn. -/
def after (g : Group) (handler : Nat) (t : Turn) (calls : List Call) : Group × Effect :=
  (⟨t.cache, g.handlers.set handler t.handler, calls⟩, ⟨t.request, t.events⟩)

/-- A turn of a lookup that was started before. -/
def takeTurn (g : Group) (call : Nat) (turn : Handler → Progress → Turn) : Group × Effect :=
  match g.calls[call]? with
  | some c =>
    match g.handlers[c.handler]? with
    | some h =>
      let t := turn h c.progress
      g.after c.handler t (g.calls.set call { c with progress := t.progress })
    | none => (g, .none)
  | none => (g, .none)

/-- What an action leads to at the instant `now`. -/
def step (now : Instant) (g : Group) : Action → Group × Effect
  | .start handler question =>
    match g.handlers[handler]? with
    | some h =>
      let t := Lookup.start now g.cache h question
      g.after handler t (g.calls ++ [⟨handler, t.progress⟩])
    | none => (g, .none)
  | .receive call body => g.takeTurn call fun h p => Lookup.receive now g.cache h p body
  | .expire call => g.takeTurn call fun h p => Lookup.expire now g.cache h p
  | .resume call => g.takeTurn call fun h p => Lookup.resume g.cache h p
  | .cancel call => g.takeTurn call fun h p => Lookup.abandon g.cache h p

def progress? (g : Group) (call : Nat) : Option Progress := (g.calls[call]?).map Call.progress

end Group

end SchemaCatalog
