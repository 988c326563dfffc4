import SchemaCatalog.Proofs.Run.Sound

/-!
# Handlers without own entries

What handlers keep for themselves is left out, to see what remains.

* `Handler.bare`, `Turn.bare`, `Group.bare`: a handler, a turn and a group with own entries left out.
* `Direction.Blind`: own entries decide about own answers only.
* `Direction.Echoes`: what a handler answers by itself, it would also learn from the shared cache.
* **`Group.step_bare`**: then a step does the same whether own entries are left out before or after.
-/

namespace SchemaCatalog

def Setup.withCapacity (u : Setup) (n : UInt64) : Setup :=
  { u with config := u.config.withCacheCapacity n }

/-- The handler with its own entries left out, and with them how many there may be. -/
def Handler.bare (h : Handler) : Handler := (h.setup.withCapacity 0).handler

def Turn.bare (t : Turn) : Turn := { t with handler := t.handler.bare }

def Group.bare (g : Group) : Group := { g with handlers := g.handlers.map Handler.bare }

theorem Handler.bare_congr {h h' : Handler} (hs : h'.setup = h.setup) : h'.bare = h.bare := by
  rw [bare, bare, hs]

@[simp] theorem Handler.bare_bare (h : Handler) : h.bare.bare = h.bare := rfl

theorem Handler.giveUpAt_bare (h : Handler) (now : Instant) : h.bare.giveUpAt now = h.giveUpAt now :=
  rfl

/-! ## Turns -/

/-- Own entries decide about own answers only. -/
structure Direction.Blind {κ α : Type} (D : Direction κ α) : Prop where
  own : ∀ now (h : Handler) k, (D.own now h.bare k).1 = none
  replaceable : ∀ now (h : Handler), D.replaceable now h.bare = D.replaceable now h
  path : ∀ (h : Handler) k, D.path h.bare k = D.path h k
  attempt : ∀ now (h : Handler), D.attempt now h.bare = D.attempt now h

theorem contents_blind : contents.Blind where
  own _ _ _ := rfl
  replaceable _ _ := rfl
  path _ _ := rfl
  attempt _ _ := rfl

theorem ids_blind : ids.Blind where
  own _ _ _ := rfl
  replaceable _ _ := rfl
  path _ _ := rfl
  attempt _ _ := rfl

namespace Direction

variable {κ α : Type}

/-- What the handler answers by itself, the cache would tell it, too. -/
def Echoes [DecidableEq κ] (D : Direction κ α) (now : Instant) (cache : SharedCache) (h : Handler) :
    Prop :=
  ∀ k b, (D.own now h k).1 = some b → ∃ v, (D.table cache).standing k = .ready v ∧
    D.replaceable now h v = false ∧ D.answer (some v) = b

variable [DecidableEq κ] {D : Direction κ α} {now : Instant} {cache : SharedCache} {h : Handler}
  {k : κ}

omit [DecidableEq κ] in
theorem tell_bare (D : Direction κ α) (cache : SharedCache) (h h' : Handler) (hh : h'.bare = h.bare)
    (k : κ) (known : Option α) (events : List Event) :
    (D.tell cache h' k known events).bare = (D.tell cache h k known events).bare := by
  have hkeep : (D.keep h' k known).bare = (D.keep h k known).bare := by
    rw [Handler.bare_congr (D.setup_keep h' k known), Handler.bare_congr (D.setup_keep h k known), hh]
  rw [Turn.bare, Turn.bare, tell, tell, hkeep]

omit [DecidableEq κ] in
theorem await_bare (D : Direction κ α) (cache : SharedCache) (h h' : Handler)
    (hh : h'.bare = h.bare) (k : κ) (f : Nat) :
    (D.await cache h' k f).bare = (D.await cache h k f).bare := by
  cases hp : (D.table cache).poll f with
  | none =>
    simp only [await, hp, Turn.bare, hh]
  | some known =>
    simp only [await, hp]
    exact D.tell_bare cache h h' hh k known []

omit [DecidableEq κ] in
theorem own_bare (D : Direction κ α) (now : Instant) (h : Handler) (k : κ) :
    (D.own now h k).2.bare = h.bare :=
  Handler.bare_congr (D.setup_own now h k)

theorem Blind.start_bare_of_free (hD : D.Blind) (hown : (D.own now h k).1 = none)
    (free : (D.table cache).standing k ≠ .pending)
    (old : ∀ v, (D.table cache).standing k = .ready v → D.replaceable now h v = true) :
    (D.start now cache h.bare k).bare = (D.start now cache h k).bare := by
  have hold : ∀ v, (D.table cache).standing k = .ready v → D.replaceable now h.bare v = true := by
    intro v hv
    rw [hD.replaceable]
    exact old v hv
  rw [D.start_of_free hown free old, D.start_of_free (hD.own now h k) free hold, hD.path,
    h.giveUpAt_bare, Turn.bare, Turn.bare, D.own_bare, D.own_bare, Handler.bare_bare]

theorem Blind.start_bare (hD : D.Blind) (hecho : D.Echoes now cache h) :
    (D.start now cache h.bare k).bare = (D.start now cache h k).bare := by
  have hmiss : (D.own now h.bare k).1 = none := hD.own now h k
  have hbare : (D.own now h.bare k).2.bare = (D.own now h k).2.bare := by
    rw [D.own_bare, D.own_bare, Handler.bare_bare]
  cases hown : (D.own now h k).1 with
  | some b =>
    -- the answer comes from the cache instead
    obtain ⟨v, ready, good, rfl⟩ := hecho k b hown
    rw [← hD.replaceable] at good
    have hkeep : (D.keep (D.own now h.bare k).2 k (some v)).bare = (D.own now h k).2.bare := by
      rw [Handler.bare_congr (D.setup_keep _ k (some v)), hbare]
    rw [D.start_of_own hown, D.start_of_kept hmiss ready good, tell, Turn.bare, Turn.bare, hkeep]
  | none =>
    cases hs : (D.table cache).standing k with
    | pending =>
      obtain ⟨f, hc, hf⟩ :=
        FlightTable.exists_current_of_standing (t := D.table cache) (k := k) (by simp [hs])
      rw [hs] at hf
      rw [D.start_of_pending hown hc hf, D.start_of_pending hmiss hc hf, Turn.bare, Turn.bare, hbare]
    | ready v =>
      cases hr : D.replaceable now h v with
      | false =>
        have hr' : D.replaceable now h.bare v = false := by rw [hD.replaceable, hr]
        rw [D.start_of_kept hown hs hr, D.start_of_kept hmiss hs hr']
        exact D.tell_bare cache _ _ hbare k (some v) []
      | true =>
        have hold : ∀ w, (D.table cache).standing k = .ready w → D.replaceable now h w = true := by
          simp [hs, hr]
        exact hD.start_bare_of_free hown (by simp [hs]) hold
    | abandoned => exact hD.start_bare_of_free hown (by simp [hs]) (by simp [hs])

omit [DecidableEq κ] in
theorem Blind.finish_bare (hD : D.Blind) (f : Nat) (prev : Option α) (body : Option String) :
    (D.finish now cache h.bare k f prev body).bare = (D.finish now cache h k f prev body).bare := by
  rw [finish, finish, hD.attempt]
  exact D.tell_bare _ _ _ h.bare_bare k _ _

end Direction

namespace Lookup

variable {now : Instant} {cache : SharedCache} {h : Handler}

theorem start_bare (hc : contents.Echoes now cache h) (hi : ids.Echoes now cache h) (q : Question) :
    (start now cache h.bare q).bare = (start now cache h q).bare := by
  cases q with
  | content id =>
    rw [start, start, startContent_eq now, startContent_eq now]
    exact contents_blind.start_bare hc
  | id key =>
    rw [start, start, startId_eq, startId_eq]
    exact ids_blind.start_bare hi

theorem receive_bare (now : Instant) (cache : SharedCache) (h : Handler) (p : Progress)
    (body : Option String) :
    (receive now cache h.bare p body).bare = (receive now cache h p body).bare := by
  cases p with
  | leadContent id f prev d =>
    rw [receive_leadContent, receive_leadContent]
    exact contents_blind.finish_bare f prev body
  | leadId key f prev d =>
    rw [receive_leadId, receive_leadId]
    exact ids_blind.finish_bare f prev body
  | _ => rfl

theorem expire_bare (now : Instant) (cache : SharedCache) (h : Handler) (p : Progress) :
    (expire now cache h.bare p).bare = (expire now cache h p).bare := by
  unfold expire
  split
  · exact receive_bare now cache h p none
  · rfl

theorem resume_bare (cache : SharedCache) (h : Handler) (p : Progress) :
    (resume cache h.bare p).bare = (resume cache h p).bare := by
  cases p with
  | followContent id f =>
    rw [resume, resume, followContent_eq, followContent_eq]
    exact contents.await_bare cache h h.bare h.bare_bare id f
  | followId key f =>
    rw [resume, resume, followId_eq, followId_eq]
    exact ids.await_bare cache h h.bare h.bare_bare key f
  | _ => rfl

theorem abandon_bare (cache : SharedCache) (h : Handler) (p : Progress) :
    (abandon cache h.bare p).bare = (abandon cache h p).bare := by
  cases p <;> rfl

end Lookup

/-! ## Steps -/

namespace Group

variable {g : Group} {now : Instant} {c i : Nat} {h : Handler} {t t' : Turn}

theorem getElem?_handlers_bare (g : Group) (i : Nat) :
    g.bare.handlers[i]? = (g.handlers[i]?).map Handler.bare :=
  List.getElem?_map

/-- Turns that differ in own entries only have the same outcome. -/
theorem turned_bare (ht : t'.bare = t.bare) (c i : Nat) :
    (g.bare.turned c i t').1.bare = (g.turned c i t).1.bare ∧
      (g.bare.turned c i t').2 = (g.turned c i t).2 := by
  simp only [Turn.bare, Turn.mk.injEq] at ht
  obtain ⟨hcache, hh, hp, hreq, hev⟩ := ht
  have hmap : ((g.handlers.map Handler.bare).set i t'.handler).map Handler.bare =
      (g.handlers.set i t.handler).map Handler.bare := by
    rw [List.map_set, List.map_set, hh, List.map_map]
    rfl
  simp only [turned, put, bare, hcache, hp, hreq, hev, hmap, and_self]

@[simp] theorem bare_bare (g : Group) : g.bare.bare = g.bare := by
  simp only [bare, List.map_map, Function.comp_def, Handler.bare_bare]

theorem takeTurn_bare {turn : Handler → Progress → Turn}
    (hturn : ∀ h p, (turn h.bare p).bare = (turn h p).bare) (c : Nat) :
    (g.bare.takeTurn c turn).1.bare = (g.takeTurn c turn).1.bare ∧
      (g.bare.takeTurn c turn).2 = (g.takeTurn c turn).2 := by
  have hcalls : g.bare.calls[c]? = g.calls[c]? := rfl
  cases hc : g.calls[c]? with
  | none => simp only [takeTurn, hcalls, hc, bare_bare, and_self]
  | some call =>
    obtain ⟨i, p⟩ := call
    have hi' := g.getElem?_handlers_bare i
    cases hi : g.handlers[i]? with
    | none =>
      rw [hi, Option.map_none] at hi'
      simp only [takeTurn, hcalls, hc, hi, hi', bare_bare, and_self]
    | some h =>
      rw [hi, Option.map_some] at hi'
      rw [takeTurn_eq hc hi, takeTurn_eq (hcalls.trans hc) hi']
      exact turned_bare (hturn h p) c i

/-- **A step does the same whether own entries are left out before or after**, if all own answers
could come from the cache. -/
theorem step_bare (a : Action)
    (hcontents : ∀ h ∈ g.handlers, contents.Echoes now g.cache h)
    (hids : ∀ h ∈ g.handlers, ids.Echoes now g.cache h) :
    (g.bare.step now a).1.bare = (g.step now a).1.bare ∧
      (g.bare.step now a).2 = (g.step now a).2 := by
  cases a with
  | start i q =>
    have hget := g.getElem?_handlers_bare i
    cases hh : g.handlers[i]? with
    | none =>
      rw [hh, Option.map_none] at hget
      simp only [step, hh, hget, bare_bare, and_self]
    | some h =>
      rw [hh, Option.map_some] at hget
      rw [step_start hh, step_start hget]
      have hmem := List.mem_of_getElem? hh
      exact turned_bare (Lookup.start_bare (hcontents h hmem) (hids h hmem) q) g.calls.length i
  | receive c body => exact takeTurn_bare (fun h p => Lookup.receive_bare now g.cache h p body) c
  | expire c => exact takeTurn_bare (fun h p => Lookup.expire_bare now g.cache h p) c
  | resume c => exact takeTurn_bare (fun h p => Lookup.resume_bare g.cache h p) c
  | cancel c => exact takeTurn_bare (fun h p => Lookup.abandon_bare g.cache h p) c

end Group

end SchemaCatalog
