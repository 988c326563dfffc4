import SchemaCatalog.Proofs.Flight.Traffic
import SchemaCatalog.Proofs.Handler.Own
import SchemaCatalog.Proofs.Run.Basic

/-!
# The two directions of a lookup

Lookups of contents and lookups of ids go the same way: a handler looks at what it keeps for itself,
then claims a flight, leads it or follows it, and keeps what it learns.

* `Direction`: what the way depends on, and what it relies on. `contents` and `ids` are the two
  directions.
* `Direction.start`, `Direction.await`, `Direction.finish`: the turns of the way.
* `Lookup.startContent_eq`, `Lookup.startId_eq` and their like: lookups go the way of their
  direction.
-/

namespace SchemaCatalog

/-- A direction of lookups: keys of type `κ`, about which values of type `α` are learned. -/
structure Direction (κ α : Type) where
  ask : κ → Question
  table : SharedCache → FlightTable κ α
  withTable : SharedCache → FlightTable κ α → SharedCache
  -- what a handler answers by itself
  own : Instant → Handler → κ → Option Answer × Handler
  -- a handler that has learned a value
  keep : Handler → κ → Option α → Handler
  answer : Option α → Answer
  replaceable : Instant → Handler → α → Bool
  path : Handler → κ → String
  -- what an answer of the registry, or its absence, makes of the value before
  attempt : Instant → Handler → κ → Option α → Option String → α × List Event
  lead : κ → Nat → Option α → Instant → Progress
  follow : κ → Nat → Progress
  -- what a lookup does in this direction
  part? : Progress → Option (Part κ α)
  -- what a handler keeps for itself is among the values of its keys
  Backed : (κ → List α) → Handler → Prop
  ask_inj : ∀ k k', ask k = ask k' → k = k'
  table_empty : table .empty = .empty
  table_withTable : ∀ c t, table (withTable c t) = t
  withTable_table : ∀ c, withTable c (table c) = c
  part?_lead : ∀ k f prev d, part? (lead k f prev d) = some (.lead k f prev)
  part?_follow : ∀ k f, part? (follow k f) = some (.follow k f)
  part?_answered : ∀ a, part? (.answered a) = none
  part?_cancelled : part? .cancelled = none
  lead_of_part? : ∀ p k f prev, part? p = some (.lead k f prev) → ∃ d, p = lead k f prev d
  follow_of_part? : ∀ p k f, part? p = some (.follow k f) → p = follow k f
  about?_lead : ∀ k f prev d, (lead k f prev d).about? = some (ask k)
  about?_follow : ∀ k f, (follow k f).about? = some (ask k)
  asks?_lead : ∀ k f prev d, (lead k f prev d).asks? = some (ask k)
  lead_of_asks? : ∀ p k, p.asks? = some (ask k) → ∃ f prev d, p = lead k f prev d
  deadline?_lead : ∀ k f prev d, (lead k f prev d).deadline? = some d
  deadline?_follow : ∀ k f, (follow k f).deadline? = none
  setup_own : ∀ now h k, (own now h k).2.setup = h.setup
  setup_keep : ∀ h k known, (keep h k known).setup = h.setup
  replaceable_of_setup : ∀ now h h', h'.setup = h.setup → replaceable now h' = replaceable now h
  path_of_setup : ∀ h h' k, h'.setup = h.setup → path h' k = path h k
  event_about : ∀ now h k prev body, ∀ e ∈ (attempt now h k prev body).2,
    e.fact.about = ask k ∧ e.catalogId = h.catalogId
  backed_setup : ∀ values u, Backed values (Setup.handler u)
  backed_mono : ∀ values values' h, (∀ k, values k ⊆ values' k) → Backed values h → Backed values' h
  backed_own : ∀ values now h k, Backed values h → Backed values (own now h k).2
  backed_keep : ∀ values h k known, Backed values h → (∀ v, known = some v → v ∈ values k) →
    Backed values (keep h k known)
  own_of_backed : ∀ values now h k a, Backed values h → (own now h k).1 = some a →
    ∃ v ∈ values k, answer (some v) = a ∧ replaceable now h v = false

namespace Handler

variable {h : Handler} {e : Event} {body : Option String}

theorem giveUpAt_of_setup {h' : Handler} (hs : h'.setup = h.setup) (now : Instant) :
    h'.giveUpAt now = h.giveUpAt now := by
  rw [giveUpAt, giveUpAt, show h'.config = h.config from congrArg Setup.config hs]

theorem about_of_mem_contentAttempt {id : SchemaId} {prev : Option CachedSchema}
    (he : e ∈ (h.contentAttempt id prev body).2) :
    e.fact.about = .content id ∧ e.catalogId = h.catalogId := by
  cases body <;> simp only [contentAttempt] at he <;> split at he
  case none.isTrue | some.isTrue =>
    rw [List.mem_singleton] at he
    subst he
    exact ⟨rfl, rfl⟩
  all_goals cases he

theorem about_of_mem_idAttempt {now : Instant} {key : Key} {prev : Option Mapping}
    (he : e ∈ (h.idAttempt now key prev body).2) :
    e.fact.about = .id key ∧ e.catalogId = h.catalogId := by
  unfold idAttempt at he
  dsimp only at he
  split at he <;> dsimp only at he <;> split at he
  · rw [List.mem_singleton] at he
    subst he
    exact ⟨rfl, rfl⟩
  · cases he
  · obtain rfl | he' := List.mem_cons.1 he
    · exact ⟨rfl, rfl⟩
    · split at he'
      · rw [List.mem_singleton] at he'
        subst he'
        exact ⟨rfl, rfl⟩
      · cases he'
  · cases he

end Handler

def contents : Direction SchemaId CachedSchema where
  ask := .content
  table := SharedCache.schemas
  withTable c t := { c with schemas := t }
  own _ h id := ((h.ownContent id).1.map fun s => .content (some s), (h.ownContent id).2)
  keep h id known := (h.keepContent id known).1
  answer known := .content (known.bind CachedSchema.content)
  replaceable _ _ := CachedSchema.refreshable
  path := Handler.contentPath
  attempt _ := Handler.contentAttempt
  lead := .leadContent
  follow := .followContent
  part?
    | .leadContent id f prev _ => some (.lead id f prev)
    | .followContent id f => some (.follow id f)
    | _ => none
  Backed := Handler.ContentsFrom
  ask_inj _ _ := Question.content.inj
  table_empty := rfl
  table_withTable _ _ := rfl
  withTable_table _ := rfl
  part?_lead _ _ _ _ := rfl
  part?_follow _ _ := rfl
  part?_answered _ := rfl
  part?_cancelled := rfl
  lead_of_part? p _ _ _ hp := by cases p <;> cases hp; exact ⟨_, rfl⟩
  follow_of_part? p _ _ hp := by cases p <;> cases hp; rfl
  about?_lead _ _ _ _ := rfl
  about?_follow _ _ := rfl
  asks?_lead _ _ _ _ := rfl
  lead_of_asks? p _ hp := by cases p <;> cases hp; exact ⟨_, _, _, rfl⟩
  deadline?_lead _ _ _ _ := rfl
  deadline?_follow _ _ := rfl
  setup_own _ _ _ := rfl
  setup_keep h id known := by
    unfold Handler.keepContent
    split <;> rfl
  replaceable_of_setup _ _ _ _ := rfl
  path_of_setup h h' id hs := by
    have hc : h'.config = h.config := congrArg Setup.config hs
    rw [Handler.contentPath, Handler.contentPath, hc]
  event_about _ h id prev body e he := Handler.about_of_mem_contentAttempt he
  backed_setup _ _ _ he := by cases he
  backed_mono _ _ _ := Handler.ContentsFrom.mono
  backed_own _ _ _ _ := Handler.ContentsFrom.own
  backed_keep _ _ _ _ := Handler.ContentsFrom.keep
  own_of_backed values _ h id a hh ha := by
    obtain ⟨s, hs, rfl⟩ := Option.map_eq_some_iff.1 ha
    obtain ⟨v, hv, hc⟩ := hh.of_own hs
    exact ⟨v, hv, by rw [Option.bind_some, hc], by rw [CachedSchema.refreshable, hc]; rfl⟩

def ids : Direction Key Mapping where
  ask := .id
  table := SharedCache.ids
  withTable c t := { c with ids := t }
  own now h key := ((h.ownId now key).1.map .id, (h.ownId now key).2)
  keep h key known := (h.keepId key known).1
  answer known := .id (known.bind Mapping.id)
  replaceable now h m := m.refreshable now h.config.maxAge
  path := Handler.idPath
  attempt now h := h.idAttempt now
  lead := .leadId
  follow := .followId
  part?
    | .leadId key f prev _ => some (.lead key f prev)
    | .followId key f => some (.follow key f)
    | _ => none
  Backed := Handler.IdsFrom
  ask_inj _ _ := Question.id.inj
  table_empty := rfl
  table_withTable _ _ := rfl
  withTable_table _ := rfl
  part?_lead _ _ _ _ := rfl
  part?_follow _ _ := rfl
  part?_answered _ := rfl
  part?_cancelled := rfl
  lead_of_part? p _ _ _ hp := by cases p <;> cases hp; exact ⟨_, rfl⟩
  follow_of_part? p _ _ hp := by cases p <;> cases hp; rfl
  about?_lead _ _ _ _ := rfl
  about?_follow _ _ := rfl
  asks?_lead _ _ _ _ := rfl
  lead_of_asks? p _ hp := by cases p <;> cases hp; exact ⟨_, _, _, rfl⟩
  deadline?_lead _ _ _ _ := rfl
  deadline?_follow _ _ := rfl
  setup_own now h key := by rw [Handler.ids_ownId]; rfl
  setup_keep h key known := by
    unfold Handler.keepId
    split
    · split <;> rfl
    · rfl
  replaceable_of_setup now h h' hs := by
    rw [show h'.config = h.config from congrArg Setup.config hs]
  path_of_setup h h' key hs := by
    rw [Handler.idPath, Handler.idPath, show h'.config = h.config from congrArg Setup.config hs]
  event_about now h key prev body e he := Handler.about_of_mem_idAttempt he
  backed_setup _ _ _ he := by cases he
  backed_mono _ _ _ := Handler.IdsFrom.mono
  backed_own _ _ _ _ := Handler.IdsFrom.own
  backed_keep _ _ _ _ := Handler.IdsFrom.keep
  own_of_backed values now h key a hh ha := by
    obtain ⟨id, hid, rfl⟩ := Option.map_eq_some_iff.1 ha
    obtain ⟨m, hm, rfl, hsome, hexp⟩ := hh.of_own hid
    refine ⟨m, hm, rfl, ?_⟩
    rw [Mapping.refreshable, hexp, Option.isNone_eq_false_iff.2 hsome]
    simp

@[simp] theorem contents_table (c : SharedCache) : contents.table c = c.schemas := rfl

@[simp] theorem ids_table (c : SharedCache) : ids.table c = c.ids := rfl

namespace Direction

variable {κ α : Type} [DecidableEq κ] (D : Direction κ α)

/-- Answers with a value that is known. -/
def tell (cache : SharedCache) (h : Handler) (k : κ) (known : Option α) (events : List Event) :
    Turn :=
  ⟨cache, D.keep h k known, .answered (D.answer known), none, events⟩

/-- Waits for a flight, unless it is settled. -/
def await (cache : SharedCache) (h : Handler) (k : κ) (f : Nat) : Turn :=
  match (D.table cache).poll f with
  | some known => D.tell cache h k known []
  | none => ⟨cache, h, D.follow k f, none, []⟩

def start (now : Instant) (cache : SharedCache) (h : Handler) (k : κ) : Turn :=
  match D.own now h k with
  | (some a, h) => ⟨cache, h, .answered a, none, []⟩
  | (none, h) =>
    match (D.table cache).claim k (D.replaceable now h) with
    | (.lead f prev, t) =>
      ⟨D.withTable cache t, h, D.lead k f prev (h.giveUpAt now), some (D.path h k), []⟩
    | (.follow f, t) => D.await (D.withTable cache t) h k f

/-- The turn of a leader that has heard from the registry, or knows that it will not. -/
def finish (now : Instant) (cache : SharedCache) (h : Handler) (k : κ) (f : Nat) (prev : Option α)
    (body : Option String) : Turn :=
  let known := D.attempt now h k prev body
  D.tell (D.withTable cache ((D.table cache).complete f known.1)) h k (some known.1) known.2

end Direction

namespace Lookup

variable (now : Instant) (cache : SharedCache) (h : Handler)

/-! ## Lookups go the way of their direction -/

theorem tellContent_eq (id : SchemaId) (known : Option CachedSchema) (events : List Event) :
    tellContent cache h id known events = contents.tell cache h id known events := by
  cases hs : known.bind CachedSchema.content <;>
    simp [tellContent, Direction.tell, contents, Handler.keepContent, hs]

theorem tellId_eq (key : Key) (known : Option Mapping) (events : List Event) :
    tellId cache h key known events = ids.tell cache h key known events := by
  cases known with
  | none => rfl
  | some m => cases hm : m.id <;> simp [tellId, Direction.tell, ids, Handler.keepId, hm]

theorem followContent_eq (id : SchemaId) (f : Nat) :
    followContent cache h id f = contents.await cache h id f := by
  cases hf : cache.schemas.poll f with
  | none => simp only [followContent, Direction.await, hf, contents]
  | some known => simp only [followContent, Direction.await, contents_table, hf, tellContent_eq]

theorem followId_eq (key : Key) (f : Nat) : followId cache h key f = ids.await cache h key f := by
  cases hf : cache.ids.poll f with
  | none => simp only [followId, Direction.await, hf, ids]
  | some known => simp only [followId, Direction.await, ids_table, hf, tellId_eq]

theorem startContent_eq (id : SchemaId) :
    startContent now cache h id = contents.start now cache h id := by
  rcases hown : h.ownContent id with ⟨_ | s, h'⟩
  · rcases hclaim : cache.schemas.claim id CachedSchema.refreshable with ⟨⟨f, prev⟩ | f, t⟩
    · simp [startContent, Direction.start, contents, hown, hclaim]
    · simp [startContent, Direction.start, followContent_eq, contents, hown, hclaim]
  · simp [startContent, Direction.start, contents, hown]

theorem startId_eq (key : Key) : startId now cache h key = ids.start now cache h key := by
  rcases hown : h.ownId now key with ⟨_ | s, h'⟩
  · rcases hclaim : cache.ids.claim key (fun m => m.refreshable now h'.config.maxAge)
      with ⟨⟨f, prev⟩ | f, t⟩
    · simp [startId, Direction.start, ids, hown, hclaim]
    · simp [startId, Direction.start, followId_eq, ids, hown, hclaim]
  · simp [startId, Direction.start, ids, hown]

theorem receive_leadContent (id : SchemaId) (f : Nat) (prev : Option CachedSchema) (d : Instant)
    (body : Option String) :
    receive now cache h (.leadContent id f prev d) body =
      contents.finish now cache h id f prev body := by
  simp only [receive, tellContent_eq]
  rfl

theorem receive_leadId (key : Key) (f : Nat) (prev : Option Mapping) (d : Instant)
    (body : Option String) :
    receive now cache h (.leadId key f prev d) body = ids.finish now cache h key f prev body := by
  simp only [receive, tellId_eq]
  rfl

end Lookup

end SchemaCatalog
