import SchemaCatalog.Catalog.Handler
import SchemaCatalog.Proofs.Lru.Calls

/-!
# What a handler keeps for itself

* `Handler.ContentsFrom`, `Handler.IdsFrom`: what a handler keeps was learned. Both survive a look
  at the own entries and the keeping of a learned value.
* `Handler.ContentsFrom.of_own`, `Handler.IdsFrom.of_own`: an own answer was learned for the very
  key that is asked, also where keys share a checksum.
-/

namespace SchemaCatalog

namespace Handler

variable {h : Handler}

/-! ## Contents -/

/-- The contents that the handler keeps are among the values of their ids. -/
def ContentsFrom (values : SchemaId → List CachedSchema) (h : Handler) : Prop :=
  ∀ e ∈ h.schemas.entries, ∃ v ∈ values e.1, v.content = some e.2

section

variable {values values' : SchemaId → List CachedSchema} {id : SchemaId}

theorem ContentsFrom.mono (hv : ∀ id, values id ⊆ values' id) (hh : h.ContentsFrom values) :
    h.ContentsFrom values' := by
  intro e he
  obtain ⟨v, hmem, hc⟩ := hh e he
  exact ⟨v, hv e.1 hmem, hc⟩

theorem ContentsFrom.own (hh : h.ContentsFrom values) :
    (h.ownContent id).2.ContentsFrom values :=
  fun e he => hh e (Lru.mem_of_mem_get he)

theorem ContentsFrom.of_own {s : String} (hh : h.ContentsFrom values)
    (hs : (h.ownContent id).1 = some s) : ∃ v ∈ values id, v.content = some s :=
  hh (id, s) (Lru.mem_of_get hs)

theorem ContentsFrom.keep {known : Option CachedSchema} (hh : h.ContentsFrom values)
    (hk : ∀ v, known = some v → v ∈ values id) :
    (h.keepContent id known).1.ContentsFrom values := by
  cases hs : known.bind CachedSchema.content with
  | none => simpa only [keepContent, hs] using hh
  | some s =>
    obtain ⟨v, hv, hc⟩ := Option.bind_eq_some_iff.1 hs
    intro e he
    simp only [keepContent, hs] at he
    obtain rfl | he' := Lru.mem_of_mem_insert he
    · exact ⟨v, hk v hv, hc⟩
    · exact hh e he'

end

/-! ## Ids -/

/-- The mappings that the handler keeps have an id and are among the values of their pairs. -/
def IdsFrom (values : Key → List Mapping) (h : Handler) : Prop :=
  ∀ e ∈ h.ids.entries, e.2.2 ∈ values e.2.1 ∧ e.2.2.id.isSome

section

variable {values values' : Key → List Mapping} {key : Key} {now : Instant}

theorem IdsFrom.mono (hv : ∀ key, values key ⊆ values' key) (hh : h.IdsFrom values) :
    h.IdsFrom values' :=
  fun e he => ⟨hv e.2.1 (hh e he).1, (hh e he).2⟩

theorem ids_ownId (h : Handler) (now : Instant) (key : Key) :
    (h.ownId now key).2 = { h with ids := (h.ids.get key.checksum).2 } := by
  unfold ownId
  dsimp only
  split
  · split <;> rfl
  · rfl

theorem IdsFrom.own (hh : h.IdsFrom values) : (h.ownId now key).2.IdsFrom values := by
  rw [ids_ownId]
  exact fun e he => hh e (Lru.mem_of_mem_get he)

theorem IdsFrom.of_own {id : Option SchemaId} (hh : h.IdsFrom values)
    (hid : (h.ownId now key).1 = some id) :
    ∃ m ∈ values key, m.id = id ∧ m.id.isSome ∧ m.expired now h.config.maxAge = false := by
  unfold ownId at hid
  dsimp only at hid
  split at hid
  · next k m hget =>
    split at hid
    · next hfresh =>
      simp only [Bool.and_eq_true, Bool.not_eq_true', Key.isFor_iff] at hfresh
      obtain ⟨rfl, hexp⟩ := hfresh
      obtain ⟨hmem, hsome⟩ := hh _ (Lru.mem_of_get hget)
      exact ⟨m, hmem, Option.some.inj hid, hsome, hexp⟩
    · cases hid
  · cases hid

theorem IdsFrom.keep {known : Option Mapping} (hh : h.IdsFrom values)
    (hk : ∀ m, known = some m → m ∈ values key) : (h.keepId key known).1.IdsFrom values := by
  cases known with
  | none => exact hh
  | some m =>
    cases hid : m.id with
    | none => simpa only [keepId, hid] using hh
    | some id =>
      intro e he
      simp only [keepId, hid] at he
      obtain rfl | he' := Lru.mem_of_mem_insert he
      · exact ⟨hk m rfl, Option.isSome_of_eq_some hid⟩
      · exact hh e he'

end

end Handler

end SchemaCatalog
