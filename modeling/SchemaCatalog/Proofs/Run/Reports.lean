import SchemaCatalog.Proofs.Run.Mappings
import SchemaCatalog.Proofs.Run.Permanence

/-!
# What is reported, and when

* `Attempt.report`: what an attempt about a pair reports after the attempts before it.
* `Run.events_id`: it reports that. `Run.edges_alternate`: so failures and recoveries alternate.
* `Run.contentReports`: what is reported about a schema ends with its content.
* `Run.attempt_of_event`: each event belongs to the attempt that ends with it.
* **`Run.events_edge_triggered`**: only changes are reported.
-/

namespace SchemaCatalog

/-! ## The rule for pairs -/

namespace Attempt

def lastFailed (l : List Attempt) : Bool := l.getLast?.any fun t => t.id?.isNone

/-- The id of the last attempt that found one. -/
def lastId? (l : List Attempt) : Option SchemaId := (l.filterMap Attempt.id?).getLast?

/-- What attempt `t` about `key` reports after the attempts before it: a failure after a success or
at first, with the last id if there is one, and a success after a failure. -/
def report (key : Key) (before : List Attempt) (t : Attempt) : List Event.Fact :=
  match t.id? with
  | some _ => if lastFailed before then [.retrievedVersion key] else []
  | none =>
    if lastFailed before then []
    else .unretrievableVersion key :: ((lastId? before).map (Event.Fact.staleVersion key)).toList

theorem lastFailed_concat (l : List Attempt) (t : Attempt) :
    lastFailed (l ++ [t]) = t.id?.isNone := by
  rw [lastFailed, List.getLast?_concat, Option.any_some]

theorem lastFailed_eq (l : List Attempt) : lastFailed l = decide (streak l ≠ 0) := by
  induction l using List.reverseRecOn with
  | nil => rfl
  | append_singleton l t ih =>
    rw [lastFailed_concat]
    cases h : t.id? with
    | some n => rw [streak_concat_of_some l h]; rfl
    | none => rw [streak_concat_of_none l h]; exact (decide_eq_true (Nat.succ_ne_zero _)).symm

theorem idAttempt_snd (key : Key) (before : List Attempt) (t : Attempt) :
    (t.handler.idAttempt t.ended key (Mapping.after key before) t.body).2 =
      (report key before t).map (Event.mk t.handler.catalogId) := by
  have hfailing : Mapping.failing (Mapping.after key before) = lastFailed before := by
    rw [Mapping.failing_after, lastFailed_eq]
  cases h : t.id? with
  | some n =>
    rw [t.handler.idAttempt_of_found _ _ _ h, hfailing, report, h]
    cases lastFailed before <;> rfl
  | none =>
    have hlast : (Mapping.after key before).bind Mapping.id = lastId? before :=
      Mapping.id_after key before
    rw [t.handler.idAttempt_of_lost _ _ _ h, hfailing, hlast, report, h]
    cases lastFailed before <;> cases lastId? before <;> rfl

end Attempt

namespace Run

variable {r : Run} {now : Instant} {a : Group.Action} {key : Key} {id : SchemaId}

theorem events_id (r : Run) (now : Instant) (a : Group.Action) (key : Key) :
    (r.moment now a).events (.id key) =
      match (r.moment now a).endsOn? (.id key) with
      | some t =>
        (Attempt.report key (r.attempts (.id key)) t).map (Event.mk t.handler.catalogId)
      | none => [] := by
  have h : (r.moment now a).events (.id key) = _ := ids_complete.events_moment r now a key
  have hask : ids.ask key = .id key := rfl
  rw [h, hask]
  cases (r.moment now a).endsOn? (.id key) with
  | none => rfl
  | some t => exact Attempt.idAttempt_snd key (r.attempts (.id key)) t

/-! ## Failures and recoveries alternate -/

/-- The reports about a pair, without those of stale ids. -/
def edges (r : Run) (key : Key) : List Event.Fact :=
  ((r.events (.id key)).map Event.fact).filter fun x =>
    x = .unretrievableVersion key ∨ x = .retrievedVersion key

theorem edges_next_of_none (h : (r.moment now a).endsOn? (.id key) = none) :
    (r.next now a).edges key = r.edges key := by
  rw [edges, r.events_next, events_id, h, List.append_nil, edges]

/-- Only a change of the outcome is reported. -/
theorem edges_next_of_some {t : Attempt} (h : (r.moment now a).endsOn? (.id key) = some t) :
    (r.next now a).edges key = r.edges key ++
      if t.id?.isNone = Attempt.lastFailed (r.attempts (.id key)) then []
      else [if t.id?.isNone then .unretrievableVersion key else .retrievedVersion key] := by
  rw [edges, r.events_next, List.map_append, List.filter_append, events_id, h, edges]
  simp only [List.map_map, Attempt.report]
  congr 1
  cases t.id? with
  | some n => cases Attempt.lastFailed (r.attempts (.id key)) <;> simp
  | none =>
    cases Attempt.lastFailed (r.attempts (.id key)) with
    | true => simp
    | false => cases Attempt.lastId? (r.attempts (.id key)) <;> simp

theorem eq_of_getElem?_concat {β : Type} {f : Nat → β} {l : List β} {x : β}
    (hl : ∀ (n : Nat) (y : β), l[n]? = some y → y = f n) (hx : x = f l.length) (n : Nat) (y : β)
    (hy : (l ++ [x])[n]? = some y) : y = f n := by
  obtain hlt | rfl | hgt := Nat.lt_trichotomy n l.length
  · rw [List.getElem?_append_left hlt] at hy
    exact hl n y hy
  · rw [List.getElem?_concat_length, Option.some.injEq] at hy
    exact hy ▸ hx
  · rw [List.getElem?_eq_none (by rw [List.length_append, List.length_singleton]; omega)] at hy
    cases hy

/-- The report at a place in the sequence: failures at even places, recoveries at odd ones. -/
def edge (key : Key) (n : Nat) : Event.Fact :=
  if n % 2 = 0 then .unretrievableVersion key else .retrievedVersion key

/-- Failures and recoveries alternate, and the last one tells how the last attempt ended. -/
theorem edges_alternate (r : Run) (key : Key) :
    (∀ (n : Nat) (x : Event.Fact), (r.edges key)[n]? = some x → x = edge key n) ∧
      Attempt.lastFailed (r.attempts (.id key)) = decide ((r.edges key).length % 2 = 1) := by
  induction r using Run.induction with
  | start us => exact ⟨(fun n x hx => by cases hx), rfl⟩
  | next r now a ih =>
    obtain ⟨halt, hlast⟩ := ih
    rw [r.attempts_next]
    cases hends : (r.moment now a).endsOn? (.id key) with
    | none =>
      rw [edges_next_of_none hends, Option.toList_none, List.append_nil]
      exact ⟨halt, hlast⟩
    | some t =>
      rw [edges_next_of_some hends, Option.toList_some, Attempt.lastFailed_concat, hlast]
      by_cases hsame : t.id?.isNone = decide ((r.edges key).length % 2 = 1)
      · rw [if_pos hsame, List.append_nil]
        exact ⟨halt, hsame⟩
      · -- the outcome has changed, and so has the parity
        rw [if_neg hsame]
        have hflip : t.id?.isNone = decide ((r.edges key).length % 2 = 0) := by
          rw [Bool.eq_not_of_ne hsame, ← decide_not]
          exact decide_eq_decide.2 (by omega)
        refine ⟨eq_of_getElem?_concat halt ?_, ?_⟩
        · rw [edge, hflip]
          simp only [decide_eq_true_eq]
        · rw [hflip, List.length_append, List.length_singleton]
          exact decide_eq_decide.2 (by omega)

end Run

/-! ## What is reported about a schema -/

/-- Whether the attempts have failed so far. -/
def CachedSchema.failing (known : Option CachedSchema) : Bool :=
  ((known.map retry).getD .initial).isFailing

namespace Handler

variable (h : Handler) (id : SchemaId) (prev : Option CachedSchema)

theorem contentAttempt_of_some (s : String) :
    h.contentAttempt id prev (some s) =
      (⟨some s, .initial⟩,
        if CachedSchema.failing prev then [⟨h.catalogId, .retrievedSchema id⟩] else []) :=
  rfl

theorem contentAttempt_of_none :
    h.contentAttempt id prev none =
      (⟨none, ((prev.map CachedSchema.retry).getD .initial).fail.1⟩,
        if CachedSchema.failing prev then [] else [⟨h.catalogId, .unretrievableSchema id⟩]) := by
  rw [contentAttempt]
  dsimp only
  rw [RetryState.fail_snd, CachedSchema.failing]
  cases ((prev.map CachedSchema.retry).getD .initial).isFailing <;> rfl

end Handler

namespace Run

variable {r : Run} {now : Instant} {a : Group.Action} {id : SchemaId}

/-- What has been reported about a schema, by how its attempts went: none has come to its end, all
have failed, the first one has brought content, or one has after failures. -/
inductive ContentReports (r : Run) (id : SchemaId) : List Event.Fact → Prop
  | quiet (h : CachedSchema.failing (contents.values r id).getLast? = false) :
      ContentReports r id []
  | failed (h : CachedSchema.failing (contents.values r id).getLast? = true) :
      ContentReports r id [.unretrievableSchema id]
  | found {t : Attempt} {s : String} (ht : t ∈ r.attempts (.content id)) (hs : t.body = some s) :
      ContentReports r id []
  | recovered {t : Attempt} {s : String} (ht : t ∈ r.attempts (.content id))
      (hs : t.body = some s) :
      ContentReports r id [.unretrievableSchema id, .retrievedSchema id]

theorem ContentReports.next_of_none {xs : List Event.Fact} (hx : ContentReports r id xs)
    (h : (r.moment now a).endsOn? (.content id) = none) :
    ContentReports (r.next now a) id xs := by
  have hv : contents.values (r.next now a) id = contents.values r id :=
    Direction.values_next_of_none h
  have hatt : (r.next now a).attempts (.content id) = r.attempts (.content id) := by
    rw [r.attempts_next, h, Option.toList_none, List.append_nil]
  cases hx with
  | quiet hf => exact .quiet (hv ▸ hf)
  | failed hf => exact .failed (hv ▸ hf)
  | found ht hs => exact .found (hatt ▸ ht) hs
  | recovered ht hs => exact .recovered (hatt ▸ ht) hs

/-- Once there is content, no attempt about the schema ends any more. -/
theorem ContentReports.next_of_some {xs : List Event.Fact} (hx : ContentReports r id xs)
    {t : Attempt} (h : (r.moment now a).endsOn? (.content id) = some t) :
    ContentReports (r.next now a) id
      (xs ++ (t.handler.contentAttempt id (contents.values r id).getLast? t.body).2.map
        Event.fact) := by
  have hsettled : ∀ {t' : Attempt} {s : String}, t' ∈ r.attempts (.content id) →
      t'.body ≠ some s := by
    intro t' s ht' hs
    have hends : (r.moment now a).endsOn? (.content id) = none := (settled_self ht' hs).endsOn?
    rw [h] at hends
    cases hends
  have ht : t ∈ (r.next now a).attempts (.content id) := by
    rw [r.attempts_next, h]
    exact List.mem_append_right _ (List.mem_singleton_self _)
  have hlast : (contents.values (r.next now a) id).getLast? =
      some (t.handler.contentAttempt id (contents.values r id).getLast? t.body).1 := by
    rw [Direction.values_next_of_some h, List.getLast?_concat]
    rfl
  cases hb : t.body with
  | some s =>
    rw [Handler.contentAttempt_of_some]
    cases hx with
    | quiet hf => rw [hf]; exact .found ht hb
    | failed hf => rw [hf]; exact .recovered ht hb
    | found ht' hs => exact absurd hs (hsettled ht')
    | recovered ht' hs => exact absurd hs (hsettled ht')
  | none =>
    have hfailing : CachedSchema.failing (contents.values (r.next now a) id).getLast? = true := by
      rw [hlast, hb, Handler.contentAttempt_of_none]
      exact RetryState.isFailing_fail _
    rw [Handler.contentAttempt_of_none]
    cases hx with
    | quiet hf => rw [hf]; exact .failed hfailing
    | failed hf => rw [hf]; exact .failed hfailing
    | found ht' hs => exact absurd hs (hsettled ht')
    | recovered ht' hs => exact absurd hs (hsettled ht')

theorem contentReports (r : Run) (id : SchemaId) :
    ContentReports r id ((r.events (.content id)).map Event.fact) := by
  induction r using Run.induction with
  | start us => exact .quiet rfl
  | next r now a ih =>
    have hevents : (r.moment now a).events (.content id) = _ :=
      contents_complete.events_moment r now a id
    rw [r.events_next, List.map_append, hevents]
    cases h : (r.moment now a).endsOn? (contents.ask id) with
    | none =>
      rw [List.map_nil, List.append_nil]
      exact ih.next_of_none h
    | some t => exact ih.next_of_some h

/-- What is reported about a schema is at most one failure and then one recovery. -/
theorem contentReports_prefix (r : Run) (id : SchemaId) :
    (r.events (.content id)).map Event.fact <+:
      [.unretrievableSchema id, .retrievedSchema id] := by
  generalize hxs : (r.events (.content id)).map Event.fact = xs
  have hx : ContentReports r id xs := hxs ▸ r.contentReports id
  cases hx with
  | quiet | found => exact List.nil_prefix
  | failed => exact ⟨[.retrievedSchema id], rfl⟩
  | recovered => exact List.prefix_refl _

/-! ## Reports belong to attempts -/

theorem attempt_of_event {e : Event} (he : e ∈ (r.moment now a).effect.events) :
    ∃ t, (r.moment now a).ends? = some (e.fact.about, t) ∧ e.catalogId = t.handler.catalogId := by
  have hmem : e ∈ (r.moment now a).events e.fact.about :=
    List.mem_filter.2 ⟨he, decide_eq_true rfl⟩
  cases hq : e.fact.about with
  | content id =>
    rw [hq] at hmem
    exact contents_complete.attempt_of_event hmem
  | id key =>
    rw [hq] at hmem
    exact ids_complete.attempt_of_event hmem

/-- **Only changes are reported.** Each event belongs to the attempt that ends with it and carries
the number of its handler. An attempt about a pair reports a failure, with the last id if there is
one, unless the attempt before it failed too, and a success only if the attempt before it failed; so
failures and recoveries alternate. About a schema there is at most one failure and then one
recovery. -/
theorem events_edge_triggered (r : Run) :
    (∀ now a, ∀ e ∈ (r.moment now a).effect.events, ∃ t,
      (r.moment now a).ends? = some (e.fact.about, t) ∧ e.catalogId = t.handler.catalogId) ∧
    (∀ now a key t, (r.moment now a).endsOn? (.id key) = some t →
      ((r.moment now a).events (.id key)).map Event.fact =
        Attempt.report key (r.attempts (.id key)) t) ∧
    (∀ key (n : Nat) (x : Event.Fact), (r.edges key)[n]? = some x →
      x = if n % 2 = 0 then .unretrievableVersion key else .retrievedVersion key) ∧
    (∀ id, (r.events (.content id)).map Event.fact <+:
      [.unretrievableSchema id, .retrievedSchema id]) := by
  refine ⟨?_, ?_, ?_, r.contentReports_prefix⟩
  · intro now a e he
    exact attempt_of_event he
  · intro now a key t ht
    rw [events_id, ht]
    dsimp only
    rw [List.map_map]
    exact List.map_id _
  · intro key
    exact (r.edges_alternate key).1

/-- A handler resolves a pair, and asks for it again when the id is too old. -/
def refresh : Run where
  setups := [⟨1, .standard, .record⟩]
  schedule :=
    [(.ofMillis 0, .start 0 (.id ⟨"a", "1"⟩)),
      (.ofMillis 5, .receive 0 (some "\x7b\"globalId\":1\x7d")),
      (.ofMillis 400000, .start 0 (.id ⟨"a", "1"⟩))]

theorem events_edge_triggered_refresh :
    ((refresh.moment (.ofMillis 400005) (.receive 1 none)).events (.id ⟨"a", "1"⟩)).map Event.fact =
      [.unretrievableVersion ⟨"a", "1"⟩, .staleVersion ⟨"a", "1"⟩ ⟨1⟩] := by
  obtain ⟨-, report, -⟩ := events_edge_triggered refresh
  obtain ⟨t, ht⟩ : ∃ t, (refresh.moment (.ofMillis 400005) (.receive 1 none)).endsOn?
      (.id ⟨"a", "1"⟩) = some t := Option.isSome_iff_exists.1 (by decide +kernel)
  obtain ⟨i, f, prev, d, -, -, -, heard⟩ := ids_complete.lead_of_endsOn? ht
  have hid : t.id? = none := by
    rw [Attempt.id?, ← (Prod.mk.inj (Option.some.inj heard)).2]
    rfl
  rw [report _ _ _ t ht, Attempt.report, hid]
  decide +kernel

end Run

end SchemaCatalog
