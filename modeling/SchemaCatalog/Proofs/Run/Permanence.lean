import SchemaCatalog.Proofs.Run.Attempts

/-!
# Content is permanent

* `Run.content_values`: the values of a schema hold what the registry has answered.
* `Run.standing_of_content`: once a schema has content, it stands there, and no flight of it is
  pending.
* `Run.isSome_content_request`: who asks the registry for content.
* `Run.Settled.next`: from then on lookups are answered at once, and nothing else happens.
* **`Run.content_permanent`**: content is fetched on demand, once, and stays.
-/

namespace SchemaCatalog

theorem Handler.content_contentAttempt (h : Handler) (id : SchemaId) (prev : Option CachedSchema)
    (body : Option String) : (h.contentAttempt id prev body).1.content = body := by
  cases body <;> rfl

namespace Run

variable {r : Run} {id : SchemaId} {v : CachedSchema} {s : String} {now : Instant} {i : Nat}
  {h : Handler} {a : Group.Action}

/-! ## Contents that were learned -/

theorem content_trail (id : SchemaId) (l : List Attempt) :
    (contents.trail id l).map CachedSchema.content = l.map Attempt.body := by
  induction l using List.reverseRecOn with
  | nil => rfl
  | append_singleton l t ih =>
    rw [Direction.trail_concat, List.map_append, List.map_append, ih, List.map_singleton,
      List.map_singleton]
    exact congrArg (fun b => l.map Attempt.body ++ [b])
      (t.handler.content_contentAttempt id _ t.body)

theorem content_values (r : Run) (id : SchemaId) :
    (contents.values r id).map CachedSchema.content =
      (r.attempts (.content id)).map Attempt.body :=
  content_trail _ _

theorem exists_value_of_body {t : Attempt} (ht : t ∈ r.attempts (.content id))
    (hs : t.body = some s) : ∃ v ∈ contents.values r id, v.content = some s := by
  have hmem : some s ∈ (contents.values r id).map CachedSchema.content := by
    rw [r.content_values, ← hs]
    exact List.mem_map_of_mem ht
  exact List.mem_map.1 hmem

theorem exists_attempt_of_content (hv : v ∈ contents.values r id) (hs : v.content = some s) :
    ∃ t ∈ r.attempts (.content id), t.body = some s := by
  have hmem : some s ∈ (r.attempts (.content id)).map Attempt.body := by
    rw [← r.content_values, ← hs]
    exact List.mem_map_of_mem hv
  exact List.mem_map.1 hmem

theorem content_of_outdated (hv : contents.Outdated r id v) : v.content = none := by
  obtain ⟨x, -, u, -, hr⟩ := hv
  exact Option.isNone_iff_eq_none.1 hr

/-- Content is never replaced, and nobody is about to replace it. -/
theorem standing_of_content (hv : v ∈ contents.values r id) (hs : v.content = some s) :
    r.group.cache.schemas.standing id = .ready v := by
  have hkept : ¬ contents.Outdated r id v := by
    intro ho
    rw [content_of_outdated ho] at hs
    cases hs
  exact (contents_complete.sound r).standing_of_kept hv hkept

/-! ## Lookups that start -/

theorem effect_start_content (now : Instant) (id : SchemaId) (hi : r.group.handlers[i]? = some h) :
    (r.moment now (.start i (.content id))).effect =
      ⟨(contents.start now r.group.cache h id).request,
        (contents.start now r.group.cache h id).events⟩ := by
  rw [Moment.effect, moment, Group.step_start_content now id hi]
  rfl

/-- A lookup asks for content exactly if there is none yet and nobody is asking. -/
theorem isSome_content_request (now : Instant) (id : SchemaId)
    (hi : r.group.handlers[i]? = some h) :
    (r.moment now (.start i (.content id))).effect.request.isSome ↔
      (∀ t ∈ r.attempts (.content id), t.body = none) ∧
        r.group.cache.schemas.standing id ≠ .pending := by
  have hr := contents_complete.sound r
  rw [effect_start_content now id hi, Direction.isSome_request_start]
  constructor
  · rintro ⟨hmiss, hfree, hold⟩
    refine ⟨?_, hfree⟩
    intro t ht
    cases hb : t.body with
    | none => rfl
    | some s =>
      obtain ⟨v, hv, hs⟩ := exists_value_of_body ht hb
      have hn : v.content = none :=
        Option.isNone_iff_eq_none.1 (hold v (standing_of_content hv hs))
      rw [hn] at hs
      cases hs
  · rintro ⟨hnone, hfree⟩
    have hempty : ∀ v ∈ contents.values r id, v.content = none := by
      intro v hv
      cases hs : v.content with
      | none => rfl
      | some s =>
        obtain ⟨t, ht, hb⟩ := exists_attempt_of_content hv hs
        rw [hnone t ht] at hb
        cases hb
    refine ⟨?_, hfree, ?_⟩
    · cases hown : (contents.own now h id).1 with
      | none => rfl
      | some b =>
        obtain ⟨v, hv, -, hgood⟩ := contents.own_of_backed _ _ _ _ _
          (hr.backed h (List.mem_of_getElem? hi)) hown
        have : v.content.isNone = false := hgood
        rw [hempty v hv] at this
        cases this
    · intro v hv
      have hlast : (contents.values r id).getLast? = some v := hr.traffic.ready id v hv
      exact Option.isNone_iff_eq_none.2 (hempty v (List.mem_of_getLast? hlast))

/-- A lookup that starts once there is content is answered at once. -/
theorem start_of_content (now : Instant) (hv : v ∈ contents.values r id) (hs : v.content = some s)
    (hi : r.group.handlers[i]? = some h) :
    (contents.start now r.group.cache h id).progress = .answered (.content (some s)) ∧
      (contents.start now r.group.cache h id).request = none := by
  have hr := contents_complete.sound r
  have hstand := standing_of_content hv hs
  cases hown : (contents.own now h id).1 with
  | some b =>
    obtain ⟨w, hw, hb, hgood⟩ := contents.own_of_backed _ _ _ _ _
      (hr.backed h (List.mem_of_getElem? hi)) hown
    obtain ⟨s', hs'⟩ : ∃ s', w.content = some s' := Option.isSome_iff_exists.1
      (Option.isNone_eq_false_iff.1 hgood)
    obtain rfl : v = w := by
      have := (hstand.symm.trans (standing_of_content hw hs'))
      exact Flight.ready.inj this
    rw [contents.start_of_own hown, ← hb]
    exact ⟨congrArg (fun c => Progress.answered (.content c)) hs, rfl⟩
  | none =>
    have hgood : contents.replaceable now h v = false :=
      Option.isNone_eq_false_iff.2 (by rw [hs]; rfl)
    rw [contents.start_of_kept hown hstand hgood]
    exact ⟨congrArg (fun c => Progress.answered (.content c)) hs, rfl⟩

/-! ## After the content was fetched -/

theorem request_of_content (now : Instant) (i : Nat) (hv : v ∈ contents.values r id)
    (hs : v.content = some s) :
    (r.moment now (.start i (.content id))).effect.request = none := by
  cases hi : r.group.handlers[i]? with
  | none => simp [Moment.effect, moment, Group.step, hi, Group.Effect.none]
  | some h =>
    rw [effect_start_content now id hi]
    exact (start_of_content now hv hs hi).2

/-- What holds in a longer run `r'` once `r` has fetched the content `s` of `id`. -/
structure Settled (r r' : Run) (id : SchemaId) (s : String) : Prop where
  value : ∃ v ∈ contents.values r' id, v.content = some s
  requests : r'.requests (.content id) = r.requests (.content id)
  attempts : r'.attempts (.content id) = r.attempts (.content id)
  events : r'.events (.content id) = r.events (.content id)
  longer : r.started.length ≤ r'.started.length
  answered : ∀ (n i : Nat), r.started.length ≤ n → r'.started[n]? = some (i, .content id) →
    r'.group.progress? n = some (.answered (.content (some s)))

theorem settled_self {t : Attempt} (ht : t ∈ r.attempts (.content id)) (hs : t.body = some s) :
    Settled r r id s where
  value := exists_value_of_body ht hs
  requests := rfl
  attempts := rfl
  events := rfl
  longer := Nat.le_refl _
  answered n i hn hi := by
    rw [List.getElem?_eq_none hn] at hi
    cases hi

variable {r' : Run}

theorem Settled.endsOn? (hr : Settled r r' id s) :
    (r'.moment now a).endsOn? (.content id) = none := by
  obtain ⟨v, hv, hs⟩ := hr.value
  have hstand : (contents.table r'.group.cache).standing id ≠ .pending := by
    rw [contents_table, standing_of_content hv hs]
    exact nofun
  exact contents_complete.endsOn?_eq_none hstand

theorem Settled.answered_old (hr : Settled r r' id s) {n : Nat} (hn : r.started.length ≤ n)
    (hlt : n < r'.started.length) (hi : (r'.next now a).started[n]? = some (i, .content id)) :
    (r'.next now a).group.progress? n = some (.answered (.content (some s))) := by
  rw [r'.started_next, List.getElem?_append_left hlt] at hi
  obtain ⟨call, hc, hcp⟩ := Option.map_eq_some_iff.1 (hr.answered n i hn hi)
  rw [Group.progress?, r'.group_next, Group.call_stays hc (by rw [hcp]; rfl), Option.map_some, hcp]

theorem Settled.answered_new (hr : Settled r r' id s)
    (hi : (r'.next now a).started[r'.started.length]? = some (i, .content id)) :
    (r'.next now a).group.progress? r'.started.length = some (.answered (.content (some s))) := by
  obtain ⟨v, hv, hs⟩ := hr.value
  rw [r'.started_next, List.getElem?_append_right (Nat.le_refl _), Nat.sub_self] at hi
  have hopens : (r'.moment now a).opens? = some (i, .content id) := by
    cases ho : (r'.moment now a).opens? <;> simp [ho] at hi ⊢
    exact hi
  obtain ⟨rfl, h, hi'⟩ := Moment.opens?_eq_some.1 hopens
  have hh : r'.group.handlers[i]? = some h := hi'
  rw [r'.group_next, Group.step_start_content now id hh, Group.turned, r'.length_started,
    Group.progress?_put (Nat.le_refl _), Function.update_self, (start_of_content now hv hs hh).1]

theorem Settled.next (hr : Settled r r' id s) : Settled r (r'.next now a) id s where
  value := by
    obtain ⟨v, hv, hs⟩ := hr.value
    exact ⟨v, Direction.values_subset_next id hv, hs⟩
  requests := by
    obtain ⟨v, hv, hs⟩ := hr.value
    rw [requests_next_of_quiet fun i ha => ha ▸ request_of_content now i hv hs, hr.requests]
  attempts := by
    rw [r'.attempts_next, hr.endsOn?, Option.toList_none, List.append_nil, hr.attempts]
  events := by
    have hquiet := contents_complete.events_moment r' now a id
    have hends : (r'.moment now a).endsOn? (contents.ask id) = none := hr.endsOn?
    rw [hends] at hquiet
    have hnone : (r'.moment now a).events (.content id) = [] := hquiet
    rw [r'.events_next, hnone, List.append_nil, hr.events]
  longer := by
    rw [r'.started_next, List.length_append]
    exact Nat.le_add_right_of_le hr.longer
  answered n i hn hi := by
    obtain ⟨hlt', -⟩ := List.getElem?_eq_some_iff.1 hi
    by_cases hlt : n < r'.started.length
    · exact hr.answered_old hn hlt hi
    · have hle : (r'.moment now a).opens?.toList.length ≤ 1 := by
        cases (r'.moment now a).opens? <;> simp
      rw [r'.started_next, List.length_append] at hlt'
      obtain rfl : n = r'.started.length := by omega
      exact hr.answered_new hi

theorem settled_extend {t : Attempt} (ht : t ∈ r.attempts (.content id)) (hs : t.body = some s)
    (later : List (Instant × Group.Action)) : Settled r (r.extend later) id s :=
  extend_induction (P := fun r' => Settled r r' id s) (settled_self ht hs)
    (fun _ _ _ ih => ih.next) later

theorem exists_value_of_answer {n : Nat} (hn : r.started[n]? = some (i, .content id))
    (hp : r.group.progress? n = some (.answered (.content (some s)))) :
    ∃ v ∈ contents.values r id, v.content = some s := by
  obtain ⟨p, hc, hfits⟩ := (contents_complete.sound r).fits n i id hn
  rw [Group.progress?_of_call hc, Option.some.injEq] at hp
  subst hp
  obtain ⟨known, hknown, hmem⟩ := hfits.exists_known
  have hs : some s = known.bind CachedSchema.content := Answer.content.inj hknown
  obtain ⟨v, hv, hc⟩ := Option.bind_eq_some_iff.1 hs.symm
  exact ⟨v, hmem v hv, hc⟩

/-- **Content is fetched on demand, once, and stays.** A lookup asks the registry exactly if no
attempt has brought content yet and none is under way. Once one has, later lookups are answered with
its content at once, and no step whatsoever makes another request, ends another attempt or reports
another event about the schema. -/
theorem content_permanent (r : Run) (id : SchemaId) :
    (∀ now i h, r.group.handlers[i]? = some h →
      ((r.moment now (.start i (.content id))).effect.request.isSome ↔
        (∀ t ∈ r.attempts (.content id), t.body = none) ∧
          r.group.cache.schemas.standing id ≠ .pending)) ∧
    (∀ t ∈ r.attempts (.content id), ∀ s, t.body = some s → ∀ later,
      (∀ n i, r.started.length ≤ n → (r.extend later).started[n]? = some (i, .content id) →
        (r.extend later).group.progress? n = some (.answered (.content (some s)))) ∧
      (r.extend later).requests (.content id) = r.requests (.content id) ∧
      (r.extend later).attempts (.content id) = r.attempts (.content id) ∧
      (r.extend later).events (.content id) = r.events (.content id)) ∧
    (∀ later m n i j x y, r.started[m]? = some (i, .content id) →
      r.group.progress? m = some (.answered (.content (some x))) →
      (r.extend later).started[n]? = some (j, .content id) →
      (r.extend later).group.progress? n = some (.answered (.content (some y))) → x = y) := by
  refine ⟨?_, ?_, ?_⟩
  · intro now i h hi
    exact isSome_content_request now id hi
  · intro t ht s hs later
    have hr := settled_extend ht hs later
    exact ⟨hr.answered, hr.requests, hr.attempts, hr.events⟩
  · intro later m n i j x y hm hx hn hy
    obtain ⟨v, hv, hvx⟩ := exists_value_of_answer hm hx
    obtain ⟨w, hw, hwy⟩ := exists_value_of_answer hn hy
    have hv' := Direction.values_subset_extend r id later hv
    have hvw := (standing_of_content hv' hvx).symm.trans (standing_of_content hw hwy)
    rw [Flight.ready.inj hvw, hwy] at hvx
    exact (Option.some.inj hvx).symm

/-- Two handlers ask for a schema. Only the second one gets it. -/
def secondAttempt : Run where
  setups := [⟨1, .standard, .record⟩, ⟨2, .standard, .record⟩]
  schedule :=
    [(⟨0⟩, .start 0 (.content ⟨7⟩)), (⟨5⟩, .receive 0 none), (⟨9⟩, .start 1 (.content ⟨7⟩)),
      (⟨12⟩, .receive 1 (some "x"))]

theorem content_permanent_secondAttempt :
    (secondAttempt.moment ⟨20⟩ (.start 0 (.content ⟨7⟩))).effect.request = none ∧
      (secondAttempt.extend [(⟨20⟩, .start 0 (.content ⟨7⟩))]).group.progress? 2 =
        some (.answered (.content (some "x"))) ∧
      ((secondAttempt.extend [(⟨20⟩, .start 0 (.content ⟨7⟩))]).requests (.content ⟨7⟩)).length =
        2 := by
  obtain ⟨ask, once, -⟩ := content_permanent secondAttempt ⟨7⟩
  obtain ⟨t, ht, hs⟩ : ∃ t ∈ secondAttempt.attempts (.content ⟨7⟩), t.body = some "x" := by decide
  obtain ⟨h, hi⟩ : ∃ h, secondAttempt.group.handlers[0]? = some h :=
    Option.isSome_iff_exists.1 (by decide)
  obtain ⟨answered, requests, -⟩ := once t ht "x" hs [(⟨20⟩, .start 0 (.content ⟨7⟩))]
  refine ⟨?_, answered 2 0 (by decide) (by decide), ?_⟩
  · rw [← Option.not_isSome_iff_eq_none, ask ⟨20⟩ 0 h hi]
    rintro ⟨hnone, -⟩
    rw [hnone t ht] at hs
    cases hs
  · rw [requests]
    decide +kernel

end Run

end SchemaCatalog
