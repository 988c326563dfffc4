import SchemaCatalog.Proofs.Run.Mappings
import SchemaCatalog.Proofs.Run.Permanence

/-!
# Where answers come from

* `Run.Heard`: the registry has answered a request for a path.
* `Direction.Complete.requested_of_lead`: a leader has asked for the path of its own key.
* `Direction.Complete.requested_of_attempt`: so an attempt is answered on the path of its own key.
* `Run.exists_attempt_of_id`: an id that is known, also as a stale one, was once answered.
* **`Run.answers_heard`**: no answer belongs to another key.
-/

namespace SchemaCatalog

/-- A lookup asked the registry for `path` and nothing else, and the registry answered it with
`body`. -/
def Run.Heard (r : Run) (path body : String) : Prop :=
  ∃ q, ∃ t ∈ r.attempts q, t.body = some body ∧ r.paths t.call = [path]

namespace Run

variable {r : Run} {now : Instant} {a : Group.Action}

theorem getElem?_started_next {n : Nat} {o : Nat × Question} (h : r.started[n]? = some o) :
    (r.next now a).started[n]? = some o := by
  rw [r.started_next, List.getElem?_append_left (List.getElem?_eq_some_iff.1 h).1, h]

theorem paths_next {n : Nat} {path : String} (h : r.paths n = [path]) :
    (r.next now a).paths n = [path] := by
  by_cases hn : n < r.group.calls.length
  · rw [paths_of_lt hn, h]
  · rw [paths_of_le (Nat.le_of_not_lt hn)] at h
    cases h

theorem setup_of_handler {i : Nat} {h : Handler} (hi : r.group.handlers[i]? = some h) :
    r.setups[i]? = some h.setup := by
  rw [← r.setups_group, List.getElem?_map, hi, Option.map_some]

theorem handler_of_started {n i j : Nat} {p : Progress} {q : Question}
    (hc : r.group.calls[n]? = some ⟨i, p⟩) (hn : r.started[n]? = some (j, q)) : j = i := by
  have h := congrArg (fun l : List Nat => l[n]?) r.handlers_started
  simp only [List.getElem?_map, hc, hn, Option.map_some, Option.some.injEq] at h
  exact h

end Run

/-! ## Requests of leaders -/

namespace Direction

variable {κ α : Type} [DecidableEq κ] {D : Direction κ α} {r : Run} {now : Instant}
  {a : Group.Action}

/-- Lookup `n` has asked for the path of `k`, as its handler `i` does. -/
def Requested (D : Direction κ α) (r : Run) (n i : Nat) (k : κ) : Prop :=
  r.started[n]? = some (i, D.ask k) ∧
    ∃ u, r.setups[i]? = some u ∧ r.paths n = [D.path u.handler k]

omit [DecidableEq κ] in
theorem Requested.next {n i : Nat} {k : κ} (h : D.Requested r n i k) :
    D.Requested (r.next now a) n i k := by
  obtain ⟨hn, u, hu, hreq⟩ := h
  exact ⟨Run.getElem?_started_next hn, u, hu, Run.paths_next hreq⟩

theorem Complete.lead_next (hD : D.Complete) {n : Nat} {k : κ} {f : Nat} {prev : Option α}
    (hn : D.part (r.next now a).group n = some (.lead k f prev)) :
    D.part r.group n = some (.lead k f prev) ∨
      n = r.group.calls.length ∧ ∃ i h, a = .start i (D.ask k) ∧ r.group.handlers[i]? = some h ∧
        (r.moment now a).effect.request = some (D.path h k) := by
  rw [r.group_next] at hn
  obtain hm | hm := hD now r.group a
  · unfold Moment.effect
    simp only [Run.moment]
    generalize r.group.step now a = x at hm hn
    cases hm with
    | own | learn => exact Or.inl (part_of_part_put (Nat.le_refl _) (by simp [D.part?_answered]) hn)
    | join => exact Or.inl (part_of_part_put (Nat.le_refl _) (by simp [D.part?_follow]) hn)
    | hear hc | finish _ hc =>
      exact Or.inl (part_of_part_put (Group.le_length_of_call hc) (by simp [D.part?_answered]) hn)
    | cancel hc | leave hc =>
      exact Or.inl (part_of_part_put (Group.le_length_of_call hc) (by simp [D.part?_cancelled]) hn)
    | @lead i h k' hi =>
      rw [part_put (Nat.le_refl _), D.part?_lead] at hn
      obtain ⟨hn', he⟩ | ⟨-, hn'⟩ := Traffic.eq_or_of_update_some hn
      · obtain rfl : k = k' := (Part.lead.inj he).1
        exact Or.inr ⟨hn', i, h, rfl, hi, rfl⟩
      · exact Or.inl hn'
  · left
    rw [part, ← hm.part n]
    exact hn

/-- A leader has asked for the path of its own key. -/
theorem Complete.requested_of_lead (hD : D.Complete) (r : Run) {n : Nat} {k : κ} {f : Nat}
    {prev : Option α} (hn : D.part r.group n = some (.lead k f prev)) :
    ∃ i, D.Requested r n i k := by
  induction r using Run.induction with
  | start us => cases hn
  | next r now a ih =>
    obtain hold | ⟨rfl, i, h, rfl, hi, hreq⟩ := hD.lead_next hn
    · obtain ⟨i, h⟩ := ih hold
      exact ⟨i, h.next⟩
    · refine ⟨i, ?_, h.setup, Run.setup_of_handler (r := r) hi, ?_⟩
      · rw [r.started_next, Run.opens?_start hi, ← r.length_started]
        exact List.getElem?_concat_length
      · rw [r.paths_start, hreq, D.path_of_setup h h.setup.handler k rfl]
        rfl

/-- An attempt is answered on the path of its own key. -/
theorem Complete.requested_of_attempt (hD : D.Complete) (r : Run) {k : κ} {t : Attempt}
    (ht : t ∈ r.attempts (D.ask k)) :
    r.paths t.call = [D.path t.handler k] := by
  induction r using Run.induction with
  | start us => cases ht
  | next r now a ih =>
    rw [r.attempts_next] at ht
    obtain hold | hnew := List.mem_append.1 ht
    · exact Run.paths_next (ih hold)
    · obtain ⟨i, f, prev, d, hc, hi, -⟩ := hD.lead_of_endsOn? (Option.mem_toList.1 hnew)
      obtain ⟨j, hn, u, hu, hreq⟩ :=
        hD.requested_of_lead r ((traffic_part_of_call hc).trans (D.part?_lead k f prev d))
      obtain rfl := Run.handler_of_started hc hn
      rw [Run.setup_of_handler hi, Option.some.injEq] at hu
      subst hu
      rw [← D.path_of_setup t.handler t.handler.setup.handler k rfl]
      exact Run.paths_next hreq

end Direction

/-! ## Answers -/

namespace Run

theorem exists_attempt_of_id {r : Run} {c i : Nat} {key : Key} {n : SchemaId}
    (hc : r.started[c]? = some (i, .id key))
    (hp : r.group.progress? c = some (.answered (.id (some n)))) :
    ∃ t ∈ r.attempts (.id key), t.id? = some n := by
  obtain ⟨p, hcall, hfits⟩ := (ids_complete.sound r).fits c i key hc
  rw [Group.progress?_of_call hcall, Option.some.injEq] at hp
  subst hp
  obtain ⟨known, hknown, hmem⟩ := hfits.exists_known
  have hid : some n = known.bind Mapping.id := Answer.id.inj hknown
  obtain ⟨m, hm, hn⟩ := Option.bind_eq_some_iff.1 hid.symm
  obtain ⟨t, ht, hfound, -⟩ := Mapping.exists_found_of_mem (hmem m hm) hn
  exact ⟨t, ht, hfound⟩

/-- **No answer belongs to another key.** Handlers with one cache, one group and one kind of id
answer with an id only if the registry has given it on the path of the very subject and version, and
with content only if the registry has given it on the path of the very schema. -/
theorem answers_heard (r : Run) (group : String) (use : UseId)
    (shared : ∀ u ∈ r.setups, u.config.groupId = group ∧ u.config.useId = use) :
    (∀ (c i : Nat) (key : Key) (n : SchemaId), r.started[c]? = some (i, .id key) →
      r.group.progress? c = some (.answered (.id (some n))) →
      ∃ body, r.Heard (RegistryPath.version group key.subject key.version) body ∧
        RegistryPath.idIn body use.memberName = some n) ∧
    (∀ (c i : Nat) (id : SchemaId) (s : String), r.started[c]? = some (i, .content id) →
      r.group.progress? c = some (.answered (.content (some s))) →
      r.Heard (RegistryPath.schema use id) s) := by
  constructor
  · intro c i key n hc hp
    obtain ⟨t, ht, hid⟩ := exists_attempt_of_id hc hp
    obtain ⟨body, hbody, hn⟩ := Option.bind_eq_some_iff.1 hid
    have hreq := ids_complete.requested_of_attempt r ht
    obtain ⟨hgroup, huse⟩ := shared _ (ids_complete.origin_of_attempt r ht).1
    refine ⟨body, ⟨.id key, t, ht, hbody, ?_⟩, ?_⟩
    · rw [← hgroup]
      exact hreq
    · rw [← huse]
      exact hn
  · intro c i id s hc hp
    obtain ⟨v, hv, hs⟩ := exists_value_of_answer hc hp
    obtain ⟨t, ht, hbody⟩ := exists_attempt_of_content hv hs
    refine ⟨.content id, t, ht, hbody, ?_⟩
    rw [← (shared _ (contents_complete.origin_of_attempt r ht).1).2]
    exact contents_complete.requested_of_attempt r ht

/-- A handler resolves two pairs with one checksum, and then the first one again. -/
def twins : Run where
  setups := [⟨1, .standard, .record⟩]
  schedule :=
    [(⟨0⟩, .start 0 (.id ⟨"ab", "c"⟩)), (⟨1⟩, .receive 0 (some "\x7b\"globalId\":1\x7d")),
      (⟨2⟩, .start 0 (.id ⟨"a", "bc"⟩)), (⟨3⟩, .receive 1 (some "\x7b\"globalId\":2\x7d")),
      (⟨4⟩, .start 0 (.id ⟨"ab", "c"⟩))]

theorem answers_heard_twins :
    (Key.mk "ab" "c").checksum = (Key.mk "a" "bc").checksum ∧
      ∃ body, twins.Heard (RegistryPath.version "default" "ab" "c") body ∧
        RegistryPath.idIn body "globalId" = some ⟨1⟩ := by
  refine ⟨by decide +kernel, ?_⟩
  exact (answers_heard twins "default" .globalId (by decide)).1 2 0 ⟨"ab", "c"⟩ ⟨1⟩
    (by decide) (by decide +kernel)

end Run

end SchemaCatalog
