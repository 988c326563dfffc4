import SchemaCatalog.Config.Loading
import SchemaCatalog.Proofs.Config.Settings

/-!
# Loading written settings

* `Config.get`: the setting of a field. `Config.get_foldl`: each field has the value that it is set
  to, and the others stay.
* `Field.usual?`: the value of a field that is not set.
* `Setting.Allowed`: the values that a field may have.
* `Config.map_field_violations`: the fields with other values are found, each of them once.
* `Config.readFields_events`: a mapping is read as the settings in it.
* **`Config.load_written`**: what comes of loading settings that are written one below the other.
-/

namespace SchemaCatalog

/-! ## Values that are allowed -/

namespace Setting

/-- The values that a field may have. -/
def Allowed : Setting → Prop
  | url s => Url.isValid s = true
  | groupId s => 1 ≤ s.length ∧ s.length ≤ 255
  | useId _ => True
  | idEncoding _ => True
  | maxAgeSecs n => 1 ≤ n.toNat ∧ n.toNat ≤ 86400
  | retryInitialDelayMs n => 1 ≤ n.toNat ∧ n.toNat ≤ 3600000
  | requestTimeoutMs n => 100 ≤ n.toNat ∧ n.toNat ≤ 300000
  | cacheCapacity n => 1 ≤ n.toNat ∧ n.toNat ≤ 1048576

instance : (s : Setting) → Decidable s.Allowed
  | url s => inferInstanceAs (Decidable (Url.isValid s = true))
  | groupId s => inferInstanceAs (Decidable (1 ≤ s.length ∧ s.length ≤ 255))
  | useId _ => inferInstanceAs (Decidable True)
  | idEncoding _ => inferInstanceAs (Decidable True)
  | maxAgeSecs n => inferInstanceAs (Decidable (1 ≤ n.toNat ∧ n.toNat ≤ 86400))
  | retryInitialDelayMs n => inferInstanceAs (Decidable (1 ≤ n.toNat ∧ n.toNat ≤ 3600000))
  | requestTimeoutMs n => inferInstanceAs (Decidable (100 ≤ n.toNat ∧ n.toNat ≤ 300000))
  | cacheCapacity n => inferInstanceAs (Decidable (1 ≤ n.toNat ∧ n.toNat ≤ 1048576))

end Setting

namespace Field

/-- The value of a field that is not set. There is none for the address. -/
def usual? : Field → Option Setting
  | url => none
  | groupId => some (.groupId "default")
  | useId => some (.useId .globalId)
  | idEncoding => some (.idEncoding .wide)
  | maxAgeSecs => some (.maxAgeSecs 300)
  | retryInitialDelayMs => some (.retryInitialDelayMs 1000)
  | requestTimeoutMs => some (.requestTimeoutMs 10000)
  | cacheCapacity => some (.cacheCapacity 1024)

theorem ofName?_name (f : Field) : ofName? f.name = some f := by
  cases f <;> rfl

theorem allowed_of_usual? {f : Field} {s : Setting} (h : f.usual? = some s) : s.Allowed := by
  cases f <;> cases h <;> decide

end Field

namespace Config

/-! ## Fields of a configuration -/

def get (c : Config) : Field → Setting
  | .url => .url c.url
  | .groupId => .groupId c.groupId
  | .useId => .useId c.useId
  | .idEncoding => .idEncoding c.idEncoding
  | .maxAgeSecs => .maxAgeSecs c.maxAgeSecs
  | .retryInitialDelayMs => .retryInitialDelayMs c.retryInitialDelayMs
  | .requestTimeoutMs => .requestTimeoutMs c.requestTimeoutMs
  | .cacheCapacity => .cacheCapacity c.cacheCapacity

theorem get_set (c : Config) (s : Setting) (f : Field) :
    (c.set s).get f = if s.field = f then s else c.get f := by
  cases s <;> cases f <;> rfl

theorem get_standard {f : Field} (hf : f ≠ .url) : f.usual? = some (standard.get f) := by
  cases f <;> first | exact absurd rfl hf | rfl

/-- Each field has the value that it is set to, and the others stay. -/
theorem get_foldl {ss : List Setting} (hfields : (ss.map Setting.field).Nodup) (c : Config) :
    (∀ s ∈ ss, (ss.foldl set c).get s.field = s) ∧
      ∀ f, f ∉ ss.map Setting.field → (ss.foldl set c).get f = c.get f := by
  induction ss generalizing c with
  | nil => exact ⟨nofun, fun _ _ => rfl⟩
  | cons s ss ih =>
    rw [List.map_cons, List.nodup_cons] at hfields
    obtain ⟨hset, hrest⟩ := ih hfields.2 (c.set s)
    rw [List.foldl_cons]
    refine ⟨List.forall_mem_cons.2 ⟨?_, hset⟩, fun f hf => ?_⟩
    · rw [hrest s.field hfields.1, get_set, if_pos rfl]
    · rw [List.map_cons, List.mem_cons, not_or] at hf
      rw [hrest f hf.2, get_set, if_neg (Ne.symm hf.1)]

/-! ## Violations -/

theorem map_field_ite (p : Prop) [Decidable p] (v : Violation) :
    (if p then [] else [v]).map Violation.field = [v.field].filter fun _ => !decide p := by
  split_ifs with h <;> simp [h]

/-- The fields with limits, in the order of their names. -/
def limited : List Field :=
  [.cacheCapacity, .groupId, .maxAgeSecs, .requestTimeoutMs, .retryInitialDelayMs, .url]

/-- All fields whose values are not allowed, each of them once. -/
theorem map_field_violations (c : Config) :
    c.violations.map Violation.field = limited.filter fun f => !decide (c.get f).Allowed := by
  have hsplit : limited = [Field.cacheCapacity] ++ [Field.groupId] ++ [Field.maxAgeSecs] ++
      [Field.requestTimeoutMs] ++ [Field.retryInitialDelayMs] ++ [Field.url] := rfl
  rw [violations, hsplit]
  simp only [checkRange, checkLength, checkUrl, List.map_append, List.filter_append, map_field_ite]
  rfl

theorem mem_map_field_violations {c : Config} {f : Field} :
    f ∈ c.violations.map Violation.field ↔ ¬ (c.get f).Allowed := by
  have hlimited : f ∉ limited → (c.get f).Allowed := by
    intro hf
    cases f <;> first | exact absurd (by decide) hf | exact trivial
  rw [map_field_violations, List.mem_filter]
  simp only [Bool.not_eq_true', decide_eq_false_iff_not]
  exact ⟨fun h => h.2, fun h => ⟨by_contra fun hf => h (hlimited hf), h⟩⟩

theorem nodup_map_field_violations (c : Config) : (c.violations.map Violation.field).Nodup := by
  rw [map_field_violations]
  exact List.filter_sublist.nodup (by decide)

/-! ## Reading -/

variable {d : Yaml.Document} {es : List Entry} {done : List Setting} {fuel : Nat}
  {rest : List Yaml.Event}

/-- **A mapping is read as the settings in it**, if no field is there twice. -/
theorem readFields_events (hfields : (done.map Setting.field ++ es.map Entry.field).Nodup)
    (hfuel : es.length < fuel) :
    readFields d fuel done (es.flatMap Entry.events ++ .mappingEnd :: rest) =
      .ok (done ++ es.map Entry.setting) := by
  induction es generalizing done fuel with
  | nil =>
    obtain ⟨fuel, rfl⟩ := Nat.exists_eq_add_of_le' hfuel
    rw [List.map_nil, List.append_nil]
    rfl
  | cons e es ih =>
    obtain ⟨fuel, rfl⟩ := Nat.exists_eq_add_of_le' (Nat.one_le_of_lt hfuel)
    have hnext : ((done ++ [e.setting]).map Setting.field ++ es.map Entry.field).Nodup := by
      simpa [Entry.field] using hfields
    have hnew : (done.any fun s => s.field == e.field) = false := by
      have hdisjoint := (List.nodup_append.1 hfields).2.2
      refine List.any_eq_false.2 fun s hs heq => ?_
      exact hdisjoint _ (List.mem_map_of_mem hs) e.field List.mem_cons_self (beq_iff_eq.1 heq)
    have hvalue : readSetting e.field e.field.name (.scalar none (String.ofList e.text)
        (if e.quoted then .doubleQuoted else .plain)) = .ok e.setting :=
      readSetting_of_spelled e.spelled e.field.name
    have hrest := ih hnext (Nat.lt_of_succ_lt_succ hfuel)
    show readFields d (fuel + 1) done (.scalar none e.field.name .plain ::
      .scalar none (String.ofList e.text) (if e.quoted then .doubleQuoted else .plain) ::
        (es.flatMap Entry.events ++ .mappingEnd :: rest)) = _
    rw [readFields]
    · simp only [readKey, resolve, bind, Except.bind, Field.ofName?_name, hnew, hvalue, hrest,
        Bool.false_eq_true, if_false]
      rw [List.append_assoc, List.map_cons, List.singleton_append]
    · nofun

theorem length_le_flatMap_events (es : List Entry) :
    es.length ≤ (es.flatMap Entry.events).length := by
  induction es with
  | nil => exact Nat.le_refl _
  | cons e es ih =>
    rw [List.flatMap_cons, List.length_append, List.length_cons, Entry.events]
    simp only [List.length_cons]
    omega

theorem ofDocument_events (hfields : (es.map Entry.field).Nodup)
    (hurl : .url ∈ es.map Entry.field) :
    ofDocument ⟨.mappingStart none :: es.flatMap Entry.events ++ [.mappingEnd], .none, true⟩ =
      .ok ((es.map Entry.setting).foldl set standard) := by
  have hlength := length_le_flatMap_events es
  have hread : readSettings
      ⟨.mappingStart none :: es.flatMap Entry.events ++ [.mappingEnd], .none, true⟩ =
        .ok (es.map Entry.setting) := by
    refine readFields_events (by rwa [List.map_nil, List.nil_append]) (Nat.lt_succ_of_le ?_)
    exact hlength.trans (List.sublist_append_left _ _).length_le
  have hany : (es.map Entry.setting).any (fun s => s.field == .url) = true := by
    obtain ⟨e, he, hfield⟩ := List.mem_map.1 hurl
    exact List.any_eq_true.2 ⟨e.setting, List.mem_map_of_mem he, beq_iff_eq.2 hfield⟩
  rw [ofDocument, hread]
  simp [bind, Except.bind, ofSettings?, hany, pure, Except.pure]

/-- In a document of settings each field has the value that is written, or else its usual one. -/
theorem exists_ofDocument (env : String → Option String) (closed : Bool)
    (hfields : (es.map Entry.field).Nodup) (hurl : .url ∈ es.map Entry.field) :
    ∃ c, ofDocument (.read (Placeholder.expand env (written closed es).toList)) = .ok c ∧
      (∀ e ∈ es, c.get e.field = e.setting) ∧
      ∀ f, f ∉ es.map Entry.field → f.usual? = some (c.get f) := by
  have hne : es ≠ [] := by
    rintro rfl
    cases hurl
  have hmap : (es.map Entry.setting).map Setting.field = es.map Entry.field := List.map_map
  obtain ⟨hset, hrest⟩ := get_foldl (hmap ▸ hfields) standard
  rw [hmap] at hrest
  refine ⟨(es.map Entry.setting).foldl set standard, ?_, fun e he => ?_, fun f hf => ?_⟩
  · rw [read_written env closed hne, ofDocument_events hfields hurl]
  · exact hset e.setting (List.mem_map_of_mem he)
  · have hother : f ≠ .url := fun h => hf (h ▸ hurl)
    rw [hrest f hf, get_standard hother]

/-! ## Loading -/

theorem load_of_ofDocument {env : String → Option String} {text : String} {c : Config}
    (h : ofDocument (Yaml.Document.read (Placeholder.expand env text.toList)) = .ok c) :
    (c.violations = [] → load env text = .ok c) ∧
      (c.violations ≠ [] → load env text = .error (.limits c.violations)) := by
  rw [load, h]
  constructor
  · intro hnone
    simp [Except.mapError, bind, Except.bind, pure, Except.pure, hnone]
  · intro hsome
    obtain ⟨v, vs, hcons⟩ := List.exists_cons_of_ne_nil hsome
    simp [Except.mapError, bind, Except.bind, throw, throwThe, MonadExceptOf.throw, hcons]

/-- **Settings that are written one below the other are loaded.** If all values are allowed, then
each field has the value that is written, or else its usual one. If not, then the fields whose
values are not allowed are told, all of them and no others. -/
theorem load_written (env : String → Option String) (closed : Bool) {es : List Entry}
    (hfields : (es.map Entry.field).Nodup) (hurl : .url ∈ es.map Entry.field) :
    ((∀ e ∈ es, e.setting.Allowed) → ∃ c, load env (written closed es) = .ok c ∧
      (∀ e ∈ es, c.get e.field = e.setting) ∧
      ∀ f, f ∉ es.map Entry.field → f.usual? = some (c.get f)) ∧
    ((∃ e ∈ es, ¬ e.setting.Allowed) → ∃ vs, load env (written closed es) = .error (.limits vs) ∧
      (vs.map Violation.field).Nodup ∧
      ∀ f, f ∈ vs.map Violation.field ↔ ∃ e ∈ es, e.field = f ∧ ¬ e.setting.Allowed) := by
  obtain ⟨c, hread, hgiven, husual⟩ := exists_ofDocument env closed hfields hurl
  obtain ⟨hloaded, hrefused⟩ := load_of_ofDocument hread
  have hviolated : ∀ f, f ∈ c.violations.map Violation.field ↔
      ∃ e ∈ es, e.field = f ∧ ¬ e.setting.Allowed := by
    intro f
    rw [mem_map_field_violations]
    constructor
    · intro hnot
      by_cases hf : f ∈ es.map Entry.field
      · obtain ⟨e, he, rfl⟩ := List.mem_map.1 hf
        exact ⟨e, he, rfl, hgiven e he ▸ hnot⟩
      · exact absurd (Field.allowed_of_usual? (husual f hf)) hnot
    · rintro ⟨e, he, rfl, hnot⟩
      rwa [hgiven e he]
  refine ⟨fun hall => ⟨c, hloaded ?_, hgiven, husual⟩, fun ⟨e, he, hnot⟩ =>
    ⟨c.violations, hrefused ?_, nodup_map_field_violations c, hviolated⟩⟩
  · refine List.eq_nil_iff_forall_not_mem.2 fun v hv => ?_
    obtain ⟨e, he, -, hnot⟩ := (hviolated v.field).1 (List.mem_map_of_mem hv)
    exact hnot (hall e he)
  · intro hnil
    have hmem := (hviolated e.field).2 ⟨e, he, rfl, hnot⟩
    rw [hnil] at hmem
    cases hmem

/-- A configuration of two lines, and one with two values that are not allowed. -/
theorem load_written_two :
    (∃ c, load (fun _ => none) "use_id: content_id\nurl: \"http://a\"\n" = .ok c ∧
      c.get .url = .url "http://a" ∧ c.get .useId = .useId .contentId ∧
      c.get .maxAgeSecs = .maxAgeSecs 300) ∧
    ∃ vs, load (fun _ => none) "cache_capacity: 0\ngroup_id: \"a\"\nurl: \"none\"" =
      .error (.limits vs) ∧
      ∀ f, f ∈ vs.map Violation.field ↔ f = .cacheCapacity ∨ f = .url := by
  constructor
  · obtain ⟨c, hload, hgiven, husual⟩ := (@load_written (fun _ => none) true
      [⟨.useId .contentId, _, _,
          .useId (show ("content_id", .contentId) ∈ UseId.spellings by decide) false⟩,
        ⟨.url "http://a", _, _, .url (by decide)⟩] (by decide) (by decide)).1 (by decide)
    rw [List.forall_mem_cons, List.forall_mem_singleton] at hgiven
    have hmaxAge := Option.some.inj (husual .maxAgeSecs (by decide))
    exact ⟨c, hload, hgiven.2, hgiven.1, hmaxAge.symm⟩
  · obtain ⟨vs, hload, -, hfields⟩ := (@load_written (fun _ => none) false
      [⟨.cacheCapacity 0, _, _, .cacheCapacity 0⟩, ⟨.groupId "a", _, _, .groupId (by decide)⟩,
        ⟨.url "none", _, _, .url (by decide)⟩] (by decide) (by decide)).2 (by decide)
    refine ⟨vs, hload, fun f => (hfields f).trans ?_⟩
    cases f <;> decide

end Config

end SchemaCatalog
