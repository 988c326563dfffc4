import SchemaCatalog.Proofs.Text.Decimal
import SchemaCatalog.Proofs.Text.Percent
import SchemaCatalog.RegistryPath

/-!
# Paths can be read back

* `RegistryPath.segments`: a path, cut at its slashes.
* `RegistryPath.schemaSegments`, `RegistryPath.versionSegments`: the two forms of a path.
  `RegistryPath.segments_schema`, `RegistryPath.segments_version`: no group, subject, version or id
  adds a segment of its own.
* `RegistryPath.isPlain_of_mem_version`: a path has neither query nor fragment.
* **`RegistryPath.version_decodable`**: what a path asks for can be read back from it.
-/

namespace SchemaCatalog.RegistryPath

open Percent

/-! ## Segments -/

/-- The parts of a path between its slashes. -/
def segments (path : String) : List (List Char) := path.toList.splitOn '/'

/-- The segments that all paths start with. -/
def rootSegments : List (List Char) :=
  ["".toList, "apis".toList, "registry".toList, "v2".toList]

/-- The segment that tells which kind of id follows. -/
def kindName : UseId → String
  | .contentId => "contentIds"
  | .globalId => "globalIds"

def schemaSegments (useId : UseId) (id : List Char) : List (List Char) :=
  rootSegments ++ ["ids".toList, (kindName useId).toList, id]

/-- The segments that name a version, if it is not the newest. -/
def atVersion : Option (List Char) → List (List Char)
  | none => ["meta".toList]
  | some version => ["versions".toList, version, "meta".toList]

/-- The segments of the path of a subject's metadata, at the newest version or at a given one. -/
def versionSegments (group subject : List Char) (version : Option (List Char)) :
    List (List Char) :=
  rootSegments ++ ["groups".toList, group, "artifacts".toList, subject] ++ atVersion version

/-- The segment of a version. The newest one has none. -/
def written? (version : String) : Option (List Char) :=
  if version = latest then none else some (encode version)

variable {group subject version group' subject' version' : String} {useId useId' : UseId}
  {id id' : SchemaId}

theorem toList_schema (useId : UseId) (id : SchemaId) :
    (schema useId id).toList = ['/'].intercalate (schemaSegments useId id.text.toList) := by
  unfold schema schemaSegments rootSegments
  cases useId <;> simp [kindName]

theorem toList_version (group subject version : String) :
    (RegistryPath.version group subject version).toList =
      ['/'].intercalate (versionSegments (encode group) (encode subject) (written? version)) := by
  unfold RegistryPath.version written? versionSegments rootSegments
  split <;> simp [atVersion]

/-! ## Characters -/

/-- All characters of a segment stand for themselves. -/
def Plain (s : List Char) : Prop := ∀ c ∈ s, isPlain c = true

instance (s : List Char) : Decidable (Plain s) :=
  List.decidableBAll (fun c => isPlain c = true) s

theorem plain_encode (s : String) : Plain (encode s) := fun _ => isPlain_of_mem_encode

theorem plain_text (id : SchemaId) : Plain id.text.toList := by
  intro c hc
  exact isPlain_of_isDigit (Text.isDigit_of_mem_toString hc)

theorem plain_of_mem_rootSegments : ∀ s ∈ rootSegments, Plain s := by decide

theorem plain_of_mem_schemaSegments {id s : List Char} (hid : Plain id)
    (h : s ∈ schemaSegments useId id) : Plain s := by
  have hkind : Plain (kindName useId).toList := by cases useId <;> decide
  simp only [schemaSegments, List.mem_append, List.mem_cons, List.not_mem_nil, or_false] at h
  obtain h | rfl | rfl | rfl := h
  · exact plain_of_mem_rootSegments s h
  · decide
  · exact hkind
  · exact hid

theorem plain_of_mem_atVersion (version : String) :
    ∀ s ∈ atVersion (written? version), Plain s := by
  have hfixed : Plain "meta".toList ∧ Plain "versions".toList := by decide
  rw [written?]
  split_ifs
  · simpa [atVersion] using hfixed.1
  · simpa [atVersion] using ⟨hfixed.2, plain_encode version, hfixed.1⟩

theorem plain_of_mem_versionSegments {s : List Char}
    (h : s ∈ versionSegments (encode group) (encode subject) (written? version)) : Plain s := by
  simp only [versionSegments, List.mem_append, List.mem_cons, List.not_mem_nil, or_false] at h
  obtain (h | rfl | rfl | rfl | rfl) | h := h
  · exact plain_of_mem_rootSegments s h
  · decide
  · exact plain_encode group
  · decide
  · exact plain_encode subject
  · exact plain_of_mem_atVersion version s h

theorem slash_notMem_of_plain {s : List Char} (h : Plain s) : '/' ∉ s := fun hs =>
  absurd (h _ hs) (by decide)

theorem mem_intercalate {x c : Char} {l : List (List Char)} (h : c ∈ [x].intercalate l) :
    c = x ∨ ∃ s ∈ l, c ∈ s := by
  induction l with
  | nil => simp at h
  | cons s l ih =>
    cases l with
    | nil => exact .inr ⟨s, List.mem_singleton_self s, by simpa using h⟩
    | cons t l =>
      simp only [List.intercalate_cons_cons, List.mem_append, List.mem_singleton] at h
      obtain (h | h) | h := h
      · exact .inr ⟨s, List.mem_cons_self, h⟩
      · exact .inl h
      · exact (ih h).imp_right fun ⟨u, hu, hc⟩ => ⟨u, List.mem_cons_of_mem s hu, hc⟩

/-! ## Reading a path -/

theorem segments_schema (useId : UseId) (id : SchemaId) :
    segments (schema useId id) = schemaSegments useId id.text.toList := by
  rw [segments, toList_schema]
  exact List.splitOn_intercalate '/' (fun s hs => slash_notMem_of_plain
    (plain_of_mem_schemaSegments (plain_text id) hs)) (by simp [schemaSegments])

theorem segments_version (group subject version : String) :
    segments (RegistryPath.version group subject version) =
      versionSegments (encode group) (encode subject) (written? version) := by
  rw [segments, toList_version]
  exact List.splitOn_intercalate '/'
    (fun s hs => slash_notMem_of_plain (plain_of_mem_versionSegments hs))
    (by simp [versionSegments])

theorem isPlain_of_mem_version {c : Char}
    (h : c ∈ (RegistryPath.version group subject version).toList) :
    c = '/' ∨ isPlain c = true := by
  rw [toList_version] at h
  exact (mem_intercalate h).imp_right fun ⟨s, hs, hc⟩ => plain_of_mem_versionSegments hs c hc

theorem written?_injective : Function.Injective written? := by
  intro v w h
  rw [written?, written?] at h
  split_ifs at h with hv hw
  · rw [hv, hw]
  · exact encode_injective (Option.some.inj h)

theorem atVersion_injective : Function.Injective atVersion := by
  rintro (_ | v) (_ | w) h
  · rfl
  · simp [atVersion] at h
  · simp [atVersion] at h
  · simpa [atVersion] using h

theorem version_eq_version_iff :
    RegistryPath.version group subject version = RegistryPath.version group' subject' version' ↔
      group = group' ∧ subject = subject' ∧ version = version' := by
  refine ⟨fun h => ?_, by rintro ⟨rfl, rfl, rfl⟩; rfl⟩
  have hseg := congrArg segments h
  rw [segments_version, segments_version] at hseg
  simp only [versionSegments, List.append_assoc, List.append_cancel_left_eq, List.cons_append,
    List.nil_append, List.cons.injEq, true_and] at hseg
  obtain ⟨hgroup, hsubject, hversion⟩ := hseg
  exact ⟨encode_injective hgroup, encode_injective hsubject,
    written?_injective (atVersion_injective hversion)⟩

theorem version_ne_schema :
    RegistryPath.version group subject version ≠ schema useId id := by
  intro h
  have hseg := congrArg segments h
  rw [segments_version, segments_schema] at hseg
  simp [versionSegments, schemaSegments] at hseg

theorem kindName_injective : Function.Injective kindName := by
  rintro (_ | _) (_ | _) h
  · rfl
  · simp [kindName] at h
  · simp [kindName] at h
  · rfl

theorem schema_eq_schema_iff : schema useId id = schema useId' id' ↔ useId = useId' ∧ id = id' := by
  refine ⟨fun h => ?_, by rintro ⟨rfl, rfl⟩; rfl⟩
  have hseg := congrArg segments h
  rw [segments_schema, segments_schema] at hseg
  simp only [schemaSegments, List.append_cancel_left_eq, List.cons.injEq, true_and, and_true,
    String.toList_inj] at hseg
  exact ⟨kindName_injective hseg.1, SchemaId.text_injective hseg.2⟩

/-- **What a path asks for can be read back from it.** The path of a subject's metadata is of ASCII
and has neither query nor fragment. Cut at its slashes it has the segments of its form and no others,
and of these the variable ones stand for the group, the subject and the version, where the newest
version has no segment. So different subjects or versions have different paths, none of them is the
path of a schema's content, and different ids have different paths. -/
theorem version_decodable (group subject version : String) :
    (∀ c ∈ (RegistryPath.version group subject version).toList,
      c.toNat < 128 ∧ c ≠ '?' ∧ c ≠ '#') ∧
    (∃ g s w, segments (RegistryPath.version group subject version) = versionSegments g s w ∧
      text? g = some group ∧ text? s = some subject ∧
      if version = latest then w = none else ∃ v, w = some v ∧ text? v = some version) ∧
    (∀ subject' version',
      RegistryPath.version group subject version = RegistryPath.version group subject' version' ↔
        subject = subject' ∧ version = version') ∧
    (∀ useId id, RegistryPath.version group subject version ≠ schema useId id) ∧
    ∀ useId id id', schema useId id = schema useId id' ↔ id = id' := by
  refine ⟨fun c hc => ?_, ?_, fun subject' version' => ?_, fun useId id => version_ne_schema,
    fun useId id id' => ?_⟩
  · obtain rfl | hplain := isPlain_of_mem_version hc
    · decide
    · simp only [isPlain, Bool.and_eq_true, decide_eq_true_eq] at hplain
      exact ⟨hplain.1.1.1, hplain.1.2, hplain.2⟩
  · refine ⟨encode group, encode subject, written? version,
      segments_version group subject version, text?_encode group, text?_encode subject, ?_⟩
    rw [written?]
    split_ifs
    · rfl
    · exact ⟨encode version, rfl, text?_encode version⟩
  · rw [version_eq_version_iff]
    exact and_iff_right rfl
  · rw [schema_eq_schema_iff]
    exact and_iff_right rfl

end SchemaCatalog.RegistryPath
