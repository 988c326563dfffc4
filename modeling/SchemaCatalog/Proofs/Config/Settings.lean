import SchemaCatalog.Config.Reading
import SchemaCatalog.Proofs.Config.Pieces
import SchemaCatalog.Proofs.Json.Numbers
import SchemaCatalog.Proofs.Yaml.Records

/-!
# Settings as they are written

* `Yaml.unsigned?_toDigits`: a number is read back from its decimal digits.
* `Setting.IsLiteral`: a character that stands for itself between double quotes.
* `Setting.Spelled`: the ways to write the value of a setting.
* **`Config.readSetting_of_spelled`**: it is read back.
* `Config.Entry`: a setting as it is written, on a line of its own.
* `Config.written`: settings one below the other. **`Config.read_written`**: the document in them.
-/

namespace SchemaCatalog

/-! ## Numbers -/

namespace Digits

variable {c : Char} {s : List Char}

theorem value?_of_isDigit (hc : c.isDigit = true) : value? 10 c = some (c.toNat - 48) := by
  have hrange : 48 ≤ c.toNat ∧ c.toNat ≤ 57 := by
    simpa [Char.isDigit, UInt32.le_iff_toNat_le] using hc
  rw [value?, Hex.value?, if_pos hrange, Option.filter_some, if_pos]
  exact decide_eq_true (by omega)

theorem number?_of_isDigit (hs : ∀ c ∈ s, c.isDigit = true) :
    number? 10 s = some (Nat.ofDigitChars 10 s 0) := by
  have hvalues : s.mapM (value? 10) = some (s.map fun c => c.toNat - 48) := by
    induction s with
    | nil => rfl
    | cons c s ih =>
      rw [List.mapM_cons, value?_of_isDigit (hs c List.mem_cons_self),
        ih fun d hd => hs d (List.mem_cons_of_mem c hd)]
      rfl
  rw [number?, hvalues, Option.map_some, List.foldl_map]
  rfl

end Digits

namespace Yaml

/-- Decimal digits without a zero in front are a number. -/
theorem magnitude?_toDigits (n : Nat) : magnitude? (Nat.toDigits 10 n) = some n := by
  have hdigits : ∀ c ∈ Nat.toDigits 10 n, c.isDigit = true := fun c hc =>
    Nat.isDigit_of_mem_toDigits (by decide) (by decide) hc
  have hread : digits? 10 (Nat.toDigits 10 n) = some n := by
    rw [digits?, if_neg (by simp [Nat.toDigits_ne_nil]), Digits.number?_of_isDigit hdigits,
      Nat.ofDigitChars_ten_toDigits]
  obtain rfl | hn := Nat.eq_zero_or_pos n
  · rfl
  · have hhead := Json.head?_toDigits hn
    rw [← hread, magnitude?]
    all_goals
      intros
      rename_i h
      rw [h] at hhead
      exact hhead rfl

theorem unsigned?_toDigits (n : UInt64) :
    unsigned? (String.ofList (Nat.toDigits 10 n.toNat)) = some n := by
  have hsign : splitSign (Nat.toDigits 10 n.toNat) = (false, Nat.toDigits 10 n.toNat) := by
    have hdigit : ∀ {c s}, Nat.toDigits 10 n.toNat = c :: s → c.isDigit = true := fun h =>
      Nat.isDigit_of_mem_toDigits (by decide) (by decide) (h ▸ List.mem_cons_self)
    unfold splitSign
    split
    · next h => exact absurd (hdigit h) (by decide)
    · next h => exact absurd (hdigit h) (by decide)
    · rfl
  have hlt : n.toNat < Nat.pow 2 64 := n.toNat_lt
  rw [unsigned?, integer?, String.toList_ofList, hsign]
  simp [magnitude?_toDigits, hlt]

end Yaml

/-! ## Spellings -/

namespace Setting

/-- A visible character or a space that stands for itself between double quotes, and that no
placeholder starts with. -/
structure IsLiteral (x : Char) : Prop where
  printable : Yaml.IsPrintable x
  ne_quote : x ≠ '"'
  ne_backslash : x ≠ '\\'
  ne_dollar : x ≠ '$'

instance (x : Char) : Decidable (IsLiteral x) :=
  decidable_of_iff (Yaml.IsPrintable x ∧ x ≠ '"' ∧ x ≠ '\\' ∧ x ≠ '$')
    ⟨fun ⟨h, hquote, hbackslash, hdollar⟩ => ⟨h, hquote, hbackslash, hdollar⟩,
      fun ⟨h, hquote, hbackslash, hdollar⟩ => ⟨h, hquote, hbackslash, hdollar⟩⟩

theorem IsLiteral.of_isSimple {x : Char} (hx : Yaml.isSimple x = true) : IsLiteral x :=
  ⟨Yaml.isPrintable_of_isSimple hx, Yaml.ne_of_isSimple hx (by decide),
    Yaml.ne_of_isSimple hx (by decide), Yaml.ne_of_isSimple hx (by decide)⟩

/-- A text that is written as it stands. -/
def IsLiteralText (s : String) : Prop := ∀ x ∈ s.toList, IsLiteral x

instance (s : String) : Decidable (IsLiteralText s) := List.decidableBAll IsLiteral s.toList

/-- The ways to write the value of a setting: texts as they stand between double quotes, choices by
one of their names, with or without quotes, and numbers in decimal digits. The last argument says
whether there are quotes. -/
inductive Spelled : Setting → List Char → Bool → Prop
  | url {s : String} (hs : IsLiteralText s) : Spelled (.url s) s.toList true
  | groupId {s : String} (hs : IsLiteralText s) : Spelled (.groupId s) s.toList true
  | useId {name : String} {u : UseId} (hname : (name, u) ∈ UseId.spellings) (quoted : Bool) :
    Spelled (.useId u) name.toList quoted
  | idEncoding {name : String} {e : IdEncoding} (hname : (name, e) ∈ IdEncoding.spellings)
    (quoted : Bool) : Spelled (.idEncoding e) name.toList quoted
  | maxAgeSecs (n : UInt64) : Spelled (.maxAgeSecs n) (Nat.toDigits 10 n.toNat) false
  | retryInitialDelayMs (n : UInt64) :
    Spelled (.retryInitialDelayMs n) (Nat.toDigits 10 n.toNat) false
  | requestTimeoutMs (n : UInt64) : Spelled (.requestTimeoutMs n) (Nat.toDigits 10 n.toNat) false
  | cacheCapacity (n : UInt64) : Spelled (.cacheCapacity n) (Nat.toDigits 10 n.toNat) false

end Setting

namespace Config

open Yaml

theorem choose_of_mem {α : Type} {choices : List (String × α)} {name : String} {a : α}
    (path : Option String) (hnames : (choices.map Prod.fst).Nodup) (h : (name, a) ∈ choices) :
    choose choices path name = .ok a := by
  have hlookup : choices.lookup name = some a := by
    induction choices with
    | nil => cases h
    | cons e choices ih =>
      rw [List.map_cons, List.nodup_cons] at hnames
      obtain rfl | h := List.mem_cons.1 h
      · exact List.lookup_cons_self
      · have hne : name ≠ e.1 := by
          rintro rfl
          exact hnames.1 (List.mem_map.2 ⟨(e.1, a), h, rfl⟩)
        rw [List.lookup_cons, beq_false_of_ne hne]
        exact ih hnames.2 h
  rw [choose, hlookup]

theorem readUnsigned_toDigits (expected path : String) (n : UInt64) :
    readUnsigned expected path (.scalar none (String.ofList (Nat.toDigits 10 n.toNat)) .plain) =
      .ok n := by
  simp [readUnsigned, mayBeInteger, unsigned?_toDigits]

/-- **A value is read back**, however it is written. -/
theorem readSetting_of_spelled {s : Setting} {text : List Char} {quoted : Bool}
    (hs : s.Spelled text quoted) (path : String) :
    readSetting s.field path (.scalar none (String.ofList text)
      (if quoted then .doubleQuoted else .plain)) = .ok s := by
  cases hs with
  | url hs | groupId hs => simp [Setting.field, readSetting, readText]
  | useId hname quoted =>
    have hread := choose_of_mem (some path) (by decide) hname
    simp [Setting.field, readSetting, readChoice, tagName?, hread]
  | idEncoding hname quoted =>
    have hread := choose_of_mem (some path) (by decide) hname
    simp [Setting.field, readSetting, readChoice, tagName?, hread]
  | maxAgeSecs n | retryInitialDelayMs n | requestTimeoutMs n | cacheCapacity n =>
    simp [Setting.field, readSetting, readUnsigned_toDigits]

/-! ## Lines -/

/-- A setting as it is written, in one of its ways; `quoted` tells whether the value stands between
double quotes. -/
structure Entry where
  setting : Setting
  text : List Char
  quoted : Bool
  spelled : setting.Spelled text quoted

namespace Entry

def field (e : Entry) : Field := e.setting.field

/-- The line of a setting: the name of its field and its value. -/
def line (e : Entry) : Line := ⟨e.field.name.toList, e.text, e.quoted⟩

variable {x : Char}

theorem isWord_name (f : Field) : IsWord f.name.toList := by
  cases f <;> decide

theorem isWord_spelling : (∀ p ∈ UseId.spellings, IsWord p.1.toList) ∧
    ∀ p ∈ IdEncoding.spellings, IsWord p.1.toList := by
  decide

theorem length_name_le (f : Field) : f.name.toList.length ≤ 1024 := by
  cases f <;> decide

theorem isWord_toDigits (n : Nat) : IsWord (Nat.toDigits 10 n) := by
  refine ⟨Nat.toDigits_ne_nil, fun x hx => ?_⟩
  have hdigit := Nat.isDigit_of_mem_toDigits (by decide) (by decide) hx
  simp [isSimple, Char.isAlphanum, hdigit]

/-- A value is written in literal characters, and it is a word where it has no quotes. -/
theorem text_spec (e : Entry) :
    (∀ x ∈ e.text, Setting.IsLiteral x) ∧ (e.quoted = false → IsWord e.text) := by
  have hword : ∀ {s}, IsWord s → ∀ x ∈ s, Setting.IsLiteral x := fun hs x hx =>
    .of_isSimple (hs.simple x hx)
  obtain ⟨s, text, quoted, hs⟩ := e
  cases hs with
  | url hs | groupId hs => exact ⟨hs, nofun⟩
  | useId hname quoted =>
    have hname := isWord_spelling.1 _ hname
    exact ⟨hword hname, fun _ => hname⟩
  | idEncoding hname quoted =>
    have hname := isWord_spelling.2 _ hname
    exact ⟨hword hname, fun _ => hname⟩
  | maxAgeSecs n | retryInitialDelayMs n | requestTimeoutMs n | cacheCapacity n =>
    exact ⟨hword (isWord_toDigits _), fun _ => isWord_toDigits _⟩

theorem legible_line (e : Entry) : e.line.Legible := by
  obtain ⟨hliteral, hword⟩ := e.text_spec
  refine ⟨isWord_name _, length_name_le _, ?_⟩
  split_ifs with hquoted
  · intro x hx
    obtain ⟨hprintable, hquote, hbackslash, -⟩ := hliteral x hx
    exact ⟨hquote, hbackslash, isBreak_of_isPrintable hprintable⟩
  · exact hword (Bool.eq_false_iff.2 hquoted)

theorem of_mem_written (e : Entry) (hx : x ∈ e.line.written) :
    x = '"' ∨ Setting.IsLiteral x := by
  have hvalue : x ∈ e.line.value → x = '"' ∨ x ∈ e.text := by
    intro h
    rw [Line.value] at h
    split_ifs at h
    · obtain h | h | h : x = '"' ∨ x ∈ e.text ∨ x = '"' := by simpa [line] using h
      · exact .inl h
      · exact .inr h
      · exact .inl h
    · exact .inr h
  obtain h | rfl | rfl | h : x ∈ e.field.name.toList ∨ x = ':' ∨ x = ' ' ∨ x ∈ e.line.value := by
    simpa [Line.written, line] using hx
  · exact .inr (.of_isSimple ((isWord_name e.field).simple x h))
  · decide
  · decide
  · exact (hvalue h).imp id (e.text_spec.1 x)

end Entry

/-- Settings one below the other, each on a line of its own. The last line end may be missing. -/
def written (closed : Bool) (es : List Entry) : String :=
  String.ofList (document closed (es.map Entry.line))

/-- The events of a setting: the name of its field and its value. -/
def Entry.events (e : Entry) : List Yaml.Event :=
  [.scalar none e.field.name .plain,
    .scalar none (String.ofList e.text) (if e.quoted then .doubleQuoted else .plain)]

theorem Entry.events_line (e : Entry) : e.line.events = e.events := by
  rw [Line.events, Entry.events, Entry.line, String.ofList_toList, Line.style]

/-- **Written settings are a mapping** from the names of the fields to the values, whatever the
variables are. -/
theorem read_written (env : String → Option String) (closed : Bool) {es : List Entry}
    (hes : es ≠ []) :
    Document.read (Placeholder.expand env (written closed es).toList) =
      ⟨.mappingStart none :: es.flatMap Entry.events ++ [.mappingEnd], .none, true⟩ := by
  have hchar : ∀ x ∈ document closed (es.map Entry.line), isAllowed x = true ∧ x ≠ '$' := by
    intro x hx
    obtain rfl | ⟨l, hl, hx⟩ := of_mem_document hx
    · decide
    · obtain ⟨e, -, rfl⟩ := List.mem_map.1 hl
      obtain rfl | h := e.of_mem_written hx
      · decide
      · exact ⟨isAllowed_of_isPrintable h.printable, h.ne_dollar⟩
  have hplain : Placeholder.expand env (document closed (es.map Entry.line)) =
      document closed (es.map Entry.line) := by
    have hnone : '$' ∉ document closed (es.map Entry.line) := fun h => (hchar _ h).2 rfl
    have hexpand := Placeholder.expand_append_of_plain env hnone []
    rwa [Placeholder.expand_nil, List.append_nil] at hexpand
  obtain ⟨e, es, rfl⟩ := List.exists_cons_of_ne_nil hes
  have hlegible : ∀ l ∈ (e :: es).map Entry.line, l.Legible := by
    intro l hl
    obtain ⟨e, -, rfl⟩ := List.mem_map.1 hl
    exact e.legible_line
  rw [written, String.toList_ofList, hplain, List.map_cons,
    Document.read_document closed e.line (es.map Entry.line) hlegible fun x hx => (hchar x hx).1,
    ← List.map_cons, List.flatMap_map]
  simp only [Entry.events_line]

end Config

end SchemaCatalog
