import SchemaCatalog.CommandLine.Run
import SchemaCatalog.Proofs.Envelope.Reading
import SchemaCatalog.Proofs.Text.Decimal
import SchemaCatalog.Proofs.Text.Hex
import Mathlib.Data.List.TakeWhile

/-!
# What is told about a record

* `Hex.Padded`: the digits of a byte string with blanks around them. `Hex.decode_padded`: they are
  read back.
* `Command.ofWords_inspect`: the words that ask about a record.
* `Report`: what is told. `Report.text_injective`: it can be read back from its text.
* `Report.Describes`: an envelope is told of if there is one, and no byte is lost.
  `Command.describes_report`: that is what is told of a record.
* **`CommandLine.inspect_reports`**: what is told is what was framed.
-/

namespace SchemaCatalog

/-! ## Blanks around digits -/

namespace Text

variable {ws cs vs : List Char}

theorem dropWhile_isBlank_append (hws : ∀ c ∈ ws, isBlank c = true)
    (hcs : ∀ c ∈ cs, isBlank c = false) (hne : cs ≠ []) :
    (ws ++ cs ++ vs).dropWhile isBlank = cs ++ vs := by
  rw [List.append_assoc, List.dropWhile_append_of_pos hws]
  cases cs with
  | nil => exact absurd rfl hne
  | cons c cs => simp [hcs c List.mem_cons_self]

theorem trimmed_ofList (hws : ∀ c ∈ ws, isBlank c = true) (hcs : ∀ c ∈ cs, isBlank c = false)
    (hvs : ∀ c ∈ vs, isBlank c = true) :
    trimmed (String.ofList (ws ++ cs ++ vs)) = String.ofList cs := by
  unfold trimmed
  rw [String.toList_ofList]
  by_cases h : cs = []
  · have hblank : ∀ c ∈ ws ++ vs, isBlank c = true := List.forall_mem_append.2 ⟨hws, hvs⟩
    subst h
    rw [List.append_nil, List.dropWhile_eq_nil_iff.2 hblank]
    rfl
  · have hback : ∀ c ∈ vs.reverse, isBlank c = true := fun c hc => hvs c (List.mem_reverse.1 hc)
    have hdigits : ∀ c ∈ cs.reverse, isBlank c = false := fun c hc => hcs c (List.mem_reverse.1 hc)
    have hend : (vs.reverse ++ cs.reverse ++ []).dropWhile isBlank = cs.reverse ++ [] :=
      dropWhile_isBlank_append hback hdigits (by simpa using h)
    rw [List.append_nil, List.append_nil] at hend
    rw [dropWhile_isBlank_append hws hcs h, List.reverse_append, hend, List.reverse_reverse]

theorem exists_trimmed (s : String) :
    ∃ ws vs : List Char, (∀ c ∈ ws ++ vs, isBlank c = true) ∧
      s = String.ofList (ws ++ (trimmed s).toList ++ vs) := by
  refine ⟨s.toList.takeWhile isBlank, ((s.toList.dropWhile isBlank).reverse.takeWhile isBlank).reverse,
    ?_, ?_⟩
  · rw [List.forall_mem_append]
    refine ⟨fun c => List.mem_takeWhile_imp, fun c hc => ?_⟩
    exact List.mem_takeWhile_imp (List.mem_reverse.1 hc)
  · rw [trimmed, String.toList_ofList, List.append_assoc, ← List.reverse_append,
      List.takeWhile_append_dropWhile, List.reverse_reverse, List.takeWhile_append_dropWhile,
      String.ofList_toList]

end Text

namespace Hex

/-- A text that spells bytes, with any blanks around the digits. -/
def Padded (record : String) (b : List UInt8) : Prop :=
  ∃ ws cs vs : List Char, (∀ c ∈ ws ++ vs, Text.isBlank c = true) ∧ Spells cs b ∧
    record = String.ofList (ws ++ cs ++ vs)

variable {record : String} {b : List UInt8} {c : Char}

theorem IsDigit.isBlank_eq_false (h : IsDigit c) : Text.isBlank c = false := by
  have hall : "0123456789abcdefABCDEF".toList.all (fun c => !Text.isBlank c) = true := by decide
  simpa using List.all_eq_true.1 hall c h

theorem trimmed_of_spells {ws cs vs : List Char} (hblank : ∀ c ∈ ws ++ vs, Text.isBlank c = true)
    (h : Spells cs b) : Text.trimmed (String.ofList (ws ++ cs ++ vs)) = String.ofList cs := by
  rw [List.forall_mem_append] at hblank
  exact Text.trimmed_ofList hblank.1 (fun c hc => (h.isText.2 c hc).isBlank_eq_false) hblank.2

theorem decode_padded (h : Padded record b) : decode (Text.utf8 (Text.trimmed record)) = .ok b := by
  obtain ⟨ws, cs, vs, hblank, hspells, rfl⟩ := h
  rw [trimmed_of_spells hblank hspells, decode_of_spells hspells]

/-- Such a text spells bytes exactly if an even number of digits is left of it. -/
theorem exists_padded_iff : (∃ b, Padded record b) ↔ IsText (Text.trimmed record).toList := by
  constructor
  · rintro ⟨b, ws, cs, vs, hblank, hspells, rfl⟩
    rw [trimmed_of_spells hblank hspells, String.toList_ofList]
    exact hspells.isText
  · intro h
    obtain ⟨b, hspells⟩ := exists_spells h
    obtain ⟨ws, vs, hblank, hrecord⟩ := Text.exists_trimmed record
    exact ⟨b, ws, (Text.trimmed record).toList, vs, hblank, hspells, hrecord⟩

theorem Padded.head?_ne (h : Padded record b) : record.toList.head? ≠ some '-' := by
  obtain ⟨ws, cs, vs, hblank, hspells, rfl⟩ := h
  have hdash : Text.isBlank '-' = false := by decide
  rw [String.toList_ofList]
  intro hhead
  have hmem := List.mem_of_head? hhead
  rw [List.mem_append, List.mem_append] at hmem
  rcases hmem with (hc | hc) | hc
  · simp [hblank '-' (List.mem_append_left vs hc)] at hdash
  · exact absurd (hspells.isText.2 '-' hc) (by decide)
  · simp [hblank '-' (List.mem_append_right ws hc)] at hdash

end Hex

/-! ## The words -/

namespace Arguments

variable {spec : Spec} {f : Found} {o : OptionSpec} {w : String} {ws : List String}

theorem Word.ofText_of_head? (h : w.toList.head? ≠ some '-') : Word.ofText w = .plain := by
  unfold Word.ofText
  split
  · next hw => simp [hw] at h
  · next hw => simp [hw] at h
  · next hw => simp [hw] at h
  · rfl

theorem readFrom_command (hw : Word.ofText w = .plain) (hcommand : w ∈ spec.commands) :
    readFrom spec f none (w :: ws) = .ok { f with command := some (w, ws) } := by
  simp only [readFrom, hw, List.contains_iff_mem, hcommand, if_true]

theorem readFrom_long (hw : Word.ofText w = .long o.long none)
    (ho : spec.options.find? (·.long == o.long) = some o) :
    readFrom spec f none (w :: ws) = readFrom spec f (some o) ws := by
  simp only [readFrom, hw, longOption, ho]
  rfl

theorem readFrom_value (hw : Word.ofText w = .plain) (hnew : f.value? o.long = none)
    (haccepts : o.accepts w = true) :
    readFrom spec f (some o) (w :: ws) =
      readFrom spec { f with values := f.values ++ [(o.long, w)] } none ws := by
  simp only [readFrom, hw, store, hnew, haccepts]
  rfl

theorem readFrom_positional (hw : Word.ofText w = .plain) (hcommand : w ∉ spec.commands)
    (hroom : f.positionals.length < spec.positionals) :
    readFrom spec f none (w :: ws) =
      readFrom spec { f with positionals := f.positionals ++ [w] } none ws := by
  have hfits : ¬ spec.positionals < (f.positionals ++ [w]).length := by
    rw [List.length_append, List.length_singleton]
    omega
  simp only [readFrom, hw, List.contains_iff_mem, hcommand, if_false, storePositionals, hfits]
  rfl

end Arguments

theorem IdEncoding.eq_of_ofVariant? {s : String} {e : IdEncoding} (h : ofVariant? s = some e) :
    s = e.name := by
  unfold ofVariant? spellings at h
  simp only [List.lookup_cons, List.lookup_nil] at h
  split at h
  · next hs => cases h; exact eq_of_beq hs
  · split at h
    · next hs => cases h; exact eq_of_beq hs
    · cases h

theorem IdEncoding.head?_ne_of_ofText? {s : String} {e : IdEncoding} (h : ofText? s = some e) :
    s.toList.head? ≠ some '-' := by
  have hname : '-' ∉ e.name.toList := by cases e <;> decide
  have hlower := congrArg String.toList (eq_of_ofVariant? h)
  rw [String.toList_ofList] at hlower
  intro hhead
  have hmem := List.mem_map_of_mem (f := Char.toLower) (List.mem_of_head? hhead)
  rw [hlower] at hmem
  exact hname hmem

namespace Command

open Arguments

/-- The encoding, in any letter case, and any record that does not look like an option reach the
command. -/
theorem ofWords_inspect {name record : String} {e : IdEncoding}
    (hname : IdEncoding.ofText? name = some e) (hrecord : record.toList.head? ≠ some '-') :
    ofWords ["inspect", "--encoding", name, record] = .ok (.inspect e record) := by
  have hcommand : Word.ofText "inspect" = .plain := by decide
  have hoption : Word.ofText "--encoding" = .long encoding.long none := by decide
  have hplain := Word.ofText_of_head? (IdEncoding.head?_ne_of_ofText? hname)
  have hdigits := Word.ofText_of_head? hrecord
  have hfound : Arguments.read ⟨[encoding, logLevel], false, 1, []⟩ ["--encoding", name, record] =
      .ok ⟨[(encoding.long, name)], [record], none⟩ := by
    have haccepts : encoding.accepts name = true := by simp [encoding, hname]
    unfold Arguments.read
    rw [readFrom_long hoption rfl, readFrom_value hplain rfl haccepts,
      readFrom_positional hdigits (by simp) (by exact Nat.zero_lt_one)]
    rfl
  unfold ofWords Arguments.read
  rw [readFrom_command hcommand (by decide)]
  show ofNamed "inspect" ["--encoding", name, record] = _
  simp only [ofNamed, hfound]
  show Except.ok (inspect (((some name).bind IdEncoding.ofText?).getD .wide) record) = _
  rw [Option.bind_some, hname, Option.getD_some]

end Command

/-! ## What is told -/

/-- What is told about a record: the id and the length of the envelope, if there is one, and the
length of the payload. -/
structure Report where
  envelope : Option (SchemaId × Nat)
  payload : Nat
  deriving DecidableEq

namespace Report

/-- The lines that tell of an envelope, or that there is none. -/
def envelopeLines : Option (SchemaId × Nat) → List String
  | some (id, n) => ["schema id:      " ++ id.text, "envelope bytes: " ++ toString n]
  | none => ["schema id:      none"]

def lines (r : Report) : List String :=
  envelopeLines r.envelope ++ ["payload bytes:  " ++ toString r.payload]

/-- What is printed: each line with a newline behind it. -/
def text (r : Report) : String := String.join (r.lines.map (· ++ "\n"))

theorem newline_notMem_append {label : String} (h : '\n' ∉ label.toList) (n : Nat) :
    '\n' ∉ (label ++ toString n).toList := by
  rw [String.toList_append, List.mem_append, not_or]
  exact ⟨h, fun hn => absurd (Text.isDigit_of_mem_toString hn) (by decide)⟩

theorem newline_notMem_of_mem_lines (r : Report) : ∀ l ∈ r.lines, '\n' ∉ l.toList := by
  have hnone : '\n' ∉ "schema id:      none".toList := by decide
  rcases r with ⟨_ | ⟨id, n⟩, payload⟩ <;>
    simp only [lines, envelopeLines, List.cons_append, List.nil_append, List.forall_mem_cons]
  · exact ⟨hnone, newline_notMem_append (by decide) payload, nofun⟩
  · exact ⟨newline_notMem_append (by decide) id.val.toNat, newline_notMem_append (by decide) n,
      newline_notMem_append (by decide) payload, nofun⟩

theorem toList_join_newlines (ls : List String) :
    (String.join (ls.map (· ++ "\n"))).toList =
      ['\n'].intercalate (ls.map String.toList ++ [[]]) := by
  rw [String.toList_join]
  induction ls with
  | nil => rfl
  | cons l ls ih =>
    rw [List.map_cons, List.flatMap_cons, ih, List.map_cons, List.cons_append,
      List.intercalate_cons_of_ne_nil (by simp), String.toList_append]
    rfl

/-- The lines are found again at the newlines. -/
theorem splitOn_text (r : Report) :
    r.text.toList.splitOn '\n' = r.lines.map String.toList ++ [[]] := by
  rw [text, toList_join_newlines]
  refine List.splitOn_intercalate '\n' ?_ (by simp)
  simp only [List.forall_mem_append, List.forall_mem_map, List.forall_mem_singleton]
  exact ⟨r.newline_notMem_of_mem_lines, List.not_mem_nil⟩

theorem lines_injective : Function.Injective lines := by
  rintro ⟨_ | ⟨id, n⟩, payload⟩ ⟨_ | ⟨id', n'⟩, payload'⟩ h <;>
    simp only [lines, envelopeLines, List.cons_append, List.nil_append, List.cons.injEq,
      String.append_right_inj, true_and, and_true, reduceCtorEq, and_false] at h
  · rw [Text.toString_injective h]
  · obtain ⟨hid, hn, hpayload⟩ := h
    rw [SchemaId.text_injective hid, Text.toString_injective hn, Text.toString_injective hpayload]

/-- **What is told can be read back** from its text. -/
theorem text_injective : Function.Injective text := by
  intro r r' h
  have hsplit := congrArg (fun s : String => s.toList.splitOn '\n') h
  simp only [splitOn_text, List.append_left_inj] at hsplit
  exact lines_injective ((List.map_inj_right fun s t => String.toList_inj.1).1 hsplit)

/-- The report of an envelope if there is one, and of every byte behind it. -/
structure Describes (e : IdEncoding) (b : List UInt8) (r : Report) : Prop where
  envelope : r.envelope = (Envelope.split e b).1.map fun id => (id, Envelope.length e)
  total : (r.envelope.elim 0 Prod.snd) + r.payload = b.length

end Report

namespace Command

def report (e : IdEncoding) (b : List UInt8) : Report where
  envelope := (Envelope.split e b).1.map fun id => (id, Envelope.length e)
  payload := (Envelope.split e b).2.length

theorem inspectText_eq (e : IdEncoding) (b : List UInt8) : inspectText e b = (report e b).text := by
  unfold inspectText report
  rcases Envelope.split e b with ⟨_ | id, payload⟩ <;>
    simp [← String.toList_inj, Report.text, Report.lines, Report.envelopeLines, String.join, toString]

theorem describes_report (e : IdEncoding) (b : List UInt8) : (report e b).Describes e b where
  envelope := rfl
  total := by
    unfold report
    cases h : Envelope.split e b with
    | mk id payload =>
      cases id with
      | none =>
        rw [Envelope.eq_of_split_none h]
        simp
      | some id =>
        obtain ⟨field, whole, rfl, rfl⟩ := Envelope.exists_field_of_split h
        simp [Envelope.length, whole]
        omega

variable {e : IdEncoding} {record : String} {b : List UInt8}

theorem runInspect_padded (h : Hex.Padded record b) :
    runInspect e record = ⟨0, (report e b).text, ""⟩ := by
  simp only [runInspect, Hex.decode_padded h, inspectText_eq, Outcome.success]

theorem runInspect_of_not_isText (h : ¬ Hex.IsText (Text.trimmed record).toList) :
    (runInspect e record).exit = 1 ∧ (runInspect e record).stdout = "" := by
  cases hdecode : Hex.decode (Text.utf8 (Text.trimmed record)) with
  | ok b => exact absurd (Hex.isText_of_decode hdecode) h
  | error err => simp only [runInspect, hdecode, Outcome.failure, and_self]

theorem report_header (id : SchemaId) (payload : List UInt8) :
    report e (Envelope.header e id ++ payload) =
      ⟨some (id, Envelope.length e), payload.length⟩ := by
  simp only [report, Envelope.split_header, Option.map_some]

end Command

/-- **What is told is what was framed.** Any name of an encoding reaches the command, together with
any record that does not look like an option; digits with blanks around them never do. For the
digits of a byte string, in either case, it tells of an envelope exactly if the reader finds one,
with its id and length, and of all other bytes as payload; its text says nothing else. For a record
that the writer produced these are the id, the length of an envelope and the length of the encoder's
bytes. Digits in an even number are all that it reads: it fails on anything else and prints
nothing. -/
theorem CommandLine.inspect_reports (env : String → Option String)
    (content : String → Config.FileContent) (registry : Registry) :
    (∀ name e record, IdEncoding.ofText? name = some e → record.toList.head? ≠ some '-' →
      Command.ofWords ["inspect", "--encoding", name, record] = .ok (.inspect e record)) ∧
    (∀ record b, Hex.Padded record b → record.toList.head? ≠ some '-') ∧
    ∀ words e record, Command.ofWords words = .ok (.inspect e record) →
      ((∃ b, Hex.Padded record b) ↔ Hex.IsText (Text.trimmed record).toList) ∧
      (∀ b, Hex.Padded record b → ∃ r : Report, r.Describes e b ∧
        (∀ r' : Report, r'.text = r.text → r' = r) ∧
        CommandLine.run env content registry words = ⟨0, r.text, ""⟩) ∧
      (∀ traceId streamId id value sink encoder out n,
        Envelope.encode e traceId streamId id value sink encoder = ⟨sink ++ out, .ok n⟩ →
        Hex.Padded record out →
        CommandLine.run env content registry words =
          ⟨0, Report.text ⟨some (id, Envelope.length e),
            (encoder ⟨traceId, streamId, id⟩ value).bytes.length⟩, ""⟩) ∧
      (¬ Hex.IsText (Text.trimmed record).toList →
        (CommandLine.run env content registry words).exit = 1 ∧
        (CommandLine.run env content registry words).stdout = "") := by
  refine ⟨fun name e record => Command.ofWords_inspect, fun record b => Hex.Padded.head?_ne, ?_⟩
  intro words e record hwords
  have hrun : CommandLine.run env content registry words = Command.runInspect e record := by
    simp only [CommandLine.run, hwords, Command.run]
  rw [hrun]
  refine ⟨Hex.exists_padded_iff, ?_, ?_, Command.runInspect_of_not_isText⟩
  · intro b hrecord
    exact ⟨Command.report e b, Command.describes_report e b, fun r' h => Report.text_injective h,
      Command.runInspect_padded hrecord⟩
  · intro traceId streamId id value sink encoder out n hencode hrecord
    rw [Command.runInspect_padded hrecord, Envelope.eq_of_encode hencode, Command.report_header]

/-- Letters of either case, and blanks on both sides. -/
example : Command.runInspect .legacy " 000000002aFf\t" =
    ⟨0, "schema id:      42\nenvelope bytes: 5\npayload bytes:  1\n", ""⟩ := by
  decide

end SchemaCatalog
