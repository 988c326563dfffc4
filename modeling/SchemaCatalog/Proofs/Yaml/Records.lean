import SchemaCatalog.Yaml.Document
import SchemaCatalog.Proofs.Yaml.Lines

/-!
# Documents of lines

* `Line.events`: the events of a line.
* `EventReader.run_line`: the tokens of a line are read as its events, in four steps.
* **`Document.read_document`**: the document in a text of lines is a mapping with one key for each.
-/

namespace SchemaCatalog.Yaml

def Line.events (l : Line) : List Event :=
  [.scalar none (String.ofList l.key) .plain, .scalar none (String.ofList l.text) l.style]

theorem length_flatMap_tokens (ls : List Line) :
    (ls.flatMap Line.tokens).length = 4 * ls.length := by
  induction ls with
  | nil => rfl
  | cons l ls ih =>
    rw [List.flatMap_cons, List.length_append, ih, List.length_cons, Line.tokens]
    simp only [List.length_cons, List.length_nil]
    omega

namespace EventReader

variable {r : EventReader} {fuel : Nat} {ts : List Token} {frames : List Frame} {E : Array Event}
  {handles : List (String × String)}

/-- The state in a mapping, where a key or the end is expected. -/
def inMapping (handles : List (String × String)) (ts : List Token) (E : Array Event) :
    EventReader :=
  ⟨handles, [.blockKey], ts, E, .none⟩

theorem run_of_step {r' : EventReader} (hframes : r.frames.isEmpty = false)
    (hstep : r.step = some r') : run (fuel + 1) r = run fuel r' := by
  rw [run, hframes, hstep]
  rfl

/-- A line is read in four steps: the mark of the key, the key, the mark of the value, the value. -/
theorem run_line (l : Line) :
    run (fuel + 4) (inMapping handles (l.tokens ++ ts) E) =
      run fuel (inMapping handles ts (E ++ l.events.toArray)) := by
  have hevents : E ++ l.events.toArray =
      (E.push (.scalar none (String.ofList l.key) .plain)).push
        (.scalar none (String.ofList l.text) l.style) := by
    apply Array.toList_inj.1
    simp [Line.events]
  rw [run_of_step rfl rfl, run_of_step rfl rfl, run_of_step rfl rfl, run_of_step rfl rfl, hevents]
  rfl

theorem run_lines (ls : List Line) :
    run (fuel + 4 * ls.length) (inMapping handles (ls.flatMap Line.tokens ++ ts) E) =
      run fuel (inMapping handles ts (E ++ (ls.flatMap Line.events).toArray)) := by
  induction ls generalizing E with
  | nil => simp
  | cons l ls ih =>
    have hfuel : fuel + 4 * (l :: ls).length = fuel + 4 * ls.length + 4 := by
      rw [List.length_cons]
      omega
    rw [hfuel, List.flatMap_cons, List.append_assoc, run_line, ih, List.flatMap_cons]
    simp

theorem run_end :
    run (fuel + 2) (inMapping handles (.blockEnd :: ts) E) =
      (⟨handles, [], ts, E.push .mappingEnd, .none⟩, true) := by
  rw [run_of_step rfl rfl, run]
  rfl

end EventReader

namespace Document

/-- **A text of lines is a mapping with a key for each line**, and it holds nothing else. -/
theorem read_document (closed : Bool) (l : Line) (ls : List Line) (hls : ∀ l' ∈ l :: ls, l'.Legible)
    (hallowed : ∀ x ∈ document closed (l :: ls), isAllowed x = true) :
    read (document closed (l :: ls)) =
      ⟨.mappingStart none :: (l :: ls).flatMap Line.events ++ [.mappingEnd], .none, true⟩ := by
  have htokens := tokens_document l ls hls hallowed
  generalize l :: ls = lines at htokens ⊢
  let ts : List Token :=
    .blockMappingStart :: (lines.flatMap Line.tokens ++ [.blockEnd, .streamEnd])
  have hfuel : 8 * ts.length + 8 = 28 * lines.length + 29 + 2 + 4 * lines.length + 1 := by
    have hlength : (lines.flatMap Line.tokens).length = 4 * lines.length :=
      length_flatMap_tokens lines
    simp only [ts, List.length_cons, List.length_append, List.length_nil, hlength]
    omega
  have hrun : EventReader.run (8 * ts.length + 8) ⟨defaultHandles, [.node true false], ts, #[],
      .none⟩ = (⟨defaultHandles, [], [.streamEnd],
        (#[Event.mappingStart none] ++ (lines.flatMap Line.events).toArray).push .mappingEnd,
          .none⟩, true) := by
    rw [hfuel, EventReader.run_of_step rfl rfl]
    exact (EventReader.run_lines lines).trans EventReader.run_end
  have hroot : readRoot defaultHandles ts =
      ⟨.mappingStart none :: lines.flatMap Line.events ++ [.mappingEnd], .none, true⟩ := by
    rw [readRoot, hrun]
    simp [endsText]
  rw [read, htokens]
  exact hroot

end Document

end SchemaCatalog.Yaml
