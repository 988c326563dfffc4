import SchemaCatalog.CommandLine.Run

/-!
# The program

Reads the file that the command names and the variables that it mentions, and runs the command. The
program has no connection to a registry, so that every request fails.
-/

open SchemaCatalog

/-- What stands at a path. -/
def contentAt (path : String) : IO Config.FileContent := do
  match ← (IO.FS.readBinFile path).toBaseIO with
  | .ok bs => return .bytes bs.toList
  | .error (.inappropriateType _ _ _) => return .directory
  | .error _ => return .missing

/-- The variables that a file mentions, as far as they are set. -/
def variablesIn (content : Config.FileContent) : IO (List (String × String)) := do
  match content with
  | .bytes bs =>
    let names := Placeholder.names (((Text.ofUtf8? bs).map String.toList).getD [])
    names.filterMapM fun name => do
      return (← IO.getEnv name).map fun v => (name, v)
  | _ => return []

def main (words : List String) : IO UInt32 := do
  let file := (Command.ofWords words).toOption.bind Command.file?
  let content ←
    match file with
    | some path => contentAt path
    | none => pure .missing
  let known ← variablesIn content
  let outcome := CommandLine.run (fun name => known.lookup name) (fun _ => content) .empty words
  IO.print outcome.stdout
  IO.eprint outcome.stderr
  return outcome.exit.toUInt32
