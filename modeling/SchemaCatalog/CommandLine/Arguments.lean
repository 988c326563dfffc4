/-!
# Arguments of a command

A command has options with a value each, some flags, and some arguments without a name. Two dashes
on their own end the options.

* `Arguments.Spec`: what a command takes.
* `Arguments.read`: sorts the words after a command.
* `Arguments.Stop`: why no command is run.
-/

namespace SchemaCatalog.Arguments

/-- Why no command is run: the words do not fit, or help or the version is asked for. -/
inductive Stop
  | misused
  | help
  | version
  deriving DecidableEq, Repr

/-- An option with a value: its name after two dashes, its letter after one, and whether a text may
be the value. -/
structure OptionSpec where
  long : String
  short : Option Char
  accepts : String → Bool

/-- What a command takes: options with a value, whether the version can be asked for, the number of
arguments without a name, and the commands below it. -/
structure Spec where
  options : List OptionSpec
  hasVersion : Bool
  positionals : Nat
  commands : List String

/-- The words after a command, sorted: the values of its options, the arguments without a name, and
a command below it with the words after that. -/
structure Found where
  values : List (String × String)
  positionals : List String
  command : Option (String × List String)
  deriving DecidableEq, Repr

namespace Found

def empty : Found := ⟨[], [], none⟩

def value? (f : Found) (long : String) : Option String := f.values.lookup long

end Found

/-! ## One word -/

/-- What a word is: two dashes on their own, a name after two dashes, with a value after an equals
sign, a letter after one dash with what follows it, or anything else. -/
inductive Word
  | separator
  | long (name : String) (value : Option String)
  | short (letter : Char) (rest : List Char)
  | plain
  deriving DecidableEq, Repr

def Word.ofText (s : String) : Word :=
  match s.toList with
  | ['-', '-'] => separator
  | '-' :: '-' :: cs =>
    let value := (cs.dropWhile (· ≠ '=')).drop 1
    long (String.ofList (cs.takeWhile (· ≠ '=')))
      (if cs.contains '=' then some (String.ofList value) else none)
  | '-' :: c :: cs => short c cs
  | _ => plain

/-- The value that is written together with a letter; an equals sign in front does not belong to
it. -/
def attached? : List Char → Option String
  | [] => none
  | '=' :: cs => some (String.ofList cs)
  | cs => some (String.ofList cs)

/-! ## All words -/

/-- Takes the value of an option, which may be there once. -/
def store (f : Found) (o : OptionSpec) (value : String) : Except Stop Found :=
  if (f.value? o.long).isSome ∨ o.accepts value = false then .error .misused
  else .ok { f with values := f.values ++ [(o.long, value)] }

/-- Takes arguments without a name. -/
def storePositionals (spec : Spec) (f : Found) (words : List String) : Except Stop Found :=
  let positionals := f.positionals ++ words
  if spec.positionals < positionals.length then .error .misused else .ok { f with positionals }

/-- What a name after two dashes asks for: an option, or an end. -/
def longOption (spec : Spec) (name : String) (value : Option String) : Except Stop OptionSpec :=
  match spec.options.find? fun o => o.long == name with
  | some o => .ok o
  | none =>
    if value.isSome then .error .misused
    else if name = "help" then .error .help
    else if name = "version" ∧ spec.hasVersion then .error .version
    else .error .misused

/-- What a letter after one dash asks for: an option, or an end. -/
def shortOption (spec : Spec) (letter : Char) : Except Stop OptionSpec :=
  match spec.options.find? fun o => o.short == some letter with
  | some o => .ok o
  | none =>
    if letter = 'h' then .error .help
    else if letter = 'V' ∧ spec.hasVersion then .error .version
    else .error .misused

/-- Sorts words. `awaiting` is an option whose value has to come next; it must not look like an
option. -/
def readFrom (spec : Spec) (f : Found) (awaiting : Option OptionSpec) :
    List String → Except Stop Found
  | [] => if awaiting.isSome then .error .misused else .ok f
  | w :: ws =>
    match awaiting, Word.ofText w with
    | some o, .plain => do readFrom spec (← store f o w) none ws
    | some _, _ => .error .misused
    | none, .separator => storePositionals spec f ws
    | none, .long name value => do
      let o ← longOption spec name value
      match value with
      | some v => readFrom spec (← store f o v) none ws
      | none => readFrom spec f (some o) ws
    | none, .short letter rest => do
      let o ← shortOption spec letter
      match attached? rest with
      | some v => readFrom spec (← store f o v) none ws
      | none => readFrom spec f (some o) ws
    | none, .plain =>
      if spec.commands.contains w then .ok { f with command := some (w, ws) }
      else do readFrom spec (← storePositionals spec f [w]) none ws

/-- Sorts the words after a command. -/
def read (spec : Spec) (words : List String) : Except Stop Found := readFrom spec .empty none words

end SchemaCatalog.Arguments
