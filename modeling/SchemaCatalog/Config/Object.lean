import SchemaCatalog.Config.Basic
import SchemaCatalog.Json.Basic

/-!
# Configurations as JSON

* `Config.toJson`: all fields as an object.
* `Config.ofJson?`: the configuration that an object holds. Unknown members are passed over.
-/

namespace SchemaCatalog.Config

/-- The form of a configuration as an object. -/
def toJson (c : Config) : Json :=
  .object [
    (Field.url.name, .string c.url),
    (Field.groupId.name, .string c.groupId),
    (Field.useId.name, .string c.useId.memberName),
    (Field.idEncoding.name, .string c.idEncoding.name),
    (Field.maxAgeSecs.name, .number (.natural c.maxAgeSecs)),
    (Field.retryInitialDelayMs.name, .number (.natural c.retryInitialDelayMs)),
    (Field.requestTimeoutMs.name, .number (.natural c.requestTimeoutMs)),
    (Field.cacheCapacity.name, .number (.natural c.cacheCapacity))]

/-- The name of a choice: a text, or the only member of an object if it holds nothing. -/
def choiceName? : Json → Option String
  | .string s => some s
  | .object ((name, v) :: rest) =>
    if rest.all fun m => m.1 == name then
      match Json.lookupLast name ((name, v) :: rest) with
      | some .null => some name
      | _ => none
    else none
  | _ => none

def choice? {α : Type} (choices : List (String × α)) (j : Json) : Option α :=
  (choiceName? j).bind fun s => choices.lookup s

/-- A member as the setting of a field. -/
def setting? (f : Field) (j : Json) : Option Setting :=
  match f with
  | .url => j.asString?.map .url
  | .groupId => j.asString?.map .groupId
  | .useId => (choice? UseId.spellings j).map .useId
  | .idEncoding => (choice? IdEncoding.spellings j).map .idEncoding
  | .maxAgeSecs => j.asUInt64?.map .maxAgeSecs
  | .retryInitialDelayMs => j.asUInt64?.map .retryInitialDelayMs
  | .requestTimeoutMs => j.asUInt64?.map .requestTimeoutMs
  | .cacheCapacity => j.asUInt64?.map .cacheCapacity

/-- The configuration that an object holds. -/
def ofJson? (j : Json) : Option Config :=
  match j with
  | .object _ => do
    let found := Field.all.filterMap fun f => (j.member? f.name).map fun v => (f, v)
    ofSettings? (← found.mapM fun m => setting? m.1 m.2)
  | _ => none

end SchemaCatalog.Config
