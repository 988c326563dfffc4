/-!
# YAML tokens

* `Yaml.Token`: the marks and texts into which a YAML text is cut. Block structure shows as start
  and end tokens, which come from indentation.
-/

namespace SchemaCatalog.Yaml

/-- How a scalar is written: without quotes, in one of two kinds of quotes, or as a block that keeps
its line ends or folds them. -/
inductive Style
  | plain
  | singleQuoted
  | doubleQuoted
  | literal
  | folded
  deriving DecidableEq, Repr

/-- A token. Lists and mappings begin and end by indentation (`block`) or by brackets and braces
(`flow`). A document starts with three dashes and ends with three points. A directive gives the
version, or a short handle for the front part of tags. -/
inductive Token
  | streamStart
  | streamEnd
  | versionDirective (major minor : Nat)
  | tagDirective (handle front : String)
  | documentStart
  | documentEnd
  | blockSequenceStart
  | blockMappingStart
  | blockEnd
  | flowSequenceStart
  | flowSequenceEnd
  | flowMappingStart
  | flowMappingEnd
  | blockEntry
  | flowEntry
  | key
  | value
  | alias (name : String)
  | anchor (name : String)
  | tag (handle suffix : String)
  | scalar (text : String) (style : Style)
  deriving DecidableEq, Repr

end SchemaCatalog.Yaml
