/-!
# Texts as bytes

* `Text.utf8`: the UTF-8 bytes of a text.
* `Text.ofUtf8?`: the text that given bytes spell, if they are well formed.
-/

namespace SchemaCatalog.Text

def utf8 (s : String) : List UInt8 :=
  s.toList.flatMap String.utf8EncodeChar

/-- The text whose UTF-8 bytes are `bs`; surrogates, overlong forms and cut-off sequences spell
none. -/
def ofUtf8? (bs : List UInt8) : Option String :=
  String.fromUTF8? ⟨bs.toArray⟩

theorem utf8_append (s t : String) : utf8 (s ++ t) = utf8 s ++ utf8 t := by
  simp [utf8]

@[simp] theorem utf8_empty : utf8 "" = [] := by
  simp [utf8]

end SchemaCatalog.Text
