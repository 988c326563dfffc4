import SchemaCatalog.SchemaId

/-!
# Decimal numbers are read back

* `Text.isDigit_of_mem_toString`: a number is written in digits.
* `Text.toString_injective`, `SchemaId.text_injective`: no two numbers are written alike.
-/

namespace SchemaCatalog

theorem Text.isDigit_of_mem_toString {n : Nat} {c : Char} (h : c ∈ (toString n).toList) :
    c.isDigit = true := by
  rw [Nat.toString_eq_ofList_toDigits, String.toList_ofList] at h
  exact Nat.isDigit_of_mem_toDigits (by decide) (by decide) h

theorem Text.toString_injective {m n : Nat} (h : toString m = toString n) : m = n := by
  have hdigits := congrArg (fun s : String => Nat.ofDigitChars 10 s.toList 0) h
  simpa only [Nat.toString_eq_ofList_toDigits, String.toList_ofList,
    Nat.ofDigitChars_ten_toDigits] using hdigits

theorem SchemaId.text_injective {id id' : SchemaId} (h : id.text = id'.text) : id = id' :=
  congrArg SchemaId.mk (UInt32.toNat_inj.1 (Text.toString_injective h))

end SchemaCatalog
