import Lockstep.Proofs.Datum.RoundTrip

/-!
# Variants and fields that are left out

A variant is told by the text under its tag, wherever its fields come (`Datum.variant?_variant`).
A field without a value is not written at all, so the names that a record was written with are some
of those it is read by (`Datum.fields?_of_sublist`), and what is not found has no value
(`Fields.defaulted_optionalField`).

The lemmas about fields are tagged for `simp`, so that it finds a record again field by field.
-/

set_option autoImplicit false

namespace Lockstep

namespace Datum

/-! ## Variants -/

/-- Fields with other names than the tag are the content of a variant. -/
theorem labelled?_variant {tag name : String} {fields : List (String × Datum)}
    (apart : tag ∉ fields.map Prod.fst) :
    (variant tag name fields).labelled? tag = some (.text name, record fields) := by
  have other : ∀ entry ∈ fields.map fun field => (Datum.text field.1, field.2),
      entry.1.isKey tag = false := by
    intro entry member
    obtain ⟨field, present, rfl⟩ := List.mem_map.mp member
    exact beq_eq_false_iff_ne.mpr fun same => apart (same ▸ List.mem_map_of_mem present)
  have content : (fields.map fun field => (Datum.text field.1, field.2)).filter
      (fun entry => !entry.1.isKey tag) = fields.map fun field => (Datum.text field.1, field.2) :=
    List.filter_eq_self.mpr fun entry member => congrArg not (other entry member)
  have label : (fields.map fun field => (Datum.text field.1, field.2)).filter
      (fun entry => entry.1.isKey tag) = [] :=
    List.filter_eq_nil_iff.mpr fun entry member => ne_true_of_eq_false (other entry member)
  have key : (Datum.text tag).isKey tag = true := beq_self_eq_true tag
  simp only [variant, record, labelled?, List.map_cons, List.filter_cons, key, label, content]
  rfl

/-- A variant is read with the name and the fields that it was written with. -/
@[simp]
theorem variant?_variant (encoding : Encoding) {tag name : String} {names : List String}
    {fields : List (String × Datum)} (listed : name ∈ names) (apart : tag ∉ fields.map Prod.fst)
    (readable : (record fields).isReadable = true) :
    (variant tag name fields).variant? encoding tag names = some (name, record fields) := by
  rw [variant?, labelled?_variant apart]
  simp only [Option.bind_eq_bind, Option.bind_some, variantName?, find?_listed listed, readable,
    if_true]

attribute [simp] fields?_record

/-! ## Fields that are left out -/

/-- A record may be written without some of the fields that it is read with. -/
theorem fields?_of_sublist (encoding : Encoding) {names : List String}
    {fields : List (String × Datum)} (written : (fields.map Prod.fst).Sublist names)
    (distinct : names.Nodup) :
    (record fields).fields? encoding names = some ⟨encoding, false, fields.reverse⟩ := by
  have collected := collectFields?_map encoding names fields []
    (fun field member => written.subset (List.mem_map_of_mem member)) (distinct.sublist written)
    (by simp)
  rw [record, fields?, collected, List.append_nil, Option.map_some]

theorem map_fst_optionalField_sublist {α : Type} (name : String) (write : α → Datum)
    (value : Option α) : ((optionalField name write value).map Prod.fst).Sublist [name] := by
  cases value with
  | none => exact List.nil_sublist _
  | some value => exact List.Sublist.refl _

@[simp]
theorem reverse_optionalField {α : Type} (name : String) (write : α → Datum) (value : Option α) :
    (optionalField name write value).reverse = optionalField name write value := by
  cases value <;> rfl

end Datum

namespace Fields

attribute [simp] find?_there required_here required_there

variable {encoding : Encoding} {positional : Bool} {rest : List (String × Datum)} {datum : Datum}
  {other name : String}

@[simp]
theorem find?_nil (name : String) : Fields.find? ⟨encoding, positional, []⟩ name = none := rfl

/-- A field with another name that may be left out is passed over. -/
@[simp]
theorem find?_past {α : Type} {write : α → Datum} {value : Option α} (apart : other ≠ name) :
    Fields.find? ⟨encoding, positional, Datum.optionalField other write value ++ rest⟩ name =
      Fields.find? ⟨encoding, positional, rest⟩ name := by
  cases value with
  | none => rfl
  | some value => exact find?_there apart

variable {α β : Type} [Written α]

@[simp]
theorem required_past {write : β → Datum} {value : Option β} (apart : other ≠ name) :
    (Fields.required ⟨encoding, positional, Datum.optionalField other write value ++ rest⟩ name :
        Option α) =
      Fields.required ⟨encoding, positional, rest⟩ name := by
  rw [required, find?_past apart]
  rfl

@[simp]
theorem defaulted_here [LawfulWritten α] (value default : α) :
    Fields.defaulted ⟨encoding, positional, (name, Written.write value) :: rest⟩ name default =
      some value := by
  rw [defaulted, find?_here]
  exact LawfulWritten.read_write encoding value

@[simp]
theorem defaulted_there (apart : other ≠ name) (default : α) :
    Fields.defaulted ⟨encoding, positional, (other, datum) :: rest⟩ name default =
      Fields.defaulted ⟨encoding, positional, rest⟩ name default := by
  rw [defaulted, find?_there apart]
  rfl

@[simp]
theorem defaulted_past {write : β → Datum} {value : Option β} (apart : other ≠ name)
    (default : α) :
    Fields.defaulted ⟨encoding, positional, Datum.optionalField other write value ++ rest⟩ name
        default =
      Fields.defaulted ⟨encoding, positional, rest⟩ name default := by
  rw [defaulted, find?_past apart]
  rfl

/-- A field that is left out when it has no value is read as it was written. -/
@[simp]
theorem defaulted_optionalField [LawfulWritten α] [NeverNull α]
    (absent : Fields.find? ⟨encoding, positional, rest⟩ name = none) (value : Option α) :
    Fields.defaulted ⟨encoding, positional, Datum.optionalField name Written.write value ++ rest⟩
      name none = some value := by
  cases value with
  | none =>
    have nothing : Datum.optionalField name Written.write (none : Option α) ++ rest = rest := rfl
    rw [nothing, defaulted, absent]
  | some value => exact defaulted_here (some value) none

end Fields
end Lockstep
